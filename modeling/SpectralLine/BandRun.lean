import SpectralLine.BandFiles

set_option autoImplicit false

namespace SpectralLine

open StatusCalls Checked

section

variable {F : Type} (env : WriterEnv F) (cfg : GlobalConfig F) (m : SkyMetadata F)

theorem prepared_cards (a b : PackedSpectrumHeader) (same : InBand a b) :
    readCards (preparedWriter env cfg m b).hdr = readCards (preparedWriter env cfg m a).hdr := by
  obtain ⟨subbands, products, count, width, centre⟩ := prepared_sizes env cfg m a
  obtain ⟨subbands', products', count', width', centre'⟩ := prepared_sizes env cfg m b
  simp only [readCards, tdimValue, subbands, products, count, width, centre, subbands', products', count', width', centre',
    same.startFreqHz, same.channelBwHz, same.nChannels]

theorem open_writer_same (a b : PackedSpectrumHeader) (same : InBand a b) (writer : Sdfits F) (jobs : List SdfitsRow)
    (opened : OpenWriter env cfg a m writer jobs) : OpenWriter env cfg b m writer jobs :=
  ⟨opened.stored, opened.steady, opened.row, fun job member => opened.rows job (in_band_trans a b _ same member), opened.fresh⟩

theorem band_file_same (a b : PackedSpectrumHeader) (same : InBand a b) (writer : Sdfits F) (jobs : List SdfitsRow)
    (holds : BandFile env cfg m a writer jobs) : BandFile env cfg m b writer jobs := by
  obtain ⟨file, found, rows, cards, length⟩ := holds.table
  refine ⟨holds.ready, open_writer_same env cfg m a b same writer jobs holds.opened, file, found, rows, ?_, ?_⟩
  · rw [prepared_cards env cfg m a b same]
    exact cards
  · rw [same.nChannels]
    exact length

-- What the thread holds of every band: an open file that only its own faults
-- can spoil, or none and the name still free.
structure Shelved (domain : PackedSpectrumHeader → Prop) (thread : WriterThread F) (done : List FaultyJob) : Prop where
  keys : ∀ entry ∈ thread.writers, ∃ header, domain header ∧ entry.1 = bandKey env header
  served : ∀ band, domain band → ∀ writer, findWriter env (bandKey env band) thread.writers = some writer →
    ∃ stored, OpenWriter env cfg band m writer stored ∧
      (Unstruck band done → stored = bandJobs band done ∧ BandFile env cfg m band writer stored)
  unseen : ∀ band, domain band → ¬ NameTooLong env cfg band → findWriter env (bandKey env band) thread.writers = none →
    Unstruck band done → bandFile env cfg band ∉ thread.disk ∧ bandJobs band done = []

variable {domain : PackedSpectrumHeader → Prop} (bands : Bands env cfg domain)

-- A job of one band adds nothing to another.
theorem other_band (band : PackedSpectrumHeader) (done : List FaultyJob) (job : FaultyJob) (other : ¬ InBand band job.row.header) :
    bandJobs band (done ++ [job]) = bandJobs band done ∧ (Unstruck band (done ++ [job]) ↔ Unstruck band done) := by
  refine ⟨?_, (unstruck_append band done job).trans (and_iff_left fun inside => absurd inside other)⟩
  rw [band_jobs_append, if_neg other, List.append_nil]

-- The writer of a band after one more job of the band.
theorem served_row (band : PackedSpectrumHeader) (writer : Sdfits F) (done : List FaultyJob)
    (served : ∃ stored, OpenWriter env cfg band m writer stored ∧
      (Unstruck band done → stored = bandJobs band done ∧ BandFile env cfg m band writer stored))
    (job : FaultyJob) (member : InBand band job.row.header) (disk : List (List Byte)) (calls : Nat) :
    ∃ stored, OpenWriter env cfg band m (rowDone (rowResult env job.faults writer job.row disk calls)) stored ∧
      (Unstruck band (done ++ [job]) → stored = bandJobs band (done ++ [job]) ∧
        BandFile env cfg m band (rowDone (rowResult env job.faults writer job.row disk calls)) stored) := by
  obtain ⟨stored, opened, kept⟩ := served
  obtain ⟨_, _, fine, failed⟩ := row_outcome env cfg job.faults band m writer stored opened job.row member disk calls
  have clean : Unstruck band (done ++ [job]) → stored ++ [job.row] = bandJobs band (done ++ [job]) ∧
      BandFile env cfg m band (rowDone (rowResult env job.faults writer job.row disk calls)) (stored ++ [job.row]) := by
    intro unstruck
    obtain ⟨before, quiet⟩ := (unstruck_append band done job).mp unstruck
    obtain ⟨same, file⟩ := kept before
    refine ⟨by rw [band_jobs_append, if_pos member, ← same], ?_⟩
    exact band_file_row env cfg m job.faults band writer stored file job.row member disk calls fun k _ => quiet member (calls + k)
  by_cases ready : (rowResult env job.faults writer job.row disk calls).writer.status = 0
  · exact ⟨stored ++ [job.row], fine ready, clean⟩
  · exact ⟨stored, failed ready, fun unstruck => absurd (clean unstruck).2.ready ready⟩

include bands

theorem shelved_row (thread : WriterThread F) (done : List FaultyJob) (shelved : Shelved env cfg m domain thread done)
    (job : FaultyJob) (inside : domain job.row.header) (writer : Sdfits F)
    (found : findWriter env (bandKey env job.row.header) thread.writers = some writer) (calls : Nat) :
    Shelved env cfg m domain (writeRow env job.faults ⟨thread, calls, some writer⟩ writer job.row).thread (done ++ [job]) := by
  obtain ⟨stored, opened, _⟩ := shelved.served job.row.header inside writer found
  obtain ⟨disk, _⟩ := row_outcome env cfg job.faults job.row.header m writer stored opened job.row (in_band_refl _) thread.disk calls
  rw [write_row_done env job.faults thread writer opened.steady job.row calls, disk]
  refine ⟨fun entry listed => ?_, fun band known later shown => ?_, fun band known short none' unstruck => ?_⟩
  · have key := List.mem_map_of_mem (f := Prod.fst) listed
    rw [put_writer_keys] at key
    obtain ⟨before, there, same⟩ := List.mem_map.mp key
    rw [← same]
    exact shelved.keys before there
  · rw [find_writer_put env cfg bands thread.writers shelved.keys job.row.header band inside known] at shown
    by_cases same : InBand job.row.header band
    · have own : findWriter env (bandKey env band) thread.writers = some writer := by
        rw [in_band_key env _ _ same, found]
      rw [if_pos same, own] at shown
      cases shown
      exact served_row env cfg m band writer done (shelved.served band known writer own) job (in_band_symm _ _ same) thread.disk calls
    · rw [if_neg same] at shown
      obtain ⟨jobs, quiet⟩ := other_band band done job fun there => same (in_band_symm _ _ there)
      rw [jobs, quiet]
      exact shelved.served band known later shown
  · rw [find_writer_put env cfg bands thread.writers shelved.keys job.row.header band inside known] at none'
    by_cases same : InBand job.row.header band
    · rw [if_pos same, in_band_key env _ _ same, found] at none'
      cases none'
    · rw [if_neg same] at none'
      obtain ⟨jobs, quiet⟩ := other_band band done job fun there => same (in_band_symm _ _ there)
      rw [jobs]
      exact shelved.unseen band known short none' (quiet.mp unstruck)

theorem other_file (a b : PackedSpectrumHeader) (fromA : domain a) (fromB : domain b) (other : ¬ InBand a b) :
    bandFile env cfg a ≠ bandFile env cfg b :=
  ((bands.told a b fromA fromB).resolve_left other).1

-- A job for which no writer is found or made.
theorem shelved_dropped (thread : WriterThread F) (done : List FaultyJob) (shelved : Shelved env cfg m domain thread done)
    (job : FaultyJob) (inside : domain job.row.header)
    (unserved : findWriter env (bandKey env job.row.header) thread.writers = none) (disk : List (List Byte))
    (names : ∀ name ∈ disk, name ∈ thread.disk ∨ name = bandFile env cfg job.row.header)
    (lost : ¬ NameTooLong env cfg job.row.header → ¬ Unstruck job.row.header (done ++ [job])) :
    Shelved env cfg m domain ⟨thread.writers, disk⟩ (done ++ [job]) := by
  refine ⟨shelved.keys, fun band known writer shown => ?_, fun band known short none' unstruck => ?_⟩
  · have other : ¬ InBand band job.row.header := by
      intro same
      rw [in_band_key env _ _ same, shown] at unserved
      cases unserved
    obtain ⟨jobs, quiet⟩ := other_band band done job other
    rw [jobs, quiet]
    exact shelved.served band known writer shown
  · have other : ¬ InBand band job.row.header := by
      intro same
      have fits : ¬ NameTooLong env cfg job.row.header := by
        rw [NameTooLong, in_band_filename env cfg _ _ same]
        exact short
      exact lost fits ((unstruck_same _ _ same _).mp unstruck)
    obtain ⟨jobs, quiet⟩ := other_band band done job other
    obtain ⟨free, empty⟩ := shelved.unseen band known short none' (quiet.mp unstruck)
    rw [jobs]
    refine ⟨fun taken => ?_, empty⟩
    rcases names _ taken with before | same
    · exact free before
    · exact other_file env cfg bands band job.row.header known inside other same

omit bands in
theorem create_io_names (faults : Nat → Option Fault) (header : PackedSpectrumHeader) (disk : List (List Byte)) (name : List Byte)
    (listed : name ∈ (createIo env cfg faults m header disk).disk) : name ∈ disk ∨ name = bandFile env cfg header := by
  by_cases fails : TemplateFails faults 0
  · rw [((create_io_disk env cfg faults m header disk).1 fails).1] at listed
    exact Or.inl listed
  · have named : (createIo env cfg faults m header disk).disk = bandFile env cfg header :: disk :=
      (template_makes_file env faults ⟨startFile (preparedWriter env cfg m header), disk, 0⟩ (bandFile env cfg header)
        (preparedWriter env cfg m header).hdr rfl fails).2
    rw [named] at listed
    exact (List.mem_cons.mp listed).symm

theorem shelved_created (thread : WriterThread F) (done : List FaultyJob) (shelved : Shelved env cfg m domain thread done)
    (faults : Nat → Option Fault) (header : PackedSpectrumHeader) (inside : domain header) (opens : Opens env cfg header m)
    (free : bandFile env cfg header ∉ thread.disk)
    (ready : (createIo env cfg faults m header thread.disk).writer.status = 0) :
    Shelved env cfg m domain ⟨thread.writers ++ [(bandKey env header, (createIo env cfg faults m header thread.disk).writer)],
      (createIo env cfg faults m header thread.disk).disk⟩ done := by
  have self := in_band_refl header
  refine ⟨fun entry member => ?_, fun band known writer shown => ?_, fun band known short none' unstruck => ?_⟩
  · rcases List.mem_append.mp member with before | new
    · exact shelved.keys entry before
    · rw [List.mem_singleton.mp new]
      exact ⟨header, inside, rfl⟩
  · rw [find_writer_append] at shown
    cases before : findWriter env (bandKey env band) thread.writers with
    | some kept =>
        rw [before, Option.some_or] at shown
        cases shown
        exact shelved.served band known _ before
    | none =>
        rw [before, Option.none_or] at shown
        by_cases same : InBand header band
        · rw [if_pos ((key_told env cfg bands header band inside known).mpr same)] at shown
          cases shown
          have short : ¬ NameTooLong env cfg band := by
            rw [NameTooLong, in_band_filename env cfg _ _ same]
            exact opens.short
          refine ⟨[], open_writer_same env cfg m _ _ same _ _
            (create_io_opened env cfg faults header m header self thread.disk ready), fun unstruck => ?_⟩
          exact ⟨(shelved.unseen band known short before unstruck).2.symm, band_file_same env cfg m _ _ same _ _
            (band_file_created env cfg m faults header opens thread.disk free ready)⟩
        · rw [if_neg fun there => same ((key_told env cfg bands header band inside known).mp there)] at shown
          cases shown
  · rw [find_writer_append, Option.or_eq_none_iff] at none'
    obtain ⟨before, apart⟩ := none'
    have other : ¬ InBand band header := by
      intro same
      rw [if_pos ((key_told env cfg bands header band inside known).mpr (in_band_symm _ _ same))] at apart
      cases apart
    obtain ⟨kept, empty⟩ := shelved.unseen band known short before unstruck
    refine ⟨fun taken => ?_, empty⟩
    rcases create_io_names env cfg m faults header thread.disk _ taken with early | same
    · exact kept early
    · exact other_file env cfg bands band header known inside other same

theorem shelved_step (object : ObjectFits cfg.object)
    (read : readMetadata env cfg.sdfitsMetadata (knownMetadata (Sdfits.initial env)) = .ok m) (thread : WriterThread F)
    (done : List FaultyJob) (shelved : Shelved env cfg m domain thread done) (job : FaultyJob) (inside : domain job.row.header) :
    ∃ outcome, writeJob env job.faults cfg thread job.row = .ok outcome ∧
      Shelved env cfg m domain outcome.thread (done ++ [job]) := by
  have self := in_band_refl job.row.header
  cases found : findWriter env (bandKey env job.row.header) thread.writers with
  | some writer =>
      refine ⟨_, ?_, shelved_row env cfg m bands thread done shelved job inside writer found 0⟩
      rw [writeJob, getOrCreateWriter, found]
      rfl
  | none =>
      by_cases long : NameTooLong env cfg job.row.header
      · refine ⟨⟨thread, 0⟩, ?_, shelved_dropped env cfg m bands thread done shelved job inside found thread.disk
          (fun _ listed => Or.inl listed) fun short => absurd long short⟩
        rw [NameTooLong] at long
        rw [writeJob, getOrCreateWriter, found]
        simp only [if_pos long]
        rfl
      · have opens : Opens env cfg job.row.header m := ⟨long, object, read⟩
        have asked := get_or_create_unseen env cfg job.faults job.row.header m opens job.row.header self thread found
        by_cases taken : bandFile env cfg job.row.header ∈ thread.disk
        · rw [if_pos taken] at asked
          refine ⟨⟨thread, 0⟩, by rw [writeJob, asked]; rfl, shelved_dropped env cfg m bands thread done shelved job inside found
            thread.disk (fun _ listed => Or.inl listed) fun _ unstruck => ?_⟩
          exact (shelved.unseen _ inside long found ((unstruck_append _ done job).mp unstruck).1).1 taken
        · rw [if_neg taken] at asked
          by_cases ready : (createIo env cfg job.faults m job.row.header thread.disk).writer.status = 0
          · simp only [if_neg (not_not.mpr ready)] at asked
            have created := shelved_created env cfg m bands thread done shelved job.faults job.row.header inside opens taken ready
            have here : findWriter env (bandKey env job.row.header)
                (thread.writers ++ [(bandKey env job.row.header,
                  (createIo env cfg job.faults m job.row.header thread.disk).writer)]) =
                some (createIo env cfg job.faults m job.row.header thread.disk).writer := by
              have own : BandKey.same env (bandKey env job.row.header) (bandKey env job.row.header) = true := bands.known _ inside
              rw [find_writer_append, found, Option.none_or, if_pos own]
            refine ⟨_, by rw [writeJob, asked]; rfl, shelved_row env cfg m bands _ done created job inside _ here _⟩
          · simp only [if_pos ready] at asked
            refine ⟨_, by rw [writeJob, asked]; rfl, shelved_dropped env cfg m bands thread done shelved job inside found _
              (create_io_names env cfg m job.faults job.row.header thread.disk) fun _ unstruck => ?_⟩
            have quiet := ((unstruck_append _ done job).mp unstruck).2 self
            exact ready ((create_io_status env cfg job.faults m job.row.header thread.disk).mpr fun k _ => quiet (0 + k))

theorem shelved_run (object : ObjectFits cfg.object)
    (read : readMetadata env cfg.sdfitsMetadata (knownMetadata (Sdfits.initial env)) = .ok m) (jobs : List FaultyJob)
    (produced : ∀ job ∈ jobs, domain job.row.header) (thread : WriterThread F) (done : List FaultyJob)
    (shelved : Shelved env cfg m domain thread done) :
    ∃ last, runJobs env cfg thread jobs = .ok last ∧ Shelved env cfg m domain last (done ++ jobs) := by
  induction jobs generalizing thread done with
  | nil => exact ⟨thread, rfl, by rwa [List.append_nil]⟩
  | cons job rest ih =>
      obtain ⟨outcome, written, next⟩ := shelved_step env cfg m bands object read thread done shelved job
        (produced job List.mem_cons_self)
      obtain ⟨last, run, held⟩ := ih (fun other member => produced other (List.mem_cons_of_mem job member)) outcome.thread _ next
      refine ⟨last, ?_, ?_⟩
      · rw [runJobs, written]
        exact run
      · rwa [List.append_assoc] at held

end

end SpectralLine
