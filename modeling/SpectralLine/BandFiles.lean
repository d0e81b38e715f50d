import SpectralLine.BandNames

set_option autoImplicit false

namespace SpectralLine

open StatusCalls Checked

section

variable {F : Type}

theorem write_cells_frame (row start : Nat) (values : List (FitsValue F)) (file : FitsFile F) (disk : List (List Byte)) :
    ∃ later, (writeCells row start values).foldl (fun world call => call.apply world) ⟨some file, disk⟩ = ⟨some later, disk⟩ ∧
      later.keys = file.keys ∧ later.vectorLen = file.vectorLen ∧
      later.rows = if values.isEmpty then file.rows else max file.rows row := by
  induction values generalizing start file with
  | nil => exact ⟨file, rfl, rfl, rfl, rfl⟩
  | cons value rest ih =>
      obtain ⟨later, run, keys, lengths, rows⟩ := ih (start + 1) (file.writeCol start row value)
      refine ⟨later, run, keys, lengths, ?_⟩
      have grown : (file.writeCol start row value).rows = max file.rows row := rfl
      rw [rows, grown]
      split
      · rfl
      · exact max_eq_left (le_max_right _ _)

theorem row_calls_frame (env : WriterEnv F) (hdr : HdrInfo F) (columns : DataColumns F) (row : Nat) (file : FitsFile F)
    (disk : List (List Byte)) :
    ∃ later, (rowCalls env hdr columns row).foldl (fun world call => call.apply world) ⟨some file, disk⟩ = ⟨some later, disk⟩ ∧
      later.keys = file.keys ∧ later.vectorLen = file.vectorLen ∧ later.rows = max file.rows row := by
  obtain ⟨later, run, keys, lengths, rows⟩ := write_cells_frame row 1 (rowCells env hdr columns) file disk
  refine ⟨later, ?_, keys, lengths, rows⟩
  rw [rowCalls, List.foldl_append, run]
  by_cases eighth : row % 8 = 0
  · rw [if_pos eighth]
    rfl
  · rw [if_neg eighth]
    rfl

end

section

variable {F : Type} (env : WriterEnv F) (cfg : GlobalConfig F) (m : SkyMetadata F)

-- What a reader finds beside the rows.
structure TableOf (band : PackedSpectrumHeader) (count : Nat) (file : FitsFile F) : Prop where
  rows : file.rows = count
  cards : ∀ card ∈ readCards (preparedWriter env cfg m band).hdr, file.keys .singleDish card.1 = some card.2
  length : file.vectorLen 20 = 4 * band.nChannels.toInt

-- The writer of a band that has met no fault.
structure BandFile (band : PackedSpectrumHeader) (writer : Sdfits F) (jobs : List SdfitsRow) : Prop where
  ready : writer.status = 0
  opened : OpenWriter env cfg band m writer jobs
  table : ∃ file, writer.fptr = some file ∧ TableOf env cfg m band jobs.length file

variable (faults : Nat → Option Fault)

theorem band_file_row (band : PackedSpectrumHeader) (writer : Sdfits F) (jobs : List SdfitsRow)
    (holds : BandFile env cfg m band writer jobs) (job : SdfitsRow) (member : InBand band job.header) (disk : List (List Byte))
    (calls : Nat) (clear : Clear faults calls (rowCallCount writer.rownum)) :
    BandFile env cfg m band (rowDone (rowResult env faults writer job disk calls)) (jobs ++ [job]) := by
  obtain ⟨_, status, stored, _⟩ := row_outcome env cfg faults band m writer jobs holds.opened job member disk calls
  have ready := status.mpr ⟨holds.ready, clear⟩
  refine ⟨ready, stored ready, ?_⟩
  obtain ⟨file, found, table⟩ := holds.table
  obtain ⟨later, run, keys, lengths, rows⟩ := row_calls_frame env writer.hdr
    { jobColumns env writer job with centreFreqIdx := oneSingle } writer.rownum file disk
  rw [← found] at run
  rw [← row_calls_length env writer.hdr { jobColumns env writer job with centreFreqIdx := oneSingle }] at clear
  have pointer : (rowDone (rowResult env faults writer job disk calls)).fptr = some later := by
    have same : (rowDone (rowResult env faults writer job disk calls)).fptr =
        (rowIo env faults writer job disk calls).writer.fptr := by
      simp only [rowDone, rowResult]
      split <;> rfl
    rw [same, rowIo, SdfitsIo.call_all_clear faults _ _ holds.ready clear _ run]
  refine ⟨later, pointer, ?_, fun card listed => ?_, ?_⟩
  · rw [rows, table.rows, holds.opened.row, List.length_append, List.length_singleton]
    exact max_eq_right (Nat.le_succ _)
  · rw [keys]
    exact table.cards card listed
  · rw [lengths]
    exact table.length

theorem setup_keeps_rows (hdr : HdrInfo F) (filename : List Byte) (call : FitsCall F) (member : call ∈ createCalls env hdr filename)
    (world : FitsWorld F) (empty : ∀ file, world.file = some file → file.rows = 0) (file : FitsFile F)
    (opened : (call.apply world).file = some file) : file.rows = 0 := by
  have kept : ∀ change : FitsFile F → FitsFile F, world.file.map change = some file →
      (∀ file, (change file).rows = file.rows) → file.rows = 0 := by
    intro change shown same
    obtain ⟨before, found, rfl⟩ := Option.map_eq_some_iff.mp shown
    rw [same, empty before found]
  rw [create_calls_cons] at member
  rcases List.mem_cons.mp member with rfl | later
  · cases opened
    rfl
  · have only := setup_calls_only env hdr call later
    cases call with
    | createTemplate _ => exact nomatch only
    | writeCol _ _ _ => exact nomatch only
    | closeFile => exact nomatch only
    | movabsHdu => exact kept _ opened fun _ => rfl
    | getSystemTime => exact empty file opened
    | movnamHdu => exact kept _ opened fun _ => rfl
    | updateKey _ _ => exact kept _ opened fun _ => rfl
    | getColnum _ => exact empty file opened
    | modifyVectorLen _ _ => exact kept _ opened fun _ => rfl
    | flushFile => exact empty file opened

theorem band_file_created (header : PackedSpectrumHeader) (opens : Opens env cfg header m) (disk : List (List Byte))
    (free : bandFile env cfg header ∉ disk) (ready : (createIo env cfg faults m header disk).writer.status = 0) :
    BandFile env cfg m header (createIo env cfg faults m header disk).writer [] := by
  have self := in_band_refl header
  refine ⟨ready, create_io_opened env cfg faults header m header self disk ready, ?_⟩
  have short : (startFile (preparedWriter env cfg m header)).filename.length < 210 := band_file_length env cfg header opens.short
  have made := sdfits_create_calls env faults ⟨preparedWriter env cfg m header, disk, 0⟩ short free
  obtain ⟨file, found, cards, length⟩ := created_cards env faults ⟨preparedWriter env cfg m header, disk, 0⟩ rfl (by
    rw [made]
    exact ready)
  rw [made] at found
  have empty := SdfitsIo.call_all_keeps faults (fun world => ∀ file, world.file = some file → file.rows = 0)
    ⟨startFile (preparedWriter env cfg m header), disk, 0⟩ (createCalls env (preparedWriter env cfg m header).hdr (bandFile env cfg header))
    (fun file opened => nomatch opened)
    (setup_keeps_rows env (preparedWriter env cfg m header).hdr (bandFile env cfg header))
  refine ⟨file, found, empty file found, cards, ?_⟩
  obtain ⟨subbands, products, count, _⟩ := prepared_sizes env cfg m header
  rw [length, subbands, products, count, Int.one_mul, Int.mul_comm]

end

instance (band header : PackedSpectrumHeader) : Decidable (InBand band header) :=
  decidable_of_iff (header.subbandId = band.subbandId ∧ header.windowId = band.windowId ∧ header.beamId = band.beamId ∧
      header.startFreqHz = band.startFreqHz ∧ header.channelBwHz = band.channelBwHz ∧ header.nChannels = band.nChannels)
    ⟨fun same => ⟨same.1, same.2.1, same.2.2.1, same.2.2.2.1, same.2.2.2.2.1, same.2.2.2.2.2⟩,
      fun same => ⟨same.subbandId, same.windowId, same.beamId, same.startFreqHz, same.channelBwHz, same.nChannels⟩⟩

-- The jobs of one band among those of all.
def bandJobs (band : PackedSpectrumHeader) (jobs : List FaultyJob) : List SdfitsRow :=
  (jobs.filter fun job => decide (InBand band job.row.header)).map FaultyJob.row

-- No job of the band meets a fault; those of other bands may.
def Unstruck (band : PackedSpectrumHeader) (jobs : List FaultyJob) : Prop :=
  ∀ job ∈ jobs, InBand band job.row.header → ∀ k, job.faults k = none

theorem band_jobs_append (band : PackedSpectrumHeader) (done : List FaultyJob) (job : FaultyJob) :
    bandJobs band (done ++ [job]) = bandJobs band done ++ if InBand band job.row.header then [job.row] else [] := by
  rw [bandJobs, List.filter_append, List.map_append, bandJobs]
  congr 1
  by_cases inside : InBand band job.row.header
  · rw [if_pos inside, List.filter_cons_of_pos (by simpa using inside)]
    rfl
  · rw [if_neg inside, List.filter_cons_of_neg (by simpa using inside)]
    rfl

theorem unstruck_append (band : PackedSpectrumHeader) (done : List FaultyJob) (job : FaultyJob) :
    Unstruck band (done ++ [job]) ↔ Unstruck band done ∧ (InBand band job.row.header → ∀ k, job.faults k = none) := by
  constructor
  · exact fun all => ⟨fun other member => all other (List.mem_append_left _ member),
      all job (List.mem_append_right _ List.mem_cons_self)⟩
  · rintro ⟨before, last⟩ other member
    rcases List.mem_append.mp member with early | late
    · exact before other early
    · rw [List.mem_singleton.mp late]
      exact last

theorem in_band_iff (a b header : PackedSpectrumHeader) (same : InBand a b) : InBand a header ↔ InBand b header :=
  ⟨fun first => in_band_trans b a header (in_band_symm a b same) first, fun second => in_band_trans a b header same second⟩

theorem band_jobs_same (a b : PackedSpectrumHeader) (same : InBand a b) (jobs : List FaultyJob) : bandJobs a jobs = bandJobs b jobs := by
  simp only [bandJobs, in_band_iff a b _ same]

theorem unstruck_same (a b : PackedSpectrumHeader) (same : InBand a b) (jobs : List FaultyJob) : Unstruck a jobs ↔ Unstruck b jobs := by
  simp only [Unstruck, in_band_iff a b _ same]

section

variable {F : Type} (env : WriterEnv F)

theorem find_writer_append (key band : BandKey F) (writer : Sdfits F) (writers : List (BandKey F × Sdfits F)) :
    findWriter env key (writers ++ [(band, writer)]) =
      (findWriter env key writers).or (if BandKey.same env band key then some writer else none) := by
  induction writers with
  | nil => rfl
  | cons entry rest ih =>
      rw [List.cons_append, findWriter, findWriter]
      split
      · rfl
      · exact ih

theorem put_writer_keys (key : BandKey F) (value : Sdfits F) (writers : List (BandKey F × Sdfits F)) :
    (putWriter env key value writers).map Prod.fst = writers.map Prod.fst := by
  induction writers with
  | nil => rfl
  | cons entry rest ih =>
      rw [putWriter]
      split
      · rfl
      · rw [List.map_cons, ih, List.map_cons]

variable (cfg : GlobalConfig F)

-- Headers whose keys and files tell their bands apart.
structure Bands (domain : PackedSpectrumHeader → Prop) : Prop where
  known : ∀ a, domain a → KeyKnown env a
  told : ∀ a b, domain a → domain b →
    InBand a b ∨ bandFile env cfg a ≠ bandFile env cfg b ∧ BandKey.same env (bandKey env a) (bandKey env b) = false

variable {domain : PackedSpectrumHeader → Prop} (bands : Bands env cfg domain)

include bands

theorem key_told (a b : PackedSpectrumHeader) (fromA : domain a) (fromB : domain b) :
    BandKey.same env (bandKey env a) (bandKey env b) = true ↔ InBand a b := by
  constructor
  · intro same
    rcases bands.told a b fromA fromB with inside | apart
    · exact inside
    · rw [apart.2] at same
      cases same
  · intro same
    rw [in_band_key env a b same]
    exact bands.known a fromA

theorem find_writer_put (writers : List (BandKey F × Sdfits F))
    (keys : ∀ entry ∈ writers, ∃ header, domain header ∧ entry.1 = bandKey env header) (a b : PackedSpectrumHeader)
    (fromA : domain a) (fromB : domain b) (value : Sdfits F) :
    findWriter env (bandKey env b) (putWriter env (bandKey env a) value writers) =
      if InBand a b then (findWriter env (bandKey env b) writers).map fun _ => value
      else findWriter env (bandKey env b) writers := by
  induction writers with
  | nil => split <;> rfl
  | cons entry rest ih =>
      obtain ⟨key, writer⟩ := entry
      obtain ⟨header, produced, rfl⟩ := keys (key, writer) List.mem_cons_self
      have later := ih fun other member => keys other (List.mem_cons_of_mem _ member)
      simp only [putWriter, findWriter, key_told env cfg bands header a produced fromA,
        key_told env cfg bands header b produced fromB]
      by_cases here : InBand header a
      · by_cases same : InBand a b
        · have both := in_band_trans header a b here same
          simp only [if_pos here, if_pos same, findWriter, key_told env cfg bands header b produced fromB, if_pos both, Option.map_some]
        · have other : ¬ InBand header b := fun inside => same ((in_band_iff header a b here).mp inside)
          simp only [if_pos here, if_neg same, findWriter, key_told env cfg bands header b produced fromB, if_neg other]
      · simp only [if_neg here, findWriter, key_told env cfg bands header b produced fromB]
        by_cases inside : InBand header b
        · have apart : ¬ InBand a b := fun same => here (in_band_trans header b a inside (in_band_symm a b same))
          simp only [if_pos inside, if_neg apart]
        · simp only [if_neg inside]
          exact later

end

end SpectralLine
