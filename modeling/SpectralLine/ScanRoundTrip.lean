import SpectralLine.ScanReading

set_option autoImplicit false

namespace SpectralLine

open StatusCalls Checked

section

variable {F 𝕜 : Type} [Field 𝕜] [LinearOrder 𝕜] (env : WriterEnv F) (reading : CellReading F 𝕜) (cfg : GlobalConfig F)

-- A file that holds these spectra and nothing else: its integral is theirs, on
-- the frequencies of their headers.
def ReadsBack (band : PackedSpectrumHeader) (jobs : List SdfitsRow) (file : FitsFile F) : Prop :=
  file.rows = jobs.length ∧
    ∀ (path unit : String) (start width : ℚ), reading.number (env.ofBits band.startFreqHz) = some start →
      reading.number (env.ofBits band.channelBwHz) = some width → InHertz unit (start + width * band.nChannels.toNat / 2) →
        integrateFile reading path file 0 { headerFrequencyUnit := unit } =
          if sentWith reading false jobs = [] then .error ("No valid spectra" ++ " with NOISE=0" ++ " found in " ++ path)
          else .ok (sentSpectrum reading env band.nChannels.toNat (sentAxis band.nChannels.toNat start width) jobs)

variable (exact' : ExactReading env reading) (m : SkyMetadata F)

omit [Field 𝕜] [LinearOrder 𝕜] in
theorem dimensions_shown (band : PackedSpectrumHeader) (count : Nat) (file : FitsFile F) (table : TableOf env cfg m band count file)
    (positive : 0 < band.nChannels.toInt) (natural : band.nChannels.toInt = band.nChannels.toNat) :
    spectralDimensions reading.truncate ⟨file.keys .singleDish, templateColumns⟩ = .ok (band.nChannels.toNat, 1, 4) := by
  obtain ⟨subbands, products, channels, _⟩ := prepared_sizes env cfg m band
  have nchanCard := table.cards ("NCHAN", .integer (preparedWriter env cfg m band).hdr.nchan) (by simp [readCards])
  have nsubbandCard := table.cards ("NSUBBAND", .integer (preparedWriter env cfg m band).hdr.nsubband) (by simp [readCards])
  have npolCard := table.cards ("NPOL", .integer (preparedWriter env cfg m band).hdr.npol) (by simp [readCards])
  rw [keyword_dimensions reading.truncate _ _ (preparedWriter env cfg m band).hdr (by rw [products]; decide) (by rw [subbands]; decide)
    (by rw [channels]; exact positive) nchanCard nsubbandCard npolCard, subbands, products, channels, natural]
  rfl

include exact'

theorem band_reads_back (band : PackedSpectrumHeader) (writer : Sdfits F) (jobs : List SdfitsRow)
    (holds : BandFile env cfg m band writer jobs) (members : ∀ job ∈ jobs, InBand band job.header)
    (positive : 0 < band.nChannels.toInt) (natural : band.nChannels.toInt = band.nChannels.toNat)
    (whole : ∀ job ∈ jobs, job.data.length = 4 * band.nChannels.toNat) :
    ∃ file, writer.fptr = some file ∧ ReadsBack env reading band jobs file := by
  obtain ⟨file, found, table⟩ := holds.table
  obtain ⟨other, same, cells⟩ := holds.opened.stored.cells
  obtain rfl : file = other := Option.some.inj (found.symm.trans same)
  refine ⟨file, found, table.rows, fun path unit start width startRead widthRead hertz => ?_⟩
  have rows := rows_shown reading env cfg m band file jobs members (fun job listed => by
    rw [whole job listed, natural]
    push_cast
    rfl) table cells
  have exposed : decide ("EXPOSURE" ∈ templateColumns) = true := by decide
  have noisy : decide ("NOISE" ∈ templateColumns) = true := by decide
  have timed : decide ("TIME" ∈ templateColumns) = true := by decide
  have shown : shownTable reading path file (band.nChannels.toNat, 1, 4) =
      sentTable reading env path (shownHeader reading file) band.nChannels.toNat jobs := by
    rw [shownTable, rows, exposed, noisy, timed]
    rfl
  rw [integrateFile, bind_value _ _ _ (dimensions_shown env reading cfg m band _ file table positive natural), shown]
  exact integrate_sent reading env path _ _ jobs whole _ _
    (axis_shown env reading exact' cfg m band _ file table start width startRead widthRead unit hertz)

-- From the configuration and the jobs of all bands to what is read from the
-- file of each: neither the other bands nor their faults leave a trace in it.
theorem scan_round_trip (config : YamlNode) (accepted : Accepted env.config config cfg) (taken : MetadataTaken env cfg)
    (disk : List (List Byte)) (jobs : List FaultyJob) (produced : ∀ job ∈ jobs, ProducedUnder cfg job.row.header)
    (known : ∀ job ∈ jobs, KeyKnown env job.row.header) (free : ∀ job ∈ jobs, bandFile env cfg job.row.header ∉ disk)
    (whole : ∀ job ∈ jobs, (job.row.data.length : Int) = 4 * cfg.winChannels) :
    ∃ thread, runJobs env cfg ⟨[], disk⟩ jobs = .ok thread ∧
      ∀ job ∈ jobs, ¬ NameTooLong env cfg job.row.header → Unstruck job.row.header jobs →
        ∃ writer file, findWriter env (bandKey env job.row.header) thread.writers = some writer ∧ writer.fptr = some file ∧
          ReadsBack env reading job.row.header (bandJobs job.row.header jobs) file := by
  let domain := fun header => ProducedUnder cfg header ∧ KeyKnown env header ∧ bandFile env cfg header ∉ disk
  have layout := accepted_layout env.config config cfg accepted
  have entries := accepted_bands env.config config cfg accepted
  have bands : Bands env cfg domain :=
    ⟨fun a inside => inside.2.1, fun a b first second => produced_told env cfg entries layout.server a b first.1 second.1⟩
  obtain ⟨m, read⟩ := (read_metadata_succeeds env cfg.sdfitsMetadata (knownMetadata (Sdfits.initial env))).mpr taken.2
  have fresh : Shelved env cfg m domain ⟨[], disk⟩ [] := by
    refine ⟨fun entry member => absurd member List.not_mem_nil, fun band _ writer shown => ?_, fun band inside _ _ _ => ⟨inside.2.2, rfl⟩⟩
    cases shown
  obtain ⟨thread, run, shelved⟩ := shelved_run env cfg m bands taken.1 read jobs
    (fun job member => ⟨produced job member, known job member, free job member⟩) ⟨[], disk⟩ [] fresh
  refine ⟨thread, run, fun job member short unstruck => ?_⟩
  have inside : domain job.row.header := ⟨produced job member, known job member, free job member⟩
  have listed : job.row ∈ bandJobs job.row.header jobs := by
    exact List.mem_map_of_mem (List.mem_filter.mpr ⟨member, decide_eq_true (in_band_refl _)⟩)
  cases found : findWriter env (bandKey env job.row.header) thread.writers with
  | none =>
      have empty := (shelved.unseen _ inside short found unstruck).2
      rw [List.nil_append] at empty
      rw [empty] at listed
      exact absurd listed List.not_mem_nil
  | some writer =>
      obtain ⟨stored, _, kept⟩ := shelved.served _ inside writer found
      obtain ⟨rfl, holds⟩ := kept unstruck
      rw [List.nil_append] at holds
      obtain ⟨value, natural⟩ := produced_channels env cfg layout entries _ inside.1
      have channels := layout.channels
      obtain ⟨file, opened, back⟩ := band_reads_back env reading cfg exact' m job.row.header writer _ holds (fun row inBand => by
        obtain ⟨other, kept, rfl⟩ := List.mem_map.mp inBand
        exact of_decide_eq_true (List.mem_filter.mp kept).2) (by omega) natural (fun row inBand => by
        obtain ⟨other, kept, rfl⟩ := List.mem_map.mp inBand
        have size := whole other (List.mem_filter.mp kept).1
        omega)
      exact ⟨writer, file, rfl, opened, back⟩

end

def plainReading : CellReading ExactDouble ℚ where
  single bits := .finite bits.toInt
  double x := match x with
    | some value => .finite value
    | none => .nan
  number := id
  truncate := wholeNumber

theorem plain_exact : ExactReading plainWriterEnv plainReading where
  lit _ := rfl
  add := by
    rintro x y a b first second
    cases first
    cases second
    rfl
  mul := by
    rintro x y a b first second
    cases first
    cases second
    rfl
  div := by
    rintro x y a b first second nonzero
    cases first
    cases second
    exact if_neg nonzero

-- The same window in the next physical subband.
def nextBand : PackedSpectrumHeader := (((shortObject.subbands.drop 2).head (by decide +kernel)).windows.head (by decide +kernel)).header

def flatData : List (BitVec 32) := List.replicate (4 * 65536) 3

-- One spectrum of a band, between two of another whose file is never opened.
def mixedJobs : List FaultyJob :=
  [⟨⟨nextBand, flatData⟩, fun _ => some ⟨105, true⟩⟩, ⟨⟨shortBand, flatData⟩, fun _ => none⟩,
    ⟨⟨nextBand, flatData⟩, fun _ => none⟩]

theorem scan_round_trip_mixed : ∃ thread, runJobs plainWriterEnv shortObject ⟨[], []⟩ mixedJobs = .ok thread ∧
    ∃ writer file, findWriter plainWriterEnv (bandKey plainWriterEnv shortBand) thread.writers = some writer ∧
      writer.fptr = some file ∧ ReadsBack plainWriterEnv plainReading shortBand [⟨shortBand, flatData⟩] file := by
  have accepted : Accepted plainEnv (localConfig "NGC7027") shortObject := accepted_config _ _ (Option.some_get _).symm
  have taken : MetadataTaken plainWriterEnv shortObject :=
    ⟨short_opens.object, (read_metadata_succeeds plainWriterEnv _ _).mp ⟨_, short_opens.read⟩⟩
  have first : ProducedUnder shortObject shortBand := ⟨_, List.head_mem _, _, List.head_mem _, _, _, _, _, _, _, rfl⟩
  have second : ProducedUnder shortObject nextBand := ⟨_, List.mem_of_mem_drop (List.head_mem _), _, List.head_mem _, _, _, _, _, _, _, rfl⟩
  have nextKnown : KeyKnown plainWriterEnv nextBand := by
    unfold KeyKnown
    decide +kernel
  have channels : shortObject.winChannels = 65536 := by decide +kernel
  have size : (flatData.length : Int) = 4 * shortObject.winChannels := by
    rw [channels, flatData, List.length_replicate]
    rfl
  have apart : ¬ InBand shortBand nextBand := by
    decide +kernel
  obtain ⟨thread, run, held⟩ := scan_round_trip plainWriterEnv plainReading shortObject plain_exact (localConfig "NGC7027") accepted taken []
    mixedJobs (by simp [mixedJobs, first, second]) (by simp [mixedJobs, short_known, nextKnown]) (by simp) (by simp [mixedJobs, size])
  obtain ⟨writer, file, found, opened, back⟩ := held ⟨⟨shortBand, flatData⟩, fun _ => none⟩ (by simp [mixedJobs]) short_opens.short (by
    simp [Unstruck, mixedJobs, apart])
  have own : bandJobs shortBand mixedJobs = [⟨shortBand, flatData⟩] := by
    simp [bandJobs, mixedJobs, apart, short_members]
  rw [own] at back
  exact ⟨thread, run, writer, file, found, opened, back⟩

end SpectralLine
