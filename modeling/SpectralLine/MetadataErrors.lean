import SpectralLine.LocalSdfitsWriter

set_option autoImplicit false

namespace SpectralLine

open StatusCalls Checked

section

variable {F : Type} (env : WriterEnv F)

-- A text of sdfits_metadata that fits its 16-byte member.
def TextFits (node : Option YamlNode) : Prop :=
  node.isSome → ∃ value, env.config.yaml.asString node = .ok value ∧ 1 ≤ (stringBytes value).length ∧ (stringBytes value).length ≤ 15

-- A number of sdfits_metadata that converts to a double in its range.
def NumberFits (node : Option YamlNode) (outside : F → Bool) : Prop :=
  node.isSome → ∃ value, env.config.yaml.asDouble node = .ok value ∧ outside value = false

-- The metadata that configure_sdfits_metadata takes.
def MetadataFits : Option YamlNode → Prop
  | none => True
  | some .null => True
  | some (.mapping entries) =>
      TextFits env (YamlNode.find "telescope" entries) ∧ TextFits env (YamlNode.find "instrument" entries) ∧
      NumberFits env (YamlNode.find "site_lon_deg" entries) (beyond env 180) ∧
      NumberFits env (YamlNode.find "site_lat_deg" entries) (beyond env 90) ∧
      NumberFits env (YamlNode.find "site_height_m" entries) (fun height => !env.config.double.isFinite height) ∧
      NumberFits env (YamlNode.find "ra_deg" entries) (raOutside env) ∧
      NumberFits env (YamlNode.find "dec_deg" entries) (beyond env 90)
  | some _ => False

def ObjectFits (object : String) : Prop := (stringBytes object).length ≤ 15

theorem get_entry {T : Type} (entries : List (String × YamlNode)) (key : String) (next : Option YamlNode → Except String T) :
    env.config.yaml.get (some (.mapping entries)) key >>= next = next (YamlNode.find key entries) := rfl

theorem metadata_text_succeeds (entries : List (String × YamlNode)) (key : String) (field : List Byte) :
    Succeeds (metadataText env (some (.mapping entries)) key field) ↔ TextFits env (YamlNode.find key entries) := by
  rw [metadataText, get_entry, TextFits]
  cases YamlNode.find key entries with
  | none => exact ⟨(fun _ given => nomatch given), fun _ => succeeds_ok field⟩
  | some node =>
      refine (succeeds_bind _ _).trans ⟨?_, ?_⟩
      · rintro ⟨value, read, checked⟩ _
        obtain ⟨fits, _⟩ := (succeeds_check _ _ _).mp checked
        obtain ⟨nonempty, short⟩ := not_or.mp fits
        exact ⟨value, read, List.length_pos_iff.mpr (fun empty => nonempty (List.isEmpty_iff.mpr empty)), by omega⟩
      · intro fits
        obtain ⟨value, read, nonempty, short⟩ := fits rfl
        refine ⟨value, read, (succeeds_check _ _ _).mpr ⟨not_or.mpr ⟨?_, by omega⟩, succeeds_ok _⟩⟩
        intro empty
        rw [List.isEmpty_iff.mp empty] at nonempty
        cases nonempty

theorem refuse_given_succeeds (entries : List (String × YamlNode)) (key : String) (bad : Bool) (message : String) :
    Succeeds (refuseGiven env (some (.mapping entries)) key bad message) ↔ ((YamlNode.find key entries).isSome → bad = false) := by
  rw [refuseGiven, get_entry]
  refine (succeeds_refuse _ _).trans ?_
  cases (YamlNode.find key entries).isSome <;> simp

theorem number_read (entries : List (String × YamlNode)) (key : String) (field : F) (outside : F → Bool) :
    (∃ value, env.config.yaml.optional (some (.mapping entries)) key env.config.yaml.asDouble field = .ok value ∧
      ((YamlNode.find key entries).isSome → outside value = false)) ↔ NumberFits env (YamlNode.find key entries) outside := by
  rw [YamlCpp.optional, get_entry, NumberFits]
  cases YamlNode.find key entries with
  | none => exact ⟨(fun _ given => nomatch given), fun _ => ⟨field, rfl, (fun given => nomatch given)⟩⟩
  | some node =>
      constructor
      · rintro ⟨value, read, inside⟩ given
        exact ⟨value, read, inside given⟩
      · intro fits
        obtain ⟨value, read, inside⟩ := fits rfl
        exact ⟨value, read, fun _ => inside⟩

theorem read_metadata_succeeds (sky : Option YamlNode) (known : SkyMetadata F) :
    Succeeds (readMetadata env sky known) ↔ MetadataFits env sky := by
  cases sky with
  | none => exact ⟨fun _ => trivial, fun _ => succeeds_ok known⟩
  | some node =>
      cases node with
      | null => exact ⟨fun _ => trivial, fun _ => succeeds_ok known⟩
      | scalar text => exact ⟨fun succeeds => absurd succeeds (succeeds_error _), fun fits => fits.elim⟩
      | sequence items => exact ⟨fun succeeds => absurd succeeds (succeeds_error _), fun fits => fits.elim⟩
      | mapping entries =>
          refine (succeeds_check _ _ _).trans ⟨?_, ?_⟩
          · rintro ⟨_, succeeds⟩
            obtain ⟨telescope, readTelescope, succeeds⟩ := (succeeds_bind _ _).mp succeeds
            obtain ⟨instrument, readInstrument, succeeds⟩ := (succeeds_bind _ _).mp succeeds
            obtain ⟨siteLon, readLon, succeeds⟩ := (succeeds_bind _ _).mp succeeds
            obtain ⟨siteLat, readLat, succeeds⟩ := (succeeds_bind _ _).mp succeeds
            obtain ⟨siteHeight, readHeight, succeeds⟩ := (succeeds_bind _ _).mp succeeds
            obtain ⟨_, lon, succeeds⟩ := (succeeds_bind _ _).mp succeeds
            obtain ⟨_, lat, succeeds⟩ := (succeeds_bind _ _).mp succeeds
            obtain ⟨_, height, succeeds⟩ := (succeeds_bind _ _).mp succeeds
            obtain ⟨ra, readRa, succeeds⟩ := (succeeds_bind _ _).mp succeeds
            obtain ⟨dec, readDec, succeeds⟩ := (succeeds_bind _ _).mp succeeds
            obtain ⟨_, raChecked, succeeds⟩ := (succeeds_bind _ _).mp succeeds
            obtain ⟨_, decChecked, _⟩ := (succeeds_bind _ _).mp succeeds
            exact ⟨(metadata_text_succeeds env _ _ _).mp ⟨telescope, readTelescope⟩,
              (metadata_text_succeeds env _ _ _).mp ⟨instrument, readInstrument⟩,
              (number_read env _ _ _ _).mp ⟨siteLon, readLon, (refuse_given_succeeds env _ _ _ _).mp ⟨_, lon⟩⟩,
              (number_read env _ _ _ _).mp ⟨siteLat, readLat, (refuse_given_succeeds env _ _ _ _).mp ⟨_, lat⟩⟩,
              (number_read env _ _ _ _).mp ⟨siteHeight, readHeight, (refuse_given_succeeds env _ _ _ _).mp ⟨_, height⟩⟩,
              (number_read env _ _ _ _).mp ⟨ra, readRa, (refuse_given_succeeds env _ _ _ _).mp ⟨_, raChecked⟩⟩,
              (number_read env _ _ _ _).mp ⟨dec, readDec, (refuse_given_succeeds env _ _ _ _).mp ⟨_, decChecked⟩⟩⟩
          · rintro ⟨telescopeFits, instrumentFits, lonFits, latFits, heightFits, raFits, decFits⟩
            obtain ⟨telescope, readTelescope⟩ := (metadata_text_succeeds env entries "telescope" known.telescope).mpr telescopeFits
            obtain ⟨instrument, readInstrument⟩ :=
              (metadata_text_succeeds env entries "instrument" known.instrument).mpr instrumentFits
            obtain ⟨siteLon, readLon, lon⟩ := (number_read env entries "site_lon_deg" known.siteLon _).mpr lonFits
            obtain ⟨siteLat, readLat, lat⟩ := (number_read env entries "site_lat_deg" known.siteLat _).mpr latFits
            obtain ⟨siteHeight, readHeight, height⟩ := (number_read env entries "site_height_m" known.siteHeight _).mpr heightFits
            obtain ⟨ra, readRa, raInside⟩ := (number_read env entries "ra_deg" known.ra _).mpr raFits
            obtain ⟨dec, readDec, decInside⟩ := (number_read env entries "dec_deg" known.dec _).mpr decFits
            obtain ⟨_, lonChecked⟩ := (refuse_given_succeeds env entries _ _ "site_lon_deg must be in [-180,180]").mpr lon
            obtain ⟨_, latChecked⟩ := (refuse_given_succeeds env entries _ _ "site_lat_deg must be in [-90,90]").mpr lat
            obtain ⟨_, heightChecked⟩ := (refuse_given_succeeds env entries _ _ "site_height_m must be finite").mpr height
            obtain ⟨_, raChecked⟩ := (refuse_given_succeeds env entries _ _ "sdfits_metadata.ra_deg must be in [0,360)").mpr raInside
            obtain ⟨_, decChecked⟩ := (refuse_given_succeeds env entries _ _ "sdfits_metadata.dec_deg must be in [-90,90]").mpr decInside
            refine ⟨Bool.false_ne_true, ?_⟩
            refine (succeeds_bind _ _).mpr ⟨telescope, readTelescope, ?_⟩
            refine (succeeds_bind _ _).mpr ⟨instrument, readInstrument, ?_⟩
            refine (succeeds_bind _ _).mpr ⟨siteLon, readLon, ?_⟩
            refine (succeeds_bind _ _).mpr ⟨siteLat, readLat, ?_⟩
            refine (succeeds_bind _ _).mpr ⟨siteHeight, readHeight, ?_⟩
            refine (succeeds_bind _ _).mpr ⟨_, lonChecked, ?_⟩
            refine (succeeds_bind _ _).mpr ⟨_, latChecked, ?_⟩
            refine (succeeds_bind _ _).mpr ⟨_, heightChecked, ?_⟩
            refine (succeeds_bind _ _).mpr ⟨ra, readRa, ?_⟩
            refine (succeeds_bind _ _).mpr ⟨dec, readDec, ?_⟩
            refine (succeeds_bind _ _).mpr ⟨_, raChecked, ?_⟩
            exact (succeeds_bind _ _).mpr ⟨_, decChecked, succeeds_ok _⟩

theorem configure_succeeds (writer : Sdfits F) (sky : Option YamlNode) (object : String) (calMode sourceOn : Bool) :
    Succeeds (configureSdfitsMetadata env writer sky object calMode sourceOn) ↔ ObjectFits object ∧ MetadataFits env sky := by
  refine (succeeds_check _ _ _).trans (and_congr (Nat.not_le.trans Nat.lt_succ_iff) ((succeeds_bind _ _).trans ?_))
  rw [← read_metadata_succeeds env sky]
  exact ⟨fun ⟨known, read, _⟩ => ⟨known, read⟩, fun ⟨known, read⟩ => ⟨known, read, succeeds_ok _⟩⟩

variable (faults : Nat → Option Fault) (cfg : GlobalConfig F)

-- The file name of the band does not fit its buffer.
def NameTooLong (header : PackedSpectrumHeader) : Prop := 200 ≤ (bandFilename env cfg header).length

def MetadataTaken : Prop := ObjectFits cfg.object ∧ MetadataFits env cfg.sdfitsMetadata

theorem create_succeeds (thread : WriterThread F) (header : PackedSpectrumHeader) (dateObs : List Byte) :
    Succeeds (createWriter env faults cfg thread header dateObs) ↔ MetadataTaken env cfg := by
  refine (succeeds_bind _ _).trans ⟨?_, ?_⟩
  · rintro ⟨writer, configured, _⟩
    exact (configure_succeeds env _ _ _ _ _).mp ⟨writer, configured⟩
  · intro taken
    obtain ⟨writer, configured⟩ := (configure_succeeds env (bandWriter env cfg header dateObs) _ _ _ cfg.sourceOn).mpr taken
    refine ⟨writer, configured, ?_⟩
    by_cases failed : (sdfitsCreate env faults ⟨writer, thread.disk, 0⟩).2 ≠ 0
    · simp only [if_pos failed]
      exact succeeds_ok _
    · simp only [if_neg failed]
      exact succeeds_ok _

theorem get_or_create_succeeds (thread : WriterThread F) (header : PackedSpectrumHeader) :
    Succeeds (getOrCreateWriter env faults cfg thread header) ↔
      (findWriter env (bandKey env header) thread.writers).isSome ∨ NameTooLong env cfg header ∨ MetadataTaken env cfg := by
  rw [getOrCreateWriter, NameTooLong]
  cases findWriter env (bandKey env header) thread.writers with
  | some writer => exact ⟨fun _ => Or.inl rfl, fun _ => succeeds_ok _⟩
  | none =>
      obtain ⟨dateObs, formatted⟩ := Option.isSome_iff_exists.mp (format_fits_utc_total header.integrationStartNs)
      simp only [formatted]
      by_cases long : 200 ≤ (bandFilename env cfg header).length
      · rw [if_pos long]
        exact ⟨fun _ => Or.inr (Or.inl long), fun _ => succeeds_ok _⟩
      · rw [if_neg long, create_succeeds env faults cfg thread header dateObs]
        simp [long]

theorem write_job_succeeds (thread : WriterThread F) (job : SdfitsRow) :
    Succeeds (writeJob env faults cfg thread job) ↔ Succeeds (getOrCreateWriter env faults cfg thread job.header) := by
  refine (succeeds_bind _ _).trans ⟨fun ⟨band, created, _⟩ => ⟨band, created⟩, fun ⟨band, created⟩ => ⟨band, created, ?_⟩⟩
  cases band.writer with
  | none => exact succeeds_ok _
  | some writer => exact succeeds_ok _

theorem write_job_no_writer (untaken : ¬ MetadataTaken env cfg) (thread : WriterThread F) (empty : thread.writers = [])
    (job : SdfitsRow) :
    Returns (writeJob env faults cfg thread job) fun outcome => NameTooLong env cfg job.header ∧ outcome.thread.writers = [] := by
  intro outcome written
  have created := (write_job_succeeds env faults cfg thread job).mp ⟨outcome, written⟩
  have allowed := (get_or_create_succeeds env faults cfg thread job.header).mp created
  rw [empty, findWriter] at allowed
  have long : NameTooLong env cfg job.header := by
    rcases allowed with found | tooLong | taken
    · cases found
    · exact tooLong
    · exact absurd taken untaken
  refine ⟨long, ?_⟩
  have wide : 200 ≤ (bandFilename env cfg job.header).length := long
  rw [writeJob, getOrCreateWriter, empty, findWriter, if_pos wide] at written
  cases written
  exact empty

theorem run_jobs_untaken (untaken : ¬ MetadataTaken env cfg) (thread : WriterThread F) (empty : thread.writers = [])
    (jobs : List FaultyJob) :
    Succeeds (runJobs env cfg thread jobs) ↔ ∀ job ∈ jobs, NameTooLong env cfg job.row.header := by
  induction jobs generalizing thread with
  | nil => exact ⟨(fun _ job member => nomatch member), fun _ => succeeds_ok thread⟩
  | cons job rest ih =>
      rw [runJobs, succeeds_bind, List.forall_mem_cons]
      constructor
      · rintro ⟨outcome, written, succeeds⟩
        obtain ⟨long, next⟩ := write_job_no_writer env job.faults cfg untaken thread empty job.row outcome written
        exact ⟨long, (ih outcome.thread next).mp succeeds⟩
      · rintro ⟨long, others⟩
        have allowed := (get_or_create_succeeds env job.faults cfg thread job.row.header).mpr (Or.inr (Or.inl long))
        obtain ⟨outcome, written⟩ := (write_job_succeeds env job.faults cfg thread job.row).mpr allowed
        have next := (write_job_no_writer env job.faults cfg untaken thread empty job.row outcome written).2
        exact ⟨outcome, written, (ih outcome.thread next).mpr others⟩

theorem run_jobs_taken (taken : MetadataTaken env cfg) (thread : WriterThread F) (jobs : List FaultyJob) :
    Succeeds (runJobs env cfg thread jobs) := by
  induction jobs generalizing thread with
  | nil => exact succeeds_ok thread
  | cons job rest ih =>
      have allowed := (get_or_create_succeeds env job.faults cfg thread job.row.header).mpr (Or.inr (Or.inr taken))
      obtain ⟨outcome, written⟩ := (write_job_succeeds env job.faults cfg thread job.row).mpr allowed
      exact (succeeds_bind _ _).mpr ⟨outcome, written, ih outcome.thread⟩

-- A header that send_data enqueues for a window of the configuration.
def ProducedUnder (header : PackedSpectrumHeader) : Prop :=
  ∃ sb ∈ cfg.subbands, ∃ window ∈ sb.windows, ∃ timestampNs integrationStartNs noiseState integrationId pktId totalPkt,
    header = { window.header with timestampNs, integrationStartNs, noiseState, integrationId, pktId, totalPkt }

-- No exception leaves the loop of the worker thread, from its start on.
def ThreadSurvives (disk : List (List Byte)) (jobs : List FaultyJob) : Prop := Succeeds (runJobs env cfg ⟨[], disk⟩ jobs)

theorem writer_thread_survives (disk : List (List Byte)) (jobs : List FaultyJob) :
    ThreadSurvives env cfg disk jobs ↔
      (ObjectFits cfg.object ∧ MetadataFits env cfg.sdfitsMetadata) ∨ ∀ job ∈ jobs, NameTooLong env cfg job.row.header := by
  by_cases taken : MetadataTaken env cfg
  · exact ⟨fun _ => Or.inl taken, fun _ => run_jobs_taken env cfg taken _ jobs⟩
  · refine (run_jobs_untaken env cfg taken ⟨[], disk⟩ rfl jobs).trans ⟨Or.inr, ?_⟩
    rintro (fits | long)
    · exact absurd fits taken
    · exact long

end

def plainWriterEnv : WriterEnv ExactDouble where
  config := plainEnv
  nan := none
  ofBits b := some (b.toInt : ℚ)
  ofFloat b := some (b.toInt : ℚ)
  fixed2 x := match x with
    | some q => decimalInt (⌊q * 100⌋ / 100) ++ [0x2e] ++ padded 2 (⌊q * 100⌋ % 100).toNat
    | none => stringBytes "nan"
  unixNsToMjd b := some (40587 + (b.toNat : ℚ) / 86400000000000)
  systemTime := stringBytes "2026-01-01T00:00:00"

def localConfig (object : String) : YamlNode :=
  plainConfig [("object", .scalar object), ("local_sdfits", .mapping [("enabled", .scalar "true")])]

def longObject : GlobalConfig ExactDouble := (acceptedConfig (localConfig "Sagittarius B2(N)")).get (by decide +kernel)

def longObjectWindow : WindowConfig ExactDouble :=
  (longObject.subbands.head (by decide +kernel)).windows.head (by decide +kernel)

-- The first integration under an object name of 17 bytes.
def firstJob : FaultyJob where
  row := ⟨longObjectWindow.header, []⟩
  faults _ := none

-- Accepted at start-up, thrown by the worker thread.
theorem writer_thread_survives_fails : ¬ ∀ (F : Type) (env : WriterEnv F) (config : YamlNode) (cfg : GlobalConfig F),
    Accepted env.config config cfg → cfg.localSdfitsEnabled = true → ∀ (disk : List (List Byte)) (jobs : List FaultyJob),
      (∀ job ∈ jobs, ProducedUnder cfg job.row.header) → ThreadSurvives env cfg disk jobs := by
  intro always
  have accepted : Accepted plainEnv (localConfig "Sagittarius B2(N)") longObject := accepted_config _ _ (Option.some_get _).symm
  have produced : ProducedUnder longObject firstJob.row.header :=
    ⟨_, List.head_mem _, longObjectWindow, List.head_mem _, _, _, _, _, _, _, rfl⟩
  have survives := always ExactDouble plainWriterEnv _ longObject accepted (by decide +kernel) [] [firstJob]
    (List.forall_mem_singleton.mpr produced)
  have unfit : ¬ ObjectFits longObject.object := by
    unfold ObjectFits
    decide +kernel
  have short : ¬ NameTooLong plainWriterEnv longObject firstJob.row.header := by
    unfold NameTooLong
    decide +kernel
  have untaken : ¬ MetadataTaken plainWriterEnv longObject := fun taken => unfit taken.1
  exact short ((run_jobs_untaken plainWriterEnv longObject untaken ⟨[], []⟩ rfl [firstJob]).mp survives firstJob List.mem_cons_self)

end SpectralLine
