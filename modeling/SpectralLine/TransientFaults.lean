import SpectralLine.SdfitsFaults
import SpectralLine.MetadataErrors

set_option autoImplicit false

namespace SpectralLine

open StatusCalls Checked

section

variable {F : Type} (env : WriterEnv F) (cfg : GlobalConfig F)

-- The headers of one band, by the members of BandKey.
structure InBand (band header : PackedSpectrumHeader) : Prop where
  subbandId : header.subbandId = band.subbandId
  windowId : header.windowId = band.windowId
  beamId : header.beamId = band.beamId
  startFreqHz : header.startFreqHz = band.startFreqHz
  channelBwHz : header.channelBwHz = band.channelBwHz
  nChannels : header.nChannels = band.nChannels

theorem in_band_key (band header : PackedSpectrumHeader) (same : InBand band header) : bandKey env header = bandKey env band := by
  rw [bandKey, bandKey, same.subbandId, same.windowId, same.beamId, same.startFreqHz, same.channelBwHz, same.nChannels]

theorem in_band_filename (band header : PackedSpectrumHeader) (same : InBand band header) :
    bandFilename env cfg header = bandFilename env cfg band := by
  rw [bandFilename, bandFilename, same.subbandId, same.windowId, same.beamId, same.startFreqHz, same.channelBwHz, same.nChannels]

def bandFile (band : PackedSpectrumHeader) : List Byte := filenameStem (bandFilename env cfg band) ++ sdfitsExtension

def preparedWriter (m : SkyMetadata F) (header : PackedSpectrumHeader) : Sdfits F :=
  withMetadata env (bandWriter env cfg header ((formatFitsUtc header.integrationStartNs).getD [])) m cfg.object
    (header.calMode ≠ 0) cfg.sourceOn

def rowOf (m : SkyMetadata F) (job : SdfitsRow) : List (FitsValue F) :=
  let writer := preparedWriter env cfg m job.header
  rowCells env writer.hdr { jobColumns env writer job with centreFreqIdx := oneSingle }

def createCallCount (m : SkyMetadata F) (header : PackedSpectrumHeader) : Nat :=
  (createCalls env (preparedWriter env cfg m header).hdr (bandFile env cfg header)).length

-- The rows of these jobs, in order, and nothing else are in the table and in
-- the counters.
structure StoredRows (m : SkyMetadata F) (writer : Sdfits F) (jobs : List SdfitsRow) : Prop where
  count : writer.totRows = jobs.length
  exposure : writer.t =
    jobs.foldl (fun t job => env.config.double.add t (env.ofFloat job.header.exposure)) (env.config.double.lit 0)
  cells : ∃ file, writer.fptr = some file ∧
    ∀ (i : Nat) (job : SdfitsRow), jobs[i]? = some job → ∀ column, file.cells (i + 1) (column + 1) = (rowOf env cfg m job)[column]?

-- The jobs whose own processing met no fault.
def runTrace : WriterThread F → List SdfitsRow → List FaultyJob → Except String (WriterThread F × List SdfitsRow)
  | thread, clean, [] => .ok (thread, clean)
  | thread, clean, job :: rest => do
      let outcome ← writeJob env job.faults cfg thread job.row
      runTrace outcome.thread (if Clear job.faults 0 outcome.calls then clean ++ [job.row] else clean) rest

theorem run_trace_thread (thread : WriterThread F) (clean : List SdfitsRow) (jobs : List FaultyJob) :
    (runTrace env cfg thread clean jobs).map Prod.fst = runJobs env cfg thread jobs := by
  induction jobs generalizing thread clean with
  | nil => rfl
  | cons job rest ih =>
      rw [runTrace, runJobs]
      cases writeJob env job.faults cfg thread job.row with
      | error failure => rfl
      | ok outcome => exact ih _ _

-- Every job without a fault of its own has its row, numbered in job order, and
-- T is the sum of their exposures.
def Accounted (band : PackedSpectrumHeader) (thread : WriterThread F) (clean : List SdfitsRow) : Prop :=
  match findWriter env (bandKey env band) thread.writers with
  | none => clean = []
  | some writer => ∃ m, readMetadata env cfg.sdfitsMetadata (knownMetadata (Sdfits.initial env)) = .ok m ∧
      StoredRows env cfg m writer clean

-- A fault costs only the row it strikes.
def CostsOnlyTheRow (band : PackedSpectrumHeader) (disk : List (List Byte)) (jobs : List FaultyJob) : Prop :=
  ∃ thread clean, runTrace env cfg ⟨[], disk⟩ [] jobs = .ok (thread, clean) ∧ Accounted env cfg band thread clean

-- Rows from this one on, of which only the last may suffer a fault.
def SparedRows : (row : Nat) → List FaultyJob → Prop
  | _, [] => True
  | row, job :: rest => rest = [] ∨ Clear job.faults 0 (rowCallCount row) ∧ SparedRows (row + 1) rest

-- The same for jobs that still have to open the file; those before it was
-- opened may fail without leaving it behind.
def Spared (m : SkyMetadata F) : List FaultyJob → Prop
  | [] => True
  | job :: rest => rest = [] ∨ (TemplateFails job.faults 0 ∧ Spared m rest) ∨
      (Clear job.faults 0 (createCallCount env cfg m job.row.header + rowCallCount 1) ∧ SparedRows 2 rest)

structure OpenWriter (band : PackedSpectrumHeader) (m : SkyMetadata F) (writer : Sdfits F) (jobs : List SdfitsRow) : Prop where
  stored : StoredRows env cfg m writer jobs
  steady : writer.newFile = false ∧ writer.multifile = false
  row : writer.rownum = jobs.length + 1
  rows : ∀ job : SdfitsRow, InBand band job.header →
    rowCells env writer.hdr { jobColumns env writer job with centreFreqIdx := oneSingle } = rowOf env cfg m job
  fresh : writer.status = 0 → ∀ file, writer.fptr = some file → ∀ r, jobs.length < r → ∀ c, file.cells r c = none

-- Where write_job puts the writer after a row.
def rowDone (done : SdfitsIo F) : Sdfits F :=
  { done.writer with dataColumns := { done.writer.dataColumns with data := [] } }

variable (faults : Nat → Option Fault)

-- The calls of a row, made on the writer with the columns of the job.
def rowIo (writer : Sdfits F) (job : SdfitsRow) (disk : List (List Byte)) (calls : Nat) : SdfitsIo F :=
  let columns := { jobColumns env writer job with centreFreqIdx := oneSingle }
  SdfitsIo.callAll faults ⟨{ writer with dataColumns := columns }, disk, calls⟩ (rowCalls env writer.hdr columns writer.rownum)

def countRow (done : Sdfits F) (job : SdfitsRow) : Sdfits F :=
  { done with
    rownum := done.rownum + 1
    totRows := done.totRows + 1
    n := done.n + 1
    t := env.config.double.add done.t (env.ofFloat job.header.exposure) }

def rowResult (writer : Sdfits F) (job : SdfitsRow) (disk : List (List Byte)) (calls : Nat) : SdfitsIo F :=
  let done := rowIo env faults writer job disk calls
  if done.writer.status = 0 then { done with writer := countRow env done.writer job } else done

theorem write_subint_row (writer : Sdfits F) (steady : writer.newFile = false ∧ writer.multifile = false) (job : SdfitsRow)
    (disk : List (List Byte)) (calls : Nat) :
    (sdfitsWriteSubint env faults ⟨{ writer with dataColumns := jobColumns env writer job }, disk, calls⟩).1 =
      rowResult env faults writer job disk calls := by
  have open' : (writer.newFile || (writer.multifile && decide (writer.rowsPerFile < writer.rownum))) = false := by
    rw [steady.1, steady.2]
    rfl
  rw [sdfitsWriteSubint]
  simp only [open', Bool.false_eq_true, if_false]
  split
  · next ready => exact (if_pos ready).symm
  · next failed => exact (if_neg failed).symm

-- The thread after a job that has a writer.
theorem write_row_done (thread : WriterThread F) (writer : Sdfits F) (steady : writer.newFile = false ∧ writer.multifile = false)
    (job : SdfitsRow) (calls : Nat) :
    writeRow env faults ⟨thread, calls, some writer⟩ writer job =
      ⟨⟨putWriter env (bandKey env job.header) (rowDone (rowResult env faults writer job thread.disk calls)) thread.writers,
        (rowResult env faults writer job thread.disk calls).disk⟩, (rowResult env faults writer job thread.disk calls).calls⟩ := by
  have run := write_subint_row env faults writer steady job thread.disk calls
  simp only [writeRow]
  rw [run]
  rfl

-- A stuck writer only goes through the motions.
theorem stuck_row (writer : Sdfits F) (stuck : writer.status ≠ 0) (job : SdfitsRow) (disk : List (List Byte)) (calls : Nat) :
    rowIo env faults writer job disk calls =
      ⟨{ writer with dataColumns := { jobColumns env writer job with centreFreqIdx := oneSingle } }, disk, calls⟩ :=
  SdfitsIo.call_all_stuck faults _ _ stuck

-- The rows already stored stand, whatever happens to this one.
theorem row_keeps (band : PackedSpectrumHeader) (m : SkyMetadata F) (writer : Sdfits F) (jobs : List SdfitsRow)
    (opened : OpenWriter env cfg band m writer jobs) (job : SdfitsRow) (disk : List (List Byte)) (calls : Nat) :
    StoredRows env cfg m (rowIo env faults writer job disk calls).writer jobs ∧
      (rowIo env faults writer job disk calls).disk = disk := by
  obtain ⟨count, exposure, file, found, cells⟩ := opened.stored
  have start : OtherRows (jobs.length + 1) file.cells disk ⟨writer.fptr, disk⟩ := ⟨⟨file, found, fun r _ => rfl⟩, rfl⟩
  have kept := SdfitsIo.call_all_keeps faults (OtherRows (jobs.length + 1) file.cells disk)
    ⟨{ writer with dataColumns := { jobColumns env writer job with centreFreqIdx := oneSingle } }, disk, calls⟩ _ start
    (row_calls_keep env writer.hdr { jobColumns env writer job with centreFreqIdx := oneSingle } (jobs.length + 1) file.cells disk)
  rw [← opened.row] at kept
  obtain ⟨⟨last, lastFound, others⟩, named⟩ := kept
  refine ⟨⟨count, exposure, last, lastFound, fun i other member column => ?_⟩, named⟩
  have below : i < jobs.length := (List.getElem?_eq_some_iff.mp member).1
  rw [others (i + 1) (by rw [opened.row]; omega), cells i other member column]

-- A row fills every column from its own job, so the writer's last row does not show.
theorem row_cells_after (writer : Sdfits F) (last : SdfitsRow) (disk : List (List Byte)) (calls : Nat) (job : SdfitsRow) :
    rowCells env (rowDone (rowIo env faults writer last disk calls)).hdr
        { jobColumns env (rowDone (rowIo env faults writer last disk calls)) job with centreFreqIdx := oneSingle } =
      rowCells env writer.hdr { jobColumns env writer job with centreFreqIdx := oneSingle } := by
  have columns : (rowDone (rowIo env faults writer last disk calls)).dataColumns =
      { jobColumns env writer last with centreFreqIdx := oneSingle, data := [] } := rfl
  have header : (rowDone (rowIo env faults writer last disk calls)).hdr = writer.hdr := rfl
  have same : jobColumns env (rowDone (rowIo env faults writer last disk calls)) job =
      { jobColumns env writer job with centreFreqIdx := oneSingle } := by
    rw [jobColumns, columns, header]
    rfl
  rw [header, same]

theorem row_stored (band : PackedSpectrumHeader) (m : SkyMetadata F) (writer : Sdfits F) (jobs : List SdfitsRow)
    (opened : OpenWriter env cfg band m writer jobs) (ready : writer.status = 0) (job : SdfitsRow) (member : InBand band job.header)
    (disk : List (List Byte)) (calls : Nat) (clear : Clear faults calls (rowCallCount writer.rownum)) :
    OpenWriter env cfg band m (countRow env (rowDone (rowIo env faults writer job disk calls)) job) (jobs ++ [job]) := by
  obtain ⟨count, exposure, file, found, cells⟩ := opened.stored
  have next := opened.row
  have fresh := opened.fresh ready file found
  obtain ⟨written, run, others, row⟩ := row_calls_row env writer.hdr { jobColumns env writer job with centreFreqIdx := oneSingle }
    writer.rownum file disk (by rw [next]; exact fresh (jobs.length + 1) (Nat.lt_succ_self _))
  rw [← found] at run
  rw [← row_calls_length env writer.hdr { jobColumns env writer job with centreFreqIdx := oneSingle }] at clear
  have rows := fun later inside =>
    (row_cells_after env faults writer job disk calls later).trans (opened.rows later inside)
  rw [rowIo, SdfitsIo.call_all_clear faults _ _ ready clear _ run] at rows ⊢
  refine ⟨⟨?_, ?_, written, rfl, ?_⟩, opened.steady, ?_, rows, ?_⟩
  · rw [List.length_append]
    exact congrArg (· + 1) count
  · rw [List.foldl_append, ← exposure]
    rfl
  · intro i other place column
    by_cases last : i = jobs.length
    · rw [last, List.getElem?_concat_length] at place
      cases place
      rw [last, ← next, row, opened.rows job member]
    · rw [List.getElem?_append_left (by
        have bound := (List.getElem?_eq_some_iff.mp place).1
        rw [List.length_append, List.length_singleton] at bound
        omega)] at place
      rw [others (i + 1) (by omega), cells i other place column]
  · rw [List.length_append]
    exact congrArg (· + 1) next
  · intro _ last same r beyond c
    cases same
    rw [List.length_append, List.length_singleton] at beyond
    rw [others r (by omega), fresh r (by omega)]

-- One row on an open writer: it is stored, or the status stays set.
theorem row_outcome (band : PackedSpectrumHeader) (m : SkyMetadata F) (writer : Sdfits F) (jobs : List SdfitsRow)
    (opened : OpenWriter env cfg band m writer jobs) (job : SdfitsRow) (member : InBand band job.header) (disk : List (List Byte))
    (calls : Nat) :
    let result := rowResult env faults writer job disk calls
    result.disk = disk ∧
      (result.writer.status = 0 ↔ writer.status = 0 ∧ Clear faults calls (rowCallCount writer.rownum)) ∧
      (result.writer.status = 0 → OpenWriter env cfg band m (rowDone result) (jobs ++ [job])) ∧
      (result.writer.status ≠ 0 → OpenWriter env cfg band m (rowDone result) jobs) := by
  intro result
  have kept := row_keeps env cfg faults band m writer jobs opened job disk calls
  have status : result.writer.status = (rowIo env faults writer job disk calls).writer.status := by
    simp only [result, rowResult]
    split <;> rfl
  have asked : (rowIo env faults writer job disk calls).writer.status = 0 ↔
      writer.status = 0 ∧ Clear faults calls (rowCallCount writer.rownum) := by
    by_cases ready : writer.status = 0
    · rw [← row_calls_length env writer.hdr { jobColumns env writer job with centreFreqIdx := oneSingle } writer.rownum]
      exact (SdfitsIo.call_all_status faults _ _ ready).trans (and_iff_right ready).symm
    · rw [stuck_row env faults writer ready job disk calls]
      exact ⟨fun same => absurd same ready, fun both => absurd both.1 ready⟩
  refine ⟨?_, by rw [status, asked], fun ready => ?_, fun failed => ?_⟩
  · simp only [result, rowResult]
    split <;> exact kept.2
  · rw [status] at ready
    have done := asked.mp ready
    simp only [result, rowResult, if_pos ready]
    exact row_stored env cfg faults band m writer jobs opened done.1 job member disk calls done.2
  · rw [status] at failed
    simp only [result, rowResult, if_neg failed]
    refine ⟨⟨kept.1.count, kept.1.exposure, kept.1.cells⟩, opened.steady, opened.row, fun later inside => ?_,
      fun ready => absurd ready failed⟩
    exact (row_cells_after env faults writer job disk calls later).trans (opened.rows later inside)

-- The states of the thread between two jobs of a band. Before its file is
-- opened:
structure Waiting (band : PackedSpectrumHeader) (thread : WriterThread F) : Prop where
  empty : thread.writers = []
  free : bandFile env cfg band ∉ thread.disk

-- A file that no writer has open, and that none will overwrite:
structure Blocked (band : PackedSpectrumHeader) (thread : WriterThread F) : Prop where
  empty : thread.writers = []
  taken : bandFile env cfg band ∈ thread.disk

-- The writer of the band:
structure Serving (band : PackedSpectrumHeader) (m : SkyMetadata F) (thread : WriterThread F) (writer : Sdfits F)
    (jobs : List SdfitsRow) : Prop where
  only : thread.writers = [(bandKey env band, writer)]
  opened : OpenWriter env cfg band m writer jobs

def KeyKnown (band : PackedSpectrumHeader) : Prop := BandKey.same env (bandKey env band) (bandKey env band) = true

theorem serving_found (band : PackedSpectrumHeader) (known : KeyKnown env band) (m : SkyMetadata F) (thread : WriterThread F)
    (writer : Sdfits F) (jobs : List SdfitsRow) (serving : Serving env cfg band m thread writer jobs) :
    findWriter env (bandKey env band) thread.writers = some writer := by
  rw [serving.only, findWriter]
  exact if_pos known

-- What a row leaves: the status of the writer decides whether it is stored,
-- and with a status that tells the faults so far, it tells this one.
structure RowWritten (band : PackedSpectrumHeader) (m : SkyMetadata F) (writer : Sdfits F) (jobs : List SdfitsRow) (job : SdfitsRow)
    (calls : Nat) (outcome : JobOutcome F) (next : Sdfits F) : Prop where
  status : next.status = 0 ↔ writer.status = 0 ∧ Clear faults calls (rowCallCount writer.rownum)
  stored : next.status = 0 → Serving env cfg band m outcome.thread next (jobs ++ [job])
  failed : next.status ≠ 0 → Serving env cfg band m outcome.thread next jobs
  honest : (writer.status = 0 ↔ Clear faults 0 calls) → (next.status = 0 ↔ Clear faults 0 outcome.calls)
  stuck : writer.status ≠ 0 → outcome.calls = calls

theorem row_result_counts (writer : Sdfits F) (job : SdfitsRow) (disk : List (List Byte)) (calls : Nat) :
    (rowResult env faults writer job disk calls).writer.status = (rowIo env faults writer job disk calls).writer.status ∧
      (rowResult env faults writer job disk calls).calls = (rowIo env faults writer job disk calls).calls := by
  rw [rowResult]
  split <;> exact ⟨rfl, rfl⟩

theorem row_io_honest (writer : Sdfits F) (job : SdfitsRow) (disk : List (List Byte)) (calls : Nat)
    (honest : writer.status = 0 ↔ Clear faults 0 calls) : SdfitsIo.Honest faults (rowIo env faults writer job disk calls) :=
  SdfitsIo.call_all_honest faults ⟨{ writer with dataColumns := { jobColumns env writer job with centreFreqIdx := oneSingle } },
    disk, calls⟩ _ honest

theorem write_row_serving (band : PackedSpectrumHeader) (known : KeyKnown env band) (m : SkyMetadata F) (thread : WriterThread F)
    (writer : Sdfits F) (jobs : List SdfitsRow) (serving : Serving env cfg band m thread writer jobs) (job : SdfitsRow)
    (member : InBand band job.header) (calls : Nat) :
    ∃ next, RowWritten env cfg faults band m writer jobs job calls (writeRow env faults ⟨thread, calls, some writer⟩ writer job) next := by
  obtain ⟨disk, status, stored, failed⟩ := row_outcome env cfg faults band m writer jobs serving.opened job member thread.disk calls
  have counts := row_result_counts env faults writer job thread.disk calls
  have put : ∀ value, putWriter env (bandKey env band) value [(bandKey env band, writer)] = [(bandKey env band, value)] :=
    fun _ => if_pos known
  have written : writeRow env faults ⟨thread, calls, some writer⟩ writer job =
      ⟨⟨[(bandKey env band, rowDone (rowResult env faults writer job thread.disk calls))],
        (rowResult env faults writer job thread.disk calls).disk⟩, (rowResult env faults writer job thread.disk calls).calls⟩ := by
    rw [write_row_done env faults thread writer serving.opened.steady job calls, serving.only,
      in_band_key env band job.header member, put]
  have told := row_io_honest env faults writer job thread.disk calls
  have idle := fun stuck => stuck_row env faults writer stuck job thread.disk calls
  rw [written]
  generalize rowIo env faults writer job thread.disk calls = io at counts told idle
  generalize rowResult env faults writer job thread.disk calls = result at status stored failed counts
  refine ⟨rowDone result, status, fun fine => ⟨rfl, stored fine⟩, fun stuck => ⟨rfl, failed stuck⟩, fun honest => ?_, fun stuck => ?_⟩
  · have same : (rowDone result).status = io.writer.status := counts.1
    rw [same, counts.2]
    exact told honest
  · rw [counts.2, idle stuck]

-- The band's file can be opened: its name fits and its metadata is taken.
structure Opens (band : PackedSpectrumHeader) (m : SkyMetadata F) : Prop where
  short : ¬ NameTooLong env cfg band
  object : ObjectFits cfg.object
  read : readMetadata env cfg.sdfitsMetadata (knownMetadata (Sdfits.initial env)) = .ok m

theorem configure_prepared (m : SkyMetadata F) (object : ObjectFits cfg.object)
    (read : readMetadata env cfg.sdfitsMetadata (knownMetadata (Sdfits.initial env)) = .ok m) (header : PackedSpectrumHeader)
    (dateObs : List Byte) (formatted : formatFitsUtc header.integrationStartNs = some dateObs) :
    configureSdfitsMetadata env (bandWriter env cfg header dateObs) cfg.sdfitsMetadata cfg.object (header.calMode ≠ 0) cfg.sourceOn =
      .ok (preparedWriter env cfg m header) := by
  have known : knownMetadata (bandWriter env cfg header dateObs) = knownMetadata (Sdfits.initial env) := rfl
  have fits : ¬ 16 ≤ (stringBytes cfg.object).length := Nat.not_le.mpr (Nat.lt_succ_of_le object)
  rw [configureSdfitsMetadata, refuse, if_neg fits, known, read, preparedWriter, formatted]
  rfl

theorem band_file_length (band : PackedSpectrumHeader) (short : ¬ NameTooLong env cfg band) :
    (bandFile env cfg band).length < 210 := by
  have stem : (filenameStem (bandFilename env cfg band)).length ≤ (bandFilename env cfg band).length := by
    rw [filenameStem]
    split
    · exact List.length_take_le' _ _
    · exact Nat.le_refl _
  have extension : sdfitsExtension.length = 7 := by decide +kernel
  rw [NameTooLong] at short
  rw [bandFile, List.length_append]
  omega

def createIo (m : SkyMetadata F) (header : PackedSpectrumHeader) (disk : List (List Byte)) : SdfitsIo F :=
  SdfitsIo.callAll faults ⟨startFile (preparedWriter env cfg m header), disk, 0⟩
    (createCalls env (preparedWriter env cfg m header).hdr (bandFile env cfg header))

theorem get_or_create_unseen (band : PackedSpectrumHeader) (m : SkyMetadata F) (opens : Opens env cfg band m)
    (header : PackedSpectrumHeader) (member : InBand band header) (thread : WriterThread F)
    (unseen : findWriter env (bandKey env band) thread.writers = none) :
    getOrCreateWriter env faults cfg thread header =
      if bandFile env cfg band ∈ thread.disk then .ok ⟨thread, 0, none⟩
      else
        let done := createIo env cfg faults m header thread.disk
        if done.writer.status ≠ 0 then .ok ⟨⟨thread.writers, done.disk⟩, done.calls, none⟩
        else .ok ⟨⟨thread.writers ++ [(bandKey env band, done.writer)], done.disk⟩, done.calls, some done.writer⟩ := by
  obtain ⟨dateObs, formatted⟩ := Option.isSome_iff_exists.mp (format_fits_utc_total header.integrationStartNs)
  have file : bandFile env cfg header = bandFile env cfg band := by
    rw [bandFile, bandFile, in_band_filename env cfg band header member]
  have short : ¬ NameTooLong env cfg header := by
    rw [NameTooLong, in_band_filename env cfg band header member]
    exact opens.short
  have configured := configure_prepared env cfg m opens.object opens.read header dateObs formatted
  have fits : ¬ 210 ≤ (startFile (preparedWriter env cfg m header)).filename.length :=
    Nat.not_le.mpr (band_file_length env cfg header short)
  have named : (startFile (preparedWriter env cfg m header)).filename = bandFile env cfg header := rfl
  have key := in_band_key env band header member
  rw [NameTooLong] at short
  rw [getOrCreateWriter, key, unseen]
  simp only [if_neg short, formatted]
  have created : createWriter env faults cfg thread header dateObs =
      let made := sdfitsCreate env faults ⟨preparedWriter env cfg m header, thread.disk, 0⟩
      if made.2 ≠ 0 then .ok ⟨{ thread with disk := made.1.disk }, made.1.calls, none⟩
      else .ok ⟨⟨thread.writers ++ [(bandKey env header, made.1.writer)], made.1.disk⟩, made.1.calls, some made.1.writer⟩ := by
    rw [createWriter, configured]
    rfl
  refine created.trans ?_
  by_cases taken : bandFile env cfg band ∈ thread.disk
  · have refused : sdfitsCreate env faults ⟨preparedWriter env cfg m header, thread.disk, 0⟩ =
        (⟨startFile (preparedWriter env cfg m header), thread.disk, 0⟩, 1) := by
      rw [sdfitsCreate, if_neg fits, named, file, if_pos taken]
    rw [refused, if_pos taken]
    rfl
  · have free : (startFile (preparedWriter env cfg m header)).filename ∉ thread.disk := by
      rwa [named, file]
    rw [if_neg taken, sdfits_create_calls env faults ⟨preparedWriter env cfg m header, thread.disk, 0⟩ (Nat.not_le.mp fits) free, key]
    rfl

theorem get_or_create_new (band : PackedSpectrumHeader) (m : SkyMetadata F) (opens : Opens env cfg band m)
    (header : PackedSpectrumHeader) (member : InBand band header) (thread : WriterThread F) (empty : thread.writers = []) :
    getOrCreateWriter env faults cfg thread header =
      if bandFile env cfg band ∈ thread.disk then .ok ⟨thread, 0, none⟩
      else
        let done := createIo env cfg faults m header thread.disk
        if done.writer.status ≠ 0 then .ok ⟨⟨[], done.disk⟩, done.calls, none⟩
        else .ok ⟨⟨[(bandKey env band, done.writer)], done.disk⟩, done.calls, some done.writer⟩ := by
  have unseen : findWriter env (bandKey env band) thread.writers = none := by
    rw [empty]
    rfl
  rw [get_or_create_unseen env cfg faults band m opens header member thread unseen, empty]
  rfl

theorem prepared_columns (m : SkyMetadata F) (header : PackedSpectrumHeader) :
    (preparedWriter env cfg m header).dataColumns =
      { DataColumns.initial env with
        object := if cfg.object.isEmpty then stringBytes "UNKNOWN" else cString cfg.object
        ra := m.ra
        dec := m.dec } := rfl

theorem prepared_sizes (m : SkyMetadata F) (header : PackedSpectrumHeader) :
    (preparedWriter env cfg m header).hdr.nsubband = 1 ∧ (preparedWriter env cfg m header).hdr.npol = 4 ∧
      (preparedWriter env cfg m header).hdr.nchan = header.nChannels.toInt ∧
      (preparedWriter env cfg m header).hdr.chanBw = env.ofBits header.channelBwHz ∧
      (preparedWriter env cfg m header).hdr.obsfreq = env.config.double.add (env.ofBits header.startFreqHz)
        (env.config.double.div (env.config.double.mul (env.ofBits header.channelBwHz) (env.config.double.lit header.nChannels.toNat))
          (env.config.double.lit 2)) := ⟨rfl, rfl, rfl, rfl, rfl⟩

-- A row depends on the band of the job that opened the file, not on its times.
theorem prepared_rows (band : PackedSpectrumHeader) (m : SkyMetadata F) (header : PackedSpectrumHeader) (first : InBand band header)
    (job : SdfitsRow) (member : InBand band job.header) :
    rowCells env (preparedWriter env cfg m header).hdr
      { jobColumns env (preparedWriter env cfg m header) job with centreFreqIdx := oneSingle } = rowOf env cfg m job := by
  obtain ⟨subbands, products, count, width, centre⟩ := prepared_sizes env cfg m header
  obtain ⟨subbands', products', count', width', centre'⟩ := prepared_sizes env cfg m job.header
  simp only [rowOf, rowCells, jobColumns, prepared_columns, subbands, products, count, width, centre, subbands', products', count',
    width', centre', first.startFreqHz, member.startFreqHz, first.channelBwHz, member.channelBwHz, first.nChannels, member.nChannels]

theorem create_io_status (m : SkyMetadata F) (header : PackedSpectrumHeader) (disk : List (List Byte)) :
    (createIo env cfg faults m header disk).writer.status = 0 ↔ Clear faults 0 (createCallCount env cfg m header) :=
  SdfitsIo.call_all_status faults _ _ rfl

theorem create_io_honest (m : SkyMetadata F) (header : PackedSpectrumHeader) (disk : List (List Byte)) :
    SdfitsIo.Honest faults (createIo env cfg faults m header disk) :=
  SdfitsIo.call_all_honest faults _ _ ⟨fun _ _ below => absurd below (Nat.not_lt_zero _), fun _ => rfl⟩

theorem create_io_disk (m : SkyMetadata F) (header : PackedSpectrumHeader) (disk : List (List Byte)) :
    (TemplateFails faults 0 → (createIo env cfg faults m header disk).disk = disk ∧
      (createIo env cfg faults m header disk).writer.status ≠ 0) ∧
    (¬ TemplateFails faults 0 → bandFile env cfg header ∈ (createIo env cfg faults m header disk).disk) := by
  constructor
  · exact fun fails => template_fails_first faults _ _ _ rfl fails
  · intro made
    have named := (template_makes_file env faults ⟨startFile (preparedWriter env cfg m header), disk, 0⟩ (bandFile env cfg header)
      (preparedWriter env cfg m header).hdr rfl made).2
    have listed : (createIo env cfg faults m header disk).disk = bandFile env cfg header :: disk := named
    rw [listed]
    exact List.mem_cons_self

theorem create_io_opened (band : PackedSpectrumHeader) (m : SkyMetadata F) (header : PackedSpectrumHeader)
    (first : InBand band header) (disk : List (List Byte))
    (ready : (createIo env cfg faults m header disk).writer.status = 0) :
    OpenWriter env cfg band m (createIo env cfg faults m header disk).writer [] := by
  have made : ¬ TemplateFails faults 0 := fun fails => ((create_io_disk env cfg faults m header disk).1 fails).2 ready
  obtain ⟨⟨file, opened, empty⟩, _⟩ := template_makes_file env faults ⟨startFile (preparedWriter env cfg m header), disk, 0⟩
    (bandFile env cfg header) (preparedWriter env cfg m header).hdr rfl made
  refine ⟨⟨rfl, rfl, file, opened, fun i job place => nomatch place⟩, ⟨rfl, rfl⟩, rfl, ?_, ?_⟩
  · exact fun job member => prepared_rows env cfg band m header first job member
  · intro _ other found r _ c
    obtain rfl : file = other := Option.some.inj (opened.symm.trans found)
    rw [empty]

theorem create_io_calls (m : SkyMetadata F) (header : PackedSpectrumHeader) (disk : List (List Byte))
    (clear : Clear faults 0 (createCallCount env cfg m header)) :
    (createIo env cfg faults m header disk).calls = createCallCount env cfg m header := by
  rw [createIo, SdfitsIo.call_all_clear faults _ _ rfl clear _ rfl]
  exact Nat.zero_add _

theorem blocked_step (band : PackedSpectrumHeader) (m : SkyMetadata F) (opens : Opens env cfg band m) (thread : WriterThread F)
    (blocked : Blocked env cfg band thread) (job : SdfitsRow) (member : InBand band job.header) :
    writeJob env faults cfg thread job = .ok ⟨thread, 0⟩ := by
  rw [writeJob, get_or_create_new env cfg faults band m opens job.header member thread blocked.empty, if_pos blocked.taken]
  rfl

theorem serving_step (band : PackedSpectrumHeader) (known : KeyKnown env band) (m : SkyMetadata F) (thread : WriterThread F)
    (writer : Sdfits F) (jobs : List SdfitsRow) (serving : Serving env cfg band m thread writer jobs) (job : SdfitsRow)
    (member : InBand band job.header) :
    ∃ outcome next, writeJob env faults cfg thread job = .ok outcome ∧
      RowWritten env cfg faults band m writer jobs job 0 outcome next := by
  obtain ⟨next, written⟩ := write_row_serving env cfg faults band known m thread writer jobs serving job member 0
  refine ⟨_, next, ?_, written⟩
  rw [writeJob, getOrCreateWriter, in_band_key env band job.header member,
    serving_found env cfg band known m thread writer jobs serving]
  rfl

theorem waiting_failed (band : PackedSpectrumHeader) (m : SkyMetadata F) (opens : Opens env cfg band m) (thread : WriterThread F)
    (waiting : Waiting env cfg band thread) (job : SdfitsRow) (member : InBand band job.header)
    (unclear : ¬ Clear faults 0 (createCallCount env cfg m job.header)) :
    ∃ outcome, writeJob env faults cfg thread job = .ok outcome ∧ ¬ Clear faults 0 outcome.calls ∧
      (TemplateFails faults 0 → Waiting env cfg band outcome.thread) ∧
      (¬ TemplateFails faults 0 → Blocked env cfg band outcome.thread) := by
  have failed : (createIo env cfg faults m job.header thread.disk).writer.status ≠ 0 :=
    fun fine => unclear ((create_io_status env cfg faults m job.header thread.disk).mp fine)
  have told := create_io_honest env cfg faults m job.header thread.disk
  obtain ⟨kept, named⟩ := create_io_disk env cfg faults m job.header thread.disk
  refine ⟨⟨⟨[], (createIo env cfg faults m job.header thread.disk).disk⟩, (createIo env cfg faults m job.header thread.disk).calls⟩,
    ?_, fun clear => failed (told.mpr clear), fun fails => ⟨rfl, ?_⟩, fun made => ⟨rfl, ?_⟩⟩
  · rw [writeJob, get_or_create_new env cfg faults band m opens job.header member thread waiting.empty, if_neg waiting.free]
    simp only [if_pos failed]
    rfl
  · rw [(kept fails).1]
    exact waiting.free
  · rw [bandFile, ← in_band_filename env cfg band job.header member]
    exact named made

theorem waiting_opened (band : PackedSpectrumHeader) (known : KeyKnown env band) (m : SkyMetadata F) (opens : Opens env cfg band m)
    (thread : WriterThread F) (waiting : Waiting env cfg band thread) (job : SdfitsRow) (member : InBand band job.header)
    (clear : Clear faults 0 (createCallCount env cfg m job.header)) :
    ∃ outcome writer next, writeJob env faults cfg thread job = .ok outcome ∧ writer.status = 0 ∧ writer.rownum = 1 ∧
      RowWritten env cfg faults band m writer [] job (createCallCount env cfg m job.header) outcome next := by
  have ready := (create_io_status env cfg faults m job.header thread.disk).mpr clear
  have opened := create_io_opened env cfg faults band m job.header member thread.disk ready
  have calls := create_io_calls env cfg faults m job.header thread.disk clear
  have serving : Serving env cfg band m ⟨[(bandKey env band, (createIo env cfg faults m job.header thread.disk).writer)],
      (createIo env cfg faults m job.header thread.disk).disk⟩ (createIo env cfg faults m job.header thread.disk).writer [] :=
    ⟨rfl, opened⟩
  obtain ⟨next, written⟩ := write_row_serving env cfg faults band known m _ _ [] serving job member
    (createCallCount env cfg m job.header)
  refine ⟨_, _, next, ?_, ready, opened.row, written⟩
  rw [writeJob, get_or_create_new env cfg faults band m opens job.header member thread waiting.empty, if_neg waiting.free]
  simp only [if_neg (not_not.mpr ready), calls]
  rfl

-- From this state on the jobs cost only their own rows.
def Ends (band : PackedSpectrumHeader) (thread : WriterThread F) (clean : List SdfitsRow) (jobs : List FaultyJob) : Prop :=
  ∃ last stored, runTrace env cfg thread clean jobs = .ok (last, stored) ∧ Accounted env cfg band last stored

theorem ends_nil (band : PackedSpectrumHeader) (thread : WriterThread F) (clean : List SdfitsRow) :
    Ends env cfg band thread clean [] ↔ Accounted env cfg band thread clean := by
  constructor
  · rintro ⟨last, stored, run, accounted⟩
    cases run
    exact accounted
  · exact fun accounted => ⟨thread, clean, rfl, accounted⟩

theorem ends_cons (band : PackedSpectrumHeader) (thread : WriterThread F) (clean : List SdfitsRow) (job : FaultyJob)
    (rest : List FaultyJob) (outcome : JobOutcome F) (written : writeJob env job.faults cfg thread job.row = .ok outcome) :
    Ends env cfg band thread clean (job :: rest) ↔
      Ends env cfg band outcome.thread (if Clear job.faults 0 outcome.calls then clean ++ [job.row] else clean) rest := by
  rw [Ends, runTrace, written]
  rfl

theorem clear_zero (faults : Nat → Option Fault) : Clear faults 0 0 := fun _ below => absurd below (Nat.not_lt_zero _)

-- Jobs that are dropped without a fault are lost for good.
theorem idle_lost (band : PackedSpectrumHeader) (thread : WriterThread F) (empty : thread.writers = []) (clean : List SdfitsRow)
    (jobs : List FaultyJob) (idle : ∀ job ∈ jobs, writeJob env job.faults cfg thread job.row = .ok ⟨thread, 0⟩)
    (some' : clean ≠ [] ∨ jobs ≠ []) : ¬ Ends env cfg band thread clean jobs := by
  induction jobs generalizing clean with
  | nil =>
      rw [ends_nil, Accounted, empty]
      exact fun none' => some'.elim (fun nonempty => nonempty none') fun nonempty => nonempty rfl
  | cons job rest ih =>
      rw [ends_cons env cfg band thread clean job rest _ (idle job List.mem_cons_self), if_pos (clear_zero job.faults)]
      exact ih _ (fun other member => idle other (List.mem_cons_of_mem _ member)) (Or.inl (List.append_ne_nil_of_right_ne_nil _ (List.cons_ne_nil _ _)))

theorem stuck_lost (band : PackedSpectrumHeader) (known : KeyKnown env band) (m : SkyMetadata F) (thread : WriterThread F)
    (writer : Sdfits F) (stored : List SdfitsRow) (serving : Serving env cfg band m thread writer stored) (stuck : writer.status ≠ 0)
    (clean : List SdfitsRow) (jobs : List FaultyJob) (members : ∀ job ∈ jobs, InBand band job.row.header)
    (behind : stored.length < clean.length + jobs.length) (kept : stored.length ≤ clean.length) :
    ¬ Ends env cfg band thread clean jobs := by
  induction jobs generalizing thread writer clean with
  | nil =>
      rw [ends_nil, Accounted, serving_found env cfg band known m thread writer stored serving]
      rintro ⟨_, _, rows⟩
      have count := serving.opened.stored.count.symm.trans rows.count
      rw [List.length_nil] at behind
      omega
  | cons job rest ih =>
      obtain ⟨outcome, next, written, row⟩ := serving_step env cfg job.faults band known m thread writer stored serving job.row
        (members job List.mem_cons_self)
      have failed : next.status ≠ 0 := fun fine => stuck (row.status.mp fine).1
      rw [ends_cons env cfg band thread clean job rest outcome written, row.stuck stuck, if_pos (clear_zero job.faults)]
      refine ih outcome.thread next (row.failed failed) failed _ (fun other member => members other (List.mem_cons_of_mem _ member)) ?_ ?_
      · rw [List.length_append, List.length_singleton]
        rw [List.length_cons] at behind
        omega
      · rw [List.length_append]
        omega

theorem accounted_serving (band : PackedSpectrumHeader) (known : KeyKnown env band) (m : SkyMetadata F) (opens : Opens env cfg band m)
    (thread : WriterThread F) (writer : Sdfits F) (stored : List SdfitsRow)
    (serving : Serving env cfg band m thread writer stored) : Accounted env cfg band thread stored := by
  rw [Accounted, serving_found env cfg band known m thread writer stored serving]
  exact ⟨m, opens.read, serving.opened.stored⟩

-- After a fault in a row the run is as good as its last job.
theorem stuck_ends (band : PackedSpectrumHeader) (known : KeyKnown env band) (m : SkyMetadata F) (opens : Opens env cfg band m)
    (thread : WriterThread F) (writer : Sdfits F) (stored : List SdfitsRow)
    (serving : Serving env cfg band m thread writer stored) (stuck : writer.status ≠ 0) (jobs : List FaultyJob)
    (members : ∀ job ∈ jobs, InBand band job.row.header) : Ends env cfg band thread stored jobs ↔ jobs = [] := by
  constructor
  · intro ends
    by_contra more
    have positive := List.length_pos_iff.mpr more
    exact stuck_lost env cfg band known m thread writer stored serving stuck stored jobs members (by omega) (Nat.le_refl _) ends
  · rintro rfl
    exact (ends_nil env cfg band thread stored).mpr (accounted_serving env cfg band known m opens thread writer stored serving)

theorem serving_ends (band : PackedSpectrumHeader) (known : KeyKnown env band) (m : SkyMetadata F) (opens : Opens env cfg band m)
    (thread : WriterThread F) (writer : Sdfits F) (stored : List SdfitsRow)
    (serving : Serving env cfg band m thread writer stored) (ready : writer.status = 0) (jobs : List FaultyJob)
    (members : ∀ job ∈ jobs, InBand band job.row.header) :
    Ends env cfg band thread stored jobs ↔ SparedRows (stored.length + 1) jobs := by
  induction jobs generalizing thread writer stored with
  | nil => exact ⟨fun _ => trivial, fun _ => (ends_nil env cfg band thread stored).mpr
      (accounted_serving env cfg band known m opens thread writer stored serving)⟩
  | cons job rest ih =>
      obtain ⟨outcome, next, written, row⟩ := serving_step env cfg job.faults band known m thread writer stored serving job.row
        (members job List.mem_cons_self)
      have others : ∀ other ∈ rest, InBand band other.row.header := fun other member => members other (List.mem_cons_of_mem _ member)
      have told := row.honest ⟨fun _ => clear_zero job.faults, fun _ => ready⟩
      rw [ends_cons env cfg band thread stored job rest outcome written, SparedRows, ← serving.opened.row]
      by_cases clear : Clear job.faults 0 (rowCallCount writer.rownum)
      · have fine := row.status.mpr ⟨ready, clear⟩
        have further := ih outcome.thread next _ (row.stored fine) fine others
        rw [List.length_append, List.length_singleton, ← serving.opened.row] at further
        rw [if_pos (told.mp fine), further]
        constructor
        · exact fun spared => Or.inr ⟨clear, spared⟩
        · rintro (rfl | spared)
          · trivial
          · exact spared.2
      · have failed : next.status ≠ 0 := fun fine => clear (row.status.mp fine).2
        rw [if_neg fun unmet => failed (told.mpr unmet),
          stuck_ends env cfg band known m opens outcome.thread next stored (row.failed failed) failed rest others]
        exact ⟨Or.inl, fun spared => spared.elim id fun both => absurd both.1 clear⟩

theorem blocked_ends (band : PackedSpectrumHeader) (m : SkyMetadata F) (opens : Opens env cfg band m) (thread : WriterThread F)
    (blocked : Blocked env cfg band thread) (jobs : List FaultyJob) (members : ∀ job ∈ jobs, InBand band job.row.header) :
    Ends env cfg band thread [] jobs ↔ jobs = [] := by
  constructor
  · intro ends
    by_contra more
    exact idle_lost env cfg band thread blocked.empty [] jobs
      (fun job member => blocked_step env cfg job.faults band m opens thread blocked job.row (members job member)) (Or.inr more) ends
  · rintro rfl
    rw [ends_nil, Accounted, blocked.empty]
    rfl

theorem template_first (m : SkyMetadata F) (header : PackedSpectrumHeader)
    (clear : Clear faults 0 (createCallCount env cfg m header)) : ¬ TemplateFails faults 0 := by
  rintro ⟨fault, answer, _⟩
  have unmet := clear 0 (Nat.succ_pos _)
  rw [Nat.zero_add, answer] at unmet
  cases unmet

theorem waiting_ends (band : PackedSpectrumHeader) (known : KeyKnown env band) (m : SkyMetadata F) (opens : Opens env cfg band m)
    (thread : WriterThread F) (waiting : Waiting env cfg band thread) (jobs : List FaultyJob)
    (members : ∀ job ∈ jobs, InBand band job.row.header) : Ends env cfg band thread [] jobs ↔ Spared env cfg m jobs := by
  induction jobs generalizing thread with
  | nil =>
      rw [ends_nil, Accounted, waiting.empty]
      exact ⟨fun _ => trivial, fun _ => rfl⟩
  | cons job rest ih =>
      have member := members job List.mem_cons_self
      have others : ∀ other ∈ rest, InBand band other.row.header := fun other later => members other (List.mem_cons_of_mem _ later)
      have split := clear_append job.faults 0 (createCallCount env cfg m job.row.header) (rowCallCount 1)
      rw [Nat.zero_add] at split
      rw [Spared, split]
      by_cases clear : Clear job.faults 0 (createCallCount env cfg m job.row.header)
      · obtain ⟨outcome, writer, next, written, ready, first, row⟩ :=
          waiting_opened env cfg job.faults band known m opens thread waiting job.row member clear
        have told := row.honest ⟨fun _ => clear, fun _ => ready⟩
        rw [ends_cons env cfg band thread [] job rest outcome written]
        by_cases stored : Clear job.faults (createCallCount env cfg m job.row.header) (rowCallCount 1)
        · have fine := row.status.mpr ⟨ready, by rwa [first]⟩
          rw [if_pos (told.mp fine),
            serving_ends env cfg band known m opens outcome.thread next _ (row.stored fine) fine rest others]
          constructor
          · exact fun spared => Or.inr (Or.inr ⟨⟨clear, stored⟩, spared⟩)
          · rintro (rfl | ⟨fails, _⟩ | ⟨_, spared⟩)
            · trivial
            · exact absurd fails (template_first env cfg job.faults m job.row.header clear)
            · exact spared
        · have failed : next.status ≠ 0 := by
            intro fine
            have unmet := (row.status.mp fine).2
            rw [first] at unmet
            exact stored unmet
          rw [if_neg fun unmet => failed (told.mpr unmet),
            stuck_ends env cfg band known m opens outcome.thread next [] (row.failed failed) failed rest others]
          constructor
          · exact Or.inl
          · rintro (done | ⟨fails, _⟩ | ⟨both, _⟩)
            · exact done
            · exact absurd fails (template_first env cfg job.faults m job.row.header clear)
            · exact absurd both.2 stored
      · obtain ⟨outcome, written, unmet, free, taken⟩ := waiting_failed env cfg job.faults band m opens thread waiting job.row member clear
        rw [ends_cons env cfg band thread [] job rest outcome written, if_neg unmet]
        by_cases fails : TemplateFails job.faults 0
        · rw [ih outcome.thread (free fails) others]
          constructor
          · exact fun spared => Or.inr (Or.inl ⟨fails, spared⟩)
          · rintro (rfl | ⟨_, spared⟩ | ⟨both, _⟩)
            · trivial
            · exact spared
            · exact absurd both.1 clear
        · rw [blocked_ends env cfg band m opens outcome.thread (taken fails) rest others]
          constructor
          · exact Or.inl
          · rintro (done | ⟨failed, _⟩ | ⟨both, _⟩)
            · exact done
            · exact absurd failed fails
            · exact absurd both.1 clear

theorem long_step (band : PackedSpectrumHeader) (long : NameTooLong env cfg band) (thread : WriterThread F)
    (empty : thread.writers = []) (job : SdfitsRow) (member : InBand band job.header) :
    writeJob env faults cfg thread job = .ok ⟨thread, 0⟩ := by
  have wide : 200 ≤ (bandFilename env cfg job.header).length := by
    rw [in_band_filename env cfg band job.header member]
    exact long
  rw [writeJob, getOrCreateWriter, empty, findWriter, if_pos wide]
  rfl

theorem untaken_ends (band : PackedSpectrumHeader) (short : ¬ NameTooLong env cfg band) (untaken : ¬ MetadataTaken env cfg)
    (thread : WriterThread F) (empty : thread.writers = []) (clean : List SdfitsRow) (job : FaultyJob) (rest : List FaultyJob)
    (member : InBand band job.row.header) : ¬ Ends env cfg band thread clean (job :: rest) := by
  rintro ⟨last, stored, run, _⟩
  rw [runTrace] at run
  obtain ⟨outcome, written, _⟩ := (succeeds_bind _ _).mp ⟨_, run⟩
  have long := (write_job_no_writer env job.faults cfg untaken thread empty job.row outcome written).1
  rw [NameTooLong, in_band_filename env cfg band job.row.header member] at long
  exact short long

end

def shortObject : GlobalConfig ExactDouble := (acceptedConfig (localConfig "NGC7027")).get (by decide +kernel)

def shortBand : PackedSpectrumHeader := ((shortObject.subbands.head (by decide +kernel)).windows.head (by decide +kernel)).header

def shortMetadata : SkyMetadata ExactDouble := knownMetadata (Sdfits.initial plainWriterEnv)

-- A job during which the first fits_write_col of a new file's first row fails.
def struckJob : FaultyJob where
  row := ⟨shortBand, []⟩
  faults k := if k = createCallCount plainWriterEnv shortObject shortMetadata shortBand then some ⟨105, false⟩ else none

def quietJob : FaultyJob := ⟨⟨shortBand, []⟩, fun _ => none⟩

theorem short_known : KeyKnown plainWriterEnv shortBand := by
  unfold KeyKnown
  decide +kernel

theorem short_opens : Opens plainWriterEnv shortObject shortBand shortMetadata := by
  have none' : shortObject.sdfitsMetadata = none := Option.isNone_iff_eq_none.mp (by decide +kernel)
  refine ⟨?_, ?_, by rw [none']; rfl⟩
  · unfold NameTooLong
    decide +kernel
  · unfold ObjectFits
    decide +kernel

theorem short_members : InBand shortBand shortBand := ⟨rfl, rfl, rfl, rfl, rfl, rfl⟩

end SpectralLine
