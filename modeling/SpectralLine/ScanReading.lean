import SpectralLine.BandRun
import SpectralLine.OnOff

set_option autoImplicit false

namespace SpectralLine

open StatusCalls Checked

-- How a reader takes the numbers of a file: its floats, its doubles, the
-- numbers of its header, and int() of one of them.
structure CellReading (F 𝕜 : Type) where
  single : BitVec 32 → ChannelValue 𝕜
  double : F → ChannelValue 𝕜
  number : F → Option ℚ
  truncate : F → Except String Int

section

variable {F 𝕜 : Type} [Field 𝕜] (reading : CellReading F 𝕜)

def shownHeader (file : FitsFile F) : NumericHeader := fun key =>
  match file.keys .singleDish key with
  | some (.real value) => reading.number value
  | some (.integer value) => some value
  | _ => none

-- A vector has the length of its column, with zeroes where nothing was written.
def shownVector (length : Nat) : Option (FitsValue F) → List (BitVec 32)
  | some (.singles values) => values.take length ++ List.replicate (length - values.length) 0
  | _ => List.replicate length 0

def shownRow (file : FitsFile F) (row : Nat) : ScanRow 𝕜 where
  data := (shownVector (file.vectorLen (columnNumber "DATA")).toNat (file.cells row (columnNumber "DATA"))).map reading.single
  exposure :=
    match file.cells row (columnNumber "EXPOSURE") with
    | some (.single bits) => reading.single bits
    | _ => .finite 0
  noise :=
    match file.cells row (columnNumber "NOISE") with
    | some (.integer state) => some state
    | _ => some 0
  time :=
    match file.cells row (columnNumber "TIME") with
    | some (.real value) => reading.double value
    | _ => .finite 0

-- The table as astropy shows it.
def shownTable (path : String) (file : FitsFile F) (dims : Nat × Nat × Nat) : ScanTable 𝕜 where
  path
  header := shownHeader reading file
  nchan := dims.1
  nsub := dims.2.1
  npol := dims.2.2
  hasExposure := decide ("EXPOSURE" ∈ templateColumns)
  hasNoise := decide ("NOISE" ∈ templateColumns)
  hasTime := decide ("TIME" ∈ templateColumns)
  rows := (List.range file.rows).map fun row => shownRow reading file (row + 1)

variable [LinearOrder 𝕜]

-- integrate_sdfits from the file on.
def integrateFile (path : String) (file : FitsFile F) (sbIndex : Int) (frequency : FrequencyOptions) :
    Except String (IntegratedSpectrum 𝕜) := do
  let dims ← spectralDimensions reading.truncate ⟨file.keys .singleDish, templateColumns⟩
  integrateSdfits (shownTable reading path file dims) sbIndex frequency

variable (env : WriterEnv F)

-- What was enqueued, as numbers: the state of the diode, the exposure where it
-- counts, the times and the products.
def sentDiode (job : SdfitsRow) : Option Bool :=
  if job.header.noiseState = 0 then some false else if job.header.noiseState = 1 then some true else none

def sentWeight (job : SdfitsRow) : Option 𝕜 :=
  match reading.single job.header.exposure with
  | .finite weight => if 0 < weight then some weight else none
  | _ => none

def sentTimes (job : SdfitsRow) : Option (𝕜 × 𝕜) :=
  match reading.double (env.unixNsToMjd job.header.integrationStartNs) with
  | .finite start => some (start, start + (sentWeight reading job).getD 0 / ((86400 : Nat) : 𝕜))
  | _ => none

def sentValue (job : SdfitsRow) (p : Product) (c : Nat) : ChannelValue 𝕜 := reading.single (job.data.getD (4 * c + p.index) 0)

-- The spectra of one diode state that have an exposure.
def sentWith (d : Bool) (jobs : List SdfitsRow) : List SdfitsRow :=
  jobs.filter fun job => decide (sentDiode job = some d) && (sentWeight reading job).isSome

def sentMean (jobs : List SdfitsRow) (d : Bool) (p : Product) (c : Nat) : ChannelValue 𝕜 :=
  let spectra := sentWith reading d jobs
  divideWhere (spectra.map fun job => (sentValue reading job p c).orZero).sum
    (spectra.map fun job => if (sentValue reading job p c).isFinite then (sentWeight reading job).getD 0 else 0).sum

def sentExposure (jobs : List SdfitsRow) (d : Bool) : 𝕜 := ((sentWith reading d jobs).map fun job => (sentWeight reading job).getD 0).sum

-- The integral of the spectra as they were enqueued.
def sentSpectrum (nchan : Nat) (frequencyMhz : List ℚ) (jobs : List SdfitsRow) : IntegratedSpectrum 𝕜 :=
  let mean := fun p d => (List.range nchan).map (sentMean reading jobs d p)
  let times := (sentWith reading false jobs).map (sentTimes reading env)
  let cal := fun p => if sentWith reading true jobs = [] then none else some (mean p true)
  { xx := mean .xx false
    yy := mean .yy false
    calXx := cal .xx
    calYy := cal .yy
    frequencyMhz
    startMjd := times.foldl (fun start row => joinTime earliest start (row.map Prod.fst)) none
    endMjd := times.foldl (fun stop row => joinTime latest stop (row.map Prod.snd)) none
    rowsUsed := (sentWith reading false jobs).length
    exposureS := .finite (sentExposure reading jobs false)
    calRowsUsed := (sentWith reading true jobs).length
    calExposureS := .finite (sentExposure reading jobs true) }

def sentRow (job : SdfitsRow) : ScanRow 𝕜 where
  data := job.data.map reading.single
  exposure := reading.single job.header.exposure
  noise := some job.header.noiseState.toNat
  time := reading.double (env.unixNsToMjd job.header.integrationStartNs)

omit [LinearOrder 𝕜] in
-- The cells of a row of the band, by the columns that are read.
theorem row_shown (cfg : GlobalConfig F) (m : SkyMetadata F) (band : PackedSpectrumHeader) (file : FitsFile F) (row : Nat) (job : SdfitsRow)
    (member : InBand band job.header) (whole : (job.data.length : Int) = 4 * band.nChannels.toInt)
    (length : file.vectorLen 20 = 4 * band.nChannels.toInt)
    (cells : ∀ column, file.cells row (column + 1) = (rowOf env cfg m job)[column]?) :
    shownRow reading file row = sentRow reading env job := by
  obtain ⟨subbands, products, count, _⟩ := prepared_sizes env cfg m job.header
  have dataColumn : columnNumber "DATA" = 19 + 1 := data_column
  have exposureColumn : columnNumber "EXPOSURE" = 3 + 1 := by decide
  have noiseColumn : columnNumber "NOISE" = 20 + 1 := by decide
  have timeColumn : columnNumber "TIME" = 0 + 1 := by decide
  have taken : (preparedWriter env cfg m job.header).hdr.nchan * (preparedWriter env cfg m job.header).hdr.nsubband *
      (preparedWriter env cfg m job.header).hdr.npol = job.data.length := by
    rw [subbands, products, count, member.nChannels, whole, Int.mul_one, Int.mul_comm]
  have vector : (rowOf env cfg m job)[19]? = some (.singles job.data) := by
    have cell : (rowOf env cfg m job)[19]? = some (.singles (job.data.take ((preparedWriter env cfg m job.header).hdr.nchan *
        (preparedWriter env cfg m job.header).hdr.nsubband * (preparedWriter env cfg m job.header).hdr.npol).toNat)) := rfl
    rw [cell, taken, Int.toNat_natCast, List.take_length]
  have room : (file.vectorLen 20).toNat = job.data.length := by
    rw [length, ← whole, Int.toNat_natCast]
  have data : shownVector (file.vectorLen (columnNumber "DATA")).toNat (file.cells row (columnNumber "DATA")) = job.data := by
    rw [data_column, room, ← data_column, dataColumn, cells, vector, shownVector, List.take_length, Nat.sub_self, List.replicate_zero,
      List.append_nil]
  have exposure : file.cells row (columnNumber "EXPOSURE") = some (.single job.header.exposure) := by
    rw [exposureColumn, cells]
    rfl
  have noise : file.cells row (columnNumber "NOISE") = some (.integer job.header.noiseState.toNat) := by
    rw [noiseColumn, cells]
    rfl
  have time : file.cells row (columnNumber "TIME") = some (.real (env.unixNsToMjd job.header.integrationStartNs)) := by
    rw [timeColumn, cells]
    rfl
  rw [shownRow, data, exposure, noise, time]
  rfl

omit [LinearOrder 𝕜] in
theorem rows_shown (cfg : GlobalConfig F) (m : SkyMetadata F) (band : PackedSpectrumHeader) (file : FitsFile F) (jobs : List SdfitsRow)
    (members : ∀ job ∈ jobs, InBand band job.header) (whole : ∀ job ∈ jobs, (job.data.length : Int) = 4 * band.nChannels.toInt)
    (table : TableOf env cfg m band jobs.length file)
    (cells : ∀ (i : Nat) (job : SdfitsRow), jobs[i]? = some job → ∀ column, file.cells (i + 1) (column + 1) = (rowOf env cfg m job)[column]?) :
    ((List.range file.rows).map fun row => shownRow reading file (row + 1)) = jobs.map (sentRow reading env) := by
  apply List.ext_getElem?
  intro i
  rw [List.getElem?_map, List.getElem?_map, table.rows]
  cases found : jobs[i]? with
  | none => rw [List.getElem?_eq_none (by rw [List.length_range]; exact List.getElem?_eq_none_iff.mp found), Option.map_none, Option.map_none]
  | some job =>
      have inside := (List.getElem?_eq_some_iff.mp found).1
      have listed := List.mem_of_getElem? found
      rw [List.getElem?_range inside, Option.map_some, Option.map_some, row_shown reading env cfg m band file (i + 1) job
        (members job listed) (whole job listed) table.length (cells i job found)]

-- The table of a scan as it was enqueued.
def sentTable (path : String) (header : NumericHeader) (nchan : Nat) (jobs : List SdfitsRow) : ScanTable 𝕜 where
  path
  header
  nchan
  nsub := 1
  npol := 4
  hasExposure := true
  hasNoise := true
  hasTime := true
  rows := jobs.map (sentRow reading env)

def sentLayout (nchan : Nat) (job : SdfitsRow) : List (List (ChannelValue 𝕜)) :=
  (extractProjectLayout (job.data.map reading.single) nchan 1 4 0).toOption.getD []

def sentUsable (nchan : Nat) (job : SdfitsRow) : Option (UsableRow 𝕜) :=
  (sentDiode job).bind fun diode => (sentWeight reading job).map fun weight =>
    ⟨diode, weight, sentLayout reading nchan job, sentTimes reading env job⟩

omit [Field 𝕜] [LinearOrder 𝕜] in
theorem sent_layout (nchan : Nat) (job : SdfitsRow) (whole : job.data.length = 4 * nchan) :
    extractProjectLayout (job.data.map reading.single) nchan 1 4 0 = .ok (sentLayout reading nchan job) := by
  have fits : (job.data.map reading.single).length = nchan * 1 * 4 := by
    rw [List.length_map, whole]
    omega
  obtain ⟨products, layout, _⟩ := extract_layout_element (job.data.map reading.single) nchan 1 4 0 fits Nat.one_pos
  rw [sentLayout, layout]
  rfl

omit [Field 𝕜] [LinearOrder 𝕜] in
theorem sent_value (nchan : Nat) (job : SdfitsRow) (whole : job.data.length = 4 * nchan) (row : UsableRow 𝕜)
    (products : row.products = sentLayout reading nchan job) (p : Product) (c : Nat) (inside : c < nchan) :
    row.value p c = sentValue reading job p c := by
  have index : p.index < 4 := by cases p <;> decide
  have place := (layout_value _ _ nchan 1 4 0 (sent_layout reading nchan job whole) c p.index inside index).2
  have flat : (c * 1 + 0) * 4 + p.index = 4 * c + p.index := by omega
  have below : 4 * c + p.index < job.data.length := by omega
  rw [UsableRow.value, products, place, flat, sentValue, List.getD_eq_getElem?_getD, List.getElem?_map,
    List.getElem?_eq_getElem below, List.getD_eq_getElem?_getD, List.getElem?_eq_getElem below]
  rfl

theorem sent_weight (job : SdfitsRow) (weight : 𝕜) (exposed : reading.single job.header.exposure = .finite weight) :
    sentWeight reading job = if 0 < weight then some weight else none := by
  rw [sentWeight, exposed]

theorem sent_times (path : String) (header : NumericHeader) (nchan : Nat) (jobs : List SdfitsRow) (job : SdfitsRow) (weight : 𝕜)
    (exposed : reading.single job.header.exposure = .finite weight) (positive : 0 < weight) :
    rowTimesMjd (sentTable reading env path header nchan jobs) (sentRow reading env job) = sentTimes reading env job := by
  have counted : (sentWeight reading job).getD 0 = weight := by
    rw [sent_weight reading job weight exposed, if_pos positive, Option.getD_some]
  have given : ¬ ((sentTable reading env path header nchan jobs).hasExposure = false ∨ weight < 0) := by
    rintro (none' | negative)
    · cases none'
    · exact lt_asymm positive negative
  have timed : (sentTable reading env path header nchan jobs).hasTime = true := rfl
  rw [rowTimesMjd, if_pos timed, sentTimes, counted]
  cases read : reading.double (env.unixNsToMjd job.header.integrationStartNs) with
  | finite start => simp only [sentRow, read, exposed, if_neg given]
  | infinite negative => simp only [sentRow, read]
  | nan => simp only [sentRow, read]

-- A row is used with what was enqueued, or not at all.
theorem examine_sent (path : String) (header : NumericHeader) (nchan : Nat) (jobs : List SdfitsRow) (job : SdfitsRow)
    (whole : job.data.length = 4 * nchan) :
    (examineRow (sentTable reading env path header nchan jobs) 0 (sentRow reading env job)).toOption =
      sentUsable reading env nchan job := by
  have layout : extractProjectLayout (sentRow reading env job).data (sentTable reading env path header nchan jobs).nchan
      (sentTable reading env path header nchan jobs).nsub (sentTable reading env path header nchan jobs).npol 0 =
      .ok (sentLayout reading nchan job) := sent_layout reading nchan job whole
  have column : (if (sentTable reading env path header nchan jobs).hasExposure then (sentRow reading env job).exposure else .finite 1) =
      reading.single job.header.exposure := rfl
  have noisy : (sentTable reading env path header nchan jobs).hasNoise = true := rfl
  have noise : (sentRow reading env job).noise = some (job.header.noiseState.toNat : Int) := rfl
  have unweighed : sentWeight reading job = none → sentUsable reading env nchan job = none := by
    intro none'
    rw [sentUsable, none']
    cases sentDiode job <;> rfl
  rw [examineRow, layout]
  simp only [column]
  cases exposed : reading.single job.header.exposure with
  | nan => exact (unweighed (by rw [sentWeight, exposed])).symm
  | infinite negative => exact (unweighed (by rw [sentWeight, exposed])).symm
  | finite weight =>
      by_cases positive : 0 < weight
      · have counted := sent_weight reading job weight exposed
        rw [if_pos positive] at counted
        simp only [if_neg (not_le.mpr positive), noisy, if_true, noise, sent_times reading env path header nchan jobs job weight exposed positive]
        by_cases off : job.header.noiseState = 0
        · have state : sentDiode job = some false := if_pos off
          simp only [sentUsable, state, counted, off]
          rfl
        · by_cases on : job.header.noiseState = 1
          · have state : sentDiode job = some true := by rw [sentDiode, if_neg off, if_pos on]
            simp only [sentUsable, state, counted, on]
            rfl
          · have state : sentDiode job = none := by rw [sentDiode, if_neg off, if_neg on]
            have zero : job.header.noiseState.toNat ≠ 0 := fun same => off (BitVec.eq_of_toNat_eq same)
            have one : job.header.noiseState.toNat ≠ 1 := fun same => on (BitVec.eq_of_toNat_eq same)
            simp only [sentUsable, state, Option.bind_none]
            split
            · rfl
            · next same => exact absurd (Int.ofNat_inj.mp (Option.some.inj same)) zero
            · next same => exact absurd (Int.ofNat_inj.mp (Option.some.inj same)) one
            · rfl
      · have counted := sent_weight reading job weight exposed
        rw [if_neg positive] at counted
        rw [unweighed counted]
        simp only [if_pos (not_lt.mp positive)]
        rfl

theorem used_sent (path : String) (header : NumericHeader) (nchan : Nat) (jobs : List SdfitsRow)
    (whole : ∀ job ∈ jobs, job.data.length = 4 * nchan) :
    usedRows (sentTable reading env path header nchan jobs) 0 = jobs.filterMap (sentUsable reading env nchan) := by
  have rows : (sentTable reading env path header nchan jobs).rows = jobs.map (sentRow reading env) := rfl
  rw [usedRows, rows, List.filterMap_map]
  refine List.filterMap_congr fun job member => ?_
  exact examine_sent reading env path header nchan jobs job (whole job member)

theorem sent_usable_some (nchan : Nat) (job : SdfitsRow) (row : UsableRow 𝕜) (usable : sentUsable reading env nchan job = some row) :
    (∀ d, (decide (sentDiode job = some d) && (sentWeight reading job).isSome) = decide (d = row.diode)) ∧
      (sentWeight reading job).getD 0 = row.weight ∧ sentTimes reading env job = row.times ∧
      row.products = sentLayout reading nchan job := by
  obtain ⟨diode, state, weighed⟩ := Option.bind_eq_some_iff.mp usable
  obtain ⟨weight, counted, rfl⟩ := Option.map_eq_some_iff.mp weighed
  refine ⟨fun d => ?_, by rw [counted, Option.getD_some], rfl, rfl⟩
  rw [state, counted, Option.isSome_some, Bool.and_true]
  exact decide_eq_decide.mpr ⟨fun same => (Option.some.inj same).symm, fun same => congrArg some same.symm⟩

-- A spectrum joins the sums of its diode, or none.
theorem sent_with_skip (nchan : Nat) (job : SdfitsRow) (rest : List SdfitsRow) (none' : sentUsable reading env nchan job = none) (d : Bool) :
    sentWith reading d (job :: rest) = sentWith reading d rest := by
  refine List.filter_cons_of_neg ?_
  cases diode : sentDiode job with
  | none => exact Bool.false_ne_true
  | some state =>
      rw [sentUsable, diode, Option.bind_some, Option.map_eq_none_iff] at none'
      rw [none', Option.isSome_none, Bool.and_false]
      exact Bool.false_ne_true

theorem sent_with_cons (nchan : Nat) (job : SdfitsRow) (rest : List SdfitsRow) (row : UsableRow 𝕜)
    (usable : sentUsable reading env nchan job = some row) (d : Bool) :
    sentWith reading d (job :: rest) = if d = row.diode then job :: sentWith reading d rest else sentWith reading d rest := by
  have kept := (sent_usable_some reading env nchan job row usable).1 d
  by_cases here : d = row.diode
  · rw [if_pos here]
    exact List.filter_cons_of_pos (by rw [kept]; exact decide_eq_true here)
  · rw [if_neg here]
    exact List.filter_cons_of_neg (by rw [kept]; exact fun true' => here (of_decide_eq_true true'))

-- A sum over the used rows of one diode state is one over the spectra.
theorem sum_sent (nchan : Nat) (jobs : List SdfitsRow) (d : Bool) (share : UsableRow 𝕜 → 𝕜) (sent : SdfitsRow → 𝕜)
    (other : ∀ row, d ≠ row.diode → share row = 0)
    (same : ∀ job ∈ jobs, ∀ row, sentUsable reading env nchan job = some row → d = row.diode → share row = sent job) :
    ((jobs.filterMap (sentUsable reading env nchan)).map share).sum = ((sentWith reading d jobs).map sent).sum := by
  induction jobs with
  | nil => rfl
  | cons job rest ih =>
      have later := ih fun next member => same next (List.mem_cons_of_mem job member)
      cases usable : sentUsable reading env nchan job with
      | none =>
          rw [List.filterMap_cons_none usable, sent_with_skip reading env nchan job rest usable]
          exact later
      | some row =>
          rw [List.filterMap_cons_some usable, List.map_cons, List.sum_cons, later, sent_with_cons reading env nchan job rest row usable]
          by_cases here : d = row.diode
          · rw [if_pos here, List.map_cons, List.sum_cons, same job List.mem_cons_self row usable here]
          · rw [if_neg here, other row here, zero_add]

theorem fold_exposure (used : List (UsableRow 𝕜)) (sums : ScanSums 𝕜) (d : Bool) :
    (used.foldl addRow sums).totalExposure d =
      sums.totalExposure d + (used.map fun row => if d = row.diode then row.weight else 0).sum := by
  induction used generalizing sums with
  | nil => simp
  | cons row rest ih => rw [List.foldl_cons, ih, add_row_exposure, List.map_cons, List.sum_cons, add_assoc]

theorem fold_start (used : List (UsableRow 𝕜)) (sums : ScanSums 𝕜) :
    (used.foldl addRow sums).startMjd =
      used.foldl (fun start row => joinTime earliest start ((timesOf row).map Prod.fst)) sums.startMjd := by
  induction used generalizing sums with
  | nil => rfl
  | cons row rest ih => rw [List.foldl_cons, ih, add_row_start, List.foldl_cons]

theorem fold_end (used : List (UsableRow 𝕜)) (sums : ScanSums 𝕜) :
    (used.foldl addRow sums).endMjd =
      used.foldl (fun stop row => joinTime latest stop ((timesOf row).map Prod.snd)) sums.endMjd := by
  induction used generalizing sums with
  | nil => rfl
  | cons row rest ih => rw [List.foldl_cons, ih, add_row_end, List.foldl_cons]

theorem times_sent (nchan : Nat) (jobs : List SdfitsRow) (pick : Option 𝕜 → 𝕜 → 𝕜) (side : 𝕜 × 𝕜 → 𝕜) (known : Option 𝕜) :
    (jobs.filterMap (sentUsable reading env nchan)).foldl (fun known row => joinTime pick known ((timesOf row).map side)) known =
      ((sentWith reading false jobs).map (sentTimes reading env)).foldl (fun known row => joinTime pick known (row.map side)) known := by
  induction jobs generalizing known with
  | nil => rfl
  | cons job rest ih =>
      cases usable : sentUsable reading env nchan job with
      | none => rw [List.filterMap_cons_none usable, sent_with_skip reading env nchan job rest usable, ih]
      | some row =>
          have times := (sent_usable_some reading env nchan job row usable).2.2.1
          rw [List.filterMap_cons_some usable, List.foldl_cons, ih, timesOf, sent_with_cons reading env nchan job rest row usable]
          cases here : row.diode with
          | false => rw [if_pos rfl, List.map_cons, List.foldl_cons, times, if_neg Bool.false_ne_true]
          | true =>
              rw [if_neg Bool.false_ne_true, if_pos rfl]
              rfl

theorem count_sent (nchan : Nat) (jobs : List SdfitsRow) (d : Bool) :
    (jobs.filterMap (sentUsable reading env nchan)).countP (fun row => d = row.diode) = (sentWith reading d jobs).length := by
  induction jobs with
  | nil => rfl
  | cons job rest ih =>
      cases usable : sentUsable reading env nchan job with
      | none => rw [List.filterMap_cons_none usable, sent_with_skip reading env nchan job rest usable, ih]
      | some row =>
          rw [List.filterMap_cons_some usable, List.countP_cons, ih, sent_with_cons reading env nchan job rest row usable]
          by_cases here : d = row.diode
          · rw [if_pos here, if_pos (decide_eq_true here), List.length_cons]
          · rw [if_neg here, if_neg fun true' => here (of_decide_eq_true true')]
            rfl

section

variable (path : String) (header : NumericHeader) (nchan : Nat) (jobs : List SdfitsRow)
  (whole : ∀ job ∈ jobs, job.data.length = 4 * nchan)

include whole

theorem sent_mean (p : Product) (d : Bool) :
    meanSpectrum nchan (scanSums (sentTable reading env path header nchan jobs) 0) p d =
      (List.range nchan).map (sentMean reading jobs d p) := by
  refine List.map_congr_left fun c member => ?_
  have inside := List.mem_range.mp member
  have value := fun job listed row usable =>
    sent_value reading nchan job (whole job listed) row (sent_usable_some reading env nchan job row usable).2.2.2 p c inside
  rw [scan_sums_used, used_sent reading env path header nchan jobs whole, fold_sum, fold_weight, sentMean]
  rw [sum_sent reading env nchan jobs d (fun row => joined row p d c (row.value p c).orZero)
      (fun job => (sentValue reading job p c).orZero),
    sum_sent reading env nchan jobs d (fun row => joined row p d c row.weight)
      (fun job => if (sentValue reading job p c).isFinite then (sentWeight reading job).getD 0 else 0)]
  · change divideWhere (0 + _) (0 + _) = _
    rw [zero_add, zero_add]
  · exact fun row other => if_neg fun both => other both.1
  · intro job listed row usable here
    rw [joined, value job listed row usable, (sent_usable_some reading env nchan job row usable).2.1]
    by_cases finite_ : (sentValue reading job p c).isFinite = true
    · rw [if_pos ⟨here, finite_⟩, if_pos finite_]
    · rw [if_neg fun both => finite_ both.2, if_neg finite_]
  · exact fun row other => if_neg fun both => other both.1
  · intro job listed row usable here
    rw [joined, value job listed row usable]
    cases shown : sentValue reading job p c with
    | finite x => exact if_pos ⟨here, rfl⟩
    | infinite negative => exact if_neg fun both => Bool.false_ne_true both.2
    | nan => exact if_neg fun both => Bool.false_ne_true both.2

theorem sent_used (d : Bool) :
    (scanSums (sentTable reading env path header nchan jobs) 0).rowsUsed d = (sentWith reading d jobs).length := by
  rw [scan_sums_used, used_sent reading env path header nchan jobs whole, fold_used, count_sent]
  exact Nat.zero_add _

theorem sent_exposure (d : Bool) :
    (scanSums (sentTable reading env path header nchan jobs) 0).totalExposure d = sentExposure reading jobs d := by
  rw [scan_sums_used, used_sent reading env path header nchan jobs whole, fold_exposure,
    sum_sent reading env nchan jobs d (fun row => if d = row.diode then row.weight else 0) fun job => (sentWeight reading job).getD 0]
  · exact zero_add _
  · exact fun row other => if_neg other
  · intro job _ row usable here
    rw [if_pos here, (sent_usable_some reading env nchan job row usable).2.1]

theorem sent_scan (axis : List ℚ) :
    scanSpectrum (sentTable reading env path header nchan jobs) axis (scanSums (sentTable reading env path header nchan jobs) 0) =
      sentSpectrum reading env nchan axis jobs := by
  have channels : (sentTable reading env path header nchan jobs).nchan = nchan := rfl
  have start : (scanSums (sentTable reading env path header nchan jobs) 0).startMjd =
      (sentSpectrum reading env nchan axis jobs).startMjd := by
    rw [scan_sums_used, used_sent reading env path header nchan jobs whole, fold_start]
    exact times_sent reading env nchan jobs earliest Prod.fst none
  have stop : (scanSums (sentTable reading env path header nchan jobs) 0).endMjd =
      (sentSpectrum reading env nchan axis jobs).endMjd := by
    rw [scan_sums_used, used_sent reading env path header nchan jobs whole, fold_end]
    exact times_sent reading env nchan jobs latest Prod.snd none
  have cal : ∀ p, (if 0 < (sentWith reading true jobs).length then some ((List.range nchan).map (sentMean reading jobs true p)) else none) =
      if sentWith reading true jobs = [] then none else some ((List.range nchan).map (sentMean reading jobs true p)) := by
    intro p
    cases sentWith reading true jobs <;> rfl
  rw [scanSpectrum, start, stop]
  simp only [channels, sent_mean reading env path header nchan jobs whole, sent_used reading env path header nchan jobs whole,
    sent_exposure reading env path header nchan jobs whole, cal]
  rfl

theorem integrate_sent (frequency : FrequencyOptions) (axis : List ℚ) (axisDone : frequencyAxisMhz header nchan frequency = .ok axis) :
    integrateSdfits (sentTable reading env path header nchan jobs) 0 frequency =
      if sentWith reading false jobs = [] then .error ("No valid spectra" ++ " with NOISE=0" ++ " found in " ++ path)
      else .ok (sentSpectrum reading env nchan axis jobs) := by
  have inside : (0 : Int) ≤ 0 ∧ (0 : Int) < (sentTable reading env path header nchan jobs).nsub := ⟨le_refl 0, Int.one_pos⟩
  have products : 2 ≤ (sentTable reading env path header nchan jobs).npol := by
    show 2 ≤ 4
    decide
  have axisDone' : frequencyAxisMhz (sentTable reading env path header nchan jobs).header
      (sentTable reading env path header nchan jobs).nchan frequency = .ok axis := axisDone
  have used := sent_used reading env path header nchan jobs whole false
  by_cases none' : sentWith reading false jobs = []
  · have unused : (scanSums (sentTable reading env path header nchan jobs) (0 : Int).toNat).rowsUsed false = 0 := by
      rw [Int.toNat_zero, used, none']
      rfl
    rw [if_pos none', integrateSdfits, bind_clear _ _ _ (not_not.mpr inside), bind_clear _ _ _ (Nat.not_lt.mpr products),
      bind_value _ _ _ axisDone', bind_stop _ _ _ unused]
    rfl
  · have some_ : 0 < (scanSums (sentTable reading env path header nchan jobs) (0 : Int).toNat).rowsUsed false := by
      rw [Int.toNat_zero, used]
      exact List.length_pos_iff.mpr none'
    rw [if_neg none', integrate_ok _ 0 frequency axis inside products axisDone' some_, Int.toNat_zero,
      sent_scan reading env path header nchan jobs whole]

end

end

-- The numbers of a file read without rounding.
structure ExactReading {F 𝕜 : Type} (env : WriterEnv F) (reading : CellReading F 𝕜) : Prop where
  lit : ∀ q, reading.number (env.config.double.lit q) = some q
  add : ∀ x y a b, reading.number x = some a → reading.number y = some b → reading.number (env.config.double.add x y) = some (a + b)
  mul : ∀ x y a b, reading.number x = some a → reading.number y = some b → reading.number (env.config.double.mul x y) = some (a * b)
  div : ∀ x y a b, reading.number x = some a → reading.number y = some b → b ≠ 0 →
    reading.number (env.config.double.div x y) = some (a / b)

-- The default unit takes an OBSFREQ from 10 MHz on as hertz.
def InHertz (unit : String) (obsfreq : ℚ) : Prop := unit = "hz" ∨ unit = "auto" ∧ 10000000 ≤ |obsfreq|

theorem in_hertz (unit : String) (obsfreq width : ℚ) (hertz : InHertz unit obsfreq) :
    normalizeFrequencyUnit obsfreq width unit = .ok (obsfreq / 1000000, width / 1000000) := if_pos hertz

section

variable {F 𝕜 : Type} [Field 𝕜] [LinearOrder 𝕜] (env : WriterEnv F) (reading : CellReading F 𝕜) (exact' : ExactReading env reading)
  (cfg : GlobalConfig F) (m : SkyMetadata F)

-- The axis of the transport header, channel by channel.
def sentAxis (nchan : Nat) (start width : ℚ) : List ℚ := channelAxis nchan fun k => (start + k * width) / 1000000

include exact'

omit [Field 𝕜] [LinearOrder 𝕜] in
theorem axis_shown (band : PackedSpectrumHeader) (count : Nat) (file : FitsFile F) (table : TableOf env cfg m band count file)
    (start width : ℚ) (startRead : reading.number (env.ofBits band.startFreqHz) = some start)
    (widthRead : reading.number (env.ofBits band.channelBwHz) = some width) (unit : String)
    (hertz : InHertz unit (start + width * band.nChannels.toNat / 2)) :
    frequencyAxisMhz (shownHeader reading file) band.nChannels.toNat { headerFrequencyUnit := unit } =
      .ok (sentAxis band.nChannels.toNat start width) := by
  obtain ⟨_, _, _, step, centre⟩ := prepared_sizes env cfg m band
  have obsfreqCard := table.cards ("OBSFREQ", .real (preparedWriter env cfg m band).hdr.obsfreq) (by simp [readCards])
  have chanBwCard := table.cards ("CHAN_BW", .real (preparedWriter env cfg m band).hdr.chanBw) (by simp [readCards])
  have centreRead : reading.number (preparedWriter env cfg m band).hdr.obsfreq = some (start + width * band.nChannels.toNat / 2) := by
    rw [centre]
    exact exact'.add _ _ _ _ startRead (exact'.div _ _ _ _ (exact'.mul _ _ _ _ widthRead (exact'.lit _)) (exact'.lit _) two_ne_zero)
  have obsfreqKey : shownHeader reading file "OBSFREQ" = some (start + width * band.nChannels.toNat / 2) := by
    rw [shownHeader, obsfreqCard, ← centreRead]
  have chanBwKey : shownHeader reading file "CHAN_BW" = some width := by
    rw [shownHeader, chanBwCard, ← widthRead, ← step]
  rw [header_frequency_axis _ _ _ _ _ _ unit obsfreqKey chanBwKey (in_hertz unit _ width hertz), bandCenterAxis, sentAxis]
  refine congrArg Except.ok (channel_axis_congr _ _ _ fun k _ => ?_)
  ring

end

end SpectralLine
