import Mathlib.Data.List.Forall2
import Mathlib.Data.List.Perm.Basic
import SpectralLine.SpectralDims
import SpectralLine.SmoothSpectrum
import SpectralLine.FrequencyAxis

set_option autoImplicit false

namespace SpectralLine

open Checked

-- A row of an SDFITS table; `noise` is int() of its NOISE cell, where that
-- succeeds.
structure ScanRow (𝕜 : Type) where
  data : List (ChannelValue 𝕜)
  exposure : ChannelValue 𝕜
  noise : Option Int
  time : ChannelValue 𝕜

structure ScanTable (𝕜 : Type) where
  path : String
  header : NumericHeader
  nchan : Nat
  nsub : Nat
  npol : Nat
  hasExposure : Bool
  hasNoise : Bool
  hasTime : Bool
  rows : List (ScanRow 𝕜)

structure IntegratedSpectrum (𝕜 : Type) where
  xx : List (ChannelValue 𝕜)
  yy : List (ChannelValue 𝕜)
  calXx : Option (List (ChannelValue 𝕜))
  calYy : Option (List (ChannelValue 𝕜))
  frequencyMhz : List ℚ
  startMjd : Option 𝕜
  endMjd : Option 𝕜
  rowsUsed : Nat
  exposureS : ChannelValue 𝕜
  calRowsUsed : Nat
  calExposureS : ChannelValue 𝕜

-- A row that passed the checks of the loop; `diode` is noise_state = 1.
structure UsableRow (𝕜 : Type) where
  diode : Bool
  weight : 𝕜
  products : List (List (ChannelValue 𝕜))
  times : Option (𝕜 × 𝕜)

inductive Product where
  | xx
  | yy
deriving DecidableEq

def Product.index : Product → Nat
  | .xx => 0
  | .yy => 1

-- The (2, nchan) arrays of the loop, by product.
structure ScanSums (𝕜 : Type) where
  sum : Product → Bool → Nat → 𝕜
  weight : Product → Bool → Nat → 𝕜
  rowsUsed : Bool → Nat
  totalExposure : Bool → 𝕜
  startMjd : Option 𝕜
  endMjd : Option 𝕜

section

variable {𝕜 : Type} [Field 𝕜] [LinearOrder 𝕜]

def rowTimesMjd (table : ScanTable 𝕜) (row : ScanRow 𝕜) : Option (𝕜 × 𝕜) :=
  if table.hasTime then
    match row.time with
    | .finite start =>
        let exposure :=
          match row.exposure with
          | .finite value => if table.hasExposure = false ∨ value < 0 then 0 else value
          | _ => 0
        some (start, start + exposure / ((86400 : Nat) : 𝕜))
    | _ => none
  else none

-- The checks of a row: why it is skipped, where a warning says so.
def examineRow (table : ScanTable 𝕜) (sbIndex : Nat) (row : ScanRow 𝕜) : Except (Option String) (UsableRow 𝕜) :=
  match extractProjectLayout row.data table.nchan table.nsub table.npol sbIndex with
  | .error reason => .error (some reason)
  | .ok products =>
      match if table.hasExposure then row.exposure else .finite 1 with
      | .finite weight =>
          if weight ≤ 0 then .error (some "invalid exposure")
          else if table.hasNoise then
            match row.noise with
            | none => .error (some "invalid NOISE state")
            | some 0 => .ok ⟨false, weight, products, rowTimesMjd table row⟩
            | some 1 => .ok ⟨true, weight, products, rowTimesMjd table row⟩
            | some _ => .error none
          else .ok ⟨false, weight, products, rowTimesMjd table row⟩
      | _ => .error (some "invalid exposure")

def UsableRow.value (row : UsableRow 𝕜) (p : Product) (c : Nat) : ChannelValue 𝕜 := (row.products.getD c []).getD p.index .nan

def ScanSums.zero : ScanSums 𝕜 := ⟨fun _ _ _ => 0, fun _ _ _ => 0, fun _ => 0, fun _ => 0, none, none⟩

def earliest (start : Option 𝕜) (rowStart : 𝕜) : 𝕜 :=
  match start with
  | none => rowStart
  | some start => min start rowStart

def latest (stop : Option 𝕜) (rowEnd : 𝕜) : 𝕜 :=
  match stop with
  | none => rowEnd
  | some stop => max stop rowEnd

def addTimes (sums : ScanSums 𝕜) (row : UsableRow 𝕜) : ScanSums 𝕜 :=
  if row.diode then sums
  else
    match row.times with
    | none => sums
    | some (rowStart, rowEnd) =>
        { sums with startMjd := some (earliest sums.startMjd rowStart), endMjd := some (latest sums.endMjd rowEnd) }

def addRow (sums : ScanSums 𝕜) (row : UsableRow 𝕜) : ScanSums 𝕜 :=
  addTimes
    { sums with
      sum := fun p d c =>
        if d = row.diode ∧ (row.value p c).isFinite then sums.sum p d c + (row.value p c).orZero else sums.sum p d c
      weight := fun p d c => if d = row.diode ∧ (row.value p c).isFinite then sums.weight p d c + row.weight else sums.weight p d c
      rowsUsed := fun d => if d = row.diode then sums.rowsUsed d + 1 else sums.rowsUsed d
      totalExposure := fun d => if d = row.diode then sums.totalExposure d + row.weight else sums.totalExposure d } row

def scanRow (table : ScanTable 𝕜) (sbIndex : Nat) (sums : ScanSums 𝕜) (row : ScanRow 𝕜) : ScanSums 𝕜 :=
  match examineRow table sbIndex row with
  | .ok usable => addRow sums usable
  | .error _ => sums

def scanSums (table : ScanTable 𝕜) (sbIndex : Nat) : ScanSums 𝕜 := table.rows.foldl (scanRow table sbIndex) .zero

def scanWarnings (table : ScanTable 𝕜) (sbIndex : Nat) : List String :=
  table.rows.zipIdx.filterMap fun (row, rowIndex) =>
    match examineRow table sbIndex row with
    | .error (some reason) => some ("Skipping row " ++ toString rowIndex ++ " in " ++ table.path ++ ": " ++ reason)
    | _ => none

def meanSpectrum (nchan : Nat) (sums : ScanSums 𝕜) (p : Product) (diode : Bool) : List (ChannelValue 𝕜) :=
  (List.range nchan).map fun c => divideWhere (sums.sum p diode c) (sums.weight p diode c)

def exposureOf (table : ScanTable 𝕜) (total : 𝕜) : ChannelValue 𝕜 := if table.hasExposure then .finite total else .nan

def scanSpectrum (table : ScanTable 𝕜) (frequencyMhz : List ℚ) (sums : ScanSums 𝕜) : IntegratedSpectrum 𝕜 :=
  let cal := fun p => if 0 < sums.rowsUsed true then some (meanSpectrum table.nchan sums p true) else none
  { xx := meanSpectrum table.nchan sums .xx false
    yy := meanSpectrum table.nchan sums .yy false
    calXx := cal .xx
    calYy := cal .yy
    frequencyMhz
    startMjd := sums.startMjd
    endMjd := sums.endMjd
    rowsUsed := sums.rowsUsed false
    exposureS := exposureOf table (sums.totalExposure false)
    calRowsUsed := sums.rowsUsed true
    calExposureS := exposureOf table (sums.totalExposure true) }

def integrateSdfits (table : ScanTable 𝕜) (sbIndex : Int) (frequency : FrequencyOptions) : Except String (IntegratedSpectrum 𝕜) := do
  refuse (¬ (0 ≤ sbIndex ∧ sbIndex < table.nsub))
    ("Subband index " ++ toString sbIndex ++ " is outside [0, " ++ toString ((table.nsub : Int) - 1) ++ "]")
  refuse (table.npol < 2) "At least two correlation products (XX and YY) are required"
  let frequencyMhz ← frequencyAxisMhz table.header table.nchan frequency
  let sums := scanSums table sbIndex.toNat
  refuse (sums.rowsUsed false = 0)
    ("No valid spectra" ++ (if table.hasNoise then " with NOISE=0" else "") ++ " found in " ++ table.path)
  return scanSpectrum table frequencyMhz sums

def usedRows (table : ScanTable 𝕜) (sbIndex : Nat) : List (UsableRow 𝕜) :=
  table.rows.filterMap fun row => (examineRow table sbIndex row).toOption

theorem scan_sums_used (table : ScanTable 𝕜) (sbIndex : Nat) :
    scanSums table sbIndex = (usedRows table sbIndex).foldl addRow .zero := by
  rw [scanSums, usedRows, List.foldl_filterMap]
  congr 1
  funext sums row
  rw [scanRow]
  cases examineRow table sbIndex row with
  | ok usable => rfl
  | error reason => rfl

omit [Field 𝕜] in
theorem add_times_kept (sums : ScanSums 𝕜) (row : UsableRow 𝕜) :
    (addTimes sums row).sum = sums.sum ∧ (addTimes sums row).weight = sums.weight ∧
    (addTimes sums row).rowsUsed = sums.rowsUsed ∧ (addTimes sums row).totalExposure = sums.totalExposure := by
  rw [addTimes]
  split
  · exact ⟨rfl, rfl, rfl, rfl⟩
  · split <;> exact ⟨rfl, rfl, rfl, rfl⟩

@[simp] theorem add_row_sum (sums : ScanSums 𝕜) (row : UsableRow 𝕜) (p : Product) (d : Bool) (c : Nat) :
    (addRow sums row).sum p d c =
      sums.sum p d c + if d = row.diode ∧ (row.value p c).isFinite = true then (row.value p c).orZero else 0 := by
  rw [addRow, (add_times_kept _ row).1]
  by_cases joins : d = row.diode ∧ (row.value p c).isFinite = true
  · simp only [if_pos joins]
  · simp only [if_neg joins, add_zero]

@[simp] theorem add_row_weight (sums : ScanSums 𝕜) (row : UsableRow 𝕜) (p : Product) (d : Bool) (c : Nat) :
    (addRow sums row).weight p d c =
      sums.weight p d c + if d = row.diode ∧ (row.value p c).isFinite = true then row.weight else 0 := by
  rw [addRow, (add_times_kept _ row).2.1]
  by_cases joins : d = row.diode ∧ (row.value p c).isFinite = true
  · simp only [if_pos joins]
  · simp only [if_neg joins, add_zero]

@[simp] theorem add_row_used (sums : ScanSums 𝕜) (row : UsableRow 𝕜) (d : Bool) :
    (addRow sums row).rowsUsed d = sums.rowsUsed d + if d = row.diode then 1 else 0 := by
  rw [addRow, (add_times_kept _ row).2.2.1]
  by_cases joins : d = row.diode
  · simp only [if_pos joins]
  · simp only [if_neg joins, add_zero]

@[simp] theorem add_row_exposure (sums : ScanSums 𝕜) (row : UsableRow 𝕜) (d : Bool) :
    (addRow sums row).totalExposure d = sums.totalExposure d + if d = row.diode then row.weight else 0 := by
  rw [addRow, (add_times_kept _ row).2.2.2]
  by_cases joins : d = row.diode
  · simp only [if_pos joins]
  · simp only [if_neg joins, add_zero]

-- Only rows with the diode off have a say in the times.
def timesOf (row : UsableRow 𝕜) : Option (𝕜 × 𝕜) := if row.diode then none else row.times

def joinTime (pick : Option 𝕜 → 𝕜 → 𝕜) (known : Option 𝕜) (time : Option 𝕜) : Option 𝕜 :=
  match time with
  | none => known
  | some time => some (pick known time)

@[simp] theorem add_row_start (sums : ScanSums 𝕜) (row : UsableRow 𝕜) :
    (addRow sums row).startMjd = joinTime earliest sums.startMjd ((timesOf row).map Prod.fst) := by
  rw [addRow, addTimes, timesOf]
  cases row.diode with
  | true => rfl
  | false => cases row.times <;> rfl

@[simp] theorem add_row_end (sums : ScanSums 𝕜) (row : UsableRow 𝕜) :
    (addRow sums row).endMjd = joinTime latest sums.endMjd ((timesOf row).map Prod.snd) := by
  rw [addRow, addTimes, timesOf]
  cases row.diode with
  | true => rfl
  | false => cases row.times <;> rfl

omit [Field 𝕜] in
theorem join_earliest_comm (known a b : Option 𝕜) :
    joinTime earliest (joinTime earliest known a) b = joinTime earliest (joinTime earliest known b) a := by
  cases a with
  | none => rfl
  | some a =>
      cases b with
      | none => rfl
      | some b =>
          cases known with
          | none => exact congrArg some (min_comm a b)
          | some known => exact congrArg some (min_right_comm known a b)

omit [Field 𝕜] in
theorem join_latest_comm (known a b : Option 𝕜) :
    joinTime latest (joinTime latest known a) b = joinTime latest (joinTime latest known b) a := by
  cases a with
  | none => rfl
  | some a =>
      cases b with
      | none => rfl
      | some b =>
          cases known with
          | none => exact congrArg some (max_comm a b)
          | some known => exact congrArg some (max_right_comm known a b)

omit [Field 𝕜] [LinearOrder 𝕜] in
theorem scan_sums_ext (a b : ScanSums 𝕜) (sum : ∀ p d c, a.sum p d c = b.sum p d c)
    (weight : ∀ p d c, a.weight p d c = b.weight p d c) (used : ∀ d, a.rowsUsed d = b.rowsUsed d)
    (exposure : ∀ d, a.totalExposure d = b.totalExposure d) (start : a.startMjd = b.startMjd) (stop : a.endMjd = b.endMjd) :
    a = b := by
  cases a
  cases b
  simp only [ScanSums.mk.injEq]
  exact ⟨funext₃ sum, funext₃ weight, funext used, funext exposure, start, stop⟩

theorem add_row_comm (sums : ScanSums 𝕜) (a b : UsableRow 𝕜) : addRow (addRow sums a) b = addRow (addRow sums b) a := by
  apply scan_sums_ext
  · intro p d c
    simp only [add_row_sum]
    exact add_right_comm _ _ _
  · intro p d c
    simp only [add_row_weight]
    exact add_right_comm _ _ _
  · intro d
    simp only [add_row_used]
    exact Nat.add_right_comm _ _ _
  · intro d
    simp only [add_row_exposure]
    exact add_right_comm _ _ _
  · simp only [add_row_start]
    exact join_earliest_comm _ _ _
  · simp only [add_row_end]
    exact join_latest_comm _ _ _

theorem scan_sums_perm (table : ScanTable 𝕜) (sbIndex : Nat) (rows : List (ScanRow 𝕜)) (shuffled : rows.Perm table.rows) :
    scanSums { table with rows } sbIndex = scanSums table sbIndex := by
  rw [scan_sums_used, scan_sums_used]
  have used : (usedRows { table with rows } sbIndex).Perm (usedRows table sbIndex) := shuffled.filterMap _
  exact used.foldl_eq' (fun a _ b _ sums => add_row_comm sums a b) .zero

theorem integrate_perm (table : ScanTable 𝕜) (sbIndex : Int) (frequency : FrequencyOptions)
    (rows : List (ScanRow 𝕜)) (shuffled : rows.Perm table.rows) :
    integrateSdfits { table with rows } sbIndex frequency = integrateSdfits table sbIndex frequency := by
  simp only [integrateSdfits, scan_sums_perm table sbIndex.toNat rows shuffled]
  rfl

def joined (row : UsableRow 𝕜) (p : Product) (d : Bool) (c : Nat) (share : 𝕜) : 𝕜 :=
  if d = row.diode ∧ (row.value p c).isFinite = true then share else 0

theorem fold_sum (used : List (UsableRow 𝕜)) (sums : ScanSums 𝕜) (p : Product) (d : Bool) (c : Nat) :
    (used.foldl addRow sums).sum p d c =
      sums.sum p d c + (used.map fun row => joined row p d c (row.value p c).orZero).sum := by
  induction used generalizing sums with
  | nil => simp
  | cons row rest ih => rw [List.foldl_cons, ih, add_row_sum, List.map_cons, List.sum_cons, joined, add_assoc]

theorem fold_weight (used : List (UsableRow 𝕜)) (sums : ScanSums 𝕜) (p : Product) (d : Bool) (c : Nat) :
    (used.foldl addRow sums).weight p d c = sums.weight p d c + (used.map fun row => joined row p d c row.weight).sum := by
  induction used generalizing sums with
  | nil => simp
  | cons row rest ih => rw [List.foldl_cons, ih, add_row_weight, List.map_cons, List.sum_cons, joined, add_assoc]

theorem fold_used (used : List (UsableRow 𝕜)) (sums : ScanSums 𝕜) (d : Bool) :
    (used.foldl addRow sums).rowsUsed d = sums.rowsUsed d + used.countP fun row => d = row.diode := by
  induction used generalizing sums with
  | nil => simp
  | cons row rest ih =>
      rw [List.foldl_cons, ih, add_row_used, List.countP_cons, Nat.add_assoc]
      congr 1
      by_cases same : d = row.diode
      · simp [same, Nat.add_comm]
      · simp [same]

theorem rows_used_some (table : ScanTable 𝕜) (sbIndex : Nat) (d : Bool) :
    0 < (scanSums table sbIndex).rowsUsed d ↔ ∃ row ∈ usedRows table sbIndex, row.diode = d := by
  rw [scan_sums_used, fold_used]
  change 0 < 0 + _ ↔ _
  rw [Nat.zero_add, List.countP_pos_iff]
  simp [eq_comm]

-- What a row that is used has passed.
theorem examine_row_ok (table : ScanTable 𝕜) (sbIndex : Nat) (row : ScanRow 𝕜) (usable : UsableRow 𝕜)
    (passed : examineRow table sbIndex row = .ok usable) :
    extractProjectLayout row.data table.nchan table.nsub table.npol sbIndex = .ok usable.products ∧ 0 < usable.weight := by
  unfold examineRow at passed
  split at passed
  · cases passed
  · rename_i products layout
    split at passed
    · rename_i weight finite
      split_ifs at passed with bad noise
      · split at passed
        · cases passed
        · cases passed
          exact ⟨layout, not_le.mp bad⟩
        · cases passed
          exact ⟨layout, not_le.mp bad⟩
        · cases passed
      · cases passed
        exact ⟨layout, not_le.mp bad⟩
    · cases passed

theorem used_row_passed (table : ScanTable 𝕜) (sbIndex : Nat) (usable : UsableRow 𝕜) (member : usable ∈ usedRows table sbIndex) :
    ∃ row ∈ table.rows, examineRow table sbIndex row = .ok usable := by
  obtain ⟨row, listed, passed⟩ := List.mem_filterMap.mp member
  refine ⟨row, listed, ?_⟩
  cases examined : examineRow table sbIndex row with
  | ok other =>
      rw [examined] at passed
      rw [Option.some.inj passed]
  | error reason =>
      rw [examined] at passed
      cases passed

-- The rows of a scan hold, for their exposure, powers that depend on the
-- product, the diode and the channel only.
def Steady (table : ScanTable 𝕜) (sbIndex : Nat) (power : Product → Bool → Nat → 𝕜) : Prop :=
  ∀ row ∈ usedRows table sbIndex, ∀ p, ∀ c < table.nchan, row.value p c = .finite (row.weight * power p row.diode c)

variable [IsStrictOrderedRing 𝕜]

theorem steady_mean (table : ScanTable 𝕜) (sbIndex : Nat) (power : Product → Bool → Nat → 𝕜)
    (steady : Steady table sbIndex power) (p : Product) (d : Bool) (some_ : 0 < (scanSums table sbIndex).rowsUsed d) :
    meanSpectrum table.nchan (scanSums table sbIndex) p d = (List.range table.nchan).map fun c => .finite (power p d c) := by
  obtain ⟨first, listed, state⟩ := (rows_used_some table sbIndex d).mp some_
  have positive : ∀ row ∈ usedRows table sbIndex, 0 < row.weight := by
    intro row member
    obtain ⟨source, _, passed⟩ := used_row_passed table sbIndex row member
    exact (examine_row_ok table sbIndex source row passed).2
  refine List.map_congr_left fun c inside => ?_
  rw [List.mem_range] at inside
  have shares : (usedRows table sbIndex).map (fun row => joined row p d c (row.value p c).orZero) =
      (usedRows table sbIndex).map fun row => power p d c * joined row p d c row.weight := by
    refine List.map_congr_left fun row member => ?_
    rw [joined, joined, steady row member p c inside]
    by_cases same : d = row.diode
    · rw [if_pos ⟨same, rfl⟩, if_pos ⟨same, rfl⟩, ← same, mul_comm]
      rfl
    · rw [if_neg fun both => same both.1, if_neg fun both => same both.1, mul_zero]
  have total : 0 < ((usedRows table sbIndex).map fun row => joined row p d c row.weight).sum := by
    have nonneg : ∀ share ∈ (usedRows table sbIndex).map (fun row => joined row p d c row.weight), 0 ≤ share := by
      intro share member
      obtain ⟨row, inList, rfl⟩ := List.mem_map.mp member
      rw [joined]
      split_ifs
      · exact (positive row inList).le
      · exact le_refl 0
    have counted : joined first p d c first.weight = first.weight := by
      rw [joined, steady first listed p c inside, if_pos ⟨state.symm, rfl⟩]
    refine lt_of_lt_of_le (positive first listed) ?_
    rw [← counted]
    exact List.single_le_sum nonneg _ (List.mem_map_of_mem (f := fun row => joined row p d c row.weight) listed)
  rw [scan_sums_used, fold_sum, fold_weight, shares]
  change divideWhere (0 + _) (0 + _) = _
  rw [zero_add, zero_add, List.sum_map_mul_left, divideWhere, if_pos total, mul_div_cancel_right₀ _ total.ne']

omit [IsStrictOrderedRing 𝕜] in
theorem integrate_ok (table : ScanTable 𝕜) (sbIndex : Int) (frequency : FrequencyOptions) (axis : List ℚ)
    (inside : 0 ≤ sbIndex ∧ sbIndex < table.nsub) (products : 2 ≤ table.npol)
    (axisDone : frequencyAxisMhz table.header table.nchan frequency = .ok axis)
    (some_ : 0 < (scanSums table sbIndex.toNat).rowsUsed false) :
    integrateSdfits table sbIndex frequency = .ok (scanSpectrum table axis (scanSums table sbIndex.toNat)) := by
  rw [integrateSdfits, bind_clear _ _ _ (not_not.mpr inside), bind_clear _ _ _ (Nat.not_lt.mpr products), bind_value _ _ _ axisDone,
    bind_clear _ _ _ some_.ne']
  rfl

def scaleChannel (gain : 𝕜) : ChannelValue 𝕜 → ChannelValue 𝕜
  | .finite value => .finite (gain * value)
  | other => other

-- The same scan through other gains: product k mod npol of channel
-- k / (nsub npol) is scaled.
def scaleRow (table : ScanTable 𝕜) (gain : Nat → Nat → 𝕜) (row : ScanRow 𝕜) : ScanRow 𝕜 :=
  { row with data := row.data.mapIdx fun k value => scaleChannel (gain (k % table.npol) (k / (table.nsub * table.npol))) value }

def scaleTable (table : ScanTable 𝕜) (gain : Nat → Nat → 𝕜) : ScanTable 𝕜 :=
  { table with rows := table.rows.map (scaleRow table gain) }

structure Rescaled (table : ScanTable 𝕜) (gain : Nat → Nat → 𝕜) (row scaled : UsableRow 𝕜) : Prop where
  diode : scaled.diode = row.diode
  weight : scaled.weight = row.weight
  times : scaled.times = row.times
  values : ∀ p : Product, ∀ c < table.nchan, scaled.value p c = scaleChannel (gain p.index c) (row.value p c)

section

omit [LinearOrder 𝕜] [IsStrictOrderedRing 𝕜]

omit [Field 𝕜] in
-- Where the layout puts a product of a channel in the flat row.
theorem layout_value (data : List (ChannelValue 𝕜)) (products : List (List (ChannelValue 𝕜))) (nchan nsub npol sbIndex : Nat)
    (layout : extractProjectLayout data nchan nsub npol sbIndex = .ok products) (c p : Nat) (channel : c < nchan)
    (product : p < npol) : sbIndex < nsub ∧ (products.getD c []).getD p .nan = data.getD ((c * nsub + sbIndex) * npol + p) .nan := by
  simp only [extractProjectLayout] at layout
  split_ifs at layout with size inside
  cases layout
  obtain ⟨plane, row, planeAt, rowAt, cells⟩ := RowMajor.cube_get nchan nsub npol data c sbIndex channel inside
  refine ⟨inside, ?_⟩
  rw [List.getD_eq_getElem?_getD, List.getD_eq_getElem?_getD, List.getD_eq_getElem?_getD, List.getElem?_map, planeAt,
    Option.map_some, Option.getD_some, List.getD_eq_getElem?_getD, rowAt, Option.getD_some, cells p product]

theorem scaled_cell (table : ScanTable 𝕜) (gain : Nat → Nat → 𝕜) (row : ScanRow 𝕜) (c sb p : Nat) (inside : sb < table.nsub)
    (product : p < table.npol) :
    (scaleRow table gain row).data.getD ((c * table.nsub + sb) * table.npol + p) .nan =
      scaleChannel (gain p c) (row.data.getD ((c * table.nsub + sb) * table.npol + p) .nan) := by
  have low : ((c * table.nsub + sb) * table.npol + p) % table.npol = p := by
    rw [Nat.mul_add_mod', Nat.mod_eq_of_lt product]
  have room : sb * table.npol + p < table.nsub * table.npol := by
    have next : (sb + 1) * table.npol ≤ table.nsub * table.npol := Nat.mul_le_mul_right _ inside
    rw [Nat.succ_mul] at next
    omega
  have high : ((c * table.nsub + sb) * table.npol + p) / (table.nsub * table.npol) = c := by
    rw [Nat.add_mul, Nat.mul_assoc, Nat.add_assoc, Nat.mul_comm c, Nat.mul_add_div (by omega), Nat.div_eq_of_lt room, Nat.add_zero]
  rw [scaleRow, List.getD_eq_getElem?_getD, List.getElem?_mapIdx, low, high, List.getD_eq_getElem?_getD]
  cases row.data[(c * table.nsub + sb) * table.npol + p]? with
  | none => rfl
  | some value => rfl

end

-- What a row is worth, apart from its data.
def verdict (table : ScanTable 𝕜) (row : ScanRow 𝕜) : Except (Option String) (Bool × 𝕜) :=
  match if table.hasExposure then row.exposure else .finite 1 with
  | .finite weight =>
      if weight ≤ 0 then .error (some "invalid exposure")
      else if table.hasNoise then
        match row.noise with
        | none => .error (some "invalid NOISE state")
        | some 0 => .ok (false, weight)
        | some 1 => .ok (true, weight)
        | some _ => .error none
      else .ok (false, weight)
  | _ => .error (some "invalid exposure")

omit [IsStrictOrderedRing 𝕜] in
theorem examine_row_verdict (table : ScanTable 𝕜) (sbIndex : Nat) (row : ScanRow 𝕜) :
    (examineRow table sbIndex row).toOption =
      match extractProjectLayout row.data table.nchan table.nsub table.npol sbIndex, verdict table row with
      | .ok products, .ok (diode, weight) => some ⟨diode, weight, products, rowTimesMjd table row⟩
      | _, _ => none := by
  rw [examineRow, verdict]
  cases extractProjectLayout row.data table.nchan table.nsub table.npol sbIndex with
  | error reason => rfl
  | ok products =>
      cases (if table.hasExposure then row.exposure else .finite 1 : ChannelValue 𝕜) with
      | infinite negative => rfl
      | nan => rfl
      | finite weight =>
          simp only
          split_ifs
          · rfl
          · split <;> rfl
          · rfl

omit [IsStrictOrderedRing 𝕜] in
theorem scaled_row (table : ScanTable 𝕜) (gain : Nat → Nat → 𝕜) (sbIndex : Nat) (products : 2 ≤ table.npol) (row : ScanRow 𝕜) :
    Option.Rel (Rescaled table gain) (examineRow table sbIndex row).toOption
      (examineRow (scaleTable table gain) sbIndex (scaleRow table gain row)).toOption := by
  have size : (scaleRow table gain row).data.length = row.data.length := by simp [scaleRow]
  have same : verdict (scaleTable table gain) (scaleRow table gain row) = verdict table row := rfl
  have layouts : (∃ reason, extractProjectLayout row.data table.nchan table.nsub table.npol sbIndex = .error reason ∧
        extractProjectLayout (scaleRow table gain row).data table.nchan table.nsub table.npol sbIndex = .error reason) ∨
      ∃ cells others, extractProjectLayout row.data table.nchan table.nsub table.npol sbIndex = .ok cells ∧
        extractProjectLayout (scaleRow table gain row).data table.nchan table.nsub table.npol sbIndex = .ok others := by
    simp only [extractProjectLayout, size]
    split_ifs
    · exact Or.inl ⟨_, rfl, rfl⟩
    · exact Or.inr ⟨_, _, rfl, rfl⟩
    · exact Or.inl ⟨_, rfl, rfl⟩
  rw [examine_row_verdict, examine_row_verdict, same]
  change Option.Rel _ _ (match extractProjectLayout (scaleRow table gain row).data table.nchan table.nsub table.npol sbIndex,
    verdict table row with
    | .ok products, .ok (diode, weight) =>
        some (⟨diode, weight, products, rowTimesMjd (scaleTable table gain) (scaleRow table gain row)⟩ : UsableRow 𝕜)
    | _, _ => none)
  rcases layouts with ⟨reason, before, after⟩ | ⟨cells, others, before, after⟩
  · rw [before, after]
    exact Option.Rel.none
  · rw [before, after]
    cases verdict table row with
    | error reason => exact Option.Rel.none
    | ok judged =>
        refine Option.Rel.some ⟨rfl, rfl, rfl, ?_⟩
        intro p c channel
        have product : p.index < table.npol := by
          cases p
          · exact Nat.lt_of_lt_of_le Nat.two_pos products
          · exact Nat.lt_of_lt_of_le Nat.one_lt_two products
        obtain ⟨inside, first⟩ := layout_value row.data cells _ _ _ sbIndex before c p.index channel product
        have second := (layout_value _ others _ _ _ sbIndex after c p.index channel product).2
        change (others.getD c []).getD p.index .nan = scaleChannel (gain p.index c) ((cells.getD c []).getD p.index .nan)
        rw [second, first, scaled_cell table gain row c sbIndex p.index inside product]

omit [IsStrictOrderedRing 𝕜] in
theorem scaled_used (table : ScanTable 𝕜) (gain : Nat → Nat → 𝕜) (sbIndex : Nat) (products : 2 ≤ table.npol) :
    List.Forall₂ (Rescaled table gain) (usedRows table sbIndex) (usedRows (scaleTable table gain) sbIndex) := by
  have rows : (scaleTable table gain).rows = table.rows.map (scaleRow table gain) := rfl
  rw [usedRows, usedRows, rows, List.filterMap_map]
  refine List.rel_filterMap (R := fun row other => other = row) ?_ (List.forall₂_same.mpr fun _ _ => rfl)
  rintro _ row rfl
  exact scaled_row table gain sbIndex products row

omit [LinearOrder 𝕜] [IsStrictOrderedRing 𝕜] in
theorem scale_finite (gain : 𝕜) (channel : ChannelValue 𝕜) :
    (scaleChannel gain channel).isFinite = channel.isFinite ∧ (scaleChannel gain channel).orZero = gain * channel.orZero := by
  cases channel with
  | finite value => exact ⟨rfl, rfl⟩
  | infinite negative => exact ⟨rfl, (mul_zero gain).symm⟩
  | nan => exact ⟨rfl, (mul_zero gain).symm⟩

structure RescaledSums (nchan : Nat) (gain : Nat → Nat → 𝕜) (sums scaled : ScanSums 𝕜) : Prop where
  sum : ∀ p d, ∀ c < nchan, scaled.sum p d c = gain p.index c * sums.sum p d c
  weight : ∀ p d, ∀ c < nchan, scaled.weight p d c = sums.weight p d c
  rowsUsed : ∀ d, scaled.rowsUsed d = sums.rowsUsed d
  totalExposure : ∀ d, scaled.totalExposure d = sums.totalExposure d
  startMjd : scaled.startMjd = sums.startMjd
  endMjd : scaled.endMjd = sums.endMjd

omit [IsStrictOrderedRing 𝕜] in
theorem rescaled_add (table : ScanTable 𝕜) (gain : Nat → Nat → 𝕜) (sums scaled : ScanSums 𝕜) (row other : UsableRow 𝕜)
    (before : RescaledSums table.nchan gain sums scaled) (rescaled : Rescaled table gain row other) :
    RescaledSums table.nchan gain (addRow sums row) (addRow scaled other) := by
  have times : timesOf other = timesOf row := by rw [timesOf, timesOf, rescaled.diode, rescaled.times]
  constructor
  · intro p d c channel
    obtain ⟨finite, value⟩ := scale_finite (gain p.index c) (row.value p c)
    rw [add_row_sum, add_row_sum, before.sum p d c channel, rescaled.diode, rescaled.values p c channel, finite, value, mul_add,
      mul_ite, mul_zero]
  · intro p d c channel
    rw [add_row_weight, add_row_weight, before.weight p d c channel, rescaled.diode, rescaled.values p c channel,
      (scale_finite (gain p.index c) (row.value p c)).1, rescaled.weight]
  · intro d
    rw [add_row_used, add_row_used, before.rowsUsed, rescaled.diode]
  · intro d
    rw [add_row_exposure, add_row_exposure, before.totalExposure, rescaled.diode, rescaled.weight]
  · rw [add_row_start, add_row_start, before.startMjd, times]
  · rw [add_row_end, add_row_end, before.endMjd, times]

omit [IsStrictOrderedRing 𝕜] in
theorem rescaled_sums (table : ScanTable 𝕜) (gain : Nat → Nat → 𝕜) (sbIndex : Nat) (products : 2 ≤ table.npol) :
    RescaledSums table.nchan gain (scanSums table sbIndex) (scanSums (scaleTable table gain) sbIndex) := by
  rw [scan_sums_used, scan_sums_used]
  refine List.rel_foldl (P := RescaledSums table.nchan gain) (R := Rescaled table gain) ?_ ?_ (scaled_used table gain sbIndex products)
  · intro sums scaled before row other rescaled
    exact rescaled_add table gain sums scaled row other before rescaled
  · exact ⟨fun _ _ _ _ => (mul_zero _).symm, fun _ _ _ _ => rfl, fun _ => rfl, fun _ => rfl, rfl, rfl⟩

def scaleSpectrum (gain : Nat → 𝕜) (spectrum : List (ChannelValue 𝕜)) : List (ChannelValue 𝕜) :=
  spectrum.mapIdx fun c value => scaleChannel (gain c) value

def scaleIntegrated (gain : Nat → Nat → 𝕜) (spectrum : IntegratedSpectrum 𝕜) : IntegratedSpectrum 𝕜 :=
  { spectrum with
    xx := scaleSpectrum (gain 0) spectrum.xx
    yy := scaleSpectrum (gain 1) spectrum.yy
    calXx := spectrum.calXx.map (scaleSpectrum (gain 0))
    calYy := spectrum.calYy.map (scaleSpectrum (gain 1)) }

omit [IsStrictOrderedRing 𝕜] in
theorem divide_scaled (gain numerator denominator : 𝕜) :
    divideWhere (gain * numerator) denominator = scaleChannel gain (divideWhere numerator denominator) := by
  rw [divideWhere, divideWhere, mul_div_assoc]
  by_cases positive : 0 < denominator
  · rw [if_pos positive, if_pos positive, scaleChannel]
  · rw [if_neg positive, if_neg positive]
    rfl

omit [IsStrictOrderedRing 𝕜] in
theorem rescaled_mean (nchan : Nat) (gain : Nat → Nat → 𝕜) (sums scaled : ScanSums 𝕜) (rescaled : RescaledSums nchan gain sums scaled)
    (p : Product) (d : Bool) : meanSpectrum nchan scaled p d = scaleSpectrum (gain p.index) (meanSpectrum nchan sums p d) := by
  apply List.ext_getElem
  · simp [meanSpectrum, scaleSpectrum]
  · intro c left right
    have channel : c < nchan := by simpa [meanSpectrum] using left
    simp only [meanSpectrum, scaleSpectrum, List.getElem_map, List.getElem_range, List.getElem_mapIdx]
    rw [rescaled.sum p d c channel, rescaled.weight p d c channel, divide_scaled]

omit [IsStrictOrderedRing 𝕜] in
theorem rescaled_spectrum (table : ScanTable 𝕜) (gain : Nat → Nat → 𝕜) (frequencyMhz : List ℚ) (sums scaled : ScanSums 𝕜)
    (rescaled : RescaledSums table.nchan gain sums scaled) :
    scanSpectrum (scaleTable table gain) frequencyMhz scaled = scaleIntegrated gain (scanSpectrum table frequencyMhz sums) := by
  have means := rescaled_mean table.nchan gain sums scaled rescaled
  have channels : (scaleTable table gain).nchan = table.nchan := rfl
  simp only [scanSpectrum, scaleIntegrated, channels, means, rescaled.rowsUsed, rescaled.totalExposure, rescaled.startMjd,
    rescaled.endMjd, Product.index]
  by_cases diode : 0 < sums.rowsUsed true
  · simp only [if_pos diode]
    rfl
  · simp only [if_neg diode]
    rfl

omit [IsStrictOrderedRing 𝕜] in
-- Integration, with everything it refuses, passes the gains through.
theorem integrate_rescaled (table : ScanTable 𝕜) (gain : Nat → Nat → 𝕜) (sbIndex : Int) (frequency : FrequencyOptions) :
    integrateSdfits (scaleTable table gain) sbIndex frequency =
      (integrateSdfits table sbIndex frequency).map (scaleIntegrated gain) := by
  rw [integrateSdfits, integrateSdfits]
  by_cases outside : ¬ (0 ≤ sbIndex ∧ sbIndex < table.nsub)
  · have scaled : ¬ (0 ≤ sbIndex ∧ sbIndex < (scaleTable table gain).nsub) := outside
    rw [bind_stop _ _ _ scaled, bind_stop _ _ _ outside]
    rfl
  have scaledInside : ¬ ¬ (0 ≤ sbIndex ∧ sbIndex < (scaleTable table gain).nsub) := outside
  rw [bind_clear _ _ _ scaledInside, bind_clear _ _ _ outside]
  by_cases single : table.npol < 2
  · have scaled : (scaleTable table gain).npol < 2 := single
    rw [bind_stop _ _ _ scaled, bind_stop _ _ _ single]
    rfl
  have scaledSingle : ¬ (scaleTable table gain).npol < 2 := single
  rw [bind_clear _ _ _ scaledSingle, bind_clear _ _ _ single]
  have sameAxis : frequencyAxisMhz (scaleTable table gain).header (scaleTable table gain).nchan frequency =
      frequencyAxisMhz table.header table.nchan frequency := rfl
  rw [sameAxis]
  cases frequencyAxisMhz table.header table.nchan frequency with
  | error reason => rfl
  | ok frequencyMhz =>
      have sums := rescaled_sums table gain sbIndex.toNat (Nat.not_lt.mp single)
      rw [bind_value _ _ frequencyMhz rfl, bind_value _ _ frequencyMhz rfl]
      by_cases empty : (scanSums table sbIndex.toNat).rowsUsed false = 0
      · have scaled : (scanSums (scaleTable table gain) sbIndex.toNat).rowsUsed false = 0 := (sums.rowsUsed false).trans empty
        rw [bind_stop _ _ _ scaled, bind_stop _ _ _ empty]
        rfl
      · have scaled : (scanSums (scaleTable table gain) sbIndex.toNat).rowsUsed false ≠ 0 := by
          rw [sums.rowsUsed false]
          exact empty
        rw [bind_clear _ _ _ empty, bind_clear _ _ _ scaled, rescaled_spectrum table gain frequencyMhz _ _ sums]
        rfl

end

end SpectralLine
