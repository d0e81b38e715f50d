import SpectralLine.OnOff
import Mathlib.Data.List.Sort

set_option autoImplicit false

namespace SpectralLine

open Checked

inductive Polarization where
  | stokesI
  | xx
  | yy

-- The arguments of the command line that the reduction reads.
structure ReductionOptions (𝕜 : Type) where
  sbIndex : Int
  frequency : FrequencyOptions
  polarization : Polarization
  tsysK : Option (ChannelValue 𝕜)
  tcalK : Option (ChannelValue 𝕜)
  tcalXxK : Option (ChannelValue 𝕜)
  tcalYyK : Option (ChannelValue 𝕜)
  smooth : SmoothMethod
  smoothWidth : Int
  smoothSigma : ChannelValue 𝕜

structure Calibrated (𝕜 : Type) where
  spectrum : List (ChannelValue 𝕜)
  tsysK : Option (ChannelValue 𝕜)
  calibration : String

-- What main hands to write_class_fits of the two scans.
structure Reduction (𝕜 : Type) where
  spectrum : List (ChannelValue 𝕜)
  frequencyMhz : List ℚ
  tsysK : Option (ChannelValue 𝕜)
  onExposureS : ChannelValue 𝕜
  startMjd : Option 𝕜
  endMjd : Option 𝕜
  smoothing : String
  calibration : String

theorem channel_axis_length (nchan : Nat) (frequency : ℚ → ℚ) : (channelAxis nchan frequency).length = nchan := by
  rw [channelAxis, List.length_map, List.length_range]

theorem linspace_length (start stop : ℚ) (count : Nat) : (linspace start stop count).length = count := by
  rw [linspace]
  split
  · rename_i one
    exact one.symm
  · exact channel_axis_length _ _

-- A frequency axis has a value for each channel.
theorem axis_length (header : NumericHeader) (nchan : Nat) (o : FrequencyOptions) :
    Returns (frequencyAxisMhz header nchan o) fun axis => axis.length = nchan := by
  rw [frequencyAxisMhz]
  split
  · rw [manualAxis]
    split
    · refine returns_ok _ _ ?_
      rw [List.length_map]
      split
      · exact channel_axis_length _ _
      · exact linspace_length _ _ _
    · intro axis same
      cases same
  · split
    · refine returns_ok _ _ ?_
      rw [explicitAxis]
      exact channel_axis_length _ _
    · rw [headerAxis]
      dsimp only
      generalize (if o.centerMhz.isSome then o.centerMhz else header "OBSFREQ") = obsfreq
      split
      · exact returns_then _ _ _ fun setup => returns_pure _ _ (channel_axis_length _ _)
      · split
        · intro axis same
          cases same
        · intro axis same
          cases same

section

variable {𝕜 : Type} [Field 𝕜] [LinearOrder 𝕜]

def ratioChannel : ChannelValue 𝕜 → ChannelValue 𝕜 → ChannelValue 𝕜
  | .finite on, .finite off => if 0 < off then .finite ((on - off) / off) else .nan
  | _, _ => .nan

def onOffRatio (on off : List (ChannelValue 𝕜)) : List (ChannelValue 𝕜) := List.zipWith ratioChannel on off

def halfSum : ChannelValue 𝕜 → ChannelValue 𝕜 → ChannelValue 𝕜
  | .finite xx, .finite yy => .finite (1 / ((2 : Nat) : 𝕜) * (xx + yy))
  | _, _ => .nan

def calibratedPolarization (on off : IntegratedSpectrum 𝕜) : Polarization → List (ChannelValue 𝕜)
  | .xx => onOffRatio on.xx off.xx
  | .yy => onOffRatio on.yy off.yy
  | .stokesI => List.zipWith halfSum (onOffRatio on.xx off.xx) (onOffRatio on.yy off.yy)

def tsysChannel (tcal : 𝕜) : ChannelValue 𝕜 → ChannelValue 𝕜 → ChannelValue 𝕜
  | .finite calOff, .finite calOn => if 0 < calOff ∧ 0 < calOn - calOff then .finite (tcal * calOff / (calOn - calOff)) else .nan
  | _, _ => .nan

def diodeSystemTemperature (calOff : List (ChannelValue 𝕜)) (calOn : Option (List (ChannelValue 𝕜))) (tcalK : ChannelValue 𝕜) :
    Except String (List (ChannelValue 𝕜)) :=
  match calOn with
  | none => .error "Noise-diode calibration requested, but no NOISE=1 rows were found"
  | some calOn =>
      match tcalK with
      | .finite tcal =>
          if tcal ≤ 0 then .error "Noise-diode Tcal must be finite and positive"
          else .ok (List.zipWith (tsysChannel tcal) calOff calOn)
      | _ => .error "Noise-diode Tcal must be finite and positive"

-- Factors are finite or NaN here.
def timesChannel : ChannelValue 𝕜 → ChannelValue 𝕜 → ChannelValue 𝕜
  | .finite ratio, .finite tsys => .finite (ratio * tsys)
  | _, _ => .nan

def receptorTemperature (on off : List (ChannelValue 𝕜)) (calOff : Option (List (ChannelValue 𝕜))) (tcalK : ChannelValue 𝕜) :
    Except String (List (ChannelValue 𝕜) × List (ChannelValue 𝕜)) := do
  let tsys ← diodeSystemTemperature off calOff tcalK
  return (List.zipWith timesChannel (onOffRatio on off) tsys, tsys)

def noiseDiodeTemperature (on off : IntegratedSpectrum 𝕜) (selection : Polarization)
    (tcalXxK tcalYyK : Option (ChannelValue 𝕜)) : Except String (List (ChannelValue 𝕜) × List (ChannelValue 𝕜)) :=
  match selection with
  | .xx =>
      match tcalXxK with
      | none => .error "XX calibration requires --tcal-k or --tcal-xx-k"
      | some tcal => receptorTemperature on.xx off.xx off.calXx tcal
  | .yy =>
      match tcalYyK with
      | none => .error "YY calibration requires --tcal-k or --tcal-yy-k"
      | some tcal => receptorTemperature on.yy off.yy off.calYy tcal
  | .stokesI =>
      match tcalXxK, tcalYyK with
      | some tcalXx, some tcalYy => do
          let (tempXx, tsysXx) ← receptorTemperature on.xx off.xx off.calXx tcalXx
          let (tempYy, tsysYy) ← receptorTemperature on.yy off.yy off.calYy tcalYy
          return (List.zipWith halfSum tempXx tempYy, List.zipWith halfSum tsysXx tsysYy)
      | _, _ => .error "Stokes I calibration requires Tcal for both XX and YY"

def finiteValue : ChannelValue 𝕜 → Option 𝕜
  | .finite value => some value
  | _ => none

-- np.median of a list that is not empty.
def median (values : List 𝕜) : 𝕜 :=
  let sorted := values.insertionSort (· ≤ ·)
  let middle := sorted.length / 2
  if sorted.length % 2 = 1 then sorted.getD middle 0
  else (sorted.getD (middle - 1) 0 + sorted.getD middle 0) / ((2 : Nat) : 𝕜)

def representativeTsys (channelTsys : List (ChannelValue 𝕜)) : Except String 𝕜 := do
  let finiteTsys := channelTsys.filterMap finiteValue
  refuse (finiteTsys.length = 0) "No valid Tsys channels: require finite Pcal_on > Pcal_off > 0"
  return median finiteTsys

-- np.allclose of the two axes, with atol=1.0e-9 alone.
def axesMatch (on off : List ℚ) : Prop :=
  on.length = off.length ∧ ∀ pair ∈ on.zip off, |pair.1 - pair.2| ≤ 1 / 1000000000

instance (on off : List ℚ) : Decidable (axesMatch on off) := inferInstanceAs (Decidable (_ ∧ _))

def diodeCalibration : String :=
  "exposure-normalized noise diode; Tsys=Tcal*Poff/(Pcal-Poff), " ++ "Ta=((Pon-Poff)/Poff)*Tsys_off"

def calibrate (on off : IntegratedSpectrum 𝕜) (o : ReductionOptions 𝕜) : Except String (Calibrated 𝕜) :=
  let tcalXxK := o.tcalXxK <|> o.tcalK
  let tcalYyK := o.tcalYyK <|> o.tcalK
  if tcalXxK.isSome ∨ tcalYyK.isSome then do
    refuse o.tsysK.isSome "--tsys-k cannot be combined with noise-diode Tcal options"
    let (spectrum, channelTsys) ← noiseDiodeTemperature on off o.polarization tcalXxK tcalYyK
    let tsys ← representativeTsys channelTsys
    return { spectrum, tsysK := some (.finite tsys), calibration := diodeCalibration }
  else
    return { spectrum := calibratedPolarization on off o.polarization, tsysK := o.tsysK, calibration := "exposure-normalized (ON-OFF)/OFF" }

def multiplyTsys (ops : SmoothOps 𝕜) (calibrated : Calibrated 𝕜) (tsysK : Option (ChannelValue 𝕜)) : Except String (Calibrated 𝕜) :=
  match tsysK with
  | none => .ok calibrated
  | some tsys =>
      if tsys.isFinite = false ∨ tsys.orZero ≤ 0 then .error "--tsys-k must be a finite positive value"
      else .ok { calibrated with
        spectrum := calibrated.spectrum.map fun ratio => timesChannel ratio tsys
        calibration := calibrated.calibration ++ " multiplied by scalar Tsys=" ++ ops.formatG tsys ++ " K" }

section

variable [IsStrictOrderedRing 𝕜]

omit [IsStrictOrderedRing 𝕜] in
theorem ratio_range (nchan : Nat) (on off : Nat → 𝕜) (positive : ∀ c, 0 < off c) :
    onOffRatio ((List.range nchan).map fun c => .finite (on c)) ((List.range nchan).map fun c => .finite (off c)) =
      (List.range nchan).map fun c => .finite ((on c - off c) / off c) := by
  rw [onOffRatio, List.zipWith_map_left, List.zipWith_map_right, List.zipWith_self]
  exact List.map_congr_left fun c _ => by rw [ratioChannel, if_pos (positive c)]

theorem receptor_recovers (nchan : Nat) (gain tsys ta : Nat → 𝕜) (tcal : 𝕜) (gains : ∀ c, 0 < gain c)
    (system : ∀ c, 0 < tsys c) (diode : 0 < tcal) :
    receptorTemperature ((List.range nchan).map fun c => .finite (gain c * (tsys c + ta c)))
      ((List.range nchan).map fun c => .finite (gain c * tsys c))
      (some ((List.range nchan).map fun c => .finite (gain c * (tsys c + tcal)))) (.finite tcal) =
    .ok ((List.range nchan).map fun c => .finite (ta c), (List.range nchan).map fun c => .finite (tsys c)) := by
  have offPos : ∀ c, 0 < gain c * tsys c := fun c => mul_pos (gains c) (system c)
  have tsysList : List.zipWith (tsysChannel tcal) ((List.range nchan).map fun c => .finite (gain c * tsys c))
      ((List.range nchan).map fun c => .finite (gain c * (tsys c + tcal))) = (List.range nchan).map fun c => .finite (tsys c) := by
    rw [List.zipWith_map_left, List.zipWith_map_right, List.zipWith_self]
    refine List.map_congr_left fun c _ => ?_
    have apart : gain c * (tsys c + tcal) - gain c * tsys c = gain c * tcal := by ring
    rw [tsysChannel, apart, if_pos ⟨offPos c, mul_pos (gains c) diode⟩]
    congr 1
    have gain0 := (gains c).ne'
    have diode0 := diode.ne'
    field_simp
  simp only [receptorTemperature, diodeSystemTemperature, if_neg (not_le.mpr diode), ratio_range nchan _ _ offPos]
  change Except.ok (List.zipWith timesChannel _ (List.zipWith (tsysChannel tcal) _ _), List.zipWith (tsysChannel tcal) _ _) = _
  rw [tsysList, List.zipWith_map_left, List.zipWith_map_right, List.zipWith_self]
  congr 2
  refine List.map_congr_left fun c _ => ?_
  rw [timesChannel]
  congr 1
  have gain0 := (gains c).ne'
  have system0 := (system c).ne'
  field_simp
  ring

theorem ratio_rescaled (gain : 𝕜) (positive : 0 < gain) (on off : ChannelValue 𝕜) :
    ratioChannel (scaleChannel gain on) (scaleChannel gain off) = ratioChannel on off := by
  cases on with
  | infinite negative => rfl
  | nan => rfl
  | finite on =>
      cases off with
      | infinite negative => rfl
      | nan => rfl
      | finite off =>
          simp only [scaleChannel, ratioChannel, mul_pos_iff_of_pos_left positive]
          rw [← mul_sub, mul_div_mul_left _ _ positive.ne']

theorem tsys_rescaled (tcal gain : 𝕜) (positive : 0 < gain) (calOff calOn : ChannelValue 𝕜) :
    tsysChannel tcal (scaleChannel gain calOff) (scaleChannel gain calOn) = tsysChannel tcal calOff calOn := by
  cases calOff with
  | infinite negative => rfl
  | nan => rfl
  | finite calOff =>
      cases calOn with
      | infinite negative => rfl
      | nan => rfl
      | finite calOn =>
          simp only [scaleChannel, tsysChannel, ← mul_sub, mul_pos_iff_of_pos_left positive]
          rw [mul_left_comm, mul_div_mul_left _ _ positive.ne']

omit [LinearOrder 𝕜] [IsStrictOrderedRing 𝕜] in
theorem zip_rescaled (f : ChannelValue 𝕜 → ChannelValue 𝕜 → ChannelValue 𝕜) (gain : Nat → 𝕜)
    (unchanged : ∀ c a b, f (scaleChannel (gain c) a) (scaleChannel (gain c) b) = f a b) (xs ys : List (ChannelValue 𝕜)) :
    List.zipWith f (scaleSpectrum gain xs) (scaleSpectrum gain ys) = List.zipWith f xs ys := by
  apply List.ext_getElem
  · simp [scaleSpectrum]
  · intro c left right
    simp only [scaleSpectrum, List.getElem_zipWith, List.getElem_mapIdx, unchanged]

theorem receptor_rescaled (gain : Nat → 𝕜) (positive : ∀ c, 0 < gain c) (on off : List (ChannelValue 𝕜))
    (calOff : Option (List (ChannelValue 𝕜))) (tcalK : ChannelValue 𝕜) :
    receptorTemperature (scaleSpectrum gain on) (scaleSpectrum gain off) (calOff.map (scaleSpectrum gain)) tcalK =
      receptorTemperature on off calOff tcalK := by
  have ratio : onOffRatio (scaleSpectrum gain on) (scaleSpectrum gain off) = onOffRatio on off :=
    zip_rescaled ratioChannel gain (fun c a b => ratio_rescaled (gain c) (positive c) a b) on off
  rw [receptorTemperature, receptorTemperature, ratio]
  congr 1
  cases calOff with
  | none => rfl
  | some calOn =>
      cases tcalK with
      | infinite negative => rfl
      | nan => rfl
      | finite tcal =>
          have tsys := zip_rescaled (tsysChannel tcal) gain (fun c a b => tsys_rescaled tcal (gain c) (positive c) a b) off calOn
          simp only [Option.map_some, diodeSystemTemperature, tsys]

theorem noise_diode_rescaled (gain : Nat → Nat → 𝕜) (positive : ∀ p c, 0 < gain p c) (on off : IntegratedSpectrum 𝕜)
    (selection : Polarization) (tcalXxK tcalYyK : Option (ChannelValue 𝕜)) :
    noiseDiodeTemperature (scaleIntegrated gain on) (scaleIntegrated gain off) selection tcalXxK tcalYyK =
      noiseDiodeTemperature on off selection tcalXxK tcalYyK := by
  have xx := fun tcal => receptor_rescaled (gain 0) (positive 0) on.xx off.xx off.calXx tcal
  have yy := fun tcal => receptor_rescaled (gain 1) (positive 1) on.yy off.yy off.calYy tcal
  cases selection with
  | xx => simp only [noiseDiodeTemperature, scaleIntegrated, xx]
  | yy => simp only [noiseDiodeTemperature, scaleIntegrated, yy]
  | stokesI => simp only [noiseDiodeTemperature, scaleIntegrated, xx, yy]

theorem polarization_rescaled (gain : Nat → Nat → 𝕜) (positive : ∀ p c, 0 < gain p c) (on off : IntegratedSpectrum 𝕜)
    (selection : Polarization) :
    calibratedPolarization (scaleIntegrated gain on) (scaleIntegrated gain off) selection = calibratedPolarization on off selection := by
  have ratio := fun p => zip_rescaled ratioChannel (gain p) fun c a b => ratio_rescaled (gain p c) (positive p c) a b
  cases selection with
  | xx => exact ratio 0 on.xx off.xx
  | yy => exact ratio 1 on.yy off.yy
  | stokesI => exact congrArg₂ (List.zipWith halfSum) (ratio 0 on.xx off.xx) (ratio 1 on.yy off.yy)

theorem calibrate_rescaled (gain : Nat → Nat → 𝕜) (positive : ∀ p c, 0 < gain p c) (on off : IntegratedSpectrum 𝕜)
    (o : ReductionOptions 𝕜) : calibrate (scaleIntegrated gain on) (scaleIntegrated gain off) o = calibrate on off o := by
  simp only [calibrate, noise_diode_rescaled gain positive, polarization_rescaled gain positive]

end

variable [FloorRing 𝕜]

-- main, from the two tables to what is written.
def reduceOnOff (ops : SmoothOps 𝕜) (onTable offTable : ScanTable 𝕜) (o : ReductionOptions 𝕜) : Except String (Reduction 𝕜) := do
  let on ← integrateSdfits onTable o.sbIndex o.frequency
  let off ← integrateSdfits offTable o.sbIndex o.frequency
  refuse (¬ axesMatch on.frequencyMhz off.frequencyMhz) "ON and OFF frequency axes do not match"
  let unscaled ← calibrate on off o
  let calibrated ← multiplyTsys ops unscaled o.tsysK
  let (spectrum, smoothing) ← smoothSpectrum ops calibrated.spectrum o.smooth o.smoothWidth o.smoothSigma
  return {
    spectrum
    frequencyMhz := on.frequencyMhz
    tsysK := calibrated.tsysK
    onExposureS := on.exposureS
    startMjd := on.startMjd
    endMjd := on.endMjd
    smoothing
    calibration := calibrated.calibration }

-- Two channels, gains 2 and 3, Tsys 10 K, and a line of 1 K in channel 1.
def sampleScan (rows : List (ScanRow ℚ)) : ScanTable ℚ :=
  { path := "scan.fits", header := fun _ => none, nchan := 2, nsub := 1, npol := 2, hasExposure := true, hasNoise := true,
    hasTime := false, rows }

def sampleRow (exposure : ℚ) (noise : Int) (data : List ℚ) : ScanRow ℚ :=
  { data := data.map .finite, exposure := .finite exposure, noise := some noise, time := .nan }

def sampleOn : ScanTable ℚ := sampleScan [sampleRow 2 0 [40, 60, 44, 66], sampleRow 2 2 [0, 0, 0, 0]]

def sampleOff : ScanTable ℚ := sampleScan [sampleRow 1 0 [20, 30, 20, 30], sampleRow 3 1 [90, 135, 90, 135]]

def sampleReduction : ReductionOptions ℚ :=
  { sbIndex := 0, frequency := { centerMhz := some 100, bandwidthMhz := some 2 }, polarization := .stokesI, tsysK := none,
    tcalK := some (.finite 5), tcalXxK := none, tcalYyK := none, smooth := .none, smoothWidth := 5, smoothSigma := .finite 2 }

def sampleOps : SmoothOps ℚ := ⟨fun _ => 1, fun _ => "2"⟩

-- The reduction does not depend on the order of either scan's rows.
theorem reduction_order_free (ops : SmoothOps 𝕜) (onTable offTable : ScanTable 𝕜) (o : ReductionOptions 𝕜)
    (onRows offRows : List (ScanRow 𝕜)) (onShuffled : onRows.Perm onTable.rows) (offShuffled : offRows.Perm offTable.rows) :
    reduceOnOff ops { onTable with rows := onRows } { offTable with rows := offRows } o = reduceOnOff ops onTable offTable o := by
  rw [reduceOnOff, integrate_perm onTable _ _ onRows onShuffled, integrate_perm offTable _ _ offRows offShuffled]
  rfl

theorem reduction_order_free_sample :
    reduceOnOff sampleOps { sampleOn with rows := sampleOn.rows.reverse } { sampleOff with rows := sampleOff.rows.reverse }
        sampleReduction =
      reduceOnOff sampleOps sampleOn sampleOff sampleReduction :=
  reduction_order_free sampleOps sampleOn sampleOff sampleReduction _ _ (List.reverse_perm _) (List.reverse_perm _)

variable [IsStrictOrderedRing 𝕜]

-- What the instrument's gains do to both scans alike, the calibration
-- undoes: the same spectrum, or the same refusal, comes out.
theorem gain_invariance (ops : SmoothOps 𝕜) (onTable offTable : ScanTable 𝕜) (o : ReductionOptions 𝕜) (gain : Nat → Nat → 𝕜)
    (positive : ∀ p c, 0 < gain p c) :
    reduceOnOff ops (scaleTable onTable gain) (scaleTable offTable gain) o = reduceOnOff ops onTable offTable o := by
  rw [reduceOnOff, reduceOnOff, integrate_rescaled, integrate_rescaled]
  cases integrateSdfits onTable o.sbIndex o.frequency with
  | error reason => rfl
  | ok on =>
      cases integrateSdfits offTable o.sbIndex o.frequency with
      | error reason => rfl
      | ok off =>
          have same := calibrate_rescaled gain positive on off o
          change (refuse (¬ axesMatch on.frequencyMhz off.frequencyMhz) _ >>= fun _ =>
            calibrate (scaleIntegrated gain on) (scaleIntegrated gain off) o >>= _) = _
          rw [same]
          rfl

theorem gain_invariance_sample :
    reduceOnOff sampleOps (scaleTable sampleOn fun p c => 1 + p + 5 * c) (scaleTable sampleOff fun p c => 1 + p + 5 * c) sampleReduction =
      reduceOnOff sampleOps sampleOn sampleOff sampleReduction :=
  gain_invariance sampleOps sampleOn sampleOff sampleReduction _ fun p c => by positivity

-- A position-switched observation: both scans through the same gains, the
-- noise diode adding its own temperature, and nothing main would refuse.
structure Observed (onTable offTable : ScanTable 𝕜) (o : ReductionOptions 𝕜) (axis : List ℚ) (gain tsys ta : Product → Nat → 𝕜)
    (tcal : Product → 𝕜) : Prop where
  gains : ∀ p c, 0 < gain p c
  system : ∀ p c, 0 < tsys p c
  diode : ∀ p, 0 < tcal p
  on : Steady onTable o.sbIndex.toNat fun p d c => gain p c * (tsys p c + ta p c + if d then tcal p else 0)
  off : Steady offTable o.sbIndex.toNat fun p d c => gain p c * (tsys p c + if d then tcal p else 0)
  inside : 0 ≤ o.sbIndex ∧ o.sbIndex < onTable.nsub ∧ o.sbIndex < offTable.nsub
  products : 2 ≤ onTable.npol ∧ 2 ≤ offTable.npol
  onAxis : frequencyAxisMhz onTable.header onTable.nchan o.frequency = .ok axis
  offAxis : frequencyAxisMhz offTable.header offTable.nchan o.frequency = .ok axis
  channels : 0 < onTable.nchan
  onRows : ∃ row ∈ usedRows onTable o.sbIndex.toNat, row.diode = false
  offRows : ∀ d, ∃ row ∈ usedRows offTable o.sbIndex.toNat, row.diode = d
  tcalXxK : (o.tcalXxK <|> o.tcalK) = some (.finite (tcal .xx))
  tcalYyK : (o.tcalYyK <|> o.tcalK) = some (.finite (tcal .yy))
  tsysK : o.tsysK = none
  smooth : o.smooth = .none

def Polarization.of (selection : Polarization) (temperature : Product → Nat → 𝕜) (c : Nat) : 𝕜 :=
  match selection with
  | .xx => temperature .xx c
  | .yy => temperature .yy c
  | .stokesI => 1 / ((2 : Nat) : 𝕜) * (temperature .xx c + temperature .yy c)

def shown (nchan : Nat) (temperature : Nat → 𝕜) : List (ChannelValue 𝕜) := (List.range nchan).map fun c => .finite (temperature c)

theorem axes_match_self (axis : List ℚ) : axesMatch axis axis := by
  refine ⟨rfl, fun pair member => ?_⟩
  obtain ⟨i, inside, found⟩ := List.getElem_of_mem member
  rw [List.getElem_zip] at found
  rw [← found, sub_self, abs_zero]
  norm_num

omit [LinearOrder 𝕜] [FloorRing 𝕜] [IsStrictOrderedRing 𝕜] in
theorem half_sum_shown (nchan : Nat) (first second : Nat → 𝕜) :
    List.zipWith halfSum (shown nchan first) (shown nchan second) =
      shown nchan fun c => 1 / ((2 : Nat) : 𝕜) * (first c + second c) := by
  rw [shown, shown, List.zipWith_map_left, List.zipWith_map_right, List.zipWith_self]
  rfl

omit [FloorRing 𝕜] [IsStrictOrderedRing 𝕜] in
theorem receptors_combine (nchan : Nat) (on off : IntegratedSpectrum 𝕜) (selection : Polarization) (ta tsys : Product → Nat → 𝕜)
    (tcal : Product → 𝕜)
    (xx : receptorTemperature on.xx off.xx off.calXx (.finite (tcal .xx)) = .ok (shown nchan (ta .xx), shown nchan (tsys .xx)))
    (yy : receptorTemperature on.yy off.yy off.calYy (.finite (tcal .yy)) = .ok (shown nchan (ta .yy), shown nchan (tsys .yy))) :
    noiseDiodeTemperature on off selection (some (.finite (tcal .xx))) (some (.finite (tcal .yy))) =
      .ok (shown nchan (selection.of ta), shown nchan (selection.of tsys)) := by
  cases selection with
  | xx => exact xx
  | yy => exact yy
  | stokesI =>
      simp only [noiseDiodeTemperature, xx, yy]
      change Except.ok (List.zipWith halfSum _ _, List.zipWith halfSum _ _) = _
      rw [half_sum_shown, half_sum_shown]
      rfl

omit [Field 𝕜] [LinearOrder 𝕜] [FloorRing 𝕜] [IsStrictOrderedRing 𝕜] in
theorem finite_shown (nchan : Nat) (temperature : Nat → 𝕜) :
    (shown nchan temperature).filterMap finiteValue = (List.range nchan).map temperature := by
  rw [shown, List.filterMap_map]
  exact congrFun (List.filterMap_eq_map (f := temperature)) (List.range nchan)

-- The antenna temperature comes out exactly, whatever the gain of a channel
-- and however the rows' exposures differ, with the median of the system's.
theorem calibration_recovers (ops : SmoothOps 𝕜) (onTable offTable : ScanTable 𝕜) (o : ReductionOptions 𝕜) (axis : List ℚ)
    (gain tsys ta : Product → Nat → 𝕜) (tcal : Product → 𝕜) (observed : Observed onTable offTable o axis gain tsys ta tcal) :
    ∃ reduction, reduceOnOff ops onTable offTable o = .ok reduction ∧ reduction.frequencyMhz = axis ∧
      reduction.spectrum = shown onTable.nchan (o.polarization.of ta) ∧
      reduction.tsysK = some (.finite (median ((List.range onTable.nchan).map (o.polarization.of tsys)))) := by
  have onSome := (rows_used_some onTable o.sbIndex.toNat false).mpr observed.onRows
  have offSome := fun d => (rows_used_some offTable o.sbIndex.toNat d).mpr (observed.offRows d)
  have onDone := integrate_ok onTable o.sbIndex o.frequency axis ⟨observed.inside.1, observed.inside.2.1⟩ observed.products.1
    observed.onAxis onSome
  have offDone := integrate_ok offTable o.sbIndex o.frequency axis ⟨observed.inside.1, observed.inside.2.2⟩ observed.products.2
    observed.offAxis (offSome false)
  have sameChannels : offTable.nchan = onTable.nchan :=
    (axis_length _ _ _ axis observed.offAxis).symm.trans (axis_length _ _ _ axis observed.onAxis)
  have receptor := fun p => receptor_recovers onTable.nchan (gain p) (tsys p) (ta p) (tcal p) (observed.gains p)
    (observed.system p) (observed.diode p)
  have onMean := fun p => steady_mean onTable o.sbIndex.toNat _ observed.on p false onSome
  have offMean := fun p d => steady_mean offTable o.sbIndex.toNat _ observed.off p d (offSome d)
  simp only [sameChannels, Bool.false_eq_true, if_false, add_zero] at onMean offMean
  generalize onSums : scanSums onTable o.sbIndex.toNat = sums at onDone onMean
  generalize offSums : scanSums offTable o.sbIndex.toNat = others at offDone offMean offSome
  have temperatures := receptors_combine onTable.nchan (scanSpectrum onTable axis sums) (scanSpectrum offTable axis others)
    o.polarization ta tsys tcal
    (by
      simp only [scanSpectrum, if_pos (offSome true), onMean, offMean, sameChannels, if_true, Bool.false_eq_true, if_false, add_zero]
      exact receptor .xx)
    (by
      simp only [scanSpectrum, if_pos (offSome true), onMean, offMean, sameChannels, if_true, Bool.false_eq_true, if_false, add_zero]
      exact receptor .yy)
  have found : representativeTsys (shown onTable.nchan (o.polarization.of tsys)) =
      .ok (median ((List.range onTable.nchan).map (o.polarization.of tsys))) := by
    have some_ : ¬ ((List.range onTable.nchan).map (o.polarization.of tsys)).length = 0 := by
      rw [List.length_map, List.length_range]
      exact observed.channels.ne'
    rw [representativeTsys, finite_shown, bind_clear _ _ _ some_]
    rfl
  have calibrated : calibrate (scanSpectrum onTable axis sums) (scanSpectrum offTable axis others) o =
      .ok ⟨shown onTable.nchan (o.polarization.of ta),
        some (.finite (median ((List.range onTable.nchan).map (o.polarization.of tsys)))), diodeCalibration⟩ := by
    have free : ¬ o.tsysK.isSome = true := by
      rw [observed.tsysK]
      exact Bool.false_ne_true
    have diode : (some (ChannelValue.finite (tcal .xx))).isSome = true ∨ (some (ChannelValue.finite (tcal .yy))).isSome = true :=
      Or.inl rfl
    rw [calibrate, observed.tcalXxK, observed.tcalYyK]
    dsimp only
    rw [if_pos diode, bind_clear _ _ _ free, bind_value _ _ _ temperatures, bind_value _ _ _ found]
    rfl
  have matching : ¬ ¬ axesMatch (scanSpectrum onTable axis sums).frequencyMhz (scanSpectrum offTable axis others).frequencyMhz :=
    not_not.mpr (axes_match_self axis)
  rw [reduceOnOff, bind_value _ _ _ onDone, bind_value _ _ _ offDone, bind_clear _ _ _ matching, bind_value _ _ _ calibrated,
    observed.tsysK, observed.smooth]
  exact ⟨_, rfl, rfl, rfl, rfl⟩

def sampleGain (p : Product) (_ : Nat) : ℚ :=
  match p with
  | .xx => 2
  | .yy => 3

theorem sample_observed :
    Observed sampleOn sampleOff sampleReduction [199 / 2, 201 / 2] sampleGain (fun _ _ => 10) (fun _ c => c) (fun _ => 5) where
  gains p c := by cases p <;> norm_num [sampleGain]
  system p c := by norm_num
  diode p := by norm_num
  on := by
    have used : usedRows sampleOn 0 = [⟨false, 2, [[.finite 40, .finite 60], [.finite 44, .finite 66]], none⟩] := by rfl
    intro row member p c channel
    rw [show usedRows sampleOn sampleReduction.sbIndex.toNat = _ from used, List.mem_singleton] at member
    subst member
    change c < 2 at channel
    interval_cases c <;> cases p <;> norm_num [UsableRow.value, Product.index, sampleGain]
  off := by
    have used : usedRows sampleOff 0 =
        [⟨false, 1, [[.finite 20, .finite 30], [.finite 20, .finite 30]], none⟩,
          ⟨true, 3, [[.finite 90, .finite 135], [.finite 90, .finite 135]], none⟩] := by rfl
    intro row member p c channel
    rw [show usedRows sampleOff sampleReduction.sbIndex.toNat = _ from used, List.mem_pair] at member
    change c < 2 at channel
    rcases member with rfl | rfl
    · interval_cases c <;> cases p <;> norm_num [UsableRow.value, Product.index, sampleGain]
    · interval_cases c <;> cases p <;> norm_num [UsableRow.value, Product.index, sampleGain]
  inside := by decide
  products := by decide
  onAxis := by decide +kernel
  offAxis := by decide +kernel
  channels := by decide
  onRows := by decide +kernel
  offRows := by decide +kernel
  tcalXxK := rfl
  tcalYyK := rfl
  tsysK := rfl
  smooth := rfl

theorem calibration_recovers_sample :
    ∃ reduction, reduceOnOff sampleOps sampleOn sampleOff sampleReduction = .ok reduction ∧
      reduction.frequencyMhz = [199 / 2, 201 / 2] ∧
      reduction.spectrum = shown 2 (Polarization.stokesI.of fun _ c => (c : ℚ)) ∧
      reduction.tsysK = some (.finite (median ((List.range 2).map (Polarization.stokesI.of fun _ _ => (10 : ℚ))))) :=
  calibration_recovers sampleOps sampleOn sampleOff sampleReduction _ _ _ _ _ sample_observed

end

end SpectralLine
