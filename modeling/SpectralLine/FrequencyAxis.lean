import Mathlib.Algebra.Order.Field.Rat
import Mathlib.Algebra.Order.Group.Unbundled.Abs
import Mathlib.Tactic.Ring
import Mathlib.Tactic.Linarith
import Mathlib.Tactic.FieldSimp

set_option autoImplicit false

namespace SpectralLine

-- make_class_onoff.py on exact numbers; a header is what its get returns.
abbrev NumericHeader := String → Option ℚ

def normalizeFrequencyUnit (obsfreq chanBw : ℚ) (unitChoice : String) : Except String (ℚ × ℚ) :=
  if unitChoice = "hz" ∨ (unitChoice = "auto" ∧ 10000000 ≤ |obsfreq|) then .ok (obsfreq / 1000000, chanBw / 1000000)
  else if unitChoice = "auto" ∨ unitChoice = "mhz" then .ok (obsfreq, chanBw)
  else .error ("Unknown header frequency unit: " ++ unitChoice)

-- The keyword arguments, with the defaults of the command line.
structure FrequencyOptions where
  loMhz : Option ℚ := none
  ifStartMhz : Option ℚ := none
  ifStopMhz : Option ℚ := none
  sideband : String := "upper"
  ifReference : String := "edges"
  centerMhz : Option ℚ := none
  bandwidthMhz : Option ℚ := none
  headerFrequencyUnit : String := "auto"
  obsfreqReference : String := "band-center"

-- np.arange(nchan) in an affine expression.
def channelAxis (nchan : Nat) (frequency : ℚ → ℚ) : List ℚ := (List.range nchan).map fun k : Nat => frequency (k : ℚ)

-- np.linspace
def linspace (start stop : ℚ) (count : Nat) : List ℚ :=
  if count = 1 then [start] else channelAxis count fun k => start + k * ((stop - start) / ((count : ℚ) - 1))

def manualAxis (nchan : Nat) (o : FrequencyOptions) : Except String (List ℚ) :=
  match o.loMhz, o.ifStartMhz, o.ifStopMhz with
  | some lo, some start, some stop =>
      let ifMhz :=
        if o.ifReference = "edges" then
          let step := (stop - start) / nchan
          channelAxis nchan fun k => start + (k + 1 / 2) * step
        else linspace start stop nchan
      let sign := if o.sideband = "upper" then 1 else -1
      .ok (ifMhz.map fun x => lo + sign * x)
  | _, _, _ => .error "--lo-mhz, --if-start-mhz, and --if-stop-mhz must be supplied together"

def explicitAxis (nchan : Nat) (center bandwidth : ℚ) : List ℚ :=
  let channelWidth := bandwidth / nchan
  let firstCenter := center - 1 / 2 * bandwidth + 1 / 2 * channelWidth
  channelAxis nchan fun k => firstCenter + k * channelWidth

-- The frequency and width in MHz that the header or the centre gives. A given
-- centre is in MHz; OBSFREQ then only tells the unit of CHAN_BW.
def headerSetup (header : NumericHeader) (o : FrequencyOptions) (obsfreq chanBw : ℚ) : Except String (ℚ × ℚ) :=
  match o.centerMhz with
  | none => normalizeFrequencyUnit obsfreq chanBw o.headerFrequencyUnit
  | some center => do
      let unitProbe := (header "OBSFREQ").getD 1000000000
      let setup ← normalizeFrequencyUnit unitProbe chanBw o.headerFrequencyUnit
      return (center, setup.2)

def headerAxis (header : NumericHeader) (nchan : Nat) (o : FrequencyOptions) : Except String (List ℚ) :=
  let obsfreq := if o.centerMhz.isSome then o.centerMhz else header "OBSFREQ"
  match obsfreq, header "CHAN_BW" with
  | some obsfreq, some chanBw => do
      let setup ← headerSetup header o obsfreq chanBw
      let centerIndex := if o.obsfreqReference = "band-center" then (nchan : ℚ) / 2 else 1 / 2 * ((nchan : ℚ) - 1)
      return channelAxis nchan fun k => setup.1 + (k - centerIndex) * setup.2
  | _, _ =>
      if o.centerMhz.isNone ∨ o.bandwidthMhz.isNone then
        .error ("No usable OBSFREQ/CHAN_BW header. Supply either the LO/IF triplet or " ++ "--center-mhz and --bandwidth-mhz.")
      else .error "Internal error while constructing the frequency axis"

def frequencyAxisMhz (header : NumericHeader) (nchan : Nat) (o : FrequencyOptions) : Except String (List ℚ) :=
  if o.loMhz.isSome ∨ o.ifStartMhz.isSome ∨ o.ifStopMhz.isSome then manualAxis nchan o
  else
    match o.centerMhz, o.bandwidthMhz with
    | some center, some bandwidth => .ok (explicitAxis nchan center bandwidth)
    | _, _ => headerAxis header nchan o

-- f[k] = OBSFREQ + (k - NCHAN/2) * CHAN_BW
def bandCenterAxis (nchan : Nat) (center width : ℚ) : List ℚ := channelAxis nchan fun k => center + (k - (nchan : ℚ) / 2) * width

theorem channel_axis_congr (nchan : Nat) (first second : ℚ → ℚ) (same : ∀ k : Nat, k < nchan → first k = second k) :
    channelAxis nchan first = channelAxis nchan second :=
  List.map_congr_left fun k member => same k (List.mem_range.mp member)

theorem channel_axis_apart (nchan : Nat) (first second : ℚ → ℚ) (positive : 1 ≤ nchan) (differ : first 0 ≠ second 0) :
    channelAxis nchan first ≠ channelAxis nchan second := by
  intro same
  obtain ⟨rest, rfl⟩ : ∃ rest, nchan = rest + 1 := ⟨nchan - 1, by omega⟩
  simp only [channelAxis, List.range_succ_eq_map, List.map_cons, List.cons.injEq, Nat.cast_zero] at same
  exact differ same.1

section

variable (header : NumericHeader) (nchan : Nat) (obsfreq chanBw center width : ℚ) (unit : String)
  (obsfreqKey : header "OBSFREQ" = some obsfreq) (chanBwKey : header "CHAN_BW" = some chanBw)
  (recognised : normalizeFrequencyUnit obsfreq chanBw unit = .ok (center, width))

include obsfreqKey chanBwKey recognised

theorem header_frequency_axis : frequencyAxisMhz header nchan { headerFrequencyUnit := unit } = .ok (bandCenterAxis nchan center width) := by
  have axis : headerAxis header nchan { headerFrequencyUnit := unit } = .ok (bandCenterAxis nchan center width) := by
    simp [headerAxis, headerSetup, obsfreqKey, chanBwKey, recognised, bandCenterAxis, bind, Except.bind, pure, Except.pure]
  simpa [frequencyAxisMhz] using axis

theorem center_frequency_axis :
    frequencyAxisMhz header nchan { centerMhz := some center, headerFrequencyUnit := unit } = .ok (bandCenterAxis nchan center width) := by
  have axis : headerAxis header nchan { centerMhz := some center, headerFrequencyUnit := unit } =
      .ok (bandCenterAxis nchan center width) := by
    simp [headerAxis, headerSetup, obsfreqKey, chanBwKey, recognised, bandCenterAxis, bind, Except.bind, pure, Except.pure]
  simpa [frequencyAxisMhz] using axis

end

theorem explicit_frequency_axis (header : NumericHeader) (nchan : Nat) (center bandwidth : ℚ) (unit : String) :
    frequencyAxisMhz header nchan { centerMhz := some center, bandwidthMhz := some bandwidth, headerFrequencyUnit := unit } =
      .ok (explicitAxis nchan center bandwidth) := by
  simp [frequencyAxisMhz]

theorem explicit_half_channel (nchan : Nat) (positive : 1 ≤ nchan) (center bandwidth : ℚ) :
    explicitAxis nchan center bandwidth = bandCenterAxis nchan (center + bandwidth / nchan / 2) (bandwidth / nchan) := by
  have nonzero : (nchan : ℚ) ≠ 0 := by
    have above : (1 : ℚ) ≤ nchan := by exact_mod_cast positive
    linarith
  rw [explicitAxis, bandCenterAxis]
  apply channel_axis_congr
  intro k _
  field_simp
  ring

-- The centre with a bandwidth gives the axis of the header only at width zero.
theorem frequency_setup_agrees_iff (header : NumericHeader) (nchan : Nat) (positive : 1 ≤ nchan)
    (obsfreq chanBw center bandwidth : ℚ) (unit : String) (obsfreqKey : header "OBSFREQ" = some obsfreq)
    (chanBwKey : header "CHAN_BW" = some chanBw)
    (recognised : normalizeFrequencyUnit obsfreq chanBw unit = .ok (center, bandwidth / nchan)) :
    (frequencyAxisMhz header nchan { headerFrequencyUnit := unit } =
        frequencyAxisMhz header nchan { centerMhz := some center, headerFrequencyUnit := unit } ∧
      frequencyAxisMhz header nchan { headerFrequencyUnit := unit } =
        frequencyAxisMhz header nchan
          { centerMhz := some center, bandwidthMhz := some bandwidth, headerFrequencyUnit := unit }) ↔
      bandwidth = 0 := by
  rw [header_frequency_axis header nchan obsfreq chanBw center _ unit obsfreqKey chanBwKey recognised,
    center_frequency_axis header nchan obsfreq chanBw center _ unit obsfreqKey chanBwKey recognised, explicit_frequency_axis,
    explicit_half_channel nchan positive]
  constructor
  · rintro ⟨_, same⟩
    by_contra wide
    refine channel_axis_apart nchan _ _ positive ?_ (Except.ok.inj same)
    have nonzero : (nchan : ℚ) ≠ 0 := by
      have above : (1 : ℚ) ≤ nchan := by exact_mod_cast positive
      linarith
    have half : bandwidth / nchan / 2 ≠ 0 := div_ne_zero (div_ne_zero wide nonzero) two_ne_zero
    intro equal
    exact half (by linarith)
  · rintro rfl
    simp

def megahertzHeader (key : String) : Option ℚ := if key = "OBSFREQ" then some 1000 else if key = "CHAN_BW" then some 1 else none

theorem frequency_setup_two_channels :
    ¬ (frequencyAxisMhz megahertzHeader 2 { headerFrequencyUnit := "auto" } =
          frequencyAxisMhz megahertzHeader 2 { centerMhz := some 1000, headerFrequencyUnit := "auto" } ∧
        frequencyAxisMhz megahertzHeader 2 { headerFrequencyUnit := "auto" } =
          frequencyAxisMhz megahertzHeader 2
            { centerMhz := some 1000, bandwidthMhz := some 2, headerFrequencyUnit := "auto" }) := fun agree =>
  absurd ((frequency_setup_agrees_iff megahertzHeader 2 (by decide) 1000 1 1000 2 "auto" rfl rfl (by decide +kernel)).mp agree)
    two_ne_zero

-- 999 and 1000 MHz from the header, 999.5 and 1000.5 MHz with the bandwidth.
theorem frequency_setup_differs :
    frequencyAxisMhz megahertzHeader 2 {} ≠
      frequencyAxisMhz megahertzHeader 2 { centerMhz := some 1000, bandwidthMhz := some 2 } := by
  decide +kernel

end SpectralLine
