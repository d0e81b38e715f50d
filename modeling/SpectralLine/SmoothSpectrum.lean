import SpectralLine.Lib.WeightedMean
import SpectralLine.Lib.Checked
import Mathlib.Algebra.Order.Floor.Ring
import Mathlib.Tactic.Ring
import Mathlib.Tactic.IntervalCases
import Mathlib.Tactic.Positivity
import Mathlib.Data.Rat.Floor
import Mathlib.Algebra.Order.Archimedean.Real.Basic
import Mathlib.Analysis.Complex.Exponential

set_option autoImplicit false

namespace SpectralLine

open Checked

-- A channel of make_class_onoff.py; its finite numbers are computed exactly.
inductive ChannelValue (𝕜 : Type) where
  | finite (value : 𝕜)
  | infinite (negative : Bool)
  | nan
deriving DecidableEq

namespace ChannelValue

variable {𝕜 : Type}

def isFinite : ChannelValue 𝕜 → Bool
  | finite _ => true
  | _ => false

-- np.where(finite, values, 0.0)
def orZero [Zero 𝕜] : ChannelValue 𝕜 → 𝕜
  | finite value => value
  | _ => 0

-- finite.astype(np.float64)
def mask [Zero 𝕜] [One 𝕜] (channel : ChannelValue 𝕜) : 𝕜 := if channel.isFinite then 1 else 0

end ChannelValue

inductive SmoothMethod where
  | none
  | hanning
  | boxcar
  | gaussian
  | other (name : String)
deriving DecidableEq

-- np.exp, and the g format of sigma.
structure SmoothOps (𝕜 : Type) where
  exp : 𝕜 → 𝕜
  formatG : ChannelValue 𝕜 → String

section

variable {𝕜 : Type} [Field 𝕜]

def gaussianKernel (ops : SmoothOps 𝕜) (radius : Nat) (sigma : 𝕜) : List 𝕜 :=
  let channels := (List.range (2 * radius + 1)).map fun k : Nat => (k : 𝕜) - radius
  let kernel := channels.map fun channel => ops.exp (-(1 / ((2 : Nat) : 𝕜)) * (channel / sigma) ^ 2)
  kernel.map fun weight => weight / kernel.sum

-- Term n of the full convolution.
def convolveFull (a v : List 𝕜) (n : Nat) : 𝕜 :=
  ((List.range a.length).map fun j => if j ≤ n then a.getD j 0 * v.getD (n - j) 0 else 0).sum

-- np.convolve(a, v, mode="same"): the middle of the full convolution, as long
-- as the longer of the two.
def convolveSame (a v : List 𝕜) : List 𝕜 :=
  (List.range (max a.length v.length)).map fun i => convolveFull a v (i + (min a.length v.length - 1) / 2)

variable [LinearOrder 𝕜] [FloorRing 𝕜] (ops : SmoothOps 𝕜)

def smoothingKernel (method : SmoothMethod) (width : Int) (sigma : ChannelValue 𝕜) : Except String (List 𝕜) :=
  match method with
  | .none => .ok [1]
  | .hanning => .ok [1 / ((4 : Nat) : 𝕜), 1 / ((2 : Nat) : 𝕜), 1 / ((4 : Nat) : 𝕜)]
  | .boxcar =>
      if width < 1 ∨ width % 2 = 0 then .error "--smooth-width must be a positive odd integer"
      else .ok (List.replicate width.toNat (1 / (width : 𝕜)))
  | .gaussian =>
      match sigma with
      | .finite value =>
          if value ≤ 0 then .error "--smooth-sigma must be finite and positive"
          else .ok (gaussianKernel ops (max 1 ⌈((4 : Nat) : 𝕜) * value⌉).toNat value)
      | _ => .error "--smooth-sigma must be finite and positive"
  | .other name => .error ("Unknown smoothing method: " ++ name)

def smoothDescription (method : SmoothMethod) (width : Int) (sigma : ChannelValue 𝕜) (kernelSize : Nat) : String :=
  match method with
  | .hanning => "Hanning 3-channel [0.25,0.5,0.25]"
  | .boxcar => "boxcar " ++ toString width ++ "-channel"
  | _ => "Gaussian sigma=" ++ ops.formatG sigma ++ " channel, kernel=" ++ toString kernelSize ++ " channel"

-- np.divide where the denominator is positive, over an array of NaN.
def divideWhere (numerator denominator : 𝕜) : ChannelValue 𝕜 :=
  if 0 < denominator then .finite (numerator / denominator) else .nan

def smoothSpectrum (spectrum : List (ChannelValue 𝕜)) (method : SmoothMethod) (width : Int) (sigma : ChannelValue 𝕜) :
    Except String (List (ChannelValue 𝕜) × String) := do
  let kernel ← smoothingKernel ops method width sigma
  if kernel.length = 1 then return (spectrum, "none")
  else
    refuse (spectrum.length < kernel.length)
      ("Smoothing kernel has " ++ toString kernel.length ++ " channels but spectrum has only " ++ toString spectrum.length)
    let numerator := convolveSame (spectrum.map ChannelValue.orZero) kernel
    let denominator := convolveSame (spectrum.map ChannelValue.mask) kernel
    return (List.zipWith divideWhere numerator denominator, smoothDescription ops method width sigma kernel.length)

def finiteNear (spectrum : List (ChannelValue 𝕜)) (r i : Nat) : Finset Nat :=
  (Finset.range spectrum.length).filter fun j => (i ≤ j + r ∧ j ≤ i + r) ∧ (spectrum.getD j .nan).isFinite = true

-- The kernel centred on channel `i`.
def centredWeight (kernel : List 𝕜) (r i j : Nat) : 𝕜 := kernel.getD (r + j - i) 0

def channelNumber (spectrum : List (ChannelValue 𝕜)) (j : Nat) : 𝕜 := (spectrum.getD j .nan).orZero

-- What a smoothed channel should be.
def localMean (kernel : List 𝕜) (r : Nat) (spectrum : List (ChannelValue 𝕜)) (i : Nat) : ChannelValue 𝕜 :=
  if finiteNear spectrum r i = ∅ then .nan
  else .finite (WeightedMean.mean (finiteNear spectrum r i) (centredWeight kernel r i) (channelNumber spectrum))

structure SymmetricKernel (kernel : List 𝕜) (r : Nat) : Prop where
  size : kernel.length = 2 * r + 1
  positive : ∀ k ≤ 2 * r, 0 < kernel.getD k 0
  symmetric : ∀ k ≤ 2 * r, kernel.getD k 0 = kernel.getD (2 * r - k) 0

omit [LinearOrder 𝕜] [FloorRing 𝕜] in
theorem list_range_sum (n : Nat) (term : Nat → 𝕜) : ((List.range n).map term).sum = ∑ j ∈ Finset.range n, term j := rfl

omit [FloorRing 𝕜] in
theorem convolve_near (kernel : List 𝕜) (r : Nat) (shape : SymmetricKernel kernel r) (spectrum : List (ChannelValue 𝕜))
    (number : ChannelValue 𝕜 → 𝕜) (masked : ∀ channel, channel.isFinite = false → number channel = 0)
    (fits : 2 * r + 1 ≤ spectrum.length) (i : Nat) (inside : i < spectrum.length) :
    (convolveSame (spectrum.map number) kernel)[i]? =
      some (∑ j ∈ finiteNear spectrum r i, centredWeight kernel r i j * number (spectrum.getD j .nan)) := by
  have middle : (min spectrum.length kernel.length - 1) / 2 = r := by
    rw [shape.size, Nat.min_eq_right fits]
    omega
  have length : max spectrum.length kernel.length = spectrum.length := by
    rw [shape.size]
    exact Nat.max_eq_left fits
  rw [convolveSame, List.length_map, middle, length, List.getElem?_map, List.getElem?_range inside, Option.map_some, convolveFull,
    List.length_map, list_range_sum, finiteNear, Finset.sum_filter]
  congr 1
  refine Finset.sum_congr rfl fun j member => ?_
  have bound := Finset.mem_range.mp member
  have read : (spectrum.map number).getD j 0 = number (spectrum.getD j .nan) := by
    rw [List.getD_eq_getElem?_getD, List.getD_eq_getElem?_getD, List.getElem?_map, List.getElem?_eq_getElem bound]
    rfl
  rw [read]
  by_cases far : i + r < j
  · rw [if_neg (Nat.not_le_of_lt far), if_neg fun near => Nat.not_le_of_lt far near.1.2]
  rw [if_pos (Nat.le_of_not_lt far)]
  by_cases early : j + r < i
  · have beyond : kernel.length ≤ i + r - j := by
      rw [shape.size]
      omega
    have outside : kernel.getD (i + r - j) 0 = 0 := by
      rw [List.getD_eq_getElem?_getD, List.getElem?_eq_none beyond, Option.getD_none]
    rw [if_neg fun near => Nat.not_le_of_lt early near.1.1, outside, mul_zero]
  by_cases finite_ : (spectrum.getD j .nan).isFinite = true
  · have mirrored := shape.symmetric (i + r - j) (by omega)
    have index : 2 * r - (i + r - j) = r + j - i := by omega
    rw [if_pos ⟨⟨Nat.le_of_not_lt early, Nat.le_of_not_lt far⟩, finite_⟩, mirrored, index, centredWeight, mul_comm]
  · rw [if_neg fun near => finite_ near.2, masked _ (Bool.not_eq_true _ ▸ finite_), zero_mul]

omit [FloorRing 𝕜] in
theorem near_weight_positive (kernel : List 𝕜) (r : Nat) (shape : SymmetricKernel kernel r) (spectrum : List (ChannelValue 𝕜))
    (i : Nat) : ∀ j ∈ finiteNear spectrum r i, 0 < centredWeight kernel r i j := by
  intro j member
  obtain ⟨_, near, _⟩ := Finset.mem_filter.mp member
  exact shape.positive _ (by omega)

variable [IsStrictOrderedRing 𝕜]

omit [LinearOrder 𝕜] [FloorRing 𝕜] [IsStrictOrderedRing 𝕜] in
theorem gaussian_kernel_get (radius : Nat) (sigma : 𝕜) (k : Nat) (inside : k ≤ 2 * radius) :
    (gaussianKernel ops radius sigma).getD k 0 =
      ops.exp (-(1 / ((2 : Nat) : 𝕜)) * (((k : 𝕜) - radius) / sigma) ^ 2) /
        ∑ k ∈ Finset.range (2 * radius + 1), ops.exp (-(1 / ((2 : Nat) : 𝕜)) * (((k : 𝕜) - radius) / sigma) ^ 2) := by
  rw [gaussianKernel, List.getD_eq_getElem?_getD, List.getElem?_map, List.getElem?_map, List.getElem?_map,
    List.getElem?_range (by omega), List.map_map, list_range_sum]
  rfl

omit [FloorRing 𝕜] in
theorem gaussian_kernel_shape (expPositive : ∀ x, 0 < ops.exp x) (radius : Nat) (sigma : 𝕜) :
    SymmetricKernel (gaussianKernel ops radius sigma) radius := by
  refine ⟨by simp [gaussianKernel], ?_, ?_⟩
  · intro k inside
    rw [gaussian_kernel_get ops radius sigma k inside]
    exact div_pos (expPositive _) (Finset.sum_pos (fun _ _ => expPositive _) Finset.nonempty_range_add_one)
  · intro k inside
    have mirrored : (((2 * radius - k : Nat) : 𝕜) - radius) = -((k : 𝕜) - radius) := by
      rw [Nat.cast_sub inside]
      push_cast
      ring
    rw [gaussian_kernel_get ops radius sigma k inside, gaussian_kernel_get ops radius sigma _ (Nat.sub_le _ _), mirrored, neg_div,
      neg_sq]

omit [FloorRing 𝕜] in
theorem boxcar_kernel_shape (width : Int) (r : Nat) (positive : 1 ≤ width) (size : width.toNat = 2 * r + 1) :
    SymmetricKernel (List.replicate width.toNat (1 / (width : 𝕜))) r := by
  have weight : ∀ k ≤ 2 * r, (List.replicate width.toNat (1 / (width : 𝕜))).getD k 0 = 1 / (width : 𝕜) := by
    intro k inside
    rw [List.getD_eq_getElem?_getD, List.getElem?_replicate, if_pos (by omega), Option.getD_some]
  refine ⟨by rw [List.length_replicate, size], ?_, ?_⟩
  · intro k inside
    have channels : (0 : 𝕜) < width := Int.cast_pos.mpr positive
    rw [weight k inside]
    positivity
  · intro k inside
    rw [weight k inside, weight _ (Nat.sub_le _ _)]

theorem smoothing_kernel_shape (expPositive : ∀ x, 0 < ops.exp x) (method : SmoothMethod) (width : Int) (sigma : ChannelValue 𝕜)
    (kernel : List 𝕜) (r : Nat) (returned : smoothingKernel ops method width sigma = .ok kernel) (size : kernel.length = 2 * r + 1)
    (wide : 1 ≤ r) : SymmetricKernel kernel r := by
  cases method with
  | none =>
      cases returned
      rw [List.length_singleton] at size
      omega
  | hanning =>
      cases returned
      obtain rfl : r = 1 := by
        simp only [List.length_cons, List.length_nil] at size
        omega
      refine ⟨rfl, ?_, ?_⟩
      · intro k inside
        interval_cases k <;> simp
      · intro k inside
        interval_cases k <;> rfl
  | boxcar =>
      rw [smoothingKernel] at returned
      by_cases refused : width < 1 ∨ width % 2 = 0
      · rw [if_pos refused] at returned
        cases returned
      · rw [if_neg refused] at returned
        cases returned
        rw [List.length_replicate] at size
        exact boxcar_kernel_shape width r (Int.not_lt.mp (not_or.mp refused).1) size
  | gaussian =>
      cases sigma with
      | finite value =>
          rw [smoothingKernel] at returned
          by_cases refused : value ≤ 0
          · simp only [if_pos refused] at returned
            cases returned
          · simp only [if_neg refused] at returned
            cases returned
            have shape := gaussian_kernel_shape ops expPositive (max 1 ⌈((4 : Nat) : 𝕜) * value⌉).toNat value
            have same := shape.size.symm.trans size
            have radius : (max 1 ⌈((4 : Nat) : 𝕜) * value⌉).toNat = r := by omega
            exact radius ▸ shape
      | infinite => cases returned
      | nan => cases returned
  | other => cases returned

omit [FloorRing 𝕜] in
theorem smoothed_channel (kernel : List 𝕜) (r : Nat) (shape : SymmetricKernel kernel r) (spectrum : List (ChannelValue 𝕜))
    (fits : 2 * r + 1 ≤ spectrum.length) (i : Nat) (inside : i < spectrum.length) :
    (List.zipWith divideWhere (convolveSame (spectrum.map ChannelValue.orZero) kernel)
      (convolveSame (spectrum.map ChannelValue.mask) kernel))[i]? = some (localMean kernel r spectrum i) := by
  have numerator := convolve_near kernel r shape spectrum ChannelValue.orZero
    (fun channel masked => by cases channel <;> first | rfl | cases masked) fits i inside
  have denominator := convolve_near kernel r shape spectrum ChannelValue.mask
    (fun channel masked => by rw [ChannelValue.mask, masked]; rfl) fits i inside
  have unit : ∀ j ∈ finiteNear spectrum r i,
      centredWeight kernel r i j * (spectrum.getD j .nan).mask = centredWeight kernel r i j := by
    intro j member
    rw [ChannelValue.mask, if_pos (Finset.mem_filter.mp member).2.2, mul_one]
  rw [Finset.sum_congr rfl unit] at denominator
  rw [List.getElem?_zipWith, numerator, denominator, localMean]
  by_cases empty : finiteNear spectrum r i = ∅
  · rw [if_pos empty, empty, Finset.sum_empty, Finset.sum_empty]
    exact congrArg some (if_neg (lt_irrefl _))
  · have positive := WeightedMean.total_positive (finiteNear spectrum r i) (centredWeight kernel r i)
      (near_weight_positive kernel r shape spectrum i) (Finset.nonempty_iff_ne_empty.mpr empty)
    rw [if_neg empty]
    exact congrArg some (if_pos positive)

theorem smooth_spectrum_mean (spectrum : List (ChannelValue 𝕜)) (method : SmoothMethod) (width : Int) (sigma : ChannelValue 𝕜)
    (kernel : List 𝕜) (r : Nat) (returned : smoothingKernel ops method width sigma = .ok kernel) (shape : SymmetricKernel kernel r)
    (wide : 1 ≤ r) (fits : 2 * r + 1 ≤ spectrum.length) :
    smoothSpectrum ops spectrum method width sigma =
      .ok ((List.range spectrum.length).map (localMean kernel r spectrum), smoothDescription ops method width sigma kernel.length) := by
  have size := shape.size
  have several : kernel.length ≠ 1 := by omega
  have room : ¬ spectrum.length < kernel.length := by omega
  have channels : List.zipWith divideWhere (convolveSame (spectrum.map ChannelValue.orZero) kernel)
      (convolveSame (spectrum.map ChannelValue.mask) kernel) = (List.range spectrum.length).map (localMean kernel r spectrum) := by
    apply List.ext_getElem?
    intro i
    by_cases inside : i < spectrum.length
    · rw [smoothed_channel kernel r shape spectrum fits i inside, List.getElem?_map, List.getElem?_range inside, Option.map_some]
    · have length : max spectrum.length kernel.length = spectrum.length := Nat.max_eq_left (Nat.le_of_not_lt room)
      rw [List.getElem?_eq_none, List.getElem?_eq_none]
      · simpa using inside
      · simpa [convolveSame, length] using inside
  rw [smoothSpectrum, bind_value _ _ _ returned, if_neg several, bind_clear _ _ _ room]
  exact congrArg (fun smoothed => Except.ok (smoothed, smoothDescription ops method width sigma kernel.length)) channels

omit [Field 𝕜] [FloorRing 𝕜] [IsStrictOrderedRing 𝕜] [LinearOrder 𝕜] in
theorem near_empty_iff (spectrum : List (ChannelValue 𝕜)) (r i : Nat) : finiteNear spectrum r i = ∅ ↔
    ∀ j < spectrum.length, i ≤ j + r → j ≤ i + r → (spectrum.getD j .nan).isFinite = false := by
  rw [finiteNear, Finset.filter_eq_empty_iff]
  constructor
  · intro none_ j bound left right
    exact Bool.not_eq_true _ ▸ fun finite_ => none_ (Finset.mem_range.mpr bound) ⟨⟨left, right⟩, finite_⟩
  · rintro masked j member ⟨⟨left, right⟩, finite_⟩
    rw [masked j (Finset.mem_range.mp member) left right] at finite_
    cases finite_

-- The channels that a smoothed channel reads.
def AgreeNear (first second : List (ChannelValue 𝕜)) (r i : Nat) : Prop :=
  first.length = second.length ∧ ∀ j < first.length, i ≤ j + r → j ≤ i + r → first[j]? = second[j]?

omit [FloorRing 𝕜] [IsStrictOrderedRing 𝕜] [LinearOrder 𝕜] in
theorem local_mean_agrees (kernel : List 𝕜) (r : Nat) (first second : List (ChannelValue 𝕜)) (i : Nat)
    (agree : AgreeNear first second r i) : localMean kernel r first i = localMean kernel r second i := by
  obtain ⟨length, same⟩ := agree
  have read : ∀ j < first.length, i ≤ j + r → j ≤ i + r → first.getD j .nan = second.getD j .nan := by
    intro j bound left right
    rw [List.getD_eq_getElem?_getD, List.getD_eq_getElem?_getD, same j bound left right]
  have window : finiteNear first r i = finiteNear second r i := by
    rw [finiteNear, finiteNear, ← length]
    refine Finset.filter_congr fun j member => and_congr_right fun near => ?_
    rw [read j (Finset.mem_range.mp member) near.1 near.2]
  have numbers : ∀ j ∈ finiteNear first r i, channelNumber first j = channelNumber second j := by
    intro j member
    obtain ⟨bound, near, _⟩ := Finset.mem_filter.mp member
    rw [channelNumber, channelNumber, read j (Finset.mem_range.mp bound) near.1 near.2]
  rw [localMean, localMean, WeightedMean.mean_congr _ _ _ _ numbers, window]

-- A weighted mean of the finite channels near `i`.
structure LocalMean (kernel : List 𝕜) (r : Nat) (spectrum : List (ChannelValue 𝕜)) (i : Nat) (value : 𝕜) : Prop where
  mean : value = (∑ j ∈ finiteNear spectrum r i, centredWeight kernel r i j * channelNumber spectrum j) /
    ∑ j ∈ finiteNear spectrum r i, centredWeight kernel r i j
  constant : ∀ level, (∀ j ∈ finiteNear spectrum r i, channelNumber spectrum j = level) → value = level
  low : ∀ low, (∀ j ∈ finiteNear spectrum r i, low ≤ channelNumber spectrum j) → low ≤ value
  high : ∀ high, (∀ j ∈ finiteNear spectrum r i, channelNumber spectrum j ≤ high) → value ≤ high

omit [FloorRing 𝕜] in
theorem local_mean_value (kernel : List 𝕜) (r : Nat) (shape : SymmetricKernel kernel r) (spectrum : List (ChannelValue 𝕜)) (i : Nat)
    (some_ : (finiteNear spectrum r i).Nonempty) :
    ∃ value, localMean kernel r spectrum i = .finite value ∧ LocalMean kernel r spectrum i value := by
  have positive := near_weight_positive kernel r shape spectrum i
  refine ⟨_, if_neg some_.ne_empty, rfl, ?_, ?_, ?_⟩
  · exact fun level constant => WeightedMean.mean_constant _ _ _ positive some_ level constant
  · exact fun low above => WeightedMean.le_mean _ _ _ positive some_ low above
  · exact fun high below => WeightedMean.mean_le _ _ _ positive some_ high below

theorem smooth_spectrum_local (expPositive : ∀ x, 0 < ops.exp x) (spectrum : List (ChannelValue 𝕜)) (method : SmoothMethod)
    (width : Int) (sigma : ChannelValue 𝕜) (kernel : List 𝕜) (r : Nat)
    (returned : smoothingKernel ops method width sigma = .ok kernel) (size : kernel.length = 2 * r + 1) (wide : 1 ≤ r)
    (fits : 2 * r + 1 ≤ spectrum.length) :
    ∃ smoothed description, smoothSpectrum ops spectrum method width sigma = .ok (smoothed, description) ∧
      smoothed.length = spectrum.length ∧ ∀ i < spectrum.length,
        (smoothed[i]? = some .nan ↔
          ∀ j < spectrum.length, i ≤ j + r → j ≤ i + r → (spectrum.getD j .nan).isFinite = false) ∧
        ((finiteNear spectrum r i).Nonempty →
          ∃ value, smoothed[i]? = some (.finite value) ∧ LocalMean kernel r spectrum i value) ∧
        ∀ other, AgreeNear spectrum other r i → ∃ result, smoothSpectrum ops other method width sigma = .ok result ∧
          result.1[i]? = smoothed[i]? := by
  have shape := smoothing_kernel_shape ops expPositive method width sigma kernel r returned size wide
  refine ⟨_, _, smooth_spectrum_mean ops spectrum method width sigma kernel r returned shape wide fits, by simp, ?_⟩
  intro i inside
  have read : ∀ other : List (ChannelValue 𝕜), i < other.length →
      ((List.range other.length).map (localMean kernel r other))[i]? = some (localMean kernel r other i) := by
    intro other bound
    rw [List.getElem?_map, List.getElem?_range bound, Option.map_some]
  rw [read spectrum inside]
  refine ⟨?_, ?_, ?_⟩
  · rw [Option.some.injEq, ← near_empty_iff, localMean]
    by_cases empty : finiteNear spectrum r i = ∅ <;> simp [empty]
  · intro some_
    obtain ⟨value, same, mean⟩ := local_mean_value kernel r shape spectrum i some_
    exact ⟨value, congrArg some same, mean⟩
  · intro other agree
    have length := agree.1
    refine ⟨_, smooth_spectrum_mean ops other method width sigma kernel r returned shape wide (length ▸ fits), ?_⟩
    rw [read other (length ▸ inside), local_mean_agrees kernel r spectrum other i agree]

end

-- One finite channel, a gap of three, and another.
theorem smooth_spectrum_gap :
    let ops : SmoothOps ℝ := ⟨Real.exp, fun _ => "0.25"⟩
    let spectrum : List (ChannelValue ℝ) := [.finite 1, .nan, .infinite true, .nan, .finite 5]
    ∃ smoothed description, smoothSpectrum ops spectrum .gaussian 5 (.finite (1 / 4)) = .ok (smoothed, description) ∧
      smoothed[2]? = some .nan ∧ smoothed[1]? = some (.finite 1) := by
  intro ops spectrum
  have radius : (max 1 ⌈((4 : Nat) : ℝ) * (1 / 4)⌉).toNat = 1 := by norm_num
  have returned : smoothingKernel ops .gaussian 5 (.finite (1 / 4)) = .ok (gaussianKernel ops 1 (1 / 4)) := by
    rw [smoothingKernel]
    simp only [radius]
    exact if_neg (by norm_num)
  obtain ⟨smoothed, description, done, _, channels⟩ := smooth_spectrum_local ops Real.exp_pos spectrum .gaussian 5 (.finite (1 / 4))
    (gaussianKernel ops 1 (1 / 4)) 1 returned (gaussian_kernel_shape ops Real.exp_pos 1 (1 / 4)).size (Nat.le_refl 1) (by decide)
  refine ⟨smoothed, description, done, ?_, ?_⟩
  · refine (channels 2 (by decide)).1.mpr ?_
    intro j bound left right
    have inside : j < 5 := bound
    interval_cases j <;> first | rfl | omega
  · have near : ∀ j ∈ finiteNear spectrum 1 1, j = 0 := by
      intro j member
      obtain ⟨_, close, finite_⟩ := Finset.mem_filter.mp member
      have inside : j < 3 := Nat.lt_succ_of_le close.2
      interval_cases j <;> first | rfl | cases finite_
    obtain ⟨value, read, mean⟩ := (channels 1 (by decide)).2.1 ⟨0, Finset.mem_filter.mpr ⟨by decide, by decide, rfl⟩⟩
    rw [read, mean.constant 1 fun j member => near j member ▸ rfl]

end SpectralLine
