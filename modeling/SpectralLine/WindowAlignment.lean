import SpectralLine.ExactConfig
import Mathlib.Tactic.FieldSimp
import Mathlib.Tactic.Positivity

set_option autoImplicit false

namespace SpectralLine

open Checked Extended

-- What a window of an FFT of whole length may rely on.
structure FftGeometry (cfg : GlobalConfig Extended) (bw : ℚ) : Prop where
  winBw : cfg.winBw = finite bw
  positive : 0 < bw
  channels : 0 < cfg.winChannels
  length : (cfg.totalNfft : ℚ) * bw = samplingRateHz * cfg.winChannels
  limit : cfg.totalNfft ≤ 2 ^ 24

def startIndex (cfg : GlobalConfig Extended) (requestedStartFreq startFreq : ℚ) : Int :=
  roundAway ((requestedStartFreq - startFreq) / (samplingRateHz / cfg.totalNfft))

theorem nfft_positive (cfg : GlobalConfig Extended) (bw : ℚ) (geometry : FftGeometry cfg bw) : (0 : ℚ) < cfg.totalNfft := by
  have channels : (0 : ℚ) < cfg.winChannels := by exact_mod_cast geometry.channels
  have rate : (0 : ℚ) < samplingRateHz := by rw [samplingRateHz]; norm_num
  have product : (0 : ℚ) < cfg.totalNfft * bw := by rw [geometry.length]; positivity
  exact (pos_iff_pos_of_mul_pos product).mpr geometry.positive

-- A channel is wider than twice the tolerance of the subband.
theorem channel_width (cfg : GlobalConfig Extended) (bw : ℚ) (geometry : FftGeometry cfg bw) :
    1 < samplingRateHz / cfg.totalNfft ∧ cfg.winChannels * (samplingRateHz / cfg.totalNfft) = bw := by
  have positive := nfft_positive cfg bw geometry
  have limit : (cfg.totalNfft : ℚ) ≤ 2 ^ 24 := by exact_mod_cast geometry.limit
  constructor
  · rw [lt_div_iff₀ positive, samplingRateHz]
    linarith
  · rw [mul_div_assoc', div_eq_iff positive.ne', mul_comm (cfg.winChannels : ℚ), ← geometry.length, mul_comm]

theorem start_index_bounds (cfg : GlobalConfig Extended) (bw low high start : ℚ) (geometry : FftGeometry cfg bw)
    (tolerance : |high - low - samplingRateHz| ≤ 1 / 2) (above : low ≤ start) (below : start + bw ≤ high) :
    0 ≤ startIndex cfg start low ∧ startIndex cfg start low + cfg.winChannels ≤ cfg.totalNfft := by
  obtain ⟨wide, whole⟩ := channel_width cfg bw geometry
  have positive := nfft_positive cfg bw geometry
  have span : cfg.totalNfft * (samplingRateHz / cfg.totalNfft) = samplingRateHz := mul_div_cancel₀ _ positive.ne'
  generalize channel : samplingRateHz / (cfg.totalNfft : ℚ) = width at wide whole span
  have offset : (start - low) / width < ((cfg.totalNfft - cfg.winChannels : Int) : ℚ) + 1 / 2 := by
    rw [div_lt_iff₀ (by linarith)]
    push_cast
    linarith [(abs_le.mp tolerance).2]
  have natural : 0 ≤ (start - low) / width := div_nonneg (by linarith) (by linarith)
  obtain ⟨first, last⟩ := round_away_bounds _ natural _ offset
  rw [startIndex, channel]
  exact ⟨first, by omega⟩

theorem start_index_near (cfg : GlobalConfig Extended) (bw low start : ℚ) (geometry : FftGeometry cfg bw) :
    |low + startIndex cfg start low * (samplingRateHz / cfg.totalNfft) - start| ≤ samplingRateHz / cfg.totalNfft / 2 := by
  obtain ⟨wide, _⟩ := channel_width cfg bw geometry
  rw [startIndex]
  generalize samplingRateHz / (cfg.totalNfft : ℚ) = width at wide ⊢
  have positive : 0 < width := by linarith
  have near := round_away_near ((start - low) / width)
  have scaled : low + roundAway ((start - low) / width) * width - start = (roundAway ((start - low) / width) - (start - low) / width) * width := by
    rw [sub_mul, div_mul_cancel₀ _ positive.ne']
    ring
  rw [scaled, abs_mul, abs_of_pos positive]
  have bound := mul_le_mul_of_nonneg_right near positive.le
  linarith

section

variable (env : ConfigEnv Extended)

-- The length check of initFromYaml, without rounding.
theorem init_fft_accepted (exact_ : ExactArithmetic env) (config : YamlNode) (before : GlobalConfig Extended) :
    Returns (initFftLength env config before) fun after => ∃ bw, after.winBw = finite bw ∧ 0 < bw ∧ 0 < after.winChannels ∧
      samplingRateHz / bw * after.winChannels ≤ maxNfft ∧ after.totalNfft = roundAway (samplingRateHz / bw * after.winChannels) := by
  obtain ⟨bits, floatBits, double⟩ := exact_
  rw [initFftLength, double]
  refine returns_then _ _ _ fun _ => returns_then _ _ _ fun winBw => returns_check _ _ _ _ fun width => ?_
  refine returns_then _ _ _ fun winChannels => returns_check _ _ _ _ fun channels => returns_check _ _ _ _ fun length => ?_
  simp only [Bool.or_eq_true, Bool.not_eq_true', not_or, Bool.not_eq_false, Bool.not_eq_true] at width length
  obtain ⟨bw, rfl⟩ := (is_finite_iff winBw).mp width.1
  have positive : 0 < bw := by
    have above : decide (bw ≤ 0) = false := width.2
    exact not_le.mp (of_decide_eq_false above)
  have quotient : div (finite samplingRateHz) (finite bw) = finite (samplingRateHz / bw) := div_finite _ _ positive.ne'
  have product : mul (div (finite samplingRateHz) (finite bw)) (finite winChannels) = finite (samplingRateHz / bw * winChannels) := by
    rw [quotient, mul]
  have limit : lt (finite maxNfft) (mul (div (finite samplingRateHz) (finite bw)) (finite winChannels)) = false := length.2
  rw [product] at limit
  refine returns_pure _ _ ⟨bw, rfl, positive, Int.not_le.mp channels, not_lt.mp (of_decide_eq_false limit), ?_⟩
  have rounded : (exactOps bits floatBits).llround (mul (div (finite samplingRateHz) (finite bw)) (finite winChannels)) =
      roundAway (samplingRateHz / bw * winChannels) := by
    rw [product]
    rfl
  exact rounded

theorem init_noise_fft (config : YamlNode) (cfg : GlobalConfig Extended) :
    Returns (initNoise env config cfg) fun after =>
      after.winBw = cfg.winBw ∧ after.winChannels = cfg.winChannels ∧ after.totalNfft = cfg.totalNfft := by
  refine returns_then _ _ _ fun _ => returns_then _ _ _ fun _ => returns_then _ _ _ fun _ => returns_then _ _ _ fun _ => ?_
  refine returns_check _ _ _ _ fun _ => returns_check _ _ _ _ fun _ => returns_check _ _ _ _ fun _ => ?_
  exact returns_pure _ _ ⟨rfl, rfl, rfl⟩

theorem fft_geometry (exact_ : ExactArithmetic env) (config : YamlNode) (before fft cfg : GlobalConfig Extended)
    (accepted : initFftLength env config before = .ok fft) (noise : initNoise env config fft = .ok cfg) (bw : ℚ)
    (winBw : cfg.winBw = finite bw) (n : ℤ) (integer : samplingRateHz * cfg.winChannels / bw = n) :
    FftGeometry cfg bw ∧ cfg.totalNfft = n := by
  obtain ⟨other, same, positive, channels, limit, length⟩ := init_fft_accepted env exact_ config before fft accepted
  obtain ⟨keptBw, keptChannels, keptLength⟩ := init_noise_fft env config fft cfg noise
  rw [← keptBw, winBw] at same
  cases same
  rw [← keptChannels] at channels
  have requested : samplingRateHz / bw * fft.winChannels = n := by rw [← integer, div_mul_eq_mul_div, keptChannels]
  rw [requested, round_away_integer, ← keptLength] at length
  refine ⟨⟨winBw, positive, channels, ?_, ?_⟩, length⟩
  · rw [length, ← integer, div_mul_cancel₀ _ positive.ne']
  · rw [requested, maxNfft] at limit
    rw [length]
    have small : (n : ℚ) ≤ ((2 ^ 24 : ℤ) : ℚ) := limit.trans (by norm_num)
    exact_mod_cast small

-- The window on the bins nearest to the requested start.
structure WindowPlaced (cfg : GlobalConfig Extended) (bw low start : ℚ) (window : WindowConfig Extended) : Prop where
  index : (window.startIdx : Int) = startIndex cfg start low
  inside : (window.startIdx : Int) + cfg.winChannels ≤ cfg.totalNfft
  startFreq : ∃ aligned, window.startFreq = finite aligned ∧ |aligned - start| ≤ samplingRateHz / cfg.totalNfft / 2
  bw : window.bw = finite bw

theorem init_window_placed (exact_ : ExactArithmetic env) (cfg : GlobalConfig Extended) (bw : ℚ) (geometry : FftGeometry cfg bw)
    (sb : SubbandConfig Extended) (low high center : ℚ) (startFreq : sb.startFreq = finite low) (endFreq : sb.endFreq = finite high)
    (tolerance : |high - low - samplingRateHz| ≤ 1 / 2) (winId : Nat) (winNode : YamlNode) (centerNode : Option YamlNode)
    (found : env.yaml.get winNode "center_freq" = .ok centerNode) (read : env.yaml.asDouble centerNode = .ok (finite center))
    (above : low ≤ center - bw / 2) (below : center + bw / 2 ≤ high) :
    ∃ window, initWindow env cfg sb winId winNode = .ok window ∧ WindowPlaced cfg bw low (center - bw / 2) window := by
  obtain ⟨natural, fits⟩ := start_index_bounds cfg bw low high (center - bw / 2) geometry tolerance above (by linarith)
  have near := start_index_near cfg bw low (center - bw / 2) geometry
  obtain ⟨wide, whole⟩ := channel_width cfg bw geometry
  have width : samplingRateHz / (cfg.totalNfft : ℚ) ≠ 0 := by linarith
  have requested : (finite center).sub ((finite bw).div (finite 2)) = finite (center - bw / 2) := by
    rw [div_finite _ _ two_ne_zero, sub, neg, add, ← sub_eq_add_neg]
  have last : (finite center).add ((finite bw).div (finite 2)) = finite (center + bw / 2) := by
    rw [div_finite _ _ two_ne_zero, add]
  have channel : (finite samplingRateHz).div (finite cfg.totalNfft) = finite (samplingRateHz / cfg.totalNfft) :=
    div_finite _ _ (nfft_positive cfg bw geometry).ne'
  have offset : ((finite (center - bw / 2)).sub (finite low)).div (finite (samplingRateHz / cfg.totalNfft)) =
      finite ((center - bw / 2 - low) / (samplingRateHz / cfg.totalNfft)) := by
    rw [sub, neg, add, ← sub_eq_add_neg, div_finite _ _ width]
  obtain ⟨bits, floatBits, double⟩ := exact_
  have rounded : roundAway ((center - bw / 2 - low) / (samplingRateHz / cfg.totalNfft)) = startIndex cfg (center - bw / 2) low := rfl
  rw [initWindow, bind_value _ _ _ found, bind_value _ _ _ read]
  simp only [double, exactOps, geometry.winBw, startFreq, endFreq, requested, last, channel, offset, rounded]
  have finite_ : ¬ (!(finite center).isFinite) = true := Bool.not_not_eq.mpr rfl
  have low_ : ¬ (finite (center - bw / 2)).lt (finite low) = true := by simpa [lt] using above
  have high_ : ¬ (finite high).lt (finite (center + bw / 2)) = true := by simpa [lt] using below
  rw [bind_clear _ _ _ finite_, bind_clear _ _ _ low_, bind_clear _ _ _ high_, bind_clear _ _ _ (by omega)]
  have index := Int.toNat_of_nonneg natural
  exact ⟨_, rfl, index, (congrArg (· + cfg.winChannels) index).trans_le fits, ⟨_, rfl, near⟩, congrArg finite whole⟩

end

theorem window_alignment (env : ConfigEnv Extended) (exact_ : ExactArithmetic env) (config : YamlNode)
    (before fft cfg : GlobalConfig Extended) (accepted : initFftLength env config before = .ok fft)
    (noise : initNoise env config fft = .ok cfg) (bw : ℚ) (winBw : cfg.winBw = finite bw) (n : ℤ)
    (integer : samplingRateHz * cfg.winChannels / bw = n) (sb : SubbandConfig Extended) (low high : ℚ)
    (startFreq : sb.startFreq = finite low) (endFreq : sb.endFreq = finite high) (tolerance : |high - low - samplingRateHz| ≤ 1 / 2)
    (winId : Nat) (winNode : YamlNode) (centerNode : Option YamlNode) (found : env.yaml.get winNode "center_freq" = .ok centerNode)
    (center : ℚ) (read : env.yaml.asDouble centerNode = .ok (finite center)) (above : low ≤ center - bw / 2)
    (below : center + bw / 2 ≤ high) :
    cfg.totalNfft = n ∧
      ∃ window, initWindow env cfg sb winId winNode = .ok window ∧ WindowPlaced cfg bw low (center - bw / 2) window := by
  obtain ⟨geometry, length⟩ := fft_geometry env exact_ config before fft cfg accepted noise bw winBw n integer
  exact ⟨length, init_window_placed env exact_ cfg bw geometry sb low high center startFreq endFreq tolerance winId winNode
    centerNode found read above below⟩

def edgeSettings : GlobalConfig Extended :=
  { GlobalConfig.initial extendedEnv with winBw := finite 16000000, winChannels := 65536, totalNfft := 1048576 }

def edgeSubband : SubbandConfig Extended where
  subbandId := 0
  enable := true
  beam := .a
  gpuId := 0
  startFreq := finite (1000000000 - 1 / 2)
  endFreq := finite 1256000000
  port := 5001
  windows := []

theorem edge_fft : initFftLength extendedEnv (.mapping []) edgeSettings = .ok edgeSettings := by
  have rounded : extendedEnv.double.llround (mul (div (finite samplingRateHz) (finite 16000000)) (finite ((65536 : Int) : ℚ))) =
      1048576 := by
    decide +kernel
  have absent : ∀ {T : Type} (key : String) (read : Option YamlNode → Except String T) (field : T),
      extendedEnv.yaml.optional (some (.mapping [])) key read field = .ok field := fun _ _ _ => rfl
  rw [initFftLength, bind_value _ _ _ (absent "subband_monitor" _ _), bind_value _ _ _ (absent "win_bw" _ _),
    bind_clear _ _ _ (by decide +kernel), bind_value _ _ _ (absent "win_channels" _ _), bind_clear _ _ _ (by decide),
    bind_clear _ _ _ (by decide +kernel)]
  exact congrArg (fun length => Except.ok { edgeSettings with totalNfft := length }) rounded

-- The last window of a subband half a hertz too wide.
theorem window_alignment_edge : ∃ window,
    initWindow extendedEnv edgeSettings edgeSubband 0 (.mapping [("center_freq", .scalar "1248000000")]) = .ok window ∧
      (window.startIdx : Int) + 65536 ≤ 1048576 := by
  have scale : (1000000000 - 1 / 2 : ℚ) ≤ 1248000000 - 16000000 / 2 := by norm_num
  obtain ⟨_, window, placed, aligned⟩ := window_alignment extendedEnv extended_exact (.mapping []) edgeSettings edgeSettings edgeSettings
    edge_fft rfl 16000000 rfl 1048576 (by rw [samplingRateHz]; norm_num [edgeSettings]) edgeSubband (1000000000 - 1 / 2) 1256000000
    rfl rfl (by rw [samplingRateHz, abs_le]; norm_num) 0 (.mapping [("center_freq", .scalar "1248000000")])
    (some (.scalar "1248000000")) rfl 1248000000 rfl scale (by norm_num)
  exact ⟨window, placed, aligned.inside⟩

end SpectralLine
