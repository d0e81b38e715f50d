import SpectralLine.ExactConfig
import SpectralLine.Worker
import Mathlib.Tactic.FieldSimp
import Mathlib.Tactic.Positivity

set_option autoImplicit false

namespace SpectralLine

open Extended

-- The conversions of is_noise_blank and update_noise_state; none is undefined.
def NoiseSource.periodNs (noise : NoiseSource Extended) : Option Nat := toUnsigned 64 (mul noise.periodMs (finite 1000000))

def NoiseSource.onNs (noise : NoiseSource Extended) (period : Nat) : Option Nat :=
  toUnsigned 64 (div (mul (finite period) noise.dutyCycle) (finite 100))

def NoiseSource.blankNs (noise : NoiseSource Extended) : Option Nat := toUnsigned 64 (mul noise.transitionBlankMs (finite 1000000))

section

variable (env : ConfigEnv Extended)

-- static_cast<int>(integration_t / fft_period())
def integrationBlocks (cfg : GlobalConfig Extended) : Option Int :=
  toSigned 32 (env.double.div cfg.integrationT (GlobalConfig.fftPeriod env cfg))

-- m_acc_len
def accumulationLength (cfg : GlobalConfig Extended) : Nat :=
  (BitVec.ofInt 32 (env.double.llround (env.double.div (GlobalConfig.integrationTime env cfg) (GlobalConfig.fftPeriod env cfg)))).toNat

end

def GlobalConfig.batchsize {F : Type} (cfg : GlobalConfig F) : Int := cfg.totalNfft.tdiv 4096

def calcPoolSize {F : Type} (cfg : GlobalConfig F) : Nat :=
  let maxPoolMemory := cfg.memoryPoolPerStream * (1024 * 1024 * 1024) % 2 ^ 64
  let batchBytes := 8192 * cfg.batchsize.toNat
  max (maxPoolMemory / batchBytes) 3

def queueCapacity {F : Type} (cfg : GlobalConfig F) : Nat := calcPoolSize cfg - 2

-- The quantities that the worker threads derive from the configuration.
structure WellDefinedArithmetic (env : ConfigEnv Extended) (cfg : GlobalConfig Extended) : Prop where
  cycle : ∃ period on, NoiseSource.periodNs cfg.noiseSource = some period ∧ 1 ≤ period ∧ NoiseSource.onNs cfg.noiseSource period = some on ∧ on ≤ period
  blank : ∃ blank, NoiseSource.blankNs cfg.noiseSource = some blank
  integration : ∃ blocks, integrationBlocks env cfg = some blocks
  length : 1 ≤ accumulationLength env cfg
  batch : 1 ≤ cfg.batchsize
  pool : cfg.memoryPoolPerStream * 2 ^ 30 < 2 ^ 64
  queue : 1 ≤ queueCapacity cfg
  windows : ∀ sb ∈ cfg.subbands, ∀ window ∈ sb.windows, (window.startIdx : Int) + cfg.winChannels ≤ cfg.totalNfft

-- The settings that have to be as they should for that.
structure ArithmeticInputs (cfg : GlobalConfig Extended) : Prop where
  period : ∃ p, cfg.noiseSource.periodMs = finite p ∧ 1 ≤ p * 1000000 ∧ p * 1000000 < 2 ^ 64
  duty : cfg.noiseSource.dutyCycle ≠ nan
  blank : ∃ b, cfg.noiseSource.transitionBlankMs = finite b ∧ b * 1000000 < 2 ^ 64
  integration : ∃ t, cfg.integrationT = finite t ∧ -(2 ^ 31) - 1 < t * 256000000 / cfg.totalNfft ∧
    t * 256000000 / cfg.totalNfft < 2 ^ 31
  pool : cfg.memoryPoolPerStream < 2 ^ 34

theorem scaled_ns_iff (x : Extended) (unsigned : x.lt (finite 0) = false) (n : Nat) :
    toUnsigned 64 (mul x (finite 1000000)) = some n ↔ ∃ q, x = finite q ∧ q * 1000000 < 2 ^ 64 ∧ n = ⌊q * 1000000⌋.toNat := by
  cases x with
  | finite q =>
      have natural : 0 ≤ q := by simpa [lt] using unsigned
      have product : (0 : ℚ) ≤ q * 1000000 := by positivity
      refine (to_unsigned_natural 64 _ product n).trans ⟨fun both => ⟨q, rfl, both⟩, ?_⟩
      rintro ⟨_, same, both⟩
      cases same
      exact both
  | posInf => simp [mul, infinite, toUnsigned]
  | negInf => simp [lt] at unsigned
  | nan => simp [mul, toUnsigned]

theorem period_iff (noise : NoiseSource Extended) (checked : noise.periodMs.le (finite 0) = false) :
    (∃ period, NoiseSource.periodNs noise = some period ∧ 1 ≤ period) ↔
      ∃ p, noise.periodMs = finite p ∧ 1 ≤ p * 1000000 ∧ p * 1000000 < 2 ^ 64 := by
  have unsigned : noise.periodMs.lt (finite 0) = false := by
    cases low : noise.periodMs with
    | finite p =>
        rw [low] at checked
        have positive : 0 < p := by simpa [le] using checked
        simpa [lt] using positive.le
    | posInf => rfl
    | negInf =>
        rw [low] at checked
        cases checked
    | nan => rfl
  have whole : ∀ x : ℚ, 1 ≤ ⌊x⌋.toNat ↔ 1 ≤ x := by
    intro x
    have floor := @Int.le_floor ℚ _ _ _ 1 x
    rw [Int.cast_one] at floor
    rw [← floor]
    omega
  constructor
  · rintro ⟨period, converted, positive⟩
    obtain ⟨p, same, below, rfl⟩ := (scaled_ns_iff _ unsigned period).mp converted
    exact ⟨p, same, (whole _).mp positive, below⟩
  · rintro ⟨p, same, above, below⟩
    exact ⟨_, (scaled_ns_iff _ unsigned _).mpr ⟨p, same, below, rfl⟩, (whole _).mpr above⟩

-- Where they are defined, they are the numbers that the worker computes with.
theorem worker_conversions (noise : NoiseSource Extended) (source : NoiseSourceConfig)
    (periodMs : noise.periodMs = finite source.periodMs) (dutyCycle : noise.dutyCycle = finite source.dutyCycle)
    (transitionBlankMs : noise.transitionBlankMs = finite source.transitionBlankMs) (positive : 0 ≤ source.periodMs)
    (share : 0 ≤ source.dutyCycle) (wide : 0 ≤ source.transitionBlankMs) (period on blank : Nat)
    (periodNs : NoiseSource.periodNs noise = some period) (onNs : NoiseSource.onNs noise period = some on)
    (blankNs : NoiseSource.blankNs noise = some blank) :
    noisePeriodNs source = period ∧ noiseOnNs source = on ∧ noiseBlankNs source = blank := by
  have natural : (0 : ℚ) ≤ period := Nat.cast_nonneg period
  rw [NoiseSource.periodNs, periodMs, mul, to_unsigned_natural 64 _ (by positivity)] at periodNs
  rw [NoiseSource.onNs, dutyCycle, mul, div_finite _ _ (by norm_num), to_unsigned_natural 64 _ (by positivity)] at onNs
  rw [NoiseSource.blankNs, transitionBlankMs, mul, to_unsigned_natural 64 _ (by positivity)] at blankNs
  have cycle : noisePeriodNs source = period := periodNs.2.symm
  refine ⟨cycle, ?_, blankNs.2.symm⟩
  rw [noiseOnNs, cycle]
  exact onNs.2.symm

theorem on_share (noise : NoiseSource Extended) (period : Nat) (d : ℚ) (given : noise.dutyCycle = finite d) (low : 0 < d)
    (high : d < 100) (fits : period < 2 ^ 64) : ∃ on, NoiseSource.onNs noise period = some on ∧ on ≤ period := by
  have natural : (0 : ℚ) ≤ period := Nat.cast_nonneg period
  have share : (period : ℚ) * d / 100 ≤ period := by nlinarith
  have product : (0 : ℚ) ≤ period * d / 100 := by positivity
  have bound : (period : ℚ) < 2 ^ 64 := by exact_mod_cast fits
  refine ⟨⌊(period : ℚ) * d / 100⌋.toNat, ?_, ?_⟩
  · have quotient : div (mul (finite period) (finite d)) (finite 100) = finite (period * d / 100) := rfl
    rw [NoiseSource.onNs, given, quotient]
    exact (to_unsigned_natural 64 _ product _).mpr ⟨by linarith, rfl⟩
  · have floor : ⌊(period : ℚ) * d / 100⌋ ≤ (period : Int) := by
      have least := (Int.floor_le ((period : ℚ) * d / 100)).trans share
      exact_mod_cast least
    omega

theorem to_signed_some (x : ℚ) (n : Int) (converted : toSigned 32 (finite x) = some n) : -(2 ^ 31) ≤ n ∧ n < 2 ^ 31 := by
  rw [toSigned] at converted
  split_ifs at converted with inside
  obtain ⟨low, high⟩ := inside
  obtain rfl := Option.some.inj converted
  rw [truncate]
  split_ifs with natural
  · have below : ⌊x⌋ < 2 ^ 31 := by
      rw [Int.floor_lt]
      exact_mod_cast high
    have above : 0 ≤ ⌊x⌋ := Int.floor_nonneg.mpr natural
    omega
  · have below : ⌊-x⌋ < 2 ^ 31 + 1 := by
      rw [Int.floor_lt]
      norm_num at low ⊢
      linarith
    have above : 0 ≤ ⌊-x⌋ := Int.floor_nonneg.mpr (by linarith)
    omega

section

variable (env : ConfigEnv Extended) (cfg : GlobalConfig Extended)

variable (exact_ : ExactArithmetic env) (length : 65536 ≤ cfg.totalNfft)

include exact_ in
theorem exact_fft_period : GlobalConfig.fftPeriod env cfg = finite (cfg.totalNfft / 256000000) := by
  obtain ⟨bits, floatBits, double⟩ := exact_
  have rate : (256000000 : ℚ) ≠ 0 := by norm_num
  rw [GlobalConfig.fftPeriod, double]
  exact div_finite _ _ rate

include length in
theorem period_positive : (0 : ℚ) < (cfg.totalNfft : ℚ) / 256000000 := by
  have positive : (0 : ℚ) < cfg.totalNfft := by exact_mod_cast (by omega : 0 < cfg.totalNfft)
  positivity

include exact_ length in
theorem integration_iff :
    (∃ blocks, integrationBlocks env cfg = some blocks) ↔
      ∃ t, cfg.integrationT = finite t ∧ -(2 ^ 31) - 1 < t * 256000000 / cfg.totalNfft ∧ t * 256000000 / cfg.totalNfft < 2 ^ 31 := by
  have period := exact_fft_period env cfg exact_
  have positive := period_positive cfg length
  obtain ⟨bits, floatBits, double⟩ := exact_
  rw [integrationBlocks, period, double]
  show (∃ blocks, toSigned 32 (div cfg.integrationT (finite (cfg.totalNfft / 256000000))) = some blocks) ↔ _
  cases cfg.integrationT with
  | finite t =>
      have quotient : div (finite t) (finite (cfg.totalNfft / 256000000)) = finite (t * 256000000 / cfg.totalNfft) := by
        rw [div_finite _ _ positive.ne', div_div_eq_mul_div]
      rw [quotient, toSigned]
      constructor
      · rintro ⟨blocks, converted⟩
        split_ifs at converted with inside
        exact ⟨t, rfl, inside⟩
      · rintro ⟨_, same, inside⟩
        cases same
        exact ⟨_, if_pos inside⟩
  | posInf => simp [div, positive.le.not_gt, toSigned]
  | negInf => simp [div, positive.le.not_gt, toSigned]
  | nan => simp [div, toSigned]

include exact_ length in
theorem accumulation_length (blocks : Int) (converted : integrationBlocks env cfg = some blocks) :
    1 ≤ accumulationLength env cfg := by
  have period := exact_fft_period env cfg exact_
  have positive := period_positive cfg length
  obtain ⟨bits, floatBits, double⟩ := exact_
  have range : env.double.toInt (env.double.div cfg.integrationT (GlobalConfig.fftPeriod env cfg)) = blocks ∧ blocks < 2 ^ 31 := by
    rw [integrationBlocks] at converted
    cases quotient : env.double.div cfg.integrationT (GlobalConfig.fftPeriod env cfg) with
    | finite q =>
        rw [quotient] at converted
        refine ⟨?_, (to_signed_some q blocks converted).2⟩
        rw [toSigned] at converted
        split_ifs at converted
        rw [double]
        exact Option.some.inj converted
    | posInf => rw [quotient] at converted; cases converted
    | negInf => rw [quotient] at converted; cases converted
    | nan => rw [quotient] at converted; cases converted
  obtain ⟨counted, small⟩ := range
  obtain ⟨count, least, below, same⟩ : ∃ count : Int, 1 ≤ count ∧ count < 2 ^ 31 ∧
      (if blocks < 1 then 1 else (blocks : ℚ)) = count := by
    by_cases few : blocks < 1
    · exact ⟨1, by omega, by omega, by rw [if_pos few, Int.cast_one]⟩
    · exact ⟨blocks, by omega, small, if_neg few⟩
  have time : GlobalConfig.integrationTime env cfg = finite (count * (cfg.totalNfft / 256000000)) := by
    rw [GlobalConfig.integrationTime, counted, same, period, double]
    rfl
  have whole : env.double.div (finite (count * (cfg.totalNfft / 256000000))) (finite (cfg.totalNfft / 256000000)) = finite count := by
    rw [double]
    exact (div_finite _ _ positive.ne').trans (congrArg finite (mul_div_cancel_right₀ _ positive.ne'))
  have rounded : env.double.llround (finite count) = count := by
    rw [double]
    exact round_away_integer count
  rw [accumulationLength, time, period, whole, rounded, BitVec.toNat_ofInt]
  omega

end

theorem queue_capacity_positive {F : Type} (cfg : GlobalConfig F) : 1 ≤ queueCapacity cfg := by
  have least : 3 ≤ calcPoolSize cfg := Nat.le_max_right _ _
  rw [queueCapacity]
  omega

theorem batchsize_positive {F : Type} (cfg : GlobalConfig F) (length : 65536 ≤ cfg.totalNfft) : 1 ≤ cfg.batchsize := by
  rw [GlobalConfig.batchsize, Int.tdiv_eq_ediv_of_nonneg (by omega)]
  omega

theorem duty_inside (noise : NoiseSource Extended) (low : noise.dutyCycle.le (finite 0) = false)
    (high : le (finite 100) noise.dutyCycle = false) (number : noise.dutyCycle ≠ nan) :
    ∃ d, noise.dutyCycle = finite d ∧ 0 < d ∧ d < 100 := by
  cases duty : noise.dutyCycle with
  | finite d =>
      rw [duty] at low high
      exact ⟨d, rfl, by simpa [le] using low, by simpa [le] using high⟩
  | posInf =>
      rw [duty] at high
      cases high
  | negInf =>
      rw [duty] at low
      cases low
  | nan => exact absurd duty number

theorem on_undefined (noise : NoiseSource Extended) (period : Nat) (given : noise.dutyCycle = nan) : NoiseSource.onNs noise period = none := by
  rw [NoiseSource.onNs, given]
  rfl

theorem period_range (noise : NoiseSource Extended) (period : Nat) (converted : NoiseSource.periodNs noise = some period) : period < 2 ^ 64 := by
  rw [NoiseSource.periodNs] at converted
  cases product : mul noise.periodMs (finite 1000000) with
  | finite q =>
      rw [product, toUnsigned] at converted
      split_ifs at converted with inside
      obtain rfl := Option.some.inj converted
      rw [truncate]
      split_ifs with natural
      · have below : ⌊q⌋ < 2 ^ 64 := by
          rw [Int.floor_lt]
          exact_mod_cast inside.2
        have above : 0 ≤ ⌊q⌋ := Int.floor_nonneg.mpr natural
        omega
      · have above : 0 ≤ ⌊-q⌋ := Int.floor_nonneg.mpr (by linarith)
        omega
  | posInf => rw [product] at converted; cases converted
  | negInf => rw [product] at converted; cases converted
  | nan => rw [product] at converted; cases converted

-- The guards that initFromYaml has are enough exactly on these settings.
theorem accepted_arithmetic_iff (env : ConfigEnv Extended) (config : YamlNode) (cfg : GlobalConfig Extended)
    (exact_ : ExactArithmetic env) (accepted : Accepted env config cfg) : WellDefinedArithmetic env cfg ↔ ArithmeticInputs cfg := by
  obtain ⟨noise, windows⟩ := accepted_arithmetic env config cfg accepted
  obtain ⟨_, length⟩ := accepted_nfft env config cfg accepted
  obtain ⟨periodLow, dutyLow, dutyHigh, blankLow⟩ : cfg.noiseSource.periodMs.le (finite 0) = false ∧
      cfg.noiseSource.dutyCycle.le (finite 0) = false ∧ le (finite 100) cfg.noiseSource.dutyCycle = false ∧
      cfg.noiseSource.transitionBlankMs.lt (finite 0) = false := by
    obtain ⟨bits, floatBits, double⟩ := exact_
    obtain ⟨period, low, high, blank⟩ := noise
    rw [double] at period low high blank
    exact ⟨period, low, high, blank⟩
  constructor
  · intro defined
    obtain ⟨period, on, converted, positive, share, _⟩ := defined.cycle
    obtain ⟨blank, blanked⟩ := defined.blank
    obtain ⟨b, given, below, _⟩ := (scaled_ns_iff _ blankLow blank).mp blanked
    refine ⟨(period_iff _ periodLow).mp ⟨period, converted, positive⟩, fun undefined_ => ?_, ⟨b, given, below⟩,
      (integration_iff env cfg exact_ length).mp defined.integration, ?_⟩
    · rw [on_undefined _ period undefined_] at share
      cases share
    · have pool := defined.pool
      omega
  · intro inputs
    obtain ⟨period, converted, positive⟩ := (period_iff _ periodLow).mpr inputs.period
    obtain ⟨d, duty, low, high⟩ := duty_inside _ dutyLow dutyHigh inputs.duty
    obtain ⟨on, share, bound⟩ := on_share _ period d duty low high (period_range _ period converted)
    obtain ⟨b, given, below⟩ := inputs.blank
    obtain ⟨blocks, counted⟩ := (integration_iff env cfg exact_ length).mpr inputs.integration
    have pool := inputs.pool
    exact {
      cycle := ⟨period, on, converted, positive, share, bound⟩
      blank := ⟨_, (scaled_ns_iff _ blankLow _).mpr ⟨b, given, below, rfl⟩⟩
      integration := ⟨blocks, counted⟩
      length := accumulation_length env cfg exact_ length blocks counted
      batch := batchsize_positive cfg length
      pool := by omega
      queue := queue_capacity_positive cfg
      windows := fun sb member window inside => (windows sb member window inside).inside }

-- The plain configuration with this noise source.
def noiseConfig (noise : List (String × YamlNode)) : YamlNode :=
  plainConfig [("cal_mode", .scalar "true"), ("noise_source", .mapping noise)]

def plainNoise : GlobalConfig Extended := (acceptedBy extendedEnv (noiseConfig [])).get (by decide +kernel)

def nanPeriod : GlobalConfig Extended :=
  (acceptedBy extendedEnv (noiseConfig [("period_ms", .scalar ".nan")])).get (by decide +kernel)

theorem plain_noise_accepted : Accepted extendedEnv (noiseConfig []) plainNoise := accepted_by _ _ _ (Option.some_get _).symm

theorem nan_period_accepted : Accepted extendedEnv (noiseConfig [("period_ms", .scalar ".nan")]) nanPeriod :=
  accepted_by _ _ _ (Option.some_get _).symm

theorem accepted_arithmetic_plain : WellDefinedArithmetic extendedEnv plainNoise ↔ ArithmeticInputs plainNoise :=
  accepted_arithmetic_iff extendedEnv _ plainNoise extended_exact plain_noise_accepted

-- NaN is not <= 0, and is accepted as a period.
theorem accepted_arithmetic_fails : ¬ ∀ (env : ConfigEnv Extended) (config : YamlNode) (cfg : GlobalConfig Extended),
    ExactArithmetic env → Accepted env config cfg → WellDefinedArithmetic env cfg := by
  intro always
  obtain ⟨period, on, converted, _⟩ := (always extendedEnv _ nanPeriod extended_exact nan_period_accepted).cycle
  have undefined_ : NoiseSource.periodNs nanPeriod.noiseSource = none := by decide +kernel
  rw [undefined_] at converted
  cases converted

end SpectralLine
