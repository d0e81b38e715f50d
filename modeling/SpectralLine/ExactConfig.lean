import SpectralLine.ConfigLayout
import SpectralLine.Lib.Extended

set_option autoImplicit false

namespace SpectralLine

open Checked

section

variable {F : Type} (env : ConfigEnv F)

structure NoiseChecked (noise : NoiseSource F) : Prop where
  period : env.double.le noise.periodMs (env.double.lit 0) = false
  dutyLow : env.double.le noise.dutyCycle (env.double.lit 0) = false
  dutyHigh : env.double.le (env.double.lit 100) noise.dutyCycle = false
  blank : env.double.lt noise.transitionBlankMs (env.double.lit 0) = false

def channelBw (cfg : GlobalConfig F) : F := env.double.div (env.double.lit samplingRateHz) (env.double.lit cfg.totalNfft)

-- A window on the bins of its subband.
structure WindowAligned (cfg : GlobalConfig F) (sb : SubbandConfig F) (window : WindowConfig F) : Prop where
  inside : (window.startIdx : Int) + cfg.winChannels ≤ cfg.totalNfft
  low : env.double.isFinite sb.startFreq = true
  high : env.double.isFinite sb.endFreq = true
  startFreq : window.startFreq =
    env.double.add sb.startFreq (env.double.mul (env.double.lit window.startIdx) (channelBw env cfg))
  header : ∃ winId, window.header = windowHeader env cfg sb winId window.startFreq (channelBw env cfg)

theorem init_noise_checked (config : YamlNode) (cfg : GlobalConfig F) :
    Returns (initNoise env config cfg) fun after => NoiseChecked env after.noiseSource := by
  refine returns_then _ _ _ fun _ => returns_then _ _ _ fun _ => returns_then _ _ _ fun _ => returns_then _ _ _ fun noise => ?_
  refine returns_check _ _ _ _ fun period => returns_check _ _ _ _ fun duty => returns_check _ _ _ _ fun blank => ?_
  simp only [Bool.or_eq_true, not_or, Bool.not_eq_true] at period duty blank
  exact returns_pure _ _ ⟨period, duty.1, duty.2, blank⟩

theorem init_window_aligned (cfg : GlobalConfig F) (sb : SubbandConfig F) (low : env.double.isFinite sb.startFreq = true)
    (high : env.double.isFinite sb.endFreq = true) (winId : Nat) (winNode : YamlNode) :
    Returns (initWindow env cfg sb winId winNode) (WindowAligned env cfg sb) := by
  refine returns_then _ _ _ fun _ => returns_then _ _ _ fun _ => returns_check _ _ _ _ fun _ => ?_
  refine returns_check _ _ _ _ fun _ => returns_check _ _ _ _ fun _ => returns_check _ _ _ _ fun bins => ?_
  obtain ⟨natural, fits⟩ := not_or.mp bins
  have index := Int.toNat_of_nonneg (Int.not_lt.mp natural)
  refine returns_pure _ _ ⟨?_, low, high, ?_, winId, rfl⟩
  · simp only [index]
    exact Int.not_lt.mp fits
  · have same := congrArg (fun n : Int => (n : ℚ)) index
    simp only [Int.cast_natCast] at same
    simp only [same]
    rfl

theorem init_enabled_aligned (cfg : GlobalConfig F) (sb : SubbandConfig F) (sbNode : YamlNode) :
    Returns (initEnabled env cfg sb sbNode) fun sb => ∀ window ∈ sb.windows, WindowAligned env cfg sb window := by
  refine returns_then _ _ _ fun _ => returns_then _ _ _ fun gpuId => returns_then _ _ _ fun _ => returns_then _ _ _ fun low => ?_
  refine returns_then _ _ _ fun _ => returns_then _ _ _ fun high => returns_then _ _ _ fun _ => returns_then _ _ _ fun port => ?_
  refine returns_check _ _ _ _ fun _ => returns_check _ _ _ _ fun range => returns_check _ _ _ _ fun _ => ?_
  refine returns_then _ _ _ fun windowsNode => returns_check _ _ _ _ fun _ => ?_
  simp only [Bool.or_eq_true, Bool.not_eq_true', not_or, Bool.not_eq_false] at range
  refine returns_bind _ _ _ _ (init_windows_each env cfg _ _ (init_window_aligned env cfg _ range.1.1 range.1.2) 0
    (YamlNode.items windowsNode)) fun windows placed => ?_
  refine returns_pure _ _ fun window member => ?_
  obtain ⟨inside, lowFinite, highFinite, startFreq, winId, header⟩ := placed window member
  exact ⟨inside, lowFinite, highFinite, startFreq, winId, header⟩

theorem init_subband_aligned (cfg : GlobalConfig F) (index : Nat) (sbNode : YamlNode) :
    Returns (initSubband env cfg index sbNode) fun sb => ∀ window ∈ sb.windows, WindowAligned env cfg sb window := by
  refine returns_then _ _ _ fun _ => returns_then _ _ _ fun _ => returns_then _ _ _ fun _ => returns_then _ _ _ fun _ => ?_
  apply returns_ite
  · intro _
    exact init_enabled_aligned env cfg _ sbNode
  · intro _
    exact returns_ok _ _ fun window member => nomatch member

-- What the arithmetic on an accepted configuration may rely on.
structure ArithmeticLayout (cfg : GlobalConfig F) : Prop where
  noise : NoiseChecked env cfg.noiseSource
  windows : ∀ sb ∈ cfg.subbands, ∀ window ∈ sb.windows, WindowAligned env cfg sb window

theorem init_layout_aligned (config : YamlNode) (cfg : GlobalConfig F) (noise : NoiseChecked env cfg.noiseSource) :
    Returns (initLayout env config cfg) (ArithmeticLayout env) := by
  refine returns_then _ _ _ fun node => returns_check _ _ _ _ fun _ => ?_
  refine returns_bind _ _ _ _ (init_subbands_each env cfg _ (init_subband_aligned env cfg) 0 (YamlNode.items node))
    fun subbands placed => ?_
  refine returns_check _ _ _ _ fun _ => returns_then _ _ _ fun _ => returns_pure _ _ ⟨noise, fun sb member window inside => ?_⟩
  obtain ⟨i, found⟩ := List.getElem?_of_mem member
  obtain ⟨bins, low, high, startFreq, winId, header⟩ := placed i sb found window inside
  exact ⟨bins, low, high, startFreq, winId, header⟩

theorem accepted_arithmetic (config : YamlNode) (cfg : GlobalConfig F) (accepted : Accepted env config cfg) :
    ArithmeticLayout env cfg := by
  suffices Returns (initFromYaml env config) (ArithmeticLayout env) from this cfg accepted.1
  refine returns_then _ _ _ fun _ => returns_then _ _ _ fun _ => returns_then _ _ _ fun _ => returns_then _ _ _ fun _ => ?_
  refine returns_then _ _ _ fun _ => returns_then _ _ _ fun _ => ?_
  exact returns_bind _ _ _ _ (init_noise_checked env config _) fun cfg noise => init_layout_aligned env config cfg noise

end

theorem accepted_nfft {F : Type} (env : ConfigEnv F) (config : YamlNode) (cfg : GlobalConfig F) (accepted : Accepted env config cfg) :
    cfg.totalNfft % 4096 = 0 ∧ 65536 ≤ cfg.totalNfft := by
  have checked := accepted.2
  simp only [checkConfig, Bool.and_eq_true, decide_eq_true_eq] at checked
  exact ⟨checked.1.2, Int.not_lt.mp checked.2⟩

-- Double arithmetic without rounding; the bit patterns are left open.
def exactOps (bits : Extended → BitVec 64) (floatBits : Extended → BitVec 32) : DoubleOps Extended where
  lit := .finite
  add := Extended.add
  sub := Extended.sub
  mul := Extended.mul
  div := Extended.div
  abs := Extended.abs
  le := Extended.le
  lt := Extended.lt
  isFinite := Extended.isFinite
  llround x := match x with
    | .finite q => Extended.roundAway q
    | _ => 0
  toInt x := match x with
    | .finite q => Extended.truncate q
    | _ => 0
  bits
  floatBits

def ExactArithmetic (env : ConfigEnv Extended) : Prop := ∃ bits floatBits, env.double = exactOps bits floatBits

-- The plain texts of plainYaml, and .nan and .inf.
def extendedNumber (text : String) : Option Extended :=
  if text = ".nan" then some .nan else if text = ".inf" then some .posInf else (plainNumber text).map fun n => .finite n

def extendedYaml : YamlCpp Extended where
  badSubscript := plainYaml.badSubscript
  invalidNode := plainYaml.invalidNode
  asBool := plainYaml.asBool
  asInt := plainYaml.asInt
  asSize := plainYaml.asSize
  asDouble := convertScalar extendedNumber
  asString := plainYaml.asString
  intRange := plainYaml.intRange

def extendedBits (width : Nat) : Extended → BitVec width
  | .finite x => BitVec.ofInt width (Extended.truncate x)
  | _ => 0

def extendedEnv : ConfigEnv Extended where
  yaml := extendedYaml
  double := exactOps (extendedBits 64) (extendedBits 32)
  createDirectories _ := .ok ()
  utcTimestamp := plainEnv.utcTimestamp

theorem extended_exact : ExactArithmetic extendedEnv := ⟨_, _, rfl⟩

end SpectralLine
