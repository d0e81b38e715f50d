import SpectralLine.GlobalConfig
import Mathlib.Data.Rat.Floor

set_option autoImplicit false

namespace SpectralLine

open Checked

section

variable {F : Type} (env : ConfigEnv F)

-- What names the server and sizes the results.
def IdentityKept (cfg after : GlobalConfig F) : Prop := after.serverId = cfg.serverId ∧ after.winChannels = cfg.winChannels

theorem optional_int_below (node : Option YamlNode) (key : String) (field : Int) (small : field < 2 ^ 31) :
    Returns (env.yaml.optional node key env.yaml.asInt field) fun value => value < 2 ^ 31 := by
  refine returns_then _ _ _ fun child => ?_
  apply returns_ite
  · intro _ value read
    exact (env.yaml.intRange child value read).2
  · intro _
    exact returns_ok _ _ small

theorem init_observation_id_kept (idNode : Option YamlNode) (cfg : GlobalConfig F) :
    Returns (initObservationId env idNode cfg) (IdentityKept cfg) := by
  apply returns_ite
  · intro _
    exact returns_ok _ _ ⟨rfl, rfl⟩
  · intro _
    refine returns_check _ _ _ _ fun _ => ?_
    refine returns_then _ _ _ fun id => ?_
    exact returns_check _ _ _ _ fun _ => returns_pure _ _ ⟨rfl, rfl⟩

theorem init_identity_kept (config : YamlNode) (cfg : GlobalConfig F) :
    Returns (initIdentity env config cfg) fun after =>
      (0 ≤ after.serverId ∧ after.serverId ≤ 7) ∧ after.winChannels = cfg.winChannels := by
  refine returns_then _ _ _ fun _ => returns_then _ _ _ fun _ => returns_then _ _ _ fun _ => ?_
  refine returns_check _ _ _ _ fun _ => returns_then _ _ _ fun serverId => ?_
  refine returns_check _ _ _ _ fun inRange => returns_then _ _ _ fun idNode => ?_
  refine returns_weaken _ _ _ (init_observation_id_kept env idNode _) fun after kept => ?_
  rw [kept.1]
  obtain ⟨low, high⟩ := not_or.mp inRange
  exact ⟨⟨Int.not_lt.mp low, Int.not_lt.mp high⟩, kept.2⟩

theorem init_observation_mode_kept (config : YamlNode) (cfg : GlobalConfig F) :
    Returns (initObservationMode env config cfg) (IdentityKept cfg) :=
  returns_then _ _ _ fun _ => returns_pure _ _ ⟨rfl, rfl⟩

theorem init_local_sdfits_kept (config : YamlNode) (cfg : GlobalConfig F) :
    Returns (initLocalSdfits env config cfg) (IdentityKept cfg) := by
  refine returns_then _ _ _ fun localSdfits => ?_
  apply returns_ite
  · intro _
    exact returns_ok _ _ ⟨rfl, rfl⟩
  · intro _
    refine returns_check _ _ _ _ fun _ => returns_then _ _ _ fun enabled => ?_
    apply returns_ite
    · intro _
      refine returns_check _ _ _ _ fun _ => returns_then _ _ _ fun _ => ?_
      refine returns_check _ _ _ _ fun _ => returns_then _ _ _ fun _ => ?_
      refine returns_check _ _ _ _ fun _ => returns_then _ _ _ fun _ => returns_then _ _ _ fun _ => returns_then _ _ _ fun _ => ?_
      exact returns_check _ _ _ _ fun _ => returns_then _ _ _ fun _ => returns_pure _ _ ⟨rfl, rfl⟩
    · intro _
      exact returns_ok _ _ ⟨rfl, rfl⟩

theorem init_storage_kept (config : YamlNode) (cfg : GlobalConfig F) :
    Returns (initStorage env config cfg) (IdentityKept cfg) :=
  returns_then _ _ _ fun _ => returns_then _ _ _ fun _ => returns_then _ _ _ fun _ => returns_pure _ _ ⟨rfl, rfl⟩

theorem init_baseband_kept (config : YamlNode) (cfg : GlobalConfig F) :
    Returns (initBaseband env config cfg) (IdentityKept cfg) := by
  apply returns_ite
  · intro _
    exact returns_ok _ _ ⟨rfl, rfl⟩
  · intro _
    refine returns_then _ _ _ fun _ => returns_then _ _ _ fun _ => returns_then _ _ _ fun _ => ?_
    refine returns_check _ _ _ _ fun _ => returns_then _ _ _ fun _ => returns_then _ _ _ fun _ => ?_
    exact returns_pure _ _ ⟨rfl, rfl⟩

theorem init_fft_length_kept (config : YamlNode) (cfg : GlobalConfig F) (small : cfg.winChannels < 2 ^ 31) :
    Returns (initFftLength env config cfg) fun after =>
      after.serverId = cfg.serverId ∧ 0 < after.winChannels ∧ after.winChannels < 2 ^ 31 := by
  refine returns_then _ _ _ fun _ => returns_then _ _ _ fun _ => returns_check _ _ _ _ fun _ => ?_
  refine returns_bind _ _ _ _ (optional_int_below env config "win_channels" _ small) fun winChannels below => ?_
  refine returns_check _ _ _ _ fun positive => returns_check _ _ _ _ fun _ => ?_
  exact returns_pure _ _ ⟨rfl, Int.not_le.mp positive, below⟩

theorem init_noise_kept (config : YamlNode) (cfg : GlobalConfig F) :
    Returns (initNoise env config cfg) (IdentityKept cfg) := by
  refine returns_then _ _ _ fun _ => returns_then _ _ _ fun _ => returns_then _ _ _ fun _ => returns_then _ _ _ fun _ => ?_
  refine returns_check _ _ _ _ fun _ => returns_check _ _ _ _ fun _ => returns_check _ _ _ _ fun _ => ?_
  exact returns_pure _ _ ⟨rfl, rfl⟩

def WindowOf (cfg : GlobalConfig F) (sb : SubbandConfig F) (window : WindowConfig F) : Prop :=
  window.sender = SpectrumSender.init {} cfg.storageNodeIp sb.port.toNat (BitVec.ofInt 16 cfg.serverId) ∧
    ∃ winId channelBwHz, window.header = windowHeader env cfg sb winId window.startFreq channelBwHz

theorem init_window_of (cfg : GlobalConfig F) (sb : SubbandConfig F) (winId : Nat) (winNode : YamlNode) :
    Returns (initWindow env cfg sb winId winNode) (WindowOf env cfg sb) := by
  refine returns_then _ _ _ fun _ => returns_then _ _ _ fun _ => returns_check _ _ _ _ fun _ => ?_
  refine returns_check _ _ _ _ fun _ => returns_check _ _ _ _ fun _ => returns_check _ _ _ _ fun _ => ?_
  exact returns_pure _ _ ⟨rfl, winId, _, rfl⟩

theorem init_windows_each (cfg : GlobalConfig F) (sb : SubbandConfig F) (post : WindowConfig F → Prop)
    (each : ∀ winId winNode, Returns (initWindow env cfg sb winId winNode) post) (winId : Nat) (nodes : List YamlNode) :
    Returns (initWindows env cfg sb winId nodes) fun windows => ∀ window ∈ windows, post window := by
  induction nodes generalizing winId with
  | nil => exact returns_ok _ _ fun window member => nomatch member
  | cons node rest ih =>
      refine returns_bind _ _ _ _ (each winId node) fun window placed => ?_
      refine returns_bind _ _ _ _ (ih (winId + 1)) fun windows others => ?_
      exact returns_pure _ _ (List.forall_mem_cons.mpr ⟨placed, others⟩)

def SubbandOf (cfg : GlobalConfig F) (index : Nat) (sb : SubbandConfig F) : Prop :=
  sb.subbandId = BitVec.ofNat 8 index ∧ ∀ window ∈ sb.windows, WindowOf env cfg sb window

theorem window_of_same (cfg : GlobalConfig F) (sb other : SubbandConfig F) (window : WindowConfig F)
    (port : other.port = sb.port) (id : other.subbandId = sb.subbandId) (beam : other.beam = sb.beam)
    (low : other.startFreq = sb.startFreq) (high : other.endFreq = sb.endFreq) (placed : WindowOf env cfg sb window) :
    WindowOf env cfg other window := by
  obtain ⟨sender, winId, channelBwHz, header⟩ := placed
  refine ⟨by rw [port, sender], winId, channelBwHz, ?_⟩
  rw [header, windowHeader, windowHeader, globalSubbandId, globalSubbandId, id, beam, low, high]

theorem init_enabled_of (cfg : GlobalConfig F) (sb : SubbandConfig F) (sbNode : YamlNode) (index : Nat)
    (id : sb.subbandId = BitVec.ofNat 8 index) : Returns (initEnabled env cfg sb sbNode) (SubbandOf env cfg index) := by
  refine returns_then _ _ _ fun _ => returns_then _ _ _ fun _ => returns_then _ _ _ fun _ => returns_then _ _ _ fun _ => ?_
  refine returns_then _ _ _ fun _ => returns_then _ _ _ fun _ => returns_then _ _ _ fun _ => returns_then _ _ _ fun port => ?_
  refine returns_check _ _ _ _ fun _ => returns_check _ _ _ _ fun _ => returns_check _ _ _ _ fun _ => ?_
  refine returns_then _ _ _ fun windowsNode => returns_check _ _ _ _ fun _ => ?_
  refine returns_bind _ _ _ _ (init_windows_each env cfg _ _ (init_window_of env cfg _) 0 (YamlNode.items windowsNode))
    fun windows placed => ?_
  refine returns_pure _ _ ⟨id, fun window member => ?_⟩
  exact window_of_same env cfg _ _ window rfl rfl rfl rfl rfl (placed window member)

theorem init_subband_of (cfg : GlobalConfig F) (index : Nat) (sbNode : YamlNode) :
    Returns (initSubband env cfg index sbNode) (SubbandOf env cfg index) := by
  refine returns_then _ _ _ fun _ => returns_then _ _ _ fun _ => returns_then _ _ _ fun _ => returns_then _ _ _ fun _ => ?_
  apply returns_ite
  · intro _
    exact init_enabled_of env cfg _ sbNode index rfl
  · intro _
    exact returns_ok _ _ ⟨rfl, fun window member => nomatch member⟩

theorem init_subbands_each (cfg : GlobalConfig F) (post : Nat → SubbandConfig F → Prop)
    (each : ∀ index sbNode, Returns (initSubband env cfg index sbNode) (post index)) (index : Nat) (nodes : List YamlNode) :
    Returns (initSubbands env cfg index nodes) fun subbands =>
      ∀ (i : Nat) (sb : SubbandConfig F), subbands[i]? = some sb → post (index + i) sb := by
  induction nodes generalizing index with
  | nil => exact returns_ok _ _ fun i sb found => nomatch found
  | cons node rest ih =>
      refine returns_bind _ _ _ _ (each index node) fun first placed => ?_
      refine returns_bind _ _ _ _ (ih (index + 1)) fun subbands others => ?_
      refine returns_pure _ _ fun i sb found => ?_
      cases i with
      | zero =>
          cases found
          exact placed
      | succ i =>
          have later := others i sb found
          rwa [Nat.add_right_comm] at later

-- What initFromYaml leaves in the configuration for the results.
structure ResultLayout (cfg : GlobalConfig F) : Prop where
  server : 0 ≤ cfg.serverId ∧ cfg.serverId ≤ 7
  channels : 0 < cfg.winChannels ∧ cfg.winChannels < 2 ^ 31
  entries : cfg.subbands.length = 8
  subband : ∀ (i : Nat) (sb : SubbandConfig F), cfg.subbands[i]? = some sb → SubbandOf env cfg i sb

theorem init_layout_of (config : YamlNode) (cfg : GlobalConfig F) (server : 0 ≤ cfg.serverId ∧ cfg.serverId ≤ 7)
    (channels : 0 < cfg.winChannels ∧ cfg.winChannels < 2 ^ 31) : Returns (initLayout env config cfg) (ResultLayout env) := by
  refine returns_then _ _ _ fun node => returns_check _ _ _ _ fun _ => ?_
  refine returns_bind _ _ _ _ (init_subbands_each env cfg _ (init_subband_of env cfg) 0 (YamlNode.items node))
    fun subbands placed => ?_
  refine returns_check _ _ _ _ fun entries => returns_then _ _ _ fun _ => returns_pure _ _ ?_
  refine ⟨server, channels, Decidable.not_not.mp entries, fun i sb found => ?_⟩
  have entry := placed i sb found
  rwa [Nat.zero_add] at entry

theorem init_from_yaml_layout (config : YamlNode) : Returns (initFromYaml env config) (ResultLayout env) := by
  refine returns_bind _ _ _ _ (init_identity_kept env config _) fun identity ⟨server, channels⟩ => ?_
  refine returns_bind _ _ _ _ (init_observation_mode_kept env config identity) fun mode modeKept => ?_
  refine returns_bind _ _ _ _ (init_local_sdfits_kept env config mode) fun sdfits sdfitsKept => ?_
  refine returns_bind _ _ _ _ (init_storage_kept env config sdfits) fun storage storageKept => ?_
  refine returns_bind _ _ _ _ (init_baseband_kept env config storage) fun baseband basebandKept => ?_
  have early : baseband.winChannels = 4096 := by
    rw [basebandKept.2, storageKept.2, sdfitsKept.2, modeKept.2, channels]
    rfl
  have small : baseband.winChannels < 2 ^ 31 := by
    rw [early]
    decide
  refine returns_bind _ _ _ _ (init_fft_length_kept env config baseband small) fun fft fftKept => ?_
  refine returns_bind _ _ _ _ (init_noise_kept env config fft) fun noise noiseKept => ?_
  have kept : noise.serverId = identity.serverId := by
    rw [noiseKept.1, fftKept.1, basebandKept.1, storageKept.1, sdfitsKept.1, modeKept.1]
  exact init_layout_of env config noise (by rwa [kept]) (by rw [noiseKept.2]; exact fftKept.2)

theorem accepted_layout (config : YamlNode) (cfg : GlobalConfig F) (accepted : Accepted env config cfg) : ResultLayout env cfg :=
  init_from_yaml_layout env config cfg accepted.1

end

-- yaml-cpp on plain decimal digits, words and truth values.
def plainNumber (text : String) : Option Nat :=
  text.toList.foldl (fun value c => value.bind fun n => if c.isDigit then some (10 * n + (c.toNat - 48)) else none) (some 0)

def convertScalar {T : Type} (convert : String → Option T) : Option YamlNode → Except String T
  | some (.scalar text) =>
      match convert text with
      | some value => .ok value
      | none => .error "bad conversion"
  | _ => .error "bad conversion"

def plainInt (text : String) : Option Int :=
  match plainNumber text with
  | some n => if n < 2 ^ 31 then some n else none
  | none => none

theorem plain_int_range (node : Option YamlNode) (value : Int) (read : convertScalar plainInt node = .ok value) :
    -2 ^ 31 ≤ value ∧ value < 2 ^ 31 := by
  cases node with
  | none => cases read
  | some node =>
      cases node with
      | null => cases read
      | sequence => cases read
      | mapping => cases read
      | scalar text =>
          rw [convertScalar, plainInt] at read
          cases parsed : plainNumber text with
          | none =>
              rw [parsed] at read
              cases read
          | some n =>
              rw [parsed] at read
              by_cases small : n < 2 ^ 31
              · simp only [if_pos small] at read
                cases read
                omega
              · simp only [if_neg small] at read
                cases read

-- Rational numbers, and none for NaN.
abbrev ExactDouble := Option ℚ

def plainYaml : YamlCpp ExactDouble where
  badSubscript key := "operator[] call on a scalar (key: \"" ++ key ++ "\")"
  invalidNode key := "invalid node; first invalid key: \"" ++ key ++ "\""
  asBool := convertScalar fun text => if text = "true" then some true else if text = "false" then some false else none
  asInt := convertScalar plainInt
  asSize := convertScalar plainNumber
  asDouble := convertScalar fun text => (plainNumber text).map fun n => some (n : ℚ)
  asString := convertScalar some
  intRange := plain_int_range

def exactCompare (holds : ℚ → ℚ → Bool) : ExactDouble → ExactDouble → Bool
  | some x, some y => holds x y
  | _, _ => false

-- The bit patterns are the integer parts.
def exactDouble : DoubleOps ExactDouble where
  lit := some
  add x y := x.bind fun a => y.map fun b => a + b
  sub x y := x.bind fun a => y.map fun b => a - b
  mul x y := x.bind fun a => y.map fun b => a * b
  div x y := x.bind fun a => y.bind fun b => if b = 0 then none else some (a / b)
  abs x := x.map fun a => |a|
  le := exactCompare fun a b => decide (a ≤ b)
  lt := exactCompare fun a b => decide (a < b)
  isFinite := Option.isSome
  llround x := ⌊x.getD 0 + 1 / 2⌋
  toInt x := ⌊x.getD 0⌋
  bits x := BitVec.ofInt 64 ⌊x.getD 0⌋
  floatBits x := BitVec.ofInt 32 ⌊x.getD 0⌋

def plainEnv : ConfigEnv ExactDouble where
  yaml := plainYaml
  double := exactDouble
  createDirectories _ := .ok ()
  utcTimestamp := stringBytes "20260101T000000.000Z"

def plainEntry (beam : String) : YamlNode := .mapping [
  ("enable", .scalar "true"),
  ("beam", .scalar beam),
  ("gpu_id", .scalar "0"),
  ("start_freq", .scalar "1000000000"),
  ("end_freq", .scalar "1256000000"),
  ("port", .scalar "5001"),
  ("windows", .sequence [.mapping [("center_freq", .scalar "1128000000")]])]

-- Four pairs of beams, and the given entries in front.
def plainConfig (entries : List (String × YamlNode)) : YamlNode := .mapping (entries ++ [
  ("ServerID", .scalar "3"),
  ("win_channels", .scalar "65536"),
  ("subbands", .sequence ((List.replicate 4 ["A", "B"]).flatten.map plainEntry))])

def acceptedBy {F : Type} (env : ConfigEnv F) (config : YamlNode) : Option (GlobalConfig F) :=
  match initFromYaml env config with
  | .ok cfg => if checkConfig cfg then some cfg else none
  | .error _ => none

theorem accepted_by {F : Type} (env : ConfigEnv F) (config : YamlNode) (cfg : GlobalConfig F)
    (found : acceptedBy env config = some cfg) : Accepted env config cfg := by
  rw [acceptedBy] at found
  cases parsed : initFromYaml env config with
  | error failure =>
      rw [parsed] at found
      cases found
  | ok parsedCfg =>
      rw [parsed] at found
      by_cases checked : checkConfig parsedCfg = true
      · simp only [if_pos checked] at found
        cases found
        exact ⟨parsed, checked⟩
      · simp only [if_neg checked] at found
        cases found

def acceptedConfig (config : YamlNode) : Option (GlobalConfig ExactDouble) :=
  match initFromYaml plainEnv config with
  | .ok cfg => if checkConfig cfg then some cfg else none
  | .error _ => none

theorem accepted_config (config : YamlNode) (cfg : GlobalConfig ExactDouble) (found : acceptedConfig config = some cfg) :
    Accepted plainEnv config cfg := by
  apply accepted_by
  rw [← found, acceptedBy, acceptedConfig]
  cases initFromYaml plainEnv config <;> rfl

end SpectralLine
