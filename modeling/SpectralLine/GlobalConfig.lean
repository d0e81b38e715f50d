import SpectralLine.Yaml
import SpectralLine.ObservationId
import SpectralLine.SpectrumSender
import SpectralLine.Lib.Checked

set_option autoImplicit false

namespace SpectralLine

open Checked

inductive ObservationMode where
  | baseband
  | spectral
  | continuum
deriving DecidableEq, Repr

inductive BeamId where
  | a
  | b
deriving DecidableEq, Repr

def BeamId.code : BeamId → BitVec 8
  | a => 0
  | b => 1

structure WindowConfig (F : Type) where
  startFreq : F
  endFreq : F
  startIdx : Nat
  centerFreq : F
  bw : F
  sender : SpectrumSender
  header : PackedSpectrumHeader
  port : Int

-- A disabled entry keeps its zeroes.
structure SubbandConfig (F : Type) where
  subbandId : BitVec 8
  enable : Bool
  beam : BeamId
  gpuId : Int
  startFreq : F
  endFreq : F
  port : Int
  windows : List (WindowConfig F)

structure NoiseSource (F : Type) where
  periodMs : F
  dutyCycle : F
  transitionBlankMs : F

structure GlobalConfig (F : Type) where
  debugMode : Bool
  serverId : Int
  observationId : List Byte
  observationNumericId : BitVec 32
  storageNodeIp : String
  totalNfft : Int
  winBw : F
  winChannels : Int
  integrationT : F
  observationMode : ObservationMode
  calMode : Bool
  noiseSource : NoiseSource F
  basebandFolder0 : List Byte
  basebandFolder1 : List Byte
  basebandBits : Int
  subbandMonitor : Bool
  localSdfitsEnabled : Bool
  sdfitsMetadata : Option YamlNode
  localSdfitsFolder : List Byte
  object : String
  sourceOn : Bool
  localSdfitsQueueBytes : Nat
  memoryPoolPerStream : Nat
  subbands : List (SubbandConfig F)

-- What initFromYaml calls: yaml-cpp, double arithmetic, the file system, and
-- the UTC clock of automatic_observation_directory_id.
structure ConfigEnv (F : Type) where
  yaml : YamlCpp F
  double : DoubleOps F
  createDirectories : List Byte → Except String Unit
  utcTimestamp : List Byte

def samplingRateHz : ℚ := 256000000

def maxNfft : ℚ := 65536 * 256

-- std::filesystem::path::operator/
def pathJoin (folder component : List Byte) : List Byte :=
  if component.head? = some 0x2f then component
  else if folder.isEmpty || folder.getLast? = some 0x2f then folder ++ component
  else folder ++ [0x2f] ++ component

section

variable {F : Type} (env : ConfigEnv F)

def GlobalConfig.initial : GlobalConfig F where
  debugMode := false
  serverId := 0
  observationId := []
  observationNumericId := 0
  storageNodeIp := ""
  totalNfft := 65536
  winBw := env.double.lit 256000000
  winChannels := 4096
  integrationT := env.double.lit 1
  observationMode := .spectral
  calMode := false
  noiseSource := ⟨env.double.lit 1000, env.double.lit 50, env.double.lit 10⟩
  basebandFolder0 := []
  basebandFolder1 := []
  basebandBits := 8
  subbandMonitor := false
  localSdfitsEnabled := false
  sdfitsMetadata := none
  localSdfitsFolder := stringBytes "/data"
  object := ""
  sourceOn := true
  localSdfitsQueueBytes := 2048 * 1024 * 1024
  memoryPoolPerStream := 64
  subbands := []

def GlobalConfig.fftPeriod (cfg : GlobalConfig F) : F :=
  env.double.div (env.double.lit cfg.totalNfft) (env.double.lit samplingRateHz)

def GlobalConfig.integrationTime (cfg : GlobalConfig F) : F :=
  let n := env.double.toInt (env.double.div cfg.integrationT (GlobalConfig.fftPeriod env cfg))
  env.double.mul (env.double.lit (if n < 1 then 1 else n)) (GlobalConfig.fftPeriod env cfg)

def parseObservationMode (node : Option YamlNode) : Except String ObservationMode := do
  let mode ← env.yaml.asInt node
  if mode = 0 then .ok .baseband
  else if mode = 1 then .ok .spectral
  else if mode = 2 then .ok .continuum
  else .error ("Invalid observation_mode: " ++ toString mode ++ " (valid values: 0, 1, 2)")

-- A defined node that is not null names the observation, unless it is empty.
def initObservationId (idNode : Option YamlNode) (cfg : GlobalConfig F) : Except String (GlobalConfig F) :=
  if idNode.isNone || YamlNode.isNull idNode then .ok cfg
  else do
    refuse (!YamlNode.isScalar idNode) "Observation_ID must be a scalar"
    let id ← env.yaml.asString idNode
    refuse (!(stringBytes id).isEmpty && !observationIdIsValid (stringBytes id))
      ("Observation_ID must contain 1-64 ASCII letters, digits, '.', " ++ "'_' or '-' and must not be '.' or '..'")
    let observationNumericId := if (stringBytes id).isEmpty then 0 else observationIdNumeric (stringBytes id)
    return { cfg with observationId := stringBytes id, observationNumericId }

def initIdentity (config : YamlNode) (cfg : GlobalConfig F) : Except String (GlobalConfig F) := do
  let sdfitsMetadata ← env.yaml.get config "sdfits_metadata"
  let debugMode ← env.yaml.optional config "Debug" env.yaml.asBool cfg.debugMode
  let serverNode ← env.yaml.get config "ServerID"
  refuse (!YamlNode.isScalar serverNode) "Configuration is missing ServerID"
  let serverId ← env.yaml.asInt serverNode
  refuse (serverId < 0 ∨ 7 < serverId) "ServerID must be between 0 and 7"
  let idNode ← env.yaml.get config "Observation_ID"
  initObservationId env idNode { cfg with sdfitsMetadata, debugMode, serverId, observationId := [], observationNumericId := 0 }

def initObservationMode (config : YamlNode) (cfg : GlobalConfig F) : Except String (GlobalConfig F) := do
  let observationMode ← env.yaml.optional config "observation_mode" (parseObservationMode env) cfg.observationMode
  return { cfg with observationMode }

-- A scan key at the top level, else the old nested one.
def scanKey {T : Type} (config localSdfits : Option YamlNode) (key : String) (convert : Option YamlNode → Except String T)
    (field : T) : Except String T := do
  let top ← env.yaml.get config key
  if top.isSome then convert top else env.yaml.optional localSdfits key convert field

def initLocalSdfitsEnabled (config localSdfits : Option YamlNode) (cfg : GlobalConfig F) : Except String (GlobalConfig F) := do
  refuse (cfg.observationMode ≠ .spectral) "local_sdfits is supported only in spectral-line mode"
  let folderNode ← env.yaml.get localSdfits "storage_folder"
  refuse (folderNode.isSome && !YamlNode.isScalar folderNode) "local_sdfits.storage_folder must be a scalar"
  let folder ← env.yaml.optional localSdfits "storage_folder" env.yaml.asString "/data"
  refuse (folder.isEmpty) "local_sdfits.storage_folder must not be empty"
  let object ← scanKey env config localSdfits "object" env.yaml.asString cfg.object
  let sourceOn ← scanKey env config localSdfits "source_on" env.yaml.asBool cfg.sourceOn
  let queueMb ← env.yaml.optional localSdfits "queue_mb" env.yaml.asSize 2048
  refuse (queueMb = 0 ∨ 16384 < queueMb) "local_sdfits.queue_mb must be between 1 and 16384"
  let directory :=
    if cfg.observationId.isEmpty then
      automaticObservationDirectoryId env.utcTimestamp (stringBytes object) (stringBytes (if sourceOn then "ON" else "OFF"))
    else cfg.observationId
  let localSdfitsFolder := pathJoin (stringBytes folder) directory
  env.createDirectories localSdfitsFolder
  return { cfg with object, sourceOn, localSdfitsQueueBytes := queueMb * 1024 * 1024, localSdfitsFolder }

def initLocalSdfits (config : YamlNode) (cfg : GlobalConfig F) : Except String (GlobalConfig F) := do
  let localSdfits ← env.yaml.get config "local_sdfits"
  if localSdfits.isNone then .ok cfg
  else do
    refuse (!YamlNode.isMap localSdfits) "local_sdfits must be a mapping"
    let localSdfitsEnabled ← env.yaml.optional localSdfits "enabled" env.yaml.asBool cfg.localSdfitsEnabled
    if localSdfitsEnabled then initLocalSdfitsEnabled env config localSdfits { cfg with localSdfitsEnabled }
    else .ok { cfg with localSdfitsEnabled }

def requiredScalar {T : Type} (config : YamlNode) (key : String) (convert : Option YamlNode → Except String T) : Except String T := do
  let node ← env.yaml.get config key
  if YamlNode.isScalar node then convert node else .error ("Configuration is missing " ++ key)

def initBaseband (config : YamlNode) (cfg : GlobalConfig F) : Except String (GlobalConfig F) :=
  if cfg.observationMode ≠ .baseband then .ok cfg
  else do
    let folder0 ← requiredScalar env config "Baseband_Folder0" env.yaml.asString
    let folder1 ← requiredScalar env config "Baseband_Folder1" env.yaml.asString
    let basebandBits ← requiredScalar env config "Baseband_bits" env.yaml.asInt
    refuse (basebandBits ≠ 8 ∧ basebandBits ≠ 4 ∧ basebandBits ≠ 2) "Baseband_bits must be one of 8, 4, or 2"
    let directory := if cfg.observationId.isEmpty then automaticObservationDirectoryId env.utcTimestamp [] [] else cfg.observationId
    env.createDirectories (pathJoin (stringBytes folder0) directory)
    env.createDirectories (pathJoin (stringBytes folder1) directory)
    return { cfg with
      basebandFolder0 := pathJoin (stringBytes folder0) directory
      basebandFolder1 := pathJoin (stringBytes folder1) directory
      basebandBits }

def scalarOr (node : Option YamlNode) (text : String) : Except String String :=
  if YamlNode.isScalar node then env.yaml.asString node else .ok text

def initStorage (config : YamlNode) (cfg : GlobalConfig F) : Except String (GlobalConfig F) := do
  let memoryPoolPerStream ← env.yaml.optional config "Memory_pool_per_stream" env.yaml.asSize cfg.memoryPoolPerStream
  let ipNode ← env.yaml.get config "Storage_node_ip"
  let storageNodeIp ← scalarOr env ipNode "127.0.0.1"
  return { cfg with memoryPoolPerStream, storageNodeIp }

-- The window size and the FFT length derived from it.
def initFftLength (config : YamlNode) (cfg : GlobalConfig F) : Except String (GlobalConfig F) := do
  let d := env.double
  let subbandMonitor ← env.yaml.optional config "subband_monitor" env.yaml.asBool cfg.subbandMonitor
  let winBw ← env.yaml.optional config "win_bw" env.yaml.asDouble cfg.winBw
  refuse (!d.isFinite winBw || d.le winBw (d.lit 0)) "win_bw must be finite and > 0"
  let winChannels ← env.yaml.optional config "win_channels" env.yaml.asInt cfg.winChannels
  refuse (winChannels ≤ 0) "win_channels must be > 0"
  let requestedNfft := d.mul (d.div (d.lit samplingRateHz) winBw) (d.lit winChannels)
  refuse (!d.isFinite requestedNfft || d.lt requestedNfft (d.lit 1) || d.lt (d.lit maxNfft) requestedNfft)
    "Calculated FFT length is out of range"
  return { cfg with subbandMonitor, winBw, winChannels, totalNfft := d.llround requestedNfft }

def noiseSettings (ns : Option YamlNode) (noise : NoiseSource F) : Except String (NoiseSource F) :=
  if ns.isNone then .ok noise
  else do
    let periodMs ← env.yaml.optional ns "period_ms" env.yaml.asDouble noise.periodMs
    let dutyCycle ← env.yaml.optional ns "duty_cycle" env.yaml.asDouble noise.dutyCycle
    let transitionBlankMs ← env.yaml.optional ns "transition_blank_ms" env.yaml.asDouble noise.transitionBlankMs
    return { periodMs, dutyCycle, transitionBlankMs }

def initNoise (config : YamlNode) (cfg : GlobalConfig F) : Except String (GlobalConfig F) := do
  let d := env.double
  let integrationT ← env.yaml.optional config "integration_t" env.yaml.asDouble cfg.integrationT
  let calMode ← env.yaml.optional config "cal_mode" env.yaml.asBool cfg.calMode
  let ns ← env.yaml.get config "noise_source"
  let noiseSource ← noiseSettings env ns cfg.noiseSource
  refuse (d.le noiseSource.periodMs (d.lit 0)) "noise_source.period_ms must be > 0"
  refuse (d.le noiseSource.dutyCycle (d.lit 0) || d.le (d.lit 100) noiseSource.dutyCycle)
    "noise_source.duty_cycle must be between 0 and 100"
  refuse (d.lt noiseSource.transitionBlankMs (d.lit 0)) "noise_source.transition_blank_ms must be >= 0"
  return { cfg with integrationT, calMode, noiseSource }

-- The members of a value-initialised spectrum_header.
def PackedSpectrumHeader.initial : PackedSpectrumHeader where
  timestampNs := 0
  obsId := 0
  integrationId := 0
  subbandId := 0
  windowId := 0
  subbandStartFreq := 0
  subbandEndFreq := 0
  startFreqHz := 0
  channelBwHz := 0
  nChannels := 0
  stokes := 0
  pktId := 0
  totalPkt := 0
  exposure := 0
  noiseState := 0
  calMode := 0
  ra := 0
  dec := 0
  flags := 0

-- ServerID * 4 + subband_id / 2
def globalSubbandId (cfg : GlobalConfig F) (sb : SubbandConfig F) : BitVec 16 :=
  BitVec.ofInt 16 (cfg.serverId * 4 + (sb.subbandId.toNat / 2 : Nat))

def windowHeader (cfg : GlobalConfig F) (sb : SubbandConfig F) (winId : Nat) (startFreq channelBwHz : F) : PackedSpectrumHeader :=
  { PackedSpectrumHeader.initial with
    exposure := env.double.floatBits (GlobalConfig.integrationTime env cfg)
    obsId := cfg.observationNumericId
    channelBwHz := env.double.bits channelBwHz
    subbandStartFreq := env.double.bits sb.startFreq
    subbandEndFreq := env.double.bits sb.endFreq
    beamId := sb.beam.code
    subbandId := globalSubbandId cfg sb
    startFreqHz := env.double.bits startFreq
    nChannels := BitVec.ofInt 32 cfg.winChannels
    stokes := 4
    calMode := if cfg.calMode then 1 else 0
    windowId := BitVec.ofNat 16 winId }

def initWindow (cfg : GlobalConfig F) (sb : SubbandConfig F) (winId : Nat) (winNode : YamlNode) : Except String (WindowConfig F) := do
  let d := env.double
  let centerNode ← env.yaml.get winNode "center_freq"
  let centerFreq ← env.yaml.asDouble centerNode
  refuse (!d.isFinite centerFreq) "Window center frequency must be finite"
  let requestedStartFreq := d.sub centerFreq (d.div cfg.winBw (d.lit 2))
  let requestedEndFreq := d.add centerFreq (d.div cfg.winBw (d.lit 2))
  refuse (d.lt requestedStartFreq sb.startFreq) "Window start fre < subband start fre!"
  refuse (d.lt sb.endFreq requestedEndFreq) "Window end freq > subband end freq!"
  let channelBwHz := d.div (d.lit samplingRateHz) (d.lit cfg.totalNfft)
  let startIdx := d.llround (d.div (d.sub requestedStartFreq sb.startFreq) channelBwHz)
  refuse (startIdx < 0 ∨ cfg.totalNfft < startIdx + cfg.winChannels) "FFT-bin-aligned window exceeds subband bounds"
  let startFreq := d.add sb.startFreq (d.mul (d.lit startIdx) channelBwHz)
  let bw := d.mul (d.lit cfg.winChannels) channelBwHz
  return {
    startFreq
    endFreq := d.add startFreq bw
    startIdx := startIdx.toNat
    centerFreq
    bw
    sender := SpectrumSender.init {} cfg.storageNodeIp sb.port.toNat (BitVec.ofInt 16 cfg.serverId)
    header := windowHeader env cfg sb winId startFreq channelBwHz
    port := sb.port }

def initWindows (cfg : GlobalConfig F) (sb : SubbandConfig F) : (winId : Nat) → List YamlNode → Except String (List (WindowConfig F))
  | _, [] => .ok []
  | winId, winNode :: rest => do
      let window ← initWindow env cfg sb winId winNode
      let windows ← initWindows cfg sb (winId + 1) rest
      return window :: windows

def beamOf (node : Option YamlNode) : Except String BeamId := do
  refuse (node.isNone) "Every subband entry must specify beam A or B"
  refuse (!YamlNode.isScalar node) "Subband beam must be a scalar A or B"
  let beamName ← env.yaml.asString node
  if beamName = "A" then .ok .a
  else if beamName = "B" then .ok .b
  else .error "Subband beam must be A or B"

def initEnabled (cfg : GlobalConfig F) (sb : SubbandConfig F) (sbNode : YamlNode) : Except String (SubbandConfig F) := do
  let d := env.double
  let gpuNode ← env.yaml.get sbNode "gpu_id"
  let gpuId ← env.yaml.asInt gpuNode
  let startNode ← env.yaml.get sbNode "start_freq"
  let startFreq ← env.yaml.asDouble startNode
  let endNode ← env.yaml.get sbNode "end_freq"
  let endFreq ← env.yaml.asDouble endNode
  let portNode ← env.yaml.get sbNode "port"
  let port ← env.yaml.asInt portNode
  refuse (port ≤ 0 ∨ 65535 < port) "Subband result destination port must be between 1 and 65535"
  refuse (!d.isFinite startFreq || !d.isFinite endFreq || d.le endFreq startFreq) "Invalid subband frequency range"
  refuse (d.lt (d.lit (1 / 2)) (d.abs (d.sub (d.sub endFreq startFreq) (d.lit samplingRateHz))))
    "Subband bandwidth must equal the 256 MHz sampling rate"
  let windowsNode ← env.yaml.get sbNode "windows"
  refuse (!YamlNode.isSequence windowsNode || (YamlNode.items windowsNode).length = 0 || 4 < (YamlNode.items windowsNode).length)
    "Each enabled subband requires between 1 and 4 windows"
  let windows ← initWindows env cfg { sb with gpuId, startFreq, endFreq, port } 0 (YamlNode.items windowsNode)
  return { sb with gpuId, startFreq, endFreq, port, windows }

def initSubband (cfg : GlobalConfig F) (index : Nat) (sbNode : YamlNode) : Except String (SubbandConfig F) := do
  let enableNode ← env.yaml.get sbNode "enable"
  let enable ← env.yaml.asBool enableNode
  let beamNode ← env.yaml.get sbNode "beam"
  let beam ← beamOf env beamNode
  let sb : SubbandConfig F := {
    subbandId := BitVec.ofNat 8 index
    enable
    beam
    gpuId := 0
    startFreq := env.double.lit 0
    endFreq := env.double.lit 0
    port := 0
    windows := [] }
  if enable then initEnabled env cfg sb sbNode else .ok sb

def initSubbands (cfg : GlobalConfig F) : (index : Nat) → List YamlNode → Except String (List (SubbandConfig F))
  | _, [] => .ok []
  | index, sbNode :: rest => do
      let sb ← initSubband env cfg index sbNode
      let subbands ← initSubbands cfg (index + 1) rest
      return sb :: subbands

-- std::abs(first - second) > 0.5
def apart (first second : F) : Bool := env.double.lt (env.double.lit (1 / 2)) (env.double.abs (env.double.sub first second))

def checkPair (beamA beamB : SubbandConfig F) : Except String Unit := do
  refuse (beamA.beam ≠ .a ∨ beamB.beam ≠ .b) "Subband entries must be ordered as A/B pairs"
  refuse (beamA.enable ≠ beamB.enable) "Both beams in a physical subband must have the same enable state"
  if beamA.enable then do
    refuse (apart env beamA.startFreq beamB.startFreq || apart env beamA.endFreq beamB.endFreq)
      "A/B entries in a physical subband must have the same frequency range"
    refuse (beamA.windows.length ≠ beamB.windows.length) "A/B entries in a physical subband must have the same windows"
    refuse ((beamA.windows.zip beamB.windows).any fun pair =>
        apart env pair.1.startFreq pair.2.startFreq || apart env pair.1.endFreq pair.2.endFreq)
      "A/B entries in a physical subband must have matching window frequencies"
  else .ok ()

def checkPairs : List (SubbandConfig F) → Except String Unit
  | beamA :: beamB :: rest => do
      checkPair env beamA beamB
      checkPairs rest
  | _ => .ok ()

def initLayout (config : YamlNode) (cfg : GlobalConfig F) : Except String (GlobalConfig F) := do
  let node ← env.yaml.get config "subbands"
  refuse (!YamlNode.isSequence node) "Configuration is missing subbands"
  let subbands ← initSubbands env cfg 0 (YamlNode.items node)
  refuse (subbands.length ≠ 8) "Exactly 8 subband/beam entries are required per server"
  checkPairs env subbands
  return { cfg with subbands }

-- initFromYaml up to checkConfig; an error is the text that is logged before
-- it returns false.
def initFromYaml (config : YamlNode) : Except String (GlobalConfig F) := do
  let cfg ← initIdentity env config (GlobalConfig.initial env)
  let cfg ← initObservationMode env config cfg
  let cfg ← initLocalSdfits env config cfg
  let cfg ← initStorage env config cfg
  let cfg ← initBaseband env config cfg
  let cfg ← initFftLength env config cfg
  let cfg ← initNoise env config cfg
  initLayout env config cfg

end

def checkConfig {F : Type} (cfg : GlobalConfig F) : Bool :=
  decide (¬ cfg.winChannels ≤ 0) && decide (cfg.totalNfft % 4096 = 0) && decide (¬ cfg.totalNfft < 65536)

-- initFromYaml returns true.
def Accepted {F : Type} (env : ConfigEnv F) (config : YamlNode) (cfg : GlobalConfig F) : Prop :=
  initFromYaml env config = .ok cfg ∧ checkConfig cfg = true

end SpectralLine
