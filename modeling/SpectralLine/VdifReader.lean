import SpectralLine.Vdif

set_option autoImplicit false

namespace SpectralLine

def vdifHeaderBytes : Nat := 32

structure VdifHeader where
  invalid : Bool
  legacy : Bool
  secondsFromEpoch : Nat
  referenceEpoch : Nat
  frameNumber : Nat
  version : Nat
  log2Channels : Nat
  frameBytes : Nat
  stationId : Nat
  threadId : Nat
  bitsPerSample : Nat
  complexData : Bool
  edv : Nat
deriving DecidableEq

def VdifHeader.packetId (header : VdifHeader) (framesPerSecond : Nat) : Nat :=
  header.secondsFromEpoch * framesPerSecond + header.frameNumber

structure ReadStats where
  framesRead : Nat := 0
  framesUsed : Nat := 0
  invalidFrames : Nat := 0
  missingFrames : Nat := 0
  duplicateFrames : Nat := 0
  reorderedFrames : Nat := 0
  truncatedBytes : Nat := 0
deriving DecidableEq

-- struct.unpack("<8I", data)[index]
def unpackWord (data : List Byte) (index : Nat) : Word :=
  readLE32 (data.getD (4 * index) 0) (data.getD (4 * index + 1) 0) (data.getD (4 * index + 2) 0)
    (data.getD (4 * index + 3) 0)

def headerOfWords (words : Nat → Word) : VdifHeader where
  invalid := (words 0 >>> 31) &&& 1#32 != 0#32
  legacy := (words 0 >>> 30) &&& 1#32 != 0#32
  secondsFromEpoch := (words 0 &&& 0x3fffffff#32).toNat
  referenceEpoch := ((words 1 >>> 24) &&& 0x3f#32).toNat
  frameNumber := (words 1 &&& 0x00ffffff#32).toNat
  version := ((words 2 >>> 29) &&& 0x7#32).toNat
  log2Channels := ((words 2 >>> 24) &&& 0x1f#32).toNat
  frameBytes := (words 2 &&& 0x00ffffff#32).toNat * 8
  stationId := (words 3 &&& 0xffff#32).toNat
  threadId := ((words 3 >>> 16) &&& 0x03ff#32).toNat
  bitsPerSample := ((words 3 >>> 26) &&& 0x1f#32).toNat + 1
  complexData := (words 3 >>> 31) &&& 1#32 != 0#32
  edv := ((words 4 >>> 24) &&& 0xff#32).toNat

def parseVdifHeader (data : List Byte) : Except String VdifHeader :=
  let length := data.length
  if length ≠ vdifHeaderBytes then .error s!"VDIF header is {length} bytes, expected {vdifHeaderBytes}"
  else .ok (headerOfWords (unpackWord data))

structure ReadOptions where
  framesPerSecond : Nat
  maxFrames : Option Nat
  requireComplex : Bool := true
  requireSingleChannel : Bool := true
  frameLengthIncludesHeader : Bool := true

-- The locals of the generator, the counters it updates and what it has
-- yielded so far.
structure ReadState where
  stats : ReadStats := {}
  expectedFormat : Option (Nat × Bool × Nat) := none
  previousPacketId : Option Nat := none
  yielded : List (VdifHeader × List Byte) := []

def formatText (format : Nat × Bool × Nat) : String :=
  let bits := format.1
  let complexData := if format.2.1 then "True" else "False"
  let thread := format.2.2
  s!"({bits}, {complexData}, {thread})"

def checkHeader (options : ReadOptions) (path : String) (header : VdifHeader) : Except String Unit :=
  let length := header.frameBytes
  let channels := header.log2Channels
  if header.legacy then .error s!"{path}: legacy 16-byte VDIF headers are unsupported"
  else if length < (if options.frameLengthIncludesHeader then vdifHeaderBytes else 1) then
    .error s!"{path}: invalid VDIF frame length {length}"
  else if options.requireComplex && !header.complexData then
    .error s!"{path}: VDIF frame is not marked as complex data"
  else if options.requireSingleChannel && channels != 0 then
    .error s!"{path}: expected one channel, header declares 2^{channels} channels"
  else .ok ()

def countSequence (stats : ReadStats) (previous : Option Nat) (packetId : Nat) : ReadStats :=
  match previous with
  | none => stats
  | some previous =>
      let difference : Int := (packetId : Int) - (previous : Int)
      if 1 < difference then { stats with missingFrames := stats.missingFrames + (difference - 1).toNat }
      else if difference = 0 then { stats with duplicateFrames := stats.duplicateFrames + 1 }
      else if difference < 0 then { stats with reorderedFrames := stats.reorderedFrames + 1 }
      else stats

def takeFrame (options : ReadOptions) (path : String) (st : ReadState) (header : VdifHeader) (payload : List Byte) :
    Except String ReadState :=
  let format := (header.bitsPerSample, header.complexData, header.threadId)
  if st.expectedFormat = none ∨ st.expectedFormat = some format then
    let packetId := header.packetId options.framesPerSecond
    let stats := countSequence st.stats st.previousPacketId packetId
    let st := { st with expectedFormat := some format, previousPacketId := some packetId }
    if header.invalid then .ok { st with stats := { stats with invalidFrames := stats.invalidFrames + 1 } }
    else
      .ok { st with
        stats := { stats with framesUsed := stats.framesUsed + 1 }
        yielded := st.yielded ++ [(header, payload)] }
  else
    let expected := formatText (st.expectedFormat.getD format)
    let found := formatText format
    .error s!"{path}: VDIF format/thread changed from {expected} to {found}"

def ReadState.truncated (st : ReadState) (bytes : Nat) : ReadState :=
  { st with stats := { st.stats with truncatedBytes := st.stats.truncatedBytes + bytes } }

def ReadState.counted (st : ReadState) : ReadState :=
  { st with stats := { st.stats with framesRead := st.stats.framesRead + 1 } }

inductive Turn where
  | stop
  | raised (message : String) (st : ReadState)
  | advanced (st : ReadState) (rest : List Byte)

def payloadBytesOf (options : ReadOptions) (header : VdifHeader) : Nat :=
  if options.frameLengthIncludesHeader then header.frameBytes - vdifHeaderBytes else header.frameBytes

def readPayload (options : ReadOptions) (path : String) (st : ReadState) (header : VdifHeader) (stream : List Byte) :
    Turn :=
  let payloadBytes := payloadBytesOf options header
  let payload := stream.take payloadBytes
  let found := payload.length
  let frame := header.frameNumber
  if found ≠ payloadBytes then
    .raised s!"{path}: truncated frame {frame}: read {found} of {payloadBytes} payload bytes" (st.counted.truncated found)
  else
    match takeFrame options path st.counted header payload with
    | .error message => .raised message st.counted
    | .ok next => .advanced next (stream.drop payloadBytes)

def readTurn (options : ReadOptions) (path : String) (st : ReadState) (stream : List Byte) : Turn :=
  let headerData := stream.take vdifHeaderBytes
  let length := headerData.length
  if length = 0 then .stop
  else if length ≠ vdifHeaderBytes then .raised s!"{path}: truncated VDIF header ({length} bytes)" (st.truncated length)
  else
    match parseVdifHeader headerData with
    | .error message => .raised message st
    | .ok header =>
        match checkHeader options path header with
        | .error message => .raised message st
        | .ok () => readPayload options path st header (stream.drop vdifHeaderBytes)

theorem read_payload_rest (options : ReadOptions) (path : String) (st next : ReadState) (header : VdifHeader)
    (stream rest : List Byte) (turn : readPayload options path st header stream = .advanced next rest) :
    rest = stream.drop (payloadBytesOf options header) := by
  unfold readPayload at turn
  extract_lets payloadBytes payload found frame at turn
  by_cases cut : found ≠ payloadBytes
  · simp [cut] at turn
  rw [if_neg cut] at turn
  cases after : takeFrame options path st.counted header payload with
  | error message => simp [after] at turn
  | ok last =>
      simp only [after, Turn.advanced.injEq] at turn
      exact turn.2.symm

theorem read_turn_shrinks (options : ReadOptions) (path : String) (st next : ReadState) (stream rest : List Byte)
    (turn : readTurn options path st stream = .advanced next rest) : rest.length < stream.length := by
  unfold readTurn at turn
  extract_lets headerData length at turn
  by_cases empty : length = 0
  · simp [empty] at turn
  by_cases short : length ≠ vdifHeaderBytes
  · simp [empty, short] at turn
  rw [if_neg empty, if_neg short] at turn
  have some : length ≤ stream.length := List.length_take_le' vdifHeaderBytes stream
  cases parsed : parseVdifHeader headerData with
  | error message => simp [parsed] at turn
  | ok header =>
      cases checked : checkHeader options path header with
      | error message => simp [parsed, checked] at turn
      | ok passed =>
          simp only [parsed, checked] at turn
          rw [read_payload_rest options path st next header _ rest turn, List.length_drop, List.length_drop,
            vdifHeaderBytes]
          omega

def limitReached (options : ReadOptions) (st : ReadState) : Bool :=
  match options.maxFrames with
  | none => false
  | some limit => limit ≤ st.stats.framesRead

-- The message is that of the ValueError that ends the generator.
def readFile (options : ReadOptions) (path : String) (st : ReadState) (stream : List Byte) : ReadState × Option String :=
  if limitReached options st then (st, none)
  else
    match _turn : readTurn options path st stream with
    | .stop => (st, none)
    | .raised message st => (st, some message)
    | .advanced next rest => readFile options path next rest
termination_by stream.length
decreasing_by exact read_turn_shrinks options path st next stream rest _turn

def iterVdifFrames (options : ReadOptions) (st : ReadState) : List (String × List Byte) → ReadState × Option String
  | [] => (st, none)
  | (path, content) :: paths =>
      match readFile options path st content with
      | (st, some message) => (st, some message)
      | (st, none) => if limitReached options st then (st, none) else iterVdifFrames options st paths

end SpectralLine
