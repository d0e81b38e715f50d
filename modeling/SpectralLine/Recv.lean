import SpectralLine.Vdif
import Mathlib.Logic.Function.Basic

set_option autoImplicit false

namespace SpectralLine

def expectedPktLen : Nat := 8266
def udpHeaderOffset : Nat := 34
def vdifHeaderOffset : Nat := 42

structure Packet where
  payload : List Byte
  size : payload.length = VDIF.payloadLen
deriving DecidableEq

def Packet.memset (value : Byte) : Packet := ⟨List.replicate VDIF.payloadLen value, List.length_replicate⟩

-- pkts[i] always points at buffer[i], so the model keeps only the buffer.
structure PacketBatch (count : Nat) where
  batchId : Nat
  receivedCount : Nat
  headerValid : Bool
  pktId : Fin count → Nat
  noiseState : Fin count → Byte
  valid : Bool
  buffer : Fin count → Packet
  hdrs : Fin count → VDIF

-- allocatePacketBatch over the zeroed packet pool.
def allocatePacketBatch (count : Nat) : PacketBatch count where
  batchId := 0
  receivedCount := 0
  headerValid := false
  pktId := fun _ => 0
  noiseState := fun _ => 0
  valid := false
  buffer := fun _ => .memset 0
  hdrs := fun _ => .zero

-- What recv2mem reads of its lcore_param and of the validated configuration.
-- monitorFailure is the message of the open/ftruncate/mmap call that fails.
structure StreamConfig where
  ringId : Nat
  serverId : Nat
  destPort : BitVec 16
  batchsize : Nat
  batchsizePos : 0 < batchsize
  poolSize : Nat
  poolSizePos : 0 < poolSize
  basebandMode : Bool
  calMode : Bool
  subbandMonitor : Bool
  monitorFailure : Option String
  basebandBits : Byte
  basebandBitsAccepted : VDIF.widthAccepted basebandBits

namespace StreamConfig

def slot (cfg : StreamConfig) (packetId : Nat) : Fin cfg.batchsize :=
  ⟨packetId % cfg.batchsize, Nat.mod_lt _ cfg.batchsizePos⟩

def firstSlot (cfg : StreamConfig) : Fin cfg.batchsize := ⟨0, cfg.batchsizePos⟩

def threadId (cfg : StreamConfig) : BitVec 16 := BitVec.ofNat 16 (cfg.serverId * 16 + cfg.ringId)

-- The header as it is stored: raw, or with the baseband format fields rewritten.
def storedHeader (cfg : StreamConfig) (header : VDIF) : Except String VDIF :=
  if cfg.basebandMode then header.configureBaseband cfg.basebandBits cfg.threadId VDIF.payloadLen else .ok header

end StreamConfig

-- A received frame that passed the length check.
structure Frame where
  data : List Byte
  size : data.length = expectedPktLen
deriving DecidableEq

namespace Frame

-- Network byte order, at offset 2 of the UDP header.
def udpDstPort (f : Frame) : BitVec 16 := f.data.getD (udpHeaderOffset + 2) 0 ++ f.data.getD (udpHeaderOffset + 3) 0

def vdif (f : Frame) : VDIF := ⟨Vector.ofFn fun i => f.data.getD (vdifHeaderOffset + i.val) 0⟩

def packet (f : Frame) : Packet :=
  ⟨f.data.drop (vdifHeaderOffset + VDIF.headerSize), by rw [List.length_drop, f.size]; rfl⟩

def packetId (f : Frame) : Nat := f.vdif.packetId

end Frame

-- The locals of recv2mem that outlive one packet. `queued` and `stored` are
-- ghost logs: each batch as it was when it was enqueued, and each packet that
-- was copied into the pool. Log throttling and its counters are left out.
structure RecvState (cfg : StreamConfig) where
  pool : Fin cfg.poolSize → PacketBatch cfg.batchsize
  poolIdx : Fin cfg.poolSize
  prebatchid : Nat
  expectedPktId : Nat
  totalLostnmber : Nat
  totalPkts : Nat
  lossEvents : Nat
  lateOrDuplicatePackets : Nat
  misdirectedPackets : Nat
  lastHeaderTemplate : VDIF
  haveHeaderTemplate : Bool
  lastNoiseSourceState : Byte
  monitor : Option (List Byte)
  queued : List (PacketBatch cfg.batchsize)
  stored : List Frame

section

variable (cfg : StreamConfig)

def RecvState.initial : RecvState cfg where
  pool := fun _ => allocatePacketBatch cfg.batchsize
  poolIdx := ⟨0, cfg.poolSizePos⟩
  prebatchid := 0
  expectedPktId := 0
  totalLostnmber := 0
  totalPkts := 0
  lossEvents := 0
  lateOrDuplicatePackets := 0
  misdirectedPackets := 0
  lastHeaderTemplate := .zero
  haveHeaderTemplate := false
  lastNoiseSourceState := 0
  monitor := none
  queued := []
  stored := []

def prepareBatch (st : RecvState cfg) (batch : PacketBatch cfg.batchsize) (batchId : Nat) :
    PacketBatch cfg.batchsize :=
  let batch := { batch with batchId, receivedCount := 0, valid := false, headerValid := st.haveHeaderTemplate }
  if st.haveHeaderTemplate then
    { batch with
      hdrs := Function.update batch.hdrs cfg.firstSlot (st.lastHeaderTemplate.setPacketId (batchId * cfg.batchsize))
      noiseState := Function.update batch.noiseState cfg.firstSlot st.lastNoiseSourceState }
  else batch

def fillMissing (batch : PacketBatch cfg.batchsize) (i : Fin cfg.batchsize) : PacketBatch cfg.batchsize :=
  let expectedId := batch.batchId * cfg.batchsize + i.val
  if batch.pktId i = expectedId then batch
  else
    { batch with
      buffer := Function.update batch.buffer i (.memset 0x80)
      hdrs := Function.update batch.hdrs i (((batch.hdrs cfg.firstSlot).setPacketId expectedId).setInvalid true) }

def finalizeBatch (batch : PacketBatch cfg.batchsize) : PacketBatch cfg.batchsize :=
  let batch := { batch with valid := batch.headerValid && batch.receivedCount == cfg.batchsize }
  if !cfg.basebandMode || batch.valid || !batch.headerValid then batch
  else (List.finRange cfg.batchsize).foldl (fillMissing cfg) batch

def nextEntry (entry : Fin cfg.poolSize) : Fin cfg.poolSize :=
  if next : entry.val + 1 < cfg.poolSize then ⟨entry.val + 1, next⟩ else ⟨0, cfg.poolSizePos⟩

-- One turn of the catch-up loop: enqueue the finished batch, advance and prepare.
def rotate (st : RecvState cfg) : RecvState cfg :=
  let batch := finalizeBatch cfg (st.pool st.poolIdx)
  let prebatchid := st.prebatchid + 1
  let poolIdx := nextEntry cfg st.poolIdx
  let pool := Function.update st.pool st.poolIdx batch
  { st with
    prebatchid, poolIdx
    pool := Function.update pool poolIdx (prepareBatch cfg st (pool poolIdx) prebatchid)
    queued := st.queued ++ [batch] }

def advanceTo (batchid : Nat) (st : RecvState cfg) : RecvState cfg :=
  if st.prebatchid < batchid then advanceTo batchid (rotate cfg st) else st
termination_by batchid - st.prebatchid
decreasing_by
  simp only [rotate]
  omega

-- The first packet stored in a batch also becomes the batch-start header.
def storeInto (batch : PacketBatch cfg.batchsize) (f : Frame) (metadata : VDIF.Metadata) (header : VDIF) :
    PacketBatch cfg.batchsize :=
  let id := metadata.packetId
  let idx := cfg.slot id
  let batch := { batch with
    pktId := Function.update batch.pktId idx id
    noiseState := Function.update batch.noiseState idx metadata.noiseSourceState
    hdrs := if cfg.basebandMode then Function.update batch.hdrs idx header else batch.hdrs
    buffer := Function.update batch.buffer idx f.packet }
  if batch.receivedCount = 0 then
    { batch with
      hdrs := Function.update batch.hdrs cfg.firstSlot (header.setPacketId (id / cfg.batchsize * cfg.batchsize))
      headerValid := true
      noiseState := Function.update batch.noiseState cfg.firstSlot metadata.noiseSourceState
      receivedCount := batch.receivedCount + 1 }
  else { batch with receivedCount := batch.receivedCount + 1 }

def storePacket (st : RecvState cfg) (f : Frame) (metadata : VDIF.Metadata) : Except String (RecvState cfg) := do
  let header ← cfg.storedHeader f.vdif
  let batch := st.pool st.poolIdx
  let st :=
    if batch.receivedCount = 0 then
      { st with
        lastHeaderTemplate := header.setPacketId (metadata.packetId / cfg.batchsize * cfg.batchsize)
        haveHeaderTemplate := true
        lastNoiseSourceState := metadata.noiseSourceState }
    else st
  return { st with
    pool := Function.update st.pool st.poolIdx (storeInto cfg batch f metadata header)
    stored := st.stored ++ [f] }

-- The packet sequence check; `none` is the `continue` of a discarded packet,
-- whose counter update is the caller's.
def sequenceCheck (st : RecvState cfg) (id : Nat) : Option (RecvState cfg) :=
  if st.expectedPktId = 0 then
    if id % cfg.batchsize ≠ 0 then none
    else
      let batchid := id / cfg.batchsize
      some { st with
        expectedPktId := id + 1
        prebatchid := batchid
        pool := Function.update st.pool st.poolIdx (prepareBatch cfg st (st.pool st.poolIdx) batchid) }
  else if st.expectedPktId < id then
    some { st with
      totalLostnmber := st.totalLostnmber + (id - st.expectedPktId)
      lossEvents := st.lossEvents + 1
      expectedPktId := id + 1 }
  else if id = st.expectedPktId then some { st with expectedPktId := st.expectedPktId + 1 }
  else none

def countDiscard (st : RecvState cfg) : RecvState cfg :=
  if st.expectedPktId = 0 then st else { st with lateOrDuplicatePackets := st.lateOrDuplicatePackets + 1 }

-- /dev/shm publication of the VDIF frame, created on the first packet.
def publishMonitor (st : RecvState cfg) (f : Frame) (metadata : VDIF.Metadata) : Except String (RecvState cfg) :=
  let scheduled := (metadata.secondsFromEpoch &&& 1#32) == 0#32 && metadata.frameNumber == 0#32
  if cfg.subbandMonitor && (st.monitor.isNone || scheduled) then
    match st.monitor, cfg.monitorFailure with
    | none, some message => .error message
    | _, _ => .ok { st with monitor := some (f.data.drop vdifHeaderOffset) }
  else .ok st

def receiveSized (st : RecvState cfg) (f : Frame) : Except String (RecvState cfg) :=
  if f.udpDstPort ≠ cfg.destPort then .ok { st with misdirectedPackets := st.misdirectedPackets + 1 }
  else do
    let metadata := VDIF.readMetadata f.vdif cfg.calMode
    let st ← publishMonitor cfg { st with totalPkts := st.totalPkts + 1 } f metadata
    match sequenceCheck cfg st metadata.packetId with
    | none => return countDiscard cfg st
    | some st => storePacket cfg (advanceTo cfg (metadata.packetId / cfg.batchsize) st) f metadata

def receive (st : RecvState cfg) (data : List Byte) : Except String (RecvState cfg) :=
  if size : data.length = expectedPktLen then receiveSized cfg st ⟨data, size⟩ else .ok st

-- Everything that can happen to the pool: recv2mem takes the next frame of a
-- burst, or the consumer overwrites the payload of an entry it owns (in-place
-- quantisation, zero fill), which is never the entry being filled.
inductive RecvEvent where
  | frame (data : List Byte)
  | consumer (entry : Fin cfg.poolSize) (buffer : Fin cfg.batchsize → Packet)

def recvStep (st : RecvState cfg) : RecvEvent cfg → Except String (RecvState cfg)
  | .frame data => receive cfg st data
  | .consumer entry buffer =>
      if entry = st.poolIdx then .ok st
      else .ok { st with pool := Function.update st.pool entry { st.pool entry with buffer } }

-- An error is the thread's `return -1` or an escaping exception.
def recv2mem (events : List (RecvEvent cfg)) : Except String (RecvState cfg) :=
  events.foldlM (recvStep cfg) (RecvState.initial cfg)

end

end SpectralLine
