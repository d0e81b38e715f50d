import SpectralLine.RecvRun

set_option autoImplicit false

namespace SpectralLine

theorem stored_header_ok (cfg : StreamConfig) (header : VDIF) : ∃ stored, cfg.storedHeader header = .ok stored := by
  by_cases baseband : cfg.basebandMode = true
  · exact ⟨_, by
      rw [StreamConfig.storedHeader, if_pos baseband]
      exact VDIF.configure_baseband_ok header cfg.basebandBits cfg.threadId cfg.basebandBitsAccepted⟩
  · exact ⟨header, by rw [StreamConfig.storedHeader, if_neg baseband]⟩

theorem store_packet_ok (cfg : StreamConfig) (st : RecvState cfg) (f : Frame) (metadata : VDIF.Metadata) :
    ∃ next, storePacket cfg st f metadata = .ok next := by
  obtain ⟨header, recorded⟩ := stored_header_ok cfg f.vdif
  exact ⟨_, by rw [storePacket, recorded]; rfl⟩

-- Only the monitor file can stop the thread.
theorem publish_monitor_ok (cfg : StreamConfig) (st : RecvState cfg) (f : Frame) (metadata : VDIF.Metadata)
    (working : cfg.subbandMonitor = false ∨ cfg.monitorFailure = none) :
    ∃ next, publishMonitor cfg st f metadata = .ok next := by
  rcases working with off | works
  · exact ⟨st, by simp [publishMonitor, off]⟩
  · unfold publishMonitor
    extract_lets scheduled
    by_cases due : (cfg.subbandMonitor && (st.monitor.isNone || scheduled)) = true
    · rw [if_pos due, works]
      cases st.monitor <;> exact ⟨_, rfl⟩
    · exact ⟨st, if_neg due⟩

theorem recv_step_ok (cfg : StreamConfig) (working : cfg.subbandMonitor = false ∨ cfg.monitorFailure = none)
    (st : RecvState cfg) (event : RecvEvent cfg) : ∃ next, recvStep cfg st event = .ok next := by
  cases event with
  | consumer entry buffer =>
      by_cases same : entry = st.poolIdx
      · exact ⟨st, if_pos same⟩
      · exact ⟨_, if_neg same⟩
  | frame data =>
      by_cases size : data.length = expectedPktLen
      · rw [recvStep, receive, dif_pos size, receiveSized]
        by_cases port : (⟨data, size⟩ : Frame).udpDstPort = cfg.destPort
        · rw [if_neg (not_not.mpr port)]
          extract_lets metadata
          obtain ⟨published, done⟩ := publish_monitor_ok cfg { st with totalPkts := st.totalPkts + 1 } ⟨data, size⟩
            metadata working
          rw [done]
          cases checked : sequenceCheck cfg published metadata.packetId with
          | none => exact ⟨countDiscard cfg published, by simp only [bind, Except.bind, checked]; rfl⟩
          | some middle =>
              obtain ⟨next, stored⟩ := store_packet_ok cfg
                (advanceTo cfg (metadata.packetId / cfg.batchsize) middle) ⟨data, size⟩ metadata
              exact ⟨next, by simp only [bind, Except.bind, checked]; exact stored⟩
        · exact ⟨_, if_pos port⟩
      · exact ⟨st, by rw [recvStep, receive, dif_neg size]⟩

theorem recv2mem_total (cfg : StreamConfig) (working : cfg.subbandMonitor = false ∨ cfg.monitorFailure = none)
    (events : List (RecvEvent cfg)) : ∃ st, recv2mem cfg events = .ok st := by
  induction events using List.reverseRecOn with
  | nil => exact ⟨RecvState.initial cfg, rfl⟩
  | append_singleton past event ih =>
      obtain ⟨middle, before⟩ := ih
      obtain ⟨next, step⟩ := recv_step_ok cfg working middle event
      refine ⟨next, ?_⟩
      rw [recv2mem] at before
      rw [recv2mem, List.foldlM_append, before]
      simp only [bind, Except.bind, List.foldlM_cons, List.foldlM_nil, step]
      rfl

-- The layout the receiver expects: Ethernet and IPv4 headers, the UDP ports,
-- length and checksum, then the VDIF frame.
def lowerHeaders (port : BitVec 16) : List Byte :=
  List.replicate 36 0 ++ [port.extractLsb' 8 8, port.extractLsb' 0 8] ++ List.replicate 4 0

theorem lower_headers_length (port : BitVec 16) : (lowerHeaders port).length = vdifHeaderOffset := rfl

def Frame.assemble (port : BitVec 16) (header : VDIF) (packet : Packet) : Frame where
  data := lowerHeaders port ++ (header.header.toList ++ packet.payload)
  size := by simp [lower_headers_length, vdifHeaderOffset, packet.size, VDIF.payloadLen, expectedPktLen]

theorem assemble_port (port : BitVec 16) (header : VDIF) (packet : Packet) :
    (Frame.assemble port header packet).udpDstPort = port := by
  change port.extractLsb' 8 8 ++ port.extractLsb' 0 8 = port
  rw [BitVec.extractLsb'_append_extractLsb'_eq_extractLsb' (by decide)]
  exact BitVec.extractLsb'_eq_self

theorem assemble_vdif (port : BitVec 16) (header : VDIF) (packet : Packet) :
    (Frame.assemble port header packet).vdif = header := by
  apply congrArg VDIF.mk
  apply Vector.ext
  intro i bound
  have inside : i < header.header.toList.length := by simpa using bound
  rw [Vector.getElem_ofFn]
  change (lowerHeaders port ++ (header.header.toList ++ packet.payload)).getD (vdifHeaderOffset + i) 0 = _
  rw [List.getD_eq_getElem?_getD, ← lower_headers_length port, List.getElem?_append_right (Nat.le_add_right _ i),
    Nat.add_sub_cancel_left, List.getElem?_append_left inside]
  simp [bound]

theorem assemble_packet (port : BitVec 16) (header : VDIF) (packet : Packet) :
    (Frame.assemble port header packet).packet = packet := by
  obtain ⟨payload, size⟩ := packet
  have offset : vdifHeaderOffset + VDIF.headerSize = (lowerHeaders port ++ header.header.toList).length := by
    rw [List.length_append, lower_headers_length, Vector.length_toList]
    rfl
  have rest : (lowerHeaders port ++ (header.header.toList ++ payload)).drop (vdifHeaderOffset + VDIF.headerSize) =
      payload := by rw [← List.append_assoc, offset, List.drop_left]
  simp only [Frame.packet, Frame.assemble, rest]

theorem addressed_assemble (cfg : StreamConfig) (header : VDIF) (packet : Packet) :
    addressed cfg (Frame.assemble cfg.destPort header packet).data = some (Frame.assemble cfg.destPort header packet) := by
  have size := (Frame.assemble cfg.destPort header packet).size
  have port : (⟨(Frame.assemble cfg.destPort header packet).data, size⟩ : Frame).udpDstPort = cfg.destPort :=
    assemble_port cfg.destPort header packet
  rw [addressed, dif_pos size, if_pos port]

-- The payload of a batch flagged valid is the payload of its packets; `i` is a
-- slot index and also the offset of the packet id in the batch.
theorem receive_batching (cfg : StreamConfig) (events : List (RecvEvent cfg)) (st : RecvState cfg)
    (run : recv2mem cfg events = .ok st) :
    st.stored = accepted cfg (arrivals cfg events) ∧
    (st.stored = [] → st.queued = []) ∧
    (∀ origin, st.stored.head? = some origin →
      st.queued.map PacketBatch.batchId = List.range' (origin.packetId / cfg.batchsize) st.queued.length ∧
      origin.packetId ≤ st.expectedPktId ∧
      st.stored.length + st.totalLostnmber = st.expectedPktId - origin.packetId) ∧
    (∀ batch ∈ st.queued,
      (batch.valid = true ↔ ∀ i < cfg.batchsize, ∃ f ∈ st.stored, f.packetId = batch.batchId * cfg.batchsize + i) ∧
      (batch.valid = true → ∀ i : Fin cfg.batchsize, ∃ f ∈ st.stored,
        f.packetId = batch.batchId * cfg.batchsize + i.val ∧ batch.buffer i = f.packet)) := by
  obtain ⟨stored, phase⟩ := recv_run_inv cfg events st run
  refine ⟨stored, ?_, ?_, ?_⟩
  · intro empty
    rcases phase with idle | ⟨origin, running⟩
    · exact idle.queued
    · exact absurd empty (running_nonempty cfg st origin running)
  · intro origin head
    rcases phase with idle | ⟨first, running⟩
    · simp [idle.stored] at head
    · obtain rfl : first = origin := Option.some.inj (running.head.symm.trans head)
      have queue := running.batches.queue
      have length : st.queued.length = st.prebatchid - first.packetId / cfg.batchsize := by
        rw [← List.length_map (f := PacketBatch.batchId), queue, List.length_range']
      have balance := running.balance
      exact ⟨by rw [queue, length], by omega, by omega⟩
  · intro batch member
    rcases phase with idle | ⟨origin, running⟩
    · simp [idle.queued] at member
    · have finished := running.batches.finished batch member
      refine ⟨finished.valid, fun valid i => ?_⟩
      obtain ⟨f, present, same⟩ := finished.valid.mp valid i.val i.isLt
      exact ⟨f, present, same, (finished.kept f present i same).1⟩

def numberedEvents (stream : StreamConfig) (frame : Nat → Frame) (count : Nat) : List (RecvEvent stream) :=
  (List.range count).map fun id => .frame (frame id).data

theorem numbered_accepted (stream : StreamConfig) (frame : Nat → Frame) (count : Nat)
    (addressedAll : ∀ id < count, addressed stream (frame id).data = some (frame id))
    (ids : ∀ id < count, (frame id).packetId = id) :
    accepted stream (arrivals stream (numberedEvents stream frame count)) = (List.range count).map frame := by
  have arrived : arrivals stream (numberedEvents stream frame count) = (List.range count).map fun id => (frame id).data := by
    rw [arrivals, numberedEvents, List.filterMap_map]
    exact congrFun (List.filterMap_eq_map' (f := fun id => (frame id).data)) _
  rw [arrived]
  clear arrived
  induction count with
  | zero => rfl
  | succ count ih =>
      have before := ih (fun id below => addressedAll id (Nat.lt_succ_of_lt below)) fun id below => ids id (Nat.lt_succ_of_lt below)
      have last := ids count (Nat.lt_succ_self count)
      have admitted : accepts stream ((List.range count).map frame) (frame count) := by
        cases count with
        | zero => exact Or.inl ⟨rfl, by rw [last, Nat.zero_mod]⟩
        | succ earlier =>
            refine Or.inr ⟨by simp, ?_⟩
            intro g member
            obtain ⟨id, below, rfl⟩ := List.mem_map.mp member
            rw [last, ids id (Nat.lt_succ_of_lt (List.mem_range.mp below))]
            exact List.mem_range.mp below
      rw [List.range_succ, List.map_append, List.map_singleton, accepted_snoc, before,
        addressedAll count (Nat.lt_succ_self count), List.map_append, List.map_singleton]
      exact if_pos admitted

-- With one packet for each batch all batches but the last are enqueued, valid.
theorem numbered_queue (stream : StreamConfig) (one : stream.batchsize = 1) (silent : stream.subbandMonitor = false)
    (frame : Nat → Frame) (count : Nat)
    (addressedAll : ∀ id < count + 1, addressed stream (frame id).data = some (frame id))
    (ids : ∀ id < count + 1, (frame id).packetId = id) :
    ∃ st, recv2mem stream (numberedEvents stream frame (count + 1)) = .ok st ∧
      st.stored = (List.range (count + 1)).map frame ∧ st.queued.map PacketBatch.batchId = List.range' 0 count ∧
      ∀ batch ∈ st.queued, batch.valid = true := by
  obtain ⟨st, run⟩ := recv2mem_total stream (Or.inl silent) (numberedEvents stream frame (count + 1))
  obtain ⟨stored, phase⟩ := recv_run_inv stream (numberedEvents stream frame (count + 1)) st run
  have kept := stored.trans (numbered_accepted stream frame (count + 1) addressedAll ids)
  have member : ∀ id < count + 1, frame id ∈ st.stored := fun id below => by
    rw [kept]
    exact List.mem_map_of_mem (List.mem_range.mpr below)
  refine ⟨st, run, kept, ?_⟩
  rcases phase with idle | ⟨origin, running⟩
  · have none := member 0 (Nat.succ_pos count)
    rw [idle.stored] at none
    cases none
  · have start : origin = frame 0 := by
      have head := running.head
      rw [kept, List.range_succ_eq_map, List.map_cons] at head
      exact (Option.some.inj head).symm
    have batches := running.batches
    have last : st.prebatchid = count := by
      have reach := batches.reach _ (member count (Nat.lt_succ_self count))
      obtain ⟨f, inside, _, current⟩ := running.newest
      rw [kept] at inside
      obtain ⟨id, below, rfl⟩ := List.mem_map.mp inside
      have bound := List.mem_range.mp below
      rw [ids count (Nat.lt_succ_self count), one, Nat.div_one] at reach
      rw [ids id bound, one, Nat.div_one] at current
      omega
    have queue := batches.queue
    rw [start, ids 0 (Nat.succ_pos count), last, Nat.zero_div, Nat.sub_zero] at queue
    refine ⟨queue, ?_⟩
    intro batch inside
    refine (batches.finished batch inside).valid.mpr ?_
    intro j below
    have before := queued_before stream _ st batches batch inside
    have whole : batch.batchId * stream.batchsize + j = batch.batchId := by
      have single := congrArg (batch.batchId * ·) one
      simp only [Nat.mul_one] at single
      omega
    exact ⟨frame batch.batchId, member _ (by omega), by rw [whole]; exact ids _ (by omega)⟩

-- Server 0, stream 0, baseband output of 8 bits, the smallest batch size.
theorem sample_batchsize_positive : 0 < 16 := by decide

def sampleStream : StreamConfig where
  ringId := 0
  serverId := 0
  destPort := 60000
  batchsize := 16
  batchsizePos := sample_batchsize_positive
  poolSize := 3
  poolSizePos := by decide
  basebandMode := true
  calMode := false
  subbandMonitor := false
  monitorFailure := none
  basebandBits := 8
  basebandBitsAccepted := by decide

def sampleFrame (packetId : Nat) : Frame :=
  Frame.assemble sampleStream.destPort (VDIF.zero.setPacketId packetId) (Packet.memset 7)

theorem sample_frame_id (packetId : Nat) (fits : packetId < 2 ^ 30 * VDIF.framesPerSecond) :
    (sampleFrame packetId).packetId = packetId := by
  rw [Frame.packetId, sampleFrame, assemble_vdif]
  exact VDIF.set_packet_id_round_trip VDIF.zero packetId fits

-- Packet 0 opens batch 0, packet 16 opens batch 1; packets 1 to 15 are lost.
def lossyEvents : List (RecvEvent sampleStream) := [.frame (sampleFrame 0).data, .frame (sampleFrame 16).data]

theorem lossy_accepted : accepted sampleStream (arrivals sampleStream lossyEvents) = [sampleFrame 0, sampleFrame 16] := by
  have first : (sampleFrame 0).packetId = 0 := sample_frame_id 0 (by decide)
  have second : (sampleFrame 16).packetId = 16 := sample_frame_id 16 (by decide)
  have addressedAll : ∀ id, addressed sampleStream (sampleFrame id).data = some (sampleFrame id) :=
    fun id => addressed_assemble sampleStream _ _
  simp [accepted, arrivals, lossyEvents, arrival, addressedAll, accept, accepts, first, second]

theorem receive_batching_lossy : ∃ st, recv2mem sampleStream lossyEvents = .ok st ∧
    st.stored = [sampleFrame 0, sampleFrame 16] ∧ st.stored.length + st.totalLostnmber = st.expectedPktId - 0 := by
  obtain ⟨st, run⟩ := recv2mem_total sampleStream (Or.inl rfl) lossyEvents
  obtain ⟨stored, _, accounting, _⟩ := receive_batching sampleStream lossyEvents st run
  have both := stored.trans lossy_accepted
  have first : (sampleFrame 0).packetId = 0 := sample_frame_id 0 (by decide)
  refine ⟨st, run, both, ?_⟩
  rw [← first]
  exact (accounting (sampleFrame 0) (by rw [both]; rfl)).2.2

end SpectralLine
