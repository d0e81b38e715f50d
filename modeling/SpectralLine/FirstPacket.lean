import SpectralLine.Batching

set_option autoImplicit false

namespace SpectralLine

section

variable (cfg : StreamConfig)

-- What the first packet of a batch leaves in slot 0 on the way to the GPU.
structure OpenedBy (f : Frame) (batch : PacketBatch cfg.batchsize) : Prop where
  inBatch : f.packetId / cfg.batchsize = batch.batchId
  header : batch.hdrs cfg.firstSlot = f.vdif.setPacketId (batch.batchId * cfg.batchsize)
  noise : batch.noiseState cfg.firstSlot = (metadataOf cfg f).noiseSourceState

def Opened (stored : List Frame) (batch : PacketBatch cfg.batchsize) : Prop :=
  batch.receivedCount ≠ 0 → ∃ f ∈ stored, OpenedBy cfg f batch

structure OpenInv (st : RecvState cfg) : Prop where
  current : Opened cfg st.stored (st.pool st.poolIdx)
  queued : ∀ batch ∈ st.queued, Opened cfg st.stored batch
  full : ∀ batch ∈ st.queued, batch.valid = true → batch.receivedCount = cfg.batchsize

theorem opened_extend (stored : List Frame) (f : Frame) (batch : PacketBatch cfg.batchsize)
    (opened : Opened cfg stored batch) : Opened cfg (stored ++ [f]) batch := by
  intro received
  obtain ⟨g, member, opener⟩ := opened received
  exact ⟨g, List.mem_append_left [f] member, opener⟩

theorem open_inv_congr (st next : RecvState cfg) (inv : OpenInv cfg st) (pool : next.pool = st.pool)
    (poolIdx : next.poolIdx = st.poolIdx) (queued : next.queued = st.queued) (stored : next.stored = st.stored) :
    OpenInv cfg next := by
  cases st
  cases next
  subst pool poolIdx queued stored
  exact ⟨inv.current, inv.queued, inv.full⟩

theorem prepare_unreceived (st : RecvState cfg) (batch : PacketBatch cfg.batchsize) (batchId : Nat) :
    (prepareBatch cfg st batch batchId).receivedCount = 0 := by
  by_cases present : st.haveHeaderTemplate = true <;> simp [prepareBatch, present]

theorem prepare_opened (stored : List Frame) (st : RecvState cfg) (batch : PacketBatch cfg.batchsize) (batchId : Nat) :
    Opened cfg stored (prepareBatch cfg st batch batchId) :=
  fun received => absurd (prepare_unreceived cfg st batch batchId) received

theorem finalize_gpu (gpu : cfg.basebandMode = false) (batch : PacketBatch cfg.batchsize) :
    finalizeBatch cfg batch = { batch with valid := batch.headerValid && batch.receivedCount == cfg.batchsize } := by
  simp [finalizeBatch, gpu]

theorem finalize_opened (gpu : cfg.basebandMode = false) (stored : List Frame) (batch : PacketBatch cfg.batchsize)
    (opened : Opened cfg stored batch) : Opened cfg stored (finalizeBatch cfg batch) := by
  rw [finalize_gpu cfg gpu]
  intro received
  obtain ⟨f, member, opener⟩ := opened received
  exact ⟨f, member, opener.inBatch, opener.header, opener.noise⟩

theorem rotate_open_inv (gpu : cfg.basebandMode = false) (st : RecvState cfg) (inv : OpenInv cfg st) : OpenInv cfg (rotate cfg st) := by
  refine ⟨?_, ?_, ?_⟩
  · simp only [rotate, Function.update_self]
    exact prepare_opened cfg st.stored st _ _
  · intro batch member
    rcases List.mem_append.mp member with old | new
    · exact inv.queued batch old
    · rw [List.mem_singleton.mp new]
      exact finalize_opened cfg gpu st.stored _ inv.current
  · intro batch member valid
    rcases List.mem_append.mp member with old | new
    · exact inv.full batch old valid
    · rw [List.mem_singleton.mp new, finalize_gpu cfg gpu] at valid ⊢
      simp only [Bool.and_eq_true, beq_iff_eq] at valid
      exact valid.2

theorem advance_open_inv (gpu : cfg.basebandMode = false) (batchid : Nat) (st : RecvState cfg) (inv : OpenInv cfg st) :
    OpenInv cfg (advanceTo cfg batchid st) := by
  fun_induction advanceTo cfg batchid st with
  | case1 st behind ih => exact ih (rotate_open_inv cfg gpu st inv)
  | case2 st reached => exact inv

theorem sequence_open_inv (st middle : RecvState cfg) (id : Nat) (inv : OpenInv cfg st)
    (checked : sequenceCheck cfg st id = some middle) : OpenInv cfg middle := by
  rw [sequenceCheck] at checked
  split_ifs at checked with start aligned gap equal
  · cases checked
    refine ⟨?_, inv.queued, inv.full⟩
    simp only [Function.update_self]
    exact prepare_opened cfg st.stored st _ _
  · cases checked
    exact ⟨inv.current, inv.queued, inv.full⟩
  · cases checked
    exact ⟨inv.current, inv.queued, inv.full⟩

theorem sequence_expected (st middle : RecvState cfg) (id : Nat) (checked : sequenceCheck cfg st id = some middle) :
    middle.expectedPktId = id + 1 := by
  rw [sequenceCheck] at checked
  split_ifs at checked with start aligned gap equal
  · cases checked
    rfl
  · cases checked
    rfl
  · cases checked
    rw [equal]

theorem store_opened (batch : PacketBatch cfg.batchsize) (f : Frame) (stored : List Frame)
    (opened : Opened cfg stored batch) (inBatch : f.packetId / cfg.batchsize = batch.batchId)
    (newest : ∀ g ∈ stored, g.packetId < f.packetId) :
    Opened cfg (stored ++ [f]) (storeInto cfg batch f (metadataOf cfg f) f.vdif) := by
  intro _
  by_cases first : batch.receivedCount = 0
  · refine ⟨f, by simp, ?_, ?_, ?_⟩
    · rw [(store_into_ids cfg batch f f.vdif).1, inBatch]
    · rw [(store_into_first cfg batch f f.vdif first).2, (store_into_ids cfg batch f f.vdif).1, inBatch]
    · simp [storeInto, first]
  · obtain ⟨g, member, sameBatch, header, noise⟩ := opened first
    have away : cfg.firstSlot ≠ cfg.slot f.packetId := by
      intro start
      have aligned : f.packetId % cfg.batchsize = 0 := (congrArg Fin.val start).symm
      have whole := Nat.div_mul_cancel (Nat.dvd_of_mod_eq_zero aligned)
      have below := newest g member
      have floor := Nat.div_mul_le_self g.packetId cfg.batchsize
      rw [inBatch, ← sameBatch] at whole
      omega
    obtain ⟨_, others⟩ := store_into_later cfg batch f f.vdif first
    obtain ⟨sameHeader, sameNoise⟩ := others cfg.firstSlot away
    have id := (store_into_ids cfg batch f f.vdif).1
    exact ⟨g, List.mem_append_left [f] member, by rw [id, sameBatch], by rw [sameHeader, id, header],
      by rw [sameNoise, noise]⟩

theorem store_open_inv (gpu : cfg.basebandMode = false) (st next : RecvState cfg) (f : Frame) (inv : OpenInv cfg st)
    (origin : Frame) (running : Running cfg next origin) (done : storePacket cfg st f (metadataOf cfg f) = .ok next)
    (expected : st.expectedPktId = f.packetId + 1) : OpenInv cfg next := by
  obtain ⟨header, recorded, stored, sameExpected, _, queued, prebatchid, poolIdx, _, pool⟩ := store_packet_cases cfg st next f done
  have raw : header = f.vdif := by
    simpa [StreamConfig.storedHeader, gpu, eq_comm] using recorded
  subst raw
  have batches := running.batches
  have ordered := batches.ordered
  rw [stored] at ordered
  have newest : ∀ g ∈ st.stored, g.packetId < f.packetId :=
    fun g member => (List.pairwise_append.mp ordered).2.2 g member f (List.mem_singleton_self f)
  have current := batches.current
  rw [pool, poolIdx, Function.update_self, (store_into_ids cfg _ f f.vdif).1, prebatchid] at current
  obtain ⟨last, _, lastId, inBatch⟩ := running.newest
  have same : last.packetId = f.packetId := by omega
  rw [same, prebatchid, ← current] at inBatch
  refine ⟨?_, ?_, by rw [queued]; exact inv.full⟩
  · rw [pool, poolIdx, stored, Function.update_self]
    exact store_opened cfg _ f st.stored inv.current inBatch newest
  · intro batch member
    rw [queued] at member
    rw [stored]
    exact opened_extend cfg st.stored f batch (inv.queued batch member)

theorem receive_open_inv (gpu : cfg.basebandMode = false) (st next : RecvState cfg) (data : List Byte) (inv : OpenInv cfg st)
    (frames : List (List Byte)) (after : RecvInv cfg frames next) (done : receive cfg st data = .ok next) :
    OpenInv cfg next := by
  by_cases size : data.length = expectedPktLen
  · rw [receive, dif_pos size, receiveSized] at done
    by_cases port : (⟨data, size⟩ : Frame).udpDstPort = cfg.destPort
    · rw [if_neg (not_not.mpr port)] at done
      obtain ⟨counted, published, rest⟩ := Run.bind_ok _ _ _ done
      obtain ⟨monitor, rfl⟩ := publish_monitor_frame cfg _ _ _ _ published
      have counts := open_inv_congr cfg st { st with totalPkts := st.totalPkts + 1, monitor } inv rfl rfl rfl rfl
      rw [show (VDIF.readMetadata (⟨data, size⟩ : Frame).vdif cfg.calMode).packetId = (⟨data, size⟩ : Frame).packetId
        from metadata_packet_id cfg ⟨data, size⟩] at rest
      cases checked : sequenceCheck cfg { st with totalPkts := st.totalPkts + 1, monitor } (⟨data, size⟩ : Frame).packetId with
      | none =>
          rw [checked] at rest
          cases rest
          unfold countDiscard
          split
          · exact counts
          · exact open_inv_congr cfg _ _ counts rfl rfl rfl rfl
      | some middle =>
          rw [checked] at rest
          have advanced := advance_open_inv cfg gpu ((⟨data, size⟩ : Frame).packetId / cfg.batchsize) middle
            (sequence_open_inv cfg _ middle _ counts checked)
          obtain ⟨_, _, stored, _⟩ := store_packet_cases cfg _ next _ rest
          rcases after.phase with idle | ⟨origin, running⟩
          · rw [idle.stored] at stored
            simp at stored
          · apply store_open_inv cfg gpu _ next _ advanced origin running rest
            rw [(advance_frame cfg _ middle).2.1]
            exact sequence_expected cfg _ middle _ checked
    · rw [if_pos port] at done
      cases done
      exact open_inv_congr cfg st _ inv rfl rfl rfl rfl
  · rw [receive, dif_neg size] at done
    cases done
    exact inv

theorem recv_step_open_inv (gpu : cfg.basebandMode = false) (past : List (RecvEvent cfg)) (st : RecvState cfg)
    (event : RecvEvent cfg) (next : RecvState cfg) (inv : RecvInv cfg (arrivals cfg past) st ∧ OpenInv cfg st)
    (done : recvStep cfg st event = .ok next) :
    RecvInv cfg (arrivals cfg (past ++ [event])) next ∧ OpenInv cfg next := by
  have after := recv_step_inv cfg past st event next inv.1 done
  refine ⟨after, ?_⟩
  cases event with
  | frame data => exact receive_open_inv cfg gpu st next data inv.2 _ after done
  | consumer entry buffer =>
      by_cases same : entry = st.poolIdx
      · rw [recvStep, if_pos same] at done
        cases done
        exact inv.2
      · rw [recvStep, if_neg same] at done
        cases done
        refine ⟨?_, inv.2.queued, inv.2.full⟩
        simp only [Function.update_of_ne (Ne.symm same)]
        exact inv.2.current

theorem recv_run_open_inv (gpu : cfg.basebandMode = false) (events : List (RecvEvent cfg)) (st : RecvState cfg)
    (run : recv2mem cfg events = .ok st) : OpenInv cfg st := by
  have start : OpenInv cfg (RecvState.initial cfg) :=
    ⟨fun received => absurd rfl received, by simp [RecvState.initial], by simp [RecvState.initial]⟩
  have inv := Run.invariant (recvStep cfg) (RecvState.initial cfg)
    (fun past st => RecvInv cfg (arrivals cfg past) st ∧ OpenInv cfg st)
    ⟨⟨rfl, Or.inl ⟨rfl, rfl, rfl, rfl, fun _ _ => rfl⟩⟩, start⟩ (recv_step_open_inv cfg gpu) events st run
  exact inv.2

-- Every batch handed to a GPU worker that received a packet shows the header
-- and the noise bit of its first one.
theorem queued_opened (gpu : cfg.basebandMode = false) (events : List (RecvEvent cfg)) (st : RecvState cfg)
    (run : recv2mem cfg events = .ok st) : ∀ batch ∈ st.queued, Opened cfg st.stored batch :=
  (recv_run_open_inv cfg gpu events st run).queued

end

end SpectralLine
