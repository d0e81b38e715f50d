import SpectralLine.RecvBatch

set_option autoImplicit false

namespace SpectralLine

variable (cfg : StreamConfig)

-- Acceptance as the receiver's users see it: correctly sized and addressed
-- packets, from the first that starts a batch, while the id keeps growing.
def addressed (data : List Byte) : Option Frame :=
  if size : data.length = expectedPktLen then
    if (⟨data, size⟩ : Frame).udpDstPort = cfg.destPort then some ⟨data, size⟩ else none
  else none

def accepts (stored : List Frame) (f : Frame) : Prop :=
  (stored = [] ∧ f.packetId % cfg.batchsize = 0) ∨ (stored ≠ [] ∧ ∀ g ∈ stored, g.packetId < f.packetId)

instance (stored : List Frame) (f : Frame) : Decidable (accepts cfg stored f) :=
  inferInstanceAs (Decidable ((_ ∧ _) ∨ (_ ∧ _)))

def accept (stored : List Frame) (f : Frame) : List Frame := if accepts cfg stored f then stored ++ [f] else stored

def accepted (frames : List (List Byte)) : List Frame := (frames.filterMap (addressed cfg)).foldl (accept cfg) []

def arrival : RecvEvent cfg → Option (List Byte)
  | .frame data => some data
  | .consumer _ _ => none

def arrivals (events : List (RecvEvent cfg)) : List (List Byte) := events.filterMap (arrival cfg)

theorem accepted_snoc (frames : List (List Byte)) (data : List Byte) :
    accepted cfg (frames ++ [data]) =
      match addressed cfg data with
      | none => accepted cfg frames
      | some f => accept cfg (accepted cfg frames) f := by
  rw [accepted, List.filterMap_append, List.foldl_append]
  cases found : addressed cfg data <;> simp [found, accepted]

-- The part of the state that speaks about batches, with the packets stored so
-- far; `first` is the id of the first batch.
structure BatchInv (first : Nat) (st : RecvState cfg) : Prop where
  template : st.stored = [] ∨ st.haveHeaderTemplate = true
  stale : ∀ entry j, (st.pool entry).pktId j = 0 ∨ ∃ f ∈ st.stored, f.packetId = (st.pool entry).pktId j
  current : (st.pool st.poolIdx).batchId = st.prebatchid
  filling : Filling cfg st.stored (st.pool st.poolIdx)
  ordered : idsAscend st.stored
  reach : ∀ f ∈ st.stored, f.packetId / cfg.batchsize ≤ st.prebatchid
  lower : first ≤ st.prebatchid
  queue : st.queued.map PacketBatch.batchId = List.range' first (st.prebatchid - first)
  finished : ∀ batch ∈ st.queued, Finished cfg st.stored batch

theorem batch_inv_congr (first : Nat) (st next : RecvState cfg) (inv : BatchInv cfg first st)
    (pool : next.pool = st.pool) (poolIdx : next.poolIdx = st.poolIdx) (prebatchid : next.prebatchid = st.prebatchid)
    (template : next.haveHeaderTemplate = st.haveHeaderTemplate) (queued : next.queued = st.queued)
    (stored : next.stored = st.stored) : BatchInv cfg first next := by
  cases st
  cases next
  subst pool poolIdx prebatchid template queued stored
  exact ⟨inv.template, inv.stale, inv.current, inv.filling, inv.ordered, inv.reach, inv.lower, inv.queue, inv.finished⟩

theorem queued_before (first : Nat) (st : RecvState cfg) (inv : BatchInv cfg first st)
    (batch : PacketBatch cfg.batchsize) (member : batch ∈ st.queued) : batch.batchId < st.prebatchid := by
  have listed : batch.batchId ∈ List.range' first (st.prebatchid - first) := by
    rw [← inv.queue]
    exact List.mem_map_of_mem member
  have bounds := List.mem_range'_1.mp listed
  omega

theorem finished_extend (stored : List Frame) (batch : PacketBatch cfg.batchsize) (f : Frame)
    (finished : Finished cfg stored batch) (outside : f.packetId / cfg.batchsize ≠ batch.batchId) :
    Finished cfg (stored ++ [f]) batch := by
  have notHere : ∀ j < cfg.batchsize, f.packetId ≠ batch.batchId * cfg.batchsize + j :=
    fun j bound same => outside (id_in_batch cfg f.packetId batch.batchId ⟨j, bound⟩ same).1
  refine ⟨finished.valid.trans (forall₂_congr fun j bound => ?_), ?_, ?_, finished.start⟩
  · simp [notHere j bound]
  · intro g member j same
    rcases List.mem_append.mp member with old | new
    · exact finished.kept g old j same
    · rw [List.mem_singleton.mp new] at same
      exact absurd same (notHere j.val j.isLt)
  · exact fun baseband j absent => finished.filled baseband j fun g member => absent g (List.mem_append_left [f] member)

theorem prepare_pkt_id (st : RecvState cfg) (batch : PacketBatch cfg.batchsize) (batchId : Nat) :
    (prepareBatch cfg st batch batchId).pktId = batch.pktId ∧ (prepareBatch cfg st batch batchId).batchId = batchId := by
  by_cases present : st.haveHeaderTemplate = true <;> simp [prepareBatch, present]

theorem rotate_batch_inv (first : Nat) (st : RecvState cfg) (inv : BatchInv cfg first st) (nonempty : st.stored ≠ []) :
    BatchInv cfg first (rotate cfg st) := by
  obtain ⟨finalId, finalIds⟩ := finalize_frame cfg (st.pool st.poolIdx)
  have pooled : ∀ entry, ((Function.update st.pool st.poolIdx (finalizeBatch cfg (st.pool st.poolIdx))) entry).pktId =
      (st.pool entry).pktId := by
    intro entry
    rcases eq_or_ne entry st.poolIdx with same | different
    · rw [same, Function.update_self, finalIds]
    · rw [Function.update_of_ne different]
  have staleIds : ∀ entry j, ((rotate cfg st).pool entry).pktId j = (st.pool entry).pktId j := by
    intro entry j
    simp only [rotate]
    rcases eq_or_ne entry (nextEntry cfg st.poolIdx) with same | different
    · rw [same, Function.update_self, (prepare_pkt_id cfg _ _ _).1, pooled]
    · rw [Function.update_of_ne different, pooled]
  have behind : ∀ f ∈ st.stored, f.packetId / cfg.batchsize ≠ st.prebatchid + 1 :=
    fun f member => Nat.ne_of_lt (Nat.lt_succ_of_le (inv.reach f member))
  refine ⟨inv.template, fun entry j => by rw [staleIds]; exact inv.stale entry j, ?_, ?_, inv.ordered,
    fun f member => Nat.le_succ_of_le (inv.reach f member), Nat.le_succ_of_le inv.lower, ?_, ?_⟩
  · simp [rotate, (prepare_pkt_id cfg _ _ _).2]
  · simp only [rotate, Function.update_self]
    apply prepare_filling cfg st _ _ st.stored inv.template behind
    intro j same
    rw [pooled] at same
    rcases inv.stale (nextEntry cfg st.poolIdx) j with zero | ⟨f, member, equal⟩
    · have positive := cfg.batchsizePos
      rw [zero, Nat.add_mul] at same
      omega
    · exact Or.inl ⟨f, member, equal.trans same⟩
  · have extended : st.prebatchid + 1 - first = (st.prebatchid - first) + 1 := by
      have lower := inv.lower
      omega
    have last : first + (st.prebatchid - first) = st.prebatchid := Nat.add_sub_of_le inv.lower
    simp only [rotate, List.map_append, List.map_cons, List.map_nil, inv.queue, extended, List.range'_concat,
      finalId, inv.current, Nat.one_mul, last]
  · intro batch member
    rcases List.mem_append.mp member with old | new
    · exact inv.finished batch old
    · rw [List.mem_singleton.mp new]
      exact finalize_finished cfg st.stored _ inv.filling inv.ordered nonempty

-- The catch-up loop stops at the batch of the packet and keeps everything else.
theorem advance_frame (batchid : Nat) (st : RecvState cfg) :
    (advanceTo cfg batchid st).stored = st.stored ∧
    (advanceTo cfg batchid st).expectedPktId = st.expectedPktId ∧
    (advanceTo cfg batchid st).totalLostnmber = st.totalLostnmber ∧
    (advanceTo cfg batchid st).prebatchid = max st.prebatchid batchid := by
  fun_induction advanceTo cfg batchid st with
  | case1 st behind ih =>
      obtain ⟨stored, expected, lost, prebatchid⟩ := ih
      refine ⟨stored, expected, lost, prebatchid.trans ?_⟩
      simp only [rotate]
      omega
  | case2 st reached => exact ⟨rfl, rfl, rfl, by omega⟩

theorem advance_batch_inv (first batchid : Nat) (st : RecvState cfg) (inv : BatchInv cfg first st)
    (nonempty : st.stored ≠ []) : BatchInv cfg first (advanceTo cfg batchid st) := by
  fun_induction advanceTo cfg batchid st with
  | case1 st behind ih => exact ih (rotate_batch_inv cfg first st inv nonempty) nonempty
  | case2 st reached => exact inv

theorem store_packet_cases (st next : RecvState cfg) (f : Frame)
    (done : storePacket cfg st f (metadataOf cfg f) = .ok next) :
    ∃ header, cfg.storedHeader f.vdif = .ok header ∧ next.stored = st.stored ++ [f] ∧
      next.expectedPktId = st.expectedPktId ∧ next.totalLostnmber = st.totalLostnmber ∧
      next.queued = st.queued ∧ next.prebatchid = st.prebatchid ∧ next.poolIdx = st.poolIdx ∧
      (next.haveHeaderTemplate = true ∨ ((st.pool st.poolIdx).receivedCount ≠ 0 ∧
        next.haveHeaderTemplate = st.haveHeaderTemplate)) ∧
      next.pool = Function.update st.pool st.poolIdx
        (storeInto cfg (st.pool st.poolIdx) f (metadataOf cfg f) header) := by
  obtain ⟨header, recorded, rest⟩ := Run.bind_ok _ _ _ done
  cases rest
  refine ⟨header, recorded, ?_⟩
  by_cases first : (st.pool st.poolIdx).receivedCount = 0 <;> simp [first]

theorem store_batch_inv (first : Nat) (st next : RecvState cfg) (f : Frame) (inv : BatchInv cfg first st)
    (inBatch : f.packetId / cfg.batchsize = st.prebatchid) (newest : ∀ g ∈ st.stored, g.packetId < f.packetId)
    (aligned : st.stored = [] → f.packetId % cfg.batchsize = 0)
    (done : storePacket cfg st f (metadataOf cfg f) = .ok next) : BatchInv cfg first next := by
  obtain ⟨header, recorded, stored, _, _, queued, prebatchid, poolIdx, template, pool⟩ :=
    store_packet_cases cfg st next f done
  obtain ⟨id, _, ids, _⟩ := store_into_ids cfg (st.pool st.poolIdx) f header
  have counted := inv.filling.count
  refine ⟨Or.inr ?_, ?_, ?_, ?_, ?_, ?_, ?_, ?_, ?_⟩
  · rcases template with present | ⟨received, unchanged⟩
    · exact present
    · have nonempty : st.stored ≠ [] := by
        intro empty
        rw [empty] at counted
        exact received counted
      exact unchanged.trans (inv.template.resolve_left nonempty)
  · intro entry j
    rw [pool, stored]
    rcases eq_or_ne entry st.poolIdx with same | different
    · rw [same, Function.update_self, ids]
      rcases eq_or_ne j (cfg.slot f.packetId) with here | elsewhere
      · exact Or.inr ⟨f, by simp, by rw [here, Function.update_self]⟩
      · rw [Function.update_of_ne elsewhere]
        exact (inv.stale st.poolIdx j).imp_right fun ⟨g, member, equal⟩ => ⟨g, List.mem_append_left [f] member, equal⟩
    · rw [Function.update_of_ne different]
      exact (inv.stale entry j).imp_right fun ⟨g, member, equal⟩ => ⟨g, List.mem_append_left [f] member, equal⟩
  · rw [pool, poolIdx, prebatchid, Function.update_self, id]
    exact inv.current
  · rw [pool, poolIdx, stored, Function.update_self]
    exact store_filling cfg st.stored _ f header inv.filling recorded (inBatch.trans inv.current.symm) newest aligned
  · rw [stored]
    exact List.pairwise_append.mpr ⟨inv.ordered, List.pairwise_singleton _ f,
      fun g member other single => List.mem_singleton.mp single ▸ newest g member⟩
  · rw [stored, prebatchid]
    intro g member
    rcases List.mem_append.mp member with old | new
    · exact inv.reach g old
    · rw [List.mem_singleton.mp new, inBatch]
  · rw [prebatchid]
    exact inv.lower
  · rw [queued, prebatchid]
    exact inv.queue
  · rw [queued, stored]
    intro batch member
    have before := queued_before cfg first st inv batch member
    exact finished_extend cfg st.stored batch f (inv.finished batch member) (by omega)

-- Before the first acceptance: nothing enqueued, lost or remembered.
structure Idle (st : RecvState cfg) : Prop where
  stored : st.stored = []
  expected : st.expectedPktId = 0
  lost : st.totalLostnmber = 0
  queued : st.queued = []
  ids : ∀ entry j, (st.pool entry).pktId j = 0

structure Running (st : RecvState cfg) (origin : Frame) : Prop where
  head : st.stored.head? = some origin
  aligned : origin.packetId % cfg.batchsize = 0
  batches : BatchInv cfg (origin.packetId / cfg.batchsize) st
  bounded : ∀ f ∈ st.stored, f.packetId < st.expectedPktId
  newest : ∃ f ∈ st.stored, f.packetId + 1 = st.expectedPktId ∧ f.packetId / cfg.batchsize = st.prebatchid
  balance : origin.packetId + st.stored.length + st.totalLostnmber = st.expectedPktId

structure RecvInv (frames : List (List Byte)) (st : RecvState cfg) : Prop where
  stored : st.stored = accepted cfg frames
  phase : Idle cfg st ∨ ∃ origin, Running cfg st origin

theorem running_nonempty (st : RecvState cfg) (origin : Frame) (running : Running cfg st origin) : st.stored ≠ [] := by
  intro empty
  have head := running.head
  simp [empty] at head

theorem recv_inv_congr (frames : List (List Byte)) (st next : RecvState cfg) (inv : RecvInv cfg frames st)
    (pool : next.pool = st.pool) (poolIdx : next.poolIdx = st.poolIdx) (prebatchid : next.prebatchid = st.prebatchid)
    (template : next.haveHeaderTemplate = st.haveHeaderTemplate) (queued : next.queued = st.queued)
    (stored : next.stored = st.stored) (expected : next.expectedPktId = st.expectedPktId)
    (lost : next.totalLostnmber = st.totalLostnmber) : RecvInv cfg frames next := by
  refine ⟨stored.trans inv.stored, inv.phase.imp ?_ ?_⟩
  · intro idle
    exact ⟨stored.trans idle.stored, expected.trans idle.expected, lost.trans idle.lost, queued.trans idle.queued,
      fun entry j => by rw [pool]; exact idle.ids entry j⟩
  · rintro ⟨origin, running⟩
    refine ⟨origin, by rw [stored]; exact running.head, running.aligned,
      batch_inv_congr cfg _ st next running.batches pool poolIdx prebatchid template queued stored, ?_, ?_, ?_⟩
    · rw [stored, expected]
      exact running.bounded
    · rw [stored, expected, prebatchid]
      exact running.newest
    · rw [stored, expected, lost]
      exact running.balance

theorem idle_accepts (st : RecvState cfg) (idle : Idle cfg st) (f : Frame) :
    accepts cfg st.stored f ↔ f.packetId % cfg.batchsize = 0 := by
  simp [accepts, idle.stored]

theorem running_accepts (st : RecvState cfg) (origin : Frame) (running : Running cfg st origin) (f : Frame) :
    accepts cfg st.stored f ↔ st.expectedPktId ≤ f.packetId := by
  have nonempty := running_nonempty cfg st origin running
  obtain ⟨last, member, next, _⟩ := running.newest
  simp only [accepts, nonempty, false_and, ne_eq, not_false_eq_true, true_and, false_or]
  constructor
  · intro above
    have less := above last member
    omega
  · intro reached g stored
    exact Nat.lt_of_lt_of_le (running.bounded g stored) reached

-- The first accepted packet: the entry is prepared, then the packet is stored.
theorem idle_accept (st middle next : RecvState cfg) (f : Frame) (idle : Idle cfg st)
    (checked : sequenceCheck cfg st f.packetId = some middle)
    (done : storePacket cfg (advanceTo cfg (f.packetId / cfg.batchsize) middle) f (metadataOf cfg f) = .ok next) :
    f.packetId % cfg.batchsize = 0 ∧ next.stored = [f] ∧ Running cfg next f := by
  by_cases aligned : f.packetId % cfg.batchsize = 0
  · simp only [sequenceCheck, idle.expected, aligned, if_true, ne_eq, not_true_eq_false, if_false, Option.some.injEq] at checked
    have ids : ∀ entry j, (middle.pool entry).pktId j = 0 := by
      intro entry j
      rw [← checked]
      rcases eq_or_ne entry st.poolIdx with same | different
      · simp only [same, Function.update_self, (prepare_pkt_id cfg _ _ _).1, idle.ids]
      · simp only [Function.update_of_ne different, idle.ids]
    have batches : BatchInv cfg (f.packetId / cfg.batchsize) middle := by
      have stored : middle.stored = [] := by rw [← checked]; exact idle.stored
      refine ⟨Or.inl stored, fun entry j => Or.inl (ids entry j), ?_, ?_, ?_, ?_, ?_, ?_, ?_⟩
      · simp [← checked, (prepare_pkt_id cfg _ _ _).2]
      · have prepared : middle.pool middle.poolIdx =
            prepareBatch cfg st (st.pool st.poolIdx) (f.packetId / cfg.batchsize) := by simp [← checked]
        rw [stored, prepared]
        apply prepare_filling cfg st _ _ [] (Or.inl rfl) (by simp)
        intro j same
        rw [idle.ids] at same
        exact Or.inr ⟨rfl, by omega⟩
      · rw [stored]
        exact List.Pairwise.nil
      · simp [stored]
      · simp [← checked]
      · simp [← checked, idle.queued]
      · simp [← checked, idle.queued]
    have still : advanceTo cfg (f.packetId / cfg.batchsize) middle = middle := by
      rw [advanceTo, if_neg (by simp [← checked])]
    rw [still] at done
    obtain ⟨_, _, stored, expected, lost, _, prebatchid, _⟩ := store_packet_cases cfg middle next f done
    have before : middle.stored = [] ∧ middle.expectedPktId = f.packetId + 1 ∧ middle.totalLostnmber = 0 ∧
        middle.prebatchid = f.packetId / cfg.batchsize := by simp [← checked, idle.stored, idle.lost]
    rw [before.1, List.nil_append] at stored
    refine ⟨aligned, stored, by simp [stored], aligned,
      store_batch_inv cfg _ middle next f batches before.2.2.2.symm (by simp [before.1]) (fun _ => aligned) done, ?_, ?_, ?_⟩
    · simp [stored, expected, before.2.1]
    · simp [stored, expected, before.2.1, prebatchid, before.2.2.2]
    · simp [stored, expected, before.2.1, lost, before.2.2.1]
  · simp [sequenceCheck, idle.expected, aligned] at checked

-- A later packet: the gap is booked, the batches before it are enqueued.
theorem running_accept (st middle next : RecvState cfg) (origin f : Frame) (running : Running cfg st origin)
    (checked : sequenceCheck cfg st f.packetId = some middle)
    (done : storePacket cfg (advanceTo cfg (f.packetId / cfg.batchsize) middle) f (metadataOf cfg f) = .ok next) :
    st.expectedPktId ≤ f.packetId ∧ next.stored = st.stored ++ [f] ∧ Running cfg next origin := by
  obtain ⟨last, lastMember, lastNext, lastBatch⟩ := running.newest
  have positive : st.expectedPktId ≠ 0 := by omega
  have nonempty := running_nonempty cfg st origin running
  -- Both accepting branches book id - expected lost packets (none when equal).
  have booked : st.expectedPktId ≤ f.packetId ∧ middle.pool = st.pool ∧ middle.poolIdx = st.poolIdx ∧
      middle.prebatchid = st.prebatchid ∧ middle.haveHeaderTemplate = st.haveHeaderTemplate ∧
      middle.queued = st.queued ∧ middle.stored = st.stored ∧ middle.expectedPktId = f.packetId + 1 ∧
      middle.totalLostnmber = st.totalLostnmber + (f.packetId - st.expectedPktId) := by
    rw [sequenceCheck, if_neg positive] at checked
    by_cases gap : st.expectedPktId < f.packetId
    · rw [if_pos gap, Option.some.injEq] at checked
      simp [← checked, Nat.le_of_lt gap]
    · by_cases equal : f.packetId = st.expectedPktId
      · rw [if_neg gap, if_pos equal, Option.some.injEq] at checked
        simp [← checked, equal]
      · rw [if_neg gap, if_neg equal] at checked
        cases checked
  obtain ⟨reached, pool, poolIdx, prebatchid, template, queued, stored, expected, lost⟩ := booked
  have batches := batch_inv_congr cfg _ st middle running.batches pool poolIdx prebatchid template queued stored
  have advanced := advance_batch_inv cfg _ (f.packetId / cfg.batchsize) middle batches (by rwa [stored])
  obtain ⟨advStored, advExpected, advLost, advBatch⟩ := advance_frame cfg (f.packetId / cfg.batchsize) middle
  have forward : st.prebatchid ≤ f.packetId / cfg.batchsize := by
    rw [← lastBatch]
    exact Nat.div_le_div_right (by omega)
  have inBatch : f.packetId / cfg.batchsize = (advanceTo cfg (f.packetId / cfg.batchsize) middle).prebatchid := by
    rw [advBatch, prebatchid, max_eq_right forward]
  have newest : ∀ g ∈ (advanceTo cfg (f.packetId / cfg.batchsize) middle).stored, g.packetId < f.packetId := by
    rw [advStored, stored]
    exact fun g member => Nat.lt_of_lt_of_le (running.bounded g member) reached
  obtain ⟨_, _, nextStored, nextExpected, nextLost, _, nextBatch, _⟩ := store_packet_cases cfg _ next f done
  rw [advStored, stored] at nextStored
  have storedNonempty : (advanceTo cfg (f.packetId / cfg.batchsize) middle).stored ≠ [] := by rwa [advStored, stored]
  refine ⟨reached, nextStored, ?_, running.aligned,
    store_batch_inv cfg _ _ next f advanced inBatch newest (fun empty => absurd empty storedNonempty) done, ?_, ?_, ?_⟩
  · rw [nextStored, List.head?_append, running.head]
    rfl
  · rw [nextStored, nextExpected, advExpected, expected]
    intro g member
    rcases List.mem_append.mp member with old | new
    · have less := running.bounded g old
      omega
    · rw [List.mem_singleton.mp new]
      exact Nat.lt_succ_self f.packetId
  · exact ⟨f, by simp [nextStored], by rw [nextExpected, advExpected, expected], by rw [nextBatch, ← inBatch]⟩
  · rw [nextStored, nextExpected, nextLost, advExpected, advLost, expected, lost, List.length_append]
    have balance := running.balance
    simp only [List.length_singleton]
    omega

theorem publish_monitor_frame (st next : RecvState cfg) (f : Frame) (metadata : VDIF.Metadata)
    (done : publishMonitor cfg st f metadata = .ok next) : ∃ monitor, next = { st with monitor } := by
  unfold publishMonitor at done
  extract_lets scheduled at done
  by_cases due : (cfg.subbandMonitor && (st.monitor.isNone || scheduled)) = true
  · rw [if_pos due] at done
    cases before : st.monitor with
    | none =>
        cases failure : cfg.monitorFailure with
        | none =>
            rw [before, failure] at done
            exact ⟨_, (Except.ok.inj done).symm⟩
        | some message => simp [before, failure] at done
    | some map =>
        rw [before] at done
        exact ⟨_, (Except.ok.inj done).symm⟩
  · rw [if_neg due] at done
    exact ⟨st.monitor, (Except.ok.inj done).symm⟩

theorem sequence_check_none (st : RecvState cfg) (frames : List (List Byte)) (inv : RecvInv cfg frames st) (f : Frame)
    (rejected : sequenceCheck cfg st f.packetId = none) : ¬ accepts cfg st.stored f := by
  rcases inv.phase with idle | ⟨origin, running⟩
  · rw [idle_accepts cfg st idle]
    intro aligned
    simp [sequenceCheck, idle.expected, aligned] at rejected
  · rw [running_accepts cfg st origin running]
    intro reached
    obtain ⟨last, _, lastNext, _⟩ := running.newest
    rw [sequenceCheck, if_neg (by omega)] at rejected
    by_cases gap : st.expectedPktId < f.packetId
    · simp [gap] at rejected
    · simp [show f.packetId = st.expectedPktId by omega] at rejected

theorem accept_inv (st middle next : RecvState cfg) (frames : List (List Byte)) (f : Frame)
    (inv : RecvInv cfg frames st) (checked : sequenceCheck cfg st f.packetId = some middle)
    (done : storePacket cfg (advanceTo cfg (f.packetId / cfg.batchsize) middle) f (metadataOf cfg f) = .ok next) :
    accepts cfg st.stored f ∧ next.stored = st.stored ++ [f] ∧ ∃ origin, Running cfg next origin := by
  rcases inv.phase with idle | ⟨origin, running⟩
  · obtain ⟨aligned, stored, started⟩ := idle_accept cfg st middle next f idle checked done
    exact ⟨(idle_accepts cfg st idle f).mpr aligned, by rw [stored, idle.stored, List.nil_append], f, started⟩
  · obtain ⟨reached, stored, continued⟩ := running_accept cfg st middle next origin f running checked done
    exact ⟨(running_accepts cfg st origin running f).mpr reached, stored, origin, continued⟩

theorem receive_inv (frames : List (List Byte)) (st next : RecvState cfg) (data : List Byte)
    (inv : RecvInv cfg frames st) (done : receive cfg st data = .ok next) : RecvInv cfg (frames ++ [data]) next := by
  by_cases size : data.length = expectedPktLen
  · rw [receive, dif_pos size, receiveSized] at done
    by_cases port : (⟨data, size⟩ : Frame).udpDstPort = cfg.destPort
    · rw [if_neg (not_not.mpr port)] at done
      have arrived : addressed cfg data = some ⟨data, size⟩ := by simp [addressed, size, port]
      have spec := accepted_snoc cfg frames data
      rw [arrived] at spec
      obtain ⟨counted, published, rest⟩ := Run.bind_ok _ _ _ done
      obtain ⟨monitor, same⟩ := publish_monitor_frame cfg _ _ _ _ published
      have counts : RecvInv cfg frames counted :=
        recv_inv_congr cfg frames st counted inv (by rw [same]) (by rw [same]) (by rw [same]) (by rw [same])
          (by rw [same]) (by rw [same]) (by rw [same]) (by rw [same])
      rw [show (VDIF.readMetadata (⟨data, size⟩ : Frame).vdif cfg.calMode).packetId = (⟨data, size⟩ : Frame).packetId
        from metadata_packet_id cfg ⟨data, size⟩] at rest
      cases checked : sequenceCheck cfg counted (⟨data, size⟩ : Frame).packetId with
      | none =>
          rw [checked] at rest
          have refused := sequence_check_none cfg counted frames counts ⟨data, size⟩ checked
          rw [counts.stored] at refused
          have unchanged : accepted cfg (frames ++ [data]) = accepted cfg frames := by
            rw [spec]
            exact if_neg refused
          cases rest
          have discarded : RecvInv cfg frames (countDiscard cfg counted) := by
            unfold countDiscard
            split
            · exact counts
            · exact recv_inv_congr cfg frames counted _ counts rfl rfl rfl rfl rfl rfl rfl rfl
          exact ⟨discarded.stored.trans unchanged.symm, discarded.phase⟩
      | some middle =>
          rw [checked] at rest
          obtain ⟨acceptedNow, stored, running⟩ := accept_inv cfg counted middle next frames _ counts checked rest
          rw [counts.stored] at acceptedNow
          refine ⟨?_, Or.inr running⟩
          rw [stored, counts.stored, spec]
          exact (if_pos acceptedNow).symm
    · rw [if_pos port] at done
      have ignored : addressed cfg data = none := by simp [addressed, size, port]
      have spec := accepted_snoc cfg frames data
      rw [ignored] at spec
      rw [← Except.ok.inj done]
      have counted := recv_inv_congr cfg frames st { st with misdirectedPackets := st.misdirectedPackets + 1 } inv
        rfl rfl rfl rfl rfl rfl rfl rfl
      exact ⟨counted.stored.trans spec.symm, counted.phase⟩
  · rw [receive, dif_neg size] at done
    have ignored : addressed cfg data = none := by simp [addressed, size]
    have spec := accepted_snoc cfg frames data
    rw [ignored] at spec
    rw [← Except.ok.inj done]
    exact ⟨inv.stored.trans spec.symm, inv.phase⟩

-- The consumer's writes reach neither an id nor the entry being filled.
theorem consumer_inv (frames : List (List Byte)) (st : RecvState cfg) (entry : Fin cfg.poolSize)
    (buffer : Fin cfg.batchsize → Packet) (other : entry ≠ st.poolIdx) (inv : RecvInv cfg frames st) :
    RecvInv cfg frames { st with pool := Function.update st.pool entry { st.pool entry with buffer } } := by
  have ids : ∀ e, (Function.update st.pool entry { st.pool entry with buffer } e).pktId = (st.pool e).pktId := by
    intro e
    rcases eq_or_ne e entry with same | different
    · rw [same, Function.update_self]
    · rw [Function.update_of_ne different]
  have filling : Function.update st.pool entry { st.pool entry with buffer } st.poolIdx = st.pool st.poolIdx :=
    Function.update_of_ne (Ne.symm other) _ _
  refine ⟨inv.stored, inv.phase.imp ?_ ?_⟩
  · intro idle
    exact ⟨idle.stored, idle.expected, idle.lost, idle.queued, fun e j => by rw [ids]; exact idle.ids e j⟩
  · rintro ⟨origin, running⟩
    have batches := running.batches
    refine ⟨origin, running.head, running.aligned, ⟨batches.template, ?_, ?_, ?_, batches.ordered, batches.reach,
      batches.lower, batches.queue, batches.finished⟩, running.bounded, running.newest, running.balance⟩
    · exact fun e j => by rw [ids]; exact batches.stale e j
    · exact (congrArg PacketBatch.batchId filling).trans batches.current
    · have current := batches.filling
      rwa [← filling] at current

theorem recv_step_inv (past : List (RecvEvent cfg)) (st : RecvState cfg) (event : RecvEvent cfg) (next : RecvState cfg)
    (inv : RecvInv cfg (arrivals cfg past) st) (done : recvStep cfg st event = .ok next) :
    RecvInv cfg (arrivals cfg (past ++ [event])) next := by
  rw [arrivals, List.filterMap_append]
  cases event with
  | frame data => exact receive_inv cfg (arrivals cfg past) st next data inv done
  | consumer entry buffer =>
      change RecvInv cfg (arrivals cfg past ++ []) next
      rw [List.append_nil]
      by_cases same : entry = st.poolIdx
      · rw [recvStep, if_pos same] at done
        rwa [← Except.ok.inj done]
      · rw [recvStep, if_neg same] at done
        rw [← Except.ok.inj done]
        exact consumer_inv cfg (arrivals cfg past) st entry buffer same inv

theorem recv_run_inv (events : List (RecvEvent cfg)) (st : RecvState cfg) (run : recv2mem cfg events = .ok st) :
    RecvInv cfg (arrivals cfg events) st := by
  apply Run.invariant (recvStep cfg) (RecvState.initial cfg) (fun past st => RecvInv cfg (arrivals cfg past) st) _
    (recv_step_inv cfg) events st run
  exact ⟨rfl, Or.inl ⟨rfl, rfl, rfl, rfl, fun _ _ => rfl⟩⟩

end SpectralLine
