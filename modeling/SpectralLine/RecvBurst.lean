import SpectralLine.Batching
import Mathlib.Data.List.Chain

set_option autoImplicit false

namespace SpectralLine

-- Packets a receive burst may return.
def burstSize : Nat := 256

structure Mbuf where
  address : Nat
  data : List Byte

-- The numbers of the 2 s packet loss report.
structure LossReport where
  events : Nat
  lost : Nat
  totalEvents : Nat
  totalLost : Nat
  received : Nat
  latestGap : Nat
  recvPacketId : Nat
  expectedPktId : Nat

-- The outer loop of recv2mem around the packet state. `reports` and `freed`
-- are ghost logs: the warnings with their times, the mbufs given back.
structure BurstState (cfg : StreamConfig) where
  recv : RecvState cfg
  pendingLossEvents : Nat
  pendingLostPackets : Nat
  latestLossPackets : Nat
  latestLossRecvId : Nat
  latestLossExpectedId : Nat
  lastLossReportCycles : Nat
  freeBufs : List Nat
  reports : List (Nat × LossReport)
  freed : List Nat

variable (cfg : StreamConfig)

def BurstState.initial : BurstState cfg where
  recv := RecvState.initial cfg
  pendingLossEvents := 0
  pendingLostPackets := 0
  latestLossPackets := 0
  latestLossRecvId := 0
  latestLossExpectedId := 0
  lastLossReportCycles := 0
  freeBufs := []
  reports := []
  freed := []

-- now - last_loss_report_cycles, on uint64_t.
def cyclesBetween (last now : Nat) : Nat := (now + 2 ^ 64 - last) % 2 ^ 64

-- Nothing is pending, or the last report is too recent.
def reportHeld (interval now : Nat) (st : BurstState cfg) : Prop :=
  st.pendingLossEvents = 0 ∨ st.lastLossReportCycles ≠ 0 ∧ cyclesBetween st.lastLossReportCycles now < interval

instance (interval now : Nat) (st : BurstState cfg) : Decidable (reportHeld cfg interval now st) :=
  inferInstanceAs (Decidable (_ ∨ _ ∧ _))

def lossReport (st : BurstState cfg) : LossReport where
  events := st.pendingLossEvents
  lost := st.pendingLostPackets
  totalEvents := st.recv.lossEvents
  totalLost := st.recv.totalLostnmber
  received := st.recv.totalPkts
  latestGap := st.latestLossPackets
  recvPacketId := st.latestLossRecvId
  expectedPktId := st.latestLossExpectedId

def reportPendingLoss (interval now : Nat) (st : BurstState cfg) : BurstState cfg :=
  if reportHeld cfg interval now st then st
  else
    { st with
      reports := st.reports ++ [(now, lossReport cfg st)]
      pendingLossEvents := 0
      pendingLostPackets := 0
      lastLossReportCycles := now }

-- The branch of the sequence check that sees a forward gap.
def forwardGap (st : RecvState cfg) (f : Frame) : Prop :=
  f.udpDstPort = cfg.destPort ∧ st.expectedPktId ≠ 0 ∧ st.expectedPktId < (metadataOf cfg f).packetId

instance (st : RecvState cfg) (f : Frame) : Decidable (forwardGap cfg st f) := inferInstanceAs (Decidable (_ ∧ _ ∧ _))

def bookLoss (interval now : Nat) (expected id : Nat) (st : BurstState cfg) : BurstState cfg :=
  reportPendingLoss cfg interval now
    { st with
      pendingLossEvents := st.pendingLossEvents + 1
      pendingLostPackets := st.pendingLostPackets + (id - expected)
      latestLossPackets := id - expected
      latestLossRecvId := id
      latestLossExpectedId := expected }

-- One packet of a burst; `now` is the clock should a report be due. A wrong
-- length is freed at once, anything else at the end of the burst.
def takeMbuf (interval now : Nat) (st : BurstState cfg) (mbuf : Mbuf) : Except String (BurstState cfg) :=
  if size : mbuf.data.length = expectedPktLen then do
    let f : Frame := ⟨mbuf.data, size⟩
    let recv ← receiveSized cfg st.recv f
    let next := { st with recv, freeBufs := st.freeBufs ++ [mbuf.address] }
    return if forwardGap cfg st.recv f then bookLoss cfg interval now st.recv.expectedPktId (metadataOf cfg f).packetId next else next
  else .ok { st with freed := st.freed ++ [mbuf.address] }

inductive BurstEvent where
  | packet (now : Nat) (mbuf : Mbuf)
  | endOfBurst (now : Nat)
  | consumer (entry : Fin cfg.poolSize) (buffer : Fin cfg.batchsize → Packet)

-- rte_pktmbuf_free_bulk and the closing report; an empty burst comes here too.
def endBurst (interval now : Nat) (st : BurstState cfg) : BurstState cfg :=
  reportPendingLoss cfg interval now { st with freed := st.freed ++ st.freeBufs, freeBufs := [] }

def burstStep (interval : Nat) (st : BurstState cfg) : BurstEvent cfg → Except String (BurstState cfg)
  | .packet now mbuf => takeMbuf cfg interval now st mbuf
  | .endOfBurst now => .ok (endBurst cfg interval now st)
  | .consumer entry buffer => do
      let recv ← recvStep cfg st.recv (.consumer entry buffer)
      return { st with recv }

def burstRun (interval : Nat) (events : List (BurstEvent cfg)) : Except String (BurstState cfg) :=
  events.foldlM (burstStep cfg interval) (BurstState.initial cfg)

def recvEvent : BurstEvent cfg → Option (RecvEvent cfg)
  | .packet _ mbuf => some (.frame mbuf.data)
  | .endOfBurst _ => none
  | .consumer entry buffer => some (.consumer entry buffer)

def mbufOf : BurstEvent cfg → Option Nat
  | .packet _ mbuf => some mbuf.address
  | _ => none

def mbufs (events : List (BurstEvent cfg)) : List Nat := events.filterMap (mbufOf cfg)

-- The mbufs of the burst being processed.
def openBurst (events : List (BurstEvent cfg)) : List Nat :=
  events.foldl (fun burst event =>
    match event with
    | .packet _ mbuf => burst ++ [mbuf.address]
    | .endOfBurst _ => []
    | .consumer _ _ => burst) []

theorem report_kept (interval now : Nat) (st : BurstState cfg) :
    (reportPendingLoss cfg interval now st).recv = st.recv ∧
    (reportPendingLoss cfg interval now st).freeBufs = st.freeBufs ∧
    (reportPendingLoss cfg interval now st).freed = st.freed := by
  rw [reportPendingLoss]
  split <;> exact ⟨rfl, rfl, rfl⟩

-- What taking one mbuf can do.
theorem take_mbuf_cases (interval now : Nat) (st next : BurstState cfg) (mbuf : Mbuf)
    (done : takeMbuf cfg interval now st mbuf = .ok next) :
    (mbuf.data.length ≠ expectedPktLen ∧ next = { st with freed := st.freed ++ [mbuf.address] }) ∨
    ∃ size : mbuf.data.length = expectedPktLen, ∃ recv, receiveSized cfg st.recv ⟨mbuf.data, size⟩ = .ok recv ∧
      next = if forwardGap cfg st.recv ⟨mbuf.data, size⟩ then
          bookLoss cfg interval now st.recv.expectedPktId (metadataOf cfg ⟨mbuf.data, size⟩).packetId
            { st with recv, freeBufs := st.freeBufs ++ [mbuf.address] }
        else { st with recv, freeBufs := st.freeBufs ++ [mbuf.address] } := by
  by_cases size : mbuf.data.length = expectedPktLen
  · rw [takeMbuf, dif_pos size] at done
    obtain ⟨recv, received, rest⟩ := Run.bind_ok _ _ _ done
    exact Or.inr ⟨size, recv, received, (Except.ok.inj rest).symm⟩
  · rw [takeMbuf, dif_neg size] at done
    exact Or.inl ⟨size, (Except.ok.inj done).symm⟩

theorem take_mbuf_frame (interval now : Nat) (st next : BurstState cfg) (mbuf : Mbuf)
    (done : takeMbuf cfg interval now st mbuf = .ok next) :
    receive cfg st.recv mbuf.data = .ok next.recv ∧
    (next.freed = st.freed ++ [mbuf.address] ∧ next.freeBufs = st.freeBufs ∨
      next.freed = st.freed ∧ next.freeBufs = st.freeBufs ++ [mbuf.address]) := by
  rcases take_mbuf_cases cfg interval now st next mbuf done with ⟨size, rfl⟩ | ⟨size, recv, received, same⟩
  · refine ⟨?_, Or.inl ⟨rfl, rfl⟩⟩
    rw [receive, dif_neg size]
  · have kept : next.recv = recv ∧ next.freeBufs = st.freeBufs ++ [mbuf.address] ∧ next.freed = st.freed := by
      rw [same]
      split
      · exact report_kept cfg interval now _
      · exact ⟨rfl, rfl, rfl⟩
    refine ⟨?_, Or.inr ⟨kept.2.2, kept.2.1⟩⟩
    rw [receive, dif_pos size, received, kept.1]

structure BurstInv (past : List (BurstEvent cfg)) (st : BurstState cfg) : Prop where
  refined : recv2mem cfg (past.filterMap (recvEvent cfg)) = .ok st.recv
  released : (st.freed ++ st.freeBufs).Perm (mbufs cfg past)
  held : st.freeBufs.Sublist (openBurst cfg past)

theorem recv_run_snoc (past : List (RecvEvent cfg)) (event : RecvEvent cfg) (st next : RecvState cfg)
    (before : recv2mem cfg past = .ok st) (taken : recvStep cfg st event = .ok next) :
    recv2mem cfg (past ++ [event]) = .ok next := by
  rw [recv2mem] at before ⊢
  rw [List.foldlM_append, before]
  change recvStep cfg st event >>= _ = _
  rw [taken]
  rfl

theorem burst_step_inv (interval : Nat) (past : List (BurstEvent cfg)) (st : BurstState cfg) (event : BurstEvent cfg)
    (next : BurstState cfg) (inv : BurstInv cfg past st) (done : burstStep cfg interval st event = .ok next) :
    BurstInv cfg (past ++ [event]) next := by
  have opened : ∀ event, openBurst cfg (past ++ [event]) = _ := fun event => List.foldl_append
  have listed : mbufs cfg (past ++ [event]) = mbufs cfg past ++ mbufs cfg [event] := List.filterMap_append
  have events : (past ++ [event]).filterMap (recvEvent cfg) = past.filterMap (recvEvent cfg) ++ [event].filterMap (recvEvent cfg) :=
    List.filterMap_append
  cases event with
  | packet now mbuf =>
      obtain ⟨received, places⟩ := take_mbuf_frame cfg interval now st next mbuf done
      refine ⟨?_, ?_, ?_⟩
      · rw [events]
        exact recv_run_snoc cfg _ (.frame mbuf.data) st.recv next.recv inv.refined received
      · rw [listed]
        change (next.freed ++ next.freeBufs).Perm (mbufs cfg past ++ [mbuf.address])
        have joined : (next.freed ++ next.freeBufs).Perm ((st.freed ++ st.freeBufs) ++ [mbuf.address]) := by
          rcases places with ⟨freed, bufs⟩ | ⟨freed, bufs⟩
          · rw [freed, bufs, List.append_assoc, List.append_assoc]
            exact List.perm_append_comm.append_left _
          · rw [freed, bufs, List.append_assoc]
        exact joined.trans (inv.released.append_right _)
      · rw [opened]
        rcases places with ⟨_, bufs⟩ | ⟨_, bufs⟩
        · rw [bufs]
          exact inv.held.trans (List.sublist_append_left _ _)
        · rw [bufs]
          exact inv.held.append (List.Sublist.refl _)
  | endOfBurst now =>
      have same := Except.ok.inj done
      obtain ⟨recv, bufs, freed⟩ := report_kept cfg interval now { st with freed := st.freed ++ st.freeBufs, freeBufs := [] }
      rw [endBurst] at same
      refine ⟨?_, ?_, ?_⟩
      · rw [events, ← same, recv]
        exact (congrArg (recv2mem cfg) (List.append_nil _)).trans inv.refined
      · rw [listed, ← same, bufs, freed, List.append_nil]
        exact (List.append_nil (mbufs cfg past)).symm ▸ inv.released
      · rw [← same, bufs]
        exact List.nil_sublist _
  | consumer entry buffer =>
      obtain ⟨recv, taken, rest⟩ := Run.bind_ok _ _ _ done
      cases rest
      refine ⟨?_, ?_, ?_⟩
      · rw [events]
        exact recv_run_snoc cfg _ _ st.recv recv inv.refined taken
      · rw [listed]
        exact (List.append_nil (mbufs cfg past)).symm ▸ inv.released
      · rw [opened]
        exact inv.held

-- What rte_eth_rx_burst promises.
def BurstsFit (events : List (BurstEvent cfg)) : Prop := ∀ past, past <+: events → (openBurst cfg past).length ≤ burstSize

theorem burst_run_inv (interval : Nat) (events : List (BurstEvent cfg)) (st : BurstState cfg)
    (run : burstRun cfg interval events = .ok st) : BurstInv cfg events st := by
  refine Run.invariant (burstStep cfg interval) (BurstState.initial cfg) (BurstInv cfg) ?_ (burst_step_inv cfg interval) events st run
  exact ⟨rfl, List.Perm.refl _, List.Sublist.refl _⟩

-- Only the monitor file can stop the loop.
theorem burst_step_ok (interval : Nat) (working : cfg.subbandMonitor = false ∨ cfg.monitorFailure = none) (st : BurstState cfg)
    (event : BurstEvent cfg) : ∃ next, burstStep cfg interval st event = .ok next := by
  cases event with
  | packet now mbuf =>
      by_cases size : mbuf.data.length = expectedPktLen
      · obtain ⟨recv, taken⟩ := recv_step_ok cfg working st.recv (.frame mbuf.data)
        rw [recvStep, receive, dif_pos size] at taken
        exact ⟨_, by simp only [burstStep, takeMbuf, dif_pos size, taken]; rfl⟩
      · exact ⟨_, by rw [burstStep, takeMbuf, dif_neg size]⟩
  | endOfBurst now => exact ⟨_, rfl⟩
  | consumer entry buffer =>
      obtain ⟨recv, taken⟩ := recv_step_ok cfg working st.recv (.consumer entry buffer)
      exact ⟨{ st with recv }, by rw [burstStep, taken]; rfl⟩

theorem burst_total (interval : Nat) (working : cfg.subbandMonitor = false ∨ cfg.monitorFailure = none)
    (events : List (BurstEvent cfg)) : ∃ st, burstRun cfg interval events = .ok st := by
  induction events using List.reverseRecOn with
  | nil => exact ⟨BurstState.initial cfg, rfl⟩
  | append_singleton past event ih =>
      obtain ⟨middle, before⟩ := ih
      obtain ⟨next, step⟩ := burst_step_ok cfg interval working middle event
      refine ⟨next, ?_⟩
      rw [burstRun] at before
      rw [burstRun, List.foldlM_append, before]
      change burstStep cfg interval middle event >>= _ = _
      rw [step]
      rfl

-- However the packets are cut into bursts: the packet state is that of their
-- sequence, free_bufs never overflows, and every mbuf of the bursts so far has
-- been given back once, but for those of the open burst that wait in it.
theorem mbufs_released (interval : Nat) (events : List (BurstEvent cfg)) (fit : BurstsFit cfg events)
    (working : cfg.subbandMonitor = false ∨ cfg.monitorFailure = none) :
    ∃ st, burstRun cfg interval events = .ok st ∧
      recv2mem cfg (events.filterMap (recvEvent cfg)) = .ok st.recv ∧ st.freeBufs.length ≤ burstSize ∧
      (st.freed ++ st.freeBufs).Perm (mbufs cfg events) ∧ (openBurst cfg events = [] → st.freed.Perm (mbufs cfg events)) := by
  obtain ⟨st, run⟩ := burst_total cfg interval working events
  have inv := burst_run_inv cfg interval events st run
  refine ⟨st, run, inv.refined, inv.held.length_le.trans (fit events List.prefix_rfl), inv.released, fun closed => ?_⟩
  have empty : st.freeBufs = [] := by
    have held := inv.held
    rw [closed] at held
    exact List.eq_nil_of_sublist_nil held
  have released := inv.released
  rwa [empty, List.append_nil] at released

theorem open_burst_length (events : List (BurstEvent cfg)) : (openBurst cfg events).length ≤ events.length := by
  induction events using List.reverseRecOn with
  | nil => exact le_refl 0
  | append_singleton past event ih =>
      rw [openBurst, List.foldl_append, List.length_append]
      cases event with
      | packet now mbuf =>
          change (openBurst cfg past ++ [mbuf.address]).length ≤ past.length + 1
          rw [List.length_append]
          exact Nat.add_le_add_right ih 1
      | endOfBurst now => exact Nat.zero_le _
      | consumer entry buffer => exact ih.trans (Nat.le_add_right _ _)

-- Packets 1 to 15 are lost; the last mbuf is a runt.
def lossyBurst : List (BurstEvent sampleStream) :=
  [.packet 100 ⟨1, (sampleFrame 0).data⟩, .packet 101 ⟨2, (sampleFrame 16).data⟩, .packet 101 ⟨3, []⟩, .endOfBurst 102]

theorem mbufs_released_lossy : ∃ st, burstRun sampleStream 50 lossyBurst = .ok st ∧
    recv2mem sampleStream (lossyBurst.filterMap (recvEvent sampleStream)) = .ok st.recv ∧ st.freeBufs.length ≤ 256 ∧
    (st.freed ++ st.freeBufs).Perm [1, 2, 3] ∧ ((openBurst sampleStream lossyBurst = []) → st.freed.Perm [1, 2, 3]) :=
  mbufs_released sampleStream 50 lossyBurst
    (fun past start => (open_burst_length sampleStream past).trans (start.length_le.trans (by decide))) (Or.inl rfl)

theorem advance_losses (batchid : Nat) (st : RecvState cfg) : (advanceTo cfg batchid st).lossEvents = st.lossEvents := by
  fun_induction advanceTo cfg batchid st with
  | case1 st behind ih => exact ih
  | case2 st reached => rfl

theorem store_losses (st next : RecvState cfg) (f : Frame) (done : storePacket cfg st f (metadataOf cfg f) = .ok next) :
    next.lossEvents = st.lossEvents ∧ next.totalLostnmber = st.totalLostnmber := by
  obtain ⟨header, recorded, rest⟩ := Run.bind_ok _ _ _ done
  cases rest
  by_cases first : (st.pool st.poolIdx).receivedCount = 0 <;> simp [first]

theorem check_losses (st next : RecvState cfg) (id : Nat) (checked : sequenceCheck cfg st id = some next) :
    next.totalLostnmber = st.totalLostnmber + (if st.expectedPktId ≠ 0 ∧ st.expectedPktId < id then id - st.expectedPktId else 0) ∧
    next.lossEvents = st.lossEvents + if st.expectedPktId ≠ 0 ∧ st.expectedPktId < id then 1 else 0 := by
  rw [sequenceCheck] at checked
  by_cases first : st.expectedPktId = 0
  · have none_ : ¬ (st.expectedPktId ≠ 0 ∧ st.expectedPktId < id) := fun both => both.1 first
    rw [if_pos first] at checked
    rw [if_neg none_, if_neg none_]
    split at checked
    · cases checked
    · rw [← Option.some.inj checked]
      exact ⟨rfl, rfl⟩
  · rw [if_neg first] at checked
    by_cases gap : st.expectedPktId < id
    · rw [if_pos gap] at checked
      rw [if_pos ⟨first, gap⟩, if_pos ⟨first, gap⟩, ← Option.some.inj checked]
      exact ⟨rfl, rfl⟩
    · have none_ : ¬ (st.expectedPktId ≠ 0 ∧ st.expectedPktId < id) := fun both => gap both.2
      rw [if_neg gap] at checked
      rw [if_neg none_, if_neg none_]
      split at checked
      · rw [← Option.some.inj checked]
        exact ⟨rfl, rfl⟩
      · cases checked

theorem check_discards (st : RecvState cfg) (id : Nat) (rejected : sequenceCheck cfg st id = none) :
    ¬ (st.expectedPktId ≠ 0 ∧ st.expectedPktId < id) := by
  rintro ⟨started, gap⟩
  rw [sequenceCheck, if_neg started, if_pos gap] at rejected
  cases rejected

-- What one packet adds to the loss counters.
theorem receive_losses (st next : RecvState cfg) (f : Frame) (done : receiveSized cfg st f = .ok next) :
    next.totalLostnmber = st.totalLostnmber + (if forwardGap cfg st f then (metadataOf cfg f).packetId - st.expectedPktId else 0) ∧
    next.lossEvents = st.lossEvents + if forwardGap cfg st f then 1 else 0 := by
  rw [receiveSized] at done
  by_cases port : f.udpDstPort = cfg.destPort
  · rw [if_neg (not_not.mpr port)] at done
    obtain ⟨counted, published, rest⟩ := Run.bind_ok _ _ _ done
    obtain ⟨monitor, rfl⟩ := publish_monitor_frame cfg _ _ _ _ published
    have branch : forwardGap cfg st f ↔ st.expectedPktId ≠ 0 ∧ st.expectedPktId < (metadataOf cfg f).packetId := and_iff_right port
    simp only [branch]
    generalize seen : ({ st with totalPkts := st.totalPkts + 1, monitor } : RecvState cfg) = counted at rest
    have kept : counted.expectedPktId = st.expectedPktId ∧ counted.totalLostnmber = st.totalLostnmber ∧
        counted.lossEvents = st.lossEvents := by
      rw [← seen]
      exact ⟨rfl, rfl, rfl⟩
    cases checked : sequenceCheck cfg counted (metadataOf cfg f).packetId with
    | none =>
        have discards := check_discards cfg counted _ checked
        rw [kept.1] at discards
        rw [checked] at rest
        have discarded : next.lossEvents = counted.lossEvents ∧ next.totalLostnmber = counted.totalLostnmber := by
          rw [← Except.ok.inj rest, countDiscard]
          split <;> exact ⟨rfl, rfl⟩
        rw [if_neg discards, if_neg discards, discarded.1, discarded.2, kept.2.1, kept.2.2]
        exact ⟨rfl, rfl⟩
    | some middle =>
        have losses := check_losses cfg counted middle _ checked
        rw [checked] at rest
        obtain ⟨events, lost⟩ := store_losses cfg _ _ f rest
        rw [(advance_frame cfg _ _).2.2.1] at lost
        rw [advance_losses] at events
        rw [kept.1, kept.2.1, kept.2.2] at losses
        rw [lost, events]
        exact losses
  · have none_ : ¬ forwardGap cfg st f := fun gap => port gap.1
    rw [if_pos port] at done
    rw [if_neg none_, if_neg none_, ← Except.ok.inj done]
    exact ⟨rfl, rfl⟩

def reportTimes (st : BurstState cfg) : List Nat := st.reports.map Prod.fst

def reportedLost (reports : List (Nat × LossReport)) : Nat := (reports.map fun entry => entry.2.lost).sum

def reportedEvents (reports : List (Nat × LossReport)) : Nat := (reports.map fun entry => entry.2.events).sum

-- The books of the loss reports at the clock's last reading.
structure Booked (interval clock : Nat) (st : BurstState cfg) : Prop where
  lost : reportedLost st.reports + st.pendingLostPackets = st.recv.totalLostnmber
  events : reportedEvents st.reports + st.pendingLossEvents = st.recv.lossEvents
  last : st.lastLossReportCycles = (reportTimes cfg st).getLast?.getD 0
  positive : ∀ time ∈ reportTimes cfg st, 0 < time
  past : st.lastLossReportCycles ≤ clock
  spaced : (reportTimes cfg st).IsChain fun a b => a + interval ≤ b
  totals : ∀ before entry after, st.reports = before ++ entry :: after → entry.2.totalLost = reportedLost (before ++ [entry])

theorem cycles_between (last now : Nat) (ordered : last ≤ now) (small : now < 2 ^ 64) : cyclesBetween last now = now - last := by
  have turned : now + 2 ^ 64 - last = now - last + 2 ^ 64 := by omega
  rw [cyclesBetween, turned, Nat.add_mod_right, Nat.mod_eq_of_lt (by omega)]

theorem report_booked (interval clock now : Nat) (st : BurstState cfg) (booked : Booked cfg interval clock st) (later : clock ≤ now)
    (positive : 0 < now) (small : now < 2 ^ 64) :
    Booked cfg interval now (reportPendingLoss cfg interval now st) ∧
    ((reportPendingLoss cfg interval now st).pendingLossEvents = 0 ∨
      ∃ time, (reportTimes cfg (reportPendingLoss cfg interval now st)).getLast? = some time ∧ now < time + interval) := by
  have ordered := booked.past.trans later
  rw [reportPendingLoss]
  by_cases held : reportHeld cfg interval now st
  · rw [if_pos held]
    refine ⟨⟨booked.lost, booked.events, booked.last, booked.positive, ordered, booked.spaced, booked.totals⟩, ?_⟩
    rcases held with nothing | ⟨reported, recent⟩
    · exact Or.inl nothing
    · rw [cycles_between _ _ ordered small] at recent
      rw [booked.last] at reported recent ordered
      cases newest : (reportTimes cfg st).getLast? with
      | none =>
          rw [newest] at reported
          exact absurd rfl reported
      | some time =>
          rw [newest, Option.getD_some] at recent ordered
          exact Or.inr ⟨time, rfl, by omega⟩
  · rw [if_neg held]
    have times : st.reports.map Prod.fst ++ [now] = (st.reports ++ [(now, lossReport cfg st)]).map Prod.fst := by
      rw [List.map_append]
      rfl
    have due : st.lastLossReportCycles = 0 ∨ st.lastLossReportCycles + interval ≤ now := by
      by_cases never : st.lastLossReportCycles = 0
      · exact Or.inl never
      · have old : ¬ cyclesBetween st.lastLossReportCycles now < interval := fun recent => held (Or.inr ⟨never, recent⟩)
        rw [cycles_between _ _ ordered small] at old
        exact Or.inr (by omega)
    refine ⟨⟨?_, ?_, ?_, ?_, le_refl now, ?_, ?_⟩, Or.inl rfl⟩
    · rw [reportedLost, List.map_append, List.sum_append]
      exact booked.lost
    · rw [reportedEvents, List.map_append, List.sum_append]
      exact booked.events
    · rw [reportTimes, ← times, List.getLast?_concat]
      rfl
    · intro time member
      rw [reportTimes, ← times, List.mem_append, List.mem_singleton] at member
      rcases member with old | rfl
      · exact booked.positive time old
      · exact positive
    · rw [reportTimes, ← times, List.isChain_append]
      refine ⟨booked.spaced, List.isChain_singleton _, ?_⟩
      intro time newest other only
      cases only
      have reached := booked.last
      rw [reportTimes, newest, Option.getD_some] at reached
      have began := booked.positive time (List.mem_of_getLast? newest)
      omega
    · intro before entry after same
      rcases List.eq_nil_or_concat' after with rfl | ⟨rest, newest, rfl⟩
      · obtain ⟨front, last⟩ := List.append_inj' same rfl
        cases last
        rw [← front, reportedLost, List.map_append, List.sum_append]
        exact booked.lost.symm
      · have split : st.reports ++ [(now, lossReport cfg st)] = (before ++ entry :: rest) ++ [newest] :=
          same.trans (by rw [List.append_assoc, List.cons_append])
        obtain ⟨front, last⟩ := List.append_inj' split rfl
        exact booked.totals before entry rest front

-- A gap is booked with the counters of the packet that showed it.
theorem packet_booked (interval clock now : Nat) (st next : BurstState cfg) (mbuf : Mbuf) (booked : Booked cfg interval clock st)
    (later : clock ≤ now) (positive : 0 < now) (small : now < 2 ^ 64) (done : takeMbuf cfg interval now st mbuf = .ok next) :
    Booked cfg interval now next := by
  rcases take_mbuf_cases cfg interval now st next mbuf done with ⟨_, rfl⟩ | ⟨size, recv, received, same⟩
  · exact ⟨booked.lost, booked.events, booked.last, booked.positive, booked.past.trans later, booked.spaced, booked.totals⟩
  · obtain ⟨lost, events⟩ := receive_losses cfg st.recv recv _ received
    by_cases gap : forwardGap cfg st.recv ⟨mbuf.data, size⟩
    · rw [if_pos gap] at same lost events
      rw [same, bookLoss]
      refine (report_booked cfg interval clock now _ ?_ later positive small).1
      refine ⟨?_, ?_, booked.last, booked.positive, booked.past, booked.spaced, booked.totals⟩
      · change reportedLost st.reports + (st.pendingLostPackets + _) = recv.totalLostnmber
        rw [lost, ← booked.lost, Nat.add_assoc]
      · change reportedEvents st.reports + (st.pendingLossEvents + 1) = recv.lossEvents
        rw [events, ← booked.events, Nat.add_assoc]
    · rw [if_neg gap] at same lost events
      rw [same]
      refine ⟨?_, ?_, booked.last, booked.positive, booked.past.trans later, booked.spaced, booked.totals⟩
      · exact booked.lost.trans lost.symm
      · exact booked.events.trans events.symm

def clockOf : BurstEvent cfg → Option Nat
  | .packet now _ => some now
  | .endOfBurst now => some now
  | .consumer _ _ => none

-- The cycle counter started before the thread and does not wrap.
structure Clock (events : List (BurstEvent cfg)) : Prop where
  monotone : (events.filterMap (clockOf cfg)).Pairwise (· ≤ ·)
  positive : ∀ time ∈ events.filterMap (clockOf cfg), 0 < time
  small : ∀ time ∈ events.filterMap (clockOf cfg), time < 2 ^ 64

theorem consumer_losses (st next : RecvState cfg) (entry : Fin cfg.poolSize) (buffer : Fin cfg.batchsize → Packet)
    (taken : recvStep cfg st (.consumer entry buffer) = .ok next) :
    next.totalLostnmber = st.totalLostnmber ∧ next.lossEvents = st.lossEvents := by
  rw [recvStep] at taken
  split at taken
  · cases taken
    exact ⟨rfl, rfl⟩
  · cases taken
    exact ⟨rfl, rfl⟩

def lastClock (events : List (BurstEvent cfg)) : Nat := (events.filterMap (clockOf cfg)).getLast?.getD 0

theorem last_clock_le (events : List (BurstEvent cfg)) (event : BurstEvent cfg) (now : Nat) (read : clockOf cfg event = some now)
    (clock : Clock cfg (events ++ [event])) :
    lastClock cfg events ≤ now ∧ lastClock cfg (events ++ [event]) = now ∧ 0 < now ∧ now < 2 ^ 64 := by
  have times : (events ++ [event]).filterMap (clockOf cfg) = events.filterMap (clockOf cfg) ++ [now] := by
    rw [List.filterMap_append, List.filterMap_cons, read]
    rfl
  have monotone := clock.monotone
  have positive := clock.positive now
  have small := clock.small now
  rw [times] at monotone positive small
  have member : now ∈ events.filterMap (clockOf cfg) ++ [now] := List.mem_append_right _ List.mem_cons_self
  refine ⟨?_, ?_, positive member, small member⟩
  · rw [lastClock]
    cases newest : (events.filterMap (clockOf cfg)).getLast? with
    | none => exact Nat.zero_le now
    | some time => exact (List.pairwise_append.mp monotone).2.2 time (List.mem_of_getLast? newest) now List.mem_cons_self
  · rw [lastClock, times, List.getLast?_concat]
    rfl

theorem clock_before (past : List (BurstEvent cfg)) (event : BurstEvent cfg) (clock : Clock cfg (past ++ [event])) : Clock cfg past := by
  obtain ⟨monotone, positive, small⟩ := clock
  rw [List.filterMap_append] at monotone positive small
  exact ⟨(List.pairwise_append.mp monotone).1, fun time member => positive time (List.mem_append_left _ member),
    fun time member => small time (List.mem_append_left _ member)⟩

theorem burst_booked (interval : Nat) (past : List (BurstEvent cfg)) (st : BurstState cfg) (event : BurstEvent cfg)
    (next : BurstState cfg) (clock : Clock cfg (past ++ [event])) (booked : Booked cfg interval (lastClock cfg past) st)
    (done : burstStep cfg interval st event = .ok next) : Booked cfg interval (lastClock cfg (past ++ [event])) next := by
  cases event with
  | packet now mbuf =>
      obtain ⟨later, reads, positive, small⟩ := last_clock_le cfg past (.packet now mbuf) now rfl clock
      rw [reads]
      exact packet_booked cfg interval _ now st next mbuf booked later positive small done
  | endOfBurst now =>
      obtain ⟨later, reads, positive, small⟩ := last_clock_le cfg past (.endOfBurst now) now rfl clock
      rw [reads, ← Except.ok.inj done, endBurst]
      refine (report_booked cfg interval _ now _ ?_ later positive small).1
      exact ⟨booked.lost, booked.events, booked.last, booked.positive, booked.past, booked.spaced, booked.totals⟩
  | consumer entry buffer =>
      obtain ⟨recv, taken, rest⟩ := Run.bind_ok _ _ _ done
      obtain ⟨lost, events⟩ := consumer_losses cfg st.recv recv entry buffer taken
      cases rest
      have reads : lastClock cfg (past ++ [.consumer entry buffer]) = lastClock cfg past := by
        rw [lastClock, List.filterMap_append]
        exact congrArg (fun times => (List.getLast? times).getD 0) (List.append_nil _)
      rw [reads]
      exact ⟨booked.lost.trans lost.symm, booked.events.trans events.symm, booked.last, booked.positive, booked.past, booked.spaced,
        booked.totals⟩

theorem burst_run_booked (interval : Nat) (events : List (BurstEvent cfg)) (st : BurstState cfg) (clock : Clock cfg events)
    (run : burstRun cfg interval events = .ok st) : Booked cfg interval (lastClock cfg events) st := by
  refine Run.invariant (burstStep cfg interval) (BurstState.initial cfg)
    (fun past st => Clock cfg past → Booked cfg interval (lastClock cfg past) st) ?_ ?_ events st run clock
  · intro _
    refine ⟨rfl, rfl, rfl, ?_, Nat.zero_le _, List.isChain_nil, ?_⟩
    · intro time member
      cases member
    · intro before entry after same
      exact absurd same.symm (List.append_ne_nil_of_right_ne_nil before (List.cons_ne_nil entry after))
  · intro past st event next before done clock
    exact burst_booked cfg interval past st event next clock (before (clock_before cfg past event clock)) done

theorem newest_expected (st : RecvState cfg) (origin newest : Frame) (running : Running cfg st origin)
    (last : st.stored.getLast? = some newest) : newest.packetId + 1 = st.expectedPktId := by
  obtain ⟨f, member, next, _⟩ := running.newest
  have stored := List.mem_of_getLast? last
  have below := running.bounded newest stored
  have above : f.packetId ≤ newest.packetId := by
    obtain ⟨front, same⟩ := List.getLast?_eq_some_iff.mp last
    have ordered := running.batches.ordered
    rw [same] at member
    rw [idsAscend, same] at ordered
    rcases List.mem_append.mp member with early | only
    · exact ((List.pairwise_append.mp ordered).2.2 f early newest List.mem_cons_self).le
    · rw [List.mem_singleton.mp only]
  omega

-- The warnings tell the truth, all of it, and seldom: what they have reported
-- and what is pending is every packet id missing between the first and the
-- newest accepted one, reports keep the interval, each names the total up to
-- it, and at the end of a burst a loss waits only for the interval to pass.
theorem loss_reports (interval : Nat) (events : List (BurstEvent cfg)) (st : BurstState cfg) (clock : Clock cfg events)
    (run : burstRun cfg interval events = .ok st) :
    let taken := accepted cfg (arrivals cfg (events.filterMap (recvEvent cfg)))
    (∀ origin newest, taken.head? = some origin → taken.getLast? = some newest →
      origin.packetId + taken.length + (reportedLost st.reports + st.pendingLostPackets) = newest.packetId + 1) ∧
    reportedEvents st.reports + st.pendingLossEvents = st.recv.lossEvents ∧
    (∀ before entry after, st.reports = before ++ entry :: after → entry.2.totalLost = reportedLost (before ++ [entry])) ∧
    (reportTimes cfg st).IsChain (fun a b => a + interval ≤ b) ∧
    (∀ past now, events = past ++ [.endOfBurst now] →
      st.pendingLossEvents = 0 ∨ ∃ time, (reportTimes cfg st).getLast? = some time ∧ now < time + interval) := by
  intro taken
  have booked := burst_run_booked cfg interval events st clock run
  have inv := burst_run_inv cfg interval events st run
  have received := recv_run_inv cfg _ st.recv inv.refined
  refine ⟨?_, booked.events, booked.totals, booked.spaced, ?_⟩
  · intro origin newest first last
    rw [booked.lost]
    change (accepted cfg _).head? = some origin at first
    change (accepted cfg _).getLast? = some newest at last
    change origin.packetId + (accepted cfg _).length + _ = _
    rw [← received.stored] at first last ⊢
    rcases received.phase with idle | ⟨start, running⟩
    · rw [idle.stored] at first
      cases first
    · have same : start = origin := Option.some.inj (running.head.symm.trans first)
      rw [← same, running.balance, newest_expected cfg st.recv start newest running last]
  · rintro past now rfl
    rw [burstRun, List.foldlM_append] at run
    obtain ⟨middle, before, after⟩ := Run.bind_ok _ _ _ run
    obtain ⟨next, ended, same⟩ := Run.bind_ok _ _ _ after
    cases same
    obtain ⟨later, _, positive, small⟩ := last_clock_le cfg past (.endOfBurst now) now rfl clock
    have past_ := burst_run_booked cfg interval past middle (clock_before cfg past _ clock) before
    rw [← Except.ok.inj ended, endBurst]
    refine (report_booked cfg interval _ now _ ?_ later positive small).2
    exact ⟨past_.lost, past_.events, past_.last, past_.positive, past_.past, past_.spaced, past_.totals⟩

theorem lossy_clock : Clock sampleStream lossyBurst := by
  have times : lossyBurst.filterMap (clockOf sampleStream) = [100, 101, 101, 102] := rfl
  constructor
  · rw [times]
    decide
  · rw [times]
    decide
  · rw [times]
    decide

theorem loss_reports_lossy : ∃ st, burstRun sampleStream 50 lossyBurst = .ok st ∧
    reportedLost st.reports + st.pendingLostPackets = 15 := by
  obtain ⟨st, run⟩ := burst_total sampleStream 50 (Or.inl rfl) lossyBurst
  have books := (loss_reports sampleStream 50 lossyBurst st lossy_clock run).1 (sampleFrame 0) (sampleFrame 16)
  have taken : accepted sampleStream (arrivals sampleStream (lossyBurst.filterMap (recvEvent sampleStream))) =
      [sampleFrame 0, sampleFrame 16] :=
    (accepted_snoc sampleStream (arrivals sampleStream lossyEvents) []).trans lossy_accepted
  have first : (sampleFrame 0).packetId = 0 := sample_frame_id 0 (by decide)
  have second : (sampleFrame 16).packetId = 16 := sample_frame_id 16 (by decide)
  rw [taken, first, second] at books
  have balance : 0 + 2 + _ = 16 + 1 := books rfl rfl
  exact ⟨st, run, by omega⟩

end SpectralLine
