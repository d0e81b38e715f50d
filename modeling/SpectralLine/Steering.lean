import SpectralLine.Batching
import SpectralLine.LcoreParams
import Mathlib.Data.List.MinMax

set_option autoImplicit false

namespace SpectralLine

open Checked

section

variable (cfg : StreamConfig)

-- A counter for the log alone.
def forgetMisdirected (st : RecvState cfg) : RecvState cfg := { st with misdirectedPackets := 0 }

def forgotten (result : Except String (RecvState cfg)) : Except String (RecvState cfg) := result.map (forgetMisdirected cfg)

-- What is neither of the right length nor to the thread's own port leaves no
-- trace but that counter.
def ownEvent : RecvEvent cfg → Bool
  | .frame data => (addressed cfg data).isSome
  | .consumer _ _ => true

theorem rotate_forget (st : RecvState cfg) : rotate cfg (forgetMisdirected cfg st) = forgetMisdirected cfg (rotate cfg st) := rfl

theorem advance_forget (batchid : Nat) (st : RecvState cfg) :
    advanceTo cfg batchid (forgetMisdirected cfg st) = forgetMisdirected cfg (advanceTo cfg batchid st) := by
  fun_induction advanceTo cfg batchid st with
  | case1 st behind ih =>
      rw [advanceTo, if_pos (show (forgetMisdirected cfg st).prebatchid < batchid from behind), rotate_forget]
      exact ih
  | case2 st reached => rw [advanceTo, if_neg (show ¬ (forgetMisdirected cfg st).prebatchid < batchid from reached)]

theorem sequence_forget (st : RecvState cfg) (id : Nat) :
    sequenceCheck cfg (forgetMisdirected cfg st) id = (sequenceCheck cfg st id).map (forgetMisdirected cfg) := by
  have kept : (forgetMisdirected cfg st).expectedPktId = st.expectedPktId := rfl
  rw [sequenceCheck, sequenceCheck, kept]
  by_cases waiting : st.expectedPktId = 0
  · rw [if_pos waiting, if_pos waiting]
    by_cases between : id % cfg.batchsize ≠ 0
    · rw [if_pos between, if_pos between]
      rfl
    · rw [if_neg between, if_neg between]
      rfl
  · rw [if_neg waiting, if_neg waiting]
    by_cases gap : st.expectedPktId < id
    · rw [if_pos gap, if_pos gap]
      rfl
    · rw [if_neg gap, if_neg gap]
      by_cases next : id = st.expectedPktId
      · rw [if_pos next, if_pos next]
        rfl
      · rw [if_neg next, if_neg next]
        rfl

theorem store_forget (st : RecvState cfg) (f : Frame) (metadata : VDIF.Metadata) :
    storePacket cfg (forgetMisdirected cfg st) f metadata = forgotten cfg (storePacket cfg st f metadata) := by
  obtain ⟨header, recorded⟩ := stored_header_ok cfg f.vdif
  rw [storePacket, storePacket, recorded]
  by_cases first : (st.pool st.poolIdx).receivedCount = 0
  · simp only [forgetMisdirected, first, if_true]
    rfl
  · simp only [forgetMisdirected, first, if_false]
    rfl

theorem discard_forget (st : RecvState cfg) : countDiscard cfg (forgetMisdirected cfg st) = forgetMisdirected cfg (countDiscard cfg st) := by
  have kept : (forgetMisdirected cfg st).expectedPktId = st.expectedPktId := rfl
  rw [countDiscard, countDiscard, kept]
  by_cases waiting : st.expectedPktId = 0
  · rw [if_pos waiting, if_pos waiting]
  · rw [if_neg waiting, if_neg waiting]
    rfl

theorem publish_forget (st : RecvState cfg) (f : Frame) (metadata : VDIF.Metadata) :
    publishMonitor cfg (forgetMisdirected cfg st) f metadata = forgotten cfg (publishMonitor cfg st f metadata) := by
  have kept : (forgetMisdirected cfg st).monitor = st.monitor := rfl
  unfold publishMonitor
  extract_lets scheduled
  rw [kept]
  by_cases due : (cfg.subbandMonitor && (st.monitor.isNone || scheduled)) = true
  · rw [if_pos due, if_pos due]
    cases st.monitor <;> cases cfg.monitorFailure <;> rfl
  · rw [if_neg due, if_neg due]
    rfl

theorem receive_forget (st : RecvState cfg) (data : List Byte) :
    forgotten cfg (receive cfg st data) =
      if (addressed cfg data).isSome then receive cfg (forgetMisdirected cfg st) data else .ok (forgetMisdirected cfg st) := by
  by_cases size : data.length = expectedPktLen
  · rw [receive, receive, dif_pos size, dif_pos size, addressed, dif_pos size, receiveSized, receiveSized]
    by_cases port : (⟨data, size⟩ : Frame).udpDstPort = cfg.destPort
    · rw [if_pos port, if_neg (not_not.mpr port), if_neg (not_not.mpr port)]
      have counted : ({ forgetMisdirected cfg st with totalPkts := (forgetMisdirected cfg st).totalPkts + 1 } : RecvState cfg) =
          forgetMisdirected cfg { st with totalPkts := st.totalPkts + 1 } := rfl
      simp only [counted, publish_forget, Option.isSome_some, if_true]
      cases published : publishMonitor cfg { st with totalPkts := st.totalPkts + 1 } ⟨data, size⟩
          (VDIF.readMetadata (⟨data, size⟩ : Frame).vdif cfg.calMode) with
      | error failure => rfl
      | ok middle =>
          simp only [bind, Except.bind, forgotten, Except.map, sequence_forget]
          cases checked : sequenceCheck cfg middle (VDIF.readMetadata (⟨data, size⟩ : Frame).vdif cfg.calMode).packetId with
          | none =>
              simp only [Option.map_none, discard_forget]
              rfl
          | some current =>
              simp only [Option.map_some, advance_forget, store_forget]
              rfl
    · rw [if_neg port, if_pos port]
      rfl
  · rw [receive, dif_neg size, addressed, dif_neg size]
    rfl

theorem step_forget (st : RecvState cfg) (event : RecvEvent cfg) :
    forgotten cfg (recvStep cfg st event) =
      if ownEvent cfg event then recvStep cfg (forgetMisdirected cfg st) event else .ok (forgetMisdirected cfg st) := by
  cases event with
  | frame data => exact receive_forget cfg st data
  | consumer entry buffer =>
      rw [ownEvent, if_pos rfl, recvStep, recvStep]
      by_cases same : entry = st.poolIdx
      · rw [if_pos same, if_pos (show entry = (forgetMisdirected cfg st).poolIdx from same)]
        rfl
      · rw [if_neg same, if_neg (show ¬ entry = (forgetMisdirected cfg st).poolIdx from same)]
        rfl

theorem run_forget (events : List (RecvEvent cfg)) :
    forgotten cfg (recv2mem cfg events) = recv2mem cfg (events.filter (ownEvent cfg)) := by
  induction events using List.reverseRecOn with
  | nil => rfl
  | append_singleton past event ih =>
      rw [recv2mem, recv2mem, List.foldlM_append, List.filter_append, List.foldlM_append, ← recv2mem, ← recv2mem, ← ih]
      cases before : recv2mem cfg past with
      | error failure => rfl
      | ok st =>
          have taken := step_forget cfg st event
          simp only [forgotten, Except.map, bind, Except.bind, List.foldlM_cons, List.foldlM_nil] at taken ⊢
          by_cases own : ownEvent cfg event = true
          · rw [if_pos own] at taken
            rw [List.filter_cons_of_pos own, List.filter_nil]
            cases result : recvStep cfg st event with
            | error failure =>
                rw [result] at taken
                simp only [List.foldlM_cons, bind, Except.bind, ← taken]
            | ok next =>
                rw [result] at taken
                simp only [List.foldlM_cons, List.foldlM_nil, bind, Except.bind, ← taken]
                rfl
          · rw [if_neg own] at taken
            rw [List.filter_cons_of_neg own, List.filter_nil]
            cases result : recvStep cfg st event with
            | error failure =>
                rw [result] at taken
                cases taken
            | ok next =>
                rw [result] at taken
                exact taken

end

-- An rte_flow rule: no destination port matches every packet, no queue drops it.
structure FlowRule where
  priority : Nat
  dstPort : Option Nat
  queue : Option Nat
deriving DecidableEq

def createUdpDstFlow (dstPort queueId : Nat) : FlowRule := ⟨0, some (dstPort % 2 ^ 16), some queueId⟩

def createCatchAllDrop : FlowRule := ⟨2, none, none⟩

-- What the driver answers to port_init.
structure PortCalls where
  isolate : Int
  configure : Int
  rxQueueSetup : Nat → Int
  start : Int
  flowCreate : FlowRule → Bool

structure PortFlows where
  isolated : Bool
  rules : List FlowRule

def answered (retval : Int) : Except Int Unit := if retval < 0 then .error retval else .ok ()

def createFlow (calls : PortCalls) (rules : List FlowRule) (rule : FlowRule) : Except Int (List FlowRule) :=
  if calls.flowCreate rule then .ok (rules ++ [rule]) else .error (-1)

-- The fallback where flow isolation is unavailable.
def dropUnmatched (calls : PortCalls) (isolated : Bool) (rules : List FlowRule) : Except Int (List FlowRule) :=
  if isolated then .ok rules else createFlow calls rules createCatchAllDrop

def portInit (calls : PortCalls) (nbRxQueues : Nat) : Except Int PortFlows := do
  let isolated := decide (calls.isolate = 0)
  answered calls.configure
  (List.range nbRxQueues).forM fun q => answered (calls.rxQueueSetup q)
  answered calls.start
  let rules ← ((List.range nbRxQueues).map fun i => createUdpDstFlow (60000 + i) i).foldlM (createFlow calls) []
  let rules ← dropUnmatched calls isolated rules
  return { isolated, rules }

theorem create_flows (calls : PortCalls) (wanted rules created : List FlowRule)
    (done : wanted.foldlM (createFlow calls) rules = .ok created) : created = rules ++ wanted := by
  induction wanted generalizing rules with
  | nil =>
      have same : rules = created := Except.ok.inj done
      rw [← same, List.append_nil]
  | cons rule rest ih =>
      obtain ⟨middle, made, later⟩ := Run.bind_ok _ _ _ done
      rw [createFlow] at made
      by_cases accepted : calls.flowCreate rule = true
      · rw [if_pos accepted] at made
        cases made
        rw [ih _ later, List.append_assoc, List.singleton_append]
      · rw [if_neg accepted] at made
        cases made

theorem port_init_rules (calls : PortCalls) (nbRxQueues : Nat) (flows : PortFlows) (opened : portInit calls nbRxQueues = .ok flows) :
    flows.rules = ((List.range nbRxQueues).map fun i => createUdpDstFlow (60000 + i) i) ++
      if flows.isolated then [] else [createCatchAllDrop] := by
  obtain ⟨_, _, opened⟩ := Run.bind_ok _ _ _ opened
  obtain ⟨_, _, opened⟩ := Run.bind_ok _ _ _ opened
  obtain ⟨_, _, opened⟩ := Run.bind_ok _ _ _ opened
  obtain ⟨queues, made, opened⟩ := Run.bind_ok _ _ _ opened
  obtain ⟨rules, guarded, opened⟩ := Run.bind_ok _ _ _ opened
  have wanted := create_flows calls _ [] queues made
  rw [List.nil_append] at wanted
  cases opened
  rw [dropUnmatched] at guarded
  by_cases isolated : calls.isolate = 0
  · simp only [isolated, decide_true, if_true] at guarded ⊢
    cases guarded
    rw [wanted, List.append_nil]
  · simp only [isolated, decide_false, Bool.false_eq_true, if_false] at guarded ⊢
    rw [← wanted]
    exact create_flows calls [createCatchAllDrop] queues rules (by rw [List.foldlM_cons, guarded]; rfl)

def FlowRule.matching (rule : FlowRule) (udpDport : Option Nat) : Bool :=
  match rule.dstPort with
  | none => true
  | some port => udpDport == some port

-- The network card: the UDP destination port its parser finds, and the queue
-- it puts a packet in under given rules.
structure Nic where
  udpDport : List Byte → Option Nat
  place : PortFlows → List Byte → Option Nat

-- Of the matching rules the one of lowest priority value applies, and an
-- isolated port receives nothing without a rule.
structure Nic.Honours (nic : Nic) : Prop where
  applies : ∀ (flows : PortFlows) (data : List Byte) (rule : FlowRule), rule ∈ flows.rules →
    rule.matching (nic.udpDport data) = true →
    (∀ other ∈ flows.rules, other.matching (nic.udpDport data) = true → other = rule ∨ rule.priority < other.priority) →
    nic.place flows data = rule.queue
  unmatched : ∀ (flows : PortFlows) (data : List Byte), flows.isolated = true →
    (∀ rule ∈ flows.rules, rule.matching (nic.udpDport data) = false) → nic.place flows data = none

-- With flow isolation or with the catch-all rule, a queue gets the packets of
-- its UDP port and no others.
theorem placed_queue (calls : PortCalls) (nbRxQueues : Nat) (portsFit : 60000 + nbRxQueues ≤ 2 ^ 16) (flows : PortFlows)
    (opened : portInit calls nbRxQueues = .ok flows) (nic : Nic) (honours : nic.Honours) (data : List Byte) (q : Nat)
    (inside : q < nbRxQueues) : nic.place flows data = some q ↔ nic.udpDport data = some (60000 + q) := by
  have rules := port_init_rules calls nbRxQueues flows opened
  have listed : ∀ i < nbRxQueues, createUdpDstFlow (60000 + i) i ∈ flows.rules := by
    intro i below
    rw [rules]
    exact List.mem_append_left _ (List.mem_map_of_mem (List.mem_range.mpr below))
  have fits : ∀ i < nbRxQueues, (60000 + i) % 2 ^ 16 = 60000 + i := fun i below => Nat.mod_eq_of_lt (by omega)
  have matches_port : ∀ i < nbRxQueues, ∀ dport, (createUdpDstFlow (60000 + i) i).matching dport = true ↔ dport = some (60000 + i) := by
    intro i below dport
    simp only [FlowRule.matching, createUdpDstFlow, fits i below, beq_iff_eq]
  have others : ∀ rule ∈ flows.rules, (∃ i < nbRxQueues, rule = createUdpDstFlow (60000 + i) i) ∨
      (rule = createCatchAllDrop ∧ flows.isolated = false) := by
    intro rule member
    rw [rules] at member
    rcases List.mem_append.mp member with queue | drop
    · obtain ⟨i, below, rfl⟩ := List.mem_map.mp queue
      exact .inl ⟨i, List.mem_range.mp below, rfl⟩
    · cases isolated : flows.isolated with
      | true =>
          rw [isolated] at drop
          cases drop
      | false =>
          rw [isolated] at drop
          exact .inr ⟨List.mem_singleton.mp drop, rfl⟩
  by_cases known : ∃ i < nbRxQueues, nic.udpDport data = some (60000 + i)
  · obtain ⟨i, below, port⟩ := known
    have steered : nic.place flows data = some i := by
      apply honours.applies flows data _ (listed i below) ((matches_port i below _).mpr port)
      intro other member matched
      rcases others other member with ⟨j, near, rfl⟩ | ⟨rfl, _⟩
      · have same := (matches_port j near _).mp matched
        rw [port, Option.some.injEq] at same
        obtain rfl : i = j := by omega
        exact .inl rfl
      · exact .inr (Nat.zero_lt_succ 1)
    rw [steered, port, Option.some.injEq, Option.some.injEq]
    omega
  · have foreign : nic.place flows data = none := by
      cases isolated : flows.isolated with
      | true =>
          apply honours.unmatched flows data isolated
          intro rule member
          rcases others rule member with ⟨j, near, rfl⟩ | ⟨_, open_⟩
          · by_contra matched
            exact known ⟨j, near, (matches_port j near _).mp (Bool.eq_true_of_not_eq_false matched)⟩
          · rw [isolated] at open_
            cases open_
      | false =>
          have drop : createCatchAllDrop ∈ flows.rules := by
            rw [rules, isolated]
            exact List.mem_append_right _ (List.mem_singleton.mpr rfl)
          apply honours.applies flows data _ drop rfl
          intro other member matched
          rcases others other member with ⟨j, near, rfl⟩ | ⟨rfl, _⟩
          · exact absurd ⟨j, near, (matches_port j near _).mp matched⟩ known
          · exact .inl rfl
    rw [foreign]
    exact ⟨(fun same => nomatch same), fun port => absurd ⟨q, inside, port⟩ known⟩

section

variable (base : Nat → StreamConfig)

-- recv2mem takes its stream, port and UDP port from the lcore_param.
def recvConfig (p : LcoreParam) : StreamConfig :=
  { base p.ringId with ringId := p.ringId, destPort := BitVec.ofNat 16 p.destPort }

-- A packet reaches a queue of a port, or the consumer of a stream writes into
-- a pool entry.
inductive NodeEvent where
  | arrive (port : Nat) (queue : Option Nat) (data : List Byte)
  | consumer (stream : Nat) (entry : Fin (base stream).poolSize) (buffer : Fin (base stream).batchsize → Packet)

inductive LcoreWork (p : LcoreParam) where
  | recv2mem (result : Except String (RecvState (recvConfig base p)))
  | locreDrop (freed : List (List Byte))

structure Lcore where
  param : LcoreParam
  work : LcoreWork base param

-- The launch loop: two queues a subband.
def launch (enable : Nat → Bool) (p : LcoreParam) (i : Nat) : Lcore base :=
  ⟨p, if enable (i / 2) then .recv2mem (.ok (RecvState.initial _)) else .locreDrop []⟩

-- What an lcore sees of an event: the packets of its own queue.
def handed (p : LcoreParam) : NodeEvent base → Option (RecvEvent (recvConfig base p))
  | .arrive port queue data => if port = p.portId ∧ queue = some p.queueId then some (.frame data) else none
  | .consumer stream entry buffer =>
      if same : stream = p.ringId then some (by subst same; exact .consumer entry buffer) else none

def work (p : LcoreParam) (event : RecvEvent (recvConfig base p)) : LcoreWork base p → LcoreWork base p
  | .recv2mem result => .recv2mem (result >>= fun st => recvStep _ st event)
  | .locreDrop freed =>
      match event with
      | .frame data => .locreDrop (freed ++ [data])
      | .consumer _ _ => .locreDrop freed

def lcoreStep (event : NodeEvent base) (lcore : Lcore base) : Lcore base :=
  match handed base lcore.param event with
  | none => lcore
  | some event => { lcore with work := work base lcore.param event lcore.work }

def nodeRun (lcores : List (Lcore base)) (events : List (NodeEvent base)) : List (Lcore base) :=
  events.foldl (fun lcores event => lcores.map (lcoreStep base event)) lcores

-- What the calls of dpdk() answer.
structure EalCalls where
  topology : LcoreTopology
  init : Int
  mbufPool : Bool
  port : Nat → PortCalls
  remoteLaunch : LcoreParam → Int
  strerror : Int → String

structure DpdkNode where
  flows : Nat → PortFlows
  lcores : List (Lcore base)

def rteExit {T : Type} (message : String → String) : Except String T → Except String T
  | .ok value => .ok value
  | .error failure => .error (message failure)

-- Both ports exit with the message of port 0.
def openPort (calls : PortCalls) : Except String PortFlows :=
  match portInit calls 8 with
  | .ok flows => .ok flows
  | .error _ => .error " Cannot init port 0\n"

def launchLcores (eal : EalCalls) (params : List LcoreParam) : Except String Unit :=
  params.forM fun p =>
    let result := eal.remoteLaunch p
    refuse (result ≠ 0) ("Failed to launch DPDK worker: port " ++ toString p.portId ++ ", queue " ++ toString p.queueId ++
      ", lcore " ++ toString p.lcoreId ++ ", error " ++ toString result ++ " (" ++ eal.strerror (-result) ++ ")\n")

-- An error is the text rte_exit prints.
def dpdk (eal : EalCalls) (enable : Nat → Bool) : Except String (DpdkNode base) := do
  refuse (eal.init < 0) "Error with EAL init\n"
  let params ← rteExit (fun failure => "Cannot assign DPDK workers: " ++ failure ++ "\n")
    (generateLcoreParams eal.topology [0, 1] 8 60000)
  refuse (!eal.mbufPool) "Cannot create mbuf pool\n"
  let first ← openPort (eal.port 0)
  let second ← openPort (eal.port 1)
  launchLcores eal params
  return { flows := fun port => if port = 0 then first else second, lcores := params.mapIdx fun i p => launch base enable p i }

-- What was sent to a thread: the packets of its UDP port on its port, into
-- whichever queue they went.
def sent (p : LcoreParam) (event : NodeEvent base) : Option (RecvEvent (recvConfig base p)) :=
  match event with
  | .arrive port _ data =>
      if port = p.portId ∧ (addressed (recvConfig base p) data).isSome = true then some (.frame data) else none
  | .consumer _ _ _ => handed base p event

theorem node_run_each (lcores : List (Lcore base)) (events : List (NodeEvent base)) :
    nodeRun base lcores events = lcores.map fun lcore => events.foldl (fun lcore event => lcoreStep base event lcore) lcore := by
  induction events generalizing lcores with
  | nil => exact (List.map_id' lcores).symm
  | cons event rest ih =>
      rw [nodeRun, List.foldl_cons, ← nodeRun, ih, List.map_map]
      rfl

theorem recv2mem_snoc (cfg : StreamConfig) (past : List (RecvEvent cfg)) (event : RecvEvent cfg) :
    recv2mem cfg (past ++ [event]) = recv2mem cfg past >>= fun st => recvStep cfg st event := by
  rw [recv2mem, List.foldlM_append]
  cases before : recv2mem cfg past with
  | error failure =>
      rw [recv2mem] at before
      rw [before]
      rfl
  | ok st =>
      rw [recv2mem] at before
      rw [before]
      cases taken : recvStep cfg st event with
      | error failure => simp only [bind, Except.bind, List.foldlM_cons, taken]
      | ok next =>
          simp only [bind, Except.bind, List.foldlM_cons, taken]
          rfl

theorem recv_lcore (p : LcoreParam) (past : List (RecvEvent (recvConfig base p))) (events : List (NodeEvent base)) :
    events.foldl (fun lcore event => lcoreStep base event lcore) ⟨p, .recv2mem (recv2mem _ past)⟩ =
      ⟨p, .recv2mem (recv2mem _ (past ++ events.filterMap (handed base p)))⟩ := by
  induction events generalizing past with
  | nil => rw [List.foldl_nil, List.filterMap_nil, List.append_nil]
  | cons event rest ih =>
      rw [List.foldl_cons, lcoreStep]
      cases seen : handed base p event with
      | none =>
          rw [List.filterMap_cons_none seen]
          exact ih past
      | some own =>
          rw [List.filterMap_cons_some seen, ← List.singleton_append, ← List.append_assoc, ← ih (past ++ [own]), recv2mem_snoc]
          rfl

theorem drop_lcore (p : LcoreParam) (freed : List (List Byte)) (events : List (NodeEvent base)) :
    events.foldl (fun lcore event => lcoreStep base event lcore) ⟨p, .locreDrop freed⟩ =
      ⟨p, .locreDrop (freed ++ arrivals _ (events.filterMap (handed base p)))⟩ := by
  induction events generalizing freed with
  | nil =>
      rw [List.foldl_nil, List.filterMap_nil, arrivals, List.filterMap_nil, List.append_nil]
  | cons event rest ih =>
      rw [List.foldl_cons, lcoreStep]
      cases seen : handed base p event with
      | none =>
          rw [List.filterMap_cons_none seen]
          exact ih freed
      | some own =>
          rw [List.filterMap_cons_some seen, arrivals]
          cases own with
          | frame data =>
              rw [List.filterMap_cons_some (show arrival _ (RecvEvent.frame data) = some data from rfl), ← List.singleton_append,
                ← List.append_assoc]
              exact ih (freed ++ [data])
          | consumer entry buffer =>
              rw [List.filterMap_cons_none (show arrival _ (RecvEvent.consumer entry buffer) = none from rfl)]
              exact ih freed

theorem open_port_ok (calls : PortCalls) (flows : PortFlows) (opened : openPort calls = .ok flows) : portInit calls 8 = .ok flows := by
  rw [openPort] at opened
  cases started : portInit calls 8 with
  | error failure =>
      rw [started] at opened
      cases opened
  | ok other =>
      rw [started] at opened
      rw [Except.ok.inj opened]

theorem dpdk_opened (eal : EalCalls) (enable : Nat → Bool) (node : DpdkNode base) (opened : dpdk base eal enable = .ok node) :
    ∃ params, generateLcoreParams eal.topology [0, 1] 8 60000 = .ok params ∧
      node.lcores = (params.mapIdx fun i p => launch base enable p i) ∧
      ∀ port < 2, portInit (eal.port port) 8 = .ok (node.flows port) := by
  obtain ⟨_, _, opened⟩ := Run.bind_ok _ _ _ opened
  obtain ⟨params, assigned, opened⟩ := Run.bind_ok _ _ _ opened
  obtain ⟨_, _, opened⟩ := Run.bind_ok _ _ _ opened
  obtain ⟨first, zero, opened⟩ := Run.bind_ok _ _ _ opened
  obtain ⟨second, one, opened⟩ := Run.bind_ok _ _ _ opened
  obtain ⟨_, _, opened⟩ := Run.bind_ok _ _ _ opened
  cases opened
  refine ⟨params, ?_, rfl, fun port below => ?_⟩
  · cases generated : generateLcoreParams eal.topology [0, 1] 8 60000 with
    | error failure =>
        rw [generated] at assigned
        cases assigned
    | ok other =>
        rw [generated] at assigned
        exact assigned
  · rcases (show port = 0 ∨ port = 1 by omega) with rfl | rfl
    · exact open_port_ok _ _ zero
    · exact open_port_ok _ _ one

theorem port_queue_sixteen : ∀ i < 16, (portQueues [0, 1] 8)[i]? = some (i / 8, i % 8) := by decide

-- Which stream, port and UDP port the thread of a place serves.
theorem param_place (t : LcoreTopology) (params : List LcoreParam) (assigned : WorkerAssignment t [0, 1] 8 60000 params) (s : Nat)
    (below : s < 16) : ∃ p, params[s]? = some p ∧ p.ringId = s ∧ p.portId = s / 8 ∧ p.queueId = s % 8 ∧ p.destPort = 60000 + s % 8 := by
  have place := congrArg (fun queues => queues[s]?) assigned.order
  simp only [List.getElem?_map, port_queue_sixteen s below] at place
  obtain ⟨p, found, pair⟩ := Option.map_eq_some_iff.mp place
  obtain ⟨port, queue⟩ := Prod.mk.inj pair
  have dest := assigned.dest p (List.mem_of_getElem? found)
  exact ⟨p, found, assigned.ring s p found, port, queue, by rw [dest, queue]⟩

theorem ports_available (t : LcoreTopology) (params : List LcoreParam) (generated : generateLcoreParams t [0, 1] 8 60000 = .ok params) :
    16 ≤ (workerLcores t).length ∧ ∀ port ∈ [0, 1], port < t.devCountAvail := by
  rw [generateLcoreParams] at generated
  by_cases short : (workerLcores t).length < [0, 1].length * 8 % 2 ^ 64
  · rw [if_pos short] at generated
    cases generated
  · rw [if_neg short] at generated
    refine ⟨Nat.le_of_not_lt short, ?_⟩
    have ports : 1 < t.devCountAvail := by
      by_contra few
      cases first : assignPort t 8 60000 ⟨[], List.replicate t.rteMaxLcore false, 0⟩ 0 with
      | error failure =>
          rw [List.foldlM_cons, first] at generated
          cases generated
      | ok middle =>
          rw [List.foldlM_cons, first] at generated
          have second : assignPort t 8 60000 middle 1 = .error ("Invalid port_id: " ++ toString 1) := if_pos (by omega)
          simp only [bind, Except.bind, List.foldlM_cons, second] at generated
          cases generated
    intro port member
    rcases List.mem_cons.mp member with rfl | later
    · omega
    · rw [List.mem_singleton.mp later]
      exact ports

theorem addressed_port (cfg : StreamConfig) (data : List Byte) (own : (addressed cfg data).isSome = true) :
    ∃ size : data.length = expectedPktLen, (⟨data, size⟩ : Frame).udpDstPort = cfg.destPort := by
  rw [addressed] at own
  by_cases size : data.length = expectedPktLen
  · rw [dif_pos size] at own
    by_cases port : (⟨data, size⟩ : Frame).udpDstPort = cfg.destPort
    · exact ⟨size, port⟩
    · rw [if_neg port] at own
      cases own
  · rw [dif_neg size] at own
    cases own

-- A packet that carries a UDP port of the node where recv2mem reads it is a
-- packet to that port for the card, too.
def PlainUdp (nic : Nic) (data : List Byte) : Prop :=
  ∀ (size : data.length = expectedPktLen) (q : Nat), q < 8 → (⟨data, size⟩ : Frame).udpDstPort.toNat = 60000 + q →
    nic.udpDport data = some (60000 + q)

theorem own_sent (p : LcoreParam) (q : Nat) (inside : q < 8) (queueId : p.queueId = q) (destPort : p.destPort = 60000 + q)
    (calls : PortCalls) (flows : PortFlows) (started : portInit calls 8 = .ok flows) (nic : Nic) (honours : nic.Honours)
    (event : NodeEvent base)
    (placed : ∀ port queue data, event = .arrive port queue data → port = p.portId → queue = nic.place flows data ∧ PlainUdp nic data) :
    (handed base p event).filter (ownEvent (recvConfig base p)) = sent base p event := by
  cases event with
  | consumer stream entry buffer =>
      rw [sent, handed]
      by_cases same : stream = p.ringId
      · subst same
        rw [dif_pos rfl]
        rfl
      · rw [dif_neg same]
        rfl
  | arrive port queue data =>
      rw [sent, handed]
      by_cases here : port = p.portId
      · obtain ⟨steered, plain⟩ := placed port queue data rfl here
        have steering := placed_queue calls 8 (by omega) flows started nic honours data q inside
        by_cases own : (addressed (recvConfig base p) data).isSome = true
        · obtain ⟨size, same⟩ := addressed_port (recvConfig base p) data own
          have number : (BitVec.ofNat 16 p.destPort).toNat = 60000 + q := by
            rw [destPort, BitVec.toNat_ofNat, Nat.mod_eq_of_lt (by omega)]
          have into : queue = some p.queueId := by
            rw [steered, queueId]
            exact steering.mpr (plain size q inside (by rw [same]; exact number))
          rw [if_pos ⟨here, into⟩, if_pos ⟨here, own⟩]
          exact Option.filter_some_pos own
        · by_cases into : queue = some p.queueId
          · rw [if_pos ⟨here, into⟩, if_neg (fun both => own both.2)]
            exact Option.filter_some_neg (Bool.eq_false_of_not_eq_true own)
          · rw [if_neg (fun both => into both.2), if_neg (fun both => own both.2)]
            rfl
      · rw [if_neg (fun both => here both.1), if_neg (fun both => here both.1)]
        rfl

-- Whatever reached the queues before the rules were in force, from then on
-- every enabled stream takes what is sent to its UDP port, all of it and
-- nothing else, with flow isolation or without.
theorem node_streams (eal : EalCalls) (enable : Nat → Bool) (node : DpdkNode base) (opened : dpdk base eal enable = .ok node)
    (lcoresFit : eal.topology.rteMaxLcore ≤ 2 ^ 16) (nic : Nic) (honours : nic.Honours) (window steady : List (NodeEvent base))
    (placed : ∀ port queue data, NodeEvent.arrive port queue data ∈ steady →
      queue = nic.place (node.flows port) data ∧ PlainUdp nic data) (s : Nat) (below : s < 16) :
    ∃ (p : LcoreParam) (work : LcoreWork base p), (nodeRun base node.lcores (window ++ steady))[s]? = some ⟨p, work⟩ ∧
      p.ringId = s ∧ p.portId = s / 8 ∧ p.destPort = 60000 + s % 8 ∧
      match work with
      | .recv2mem result =>
          enable (s / 2) = true ∧
          forgotten _ result = recv2mem _ ((window.filterMap (handed base p)).filter (ownEvent _) ++ steady.filterMap (sent base p))
      | .locreDrop _ => enable (s / 2) = false := by
  obtain ⟨params, generated, lcores, ports⟩ := dpdk_opened base eal enable node opened
  obtain ⟨enough, available⟩ := ports_available eal.topology params generated
  obtain ⟨others, same, assigned⟩ := enough_lcores eal.topology lcoresFit [0, 1] 8 60000 available (by decide) (by omega) enough
  obtain rfl : params = others := Except.ok.inj (generated.symm.trans same)
  obtain ⟨p, found, ring, port, queue, dest⟩ := param_place eal.topology params assigned s below
  have inside : s / 8 < 2 := by omega
  have lcore : (nodeRun base node.lcores (window ++ steady))[s]? =
      some ((window ++ steady).foldl (fun lcore event => lcoreStep base event lcore) (launch base enable p s)) := by
    rw [node_run_each, lcores, List.getElem?_map, List.getElem?_mapIdx, found]
    rfl
  by_cases enabled : enable (s / 2) = true
  · have run := recv_lcore base p [] (window ++ steady)
    rw [launch, if_pos enabled] at lcore
    refine ⟨p, _, lcore.trans (congrArg some run), ring, port, dest, enabled, ?_⟩
    have steadyOwn : (steady.filterMap (handed base p)).filter (ownEvent _) = steady.filterMap (sent base p) := by
      rw [List.filter_filterMap]
      apply List.filterMap_congr
      intro event member
      apply own_sent base p (s % 8) (Nat.mod_lt s (by decide)) queue dest (eal.port (s / 8)) (node.flows (s / 8)) (ports _ inside) nic honours
      rintro other into data rfl here
      rw [← port, ← here]
      exact placed other into data member
    rw [run_forget, List.nil_append, List.filterMap_append, List.filter_append, steadyOwn]
  · have run := drop_lcore base p [] (window ++ steady)
    rw [launch, if_neg enabled] at lcore
    exact ⟨p, _, lcore.trans (congrArg some run), ring, port, dest, Bool.eq_false_of_not_eq_true enabled⟩

end

-- A card that reads the UDP port of an option-free header, and leaves what no
-- rule matches to the default queue.
def exactNic : Nic where
  udpDport data := some (data.getD (udpHeaderOffset + 2) 0 ++ data.getD (udpHeaderOffset + 3) 0 : BitVec 16).toNat
  place flows data :=
    let port : BitVec 16 := data.getD (udpHeaderOffset + 2) 0 ++ data.getD (udpHeaderOffset + 3) 0
    match (flows.rules.filter fun rule => rule.matching (some port.toNat)).argmin FlowRule.priority with
    | some rule => rule.queue
    | none => if flows.isolated then none else some 0

theorem exact_nic_honours : exactNic.Honours := by
  constructor
  · intro flows data rule member matched first
    have listed : rule ∈ flows.rules.filter fun other => other.matching (exactNic.udpDport data) := List.mem_filter.mpr ⟨member, matched⟩
    cases best : (flows.rules.filter fun other => other.matching (exactNic.udpDport data)).argmin FlowRule.priority with
    | none =>
        rw [List.argmin_eq_none.mp best] at listed
        cases listed
    | some other =>
        obtain ⟨inside, matches_too⟩ := List.mem_filter.mp (List.argmin_mem best)
        have lowest : other.priority ≤ rule.priority := List.le_of_mem_argmin listed best
        have same : other = rule := (first other inside matches_too).resolve_right (by omega)
        rw [exactNic] at best ⊢
        simp only [best, same]
  · intro flows data isolated unmatched
    have nothing : (flows.rules.filter fun other => other.matching (exactNic.udpDport data)) = [] :=
      List.filter_eq_nil_iff.mpr fun rule member matched => by
        rw [unmatched rule member] at matched
        cases matched
    rw [exactNic] at nothing ⊢
    simp only [nothing, List.argmin_nil, isolated, if_true]

-- Two ports, the second without flow isolation, and sixteen workers.
def twoPorts : EalCalls where
  topology := ⟨128, fun lcore => lcore < 17, 0, fun _ => 0, 2, fun _ => 0⟩
  init := 0
  mbufPool := true
  port := fun port => ⟨if port = 0 then 0 else -95, 0, fun _ => 0, 0, fun _ => true⟩
  remoteLaunch := fun _ => 0
  strerror := fun _ => ""

-- A packet for another stream fell to the default queue before the rules.
theorem node_streams_unisolated : ∃ node, dpdk (fun _ => sampleStream) twoPorts (fun _ => true) = .ok node ∧
    ∃ (p : LcoreParam) (work : LcoreWork (fun _ => sampleStream) p),
      (nodeRun (fun _ => sampleStream) node.lcores ([.arrive 1 (some 0) (sampleFrame 5).data] ++
        [.arrive 1 (exactNic.place (node.flows 1) (sampleFrame 16).data) (sampleFrame 16).data]))[9]? = some ⟨p, work⟩ ∧
      p.portId = 1 ∧ p.destPort = 60001 := by
  cases opened : dpdk (fun _ => sampleStream) twoPorts (fun _ => true) with
  | error failure =>
      have succeeds : (dpdk (fun _ => sampleStream) twoPorts fun _ => true).isOk = true := by decide +kernel
      rw [opened] at succeeds
      cases succeeds
  | ok node =>
      obtain ⟨p, work, reached, _, port, dest, _⟩ := node_streams (fun _ => sampleStream) twoPorts (fun _ => true) node opened (by decide)
        exactNic exact_nic_honours [.arrive 1 (some 0) (sampleFrame 5).data]
        [.arrive 1 (exactNic.place (node.flows 1) (sampleFrame 16).data) (sampleFrame 16).data] (by
          intro port queue data member
          cases List.mem_singleton.mp member
          exact ⟨rfl, fun size q _ same => congrArg some same⟩) 9 (by decide)
      exact ⟨node, rfl, p, work, reached, port, dest⟩

end SpectralLine
