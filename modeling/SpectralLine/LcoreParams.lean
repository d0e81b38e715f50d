import SpectralLine.Lib.Greedy
import SpectralLine.Lib.Numbered
import SpectralLine.Lib.Checked
import Mathlib.Algebra.Ring.Nat

set_option autoImplicit false

namespace SpectralLine

open Checked

-- What the EAL tells of the host; a port of unknown socket answers below zero.
-- RTE_MAX_LCORE is a constant of the DPDK build that the 16 bits of lcore_id hold.
structure LcoreTopology where
  rteMaxLcore : Nat
  enabled : Nat → Bool
  mainLcore : Nat
  lcoreToSocketId : Nat → Nat
  devCountAvail : Nat
  devSocketId : Nat → Int

structure LcoreParam where
  portId : Nat
  queueId : Nat
  lcoreId : Nat
  destPort : Nat
  ringId : Nat
deriving DecidableEq, Repr

structure LcoreState where
  params : List LcoreParam
  assignedLcores : List Bool
  ringId : Nat

section

variable (t : LcoreTopology)

-- RTE_LCORE_FOREACH without the main lcore.
def workerLcores : List Nat := (List.range t.rteMaxLcore).filter fun lcore => t.enabled lcore && decide (lcore ≠ t.mainLcore)

def freeLcore (assignedLcores : List Bool) (lcore : Nat) : Bool := !assignedLcores.getD lcore false

-- On the known NUMA node of the port.
def onPortNode (port lcore : Nat) : Bool :=
  decide (0 ≤ t.devSocketId port) && decide (t.lcoreToSocketId lcore = (t.devSocketId port).toNat)

-- The body of the queue loop; the fields of lcore_param are 16 bits wide.
def assignQueue (startDestPort port : Nat) (s : LcoreState) (q : Nat) : Except String LcoreState :=
  match Greedy.pick (workerLcores t) (freeLcore s.assignedLcores) (onPortNode t port) with
  | none => .error ("Not enough lcores for port " ++ toString port ++ ", queue " ++ toString q)
  | some lcore =>
      .ok {
        params := s.params ++ [{
          portId := port, queueId := q, lcoreId := lcore % 2 ^ 16, destPort := (startDestPort + q) % 2 ^ 16,
          ringId := s.ringId % 2 ^ 16 }]
        assignedLcores := s.assignedLcores.set lcore true
        ringId := s.ringId + 1 }

def assignPort (queuesPerPort startDestPort : Nat) (s : LcoreState) (port : Nat) : Except String LcoreState :=
  if t.devCountAvail ≤ port then .error ("Invalid port_id: " ++ toString port)
  else (List.range queuesPerPort).foldlM (assignQueue t startDestPort port) s

def generateLcoreParams (portIds : List Nat) (queuesPerPort startDestPort : Nat) : Except String (List LcoreParam) :=
  let requiredLcores := portIds.length * queuesPerPort % 2 ^ 64
  if (workerLcores t).length < requiredLcores then
    .error ("Not enough DPDK worker lcores: need " ++ toString requiredLcores ++ ", found " ++ toString (workerLcores t).length)
  else
    (portIds.foldlM (assignPort t queuesPerPort startDestPort) ⟨[], List.replicate t.rteMaxLcore false, 0⟩).map
      LcoreState.params

-- The queues in the order of the two loops.
def portQueues (portIds : List Nat) (queuesPerPort : Nat) : List (Nat × Nat) :=
  portIds.flatMap fun port => (List.range queuesPerPort).map fun q => (port, q)

theorem port_queues_length (portIds : List Nat) (queuesPerPort : Nat) :
    (portQueues portIds queuesPerPort).length = portIds.length * queuesPerPort := by
  simp [portQueues, List.length_flatMap]

theorem assign_ports (queuesPerPort startDestPort : Nat) (portIds : List Nat) (s : LcoreState)
    (below : ∀ port ∈ portIds, port < t.devCountAvail) :
    portIds.foldlM (assignPort t queuesPerPort startDestPort) s =
      (portQueues portIds queuesPerPort).foldlM (fun s queue => assignQueue t startDestPort queue.1 s queue.2) s := by
  induction portIds generalizing s with
  | nil => rfl
  | cons port rest ih =>
      obtain ⟨known, others⟩ := List.forall_mem_cons.mp below
      rw [List.foldlM_cons, portQueues, List.flatMap_cons, List.foldlM_append, assignPort, if_neg (Nat.not_le_of_lt known),
        List.foldlM_map]
      exact congrArg _ (funext fun middle => ih middle others)

theorem worker_lcores_nodup : (workerLcores t).Nodup := List.nodup_range.filter _

theorem worker_lcore_below (lcore : Nat) (member : lcore ∈ workerLcores t) : lcore < t.rteMaxLcore :=
  List.mem_range.mp (List.mem_filter.mp member).1

-- Which lcores the parameters name, and what the flags say of them.
structure Assigning (startDestPort : Nat) (done : List (Nat × Nat)) (s : LcoreState) : Prop where
  order : s.params.map (fun p => (p.portId, p.queueId)) = done
  count : s.ringId = done.length
  ring : ∀ (i : Nat) (p : LcoreParam), s.params[i]? = some p → p.ringId = i % 2 ^ 16
  dest : ∀ p ∈ s.params, p.destPort = (startDestPort + p.queueId) % 2 ^ 16
  workers : ∀ p ∈ s.params, p.lcoreId ∈ workerLcores t
  distinct : (s.params.map LcoreParam.lcoreId).Nodup
  flags : ∀ lcore, freeLcore s.assignedLcores lcore = false ↔ lcore ∈ s.params.map LcoreParam.lcoreId
  length : s.assignedLcores.length = t.rteMaxLcore
  locality : ∀ (i : Nat) (p : LcoreParam), s.params[i]? = some p → onPortNode t p.portId p.lcoreId = false →
    ∀ lcore ∈ workerLcores t, onPortNode t p.portId lcore = true → lcore ∈ (s.params.take i).map LcoreParam.lcoreId

theorem assigning_start (startDestPort : Nat) : Assigning t startDestPort [] ⟨[], List.replicate t.rteMaxLcore false, 0⟩ where
  order := rfl
  count := rfl
  ring := fun _ _ found => nomatch found
  dest := fun _ member => nomatch member
  workers := fun _ member => nomatch member
  distinct := List.nodup_nil
  flags := by
    intro lcore
    have clear : (List.replicate t.rteMaxLcore false).getD lcore false = false := by
      rw [List.getD_eq_getElem?_getD, List.getElem?_replicate]
      split <;> rfl
    rw [freeLcore, clear]
    exact ⟨(fun same => nomatch same), (fun member => nomatch member)⟩
  length := List.length_replicate
  locality := fun _ _ found => nomatch found

theorem free_after (assignedLcores : List Bool) (taken lcore : Nat) (inside : taken < assignedLcores.length) :
    freeLcore (assignedLcores.set taken true) lcore = false ↔ freeLcore assignedLcores lcore = false ∨ lcore = taken := by
  rw [freeLcore, freeLcore, List.getD_eq_getElem?_getD, List.getD_eq_getElem?_getD]
  by_cases same : lcore = taken
  · subst same
    simp [inside]
  · rw [List.getElem?_set_ne (Ne.symm same)]
    simp [same]

theorem assign_queue_cases (startDestPort port q : Nat) (s next : LcoreState) (taken : assignQueue t startDestPort port s q = .ok next) :
    ∃ lcore, lcore ∈ workerLcores t ∧ freeLcore s.assignedLcores lcore = true ∧
      (onPortNode t port lcore = false → ∀ near ∈ workerLcores t, onPortNode t port near = true →
        freeLcore s.assignedLcores near = false) ∧
      next = ⟨s.params ++ [⟨port, q, lcore % 2 ^ 16, (startDestPort + q) % 2 ^ 16, s.ringId % 2 ^ 16⟩],
        s.assignedLcores.set lcore true, s.ringId + 1⟩ := by
  rw [assignQueue] at taken
  cases picked : Greedy.pick (workerLcores t) (freeLcore s.assignedLcores) (onPortNode t port) with
  | none =>
      rw [picked] at taken
      cases taken
  | some lcore =>
      rw [picked] at taken
      cases taken
      obtain ⟨worker, free⟩ := Greedy.pick_free _ _ _ lcore picked
      exact ⟨lcore, worker, free, Greedy.pick_preferred _ _ _ lcore picked, rfl⟩

theorem assign_queue_step (lcoresFit : t.rteMaxLcore ≤ 2 ^ 16) (startDestPort : Nat) (done : List (Nat × Nat)) (s next : LcoreState)
    (queue : Nat × Nat) (before : Assigning t startDestPort done s)
    (taken : assignQueue t startDestPort queue.1 s queue.2 = .ok next) : Assigning t startDestPort (done ++ [queue]) next := by
  obtain ⟨lcore, worker, free, preferred, rfl⟩ := assign_queue_cases t startDestPort queue.1 queue.2 s next taken
  have below := worker_lcore_below t lcore worker
  have whole : lcore % 2 ^ 16 = lcore := Nat.mod_eq_of_lt (Nat.lt_of_lt_of_le below lcoresFit)
  have fresh : lcore ∉ s.params.map LcoreParam.lcoreId := by
    intro used
    rw [(before.flags lcore).mpr used] at free
    cases free
  have size : s.params.length = done.length := by rw [← before.order, List.length_map]
  rw [whole, before.count]
  have entered : ∀ p, p ∈ s.params ++ [⟨queue.1, queue.2, lcore, (startDestPort + queue.2) % 2 ^ 16, done.length % 2 ^ 16⟩] →
      p ∈ s.params ∨ p = ⟨queue.1, queue.2, lcore, (startDestPort + queue.2) % 2 ^ 16, done.length % 2 ^ 16⟩ :=
    fun p member => (List.mem_append.mp member).imp_right List.mem_singleton.mp
  refine ⟨?_, ?_, ?_, ?_, ?_, ?_, ?_, ?_, ?_⟩
  · rw [List.map_append, before.order]
    rfl
  · rw [List.length_append, List.length_singleton]
  · intro i p found
    rcases Numbered.appended_entry _ _ i p found with old | ⟨position, rfl⟩
    · exact before.ring i p old
    · rw [position, size]
  · intro p member
    rcases entered p member with old | rfl
    · exact before.dest p old
    · rfl
  · intro p member
    rcases entered p member with old | rfl
    · exact before.workers p old
    · exact worker
  · rw [List.map_append, List.map_singleton]
    refine List.nodup_append.mpr ⟨before.distinct, List.nodup_singleton _, ?_⟩
    intro a old b new same
    have reused : a = lcore := same.trans (List.mem_singleton.mp new)
    exact fresh (reused ▸ old)
  · intro other
    rw [free_after _ _ _ (before.length ▸ below), before.flags other, List.map_append, List.map_singleton, List.mem_append,
      List.mem_singleton]
  · rw [List.length_set, before.length]
  · intro i p found
    rcases Numbered.appended_entry _ _ i p found with old | ⟨position, rfl⟩
    · have bound := (List.getElem?_eq_some_iff.mp old).1
      rw [List.take_append_of_le_length (Nat.le_of_lt bound)]
      exact before.locality i p old
    · rw [position, List.take_left' rfl]
      exact fun away other member near => (before.flags other).mp (preferred away other member near)

theorem assign_queue_succeeds (startDestPort : Nat) (done : List (Nat × Nat)) (s : LcoreState) (queue : Nat × Nat)
    (before : Assigning t startDestPort done s) (fewer : done.length < (workerLcores t).length) :
    ∃ next, assignQueue t startDestPort queue.1 s queue.2 = .ok next := by
  have size : (s.params.map LcoreParam.lcoreId).length = done.length := by rw [← before.order, List.length_map, List.length_map]
  obtain ⟨lcore, member, unused⟩ := Greedy.free_remains _ (worker_lcores_nodup t) _ (size ▸ fewer)
  have free : freeLcore s.assignedLcores lcore = true :=
    Bool.not_eq_false _ ▸ fun taken => unused ((before.flags lcore).mp taken)
  obtain ⟨picked, found⟩ := Greedy.pick_some _ _ (onPortNode t queue.1) lcore member free
  rw [assignQueue, found]
  exact ⟨_, rfl⟩

theorem assign_run (lcoresFit : t.rteMaxLcore ≤ 2 ^ 16) (startDestPort : Nat) (done rest : List (Nat × Nat)) (s : LcoreState)
    (before : Assigning t startDestPort done s) (enough : done.length + rest.length ≤ (workerLcores t).length) :
    ∃ last, rest.foldlM (fun s queue => assignQueue t startDestPort queue.1 s queue.2) s = .ok last ∧
      Assigning t startDestPort (done ++ rest) last := by
  induction rest generalizing done s with
  | nil => exact ⟨s, rfl, (List.append_nil done).symm ▸ before⟩
  | cons queue rest ih =>
      rw [List.length_cons] at enough
      obtain ⟨next, taken⟩ := assign_queue_succeeds t startDestPort done s queue before (by omega)
      have after := assign_queue_step t lcoresFit startDestPort done s next queue before taken
      have room : (done ++ [queue]).length + rest.length ≤ (workerLcores t).length := by
        rw [List.length_append, List.length_singleton]
        omega
      obtain ⟨last, run, assigned⟩ := ih (done ++ [queue]) next after room
      refine ⟨last, ?_, ?_⟩
      · rw [List.foldlM_cons, bind_value _ _ _ taken]
        exact run
      · rwa [List.append_assoc] at assigned

-- Every queue has a worker of its own, on the node of its port as long as one
-- is left there.
structure WorkerAssignment (portIds : List Nat) (queuesPerPort startDestPort : Nat) (params : List LcoreParam) : Prop where
  order : params.map (fun p => (p.portId, p.queueId)) = portQueues portIds queuesPerPort
  ring : ∀ (i : Nat) (p : LcoreParam), params[i]? = some p → p.ringId = i
  dest : ∀ p ∈ params, p.destPort = startDestPort + p.queueId
  workers : ∀ p ∈ params, p.lcoreId ∈ workerLcores t
  distinct : (params.map LcoreParam.lcoreId).Nodup
  locality : ∀ (i : Nat) (p : LcoreParam), params[i]? = some p → onPortNode t p.portId p.lcoreId = false →
    ∀ lcore ∈ workerLcores t, onPortNode t p.portId lcore = true → lcore ∈ (params.take i).map LcoreParam.lcoreId

theorem port_queue_below (portIds : List Nat) (queuesPerPort : Nat) (queue : Nat × Nat) (member : queue ∈ portQueues portIds queuesPerPort) :
    queue.2 < queuesPerPort := by
  obtain ⟨port, _, listed⟩ := List.mem_flatMap.mp member
  obtain ⟨q, inside, rfl⟩ := List.mem_map.mp listed
  exact List.mem_range.mp inside

theorem enough_lcores (lcoresFit : t.rteMaxLcore ≤ 2 ^ 16) (portIds : List Nat) (queuesPerPort startDestPort : Nat)
    (below : ∀ port ∈ portIds, port < t.devCountAvail) (total : portIds.length * queuesPerPort < 2 ^ 16)
    (ports : ∀ q < queuesPerPort, startDestPort + q < 2 ^ 16) (enough : portIds.length * queuesPerPort ≤ (workerLcores t).length) :
    ∃ params, generateLcoreParams t portIds queuesPerPort startDestPort = .ok params ∧
      WorkerAssignment t portIds queuesPerPort startDestPort params := by
  have size := port_queues_length portIds queuesPerPort
  have required : portIds.length * queuesPerPort % 2 ^ 64 = portIds.length * queuesPerPort := Nat.mod_eq_of_lt (by omega)
  obtain ⟨last, run, assigned⟩ := assign_run t lcoresFit startDestPort [] (portQueues portIds queuesPerPort) _
    (assigning_start t startDestPort) (by rw [size, List.length_nil, Nat.zero_add]; exact enough)
  rw [List.nil_append] at assigned
  refine ⟨last.params, ?_, assigned.order, ?_, ?_, assigned.workers, assigned.distinct, assigned.locality⟩
  · rw [generateLcoreParams, required]
    simp only [if_neg (Nat.not_lt_of_le enough)]
    rw [assign_ports t queuesPerPort startDestPort portIds _ below, run]
    rfl
  · intro i p found
    have bound := (List.getElem?_eq_some_iff.mp found).1
    have count : last.params.length = portIds.length * queuesPerPort := by
      rw [← size, ← assigned.order, List.length_map]
    rw [assigned.ring i p found, Nat.mod_eq_of_lt (by omega)]
  · intro p member
    have listed : (p.portId, p.queueId) ∈ portQueues portIds queuesPerPort :=
      assigned.order ▸ List.mem_map_of_mem (f := fun p : LcoreParam => (p.portId, p.queueId)) member
    rw [assigned.dest p member, Nat.mod_eq_of_lt (ports _ (port_queue_below _ _ _ listed))]

theorem generate_lcore_params_assigns (lcoresFit : t.rteMaxLcore ≤ 2 ^ 16) (portIds : List Nat) (queuesPerPort startDestPort : Nat)
    (below : ∀ port ∈ portIds, port < t.devCountAvail) (total : portIds.length * queuesPerPort < 2 ^ 16)
    (ports : ∀ q < queuesPerPort, startDestPort + q < 2 ^ 16) :
    (Succeeds (generateLcoreParams t portIds queuesPerPort startDestPort) ↔
      portIds.length * queuesPerPort ≤ (workerLcores t).length) ∧
    (∀ params, generateLcoreParams t portIds queuesPerPort startDestPort = .ok params →
      WorkerAssignment t portIds queuesPerPort startDestPort params) ∧
    ∀ message, generateLcoreParams t portIds queuesPerPort startDestPort = .error message →
      message = "Not enough DPDK worker lcores: need " ++ toString (portIds.length * queuesPerPort) ++ ", found " ++
        toString (workerLcores t).length := by
  by_cases enough : portIds.length * queuesPerPort ≤ (workerLcores t).length
  · obtain ⟨params, generated, assignment⟩ := enough_lcores t lcoresFit portIds queuesPerPort startDestPort below total ports enough
    rw [generated]
    refine ⟨⟨fun _ => enough, fun _ => succeeds_ok params⟩, ?_, (fun message failed => nomatch failed)⟩
    intro other same
    cases same
    exact assignment
  · have required : portIds.length * queuesPerPort % 2 ^ 64 = portIds.length * queuesPerPort := Nat.mod_eq_of_lt (by omega)
    have refused : generateLcoreParams t portIds queuesPerPort startDestPort =
        .error ("Not enough DPDK worker lcores: need " ++ toString (portIds.length * queuesPerPort) ++ ", found " ++
          toString (workerLcores t).length) := by
      rw [generateLcoreParams, required]
      exact if_pos (Nat.lt_of_not_le enough)
    rw [refused]
    refine ⟨⟨fun succeeds => absurd succeeds (succeeds_error _), fun more => absurd more enough⟩, (fun params same => nomatch same), ?_⟩
    intro message same
    cases same
    rfl

end

-- Two ports, the second of unknown socket, and six workers on two nodes.
def twoNodes : LcoreTopology where
  rteMaxLcore := 128
  enabled := fun lcore => lcore < 7
  mainLcore := 0
  lcoreToSocketId := fun lcore => lcore % 2
  devCountAvail := 2
  devSocketId := fun port => if port = 0 then 1 else -1

example : (generateLcoreParams twoNodes [0, 1] 3 60000).toOption.map (·.map LcoreParam.lcoreId) = some [1, 3, 5, 2, 4, 6] := by decide

theorem generate_lcore_params_two_nodes :
    Succeeds (generateLcoreParams twoNodes [0, 1] 3 60000) ∧
      ∀ params, generateLcoreParams twoNodes [0, 1] 3 60000 = .ok params → WorkerAssignment twoNodes [0, 1] 3 60000 params := by
  obtain ⟨succeeds, assigned, _⟩ := generate_lcore_params_assigns twoNodes (by decide) [0, 1] 3 60000 (by decide) (by decide)
    (by omega)
  exact ⟨succeeds.mpr (by decide), assigned⟩

end SpectralLine
