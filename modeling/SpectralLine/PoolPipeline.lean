import SpectralLine.Pool
import SpectralLine.QueueRefinement

set_option autoImplicit false

namespace SpectralLine

open BoundedQueue CircularBuffer

-- Where recv2mem stands with the entry it fills: after `refused` it calls
-- wait_enqueue, after `advancing` it takes the next entry of the pool.
inductive FillPhase where
  | filling
  | enqueueing
  | refused
  | advancing
deriving DecidableEq

inductive UsePhase where
  | working
  | dequeueing
deriving DecidableEq

-- A receive thread and the worker of its queue. `sent` and `got` record what an
-- entry held when it was offered and when wait_dequeue returned it.
structure Pipeline (n : Nat) (Batch : Type) where
  pool : Fin n → Batch
  index : Fin n
  ring : CircularBuffer (Fin n)
  held : Option (Fin n)
  filler : FillPhase
  user : UsePhase
  sent : List Batch
  got : List Batch

namespace Pipeline

variable {n : Nat} {Batch : Type}

inductive Action (Batch : Type) where
  | fill (batch : Batch)
  | tryEnqueue
  | waitEnqueue
  | enqueue (gaveUp : Bool)
  | advance
  | use (batch : Batch)
  | waitDequeue
  | dequeue (gaveUp : Bool)

def initial (pool : Fin n → Batch) (start : Fin n) (capacity : Nat) : Pipeline n Batch :=
  ⟨pool, start, .create capacity, none, .filling, .working, [], []⟩

def offered (ring : CircularBuffer (Fin n)) (st : Pipeline n Batch) : Option (Label (Fin n)) → Pipeline n Batch
  | some (.returnEnqueue true) => { st with ring, filler := .advancing }
  | some (.returnEnqueue false) => { st with ring, filler := .refused }
  | _ => { st with ring }

def received (ring : CircularBuffer (Fin n)) (st : Pipeline n Batch) : Option (Label (Fin n)) → Pipeline n Batch
  | some (.returnDequeue (some entry)) =>
      { st with ring, held := some entry, user := .working, got := st.got ++ [st.pool entry] }
  | some (.returnDequeue none) => { st with ring, user := .working }
  | _ => { st with ring }

def step (st : Pipeline n Batch) : Action Batch → Option (Pipeline n Batch)
  | .fill batch =>
      if st.filler = .filling then some { st with pool := Function.update st.pool st.index batch } else none
  | .tryEnqueue =>
      if st.filler = .filling then
        (enqueueStep .tryCall st.index st.ring).map fun (_, ring) =>
          { st with ring, filler := .enqueueing, sent := st.sent ++ [st.pool st.index] }
      else none
  | .waitEnqueue =>
      if st.filler = .refused then
        (enqueueStep .waitCall st.index st.ring).map fun (_, ring) => { st with ring, filler := .enqueueing }
      else none
  | .enqueue gaveUp =>
      if st.filler = .enqueueing then (producerStep gaveUp st.ring).map fun (label, ring) => offered ring st label else none
  | .advance =>
      if st.filler = .advancing then some { st with index := Handoff.next st.index, filler := .filling } else none
  | .use batch =>
      if st.user = .working then st.held.map fun entry => { st with pool := Function.update st.pool entry batch } else none
  | .waitDequeue =>
      if st.user = .working then
        (dequeueStep .waitCall st.ring).map fun (_, ring) => { st with ring, user := .dequeueing }
      else none
  | .dequeue gaveUp =>
      if st.user = .dequeueing then (consumerStep gaveUp st.ring).map fun (label, ring) => received ring st label else none

inductive Reachable (first : Pipeline n Batch) : Pipeline n Batch → Prop
  | start : Reachable first first
  | step (st after : Pipeline n Batch) (action : Action Batch) (before : Reachable first st)
      (taken : step st action = some after) : Reachable first after

-- The handoff sees an entry as given away from the moment its enqueue takes
-- effect, and as held from the moment its dequeue does.
inductive FillAt (st : Pipeline n Batch) : Enqueuer (Fin n) → (handed : Bool) → (sent : List Batch) → Prop
  | filling (phase : st.filler = .filling) : FillAt st .idle false st.sent
  | calling (mayFail : Bool) (sent : List Batch) (phase : st.filler = .enqueueing)
      (last : st.sent = sent ++ [st.pool st.index]) : FillAt st (.called mayFail st.index) false sent
  | stored (phase : st.filler = .enqueueing) : FillAt st (.done st.index true) true st.sent
  | full (sent : List Batch) (phase : st.filler = .enqueueing) (last : st.sent = sent ++ [st.pool st.index]) :
      FillAt st (.done st.index false) false sent
  | refused (sent : List Batch) (phase : st.filler = .refused) (last : st.sent = sent ++ [st.pool st.index]) :
      FillAt st .idle false sent
  | advancing (phase : st.filler = .advancing) : FillAt st .idle true st.sent

inductive UseAt (st : Pipeline n Batch) : Dequeuer (Fin n) → (held : Option (Fin n)) → (taken : List Batch) → Prop
  | working (phase : st.user = .working) : UseAt st .idle st.held st.got
  | calling (phase : st.user = .dequeueing) : UseAt st (.called false) st.held st.got
  | removed (entry : Fin n) (phase : st.user = .dequeueing) :
      UseAt st (.done (some entry)) (some entry) (st.got ++ [st.pool entry])

structure Shows (st : Pipeline n Batch) (abs : BoundedQueue.State (Fin n)) (view : Handoff.State n Batch) : Prop where
  pool : view.pool = st.pool
  index : view.index = st.index
  queue : view.queue = abs.queue
  filler : FillAt st abs.enqueuer view.handed view.sent
  user : UseAt st abs.dequeuer view.held view.taken

-- Each side's place depends on its own fields and on the pool.
theorem fill_kept (st after : Pipeline n Batch) (filler : after.filler = st.filler) (index : after.index = st.index)
    (entry : after.pool after.index = st.pool st.index) (kept : after.sent = st.sent) (enqueuer : Enqueuer (Fin n))
    (handed : Bool) (sent : List Batch) (at_ : FillAt st enqueuer handed sent) : FillAt after enqueuer handed sent := by
  cases at_ with
  | filling phase =>
      rw [← kept]
      exact .filling (filler.trans phase)
  | calling mayFail sent phase last =>
      rw [← index]
      exact .calling mayFail sent (filler.trans phase) (by rw [kept, entry, last])
  | stored phase =>
      rw [← kept, ← index]
      exact .stored (filler.trans phase)
  | full sent phase last =>
      rw [← index]
      exact .full sent (filler.trans phase) (by rw [kept, entry, last])
  | refused sent phase last => exact .refused sent (filler.trans phase) (by rw [kept, entry, last])
  | advancing phase =>
      rw [← kept]
      exact .advancing (filler.trans phase)

theorem use_kept (st after : Pipeline n Batch) (user : after.user = st.user) (same : after.held = st.held)
    (kept : after.got = st.got) (dequeuer : Dequeuer (Fin n)) (held : Option (Fin n)) (taken : List Batch)
    (entry : ∀ e, held = some e → after.pool e = st.pool e) (at_ : UseAt st dequeuer held taken) :
    UseAt after dequeuer held taken := by
  cases at_ with
  | working phase =>
      rw [← same, ← kept]
      exact .working (user.trans phase)
  | calling phase =>
      rw [← same, ← kept]
      exact .calling (user.trans phase)
  | removed e phase =>
      rw [← kept, ← entry e rfl]
      exact .removed e (user.trans phase)

theorem at_filling (st : Pipeline n Batch) (enqueuer : Enqueuer (Fin n)) (handed : Bool) (sent : List Batch)
    (at_ : FillAt st enqueuer handed sent) (phase : st.filler = .filling) :
    enqueuer = .idle ∧ handed = false ∧ sent = st.sent := by
  cases at_ with
  | filling _ => exact ⟨rfl, rfl, rfl⟩
  | calling _ _ other _ => cases phase.symm.trans other
  | stored other => cases phase.symm.trans other
  | full _ other _ => cases phase.symm.trans other
  | refused _ other _ => cases phase.symm.trans other
  | advancing other => cases phase.symm.trans other

theorem at_refused (st : Pipeline n Batch) (enqueuer : Enqueuer (Fin n)) (handed : Bool) (sent : List Batch)
    (at_ : FillAt st enqueuer handed sent) (phase : st.filler = .refused) :
    enqueuer = .idle ∧ handed = false ∧ st.sent = sent ++ [st.pool st.index] := by
  cases at_ with
  | refused sent _ last => exact ⟨rfl, rfl, last⟩
  | filling other => cases phase.symm.trans other
  | calling _ _ other _ => cases phase.symm.trans other
  | stored other => cases phase.symm.trans other
  | full _ other _ => cases phase.symm.trans other
  | advancing other => cases phase.symm.trans other

theorem at_advancing (st : Pipeline n Batch) (enqueuer : Enqueuer (Fin n)) (handed : Bool) (sent : List Batch)
    (at_ : FillAt st enqueuer handed sent) (phase : st.filler = .advancing) :
    enqueuer = .idle ∧ handed = true ∧ sent = st.sent := by
  cases at_ with
  | advancing _ => exact ⟨rfl, rfl, rfl⟩
  | filling other => cases phase.symm.trans other
  | calling _ _ other _ => cases phase.symm.trans other
  | stored other => cases phase.symm.trans other
  | full _ other _ => cases phase.symm.trans other
  | refused _ other _ => cases phase.symm.trans other

theorem at_working (st : Pipeline n Batch) (dequeuer : Dequeuer (Fin n)) (held : Option (Fin n)) (taken : List Batch)
    (at_ : UseAt st dequeuer held taken) (phase : st.user = .working) :
    dequeuer = .idle ∧ held = st.held ∧ taken = st.got := by
  cases at_ with
  | working _ => exact ⟨rfl, rfl, rfl⟩
  | calling other => cases phase.symm.trans other
  | removed _ other => cases phase.symm.trans other

section

variable (capacity : Nat) (positive : 0 < n) (spare : capacity + 2 ≤ n)

def Simulated (st : Pipeline n Batch) : Prop :=
  ∃ abs view produced consumed, CircularBuffer.Refines capacity st.ring abs ∧ Shows st abs view ∧
    Handoff.Window capacity positive view produced consumed

-- An effect of the queue is an action of the handoff.
theorem effect_shows (st : Pipeline n Batch) (abs next : BoundedQueue.State (Fin n)) (view : Handoff.State n Batch)
    (produced consumed : Nat) (shows : Shows st abs view) (window : Handoff.Window capacity positive view produced consumed)
    (taken : BoundedQueue.Step capacity abs none next) :
    ∃ view produced consumed, Shows st next view ∧ Handoff.Window capacity positive view produced consumed := by
  obtain ⟨pool, index, queue, filler, user⟩ := shows
  cases taken with
  | enqueue mayFail item called room =>
      rw [called] at filler
      obtain ⟨handed, sent⟩ : view.handed = false ∧ st.sent = view.sent ++ [st.pool st.index] ∧ item = st.index ∧
          st.filler = .enqueueing := by
        generalize view.handed = handed at filler
        generalize view.sent = sent at filler
        cases filler with
        | calling mayFail sent phase last => exact ⟨rfl, last, rfl, phase⟩
      obtain ⟨last, rfl, phase⟩ := sent
      have moved := Handoff.enqueue_window capacity positive view produced consumed window handed (by rwa [queue])
      refine ⟨_, _, _, ?_, moved⟩
      refine ⟨pool, index, ?_, ?_, user⟩
      · rw [index, queue]
      · rw [index, pool, ← last]
        exact .stored phase
  | full item called full =>
      rw [called] at filler
      refine ⟨view, produced, consumed, ⟨pool, index, queue, ?_, user⟩, window⟩
      generalize view.handed = handed at filler ⊢
      generalize view.sent = sent at filler ⊢
      cases filler with
      | calling mayFail sent phase last => exact .full sent phase last
  | dequeue mayFail item rest called head =>
      rw [called] at user
      rw [head] at queue
      obtain ⟨got, phase⟩ : view.taken = st.got ∧ st.user = .dequeueing := by
        generalize view.held = held at user
        generalize view.taken = got at user
        cases user with
        | calling phase => exact ⟨rfl, phase⟩
      have moved := Handoff.dequeue_window capacity positive view item rest produced consumed window queue
      refine ⟨_, _, _, ?_, moved⟩
      refine ⟨pool, index, rfl, filler, ?_⟩
      rw [got, pool]
      exact .removed item phase
  | empty called empty =>
      rw [called] at user
      generalize view.held = held at user
      generalize view.taken = got at user
      cases user

theorem enqueue_simulated (st : Pipeline n Batch) (gaveUp : Bool) (ring : CircularBuffer (Fin n))
    (label : Option (Label (Fin n))) (simulated : Simulated capacity positive st)
    (taken : producerStep gaveUp st.ring = some (label, ring)) : Simulated capacity positive (offered ring st label) := by
  obtain ⟨abs, view, produced, consumed, ⟨values, made, used, ringWindow, rfl⟩, shows, window⟩ := simulated
  obtain ⟨next, refines, hidden | shown⟩ :=
    producer_refines capacity st.ring values made used gaveUp ring label ringWindow taken
  · obtain ⟨rfl, rfl⟩ := hidden
    exact ⟨_, view, produced, consumed, refines,
      ⟨shows.pool, shows.index, shows.queue, fill_kept st (offered ring st _) rfl rfl rfl rfl _ _ _ shows.filler, use_kept st (offered ring st _) rfl rfl rfl _ _ _ (fun _ _ => rfl) shows.user⟩, window⟩
  · rcases producer_label gaveUp st.ring ring label taken with rfl | ⟨stored, rfl⟩
    · obtain ⟨view', made', used', shows', window'⟩ :=
        effect_shows capacity positive st _ next view produced consumed shows window shown
      exact ⟨next, view', made', used', refines,
        ⟨shows'.pool, shows'.index, shows'.queue, fill_kept st (offered ring st _) rfl rfl rfl rfl _ _ _ shows'.filler,
          use_kept st (offered ring st _) rfl rfl rfl _ _ _ (fun _ _ => rfl) shows'.user⟩, window'⟩
    · obtain ⟨pool, index, queue, filler, user⟩ := shows
      cases shown with
      | returnEnqueue item stored done =>
          simp only at done filler user
          rw [done] at filler
          cases stored with
          | true =>
              refine ⟨_, view, produced, consumed, refines, ⟨pool, index, queue, ?_, use_kept st (offered ring st _) rfl rfl rfl _ _ _ (fun _ _ => rfl) user⟩, window⟩
              generalize view.handed = handed at filler ⊢
              generalize view.sent = sent at filler ⊢
              cases filler with
              | stored phase => exact .advancing rfl
          | false =>
              refine ⟨_, view, produced, consumed, refines, ⟨pool, index, queue, ?_, use_kept st (offered ring st _) rfl rfl rfl _ _ _ (fun _ _ => rfl) user⟩, window⟩
              generalize view.handed = handed at filler ⊢
              generalize view.sent = sent at filler ⊢
              cases filler with
              | full sent phase last => exact .refused sent rfl last

theorem dequeue_simulated (st : Pipeline n Batch) (gaveUp : Bool) (ring : CircularBuffer (Fin n))
    (label : Option (Label (Fin n))) (simulated : Simulated capacity positive st)
    (taken : consumerStep gaveUp st.ring = some (label, ring)) : Simulated capacity positive (received ring st label) := by
  obtain ⟨abs, view, produced, consumed, ⟨values, made, used, ringWindow, rfl⟩, shows, window⟩ := simulated
  obtain ⟨next, refines, hidden | shown⟩ :=
    consumer_refines capacity st.ring values made used gaveUp ring label ringWindow taken
  · obtain ⟨rfl, rfl⟩ := hidden
    exact ⟨_, view, produced, consumed, refines,
      ⟨shows.pool, shows.index, shows.queue, fill_kept st (received ring st _) rfl rfl rfl rfl _ _ _ shows.filler, use_kept st (received ring st _) rfl rfl rfl _ _ _ (fun _ _ => rfl) shows.user⟩, window⟩
  · rcases consumer_label gaveUp st.ring ring label taken with rfl | ⟨got, rfl⟩
    · obtain ⟨view', made', used', shows', window'⟩ :=
        effect_shows capacity positive st _ next view produced consumed shows window shown
      exact ⟨next, view', made', used', refines,
        ⟨shows'.pool, shows'.index, shows'.queue, fill_kept st (received ring st _) rfl rfl rfl rfl _ _ _ shows'.filler,
          use_kept st (received ring st _) rfl rfl rfl _ _ _ (fun _ _ => rfl) shows'.user⟩, window'⟩
    · obtain ⟨pool, index, queue, filler, user⟩ := shows
      cases shown with
      | returnDequeue got done =>
          simp only at done filler user
          rw [done] at user
          cases got with
          | none =>
              generalize view.held = held at user
              generalize view.taken = taken at user
              cases user
          | some entry =>
              refine ⟨_, view, produced, consumed, refines,
                ⟨pool, index, queue, fill_kept st (received ring st _) rfl rfl rfl rfl _ _ _ filler, ?_⟩, window⟩
              generalize view.held = held at user ⊢
              generalize view.taken = taken at user ⊢
              cases user with
              | removed entry phase => exact .working rfl

-- An enqueue begins: from then on the entry counts as offered.
theorem begin_enqueue_simulated (st after : Pipeline n Batch) (call : QueueCall) (label : Option (Label (Fin n)))
    (ring : CircularBuffer (Fin n)) (sent : List Batch) (simulated : Simulated capacity positive st)
    (offers : ∀ enqueuer handed before, FillAt st enqueuer handed before →
      handed = false ∧ sent = before ++ [st.pool st.index])
    (taken : enqueueStep call st.index st.ring = some (label, ring))
    (same : after = { st with ring, filler := .enqueueing, sent }) : Simulated capacity positive after := by
  obtain ⟨abs, view, produced, consumed, ⟨values, made, used, ringWindow, rfl⟩, shows, window⟩ := simulated
  obtain ⟨pool, index, queue, filler, user⟩ := shows
  obtain ⟨next, refines, hidden | shown⟩ :=
    call_enqueue_refines capacity st.ring values made used call st.index ring label ringWindow taken
  · obtain ⟨rfl, rfl⟩ := hidden
    cases producer : st.ring.producer <;> simp [enqueueStep, producer] at taken
  · subst same
    have named : ∃ mayFail, label = some (.callEnqueue mayFail st.index) := by
      cases producer : st.ring.producer with
      | idle =>
          simp only [enqueueStep, producer, Option.map_eq_some_iff, Prod.mk.injEq] at taken
          obtain ⟨_, _, rfl, _⟩ := taken
          exact ⟨call.mayFail, rfl⟩
      | _ => simp [enqueueStep, producer] at taken
    obtain ⟨mayFail, rfl⟩ := named
    cases shown with
    | callEnqueue mayFail item idle =>
        obtain ⟨free, last⟩ := offers _ _ _ filler
        refine ⟨_, view, produced, consumed, refines, ⟨pool, index, queue, ?_, ?_⟩, window⟩
        · rw [free]
          exact .calling mayFail view.sent rfl last
        · exact use_kept st { st with ring, filler := .enqueueing, sent } rfl rfl rfl _ _ _ (fun _ _ => rfl) user

theorem wait_dequeue_simulated (st : Pipeline n Batch) (label : Option (Label (Fin n))) (ring : CircularBuffer (Fin n))
    (simulated : Simulated capacity positive st) (taken : dequeueStep .waitCall st.ring = some (label, ring)) :
    Simulated capacity positive { st with ring, user := .dequeueing } := by
  obtain ⟨abs, view, produced, consumed, ⟨values, made, used, ringWindow, rfl⟩, shows, window⟩ := simulated
  obtain ⟨pool, index, queue, filler, user⟩ := shows
  have named : label = some (.callDequeue false) := by
    cases consumer : st.ring.consumer with
    | idle =>
        simp only [dequeueStep, consumer, Option.map_eq_some_iff, Prod.mk.injEq] at taken
        obtain ⟨_, _, rfl, _⟩ := taken
        rfl
    | _ => simp [dequeueStep, consumer] at taken
  subst named
  obtain ⟨next, refines, hidden | shown⟩ :=
    call_dequeue_refines capacity st.ring values made used .waitCall ring _ ringWindow taken
  · cases hidden.1
  · cases shown with
    | callDequeue mayFail idle =>
        simp only at idle user
        rw [idle] at user
        refine ⟨_, view, produced, consumed, refines,
          ⟨pool, index, queue, fill_kept st { st with ring, user := .dequeueing } rfl rfl rfl rfl _ _ _ filler, ?_⟩, window⟩
        generalize view.held = held at user ⊢
        generalize view.taken = got at user ⊢
        cases user with
        | working phase => exact .calling rfl

include spare in
theorem fill_simulated (st : Pipeline n Batch) (batch : Batch) (simulated : Simulated capacity positive st)
    (phase : st.filler = .filling) :
    Simulated capacity positive { st with pool := Function.update st.pool st.index batch } := by
  obtain ⟨abs, view, produced, consumed, refines, ⟨pool, index, queue, filler, user⟩, window⟩ := simulated
  obtain ⟨idle, free, sent⟩ := at_filling st _ _ _ filler phase
  have alone := (Handoff.filling_unshared capacity positive spare view produced consumed window free).2
  have filled := Handoff.fill_window capacity positive spare view batch produced consumed window free
  refine ⟨abs, _, produced, consumed, refines, ?_, filled⟩
  refine ⟨by rw [pool, index], index, queue, ?_, ?_⟩
  · rw [idle, free, sent]
    exact .filling phase
  · refine use_kept st { st with pool := Function.update st.pool st.index batch } rfl rfl rfl _ _ _ ?_ user
    intro e held
    have other : e ≠ st.index := by
      rintro rfl
      exact alone (by rw [held, index])
    exact Function.update_of_ne other batch st.pool

include spare in
theorem use_simulated (st : Pipeline n Batch) (entry : Fin n) (batch : Batch) (simulated : Simulated capacity positive st)
    (phase : st.user = .working) (holds : st.held = some entry) :
    Simulated capacity positive { st with pool := Function.update st.pool entry batch } := by
  obtain ⟨abs, view, produced, consumed, refines, ⟨pool, index, queue, filler, user⟩, window⟩ := simulated
  obtain ⟨idle, kept, got⟩ := at_working st _ _ _ user phase
  have held : view.held = some entry := kept.trans holds
  have used := Handoff.use_window capacity positive spare view entry batch produced consumed window held
  refine ⟨abs, _, produced, consumed, refines, ?_, used⟩
  refine ⟨by rw [pool], index, queue, ?_, ?_⟩
  · by_cases free : view.handed = false
    · have alone := (Handoff.filling_unshared capacity positive spare view produced consumed window free).2
      refine fill_kept st { st with pool := Function.update st.pool entry batch } rfl rfl ?_ rfl _ _ _ filler
      have other : st.index ≠ entry := by
        rintro rfl
        exact alone (by rw [held, index])
      exact Function.update_of_ne other batch st.pool
    · generalize view.handed = handed at filler free ⊢
      generalize view.sent = sent at filler ⊢
      generalize abs.enqueuer = enqueuer at filler ⊢
      cases filler with
      | stored phase => exact .stored phase
      | advancing phase => exact .advancing phase
      | _ => exact absurd rfl free
  · rw [idle, kept, got]
    exact .working phase

theorem advance_simulated (st : Pipeline n Batch) (simulated : Simulated capacity positive st)
    (phase : st.filler = .advancing) :
    Simulated capacity positive { st with index := Handoff.next st.index, filler := .filling } := by
  obtain ⟨abs, view, produced, consumed, refines, ⟨pool, index, queue, filler, user⟩, window⟩ := simulated
  obtain ⟨idle, given, sent⟩ := at_advancing st _ _ _ filler phase
  have moved := Handoff.advance_window capacity positive view produced consumed window given
  refine ⟨abs, _, produced, consumed, refines, ?_, moved⟩
  refine ⟨pool, by rw [index], queue, ?_, use_kept st { st with index := Handoff.next st.index, filler := .filling } rfl rfl rfl _ _ _ (fun _ _ => rfl) user⟩
  rw [idle, sent]
  exact .filling rfl

include spare in
theorem step_simulated (st after : Pipeline n Batch) (action : Action Batch) (simulated : Simulated capacity positive st)
    (taken : step st action = some after) : Simulated capacity positive after := by
  cases action with
  | fill batch =>
      by_cases phase : st.filler = .filling
      · simp only [step, if_pos phase, Option.some.injEq] at taken
        subst taken
        exact fill_simulated capacity positive spare st batch simulated phase
      · simp [step, phase] at taken
  | tryEnqueue =>
      by_cases phase : st.filler = .filling
      · simp only [step, if_pos phase, Option.map_eq_some_iff, Prod.exists] at taken
        obtain ⟨label, ring, begins, same⟩ := taken
        refine begin_enqueue_simulated capacity positive st after .tryCall label ring _ simulated ?_ begins same.symm
        intro enqueuer handed before at_
        obtain ⟨_, free, sent⟩ := at_filling st _ _ _ at_ phase
        exact ⟨free, by rw [sent]⟩
      · simp [step, phase] at taken
  | waitEnqueue =>
      by_cases phase : st.filler = .refused
      · simp only [step, if_pos phase, Option.map_eq_some_iff, Prod.exists] at taken
        obtain ⟨label, ring, begins, same⟩ := taken
        refine begin_enqueue_simulated capacity positive st after .waitCall label ring _ simulated ?_ begins same.symm
        intro enqueuer handed before at_
        obtain ⟨_, free, last⟩ := at_refused st _ _ _ at_ phase
        exact ⟨free, last⟩
      · simp [step, phase] at taken
  | enqueue gaveUp =>
      by_cases phase : st.filler = .enqueueing
      · simp only [step, if_pos phase, Option.map_eq_some_iff, Prod.exists] at taken
        obtain ⟨label, ring, moves, rfl⟩ := taken
        exact enqueue_simulated capacity positive st gaveUp ring label simulated moves
      · simp [step, phase] at taken
  | advance =>
      by_cases phase : st.filler = .advancing
      · simp only [step, if_pos phase, Option.some.injEq] at taken
        subst taken
        exact advance_simulated capacity positive st simulated phase
      · simp [step, phase] at taken
  | use batch =>
      by_cases phase : st.user = .working
      · simp only [step, if_pos phase, Option.map_eq_some_iff] at taken
        obtain ⟨entry, holds, rfl⟩ := taken
        exact use_simulated capacity positive spare st entry batch simulated phase holds
      · simp [step, phase] at taken
  | waitDequeue =>
      by_cases phase : st.user = .working
      · simp only [step, if_pos phase, Option.map_eq_some_iff, Prod.exists] at taken
        obtain ⟨label, ring, begins, rfl⟩ := taken
        exact wait_dequeue_simulated capacity positive st label ring simulated begins
      · simp [step, phase] at taken
  | dequeue gaveUp =>
      by_cases phase : st.user = .dequeueing
      · simp only [step, if_pos phase, Option.map_eq_some_iff, Prod.exists] at taken
        obtain ⟨label, ring, moves, rfl⟩ := taken
        exact dequeue_simulated capacity positive st gaveUp ring label simulated moves
      · simp [step, phase] at taken

include spare in
theorem reachable_simulated (pool : Fin n → Batch) (roomy : 1 ≤ capacity) (fits : capacity < 2 ^ 63) (st : Pipeline n Batch)
    (reached : Reachable (initial pool (Handoff.entry positive 0) capacity) st) : Simulated capacity positive st := by
  induction reached with
  | start =>
      refine ⟨_, Handoff.initial pool (Handoff.entry positive 0), 0, 0,
        ⟨[], 0, 0, create_window capacity roomy (fits.le.trans (by decide)), rfl⟩,
        ⟨rfl, rfl, rfl, .filling rfl, .working rfl⟩, ?_⟩
      exact ⟨rfl, by simp [Handoff.initial], rfl, rfl, Nat.le_refl _, Nat.zero_le _, rfl⟩
  | step st after action before taken ih => exact step_simulated capacity positive spare st after action ih taken

theorem view_sent (st : Pipeline n Batch) (enqueuer : Enqueuer (Fin n)) (handed : Bool) (sent : List Batch)
    (at_ : FillAt st enqueuer handed sent) : sent <+: st.sent ∧ st.sent.length ≤ sent.length + 1 := by
  cases at_ with
  | filling _ => exact ⟨List.prefix_refl _, Nat.le_succ _⟩
  | calling _ sent _ last => exact ⟨last ▸ List.prefix_append _ _, by rw [last, List.length_append]; exact Nat.le_refl _⟩
  | stored _ => exact ⟨List.prefix_refl _, Nat.le_succ _⟩
  | full sent _ last => exact ⟨last ▸ List.prefix_append _ _, by rw [last, List.length_append]; exact Nat.le_refl _⟩
  | refused sent _ last => exact ⟨last ▸ List.prefix_append _ _, by rw [last, List.length_append]; exact Nat.le_refl _⟩
  | advancing _ => exact ⟨List.prefix_refl _, Nat.le_succ _⟩

theorem view_taken (st : Pipeline n Batch) (dequeuer : Dequeuer (Fin n)) (held : Option (Fin n)) (taken : List Batch)
    (at_ : UseAt st dequeuer held taken) : st.got <+: taken ∧ taken.length ≤ st.got.length + 1 := by
  cases at_ with
  | working _ => exact ⟨List.prefix_refl _, Nat.le_succ _⟩
  | calling _ => exact ⟨List.prefix_refl _, Nat.le_succ _⟩
  | removed e _ => exact ⟨List.prefix_append _ _, by rw [List.length_append]; exact Nat.le_refl _⟩

-- While the receive thread fills an entry, neither the worker nor the ring has
-- it, and the worker gets what was sent, in order.
include spare in
theorem simulated_owned (st : Pipeline n Batch) (simulated : Simulated capacity positive st) :
    (st.filler = .filling → st.user = .working → st.held ≠ some st.index) ∧
    (st.filler = .filling → ∀ s ≤ st.ring.mask, st.ring.cells s ≠ some st.index) ∧
    st.got <+: st.sent ∧ st.sent.length ≤ st.got.length + capacity + 2 := by
  obtain ⟨abs, view, produced, consumed, ⟨values, made, used, ringWindow, rfl⟩, ⟨pool, index, queue, filler, user⟩, window⟩ :=
    simulated
  refine ⟨?_, ?_, ?_, ?_⟩
  · intro filling working
    obtain ⟨_, free, _⟩ := at_filling st _ _ _ filler filling
    obtain ⟨_, held, _⟩ := at_working st _ _ _ user working
    rw [← held, ← index]
    exact (Handoff.filling_unshared capacity positive spare view produced consumed window free).2
  · intro filling s inside holds
    obtain ⟨idle, free, _⟩ := at_filling st _ _ _ filler filling
    have stopped : st.ring.producer = .idle := by
      cases producer : st.ring.producer with
      | idle => rfl
      | waiting call item =>
          simp only [enqueuerOf, producer] at idle
          split_ifs at idle
      | claim call item => simp [enqueuerOf, producer] at idle
      | construct call item i => simp [enqueuerOf, producer] at idle
      | signalling call item =>
          simp only [enqueuerOf, producer] at idle
          split_ifs at idle
    have member := cell_queued capacity st.ring values made used ringWindow stopped s inside st.index holds
    have alone := (Handoff.filling_unshared capacity positive spare view produced consumed window free).1
    rw [index, queue] at alone
    exact alone member
  · obtain ⟨early, _⟩ := view_sent st _ _ _ filler
    obtain ⟨late, _⟩ := view_taken st _ _ _ user
    have between : view.taken <+: view.sent := by
      rw [window.contents]
      exact List.prefix_append _ _
    exact late.trans (between.trans early)
  · obtain ⟨_, short⟩ := view_sent st _ _ _ filler
    obtain ⟨_, few⟩ := view_taken st _ _ _ user
    have contents := congrArg List.length window.contents
    have listed := congrArg List.length window.queue
    have bounded := window.bounded
    rw [List.length_append, List.length_map] at contents
    rw [List.length_map, List.length_range'] at listed
    omega

end

end Pipeline

theorem queue_capacity_bounds (s : PoolSettings) : 1 ≤ s.queueCapacity ∧ s.queueCapacity < 2 ^ 63 := by
  have small : s.memoryPoolPerStream * (1024 * 1024 * 1024) % 2 ^ 64 < 2 ^ 64 := Nat.mod_lt _ (by decide)
  have even : 2 ∣ sizeofPacket * s.batchsize % 2 ^ 64 :=
    (Nat.dvd_mod_iff (by decide)).mpr (Dvd.dvd.mul_right (by decide) _)
  simp only [PoolSettings.queueCapacity, PoolSettings.calcPoolSize]
  generalize s.memoryPoolPerStream * (1024 * 1024 * 1024) % 2 ^ 64 = memory at small ⊢
  generalize sizeofPacket * s.batchsize % 2 ^ 64 = bytes at even ⊢
  have half : memory / bytes ≤ memory / 2 := by
    rcases Nat.eq_zero_or_pos bytes with zero | some
    · rw [zero, Nat.div_zero]
      exact Nat.zero_le _
    · exact Nat.div_le_div_left (Nat.le_of_dvd some even) (by decide)
  omega

def PoolSettings.initialPipeline (s : PoolSettings) : Pipeline s.poolCapacity (PacketBatch s.batchsize) :=
  Pipeline.initial (fun _ => allocatePacketBatch s.batchsize) (Handoff.entry s.pool_capacity_pos 0) s.queueCapacity

-- The pool of init over the ring of the queue, whatever the interleaving.
theorem pipeline_ownership (s : PoolSettings) (st : Pipeline s.poolCapacity (PacketBatch s.batchsize))
    (reached : Pipeline.Reachable s.initialPipeline st) :
    (st.filler = .filling → st.user = .working → st.held ≠ some st.index) ∧
    (st.filler = .filling → ∀ cell ≤ st.ring.mask, st.ring.cells cell ≠ some st.index) ∧
    st.got <+: st.sent ∧ st.sent.length ≤ st.got.length + s.queueCapacity + 2 := by
  obtain ⟨roomy, fits⟩ := queue_capacity_bounds s
  have simulated := Pipeline.reachable_simulated s.queueCapacity s.pool_capacity_pos (Nat.le_refl _) _ roomy fits st reached
  exact Pipeline.simulated_owned s.queueCapacity s.pool_capacity_pos (Nat.le_refl _) st simulated

theorem pipeline_ownership_sample : samplePool.initialPipeline.held ≠ some samplePool.initialPipeline.index ∧
    ∀ cell ≤ samplePool.initialPipeline.ring.mask,
      samplePool.initialPipeline.ring.cells cell ≠ some samplePool.initialPipeline.index := by
  obtain ⟨unheld, absent, _⟩ := pipeline_ownership samplePool samplePool.initialPipeline Pipeline.Reachable.start
  exact ⟨unheld rfl rfl, absent rfl⟩

end SpectralLine
