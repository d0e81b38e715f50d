import SpectralLine.QueueWindow

set_option autoImplicit false

namespace SpectralLine

open BoundedQueue CellRing

variable {Item : Type}

namespace CircularBuffer

section

variable (capacity : Nat) (st : CircularBuffer Item) (values : List Item) (produced consumed : Nat) (gaveUp : Bool)

theorem call_enqueue_refines (call : QueueCall) (item : Item) (after : CircularBuffer Item) (label : Option (Label Item))
    (window : Window capacity st values produced consumed) (taken : enqueueStep call item st = some (label, after)) :
    Matched capacity ⟨queueOf values produced consumed, st.enqueuerOf, st.dequeuerOf⟩ label after := by
  cases producer : st.producer with
  | idle =>
      simp only [enqueueStep, producer, Option.map_eq_some_iff, Prod.mk.injEq] at taken
      obtain ⟨slots, called, rfl, rfl⟩ := taken
      obtain ⟨available, balanced, total⟩ := window.slots
      obtain ⟨balancedAfter, waiter, signaller⟩ := LightweightSemaphore.call_wait_balanced _ _ _ _ balanced called
      have here := window.producer
      simp only [ProducerAt, producer] at here
      have kept : ConsumerKept st { st with slots, producer := .waiting call item } := ⟨rfl, rfl, signaller, rfl, rfl⟩
      have next := producer_window capacity st values produced consumed _ produced window kept (Nat.le_refl _) rfl
        ⟨available, balancedAfter, by simpa [slotHeld, producer, waiter, LightweightSemaphore.granted] using total⟩ window.items
        (by simpa [ProducerAt, waiter] using here.2)
      refine ⟨_, ⟨values, produced, consumed, next, rfl⟩, Or.inr ?_⟩
      rw [(consumer_kept st _ kept).2.1]
      have called := @BoundedQueue.Step.callEnqueue Item capacity
        ⟨queueOf values produced consumed, st.enqueuerOf, st.dequeuerOf⟩ call.mayFail item (by simp [enqueuerOf, producer])
      simpa [enqueuerOf, waiter, LightweightSemaphore.refused] using called
  | _ => simp [enqueueStep, producer] at taken

theorem slot_granted_refines (call : QueueCall) (item : Item) (slots : LightweightSemaphore)
    (window : Window capacity st values produced consumed) (producer : st.producer = .waiting call item)
    (finished : st.slots.finishWait = some (true, slots)) :
    Matched capacity ⟨queueOf values produced consumed, st.enqueuerOf, st.dequeuerOf⟩ none
      { st with slots, producer := .claim call item } := by
  obtain ⟨available, balanced, total⟩ := window.slots
  obtain ⟨returned, waiter, signaller, after⟩ := LightweightSemaphore.finish_wait_balanced _ _ _ _ balanced finished
  have here := window.producer
  simp only [ProducerAt, producer] at here
  simp only [slotHeld, producer, returned, LightweightSemaphore.granted] at total
  have kept : ConsumerKept st { st with slots, producer := .claim call item } := ⟨rfl, rfl, signaller, rfl, rfl⟩
  refine stutter capacity st values produced consumed _ ?_ ?_ (consumer_kept st _ kept).2.1
  · exact producer_window capacity st values produced consumed _ produced window kept (Nat.le_refl _) rfl
      ⟨available, after, total⟩ window.items ⟨waiter, here.2⟩
  · simp [enqueuerOf, producer, returned, LightweightSemaphore.refused]

theorem slot_refused_refines (call : QueueCall) (item : Item) (slots : LightweightSemaphore) (after : CircularBuffer Item)
    (label : Option (Label Item)) (window : Window capacity st values produced consumed)
    (producer : st.producer = .waiting call item) (finished : st.slots.finishWait = some (false, slots))
    (taken : producerStep gaveUp st = some (label, after)) :
    Matched capacity ⟨queueOf values produced consumed, st.enqueuerOf, st.dequeuerOf⟩ label after := by
  obtain ⟨available, balanced, total⟩ := window.slots
  obtain ⟨returned, waiter, signaller, still⟩ := LightweightSemaphore.finish_wait_balanced _ _ _ _ balanced finished
  have here := window.producer
  simp only [ProducerAt, producer] at here
  simp only [slotHeld, producer, returned, LightweightSemaphore.granted] at total
  simp only [producerStep, producer, finished] at taken
  by_cases fails : call.mayFail = true
  · have leaves : some (label, after) = some (some (.returnEnqueue false), { st with slots, producer := .idle }) := by
      cases call with
      | waitCall => cases fails
      | tryCall => exact taken.symm
      | timedCall timeoutUsecs => exact taken.symm
    obtain ⟨rfl, rfl⟩ := Prod.mk.inj (Option.some.inj leaves)
    have kept : ConsumerKept st { st with slots, producer := .idle } := ⟨rfl, rfl, signaller, rfl, rfl⟩
    have next := producer_window capacity st values produced consumed _ produced window kept (Nat.le_refl _) rfl
      ⟨available, still, total⟩ window.items ⟨waiter, here.2⟩
    refine ⟨_, ⟨values, produced, consumed, next, rfl⟩, Or.inr ?_⟩
    rw [(consumer_kept st _ kept).2.1]
    exact BoundedQueue.Step.returnEnqueue _ item false (by simp [enqueuerOf, producer, returned, fails, LightweightSemaphore.refused])
  · cases call with
    | tryCall => exact absurd rfl fails
    | timedCall timeoutUsecs => exact absurd rfl fails
    | waitCall =>
        simp only [Option.map_eq_some_iff, Prod.mk.injEq] at taken
        obtain ⟨again, called, rfl, same⟩ := taken
        rw [← producer] at same
        subst same
        obtain ⟨balancedAgain, load, kept⟩ := LightweightSemaphore.call_wait_balanced _ _ _ _ still called
        have kept : ConsumerKept st { st with slots := again } := ⟨rfl, rfl, kept.trans signaller, rfl, rfl⟩
        refine stutter capacity st values produced consumed _ ?_ ?_ (consumer_kept st _ kept).2.1
        · exact producer_window capacity st values produced consumed _ produced window kept (Nat.le_refl _) rfl
            ⟨available, balancedAgain, by simpa [slotHeld, producer, load, LightweightSemaphore.granted] using total⟩ window.items
            (by simpa [ProducerAt, producer, load] using here.2)
        · simp [enqueuerOf, producer, returned, load, QueueCall.mayFail]

theorem slot_wait_refines (call : QueueCall) (item : Item) (slots : LightweightSemaphore)
    (window : Window capacity st values produced consumed) (producer : st.producer = .waiting call item)
    (waited : st.slots.waitStep gaveUp = some slots) :
    Matched capacity ⟨queueOf values produced consumed, st.enqueuerOf, st.dequeuerOf⟩ none { st with slots } := by
  obtain ⟨available, balanced, total⟩ := window.slots
  have here := window.producer
  simp only [ProducerAt, producer] at here
  obtain ⟨free, undecided⟩ := LightweightSemaphore.undecided st.slots.waiter
    (LightweightSemaphore.wait_step_working _ _ _ waited)
  simp only [slotHeld, producer, free, Nat.add_zero] at total
  have kept : ConsumerKept st { st with slots } := ⟨rfl, rfl, LightweightSemaphore.wait_signaller _ _ _ waited, rfl, rfl⟩
  have before : st.enqueuerOf = .called call.mayFail item := by simp [enqueuerOf, producer, undecided]
  cases LightweightSemaphore.wait_balanced _ _ _ _ balanced waited with
  | acquired token returns after =>
      refine stutter capacity st values produced consumed _ ?_ ?_ (consumer_kept st _ kept).2.1
      · exact producer_window capacity st values produced consumed _ produced window kept (Nat.le_refl _) rfl
          ⟨available - 1, after, by simp only [slotHeld, producer, returns, LightweightSemaphore.granted]; omega⟩ window.items
          (by simpa [ProducerAt, producer, returns] using here.2)
      · rw [before]
        simp [enqueuerOf, producer, returns, LightweightSemaphore.refused]
  | refused none returns after =>
      have next := producer_window capacity st values produced consumed _ produced window kept (Nat.le_refl _) rfl
        ⟨0, after, by simp only [slotHeld, producer, returns, LightweightSemaphore.granted]; omega⟩ window.items
        (by simpa [ProducerAt, producer, returns] using here.2)
      cases fails : call.mayFail with
      | false =>
          refine stutter capacity st values produced consumed _ next ?_ (consumer_kept st _ kept).2.1
          rw [before]
          simp [enqueuerOf, producer, fails]
      | true =>
          have size : (queueOf values produced consumed).length = capacity := by
            rw [queueOf, List.length_drop, List.length_take]
            omega
          refine ⟨_, ⟨values, produced, consumed, next, rfl⟩, Or.inr ?_⟩
          rw [(consumer_kept st _ kept).2.1, before, fails]
          have full := @BoundedQueue.Step.full Item capacity
            ⟨queueOf values produced consumed, .called true item, st.dequeuerOf⟩ item rfl size
          simpa [enqueuerOf, producer, returns, fails, LightweightSemaphore.refused] using full
  | working goes after =>
      obtain ⟨awake, working⟩ := goes
      obtain ⟨none, undecided⟩ := LightweightSemaphore.undecided slots.waiter working
      refine stutter capacity st values produced consumed _ ?_ ?_ (consumer_kept st _ kept).2.1
      · exact producer_window capacity st values produced consumed _ produced window kept (Nat.le_refl _) rfl
          ⟨available, after, by simp only [slotHeld, producer, none]; omega⟩ window.items
          (by simpa [ProducerAt, producer] using ⟨awake, here.2⟩)
      · rw [before]
        simp [enqueuerOf, producer, undecided]

theorem slot_claim_refines (call : QueueCall) (item : Item) (window : Window capacity st values produced consumed)
    (producer : st.producer = .claim call item) :
    Matched capacity ⟨queueOf values produced consumed, st.enqueuerOf, st.dequeuerOf⟩ none
      { st with nextSlot := (st.nextSlot + 1) % sizeT, producer := .construct call item st.nextSlot } := by
  obtain ⟨available, balanced, total⟩ := window.slots
  have here := window.producer
  simp only [ProducerAt, producer] at here
  obtain ⟨waiter, signaller, next, length⟩ := here
  simp only [slotHeld, producer] at total
  have kept : ConsumerKept st
      { st with nextSlot := (st.nextSlot + 1) % sizeT, producer := .construct call item st.nextSlot } := ⟨rfl, rfl, rfl, rfl, rfl⟩
  refine stutter capacity st values produced consumed _ ?_ ?_ (consumer_kept st _ kept).2.1
  · exact producer_window capacity st values produced consumed _ produced window kept (Nat.le_refl _) rfl
      ⟨available, balanced, total⟩ window.items
      ⟨waiter, signaller, next, by simp only [next, Nat.mod_add_mod], length⟩
  · simp [enqueuerOf, producer]

theorem consumer_grown (window : Window capacity st values produced consumed) (item : Item) :
    st.ConsumerAt (values ++ [item]) consumed := by
  obtain ⟨available, _, total⟩ := window.items
  have long := (values_length capacity st values produced consumed window).1
  have here := window.consumer
  have earlier : consumed < produced → (values ++ [item])[consumed]? = values[consumed]? := fun below =>
    List.getElem?_append_left (by omega)
  cases consumer : st.consumer with
  | destroy call i moved =>
      simp only [ConsumerAt, consumer, itemHeld] at here total ⊢
      rw [earlier (by omega)]
      exact here
  | signalling call moved =>
      simp only [ConsumerAt, consumer, itemHeld] at here total ⊢
      split_ifs at here total ⊢
      · rw [earlier (by omega)]
        exact here
      · exact here
  | _ =>
      simp only [ConsumerAt, consumer] at here ⊢
      exact here

theorem construct_refines (call : QueueCall) (item : Item) (i : Nat) (items : LightweightSemaphore)
    (window : Window capacity st values produced consumed) (producer : st.producer = .construct call item i)
    (called : st.items.callSignal = some items) :
    st.cells (i &&& st.mask) = none ∧
    Matched capacity ⟨queueOf values produced consumed, st.enqueuerOf, st.dequeuerOf⟩ none
      { st with
        cells := Function.update st.cells (i &&& st.mask) (some item)
        items
        producer := .signalling call item } := by
  obtain ⟨available, balanced, total⟩ := window.items
  obtain ⟨free, balancedSlots, totalSlots⟩ := window.slots
  obtain ⟨after, adding, waiter⟩ := LightweightSemaphore.call_signal_balanced _ _ _ balanced called
  have here := window.producer
  simp only [ProducerAt, producer] at here
  obtain ⟨stopped, signaller, index, next, length⟩ := here
  simp only [slotHeld, producer] at totalSlots
  have kept : ConsumerKept st { st with
      cells := Function.update st.cells (i &&& st.mask) (some item)
      items
      producer := .signalling call item } := ⟨rfl, waiter, rfl, rfl, rfl⟩
  obtain ⟨held, dequeuer, live, consumer⟩ := consumer_kept st _ kept
  obtain ⟨low, high⟩ := first_live_bounds capacity st values produced consumed window
  have room := ring_room capacity st values produced consumed window
  have cell : i &&& st.mask = values.length % (st.mask + 1) := by
    rw [index, masked capacity st values produced consumed window, length]
  refine ⟨?_, ?_⟩
  · rw [cell]
    exact next_dead _ _ _ _ window.cells (by omega) (by omega)
  · have grown : Window capacity { st with
        cells := Function.update st.cells (i &&& st.mask) (some item)
        items
        producer := .signalling call item } (values ++ [item]) produced consumed := by
      constructor
      · exact window.order
      · exact ⟨free, balancedSlots, by simpa [slotHeld, adding] using totalSlots⟩
      · rw [held]
        exact ⟨available, after, total⟩
      · refine ⟨stopped, ?_⟩
        rw [if_pos adding]
        exact ⟨next, by rw [List.length_append, List.length_singleton, length], by rw [← length, List.getElem?_concat_length]⟩
      · exact consumer _ _ (consumer_grown capacity st values produced consumed window item)
      · exact window.ring
      · rw [live, cell]
        exact live_append _ _ _ _ window.cells item (by omega) (by omega)
    have same : queueOf (values ++ [item]) produced consumed = queueOf values produced consumed := by
      rw [queueOf, List.take_append_of_le_length (Nat.le_of_eq length.symm), queueOf]
    refine ⟨_, ⟨values ++ [item], produced, consumed, grown, rfl⟩, Or.inl ⟨rfl, ?_⟩⟩
    rw [same, dequeuer]
    simp [enqueuerOf, producer, adding]

theorem queue_extends (item : Item) (order : consumed ≤ produced) (next : values[produced]? = some item) :
    queueOf values (produced + 1) consumed = queueOf values produced consumed ++ [item] := by
  obtain ⟨inside, rfl⟩ := List.getElem?_eq_some_iff.mp next
  rw [queueOf, queueOf, List.take_succ_eq_append_getElem inside, List.drop_append_of_le_length]
  rw [List.length_take]
  omega

theorem signal_items_refines (call : QueueCall) (item : Item) (items : LightweightSemaphore)
    (window : Window capacity st values produced consumed) (producer : st.producer = .signalling call item)
    (signalled : st.items.signalStep = some items) :
    Matched capacity ⟨queueOf values produced consumed, st.enqueuerOf, st.dequeuerOf⟩ none { st with items } := by
  obtain ⟨available, balanced, total⟩ := window.items
  obtain ⟨free, balancedSlots, totalSlots⟩ := window.slots
  have here := window.producer
  simp only [ProducerAt, producer] at here
  obtain ⟨stopped, phase⟩ := here
  simp only [slotHeld, producer] at totalSlots
  have order := window.order
  by_cases adding : st.items.signaller = .adding
  · obtain ⟨after, passed, waiter⟩ := LightweightSemaphore.adding_balanced _ _ _ balanced adding signalled
    rw [if_pos adding] at phase totalSlots
    obtain ⟨next, length, constructed⟩ := phase
    have kept : ConsumerKept st { st with items } := ⟨rfl, waiter, rfl, rfl, rfl⟩
    have window' := producer_window capacity st values produced consumed { st with items } (produced + 1) window kept
      (Nat.le_succ _) rfl ⟨free, balancedSlots, by simp only [slotHeld, producer, if_neg passed]; omega⟩
      ⟨available + 1, after, by omega⟩
      (by simp only [ProducerAt, producer, if_neg passed]; exact ⟨stopped, next, length⟩)
    refine ⟨_, ⟨values, produced + 1, consumed, window', rfl⟩, Or.inr ?_⟩
    rw [(consumer_kept st _ kept).2.1, queue_extends values produced consumed item order constructed]
    have room : (queueOf values produced consumed).length < capacity := by
      rw [queueOf, List.length_drop, List.length_take]
      omega
    have enqueue := @BoundedQueue.Step.enqueue Item capacity
      ⟨queueOf values produced consumed, st.enqueuerOf, st.dequeuerOf⟩ call.mayFail item
      (by simp [enqueuerOf, producer, adding]) room
    simpa [enqueuerOf, producer, passed] using enqueue
  · have posting : st.items.signaller = .posting := by
      cases signaller : st.items.signaller with
      | idle => simp [LightweightSemaphore.signalStep, signaller] at signalled
      | adding => exact absurd signaller adding
      | posting => rfl
    obtain ⟨after, passed, waiter⟩ := LightweightSemaphore.posting_balanced _ _ _ balanced posting signalled
    rw [if_neg adding] at phase totalSlots
    have kept : ConsumerKept st { st with items } := ⟨rfl, waiter, rfl, rfl, rfl⟩
    refine stutter capacity st values produced consumed _ ?_ ?_ (consumer_kept st _ kept).2.1
    · exact producer_window capacity st values produced consumed _ produced window kept (Nat.le_refl _) rfl
        ⟨free, balancedSlots, by simpa [slotHeld, producer, passed] using totalSlots⟩ ⟨available, after, total⟩
        (by simpa [ProducerAt, producer, passed] using And.intro stopped phase)
    · simp [enqueuerOf, producer, passed, posting]

theorem return_enqueue_refines (call : QueueCall) (item : Item) (window : Window capacity st values produced consumed)
    (producer : st.producer = .signalling call item) (passed : st.items.signaller = .idle) :
    Matched capacity ⟨queueOf values produced consumed, st.enqueuerOf, st.dequeuerOf⟩ (some (.returnEnqueue true))
      { st with producer := .idle } := by
  obtain ⟨free, balancedSlots, totalSlots⟩ := window.slots
  have here := window.producer
  simp only [ProducerAt, producer, passed] at here
  obtain ⟨stopped, next, length⟩ := here
  simp only [slotHeld, producer, passed] at totalSlots
  have kept : ConsumerKept st { st with producer := .idle } := ⟨rfl, rfl, rfl, rfl, rfl⟩
  have window' := producer_window capacity st values produced consumed { st with producer := .idle } produced window kept
    (Nat.le_refl _) rfl ⟨free, balancedSlots, totalSlots⟩ window.items ⟨stopped, passed, next, length⟩
  refine ⟨_, ⟨values, produced, consumed, window', rfl⟩, Or.inr ?_⟩
  rw [(consumer_kept st _ kept).2.1]
  exact BoundedQueue.Step.returnEnqueue _ item true (by simp [enqueuerOf, producer, passed])

theorem producer_refines (after : CircularBuffer Item) (label : Option (Label Item))
    (window : Window capacity st values produced consumed) (taken : producerStep gaveUp st = some (label, after)) :
    Matched capacity ⟨queueOf values produced consumed, st.enqueuerOf, st.dequeuerOf⟩ label after := by
  cases producer : st.producer with
  | idle => simp [producerStep, producer] at taken
  | waiting call item =>
      cases finished : st.slots.finishWait with
      | none =>
          simp only [producerStep, producer, finished, Option.map_eq_some_iff, Prod.mk.injEq] at taken
          obtain ⟨slots, waited, rfl, same⟩ := taken
          rw [← producer] at same
          subst same
          exact slot_wait_refines capacity st values produced consumed gaveUp call item slots window producer waited
      | some result =>
          obtain ⟨acquired, slots⟩ := result
          cases acquired with
          | true =>
              simp only [producerStep, producer, finished, Option.some.injEq, Prod.mk.injEq] at taken
              obtain ⟨rfl, rfl⟩ := taken
              exact slot_granted_refines capacity st values produced consumed call item slots window producer finished
          | false =>
              exact slot_refused_refines capacity st values produced consumed gaveUp call item slots after label window
                producer finished taken
  | claim call item =>
      simp only [producerStep, producer, Option.some.injEq, Prod.mk.injEq] at taken
      obtain ⟨rfl, rfl⟩ := taken
      exact slot_claim_refines capacity st values produced consumed call item window producer
  | construct call item i =>
      simp only [producerStep, producer, Option.map_eq_some_iff, Prod.mk.injEq] at taken
      obtain ⟨items, called, rfl, rfl⟩ := taken
      exact (construct_refines capacity st values produced consumed call item i items window producer called).2
  | signalling call item =>
      by_cases passed : st.items.signaller = .idle
      · simp only [producerStep, producer, passed, if_true, Option.some.injEq, Prod.mk.injEq] at taken
        obtain ⟨rfl, rfl⟩ := taken
        exact return_enqueue_refines capacity st values produced consumed call item window producer passed
      · simp only [producerStep, producer, passed, if_false, Option.map_eq_some_iff, Prod.mk.injEq] at taken
        obtain ⟨items, signalled, rfl, same⟩ := taken
        rw [← producer] at same
        subst same
        exact signal_items_refines capacity st values produced consumed call item items window producer signalled

theorem finished_producer (call : QueueCall) (item : Item) (result : Bool × LightweightSemaphore)
    (producer : st.producer = .waiting call item) (finished : st.slots.finishWait = some result) :
    producerStep gaveUp st ≠ none := by
  obtain ⟨acquired, slots⟩ := result
  have idle : slots.waiter = .idle := by
    cases waiter : st.slots.waiter with
    | returned acquired =>
        simp only [LightweightSemaphore.finishWait, waiter, Option.some.injEq, Prod.mk.injEq] at finished
        rw [← finished.2]
    | _ => simp [LightweightSemaphore.finishWait, waiter] at finished
  cases acquired <;> cases call <;> simp [producerStep, producer, finished, LightweightSemaphore.callWait, idle]

-- A producer that cannot go on sleeps in slots_: the queue is full, or the
-- consumer is about to wake it.
theorem stuck_producer (window : Window capacity st values produced consumed) (calls : st.producer ≠ .idle)
    (stuck : producerStep false st = none) :
    (st.slots.signaller = .posting ∨ (queueOf values produced consumed).length = capacity) ∧ st.items.signaller = .idle := by
  obtain ⟨available, balanced, total⟩ := window.slots
  have here := window.producer
  cases producer : st.producer with
  | idle => exact absurd producer calls
  | claim call item => simp [producerStep, producer] at stuck
  | construct call item i =>
      simp only [ProducerAt, producer] at here
      simp [producerStep, producer, LightweightSemaphore.callSignal, here.2.1] at stuck
  | signalling call item =>
      cases signaller : st.items.signaller <;>
        simp [producerStep, producer, signaller, LightweightSemaphore.signalStep] at stuck
  | waiting call item =>
      simp only [ProducerAt, producer] at here
      obtain ⟨awake, passed, _, length⟩ := here
      refine ⟨?_, passed⟩
      cases unfinished : st.slots.finishWait with
      | some result => exact absurd stuck (finished_producer st false call item result producer unfinished)
      | none =>
          simp only [producerStep, producer, unfinished, Option.map_eq_none_iff] at stuck
          obtain ⟨none, cause⟩ := LightweightSemaphore.wait_stuck _ _ balanced awake unfinished stuck
          refine cause.imp_right fun empty => ?_
          simp only [slotHeld, producer, none] at total
          rw [queueOf, List.length_drop, List.length_take]
          omega

end

end CircularBuffer

end SpectralLine
