import SpectralLine.QueueWindow

set_option autoImplicit false

namespace SpectralLine

open BoundedQueue CellRing

variable {Item : Type}

namespace CircularBuffer

section

variable (capacity : Nat) (st : CircularBuffer Item) (values : List Item) (produced consumed : Nat) (gaveUp : Bool)

theorem call_dequeue_refines (call : QueueCall) (after : CircularBuffer Item) (label : Option (Label Item))
    (window : Window capacity st values produced consumed) (taken : dequeueStep call st = some (label, after)) :
    Matched capacity ⟨queueOf values produced consumed, st.enqueuerOf, st.dequeuerOf⟩ label after := by
  cases consumer : st.consumer with
  | idle =>
      simp only [dequeueStep, consumer, Option.map_eq_some_iff, Prod.mk.injEq] at taken
      obtain ⟨items, called, rfl, rfl⟩ := taken
      obtain ⟨available, balanced, total⟩ := window.items
      obtain ⟨balancedAfter, waiter, signaller⟩ := LightweightSemaphore.call_wait_balanced _ _ _ _ balanced called
      have here := window.consumer
      simp only [ConsumerAt, consumer] at here
      have live := window.cells
      simp only [firstLive, consumer] at live
      have kept : ProducerKept st { st with items, consumer := .waiting call } := ⟨rfl, rfl, signaller, rfl, rfl⟩
      have next := consumer_window capacity st values produced consumed _ consumed window kept window.order window.slots
        ⟨available, balancedAfter, by simpa [itemHeld, consumer, waiter, LightweightSemaphore.granted] using total⟩
        (by simpa [ConsumerAt, waiter] using here.2) live
      refine ⟨_, ⟨values, produced, consumed, next, rfl⟩, Or.inr ?_⟩
      rw [(producer_kept st _ kept).2.1]
      have called := @BoundedQueue.Step.callDequeue Item capacity
        ⟨queueOf values produced consumed, st.enqueuerOf, st.dequeuerOf⟩ call.mayFail (by simp [dequeuerOf, consumer])
      simpa [dequeuerOf, waiter, LightweightSemaphore.refused] using called
  | _ => simp [dequeueStep, consumer] at taken

theorem item_granted_refines (call : QueueCall) (items : LightweightSemaphore)
    (window : Window capacity st values produced consumed) (consumer : st.consumer = .waiting call)
    (finished : st.items.finishWait = some (true, items)) :
    Matched capacity ⟨queueOf values produced consumed, st.enqueuerOf, st.dequeuerOf⟩ none
      { st with items, consumer := .claim call } := by
  obtain ⟨available, balanced, total⟩ := window.items
  obtain ⟨returned, waiter, signaller, after⟩ := LightweightSemaphore.finish_wait_balanced _ _ _ _ balanced finished
  have here := window.consumer
  simp only [ConsumerAt, consumer] at here
  simp only [itemHeld, consumer, returned, LightweightSemaphore.granted] at total
  have live := window.cells
  simp only [firstLive, consumer] at live
  have kept : ProducerKept st { st with items, consumer := .claim call } := ⟨rfl, rfl, signaller, rfl, rfl⟩
  refine stutter capacity st values produced consumed _ ?_ (producer_kept st _ kept).2.1 ?_
  · exact consumer_window capacity st values produced consumed _ consumed window kept window.order window.slots
      ⟨available, after, total⟩ ⟨waiter, here.2⟩ live
  · simp [dequeuerOf, consumer, returned, LightweightSemaphore.refused]

theorem item_refused_refines (call : QueueCall) (items : LightweightSemaphore) (after : CircularBuffer Item)
    (label : Option (Label Item)) (window : Window capacity st values produced consumed)
    (consumer : st.consumer = .waiting call) (finished : st.items.finishWait = some (false, items))
    (taken : consumerStep gaveUp st = some (label, after)) :
    Matched capacity ⟨queueOf values produced consumed, st.enqueuerOf, st.dequeuerOf⟩ label after := by
  obtain ⟨available, balanced, total⟩ := window.items
  obtain ⟨returned, waiter, signaller, still⟩ := LightweightSemaphore.finish_wait_balanced _ _ _ _ balanced finished
  have here := window.consumer
  simp only [ConsumerAt, consumer] at here
  simp only [itemHeld, consumer, returned, LightweightSemaphore.granted] at total
  have live := window.cells
  simp only [firstLive, consumer] at live
  simp only [consumerStep, consumer, finished] at taken
  by_cases fails : call.mayFail = true
  · have leaves : some (label, after) = some (some (.returnDequeue none), { st with items, consumer := .idle }) := by
      cases call with
      | waitCall => cases fails
      | tryCall => exact taken.symm
      | timedCall timeoutUsecs => exact taken.symm
    obtain ⟨rfl, rfl⟩ := Prod.mk.inj (Option.some.inj leaves)
    have kept : ProducerKept st { st with items, consumer := .idle } := ⟨rfl, rfl, signaller, rfl, rfl⟩
    have next := consumer_window capacity st values produced consumed _ consumed window kept window.order window.slots
      ⟨available, still, total⟩ ⟨waiter, here.2⟩ live
    refine ⟨_, ⟨values, produced, consumed, next, rfl⟩, Or.inr ?_⟩
    rw [(producer_kept st _ kept).2.1]
    exact BoundedQueue.Step.returnDequeue _ none (by simp [dequeuerOf, consumer, returned, fails, LightweightSemaphore.refused])
  · cases call with
    | tryCall => exact absurd rfl fails
    | timedCall timeoutUsecs => exact absurd rfl fails
    | waitCall =>
        simp only [Option.map_eq_some_iff, Prod.mk.injEq] at taken
        obtain ⟨again, called, rfl, same⟩ := taken
        rw [← consumer] at same
        subst same
        obtain ⟨balancedAgain, load, kept⟩ := LightweightSemaphore.call_wait_balanced _ _ _ _ still called
        have kept : ProducerKept st { st with items := again } := ⟨rfl, rfl, kept.trans signaller, rfl, rfl⟩
        refine stutter capacity st values produced consumed _ ?_ (producer_kept st _ kept).2.1 ?_
        · exact consumer_window capacity st values produced consumed _ consumed window kept window.order window.slots
            ⟨available, balancedAgain, by simpa [itemHeld, consumer, load, LightweightSemaphore.granted] using total⟩
            (by simpa [ConsumerAt, consumer, load] using here.2) (by simpa [firstLive, consumer] using live)
        · simp [dequeuerOf, consumer, returned, load, QueueCall.mayFail]

theorem item_wait_refines (call : QueueCall) (items : LightweightSemaphore)
    (window : Window capacity st values produced consumed) (consumer : st.consumer = .waiting call)
    (waited : st.items.waitStep gaveUp = some items) :
    Matched capacity ⟨queueOf values produced consumed, st.enqueuerOf, st.dequeuerOf⟩ none { st with items } := by
  obtain ⟨available, balanced, total⟩ := window.items
  have here := window.consumer
  simp only [ConsumerAt, consumer] at here
  have live := window.cells
  simp only [firstLive, consumer] at live
  obtain ⟨free, undecided⟩ := LightweightSemaphore.undecided st.items.waiter
    (LightweightSemaphore.wait_step_working _ _ _ waited)
  simp only [itemHeld, consumer, free, Nat.add_zero] at total
  have kept : ProducerKept st { st with items } := ⟨rfl, rfl, LightweightSemaphore.wait_signaller _ _ _ waited, rfl, rfl⟩
  have before : st.dequeuerOf = .called call.mayFail := by simp [dequeuerOf, consumer, undecided]
  cases LightweightSemaphore.wait_balanced _ _ _ _ balanced waited with
  | acquired token returns after =>
      refine stutter capacity st values produced consumed _ ?_ (producer_kept st _ kept).2.1 ?_
      · exact consumer_window capacity st values produced consumed _ consumed window kept window.order window.slots
          ⟨available - 1, after, by simp only [itemHeld, consumer, returns, LightweightSemaphore.granted]; omega⟩
          (by simpa [ConsumerAt, consumer, returns] using here.2) (by simpa [firstLive, consumer] using live)
      · rw [before]
        simp [dequeuerOf, consumer, returns, LightweightSemaphore.refused]
  | refused none returns after =>
      have next := consumer_window capacity st values produced consumed _ consumed window kept window.order window.slots
        ⟨0, after, by simp only [itemHeld, consumer, returns, LightweightSemaphore.granted]; omega⟩
        (by simpa [ConsumerAt, consumer, returns] using here.2) (by simpa [firstLive, consumer] using live)
      cases fails : call.mayFail with
      | false =>
          refine stutter capacity st values produced consumed _ next (producer_kept st _ kept).2.1 ?_
          rw [before]
          simp [dequeuerOf, consumer, fails]
      | true =>
          have drained : queueOf values produced consumed = [] := by
            rw [queueOf, List.drop_eq_nil_iff, List.length_take]
            omega
          refine ⟨_, ⟨values, produced, consumed, next, rfl⟩, Or.inr ?_⟩
          rw [(producer_kept st _ kept).2.1, before, fails]
          have empty := @BoundedQueue.Step.empty Item capacity
            ⟨queueOf values produced consumed, st.enqueuerOf, .called true⟩ rfl drained
          simpa [dequeuerOf, consumer, returns, fails, LightweightSemaphore.refused] using empty
  | working goes after =>
      obtain ⟨awake, working⟩ := goes
      obtain ⟨none, undecided⟩ := LightweightSemaphore.undecided items.waiter working
      refine stutter capacity st values produced consumed _ ?_ (producer_kept st _ kept).2.1 ?_
      · exact consumer_window capacity st values produced consumed _ consumed window kept window.order window.slots
          ⟨available, after, by simp only [itemHeld, consumer, none]; omega⟩
          (by simpa [ConsumerAt, consumer] using ⟨awake, here.2⟩) (by simpa [firstLive, consumer] using live)
      · rw [before]
        simp [dequeuerOf, consumer, undecided]

theorem item_claim_refines (call : QueueCall) (window : Window capacity st values produced consumed)
    (consumer : st.consumer = .claim call) :
    Matched capacity ⟨queueOf values produced consumed, st.enqueuerOf, st.dequeuerOf⟩ none
      { st with nextItem := (st.nextItem + 1) % sizeT, consumer := .move call st.nextItem } := by
  obtain ⟨available, balanced, total⟩ := window.items
  have here := window.consumer
  simp only [ConsumerAt, consumer] at here
  obtain ⟨waiter, signaller, next⟩ := here
  simp only [itemHeld, consumer] at total
  have live := window.cells
  simp only [firstLive, consumer] at live
  have kept : ProducerKept st
      { st with nextItem := (st.nextItem + 1) % sizeT, consumer := .move call st.nextItem } := ⟨rfl, rfl, rfl, rfl, rfl⟩
  refine stutter capacity st values produced consumed _ ?_ (producer_kept st _ kept).2.1 ?_
  · exact consumer_window capacity st values produced consumed _ consumed window kept window.order window.slots
      ⟨available, balanced, total⟩ ⟨waiter, signaller, next, by simp only [next, Nat.mod_add_mod]⟩ live
  · simp [dequeuerOf, consumer]

-- The object a consumer moves out or destroys is the next value.
theorem item_cell (call : QueueCall) (i : Nat) (window : Window capacity st values produced consumed)
    (holds : st.consumer = .move call i ∨ ∃ item, st.consumer = .destroy call i item) :
    i &&& st.mask = consumed % (st.mask + 1) ∧ consumed < produced ∧
    st.cells (i &&& st.mask) = values[consumed]? ∧ (values[consumed]?).isSome = true := by
  obtain ⟨available, _, total⟩ := window.items
  obtain ⟨long, _⟩ := values_length capacity st values produced consumed window
  have here := window.consumer
  have live := window.cells
  have index : i = consumed % sizeT ∧ consumed < produced ∧ st.firstLive consumed = consumed := by
    rcases holds with consumer | ⟨item, consumer⟩
    · simp only [ConsumerAt, consumer, itemHeld, firstLive] at here total ⊢
      exact ⟨here.2.2.1, by omega, trivial⟩
    · simp only [ConsumerAt, consumer, itemHeld, firstLive] at here total ⊢
      exact ⟨here.2.2.1, by omega, trivial⟩
  obtain ⟨rfl, below, first⟩ := index
  rw [first] at live
  have cell := masked capacity st values produced consumed window consumed
  refine ⟨cell, below, ?_, ?_⟩
  · rw [cell]
    exact first_live _ _ _ _ live (by omega)
  · rw [List.getElem?_eq_getElem (by omega)]
    rfl

theorem move_refines (call : QueueCall) (i : Nat) (window : Window capacity st values produced consumed)
    (consumer : st.consumer = .move call i) :
    Matched capacity ⟨queueOf values produced consumed, st.enqueuerOf, st.dequeuerOf⟩ none
      { st with consumer := .destroy call i (st.cells (i &&& st.mask)) } := by
  obtain ⟨available, balanced, total⟩ := window.items
  obtain ⟨_, _, read, _⟩ := item_cell capacity st values produced consumed call i window (Or.inl consumer)
  have here := window.consumer
  simp only [ConsumerAt, consumer] at here
  simp only [itemHeld, consumer] at total
  have live := window.cells
  simp only [firstLive, consumer] at live
  have kept : ProducerKept st { st with consumer := .destroy call i (st.cells (i &&& st.mask)) } := ⟨rfl, rfl, rfl, rfl, rfl⟩
  refine stutter capacity st values produced consumed _ ?_ (producer_kept st _ kept).2.1 ?_
  · exact consumer_window capacity st values produced consumed _ consumed window kept window.order window.slots
      ⟨available, balanced, total⟩ ⟨here.1, here.2.1, here.2.2.1, here.2.2.2, read.symm⟩ live
  · simp [dequeuerOf, consumer]

theorem destroy_refines (call : QueueCall) (i : Nat) (item : Option Item) (slots : LightweightSemaphore)
    (window : Window capacity st values produced consumed) (consumer : st.consumer = .destroy call i item)
    (called : st.slots.callSignal = some slots) :
    Matched capacity ⟨queueOf values produced consumed, st.enqueuerOf, st.dequeuerOf⟩ none
      { st with
        cells := Function.update st.cells (i &&& st.mask) none
        slots
        consumer := .signalling call item } := by
  obtain ⟨available, balanced, total⟩ := window.slots
  obtain ⟨cell, below, _⟩ := item_cell capacity st values produced consumed call i window (Or.inr ⟨item, consumer⟩)
  obtain ⟨after, adding, waiter⟩ := LightweightSemaphore.call_signal_balanced _ _ _ balanced called
  obtain ⟨_, high⟩ := values_length capacity st values produced consumed window
  have room := ring_room capacity st values produced consumed window
  have here := window.consumer
  simp only [ConsumerAt, consumer] at here
  obtain ⟨stopped, _, _, next, moved⟩ := here
  have live := window.cells
  simp only [firstLive, consumer] at live
  have kept : ProducerKept st { st with
      cells := Function.update st.cells (i &&& st.mask) none
      slots
      consumer := .signalling call item } := ⟨rfl, waiter, rfl, rfl, rfl⟩
  refine stutter capacity st values produced consumed _ ?_ (producer_kept st _ kept).2.1 ?_
  · refine consumer_window capacity st values produced consumed _ consumed window kept window.order
      ⟨available, after, total⟩ ?_ ⟨stopped, ?_⟩ ?_
    · obtain ⟨filled, balancedItems, totalItems⟩ := window.items
      exact ⟨filled, balancedItems, by simpa [itemHeld, consumer, adding] using totalItems⟩
    · rw [if_pos adding]
      exact ⟨next, moved⟩
    · simp only [firstLive, if_pos adding, cell]
      exact live_drop _ _ _ _ live (by omega)
  · simp [dequeuerOf, consumer, adding]

theorem queue_head (item : Item) (below : consumed < produced) (head : values[consumed]? = some item) :
    queueOf values produced consumed = item :: queueOf values produced (consumed + 1) := by
  obtain ⟨inside, rfl⟩ := List.getElem?_eq_some_iff.mp head
  have taken : consumed < (values.take produced).length := by
    rw [List.length_take]
    omega
  rw [queueOf, queueOf, ← List.getElem_cons_drop taken, List.getElem_take]

theorem signal_slots_refines (call : QueueCall) (item : Option Item) (slots : LightweightSemaphore)
    (window : Window capacity st values produced consumed) (consumer : st.consumer = .signalling call item)
    (signalled : st.slots.signalStep = some slots) :
    Matched capacity ⟨queueOf values produced consumed, st.enqueuerOf, st.dequeuerOf⟩ none { st with slots } := by
  obtain ⟨available, balanced, total⟩ := window.slots
  obtain ⟨filled, balancedItems, totalItems⟩ := window.items
  obtain ⟨long, _⟩ := values_length capacity st values produced consumed window
  have here := window.consumer
  simp only [ConsumerAt, consumer] at here
  obtain ⟨stopped, phase⟩ := here
  simp only [itemHeld, consumer] at totalItems
  have live := window.cells
  simp only [firstLive, consumer] at live
  by_cases adding : st.slots.signaller = .adding
  · obtain ⟨after, passed, waiter⟩ := LightweightSemaphore.adding_balanced _ _ _ balanced adding signalled
    rw [if_pos adding] at phase totalItems live
    obtain ⟨next, moved⟩ := phase
    have below : consumed < produced := by omega
    have kept : ProducerKept st { st with slots } := ⟨rfl, waiter, rfl, rfl, rfl⟩
    have window' := consumer_window capacity st values produced consumed { st with slots } (consumed + 1) window kept below
      ⟨available + 1, after, by omega⟩ ⟨filled, balancedItems, by simp only [itemHeld, consumer, if_neg passed]; omega⟩
      (by simp only [ConsumerAt, consumer, if_neg passed]; exact ⟨stopped, next⟩)
      (by simpa [firstLive, consumer, passed] using live)
    refine ⟨_, ⟨values, produced, consumed + 1, window', rfl⟩, Or.inr ?_⟩
    have inside := List.getElem?_eq_getElem (l := values) (i := consumed) (by omega)
    rw [inside] at moved
    subst moved
    rw [(producer_kept st _ kept).2.1, queue_head values produced consumed _ below inside]
    have dequeue := @BoundedQueue.Step.dequeue Item capacity
      ⟨values[consumed] :: queueOf values produced (consumed + 1), st.enqueuerOf, st.dequeuerOf⟩ call.mayFail values[consumed] _
      (by simp [dequeuerOf, consumer, adding]) rfl
    simpa [dequeuerOf, consumer, passed] using dequeue
  · have posting : st.slots.signaller = .posting := by
      cases signaller : st.slots.signaller with
      | idle => simp [LightweightSemaphore.signalStep, signaller] at signalled
      | adding => exact absurd signaller adding
      | posting => rfl
    obtain ⟨after, passed, waiter⟩ := LightweightSemaphore.posting_balanced _ _ _ balanced posting signalled
    rw [if_neg adding] at phase totalItems live
    have kept : ProducerKept st { st with slots } := ⟨rfl, waiter, rfl, rfl, rfl⟩
    refine stutter capacity st values produced consumed _ ?_ (producer_kept st _ kept).2.1 ?_
    · exact consumer_window capacity st values produced consumed _ consumed window kept window.order
        ⟨available, after, total⟩ ⟨filled, balancedItems, by simpa [itemHeld, consumer, passed] using totalItems⟩
        (by simpa [ConsumerAt, consumer, passed] using And.intro stopped phase) (by simpa [firstLive, consumer, passed] using live)
    · simp [dequeuerOf, consumer, passed, posting]

theorem return_dequeue_refines (call : QueueCall) (item : Option Item) (window : Window capacity st values produced consumed)
    (consumer : st.consumer = .signalling call item) (passed : st.slots.signaller = .idle) :
    Matched capacity ⟨queueOf values produced consumed, st.enqueuerOf, st.dequeuerOf⟩ (some (.returnDequeue item))
      { st with consumer := .idle } := by
  obtain ⟨filled, balancedItems, totalItems⟩ := window.items
  have here := window.consumer
  simp only [ConsumerAt, consumer, passed] at here
  obtain ⟨stopped, next⟩ := here
  simp only [itemHeld, consumer, passed] at totalItems
  have live := window.cells
  simp only [firstLive, consumer, passed] at live
  have kept : ProducerKept st { st with consumer := .idle } := ⟨rfl, rfl, rfl, rfl, rfl⟩
  have window' := consumer_window capacity st values produced consumed { st with consumer := .idle } consumed window kept
    window.order window.slots ⟨filled, balancedItems, totalItems⟩ ⟨stopped, passed, next⟩ live
  refine ⟨_, ⟨values, produced, consumed, window', rfl⟩, Or.inr ?_⟩
  rw [(producer_kept st _ kept).2.1]
  exact BoundedQueue.Step.returnDequeue _ item (by simp [dequeuerOf, consumer, passed])

theorem consumer_refines (after : CircularBuffer Item) (label : Option (Label Item))
    (window : Window capacity st values produced consumed) (taken : consumerStep gaveUp st = some (label, after)) :
    Matched capacity ⟨queueOf values produced consumed, st.enqueuerOf, st.dequeuerOf⟩ label after := by
  cases consumer : st.consumer with
  | idle => simp [consumerStep, consumer] at taken
  | waiting call =>
      cases finished : st.items.finishWait with
      | none =>
          simp only [consumerStep, consumer, finished, Option.map_eq_some_iff, Prod.mk.injEq] at taken
          obtain ⟨items, waited, rfl, same⟩ := taken
          rw [← consumer] at same
          subst same
          exact item_wait_refines capacity st values produced consumed gaveUp call items window consumer waited
      | some result =>
          obtain ⟨acquired, items⟩ := result
          cases acquired with
          | true =>
              simp only [consumerStep, consumer, finished, Option.some.injEq, Prod.mk.injEq] at taken
              obtain ⟨rfl, rfl⟩ := taken
              exact item_granted_refines capacity st values produced consumed call items window consumer finished
          | false =>
              exact item_refused_refines capacity st values produced consumed gaveUp call items after label window consumer
                finished taken
  | claim call =>
      simp only [consumerStep, consumer, Option.some.injEq, Prod.mk.injEq] at taken
      obtain ⟨rfl, rfl⟩ := taken
      exact item_claim_refines capacity st values produced consumed call window consumer
  | move call i =>
      simp only [consumerStep, consumer, Option.some.injEq, Prod.mk.injEq] at taken
      obtain ⟨rfl, rfl⟩ := taken
      exact move_refines capacity st values produced consumed call i window consumer
  | destroy call i item =>
      simp only [consumerStep, consumer, Option.map_eq_some_iff, Prod.mk.injEq] at taken
      obtain ⟨slots, called, rfl, rfl⟩ := taken
      exact destroy_refines capacity st values produced consumed call i item slots window consumer called
  | signalling call item =>
      by_cases passed : st.slots.signaller = .idle
      · simp only [consumerStep, consumer, passed, if_true, Option.some.injEq, Prod.mk.injEq] at taken
        obtain ⟨rfl, rfl⟩ := taken
        exact return_dequeue_refines capacity st values produced consumed call item window consumer passed
      · simp only [consumerStep, consumer, passed, if_false, Option.map_eq_some_iff, Prod.mk.injEq] at taken
        obtain ⟨slots, signalled, rfl, same⟩ := taken
        rw [← consumer] at same
        subst same
        exact signal_slots_refines capacity st values produced consumed call item slots window consumer signalled

theorem finished_consumer (call : QueueCall) (result : Bool × LightweightSemaphore) (consumer : st.consumer = .waiting call)
    (finished : st.items.finishWait = some result) : consumerStep gaveUp st ≠ none := by
  obtain ⟨acquired, items⟩ := result
  have idle : items.waiter = .idle := by
    cases waiter : st.items.waiter with
    | returned acquired =>
        simp only [LightweightSemaphore.finishWait, waiter, Option.some.injEq, Prod.mk.injEq] at finished
        rw [← finished.2]
    | _ => simp [LightweightSemaphore.finishWait, waiter] at finished
  cases acquired <;> cases call <;> simp [consumerStep, consumer, finished, LightweightSemaphore.callWait, idle]

theorem stuck_consumer (window : Window capacity st values produced consumed) (calls : st.consumer ≠ .idle)
    (stuck : consumerStep false st = none) :
    (st.items.signaller = .posting ∨ queueOf values produced consumed = []) ∧ st.slots.signaller = .idle := by
  obtain ⟨available, balanced, total⟩ := window.items
  have here := window.consumer
  cases consumer : st.consumer with
  | idle => exact absurd consumer calls
  | claim call => simp [consumerStep, consumer] at stuck
  | move call i => simp [consumerStep, consumer] at stuck
  | destroy call i item =>
      simp only [ConsumerAt, consumer] at here
      simp [consumerStep, consumer, LightweightSemaphore.callSignal, here.2.1] at stuck
  | signalling call item =>
      cases signaller : st.slots.signaller <;>
        simp [consumerStep, consumer, signaller, LightweightSemaphore.signalStep] at stuck
  | waiting call =>
      simp only [ConsumerAt, consumer] at here
      obtain ⟨awake, passed, _⟩ := here
      refine ⟨?_, passed⟩
      cases unfinished : st.items.finishWait with
      | some result => exact absurd stuck (finished_consumer st false call result consumer unfinished)
      | none =>
          simp only [consumerStep, consumer, unfinished, Option.map_eq_none_iff] at stuck
          obtain ⟨none, cause⟩ := LightweightSemaphore.wait_stuck _ _ balanced awake unfinished stuck
          refine cause.imp_right fun empty => ?_
          simp only [itemHeld, consumer, none] at total
          rw [queueOf, List.drop_eq_nil_iff, List.length_take]
          omega

end

end CircularBuffer

end SpectralLine
