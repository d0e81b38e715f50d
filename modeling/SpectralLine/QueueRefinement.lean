import SpectralLine.QueueProducer
import SpectralLine.QueueConsumer

set_option autoImplicit false

namespace SpectralLine

open BoundedQueue CellRing

variable {Item : Type}

namespace CircularBuffer

section

variable (capacity : Nat) (st : CircularBuffer Item) (values : List Item) (produced consumed : Nat)

theorem step_refines (action : Action Item) (after : CircularBuffer Item) (label : Option (Label Item))
    (window : Window capacity st values produced consumed) (taken : step st action = some (label, after)) :
    Matched capacity ⟨queueOf values produced consumed, st.enqueuerOf, st.dequeuerOf⟩ label after := by
  cases action with
  | callEnqueue call item => exact call_enqueue_refines capacity st values produced consumed call item after label window taken
  | producer gaveUp => exact producer_refines capacity st values produced consumed gaveUp after label window taken
  | callDequeue call => exact call_dequeue_refines capacity st values produced consumed call after label window taken
  | consumer gaveUp => exact consumer_refines capacity st values produced consumed gaveUp after label window taken

end

open Labelled

def ringSystem (Item : Type) (capacity : Nat) : System (CircularBuffer Item) (Label Item) where
  start := fun st => st = create capacity
  step := fun st label after => ∃ action, step st action = some (label, after)

theorem ring_simulation (capacity : Nat) (positive : 1 ≤ capacity) (fits : capacity < 2 ^ 63) :
    Simulation (ringSystem Item capacity) (queueSystem capacity) (Refines capacity) := by
  constructor
  · rintro st rfl
    exact ⟨_, rfl, [], 0, 0, create_window capacity positive (fits.le.trans (by decide)), rfl⟩
  · rintro st abs label after ⟨values, produced, consumed, window, rfl⟩ ⟨action, taken⟩
    exact step_refines capacity st values produced consumed action after label window taken

-- Whatever the interleaving of the two threads, callers see a bounded FIFO
-- whose calls take effect at one point.
theorem linearizable (capacity : Nat) (positive : 1 ≤ capacity) (fits : capacity < 2 ^ 63) (trace : List (Label Item))
    (st : CircularBuffer Item) (reached : Reaches (ringSystem Item capacity) trace st) :
    (∃ abs, Reaches (queueSystem capacity) trace abs) ∧
    (accountOf trace).delivered <+: (accountOf trace).accepted ++ (accountOf trace).offered.toList := by
  obtain ⟨abs, arrived, _⟩ := trace_inclusion _ _ _ (ring_simulation capacity positive fits) trace st reached
  exact ⟨⟨abs, arrived⟩, delivered_prefix capacity trace abs arrived⟩

-- What the memory and the counters of the ring may never do.
structure Sound (capacity : Nat) (st : CircularBuffer Item) : Prop where
  constructs : ∀ call item i, st.producer = .construct call item i → st.cells (i &&& st.mask) = none
  moves : ∀ call i, st.consumer = .move call i → (st.cells (i &&& st.mask)).isSome = true
  destroys : ∀ call i item, st.consumer = .destroy call i item → item.isSome = true ∧ st.cells (i &&& st.mask) = item
  apart : ∀ call item i other j, st.producer = .construct call item i →
    (st.consumer = .move other j ∨ ∃ moved, st.consumer = .destroy other j moved) → i &&& st.mask ≠ j &&& st.mask
  slots : -1 ≤ st.slots.count ∧ st.slots.count ≤ capacity
  items : -1 ≤ st.items.count ∧ st.items.count ≤ capacity

theorem window_sound (capacity : Nat) (st : CircularBuffer Item) (values : List Item) (produced consumed : Nat)
    (window : Window capacity st values produced consumed) : Sound capacity st := by
  obtain ⟨free, balancedSlots, totalSlots⟩ := window.slots
  obtain ⟨filled, balancedItems, totalItems⟩ := window.items
  have order := window.order
  obtain ⟨low, high⟩ := first_live_bounds capacity st values produced consumed window
  obtain ⟨long, short⟩ := values_length capacity st values produced consumed window
  have room := ring_room capacity st values produced consumed window
  have raw : ∀ call item i, st.producer = .construct call item i → st.cells (i &&& st.mask) = none := by
    intro call item i producer
    have here := window.producer
    simp only [ProducerAt, producer] at here
    simp only [slotHeld, producer] at totalSlots
    rw [here.2.2.1, masked capacity st values produced consumed window, ← here.2.2.2.2]
    exact next_dead _ _ _ _ window.cells (by omega) (by omega)
  constructor
  · exact raw
  · intro call i consumer
    obtain ⟨_, _, read, present⟩ := item_cell capacity st values produced consumed call i window (Or.inl consumer)
    rw [read]
    exact present
  · intro call i item consumer
    obtain ⟨_, _, read, present⟩ := item_cell capacity st values produced consumed call i window (Or.inr ⟨item, consumer⟩)
    have here := window.consumer
    simp only [ConsumerAt, consumer] at here
    rw [read, ← here.2.2.2.2]
    exact ⟨present, rfl⟩
  · intro call item i other j producer consumer same
    obtain ⟨_, _, read, present⟩ := item_cell capacity st values produced consumed other j window consumer
    rw [← read, ← same, raw call item i producer] at present
    cases present
  · obtain ⟨least, most⟩ := LightweightSemaphore.balanced_count _ _ balancedSlots
    exact ⟨least, by omega⟩
  · obtain ⟨least, most⟩ := LightweightSemaphore.balanced_count _ _ balancedItems
    exact ⟨least, by omega⟩

theorem memory_safe (capacity : Nat) (positive : 1 ≤ capacity) (fits : capacity < 2 ^ 63) (trace : List (Label Item))
    (st : CircularBuffer Item) (reached : Reaches (ringSystem Item capacity) trace st) : Sound capacity st := by
  obtain ⟨abs, _, values, produced, consumed, window, _⟩ :=
    trace_inclusion _ _ _ (ring_simulation capacity positive fits) trace st reached
  exact window_sound capacity st values produced consumed window

-- ~BlockingReaderWriterCircularBuffer: the cells after its loop.
def destruct (st : CircularBuffer Item) : Nat → Option Item :=
  (List.range st.items.availableApprox).foldl
    (fun cells i => Function.update cells (((st.nextItem + i) % sizeT) &&& st.mask) none) st.cells

-- Between calls the destructor destroys each object that is there once and
-- leaves none.
theorem destructor_frees (capacity : Nat) (positive : 1 ≤ capacity) (fits : capacity < 2 ^ 63) (trace : List (Label Item))
    (st : CircularBuffer Item) (reached : Reaches (ringSystem Item capacity) trace st) (enqueued : st.producer = .idle)
    (dequeued : st.consumer = .idle) :
    (∀ i < st.items.availableApprox, (st.cells (((st.nextItem + i) % sizeT) &&& st.mask)).isSome = true) ∧
    (∀ i < st.items.availableApprox, ∀ j < i, ((st.nextItem + i) % sizeT) &&& st.mask ≠ ((st.nextItem + j) % sizeT) &&& st.mask) ∧
    ∀ s ≤ st.mask, st.destruct s = none := by
  obtain ⟨abs, _, values, produced, consumed, window, _⟩ :=
    trace_inclusion _ _ _ (ring_simulation capacity positive fits) trace st reached
  obtain ⟨available, balanced, total⟩ := window.items
  obtain ⟨_, short⟩ := values_length capacity st values produced consumed window
  have room := ring_room capacity st values produced consumed window
  have atProducer := window.producer
  have atConsumer := window.consumer
  have live := window.cells
  simp only [ProducerAt, enqueued] at atProducer
  simp only [ConsumerAt, dequeued] at atConsumer
  simp only [firstLive, dequeued] at live
  simp only [itemHeld, dequeued] at total
  simp only [LightweightSemaphore.Balanced, atConsumer.1] at balanced
  have count : st.items.availableApprox = available := by
    rw [LightweightSemaphore.availableApprox, balanced.1]
    split_ifs <;> omega
  have cell : ∀ i, ((st.nextItem + i) % sizeT) &&& st.mask = (consumed + i) % (st.mask + 1) := by
    intro i
    rw [atConsumer.2.2, Nat.mod_add_mod, masked capacity st values produced consumed window]
  rw [count]
  refine ⟨?_, ?_, ?_⟩
  · intro i below
    rw [cell, live.live (consumed + i) (Nat.le_add_right _ _) (by omega), List.getElem?_eq_getElem (by omega)]
    rfl
  · intro i below j before
    rw [cell, cell]
    exact (BlockRing.mod_apart _ _ _ (by omega) (by omega)).symm
  · intro s inside
    have drained := drain_live _ _ _ _ live (by omega) available
    have same : st.destruct = drain (st.mask + 1) consumed available st.cells := by
      simp only [destruct, drain, count, cell]
    rw [same]
    exact drained.dead s (by omega) fun k low high => by omega

def play (st : CircularBuffer Item) : List (Action Item) → Option (List (Label Item) × CircularBuffer Item)
  | [] => some ([], st)
  | action :: rest => do
      let (label, after) ← step st action
      let (labels, last) ← play after rest
      return (label.toList ++ labels, last)

theorem play_reaches (capacity : Nat) (actions : List (Action Item)) (trace labels : List (Label Item))
    (st last : CircularBuffer Item) (reached : Reaches (ringSystem Item capacity) trace st)
    (played : play st actions = some (labels, last)) : Reaches (ringSystem Item capacity) (trace ++ labels) last := by
  induction actions generalizing trace labels st with
  | nil =>
      simp only [play, Option.some.injEq, Prod.mk.injEq] at played
      obtain ⟨rfl, rfl⟩ := played
      rwa [List.append_nil]
  | cons action rest ih =>
      simp only [play, Option.bind_eq_bind, Option.bind_eq_some_iff, Option.pure_def, Option.some.injEq, Prod.mk.injEq,
        Prod.exists] at played
      obtain ⟨label, after, taken, others, end_, later, rfl, rfl⟩ := played
      rw [← List.append_assoc]
      exact ih _ others after (Reaches.step trace st after label reached ⟨action, taken⟩) later

-- One number goes through a ring of two.
def sampleActions : List (Action Nat) :=
  [.callEnqueue .tryCall 7] ++ List.replicate 7 (.producer false) ++ [.callDequeue .waitCall] ++ List.replicate 8 (.consumer false)

def sampleTrace : List (Label Nat) :=
  [.callEnqueue true 7, .returnEnqueue true, .callDequeue false, .returnDequeue (some 7)]

theorem sample_reached : ∃ st, Reaches (ringSystem Nat 2) sampleTrace st ∧ st.producer = .idle ∧ st.consumer = .idle :=
  ⟨_, play_reaches 2 sampleActions [] sampleTrace (create 2) _ (Reaches.start _ rfl) rfl, rfl, rfl⟩

theorem linearizable_sample : (∃ abs, Reaches (queueSystem 2) sampleTrace abs) ∧
    (accountOf sampleTrace).delivered <+: (accountOf sampleTrace).accepted ++ (accountOf sampleTrace).offered.toList := by
  obtain ⟨st, reached, _⟩ := sample_reached
  exact linearizable 2 (by decide) (by decide) sampleTrace st reached

theorem memory_safe_sample : ∃ st : CircularBuffer Nat, Sound 2 st := by
  obtain ⟨st, reached, _⟩ := sample_reached
  exact ⟨st, memory_safe 2 (by decide) (by decide) sampleTrace st reached⟩

theorem destructor_frees_sample : ∃ st : CircularBuffer Nat, ∀ s ≤ st.mask, st.destruct s = none := by
  obtain ⟨st, reached, enqueued, dequeued⟩ := sample_reached
  exact ⟨st, (destructor_frees 2 (by decide) (by decide) sampleTrace st reached enqueued dequeued).2.2⟩

end CircularBuffer

end SpectralLine
