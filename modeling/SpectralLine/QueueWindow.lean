import SpectralLine.CircularBuffer
import SpectralLine.Lib.CellRing

set_option autoImplicit false

namespace SpectralLine

open BoundedQueue CellRing

variable {Item : Type}

namespace CircularBuffer

-- The tokens of slots_ and of items that a thread has taken and not passed on.
def slotHeld (st : CircularBuffer Item) : Nat :=
  match st.producer with
  | .idle => 0
  | .waiting _ _ => LightweightSemaphore.granted st.slots.waiter
  | .claim _ _ => 1
  | .construct _ _ _ => 1
  | .signalling _ _ => if st.items.signaller = .adding then 1 else 0

def itemHeld (st : CircularBuffer Item) : Nat :=
  match st.consumer with
  | .idle => 0
  | .waiting _ => LightweightSemaphore.granted st.items.waiter
  | .claim _ => 1
  | .move _ _ => 1
  | .destroy _ _ _ => 1
  | .signalling _ _ => if st.slots.signaller = .adding then 1 else 0

-- An enqueue takes effect when it signals items, a dequeue when it signals
-- slots_, and a refused call when its wait sees no token.
def enqueuerOf (st : CircularBuffer Item) : Enqueuer Item :=
  match st.producer with
  | .idle => .idle
  | .waiting call item =>
      if call.mayFail && LightweightSemaphore.refused st.slots.waiter then .done item false else .called call.mayFail item
  | .claim call item => .called call.mayFail item
  | .construct call item _ => .called call.mayFail item
  | .signalling call item => if st.items.signaller = .adding then .called call.mayFail item else .done item true

def dequeuerOf (st : CircularBuffer Item) : Dequeuer Item :=
  match st.consumer with
  | .idle => .idle
  | .waiting call =>
      if call.mayFail && LightweightSemaphore.refused st.items.waiter then .done none else .called call.mayFail
  | .claim call => .called call.mayFail
  | .move call _ => .called call.mayFail
  | .destroy call _ _ => .called call.mayFail
  | .signalling call item => if st.slots.signaller = .adding then .called call.mayFail else .done item

-- Where the producer is when `produced` enqueues have taken effect; `values`
-- are the objects constructed so far.
def ProducerAt (st : CircularBuffer Item) (values : List Item) (produced : Nat) : Prop :=
  match st.producer with
  | .idle => st.slots.waiter = .idle ∧ st.items.signaller = .idle ∧ st.nextSlot = produced % sizeT ∧ values.length = produced
  | .waiting _ _ =>
      st.slots.waiter ≠ .idle ∧ st.items.signaller = .idle ∧ st.nextSlot = produced % sizeT ∧ values.length = produced
  | .claim _ _ =>
      st.slots.waiter = .idle ∧ st.items.signaller = .idle ∧ st.nextSlot = produced % sizeT ∧ values.length = produced
  | .construct _ _ i =>
      st.slots.waiter = .idle ∧ st.items.signaller = .idle ∧ i = produced % sizeT ∧
      st.nextSlot = (produced + 1) % sizeT ∧ values.length = produced
  | .signalling _ item =>
      st.slots.waiter = .idle ∧
      if st.items.signaller = .adding then
        st.nextSlot = (produced + 1) % sizeT ∧ values.length = produced + 1 ∧ values[produced]? = some item
      else st.nextSlot = produced % sizeT ∧ values.length = produced

def ConsumerAt (st : CircularBuffer Item) (values : List Item) (consumed : Nat) : Prop :=
  match st.consumer with
  | .idle => st.items.waiter = .idle ∧ st.slots.signaller = .idle ∧ st.nextItem = consumed % sizeT
  | .waiting _ => st.items.waiter ≠ .idle ∧ st.slots.signaller = .idle ∧ st.nextItem = consumed % sizeT
  | .claim _ => st.items.waiter = .idle ∧ st.slots.signaller = .idle ∧ st.nextItem = consumed % sizeT
  | .move _ i =>
      st.items.waiter = .idle ∧ st.slots.signaller = .idle ∧ i = consumed % sizeT ∧ st.nextItem = (consumed + 1) % sizeT
  | .destroy _ i item =>
      st.items.waiter = .idle ∧ st.slots.signaller = .idle ∧ i = consumed % sizeT ∧
      st.nextItem = (consumed + 1) % sizeT ∧ values[consumed]? = item
  | .signalling _ item =>
      st.items.waiter = .idle ∧
      if st.slots.signaller = .adding then st.nextItem = (consumed + 1) % sizeT ∧ values[consumed]? = item
      else st.nextItem = consumed % sizeT

-- The first value whose object is still there.
def firstLive (st : CircularBuffer Item) (consumed : Nat) : Nat :=
  match st.consumer with
  | .signalling _ _ => if st.slots.signaller = .adding then consumed + 1 else consumed
  | _ => consumed

structure Window (capacity : Nat) (st : CircularBuffer Item) (values : List Item) (produced consumed : Nat) : Prop where
  order : consumed ≤ produced
  slots : ∃ available, st.slots.Balanced available ∧ available + st.slotHeld + produced = capacity + consumed
  items : ∃ available, st.items.Balanced available ∧ available + st.itemHeld + consumed = produced
  producer : st.ProducerAt values produced
  consumer : st.ConsumerAt values consumed
  ring : ∃ k ≤ 64, st.mask + 1 = 2 ^ k ∧ capacity ≤ 2 ^ k
  cells : Live (st.mask + 1) st.cells values (st.firstLive consumed)

def queueOf (values : List Item) (produced consumed : Nat) : List Item := (values.take produced).drop consumed

def Refines (capacity : Nat) (st : CircularBuffer Item) (abs : BoundedQueue.State Item) : Prop :=
  ∃ values produced consumed, Window capacity st values produced consumed ∧
    abs = ⟨queueOf values produced consumed, st.enqueuerOf, st.dequeuerOf⟩

theorem create_window (capacity : Nat) (positive : 1 ≤ capacity) (fits : capacity ≤ sizeT) :
    Window capacity (create capacity : CircularBuffer Item) [] 0 0 := by
  constructor
  · exact Nat.le_refl 0
  · exact ⟨capacity, LightweightSemaphore.initial_balanced capacity, rfl⟩
  · exact ⟨0, LightweightSemaphore.initial_balanced 0, rfl⟩
  · exact ⟨rfl, rfl, rfl, rfl⟩
  · exact ⟨rfl, rfl, rfl⟩
  · exact mask_room capacity positive fits
  · exact live_start _ _

-- A step of the ring is a step of the queue under the same label, or invisible.
def Matched (capacity : Nat) (abs : BoundedQueue.State Item) (label : Option (Label Item)) (after : CircularBuffer Item) :
    Prop :=
  ∃ next, Refines capacity after next ∧ ((label = none ∧ next = abs) ∨ BoundedQueue.Step capacity abs label next)

-- What each side leaves alone.
structure ConsumerKept (st after : CircularBuffer Item) : Prop where
  consumer : after.consumer = st.consumer
  waiter : after.items.waiter = st.items.waiter
  signaller : after.slots.signaller = st.slots.signaller
  next : after.nextItem = st.nextItem
  mask : after.mask = st.mask

structure ProducerKept (st after : CircularBuffer Item) : Prop where
  producer : after.producer = st.producer
  waiter : after.slots.waiter = st.slots.waiter
  signaller : after.items.signaller = st.items.signaller
  next : after.nextSlot = st.nextSlot
  mask : after.mask = st.mask

theorem consumer_kept (st after : CircularBuffer Item) (kept : ConsumerKept st after) :
    after.itemHeld = st.itemHeld ∧ after.dequeuerOf = st.dequeuerOf ∧
    (∀ consumed, after.firstLive consumed = st.firstLive consumed) ∧
    ∀ values consumed, st.ConsumerAt values consumed → after.ConsumerAt values consumed := by
  simp only [itemHeld, dequeuerOf, firstLive, ConsumerAt, kept.consumer, kept.waiter, kept.signaller, kept.next]
  exact ⟨trivial, trivial, fun _ => trivial, fun _ _ here => here⟩

theorem producer_kept (st after : CircularBuffer Item) (kept : ProducerKept st after) :
    after.slotHeld = st.slotHeld ∧ after.enqueuerOf = st.enqueuerOf ∧
    ∀ values produced, st.ProducerAt values produced → after.ProducerAt values produced := by
  simp only [slotHeld, enqueuerOf, ProducerAt, kept.producer, kept.waiter, kept.signaller, kept.next]
  exact ⟨trivial, trivial, fun _ _ here => here⟩

section

variable (capacity : Nat) (st : CircularBuffer Item) (values : List Item) (produced consumed : Nat)

theorem first_live_bounds (window : Window capacity st values produced consumed) :
    consumed ≤ st.firstLive consumed ∧ st.firstLive consumed ≤ produced := by
  obtain ⟨available, _, total⟩ := window.items
  have order := window.order
  simp only [firstLive]
  split
  · rename_i call item signalling
    simp only [itemHeld, signalling] at total
    split_ifs at total ⊢
    · omega
    · omega
  · omega

theorem values_length (window : Window capacity st values produced consumed) :
    produced ≤ values.length ∧ values.length ≤ capacity + consumed := by
  obtain ⟨available, _, total⟩ := window.slots
  have producer := window.producer
  simp only [ProducerAt] at producer
  simp only [slotHeld] at total
  split at producer
  · omega
  · omega
  · omega
  · omega
  · rename_i call item signalling
    simp only [signalling] at total
    split_ifs at total producer
    · omega
    · omega

-- The producer moves and the values it has constructed stay.
theorem producer_window (after : CircularBuffer Item) (next : Nat) (window : Window capacity st values produced consumed)
    (kept : ConsumerKept st after) (later : produced ≤ next) (cells : after.cells = st.cells)
    (slots : ∃ available, after.slots.Balanced available ∧ available + after.slotHeld + next = capacity + consumed)
    (items : ∃ available, after.items.Balanced available ∧ available + st.itemHeld + consumed = next)
    (producer : after.ProducerAt values next) : Window capacity after values next consumed := by
  obtain ⟨held, _, live, consumer⟩ := consumer_kept st after kept
  refine ⟨window.order.trans later, slots, ?_, producer, consumer values consumed window.consumer, ?_, ?_⟩
  · rw [held]
    exact items
  · rw [kept.mask]
    exact window.ring
  · rw [kept.mask, cells, live]
    exact window.cells

theorem consumer_window (after : CircularBuffer Item) (next : Nat) (window : Window capacity st values produced consumed)
    (kept : ProducerKept st after) (order : next ≤ produced)
    (slots : ∃ available, after.slots.Balanced available ∧ available + st.slotHeld + produced = capacity + next)
    (items : ∃ available, after.items.Balanced available ∧ available + after.itemHeld + next = produced)
    (consumer : after.ConsumerAt values next) (cells : Live (st.mask + 1) after.cells values (after.firstLive next)) :
    Window capacity after values produced next := by
  obtain ⟨held, _, producer⟩ := producer_kept st after kept
  refine ⟨order, ?_, items, producer values produced window.producer, consumer, ?_, ?_⟩
  · rw [held]
    exact slots
  · rw [kept.mask]
    exact window.ring
  · rw [kept.mask]
    exact cells

theorem stutter (after : CircularBuffer Item) (window : Window capacity after values produced consumed)
    (enqueuer : after.enqueuerOf = st.enqueuerOf) (dequeuer : after.dequeuerOf = st.dequeuerOf) :
    Matched capacity ⟨queueOf values produced consumed, st.enqueuerOf, st.dequeuerOf⟩ none after :=
  ⟨_, ⟨values, produced, consumed, window, by rw [enqueuer, dequeuer]⟩, Or.inl ⟨rfl, rfl⟩⟩

-- The wrapping index finds the cell of its value.
theorem masked (window : Window capacity st values produced consumed) (j : Nat) :
    (j % sizeT) &&& st.mask = j % (st.mask + 1) := by
  obtain ⟨k, small, power, _⟩ := window.ring
  have mask : st.mask = 2 ^ k - 1 := by omega
  rw [power, mask, Nat.and_two_pow_sub_one_eq_mod]
  exact Nat.mod_mod_of_dvd j (Nat.pow_dvd_pow 2 small)

theorem ring_room (window : Window capacity st values produced consumed) : capacity ≤ st.mask + 1 := by
  obtain ⟨k, _, power, room⟩ := window.ring
  omega

-- Between enqueues every object in the ring is in the queue.
theorem cell_queued (window : Window capacity st values produced consumed) (idle : st.producer = .idle) (s : Nat)
    (inside : s ≤ st.mask) (item : Item) (holds : st.cells s = some item) : item ∈ queueOf values produced consumed := by
  have here := window.producer
  simp only [ProducerAt, idle] at here
  obtain ⟨low, _⟩ := first_live_bounds capacity st values produced consumed window
  have present : ∃ k, st.firstLive consumed ≤ k ∧ k < values.length ∧ k % (st.mask + 1) = s := by
    by_contra none
    rw [window.cells.dead s (by omega) fun k above below same => none ⟨k, above, below, same⟩] at holds
    cases holds
  obtain ⟨k, above, below, rfl⟩ := present
  rw [window.cells.live k above below] at holds
  rw [queueOf, List.take_of_length_le (by omega), List.mem_drop_iff_getElem]
  refine ⟨k - consumed, by omega, ?_⟩
  obtain ⟨_, found⟩ := List.getElem?_eq_some_iff.mp holds
  rw [← found]
  congr 1
  omega

end

end CircularBuffer

end SpectralLine
