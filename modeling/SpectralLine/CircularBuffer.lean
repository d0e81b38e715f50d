import Mathlib.Logic.Function.Basic
import SpectralLine.Lib.BoundedQueue
import SpectralLine.Lib.Smear
import SpectralLine.LightweightSemaphore

set_option autoImplicit false

namespace SpectralLine

open BoundedQueue

-- try_enqueue, wait_enqueue and wait_enqueue_timed, and the same for dequeue.
inductive QueueCall where
  | tryCall
  | waitCall
  | timedCall (timeoutUsecs : Int)

namespace QueueCall

def waitOf : QueueCall → WaitCall
  | .tryCall => .tryWait
  | .waitCall => .wait (-1)
  | .timedCall timeoutUsecs => .wait timeoutUsecs

def mayFail : QueueCall → Bool
  | .waitCall => false
  | _ => true

end QueueCall

variable {Item : Type}

inductive Producer (Item : Type) where
  | idle
  | waiting (call : QueueCall) (item : Item)
  | claim (call : QueueCall) (item : Item)
  | construct (call : QueueCall) (item : Item) (i : Nat)
  | signalling (call : QueueCall) (item : Item)

inductive Consumer (Item : Type) where
  | idle
  | waiting (call : QueueCall)
  | claim (call : QueueCall)
  | move (call : QueueCall) (i : Nat)
  | destroy (call : QueueCall) (i : Nat) (item : Option Item)
  | signalling (call : QueueCall) (item : Option Item)

-- `cells` is the memory of `data`: a cell holds an object or raw bytes.
structure CircularBuffer (Item : Type) where
  mask : Nat
  cells : Nat → Option Item
  slots : LightweightSemaphore
  items : LightweightSemaphore
  nextSlot : Nat
  nextItem : Nat
  producer : Producer Item
  consumer : Consumer Item

namespace CircularBuffer

def sizeofSizeT : Nat := 8
def sizeT : Nat := 2 ^ 64

def roundMask (capacity : Nat) : Nat :=
  let capacity := (capacity + (sizeT - 1)) % sizeT
  let capacity := capacity ||| capacity >>> 1
  let capacity := capacity ||| capacity >>> 2
  let capacity := capacity ||| capacity >>> 4
  -- i is 1, 2 and 4, the powers of two below sizeof(size_t).
  [1, 2, 4].foldl (fun capacity i => capacity ||| capacity >>> (i <<< 3)) capacity

def create (capacity : Nat) : CircularBuffer Item where
  mask := roundMask capacity
  cells := fun _ => none
  slots := .initial capacity
  items := .initial 0
  nextSlot := 0
  nextItem := 0
  producer := .idle
  consumer := .idle

inductive Action (Item : Type) where
  | callEnqueue (call : QueueCall) (item : Item)
  | producer (gaveUp : Bool)
  | callDequeue (call : QueueCall)
  | consumer (gaveUp : Bool)

abbrev Outcome (Item : Type) := Option (Option (Label Item) × CircularBuffer Item)

def enqueueStep (call : QueueCall) (item : Item) (st : CircularBuffer Item) : Outcome Item :=
  match st.producer with
  | .idle => (st.slots.callWait call.waitOf).map fun slots =>
      (some (.callEnqueue call.mayFail item), { st with slots, producer := .waiting call item })
  | _ => none

-- One step of a call of the enqueue family and of inner_enqueue.
def producerStep (gaveUp : Bool) (st : CircularBuffer Item) : Outcome Item :=
  match st.producer with
  | .idle => none
  | .waiting call item =>
      match st.slots.finishWait with
      | some (true, slots) => some (none, { st with slots, producer := .claim call item })
      | some (false, slots) =>
          match call with
          | .waitCall => (slots.callWait call.waitOf).map fun slots => (none, { st with slots })
          | _ => some (some (.returnEnqueue false), { st with slots, producer := .idle })
      | none => (st.slots.waitStep gaveUp).map fun slots => (none, { st with slots })
  | .claim call item =>
      some (none, { st with nextSlot := (st.nextSlot + 1) % sizeT, producer := .construct call item st.nextSlot })
  | .construct call item i => (st.items.callSignal).map fun items =>
      (none, { st with
        cells := Function.update st.cells (i &&& st.mask) (some item)
        items
        producer := .signalling call item })
  | .signalling _ _ =>
      if st.items.signaller = .idle then some (some (.returnEnqueue true), { st with producer := .idle })
      else (st.items.signalStep).map fun items => (none, { st with items })

def dequeueStep (call : QueueCall) (st : CircularBuffer Item) : Outcome Item :=
  match st.consumer with
  | .idle => (st.items.callWait call.waitOf).map fun items =>
      (some (.callDequeue call.mayFail), { st with items, consumer := .waiting call })
  | _ => none

-- One step of a call of the dequeue family and of inner_dequeue.
def consumerStep (gaveUp : Bool) (st : CircularBuffer Item) : Outcome Item :=
  match st.consumer with
  | .idle => none
  | .waiting call =>
      match st.items.finishWait with
      | some (true, items) => some (none, { st with items, consumer := .claim call })
      | some (false, items) =>
          match call with
          | .waitCall => (items.callWait call.waitOf).map fun items => (none, { st with items })
          | _ => some (some (.returnDequeue none), { st with items, consumer := .idle })
      | none => (st.items.waitStep gaveUp).map fun items => (none, { st with items })
  | .claim call =>
      some (none, { st with nextItem := (st.nextItem + 1) % sizeT, consumer := .move call st.nextItem })
  | .move call i => some (none, { st with consumer := .destroy call i (st.cells (i &&& st.mask)) })
  | .destroy call i item => (st.slots.callSignal).map fun slots =>
      (none, { st with
        cells := Function.update st.cells (i &&& st.mask) none
        slots
        consumer := .signalling call item })
  | .signalling _ item =>
      if st.slots.signaller = .idle then some (some (.returnDequeue item), { st with consumer := .idle })
      else (st.slots.signalStep).map fun slots => (none, { st with slots })

def step (st : CircularBuffer Item) : Action Item → Outcome Item
  | .callEnqueue call item => enqueueStep call item st
  | .producer gaveUp => producerStep gaveUp st
  | .callDequeue call => dequeueStep call st
  | .consumer gaveUp => consumerStep gaveUp st

theorem silent {Part : Type} (part : Option Part) (next : Part → CircularBuffer Item) (label : Option (Label Item))
    (after : CircularBuffer Item) (taken : (part.map fun part => (none, next part)) = some (label, after)) : label = none := by
  obtain ⟨_, _, same⟩ := Option.map_eq_some_iff.mp taken
  exact (Prod.mk.inj same).1.symm

-- Inside a call a thread shows nothing but the call's return.
theorem producer_label (gaveUp : Bool) (st after : CircularBuffer Item) (label : Option (Label Item))
    (taken : producerStep gaveUp st = some (label, after)) : label = none ∨ ∃ stored, label = some (.returnEnqueue stored) := by
  cases producer : st.producer with
  | idle => simp [producerStep, producer] at taken
  | waiting call item =>
      simp only [producerStep, producer] at taken
      split at taken
      · exact Or.inl (Prod.mk.inj (Option.some.inj taken)).1.symm
      · cases call with
        | waitCall => exact Or.inl (silent _ _ _ _ taken)
        | tryCall => exact Or.inr ⟨false, (Prod.mk.inj (Option.some.inj taken)).1.symm⟩
        | timedCall timeoutUsecs => exact Or.inr ⟨false, (Prod.mk.inj (Option.some.inj taken)).1.symm⟩
      · exact Or.inl (silent _ _ _ _ taken)
  | claim call item =>
      simp only [producerStep, producer] at taken
      exact Or.inl (Prod.mk.inj (Option.some.inj taken)).1.symm
  | construct call item i =>
      simp only [producerStep, producer] at taken
      exact Or.inl (silent _ _ _ _ taken)
  | signalling call item =>
      simp only [producerStep, producer] at taken
      split at taken
      · exact Or.inr ⟨true, (Prod.mk.inj (Option.some.inj taken)).1.symm⟩
      · exact Or.inl (silent _ _ _ _ taken)

theorem consumer_label (gaveUp : Bool) (st after : CircularBuffer Item) (label : Option (Label Item))
    (taken : consumerStep gaveUp st = some (label, after)) : label = none ∨ ∃ got, label = some (.returnDequeue got) := by
  cases consumer : st.consumer with
  | idle => simp [consumerStep, consumer] at taken
  | waiting call =>
      simp only [consumerStep, consumer] at taken
      split at taken
      · exact Or.inl (Prod.mk.inj (Option.some.inj taken)).1.symm
      · cases call with
        | waitCall => exact Or.inl (silent _ _ _ _ taken)
        | tryCall => exact Or.inr ⟨none, (Prod.mk.inj (Option.some.inj taken)).1.symm⟩
        | timedCall timeoutUsecs => exact Or.inr ⟨none, (Prod.mk.inj (Option.some.inj taken)).1.symm⟩
      · exact Or.inl (silent _ _ _ _ taken)
  | claim call =>
      simp only [consumerStep, consumer] at taken
      exact Or.inl (Prod.mk.inj (Option.some.inj taken)).1.symm
  | move call i =>
      simp only [consumerStep, consumer] at taken
      exact Or.inl (Prod.mk.inj (Option.some.inj taken)).1.symm
  | destroy call i item =>
      simp only [consumerStep, consumer] at taken
      exact Or.inl (silent _ _ _ _ taken)
  | signalling call item =>
      simp only [consumerStep, consumer] at taken
      split at taken
      · exact Or.inr ⟨item, (Prod.mk.inj (Option.some.inj taken)).1.symm⟩
      · exact Or.inl (silent _ _ _ _ taken)

-- The mask is one less than the least power of two that has room.
theorem round_mask (capacity : Nat) (positive : 1 ≤ capacity) (fits : capacity ≤ sizeT) :
    roundMask capacity = 2 ^ (capacity - 1).size - 1 := by
  have wraps : (capacity + (sizeT - 1)) % sizeT = capacity - 1 := by
    have more : capacity + (sizeT - 1) = capacity - 1 + sizeT := by
      have large : 0 < sizeT := by decide
      omega
    rw [more, Nat.add_mod_right, Nat.mod_eq_of_lt (by omega)]
  have f1 := Smear.filled_self (capacity - 1)
  have f2 := Smear.filled_double _ _ _ f1
  have f4 := Smear.filled_double _ _ _ f2
  have f8 := Smear.filled_double _ _ _ f4
  have f16 := Smear.filled_double _ _ _ f8
  have f32 := Smear.filled_double _ _ _ f16
  have f64 := Smear.filled_double _ _ _ f32
  rw [roundMask, wraps]
  exact Smear.filled_ones _ _ _ (by change capacity - 1 < sizeT; omega) f64

theorem mask_room (capacity : Nat) (positive : 1 ≤ capacity) (fits : capacity ≤ sizeT) :
    ∃ k ≤ 64, roundMask capacity + 1 = 2 ^ k ∧ capacity ≤ 2 ^ k := by
  have top := Nat.lt_size_self (capacity - 1)
  have ones := Nat.one_le_two_pow (n := (capacity - 1).size)
  refine ⟨(capacity - 1).size, Nat.size_le.mpr (by change capacity - 1 < sizeT; omega), ?_, by omega⟩
  rw [round_mask capacity positive fits]
  omega

end CircularBuffer

end SpectralLine
