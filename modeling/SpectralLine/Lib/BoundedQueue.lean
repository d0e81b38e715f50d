import SpectralLine.Lib.Labelled

set_option autoImplicit false

namespace BoundedQueue

open Labelled

universe u

variable {Item : Type u}

-- A call of one of the two threads: in progress before or after its effect.
inductive Enqueuer (Item : Type u) where
  | idle
  | called (mayFail : Bool) (item : Item)
  | done (item : Item) (stored : Bool)

inductive Dequeuer (Item : Type u) where
  | idle
  | called (mayFail : Bool)
  | done (got : Option Item)

-- A FIFO of bounded size whose calls take effect at one point.
structure State (Item : Type u) where
  queue : List Item
  enqueuer : Enqueuer Item
  dequeuer : Dequeuer Item

inductive Label (Item : Type u) where
  | callEnqueue (mayFail : Bool) (item : Item)
  | returnEnqueue (stored : Bool)
  | callDequeue (mayFail : Bool)
  | returnDequeue (got : Option Item)

inductive Step (capacity : Nat) : State Item → Option (Label Item) → State Item → Prop
  | callEnqueue (st : State Item) (mayFail : Bool) (item : Item) (idle : st.enqueuer = .idle) :
      Step capacity st (some (.callEnqueue mayFail item)) { st with enqueuer := .called mayFail item }
  | enqueue (st : State Item) (mayFail : Bool) (item : Item) (called : st.enqueuer = .called mayFail item)
      (room : st.queue.length < capacity) :
      Step capacity st none { st with queue := st.queue ++ [item], enqueuer := .done item true }
  | full (st : State Item) (item : Item) (called : st.enqueuer = .called true item) (full : st.queue.length = capacity) :
      Step capacity st none { st with enqueuer := .done item false }
  | returnEnqueue (st : State Item) (item : Item) (stored : Bool) (done : st.enqueuer = .done item stored) :
      Step capacity st (some (.returnEnqueue stored)) { st with enqueuer := .idle }
  | callDequeue (st : State Item) (mayFail : Bool) (idle : st.dequeuer = .idle) :
      Step capacity st (some (.callDequeue mayFail)) { st with dequeuer := .called mayFail }
  | dequeue (st : State Item) (mayFail : Bool) (item : Item) (rest : List Item) (called : st.dequeuer = .called mayFail)
      (head : st.queue = item :: rest) :
      Step capacity st none { st with queue := rest, dequeuer := .done (some item) }
  | empty (st : State Item) (called : st.dequeuer = .called true) (empty : st.queue = []) :
      Step capacity st none { st with dequeuer := .done none }
  | returnDequeue (st : State Item) (got : Option Item) (done : st.dequeuer = .done got) :
      Step capacity st (some (.returnDequeue got)) { st with dequeuer := .idle }

def queueSystem (capacity : Nat) : System (State Item) (Label Item) where
  start := fun st => st = ⟨[], .idle, .idle⟩
  step := Step capacity

-- What a caller can tell from the calls and returns so far.
structure Account (Item : Type u) where
  offered : Option Item
  accepted : List Item
  delivered : List Item

def Account.next (account : Account Item) : Label Item → Account Item
  | .callEnqueue _ item => { account with offered := some item }
  | .returnEnqueue true => { account with offered := none, accepted := account.accepted ++ account.offered.toList }
  | .returnEnqueue false => { account with offered := none }
  | .callDequeue _ => account
  | .returnDequeue got => { account with delivered := account.delivered ++ got.toList }

def accountOf (trace : List (Label Item)) : Account Item := trace.foldl Account.next ⟨none, [], []⟩

def entering : Enqueuer Item → List Item
  | .done item true => [item]
  | _ => []

def leaving : Dequeuer Item → List Item
  | .done (some item) => [item]
  | _ => []

def offering : Enqueuer Item → Option Item
  | .idle => none
  | .called _ item => some item
  | .done item _ => some item

structure Accounts (capacity : Nat) (account : Account Item) (st : State Item) : Prop where
  offered : account.offered = offering st.enqueuer
  conserved : account.accepted ++ entering st.enqueuer = account.delivered ++ leaving st.dequeuer ++ st.queue
  bounded : st.queue.length ≤ capacity

theorem step_accounts (capacity : Nat) (account : Account Item) (st after : State Item) (label : Option (Label Item))
    (accounts : Accounts capacity account st) (taken : Step capacity st label after) :
    Accounts capacity (label.toList.foldl Account.next account) after := by
  obtain ⟨offered, conserved, bounded⟩ := accounts
  cases taken with
  | callEnqueue mayFail item idle =>
      rw [idle] at conserved
      exact ⟨rfl, conserved, bounded⟩
  | enqueue mayFail item called room =>
      rw [called] at offered conserved
      change account.accepted ++ [] = _ at conserved
      rw [List.append_nil] at conserved
      refine ⟨offered, ?_, by rw [List.length_append]; exact room⟩
      change account.accepted ++ [item] = account.delivered ++ leaving st.dequeuer ++ (st.queue ++ [item])
      rw [conserved, List.append_assoc _ st.queue]
  | full item called full =>
      rw [called] at offered conserved
      exact ⟨offered, conserved, bounded⟩
  | returnEnqueue item stored done =>
      rw [done] at offered conserved
      cases stored with
      | true =>
          refine ⟨rfl, ?_, bounded⟩
          simpa [Account.next, offered, offering, entering] using conserved
      | false => exact ⟨rfl, conserved, bounded⟩
  | callDequeue mayFail idle =>
      rw [idle] at conserved
      exact ⟨offered, conserved, bounded⟩
  | dequeue mayFail item rest called head =>
      rw [called, head] at conserved
      refine ⟨offered, ?_, ?_⟩
      · simpa [leaving] using conserved
      · rw [head, List.length_cons] at bounded
        exact Nat.le_of_succ_le bounded
  | empty called empty =>
      rw [called] at conserved
      exact ⟨offered, conserved, bounded⟩
  | returnDequeue got done =>
      rw [done] at conserved
      refine ⟨offered, ?_, bounded⟩
      cases got with
      | none => simpa [Account.next, leaving] using conserved
      | some item => simpa [Account.next, leaving] using conserved

theorem reaches_accounts (capacity : Nat) (trace : List (Label Item)) (st : State Item)
    (reached : Reaches (queueSystem capacity) trace st) : Accounts capacity (accountOf trace) st := by
  induction reached with
  | start st first =>
      rw [show st = ⟨[], .idle, .idle⟩ from first]
      exact ⟨rfl, rfl, Nat.zero_le _⟩
  | step trace st after label before taken ih =>
      rw [accountOf, List.foldl_append]
      exact step_accounts capacity _ st after label ih taken

-- Nothing is lost, repeated or reordered.
theorem delivered_prefix (capacity : Nat) (trace : List (Label Item)) (st : State Item)
    (reached : Reaches (queueSystem capacity) trace st) :
    (accountOf trace).delivered <+: (accountOf trace).accepted ++ (accountOf trace).offered.toList := by
  obtain ⟨offered, conserved, _⟩ := reaches_accounts capacity trace st reached
  have inside : (accountOf trace).delivered <+: (accountOf trace).accepted ++ entering st.enqueuer := by
    rw [conserved, List.append_assoc]
    exact List.prefix_append _ _
  rw [offered]
  cases enqueuer : st.enqueuer with
  | idle => simpa [enqueuer, entering, offering] using inside
  | called mayFail item =>
      simp only [enqueuer, entering, List.append_nil] at inside
      exact inside.trans (List.prefix_append _ _)
  | done item stored =>
      cases stored with
      | true => simpa [enqueuer, entering, offering] using inside
      | false =>
          simp only [enqueuer, entering, List.append_nil] at inside
          exact inside.trans (List.prefix_append _ _)

end BoundedQueue
