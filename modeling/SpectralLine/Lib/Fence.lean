import SpectralLine.Lib.Streams

set_option autoImplicit false

namespace Streams

universe u

section

variable {Stream Event Op Host Loc : Type} {Val : Loc → Type u} [DecidableEq Event]
variable (prog : Program Stream Event Op Host)

-- A record after the first instruction and a wait for that event before the
-- second order the two.
theorem event_fence (st : State Val) (closed : Closed prog st) (i r w j : Nat) (s t : Stream) (event : Event)
    (x a y : Instr Stream Event Op Host) (order : i < r ∧ r < w ∧ w < j) (atI : prog[i]? = some x) (onI : x.stream = some s)
    (atR : prog[r]? = some a) (records : a.records event = true) (atW : prog[w]? = some (.wait t event))
    (atJ : prog[j]? = some y) (onJ : y.stream = some t)
    (home : ∀ (k : Nat) (z : Instr Stream Event Op Host), prog[k]? = some z → z.records event = true → z.stream = some s) (executed : j ∈ st.executed) :
    i ∈ st.executed := by
  obtain ⟨latest, last, above, z, atLatest, again⟩ := last_record_after prog event w r a atR records order.2.1
  have waited : w ∈ st.executed := closed.fifo j executed w y _ t order.2.2 atJ onJ atW rfl
  have recorded := closed.waited w waited t event latest atW last
  exact closed.fifo latest recorded i z x s (by omega) atLatest (home latest z atLatest again) atI onI

-- The same when the host waits for the event before it issues the second.
theorem host_fence (st : State Val) (closed : Closed prog st) (i r w j : Nat) (s : Stream) (event : Event)
    (x a : Instr Stream Event Op Host) (order : i < r ∧ r < w ∧ w < j) (atI : prog[i]? = some x) (onI : x.stream = some s)
    (atR : prog[r]? = some a) (records : a.records event = true) (atW : prog[w]? = some (.synchronize event))
    (home : ∀ (k : Nat) (z : Instr Stream Event Op Host), prog[k]? = some z → z.records event = true → z.stream = some s) (issued : j ≤ st.issued) :
    i ∈ st.executed := by
  obtain ⟨latest, last, above, z, atLatest, again⟩ := last_record_after prog event w r a atR records order.2.1
  have recorded := closed.synchronized w (by omega) event latest atW last
  exact closed.fifo latest recorded i z x s (by omega) atLatest (home latest z atLatest again) atI onI

end

-- Between a source and a later target the program must release and then
-- acquire. `scan` checks it in one pass.
structure Fence (Instr : Type) where
  source : Instr → Bool
  release : Instr → Bool
  acquire : Instr → Bool
  target : Instr → Bool

inductive Phase where
  | clear
  | pending
  | released
deriving DecidableEq

section

variable {Instr : Type} (fence : Fence Instr)

def advancePhase (phase : Phase) (x : Instr) : Option Phase :=
  if fence.target x then (if phase = .clear then some .clear else none)
  else if fence.source x then some .pending
  else if fence.release x then some (if phase = .pending then .released else phase)
  else if fence.acquire x then some (if phase = .released then .clear else phase)
  else some phase

def scan (phase : Phase) (prog : List Instr) : Option Phase := prog.foldlM (advancePhase fence) phase

theorem scan_append (phase middle : Phase) (xs ys : List Instr) (start : scan fence phase xs = some middle) :
    scan fence phase (xs ++ ys) = scan fence middle ys := by
  rw [scan] at start
  rw [scan, List.foldlM_append, start]
  rfl

theorem scan_cons (phase last : Phase) (x : Instr) (rest : List Instr) (done : scan fence phase (x :: rest) = some last) :
    ∃ next, advancePhase fence phase x = some next ∧ scan fence next rest = some last := by
  rw [scan, List.foldlM_cons] at done
  cases step : advancePhase fence phase x with
  | none => simp [step] at done
  | some next =>
      simp only [step, Option.bind_eq_bind, Option.bind_some] at done
      exact ⟨next, rfl, done⟩

-- What is still to come before a target at `j`, in each phase.
def Owes (phase : Phase) (prog : List Instr) (j : Nat) : Prop :=
  match phase with
  | .clear => True
  | .pending => ∃ r w a b, r < w ∧ w < j ∧ prog[r]? = some a ∧ fence.release a = true ∧ prog[w]? = some b ∧
      fence.acquire b = true
  | .released => ∃ w b, w < j ∧ prog[w]? = some b ∧ fence.acquire b = true

theorem owes_later (phase : Phase) (x : Instr) (rest : List Instr) (j : Nat) (owes : Owes fence phase rest j) :
    Owes fence phase (x :: rest) (j + 1) := by
  cases phase with
  | clear => trivial
  | pending =>
      obtain ⟨r, w, a, b, order, before, atR, releases, atW, acquires⟩ := owes
      exact ⟨r + 1, w + 1, a, b, by omega, by omega, atR, releases, atW, acquires⟩
  | released =>
      obtain ⟨w, b, before, atW, acquires⟩ := owes
      exact ⟨w + 1, b, by omega, atW, acquires⟩

theorem pending_released (prog : List Instr) (j : Nat) (owes : Owes fence .pending prog j) :
    Owes fence .released prog j := by
  obtain ⟨r, w, a, b, _, before, _, _, atW, acquires⟩ := owes
  exact ⟨w, b, before, atW, acquires⟩

-- A step of the scan, with what the target after it is still owed.
theorem owes_step (phase next : Phase) (x : Instr) (rest : List Instr) (j : Nat)
    (step : advancePhase fence phase x = some next) (owes : Owes fence next rest j) :
    Owes fence phase (x :: rest) (j + 1) := by
  by_cases isTarget : fence.target x = true
  · by_cases clear : phase = .clear
    · rw [clear]
      trivial
    · simp [advancePhase, isTarget, clear] at step
  by_cases isSource : fence.source x = true
  · simp only [advancePhase, isTarget, isSource, Bool.false_eq_true, if_false, if_true, Option.some.injEq] at step
    subst step
    have later := owes_later fence .pending x rest j owes
    cases phase with
    | clear => trivial
    | pending => exact later
    | released => exact pending_released fence _ _ later
  by_cases isRelease : fence.release x = true
  · simp only [advancePhase, isTarget, isSource, isRelease, Bool.false_eq_true, if_false, if_true,
      Option.some.injEq] at step
    subst step
    cases phase with
    | clear => trivial
    | pending =>
        obtain ⟨w, b, before, atW, acquires⟩ := owes
        exact ⟨0, w + 1, x, b, by omega, by omega, rfl, isRelease, atW, acquires⟩
    | released => exact owes_later fence .released x rest j owes
  by_cases isAcquire : fence.acquire x = true
  · simp only [advancePhase, isTarget, isSource, isRelease, isAcquire, Bool.false_eq_true, if_false, if_true,
      Option.some.injEq] at step
    subst step
    cases phase with
    | clear => trivial
    | pending => exact owes_later fence .pending x rest j owes
    | released => exact ⟨0, x, by omega, rfl, isAcquire⟩
  · simp only [advancePhase, isTarget, isSource, isRelease, isAcquire, Bool.false_eq_true, if_false,
      Option.some.injEq] at step
    subst step
    exact owes_later fence phase x rest j owes

theorem scan_owes (phase last : Phase) (prog : List Instr) (done : scan fence phase prog = some last) (j : Nat)
    (y : Instr) (at_ : prog[j]? = some y) (target : fence.target y = true) : Owes fence phase prog j := by
  induction prog generalizing phase j with
  | nil => simp at at_
  | cons x rest ih =>
      obtain ⟨next, step, done⟩ := scan_cons fence phase last x rest done
      cases j with
      | zero =>
          obtain rfl : x = y := by simpa using at_
          cases phase with
          | clear => trivial
          | pending => simp [advancePhase, target] at step
          | released => simp [advancePhase, target] at step
      | succ j => exact owes_step fence phase next x rest j step (ih next done j (by simpa using at_))

theorem scan_fenced (phase last : Phase) (prog : List Instr) (done : scan fence phase prog = some last)
    (apart : ∀ x, fence.target x = true → fence.source x = false) (i j : Nat) (x y : Instr) (order : i < j)
    (atI : prog[i]? = some x) (source : fence.source x = true) (atJ : prog[j]? = some y) (target : fence.target y = true) :
    ∃ r w a b, i < r ∧ r < w ∧ w < j ∧ prog[r]? = some a ∧ fence.release a = true ∧ prog[w]? = some b ∧
      fence.acquire b = true := by
  induction prog generalizing phase i j with
  | nil => simp at atI
  | cons head rest ih =>
      obtain ⟨next, step, done⟩ := scan_cons fence phase last head rest done
      obtain ⟨k, rfl⟩ : ∃ k, j = k + 1 := ⟨j - 1, by omega⟩
      cases i with
      | zero =>
          obtain rfl : head = x := by simpa using atI
          have notTarget : ¬ fence.target head = true := fun both => by simp [apart head both] at source
          simp only [advancePhase, notTarget, source, Bool.false_eq_true, if_false, if_true, Option.some.injEq] at step
          subst step
          obtain ⟨r, w, a, b, inner, before, atR, releases, atW, acquires⟩ :=
            scan_owes fence .pending last rest done k y (by simpa using atJ) target
          exact ⟨r + 1, w + 1, a, b, by omega, by omega, by omega, atR, releases, atW, acquires⟩
      | succ i =>
          obtain ⟨r, w, a, b, first, inner, before, atR, releases, atW, acquires⟩ :=
            ih next done i k (by omega) (by simpa using atI) (by simpa using atJ)
          exact ⟨r + 1, w + 1, a, b, by omega, by omega, by omega, atR, releases, atW, acquires⟩

theorem scan_quiet (phase : Phase) (prog : List Instr) (quiet : ∀ x ∈ prog, advancePhase fence phase x = some phase) :
    scan fence phase prog = some phase := by
  induction prog with
  | nil => rfl
  | cons x rest ih =>
      rw [scan, List.foldlM_cons, quiet x (List.mem_cons_self ..)]
      exact ih fun y member => quiet y (List.mem_cons_of_mem x member)

theorem scan_flatten (blocks : List (List Instr)) (each : ∀ block ∈ blocks, scan fence .clear block = some .clear) :
    scan fence .clear blocks.flatten = some .clear := by
  induction blocks with
  | nil => rfl
  | cons block rest ih =>
      rw [List.flatten_cons, scan_append fence .clear .clear block _ (each block (List.mem_cons_self ..))]
      exact ih fun other member => each other (List.mem_cons_of_mem block member)

end

end Streams
