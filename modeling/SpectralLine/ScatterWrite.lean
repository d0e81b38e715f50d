import SpectralLine.FrameAlignment

set_option autoImplicit false

namespace SpectralLine

-- One entry of the vector: an address and a length.
structure IoVec where
  iovBase : Nat
  iovLen : Nat
deriving DecidableEq, Repr

def IoVec.bytes (memory : Nat → Byte) (entry : IoVec) : List Byte := (List.range' entry.iovBase entry.iovLen).map memory

-- write_all_iov between two writev calls; emitted is what the descriptor took.
structure ScatterState where
  iov : List IoVec
  first : Nat
  currentSize : Nat
  emitted : List Byte

-- The inner loop, which edits base and length of the entry it stops in.
def advanceIov (iovCount remaining : Nat) (iov : List IoVec) (first : Nat) : List IoVec × Nat :=
  if remaining ≠ 0 ∧ first < iovCount then
    match iov[first]? with
    | none => (iov, first)
    | some entry =>
        if entry.iovLen ≤ remaining then advanceIov iovCount (remaining - entry.iovLen) iov (first + 1)
        else advanceIov iovCount 0 (iov.set first ⟨entry.iovBase + remaining, entry.iovLen - remaining⟩) first
  else (iov, first)
termination_by (iovCount - first) + remaining

@[simp] theorem iov_bytes_length (memory : Nat → Byte) (entry : IoVec) : (entry.bytes memory).length = entry.iovLen := by
  rw [IoVec.bytes, List.length_map, List.length_range']

theorem iov_bytes_cut (memory : Nat → Byte) (entry : IoVec) (count : Nat) :
    IoVec.bytes memory ⟨entry.iovBase + count, entry.iovLen - count⟩ = (entry.bytes memory).drop count := by
  rw [IoVec.bytes, IoVec.bytes, ← List.map_drop, List.drop_range', Nat.mul_one]

theorem consume_nothing (iov : List (List Byte)) : consumeIov 0 iov = iov := by
  cases iov with
  | nil => rfl
  | cons entry rest => rw [consumeIov, if_pos rfl]

namespace ScatterState

section

variable (memory : Nat → Byte) (iovMax iovCount : Nat)

-- The entries still to be written, as their bytes.
def pending (s : ScatterState) : List (List Byte) := ((s.iov.take iovCount).drop s.first).map (IoVec.bytes memory)

def offered (s : ScatterState) : List Byte :=
  (((s.iov.drop s.first).take (min iovMax (iovCount - s.first))).map (IoVec.bytes memory)).flatten

-- One turn of the outer loop, and its return value if it ends there.
def turn (s : ScatterState) : WritevOutcome → ScatterState × Option Bool
  | .interrupted => (s, none)
  | .failed => (s, some false)
  | .written written =>
      if written = 0 then (s, some false)
      else
        let edited := advanceIov iovCount written s.iov s.first
        ({ iov := edited.1, first := edited.2, currentSize := (s.currentSize + written) % 2 ^ 64,
           emitted := s.emitted ++ (s.offered memory iovMax iovCount).take written }, none)

-- The loop on the results of its writev calls; it has not returned while they
-- run out before it.
def writeAll : List WritevOutcome → ScatterState → ScatterState × Option Bool
  | results, s =>
      if s.first < iovCount then
        match results with
        | [] => (s, none)
        | result :: rest =>
            match s.turn memory iovMax iovCount result with
            | (next, none) => writeAll rest next
            | (next, some returned) => (next, some returned)
      else (s, some true)

def Legal (s : ScatterState) : WritevOutcome → Prop
  | .written written => written ≤ (s.offered memory iovMax iovCount).length
  | _ => True

def LegalRun : List WritevOutcome → ScatterState → Prop
  | [], _ => True
  | result :: rest, s =>
      s.first < iovCount → s.Legal memory iovMax iovCount result ∧
        ((s.turn memory iovMax iovCount result).2 = none → LegalRun rest (s.turn memory iovMax iovCount result).1)

def Progresses : WritevOutcome → Prop
  | .interrupted => True
  | .failed => False
  | .written written => 0 < written

def counted (results : List WritevOutcome) : Nat :=
  (results.map fun
    | .written written => written
    | _ => 0).sum

@[simp] theorem counted_nil : counted [] = 0 := rfl

@[simp] theorem counted_written (written : Nat) (rest : List WritevOutcome) :
    counted (.written written :: rest) = written + counted rest := rfl

theorem pending_cons (s : ScatterState) (entry : IoVec) (inside : s.first < iovCount) (read : s.iov[s.first]? = some entry) :
    s.pending memory iovCount =
      entry.bytes memory :: ({ s with first := s.first + 1 } : ScatterState).pending memory iovCount := by
  obtain ⟨bound, same⟩ := List.getElem?_eq_some_iff.mp read
  have taken : s.first < (s.iov.take iovCount).length := by
    rw [List.length_take]
    omega
  rw [pending, List.drop_eq_getElem_cons taken, List.getElem_take, same, List.map_cons, pending]

theorem pending_cut (s : ScatterState) (entry : IoVec) (inside : s.first < iovCount) (bound : s.first < s.iov.length) :
    ({ s with iov := s.iov.set s.first entry } : ScatterState).pending memory iovCount =
      entry.bytes memory :: ({ s with first := s.first + 1 } : ScatterState).pending memory iovCount := by
  have read : (s.iov.set s.first entry)[s.first]? = some entry := List.getElem?_set_self bound
  rw [pending_cons memory iovCount { s with iov := s.iov.set s.first entry } entry inside read]
  simp only [pending]
  rw [List.take_set, List.drop_set_of_lt (Nat.lt_succ_self _)]

theorem pending_done (s : ScatterState) (past : iovCount ≤ s.first) : s.pending memory iovCount = [] := by
  rw [pending, List.drop_eq_nil_of_le (Nat.le_trans (List.length_take_le ..) past), List.map_nil]

-- The edit in place leaves the bytes that remain after `remaining` of them.
theorem advance_pending (s : ScatterState) (remaining : Nat) (room : iovCount ≤ s.iov.length) :
    ({ s with iov := (advanceIov iovCount remaining s.iov s.first).1, first := (advanceIov iovCount remaining s.iov s.first).2 } :
        ScatterState).pending memory iovCount = consumeIov remaining (s.pending memory iovCount) ∧
      (advanceIov iovCount remaining s.iov s.first).1.length = s.iov.length := by
  obtain ⟨iov, first, size, emitted⟩ := s
  simp only at room ⊢
  fun_induction advanceIov iovCount remaining iov first with
  | case1 remaining iov first going absent =>
      have bound := List.getElem?_eq_none_iff.mp absent
      omega
  | case2 remaining iov first going entry read whole ih =>
      obtain ⟨left, length⟩ := ih room
      refine ⟨?_, length⟩
      rw [left, pending_cons memory iovCount ⟨iov, first, size, emitted⟩ entry going.2 read, consumeIov, if_neg going.1,
        if_pos (by rwa [iov_bytes_length]), iov_bytes_length]
  | case3 remaining iov first going entry read cut ih =>
      obtain ⟨left, length⟩ := ih (by rwa [List.length_set])
      refine ⟨?_, length.trans List.length_set⟩
      have bound := (List.getElem?_eq_some_iff.mp read).1
      rw [left, consume_nothing, pending_cut memory iovCount ⟨iov, first, size, emitted⟩ _ going.2 bound, iov_bytes_cut,
        pending_cons memory iovCount ⟨iov, first, size, emitted⟩ entry going.2 read, consumeIov, if_neg going.1,
        if_neg (by rwa [iov_bytes_length])]
  | case4 remaining iov first stopped =>
      refine ⟨?_, rfl⟩
      by_cases nothing : remaining = 0
      · rw [nothing, consume_nothing]
      · have past : iovCount ≤ first := by omega
        rw [pending_done memory iovCount ⟨iov, first, size, emitted⟩ past, consumeIov]

theorem offered_pending (s : ScatterState) : s.offered memory iovMax iovCount = ((s.pending memory iovCount).take iovMax).flatten := by
  rw [offered, pending, List.drop_take, ← List.map_take, List.take_take]

theorem counted_cons (result : WritevOutcome) (rest : List WritevOutcome) :
    counted (result :: rest) = counted [result] + counted rest := by
  rw [counted, counted, counted, List.map_cons, List.sum_cons, List.map_cons, List.map_nil, List.sum_singleton]

theorem legal_counted (s : ScatterState) (result : WritevOutcome) (legal : s.Legal memory iovMax iovCount result) :
    counted [result] ≤ (s.pending memory iovCount).flatten.length := by
  cases result with
  | written written =>
      rw [Legal, offered_pending] at legal
      exact Nat.le_trans legal (offered_begins iovMax _).length_le
  | interrupted => exact Nat.zero_le _
  | failed => exact Nat.zero_le _

-- What the loop may rely on between two calls.
structure Ready (s : ScatterState) : Prop where
  room : iovCount ≤ s.iov.length
  filled : ∀ entry ∈ s.pending memory iovCount, entry ≠ []
  size : s.currentSize < 2 ^ 64

-- From `s` to `next` the first `count` of the pending bytes were emitted.
structure Wrote (s next : ScatterState) (count : Nat) : Prop where
  emitted : next.emitted = s.emitted ++ (s.pending memory iovCount).flatten.take count
  left : (next.pending memory iovCount).flatten = (s.pending memory iovCount).flatten.drop count
  size : next.currentSize = (s.currentSize + count) % 2 ^ 64
  ready : Ready memory iovCount next

theorem wrote_nothing (s : ScatterState) (ready : Ready memory iovCount s) : Wrote memory iovCount s s 0 where
  emitted := by rw [List.take_zero, List.append_nil]
  left := rfl
  size := (Nat.mod_eq_of_lt ready.size).symm
  ready := ready

theorem wrote_trans (s middle next : ScatterState) (first second : Nat) (before : Wrote memory iovCount s middle first)
    (after : Wrote memory iovCount middle next second) : Wrote memory iovCount s next (first + second) where
  emitted := by rw [after.emitted, before.emitted, before.left, List.take_add, List.append_assoc]
  left := by rw [after.left, before.left, List.drop_drop]
  size := by rw [after.size, before.size, Nat.mod_add_mod, Nat.add_assoc]
  ready := after.ready

theorem turn_wrote (s : ScatterState) (result : WritevOutcome) (ready : Ready memory iovCount s)
    (legal : s.Legal memory iovMax iovCount result) (progress : Progresses result) :
    (s.turn memory iovMax iovCount result).2 = none ∧
      Wrote memory iovCount s (s.turn memory iovMax iovCount result).1 (counted [result]) := by
  cases result with
  | interrupted => exact ⟨rfl, wrote_nothing memory iovCount s ready⟩
  | failed => exact progress.elim
  | written written =>
      have positive : written ≠ 0 := Nat.ne_of_gt progress
      obtain ⟨left, length⟩ := advance_pending memory iovCount s written ready.room
      rw [turn, if_neg positive]
      refine ⟨rfl, ⟨?_, ?_, rfl, ⟨?_, ?_, Nat.mod_lt _ (by decide)⟩⟩⟩
      · -- The offered bytes begin the pending ones, and the call took no more.
        obtain ⟨beyond, split⟩ := offered_begins iovMax (s.pending memory iovCount)
        rw [← offered_pending] at split
        rw [← split, counted_written, counted_nil, Nat.add_zero, List.take_append_of_le_length legal]
      · exact (congrArg List.flatten left).trans (consume_flatten written _)
      · exact ready.room.trans_eq length.symm
      · intro entry member
        have kept : entry ∈ consumeIov written (s.pending memory iovCount) := left ▸ member
        exact consume_nonempty written _ ready.filled entry kept

theorem ready_running (s : ScatterState) (ready : Ready memory iovCount s) :
    s.first < iovCount ↔ 0 < (s.pending memory iovCount).flatten.length := by
  constructor
  · intro inside
    have bound : s.first < s.iov.length := Nat.lt_of_lt_of_le inside ready.room
    have shape := pending_cons memory iovCount s _ inside (List.getElem?_eq_getElem bound)
    have first := ready.filled _ (shape ▸ List.mem_cons_self ..)
    rw [shape, List.flatten_cons, List.length_append]
    exact Nat.add_pos_left (List.length_pos_iff.mpr first) _
  · intro more
    by_contra stopped
    rw [pending_done memory iovCount s (Nat.le_of_not_lt stopped)] at more
    cases more

-- The loop on results that all make progress: it has emitted what they count,
-- and it has returned exactly when that is everything.
theorem run_wrote (results : List WritevOutcome) (s : ScatterState) (ready : Ready memory iovCount s)
    (legal : LegalRun memory iovMax iovCount results s) (progress : ∀ result ∈ results, Progresses result) :
    Wrote memory iovCount s (writeAll memory iovMax iovCount results s).1
        (min (counted results) (s.pending memory iovCount).flatten.length) ∧
      (writeAll memory iovMax iovCount results s).2 =
        if (s.pending memory iovCount).flatten.length ≤ counted results then some true else none := by
  induction results generalizing s with
  | nil =>
      have running := ready_running memory iovCount s ready
      rw [counted_nil, Nat.zero_min, writeAll]
      by_cases inside : s.first < iovCount
      · rw [if_pos inside, if_neg (Nat.not_le_of_lt (running.mp inside))]
        exact ⟨wrote_nothing memory iovCount s ready, rfl⟩
      · rw [if_neg inside, if_pos (Nat.le_of_not_lt (running.not.mp inside))]
        exact ⟨wrote_nothing memory iovCount s ready, rfl⟩
  | cons result rest ih =>
      have running := ready_running memory iovCount s ready
      rw [writeAll]
      by_cases inside : s.first < iovCount
      · obtain ⟨allowed, later⟩ := legal inside
        obtain ⟨going, wrote⟩ := turn_wrote memory iovMax iovCount s result ready allowed (progress result (List.mem_cons_self ..))
        obtain ⟨ended, returned⟩ := ih (s.turn memory iovMax iovCount result).1 wrote.ready (later going)
          fun other member => progress other (List.mem_cons_of_mem _ member)
        have taken := legal_counted memory iovMax iovCount s result allowed
        have both := wrote_trans memory iovCount _ _ _ _ _ wrote ended
        have remaining := congrArg List.length wrote.left
        rw [List.length_drop] at remaining
        rw [if_pos inside, counted_cons]
        generalize s.turn memory iovMax iovCount result = turned at going ended returned both remaining ⊢
        obtain ⟨next, outcome⟩ := turned
        cases going
        dsimp only at remaining returned
        have amount : min (counted [result] + counted rest) (s.pending memory iovCount).flatten.length =
            counted [result] + min (counted rest) (next.pending memory iovCount).flatten.length := by
          omega
        refine ⟨amount ▸ both, returned.trans (if_congr ?_ rfl rfl)⟩
        omega
      · have empty : (s.pending memory iovCount).flatten.length = 0 := by
          have none := running.not.mp inside
          omega
        rw [if_neg inside, empty, Nat.min_zero, if_pos (Nat.zero_le _)]
        exact ⟨wrote_nothing memory iovCount s ready, rfl⟩

theorem run_appended (results more : List WritevOutcome) (s : ScatterState)
    (waiting : (writeAll memory iovMax iovCount results s).2 = none) :
    writeAll memory iovMax iovCount (results ++ more) s =
      writeAll memory iovMax iovCount more (writeAll memory iovMax iovCount results s).1 := by
  induction results generalizing s with
  | nil =>
      rw [writeAll] at waiting ⊢
      by_cases inside : s.first < iovCount
      · rw [if_pos inside]
        rfl
      · rw [if_neg inside] at waiting
        cases waiting
  | cons result rest ih =>
      rw [writeAll] at waiting
      rw [List.cons_append, writeAll, writeAll]
      by_cases inside : s.first < iovCount
      · rw [if_pos inside] at waiting ⊢
        rw [if_pos inside]
        cases turned : s.turn memory iovMax iovCount result with
        | mk next outcome =>
            rw [turned] at waiting
            cases outcome with
            | none => exact ih next waiting
            | some returned => cases waiting
      · rw [if_neg inside] at waiting
        cases waiting

-- A loop that has not returned met neither an error nor a zero.
theorem waiting_progresses (results : List WritevOutcome) (s : ScatterState)
    (waiting : (writeAll memory iovMax iovCount results s).2 = none) : ∀ result ∈ results, Progresses result := by
  induction results generalizing s with
  | nil => exact fun result member => absurd member List.not_mem_nil
  | cons result rest ih =>
      rw [writeAll] at waiting
      by_cases inside : s.first < iovCount
      · rw [if_pos inside] at waiting
        cases turned : s.turn memory iovMax iovCount result with
        | mk next outcome =>
            rw [turned] at waiting
            cases outcome with
            | some returned => cases waiting
            | none =>
                have progress : Progresses result := by
                  cases result with
                  | interrupted => exact trivial
                  | failed => cases turned
                  | written written =>
                      refine Nat.pos_of_ne_zero fun zero => ?_
                      rw [turn, if_pos zero] at turned
                      cases turned
                exact List.forall_mem_cons.mpr ⟨progress, ih next waiting⟩
      · rw [if_neg inside] at waiting
        cases waiting

theorem counted_progress (results : List WritevOutcome) (progress : ∀ result ∈ results, Progresses result) :
    results.countP (· ≠ .interrupted) ≤ counted results := by
  induction results with
  | nil => exact Nat.zero_le _
  | cons result rest ih =>
      obtain ⟨first, later⟩ := List.forall_mem_cons.mp progress
      have rest := ih later
      rw [counted_cons]
      cases result with
      | interrupted =>
          rw [List.countP_cons_of_neg (by decide)]
          exact Nat.le_trans rest (Nat.le_add_left _ _)
      | failed => exact first.elim
      | written written =>
          rw [List.countP_cons_of_pos (by simp), counted_written, counted_nil]
          have positive : 0 < written := first
          omega

-- EINTR does not recur for ever: any number of other results comes.
theorem others_come (stream : Nat → WritevOutcome) (often : ∀ n, ∃ m, n ≤ m ∧ stream m ≠ .interrupted) (wanted : Nat) :
    ∃ n, wanted ≤ ((List.range n).map stream).countP (· ≠ .interrupted) := by
  induction wanted with
  | zero => exact ⟨0, Nat.zero_le _⟩
  | succ wanted ih =>
      obtain ⟨n, enough⟩ := ih
      obtain ⟨m, later, other⟩ := often n
      refine ⟨m + 1, ?_⟩
      have begins : ((List.range n).map stream).Sublist ((List.range m).map stream) :=
        (List.range_sublist.mpr later).map stream
      have counted := begins.countP_le (p := fun result => decide (result ≠ .interrupted))
      rw [List.range_succ, List.map_append, List.countP_append, List.map_singleton, List.countP_singleton,
        if_pos (decide_eq_true other)]
      omega

theorem stop_returns (s : ScatterState) (inside : s.first < iovCount) (stop : WritevOutcome) (rest : List WritevOutcome)
    (halts : ¬ Progresses stop) : writeAll memory iovMax iovCount (stop :: rest) s = (s, some false) := by
  rw [writeAll, if_pos inside]
  cases stop with
  | interrupted => exact absurd trivial halts
  | failed => rfl
  | written written =>
      obtain rfl : written = 0 := Nat.eq_zero_of_not_pos halts
      rfl

end

-- The open part of the recorder is what the descriptor took.
structure Represents (r : Recorder) (part : Nat) (s : ScatterState) : Prop where
  fd : r.fd = some part
  size : r.currentSize = s.currentSize
  content : r.parts[part]? = some s.emitted

-- One turn of the in-place loop is one step of the recorder on the byte lists.
theorem turn_refines (memory : Nat → Byte) (env : RecorderEnv) (iovCount : Nat) (r : Recorder) (part : Nat) (s : ScatterState)
    (result : WritevOutcome) (ready : Ready memory iovCount s) (legal : s.Legal memory env.iovMax iovCount result)
    (same : Represents r part s) :
    let next := s.turn memory env.iovMax iovCount result
    let step := writevStep env r (s.pending memory iovCount) result
    Represents step.recorder part next.1 ∧ step.iov = if next.2 = none then next.1.pending memory iovCount else [] := by
  cases result with
  | interrupted => exact ⟨same, rfl⟩
  | failed => exact ⟨⟨same.fd, same.size, same.content⟩, rfl⟩
  | written written =>
      have offer : writtenBytes env (s.pending memory iovCount) written = (s.offered memory env.iovMax iovCount).take written := by
        rw [writtenBytes, offered_pending]
      have length : ((s.offered memory env.iovMax iovCount).take written).length = written := List.length_take_of_le legal
      simp only [turn, writevStep, same.fd, offer, length]
      by_cases nothing : written = 0
      · rw [if_pos nothing, if_pos nothing]
        exact ⟨⟨rfl, same.size, same.content⟩, rfl⟩
      · rw [if_neg nothing, if_neg nothing]
        refine ⟨⟨same.fd, ?_, ?_⟩, (advance_pending memory iovCount s written ready.room).1.symm⟩
        · rw [Recorder.append, same.size, length]
        · rw [Recorder.append, List.getElem?_modify_eq, same.content]
          rfl

end ScatterState

open ScatterState

theorem scatter_write (memory : Nat → Byte) (iovMax iovCount : Nat) (s : ScatterState) (start : s.first = 0)
    (room : iovCount ≤ s.iov.length) (filled : ∀ entry ∈ s.iov.take iovCount, 0 < entry.iovLen) (size : s.currentSize < 2 ^ 64) :
    let whole := ((s.iov.take iovCount).map (IoVec.bytes memory)).flatten
    (∀ results, LegalRun memory iovMax iovCount results s → (∀ result ∈ results, Progresses result) →
      ((writeAll memory iovMax iovCount results s).2 ≠ none ↔ whole.length ≤ counted results) ∧
      (whole.length ≤ counted results → ∃ final, writeAll memory iovMax iovCount results s = (final, some true) ∧
        final.emitted = s.emitted ++ whole ∧ final.currentSize = (s.currentSize + whole.length) % 2 ^ 64)) ∧
    (∀ results stop rest, LegalRun memory iovMax iovCount results s → (∀ result ∈ results, Progresses result) →
      counted results < whole.length → ¬ Progresses stop →
      ∃ final, writeAll memory iovMax iovCount (results ++ stop :: rest) s = (final, some false) ∧
        ∃ done, done <+: whole ∧ final.emitted = s.emitted ++ done ∧ final.currentSize = (s.currentSize + done.length) % 2 ^ 64) ∧
    ∀ stream : Nat → WritevOutcome, (∀ n, LegalRun memory iovMax iovCount ((List.range n).map stream) s) →
      (∀ n, ∃ m, n ≤ m ∧ stream m ≠ .interrupted) →
      ∃ n, (writeAll memory iovMax iovCount ((List.range n).map stream) s).2 ≠ none := by
  intro whole
  have all : (s.pending memory iovCount).flatten = whole := by rw [pending, start, List.drop_zero]
  have ready : Ready memory iovCount s := by
    refine ⟨room, ?_, size⟩
    intro entry member
    rw [pending, start, List.drop_zero] at member
    obtain ⟨buffer, listed, rfl⟩ := List.mem_map.mp member
    exact List.length_pos_iff.mp ((iov_bytes_length memory buffer).symm ▸ filled buffer listed)
  have run := fun results => run_wrote memory iovMax iovCount results s ready
  rw [all] at run
  refine ⟨?_, ?_, ?_⟩
  · intro results legal progress
    obtain ⟨wrote, returned⟩ := run results legal progress
    constructor
    · rw [returned]
      by_cases finished : whole.length ≤ counted results <;> simp [finished]
    · intro finished
      rw [if_pos finished] at returned
      rw [Nat.min_eq_right finished] at wrote
      refine ⟨_, Prod.ext rfl returned, ?_, wrote.size⟩
      rw [wrote.emitted, all, List.take_length]
  · intro results stop rest legal progress short halts
    obtain ⟨wrote, returned⟩ := run results legal progress
    rw [if_neg (Nat.not_le_of_lt short)] at returned
    rw [Nat.min_eq_left (Nat.le_of_lt short)] at wrote
    have left := congrArg List.length wrote.left
    rw [List.length_drop, all] at left
    have inside := (ready_running memory iovCount _ wrote.ready).mpr (by omega)
    refine ⟨_, ?_, whole.take (counted results), List.take_prefix _ _, all ▸ wrote.emitted, ?_⟩
    · rw [run_appended memory iovMax iovCount results _ s returned, stop_returns memory iovMax iovCount _ inside stop rest halts]
    · rw [wrote.size, List.length_take_of_le (Nat.le_of_lt short)]
  · intro stream legal often
    obtain ⟨n, enough⟩ := others_come stream often whole.length
    refine ⟨n, fun waiting => ?_⟩
    have progress := waiting_progresses memory iovMax iovCount _ s waiting
    have returned := (run _ (legal n) progress).2
    rw [waiting, if_pos (Nat.le_trans enough (counted_progress _ progress))] at returned
    cases returned

def addressBytes (address : Nat) : Byte := BitVec.ofNat 8 address

def threeBuffers : ScatterState := ⟨[⟨10, 2⟩, ⟨20, 3⟩, ⟨30, 2⟩], 0, 5, []⟩

-- Two entries a call: a cut inside the second buffer, then one on its end.
theorem scatter_write_split :
    (∃ final, writeAll addressBytes 2 3 [.interrupted, .written 3, .written 2, .interrupted, .written 2] threeBuffers =
        (final, some true) ∧ final.emitted = [10, 11, 20, 21, 22, 30, 31] ∧ final.currentSize = 12) ∧
      (∃ final, writeAll addressBytes 2 3 [.written 3, .interrupted, .written 0] threeBuffers = (final, some false) ∧
        ∃ done, done <+: [10, 11, 20, 21, 22, 30, 31] ∧ final.emitted = done ∧ final.currentSize = (5 + done.length) % 2 ^ 64) ∧
      ∃ n, (writeAll addressBytes 2 3 ((List.range n).map fun _ => .failed) threeBuffers).2 ≠ none := by
  obtain ⟨finishes, stops, ends⟩ := scatter_write addressBytes 2 3 threeBuffers rfl (by decide) (by decide) (by decide)
  refine ⟨?_, ?_, ?_⟩
  · refine (finishes _ ?_ ?_).2 (by decide)
    · simp [LegalRun, Legal, turn, offered, advanceIov, threeBuffers]
    · simp [Progresses]
  · refine stops [.written 3, .interrupted] (.written 0) [] ?_ ?_ (by decide) (Nat.lt_irrefl 0)
    · simp [LegalRun, Legal, turn, offered, advanceIov, threeBuffers]
    · simp [Progresses]
  · refine ends (fun _ => .failed) ?_ (fun n => ⟨n, Nat.le_refl n, by decide⟩)
    intro n
    cases n with
    | zero => trivial
    | succ n =>
        rw [List.range_succ_eq_map, List.map_cons]
        exact fun _ => ⟨trivial, fun going => nomatch going⟩

end SpectralLine
