import SpectralLine.RingWindow

set_option autoImplicit false

namespace SpectralLine

section

variable {𝕜 : Type} (cfg : GpuConfig 𝕜)

abbrev batchIds (queue : List (PacketBatch cfg.batchsize)) : List Nat := queue.map PacketBatch.batchId

-- A stream of batches with consecutive ids.
def Consecutive (queue : List (PacketBatch cfg.batchsize)) (start : Nat) : Prop :=
  batchIds cfg queue = List.range' start queue.length

theorem consecutive_cons (batch : PacketBatch cfg.batchsize) (rest : List (PacketBatch cfg.batchsize)) (start : Nat)
    (ids : Consecutive cfg (batch :: rest) start) : batch.batchId = start ∧ Consecutive cfg rest (start + 1) := by
  rw [Consecutive, batchIds, List.map_cons, List.length_cons, List.range'_succ] at ids
  exact List.cons.inj ids

theorem consecutive_drop (queue : List (PacketBatch cfg.batchsize)) (start count : Nat)
    (ids : Consecutive cfg queue start) : Consecutive cfg (queue.drop count) (start + count) := by
  induction count generalizing queue start with
  | zero => exact ids
  | succ count ih =>
      cases queue with
      | nil => rfl
      | cons batch rest =>
          have tail := ih rest (start + 1) (consecutive_cons cfg batch rest start ids).2
          rw [List.drop_succ_cons]
          have shift : start + (count + 1) = start + 1 + count := by omega
          rw [shift]
          exact tail

-- Where the alignment loop stops on two consecutive streams.
theorem align_consecutive (pair : Aligned cfg) (a b : Nat)
    (idsA : Consecutive cfg (pair.batchA :: pair.queueA) a) (idsB : Consecutive cfg (pair.batchB :: pair.queueB) b) :
    match alignBatches cfg pair with
    | .ok last =>
        last.batchA :: last.queueA = (pair.batchA :: pair.queueA).drop (max a b - a) ∧
        last.batchB :: last.queueB = (pair.batchB :: pair.queueB).drop (max a b - b) ∧
        last.gap = (pair.gap || decide (a ≠ b))
    | .error halt => halt = .waiting ∧ (a + pair.queueA.length < max a b ∨ b + pair.queueB.length < max a b) := by
  have headA := (consecutive_cons cfg _ _ a idsA).1
  have headB := (consecutive_cons cfg _ _ b idsB).1
  fun_induction alignBatches cfg pair generalizing a b with
  | case1 pair same =>
      have equal : a = b := by omega
      simp [equal]
  | case2 pair differ behind left =>
      refine ⟨rfl, Or.inl ?_⟩
      simp only [left, List.length_nil]
      omega
  | case3 pair differ behind batch rest left ih =>
      have tail := (consecutive_cons cfg _ _ a idsA).2
      rw [left] at tail
      have inner := ih (a + 1) b tail idsB (consecutive_cons cfg batch rest (a + 1) tail).1 headB
      have top : max (a + 1) b = max a b := by omega
      have steps : max a b - a = (max a b - (a + 1)) + 1 := by omega
      have differs : decide (a ≠ b) = true := by simpa using show a ≠ b by omega
      rw [top] at inner
      cases result : alignBatches cfg { pair with batchA := batch, queueA := rest, gap := true } with
      | error halt =>
          simp only [result] at inner
          refine ⟨inner.1, inner.2.imp ?_ id⟩
          intro short
          rw [left, List.length_cons]
          omega
      | ok last =>
          simp only [result] at inner
          obtain ⟨restA, restB, gap⟩ := inner
          refine ⟨?_, restB, ?_⟩
          · rw [steps, List.drop_succ_cons, left]
            exact restA
          · rw [gap, differs, Bool.or_true, Bool.true_or]
  | case4 pair differ ahead left =>
      refine ⟨rfl, Or.inr ?_⟩
      simp only [left, List.length_nil]
      omega
  | case5 pair differ ahead batch rest left ih =>
      have tail := (consecutive_cons cfg _ _ b idsB).2
      rw [left] at tail
      have inner := ih a (b + 1) idsA tail headA (consecutive_cons cfg batch rest (b + 1) tail).1
      have top : max a (b + 1) = max a b := by omega
      have steps : max a b - b = (max a b - (b + 1)) + 1 := by omega
      have differs : decide (a ≠ b) = true := by simpa using show a ≠ b by omega
      rw [top] at inner
      cases result : alignBatches cfg { pair with batchB := batch, queueB := rest, gap := true } with
      | error halt =>
          simp only [result] at inner
          refine ⟨inner.1, inner.2.imp id ?_⟩
          intro short
          rw [left, List.length_cons]
          omega
      | ok last =>
          simp only [result] at inner
          obtain ⟨restA, restB, gap⟩ := inner
          refine ⟨restA, ?_, ?_⟩
          · rw [steps, List.drop_succ_cons, left]
            exact restB
          · rw [gap, differs, Bool.or_true, Bool.true_or]

theorem take_pair_ok (st : GpuPfbFft cfg) (pair : Aligned cfg) : ∃ state, takePair cfg st pair = .ok state := by
  rw [takePair, blockTimestampNs, header_timestamp]
  exact ⟨_, rfl⟩

def pairCount (queueA queueB : List (PacketBatch cfg.batchsize)) (a b : Nat) : Nat :=
  min (a + queueA.length) (b + queueB.length) - max a b

theorem dequeue_consecutive (queueA queueB : List (PacketBatch cfg.batchsize)) (a b : Nat)
    (idsA : Consecutive cfg queueA a) (idsB : Consecutive cfg queueB b) :
    match dequeueAligned cfg queueA queueB with
    | .ok last =>
        last.batchA :: last.queueA = queueA.drop (max a b - a) ∧
        last.batchB :: last.queueB = queueB.drop (max a b - b) ∧ last.gap = decide (a ≠ b)
    | .error halt => halt = .waiting ∧ pairCount cfg queueA queueB a b = 0 := by
  cases queueA with
  | nil => exact ⟨rfl, by simp only [pairCount, List.length_nil]; omega⟩
  | cons batchA restA =>
      cases queueB with
      | nil => exact ⟨rfl, by simp only [pairCount, List.length_nil]; omega⟩
      | cons batchB restB =>
          have aligned := align_consecutive cfg ⟨batchA, batchB, false, restA, restB⟩ a b idsA idsB
          change match alignBatches cfg ⟨batchA, batchB, false, restA, restB⟩ with
            | .ok last => _
            | .error halt => _
          cases result : alignBatches cfg ⟨batchA, batchB, false, restA, restB⟩ with
          | error halt =>
              simp only [result] at aligned
              refine ⟨aligned.1, ?_⟩
              have short := aligned.2
              simp only [pairCount, List.length_cons]
              omega
          | ok last =>
              simp only [result, Bool.false_or] at aligned
              exact aligned

theorem turn_error (st : GpuPfbFft cfg) (queueA queueB : List (PacketBatch cfg.batchsize)) (halt : Halt)
    (stopped : subbandTurn cfg st queueA queueB = .error halt) : dequeueAligned cfg queueA queueB = .error halt := by
  cases aligned : dequeueAligned cfg queueA queueB with
  | error other =>
      simp only [subbandTurn, aligned, bind, Except.bind] at stopped
      rw [Except.error.inj stopped]
  | ok pair =>
      obtain ⟨state, done⟩ := take_pair_ok cfg st pair
      simp only [subbandTurn, aligned, done, bind, Except.bind] at stopped
      cases stopped

-- The worker pairs the batches of equal id from the larger start on, each once
-- and in order, until one stream ends.
theorem thread_pairs (st : GpuPfbFft cfg) (queueA queueB : List (PacketBatch cfg.batchsize)) (a b : Nat)
    (idsA : Consecutive cfg queueA a) (idsB : Consecutive cfg queueB b) :
    (subbandThread cfg st queueA queueB).1.map (fun turn => turn.pair.batchA) =
      (queueA.drop (max a b - a)).take (pairCount cfg queueA queueB a b) ∧
    (subbandThread cfg st queueA queueB).1.map (fun turn => turn.pair.batchB) =
      (queueB.drop (max a b - b)).take (pairCount cfg queueA queueB a b) ∧
    (subbandThread cfg st queueA queueB).2 = .waiting := by
  fun_induction subbandThread cfg st queueA queueB generalizing a b with
  | case1 st queueA queueB halt stopped =>
      have blocked := dequeue_consecutive cfg queueA queueB a b idsA idsB
      rw [turn_error cfg st queueA queueB halt stopped] at blocked
      simp [blocked.1, blocked.2]
  | case2 st queueA queueB turn taken rest ih =>
      obtain ⟨_, dequeued, _⟩ := turn_cases cfg st queueA queueB turn taken
      have aligned := dequeue_consecutive cfg queueA queueB a b idsA idsB
      rw [dequeued] at aligned
      obtain ⟨dropA, dropB, _⟩ := aligned
      have restA := consecutive_drop cfg queueA a (max a b - a) idsA
      have restB := consecutive_drop cfg queueB b (max a b - b) idsB
      have sizeA := congrArg List.length dropA
      have sizeB := congrArg List.length dropB
      rw [List.length_cons, List.length_drop] at sizeA sizeB
      have topA : a + (max a b - a) = max a b := by omega
      have topB : b + (max a b - b) = max a b := by omega
      rw [← dropA, topA] at restA
      rw [← dropB, topB] at restB
      obtain ⟨pairsA, pairsB, stop⟩ := ih (max a b + 1) (max a b + 1) (consecutive_cons cfg _ _ _ restA).2
        (consecutive_cons cfg _ _ _ restB).2
      have count : pairCount cfg queueA queueB a b =
          pairCount cfg turn.pair.queueA turn.pair.queueB (max a b + 1) (max a b + 1) + 1 := by
        simp only [pairCount]
        omega
      simp only [Nat.max_self, Nat.sub_self, List.drop_zero] at pairsA pairsB
      refine ⟨?_, ?_, stop⟩
      · rw [List.map_cons, pairsA, ← dropA, count, List.take_succ_cons]
      · rw [List.map_cons, pairsB, ← dropB, count, List.take_succ_cons]

-- Streams that start together never need the alignment loop.
theorem thread_gap_free (st : GpuPfbFft cfg) (queueA queueB : List (PacketBatch cfg.batchsize)) (start : Nat)
    (idsA : Consecutive cfg queueA start) (idsB : Consecutive cfg queueB start) :
    ∀ turn ∈ (subbandThread cfg st queueA queueB).1, turn.pair.gap = false := by
  fun_induction subbandThread cfg st queueA queueB generalizing start with
  | case1 st queueA queueB halt stopped => simp
  | case2 st queueA queueB turn taken rest ih =>
      obtain ⟨_, dequeued, _⟩ := turn_cases cfg st queueA queueB turn taken
      have aligned := dequeue_consecutive cfg queueA queueB start start idsA idsB
      rw [dequeued] at aligned
      simp only [Nat.max_self, Nat.sub_self, List.drop_zero, ne_eq, not_true_eq_false, decide_false] at aligned
      obtain ⟨headA, headB, gap⟩ := aligned
      rw [← headA] at idsA
      rw [← headB] at idsB
      intro other member
      rcases List.mem_cons.mp member with rfl | later
      · exact gap
      · exact ih (start + 1) (consecutive_cons cfg _ _ _ idsA).2 (consecutive_cons cfg _ _ _ idsB).2 other later

-- Only the first pair of streams that start apart reports a gap.
theorem thread_gap (st : GpuPfbFft cfg) (queueA queueB : List (PacketBatch cfg.batchsize)) (a b : Nat)
    (idsA : Consecutive cfg queueA a) (idsB : Consecutive cfg queueB b) (i : Nat) (turn : WorkerTurn cfg)
    (found : (subbandThread cfg st queueA queueB).1[i]? = some turn) : turn.pair.gap = decide (i = 0 ∧ a ≠ b) := by
  revert found
  fun_cases subbandThread cfg st queueA queueB with
  | case1 halt stopped => simp
  | case2 first taken rest =>
      intro found
      obtain ⟨_, dequeued, _⟩ := turn_cases cfg st queueA queueB first taken
      have aligned := dequeue_consecutive cfg queueA queueB a b idsA idsB
      rw [dequeued] at aligned
      obtain ⟨headA, headB, gap⟩ := aligned
      have restA := consecutive_drop cfg queueA a (max a b - a) idsA
      have restB := consecutive_drop cfg queueB b (max a b - b) idsB
      rw [← headA, show a + (max a b - a) = max a b by omega] at restA
      rw [← headB, show b + (max a b - b) = max a b by omega] at restB
      cases i with
      | zero =>
          obtain rfl : first = turn := by simpa using found
          simpa using gap
      | succ i =>
          rw [List.getElem?_cons_succ] at found
          rw [thread_gap_free cfg _ _ _ _ (consecutive_cons cfg _ _ _ restA).2 (consecutive_cons cfg _ _ _ restB).2 turn
            (List.mem_of_getElem? found)]
          simp

end

end SpectralLine
