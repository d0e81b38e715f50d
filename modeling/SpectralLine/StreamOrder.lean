import SpectralLine.Accumulators
import SpectralLine.PfbValidity
import SpectralLine.Lib.Fence

set_option autoImplicit false

namespace SpectralLine

open Streams

section

variable {𝕜 : Type} (cfg : GpuConfig 𝕜)

-- The stream an operation is issued to, and the stream an event is recorded on.
def homeOf : DeviceOp cfg → CudaStream
  | .copyToDevice p _ => .h2d p
  | .toRing p _ => .conv p
  | .pfbSum p _ => .pfb p
  | .fft p => .pfb p
  | .fftshift p => .pfb p
  | _ => .d2h

def eventHome : CudaEvent → CudaStream
  | .h2dDone p => .h2d p
  | .convDone p => .conv p
  | .pfbDone p => .pfb p
  | .slotDone _ => .d2h

def Placed : GpuInstr cfg → Prop
  | .launch s op => s = homeOf cfg op
  | .record e s => s = eventHome e
  | _ => True

theorem side_placed (i : GpuInstr cfg) (side : resultSide cfg i = true) : Placed cfg i := by
  cases i with
  | launch s op => cases s <;> cases op <;> simp_all [resultSide, Placed, homeOf]
  | record e s => cases e <;> cases s <;> simp_all [resultSide, Placed, eventHome]
  | wait s e => trivial
  | synchronize e => trivial
  | host action => trivial

def frontInstrs (pair : Aligned cfg) (st : GpuPfbFft cfg) : List (GpuInstr cfg) :=
  copyInstrs cfg pair ++ (submitPfbFft cfg st).2 ++ [.wait .d2h (.pfbDone .A), .wait .d2h (.pfbDone .B)]

theorem front_placed (pair : Aligned cfg) (st : GpuPfbFft cfg) : ∀ i ∈ frontInstrs cfg pair st, Placed cfg i := by
  simp [frontInstrs, copyInstrs, submitPfbFft, Placed, homeOf, eventHome]

theorem follows_instrs (st : GpuPfbFft cfg) (turn : WorkerTurn cfg) (follows : Follows cfg st turn) :
    ∃ state, turn.instrs = frontInstrs cfg turn.pair state ++ (stokesAccBody cfg turn.ready).2 := by
  obtain ⟨state, _, _, _, instrs⟩ := follows
  exact ⟨state, by rw [instrs, frontInstrs, List.append_assoc]; rfl⟩

theorem chain_member (st : GpuPfbFft cfg) (turns : List (WorkerTurn cfg)) (chain : Chain cfg st turns)
    (turn : WorkerTurn cfg) (member : turn ∈ turns) : ∃ before, Follows cfg before turn := by
  obtain ⟨past, rest, split⟩ := List.append_of_mem member
  exact ⟨_, (chain_split cfg st past rest turn (split ▸ chain)).2.1⟩

theorem program_placed (st : GpuPfbFft cfg) (turns : List (WorkerTurn cfg)) (chain : Chain cfg st turns) :
    ∀ i ∈ programOf cfg turns, Placed cfg i := by
  intro i member
  obtain ⟨turn, inTurns, inside⟩ := List.mem_flatMap.mp member
  obtain ⟨before, follows⟩ := chain_member cfg st turns chain turn inTurns
  obtain ⟨state, instrs⟩ := follows_instrs cfg before turn follows
  rw [instrs] at inside
  rcases List.mem_append.mp inside with front | body
  · exact front_placed cfg turn.pair state i front
  · exact side_placed cfg i (stokes_acc_side cfg turn.ready i body)

def launchedOn (s : CudaStream) : GpuInstr cfg → Bool
  | .launch t _ => t = s
  | _ => false

def waitsFor (s : CudaStream) (e : CudaEvent) : GpuInstr cfg → Bool
  | .wait t d => t = s ∧ d = e
  | _ => false

-- One stream after another by an event.
def eventFence (s t : CudaStream) (e : CudaEvent) : Fence (GpuInstr cfg) where
  source := launchedOn cfg s
  release := Instr.records e
  acquire := waitsFor cfg t e
  target := launchedOn cfg t

-- The three hand-overs of a block from stream to stream.
inductive HandOver : CudaStream → CudaStream → CudaEvent → Prop
  | copied (p : Pol) : HandOver (.h2d p) (.conv p) (.h2dDone p)
  | converted (p : Pol) : HandOver (.conv p) (.pfb p) (.convDone p)
  | transformed (p : Pol) : HandOver (.pfb p) .d2h (.pfbDone p)

theorem front_fenced (pair : Aligned cfg) (st : GpuPfbFft cfg) (s t : CudaStream) (e : CudaEvent) (handed : HandOver s t e) :
    scan (eventFence cfg s t e) .clear (frontInstrs cfg pair st) = some .clear := by
  cases handed with
  | copied p => cases p <;> rfl
  | converted p => cases p <;> rfl
  | transformed p => cases p <;> rfl

theorem side_fenced (i : GpuInstr cfg) (side : resultSide cfg i = true) (s t : CudaStream) (e : CudaEvent)
    (handed : HandOver s t e) : advancePhase (eventFence cfg s t e) .clear i = some .clear := by
  cases handed <;> cases i with
  | launch s op => cases s <;> simp_all [resultSide, advancePhase, eventFence, launchedOn, waitsFor, Instr.records]
  | record e s => cases e <;> cases s <;> simp_all [resultSide, advancePhase, eventFence, launchedOn, waitsFor, Instr.records]
  | wait s e => simp_all [resultSide]
  | synchronize e => simp [advancePhase, eventFence, launchedOn, waitsFor, Instr.records]
  | host action => simp [advancePhase, eventFence, launchedOn, waitsFor, Instr.records]

theorem program_fenced (st : GpuPfbFft cfg) (turns : List (WorkerTurn cfg)) (chain : Chain cfg st turns)
    (s t : CudaStream) (e : CudaEvent) (handed : HandOver s t e) :
    scan (eventFence cfg s t e) .clear (programOf cfg turns) = some .clear := by
  rw [programOf, List.flatMap_def]
  apply scan_flatten
  intro block member
  obtain ⟨turn, inTurns, rfl⟩ := List.mem_map.mp member
  obtain ⟨before, follows⟩ := chain_member cfg st turns chain turn inTurns
  obtain ⟨state, instrs⟩ := follows_instrs cfg before turn follows
  rw [instrs, scan_append _ .clear .clear _ _ (front_fenced cfg turn.pair state s t e handed)]
  apply scan_quiet
  intro i body
  exact side_fenced cfg i (stokes_acc_side cfg turn.ready i body) s t e handed

def overwrites : DeviceOp cfg → DeviceOp cfg → Bool
  | .toRing p _, .copyToDevice q _ => p = q
  | .pfbSum p _, .toRing q _ => p = q
  | .stokesAccumulate _, .fft _ => true
  | .stokesAccumulate _, .fftshift _ => true
  | .continuumAccumulate _, .fft _ => true
  | .continuumAccumulate _, .fftshift _ => true
  | _, _ => false

def Overwritten (prog : List (GpuInstr cfg)) (j k : Nat) : Prop :=
  (match prog[j]?, prog[k]? with
    | some (.launch _ earlier), some (.launch _ later) => overwrites cfg earlier later
    | _, _ => false) = true

instance (prog : List (GpuInstr cfg)) : DecidableRel (Overwritten cfg prog) := fun _ _ =>
  inferInstanceAs (Decidable (_ = true))

-- Who touches a location: one stream fills it, and the next in the chain
-- reads it.
theorem written_home (x : DeviceOp cfg) : ∀ l, x.dst = l → homeOf cfg x = match l with
    | .raw p => .h2d p
    | .ring p => .conv p
    | .pfbed p => .pfb p
    | .ffted p => .pfb p
    | _ => .d2h := by
  rintro l rfl
  cases x <;> rfl

theorem read_after_write (x y : DeviceOp cfg) (reads : y.reads x.dst) :
    homeOf cfg x = homeOf cfg y ∨ ∃ e, HandOver (homeOf cfg x) (homeOf cfg y) e := by
  have home := written_home cfg x
  cases y with
  | copyToDevice p bytes => cases reads
  | toRing p head =>
      rcases reads with raw | ring
      · exact Or.inr ⟨_, by rw [home _ raw]; exact HandOver.copied p⟩
      · exact Or.inl (home _ ring)
  | pfbSum p head => exact Or.inr ⟨_, by rw [home _ reads]; exact HandOver.converted p⟩
  | fft p => exact Or.inl (home _ reads)
  | fftshift p => exact Or.inl (home _ reads)
  | stokesAccumulate acc =>
      rcases reads with fftedA | fftedB | sum
      · exact Or.inr ⟨_, by rw [home _ fftedA]; exact HandOver.transformed .A⟩
      · exact Or.inr ⟨_, by rw [home _ fftedB]; exact HandOver.transformed .B⟩
      · exact Or.inl (home _ sum)
  | continuumAccumulate acc =>
      rcases reads with fftedA | fftedB | sum
      · exact Or.inr ⟨_, by rw [home _ fftedA]; exact HandOver.transformed .A⟩
      · exact Or.inr ⟨_, by rw [home _ fftedB]; exact HandOver.transformed .B⟩
      · exact Or.inl (home _ sum)
  | clearStokes acc => cases reads
  | clearSum acc => cases reads
  | copyStokes acc slot => exact Or.inl (home _ reads)
  | copySum acc slot => exact Or.inl (home _ reads)

theorem write_after_read (x y : DeviceOp cfg) (reads : x.reads y.dst) :
    homeOf cfg x = homeOf cfg y ∨ overwrites cfg x y = true := by
  have home := written_home cfg y
  cases x with
  | copyToDevice p bytes => cases reads
  | toRing p head =>
      rcases reads with raw | ring
      · cases y <;> simp_all [DeviceOp.dst, overwrites]
      · exact Or.inl (home _ ring).symm
  | pfbSum p head => cases y <;> simp_all [DeviceOp.dst, DeviceOp.reads, overwrites]
  | fft p => exact Or.inl (home _ reads).symm
  | fftshift p => exact Or.inl (home _ reads).symm
  | stokesAccumulate acc =>
      rcases reads with fftedA | fftedB | sum
      · cases y <;> simp_all [DeviceOp.dst, overwrites]
      · cases y <;> simp_all [DeviceOp.dst, overwrites]
      · exact Or.inl (home _ sum).symm
  | continuumAccumulate acc =>
      rcases reads with fftedA | fftedB | sum
      · cases y <;> simp_all [DeviceOp.dst, overwrites]
      · cases y <;> simp_all [DeviceOp.dst, overwrites]
      · exact Or.inl (home _ sum).symm
  | clearStokes acc => cases reads
  | clearSum acc => cases reads
  | copyStokes acc slot => exact Or.inl (home _ reads).symm
  | copySum acc slot => exact Or.inl (home _ reads).symm

theorem conflict_homes (x y : DeviceOp cfg) (l : Loc)
    (conflict : (x.dst = l ∧ (y.dst = l ∨ y.reads l)) ∨ ((x.dst = l ∨ x.reads l) ∧ y.dst = l)) :
    homeOf cfg x = homeOf cfg y ∨ (∃ e, HandOver (homeOf cfg x) (homeOf cfg y) e) ∨ overwrites cfg x y = true := by
  have shared : x.dst = y.dst → homeOf cfg x = homeOf cfg y := by
    intro same
    rw [written_home cfg x y.dst same, written_home cfg y y.dst rfl]
  rcases conflict with ⟨rfl, same | reads⟩ | ⟨same | reads, rfl⟩
  · exact Or.inl (shared same.symm)
  · rcases read_after_write cfg x y reads with same | handed
    · exact Or.inl same
    · exact Or.inr (Or.inl handed)
  · exact Or.inl (shared same)
  · rcases write_after_read cfg x y reads with same | war
    · exact Or.inl same
    · exact Or.inr (Or.inr war)

-- A hand-over orders every pair of operations of its two streams.
theorem hand_over_order (st : GpuPfbFft cfg) (turns : List (WorkerTurn cfg)) (chain : Chain cfg st turns)
    (state : State (Val cfg)) (closed : Closed (programOf cfg turns) state) (s t : CudaStream) (e : CudaEvent)
    (handed : HandOver s t e) (i j : Nat) (x y : DeviceOp cfg) (order : i < j)
    (atI : (programOf cfg turns)[i]? = some (.launch s x)) (atJ : (programOf cfg turns)[j]? = some (.launch t y))
    (executed : j ∈ state.executed) : i ∈ state.executed := by
  have placed := program_placed cfg st turns chain
  obtain ⟨r, w, a, b, afterI, inner, beforeJ, atR, releases, atW, acquires⟩ :=
    scan_fenced (eventFence cfg s t e) .clear .clear _ (program_fenced cfg st turns chain s t e handed)
      (by
        intro z target
        cases handed <;> cases z <;> simp_all [eventFence, launchedOn]) i j _ _ order atI
      (by simp [eventFence, launchedOn]) atJ (by simp [eventFence, launchedOn])
  have wait : b = .wait t e := by
    cases b <;> simp_all [eventFence, waitsFor]
  subst wait
  refine event_fence _ state closed i r w j s t e _ a _ ⟨afterI, inner, beforeJ⟩ atI rfl atR releases atW atJ rfl ?_ executed
  intro k z atK records
  have home := placed z (List.mem_of_getElem? atK)
  cases z with
  | record other stream =>
      have same : other = e := by simpa [Instr.records] using records
      have stream' : stream = eventHome e := by rw [← same]; exact home
      cases handed <;> rw [stream'] <;> rfl
  | launch _ _ => cases records
  | wait _ _ => cases records
  | synchronize _ => cases records
  | host _ => cases records

-- The copy into a slot, the event behind it, the host's wait and the publish.
def slotFence (slot : Fin numSlots) : Fence (GpuInstr cfg) where
  source
    | .launch _ (.copyStokes _ at_) => at_ = slot
    | .launch _ (.copySum _ at_) => at_ = slot
    | _ => false
  release := Instr.records (.slotDone slot)
  acquire
    | .synchronize e => e = .slotDone slot
    | _ => false
  target
    | .host (.publish at_) => at_ = slot
    | _ => false

def slotPlain : GpuInstr cfg → Bool
  | .launch _ (.copyStokes _ _) => false
  | .launch _ (.copySum _ _) => false
  | .record (.slotDone _) _ => false
  | .synchronize (.slotDone _) => false
  | .host (.publish _) => false
  | _ => true

theorem plain_fenced (slot : Fin numSlots) (instrs : List (GpuInstr cfg)) (plain : ∀ i ∈ instrs, slotPlain cfg i = true) :
    scan (slotFence cfg slot) .clear instrs = some .clear := by
  apply scan_quiet
  intro i member
  have here := plain i member
  cases i with
  | launch s op => cases op <;> simp_all [slotPlain, advancePhase, slotFence, Instr.records]
  | record e s => cases e <;> simp_all [slotPlain, advancePhase, slotFence, Instr.records]
  | wait s e => rfl
  | synchronize e => cases e <;> simp_all [slotPlain, advancePhase, slotFence, Instr.records]
  | host action => cases action <;> simp_all [slotPlain, advancePhase, slotFence, Instr.records]

theorem expose_fenced (slot at_ : Fin numSlots) (acc : NoiseState) :
    scan (slotFence cfg slot) .clear (exposeSlot cfg acc at_) = some .clear := by
  cases mode : cfg.spectral <;> by_cases same : at_ = slot <;>
    simp [exposeSlot, mode, same, scan, advancePhase, slotFence, Instr.records]

theorem accumulate_slot_plain (acc : NoiseState) : slotPlain cfg (accumulate cfg acc) = true := by
  cases mode : cfg.spectral <;> simp [accumulate, mode, slotPlain]

-- A joined block that is published: one hand-over between plain instructions.
theorem cal_publish_exposes (acc : NoiseState) (slot : Fin numSlots) (first last : Nat) : ∃ before after,
    accumulate cfg acc :: calPublish cfg acc slot first last = before ++ exposeSlot cfg acc slot ++ after ∧
    (∀ i ∈ before, slotPlain cfg i = true) ∧ (∀ i ∈ after, slotPlain cfg i = true) := by
  refine ⟨[accumulate cfg acc, .host (.setFirst slot first), .host (.setLast slot last)], clearAccumulators cfg acc, rfl, ?_, ?_⟩
  · intro i member
    simp only [List.mem_cons, List.not_mem_nil, or_false] at member
    rcases member with rfl | rfl | rfl
    · exact accumulate_slot_plain cfg acc
    · rfl
    · rfl
  · simp [clearAccumulators, slotPlain]

theorem plain_exposes (st : GpuPfbFft cfg) : (∀ i ∈ (accumulatePlain cfg st).2, slotPlain cfg i = true) ∨
    ∃ before acc after, (accumulatePlain cfg st).2 = before ++ exposeSlot cfg acc st.hhead ++ after ∧
      (∀ i ∈ before, slotPlain cfg i = true) ∧ (∀ i ∈ after, slotPlain cfg i = true) := by
  have start : ∀ i ∈ (if st.accId = 0 then [(.host (.setFirst st.hhead st.timestampNs) : GpuInstr cfg)] else []),
      slotPlain cfg i = true := by
    split <;> simp [slotPlain]
  unfold accumulatePlain
  extract_lets first
  split_ifs
  · refine Or.inr ⟨first ++ [accumulate cfg .off, .host (.setLast st.hhead st.timestampNs)], .off,
      [.launch .d2h (.clearSum .off), .launch .d2h (.clearStokes .off)], rfl, ?_, by simp [slotPlain]⟩
    intro i member
    rcases List.mem_append.mp member with early | late
    · exact start i early
    · simp only [List.mem_cons, List.not_mem_nil, or_false] at late
      rcases late with rfl | rfl
      · exact accumulate_slot_plain cfg .off
      · rfl
  · left
    intro i member
    rcases List.mem_append.mp member with early | late
    · exact start i early
    · rw [List.mem_singleton.mp late]
      exact accumulate_slot_plain cfg .off

theorem body_exposes (st : GpuPfbFft cfg) : (∀ i ∈ (stokesAccBody cfg st).2, slotPlain cfg i = true) ∨
    ∃ before acc after, (stokesAccBody cfg st).2 = before ++ exposeSlot cfg acc st.hhead ++ after ∧
      (∀ i ∈ before, slotPlain cfg i = true) ∧ (∀ i ∈ after, slotPlain cfg i = true) := by
  cases kind : accKind cfg st with
  | reset =>
      rw [body_reset cfg st kind]
      left
      unfold resetForGap
      split_ifs <;> simp [slotPlain]
  | skip =>
      rw [body_skip cfg st kind]
      left
      simp
  | add c =>
      rw [body_add cfg st c kind, joinPath]
      split_ifs
      · unfold accumulateOn
        extract_lets first
        split_ifs
        · obtain ⟨before, after, parts⟩ := cal_publish_exposes cfg .on st.hhead first st.timestampNs
          exact Or.inr ⟨before, .on, after, parts⟩
        · exact Or.inl (by simp [accumulate_slot_plain cfg .on])
      · unfold accumulateOff
        extract_lets first
        split_ifs
        · obtain ⟨before, after, parts⟩ := cal_publish_exposes cfg .off st.hhead first st.timestampNs
          exact Or.inr ⟨before, .off, after, parts⟩
        · exact Or.inl (by simp [accumulate_slot_plain cfg .off])
      · exact plain_exposes cfg { st with accumulatorsResetForGap := false }

theorem program_slot_fenced (st : GpuPfbFft cfg) (turns : List (WorkerTurn cfg)) (chain : Chain cfg st turns)
    (slot : Fin numSlots) : scan (slotFence cfg slot) .clear (programOf cfg turns) = some .clear := by
  rw [programOf, List.flatMap_def]
  apply scan_flatten
  intro block member
  obtain ⟨turn, inTurns, rfl⟩ := List.mem_map.mp member
  obtain ⟨before, follows⟩ := chain_member cfg st turns chain turn inTurns
  obtain ⟨state, instrs⟩ := follows_instrs cfg before turn follows
  have front : ∀ i ∈ frontInstrs cfg turn.pair state, slotPlain cfg i = true := by
    simp [frontInstrs, copyInstrs, submitPfbFft, slotPlain]
  rw [instrs, scan_append _ .clear .clear _ _ (plain_fenced cfg slot _ front)]
  rcases body_exposes cfg turn.ready with plain | ⟨early, acc, late, parts, plainEarly, plainLate⟩
  · exact plain_fenced cfg slot _ plain
  · rw [parts, List.append_assoc, scan_append _ .clear .clear _ _ (plain_fenced cfg slot _ plainEarly),
      scan_append _ .clear .clear _ _ (expose_fenced cfg slot _ acc)]
    exact plain_fenced cfg slot _ plainLate

variable [Field 𝕜]

-- Where nothing is overwritten too early, conflicting operations keep the
-- order in which they are issued.
theorem drained_ordered (st : GpuPfbFft cfg) (turns : List (WorkerTurn cfg)) (chain : Chain cfg st turns)
    (first : DeviceMemory cfg) (state : State (Val cfg))
    (reached : Reachable (gpuDevice cfg) (programOf cfg turns) (Drained (Overwritten cfg (programOf cfg turns))) first state) :
    Ordered (gpuDevice cfg) (programOf cfg turns) state := by
  have closed := reachable_closed _ _ _ _ state reached
  have placed := program_placed cfg st turns chain
  intro i j order conflict executed
  have launches : ∃ s x t y l, (programOf cfg turns)[i]? = some (.launch s x) ∧ (programOf cfg turns)[j]? = some (.launch t y) ∧
      ((x.dst = l ∧ (y.dst = l ∨ y.reads l)) ∨ ((x.dst = l ∨ x.reads l) ∧ y.dst = l)) := by
    obtain ⟨l, ⟨⟨s, x, atI, dst⟩, ⟨t, y, atJ, touches⟩⟩ | ⟨⟨s, x, atI, touches⟩, ⟨t, y, atJ, dst⟩⟩⟩ := conflict
    · exact ⟨s, x, t, y, l, atI, atJ, Or.inl ⟨dst, touches⟩⟩
    · exact ⟨s, x, t, y, l, atI, atJ, Or.inr ⟨touches, dst⟩⟩
  obtain ⟨s, x, t, y, l, atI, atJ, shares⟩ := launches
  have homeI : s = homeOf cfg x := placed _ (List.mem_of_getElem? atI)
  have homeJ : t = homeOf cfg y := placed _ (List.mem_of_getElem? atJ)
  rcases conflict_homes cfg x y l shares with same | ⟨e, handed⟩ | war
  · rw [homeI, same] at atI
    rw [homeJ] at atJ
    exact closed.fifo j executed i _ _ _ order atJ rfl atI rfl
  · rw [← homeI, ← homeJ] at handed
    exact hand_over_order cfg st turns chain state closed s t e handed i j x y order atI atJ executed
  · exact reachable_drained _ _ _ _ state reached j executed i order (by simp only [Overwritten, atI, atJ, war])

-- When the host publishes a slot every copy into it has run.
theorem published_copied (st : GpuPfbFft cfg) (turns : List (WorkerTurn cfg)) (chain : Chain cfg st turns)
    (state : State (Val cfg)) (closed : Closed (programOf cfg turns) state) (slot : Fin numSlots)
    (publishing : (programOf cfg turns)[state.issued]? = some (.host (.publish slot))) (i : Nat) (order : i < state.issued)
    (l : Loc) (own : l = .slotData slot ∨ l = .slotSum slot) (writes : Writes (gpuDevice cfg) (programOf cfg turns) i l) :
    i ∈ state.executed := by
  have placed := program_placed cfg st turns chain
  obtain ⟨s, op, found, dst⟩ := writes
  have copies : (slotFence cfg slot).source (.launch s op) = true := by
    change op.dst = l at dst
    rcases own with rfl | rfl <;> cases op <;> simp_all [DeviceOp.dst, slotFence]
  obtain ⟨r, w, a, b, afterI, inner, before, atR, releases, atW, acquires⟩ :=
    scan_fenced (slotFence cfg slot) .clear .clear _ (program_slot_fenced cfg st turns chain slot)
      (by
        intro z target
        cases z <;> simp_all [slotFence]) i state.issued _ _ order found copies publishing (by simp [slotFence])
  have waits : b = .synchronize (.slotDone slot) := by
    cases b <;> simp_all [slotFence]
  subst waits
  have onD2h : s = .d2h := by
    have home : s = homeOf cfg op := placed _ (List.mem_of_getElem? found)
    cases op <;> simp_all [slotFence, homeOf]
  subst onD2h
  refine host_fence _ state closed i r w state.issued .d2h _ _ a ⟨afterI, inner, before⟩ found rfl atR releases atW ?_ (Nat.le_refl _)
  intro k z atK records
  have home := placed z (List.mem_of_getElem? atK)
  cases z with
  | record other stream =>
      have same : other = .slotDone slot := by simpa [Instr.records] using records
      have stream' : stream = eventHome other := home
      rw [stream', same]
      rfl
  | launch _ _ => cases records
  | wait _ _ => cases records
  | synchronize _ => cases records
  | host _ => cases records

end

end SpectralLine
