import SpectralLine.Rotation
import SpectralLine.Lib.Framing
import SpectralLine.Lib.Run

set_option autoImplicit false

namespace SpectralLine

open Framing

-- One writev call; an interrupted one is repeated with the same arguments.
inductive WritevOutcome where
  | written (count : Nat)
  | interrupted
  | failed
deriving DecidableEq

-- The recorder inside write_all_iov, with the entries from `first` on.
structure RecorderProcess where
  recorder : Recorder
  iov : List (List Byte)

section

variable (env : RecorderEnv) (cfg : StreamConfig)

inductive RecorderEvent where
  | batch (batch : PacketBatch cfg.batchsize)
  | writev (outcome : WritevOutcome)

def writevStep (r : Recorder) (iov : List (List Byte)) : WritevOutcome → RecorderProcess
  | .interrupted => ⟨r, iov⟩
  | .failed => ⟨{ r with writes := r.writes + 1 }, []⟩
  | .written count =>
      match r.fd with
      | none => ⟨{ r with writes := r.writes + 1 }, []⟩
      | some part =>
          if (writtenBytes env iov count).length = 0 then ⟨{ r with writes := r.writes + 1 }, []⟩
          else ⟨r.append part (writtenBytes env iov count), consumeIov (writtenBytes env iov count).length iov⟩

-- recoder takes the next batch when write_all_iov has returned.
def RecorderProcess.step (process : RecorderProcess) : RecorderEvent cfg → Except Unit RecorderProcess
  | .batch batch =>
      if process.iov.isEmpty then .ok ⟨rotated env cfg process.recorder, batchIov env cfg batch⟩ else .error ()
  | .writev outcome =>
      if process.iov.isEmpty then .error () else .ok (writevStep env process.recorder process.iov outcome)

theorem write_all_steps (r : Recorder) (iov : List (List Byte)) : ∃ outcomes : List WritevOutcome,
    (outcomes.map RecorderEvent.writev).foldlM (RecorderProcess.step env cfg) ⟨r, iov⟩ = .ok ⟨(writeAllIov env r iov).1, []⟩ := by
  fun_induction writeAllIov env r iov with
  | case1 r iov done =>
      obtain rfl := List.isEmpty_iff.mp done
      exact ⟨[], rfl⟩
  | case2 r iov more part count result descriptor stuck =>
      refine ⟨[.written count], ?_⟩
      simp only [List.map_cons, List.map_nil, List.foldlM_cons, List.foldlM_nil, RecorderProcess.step, if_neg more, writevStep,
        descriptor, if_pos stuck, bind, Except.bind, pure, Except.pure]
  | case3 r iov more part count result descriptor moving ih =>
      obtain ⟨outcomes, rest⟩ := ih
      refine ⟨.written count :: outcomes, ?_⟩
      simp only [List.map_cons, List.foldlM_cons, RecorderProcess.step, if_neg more, writevStep, descriptor, if_neg moving,
        bind, Except.bind]
      exact rest
  | case4 r iov more stuck =>
      refine ⟨[.failed], ?_⟩
      simp only [List.map_cons, List.map_nil, List.foldlM_cons, List.foldlM_nil, RecorderProcess.step, if_neg more, writevStep,
        bind, Except.bind, pure, Except.pure]

theorem recoder_steps (r : Recorder) (batch : PacketBatch cfg.batchsize) : ∃ outcomes : List WritevOutcome,
    (RecorderEvent.batch batch :: outcomes.map RecorderEvent.writev).foldlM (RecorderProcess.step env cfg) ⟨r, []⟩ =
      .ok ⟨recoder env cfg r batch, []⟩ := by
  obtain ⟨outcomes, run⟩ := write_all_steps env cfg (rotated env cfg r) (batchIov env cfg batch)
  exact ⟨outcomes, run⟩

def batchesOf : List (RecorderEvent cfg) → List (PacketBatch cfg.batchsize)
  | [] => []
  | .batch batch :: rest => batch :: batchesOf rest
  | .writev _ :: rest => batchesOf rest

def OfferedFrame (events : List (RecorderEvent cfg)) (f : List Byte) : Prop :=
  ∃ batch ∈ batchesOf cfg events, f ∈ batchFrames env cfg batch

def frameSize : Nat := VDIF.frameBytes cfg.basebandBits

theorem offered_frame_sized (events : List (RecorderEvent cfg)) (f : List Byte) (offered : OfferedFrame env cfg events f) :
    f.length = frameSize cfg := by
  obtain ⟨batch, _, member⟩ := offered
  obtain ⟨i, _, rfl⟩ := List.mem_map.mp member
  exact frame_record_length env cfg (batch.hdrs i) (batch.buffer i)

theorem batches_of_append (past more : List (RecorderEvent cfg)) : batchesOf cfg (past ++ more) = batchesOf cfg past ++ batchesOf cfg more := by
  induction past with
  | nil => rfl
  | cons event rest ih =>
      cases event with
      | batch batch => rw [List.cons_append, batchesOf, ih, batchesOf, List.cons_append]
      | writev outcome => rw [List.cons_append, batchesOf, ih, batchesOf]

theorem offered_frame_mono (past : List (RecorderEvent cfg)) (event : RecorderEvent cfg) (f : List Byte)
    (offered : OfferedFrame env cfg past f) : OfferedFrame env cfg (past ++ [event]) f := by
  obtain ⟨batch, member, inside⟩ := offered
  exact ⟨batch, by rw [batches_of_append]; exact List.mem_append_left _ member, inside⟩

-- The file open for writing ends between two frames.
def AtBoundary (r : Recorder) : Prop := ∀ part content, r.fd = some part → r.parts[part]? = some content → frameSize cfg ∣ content.length

-- A writev that takes the first bytes of a batch finds a whole number of
-- frames in the open file.
def StartsAtBoundary (process : RecorderProcess) : RecorderEvent cfg → Prop
  | .writev (.written count) => process.iov.flatten.length = batchRecordBytes cfg →
      0 < (writtenBytes env process.iov count).length → AtBoundary cfg process.recorder
  | _ => True

-- The bytes of the current batch that are already written stand behind whole
-- frames.
structure Pending (events : List (RecorderEvent cfg)) (process : RecorderProcess) (frames : List (List Byte))
    (taken : List Byte) : Prop where
  offered : ∀ f ∈ frames, OfferedFrame env cfg events f
  full : frames.flatten.length = batchRecordBytes cfg
  split : frames.flatten = taken ++ process.iov.flatten
  behind : taken = [] ∨ ∀ part content, process.recorder.fd = some part → process.recorder.parts[part]? = some content →
    ∃ whole, Whole (OfferedFrame env cfg events) whole ∧ content = whole ++ taken

structure AlignedInv (events : List (RecorderEvent cfg)) (process : RecorderProcess) : Prop where
  parts : ∀ content ∈ process.recorder.parts, Framed (OfferedFrame env cfg events) content
  pending : process.iov = [] ∨ ∃ frames taken, Pending env cfg events process frames taken

theorem mem_modify (parts : List (List Byte)) (part : Nat) (change : List Byte → List Byte) (content : List Byte)
    (member : content ∈ parts.modify part change) : content ∈ parts ∨ ∃ old, parts[part]? = some old ∧ content = change old := by
  obtain ⟨k, found⟩ := List.mem_iff_getElem?.mp member
  rw [List.getElem?_modify] at found
  cases old : parts[k]? with
  | none =>
      rw [old] at found
      cases found
  | some value =>
      rw [old] at found
      by_cases same : part = k
      · simp only [if_pos same] at found
        exact Or.inr ⟨value, same ▸ old, (Option.some.inj found).symm⟩
      · simp only [if_neg same] at found
        exact Or.inl (Option.some.inj found ▸ List.mem_of_getElem? old)

theorem mem_open_trunc (parts : List (List Byte)) (index : Nat) (content : List Byte) (member : content ∈ openTrunc parts index) :
    content ∈ parts ∨ content = [] := by
  rw [openTrunc] at member
  by_cases inside : index < parts.length
  · rw [if_pos inside] at member
    exact List.mem_or_eq_of_mem_set member
  · rw [if_neg inside, List.mem_append, List.mem_singleton] at member
    exact member

theorem mem_rotated (r : Recorder) (content : List Byte) (member : content ∈ (rotated env cfg r).parts) :
    content ∈ r.parts ∨ content = [] := by
  rw [rotated] at member
  by_cases due : RotationDue cfg r
  · rw [if_pos due, createFile] at member
    cases answer : env.createFile r.opens with
    | error message =>
        rw [answer] at member
        exact Or.inl member
    | ok =>
        rw [answer] at member
        exact mem_open_trunc r.parts r.fileIndex content member
  · rw [if_neg due] at member
    exact Or.inl member

theorem batch_pending (events : List (RecorderEvent cfg)) (r : Recorder) (batch : PacketBatch cfg.batchsize) :
    Pending env cfg (events ++ [.batch batch]) ⟨r, batchIov env cfg batch⟩ (batchFrames env cfg batch) [] where
  offered := by
    intro f member
    exact ⟨batch, by rw [batches_of_append]; exact List.mem_append_right _ List.mem_cons_self, member⟩
  full := by rw [batch_frames_flatten, batch_record_length]
  split := batch_frames_flatten env cfg batch
  behind := Or.inl rfl

theorem pending_behind (events : List (RecorderEvent cfg)) (process : RecorderProcess) (frames : List (List Byte))
    (taken : List Byte) (count part : Nat) (content : List Byte) (inv : AlignedInv env cfg events process)
    (pending : Pending env cfg events process frames taken)
    (starts : StartsAtBoundary env cfg process (.writev (.written count)))
    (some_ : 0 < (writtenBytes env process.iov count).length) (descriptor : process.recorder.fd = some part)
    (found : process.recorder.parts[part]? = some content) :
    ∃ whole, Whole (OfferedFrame env cfg events) whole ∧ content = whole ++ taken := by
  rcases pending.behind with rfl | behind
  · have first : process.iov.flatten.length = batchRecordBytes cfg := by
      rw [← pending.full, pending.split, List.nil_append]
    have boundary := starts first some_ part content descriptor found
    have framed := inv.parts content (List.mem_of_getElem? found)
    exact ⟨content, framed_boundary _ (frameSize cfg) (offered_frame_sized env cfg events) content framed boundary,
      (List.append_nil content).symm⟩
  · exact behind part content descriptor found

theorem aligned_more (events : List (RecorderEvent cfg)) (event : RecorderEvent cfg) (r : Recorder)
    (parts : ∀ content ∈ r.parts, Framed (OfferedFrame env cfg events) content) :
    ∀ content ∈ r.parts, Framed (OfferedFrame env cfg (events ++ [event])) content := by
  intro content member
  exact framed_mono _ _ (offered_frame_mono env cfg events event) content (parts content member)

theorem pending_more (events : List (RecorderEvent cfg)) (event : RecorderEvent cfg) (process : RecorderProcess)
    (frames : List (List Byte)) (taken : List Byte) (pending : Pending env cfg events process frames taken) :
    Pending env cfg (events ++ [event]) process frames taken := by
  have grows := offered_frame_mono env cfg events event
  refine ⟨fun f member => grows f (pending.offered f member), pending.full, pending.split, ?_⟩
  rcases pending.behind with none | behind
  · exact Or.inl none
  · refine Or.inr fun part content descriptor found => ?_
    obtain ⟨whole, complete, same⟩ := behind part content descriptor found
    exact ⟨whole, whole_mono _ _ grows whole complete, same⟩

theorem written_aligned (events : List (RecorderEvent cfg)) (process : RecorderProcess) (frames : List (List Byte))
    (taken : List Byte) (count part : Nat) (inv : AlignedInv env cfg events process)
    (pending : Pending env cfg events process frames taken)
    (starts : StartsAtBoundary env cfg process (.writev (.written count)))
    (some_ : 0 < (writtenBytes env process.iov count).length) (descriptor : process.recorder.fd = some part) :
    AlignedInv env cfg events ⟨process.recorder.append part (writtenBytes env process.iov count),
      consumeIov (writtenBytes env process.iov count).length process.iov⟩ := by
  have cut := List.prefix_iff_eq_append.mp (written_begins env process.iov count)
  have split : frames.flatten =
      (taken ++ writtenBytes env process.iov count) ++ process.iov.flatten.drop (writtenBytes env process.iov count).length := by
    rw [pending.split, List.append_assoc, cut]
  constructor
  · intro content member
    rcases mem_modify _ _ _ content member with old | ⟨old, found, rfl⟩
    · exact inv.parts content old
    · obtain ⟨whole, complete, rfl⟩ := pending_behind env cfg events process frames taken count part old inv pending starts some_
        descriptor found
      rw [List.append_assoc]
      exact framed_begins _ frames pending.offered whole _ complete ⟨_, split.symm⟩
  · refine Or.inr ⟨frames, taken ++ writtenBytes env process.iov count, pending.offered, pending.full, ?_, Or.inr ?_⟩
    · rw [consume_flatten]
      exact split
    · intro other content same found
      obtain rfl : part = other := Option.some.inj (descriptor.symm.trans same)
      rw [Recorder.append, List.getElem?_modify] at found
      cases old : process.recorder.parts[part]? with
      | none =>
          rw [old] at found
          cases found
      | some value =>
          rw [old] at found
          obtain ⟨whole, complete, rfl⟩ := pending_behind env cfg events process frames taken count part value inv pending starts
            some_ descriptor old
          simp only [if_pos] at found
          exact ⟨whole, complete, by rw [← List.append_assoc]; exact (Option.some.inj found).symm⟩

theorem aligned_step (events : List (RecorderEvent cfg)) (process next : RecorderProcess) (event : RecorderEvent cfg)
    (inv : AlignedInv env cfg events process) (starts : StartsAtBoundary env cfg process event)
    (taken : process.step env cfg event = .ok next) : AlignedInv env cfg (events ++ [event]) next := by
  have kept := aligned_more env cfg events event process.recorder inv.parts
  cases event with
  | batch batch =>
      rw [RecorderProcess.step] at taken
      by_cases idle : process.iov.isEmpty
      · rw [if_pos idle] at taken
        cases taken
        refine ⟨fun content member => ?_, Or.inr ⟨_, [], batch_pending env cfg events _ batch⟩⟩
        rcases mem_rotated env cfg process.recorder content member with old | rfl
        · exact kept content old
        · exact framed_whole _ [] (whole_nil _)
      · rw [if_neg idle] at taken
        cases taken
  | writev outcome =>
      rw [RecorderProcess.step] at taken
      by_cases idle : process.iov.isEmpty
      · rw [if_pos idle] at taken
        cases taken
      · rw [if_neg idle] at taken
        cases taken
        rcases inv.pending with none | ⟨frames, written, pending⟩
        · exact absurd (List.isEmpty_iff.mpr none) idle
        · have later := pending_more env cfg events (.writev outcome) process frames written pending
          cases outcome with
          | interrupted => exact ⟨kept, Or.inr ⟨frames, written, later⟩⟩
          | failed => exact ⟨kept, Or.inl rfl⟩
          | written count =>
              rw [writevStep]
              cases descriptor : process.recorder.fd with
              | none => exact ⟨kept, Or.inl rfl⟩
              | some part =>
                  by_cases stuck : (writtenBytes env process.iov count).length = 0
                  · simp only [if_pos stuck]
                    exact ⟨kept, Or.inl rfl⟩
                  · simp only [if_neg stuck]
                    exact written_aligned env cfg _ process frames written count part ⟨kept, Or.inr ⟨frames, written, later⟩⟩ later
                      starts (Nat.pos_of_ne_zero stuck) descriptor

def StartsThroughout : RecorderProcess → List (RecorderEvent cfg) → Prop
  | _, [] => True
  | process, event :: rest => StartsAtBoundary env cfg process event ∧
      ∀ next, process.step env cfg event = .ok next → StartsThroughout next rest

theorem aligned_run (past events : List (RecorderEvent cfg)) (process last : RecorderProcess)
    (inv : AlignedInv env cfg past process) (starts : StartsThroughout env cfg process events)
    (run : events.foldlM (RecorderProcess.step env cfg) process = .ok last) : AlignedInv env cfg (past ++ events) last := by
  induction events generalizing past process with
  | nil =>
      cases run
      rwa [List.append_nil]
  | cons event rest ih =>
      obtain ⟨next, taken, later⟩ := Run.bind_ok _ _ _ run
      have further := ih (past ++ [event]) next (aligned_step env cfg past process next event inv starts.1 taken)
        (starts.2 next taken) later
      rwa [List.append_assoc, List.singleton_append] at further

theorem baseband_parts (subbandId : Nat) (first : Recorder) (opened : baseband env subbandId = .ok first) : first.parts = [[]] := by
  rw [baseband, createFile] at opened
  cases answer : env.createFile Recorder.initial.opens with
  | error message =>
      rw [answer] at opened
      cases opened
  | ok =>
      rw [answer] at opened
      cases opened
      rfl

-- As long as no batch is started behind an incomplete frame, every file is
-- whole frames with at most one incomplete frame at its end, after every
-- writev.
theorem frame_alignment (first : Recorder) (opened : baseband env (cfg.ringId / 2) = .ok first)
    (events : List (RecorderEvent cfg)) (process : RecorderProcess)
    (run : events.foldlM (RecorderProcess.step env cfg) ⟨first, []⟩ = .ok process)
    (starts : StartsThroughout env cfg ⟨first, []⟩ events) :
    ∀ content ∈ process.recorder.parts, Framed (OfferedFrame env cfg events) content := by
  have initial : AlignedInv env cfg [] ⟨first, []⟩ := by
    refine ⟨fun content member => ?_, Or.inl rfl⟩
    rw [baseband_parts env _ first opened, List.mem_singleton] at member
    rw [member]
    exact framed_whole _ [] (whole_nil _)
  exact (aligned_run env cfg [] events ⟨first, []⟩ process initial starts run).parts

end

def markedBatch (mark : Byte) : PacketBatch sampleStream.batchsize :=
  { allocatePacketBatch 16 with hdrs := fun _ => ⟨Vector.replicate 32 mark⟩ }

def openedRecorder : RecorderProcess := ⟨(createFile fullDisk Recorder.initial).1, []⟩

def partsAfter (events : List (RecorderEvent sampleStream)) : Except Unit (List (List Byte)) :=
  (events.foldlM (RecorderProcess.step fullDisk sampleStream) openedRecorder).map fun process => process.recorder.parts

-- A batch cut short by a full disk, and never continued.
def tornEvents : List (RecorderEvent sampleStream) :=
  [.batch (markedBatch 1), .writev .interrupted, .writev (.written 1), .writev .failed]

theorem torn_starts : StartsThroughout fullDisk sampleStream openedRecorder tornEvents := by
  refine ⟨trivial, ?_⟩
  rintro _ ⟨⟩
  refine ⟨trivial, ?_⟩
  rintro _ ⟨⟩
  refine ⟨?_, fun _ _ => ⟨trivial, fun _ _ => trivial⟩⟩
  intro _ _ part content descriptor found
  cases descriptor
  cases found
  exact Nat.dvd_zero _

theorem frame_alignment_torn : ∃ process, tornEvents.foldlM (RecorderProcess.step fullDisk sampleStream) openedRecorder = .ok process ∧
    ∀ content ∈ process.recorder.parts, Framed (OfferedFrame fullDisk sampleStream tornEvents) content := by
  have finished : ∃ process, tornEvents.foldlM (RecorderProcess.step fullDisk sampleStream) openedRecorder = .ok process := ⟨_, rfl⟩
  obtain ⟨process, run⟩ := finished
  exact ⟨process, run, frame_alignment fullDisk sampleStream _ rfl tornEvents process run torn_starts⟩

def clearedEvents : List (RecorderEvent sampleStream) := tornEvents ++ [.batch (markedBatch 2), .writev (.written 2)]

theorem cleared_parts : partsAfter clearedEvents = .ok [[1, 2, 2]] := by decide +kernel

theorem marked_frame_start (mark : Byte) (f : List Byte) (member : f ∈ batchFrames fullDisk sampleStream (markedBatch mark)) :
    f.take 3 = [mark, mark, mark] := by
  obtain ⟨i, _, rfl⟩ := List.mem_map.mp member
  rfl

theorem cleared_not_framed : ¬ Framed (OfferedFrame fullDisk sampleStream clearedEvents) [1, 2, 2] := by
  rintro ⟨whole, tail, split, complete, last⟩
  have sizes : 3 = whole.length + tail.length := (congrArg List.length split).trans List.length_append
  have multiple := whole_length _ (frameSize sampleStream) (offered_frame_sized fullDisk sampleStream clearedEvents) whole complete
  have none : whole = [] :=
    List.eq_nil_of_length_eq_zero (Nat.eq_zero_of_dvd_of_lt multiple (Nat.lt_of_le_of_lt (by omega : whole.length ≤ 3) (by decide)))
  rw [none, List.nil_append] at split
  rcases last with rfl | ⟨f, ⟨batch, member, inside⟩, begins, _⟩
  · cases split
  · have start : f.take 3 = [1, 2, 2] := by
      obtain ⟨rest, rfl⟩ := begins
      rw [← split]
      rfl
    have marks : batch = markedBatch 1 ∨ batch = markedBatch 2 := by simpa [clearedEvents, tornEvents, batchesOf] using member
    rcases marks with rfl | rfl
    · rw [marked_frame_start 1 f inside] at start
      cases start
    · rw [marked_frame_start 2 f inside] at start
      cases start

theorem frame_alignment_fails : ¬ ∀ (env : RecorderEnv) (cfg : StreamConfig) (first : Recorder),
    baseband env (cfg.ringId / 2) = .ok first → ∀ (events : List (RecorderEvent cfg)) (process : RecorderProcess),
      events.foldlM (RecorderProcess.step env cfg) ⟨first, []⟩ = .ok process →
        ∀ content ∈ process.recorder.parts, Framed (OfferedFrame env cfg events) content := by
  intro always
  have outcome := cleared_parts
  rw [partsAfter] at outcome
  cases run : clearedEvents.foldlM (RecorderProcess.step fullDisk sampleStream) openedRecorder with
  | error stopped =>
      rw [run] at outcome
      cases outcome
  | ok process =>
      rw [run] at outcome
      have parts : process.recorder.parts = [[1, 2, 2]] := Except.ok.inj outcome
      have framed := always fullDisk sampleStream _ rfl clearedEvents process run [1, 2, 2] (by rw [parts]; exact List.mem_cons_self)
      exact cleared_not_framed framed

end SpectralLine
