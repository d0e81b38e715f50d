import SpectralLine.ConfigLayout
import SpectralLine.Pool
import SpectralLine.Lib.Rendezvous

set_option autoImplicit false

namespace SpectralLine

open Rendezvous

def maxStreams : Nat := 16

-- The threads init starts: baseband_thread of a stream, subband_thread of a subband.
inductive StartedThread where
  | baseband (streamid : Nat)
  | subband (subbandId : Nat)
deriving DecidableEq

-- The streams whose queue a thread reads.
def StartedThread.reads : StartedThread → Nat → Bool
  | .baseband streamid, s => s == streamid
  | .subband subbandId, s => s / 2 == subbandId

section

variable {F : Type} (cfg : GlobalConfig F)

def subbandEnable (i : Nat) : Bool := (cfg.subbands[i]?).any SubbandConfig.enable

def enabledSubbands : Nat := (List.range cfg.subbands.length).countP (subbandEnable cfg)

def totalThreads : Nat := if cfg.observationMode = .baseband then enabledSubbands cfg * 2 else enabledSubbands cfg

def startedThreads : List StartedThread :=
  if cfg.observationMode = .baseband then
    ((List.range maxStreams).filter fun i => subbandEnable cfg (i / 2)).map .baseband
  else ((List.range cfg.subbands.length).filter (subbandEnable cfg)).map .subband

end

theorem count_pairs (enable : Nat → Bool) (count : Nat) :
    (List.range (2 * count)).countP (fun i => enable (i / 2)) = (List.range count).countP enable * 2 := by
  induction count with
  | zero => rfl
  | succ count ih =>
      have even : 2 * count / 2 = count := by omega
      have odd : (2 * count + 1) / 2 = count := by omega
      rw [Nat.mul_succ, List.range_succ, List.range_succ, List.range_succ, List.countP_append, List.countP_append, List.countP_append, ih,
        List.countP_singleton, List.countP_singleton, List.countP_singleton, even, odd]
      split <;> omega

theorem map_streams_enable (enable : Nat → Bool) (count s : Nat) (below : s < count) :
    ∃ context, (mapStreams enable count).1[s]? = some context ∧ context.enable = enable (s / 2) ∧ context.subbandId = s / 2 ∧
      context.poolIndex.isSome = enable (s / 2) := by
  induction count with
  | zero => exact absurd below (Nat.not_lt_zero s)
  | succ count ih =>
      by_cases last : s = count
      · subst last
        have size := map_streams_length enable s
        rw [mapStreams, mapStream]
        by_cases enabled : enable (s / 2) = true
        · rw [if_pos enabled, enabled]
          exact ⟨_, by rw [List.getElem?_append_right (by omega), size, Nat.sub_self, List.getElem?_cons_zero], rfl, rfl, rfl⟩
        · rw [if_neg enabled, Bool.eq_false_of_not_eq_true enabled]
          exact ⟨_, by rw [List.getElem?_append_right (by omega), size, Nat.sub_self, List.getElem?_cons_zero], rfl, rfl, rfl⟩
      · have earlier : s < count := by omega
        rw [map_streams_begins enable count s earlier]
        exact ih earlier

section

variable {F : Type} (cfg : GlobalConfig F)

-- init counts its threads before it starts them, by other loops.
theorem started_total (entries : cfg.subbands.length = 8) : (startedThreads cfg).length = totalThreads cfg := by
  have pairs := count_pairs (subbandEnable cfg) 8
  rw [startedThreads, totalThreads, enabledSubbands, entries]
  by_cases baseband : cfg.observationMode = .baseband
  · rw [if_pos baseband, if_pos baseband, List.length_map, ← List.countP_eq_length_filter]
    exact pairs
  · rw [if_neg baseband, if_neg baseband, List.length_map, ← List.countP_eq_length_filter]

theorem started_nodup : (startedThreads cfg).Nodup := by
  rw [startedThreads]
  split
  · exact (List.nodup_range.filter _).map fun a b same => StartedThread.baseband.inj same
  · exact (List.nodup_range.filter _).map fun a b same => StartedThread.subband.inj same

theorem enabled_below (i : Nat) (enabled : subbandEnable cfg i = true) : i < cfg.subbands.length := by
  rw [subbandEnable] at enabled
  cases found : cfg.subbands[i]? with
  | none =>
      rw [found] at enabled
      cases enabled
  | some sb => exact (List.getElem?_eq_some_iff.mp found).1

-- The only reader of a stream.
def readerOf (s : Nat) : StartedThread := if cfg.observationMode = .baseband then .baseband s else .subband (s / 2)

theorem started_reader (thread : StartedThread) (s : Nat) (started : thread ∈ startedThreads cfg) :
    thread.reads s = true ↔ thread = readerOf cfg s := by
  rw [startedThreads] at started
  rw [readerOf]
  by_cases baseband : cfg.observationMode = .baseband
  · rw [if_pos baseband] at started ⊢
    obtain ⟨i, _, rfl⟩ := List.mem_map.mp started
    rw [StartedThread.reads, beq_iff_eq, StartedThread.baseband.injEq]
    exact eq_comm
  · rw [if_neg baseband] at started ⊢
    obtain ⟨i, _, rfl⟩ := List.mem_map.mp started
    rw [StartedThread.reads, beq_iff_eq, StartedThread.subband.injEq]
    exact eq_comm

theorem reader_started (entries : cfg.subbands.length = 8) (s : Nat) (below : s < maxStreams) :
    readerOf cfg s ∈ startedThreads cfg ↔ subbandEnable cfg (s / 2) = true := by
  have pair : s / 2 < 8 := by
    have bound : s < 16 := below
    omega
  rw [startedThreads, readerOf]
  by_cases baseband : cfg.observationMode = .baseband
  · rw [if_pos baseband, if_pos baseband]
    simp [below]
  · rw [if_neg baseband, if_neg baseband]
    simp [entries, pair]

-- main behind init: every stream that is enabled has one thread that reads it,
-- and that thread has announced itself.
def StreamsServed (st : State StartedThread) : Prop :=
  ∀ (s : Nat) (context : StreamContext), (mapStreams (subbandEnable cfg) maxStreams).1[s]? = some context → context.enable = true →
    ∃ thread ∈ startedThreads cfg, thread.reads s = true ∧ (st.phase thread = .notifying ∨ st.phase thread = .running) ∧
      ∀ other ∈ startedThreads cfg, other.reads s = true → other = thread

theorem passed_served (entries : cfg.subbands.length = 8) (st : State StartedThread)
    (meets : Meets (startedThreads cfg).length (startedThreads cfg) st) (passed : st.waiter = .passed) : StreamsServed cfg st := by
  intro s context found enabled
  have below : s < maxStreams := by
    rw [← map_streams_length (subbandEnable cfg) maxStreams]
    exact (List.getElem?_eq_some_iff.mp found).1
  obtain ⟨mapped, there, flag, _⟩ := map_streams_enable (subbandEnable cfg) maxStreams s below
  obtain rfl : mapped = context := Option.some.inj (there.symm.trans found)
  have started := (reader_started cfg entries s below).mpr (flag ▸ enabled)
  refine ⟨readerOf cfg s, started, (started_reader cfg _ s started).mpr rfl, passed_announced _ st meets passed _ started, ?_⟩
  exact fun other member reads => (started_reader cfg other s member).mp reads

end

-- However the threads are scheduled, main passes the wait only when every
-- thread is ready, nobody is stuck before, and the startup ends.
theorem startup_barrier {F : Type} (env : ConfigEnv F) (config : YamlNode) (cfg : GlobalConfig F) (accepted : Accepted env config cfg)
    (actions : List (Action StartedThread)) (st : State StartedThread)
    (reached : run (totalThreads cfg) (startedThreads cfg) actions = some st) :
    (st.waiter = .passed → (∀ thread ∈ startedThreads cfg, st.phase thread = .notifying ∨ st.phase thread = .running) ∧
      StreamsServed cfg st) ∧
    (waiterStep (totalThreads cfg) st = none → (∀ thread, workerStep thread st = none) →
      st.waiter = .passed ∧ ∀ thread ∈ startedThreads cfg, st.phase thread = .running) ∧
    actions.countP (fun a => !a.isSpurious) ≤ 7 * totalThreads cfg + 3 + 2 * actions.countP Action.isSpurious := by
  have entries := (accepted_layout env config cfg accepted).entries
  have total := started_total cfg entries
  have distinct := started_nodup cfg
  rw [← total] at reached ⊢
  have meets := run_meets _ _ distinct actions st reached
  have bound := run_left _ _ distinct actions st reached
  refine ⟨fun passed => ⟨passed_announced _ st meets passed, passed_served cfg entries st meets passed⟩, ?_, by omega⟩
  exact fun waiter workers => blocked_through _ st meets waiter workers

def recordingConfig : GlobalConfig ExactDouble :=
  (acceptedConfig (plainConfig [("observation_mode", .scalar "0"), ("Baseband_Folder0", .scalar "/a"),
    ("Baseband_Folder1", .scalar "/b"), ("Baseband_bits", .scalar "4")])).get (by decide +kernel)

-- main sleeps while the threads get ready one after the other.
def orderlyStartup : List (Action StartedThread) :=
  List.replicate 19 .waiter ++ (startedThreads recordingConfig).flatMap (fun thread => List.replicate 4 (.worker thread)) ++
    List.replicate 2 .waiter

theorem startup_barrier_recording : ∃ st, run (totalThreads recordingConfig) (startedThreads recordingConfig) orderlyStartup = some st ∧
    st.waiter = .passed ∧ StreamsServed recordingConfig st := by
  have finishes : (run (totalThreads recordingConfig) (startedThreads recordingConfig) orderlyStartup).map State.waiter = some .passed := by
    decide +kernel
  obtain ⟨st, reached, passed⟩ := Option.map_eq_some_iff.mp finishes
  have through := startup_barrier plainEnv _ recordingConfig (accepted_config _ _ (Option.some_get _).symm) orderlyStartup st reached
  exact ⟨st, reached, passed, (through.1 passed).2⟩

end SpectralLine
