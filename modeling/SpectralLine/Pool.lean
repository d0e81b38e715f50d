import SpectralLine.Recv
import SpectralLine.Lib.Handoff

set_option autoImplicit false

namespace SpectralLine

def sizeofPacket : Nat := 8192

-- What init and calc_pool_size read of the configuration.
structure PoolSettings where
  memoryPoolPerStream : Nat
  batchsize : Nat
  batchsizePos : 0 < batchsize
  maxStreams : Nat
  subbandEnable : Nat → Bool

namespace PoolSettings

def calcPoolSize (s : PoolSettings) : Nat :=
  let maxPoolMemory := s.memoryPoolPerStream * (1024 * 1024 * 1024) % 2 ^ 64
  let batchBytes := sizeofPacket * s.batchsize % 2 ^ 64
  max (maxPoolMemory / batchBytes) 3

def queueCapacity (s : PoolSettings) : Nat := s.calcPoolSize - 2

def poolCapacity (s : PoolSettings) : Nat := s.queueCapacity + 2

theorem pool_capacity_pos (s : PoolSettings) : 0 < s.poolCapacity := Nat.succ_pos _

end PoolSettings

structure StreamContext where
  enable : Bool
  subbandId : Nat
  poolIndex : Option Nat
deriving DecidableEq

-- The stream loop of init with its enabled_streams counter.
def mapStream (subbandEnable : Nat → Bool) (mapped : List StreamContext × Nat) (s : Nat) : List StreamContext × Nat :=
  if subbandEnable (s / 2) then (mapped.1 ++ [⟨true, s / 2, some mapped.2⟩], mapped.2 + 1)
  else (mapped.1 ++ [⟨false, s / 2, none⟩], mapped.2)

def mapStreams (subbandEnable : Nat → Bool) : Nat → List StreamContext × Nat
  | 0 => ([], 0)
  | s + 1 => mapStream subbandEnable (mapStreams subbandEnable s) s

def PoolSettings.streams (s : PoolSettings) : List StreamContext := (mapStreams s.subbandEnable s.maxStreams).1
def PoolSettings.enabledStreams (s : PoolSettings) : Nat := (mapStreams s.subbandEnable s.maxStreams).2

def PoolSettings.totalPackets (s : PoolSettings) : Nat :=
  s.enabledStreams * s.poolCapacity * s.batchsize % 2 ^ 64

-- The first packet of entry b of a stream's pool.
def PoolSettings.offset (s : PoolSettings) (poolIndex b : Nat) : Nat :=
  (poolIndex * s.poolCapacity + b) * s.batchsize % 2 ^ 64

theorem map_streams_length (subbandEnable : Nat → Bool) (count : Nat) :
    (mapStreams subbandEnable count).1.length = count := by
  induction count with
  | zero => rfl
  | succ count ih =>
      rw [mapStreams, mapStream]
      split <;> simp [ih]

theorem map_streams_begins (subbandEnable : Nat → Bool) (count s : Nat) (below : s < count) :
    (mapStreams subbandEnable (count + 1)).1[s]? = (mapStreams subbandEnable count).1[s]? := by
  have inside : s < (mapStreams subbandEnable count).1.length := by rwa [map_streams_length]
  rw [mapStreams, mapStream]
  by_cases enabled : subbandEnable (count / 2) = true
  · rw [if_pos enabled, List.getElem?_append_left inside]
  · rw [if_neg enabled, List.getElem?_append_left inside]

theorem map_streams_last (subbandEnable : Nat → Bool) (count index : Nat) (context : StreamContext)
    (last : (mapStreams subbandEnable (count + 1)).1[count]? = some context) (mapped : context.poolIndex = some index) :
    index = (mapStreams subbandEnable count).2 ∧
    (mapStreams subbandEnable (count + 1)).2 = (mapStreams subbandEnable count).2 + 1 := by
  have size := map_streams_length subbandEnable count
  rw [mapStreams, mapStream] at last ⊢
  by_cases enabled : subbandEnable (count / 2) = true
  · rw [if_pos enabled] at last ⊢
    rw [List.getElem?_append_right (by omega), size] at last
    simp only [Nat.sub_self, List.getElem?_cons_zero, Option.some.injEq] at last
    rw [← last] at mapped
    exact ⟨(Option.some.inj mapped).symm, rfl⟩
  · rw [if_neg enabled, List.getElem?_append_right (by omega), size] at last
    simp only [Nat.sub_self, List.getElem?_cons_zero, Option.some.injEq] at last
    rw [← last] at mapped
    cases mapped

theorem map_streams_grow (subbandEnable : Nat → Bool) (count : Nat) :
    (mapStreams subbandEnable count).2 ≤ (mapStreams subbandEnable (count + 1)).2 := by
  rw [mapStreams, mapStream]
  split <;> simp

-- Enabled streams are numbered in stream order, without gaps or repeats.
theorem map_streams_index (subbandEnable : Nat → Bool) (count s index : Nat) (context : StreamContext)
    (found : (mapStreams subbandEnable count).1[s]? = some context) (mapped : context.poolIndex = some index) :
    index < (mapStreams subbandEnable count).2 ∧
    ∀ other otherIndex otherContext, (mapStreams subbandEnable count).1[other]? = some otherContext →
      otherContext.poolIndex = some otherIndex → s < other → index < otherIndex := by
  induction count with
  | zero => simp [mapStreams] at found
  | succ count ih =>
      have grow := map_streams_grow subbandEnable count
      have size := map_streams_length subbandEnable (count + 1)
      have inside : s < count + 1 := by
        rw [← size]
        exact (List.getElem?_eq_some_iff.mp found).1
      by_cases last : s = count
      · subst last
        obtain ⟨same, next⟩ := map_streams_last subbandEnable s index context found mapped
        refine ⟨by omega, ?_⟩
        intro other otherIndex otherContext otherFound _ later
        have bound := (List.getElem?_eq_some_iff.mp otherFound).1
        omega
      · rw [map_streams_begins subbandEnable count s (by omega)] at found
        obtain ⟨below, ascend⟩ := ih found
        refine ⟨by omega, ?_⟩
        intro other otherIndex otherContext otherFound otherMapped later
        have bound := (List.getElem?_eq_some_iff.mp otherFound).1
        by_cases newest : other = count
        · subst newest
          obtain ⟨same, _⟩ := map_streams_last subbandEnable other otherIndex otherContext otherFound otherMapped
          omega
        · rw [map_streams_begins subbandEnable count other (by omega)] at otherFound
          exact ascend other otherIndex otherContext otherFound otherMapped later

-- Equal-sized blocks at different positions of one array do not overlap.
theorem blocks_apart (size a b : Nat) (before : a < b) : a * size + size ≤ b * size := by
  rw [← Nat.succ_mul]
  exact Nat.mul_le_mul_right size before

theorem position_below (capacity i b count : Nat) (index : i < count) (inside : b < capacity) :
    i * capacity + b < count * capacity := by
  have room := blocks_apart capacity i count index
  omega

-- The pool entries init creates: an enabled stream and an entry number.
structure PoolEntry (s : PoolSettings) where
  stream : Nat
  entry : Nat
  poolIndex : Nat
  mapped : ∃ context, s.streams[stream]? = some context ∧ context.poolIndex = some poolIndex
  inside : entry < s.poolCapacity

namespace PoolEntry

variable {s : PoolSettings}

def position (e : PoolEntry s) : Nat := e.poolIndex * s.poolCapacity + e.entry

def first (e : PoolEntry s) : Nat := s.offset e.poolIndex e.entry

theorem position_inside (e : PoolEntry s) : e.position < s.enabledStreams * s.poolCapacity := by
  obtain ⟨context, found, mapped⟩ := e.mapped
  have index := (map_streams_index s.subbandEnable s.maxStreams e.stream e.poolIndex context found mapped).1
  exact position_below s.poolCapacity e.poolIndex e.entry s.enabledStreams index e.inside

theorem position_ascends (a b : PoolEntry s) (before : a.stream < b.stream) : a.position < b.position := by
  obtain ⟨contextA, foundA, mappedA⟩ := a.mapped
  obtain ⟨contextB, foundB, mappedB⟩ := b.mapped
  have index := (map_streams_index s.subbandEnable s.maxStreams a.stream a.poolIndex contextA foundA mappedA).2 b.stream
    b.poolIndex contextB foundB mappedB before
  have below := position_below s.poolCapacity a.poolIndex a.entry b.poolIndex index a.inside
  exact Nat.lt_of_lt_of_le below (Nat.le_add_right _ _)

theorem position_distinct (a b : PoolEntry s) (different : (a.stream, a.entry) ≠ (b.stream, b.entry)) :
    a.position ≠ b.position := by
  rcases Nat.lt_trichotomy a.stream b.stream with before | same | after
  · exact Nat.ne_of_lt (position_ascends a b before)
  · obtain ⟨contextA, foundA, mappedA⟩ := a.mapped
    obtain ⟨contextB, foundB, mappedB⟩ := b.mapped
    rw [same, foundB] at foundA
    rw [← Option.some.inj foundA, mappedB] at mappedA
    have pools : b.poolIndex = a.poolIndex := Option.some.inj mappedA
    intro equal
    rw [position, position, pools] at equal
    exact different (Prod.ext same (Nat.add_left_cancel equal))
  · exact Nat.ne_of_gt (position_ascends b a after)

-- While the packet count fits 64 bits no offset wraps.
theorem first_exact (e : PoolEntry s) (fits : s.enabledStreams * s.poolCapacity * s.batchsize < 2 ^ 64) :
    e.first = e.position * s.batchsize ∧ e.first + s.batchsize ≤ s.totalPackets := by
  have room := blocks_apart s.batchsize e.position (s.enabledStreams * s.poolCapacity) e.position_inside
  have exact : e.first = e.position * s.batchsize := Nat.mod_eq_of_lt (by
    change e.position * s.batchsize < _
    omega)
  rw [exact, PoolSettings.totalPackets, Nat.mod_eq_of_lt fits]
  exact ⟨rfl, room⟩

end PoolEntry

-- A stream's pool as init leaves it: the producer at entry 0, nothing queued.
def PoolSettings.initialPool (s : PoolSettings) : Handoff.State s.poolCapacity (PacketBatch s.batchsize) :=
  Handoff.initial (fun _ => allocatePacketBatch s.batchsize) (Handoff.entry s.pool_capacity_pos 0)

-- The state of the receiver as the producer side of the handoff.
def poolView (cfg : StreamConfig) (st : RecvState cfg) (queue : List (Fin cfg.poolSize)) (held : Option (Fin cfg.poolSize))
    (taken : List (PacketBatch cfg.batchsize)) : Handoff.State cfg.poolSize (PacketBatch cfg.batchsize) :=
  ⟨st.pool, st.poolIdx, false, queue, held, st.queued, taken⟩

-- One turn of the catch-up loop fills, enqueues, advances and fills again.
theorem rotate_handoff (cfg : StreamConfig) (capacity : Nat) (st : RecvState cfg) (queue : List (Fin cfg.poolSize))
    (held : Option (Fin cfg.poolSize)) (taken : List (PacketBatch cfg.batchsize)) (room : queue.length < capacity) :
    [Handoff.Action.fill (finalizeBatch cfg (st.pool st.poolIdx)), .enqueue, .advance,
      .fill ((rotate cfg st).pool (rotate cfg st).poolIdx)].foldlM (Handoff.step capacity)
        (poolView cfg st queue held taken) =
      some (poolView cfg (rotate cfg st) (queue ++ [st.poolIdx]) held taken) := by
  have next : Handoff.next st.poolIdx = (rotate cfg st).poolIdx := rfl
  simp [Handoff.step, poolView, room, next, rotate]

-- Storing a packet and the consumer's use of its batch are single actions.
theorem store_handoff (cfg : StreamConfig) (capacity : Nat) (st after : RecvState cfg) (f : Frame)
    (metadata : VDIF.Metadata) (queue : List (Fin cfg.poolSize)) (held : Option (Fin cfg.poolSize))
    (taken : List (PacketBatch cfg.batchsize)) (stored : storePacket cfg st f metadata = .ok after) :
    Handoff.step capacity (poolView cfg st queue held taken) (.fill (after.pool after.poolIdx)) =
      some (poolView cfg after queue held taken) := by
  obtain ⟨header, _, done⟩ := Run.bind_ok _ _ _ stored
  have result := Except.ok.inj done
  rw [← result]
  by_cases first : (st.pool st.poolIdx).receivedCount = 0
  · simp [Handoff.step, poolView, first]
  · simp [Handoff.step, poolView, first]

theorem packet_pool_ownership (s : PoolSettings)
    (fits : s.enabledStreams * s.poolCapacity * s.batchsize < 2 ^ 64) :
    (∀ st, Handoff.Reachable s.queueCapacity s.initialPool st →
      (st.handed = false → st.index ∉ st.queue ∧ st.held ≠ some st.index) ∧
      st.sent = st.taken ++ st.queue.map st.pool) ∧
    (∀ e : PoolEntry s, e.first + s.batchsize ≤ s.totalPackets) ∧
    (∀ a b : PoolEntry s, (a.stream, a.entry) ≠ (b.stream, b.entry) →
      a.first + s.batchsize ≤ b.first ∨ b.first + s.batchsize ≤ a.first) := by
  refine ⟨?_, fun e => (e.first_exact fits).2, ?_⟩
  · intro st reached
    obtain ⟨produced, consumed, window⟩ :=
      Handoff.reachable_window s.queueCapacity s.pool_capacity_pos (Nat.le_refl _) _ st reached
    exact ⟨Handoff.filling_unshared s.queueCapacity s.pool_capacity_pos (Nat.le_refl _) st produced consumed window,
      window.contents⟩
  · intro a b different
    rw [(a.first_exact fits).1, (b.first_exact fits).1]
    rcases Nat.lt_or_gt_of_ne (PoolEntry.position_distinct a b different) with before | after
    · exact Or.inl (blocks_apart s.batchsize a.position b.position before)
    · exact Or.inr (blocks_apart s.batchsize b.position a.position after)

-- 64 GiB for each of 16 streams, batches of 16 packets.
def samplePool : PoolSettings where
  memoryPoolPerStream := 64
  batchsize := 16
  batchsizePos := by decide
  maxStreams := 16
  subbandEnable := fun _ => true

theorem sample_pool_fits : samplePool.enabledStreams * samplePool.poolCapacity * samplePool.batchsize < 2 ^ 64 := by decide

theorem packet_pool_ownership_sample :
    (samplePool.initialPool.index ∉ samplePool.initialPool.queue ∧
      samplePool.initialPool.held ≠ some samplePool.initialPool.index) ∧
    ∀ e : PoolEntry samplePool, e.first + 16 ≤ samplePool.totalPackets := by
  obtain ⟨owned, inside, _⟩ := packet_pool_ownership samplePool sample_pool_fits
  exact ⟨(owned samplePool.initialPool Handoff.Reachable.start).1 rfl, inside⟩

end SpectralLine
