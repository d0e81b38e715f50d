import SpectralLine.BasebandSpectrum
import Mathlib.Analysis.SpecialFunctions.Log.Base

set_option autoImplicit false

namespace SpectralLine

open Checked

-- Both instruction sets leave the same bytes.
theorem quantize_scalar (bits : Byte) (avx512 : Bool) (buf : List Byte) :
    quantize bits avx512 buf buf.length = quantize bits false buf buf.length := by
  cases avx512 with
  | false => rfl
  | true =>
      have eight : quantize8 true buf buf.length = quantize8 false buf buf.length :=
        quantize8_avx512_from buf.length 0 buf rfl (Nat.zero_le _)
      have four : quantize4 true buf buf.length = quantize4 false buf buf.length :=
        quantize4_avx512_from buf.length 0 0 buf rfl (Nat.le_refl _)
      rw [quantize, quantize, eight, four]

theorem quantised_decodes (env : RecorderEnv) (cfg : StreamConfig) (packet : Packet) :
    decodeComplexPayload (quantised env cfg packet) cfg.basebandBits.toNat = .ok (samplesOf cfg.basebandBits.toNat packet.payload) := by
  have size : framePayload = packet.payload.length := packet.size.symm
  have bits : BitVec.ofNat 8 cfg.basebandBits.toNat = cfg.basebandBits := by rw [BitVec.ofNat_toNat, BitVec.setWidth_eq]
  have width : cfg.basebandBits.toNat = 8 ∨ cfg.basebandBits.toNat = 4 ∨ cfg.basebandBits.toNat = 2 := by
    rcases cfg.basebandBitsAccepted with eight | four | two
    · exact Or.inl (congrArg BitVec.toNat eight)
    · exact Or.inr (Or.inl (congrArg BitVec.toNat four))
    · exact Or.inr (Or.inr (congrArg BitVec.toNat two))
  have decoded := decoded_payload packet.payload cfg.basebandBits.toNat (by rw [packet.size]; rfl) width
  rw [quantised, size, quantize_scalar]
  rw [bits] at decoded
  exact decoded

section

variable (cfg : StreamConfig)

-- Reading a lossless recording back, whatever the rotation made of it.
theorem recording_read (env : RecorderEnv) (works : env.Working) (events : List (RecvEvent cfg)) (st : RecvState cfg)
    (run : recv2mem cfg events = .ok st) (recording : BasebandRun cfg env (accepted cfg (arrivals cfg events)) st.queued)
    (lossless : Lossless cfg (accepted cfg (arrivals cfg events))) :
    ∃ r, record env cfg st.queued = .ok r ∧
      ReadableRun (writtenFormat cfg) (writtenFrames cfg env st.queued) ∧
      RoundTrip cfg env (accepted cfg (arrivals cfg events)) st.queued
        (afterRun (writtenFormat cfg) (writtenFrames cfg env st.queued), none) ∧
      ∀ paths : List (String × List Byte), paths.map Prod.snd = r.parts →
        iterVdifFrames roundTripOptions {} paths = (afterRun (writtenFormat cfg) (writtenFrames cfg env st.queued), none) := by
  obtain ⟨first, len, enqueued⟩ := enqueued_ids cfg events st run
  have complete := (lossless_iff cfg _ st.queued first len enqueued).mp lossless
  have bounded := queue_bounded cfg _ st.queued first len recording.fits enqueued
  obtain ⟨r, groups, completed, whole, parts⟩ := record_parts env cfg works st.queued bounded
  have readable := slots_readable cfg env _ st.queued recording first len enqueued (slots cfg st.queued)
    (List.prefix_refl _) complete
  refine ⟨r, completed, readable, lossless_round_trip cfg env _ st.queued recording first len enqueued complete, fun paths content => ?_⟩
  rw [parts] at content
  have frames : paths.map Prod.snd = (groups.map (writtenFrames cfg env)).map (List.flatMap WrittenFrame.bytes) := by
    rw [content, List.map_map]
    exact List.map_congr_left fun group _ => part_frames cfg env group
  have read := read_parts_run (writtenFormat cfg) [] _ paths frames
    (by rw [List.nil_append, written_flatten, whole]; exact readable)
  rwa [List.nil_append, written_flatten, whole] at read

end

theorem map_m_ok {A B : Type} (f : A → Except String B) (g : A → B) (xs : List A) (each : ∀ x ∈ xs, f x = .ok (g x)) :
    xs.mapM f = .ok (xs.map g) := by
  induction xs with
  | nil => rfl
  | cons x rest ih =>
      rw [List.mapM_cons, each x List.mem_cons_self, ih fun y member => each y (List.mem_cons_of_mem x member)]
      rfl

section

variable {𝕜 : Type} [Field 𝕜]

-- The samples of a packet at the recorded width, scaled to full scale.
def packetSamples (bits : Nat) (f : Frame) : List (𝕜 × 𝕜) := scaleSamples ((1 <<< (bits - 1) : Nat) : 𝕜) (samplesOf bits f.packet.payload)

theorem block_sums_count (ops : SpectrumOps 𝕜) (window : List 𝕜) (nfft : Nat) (samples : List (𝕜 × 𝕜)) :
    (blockSums ops window nfft samples).2 = samples.length / nfft := by
  have counted : ∀ (blocks : List (List (𝕜 × 𝕜))) (sums : List 𝕜 × Nat),
      (blocks.foldl (accumulateBlock ops window) sums).2 = sums.2 + blocks.length := by
    intro blocks
    induction blocks with
    | nil => exact fun sums => rfl
    | cons block rest ih =>
        intro sums
        rw [List.foldl_cons, ih, List.length_cons, accumulateBlock]
        omega
  rw [blockSums, counted, Rebuffer.blocks_length, Nat.zero_add]

-- The frames of a recording decode to the samples of its packets, in order.
theorem recording_decodes (cfg : StreamConfig) (env : RecorderEnv) (packets : List Frame)
    (queued : List (PacketBatch cfg.batchsize)) (readable : ReadableRun (writtenFormat cfg) (writtenFrames cfg env queued))
    (round : RoundTrip cfg env packets queued (afterRun (writtenFormat cfg) (writtenFrames cfg env queued), none)) :
    (afterRun (writtenFormat cfg) (writtenFrames cfg env queued)).yielded.mapM
        (fun frame => (decodeFrame frame.1 frame.2 : Except String (List (𝕜 × 𝕜)))) =
      .ok ((packets.filter (inEnqueued cfg queued)).map (packetSamples cfg.basebandBits.toNat)) := by
  have payloads : (afterRun (writtenFormat cfg) (writtenFrames cfg env queued)).yielded.map Prod.snd =
      (packets.filter (inEnqueued cfg queued)).map fun f => quantised env cfg f.packet := by
    have both := congrArg (List.map Prod.snd) round.yielded
    rwa [List.map_map, List.map_map] at both
  have decoded : ∀ f : Frame, decodeComplexPayload (quantised env cfg f.packet) cfg.basebandBits.toNat =
      .ok (samplesOf cfg.basebandBits.toNat f.packet.payload) := fun f => quantised_decodes env cfg f.packet
  rw [map_m_ok _ (fun frame => ((decodeComplexPayload frame.2 cfg.basebandBits.toNat).toOption.map
    (scaleSamples ((1 <<< (cfg.basebandBits.toNat - 1) : Nat) : 𝕜))).getD [])]
  · have joined := congrArg (List.map fun payload => ((decodeComplexPayload payload cfg.basebandBits.toNat).toOption.map
      (scaleSamples ((1 <<< (cfg.basebandBits.toNat - 1) : Nat) : 𝕜))).getD []) payloads
    rw [List.map_map, List.map_map] at joined
    refine congrArg Except.ok (joined.trans (List.map_congr_left fun f _ => ?_))
    rw [Function.comp_apply, decoded f]
    rfl
  · intro frame member
    obtain ⟨written, listed, rfl⟩ := List.mem_map.mp member
    have width : (readBack written.1).bitsPerSample = cfg.basebandBits.toNat :=
      congrArg Prod.fst (readable.each written listed).same
    have payload := List.mem_map_of_mem (f := Prod.snd) member
    rw [payloads] at payload
    obtain ⟨f, _, same⟩ := List.mem_map.mp payload
    change quantised env cfg f.packet = written.2 at same
    rw [decodeFrame, width, ← same, decoded f]
    rfl

variable [LinearOrder 𝕜]

-- The spectrum of a lossless recording is that of the packets' samples as one
-- stream: neither batches, nor frames, nor the files they were rotated into,
-- nor the instruction set of the quantiser show.
theorem recording_spectrum (cfg : StreamConfig) (env : RecorderEnv) (works : env.Working) (events : List (RecvEvent cfg))
    (st : RecvState cfg) (baseband : cfg.basebandMode = true) (run : recv2mem cfg events = .ok st)
    (clear : ∀ f ∈ accepted cfg (arrivals cfg events), f.vdif.getInvalid = false ∧ f.vdif.getLegacy = false)
    (fits : ∀ f ∈ accepted cfg (arrivals cfg events), f.packetId < 2 ^ 30 * VDIF.framesPerSecond)
    (lossless : Lossless cfg (accepted cfg (arrivals cfg events)))
    (ops : SpectrumOps 𝕜) (o : SpectrumOptions 𝕜) (window : List 𝕜) (rate : 0 < o.sampleRateHz) (block : ¬ checkFft o.nfft)
    (whole : o.maxFrames = none) (cadence : o.framesPerSecond = 62500)
    (shape : spectrumWindow ops o.windowName o.nfft.toNat = .ok window) :
    let packets := (accepted cfg (arrivals cfg events)).filter (inEnqueued cfg st.queued)
    let samples : List (𝕜 × 𝕜) := packets.flatMap (packetSamples cfg.basebandBits.toNat)
    o.nfft.toNat ≤ samples.length → ∃ r, record env cfg st.queued = .ok r ∧
      ∀ paths : List (String × List Byte), paths.map Prod.snd = r.parts → ∃ result, calculateSpectrum ops paths o = .ok result ∧
        result.averages = samples.length / o.nfft.toNat ∧
        result.psdDbfsHz = averagedPsd ops o window (blockSums ops window o.nfft.toNat samples) ∧
        result.bitsPerSample = cfg.basebandBits.toNat ∧ result.stats.framesUsed = packets.length ∧ result.stats.missingFrames = 0 := by
  intro packets samples enough
  have recording := baseband_run cfg env events st baseband run clear fits
  obtain ⟨r, completed, readable, round, reads⟩ := recording_read cfg env works events st run recording lossless
  refine ⟨r, completed, fun paths content => ?_⟩
  have read := reads paths content
  have decoded := @recording_decodes 𝕜 _ cfg env _ st.queued readable round
  have frames : (writtenFrames cfg env st.queued).length = packets.length := by
    have both := congrArg List.length round.yielded
    rwa [List.length_map, List.length_map, afterRun, List.length_map] at both
  have least : 2 ≤ o.nfft.toNat := by
    have small : ¬ o.nfft < 2 := fun small => block (Or.inl small)
    omega
  have counted : (blockSums ops window o.nfft.toNat samples).2 ≠ 0 := by
    rw [block_sums_count]
    exact (Nat.div_pos enough (by omega)).ne'
  obtain ⟨first, rest, list⟩ : ∃ first rest, writtenFrames cfg env st.queued = first :: rest := by
    cases list : writtenFrames cfg env st.queued with
    | cons first rest => exact ⟨first, rest, rfl⟩
    | nil =>
        rw [list] at frames
        have none_ : packets = [] := List.eq_nil_of_length_eq_zero frames.symm
        have empty : samples = [] := by
          change packets.flatMap _ = []
          rw [none_, List.flatMap_nil]
        rw [empty, List.length_nil] at enough
        omega
  have given : ¬ paths.length = 0 := by
    intro none_
    rw [List.eq_nil_of_length_eq_zero none_] at read
    have yielded := congrArg (fun result => result.1.yielded) read
    rw [list] at yielded
    exact absurd yielded (by simp [iterVdifFrames, afterRun])
  have unlimited : ¬ checkFrames o.maxFrames := by
    rw [whole]
    rintro ⟨limit, member, _⟩
    cases member
  have reading : o.reading true = roundTripOptions := by
    rw [SpectrumOptions.reading, whole, cadence]
    rfl
  have head : (afterRun (writtenFormat cfg) (writtenFrames cfg env st.queued)).yielded.head?.map Prod.fst = some (readBack first.1) := by
    rw [list]
    rfl
  have bits : (readBack first.1).bitsPerSample = cfg.basebandBits.toNat :=
    congrArg Prod.fst (readable.each first (by rw [list]; exact List.mem_cons_self)).same
  have flat : (packets.map (packetSamples cfg.basebandBits.toNat)).flatten = samples := List.flatMap_def.symm
  rw [calculateSpectrum, bind_clear _ _ _ given, bind_clear _ _ _ (not_le.mpr rate), bind_clear _ _ _ block,
    bind_clear _ _ _ unlimited, average_plain ops o true _ paths block, plainSpectrum, bind_value _ _ _ shape, reading]
  dsimp only
  rw [read, bind_value _ _ _ decoded]
  dsimp only
  rw [head, flat, finishSpectrum]
  rw [bind_clear _ _ _ counted]
  exact ⟨_, rfl, block_sums_count ops window _ samples, rfl, bits, frames, rfl⟩

end

-- One packet a batch.
def singleStream : StreamConfig := { sampleStream with batchsize := 1, batchsizePos := Nat.one_pos }

theorem single_ids (id : Nat) (below : id < 2) : (sampleFrame id).packetId = id :=
  sample_frame_id id (below.trans (by decide))

theorem single_accepted :
    accepted singleStream (arrivals singleStream (numberedEvents singleStream sampleFrame 2)) = [sampleFrame 0, sampleFrame 1] :=
  numbered_accepted singleStream sampleFrame 2 (fun _ _ => addressed_assemble singleStream _ _) single_ids

theorem single_enough (st : RecvState singleStream) (queue : st.queued.map PacketBatch.batchId = [0]) :
    2 ≤ (([sampleFrame 0, sampleFrame 1].filter (inEnqueued singleStream st.queued)).flatMap
      (packetSamples singleStream.basebandBits.toNat : Frame → List (ℝ × ℝ))).length := by
  have first : inEnqueued singleStream st.queued (sampleFrame 0) = true := by
    obtain ⟨batch, member, zero⟩ := List.mem_map.mp (show 0 ∈ st.queued.map PacketBatch.batchId by rw [queue]; exact List.mem_cons_self)
    refine List.any_eq_true.mpr ⟨batch, member, ?_⟩
    rw [zero, single_ids 0 (by decide)]
    rfl
  rw [List.filter_cons_of_pos first, List.flatMap_cons, List.length_append]
  have size : (packetSamples singleStream.basebandBits.toNat (sampleFrame 0) : List (ℝ × ℝ)).length = 4096 := by
    rw [packetSamples, scaleSamples, List.length_map, samples_indexed, List.length_map, List.length_range, Packet.size]
    rfl
  omega

-- Two packets, of which the first is enqueued; the transform of two points.
theorem recording_spectrum_sample :
    let ops : SpectrumOps ℝ :=
      { hanning := fun n => List.replicate n 0
        fft := fun block =>
          match block with
          | [a, b] => [(a.1 + b.1, a.2 + b.2), (a.1 - b.1, a.2 - b.2)]
          | other => other
        decibel := fun psd => 10 * Real.logb 10 (max psd (2 ^ (-1022 : Int))) }
    let o : SpectrumOptions ℝ :=
      { sampleRateHz := 256000000, nfft := 2, maxFrames := none, framesPerSecond := 62500, windowName := "rectangular" }
    ∃ st r, recv2mem singleStream (numberedEvents singleStream sampleFrame 2) = .ok st ∧
      record workingDisk singleStream st.queued = .ok r ∧
      ∀ paths : List (String × List Byte), paths.map Prod.snd = r.parts →
        ∃ result, calculateSpectrum ops paths o = .ok result ∧ result.bitsPerSample = 8 := by
  intro ops o
  obtain ⟨st, run, _, queue, _⟩ := numbered_queue singleStream rfl rfl sampleFrame 1
    (fun _ _ => addressed_assemble singleStream _ _) single_ids
  have packets := single_accepted
  have clear : ∀ f ∈ [sampleFrame 0, sampleFrame 1], f.vdif.getInvalid = false ∧ f.vdif.getLegacy = false := by
    intro f member
    rcases List.mem_pair.mp member with rfl | rfl
    · exact sample_frame_flags 0
    · exact sample_frame_flags 1
  have fits : ∀ f ∈ [sampleFrame 0, sampleFrame 1], f.packetId < 2 ^ 30 * VDIF.framesPerSecond := by
    intro f member
    rcases List.mem_pair.mp member with rfl | rfl
    · rw [single_ids 0 (by decide)]
      decide
    · rw [single_ids 1 (by decide)]
      decide
  have lossless : Lossless singleStream [sampleFrame 0, sampleFrame 1] := by
    intro f inF g inG id above below
    have last : g.packetId < 2 := by
      rcases List.mem_pair.mp inG with rfl | rfl
      · rw [single_ids 0 (by decide)]
        decide
      · rw [single_ids 1 (by decide)]
        decide
    change id < g.packetId / 1 * 1 at below
    refine ⟨sampleFrame 0, List.mem_cons_self, ?_⟩
    rw [single_ids 0 (by decide)]
    omega
  have block : ¬ checkFft o.nfft := by decide
  rw [← packets] at clear fits lossless
  have enough := single_enough st queue
  rw [← packets] at enough
  obtain ⟨r, completed, reads⟩ := recording_spectrum singleStream workingDisk working_disk_works _ st rfl run clear fits lossless
    ops o (List.replicate 2 1) (by norm_num [o]) block rfl rfl rfl enough
  refine ⟨st, r, run, completed, fun paths content => ?_⟩
  obtain ⟨result, done, _, _, bits, _⟩ := reads paths content
  exact ⟨result, done, bits⟩

end SpectralLine
