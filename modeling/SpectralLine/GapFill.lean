import SpectralLine.Batching

set_option autoImplicit false

namespace SpectralLine

-- The header of a packet stored in slot `i`: only the configureBaseband fields
-- change, and slot 0 also gets the canonical form of its own time.
theorem recorded_packet_id (cfg : StreamConfig) (f : Frame) (header : VDIF) (baseband : cfg.basebandMode = true)
    (fits : f.packetId < 2 ^ 30 * VDIF.framesPerSecond) (recorded : Recorded cfg f header) :
    header.packetId = f.packetId := by
  obtain ⟨stored, configured, same⟩ := recorded
  rw [StreamConfig.storedHeader, if_pos baseband] at configured
  rw [same]
  by_cases start : f.packetId % cfg.batchsize = 0
  · rw [if_pos start, VDIF.set_packet_id_round_trip stored f.packetId fits]
  · rw [if_neg start]
    exact VDIF.configure_baseband_packet_id f.vdif stored cfg.basebandBits cfg.threadId cfg.basebandBitsAccepted configured

theorem baseband_gap_filling (cfg : StreamConfig) (events : List (RecvEvent cfg)) (st : RecvState cfg)
    (baseband : cfg.basebandMode = true) (run : recv2mem cfg events = .ok st)
    (batch : PacketBatch cfg.batchsize) (enqueued : batch ∈ st.queued)
    (fits : (batch.batchId + 1) * cfg.batchsize ≤ 2 ^ 30 * VDIF.framesPerSecond) (i : Fin cfg.batchsize) :
    (batch.hdrs i).getSecondsFromEpoch.toNat * 62500 + (batch.hdrs i).getFrameNumber.toNat =
      batch.batchId * cfg.batchsize + i.val ∧
    (∀ f ∈ accepted cfg (arrivals cfg events), f.packetId = batch.batchId * cfg.batchsize + i.val →
      batch.buffer i = f.packet ∧
      ∃ configured, f.vdif.configureBaseband cfg.basebandBits cfg.threadId VDIF.payloadLen = .ok configured ∧
        batch.hdrs i = if i.val = 0 then configured.setPacketId f.packetId else configured) ∧
    ((∀ f ∈ accepted cfg (arrivals cfg events), f.packetId ≠ batch.batchId * cfg.batchsize + i.val) →
      (batch.buffer i).payload = List.replicate 8192 0x80 ∧ (batch.hdrs i).getInvalid = true) := by
  obtain ⟨stored, phase⟩ := recv_run_inv cfg events st run
  have finished : Finished cfg st.stored batch := by
    rcases phase with idle | ⟨origin, running⟩
    · simp [idle.queued] at enqueued
    · exact running.batches.finished batch enqueued
  rw [stored] at finished
  have below : batch.batchId * cfg.batchsize + i.val < 2 ^ 30 * VDIF.framesPerSecond := by
    have inside := i.isLt
    rw [Nat.add_mul, Nat.one_mul] at fits
    omega
  refine ⟨?_, ?_, ?_⟩
  · change (batch.hdrs i).packetId = _
    by_cases arrived : ∃ f ∈ accepted cfg (arrivals cfg events), f.packetId = batch.batchId * cfg.batchsize + i.val
    · obtain ⟨f, member, same⟩ := arrived
      rw [recorded_packet_id cfg f _ baseband (by omega) ((finished.kept f member i same).2.2 baseband), same]
    · obtain ⟨_, header, filled⟩ := finished.filled baseband i fun f member same => arrived ⟨f, member, same⟩
      rw [filled, VDIF.set_invalid_packet_id, VDIF.set_packet_id_round_trip header _ below]
  · intro f member same
    obtain ⟨buffer, _, recorded⟩ := finished.kept f member i same
    obtain ⟨configured, done, header⟩ := recorded baseband
    rw [StreamConfig.storedHeader, if_pos baseband] at done
    obtain ⟨_, slot⟩ := id_in_batch cfg f.packetId batch.batchId i same
    have index : f.packetId % cfg.batchsize = i.val := congrArg Fin.val slot
    exact ⟨buffer, configured, done, by rw [header, index]⟩
  · intro absent
    obtain ⟨silent, header, filled⟩ := finished.filled baseband i absent
    exact ⟨by rw [silent]; rfl, by rw [filled]; exact VDIF.set_invalid_get _⟩

-- Packet 16 has pushed batch 0, of which only packet 0 arrived, into the queue.
theorem lossy_batch_enqueued (st : RecvState sampleStream) (run : recv2mem sampleStream lossyEvents = .ok st) :
    ∃ batch ∈ st.queued, batch.batchId = 0 := by
  have first : (sampleFrame 0).packetId = 0 := sample_frame_id 0 (by decide)
  have second : (sampleFrame 16).packetId = 16 := sample_frame_id 16 (by decide)
  obtain ⟨stored, phase⟩ := recv_run_inv sampleStream lossyEvents st run
  rw [lossy_accepted] at stored
  rcases phase with idle | ⟨origin, running⟩
  · simp [idle.stored] at stored
  · have start : sampleFrame 0 = origin := by
      have head := running.head
      rw [stored] at head
      exact Option.some.inj head
    have reach := running.batches.reach (sampleFrame 16) (by simp [stored])
    have advanced : 1 ≤ st.prebatchid := by rwa [second] at reach
    have queue := running.batches.queue
    rw [← start, first] at queue
    have listed : 0 ∈ st.queued.map PacketBatch.batchId := by
      rw [queue]
      exact List.mem_range'_1.mpr ⟨Nat.zero_le _, by simp only [Nat.zero_div]; omega⟩
    exact List.mem_map.mp listed

theorem lossy_missing (j : Nat) (nonzero : 0 < j) (inside : j < 16) (f : Frame)
    (member : f ∈ accepted sampleStream (arrivals sampleStream lossyEvents)) : f.packetId ≠ j := by
  rw [lossy_accepted] at member
  simp only [List.mem_cons, List.not_mem_nil, or_false] at member
  rcases member with rfl | rfl
  · rw [sample_frame_id 0 (by decide)]
    omega
  · rw [sample_frame_id 16 (by decide)]
    omega

theorem baseband_gap_filling_lossy : ∃ st batch, recv2mem sampleStream lossyEvents = .ok st ∧ batch ∈ st.queued ∧
    (batch.buffer (⟨1, by decide⟩ : Fin 16)).payload = List.replicate 8192 0x80 ∧
    (batch.hdrs (⟨1, by decide⟩ : Fin 16)).getInvalid = true := by
  obtain ⟨st, run⟩ := recv2mem_total sampleStream (Or.inl rfl) lossyEvents
  obtain ⟨batch, enqueued, zero⟩ := lossy_batch_enqueued st run
  have result := baseband_gap_filling sampleStream lossyEvents st rfl run batch enqueued (by rw [zero]; decide)
    (⟨1, by decide⟩ : Fin 16)
  refine ⟨st, batch, run, enqueued, result.2.2 ?_⟩
  rw [zero, Nat.zero_mul, Nat.zero_add]
  exact lossy_missing 1 (by decide) (by decide)

end SpectralLine
