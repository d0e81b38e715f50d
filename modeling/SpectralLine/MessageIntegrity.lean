import SpectralLine.WireFormat

set_option autoImplicit false

namespace SpectralLine

theorem castagnoli_top : castagnoli.getLsbD (32 - 1) = true := by decide

theorem burst_checksum (left right : List Byte) (start : Nat)
    (agree : Crc.AgreeOutside start 32 (Crc.messageBits left) (Crc.messageBits right)) (same : spectrumCrc32c left = spectrumCrc32c right) :
    left = right := by
  rw [spectrumCrc32c, spectrumCrc32c, crc_register, crc_register, BitVec.not_inj] at same
  exact Crc.message_bits_injective left right (Crc.burst_injective castagnoli castagnoli_top _ _ _ start agree same)

def replaceBody (message body : List Byte) : List Byte := message.take 24 ++ body

theorem sent_crc (serverId : BitVec 16) (sequence : BitVec 64) (header : PackedSpectrumHeader) (payload : List Byte) :
    (documentedTransport (spectrumMessage serverId sequence header payload)).crc32c =
      spectrumCrc32c ((spectrumMessage serverId sequence header payload).drop 24) := by
  rw [message_body, message_parts, documented_transport, transportOf, spectrumCrc32c, crc_register, documentedCrc32c]

theorem replace_body (serverId : BitVec 16) (sequence : BitVec 64) (header : PackedSpectrumHeader) (payload body : List Byte) :
    let message := spectrumMessage serverId sequence header payload
    documentedTransport (replaceBody message body) = documentedTransport message ∧ (replaceBody message body).drop 24 = body := by
  intro message
  have front := (transportOf serverId sequence header payload).bytes_length
  have parts : message = _ := message_parts serverId sequence header payload
  rw [replaceBody, parts, List.take_left' front, documented_transport, documented_transport]
  exact ⟨rfl, List.drop_left' front⟩

theorem burst_errors_detected :
    (∀ (left right : List Byte) (start : Nat), left.length = right.length → left ≠ right →
      (∀ i, i < start ∨ start + 32 ≤ i → (Crc.messageBits left)[i]? = (Crc.messageBits right)[i]?) →
      spectrumCrc32c left ≠ spectrumCrc32c right) ∧
    ∀ (sender : SpectrumSender) (calls : SendCalls) (header : PackedSpectrumHeader) (payload : Option (List Byte)) (message : List Byte),
      (sender.sendSpectrum calls header payload).accepted = some message →
      ∀ (body : List Byte) (start : Nat), body.length = (message.drop 24).length → body ≠ message.drop 24 →
        (∀ i, i < start ∨ start + 4 ≤ i → body[i]? = (message.drop 24)[i]?) →
        spectrumCrc32c body ≠ (documentedTransport message).crc32c ∧ ∀ mode, ¬ ReceiverAccepts mode (replaceBody message body) := by
  constructor
  · intro left right start length differ outside same
    have bits : (Crc.messageBits left).length = (Crc.messageBits right).length := by
      rw [Crc.message_bits_length, Crc.message_bits_length, length]
    exact differ (burst_checksum left right start ⟨bits, outside⟩ same)
  · intro sender calls header payload message accepted body start length differ outside
    obtain ⟨bytes, _, _, built⟩ := (SpectrumSender.send_spectrum_effect sender calls header payload).2 message accepted
    have carried : (documentedTransport message).crc32c = spectrumCrc32c (message.drop 24) := built ▸ sent_crc _ _ _ _
    have changed : spectrumCrc32c body ≠ (documentedTransport message).crc32c := by
      intro same
      exact differ (burst_checksum _ _ _ (Crc.agree_bits start 4 _ _ ⟨length, outside⟩) (same.trans carried))
    refine ⟨changed, ?_⟩
    intro mode accepts
    obtain ⟨transport, replaced⟩ := replace_body sender.serverId sender.nextSequence { header with pktId := 0, totalPkt := 1 } bytes body
    rw [← built] at transport replaced
    have checked := accepts.crc
    rw [transport, replaced, documentedCrc32c, ← crc_register, ← spectrumCrc32c] at checked
    exact changed checked.symm

-- A burst across a byte boundary, and the last byte of a sent body damaged.
theorem burst_errors_idle :
    spectrumCrc32c [0x80, 0x31] ≠ spectrumCrc32c [0x00, 0x30] ∧
      spectrumCrc32c (idleHeader.bytes ++ [0, 0, 0, 7]) ≠ (documentedTransport (spectrumMessage 2 0 idleHeader [0, 0, 0, 0])).crc32c := by
  have body : (spectrumMessage 2 0 idleHeader [0, 0, 0, 0]).drop 24 = idleHeader.bytes ++ [0, 0, 0, 0] := message_body _ _ _ _
  constructor
  · refine burst_errors_detected.1 _ _ 7 rfl (by decide) ?_
    rintro i (before | after)
    · interval_cases i <;> rfl
    · rw [List.getElem?_eq_none (by rw [Crc.message_bits_length]; exact Nat.le_trans (by decide) after),
        List.getElem?_eq_none (by rw [Crc.message_bits_length]; exact Nat.le_trans (by decide) after)]
  · refine (burst_errors_detected.2 (SpectrumSender.init {} "10.0.0.1" 5001 2) ⟨1, openingOk, .ok (1, true), .ok (), .ok 131⟩ idleHeader
      (some [0, 0, 0, 0]) (spectrumMessage 2 0 idleHeader [0, 0, 0, 0]) rfl (idleHeader.bytes ++ [0, 0, 0, 7]) 106 ?_ ?_ ?_).1
    · rw [body]
      rfl
    · rw [body]
      exact fun same => absurd (List.append_cancel_left same) (by decide)
    · rw [body]
      rintro i (before | after)
      · have early : i ∈ List.range 106 := List.mem_range.mpr before
        revert i
        decide
      · have length : ∀ last : Byte, (idleHeader.bytes ++ [0, 0, 0, last]).length ≤ i := by
          intro last
          rw [List.length_append, idleHeader.bytes_length]
          exact Nat.le_trans (Nat.le_add_right 107 3) after
        rw [List.getElem?_eq_none (length 7), List.getElem?_eq_none (length 0)]

end SpectralLine
