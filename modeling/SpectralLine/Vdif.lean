import SpectralLine.Lib.BitField
import Mathlib.Tactic.IntervalCases

set_option autoImplicit false

namespace SpectralLine

open BitField

abbrev Byte := BitVec 8
abbrev Word := BitVec 32

def readLE32 (p0 p1 p2 p3 : Byte) : Word :=
  p0.setWidth 32 ||| (p1.setWidth 32 <<< 8) ||| (p2.setWidth 32 <<< 16) ||| (p3.setWidth 32 <<< 24)

def writeLE32 (v : Word) (index : Nat) : Byte := ((v >>> (8 * index)) &&& 0xff#32).setWidth 8

theorem read_write_le32 (v : Word) :
    readLE32 (writeLE32 v 0) (writeLE32 v 1) (writeLE32 v 2) (writeLE32 v 3) = v := by
  apply BitVec.eq_of_getLsbD_eq
  intro i bound
  have low : ∀ k, (0xff#32).getLsbD k = decide (k < 8) := by
    intro k
    by_cases inside : k < 32
    · interval_cases k <;> rfl
    · simp [BitVec.getLsbD_of_ge (0xff#32) k (by omega), show ¬ k < 8 by omega]
  simp only [readLE32, writeLE32, BitVec.getLsbD_or, BitVec.getLsbD_shiftLeft, BitVec.getLsbD_setWidth,
    BitVec.getLsbD_and, BitVec.getLsbD_ushiftRight, low]
  by_cases first : i < 8
  · simp [first, bound, show i < 16 by omega, show i < 24 by omega]
  by_cases second : i < 16
  · simp [first, second, bound, show i - 8 < 8 by omega, show 8 + (i - 8) = i by omega, show i < 24 by omega,
      show i - 8 < 32 by omega]
  by_cases third : i < 24
  · simp [first, second, third, bound, show ¬ i - 8 < 8 by omega, show i - 16 < 8 by omega,
      show 16 + (i - 16) = i by omega, show i - 16 < 32 by omega]
  · simp [first, second, third, bound, show ¬ i - 8 < 8 by omega, show ¬ i - 16 < 8 by omega,
      show i - 24 < 8 by omega, show 24 + (i - 24) = i by omega, show i - 24 < 32 by omega]

-- class VDIF: the 32 header bytes. Every caller passes a constant word index
-- below WORDS, so the out_of_range branch of getWord/setWord is excluded by Fin.
structure VDIF where
  header : Vector Byte 32
deriving DecidableEq, Repr

namespace VDIF

def headerSize : Nat := 32
def framesPerSecond : Nat := 62500

def zero : VDIF := ⟨Vector.replicate 32 0⟩

def getWord (h : VDIF) (index : Fin 8) : Word :=
  have inside : 4 * index.val + 3 < 32 := by omega
  readLE32 h.header[4 * index.val] h.header[4 * index.val + 1] h.header[4 * index.val + 2] h.header[4 * index.val + 3]

def setWord (h : VDIF) (index : Fin 8) (value : Word) : VDIF :=
  ⟨(((h.header.set (4 * index.val) (writeLE32 value 0) (by omega)).set (4 * index.val + 1)
    (writeLE32 value 1) (by omega)).set (4 * index.val + 2) (writeLE32 value 2) (by omega)).set
    (4 * index.val + 3) (writeLE32 value 3) (by omega)⟩

@[simp] theorem get_word_set_same (h : VDIF) (index : Fin 8) (value : Word) :
    (h.setWord index value).getWord index = value := by
  simp only [getWord, setWord, Vector.getElem_set]
  simpa using read_write_le32 value

@[simp] theorem get_word_set_other (h : VDIF) (index other : Fin 8) (value : Word)
    (different : other ≠ index) : (h.setWord index value).getWord other = h.getWord other := by
  have apart : other.val ≠ index.val := fun same => different (Fin.ext same)
  have bytes : ∀ k l, k < 4 → l < 4 → 4 * index.val + k ≠ 4 * other.val + l := by omega
  have start : ∀ l, l < 4 → 4 * index.val ≠ 4 * other.val + l := fun l bound => bytes 0 l (by decide) bound
  have target : ∀ k, k < 4 → 4 * index.val + k ≠ 4 * other.val := fun k bound => bytes k 0 bound (by decide)
  simp [getWord, setWord, bytes, start, target, Ne.symm apart]

-- The word accessors share two shapes: a masked field and a single flag bit.
-- `keep` is the mask of `w &= ..` as the source has it, which for the
-- reference epoch is wider than the field that is written back.
def setField (h : VDIF) (index : Fin 8) (keep : Word) (shift : Nat) (field : Word) : VDIF :=
  h.setWord index (putBits keep shift field (h.getWord index))

def getFlag (h : VDIF) (index : Fin 8) (bit : Nat) : Bool := getBits bit 1#32 (h.getWord index) != 0#32

def setFlag (h : VDIF) (index : Fin 8) (bit : Nat) (v : Bool) : VDIF :=
  h.setWord index (if v then h.getWord index ||| (1#32 <<< bit) else h.getWord index &&& ~~~(1#32 <<< bit))

def getSecondsFromEpoch (h : VDIF) : Word := getBits 0 0x3fffffff#32 (h.getWord 0)
def setSecondsFromEpoch (h : VDIF) (sec : Word) : VDIF :=
  h.setField 0 0xc0000000#32 0 (sec &&& 0x3fffffff#32)

def getInvalid (h : VDIF) : Bool := h.getFlag 0 30
def setInvalid (h : VDIF) (v : Bool) : VDIF := h.setFlag 0 30 v

def getLegacy (h : VDIF) : Bool := h.getFlag 0 31
def setLegacy (h : VDIF) (v : Bool) : VDIF := h.setFlag 0 31 v

def getFrameNumber (h : VDIF) : Word := getBits 0 0xffffff#32 (h.getWord 1)
def setFrameNumber (h : VDIF) (n : Word) : VDIF := h.setField 1 0xff000000#32 0 (n &&& 0xffffff#32)

def getReferenceEpoch (h : VDIF) : Word := getBits 24 0x3f#32 (h.getWord 1)
def setReferenceEpoch (h : VDIF) (e : Byte) : VDIF :=
  h.setField 1 0x00ffffff#32 24 (e.setWidth 32 &&& 0x3f#32)

def getVDIFVersion (h : VDIF) : Word := getBits 29 0x7#32 (h.getWord 2)
def setVDIFVersion (h : VDIF) (v : Byte) : VDIF :=
  h.setField 2 (~~~(0x7#32 <<< 29)) 29 (v.setWidth 32 &&& 0x7#32)

def getLog2Channels (h : VDIF) : Word := getBits 24 0x1f#32 (h.getWord 2)
def setLog2Channels (h : VDIF) (v : Byte) : VDIF :=
  h.setField 2 (~~~(0x1f#32 <<< 24)) 24 (v.setWidth 32 &&& 0x1f#32)

def getFrameLength (h : VDIF) : Word := getBits 0 0xffffff#32 (h.getWord 2) * 8#32
def setFrameLength (h : VDIF) (bytes : Word) : VDIF :=
  h.setField 2 0xff000000#32 0 (bytes / 8#32 &&& 0xffffff#32)

def getComplex (h : VDIF) : Bool := h.getFlag 3 31
def setComplex (h : VDIF) (v : Bool) : VDIF := h.setFlag 3 31 v

def getBitsPerSample (h : VDIF) : Word := getBits 26 0x1f#32 (h.getWord 3) + 1#32
-- The one setter that does not mask its argument before shifting it.
def setBitsPerSample (h : VDIF) (bits : Byte) : VDIF :=
  h.setField 3 (~~~(0x1f#32 <<< 26)) 26 (bits.setWidth 32 - 1#32)

def getThreadID (h : VDIF) : Word := getBits 16 0x3ff#32 (h.getWord 3)
def setThreadID (h : VDIF) (id : BitVec 16) : VDIF :=
  h.setField 3 (~~~(0x3ff#32 <<< 16)) 16 (id.setWidth 32 &&& 0x3ff#32)

def getStationID (h : VDIF) : Word := getBits 0 0xffff#32 (h.getWord 3)
def setStationID (h : VDIF) (id : BitVec 16) : VDIF := h.setField 3 0xffff0000#32 0 (id.setWidth 32)

def getEDV (h : VDIF) : Word := getBits 24 0xff#32 (h.getWord 4)
def setEDV (h : VDIF) (v : Byte) : VDIF := h.setField 4 0x00ffffff#32 24 (v.setWidth 32)

def getExtendedUserData (h : VDIF) : Word := getBits 0 0xffffff#32 (h.getWord 4)
def setExtendedUserData (h : VDIF) (v : Word) : VDIF := h.setField 4 0xff000000#32 0 (v &&& 0xffffff#32)

def getExtendedData (h : VDIF) (word : Nat) : Except String Word :=
  if outside : word < 5 ∨ 7 < word then .error "extended word"
  else .ok (h.getWord ⟨word, Nat.lt_succ_of_le (not_lt.mp (not_or.mp outside).2)⟩)

def setExtendedData (h : VDIF) (word : Nat) (value : Word) : Except String VDIF :=
  if outside : word < 5 ∨ 7 < word then .error "extended word"
  else .ok (h.setWord ⟨word, Nat.lt_succ_of_le (not_lt.mp (not_or.mp outside).2)⟩ value)

def getNoiseSourceState (h : VDIF) : Bool := h.getFlag 7 0
def setNoiseSourceState (h : VDIF) (on : Bool) : VDIF := (h.setFlag 7 0 on).setEDV 1

structure Metadata where
  secondsFromEpoch : Word
  frameNumber : Word
  noiseSourceState : Byte
deriving DecidableEq, Repr

-- 64-bit in the source; below 2^30 * 62500 + 2^24, so it never wraps.
def Metadata.packetId (m : Metadata) : Nat := m.secondsFromEpoch.toNat * framesPerSecond + m.frameNumber.toNat

def readMetadata (buf : VDIF) (readNoiseSource : Bool) : Metadata where
  secondsFromEpoch := buf.getWord 0 &&& 0x3fffffff#32
  frameNumber := buf.getWord 1 &&& 0x00ffffff#32
  noiseSourceState := if readNoiseSource then (buf.getWord 7 &&& 0x1#32).setWidth 8 else 0

def setPacketId (h : VDIF) (packetId : Nat) : VDIF :=
  (h.setSecondsFromEpoch (BitVec.ofNat 32 (packetId / framesPerSecond))).setFrameNumber
    (BitVec.ofNat 32 (packetId % framesPerSecond))

-- Rewrites the format fields; the two checks are the source's, on size_t.
def configureBaseband (h : VDIF) (bitsPerSample : Byte) (threadId : BitVec 16) (payloadBytes : Nat) :
    Except String VDIF :=
  if bitsPerSample = 0 ∨ 32 < bitsPerSample.toNat ∨ (2 ^ 64 - 1) / bitsPerSample.toNat < payloadBytes ∨
      payloadBytes * bitsPerSample.toNat % 8 ≠ 0 then
    .error "invalid baseband sample format"
  else
    let frameBytes := headerSize + payloadBytes * bitsPerSample.toNat / 8
    if frameBytes % 8 ≠ 0 ∨ 0x00ffffff * 8 < frameBytes then .error "invalid VDIF frame length"
    else .ok (((((((h.setEDV 1).setFrameLength (BitVec.ofNat 32 frameBytes)).setComplex true).setBitsPerSample
      bitsPerSample).setLog2Channels 0).setVDIFVersion 1).setThreadID threadId)

-- getSecondsFromEpoch() * FRAMES_PER_SECOND + getFrameNumber()
def packetId (h : VDIF) : Nat := h.getSecondsFromEpoch.toNat * framesPerSecond + h.getFrameNumber.toNat

theorem read_metadata_packet_id (h : VDIF) (readNoiseSource : Bool) :
    (readMetadata h readNoiseSource).packetId = h.packetId := by
  simp [readMetadata, Metadata.packetId, packetId, getSecondsFromEpoch, getFrameNumber, getBits]

@[simp] theorem get_word_set_field_other (h : VDIF) (index other : Fin 8) (keep : Word) (shift : Nat)
    (field : Word) (different : other ≠ index) : (h.setField index keep shift field).getWord other = h.getWord other :=
  get_word_set_other h index other _ different

@[simp] theorem get_word_set_flag_other (h : VDIF) (index other : Fin 8) (bit : Nat) (v : Bool)
    (different : other ≠ index) : (h.setFlag index bit v).getWord other = h.getWord other :=
  get_word_set_other h index other _ different

@[simp] theorem get_word_set_field_same (h : VDIF) (index : Fin 8) (keep : Word) (shift : Nat) (field : Word) :
    (h.setField index keep shift field).getWord index = putBits keep shift field (h.getWord index) :=
  get_word_set_same h index _

@[simp] theorem get_word_set_flag_same (h : VDIF) (index : Fin 8) (bit : Nat) (v : Bool) :
    (h.setFlag index bit v).getWord index =
      putBits (~~~(1#32 <<< bit)) bit (if v then 1#32 else 0#32) (h.getWord index) := by
  cases v with
  | false => simp [setFlag, putBits]
  | true =>
      rw [setFlag, get_word_set_same]
      exact (clear_then_or (h.getWord index) (1#32 <<< bit)).symm

@[simp] theorem get_flag_set_field_other (h : VDIF) (index : Fin 8) (keep : Word) (shift bit : Nat) (field : Word)
    (kept : (keep >>> bit) &&& 1#32 = 1#32) (outside : ((field <<< shift) >>> bit) &&& 1#32 = 0#32) :
    (h.setField index keep shift field).getFlag index bit = h.getFlag index bit := by
  rw [getFlag, get_word_set_field_same, get_put_other keep 1#32 shift bit field _ kept outside, getFlag]

theorem set_packet_id_word0 (h : VDIF) (id : Nat) : (h.setPacketId id).getWord 0 =
    putBits 0xc0000000#32 0 (BitVec.ofNat 32 (id / framesPerSecond) &&& 0x3fffffff#32) (h.getWord 0) := by
  simp [setPacketId, setFrameNumber, setSecondsFromEpoch]

theorem set_packet_id_word1 (h : VDIF) (id : Nat) : (h.setPacketId id).getWord 1 =
    putBits 0xff000000#32 0 (BitVec.ofNat 32 (id % framesPerSecond) &&& 0xffffff#32) (h.getWord 1) := by
  simp [setPacketId, setFrameNumber, setSecondsFromEpoch]

theorem set_packet_id_word (h : VDIF) (id : Nat) (index : Fin 8) (zero : index ≠ 0) (one : index ≠ 1) :
    (h.setPacketId id).getWord index = h.getWord index := by
  simp [setPacketId, setFrameNumber, setSecondsFromEpoch, zero, one]

theorem masked_of_nat (width value : Nat) (small : value < 2 ^ width) (fits : width ≤ 32) :
    (BitVec.ofNat 32 value &&& BitVec.ofNat 32 (2 ^ width - 1)).toNat = value := by
  have power : 2 ^ width ≤ 2 ^ 32 := Nat.pow_le_pow_right (by decide) fits
  rw [BitVec.toNat_and, BitVec.toNat_ofNat, BitVec.toNat_ofNat, Nat.mod_eq_of_lt (by omega),
    Nat.mod_eq_of_lt (by omega), Nat.and_two_pow_sub_one_eq_mod, Nat.mod_eq_of_lt small]

theorem set_packet_id_seconds (h : VDIF) (id : Nat) (fits : id < 2 ^ 30 * framesPerSecond) :
    (h.setPacketId id).getSecondsFromEpoch.toNat = id / framesPerSecond := by
  have small : id / framesPerSecond < 2 ^ 30 := Nat.div_lt_of_lt_mul (by rwa [Nat.mul_comm])
  rw [getSecondsFromEpoch, set_packet_id_word0, get_put_same _ _ _ _ _ (by decide) (by decide), BitVec.and_assoc,
    BitVec.and_self]
  exact masked_of_nat 30 (id / framesPerSecond) small (by decide)

theorem set_packet_id_frame (h : VDIF) (id : Nat) :
    (h.setPacketId id).getFrameNumber.toNat = id % framesPerSecond := by
  have small : id % framesPerSecond < 62500 := Nat.mod_lt id (by decide)
  rw [getFrameNumber, set_packet_id_word1, get_put_same _ _ _ _ _ (by decide) (by decide), BitVec.and_assoc,
    BitVec.and_self]
  exact masked_of_nat 24 (id % framesPerSecond) (by omega) (by decide)

theorem set_packet_id_round_trip (h : VDIF) (id : Nat) (fits : id < 2 ^ 30 * framesPerSecond) :
    (h.setPacketId id).packetId = id := by
  rw [packetId, set_packet_id_seconds h id fits, set_packet_id_frame]
  exact Nat.div_add_mod' id framesPerSecond

theorem set_packet_id_flag (h : VDIF) (id bit : Nat) (high : bit = 30 ∨ bit = 31) :
    (h.setPacketId id).getFlag 0 bit = h.getFlag 0 bit := by
  have other : getBits bit 1#32 ((h.setPacketId id).getWord 0) = getBits bit 1#32 (h.getWord 0) := by
    rw [set_packet_id_word0]
    rcases high with rfl | rfl
    · exact get_put_other _ _ _ _ _ _ (by decide) (masked_outside _ _ _ _ _ (by decide))
    · exact get_put_other _ _ _ _ _ _ (by decide) (masked_outside _ _ _ _ _ (by decide))
  rw [getFlag, getFlag, other]

theorem set_packet_id_epoch (h : VDIF) (id : Nat) : (h.setPacketId id).getReferenceEpoch = h.getReferenceEpoch := by
  rw [getReferenceEpoch, set_packet_id_word1, getReferenceEpoch]
  exact get_put_other _ _ _ _ _ _ (by decide) (masked_outside _ _ _ _ _ (by decide))

theorem set_invalid_get (h : VDIF) : (h.setInvalid true).getInvalid = true := by
  rw [getInvalid, setInvalid, getFlag, get_word_set_flag_same, get_put_same _ _ _ _ _ (by decide) (by decide)]
  rfl

theorem set_invalid_word (h : VDIF) (v : Bool) (index : Fin 8) (nonzero : index ≠ 0) :
    (h.setInvalid v).getWord index = h.getWord index := get_word_set_flag_other h 0 index 30 v nonzero

theorem set_invalid_packet_id (h : VDIF) (v : Bool) : (h.setInvalid v).packetId = h.packetId := by
  have seconds : (h.setInvalid v).getSecondsFromEpoch = h.getSecondsFromEpoch := by
    rw [getSecondsFromEpoch, setInvalid, get_word_set_flag_same]
    cases v
    · exact get_put_other _ _ _ _ _ _ (by decide) (by decide)
    · exact get_put_other _ _ _ _ _ _ (by decide) (by decide)
  rw [packetId, packetId, seconds, getFrameNumber, set_invalid_word h v 1 (by decide), getFrameNumber]

theorem packet_id_congr (a b : VDIF) (word0 : a.getWord 0 = b.getWord 0) (word1 : a.getWord 1 = b.getWord 1) :
    a.packetId = b.packetId := by
  simp only [packetId, getSecondsFromEpoch, getFrameNumber, word0, word1]

-- The widths initFromYaml accepts for baseband output.
def widthAccepted (bits : Byte) : Prop := bits = 8 ∨ bits = 4 ∨ bits = 2

instance (bits : Byte) : Decidable (widthAccepted bits) := inferInstanceAs (Decidable (_ ∨ _ ∨ _))

def payloadLen : Nat := 8192

-- HEADER_SIZE + payload_bytes * bits_per_sample / 8
def frameBytes (bits : Byte) : Nat := headerSize + payloadLen * bits.toNat / 8

theorem configure_baseband_ok (h : VDIF) (bits : Byte) (threadId : BitVec 16) (accepted : widthAccepted bits) :
    h.configureBaseband bits threadId payloadLen =
      .ok (((((((h.setEDV 1).setFrameLength (BitVec.ofNat 32 (frameBytes bits))).setComplex true).setBitsPerSample
        bits).setLog2Channels 0).setVDIFVersion 1).setThreadID threadId) := by
  have format : bits ≠ 0 ∧ bits.toNat ≤ 32 ∧ payloadLen ≤ (2 ^ 64 - 1) / bits.toNat ∧
      payloadLen * bits.toNat % 8 = 0 := by rcases accepted with rfl | rfl | rfl <;> decide
  have length : frameBytes bits % 8 = 0 ∧ frameBytes bits ≤ 0x00ffffff * 8 := by
    rcases accepted with rfl | rfl | rfl <;> decide
  obtain ⟨nonzero, narrow, fits, whole⟩ := format
  have sample : ¬ (bits = 0 ∨ 32 < bits.toNat ∨ (2 ^ 64 - 1) / bits.toNat < payloadLen ∨
      payloadLen * bits.toNat % 8 ≠ 0) :=
    not_or.mpr ⟨nonzero, not_or.mpr ⟨Nat.not_lt.mpr narrow, not_or.mpr ⟨Nat.not_lt.mpr fits, not_not.mpr whole⟩⟩⟩
  rw [configureBaseband, if_neg sample]
  exact if_neg (by rw [← frameBytes]; omega)

theorem configure_baseband_word (h c : VDIF) (bits : Byte) (threadId : BitVec 16) (accepted : widthAccepted bits)
    (done : h.configureBaseband bits threadId payloadLen = .ok c) (index : Fin 8)
    (outside : index ≠ 2 ∧ index ≠ 3 ∧ index ≠ 4) : c.getWord index = h.getWord index := by
  rw [configure_baseband_ok h bits threadId accepted] at done
  rw [← Except.ok.inj done]
  simp [setThreadID, setVDIFVersion, setLog2Channels, setBitsPerSample, setComplex, setFrameLength, setEDV, outside]

theorem configure_baseband_word2 (h c : VDIF) (bits : Byte) (threadId : BitVec 16) (accepted : widthAccepted bits)
    (done : h.configureBaseband bits threadId payloadLen = .ok c) : c.getWord 2 =
      putBits (~~~(0x7#32 <<< 29)) 29 ((1#8).setWidth 32 &&& 0x7#32)
        (putBits (~~~(0x1f#32 <<< 24)) 24 ((0#8).setWidth 32 &&& 0x1f#32)
          (putBits 0xff000000#32 0 (BitVec.ofNat 32 (frameBytes bits) / 8#32 &&& 0xffffff#32) (h.getWord 2))) := by
  rw [configure_baseband_ok h bits threadId accepted] at done
  rw [← Except.ok.inj done]
  simp [setThreadID, setVDIFVersion, setLog2Channels, setBitsPerSample, setComplex, setFrameLength, setEDV]

theorem configure_baseband_word3 (h c : VDIF) (bits : Byte) (threadId : BitVec 16) (accepted : widthAccepted bits)
    (done : h.configureBaseband bits threadId payloadLen = .ok c) : c.getWord 3 =
      putBits (~~~(0x3ff#32 <<< 16)) 16 (threadId.setWidth 32 &&& 0x3ff#32)
        (putBits (~~~(0x1f#32 <<< 26)) 26 (bits.setWidth 32 - 1#32)
          (putBits (~~~(1#32 <<< 31)) 31 1#32 (h.getWord 3))) := by
  rw [configure_baseband_ok h bits threadId accepted] at done
  rw [← Except.ok.inj done]
  simp [setThreadID, setVDIFVersion, setLog2Channels, setBitsPerSample, setComplex, setFrameLength, setEDV]

theorem configure_baseband_packet_id (h c : VDIF) (bits : Byte) (threadId : BitVec 16)
    (accepted : widthAccepted bits) (done : h.configureBaseband bits threadId payloadLen = .ok c) :
    c.packetId = h.packetId :=
  packet_id_congr c h (configure_baseband_word h c bits threadId accepted done 0 (by decide))
    (configure_baseband_word h c bits threadId accepted done 1 (by decide))

end VDIF

end SpectralLine
