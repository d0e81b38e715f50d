import SpectralLine.Vdif
import Mathlib.Logic.Function.Basic

set_option autoImplicit false

namespace SpectralLine

open BitField

namespace VDIF

-- The fields of the header as a partition of its words. The noise state is bit
-- 0 of the last extended word, so it is not a field of its own.
inductive Field where
  | secondsFromEpoch | invalid | legacy
  | frameNumber | referenceEpoch
  | vdifVersion | log2Channels | frameLength
  | complex | bitsPerSample | threadID | stationID
  | edv | extendedUserData
  | extended5 | extended6 | extended7
deriving DecidableEq

namespace Field

def all : List Field :=
  [secondsFromEpoch, invalid, legacy, frameNumber, referenceEpoch, vdifVersion, log2Channels, frameLength,
    complex, bitsPerSample, threadID, stationID, edv, extendedUserData, extended5, extended6, extended7]

theorem mem_all (f : Field) : f ∈ all := by
  cases f <;> decide

def word : Field → Nat
  | secondsFromEpoch | invalid | legacy => 0
  | frameNumber | referenceEpoch => 1
  | vdifVersion | log2Channels | frameLength => 2
  | complex | bitsPerSample | threadID | stationID => 3
  | edv | extendedUserData => 4
  | extended5 => 5
  | extended6 => 6
  | extended7 => 7

theorem word_inside (f : Field) : f.word < 8 := by
  cases f <;> decide

def index (f : Field) : Fin 8 := ⟨f.word, f.word_inside⟩

def shift : Field → Nat
  | invalid => 30
  | legacy | complex => 31
  | referenceEpoch | log2Channels | edv => 24
  | vdifVersion => 29
  | bitsPerSample => 26
  | threadID => 16
  | _ => 0

def mask : Field → Word
  | secondsFromEpoch => 0x3fffffff#32
  | invalid | legacy | complex => 1#32
  | frameNumber | frameLength | extendedUserData => 0xffffff#32
  | referenceEpoch => 0x3f#32
  | vdifVersion => 0x7#32
  | log2Channels | bitsPerSample => 0x1f#32
  | threadID => 0x3ff#32
  | stationID => 0xffff#32
  | edv => 0xff#32
  | extended5 | extended6 | extended7 => 0xffffffff#32

-- A write that keeps the bits of `keep` clears the field itself and no bit of
-- another field of its word.
def OnlyClears (f : Field) (keep : Word) : Prop :=
  (keep >>> f.shift) &&& f.mask = 0#32 ∧
    ∀ g ∈ all, g ≠ f → g.index = f.index → (keep >>> g.shift) &&& g.mask = g.mask

instance (f : Field) (keep : Word) : Decidable (f.OnlyClears keep) :=
  inferInstanceAs (Decidable (_ ∧ _))

theorem mask_fits (f : Field) : (f.mask <<< f.shift) >>> f.shift = f.mask := by
  cases f <;> decide

theorem disjoint_fields (f g : Field) (different : g ≠ f) (shared : g.index = f.index) :
    ((f.mask <<< f.shift) >>> g.shift) &&& g.mask = 0#32 := by
  have table : ∀ f ∈ all, ∀ g ∈ all, g ≠ f → g.index = f.index →
      ((f.mask <<< f.shift) >>> g.shift) &&& g.mask = 0#32 := by decide
  exact table f f.mem_all g g.mem_all different shared

end Field

def raw (h : VDIF) (f : Field) : Word := getBits f.shift f.mask (h.getWord f.index)

theorem raw_set_field (h : VDIF) (f : Field) (keep value : Word) (clears : f.OnlyClears keep) :
    (h.setField f.index keep f.shift (value &&& f.mask)).raw = Function.update h.raw f (value &&& f.mask) := by
  funext g
  by_cases same : g = f
  · subst same
    rw [Function.update_self, raw, get_word_set_field_same, get_put_same _ _ _ _ _ clears.1 g.mask_fits,
      BitVec.and_assoc, BitVec.and_self]
  · rw [Function.update_of_ne same, raw, raw]
    by_cases shared : g.index = f.index
    · rw [shared, get_word_set_field_same]
      exact get_put_other _ _ _ _ _ _ (clears.2 g g.mem_all same shared)
        (masked_outside _ _ _ _ _ (f.disjoint_fields g same shared))
    · rw [get_word_set_field_other h f.index g.index _ _ _ shared]

theorem raw_set_flag (h : VDIF) (f : Field) (v : Bool) (single : f.mask = 1#32)
    (clears : f.OnlyClears (~~~(1#32 <<< f.shift))) :
    (h.setFlag f.index f.shift v).raw = Function.update h.raw f (if v then 1#32 else 0#32) := by
  have stored : (if v then 1#32 else 0#32) = (if v then 1#32 else 0#32) &&& f.mask := by
    rw [single]
    cases v <;> rfl
  have word : h.setFlag f.index f.shift v =
      h.setField f.index (~~~(1#32 <<< f.shift)) f.shift (if v then 1#32 else 0#32) := by
    rw [setField, setFlag, putBits]
    cases v with
    | false => simp
    | true => rw [if_pos rfl, if_pos rfl, clear_then_or]
  rw [word, stored]
  exact raw_set_field h f _ _ clears

-- What the getters return, as numbers.
@[ext] structure Reading where
  secondsFromEpoch : Nat
  invalid : Bool
  legacy : Bool
  frameNumber : Nat
  referenceEpoch : Nat
  vdifVersion : Nat
  log2Channels : Nat
  frameLength : Nat
  complex : Bool
  bitsPerSample : Nat
  threadID : Nat
  stationID : Nat
  edv : Nat
  extendedUserData : Nat
  extendedData : Nat → Except String Nat
  noiseSourceState : Bool

def reading (h : VDIF) : Reading where
  secondsFromEpoch := h.getSecondsFromEpoch.toNat
  invalid := h.getInvalid
  legacy := h.getLegacy
  frameNumber := h.getFrameNumber.toNat
  referenceEpoch := h.getReferenceEpoch.toNat
  vdifVersion := h.getVDIFVersion.toNat
  log2Channels := h.getLog2Channels.toNat
  frameLength := h.getFrameLength.toNat
  complex := h.getComplex
  bitsPerSample := h.getBitsPerSample.toNat
  threadID := h.getThreadID.toNat
  stationID := h.getStationID.toNat
  edv := h.getEDV.toNat
  extendedUserData := h.getExtendedUserData.toNat
  extendedData := fun word => (h.getExtendedData word).map BitVec.toNat
  noiseSourceState := h.getNoiseSourceState

def extendedOf (raw : Field → Word) (word : Nat) : Except String Nat :=
  if word = 5 then .ok (raw .extended5).toNat
  else if word = 6 then .ok (raw .extended6).toNat
  else if word = 7 then .ok (raw .extended7).toNat
  else .error "extended word"

def Reading.ofRaw (raw : Field → Word) : Reading where
  secondsFromEpoch := (raw .secondsFromEpoch).toNat
  invalid := raw .invalid != 0#32
  legacy := raw .legacy != 0#32
  frameNumber := (raw .frameNumber).toNat
  referenceEpoch := (raw .referenceEpoch).toNat
  vdifVersion := (raw .vdifVersion).toNat
  log2Channels := (raw .log2Channels).toNat
  frameLength := (raw .frameLength * 8#32).toNat
  complex := raw .complex != 0#32
  bitsPerSample := (raw .bitsPerSample + 1#32).toNat
  threadID := (raw .threadID).toNat
  stationID := (raw .stationID).toNat
  edv := (raw .edv).toNat
  extendedUserData := (raw .extendedUserData).toNat
  extendedData := extendedOf raw
  noiseSourceState := (raw .extended7 &&& 1#32) != 0#32

theorem raw_whole_word (h : VDIF) (f : Field) (unshifted : f.shift = 0) (whole : f.mask = 0xffffffff#32) :
    h.raw f = h.getWord f.index := by
  have ones : 0xffffffff#32 = BitVec.allOnes 32 := rfl
  rw [raw, unshifted, whole, getBits, BitVec.ushiftRight_zero, ones, BitVec.and_allOnes]

theorem reading_of_raw (h : VDIF) : h.reading = Reading.ofRaw h.raw := by
  have extended : ∀ word, (h.getExtendedData word).map BitVec.toNat = extendedOf h.raw word := by
    intro word
    by_cases outside : word < 5 ∨ 7 < word
    · rw [getExtendedData, dif_pos outside, extendedOf, if_neg (by omega), if_neg (by omega), if_neg (by omega)]
      rfl
    · rw [getExtendedData, dif_neg outside, extendedOf, raw_whole_word h .extended5 rfl rfl,
        raw_whole_word h .extended6 rfl rfl, raw_whole_word h .extended7 rfl rfl]
      rcases (show word = 5 ∨ word = 6 ∨ word = 7 by omega) with rfl | rfl | rfl <;> rfl
  have noise : h.getNoiseSourceState = ((h.raw .extended7 &&& 1#32) != 0#32) := by
    rw [raw_whole_word h .extended7 rfl rfl, getNoiseSourceState, getFlag, getBits]
    rfl
  ext1
  all_goals first | rfl | exact noise | exact funext extended

-- The setters of the class with arguments of their declared types.
inductive Setter where
  | packetId (id : BitVec 64)
  | secondsFromEpoch (sec : Word)
  | invalid (v : Bool)
  | legacy (v : Bool)
  | frameNumber (n : Word)
  | referenceEpoch (e : Byte)
  | vdifVersion (v : Byte)
  | log2Channels (v : Byte)
  | frameLength (bytes : Word)
  | complex (v : Bool)
  | bitsPerSample (bits : Byte)
  | threadID (id : BitVec 16)
  | stationID (id : BitVec 16)
  | edv (v : Byte)
  | extendedUserData (v : Word)
  | extendedData (word : BitVec 64) (value : Word)
  | noiseSourceState (on : Bool)

namespace Setter

def apply (s : Setter) (h : VDIF) : Except String VDIF :=
  match s with
  | packetId id => .ok (h.setPacketId id.toNat)
  | secondsFromEpoch sec => .ok (h.setSecondsFromEpoch sec)
  | invalid v => .ok (h.setInvalid v)
  | legacy v => .ok (h.setLegacy v)
  | frameNumber n => .ok (h.setFrameNumber n)
  | referenceEpoch e => .ok (h.setReferenceEpoch e)
  | vdifVersion v => .ok (h.setVDIFVersion v)
  | log2Channels v => .ok (h.setLog2Channels v)
  | frameLength bytes => .ok (h.setFrameLength bytes)
  | complex v => .ok (h.setComplex v)
  | bitsPerSample bits => .ok (h.setBitsPerSample bits)
  | threadID id => .ok (h.setThreadID id)
  | stationID id => .ok (h.setStationID id)
  | edv v => .ok (h.setEDV v)
  | extendedUserData v => .ok (h.setExtendedUserData v)
  | extendedData word value => h.setExtendedData word.toNat value
  | noiseSourceState on => .ok (h.setNoiseSourceState on)

-- What the getters are to return afterwards: the argument reduced to the width
-- of its field, and everything else as it was.
def expected (s : Setter) (r : Reading) : Reading :=
  match s with
  | packetId id => { r with
      secondsFromEpoch := id.toNat / framesPerSecond % 2 ^ 30
      frameNumber := id.toNat % framesPerSecond }
  | secondsFromEpoch sec => { r with secondsFromEpoch := sec.toNat % 2 ^ 30 }
  | invalid v => { r with invalid := v }
  | legacy v => { r with legacy := v }
  | frameNumber n => { r with frameNumber := n.toNat % 2 ^ 24 }
  | referenceEpoch e => { r with referenceEpoch := e.toNat % 2 ^ 6 }
  | vdifVersion v => { r with vdifVersion := v.toNat % 2 ^ 3 }
  | log2Channels v => { r with log2Channels := v.toNat % 2 ^ 5 }
  | frameLength bytes => { r with frameLength := bytes.toNat / 8 * 8 % 2 ^ 27 }
  | complex v => { r with complex := v }
  | bitsPerSample bits => { r with bitsPerSample := (bits.toNat + 31) % 32 + 1 }
  | threadID id => { r with threadID := id.toNat % 2 ^ 10 }
  | stationID id => { r with stationID := id.toNat }
  | edv v => { r with edv := v.toNat }
  | extendedUserData v => { r with extendedUserData := v.toNat % 2 ^ 24 }
  | extendedData word value => { r with
      extendedData := Function.update r.extendedData word.toNat (.ok value.toNat)
      noiseSourceState := if word.toNat = 7 then value.toNat % 2 = 1 else r.noiseSourceState }
  | noiseSourceState on => { r with
      noiseSourceState := on
      edv := 1
      extendedData := Function.update r.extendedData 7
        ((r.extendedData 7).map fun value => value / 2 * 2 + on.toNat) }

def words : Setter → List Nat
  | packetId _ => [0, 1]
  | secondsFromEpoch _ | invalid _ | legacy _ => [0]
  | frameNumber _ | referenceEpoch _ => [1]
  | vdifVersion _ | log2Channels _ | frameLength _ => [2]
  | complex _ | bitsPerSample _ | threadID _ | stationID _ => [3]
  | edv _ | extendedUserData _ => [4]
  | extendedData word _ => [word.toNat]
  | noiseSourceState _ => [4, 7]

end Setter

theorem masked_value (width : Nat) (v : Word) (fits : width ≤ 32) :
    (v &&& BitVec.ofNat 32 (2 ^ width - 1)).toNat = v.toNat % 2 ^ width := by
  have power : 2 ^ width ≤ 2 ^ 32 := Nat.pow_le_pow_right (by decide) fits
  have positive : 0 < 2 ^ width := Nat.two_pow_pos width
  rw [BitVec.toNat_and, BitVec.toNat_ofNat, Nat.mod_eq_of_lt (show 2 ^ width - 1 < 2 ^ 32 by omega),
    Nat.and_two_pow_sub_one_eq_mod]

theorem widened_value (source width : Nat) (v : BitVec source) (narrow : source ≤ 32) (fits : width ≤ 32) :
    (v.setWidth 32 &&& BitVec.ofNat 32 (2 ^ width - 1)).toNat = v.toNat % 2 ^ width := by
  rw [masked_value width _ fits, BitVec.toNat_setWidth_of_le narrow]

theorem frame_length_value (bytes : Word) :
    ((bytes / 8#32 &&& 0xffffff#32) * 8#32).toNat = bytes.toNat / 8 * 8 % 2 ^ 27 := by
  have units : (bytes / 8#32 &&& 0xffffff#32).toNat = bytes.toNat / 8 % 2 ^ 24 :=
    masked_value 24 (bytes / 8#32) (by decide)
  rw [BitVec.toNat_mul, units]
  change bytes.toNat / 8 % 2 ^ 24 * 8 % 2 ^ 32 = _
  omega

theorem bits_value (bits : Byte) :
    ((bits.setWidth 32 - 1#32 &&& 0x1f#32) + 1#32).toNat = (bits.toNat + 31) % 32 + 1 := by
  have small : bits.toNat < 256 := bits.isLt
  have masked : (bits.setWidth 32 - 1#32 &&& 0x1f#32).toNat = (bits.toNat + 31) % 32 := by
    have low : (bits.setWidth 32 - 1#32 &&& 0x1f#32).toNat = (bits.setWidth 32 - 1#32).toNat % 2 ^ 5 :=
      masked_value 5 _ (by decide)
    rw [low, BitVec.toNat_sub, BitVec.toNat_setWidth]
    change (2 ^ 32 - 1 + bits.toNat % 2 ^ 32) % 2 ^ 32 % 2 ^ 5 = _
    omega
  rw [BitVec.toNat_add, masked]
  change ((bits.toNat + 31) % 32 + 1) % 2 ^ 32 = _
  omega

theorem reading_set_field (h : VDIF) (f : Field) (keep value : Word) (clears : f.OnlyClears keep) :
    (h.setField f.index keep f.shift (value &&& f.mask)).reading =
      Reading.ofRaw (Function.update h.raw f (value &&& f.mask)) := by
  rw [reading_of_raw, raw_set_field h f keep value clears]

theorem reading_set_flag (h : VDIF) (f : Field) (v : Bool) (single : f.mask = 1#32)
    (clears : f.OnlyClears (~~~(1#32 <<< f.shift))) :
    (h.setFlag f.index f.shift v).reading = Reading.ofRaw (Function.update h.raw f (if v then 1#32 else 0#32)) := by
  rw [reading_of_raw, raw_set_flag h f v single clears]

-- A setter of one numeric field, when `replace` puts a number in that field.
theorem field_setter_reading (h : VDIF) (f : Field) (keep value : Word) (clears : f.OnlyClears keep) (n : Nat)
    (stored : (value &&& f.mask).toNat = n) (replace : Nat → Reading)
    (same : ∀ word, Reading.ofRaw (Function.update h.raw f word) = replace word.toNat) :
    (h.setField f.index keep f.shift (value &&& f.mask)).reading = replace n := by
  rw [reading_set_field h f keep value clears, same, stored]

theorem flag_value (v : Bool) : ((if v then 1#32 else 0#32) != 0#32) = v := by
  cases v <;> rfl

theorem flag_setter_reading (h : VDIF) (f : Field) (v : Bool) (single : f.mask = 1#32)
    (clears : f.OnlyClears (~~~(1#32 <<< f.shift))) (replace : Bool → Reading)
    (same : ∀ word, Reading.ofRaw (Function.update h.raw f word) = replace (word != 0#32)) :
    (h.setFlag f.index f.shift v).reading = replace v := by
  rw [reading_set_flag h f v single clears, same, flag_value]

theorem set_seconds_reading (h : VDIF) (sec : Word) :
    (h.setSecondsFromEpoch sec).reading = (Setter.secondsFromEpoch sec).expected h.reading := by
  have value : (sec &&& Field.secondsFromEpoch.mask).toNat = sec.toNat % 2 ^ 30 := masked_value 30 sec (by decide)
  rw [reading_of_raw h]
  exact field_setter_reading h .secondsFromEpoch 0xc0000000#32 sec (by decide) _ value
    (fun n => { Reading.ofRaw h.raw with secondsFromEpoch := n }) fun _ => rfl

theorem set_frame_number_reading (h : VDIF) (n : Word) :
    (h.setFrameNumber n).reading = (Setter.frameNumber n).expected h.reading := by
  have value : (n &&& Field.frameNumber.mask).toNat = n.toNat % 2 ^ 24 := masked_value 24 n (by decide)
  rw [reading_of_raw h]
  exact field_setter_reading h .frameNumber 0xff000000#32 n (by decide) _ value
    (fun n => { Reading.ofRaw h.raw with frameNumber := n }) fun _ => rfl

theorem set_packet_id_reading (h : VDIF) (id : BitVec 64) :
    (h.setPacketId id.toNat).reading = (Setter.packetId id).expected h.reading := by
  have seconds : (BitVec.ofNat 32 (id.toNat / framesPerSecond)).toNat % 2 ^ 30 = id.toNat / framesPerSecond % 2 ^ 30 := by
    rw [BitVec.toNat_ofNat]
    omega
  have frame : (BitVec.ofNat 32 (id.toNat % framesPerSecond)).toNat % 2 ^ 24 = id.toNat % framesPerSecond := by
    have small : id.toNat % framesPerSecond < 62500 := Nat.mod_lt _ (by decide)
    rw [BitVec.toNat_ofNat]
    omega
  rw [setPacketId, set_frame_number_reading, set_seconds_reading, Setter.expected, Setter.expected, Setter.expected,
    seconds, frame]

theorem widened_mask (width : Nat) (v : BitVec width) (fits : width ≤ 32) :
    v.setWidth 32 = v.setWidth 32 &&& BitVec.ofNat 32 (2 ^ width - 1) := by
  have power : 2 ^ width ≤ 2 ^ 32 := Nat.pow_le_pow_right (by decide) fits
  have small : v.toNat < 2 ^ width := v.isLt
  apply BitVec.eq_of_toNat_eq
  rw [masked_value width _ fits, BitVec.toNat_setWidth, Nat.mod_eq_of_lt (show v.toNat < 2 ^ 32 by omega),
    Nat.mod_eq_of_lt small]

theorem set_edv_reading (h : VDIF) (v : Byte) : (h.setEDV v).reading = (Setter.edv v).expected h.reading := by
  have masked : v.setWidth 32 = v.setWidth 32 &&& Field.edv.mask := widened_mask 8 v (by decide)
  have value : (v.setWidth 32 &&& Field.edv.mask).toNat = v.toNat := by
    rw [← masked]
    exact BitVec.toNat_setWidth_of_le (by decide)
  rw [reading_of_raw h, setEDV, masked]
  exact field_setter_reading h .edv 0x00ffffff#32 (v.setWidth 32) (by decide) _ value
    (fun n => { Reading.ofRaw h.raw with edv := n }) fun _ => rfl

theorem set_station_id_reading (h : VDIF) (id : BitVec 16) :
    (h.setStationID id).reading = (Setter.stationID id).expected h.reading := by
  have masked : id.setWidth 32 = id.setWidth 32 &&& Field.stationID.mask := widened_mask 16 id (by decide)
  have value : (id.setWidth 32 &&& Field.stationID.mask).toNat = id.toNat := by
    rw [← masked]
    exact BitVec.toNat_setWidth_of_le (by decide)
  rw [reading_of_raw h, setStationID, masked]
  exact field_setter_reading h .stationID 0xffff0000#32 (id.setWidth 32) (by decide) _ value
    (fun n => { Reading.ofRaw h.raw with stationID := n }) fun _ => rfl

theorem set_complex_reading (h : VDIF) (v : Bool) : (h.setComplex v).reading = (Setter.complex v).expected h.reading := by
  rw [reading_of_raw h]
  exact flag_setter_reading h .complex v rfl (by decide) (fun flag => { Reading.ofRaw h.raw with complex := flag }) fun _ => rfl

theorem set_word_set_word (h : VDIF) (index : Fin 8) (first second : Word) :
    (h.setWord index first).setWord index second = h.setWord index second := by
  rw [setWord, setWord, setWord]
  congr 1
  ext i bound
  simp only [Vector.getElem_set]
  split_ifs <;> rfl

-- bits - 1 is shifted up unmasked: its sixth bit lands on the complex flag and
-- the rest leaves the word.
theorem set_bits_per_sample_eq (h : VDIF) (bits : Byte) :
    h.setBitsPerSample bits =
      if (bits.toNat + 63) % 64 < 32 then
        h.setField 3 (~~~(0x1f#32 <<< 26)) 26 (bits.setWidth 32 - 1#32 &&& 0x1f#32)
      else (h.setField 3 (~~~(0x1f#32 <<< 26)) 26 (bits.setWidth 32 - 1#32 &&& 0x1f#32)).setComplex true := by
  have shifted : ∀ bits : Byte, (bits.setWidth 32 - 1#32) <<< 26 =
      ((bits.setWidth 32 - 1#32 &&& 0x1f#32) <<< 26) |||
        (if (bits.toNat + 63) % 64 < 32 then 0#32 else 1#32 <<< 31) := by decide +kernel
  by_cases contained : (bits.toNat + 63) % 64 < 32
  · have same := shifted bits
    rw [if_pos contained, BitVec.or_zero] at same
    rw [if_pos contained, setBitsPerSample, setField, setField, putBits, putBits, same]
  · have spilled := shifted bits
    rw [if_neg contained] at spilled
    rw [if_neg contained, setComplex, setFlag, if_pos rfl, get_word_set_field_same, setBitsPerSample, setField,
      setField, set_word_set_word, putBits, putBits, spilled, BitVec.or_assoc]

theorem set_bits_contained_reading (h : VDIF) (bits : Byte) :
    (h.setField 3 (~~~(0x1f#32 <<< 26)) 26 (bits.setWidth 32 - 1#32 &&& 0x1f#32)).reading =
      (Setter.bitsPerSample bits).expected h.reading := by
  rw [reading_of_raw h]
  exact (reading_set_field h .bitsPerSample (~~~(0x1f#32 <<< 26)) (bits.setWidth 32 - 1#32) (by decide)).trans
    (congrArg (fun n => { Reading.ofRaw h.raw with bitsPerSample := n }) (bits_value bits))

def Setter.Contained : Setter → Prop
  | .bitsPerSample bits => (bits.toNat + 63) % 64 < 32
  | _ => True

theorem set_bits_per_sample_reading (h : VDIF) (bits : Byte) :
    (h.setBitsPerSample bits).reading = { (Setter.bitsPerSample bits).expected h.reading with
      complex := h.getComplex || decide (32 ≤ (bits.toNat + 63) % 64) } := by
  rw [set_bits_per_sample_eq]
  by_cases contained : (bits.toNat + 63) % 64 < 32
  · rw [if_pos contained, set_bits_contained_reading, decide_eq_false (not_le.mpr contained), Bool.or_false]
    rfl
  · rw [if_neg contained, set_complex_reading, set_bits_contained_reading, decide_eq_true (not_lt.mp contained),
      Bool.or_true]
    rfl

theorem raw_set_extended (h : VDIF) (f : Field) (value : Word) (unshifted : f.shift = 0) (whole : f.mask = 0xffffffff#32)
    (clears : f.OnlyClears 0#32) : (h.setWord f.index value).raw = Function.update h.raw f value := by
  have ones : 0xffffffff#32 = BitVec.allOnes 32 := rfl
  have masked : value &&& f.mask = value := by rw [whole, ones, BitVec.and_allOnes]
  have stored := raw_set_field h f 0#32 value clears
  rw [masked, setField, putBits, unshifted, BitVec.and_zero, BitVec.zero_or, BitVec.shiftLeft_zero] at stored
  exact stored

inductive ExtendedWord : Nat → Field → Prop where
  | word5 : ExtendedWord 5 .extended5
  | word6 : ExtendedWord 6 .extended6
  | word7 : ExtendedWord 7 .extended7

theorem reading_set_extended (h : VDIF) (word : Nat) (f : Field) (value : Word) (named : ExtendedWord word f) :
    (h.setWord f.index value).reading = { h.reading with
      extendedData := Function.update h.reading.extendedData word (.ok value.toNat)
      noiseSourceState := if word = 7 then value.toNat % 2 = 1 else h.getNoiseSourceState } := by
  have low : ((value &&& 1#32) != 0#32) = decide (value.toNat % 2 = 1) := by
    have masked : (value &&& 1#32).toNat = value.toNat % 2 := masked_value 1 value (by decide)
    rw [Bool.eq_iff_iff, bne_iff_ne, ne_eq, ← BitVec.toNat_inj, masked, decide_eq_true_iff]
    change ¬ value.toNat % 2 = 0 ↔ _
    omega
  have extended : extendedOf (Function.update h.raw f value) =
      Function.update (extendedOf h.raw) word (.ok value.toNat) := by
    funext place
    cases named
    all_goals
      simp only [extendedOf, Function.update_apply, reduceCtorEq, if_false, if_true]
      split_ifs <;> first | rfl | omega
  have stored : (h.setWord f.index value).raw = Function.update h.raw f value := by
    cases named
    all_goals exact raw_set_extended h _ value rfl rfl (by decide)
  have noise : h.getNoiseSourceState = (Reading.ofRaw h.raw).noiseSourceState :=
    congrArg Reading.noiseSourceState (reading_of_raw h)
  rw [reading_of_raw, stored, noise, reading_of_raw h]
  cases named with
  | word5 => exact Reading.ext rfl rfl rfl rfl rfl rfl rfl rfl rfl rfl rfl rfl rfl rfl extended rfl
  | word6 => exact Reading.ext rfl rfl rfl rfl rfl rfl rfl rfl rfl rfl rfl rfl rfl rfl extended rfl
  | word7 => exact Reading.ext rfl rfl rfl rfl rfl rfl rfl rfl rfl rfl rfl rfl rfl rfl extended low

theorem set_extended_data_reading (h stored : VDIF) (word : BitVec 64) (value : Word)
    (done : h.setExtendedData word.toNat value = .ok stored) :
    stored.reading = (Setter.extendedData word value).expected h.reading := by
  rw [setExtendedData] at done
  by_cases outside : word.toNat < 5 ∨ 7 < word.toNat
  · rw [dif_pos outside] at done
    cases done
  · rw [dif_neg outside] at done
    cases done
    rw [Setter.expected]
    generalize word.toNat = place at outside
    rcases (show place = 5 ∨ place = 6 ∨ place = 7 by omega) with rfl | rfl | rfl
    · exact reading_set_extended h 5 .extended5 value .word5
    · exact reading_set_extended h 6 .extended6 value .word6
    · exact reading_set_extended h 7 .extended7 value .word7

theorem flag_word_value (w : Word) (on : Bool) :
    (if on then w ||| (1#32 <<< 0) else w &&& ~~~(1#32 <<< 0)).toNat = w.toNat / 2 * 2 + on.toNat := by
  have small : w.toNat < 2 ^ 32 := w.isLt
  have cleared : w &&& ~~~1#32 = (w >>> 1) <<< 1 := by
    apply BitVec.eq_of_getLsbD_eq
    intro i bound
    rcases i with _ | i
    · simp
    · have zero : (1#32).getLsbD (i + 1) = false := by simp
      rw [BitVec.getLsbD_and, BitVec.getLsbD_not, zero]
      simp [bound, Nat.add_comm 1 i]
  have value : (w &&& ~~~1#32).toNat = w.toNat / 2 * 2 := by
    rw [cleared, BitVec.toNat_shiftLeft, BitVec.toNat_ushiftRight, Nat.shiftLeft_eq, Nat.shiftRight_eq_div_pow]
    omega
  rw [BitVec.shiftLeft_zero]
  cases on with
  | false => exact value
  | true =>
      have apart : (w &&& ~~~1#32) &&& 1#32 = 0#32 := by
        rw [BitVec.and_assoc]
        exact BitVec.and_zero
      rw [if_pos rfl, ← clear_then_or, ← BitVec.add_eq_or_of_and_eq_zero _ _ apart, BitVec.toNat_add, value]
      change (w.toNat / 2 * 2 + 1) % 2 ^ 32 = w.toNat / 2 * 2 + 1
      omega

theorem set_noise_source_state_reading (h : VDIF) (on : Bool) :
    (h.setNoiseSourceState on).reading = (Setter.noiseSourceState on).expected h.reading := by
  have word : h.reading.extendedData 7 = .ok (h.getWord 7).toNat := rfl
  have parity : decide (((h.getWord 7).toNat / 2 * 2 + on.toNat) % 2 = 1) = on := by
    cases on with
    | false => exact decide_eq_false (by rw [Bool.toNat_false]; omega)
    | true => exact decide_eq_true (by rw [Bool.toNat_true]; omega)
  have stored := reading_set_extended h 7 .extended7
    (if on then h.getWord 7 ||| (1#32 <<< 0) else h.getWord 7 &&& ~~~(1#32 <<< 0)) .word7
  rw [flag_word_value, if_pos rfl, parity] at stored
  change (h.setFlag 7 0 on).reading = _ at stored
  rw [setNoiseSourceState, set_edv_reading, stored, Setter.expected, Setter.expected, word]
  rfl

theorem setter_reading (h stored : VDIF) (s : Setter) (done : s.apply h = .ok stored) (contained : s.Contained) :
    stored.reading = s.expected h.reading := by
  cases s with
  | packetId id =>
      cases done
      exact set_packet_id_reading h id
  | secondsFromEpoch sec =>
      cases done
      exact set_seconds_reading h sec
  | invalid v =>
      cases done
      rw [reading_of_raw h]
      exact flag_setter_reading h .invalid v rfl (by decide) (fun flag => { Reading.ofRaw h.raw with invalid := flag }) fun _ => rfl
  | legacy v =>
      cases done
      rw [reading_of_raw h]
      exact flag_setter_reading h .legacy v rfl (by decide) (fun flag => { Reading.ofRaw h.raw with legacy := flag }) fun _ => rfl
  | frameNumber n =>
      cases done
      exact set_frame_number_reading h n
  | referenceEpoch e =>
      cases done
      have value : (e.setWidth 32 &&& Field.referenceEpoch.mask).toNat = e.toNat % 2 ^ 6 :=
        widened_value 8 6 e (by decide) (by decide)
      rw [reading_of_raw h]
      exact field_setter_reading h .referenceEpoch 0x00ffffff#32 (e.setWidth 32) (by decide) _ value
        (fun n => { Reading.ofRaw h.raw with referenceEpoch := n }) fun _ => rfl
  | vdifVersion v =>
      cases done
      have value : (v.setWidth 32 &&& Field.vdifVersion.mask).toNat = v.toNat % 2 ^ 3 :=
        widened_value 8 3 v (by decide) (by decide)
      rw [reading_of_raw h]
      exact field_setter_reading h .vdifVersion (~~~(0x7#32 <<< 29)) (v.setWidth 32) (by decide) _ value
        (fun n => { Reading.ofRaw h.raw with vdifVersion := n }) fun _ => rfl
  | log2Channels v =>
      cases done
      have value : (v.setWidth 32 &&& Field.log2Channels.mask).toNat = v.toNat % 2 ^ 5 :=
        widened_value 8 5 v (by decide) (by decide)
      rw [reading_of_raw h]
      exact field_setter_reading h .log2Channels (~~~(0x1f#32 <<< 24)) (v.setWidth 32) (by decide) _ value
        (fun n => { Reading.ofRaw h.raw with log2Channels := n }) fun _ => rfl
  | frameLength bytes =>
      cases done
      rw [reading_of_raw h]
      exact (reading_set_field h .frameLength 0xff000000#32 (bytes / 8#32) (by decide)).trans
        (congrArg (fun n => { Reading.ofRaw h.raw with frameLength := n }) (frame_length_value bytes))
  | complex v =>
      cases done
      exact set_complex_reading h v
  | bitsPerSample bits =>
      cases done
      have kept : decide (32 ≤ (bits.toNat + 63) % 64) = false := decide_eq_false (not_le.mpr contained)
      rw [set_bits_per_sample_reading, kept, Bool.or_false]
      rfl
  | threadID id =>
      cases done
      have value : (id.setWidth 32 &&& Field.threadID.mask).toNat = id.toNat % 2 ^ 10 :=
        widened_value 16 10 id (by decide) (by decide)
      rw [reading_of_raw h]
      exact field_setter_reading h .threadID (~~~(0x3ff#32 <<< 16)) (id.setWidth 32) (by decide) _ value
        (fun n => { Reading.ofRaw h.raw with threadID := n }) fun _ => rfl
  | stationID id =>
      cases done
      exact set_station_id_reading h id
  | edv v =>
      cases done
      exact set_edv_reading h v
  | extendedUserData v =>
      cases done
      have value : (v &&& Field.extendedUserData.mask).toNat = v.toNat % 2 ^ 24 := masked_value 24 v (by decide)
      rw [reading_of_raw h]
      exact field_setter_reading h .extendedUserData 0xff000000#32 v (by decide) _ value
        (fun n => { Reading.ofRaw h.raw with extendedUserData := n }) fun _ => rfl
  | extendedData word value => exact set_extended_data_reading h stored word value done
  | noiseSourceState on =>
      cases done
      exact set_noise_source_state_reading h on

theorem setter_error (h : VDIF) (s : Setter) (text : String) (failed : s.apply h = .error text) :
    text = "extended word" ∧ ∃ word value, s = .extendedData word value ∧ (word.toNat < 5 ∨ 7 < word.toNat) := by
  cases s with
  | extendedData word value =>
      change h.setExtendedData word.toNat value = .error text at failed
      rw [setExtendedData] at failed
      by_cases outside : word.toNat < 5 ∨ 7 < word.toNat
      · rw [dif_pos outside] at failed
        exact ⟨(Except.error.inj failed).symm, word, value, rfl, outside⟩
      · rw [dif_neg outside] at failed
        cases failed
  | _ => cases failed

theorem setter_word (h stored : VDIF) (s : Setter) (done : s.apply h = .ok stored) (index : Fin 8)
    (outside : index.val ∉ s.words) : stored.getWord index = h.getWord index := by
  have other : ∀ place : Fin 8, place.val ∈ s.words → index ≠ place := by
    intro place touched same
    exact outside (same ▸ touched)
  cases s with
  | packetId id =>
      cases done
      exact set_packet_id_word h id.toNat index (other 0 List.mem_cons_self) (other 1 (List.mem_cons_of_mem _ List.mem_cons_self))
  | extendedData word value =>
      change h.setExtendedData word.toNat value = .ok stored at done
      rw [setExtendedData] at done
      by_cases range : word.toNat < 5 ∨ 7 < word.toNat
      · rw [dif_pos range] at done
        cases done
      · rw [dif_neg range] at done
        cases done
        exact get_word_set_other h _ index value (other _ List.mem_cons_self)
  | noiseSourceState on =>
      cases done
      rw [setNoiseSourceState, setEDV, get_word_set_field_other _ _ _ _ _ _ (other 4 List.mem_cons_self),
        get_word_set_flag_other _ _ _ _ _ (other 7 (List.mem_cons_of_mem _ List.mem_cons_self))]
  | invalid v | legacy v =>
      cases done
      exact get_word_set_flag_other h 0 index _ _ (other 0 List.mem_cons_self)
  | complex v =>
      cases done
      exact get_word_set_flag_other h 3 index _ _ (other 3 List.mem_cons_self)
  | secondsFromEpoch v =>
      cases done
      exact get_word_set_field_other h 0 index _ _ _ (other 0 List.mem_cons_self)
  | frameNumber v | referenceEpoch v =>
      cases done
      exact get_word_set_field_other h 1 index _ _ _ (other 1 List.mem_cons_self)
  | vdifVersion v | log2Channels v | frameLength v =>
      cases done
      exact get_word_set_field_other h 2 index _ _ _ (other 2 List.mem_cons_self)
  | bitsPerSample v | threadID v | stationID v =>
      cases done
      exact get_word_set_field_other h 3 index _ _ _ (other 3 List.mem_cons_self)
  | edv v | extendedUserData v =>
      cases done
      exact get_word_set_field_other h 4 index _ _ _ (other 4 List.mem_cons_self)

-- Every setter throws on the same condition as its own check, and otherwise
-- reaches no getter but its own, EDV and the noise bit of the last word apart;
-- the complex flag is left open where the bit width spills into it.
theorem header_codec (h : VDIF) :
    (∀ s : Setter, (∀ text, s.apply h = .error text → text = "extended word" ∧
        ∃ word value, s = .extendedData word value ∧ (word.toNat < 5 ∨ 7 < word.toNat)) ∧
      ∀ stored, s.apply h = .ok stored →
        (s.Contained → stored.reading = s.expected h.reading) ∧
        { stored.reading with complex := false } = { s.expected h.reading with complex := false } ∧
        ∀ index : Fin 8, index.val ∉ s.words → stored.getWord index = h.getWord index) ∧
    (∀ (index other : Fin 8) (value : Word), (h.setWord index value).getWord index = value ∧
      (other ≠ index → (h.setWord index value).getWord other = h.getWord other)) ∧
    ∀ (id : Nat) (readNoiseSource : Bool), id < 2 ^ 30 * framesPerSecond →
      (readMetadata (h.setPacketId id) readNoiseSource).packetId = id ∧
      (readMetadata (h.setPacketId id) readNoiseSource).frameNumber.toNat < framesPerSecond := by
  have setters : ∀ (s : Setter) (stored : VDIF), s.apply h = .ok stored →
      { stored.reading with complex := false } = { s.expected h.reading with complex := false } := by
    intro s stored done
    by_cases contained : s.Contained
    · rw [setter_reading h stored s done contained]
    · cases s with
      | bitsPerSample bits =>
          cases done
          rw [set_bits_per_sample_reading]
      | _ => exact absurd trivial contained
  refine ⟨fun s => ⟨fun text failed => setter_error h s text failed, fun stored done =>
    ⟨setter_reading h stored s done, setters s stored done, setter_word h stored s done⟩⟩, ?_, ?_⟩
  · intro index other value
    exact ⟨get_word_set_same h index value, get_word_set_other h index other value⟩
  · intro id readNoiseSource fits
    have frame : (readMetadata (h.setPacketId id) readNoiseSource).frameNumber = (h.setPacketId id).getFrameNumber := by
      simp [readMetadata, getFrameNumber, getBits]
    rw [read_metadata_packet_id, frame, set_packet_id_round_trip h id fits, set_packet_id_frame]
    exact ⟨rfl, Nat.mod_lt id (by decide)⟩

-- The word that holds the noise bit is also readable and writable as data.
theorem extended_word_sets_noise : ∃ stored, zero.setExtendedData 7 1#32 = .ok stored ∧
    zero.getNoiseSourceState = false ∧ stored.getNoiseSourceState = true :=
  ⟨zero.setWord 7 1#32, by rfl, by decide, by decide⟩

end VDIF

end SpectralLine
