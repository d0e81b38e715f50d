import SpectralLine.Vdif
import SpectralLine.Lib.Packed
import SpectralLine.Lib.Crc

set_option autoImplicit false

namespace SpectralLine

open Packed

def spectrumTransportMagic : BitVec 32 := 0x534C5A31
def spectrumTransportVersion : BitVec 16 := 1

structure SpectrumTransportHeader where
  magic : BitVec 32 := spectrumTransportMagic
  version : BitVec 16 := spectrumTransportVersion
  serverId : BitVec 16 := 0
  sequence : BitVec 64 := 0
  messageBytes : BitVec 32 := 0
  crc32c : BitVec 32 := 0
deriving DecidableEq, Repr

namespace SpectrumTransportHeader

-- The members as the packed struct lays them out on a little-endian host.
def fields (header : SpectrumTransportHeader) : List Field :=
  [⟨4, header.magic⟩, ⟨2, header.version⟩, ⟨2, header.serverId⟩, ⟨8, header.sequence⟩, ⟨4, header.messageBytes⟩,
    ⟨4, header.crc32c⟩]

def bytes (header : SpectrumTransportHeader) : List Byte := pack header.fields

@[simp] theorem bytes_length (header : SpectrumTransportHeader) : header.bytes.length = 24 := pack_length _

end SpectrumTransportHeader

def crcTableEntry (i : Fin 256) : Word :=
  (List.range 8).foldl (fun crc _ => (crc >>> 1) ^^^ (if crc &&& 1 = 1 then 0x82F63B78 else 0)) (BitVec.ofNat 32 i.val)

def crcTable : Vector Word 256 := Vector.ofFn crcTableEntry

theorem and_below {w : Nat} (value mask : BitVec w) (limit : Nat) (small : mask.toNat < limit) :
    (value &&& mask).toNat < limit := by
  rw [BitVec.toNat_and]
  exact Nat.lt_of_le_of_lt Nat.and_le_right small

def crcIndex (crc : Word) (byte : Byte) : Fin 256 :=
  ⟨((crc ^^^ byte.setWidth 32) &&& 0xff).toNat, and_below _ 0xff 256 (by decide)⟩

def spectrumCrc32c (data : List Byte) : Word :=
  ~~~ (data.foldl (fun crc byte => crcTable.get (crcIndex crc byte) ^^^ (crc >>> 8)) 0xffffffff)

def castagnoli : Word := 0x82F63B78

theorem low_bit_test (crc : Word) : (crc &&& 1 = 1) ↔ crc.getLsbD 0 = true := by
  have masked : crc &&& 1 = (BitVec.ofBool (crc.getLsbD 0)).setWidth 32 := BitVec.and_one_eq_setWidth_ofBool_getLsbD
  rw [masked]
  cases crc.getLsbD 0 <;> decide

theorem crc_loop_step (crc : Word) :
    (crc >>> 1) ^^^ (if crc &&& 1 = 1 then 0x82F63B78 else 0) = Crc.bitStep castagnoli crc := by
  rw [Crc.bitStep, if_congr (low_bit_test crc) rfl rfl]
  rfl

theorem crc_table_entry (i : Fin 256) : crcTableEntry i = Crc.steps castagnoli 8 (BitVec.ofNat 32 i.val) := by
  simp only [crcTableEntry, crc_loop_step]
  rfl

theorem low_byte (value : Word) : value &&& 0xff = (value.setWidth 8).setWidth 32 := by
  have masked := BitVec.and_setWidth_allOnes 24 8 value
  have widened : (value.setWidth 8).setWidth 32 = 0#24 ++ value.setWidth 8 := BitVec.setWidth_eq_append (by decide)
  rw [widened]
  exact masked

theorem crc_index_value (crc : Word) (byte : Byte) :
    BitVec.ofNat 32 (crcIndex crc byte).val = ((crc ^^^ byte.setWidth 32).setWidth 8).setWidth 32 := by
  have value : (crcIndex crc byte).val = ((crc ^^^ byte.setWidth 32) &&& 0xff).toNat := rfl
  rw [value, low_byte, BitVec.ofNat_toNat, BitVec.setWidth_eq]

theorem crc_loop_entry (crc : Word) (byte : Byte) :
    crcTable.get (crcIndex crc byte) ^^^ (crc >>> 8) = Crc.tableStep castagnoli crc byte := by
  have entry : crcTable.get (crcIndex crc byte) = crcTableEntry (crcIndex crc byte) := Vector.getElem_ofFn _
  rw [entry, crc_table_entry, crc_index_value, Crc.tableStep, Crc.tableEntry]

-- The register of the loop, from any start.
theorem crc_register (data : List Byte) (crc : Word) :
    data.foldl (fun crc byte => crcTable.get (crcIndex crc byte) ^^^ (crc >>> 8)) crc = Crc.serial castagnoli crc data := by
  rw [← Crc.table_serial castagnoli (by decide)]
  simp only [crc_loop_entry]

-- The documented checksum: CRC-32C of the bytes, fed bit by bit.
def documentedCrc32c (data : List Byte) : Word := ~~~ (Crc.serial castagnoli 0xffffffff data)

theorem crc32c_documented (data : List Byte) : spectrumCrc32c data = documentedCrc32c data := by
  rw [spectrumCrc32c, documentedCrc32c, crc_register]

example : spectrumCrc32c ("123456789".toList.map fun c => BitVec.ofNat 8 c.toNat) = 0xE3069283 := by decide +kernel

end SpectralLine
