import SpectralLine.Vdif

set_option autoImplicit false

namespace SpectralLine

-- baseband_quantize: every loop rewrites `buf` in place and stops at `bytes`.
def quantize8ScalarFrom (bytes i : Nat) (buf : List Byte) : List Byte :=
  if i + 1 < bytes then
    let q := buf.getD i 0
    let inPhase := buf.getD (i + 1) 0
    quantize8ScalarFrom bytes (i + 2) ((buf.set i (inPhase ^^^ 0x80)).set (i + 1) (q ^^^ 0x80))
  else if i < bytes then buf.set i (buf.getD i 0 ^^^ 0x80)
  else buf
termination_by bytes - i

def quantize8Scalar (buf : List Byte) (bytes : Nat) : List Byte := quantize8ScalarFrom bytes 0 buf

def quantize4ScalarFrom (bytes input output : Nat) (buf : List Byte) : List Byte :=
  if input + 1 < bytes then
    quantize4ScalarFrom bytes (input + 2) (output + 1)
      (buf.set output (((buf.getD (input + 1) 0 ^^^ 0x80) >>> 4) ||| ((buf.getD input 0 ^^^ 0x80) &&& 0xf0)))
  else buf
termination_by bytes - input

def quantize4Scalar (buf : List Byte) (bytes : Nat) : List Byte := quantize4ScalarFrom bytes 0 0 buf

-- One operation on each 16-bit lane of a vector register; memory order is
-- little endian, so the even byte is the low half of its lane.
def mapLanes (f : BitVec 16 → BitVec 16) : List Byte → List Byte
  | low :: high :: rest =>
      (f (high ++ low)).setWidth 8 :: ((f (high ++ low)) >>> 8).setWidth 8 :: mapLanes f rest
  | short => short

def storeAt (buf : List Byte) (start : Nat) (chunk : List Byte) : List Byte :=
  buf.take start ++ chunk ++ buf.drop (start + chunk.length)

def quantize8Avx512From (bytes i : Nat) (buf : List Byte) : List Byte :=
  if i + 64 ≤ bytes then
    let samples := (buf.drop i).take 64
    let iq := mapLanes (fun lane => (lane <<< 8) ||| (lane >>> 8)) samples
    quantize8Avx512From bytes (i + 64) (storeAt buf i (iq.map (· ^^^ 0x80)))
  else buf.take i ++ quantize8Scalar (buf.drop i) (bytes - i)
termination_by bytes - i

def quantize8Avx512 (buf : List Byte) (bytes : Nat) : List Byte := quantize8Avx512From bytes 0 buf

def packNibbles (nibbles : List Byte) : List Byte :=
  (List.range 32).foldl (fun buf k => buf.set k (buf.getD (2 * k + 1) 0 ||| (buf.getD (2 * k) 0 <<< 4))) nibbles

def quantize4Avx512From (bytes input output : Nat) (buf : List Byte) : List Byte :=
  if input + 64 ≤ bytes then
    let samples := ((buf.drop input).take 64).map (· ^^^ 0x80)
    let quantized := (mapLanes (fun lane => lane.sshiftRight 4) samples).map (· &&& 0x0f)
    quantize4Avx512From bytes (input + 64) (output + 32) (storeAt buf output ((packNibbles quantized).take 32))
  else quantize4ScalarFrom bytes input output buf
termination_by bytes - input

def quantize4Avx512 (buf : List Byte) (bytes : Nat) : List Byte := quantize4Avx512From bytes 0 0 buf

def quantize8 (avx512 : Bool) (buf : List Byte) (bytes : Nat) : List Byte :=
  if avx512 then quantize8Avx512 buf bytes else quantize8Scalar buf bytes

def quantize4 (avx512 : Bool) (buf : List Byte) (bytes : Nat) : List Byte :=
  if avx512 then quantize4Avx512 buf bytes else quantize4Scalar buf bytes

def quantize2From (bytes input output : Nat) (buf : List Byte) : List Byte :=
  if input + 3 < bytes then
    let q0 := (buf.getD input 0 ^^^ 0x80) >>> 6
    let i0 := (buf.getD (input + 1) 0 ^^^ 0x80) >>> 6
    let q1 := (buf.getD (input + 2) 0 ^^^ 0x80) >>> 6
    let i1 := (buf.getD (input + 3) 0 ^^^ 0x80) >>> 6
    quantize2From bytes (input + 4) (output + 1) (buf.set output (i0 ||| (q0 <<< 2) ||| (i1 <<< 4) ||| (q1 <<< 6)))
  else buf
termination_by bytes - input

def quantize2 (buf : List Byte) (bytes : Nat) : List Byte := quantize2From bytes 0 0 buf

theorem quantize8_scalar_length (bytes i : Nat) (buf : List Byte) :
    (quantize8ScalarFrom bytes i buf).length = buf.length := by
  fun_induction quantize8ScalarFrom bytes i buf with
  | case1 i buf more q inPhase ih => simpa using ih
  | case2 i buf done odd => exact List.length_set
  | case3 i buf done even => rfl

theorem quantize4_scalar_length (bytes input output : Nat) (buf : List Byte) :
    (quantize4ScalarFrom bytes input output buf).length = buf.length := by
  fun_induction quantize4ScalarFrom bytes input output buf with
  | case1 input output buf more ih => simpa using ih
  | case2 input output buf done => rfl

theorem quantize2_length (bytes input output : Nat) (buf : List Byte) :
    (quantize2From bytes input output buf).length = buf.length := by
  fun_induction quantize2From bytes input output buf with
  | case1 input output buf more q0 i0 q1 i1 ih => simpa using ih
  | case2 input output buf done => rfl

theorem map_lanes_length (f : BitVec 16 → BitVec 16) (bytes : List Byte) : (mapLanes f bytes).length = bytes.length := by
  fun_induction mapLanes f bytes with
  | case1 low high rest ih => simp [ih]
  | case2 short notPair => rfl

theorem store_at_length (buf chunk : List Byte) (start : Nat) (inside : start + chunk.length ≤ buf.length) :
    (storeAt buf start chunk).length = buf.length := by
  simp only [storeAt, List.length_append, List.length_take, List.length_drop]
  omega

theorem quantize8_avx512_length (bytes i : Nat) (buf : List Byte) (inside : bytes ≤ buf.length) :
    (quantize8Avx512From bytes i buf).length = buf.length := by
  fun_induction quantize8Avx512From bytes i buf with
  | case1 i buf more samples iq ih =>
      have chunk : (iq.map (· ^^^ 0x80)).length = 64 := by
        simp only [iq, samples, List.length_map, map_lanes_length, List.length_take, List.length_drop]
        omega
      have stored := store_at_length buf (iq.map (· ^^^ 0x80)) i (by omega)
      rw [ih (by omega), stored]
  | case2 i buf done =>
      rw [List.length_append, quantize8Scalar, quantize8_scalar_length, ← List.length_append, List.take_append_drop]

theorem quantize4_avx512_length (bytes input output : Nat) (buf : List Byte) (behind : output ≤ input)
    (inside : bytes ≤ buf.length) : (quantize4Avx512From bytes input output buf).length = buf.length := by
  fun_induction quantize4Avx512From bytes input output buf with
  | case1 input output buf more samples quantized ih =>
      have chunk : ((packNibbles quantized).take 32).length ≤ 32 := List.length_take_le 32 _
      have stored := store_at_length buf ((packNibbles quantized).take 32) output (by omega)
      rw [ih (by omega) (by omega), stored]
  | case2 input output buf done => exact quantize4_scalar_length bytes input output buf

-- The call recoder makes for one payload of a given component width.
def quantize (bits : Byte) (avx512 : Bool) (buf : List Byte) (bytes : Nat) : List Byte :=
  if bits = 8 then quantize8 avx512 buf bytes
  else if bits = 4 then quantize4 avx512 buf bytes
  else quantize2 buf bytes

theorem quantize_length (bits : Byte) (avx512 : Bool) (buf : List Byte) :
    (quantize bits avx512 buf buf.length).length = buf.length := by
  unfold quantize quantize8 quantize4
  split
  · split
    · exact quantize8_avx512_length buf.length 0 buf (Nat.le_refl _)
    · exact quantize8_scalar_length buf.length 0 buf
  · split
    · split
      · exact quantize4_avx512_length buf.length 0 0 buf (Nat.le_refl _) (Nat.le_refl _)
      · exact quantize4_scalar_length buf.length 0 0 buf
    · exact quantize2_length buf.length 0 0 buf

end SpectralLine
