import SpectralLine.SdfitsHeader
import SpectralLine.MetadataErrors
import SpectralLine.Lib.RowMajor

set_option autoImplicit false

namespace SpectralLine

open StatusCalls

-- A binary table as astropy shows it: header.get and the column names.
structure BinTableHdu (F : Type) where
  header : String → Option (FitsValue F)
  names : List String

def isDigitByte (b : Byte) : Bool := 0x30 ≤ b.toNat && b.toNat ≤ 0x39

def digitsValue (bytes : List Byte) : Nat := bytes.foldl (fun value b => 10 * value + (b.toNat - 0x30)) 0

def decimalText (bytes : List Byte) : Option Nat := if bytes ≠ [] ∧ bytes.all isDigitByte = true then some (digitsValue bytes) else none

def signedText (natural : List Byte → Option Nat) (bytes : List Byte) : Option Int :=
  if bytes.head? = some 0x2d then (natural bytes.tail).map fun n => -(n : Int) else (natural bytes).map Int.ofNat

-- A Python literal has no leading zeroes.
def decimalLiteral (bytes : List Byte) : Option Nat :=
  if bytes.head? = some 0x30 ∧ bytes.any (· ≠ 0x30) = true then none else decimalText bytes

def tupleItems : List (List Byte) → Option (List Int)
  | [] => some []
  | [[]] => some []
  | [_] => none
  | pieces => (if pieces.getLast? = some [] then pieces.dropLast else pieces).mapM (signedText decimalLiteral)

-- Of the literals that literal_eval takes, the tuples of integers.
def literalTuple (bytes : List Byte) : Option (List Int) :=
  if bytes.head? = some 0x28 ∧ bytes.getLast? = some 0x29 then tupleItems (bytes.tail.dropLast.splitOn 0x2c) else none

def parseTdim {F : Type} : Option (FitsValue F) → Option (List Int)
  | some (.text bytes) => literalTuple bytes
  | _ => none

def stripBlanks (bytes : List Byte) : List Byte := ((bytes.dropWhile (· = 0x20)).reverse.dropWhile (· = 0x20)).reverse

def bytesString (bytes : List Byte) : String := String.ofList (bytes.map fun b => Char.ofNat b.toNat)

section

-- int() of a float
variable {F : Type} (truncate : F → Except String Int)

def pythonInt : FitsValue F → Except String Int
  | .integer value => .ok value
  | .real value => truncate value
  | .text bytes =>
      match signedText decimalText (stripBlanks bytes) with
      | some value => .ok value
      | none => .error ("invalid literal for int() with base 10: '" ++ bytesString bytes ++ "'")
  | _ => .error "int() argument must be a string, a bytes-like object or a real number"

def columnTdim (hdu : BinTableHdu F) : Except String (Option (FitsValue F)) :=
  let names := hdu.names.map String.toUpper
  if "DATA" ∈ names then .ok (hdu.header ("TDIM" ++ toString (names.idxOf "DATA" + 1))) else .error "'DATA' is not in list"

def tdimDimensions (hdu : BinTableHdu F) : Except String (Int × Int × Int) := do
  let value ← columnTdim hdu
  match parseTdim value with
  | some (nchan :: nsub :: npol :: _) => return (nchan, nsub, npol)
  | _ => .error "Cannot determine NCHAN/NSUBBAND/NPOL from the DATA-column header"

def headerDimensions (hdu : BinTableHdu F) : Except String (Int × Int × Int) :=
  match hdu.header "NCHAN", hdu.header "NSUBBAND", hdu.header "NPOL" with
  | some nchan, some nsub, some npol => do return (← pythonInt truncate nchan, ← pythonInt truncate nsub, ← pythonInt truncate npol)
  | _, _, _ => tdimDimensions hdu

def positiveDimensions (nchan nsub npol : Int) : Except String (Nat × Nat × Nat) :=
  if min nchan (min nsub npol) ≤ 0 then
    .error ("Invalid spectral dimensions: NCHAN=" ++ toString nchan ++ ", NSUBBAND=" ++ toString nsub ++ ", NPOL=" ++ toString npol)
  else .ok (nchan.toNat, nsub.toNat, npol.toNat)

def spectralDimensions (hdu : BinTableHdu F) : Except String (Nat × Nat × Nat) := do
  let (nchan, nsub, npol) ← headerDimensions truncate hdu
  positiveDimensions nchan nsub npol

end

def extractProjectLayout {A : Type} (row : List A) (nchan nsub npol sbIndex : Nat) : Except String (List (List A)) :=
  let expected := nchan * nsub * npol
  if row.length ≠ expected then
    .error ("DATA row has " ++ toString row.length ++ " values; expected exactly " ++ toString expected)
  else if sbIndex < nsub then .ok ((RowMajor.cube nchan nsub npol row).map fun plane => plane.getD sbIndex [])
  else .error ("index " ++ toString sbIndex ++ " is out of bounds for axis 1 with size " ++ toString nsub)

def digitByte (c : Char) : Byte := BitVec.ofNat 8 c.toNat

theorem is_digit_range (c : Char) (digit : c.isDigit = true) : 0x30 ≤ c.toNat ∧ c.toNat ≤ 0x39 := by
  simpa [Char.isDigit, UInt32.le_iff_toNat_le] using digit

theorem digit_byte_value (c : Char) (digit : c.isDigit = true) : (digitByte c).toNat = c.toNat := by
  have range := is_digit_range c digit
  exact Nat.mod_eq_of_lt (by omega)

theorem digits_value_chars (digits : List Char) (all : ∀ c ∈ digits, c.isDigit = true) :
    digitsValue (digits.map digitByte) = Nat.ofDigitChars 10 digits 0 := by
  rw [digitsValue, List.foldl_map, Nat.ofDigitChars_eq_foldl]
  refine List.foldl_ext _ _ 0 fun value c member => ?_
  rw [digit_byte_value c (all c member)]
  rfl

theorem padded_digits (n : Nat) : padded 1 n = (Nat.toDigits 10 n).map digitByte := by
  have filled : 1 - ((Nat.toDigits 10 n).map digitByte).length = 0 := by
    have some_ : 0 < (Nat.toDigits 10 n).length := Nat.length_toDigits_pos
    rw [List.length_map]
    omega
  show List.replicate (1 - ((Nat.toDigits 10 n).map digitByte).length) 0x30 ++ (Nat.toDigits 10 n).map digitByte = _
  rw [filled]
  rfl

theorem padded_all_digits (n : Nat) (b : Byte) (member : b ∈ padded 1 n) : isDigitByte b = true := by
  rw [padded_digits] at member
  obtain ⟨c, inDigits, rfl⟩ := List.mem_map.mp member
  have digit := Nat.isDigit_of_mem_toDigits (by decide) (by decide) inDigits
  have range := is_digit_range c digit
  simp only [isDigitByte, digit_byte_value c digit, Bool.and_eq_true, decide_eq_true_eq]
  exact range

theorem decimal_text_padded (n : Nat) : decimalText (padded 1 n) = some n := by
  have nonempty : padded 1 n ≠ [] := by
    rw [padded_digits]
    exact fun empty => Nat.toDigits_ne_nil (List.map_eq_nil_iff.mp empty)
  rw [decimalText, if_pos ⟨nonempty, List.all_eq_true.mpr (padded_all_digits n)⟩, padded_digits, digits_value_chars _ fun c member =>
    Nat.isDigit_of_mem_toDigits (by decide) (by decide) member, Nat.ofDigitChars_ten_toDigits]

theorem to_digits_head (n : Nat) (positive : 0 < n) : (Nat.toDigits 10 n).head? ≠ some '0' := by
  induction n using Nat.strongRecOn with
  | _ n ih =>
      by_cases small : n < 10
      · rw [Nat.toDigits_of_lt_base small]
        intro zero
        have value := congrArg Char.toNat (Option.some.inj zero)
        rw [Nat.toNat_digitChar_of_lt_ten small] at value
        have code : '0'.toNat = 48 := rfl
        omega
      · have long : 10 ≤ n := Nat.not_lt.mp small
        rw [Nat.toDigits_of_base_le (by decide) long, List.head?_append_of_ne_nil _ Nat.toDigits_ne_nil]
        exact ih (n / 10) (by omega) (by omega)

theorem padded_head (n : Nat) (positive : 0 < n) : (padded 1 n).head? ≠ some 0x30 := by
  intro zero
  rw [padded_digits, List.head?_map] at zero
  obtain ⟨c, first, byte⟩ := Option.map_eq_some_iff.mp zero
  have digit := Nat.isDigit_of_mem_toDigits (by decide) (by decide) (List.mem_of_head? first)
  refine to_digits_head n positive (first.trans (congrArg some (Char.toNat_inj.mp ?_)))
  rw [← digit_byte_value c digit, byte]
  rfl

theorem padded_unsigned (n : Nat) : (padded 1 n).head? ≠ some 0x2d := by
  intro minus
  exact absurd (padded_all_digits n _ (List.mem_of_head? minus)) (by decide)

theorem padded_literal (n : Nat) (positive : 0 < n) : signedText decimalLiteral (padded 1 n) = some n := by
  rw [signedText, if_neg (padded_unsigned n), decimalLiteral, if_neg fun both => padded_head n positive both.1, decimal_text_padded]
  rfl

theorem decimal_int_positive (value : Int) (positive : 0 < value) : decimalInt value = padded 1 value.toNat := by
  rw [decimalInt, if_neg (Int.not_lt.mpr (Int.le_of_lt positive))]
  congr 1
  omega

theorem decimal_int_literal (value : Int) (positive : 0 < value) : signedText decimalLiteral (decimalInt value) = some value := by
  rw [decimal_int_positive value positive, padded_literal _ (by omega)]
  exact congrArg some (Int.toNat_of_nonneg (Int.le_of_lt positive))

theorem decimal_int_commaless (value : Int) (positive : 0 < value) : (0x2c : Byte) ∉ decimalInt value := by
  intro comma
  rw [decimal_int_positive value positive] at comma
  exact absurd (padded_all_digits _ _ comma) (by decide)

section

variable {F : Type} (hdr : HdrInfo F)

def tdimPieces : List (List Byte) := [decimalInt hdr.npol, decimalInt hdr.nsubband, decimalInt hdr.nchan, [0x31], [0x31]]

theorem tdim_value_pieces : tdimValue hdr = 0x28 :: ([0x2c].intercalate (tdimPieces hdr) ++ [0x29]) := by
  have opening : stringBytes "(" = [0x28] := by decide +kernel
  have comma : stringBytes "," = [0x2c] := by decide +kernel
  have ending : stringBytes ",1,1)" = [0x2c, 0x31, 0x2c, 0x31, 0x29] := by decide +kernel
  simp [tdimValue, tdimPieces, List.intercalate, opening, comma, ending]

theorem parse_tdim_written (npolPos : 0 < hdr.npol) (nsubbandPos : 0 < hdr.nsubband) (nchanPos : 0 < hdr.nchan) :
    parseTdim (some (.text (tdimValue hdr)) : Option (FitsValue F)) = some [hdr.npol, hdr.nsubband, hdr.nchan, 1, 1] := by
  have commaless : ∀ piece ∈ tdimPieces hdr, (0x2c : Byte) ∉ piece := by
    simp only [tdimPieces, List.forall_mem_cons, decimal_int_commaless _ npolPos, decimal_int_commaless _ nsubbandPos,
      decimal_int_commaless _ nchanPos, not_false_eq_true, true_and]
    decide
  have items : tupleItems (tdimPieces hdr) = some [hdr.npol, hdr.nsubband, hdr.nchan, 1, 1] := by
    have one : signedText decimalLiteral [49#8] = some 1 := by decide
    simp [tupleItems, tdimPieces, decimal_int_literal, npolPos, nsubbandPos, nchanPos, one]
  have closed : (0x28 :: ([0x2c].intercalate (tdimPieces hdr) ++ [0x29])).getLast? = some (0x29 : Byte) := by
    rw [← List.cons_append, List.getLast?_concat]
  rw [tdim_value_pieces, parseTdim, literalTuple, if_pos ⟨rfl, closed⟩, List.tail_cons, List.dropLast_concat,
    List.splitOn_intercalate _ commaless (List.cons_ne_nil _ _), items]

end

-- Element p of channel k, in the order the accumulator has.
theorem extract_layout_element {A : Type} (row : List A) (nchan nsub npol s : Nat) (whole : row.length = nchan * nsub * npol)
    (inside : s < nsub) :
    ∃ products, extractProjectLayout row nchan nsub npol s = .ok products ∧
      ∀ k < nchan, ∃ channel, products[k]? = some channel ∧ ∀ p < npol, channel[p]? = row[(k * nsub + s) * npol + p]? := by
  refine ⟨_, by rw [extractProjectLayout, if_neg (not_not.mpr whole), if_pos inside], fun k below => ?_⟩
  obtain ⟨plane, channel, planeAt, channelAt, elements⟩ := RowMajor.cube_get nchan nsub npol row k s below inside
  refine ⟨channel, ?_, elements⟩
  rw [List.getElem?_map, planeAt, Option.map_some, List.getD_eq_getElem?_getD, channelAt, Option.getD_some]

section

variable {F : Type} (truncate : F → Except String Int)

theorem positive_dimensions_ok (nchan nsub npol : Int) (nchanPos : 0 < nchan) (nsubPos : 0 < nsub) (npolPos : 0 < npol) :
    positiveDimensions nchan nsub npol = .ok (nchan.toNat, nsub.toNat, npol.toNat) := if_neg (by omega)

theorem keyword_dimensions (header : String → Option (FitsValue F)) (names : List String) (hdr : HdrInfo F)
    (npolPos : 0 < hdr.npol) (nsubbandPos : 0 < hdr.nsubband) (nchanPos : 0 < hdr.nchan)
    (nchanKey : header "NCHAN" = some (.integer hdr.nchan)) (nsubbandKey : header "NSUBBAND" = some (.integer hdr.nsubband))
    (npolKey : header "NPOL" = some (.integer hdr.npol)) :
    spectralDimensions truncate ⟨header, names⟩ = .ok (hdr.nchan.toNat, hdr.nsubband.toNat, hdr.npol.toNat) := by
  have dims : headerDimensions truncate ⟨header, names⟩ = .ok (hdr.nchan, hdr.nsubband, hdr.npol) := by
    simp only [headerDimensions, nchanKey, nsubbandKey, npolKey]
    rfl
  rw [spectralDimensions, dims]
  exact positive_dimensions_ok _ _ _ nchanPos nsubbandPos npolPos

-- The axes of TDIM come back in the order of the card.
theorem tdim_dimensions (header : String → Option (FitsValue F)) (hdr : HdrInfo F) (npolPos : 0 < hdr.npol)
    (nsubbandPos : 0 < hdr.nsubband) (nchanPos : 0 < hdr.nchan) (tdimKey : header "TDIM20" = some (.text (tdimValue hdr)))
    (missing : header "NCHAN" = none ∨ header "NSUBBAND" = none ∨ header "NPOL" = none) :
    spectralDimensions truncate ⟨header, templateColumns⟩ = .ok (hdr.npol.toNat, hdr.nsubband.toNat, hdr.nchan.toNat) := by
  have column : columnTdim ⟨header, templateColumns⟩ = .ok (header "TDIM20") := by
    have place : (templateColumns.map String.toUpper).idxOf "DATA" = 19 := by decide +kernel
    have member : "DATA" ∈ templateColumns.map String.toUpper := by decide +kernel
    rw [columnTdim, if_pos member, place]
    rfl
  have dims : headerDimensions truncate ⟨header, templateColumns⟩ = .ok (hdr.npol, hdr.nsubband, hdr.nchan) := by
    have fallback : headerDimensions truncate ⟨header, templateColumns⟩ = tdimDimensions ⟨header, templateColumns⟩ := by
      rw [headerDimensions]
      split
      · rename_i nchanKey nsubbandKey npolKey
        simp only at nchanKey nsubbandKey npolKey
        simp [nchanKey, nsubbandKey, npolKey] at missing
      · rfl
    rw [fallback, tdimDimensions, column, tdimKey]
    show (match parseTdim (some (.text (tdimValue hdr)) : Option (FitsValue F)) with
      | some (nchan :: nsub :: npol :: _) => Except.ok (nchan, nsub, npol)
      | _ => .error "Cannot determine NCHAN/NSUBBAND/NPOL from the DATA-column header") = _
    rw [parse_tdim_written hdr npolPos nsubbandPos nchanPos]
  rw [spectralDimensions, dims]
  exact positive_dimensions_ok _ _ _ npolPos nsubbandPos nchanPos

end

section

variable {F : Type} (truncate : F → Except String Int)

-- The header as it was written, or one that lacks keywords but keeps TDIM.
def ReadableHeader (written header : String → Option (FitsValue F)) : Prop :=
  header = written ∨
    header "TDIM20" = written "TDIM20" ∧ (header "NCHAN" = none ∨ header "NSUBBAND" = none ∨ header "NPOL" = none)

-- Every way to read the file gives its dimensions and, with them, the products
-- of a sub-band in every row that has the length of the DATA column.
def DimensionsAgree (hdr : HdrInfo F) (file : FitsFile F) : Prop :=
  ∀ header, ReadableHeader (file.keys .singleDish) header →
    ∃ nchan nsub npol, spectralDimensions truncate ⟨header, templateColumns⟩ = .ok (nchan, nsub, npol) ∧
      (nchan, nsub, npol) = (hdr.nchan.toNat, hdr.nsubband.toNat, hdr.npol.toNat) ∧
      ∀ row : List (BitVec 32), (row.length : Int) = file.vectorLen 20 → ∀ s < hdr.nsubband.toNat,
        ∃ products, extractProjectLayout row nchan nsub npol s = .ok products ∧
          ∀ k < hdr.nchan.toNat, ∃ channel, products[k]? = some channel ∧
            ∀ p < hdr.npol.toNat, channel[p]? = row[(k * hdr.nsubband.toNat + s) * hdr.npol.toNat + p]?

variable (env : WriterEnv F) (faults : Nat → Option Fault)

def withoutNchan (written : String → Option (FitsValue F)) (key : String) : Option (FitsValue F) :=
  if key = "NCHAN" then none else written key

theorem layout_rows (hdr : HdrInfo F) (npolPos : 0 < hdr.npol) (nsubbandPos : 0 < hdr.nsubband) (nchanPos : 0 < hdr.nchan)
    (row : List (BitVec 32)) (whole : (row.length : Int) = hdr.nsubband * hdr.nchan * hdr.npol) :
    row.length = hdr.nchan.toNat * hdr.nsubband.toNat * hdr.npol.toNat := by
  have product : (row.length : Int) = hdr.nchan.toNat * hdr.nsubband.toNat * hdr.npol.toNat := by
    rw [whole, Int.toNat_of_nonneg (Int.le_of_lt nchanPos), Int.toNat_of_nonneg (Int.le_of_lt nsubbandPos),
      Int.toNat_of_nonneg (Int.le_of_lt npolPos), Int.mul_comm hdr.nsubband]
  exact_mod_cast product

theorem dimensions_agree_file (hdr : HdrInfo F) (npolPos : 0 < hdr.npol) (nsubbandPos : 0 < hdr.nsubband) (nchanPos : 0 < hdr.nchan)
    (file : FitsFile F) (cards : ∀ card ∈ readCards hdr, file.keys .singleDish card.1 = some card.2)
    (length : file.vectorLen 20 = hdr.nsubband * hdr.nchan * hdr.npol) :
    DimensionsAgree truncate hdr file ↔ hdr.nchan = hdr.npol := by
  have npolKey := cards ("NPOL", .integer hdr.npol) (by simp [readCards])
  have nchanKey := cards ("NCHAN", .integer hdr.nchan) (by simp [readCards])
  have nsubbandKey := cards ("NSUBBAND", .integer hdr.nsubband) (by simp [readCards])
  have tdimKey := cards ("TDIM20", .text (tdimValue hdr)) (by simp [readCards])
  have fallback : ∀ header : String → Option (FitsValue F), header "TDIM20" = file.keys .singleDish "TDIM20" →
      header "NCHAN" = none ∨ header "NSUBBAND" = none ∨ header "NPOL" = none →
      spectralDimensions truncate ⟨header, templateColumns⟩ = .ok (hdr.npol.toNat, hdr.nsubband.toNat, hdr.nchan.toNat) :=
    fun header kept missing => tdim_dimensions truncate header hdr npolPos nsubbandPos nchanPos (kept.trans tdimKey) missing
  constructor
  · intro agree
    have kept : withoutNchan (file.keys .singleDish) "TDIM20" = file.keys .singleDish "TDIM20" := if_neg (by decide)
    have gone : withoutNchan (file.keys .singleDish) "NCHAN" = none := if_pos rfl
    have stripped := fallback _ kept (Or.inl gone)
    obtain ⟨nchan, nsub, npol, read, same, _⟩ := agree _ (Or.inr ⟨kept, Or.inl gone⟩)
    have swapped : (hdr.npol.toNat, hdr.nsubband.toNat, hdr.nchan.toNat) = (hdr.nchan.toNat, hdr.nsubband.toNat, hdr.npol.toNat) :=
      (Except.ok.inj (stripped.symm.trans read)).trans same
    have first : hdr.npol.toNat = hdr.nchan.toNat := congrArg Prod.fst swapped
    omega
  · intro square header readable
    refine ⟨_, _, _, ?_, rfl, fun row whole s inside => ?_⟩
    · rcases readable with written | ⟨kept, missing⟩
      · rw [written]
        exact keyword_dimensions truncate _ _ hdr npolPos nsubbandPos nchanPos nchanKey nsubbandKey npolKey
      · rw [fallback header kept missing, square]
    · exact extract_layout_element row _ _ _ s (layout_rows hdr npolPos nsubbandPos nchanPos row (whole.trans length)) inside

-- The keywords are always right, TDIM only where the outer axes are equal.
theorem spectral_dimensions_agree_iff (io : SdfitsIo F) (ready : io.writer.status = 0)
    (npolPos : 0 < io.writer.hdr.npol) (nsubbandPos : 0 < io.writer.hdr.nsubband) (nchanPos : 0 < io.writer.hdr.nchan)
    (created : (sdfitsCreate env faults io).2 = 0) :
    ∃ file, (sdfitsCreate env faults io).1.writer.fptr = some file ∧
      (DimensionsAgree truncate io.writer.hdr file ↔ io.writer.hdr.nchan = io.writer.hdr.npol) := by
  obtain ⟨file, opened, cards, length⟩ := created_cards env faults io ready created
  exact ⟨file, opened, dimensions_agree_file truncate io.writer.hdr npolPos nsubbandPos nchanPos file cards length⟩

end

def twoChannelFile : SdfitsIo ExactDouble where
  writer := { Sdfits.initial plainWriterEnv with
    basefilename := stringBytes "band"
    hdr := { HdrInfo.initial plainWriterEnv with nchan := 2, nsubband := 1 } }
  disk := []
  calls := 0

def wholeNumber (x : ExactDouble) : Except String Int :=
  match x with
  | some q => .ok q.num
  | none => .error "cannot convert float NaN to integer"

theorem two_channel_created : (sdfitsCreate plainWriterEnv (fun _ => none) twoChannelFile).2 = 0 := by
  decide +kernel

theorem spectral_dimensions_two_channels :
    ∃ file, (sdfitsCreate plainWriterEnv (fun _ => none) twoChannelFile).1.writer.fptr = some file ∧
      (DimensionsAgree wholeNumber twoChannelFile.writer.hdr file ↔ twoChannelFile.writer.hdr.nchan = twoChannelFile.writer.hdr.npol) :=
  spectral_dimensions_agree_iff wholeNumber plainWriterEnv (fun _ => none) twoChannelFile rfl (by decide) (by decide) (by decide)
    two_channel_created

-- Without NCHAN the reader takes (4, 1, 2) for (2, 1, 4).
theorem spectral_dimensions_swapped :
    ∃ file, (sdfitsCreate plainWriterEnv (fun _ => none) twoChannelFile).1.writer.fptr = some file ∧
      ¬ DimensionsAgree wholeNumber twoChannelFile.writer.hdr file := by
  obtain ⟨file, opened, cards, length⟩ := created_cards plainWriterEnv (fun _ => none) twoChannelFile rfl two_channel_created
  refine ⟨file, opened, fun agree => ?_⟩
  exact absurd ((dimensions_agree_file wholeNumber twoChannelFile.writer.hdr (by decide) (by decide) (by decide) file cards length).mp
    agree) (by decide)

example : literalTuple (stringBytes "(4,2,16,1,1)") = some [4, 2, 16, 1, 1] := by decide +kernel

end SpectralLine
