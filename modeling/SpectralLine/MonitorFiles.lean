import Mathlib.Data.List.Infix
import Mathlib.Data.String.Basic

set_option autoImplicit false

namespace SpectralLine.Monitor

-- What the monitor takes from Python and from its environment: the value of a
-- decimal digit of any script, the 16-byte BLAKE2b digest, and the interval
-- between two checks of one stream.
structure Host where
  decimal : Char → Option Nat
  blake2b : List UInt8 → List UInt8
  renderInterval : Rat

def monitorDir : String := "/dev/shm"

def streamPattern : String := "server_*_stream_*.bin"

def headerSize : Nat := 32

def payloadSize : Nat := 8192

-- A pattern of glob with no wildcard but the star.
def fnmatch : List Char → List Char → Bool
  | [], name => name.isEmpty
  | c :: pattern, name =>
      if c = '*' then name.tails.any (fnmatch pattern)
      else
        match name with
        | [] => false
        | d :: rest => d == c && fnmatch pattern rest

theorem fnmatch_literal (literal name : List Char) (plain : '*' ∉ literal) (matched : fnmatch literal name = true) :
    name = literal := by
  induction literal generalizing name with
  | nil => simpa [fnmatch] using matched
  | cons c literal ih =>
      have other : c ≠ '*' := fun same => plain (same ▸ List.mem_cons_self)
      rw [fnmatch.eq_def] at matched
      simp only [if_neg other] at matched
      cases name with
      | nil => cases matched
      | cons d rest =>
          rw [Bool.and_eq_true, beq_iff_eq] at matched
          rw [matched.1, ih rest (fun member => plain (List.mem_cons_of_mem c member)) matched.2]

-- The end of a pattern that has no star is the end of every name it matches.
theorem fnmatch_ending (pattern literal name : List Char) (plain : '*' ∉ literal)
    (matched : fnmatch (pattern ++ literal) name = true) : ∃ start, name = start ++ literal ∧ fnmatch pattern start = true := by
  induction pattern generalizing name with
  | nil => exact ⟨[], fnmatch_literal literal name plain matched, rfl⟩
  | cons c pattern ih =>
      rw [List.cons_append, fnmatch.eq_def] at matched
      by_cases star : c = '*'
      · simp only [if_pos star, List.any_eq_true, List.mem_tails] at matched
        obtain ⟨rest, ⟨skipped, split⟩, matched⟩ := matched
        obtain ⟨start, ends, inner⟩ := ih rest matched
        refine ⟨skipped ++ start, ?_, ?_⟩
        · rw [← split, ends, List.append_assoc]
        · rw [fnmatch.eq_def]
          simp only [if_pos star, List.any_eq_true, List.mem_tails]
          exact ⟨start, List.suffix_append skipped start, inner⟩
      · simp only [if_neg star] at matched
        cases name with
        | nil => cases matched
        | cons d rest =>
            rw [Bool.and_eq_true] at matched
            obtain ⟨start, ends, inner⟩ := ih rest matched.2
            refine ⟨d :: start, by rw [ends]; rfl, ?_⟩
            rw [fnmatch.eq_def]
            simp only [if_neg star, Bool.and_eq_true]
            exact ⟨matched.1, inner⟩

-- The name of a path without its last suffix.
def stem (name : String) : String :=
  let chars := name.toList
  let dot := chars.length - 1 - chars.reverse.idxOf '.'
  if '.' ∈ chars ∧ 0 < dot ∧ dot < chars.length - 1 then String.ofList (chars.take dot) else name

theorem stem_bin (start : List Char) (some_ : start ≠ []) : stem (String.ofList (start ++ ".bin".toList)) = String.ofList start := by
  have suffix_ : ".bin".toList = ['.', 'b', 'i', 'n'] := by decide +kernel
  have place : (start ++ ['.', 'b', 'i', 'n']).reverse.idxOf '.' = 3 := by
    rw [List.reverse_append]
    rfl
  have first : 0 < start.length := List.length_pos_of_ne_nil some_
  have long : (start ++ ['.', 'b', 'i', 'n']).length = start.length + 4 := by rw [List.length_append]; rfl
  have dot : start.length + 4 - 1 - 3 = start.length := by omega
  rw [stem, String.toList_ofList, suffix_]
  simp only [place, long, dot]
  rw [if_pos ⟨by simp, first, by omega⟩, List.take_left]

def Globbed (name : String) : Prop := fnmatch streamPattern.toList name.toList = true

theorem globbed_stem (name : String) (globbed : Globbed name) : name.toList = (stem name).toList ++ ".bin".toList := by
  have pattern : streamPattern.toList = "server_*_stream_*".toList ++ ".bin".toList := by decide +kernel
  rw [Globbed, pattern] at globbed
  obtain ⟨start, ends, matched⟩ := fnmatch_ending _ _ _ (by decide +kernel) globbed
  have some_ : start ≠ [] := by
    rintro rfl
    revert matched
    decide +kernel
  have whole : name = String.ofList (start ++ ".bin".toList) := by rw [← ends, String.ofList_toList]
  rw [whole, stem_bin start some_]
  simp only [String.toList_ofList]

theorem stem_injective (left right : String) (globbedLeft : Globbed left) (globbedRight : Globbed right)
    (same : stem left = stem right) : left = right := by
  have chars : left.toList = right.toList := by rw [globbed_stem left globbedLeft, globbed_stem right globbedRight, same]
  exact String.toList_inj.mp chars

def matchLiteral (literal : String) (name : List Char) : Option (List Char) :=
  if literal.toList.isPrefixOf name then some (name.drop literal.toList.length) else none

-- (\d+), as int reads it.
def matchNumber (host : Host) (name : List Char) : Option (Nat × List Char) :=
  let digits := name.takeWhile fun c => (host.decimal c).isSome
  if digits.isEmpty then none
  else some (digits.foldl (fun n c => 10 * n + (host.decimal c).getD 0) 0, name.drop digits.length)

-- STREAM_NAME_RE.fullmatch
def matchStreamName (host : Host) (name : String) : Option (Nat × Nat) := do
  let rest ← matchLiteral "server_" name.toList
  let (serverId, rest) ← matchNumber host rest
  let rest ← matchLiteral "_stream_" rest
  let (streamId, rest) ← matchNumber host rest
  let rest ← matchLiteral ".bin" rest
  if rest.isEmpty then some (serverId, streamId) else none

structure Identity where
  subband : Nat
  beam : String
  polarization : String
deriving DecidableEq

def decodeStreamIdentity (host : Host) (filename : String) : Except String Identity :=
  match matchStreamName host filename with
  | none => .error ("invalid monitor stream filename: " ++ filename)
  | some (serverId, streamId) =>
      if ¬ serverId ≤ 7 then .error ("server ID must be between 0 and 7: " ++ filename)
      else if ¬ streamId ≤ 15 then .error ("stream ID must be between 0 and 15: " ++ filename)
      else
        .ok {
          subband := serverId * 4 + streamId / 4 + 1
          beam := if (streamId / 2) % 2 = 0 then "A" else "B"
          polarization := if streamId % 2 = 0 then "X" else "Y" }

def imageFilename (identity : Identity) (typeId : Nat) (quality : String) : Except String String :=
  if ¬ (1 ≤ identity.subband ∧ identity.subband ≤ 32) then .error "subband ID must be between 1 and 32"
  else if identity.beam ∉ ["A", "B"] then .error "beam must be A or B"
  else if identity.polarization ∉ ["X", "Y"] then .error "polarization must be X or Y"
  else if typeId ∉ [1, 2, 3] then .error "image type must be 1, 2, or 3"
  else if quality ∉ ["hq", "lq"] then .error "image quality must be hq or lq"
  else
    .ok (toString identity.subband ++ "_" ++ identity.beam ++ "_" ++ identity.polarization ++ "_" ++ toString typeId ++ "_" ++
      quality ++ ".jpg")

theorem decoded_identity (host : Host) (filename : String) (identity : Identity)
    (decoded : decodeStreamIdentity host filename = .ok identity) :
    (1 ≤ identity.subband ∧ identity.subband ≤ 32) ∧ identity.beam ∈ ["A", "B"] ∧ identity.polarization ∈ ["X", "Y"] := by
  rw [decodeStreamIdentity] at decoded
  split at decoded
  · cases decoded
  · split at decoded
    · cases decoded
    · rename_i server
      split at decoded
      · cases decoded
      · rename_i stream
        have server := Decidable.not_not.mp server
        have stream := Decidable.not_not.mp stream
        cases decoded
        dsimp only
        refine ⟨by omega, ?_, ?_⟩
        · split <;> simp
        · split <;> simp

-- Every stream that has an identity has names for its images.
theorem decoded_images (host : Host) (filename : String) (identity : Identity)
    (decoded : decodeStreamIdentity host filename = .ok identity) (typeId : Nat) (kind : typeId ∈ [1, 2, 3]) (quality : String)
    (grade : quality ∈ ["hq", "lq"]) : ∃ image, imageFilename identity typeId quality = .ok image := by
  obtain ⟨subband, beam, polarization⟩ := decoded_identity host filename identity decoded
  rw [imageFilename, if_neg (not_not.mpr subband), if_neg (not_not.mpr beam), if_neg (not_not.mpr polarization),
    if_neg (not_not.mpr kind), if_neg (not_not.mpr grade)]
  exact ⟨_, rfl⟩

-- A file of the monitor directory: what stat says of it and what each
-- read_bytes of a check returns.
structure DirEntry where
  name : String
  isFile : Bool
  stat : Except String Nat
  reads : Nat → Except String (List UInt8)

def expectedSize : Nat := headerSize + payloadSize

def readAttempts (reads : Nat → Except String (List UInt8)) : Nat → Nat → Except String (Option (List UInt8))
  | 0, _ => .ok none
  | retries + 1, done => do
      let first := (← reads (2 * done)).take expectedSize
      let second := (← reads (2 * done + 1)).take expectedSize
      if first.length == expectedSize && first == second then return some second
      readAttempts reads retries (done + 1)

def readMonitorSnapshot (host : Host) (file : DirEntry) : Except String (List UInt8 × List UInt8) := do
  let size ← file.stat
  if size < expectedSize then throw ("file is too short: expected at least " ++ toString expectedSize ++ " bytes")
  match ← readAttempts file.reads 5 0 with
  | none => throw "frame changed while being read"
  | some snapshot =>
      if (snapshot.take headerSize).any (· ≠ 0) then return (snapshot, host.blake2b snapshot)
      throw "stream has not received its first frame"

structure ImageFiles where
  kind : String
  typeId : Nat
  thumbnail : String
  highResolution : String

structure ManifestEntry where
  name : String
  source : String
  subband : Nat
  beam : String
  polarization : String
  revision : String
  updatedAt : String
  images : List ImageFiles

def imageKinds : List (String × Nat) := [("adc", 1), ("histogram", 2), ("fft", 3)]

-- bytes.hex
def hex (digest : List UInt8) : String :=
  String.ofList (digest.flatMap fun byte => [Nat.digitChar (byte.toNat / 16), Nat.digitChar (byte.toNat % 16)])

def imageFiles (identity : Identity) (kind : String) (typeId : Nat) : Except String ImageFiles := do
  let thumbnail ← imageFilename identity typeId "lq"
  let highResolution ← imageFilename identity typeId "hq"
  return { kind, typeId, thumbnail, highResolution }

def manifestEntry (filename : String) (digest : List UInt8) (identity : Identity) (updatedAt : String) :
    Except String ManifestEntry := do
  let images ← imageKinds.mapM fun kind => imageFiles identity kind.1 kind.2
  return {
    name := stem filename
    source := filename
    subband := identity.subband
    beam := identity.beam
    polarization := identity.polarization
    revision := hex digest
    updatedAt
    images }

-- The entry of a stream names the stream, its place and its rendered content.
structure Describes (host : Host) (entry : ManifestEntry) (filename : String) (digest : List UInt8) : Prop where
  name : entry.name = stem filename
  source : entry.source = filename
  revision : entry.revision = hex digest
  identity : decodeStreamIdentity host filename = .ok ⟨entry.subband, entry.beam, entry.polarization⟩

theorem manifest_entry_describes (host : Host) (filename : String) (digest : List UInt8) (identity : Identity) (updatedAt : String)
    (decoded : decodeStreamIdentity host filename = .ok identity) :
    ∃ entry, manifestEntry filename digest identity updatedAt = .ok entry ∧ Describes host entry filename digest := by
  have files : ∀ kind typeId, typeId ∈ [1, 2, 3] → ∃ images, imageFiles identity kind typeId = .ok images := by
    intro kind typeId inside
    obtain ⟨thumbnail, low⟩ := decoded_images host filename identity decoded typeId inside "lq" (by simp)
    obtain ⟨highResolution, high⟩ := decoded_images host filename identity decoded typeId inside "hq" (by simp)
    exact ⟨⟨kind, typeId, thumbnail, highResolution⟩, by rw [imageFiles, low, high]; rfl⟩
  obtain ⟨adc, first⟩ := files "adc" 1 (by simp)
  obtain ⟨histogram, second⟩ := files "histogram" 2 (by simp)
  obtain ⟨fft, third⟩ := files "fft" 3 (by simp)
  have all : (imageKinds.mapM fun kind => imageFiles identity kind.1 kind.2) = .ok [adc, histogram, fft] := by
    simp [imageKinds, List.mapM_cons, first, second, third]
    rfl
  rw [manifestEntry, all]
  exact ⟨_, rfl, rfl, rfl, rfl, decoded⟩

end SpectralLine.Monitor
