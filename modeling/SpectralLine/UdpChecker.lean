import SpectralLine.TimeConversion
import Mathlib.Data.Rat.Floor

set_option autoImplicit false

namespace SpectralLine

-- datetime.toordinal for a proleptic Gregorian date.
def daysBeforeYear (year : Nat) : Nat := (year - 1) * 365 + (year - 1) / 4 - (year - 1) / 100 + (year - 1) / 400

def isLeapYear (year : Nat) : Bool := year % 4 = 0 ∧ (year % 100 ≠ 0 ∨ year % 400 = 0)

def daysBeforeMonth (year month : Nat) : Nat :=
  [0, 31, 59, 90, 120, 151, 181, 212, 243, 273, 304, 334].getD (month - 1) 0 + (if 2 < month ∧ isLeapYear year then 1 else 0)

def toOrdinal (year month day : Nat) : Nat := daysBeforeYear year + daysBeforeMonth year month + day

-- A UTC datetime at midnight, in microseconds of Unix time: the resolution of
-- the datetime module.
def microseconds : Int := 1000000

def utcMidnight (year month day : Nat) : Int := ((toOrdinal year month day : Int) - toOrdinal 1970 1 1) * 86400 * microseconds

def leapEffectiveUtc : List Int :=
  [utcMidnight 2006 1 1, utcMidnight 2009 1 1, utcMidnight 2012 7 1, utcMidnight 2015 7 1, utcMidnight 2017 1 1]

-- The checker's own VdifHeader, with the members check_expected and vdif_utc read.
structure CheckerHeader where
  secondsFromEpoch : Nat
  referenceEpoch : Nat
  frameNumber : Nat
  version : Nat
  frameBytes : Nat
  threadId : Nat
  edv : Nat

structure CheckerArgs where
  framesPerSecond : Nat
  packetBytes : Nat
  expectVersion : Option Nat
  expectEdv : Option Nat
  expectThreadId : Option Nat

theorem eight_words : NeZero 8 := ⟨by decide⟩

attribute [local instance] eight_words

def parseCheckerHeader (words : Fin 8 → Word) : CheckerHeader where
  secondsFromEpoch := (words 0 &&& 0x3FFFFFFF#32).toNat
  referenceEpoch := (words 1 >>> 24 &&& 0x3F#32).toNat
  frameNumber := (words 1 &&& 0x00FFFFFF#32).toNat
  version := (words 2 >>> 29 &&& 0x7#32).toNat
  frameBytes := (words 2 &&& 0x00FFFFFF#32).toNat * 8
  threadId := (words 3 >>> 16 &&& 0x03FF#32).toNat
  edv := (words 4 >>> 24 &&& 0xFF#32).toNat

def expectProblem (name : String) (expected : Option Nat) (actual : Nat) : List String :=
  match expected with
  | some value => if actual ≠ value then [name ++ " " ++ toString actual ++ " != " ++ toString value] else []
  | none => []

def checkExpected (header : CheckerHeader) (args : CheckerArgs) : List String :=
  (if args.framesPerSecond < header.frameNumber then
    ["frame " ++ toString header.frameNumber ++ " is outside 0.." ++ toString args.framesPerSecond ++
      "; the upper value is accepted only as the next-second frame-zero alias"]
  else []) ++
  (if header.frameBytes ≠ args.packetBytes then
    ["header frame length " ++ toString header.frameBytes ++ " != UDP payload length " ++ toString args.packetBytes]
  else []) ++
  expectProblem "VDIF version" args.expectVersion header.version ++
  expectProblem "EDV" args.expectEdv header.edv ++
  expectProblem "thread ID" args.expectThreadId header.threadId

def epochStart (referenceEpoch : Nat) : Except String Int :=
  if referenceEpoch ≤ 63 then .ok (utcMidnight (2000 + referenceEpoch / 2) (if referenceEpoch % 2 = 0 then 1 else 7) 1)
  else .error ("invalid VDIF reference epoch " ++ toString referenceEpoch)

-- timedelta(seconds=x): the nearest microsecond, halves to even.
def timedeltaSeconds (x : ℚ) : Int :=
  let scaled := x * microseconds
  let low := ⌊scaled⌋
  if scaled - low < 1 / 2 then low
  else if 1 / 2 < scaled - low then low + 1
  else if low % 2 = 0 then low else low + 1

-- The for loop: the leap seconds passed, and the folded time when the loop
-- breaks on the leap second itself.
def utcLoop (start : Int) (seconds : Nat) : List Int → Nat → Nat × Option Int
  | [], elapsedLeaps => (elapsedLeaps, none)
  | effective :: rest, elapsedLeaps =>
      if effective ≤ start then utcLoop start seconds rest elapsedLeaps
      else
        let leapVdifSecond := (effective - start).tdiv microseconds + elapsedLeaps
        if seconds < leapVdifSecond then (elapsedLeaps, none)
        else if seconds = leapVdifSecond then (elapsedLeaps, some (effective - microseconds))
        else utcLoop start seconds rest (elapsedLeaps + 1)

def vdifUtc (referenceEpoch secondsFromEpoch frameNumber framesPerSecond : Nat) : Except String (Int × Bool) := do
  let secondCarry := frameNumber / framesPerSecond
  let frame := frameNumber % framesPerSecond
  let seconds := secondsFromEpoch + secondCarry
  let start ← epochStart referenceEpoch
  let (elapsedLeaps, leapTime) := utcLoop start seconds leapEffectiveUtc 0
  let timestamp := match leapTime with
    | some folded => folded
    | none => start + ((seconds : Int) - elapsedLeaps) * microseconds
  return (timestamp + timedeltaSeconds ((frame : ℚ) / framesPerSecond), leapTime.isSome)

theorem parsed_header_fits (words : Fin 8 → Word) :
    (parseCheckerHeader words).referenceEpoch < 64 ∧ (parseCheckerHeader words).secondsFromEpoch + 1 < 2 ^ 32 := by
  have epoch : (words 1 >>> 24 &&& 0x3F#32).toNat ≤ 63 := by
    rw [BitVec.toNat_and]
    exact Nat.and_le_right
  have seconds : (words 0 &&& 0x3FFFFFFF#32).toNat ≤ 0x3FFFFFFF := by
    rw [BitVec.toNat_and]
    exact Nat.and_le_right
  simp only [parseCheckerHeader]
  omega

theorem accepted_frame (header : CheckerHeader) (args : CheckerArgs) (accepted : checkExpected header args = []) :
    header.frameNumber ≤ args.framesPerSecond := by
  by_contra outside
  simp [checkExpected, Nat.not_le.mp outside] at accepted

theorem leap_effective_seconds : leapEffectiveUtc = utcPositiveLeapEffectiveUnixSec.map fun leap : Nat => (leap : Int) * microseconds := by
  decide

theorem epoch_start_table : ∀ e : Fin 64, epochStart e = .ok (vdifEpochUnixSec.get e * microseconds) := by decide +kernel

theorem epoch_start_seconds (epoch : Nat) (inside : epoch < 64) :
    epochStart epoch = .ok (vdifEpochUnixSec[epoch] * microseconds) := epoch_start_table ⟨epoch, inside⟩

def utcTime (start : Int) (seconds : Nat) (leaps : List Int) (elapsedLeaps : Nat) : Int :=
  match (utcLoop start seconds leaps elapsedLeaps).2 with
  | some folded => folded
  | none => start + ((seconds : Int) - (utcLoop start seconds leaps elapsedLeaps).1) * microseconds

theorem utc_time_loop (epochSec seconds : Nat) (leaps : List Nat) (elapsed : Nat) (early : elapsed + leaps.length ≤ epochSec) :
    utcTime (epochSec * microseconds) seconds (leaps.map fun leap : Nat => (leap : Int) * microseconds) elapsed * 1000 =
      leapLoop epochSec seconds 0 leaps elapsed := by
  induction leaps generalizing elapsed with
  | nil =>
      simp only [utcTime, utcLoop, List.map_nil, leapLoop, microseconds, nsPerSec, List.length_nil] at early ⊢
      omega
  | cons leap rest ih =>
      rw [List.length_cons] at early
      have rate : (0 : Int) < microseconds := by decide
      have whole : ((leap : Int) * microseconds - epochSec * microseconds).tdiv microseconds = (leap : Int) - epochSec := by
        rw [← Int.sub_mul]
        exact Int.mul_tdiv_cancel _ (by decide)
      rw [List.map_cons, leapLoop]
      by_cases past : leap ≤ epochSec
      · have skip : (leap : Int) * microseconds ≤ epochSec * microseconds := by
          exact Int.mul_le_mul_of_nonneg_right (by exact_mod_cast past) (Int.le_of_lt rate)
        rw [if_pos past, ← ih elapsed (by omega), utcTime, utcTime, utcLoop, if_pos skip]
      · have keep : ¬ (leap : Int) * microseconds ≤ epochSec * microseconds := by
          intro below
          exact past (by exact_mod_cast Int.le_of_mul_le_mul_right below rate)
        rw [if_neg past]
        by_cases before : seconds < leap - epochSec + elapsed
        · have beforeUtc : (seconds : Int) < (leap : Int) - epochSec + elapsed := by omega
          rw [if_pos before, utcTime, utcLoop, if_neg keep, whole, if_pos beforeUtc]
          simp only [microseconds, nsPerSec]
          omega
        · have beforeUtc : ¬ (seconds : Int) < (leap : Int) - epochSec + elapsed := by omega
          rw [if_neg before]
          by_cases inside : seconds = leap - epochSec + elapsed
          · have insideUtc : (seconds : Int) = (leap : Int) - epochSec + elapsed := by omega
            rw [if_pos inside, utcTime, utcLoop, if_neg keep, whole, if_neg beforeUtc, if_pos insideUtc]
            simp only [microseconds, nsPerSec]
            omega
          · have insideUtc : ¬ (seconds : Int) = (leap : Int) - epochSec + elapsed := by omega
            rw [if_neg inside, ← ih (elapsed + 1) (by omega), utcTime, utcTime, utcLoop, if_neg keep, whole, if_neg beforeUtc,
              if_neg insideUtc]

theorem leap_loop_frame (epochSec seconds frame : Nat) (leaps : List Nat) (elapsed : Nat) :
    leapLoop epochSec seconds frame leaps elapsed = leapLoop epochSec seconds 0 leaps elapsed + frame * frameNs := by
  induction leaps generalizing elapsed with
  | nil => simp [leapLoop]
  | cons leap rest ih =>
      rw [leapLoop, leapLoop]
      dsimp only
      split_ifs
      · exact ih elapsed
      · omega
      · omega
      · exact ih (elapsed + 1)

theorem timedelta_frame (frame : Nat) : timedeltaSeconds ((frame : ℚ) / (62500 : Nat)) = frame * 16 := by
  have exact : (frame : ℚ) / (62500 : Nat) * microseconds = ((frame * 16 : Int) : ℚ) := by
    simp only [microseconds]
    push_cast
    ring
  unfold timedeltaSeconds
  rw [exact]
  simp only [Int.floor_intCast, sub_self]
  exact if_pos (by norm_num)

theorem vdif_utc_parts (epoch seconds frame framesPerSecond : Nat) (start : Int) (began : epochStart epoch = .ok start) :
    vdifUtc epoch seconds frame framesPerSecond = .ok
      (utcTime start (seconds + frame / framesPerSecond) leapEffectiveUtc 0 +
        timedeltaSeconds (((frame % framesPerSecond : Nat) : ℚ) / framesPerSecond),
        (utcLoop start (seconds + frame / framesPerSecond) leapEffectiveUtc 0).2.isSome) := by
  rw [vdifUtc, began]
  rfl

theorem vdif_utc_time (epoch seconds frame : Nat) (inside : epoch < 64) :
    ∃ timestamp leap, vdifUtc epoch seconds frame 62500 = .ok (timestamp, leap) ∧
      timestamp * 1000 = (leapLoop vdifEpochUnixSec[epoch] (seconds + frame / 62500) (frame % 62500)
        utcPositiveLeapEffectiveUnixSec 0 : Nat) := by
  have floor : 5 ≤ vdifEpochUnixSec[epoch] := by
    have low : vdifEpochUnixSec.get 0 ≤ _ := epoch_table_sorted ⟨epoch, inside⟩ 0 (Fin.zero_le _)
    exact Nat.le_trans (by decide) low
  have loops := utc_time_loop vdifEpochUnixSec[epoch] (seconds + frame / 62500) utcPositiveLeapEffectiveUnixSec 0 floor
  rw [← leap_effective_seconds] at loops
  refine ⟨_, _, vdif_utc_parts epoch seconds frame 62500 _ (epoch_start_seconds epoch inside), ?_⟩
  rw [timedelta_frame, leap_loop_frame, Int.add_mul, loops]
  simp only [frameNs]
  omega

-- A leap second begins at the next second.
def leapNext (epochSec seconds : Nat) : Prop := seconds + 1 ∈ leapSeconds epochSec utcPositiveLeapEffectiveUnixSec 0

theorem count_next (values : List Nat) (seconds : Nat) :
    (values.filter (· ≤ seconds + 1)).length = (values.filter (· ≤ seconds)).length + values.count (seconds + 1) := by
  induction values with
  | nil => rfl
  | cons v rest ih =>
      rw [List.count_cons]
      by_cases early : v ≤ seconds
      · rw [List.filter_cons_of_pos (by simp; omega), List.filter_cons_of_pos (by simpa using early)]
        have other : ¬ (v == seconds + 1) = true := by simp; omega
        rw [if_neg other, List.length_cons, List.length_cons]
        omega
      · have dropped : (v :: rest).filter (· ≤ seconds) = rest.filter (· ≤ seconds) :=
          List.filter_cons_of_neg (by simpa using early)
        rw [dropped]
        by_cases here : v = seconds + 1
        · rw [List.filter_cons_of_pos (by simp [here]), if_pos (by simp [here]), List.length_cons]
          omega
        · rw [List.filter_cons_of_neg (by simp; omega), if_neg (by simpa using here)]
          omega

-- The alias frame is the next second's frame 0, unless that second is a leap
-- second.
theorem alias_time (epochSec seconds : Nat) (floor : 5 ≤ epochSec) :
    leapLoop epochSec seconds 62500 utcPositiveLeapEffectiveUnixSec 0 =
      leapLoop epochSec (seconds + 1) 0 utcPositiveLeapEffectiveUnixSec 0 ↔ ¬ leapNext epochSec seconds := by
  have few := leaps_by_few epochSec seconds
  have next := count_next (leapSeconds epochSec utcPositiveLeapEffectiveUnixSec 0) seconds
  rw [leap_loop_counts _ _ _ _ _ (by decide), leap_loop_counts _ _ _ _ _ (by decide), leapNext, ← List.count_pos_iff]
  rw [leapsBy] at few
  rw [leapsBy, leapsBy, next]
  simp only [nsPerSec, frameNs]
  omega

def SameInstant (checker : Except String (Int × Bool)) (receiver : Except String Nat) : Prop :=
  ∃ utc leap timestampNs, checker = .ok (utc, leap) ∧ receiver = .ok timestampNs ∧ utc * 1000 = (timestampNs : Int)

-- The receiver's conversion of a header's fields.
def receiverTime (epoch seconds frame : Nat) : Except String Nat :=
  vdifToTimestampNs (BitVec.ofNat 8 epoch) (BitVec.ofNat 32 seconds) (BitVec.ofNat 32 frame)

theorem receiver_time_loop (epoch seconds frame : Nat) (inside : epoch < 64) (fits : seconds < 2 ^ 32) (frames : frame ≤ 62500) :
    receiverTime epoch seconds frame =
      .ok (leapLoop vdifEpochUnixSec[epoch] seconds frame utcPositiveLeapEffectiveUnixSec 0) := by
  have epochValue : (BitVec.ofNat 8 epoch).toNat = epoch := by rw [BitVec.toNat_ofNat, Nat.mod_eq_of_lt (by omega)]
  have secondsValue : (BitVec.ofNat 32 seconds).toNat = seconds := by rw [BitVec.toNat_ofNat, Nat.mod_eq_of_lt fits]
  have frameValue : (BitVec.ofNat 32 frame).toNat = frame := by rw [BitVec.toNat_ofNat, Nat.mod_eq_of_lt (by omega)]
  have valid : (BitVec.ofNat 8 epoch).toNat < 64 := by rw [epochValue]; exact inside
  rw [receiverTime, vdifToTimestampNs, vdifEpochToUnixSec, dif_pos valid, secondsValue, frameValue]
  simp only [epochValue]
  rfl

def TimesAgree (header : CheckerHeader) : Prop :=
  SameInstant (vdifUtc header.referenceEpoch header.secondsFromEpoch header.frameNumber 62500)
    (receiverTime header.referenceEpoch header.secondsFromEpoch header.frameNumber) ∧
  (header.frameNumber = 62500 →
    vdifUtc header.referenceEpoch header.secondsFromEpoch header.frameNumber 62500 =
      vdifUtc header.referenceEpoch (header.secondsFromEpoch + 1) 0 62500 ∧
    receiverTime header.referenceEpoch header.secondsFromEpoch header.frameNumber =
      receiverTime header.referenceEpoch (header.secondsFromEpoch + 1) 0)

theorem checker_agreement (header : CheckerHeader) (args : CheckerArgs) (rate : args.framesPerSecond = 62500)
    (accepted : checkExpected header args = []) (epoch : header.referenceEpoch < 64)
    (fits : header.secondsFromEpoch + 1 < 2 ^ 32) :
    TimesAgree header ↔
      ¬ (header.frameNumber = 62500 ∧ leapNext vdifEpochUnixSec[header.referenceEpoch] header.secondsFromEpoch) := by
  have frames : header.frameNumber ≤ 62500 := rate ▸ accepted_frame header args accepted
  have floor : 5 ≤ vdifEpochUnixSec[header.referenceEpoch] := by
    have low : vdifEpochUnixSec.get 0 ≤ _ := epoch_table_sorted ⟨_, epoch⟩ 0 (Fin.zero_le _)
    exact Nat.le_trans (by decide) low
  obtain ⟨utc, leap, checker, time⟩ := vdif_utc_time header.referenceEpoch header.secondsFromEpoch header.frameNumber epoch
  have receiver := receiver_time_loop header.referenceEpoch header.secondsFromEpoch header.frameNumber epoch (by omega) frames
  have next := receiver_time_loop header.referenceEpoch (header.secondsFromEpoch + 1) 0 epoch fits (Nat.zero_le _)
  rcases Nat.lt_or_eq_of_le frames with inner | aliased
  · rw [Nat.div_eq_of_lt inner, Nat.mod_eq_of_lt inner, Nat.add_zero] at time
    refine iff_of_true ⟨⟨utc, leap, _, checker, receiver, time⟩, fun aliased => ?_⟩ fun both => ?_
    · omega
    · omega
  · rw [aliased] at time receiver checker
    have alias_ := alias_time vdifEpochUnixSec[header.referenceEpoch] header.secondsFromEpoch floor
    constructor
    · rintro ⟨_, shared⟩ ⟨_, leaps⟩
      have same := (shared aliased).2
      rw [aliased, receiver, next] at same
      exact alias_.mp (Except.ok.inj same) leaps
    · intro clear
      have same := alias_.mpr fun leaps => clear ⟨aliased, leaps⟩
      refine ⟨⟨utc, leap, _, by rw [aliased]; exact checker, by rw [aliased]; exact receiver, ?_⟩, fun _ => ⟨?_, ?_⟩⟩
      · rw [same]
        exact time
      · rw [aliased]
        rfl
      · rw [aliased, receiver, next, same]

def aliasHeader (epoch seconds : Nat) : CheckerHeader := ⟨seconds, epoch, 62500, 1, 8224, 17, 1⟩

def defaultArgs : CheckerArgs := ⟨62500, 8224, none, none, none⟩

theorem checker_agreement_alias : TimesAgree (aliasHeader 53 0) :=
  (checker_agreement (aliasHeader 53 0) defaultArgs rfl (by decide) (by decide) (by decide)).mpr (by
    unfold leapNext
    decide)

-- The alias of the leap second at the end of 2008.
theorem checker_agreement_fails : ¬ ∀ (header : CheckerHeader) (args : CheckerArgs), args.framesPerSecond = 62500 →
    checkExpected header args = [] → header.referenceEpoch < 64 → header.secondsFromEpoch + 1 < 2 ^ 32 → TimesAgree header := by
  intro always
  have agree := always (aliasHeader 16 31622399) defaultArgs rfl (by decide) (by decide) (by decide)
  have same := (agree.2 rfl).2
  have receiver : receiverTime 16 31622399 62500 = .ok 1230768000000000000 := by rfl
  have next : receiverTime 16 31622400 0 = .ok 1230767999000000000 := by rfl
  have differ := receiver.symm.trans (same.trans next)
  cases differ

end SpectralLine
