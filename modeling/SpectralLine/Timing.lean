import SpectralLine.Vdif
import Mathlib.Data.Rat.Floor
import Mathlib.Tactic.Ring
import Mathlib.Tactic.NormNum
import Mathlib.Tactic.Positivity

set_option autoImplicit false

namespace SpectralLine

def vdifEpochUnixSec : Vector Nat 64 :=
  #v[946684800, 962409600, 978307200, 993945600, 1009843200, 1025481600, 1041379200, 1057017600,
    1072915200, 1088640000, 1104537600, 1120176000, 1136073600, 1151712000, 1167609600, 1183248000,
    1199145600, 1214870400, 1230768000, 1246406400, 1262304000, 1277942400, 1293840000, 1309478400,
    1325376000, 1341100800, 1356998400, 1372636800, 1388534400, 1404172800, 1420070400, 1435708800,
    1451606400, 1467331200, 1483228800, 1498867200, 1514764800, 1530403200, 1546300800, 1561939200,
    1577836800, 1593561600, 1609459200, 1625097600, 1640995200, 1656633600, 1672531200, 1688169600,
    1704067200, 1719792000, 1735689600, 1751328000, 1767225600, 1782864000, 1798761600, 1814400000,
    1830297600, 1846022400, 1861920000, 1877558400, 1893456000, 1909094400, 1924992000, 1940630400]

def utcPositiveLeapEffectiveUnixSec : List Nat := [1136073600, 1230768000, 1341100800, 1435708800, 1483228800]

def nsPerSec : Nat := 1000000000
def frameNs : Nat := 16000

def vdifEpochToUnixSec (epoch : Byte) : Except String Nat :=
  if inside : epoch.toNat < 64 then .ok vdifEpochUnixSec[epoch.toNat] else .error "invalid VDIF epoch"

-- The loop over the leap seconds. The sums stay far below 2^64: the seconds
-- of the table and of the header are below 2^31 and 2^32.
def leapLoop (epochSec seconds frame : Nat) : List Nat → Nat → Nat
  | [], elapsedLeapSeconds => (epochSec + seconds - elapsedLeapSeconds) * nsPerSec + frame * frameNs
  | leap :: rest, elapsedLeapSeconds =>
      if leap ≤ epochSec then leapLoop epochSec seconds frame rest elapsedLeapSeconds
      else
        let leapSecondVdifValue := leap - epochSec + elapsedLeapSeconds
        if seconds < leapSecondVdifValue then
          (epochSec + seconds - elapsedLeapSeconds) * nsPerSec + frame * frameNs
        else if seconds = leapSecondVdifValue then (leap - 1) * nsPerSec + frame * frameNs
        else leapLoop epochSec seconds frame rest (elapsedLeapSeconds + 1)

def vdifToTimestampNs (epoch : Byte) (seconds frame : Word) : Except String Nat := do
  let epochSec ← vdifEpochToUnixSec epoch
  return leapLoop epochSec seconds.toNat frame.toNat utcPositiveLeapEffectiveUnixSec 0

-- The epoch field has six bits, so the conversion of a header never throws.
theorem reference_epoch_inside (h : VDIF) : (h.getReferenceEpoch.setWidth 8).toNat < 64 := by
  rw [VDIF.getReferenceEpoch, BitField.getBits, BitVec.toNat_setWidth, BitVec.toNat_and]
  have masked : (h.getWord 1 >>> 24).toNat &&& (0x3f#32).toNat ≤ 63 := Nat.and_le_right
  omega

def VDIF.epochSec (h : VDIF) : Nat :=
  have inside := reference_epoch_inside h
  vdifEpochUnixSec[(h.getReferenceEpoch.setWidth 8).toNat]

theorem header_timestamp (h : VDIF) :
    vdifToTimestampNs (h.getReferenceEpoch.setWidth 8) h.getSecondsFromEpoch h.getFrameNumber =
      .ok (leapLoop h.epochSec h.getSecondsFromEpoch.toNat h.getFrameNumber.toNat utcPositiveLeapEffectiveUnixSec 0) := by
  rw [vdifToTimestampNs, vdifEpochToUnixSec, dif_pos (reference_epoch_inside h)]
  rfl

-- The VDIF second of each leap second after the epoch.
def leapSeconds (epochSec : Nat) : List Nat → Nat → List Nat
  | [], _ => []
  | leap :: rest, elapsed =>
      if leap ≤ epochSec then leapSeconds epochSec rest elapsed
      else (leap - epochSec + elapsed) :: leapSeconds epochSec rest (elapsed + 1)

def leapsBy (epochSec seconds : Nat) (leaps : List Nat) (elapsed : Nat) : Nat :=
  ((leapSeconds epochSec leaps elapsed).filter (· ≤ seconds)).length

theorem leap_seconds_above (epochSec : Nat) (leaps : List Nat) (elapsed bound : Nat)
    (above : ∀ leap ∈ leaps, epochSec < leap → bound < leap - epochSec + elapsed) :
    ∀ v ∈ leapSeconds epochSec leaps elapsed, bound < v := by
  induction leaps generalizing elapsed with
  | nil => simp [leapSeconds]
  | cons leap rest ih =>
      have later : ∀ other ∈ rest, epochSec < other → bound < other - epochSec + elapsed :=
        fun other member => above other (List.mem_cons_of_mem leap member)
      rw [leapSeconds]
      by_cases past : leap ≤ epochSec
      · rw [if_pos past]
        exact ih elapsed later
      · rw [if_neg past]
        intro v member
        rcases List.mem_cons.mp member with rfl | inRest
        · exact above leap (List.mem_cons_self ..) (by omega)
        · refine ih (elapsed + 1) ?_ v inRest
          intro other otherMember after
          have before := later other otherMember after
          omega

theorem no_later_leap (epochSec seconds leap elapsed : Nat) (rest : List Nat) (least : ∀ other ∈ rest, leap < other)
    (early : seconds ≤ leap - epochSec + elapsed) :
    (leapSeconds epochSec rest (elapsed + 1)).filter (· ≤ seconds) = [] := by
  have above : ∀ v ∈ leapSeconds epochSec rest (elapsed + 1), seconds < v := by
    apply leap_seconds_above
    intro other member after
    have later := least other member
    omega
  refine List.filter_eq_nil_iff.mpr fun v member => ?_
  simpa using above v member

-- The loop subtracts one second for each leap second that has begun.
theorem leap_loop_counts (epochSec seconds frame : Nat) (leaps : List Nat) (elapsed : Nat)
    (ordered : leaps.Pairwise (· < ·)) :
    leapLoop epochSec seconds frame leaps elapsed =
      (epochSec + seconds - (elapsed + leapsBy epochSec seconds leaps elapsed)) * nsPerSec + frame * frameNs := by
  induction leaps generalizing elapsed with
  | nil => simp [leapLoop, leapsBy, leapSeconds]
  | cons leap rest ih =>
      obtain ⟨least, ordered⟩ := List.pairwise_cons.mp ordered
      rw [leapLoop, leapsBy, leapSeconds]
      by_cases past : leap ≤ epochSec
      · rw [if_pos past, if_pos past]
        exact ih elapsed ordered
      · rw [if_neg past, if_neg past]
        by_cases before : seconds < leap - epochSec + elapsed
        · have none := no_later_leap epochSec seconds leap elapsed rest least (by omega)
          rw [if_pos before, List.filter_cons_of_neg (by simpa using before), none]
          rfl
        · rw [if_neg before, List.filter_cons_of_pos (by simpa using before)]
          by_cases inside : seconds = leap - epochSec + elapsed
          · have none := no_later_leap epochSec seconds leap elapsed rest least (by omega)
            have whole : epochSec + seconds - (elapsed + 1) = leap - 1 := by omega
            rw [if_pos inside, none, List.length_singleton, whole]
          · rw [if_neg inside, ih (elapsed + 1) ordered, List.length_cons, leapsBy]
            congr 2
            omega

def straddlesLeap (epochSec first last : Nat) : Prop :=
  ∃ v ∈ leapSeconds epochSec utcPositiveLeapEffectiveUnixSec 0, first < v ∧ v ≤ last

theorem leaps_by_unchanged (epochSec first last : Nat) (order : first ≤ last) (clear : ¬ straddlesLeap epochSec first last) :
    leapsBy epochSec last utcPositiveLeapEffectiveUnixSec 0 = leapsBy epochSec first utcPositiveLeapEffectiveUnixSec 0 := by
  rw [leapsBy, leapsBy]
  congr 1
  apply List.filter_congr
  intro v member
  by_cases past : v ≤ first
  · simp [past, past.trans order]
  · have late : ¬ v ≤ last := fun inside => clear ⟨v, member, by omega, inside⟩
    simp [past, late]

theorem leap_seconds_length (epochSec : Nat) (leaps : List Nat) (elapsed : Nat) :
    (leapSeconds epochSec leaps elapsed).length ≤ leaps.length := by
  induction leaps generalizing elapsed with
  | nil => exact Nat.le_refl _
  | cons leap rest ih =>
      rw [leapSeconds]
      split
      · exact (ih elapsed).trans (Nat.le_succ _)
      · exact Nat.succ_le_succ (ih (elapsed + 1))

theorem leaps_by_few (epochSec seconds : Nat) : leapsBy epochSec seconds utcPositiveLeapEffectiveUnixSec 0 ≤ 5 :=
  (List.length_filter_le _ _).trans (leap_seconds_length epochSec utcPositiveLeapEffectiveUnixSec 0)

theorem epoch_table_floor (epoch : Byte) (inside : epoch.toNat < 64) : 900000000 ≤ vdifEpochUnixSec[epoch.toNat] := by
  have all : ∀ k (bound : k < 64), 900000000 ≤ vdifEpochUnixSec[k] := by decide
  exact all epoch.toNat inside

theorem epoch_table_ceiling (epoch : Byte) (inside : epoch.toNat < 64) : vdifEpochUnixSec[epoch.toNat] ≤ 1940630400 := by
  have all : ∀ k (bound : k < 64), vdifEpochUnixSec[k] ≤ 1940630400 := by decide
  exact all epoch.toNat inside

theorem epoch_sec_range (h : VDIF) : 900000000 ≤ h.epochSec ∧ h.epochSec ≤ 1940630400 :=
  ⟨epoch_table_floor _ (reference_epoch_inside h), epoch_table_ceiling _ (reference_epoch_inside h)⟩

-- The time of the packet with a linear id, counted in the given epoch.
def packetTimestampNs (epochSec id : Nat) : Nat :=
  leapLoop epochSec (id / VDIF.framesPerSecond) (id % VDIF.framesPerSecond) utcPositiveLeapEffectiveUnixSec 0

theorem packet_timestamp_formula (epochSec id : Nat) : packetTimestampNs epochSec id =
    (epochSec + id / VDIF.framesPerSecond -
      leapsBy epochSec (id / VDIF.framesPerSecond) utcPositiveLeapEffectiveUnixSec 0) * nsPerSec +
      id % VDIF.framesPerSecond * frameNs := by
  rw [packetTimestampNs, leap_loop_counts _ _ _ _ _ (by decide), Nat.zero_add]

-- Between two packets with no leap second in between, time runs at 16 us per
-- packet.
theorem packet_timestamp_advance (epochSec first last : Nat) (floor : 5 ≤ epochSec) (order : first ≤ last)
    (clear : ¬ straddlesLeap epochSec (first / VDIF.framesPerSecond) (last / VDIF.framesPerSecond)) :
    packetTimestampNs epochSec last = packetTimestampNs epochSec first + (last - first) * frameNs := by
  have seconds : first / VDIF.framesPerSecond ≤ last / VDIF.framesPerSecond := Nat.div_le_div_right order
  have few := leaps_by_few epochSec (first / VDIF.framesPerSecond)
  rw [packet_timestamp_formula, packet_timestamp_formula, leaps_by_unchanged epochSec _ _ seconds clear]
  have wholeFirst := Nat.div_add_mod first VDIF.framesPerSecond
  have wholeLast := Nat.div_add_mod last VDIF.framesPerSecond
  simp only [VDIF.framesPerSecond, nsPerSec, frameNs] at wholeFirst wholeLast seconds few ⊢
  omega

theorem packet_timestamp_floor (epochSec id : Nat) (floor : 900000000 ≤ epochSec) :
    899999995 * nsPerSec ≤ packetTimestampNs epochSec id := by
  have few := leaps_by_few epochSec (id / VDIF.framesPerSecond)
  rw [packet_timestamp_formula]
  simp only [nsPerSec, VDIF.framesPerSecond] at few ⊢
  omega

theorem packet_timestamp_ceiling (epochSec id : Nat) (ceiling : epochSec ≤ 1940630400)
    (fits : id < 2 ^ 30 * VDIF.framesPerSecond) : packetTimestampNs epochSec id < 3100000000 * nsPerSec := by
  rw [packet_timestamp_formula]
  simp only [nsPerSec, frameNs, VDIF.framesPerSecond] at fits ⊢
  omega

def VDIF.timestampNs (h : VDIF) : Nat :=
  leapLoop h.epochSec h.getSecondsFromEpoch.toNat h.getFrameNumber.toNat utcPositiveLeapEffectiveUnixSec 0

theorem header_timestamp_range (h : VDIF) : 0 < h.timestampNs ∧ h.timestampNs < 2 ^ 64 := by
  have epoch := epoch_sec_range h
  have few := leaps_by_few h.epochSec h.getSecondsFromEpoch.toNat
  have seconds : h.getSecondsFromEpoch.toNat ≤ 0x3fffffff := by
    rw [VDIF.getSecondsFromEpoch, BitField.getBits, BitVec.toNat_and]
    exact Nat.and_le_right
  have frame : h.getFrameNumber.toNat ≤ 0xffffff := by
    rw [VDIF.getFrameNumber, BitField.getBits, BitVec.toNat_and]
    exact Nat.and_le_right
  rw [VDIF.timestampNs, leap_loop_counts _ _ _ _ _ (by decide), Nat.zero_add]
  simp only [nsPerSec, frameNs]
  omega

-- std::llround on an exact value: halves go away from zero.
def llround (x : ℚ) : Int := if 0 ≤ x then ⌊x + 1 / 2⌋ else -⌊-x + 1 / 2⌋

theorem llround_nat (n : Nat) : llround (n : ℚ) = n := by
  have nonneg : (0 : ℚ) ≤ n := Nat.cast_nonneg n
  rw [llround, if_pos nonneg, Int.floor_eq_iff]
  constructor
  · push_cast
    linarith
  · push_cast
    linarith

def samplingRate : Nat := 256000000

def pfbGroupDelayNs (numTaps fftSize samplingRateHz : Nat) : Except String Nat :=
  if numTaps = 0 ∨ fftSize = 0 ∨ samplingRateHz = 0 then .error "invalid PFB timing parameters"
  else
    let delaySamples : ℚ := ((numTaps - 1 : Nat) : ℚ) * fftSize / 2
    .ok (llround (delaySamples * 1000000000 / samplingRateHz)).toNat

def compensateDelayNs (timestampNs delayNs : Nat) : Nat := if timestampNs < delayNs then 0 else timestampNs - delayNs

-- cfg.fft_period() in exact seconds, and the rounded period of send_data.
def fftPeriod (totalNfft : Nat) : ℚ := (totalNfft : ℚ) / samplingRate

def fftPeriodNs (totalNfft : Nat) : Nat := (llround (fftPeriod totalNfft * 1000000000)).toNat

theorem fft_period_ns_batch (batchsize : Nat) : fftPeriodNs (4096 * batchsize) = 16000 * batchsize := by
  have exact : fftPeriod (4096 * batchsize) * 1000000000 = ((16000 * batchsize : Nat) : ℚ) := by
    simp only [fftPeriod, samplingRate]
    push_cast
    ring
  rw [fftPeriodNs, exact, llround_nat, Int.toNat_natCast]

theorem pfb_group_delay_batch (batchsize : Nat) (positive : 0 < batchsize) :
    pfbGroupDelayNs 4 (4096 * batchsize) samplingRate = .ok (24000 * batchsize) := by
  have exact : ((4 - 1 : Nat) : ℚ) * ((4096 * batchsize : Nat) : ℚ) / 2 * 1000000000 / (samplingRate : ℚ) =
      ((24000 * batchsize : Nat) : ℚ) := by
    simp only [samplingRate]
    push_cast
    ring
  have valid : ¬ ((4 : Nat) = 0 ∨ 4096 * batchsize = 0 ∨ samplingRate = 0) := by
    simp only [samplingRate]
    omega
  rw [pfbGroupDelayNs, if_neg valid]
  simp only [exact, llround_nat, Int.toNat_natCast]

end SpectralLine
