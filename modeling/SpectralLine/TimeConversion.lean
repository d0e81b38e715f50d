import SpectralLine.Timing
import Mathlib.Data.List.Basic

set_option autoImplicit false

namespace SpectralLine

-- The table leap seconds after the epoch, and how many of them have begun:
-- the one at index i begins at VDIF second L - E + i.
def leapsAfter (epochSec : Nat) (leaps : List Nat) : List Nat := leaps.filter (epochSec < ·)

def leapsBegun (epochSec seconds : Nat) (leaps : List Nat) : Nat :=
  ((leapsAfter epochSec leaps).zipIdx.filter fun leap => leap.1 - epochSec + leap.2 ≤ seconds).length

theorem leap_seconds_indexed (epochSec : Nat) (leaps : List Nat) (elapsed : Nat) :
    leapSeconds epochSec leaps elapsed =
      ((leapsAfter epochSec leaps).zipIdx elapsed).map fun leap => leap.1 - epochSec + leap.2 := by
  induction leaps generalizing elapsed with
  | nil => rfl
  | cons leap rest ih =>
      by_cases past : leap ≤ epochSec
      · rw [leapSeconds, if_pos past, ih, leapsAfter, leapsAfter, List.filter_cons_of_neg (by simpa using past)]
      · rw [leapSeconds, if_neg past, ih, leapsAfter, leapsAfter, List.filter_cons_of_pos (by simpa using past)]
        rfl

theorem leaps_by_begun (epochSec seconds : Nat) (leaps : List Nat) :
    leapsBy epochSec seconds leaps 0 = leapsBegun epochSec seconds leaps := by
  rw [leapsBy, leap_seconds_indexed, List.filter_map, List.length_map]
  rfl

theorem leap_seconds_ascend (epochSec : Nat) (leaps : List Nat) (elapsed : Nat) (ordered : leaps.Pairwise (· < ·)) :
    (leapSeconds epochSec leaps elapsed).Pairwise (· < ·) := by
  induction leaps generalizing elapsed with
  | nil => exact List.Pairwise.nil
  | cons leap rest ih =>
      obtain ⟨least, ordered⟩ := List.pairwise_cons.mp ordered
      rw [leapSeconds]
      by_cases past : leap ≤ epochSec
      · rw [if_pos past]
        exact ih elapsed ordered
      · rw [if_neg past]
        refine List.pairwise_cons.mpr ⟨?_, ih (elapsed + 1) ordered⟩
        apply leap_seconds_above
        intro other member after
        have later := least other member
        omega

theorem ascending_count (values : List Nat) (low high : Nat) (ascend : values.Pairwise (· < ·))
    (inside : ∀ v ∈ values, low < v ∧ v ≤ high) : values.length ≤ high - low := by
  have within : values ⊆ List.range' (low + 1) (high - low) := by
    intro v member
    obtain ⟨above, below⟩ := inside v member
    rw [List.mem_range'_1]
    omega
  have distinct : values.Nodup := ascend.imp Nat.ne_of_lt
  have fits := (List.subperm_of_subset distinct within).length_le
  rwa [List.length_range'] at fits

theorem leaps_begun_step (values : List Nat) (ascend : values.Pairwise (· < ·)) (first last : Nat) (order : first ≤ last) :
    (values.filter (· ≤ last)).length ≤ (values.filter (· ≤ first)).length + (last - first) := by
  induction values with
  | nil => simp
  | cons v rest ih =>
      obtain ⟨least, ascend⟩ := List.pairwise_cons.mp ascend
      by_cases early : v ≤ first
      · rw [List.filter_cons_of_pos (by simpa using early.trans order), List.filter_cons_of_pos (by simpa using early)]
        have next := ih ascend
        simp only [List.length_cons]
        omega
      · have all : ∀ w ∈ (v :: rest).filter (· ≤ last), first < w ∧ w ≤ last := by
          intro w member
          obtain ⟨inside, below⟩ := List.mem_filter.mp member
          refine ⟨?_, by simpa using below⟩
          rcases List.mem_cons.mp inside with rfl | later
          · omega
          · have above := least w later
            omega
        have few := ascending_count _ first last ((List.pairwise_cons.mpr ⟨least, ascend⟩).filter _) all
        omega

def leapsBetween (early late : Nat) (leaps : List Nat) : Nat := (leaps.filter fun leap => early < leap ∧ leap ≤ late).length

-- Past the later epoch both counts meet the same leap seconds; before it only
-- the earlier epoch does.
theorem leaps_by_shift (early late seconds shifted : Nat) (leaps : List Nat) (elapsed since : Nat) (order : early ≤ late)
    (ordered : leaps.Pairwise (· < ·)) (fresh : leapsBetween early late leaps = 0 ∨ since = 0)
    (same : shifted + since = seconds + (late - early) + leapsBetween early late leaps + elapsed) :
    leapsBy early shifted leaps elapsed = leapsBetween early late leaps + leapsBy late seconds leaps since := by
  induction leaps generalizing elapsed since with
  | nil => rfl
  | cons leap rest ih =>
      obtain ⟨least, ordered⟩ := List.pairwise_cons.mp ordered
      rw [leapsBy, leapsBy, leapSeconds, leapSeconds]
      by_cases past : leap ≤ early
      · have skipped : leapsBetween early late (leap :: rest) = leapsBetween early late rest := by
          rw [leapsBetween, List.filter_cons_of_neg (by simp; omega), leapsBetween]
        rw [skipped] at fresh same ⊢
        rw [if_pos past, if_pos (past.trans order)]
        exact ih elapsed since ordered fresh same
      · rw [if_neg past]
        by_cases between : leap ≤ late
        · have counted : leapsBetween early late (leap :: rest) = leapsBetween early late rest + 1 := by
            rw [leapsBetween, List.filter_cons_of_pos (by simp; omega), List.length_cons, leapsBetween]
          have start : since = 0 := by
            rcases fresh with none | zero
            · omega
            · exact zero
          subst start
          have later := ih (elapsed + 1) 0 ordered (Or.inr rfl) (by omega)
          rw [leapsBy, leapsBy] at later
          rw [if_pos between, List.filter_cons_of_pos (by simp; omega), List.length_cons, later, counted]
          omega
        · have none : leapsBetween early late rest = 0 := by
            rw [leapsBetween, List.length_eq_zero_iff, List.filter_eq_nil_iff]
            intro other member
            have above := least other member
            simp
            omega
          have skipped : leapsBetween early late (leap :: rest) = 0 := by
            rw [leapsBetween, List.filter_cons_of_neg (by simp; omega)]
            exact none
          rw [skipped] at same
          have later := ih (elapsed + 1) (since + 1) ordered (Or.inl none) (by omega)
          rw [none, leapsBy, leapsBy] at later
          rw [if_neg between, skipped]
          by_cases begun : leap - early + elapsed ≤ shifted
          · rw [List.filter_cons_of_pos (by simpa using begun), List.filter_cons_of_pos (by simp; omega), List.length_cons,
              List.length_cons, later]
            omega
          · rw [List.filter_cons_of_neg (by simpa using begun), List.filter_cons_of_neg (by simp; omega), later]

theorem timestamp_formula (epoch : Byte) (inside : epoch.toNat < 64) (seconds frame : Word) :
    vdifToTimestampNs epoch seconds frame = .ok
      ((vdifEpochUnixSec[epoch.toNat] + seconds.toNat -
        leapsBegun vdifEpochUnixSec[epoch.toNat] seconds.toNat utcPositiveLeapEffectiveUnixSec) * nsPerSec +
        frame.toNat * frameNs) := by
  rw [vdifToTimestampNs, vdifEpochToUnixSec, dif_pos inside, ← leaps_by_begun]
  have counts := leap_loop_counts vdifEpochUnixSec[epoch.toNat] seconds.toNat frame.toNat utcPositiveLeapEffectiveUnixSec 0
    (by decide)
  rw [Nat.zero_add] at counts
  exact congrArg Except.ok counts

def timestampOf (epochSec seconds frame : Nat) : Nat :=
  (epochSec + seconds - leapsBegun epochSec seconds utcPositiveLeapEffectiveUnixSec) * nsPerSec + frame * frameNs

theorem timestamp_monotone (epochSec first last frame : Nat) (order : first ≤ last) :
    timestampOf epochSec first frame ≤ timestampOf epochSec last frame := by
  have few := leaps_begun_step (leapSeconds epochSec utcPositiveLeapEffectiveUnixSec 0)
    (leap_seconds_ascend epochSec _ 0 (by decide)) first last order
  have count := leaps_by_begun epochSec first utcPositiveLeapEffectiveUnixSec
  have countLast := leaps_by_begun epochSec last utcPositiveLeapEffectiveUnixSec
  rw [leapsBy] at count countLast
  rw [count, countLast] at few
  have seconds : epochSec + first - leapsBegun epochSec first utcPositiveLeapEffectiveUnixSec ≤
      epochSec + last - leapsBegun epochSec last utcPositiveLeapEffectiveUnixSec := by omega
  exact Nat.add_le_add_right (Nat.mul_le_mul_right _ seconds) _

theorem timestamp_translated (early late seconds frame : Nat) (order : early ≤ late) :
    timestampOf early (seconds + (late - early) + leapsBetween early late utcPositiveLeapEffectiveUnixSec) frame =
      timestampOf late seconds frame := by
  have shift := leaps_by_shift early late seconds _ utcPositiveLeapEffectiveUnixSec 0 0 order (by decide) (Or.inr rfl) rfl
  rw [leaps_by_begun, leaps_by_begun] at shift
  rw [timestampOf, timestampOf, shift]
  congr 2
  omega

theorem epoch_table_sorted : ∀ late early : Fin 64, early ≤ late → vdifEpochUnixSec.get early ≤ vdifEpochUnixSec.get late := by
  decide +kernel

theorem epoch_table_ascends (early late : Nat) (order : early ≤ late) (inside : late < 64) :
    vdifEpochUnixSec[early] ≤ vdifEpochUnixSec[late] :=
  epoch_table_sorted ⟨late, inside⟩ ⟨early, Nat.lt_of_le_of_lt order inside⟩ order

theorem epoch_independence :
    (∀ (epoch : Byte) (inside : epoch.toNat < 64) (seconds frame : Word),
      vdifToTimestampNs epoch seconds frame = .ok (timestampOf vdifEpochUnixSec[epoch.toNat] seconds.toNat frame.toNat)) ∧
    (∀ (epoch : Byte) (_ : epoch.toNat < 64) (first last frame : Word), first ≤ last →
      ∃ early late, vdifToTimestampNs epoch first frame = .ok early ∧ vdifToTimestampNs epoch last frame = .ok late ∧
        early ≤ late) ∧
    (∀ (early late : Byte) (order : early.toNat ≤ late.toNat) (inside : late.toNat < 64) (seconds frame : Word),
      let shifted := seconds.toNat + (vdifEpochUnixSec[late.toNat] - vdifEpochUnixSec[early.toNat]) +
        leapsBetween vdifEpochUnixSec[early.toNat] vdifEpochUnixSec[late.toNat] utcPositiveLeapEffectiveUnixSec
      shifted < 2 ^ 32 →
        vdifToTimestampNs early (BitVec.ofNat 32 shifted) frame = vdifToTimestampNs late seconds frame) := by
  refine ⟨timestamp_formula, ?_, ?_⟩
  · intro epoch inside first last frame order
    exact ⟨_, _, timestamp_formula epoch inside first frame, timestamp_formula epoch inside last frame,
      timestamp_monotone _ _ _ _ order⟩
  · intro early late order inside seconds frame shifted fits
    have ascends := epoch_table_ascends early.toNat late.toNat order inside
    have exact : (BitVec.ofNat 32 shifted).toNat = shifted := by rw [BitVec.toNat_ofNat, Nat.mod_eq_of_lt fits]
    rw [timestamp_formula early (Nat.lt_of_le_of_lt order inside), timestamp_formula late inside, exact]
    exact congrArg Except.ok (timestamp_translated _ _ seconds.toNat frame.toNat ascends)

end SpectralLine
