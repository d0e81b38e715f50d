import SpectralLine.Turns
import SpectralLine.Lib.Keyed

set_option autoImplicit false

namespace SpectralLine

section

variable {𝕜 : Type} [Field 𝕜] (cfg : GpuConfig 𝕜)

def headAt (turns : Nat) : Fin cfg.ringsize := ⟨turns * cfg.nfft % cfg.ringsize, Nat.mod_lt _ (ringsize_pos cfg)⟩

omit [Field 𝕜] in
theorem next_head_at (turns : Nat) : nextHead cfg (headAt cfg turns) = headAt cfg (turns + 1) := by
  apply Fin.ext
  have next : (turns + 1) * cfg.nfft = turns * cfg.nfft + cfg.nfft := Nat.succ_mul _ _
  simp only [nextHead, headAt, Nat.mod_add_mod, next]

omit [Field 𝕜] in
theorem position_value (turns : Nat) (p : Fin cfg.nfft) :
    (ringPosition cfg (headAt cfg turns) p).val = (turns * cfg.nfft + p.val) % cfg.ringsize := by
  simp only [ringPosition, headAt, Nat.mod_add_mod]

theorem mod_distinct (size a b : Nat) (before : a < b) (near : b < a + size) : a % size ≠ b % size := by
  intro same
  have divides : size ∣ b - a := Nat.dvd_of_mod_eq_zero (Nat.sub_mod_eq_zero_of_mod_eq same.symm)
  have least := Nat.le_of_dvd (by omega) divides
  omega

omit [Field 𝕜] in
theorem position_injective (turns : Nat) : Function.Injective (ringPosition cfg (headAt cfg turns)) := by
  intro p q same
  have values := congrArg Fin.val same
  rw [position_value, position_value] at values
  have insideP := p.isLt
  have insideQ := q.isLt
  have size : cfg.ringsize = 4 * cfg.nfft := rfl
  apply Fin.ext
  by_contra different
  rcases Nat.lt_or_gt_of_ne different with below | above
  · exact mod_distinct cfg.ringsize _ _ (Nat.add_lt_add_left below _) (by omega) values
  · exact mod_distinct cfg.ringsize _ _ (Nat.add_lt_add_left above _) (by omega) values.symm

-- Blocks that are less than a ring apart do not share positions.
omit [Field 𝕜] in
theorem position_apart (early late : Nat) (before : early < late) (near : late < early + numTaps) (p q : Fin cfg.nfft) :
    ringPosition cfg (headAt cfg early) p ≠ ringPosition cfg (headAt cfg late) q := by
  intro same
  have values := congrArg Fin.val same
  rw [position_value, position_value] at values
  have insideP := p.isLt
  have insideQ := q.isLt
  have size : cfg.ringsize = 4 * cfg.nfft := rfl
  have taps : numTaps = 4 := rfl
  have lower : (early + 1) * cfg.nfft ≤ late * cfg.nfft := Nat.mul_le_mul_right _ before
  have upper : late * cfg.nfft ≤ (early + 3) * cfg.nfft := Nat.mul_le_mul_right _ (by omega)
  rw [Nat.add_mul] at lower upper
  exact mod_distinct cfg.ringsize _ _ (by omega) (by omega) values

-- The ring after a number of turns: the last four blocks, converted.
def RingHolds (ring : Ring cfg) (turns : Nat) (raw : Nat → Raw cfg) : Prop :=
  ∀ j, j < turns → turns ≤ j + numTaps → ∀ p, ring (ringPosition cfg (headAt cfg j) p) = convertSample cfg (raw j) p

theorem to_ring_holds (ring : Ring cfg) (turns : Nat) (raw : Nat → Raw cfg) (holds : RingHolds cfg ring turns raw) :
    RingHolds cfg (uint8OffsetIQToRing cfg (raw turns) ring (headAt cfg turns)) (turns + 1) raw := by
  intro j before near p
  have taps : numTaps = 4 := rfl
  by_cases newest : j = turns
  · subst newest
    exact Keyed.updates_here _ _ _ ring p (List.mem_finRange p) (position_injective cfg j)
  · rw [uint8OffsetIQToRing, Keyed.updates_elsewhere]
    · exact holds j (by omega) (by omega) p
    · intro q _
      exact (position_apart cfg j turns (by omega) (by omega) p q).symm

def pfbOfBlocks (blocks : Fin numTaps → Raw cfg) : Samples cfg := fun p =>
  (List.finRange numTaps).foldl
    (fun acc t =>
      let vin := convertSample cfg (blocks t) p
      let ht := cfg.filters (tapIndex cfg t p)
      ⟨acc.re + vin.re * ht, acc.im + vin.im * ht⟩) ⟨0, 0⟩

omit [Field 𝕜] in
theorem pfb_index_position (turns : Nat) (full : numTaps ≤ turns) (t : Fin numTaps) (p : Fin cfg.nfft) :
    pfbIndex cfg (headAt cfg turns) t p = ringPosition cfg (headAt cfg (turns - numTaps + t.val)) p := by
  apply Fin.ext
  rw [position_value]
  have taps : numTaps = 4 := rfl
  have tap := t.isLt
  have inside := p.isLt
  have size : cfg.ringsize = 4 * cfg.nfft := rfl
  have room : (t.val + 1) * cfg.nfft ≤ 4 * cfg.nfft := Nat.mul_le_mul_right _ (by omega)
  have start : (headAt cfg turns).val < cfg.ringsize := (headAt cfg turns).isLt
  rw [Nat.succ_mul] at room
  have wrapped : (pfbIndex cfg (headAt cfg turns) t p).val =
      ((headAt cfg turns).val + t.val * cfg.nfft + p.val) % cfg.ringsize := by
    simp only [pfbIndex]
    split
    · rename_i beyond
      rw [Nat.mod_eq_sub_mod beyond, Nat.mod_eq_of_lt (by omega)]
    · rename_i under
      rw [Nat.mod_eq_of_lt (by omega)]
  have blocks : turns * cfg.nfft = (turns - numTaps) * cfg.nfft + cfg.ringsize := by
    rw [size, ← taps, ← Nat.add_mul, Nat.sub_add_cancel full]
  rw [wrapped, headAt, Nat.add_assoc, Nat.mod_add_mod, blocks, Nat.add_mul]
  have shift : (turns - numTaps) * cfg.nfft + cfg.ringsize + (t.val * cfg.nfft + p.val) =
      (turns - numTaps) * cfg.nfft + t.val * cfg.nfft + p.val + cfg.ringsize := by omega
  rw [shift, Nat.add_mod_right]

theorem pfb_sum_blocks (ring : Ring cfg) (turns : Nat) (raw : Nat → Raw cfg) (full : numTaps ≤ turns)
    (holds : RingHolds cfg ring turns raw) :
    kernelPfbSum cfg ring (headAt cfg turns) = pfbOfBlocks cfg fun t => raw (turns - numTaps + t.val) := by
  funext p
  have sample : ∀ t : Fin numTaps, ring (pfbIndex cfg (headAt cfg turns) t p) =
      convertSample cfg (raw (turns - numTaps + t.val)) p := by
    intro t
    have tap := t.isLt
    rw [pfb_index_position cfg turns full t p]
    exact holds _ (by omega) (by omega) p
  simp only [kernelPfbSum, pfbOfBlocks, sample]

end

end SpectralLine
