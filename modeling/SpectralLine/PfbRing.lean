import SpectralLine.Gpu
import SpectralLine.Lib.BlockRing
import SpectralLine.Lib.Keyed

set_option autoImplicit false

namespace SpectralLine

-- The filter bank at any block length and number of taps. Buffers are indexed
-- from 0 by size_t; what is said about them stays below their lengths.
namespace Pfb

-- The threads of <<<(N + 255) / 256, 256>>>.
def gridThreads (n : Nat) : List Nat := List.range ((n + 255) / 256 * 256)

theorem grid_covers (n : Nat) : (gridThreads n).filter (fun idx => !decide (n ≤ idx)) = List.range n := by
  have blocks : n ≤ (n + 255) / 256 * 256 := by omega
  obtain ⟨spare, whole⟩ := Nat.exists_eq_add_of_le blocks
  rw [gridThreads, whole, List.range_add, List.filter_append, List.filter_eq_self.mpr, List.filter_eq_nil_iff.mpr,
    List.append_nil]
  · intro idx member
    obtain ⟨above, _, rfl⟩ := List.mem_map.mp member
    simp
  · intro idx member
    simpa using List.mem_range.mp member

theorem grid_guard {A : Type} (n : Nat) (body : A → Nat → A) (start : A) :
    (gridThreads n).foldl (fun a idx => if n ≤ idx then a else body a idx) start = (List.range n).foldl body start := by
  rw [← grid_covers n, List.foldl_filter]
  congr 1
  funext a idx
  by_cases returns : n ≤ idx
  · simp [returns]
  · simp [returns]

variable {𝕜 : Type} [Field 𝕜]

def convertSample (src : Nat → Byte) (idx : Nat) : Cx 𝕜 := ⟨offsetBinary (src (2 * idx + 1)), offsetBinary (src (2 * idx))⟩

def uint8OffsetIQToRing (src : Nat → Byte) (gpuRing : Nat → Cx 𝕜) (N head W : Nat) : Nat → Cx 𝕜 :=
  (gridThreads N).foldl (fun gpuRing idx =>
    if N ≤ idx then gpuRing else Function.update gpuRing ((head + idx) % W) (convertSample src idx)) gpuRing

def pfbIndex (N taps head t p : Nat) : Nat :=
  let idx := head + t * N + p
  if taps * N ≤ idx then idx - taps * N else idx

def pfbSumAt (ring : Nat → Cx 𝕜) (filters : Nat → 𝕜) (N taps head p : Nat) : Cx 𝕜 :=
  (List.range taps).foldl (fun acc t =>
    let vin := ring (pfbIndex N taps head t p)
    let ht := filters (t * N + p)
    ⟨acc.re + vin.re * ht, acc.im + vin.im * ht⟩) ⟨0, 0⟩

def kernelPfbSum (ring : Nat → Cx 𝕜) (filters : Nat → 𝕜) (output : Nat → Cx 𝕜) (N taps head : Nat) : Nat → Cx 𝕜 :=
  (gridThreads N).foldl (fun output p =>
    if N ≤ p then output else Function.update output p (pfbSumAt ring filters N taps head p)) output

-- m_pfb_head, m_d_input and m_d_pfbed of one polarisation.
structure State (𝕜 : Type) where
  pfbHead : Nat
  input : Nat → Cx 𝕜
  pfbed : Nat → Cx 𝕜

def State.initial : State 𝕜 where
  pfbHead := 0
  input := fun _ => ⟨0, 0⟩
  pfbed := fun _ => ⟨0, 0⟩

def submitPfb (N taps : Nat) (filters : Nat → 𝕜) (st : State 𝕜) (raw : Nat → Byte) : State 𝕜 :=
  let ringsize := N * taps
  let input := uint8OffsetIQToRing raw st.input N st.pfbHead ringsize
  let head := (st.pfbHead + N) % ringsize
  { pfbHead := head
    input
    pfbed := kernelPfbSum input filters st.pfbed N taps head }

def submitted (N taps : Nat) (filters : Nat → 𝕜) (raw : Nat → Nat → Byte) : Nat → State 𝕜
  | 0 => .initial
  | n + 1 => submitPfb N taps filters (submitted N taps filters raw n) (raw n)

-- What the filter is to see: the scaled samples of block j, nothing before block 0.
def scaledSample (raw : Nat → Byte) (p : Nat) : Cx 𝕜 :=
  ⟨(((raw (2 * p + 1)).toNat : 𝕜) - (128 : Nat)) / (127 : Nat), (((raw (2 * p)).toNat : 𝕜) - (128 : Nat)) / (127 : Nat)⟩

def blockSample (raw : Nat → Nat → Byte) (j : ℤ) (p : Nat) : Cx 𝕜 := if j < 0 then ⟨0, 0⟩ else scaledSample (raw j.toNat) p

theorem convert_scales (src : Nat → Byte) (idx : Nat) : convertSample src idx = (scaledSample src idx : Cx 𝕜) := by
  simp only [convertSample, scaledSample, offsetBinary, mul_one_div, Nat.cast_ofNat]

theorem to_ring_here (src : Nat → Byte) (gpuRing : Nat → Cx 𝕜) (N head W idx : Nat) (inside : idx < N)
    (alone : ∀ other < N, (head + other) % W = (head + idx) % W → other = idx) :
    uint8OffsetIQToRing src gpuRing N head W ((head + idx) % W) = convertSample src idx := by
  rw [uint8OffsetIQToRing, grid_guard]
  exact Keyed.updates_here_among (fun idx => (head + idx) % W) (convertSample src) _ gpuRing idx (List.mem_range.mpr inside)
    fun other member same => alone other (List.mem_range.mp member) same

theorem to_ring_elsewhere (src : Nat → Byte) (gpuRing : Nat → Cx 𝕜) (N head W k : Nat)
    (apart : ∀ idx < N, k ≠ (head + idx) % W) : uint8OffsetIQToRing src gpuRing N head W k = gpuRing k := by
  rw [uint8OffsetIQToRing, grid_guard]
  exact Keyed.updates_elsewhere (fun idx => (head + idx) % W) (convertSample src) _ gpuRing k
    fun idx member => (apart idx (List.mem_range.mp member)).symm

theorem pfb_sum_writes (ring : Nat → Cx 𝕜) (filters : Nat → 𝕜) (output : Nat → Cx 𝕜) (N taps head p : Nat) (inside : p < N) :
    kernelPfbSum ring filters output N taps head p = pfbSumAt ring filters N taps head p := by
  rw [kernelPfbSum, grid_guard]
  exact Keyed.updates_here id (pfbSumAt ring filters N taps head) _ output p (List.mem_range.mpr inside) Function.injective_id

theorem multiply_add_sum (vin : Nat → Cx 𝕜) (ht : Nat → 𝕜) (taps : Nat) :
    (List.range taps).foldl (fun acc t => (⟨acc.re + (vin t).re * ht t, acc.im + (vin t).im * ht t⟩ : Cx 𝕜)) ⟨0, 0⟩ =
      ⟨∑ t ∈ Finset.range taps, ht t * (vin t).re, ∑ t ∈ Finset.range taps, ht t * (vin t).im⟩ := by
  induction taps with
  | zero => simp
  | succ taps ih =>
      rw [List.range_succ, List.foldl_append, ih, List.foldl_cons, List.foldl_nil, Finset.sum_range_succ, Finset.sum_range_succ,
        mul_comm (ht taps), mul_comm (ht taps)]

section

variable (N taps : Nat) (filters : Nat → 𝕜) (raw : Nat → Nat → Byte)

theorem submitted_head (turns : Nat) : (submitted N taps filters raw turns).pfbHead = turns * N % (taps * N) := by
  induction turns with
  | zero => rw [Nat.zero_mul, Nat.zero_mod]; rfl
  | succ turns ih => rw [submitted, submitPfb, ih, Nat.mul_comm N, Nat.mod_add_mod, Nat.succ_mul]

theorem written_cell (turns p : Nat) :
    ((submitted N taps filters raw turns).pfbHead + p) % (N * taps) = BlockRing.cell N taps turns p := by
  rw [submitted_head, Nat.mul_comm N, Nat.mod_add_mod, BlockRing.cell]

theorem submitted_ring (depth : 1 ≤ taps) (turns : Nat) :
    BlockRing.Holds N taps (submitted N taps filters raw turns).input turns (blockSample raw) := by
  induction turns with
  | zero => exact BlockRing.holds_start N taps _ _ fun j before p => if_pos before
  | succ turns ih =>
      refine BlockRing.holds_next N taps _ _ turns _ ih ?_ ?_
      · intro p inside
        have alone : ∀ other < N, ((submitted N taps filters raw turns).pfbHead + other) % (N * taps) =
            ((submitted N taps filters raw turns).pfbHead + p) % (N * taps) → other = p := by
          intro other below same
          rw [written_cell, written_cell] at same
          exact BlockRing.cell_injective N taps turns other p depth below inside same
        have written := to_ring_here (raw turns) (submitted N taps filters raw turns).input N _ (N * taps) p inside alone
        rw [written_cell, convert_scales] at written
        rw [blockSample, if_neg (by omega), Int.toNat_natCast]
        exact written
      · intro k apart
        refine to_ring_elsewhere _ _ _ _ _ _ fun idx below => ?_
        rw [written_cell]
        exact apart idx below

theorem submitted_index (turns t p : Nat) (tap : t < taps) (inside : p < N) :
    pfbIndex N taps (submitted N taps filters raw turns).pfbHead t p = BlockRing.cell N taps (turns + t) p := by
  rw [pfbIndex, submitted_head]
  exact BlockRing.wrapped_once N taps turns t p tap inside

-- After block n the filter output is the sum over the last blocks, oldest
-- first, and no index leaves the ring.
theorem pfb_sliding_window (length : 1 ≤ N) (depth : 1 ≤ taps) (n : Nat) :
    (∀ p < N, (submitted N taps filters raw (n + 1)).pfbed p =
      ⟨∑ t ∈ Finset.range taps, filters (t * N + p) * (blockSample raw ((n : ℤ) - taps + 1 + t) p).re,
        ∑ t ∈ Finset.range taps, filters (t * N + p) * (blockSample raw ((n : ℤ) - taps + 1 + t) p).im⟩) ∧
    (∀ p < N, ((submitted N taps filters raw n).pfbHead + p) % (N * taps) < taps * N) ∧
    ∀ t < taps, ∀ p < N, pfbIndex N taps (submitted N taps filters raw (n + 1)).pfbHead t p < taps * N ∧
      t * N + p < taps * N := by
  refine ⟨?_, ?_, ?_⟩
  · intro p inside
    have ring := submitted_ring N taps filters raw depth (n + 1)
    have sample : ∀ t ∈ Finset.range taps,
        (submitted N taps filters raw (n + 1)).input (pfbIndex N taps (submitted N taps filters raw (n + 1)).pfbHead t p) =
          blockSample raw ((n : ℤ) - taps + 1 + t) p := by
      intro t member
      have tap := Finset.mem_range.mp member
      rw [submitted_index N taps filters raw (n + 1) t p tap inside, ring t tap p inside]
      congr 1
      omega
    have output : (submitted N taps filters raw (n + 1)).pfbed p = pfbSumAt (submitted N taps filters raw (n + 1)).input filters N
        taps (submitted N taps filters raw (n + 1)).pfbHead p := pfb_sum_writes _ _ _ _ _ _ _ inside
    rw [output, pfbSumAt, multiply_add_sum]
    congr 1
    · exact Finset.sum_congr rfl fun t member => by rw [sample t member]
    · exact Finset.sum_congr rfl fun t member => by rw [sample t member]
  · intro p _
    rw [written_cell]
    exact BlockRing.cell_inside N taps n p length depth
  · intro t tap p inside
    rw [submitted_index N taps filters raw (n + 1) t p tap inside]
    refine ⟨BlockRing.cell_inside N taps _ p length depth, ?_⟩
    have below : (t + 1) * N ≤ taps * N := Nat.mul_le_mul_right N tap
    rw [Nat.succ_mul] at below
    omega

end

-- One sample for each block, two taps of one: the first full-scale block.
theorem pfb_sliding_window_start : (submitted 1 2 (fun _ => (1 : ℚ)) (fun _ _ => 0xff) 1).pfbed 0 = ⟨1, 1⟩ := by
  rw [(pfb_sliding_window 1 2 (fun _ => (1 : ℚ)) (fun _ _ => 0xff) (by decide) (by decide) 0).1 0 (by decide)]
  decide +kernel

-- The worker's kernels are these at their own size.
section

variable (cfg : GpuConfig 𝕜)

def extend {n : Nat} {A : Type} (fill : A) (buffer : Fin n → A) (k : Nat) : A := if inside : k < n then buffer ⟨k, inside⟩ else fill

theorem extend_fin {n : Nat} {A : Type} (fill : A) (buffer : Fin n → A) (k : Fin n) : extend fill buffer k.val = buffer k := by
  rw [extend, dif_pos k.isLt]

theorem extend_update {n : Nat} {A : Type} (fill : A) (buffer : Fin n → A) (k : Fin n) (value : A) :
    extend fill (Function.update buffer k value) = Function.update (extend fill buffer) k.val value := by
  funext j
  by_cases inside : j < n
  · by_cases here : j = k.val
    · subst here
      rw [Function.update_self, extend_fin, Function.update_self]
    · have other : (⟨j, inside⟩ : Fin n) ≠ k := fun same => here (congrArg Fin.val same)
      rw [Function.update_of_ne here, extend, dif_pos inside, Function.update_of_ne other, extend, dif_pos inside]
  · have other : j ≠ k.val := fun same => inside (same ▸ k.isLt)
    rw [Function.update_of_ne other, extend, dif_neg inside, extend, dif_neg inside]

theorem gpu_to_ring (src : Raw cfg) (ring : Ring cfg) (head k : Fin cfg.ringsize) :
    SpectralLine.uint8OffsetIQToRing cfg src ring head k =
      uint8OffsetIQToRing (extend 0 src) (extend ⟨0, 0⟩ ring) cfg.nfft head.val cfg.ringsize k.val := by
  have sample : ∀ idx : Fin cfg.nfft, convertSample (extend 0 src) idx.val = SpectralLine.convertSample cfg src idx := by
    intro idx
    have inPhase := extend_fin 0 src ⟨2 * idx.val + 1, by omega⟩
    have quadrature := extend_fin 0 src ⟨2 * idx.val, by omega⟩
    simp only at inPhase quadrature
    rw [convertSample, SpectralLine.convertSample, inPhase, quadrature]
  rw [uint8OffsetIQToRing, grid_guard, SpectralLine.uint8OffsetIQToRing, ← List.map_coe_finRange_eq_range, List.foldl_map]
  generalize List.finRange cfg.nfft = threads
  induction threads generalizing ring with
  | nil => exact (extend_fin _ ring k).symm
  | cons idx rest ih =>
      have first := extend_update (⟨0, 0⟩ : Cx 𝕜) ring (ringPosition cfg head idx) (SpectralLine.convertSample cfg src idx)
      rw [List.foldl_cons, List.foldl_cons, ih, first, sample]
      rfl

theorem gpu_pfb_sum (ring : Ring cfg) (head : Fin cfg.ringsize) (output : Nat → Cx 𝕜) (p : Fin cfg.nfft) :
    SpectralLine.kernelPfbSum cfg ring head p =
      kernelPfbSum (extend ⟨0, 0⟩ ring) (extend 0 cfg.filters) output cfg.nfft numTaps head.val p.val := by
  rw [pfb_sum_writes _ _ _ _ _ _ _ p.isLt, pfbSumAt, SpectralLine.kernelPfbSum, ← List.map_coe_finRange_eq_range, List.foldl_map]
  congr 1
  funext acc t
  have sample : extend ⟨0, 0⟩ ring (pfbIndex cfg.nfft numTaps head.val t.val p.val) = ring (SpectralLine.pfbIndex cfg head t p) :=
    extend_fin _ ring (SpectralLine.pfbIndex cfg head t p)
  have tap : extend 0 cfg.filters (t.val * cfg.nfft + p.val) = cfg.filters (tapIndex cfg t p) :=
    extend_fin _ cfg.filters (tapIndex cfg t p)
  rw [sample, tap]

end

end Pfb

end SpectralLine
