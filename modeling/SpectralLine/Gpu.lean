import SpectralLine.Recv
import SpectralLine.Timing
import SpectralLine.Lib.Streams
import Mathlib.Algebra.BigOperators.Group.Finset.Basic
import Mathlib.Algebra.Field.Defs
import Mathlib.Data.Fin.VecNotation

set_option autoImplicit false

namespace SpectralLine

inductive Pol where
  | A
  | B
deriving DecidableEq

-- The enumerator BLANK is never stored or compared.
inductive NoiseState where
  | off
  | on
deriving DecidableEq, Repr

structure NoiseSourceConfig where
  periodMs : ℚ
  dutyCycle : ℚ
  transitionBlankMs : ℚ

structure Cx (𝕜 : Type) where
  re : 𝕜
  im : 𝕜
deriving DecidableEq

abbrev Float4 (𝕜 : Type) := Fin 4 → 𝕜

def numTaps : Nat := 4
def numSlots : Nat := 16

-- Samples are exact elements of a field. cufftExecC2C is outside the
-- repository. total_nfft = 4096 * batchsize is an int.
structure GpuConfig (𝕜 : Type) where
  batchsize : Nat
  batchsizePos : 0 < batchsize
  totalNfftInt : 4096 * batchsize < 2 ^ 31
  filters : Fin (numTaps * (4096 * batchsize)) → 𝕜
  fft : (Fin (4096 * batchsize) → Cx 𝕜) → Fin (4096 * batchsize) → Cx 𝕜
  accLen : Nat
  accLenPos : 0 < accLen
  spectral : Bool
  calMode : Bool
  noiseSource : NoiseSourceConfig

section

variable {𝕜 : Type} (cfg : GpuConfig 𝕜)

abbrev GpuConfig.nfft : Nat := 4096 * cfg.batchsize
abbrev GpuConfig.ringsize : Nat := numTaps * cfg.nfft

theorem nfft_pos : 0 < cfg.nfft := Nat.mul_pos (by decide) cfg.batchsizePos

theorem ringsize_pos : 0 < cfg.ringsize := Nat.mul_pos (by decide) (nfft_pos cfg)

abbrev Raw := Fin (2 * cfg.nfft) → Byte
abbrev Ring := Fin cfg.ringsize → Cx 𝕜
abbrev Samples := Fin cfg.nfft → Cx 𝕜
abbrev Stokes := Fin cfg.nfft → Float4 𝕜

-- The buffers the kernels and copies work on.
inductive Loc where
  | raw (pol : Pol)
  | ring (pol : Pol)
  | pfbed (pol : Pol)
  | ffted (pol : Pol)
  | stokes (acc : NoiseState)
  | sumPower (acc : NoiseState)
  | slotData (slot : Fin numSlots)
  | slotSum (slot : Fin numSlots)
deriving DecidableEq

abbrev Val : Loc → Type
  | .raw _ => Raw cfg
  | .ring _ => Ring cfg
  | .pfbed _ => Samples cfg
  | .ffted _ => Samples cfg
  | .stokes _ => Stokes cfg
  | .sumPower _ => 𝕜
  | .slotData _ => Stokes cfg
  | .slotSum _ => 𝕜

abbrev DeviceMemory := (l : Loc) → Val cfg l

inductive DeviceOp where
  | copyToDevice (pol : Pol) (bytes : Raw cfg)
  | toRing (pol : Pol) (head : Fin cfg.ringsize)
  | pfbSum (pol : Pol) (head : Fin cfg.ringsize)
  | fft (pol : Pol)
  | fftshift (pol : Pol)
  | stokesAccumulate (acc : NoiseState)
  | continuumAccumulate (acc : NoiseState)
  | clearStokes (acc : NoiseState)
  | clearSum (acc : NoiseState)
  | copyStokes (acc : NoiseState) (slot : Fin numSlots)
  | copySum (acc : NoiseState) (slot : Fin numSlots)

variable [Field 𝕜]

def offsetBinary (sample : Byte) : 𝕜 := ((sample.toNat : 𝕜) - 128) * (1 / 127)

-- uchar2 {x, y} holds Q, I.
def convertSample (src : Raw cfg) (idx : Fin cfg.nfft) : Cx 𝕜 :=
  ⟨offsetBinary (src ⟨2 * idx.val + 1, by omega⟩), offsetBinary (src ⟨2 * idx.val, by omega⟩)⟩

def ringPosition (head : Fin cfg.ringsize) (idx : Fin cfg.nfft) : Fin cfg.ringsize :=
  ⟨(head.val + idx.val) % cfg.ringsize, Nat.mod_lt _ (ringsize_pos cfg)⟩

-- One thread for each sample.
def uint8OffsetIQToRing (src : Raw cfg) (gpuRing : Ring cfg) (head : Fin cfg.ringsize) : Ring cfg :=
  (List.finRange cfg.nfft).foldl
    (fun gpuRing idx => Function.update gpuRing (ringPosition cfg head idx) (convertSample cfg src idx)) gpuRing

def pfbIndex (head : Fin cfg.ringsize) (t : Fin numTaps) (p : Fin cfg.nfft) : Fin cfg.ringsize :=
  let idx := head.val + t.val * cfg.nfft + p.val
  ⟨if cfg.ringsize ≤ idx then idx - cfg.ringsize else idx, by
    have tap := t.isLt
    have below : (t.val + 1) * cfg.nfft ≤ numTaps * cfg.nfft := Nat.mul_le_mul_right _ tap
    rw [Nat.succ_mul] at below
    have start := head.isLt
    have inside := p.isLt
    simp only [GpuConfig.ringsize, idx] at *
    split <;> omega⟩

def tapIndex (t : Fin numTaps) (p : Fin cfg.nfft) : Fin cfg.ringsize :=
  ⟨t.val * cfg.nfft + p.val, by
    have below : (t.val + 1) * cfg.nfft ≤ numTaps * cfg.nfft := Nat.mul_le_mul_right _ t.isLt
    rw [Nat.succ_mul] at below
    have inside := p.isLt
    simp only [GpuConfig.ringsize] at *
    omega⟩

def kernelPfbSum (ring : Ring cfg) (head : Fin cfg.ringsize) : Samples cfg := fun p =>
  (List.finRange numTaps).foldl
    (fun acc t =>
      let vin := ring (pfbIndex cfg head t p)
      let ht := cfg.filters (tapIndex cfg t p)
      ⟨acc.re + vin.re * ht, acc.im + vin.im * ht⟩) ⟨0, 0⟩

-- Each thread below N / 2 swaps two elements.
def fftshift1d (data : Samples cfg) : Samples cfg := fun k =>
  if low : k.val < cfg.nfft / 2 then data ⟨k.val + cfg.nfft / 2, by omega⟩
  else if k.val < 2 * (cfg.nfft / 2) then data ⟨k.val - cfg.nfft / 2, by omega⟩
  else data k

def stokesOf (A B : Samples cfg) : Stokes cfg := fun idx =>
  let x := A idx
  let y := B idx
  ![x.re * x.re + x.im * x.im, y.re * y.re + y.im * y.im, x.re * y.im, x.im * y.re]

def stokesIQUVAccumulate (A B : Samples cfg) (sumStokes : Stokes cfg) : Stokes cfg := sumStokes + stokesOf cfg A B

-- The block tree and atomicAdd sum the bins in an order that exact
-- arithmetic does not see.
def continuumOf (A B : Samples cfg) : 𝕜 :=
  ∑ idx, (((A idx).re * (A idx).re + (A idx).im * (A idx).im) + ((B idx).re * (B idx).re + (B idx).im * (B idx).im))

def continuumPowerAccumulate (A B : Samples cfg) (sumPower : 𝕜) : 𝕜 := sumPower + continuumOf cfg A B

def DeviceOp.dst {cfg : GpuConfig 𝕜} : DeviceOp cfg → Loc
  | .copyToDevice p _ => .raw p
  | .toRing p _ => .ring p
  | .pfbSum p _ => .pfbed p
  | .fft p => .ffted p
  | .fftshift p => .ffted p
  | .stokesAccumulate acc => .stokes acc
  | .continuumAccumulate acc => .sumPower acc
  | .clearStokes acc => .stokes acc
  | .clearSum acc => .sumPower acc
  | .copyStokes _ slot => .slotData slot
  | .copySum _ slot => .slotSum slot

def DeviceOp.reads {cfg : GpuConfig 𝕜} : DeviceOp cfg → Loc → Prop
  | .copyToDevice _ _, _ => False
  | .toRing p _, l => l = .raw p ∨ l = .ring p
  | .pfbSum p _, l => l = .ring p
  | .fft p, l => l = .pfbed p
  | .fftshift p, l => l = .ffted p
  | .stokesAccumulate acc, l => l = .ffted .A ∨ l = .ffted .B ∨ l = .stokes acc
  | .continuumAccumulate acc, l => l = .ffted .A ∨ l = .ffted .B ∨ l = .sumPower acc
  | .clearStokes _, _ => False
  | .clearSum _, _ => False
  | .copyStokes acc _, l => l = .stokes acc
  | .copySum acc _, l => l = .sumPower acc

def DeviceOp.value {cfg : GpuConfig 𝕜} : (op : DeviceOp cfg) → DeviceMemory cfg → Val cfg op.dst
  | .copyToDevice _ bytes, _ => bytes
  | .toRing p head, m => uint8OffsetIQToRing cfg (m (.raw p)) (m (.ring p)) head
  | .pfbSum p head, m => kernelPfbSum cfg (m (.ring p)) head
  | .fft p, m => cfg.fft (m (.pfbed p))
  | .fftshift p, m => fftshift1d cfg (m (.ffted p))
  | .stokesAccumulate acc, m => stokesIQUVAccumulate cfg (m (.ffted .A)) (m (.ffted .B)) (m (.stokes acc))
  | .continuumAccumulate acc, m =>
      let sum : 𝕜 := continuumPowerAccumulate cfg (m (.ffted .A)) (m (.ffted .B)) (m (.sumPower acc))
      sum
  | .clearStokes _, _ => fun _ => (0 : Float4 𝕜)
  | .clearSum _, _ => (0 : 𝕜)
  | .copyStokes acc _, m => m (.stokes acc)
  | .copySum acc _, m => m (.sumPower acc)

theorem device_value_local (op : DeviceOp cfg) (m n : DeviceMemory cfg) (same : ∀ l, op.reads l → m l = n l) :
    op.value m = op.value n := by
  cases op with
  | copyToDevice p bytes => rfl
  | toRing p head =>
      have raw := same (.raw p) (Or.inl rfl)
      have ring := same (.ring p) (Or.inr rfl)
      simp only [DeviceOp.value, raw, ring]
      rfl
  | pfbSum p head =>
      have ring := same (.ring p) rfl
      simp only [DeviceOp.value, ring]
      rfl
  | fft p =>
      have pfbed := same (.pfbed p) rfl
      simp only [DeviceOp.value, pfbed]
      rfl
  | fftshift p =>
      have ffted := same (.ffted p) rfl
      simp only [DeviceOp.value, ffted]
      rfl
  | stokesAccumulate acc =>
      have fftedA := same (.ffted .A) (Or.inl rfl)
      have fftedB := same (.ffted .B) (Or.inr (Or.inl rfl))
      have sum := same (.stokes acc) (Or.inr (Or.inr rfl))
      simp only [DeviceOp.value, fftedA, fftedB, sum]
      rfl
  | continuumAccumulate acc =>
      have fftedA := same (.ffted .A) (Or.inl rfl)
      have fftedB := same (.ffted .B) (Or.inr (Or.inl rfl))
      have sum := same (.sumPower acc) (Or.inr (Or.inr rfl))
      simp only [DeviceOp.value, fftedA, fftedB, sum]
      rfl
  | clearStokes acc => rfl
  | clearSum acc => rfl
  | copyStokes acc slot => exact same (.stokes acc) rfl
  | copySum acc slot => exact same (.sumPower acc) rfl

def gpuDevice : Streams.Device (DeviceOp cfg) Loc (Val cfg) where
  dst := DeviceOp.dst
  reads := DeviceOp.reads
  value := DeviceOp.value
  local_value := device_value_local cfg

-- cudaMemset of every buffer, and memset of every host slot.
def initialMemory : DeviceMemory cfg
  | .raw _ => fun _ => (0 : Byte)
  | .ring _ => fun _ => (⟨0, 0⟩ : Cx 𝕜)
  | .pfbed _ => fun _ => (⟨0, 0⟩ : Cx 𝕜)
  | .ffted _ => fun _ => (⟨0, 0⟩ : Cx 𝕜)
  | .stokes _ => fun _ => (0 : Float4 𝕜)
  | .sumPower _ => (0 : 𝕜)
  | .slotData _ => fun _ => (0 : Float4 𝕜)
  | .slotSum _ => (0 : 𝕜)

end

inductive CudaStream where
  | h2d (pol : Pol)
  | conv (pol : Pol)
  | pfb (pol : Pol)
  | d2h
deriving DecidableEq

inductive CudaEvent where
  | h2dDone (pol : Pol)
  | convDone (pol : Pol)
  | pfbDone (pol : Pol)
  | slotDone (slot : Fin numSlots)
deriving DecidableEq

-- The worker's stores to a HostRingSlot; `publish` is used.store(true).
inductive SlotAction where
  | setFirst (slot : Fin numSlots) (timestampNs : Nat)
  | setLast (slot : Fin numSlots) (timestampNs : Nat)
  | setNoise (slot : Fin numSlots) (noise : NoiseState)
  | publish (slot : Fin numSlots)
deriving DecidableEq

abbrev GpuInstr {𝕜 : Type} (cfg : GpuConfig 𝕜) := Streams.Instr CudaStream CudaEvent (DeviceOp cfg) SlotAction

end SpectralLine
