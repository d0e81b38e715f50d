import SpectralLine.RoundTrip
import SpectralLine.PayloadDecode
import SpectralLine.QuantizeAvx
import SpectralLine.Lib.Checked
import SpectralLine.Lib.Rebuffer
import Mathlib.Algebra.Order.Field.Rat

set_option autoImplicit false

namespace SpectralLine

open Checked

-- plot_vdif_spectrum.py and plot_old_vdif_spectrum.py on exact numbers. The
-- tables of np.hanning and np.fft.fft, and 10 log10 over the floor, are
-- numpy's.
structure SpectrumOps (𝕜 : Type) where
  hanning : Nat → List 𝕜
  fft : List (𝕜 × 𝕜) → List (𝕜 × 𝕜)
  decibel : 𝕜 → 𝕜

structure SpectrumOptions (𝕜 : Type) where
  sampleRateHz : 𝕜
  nfft : Int
  maxFrames : Option Int
  framesPerSecond : Nat
  windowName : String

structure SpectrumResult (𝕜 : Type) where
  frequencyHz : List 𝕜
  psdDbfsHz : List 𝕜
  averages : Nat
  bitsPerSample : Nat
  threadId : Nat
  stats : ReadStats

-- The locals of calculate_spectrum; `sums` are accumulated and averages.
structure Averager (𝕜 : Type) where
  firstHeader : Option VdifHeader
  sums : List 𝕜 × Nat
  pending : List (𝕜 × 𝕜)

-- Q,I bytes as I,Q pairs.
def oldPairs (convert : Byte → Int) : List Byte → List (Int × Int)
  | q :: i :: rest => (convert i, convert q) :: oldPairs convert rest
  | _ => []

def decodeOldQiPayload (payload : List Byte) (encoding : String) : Except String (List (Int × Int)) :=
  if payload.length % 2 ≠ 0 then .error "old Q,I payload has an odd byte count"
  else if encoding = "offset-binary" then .ok (oldPairs (fun byte => (byte.toNat : Int) - 128) payload)
  else if encoding = "twos-complement" then .ok (oldPairs BitVec.toInt payload)
  else .error ("unknown sample encoding '" ++ encoding ++ "'; expected offset-binary " ++ "or twos-complement")

section

variable {𝕜 : Type} [Field 𝕜]

def scaleSamples (fullScale : 𝕜) (samples : List (Int × Int)) : List (𝕜 × 𝕜) :=
  samples.map fun sample => ((sample.1 : 𝕜) / fullScale, (sample.2 : 𝕜) / fullScale)

def decodeFrame (header : VdifHeader) (payload : List Byte) : Except String (List (𝕜 × 𝕜)) := do
  let samples ← decodeComplexPayload payload header.bitsPerSample
  return scaleSamples ((1 <<< (header.bitsPerSample - 1) : Nat) : 𝕜) samples

def decodeOldFrame (encoding : String) (header : VdifHeader) (payload : List Byte) : Except String (List (𝕜 × 𝕜)) := do
  refuse (header.bitsPerSample ≠ 8)
    ("old Q,I reader requires 8-bit components; VDIF header " ++ "declares " ++ toString header.bitsPerSample ++ " bits")
  let samples ← decodeOldQiPayload payload encoding
  return scaleSamples ((128 : Nat) : 𝕜) samples

def spectrumWindow (ops : SpectrumOps 𝕜) (name : String) (nfft : Nat) : Except String (List 𝕜) :=
  if name = "hann" then .ok (ops.hanning nfft)
  else if name = "rectangular" then .ok (List.replicate nfft 1)
  else .error ("unknown window " ++ name)

def accumulateBlock (ops : SpectrumOps 𝕜) (window : List 𝕜) (sums : List 𝕜 × Nat) (block : List (𝕜 × 𝕜)) : List 𝕜 × Nat :=
  let transformed := ops.fft (List.zipWith (fun sample weight => (sample.1 * weight, sample.2 * weight)) block window)
  (List.zipWith (fun total z => total + (z.1 * z.1 + z.2 * z.2)) sums.1 transformed, sums.2 + 1)

def averageFrame (ops : SpectrumOps 𝕜) (window : List 𝕜) (nfft : Nat)
    (decode : VdifHeader → List Byte → Except String (List (𝕜 × 𝕜))) (st : Averager 𝕜) (frame : VdifHeader × List Byte) :
    Except String (Averager 𝕜) := do
  let samples ← decode frame.1 frame.2
  let held := Rebuffer.drain nfft (accumulateBlock ops window) st.sums (st.pending ++ samples)
  return { firstHeader := st.firstHeader.or (some frame.1), sums := held.1, pending := held.2 }

def Averager.initial (nfft : Nat) : Averager 𝕜 := ⟨none, (List.replicate nfft 0, 0), []⟩

def fftshift (values : List 𝕜) : List 𝕜 := values.drop ((values.length + 1) / 2) ++ values.take ((values.length + 1) / 2)

def fftfreq (n : Nat) (d : 𝕜) : List 𝕜 :=
  (List.range n).map fun k => (if k < (n + 1) / 2 then (k : 𝕜) else (k : 𝕜) - (n : 𝕜)) * (1 / ((n : 𝕜) * d))

def averagedPsd (ops : SpectrumOps 𝕜) (o : SpectrumOptions 𝕜) (window : List 𝕜) (sums : List 𝕜 × Nat) : List 𝕜 :=
  let windowPower := (window.map fun weight => weight * weight).sum
  let psd := sums.1.map fun total => total / ((sums.2 : 𝕜) * o.sampleRateHz * windowPower)
  (fftshift psd).map ops.decibel

-- Everything after the loop.
def finishSpectrum (ops : SpectrumOps 𝕜) (o : SpectrumOptions 𝕜) (window : List 𝕜) (firstHeader : Option VdifHeader)
    (sums : List 𝕜 × Nat) (stats : ReadStats) : Except String (SpectrumResult 𝕜) :=
  match firstHeader with
  | none => .error "no valid VDIF frames were found"
  | some first => do
      refuse (sums.2 = 0)
        ("not enough samples for one " ++ toString o.nfft ++ "-point FFT; " ++ "read " ++ toString stats.framesUsed ++ " valid frame(s)")
      return {
        frequencyHz := fftshift (fftfreq o.nfft.toNat (1 / o.sampleRateHz))
        psdDbfsHz := averagedPsd ops o window sums
        averages := sums.2
        bitsPerSample := first.bitsPerSample
        threadId := first.threadId
        stats }

def SpectrumOptions.reading (o : SpectrumOptions 𝕜) (includesHeader : Bool) : ReadOptions where
  framesPerSecond := o.framesPerSecond
  maxFrames := o.maxFrames.map Int.toNat
  frameLengthIncludesHeader := includesHeader

-- The generator is lazy: a payload that does not decode stops the loop before
-- the reader sees the frames after it.
def averageSpectrum (ops : SpectrumOps 𝕜) (o : SpectrumOptions 𝕜) (includesHeader : Bool)
    (decode : VdifHeader → List Byte → Except String (List (𝕜 × 𝕜))) (paths : List (String × List Byte)) :
    Except String (SpectrumResult 𝕜) := do
  let window ← spectrumWindow ops o.windowName o.nfft.toNat
  let read := iterVdifFrames (o.reading includesHeader) {} paths
  let st ← read.1.yielded.foldlM (averageFrame ops window o.nfft.toNat decode) (Averager.initial o.nfft.toNat)
  match read.2 with
  | some message => .error message
  | none => finishSpectrum ops o window st.firstHeader st.sums read.1.stats

variable [LinearOrder 𝕜]

def checkFft (nfft : Int) : Prop := nfft < 2 ∨ nfft.toNat &&& (nfft.toNat - 1) ≠ 0

instance (nfft : Int) : Decidable (checkFft nfft) := inferInstanceAs (Decidable (_ ∨ _))

def checkFrames (maxFrames : Option Int) : Prop := ∃ limit ∈ maxFrames, limit ≤ 0

instance (maxFrames : Option Int) : Decidable (checkFrames maxFrames) :=
  inferInstanceAs (Decidable (∃ limit ∈ maxFrames, limit ≤ 0))

def calculateSpectrum (ops : SpectrumOps 𝕜) (paths : List (String × List Byte)) (o : SpectrumOptions 𝕜) :
    Except String (SpectrumResult 𝕜) := do
  refuse (paths.length = 0) "at least one input VDIF file is required"
  refuse (o.sampleRateHz ≤ 0) "sample rate must be positive"
  refuse (checkFft o.nfft) "FFT size must be a power of two greater than one"
  refuse (checkFrames o.maxFrames) "max frames must be positive or omitted"
  averageSpectrum ops o true decodeFrame paths

def calculateOldSpectrum (ops : SpectrumOps 𝕜) (paths : List (String × List Byte)) (o : SpectrumOptions 𝕜) (encoding : String) :
    Except String (SpectrumResult 𝕜) := do
  refuse (paths.length = 0) "at least one input VDIF file is required"
  refuse (o.sampleRateHz ≤ 0) "sample rate must be positive"
  refuse (o.framesPerSecond = 0) "frames per second must be positive"
  refuse (checkFft o.nfft) "FFT size must be a power of two greater than one"
  refuse (checkFrames o.maxFrames) "max frames must be positive or omitted"
  let result ← averageSpectrum ops o false (decodeOldFrame encoding) paths
  return { result with bitsPerSample := 8 }

omit [LinearOrder 𝕜]

-- What is averaged: the whole sample stream, cut into blocks.
def blockSums (ops : SpectrumOps 𝕜) (window : List 𝕜) (nfft : Nat) (samples : List (𝕜 × 𝕜)) : List 𝕜 × Nat :=
  (Rebuffer.blocks nfft samples).foldl (accumulateBlock ops window) (List.replicate nfft 0, 0)

-- The plain way: decode every frame, join the samples, cut them.
def plainSpectrum (ops : SpectrumOps 𝕜) (o : SpectrumOptions 𝕜) (includesHeader : Bool)
    (decode : VdifHeader → List Byte → Except String (List (𝕜 × 𝕜))) (paths : List (String × List Byte)) :
    Except String (SpectrumResult 𝕜) := do
  let window ← spectrumWindow ops o.windowName o.nfft.toNat
  let read := iterVdifFrames (o.reading includesHeader) {} paths
  let chunks ← read.1.yielded.mapM fun frame => decode frame.1 frame.2
  match read.2 with
  | some message => .error message
  | none =>
      finishSpectrum ops o window (read.1.yielded.head?.map Prod.fst) (blockSums ops window o.nfft.toNat chunks.flatten) read.1.stats

theorem average_frames (ops : SpectrumOps 𝕜) (window : List 𝕜) (nfft : Nat)
    (decode : VdifHeader → List Byte → Except String (List (𝕜 × 𝕜))) (frames : List (VdifHeader × List Byte)) (st : Averager 𝕜) :
    frames.foldlM (averageFrame ops window nfft decode) st =
      (frames.mapM fun frame => decode frame.1 frame.2).map fun chunks =>
        let held := chunks.foldl (fun held chunk => Rebuffer.drain nfft (accumulateBlock ops window) held.1 (held.2 ++ chunk))
          (st.sums, st.pending)
        ⟨st.firstHeader.or (frames.head?.map Prod.fst), held.1, held.2⟩ := by
  induction frames generalizing st with
  | nil =>
      rw [List.foldlM_nil, List.mapM_nil, List.head?_nil, Option.map_none, Option.or_none]
      rfl
  | cons frame rest ih =>
      rw [List.foldlM_cons, List.mapM_cons, averageFrame]
      cases decode frame.1 frame.2 with
      | error reason => rfl
      | ok samples =>
          change List.foldlM _ _ rest = _
          rw [ih]
          have first : (st.firstHeader.or (some frame.1)).or (rest.head?.map Prod.fst) = st.firstHeader.or (some frame.1) := by
            cases st.firstHeader <;> rfl
          simp only [first]
          cases List.mapM (fun frame => decode frame.1 frame.2) rest with
          | error reason => rfl
          | ok chunks => rfl

theorem drain_nothing (nfft : Nat) (positive : 0 < nfft) (ops : SpectrumOps 𝕜) (window : List 𝕜) (sums : List 𝕜 × Nat) :
    Rebuffer.drain nfft (accumulateBlock ops window) sums [] = (sums, []) := by
  rw [Rebuffer.drain, if_neg]
  rintro ⟨_, full⟩
  exact absurd full (Nat.not_le.mpr positive)

-- Consuming the stream frame by frame, keeping what does not fill a block,
-- is the plain way, errors included.
theorem average_plain (ops : SpectrumOps 𝕜) (o : SpectrumOptions 𝕜) (includesHeader : Bool)
    (decode : VdifHeader → List Byte → Except String (List (𝕜 × 𝕜))) (paths : List (String × List Byte))
    (accepted : ¬ checkFft o.nfft) :
    averageSpectrum ops o includesHeader decode paths = plainSpectrum ops o includesHeader decode paths := by
  have positive : 0 < o.nfft.toNat := by
    have least : ¬ o.nfft < 2 := fun small => accepted (Or.inl small)
    omega
  rw [averageSpectrum, plainSpectrum]
  cases spectrumWindow ops o.windowName o.nfft.toNat with
  | error reason => rfl
  | ok window =>
      dsimp only [bind, Except.bind]
      rw [average_frames]
      cases List.mapM (fun frame : VdifHeader × List Byte => decode frame.1 frame.2) _ with
      | error reason => rfl
      | ok chunks =>
          simp only [Except.map, Averager.initial, Option.none_or]
          rw [← drain_nothing o.nfft.toNat positive ops window, Rebuffer.drain_chunks, Rebuffer.drain_blocks _ _ positive,
            List.nil_append, blockSums]

-- So both scripts compute: the checks, then the spectrum of the whole stream.
theorem scripts_plain [LinearOrder 𝕜] (ops : SpectrumOps 𝕜) (paths : List (String × List Byte)) (o : SpectrumOptions 𝕜)
    (encoding : String) :
    (calculateSpectrum ops paths o = do
      refuse (paths.length = 0) "at least one input VDIF file is required"
      refuse (o.sampleRateHz ≤ 0) "sample rate must be positive"
      refuse (checkFft o.nfft) "FFT size must be a power of two greater than one"
      refuse (checkFrames o.maxFrames) "max frames must be positive or omitted"
      plainSpectrum ops o true decodeFrame paths) ∧
    calculateOldSpectrum ops paths o encoding = do
      refuse (paths.length = 0) "at least one input VDIF file is required"
      refuse (o.sampleRateHz ≤ 0) "sample rate must be positive"
      refuse (o.framesPerSecond = 0) "frames per second must be positive"
      refuse (checkFft o.nfft) "FFT size must be a power of two greater than one"
      refuse (checkFrames o.maxFrames) "max frames must be positive or omitted"
      let result ← plainSpectrum ops o false (decodeOldFrame encoding) paths
      return { result with bitsPerSample := 8 } := by
  rw [calculateSpectrum, calculateOldSpectrum]
  by_cases block : checkFft o.nfft
  · have stops : ∀ next : Unit → Except String (SpectrumResult 𝕜),
        (refuse (checkFft o.nfft) "FFT size must be a power of two greater than one" >>= next) =
          .error "FFT size must be a power of two greater than one" := fun next => bind_stop _ _ next block
    simp only [stops, and_self]
  · rw [average_plain ops o true _ paths block, average_plain ops o false _ paths block]
    exact ⟨rfl, rfl⟩

end

end SpectralLine
