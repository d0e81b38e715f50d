import SpectralLine.WorkerRun
import SpectralLine.ExactConfig
import SpectralLine.SpectralDims
import SpectralLine.FrequencyAxis
import SpectralLine.Lib.Keyed

set_option autoImplicit false

namespace SpectralLine

open Streams Checked

section

variable {𝕜 : Type} (gpu : GpuConfig 𝕜)

theorem bin_inside (idx : Nat) : (idx + gpu.nfft / 2) % gpu.nfft < gpu.nfft := Nat.mod_lt _ (nfft_pos gpu)

-- The bin of the transform that fftshift_1d moves to an index.
def shiftedBin (idx : Nat) : Fin gpu.nfft := ⟨(idx + gpu.nfft / 2) % gpu.nfft, bin_inside gpu idx⟩

theorem fftshift_bin (data : Samples gpu) (idx : Fin gpu.nfft) : fftshift1d gpu data idx = data (shiftedBin gpu idx.val) := by
  have even : gpu.nfft = 2 * (gpu.nfft / 2) := by
    simp only [GpuConfig.nfft]
    omega
  have inside := idx.isLt
  rw [fftshift1d]
  by_cases low : idx.val < gpu.nfft / 2
  · rw [dif_pos low]
    congr 1
    exact Fin.ext (Nat.mod_eq_of_lt (by omega)).symm
  · have high : idx.val < 2 * (gpu.nfft / 2) := by omega
    rw [dif_neg low, if_pos high]
    congr 1
    refine Fin.ext ?_
    show idx.val - gpu.nfft / 2 = (idx.val + gpu.nfft / 2) % gpu.nfft
    rw [Nat.mod_eq_sub_mod (by omega), Nat.mod_eq_of_lt (by omega)]
    omega

variable [Field 𝕜]

def filtered (turns : List (WorkerTurn gpu)) (i : Nat) (p : Pol) : Samples gpu :=
  execAll (gpuDevice gpu) (programOf gpu (turns.take (i + 1))) (initialMemory gpu) (.pfbed p)

def spectrum (turns : List (WorkerTurn gpu)) (i : Nat) (p : Pol) : Samples gpu := gpu.fft (filtered gpu turns i p)

theorem turn_spectrum (turns : List (WorkerTurn gpu)) (chain : Chain gpu (GpuPfbFft.initial gpu) turns) (i : Nat)
    (inside : i < turns.length) (p : Pol) :
    execAll (gpuDevice gpu) (programOf gpu (turns.take (i + 1))) (initialMemory gpu) (.ffted p) =
      fftshift1d gpu (spectrum gpu turns i p) := by
  obtain ⟨before, state, taken, ready, _, instrs⟩ := turn_follows gpu turns _ chain i turns[i] (List.getElem?_eq_getElem inside)
  have effect := front_effect gpu turns[i].pair state (execAll (gpuDevice gpu) (programOf gpu (turns.take i)) (initialMemory gpu))
  rw [turn_shown gpu turns i inside state instrs (.ffted p) trivial, effect.ffted p]
  exact congrArg _ (congrArg gpu.fft (turn_shown gpu turns i inside state instrs (.pfbed p) trivial).symm)

theorem block_spectrum (turns : List (WorkerTurn gpu)) (chain : Chain gpu (GpuPfbFft.initial gpu) turns) (i : Nat)
    (inside : i < turns.length) :
    (turnBlock gpu turns i).A = fftshift1d gpu (spectrum gpu turns i .A) ∧
      (turnBlock gpu turns i).B = fftshift1d gpu (spectrum gpu turns i .B) := by
  rw [← turn_spectrum gpu turns chain i inside .A, ← turn_spectrum gpu turns chain i inside .B]
  simp only [turnBlock, List.getElem?_eq_getElem inside]
  exact ⟨trivial, trivial⟩

def publishedBy (turns : List (WorkerTurn gpu)) : List (IntegrationResult gpu) :=
  (executeAll gpu (programOf gpu turns) (ResultSide.initial gpu)).published

-- A bin of the products of two transforms, over some blocks.
def accumulatedBin (turns : List (WorkerTurn gpu)) (blocks : List Nat) (bin : Fin gpu.nfft) : Float4 𝕜 :=
  (blocks.map fun i => stokesOf gpu (spectrum gpu turns i .A) (spectrum gpu turns i .B) bin).sum

theorem stokes_sum_bin (turns : List (WorkerTurn gpu)) (chain : Chain gpu (GpuPfbFft.initial gpu) turns) (blocks : List Nat)
    (inside : ∀ i ∈ blocks, i < turns.length) (idx : Fin gpu.nfft) :
    stokesSum gpu (turnBlock gpu turns) blocks idx = accumulatedBin gpu turns blocks (shiftedBin gpu idx.val) := by
  induction blocks with
  | nil => rfl
  | cons i rest ih =>
      obtain ⟨blockA, blockB⟩ := block_spectrum gpu turns chain i (inside i List.mem_cons_self)
      have later := ih fun j member => inside j (List.mem_cons_of_mem i member)
      have first : stokesOf gpu (turnBlock gpu turns i).A (turnBlock gpu turns i).B idx =
          stokesOf gpu (spectrum gpu turns i .A) (spectrum gpu turns i .B) (shiftedBin gpu idx.val) := by
        rw [blockA, blockB]
        simp only [stokesOf, fftshift_bin]
      rw [stokesSum, List.map_cons, List.sum_cons, Pi.add_apply, first, accumulatedBin, List.map_cons, List.sum_cons]
      exact congrArg _ later

theorem published_bins (turns : List (WorkerTurn gpu)) (chain : Chain gpu (GpuPfbFft.initial gpu) turns)
    (mode : gpu.spectral = true) (result : IntegrationResult gpu) (member : result ∈ publishedBy gpu turns) :
    ∃ blocks : List Nat, blocks.length = gpu.accLen ∧ (∀ i ∈ blocks, i < turns.length) ∧
      ∀ idx, result.data idx = accumulatedBin gpu turns blocks (shiftedBin gpu idx.val) := by
  have accounts := (run_accounts gpu turns chain turns.length (Nat.le_refl _)).published
  rw [List.take_length] at accounts
  obtain ⟨past, rest, split⟩ := List.append_of_mem member
  rw [publishedBy] at split
  rw [split] at accounts
  obtain ⟨before, entry, after, entries, composes, _⟩ := Keyed.matched_split past result rest _ accounts
  have listed : entry ∈ (ledgerOf gpu (turnBlock gpu turns) turns.length).published := by
    rw [entries]
    exact List.mem_append_right _ List.mem_cons_self
  obtain ⟨_, last, _, _, below, count, members, _⟩ := published_integrated gpu (turnBlock gpu turns) turns.length entry listed
  have inside : ∀ i ∈ entry.2, i < turns.length := fun i inEntry => Nat.lt_of_le_of_lt ((members i).mp inEntry).2.1 below
  refine ⟨entry.2, count, inside, fun idx => ?_⟩
  rw [composes.stokes mode, stokes_sum_bin gpu turns chain entry.2 inside]

end

-- The frequency of a bin in channels, negative in the upper half.
def signedBin (nfft bin : Nat) : Int := if bin < nfft / 2 then bin else (bin : Int) - nfft

theorem signed_shifted_bin (nfft idx : Nat) (even : nfft % 2 = 0) (inside : idx < nfft) :
    signedBin nfft ((idx + nfft / 2) % nfft) = (idx : Int) - (nfft / 2 : Nat) := by
  by_cases low : idx < nfft / 2
  · rw [Nat.mod_eq_of_lt (by omega), signedBin, if_neg (by omega)]
    omega
  · rw [Nat.mod_eq_sub_mod (by omega), Nat.mod_eq_of_lt (by omega), signedBin, if_pos (by omega)]
    omega

-- &slot.data[start_idx]
def windowPayload {𝕜 F : Type} (gpu : GpuConfig 𝕜) (window : WindowConfig F) (result : IntegrationResult gpu) (k : Nat)
    (inside : window.startIdx + k < gpu.nfft) : Float4 𝕜 := result.data ⟨window.startIdx + k, inside⟩

-- float(header.get(key))
def numericHeader (file : FitsFile Extended) (key : String) : Option ℚ :=
  match file.keys .singleDish key with
  | some (.real (.finite value)) => some value
  | some (.integer value) => some value
  | _ => none

structure SameBand (window : WindowConfig Extended) (header : PackedSpectrumHeader) : Prop where
  startFreqHz : header.startFreqHz = window.header.startFreqHz
  channelBwHz : header.channelBwHz = window.header.channelBwHz
  nChannels : header.nChannels = window.header.nChannels

section

variable (env : WriterEnv Extended) (cfg : GlobalConfig Extended) (sb : SubbandConfig Extended) (window : WindowConfig Extended)

-- The doubles of the header hold the window's numbers.
structure HeaderHolds (start width : ℚ) : Prop where
  startFreqHz : env.ofBits window.header.startFreqHz = .finite start
  channelBwHz : env.ofBits window.header.channelBwHz = .finite width
  nChannels : window.header.nChannels.toNat = cfg.winChannels.toNat

theorem exact_channel_bw (exact_ : ExactArithmetic env.config) (length : 65536 ≤ cfg.totalNfft) :
    channelBw env.config cfg = .finite (256000000 / cfg.totalNfft) := by
  have positive : (cfg.totalNfft : ℚ) ≠ 0 := by exact_mod_cast (by omega : cfg.totalNfft ≠ 0)
  obtain ⟨bits, floatBits, double⟩ := exact_
  rw [channelBw, double]
  exact Extended.div_finite _ _ positive

theorem exact_start_freq (exact_ : ExactArithmetic env.config) (length : 65536 ≤ cfg.totalNfft)
    (aligned : WindowAligned env.config cfg sb window) (low : ℚ) (given : sb.startFreq = .finite low) :
    window.startFreq = .finite (low + window.startIdx * (256000000 / cfg.totalNfft)) := by
  have width := exact_channel_bw env cfg exact_ length
  obtain ⟨bits, floatBits, double⟩ := exact_
  rw [aligned.startFreq, width, given, double]
  rfl

theorem header_holds (exact_ : ExactArithmetic env.config) (config : YamlNode) (accepted : Accepted env.config config cfg)
    (aligned : WindowAligned env.config cfg sb window) (low : ℚ) (given : sb.startFreq = .finite low)
    (startBits : env.ofBits (env.config.double.bits window.startFreq) = window.startFreq)
    (widthBits : env.ofBits (env.config.double.bits (channelBw env.config cfg)) = channelBw env.config cfg) :
    HeaderHolds env cfg window (low + window.startIdx * (256000000 / cfg.totalNfft)) (256000000 / cfg.totalNfft) := by
  obtain ⟨_, length⟩ := accepted_nfft env.config config cfg accepted
  obtain ⟨natural, small⟩ := (accepted_layout env.config config cfg accepted).channels
  obtain ⟨winId, header⟩ := aligned.header
  refine ⟨?_, ?_, ?_⟩
  · rw [header, ← exact_start_freq env cfg sb window exact_ length aligned low given]
    exact startBits
  · rw [header, ← exact_channel_bw env cfg exact_ length]
    exact widthBits
  · rw [header]
    show (BitVec.ofInt 32 cfg.winChannels).toNat = _
    rw [BitVec.toNat_ofInt]
    omega

-- The label of a channel is the frequency of its bin.
theorem bin_frequency (low : ℚ) (length : 65536 ≤ cfg.totalNfft) (blocks : cfg.totalNfft % 4096 = 0) (idx : Nat)
    (inside : (idx : Int) < cfg.totalNfft) (start k : Nat) (place : idx = start + k) :
    (low + (low + 256000000)) / 2 + signedBin cfg.totalNfft.toNat ((idx + cfg.totalNfft.toNat / 2) % cfg.totalNfft.toNat) *
        (256000000 / cfg.totalNfft : ℚ) =
      low + start * (256000000 / cfg.totalNfft) + k * (256000000 / cfg.totalNfft) := by
  obtain ⟨half, whole⟩ : ∃ half : Nat, cfg.totalNfft = 2 * half := ⟨cfg.totalNfft.toNat / 2, by omega⟩
  have positive : (half : ℚ) ≠ 0 := by exact_mod_cast (by omega : half ≠ 0)
  have natural : cfg.totalNfft.toNat = 2 * half := by omega
  rw [natural, signed_shifted_bin _ _ (by omega) (by omega), whole, place]
  have middle : 2 * half / 2 = half := by omega
  rw [middle]
  push_cast
  field_simp
  ring

theorem configured_with (writer after : Sdfits Extended) (sky : Option YamlNode) (object : String) (calMode sourceOn : Bool)
    (configured : configureSdfitsMetadata env writer sky object calMode sourceOn = .ok after) :
    ∃ m, after = withMetadata env writer m object calMode sourceOn := by
  obtain ⟨_, _, rest⟩ := Run.bind_ok _ _ _ configured
  obtain ⟨m, _, last⟩ := Run.bind_ok _ _ _ rest
  exact ⟨m, (Except.ok.inj last).symm⟩

theorem created_band_cards (faults : Nat → Option StatusCalls.Fault) (thread : WriterThread Extended) (header : PackedSpectrumHeader)
    (dateObs : List Byte) (made : BandWriter Extended) (writer : Sdfits Extended)
    (creates : createWriter env faults cfg thread header dateObs = .ok made) (here : made.writer = some writer) :
    ∃ file, writer.fptr = some file ∧
      file.keys .singleDish "OBSFREQ" = some (.real (bandWriter env cfg header dateObs).hdr.obsfreq) ∧
      file.keys .singleDish "CHAN_BW" = some (.real (bandWriter env cfg header dateObs).hdr.chanBw) := by
  obtain ⟨configured, given, rest⟩ := Run.bind_ok _ _ _ creates
  obtain ⟨m, rfl⟩ := configured_with env _ configured _ _ _ _ given
  by_cases failed : (sdfitsCreate env faults
      ⟨withMetadata env (bandWriter env cfg header dateObs) m cfg.object (header.calMode ≠ 0) cfg.sourceOn, thread.disk, 0⟩).2 ≠ 0
  · simp only [if_pos failed] at rest
    cases rest
    cases here
  · simp only [if_neg failed] at rest
    cases rest
    obtain rfl := Option.some.inj here
    obtain ⟨file, opened, cards, _⟩ := created_cards env faults _ rfl (Decidable.not_not.mp failed)
    exact ⟨file, opened, cards ("OBSFREQ", _) (by simp [readCards]; rfl), cards ("CHAN_BW", _) (by simp [readCards]; rfl)⟩

theorem band_axis (header : NumericHeader) (channels : Nat) (start width : ℚ)
    (obsfreqKey : header "OBSFREQ" = some (start + width * channels / 2)) (chanBwKey : header "CHAN_BW" = some width)
    (inHz : 10000000 ≤ |start + width * channels / 2|) :
    ∃ axis, frequencyAxisMhz header channels {} = .ok axis ∧
      ∀ k < channels, (axis[k]?).map (· * 1000000) = some (start + k * width) := by
  have recognised : normalizeFrequencyUnit (start + width * channels / 2) width "auto" =
      .ok ((start + width * channels / 2) / 1000000, width / 1000000) := if_pos (Or.inr ⟨rfl, inHz⟩)
  refine ⟨_, header_frequency_axis header channels _ _ _ _ "auto" obsfreqKey chanBwKey recognised, fun k below => ?_⟩
  rw [bandCenterAxis, channelAxis, List.getElem?_map, List.getElem?_range below, Option.map_some, Option.map_some]
  congr 1
  ring

theorem band_center (exact_ : ExactArithmetic env.config) (start width : ℚ) (holds : HeaderHolds env cfg window start width)
    (header : PackedSpectrumHeader) (same : SameBand window header) (dateObs : List Byte) :
    (bandWriter env cfg header dateObs).hdr.obsfreq = .finite (start + width * cfg.winChannels.toNat / 2) ∧
      (bandWriter env cfg header dateObs).hdr.chanBw = .finite width := by
  obtain ⟨bits, floatBits, double⟩ := exact_
  have startFreq : env.ofBits header.startFreqHz = .finite start := by rw [same.startFreqHz, holds.startFreqHz]
  have channelWidth : env.ofBits header.channelBwHz = .finite width := by rw [same.channelBwHz, holds.channelBwHz]
  have channels : header.nChannels.toNat = cfg.winChannels.toNat := by rw [same.nChannels, holds.nChannels]
  refine ⟨?_, channelWidth⟩
  show env.config.double.add (env.ofBits header.startFreqHz) (env.config.double.div (env.config.double.mul
    (env.ofBits header.channelBwHz) (env.config.double.lit header.nChannels.toNat)) (env.config.double.lit 2)) = _
  rw [startFreq, channelWidth, channels, double]
  show Extended.add (.finite start) (Extended.div (.finite (width * cfg.winChannels.toNat)) (.finite 2)) = _
  rw [Extended.div_finite _ _ two_ne_zero]
  rfl

-- What is said about the channels of a window, with the centre of its subband.
structure ChannelLabels (centre start width : ℚ) : Prop where
  payload : ∀ (𝕜 : Type) [Field 𝕜] (gpu : GpuConfig 𝕜), gpu.spectral = decide (cfg.observationMode = .spectral) →
    (gpu.nfft : Int) = cfg.totalNfft → ∀ turns, Chain gpu (GpuPfbFft.initial gpu) turns → ∀ result ∈ publishedBy gpu turns,
      ∃ blocks : List Nat, blocks.length = gpu.accLen ∧ (∀ i ∈ blocks, i < turns.length) ∧
        ∀ k < cfg.winChannels.toNat, ∃ inside,
          windowPayload gpu window result k inside = accumulatedBin gpu turns blocks (shiftedBin gpu (window.startIdx + k))
  header : HeaderHolds env cfg window start width
  bins : ∀ k < cfg.winChannels.toNat,
    centre + signedBin cfg.totalNfft.toNat ((window.startIdx + k + cfg.totalNfft.toNat / 2) % cfg.totalNfft.toNat) * width =
      start + k * width
  sdfits : ∀ faults thread header dateObs made writer, SameBand window header →
    createWriter env faults cfg thread header dateObs = .ok made → made.writer = some writer →
      ∃ file obsfreq, writer.fptr = some file ∧ numericHeader file "OBSFREQ" = some obsfreq ∧ (10000000 ≤ |obsfreq| →
        ∃ axis, frequencyAxisMhz (numericHeader file) cfg.winChannels.toNat {} = .ok axis ∧
          ∀ k < cfg.winChannels.toNat, (axis[k]?).map (· * 1000000) = some (start + k * width))

theorem window_sdfits_axis (exact_ : ExactArithmetic env.config) (start width : ℚ) (holds : HeaderHolds env cfg window start width)
    (faults : Nat → Option StatusCalls.Fault) (thread : WriterThread Extended) (header : PackedSpectrumHeader) (dateObs : List Byte)
    (made : BandWriter Extended) (writer : Sdfits Extended) (same : SameBand window header)
    (creates : createWriter env faults cfg thread header dateObs = .ok made) (here : made.writer = some writer) :
    ∃ file obsfreq, writer.fptr = some file ∧ numericHeader file "OBSFREQ" = some obsfreq ∧ (10000000 ≤ |obsfreq| →
      ∃ axis, frequencyAxisMhz (numericHeader file) cfg.winChannels.toNat {} = .ok axis ∧
        ∀ k < cfg.winChannels.toNat, (axis[k]?).map (· * 1000000) = some (start + k * width)) := by
  obtain ⟨file, opened, obsfreqCard, chanBwCard⟩ := created_band_cards env cfg faults thread header dateObs made writer creates here
  obtain ⟨obsfreq, chanBw⟩ := band_center env cfg window exact_ start width holds header same dateObs
  have obsfreqKey : numericHeader file "OBSFREQ" = some (start + width * cfg.winChannels.toNat / 2) := by
    rw [numericHeader, obsfreqCard, obsfreq]
  have chanBwKey : numericHeader file "CHAN_BW" = some width := by
    rw [numericHeader, chanBwCard, chanBw]
  exact ⟨file, _, opened, obsfreqKey, band_axis _ _ start width obsfreqKey chanBwKey⟩

theorem window_payload (config : YamlNode) (accepted : Accepted env.config config cfg) (spectral : cfg.observationMode = .spectral)
    (aligned : WindowAligned env.config cfg sb window) (𝕜 : Type) [Field 𝕜] (gpu : GpuConfig 𝕜)
    (mode : gpu.spectral = decide (cfg.observationMode = .spectral)) (length : (gpu.nfft : Int) = cfg.totalNfft)
    (turns : List (WorkerTurn gpu)) (chain : Chain gpu (GpuPfbFft.initial gpu) turns) (result : IntegrationResult gpu)
    (member : result ∈ publishedBy gpu turns) :
    ∃ blocks : List Nat, blocks.length = gpu.accLen ∧ (∀ i ∈ blocks, i < turns.length) ∧
      ∀ k < cfg.winChannels.toNat, ∃ inside,
        windowPayload gpu window result k inside = accumulatedBin gpu turns blocks (shiftedBin gpu (window.startIdx + k)) := by
  obtain ⟨natural, _⟩ := (accepted_layout env.config config cfg accepted).channels
  obtain ⟨blocks, count, inside, bins⟩ := published_bins gpu turns chain (mode.trans (decide_eq_true spectral)) result member
  refine ⟨blocks, count, inside, fun k below => ?_⟩
  have place : window.startIdx + k < gpu.nfft := by
    have fits := aligned.inside
    omega
  exact ⟨place, bins ⟨window.startIdx + k, place⟩⟩

def Representable (x : Extended) : Prop := env.ofBits (env.config.double.bits x) = x

-- (start_freq + end_freq) / 2
def subbandCentre : Extended := env.config.double.div (env.config.double.add sb.startFreq sb.endFreq) (env.config.double.lit 2)

theorem exact_centre (exact_ : ExactArithmetic env.config) (aligned : WindowAligned env.config cfg sb window)
    (bandwidth : env.config.double.sub sb.endFreq sb.startFreq = .finite samplingRateHz) :
    ∃ low, sb.startFreq = .finite low ∧ subbandCentre env sb = .finite ((low + (low + 256000000)) / 2) := by
  obtain ⟨bits, floatBits, double⟩ := exact_
  have lowFinite := aligned.low
  have highFinite := aligned.high
  rw [double] at lowFinite highFinite bandwidth
  obtain ⟨low, lowFreq⟩ := (Extended.is_finite_iff sb.startFreq).mp lowFinite
  obtain ⟨high, highFreq⟩ := (Extended.is_finite_iff sb.endFreq).mp highFinite
  rw [lowFreq, highFreq] at bandwidth
  have difference : high + -low = 256000000 := Extended.finite.inj bandwidth
  have top : high = low + 256000000 := by linarith
  refine ⟨low, lowFreq, ?_⟩
  rw [subbandCentre, lowFreq, highFreq, top, double]
  exact Extended.div_finite _ _ two_ne_zero

theorem channel_labels (config : YamlNode) (exact_ : ExactArithmetic env.config) (accepted : Accepted env.config config cfg)
    (spectral : cfg.observationMode = .spectral) (listed : sb ∈ cfg.subbands) (member : window ∈ sb.windows)
    (bandwidth : env.config.double.sub sb.endFreq sb.startFreq = .finite samplingRateHz)
    (startHeld : Representable env window.startFreq) (widthHeld : Representable env (channelBw env.config cfg)) :
    ∃ centre start width, subbandCentre env sb = .finite centre ∧ ChannelLabels env cfg window centre start width := by
  have aligned := (accepted_arithmetic env.config config cfg accepted).windows sb listed window member
  obtain ⟨blocks, length⟩ := accepted_nfft env.config config cfg accepted
  obtain ⟨natural, _⟩ := (accepted_layout env.config config cfg accepted).channels
  obtain ⟨low, lowFreq, centre⟩ := exact_centre env cfg sb window exact_ aligned bandwidth
  have holds := header_holds env cfg sb window exact_ config accepted aligned low lowFreq startHeld widthHeld
  refine ⟨_, _, _, centre, ?_, holds, fun k below => ?_, ?_⟩
  · exact fun 𝕜 _ gpu => window_payload env cfg sb window config accepted spectral aligned 𝕜 gpu
  · have fits := aligned.inside
    exact bin_frequency cfg low length blocks _ (by omega) _ k rfl
  · exact window_sdfits_axis env cfg window exact_ _ _ holds

end

def fixedBits (width : Nat) : Extended → BitVec width
  | .finite x => BitVec.ofInt width (Extended.truncate (x * 256))
  | _ => 0

def fixedWriterEnv : WriterEnv Extended where
  config := { extendedEnv with double := exactOps (fixedBits 64) (fixedBits 32) }
  nan := .nan
  ofBits b := .finite ((b.toInt : ℚ) / 256)
  ofFloat b := .finite ((b.toInt : ℚ) / 256)
  fixed2 _ := []
  unixNsToMjd b := .finite (40587 + (b.toNat : ℚ) / 86400000000000)
  systemTime := stringBytes "2026-01-01T00:00:00"

def labelledConfig : GlobalConfig Extended := (acceptedBy fixedWriterEnv.config (plainConfig [])).get (by decide +kernel)

def labelledSubband : SubbandConfig Extended := labelledConfig.subbands.head (by decide +kernel)

def labelledWindow : WindowConfig Extended := labelledSubband.windows.head (by decide +kernel)

theorem channel_labels_plain : ∃ centre start width, subbandCentre fixedWriterEnv labelledSubband = .finite centre ∧
    ChannelLabels fixedWriterEnv labelledConfig labelledWindow centre start width := by
  refine channel_labels fixedWriterEnv labelledConfig labelledSubband labelledWindow (plainConfig []) ⟨_, _, rfl⟩
    (accepted_by _ _ _ (Option.some_get _).symm) (by decide +kernel) (List.head_mem _) (List.head_mem _) (by decide +kernel) ?_ ?_
  · unfold Representable
    decide +kernel
  · unfold Representable
    decide +kernel

end SpectralLine
