import SpectralLine.TransientFaults
import SpectralLine.SpectralDims

set_option autoImplicit false

namespace SpectralLine

open Checked

section

variable {F : Type} (env : ConfigEnv F)

-- The windows of an entry carry their index.
def WindowsNumbered (cfg : GlobalConfig F) (sb : SubbandConfig F) (first : Nat) (windows : List (WindowConfig F)) : Prop :=
  ∀ (w : Nat) (window : WindowConfig F), windows[w]? = some window →
    ∃ startFreq channelBwHz, window.header = windowHeader env cfg sb (first + w) startFreq channelBwHz

theorem init_window_numbered (cfg : GlobalConfig F) (sb : SubbandConfig F) (winId : Nat) (winNode : YamlNode) :
    Returns (initWindow env cfg sb winId winNode) fun window =>
      ∃ startFreq channelBwHz, window.header = windowHeader env cfg sb winId startFreq channelBwHz := by
  refine returns_then _ _ _ fun _ => returns_then _ _ _ fun _ => returns_check _ _ _ _ fun _ => ?_
  refine returns_check _ _ _ _ fun _ => returns_check _ _ _ _ fun _ => returns_check _ _ _ _ fun _ => ?_
  exact returns_pure _ _ ⟨_, _, rfl⟩

theorem init_windows_numbered (cfg : GlobalConfig F) (sb : SubbandConfig F) (winId : Nat) (nodes : List YamlNode) :
    Returns (initWindows env cfg sb winId nodes) fun windows =>
      windows.length = nodes.length ∧ WindowsNumbered env cfg sb winId windows := by
  induction nodes generalizing winId with
  | nil => exact returns_ok _ _ ⟨rfl, fun w window found => nomatch found⟩
  | cons node rest ih =>
      refine returns_bind _ _ _ _ (init_window_numbered env cfg sb winId node) fun window placed => ?_
      refine returns_bind _ _ _ _ (ih (winId + 1)) fun windows others => ?_
      refine returns_pure _ _ ⟨congrArg (· + 1) others.1, fun w found present => ?_⟩
      cases w with
      | zero =>
          cases present
          exact placed
      | succ w =>
          obtain ⟨startFreq, channelBwHz, header⟩ := others.2 w found present
          refine ⟨startFreq, channelBwHz, ?_⟩
          rw [header, Nat.add_right_comm, Nat.add_assoc]

structure EntryOf (cfg : GlobalConfig F) (index : Nat) (sb : SubbandConfig F) : Prop where
  id : sb.subbandId = BitVec.ofNat 8 index
  few : sb.windows.length ≤ 4
  numbered : WindowsNumbered env cfg sb 0 sb.windows

theorem init_enabled_entry (cfg : GlobalConfig F) (sb : SubbandConfig F) (sbNode : YamlNode) (index : Nat)
    (id : sb.subbandId = BitVec.ofNat 8 index) : Returns (initEnabled env cfg sb sbNode) (EntryOf env cfg index) := by
  refine returns_then _ _ _ fun _ => returns_then _ _ _ fun _ => returns_then _ _ _ fun _ => returns_then _ _ _ fun _ => ?_
  refine returns_then _ _ _ fun _ => returns_then _ _ _ fun _ => returns_then _ _ _ fun _ => returns_then _ _ _ fun port => ?_
  refine returns_check _ _ _ _ fun _ => returns_check _ _ _ _ fun _ => returns_check _ _ _ _ fun _ => ?_
  refine returns_then _ _ _ fun windowsNode => returns_check _ _ _ _ fun count => ?_
  refine returns_bind _ _ _ _ (init_windows_numbered env cfg _ 0 (YamlNode.items windowsNode)) fun windows placed => ?_
  simp only [Bool.or_eq_true, decide_eq_true_eq, not_or, Nat.not_lt] at count
  exact returns_pure _ _ ⟨id, placed.1 ▸ count.2, placed.2⟩

theorem init_subband_entry (cfg : GlobalConfig F) (index : Nat) (sbNode : YamlNode) :
    Returns (initSubband env cfg index sbNode) (EntryOf env cfg index) := by
  refine returns_then _ _ _ fun _ => returns_then _ _ _ fun _ => returns_then _ _ _ fun _ => returns_then _ _ _ fun _ => ?_
  apply returns_ite
  · intro _
    exact init_enabled_entry env cfg _ sbNode index rfl
  · intro _
    exact returns_ok _ _ ⟨rfl, Nat.zero_le _, fun w window found => nomatch found⟩

-- Entries of beam A before entries of beam B, pair by pair.
def Paired (subbands : List (SubbandConfig F)) : Prop :=
  ∀ (k : Nat) (beamA beamB : SubbandConfig F), subbands[2 * k]? = some beamA → subbands[2 * k + 1]? = some beamB →
    beamA.beam = .a ∧ beamB.beam = .b

theorem check_pairs_paired (subbands : List (SubbandConfig F)) : Returns (checkPairs env subbands) fun _ => Paired subbands := by
  induction subbands using checkPairs.induct with
  | case1 beamA beamB rest ih =>
      refine returns_bind _ _ (fun _ => beamA.beam = .a ∧ beamB.beam = .b) _ ?_ fun _ first => ?_
      · refine returns_check _ _ _ _ fun ordered => returns_weaken _ _ _ (returns_any _) fun _ _ => ?_
        simp only [ne_eq, not_or, not_not] at ordered
        exact ordered
      · refine returns_weaken _ _ _ ih fun _ paired k first' second here next => ?_
        cases k with
        | zero =>
            cases here
            cases next
            exact first
        | succ k => exact paired k first' second here next
  | case2 subbands short =>
      rintro _ _ k beamA beamB _ next
      have long := (List.getElem?_eq_some_iff.mp next).1
      cases subbands with
      | nil => exact absurd long (Nat.not_lt_zero _)
      | cons first rest =>
          cases rest with
          | nil => exact absurd long (Nat.not_lt.mpr (Nat.le_add_left 1 _))
          | cons second rest => exact absurd rfl (short first second rest)

structure BandLayout (cfg : GlobalConfig F) : Prop where
  entries : cfg.subbands.length = 8
  paired : Paired cfg.subbands
  entry : ∀ (i : Nat) (sb : SubbandConfig F), cfg.subbands[i]? = some sb → EntryOf env cfg i sb

theorem init_layout_bands (config : YamlNode) (cfg : GlobalConfig F) : Returns (initLayout env config cfg) (BandLayout env) := by
  refine returns_then _ _ _ fun node => returns_check _ _ _ _ fun _ => ?_
  refine returns_bind _ _ _ _ (init_subbands_each env cfg _ (init_subband_entry env cfg) 0 (YamlNode.items node))
    fun subbands placed => ?_
  refine returns_check _ _ _ _ fun entries => returns_bind _ _ _ _ (check_pairs_paired env subbands) fun _ paired => ?_
  refine returns_pure _ _ ⟨Decidable.not_not.mp entries, paired, fun i sb found => ?_⟩
  obtain ⟨id, few, numbered⟩ := placed i sb found
  rw [Nat.zero_add] at id
  exact ⟨id, few, numbered⟩

theorem accepted_bands (config : YamlNode) (cfg : GlobalConfig F) (accepted : Accepted env config cfg) : BandLayout env cfg := by
  suffices Returns (initFromYaml env config) (BandLayout env) from this cfg accepted.1
  refine returns_then _ _ _ fun _ => returns_then _ _ _ fun _ => returns_then _ _ _ fun _ => returns_then _ _ _ fun _ => ?_
  exact returns_then _ _ _ fun _ => returns_then _ _ _ fun _ => returns_then _ _ _ fun cfg => init_layout_bands env config cfg

end

section

variable {F : Type} (env : WriterEnv F) (cfg : GlobalConfig F)

def serverEntry (i : Nat) : BitVec 16 := BitVec.ofInt 16 (cfg.serverId * 4 + (i / 2 : Nat))

-- Where a header of the configuration comes from, as its ids tell it.
structure ComesFrom (i w : Nat) (sb : SubbandConfig F) (window : WindowConfig F) (header : PackedSpectrumHeader) : Prop where
  entry : cfg.subbands[i]? = some sb ∧ i < 8
  place : sb.windows[w]? = some window ∧ w < 4
  subbandId : header.subbandId = serverEntry cfg i
  beamId : header.beamId = BitVec.ofNat 8 (i % 2)
  windowId : header.windowId = BitVec.ofNat 16 w
  nChannels : header.nChannels = BitVec.ofInt 32 cfg.winChannels
  band : InBand window.header header

theorem in_band_refl (a : PackedSpectrumHeader) : InBand a a := ⟨rfl, rfl, rfl, rfl, rfl, rfl⟩

theorem in_band_symm (a b : PackedSpectrumHeader) (same : InBand a b) : InBand b a :=
  ⟨same.subbandId.symm, same.windowId.symm, same.beamId.symm, same.startFreqHz.symm, same.channelBwHz.symm, same.nChannels.symm⟩

theorem in_band_trans (a b c : PackedSpectrumHeader) (first : InBand a b) (second : InBand b c) : InBand a c :=
  ⟨second.subbandId.trans first.subbandId, second.windowId.trans first.windowId, second.beamId.trans first.beamId,
    second.startFreqHz.trans first.startFreqHz, second.channelBwHz.trans first.channelBwHz, second.nChannels.trans first.nChannels⟩

theorem paired_beam (bands : BandLayout env.config cfg) (i : Nat) (sb : SubbandConfig F) (found : cfg.subbands[i]? = some sb) :
    sb.beam.code = BitVec.ofNat 8 (i % 2) := by
  have inside : i < 8 := bands.entries ▸ (List.getElem?_eq_some_iff.mp found).1
  have place : ∀ j < 8, ∃ other, cfg.subbands[j]? = some other := fun j below =>
    ⟨_, List.getElem?_eq_getElem (bands.entries.symm ▸ below)⟩
  rcases Nat.even_or_odd' i with ⟨k, even | odd⟩
  · obtain ⟨beamB, next⟩ := place (2 * k + 1) (by omega)
    rw [even] at found
    rw [(bands.paired k sb beamB found next).1, even, Nat.mul_mod_right]
    rfl
  · obtain ⟨beamA, here⟩ := place (2 * k) (by omega)
    rw [odd] at found
    rw [(bands.paired k beamA sb here found).2, odd, Nat.mul_add_mod]
    rfl

theorem produced_from (bands : BandLayout env.config cfg) (header : PackedSpectrumHeader) (produced : ProducedUnder cfg header) :
    ∃ i w sb window, ComesFrom cfg i w sb window header := by
  obtain ⟨sb, member, window, inside, _, _, _, _, _, _, rfl⟩ := produced
  obtain ⟨i, found⟩ := List.getElem?_of_mem member
  obtain ⟨w, place⟩ := List.getElem?_of_mem inside
  obtain ⟨id, few, numbered⟩ := bands.entry i sb found
  obtain ⟨startFreq, channelBwHz, header⟩ := numbered w window place
  have below : i < 8 := bands.entries ▸ (List.getElem?_eq_some_iff.mp found).1
  refine ⟨i, w, sb, window, ⟨found, below⟩, ⟨place, Nat.lt_of_lt_of_le (List.getElem?_eq_some_iff.mp place).1 few⟩, ?_, ?_, ?_, ?_,
    ⟨rfl, rfl, rfl, rfl, rfl, rfl⟩⟩
  · have index : (BitVec.ofNat 8 i).toNat = i := Nat.mod_eq_of_lt (by omega)
    simp only [header, windowHeader, globalSubbandId, id, index, serverEntry]
  · simp only [header, windowHeader, paired_beam env cfg bands i sb found]
  · simp only [header, windowHeader, Nat.zero_add]
  · simp only [header, windowHeader]

-- The channel count of a header is the configured one, and fits its field.
theorem produced_channels (layout : ResultLayout env.config cfg) (bands : BandLayout env.config cfg) (header : PackedSpectrumHeader)
    (produced : ProducedUnder cfg header) :
    header.nChannels.toInt = cfg.winChannels ∧ header.nChannels.toInt = header.nChannels.toNat := by
  obtain ⟨_, _, _, _, source⟩ := produced_from env cfg bands header produced
  have channels := layout.channels
  have value : header.nChannels.toInt = cfg.winChannels := by
    rw [source.nChannels, BitVec.toInt_ofInt]
    exact Int.bmod_eq_of_le (by omega) (by omega)
  refine ⟨value, ?_⟩
  rw [BitVec.toInt_eq_toNat_cond] at value ⊢
  split_ifs at value ⊢ with small
  · rfl
  · omega

-- Three ids settle the band.
theorem produced_same_ids (bands : BandLayout env.config cfg) (server : 0 ≤ cfg.serverId ∧ cfg.serverId ≤ 7) (a b : PackedSpectrumHeader) (fromA : ProducedUnder cfg a)
    (fromB : ProducedUnder cfg b) (subbandId : a.subbandId = b.subbandId) (beamId : a.beamId = b.beamId)
    (windowId : a.windowId = b.windowId) : InBand a b := by
  obtain ⟨i, w, sb, window, first⟩ := produced_from env cfg bands a fromA
  obtain ⟨j, v, other, shown, second⟩ := produced_from env cfg bands b fromB
  have low := first.entry.2
  have high := second.entry.2
  have halves : i / 2 = j / 2 := by
    have codes := congrArg BitVec.toNat (first.subbandId.symm.trans (subbandId.trans second.subbandId))
    simp only [serverEntry, BitVec.toNat_ofInt] at codes
    omega
  have parity : i % 2 = j % 2 := by
    have codes := congrArg BitVec.toNat (first.beamId.symm.trans (beamId.trans second.beamId))
    simp only [BitVec.toNat_ofNat] at codes
    omega
  have entry : i = j := by omega
  subst entry
  obtain rfl : sb = other := Option.some.inj (first.entry.1.symm.trans second.entry.1)
  have number : w = v := by
    have codes := congrArg BitVec.toNat (first.windowId.symm.trans (windowId.trans second.windowId))
    have few := first.place.2
    have fewer := second.place.2
    simp only [BitVec.toNat_ofNat] at codes
    omega
  subst number
  obtain rfl : window = shown := Option.some.inj (first.place.1.symm.trans second.place.1)
  exact in_band_trans a window.header b (in_band_symm _ _ first.band) second.band

-- A text that starts with a number tells it.
theorem digits_prefix (digits digits' : List Byte) (stop stop' : Byte) (rest rest' : List Byte)
    (all : ∀ b ∈ digits, isDigitByte b = true) (all' : ∀ b ∈ digits', isDigitByte b = true)
    (ends : isDigitByte stop = false) (ends' : isDigitByte stop' = false) (same : digits ++ stop :: rest = digits' ++ stop' :: rest') :
    digits = digits' ∧ stop :: rest = stop' :: rest' := by
  have read : ∀ (text : List Byte) (b : Byte) (more : List Byte), (∀ x ∈ text, isDigitByte x = true) → isDigitByte b = false →
      (text ++ b :: more).takeWhile isDigitByte = text := by
    intro text b more every non
    rw [List.takeWhile_append_of_pos every, List.takeWhile_cons_of_neg (by rw [non]; decide), List.append_nil]
  have equal : digits = digits' := by
    rw [← read digits stop rest all ends, same, read digits' stop' rest' all' ends']
  subst equal
  exact ⟨rfl, List.append_cancel_left same⟩

theorem padded_any_width (width n : Nat) (b : Byte) (member : b ∈ padded width n) : isDigitByte b = true := by
  have split : padded width n = List.replicate (width - (padded 1 n).length) 0x30 ++ padded 1 n := by
    rw [padded_digits]
    rfl
  rw [split] at member
  rcases List.mem_append.mp member with zero | digit
  · rw [List.eq_of_mem_replicate zero]
    decide
  · exact padded_all_digits n b digit

theorem digits_value_zeros (count : Nat) (text : List Byte) : digitsValue (List.replicate count 0x30 ++ text) = digitsValue text := by
  rw [digitsValue, List.foldl_append]
  congr 1
  induction count with
  | zero => rfl
  | succ count ih =>
      rw [List.replicate_succ, List.foldl_cons]
      exact ih

theorem digits_value_padded (width n : Nat) : digitsValue (padded width n) = n := by
  have plain := decimal_text_padded n
  rw [decimalText] at plain
  split at plain
  · have value := Option.some.inj plain
    rw [padded_digits] at value
    rw [padded, digits_value_zeros]
    exact value
  · cases plain

-- The name from the left, up to the frequencies, and from the right, back to the beam.
theorem band_filename_front (header : PackedSpectrumHeader) : ∃ rest, bandFilename env cfg header =
    cfg.localSdfitsFolder ++ stringBytes "/sb" ++ (padded 2 header.subbandId.toNat ++ 0x5f :: 0x77 ::
      (padded 1 header.windowId.toNat ++ 0x5f :: rest)) := by
  have window : stringBytes "_w" = [0x5f, 0x77] := by decide +kernel
  have underscore : stringBytes "_" = [0x5f] := by decide +kernel
  simp only [bandFilename, window, underscore, List.append_assoc, List.cons_append, List.nil_append]
  exact ⟨_, rfl⟩

def beamBytes (header : PackedSpectrumHeader) : List Byte := if header.beamId = 0 then [0x41] else [0x42]

def nameEnd (nChannels : BitVec 32) : List Byte :=
  stringBytes "_" ++ stringBytes (if cfg.sourceOn then "ON" else "OFF") ++ stringBytes "_" ++ padded 1 nChannels.toNat

theorem band_filename_back (header : PackedSpectrumHeader) : ∃ front, bandFilename env cfg header =
    front ++ beamBytes header ++ nameEnd cfg header.nChannels := by
  have beamA : stringBytes "A" = [0x41] := by decide +kernel
  have beamB : stringBytes "B" = [0x42] := by decide +kernel
  simp only [bandFilename, beamA, beamB, beamBytes, nameEnd, ← List.append_assoc]
  exact ⟨_, rfl⟩

-- No name of a band ends in the extension.
theorem stem_whole (header : PackedSpectrumHeader) : filenameStem (bandFilename env cfg header) = bandFilename env cfg header := by
  have plain : sdfitsExtension.isSuffixOf (bandFilename env cfg header) = false := by
    rw [← Bool.not_eq_true, List.isSuffixOf_iff_suffix]
    rintro ⟨front, ends⟩
    have last : (bandFilename env cfg header).getLast? = some 0x73 := by
      have extension : sdfitsExtension = stringBytes ".sdfit" ++ [0x73] := by decide +kernel
      rw [← ends, extension, ← List.append_assoc, List.getLast?_concat]
    obtain ⟨front', back⟩ := band_filename_back env cfg header
    have some_ : padded 1 header.nChannels.toNat ≠ [] := by
      rw [padded_digits]
      exact fun empty => Nat.toDigits_ne_nil (List.map_eq_nil_iff.mp empty)
    rw [back, nameEnd, ← List.append_assoc, List.getLast?_append_of_ne_nil _ some_] at last
    exact absurd (padded_any_width 1 _ _ (List.mem_of_getLast? last)) (by decide)
  rw [filenameStem, plain]
  rfl

theorem beam_letters (a b : PackedSpectrumHeader) (before before' : List Byte)
    (same : before ++ beamBytes a = before' ++ beamBytes b) : a.beamId = 0 ↔ b.beamId = 0 := by
  have shown : ∀ header, (beamBytes header).getLast? = some (if header.beamId = 0 then 0x41 else 0x42) := by
    intro header
    rw [beamBytes]
    split <;> rfl
  have last := congrArg List.getLast? same
  rw [List.getLast?_append, List.getLast?_append, shown, shown] at last
  have letter := Option.some.inj last
  by_cases first : a.beamId = 0
  · by_cases second : b.beamId = 0
    · exact iff_of_true first second
    · rw [if_pos first, if_neg second] at letter
      exact absurd letter (by decide)
  · by_cases second : b.beamId = 0
    · rw [if_neg first, if_pos second] at letter
      exact absurd letter (by decide)
    · exact iff_of_false first second

theorem same_file_same_ids (a b : PackedSpectrumHeader) (channels : a.nChannels = b.nChannels)
    (same : bandFile env cfg a = bandFile env cfg b) :
    a.subbandId = b.subbandId ∧ a.windowId = b.windowId ∧ (a.beamId = 0 ↔ b.beamId = 0) := by
  have names : bandFilename env cfg a = bandFilename env cfg b := by
    have stems := List.append_cancel_right same
    rwa [stem_whole, stem_whole] at stems
  obtain ⟨rest, front⟩ := band_filename_front env cfg a
  obtain ⟨rest', front'⟩ := band_filename_front env cfg b
  have ids := List.append_cancel_left (front.symm.trans (names.trans front'))
  obtain ⟨subband, after⟩ := digits_prefix _ _ _ _ _ _ (padded_any_width 2 _) (padded_any_width 2 _) (by decide) (by decide) ids
  simp only [List.cons.injEq, true_and] at after
  obtain ⟨window, _⟩ := digits_prefix _ _ _ _ _ _ (padded_any_width 1 _) (padded_any_width 1 _) (by decide) (by decide) after
  obtain ⟨before, back⟩ := band_filename_back env cfg a
  obtain ⟨before', back'⟩ := band_filename_back env cfg b
  have beams : before ++ beamBytes a = before' ++ beamBytes b := by
    have ends := back.symm.trans (names.trans back')
    rw [channels] at ends
    exact List.append_cancel_right ends
  refine ⟨?_, ?_, ?_⟩
  · have value := congrArg digitsValue subband
    rw [digits_value_padded, digits_value_padded] at value
    exact BitVec.eq_of_toNat_eq value
  · have value := congrArg digitsValue window
    rw [digits_value_padded, digits_value_padded] at value
    exact BitVec.eq_of_toNat_eq value
  · exact beam_letters a b before before' beams

theorem same_beam (i j : Nat) (zero : BitVec.ofNat 8 (i % 2) = 0 ↔ BitVec.ofNat 8 (j % 2) = 0) :
    BitVec.ofNat 8 (i % 2) = BitVec.ofNat 8 (j % 2) := by
  rcases Nat.mod_two_eq_zero_or_one i with even | odd
  · have first : BitVec.ofNat 8 (i % 2) = 0 := congrArg (BitVec.ofNat 8) even
    exact first.trans (zero.mp first).symm
  · rcases Nat.mod_two_eq_zero_or_one j with even' | odd'
    · have second : BitVec.ofNat 8 (j % 2) = 0 := congrArg (BitVec.ofNat 8) even'
      exact (zero.mpr second).trans second.symm
    · rw [odd, odd']

-- Two headers of the configuration name one band, or neither file nor key joins them.
theorem produced_told (bands : BandLayout env.config cfg) (server : 0 ≤ cfg.serverId ∧ cfg.serverId ≤ 7) (a b : PackedSpectrumHeader)
    (fromA : ProducedUnder cfg a) (fromB : ProducedUnder cfg b) :
    InBand a b ∨ bandFile env cfg a ≠ bandFile env cfg b ∧ BandKey.same env (bandKey env a) (bandKey env b) = false := by
  obtain ⟨i, w, sb, window, first⟩ := produced_from env cfg bands a fromA
  obtain ⟨j, v, other, shown, second⟩ := produced_from env cfg bands b fromB
  by_cases ids : a.subbandId = b.subbandId ∧ a.beamId = b.beamId ∧ a.windowId = b.windowId
  · exact Or.inl (produced_same_ids env cfg bands server a b fromA fromB ids.1 ids.2.1 ids.2.2)
  · refine Or.inr ⟨fun same => ids ?_, ?_⟩
    · obtain ⟨subband, windows, beams⟩ := same_file_same_ids env cfg a b (first.nChannels.trans second.nChannels.symm) same
      refine ⟨subband, ?_, windows⟩
      rw [first.beamId, second.beamId] at beams ⊢
      exact same_beam i j beams
    · rw [← Bool.not_eq_true]
      intro same
      simp only [BandKey.same, bandKey, Bool.and_eq_true] at same
      obtain ⟨⟨⟨⟨⟨subband, windows⟩, beams⟩, _⟩, _⟩, _⟩ := same
      exact ids ⟨of_decide_eq_true subband, of_decide_eq_true beams, of_decide_eq_true windows⟩

end

end SpectralLine
