import SpectralLine.SpectrumTransport
import Mathlib.Data.List.DropRight

set_option autoImplicit false

namespace SpectralLine

-- The bytes of a std::string.
def stringBytes (text : String) : List Byte := text.toUTF8.toList.map UInt8.toBitVec

def observationIdMaxLength : Nat := 64

def asciiAlnum (c : Byte) : Bool :=
  (0x30 ≤ c && c ≤ 0x39) || (0x41 ≤ c && c ≤ 0x5a) || (0x61 ≤ c && c ≤ 0x7a)

def observationIdIsValid (id : List Byte) : Bool :=
  if id.isEmpty || observationIdMaxLength < id.length then false
  else id.all (fun c => asciiAlnum c || c = 0x2d || c = 0x5f || c = 0x2e) && id ≠ [0x2e] && id ≠ [0x2e, 0x2e]

def observationIdNumeric (id : List Byte) : BitVec 32 := spectrumCrc32c id

-- The loop of observation_directory_component over the bytes still to come.
def directoryLoop (result : List Byte) (previousSeparator : Bool) : List Byte → List Byte
  | [] => result
  | c :: rest =>
      if asciiAlnum c || c = 0x2e || c = 0x5f || c = 0x2d then directoryLoop (result ++ [c]) false rest
      else if !result.isEmpty && !previousSeparator then directoryLoop (result ++ [0x2d]) true rest
      else directoryLoop result previousSeparator rest

def popSeparators (result : List Byte) : List Byte := (result.reverse.dropWhile (· = 0x2d)).reverse

def observationDirectoryComponent (value : List Byte) : List Byte :=
  let result := popSeparators (directoryLoop [] false value)
  if result.isEmpty then stringBytes "UNKNOWN" else result

def appendComponent (id component : List Byte) : List Byte :=
  if component.isEmpty || observationIdMaxLength - 1 ≤ id.length then id
  else
    let available := observationIdMaxLength - id.length - 1
    id ++ [0x5f] ++ (observationDirectoryComponent component).take available

-- The timestamp is the text of the UTC clock, down to milliseconds.
def automaticObservationDirectoryId (timestamp object state : List Byte) : List Byte :=
  [object, state].foldl appendComponent timestamp

-- The characters that both functions let through.
def directorySafe (c : Byte) : Bool := asciiAlnum c || c = 0x2e || c = 0x5f || c = 0x2d

theorem valid_character (c : Byte) : (asciiAlnum c || c = 0x2d || c = 0x5f || c = 0x2e) = directorySafe c := by
  rw [directorySafe, Bool.or_right_comm (asciiAlnum c || decide (c = 0x2d)), Bool.or_right_comm (asciiAlnum c),
    Bool.or_right_comm (asciiAlnum c || decide (c = 0x2e))]

theorem directory_loop_safe (result : List Byte) (previousSeparator : Bool) (value : List Byte)
    (safe : ∀ c ∈ result, directorySafe c = true) : ∀ c ∈ directoryLoop result previousSeparator value, directorySafe c = true := by
  have push : ∀ (result : List Byte) (last : Byte), (∀ c ∈ result, directorySafe c = true) → directorySafe last = true →
      ∀ c ∈ result ++ [last], directorySafe c = true := by
    intro result last before added c member
    rcases List.mem_append.mp member with old | new
    · exact before c old
    · rwa [List.mem_singleton.mp new]
  induction value generalizing result previousSeparator with
  | nil => exact safe
  | cons c rest ih =>
      rw [directoryLoop, ← directorySafe]
      by_cases kept : directorySafe c = true
      · rw [if_pos kept]
        exact ih _ _ (push result c safe kept)
      by_cases separates : (!result.isEmpty && !previousSeparator) = true
      · rw [if_neg kept, if_pos separates]
        exact ih _ _ (push result 0x2d safe (by decide))
      · rw [if_neg kept, if_neg separates]
        exact ih _ _ safe

theorem directory_loop_kept (result : List Byte) (previousSeparator : Bool) (value : List Byte)
    (safe : ∀ c ∈ value, directorySafe c = true) : directoryLoop result previousSeparator value = result ++ value := by
  induction value generalizing result previousSeparator with
  | nil => exact (List.append_nil result).symm
  | cons c rest ih =>
      obtain ⟨kept, others⟩ := List.forall_mem_cons.mp safe
      rw [directoryLoop, ← directorySafe, if_pos kept, ih _ _ others, List.append_assoc, List.singleton_append]

theorem pop_separators (result : List Byte) : popSeparators result = result.rdropWhile (· = 0x2d) := rfl

theorem unknown_bytes : stringBytes "UNKNOWN" = [0x55, 0x4e, 0x4b, 0x4e, 0x4f, 0x57, 0x4e] := by decide +kernel

theorem directory_component_nonempty (value : List Byte) : observationDirectoryComponent value ≠ [] := by
  rw [observationDirectoryComponent]
  by_cases empty : (popSeparators (directoryLoop [] false value)).isEmpty = true
  · rw [if_pos empty, unknown_bytes]
    decide
  · rw [if_neg empty]
    exact fun same => empty (List.isEmpty_iff.mpr same)

theorem directory_component_safe (value : List Byte) : ∀ c ∈ observationDirectoryComponent value, directorySafe c = true := by
  rw [observationDirectoryComponent]
  by_cases empty : (popSeparators (directoryLoop [] false value)).isEmpty = true
  · rw [if_pos empty, unknown_bytes]
    exact List.all_eq_true.mp (by decide)
  · rw [if_neg empty]
    intro c member
    rw [pop_separators] at member
    have within := (List.rdropWhile_prefix _ _).mem member
    exact directory_loop_safe [] false value (fun c none_ => absurd none_ List.not_mem_nil) c within

-- Its value passes unchanged: every character is kept and the last is no dash.
theorem directory_component_idempotent (value : List Byte) :
    observationDirectoryComponent (observationDirectoryComponent value) = observationDirectoryComponent value := by
  have safe := directory_component_safe value
  have filled := directory_component_nonempty value
  have trimmed : popSeparators (observationDirectoryComponent value) = observationDirectoryComponent value := by
    rw [observationDirectoryComponent]
    by_cases empty : (popSeparators (directoryLoop [] false value)).isEmpty = true
    · rw [if_pos empty, unknown_bytes]
      decide
    · rw [if_neg empty, pop_separators, pop_separators]
      exact List.rdropWhile_idempotent _ _
  generalize observationDirectoryComponent value = component at safe filled trimmed ⊢
  rw [observationDirectoryComponent, directory_loop_kept [] false component safe, List.nil_append, trimmed,
    if_neg (List.isEmpty_iff.not.mpr filled)]

-- A name on the way: begun with the timestamp and within the limit.
structure DirectoryName (timestamp id : List Byte) : Prop where
  begins : timestamp <+: id
  safe : ∀ c ∈ id, directorySafe c = true
  limit : id.length ≤ observationIdMaxLength

theorem append_component_name (timestamp id component : List Byte) (name : DirectoryName timestamp id) :
    DirectoryName timestamp (appendComponent id component) := by
  rw [appendComponent]
  by_cases skipped : (component.isEmpty || decide (observationIdMaxLength - 1 ≤ id.length)) = true
  · rw [if_pos skipped]
    exact name
  · have room : id.length < observationIdMaxLength - 1 := by
      rw [Bool.or_eq_true, not_or, decide_eq_true_eq] at skipped
      exact Nat.lt_of_not_le skipped.2
    rw [if_neg skipped]
    refine ⟨?_, ?_, ?_⟩
    · rw [List.append_assoc]
      exact name.begins.trans (List.prefix_append _ _)
    · intro c member
      rcases List.mem_append.mp member with before | added
      · rcases List.mem_append.mp before with old | separator
        · exact name.safe c old
        · rw [List.mem_singleton.mp separator]
          decide
      · exact directory_component_safe component c (List.mem_of_mem_take added)
    · rw [List.length_append, List.length_append, List.length_take, List.length_singleton]
      omega

theorem automatic_id_name (timestamp object state : List Byte) (name : DirectoryName timestamp timestamp) :
    DirectoryName timestamp (automaticObservationDirectoryId timestamp object state) :=
  append_component_name timestamp _ state (append_component_name timestamp timestamp object name)

-- A name that stays in its directory.
structure PathComponent (id : List Byte) : Prop where
  filled : id ≠ []
  limit : id.length ≤ 64
  characters : ∀ c ∈ id, directorySafe c = true
  current : id ≠ [0x2e]
  parent : id ≠ [0x2e, 0x2e]
  single : 0x2f ∉ id

theorem observation_id_valid_iff (id : List Byte) : observationIdIsValid id = true ↔ PathComponent id := by
  have slash : directorySafe 0x2f = false := by decide
  rw [observationIdIsValid]
  simp only [valid_character]
  by_cases outside : (id.isEmpty || decide (observationIdMaxLength < id.length)) = true
  · rw [if_pos outside]
    constructor
    · exact fun same => nomatch same
    · intro component
      rcases (Bool.or_eq_true _ _).mp outside with empty | long
      · exact absurd (List.isEmpty_iff.mp empty) component.filled
      · exact absurd component.limit (Nat.not_le_of_lt (of_decide_eq_true long))
  · rw [if_neg outside, Bool.and_eq_true, Bool.and_eq_true, decide_eq_true_eq, decide_eq_true_eq, List.all_eq_true]
    rw [Bool.or_eq_true, not_or, decide_eq_true_eq] at outside
    constructor
    · rintro ⟨⟨characters, current⟩, parent⟩
      refine ⟨fun empty => outside.1 (List.isEmpty_iff.mpr empty), Nat.le_of_not_lt outside.2, characters, current, parent, ?_⟩
      intro member
      rw [characters _ member] at slash
      cases slash
    · exact fun component => ⟨⟨component.characters, component.current⟩, component.parent⟩

def isDigit (c : Byte) : Bool := 0x30 ≤ c && c ≤ 0x39

-- YYYYMMDDThhmmss.mmmZ
def TimestampForm (timestamp : List Byte) : Prop :=
  ∃ date time milliseconds : List Byte, date.length = 8 ∧ time.length = 6 ∧ milliseconds.length = 3 ∧
    (∀ c ∈ date ++ time ++ milliseconds, isDigit c = true) ∧
    timestamp = date ++ [0x54] ++ time ++ [0x2e] ++ milliseconds ++ [0x5a]

theorem timestamp_name (timestamp : List Byte) (form : TimestampForm timestamp) :
    timestamp.length = 20 ∧ DirectoryName timestamp timestamp := by
  obtain ⟨date, time, milliseconds, eight, six, three, digits, rfl⟩ := form
  have length : (date ++ [0x54] ++ time ++ [0x2e] ++ milliseconds ++ [0x5a] : List Byte).length = 20 := by
    simp only [List.length_append, List.length_singleton, eight, six, three]
  have safeDigit : ∀ c : Byte, isDigit c = true → directorySafe c = true := by
    intro c digit
    rw [directorySafe, asciiAlnum, ← isDigit, digit]
    rfl
  refine ⟨length, List.prefix_refl _, ?_, ?_⟩
  · intro c member
    simp only [List.mem_append, List.mem_singleton] at member digits
    rcases member with ((((inDate | rfl) | inTime) | rfl) | inMilliseconds) | rfl
    · exact safeDigit c (digits c (Or.inl (Or.inl inDate)))
    · decide
    · exact safeDigit c (digits c (Or.inl (Or.inr inTime)))
    · decide
    · exact safeDigit c (digits c (Or.inr inMilliseconds))
    · decide
  · rw [length]
    decide

theorem automatic_directory_names (timestamp object state : List Byte) (form : TimestampForm timestamp) :
    (observationIdIsValid (automaticObservationDirectoryId timestamp object state) = true ∧
      PathComponent (automaticObservationDirectoryId timestamp object state) ∧
      timestamp <+: automaticObservationDirectoryId timestamp object state) ∧
    ∀ value, observationDirectoryComponent (observationDirectoryComponent value) = observationDirectoryComponent value ∧
      observationDirectoryComponent value ≠ [] := by
  obtain ⟨twenty, start⟩ := timestamp_name timestamp form
  have name := automatic_id_name timestamp object state start
  generalize automaticObservationDirectoryId timestamp object state = id at name ⊢
  have long : 20 ≤ id.length := twenty ▸ name.begins.length_le
  have component : PathComponent id := by
    refine ⟨?_, name.limit, name.safe, ?_, ?_, ?_⟩
    · exact List.length_pos_iff.mp (by omega)
    · rintro rfl
      exact absurd long (by decide)
    · rintro rfl
      exact absurd long (by decide)
    · exact fun slash => absurd (name.safe _ slash) (by decide)
  exact ⟨⟨(observation_id_valid_iff id).mpr component, component, name.begins⟩,
    fun value => ⟨directory_component_idempotent value, directory_component_nonempty value⟩⟩

-- An object of slashes and dots, and a state that is cut.
theorem automatic_directory_names_cut :
    observationIdIsValid (automaticObservationDirectoryId (stringBytes "20260924T123015.042Z") (stringBytes "../../etc")
      (List.replicate 80 0x61)) = true :=
  (automatic_directory_names (stringBytes "20260924T123015.042Z") (stringBytes "../../etc") (List.replicate 80 0x61)
    ⟨stringBytes "20260924", stringBytes "123015", stringBytes "042", by decide +kernel, by decide +kernel, by decide +kernel,
      List.all_eq_true.mp (by decide +kernel), by decide +kernel⟩).1.1

end SpectralLine
