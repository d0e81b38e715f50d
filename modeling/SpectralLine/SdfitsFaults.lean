import SpectralLine.Sdfits

set_option autoImplicit false

namespace SpectralLine

open StatusCalls

section

variable {F : Type} (env : WriterEnv F) (faults : Nat → Option Fault)

namespace SdfitsIo

theorem call_all_append (io : SdfitsIo F) (first second : List (FitsCall F)) :
    io.callAll faults (first ++ second) = (io.callAll faults first).callAll faults second := by
  rw [callAll, perform_all_append]
  rfl

theorem call_all_stuck (io : SdfitsIo F) (calls : List (FitsCall F)) (stuck : io.writer.status ≠ 0) :
    io.callAll faults calls = io := by
  rw [callAll, perform_all_stuck _ _ io.session calls (Nat.pos_of_ne_zero stuck)]
  rfl

theorem call_all_status (io : SdfitsIo F) (calls : List (FitsCall F)) (ready : io.writer.status = 0) :
    (io.callAll faults calls).writer.status = 0 ↔ Clear faults io.calls calls.length :=
  perform_all_status _ _ io.session calls ready

theorem call_all_clear (io : SdfitsIo F) (calls : List (FitsCall F)) (ready : io.writer.status = 0)
    (clear : Clear faults io.calls calls.length) (world : FitsWorld F)
    (run : calls.foldl (fun world call => call.apply world) ⟨io.writer.fptr, io.disk⟩ = world) :
    io.callAll faults calls =
      { writer := { io.writer with fptr := world.file, status := 0 }
        disk := world.disk
        calls := io.calls + calls.length } := by
  rw [callAll, perform_all_clear _ _ io.session calls ready clear, ← run]
  rfl

theorem call_all_keeps (kept : FitsWorld F → Prop) (io : SdfitsIo F) (calls : List (FitsCall F))
    (holds : kept ⟨io.writer.fptr, io.disk⟩) (keeps : ∀ call ∈ calls, ∀ world, kept world → kept (call.apply world)) :
    kept ⟨(io.callAll faults calls).writer.fptr, (io.callAll faults calls).disk⟩ :=
  perform_all_keeps _ _ kept io.session calls holds keeps

-- The status of the object tells whether this job has met a fault.
def Honest (io : SdfitsIo F) : Prop := io.writer.status = 0 ↔ Clear faults 0 io.calls

theorem call_all_honest (io : SdfitsIo F) (calls : List (FitsCall F)) (honest : Honest faults io) :
    Honest faults (io.callAll faults calls) := perform_all_honest _ _ io.session calls honest

end SdfitsIo

-- A return on a set status skips only calls that would do nothing.
theorem early_return (io : SdfitsIo F) (first rest : List (FitsCall F)) (last : SdfitsIo F × Nat)
    (continues : last = ((io.callAll faults first).callAll faults rest, ((io.callAll faults first).callAll faults rest).writer.status)) :
    (if (io.callAll faults first).writer.status ≠ 0 then (io.callAll faults first, (io.callAll faults first).writer.status) else last) =
      (io.callAll faults (first ++ rest), (io.callAll faults (first ++ rest)).writer.status) := by
  rw [continues, SdfitsIo.call_all_append]
  by_cases stuck : (io.callAll faults first).writer.status ≠ 0
  · rw [if_pos stuck, SdfitsIo.call_all_stuck faults _ rest stuck]
  · rw [if_neg stuck]

def createCalls (hdr : HdrInfo F) (filename : List Byte) : List (FitsCall F) :=
  [.createTemplate filename] ++ ((headerCalls env hdr ++ [.getColnum "DATA"]) ++ ([.getColnum "SUBFREQ"] ++
    layoutCalls hdr (columnNumber "DATA") (columnNumber "SUBFREQ")))

theorem sdfits_create_calls (io : SdfitsIo F) (short : (startFile io.writer).filename.length < 210)
    (free : (startFile io.writer).filename ∉ io.disk) :
    sdfitsCreate env faults io =
      let done := SdfitsIo.callAll faults { io with writer := startFile io.writer }
        (createCalls env io.writer.hdr (startFile io.writer).filename)
      (done, done.writer.status) := by
  rw [sdfitsCreate, if_neg (Nat.not_le.mpr short), if_neg free]
  exact early_return faults _ _ _ _ (early_return faults _ _ _ _ (early_return faults _ _ _ _ rfl))

-- A routine that leaves the disk and the cells as they are.
def FitsCall.headerOnly : FitsCall F → Bool
  | createTemplate _ => false
  | writeCol _ _ _ => false
  | closeFile => false
  | _ => true

-- A file of this name, still without rows.
def NewFile (filename : List Byte) (disk : List (List Byte)) (world : FitsWorld F) : Prop :=
  (∃ file, world.file = some file ∧ file.cells = fun _ _ => none) ∧ world.disk = filename :: disk

theorem header_only_keeps (filename : List Byte) (disk : List (List Byte)) (call : FitsCall F) (only : call.headerOnly = true)
    (world : FitsWorld F) (made : NewFile filename disk world) : NewFile filename disk (call.apply world) := by
  obtain ⟨⟨file, opened, empty⟩, named⟩ := made
  cases call with
  | createTemplate => cases only
  | writeCol => cases only
  | closeFile => cases only
  | getSystemTime => exact ⟨⟨file, opened, empty⟩, named⟩
  | getColnum => exact ⟨⟨file, opened, empty⟩, named⟩
  | flushFile => exact ⟨⟨file, opened, empty⟩, named⟩
  | movabsHdu => exact ⟨⟨_, congrArg (Option.map _) opened, empty⟩, named⟩
  | movnamHdu => exact ⟨⟨_, congrArg (Option.map _) opened, empty⟩, named⟩
  | updateKey => exact ⟨⟨_, congrArg (Option.map _) opened, empty⟩, named⟩
  | modifyVectorLen => exact ⟨⟨_, congrArg (Option.map _) opened, empty⟩, named⟩

theorem finite_key_only (key : String) (value : F) : (finiteKey env key value).all FitsCall.headerOnly = true := by
  rw [finiteKey]
  split <;> rfl

theorem header_calls_only (hdr : HdrInfo F) : (headerCalls env hdr).all FitsCall.headerOnly = true := by
  have switched : (if hdr.calMode = stringBytes "OFF" then []
      else [FitsCall.updateKey "CAL_FREQ" .undefined, .updateKey "CAL_DCYC" .undefined,
        .updateKey "CAL_PHS" (.real hdr.calPhs)]).all FitsCall.headerOnly = true := by
    split <;> rfl
  simp only [headerCalls, List.all_append, finite_key_only, switched, Bool.and_true]
  rfl

def setupCalls (hdr : HdrInfo F) : List (FitsCall F) :=
  (headerCalls env hdr ++ [.getColnum "DATA"]) ++ ([.getColnum "SUBFREQ"] ++
    layoutCalls hdr (columnNumber "DATA") (columnNumber "SUBFREQ"))

theorem create_calls_cons (hdr : HdrInfo F) (filename : List Byte) :
    createCalls env hdr filename = .createTemplate filename :: setupCalls env hdr := rfl

theorem setup_calls_only (hdr : HdrInfo F) : ∀ call ∈ setupCalls env hdr, call.headerOnly = true := by
  apply List.all_eq_true.mp
  simp only [setupCalls, List.all_append, header_calls_only, Bool.true_and]
  rfl

-- The creation fails before the file exists.
def TemplateFails (start : Nat) : Prop := ∃ fault, faults start = some fault ∧ fault.applied = false

theorem template_fails_first (io : SdfitsIo F) (filename : List Byte) (rest : List (FitsCall F)) (ready : io.writer.status = 0)
    (fails : TemplateFails faults io.calls) :
    (io.callAll faults (.createTemplate filename :: rest)).disk = io.disk ∧
      (io.callAll faults (.createTemplate filename :: rest)).writer.status ≠ 0 := by
  obtain ⟨fault, answer, unapplied⟩ := fails
  have first : io.callAll faults [.createTemplate filename] =
      { io with writer := { io.writer with status := fault.code + 1 }, calls := io.calls + 1 } := by
    simp only [SdfitsIo.callAll, performAll, List.foldl_cons, List.foldl_nil, perform, SdfitsIo.session, ready, answer, unapplied,
      Nat.lt_irrefl, if_false, Bool.false_eq_true]
  have split : .createTemplate filename :: rest = [FitsCall.createTemplate filename] ++ rest := rfl
  rw [split, SdfitsIo.call_all_append, SdfitsIo.call_all_stuck faults _ rest (by rw [first]; exact Nat.succ_ne_zero _), first]
  exact ⟨rfl, Nat.succ_ne_zero _⟩

theorem template_makes_file (io : SdfitsIo F) (filename : List Byte) (hdr : HdrInfo F) (ready : io.writer.status = 0)
    (made : ¬ TemplateFails faults io.calls) :
    NewFile filename io.disk ⟨(io.callAll faults (createCalls env hdr filename)).writer.fptr,
      (io.callAll faults (createCalls env hdr filename)).disk⟩ := by
  have split : createCalls env hdr filename = [.createTemplate filename] ++ setupCalls env hdr := rfl
  rw [split, SdfitsIo.call_all_append]
  apply SdfitsIo.call_all_keeps faults (NewFile filename io.disk)
  · have applied : (FitsCall.createTemplate filename).apply ⟨io.writer.fptr, io.disk⟩ =
        (⟨some {}, filename :: io.disk⟩ : FitsWorld F) := rfl
    have fresh : NewFile filename io.disk (⟨some {}, filename :: io.disk⟩ : FitsWorld F) := ⟨⟨{}, rfl, rfl⟩, rfl⟩
    cases answer : faults io.calls with
    | none =>
        simpa only [SdfitsIo.callAll, performAll, List.foldl_cons, List.foldl_nil, perform, SdfitsIo.session, ready, answer, applied,
          Nat.lt_irrefl, if_false] using fresh
    | some fault =>
        have effect : fault.applied = true := by
          cases kept : fault.applied with
          | true => rfl
          | false => exact absurd ⟨fault, answer, kept⟩ made
        simpa only [SdfitsIo.callAll, performAll, List.foldl_cons, List.foldl_nil, perform, SdfitsIo.session, ready, answer, applied,
          effect, Nat.lt_irrefl, if_false, if_true] using fresh
  · exact fun call member world => header_only_keeps filename io.disk call (setup_calls_only env hdr call member) world

-- While a row is written the other rows and the disk stay as they are.
def OtherRows (row : Nat) (cells : Nat → Nat → Option (FitsValue F)) (disk : List (List Byte)) (world : FitsWorld F) : Prop :=
  (∃ file, world.file = some file ∧ ∀ r ≠ row, file.cells r = cells r) ∧ world.disk = disk

theorem write_col_other (row column : Nat) (value : FitsValue F) (file : FitsFile F) (r : Nat) (other : r ≠ row) :
    (file.writeCol column row value).cells r = file.cells r := by
  funext c
  exact if_neg fun both => other both.1

theorem write_col_keeps (row column : Nat) (value : FitsValue F) (cells : Nat → Nat → Option (FitsValue F)) (disk : List (List Byte))
    (world : FitsWorld F) (kept : OtherRows row cells disk world) :
    OtherRows row cells disk ((FitsCall.writeCol column row value).apply world) := by
  obtain ⟨⟨file, opened, others⟩, named⟩ := kept
  refine ⟨⟨_, congrArg (Option.map _) opened, fun r other => ?_⟩, named⟩
  exact (write_col_other row column value file r other).trans (others r other)

theorem write_cells_mem (row column : Nat) (values : List (FitsValue F)) (call : FitsCall F)
    (member : call ∈ writeCells row column values) : ∃ c value, call = .writeCol c row value := by
  induction values generalizing column with
  | nil => cases member
  | cons value rest ih =>
      rcases List.mem_cons.mp member with rfl | later
      · exact ⟨column, value, rfl⟩
      · exact ih (column + 1) later

theorem row_calls_keep (hdr : HdrInfo F) (columns : DataColumns F) (row : Nat) (cells : Nat → Nat → Option (FitsValue F))
    (disk : List (List Byte)) (call : FitsCall F) (member : call ∈ rowCalls env hdr columns row) (world : FitsWorld F)
    (kept : OtherRows row cells disk world) : OtherRows row cells disk (call.apply world) := by
  rcases List.mem_append.mp member with written | flushed
  · obtain ⟨c, value, rfl⟩ := write_cells_mem row 1 _ call written
    exact write_col_keeps row c value cells disk world kept
  · by_cases eighth : row % 8 = 0
    · rw [if_pos eighth] at flushed
      obtain rfl := List.mem_singleton.mp flushed
      exact kept
    · rw [if_neg eighth] at flushed
      cases flushed

-- The cells of a row that was empty from the first column on.
theorem write_cells_row (row start : Nat) (values : List (FitsValue F)) (file : FitsFile F) (disk : List (List Byte))
    (empty : ∀ c, start ≤ c → file.cells row c = none) :
    ∃ written, (writeCells row start values).foldl (fun world call => call.apply world) ⟨some file, disk⟩ = ⟨some written, disk⟩ ∧
      (∀ r ≠ row, written.cells r = file.cells r) ∧ (∀ c < start, written.cells row c = file.cells row c) ∧
      ∀ k, written.cells row (start + k) = values[k]? := by
  induction values generalizing start file with
  | nil => exact ⟨file, rfl, fun r _ => rfl, fun c _ => rfl, fun k => empty (start + k) (Nat.le_add_right start k)⟩
  | cons value rest ih =>
      have free : ∀ c, start + 1 ≤ c → (file.writeCol start row value).cells row c = none := by
        intro c beyond
        exact (if_neg fun both => Nat.ne_of_gt beyond both.2).trans (empty c (Nat.le_of_succ_le beyond))
      obtain ⟨written, run, others, before, cells⟩ := ih (start + 1) (file.writeCol start row value) free
      refine ⟨written, run, fun r other => ?_, fun c below => ?_, fun k => ?_⟩
      · rw [others r other, write_col_other row start value file r other]
      · rw [before c (Nat.lt_succ_of_lt below)]
        exact if_neg fun both => Nat.ne_of_lt below both.2
      · cases k with
        | zero =>
            rw [Nat.add_zero, before start (Nat.lt_succ_self start)]
            exact if_pos ⟨rfl, rfl⟩
        | succ k =>
            have later := cells k
            rwa [Nat.add_assoc, Nat.add_comm 1] at later

theorem row_calls_row (hdr : HdrInfo F) (columns : DataColumns F) (row : Nat) (file : FitsFile F) (disk : List (List Byte))
    (empty : ∀ c, file.cells row c = none) :
    ∃ written, (rowCalls env hdr columns row).foldl (fun world call => call.apply world) ⟨some file, disk⟩ = ⟨some written, disk⟩ ∧
      (∀ r ≠ row, written.cells r = file.cells r) ∧ ∀ k, written.cells row (k + 1) = (rowCells env hdr columns)[k]? := by
  obtain ⟨written, run, others, _, cells⟩ := write_cells_row row 1 (rowCells env hdr columns) file disk fun c _ => empty c
  refine ⟨written, ?_, others, fun k => by rw [Nat.add_comm, cells]⟩
  rw [rowCalls, List.foldl_append, run]
  by_cases eighth : row % 8 = 0
  · rw [if_pos eighth]
    rfl
  · rw [if_neg eighth]
    rfl

def rowCallCount (row : Nat) : Nat := if row % 8 = 0 then 22 else 21

theorem row_calls_length (hdr : HdrInfo F) (columns : DataColumns F) (row : Nat) :
    (rowCalls env hdr columns row).length = rowCallCount row := by
  rw [rowCalls, rowCallCount]
  by_cases eighth : row % 8 = 0
  · rw [if_pos eighth, if_pos eighth]
    rfl
  · rw [if_neg eighth, if_neg eighth]
    rfl

end

end SpectralLine
