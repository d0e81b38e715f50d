import SpectralLine.SdfitsFaults

set_option autoImplicit false

namespace SpectralLine

open StatusCalls

section

variable {F : Type} (env : WriterEnv F) (faults : Nat → Option Fault)

-- The calls that work on the table once movnamHdu has reached it.
def FitsCall.onTable : FitsCall F → Bool
  | getSystemTime => true
  | updateKey _ _ => true
  | getColnum _ => true
  | modifyVectorLen _ _ => true
  | flushFile => true
  | _ => false

def keyAfter (name : String) (kept : Option (FitsValue F)) : List (FitsCall F) → Option (FitsValue F)
  | [] => kept
  | .updateKey key value :: rest => keyAfter name (if name = key then some value else kept) rest
  | _ :: rest => keyAfter name kept rest

def lengthAfter (column : Nat) (kept : Int) : List (FitsCall F) → Int
  | [] => kept
  | .modifyVectorLen changed length :: rest => lengthAfter column (if column = changed then length else kept) rest
  | _ :: rest => lengthAfter column kept rest

theorem key_after_append (name : String) (kept : Option (FitsValue F)) (first second : List (FitsCall F)) :
    keyAfter name kept (first ++ second) = keyAfter name (keyAfter name kept first) second := by
  induction first generalizing kept with
  | nil => rfl
  | cons call rest ih => cases call <;> exact ih _

theorem key_after_ite (name : String) (kept : Option (FitsValue F)) (case : Prop) [Decidable case] (first second : List (FitsCall F)) :
    keyAfter name kept (if case then first else second) = if case then keyAfter name kept first else keyAfter name kept second :=
  apply_ite (keyAfter name kept) case first second

theorem length_after_append (column : Nat) (kept : Int) (first second : List (FitsCall F)) :
    lengthAfter column kept (first ++ second) = lengthAfter column (lengthAfter column kept first) second := by
  induction first generalizing kept with
  | nil => rfl
  | cons call rest ih => cases call <;> exact ih _

theorem table_calls_run (calls : List (FitsCall F)) (table : ∀ call ∈ calls, call.onTable = true) (file : FitsFile F)
    (here : file.hdu = .singleDish) (disk : List (List Byte)) :
    ∃ later, calls.foldl (fun world call => call.apply world) ⟨some file, disk⟩ = ⟨some later, disk⟩ ∧
      (∀ name, later.keys .singleDish name = keyAfter name (file.keys .singleDish name) calls) ∧
      ∀ column, later.vectorLen column = lengthAfter column (file.vectorLen column) calls := by
  induction calls generalizing file with
  | nil => exact ⟨file, rfl, fun _ => rfl, fun _ => rfl⟩
  | cons call rest ih =>
      have later : ∀ other ∈ rest, other.onTable = true := fun other member => table other (List.mem_cons_of_mem call member)
      cases call with
      | getSystemTime => exact ih later file here
      | getColnum _ => exact ih later file here
      | flushFile => exact ih later file here
      | modifyVectorLen changed length =>
          exact ih later { file with vectorLen := fun c => if c = changed then length else file.vectorLen c } here
      | updateKey key value =>
          obtain ⟨made, run, keys, lengths⟩ := ih later (file.updateKey key value) here
          refine ⟨made, run, fun name => ?_, lengths⟩
          have updated : (file.updateKey key value).keys .singleDish name =
              if name = key then some value else file.keys .singleDish name := by
            simp only [FitsFile.updateKey, here, true_and]
          rw [keys, updated]
          rfl
      | createTemplate _ => exact nomatch table _ List.mem_cons_self
      | movabsHdu => exact nomatch table _ List.mem_cons_self
      | movnamHdu => exact nomatch table _ List.mem_cons_self
      | writeCol _ _ _ => exact nomatch table _ List.mem_cons_self
      | closeFile => exact nomatch table _ List.mem_cons_self

def tableCalls (hdr : HdrInfo F) : List (FitsCall F) := (setupCalls env hdr).drop 4

theorem setup_calls_split (hdr : HdrInfo F) :
    setupCalls env hdr = [.movabsHdu, .getSystemTime, .updateKey "DATE" (.text env.systemTime), .movnamHdu] ++ tableCalls env hdr := rfl

theorem finite_key_table (key : String) (value : F) : (finiteKey env key value).all FitsCall.onTable = true := by
  rw [finiteKey]
  split <;> rfl

theorem table_calls_only (hdr : HdrInfo F) : ∀ call ∈ tableCalls env hdr, call.onTable = true := by
  have switched : (if hdr.calMode = stringBytes "OFF" then []
      else [FitsCall.updateKey "CAL_FREQ" .undefined, .updateKey "CAL_DCYC" .undefined,
        .updateKey "CAL_PHS" (.real hdr.calPhs)]).all FitsCall.onTable = true := by
    split <;> rfl
  apply List.all_eq_true.mp
  simp only [tableCalls, setupCalls, headerCalls, List.cons_append, List.nil_append, List.drop_succ_cons, List.drop_zero, List.all_cons,
    List.all_append, finite_key_table, switched, FitsCall.onTable, layoutCalls, List.all_nil, Bool.and_self]

theorem created_clear (io : SdfitsIo F) (ready : io.writer.status = 0) (fine : (sdfitsCreate env faults io).2 = 0) :
    (startFile io.writer).filename.length < 210 ∧ (startFile io.writer).filename ∉ io.disk ∧
      Clear faults io.calls (createCalls env io.writer.hdr (startFile io.writer).filename).length := by
  by_cases long : 210 ≤ (startFile io.writer).filename.length
  · rw [sdfitsCreate, if_pos long] at fine
    exact absurd fine Nat.one_ne_zero
  · have short := Nat.not_le.mp long
    by_cases taken : (startFile io.writer).filename ∈ io.disk
    · rw [sdfitsCreate, if_neg long, if_pos taken] at fine
      exact absurd fine Nat.one_ne_zero
    · rw [sdfits_create_calls env faults io short taken] at fine
      exact ⟨short, taken, (SdfitsIo.call_all_status faults { io with writer := startFile io.writer } _ ready).mp fine⟩

theorem created_header (io : SdfitsIo F) (ready : io.writer.status = 0) (fine : (sdfitsCreate env faults io).2 = 0) :
    ∃ file, (sdfitsCreate env faults io).1.writer.fptr = some file ∧
      (∀ name, file.keys .singleDish name = keyAfter name none (tableCalls env io.writer.hdr)) ∧
      ∀ column, file.vectorLen column = lengthAfter column 1 (tableCalls env io.writer.hdr) := by
  obtain ⟨short, free, clear⟩ := created_clear env faults io ready fine
  let opened : FitsFile F := { FitsFile.updateKey {} "DATE" (.text env.systemTime) with hdu := .singleDish }
  obtain ⟨file, run, keys, lengths⟩ := table_calls_run (tableCalls env io.writer.hdr) (table_calls_only env io.writer.hdr) opened rfl
    ((startFile io.writer).filename :: io.disk)
  refine ⟨file, ?_, fun name => ?_, lengths⟩
  · rw [sdfits_create_calls env faults io short free,
      SdfitsIo.call_all_clear faults { io with writer := startFile io.writer } _ ready clear _ rfl, create_calls_cons,
      setup_calls_split, List.foldl_cons, List.foldl_append]
    exact congrArg FitsWorld.file run
  · have unset : opened.keys .singleDish name = none := by simp [opened, FitsFile.updateKey]
    rw [keys, unset]

theorem data_column : columnNumber "DATA" = 20 := by decide

theorem data_tdim : "TDIM" ++ (columnNumber "DATA").repr = "TDIM20" := by
  rw [data_column]
  decide

theorem subfreq_column : columnNumber "SUBFREQ" = 14 := by decide

-- The cards from which a reader takes the dimensions and the frequencies.
def readCards (hdr : HdrInfo F) : List (String × FitsValue F) :=
  [("OBSFREQ", .real hdr.obsfreq),
    ("NPOL", .integer hdr.npol),
    ("NCHAN", .integer hdr.nchan),
    ("CHAN_BW", .real hdr.chanBw),
    ("NSUBBAND", .integer hdr.nsubband),
    ("TDIM20", .text (tdimValue hdr))]

theorem table_cards (hdr : HdrInfo F) (card : String × FitsValue F) (member : card ∈ readCards hdr) :
    keyAfter card.1 none (tableCalls env hdr) = some card.2 := by
  simp only [readCards, List.mem_cons, List.not_mem_nil, or_false] at member
  rcases member with rfl | rfl | rfl | rfl | rfl | rfl <;>
    simp [tableCalls, setupCalls, headerCalls, layoutCalls, data_tdim, key_after_append, key_after_ite, keyAfter]

theorem table_lengths (hdr : HdrInfo F) : lengthAfter 20 1 (tableCalls env hdr) = hdr.nsubband * hdr.nchan * hdr.npol := by
  simp [tableCalls, setupCalls, headerCalls, layoutCalls, data_column, subfreq_column, length_after_append, lengthAfter]

theorem created_cards (io : SdfitsIo F) (ready : io.writer.status = 0) (fine : (sdfitsCreate env faults io).2 = 0) :
    ∃ file, (sdfitsCreate env faults io).1.writer.fptr = some file ∧
      (∀ card ∈ readCards io.writer.hdr, file.keys .singleDish card.1 = some card.2) ∧
      file.vectorLen 20 = io.writer.hdr.nsubband * io.writer.hdr.nchan * io.writer.hdr.npol := by
  obtain ⟨file, opened, keys, lengths⟩ := created_header env faults io ready fine
  refine ⟨file, opened, fun card member => ?_, ?_⟩
  · rw [keys, table_cards env io.writer.hdr card member]
  · rw [lengths, table_lengths]

end

end SpectralLine
