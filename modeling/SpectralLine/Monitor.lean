import Mathlib.Data.Rat.Floor
import SpectralLine.Lib.Dictionary
import SpectralLine.MonitorFiles

set_option autoImplicit false

namespace SpectralLine.Monitor

open Dictionary

structure Directory where
  files : List DirEntry
  distinct : (files.map DirEntry.name).Nodup

structure Update where
  filename : String
  snapshot : List UInt8
  digest : List UInt8
  identity : Identity

structure Manifest where
  version : String
  generatedAt : String
  pollIntervalMs : Nat
  renderIntervalMs : Nat
  streams : List ManifestEntry

-- The dictionaries of run_monitor, and manifest.json in the output directory.
structure MonitorState where
  digests : Dict String (List UInt8)
  manifestEntries : Dict String ManifestEntry
  reportedErrors : Dict String String
  nextChecks : Dict String Rat
  manifest : Option Manifest

-- What one pass of the loop meets: the time, the files, how each render ends, the
-- order in which renders finish, whether manifest.json is still where the last
-- pass left it, the readings of the clock, and whether it can be replaced.
structure Cycle where
  started : Rat
  directory : Directory
  render : String → Except String Nat
  asCompleted : List Update → List Update
  completes : ∀ updates, (asCompleted updates).Perm updates
  manifestLeft : Bool
  updatedAt : String → String
  timeNs : Nat
  generatedAt : String
  replaced : Except String Unit

def streamFiles (c : Cycle) : List DirEntry :=
  (c.directory.files.filter fun file => fnmatch streamPattern.toList file.name.toList && file.isFile).insertionSort
    fun left right => left.name ≤ right.name

structure Scan where
  nextChecks : Dict String Rat
  reportedErrors : Dict String String
  updates : List Update

def checkStream (host : Host) (file : DirEntry) : Except String (Identity × List UInt8 × List UInt8) := do
  let identity ← decodeStreamIdentity host file.name
  let read ← readMonitorSnapshot host file
  return (identity, read)

def scanFile (host : Host) (previousDigests : Dict String (List UInt8)) (now : Rat) (scan : Scan) (file : DirEntry) : Scan :=
  if now < (scan.nextChecks.lookup file.name).getD 0 then scan
  else
    let checked := { scan with nextChecks := scan.nextChecks.insert file.name (now + host.renderInterval) }
    match checkStream host file with
    | .ok (identity, snapshot, digest) =>
        { checked with
          updates :=
            if previousDigests.lookup file.name ≠ some digest then scan.updates ++ [⟨file.name, snapshot, digest, identity⟩]
            else scan.updates
          reportedErrors := scan.reportedErrors.erase file.name }
    | .error message =>
        if scan.reportedErrors.lookup file.name ≠ some message then
          { checked with reportedErrors := scan.reportedErrors.insert file.name message }
        else checked

def collectUpdates (host : Host) (s : MonitorState) (c : Cycle) : Scan :=
  (streamFiles c).foldl (scanFile host s.digests c.started) ⟨s.nextChecks, s.reportedErrors, []⟩

def activeFiles (c : Cycle) : List String := (streamFiles c).map DirEntry.name

def removedStreams (s : MonitorState) (c : Cycle) : List String := s.digests.keys.filter fun path => path ∉ activeFiles c

def dropStream (s : MonitorState) (filename : String) : MonitorState :=
  { s with
    digests := s.digests.erase filename
    manifestEntries := s.manifestEntries.erase (stem filename)
    nextChecks := s.nextChecks.erase filename }

def renders (c : Cycle) (update : Update) : Bool := (c.render update.filename).isOk

def recordStream (c : Cycle) (s : MonitorState) (update : Update) : Except String MonitorState := do
  let entry ← manifestEntry update.filename update.digest update.identity (c.updatedAt update.filename)
  return {
    s with
    digests := s.digests.insert update.filename update.digest
    manifestEntries := s.manifestEntries.insert (stem update.filename) entry }

def publishManifest (host : Host) (c : Cycle) (s : MonitorState) : Except String MonitorState := do
  c.replaced
  return {
    s with
    manifest := some {
      version := toString c.timeNs
      generatedAt := c.generatedAt
      pollIntervalMs := 1000
      renderIntervalMs := (host.renderInterval * 1000).floor.toNat
      streams := valuesByKey s.manifestEntries } }

-- manifest.json as this pass finds it.
def foundManifest (s : MonitorState) (c : Cycle) : Option Manifest := if c.manifestLeft then s.manifest else none

-- One pass of the loop of run_monitor. An error ends the monitor.
def cycle (host : Host) (s : MonitorState) (c : Cycle) : Except String MonitorState := do
  let scan := collectUpdates host s c
  let removed := removedStreams s c
  let left := removed.foldl dropStream {
    s with
    nextChecks := scan.nextChecks
    reportedErrors := scan.reportedErrors
    manifest := foundManifest s c }
  let finished := c.asCompleted scan.updates
  let completed := finished.filter (renders c)
  if finished.all (renders c) then
    let recorded ← completed.foldlM (recordStream c) left
    if !completed.isEmpty || !removed.isEmpty || recorded.manifest.isNone then publishManifest host c recorded
    else return recorded
  else return left

def renderOnce (host : Host) (s : MonitorState) (c : Cycle) : Except String MonitorState := do
  let after ← cycle host s c
  let updates := (collectUpdates host s c).updates
  if (streamFiles c).isEmpty then .error ("No monitor files matching " ++ streamPattern ++ " in " ++ monitorDir)
  else if !updates.all (renders c) || updates.isEmpty then .error "One or more diagnostic renders failed"
  else .ok after

def startMonitor (found : Option Manifest) : MonitorState := ⟨∅, ∅, ∅, ∅, found⟩

def runMonitor (host : Host) (s : MonitorState) (cycles : List Cycle) : Except String MonitorState := cycles.foldlM (cycle host) s

def selected (host : Host) (previousDigests : Dict String (List UInt8)) (nextChecks : Dict String Rat) (now : Rat)
    (file : DirEntry) : Option Update :=
  if now < (nextChecks.lookup file.name).getD 0 then none
  else
    match checkStream host file with
    | .ok (identity, snapshot, digest) =>
        if previousDigests.lookup file.name ≠ some digest then some ⟨file.name, snapshot, digest, identity⟩ else none
    | .error _ => none

section

variable (host : Host) (previousDigests : Dict String (List UInt8)) (now : Rat)

theorem scan_file_updates (scan : Scan) (file : DirEntry) :
    (scanFile host previousDigests now scan file).updates =
      scan.updates ++ (selected host previousDigests scan.nextChecks now file).toList := by
  rw [scanFile, selected]
  by_cases early : now < (scan.nextChecks.lookup file.name).getD 0
  · rw [if_pos early, if_pos early]
    simp
  · rw [if_neg early, if_neg early]
    cases checkStream host file with
    | ok read =>
        dsimp only
        split <;> simp
    | error message =>
        dsimp only
        split <;> simp

theorem scan_file_checks (scan : Scan) (file : DirEntry) :
    (scanFile host previousDigests now scan file).nextChecks =
      if now < (scan.nextChecks.lookup file.name).getD 0 then scan.nextChecks
      else scan.nextChecks.insert file.name (now + host.renderInterval) := by
  rw [scanFile]
  by_cases early : now < (scan.nextChecks.lookup file.name).getD 0
  · rw [if_pos early, if_pos early]
  · rw [if_neg early, if_neg early]
    cases checkStream host file with
    | ok read => rfl
    | error message =>
        dsimp only
        split <;> rfl

theorem scan_file_checks_other (scan : Scan) (file : DirEntry) (name : String) (other : file.name ≠ name) :
    (scanFile host previousDigests now scan file).nextChecks.lookup name = scan.nextChecks.lookup name := by
  rw [scan_file_checks]
  split
  · rfl
  · exact AList.lookup_insert_ne (Ne.symm other)

theorem scan_checks_other (files : List DirEntry) (scan : Scan) (name : String) (other : name ∉ files.map DirEntry.name) :
    (files.foldl (scanFile host previousDigests now) scan).nextChecks.lookup name = scan.nextChecks.lookup name := by
  induction files generalizing scan with
  | nil => rfl
  | cons file files ih =>
      rw [List.map_cons, List.mem_cons, not_or] at other
      rw [List.foldl_cons, ih _ other.2, scan_file_checks_other host previousDigests now scan file name (Ne.symm other.1)]

theorem scan_checks (files : List DirEntry) (scan : Scan) (distinct : (files.map DirEntry.name).Nodup) (name : String)
    (inside : name ∈ files.map DirEntry.name) :
    (files.foldl (scanFile host previousDigests now) scan).nextChecks.lookup name =
      if now < (scan.nextChecks.lookup name).getD 0 then scan.nextChecks.lookup name else some (now + host.renderInterval) := by
  induction files generalizing scan with
  | nil => cases inside
  | cons file files ih =>
      rw [List.map_cons, List.nodup_cons] at distinct
      rw [List.foldl_cons]
      rcases List.mem_cons.mp inside with here | later
      · subst here
        rw [scan_checks_other host previousDigests now files _ file.name distinct.1, scan_file_checks]
        split
        · rfl
        · exact AList.lookup_insert _
      · have other : file.name ≠ name := fun same => distinct.1 (same ▸ later)
        rw [ih _ distinct.2 later, scan_file_checks_other host previousDigests now scan file name other]

theorem selected_congr (left right : Dict String Rat) (file : DirEntry) (same : left.lookup file.name = right.lookup file.name) :
    selected host previousDigests left now file = selected host previousDigests right now file := by
  rw [selected, selected, same]

-- The files of a scan do not disturb one another: each name is there once.
theorem scan_updates (files : List DirEntry) (scan : Scan) (distinct : (files.map DirEntry.name).Nodup) :
    (files.foldl (scanFile host previousDigests now) scan).updates =
      scan.updates ++ files.filterMap (selected host previousDigests scan.nextChecks now) := by
  induction files generalizing scan with
  | nil => simp
  | cons file files ih =>
      rw [List.map_cons, List.nodup_cons] at distinct
      have later : files.filterMap (selected host previousDigests (scanFile host previousDigests now scan file).nextChecks now) =
          files.filterMap (selected host previousDigests scan.nextChecks now) := by
        refine List.filterMap_congr fun other member => selected_congr host previousDigests now _ _ other ?_
        have apart : file.name ≠ other.name := fun same => distinct.1 (same ▸ List.mem_map_of_mem member)
        exact scan_file_checks_other host previousDigests now scan file other.name apart
      rw [List.foldl_cons, ih _ distinct.2, later, scan_file_updates, List.append_assoc]
      congr 1
      cases found : selected host previousDigests scan.nextChecks now file <;> simp [found]

end

theorem stream_files_distinct (c : Cycle) : ((streamFiles c).map DirEntry.name).Nodup := by
  have kept : ((c.directory.files.filter fun file => fnmatch streamPattern.toList file.name.toList && file.isFile).map
      DirEntry.name).Nodup := (List.filter_sublist.map DirEntry.name).nodup c.directory.distinct
  exact ((List.perm_insertionSort _ _).map DirEntry.name).nodup_iff.mpr kept

theorem active_globbed (c : Cycle) (name : String) (active : name ∈ activeFiles c) : Globbed name := by
  obtain ⟨file, member, rfl⟩ := List.mem_map.mp active
  have kept := List.mem_filter.mp ((List.mem_insertionSort _).mp member)
  rw [Bool.and_eq_true] at kept
  exact kept.2.1

def updatesOf (host : Host) (s : MonitorState) (c : Cycle) : List Update := (collectUpdates host s c).updates

theorem updates_selected (host : Host) (s : MonitorState) (c : Cycle) :
    updatesOf host s c = (streamFiles c).filterMap (selected host s.digests s.nextChecks c.started) := by
  rw [updatesOf, collectUpdates, scan_updates host s.digests c.started _ _ (stream_files_distinct c)]
  rfl

-- A file that a pass selects was due, and its name and its content were read.
theorem selected_inv (host : Host) (previousDigests : Dict String (List UInt8)) (nextChecks : Dict String Rat) (now : Rat)
    (file : DirEntry) (update : Update) (found : selected host previousDigests nextChecks now file = some update) :
    ¬ now < (nextChecks.lookup file.name).getD 0 ∧ update.filename = file.name ∧
      decodeStreamIdentity host file.name = .ok update.identity := by
  rw [selected] at found
  split at found
  · cases found
  · rename_i due
    split at found
    · rename_i identity snapshot digest read
      split at found
      · cases found
        refine ⟨due, rfl, ?_⟩
        rw [checkStream] at read
        cases decoded : decodeStreamIdentity host file.name with
        | error message =>
            rw [decoded] at read
            cases read
        | ok named =>
            rw [decoded] at read
            cases content : readMonitorSnapshot host file with
            | error message =>
                rw [content] at read
                cases read
            | ok pair =>
                rw [content] at read
                cases read
                rfl
      · cases found
    · cases found

theorem updates_files (host : Host) (s : MonitorState) (c : Cycle) :
    ((updatesOf host s c).map Update.filename).Sublist (activeFiles c) := by
  have each : ∀ files : List DirEntry, ((files.filterMap (selected host s.digests s.nextChecks c.started)).map
      Update.filename).Sublist (files.map DirEntry.name) := by
    intro files
    induction files with
    | nil => exact .slnil
    | cons file files ih =>
        rw [List.filterMap_cons]
        cases found : selected host s.digests s.nextChecks c.started file with
        | none => exact ih.cons _
        | some update =>
            obtain ⟨_, same, _⟩ := selected_inv host _ _ _ file update found
            rw [List.map_cons, List.map_cons, same]
            exact ih.cons_cons _
  rw [updates_selected]
  exact each (streamFiles c)

theorem updates_distinct (host : Host) (s : MonitorState) (c : Cycle) : ((updatesOf host s c).map Update.filename).Nodup :=
  (updates_files host s c).nodup (stream_files_distinct c)

theorem updates_active (host : Host) (s : MonitorState) (c : Cycle) (update : Update) (member : update ∈ updatesOf host s c) :
    update.filename ∈ activeFiles c := (updates_files host s c).subset (List.mem_map_of_mem member)

theorem updates_decoded (host : Host) (s : MonitorState) (c : Cycle) (update : Update) (member : update ∈ updatesOf host s c) :
    decodeStreamIdentity host update.filename = .ok update.identity := by
  rw [updates_selected, List.mem_filterMap] at member
  obtain ⟨file, _, found⟩ := member
  obtain ⟨_, same, decoded⟩ := selected_inv host _ _ _ file update found
  rw [same, decoded]

def dropped (host : Host) (s : MonitorState) (c : Cycle) : MonitorState where
  digests := popAll (removedStreams s c) s.digests
  manifestEntries := popAll ((removedStreams s c).map stem) s.manifestEntries
  reportedErrors := (collectUpdates host s c).reportedErrors
  nextChecks := popAll (removedStreams s c) (collectUpdates host s c).nextChecks
  manifest := foundManifest s c

theorem drop_streams (paths : List String) (s : MonitorState) :
    paths.foldl dropStream s = {
      s with
      digests := popAll paths s.digests
      manifestEntries := popAll (paths.map stem) s.manifestEntries
      nextChecks := popAll paths s.nextChecks } := by
  induction paths generalizing s with
  | nil => rfl
  | cons path paths ih =>
      rw [List.foldl_cons, ih]
      rfl

theorem drop_removed (host : Host) (s : MonitorState) (c : Cycle) :
    (removedStreams s c).foldl dropStream {
      s with
      nextChecks := (collectUpdates host s c).nextChecks
      reportedErrors := (collectUpdates host s c).reportedErrors
      manifest := foundManifest s c } = dropped host s c := drop_streams _ _

def recorded (host : Host) (s : MonitorState) (c : Cycle) (entry : Update → ManifestEntry) : MonitorState :=
  { dropped host s c with
    digests := setAll Update.filename Update.digest (c.asCompleted (updatesOf host s c)) (dropped host s c).digests
    manifestEntries :=
      setAll (fun update => stem update.filename) entry (c.asCompleted (updatesOf host s c)) (dropped host s c).manifestEntries }

theorem record_streams (c : Cycle) (updates : List Update) (entry : Update → ManifestEntry) (s : MonitorState)
    (made : ∀ update ∈ updates,
      manifestEntry update.filename update.digest update.identity (c.updatedAt update.filename) = .ok (entry update)) :
    updates.foldlM (recordStream c) s = .ok {
      s with
      digests := setAll Update.filename Update.digest updates s.digests
      manifestEntries := setAll (fun update => stem update.filename) entry updates s.manifestEntries } := by
  induction updates generalizing s with
  | nil => rfl
  | cons update updates ih =>
      have first : recordStream c s update = .ok {
          s with
          digests := s.digests.insert update.filename update.digest
          manifestEntries := s.manifestEntries.insert (stem update.filename) (entry update) } := by
        rw [recordStream, made update List.mem_cons_self]
        rfl
      rw [List.foldlM_cons, first]
      exact ih _ fun later member => made later (List.mem_cons_of_mem update member)

def allRendered (host : Host) (s : MonitorState) (c : Cycle) : Bool := (updatesOf host s c).all (renders c)

-- Nothing rendered, nothing removed, and a manifest in place.
def quiet (host : Host) (s : MonitorState) (c : Cycle) : Bool :=
  (updatesOf host s c).isEmpty && (removedStreams s c).isEmpty && (foundManifest s c).isSome

theorem cycle_failed (host : Host) (s : MonitorState) (c : Cycle) (failed : allRendered host s c = false) :
    cycle host s c = .ok (dropped host s c) := by
  have finished : (c.asCompleted (collectUpdates host s c).updates).all (renders c) = false := by
    rw [(c.completes _).all_eq]
    exact failed
  rw [cycle]
  simp only [finished, drop_removed]
  rfl

theorem cycle_rendered (host : Host) (s : MonitorState) (c : Cycle) (all : allRendered host s c = true) :
    ∃ entry : Update → ManifestEntry,
      (∀ update ∈ updatesOf host s c, Describes host (entry update) update.filename update.digest) ∧
      cycle host s c =
        if quiet host s c then .ok (recorded host s c entry) else publishManifest host c (recorded host s c entry) := by
  have each : ∀ update : Update, ∃ entry, update ∈ updatesOf host s c →
      manifestEntry update.filename update.digest update.identity (c.updatedAt update.filename) = .ok entry ∧
        Describes host entry update.filename update.digest := by
    intro update
    by_cases member : update ∈ updatesOf host s c
    · obtain ⟨entry, made, describes⟩ := manifest_entry_describes host update.filename update.digest update.identity
        (c.updatedAt update.filename) (updates_decoded host s c update member)
      exact ⟨entry, fun _ => ⟨made, describes⟩⟩
    · exact ⟨⟨"", "", 0, "", "", "", "", []⟩, fun inside => absurd inside member⟩
  choose entry made using each
  refine ⟨entry, fun update member => (made update member).2, ?_⟩
  have perm := c.completes (updatesOf host s c)
  have finished : (c.asCompleted (collectUpdates host s c).updates).all (renders c) = true := by
    rw [(c.completes _).all_eq]
    exact all
  have completed : (c.asCompleted (collectUpdates host s c).updates).filter (renders c) =
      c.asCompleted (updatesOf host s c) := List.filter_eq_self.mpr (List.all_eq_true.mp finished)
  have filled := record_streams c (c.asCompleted (updatesOf host s c)) entry (dropped host s c) fun update member =>
    (made update (perm.subset member)).1
  have publishes : (!(c.asCompleted (updatesOf host s c)).isEmpty || !(removedStreams s c).isEmpty ||
      (foundManifest s c).isNone) = !quiet host s c := by
    rw [quiet, perm.isEmpty_eq, Bool.not_and, Bool.not_and, Option.not_isSome]
  rw [cycle]
  simp only [finished, completed, drop_removed, filled, if_true]
  show (if (_ || _ || (foundManifest s c).isNone) = true then publishManifest host c (recorded host s c entry)
    else .ok (recorded host s c entry)) = _
  rw [publishes]
  cases quiet host s c <;> rfl

end SpectralLine.Monitor
