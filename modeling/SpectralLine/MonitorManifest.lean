import SpectralLine.Monitor

set_option autoImplicit false

namespace SpectralLine.Monitor

open Dictionary

-- What the passes so far amount to: the content each stream was last rendered
-- from, and whether something has left the entries since they were published.
structure History where
  rendered : String → Option (List UInt8)
  outstanding : Bool

def startHistory (found : Option Manifest) : History where
  rendered := fun _ => none
  outstanding := found.any fun manifest => !manifest.streams.isEmpty

-- A file that is gone is forgotten, a pass that renders all it selected records
-- it, and a pass with a failed render records nothing. What such a pass removes
-- stays outstanding until a pass publishes.
def historyAfter (host : Host) (s : MonitorState) (c : Cycle) (h : History) : History where
  rendered := fun file =>
    if file ∉ activeFiles c then none
    else if allRendered host s c then
      (((updatesOf host s c).find? fun update => update.filename = file).map Update.digest).or (h.rendered file)
    else h.rendered file
  outstanding :=
    if allRendered host s c then h.outstanding && quiet host s c else h.outstanding || !(removedStreams s c).isEmpty

def historyOf (host : Host) : MonitorState → History → List Cycle → History
  | _, h, [] => h
  | s, h, c :: cycles =>
      match cycle host s c with
      | .ok after => historyOf host after (historyAfter host s c h) cycles
      | .error _ => h

-- The entries of a manifest are those of the rendered streams, in order of name.
structure Lists (host : Host) (streams : List ManifestEntry) (rendered : String → Option (List UInt8)) : Prop where
  sorted : (streams.map ManifestEntry.name).Pairwise (· < ·)
  complete : ∀ file digest, rendered file = some digest → ∃ entry ∈ streams, Describes host entry file digest
  sound : ∀ entry ∈ streams, ∃ file digest, rendered file = some digest ∧ Describes host entry file digest

structure Mirrors (host : Host) (digests : Dict String (List UInt8)) (entries : Dict String ManifestEntry)
    (rendered : String → Option (List UInt8)) : Prop where
  known : ∀ file, digests.lookup file = rendered file
  globbed : ∀ file ∈ digests, Globbed file
  described : ∀ file digest, digests.lookup file = some digest →
    ∃ entry, entries.lookup (stem file) = some entry ∧ Describes host entry file digest
  listed : ∀ name entry, entries.lookup name = some entry → ∃ file ∈ digests, stem file = name

variable (host : Host)

theorem mirrors_entry (digests : Dict String (List UInt8)) (entries : Dict String ManifestEntry)
    (rendered : String → Option (List UInt8)) (mirrors : Mirrors host digests entries rendered) (name : String)
    (entry : ManifestEntry) (found : entries.lookup name = some entry) :
    ∃ file digest, rendered file = some digest ∧ stem file = name ∧ Describes host entry file digest := by
  obtain ⟨file, inside, named⟩ := mirrors.listed name entry found
  obtain ⟨digest, held⟩ := Option.isSome_iff_exists.mp (AList.lookup_isSome.mpr inside)
  obtain ⟨same, stored, describes⟩ := mirrors.described file digest held
  rw [named, found] at stored
  cases stored
  exact ⟨file, digest, by rw [← mirrors.known, held], named, describes⟩

theorem mirrors_lists (digests : Dict String (List UInt8)) (entries : Dict String ManifestEntry)
    (rendered : String → Option (List UInt8)) (mirrors : Mirrors host digests entries rendered) :
    Lists host (valuesByKey entries) rendered := by
  refine ⟨?_, ?_, ?_⟩
  · refine values_by_key_sorted entries ManifestEntry.name fun name entry found => ?_
    obtain ⟨file, digest, _, named, describes⟩ := mirrors_entry host digests entries rendered mirrors name entry found
    rw [describes.name, named]
  · intro file digest known
    obtain ⟨entry, stored, describes⟩ := mirrors.described file digest (by rw [mirrors.known, known])
    exact ⟨entry, (mem_values_by_key entries entry).mpr ⟨stem file, stored⟩, describes⟩
  · intro entry member
    obtain ⟨name, found⟩ := (mem_values_by_key entries entry).mp member
    obtain ⟨file, digest, known, _, describes⟩ := mirrors_entry host digests entries rendered mirrors name entry found
    exact ⟨file, digest, known, describes⟩

theorem mirrors_start : Mirrors host ∅ ∅ fun _ => none := by
  refine ⟨?_, ?_, ?_, ?_⟩
  · intro file
    exact AList.lookup_empty file
  · intro file inside
    exact absurd inside (AList.notMem_empty file)
  · intro file digest held
    rw [AList.lookup_empty] at held
    cases held
  · intro name entry held
    rw [AList.lookup_empty] at held
    cases held

theorem mirrors_drop (s : MonitorState) (c : Cycle) (rendered : String → Option (List UInt8))
    (mirrors : Mirrors host s.digests s.manifestEntries rendered) :
    Mirrors host (dropped host s c).digests (dropped host s c).manifestEntries
      fun file => if file ∉ activeFiles c then none else rendered file := by
  have removed : ∀ file, file ∈ removedStreams s c ↔ file ∈ s.digests ∧ file ∉ activeFiles c := by
    intro file
    simp [removedStreams, AList.mem_keys]
  have left : ∀ file, (dropped host s c).digests.lookup file = if file ∉ activeFiles c then none else rendered file := by
    intro file
    rw [dropped, lookup_pop_all, ← mirrors.known]
    by_cases gone : file ∈ activeFiles c
    · rw [if_neg (fun member => ((removed file).mp member).2 gone), if_neg (not_not.mpr gone)]
    · rw [if_pos gone]
      by_cases inside : file ∈ s.digests
      · rw [if_pos ((removed file).mpr ⟨inside, gone⟩)]
      · rw [AList.lookup_eq_none.mpr inside, ite_self]
  have kept : ∀ file, file ∈ (dropped host s c).digests ↔ file ∈ s.digests ∧ file ∉ removedStreams s c := fun file =>
    mem_pop_all (removedStreams s c) s.digests file
  have stems : ∀ file, file ∈ s.digests → file ∉ removedStreams s c → stem file ∉ (removedStreams s c).map stem := by
    intro file inside stays member
    obtain ⟨path, gone, same⟩ := List.mem_map.mp member
    have paths := stem_injective path file (mirrors.globbed path ((removed path).mp gone).1) (mirrors.globbed file inside) same
    exact stays (paths ▸ gone)
  refine ⟨left, fun file inside => mirrors.globbed file ((kept file).mp inside).1, ?_, ?_⟩
  · intro file digest held
    obtain ⟨inside, stays⟩ := (kept file).mp (AList.lookup_isSome.mp (by rw [held]; rfl))
    rw [dropped, lookup_pop_all, if_neg stays] at held
    rw [dropped, lookup_pop_all, if_neg (stems file inside stays)]
    exact mirrors.described file digest held
  · intro name entry held
    rw [dropped, lookup_pop_all] at held
    split at held
    · cases held
    · rename_i stays
      obtain ⟨file, inside, named⟩ := mirrors.listed name entry held
      refine ⟨file, (kept file).mpr ⟨inside, fun gone => stays ?_⟩, named⟩
      rw [← named]
      exact List.mem_map_of_mem gone

theorem mirrors_record (digests : Dict String (List UInt8)) (entries : Dict String ManifestEntry)
    (rendered after : String → Option (List UInt8)) (mirrors : Mirrors host digests entries rendered) (updates : List Update)
    (entry : Update → ManifestEntry) (distinct : (updates.map Update.filename).Nodup)
    (globbed : ∀ update ∈ updates, Globbed update.filename)
    (describes : ∀ update ∈ updates, Describes host (entry update) update.filename update.digest)
    (new : ∀ update ∈ updates, after update.filename = some update.digest)
    (old : ∀ file, (∀ update ∈ updates, update.filename ≠ file) → after file = rendered file) :
    Mirrors host (setAll Update.filename Update.digest updates digests)
      (setAll (fun update => stem update.filename) entry updates entries) after := by
  have stems : (updates.map fun update => stem update.filename).Nodup := by
    have composed : (updates.map fun update => stem update.filename) = (updates.map Update.filename).map stem := by
      rw [List.map_map]
      rfl
    rw [composed]
    refine (List.nodup_map_iff_inj_on distinct).mpr fun left inLeft right inRight same => ?_
    obtain ⟨first, inFirst, rfl⟩ := List.mem_map.mp inLeft
    obtain ⟨second, inSecond, rfl⟩ := List.mem_map.mp inRight
    exact stem_injective _ _ (globbed first inFirst) (globbed second inSecond) same
  have apart : ∀ file, Globbed file → (∀ update ∈ updates, update.filename ≠ file) →
      ∀ update ∈ updates, stem update.filename ≠ stem file := fun file named other update member same =>
    other update member (stem_injective _ _ (globbed update member) named same)
  have names : ∀ file ∈ setAll Update.filename Update.digest updates digests, Globbed file := by
    intro file inside
    rcases (mem_set_all Update.filename Update.digest updates digests file).mp inside with ⟨update, member, rfl⟩ | before
    · exact globbed update member
    · exact mirrors.globbed file before
  refine ⟨?_, names, ?_, ?_⟩
  · intro file
    by_cases among : ∃ update ∈ updates, update.filename = file
    · obtain ⟨update, member, rfl⟩ := among
      rw [lookup_set_all Update.filename Update.digest updates digests distinct update member, new update member]
    · have other : ∀ update ∈ updates, update.filename ≠ file := fun update member same => among ⟨update, member, same⟩
      rw [lookup_set_all_other Update.filename Update.digest updates digests file other, mirrors.known, old file other]
  · intro file digest held
    by_cases among : ∃ update ∈ updates, update.filename = file
    · obtain ⟨update, member, rfl⟩ := among
      rw [lookup_set_all Update.filename Update.digest updates digests distinct update member] at held
      cases held
      exact ⟨entry update, lookup_set_all _ entry updates entries stems update member, describes update member⟩
    · have other : ∀ update ∈ updates, update.filename ≠ file := fun update member same => among ⟨update, member, same⟩
      have named : Globbed file := names file (AList.lookup_isSome.mp (by rw [held]; rfl))
      rw [lookup_set_all_other Update.filename Update.digest updates digests file other] at held
      rw [lookup_set_all_other _ entry updates entries (stem file) (apart file named other)]
      exact mirrors.described file digest held
  · intro name listed held
    have inside : name ∈ setAll (fun update => stem update.filename) entry updates entries :=
      AList.lookup_isSome.mp (by rw [held]; rfl)
    rcases (mem_set_all _ entry updates entries name).mp inside with ⟨update, member, rfl⟩ | before
    · exact ⟨update.filename, (mem_set_all _ _ updates digests _).mpr (.inl ⟨update, member, rfl⟩), rfl⟩
    · obtain ⟨earlier, stored⟩ := Option.isSome_iff_exists.mp (AList.lookup_isSome.mpr before)
      obtain ⟨file, known, named⟩ := mirrors.listed name earlier stored
      exact ⟨file, (mem_set_all _ _ updates digests file).mpr (.inr known), named⟩

-- The manifest in place lists the entries, or more than them while a removal is
-- outstanding.
structure Tracks (s : MonitorState) (h : History) : Prop where
  mirrors : Mirrors host s.digests s.manifestEntries h.rendered
  published : ∀ manifest, s.manifest = some manifest →
    if h.outstanding then (valuesByKey s.manifestEntries).length < manifest.streams.length
    else manifest.streams = valuesByKey s.manifestEntries

theorem tracks_start (found : Option Manifest) : Tracks host (startMonitor found) (startHistory found) := by
  refine ⟨mirrors_start host, fun manifest here => ?_⟩
  have found : found = some manifest := here
  have none_ : valuesByKey (∅ : Dict String ManifestEntry) = [] := rfl
  rw [startHistory, startMonitor, found, none_, Option.any_some]
  cases streams : manifest.streams with
  | nil => rfl
  | cons entry rest => exact Nat.zero_lt_succ _

theorem history_new (s : MonitorState) (c : Cycle) (h : History) (all : allRendered host s c = true) (update : Update)
    (member : update ∈ updatesOf host s c) : (historyAfter host s c h).rendered update.filename = some update.digest := by
  have active := updates_active host s c update member
  have found : (updatesOf host s c).find? (fun other => other.filename = update.filename) = some update := by
    cases search : (updatesOf host s c).find? fun other => other.filename = update.filename with
    | none => simpa using List.find?_eq_none.mp search update member
    | some other =>
        have same : other.filename = update.filename := by simpa using List.find?_some search
        rw [List.inj_on_of_nodup_map (updates_distinct host s c) (List.mem_of_find?_eq_some search) member same]
  rw [historyAfter]
  simp only [active, all, found, not_true_eq_false, if_false, if_true]
  rfl

theorem history_old (s : MonitorState) (c : Cycle) (h : History) (file : String)
    (other : allRendered host s c = true → ∀ update ∈ updatesOf host s c, update.filename ≠ file) :
    (historyAfter host s c h).rendered file = if file ∉ activeFiles c then none else h.rendered file := by
  rw [historyAfter]
  dsimp only
  by_cases gone : file ∉ activeFiles c
  · rw [if_pos gone, if_pos gone]
  · rw [if_neg gone, if_neg gone]
    split
    · rename_i all
      have search : (updatesOf host s c).find? (fun update => update.filename = file) = none :=
        List.find?_eq_none.mpr fun update member => by simpa using other all update member
      rw [search]
      rfl
    · rfl

theorem mirrors_recorded (s : MonitorState) (c : Cycle) (h : History) (all : allRendered host s c = true)
    (mirrors : Mirrors host s.digests s.manifestEntries h.rendered) (entry : Update → ManifestEntry)
    (describes : ∀ update ∈ updatesOf host s c, Describes host (entry update) update.filename update.digest) :
    Mirrors host (recorded host s c entry).digests (recorded host s c entry).manifestEntries
      (historyAfter host s c h).rendered := by
  have perm := c.completes (updatesOf host s c)
  refine mirrors_record host _ _ _ _ (mirrors_drop host s c h.rendered mirrors) (c.asCompleted (updatesOf host s c)) entry ?_ ?_ ?_
    ?_ ?_
  · exact (perm.map Update.filename).nodup_iff.mpr (updates_distinct host s c)
  · intro update member
    exact active_globbed c update.filename (updates_active host s c update (perm.subset member))
  · intro update member
    exact describes update (perm.subset member)
  · intro update member
    exact history_new host s c h all update (perm.subset member)
  · intro file other
    exact history_old host s c h file fun _ update member => other update (perm.symm.subset member)

theorem found_manifest_kept (s : MonitorState) (c : Cycle) (manifest : Manifest) (found : foundManifest s c = some manifest) :
    s.manifest = some manifest := by
  rw [foundManifest] at found
  split at found
  · exact found
  · cases found

theorem quiet_unchanged (s : MonitorState) (c : Cycle) (entry : Update → ManifestEntry) (still : quiet host s c = true) :
    (recorded host s c entry).manifestEntries = s.manifestEntries ∧ (recorded host s c entry).manifest = s.manifest := by
  rw [quiet, Bool.and_eq_true, Bool.and_eq_true, List.isEmpty_iff, List.isEmpty_iff] at still
  obtain ⟨⟨updates, removed⟩, found⟩ := still
  have finished : c.asCompleted (updatesOf host s c) = [] := by
    have perm := c.completes (updatesOf host s c)
    rw [updates] at perm ⊢
    exact perm.eq_nil
  constructor
  · rw [recorded, dropped, removed, finished]
    rfl
  · show foundManifest s c = s.manifest
    obtain ⟨manifest, here⟩ := Option.isSome_iff_exists.mp found
    rw [here, found_manifest_kept s c manifest here]

theorem quiet_rendered (s : MonitorState) (c : Cycle) (still : quiet host s c = true) : allRendered host s c = true := by
  rw [quiet, Bool.and_eq_true, Bool.and_eq_true, List.isEmpty_iff] at still
  rw [allRendered, still.1.1]
  rfl

theorem publish_manifest_inv (c : Cycle) (s after : MonitorState) (published : publishManifest host c s = .ok after) :
    ∃ manifest, manifest.streams = valuesByKey s.manifestEntries ∧ after = { s with manifest := some manifest } := by
  rw [publishManifest] at published
  cases written : c.replaced with
  | error message =>
      rw [written] at published
      cases published
  | ok done =>
      rw [written] at published
      cases published
      exact ⟨_, rfl, rfl⟩

-- What a pass does: nothing is recorded after a failed render, nothing is
-- published by a quiet pass, and every other pass publishes its entries.
theorem cycle_cases (s after : MonitorState) (c : Cycle) (stepped : cycle host s c = .ok after) :
    (allRendered host s c = false ∧ after = dropped host s c) ∨
      ∃ entry : Update → ManifestEntry, allRendered host s c = true ∧
        (∀ update ∈ updatesOf host s c, Describes host (entry update) update.filename update.digest) ∧
        ((quiet host s c = true ∧ after = recorded host s c entry) ∨
          (quiet host s c = false ∧ ∃ manifest, manifest.streams = valuesByKey (recorded host s c entry).manifestEntries ∧
            after = { recorded host s c entry with manifest := some manifest })) := by
  cases all : allRendered host s c with
  | false =>
      rw [cycle_failed host s c all] at stepped
      cases stepped
      exact .inl ⟨rfl, rfl⟩
  | true =>
      obtain ⟨entry, describes, step⟩ := cycle_rendered host s c all
      refine .inr ⟨entry, rfl, describes, ?_⟩
      rw [step] at stepped
      cases still : quiet host s c with
      | true =>
          rw [still, if_pos rfl] at stepped
          cases stepped
          exact .inl ⟨rfl, rfl⟩
      | false =>
          rw [still, if_neg Bool.false_ne_true] at stepped
          exact .inr ⟨rfl, publish_manifest_inv host c _ after stepped⟩

theorem cycle_tracks (s after : MonitorState) (c : Cycle) (h : History) (tracks : Tracks host s h)
    (stepped : cycle host s c = .ok after) : Tracks host after (historyAfter host s c h) := by
  rcases cycle_cases host s after c stepped with ⟨failed, rfl⟩ | ⟨entry, all, describes, published⟩
  · have same : (historyAfter host s c h).rendered = fun file => if file ∉ activeFiles c then none else h.rendered file :=
      funext fun file => history_old host s c h file fun all => absurd all (by rw [failed]; decide)
    refine ⟨?_, fun manifest here => ?_⟩
    · rw [same]
      exact mirrors_drop host s c h.rendered tracks.mirrors
    · have before := tracks.published manifest (found_manifest_kept s c manifest here)
      have flag : (historyAfter host s c h).outstanding = (h.outstanding || !(removedStreams s c).isEmpty) := by
        rw [historyAfter, failed]
        rfl
      have left : (dropped host s c).manifestEntries = popAll ((removedStreams s c).map stem) s.manifestEntries := rfl
      rw [flag, left]
      cases removed : removedStreams s c with
      | nil => simpa [popAll] using before
      | cons path paths =>
          have member : path ∈ removedStreams s c := by rw [removed]; exact List.mem_cons_self
          have known : path ∈ s.digests := AList.mem_keys.mpr (List.mem_of_mem_filter member)
          obtain ⟨digest, held⟩ := Option.isSome_iff_exists.mp (AList.lookup_isSome.mpr known)
          obtain ⟨listed, stored, _⟩ := tracks.mirrors.described path digest held
          have shorter := pop_all_shorter ((path :: paths).map stem) s.manifestEntries (stem path) List.mem_cons_self
            (AList.lookup_isSome.mp (by rw [stored]; rfl))
          have atMost : (valuesByKey s.manifestEntries).length ≤ manifest.streams.length := by
            split at before
            · exact Nat.le_of_lt before
            · rw [before]
          rw [List.isEmpty_cons, Bool.not_false, Bool.or_true, if_pos rfl]
          exact Nat.lt_of_lt_of_le shorter atMost
  · have mirrors := mirrors_recorded host s c h all tracks.mirrors entry describes
    have flag : (historyAfter host s c h).outstanding = (h.outstanding && quiet host s c) := by
      rw [historyAfter, all]
      rfl
    rcases published with ⟨still, rfl⟩ | ⟨busy, fresh, streams, rfl⟩
    · refine ⟨mirrors, fun manifest here => ?_⟩
      obtain ⟨sameEntries, sameManifest⟩ := quiet_unchanged host s c entry still
      rw [flag, still, Bool.and_true, sameEntries]
      exact tracks.published manifest (by rw [← sameManifest, here])
    · refine ⟨mirrors, fun manifest here => ?_⟩
      cases here
      rw [flag, busy, Bool.and_false, if_neg Bool.false_ne_true, streams]

theorem run_tracks (cycles : List Cycle) (s after : MonitorState) (h : History) (tracks : Tracks host s h)
    (run : runMonitor host s cycles = .ok after) : Tracks host after (historyOf host s h cycles) := by
  induction cycles generalizing s h with
  | nil =>
      cases run
      exact tracks
  | cons c cycles ih =>
      rw [runMonitor, List.foldlM_cons] at run
      rw [historyOf]
      cases stepped : cycle host s c with
      | error message =>
          rw [stepped] at run
          cases run
      | ok next =>
          rw [stepped] at run
          exact ih next _ (cycle_tracks host s next c h tracks stepped) run

theorem dropped_active (s : MonitorState) (c : Cycle) (file : String) (active : file ∈ activeFiles c) :
    (dropped host s c).digests.lookup file = s.digests.lookup file ∧
      (dropped host s c).nextChecks.lookup file = (collectUpdates host s c).nextChecks.lookup file := by
  have stays : file ∉ removedStreams s c := fun member => by simpa [active] using (List.mem_filter.mp member).2
  rw [dropped, lookup_pop_all, lookup_pop_all, if_neg stays, if_neg stays]
  exact ⟨rfl, rfl⟩

theorem cycle_checks (s after : MonitorState) (c : Cycle) (stepped : cycle host s c = .ok after) :
    after.nextChecks = (dropped host s c).nextChecks := by
  rcases cycle_cases host s after c stepped with ⟨_, rfl⟩ | ⟨entry, _, _, ⟨_, rfl⟩ | ⟨_, manifest, _, rfl⟩⟩
  · rfl
  · rfl
  · rfl

theorem cycle_digests_other (s after : MonitorState) (c : Cycle) (stepped : cycle host s c = .ok after) (file : String)
    (other : ∀ update ∈ updatesOf host s c, update.filename ≠ file) :
    after.digests.lookup file = (dropped host s c).digests.lookup file := by
  have unrecorded : ∀ entry, (recorded host s c entry).digests.lookup file = (dropped host s c).digests.lookup file := fun entry =>
    lookup_set_all_other _ _ _ _ file fun update member => other update ((c.completes _).subset member)
  rcases cycle_cases host s after c stepped with ⟨_, rfl⟩ | ⟨entry, _, _, ⟨_, rfl⟩ | ⟨_, manifest, _, rfl⟩⟩
  · rfl
  · exact unrecorded entry
  · exact unrecorded entry

theorem active_checks (s : MonitorState) (c : Cycle) (file : String) (active : file ∈ activeFiles c) :
    (collectUpdates host s c).nextChecks.lookup file =
      if c.started < (s.nextChecks.lookup file).getD 0 then s.nextChecks.lookup file
      else some (c.started + host.renderInterval) :=
  scan_checks host s.digests c.started (streamFiles c) _ (stream_files_distinct c) file active

theorem cycle_waits (s after : MonitorState) (c : Cycle) (stepped : cycle host s c = .ok after) (file : String) (next : Rat)
    (due : s.nextChecks.lookup file = some next) (active : file ∈ activeFiles c) (early : c.started < next) :
    after.nextChecks.lookup file = some next ∧ after.digests.lookup file = s.digests.lookup file := by
  obtain ⟨digest, check⟩ := dropped_active host s c file active
  have waits : c.started < (s.nextChecks.lookup file).getD 0 := by rw [due]; exact early
  constructor
  · rw [cycle_checks host s after c stepped, check, active_checks host s c file active, if_pos waits, due]
  · have other : ∀ update ∈ updatesOf host s c, update.filename ≠ file := by
      rintro update member rfl
      rw [updates_selected, List.mem_filterMap] at member
      obtain ⟨here, _, found⟩ := member
      obtain ⟨ready, same, _⟩ := selected_inv host _ _ _ here update found
      exact ready (same ▸ waits)
    rw [cycle_digests_other host s after c stepped file other, digest]

theorem run_waits (cycles : List Cycle) (s after : MonitorState) (run : runMonitor host s cycles = .ok after) (file : String)
    (next : Rat) (due : s.nextChecks.lookup file = some next)
    (waiting : ∀ c ∈ cycles, file ∈ activeFiles c ∧ c.started < next) :
    after.nextChecks.lookup file = some next ∧ after.digests.lookup file = s.digests.lookup file := by
  induction cycles generalizing s with
  | nil =>
      cases run
      exact ⟨due, rfl⟩
  | cons c cycles ih =>
      rw [runMonitor, List.foldlM_cons] at run
      cases stepped : cycle host s c with
      | error message =>
          rw [stepped] at run
          cases run
      | ok middle =>
          rw [stepped] at run
          obtain ⟨active, early⟩ := waiting c List.mem_cons_self
          obtain ⟨check, digest⟩ := cycle_waits host s middle c stepped file next due active early
          obtain ⟨laterCheck, laterDigest⟩ := ih middle run check fun later member => waiting later (List.mem_cons_of_mem c member)
          exact ⟨laterCheck, laterDigest.trans digest⟩

-- A changed stream that a failed pass selected is selected again by the first
-- pass that is due to check it, whatever the passes in between do.
def Retried (s : MonitorState) (c : Cycle) (after : MonitorState) : Prop :=
  ∀ update ∈ updatesOf host s c, ∀ waiting reached later file identity snapshot digest,
    (∀ w ∈ waiting, update.filename ∈ activeFiles w ∧ w.started < c.started + host.renderInterval) →
    runMonitor host after waiting = .ok reached →
    c.started + host.renderInterval ≤ later.started →
    file ∈ streamFiles later → file.name = update.filename →
    checkStream host file = .ok (identity, snapshot, digest) → s.digests.lookup update.filename ≠ some digest →
    ⟨update.filename, snapshot, digest, identity⟩ ∈ updatesOf host reached later

theorem failed_retried (s after : MonitorState) (c : Cycle) (stepped : cycle host s c = .ok after)
    (failed : allRendered host s c = false) : Retried host s c after := by
  intro update member waiting reached later file identity snapshot digest waits run due present named read changed
  have active := updates_active host s c update member
  have ready : ¬ c.started < (s.nextChecks.lookup update.filename).getD 0 := by
    rw [updates_selected, List.mem_filterMap] at member
    obtain ⟨here, _, found⟩ := member
    obtain ⟨ready, same, _⟩ := selected_inv host _ _ _ here update found
    exact same ▸ ready
  rw [cycle_failed host s c failed] at stepped
  cases stepped
  obtain ⟨kept, check⟩ := dropped_active host s c update.filename active
  rw [active_checks host s c update.filename active, if_neg ready] at check
  obtain ⟨lastCheck, lastDigest⟩ := run_waits host waiting _ reached run update.filename _ check waits
  rw [updates_selected, List.mem_filterMap]
  refine ⟨file, present, ?_⟩
  have notEarly : ¬ later.started < (reached.nextChecks.lookup file.name).getD 0 := by
    rw [named, lastCheck]
    exact not_lt.mpr due
  rw [selected, if_neg notEarly, read]
  dsimp only
  rw [named, lastDigest, kept, if_pos changed]

-- What the manifest promises of a pass and of the state it leaves.
structure Consistent (s : MonitorState) (c : Cycle) (after : MonitorState) (rendered : String → Option (List UInt8)) : Prop where
  listed : Lists host (valuesByKey after.manifestEntries) rendered
  published : allRendered host s c = true →
    ∃ manifest, after.manifest = some manifest ∧ manifest.streams = valuesByKey after.manifestEntries
  unchanged : allRendered host s c = false → after.manifest = foundManifest s c
  survivors : allRendered host s c = false → ∀ file ∈ activeFiles c, after.digests.lookup file = s.digests.lookup file ∧
    after.manifestEntries.lookup (stem file) = s.manifestEntries.lookup (stem file)
  retried : allRendered host s c = false → Retried host s c after

theorem failed_survivors (s after : MonitorState) (c : Cycle) (h : History) (tracks : Tracks host s h)
    (stepped : cycle host s c = .ok after) (failed : allRendered host s c = false) (file : String) (active : file ∈ activeFiles c) :
    after.digests.lookup file = s.digests.lookup file ∧
      after.manifestEntries.lookup (stem file) = s.manifestEntries.lookup (stem file) := by
  rw [cycle_failed host s c failed] at stepped
  cases stepped
  have stays : stem file ∉ (removedStreams s c).map stem := by
    intro member
    obtain ⟨path, gone, same⟩ := List.mem_map.mp member
    obtain ⟨known, absent⟩ := List.mem_filter.mp gone
    have paths := stem_injective path file (tracks.mirrors.globbed path (AList.mem_keys.mpr known)) (active_globbed c file active) same
    subst paths
    simp [active] at absent
  refine ⟨(dropped_active host s c file active).1, ?_⟩
  rw [dropped, lookup_pop_all, if_neg stays]

theorem rendered_published (s after : MonitorState) (c : Cycle) (h : History) (tracks : Tracks host s h)
    (stepped : cycle host s c = .ok after) (all : allRendered host s c = true) :
    (∃ manifest, after.manifest = some manifest ∧ manifest.streams = valuesByKey after.manifestEntries) ↔
      ¬ (quiet host s c = true ∧ h.outstanding = true) := by
  rcases cycle_cases host s after c stepped with ⟨failed, _⟩ | ⟨entry, _, _, ⟨still, rfl⟩ | ⟨busy, manifest, streams, rfl⟩⟩
  · rw [all] at failed
    cases failed
  · obtain ⟨sameEntries, sameManifest⟩ := quiet_unchanged host s c entry still
    have found : (foundManifest s c).isSome = true := by
      rw [quiet, Bool.and_eq_true] at still
      exact still.2
    obtain ⟨manifest, here⟩ := Option.isSome_iff_exists.mp found
    have inPlace := found_manifest_kept s c manifest here
    have before := tracks.published manifest inPlace
    rw [sameEntries, sameManifest, inPlace, still]
    constructor
    · rintro ⟨other, same, streams⟩ ⟨_, flag⟩
      cases same
      rw [flag, if_pos rfl, streams] at before
      exact Nat.lt_irrefl _ before
    · intro clean
      have flag : h.outstanding = false := Bool.eq_false_iff.mpr fun flag => clean ⟨rfl, flag⟩
      rw [flag, if_neg Bool.false_ne_true] at before
      exact ⟨manifest, rfl, before⟩
  · rw [busy]
    exact ⟨fun _ both => Bool.false_ne_true both.1, fun _ => ⟨manifest, rfl, streams⟩⟩

-- A removal is outstanding only behind a pass that lost a known stream while a
-- render failed, or behind a manifest that was there before the monitor.
theorem outstanding_cause (cycles : List Cycle) (s : MonitorState) (h : History) (flag : (historyOf host s h cycles).outstanding = true) :
    h.outstanding = true ∨ ∃ past c rest reached, cycles = past ++ c :: rest ∧ runMonitor host s past = .ok reached ∧
      allRendered host reached c = false ∧ removedStreams reached c ≠ [] := by
  induction cycles generalizing s h with
  | nil => exact .inl flag
  | cons c cycles ih =>
      rw [historyOf] at flag
      cases stepped : cycle host s c with
      | error message =>
          rw [stepped] at flag
          exact .inl flag
      | ok after =>
          rw [stepped] at flag
          rcases ih after _ flag with here | ⟨past, later, rest, reached, split, run, failed, gone⟩
          · rw [historyAfter] at here
            cases all : allRendered host s c with
            | true =>
                rw [all] at here
                exact .inl (Bool.and_eq_true_iff.mp here).1
            | false =>
                rw [all] at here
                rcases Bool.or_eq_true_iff.mp here with before | lost
                · exact .inl before
                · refine .inr ⟨[], c, cycles, s, rfl, rfl, all, fun none_ => ?_⟩
                  rw [none_] at lost
                  cases lost
          · refine .inr ⟨c :: past, later, rest, reached, by rw [split]; rfl, ?_, failed, gone⟩
            rw [runMonitor, List.foldlM_cons, stepped]
            exact run

-- A single pass of --once that ends well leaves a manifest of what it rendered.
theorem render_once_published (found : Option Manifest) (c : Cycle) (after : MonitorState)
    (ended : renderOnce host (startMonitor found) c = .ok after) :
    ∃ manifest, after.manifest = some manifest ∧ manifest.streams = valuesByKey after.manifestEntries := by
  rw [renderOnce] at ended
  cases stepped : cycle host (startMonitor found) c with
  | error message =>
      rw [stepped] at ended
      cases ended
  | ok state =>
      rw [stepped] at ended
      change (if _ then _ else if _ then _ else _) = _ at ended
      split at ended
      · cases ended
      · split at ended
        · cases ended
        · rename_i _ checked
          cases ended
          rw [Bool.or_eq_true, not_or, Bool.not_eq_true', Bool.not_eq_false] at checked
          obtain ⟨all, some_⟩ := checked
          refine (rendered_published host _ after c _ (tracks_start host found) stepped all).mpr fun both => ?_
          rw [quiet, updatesOf, Bool.not_eq_true _ |>.mp some_] at both
          cases both.1

-- From a start beside any manifest, every pass keeps its promises exactly when
-- no quiet pass comes while a removal is outstanding.
theorem manifest_consistent_iff (found : Option Manifest) (cycles : List Cycle) :
    (∀ past c rest s after, cycles = past ++ c :: rest → runMonitor host (startMonitor found) past = .ok s →
        cycle host s c = .ok after →
        Consistent host s c after
          (historyAfter host s c (historyOf host (startMonitor found) (startHistory found) past)).rendered) ↔
      ∀ past c rest s after, cycles = past ++ c :: rest → runMonitor host (startMonitor found) past = .ok s →
        cycle host s c = .ok after →
        ¬ (quiet host s c = true ∧ (historyOf host (startMonitor found) (startHistory found) past).outstanding = true) := by
  constructor
  · intro consistent past c rest s after split run stepped both
    have tracks := run_tracks host past _ s _ (tracks_start host found) run
    have all := quiet_rendered host s c both.1
    have published := (consistent past c rest s after split run stepped).published all
    exact (rendered_published host s after c _ tracks stepped all).mp published both
  · intro clean past c rest s after split run stepped
    have tracks := run_tracks host past _ s _ (tracks_start host found) run
    have next := cycle_tracks host s after c _ tracks stepped
    refine ⟨mirrors_lists host _ _ _ next.mirrors, fun all => ?_, fun failed => ?_, fun failed => ?_, fun failed => ?_⟩
    · exact (rendered_published host s after c _ tracks stepped all).mpr (clean past c rest s after split run stepped)
    · rw [cycle_failed host s c failed] at stepped
      cases stepped
      rfl
    · exact failed_survivors host s after c _ tracks stepped failed
    · exact failed_retried host s after c stepped failed

-- A host whose digest is that of the one frame its files hold.
def oneFrameHost : Host where
  decimal := fun c => if c.isDigit then some (c.toNat - 48) else none
  blake2b := fun _ => [33, 26, 53, 196, 127, 155, 10, 136, 87, 114, 124, 12, 74, 233, 169, 16]
  renderInterval := 2

def frameFile (name : String) : DirEntry where
  name := name
  isFile := true
  stat := .ok expectedSize
  reads := fun _ => .ok (1 :: List.replicate 8223 0)

def oneFileCycle (started : Rat) (name : String) (render : Except String Nat) : Cycle where
  started := started
  directory := ⟨[frameFile name], List.nodup_singleton name⟩
  render := fun _ => render
  asCompleted := id
  completes := fun updates => List.Perm.refl updates
  manifestLeft := true
  updatedAt := fun _ => "2025-01-01T00:00:00+00:00"
  timeNs := 1735689600000000000
  generatedAt := "2025-01-01T00:00:00+00:00"
  replaced := .ok ()

def streamRendered : Cycle := oneFileCycle 0 "server_0_stream_0.bin" (.ok 6)

-- The first stream is gone and the render of the second one fails.
def streamReplaced : Cycle := oneFileCycle 1 "server_0_stream_1.bin" (.error "[Errno 28] No space left on device")

-- The second stream is not due.
def streamWaiting : Cycle := oneFileCycle 2 "server_0_stream_1.bin" (.ok 6)

theorem manifest_left_stale :
    ¬ ∀ past c rest s after, [streamRendered, streamReplaced, streamWaiting] = past ++ c :: rest →
      runMonitor oneFrameHost (startMonitor none) past = .ok s → cycle oneFrameHost s c = .ok after →
      Consistent oneFrameHost s c after (historyAfter oneFrameHost s c
        (historyOf oneFrameHost (startMonitor none) (startHistory none) past)).rendered := by
  intro consistent
  have stale : (match runMonitor oneFrameHost (startMonitor none) [streamRendered, streamReplaced] with
      | .ok s => quiet oneFrameHost s streamWaiting
      | .error _ => false) = true := by decide +kernel
  have flag : (historyOf oneFrameHost (startMonitor none) (startHistory none) [streamRendered, streamReplaced]).outstanding =
      true := by decide +kernel
  cases run : runMonitor oneFrameHost (startMonitor none) [streamRendered, streamReplaced] with
  | error message =>
      rw [run] at stale
      cases stale
  | ok s =>
      rw [run] at stale
      have tracks := run_tracks oneFrameHost _ _ s _ (tracks_start oneFrameHost none) run
      have all := quiet_rendered oneFrameHost s streamWaiting stale
      obtain ⟨entry, _, step⟩ := cycle_rendered oneFrameHost s streamWaiting all
      rw [if_pos stale] at step
      have published := (consistent _ streamWaiting [] s _ rfl run step).published all
      exact (rendered_published oneFrameHost s _ streamWaiting _ tracks step all).mp published ⟨stale, flag⟩

end SpectralLine.Monitor
