import DriveWebdav.Foundation.Calendar
import DriveWebdav.Foundation.Retention
import DriveWebdav.SessionStore.PrivateTwin
import DriveWebdav.SessionStore.SignOut

/-! # Sign-outs leave markers and nothing else

Whatever fails, a sign-out changes no file that is not a marker, what it writes tells no
more of the session than its first six characters, and the markers that stay are the last. -/

namespace DriveWebdav

/-! ## Markers -/

theorem isMarker_markerName (time : Int) : isMarker (markerName time) = true :=
  List.isPrefixOf_iff_prefix.mpr (List.prefix_append ..)

theorem not_isMarker_tmp (call : SignOut) : isMarker call.tmp = false := rfl

theorem not_isMarker_session : isMarker sessionFilename = false := by decide

theorem not_isMarker_ne_markerName {name : JsString} {time : Int}
    (plain : isMarker name = false) : name ≠ markerName time := by
  intro same
  rw [same, isMarker_markerName] at plain
  cases plain

theorem dashed_digit (character : Char) (digit : character.isDigit = true) :
    dashed character = character := by
  apply if_neg
  rintro (rfl | rfl)
  · cases digit
  · cases digit

/-- The dates whose year is written with four digits. -/
def FourDigits (time : Int) : Prop := 0 ≤ Date.year time ∧ Date.year time ≤ 9999

/-- The names of markers come in the order of their dates. -/
theorem markerName_lt {first second : Int} (before : first < second) (short : FourDigits first)
    (otherShort : FourDigits second) :
    (markerName first).codeUnits < (markerName second).codeUnits := by
  have stamps := Date.isoText_lt before dashed_digit short otherShort ".json".toList
    ".json".toList
  rw [markerName, markerName, JsString.codeUnits_append markerPrefix,
    JsString.codeUnits_append markerPrefix]
  exact List.append_left_lt stamps

/-! ## Pruning -/

section

variable {unlinkFails : JsString → Bool} {names : List JsString} {name : JsString}
  {disk twin : PrivateDirectory} {listing : Option (List JsString)} {hidden : Nat → Prop}

theorem entries_unlinkAll : (unlinkAll unlinkFails names disk).entries name =
    if name ∈ names ∧ unlinkFails name = false then none else disk.entries name := by
  induction names generalizing disk with
  | nil => simp [unlinkAll]
  | cons first names induction =>
      rw [unlinkAll, List.foldl_cons, ← unlinkAll, induction]
      by_cases fails : unlinkFails first = true
      · rw [if_pos fails]
        by_cases same : name = first
        · rw [same]
          simp [fails]
        · simp [same]
      · rw [if_neg fails, Disk.entries_remove]
        by_cases same : name = first
        · rw [same]
          simp [fails]
        · simp [same]

theorem bytes_unlinkAll : (unlinkAll unlinkFails names disk).bytes = disk.bytes := by
  induction names generalizing disk with
  | nil => rfl
  | cons first names induction =>
      rw [unlinkAll, List.foldl_cons, ← unlinkAll, induction]
      split
      · rfl
      · rfl

theorem alike_unlinkAll (alike : Disk.Alike hidden disk twin) :
    Disk.Alike hidden (unlinkAll unlinkFails names disk) (unlinkAll unlinkFails names twin) := by
  induction names generalizing disk twin with
  | nil => exact alike
  | cons first names induction =>
      rw [unlinkAll, unlinkAll, List.foldl_cons, List.foldl_cons, ← unlinkAll, ← unlinkAll]
      apply induction
      split
      · exact alike
      · exact alike.remove

theorem entries_pruneMarkers (plain : isMarker name = false) :
    (pruneMarkers listing unlinkFails disk).entries name = disk.entries name := by
  cases listing with
  | none => rfl
  | some listed =>
      rw [pruneMarkers, entries_unlinkAll, if_neg]
      rintro ⟨member, _⟩
      have sorted := (JsString.perm_sort _).mem_iff.mp (List.mem_of_mem_take member)
      rw [(List.mem_filter.mp sorted).2] at plain
      cases plain

theorem bytes_pruneMarkers : (pruneMarkers listing unlinkFails disk).bytes = disk.bytes := by
  cases listing with
  | none => rfl
  | some listed => exact bytes_unlinkAll

theorem alike_pruneMarkers (alike : Disk.Alike hidden disk twin) :
    Disk.Alike hidden (pruneMarkers listing unlinkFails disk)
      (pruneMarkers listing unlinkFails twin) := by
  cases listing with
  | none => exact alike
  | some listed => exact alike_unlinkAll alike

end

namespace StateDirectory

variable {Snapshot : Type} {parseStoredSnapshot : Bytes → Option Snapshot}
  {uid : Snapshot → JsString} {filePath : JsString} {call : SignOut} {calls : List SignOut}
  {directory twin after start final : StateDirectory} {world : PrivateWorld} {name : JsString}

/-! ## One call -/

theorem afterWrite_eq_some {disk : PrivateDirectory} (ended : afterWrite call world = some disk) :
    world.phase ≠ .stopped ∧ disk.bytes = world.disk.bytes ∧
      ∀ name, isMarker name = false → disk.entries name = world.disk.entries name := by
  unfold afterWrite at ended
  split at ended
  · next phase =>
      cases ended
      exact ⟨by simp [phase], bytes_pruneMarkers, fun name plain => entries_pruneMarkers plain⟩
  · next phase =>
      cases ended
      exact ⟨by simp [phase], rfl, fun _ _ => rfl⟩
  · next phase =>
      simp only [Option.ite_none_right_eq_some] at ended
      cases ended.2
      exact ⟨by simp [phase], rfl, fun _ _ => rfl⟩
  · cases ended

/-- What a call did. -/
theorem remove_eq_some
    (removed : directory.remove parseStoredSnapshot uid filePath call = some after) :
    ∃ world, directory.writeMarker parseStoredSnapshot uid filePath call = some world ∧
      afterWrite call world = some after.disk ∧
      after.attributes = Function.update
        (directory.load parseStoredSnapshot filePath call.faults).2.attributes
        directory.disk.next ⟨true, 0o600⟩ := by
  rcases Option.bind_eq_some_iff.mp removed with ⟨world, wrote, ended⟩
  rcases Option.map_eq_some_iff.mp ended with ⟨disk, pruned, same⟩
  cases same
  exact ⟨world, wrote, pruned, rfl⟩

theorem entries_remove
    (removed : directory.remove parseStoredSnapshot uid filePath call = some after)
    (plain : isMarker name = false) (notTmp : name ≠ call.tmp) :
    after.disk.entries name = directory.disk.entries name := by
  rcases remove_eq_some removed with ⟨world, wrote, ended, _⟩
  rcases afterWrite_eq_some ended with ⟨going, _, entries⟩
  rw [entries name plain]
  exact PrivateWorld.entries_of_play wrote going (not_isMarker_ne_markerName plain) notTmp

theorem bytes_remove
    (removed : directory.remove parseStoredSnapshot uid filePath call = some after) {inode : Nat}
    (old : inode < directory.disk.next) :
    after.disk.bytes inode = directory.disk.bytes inode := by
  rcases remove_eq_some removed with ⟨world, wrote, ended, _⟩
  rcases afterWrite_eq_some ended with ⟨going, bytes, _⟩
  rw [bytes]
  exact PrivateWorld.bytes_of_play wrote going old

theorem read_remove
    (removed : directory.remove parseStoredSnapshot uid filePath call = some after)
    (plain : isMarker name = false) (notTmp : name ≠ call.tmp) :
    after.disk.read name = directory.disk.read name := by
  rw [Disk.read, Disk.read, entries_remove removed plain notTmp]
  cases named : directory.disk.entries name with
  | none => rfl
  | some inode =>
      exact congrArg some (bytes_remove removed (directory.disk.entries_below name inode named))

/-- No file is touched that is not a marker. -/
theorem read_of_play
    (ran : (signOuts parseStoredSnapshot uid filePath).play start calls = some final)
    (plain : isMarker name = false) (notTmp : ∀ call ∈ calls, name ≠ call.tmp) :
    final.disk.read name = start.disk.read name := by
  induction calls generalizing start with
  | nil =>
      cases ran
      rfl
  | cons call rest induction =>
      rcases Option.bind_eq_some_iff.mp ran with ⟨next, removed, later⟩
      have after := induction later fun other member =>
        notTmp other (List.mem_cons_of_mem call member)
      exact after.trans (read_remove removed plain (notTmp call List.mem_cons_self))

/-! ## The markers that stay -/

/-- The marker was written, `readdir` gave the names of the directory, and no `unlink`
failed. -/
structure Succeeded (call : SignOut) (world : PrivateWorld) (names : List JsString) : Prop where
  phase : world.phase = .resolved
  listing : call.listing = some names
  once : names.Nodup
  listed : ∀ name, name ∈ names ↔ world.disk.entries name ≠ none
  unlinked : ∀ name, call.unlinkFails name = false

/-- A marker that was there, or was written, and is no more. -/
structure Dropped (call : SignOut) (directory after : StateDirectory) (name : JsString) :
    Prop where
  marker : isMarker name = true
  before : name = markerName call.stampedAt ∨ directory.disk.entries name ≠ none
  gone : after.disk.entries name = none

/-- `kept` are the markers that stay: the five with the greatest names, and among those that
are named after a date with a year of four digits the latest. -/
structure KeepsNewest (call : SignOut) (directory after : StateDirectory)
    (kept : List JsString) : Prop where
  once : kept.Nodup
  few : kept.length ≤ 5
  mem : ∀ name, name ∈ kept ↔ isMarker name = true ∧ after.disk.entries name ≠ none
  before : ∀ name ∈ kept,
    name = markerName call.stampedAt ∨ directory.disk.entries name ≠ none
  full : ∀ name, Dropped call directory after name → kept.length = 5
  greatest : ∀ name, Dropped call directory after name →
    ∀ other ∈ kept, name.codeUnits ≤ other.codeUnits
  latest : ∀ time later, Dropped call directory after (markerName time) →
    markerName later ∈ kept → FourDigits time → FourDigits later → time < later

theorem mem_markers {names : List JsString} :
    name ∈ JsString.sort (names.filter isMarker) ↔ name ∈ names ∧ isMarker name = true := by
  rw [(JsString.perm_sort _).mem_iff, List.mem_filter]

/-- After the write the marker is there, and what was there before. -/
theorem entries_of_writeMarker
    (wrote : directory.writeMarker parseStoredSnapshot uid filePath call = some world)
    (resolved : world.phase = .resolved)
    (fresh : name = call.tmp → directory.disk.entries name = none) :
    world.disk.entries name ≠ none ↔
      name = markerName call.stampedAt ∨ directory.disk.entries name ≠ none := by
  have going : world.phase ≠ .stopped := by simp [resolved]
  rcases PrivateWorld.resolved_of_play wrote resolved with ⟨target, gone⟩
  by_cases own : name = markerName call.stampedAt
  · have present : world.disk.entries (markerName call.stampedAt) ≠ none := by
      intro absent
      have unread : world.disk.read (markerName call.stampedAt) = none := by
        rw [Disk.read, absent]
        rfl
      cases unread.symm.trans target
    rw [own]
    exact iff_of_true present (.inl rfl)
  · by_cases temp : name = call.tmp
    · have removed : world.disk.entries name = none := by
        rw [temp]
        exact gone
      rw [removed, fresh temp]
      simp [own]
    · rw [PrivateWorld.entries_of_play wrote going own temp]
      exact (or_iff_right own).symm

theorem isMarker_ne_tmp (marker : isMarker name = true) : name ≠ call.tmp := by
  intro same
  rw [same, not_isMarker_tmp] at marker
  cases marker

/-- The markers but the last five are gone. -/
theorem entries_of_succeeded
    (removed : directory.remove parseStoredSnapshot uid filePath call = some after)
    (wrote : directory.writeMarker parseStoredSnapshot uid filePath call = some world)
    {names : List JsString} (succeeded : Succeeded call world names) (name : JsString) :
    after.disk.entries name =
      if name ∈ Retention.expired 5 (JsString.sort (names.filter isMarker)) then none
      else world.disk.entries name := by
  rcases remove_eq_some removed with ⟨other, again, ended, _⟩
  cases again.symm.trans wrote
  simp only [afterWrite, succeeded.phase, succeeded.listing, Option.some.injEq] at ended
  rw [← ended, pruneMarkers, entries_unlinkAll]
  simp only [succeeded.unlinked name, and_true]
  rfl

theorem keepsNewest_of_succeeded
    (removed : directory.remove parseStoredSnapshot uid filePath call = some after)
    (wrote : directory.writeMarker parseStoredSnapshot uid filePath call = some world)
    {names : List JsString} (succeeded : Succeeded call world names) :
    KeepsNewest call directory after
      (Retention.retained 5 (JsString.sort (names.filter isMarker))) := by
  have entries := entries_of_succeeded removed wrote succeeded
  have once : (JsString.sort (names.filter isMarker)).Nodup :=
    (JsString.perm_sort _).nodup_iff.mpr (succeeded.once.filter _)
  have stays : ∀ name, name ∈ Retention.retained 5 (JsString.sort (names.filter isMarker)) ↔
      isMarker name = true ∧ after.disk.entries name ≠ none := by
    intro name
    rw [Retention.mem_retained once, mem_markers, succeeded.listed, entries]
    split
    · next expired => simp [expired]
    · next kept =>
        simp only [kept, not_false_iff, and_true]
        exact and_comm
  have expired : ∀ name, Dropped call directory after name →
      name ∈ Retention.expired 5 (JsString.sort (names.filter isMarker)) := by
    intro name dropped
    have gone := dropped.gone
    rw [entries] at gone
    split at gone
    · next expired => exact expired
    · exact absurd gone
        ((entries_of_writeMarker wrote succeeded.phase
          fun temp => absurd temp (isMarker_ne_tmp dropped.marker)).mpr dropped.before)
  have sorted := JsString.pairwise_sort (names.filter isMarker)
  have greatest : ∀ name, Dropped call directory after name →
      ∀ other ∈ Retention.retained 5 (JsString.sort (names.filter isMarker)),
        name.codeUnits ≤ other.codeUnits := by
    intro name dropped other kept
    have rel := Retention.rel_of_expired sorted (expired name dropped) kept
    exact rel
  constructor
  · exact once.sublist (List.drop_sublist ..)
  · exact Retention.length_retained_le
  · exact stays
  · intro name member
    have listed := mem_markers.mp ((Retention.mem_retained once).mp member).1
    exact (entries_of_writeMarker wrote succeeded.phase
      fun temp => absurd temp (isMarker_ne_tmp listed.2)).mp ((succeeded.listed name).mp listed.1)
  · exact fun name dropped => Retention.length_retained (expired name dropped)
  · exact greatest
  · intro time later dropped member short otherShort
    rcases lt_trichotomy time later with less | same | more
    · exact less
    · rw [← same] at member
      exact absurd dropped.gone ((stays _).mp member).2
    · exact absurd (greatest _ dropped _ member)
        (not_le_of_gt (markerName_lt more otherShort short))

/-! ## What a marker tells of the session -/

/-- Both files are too large or neither is, and they are parsed to sessions whose uids
begin alike, or neither is parsed. -/
structure SameHint (parseStoredSnapshot : Bytes → Option Snapshot) (uid : Snapshot → JsString)
    (stored other : Bytes) : Prop where
  size : 1024 * 1024 < stored.length ↔ 1024 * 1024 < other.length
  beginning : (parseStoredSnapshot other).map (fun snapshot => (uid snapshot).codeUnits.take 6) =
    (parseStoredSnapshot stored).map fun snapshot => (uid snapshot).codeUnits.take 6

/-- The directories differ at most in the bytes of the session. -/
structure SameButSession (parseStoredSnapshot : Bytes → Option Snapshot)
    (uid : Snapshot → JsString) (directory twin : StateDirectory) : Prop where
  disk : Disk.Alike (fun inode => directory.disk.entries sessionFilename = some inode)
    directory.disk twin.disk
  attributes : twin.attributes = directory.attributes
  session : ∀ inode, directory.disk.entries sessionFilename = some inode →
    SameHint parseStoredSnapshot uid (directory.disk.bytes inode) (twin.disk.bytes inode)

theorem uidHint_readStored {faults : LoadFaults} {inode : Nat}
    (same : SameHint parseStoredSnapshot uid (directory.disk.bytes inode)
      (twin.disk.bytes inode)) :
    uidHint uid (twin.readStored parseStoredSnapshot faults inode) =
      uidHint uid (directory.readStored parseStoredSnapshot faults inode) := by
  simp only [readStored, same.size]
  split
  · rfl
  · cases faults.readFile with
    | some code => rfl
    | none =>
        have beginning := same.beginning
        dsimp only
        cases parsed : parseStoredSnapshot (directory.disk.bytes inode) <;>
          cases other : parseStoredSnapshot (twin.disk.bytes inode) <;>
            simp_all [uidHint]

/-- A load gives the same hint, and leaves the same attributes. -/
theorem SameButSession.load (same : SameButSession parseStoredSnapshot uid directory twin)
    (faults : LoadFaults) :
    uidHint uid (twin.load parseStoredSnapshot filePath faults).1 =
        uidHint uid (directory.load parseStoredSnapshot filePath faults).1 ∧
      (twin.load parseStoredSnapshot filePath faults).2.attributes =
        (directory.load parseStoredSnapshot filePath faults).2.attributes := by
  have found : twin.lstat faults = directory.lstat faults := by
    rw [lstat, lstat, same.disk.entries]
  rw [StateDirectory.load, StateDirectory.load, found]
  cases located : directory.lstat faults with
  | error code => exact ⟨rfl, same.attributes⟩
  | ok inode =>
      have stored : directory.disk.entries sessionFilename = some inode := by
        unfold lstat at located
        split at located
        · cases located
        · cases located
        · next named =>
            cases located
            exact named
      have hint := @uidHint_readStored _ _ _ _ _ faults _ (same.session inode stored)
      simp only [same.attributes]
      split
      · exact ⟨rfl, same.attributes⟩
      · split
        · cases faults.chmod with
          | some code => exact ⟨rfl, same.attributes⟩
          | none => exact ⟨hint, by simp only [chmod, same.attributes]⟩
        · exact ⟨hint, same.attributes⟩

theorem alike_afterWrite {hidden : Nat → Prop} {other : PrivateWorld} {disk : PrivateDirectory}
    (twins : PrivateWorld.Twin hidden world other) (ended : afterWrite call world = some disk) :
    ∃ otherDisk, afterWrite call other = some otherDisk ∧ Disk.Alike hidden disk otherDisk := by
  have phase := twins.phase
  simp only [afterWrite] at ended ⊢
  rw [phase]
  split at ended
  · cases ended
    exact ⟨_, rfl, alike_pruneMarkers twins.disk⟩
  · cases ended
    exact ⟨_, rfl, twins.disk⟩
  · simp only [Option.ite_none_right_eq_some] at ended
    cases ended.2
    simp only [if_pos ended.1]
    exact ⟨_, rfl, twins.disk⟩
  · cases ended

theorem session_ne_tmp (call : SignOut) : sessionFilename ≠ call.tmp := nofun

theorem SameButSession.remove (same : SameButSession parseStoredSnapshot uid directory twin)
    (removed : directory.remove parseStoredSnapshot uid filePath call = some after) :
    ∃ other, twin.remove parseStoredSnapshot uid filePath call = some other ∧
      SameButSession parseStoredSnapshot uid after other := by
  rcases remove_eq_some removed with ⟨world, wrote, ended, attributes⟩
  rcases @SameButSession.load _ _ _ filePath _ _ same call.faults with ⟨hint, loaded⟩
  have job : twin.jobOf parseStoredSnapshot uid filePath call =
      directory.jobOf parseStoredSnapshot uid filePath call := by
    rw [jobOf, jobOf, hint]
  have starts : PrivateWorld.Twin (fun inode => directory.disk.entries sessionFilename = some inode)
      (.start directory.disk) (.start twin.disk) := ⟨same.disk, rfl, rfl⟩
  rcases starts.play wrote (afterWrite_eq_some ended).1 with ⟨otherWorld, also, twins⟩
  rcases alike_afterWrite twins ended with ⟨otherDisk, otherEnded, alike⟩
  have otherRemoved : twin.remove parseStoredSnapshot uid filePath call =
      some ⟨otherDisk, after.attributes⟩ := by
    rw [StateDirectory.remove, writeMarker, job, also, Option.bind_some, otherEnded, loaded,
      same.disk.next, attributes]
    rfl
  refine ⟨_, otherRemoved, ?_, rfl, ?_⟩
  · rw [entries_remove removed not_isMarker_session (session_ne_tmp call)]
    exact alike
  · intro inode stored
    rw [entries_remove removed not_isMarker_session (session_ne_tmp call)] at stored
    have below := directory.disk.entries_below sessionFilename inode stored
    have otherBelow : inode < twin.disk.next := same.disk.next ▸ below
    rw [bytes_remove removed below, bytes_remove otherRemoved otherBelow]
    exact same.session inode stored

/-- Two runs from directories that differ in the session end in directories that do. -/
theorem SameButSession.play (same : SameButSession parseStoredSnapshot uid start twin)
    (ran : (signOuts parseStoredSnapshot uid filePath).play start calls = some final) :
    ∃ other, (signOuts parseStoredSnapshot uid filePath).play twin calls = some other ∧
      SameButSession parseStoredSnapshot uid final other := by
  induction calls generalizing start twin with
  | nil =>
      cases ran
      exact ⟨twin, rfl, same⟩
  | cons call rest induction =>
      rcases Option.bind_eq_some_iff.mp ran with ⟨next, removed, later⟩
      rcases same.remove removed with ⟨other, also, alike⟩
      rcases induction alike later with ⟨last, rest, ended⟩
      exact ⟨last, Option.bind_eq_some_iff.mpr ⟨other, also, rest⟩, ended⟩

/-! ## The whole promise -/

/-- What is promised of the calls so far, and of the next one. -/
structure Discreet (parseStoredSnapshot : Bytes → Option Snapshot) (uid : Snapshot → JsString)
    (filePath : JsString) (start : StateDirectory) (calls : List SignOut)
    (final : StateDirectory) : Prop where
  spared : ∀ name, isMarker name = false → (∀ call ∈ calls, name ≠ call.tmp) →
    final.disk.read name = start.disk.read name
  newest : ∀ call after world names,
    final.remove parseStoredSnapshot uid filePath call = some after →
    final.writeMarker parseStoredSnapshot uid filePath call = some world →
    Succeeded call world names → ∃ kept, KeepsNewest call final after kept
  secret : ∀ twin, SameButSession parseStoredSnapshot uid start twin →
    ∃ other, (signOuts parseStoredSnapshot uid filePath).play twin calls = some other ∧
      SameButSession parseStoredSnapshot uid final other

theorem discreet_of_play
    (ran : (signOuts parseStoredSnapshot uid filePath).play start calls = some final) :
    Discreet parseStoredSnapshot uid filePath start calls final where
  spared _ plain notTmp := read_of_play ran plain notTmp
  newest _ _ _ _ removed wrote succeeded :=
    ⟨_, keepsNewest_of_succeeded removed wrote succeeded⟩
  secret _ same := same.play ran

/-! ## Calls that go well -/

/-- The marker has what was written, unless pruning takes it at once. -/
theorem read_marker
    (removed : directory.remove parseStoredSnapshot uid filePath call = some after)
    (wrote : directory.writeMarker parseStoredSnapshot uid filePath call = some world)
    {names : List JsString} (succeeded : Succeeded call world names)
    (kept : markerName call.stampedAt ∉
      Retention.expired 5 (JsString.sort (names.filter isMarker))) :
    after.disk.read (markerName call.stampedAt) =
      some (directory.jobOf parseStoredSnapshot uid filePath call).bytes := by
  rcases remove_eq_some removed with ⟨other, again, ended, _⟩
  cases again.symm.trans wrote
  rw [Disk.read, entries_of_succeeded removed wrote succeeded, if_neg kept,
    (afterWrite_eq_some ended).2.1]
  exact (PrivateWorld.resolved_of_play wrote succeeded.phase).1

theorem length_markerText_pos (time : Int) (hint : List Nat) :
    0 < (utf8Bytes (markerText time hint)).length := by
  have opens : ∃ rest, markerText time hint = '\x7b' :: rest := ⟨_, rfl⟩
  rcases opens with ⟨rest, same⟩
  rw [same]
  exact Nat.succ_pos _

/-- No operation fails. -/
def plainCall (time : Int) (hint : List Nat) (listing : List JsString) : SignOut where
  stampedAt := time
  recordedAt := time
  faults := ⟨none, none, none⟩
  pid := 7
  uuid := "00000000-0000-4000-8000-000000000000"
  writing := PrivateWorld.wholeWrite (utf8Bytes (markerText time hint)).length
  leavesTemp := false
  listing := some listing
  unlinkFails _ := false

theorem exists_plain {time : Int} {hint : List Nat} {names : List JsString}
    (hinted : uidHint uid (directory.load parseStoredSnapshot filePath ⟨none, none, none⟩).1 = hint)
    (fresh : directory.disk.entries (plainCall time hint names).tmp = none) (once : names.Nodup)
    (listed : ∀ name, name ∈ names ↔
      name = markerName time ∨ directory.disk.entries name ≠ none) :
    ∃ after world,
      directory.remove parseStoredSnapshot uid filePath (plainCall time hint names) = some after ∧
      directory.writeMarker parseStoredSnapshot uid filePath (plainCall time hint names) =
        some world ∧
      Succeeded (plainCall time hint names) world names ∧
      (directory.jobOf parseStoredSnapshot uid filePath (plainCall time hint names)).bytes =
        utf8Bytes (markerText time hint) := by
  have bytes : (directory.jobOf parseStoredSnapshot uid filePath (plainCall time hint names)).bytes =
      utf8Bytes (markerText time hint) := by
    rw [← hinted]
    rfl
  have filled : 0 <
      (directory.jobOf parseStoredSnapshot uid filePath (plainCall time hint names)).bytes.length := by
    rw [bytes]
    exact length_markerText_pos time hint
  rcases PrivateWorld.exists_wholeWrite fresh filled with ⟨world, ran, resolved⟩
  have wrote : directory.writeMarker parseStoredSnapshot uid filePath (plainCall time hint names) =
      some world := by
    rw [bytes] at ran
    exact ran
  have succeeded : Succeeded (plainCall time hint names) world names := by
    refine ⟨resolved, rfl, once, ?_, fun _ => rfl⟩
    intro name
    rw [listed]
    exact (entries_of_writeMarker wrote resolved fun temp => temp ▸ fresh).symm
  have ended : afterWrite (plainCall time hint names) world =
      some (pruneMarkers (some names) (fun _ => false) world.disk) := by
    rw [afterWrite, resolved]
    rfl
  have ends : ∃ after,
      directory.remove parseStoredSnapshot uid filePath (plainCall time hint names) = some after := by
    rw [StateDirectory.remove, wrote, Option.bind_some, ended]
    exact ⟨_, rfl⟩
  rcases ends with ⟨after, removed⟩
  exact ⟨after, world, removed, wrote, succeeded, bytes⟩

/-! ## A session and its padding -/

/-- A directory of regular files, all of mode 0600. -/
def holding (files : List JsString) (bytes : Nat → Bytes) : StateDirectory where
  disk := .settled (fun name => if files.contains name then some (files.idxOf name) else none)
    bytes files.length (by
      intro name inode named
      simp only [Option.ite_none_right_eq_some] at named
      cases named.2
      exact List.idxOf_lt_length_of_mem (List.contains_iff_mem.mp named.1))
  attributes _ := ⟨true, 0o600⟩

theorem entries_holding {files : List JsString} {bytes : Nat → Bytes} :
    (holding files bytes).disk.entries name =
      if name ∈ files then some (files.idxOf name) else none := by
  simp only [← List.contains_iff_mem]
  rfl

theorem entries_holding_ne_none {files : List JsString} {bytes : Nat → Bytes} :
    (holding files bytes).disk.entries name ≠ none ↔ name ∈ files := by
  rw [entries_holding]
  simp

def storedSession : Bytes := utf8Bytes "\x7b\"session\":\x7b\"uid\":\"abcdefghijkl\"\x7d\x7d"

/-- The session, whatever blanks follow it. -/
def parseBlank (bytes : Bytes) : Option Unit :=
  if storedSession.isPrefixOf bytes && (bytes.drop storedSession.length).all (· == 0x20) then
    some ()
  else none

def blankUid (_ : Unit) : JsString := "abcdefghijkl"

def sessionPath : JsString := "/state/auth-session.json"

def blanked (blanks : Nat) : StateDirectory :=
  holding [sessionFilename] fun _ => storedSession ++ List.replicate blanks 0x20

def blankedNames (time : Int) : List JsString := [sessionFilename, markerName time]

theorem parseBlank_blanked (blanks : Nat) :
    parseBlank (storedSession ++ List.replicate blanks 0x20) = some () := by
  rw [parseBlank, if_pos]
  rw [Bool.and_eq_true, List.isPrefixOf_iff_prefix, List.drop_left, List.all_eq_true]
  refine ⟨List.prefix_append .., ?_⟩
  intro blank member
  rw [List.eq_of_mem_replicate member]
  rfl

theorem bytes_blanked (blanks : Nat) :
    (blanked blanks).disk.bytes 0 = storedSession ++ List.replicate blanks 0x20 :=
  rfl

theorem load_blanked (blanks : Nat) :
    ((blanked blanks).load parseBlank sessionPath ⟨none, none, none⟩).1 =
      (blanked blanks).readStored parseBlank ⟨none, none, none⟩ 0 := by
  have stored : (blanked blanks).disk.entries sessionFilename = some 0 := by
    rw [blanked, entries_holding, if_pos (List.mem_singleton.mpr rfl), List.idxOf_cons_self]
  have attributes : (blanked blanks).attributes 0 = ⟨true, 0o600⟩ := rfl
  simp only [load, lstat, stored, attributes]
  simp

theorem exists_blanked {blanks : Nat} {hint : List Nat} (time : Int)
    (hinted : uidHint blankUid
      ((blanked blanks).load parseBlank sessionPath ⟨none, none, none⟩).1 = hint) :
    ∃ after world,
      (blanked blanks).remove parseBlank blankUid sessionPath
        (plainCall time hint (blankedNames time)) = some after ∧
      Succeeded (plainCall time hint (blankedNames time)) world (blankedNames time) ∧
      after.disk.read (markerName time) = some (utf8Bytes (markerText time hint)) := by
  have different : sessionFilename ≠ markerName time :=
    not_isMarker_ne_markerName not_isMarker_session
  have fresh : (blanked blanks).disk.entries (plainCall time hint (blankedNames time)).tmp = none := by
    rw [blanked, entries_holding, if_neg]
    intro member
    exact session_ne_tmp _ (List.mem_singleton.mp member).symm
  have once : (blankedNames time).Nodup := by simp [blankedNames, different]
  have listed : ∀ name, name ∈ blankedNames time ↔
      name = markerName time ∨ (blanked blanks).disk.entries name ≠ none := by
    intro name
    rw [blanked, entries_holding_ne_none]
    simp [blankedNames, or_comm]
  rcases exists_plain hinted fresh once listed with ⟨after, world, removed, wrote, succeeded, bytes⟩
  refine ⟨after, world, removed, succeeded, ?_⟩
  rw [← bytes]
  apply read_marker removed wrote succeeded
  have few : (JsString.sort ((blankedNames time).filter isMarker)).length ≤ 5 := by
    rw [(JsString.perm_sort _).length_eq]
    have shorter : ((blankedNames time).filter isMarker).length ≤ 2 := List.length_filter_le ..
    omega
  rw [Retention.expired_eq_nil few]
  exact List.not_mem_nil

/-- The session is stored in a file of its own. -/
structure Stored (directory : StateDirectory) : Prop where
  entry : directory.disk.entries sessionFilename = some 0
  attributes : directory.attributes 0 = ⟨true, 0o600⟩
  bytes : directory.disk.bytes 0 = storedSession

theorem Stored.hint (stored : Stored directory) : uidHint blankUid
    (directory.load parseBlank sessionPath ⟨none, none, none⟩).1 =
      JsString.codeUnits "abcdef..." := by
  have small : ¬1024 * 1024 < storedSession.length := by decide
  have parsed : parseBlank storedSession = some () := by decide
  simp only [load, lstat, stored.entry, stored.attributes, readStored, stored.bytes]
  rw [if_neg small, parsed]
  rfl

theorem stored_blanked : Stored (blanked 0) := ⟨rfl, rfl, rfl⟩

theorem hint_overlong : uidHint blankUid
    ((blanked (1024 * 1024)).load parseBlank sessionPath ⟨none, none, none⟩).1 =
      JsString.codeUnits "unknown" := by
  have large : 1024 * 1024 <
      (storedSession ++ List.replicate (1024 * 1024) (0x20 : UInt8)).length := by
    rw [List.length_append, List.length_replicate]
    exact Nat.lt_add_of_pos_left (by decide)
  rw [load_blanked, readStored, bytes_blanked, if_pos large]
  rfl

/-! ## One sign-out after another -/

theorem Stored.remove {time : Int} {hint : List Nat} {names : List JsString}
    (stored : Stored directory)
    (removed : directory.remove parseBlank blankUid sessionPath (plainCall time hint names) =
      some after) : Stored after := by
  have old := directory.disk.entries_below sessionFilename 0 stored.entry
  rcases remove_eq_some removed with ⟨world, _, _, attributes⟩
  refine ⟨?_, ?_, ?_⟩
  · rw [entries_remove removed not_isMarker_session (session_ne_tmp _), stored.entry]
  · rw [attributes, Function.update_of_ne (Nat.ne_of_lt old)]
    have faults : (plainCall time hint names).faults = ⟨none, none, none⟩ := rfl
    simp only [faults, load, lstat, stored.entry, stored.attributes]
    exact stored.attributes
  · rw [bytes_remove removed old, stored.bytes]

/-- The names in the directory after a sign-out at `time`. -/
def namesAfter (time : Int) (names : List JsString) : List JsString :=
  (markerName time :: names).filter fun name =>
    !(Retention.expired 5 (JsString.sort ((markerName time :: names).filter isMarker))).contains name

/-- A sign-out in a directory of such names. -/
def signOutAt (time : Int) (names : List JsString) : SignOut :=
  plainCall time (JsString.codeUnits "abcdef...") (markerName time :: names)

theorem exists_signOutAt (time : Int) {names : List JsString} (stored : Stored directory)
    (listed : ∀ name, name ∈ names ↔ directory.disk.entries name ≠ none)
    (once : (markerName time :: names).Nodup) (fresh : (signOutAt time names).tmp ∉ names) :
    ∃ after, directory.remove parseBlank blankUid sessionPath (signOutAt time names) = some after ∧
      Stored after ∧
      ∀ name, name ∈ namesAfter time names ↔ after.disk.entries name ≠ none := by
  have free : directory.disk.entries (signOutAt time names).tmp = none :=
    not_not.mp fun there => fresh ((listed _).mpr there)
  rcases exists_plain stored.hint free once (by
    intro name
    rw [List.mem_cons, listed]) with ⟨after, world, removed, wrote, succeeded, _⟩
  refine ⟨after, removed, stored.remove removed, ?_⟩
  intro name
  rw [entries_of_succeeded removed wrote succeeded, namesAfter, List.mem_filter,
    succeeded.listed]
  split
  · next expired => simp [expired]
  · next stays => simp [stays]

/-- The session beside as many markers as are kept. -/
def wornNames : List JsString := sessionFilename :: [1, 2, 3, 4, 5].map markerName

def worn : StateDirectory :=
  holding wornNames fun inode => if inode = 0 then storedSession else []

/-- Two sign-outs, each of which drops the oldest marker. -/
def wornCalls : List SignOut := [signOutAt 6 wornNames, signOutAt 7 (namesAfter 6 wornNames)]

theorem wornCalls_discreet : ∃ final,
    (signOuts parseBlank blankUid sessionPath).play worn wornCalls = some final ∧
    (∀ name, final.disk.entries name ≠ none ↔
      name ∈ markerName 7 :: markerName 6 :: sessionFilename :: [3, 4, 5].map markerName) ∧
    Discreet parseBlank blankUid sessionPath worn wornCalls final := by
  have stored : Stored worn := ⟨rfl, rfl, rfl⟩
  rcases exists_signOutAt 6 stored (fun _ => entries_holding_ne_none.symm) (by decide +kernel)
    (by decide +kernel) with ⟨after, first, stored, listed⟩
  rcases exists_signOutAt 7 stored listed (by decide +kernel) (by decide +kernel) with
    ⟨final, second, _, listed⟩
  have names : namesAfter 7 (namesAfter 6 wornNames) =
      markerName 7 :: markerName 6 :: sessionFilename :: [3, 4, 5].map markerName := by
    decide +kernel
  have ran : (signOuts parseBlank blankUid sessionPath).play worn wornCalls = some final :=
    Option.bind_eq_some_iff.mpr ⟨after, first, Option.bind_eq_some_iff.mpr ⟨final, second, rfl⟩⟩
  refine ⟨final, ran, ?_, discreet_of_play ran⟩
  intro name
  rw [← names, listed]

/-! ## What is not promised -/

/-- The first moment whose year has five digits. -/
def lateTime : Int := 253402300800000

/-- Another file that begins like a marker. -/
def keepsake : JsString := "auth-session.signout-0.txt"

def lateFiles : List JsString :=
  keepsake :: [1, 2, 3, 4, 5].map fun back => markerName (lateTime - back)

def lateDirectory : StateDirectory := holding lateFiles fun _ => []

def lateCall : SignOut :=
  plainCall lateTime (JsString.codeUnits "unknown") (markerName lateTime :: lateFiles)

theorem expired_late :
    Retention.expired 5 (JsString.sort ((markerName lateTime :: lateFiles).filter isMarker)) =
      [markerName lateTime, keepsake] := by
  decide +kernel

theorem keepsake_ne_markerName (time : Int) : keepsake ≠ markerName time := by
  intro same
  have lasts := congrArg List.getLast? same
  rw [markerName, List.getLast?_append, List.getLast?_append] at lasts
  cases lasts

theorem exists_late : ∃ after world,
    lateDirectory.remove parseBlank blankUid sessionPath lateCall = some after ∧
      Succeeded lateCall world (markerName lateTime :: lateFiles) ∧
      ∀ name, after.disk.entries name = if name ∈ [markerName lateTime, keepsake] then none
        else world.disk.entries name := by
  have fresh : lateDirectory.disk.entries lateCall.tmp = none := by decide +kernel
  have once : (markerName lateTime :: lateFiles).Nodup := by decide +kernel
  have listed : ∀ name, name ∈ markerName lateTime :: lateFiles ↔
      name = markerName lateTime ∨ lateDirectory.disk.entries name ≠ none := by
    intro name
    rw [lateDirectory, entries_holding_ne_none, List.mem_cons]
  have hinted : uidHint blankUid
      (lateDirectory.load parseBlank sessionPath ⟨none, none, none⟩).1 =
        JsString.codeUnits "unknown" := by
    decide +kernel
  rcases exists_plain hinted fresh once listed with ⟨after, world, removed, wrote, succeeded, _⟩
  refine ⟨after, world, removed, succeeded, ?_⟩
  intro name
  rw [entries_of_succeeded removed wrote succeeded, expired_late]

/-- The marker of a year with five digits goes and those of the moments before it stay,
another file goes with it, and a marker tells whether the session file is too large. -/
theorem lateSignOut_loses :
    (∃ after world, lateDirectory.remove parseBlank blankUid sessionPath lateCall = some after ∧
      Succeeded lateCall world (markerName lateTime :: lateFiles) ∧
      after.disk.entries (markerName lateTime) = none ∧
      after.disk.entries (markerName (lateTime - 5)) ≠ none ∧
      (∀ time, keepsake ≠ markerName time) ∧
      lateDirectory.disk.read keepsake = some [] ∧ after.disk.read keepsake = none) ∧
    ∃ after world other otherWorld,
      (blanked 0).remove parseBlank blankUid sessionPath
        (plainCall 0 (JsString.codeUnits "abcdef...") (blankedNames 0)) = some after ∧
      Succeeded (plainCall 0 (JsString.codeUnits "abcdef...") (blankedNames 0)) world
        (blankedNames 0) ∧
      (blanked (1024 * 1024)).remove parseBlank blankUid sessionPath
        (plainCall 0 (JsString.codeUnits "unknown") (blankedNames 0)) = some other ∧
      Succeeded (plainCall 0 (JsString.codeUnits "unknown") (blankedNames 0)) otherWorld
        (blankedNames 0) ∧
      parseBlank ((blanked 0).disk.bytes 0) = some () ∧
      parseBlank ((blanked (1024 * 1024)).disk.bytes 0) = some () ∧
      after.disk.read (markerName 0) ≠ other.disk.read (markerName 0) := by
  constructor
  · rcases exists_late with ⟨after, world, removed, succeeded, entries⟩
    refine ⟨after, world, removed, succeeded, ?_, ?_, keepsake_ne_markerName, ?_, ?_⟩
    · rw [entries, if_pos List.mem_cons_self]
    · have apart : markerName (lateTime - 5) ∉ [markerName lateTime, keepsake] := by
        decide +kernel
      rw [entries, if_neg apart, ← succeeded.listed]
      decide +kernel
    · decide +kernel
    · rw [Disk.read, entries, if_pos (by simp)]
      rfl
  · rcases exists_blanked 0 stored_blanked.hint with ⟨after, world, removed, succeeded, read⟩
    rcases exists_blanked 0 hint_overlong with ⟨other, otherWorld, also, otherSucceeded, otherRead⟩
    refine ⟨after, world, other, otherWorld, removed, succeeded, also, otherSucceeded,
      parseBlank_blanked 0, parseBlank_blanked _, ?_⟩
    rw [read, otherRead]
    intro same
    have texts : utf8Bytes (markerText 0 (JsString.codeUnits "abcdef...")) ≠
        utf8Bytes (markerText 0 (JsString.codeUnits "unknown")) := by
      decide +kernel
    exact texts (Option.some.inj same)

end StateDirectory

end DriveWebdav
