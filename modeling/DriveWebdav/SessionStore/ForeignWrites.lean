import DriveWebdav.SessionStore.OwnedFile

/-! # What another process wrote

A save is to refuse to replace a session that another process wrote, unless the
store has returned it. -/

namespace DriveWebdav

namespace OwnedFileSessionStore

variable {Snapshot : Type}

/-- Bytes of another process that the caller does not know. -/
def Unreturned (store : OwnedFileSessionStore Snapshot) (file : SessionFile) : Prop :=
  file.foreign = true ∧ file.raw ∉ store.returned

/-- What a step of the store is to do with such bytes: they stay, whatever a load
does to the mode, and a save rejects. -/
structure Spares (filePath : JsString) (store next : OwnedFileSessionStore Snapshot) : Prop where
  kept : ∀ file, store.file = some file → store.Unreturned file →
    ∃ mode, next.file = some { file with mode := mode }
  refused : ∀ file snapshot, store.file = some file → store.Unreturned file →
    store.phase = .checking snapshot → next.phase = .saved (.error (conflictError filePath))

def isForeign : Event Snapshot → Bool
  | .foreignWrite _ _ _ _ => true
  | _ => false

def isWrite : Event Snapshot → Bool
  | .rename _ | .foreignWrite _ _ _ _ => true
  | _ => false

/-- The next step looks at the identity of the file and remembers it: the one after a load has read
the file, or after a save has renamed. -/
def isRecording (store : OwnedFileSessionStore Snapshot) : Bool :=
  match store.phase with
  | .identifying _ _ | .recording => true
  | _ => false

section

variable (steps : Machine (OwnedFileSessionStore Snapshot) (Event Snapshot))
  (begun : OwnedFileSessionStore Snapshot)

/-- Here in its history the store looks at the identity of the file, in a load of the caller, in the
load of a sign-out or in a save. -/
def LooksAfter (history : List (Event Snapshot)) : Prop :=
  ∃ store, steps.play begun history = some store ∧ store.isRecording = true

/-- The store has looked at the identity of the file. -/
def HasLooked (history : List (Event Snapshot)) : Prop :=
  ∃ before after, history = before ++ .step :: after ∧ LooksAfter steps begun before

/-- The store has looked at some file before the last write of the history, and not since. -/
def OutOfDate (history : List (Event Snapshot)) : Prop :=
  ∃ earlier write later, history = earlier ++ write :: later ∧ isWrite write = true ∧
    (∀ event ∈ later, isWrite event = false) ∧
    HasLooked steps begun earlier ∧
    ∀ before after, later = before ++ .step :: after →
      ¬LooksAfter steps begun (earlier ++ write :: before)

/-- Whenever a save checks while unknown bytes are on disk, the store has looked before they were
written and not since; and nothing unknown is written between a check and the rename. -/
structure Careful (events : List (Event Snapshot)) : Prop where
  checks : ∀ before after store snapshot file, events = before ++ .step :: after →
    steps.play begun before = some store → store.phase = .checking snapshot →
    store.file = some file → store.Unreturned file → OutOfDate steps begun before
  writes : ∀ before after raw identity mode regular store snapshot,
    events = before ++ .foreignWrite raw identity mode regular :: after →
    steps.play begun before = some store → store.phase = .writing snapshot → raw ∈ store.returned

end

/-! ## What a run remembers -/

section

variable {filePath : JsString} {parseStoredSnapshot : JsString → Option Snapshot}
  {stringify : Snapshot → JsString} {store next : OwnedFileSessionStore Snapshot}
  {event : Event Snapshot}

def fileVersion (store : OwnedFileSessionStore Snapshot) : Option Nat :=
  store.file.map SessionFile.version

/-- What a step does to the file and to what is remembered of it. -/
inductive Tracks (store : OwnedFileSessionStore Snapshot) (event : Event Snapshot)
    (next : OwnedFileSessionStore Snapshot) : Prop
  | keeps (quiet : event = .step → store.isRecording = false) (still : isWrite event = false)
      (seen : next.lastSeen = store.lastSeen) (version : next.fileVersion = store.fileVersion)
      (count : next.nextVersion = store.nextVersion)
  | looks (same : event = .step) (recording : store.isRecording = true)
      (seen : next.lastSeen = store.file.map fun file => ⟨file.identity, file.version⟩)
      (version : next.fileVersion = store.fileVersion)
      (count : next.nextVersion = store.nextVersion)
  | writes (writing : isWrite event = true) (seen : next.lastSeen = store.lastSeen)
      (version : next.fileVersion = some store.nextVersion)
      (count : next.nextVersion = store.nextVersion + 1)

theorem tracks_of_advance (stepped : store.advance filePath parseStoredSnapshot = some next) :
    Tracks store .step next := by
  have quiet : ∀ {phase : StorePhase Snapshot}, store.phase = phase →
      (match phase with | .identifying _ _ | .recording => true | _ => false) = false →
      Event.step = (.step : Event Snapshot) → store.isRecording = false := by
    rintro _ rfl apart _
    exact apart
  unfold OwnedFileSessionStore.advance at stepped
  split at stepped
  · next phase =>
      cases stepped
      exact .keeps (quiet phase rfl) rfl rfl rfl rfl
  · next phase =>
      cases stepped
      apply Tracks.keeps (quiet phase rfl) rfl
      · unfold OwnedFileSessionStore.tighten
        split <;> rfl
      · unfold OwnedFileSessionStore.tighten fileVersion
        split
        · rfl
        · next there => rw [there]; rfl
      · unfold OwnedFileSessionStore.tighten
        split <;> rfl
  · next phase =>
      cases stepped
      exact .keeps (quiet phase rfl) rfl rfl rfl rfl
  · next phase =>
      cases stepped
      exact .looks rfl (by rw [isRecording, phase]) rfl rfl rfl
  · next phase =>
      cases stepped
      exact .keeps (quiet phase rfl) rfl rfl rfl rfl
  · next phase =>
      cases stepped
      exact .looks rfl (by rw [isRecording, phase]) rfl rfl rfl
  · cases stepped

theorem tracks_of_step
    (stepped : machine filePath parseStoredSnapshot stringify store event = some next) :
    Tracks store event next := by
  cases event with
  | load =>
      simp only [machine, Option.ite_none_right_eq_some] at stepped
      cases stepped.2
      exact .keeps nofun rfl rfl rfl rfl
  | save snapshot =>
      simp only [machine, Option.ite_none_right_eq_some] at stepped
      cases stepped.2
      exact .keeps nofun rfl rfl rfl rfl
  | remove =>
      simp only [machine, Option.ite_none_right_eq_some] at stepped
      cases stepped.2
      exact .keeps nofun rfl rfl rfl rfl
  | step => exact tracks_of_advance stepped
  | rename identity =>
      simp only [machine] at stepped
      split at stepped
      · cases stepped
        exact .writes rfl rfl rfl rfl
      · cases stepped
  | writeFails code =>
      simp only [machine] at stepped
      split at stepped
      · cases stepped
        exact .keeps nofun rfl rfl rfl rfl
      · cases stepped
  | foreignWrite raw identity mode regular =>
      simp only [machine, Option.ite_none_left_eq_some] at stepped
      cases stepped.2
      exact .writes rfl rfl rfl rfl

end

section

variable {filePath : JsString} {parseStoredSnapshot : JsString → Option Snapshot}
  {stringify : Snapshot → JsString} {file : Option SessionFile}
  {store next : OwnedFileSessionStore Snapshot} {history later : List (Event Snapshot)}

theorem file_of_readFile {loader : Loader}
    (recording : ({ store with phase := store.readFile loader } :
      OwnedFileSessionStore Snapshot).isRecording = true) : store.file.isSome = true := by
  unfold readFile at recording
  cases there : store.file with
  | none =>
      rw [there] at recording
      cases loader <;> cases recording
  | some file => rfl

/-- A phase in which nothing is about to be written or looked at. -/
private def isQuiet : StorePhase Snapshot → Bool
  | .writing _ | .identifying _ _ | .recording => false
  | _ => true

private theorem isQuiet_endLoad {result : Except SessionError (Option Snapshot)}
    {loader : Loader} : isQuiet (endLoad result loader) = true := by
  cases loader with
  | caller => rfl
  | remove => rfl

private theorem isQuiet_checkSize {loader : Loader} {size : Nat} :
    isQuiet (checkSize loader size : StorePhase Snapshot) = true := by
  unfold checkSize
  split
  · exact isQuiet_endLoad
  · rfl

private theorem isQuiet_inspect {loader : Loader} :
    isQuiet (store.inspect filePath loader) = true := by
  unfold inspect
  split
  · exact isQuiet_endLoad
  · split
    · exact isQuiet_endLoad
    · split
      · rfl
      · exact isQuiet_checkSize

private theorem isRecording_of_isQuiet (quiet : isQuiet store.phase = true) :
    store.isRecording = false := by
  unfold isRecording
  split
  · next phase =>
      rw [phase] at quiet
      cases quiet
  · next phase =>
      rw [phase] at quiet
      cases quiet
  · rfl

private theorem present_of_advance
    (stepped : store.advance filePath parseStoredSnapshot = some next)
    (recording : next.isRecording = true) : next.file.isSome = true := by
  have absurd : isQuiet next.phase = true → next.file.isSome = true := by
    intro quiet
    rw [isRecording_of_isQuiet quiet] at recording
    cases recording
  unfold OwnedFileSessionStore.advance at stepped
  split at stepped
  · cases stepped
    exact absurd isQuiet_inspect
  · cases stepped
    apply absurd
    unfold OwnedFileSessionStore.tighten
    split
    · exact isQuiet_endLoad
    · exact isQuiet_checkSize
  · cases stepped
    exact file_of_readFile recording
  · cases stepped
    exact absurd isQuiet_endLoad
  · cases stepped
    simp only [isRecording, checkConflict] at recording
    split at recording
    · next same => split at same <;> cases same
    · next same => split at same <;> cases same
    · cases recording
  · cases stepped
    exact absurd rfl
  · cases stepped

/-- Where the store comes to look at a file, there is one. -/
theorem present_of_step {event : Event Snapshot}
    (stepped : machine filePath parseStoredSnapshot stringify store event = some next)
    (recording : next.isRecording = true) : next.file.isSome = true := by
  cases event with
  | load =>
      simp only [machine, Option.ite_none_right_eq_some] at stepped
      cases stepped.2
      cases recording
  | save snapshot =>
      simp only [machine, Option.ite_none_right_eq_some] at stepped
      cases stepped.2
      cases recording
  | remove =>
      simp only [machine, Option.ite_none_right_eq_some] at stepped
      cases stepped.2
      cases recording
  | step => exact present_of_advance stepped recording
  | rename identity =>
      simp only [machine] at stepped
      split at stepped
      · cases stepped
        rfl
      · cases stepped
  | writeFails code =>
      simp only [machine] at stepped
      split at stepped
      · cases stepped
        cases recording
      · cases stepped
  | foreignWrite raw identity mode regular =>
      simp only [machine, Option.ite_none_left_eq_some] at stepped
      cases stepped.2
      rfl

/-- What is counted in a run: a file is there once the store looks at one, and no version is newer
than the count. -/
structure Counted (store : OwnedFileSessionStore Snapshot) : Prop where
  present : store.isRecording = true → store.file.isSome = true
  seen : ∀ seen, store.lastSeen = some seen → seen.version < store.nextVersion
  placed : ∀ version, store.fileVersion = some version → version < store.nextVersion

theorem Counted.step {event : Event Snapshot} (counted : Counted store)
    (stepped : machine filePath parseStoredSnapshot stringify store event = some next) :
    Counted next := by
  have present := present_of_step stepped
  cases tracks_of_step stepped with
  | keeps quiet still seen version count =>
      constructor
      · exact present
      · rw [seen, count]
        exact counted.seen
      · rw [version, count]
        exact counted.placed
  | looks same recording seen version count =>
      constructor
      · exact present
      · rw [seen, count]
        intro recorded equal
        rcases Option.map_eq_some_iff.mp equal with ⟨file, there, rfl⟩
        exact counted.placed _ (by rw [fileVersion, there, Option.map_some])
      · rw [version, count]
        exact counted.placed
  | writes writing seen version count =>
      constructor
      · exact present
      · rw [seen, count]
        exact fun recorded equal => Nat.lt_succ_of_lt (counted.seen recorded equal)
      · rw [version, count]
        rintro _ ⟨⟩
        exact Nat.lt_succ_self _

theorem counted_of_play
    (ran : (machine filePath parseStoredSnapshot stringify).play (start file) history =
      some store) : Counted store := by
  apply Machine.invariant Counted _ (fun _ _ _ counted stepped => counted.step stepped) ran
  refine ⟨nofun, nofun, ?_⟩
  intro version placed
  rcases Option.map_eq_some_iff.mp placed with ⟨there, same, rfl⟩
  cases file with
  | none => cases same
  | some file =>
      cases same
      exact Nat.lt_succ_self _

/-- Once the store has looked at a file, it remembers an identity. -/
theorem remembers_of_looks
    (counted : Counted store) (recording : store.isRecording = true)
    (ran : (machine filePath parseStoredSnapshot stringify).play store (.step :: later) =
      some next) : next.lastSeen.isSome = true := by
  rcases Option.bind_eq_some_iff.mp ran with ⟨looked, stepped, rest⟩
  have remembered : Counted looked ∧ looked.lastSeen.isSome = true := by
    refine ⟨counted.step stepped, ?_⟩
    cases tracks_of_step stepped with
    | keeps quiet =>
        rw [quiet rfl] at recording
        cases recording
    | looks same recording seen =>
        rw [seen, Option.isSome_map]
        exact counted.present recording
    | writes writing => cases writing
  have kept : Counted next ∧ next.lastSeen.isSome = true := by
    apply Machine.invariant (fun state => Counted state ∧ state.lastSeen.isSome = true)
      remembered _ rest
    rintro reached event next ⟨counted, known⟩ stepped
    refine ⟨counted.step stepped, ?_⟩
    cases tracks_of_step stepped with
    | keeps quiet still seen => rw [seen, known]
    | looks same recording seen =>
        rw [seen, Option.isSome_map]
        exact counted.present recording
    | writes writing seen => rw [seen, known]
  exact kept.2

/-- As long as nothing is written or looked at, what is remembered and the file stay. -/
theorem still_of_play (still : ∀ event ∈ later, isWrite event = false)
    (unlooked : ∀ before after, later = before ++ .step :: after →
      ¬LooksAfter (machine filePath parseStoredSnapshot stringify) store before)
    (ran : (machine filePath parseStoredSnapshot stringify).play store later = some next) :
    next.lastSeen = store.lastSeen ∧ next.fileVersion = store.fileVersion := by
  induction later generalizing store with
  | nil =>
      cases ran
      exact ⟨rfl, rfl⟩
  | cons event later induction =>
      rcases Option.bind_eq_some_iff.mp ran with ⟨reached, stepped, rest⟩
      have tail := induction (fun event member => still event (List.mem_cons_of_mem _ member))
        (by
          rintro before after rfl ⟨looking, looked, recording⟩
          apply unlooked (event :: before) after rfl
          exact ⟨looking, Option.bind_eq_some_iff.mpr ⟨reached, stepped, looked⟩, recording⟩) rest
      cases tracks_of_step stepped with
      | keeps quiet kept seen version =>
          rw [← seen, ← version]
          exact tail
      | looks same recording =>
          subst same
          exact absurd ⟨store, rfl, recording⟩ (unlooked [] later rfl)
      | writes writing =>
          rw [still event List.mem_cons_self] at writing
          cases writing

/-- What is remembered was looked at, and an identity of an older file before the last write. -/
theorem looked_of_play
    (ran : (machine filePath parseStoredSnapshot stringify).play (start file) history =
      some store) :
    (store.lastSeen.isSome = true →
      HasLooked (machine filePath parseStoredSnapshot stringify) (start file) history) ∧
    ((∃ seen, store.lastSeen = some seen ∧ store.fileVersion ≠ some seen.version) →
      OutOfDate (machine filePath parseStoredSnapshot stringify) (start file) history) := by
  apply Machine.run_induct (fun history store =>
    (store.lastSeen.isSome = true →
      HasLooked (machine filePath parseStoredSnapshot stringify) (start file) history) ∧
    ((∃ seen, store.lastSeen = some seen ∧ store.fileVersion ≠ some seen.version) →
      OutOfDate (machine filePath parseStoredSnapshot stringify) (start file) history)) _ _ ran
  · refine ⟨nofun, ?_⟩
    rintro ⟨seen, recorded, _⟩
    cases recorded
  · rintro history reached event next begun ⟨looked, outOfDate⟩ stepped
    have longer : HasLooked (machine filePath parseStoredSnapshot stringify) (start file) history →
        HasLooked (machine filePath parseStoredSnapshot stringify) (start file)
          (history ++ [event]) := by
      rintro ⟨before, after, rfl, looks⟩
      exact ⟨before, after ++ [event], by rw [List.append_assoc, List.cons_append], looks⟩
    cases tracks_of_step stepped with
    | keeps quiet still seen version =>
        rw [seen, version]
        refine ⟨fun known => longer (looked known), ?_⟩
        intro older
        rcases outOfDate older with ⟨earlier, write, later, rfl, writing, untouched, looks, unlooked⟩
        refine ⟨earlier, write, later ++ [event], by rw [List.append_assoc, List.cons_append],
          writing, ?_, looks, ?_⟩
        · intro other member
          rcases List.mem_append.mp member with member | member
          · exact untouched other member
          · rw [List.mem_singleton.mp member]
            exact still
        · intro before after split
          rcases List.eq_nil_or_concat after with rfl | ⟨middle, last, rfl⟩
          · rcases List.append_inj' split rfl with ⟨rfl, same⟩
            cases same
            rintro ⟨looking, looked, recording⟩
            cases begun.symm.trans looked
            rw [quiet rfl] at recording
            cases recording
          · rw [List.concat_eq_append, ← List.cons_append, ← List.append_assoc] at split
            exact unlooked before middle (List.append_inj' split rfl).1
    | looks same recording seen version =>
        subst same
        refine ⟨fun _ => ⟨history, [], rfl, reached, begun, recording⟩, ?_⟩
        rw [seen, version]
        rintro ⟨recorded, equal, different⟩
        rcases Option.map_eq_some_iff.mp equal with ⟨there, same, rfl⟩
        exact absurd (by rw [fileVersion, same, Option.map_some]) different
    | writes writing seen version =>
        rw [seen]
        refine ⟨fun known => longer (looked known), ?_⟩
        rintro ⟨recorded, equal, _⟩
        refine ⟨history, event, [], rfl, writing, nofun, looked (by rw [equal]; rfl), ?_⟩
        intro before after split
        cases before <;> cases split

/-- An identity of an older file is remembered exactly if the store has looked before the last
write and not since. -/
theorem outOfDate_iff
    (ran : (machine filePath parseStoredSnapshot stringify).play (start file) history =
      some store) :
    OutOfDate (machine filePath parseStoredSnapshot stringify) (start file) history ↔
      ∃ seen, store.lastSeen = some seen ∧ store.fileVersion ≠ some seen.version := by
  constructor
  · rintro ⟨earlier, write, later, rfl, writing, still, ⟨before, after, rfl, looks⟩, unlooked⟩
    rcases Machine.play_append_eq_some.mp ran with ⟨middle, early, late⟩
    rcases Option.bind_eq_some_iff.mp late with ⟨written, stepped, rest⟩
    have counted := counted_of_play early
    have known : middle.lastSeen.isSome = true := by
      rcases Machine.play_append_eq_some.mp early with ⟨looking, looked, onward⟩
      rcases looks with ⟨same, looked', recording⟩
      cases looked.symm.trans looked'
      exact remembers_of_looks (counted_of_play looked) recording onward
    rcases Option.isSome_iff_exists.mp known with ⟨seen, recorded⟩
    have kept := still_of_play still (by
      rintro first last rfl ⟨looking, looked, recording⟩
      apply unlooked first last rfl
      exact ⟨looking, Machine.play_append_eq_some.mpr ⟨middle, early,
        Option.bind_eq_some_iff.mpr ⟨written, stepped, looked⟩⟩, recording⟩) rest
    cases tracks_of_step stepped with
    | keeps _ still =>
        rw [writing] at still
        cases still
    | looks same =>
        subst same
        cases writing
    | writes _ unseen version =>
        refine ⟨seen, by rw [kept.1, unseen, recorded], ?_⟩
        rw [kept.2, version]
        intro same
        have older := counted.seen seen recorded
        rw [← Option.some.inj same] at older
        exact Nat.lt_irrefl _ older
  · exact (looked_of_play ran).2

end

/-! ## What the recorded identity tells -/

/-- When a save checks, an identity was recorded before the unknown bytes on disk
were written, and nothing unknown is written between its check and its rename. -/
def Heeded (store : OwnedFileSessionStore Snapshot) : Event Snapshot → Prop
  | .step => ∀ file snapshot, store.phase = .checking snapshot → store.file = some file →
      store.Unreturned file → ∃ seen, store.lastSeen = some seen ∧ seen.version ≠ file.version
  | .foreignWrite raw _ _ _ => ∀ snapshot, store.phase = .writing snapshot → raw ∈ store.returned
  | _ => True

/-- The histories in which every step is heeded are the careful ones: what the store remembers is
what it has looked at. -/
theorem careful_iff {filePath : JsString} {parseStoredSnapshot : JsString → Option Snapshot}
    {stringify : Snapshot → JsString} {file : Option SessionFile}
    {events : List (Event Snapshot)} :
    Careful (machine filePath parseStoredSnapshot stringify) (start file) events ↔
      (machine filePath parseStoredSnapshot stringify).Obeys Heeded (start file) events := by
  constructor
  · intro careful before event after reached split ran
    cases event with
    | step =>
        intro there snapshot checking placed unreturned
        have outOfDate := careful.checks before after reached snapshot there split ran checking
          placed unreturned
        rcases (outOfDate_iff ran).mp outOfDate with ⟨seen, recorded, different⟩
        refine ⟨seen, recorded, ?_⟩
        intro same
        rw [fileVersion, placed, same] at different
        exact different rfl
    | foreignWrite raw identity mode regular =>
        intro snapshot writing
        exact careful.writes before after raw identity mode regular reached snapshot split ran
          writing
    | _ => trivial
  · intro obeys
    constructor
    · intro before after store snapshot there split ran checking placed unreturned
      rcases obeys before .step after store split ran there snapshot checking placed unreturned
        with ⟨seen, recorded, different⟩
      refine (outOfDate_iff ran).mpr ⟨seen, recorded, ?_⟩
      rw [fileVersion, placed]
      exact fun same => different (Option.some.inj same).symm
    · intro before after raw identity mode regular store snapshot split ran writing
      exact obeys before _ after store split ran snapshot writing

structure Sound (store : OwnedFileSessionStore Snapshot) : Prop where
  recorded : ∀ seen, store.lastSeen = some seen → seen.identity ∈ store.past
  placed : ∀ file, store.file = some file → file.identity ∈ store.past
  told : ∀ file seen, store.file = some file → file.foreign = true →
    store.lastSeen = some seen → seen.version ≠ file.version → seen.identity ≠ file.identity
  known : ∀ snapshot file, store.phase = .writing snapshot → store.file = some file →
    ¬store.Unreturned file

variable {store next : OwnedFileSessionStore Snapshot} {phase : StorePhase Snapshot}

private theorem sound_start (file : Option SessionFile) :
    Sound (start file : OwnedFileSessionStore Snapshot) where
  recorded _ absurd := nomatch absurd
  placed other there := by
    cases there
    exact List.mem_singleton_self _
  told _ _ _ _ absurd := nomatch absurd
  known _ _ absurd := nomatch absurd

private theorem Sound.enter (sound : Sound store)
    (known : ∀ snapshot file, phase = .writing snapshot → store.file = some file →
      ¬store.Unreturned file) : Sound { store with phase := phase } where
  recorded := sound.recorded
  placed := sound.placed
  told := sound.told
  known := known

/-- The phase is not the one between the check of a save and its rename. -/
private def awaits : StorePhase Snapshot → Bool
  | .writing _ => true
  | _ => false

private theorem Sound.leave (sound : Sound store) (other : awaits phase = false) :
    Sound { store with phase := phase } := by
  apply sound.enter
  intro snapshot file writing
  rw [writing] at other
  cases other

private theorem awaits_of_isQuiet (quiet : isQuiet phase = true) : awaits phase = false := by
  cases phase with
  | writing snapshot => cases quiet
  | _ => rfl

private theorem awaits_readFile {loader : Loader} : awaits (store.readFile loader) = false := by
  unfold readFile
  split
  · exact awaits_of_isQuiet isQuiet_endLoad
  · rfl

private theorem Sound.tighten {loader : Loader} {size : Nat} (sound : Sound store) :
    Sound (store.tighten loader size) := by
  unfold OwnedFileSessionStore.tighten
  split
  · exact sound.leave (awaits_of_isQuiet isQuiet_endLoad)
  · next file there =>
      constructor
      · exact sound.recorded
      · intro other same
        cases same
        exact sound.placed file there
      · intro other seen same foreign
        cases same
        exact sound.told file seen there foreign
      · intro snapshot other writing
        have quiet : isQuiet (checkSize loader size : StorePhase Snapshot) = true :=
          isQuiet_checkSize
        rw [show checkSize loader size = .writing snapshot from writing] at quiet
        cases quiet

/-- The identity that is recorded is that of the file on disk. -/
private theorem Sound.record {returned : List JsString} (sound : Sound store)
    (other : awaits phase = false) :
    Sound { store.recordIdentity with phase := phase, returned := returned } where
  recorded seen equal := by
    rcases Option.map_eq_some_iff.mp equal with ⟨file, there, rfl⟩
    exact sound.placed file there
  placed := sound.placed
  told file seen there _ equal different := by
    rcases Option.map_eq_some_iff.mp equal with ⟨same, here, rfl⟩
    cases there.symm.trans here
    exact absurd rfl different
  known snapshot file writing := by
    rw [show phase = .writing snapshot from writing] at other
    cases other

/-- A write of another process shows in the identity. -/
private theorem Sound.place {file : SessionFile} (sound : Sound store)
    (fresh : file.foreign = true → file.identity ∉ store.past)
    (known : ∀ snapshot, phase = .writing snapshot → ¬store.Unreturned file) :
    Sound { store.place file with phase := phase } where
  recorded seen equal := List.mem_cons_of_mem _ (sound.recorded seen equal)
  placed other there := by
    cases there
    exact List.mem_cons_self
  told other seen there foreign equal _ := by
    cases there
    intro same
    apply fresh foreign
    rw [← same]
    exact sound.recorded seen equal
  known snapshot other writing there := by
    cases there
    exact known snapshot writing

/-! ## Saving -/

/-- A check that is heeded lets nothing unknown through. -/
private theorem Sound.checkConflict_of_unreturned {filePath : JsString} {snapshot : Snapshot}
    {file : SessionFile} (sound : Sound store) (heeded : store.Heeded .step)
    (checking : store.phase = .checking snapshot) (there : store.file = some file)
    (unreturned : store.Unreturned file) :
    store.checkConflict filePath snapshot = .saved (.error (conflictError filePath)) := by
  rcases heeded file snapshot checking there unreturned with ⟨seen, recorded, different⟩
  have apart := sound.told file seen there unreturned.1 recorded different
  unfold checkConflict
  rw [if_pos]
  simp only [recorded, currentIdentity, there, Option.map_some, Option.isSome_some,
    Bool.and_true, Bool.true_and, sameIdentity, Bool.not_eq_true']
  rw [← Bool.not_eq_true]
  intro same
  simp only [Bool.and_eq_true, decide_eq_true_eq] at same
  apply apart
  rcases seen with ⟨⟨ino, mtimeMs, size⟩, version⟩
  rcases file with ⟨regular, mode, ⟨ino', mtimeMs', size'⟩, raw, foreign, version'⟩
  simp only at same
  rw [same.1.1, same.1.2, same.2]

private theorem Sound.advance {filePath : JsString}
    {parseStoredSnapshot : JsString → Option Snapshot} (sound : Sound store)
    (heeded : store.Heeded .step)
    (stepped : store.advance filePath parseStoredSnapshot = some next) : Sound next := by
  unfold OwnedFileSessionStore.advance at stepped
  split at stepped
  · cases stepped
    exact sound.leave (awaits_of_isQuiet isQuiet_inspect)
  · cases stepped
    exact sound.tighten
  · cases stepped
    exact sound.leave awaits_readFile
  · cases stepped
    exact sound.record (awaits_of_isQuiet isQuiet_endLoad)
  · next checking =>
      cases stepped
      apply sound.enter
      intro snapshot file writing there unreturned
      rw [sound.checkConflict_of_unreturned heeded checking there unreturned] at writing
      cases writing
  · cases stepped
    exact sound.record rfl
  · cases stepped

private theorem Sound.step {filePath : JsString}
    {parseStoredSnapshot : JsString → Option Snapshot} {stringify : Snapshot → JsString}
    {event : Event Snapshot} (sound : Sound store) (heeded : store.Heeded event)
    (stepped : machine filePath parseStoredSnapshot stringify store event = some next) :
    Sound next := by
  cases event with
  | load =>
      simp only [machine, Option.ite_none_right_eq_some] at stepped
      cases stepped.2
      exact sound.leave rfl
  | save snapshot =>
      simp only [machine, Option.ite_none_right_eq_some] at stepped
      cases stepped.2
      exact sound.leave rfl
  | remove =>
      simp only [machine, Option.ite_none_right_eq_some] at stepped
      cases stepped.2
      exact sound.leave rfl
  | step => exact sound.advance heeded stepped
  | rename identity =>
      simp only [machine] at stepped
      split at stepped
      · cases stepped
        exact sound.place nofun nofun
      · cases stepped
  | writeFails code =>
      simp only [machine] at stepped
      split at stepped
      · cases stepped
        exact sound.leave rfl
      · cases stepped
  | foreignWrite raw identity mode regular =>
      simp only [machine, Option.ite_none_left_eq_some] at stepped
      cases stepped.2
      apply sound.place
      · exact fun _ => stepped.1
      · exact fun snapshot writing unreturned => unreturned.2 (heeded snapshot writing)

/-! ## Every step of a run -/

private theorem spares_of_same {filePath : JsString}
    (same : ∀ file, store.file = some file → ∃ mode, next.file = some { file with mode := mode })
    (other : ∀ snapshot, store.phase ≠ .checking snapshot) : Spares filePath store next where
  kept file there _ := same file there
  refused _ snapshot _ _ checking := absurd checking (other snapshot)

private theorem not_checking_of_isIdle (idle : store.isIdle = true) (snapshot : Snapshot) :
    store.phase ≠ .checking snapshot := by
  intro checking
  rw [isIdle, checking] at idle
  cases idle

private theorem Sound.spares_advance {filePath : JsString}
    {parseStoredSnapshot : JsString → Option Snapshot} (sound : Sound store)
    (heeded : store.Heeded .step)
    (stepped : store.advance filePath parseStoredSnapshot = some next) :
    Spares filePath store next := by
  unfold OwnedFileSessionStore.advance at stepped
  split at stepped
  · next inspecting =>
      cases stepped
      apply spares_of_same
      · exact fun file there => ⟨file.mode, there⟩
      · exact fun snapshot checking => nomatch inspecting.symm.trans checking
  · next tightening =>
      cases stepped
      apply spares_of_same
      · intro file there
        refine ⟨0o600, ?_⟩
        unfold OwnedFileSessionStore.tighten
        rw [there]
      · exact fun snapshot checking => nomatch tightening.symm.trans checking
  · next reading =>
      cases stepped
      apply spares_of_same
      · exact fun file there => ⟨file.mode, there⟩
      · exact fun snapshot checking => nomatch reading.symm.trans checking
  · next identifying =>
      cases stepped
      apply spares_of_same
      · exact fun file there => ⟨file.mode, there⟩
      · exact fun snapshot checking => nomatch identifying.symm.trans checking
  · next checking =>
      cases stepped
      constructor
      · exact fun file there _ => ⟨file.mode, there⟩
      · intro file snapshot there unreturned again
        cases checking.symm.trans again
        exact sound.checkConflict_of_unreturned heeded checking there unreturned
  · next recording =>
      cases stepped
      apply spares_of_same
      · exact fun file there => ⟨file.mode, there⟩
      · exact fun snapshot checking => nomatch recording.symm.trans checking
  · cases stepped

private theorem Sound.spares {filePath : JsString}
    {parseStoredSnapshot : JsString → Option Snapshot} {stringify : Snapshot → JsString}
    {event : Event Snapshot} (sound : Sound store) (heeded : store.Heeded event)
    (own : isForeign event = false)
    (stepped : machine filePath parseStoredSnapshot stringify store event = some next) :
    Spares filePath store next := by
  cases event with
  | load =>
      simp only [machine, Option.ite_none_right_eq_some] at stepped
      cases stepped.2
      exact spares_of_same (fun file there => ⟨file.mode, there⟩)
        (not_checking_of_isIdle stepped.1)
  | save snapshot =>
      simp only [machine, Option.ite_none_right_eq_some] at stepped
      cases stepped.2
      exact spares_of_same (fun file there => ⟨file.mode, there⟩)
        (not_checking_of_isIdle stepped.1)
  | remove =>
      simp only [machine, Option.ite_none_right_eq_some] at stepped
      cases stepped.2
      exact spares_of_same (fun file there => ⟨file.mode, there⟩)
        (not_checking_of_isIdle stepped.1)
  | step => exact sound.spares_advance heeded stepped
  | rename identity =>
      simp only [machine] at stepped
      split at stepped
      · next writing =>
          constructor
          · exact fun file there unreturned => absurd unreturned (sound.known _ file writing there)
          · exact fun _ snapshot _ _ checking => nomatch writing.symm.trans checking
      · cases stepped
  | writeFails code =>
      simp only [machine] at stepped
      split at stepped
      · next writing =>
          cases stepped
          apply spares_of_same
          · exact fun file there => ⟨file.mode, there⟩
          · exact fun snapshot checking => nomatch writing.symm.trans checking
      · cases stepped
  | foreignWrite raw identity mode regular => cases own

/-- No step of the store replaces what another process wrote and the store has not
returned, after every careful history. -/
theorem spares_of_careful {filePath : JsString}
    {parseStoredSnapshot : JsString → Option Snapshot} {stringify : Snapshot → JsString}
    {file : Option SessionFile} {events : List (Event Snapshot)} {event : Event Snapshot}
    {reached next : OwnedFileSessionStore Snapshot}
    (ran : (machine filePath parseStoredSnapshot stringify).play (start file) events =
      some reached)
    (careful : Careful (machine filePath parseStoredSnapshot stringify) (start file)
      (events ++ [event]))
    (stepped : machine filePath parseStoredSnapshot stringify reached event = some next)
    (own : isForeign event = false) : Spares filePath reached next := by
  have heeded := careful_iff.mp careful
  have sound : Sound reached := by
    apply Machine.invariant_of_obeys Sound (sound_start file) _ ran heeded.left
    exact fun _ _ _ sound allowed stepped => sound.step allowed stepped
  exact sound.spares (heeded.last ran) own stepped

/-! ## A session that is signed out -/

def storedSession : SessionFile := ⟨true, 0o600, ⟨1, 10, 5⟩, "first", true, 0⟩

/-- The session is loaded, and another process rotates it before the save. -/
def rotatedSession : List (Event JsString) :=
  [.load, .step, .step, .step, .foreignWrite "other" ⟨1, 20, 5⟩ 0o600 true, .save "mine"]

theorem rotatedSession_spared :
    ∃ reached next, (machine "/d/auth-session.json" some id).play (start (some storedSession))
        rotatedSession = some reached ∧
      machine "/d/auth-session.json" some id reached .step = some next ∧
      Spares "/d/auth-session.json" reached next := by
  have ran : (machine "/d/auth-session.json" some id).play (start (some storedSession))
      rotatedSession = some _ := rfl
  refine ⟨_, _, ran, rfl, @spares_of_careful _ _ _ _ _ _ .step _ _ ran (careful_iff.mpr ?_) rfl rfl⟩
  refine .cons trivial rfl ?_
  refine .cons (fun _ _ checking => nomatch checking) rfl ?_
  refine .cons (fun _ _ checking => nomatch checking) rfl ?_
  refine .cons (fun _ _ checking => nomatch checking) rfl ?_
  refine .cons (fun _ writing => nomatch writing) rfl ?_
  refine .cons trivial rfl ?_
  refine .cons ?_ rfl (Machine.obeys_nil _)
  intro file snapshot _ there _
  cases there
  exact ⟨_, rfl, by decide⟩

/-- A sign-out reads the other process's session, and records its identity. -/
def signedOut : List (Event JsString) :=
  [.load, .step, .step, .step, .foreignWrite "other" ⟨1, 20, 5⟩ 0o600 true, .remove, .step,
    .step, .step, .save "mine", .step]

/-- The save that follows replaces a session that was never returned. -/
theorem signedOut_replaces :
    ∃ reached next, (machine "/d/auth-session.json" some id).play (start (some storedSession))
        signedOut = some reached ∧
      machine "/d/auth-session.json" some id reached (.rename ⟨2, 30, 4⟩) = some next ∧
      ¬Spares "/d/auth-session.json" reached next := by
  refine ⟨_, _, rfl, rfl, ?_⟩
  intro spares
  rcases spares.kept _ rfl ⟨rfl, by decide⟩ with ⟨mode, same⟩
  cases same

end OwnedFileSessionStore

end DriveWebdav
