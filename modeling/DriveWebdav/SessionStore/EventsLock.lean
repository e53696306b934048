import DriveWebdav.Foundation.Machine
import DriveWebdav.Foundation.Text

/-! # Stale events locks

The events lock of the official client is removed when it was left by a process
from before the current boot, a file system step at a time, beside a client that
starts meanwhile. -/

namespace DriveWebdav

/-- `bootMs` is `Date.now() - os.uptime() * 1000`. -/
def predatesBoot (bootMs mtimeMs : Int) : Bool := mtimeMs < bootMs - 1000

/-- By how much the wall clock has been set ahead from one moment to another. -/
def setAhead (clock : Nat → Int) (first second : Nat) : Int :=
  (clock second - second) - (clock first - first)

/-- A lock is judged by how far the clock has been set ahead since it was written. -/
theorem predatesBoot_iff {clock : Nat → Int} {written moment : Nat} :
    predatesBoot (clock moment - moment) (clock written) = true ↔
      written + 1000 < setAhead clock written moment := by
  rw [predatesBoot, decide_eq_true_eq, setAhead]
  omega

/-- `written` is the uptime at which the lock was written, if that was during the current
boot, and `version` counts the writes. No step depends on either. -/
structure EventsLockFile where
  raw : JsString
  mtimeMs : Int
  written : Option Nat
  version : Nat

/-- `looked` is the lock whose time was looked at. Nothing but its time is used, and from
`rereading` on not even that. `moment` is the uptime at which it was compared. -/
inductive ReleasePhase
  | reading
  | looking (raw : JsString)
  | comparing (raw : JsString) (looked : EventsLockFile)
  | rereading (raw : JsString) (looked : EventsLockFile) (moment : Nat)
  | unlinking (looked : EventsLockFile) (moment : Nat)
  | released (removed : Bool)

def ReleasePhase.looked : ReleasePhase → Option EventsLockFile
  | .comparing _ looked | .rereading _ looked _ | .unlinking looked _ => some looked
  | _ => none

def ReleasePhase.moment : ReleasePhase → Option Nat
  | .rereading _ _ moment | .unlinking _ moment => some moment
  | _ => none

/-- `now` is the uptime. -/
structure StaleRelease where
  now : Nat
  lock : Option EventsLockFile
  phase : ReleasePhase
  nextVersion : Nat

namespace StaleRelease

/-- The next file system step of `releaseStaleEventsLock`, or the comparison of times. -/
def advance (clock : Nat → Int) (state : StaleRelease) : Option StaleRelease :=
  match state.phase, state.lock with
  | .released _, _ => none
  | .comparing raw looked, _ =>
      if predatesBoot (clock state.now - state.now) looked.mtimeMs then
        some { state with phase := .rereading raw looked state.now }
      else some { state with phase := .released false }
  | .reading, some file => some { state with phase := .looking file.raw }
  | .looking raw, some file => some { state with phase := .comparing raw file }
  | .rereading raw looked moment, some file =>
      if file.raw = raw then some { state with phase := .unlinking looked moment }
      else some { state with phase := .released false }
  | .unlinking _ _, some _ => some { state with lock := none, phase := .released true }
  | _, none => some { state with phase := .released false }

/-- Steps of the release, time that passes, and a client of the current boot that writes the
lock or removes it. -/
inductive Event
  | step
  | pass (later : Nat)
  | write (raw : JsString)
  | remove

/-- A lock is dated by the wall clock, which may be set in any way. -/
def machine (clock : Nat → Int) : Machine StaleRelease Event
  | state, .step => state.advance clock
  | state, .pass later => if state.now ≤ later then some { state with now := later } else none
  | state, .write raw =>
      some { state with
        lock := some ⟨raw, clock state.now, some state.now, state.nextVersion⟩
        nextVersion := state.nextVersion + 1 }
  | state, .remove => some { state with lock := none }

/-- The lock that a release finds may be of any age. -/
structure Starts (clock : Nat → Int) (state : StaleRelease) : Prop where
  reading : state.phase = .reading
  dated : ∀ file written, state.lock = some file → file.written = some written →
    file.mtimeMs = clock written
  counted : ∀ file, state.lock = some file → file.version < state.nextVersion

/-! ## What is unlinked -/

/-- The next step removes a lock that was written during the current boot. -/
def UnlinksCurrent (state : StaleRelease) : Prop :=
  ∃ looked moment file, state.phase = .unlinking looked moment ∧ state.lock = some file ∧
    file.written.isSome = true

/-- Nobody has written the lock since its time was looked at, and the clock had not been set too
far ahead since it was written. -/
def Timely (clock : Nat → Int) (state : StaleRelease) : Prop :=
  ∀ looked moment file, state.phase = .unlinking looked moment → state.lock = some file →
    file.version = looked.version ∧
      ∀ written, looked.written = some written → setAhead clock written moment ≤ written + 1000

/-- What the path holds by now is the lock that was looked at, or was written since. -/
structure Looked (clock : Nat → Int) (state : StaleRelease) (looked : EventsLockFile) : Prop where
  dated : ∀ written, looked.written = some written → looked.mtimeMs = clock written
  earlier : looked.version < state.nextVersion
  split : ∀ file, state.lock = some file →
    (file.version = looked.version ∧ file.written = looked.written) ∨
      (file.version ≠ looked.version ∧ file.written.isSome = true)

structure Sound (clock : Nat → Int) (state : StaleRelease) : Prop where
  dated : ∀ file written, state.lock = some file → file.written = some written →
    file.mtimeMs = clock written
  counted : ∀ file, state.lock = some file → file.version < state.nextVersion
  looked : ∀ looked, state.phase.looked = some looked → Looked clock state looked
  stale : ∀ looked moment, state.phase.looked = some looked → state.phase.moment = some moment →
    predatesBoot (clock moment - moment) looked.mtimeMs = true

variable {clock : Nat → Int} {state next : StaleRelease} {phase : ReleasePhase}

private theorem Sound.enter (sound : Sound clock state)
    (looked : ∀ looked, phase.looked = some looked → Looked clock state looked)
    (stale : ∀ looked moment, phase.looked = some looked → phase.moment = some moment →
      predatesBoot (clock moment - moment) looked.mtimeMs = true) :
    Sound clock { state with phase := phase } where
  dated := sound.dated
  counted := sound.counted
  looked file same := ⟨(looked file same).dated, (looked file same).earlier, (looked file same).split⟩
  stale := stale

/-- The lock is looked at. -/
private theorem Sound.look {file : EventsLockFile} (sound : Sound clock state)
    (there : state.lock = some file) : Looked clock state file where
  dated written := sound.dated file written there
  earlier := sound.counted file there
  split other same := by
    rw [there] at same
    cases same
    exact .inl ⟨rfl, rfl⟩

private theorem Sound.advance (sound : Sound clock state)
    (stepped : state.advance clock = some next) : Sound clock next := by
  have known := sound.looked
  have stale := sound.stale
  unfold StaleRelease.advance at stepped
  split at stepped
  · cases stepped
  · next comparing =>
      rw [comparing] at known
      split at stepped
      · next predates =>
          cases stepped
          apply sound.enter
          · exact known
          · intro looked moment same compared
            cases same
            cases compared
            exact predates
      · cases stepped
        exact sound.enter nofun nofun
  · cases stepped
    exact sound.enter nofun nofun
  · next there =>
      cases stepped
      apply sound.enter
      · intro looked same
        cases same
        exact sound.look there
      · exact nofun
  · next rereading _ =>
      rw [rereading] at known stale
      split at stepped
      · cases stepped
        apply sound.enter
        · exact known
        · exact stale
      · cases stepped
        exact sound.enter nofun nofun
  · cases stepped
    exact ⟨nofun, nofun, nofun, nofun⟩
  · cases stepped
    exact sound.enter nofun nofun

/-- A write leaves a version that was not looked at. -/
private theorem Looked.write {raw : JsString} {looked : EventsLockFile}
    (known : Looked clock state looked) :
    Looked clock { state with
      lock := some ⟨raw, clock state.now, some state.now, state.nextVersion⟩
      nextVersion := state.nextVersion + 1 } looked where
  dated := known.dated
  earlier := Nat.lt_succ_of_lt known.earlier
  split file there := by
    cases there
    exact .inr ⟨Nat.ne_of_gt known.earlier, rfl⟩

private theorem Sound.step {event : Event} (sound : Sound clock state)
    (stepped : machine clock state event = some next) : Sound clock next := by
  cases event with
  | step => exact sound.advance stepped
  | pass later =>
      simp only [machine, Option.ite_none_right_eq_some] at stepped
      rcases stepped with ⟨_, equal⟩
      cases equal
      constructor
      · exact sound.dated
      · exact sound.counted
      · intro looked same
        have known := sound.looked looked same
        exact ⟨known.dated, known.earlier, known.split⟩
      · exact sound.stale
  | write raw =>
      cases stepped
      constructor
      · intro file written there same
        cases there
        cases same
        rfl
      · intro file there
        cases there
        exact Nat.lt_succ_self _
      · exact fun looked same => (sound.looked looked same).write
      · exact sound.stale
  | remove =>
      cases stepped
      constructor
      · exact nofun
      · exact nofun
      · intro looked same
        have known := sound.looked looked same
        exact ⟨known.dated, known.earlier, nofun⟩
      · exact sound.stale

private theorem Starts.sound (starts : Starts clock state) : Sound clock state := by
  have unread : state.phase.looked = none := by rw [starts.reading]; rfl
  constructor
  · exact starts.dated
  · exact starts.counted
  · intro looked same
    cases unread.symm.trans same
  · intro looked moment same
    cases unread.symm.trans same

/-- A release spares the locks of the current boot exactly as long as nobody has written the lock
since it looked at the time, and the clock had not been set ahead of a lock of this boot. -/
theorem sparesCurrent_iff_timely {start reached : StaleRelease} {events : List Event}
    (starts : Starts clock start) (ran : (machine clock).play start events = some reached) :
    ¬reached.UnlinksCurrent ↔ reached.Timely clock := by
  have sound : Sound clock reached := by
    apply Machine.invariant (Sound clock) starts.sound _ ran
    exact fun _ _ _ sound stepped => sound.step stepped
  constructor
  · intro spares looked moment file unlinking there
    have known := sound.looked looked (by rw [unlinking]; rfl)
    have older : file.written.isSome ≠ true := fun current =>
      spares ⟨looked, moment, file, unlinking, there, current⟩
    rcases known.split file there with ⟨same, written⟩ | ⟨_, current⟩
    · refine ⟨same, ?_⟩
      intro uptime during
      rw [written, during] at older
      exact absurd rfl older
    · exact absurd current older
  · rintro timely ⟨looked, moment, file, unlinking, there, current⟩
    have known := sound.looked looked (by rw [unlinking]; rfl)
    have stale := sound.stale looked moment (by rw [unlinking]; rfl) (by rw [unlinking]; rfl)
    rcases timely looked moment file unlinking there with ⟨same, calm⟩
    rcases known.split file there with ⟨_, written⟩ | ⟨different, _⟩
    · rw [written] at current
      rcases Option.isSome_iff_exists.mp current with ⟨uptime, during⟩
      rw [known.dated uptime during, predatesBoot_iff] at stale
      exact absurd (calm uptime during) (Int.not_le.mpr stale)
    · exact absurd same different

/-! ## A recycled pid -/

/-- A clock that runs on since the boot. -/
def evenClock (moment : Nat) : Int := 5000 + moment

def leftLock : StaleRelease := ⟨0, some ⟨"5", 0, none, 0⟩, .reading, 1⟩

private theorem leftLock_starts : Starts evenClock leftLock where
  reading := rfl
  dated file written there during := by
    cases there
    cases during
  counted file there := by
    cases there
    exact Nat.zero_lt_one

theorem quietRelease_spares :
    ∃ reached, (machine evenClock).play leftLock
        [.step, .pass 3, .step, .step, .pass 4, .step] = some reached ∧
      reached.phase = .unlinking ⟨"5", 0, none, 0⟩ 3 ∧ ¬reached.UnlinksCurrent := by
  have ran : (machine evenClock).play leftLock
      [.step, .pass 3, .step, .step, .pass 4, .step] = some _ := rfl
  refine ⟨_, ran, rfl, (sparesCurrent_iff_timely leftLock_starts ran).mpr ?_⟩
  intro looked moment file unlinking there
  cases unlinking
  cases there
  exact ⟨rfl, nofun⟩

/-- A client with the recycled pid writes the very bytes that were judged stale. -/
theorem recycledPid_unlinked :
    Starts evenClock leftLock ∧
      ∃ reached, (machine evenClock).play leftLock
          [.step, .step, .step, .pass 4000, .write "5", .step] = some reached ∧
        reached.UnlinksCurrent :=
  ⟨leftLock_starts, _, rfl, _, _, _, rfl, rfl, rfl⟩

end StaleRelease

end DriveWebdav
