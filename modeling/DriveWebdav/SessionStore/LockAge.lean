import DriveWebdav.Foundation.Interference
import DriveWebdav.SessionStore.EventsLock
import DriveWebdav.SessionStore.Ownership

/-! # The age of a lock

A lock that is older than the boot is stale, whatever its pid now names. The age is told by the
wall clock, which may be set while the system runs. -/

namespace DriveWebdav

def SESSION_LOCK_FILENAME : JsString := "auth-session.lock"

def CLI_EVENTS_LOCK_FILENAME : JsString := "events.lock"

structure DatedLock where
  content : LockContent
  mtimeMs : Int

/-- One directory and the processes around it, so many milliseconds after the boot. -/
structure LockSystem where
  now : Nat
  files : JsString → Option DatedLock
  running : Nat → Bool

/-- What the checks of a lock ask of the system. `bootMs` is
`Date.now() - os.uptime() * 1000`. -/
inductive LockCommand
  | readFile (name : JsString)
  | stat (name : JsString)
  | kill (pid : Nat)
  | bootMs
  | unlink (name : JsString)
  | writeNew (name : JsString) (pid : Nat)

/-- Of `stat` only the time is used. -/
abbrev LockCommand.Answer : LockCommand → Type
  | .readFile _ => LockContent
  | .stat _ => Int
  | .kill _ => Bool
  | .bootMs => Int
  | .unlink _ => Unit
  | .writeNew _ _ => Unit

inductive LockFailure
  | file (code : JsString)
  | unparsable
  | ownership (message : JsString)
  deriving DecidableEq

abbrev LockOperation := Program Unit LockCommand LockCommand.Answer LockFailure

namespace LockChecks

/-! ## The checks -/

def readFile (name : JsString) : LockOperation LockContent :=
  Program.request (LockCommand.readFile name)

def stat (name : JsString) : LockOperation Int := Program.request (LockCommand.stat name)

def unlink (name : JsString) : LockOperation Unit := Program.request (LockCommand.unlink name)

/-- `.catch(() => null)` -/
def orNull {α : Type} (program : LockOperation α) : LockOperation (Option α) :=
  tryCatch (do
    let value ← program
    pure (some value))
  fun _ => pure none

def parsePid : LockContent → LockOperation (Option Nat)
  | .malformed _ => throw .unparsable
  | .record pid _ => pure pid

def isProcessAlive : Option Nat → LockOperation Bool
  | none => pure false
  | some pid => if 0 < pid then Program.request (LockCommand.kill pid) else pure false

def predatesThisBoot (mtimeMs : Int) : LockOperation Bool := do
  let bootMs ← (Program.request LockCommand.bootMs : LockOperation Int)
  pure (predatesBoot bootMs mtimeMs)

/-- `st !== null && predatesBoot(st.mtimeMs)` -/
def isRecycled (name : JsString) : LockOperation Bool := do
  match ← orNull (stat name) with
  | none => pure false
  | some mtimeMs => predatesThisBoot mtimeMs

/-- Unlink the file if it still holds what was read of it. -/
def unlinkIfSame (name : JsString) (raw : LockContent) : LockOperation Bool := do
  let stillSame ← orNull (readFile name)
  if stillSame ≠ some raw then pure false
  else do
    let unlinked ← orNull (unlink name)
    pure unlinked.isSome

section

variable (self : Nat)

def findActiveProtonClient : LockOperation (Option Nat) :=
  tryCatch (do
    let raw ← readFile CLI_EVENTS_LOCK_FILENAME
    let pid ← parsePid raw
    let alive ← isProcessAlive pid
    if !alive || pid = some self then pure none
    else do
      let stale ← isRecycled CLI_EVENTS_LOCK_FILENAME
      if stale then pure none else pure pid)
  fun _ => pure none

def releaseStaleEventsLock : LockOperation Bool := do
  let found ← orNull (do
    let raw ← readFile CLI_EVENTS_LOCK_FILENAME
    let mtimeMs ← stat CLI_EVENTS_LOCK_FILENAME
    pure (raw, mtimeMs))
  match found with
  | none => pure false
  | some (raw, mtimeMs) => do
      let stale ← predatesThisBoot mtimeMs
      if !stale then pure false else unlinkIfSame CLI_EVENTS_LOCK_FILENAME raw

variable (dir : JsString)

/-- What the owner that a session lock names means for this attempt. -/
def judgeOwner (raw : LockContent) : LockOperation Unit := do
  let pid ← parsePid raw
  let recycledPid ← isRecycled SESSION_LOCK_FILENAME
  let alive ← isProcessAlive pid
  if alive && !recycledPid then throw (.ownership (Ownership.alreadyOwned dir id pid self))
  else do
    let _ ← unlinkIfSame SESSION_LOCK_FILENAME raw
    pure ()

/-- A lock that cannot be parsed is stale. -/
def clearStaleLock : LockOperation Unit :=
  tryCatch (do
    let raw ← readFile SESSION_LOCK_FILENAME
    judgeOwner self dir raw)
  fun
    | .ownership message => throw (.ownership message)
    | error =>
        if error ≠ .file "ENOENT" then do
          let _ ← orNull (unlink SESSION_LOCK_FILENAME)
          pure ()
        else pure ()

/-- Whether the lock could be created. -/
def createOwnLock : LockOperation Bool :=
  tryCatch (do
    (Program.request (LockCommand.writeNew SESSION_LOCK_FILENAME self) : LockOperation Unit)
    pure true)
  fun error => if error ≠ .file "EEXIST" then throw error else pure false

def acquireAttempts : Nat → LockOperation Unit
  | 0 => throw (.ownership (Ownership.couldNotAcquire dir))
  | left + 1 => do
      clearStaleLock self dir
      let created ← createOwnLock self
      if created then pure () else acquireAttempts left

def acquireSessionOwnership : LockOperation Unit := acquireAttempts self dir 2

end

end LockChecks

/-! ## The system -/

/-- What the system answers when the wall clock, so many milliseconds after the boot, shows
`clock`. `lockText` is the text that is written then. -/
def LockSystem.perform (clock : Nat → Int) (lockText : Nat → Int → JsString)
    (system : LockSystem) : (command : LockCommand) →
      Except LockFailure command.Answer × LockSystem
  | .readFile name =>
      match system.files name with
      | none => (.error (.file "ENOENT"), system)
      | some lock => (.ok lock.content, system)
  | .stat name =>
      match system.files name with
      | none => (.error (.file "ENOENT"), system)
      | some lock => (.ok lock.mtimeMs, system)
  | .kill pid => (.ok (system.running pid), system)
  | .bootMs => (.ok (clock system.now - (system.now : Int) : Int), system)
  | .unlink name =>
      match system.files name with
      | none => (.error (.file "ENOENT"), system)
      | some _ => (.ok (), { system with files := Function.update system.files name none })
  | .writeNew name pid =>
      match system.files name with
      | some _ => (.error (.file "EEXIST"), system)
      | none =>
          (.ok (), { system with
            files := Function.update system.files name (some
              ⟨.record (some pid) (lockText pid (clock system.now)), clock system.now⟩) })

/-! ## A lock whose holder lives -/

/-- A process has written the lock so many milliseconds after the boot, and lives. -/
structure Held (clock : Nat → Int) (name raw : JsString) (pid written : Nat)
    (system : LockSystem) : Prop where
  inPlace : system.files name = some ⟨.record (some pid) raw, clock written⟩
  running : system.running pid = true

section

variable (clock : Nat → Int) (lockText : Nat → Int → JsString)

/-- Time passes and anyone acts, but for those who would touch the lock or its holder. The lock is
not unlinked. -/
def besideHolder (name raw : JsString) (pid written : Nat) :
    Rules Unit LockCommand LockCommand.Answer LockFailure LockSystem where
  service system command answer after := system.perform clock lockText command = (answer, after)
  invariant _ := True
  interference before after := before.remote.now ≤ after.remote.now ∧
    (Held clock name raw pid written before.remote → Held clock name raw pid written after.remote)
  guarantee _ _ := True
  permits world command :=
    command = .unlink name → ¬Held clock name raw pid written world.remote
  interference_refl _ := ⟨Nat.le_refl _, id⟩
  interference_trans _ _ _ first second :=
    ⟨Nat.le_trans first.1 second.1, fun held => second.2 (first.2 held)⟩

/-- The checks respect a lock from a moment on: while its holder lives, `acquireSessionOwnership`
refuses, `findActiveProtonClient` returns the holder and `releaseStaleEventsLock` does nothing. -/
structure Respects (raw : JsString) (pid written caller : Nat) (dir : JsString) (since : Nat) :
    Prop where
  refuses : ∀ system, Held clock SESSION_LOCK_FILENAME raw pid written system →
    since ≤ system.now →
      (besideHolder clock lockText SESSION_LOCK_FILENAME raw pid written).Ensures
        (LockChecks.acquireSessionOwnership caller dir)
        (fun outcome final =>
          outcome = .error (.ownership (Ownership.alreadyOwned dir id (some pid) caller)) ∧
            Held clock SESSION_LOCK_FILENAME raw pid written final.remote)
        ⟨(), system⟩
  finds : ∀ system, Held clock CLI_EVENTS_LOCK_FILENAME raw pid written system →
    since ≤ system.now →
      (besideHolder clock lockText CLI_EVENTS_LOCK_FILENAME raw pid written).Ensures
        (LockChecks.findActiveProtonClient caller)
        (fun outcome final => outcome = .ok (some pid) ∧
          Held clock CLI_EVENTS_LOCK_FILENAME raw pid written final.remote)
        ⟨(), system⟩
  leaves : ∀ system, Held clock CLI_EVENTS_LOCK_FILENAME raw pid written system →
    since ≤ system.now →
      (besideHolder clock lockText CLI_EVENTS_LOCK_FILENAME raw pid written).Ensures
        LockChecks.releaseStaleEventsLock
        (fun outcome final => outcome = .ok false ∧
          Held clock CLI_EVENTS_LOCK_FILENAME raw pid written final.remote)
        ⟨(), system⟩

end

namespace LockChecks

section

variable {clock : Nat → Int} {lockText : Nat → Int → JsString} {name raw dir : JsString}
  {pid written since self : Nat} {world : World Unit LockSystem}

/-! ## While the clock is not set too far ahead -/

/-- The lock is held, and it is late enough. -/
structure Meanwhile (clock : Nat → Int) (name raw : JsString) (pid written since : Nat)
    (world : World Unit LockSystem) : Prop where
  held : Held clock name raw pid written world.remote
  late : since ≤ world.remote.now

/-- The program gives one outcome, whatever happens meanwhile. -/
abbrev Gives {α : Type} (clock : Nat → Int) (lockText : Nat → Int → JsString)
    (name raw : JsString) (pid written since : Nat) (program : LockOperation α)
    (expected : Except LockFailure α) (world : World Unit LockSystem) : Prop :=
  (besideHolder clock lockText name raw pid written).Ensures program
    (fun outcome reached => outcome = expected ∧
      Meanwhile clock name raw pid written since reached) world

/-- A command that looks at the system and leaves it. -/
theorem ensures_look (command : LockCommand)
    {post : Except LockFailure command.Answer → World Unit LockSystem → Prop}
    (here : Meanwhile clock name raw pid written since world)
    (harmless : command ≠ .unlink name)
    (answered : ∀ now, Meanwhile clock name raw pid written since now →
      ∃ answer, now.remote.perform clock lockText command = (answer, now.remote) ∧
        post answer now) :
    (besideHolder clock lockText name raw pid written).Ensures
      (Program.request command : LockOperation command.Answer) post world := by
  rw [Rules.ensures_request]
  rintro now _ ⟨later, keeps⟩
  refine ⟨fun same => absurd same harmless, ?_⟩
  intro answer remote performed
  have there : Meanwhile clock name raw pid written since now :=
    ⟨keeps here.held, Nat.le_trans here.late later⟩
  rcases answered now there with ⟨expected, looked, holds⟩
  cases looked.symm.trans performed
  exact holds

theorem ensures_readFile (here : Meanwhile clock name raw pid written since world) :
    Gives clock lockText name raw pid written since
      (readFile name) (.ok (.record (some pid) raw)) world := by
  apply ensures_look (.readFile name) here nofun
  intro now there
  refine ⟨_, ?_, rfl, there⟩
  rw [LockSystem.perform, there.held.inPlace]

theorem ensures_stat (here : Meanwhile clock name raw pid written since world) :
    Gives clock lockText name raw pid written since
      (stat name) (.ok (clock written)) world := by
  apply ensures_look (.stat name) here nofun
  intro now there
  refine ⟨_, ?_, rfl, there⟩
  rw [LockSystem.perform, there.held.inPlace]

theorem isProcessAlive_of_positive (positive : 0 < pid) :
    isProcessAlive (some pid) = Program.request (LockCommand.kill pid) := if_pos positive

theorem ensures_isProcessAlive (positive : 0 < pid)
    (here : Meanwhile clock name raw pid written since world) :
    Gives clock lockText name raw pid written since
      (isProcessAlive (some pid)) (.ok true) world := by
  rw [isProcessAlive_of_positive positive]
  apply ensures_look (.kill pid) here nofun
  intro now there
  refine ⟨_, ?_, rfl, there⟩
  rw [LockSystem.perform, there.held.running]

theorem ensures_predatesThisBoot (here : Meanwhile clock name raw pid written since world) :
    (besideHolder clock lockText name raw pid written).Ensures
      (predatesThisBoot (clock written))
      (fun outcome reached => (∃ moment, since ≤ moment ∧
          outcome = .ok (predatesBoot (clock moment - moment) (clock written))) ∧
        Meanwhile clock name raw pid written since reached) world := by
  have looked := @ensures_look clock lockText name raw pid written since world .bootMs
    (fun outcome reached => (∃ moment : Nat, since ≤ moment ∧
        outcome = .ok (clock moment - moment : Int)) ∧
      Meanwhile clock name raw pid written since reached)
    here nofun fun now there => ⟨_, rfl, ⟨_, there.late, rfl⟩, there⟩
  apply looked.bind
  · rintro error reached ⟨⟨moment, _, equal⟩, _⟩
    cases equal
  · rintro bootMs reached ⟨⟨moment, late, equal⟩, there⟩
    cases equal
    exact ⟨⟨moment, late, rfl⟩, there⟩

/-- Continue from a program that gives one value. -/
theorem ensures_bind_ok {α β : Type} {program : LockOperation α} {next : α → LockOperation β}
    {value : α} {post : Except LockFailure β → World Unit LockSystem → Prop}
    (first : Gives clock lockText name raw pid written since
      program (.ok value) world)
    (rest : ∀ reached, Meanwhile clock name raw pid written since reached →
      (besideHolder clock lockText name raw pid written).Ensures (next value) post reached) :
    (besideHolder clock lockText name raw pid written).Ensures (program >>= next) post world := by
  apply first.bind
  · rintro error reached ⟨equal, _⟩
    cases equal
  · rintro found reached ⟨equal, there⟩
    cases equal
    exact rest reached there

/-- An outcome that is a value is not null. -/
theorem ensures_orNull {α : Type} {program : LockOperation α} {value : α}
    (ensures : Gives clock lockText name raw pid written since
      program (.ok value) world) :
    Gives clock lockText name raw pid written since
      (orNull program) (.ok (some value)) world := by
  have found : Gives clock lockText name raw pid written since
      (program >>= fun value => pure (some value)) (.ok (some value)) world :=
    ensures_bind_ok ensures fun _ there => ⟨rfl, there⟩
  apply found.tryCatch
  · exact fun _ _ holds => holds
  · rintro error reached ⟨equal, _⟩
    cases equal

/-- The clock is at no moment from then on so far ahead that the lock predates the boot. -/
def Calm (clock : Nat → Int) (written since : Nat) : Prop :=
  ∀ moment, since ≤ moment → predatesBoot (clock moment - moment) (clock written) = false

theorem ensures_isRecycled (calm : Calm clock written since)
    (here : Meanwhile clock name raw pid written since world) :
    Gives clock lockText name raw pid written since
      (isRecycled name) (.ok false) world := by
  apply ensures_bind_ok (ensures_orNull (ensures_stat here))
  intro reached there
  apply (ensures_predatesThisBoot there).mono
  rintro outcome final ⟨⟨moment, late, equal⟩, ended⟩
  rw [calm moment late] at equal
  exact ⟨equal, ended⟩

theorem ensures_findActiveProtonClient (calm : Calm clock written since) (positive : 0 < pid)
    (other : pid ≠ self)
    (here : Meanwhile clock CLI_EVENTS_LOCK_FILENAME raw pid written since world) :
    Gives clock lockText CLI_EVENTS_LOCK_FILENAME raw pid written since
      (findActiveProtonClient self) (.ok (some pid)) world := by
  apply Rules.Ensures.tryCatch _ (fun _ _ holds => holds)
  · rintro error reached ⟨equal, _⟩
    cases equal
  apply ensures_bind_ok (ensures_readFile here)
  intro reached there
  apply ensures_bind_ok (ensures_isProcessAlive positive there)
  intro reached there
  rw [if_neg (by simpa using other)]
  apply ensures_bind_ok (ensures_isRecycled calm there)
  intro reached there
  exact ⟨rfl, there⟩

theorem ensures_releaseStaleEventsLock (calm : Calm clock written since)
    (here : Meanwhile clock CLI_EVENTS_LOCK_FILENAME raw pid written since world) :
    Gives clock lockText CLI_EVENTS_LOCK_FILENAME raw pid written since
      releaseStaleEventsLock (.ok false) world := by
  have found : Gives clock lockText CLI_EVENTS_LOCK_FILENAME raw pid written since
      (readFile CLI_EVENTS_LOCK_FILENAME >>= fun content =>
        stat CLI_EVENTS_LOCK_FILENAME >>= fun mtimeMs => pure (content, mtimeMs))
      (.ok (.record (some pid) raw, clock written)) world := by
    apply ensures_bind_ok (ensures_readFile here)
    intro reached there
    apply ensures_bind_ok (ensures_stat there)
    intro reached there
    exact ⟨rfl, there⟩
  apply ensures_bind_ok (ensures_orNull found)
  intro reached there
  apply (ensures_predatesThisBoot there).bind
  · rintro error reached ⟨⟨moment, _, equal⟩, _⟩
    cases equal
  rintro stale reached ⟨⟨moment, late, equal⟩, there⟩
  rw [calm moment late] at equal
  cases equal
  exact ⟨rfl, there⟩

theorem ensures_acquireSessionOwnership (calm : Calm clock written since) (positive : 0 < pid)
    (here : Meanwhile clock SESSION_LOCK_FILENAME raw pid written since world) :
    Gives clock lockText SESSION_LOCK_FILENAME raw pid written since
      (acquireSessionOwnership self dir)
      (.error (.ownership (Ownership.alreadyOwned dir id (some pid) self))) world := by
  have refused : Gives clock lockText SESSION_LOCK_FILENAME raw pid written since
      (readFile SESSION_LOCK_FILENAME >>= judgeOwner self dir)
      (.error (.ownership (Ownership.alreadyOwned dir id (some pid) self))) world := by
    apply ensures_bind_ok (ensures_readFile here)
    intro reached there
    apply ensures_bind_ok (ensures_isRecycled calm there)
    intro reached there
    apply ensures_bind_ok (ensures_isProcessAlive positive there)
    intro reached there
    exact ⟨rfl, there⟩
  have cleared : Gives clock lockText SESSION_LOCK_FILENAME raw pid written since
      (clearStaleLock self dir)
      (.error (.ownership (Ownership.alreadyOwned dir id (some pid) self))) world := by
    apply refused.tryCatch
    · rintro value reached ⟨equal, _⟩
      cases equal
    · rintro error reached ⟨equal, there⟩
      cases equal
      exact ⟨rfl, there⟩
  apply cleared.bind
  · exact fun error reached holds => holds
  · rintro value reached ⟨equal, _⟩
    cases equal

/-! ## Once the clock has been set too far ahead -/

/-- The system answers at once, and nobody else acts. -/
def undisturbed (clock : Nat → Int) (lockText : Nat → Int → JsString)
    (world : World Unit LockSystem) (command : LockCommand) :
    Except LockFailure command.Answer × World Unit LockSystem :=
  ((world.remote.perform clock lockText command).1,
    ⟨world.memory, (world.remote.perform clock lockText command).2⟩)

variable {system : LockSystem}

theorem outcome_of_ensures {α : Type} {program : LockOperation α}
    {post : Except LockFailure α → World Unit LockSystem → Prop}
    (ensures : (besideHolder clock lockText name raw pid written).Ensures program post world) :
    post (Program.run (undisturbed clock lockText) program world).1
      (Program.run (undisturbed clock lockText) program world).2 := by
  apply ensures.of_runs fun _ => trivial
  exact Program.runs_run _ (fun _ _ => rfl) (fun _ _ => rfl) _ _

theorem run_readFile (held : Held clock name raw pid written system) :
    Program.run (undisturbed clock lockText) (readFile name) ⟨(), system⟩ =
      (.ok (.record (some pid) raw), ⟨(), system⟩) := by
  rw [readFile, Program.run_request, undisturbed, LockSystem.perform, held.inPlace]

theorem run_stat (held : Held clock name raw pid written system) :
    Program.run (undisturbed clock lockText) (stat name) ⟨(), system⟩ =
      (.ok (clock written), ⟨(), system⟩) := by
  rw [stat, Program.run_request, undisturbed, LockSystem.perform, held.inPlace]

theorem run_isProcessAlive (positive : 0 < pid)
    (held : Held clock name raw pid written system) :
    Program.run (undisturbed clock lockText) (isProcessAlive (some pid)) ⟨(), system⟩ =
      (.ok true, ⟨(), system⟩) := by
  rw [isProcessAlive_of_positive positive, Program.run_request, undisturbed,
    LockSystem.perform, held.running]

theorem run_orNull {α : Type} {program : LockOperation α} {value : α}
    {reached : World Unit LockSystem}
    (ran : Program.run (undisturbed clock lockText) program world = (.ok value, reached)) :
    Program.run (undisturbed clock lockText) (orNull program) world =
      (.ok (some value), reached) := by
  rw [orNull, Program.run_tryCatch, Program.run_bind, ran]
  rfl

/-- A lock that predates the boot at this moment is taken to be one that nobody holds. -/
theorem run_predatesThisBoot
    (stale : predatesBoot (clock system.now - system.now) (clock written) = true) :
    Program.run (undisturbed clock lockText) (predatesThisBoot (clock written)) ⟨(), system⟩ =
      (.ok true, ⟨(), system⟩) := by
  change (Except.ok (predatesBoot (clock system.now - system.now) (clock written)), _) = _
  rw [stale]
  rfl

theorem run_isRecycled (held : Held clock name raw pid written system)
    (stale : predatesBoot (clock system.now - system.now) (clock written) = true) :
    Program.run (undisturbed clock lockText) (isRecycled name) ⟨(), system⟩ =
      (.ok true, ⟨(), system⟩) := by
  rw [isRecycled, Program.run_bind, run_orNull (run_stat held)]
  exact run_predatesThisBoot stale

/-- The directory without the lock. -/
def unlocked (name : JsString) (system : LockSystem) : LockSystem :=
  { system with files := Function.update system.files name none }

theorem run_unlinkIfSame (held : Held clock name raw pid written system) :
    Program.run (undisturbed clock lockText) (unlinkIfSame name (.record (some pid) raw))
      ⟨(), system⟩ = (.ok true, ⟨(), unlocked name system⟩) := by
  have unlinked : Program.run (undisturbed clock lockText) (unlink name) ⟨(), system⟩ =
      (.ok (), ⟨(), unlocked name system⟩) := by
    rw [unlink, Program.run_request, undisturbed, LockSystem.perform, held.inPlace]
    rfl
  rw [unlinkIfSame, Program.run_bind, run_orNull (run_readFile held)]
  dsimp only
  rw [if_neg (fun different => different rfl), Program.run_bind, run_orNull unlinked]
  rfl

theorem run_findActiveProtonClient (positive : 0 < pid) (other : pid ≠ self)
    (held : Held clock CLI_EVENTS_LOCK_FILENAME raw pid written system)
    (stale : predatesBoot (clock system.now - system.now) (clock written) = true) :
    Program.run (undisturbed clock lockText) (findActiveProtonClient self) ⟨(), system⟩ =
      (.ok none, ⟨(), system⟩) := by
  have different : ¬((!true || decide (some pid = some self)) = true) := by simpa using other
  rw [findActiveProtonClient, Program.run_tryCatch, Program.run_bind, run_readFile held]
  dsimp only [parsePid]
  rw [Program.run_bind, Program.run_pure]
  dsimp only
  rw [Program.run_bind, run_isProcessAlive positive held]
  dsimp only
  rw [if_neg different, Program.run_bind, run_isRecycled held stale]
  rfl

theorem run_releaseStaleEventsLock
    (held : Held clock CLI_EVENTS_LOCK_FILENAME raw pid written system)
    (stale : predatesBoot (clock system.now - system.now) (clock written) = true) :
    Program.run (undisturbed clock lockText) releaseStaleEventsLock ⟨(), system⟩ =
      (.ok true, ⟨(), unlocked CLI_EVENTS_LOCK_FILENAME system⟩) := by
  have found : Program.run (undisturbed clock lockText)
      (readFile CLI_EVENTS_LOCK_FILENAME >>= fun content =>
        stat CLI_EVENTS_LOCK_FILENAME >>= fun mtimeMs => pure (content, mtimeMs)) ⟨(), system⟩ =
      (.ok (.record (some pid) raw, clock written), ⟨(), system⟩) := by
    rw [Program.run_bind, run_readFile held]
    dsimp only
    rw [Program.run_bind, run_stat held]
    rfl
  rw [releaseStaleEventsLock, Program.run_bind, run_orNull found]
  dsimp only
  rw [Program.run_bind, run_predatesThisBoot stale]
  exact run_unlinkIfSame held

theorem run_clearStaleLock (positive : 0 < pid)
    (held : Held clock SESSION_LOCK_FILENAME raw pid written system)
    (stale : predatesBoot (clock system.now - system.now) (clock written) = true) :
    Program.run (undisturbed clock lockText) (clearStaleLock self dir) ⟨(), system⟩ =
      (.ok (), ⟨(), unlocked SESSION_LOCK_FILENAME system⟩) := by
  have judged : Program.run (undisturbed clock lockText)
      (judgeOwner self dir (.record (some pid) raw)) ⟨(), system⟩ =
        (.ok (), ⟨(), unlocked SESSION_LOCK_FILENAME system⟩) := by
    rw [judgeOwner, parsePid, Program.run_bind, Program.run_pure]
    dsimp only
    rw [Program.run_bind, run_isRecycled held stale]
    dsimp only
    rw [Program.run_bind, run_isProcessAlive positive held]
    dsimp only
    rw [if_neg (by decide), Program.run_bind, run_unlinkIfSame held]
    rfl
  rw [clearStaleLock, Program.run_tryCatch, Program.run_bind, run_readFile held]
  dsimp only
  rw [judged]

/-- The lock of a process that lives is taken over. -/
theorem run_acquireSessionOwnership (positive : 0 < pid)
    (held : Held clock SESSION_LOCK_FILENAME raw pid written system)
    (stale : predatesBoot (clock system.now - system.now) (clock written) = true) :
    (Program.run (undisturbed clock lockText) (acquireSessionOwnership self dir)
      ⟨(), system⟩).1 = .ok () := by
  have free : (unlocked SESSION_LOCK_FILENAME system).files SESSION_LOCK_FILENAME = none := by
    simp [unlocked]
  rw [acquireSessionOwnership, acquireAttempts, Program.run_bind,
    run_clearStaleLock positive held stale]
  dsimp only
  rw [Program.run_bind, createOwnLock, Program.run_tryCatch, Program.run_bind,
    Program.run_request, undisturbed, LockSystem.perform]
  dsimp only
  rw [free]
  rfl

end

end LockChecks

section

variable {clock : Nat → Int} {lockText : Nat → Int → JsString} {raw dir : JsString}
  {pid written since self : Nat}

/-- A system in which a lock is held, at some moment. -/
def heldAt (clock : Nat → Int) (name raw : JsString) (pid written now : Nat) : LockSystem where
  now := now
  files other := if other = name then some ⟨.record (some pid) raw, clock written⟩ else none
  running other := other = pid

theorem held_heldAt (name : JsString) (now : Nat) :
    Held clock name raw pid written (heldAt clock name raw pid written now) :=
  ⟨if_pos rfl, decide_eq_true rfl⟩

/-- At a moment at which the clock is too far ahead, all three checks overrun the lock. -/
theorem overruns_of_ahead {moment : Nat} (positive : 0 < pid) (other : pid ≠ self)
    (ahead : written + 1000 < setAhead clock written moment) :
    let session := heldAt clock SESSION_LOCK_FILENAME raw pid written moment
    let events := heldAt clock CLI_EVENTS_LOCK_FILENAME raw pid written moment
    let answer := LockChecks.undisturbed clock lockText
    (Program.run answer (LockChecks.acquireSessionOwnership self dir) ⟨(), session⟩).1 = .ok () ∧
      (Program.run answer (LockChecks.findActiveProtonClient self) ⟨(), events⟩).1 = .ok none ∧
      (Program.run answer LockChecks.releaseStaleEventsLock ⟨(), events⟩).1 = .ok true := by
  intro session events answer
  have stale := predatesBoot_iff.mpr ahead
  have held := @held_heldAt clock raw pid written CLI_EVENTS_LOCK_FILENAME moment
  refine ⟨?_, ?_, ?_⟩
  · exact LockChecks.run_acquireSessionOwnership positive (held_heldAt _ _) stale
  · exact congrArg Prod.fst (LockChecks.run_findActiveProtonClient positive other held stale)
  · exact congrArg Prod.fst (LockChecks.run_releaseStaleEventsLock held stale)

/-- The checks respect a lock of the current boot from a moment on exactly if at no moment after it
the wall clock has been set ahead, since the lock was written, by more than a second and the uptime
at which it was written. -/
theorem respects_iff (positive : 0 < pid) (other : pid ≠ self) :
    Respects clock lockText raw pid written self dir since ↔
      ∀ moment, since ≤ moment → setAhead clock written moment ≤ written + 1000 := by
  constructor
  · intro respects moment late
    by_contra ahead
    have overruns := @overruns_of_ahead clock lockText raw dir pid written self moment positive
      other (Int.not_le.mp ahead)
    have left := LockChecks.outcome_of_ensures (respects.leaves _ (held_heldAt _ _) late)
    cases overruns.2.2.symm.trans left.1
  · intro within
    have calm : LockChecks.Calm clock written since := by
      intro moment late
      rw [← Bool.not_eq_true, predatesBoot_iff]
      exact Int.not_lt.mpr (within moment late)
    constructor
    · intro system held late
      apply (LockChecks.ensures_acquireSessionOwnership calm positive ⟨held, late⟩).mono
      exact fun _ _ holds => ⟨holds.1, holds.2.held⟩
    · intro system held late
      apply (LockChecks.ensures_findActiveProtonClient calm positive other ⟨held, late⟩).mono
      exact fun _ _ holds => ⟨holds.1, holds.2.held⟩
    · intro system held late
      apply (LockChecks.ensures_releaseStaleEventsLock calm ⟨held, late⟩).mono
      exact fun _ _ holds => ⟨holds.1, holds.2.held⟩

end

/-! ## A system that boots without the time -/

/-- The clock starts at the epoch, and is set a minute after the boot. -/
def lateClock (moment : Nat) : Int :=
  if moment < 60000 then moment else 1760000000000 + moment

def lockOfSeven : JsString := "\x7b\"pid\":7\x7d"

/-- While the clock runs on, the checks respect a lock. -/
theorem steadyClock_respects :
    Respects (fun moment => 1760000000000 + moment) (fun _ _ => []) lockOfSeven 7 30000 9 "/state"
      30000 := by
  apply (respects_iff (by decide) (by decide)).mpr
  intro moment _
  rw [setAhead]
  omega

/-- A session lock that is written half a minute after the boot is taken from its living holder
after the clock has been set. -/
theorem lateClock_overruns :
    Held lateClock SESSION_LOCK_FILENAME lockOfSeven 7 30000
        (heldAt lateClock SESSION_LOCK_FILENAME lockOfSeven 7 30000 70000) ∧
      (Program.run (LockChecks.undisturbed lateClock fun _ _ => [])
        (LockChecks.acquireSessionOwnership 9 "/state")
        ⟨(), heldAt lateClock SESSION_LOCK_FILENAME lockOfSeven 7 30000 70000⟩).1 = .ok () ∧
      ¬Respects lateClock (fun _ _ => []) lockOfSeven 7 30000 9 "/state" 30000 := by
  have held := @held_heldAt lateClock lockOfSeven 7 30000 SESSION_LOCK_FILENAME 70000
  have taken := (@overruns_of_ahead lateClock (fun _ _ => []) lockOfSeven "/state" 7 30000 9 70000
    (by decide) (by decide) (by decide)).1
  refine ⟨held, taken, ?_⟩
  intro respects
  have refused := LockChecks.outcome_of_ensures (respects.refuses _ held (by decide))
  cases taken.symm.trans refused.1

end DriveWebdav
