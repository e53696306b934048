import DriveWebdav.Foundation.Machine
import DriveWebdav.Foundation.Text
import Mathlib.Logic.Function.Basic

/-! # Ownership of the session

Processes that acquire and release the session lock of one directory, a file
system step at a time. -/

namespace DriveWebdav

/-- The bytes of a lock file, told apart by what `JSON.parse` makes of them. A
recorded pid that is no positive whole number is none. -/
inductive LockContent
  | malformed (raw : JsString)
  | record (pid : Option Nat) (raw : JsString)
  deriving DecidableEq

/-- A file that was created and not yet written. -/
def LockContent.unwritten : LockContent := .malformed []

def LockContent.pid : LockContent → Option Nat
  | .malformed _ => none
  | .record pid _ => pid

/-- A file at the path of the lock. No step of a process depends on `inode`,
which tells the files at this path apart, but for a write to a file it holds
open, and none depends on `creator`, the process that created it. -/
structure LockFile where
  inode : Nat
  content : LockContent
  predatesBoot : Bool
  creator : Option Nat

inductive OwnershipPhase
  | idle
  | reading (attempt : Nat)
  | judging (attempt : Nat) (seen : LockFile)
  | rereading (attempt : Nat) (seen : LockFile)
  | unlinking (attempt : Nat) (seen : LockFile)
  | creating (attempt : Nat)
  | writing (inode : Nat)
  | holding
  | releasing
  | removing
  | refused (message : JsString)

inductive Life
  | unborn
  | alive
  | dead
  deriving DecidableEq

/-- `running` tells which pids are in use. -/
structure Ownership where
  lock : Option LockFile
  phase : Nat → OwnershipPhase
  life : Nat → Life
  running : Nat → Bool
  nextInode : Nat

namespace Ownership

def isProcessAlive (pid : Option Nat) (state : Ownership) : Bool :=
  match pid with
  | none => false
  | some pid => 0 < pid && state.running pid

def enter (process : Nat) (phase : OwnershipPhase) (state : Ownership) : Ownership :=
  { state with phase := Function.update state.phase process phase }

section

variable (dir : JsString) (pids : Nat → Nat)

def alreadyOwned (pid : Option Nat) (process : Nat) : JsString :=
  let who : JsString :=
    if pid = some (pids process) then "This process"
    else ("Another process (pid " : JsString) ++
      ((pid.map JsString.decimalNat).getD "NaN") ++ (")" : JsString)
  who ++ (" already owns the session in " : JsString) ++ dir ++
    (". Only one process may update these credentials." : JsString)

def couldNotAcquire : JsString := ("Could not acquire session lock in " : JsString) ++ dir

/-- `readFile`: a file that cannot be parsed is stale, whoever wrote it. -/
def readLock (attempt : Nat) (state : Ownership) : OwnershipPhase :=
  match state.lock with
  | none => .creating attempt
  | some file =>
      match file.content with
      | .malformed _ => .unlinking attempt file
      | .record _ _ => .judging attempt file

/-- `stat`, and whether the recorded process lives and has not merely taken over
the pid of one that did before the boot. -/
def judge (process attempt : Nat) (seen : LockFile) (state : Ownership) : OwnershipPhase :=
  let pid := seen.content.pid
  let recycledPid := (state.lock.map LockFile.predatesBoot).getD false
  if state.isProcessAlive pid && !recycledPid then .refused (alreadyOwned dir pids pid process)
  else .rereading attempt seen

def reread (attempt : Nat) (seen : LockFile) (state : Ownership) : OwnershipPhase :=
  if state.lock.map LockFile.content = some seen.content then .unlinking attempt seen
  else .creating attempt

/-- `writeFile` with the flag `wx`, as far as it creates the file. -/
def createLock (process attempt : Nat) (state : Ownership) : Ownership :=
  match state.lock with
  | some _ =>
      state.enter process
        (if attempt + 1 < 2 then .reading (attempt + 1) else .refused (couldNotAcquire dir))
  | none =>
      { state.enter process (.writing state.nextInode) with
        lock := some ⟨state.nextInode, .unwritten, false, some process⟩
        nextInode := state.nextInode + 1 }

/-- The bytes go to the file that was created, wherever it is by now. -/
def writeLock (process inode : Nat) (startedAt : JsString) (state : Ownership) : Ownership :=
  { state.enter process .holding with
    lock := state.lock.map fun file =>
      if file.inode = inode then
        { file with content := .record (some (pids process)) startedAt }
      else file }

def readOwn (process : Nat) (state : Ownership) : OwnershipPhase :=
  match state.lock.map LockFile.content with
  | some (.record (some pid) _) => if pid = pids process then .removing else .idle
  | _ => .idle

/-- The next file system step of a process. -/
def advance (process : Nat) (startedAt : JsString) (state : Ownership) : Option Ownership :=
  match state.phase process with
  | .reading attempt => some (state.enter process (state.readLock attempt))
  | .judging attempt seen =>
      some (state.enter process (state.judge dir pids process attempt seen))
  | .rereading attempt seen => some (state.enter process (state.reread attempt seen))
  | .unlinking attempt _ =>
      some { state.enter process (.creating attempt) with lock := none }
  | .creating attempt => some (state.createLock dir process attempt)
  | .writing inode => some (state.writeLock pids process inode startedAt)
  | .releasing => some (state.enter process (state.readOwn pids process))
  | .removing => some { state.enter process .idle with lock := none }
  | _ => none

/-- What can happen to the processes: one starts or ends, calls
`acquireSessionOwnership` or the function that it returned, or takes its next
step. -/
inductive Event
  | spawn (process : Nat)
  | exit (process : Nat)
  | acquire (process : Nat)
  | release (process : Nat)
  | step (process : Nat) (startedAt : JsString)

/-- Live processes have distinct pids, and only they act. -/
def machine : Machine Ownership Event
  | state, .spawn process =>
      if state.life process = .unborn ∧ 0 < pids process ∧ state.running (pids process) = false then
        some { state.enter process .idle with
          life := Function.update state.life process .alive
          running := Function.update state.running (pids process) true }
      else none
  | state, .exit process =>
      if state.life process = .alive then
        some { state with
          life := Function.update state.life process .dead
          running := Function.update state.running (pids process) false }
      else none
  | state, .acquire process =>
      match state.life process, state.phase process with
      | .alive, .idle | .alive, .refused _ => some (state.enter process (.reading 0))
      | _, _ => none
  | state, .release process =>
      match state.life process, state.phase process with
      | .alive, .holding => some (state.enter process .releasing)
      | _, _ => none
  | state, .step process startedAt =>
      match state.life process with
      | .alive => state.advance dir pids process startedAt
      | _ => none

end

end Ownership

end DriveWebdav
