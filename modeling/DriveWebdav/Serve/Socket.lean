import DriveWebdav.Foundation.Machine
import Mathlib.Logic.Function.Basic

/-! # The listening socket

Service processes that are configured with one socket path: how each comes to
listen on it, notices that it is gone, and leaves. -/

namespace DriveWebdav

/-- What is at the path. No step depends on `binder`, the process that bound it. -/
structure SocketEntry where
  inode : Nat
  isSocket : Bool
  binder : Option Nat

/-- `failing` hands the session lock back after a failed start, for a process that
may have bound the socket. A process that has exited is `gone`. -/
inductive ServePhase
  | down
  | checking
  | inspecting
  | unlinking
  | binding
  | securing
  | recording
  | serving (boundInode : Nat)
  | draining
  | closing
  | leaving
  | failing (bound : Bool)
  | gone
  deriving DecidableEq

namespace ServePhase

def isAlive : ServePhase → Bool
  | .down | .gone => false
  | _ => true

/-- The process has bound the socket, which may have been removed since. -/
def isBound : ServePhase → Bool
  | .securing | .recording | .serving _ | .draining | .closing | .leaving | .failing true => true
  | _ => false

/-- The process holds the session lock of its data directory. -/
def isLocked : ServePhase → Bool
  | .down | .leaving | .gone => false
  | _ => true

end ServePhase

/-- `locks` tells which process took the session lock of a data directory. -/
structure SocketWorld where
  path : Option SocketEntry
  phase : Nat → ServePhase
  locks : Nat → Option Nat
  nextInode : Nat

namespace SocketWorld

def enter (process : Nat) (phase : ServePhase) (world : SocketWorld) : SocketWorld :=
  { world with phase := Function.update world.phase process phase }

/-- Whether the lock of a data directory can be taken: it is free, or its holder has
exited. -/
def isFree (dir : Nat) (world : SocketWorld) : Bool :=
  match world.locks dir with
  | none => true
  | some holder => world.phase holder = .gone

section

variable (dirs : Nat → Nat)

/-- The session lock is handed back. -/
def release (process : Nat) (world : SocketWorld) : SocketWorld :=
  { world with locks := Function.update world.locks (dirs process) none }

/-- `existsSync` -/
def check (world : SocketWorld) : ServePhase :=
  if world.path.isSome then .inspecting else .binding

/-- `lstatSync`: only a socket is ever removed. -/
def inspect (world : SocketWorld) : ServePhase :=
  match world.path with
  | some entry => if entry.isSocket then .unlinking else .failing false
  | none => .failing false

/-- `unlinkSync`, of whatever is at the path by now. -/
def unlinkStale (process : Nat) (world : SocketWorld) : SocketWorld :=
  match world.path with
  | some _ => { world.enter process .binding with path := none }
  | none => world.enter process (.failing false)

def bind (process : Nat) (world : SocketWorld) : SocketWorld :=
  match world.path with
  | some _ => world.enter process (.failing false)
  | none =>
      { world.enter process .securing with
        path := some ⟨world.nextInode, true, some process⟩
        nextInode := world.nextInode + 1 }

def chmod (world : SocketWorld) : ServePhase :=
  if world.path.isSome then .recording else .failing true

/-- `boundInode` is read off the path after binding. -/
def recordInode (world : SocketWorld) : ServePhase :=
  match world.path with
  | some entry => .serving entry.inode
  | none => .gone

/-- The last step of a shutdown. -/
def unlinkOwn (process : Nat) (world : SocketWorld) : SocketWorld :=
  { world.enter process .gone with path := none }

def isLost (boundInode : Nat) (world : SocketWorld) : Bool :=
  match world.path with
  | some entry => !entry.isSocket || entry.inode ≠ boundInode
  | none => true

def advance (process : Nat) (world : SocketWorld) : Option SocketWorld :=
  match world.phase process with
  -- That `server.stop` may unlink the path as well is Bun's doing and left out. A process that
  -- drains has bound the socket: where processes are alone, the path holds its own or nothing.
  | .checking => some (world.enter process world.check)
  | .inspecting => some (world.enter process world.inspect)
  | .unlinking => some (world.unlinkStale process)
  | .binding => some (world.bind process)
  | .securing => some (world.enter process world.chmod)
  | .recording => some (world.enter process world.recordInode)
  | .draining => some (world.enter process .closing)
  | .closing => some ((world.enter process .leaving).release dirs process)
  | .leaving => some (world.unlinkOwn process)
  | .failing _ => some ((world.enter process .gone).release dirs process)
  | _ => none

/-- A process starts, takes its next step, looks after its socket, gets a signal or
is killed, or something else removes the socket. -/
inductive Event
  | start (process : Nat)
  | step (process : Nat)
  | tick (process : Nat)
  | signal (process : Nat)
  | kill (process : Nat)
  | remove

def machine : Machine SocketWorld Event
  | world, .start process =>
      if world.phase process = .down ∧ world.isFree (dirs process) = true then
        some { world.enter process .checking with
          locks := Function.update world.locks (dirs process) (some process) }
      else none
  | world, .step process => world.advance dirs process
  | world, .tick process =>
      match world.phase process with
      | .serving boundInode =>
          some (if world.isLost boundInode then world.enter process .draining else world)
      | _ => none
  | world, .signal process =>
      match world.phase process with
      | .serving _ => some (world.enter process .draining)
      | .draining | .closing | .leaving => some (world.enter process .gone)
      | _ => none
  | world, .kill process =>
      if (world.phase process).isAlive then some (world.enter process .gone) else none
  | world, .remove => some { world with path := none }

end

/-- No process runs yet, and anything may be at the path. -/
def start (path : Option (Nat × Bool)) : SocketWorld where
  path := path.map fun entry => ⟨entry.1, entry.2, none⟩
  phase _ := .down
  locks _ := none
  nextInode := (path.map Prod.fst).getD 0 + 1

end SocketWorld

end DriveWebdav
