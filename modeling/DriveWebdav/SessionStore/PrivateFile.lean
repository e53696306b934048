import DriveWebdav.Foundation.Disk
import DriveWebdav.Foundation.Machine
import DriveWebdav.Sdk

/-! # Writing a private file

`writePrivateFileAtomic` one system call after another, each of which may fail, and
`pruneOrphanTempFiles`, which removes what a stop in between leaves behind. -/

namespace DriveWebdav

abbrev PrivateDirectory := Disk JsString UInt8

/-- `` `.${path.basename(target)}.${process.pid}.${randomUUID()}.tmp` `` -/
def tempName (base : JsString) (pid : Nat) (uuid : JsString) : JsString :=
  '.' :: base ++ '.' :: JsString.decimalNat pid ++ '.' :: uuid ++ (".tmp" : JsString)

/-- One call of `writePrivateFileAtomic`: `bytes` is `data` in UTF-8. -/
structure PrivateWrite where
  base : JsString
  pid : Nat
  uuid : JsString
  bytes : Bytes

def PrivateWrite.tmp (job : PrivateWrite) : JsString := tempName job.base job.pid job.uuid

/-- The system call that comes next, or how it ended. -/
inductive WritePhase
  | opening
  | writing (inode written : Nat)
  | syncing (inode : Nat)
  | closing (failed : Bool)
  | moving
  | cleaning
  | openingDir
  | syncingDir
  | closingDir
  | resolved
  | rejected
  | stopped
  deriving DecidableEq

namespace WritePhase

def isOver : WritePhase → Bool
  | .resolved | .rejected | .stopped => true
  | _ => false

/-- An exception is on its way to the caller. -/
def isFailing : WritePhase → Bool
  | .closing true | .cleaning | .rejected => true
  | _ => false

/-- Where a call that throws leads: `finally` closes the file, `catch` removes it, and
the directory is only synced as far as it can be. -/
def thrown : WritePhase → WritePhase
  | .opening => .cleaning
  | .writing _ _ | .syncing _ => .closing true
  | .closing _ | .moving => .cleaning
  | .openingDir | .closingDir => .resolved
  | .syncingDir => .closingDir
  | phase => phase

end WritePhase

/-- No step depends on `renamed`: whether the target has been replaced. -/
structure PrivateWorld where
  disk : PrivateDirectory
  phase : WritePhase
  renamed : Bool

namespace PrivateWorld

section

variable (job : PrivateWrite)

/-- The loop writes until every byte is written. -/
def continueWrite (inode written : Nat) : WritePhase :=
  if written < job.bytes.length then .writing inode written else .syncing inode

/-- A system call does what it is to do. `writeSync` writes `count` bytes, and writing
none throws. -/
def perform (count : Nat) (world : PrivateWorld) : Option PrivateWorld :=
  match world.phase with
  | .opening =>
      if world.disk.entries job.tmp = none then
        some { world with
          disk := world.disk.create job.tmp
          phase := continueWrite job world.disk.next 0 }
      else none
  | .writing inode written =>
      if count ≤ job.bytes.length - written then
        some { world with
          disk := world.disk.append inode ((job.bytes.drop written).take count)
          phase := if count = 0 then .closing true else continueWrite job inode (written + count) }
      else none
  | .syncing inode =>
      some { world with disk := world.disk.sync inode, phase := .closing false }
  | .closing failed => some { world with phase := if failed then .cleaning else .moving }
  | .moving =>
      (world.disk.rename job.tmp job.base).map fun disk =>
        { disk, phase := .openingDir, renamed := true }
  | .cleaning => some { world with disk := world.disk.remove job.tmp, phase := .rejected }
  | .openingDir => some { world with phase := .syncingDir }
  | .syncingDir =>
      some { world with disk := world.disk.syncDirectory, phase := .closingDir }
  | .closingDir => some { world with phase := .resolved }
  | _ => none

/-- The call returns, throws, or throws after it has done what it is to do. The machine
may stop at any time. -/
inductive Event
  | returns (count : Nat)
  | fails
  | failsLate (count : Nat)
  | stop (kept : List (DirectoryChange JsString)) (contents : Nat → Bytes)

/-- Removing the temp file never fails. -/
def canFail (phase : WritePhase) : Bool := !phase.isOver && phase ≠ .cleaning

def machine : Machine PrivateWorld Event
  | world, .returns count => world.perform job count
  | world, .fails =>
      if canFail world.phase then some { world with phase := world.phase.thrown } else none
  | world, .failsLate count =>
      if canFail world.phase then
        (world.perform job count).map fun next => { next with phase := world.phase.thrown }
      else none
  | world, .stop kept contents =>
      if world.phase.isOver then none
      else (world.disk.stop kept contents).map fun disk =>
        { world with disk, phase := .stopped }

end

def start (disk : PrivateDirectory) : PrivateWorld where
  disk := disk
  phase := .opening
  renamed := false

end PrivateWorld

/-- Whether `pruneOrphanTempFiles` takes a file for a leftover. -/
def isOrphan (base name : JsString) : Bool :=
  ('.' :: base ++ ['.']).isPrefixOf name && name.endsWith (".tmp" : JsString)

/-- `names` is what `readdir` gave; the result counts the files that were removed. -/
def pruneOrphanTempFiles (base : JsString) :
    List JsString → PrivateDirectory → PrivateDirectory × Nat
  | [], disk => (disk, 0)
  | name :: names, disk =>
      if isOrphan base name then
        let (pruned, removed) := pruneOrphanTempFiles base names (disk.remove name)
        (pruned, removed + 1)
      else pruneOrphanTempFiles base names disk

end DriveWebdav
