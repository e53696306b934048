import DriveWebdav.Foundation.Machine
import DriveWebdav.Foundation.Text

/-! # The stored session

One session store, a file system step at a time, beside another process that
writes the same file. -/

namespace DriveWebdav

structure FileIdentity where
  ino : Nat
  mtimeMs : Nat
  size : Nat
  deriving DecidableEq

/-- What is at the path of the session. No step depends on `foreign`, which marks
the writes of another process, or on `version`, which counts the writes. -/
structure SessionFile where
  regular : Bool
  mode : Nat
  identity : FileIdentity
  raw : JsString
  foreign : Bool
  version : Nat

/-- A recorded identity, and the version it was recorded of. -/
structure SeenIdentity where
  identity : FileIdentity
  version : Nat

inductive SessionError
  | conflict (message : JsString)
  | directoryUnsafe (message : JsString)
  | fileSystem (code : JsString)

/-- Who loads the session: the store's caller, or the store itself on a sign-out. -/
inductive Loader
  | caller
  | remove

inductive StorePhase (Snapshot : Type)
  | idle
  | inspecting (loader : Loader)
  | tightening (loader : Loader) (size : Nat)
  | reading (loader : Loader)
  | identifying (loader : Loader) (raw : JsString)
  | checking (snapshot : Snapshot)
  | writing (snapshot : Snapshot)
  | recording
  | loaded (result : Except SessionError (Option Snapshot))
  | saved (result : Except SessionError Unit)
  | removed

/-- `returned` collects the bytes whose session the caller was given, `past` the
identities that files at the path have had. -/
structure OwnedFileSessionStore (Snapshot : Type) where
  file : Option SessionFile
  lastSeen : Option SeenIdentity
  phase : StorePhase Snapshot
  returned : List JsString
  past : List FileIdentity
  nextVersion : Nat

def sameIdentity (a b : Option FileIdentity) : Bool :=
  match a, b with
  | some a, some b => a.ino = b.ino && a.mtimeMs = b.mtimeMs && a.size = b.size
  | none, none => true
  | _, _ => false

namespace OwnedFileSessionStore

variable {Snapshot : Type}

/-- A store that has just been constructed. -/
def start (file : Option SessionFile) : OwnedFileSessionStore Snapshot where
  file := file
  lastSeen := none
  phase := .idle
  returned := []
  past := (file.map SessionFile.identity).toList
  nextVersion := (file.map SessionFile.version).getD 0 + 1

def currentIdentity (store : OwnedFileSessionStore Snapshot) : Option FileIdentity :=
  store.file.map SessionFile.identity

/-- `this.lastSeen = await this.currentIdentity() ?? undefined` -/
def recordIdentity (store : OwnedFileSessionStore Snapshot) : OwnedFileSessionStore Snapshot :=
  { store with lastSeen := store.file.map fun file => ⟨file.identity, file.version⟩ }

/-- Something is written at the path. -/
def place (file : SessionFile) (store : OwnedFileSessionStore Snapshot) :
    OwnedFileSessionStore Snapshot :=
  { store with
    file := some { file with version := store.nextVersion }
    past := file.identity :: store.past
    nextVersion := store.nextVersion + 1 }

/-- A load ends. On a sign-out its outcome is only a hint for the marker. -/
def endLoad (result : Except SessionError (Option Snapshot)) : Loader → StorePhase Snapshot
  | .caller => .loaded result
  | .remove => .removed

section

variable (filePath : JsString) (parseStoredSnapshot : JsString → Option Snapshot)
  (stringify : Snapshot → JsString)

def notRegular : SessionError :=
  .directoryUnsafe (("Session file is not a regular file: " : JsString) ++ filePath)

def tooLarge : SessionError := .directoryUnsafe "Session file is unexpectedly large"

def conflictError : SessionError :=
  .conflict (filePath ++
    (" changed on disk since this process read it: another Proton client is " : JsString) ++
    ("writing the same session. Refusing to overwrite it. Stop the other client (do not run " :
      JsString) ++
    ("the official CLI against the same PROTON_DRIVE_CACHE_DIR while this service is up)." :
      JsString))

/-- Past the checks of the mode, and before those of the size. -/
def checkSize (loader : Loader) (size : Nat) : StorePhase Snapshot :=
  if 1024 * 1024 < size then endLoad (.error tooLarge) loader else .reading loader

def inspect (loader : Loader) (store : OwnedFileSessionStore Snapshot) : StorePhase Snapshot :=
  match store.file with
  | none => endLoad (.ok none) loader
  | some file =>
      if !file.regular then endLoad (.error (notRegular filePath)) loader
      else if file.mode % 64 ≠ 0 then .tightening loader file.identity.size
      else checkSize loader file.identity.size

def tighten (loader : Loader) (size : Nat) (store : OwnedFileSessionStore Snapshot) :
    OwnedFileSessionStore Snapshot :=
  match store.file with
  | none => { store with phase := endLoad (.error (.fileSystem "ENOENT")) loader }
  | some file =>
      { store with file := some { file with mode := 0o600 }, phase := checkSize loader size }

def readFile (loader : Loader) (store : OwnedFileSessionStore Snapshot) : StorePhase Snapshot :=
  match store.file with
  | none => endLoad (.error (.fileSystem "ENOENT")) loader
  | some file => .identifying loader file.raw

/-- The identity is recorded, and what was read is parsed and handed over. -/
def identify (loader : Loader) (raw : JsString) (store : OwnedFileSessionStore Snapshot) :
    OwnedFileSessionStore Snapshot :=
  let parsed := parseStoredSnapshot raw
  { store.recordIdentity with
    phase := endLoad (.ok parsed) loader
    returned :=
      match loader, parsed with
      | .caller, some _ => raw :: store.returned
      | _, _ => store.returned }

/-- The guard of `save`. -/
def checkConflict (snapshot : Snapshot) (store : OwnedFileSessionStore Snapshot) :
    StorePhase Snapshot :=
  let lastSeen := store.lastSeen.map SeenIdentity.identity
  if lastSeen.isSome && store.currentIdentity.isSome &&
      !sameIdentity lastSeen store.currentIdentity then
    .saved (.error (conflictError filePath))
  else .writing snapshot

/-- Calls of the store, its file system steps, and writes of another process. A
rename gives the file a new identity, and writing can fail before it. -/
inductive Event (Snapshot : Type)
  | load
  | save (snapshot : Snapshot)
  | remove
  | step
  | rename (identity : FileIdentity)
  | writeFails (code : JsString)
  | foreignWrite (raw : JsString) (identity : FileIdentity) (mode : Nat) (regular : Bool)

/-- Whether the store has no call under way. -/
def isIdle (store : OwnedFileSessionStore Snapshot) : Bool :=
  match store.phase with
  | .idle | .loaded _ | .saved _ | .removed => true
  | _ => false

def advance (store : OwnedFileSessionStore Snapshot) : Option (OwnedFileSessionStore Snapshot) :=
  match store.phase with
  | .inspecting loader => some { store with phase := store.inspect filePath loader }
  | .tightening loader size => some (store.tighten loader size)
  | .reading loader => some { store with phase := store.readFile loader }
  | .identifying loader raw => some (store.identify parseStoredSnapshot loader raw)
  | .checking snapshot => some { store with phase := store.checkConflict filePath snapshot }
  | .recording => some { store.recordIdentity with phase := .saved (.ok ()) }
  | _ => none

/-- Each write of the other process leaves an identity that the file has not had. -/
def machine : Machine (OwnedFileSessionStore Snapshot) (Event Snapshot)
  | store, .load =>
      if store.isIdle then some { store with phase := .inspecting .caller } else none
  | store, .save snapshot =>
      if store.isIdle then some { store with phase := .checking snapshot } else none
  | store, .remove =>
      if store.isIdle then some { store with phase := .inspecting .remove } else none
  | store, .step => store.advance filePath parseStoredSnapshot
  | store, .rename identity =>
      match store.phase with
      | .writing snapshot =>
          some { store.place ⟨true, 0o600, identity, stringify snapshot, false, 0⟩ with
            phase := .recording }
      | _ => none
  | store, .writeFails code =>
      match store.phase with
      | .writing _ => some { store with phase := .saved (.error (.fileSystem code)) }
      | _ => none
  | store, .foreignWrite raw identity mode regular =>
      if identity ∈ store.past then none
      else some (store.place ⟨regular, mode, identity, raw, true, 0⟩)

end

end OwnedFileSessionStore

end DriveWebdav
