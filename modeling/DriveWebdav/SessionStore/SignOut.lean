import DriveWebdav.Foundation.CodeUnits
import DriveWebdav.Paths
import DriveWebdav.SessionStore.OwnedFile
import DriveWebdav.SessionStore.PrivateFile

/-! # Signing out

`OwnedFileSessionStore.remove` over a whole directory: the session is loaded for a hint,
a marker is written, and all markers but the last few go. Any operation may fail. -/

namespace DriveWebdav

def sessionFilename : JsString := "auth-session.json"

/-- What `lstat` tells of a file. -/
structure FileAttributes where
  regular : Bool
  mode : Nat

/-- The state directory, with the attributes of its files. -/
structure StateDirectory where
  disk : PrivateDirectory
  attributes : Nat → FileAttributes

/-- The operations of a load that fail, with their codes. -/
structure LoadFaults where
  lstat : Option JsString
  chmod : Option JsString
  readFile : Option JsString

/-- What one call of `remove` meets. The clock is read for the name of the marker and for
its text, `listing` is what `readdir` gives, and a temp file is left behind when it cannot
be removed. -/
structure SignOut where
  stampedAt : Int
  recordedAt : Int
  faults : LoadFaults
  pid : Nat
  uuid : JsString
  writing : List PrivateWorld.Event
  leavesTemp : Bool
  listing : Option (List JsString)
  unlinkFails : JsString → Bool

/-! ## The marker -/

def markerPrefix : JsString := "auth-session.signout-"

def isMarker (name : JsString) : Bool := markerPrefix.isPrefixOf name

/-- `replace(/[:.]/g, '-')` -/
def dashed (character : Char) : Char :=
  if character = ':' ∨ character = '.' then '-' else character

def markerName (time : Int) : JsString :=
  markerPrefix ++ ((Date.isoText time).map dashed ++ (".json" : JsString))

def markerNote : JsString :=
  ("The account layer signed out, usually a rejected token refresh. The session " : JsString) ++
    ("file was intentionally NOT deleted: the sign-out fires on any 4xx except 429, " : JsString) ++
    ("which includes transient proxy and portal responses. Re-run `auth login` if " : JsString) ++
    ("this persists. This marker holds no credentials." : JsString)

/-- `JSON.stringify({ at, sessionUidPrefix, note }, null, 2) + '\n'` -/
def markerText (time : Int) (uidHint : List Nat) : JsString :=
  ("\x7b\n  \"at\": " : JsString) ++ JsString.jsonString (Date.isoText time).codeUnits ++
    (",\n  \"sessionUidPrefix\": " : JsString) ++ JsString.jsonString uidHint ++
    (",\n  \"note\": " : JsString) ++ JsString.jsonString markerNote.codeUnits ++
    ("\n\x7d\n" : JsString)

def utf8Bytes (text : JsString) : Bytes := (text.flatMap utf8).map UInt8.ofNat

/-- The write of one call. -/
def SignOut.job (call : SignOut) (uidHint : List Nat) : PrivateWrite where
  base := markerName call.stampedAt
  pid := call.pid
  uuid := call.uuid
  bytes := utf8Bytes (markerText call.recordedAt uidHint)

def SignOut.tmp (call : SignOut) : JsString :=
  tempName (markerName call.stampedAt) call.pid call.uuid

/-- The names are removed one after another, and a failure is passed over. -/
def unlinkAll (unlinkFails : JsString → Bool) (names : List JsString) (disk : PrivateDirectory) :
    PrivateDirectory :=
  names.foldl (fun disk name => if unlinkFails name then disk else disk.remove name) disk

def pruneMarkers (listing : Option (List JsString)) (unlinkFails : JsString → Bool)
    (disk : PrivateDirectory) : PrivateDirectory :=
  match listing with
  | none => disk
  | some listed =>
      let names := JsString.sort (listed.filter isMarker)
      unlinkAll unlinkFails (names.take (names.length - 5)) disk

/-! ## The call -/

namespace StateDirectory

section

variable {Snapshot : Type} (parseStoredSnapshot : Bytes → Option Snapshot)
  (uid : Snapshot → JsString) (filePath : JsString)

def lstat (faults : LoadFaults) (directory : StateDirectory) : Except JsString Nat :=
  match faults.lstat, directory.disk.entries sessionFilename with
  | some code, _ => .error code
  | none, none => .error "ENOENT"
  | none, some inode => .ok inode

def chmod (inode : Nat) (mode : Nat) (directory : StateDirectory) : StateDirectory :=
  { directory with
    attributes := Function.update directory.attributes inode
      { directory.attributes inode with mode := mode } }

/-- The size is checked and the file is read. -/
def readStored (faults : LoadFaults) (inode : Nat) (directory : StateDirectory) :
    Except SessionError (Option Snapshot) :=
  if 1024 * 1024 < (directory.disk.bytes inode).length then
    .error OwnedFileSessionStore.tooLarge
  else
    match faults.readFile with
    | some code => .error (.fileSystem code)
    | none => .ok (parseStoredSnapshot (directory.disk.bytes inode))

/-- `load()`, less the identity that it records for `save`. `parseStoredSnapshot` is given
the bytes that the text is decoded from. -/
def load (faults : LoadFaults) (directory : StateDirectory) :
    Except SessionError (Option Snapshot) × StateDirectory :=
  match directory.lstat faults with
  | .error code =>
      (if code = ("ENOENT" : JsString) then .ok none else .error (.fileSystem code), directory)
  | .ok inode =>
      if !(directory.attributes inode).regular then
        (.error (OwnedFileSessionStore.notRegular filePath), directory)
      else if (directory.attributes inode).mode % 64 ≠ 0 then
        match faults.chmod with
        | some code => (.error (.fileSystem code), directory)
        | none =>
            (directory.readStored parseStoredSnapshot faults inode, directory.chmod inode 0o600)
      else (directory.readStored parseStoredSnapshot faults inode, directory)

/-- `` `${snapshot.session.uid.slice(0, 6)}...` ``, if there is a snapshot. -/
def uidHint : Except SessionError (Option Snapshot) → List Nat
  | .ok (some snapshot) => (uid snapshot).codeUnits.take 6 ++ JsString.codeUnits "..."
  | _ => JsString.codeUnits "unknown"

/-- What the call writes. -/
def jobOf (call : SignOut) (directory : StateDirectory) : PrivateWrite :=
  call.job (uidHint uid (directory.load parseStoredSnapshot filePath call.faults).1)

/-- How far the write of the marker has come. -/
def writeMarker (call : SignOut) (directory : StateDirectory) : Option PrivateWorld :=
  (PrivateWorld.machine (directory.jobOf parseStoredSnapshot uid filePath call)).play
    (.start directory.disk) call.writing

/-- The directory after the write, which pruning follows only if it went well. -/
def afterWrite (call : SignOut) (world : PrivateWorld) : Option PrivateDirectory :=
  match world.phase with
  | .resolved => some (pruneMarkers call.listing call.unlinkFails world.disk)
  | .rejected => some world.disk
  | .cleaning => if call.leavesTemp then some world.disk else none
  | _ => none

/-- `remove()`. The file that it creates is a regular one of mode 0600. -/
def remove (call : SignOut) (directory : StateDirectory) : Option StateDirectory :=
  let loaded := (directory.load parseStoredSnapshot filePath call.faults).2
  (directory.writeMarker parseStoredSnapshot uid filePath call).bind fun world =>
    (afterWrite call world).map fun disk =>
      { disk, attributes := Function.update loaded.attributes directory.disk.next ⟨true, 0o600⟩ }

/-- One call after another. -/
def signOuts : Machine StateDirectory SignOut :=
  fun directory call => directory.remove parseStoredSnapshot uid filePath call

end

end StateDirectory

end DriveWebdav
