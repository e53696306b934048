import DriveWebdav.Foundation.Folders
import DriveWebdav.Gateway
import DriveWebdav.Paths

/-! # The gateway in memory

The store that the end-to-end tests run against: a tree of folders, committed files and
unfinished uploads, with faults that a test can set. An operation runs without interruption,
except that an upload can be watched between the pieces of its body. -/

namespace DriveWebdav

structure MockFile where
  data : Bytes
  sha1 : JsString
  mtime : Date
  revisions : Nat
  deriving DecidableEq, Repr

structure MockDraft where
  clientUid : JsString
  receivedBytes : Nat
  deriving DecidableEq, Repr

inductive MockLeaf
  | file (file : MockFile)
  | draft (draft : MockDraft)
  deriving DecidableEq, Repr

/-- What a folder holds; it carries its modification time. -/
abbrev MockEntries := Entries JsString MockLeaf Date

abbrev MockNode := Node JsString MockLeaf Date

structure Faults where
  transientFailures : Nat
  transientFailuresFor : Option JsString
  dropPutAfterBytes : Option Nat
  dropGetAfterBytes : Option Nat
  corruptSha1ForPath : Option JsString
  sessionRevoked : Bool
  deriving DecidableEq, Repr

def Faults.none : Faults := ⟨0, .none, .none, .none, .none, false⟩

structure MockGateway where
  clientUid : JsString
  root : MockEntries
  faults : Faults
  usedBytes : Nat

/-- An operation that may throw; what it has changed by then stays changed. -/
abbrev MockOperation (α : Type) := MockGateway → Except Thrown α × MockGateway

namespace MockGateway

/-- A failure is set for an operation, or for all. -/
def fails (gateway : MockGateway) (op : JsString) : Bool :=
  0 < gateway.faults.transientFailures &&
    (gateway.faults.transientFailuresFor = none ||
      gateway.faults.transientFailuresFor = some op)

def transientFailure : Thrown := .gateway (.plain "Simulated transient upstream failure" 503)

def tick (op : JsString) (gateway : MockGateway) : Except Thrown Unit × MockGateway :=
  if gateway.fails op then
    (.error transientFailure,
      { gateway with
        faults :=
          { gateway.faults with transientFailures := gateway.faults.transientFailures - 1 } })
  else (.ok (), gateway)

/-- An operation begins with a tick. -/
def ticked {α : Type} (op : JsString) (rest : MockOperation α) : MockOperation α := fun gateway =>
  match gateway.tick op with
  | (.error error, gateway) => (.error error, gateway)
  | (.ok _, gateway) => rest gateway

/-- The root is made with the mtime `new Date(0)`. -/
def rootNode (gateway : MockGateway) : MockNode := .folder ⟨some 0⟩ gateway.root

def lookup (gateway : MockGateway) (path : JsString) : Option MockNode :=
  match gateway.rootNode.lookup (segments path) with
  | some (.leaf (.draft _)) => none
  | found => found

def dirOf (gateway : MockGateway) (path : JsString) : Except Thrown MockEntries :=
  match gateway.lookup (parentPath path) with
  | some (.folder _ children) => .ok children
  | _ => .error (.gateway (.conflict (("Parent missing: " : JsString) ++ parentPath path)))

/-- Change the children of the folder that `dirOf` finds. -/
def inDir (gateway : MockGateway) (path : JsString) (change : MockEntries → MockEntries) :
    MockGateway :=
  { gateway with root := gateway.root.modify change (segments (parentPath path)) }

def reportedSha1 (gateway : MockGateway) (path : JsString) (file : MockFile) : JsString :=
  if gateway.faults.corruptSha1ForPath = some path then List.replicate 40 '0' else file.sha1

def toEntry (gateway : MockGateway) (name : JsString) (node : MockNode) (path : JsString) :
    Option DriveEntry :=
  match node with
  | .leaf (.draft _) => none
  | .folder mtime _ => some ⟨name, true, 0, mtime, none⟩
  | .leaf (.file file) =>
      some ⟨name, false, file.data.length, file.mtime, some (gateway.reportedSha1 path file)⟩

def stat (path : JsString) : MockOperation (Option DriveEntry) :=
  let p := normalize path
  ticked "stat" fun gateway =>
    (.ok ((gateway.lookup p).bind fun node => gateway.toEntry (baseName p) node p), gateway)

def list (path : JsString) : MockOperation (List DriveEntry) :=
  let p := normalize path
  ticked "list" fun gateway =>
    match gateway.lookup p with
    | some (.folder _ children) =>
        (.ok (children.toList.filterMap fun child =>
          gateway.toEntry child.1 child.2 (normalize (p ++ '/' :: child.1))), gateway)
    | _ => (.error (.gateway .notFoundDefault), gateway)

/-! ## Uploads -/

/-- What an upload holds on to while its body arrives. `revisions` counts those of the file it
replaces. -/
structure Upload where
  path : JsString
  opts : PutOptions
  isRevision : Bool
  revisions : Nat
  drop : Option Nat
  data : Bytes

/-- How `put` stands before it reads the body. -/
inductive PutStart
  | skipped
  | receiving (upload : Upload)

def immutablePreconditionDefault : GatewayError :=
  .immutablePrecondition "Immutable: refusing to overwrite existing content"

def draftConflictDefault : GatewayError :=
  .draftConflict "An unfinished upload by another client blocks this name"

/-- An existing file already has what is uploaded, as far as can be told. -/
def isIdentical (gateway : MockGateway) (p : JsString) (opts : PutOptions) (existing : MockFile) :
    Bool :=
  (truthy opts.sha1).isSome && some (gateway.reportedSha1 p existing) = opts.sha1 &&
    (opts.size = none || opts.size = some (existing.data.length : Int))

/-- Start to receive. The fault that drops a connection is used up. -/
def receiving (gateway : MockGateway) (p : JsString) (opts : PutOptions) (isRevision : Bool)
    (revisions : Nat) : Except Thrown PutStart × MockGateway :=
  (.ok (.receiving ⟨p, opts, isRevision, revisions, gateway.faults.dropPutAfterBytes, []⟩),
    { gateway with faults := { gateway.faults with dropPutAfterBytes := none } })

/-- The draft that stands at a path while its body arrives. -/
def newDraft (gateway : MockGateway) : MockNode := .leaf (.draft ⟨gateway.clientUid, 0⟩)

/-- Decide on an upload from what its folder holds at the name. -/
def beginIn (p : JsString) (opts : PutOptions) (children : MockEntries) :
    MockOperation PutStart := fun gateway =>
  match children.get (baseName p) with
  | some (.folder _ _) => (.error (.gateway (.plain "Collection exists at path" 405)), gateway)
  | some (.leaf (.file existing)) =>
      if gateway.isIdentical p opts existing then (.ok .skipped, gateway)
      else if opts.immutable then (.error (.gateway immutablePreconditionDefault), gateway)
      else gateway.receiving p opts true existing.revisions
  | some (.leaf (.draft existing)) =>
      if existing.clientUid ≠ gateway.clientUid &&
          opts.overrideOtherClientDraftForPath ≠ some p then
        (.error (.gateway draftConflictDefault), gateway)
      else
        (gateway.inDir p fun children =>
          (children.delete (baseName p)).set (baseName p) gateway.newDraft).receiving p opts false 0
  | none =>
      (gateway.inDir p fun children =>
        children.set (baseName p) gateway.newDraft).receiving p opts false 0

/-- The part of `put` before the body is read. -/
def beginPut (path : JsString) (opts : PutOptions) : MockOperation PutStart :=
  let p := normalize path
  ticked "put" fun gateway =>
    if gateway.faults.sessionRevoked then
      (.error (.gateway (.plain "Session revoked; login required" 401)), gateway)
    else if isRoot p || !isSafeSegment (baseName p) then
      (.error (.gateway (.plain "Invalid name" 400)), gateway)
    else
      match gateway.dirOf p with
      | .error error => (.error error, gateway)
      | .ok children => beginIn p opts children gateway

/-- The draft of an upload counts the bytes that have arrived. A revision has no draft. -/
def noteReceived (gateway : MockGateway) (upload : Upload) : MockGateway :=
  if upload.isRevision then gateway
  else
    gateway.inDir upload.path fun children =>
      children.set (baseName upload.path) (.leaf (.draft ⟨gateway.clientUid, upload.data.length⟩))

/-- One turn of the loop that reads the body. -/
def receiveChunk (chunk : Bytes) (upload : Upload) : MockOperation Upload := fun gateway =>
  let received := { upload with data := upload.data ++ chunk }
  let gateway := gateway.noteReceived received
  if received.drop.any fun drop => drop ≤ received.data.length then
    (.error (.gateway (.plain "Simulated connection drop during upload" 599)), gateway)
  else (.ok received, gateway)

variable (digest : Bytes → JsString) (now : Date)

def sizeMismatch (expected : Int) (data : Bytes) : GatewayError :=
  .integrityFailed (("Size mismatch: expected " : JsString) ++ JsString.decimal expected ++
    (", got " : JsString) ++ JsString.decimalNat data.length)

def sha1Mismatch (expected : JsString) (sha1 : JsString) : GatewayError :=
  .integrityFailed (("SHA-1 mismatch: expected " : JsString) ++ expected ++
    (", got " : JsString) ++ sha1)

/-- The file that an upload commits. -/
def committed (upload : Upload) : MockFile where
  data := upload.data
  sha1 := digest upload.data
  mtime := upload.opts.mtime.getD now
  revisions := upload.revisions + 1

/-- The part of `put` after the whole body has arrived. -/
def finishPut (upload : Upload) : MockOperation PutResult := fun gateway =>
  let name := baseName upload.path
  match upload.opts.size.filter (· ≠ (upload.data.length : Int)) with
  | some expected => (.error (.gateway (sizeMismatch expected upload.data)), gateway)
  | none =>
      match (truthy upload.opts.sha1).filter (· ≠ digest upload.data) with
      | some expected =>
          -- the draft is deleted only where it was put
          (.error (.gateway (sha1Mismatch expected (digest upload.data))),
            if upload.isRevision then gateway
            else gateway.inDir upload.path fun children => children.delete name)
      | none =>
          let done := gateway.inDir upload.path fun children =>
            children.set name (.leaf (.file (committed digest now upload)))
          (.ok (if upload.isRevision then .updated else .created),
            { done with usedBytes := done.usedBytes + upload.data.length })

/-- The error with which the body of a request breaks off. -/
def bodyError : Thrown := .sdk ⟨.other, "The body was cut off"⟩

/-- Receive what is left of a body. -/
def receive : BodyStream → Upload → MockOperation PutResult
  | .done, upload => finishPut digest now upload
  | .failed, _ => fun gateway => (.error bodyError, gateway)
  | .value chunk rest, upload => fun gateway =>
      match receiveChunk chunk upload gateway with
      | (.error error, gateway) => (.error error, gateway)
      | (.ok upload, gateway) => receive rest upload gateway

def put (path : JsString) (body : BodyStream) (opts : PutOptions) : MockOperation PutResult :=
  fun gateway =>
    match beginPut path opts gateway with
    | (.error error, gateway) => (.error error, gateway)
    | (.ok .skipped, gateway) => (.ok .skippedIdentical, gateway)
    | (.ok (.receiving upload), gateway) => receive digest now body upload gateway

end MockGateway

end DriveWebdav
