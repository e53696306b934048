import DriveWebdav.Drive.Changes
import DriveWebdav.PutDecision
import DriveWebdav.SdkGateway.Alone

/-! # The SDK double

The stand-in for the SDK that the tests of the gateway run against, as far as an upload asks it
for something. It holds a tree, and answers from it. -/

namespace DriveWebdav

namespace Drive

/-- An identity that no node has yet. -/
def newUid (drive : Drive) : Uid := drive.nodes.keys.foldr max 0 + 1

theorem newUid_fresh (drive : Drive) : drive.nodes.get drive.newUid = none := by
  have bound : ∀ (keys : List Nat) (uid : Nat), uid ∈ keys → uid ≤ keys.foldr max 0 := by
    intro keys uid member
    induction keys with
    | nil => cases member
    | cons key rest induction =>
        rw [List.foldr_cons]
        rcases List.mem_cons.mp member with same | member
        · omega
        · have below := induction member
          omega
  rw [InsertionMap.get_eq_none_iff]
  intro member
  exact absurd (bound _ _ member) (Nat.not_succ_le_self _)

def delete (drive : Drive) (uid : Uid) : Drive where
  root := drive.root
  nodes := drive.nodes.delete uid

/-- Add a node under a new identity. -/
def add (drive : Drive) (node : DriveNode) : Drive where
  root := drive.root
  nodes := drive.nodes.set drive.newUid node

end Drive

namespace SdkDouble

section

variable (platform : Platform) (now : Date)

def nodeNotFound (uid : Uid) : Thrown :=
  .sdk ⟨.validation, ("Node not found: " : JsString) ++ JsString.decimalNat uid⟩

def getNode (drive : Drive) (uid : Uid) : Except Thrown NodeEntity :=
  match drive.getNode uid with
  | some node => .ok node
  | none => .error (nodeNotFound uid)

def sameNameExists (isUnfinishedUpload : Bool) : Thrown :=
  .sdk ⟨.nodeWithSameNameExists isUnfinishedUpload, "exists"⟩

/-- The error with which the body of a request breaks off. -/
def bodyError : Thrown := .sdk ⟨.other, "The body was cut off"⟩

/-- A draft of this client's own is deleted, and another client's on request. -/
def getFileUploader (drive : Drive) (parent : Uid) (name : JsString)
    (metadata : UploadMetadata) : Except Thrown Uploader × Drive :=
  match (drive.children platform parent).find? fun child => platform.getName child = name with
  | none => (.ok (.file parent name metadata), drive)
  | some clash =>
      let isDraft := clash.activeRevision.isNone
      let ownDraft := isDraft && (drive.nodes.get clash.uid).any (·.ownDraft)
      if ownDraft || isDraft && metadata.overrideExistingDraftByOtherClient then
        (.ok (.file parent name metadata), drive.delete clash.uid)
      else (.error (sameNameExists isDraft), drive)

/-- The modification time of a file that was added without one. -/
def addedAt : Date := Date.ofMilliseconds (some 1709434983000)

def revisionOf (metadata : UploadMetadata) (bytes : Bytes) (otherwise : Date) : Revision :=
  ⟨some bytes.length, some (platform.sha1 bytes), true,
    some (metadata.modificationTime.getD otherwise)⟩

/-- What is committed when an upload completes. -/
def commit (drive : Drive) (bytes : Bytes) : Uploader → Drive
  | .revision uid metadata => drive.revise uid (revisionOf platform metadata bytes now) bytes
  | .file parent name metadata =>
      drive.add (Drive.newFile parent name (revisionOf platform metadata bytes addedAt) bytes
        (metadata.modificationTime.getD addedAt))

def metadataOf : Uploader → UploadMetadata
  | .revision _ metadata => metadata
  | .file _ _ metadata => metadata

def completion (drive : Drive) (uploader : Uploader) (bytes : Bytes) :
    Except Thrown Unit × Drive :=
  if (metadataOf uploader).expectedSha1.any (· ≠ platform.sha1 bytes) then
    (.error (.sdk ⟨.integrity, "sha1 mismatch"⟩), drive)
  else if (metadataOf uploader).expectedSize.any (· ≠ (bytes.length : Int)) then
    (.error (.sdk ⟨.integrity, "size mismatch"⟩), drive)
  else (.ok (), commit platform now drive bytes uploader)

/-- The answers of the double. Calls that an upload does not make are left out. -/
def answer (drive : Drive) : (command : SdkCall) → Except Thrown (SdkAnswer command) × Drive
  | .getPathNode => (getNode drive drive.root, drive)
  | .getNode uid => (getNode drive uid, drive)
  | .iterateFolderChildren parent _ => (.ok ⟨drive.children platform parent.uid, none⟩, drive)
  | .getFileUploader parent name metadata =>
      getFileUploader platform drive parent.uid name metadata
  | .getFileRevisionUploader uid metadata => (.ok (.revision uid metadata), drive)
  | .uploadFromStream uploader stream =>
      if stream.bytes.isSome then (.ok ⟨uploader, stream⟩, drive) else (.error bodyError, drive)
  | .completion controller =>
      match controller.stream.bytes with
      | some bytes => completion platform now drive controller.uploader bytes
      | none => (.error bodyError, drive)
  | .cancelBody => (.ok (), drive)
  | .releaseBody => (.ok (), drive)
  | _ => (.error (.sdk ⟨.other, "Not implemented"⟩), drive)

/-- The double as the world of the service. -/
def respond (world : ServiceWorld) (command : SdkCall) :
    Except Thrown (SdkAnswer command) × ServiceWorld :=
  ((answer platform now world.remote command).1,
    ⟨world.memory, (answer platform now world.remote command).2⟩)

/-- Run an operation of the gateway against the double. -/
def run {α : Type} (program : SdkOperation α) (world : ServiceWorld) :
    Except Thrown α × ServiceWorld :=
  program.run (respond platform now) world

end

/-! ## Lookups -/

variable {platform : Platform} {now : Date} {drive : Drive} {world : ServiceWorld}

theorem getNode_ok {uid : Uid} {node : NodeEntity} (found : getNode drive uid = .ok node) :
    drive.getNode uid = some node := by
  unfold getNode at found
  split at found
  · next fetched =>
      cases found
      exact fetched
  · cases found

theorem getFileUploader_error {parent : Uid} {name : JsString} {metadata : UploadMetadata}
    {error : Thrown} (fails : (getFileUploader platform drive parent name metadata).1 =
      .error error) : ∃ fault, error = .sdk fault := by
  unfold getFileUploader at fails
  split at fails
  · cases fails
  · dsimp only at fails
    split at fails
    · cases fails
    · cases fails
      exact ⟨_, rfl⟩

theorem completion_error {uploader : Uploader} {bytes : Bytes} {error : Thrown}
    (fails : (completion platform now drive uploader bytes).1 = .error error) :
    ∃ fault, error = .sdk fault := by
  unfold completion at fails
  split at fails
  · cases fails
    exact ⟨_, rfl⟩
  · split at fails
    · cases fails
      exact ⟨_, rfl⟩
    · cases fails

/-- The double fails with errors of the SDK only. -/
theorem answer_error {command : SdkCall} {error : Thrown}
    (fails : (answer platform now drive command).1 = .error error) :
    ∃ fault, error = .sdk fault := by
  unfold answer at fails
  split at fails
  · rw [getNode] at fails
    split at fails
    · cases fails
    · cases fails
      exact ⟨_, rfl⟩
  · rw [getNode] at fails
    split at fails
    · cases fails
    · cases fails
      exact ⟨_, rfl⟩
  · cases fails
  · exact getFileUploader_error fails
  · cases fails
  · split at fails
    · cases fails
    · cases fails
      exact ⟨_, rfl⟩
  · split at fails
    · exact completion_error fails
    · cases fails
      exact ⟨_, rfl⟩
  · cases fails
  · cases fails
  · cases fails
    exact ⟨_, rfl⟩

theorem getNode_eq {uid : Uid} {node : NodeEntity} (found : drive.getNode uid = some node) :
    getNode drive uid = .ok node := by
  rw [getNode, found]

theorem truthful : Truthful platform (answer platform now) where
  lookups := by
    intro drive command lookup
    cases command with
    | getPathNode => rfl
    | getNode uid => rfl
    | iterateFolderChildren parent sought => rfl
    | _ => cases lookup
  nodes _ _ _ found := getNode_ok found
  root drive root found := ⟨getNode_eq found, getNode_eq found⟩
  pathNode _ _ found := getNode_ok found
  children _ _ _ := rfl
  failures := by
    intro drive command error fails
    rcases answer_error fails with ⟨fault, rfl⟩
    exact Nat.le_of_ble_eq_true rfl

/-- Against the double a path resolves to what the tree has there. -/
theorem run_resolve (now : Date) (plain : drive.Plain platform) {path : JsString}
    (includeDrafts : Bool) (safe : (segments path).all isSafeSegment = true)
    (same : world.remote = drive) (accurate : Accurate platform world) :
    ∃ reached, run platform now (resolve platform path includeDrafts) world =
        (.ok (drive.nodeAt platform path includeDrafts), reached) ∧
      reached.remote = drive ∧ Accurate platform reached :=
  truthful.run_resolve plain.isFolder includeDrafts safe same accurate

end SdkDouble

end DriveWebdav
