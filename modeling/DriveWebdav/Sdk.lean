import DriveWebdav.Errors

/-! # The SDK as the service sees it

Nodes, the calls the service makes, and what it takes from code that is not
part of this repository. -/

namespace DriveWebdav

/-- The identity of a node. -/
abbrev Uid := Nat

/-- The bytes of a request or of a revision. -/
abbrev Bytes := List UInt8

/-- A stream as its reader meets it: chunks, then the end or an error. -/
inductive BodyStream
  | done
  | failed
  | value (chunk : Bytes) (rest : BodyStream)
  deriving DecidableEq, Repr

/-- What reading a stream to its end yields, unless it fails. -/
def BodyStream.bytes : BodyStream → Option Bytes
  | .done => some []
  | .failed => none
  | .value chunk rest => rest.bytes.map (chunk ++ ·)

inductive NodeType
  | file
  | folder
  | other
  deriving DecidableEq, Repr

/-- `node.name`: decrypted, or not. -/
structure NodeName where
  ok : Bool
  value : JsString
  deriving DecidableEq, Repr

/-- The committed revision of a file, as the SDK reports it. -/
structure Revision where
  claimedSize : Option Nat
  claimedSha1 : Option JsString
  sha1Verified : Bool
  claimedModificationTime : Option Date
  deriving DecidableEq, Repr

structure NodeEntity where
  uid : Uid
  parentUid : Option Uid
  name : NodeName
  type : NodeType
  trashed : Bool
  activeRevision : Option Revision
  folderModificationTime : Option Date
  modificationTime : Date
  deriving DecidableEq, Repr

namespace NodeEntity

/-- A file without a committed revision: an unfinished upload. -/
def isDraft (node : NodeEntity) : Bool := node.type = .file && node.activeRevision.isNone

end NodeEntity

structure UploadMetadata where
  mediaType : JsString
  expectedSize : Option Int
  expectedSha1 : Option JsString
  modificationTime : Option Date
  overrideExistingDraftByOtherClient : Bool
  deriving DecidableEq, Repr

/-- What an uploader was requested for. -/
inductive Uploader
  | file (parent : Uid) (name : JsString) (metadata : UploadMetadata)
  | revision (node : Uid) (metadata : UploadMetadata)
  deriving DecidableEq, Repr

/-- An upload that runs: the uploader, and the stream it reads. -/
structure UploadController where
  uploader : Uploader
  stream : BodyStream
  deriving DecidableEq, Repr

/-- What an iteration yielded, and the error that ended it early. -/
structure Yielded (α : Type) where
  items : List α
  failure : Option SdkError
  deriving DecidableEq, Repr

/-- `{ ok: true }`, or `{ ok: false, error }`. -/
abbrev NodeResult := Except SdkError Unit

/-- How a download stands when its first byte may be handed on: a chunk was
written, or all of it arrived without one. -/
inductive DownloadStart
  | chunk
  | complete (produced : Nat) (sha1 : JsString)
  deriving DecidableEq, Repr

/-- The storage figures of the account, where they are numbers. -/
structure UserSpace where
  usedSpace : Option Int
  maxSpace : Option Int
  deriving DecidableEq, Repr

/-- The awaited calls of the service. `cancelBody` and `releaseBody` act on the
request body, `getUser` on the account, all others on the SDK. A loop over
children stops at the first of the name `sought`. -/
inductive SdkCall
  | getPathNode
  | getNode (uid : Uid)
  | iterateFolderChildren (parent : NodeEntity) (sought : Option JsString)
  | trashNodes (nodes : List NodeEntity)
  | moveNodes (nodes : List NodeEntity) (parent : NodeEntity)
  | renameNode (node : NodeEntity) (name : JsString)
  | copyNodes (sources : List (Uid × JsString)) (parent : NodeEntity)
  | createFolder (parent : NodeEntity) (name : JsString)
  | getFileUploader (parent : NodeEntity) (name : JsString) (metadata : UploadMetadata)
  | getFileRevisionUploader (uid : Uid) (metadata : UploadMetadata)
  | uploadFromStream (uploader : Uploader) (stream : BodyStream)
  | completion (controller : UploadController)
  | getFileDownloader (node : NodeEntity)
  | downloadToStream (node : NodeEntity)
  | getSeekableStream (node : NodeEntity)
  | forceReleaseDownloadSlot (node : NodeEntity)
  | seek (start : Nat)
  | readSeekable (length : Nat)
  | getUser
  | cancelBody
  | releaseBody
  deriving DecidableEq, Repr

/-- The calls of path resolution. -/
def SdkCall.isLookup : SdkCall → Bool
  | .getPathNode | .getNode _ | .iterateFolderChildren _ _ => true
  | _ => false

/-- The calls that may change the tree. -/
def SdkCall.changesTree : SdkCall → Bool
  | .trashNodes _ | .moveNodes _ _ | .renameNode _ _ | .copyNodes _ _ | .createFolder _ _
  | .getFileUploader _ _ _ | .getFileRevisionUploader _ _ | .uploadFromStream _ _
  | .completion _ => true
  | _ => false

abbrev SdkAnswer : SdkCall → Type
  | .getPathNode => NodeEntity
  | .getNode _ => NodeEntity
  | .iterateFolderChildren _ _ => Yielded NodeEntity
  | .trashNodes _ => Yielded NodeResult
  | .moveNodes _ _ => Yielded NodeResult
  | .renameNode _ _ => Unit
  | .copyNodes _ _ => Yielded NodeResult
  | .createFolder _ _ => NodeEntity
  | .getFileUploader _ _ _ => Uploader
  | .getFileRevisionUploader _ _ => Uploader
  | .uploadFromStream _ _ => UploadController
  | .completion _ => Unit
  | .getFileDownloader _ => Unit
  | .downloadToStream _ => DownloadStart
  | .getSeekableStream _ => Unit
  | .forceReleaseDownloadSlot _ => Unit
  | .seek _ => Unit
  | .readSeekable _ => Option Nat
  | .getUser => UserSpace
  | .cancelBody => Unit
  | .releaseBody => Unit

/-- Code outside the repository, and the configuration. -/
structure Platform where
  /-- The path of the configured root, for messages. -/
  rootPath : JsString
  /-- The text shown for a name. -/
  showName : NodeName → JsString
  /-- A decrypted name is shown as it is. -/
  showName_ok : ∀ name : NodeName, name.ok = true → showName name = name.value
  getLocalFileMediaType : JsString → JsString
  /-- The lowercase hexadecimal SHA-1 of some bytes. -/
  sha1 : Bytes → JsString
  /-- Whether iterating a folder yields its trashed children too. -/
  yieldsTrashed : Bool
  /-- Whether `IntegrityError` is one of the SDK's `ValidationError`s. -/
  integrityIsValidation : Bool
  /-- `new URL(text).pathname`, or nothing where the constructor throws. -/
  urlPathname : JsString → Option JsString

/-- The name a node is addressed by. -/
def Platform.getName (platform : Platform) (node : NodeEntity) : JsString :=
  platform.showName node.name

/-- A platform that names nodes by their decrypted names and knows the SHA-1 of
the listed contents. -/
def Platform.plain (digests : List (Bytes × JsString)) : Platform where
  rootPath := "/my-files"
  showName name := name.value
  showName_ok _ _ := rfl
  getLocalFileMediaType _ := "application/octet-stream"
  sha1 bytes := (digests.lookup bytes).getD (List.replicate 40 '0')
  yieldsTrashed := false
  integrityIsValidation := false
  urlPathname _ := none

end DriveWebdav
