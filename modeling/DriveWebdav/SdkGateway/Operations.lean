import DriveWebdav.SdkGateway.Resolve

/-! # Gateway operations

The operations of the gateway over the SDK. -/

namespace DriveWebdav

/-- Re-wrap a request body. Each pull reads one chunk of the source and hands it
on; the wrapper closes or fails when the source does. -/
def ownedStream : BodyStream → BodyStream
  | .done => .done
  | .failed => .failed
  | .value chunk rest => .value chunk (ownedStream rest)

/-- The wrapper neither loses, adds nor changes a byte. -/
@[simp] theorem bytes_ownedStream (src : BodyStream) : (ownedStream src).bytes = src.bytes := by
  induction src with
  | done => rfl
  | failed => rfl
  | value chunk rest induction => simp only [ownedStream, BodyStream.bytes, induction]

/-- `body.cancel().catch(() => {})`. -/
def cancelBody : SdkOperation Unit :=
  tryCatch (Program.request SdkCall.cancelBody) fun _ => pure ()

def releaseBody : SdkOperation Unit :=
  tryCatch (Program.request SdkCall.releaseBody) fun _ => pure ()

/-- Refuse an upload, once its body has been let go. -/
def refusePut {α : Type} (error : GatewayError) : SdkOperation α := do
  cancelBody
  reject error

def resultError : NodeResult → Option SdkError
  | .ok _ => none
  | .error error => some error

/-- Go through the results of a call on several nodes. The first that is not
`ok` is thrown, and so is an error of the iteration. -/
def eachOk (results : Yielded NodeResult) (thrown : SdkError → Thrown) :
    SdkOperation Unit :=
  match results.items.findSome? resultError with
  | some error => throw (thrown error)
  | none =>
      match results.failure with
      | some error => throw (.sdk error)
      | none => pure ()

section

variable (platform : Platform)

/-! ## Uploads -/

/-- What is found at the path of an upload. -/
inductive PutTarget
  | free
  | identical
  | immutable
  | revise (uid : Uid)
  | collection

/-- Decide on an upload from the node at its path. -/
def putTarget (opts : PutOptions) : Option NodeEntity → PutTarget
  | none => .free
  | some existing =>
      if existing.type = .folder then .collection
      else
        match existing.type, existing.activeRevision with
        | .file, some revision =>
            let currentSha1 := revision.claimedSha1.map JsString.toLowerCase
            if (truthy opts.sha1).isSome && currentSha1 = opts.sha1 &&
                (opts.size = none ||
                  revision.claimedSize.map (fun size => (size : Int)) = opts.size) then
              .identical
            else if opts.immutable then .immutable
            else .revise existing.uid
        | _, _ => .free

def putMetadata (p : JsString) (opts : PutOptions) : UploadMetadata where
  mediaType := platform.getLocalFileMediaType (baseName p)
  expectedSize := opts.size
  expectedSha1 := truthy opts.sha1
  modificationTime := opts.mtime
  overrideExistingDraftByOtherClient := opts.overrideOtherClientDraftForPath = some p

def requestUploader (p : JsString) (parent : NodeEntity) (revisionOfUid : Option Uid)
    (opts : PutOptions) : SdkOperation Uploader :=
  match revisionOfUid with
  | some uid =>
      Program.request (SdkCall.getFileRevisionUploader uid (putMetadata platform p opts))
  | none =>
      Program.request
        (SdkCall.getFileUploader parent (baseName p) (putMetadata platform p opts))

/-- What is done when an upload has failed. -/
def abandonUpload (p : JsString) : SdkOperation Unit := do
  releaseBody
  Program.modify (invalidate p)

/-- The upload itself, until the SDK has confirmed the commit. -/
def upload (p : JsString) (parent : NodeEntity) (revisionOfUid : Option Uid) (body : BodyStream)
    (opts : PutOptions) : SdkOperation PutResult :=
  tryCatch
    (do
      let uploader ← requestUploader platform p parent revisionOfUid opts
      let controller ← Program.request (SdkCall.uploadFromStream uploader (ownedStream body))
      Program.request (SdkCall.completion controller)
      Program.modify (invalidate p)
      pure (if revisionOfUid.isSome then .updated else .created))
    (fun error => do
      abandonUpload p
      throw (mapUploadError platform p error))

def putInto (p : JsString) (parent : NodeEntity) (body : BodyStream) (opts : PutOptions) :
    SdkOperation PutResult := do
  let existing ← resolve platform p true
  match putTarget opts existing with
  | .collection => refusePut (.plain "A collection exists at this path" 405)
  | .identical => do
      cancelBody
      pure .skippedIdentical
  | .immutable =>
      refusePut (.immutablePrecondition (("Immutable: " : JsString) ++ p ++
        (if (truthy opts.sha1).isSome then " exists with different content"
          else " exists and no OC-Checksum was supplied to prove identity" : JsString)))
  | .revise uid => upload platform p parent (some uid) body opts
  | .free => upload platform p parent none body opts

/-- The parent of an upload. If it cannot be looked up, the body is let go. -/
def resolveParent (p : JsString) : SdkOperation (Option NodeEntity) :=
  tryCatch (resolve platform (parentPath p) false) fun error => do
    cancelBody
    throw (mapGenericError platform error)

def parentMissing (p : JsString) : GatewayError :=
  .conflict (("Parent collection does not exist: " : JsString) ++ parentPath p)

def put (path : JsString) (body : BodyStream) (opts : PutOptions) : SdkOperation PutResult :=
  let p := normalize path
  if isRoot p then refusePut (.plain "Cannot PUT to the root collection" 405)
  else if !isSafeSegment (baseName p) then refusePut (.plain "Invalid file name" 400)
  else if (truthy opts.sha1).any fun digest => !isSha1 digest then
    refusePut (.plain "Malformed OC-Checksum SHA1" 400)
  else do
    match ← resolveParent platform p with
    | none => refusePut (parentMissing p)
    | some parent =>
        if parent.type ≠ .folder then refusePut (parentMissing p)
        else putInto platform p parent body opts

/-! ## Collections, removal, moves and copies -/

def createFolderError (p : JsString) : Thrown → Thrown
  | .sdk error =>
      match error.errorClass with
      | .nodeWithSameNameExists _ =>
          .gateway (.alreadyExists (("Already exists: " : JsString) ++ p))
      | _ => mapGenericError platform (.sdk error)
  | .gateway error => .gateway error

/-- Record a folder under its path. Its parent is not recorded. -/
def cacheCreated (p : JsString) (uid : Uid) (memory : ServiceMemory) : ServiceMemory :=
  { memory with
    resolveCache :=
      memory.resolveCache.set p ⟨uid, none, memory.now + RESOLVE_CACHE_TTL_MS⟩ }

def mkcolIn (p : JsString) (parent : NodeEntity) : SdkOperation Unit := do
  match ← resolve platform p true with
  | some _ => reject (.alreadyExists (("Already exists: " : JsString) ++ p))
  | none =>
      tryCatch
        (do
          let created ← Program.request (SdkCall.createFolder parent (baseName p))
          Program.modify (cacheCreated p created.uid))
        (fun error => throw (createFolderError platform p error))

def mkcol (path : JsString) : SdkOperation Unit :=
  let p := normalize path
  if isRoot p then reject .alreadyExistsDefault
  else if !isSafeSegment (baseName p) then reject (.plain "Invalid collection name" 400)
  else do
    match ← resolve platform (parentPath p) false with
    | none => reject (parentMissing p)
    | some parent =>
        if parent.type ≠ .folder then reject (parentMissing p)
        else mkcolIn platform p parent

def remove (path : JsString) : SdkOperation Unit :=
  let p := normalize path
  if isRoot p then reject (.plain "Refusing to remove the root collection" 403)
  else do
    let node ← resolveOrThrow platform p
    let results ← Program.request (SdkCall.trashNodes [node])
    eachOk results fun error => mapGenericError platform (.sdk error)
    Program.modify (invalidate p)

def destinationParentMissing (d : JsString) : GatewayError :=
  .conflict (("Destination parent does not exist: " : JsString) ++ parentPath d)

def destinationExists (d : JsString) : GatewayError :=
  .immutablePrecondition (("Destination exists: " : JsString) ++ d)

/-- Where a MOVE or COPY puts its node: an existing folder in which the name of
`d` is free. -/
def resolveDestination (d : JsString) : SdkOperation NodeEntity := do
  match ← resolve platform (parentPath d) false with
  | none => reject (destinationParentMissing d)
  | some dstParent =>
      if dstParent.type ≠ .folder then reject (destinationParentMissing d)
      else if !isSafeSegment (baseName d) then
        reject (.plain "Invalid destination name" 400)
      else do
        match ← resolve platform d true with
        | some _ => reject (destinationExists d)
        | none => pure dstParent

def partiallyMoved (d landed : JsString) : GatewayError :=
  .plain (("Partially completed move: the file is now at " : JsString) ++ landed ++
    (", not " : JsString) ++ d ++ (". Rename it or move it back." : JsString)) 500

def relocate (s d : JsString) (node dstParent : NodeEntity) : SdkOperation Unit :=
  if parentPath s = parentPath d then pure ()
  else do
    let results ← Program.request (SdkCall.moveNodes [node] dstParent)
    eachOk results .sdk

def renameTo (s d : JsString) (node : NodeEntity) : SdkOperation Unit :=
  if baseName s = baseName d then pure ()
  else
    tryCatch (Program.request (SdkCall.renameNode node (baseName d))) fun _ =>
      reject (partiallyMoved d (join (parentPath d) (baseName s)))

def moveNode (s d : JsString) (node dstParent : NodeEntity) : SdkOperation Unit :=
  (mapErrors platform (do
    relocate s d node dstParent
    renameTo s d node)).finallyDo
    (Program.modify fun memory => invalidate d (invalidate s memory))

def move (src dst : JsString) : SdkOperation Unit :=
  let s := normalize src
  let d := normalize dst
  if isRoot s || isRoot d then reject (.plain "Cannot move the root collection" 403)
  else if d = s || (s ++ ['/']).isPrefixOf d then
    reject (.plain "Cannot move a collection into itself" 409)
  else do
    let node ← resolveOrThrow platform s
    let dstParent ← resolveDestination platform d
    moveNode platform s d node dstParent

def copyNode (d : JsString) (node dstParent : NodeEntity) : SdkOperation Unit :=
  (mapErrors platform (do
    let results ← Program.request (SdkCall.copyNodes [(node.uid, baseName d)] dstParent)
    eachOk results .sdk)).finallyDo (Program.modify (invalidate d))

def copy (src dst : JsString) : SdkOperation Unit :=
  let s := normalize src
  let d := normalize dst
  do
    let node ← resolveOrThrow platform s
    if node.type ≠ .file then
      reject (.plain "Server-side copy of collections is not supported" 501)
    else do
      let dstParent ← resolveDestination platform d
      copyNode platform d node dstParent

end

end DriveWebdav
