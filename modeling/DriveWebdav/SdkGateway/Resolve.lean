import DriveWebdav.Paths
import DriveWebdav.SdkGateway.Errors

/-! # Path resolution

From a path to a node, one segment at a time, with a cache of what earlier
lookups found. -/

namespace DriveWebdav

def RESOLVE_CACHE_TTL_MS : Nat := 30000

def RESOLVE_CACHE_MAX_ENTRIES : Nat := 20000

/-- An operation of the gateway over the SDK. -/
abbrev SdkOperation := Operation SdkCall SdkAnswer

def isSha1 (digest : JsString) : Bool :=
  digest.length = 40 && digest.all fun character =>
    JsString.isDigit character ||
      (0x61 ≤ character.toNat && character.toNat ≤ 0x66)

/-! ## The path cache -/

def cachePath (path : JsString) (uid : Uid) (parentUid : Option Uid)
    (memory : ServiceMemory) : ServiceMemory :=
  let kept :=
    if RESOLVE_CACHE_MAX_ENTRIES ≤ memory.resolveCache.size then
      memory.resolveCache.dropOldest (max 1 (RESOLVE_CACHE_MAX_ENTRIES / 10))
    else memory.resolveCache
  { memory with
    resolveCache := kept.set path ⟨uid, parentUid, memory.now + RESOLVE_CACHE_TTL_MS⟩ }

/-- Whether `invalidate(path)` drops the entry of `key`. -/
def isAtOrBelow (path key : JsString) : Bool :=
  key = normalize path || (normalize path ++ ['/']).isPrefixOf key

def invalidate (path : JsString) (memory : ServiceMemory) : ServiceMemory :=
  { memory with resolveCache := memory.resolveCache.filter fun key _ => !isAtOrBelow path key }

def uncache (path : JsString) (memory : ServiceMemory) : ServiceMemory :=
  { memory with resolveCache := memory.resolveCache.delete path }

section

variable (platform : Platform)

/-! ## Lookup -/

def getRootUid : SdkOperation Uid := do
  let memory ← Program.read
  match memory.rootUid with
  | some rootUid => pure rootUid
  | none => do
      let node ← Program.request SdkCall.getPathNode
      if node.type ≠ .folder then
        reject (.plain (("Configured root " : JsString) ++ platform.rootPath ++
          (" is not a folder" : JsString)) 500)
      else do
        Program.modify fun memory => { memory with rootUid := some node.uid }
        pure node.uid

/-- Whether a node fetched for a cached path is still taken for that path. -/
def stillMatches (name : JsString) (cached : Resolved) (includeDrafts : Bool)
    (node : NodeEntity) : Bool :=
  platform.getName node = name &&
    (cached.parentUid.isNone || node.parentUid = cached.parentUid) &&
    !node.trashed &&
    (includeDrafts || node.type ≠ .file || node.activeRevision.isSome)

/-- Fetch a cached node again, and take it if it still fits. -/
def refetch (name : JsString) (cached : Resolved) (includeDrafts : Bool) :
    SdkOperation (Option NodeEntity) :=
  tryCatch
    (do
      let node ← Program.request (SdkCall.getNode cached.uid)
      pure (if stillMatches platform name cached includeDrafts node then some node else none))
    (fun _ => pure none)

/-- Take what the cache had for a path, or drop its entry. -/
def keepOrUncache (path : JsString) : Option NodeEntity → SdkOperation (Option NodeEntity)
  | some node => pure (some node)
  | none => do
      Program.modify (uncache path)
      pure none

/-- Serve a path from the cache. -/
def resolveCached (path name : JsString) (includeDrafts : Bool) :
    SdkOperation (Option NodeEntity) := do
  let memory ← Program.read
  match memory.resolveCache.get path with
  | none => pure none
  | some cached =>
      if memory.now < cached.expiresAt then
        refetch platform name cached includeDrafts >>= keepOrUncache path
      else pure none

/-- The first item of an iteration that satisfies a test, after which the
iteration stops; an error that comes before it is thrown. -/
def firstYielded {α : Type} (test : α → Bool) (yielded : Yielded α) :
    SdkOperation (Option α) :=
  match yielded.items.find? test with
  | some item => pure (some item)
  | none =>
      match yielded.failure with
      | some error => throw (.sdk error)
      | none => pure none

/-- Take a child that was found for `path`, and cache it. -/
def takeChild (parent : NodeEntity) (path : JsString) (includeDrafts : Bool) :
    Option NodeEntity → SdkOperation (Option NodeEntity)
  | none => pure none
  | some found =>
      if found.isDraft && !includeDrafts then pure none
      else if found.trashed then pure none
      else do
        Program.modify (cachePath path found.uid (some parent.uid))
        pure (some found)

/-- Look a name up in a directory. -/
def resolveIn (parent : NodeEntity) (path name : JsString) (includeDrafts : Bool) :
    SdkOperation (Option NodeEntity) := do
  let children ← Program.request (SdkCall.iterateFolderChildren parent (some name))
  let found ← firstYielded (fun child => platform.getName child = name) children
  takeChild parent path includeDrafts found

/-- Look a name up in what its parent path resolved to. -/
def resolveBelow (path name : JsString) (includeDrafts : Bool) :
    Option NodeEntity → SdkOperation (Option NodeEntity)
  | none => pure none
  | some parent =>
      if parent.type ≠ .folder then pure none
      else resolveIn platform parent path name includeDrafts

def getRoot (rootUid : Uid) : SdkOperation (Option NodeEntity) := do
  let node ← Program.request (SdkCall.getNode rootUid)
  pure (some node)

/-- The folder a path is looked up in: the root itself, or what the path above
resolves to. -/
def folderAbove (rootUid : Uid) (resolved : SdkOperation (Option NodeEntity)) :
    List JsString → SdkOperation (Option NodeEntity)
  | [] => getRoot rootUid
  | _ :: _ => resolved

/-- Resolve the path whose segments, last first, are given. -/
def resolveSegments : List JsString → Bool → SdkOperation (Option NodeEntity)
  | [], _ => getRootUid platform >>= getRoot
  | name :: above, includeDrafts =>
      let path := absolute (name :: above).reverse
      getRootUid platform >>= fun rootUid =>
        resolveCached platform path name includeDrafts >>= fun
          | some node => pure (some node)
          | none =>
              folderAbove rootUid (resolveSegments above false) above >>=
                resolveBelow platform path name includeDrafts

def resolve (path : JsString) (includeDrafts : Bool) : SdkOperation (Option NodeEntity) :=
  if (segments path).all isSafeSegment then
    resolveSegments platform (segments path).reverse includeDrafts
  else reject (.plain "Invalid path segment" 400)

def resolveOrThrow (path : JsString) : SdkOperation NodeEntity := do
  match ← resolve platform path false with
  | none => reject (.notFound (("Not found: " : JsString) ++ path))
  | some node => pure node

/-! ## Metadata -/

def toEntry (node : NodeEntity) : Option DriveEntry :=
  let name := platform.getName node
  if node.type = .other || node.trashed || !node.name.ok || !isSafeSegment name then none
  else if node.type = .folder then
    some ⟨name, true, 0, node.folderModificationTime.getD node.modificationTime, none⟩
  else
    match node.activeRevision with
    | none => none
    | some rev =>
        match rev.claimedSize with
        | none => none
        | some size =>
            let digest := (rev.claimedSha1.map JsString.toLowerCase).filter isSha1
            some ⟨name, false, size,
              rev.claimedModificationTime.getD node.modificationTime, digest⟩

def stat (path : JsString) : SdkOperation (Option DriveEntry) := do
  match ← mapErrors platform (resolve platform path false) with
  | none => pure none
  | some node =>
      if isRoot path then pure (some ⟨[], true, 0, node.modificationTime, none⟩)
      else pure (toEntry platform node)

/-- The entries of a listing, each cached as it is added. The first of several
children with one name is kept. -/
def listEntries (path : JsString) (parent : Uid) :
    List NodeEntity → List JsString → SdkOperation (List DriveEntry)
  | [], _ => pure []
  | child :: rest, seen =>
      match toEntry platform child with
      | none => listEntries path parent rest seen
      | some entry =>
          if seen.contains entry.name then listEntries path parent rest seen
          else do
            Program.modify (cachePath (join path entry.name) child.uid (some parent))
            let others ← listEntries path parent rest (entry.name :: seen)
            pure (entry :: others)

/-- The entries of the children an iteration yielded, and then its error, if any. -/
def listChildren (path : JsString) (parent : Uid) (children : Yielded NodeEntity) :
    SdkOperation (List DriveEntry) := do
  let out ← listEntries platform path parent children.items []
  match children.failure with
  | some error => throw (mapGenericError platform (.sdk error))
  | none => pure out

def list (path : JsString) : SdkOperation (List DriveEntry) := do
  let node ← mapErrors platform (resolveOrThrow platform path)
  if node.type ≠ .folder then
    reject (.notFound (("Not a directory: " : JsString) ++ path))
  else do
    let children ← mapErrors platform
      (Program.request (SdkCall.iterateFolderChildren node none))
    listChildren platform path node.uid children

end

end DriveWebdav
