import DriveWebdav.Drive
import DriveWebdav.SdkGateway.Lookup
import DriveWebdav.Webdav.Handlers

/-! # The gateway as calls

The handlers over a gateway of which nothing is known but what its operations
answer, and what `stat` truthfully answers about a tree. -/

namespace DriveWebdav

inductive GatewayCall
  | stat (path : JsString)
  | list (path : JsString)
  | read (path : JsString) (range : Option ByteRange)
  | put (path : JsString) (body : BodyStream) (opts : PutOptions)
  | mkcol (path : JsString)
  | remove (path : JsString)
  | move (src dst : JsString)
  | copy (src dst : JsString)
  | quota

abbrev GatewayAnswer (Stream : Type) : GatewayCall → Type
  | .stat _ => Option DriveEntry
  | .list _ => List DriveEntry
  | .read _ _ => ReadResult Stream
  | .put _ _ _ => PutResult
  | .mkcol _ => Unit
  | .remove _ => Unit
  | .move _ _ => Unit
  | .copy _ _ => Unit
  | .quota => Quota

/-- The gateway whose operations are single calls. -/
def calledGateway (Stream : Type) :
    DriveGateway GatewayCall (GatewayAnswer Stream) Stream where
  stat path := Program.request (GatewayCall.stat path)
  list path := Program.request (GatewayCall.list path)
  read path range := Program.request (GatewayCall.read path range)
  put path body opts := Program.request (GatewayCall.put path body opts)
  mkcol path := Program.request (GatewayCall.mkcol path)
  remove path := Program.request (GatewayCall.remove path)
  move src dst := Program.request (GatewayCall.move src dst)
  copy src dst := Program.request (GatewayCall.copy src dst)
  quota := Program.request GatewayCall.quota

/-- The entry that `stat` shows for a path: none where the node found there
cannot be represented. -/
def statEntry (platform : Platform) (drive : Drive) (path : JsString) : Option DriveEntry :=
  match drive.nodeAt platform path false with
  | none => none
  | some node =>
      if isRoot path then some ⟨[], true, 0, node.modificationTime, none⟩
      else toEntry platform node

/-- What `stat` answers when nothing fails. -/
def statAnswer (platform : Platform) (drive : Drive) (path : JsString) :
    Except Thrown (Option DriveEntry) :=
  if (segments path).all isSafeSegment then .ok (statEntry platform drive path)
  else .error (.gateway (.plain "Invalid path segment" 400))

/-- A DELETE of the path would trash something: a folder, or a file with a
committed revision. -/
def Trashable (platform : Platform) (drive : Drive) (path : JsString) : Prop :=
  isRoot path = false ∧
    ∃ node, drive.nodeAt platform path false = some node ∧
      (node.type = .folder ∨ (node.type = .file ∧ node.activeRevision.isSome = true))

theorem statAnswer_of_nodeAt {platform : Platform} {drive : Drive} {path : JsString}
    {node : NodeEntity} (found : drive.nodeAt platform path false = some node) :
    statAnswer platform drive path = .ok (statEntry platform drive path) := by
  unfold statAnswer
  split
  · rfl
  · next unsafePath =>
      rw [Drive.nodeAt, if_neg unsafePath] at found
      cases found

/-! ## What the handlers access and call -/

section

variable {Command : Type} {Answer : Command → Type} {Stream : Type}
  {gw : DriveGateway Command Answer Stream}
  {access : (ServiceMemory → ServiceMemory) → Prop} {issue : Command → Prop}

theorem within_statOrThrow (stats : ∀ path, (gw.stat path).Within access issue)
    (path : JsString) : (statOrThrow gw path).Within access issue := by
  apply Program.within_bind (stats path)
  intro entry
  cases entry with
  | none => exact Program.within_throw _
  | some entry => exact Program.within_pure _

theorem within_handlePropfind (stats : ∀ path, (gw.stat path).Within access issue)
    (lists : ∀ path, (gw.list path).Within access issue) (quotas : gw.quota.Within access issue)
    (req : Request) (path : JsString) : (handlePropfind gw req path).Within access issue := by
  unfold handlePropfind
  dsimp only
  split
  · exact Program.within_bind quotas fun _ => Program.within_pure _
  · apply Program.within_bind (within_statOrThrow stats path)
    intro self
    split
    · exact Program.within_bind (lists path) fun _ => Program.within_pure _
    · exact Program.within_pure _

theorem within_handleProppatch (stats : ∀ path, (gw.stat path).Within access issue)
    (req : Request) (path : JsString) : (handleProppatch gw req path).Within access issue :=
  Program.within_bind (within_statOrThrow stats path) fun _ => Program.within_pure _

theorem within_handleRecalculateHash (stats : ∀ path, (gw.stat path).Within access issue)
    (req : Request) (path : JsString) :
    (handleRecalculateHash gw req path).Within access issue := by
  unfold handleRecalculateHash
  split
  · exact Program.within_pure _
  · apply Program.within_bind (within_statOrThrow stats path)
    intro info
    split
    · exact Program.within_pure _
    · exact Program.within_pure _

theorem within_handleGet (stats : ∀ path, (gw.stat path).Within access issue)
    (reads : ∀ path range, (gw.read path range).Within access issue)
    (req : Request) (path : JsString) (headOnly : Bool) :
    (handleGet gw req path headOnly).Within access issue := by
  apply Program.within_bind (within_statOrThrow stats path)
  intro info
  split
  · exact Program.within_pure _
  · dsimp only
    split
    · exact Program.within_pure _
    · split
      · exact Program.within_pure _
      · exact Program.within_bind (reads path _) fun _ => Program.within_pure _
    · split
      · exact Program.within_pure _
      · exact Program.within_bind (reads path none) fun _ => Program.within_pure _

theorem within_handleTransfer {platform : Platform} {req : Request}
    {transfer : JsString → Operation Command Answer Unit}
    (transfers : ∀ destination, (transfer destination).Within access issue) :
    (handleTransfer platform req transfer : Operation Command Answer (Response Stream)).Within
      access issue := by
  unfold handleTransfer
  split
  · exact Program.within_throw _
  · exact Program.within_bind (transfers _) fun _ => Program.within_pure _

end

end DriveWebdav
