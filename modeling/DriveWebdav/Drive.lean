import DriveWebdav.Foundation.InsertionMap
import DriveWebdav.Paths
import DriveWebdav.Sdk

/-! # The remote tree

The nodes that the SDK gives access to, as parent pointers, and what a path
means in them. -/

namespace DriveWebdav

/-- A node as the store keeps it. `bytes` is the content of the committed
revision; `ownDraft` tells whose unfinished upload a file without one is. -/
structure DriveNode where
  parentUid : Option Uid
  name : NodeName
  type : NodeType
  trashed : Bool
  activeRevision : Option Revision
  bytes : Bytes
  ownDraft : Bool
  folderModificationTime : Option Date
  modificationTime : Date
  deriving DecidableEq, Repr

namespace DriveNode

def entity (uid : Uid) (node : DriveNode) : NodeEntity where
  uid := uid
  parentUid := node.parentUid
  name := node.name
  type := node.type
  trashed := node.trashed
  activeRevision := node.activeRevision
  folderModificationTime := node.folderModificationTime
  modificationTime := node.modificationTime

def isDraft (node : DriveNode) : Bool := node.type = .file && node.activeRevision.isNone

/-- An unfinished upload of another client. -/
def isForeignDraft (node : DriveNode) : Bool := node.isDraft && !node.ownDraft

/-- A folder that is not trashed. -/
def folder (parentUid : Option Uid) (name : JsString) : DriveNode :=
  ⟨parentUid, ⟨true, name⟩, .folder, false, none, [], false, none, ⟨some 0⟩⟩

/-- A committed file that is not trashed, with truthful claims. -/
def file (parentUid : Uid) (name : JsString) (bytes : Bytes) (sha1 : JsString) : DriveNode :=
  ⟨some parentUid, ⟨true, name⟩, .file, false,
    some ⟨some bytes.length, some sha1, true, none⟩, bytes, false, none, ⟨some 0⟩⟩

/-- An unfinished upload. -/
def draft (parentUid : Uid) (name : JsString) (ownDraft : Bool) : DriveNode :=
  ⟨some parentUid, ⟨true, name⟩, .file, false, none, [], ownDraft, none, ⟨some 0⟩⟩

end DriveNode

/-- `root` is the node of the configured root path. -/
structure Drive where
  root : Uid
  nodes : InsertionMap Uid DriveNode

namespace Drive

/-- A tree whose nodes are listed; of several with one identity the last counts. -/
def ofNodes (root : Uid) (nodes : List (Uid × DriveNode)) : Drive where
  root := root
  nodes := nodes.foldl (fun map entry => map.set entry.1 entry.2) .empty

def getNode (drive : Drive) (uid : Uid) : Option NodeEntity :=
  (drive.nodes.get uid).map (DriveNode.entity uid)

/-- Climb from a node to the root in at most so many steps, looking for `target`. -/
private def climbs (drive : Drive) (target : Uid) : Nat → Uid → Bool
  | 0, _ => false
  | steps + 1, uid =>
      uid = target ||
        match (drive.nodes.get uid).bind (·.parentUid) with
        | none => false
        | some parent => climbs drive target steps parent

/-- Whether a node is `target` or lies below it. No path up is longer than the
number of nodes. -/
def isAtOrBelow (drive : Drive) (target uid : Uid) : Bool :=
  climbs drive target (drive.nodes.size + 1) uid

/-- Trash a node and everything below it. -/
def trash (drive : Drive) (target : Uid) : Drive where
  root := drive.root
  nodes := drive.nodes.mapValues fun uid node =>
    if drive.isAtOrBelow target uid then { node with trashed := true } else node

/-- What an iteration of a folder's children yields. -/
def children (platform : Platform) (drive : Drive) (parent : Uid) : List NodeEntity :=
  drive.nodes.entries.filterMap fun entry =>
    if entry.2.parentUid = some parent && (platform.yieldsTrashed || !entry.2.trashed) then
      some (entry.2.entity entry.1)
    else none

/-- Walk the names of a path, last first, from the root. Only folders that are
not trashed are walked through, and drafts are seen only on request. -/
def visit (platform : Platform) (drive : Drive) : List JsString → Bool → Option NodeEntity
  | [], _ => drive.getNode drive.root
  | name :: above, includeDrafts =>
      (visit platform drive above false).bind fun parent =>
        if parent.type ≠ .folder then none
        else
          ((drive.children platform parent.uid).find? fun child =>
              platform.getName child = name).bind fun found =>
            if found.isDraft && !includeDrafts then none
            else if found.trashed then none
            else some found

/-- The node at a path. -/
def nodeAt (platform : Platform) (drive : Drive) (path : JsString)
    (includeDrafts : Bool) : Option NodeEntity :=
  if (segments path).all isSafeSegment then
    visit platform drive (segments path).reverse includeDrafts
  else none

/-- No two children that a listing yields have the same name. -/
def UniqueNames (platform : Platform) (drive : Drive) : Prop :=
  ∀ parent, ∀ first ∈ drive.children platform parent, ∀ second ∈ drive.children platform parent,
    platform.getName first = platform.getName second → first = second

/-- The folder with identity `uid` lies at the given segments. -/
def FolderAt (platform : Platform) (drive : Drive) (segs : List JsString) (uid : Uid) : Prop :=
  ∃ node, drive.visit platform segs.reverse false = some node ∧ node.type = .folder ∧
    node.uid = uid

variable {platform : Platform} {drive : Drive}

@[simp] theorem isAtOrBelow_self (uid : Uid) : drive.isAtOrBelow uid uid = true := by
  simp [isAtOrBelow, climbs]

theorem get_trash (target uid : Uid) :
    (drive.trash target).nodes.get uid =
      (drive.nodes.get uid).map fun node =>
        if drive.isAtOrBelow target uid then { node with trashed := true } else node :=
  InsertionMap.get_mapValues _ _ _

@[simp] theorem entity_uid (uid : Uid) (node : DriveNode) : (node.entity uid).uid = uid := rfl

theorem getNode_eq_some {uid : Uid} {node : NodeEntity} :
    drive.getNode uid = some node ↔
      ∃ stored, drive.nodes.get uid = some stored ∧ stored.entity uid = node := by
  simp [getNode]

theorem uid_of_getNode {uid : Uid} {node : NodeEntity} (found : drive.getNode uid = some node) :
    node.uid = uid := by
  rcases getNode_eq_some.mp found with ⟨stored, _, rfl⟩
  rfl

theorem mem_children {parent : Uid} {node : NodeEntity} :
    node ∈ drive.children platform parent ↔
      drive.getNode node.uid = some node ∧ node.parentUid = some parent ∧
        (platform.yieldsTrashed = true ∨ node.trashed = false) := by
  simp only [children, List.mem_filterMap, Option.ite_none_right_eq_some, Bool.and_eq_true,
    decide_eq_true_eq, Bool.or_eq_true, Bool.not_eq_true', getNode_eq_some,
    InsertionMap.get_eq_some_iff, Option.some.injEq]
  constructor
  · rintro ⟨⟨uid, stored⟩, member, ⟨inside, yielded⟩, rfl⟩
    exact ⟨⟨stored, member, rfl⟩, inside, yielded⟩
  · rintro ⟨⟨stored, member, same⟩, inside, yielded⟩
    refine ⟨(node.uid, stored), member, ⟨?_, ?_⟩, same⟩
    · rw [← same] at inside
      exact inside
    · rw [← same] at yielded
      exact yielded

theorem getNode_of_visit {segs : List JsString} {includeDrafts : Bool} {node : NodeEntity}
    (found : drive.visit platform segs includeDrafts = some node) :
    drive.getNode node.uid = some node := by
  cases segs with
  | nil =>
      have same := uid_of_getNode found
      rw [same]
      exact found
  | cons name above =>
      simp only [visit, Option.bind_eq_some_iff] at found
      rcases found with ⟨parent, _, found⟩
      split at found
      · cases found
      · simp only [Option.bind_eq_some_iff] at found
        rcases found with ⟨child, member, found⟩
        split at found
        · cases found
        · split at found
          · cases found
          · cases found
            exact (mem_children.mp (List.mem_of_find?_eq_some member)).1

/-- What a path below the root stands for: the child of that name in the folder
above it. -/
theorem visit_cons_eq_some {name : JsString} {above : List JsString} {includeDrafts : Bool}
    {node : NodeEntity} :
    drive.visit platform (name :: above) includeDrafts = some node ↔
      ∃ parent, FolderAt platform drive above.reverse parent ∧
        (drive.children platform parent).find?
          (fun child => platform.getName child = name) = some node ∧
        (node.isDraft = true → includeDrafts = true) ∧ node.trashed = false := by
  simp only [visit, Option.bind_eq_some_iff, FolderAt, List.reverse_reverse]
  constructor
  · rintro ⟨folder, walked, found⟩
    split at found
    · cases found
    · next isFolder =>
        simp only [Option.bind_eq_some_iff] at found
        rcases found with ⟨child, named, found⟩
        split at found
        · cases found
        · next visible =>
            split at found
            · cases found
            · next live =>
                cases found
                refine ⟨folder.uid, ⟨folder, walked, Decidable.of_not_not isFolder, rfl⟩,
                  named, ?_, by simpa using live⟩
                intro draft
                simpa [draft] using visible
  · rintro ⟨parent, ⟨folder, walked, isFolder, rfl⟩, named, visible, live⟩
    refine ⟨folder, walked, ?_⟩
    rw [if_neg (by simp [isFolder])]
    refine Option.bind_eq_some_iff.mpr ⟨node, named, ?_⟩
    rw [if_neg, if_neg (by simp [live])]
    cases draft : node.isDraft with
    | false => simp
    | true => simp [visible draft]

/-- What a path other than the root stands for. -/
theorem nodeAt_eq_some {path : JsString} {includeDrafts : Bool} {node : NodeEntity}
    (inside : isRoot path = false)
    (found : drive.nodeAt platform path includeDrafts = some node) :
    ∃ parent, FolderAt platform drive (segments (parentPath path)) parent ∧
      node ∈ drive.children platform parent ∧ platform.getName node = baseName path ∧
      node.trashed = false := by
  have below : segments path ≠ [] := fun root => by
    rw [isRoot_iff.mpr root] at inside
    cases inside
  rw [nodeAt] at found
  split at found
  · rw [segments_eq_concat below, List.reverse_concat, visit_cons_eq_some,
      List.reverse_reverse] at found
    rcases found with ⟨parent, lies, named, _, live⟩
    exact ⟨parent, lies, List.mem_of_find?_eq_some named,
      by simpa using List.find?_some named, live⟩
  · cases found

theorem FolderAt.unique {segs : List JsString} {first second : Uid}
    (left : FolderAt platform drive segs first) (right : FolderAt platform drive segs second) :
    first = second := by
  rcases left with ⟨node, walked, _, rfl⟩
  rcases right with ⟨other, again, _, rfl⟩
  rw [walked] at again
  cases again
  rfl

/-- In a tree with unique sibling names the child of a name is the only one. -/
theorem UniqueNames.find_eq_some (unique : UniqueNames platform drive) {parent : Uid}
    {node : NodeEntity} (member : node ∈ drive.children platform parent) :
    (drive.children platform parent).find?
      (fun child => platform.getName child = platform.getName node) = some node := by
  cases found : (drive.children platform parent).find?
      (fun child => platform.getName child = platform.getName node) with
  | none =>
      have absent := List.find?_eq_none.mp found node member
      simp at absent
  | some other =>
      have same := List.find?_some found
      rw [unique parent other (List.mem_of_find?_eq_some found) node member
        (by simpa using same)]

end Drive

end DriveWebdav
