import DriveWebdav.Drive.Changes
import DriveWebdav.FileServer

/-! # What is seen of the remote tree

The folders and the committed files of a drive as the tree of a file server, and how it changes
with the nodes. -/

namespace DriveWebdav

namespace Drive

/-- What a node shows to whoever meets it. -/
def shown (drive : Drive) (node : NodeEntity) : Option Shown :=
  match node.type with
  | .folder => some .folder
  | .file => (drive.nodes.get node.uid).map fun stored => .file stored.bytes
  | .other => none

def tree (platform : Platform) (drive : Drive) : ShownTree := fun q =>
  (drive.visit platform q.reverse false).bind drive.shown

variable {platform : Platform} {drive changed : Drive} {segs q : List JsString} {uid : Uid}
  {name : JsString}

/-- A folder is seen where it lies. -/
theorem tree_folder : drive.tree platform segs = some .folder ↔
    ∃ uid, FolderAt platform drive segs uid := by
  unfold tree FolderAt
  cases visited : drive.visit platform segs.reverse false with
  | none => simp
  | some node =>
      rw [Option.bind_some, shown]
      cases type : node.type with
      | folder => simp [type]
      | file => simp [type, Option.map_eq_some_iff]
      | other => simp [type]

theorem tree_eq_none_of_visit (absent : drive.visit platform q.reverse false = none) :
    drive.tree platform q = none := by
  rw [tree, absent]
  rfl

/-- What is seen of the same node, with the same bytes, is the same. -/
theorem tree_congr {before : List JsString}
    (same : changed.visit platform q.reverse false = drive.visit platform before.reverse false)
    (kept : ∀ node, drive.visit platform before.reverse false = some node →
      changed.shown node = drive.shown node) :
    changed.tree platform q = drive.tree platform before := by
  rw [tree, tree, same]
  cases visited : drive.visit platform before.reverse false with
  | none => rfl
  | some node => exact kept node visited

theorem shown_congr {node : NodeEntity}
    (same : changed.nodes.get node.uid = drive.nodes.get node.uid) :
    changed.shown node = drive.shown node := by
  unfold shown
  rw [same]

/-- Whatever is seen lies in folders. -/
theorem grounded_tree (root : ∃ node, drive.getNode drive.root = some node ∧ node.type = .folder) :
    (drive.tree platform).Grounded .folder where
  root := by
    rcases root with ⟨node, fetched, isFolder⟩
    exact tree_folder.mpr ⟨node.uid, node, fetched, isFolder, rfl⟩
  above path name present := by
    rw [tree, List.reverse_concat] at present
    cases visited : drive.visit platform (name :: path.reverse) false with
    | none =>
        rw [visited] at present
        exact absurd rfl present
    | some node =>
        rcases visit_cons_eq_some.mp visited with ⟨parent, lies, _⟩
        rw [List.reverse_reverse] at lies
        exact tree_folder.mpr ⟨parent, lies⟩

/-! ## Changes at one name -/

theorem ChangesAt.tree_eq (changes : ChangesAt platform uid name drive changed)
    (before : Plain platform drive) (lies : FolderAt platform drive segs uid)
    (apart : q ≠ segs ++ [name]) : changed.tree platform q = drive.tree platform q := by
  have names : q.reverse ≠ name :: segs.reverse := by
    rw [← List.reverse_concat, ne_eq, List.reverse_inj]
    exact apart
  apply tree_congr (changes.visit_eq before lies false names)
  intro node visited
  rcases getNode_eq_some.mp (getNode_of_visit visited) with ⟨stored, located, _⟩
  have elsewhere := before.not_isAt lies visited located names
  apply shown_congr
  rw [located, (changes.elsewhere node.uid stored elsewhere).mpr located]

/-- A change at one name is seen at one path only. -/
theorem ChangesAt.tree (changes : ChangesAt platform uid name drive changed)
    (before : Plain platform drive) (lies : FolderAt platform drive segs uid) :
    changed.tree platform = Function.update (drive.tree platform) (segs ++ [name])
      (changed.tree platform (segs ++ [name])) := by
  funext q
  by_cases here : q = segs ++ [name]
  · rw [here, Function.update_self]
  · rw [Function.update_of_ne here, changes.tree_eq before lies here]

/-- What is found in a folder under a name is what its path leads to. -/
theorem Plain.visit_isAt (plain : Plain platform drive) (lies : FolderAt platform drive segs uid)
    {spot : Uid} {stored : DriveNode} (located : drive.nodes.get spot = some stored)
    (there : stored.IsAt platform uid name) {includeDrafts : Bool}
    (committed : (stored.entity spot).isDraft = true → includeDrafts = true) :
    drive.visit platform (segs ++ [name]).reverse includeDrafts = some (stored.entity spot) := by
  rw [List.reverse_concat, visit_cons_eq_some, List.reverse_reverse]
  exact ⟨uid, lies, plain.find?_eq_some.mpr ⟨stored, located, rfl, there⟩, committed,
    plain.untrashed spot stored located⟩

theorem Plain.tree_file (plain : Plain platform drive) (lies : FolderAt platform drive segs uid)
    {spot : Uid} {stored : DriveNode} (located : drive.nodes.get spot = some stored)
    (there : stored.IsAt platform uid name) (isFile : stored.type = .file)
    (committed : stored.activeRevision ≠ none) :
    drive.tree platform (segs ++ [name]) = some (.file stored.bytes) := by
  have visited : drive.visit platform (segs ++ [name]).reverse false =
      some (stored.entity spot) := by
    apply plain.visit_isAt lies located there
    intro draft
    simp only [NodeEntity.isDraft, DriveNode.entity, Bool.and_eq_true] at draft
    exact absurd (Option.isNone_iff_eq_none.mp draft.2) committed
  have isFile : (stored.entity spot).type = .file := isFile
  rw [Drive.tree, visited, Option.bind_some, shown, isFile, entity_uid, located]
  rfl

end Drive

end DriveWebdav
