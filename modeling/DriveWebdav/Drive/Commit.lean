import DriveWebdav.Drive

/-! # Commits

What the completion of an upload makes of the tree. Folders stay where they
are. -/

namespace DriveWebdav

namespace Drive

/-- A committed revision replaces what a file had before. -/
def revise (drive : Drive) (uid : Uid) (revision : Revision) (bytes : Bytes) : Drive where
  root := drive.root
  nodes := drive.nodes.mapValues fun other node =>
    if other = uid then { node with activeRevision := some revision, bytes := bytes } else node

def newFile (parent : Uid) (name : JsString) (revision : Revision) (bytes : Bytes)
    (moment : Date) : DriveNode :=
  ⟨some parent, ⟨true, name⟩, .file, false, some revision, bytes, false, none, moment⟩

/-- The drafts that a new file of a name takes the place of. -/
def displaced (platform : Platform) (parent : Uid) (name : JsString)
    (node : DriveNode) : Bool :=
  node.isDraft && node.parentUid = some parent && platform.showName node.name = name

/-- A committed file appears, in place of the drafts of its name. -/
def addFile (platform : Platform) (drive : Drive) (uid parent : Uid) (name : JsString)
    (revision : Revision) (bytes : Bytes) (moment : Date) : Drive where
  root := drive.root
  nodes := (drive.nodes.filter fun _ node => !displaced platform parent name node).set uid
    (newFile parent name revision bytes moment)

/-- A committed file that is not trashed lies at a path. -/
def HoldsFile (platform : Platform) (drive : Drive) (path : JsString) (stored : DriveNode)
    (revision : Revision) : Prop :=
  stored.type = .file ∧ stored.trashed = false ∧ stored.activeRevision = some revision ∧
    platform.showName stored.name = baseName path ∧
    ∃ uid parent, drive.nodes.get uid = some stored ∧ stored.parentUid = some parent ∧
      FolderAt platform drive (segments (parentPath path)) parent

variable {platform : Platform} {drive changed : Drive}

/-- A folder stays at its path if the root and every folder found by name are
found as before. -/
theorem FolderAt.mono {segs : List JsString} {uid : Uid}
    (lies : FolderAt platform drive segs uid)
    (root : ∀ node, drive.getNode drive.root = some node → node.type = .folder →
      changed.getNode changed.root = some node)
    (kept : ∀ parent name node,
      (drive.children platform parent).find? (fun child => platform.getName child = name) =
        some node → node.type = .folder →
      (changed.children platform parent).find? (fun child => platform.getName child = name) =
        some node) :
    FolderAt platform changed segs uid := by
  rcases lies with ⟨node, walked, isFolder, rfl⟩
  refine ⟨node, ?_, isFolder, rfl⟩
  generalize segs.reverse = reversed at walked
  induction reversed generalizing node with
  | nil => exact root node walked isFolder
  | cons name above induction =>
      rcases visit_cons_eq_some.mp walked with ⟨parent, ⟨folder, up, upFolder, rfl⟩, found, _, live⟩
      rw [List.reverse_reverse] at up
      refine visit_cons_eq_some.mpr ⟨folder.uid, ⟨folder, ?_, upFolder, rfl⟩,
        kept _ _ _ found isFolder, ?_, live⟩
      · rw [List.reverse_reverse]
        exact induction folder upFolder up
      · intro draft
        simp [NodeEntity.isDraft, isFolder] at draft

/-- How a commit changes the entity of a node. -/
private def revised (uid : Uid) (revision : Revision) (node : NodeEntity) : NodeEntity :=
  if node.uid = uid then { node with activeRevision := some revision } else node

private theorem revised_of_ne {uid : Uid} {revision : Revision} {node : NodeEntity}
    (other : node.uid ≠ uid) : revised uid revision node = node :=
  if_neg other

private theorem entity_revise (uid other : Uid) (revision : Revision) (bytes : Bytes)
    (node : DriveNode) :
    (if other = uid then { node with activeRevision := some revision, bytes := bytes }
      else node : DriveNode).entity other = revised uid revision (node.entity other) := by
  unfold revised
  by_cases same : other = uid
  · simp [same, DriveNode.entity]
  · simp [same]

private theorem children_revise (uid parent : Uid) (revision : Revision) (bytes : Bytes) :
    (drive.revise uid revision bytes).children platform parent =
      (drive.children platform parent).map (revised uid revision) := by
  simp only [children, revise, InsertionMap.mapValues, List.filterMap_map, List.map_filterMap]
  congr 1
  funext entry
  rcases entry with ⟨other, node⟩
  simp only [Function.comp_apply, entity_revise]
  have same : (if other = uid then { node with activeRevision := some revision, bytes := bytes }
      else node : DriveNode).parentUid = node.parentUid ∧
      (if other = uid then { node with activeRevision := some revision, bytes := bytes }
        else node : DriveNode).trashed = node.trashed := by
    split <;> exact ⟨rfl, rfl⟩
  rw [same.1, same.2]
  split <;> rfl

private theorem getName_revised (uid : Uid) (revision : Revision) (node : NodeEntity) :
    platform.getName (revised uid revision node) = platform.getName node := by
  unfold revised
  split <;> rfl

/-- Revising a file moves no folder. -/
theorem FolderAt.revise {segs : List JsString} {uid file : Uid} {stored : DriveNode}
    (revision : Revision) (bytes : Bytes) (lies : FolderAt platform drive segs uid)
    (found : drive.nodes.get file = some stored) (isFile : stored.type = .file) :
    FolderAt platform (drive.revise file revision bytes) segs uid := by
  have other : ∀ node, drive.getNode node.uid = some node → node.type = .folder →
      node.uid ≠ file := by
    intro node fetched isFolder same
    rcases getNode_eq_some.mp fetched with ⟨original, located, equal⟩
    rw [same, found] at located
    cases located
    have isFolder' : stored.type = .folder := (congrArg NodeEntity.type equal).trans isFolder
    rw [isFile] at isFolder'
    cases isFolder'
  refine lies.mono (fun node fetched isFolder => ?_) fun parent name node named isFolder => ?_
  · have uid := uid_of_getNode fetched
    have apart := other node (by rw [uid]; exact fetched) isFolder
    rcases getNode_eq_some.mp fetched with ⟨original, located, rfl⟩
    refine getNode_eq_some.mpr ⟨original, ?_, rfl⟩
    simp only [Drive.revise, InsertionMap.get_mapValues, located, Option.map_some]
    exact congrArg some (if_neg apart)
  · have member := mem_children.mp (List.mem_of_find?_eq_some named)
    have test : ((fun child => decide (platform.getName child = name)) ∘
        revised file revision) = fun child => decide (platform.getName child = name) := by
      funext child
      simp [getName_revised]
    rw [children_revise, List.find?_map, test, named, Option.map_some,
      revised_of_ne (other node member.1 isFolder)]

theorem get_revise {uid : Uid} {stored : DriveNode} (revision : Revision) (bytes : Bytes)
    (found : drive.nodes.get uid = some stored) :
    (drive.revise uid revision bytes).nodes.get uid =
      some { stored with activeRevision := some revision, bytes := bytes } := by
  simp [revise, InsertionMap.get_mapValues, found]

private theorem find?_of_kept {α : Type} {items : List α} {keep test : α → Bool} {item : α}
    (found : items.find? test = some item) (kept : keep item = true) :
    (items.filter keep).find? test = some item := by
  rw [List.find?_filter]
  rcases List.find?_eq_some_iff_append.mp found with ⟨fits, before, after, rfl, others⟩
  refine List.find?_eq_some_iff_append.mpr ⟨by simp [kept, fits], before, after, rfl, ?_⟩
  intro other member
  have failed : test other = false := by simpa using others other member
  simp [failed]

private theorem get_kept {uid : Uid} (fresh : drive.nodes.get uid = none)
    (keep : Uid → DriveNode → Bool) : (drive.nodes.filter keep).get uid = none := by
  rw [Option.eq_none_iff_forall_ne_some]
  intro stored located
  rw [InsertionMap.get_filter, fresh] at located
  cases located.1

private theorem find?_addFile {uid parent : Uid} {name : JsString} {revision : Revision}
    {bytes : Bytes} {moment : Date} (fresh : drive.nodes.get uid = none) {folder : Uid}
    {sought : JsString} {node : NodeEntity}
    (found : (drive.children platform folder).find?
      (fun child => platform.getName child = sought) = some node)
    (isFolder : node.type = .folder) :
    ((drive.addFile platform uid parent name revision bytes moment).children platform folder).find?
      (fun child => platform.getName child = sought) = some node := by
  simp only [children, List.find?_filterMap, Option.bind_eq_some_iff] at found ⊢
  rcases found with ⟨entry, located, shown⟩
  refine ⟨entry, ?_, shown⟩
  rw [addFile, InsertionMap.entries_set_of_none (get_kept fresh _), List.find?_append,
    Option.or_eq_some_iff]
  refine .inl (find?_of_kept located ?_)
  have isFolder' : entry.2.type = .folder := by
    split at shown
    · cases shown
      exact isFolder
    · cases shown
  simp [displaced, DriveNode.isDraft, isFolder']

/-- Adding a file moves no folder. -/
theorem FolderAt.addFile {segs : List JsString} {folder uid parent : Uid} {name : JsString}
    {revision : Revision} {bytes : Bytes} {moment : Date}
    (lies : FolderAt platform drive segs folder) (fresh : drive.nodes.get uid = none) :
    FolderAt platform (drive.addFile platform uid parent name revision bytes moment) segs
      folder := by
  refine lies.mono (fun node fetched isFolder => ?_)
    fun parent name node named isFolder => find?_addFile fresh named isFolder
  rcases getNode_eq_some.mp fetched with ⟨stored, located, rfl⟩
  refine getNode_eq_some.mpr ⟨stored, ?_, rfl⟩
  have other : drive.root ≠ uid := by
    rintro rfl
    rw [fresh] at located
    cases located
  rw [Drive.addFile, InsertionMap.get_set_of_ne _ _ other, InsertionMap.get_filter]
  refine ⟨located, ?_⟩
  have isFolder' : stored.type = .folder := isFolder
  simp [displaced, DriveNode.isDraft, isFolder']

theorem get_addFile (uid parent : Uid) (name : JsString) (revision : Revision) (bytes : Bytes)
    (moment : Date) :
    (drive.addFile platform uid parent name revision bytes moment).nodes.get uid =
      some (newFile parent name revision bytes moment) :=
  InsertionMap.get_set_self _ _ _

end Drive

end DriveWebdav
