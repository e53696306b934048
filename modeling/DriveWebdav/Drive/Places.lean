import DriveWebdav.Drive.Relocation

/-! # Folders that stay where they are

While a tree changes, a folder stays at its path, leaves it, or goes to the trash with
everything that is in it. -/

namespace DriveWebdav

namespace Drive

/-- A tree in which no two siblings have one name, below a configured root that is a folder. -/
structure Proper (platform : Platform) (drive : Drive) : Prop where
  unique : UniqueNames platform drive
  root : ∃ node, drive.getNode drive.root = some node ∧ node.type = .folder

/-- The node is in the trash, and so is everything in it. -/
def Gone (drive : Drive) (uid : Uid) : Prop :=
  (∃ stored, drive.nodes.get uid = some stored ∧ stored.trashed = true) ∧
    ∀ child stored, drive.nodes.get child = some stored → stored.parentUid = some uid →
      stored.trashed = true

/-- The folder lies at the path, or nothing in it is ever met again. -/
def Stays (platform : Platform) (drive : Drive) (segs : List JsString) (uid : Uid) : Prop :=
  FolderAt platform drive segs uid ∨ drive.Gone uid

/-- The folder leaves its path: it is moved or renamed, itself or with a folder above it. -/
def Leaves (platform : Platform) (before after : Drive) (segs : List JsString) (uid : Uid) :
    Prop :=
  FolderAt platform before segs uid ∧ ¬Stays platform after segs uid

/-- What every change leaves: the root, trees with unique names, and what is in the trash. -/
structure Becomes (platform : Platform) (before after : Drive) : Prop where
  root : after.root = before.root
  proper : after.Proper platform
  gone : ∀ uid, before.Gone uid → after.Gone uid

variable {platform : Platform} {drive before after : Drive} {segs : List JsString} {uid : Uid}

theorem Becomes.refl (proper : drive.Proper platform) : Becomes platform drive drive :=
  ⟨rfl, proper, fun _ gone => gone⟩

theorem Becomes.trans {last : Drive} (first : Becomes platform before after)
    (second : Becomes platform after last) : Becomes platform before last :=
  ⟨second.root.trans first.root, second.proper,
    fun uid gone => second.gone uid (first.gone uid gone)⟩

theorem not_leaves_self : ¬Leaves platform drive drive segs uid :=
  fun leaves => leaves.2 (.inl leaves.1)

/-- Unless it leaves, a folder that stays goes on doing so. -/
theorem Stays.becomes (stays : Stays platform before segs uid)
    (change : Becomes platform before after) (remains : ¬Leaves platform before after segs uid) :
    Stays platform after segs uid := by
  rcases stays with lies | gone
  · by_contra left
    exact remains ⟨lies, left⟩
  · exact .inr (change.gone uid gone)

/-- Nothing is met in a folder that is gone with everything in it. -/
theorem Gone.trashed_of_parent {node : NodeEntity} (gone : drive.Gone uid)
    (fetched : drive.getNode node.uid = some node) (inside : node.parentUid = some uid) :
    node.trashed = true := by
  rcases getNode_eq_some.mp fetched with ⟨stored, located, same⟩
  rw [← same] at inside ⊢
  exact gone.2 node.uid stored located inside

theorem Gone.trashed {node : NodeEntity} (gone : drive.Gone node.uid)
    (fetched : drive.getNode node.uid = some node) : node.trashed = true := by
  rcases gone.1 with ⟨stored, located, trashed⟩
  rcases getNode_eq_some.mp fetched with ⟨other, otherLocated, same⟩
  cases located.symm.trans otherLocated
  rw [← same]
  exact trashed

/-- A child under its name in a folder that stays is what the path leads to. -/
theorem Stays.visit_child (stays : Stays platform drive segs uid)
    (unique : UniqueNames platform drive) {node : NodeEntity} {includeDrafts : Bool}
    (fetched : drive.getNode node.uid = some node) (inside : node.parentUid = some uid)
    (live : node.trashed = false) (committed : node.isDraft = true → includeDrafts = true) :
    drive.visit platform (platform.getName node :: segs.reverse) includeDrafts = some node := by
  rcases stays with lies | gone
  · have member : node ∈ drive.children platform uid :=
      mem_children.mpr ⟨fetched, inside, .inr live⟩
    have found := unique.find?_eq_some_iff.mpr ⟨member, rfl⟩
    rw [← List.reverse_reverse segs] at lies
    exact visit_cons_eq_some.mpr ⟨uid, lies, found, committed, live⟩
  · rw [gone.trashed_of_parent fetched inside] at live
    cases live

/-- A folder in a folder that stays lies below it. -/
theorem Stays.folder (stays : Stays platform drive segs uid) (unique : UniqueNames platform drive)
    {node : NodeEntity} (fetched : drive.getNode node.uid = some node)
    (inside : node.parentUid = some uid) (live : node.trashed = false)
    (isFolder : node.type = .folder) :
    Stays platform drive (segs ++ [platform.getName node]) node.uid := by
  have committed : node.isDraft = true → false = true := by simp [NodeEntity.isDraft, isFolder]
  have visited := stays.visit_child unique fetched inside live committed
  rw [← List.reverse_concat] at visited
  exact .inl ⟨node, visited, isFolder, rfl⟩

/-- A folder that stays is what its path leads to, if it is not in the trash. -/
theorem Stays.visit_self {node : NodeEntity} (stays : Stays platform drive segs node.uid)
    (fetched : drive.getNode node.uid = some node) (live : node.trashed = false)
    (includeDrafts : Bool) : drive.visit platform segs.reverse includeDrafts = some node := by
  rcases stays with ⟨folder, walked, _, same⟩ | gone
  · have found := getNode_of_visit walked
    rw [same, fetched] at found
    cases found
    exact visit_of_committed walked includeDrafts
  · rw [gone.trashed fetched] at live
    cases live

/-- Where all folders are as before, they lie where they did. -/
theorem FolderAt.of_same_folders (lies : FolderAt platform before segs uid)
    (root : after.root = before.root) (unique : UniqueNames platform after)
    (same : ∀ folder stored, before.nodes.get folder = some stored → stored.type = .folder →
      after.nodes.get folder = some stored) : FolderAt platform after segs uid := by
  have fetched : ∀ node : NodeEntity, before.getNode node.uid = some node → node.type = .folder →
      after.getNode node.uid = some node := by
    intro node found isFolder
    rcases getNode_eq_some.mp found with ⟨stored, located, entity⟩
    rw [← entity] at isFolder
    exact getNode_eq_some.mpr ⟨stored, same _ stored located isFolder, entity⟩
  unfold FolderAt at lies ⊢
  generalize segs.reverse = names at lies ⊢
  rcases lies with ⟨node, walked, isFolder, rfl⟩
  refine ⟨node, ?_, isFolder, rfl⟩
  induction names generalizing node with
  | nil =>
      have found := fetched node (getNode_of_visit walked) isFolder
      have atRoot : node.uid = before.root := uid_of_getNode walked
      rw [atRoot, ← root] at found
      exact found
  | cons name above induction =>
      rcases visit_cons_eq_some.mp walked with
        ⟨_, ⟨folder, up, upFolder, rfl⟩, found, committed, live⟩
      rw [List.reverse_reverse] at up
      have member := mem_children.mp (List.mem_of_find?_eq_some found)
      have named := List.find?_some found
      have inside : node ∈ after.children platform folder.uid := mem_children.mpr
        ⟨fetched node (getNode_of_visit walked) isFolder, member.2.1, .inr live⟩
      have there : FolderAt platform after above.reverse folder.uid :=
        ⟨folder, by rw [List.reverse_reverse]; exact induction folder up upFolder, upFolder, rfl⟩
      exact visit_cons_eq_some.mpr
        ⟨folder.uid, there, unique.find?_eq_some_iff.mpr ⟨inside, of_decide_eq_true named⟩,
          committed, live⟩

/-- A new folder, where no other folder has changed. -/
structure Creates (platform : Platform) (before after : Drive) (parent : Uid) (name : JsString)
    (node : NodeEntity) : Prop where
  fetched : after.getNode node.uid = some node
  isFolder : node.type = .folder
  parent : node.parentUid = some parent
  named : platform.getName node = name
  live : node.trashed = false
  folders : ∀ folder stored, before.nodes.get folder = some stored → stored.type = .folder →
    after.nodes.get folder = some stored

/-- A folder that is created where its parent stays lies there. -/
theorem Stays.created {name : JsString} {node : NodeEntity}
    (stays : Stays platform before segs uid) (change : Becomes platform before after)
    (creates : Creates platform before after uid name node) :
    Stays platform after (segs ++ [name]) node.uid := by
  have parent : Stays platform after segs uid := by
    rcases stays with lies | gone
    · exact .inl (lies.of_same_folders change.root change.proper.unique creates.folders)
    · exact .inr (change.gone uid gone)
  rw [← creates.named]
  exact parent.folder change.proper.unique creates.fetched creates.parent creates.live
    creates.isFolder

/-- What other clients do to a tree: a node is renamed or moved, though not back out of what is
gone, or it goes to the trash with everything below it. -/
inductive Reshapes (platform : Platform) (before : Drive) : Drive → Prop
  | relocated (uid parent : Uid) (name : NodeName) :
      (before.relocate uid parent name).Proper platform →
      (before.Gone parent → ∀ stored, before.nodes.get uid = some stored →
        stored.trashed = true) →
      Reshapes platform before (before.relocate uid parent name)
  | trashed (uid : Uid) :
      (before.trash uid).Proper platform → Reshapes platform before (before.trash uid)

theorem gone_relocate {parent : Uid} {name : NodeName} {target : Uid}
    (into : drive.Gone parent → ∀ stored, drive.nodes.get uid = some stored →
      stored.trashed = true) (gone : drive.Gone target) :
    (drive.relocate uid parent name).Gone target := by
  constructor
  · rcases gone.1 with ⟨stored, located, trashed⟩
    refine ⟨_, by rw [relocate, get_alter, located, Option.map_some], ?_⟩
    split
    · exact trashed
    · exact trashed
  · intro child stored located inside
    rw [relocate, get_alter, Option.map_eq_some_iff] at located
    rcases located with ⟨before, located, rfl⟩
    split at inside
    · next moved =>
        cases inside
        rw [if_pos moved]
        exact into gone before (moved ▸ located)
    · next other =>
        rw [if_neg other]
        exact gone.2 child before located inside

theorem gone_trash {target : Uid} (gone : drive.Gone target) : (drive.trash uid).Gone target := by
  constructor
  · rcases gone.1 with ⟨stored, located, trashed⟩
    refine ⟨_, by rw [get_trash, located, Option.map_some], ?_⟩
    split
    · rfl
    · exact trashed
  · intro child stored located inside
    rw [get_trash, Option.map_eq_some_iff] at located
    rcases located with ⟨before, located, rfl⟩
    split
    · rfl
    · next apart =>
        rw [if_neg apart] at inside
        exact gone.2 child before located inside

theorem Reshapes.becomes (reshapes : Reshapes platform before after) :
    Becomes platform before after := by
  cases reshapes with
  | relocated uid parent name proper into => exact ⟨rfl, proper, fun _ => gone_relocate into⟩
  | trashed uid proper => exact ⟨rfl, proper, fun _ => gone_trash⟩

/-- No folder leaves its path when a node that is no folder is renamed or moved. -/
theorem not_leaves_relocate {parent target : Uid} {name : NodeName}
    (noFolder : ∀ stored, drive.nodes.get uid = some stored → stored.type ≠ .folder)
    (unique : UniqueNames platform (drive.relocate uid parent name)) :
    ¬Leaves platform drive (drive.relocate uid parent name) segs target := by
  rintro ⟨lies, left⟩
  apply left
  apply Or.inl
  refine lies.of_same_folders rfl unique ?_
  intro folder stored located isFolder
  rw [relocate, get_alter, located, Option.map_some]
  split
  · next same =>
      rw [same] at located
      exact absurd isFolder (noFolder stored located)
  · rfl

end Drive

end DriveWebdav
