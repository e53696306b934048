import DriveWebdav.Drive.Commit
import DriveWebdav.Drive.Relocation
import Mathlib.Logic.Function.Basic

/-! # Changes at one name

A change that touches one name of one folder leaves what every other path leads to. -/

namespace DriveWebdav

/-- A node lies in a folder under a name. -/
def DriveNode.IsAt (platform : Platform) (spot : Uid) (name : JsString) (node : DriveNode) :
    Prop :=
  node.parentUid = some spot ∧ platform.showName node.name = name

namespace Drive

/-- The committed file at a path, by its content. -/
def fileAt (platform : Platform) (drive : Drive) (segs : List JsString) : Option Bytes :=
  (drive.visit platform segs.reverse false).bind fun node =>
    if node.type = .file then (drive.nodes.get node.uid).map (·.bytes) else none

/-- No node is trashed, and no two siblings share a name. -/
structure Named (platform : Platform) (drive : Drive) : Prop where
  untrashed : ∀ uid stored, drive.nodes.get uid = some stored → stored.trashed = false
  unique : ∀ spot name first second firstNode secondNode,
    drive.nodes.get first = some firstNode → firstNode.IsAt platform spot name →
    drive.nodes.get second = some secondNode → secondNode.IsAt platform spot name →
    first = second

/-- Such a tree below a folder, which may itself be in a folder of the drive, to which no way down
leads. -/
structure Plain (platform : Platform) (drive : Drive) : Prop extends Named platform drive where
  isFolder : ∃ root, drive.getNode drive.root = some root ∧ root.type = .folder
  rooted : Rooted platform drive

/-- Two trees that differ only under one name of one folder, where no folder is. -/
structure ChangesAt (platform : Platform) (spot : Uid) (name : JsString)
    (drive changed : Drive) : Prop where
  root : changed.root = drive.root
  elsewhere : ∀ uid stored, ¬stored.IsAt platform spot name →
    (changed.nodes.get uid = some stored ↔ drive.nodes.get uid = some stored)
  noFolder : ∀ uid stored, drive.nodes.get uid = some stored → stored.IsAt platform spot name →
    stored.type ≠ .folder
  stillNoFolder : ∀ uid stored, changed.nodes.get uid = some stored →
    stored.IsAt platform spot name → stored.type ≠ .folder
  single : ∀ first second firstNode secondNode,
    changed.nodes.get first = some firstNode → firstNode.IsAt platform spot name →
    changed.nodes.get second = some secondNode → secondNode.IsAt platform spot name →
    first = second
  untrashed : ∀ uid stored, changed.nodes.get uid = some stored → stored.IsAt platform spot name →
    stored.trashed = false

variable {platform : Platform} {drive changed : Drive} {spot parent : Uid} {name sought : JsString}
  {segs : List JsString}

theorem Named.mem_children (named : Named platform drive) {node : NodeEntity} :
    node ∈ drive.children platform parent ↔
      drive.getNode node.uid = some node ∧ node.parentUid = some parent := by
  rw [Drive.mem_children]
  constructor
  · exact fun member => ⟨member.1, member.2.1⟩
  · intro inside
    rcases getNode_eq_some.mp inside.1 with ⟨stored, located, same⟩
    refine ⟨inside.1, inside.2, .inr ?_⟩
    rw [← same]
    exact named.untrashed _ _ located

theorem isAt_iff {uid : Uid} {stored : DriveNode} {node : NodeEntity}
    (same : stored.entity uid = node) : stored.IsAt platform spot name ↔
      node.parentUid = some spot ∧ platform.getName node = name := by
  rw [← same]
  exact Iff.rfl

theorem Named.uniqueNames (named : Named platform drive) : UniqueNames platform drive := by
  intro parent first inFirst second inSecond equal
  rcases named.mem_children.mp inFirst with ⟨fetched, inside⟩
  rcases named.mem_children.mp inSecond with ⟨fetchedSecond, insideSecond⟩
  rcases getNode_eq_some.mp fetched with ⟨stored, located, same⟩
  rcases getNode_eq_some.mp fetchedSecond with ⟨other, locatedSecond, sameSecond⟩
  have uid := named.unique parent _ _ _ _ _ located ((isAt_iff same).mpr ⟨inside, equal⟩)
    locatedSecond ((isAt_iff sameSecond).mpr ⟨insideSecond, rfl⟩)
  rw [uid, fetchedSecond] at fetched
  exact (Option.some.inj fetched).symm

/-- A child is found by its name exactly if it is there. -/
theorem Named.find?_eq_some (named : Named platform drive) {node : NodeEntity} :
    (drive.children platform parent).find? (fun child => platform.getName child = sought) =
        some node ↔
      ∃ stored, drive.nodes.get node.uid = some stored ∧ stored.entity node.uid = node ∧
        stored.IsAt platform parent sought := by
  constructor
  · intro found
    have called : platform.getName node = sought := by simpa using List.find?_some found
    rcases named.mem_children.mp (List.mem_of_find?_eq_some found) with ⟨fetched, inside⟩
    rcases getNode_eq_some.mp fetched with ⟨stored, located, same⟩
    exact ⟨stored, located, same, (isAt_iff same).mpr ⟨inside, called⟩⟩
  · intro present
    rcases present with ⟨stored, located, same, there⟩
    rcases (isAt_iff same).mp there with ⟨inside, called⟩
    rw [← called]
    apply named.uniqueNames.find_eq_some
    exact named.mem_children.mpr ⟨getNode_eq_some.mpr ⟨stored, located, same⟩, inside⟩

/-- No way down leads to the root, where every folder with a child in it was there before. -/
theorem Plain.rooted_of_folders (before : Plain platform drive) (after : Named platform changed)
    (root : changed.root = drive.root)
    (same : changed.getNode changed.root = drive.getNode drive.root)
    (folders : ∀ segs parent, FolderAt platform changed segs parent →
      ∀ child ∈ changed.children platform parent, ∃ q, FolderAt platform drive q parent) :
    Rooted platform changed := by
  intro segs parent lies child member atRoot
  rcases folders segs parent lies child member with ⟨q, earlier⟩
  rcases after.mem_children.mp member with ⟨fetched, inside⟩
  rw [atRoot, same, ← root, ← atRoot] at fetched
  exact before.rooted q parent earlier child (before.mem_children.mpr ⟨fetched, inside⟩)
    (atRoot.trans root)

namespace ChangesAt

theorem refl (plain : Plain platform drive)
    (noFolder : ∀ uid stored, drive.nodes.get uid = some stored →
      stored.IsAt platform spot name → stored.type ≠ .folder) :
    ChangesAt platform spot name drive drive where
  root := rfl
  elsewhere _ _ _ := Iff.rfl
  noFolder := noFolder
  stillNoFolder := noFolder
  single := plain.unique spot name
  untrashed uid stored located _ := plain.untrashed uid stored located

theorem trans {last : Drive} (first : ChangesAt platform spot name drive changed)
    (second : ChangesAt platform spot name changed last) :
    ChangesAt platform spot name drive last where
  root := second.root.trans first.root
  elsewhere uid stored apart :=
    (second.elsewhere uid stored apart).trans (first.elsewhere uid stored apart)
  noFolder := first.noFolder
  stillNoFolder := second.stillNoFolder
  single := second.single
  untrashed := second.untrashed

theorem named (changes : ChangesAt platform spot name drive changed)
    (before : Named platform drive) : Named platform changed where
  untrashed uid stored located := by
    by_cases there : stored.IsAt platform spot name
    · exact changes.untrashed uid stored located there
    · exact before.untrashed uid stored ((changes.elsewhere _ _ there).mp located)
  unique parent sought first second firstNode secondNode located at' locatedSecond atSecond := by
    by_cases there : parent = spot ∧ sought = name
    · rcases there with ⟨rfl, rfl⟩
      exact changes.single _ _ _ _ located at' locatedSecond atSecond
    · have apart : ∀ stored : DriveNode, stored.IsAt platform parent sought →
          ¬stored.IsAt platform spot name := by
        intro stored inside also
        exact there ⟨Option.some.inj (inside.1.symm.trans also.1), inside.2.symm.trans also.2⟩
      exact before.unique parent sought _ _ _ _
        ((changes.elsewhere _ _ (apart _ at')).mp located) at'
        ((changes.elsewhere _ _ (apart _ atSecond)).mp locatedSecond) atSecond

theorem find?_eq (changes : ChangesAt platform spot name drive changed)
    (before : Named platform drive) (apart : ¬(parent = spot ∧ sought = name)) :
    (changed.children platform parent).find? (fun child => platform.getName child = sought) =
      (drive.children platform parent).find? (fun child => platform.getName child = sought) := by
  have other : ∀ stored : DriveNode, stored.IsAt platform parent sought →
      ¬stored.IsAt platform spot name := by
    intro stored inside also
    exact apart ⟨Option.some.inj (inside.1.symm.trans also.1), inside.2.symm.trans also.2⟩
  apply Option.ext
  intro node
  rw [before.find?_eq_some, (changes.named before).find?_eq_some]
  constructor
  · intro present
    rcases present with ⟨stored, located, same, there⟩
    exact ⟨stored, (changes.elsewhere _ _ (other _ there)).mp located, same, there⟩
  · intro present
    rcases present with ⟨stored, located, same, there⟩
    exact ⟨stored, (changes.elsewhere _ _ (other _ there)).mpr located, same, there⟩

theorem getRoot (changes : ChangesAt platform spot name drive changed)
    (before : Plain platform drive) :
    changed.getNode changed.root = drive.getNode drive.root := by
  rcases before.isFolder with ⟨root, fetched, isFolder⟩
  rw [fetched]
  rcases getNode_eq_some.mp fetched with ⟨stored, located, same⟩
  rw [changes.root]
  refine getNode_eq_some.mpr ⟨stored, (changes.elsewhere _ _ ?_).mpr located, same⟩
  intro there
  rw [← same] at isFolder
  exact changes.noFolder _ _ located there isFolder

/-- No folder moves. -/
theorem folderAt_iff (changes : ChangesAt platform spot name drive changed)
    (before : Plain platform drive) (uid : Uid) :
    FolderAt platform changed segs uid ↔ FolderAt platform drive segs uid := by
  have after := changes.named before.toNamed
  constructor
  · intro lies
    apply lies.mono
    · intro node fetched _
      rw [← changes.getRoot before]
      exact fetched
    · intro parent sought node found isFolder
      rw [← changes.find?_eq before.toNamed]
      · exact found
      · rintro ⟨rfl, rfl⟩
        rcases after.find?_eq_some.mp found with ⟨stored, located, same, there⟩
        apply changes.stillNoFolder _ _ located there
        rw [← same] at isFolder
        exact isFolder
  · intro lies
    apply lies.mono
    · intro node fetched _
      rw [changes.getRoot before]
      exact fetched
    · intro parent sought node found isFolder
      rw [changes.find?_eq before.toNamed]
      · exact found
      · rintro ⟨rfl, rfl⟩
        rcases before.find?_eq_some.mp found with ⟨stored, located, same, there⟩
        apply changes.noFolder _ _ located there
        rw [← same] at isFolder
        exact isFolder

/-- A change at one name keeps a tree plain. -/
theorem plain (changes : ChangesAt platform spot name drive changed)
    (before : Plain platform drive) : Plain platform changed where
  toNamed := changes.named before.toNamed
  isFolder := by
    rw [changes.getRoot before]
    exact before.isFolder
  rooted := before.rooted_of_folders (changes.named before.toNamed) changes.root
    (changes.getRoot before) fun segs parent lies _ _ =>
      ⟨segs, (changes.folderAt_iff before parent).mp lies⟩

end ChangesAt

/-! ## Other paths -/

/-- A folder lies at one path only. -/
theorem Plain.folderAt_path (plain : Plain platform drive) {first second : List JsString}
    {uid : Uid} (lies : FolderAt platform drive first uid)
    (liesToo : FolderAt platform drive second uid) : first = second := by
  rcases lies with ⟨node, visited, _, rfl⟩
  rcases liesToo with ⟨other, visitedToo, _, same⟩
  exact List.reverse_inj.mp (plain.rooted.visit_unique visited visitedToo same.symm)

theorem ChangesAt.visit_eq (changes : ChangesAt platform spot name drive changed)
    (before : Plain platform drive) (lies : FolderAt platform drive segs spot)
    {names : List JsString} (includeDrafts : Bool) (apart : names ≠ name :: segs.reverse) :
    changed.visit platform names includeDrafts = drive.visit platform names includeDrafts := by
  cases names with
  | nil => exact changes.getRoot before
  | cons sought above =>
      have same : ∀ parent, FolderAt platform drive above.reverse parent →
          (changed.children platform parent).find?
              (fun child => platform.getName child = sought) =
            (drive.children platform parent).find?
              (fun child => platform.getName child = sought) := by
        intro parent up
        apply changes.find?_eq before.toNamed
        rintro ⟨rfl, rfl⟩
        apply apart
        rw [before.folderAt_path lies up, List.reverse_reverse]
      apply Option.ext
      intro node
      rw [visit_cons_eq_some, visit_cons_eq_some]
      constructor
      · intro found
        rcases found with ⟨parent, up, found, rest⟩
        rw [changes.folderAt_iff before] at up
        rw [same parent up] at found
        exact ⟨parent, up, found, rest⟩
      · intro found
        rcases found with ⟨parent, up, found, rest⟩
        rw [← same parent up] at found
        exact ⟨parent, (changes.folderAt_iff before parent).mpr up, found, rest⟩

/-- What is in a folder under a name is not found by any other path. -/
theorem Plain.not_isAt (plain : Plain platform drive) (lies : FolderAt platform drive segs spot)
    {names : List JsString} {includeDrafts : Bool} {node : NodeEntity} {stored : DriveNode}
    (visited : drive.visit platform names includeDrafts = some node)
    (located : drive.nodes.get node.uid = some stored) (apart : names ≠ name :: segs.reverse) :
    ¬stored.IsAt platform spot name := by
  intro there
  cases names with
  | nil =>
      have fetched := getNode_of_visit visited
      rcases getNode_eq_some.mp fetched with ⟨other, otherLocated, equal⟩
      rw [located] at otherLocated
      cases otherLocated
      have inside := plain.mem_children.mpr ⟨fetched, ((isAt_iff equal).mp there).1⟩
      exact plain.rooted segs spot lies node inside (uid_of_getNode visited)
  | cons sought above =>
      rcases visit_cons_eq_some.mp visited with ⟨parent, up, found, _⟩
      rcases plain.find?_eq_some.mp found with ⟨other, otherLocated, _, otherThere⟩
      rw [located] at otherLocated
      cases otherLocated
      have parents := Option.some.inj (there.1.symm.trans otherThere.1)
      rw [← parents] at up
      apply apart
      rw [plain.folderAt_path lies up, List.reverse_reverse, there.2.symm.trans otherThere.2]

theorem ChangesAt.fileAt_eq (changes : ChangesAt platform spot name drive changed)
    (before : Plain platform drive) (lies : FolderAt platform drive segs spot)
    {q : List JsString} (apart : q ≠ segs ++ [name]) :
    changed.fileAt platform q = drive.fileAt platform q := by
  have names : q.reverse ≠ name :: segs.reverse := by
    rw [← List.reverse_concat, ne_eq, List.reverse_inj]
    exact apart
  rw [fileAt, fileAt, changes.visit_eq before lies false names]
  cases visited : drive.visit platform q.reverse false with
  | none => rfl
  | some node =>
      rcases getNode_eq_some.mp (getNode_of_visit visited) with ⟨stored, located, _⟩
      have apart := before.not_isAt lies visited located names
      rw [Option.bind_some, Option.bind_some, located,
        (changes.elsewhere node.uid stored apart).mpr located]

/-! ## The changed path -/

/-- A committed file that is found in a folder under a name is the file at that path. -/
theorem Plain.fileAt_eq_some (plain : Plain platform drive)
    (lies : FolderAt platform drive segs spot) {uid : Uid} {stored : DriveNode}
    (located : drive.nodes.get uid = some stored) (there : stored.IsAt platform spot name)
    (isFile : stored.type = .file) (committed : stored.activeRevision ≠ none) :
    drive.fileAt platform (segs ++ [name]) = some stored.bytes := by
  have visited : drive.visit platform (segs ++ [name]).reverse false =
      some (stored.entity uid) := by
    rw [List.reverse_concat, visit_cons_eq_some, List.reverse_reverse]
    refine ⟨spot, lies, plain.find?_eq_some.mpr ⟨stored, located, rfl, there⟩, ?_,
      plain.untrashed uid stored located⟩
    intro draft
    simp only [NodeEntity.isDraft, DriveNode.entity, Bool.and_eq_true] at draft
    exact absurd (Option.isNone_iff_eq_none.mp draft.2) committed
  have isFile : (stored.entity uid).type = .file := isFile
  rw [fileAt, visited, Option.bind_some, if_pos isFile, entity_uid, located]
  rfl

/-- Where a folder holds nothing committed under a name, no file is at that path. -/
theorem Plain.fileAt_eq_none (plain : Plain platform drive)
    (lies : FolderAt platform drive segs spot)
    (drafts : ∀ uid stored, drive.nodes.get uid = some stored → stored.IsAt platform spot name →
      stored.type = .file → stored.activeRevision = none) :
    drive.fileAt platform (segs ++ [name]) = none := by
  rw [fileAt, List.reverse_concat]
  cases visited : drive.visit platform (name :: segs.reverse) false with
  | none => rfl
  | some node =>
      rcases visit_cons_eq_some.mp visited with ⟨parent, up, found, visible, _⟩
      rw [List.reverse_reverse] at up
      rcases plain.find?_eq_some.mp found with ⟨stored, located, same, there⟩
      rw [up.unique lies] at there
      rw [Option.bind_some, if_neg]
      intro isFile
      have isDraft : node.isDraft = true := by
        have none := drafts _ _ located there (by rw [← same] at isFile; exact isFile)
        rw [NodeEntity.isDraft, isFile, ← same]
        simp only [DriveNode.entity, none, Option.isNone_none, decide_true, Bool.and_self]
      cases visible isDraft

/-! ## Changes of one node -/

/-- Deleting, adding or replacing the one node of a name changes nothing else. -/
theorem changesAt_of_get (uid : Uid) (placed : Option DriveNode)
    (root : changed.root = drive.root)
    (get : ∀ other, changed.nodes.get other = if other = uid then placed else drive.nodes.get other)
    (only : ∀ other stored, drive.nodes.get other = some stored →
      stored.IsAt platform spot name → other = uid)
    (replaced : ∀ stored, drive.nodes.get uid = some stored →
      stored.IsAt platform spot name ∧ stored.type ≠ .folder)
    (placedThere : ∀ stored, placed = some stored →
      stored.IsAt platform spot name ∧ stored.type ≠ .folder ∧ stored.trashed = false) :
    ChangesAt platform spot name drive changed := by
  have here : ∀ other stored, changed.nodes.get other = some stored →
      stored.IsAt platform spot name → other = uid ∧ placed = some stored := by
    intro other stored located there
    rw [get] at located
    split at located
    · next same => exact ⟨same, located⟩
    · next different => exact absurd (only other stored located there) different
  constructor
  · exact root
  · intro other stored apart
    rw [get]
    split
    · next same =>
        rw [same]
        constructor
        · intro located
          exact absurd (placedThere stored located).1 apart
        · intro located
          exact absurd (replaced stored located).1 apart
    · rfl
  · intro other stored located there
    rw [only other stored located there] at located
    exact (replaced stored located).2
  · intro other stored located there
    exact (placedThere stored (here other stored located there).2).2.1
  · intro first second firstNode secondNode located at' locatedSecond atSecond
    rw [(here first firstNode located at').1, (here second secondNode locatedSecond atSecond).1]
  · intro other stored located there
    exact (placedThere stored (here other stored located there).2).2.2

/-- A change at one name changes the committed files at one path. -/
theorem ChangesAt.files (changes : ChangesAt platform spot name drive changed)
    (before : Plain platform drive) (lies : FolderAt platform drive segs spot) :
    changed.fileAt platform = Function.update (drive.fileAt platform) (segs ++ [name])
      (changed.fileAt platform (segs ++ [name])) := by
  funext q
  by_cases here : q = segs ++ [name]
  · rw [here, Function.update_self]
  · rw [Function.update_of_ne here, changes.fileAt_eq before lies here]

end Drive

end DriveWebdav
