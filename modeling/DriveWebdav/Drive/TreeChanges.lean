import DriveWebdav.Drive.Tree

/-! # Folders made, nodes deleted and relocated

What the changes of a drive other than uploads do to the tree that is seen. -/

namespace DriveWebdav

namespace Drive

variable {platform : Platform} {drive changed : Drive} {segs path q : List JsString}
  {uid folder : Uid} {name : JsString}

/-- A plain tree is a tree. -/
theorem Plain.isTree (plain : Plain platform drive) : IsTree platform drive :=
  ⟨plain.uniqueNames, plain.rooted⟩

/-- The children of a name are found alike where the same nodes are there. -/
theorem Named.find?_congr (before : Named platform drive) (after : Named platform changed)
    {parent : Uid} {sought : JsString}
    (same : ∀ uid stored, stored.IsAt platform parent sought →
      (changed.nodes.get uid = some stored ↔ drive.nodes.get uid = some stored)) :
    (changed.children platform parent).find? (fun child => platform.getName child = sought) =
      (drive.children platform parent).find? (fun child => platform.getName child = sought) := by
  apply Option.ext
  intro node
  rw [before.find?_eq_some, after.find?_eq_some]
  constructor
  · rintro ⟨stored, located, entity, there⟩
    exact ⟨stored, (same _ _ there).mp located, entity, there⟩
  · rintro ⟨stored, located, entity, there⟩
    exact ⟨stored, (same _ _ there).mpr located, entity, there⟩

/-! ## A new folder -/

/-- A folder is added under a name that is free. Nothing is in it. -/
structure AddsFolder (platform : Platform) (folder : Uid) (name : JsString) (uid : Uid)
    (drive changed : Drive) : Prop where
  root : changed.root = drive.root
  fresh : drive.nodes.get uid = none
  elsewhere : ∀ other, other ≠ uid → changed.nodes.get other = drive.nodes.get other
  added : ∃ stored, changed.nodes.get uid = some stored ∧ stored.IsAt platform folder name ∧
    stored.type = .folder ∧ stored.trashed = false
  free : ∀ other stored, drive.nodes.get other = some stored → ¬stored.IsAt platform folder name
  empty : ∀ other stored, changed.nodes.get other = some stored → stored.parentUid ≠ some uid

namespace AddsFolder

variable (adds : AddsFolder platform folder name uid drive changed) (before : Plain platform drive)
include adds

theorem located {other : Uid} {stored : DriveNode}
    (apart : ¬stored.IsAt platform folder name) :
    changed.nodes.get other = some stored ↔ drive.nodes.get other = some stored := by
  by_cases here : other = uid
  · rcases adds.added with ⟨new, located, there, _⟩
    rw [here, located, adds.fresh]
    constructor
    · intro same
      cases same
      exact absurd there apart
    · intro absent
      cases absent
  · rw [adds.elsewhere other here]

theorem kept {other : Uid} {stored : DriveNode} (located : drive.nodes.get other = some stored) :
    changed.nodes.get other = some stored := by
  rw [adds.elsewhere other, located]
  rintro rfl
  rw [adds.fresh] at located
  cases located

include before

theorem named : Named platform changed where
  untrashed other stored located := by
    by_cases here : other = uid
    · rcases adds.added with ⟨new, newLocated, _, _, live⟩
      rw [here, newLocated] at located
      cases located
      exact live
    · rw [adds.elsewhere other here] at located
      exact before.untrashed other stored located
  unique spot sought first second firstNode secondNode located there locatedToo thereToo := by
    by_cases here : spot = folder ∧ sought = name
    · rcases here with ⟨rfl, rfl⟩
      have only : ∀ other stored, changed.nodes.get other = some stored →
          stored.IsAt platform spot sought → other = uid := by
        intro other stored located there
        by_contra different
        rw [adds.elsewhere other different] at located
        exact adds.free other stored located there
      rw [only _ _ located there, only _ _ locatedToo thereToo]
    · have apart : ∀ stored : DriveNode, stored.IsAt platform spot sought →
          ¬stored.IsAt platform folder name := by
        intro stored inside also
        exact here ⟨Option.some.inj (inside.1.symm.trans also.1), inside.2.symm.trans also.2⟩
      exact before.unique spot sought _ _ _ _ ((adds.located (apart _ there)).mp located) there
        ((adds.located (apart _ thereToo)).mp locatedToo) thereToo

theorem find?_eq {parent : Uid} {sought : JsString} (apart : ¬(parent = folder ∧ sought = name)) :
    (changed.children platform parent).find? (fun child => platform.getName child = sought) =
      (drive.children platform parent).find? (fun child => platform.getName child = sought) := by
  apply before.toNamed.find?_congr (adds.named before)
  intro other stored inside
  apply adds.located
  intro also
  exact apart ⟨Option.some.inj (inside.1.symm.trans also.1), inside.2.symm.trans also.2⟩

theorem getRoot : changed.getNode changed.root = drive.getNode drive.root := by
  rcases before.isFolder with ⟨root, fetched, _⟩
  rcases getNode_eq_some.mp fetched with ⟨stored, located, same⟩
  rw [fetched, adds.root]
  exact getNode_eq_some.mpr ⟨stored, adds.kept located, same⟩

/-- A folder that is found is the new one, or it was found before. -/
theorem folderAt_before {names : List JsString} {spot : Uid}
    (there : FolderAt platform changed names.reverse spot) :
    spot = uid ∨ FolderAt platform drive names.reverse spot := by
  induction names generalizing spot with
  | nil =>
      rcases there with ⟨node, visited, lies⟩
      exact .inr ⟨node, (adds.getRoot before).symm.trans visited, lies⟩
  | cons sought above induction =>
      rcases there with ⟨node, visited, isFolder, rfl⟩
      rw [List.reverse_reverse] at visited
      rcases visit_cons_eq_some.mp visited with ⟨parent, up, found, shows⟩
      rcases (adds.named before).find?_eq_some.mp found with ⟨stored, located, _, inside⟩
      rcases induction up with rfl | up
      · exact absurd inside.1 (adds.empty _ _ located)
      · by_cases here : parent = folder ∧ sought = name
        · rcases here with ⟨rfl, rfl⟩
          rcases adds.added with ⟨new, newLocated, newThere, _⟩
          exact .inl ((adds.named before).unique _ _ _ _ _ _ located inside newLocated newThere)
        · rw [adds.find?_eq before here] at found
          refine .inr ⟨node, ?_, isFolder, rfl⟩
          rw [List.reverse_reverse]
          exact visit_cons_eq_some.mpr ⟨parent, up, found, shows⟩

theorem plain : Plain platform changed where
  toNamed := adds.named before
  isFolder := by
    rw [adds.getRoot before]
    exact before.isFolder
  rooted := by
    apply before.rooted_of_folders (adds.named before) adds.root (adds.getRoot before)
    intro segs parent lies child member
    rcases (adds.named before).mem_children.mp member with ⟨fetched, inside⟩
    rcases getNode_eq_some.mp fetched with ⟨stored, located, same⟩
    rw [← List.reverse_reverse segs] at lies
    rcases adds.folderAt_before before lies with rfl | lies
    · rw [← same] at inside
      exact absurd inside (adds.empty _ _ located)
    · exact ⟨_, lies⟩

/-- What is not at the new path or below it is found as before. -/
theorem visit_eq (lies : FolderAt platform drive segs folder) {names : List JsString}
    (includeDrafts : Bool) (apart : ¬segs ++ [name] <+: names.reverse) :
    changed.visit platform names includeDrafts = drive.visit platform names includeDrafts := by
  induction names generalizing includeDrafts with
  | nil => exact adds.getRoot before
  | cons sought above induction =>
      rw [List.reverse_cons] at apart
      have up := induction false fun begins =>
        apart (begins.trans (List.prefix_append above.reverse [sought]))
      rw [visit_cons, visit_cons, up]
      cases visited : drive.visit platform above false with
      | none => rfl
      | some parent =>
          rw [Option.bind_some, Option.bind_some, pick, pick]
          split
          · rfl
          · next isFolder =>
              rw [adds.find?_eq before]
              rintro ⟨here, rfl⟩
              have there : FolderAt platform drive above.reverse folder :=
                ⟨parent, by rw [List.reverse_reverse, visited], Decidable.of_not_not isFolder, here⟩
              rw [before.folderAt_path lies there] at apart
              exact apart List.prefix_rfl

/-- Nothing was found at the new path, nor below it. -/
theorem tree_before (lies : FolderAt platform drive segs folder) (more : List JsString) :
    drive.tree platform (segs ++ [name] ++ more) = none := by
  have absent : drive.tree platform (segs ++ [name]) = none := by
    apply tree_eq_none_of_visit
    rw [List.reverse_concat, Option.eq_none_iff_forall_ne_some]
    intro node walked
    rcases visit_cons_eq_some.mp walked with ⟨parent, up, found, _⟩
    rcases before.find?_eq_some.mp found with ⟨stored, located, _, inside⟩
    rw [List.reverse_reverse] at up
    rw [up.unique lies] at inside
    exact adds.free _ _ located inside
  cases more with
  | nil =>
      rw [List.append_nil]
      exact absent
  | cons first more =>
      apply (grounded_tree before.isFolder).below
      rw [absent]
      exact (Option.some_ne_none _).symm

theorem folderAt (lies : FolderAt platform drive segs folder) {spot : Uid}
    (there : FolderAt platform drive q spot) : FolderAt platform changed q spot := by
  have seen := tree_folder.mpr ⟨spot, there⟩
  rcases there with ⟨node, visited, isFolder, rfl⟩
  refine ⟨node, ?_, isFolder, rfl⟩
  rw [adds.visit_eq before lies]
  · exact visited
  · rw [List.reverse_reverse]
    rintro ⟨more, rfl⟩
    rw [adds.tree_before before lies] at seen
    cases seen

/-- The new folder lies at its path. -/
theorem folderAt_new (lies : FolderAt platform drive segs folder) :
    FolderAt platform changed (segs ++ [name]) uid := by
  rcases adds.added with ⟨stored, located, there, isFolder, _⟩
  refine ⟨stored.entity uid, ?_, isFolder, rfl⟩
  apply (adds.plain before).visit_isAt (adds.folderAt before lies lies) located there
  intro draft
  have isFolder : (stored.entity uid).type = .folder := isFolder
  simp [NodeEntity.isDraft, isFolder] at draft

/-- A folder is seen at the new path, and all else as before. -/
theorem tree (lies : FolderAt platform drive segs folder) :
    changed.tree platform = Function.update (drive.tree platform) (segs ++ [name])
      (some .folder) := by
  have after := adds.plain before
  funext q
  by_cases begins : segs ++ [name] <+: q
  · rcases begins with ⟨more, rfl⟩
    cases more with
    | nil =>
        rw [List.append_nil, Function.update_self]
        exact tree_folder.mpr ⟨uid, adds.folderAt_new before lies⟩
    | cons first more =>
        have different : segs ++ [name] ++ first :: more ≠ segs ++ [name] := fun same =>
          List.cons_ne_nil first more (List.append_right_eq_self.mp same)
        rw [Function.update_of_ne different, adds.tree_before before lies]
        have nothing : changed.tree platform (segs ++ [name] ++ [first]) = none := by
          apply tree_eq_none_of_visit
          rw [List.reverse_concat, Option.eq_none_iff_forall_ne_some]
          intro node walked
          rcases visit_cons_eq_some.mp walked with ⟨parent, up, found, _⟩
          rcases after.find?_eq_some.mp found with ⟨stored, located, _, inside⟩
          rw [List.reverse_reverse] at up
          rw [up.unique (adds.folderAt_new before lies)] at inside
          exact adds.empty _ _ located inside.1
        cases more with
        | nil => exact nothing
        | cons second more =>
            have noFolder : changed.tree platform (segs ++ [name] ++ [first]) ≠ some .folder := by
              rw [nothing]
              exact (Option.some_ne_none _).symm
            have below := (grounded_tree after.isFolder).below noFolder second more
            rwa [List.append_assoc _ [first], List.singleton_append] at below
  · rw [Function.update_of_ne]
    · apply tree_congr (adds.visit_eq before lies false (by rwa [List.reverse_reverse]))
      intro node visited
      rcases getNode_eq_some.mp (getNode_of_visit visited) with ⟨stored, located, _⟩
      exact shown_congr ((adds.kept located).trans located.symm)
    · rintro rfl
      exact begins List.prefix_rfl

end AddsFolder

/-! ## A node that is deleted -/

/-- A node is taken out of the drive, with all that is below it out of sight. -/
structure Deletes (uid : Uid) (drive changed : Drive) : Prop where
  root : changed.root = drive.root
  gone : changed.nodes.get uid = none
  elsewhere : ∀ other, other ≠ uid → changed.nodes.get other = drive.nodes.get other

namespace Deletes

variable {node : NodeEntity} (deletes : Deletes uid drive changed)
include deletes

theorem kept {other : Uid} {stored : DriveNode} (located : changed.nodes.get other = some stored) :
    drive.nodes.get other = some stored := by
  rw [← deletes.elsewhere other, located]
  rintro rfl
  rw [deletes.gone] at located
  cases located

variable (before : Plain platform drive) (notRoot : uid ≠ drive.root)
include before notRoot

omit notRoot in
theorem named : Named platform changed where
  untrashed other stored located := before.untrashed other stored (deletes.kept located)
  unique spot sought _ _ _ _ located there locatedToo thereToo :=
    before.unique spot sought _ _ _ _ (deletes.kept located) there (deletes.kept locatedToo)
      thereToo

theorem getRoot : changed.getNode changed.root = drive.getNode drive.root := by
  rcases before.isFolder with ⟨root, fetched, _⟩
  rcases getNode_eq_some.mp fetched with ⟨stored, located, same⟩
  rw [fetched, deletes.root]
  rw [← deletes.elsewhere _ notRoot.symm] at located
  exact getNode_eq_some.mpr ⟨stored, located, same⟩

theorem plain : Plain platform changed where
  toNamed := deletes.named before
  isFolder := by
    rw [deletes.getRoot before notRoot]
    exact before.isFolder
  rooted := by
    apply before.rooted_of_folders (deletes.named before) deletes.root
      (deletes.getRoot before notRoot)
    intro segs parent lies child member
    refine ⟨segs, lies.mono ?_ ?_⟩
    · intro node fetched _
      rw [← deletes.getRoot before notRoot]
      exact fetched
    · intro spot sought node found _
      rcases (deletes.named before).find?_eq_some.mp found with ⟨stored, located, same, there⟩
      exact before.find?_eq_some.mpr ⟨stored, deletes.kept located, same, there⟩

/-- At the deleted path and below nothing is found, and elsewhere what was found before. -/
theorem visit_eq (found : drive.visit platform path.reverse false = some node)
    (same : node.uid = uid) (inside : path ≠ []) (names : List JsString) (includeDrafts : Bool) :
    changed.visit platform names includeDrafts =
      if path <+: names.reverse then none else drive.visit platform names includeDrafts := by
  have after := deletes.plain before notRoot
  rcases lies_of_visit found inside with ⟨up, home, rfl, upward, within, _, _⟩
  have parents := (mem_children.mp within).2.1
  rcases getNode_eq_some.mp (getNode_of_visit found) with ⟨stored, located, entity⟩
  have isThere : stored.IsAt platform home.uid (platform.getName node) :=
    (isAt_iff entity).mpr ⟨parents, rfl⟩
  induction names generalizing includeDrafts with
  | nil =>
      rw [if_neg (by simp)]
      exact deletes.getRoot before notRoot
  | cons sought above induction =>
      rw [List.reverse_cons, visit_cons, visit_cons, induction]
      by_cases below : up ++ [platform.getName node] <+: above.reverse
      · rw [if_pos below, if_pos (below.trans (List.prefix_append _ _))]
        rfl
      · rw [if_neg below]
        by_cases here : up ++ [platform.getName node] = above.reverse ++ [sought]
        · rw [if_pos (here ▸ List.prefix_rfl)]
          rcases List.append_inj' here rfl with ⟨rfl, last⟩
          rw [List.reverse_reverse] at upward
          rw [upward, Option.bind_some, pick]
          split
          · rfl
          · have nothing : (changed.children platform home.uid).find?
                (fun child => platform.getName child = sought) = none := by
              rw [Option.eq_none_iff_forall_ne_some]
              intro child picked
              rcases after.find?_eq_some.mp picked with ⟨other, otherLocated, _, there⟩
              rw [← (List.cons.inj last).1] at there
              have equal := before.unique _ _ _ _ _ _ (deletes.kept otherLocated) there located
                isThere
              rw [equal, same, deletes.gone] at otherLocated
              cases otherLocated
            rw [nothing]
            rfl
        · rw [if_neg]
          · cases visited : drive.visit platform above false with
            | none => rfl
            | some parent =>
                rw [Option.bind_some, Option.bind_some, pick, pick,
                  before.find?_congr after.toNamed]
                intro other candidate there
                refine ⟨deletes.kept, ?_⟩
                intro otherLocated
                rw [deletes.elsewhere other, otherLocated]
                intro equal
                rw [equal, ← same, located] at otherLocated
                cases otherLocated
                have homes := Option.some.inj (isThere.1.symm.trans there.1)
                have paths := before.rooted.visit_unique upward visited homes
                apply here
                rw [← paths, List.reverse_reverse, isThere.2.symm.trans there.2]
          · rw [List.prefix_concat_iff]
            exact fun begins => begins.elim here below

/-- A folder stays where it lies, unless that is at the deleted path or below. -/
theorem folderAt (found : drive.visit platform path.reverse false = some node)
    (same : node.uid = uid) (inside : path ≠ []) {spot : Uid}
    (lies : FolderAt platform drive q spot) (apart : ¬path <+: q) :
    FolderAt platform changed q spot := by
  rcases lies with ⟨folder, visited, isFolder, rfl⟩
  refine ⟨folder, ?_, isFolder, rfl⟩
  rw [deletes.visit_eq before notRoot found same inside, List.reverse_reverse, if_neg apart]
  exact visited

/-- Nothing is seen any more at the deleted path and below. -/
theorem tree (found : drive.visit platform path.reverse false = some node)
    (same : node.uid = uid) (inside : path ≠ []) :
    changed.tree platform = PathMap.prune (drive.tree platform) path := by
  funext q
  have visited := deletes.visit_eq before notRoot found same inside q.reverse false
  rw [List.reverse_reverse] at visited
  unfold PathMap.prune
  by_cases begins : path <+: q
  · rw [if_pos begins] at visited ⊢
    exact tree_eq_none_of_visit visited
  · rw [if_neg begins] at visited ⊢
    apply tree_congr visited
    intro other walked
    apply shown_congr
    rw [deletes.elsewhere]
    intro equal
    have paths := before.rooted.visit_unique found walked (same.trans equal.symm)
    exact begins (List.reverse_inj.mp paths ▸ List.prefix_rfl)

end Deletes

/-! ## A node that is relocated -/

theorem shown_relocate (uid parent : Uid) (newName : NodeName) (node : NodeEntity) :
    (drive.relocate uid parent newName).shown (node.relocated uid parent newName) =
      drive.shown node := by
  unfold shown
  rw [NodeEntity.relocated_type, NodeEntity.relocated_uid, relocate, get_alter, Option.map_map]
  cases node.type with
  | folder => rfl
  | other => rfl
  | file =>
      apply Option.map_congr
      intro stored _
      dsimp only [Function.comp_apply]
      split
      · rfl
      · rfl

theorem Named.relocate {home : Uid} {newName : NodeName} (before : Named platform drive)
    (free : ∀ other stored, other ≠ uid → drive.nodes.get other = some stored →
      ¬stored.IsAt platform home (platform.showName newName)) :
    Named platform (drive.relocate uid home newName) where
  untrashed other stored located := by
    rw [Drive.relocate, get_alter, Option.map_eq_some_iff] at located
    rcases located with ⟨earlier, located, rfl⟩
    split
    · exact before.untrashed other earlier located
    · exact before.untrashed other earlier located
  unique spot sought first second firstNode secondNode located there locatedToo thereToo := by
    -- the node is alone at its new place
    have placed : ∀ {other stored}, (drive.relocate uid home newName).nodes.get other =
        some stored → stored.IsAt platform spot sought →
        other = uid ∧ spot = home ∧ sought = platform.showName newName ∨
          other ≠ uid ∧ drive.nodes.get other = some stored := by
      intro other stored located there
      rw [Drive.relocate, get_alter, Option.map_eq_some_iff] at located
      rcases located with ⟨earlier, located, rfl⟩
      split at there
      · next same => exact .inl ⟨same, (Option.some.inj there.1).symm, there.2.symm⟩
      · next different =>
          rw [if_neg different]
          exact .inr ⟨different, located⟩
    rcases placed located there with ⟨rfl, rfl, rfl⟩ | ⟨different, earlier⟩
    · rcases placed locatedToo thereToo with ⟨rfl, _⟩ | ⟨different, earlierToo⟩
      · rfl
      · exact absurd thereToo (free _ _ different earlierToo)
    · rcases placed locatedToo thereToo with ⟨rfl, rfl, rfl⟩ | ⟨_, earlierToo⟩
      · exact absurd there (free _ _ different earlier)
      · exact before.unique spot sought _ _ _ _ earlier there earlierToo thereToo

theorem Plain.getRoot_relocate {home : Uid} {newName : NodeName} (before : Plain platform drive)
    (notRoot : uid ≠ drive.root) :
    (drive.relocate uid home newName).getNode drive.root = drive.getNode drive.root := by
  rcases before.isFolder with ⟨root, fetched, _⟩
  rcases getNode_eq_some.mp fetched with ⟨stored, located, same⟩
  rw [fetched]
  refine getNode_eq_some.mpr ⟨stored, ?_, same⟩
  rw [Drive.relocate, get_alter, located, Option.map_some, if_neg notRoot.symm]

/-- A root without a parent stays the root of a tree, whatever is relocated. -/
theorem Plain.relocate_of_top {home : Uid} {newName : NodeName} (before : Plain platform drive)
    (top : ∀ stored, drive.nodes.get drive.root = some stored → stored.parentUid = none)
    (notRoot : uid ≠ drive.root)
    (free : ∀ other stored, other ≠ uid → drive.nodes.get other = some stored →
      ¬stored.IsAt platform home (platform.showName newName)) :
    Plain platform (drive.relocate uid home newName) where
  toNamed := before.toNamed.relocate free
  isFolder := by
    rcases before.isFolder with ⟨root, fetched, isFolder⟩
    exact ⟨root, (before.getRoot_relocate notRoot).trans fetched, isFolder⟩
  rooted := by
    apply rooted_of_top
    intro stored located
    change (drive.relocate uid home newName).nodes.get drive.root = some stored at located
    rw [Drive.relocate, get_alter, Option.map_eq_some_iff] at located
    rcases located with ⟨earlier, located, rfl⟩
    rw [if_neg notRoot.symm]
    exact top earlier located

section

variable {node home : NodeEntity} {newName : NodeName} {source above : List JsString}
  (before : Plain platform drive)
  (found : drive.visit platform source.reverse false = some node) (inside : source ≠ [])
  (free : ∀ other stored, drive.nodes.get other = some stored →
    ¬stored.IsAt platform home.uid (platform.showName newName))
include before found inside free

variable (target : drive.visit platform above.reverse false = some home)
  (isFolder : home.type = .folder) (apart : ¬source <+: above ++ [platform.showName newName])
include target isFolder apart

/-- Everything is found where it was, but for what is at the old path or below. -/
theorem Plain.visit_relocate (names : List JsString) (includeDrafts : Bool) :
    (drive.relocate node.uid home.uid newName).visit platform names includeDrafts =
      (origin source (above ++ [platform.showName newName]) names.reverse).bind fun old =>
        (drive.visit platform old.reverse includeDrafts).map
          (NodeEntity.relocated node.uid home.uid newName) := by
  have none : ∀ child ∈ drive.children platform home.uid,
      platform.getName child ≠ platform.showName newName := by
    intro child member named
    rcases before.mem_children.mp member with ⟨fetched, within⟩
    rcases getNode_eq_some.mp fetched with ⟨stored, located, same⟩
    exact free _ _ located ((isAt_iff same).mpr ⟨within, named⟩)
  have visited := Drive.visit_relocate before.isTree found inside target none apart isFolder
    names.reverse includeDrafts
  rwa [List.reverse_reverse] at visited

/-- What was a tree below the root is one still. -/
theorem Plain.relocate : Plain platform (drive.relocate node.uid home.uid newName) := by
  have notRoot := before.rooted.ne_root_of_inside found inside
  have named : Named platform (drive.relocate node.uid home.uid newName) :=
    before.toNamed.relocate fun other stored _ => free other stored
  have root : (drive.relocate node.uid home.uid newName).getNode drive.root =
      drive.getNode drive.root := before.getRoot_relocate notRoot
  refine ⟨named, ?_, ?_⟩
  · rcases before.isFolder with ⟨top, fetched, isFolder⟩
    exact ⟨top, root.trans fetched, isFolder⟩
  · apply before.rooted_of_folders named rfl root
    intro segs parent lies child member
    rcases lies with ⟨folder, visited, isFolder', rfl⟩
    rw [before.visit_relocate found inside free target isFolder apart, List.reverse_reverse]
      at visited
    rcases Option.bind_eq_some_iff.mp visited with ⟨old, _, moved⟩
    rcases Option.map_eq_some_iff.mp moved with ⟨earlier, walked, rfl⟩
    rw [NodeEntity.relocated_type] at isFolder'
    exact ⟨old, earlier, walked, isFolder', (NodeEntity.relocated_uid _ _ _ _).symm⟩

/-- A folder stays where it lies, unless that is at the old path or below. -/
theorem Plain.folderAt_relocate {spot : Uid} (lies : FolderAt platform drive q spot)
    (elsewhere : ¬source <+: q) :
    FolderAt platform (drive.relocate node.uid home.uid newName) q spot := by
  rcases lies with ⟨folder, visited, isFolder', rfl⟩
  have notBelow : ¬above ++ [platform.showName newName] <+: q := by
    -- nothing lay at the new path
    rintro ⟨more, rfl⟩
    have absent : drive.tree platform (above ++ [platform.showName newName]) = none := by
      apply tree_eq_none_of_visit
      rw [List.reverse_concat, Option.eq_none_iff_forall_ne_some]
      intro other walked
      rcases visit_cons_eq_some.mp walked with ⟨parent, up, picked, _⟩
      rcases before.find?_eq_some.mp picked with ⟨stored, located, _, within⟩
      rw [up.unique ⟨home, by rw [List.reverse_reverse]; exact target, isFolder, rfl⟩] at within
      exact free _ _ located within
    have seen := tree_folder.mpr ⟨folder.uid, folder, visited, isFolder', rfl⟩
    cases more with
    | nil =>
        rw [List.append_nil, absent] at seen
        cases seen
    | cons first more =>
        have noFolder : drive.tree platform (above ++ [platform.showName newName]) ≠
            some .folder := by
          rw [absent]
          exact (Option.some_ne_none _).symm
        rw [(grounded_tree before.isFolder).below noFolder] at seen
        cases seen
  refine ⟨folder.relocated node.uid home.uid newName, ?_, ?_, ?_⟩
  · rw [before.visit_relocate found inside free target isFolder apart, List.reverse_reverse,
      origin, if_neg notBelow, if_neg elsewhere, Option.bind_some, visited]
    rfl
  · rw [NodeEntity.relocated_type]
    exact isFolder'
  · exact NodeEntity.relocated_uid _ _ _ _

/-- What was seen at the old path and below is seen at the new one. -/
theorem Plain.tree_relocate :
    (drive.relocate node.uid home.uid newName).tree platform =
      PathMap.transplant (drive.tree platform) source
        (above ++ [platform.showName newName]) := by
  have seen : ∀ old : List JsString,
      ((drive.visit platform old.reverse false).map
        (NodeEntity.relocated node.uid home.uid newName)).bind
          (drive.relocate node.uid home.uid newName).shown = drive.tree platform old := by
    intro old
    rw [Option.bind_map]
    congr 1
    funext other
    exact shown_relocate node.uid home.uid newName other
  funext q
  rw [tree, before.visit_relocate found inside free target isFolder apart, List.reverse_reverse,
    origin, PathMap.transplant, PathMap.graft, PathMap.prune]
  split
  · exact seen _
  · split
    · rfl
    · exact seen q

end

/-! ## Drafts that come and go -/

/-- Two trees that differ in unfinished uploads only. -/
structure Drafted (platform : Platform) (drive changed : Drive) : Prop where
  root : changed.root = drive.root
  plain : Plain platform changed
  committed : ∀ uid stored, stored.isDraft = false →
    (changed.nodes.get uid = some stored ↔ drive.nodes.get uid = some stored)

namespace Drafted

theorem refl (plain : Plain platform drive) : Drafted platform drive drive :=
  ⟨rfl, plain, fun _ _ _ => Iff.rfl⟩

theorem trans {last : Drive} (first : Drafted platform drive changed)
    (second : Drafted platform changed last) : Drafted platform drive last where
  root := second.root.trans first.root
  plain := second.plain
  committed uid stored committed :=
    (second.committed uid stored committed).trans (first.committed uid stored committed)

variable (drafted : Drafted platform drive changed) (before : Plain platform drive)
include drafted before

/-- A committed node is picked in the one tree exactly if it is in the other. -/
theorem pick_eq (sought : JsString) (parent : NodeEntity) :
    changed.pick platform sought false parent = drive.pick platform sought false parent := by
  have picks : ∀ {first second : Drive} {node : NodeEntity}, Plain platform first →
      Plain platform second →
      (∀ uid stored, stored.isDraft = false → first.nodes.get uid = some stored →
        second.nodes.get uid = some stored) →
      first.pick platform sought false parent = some node →
      second.pick platform sought false parent = some node := by
    intro first second node plainFirst plainSecond kept picked
    unfold pick at picked ⊢
    split at picked
    · cases picked
    · next isFolder =>
        rw [if_neg isFolder]
        rcases Option.bind_eq_some_iff.mp picked with ⟨child, chosen, visible⟩
        rcases plainFirst.find?_eq_some.mp chosen with ⟨stored, located, same, there⟩
        have isCommitted : stored.isDraft = false := by
          cases draft : stored.isDraft with
          | false => rfl
          | true =>
              have isDraft : child.isDraft = true := by
                rw [← same]
                exact draft
              rw [isDraft] at visible
              cases visible
        have again := plainSecond.find?_eq_some.mpr
          ⟨stored, kept _ _ isCommitted located, same, there⟩
        rw [again]
        exact visible
  apply Option.ext
  intro node
  constructor
  · exact picks drafted.plain before fun uid stored committed =>
      (drafted.committed uid stored committed).mp
  · exact picks before drafted.plain fun uid stored committed =>
      (drafted.committed uid stored committed).mpr

theorem visit_eq (names : List JsString) :
    changed.visit platform names false = drive.visit platform names false := by
  induction names with
  | nil =>
      rcases before.isFolder with ⟨root, fetched, isFolder⟩
      rcases getNode_eq_some.mp fetched with ⟨stored, located, same⟩
      have committed : stored.isDraft = false := by
        rw [← same] at isFolder
        have isFolder : stored.type = .folder := isFolder
        rw [DriveNode.isDraft, isFolder]
        rfl
      change changed.getNode changed.root = drive.getNode drive.root
      rw [drafted.root, fetched]
      exact getNode_eq_some.mpr ⟨stored, (drafted.committed _ _ committed).mpr located, same⟩
  | cons sought above induction =>
      rw [visit_cons, visit_cons, induction]
      congr 1
      funext parent
      exact drafted.pick_eq before sought parent

theorem folderAt {spot : Uid} (lies : FolderAt platform drive q spot) :
    FolderAt platform changed q spot := by
  rcases lies with ⟨node, visited, lies⟩
  exact ⟨node, (drafted.visit_eq before _).trans visited, lies⟩

/-- They are not seen. -/
theorem tree : changed.tree platform = drive.tree platform := by
  funext q
  apply tree_congr (drafted.visit_eq before q.reverse)
  intro node visited
  unfold shown
  cases type : node.type with
  | folder => rfl
  | other => rfl
  | file =>
      rcases getNode_eq_some.mp (getNode_of_visit visited) with ⟨stored, located, same⟩
      have committed : stored.isDraft = false := by
        cases draft : stored.isDraft with
        | false => rfl
        | true =>
            have isDraft : node.isDraft = true := by
              rw [← same]
              exact draft
            rcases List.eq_nil_or_concat q with rfl | ⟨above, name, rfl⟩
            · rcases before.isFolder with ⟨root, fetched, isFolder⟩
              cases visited.symm.trans fetched
              rw [type] at isFolder
              cases isFolder
            · rw [List.concat_eq_append, List.reverse_concat] at visited
              rcases visit_cons_eq_some.mp visited with ⟨_, _, _, visible, _⟩
              cases visible isDraft
      have kept := (drafted.committed _ _ committed).mpr located
      rw [kept, located]

end Drafted

end Drive

end DriveWebdav
