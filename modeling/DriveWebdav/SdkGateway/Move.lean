import DriveWebdav.SdkGateway.Visibility

/-! # Moves

A move that changes both the folder and the name of a node first takes it into the new folder
under its old name. That name can be taken there. -/

namespace DriveWebdav

/-- The name of a node that has been moved to `d`. -/
def nameAfter (platform : Platform) (node : NodeEntity) (d : JsString) : NodeName :=
  if platform.getName node = baseName d then node.name else ⟨true, baseName d⟩

/-- There is a node at `s`, and `d` is a free path in a folder that is not below `s`. -/
structure Movable (platform : Platform) (drive : Drive) (s d : JsString)
    (node folder : NodeEntity) : Prop where
  inside : segments s ≠ []
  found : drive.nodeAt platform s false = some node
  target : segments d ≠ []
  safe : isSafeSegment (baseName d) = true
  parent : drive.nodeAt platform (parentPath d) false = some folder
  isFolder : folder.type = .folder
  free : ∀ child ∈ drive.children platform folder.uid, platform.getName child ≠ baseName d
  apart : ¬segments s <+: segments d

/-- The tree as it was, but for the node of `s`, which is at `d` with all that is below. -/
structure MovedTo (platform : Platform) (drive : Drive) (s d : JsString)
    (node folder : NodeEntity) (final : Drive) : Prop where
  nodes : final = drive.relocate node.uid folder.uid (nameAfter platform node d)
  paths : ∀ path includeDrafts, final.visit platform path.reverse includeDrafts =
    (origin (segments s) (segments d) path).bind fun old =>
      (drive.visit platform old.reverse includeDrafts).map
        (NodeEntity.relocated node.uid folder.uid (nameAfter platform node d))

variable {platform : Platform} {answer : TreeAnswer} {drive : Drive} {world : ServiceWorld}
  {s d : JsString} {node folder : NodeEntity}

theorem showName_nameAfter (node : NodeEntity) (d : JsString) :
    platform.showName (nameAfter platform node d) = baseName d := by
  unfold nameAfter
  split
  · next same => exact same
  · exact platform.showName_ok _ rfl

namespace Movable

variable (movable : Movable platform drive s d node folder)
include movable

theorem segments_target : segments d = segments (parentPath d) ++ [baseName d] :=
  segments_eq_concat movable.target

theorem safe_target : (segments d).all isSafeSegment = true := by
  rw [movable.segments_target, List.all_append, safe_of_nodeAt movable.parent, List.all_cons,
    movable.safe]
  rfl

/-- Not even a draft is at `d`. -/
theorem nothing_there : drive.nodeAt platform d true = none := by
  rw [Drive.nodeAt, if_pos movable.safe_target, movable.segments_target, List.reverse_concat,
    Drive.visit_cons, visit_of_nodeAt movable.parent, Option.bind_some]
  cases picked : drive.pick platform (baseName d) true folder with
  | none => rfl
  | some child =>
      rcases Drive.mem_of_pick picked with ⟨_, member, named, _⟩
      exact absurd named (movable.free child member)

theorem getName_node : platform.getName node = baseName s := by
  rcases Drive.lies_of_visit (visit_of_nodeAt movable.found) movable.inside with
    ⟨above, _, shape, _⟩
  rw [baseName, shape, List.getLastD_concat]

theorem stored : ∃ stored, drive.nodes.get node.uid = some stored ∧
    stored.entity node.uid = node :=
  Drive.getNode_eq_some.mp (Drive.getNode_of_visit (visit_of_nodeAt movable.found))

/-- Where the folder stays, the node is already in it. -/
theorem parentUid_eq (same : parentPath s = parentPath d) : node.parentUid = some folder.uid := by
  have inside : isRoot s = false := by
    rw [← Bool.not_eq_true, isRoot_iff]
    exact movable.inside
  rcases Drive.nodeAt_eq_some inside movable.found with ⟨parent, lies, member, _⟩
  have here : Drive.FolderAt platform drive (segments (parentPath s)) folder.uid := by
    rw [same]
    exact ⟨folder, visit_of_nodeAt movable.parent, movable.isFolder, rfl⟩
  rw [← lies.unique here]
  exact (Drive.mem_children.mp member).2.1

theorem nameFree : drive.nameTaken platform folder.uid (baseName d) node.uid = false := by
  rw [Drive.nameTaken, List.any_eq_false]
  intro entry member taken
  simp only [Bool.and_eq_true, decide_eq_true_eq, Bool.not_eq_true'] at taken
  apply movable.free (entry.2.entity entry.1)
  · apply Drive.mem_children.mpr
    refine ⟨Drive.getNode_eq_some.mpr ⟨entry.2, ?_, rfl⟩, taken.1.1.2, .inr taken.1.2⟩
    exact (InsertionMap.get_eq_some_iff _ _ _).mpr member
  · exact taken.2

theorem normalized : Movable platform drive (normalize s) (normalize d) node folder where
  inside := by
    rw [segments_normalize]
    exact movable.inside
  found := by
    rw [nodeAt_normalize]
    exact movable.found
  target := by
    rw [segments_normalize]
    exact movable.target
  safe := by
    rw [baseName_normalize]
    exact movable.safe
  parent := by
    rw [parentPath_normalize]
    exact movable.parent
  isFolder := movable.isFolder
  free := by
    rw [baseName_normalize]
    exact movable.free
  apart := by
    rw [segments_normalize, segments_normalize]
    exact movable.apart

/-- Relocation is what the move is to achieve. -/
theorem movedTo (tree : drive.IsTree platform) :
    MovedTo platform drive s d node folder
      (drive.relocate node.uid folder.uid (nameAfter platform node d)) where
  nodes := rfl
  paths path includeDrafts := by
    have moved := @Drive.visit_relocate platform drive node folder (nameAfter platform node d)
      (segments s) (segments (parentPath d)) tree (visit_of_nodeAt movable.found) movable.inside
      (visit_of_nodeAt movable.parent)
    rw [showName_nameAfter, ← movable.segments_target] at moved
    exact moved movable.free movable.apart movable.isFolder path includeDrafts

end Movable

/-! ## The two calls -/

theorem nameTaken_alter (uid parent : Uid) (name : JsString) (change : DriveNode → DriveNode) :
    (drive.alter uid change).nameTaken platform parent name uid =
      drive.nameTaken platform parent name uid := by
  unfold Drive.nameTaken Drive.alter InsertionMap.mapValues
  rw [List.any_map]
  congr 1
  funext entry
  by_cases same : entry.1 = uid
  · simp [same]
  · simp [same]

/-- The node in another folder, under its old name. -/
def reparented (drive : Drive) (node folder : NodeEntity) : Drive :=
  drive.alter node.uid fun stored => { stored with parentUid := some folder.uid }

/-- The folder stays, or no other child of the new one has the old name. -/
def PassesThrough (platform : Platform) (drive : Drive) (s d : JsString)
    (node folder : NodeEntity) : Prop :=
  parentPath s = parentPath d ∨
    drive.nameTaken platform folder.uid (baseName s) node.uid = false

section

variable (movable : Movable platform drive s d node folder)
include movable

theorem reparented_of_stays (stays : parentPath s = parentPath d) :
    reparented drive node folder = drive := by
  apply Drive.alter_eq_self
  intro stored located
  rcases movable.stored with ⟨found, locatedToo, entity⟩
  cases locatedToo.symm.trans located
  have parents : stored.parentUid = some folder.uid := by
    rw [← movable.parentUid_eq stays, ← entity]
    rfl
  rw [← parents]

theorem relocate_nameAfter : drive.relocate node.uid folder.uid (nameAfter platform node d) =
    if baseName s = baseName d then reparented drive node folder
    else (reparented drive node folder).alter node.uid fun stored =>
      { stored with name := ⟨true, baseName d⟩ } := by
  rw [Drive.relocate, nameAfter, movable.getName_node]
  split
  · apply Drive.alter_congr
    intro stored located
    rcases movable.stored with ⟨found, locatedToo, entity⟩
    cases locatedToo.symm.trans located
    rw [← entity]
    rfl
  · rw [reparented, Drive.alter_alter]
    rfl

theorem mayEnter (tree : drive.IsTree platform) : drive.MayEnter platform node folder where
  source := Drive.getNode_of_visit (visit_of_nodeAt movable.found)
  notRoot := tree.rooted.ne_root_of_inside (visit_of_nodeAt movable.found) movable.inside
  target := Drive.getNode_of_visit (visit_of_nodeAt movable.parent)
  isFolder := movable.isFolder
  apart := by
    intro above below found reached
    have source := tree.rooted.visit_unique (visit_of_nodeAt movable.found) found rfl
    have target := tree.rooted.visit_unique (visit_of_nodeAt movable.parent) reached rfl
    apply movable.apart
    rw [movable.segments_target, ← List.reverse_reverse (segments (parentPath d)), target,
      List.reverse_append, ← source, List.reverse_reverse, List.append_assoc]
    exact List.prefix_append _ _

variable (keepsNames : KeepsNames platform answer) (tree : drive.IsTree platform)
include keepsNames tree

/-- The node goes into the folder under the name it has. -/
theorem run_relocate (same : world.remote = drive)
    (passes : PassesThrough platform drive s d node folder) :
    answer.run (relocate s d node folder) world =
      (.ok (), ⟨world.memory, reparented drive node folder⟩) := by
  rw [TreeAnswer.run, relocate]
  split
  · next stays =>
      rw [reparented_of_stays movable stays, ← same]
      rfl
  · next leaves =>
      have free := passes.resolve_left leaves
      rw [← movable.getName_node] at free
      rw [Program.run_bind, Program.run_request, TreeAnswer.respond, same,
        keepsNames.moves _ _ _ (mayEnter movable tree) free]
      rfl

theorem run_relocate_taken (same : world.remote = drive)
    (stopped : ¬PassesThrough platform drive s d node folder) :
    ∃ fault, answer.run (relocate s d node folder) world = (.error (.sdk fault), world) := by
  rcases not_or.mp stopped with ⟨leaves, taken⟩
  rw [Bool.not_eq_false, ← movable.getName_node] at taken
  rcases keepsNames.refuses _ _ _ (mayEnter movable tree) taken with ⟨fault, refused⟩
  refine ⟨fault, ?_⟩
  rw [TreeAnswer.run, relocate, if_neg leaves, Program.run_bind, Program.run_request,
    TreeAnswer.respond, same]
  rcases refused with refused | refused
  · rw [refused, ← same]
    rfl
  · rw [refused, ← same]

/-- In the folder the new name is free, so that the node can have it. -/
theorem run_renameTo (memory : ServiceMemory) :
    answer.run (renameTo s d node) ⟨memory, reparented drive node folder⟩ =
      (.ok (), ⟨memory,
        drive.relocate node.uid folder.uid (nameAfter platform node d)⟩) := by
  rw [TreeAnswer.run, renameTo, relocate_nameAfter movable]
  split
  · rfl
  · rcases movable.stored with ⟨stored, located, _⟩
    have here : (reparented drive node folder).nodes.get node.uid =
        some { stored with parentUid := some folder.uid } := by
      rw [reparented, Drive.get_alter, located, Option.map_some, if_pos rfl]
    have free : (reparented drive node folder).nameTaken platform folder.uid (baseName d)
        node.uid = false := by
      rw [reparented, nameTaken_alter]
      exact movable.nameFree
    have renamed := keepsNames.renames _ node _ folder.uid (baseName d) here rfl
      (mayEnter movable tree).notRoot free
    rw [Program.run_tryCatch, Program.run_request, TreeAnswer.respond, renamed]

/-- A move of the node once everything has been looked up. -/
theorem run_moveNode (same : world.remote = drive)
    (passes : PassesThrough platform drive s d node folder) :
    answer.run (moveNode platform s d node folder) world =
      (.ok (), ⟨invalidate d (invalidate s world.memory),
        drive.relocate node.uid folder.uid (nameAfter platform node d)⟩) := by
  have ran := run_relocate movable keepsNames tree same passes
  have renamed := run_renameTo movable keepsNames tree world.memory
  rw [TreeAnswer.run] at ran renamed ⊢
  rw [moveNode, Program.run_finallyDo_modify, mapErrors, Program.run_tryCatch, Program.run_bind,
    ran]
  dsimp only
  rw [renamed]

theorem run_moveNode_taken (same : world.remote = drive)
    (stopped : ¬PassesThrough platform drive s d node folder) :
    ∃ error, (answer.run (moveNode platform s d node folder) world).1 = .error error := by
  rcases run_relocate_taken movable keepsNames tree same stopped with ⟨fault, ran⟩
  refine ⟨mapGenericError platform (.sdk fault), ?_⟩
  rw [TreeAnswer.run] at ran ⊢
  rw [moveNode, Program.run_finallyDo_modify, mapErrors, Program.run_tryCatch, Program.run_bind,
    ran]
  rfl

end

/-! ## The lookups before -/

section

variable (movable : Movable platform drive s d node folder)
  (truthful : Truthful platform answer) (hasRoot : drive.HasRoot)
  (same : world.remote = drive) (accurate : Accurate platform world)
include movable truthful hasRoot same accurate

theorem run_resolveDestination :
    ∃ reached, answer.run (resolveDestination platform (normalize d)) world =
        (.ok folder, reached) ∧ reached.remote = drive := by
  have safe := safe_of_nodeAt movable.parent
  rw [← parentPath_normalize] at safe
  rcases truthful.run_resolve hasRoot false safe same accurate with
    ⟨looked, ranParent, kept, still⟩
  have safeTarget := movable.safe_target
  rw [← segments_normalize] at safeTarget
  rcases truthful.run_resolve hasRoot true safeTarget kept still with
    ⟨reached, ran, stays, _⟩
  refine ⟨reached, ?_, stays⟩
  rw [parentPath_normalize, movable.parent] at ranParent
  rw [nodeAt_normalize, movable.nothing_there] at ran
  rw [TreeAnswer.run] at ranParent ran ⊢
  rw [resolveDestination, parentPath_normalize, Program.run_bind, ranParent]
  dsimp only
  rw [if_neg (not_not_intro movable.isFolder), baseName_normalize, movable.safe]
  rw [Bool.not_true, if_neg Bool.false_ne_true, Program.run_bind, ran]
  rfl

/-- A move comes to its two calls. -/
theorem run_move :
    ∃ reached, reached.remote = drive ∧
      answer.run (move platform s d) world =
        answer.run
          (moveNode platform (normalize s) (normalize d) node folder) reached := by
  have safe := safe_of_nodeAt movable.found
  rw [← segments_normalize] at safe
  rcases truthful.run_resolveOrThrow hasRoot same accurate safe with
    ⟨found, kept, still, ranNode⟩
  rcases run_resolveDestination movable truthful hasRoot kept still with ⟨reached, ran, stays⟩
  refine ⟨reached, stays, ?_⟩
  rw [nodeAt_normalize, movable.found] at ranNode
  rw [TreeAnswer.run] at ranNode ran ⊢
  rw [move, if_neg, if_neg, Program.run_bind, ranNode]
  · dsimp only
    rw [Program.run_bind, ran]
    rfl
  · rw [movesInto_iff movable.inside]
    exact movable.apart
  · rw [Bool.or_eq_true, isRoot_normalize, isRoot_normalize, isRoot_iff, isRoot_iff]
    exact fun root => root.elim movable.inside movable.target

/-- A move onto a free path succeeds, and does what it is to do, exactly if its first call does
not meet another child of the old name. -/
theorem move_iff (keepsNames : KeepsNames platform answer) (tree : drive.IsTree platform) :
    (answer.run (move platform s d) world).1 = .ok () ∧
        MovedTo platform drive s d node folder
          (answer.run (move platform s d) world).2.remote ↔
      PassesThrough platform drive s d node folder := by
  rcases run_move movable truthful hasRoot same accurate with ⟨reached, kept, ran⟩
  have normal := movable.normalized
  have passes : PassesThrough platform drive (normalize s) (normalize d) node folder ↔
      PassesThrough platform drive s d node folder := by
    rw [PassesThrough, PassesThrough, parentPath_normalize, parentPath_normalize,
      baseName_normalize]
  have named : nameAfter platform node (normalize d) = nameAfter platform node d := by
    rw [nameAfter, nameAfter, baseName_normalize]
  rw [ran]
  constructor
  · intro moved
    by_contra stopped
    rcases run_moveNode_taken normal keepsNames tree kept fun through =>
      stopped (passes.mp through) with ⟨error, failed⟩
    cases failed.symm.trans moved.1
  · intro through
    rw [run_moveNode normal keepsNames tree kept (passes.mpr through), named]
    exact ⟨rfl, movable.movedTo tree⟩

end

/-! ## Two folders -/

def folderNode (uid : Uid) (name : JsString) : NodeEntity :=
  (DriveNode.folder (some 0) name).entity uid

def fileNode (uid : Uid) (parent : Uid) (name : JsString) : NodeEntity :=
  (DriveNode.file parent name [] "").entity uid

/-- A file `/a/x`, an empty folder `/b`, and more. -/
def twoFolders (others : List (Uid × DriveNode)) : Drive :=
  .ofNodes 0 ([(0, .folder none "my-files"), (1, .folder (some 0) "a"), (2, .folder (some 0) "b"),
    (3, .file 1 "x" [] "")] ++ others)

theorem emptyTarget_moves :
    ((TreeSdk.answer (.plain [])).run (move (.plain []) "/a/x" "/b/y")
        ⟨.initial 0, twoFolders []⟩).1 = .ok () ∧
      MovedTo (.plain []) (twoFolders []) "/a/x" "/b/y" (fileNode 3 1 "x") (folderNode 2 "b")
        ((TreeSdk.answer (.plain [])).run (move (.plain []) "/a/x" "/b/y")
          ⟨.initial 0, twoFolders []⟩).2.remote := by
  apply (move_iff _ TreeSdk.truthful ⟨topFolder, rfl, rfl⟩ rfl (.initial 0 _) TreeSdk.keepsNames
    (Drive.isTree_of_entries (by decide) (by decide))).mpr
  · exact .inr rfl
  · exact ⟨by decide, rfl, by decide, rfl, rfl, rfl, by decide, by decide⟩

/-- The name that the file has on the way is taken, and it stays where it was. -/
theorem takenOnTheWay_fails :
    Truthful (.plain []) (TreeSdk.answer (.plain [])) ∧
      KeepsNames (.plain []) (TreeSdk.answer (.plain [])) ∧
      Movable (.plain []) (twoFolders [(4, .file 2 "x" [] "")]) "/a/x" "/b/y" (fileNode 3 1 "x")
        (folderNode 2 "b") ∧
      (twoFolders [(4, .file 2 "x" [] "")]).IsTree (.plain []) ∧
      ((TreeSdk.answer (.plain [])).run (move (.plain []) "/a/x" "/b/y")
          ⟨.initial 0, twoFolders [(4, .file 2 "x" [] "")]⟩).1 =
        .error (.gateway (.plain "exists" 422)) := by
  refine ⟨TreeSdk.truthful, TreeSdk.keepsNames,
    ⟨by decide, rfl, by decide, rfl, rfl, rfl, by decide, by decide⟩,
    Drive.isTree_of_entries (by decide) (by decide), rfl⟩

end DriveWebdav
