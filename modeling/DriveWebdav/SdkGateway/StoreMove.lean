import DriveWebdav.SdkGateway.StoreOperations

/-! # Moves on the store

A MOVE is up to two calls, and the second may fail once the first has moved the node. -/

namespace DriveWebdav

variable {platform : Platform} {world : ServiceWorld} {drive : Drive}
  {src dst s d : JsString}

/-- The memory is right about some tree, and what has happened to it since spares the folders that
are not at the source or below it. -/
def Mends (platform : Platform) (s : JsString) (world : ServiceWorld) : Prop :=
  ∃ before, Recalls platform before world ∧
    Drive.Spares platform (fun q => ¬segments s <+: q) before world.remote

theorem Mends.waits {now : ServiceWorld} (mends : Mends platform s world)
    (waited : Waits world now) : Mends platform s now := by
  rcases mends with ⟨before, recalls, spares⟩
  rw [← waited.1] at spares
  exact ⟨before, recalls.waits waited, spares⟩

theorem Steady.mends (steady : Steady platform world) : Mends platform s world :=
  ⟨world.remote, steady, steady.sound.spares⟩

theorem Mends.invalidated (mends : Mends platform s world) (inside : segments s ≠ [])
    (d : JsString) :
    Steady platform ⟨invalidate d (invalidate s world.memory), world.remote⟩ := by
  rcases mends with ⟨before, recalls, spares⟩
  exact (Steady.without recalls inside spares).invalidated d

/-- How a move has ended before the memory is told of it. -/
def Leads (platform : Platform) (drive : Drive) (s : JsString) (operation : FileOperation)
    (outcome : Except Thrown Unit) (reached : ServiceWorld) : Prop :=
  Mends platform s reached ∧ ∃ performed : Performed,
    performed.Ends (fun _ => .done) outcome ∧
      (drive.tree platform).Serves platform.sha1 operation performed
        (reached.remote.tree platform)

/-- What an error is mapped to is what counts. -/
def LeadsMapped (platform : Platform) (drive : Drive) (s : JsString) (operation : FileOperation)
    (outcome : Except Thrown Unit) (reached : ServiceWorld) : Prop :=
  match outcome with
  | .ok value => Leads platform drive s operation (.ok value) reached
  | .error error =>
      Leads platform drive s operation (.error (mapGenericError platform error)) reached

theorem leads_error {operation : FileOperation} {error : Thrown}
    (same : ShowsSame platform drive world) (fails : 400 ≤ error.status) :
    LeadsMapped platform drive s operation (.error error) world := by
  have fails := @status_genericError platform _ fails
  refine ⟨same.1.mends, .refused, ⟨fails, fails⟩, ?_⟩
  rw [same.2]
  exact .refused operation

/-- What the first call of a move has come to. -/
def Halfway (platform : Platform) (drive : Drive) (s d : JsString) (node home : NodeEntity)
    (final : Drive) : Prop :=
  if parentPath s = parentPath d then final = drive
  else ∃ stored, drive.nodes.get node.uid = some stored ∧
    drive.FreeFor platform node.uid home.uid (platform.showName stored.name) ∧
    final = drive.relocate node.uid home.uid stored.name

/-- What the second call of a move has come to: the move is done, or all is as the first call has
left it, but for drafts. -/
def Renamed (platform : Platform) (drive : Drive) (s d : JsString) (operation : FileOperation)
    (node home : NodeEntity) (outcome : Except Thrown Unit) (after : ServiceWorld) : Prop :=
  match outcome with
  | .ok value => Leads platform drive s operation (.ok value) after
  | .error _ => Recalls platform drive after ∧ ∃ half,
      Halfway platform drive s d node home half ∧ half.Drafted platform after.remote

theorem ensures_relocate {node home : NodeEntity} (steady : SteadyAt platform drive world) :
    (sdkView platform).rules.Ensures (relocate s d node home)
      (Tried platform drive (Halfway platform drive s d node home)) world := by
  unfold relocate Halfway
  split
  · exact ⟨steady.recalls, steady.2⟩
  · apply ensures_nodes rfl (fun _ => Nat.le_of_ble_eq_true rfl) _ steady
    intro results final succeeds
    rcases succeeds with ⟨succeeded, _, stored, same, located, free, rfl⟩ | failed
    · cases same
      exact .inl ⟨succeeded, stored, located, free, rfl⟩
    · exact .inr failed

theorem Drive.relocate_relocate (drive : Drive) (uid first second : Uid) (one two : NodeName) :
    (drive.relocate uid first one).relocate uid second two = drive.relocate uid second two := by
  rw [Drive.relocate, Drive.relocate, Drive.alter_alter]
  rfl

section

variable {node home : NodeEntity} (inside : segments s ≠ [])
  (found : drive.visit platform (segments s).reverse false = some node)
  (lands : Lands platform drive d home) (sound : drive.Sound platform)
include inside found lands sound

/-- Wherever the first call has left the node, it lies in the folder that it is to lie in, and the
second call finds it there. -/
theorem relocate_halfway {half : Drive} {stored : DriveNode} {parent : Uid} {newName : NodeName}
    (halfway : Halfway platform drive s d node home half)
    (located : half.nodes.get node.uid = some stored) (within : stored.parentUid = some parent) :
    half.relocate node.uid parent newName = drive.relocate node.uid home.uid newName := by
  unfold Halfway at halfway
  split at halfway
  · next above =>
      rcases Drive.lies_of_visit found inside with ⟨upper, folder, pieces, up, member, _⟩
      rcases sound.plain.mem_children.mp member with ⟨fetched, inFolder⟩
      rcases Drive.getNode_eq_some.mp fetched with ⟨again, locatedAgain, entity⟩
      rw [halfway] at located ⊢
      cases located.symm.trans locatedAgain
      have parents : folder.uid = parent := by
        rw [← entity] at inFolder
        exact Option.some.inj (inFolder.symm.trans within)
      have paths := congrArg segments above
      rw [segments_parentPath, segments_parentPath, pieces, List.dropLast_concat] at paths
      rw [paths, lands.visited] at up
      cases up
      rw [parents]
  · rcases halfway with ⟨first, _, _, rfl⟩
    rw [Drive.relocate, Drive.get_alter, Option.map_eq_some_iff] at located
    rcases located with ⟨earlier, _, rfl⟩
    rw [if_pos rfl] at within
    rw [← Option.some.inj within, Drive.relocate_relocate]

variable (apart : ¬segments s <+: segments d)
include apart

/-- The node in its new folder, under its old name. -/
theorem spares_halfway (elsewhere : parentPath s ≠ parentPath d) {stored : DriveNode}
    (located : drive.nodes.get node.uid = some stored)
    (free : drive.FreeFor platform node.uid home.uid (platform.showName stored.name)) :
    platform.showName stored.name = baseName s ∧
    Drive.Spares platform (fun q => ¬segments s <+: q) drive
      (drive.relocate node.uid home.uid stored.name) ∧
    (drive.relocate node.uid home.uid stored.name).tree platform =
      PathMap.transplant (drive.tree platform) (segments s)
        ((segments d).dropLast ++ [baseName s]) ∧
    drive.tree platform ((segments d).dropLast ++ [baseName s]) = none := by
  rcases Drive.lies_of_visit found inside with ⟨above, folder, pieces, up, member, _⟩
  rcases sound.plain.mem_children.mp member with ⟨fetched, within⟩
  rcases Drive.getNode_eq_some.mp fetched with ⟨again, locatedAgain, entity⟩
  cases located.symm.trans locatedAgain
  have last : segments s = (segments s).dropLast ++ [baseName s] := by
    rw [← segments_parentPath]
    exact segments_eq_concat inside
  have named : platform.showName stored.name = baseName s := by
    rw [last] at pieces
    rcases List.append_inj' pieces rfl with ⟨_, same⟩
    rw [(List.cons.inj same).1, ← entity]
    rfl
  have homes : folder.uid ≠ home.uid := by
    intro same
    have paths := sound.plain.rooted.visit_unique up lands.visited same
    have above : above = (segments d).dropLast := List.reverse_inj.mp paths
    apply elsewhere
    rw [parentPath_eq, parentPath_eq, ← above, pieces, List.dropLast_concat]
  have unused : ∀ other stored', drive.nodes.get other = some stored' →
      ¬stored'.IsAt platform home.uid (platform.showName stored.name) := by
    intro other stored' otherLocated there
    by_cases same : other = node.uid
    · rw [same, located] at otherLocated
      cases otherLocated
      rw [← entity] at within
      exact homes (Option.some.inj (within.symm.trans there.1))
    · exact free other stored' same otherLocated there
  have apart' : ¬segments s <+: (segments d).dropLast ++ [platform.showName stored.name] := by
    rw [List.prefix_concat_iff]
    intro begins
    rcases begins with same | begins
    · apply elsewhere
      rw [parentPath_eq, parentPath_eq, same, List.dropLast_concat]
    · exact apart (begins.trans (List.dropLast_prefix _))
  have spares := sound.relocate found inside unused lands.visited lands.isFolder apart'
  have tree := sound.plain.tree_relocate found inside unused lands.visited lands.isFolder apart'
  rw [named] at tree unused
  refine ⟨named, spares, tree, ?_⟩
  apply Drive.tree_eq_none_of_visit
  rw [List.reverse_concat, Option.eq_none_iff_forall_ne_some]
  intro other walked
  rcases Drive.visit_cons_eq_some.mp walked with ⟨parent, there, picked, _⟩
  rcases sound.plain.find?_eq_some.mp picked with ⟨otherStored, otherLocated, _, isAt⟩
  rw [List.reverse_reverse] at there
  rw [there.unique lands.folderAt] at isAt
  exact unused _ _ otherLocated isAt

variable (sWhole : segments s = segments src) (dWhole : segments d = segments dst)
include sWhole dWhole

/-- A move that stops halfway, whatever drafts come and go meanwhile. -/
theorem serves_astray (elsewhere : parentPath s ≠ parentPath d) {stored : DriveNode}
    {after : Drive} (located : drive.nodes.get node.uid = some stored)
    (free : drive.FreeFor platform node.uid home.uid (platform.showName stored.name))
    (same : after.tree platform = (drive.relocate node.uid home.uid stored.name).tree platform) :
    (drive.tree platform).Serves platform.sha1 (.move src dst) .astray (after.tree platform) := by
  rcases spares_halfway inside found lands sound apart elsewhere located free with
    ⟨_, _, tree, absent⟩
  have srcInside : segments src ≠ [] := by
    rw [← sWhole]
    exact inside
  have last : baseName src = baseName s := by
    rw [baseName, baseName, sWhole]
  have landing : segments (join (parentPath dst) (baseName src)) =
      (segments d).dropLast ++ [baseName s] := by
    rw [segments_join, segments_of_isSegment (isSegment_baseName srcInside), segments_parentPath,
      ← dWhole, last]
  rw [same, tree, ← landing, sWhole]
  apply ShownTree.Serves.astray src dst srcInside
  · rw [← sWhole]
    exact tree_ne_none sound found
  · exact (lands.free.of_segments dWhole).1
  · rw [landing]
    exact absent
  · rw [← sWhole, segments_parentPath, ← dWhole]
    exact fun begins => apart (begins.trans (List.dropLast_prefix _))

/-- The node at its new path. -/
theorem spares_moved {newName : NodeName} (shown : platform.showName newName = baseName d) :
    Drive.Spares platform (fun q => ¬segments s <+: q) drive
      (drive.relocate node.uid home.uid newName) ∧
    (drive.tree platform).Serves platform.sha1 (.move src dst) .done
      ((drive.relocate node.uid home.uid newName).tree platform) := by
  have free : ∀ other stored, drive.nodes.get other = some stored →
      ¬stored.IsAt platform home.uid (platform.showName newName) := by
    rw [shown]
    exact lands.unused
  have apart' : ¬segments s <+: (segments d).dropLast ++ [platform.showName newName] := by
    rw [shown, ← lands.pieces]
    exact apart
  have tree := sound.plain.tree_relocate found inside free lands.visited lands.isFolder apart'
  rw [shown, ← lands.pieces, sWhole, dWhole] at tree
  refine ⟨sound.relocate found inside free lands.visited lands.isFolder apart', ?_⟩
  rw [tree]
  apply ShownTree.Serves.move
  · rw [← sWhole]
    exact inside
  · rw [← sWhole]
    exact tree_ne_none sound found
  · exact lands.free.of_segments dWhole
  · rw [← sWhole, ← dWhole]
    exact apart

/-- The second call of a move, and how the move then ends. -/
theorem ensures_renameTo {reached : ServiceWorld} (recalls : Recalls platform drive reached)
    (halfway : Halfway platform drive s d node home reached.remote) :
    (sdkView platform).rules.Ensures (renameTo s d node)
      (LeadsMapped platform drive s (.move src dst)) reached := by
  unfold renameTo
  split
  · next named =>
      -- the old name is the new one
      unfold Halfway at halfway
      split at halfway
      · next above =>
          have same : segments s = segments d := by
            rw [segments_eq_concat inside, above, named, segments_parentPath, ← lands.pieces]
          exact absurd (same ▸ List.prefix_rfl) apart
      · next elsewhere =>
          rcases halfway with ⟨stored, located, free, final⟩
          have shown := (spares_halfway inside found lands sound apart elsewhere located free).1
          have moved := spares_moved inside found lands sound apart sWhole dWhole
            (shown.trans named)
          rw [← final] at moved
          exact ⟨⟨drive, recalls, moved.1⟩, .done, rfl, moved.2⟩
  · have called : (sdkView platform).rules.Ensures
        (Program.request (SdkCall.renameNode node (baseName d)) : SdkOperation Unit)
        (Renamed platform drive s d (.move src dst) node home) reached := by
      apply Rules.ensures_request.mpr
      intro now _ waited
      have recalls := recalls.waits waited
      rw [← waited.1] at halfway
      refine ⟨trivial, fun answer remote answered => ?_⟩
      cases answer with
      | error error => exact ⟨recalls, now.remote, halfway, answered.2⟩
      | ok value =>
          rcases answered with ⟨stored, parent, located, within, _, rfl⟩
          rw [relocate_halfway inside found lands sound halfway located within]
          have moved := spares_moved inside found lands sound apart sWhole dWhole
            (platform.showName_ok ⟨true, baseName d⟩ rfl)
          exact ⟨⟨drive, recalls, moved.1⟩, .done, rfl, moved.2⟩
    apply called.tryCatch
    · exact fun _ _ leads => leads
    · rintro error after ⟨recalls, half, halfway, drafted⟩
      unfold Halfway at halfway
      split at halfway
      · rw [halfway] at drafted
        refine ⟨⟨drive, recalls, drafted.spares sound⟩, .refused, ?_, ?_⟩
        · exact ⟨Nat.le_of_ble_eq_true rfl, Nat.le_of_ble_eq_true rfl⟩
        · rw [drafted.tree sound.plain]
          exact .refused _
      · next elsewhere =>
          rcases halfway with ⟨stored, located, free, rfl⟩
          have spares := (spares_halfway inside found lands sound apart elsewhere located free).2.1
          refine ⟨⟨drive, recalls, spares.trans (drafted.spares spares.sound)⟩, .astray, ?_, ?_⟩
          · exact ⟨rfl, Nat.le_of_ble_eq_true rfl⟩
          · exact serves_astray inside found lands sound apart sWhole dWhole elsewhere located free
              (drafted.tree spares.sound.plain)

theorem serves_moveNode (steady : SteadyAt platform drive world) :
    (sdkView platform).rules.Ensures (moveNode platform s d node home)
      (Serves platform drive (.move src dst) fun _ => .done) world := by
  have tried : (sdkView platform).rules.Ensures
      (relocate s d node home >>= fun _ => renameTo s d node)
      (LeadsMapped platform drive s (.move src dst)) world := by
    apply (ensures_relocate steady).bind
    · exact fun _ _ failed => leads_error failed.1 failed.2
    · rintro _ reached ⟨recalls, halfway⟩
      exact ensures_renameTo inside found lands sound apart sWhole dWhole recalls halfway
  have mapped : (sdkView platform).rules.Ensures
      (mapErrors platform (relocate s d node home >>= fun _ => renameTo s d node))
      (Leads platform drive s (.move src dst)) world :=
    tried.tryCatch (fun _ _ leads => leads) fun _ _ leads => leads
  apply mapped.finallyModify
  rintro outcome reached now ⟨mends, performed, ended, serves⟩ _ waited
  refine ⟨trivial, (mends.waits waited).invalidated inside d, performed, ended, ?_⟩
  have same : now.remote.tree platform = reached.remote.tree platform := by rw [waited.1]
  rw [same]
  exact serves

end

theorem does_move (src dst : JsString) :
    (sdkView platform).Does (.move src dst) (fun _ => .done) (move platform src dst) := by
  intro _ world steady
  have steady : SteadyAt platform world.remote world := ⟨steady, rfl⟩
  unfold move
  dsimp only
  split
  · exact serves_error steady.shows (Nat.le_of_ble_eq_true rfl)
  · next notRoot =>
      have inside : segments src ≠ [] := by
        intro root
        apply notRoot
        rw [isRoot_normalize, isRoot_iff.mpr root]
        rfl
      split
      · exact serves_error steady.shows (Nat.le_of_ble_eq_true rfl)
      · next apart =>
          apply serves_bind (sees_resolveOrThrow _ steady)
          intro node before found steady
          apply serves_bind (sees_resolveDestination _ steady)
          intro home reached lands steady
          apply serves_moveNode _ (walked_of_nodeAt found).2 lands steady.sound _
            (segments_normalize src) (segments_normalize dst) steady
          · rw [segments_normalize]
            exact inside
          · rw [segments_normalize, segments_normalize]
            exact fun into => apart ((movesInto_iff inside).mpr into)

end DriveWebdav
