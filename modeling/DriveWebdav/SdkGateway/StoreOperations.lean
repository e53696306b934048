import DriveWebdav.SdkGateway.SteadyReads

/-! # Operations on the store

Every operation of the gateway serves the tree that is seen: it is refused and leaves the tree, or
it does what it says. -/

namespace DriveWebdav

variable {platform : Platform} {world : ServiceWorld} {drive : Drive} {α β : Type}
  {path src dst p s d : JsString} {operation : FileOperation}

/-! ## Statuses -/

theorem status_sdkError {error : SdkError} : 400 ≤ (mapSdkError platform error).httpStatus := by
  unfold mapSdkError
  split
  · exact Nat.le_of_ble_eq_true rfl
  · exact Nat.le_of_ble_eq_true rfl
  · exact Nat.le_of_ble_eq_true rfl
  · exact Nat.le_of_ble_eq_true rfl
  · exact Nat.le_of_ble_eq_true rfl
  · exact Nat.le_of_ble_eq_true rfl
  · split
    · exact Nat.le_of_ble_eq_true rfl
    · exact Nat.le_of_ble_eq_true rfl
  · exact Nat.le_of_ble_eq_true rfl

theorem status_genericError {error : Thrown} (fails : 400 ≤ error.status) :
    400 ≤ (mapGenericError platform error).status := by
  cases error with
  | gateway error => exact fails
  | sdk fault => exact status_sdkError

theorem status_uploadError {error : Thrown} (fails : 400 ≤ error.status) :
    400 ≤ (mapUploadError platform p error).status := by
  cases error with
  | gateway error => exact fails
  | sdk fault =>
      unfold mapUploadError
      dsimp only
      split
      · exact Nat.le_of_ble_eq_true rfl
      · exact Nat.le_of_ble_eq_true rfl
      · exact Nat.le_of_ble_eq_true rfl
      · exact status_sdkError

theorem status_createFolderError {error : Thrown} (fails : 400 ≤ error.status) :
    400 ≤ (createFolderError platform p error).status := by
  cases error with
  | gateway error => exact fails
  | sdk fault =>
      unfold createFolderError
      dsimp only
      split
      · exact Nat.le_of_ble_eq_true rfl
      · exact status_sdkError

/-! ## How operations end -/

/-- The world is steady, and shows what this tree shows. -/
def ShowsSame (platform : Platform) (drive : Drive) (world : ServiceWorld) : Prop :=
  Steady platform world ∧ world.remote.tree platform = drive.tree platform

theorem SteadyAt.shows (steady : SteadyAt platform drive world) : ShowsSame platform drive world :=
  ⟨steady.1, by rw [steady.2]⟩

/-- A value has come about with what is `done`; an error has the status of one, and what is seen
is as it was. -/
def DoneOrRefused (platform : Platform) (drive : Drive) (done : α → ServiceWorld → Prop)
    (outcome : Except Thrown α) (reached : ServiceWorld) : Prop :=
  match outcome with
  | .ok value => done value reached
  | .error error => ShowsSame platform drive reached ∧ 400 ≤ error.status

/-- The tree is this one still; a value is `good`, and an error has an error's status. -/
def Sees (platform : Platform) (drive : Drive) (good : α → Prop) (outcome : Except Thrown α)
    (reached : ServiceWorld) : Prop :=
  SteadyAt platform drive reached ∧
    match outcome with
    | .ok value => good value
    | .error error => 400 ≤ error.status

/-- The operation has served what this tree shows. -/
def Serves (platform : Platform) (drive : Drive) (operation : FileOperation) (ends : α → Performed)
    (outcome : Except Thrown α) (reached : ServiceWorld) : Prop :=
  Steady platform reached ∧ ∃ performed : Performed, performed.Ends ends outcome ∧
    (drive.tree platform).Serves platform.sha1 operation performed (reached.remote.tree platform)

theorem serves_error {ends : α → Performed} {error : Thrown}
    (same : ShowsSame platform drive world) (fails : 400 ≤ error.status) :
    Serves platform drive operation ends (.error error) world := by
  refine ⟨same.1, .refused, ⟨fails, fails⟩, ?_⟩
  rw [same.2]
  exact .refused operation

section

variable {good : α → Prop} {better : β → Prop} {ends : β → Performed}

theorem sees_bind {program : SdkOperation α} {next : α → SdkOperation β}
    (first : (sdkView platform).rules.Ensures program (Sees platform drive good) world)
    (rest : ∀ value reached, good value → SteadyAt platform drive reached →
      (sdkView platform).rules.Ensures (next value) (Sees platform drive better) reached) :
    (sdkView platform).rules.Ensures (program >>= next) (Sees platform drive better) world :=
  first.bind (fun _ _ failed => failed) fun value reached seen => rest value reached seen.2 seen.1

theorem serves_bind {program : SdkOperation α} {next : α → SdkOperation β}
    (first : (sdkView platform).rules.Ensures program (Sees platform drive good) world)
    (rest : ∀ value reached, good value → SteadyAt platform drive reached →
      (sdkView platform).rules.Ensures (next value) (Serves platform drive operation ends) reached) :
    (sdkView platform).rules.Ensures (program >>= next) (Serves platform drive operation ends)
      world :=
  first.bind (fun _ _ failed => serves_error failed.1.shows failed.2)
    fun value reached seen => rest value reached seen.2 seen.1

theorem sees_mapErrors {program : SdkOperation α}
    (first : (sdkView platform).rules.Ensures program (Sees platform drive good) world) :
    (sdkView platform).rules.Ensures (mapErrors platform program) (Sees platform drive good)
      world :=
  first.tryCatch (fun _ _ seen => seen) fun _ _ failed =>
    ⟨failed.1, status_genericError failed.2⟩

end

/-! ## Lookups -/

theorem undisturbed_sdkView : Undisturbed platform (sdkView platform).rules where
  invariant _ := trivial
  guarantee _ _ := trivial
  permits _ _ := trivial
  waits _ _ := id
  failures := by
    rintro drive command error final ⟨⟨fault, rfl⟩, _⟩
    exact Nat.le_of_ble_eq_true rfl
  lookups _ _ _ _ lookup answered := lookups_storeService lookup answered

theorem sees_resolve (path : JsString) (includeDrafts : Bool)
    (steady : SteadyAt platform drive world) :
    (sdkView platform).rules.Ensures (resolve platform path includeDrafts)
      (Sees platform drive fun found => found = drive.nodeAt platform path includeDrafts) world := by
  have kept := steady_reads (normalKeys_resolve path includeDrafts)
    (Looks.makes fun _ => looks_resolve anchoring_anchorRules includeDrafts trivial) steady
  have found := ensures_resolve undisturbed_sdkView path includeDrafts steady.2
    steady.1.anchored.accurate
  apply (kept.and found).mono
  rintro outcome reached ⟨steady, _, _, found⟩
  cases outcome with
  | ok value => exact ⟨steady, found⟩
  | error error => exact ⟨steady, found⟩

theorem sees_resolveOrThrow (path : JsString) (steady : SteadyAt platform drive world) :
    (sdkView platform).rules.Ensures (resolveOrThrow platform path)
      (Sees platform drive fun node => drive.nodeAt platform path false = some node) world := by
  apply sees_bind (sees_resolve path false steady)
  intro found reached same steady
  cases found with
  | none => exact ⟨steady, Nat.le_of_ble_eq_true rfl⟩
  | some node => exact ⟨steady, same.symm⟩

/-- A node below the root is found at its path, and it is seen. -/
theorem walked_of_nodeAt {node : NodeEntity} {includeDrafts : Bool}
    (found : drive.nodeAt platform path includeDrafts = some node) :
    (segments path).all isSafeSegment = true ∧
      drive.visit platform (segments path).reverse includeDrafts = some node := by
  unfold Drive.nodeAt at found
  split at found
  · next safe => exact ⟨safe, found⟩
  · cases found

theorem tree_ne_none {node : NodeEntity} (sound : drive.Sound platform)
    (found : drive.visit platform (segments path).reverse false = some node) :
    drive.tree platform (segments path) ≠ none := by
  rcases Drive.getNode_eq_some.mp (Drive.getNode_of_visit found) with ⟨stored, located, same⟩
  rw [Drive.tree, found, Option.bind_some, Drive.shown]
  cases type : node.type with
  | folder => exact Option.some_ne_none _
  | file =>
      rw [located]
      exact Option.some_ne_none _
  | other =>
      have other : stored.type = .other := by
        rw [← same] at type
        exact type
      exact absurd other (sound.nodes _ _ located).kind

/-- A folder that a path above leads to. -/
theorem folderAt_of_nodeAt {node : NodeEntity}
    (found : drive.nodeAt platform (parentPath p) false = some node)
    (isFolder : node.type = .folder) :
    (segments (parentPath p)).all isSafeSegment = true ∧
      drive.FolderAt platform (segments p).dropLast node.uid := by
  rcases walked_of_nodeAt found with ⟨safe, visited⟩
  refine ⟨safe, node, ?_, isFolder, rfl⟩
  rw [← segments_parentPath]
  exact visited

/-- Where a safe name is looked up with drafts and nothing is found, no node has it. -/
theorem free_of_nodeAt {folder : Uid} (plain : drive.Plain platform)
    (inside : segments p ≠ []) (safeAbove : (segments (parentPath p)).all isSafeSegment = true)
    (safe : isSafeSegment (baseName p) = true)
    (lies : drive.FolderAt platform (segments p).dropLast folder)
    (absent : drive.nodeAt platform p true = none) :
    (∀ other stored, drive.nodes.get other = some stored →
      ¬stored.IsAt platform folder (baseName p)) ∧ (drive.tree platform).Free p := by
  have whole : segments p = (segments p).dropLast ++ [baseName p] := by
    rw [← segments_parentPath]
    exact segments_eq_concat inside
  have allSafe : (segments p).all isSafeSegment = true := by
    rw [whole, List.all_append, ← segments_parentPath, safeAbove]
    simp [safe]
  have nothing : drive.visit platform (segments p).reverse true = none := by
    rw [Drive.nodeAt, if_pos allSafe] at absent
    exact absent
  refine ⟨?_, ⟨inside, Drive.tree_folder.mpr ⟨folder, lies⟩⟩, ?_⟩
  · intro other stored located there
    have visited : drive.visit platform ((segments p).dropLast ++ [baseName p]).reverse true =
        some (stored.entity other) := plain.visit_isAt lies located there fun _ => rfl
    rw [← whole, nothing] at visited
    cases visited
  · apply Drive.tree_eq_none_of_visit
    rw [Option.eq_none_iff_forall_ne_some]
    intro node visited
    rw [Drive.visit_of_committed visited] at nothing
    cases nothing

/-! ## Calls that change the tree -/

/-- A call changes the tree as the store allows, or fails, and then leaves what is seen. -/
theorem ensures_call {command : SdkCall} {post : Except Thrown (SdkAnswer command) → ServiceWorld → Prop}
    (changes : command.changesTree = true) (steady : SteadyAt platform drive world)
    (failed : ∀ fault reached, ShowsSame platform drive reached →
      post (.error (.sdk fault)) reached)
    (succeeds : ∀ now value final, SteadyAt platform drive now →
      StoreSucceeds platform drive command value final →
      post (.ok value) ⟨now.memory, final⟩) :
    (sdkView platform).rules.Ensures (Program.request command) post world := by
  apply Rules.ensures_request.mpr
  intro now _ waited
  have later : SteadyAt platform drive now := ⟨steady.1.waits waited, waited.1.trans steady.2⟩
  refine ⟨trivial, fun answer remote answered => ?_⟩
  have answered : storeService platform drive command answer remote := by
    rw [← later.2]
    exact answered
  cases answer with
  | ok value => exact succeeds now value remote later answered
  | error error =>
      rcases answered with ⟨⟨fault, rfl⟩, left⟩
      rw [changes] at left
      have drafted : drive.Drafted platform remote := left
      have sound : drive.Sound platform := later.2 ▸ later.1.sound
      apply failed
      have spares : Drive.Spares platform (fun _ => True) now.remote remote := by
        rw [later.2]
        exact drafted.spares sound
      exact ⟨later.1.becomes spares, drafted.tree sound.plain⟩

theorem SteadyAt.sound (steady : SteadyAt platform drive world) : drive.Sound platform :=
  steady.2 ▸ steady.1.sound

/-! ## Collections -/

theorem serves_mkcolIn {parent : NodeEntity} (normal : normalize p = p)
    (whole : segments p = segments path) (inside : segments p ≠ []) (safe : isSafeSegment (baseName p) = true)
    (safeAbove : (segments (parentPath p)).all isSafeSegment = true)
    (lies : drive.FolderAt platform (segments p).dropLast parent.uid)
    (steady : SteadyAt platform drive world) :
    (sdkView platform).rules.Ensures (mkcolIn platform p parent)
      (Serves platform drive (.mkcol path) fun _ => .done) world := by
  apply serves_bind (sees_resolve p true steady)
  intro found before absent steady
  cases found with
  | some node => exact serves_error steady.shows (Nat.le_of_ble_eq_true rfl)
  | none =>
      have sound := steady.sound
      have free := free_of_nodeAt sound.plain inside safeAbove safe lies absent.symm
      have pieces : segments p = (segments p).dropLast ++ [baseName p] := by
        rw [← segments_parentPath]
        exact segments_eq_concat inside
      have made : (sdkView platform).rules.Ensures
          (Program.request (SdkCall.createFolder parent (baseName p)))
          (DoneOrRefused platform drive fun node reached => Steady platform reached ∧
            Drive.AddsFolder platform parent.uid (baseName p) node.uid drive reached.remote)
          before := by
        apply ensures_call rfl steady
        · exact fun fault reached same => ⟨same, Nat.le_of_ble_eq_true rfl⟩
        · intro now node final steady adds
          have adds : Drive.AddsFolder platform parent.uid (baseName p) node.uid drive final := adds
          refine ⟨steady.1.becomes ?_, adds⟩
          rw [steady.2]
          exact adds.spares sound lies
      have recorded : (sdkView platform).rules.Ensures
          (do
            let created ← Program.request (SdkCall.createFolder parent (baseName p))
            Program.modify (cacheCreated p created.uid) : SdkOperation Unit)
          (DoneOrRefused platform drive fun value =>
            Serves platform drive (.mkcol path) (fun _ : Unit => .done) (.ok value)) before := by
        apply made.bind
        · exact fun _ _ failed => failed
        · rintro node reached ⟨steady, adds⟩
          apply Rules.ensures_modify.mpr
          intro now _ waited
          have later := steady.waits waited
          have adds : Drive.AddsFolder platform parent.uid (baseName p) node.uid drive now.remote := by
            rw [waited.1]
            exact adds
          have there : Drive.FolderAt platform now.remote (segments p) node.uid := by
            rw [pieces]
            exact adds.folderAt_new sound.plain lies
          refine ⟨trivial, ⟨later.anchored.cacheCreated (.inl there), ?_, later.sound⟩, .done, rfl, ?_⟩
          · intro key cached found
            rcases InsertionMap.get_set_eq_some found with ⟨rfl, _⟩ | ⟨_, before⟩
            · exact normal
            · exact later.normal key cached before
          · have tree : now.remote.tree platform = Function.update (drive.tree platform)
                (segments path) (some .folder) := by
              rw [adds.tree sound.plain lies, ← pieces, whole]
            rw [tree]
            exact .mkcol path (free.2.of_segments whole)
      apply recorded.tryCatch
      · exact fun _ _ served => served
      · exact fun error reached failed => serves_error failed.1 (status_createFolderError failed.2)

theorem does_mkcol (path : JsString) :
    (sdkView platform).Does (.mkcol path) (fun _ => .done) (mkcol platform path) := by
  intro _ world steady
  have steady : SteadyAt platform world.remote world := ⟨steady, rfl⟩
  unfold mkcol
  dsimp only
  split
  · exact serves_error steady.shows (Nat.le_of_ble_eq_true rfl)
  · next notRoot =>
      split
      · exact serves_error steady.shows (Nat.le_of_ble_eq_true rfl)
      · next safe =>
          apply serves_bind (sees_resolve _ false steady)
          intro found reached same steady
          cases found with
          | none => exact serves_error steady.shows (Nat.le_of_ble_eq_true rfl)
          | some parent =>
              dsimp only
              split
              · exact serves_error steady.shows (Nat.le_of_ble_eq_true rfl)
              · next isFolder =>
                  rcases folderAt_of_nodeAt same.symm (Decidable.of_not_not isFolder) with
                    ⟨safeAbove, lies⟩
                  apply serves_mkcolIn (normalize_normalize path) (segments_normalize path) _
                    (by simpa using safe) safeAbove lies steady
                  exact fun root => notRoot (isRoot_iff.mpr root)

/-! ## Removal -/

theorem eachOk_of_succeeded {results : Yielded NodeResult} {thrown : SdkError → Thrown}
    (succeeded : results.Succeeded) : eachOk results thrown = pure () := by
  unfold eachOk
  rw [succeeded.1, succeeded.2]

theorem eachOk_of_not_succeeded {results : Yielded NodeResult} {thrown : SdkError → Thrown}
    (fails : ∀ error, 400 ≤ (thrown error).status) (failed : ¬results.Succeeded) :
    ∃ error, eachOk results thrown = throw error ∧ 400 ≤ error.status := by
  unfold eachOk
  split
  · exact ⟨_, rfl, fails _⟩
  · next none =>
      split
      · exact ⟨_, rfl, Nat.le_of_ble_eq_true rfl⟩
      · next ended => exact absurd ⟨none, ended⟩ failed

/-- The memory is right about the tree as it was. -/
def Recalls (platform : Platform) (drive : Drive) (world : ServiceWorld) : Prop :=
  Steady platform ⟨world.memory, drive⟩

theorem Recalls.waits {now : ServiceWorld} (recalls : Recalls platform drive world)
    (waited : Waits world now) : Recalls platform drive now :=
  Steady.waits recalls ⟨rfl, waited.2⟩

theorem SteadyAt.recalls (steady : SteadyAt platform drive world) :
    Recalls platform drive world := by
  unfold Recalls
  rw [← steady.2]
  exact steady.1

/-- What calls on several nodes come to: nothing has changed, or all of them did what they say and
the memory does not know yet. -/
def Tried (platform : Platform) (drive : Drive) (change : Drive → Prop) :
    Except Thrown Unit → ServiceWorld → Prop :=
  DoneOrRefused platform drive fun _ reached =>
    Recalls platform drive reached ∧ change reached.remote

/-- A call on nodes, with its results gone through. -/
theorem ensures_nodes {command : SdkCall} {change : Drive → Prop}
    {thrown : SdkError → Thrown} {results : SdkAnswer command → Yielded NodeResult}
    (changes : command.changesTree = true) (fails : ∀ error, 400 ≤ (thrown error).status)
    (allOrNothing : ∀ value final, StoreSucceeds platform drive command value final →
      AllOrNothing (results value) drive final (change final))
    (steady : SteadyAt platform drive world) :
    (sdkView platform).rules.Ensures
      (Program.request command >>= fun value => eachOk (results value) thrown)
      (Tried platform drive change) world := by
  have called : (sdkView platform).rules.Ensures (Program.request command : SdkOperation _)
      (DoneOrRefused platform drive fun value reached =>
        (results value).Succeeded ∧ Recalls platform drive reached ∧ change reached.remote ∨
          ¬(results value).Succeeded ∧ SteadyAt platform drive reached) world := by
    apply ensures_call changes steady
    · exact fun fault reached same => ⟨same, Nat.le_of_ble_eq_true rfl⟩
    · intro now value final steady succeeds
      rcases allOrNothing value final succeeds with ⟨succeeded, changed⟩ | ⟨failed, rfl⟩
      · exact .inl ⟨succeeded, steady.recalls, changed⟩
      · refine .inr ⟨failed, ?_⟩
        have here : final = now.remote := steady.2.symm
        rw [here]
        exact ⟨steady.1, rfl⟩
  apply called.bind
  · exact fun _ _ failed => failed
  · intro value reached tried
    rcases tried with ⟨succeeded, recalls, changed⟩ | ⟨failed, steady⟩
    · rw [eachOk_of_succeeded succeeded]
      exact ⟨recalls, changed⟩
    · rcases eachOk_of_not_succeeded fails failed with ⟨error, throws, isError⟩
      rw [throws]
      exact ⟨steady.shows, isError⟩

theorem does_remove (path : JsString) :
    (sdkView platform).Does (.remove path) (fun _ => .done) (remove platform path) := by
  intro _ world steady
  have steady : SteadyAt platform world.remote world := ⟨steady, rfl⟩
  unfold remove
  dsimp only
  split
  · exact serves_error steady.shows (Nat.le_of_ble_eq_true rfl)
  · next notRoot =>
      have inside : segments (normalize path) ≠ [] := fun root => notRoot (isRoot_iff.mpr root)
      apply serves_bind (sees_resolveOrThrow _ steady)
      intro node before found steady
      have found := (walked_of_nodeAt found).2
      have sound := steady.sound
      have trashed : (sdkView platform).rules.Ensures
          (Program.request (SdkCall.trashNodes [node]) >>= fun results =>
            eachOk results fun error => mapGenericError platform (.sdk error))
          (Tried platform world.remote fun final => Drive.Deletes node.uid world.remote final)
          before := by
        apply ensures_nodes rfl _ _ steady
        · intro error
          exact status_sdkError
        · intro results final succeeds
          rcases succeeds with ⟨succeeded, _, same, deletes⟩ | failed
          · cases same
            exact .inl ⟨succeeded, deletes⟩
          · exact .inr failed
      rw [← Program.bind_assoc]
      apply trashed.bind
      · exact fun _ _ failed => serves_error failed.1 failed.2
      · rintro _ reached ⟨recalls, deletes⟩
        apply Rules.ensures_modify.mpr
        intro now _ waited
        have recalls := recalls.waits waited
        rw [← waited.1] at deletes
        refine ⟨trivial, recalls.without inside (deletes.spares sound found inside), .done, rfl, ?_⟩
        have tree : now.remote.tree platform =
            PathMap.prune (world.remote.tree platform) (segments path) := by
          have notRoot := sound.plain.rooted.ne_root_of_inside found inside
          rw [deletes.tree sound.plain notRoot found rfl inside, segments_normalize]
        rw [tree]
        apply ShownTree.Serves.remove path
        · rw [← segments_normalize]
          exact inside
        · rw [← segments_normalize]
          exact tree_ne_none sound found

/-! ## Destinations -/

/-- The folder that a node may be put in, under a name that is free there. -/
structure Lands (platform : Platform) (drive : Drive) (d : JsString) (home : NodeEntity) : Prop where
  visited : drive.visit platform (segments d).dropLast.reverse false = some home
  isFolder : home.type = .folder
  pieces : segments d = (segments d).dropLast ++ [baseName d]
  unused : ∀ other stored, drive.nodes.get other = some stored →
    ¬stored.IsAt platform home.uid (baseName d)
  free : (drive.tree platform).Free d

theorem Lands.folderAt {home : NodeEntity} (lands : Lands platform drive d home) :
    drive.FolderAt platform (segments d).dropLast home.uid :=
  ⟨home, lands.visited, lands.isFolder, rfl⟩

theorem sees_resolveDestination (d : JsString) (steady : SteadyAt platform drive world) :
    (sdkView platform).rules.Ensures (resolveDestination platform d)
      (Sees platform drive (Lands platform drive d)) world := by
  apply sees_bind (sees_resolve _ false steady)
  intro found reached same steady
  cases found with
  | none => exact ⟨steady, Nat.le_of_ble_eq_true rfl⟩
  | some home =>
      dsimp only
      split
      · exact ⟨steady, Nat.le_of_ble_eq_true rfl⟩
      · next isFolder =>
          have isFolder := Decidable.of_not_not isFolder
          split
          · exact ⟨steady, Nat.le_of_ble_eq_true rfl⟩
          · next safe =>
              have safe : isSafeSegment (baseName d) = true := by simpa using safe
              rcases folderAt_of_nodeAt same.symm isFolder with ⟨safeAbove, lies⟩
              have visited := (walked_of_nodeAt same.symm).2
              rw [segments_parentPath] at visited
              have inside : segments d ≠ [] := by
                intro root
                rw [baseName, root] at safe
                cases safe
              apply sees_bind (sees_resolve d true steady)
              intro existing reached absent steady
              cases existing with
              | some node => exact ⟨steady, Nat.le_of_ble_eq_true rfl⟩
              | none =>
                  have free := free_of_nodeAt steady.sound.plain inside safeAbove safe lies
                    absent.symm
                  refine ⟨steady, visited, isFolder, ?_, free.1, free.2⟩
                  rw [← segments_parentPath]
                  exact segments_eq_concat inside

/-! ## Copies -/

/-- A file is seen where it is found, with its bytes. -/
theorem tree_of_file {node : NodeEntity} {stored : DriveNode}
    (found : drive.visit platform (segments s).reverse false = some node)
    (isFile : node.type = .file) (located : drive.nodes.get node.uid = some stored) :
    drive.tree platform (segments s) = some (.file stored.bytes) := by
  rw [Drive.tree, found, Option.bind_some, Drive.shown, isFile, located]
  rfl

theorem serves_copyNode {node home : NodeEntity} (sWhole : segments s = segments src)
    (dWhole : segments d = segments dst)
    (found : drive.visit platform (segments s).reverse false = some node)
    (isFile : node.type = .file) (lands : Lands platform drive d home)
    (steady : SteadyAt platform drive world) :
    (sdkView platform).rules.Ensures (copyNode platform d node home)
      (Serves platform drive (.copy src dst) fun _ => .done) world := by
  have copied : (sdkView platform).rules.Ensures
      (Program.request (SdkCall.copyNodes [(node.uid, baseName d)] home) >>= fun results =>
        eachOk results .sdk)
      (Tried platform drive fun final => ∃ source, drive.nodes.get node.uid = some source ∧
        drive.Stores platform home.uid (baseName d) source.bytes final) world := by
    apply ensures_nodes rfl (fun _ => Nat.le_of_ble_eq_true rfl) _ steady
    intro results final succeeds
    rcases succeeds with ⟨succeeded, _, _, source, same, located, stores⟩ | failed
    · cases same
      exact .inl ⟨succeeded, source, located, stores⟩
    · exact .inr failed
  have mapped : (sdkView platform).rules.Ensures
      (mapErrors platform (Program.request (SdkCall.copyNodes [(node.uid, baseName d)] home) >>=
        fun results => eachOk results .sdk))
      (Tried platform drive fun final => ∃ source, drive.nodes.get node.uid = some source ∧
        drive.Stores platform home.uid (baseName d) source.bytes final) world :=
    copied.tryCatch (fun _ _ tried => tried) fun _ _ failed =>
      ⟨failed.1, status_genericError failed.2⟩
  have sound := steady.sound
  apply mapped.finallyModify
  intro outcome reached now tried _ waited
  refine ⟨trivial, ?_⟩
  cases outcome with
  | error error =>
      have same : ShowsSame platform drive now := by
        refine ⟨tried.1.1.waits waited, ?_⟩
        rw [waited.1]
        exact tried.1.2
      exact serves_error ⟨same.1.invalidated d, same.2⟩ tried.2
  | ok value =>
      rcases tried with ⟨recalls, source, located, stores⟩
      have recalls : Steady platform ⟨now.memory, drive⟩ := recalls.waits waited
      rw [← waited.1] at stores
      have after : Steady platform ⟨now.memory, now.remote⟩ := recalls.becomes (stores.spares sound)
      refine ⟨after.invalidated d, .done, rfl, ?_⟩
      have tree : now.remote.tree platform = Function.update (drive.tree platform) (segments dst)
          (some (.file source.bytes)) := by
        rw [stores.tree sound lands.folderAt, ← lands.pieces, dWhole]
      rw [tree]
      apply ShownTree.Serves.copy
      · rw [← sWhole]
        exact tree_of_file found isFile located
      · exact lands.free.of_segments dWhole

theorem does_copy (src dst : JsString) :
    (sdkView platform).Does (.copy src dst) (fun _ => .done) (copy platform src dst) := by
  intro _ world steady
  have steady : SteadyAt platform world.remote world := ⟨steady, rfl⟩
  unfold copy
  dsimp only
  apply serves_bind (sees_resolveOrThrow _ steady)
  intro node before found steady
  split
  · exact serves_error steady.shows (Nat.le_of_ble_eq_true rfl)
  · next isFile =>
      apply serves_bind (sees_resolveDestination _ steady)
      intro home reached lands steady
      exact serves_copyNode (segments_normalize src) (segments_normalize dst)
        (walked_of_nodeAt found).2 (Decidable.of_not_not isFile) lands steady

end DriveWebdav
