import DriveWebdav.SdkGateway.StoreOperations

/-! # Uploads to the store

A PUT is refused, finds what it would store, or commits the whole of its body. -/

namespace DriveWebdav

variable {platform : Platform} {world : ServiceWorld} {drive : Drive} {α : Type}
  {path p : JsString} {body : BodyStream} {opts : PutOptions}

/-! ## The body of the request -/

/-- A call that only reads, whose failure is swallowed. -/
theorem ensures_swallowed {command : SdkCall} (reads : command.changesTree = false)
    {operation : SdkOperation (SdkAnswer command)} {value : SdkAnswer command}
    (same : operation = tryCatch (Program.request command) fun _ => pure value)
    (steady : SteadyAt platform drive world) :
    (sdkView platform).rules.Ensures operation
      (fun outcome reached => (∃ value, outcome = .ok value) ∧ SteadyAt platform drive reached)
      world := by
  rw [same]
  have asked : (sdkView platform).rules.Ensures (Program.request command : SdkOperation _)
      (fun _ reached => SteadyAt platform drive reached) world := by
    apply Rules.ensures_request.mpr
    intro now _ waited
    refine ⟨trivial, fun answer remote answered => ?_⟩
    rw [remote_of_reads reads answered]
    exact ⟨steady.1.waits waited, waited.1.trans steady.2⟩
  apply asked.tryCatch
  · exact fun value _ steady => ⟨⟨value, rfl⟩, steady⟩
  · exact fun _ _ steady => ⟨⟨value, rfl⟩, steady⟩

theorem ensures_cancelBody (steady : SteadyAt platform drive world) :
    (sdkView platform).rules.Ensures cancelBody
      (fun outcome reached => (∃ value, outcome = .ok value) ∧ SteadyAt platform drive reached)
      world :=
  ensures_swallowed rfl rfl steady

theorem serves_refusePut {operation : FileOperation} {ends : α → Performed} {error : GatewayError}
    (fails : 400 ≤ error.httpStatus) (steady : SteadyAt platform drive world) :
    (sdkView platform).rules.Ensures (refusePut error : SdkOperation α)
      (Serves platform drive operation ends) world := by
  apply (ensures_cancelBody steady).bind
  · rintro _ _ ⟨⟨value, absurd⟩, _⟩
    cases absurd
  · exact fun _ _ ended => serves_error ended.2.shows fails

/-! ## What is at the path -/

/-- What an upload may be made of: the folder to put a new file in, or the file to revise. -/
def UploadTarget (platform : Platform) (drive : Drive) (p : JsString) (parent : NodeEntity) :
    Option Uid → Prop
  | none => drive.FolderAt platform (segments p).dropLast parent.uid
  | some uid => ∃ stored folder, drive.nodes.get uid = some stored ∧ stored.isDraft = false ∧
      stored.parentUid = some folder ∧ platform.showName stored.name = baseName p ∧
      drive.FolderAt platform (segments p).dropLast folder

/-- What the tree shows where an upload may be made. -/
structure MayStore (tree : ShownTree) (path : JsString) (opts : PutOptions) : Prop where
  opens : tree.Opens path
  noFolder : tree (segments path) ≠ some .folder
  immutable : opts.immutable = true → tree (segments path) = none

theorem noFolder_of_nodeAt {node : Option NodeEntity}
    (safe : (segments p).all isSafeSegment = true)
    (found : drive.nodeAt platform p true = node)
    (noFolder : ∀ existing, node = some existing → existing.type ≠ .folder) :
    drive.tree platform (segments p) ≠ some .folder := by
  intro isFolder
  rcases Drive.tree_folder.mp isFolder with ⟨uid, folder, visited, isFolder, _⟩
  rw [Drive.nodeAt, if_pos safe, Drive.visit_of_committed visited] at found
  exact noFolder folder found.symm isFolder

theorem putTarget_revise {found : Option NodeEntity} {uid : Uid}
    (revises : putTarget opts found = .revise uid) :
    ∃ existing, found = some existing ∧ existing.type = .file ∧ existing.activeRevision ≠ none ∧
      existing.uid = uid ∧ opts.immutable = false := by
  unfold putTarget at revises
  split at revises
  · cases revises
  · next existing =>
      split at revises
      · cases revises
      · split at revises
        · next isFile active =>
            dsimp only at revises
            split at revises
            · cases revises
            · split at revises
              · cases revises
              · next mutable =>
                  cases revises
                  refine ⟨existing, rfl, isFile, ?_, rfl, by simpa using mutable⟩
                  rw [active]
                  exact Option.some_ne_none _
        · cases revises

theorem putTarget_free {found : Option NodeEntity} (free : putTarget opts found = .free)
    {existing : NodeEntity} (there : found = some existing) :
    existing.type ≠ .folder ∧ (existing.type = .file → existing.activeRevision = none) := by
  rw [there] at free
  unfold putTarget at free
  dsimp only at free
  split at free
  · cases free
  · next noFolder =>
      split at free
      · split at free
        · cases free
        · split at free
          · cases free
          · cases free
      · next none =>
          refine ⟨noFolder, fun isFile => ?_⟩
          cases active : existing.activeRevision with
          | none => rfl
          | some revision => exact absurd active (none revision isFile)

theorem putTarget_identical {found : Option NodeEntity}
    (identical : putTarget opts found = .identical) :
    ∃ existing revision, found = some existing ∧ existing.type = .file ∧
      existing.activeRevision = some revision ∧
      opts.names revision.claimedSize (revision.claimedSha1.map JsString.toLowerCase) = true := by
  unfold putTarget at identical
  split at identical
  · cases identical
  · next existing =>
      split at identical
      · cases identical
      · split at identical
        · next revision isFile active =>
            dsimp only at identical
            split at identical
            · next named => exact ⟨existing, revision, rfl, isFile, active, named⟩
            · split at identical
              · cases identical
              · cases identical
        · cases identical

/-- What names the claims of a revision names its content. -/
theorem names_of_claims {revision : Revision} {bytes : Bytes}
    (claims : revision.Claims platform.sha1 bytes)
    (named : opts.names revision.claimedSize (revision.claimedSha1.map JsString.toLowerCase) = true) :
    opts.names (some bytes.length) (some (platform.sha1 bytes)) = true := by
  simp only [PutOptions.names, Bool.and_eq_true, Bool.or_eq_true, decide_eq_true_eq] at named ⊢
  rcases named with ⟨⟨supplied, digest⟩, size⟩
  refine ⟨⟨supplied, ?_⟩, ?_⟩
  · rw [← digest]
    cases claimed : revision.claimedSha1 with
    | none =>
        rw [claimed] at digest
        rw [← digest] at supplied
        cases supplied
    | some sha1 => rw [Option.map_some, claims.sha1 sha1 claimed]
  · rcases size with none | size
    · exact .inl none
    · cases claimed : revision.claimedSize with
      | none =>
          rw [claimed] at size
          exact .inl size.symm
      | some claim =>
          rw [← size, claimed, claims.size claim claimed]
          exact .inr rfl

/-! ## The upload -/

/-- The world is steady, and so far drafts have come and gone only. -/
def Drafting (platform : Platform) (drive : Drive) (world : ServiceWorld) : Prop :=
  Steady platform world ∧ drive.Drafted platform world.remote

theorem Drafting.shows (drafting : Drafting platform drive world) (plain : drive.Plain platform) :
    ShowsSame platform drive world :=
  ⟨drafting.1, drafting.2.tree plain⟩

theorem SteadyAt.drafting (steady : SteadyAt platform drive world) :
    Drafting platform drive world := by
  refine ⟨steady.1, ?_⟩
  rw [steady.2]
  exact .refl steady.sound.plain

/-- A step of an upload that is under way either fails, or drafts are all that has changed. -/
def Advances (platform : Platform) (drive : Drive) (good : α → Prop) :
    Except Thrown α → ServiceWorld → Prop :=
  DoneOrRefused platform drive fun value reached => good value ∧ Drafting platform drive reached

theorem ensures_draft {command : SdkCall} {good : SdkAnswer command → Prop}
    (changes : command.changesTree = true)
    (drafts : ∀ before value final, StoreSucceeds platform before command value final →
      good value ∧ before.Drafted platform final)
    (plain : drive.Plain platform) (drafting : Drafting platform drive world) :
    (sdkView platform).rules.Ensures (Program.request command : SdkOperation _)
      (Advances platform drive good) world := by
  have steady : SteadyAt platform world.remote world := ⟨drafting.1, rfl⟩
  apply ensures_call changes steady
  · rintro fault reached ⟨still, same⟩
    exact ⟨⟨still, same.trans (drafting.2.tree plain)⟩, Nat.le_of_ble_eq_true rfl⟩
  · intro now value final steady succeeds
    rcases drafts _ _ _ succeeds with ⟨isGood, drafted⟩
    refine ⟨isGood, steady.1.becomes ?_, drafting.2.trans drafted⟩
    rw [steady.2]
    exact drafted.spares drafting.1.sound

/-- The upload that was asked for. -/
def uploaderOf (platform : Platform) (p : JsString) (parent : NodeEntity)
    (opts : PutOptions) : Option Uid → Uploader
  | none => .file parent.uid (baseName p) (putMetadata platform p opts)
  | some uid => .revision uid (putMetadata platform p opts)

theorem ensures_requestUploader {parent : NodeEntity} {revisionOfUid : Option Uid}
    (plain : drive.Plain platform) (drafting : Drafting platform drive world) :
    (sdkView platform).rules.Ensures (requestUploader platform p parent revisionOfUid opts)
      (Advances platform drive fun uploader =>
        uploader = uploaderOf platform p parent opts revisionOfUid) world := by
  cases revisionOfUid with
  | none => exact ensures_draft rfl (fun _ _ _ succeeds => succeeds) plain drafting
  | some uid => exact ensures_draft rfl (fun _ _ _ succeeds => succeeds) plain drafting

/-- The commit of an upload stores the whole body where it was to be stored. -/
theorem stores_of_commits {parent : NodeEntity} {revisionOfUid : Option Uid} {bytes : Bytes}
    {before final : Drive} (plain : drive.Plain platform)
    (target : UploadTarget platform drive p parent revisionOfUid)
    (drafted : drive.Drafted platform before)
    (commits : (uploaderOf platform p parent opts revisionOfUid).Commits platform before bytes
      final) :
    ∃ folder, before.FolderAt platform (segments p).dropLast folder ∧
      before.Stores platform folder (baseName p) bytes final := by
  cases revisionOfUid with
  | none => exact ⟨parent.uid, drafted.folderAt plain target, commits⟩
  | some uid =>
      rcases target with ⟨stored, folder, located, committed, within, named, lies⟩
      rcases commits with ⟨again, home, locatedAgain, withinAgain, stores⟩
      rw [(drafted.committed uid stored committed).mpr located] at locatedAgain
      cases locatedAgain
      cases within.symm.trans withinAgain
      rw [named] at stores
      exact ⟨folder, drafted.folderAt plain lies, stores⟩

theorem fits_of_metadata {bytes : Bytes} (fits : (putMetadata platform p opts).Fits platform bytes) :
    opts.fits platform.sha1 bytes = true := by
  rw [PutOptions.fits, Bool.and_eq_true]
  constructor
  · cases size : opts.size with
    | none => rfl
    | some expected => simpa using (fits.size expected size).symm
  · cases sha1 : truthy opts.sha1 with
    | none => rfl
    | some expected => simpa using (fits.sha1 expected sha1).symm

theorem serves_upload {parent : NodeEntity} {revisionOfUid : Option Uid}
    (whole : segments p = segments path) (inside : segments p ≠ [])
    (target : UploadTarget platform drive p parent revisionOfUid)
    (may : MayStore (drive.tree platform) path opts) (steady : SteadyAt platform drive world) :
    (sdkView platform).rules.Ensures (upload platform p parent revisionOfUid body opts)
      (Serves platform drive (.put path body opts) PutResult.performed) world := by
  have sound := steady.sound
  have pieces : segments p = (segments p).dropLast ++ [baseName p] := by
    rw [← segments_parentPath]
    exact segments_eq_concat inside
  have uploaded : (sdkView platform).rules.Ensures
      (do
        let uploader ← requestUploader platform p parent revisionOfUid opts
        let controller ← Program.request (SdkCall.uploadFromStream uploader (ownedStream body))
        Program.request (SdkCall.completion controller)
        Program.modify (invalidate p)
        pure (if revisionOfUid.isSome then .updated else .created) : SdkOperation PutResult)
      (DoneOrRefused platform drive fun result =>
        Serves platform drive (.put path body opts) PutResult.performed (.ok result)) world := by
    apply (ensures_requestUploader sound.plain steady.drafting).bind
    · exact fun _ _ failed => failed
    · rintro _ reached ⟨rfl, drafting⟩
      have started : (sdkView platform).rules.Ensures
          (Program.request (SdkCall.uploadFromStream
            (uploaderOf platform p parent opts revisionOfUid) (ownedStream body)) :
            SdkOperation UploadController)
          (Advances platform drive fun controller => controller =
            ⟨uploaderOf platform p parent opts revisionOfUid, ownedStream body⟩) reached :=
        ensures_draft rfl (fun _ _ _ succeeds => succeeds) sound.plain drafting
      apply started.bind
      · exact fun _ _ failed => failed
      · rintro _ reached ⟨rfl, drafting⟩
        have done : (sdkView platform).rules.Ensures
            (Program.request (SdkCall.completion
              ⟨uploaderOf platform p parent opts revisionOfUid, ownedStream body⟩) :
              SdkOperation Unit)
            (DoneOrRefused platform drive fun _ reached => Steady platform reached ∧
              (drive.tree platform).Serves platform.sha1 (.put path body opts) .done
                (reached.remote.tree platform)) reached := by
          apply ensures_call rfl ⟨drafting.1, rfl⟩
          · rintro fault last ⟨still, same⟩
            exact ⟨⟨still, same.trans (drafting.2.tree sound.plain)⟩, Nat.le_of_ble_eq_true rfl⟩
          · rintro now _ final steady ⟨bytes, streamed, fits, commits⟩
            rcases stores_of_commits sound.plain target drafting.2 commits with
              ⟨folder, lies, stores⟩
            have spares : Drive.Spares platform (fun _ => True) now.remote final := by
              rw [steady.2]
              exact stores.spares drafting.1.sound
            refine ⟨steady.1.becomes spares, ?_⟩
            rw [bytes_ownedStream] at streamed
            have fits : (putMetadata platform p opts).Fits platform bytes := by
              cases revisionOfUid with
              | none => exact fits
              | some uid => exact fits
            rw [stores.tree drafting.1.sound lies, drafting.2.tree sound.plain, ← pieces, whole]
            exact .stored path body opts bytes may.opens may.noFolder may.immutable streamed
              (fits_of_metadata fits)
        apply done.bind
        · exact fun _ _ failed => failed
        · rintro _ last ⟨still, serves⟩
          have dropped : (sdkView platform).rules.Ensures
              (Program.modify (invalidate p) : SdkOperation Unit)
              (fun outcome reached => (∃ value, outcome = .ok value) ∧ Steady platform reached ∧
                (drive.tree platform).Serves platform.sha1 (.put path body opts) .done
                  (reached.remote.tree platform)) last := by
            apply Rules.ensures_modify.mpr
            intro now _ waited
            refine ⟨trivial, ⟨(), rfl⟩, (still.waits waited).invalidated p, ?_⟩
            have same : now.remote.tree platform = last.remote.tree platform := by rw [waited.1]
            rw [same]
            exact serves
          apply dropped.bind
          · rintro _ _ ⟨⟨value, absurd⟩, _⟩
            cases absurd
          · rintro _ ended ⟨_, still, serves⟩
            refine ⟨still, .done, ?_, serves⟩
            cases revisionOfUid with
            | none => rfl
            | some uid => rfl
  apply uploaded.tryCatch
  · exact fun _ _ served => served
  · rintro error reached ⟨same, fails⟩
    have abandoned : (sdkView platform).rules.Ensures (abandonUpload p)
        (fun outcome reached => (∃ value, outcome = .ok value) ∧ ShowsSame platform drive reached)
        reached := by
      have steady : SteadyAt platform reached.remote reached := ⟨same.1, rfl⟩
      apply (ensures_swallowed rfl rfl steady).bind
      · rintro _ _ ⟨⟨value, absurd⟩, _⟩
        cases absurd
      · rintro _ last ⟨_, steady⟩
        apply Rules.ensures_modify.mpr
        intro now _ waited
        refine ⟨trivial, ⟨(), rfl⟩, (steady.1.waits waited).invalidated p, ?_⟩
        rw [waited.1, steady.2]
        exact same.2
    apply abandoned.bind
    · rintro _ _ ⟨⟨value, absurd⟩, _⟩
      cases absurd
    · exact fun _ _ ended => serves_error ended.2 (status_uploadError fails)

/-! ## The whole PUT -/

/-- A committed file that is found with drafts may be revised. -/
theorem uploadTarget_of_visit {node parent : NodeEntity}
    (found : drive.visit platform (segments p).reverse true = some node) (inside : segments p ≠ [])
    (committed : node.isDraft = false) :
    UploadTarget platform drive p parent (some node.uid) := by
  rcases Drive.getNode_eq_some.mp (Drive.getNode_of_visit found) with ⟨stored, located, entity⟩
  rw [segments_eq_concat inside, segments_parentPath, List.reverse_concat,
    Drive.visit_cons_eq_some] at found
  rcases found with ⟨folder, lies, picked, _⟩
  have named := List.find?_some picked
  have within := (Drive.mem_children.mp (List.mem_of_find?_eq_some picked)).2.1
  rw [List.reverse_reverse] at lies
  rw [← entity] at within named committed
  exact ⟨stored, folder, located, committed, within, of_decide_eq_true named, lies⟩

/-- Where an upload makes a new file, no file is seen. -/
theorem tree_of_free (sound : drive.Sound platform) (inside : segments p ≠ [])
    (free : ∀ node, drive.visit platform (segments p).reverse true = some node →
      node.type ≠ .folder ∧ (node.type = .file → node.activeRevision = none)) :
    drive.tree platform (segments p) = none := by
  apply Drive.tree_eq_none_of_visit
  rw [Option.eq_none_iff_forall_ne_some]
  intro node visited
  have found : drive.visit platform (segments p).reverse true = some node :=
    Drive.visit_of_committed visited true
  rcases Drive.getNode_eq_some.mp (Drive.getNode_of_visit found) with ⟨stored, located, entity⟩
  rw [segments_eq_concat inside, List.reverse_concat] at visited
  rcases Drive.visit_cons_eq_some.mp visited with ⟨_, _, _, committed, _⟩
  rcases free node found with ⟨noFolder, draft⟩
  cases type : node.type with
  | folder => exact noFolder type
  | other =>
      have kind := (sound.nodes _ _ located).kind
      rw [← entity] at type
      exact kind type
  | file =>
      have isDraft : node.isDraft = true := by
        rw [NodeEntity.isDraft, draft type, type]
        rfl
      cases committed isDraft

/-- A committed file that is found with drafts is found without. -/
theorem visit_committed {node : NodeEntity}
    (found : drive.visit platform (segments p).reverse true = some node) (inside : segments p ≠ [])
    (committed : node.isDraft = false) :
    drive.visit platform (segments p).reverse false = some node := by
  rw [segments_eq_concat inside, List.reverse_concat, Drive.visit_cons_eq_some] at found ⊢
  rcases found with ⟨parent, lies, picked, _, live⟩
  refine ⟨parent, lies, picked, ?_, live⟩
  rw [committed]
  exact fun absurd => absurd

theorem serves_putInto {parent : NodeEntity} (whole : segments p = segments path)
    (inside : segments p ≠ []) (safe : (segments p).all isSafeSegment = true)
    (lies : drive.FolderAt platform (segments p).dropLast parent.uid)
    (steady : SteadyAt platform drive world) :
    (sdkView platform).rules.Ensures (putInto platform p parent body opts)
      (Serves platform drive (.put path body opts) PutResult.performed) world := by
  apply serves_bind (sees_resolve p true steady)
  intro found reached same steady
  have sound := steady.sound
  have opens : (drive.tree platform).Opens path := by
    refine ⟨whole ▸ inside, ?_⟩
    rw [← whole]
    exact Drive.tree_folder.mpr ⟨_, lies⟩
  have visits : ∀ node, found = some node →
      drive.visit platform (segments p).reverse true = some node := by
    intro node there
    rw [there] at same
    exact (walked_of_nodeAt same.symm).2
  cases target : putTarget opts found with
  | collection => exact serves_refusePut (Nat.le_of_ble_eq_true rfl) steady
  | immutable => exact serves_refusePut (Nat.le_of_ble_eq_true rfl) steady
  | identical =>
      rcases putTarget_identical target with ⟨node, revision, rfl, isFile, active, named⟩
      apply (ensures_cancelBody steady).bind
      · rintro _ _ ⟨⟨value, absurd⟩, _⟩
        cases absurd
      · rintro _ last ⟨_, steady⟩
        have committed : node.isDraft = false := by
          rw [NodeEntity.isDraft, active]
          exact Bool.and_false _
        have visited := visit_committed (visits node rfl) inside committed
        rcases Drive.getNode_eq_some.mp (Drive.getNode_of_visit visited) with
          ⟨stored, located, entity⟩
        have claims : revision.Claims platform.sha1 stored.bytes := by
          rw [← entity] at isFile active
          exact (sound.nodes _ _ located).claims revision isFile active
        have present : drive.tree platform (segments path) = some (.file stored.bytes) := by
          rw [← whole]
          exact tree_of_file visited isFile located
        refine ⟨steady.1, .kept, rfl, ?_⟩
        rw [steady.2]
        exact .skipped path body opts stored.bytes present (names_of_claims claims named)
  | revise uid =>
      rcases putTarget_revise target with ⟨node, rfl, isFile, active, rfl, mutable⟩
      have committed : node.isDraft = false := by
        rw [NodeEntity.isDraft, Option.isNone_eq_false_iff.mpr (Option.isSome_iff_ne_none.mpr active)]
        exact Bool.and_false _
      apply serves_upload whole inside (uploadTarget_of_visit (visits node rfl) inside committed) _
        steady
      refine ⟨opens, ?_, fun immutable => ?_⟩
      · rw [← whole]
        apply noFolder_of_nodeAt safe same.symm
        intro existing there
        cases there
        rw [isFile]
        exact NodeType.noConfusion
      · rw [mutable] at immutable
        cases immutable
  | free =>
      have nothing : drive.tree platform (segments path) = none := by
        rw [← whole]
        apply tree_of_free sound inside
        intro node visited
        apply putTarget_free target
        rw [same, Drive.nodeAt, if_pos safe, visited]
      apply serves_upload whole inside _ _ steady
      · exact lies
      · refine ⟨opens, ?_, fun _ => nothing⟩
        rw [nothing]
        exact (Option.some_ne_none _).symm

theorem does_put (path : JsString) (body : BodyStream) (opts : PutOptions) :
    (sdkView platform).Does (.put path body opts) PutResult.performed
      (put platform path body opts) := by
  intro _ world steady
  have steady : SteadyAt platform world.remote world := ⟨steady, rfl⟩
  unfold put
  dsimp only
  split
  · exact serves_refusePut (Nat.le_of_ble_eq_true rfl) steady
  · next notRoot =>
      split
      · exact serves_refusePut (Nat.le_of_ble_eq_true rfl) steady
      · next safe =>
          split
          · exact serves_refusePut (Nat.le_of_ble_eq_true rfl) steady
          · have looked : (sdkView platform).rules.Ensures
                (resolveParent platform (normalize path))
                (Sees platform world.remote fun found =>
                  found = world.remote.nodeAt platform (parentPath (normalize path)) false)
                world := by
              apply (sees_resolve _ false steady).tryCatch
              · exact fun _ _ seen => seen
              · rintro error reached ⟨steady, fails⟩
                apply (ensures_cancelBody steady).bind
                · rintro _ _ ⟨⟨value, absurd⟩, _⟩
                  cases absurd
                · exact fun _ _ ended => ⟨ended.2, status_genericError fails⟩
            apply serves_bind looked
            intro found reached same steady
            cases found with
            | none => exact serves_refusePut (Nat.le_of_ble_eq_true rfl) steady
            | some parent =>
                dsimp only
                split
                · exact serves_refusePut (Nat.le_of_ble_eq_true rfl) steady
                · next isFolder =>
                    have inside : segments (normalize path) ≠ [] :=
                      fun root => notRoot (isRoot_iff.mpr root)
                    rcases folderAt_of_nodeAt same.symm (Decidable.of_not_not isFolder) with
                      ⟨safeAbove, lies⟩
                    apply serves_putInto (segments_normalize path) inside _ lies steady
                    rw [segments_eq_concat inside, List.all_append, safeAbove]
                    simpa using safe

end DriveWebdav
