import DriveWebdav.FileServer
import DriveWebdav.MockGateway.DecidedPut
import DriveWebdav.MockGateway.TreeOperations

/-! # The gateway in memory as a file server

Whatever failures are set, an operation serves the tree that is seen: it does to it what it says,
or it is refused and nothing of what is seen changes. -/

namespace DriveWebdav

namespace MockGateway

variable {gateway before after : MockGateway} {path src dst p : JsString} {opts : PutOptions}
  {body : BodyStream} {digest : Bytes → JsString} {now : Date} {children : MockEntries}

def shownKind : Kind MockLeaf → Option Shown
  | .folder => some .folder
  | .leaf (.file file) => some (.file file.data)
  | .leaf (.draft _) => none

/-- What is seen of the store. -/
def tree (gateway : MockGateway) : ShownTree := PathMap.seen shownKind gateway.root.kindAt

theorem grounded_tree : gateway.tree.Grounded .folder := Entries.grounded_kindAt.seen rfl

theorem tree_folder {q : List JsString} :
    gateway.tree q = some .folder ↔ gateway.root.kindAt q = some .folder := by
  rw [tree, PathMap.seen]
  rcases gateway.root.kindAt q with _ | (file | draft) | _
  · simp
  · simp [shownKind]
  · simp [shownKind]
  · simp [shownKind]

theorem tree_file {q : List JsString} {bytes : Bytes} :
    gateway.tree q = some (.file bytes) ↔
      ∃ file, gateway.root.kindAt q = some (.leaf (.file file)) ∧ file.data = bytes := by
  rw [tree, PathMap.seen]
  rcases gateway.root.kindAt q with _ | (file | draft) | _
  · simp
  · simp [shownKind]
  · simp [shownKind]
  · simp [shownKind]

def ofUnit : Except Thrown Unit → Performed
  | .ok _ => .done
  | .error _ => .refused

def ofPut : Except Thrown PutResult → Performed
  | .ok result => result.performed
  | .error _ => .refused

/-- Every file has the digest of its bytes, and no other is reported. -/
structure Truthful (digest : Bytes → JsString) (gateway : MockGateway) : Prop where
  digests : ∀ q file, gateway.root.kindAt q = some (.leaf (.file file)) →
    file.sha1 = digest file.data
  reports : gateway.faults.corruptSha1ForPath = none

/-- What an operation leaves, and how it has ended, is as the tree that is seen asks. -/
structure Served (digest : Bytes → JsString) (operation : FileOperation) (before : MockGateway)
    (performed : Performed) (after : MockGateway) : Prop where
  serves : before.tree.Serves digest operation performed after.tree
  truthful : Truthful digest after

variable {operation : FileOperation} {performed : Performed}

theorem served_refused (truthful : Truthful digest gateway) :
    Served digest operation gateway .refused gateway := ⟨.refused operation, truthful⟩

/-- A failure that is set for an operation is not seen in the tree. -/
theorem served_ticked {α : Type} {op : JsString} {rest : MockOperation α}
    {ends : Except Thrown α → Performed} (refuses : ∀ error, ends (.error error) = .refused)
    (truthful : Truthful digest gateway)
    (served : Served digest operation gateway (ends (rest gateway).1) (rest gateway).2) :
    Served digest operation gateway (ends (ticked op rest gateway).1)
      (ticked op rest gateway).2 := by
  cases fails : gateway.fails op with
  | true =>
      rw [ticked_of_fails fails, refuses]
      exact ⟨.refused operation, truthful.digests, truthful.reports⟩
  | false =>
      rw [ticked_of_not_fails fails]
      exact served

/-! ## Places -/

theorem inside_of_not_root (below : ¬isRoot (normalize path) = true) : segments path ≠ [] := by
  rwa [isRoot_normalize, isRoot_iff] at below

/-- The folder of a path, where there is one. -/
theorem located_of_dirOf (found : gateway.dirOf path = .ok children) :
    gateway.root.folderAt (segments (parentPath path)) = some children := by
  by_cases parent : gateway.kindOf (parentPath path) = some .folder
  · rcases Entries.folderAt_of_kindAt parent with ⟨there, located⟩
    rw [dirOf_of_located located] at found
    cases found
    exact located
  · rcases dirOf_eq_error parent with ⟨message, missing⟩
    rw [missing] at found
    cases found

theorem opens_of_located (inside : segments path ≠ [])
    (located : gateway.root.folderAt (segments (parentPath path)) = some children) :
    gateway.tree.Opens path := by
  refine ⟨inside, ?_⟩
  rw [← segments_parentPath, tree_folder]
  exact Entries.kindAt_of_folderAt located

theorem free_of_located (inside : segments path ≠ [])
    (located : gateway.root.folderAt (segments (parentPath path)) = some children)
    (absent : children.get (baseName path) = none) : gateway.tree.Free path := by
  refine ⟨opens_of_located inside located, ?_⟩
  have kind := kindOf_of_located inside located
  rw [absent] at kind
  rw [tree, PathMap.seen, ← kindOf, kind]
  rfl

/-- What is found at a path is what its path leads to. -/
theorem kindAt_of_lookup {node : MockNode} (found : gateway.lookup path = some node) :
    node.kindAt = PathMap.branch gateway.root.kindAt (segments path) ∧
      ∀ draft, node ≠ .leaf (.draft draft) := by
  unfold lookup at found
  split at found
  · cases found
  · next visible =>
      refine ⟨Entries.kindAt_lookup found, ?_⟩
      rintro draft rfl
      exact visible draft found

theorem tree_of_kinds {kinds : PathMap JsString (Kind MockLeaf)}
    (same : gateway.root.kindAt = kinds) : gateway.tree = PathMap.seen shownKind kinds := by
  rw [tree, same]

theorem tree_of_visible {node : MockNode} {q : List JsString}
    (here : gateway.root.kindAt q = some node.kind)
    (visible : ∀ draft, node ≠ .leaf (.draft draft)) : gateway.tree q ≠ none := by
  rw [tree, PathMap.seen, here]
  cases node with
  | folder info below => exact Option.some_ne_none _
  | leaf leaf =>
      cases leaf with
      | file file => exact Option.some_ne_none _
      | draft draft => exact absurd rfl (visible draft)

/-- What is put where nothing was changes one path only. -/
theorem tree_put {node : MockNode} {kind : Kind MockLeaf} {item : Shown}
    (inside : segments path ≠ [])
    (located : gateway.root.folderAt (segments (parentPath path)) = some children)
    (noFolder : gateway.tree (segments path) ≠ some .folder)
    (single : node.kindAt = PathMap.only kind) (shows : shownKind kind = some item) :
    (gateway.inDir path fun children => children.set (baseName path) node).tree =
      Function.update gateway.tree (segments path) (some item) := by
  rw [← PathMap.graft_only item (grounded_tree.below noFolder), tree, inDir,
    Entries.kindAt_modify_put located, ← segments_eq_concat inside, PathMap.seen_graft, single,
    PathMap.seen_only shows]
  rfl

/-! ## Operations on entries -/

/-- A change of the tree that brings in no file. -/
theorem Truthful.keep (truthful : Truthful digest before)
    (faults : after.faults.corruptSha1ForPath = before.faults.corruptSha1ForPath)
    (kept : ∀ q file, after.root.kindAt q = some (.leaf (.file file)) →
      ∃ earlier, before.root.kindAt earlier = some (.leaf (.file file))) :
    Truthful digest after where
  digests q file found := by
    rcases kept q file found with ⟨earlier, present⟩
    exact truthful.digests earlier file present
  reports := faults.trans truthful.reports

theorem served_mkcol (truthful : Truthful digest gateway) :
    Served digest (.mkcol path) gateway (ofUnit (mkcol now path gateway).1)
      (mkcol now path gateway).2 := by
  apply served_ticked (fun _ => rfl) truthful
  split
  · exact served_refused truthful
  · next below =>
      have inside := inside_of_not_root below
      split
      · exact served_refused truthful
      · next children found =>
          have found := located_of_dirOf found
          rw [parentPath_normalize] at found
          rw [baseName_normalize, inDir_normalize]
          split
          · exact served_refused truthful
          · next absent =>
              rw [Option.not_isSome_iff_eq_none] at absent
              have free := free_of_located inside found absent
              have single : (Node.folder now .nil : MockNode).kindAt = PathMap.only .folder := by
                funext q
                cases q with
                | nil => rfl
                | cons name more => rfl
              refine ⟨?_, truthful.keep rfl ?_⟩
              · rw [tree_put inside found free.noFolder single rfl]
                exact .mkcol path free
              · intro q file there
                rw [inDir, Entries.kindAt_modify_put found, single] at there
                rcases PathMap.of_graft there with ⟨below, there⟩ | there
                · cases PathMap.eq_of_only there
                · exact ⟨q, there⟩

theorem served_remove (truthful : Truthful digest gateway) :
    Served digest (.remove path) gateway (ofUnit (remove path gateway).1)
      (remove path gateway).2 := by
  apply served_ticked (fun _ => rfl) truthful
  split
  · exact served_refused truthful
  · next below =>
      have inside := inside_of_not_root below
      split
      · exact served_refused truthful
      · next children found =>
          have found := located_of_dirOf found
          rw [parentPath_normalize] at found
          rw [baseName_normalize, inDir_normalize]
          split
          · exact served_refused truthful
          · exact served_refused truthful
          · next node visible here =>
              have kind := kindOf_of_located inside found
              have kinds : (gateway.inDir path fun children =>
                  children.delete (baseName path)).root.kindAt =
                  PathMap.prune gateway.root.kindAt (segments path) := by
                rw [inDir, Entries.kindAt_modify_prune found, ← segments_eq_concat inside]
              have cut := tree_of_kinds kinds
              rw [PathMap.seen_prune] at cut
              refine ⟨?_, truthful.keep rfl ?_⟩
              · have removed : ShownTree.Serves digest _ _ _ _ := .remove path inside
                  (tree_of_visible (kind.trans (congrArg _ here)) visible)
                rw [tree, ← cut] at removed
                exact removed
              · intro q file there
                rw [kinds] at there
                exact ⟨q, PathMap.of_prune there⟩

/-- A node that is found is put at a free path below the root, after `prepare`. -/
structure Prepared (gateway : MockGateway) (dst : JsString)
    (prepare : MockGateway → MockGateway) : Prop where
  faults : (prepare gateway).faults = gateway.faults
  parent : gateway.kindOf (parentPath dst) = some .folder →
    (prepare gateway).kindOf (parentPath dst) = some .folder
  kept : ∀ q kind, (prepare gateway).root.kindAt q = some kind → gateway.root.kindAt q = some kind

/-- A node is not put anywhere, or it is put at a path that was free. -/
theorem putNode_cases {node : MockNode} {prepare : MockGateway → MockGateway}
    (inside : segments dst ≠ []) (prepared : Prepared gateway dst prepare) :
    (∃ error, putNode (normalize dst) node prepare gateway = (.error error, gateway)) ∨
      gateway.tree.Free dst ∧
        (putNode (normalize dst) node prepare gateway).1 = .ok () ∧
        (putNode (normalize dst) node prepare gateway).2.faults = gateway.faults ∧
        (putNode (normalize dst) node prepare gateway).2.root.kindAt =
          PathMap.graft (prepare gateway).root.kindAt (segments dst) node.kindAt := by
  unfold putNode
  split
  · exact .inl ⟨_, rfl⟩
  · next children found =>
      have found := located_of_dirOf found
      rw [parentPath_normalize] at found
      rw [baseName_normalize, inDir_normalize]
      split
      · exact .inl ⟨_, rfl⟩
      · next absent =>
          rw [Option.not_isSome_iff_eq_none] at absent
          have parent := prepared.parent (Entries.kindAt_of_folderAt found)
          rcases Entries.folderAt_of_kindAt parent with ⟨there, located⟩
          refine .inr ⟨free_of_located inside found absent, rfl, prepared.faults, ?_⟩
          rw [inDir, Entries.kindAt_modify_put located, ← segments_eq_concat inside]

theorem served_move (fromBelow : segments src ≠ []) (toBelow : segments dst ≠ [])
    (apart : ¬segments src <+: segments dst) (truthful : Truthful digest gateway) :
    Served digest (.move src dst) gateway (ofUnit (move src dst gateway).1)
      (move src dst gateway).2 := by
  apply served_ticked (fun _ => rfl) truthful
  split
  · exact served_refused truthful
  · next node found =>
      rcases kindAt_of_lookup found with ⟨branch, visible⟩
      rw [segments_normalize] at branch
      have here : gateway.root.kindAt (segments src) = some node.kind := by
        have first := congrFun branch []
        rw [PathMap.branch, List.append_nil] at first
        rw [← first]
        cases node with
        | leaf leaf => rfl
        | folder info below => rfl
      have above : PathMap.Grounded .folder gateway.root.kindAt := Entries.grounded_kindAt
      have kinds : (gateway.inDir (normalize src) fun children =>
          children.delete (baseName (normalize src))).root.kindAt =
          PathMap.prune gateway.root.kindAt (segments src) := by
        have parent : gateway.root.kindAt (segments (parentPath src)) = some .folder := by
          apply above.above _ (baseName src)
          rw [← segments_eq_concat fromBelow, here]
          exact Option.some_ne_none _
        rcases Entries.folderAt_of_kindAt parent with ⟨children, located⟩
        rw [inDir_normalize, baseName_normalize, inDir, Entries.kindAt_modify_prune located,
          ← segments_eq_concat fromBelow]
      have prepared : Prepared gateway dst fun gateway =>
          gateway.inDir (normalize src) fun children =>
            children.delete (baseName (normalize src)) := by
        refine ⟨rfl, ?_, ?_⟩
        · intro parent
          rw [kindOf, kinds, PathMap.prune_apart]
          · exact parent
          · rw [segments_parentPath]
            exact fun begins => apart (begins.trans (List.dropLast_prefix _))
        · intro q kind there
          rw [kinds] at there
          exact PathMap.of_prune there
      rcases @putNode_cases _ _ node _ toBelow prepared with
        ⟨error, refused⟩ | ⟨free, done, faults, put⟩
      · rw [refused]
        exact served_refused truthful
      · rw [kinds, branch] at put
        rw [done]
        have taken := (tree_of_kinds put).trans PathMap.seen_transplant
        refine ⟨?_, truthful.keep (congrArg Faults.corruptSha1ForPath faults) ?_⟩
        · rw [taken]
          exact .move src dst fromBelow (tree_of_visible here visible) free apart
        · intro q file there
          rw [put] at there
          exact PathMap.of_transplant there

theorem served_copy (toBelow : segments dst ≠ []) (truthful : Truthful digest gateway) :
    Served digest (.copy src dst) gateway (ofUnit (copy src dst gateway).1)
      (copy src dst gateway).2 := by
  apply served_ticked (fun _ => rfl) truthful
  split
  · exact served_refused truthful
  · next file found =>
      have branch := (kindAt_of_lookup found).1
      rw [segments_normalize] at branch
      have here : gateway.root.kindAt (segments src) = some (.leaf (.file file)) := by
        have first := congrFun branch []
        rw [PathMap.branch, List.append_nil] at first
        exact first.symm
      have prepared : Prepared gateway dst id := ⟨rfl, id, fun _ _ => id⟩
      rcases @putNode_cases _ _ (.leaf (.file file)) _ toBelow prepared with
        ⟨error, refused⟩ | ⟨free, done, faults, put⟩
      · rw [refused]
        exact served_refused truthful
      · rw [done]
        refine ⟨?_, truthful.keep (congrArg Faults.corruptSha1ForPath faults) ?_⟩
        · have copied : ShownTree.Serves digest _ _ _ _ := .copy src dst file.data
            (tree_file.mpr ⟨file, here, rfl⟩) free
          rw [← PathMap.graft_only _ (grounded_tree.below free.noFolder)] at copied
          have put := (tree_of_kinds put).trans (PathMap.seen_graft _)
          have single : PathMap.seen shownKind (Node.leaf (.file file) : MockNode).kindAt =
              PathMap.only (.file file.data) := PathMap.seen_only rfl
          rw [put, single]
          exact copied
        · intro q other there
          rw [put] at there
          rcases PathMap.of_graft there with ⟨below, there⟩ | there
          · cases PathMap.eq_of_only there
            exact ⟨segments src, here⟩
          · exact ⟨q, there⟩
  · exact served_refused truthful

/-! ## Uploads -/

/-- Nothing of what is seen changes. -/
structure Unseen (digest : Bytes → JsString) (before after : MockGateway) : Prop where
  tree : after.tree = before.tree
  truthful : Truthful digest before → Truthful digest after

theorem Unseen.refl : Unseen digest gateway gateway := ⟨rfl, id⟩

theorem Unseen.trans {last : MockGateway} (first : Unseen digest before after)
    (second : Unseen digest after last) : Unseen digest before last :=
  ⟨second.tree.trans first.tree, fun truthful => second.truthful (first.truthful truthful)⟩

/-- A file with these bytes is what is then seen at the path, and nothing else changes. -/
structure Stores (digest : Bytes → JsString) (path : JsString) (bytes : Bytes)
    (before after : MockGateway) : Prop where
  tree : after.tree = Function.update before.tree (segments path) (some (.file bytes))
  truthful : Truthful digest before → Truthful digest after

theorem Unseen.stores {last : MockGateway} {bytes : Bytes} (first : Unseen digest before after)
    (second : Stores digest path bytes after last) : Stores digest path bytes before last :=
  ⟨by rw [second.tree, first.tree], fun truthful => second.truthful (first.truthful truthful)⟩

theorem tree_of_differs (differs : DiffersAt path before after) :
    after.tree = Function.update before.tree (segments path) (after.tree (segments path)) := by
  funext q
  by_cases here : q = segments path
  · rw [here, Function.update_self]
  · rw [Function.update_of_ne here, tree, tree, PathMap.seen, PathMap.seen,
      differs.elsewhere q here]

/-- A file or a draft is at the path, or nothing. -/
theorem tree_segments (notFolder : gateway.kindOf path ≠ some .folder) :
    gateway.tree (segments path) = (gateway.fileAt path).map fun file => .file file.data := by
  rw [tree, PathMap.seen, fileAt]
  rcases kind : gateway.kindOf path with _ | (file | draft) | _
  · rw [← kindOf, kind]
    rfl
  · rw [← kindOf, kind]
    rfl
  · rw [← kindOf, kind]
    rfl
  · exact absurd kind notFolder

/-- A draft that comes, grows or goes is not seen. -/
theorem unseen_of_differs (differs : DiffersAt path before after)
    (same : after.fileAt path = before.fileAt path) (wasNone : before.kindOf path ≠ some .folder)
    (isNone : after.kindOf path ≠ some .folder)
    (faults : after.faults.corruptSha1ForPath = before.faults.corruptSha1ForPath) :
    Unseen digest before after where
  tree := by
    rw [tree_of_differs differs, tree_segments isNone, same, ← tree_segments wasNone,
      Function.update_eq_self]
  truthful truthful := by
    apply truthful.keep faults
    intro q file there
    by_cases here : q = segments path
    · have held : after.fileAt path = some file := by
        rw [fileAt, kindOf, ← here, there]
      rw [same, fileAt] at held
      split at held
      · next found =>
          cases held
          exact ⟨segments path, found⟩
      · cases held
    · rw [differs.elsewhere q here] at there
      exact ⟨q, there⟩

theorem stores_of_differs {file : MockFile} (differs : DiffersAt path before after)
    (there : after.kindOf path = some (.leaf (.file file))) (digested : file.sha1 = digest file.data)
    (faults : after.faults.corruptSha1ForPath = before.faults.corruptSha1ForPath) :
    Stores digest path file.data before after where
  tree := by
    rw [tree_of_differs differs]
    congr 1
    exact tree_file.mpr ⟨file, there, rfl⟩
  truthful truthful := by
    refine ⟨?_, faults.trans truthful.reports⟩
    intro q other found
    by_cases here : q = segments path
    · rw [here, ← kindOf, there] at found
      cases found
      exact digested
    · rw [differs.elsewhere q here] at found
      exact truthful.digests q other found

variable {upload : Upload}

theorem unseen_noteReceived (uploading : Uploading gateway path upload)
    (drafted : upload.isRevision = false → gateway.fileAt path = none) :
    Unseen digest gateway (gateway.noteReceived upload) := by
  apply unseen_of_differs uploading.noteReceived.1 (uploading.fileAt drafted)
    uploading.notFolder uploading.remains.notFolder
  unfold noteReceived
  split
  · rfl
  · rfl

/-- A body passes both checks exactly where it fits. -/
theorem fits_of_checks {bytes : Bytes}
    (sized : opts.size.filter (· ≠ (bytes.length : Int)) = none)
    (digested : (truthy opts.sha1).filter (· ≠ digest bytes) = none) :
    opts.fits digest bytes = true := by
  rw [Option.filter_eq_none_iff] at sized digested
  rw [PutOptions.fits, Bool.and_eq_true, Option.all_eq_true, Option.all_eq_true]
  constructor
  · intro expected known
    apply decide_eq_true
    by_contra different
    exact sized expected known (decide_eq_true different)
  · intro expected known
    apply decide_eq_true
    by_contra different
    exact digested expected known (decide_eq_true different)

/-- What an upload comes to: it fails unseen, or the bytes are stored. -/
inductive Comes (digest : Bytes → JsString) (path : JsString) (opts : PutOptions) (bytes : Bytes)
    (before : MockGateway) : Except Thrown PutResult × MockGateway → Prop
  | failed (error after) (unseen : Unseen digest before after) :
      Comes digest path opts bytes before (.error error, after)
  | stored (isRevision : Bool) (after) (fits : opts.fits digest bytes = true)
      (stores : Stores digest path bytes before after) :
      Comes digest path opts bytes before (.ok (if isRevision then .updated else .created), after)

theorem Unseen.comes {bytes : Bytes} {ended : Except Thrown PutResult × MockGateway}
    (first : Unseen digest before after) (second : Comes digest path opts bytes after ended) :
    Comes digest path opts bytes before ended := by
  cases second with
  | failed error last unseen => exact .failed error last (first.trans unseen)
  | stored isRevision last fits stores => exact .stored isRevision last fits (first.stores stores)

theorem comes_finishPut (uploading : Uploading gateway path upload)
    (drafted : upload.isRevision = false → gateway.fileAt path = none) :
    Comes digest path upload.opts upload.data gateway (finishPut digest now upload gateway) := by
  rcases uploading.spot with ⟨children, spot⟩
  unfold finishPut
  cases size : upload.opts.size.filter (· ≠ (upload.data.length : Int)) with
  | some expected => exact .failed _ _ .refl
  | none =>
      cases sha1 : (truthy upload.opts.sha1).filter (· ≠ digest upload.data) with
      | some expected =>
          apply Comes.failed
          cases revision : upload.isRevision with
          | true => exact .refl
          | false =>
              rcases spot.delete with ⟨differs, gone⟩
              rw [if_neg (ne_true_of_eq_false rfl), uploading.named, inDir_normalize,
                baseName_normalize]
              apply unseen_of_differs differs
              · rw [drafted revision, fileAt, gone]
              · exact uploading.notFolder
              · rw [gone]
                exact (Option.some_ne_none _).symm
              · rfl
      | none =>
          rcases spot.set (.file (committed digest now upload)) with ⟨differs, there⟩
          rw [uploading.named]
          dsimp only
          rw [inDir_normalize, baseName_normalize]
          apply Comes.stored _ _ (fits_of_checks size sha1)
          exact @stores_of_differs _ _ _ _ (committed digest now upload)
            ⟨differs.clientUid, differs.elsewhere⟩ there rfl rfl

/-- However its body arrives, an upload fails unseen or stores the whole of it. -/
theorem comes_receive (uploading : Uploading gateway path upload)
    (drafted : upload.isRevision = false → gateway.fileAt path = none) :
    (∃ bytes, body.bytes = some bytes ∧ Comes digest path upload.opts (upload.data ++ bytes) gateway
      (receive digest now body upload gateway)) ∨
    ∃ error after, receive digest now body upload gateway = (.error error, after) ∧
      Unseen digest gateway after := by
  induction body generalizing upload gateway with
  | done =>
      refine .inl ⟨[], rfl, ?_⟩
      rw [List.append_nil]
      exact comes_finishPut uploading drafted
  | failed => exact .inr ⟨bodyError, gateway, rfl, .refl⟩
  | value chunk rest induction =>
      have adding : Uploading gateway path (upload.add chunk) :=
        ⟨uploading.named, uploading.parent, uploading.notFolder⟩
      have noted : Unseen digest gateway (gateway.noteReceived (upload.add chunk)) :=
        unseen_noteReceived adding drafted
      unfold receive
      rw [receiveChunk_eq]
      cases drops : (upload.add chunk).dropped with
      | true => exact .inr ⟨_, _, rfl, noted⟩
      | false =>
          have still : (upload.add chunk).isRevision = false →
              (gateway.noteReceived (upload.add chunk)).fileAt path = none := by
            intro revision
            rw [adding.fileAt drafted]
            exact drafted revision
          rcases induction adding.remains still with
            ⟨bytes, whole, comes⟩ | ⟨error, after, failed, unseen⟩
          · refine .inl ⟨chunk ++ bytes, ?_, ?_⟩
            · rw [BodyStream.bytes, whole]
              rfl
            · rw [← List.append_assoc]
              exact noted.comes comes
          · exact .inr ⟨error, after, failed, noted.trans unseen⟩

theorem served_unseen {ended : Except Thrown PutResult × MockGateway} {error : Thrown}
    (truthful : Truthful digest gateway) (same : ended = (.error error, after))
    (unseen : Unseen digest gateway after) :
    Served digest operation gateway (ofPut ended.1) ended.2 := by
  rw [same]
  refine ⟨?_, unseen.truthful truthful⟩
  rw [unseen.tree]
  exact .refused operation

/-- An upload that receives its body stores it, or is refused. -/
theorem served_receiving {isRevision : Bool} {revisions : Nat} (truthful : Truthful digest before)
    (spot : Spot before path children) (unseen : Unseen digest before gateway)
    (opened : ∃ children, Spot gateway path children)
    (begins : beginPut path opts before =
      gateway.receiving (normalize path) opts isRevision revisions)
    (drafted : isRevision = false → gateway.fileAt path = none)
    (immutable : opts.immutable = true → before.tree (segments path) = none) :
    Served digest (.put path body opts) before (ofPut (put digest now path body opts before).1)
      (put digest now path body opts before).2 := by
  rcases opened with ⟨there, opened⟩
  have uploading : Uploading
      { gateway with faults := { gateway.faults with dropPutAfterBytes := none } } path
      ⟨normalize path, opts, isRevision, revisions, gateway.faults.dropPutAfterBytes, []⟩ :=
    ⟨rfl, opened.parent, opened.notFolder⟩
  have starts : Unseen digest gateway
      { gateway with faults := { gateway.faults with dropPutAfterBytes := none } } :=
    ⟨rfl, fun truthful => ⟨truthful.digests, truthful.reports⟩⟩
  have receives : put digest now path body opts before =
      receive digest now body ⟨normalize path, opts, isRevision, revisions,
        gateway.faults.dropPutAfterBytes, []⟩
        { gateway with faults := { gateway.faults with dropPutAfterBytes := none } } := by
    rw [put, begins]
    rfl
  have received : (∃ bytes, _ ∧ Comes digest _ _ _ _ (receive digest now body _ _)) ∨ _ :=
    comes_receive uploading drafted
  rcases received with ⟨bytes, whole, comes⟩ | ⟨error, after, failed, later⟩
  · have comes := (unseen.trans starts).comes comes
    rw [← receives, List.nil_append] at comes
    generalize put digest now path body opts before = ended at comes
    cases comes with
    | failed error after unseen => exact served_unseen truthful rfl unseen
    | stored revised after fits stores =>
        refine ⟨?_, stores.truthful truthful⟩
        have done : ofPut
            (.ok (if revised = true then PutResult.updated else PutResult.created)) = .done := by
          cases revised with
          | true => rfl
          | false => rfl
        rw [stores.tree, done]
        refine .stored path body opts bytes (opens_of_located spot.inside spot.located) ?_
          immutable whole fits
        intro folder
        exact spot.notFolder (tree_folder.mp folder)
  · exact served_unseen truthful (receives.trans failed) ((unseen.trans starts).trans later)

theorem Drafted.unseen (drafted : Drafted path before after) (free : before.fileAt path = none)
    (notFolder : before.kindOf path ≠ some .folder) : Unseen digest before after := by
  apply unseen_of_differs drafted.differs
  · rw [free, fileAt, drafted.there]
  · exact notFolder
  · rw [drafted.there]
    exact fun folder => by cases folder
  · rw [drafted.faults]

theorem served_drafting (truthful : Truthful digest before) (spot : Spot before path children)
    (drafted : Drafted path before gateway)
    (begins : beginPut path opts before = gateway.receiving (normalize path) opts false 0)
    (free : before.fileAt path = none) :
    Served digest (.put path body opts) before (ofPut (put digest now path body opts before).1)
      (put digest now path body opts before).2 := by
  apply served_receiving truthful spot (drafted.unseen free spot.notFolder) _ begins
  · intro revision
    rw [fileAt, drafted.there]
  · intro immutable
    rw [tree_segments spot.notFolder, free]
    rfl
  · apply spot.remains drafted.differs
    rw [drafted.there]
    exact fun folder => by cases folder

/-- With no wrong digest set, a file reports its own. -/
theorem isIdentical_truthful (truthful : Truthful digest gateway) (existing : MockFile) :
    gateway.isIdentical p opts existing =
      opts.names (some existing.data.length) (some existing.sha1) := by
  have reported : gateway.reportedSha1 p existing = existing.sha1 := by
    rw [reportedSha1, truthful.reports]
    rfl
  rw [isIdentical, PutOptions.names, reported]
  congr 2
  exact decide_eq_decide.mpr eq_comm

theorem served_beginIn (truthful : Truthful digest gateway) (inside : segments path ≠ [])
    (located : gateway.root.folderAt (segments (parentPath path)) = some children)
    (begins : beginPut path opts gateway = beginIn (normalize path) opts children gateway) :
    Served digest (.put path body opts) gateway (ofPut (put digest now path body opts gateway).1)
      (put digest now path body opts gateway).2 := by
  have kind := kindOf_of_located inside located
  have refused : ∀ {error : Thrown}, beginPut path opts gateway = (.error error, gateway) →
      Served digest (.put path body opts) gateway
        (ofPut (put digest now path body opts gateway).1)
        (put digest now path body opts gateway).2 := by
    intro error failed
    rw [put, failed]
    exact served_refused truthful
  unfold beginIn at begins
  rw [inDir_normalize, inDir_normalize, baseName_normalize] at begins
  have spotted : gateway.kindOf path ≠ some .folder → Spot gateway path children :=
    fun notFolder => ⟨inside, located, notFolder⟩
  cases here : children.get (baseName path) with
  | none =>
      rw [here] at kind begins
      have spot := spotted (by rw [kind]; exact fun folder => by cases folder)
      exact served_drafting truthful spot spot.drafted begins (by rw [fileAt, kind]; rfl)
  | some node =>
      rw [here] at kind begins
      cases node with
      | folder info below => exact refused begins
      | leaf leaf =>
          have spot := spotted (by rw [kind]; exact fun folder => by cases folder)
          cases leaf with
          | file existing =>
              have there : gateway.root.kindAt (segments path) = some (.leaf (.file existing)) :=
                kind
              dsimp only at begins
              rw [isIdentical_truthful truthful] at begins
              split at begins
              · next identical =>
                  rw [truthful.digests _ _ there] at identical
                  rw [put, begins]
                  refine ⟨?_, truthful⟩
                  exact .skipped path body opts existing.data
                    (tree_file.mpr ⟨existing, there, rfl⟩) identical
              · split at begins
                · exact refused begins
                · next mutable =>
                    apply served_receiving truthful spot .refl ⟨children, spot⟩ begins
                    · exact fun revision => by cases revision
                    · exact fun immutable => absurd immutable mutable
          | draft existing =>
              dsimp only at begins
              split at begins
              · exact refused begins
              · exact served_drafting truthful spot spot.redrafted begins
                  (by rw [fileAt, kind]; rfl)

theorem served_put (truthful : Truthful digest gateway) :
    Served digest (.put path body opts) gateway (ofPut (put digest now path body opts gateway).1)
      (put digest now path body opts gateway).2 := by
  rcases start : beginPut path opts gateway with ⟨begun, after⟩
  have begins := start.symm
  unfold beginPut at begins
  have refused : ∀ {error : Thrown} {after : MockGateway},
      beginPut path opts gateway = (.error error, after) → after.root = gateway.root →
      after.faults.corruptSha1ForPath = gateway.faults.corruptSha1ForPath →
      Served digest (.put path body opts) gateway
        (ofPut (put digest now path body opts gateway).1)
        (put digest now path body opts gateway).2 := by
    intro error after failed root same
    rw [put, failed]
    apply served_unseen truthful rfl
    constructor
    · rw [tree, tree, root]
    · intro truthful
      refine ⟨?_, same.trans truthful.reports⟩
      rw [root]
      exact truthful.digests
  cases fails : gateway.fails "put" with
  | true =>
      rw [ticked_of_fails fails] at begins
      exact refused (start.trans begins) rfl rfl
  | false =>
      rw [ticked_of_not_fails fails] at begins
      split at begins
      · exact refused (start.trans begins) rfl rfl
      · split at begins
        · exact refused (start.trans begins) rfl rfl
        · next named =>
            rw [Bool.or_eq_true, not_or] at named
            split at begins
            · exact refused (start.trans begins) rfl rfl
            · next children found =>
                have located := located_of_dirOf found
                rw [parentPath_normalize] at located
                exact served_beginIn truthful (inside_of_not_root named.1) located
                  (start.trans begins)

end MockGateway

end DriveWebdav
