import DriveWebdav.MockGateway.Restarts

/-! # What an upload changes

Every piece of an upload changes the tree at its path only. -/

namespace DriveWebdav

namespace MockGateway

variable {gateway before after : MockGateway} {path : JsString} {opts : PutOptions}
  {children : MockEntries} {leaf : MockLeaf}

/-- What is at a path. -/
def kindOf (gateway : MockGateway) (path : JsString) : Option (Kind MockLeaf) :=
  gateway.root.kindAt (segments path)

/-- The committed file at a path. -/
def fileAt (gateway : MockGateway) (path : JsString) : Option MockFile :=
  match gateway.kindOf path with
  | some (.leaf (.file file)) => some file
  | _ => none

/-- Two states of a store that differ at one path only. -/
structure DiffersAt (path : JsString) (before after : MockGateway) : Prop where
  clientUid : after.clientUid = before.clientUid
  elsewhere : ∀ q, q ≠ segments path → after.root.kindAt q = before.root.kindAt q

theorem DiffersAt.refl : DiffersAt path gateway gateway := ⟨rfl, fun _ _ => rfl⟩

theorem DiffersAt.trans {last : MockGateway} (first : DiffersAt path before after)
    (second : DiffersAt path after last) : DiffersAt path before last where
  clientUid := second.clientUid.trans first.clientUid
  elsewhere q apart := (second.elsewhere q apart).trans (first.elsewhere q apart)

/-- A path that an upload can have: below the root, in a folder. -/
structure Spot (gateway : MockGateway) (path : JsString) (children : MockEntries) : Prop where
  inside : segments path ≠ []
  located : gateway.root.folderAt (segments (parentPath path)) = some children
  notFolder : gateway.kindOf path ≠ some .folder

theorem fileAt_eq_none (noFile : ∀ file, gateway.kindOf path ≠ some (.leaf (.file file))) :
    gateway.fileAt path = none := by
  rw [fileAt]
  split
  · next file found => exact absurd found (noFile file)
  · rfl

theorem exists_spot (parent : gateway.kindOf (parentPath path) = some .folder)
    (notFolder : gateway.kindOf path ≠ some .folder) : ∃ children, Spot gateway path children := by
  rcases Entries.folderAt_of_kindAt parent with ⟨children, located⟩
  refine ⟨children, ?_, located, notFolder⟩
  intro root
  apply notFolder
  rw [MockGateway.kindOf, root]
  rfl

theorem Spot.parent (spot : Spot gateway path children) :
    gateway.kindOf (parentPath path) = some .folder :=
  Entries.kindAt_of_folderAt spot.located

/-- The folder of a path is not touched by a change at the path. -/
theorem Spot.remains (spot : Spot gateway path children) (differs : DiffersAt path gateway after)
    (notFolder : after.kindOf path ≠ some .folder) : ∃ children, Spot after path children := by
  apply exists_spot _ notFolder
  rw [MockGateway.kindOf, differs.elsewhere]
  · exact spot.parent
  · intro same
    have length := congrArg List.length (segments_eq_concat spot.inside)
    rw [List.length_append, ← same, List.length_singleton] at length
    omega

theorem Spot.kindOf (spot : Spot gateway path children) :
    gateway.kindOf path = (children.get (baseName path)).map Node.kind := by
  rw [MockGateway.kindOf, segments_eq_concat spot.inside, Entries.kindAt_append spot.located,
    Entries.kindAt_singleton]

theorem Spot.dirOf (spot : Spot gateway path children) : gateway.dirOf path = .ok children := by
  rcases Entries.lookup_eq_folder.mpr spot.located with ⟨info, found⟩
  rw [MockGateway.dirOf, lookup, rootNode, found]

theorem Spot.dirOf_normalize (spot : Spot gateway path children) :
    gateway.dirOf (normalize path) = .ok children := by
  rw [MockGateway.dirOf, parentPath_normalize]
  exact spot.dirOf

theorem inDir_normalize (change : MockEntries → MockEntries) :
    gateway.inDir (normalize path) change = gateway.inDir path change := by
  rw [inDir, inDir, parentPath_normalize]

theorem Spot.inDir {change : MockEntries → MockEntries} {now : Option (Kind MockLeaf)}
    (spot : Spot gateway path children)
    (kind : ∀ q, (gateway.root.modify change (segments (parentPath path))).kindAt q =
      if q = segments (parentPath path) ++ [baseName path] then now
      else gateway.root.kindAt q) :
    DiffersAt path gateway (gateway.inDir path change) ∧
      (gateway.inDir path change).kindOf path = now := by
  refine ⟨⟨rfl, ?_⟩, ?_⟩
  · intro q apart
    rw [segments_eq_concat spot.inside] at apart
    exact (kind q).trans (if_neg apart)
  · rw [MockGateway.kindOf, segments_eq_concat spot.inside]
    exact (kind _).trans (if_pos rfl)

/-- A leaf put at a path is there, and nothing else changes. -/
theorem Spot.set (spot : Spot gateway path children) (leaf : MockLeaf) :
    DiffersAt path gateway
        (gateway.inDir path fun children => children.set (baseName path) (.leaf leaf)) ∧
      (gateway.inDir path fun children => children.set (baseName path) (.leaf leaf)).kindOf path =
        some (.leaf leaf) := by
  have notFolder := spot.notFolder
  rw [MockGateway.kindOf, segments_eq_concat spot.inside] at notFolder
  exact spot.inDir fun q => Entries.kindAt_modify_set spot.located notFolder

theorem Spot.replace (spot : Spot gateway path children) (leaf : MockLeaf) :
    DiffersAt path gateway (gateway.inDir path fun children =>
        (children.delete (baseName path)).set (baseName path) (.leaf leaf)) ∧
      (gateway.inDir path fun children =>
        (children.delete (baseName path)).set (baseName path) (.leaf leaf)).kindOf path =
        some (.leaf leaf) := by
  have notFolder := spot.notFolder
  rw [MockGateway.kindOf, segments_eq_concat spot.inside] at notFolder
  exact spot.inDir fun q => Entries.kindAt_modify_replace spot.located notFolder

theorem Spot.delete (spot : Spot gateway path children) :
    DiffersAt path gateway
        (gateway.inDir path fun children => children.delete (baseName path)) ∧
      (gateway.inDir path fun children => children.delete (baseName path)).kindOf path = none := by
  have notFolder := spot.notFolder
  rw [MockGateway.kindOf, segments_eq_concat spot.inside] at notFolder
  exact spot.inDir fun q => Entries.kindAt_modify_delete spot.located notFolder

/-- A folder of the tree is changed to one whose entries are still in order. -/
theorem tidy_inDir {change : MockEntries → MockEntries} (tidy : Tidy gateway.root)
    (keeps : ∀ children : MockEntries, Tidy children → Tidy (change children)) :
    Tidy (gateway.inDir path change).root where
  unique := tidy.unique.modify fun children located unique =>
    (keeps children ⟨unique, tidy.entries.folderAt located⟩).unique
  entries := tidy.entries.modify fun children located all =>
    (keeps children ⟨tidy.unique.folderAt located, all⟩).entries

theorem Tidy.set {entries : MockEntries} {name : JsString} (tidy : Tidy entries)
    (piece : IsSegment name) (dated : Dated (.leaf leaf)) :
    Tidy (entries.set name (.leaf leaf)) where
  unique := tidy.unique.set trivial
  entries := by
    apply tidy.entries.set
    · exact ⟨piece, dated⟩
    · trivial

theorem Tidy.delete {entries : MockEntries} {name : JsString} (tidy : Tidy entries) :
    Tidy (entries.delete name) where
  unique := tidy.unique.delete
  entries := tidy.entries.delete

/-! ## Before the body -/

theorem ticked_of_fails {α : Type} {op : JsString} {rest : MockOperation α}
    (fails : gateway.fails op = true) : ticked op rest gateway =
      (.error transientFailure,
        { gateway with
          faults :=
            { gateway.faults with transientFailures := gateway.faults.transientFailures - 1 } }) := by
  have failed : gateway.tick op = (.error transientFailure, _) := if_pos fails
  rw [ticked, failed]

theorem ticked_of_not_fails {α : Type} {op : JsString} {rest : MockOperation α}
    (passes : gateway.fails op = false) : ticked op rest gateway = rest gateway := by
  have passed : gateway.tick op = (.ok (), gateway) := if_neg (ne_true_of_eq_false passes)
  rw [ticked, passed]

/-- Nothing stands in the way of an operation: no failure is set for it, and the session is
good. -/
structure Ready (gateway : MockGateway) : Prop where
  passes : gateway.fails "put" = false
  session : gateway.faults.sessionRevoked = false

/-- An upload that nothing stands in the way of is decided on in its folder. -/
theorem beginPut_ready (ready : Ready gateway) (spot : Spot gateway path children)
    (safe : isSafeSegment (baseName path) = true) :
    beginPut path opts gateway = beginIn (normalize path) opts children gateway := by
  have notRoot : isRoot (normalize path) = false := by
    rw [isRoot_normalize, ← Bool.not_eq_true, isRoot_iff]
    exact spot.inside
  unfold beginPut
  rw [ticked_of_not_fails ready.passes]
  simp only [ready.session, notRoot, baseName_normalize, safe, spot.dirOf_normalize,
    Bool.false_eq_true, if_false, Bool.not_true, Bool.or_self]

/-- A draft of one's own has been put at a path. -/
structure Drafted (path : JsString) (before after : MockGateway) : Prop where
  faults : after.faults = before.faults
  differs : DiffersAt path before after
  tidy : Tidy before.root → Tidy after.root
  there : after.kindOf path = some (.leaf (.draft ⟨before.clientUid, 0⟩))

theorem Spot.drafted (spot : Spot gateway path children) : Drafted path gateway
    (gateway.inDir path fun children => children.set (baseName path) gateway.newDraft) where
  faults := rfl
  differs := (spot.set (.draft ⟨gateway.clientUid, 0⟩)).1
  tidy tidy := tidy_inDir tidy fun _ held => held.set (isSegment_baseName spot.inside) trivial
  there := (spot.set (.draft ⟨gateway.clientUid, 0⟩)).2

theorem Spot.redrafted (spot : Spot gateway path children) : Drafted path gateway
    (gateway.inDir path fun children =>
      (children.delete (baseName path)).set (baseName path) gateway.newDraft) where
  faults := rfl
  differs := (spot.replace (.draft ⟨gateway.clientUid, 0⟩)).1
  tidy tidy :=
    tidy_inDir tidy fun _ held => held.delete.set (isSegment_baseName spot.inside) trivial
  there := (spot.replace (.draft ⟨gateway.clientUid, 0⟩)).2

/-- How an upload can begin. -/
inductive Begun (path : JsString) (opts : PutOptions) (gateway : MockGateway) :
    Except Thrown PutStart × MockGateway → Prop
  | kept (outcome : Except Thrown PutStart) (faults : Faults)
      (notReceiving : ∀ upload, outcome ≠ .ok (.receiving upload)) :
      Begun path opts gateway (outcome, { gateway with faults })
  | revising (existing : MockFile)
      (found : gateway.kindOf path = some (.leaf (.file existing))) :
      Begun path opts gateway (gateway.receiving (normalize path) opts true existing.revisions)
  | drafting (after : MockGateway)
      (noFile : ∀ file, gateway.kindOf path ≠ some (.leaf (.file file)))
      (drafted : Drafted path gateway after) :
      Begun path opts gateway (after.receiving (normalize path) opts false 0)

theorem Begun.failed (error : Thrown) (faults : Faults) :
    Begun path opts gateway (.error error, { gateway with faults }) := by
  apply Begun.kept
  intro upload same
  cases same

theorem begun_in (spot : Spot gateway path children) :
    Begun path opts gateway (beginIn (normalize path) opts children gateway) := by
  have kind := spot.kindOf
  unfold beginIn
  rw [inDir_normalize, inDir_normalize, baseName_normalize]
  cases here : children.get (baseName path) with
  | none =>
      rw [here] at kind
      apply Begun.drafting _ _ spot.drafted
      intro file found
      rw [kind] at found
      cases found
  | some node =>
      rw [here] at kind
      cases node with
      | folder info below => exact absurd kind spot.notFolder
      | leaf leaf =>
          cases leaf with
          | file existing =>
              dsimp only
              split
              · apply Begun.kept _ gateway.faults
                intro upload same
                cases same
              · split
                · exact .failed _ gateway.faults
                · exact .revising existing kind
          | draft existing =>
              dsimp only
              split
              · exact .failed _ gateway.faults
              · apply Begun.drafting _ _ spot.redrafted
                intro file found
                rw [kind] at found
                cases found

theorem begun (spot : Spot gateway path children) :
    Begun path opts gateway (beginPut path opts gateway) := by
  unfold beginPut
  cases fails : gateway.fails "put" with
  | true =>
      rw [ticked_of_fails fails]
      exact .failed _ _
  | false =>
      rw [ticked_of_not_fails fails]
      split
      · exact .failed _ gateway.faults
      · split
        · exact .failed _ gateway.faults
        · rw [spot.dirOf_normalize]
          exact begun_in spot

/-! ## While the body arrives -/

/-- An upload to a path of the store. -/
structure Uploading (gateway : MockGateway) (path : JsString) (upload : Upload) : Prop where
  named : upload.path = normalize path
  parent : gateway.kindOf (parentPath path) = some .folder
  notFolder : gateway.kindOf path ≠ some .folder

variable {upload : Upload}

theorem Uploading.spot (uploading : Uploading gateway path upload) :
    ∃ children, Spot gateway path children :=
  exists_spot uploading.parent uploading.notFolder

/-- What is at a path once `noteReceived` has run. -/
def noted (gateway : MockGateway) (path : JsString) (upload : Upload) : Option (Kind MockLeaf) :=
  if upload.isRevision then gateway.kindOf path
  else some (.leaf (.draft ⟨gateway.clientUid, upload.data.length⟩))

theorem Uploading.noteReceived (uploading : Uploading gateway path upload) :
    DiffersAt path gateway (gateway.noteReceived upload) ∧
      (gateway.noteReceived upload).kindOf path = gateway.noted path upload := by
  rw [MockGateway.noteReceived, noted]
  split
  · exact ⟨.refl, rfl⟩
  · rcases uploading.spot with ⟨children, spot⟩
    rw [uploading.named, inDir_normalize, baseName_normalize]
    exact spot.set (.draft ⟨gateway.clientUid, upload.data.length⟩)

theorem Uploading.tidy (uploading : Uploading gateway path upload) (tidy : Tidy gateway.root) :
    Tidy (gateway.noteReceived upload).root := by
  rw [MockGateway.noteReceived]
  split
  · exact tidy
  · rcases uploading.spot with ⟨children, spot⟩
    rw [uploading.named, inDir_normalize, baseName_normalize]
    exact tidy_inDir tidy fun _ held => held.set (isSegment_baseName spot.inside) trivial

theorem Uploading.remains (uploading : Uploading gateway path upload) :
    Uploading (gateway.noteReceived upload) path upload := by
  rcases uploading.spot with ⟨children, spot⟩
  rcases uploading.noteReceived with ⟨differs, there⟩
  have notFolder : (gateway.noteReceived upload).kindOf path ≠ some .folder := by
    rw [there, noted]
    split
    · exact uploading.notFolder
    · intro same
      cases same
  rcases spot.remains differs notFolder with ⟨children, after⟩
  exact ⟨uploading.named, after.parent, notFolder⟩

/-- No committed file appears or goes while a body arrives. -/
theorem Uploading.fileAt (uploading : Uploading gateway path upload)
    (drafted : upload.isRevision = false → gateway.fileAt path = none) :
    (gateway.noteReceived upload).fileAt path = gateway.fileAt path := by
  rcases uploading.noteReceived with ⟨_, there⟩
  rw [noted] at there
  cases revision : upload.isRevision with
  | true =>
      rw [if_pos revision] at there
      rw [MockGateway.fileAt, MockGateway.fileAt, there]
  | false =>
      rw [if_neg (ne_true_of_eq_false revision)] at there
      rw [drafted revision, MockGateway.fileAt, there]

/-- An upload together with a piece that has just arrived. -/
def Upload.add (upload : Upload) (chunk : Bytes) : Upload :=
  { upload with data := upload.data ++ chunk }

/-- The connection is dropped once so many bytes have arrived. -/
def Upload.dropped (upload : Upload) : Bool :=
  upload.drop.any fun drop => drop ≤ upload.data.length

theorem receiveChunk_eq (chunk : Bytes) : receiveChunk chunk upload gateway =
    (if (upload.add chunk).dropped then
        .error (.gateway (.plain "Simulated connection drop during upload" 599))
      else .ok (upload.add chunk),
      gateway.noteReceived (upload.add chunk)) := by
  change (if (upload.add chunk).dropped = true then _ else _) = _
  split
  · rfl
  · rfl

/-- A body is received to its end, if the connection is not dropped. -/
theorem receive_all {body : BodyStream} {bytes : Bytes} (digest : Bytes → JsString) (now : Date)
    (uploading : Uploading gateway path upload) (complete : body.bytes = some bytes)
    (undropped : ∀ drop, upload.drop = some drop →
      body = .done ∨ (upload.data ++ bytes).length < drop) :
    ∃ after, receive digest now body upload gateway =
        finishPut digest now (upload.add bytes) after ∧
      DiffersAt path gateway after ∧ Uploading after path (upload.add bytes) ∧
      ((upload.isRevision = false → gateway.fileAt path = none) →
        after.fileAt path = gateway.fileAt path) := by
  induction body generalizing upload gateway bytes with
  | done =>
      cases complete
      refine ⟨gateway, ?_, .refl, ⟨uploading.named, uploading.parent, uploading.notFolder⟩,
        fun _ => rfl⟩
      rw [receive, Upload.add, List.append_nil]
  | failed => cases complete
  | value chunk rest induction =>
      rcases Option.map_eq_some_iff.mp complete with ⟨later, finishes, rfl⟩
      have short : ∀ drop, upload.drop = some drop →
          (upload.data ++ (chunk ++ later)).length < drop := by
        intro drop dropping
        rcases undropped drop dropping with none | short
        · cases none
        · exact short
      have arrives : receiveChunk chunk upload gateway =
          (.ok (upload.add chunk), gateway.noteReceived (upload.add chunk)) := by
        rw [receiveChunk_eq, if_neg]
        intro drops
        rcases (Option.any_eq_true _ _).mp drops with ⟨drop, dropping, enough⟩
        have bound := short drop dropping
        have enough : drop ≤ (upload.data ++ chunk).length := of_decide_eq_true enough
        simp only [List.length_append] at bound enough
        omega
      have adding : Uploading gateway path (upload.add chunk) :=
        ⟨uploading.named, uploading.parent, uploading.notFolder⟩
      have assoc : (upload.add chunk).add later = upload.add (chunk ++ later) := by
        rw [Upload.add, Upload.add, Upload.add, List.append_assoc]
      rcases induction adding.remains finishes (by
        intro drop dropping
        rw [Upload.add, List.append_assoc]
        exact .inr (short drop dropping)) with ⟨after, equal, differs, uploading, unseen⟩
      rw [assoc] at equal uploading
      refine ⟨after, ?_, adding.noteReceived.1.trans differs, uploading, ?_⟩
      · unfold receive
        rw [arrives]
        exact equal
      · intro drafted
        have same := adding.fileAt drafted
        rw [← same]
        apply unseen
        intro revision
        rw [same]
        exact drafted revision

/-- A body that breaks off leaves no trace but a draft. -/
theorem receive_broken {body : BodyStream} (digest : Bytes → JsString) (now : Date)
    (uploading : Uploading gateway path upload) (broken : body.bytes = none)
    (undropped : upload.drop = none)
    (drafted : upload.isRevision = false → gateway.fileAt path = none) :
    ∃ after, receive digest now body upload gateway = (.error bodyError, after) ∧
      DiffersAt path gateway after ∧ after.fileAt path = gateway.fileAt path := by
  induction body generalizing upload gateway with
  | done => cases broken
  | failed => exact ⟨gateway, rfl, .refl, rfl⟩
  | value chunk rest induction =>
      have adding : Uploading gateway path (upload.add chunk) :=
        ⟨uploading.named, uploading.parent, uploading.notFolder⟩
      have same := adding.fileAt drafted
      have arrives : receiveChunk chunk upload gateway =
          (.ok (upload.add chunk), gateway.noteReceived (upload.add chunk)) := by
        rw [receiveChunk_eq, Upload.dropped]
        have never : (upload.add chunk).drop = none := undropped
        rw [never]
        rfl
      rcases induction adding.remains (Option.map_eq_none_iff.mp broken) undropped (by
        intro revision
        rw [same]
        exact drafted revision) with ⟨after, equal, differs, unseen⟩
      refine ⟨after, ?_, adding.noteReceived.1.trans differs, unseen.trans same⟩
      unfold receive
      rw [arrives]
      exact equal

/-- What is known of a body ahead of it agrees with the body. -/
structure Right (digest : Bytes → JsString) (opts : PutOptions) (bytes : Bytes) : Prop where
  size : ∀ size, opts.size = some size → size = bytes.length
  sha1 : ∀ sha1, truthy opts.sha1 = some sha1 → sha1 = digest bytes

/-- A body that agrees with what is known of it is committed. -/
theorem finishPut_right (digest : Bytes → JsString) (now : Date)
    (uploading : Uploading gateway path upload) (right : Right digest upload.opts upload.data) :
    ∃ after, finishPut digest now upload gateway =
        (.ok (if upload.isRevision then .updated else .created), after) ∧
      DiffersAt path gateway after ∧
      after.kindOf path = some (.leaf (.file (committed digest now upload))) := by
  have sized : upload.opts.size.filter (· ≠ (upload.data.length : Int)) = none := by
    rw [Option.filter_eq_none_iff]
    intro size known different
    exact of_decide_eq_true different (right.size size known)
  have digested : (truthy upload.opts.sha1).filter (· ≠ digest upload.data) = none := by
    rw [Option.filter_eq_none_iff]
    intro sha1 known different
    exact of_decide_eq_true different (right.sha1 sha1 known)
  rcases uploading.spot with ⟨children, spot⟩
  rcases spot.set (.file (committed digest now upload)) with ⟨differs, there⟩
  have same : finishPut digest now upload gateway =
      (.ok (if upload.isRevision then .updated else .created),
        { gateway.inDir path fun children =>
            children.set (baseName path) (.leaf (.file (committed digest now upload))) with
          usedBytes := gateway.usedBytes + upload.data.length }) := by
    unfold finishPut
    rw [sized, digested, uploading.named]
    dsimp only
    rw [inDir_normalize, baseName_normalize]
    rfl
  exact ⟨_, same, ⟨differs.clientUid, differs.elsewhere⟩, there⟩

end MockGateway

end DriveWebdav
