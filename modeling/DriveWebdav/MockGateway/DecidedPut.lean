import DriveWebdav.MockGateway.Upload
import DriveWebdav.PutDecision
import Mathlib.Logic.Function.Basic

/-! # Uploads to the gateway in memory

With no fault set, an upload comes to what the decision on it says. -/

namespace DriveWebdav

namespace MockGateway

variable {gateway before after : MockGateway} {path : JsString} {opts : PutOptions}
  {body : BodyStream} {digest : Bytes → JsString} {now : Date} {children : MockEntries}

def files (gateway : MockGateway) : CommittedFiles := fun q =>
  match gateway.root.kindAt q with
  | some (.leaf (.file file)) => some file.data
  | _ => none

theorem files_segments : gateway.files (segments path) =
    (gateway.fileAt path).map MockFile.data := by
  rw [files, fileAt, kindOf]
  rcases gateway.root.kindAt (segments path) with _ | (file | draft) | _
  · rfl
  · rfl
  · rfl
  · rfl

theorem DiffersAt.files (differs : DiffersAt path before after) :
    after.files = Function.update before.files (segments path)
      ((after.fileAt path).map MockFile.data) := by
  funext q
  by_cases here : q = segments path
  · rw [here, Function.update_self, files_segments]
  · rw [Function.update_of_ne here, MockGateway.files, MockGateway.files, differs.elsewhere q here]

theorem DiffersAt.same_files (differs : DiffersAt path before after)
    (same : after.fileAt path = before.fileAt path) : after.files = before.files := by
  rw [differs.files, same, ← files_segments, Function.update_eq_self]

/-- What an upload takes the node at its path for. -/
def slotOf (gateway : MockGateway) (path : JsString) (opts : PutOptions) :
    Option (Kind MockLeaf) → PutSlot
  | none => .free
  | some .folder => .collection
  | some (.leaf (.file file)) => .file (some file.data.length) (some file.sha1)
  | some (.leaf (.draft draft)) =>
      if draft.clientUid ≠ gateway.clientUid &&
          opts.overrideOtherClientDraftForPath ≠ some path then .blocked
      else .free

/-- What an upload finds in the tree. -/
def putSlot (gateway : MockGateway) (path : JsString) (opts : PutOptions) : PutSlot :=
  if gateway.kindOf (parentPath path) = some .folder then
    gateway.slotOf path opts (gateway.kindOf path)
  else .noFolder

/-- How an upload ends, and what it leaves. -/
structure Ends (before : MockGateway) (path : JsString) (verdict : PutVerdict)
    (ended : Except Thrown PutResult × MockGateway) : Prop where
  shows : verdict.Shows ended.1
  broken : verdict = .broken → ended.1 = .error bodyError
  files : ended.2.files = verdict.leaves (segments path) before.files

/-- An upload whose body is not read changes nothing. -/
theorem ends_kept {ended : Except Thrown PutResult × MockGateway}
    {outcome : Except Thrown PutResult} {verdict : PutVerdict} (same : ended = (outcome, before))
    (shows : verdict.Shows outcome) (decided : verdict ≠ .broken)
    (nothing : ∀ isRevision bytes, verdict ≠ .stored isRevision bytes) :
    Ends before path verdict ended where
  shows := by
    rw [same]
    exact shows
  broken broken := absurd broken decided
  files := by
    rw [same]
    cases verdict with
    | stored isRevision bytes => exact absurd rfl (nothing isRevision bytes)
    | refused status => rfl
    | skipped => rfl
    | broken => rfl

theorem ends_refused {ended : Except Thrown PutResult × MockGateway} {error : GatewayError}
    (same : ended = (.error (.gateway error), before)) :
    Ends before path (.refused error.httpStatus) ended := by
  apply ends_kept same
  · rfl
  · intro broken
    cases broken
  · intro isRevision bytes stored
    cases stored

/-! ## The body -/

theorem finishPut_fits (now : Date) {upload : Upload} (uploading : Uploading gateway path upload)
    (fits : upload.opts.fits digest upload.data = true) :
    ∃ after, finishPut digest now upload gateway =
        (.ok (if upload.isRevision then .updated else .created), after) ∧
      DiffersAt path gateway after ∧
      after.kindOf path = some (.leaf (.file (committed digest now upload))) := by
  rcases Bool.and_eq_true_iff.mp fits with ⟨size, sha1⟩
  apply finishPut_right digest now uploading
  constructor
  · intro expected known
    exact of_decide_eq_true ((Option.all_eq_true _ _).mp size expected known)
  · intro expected known
    exact of_decide_eq_true ((Option.all_eq_true _ _).mp sha1 expected known)

/-- A body that is not what it was said to be is refused, and no file changes. -/
theorem finishPut_misfits (now : Date) {upload : Upload} (uploading : Uploading gateway path upload)
    (drafted : upload.isRevision = false → gateway.fileAt path = none)
    (misfits : upload.opts.fits digest upload.data = false) :
    ∃ message after, finishPut digest now upload gateway =
        (.error (.gateway (.integrityFailed message)), after) ∧
      after.files = gateway.files := by
  unfold finishPut
  cases size : upload.opts.size.filter (· ≠ (upload.data.length : Int)) with
  | some expected => exact ⟨_, gateway, rfl, rfl⟩
  | none =>
      cases sha1 : (truthy upload.opts.sha1).filter (· ≠ digest upload.data) with
      | some expected =>
          refine ⟨_, _, rfl, ?_⟩
          cases revision : upload.isRevision with
          | true => rfl
          | false =>
              rcases uploading.spot with ⟨children, spot⟩
              rcases spot.delete with ⟨differs, gone⟩
              rw [if_neg (ne_true_of_eq_false rfl), uploading.named, inDir_normalize,
                baseName_normalize]
              apply differs.same_files
              rw [drafted revision, fileAt, gone]
      | none =>
          rw [Option.filter_eq_none_iff] at size sha1
          have fits : upload.opts.fits digest upload.data = true := by
            rw [PutOptions.fits, Bool.and_eq_true, Option.all_eq_true, Option.all_eq_true]
            constructor
            · intro expected known
              apply decide_eq_true
              by_contra different
              exact size expected known (decide_eq_true different)
            · intro expected known
              apply decide_eq_true
              by_contra different
              exact sha1 expected known (decide_eq_true different)
          rw [fits] at misfits
          cases misfits

/-- The body of an upload that has begun is judged by what arrives of it. -/
theorem ends_receiving {isRevision : Bool} {revisions : Nat} (calm : before.faults = .none)
    (begins : beginPut path opts before =
      gateway.receiving (normalize path) opts isRevision revisions)
    (faults : gateway.faults = before.faults) (opened : ∃ children, Spot gateway path children)
    (differs : DiffersAt path before gateway) (same : gateway.fileAt path = before.fileAt path)
    (drafted : isRevision = false → before.fileAt path = none) :
    Ends before path (judgeBody digest opts body isRevision)
      (put digest now path body opts before) := by
  rcases opened with ⟨children, spot⟩
  have uploading : Uploading
      { gateway with faults := { gateway.faults with dropPutAfterBytes := none } } path
      ⟨normalize path, opts, isRevision, revisions, gateway.faults.dropPutAfterBytes, []⟩ :=
    ⟨rfl, spot.parent, spot.notFolder⟩
  have noDrop : gateway.faults.dropPutAfterBytes = none := by rw [faults, calm]; rfl
  have free : isRevision = false → gateway.fileAt path = none := by
    intro revision
    rw [same]
    exact drafted revision
  have starts : before.files = gateway.files := (differs.same_files same).symm
  have receives : put digest now path body opts before =
      receive digest now body ⟨normalize path, opts, isRevision, revisions,
        gateway.faults.dropPutAfterBytes, []⟩
        { gateway with faults := { gateway.faults with dropPutAfterBytes := none } } := by
    rw [put, begins]
    rfl
  rw [receives]
  cases whole : body.bytes with
  | none =>
      have judged : judgeBody digest opts body isRevision = .broken := by rw [judgeBody, whole]
      rcases receive_broken digest now uploading whole noDrop free with
        ⟨after, equal, differsAfter, sameAfter⟩
      rw [equal, judged]
      refine ⟨trivial, fun _ => rfl, ?_⟩
      rw [starts]
      exact differsAfter.same_files sameAfter
  | some bytes =>
      rcases receive_all digest now uploading whole (by
          intro drop dropping
          have dropping : gateway.faults.dropPutAfterBytes = some drop := dropping
          rw [noDrop] at dropping
          cases dropping) with ⟨received, equal, differsReceived, arrived, unseen⟩
      have sameReceived := unseen free
      have filesReceived : received.files = gateway.files :=
        differsReceived.same_files sameReceived
      rw [equal]
      cases fits : opts.fits digest bytes with
      | true =>
          rcases finishPut_fits now arrived fits with
            ⟨after, finished, differsAfter, there⟩
          have judged : judgeBody digest opts body isRevision = .stored isRevision bytes := by
            rw [judgeBody, whole]
            exact if_pos fits
          rw [finished, judged]
          refine ⟨rfl, ?_, ?_⟩
          · intro broken
            cases broken
          change after.files = Function.update before.files (segments path) (some bytes)
          rw [differsAfter.files, filesReceived, starts, fileAt, there]
          rfl
      | false =>
          have free : isRevision = false → received.fileAt path = none := by
            intro revision
            rw [sameReceived]
            exact free revision
          rcases finishPut_misfits now arrived free fits with
            ⟨message, after, finished, filesAfter⟩
          have judged : judgeBody digest opts body isRevision = .refused 422 := by
            rw [judgeBody, whole]
            exact if_neg (ne_true_of_eq_false fits)
          rw [finished, judged]
          refine ⟨rfl, ?_, ?_⟩
          · intro broken
            cases broken
          change after.files = before.files
          rw [filesAfter, filesReceived, starts]

theorem ends_drafting (calm : before.faults = .none) (spot : Spot before path children)
    (drafted : Drafted path before gateway)
    (begins : beginPut path opts before = gateway.receiving (normalize path) opts false 0)
    (free : before.fileAt path = none) :
    Ends before path (judgeBody digest opts body false) (put digest now path body opts before) := by
  apply ends_receiving calm begins drafted.faults
  · apply spot.remains drafted.differs
    rw [drafted.there]
    intro folder
    cases folder
  · exact drafted.differs
  · rw [free, fileAt, drafted.there]
  · exact fun _ => free

/-! ## The decision -/

theorem dirOf_eq_error (noFolder : gateway.kindOf (parentPath path) ≠ some .folder) :
    ∃ message, gateway.dirOf path = .error (.gateway (.conflict message)) := by
  have kind : (gateway.rootNode.lookup (segments (parentPath path))).map Node.kind =
      gateway.kindOf (parentPath path) := Entries.kind_lookup _
  rw [← kind] at noFolder
  rw [dirOf, lookup]
  cases found : gateway.rootNode.lookup (segments (parentPath path)) with
  | none => exact ⟨_, rfl⟩
  | some node =>
      rw [found] at noFolder
      cases node with
      | folder info below => exact absurd rfl noFolder
      | leaf leaf =>
          cases leaf with
          | file file => exact ⟨_, rfl⟩
          | draft draft => exact ⟨_, rfl⟩

/-- An upload with no fault set is decided on in its folder. -/
theorem beginPut_calm (calm : before.faults = .none) (inside : segments path ≠ [])
    (safe : isSafeSegment (baseName path) = true) (normal : normalize path = path) :
    beginPut path opts before =
      match before.dirOf path with
      | .error error => (.error error, before)
      | .ok children => beginIn path opts children before := by
  have passes : before.fails "put" = false := by rw [fails, calm]; rfl
  have session : before.faults.sessionRevoked = false := by rw [calm]; rfl
  have notRoot : isRoot path = false := by
    rw [← Bool.not_eq_true, isRoot_iff]
    exact inside
  unfold beginPut
  rw [ticked_of_not_fails passes, normal]
  cases before.dirOf path with
  | error error =>
      simp only [session, notRoot, safe, Bool.false_eq_true, if_false, Bool.not_true, Bool.or_self]
  | ok children =>
      simp only [session, notRoot, safe, Bool.false_eq_true, if_false, Bool.not_true, Bool.or_self]

theorem dirOf_of_located (located : gateway.root.folderAt (segments (parentPath path)) =
    some children) : gateway.dirOf path = .ok children := by
  rcases Entries.lookup_eq_folder.mpr located with ⟨info, found⟩
  rw [dirOf, lookup, rootNode, found]

theorem kindOf_of_located (inside : segments path ≠ [])
    (located : gateway.root.folderAt (segments (parentPath path)) = some children) :
    gateway.kindOf path = (children.get (baseName path)).map Node.kind := by
  rw [kindOf, segments_eq_concat inside, Entries.kindAt_append located, Entries.kindAt_singleton]

/-- With no fault set, a file reports its own digest. -/
theorem isIdentical_calm (calm : gateway.faults = .none) (existing : MockFile) :
    gateway.isIdentical path opts existing =
      opts.names (some existing.data.length) (some existing.sha1) := by
  have reported : gateway.reportedSha1 path existing = existing.sha1 := by
    rw [reportedSha1, calm]
    rfl
  rw [isIdentical, PutOptions.names, reported]
  congr 2
  exact decide_eq_decide.mpr eq_comm

/-- The upload is decided on as its slot says. -/
theorem ends_begun (calm : before.faults = .none) (inside : segments path ≠ [])
    (normal : normalize path = path)
    (located : before.root.folderAt (segments (parentPath path)) = some children)
    (begins : beginPut path opts before = beginIn path opts children before) :
    Ends before path ((before.slotOf path opts (before.kindOf path)).verdict digest opts body)
      (put digest now path body opts before) := by
  have kind := kindOf_of_located inside located
  have spotted : before.kindOf path ≠ some .folder → Spot before path children :=
    fun notFolder => ⟨inside, located, notFolder⟩
  have put_of_error : ∀ {error : Thrown}, beginPut path opts before = (.error error, before) →
      put digest now path body opts before = (.error error, before) := by
    intro error begun
    rw [put, begun]
  unfold beginIn at begins
  cases here : children.get (baseName path) with
  | none =>
      rw [here] at kind begins
      have spot : Spot before path children := by
        apply spotted
        rw [kind]
        intro folder
        cases folder
      rw [kind]
      apply ends_drafting calm spot spot.drafted
      · rw [normal]
        exact begins
      · rw [fileAt, kind]
        rfl
  | some node =>
      rw [here] at kind begins
      rw [kind]
      cases node with
      | folder info below => exact ends_refused (put_of_error begins)
      | leaf leaf =>
          have spot : Spot before path children := by
            apply spotted
            rw [kind]
            intro folder
            cases folder
          cases leaf with
          | file existing =>
              dsimp only at begins
              rw [isIdentical_calm calm] at begins
              change Ends before path (if opts.names _ _ then _ else _) _
              split
              · next identical =>
                  rw [if_pos identical] at begins
                  have skips : put digest now path body opts before =
                      (.ok .skippedIdentical, before) := by
                    rw [put, begins]
                  apply ends_kept skips
                  · rfl
                  · intro broken
                    cases broken
                  · intro isRevision bytes stored
                    cases stored
              · next different =>
                  rw [if_neg different] at begins
                  split
                  · next immutable =>
                      rw [if_pos immutable] at begins
                      exact ends_refused (put_of_error begins)
                  · next mutable =>
                      rw [if_neg mutable] at begins
                      have revises : beginPut path opts before =
                          before.receiving (normalize path) opts true existing.revisions := by
                        rw [normal]
                        exact begins
                      apply ends_receiving calm revises rfl ⟨children, spot⟩ .refl rfl
                      intro revision
                      cases revision
          | draft existing =>
              change Ends before path (PutSlot.verdict digest opts body (if _ then _ else _)) _
              split
              · next foreign =>
                  exact ends_refused (put_of_error (begins.trans (if_pos foreign)))
              · next replaceable =>
                  apply ends_drafting calm spot spot.redrafted
                  · rw [normal]
                    exact begins.trans (if_neg replaceable)
                  · rw [fileAt, kind]
                    rfl

/-- An upload with no fault set comes to what the decision on it says. -/
theorem put_decided (calm : before.faults = .none) (inside : segments path ≠ [])
    (safe : isSafeSegment (baseName path) = true) (normal : normalize path = path) :
    Ends before path ((before.putSlot path opts).verdict digest opts body)
      (put digest now path body opts before) := by
  have begins : beginPut path opts before = _ := beginPut_calm calm inside safe normal
  by_cases parent : before.kindOf (parentPath path) = some .folder
  · have slotted : before.putSlot path opts = before.slotOf path opts (before.kindOf path) :=
      if_pos parent
    rcases Entries.folderAt_of_kindAt parent with ⟨children, located⟩
    rw [dirOf_of_located located] at begins
    rw [slotted]
    exact ends_begun calm inside normal located begins
  · have slotted : before.putSlot path opts = .noFolder := if_neg parent
    rcases dirOf_eq_error parent with ⟨message, missing⟩
    rw [missing] at begins
    have refused : put digest now path body opts before =
        (.error (.gateway (.conflict message)), before) := by
      rw [put, begins]
    rw [slotted]
    exact ends_refused refused

end MockGateway

end DriveWebdav
