import DriveWebdav.SdkGateway.Double

/-! # Uploads to the double

An upload through the gateway of the SDK, in a plain tree that the double holds, comes to what
the decision on it says. -/

namespace DriveWebdav

namespace SdkDouble

variable {platform : Platform} {now : Date} {drive : Drive} {world reached : ServiceWorld}
  {p path : JsString} {parent : NodeEntity} {body : BodyStream} {opts : PutOptions}

/-- What an upload takes the node at its path for. -/
def slotOf (drive : Drive) (path : JsString) (opts : PutOptions) : Option NodeEntity → PutSlot
  | none => .free
  | some node =>
      if node.type = .folder then .collection
      else
        match node.activeRevision with
        | some revision =>
            .file revision.claimedSize (revision.claimedSha1.map JsString.toLowerCase)
        | none =>
            if (drive.nodes.get node.uid).any (·.ownDraft) ||
                opts.overrideOtherClientDraftForPath = some path then .free
            else .blocked

/-- What an upload finds in the tree. -/
def putSlot (platform : Platform) (drive : Drive) (path : JsString) (opts : PutOptions) : PutSlot :=
  match drive.nodeAt platform (parentPath path) false with
  | none => .noFolder
  | some parent =>
      if parent.type ≠ .folder then .noFolder
      else slotOf drive path opts (drive.nodeAt platform path true)

/-! ## The transfer -/

/-- What the upload of a body makes of the tree. -/
def transferred (platform : Platform) (now : Date) (drive : Drive) (uploader : Uploader) :
    PutVerdict → Drive
  | .stored _ bytes => commit platform now drive bytes uploader
  | _ => drive

theorem completion_fits {uploader : Uploader} {bytes : Bytes}
    (metadata : metadataOf uploader = putMetadata platform p opts)
    (fits : opts.fits platform.sha1 bytes = true) :
    completion platform now drive uploader bytes =
      (.ok (), commit platform now drive bytes uploader) := by
  rcases Bool.and_eq_true_iff.mp fits with ⟨size, sha1⟩
  rw [completion, metadata, if_neg, if_neg]
  · intro differs
    rcases (Option.any_eq_true _ _).mp differs with ⟨expected, known, different⟩
    have same := (Option.all_eq_true _ _).mp size expected known
    exact of_decide_eq_true different (of_decide_eq_true same)
  · intro differs
    rcases (Option.any_eq_true _ _).mp differs with ⟨expected, known, different⟩
    have same := (Option.all_eq_true _ _).mp sha1 expected known
    exact of_decide_eq_true different (of_decide_eq_true same)

theorem completion_misfits (now : Date) (drive : Drive) {uploader : Uploader} {bytes : Bytes}
    (metadata : metadataOf uploader = putMetadata platform p opts)
    (misfits : opts.fits platform.sha1 bytes = false) : ∃ message,
    completion platform now drive uploader bytes = (.error (.sdk ⟨.integrity, message⟩), drive) := by
  rw [completion, metadata]
  split
  · exact ⟨_, rfl⟩
  · next sha1 =>
      split
      · exact ⟨_, rfl⟩
      · next size =>
          rw [Option.any_eq_true] at sha1 size
          have fits : opts.fits platform.sha1 bytes = true := by
            rw [PutOptions.fits, Bool.and_eq_true, Option.all_eq_true, Option.all_eq_true]
            constructor
            · intro expected known
              apply decide_eq_true
              by_contra different
              exact size ⟨expected, known, decide_eq_true different⟩
            · intro expected known
              apply decide_eq_true
              by_contra different
              exact sha1 ⟨expected, known, decide_eq_true different⟩
          rw [fits] at misfits
          cases misfits

theorem run_refusePut {α : Type} (error : GatewayError) (world : ServiceWorld) :
    run platform now (refusePut error : SdkOperation α) world = (.error (.gateway error), world) :=
  rfl

/-- The transfer ends as the judgement of the body says. -/
theorem run_upload (body : BodyStream) {revisionOfUid : Option Uid} {uploader : Uploader}
    (requested : run platform now (requestUploader platform p parent revisionOfUid opts) world =
      (.ok uploader, reached))
    (metadata : metadataOf uploader = putMetadata platform p opts) :
    ∃ outcome final, run platform now (upload platform p parent revisionOfUid body opts) world =
        (outcome, final) ∧
      (judgeBody platform.sha1 opts body revisionOfUid.isSome).Shows outcome ∧
      (body.bytes = none → outcome = .error (mapUploadError platform p bodyError)) ∧
      final.remote = transferred platform now reached.remote uploader
        (judgeBody platform.sha1 opts body revisionOfUid.isSome) := by
  rw [run] at requested ⊢
  rw [upload, Program.run_tryCatch, Program.run_bind, requested]
  dsimp only
  rw [Program.run_bind, Program.run_request, judgeBody]
  cases whole : body.bytes with
  | none =>
      have streamed : respond platform now reached (.uploadFromStream uploader (ownedStream body)) =
          (.error bodyError, reached) := by
        rw [respond, answer, bytes_ownedStream, whole]
        rfl
      rw [streamed]
      exact ⟨_, _, rfl, trivial, fun _ => rfl, rfl⟩
  | some bytes =>
      have streamed : respond platform now reached (.uploadFromStream uploader (ownedStream body)) =
          (.ok ⟨uploader, ownedStream body⟩, reached) := by
        rw [respond, answer, bytes_ownedStream, whole]
        rfl
      have completing : respond platform now reached (.completion ⟨uploader, ownedStream body⟩) =
          ((completion platform now reached.remote uploader bytes).1,
            ⟨reached.memory, (completion platform now reached.remote uploader bytes).2⟩) := by
        rw [respond, answer, bytes_ownedStream, whole]
      rw [streamed]
      dsimp only
      rw [Program.run_bind, Program.run_request, completing]
      cases fits : opts.fits platform.sha1 bytes with
      | true =>
          rw [completion_fits metadata fits]
          refine ⟨_, _, rfl, rfl, ?_, rfl⟩
          intro broken
          cases broken
      | false =>
          rcases completion_misfits now reached.remote metadata fits with
            ⟨message, equal⟩
          rw [equal]
          refine ⟨_, _, rfl, rfl, ?_, rfl⟩
          intro broken
          cases broken

/-! ## The tree -/

/-- What is found in the folder of a path under its name is what the path leads to. -/
theorem find?_eq_nodeAt (plain : drive.Plain platform) (inside : segments p ≠ [])
    (safe : (segments p).all isSafeSegment = true) {folder : Uid}
    (lies : Drive.FolderAt platform drive (segments (parentPath p)) folder) :
    (drive.children platform folder).find? (fun child => platform.getName child = baseName p) =
      drive.nodeAt platform p true := by
  rw [Drive.nodeAt, if_pos safe, segments_eq_concat inside, List.reverse_concat]
  apply Option.ext
  intro node
  rw [Drive.visit_cons_eq_some, List.reverse_reverse]
  constructor
  · intro found
    rcases plain.find?_eq_some.mp found with ⟨stored, located, same, _⟩
    refine ⟨folder, lies, found, fun _ => rfl, ?_⟩
    rw [← same]
    exact plain.untrashed _ _ located
  · intro found
    rcases found with ⟨other, liesToo, found, _⟩
    rw [lies.unique liesToo]
    exact found

/-- The tree once a file has been added where nothing is. -/
theorem changesAt_add (platform : Platform) (folder : Uid) (name : JsString)
    (revision : Revision) (bytes : Bytes)
    (moment : Date)
    (free : ∀ uid stored, drive.nodes.get uid = some stored → ¬stored.IsAt platform folder name) :
    drive.ChangesAt platform folder name
      (drive.add (Drive.newFile folder name revision bytes moment)) := by
  have fresh := drive.newUid_fresh
  apply Drive.changesAt_of_get drive.newUid
    (some (Drive.newFile folder name revision bytes moment))
  · rfl
  · intro other
    rw [Drive.add]
    split
    · next same => rw [same, InsertionMap.get_set_self]
    · next different => rw [InsertionMap.get_set_of_ne _ _ different]
  · intro other stored located there
    exact absurd there (free other stored located)
  · intro stored located
    rw [fresh] at located
    cases located
  · intro stored same
    cases same
    refine ⟨⟨rfl, platform.showName_ok _ rfl⟩, ?_, rfl⟩
    intro folder
    cases folder

theorem changesAt_delete (plain : drive.Plain platform) {folder uid : Uid} {name : JsString}
    {stored : DriveNode} (located : drive.nodes.get uid = some stored)
    (there : stored.IsAt platform folder name) (noFolder : stored.type ≠ .folder) :
    drive.ChangesAt platform folder name (drive.delete uid) := by
  apply Drive.changesAt_of_get uid none
  · rfl
  · intro other
    rw [Drive.delete]
    split
    · next same => rw [same, InsertionMap.get_delete_self]
    · next different => rw [InsertionMap.get_delete_of_ne _ different]
  · intro other otherStored otherLocated otherThere
    exact plain.unique folder name _ _ _ _ otherLocated otherThere located there
  · intro otherStored otherLocated
    rw [located] at otherLocated
    cases otherLocated
    exact ⟨there, noFolder⟩
  · intro otherStored same
    cases same

theorem changesAt_revise (plain : drive.Plain platform) {folder uid : Uid} {name : JsString}
    {stored : DriveNode} (revision : Revision) (bytes : Bytes)
    (located : drive.nodes.get uid = some stored)
    (there : stored.IsAt platform folder name) (noFolder : stored.type ≠ .folder) :
    drive.ChangesAt platform folder name (drive.revise uid revision bytes) := by
  apply Drive.changesAt_of_get uid
    (some { stored with activeRevision := some revision, bytes := bytes })
  · rfl
  · intro other
    split
    · next same => rw [same, Drive.get_revise revision bytes located]
    · next different =>
        rw [Drive.revise, InsertionMap.get_mapValues]
        cases drive.nodes.get other with
        | none => rfl
        | some node => exact congrArg some (if_neg different)
  · intro other otherStored otherLocated otherThere
    exact plain.unique folder name _ _ _ _ otherLocated otherThere located there
  · intro otherStored otherLocated
    rw [located] at otherLocated
    cases otherLocated
    exact ⟨there, noFolder⟩
  · intro otherStored same
    cases same
    exact ⟨there, noFolder, plain.untrashed uid stored located⟩

/-- A node lies in a folder under a name. -/
def Holds (platform : Platform) (drive : Drive) (folder : Uid) (name : JsString) (uid : Uid)
    (stored : DriveNode) : Prop :=
  drive.nodes.get uid = some stored ∧ stored.IsAt platform folder name

section Files

variable {folder uid : Uid} {segs : List JsString} {name : JsString} {stored : DriveNode}

/-- A new file is committed where nothing was. -/
theorem files_add (plain : drive.Plain platform) (lies : drive.FolderAt platform segs folder)
    (free : ∀ uid stored, ¬Holds platform drive folder name uid stored)
    (metadata : UploadMetadata) (verdict : PutVerdict) :
    (transferred platform now drive (.file folder name metadata) verdict).fileAt platform =
      verdict.leaves (segs ++ [name]) (drive.fileAt platform) := by
  cases verdict with
  | stored isRevision bytes =>
      have changes := changesAt_add platform folder name
        (revisionOf platform metadata bytes addedAt) bytes
        (metadata.modificationTime.getD addedAt)
        fun uid stored located there => free uid stored ⟨located, there⟩
      have here := (changes.plain plain).fileAt_eq_some
        ((changes.folderAt_iff plain folder).mpr lies)
        (InsertionMap.get_set_self _ _ _) ⟨rfl, platform.showName_ok _ rfl⟩ rfl
        (Option.some_ne_none _)
      exact (changes.files plain lies).trans (congrArg _ here)
  | refused status => rfl
  | skipped => rfl
  | broken => rfl

/-- A committed file gets a new revision. -/
theorem files_revise (plain : drive.Plain platform) (lies : drive.FolderAt platform segs folder)
    (holds : Holds platform drive folder name uid stored) (isFile : stored.type = .file)
    (metadata : UploadMetadata) (verdict : PutVerdict) :
    (transferred platform now drive (.revision uid metadata) verdict).fileAt platform =
      verdict.leaves (segs ++ [name]) (drive.fileAt platform) := by
  cases verdict with
  | stored isRevision bytes =>
      have noFolder : stored.type ≠ .folder := by
        rw [isFile]
        intro same
        cases same
      have changes := changesAt_revise plain (revisionOf platform metadata bytes now) bytes
        holds.1 holds.2 noFolder
      have here := (changes.plain plain).fileAt_eq_some
        ((changes.folderAt_iff plain folder).mpr lies) (Drive.get_revise _ bytes holds.1)
        holds.2 isFile (Option.some_ne_none _)
      exact (changes.files plain lies).trans (congrArg _ here)
  | refused status => rfl
  | skipped => rfl
  | broken => rfl

/-- Of one name there was one node. -/
theorem deleted (plain : drive.Plain platform) (holds : Holds platform drive folder name uid stored)
    (other : Uid) (otherStored : DriveNode) :
    ¬Holds platform (drive.delete uid) folder name other otherStored := by
  intro held
  have located := InsertionMap.get_of_get_delete held.1
  have same := plain.unique folder name _ _ _ _ located held.2 holds.1 holds.2
  have gone := held.1
  rw [same, Drive.delete, InsertionMap.get_delete_self] at gone
  cases gone

/-- Deleting a draft takes no committed file away. -/
theorem files_delete (plain : drive.Plain platform) (lies : drive.FolderAt platform segs folder)
    (holds : Holds platform drive folder name uid stored) (isFile : stored.type = .file)
    (draft : stored.activeRevision = none) :
    (drive.delete uid).fileAt platform = drive.fileAt platform := by
  have noFolder : stored.type ≠ .folder := by
    rw [isFile]
    intro same
    cases same
  have changes := changesAt_delete plain holds.1 holds.2 noFolder
  have before : drive.fileAt platform (segs ++ [name]) = none := by
    apply plain.fileAt_eq_none lies
    intro other otherStored located there _
    rw [plain.unique folder name _ _ _ _ located there holds.1 holds.2, holds.1] at located
    cases located
    exact draft
  have after : (drive.delete uid).fileAt platform (segs ++ [name]) = none := by
    apply (changes.plain plain).fileAt_eq_none ((changes.folderAt_iff plain folder).mpr lies)
    intro other otherStored located there _
    exact absurd ⟨located, there⟩ (deleted plain holds other otherStored)
  rw [changes.files plain lies, after, ← before, Function.update_eq_self]

end Files

/-! ## The decision -/

/-- An upload to a plain tree that its path can address. -/
structure Ready (platform : Platform) (drive : Drive) (p : JsString) (opts : PutOptions) :
    Prop where
  plain : drive.Plain platform
  inside : segments p ≠ []
  safe : (segments p).all isSafeSegment = true
  digest : (truthy opts.sha1).all isSha1 = true
  typed : ∀ node, drive.nodeAt platform p true = some node → node.type ≠ .other

/-- How an upload ends, and what it leaves. -/
structure Ends (platform : Platform) (drive : Drive) (p : JsString) (body : BodyStream)
    (verdict : PutVerdict) (outcome : Except Thrown PutResult) (final : ServiceWorld) : Prop where
  shows : verdict.Shows outcome
  broken : verdict = .broken → outcome = .error (mapUploadError platform p bodyError)
  files : final.remote.fileAt platform = verdict.leaves (segments p) (drive.fileAt platform)

theorem bytes_of_broken {digest : Bytes → JsString} {isRevision : Bool}
    (broken : judgeBody digest opts body isRevision = .broken) : body.bytes = none := by
  unfold judgeBody at broken
  split at broken
  · next none => exact none
  · split at broken
    · cases broken
    · cases broken

/-- A new file is uploaded where nothing committed is. -/
theorem ends_add {changed : Drive} (inside : segments p ≠ []) (plain : changed.Plain platform)
    (lies : changed.FolderAt platform (segments (parentPath p)) parent.uid)
    (free : ∀ uid stored, ¬Holds platform changed parent.uid (baseName p) uid stored)
    (files : changed.fileAt platform = drive.fileAt platform)
    (requested : getFileUploader platform world.remote parent.uid (baseName p)
      (putMetadata platform p opts) =
        (.ok (.file parent.uid (baseName p) (putMetadata platform p opts)), changed)) :
    ∃ outcome final, run platform now (upload platform p parent none body opts) world =
        (outcome, final) ∧
      Ends platform drive p body (judgeBody platform.sha1 opts body false) outcome final := by
  have uploader : run platform now (requestUploader platform p parent none opts) world =
      (.ok (.file parent.uid (baseName p) (putMetadata platform p opts)),
        ⟨world.memory, changed⟩) := by
    rw [run, requestUploader, Program.run_request, respond, answer, requested]
  rcases run_upload body uploader rfl with
    ⟨outcome, final, equal, shows, broken, remote⟩
  refine ⟨outcome, final, equal, shows, fun verdict => broken (bytes_of_broken verdict), ?_⟩
  rw [remote, ← files, segments_eq_concat inside]
  exact files_add plain lies free _ _

/-- A committed file is uploaded anew. -/
theorem ends_revise {uid : Uid} {stored : DriveNode} (inside : segments p ≠ [])
    (same : world.remote = drive) (plain : drive.Plain platform) {folder : Uid}
    (lies : drive.FolderAt platform (segments (parentPath p)) folder)
    (holds : Holds platform drive folder (baseName p) uid stored) (isFile : stored.type = .file) :
    ∃ outcome final, run platform now (upload platform p parent (some uid) body opts) world =
        (outcome, final) ∧
      Ends platform drive p body (judgeBody platform.sha1 opts body true) outcome final := by
  have uploader : run platform now (requestUploader platform p parent (some uid) opts) world =
      (.ok (.revision uid (putMetadata platform p opts)), world) := rfl
  rcases run_upload body uploader rfl with
    ⟨outcome, final, equal, shows, broken, remote⟩
  refine ⟨outcome, final, equal, shows, fun verdict => broken (bytes_of_broken verdict), ?_⟩
  rw [remote, same, segments_eq_concat inside]
  exact files_revise plain lies holds isFile _ _

/-- A refusal leaves everything as it is. -/
theorem ends_refused {error : GatewayError} {status : Nat} (same : world.remote = drive)
    (answered : error.httpStatus = status) :
    ∃ outcome final, run platform now (refusePut error : SdkOperation PutResult) world =
        (outcome, final) ∧ Ends platform drive p body (.refused status) outcome final := by
  refine ⟨_, _, run_refusePut error world, answered, ?_, ?_⟩
  · intro broken
    cases broken
  · rw [same]
    rfl

/-- An uploader is refused for a draft that may not be replaced. -/
theorem ends_blocked (same : world.remote = drive)
    (refused : getFileUploader platform drive parent.uid (baseName p)
      (putMetadata platform p opts) = (.error (sameNameExists true), drive)) :
    ∃ outcome final, run platform now (upload platform p parent none body opts) world =
        (outcome, final) ∧ Ends platform drive p body (.refused 409) outcome final := by
  have requested : Program.run (respond platform now)
      (requestUploader platform p parent none opts) world =
        (.error (sameNameExists true), world) := by
    rw [requestUploader, Program.run_request, respond, answer, same, refused, ← same]
  have equal : run platform now (upload platform p parent none body opts) world =
      (.error (mapUploadError platform p (sameNameExists true)),
        ⟨invalidate p world.memory, world.remote⟩) := by
    rw [run, upload, Program.run_tryCatch, Program.run_bind, requested]
    rfl
  refine ⟨_, _, equal, rfl, ?_, ?_⟩
  · intro broken
    cases broken
  · rw [same]
    rfl

/-- What `putInto` does about what it has found. -/
def putOn (platform : Platform) (p : JsString) (parent : NodeEntity) (body : BodyStream)
    (opts : PutOptions) : PutTarget → SdkOperation PutResult
  | .collection => refusePut (.plain "A collection exists at this path" 405)
  | .identical => do
      cancelBody
      pure .skippedIdentical
  | .immutable =>
      refusePut (.immutablePrecondition (("Immutable: " : JsString) ++ p ++
        (if (truthy opts.sha1).isSome then " exists with different content"
          else " exists and no OC-Checksum was supplied to prove identity" : JsString)))
  | .revise uid => upload platform p parent (some uid) body opts
  | .free => upload platform p parent none body opts

theorem putInto_eq : putInto platform p parent body opts =
    resolve platform p true >>= fun existing =>
      putOn platform p parent body opts (putTarget opts existing) := by
  rfl

/-- The decision where a committed file is. -/
theorem ends_onFile (ready : Ready platform drive p opts) (same : world.remote = drive)
    {folder : Uid} {node : NodeEntity} {stored : DriveNode} {revision : Revision}
    (lies : drive.FolderAt platform (segments (parentPath p)) folder)
    (holds : Holds platform drive folder (baseName p) node.uid stored)
    (isFile : node.type = .file) (storedFile : stored.type = .file)
    (committed : node.activeRevision = some revision) :
    ∃ outcome final, run platform now
        (putOn platform p parent body opts (putTarget opts (some node))) world = (outcome, final) ∧
      Ends platform drive p body
        ((slotOf drive p opts (some node)).verdict platform.sha1 opts body) outcome final := by
  have noFolder : node.type ≠ .folder := by
    rw [isFile]
    intro same
    cases same
  have slotted : slotOf drive p opts (some node) =
      .file revision.claimedSize (revision.claimedSha1.map JsString.toLowerCase) := by
    rw [slotOf, if_neg noFolder, committed]
  have chosen : putTarget opts (some node) =
      if opts.names revision.claimedSize (revision.claimedSha1.map JsString.toLowerCase) then
        .identical
      else if opts.immutable then .immutable
      else .revise node.uid := by
    rw [putTarget, if_neg noFolder, isFile, committed]
    rfl
  rw [slotted, chosen, PutSlot.verdict]
  split
  · refine ⟨_, _, rfl, rfl, ?_, ?_⟩
    · intro broken
      cases broken
    · rw [← same]
      rfl
  · split
    · exact ends_refused same rfl
    · exact ends_revise ready.inside same ready.plain lies holds storedFile

/-- The decision where a draft is. -/
theorem ends_onDraft (ready : Ready platform drive p opts) (same : world.remote = drive)
    {node : NodeEntity} {stored : DriveNode}
    (lies : drive.FolderAt platform (segments (parentPath p)) parent.uid)
    (found : (drive.children platform parent.uid).find?
      (fun child => platform.getName child = baseName p) = some node)
    (holds : Holds platform drive parent.uid (baseName p) node.uid stored)
    (isFile : node.type = .file) (storedFile : stored.type = .file)
    (draft : node.activeRevision = none) (storedDraft : stored.activeRevision = none) :
    ∃ outcome final, run platform now
        (putOn platform p parent body opts (putTarget opts (some node))) world = (outcome, final) ∧
      Ends platform drive p body
        ((slotOf drive p opts (some node)).verdict platform.sha1 opts body) outcome final := by
  have noFolder : node.type ≠ .folder := by
    rw [isFile]
    intro same
    cases same
  have chosen : putTarget opts (some node) = .free := by
    rw [putTarget, if_neg noFolder, isFile, draft]
  have slotted : slotOf drive p opts (some node) =
      if (drive.nodes.get node.uid).any (·.ownDraft) ||
        opts.overrideOtherClientDraftForPath = some p then .free else .blocked := by
    rw [slotOf, if_neg noFolder, draft]
  have asked : getFileUploader platform drive parent.uid (baseName p)
      (putMetadata platform p opts) =
        if (drive.nodes.get node.uid).any (·.ownDraft) ||
            opts.overrideOtherClientDraftForPath = some p then
          (.ok (.file parent.uid (baseName p) (putMetadata platform p opts)), drive.delete node.uid)
        else (.error (sameNameExists true), drive) := by
    rw [getFileUploader, found]
    dsimp only
    rw [draft]
    rfl
  rw [chosen, slotted]
  split
  · next replaced =>
      rw [if_pos replaced] at asked
      have noFolder : stored.type ≠ .folder := by
        rw [storedFile]
        intro same
        cases same
      have changes := changesAt_delete ready.plain holds.1 holds.2 noFolder
      apply ends_add ready.inside (changes.plain ready.plain)
        ((changes.folderAt_iff ready.plain _).mpr lies) (deleted ready.plain holds)
        (files_delete ready.plain lies holds storedFile storedDraft)
      rw [same]
      exact asked
  · next kept =>
      rw [if_neg kept] at asked
      exact ends_blocked same asked

variable (now) in
/-- What is decided on an upload into a folder. -/
theorem run_putInto (ready : Ready platform drive p opts) (same : world.remote = drive)
    (accurate : Accurate platform world)
    (above : drive.nodeAt platform (parentPath p) false = some parent)
    (isFolder : parent.type = .folder) :
    ∃ outcome final, run platform now (putInto platform p parent body opts) world =
        (outcome, final) ∧
      Ends platform drive p body
        ((putSlot platform drive p opts).verdict platform.sha1 opts body) outcome final := by
  have lies : drive.FolderAt platform (segments (parentPath p)) parent.uid := by
    rw [Drive.nodeAt] at above
    split at above
    · exact ⟨parent, above, isFolder, rfl⟩
    · cases above
  rcases run_resolve now ready.plain true ready.safe same accurate with
    ⟨reached, resolved, remote, _⟩
  have found := find?_eq_nodeAt ready.plain ready.inside ready.safe lies
  have slot : putSlot platform drive p opts =
      slotOf drive p opts (drive.nodeAt platform p true) := by
    rw [putSlot, above]
    exact if_neg (fun differs => differs isFolder)
  rw [run] at resolved ⊢
  rw [putInto_eq, Program.run_bind, resolved, slot]
  cases here : drive.nodeAt platform p true with
  | none =>
      rw [here] at found
      apply ends_add ready.inside ready.plain lies
      · intro uid stored holds
        have present : (drive.children platform parent.uid).find?
            (fun child => platform.getName child = baseName p) = some (stored.entity uid) :=
          ready.plain.find?_eq_some.mpr ⟨stored, holds.1, rfl, holds.2⟩
        rw [found] at present
        cases present
      · rfl
      · rw [remote, getFileUploader, found]
  | some node =>
      rw [here] at found
      rcases ready.plain.find?_eq_some.mp found with ⟨stored, located, equal, there⟩
      by_cases collection : node.type = .folder
      · have chosen : putTarget opts (some node) = .collection := if_pos collection
        have slotted : slotOf drive p opts (some node) = .collection := if_pos collection
        dsimp only
        rw [chosen, slotted]
        exact ends_refused remote rfl
      · have isFile : node.type = .file := by
          cases kind : node.type with
          | file => rfl
          | folder => exact absurd kind collection
          | other => exact absurd kind (ready.typed node here)
        have storedFile : stored.type = .file := by
          rw [← equal] at isFile
          exact isFile
        cases revision : node.activeRevision with
        | some revision =>
            exact ends_onFile ready remote lies ⟨located, there⟩ isFile storedFile revision
        | none =>
            have draft : stored.activeRevision = none := by
              rw [← equal] at revision
              exact revision
            exact ends_onDraft ready remote lies found ⟨located, there⟩ isFile storedFile revision
              draft

theorem safe_parentPath (safe : (segments p).all isSafeSegment = true) :
    (segments (parentPath p)).all isSafeSegment = true := by
  rw [List.all_eq_true] at safe ⊢
  intro s member
  rw [segments_parentPath] at member
  exact safe s (List.dropLast_subset _ member)

/-- An upload to a plain tree comes to what the decision on it says. -/
theorem run_put (now : Date) (body : BodyStream) (ready : Ready platform drive p opts)
    (normal : normalize p = p) (same : world.remote = drive) (accurate : Accurate platform world) :
    ∃ outcome final, run platform now (put platform p body opts) world = (outcome, final) ∧
      Ends platform drive p body
        ((putSlot platform drive p opts).verdict platform.sha1 opts body) outcome final := by
  have notRoot : isRoot p = false := by
    rw [← Bool.not_eq_true, isRoot_iff]
    exact ready.inside
  have named : isSafeSegment (baseName p) = true := by
    apply List.all_eq_true.mp ready.safe
    rw [segments_eq_concat ready.inside]
    exact List.mem_append_right _ List.mem_cons_self
  have wellFormed : (truthy opts.sha1).any (fun digest => !isSha1 digest) = false := by
    rw [← Bool.not_eq_true, Option.any_eq_true]
    intro malformed
    rcases malformed with ⟨digest, known, bad⟩
    rw [(Option.all_eq_true _ _).mp ready.digest digest known] at bad
    cases bad
  rcases run_resolve now ready.plain false (safe_parentPath ready.safe) same accurate with
    ⟨reached, resolved, remote, accurateReached⟩
  have looked : Program.run (respond platform now) (resolveParent platform p) world =
      (.ok (drive.nodeAt platform (parentPath p) false), reached) := by
    rw [run] at resolved
    rw [resolveParent, Program.run_tryCatch, resolved]
  unfold put
  dsimp only
  rw [normal, notRoot, named, wellFormed]
  simp only [Bool.false_eq_true, if_false, Bool.not_true]
  rw [run, Program.run_bind, looked]
  dsimp only
  cases above : drive.nodeAt platform (parentPath p) false with
  | none =>
      have slotted : putSlot platform drive p opts = .noFolder := by rw [putSlot, above]
      rw [slotted]
      exact ends_refused remote rfl
  | some parent =>
      by_cases isFolder : parent.type = .folder
      · dsimp only
        rw [if_neg (fun differs => differs isFolder)]
        exact run_putInto now ready remote accurateReached above isFolder
      · have slotted : putSlot platform drive p opts = .noFolder := by
          rw [putSlot, above]
          exact if_pos isFolder
        dsimp only
        rw [if_pos isFolder, slotted]
        exact ends_refused remote rfl

end SdkDouble

end DriveWebdav
