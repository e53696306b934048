import DriveWebdav.MockGateway.DecidedPut
import DriveWebdav.SdkGateway.DoublePut

/-! # Two gateways, one decision

An upload ends alike through the gateway in memory and through the gateway of the SDK, if both
hold the same tree. -/

namespace DriveWebdav

/-- The two gateways have the same at a path. -/
inductive Alike (clientUid : JsString) (drive : Drive) :
    Option (Kind MockLeaf) → Option NodeEntity → Prop
  | nothing : Alike clientUid drive none none
  | folder (node : NodeEntity) (isFolder : node.type = .folder) :
      Alike clientUid drive (some .folder) (some node)
  | file (file : MockFile) (node : NodeEntity) (stored : DriveNode) (revision : Revision)
      (located : drive.nodes.get node.uid = some stored) (isFile : node.type = .file)
      (committed : node.activeRevision = some revision) (bytes : stored.bytes = file.data)
      (size : revision.claimedSize = some file.data.length)
      (sha1 : revision.claimedSha1.map JsString.toLowerCase = some file.sha1) :
      Alike clientUid drive (some (.leaf (.file file))) (some node)
  | draft (draft : MockDraft) (node : NodeEntity) (stored : DriveNode)
      (located : drive.nodes.get node.uid = some stored) (isFile : node.type = .file)
      (unfinished : node.activeRevision = none)
      (owner : stored.ownDraft = decide (draft.clientUid = clientUid)) :
      Alike clientUid drive (some (.leaf (.draft draft))) (some node)

/-- The two gateways hold the same tree. -/
structure Mirrors (platform : Platform) (gateway : MockGateway) (drive : Drive) : Prop where
  plain : drive.Plain platform
  alike : ∀ q, Alike gateway.clientUid drive (gateway.root.kindAt q)
    (drive.visit platform q.reverse true)

variable {platform : Platform} {gateway : MockGateway} {drive : Drive} {names : List JsString}
  {path : JsString} {opts : PutOptions} {kind : Option (Kind MockLeaf)}
  {found : Option NodeEntity}

/-- Without drafts a path leads to the same node, unless that is a draft. -/
theorem Drive.Plain.visit_false (plain : drive.Plain platform) {node : NodeEntity} :
    drive.visit platform names false = some node ↔
      drive.visit platform names true = some node ∧ node.isDraft = false := by
  cases names with
  | nil =>
      rcases plain.isFolder with ⟨root, fetched, isFolder⟩
      constructor
      · intro found
        have found : drive.getNode drive.root = some node := found
        rw [fetched] at found
        cases found
        refine ⟨fetched, ?_⟩
        rw [NodeEntity.isDraft, isFolder]
        rfl
      · intro found
        exact found.1
  | cons name above =>
      rw [Drive.visit_cons_eq_some, Drive.visit_cons_eq_some]
      constructor
      · intro found
        rcases found with ⟨parent, up, found, visible, untrashed⟩
        refine ⟨⟨parent, up, found, fun _ => rfl, untrashed⟩, ?_⟩
        rw [← Bool.not_eq_true]
        intro isDraft
        cases visible isDraft
      · intro found
        rcases found with ⟨⟨parent, up, found, _, untrashed⟩, committed⟩
        refine ⟨parent, up, found, ?_, untrashed⟩
        intro isDraft
        rw [committed] at isDraft
        cases isDraft

theorem Drive.Plain.visit_false_eq (plain : drive.Plain platform) :
    drive.visit platform names false =
      (drive.visit platform names true).filter fun node => !node.isDraft := by
  apply Option.ext
  intro node
  rw [plain.visit_false, Option.filter_eq_some_iff, Bool.not_eq_true']

namespace Mirrors

/-- A folder is a folder in both. -/
theorem folder_iff (mirrors : Mirrors platform gateway drive) (q : List JsString) :
    gateway.root.kindAt q = some .folder ↔
      ∃ node, drive.visit platform q.reverse false = some node ∧ node.type = .folder := by
  have alike := mirrors.alike q
  constructor
  · intro folder
    rw [folder] at alike
    generalize visited : drive.visit platform q.reverse true = found at alike
    cases alike with
    | folder node isFolder =>
        refine ⟨node, mirrors.plain.visit_false.mpr ⟨visited, ?_⟩, isFolder⟩
        rw [NodeEntity.isDraft, isFolder]
        rfl
  · intro found
    rcases found with ⟨node, visited, isFolder⟩
    rw [(mirrors.plain.visit_false.mp visited).1] at alike
    generalize gateway.root.kindAt q = kind at alike ⊢
    cases alike with
    | folder _ _ => rfl
    | file file _ stored revision located isFile =>
        rw [isFile] at isFolder
        cases isFolder
    | draft draft _ stored located isFile =>
        rw [isFile] at isFolder
        cases isFolder

/-- Both hold the same committed files. -/
theorem files (mirrors : Mirrors platform gateway drive) :
    gateway.files = drive.fileAt platform := by
  funext q
  have alike := mirrors.alike q
  rw [MockGateway.files, Drive.fileAt, mirrors.plain.visit_false_eq]
  generalize gateway.root.kindAt q = kind at alike ⊢
  generalize drive.visit platform q.reverse true = found at alike ⊢
  cases alike with
  | nothing => rfl
  | folder node isFolder =>
      have committed : node.isDraft = false := by
        rw [NodeEntity.isDraft, isFolder]
        rfl
      simp [Option.filter_some, committed, isFolder]
  | file file node stored revision located isFile committed bytes =>
      have committed : node.isDraft = false := by
        rw [NodeEntity.isDraft, committed]
        simp
      simp [Option.filter_some, committed, isFile, located, bytes]
  | draft draft node stored located isFile unfinished =>
      have unfinished : node.isDraft = true := by
        rw [NodeEntity.isDraft, unfinished, isFile]
        rfl
      simp [Option.filter_some, unfinished]

/-- An upload takes the node at a path for the same in both. -/
theorem slotOf (alike : Alike gateway.clientUid drive kind found) :
    gateway.slotOf path opts kind = SdkDouble.slotOf drive path opts found := by
  have fileIsNoFolder : NodeType.file ≠ .folder := by
    intro same
    cases same
  cases alike with
  | nothing => rfl
  | folder node isFolder => exact (if_pos isFolder).symm
  | file file node stored revision located isFile committed bytes size sha1 =>
      rw [SdkDouble.slotOf, isFile, committed, if_neg fileIsNoFolder]
      dsimp only
      rw [size, sha1]
      rfl
  | draft draft node stored located isFile unfinished owner =>
      rw [SdkDouble.slotOf, isFile, unfinished, if_neg fileIsNoFolder, located,
        MockGateway.slotOf]
      dsimp only
      rw [Option.any_some, owner]
      by_cases own : draft.clientUid = gateway.clientUid
      · simp [own]
      · by_cases overridden : opts.overrideOtherClientDraftForPath = some path
        · simp [own, overridden]
        · simp [own, overridden]

theorem putSlot (mirrors : Mirrors platform gateway drive)
    (safe : (segments path).all isSafeSegment = true) :
    gateway.putSlot path opts = SdkDouble.putSlot platform drive path opts := by
  have parent : gateway.kindOf (parentPath path) = some .folder ↔ _ :=
    mirrors.folder_iff (segments (parentPath path))
  rw [MockGateway.putSlot, SdkDouble.putSlot, Drive.nodeAt, if_pos (SdkDouble.safe_parentPath safe)]
  cases visited : drive.visit platform (segments (parentPath path)).reverse false with
  | none =>
      apply if_neg
      intro folder
      rcases parent.mp folder with ⟨node, found, _⟩
      rw [visited] at found
      cases found
  | some node =>
      dsimp only
      by_cases isFolder : node.type = .folder
      · rw [if_pos (parent.mpr ⟨node, visited, isFolder⟩), if_neg (not_not_intro isFolder),
          Drive.nodeAt, if_pos safe]
        exact slotOf (mirrors.alike _)
      · rw [if_pos isFolder]
        apply if_neg
        intro folder
        rcases parent.mp folder with ⟨other, found, otherIsFolder⟩
        rw [visited] at found
        cases found
        exact isFolder otherIsFolder

/-- Of the nodes at paths, all are folders or files. -/
theorem typed (mirrors : Mirrors platform gateway drive) (node : NodeEntity)
    (found : drive.nodeAt platform path true = some node) : node.type ≠ .other := by
  intro other
  have alike := mirrors.alike (segments path)
  rw [Drive.nodeAt] at found
  split at found
  · rw [found] at alike
    generalize gateway.root.kindAt (segments path) = kind at alike
    cases alike with
    | folder _ isFolder =>
        rw [other] at isFolder
        cases isFolder
    | file file _ stored revision located isFile =>
        rw [other] at isFile
        cases isFile
    | draft draft _ stored located isFile =>
        rw [other] at isFile
        cases isFile
  · cases found

end Mirrors

theorem eq_some_of_truthy {text : Option JsString} {value : JsString}
    (known : truthy text = some value) : text = some value := by
  rcases text with _ | _ | ⟨first, rest⟩
  · cases known
  · cases known
  · exact known

/-- An upload is broken off by its body only. -/
theorem bytes_of_broken {slot : PutSlot} {digest : Bytes → JsString} {body : BodyStream}
    (broken : slot.verdict digest opts body = .broken) : body.bytes = none := by
  cases slot with
  | noFolder => cases broken
  | collection => cases broken
  | blocked => cases broken
  | free => exact SdkDouble.bytes_of_broken broken
  | file size sha1 =>
      rw [PutSlot.verdict] at broken
      split at broken
      · cases broken
      · split at broken
        · cases broken
        · exact SdkDouble.bytes_of_broken broken

/-- Two uploads end alike, or the body has broken off and both have failed. -/
def EndAlike (body : BodyStream) (first second : Except Thrown PutResult) : Prop :=
  SameOutcome first second ∨
    body.bytes = none ∧ first = .error MockGateway.bodyError ∧
      ∃ error, second = .error (.gateway error) ∧ error.httpStatus = 500

/-- The error of a broken body is no error that the SDK has a name for. -/
theorem mapUploadError_bodyError (platform : Platform) (path : JsString) :
    ∃ error, mapUploadError platform path SdkDouble.bodyError = .gateway error ∧
      error.httpStatus = 500 :=
  ⟨_, rfl, rfl⟩

theorem MockGateway.put_normalize (digest : Bytes → JsString) (now : Date) (path : JsString)
    (body : BodyStream) (opts : PutOptions) :
    MockGateway.put digest now (normalize path) body opts =
      MockGateway.put digest now path body opts := by
  funext gateway
  rw [MockGateway.put, MockGateway.put, MockGateway.beginPut, MockGateway.beginPut,
    normalize_normalize]

theorem put_normalize (platform : Platform) (path : JsString) (body : BodyStream)
    (opts : PutOptions) :
    put platform (normalize path) body opts = put platform path body opts := by
  rw [put, put, normalize_normalize]

/-- An upload ends alike through both gateways, and leaves the same committed files, whatever is
at its path. Only a body that breaks off is told by its own error in one of them. -/
theorem put_agrees {world : ServiceWorld} (mirrors : Mirrors platform gateway world.remote)
    (accurate : Accurate platform world) (calm : gateway.faults = .none)
    (inside : segments path ≠ []) (safe : (segments path).all isSafeSegment = true)
    (digest : opts.sha1.all isSha1 = true) (body : BodyStream) (now sdkNow : Date) :
    EndAlike body (MockGateway.put platform.sha1 now path body opts gateway).1
        (SdkDouble.run platform sdkNow (put platform path body opts) world).1 ∧
      (MockGateway.put platform.sha1 now path body opts gateway).2.files =
        (SdkDouble.run platform sdkNow (put platform path body opts) world).2.remote.fileAt
          platform := by
  have segs := segments_normalize path
  rw [← segs] at inside safe
  have named : isSafeSegment (baseName (normalize path)) = true := by
    apply List.all_eq_true.mp safe
    rw [segments_eq_concat inside]
    exact List.mem_append_right _ List.mem_cons_self
  have mockEnds : gateway.Ends _ _ (MockGateway.put platform.sha1 now (normalize path) body opts
      gateway) := MockGateway.put_decided calm inside named (normalize_normalize path)
  have ready : SdkDouble.Ready platform world.remote (normalize path) opts := by
    constructor
    · exact mirrors.plain
    · exact inside
    · exact safe
    · rw [Option.all_eq_true]
      intro sha1 known
      exact (Option.all_eq_true _ _).mp digest sha1 (eq_some_of_truthy known)
    · exact mirrors.typed
  rcases SdkDouble.run_put sdkNow body ready (normalize_normalize path) rfl accurate with
    ⟨outcome, final, ran, sdkEnds⟩
  rw [mirrors.putSlot safe] at mockEnds
  rw [MockGateway.put_normalize] at mockEnds
  rw [put_normalize] at ran
  rw [ran]
  generalize judged : PutSlot.verdict platform.sha1 opts body _ = verdict at mockEnds sdkEnds
  constructor
  · by_cases broken : verdict = .broken
    · rcases mapUploadError_bodyError platform (normalize path) with ⟨error, same, status⟩
      have failed := mockEnds.broken broken
      have rejected := (sdkEnds.broken broken).trans (congrArg Except.error same)
      rw [broken] at judged
      exact .inr ⟨bytes_of_broken judged, failed, error, rejected, status⟩
    · exact .inl (mockEnds.shows.sameOutcome sdkEnds.shows broken)
  · rw [mockEnds.files, sdkEnds.files, mirrors.files]

/-! ## One file -/

def exampleBody : BodyStream := .value [1, 2] (.value [3] .done)

def examplePutOptions : PutOptions where
  size := some 3
  sha1 := some "7037807198c22a7d2b0807371d763779a84fdfcf"
  mtime := none
  immutable := false
  overrideOtherClientDraftForPath := none

def examplePlatform : Platform :=
  .plain [([7], "5d1be7e9dda1ee8896be5b7e34a85ee16452a7b4"),
    ([1, 2, 3], "7037807198c22a7d2b0807371d763779a84fdfcf")]

def exampleFile : MockFile where
  data := [7]
  sha1 := "5d1be7e9dda1ee8896be5b7e34a85ee16452a7b4"
  mtime := Date.ofMilliseconds (some 0)
  revisions := 1

def exampleGateway : MockGateway := ⟨"uid", .leaf "a" (.file exampleFile) .nil, .none, 1⟩

def exampleNode : DriveNode := .file 0 "a" [7] "5d1be7e9dda1ee8896be5b7e34a85ee16452a7b4"

def exampleDrive : Drive := .ofNodes 0 [(0, .folder none "root"), (1, exampleNode)]

theorem exampleDrive_get {uid : Uid} {stored : DriveNode}
    (located : exampleDrive.nodes.get uid = some stored) :
    uid = 0 ∧ stored = .folder none "root" ∨ uid = 1 ∧ stored = exampleNode := by
  rw [InsertionMap.get_eq_some_iff] at located
  have entries : exampleDrive.nodes.entries = [(0, .folder none "root"), (1, exampleNode)] := rfl
  rw [entries] at located
  simpa using located

theorem exampleDrive_plain : exampleDrive.Plain examplePlatform where
  isFolder := ⟨_, rfl, rfl⟩
  rooted := by
    apply Drive.rooted_of_top
    intro stored located
    cases located
    rfl
  untrashed uid stored located := by
    rcases exampleDrive_get located with ⟨_, rfl⟩ | ⟨_, rfl⟩
    · rfl
    · rfl
  unique spot name first second firstNode secondNode located there locatedSecond thereSecond := by
    rcases exampleDrive_get located with ⟨_, rfl⟩ | ⟨same, _⟩
    · cases there.1
    · rcases exampleDrive_get locatedSecond with ⟨_, rfl⟩ | ⟨sameToo, _⟩
      · cases thereSecond.1
      · rw [same, sameToo]

theorem exampleDrive_visit {above : List JsString} {name : JsString} {node : NodeEntity}
    (visited : exampleDrive.visit examplePlatform (name :: above.reverse) true = some node) :
    above = [] ∧ name = "a" := by
  rcases Drive.visit_cons_eq_some.mp visited with ⟨parent, up, found, _⟩
  rw [List.reverse_reverse] at up
  rcases exampleDrive_plain.find?_eq_some.mp found with ⟨stored, located, _, there⟩
  rcases exampleDrive_get located with ⟨_, rfl⟩ | ⟨_, rfl⟩
  · cases there.1
  · have root : Drive.FolderAt examplePlatform exampleDrive [] 0 := ⟨_, rfl, rfl, rfl⟩
    rw [← Option.some.inj there.1] at up
    exact ⟨exampleDrive_plain.folderAt_path up root, there.2.symm⟩

theorem exampleGateway_kindAt {above : List JsString} {name : JsString}
    (apart : ¬(above = [] ∧ name = "a")) :
    exampleGateway.root.kindAt (above ++ [name]) = none := by
  have get : ∀ sought : JsString, exampleGateway.root.get sought =
      if "a" = sought then some (.leaf (.file exampleFile)) else none := fun _ => rfl
  cases above with
  | nil =>
      have different : ("a" : JsString) ≠ name := fun same => apart ⟨rfl, same.symm⟩
      rw [List.nil_append, Entries.kindAt_singleton, get, if_neg different]
      rfl
  | cons first rest =>
      rw [List.cons_append, Entries.kindAt, get]
      split
      · next folder =>
          split at folder
          · cases folder
          · cases folder
      · exact if_neg (List.concat_ne_nil name rest)
      · rfl

theorem example_mirrors : Mirrors examplePlatform exampleGateway exampleDrive where
  plain := exampleDrive_plain
  alike q := by
    rcases List.eq_nil_or_concat q with rfl | ⟨above, name, rfl⟩
    · exact .folder _ rfl
    · rw [List.concat_eq_append, List.reverse_concat]
      by_cases here : above = [] ∧ name = "a"
      · rw [here.1, here.2]
        exact .file exampleFile _ exampleNode _ rfl rfl rfl rfl rfl rfl
      · rw [exampleGateway_kindAt here]
        cases visited : exampleDrive.visit examplePlatform (name :: above.reverse) true with
        | none => exact .nothing
        | some node => exact absurd (exampleDrive_visit visited) here

theorem put_agrees_on_file :
    EndAlike exampleBody
        (MockGateway.put examplePlatform.sha1 exampleFile.mtime "/a" exampleBody
          examplePutOptions exampleGateway).1
        (SdkDouble.run examplePlatform exampleFile.mtime
          (put examplePlatform "/a" exampleBody examplePutOptions)
          ⟨.initial 0, exampleDrive⟩).1 ∧
      (MockGateway.put examplePlatform.sha1 exampleFile.mtime "/a" exampleBody
          examplePutOptions exampleGateway).2.files =
        (SdkDouble.run examplePlatform exampleFile.mtime
          (put examplePlatform "/a" exampleBody examplePutOptions)
          ⟨.initial 0, exampleDrive⟩).2.remote.fileAt examplePlatform := by
  apply put_agrees example_mirrors (.initial 0 exampleDrive) rfl
  · decide
  · decide
  · decide

/-- A body that breaks off is told by its own error in one of the gateways. -/
theorem brokenBody_disagrees : ¬ ∀ (platform : Platform) (gateway : MockGateway)
    (world : ServiceWorld) (path : JsString) (opts : PutOptions) (body : BodyStream)
    (now sdkNow : Date), Mirrors platform gateway world.remote → Accurate platform world →
    gateway.faults = .none → segments path ≠ [] → (segments path).all isSafeSegment = true →
    opts.sha1.all isSha1 = true →
    SameOutcome (MockGateway.put platform.sha1 now path body opts gateway).1
      (SdkDouble.run platform sdkNow (put platform path body opts) world).1 := by
  intro agrees
  have same := agrees examplePlatform exampleGateway ⟨.initial 0, exampleDrive⟩ "/b"
    examplePutOptions .failed exampleFile.mtime exampleFile.mtime example_mirrors
    (.initial 0 exampleDrive) rfl (by decide) (by decide) (by decide)
  have failed : (MockGateway.put examplePlatform.sha1 exampleFile.mtime "/b" .failed
      examplePutOptions exampleGateway).1 = .error MockGateway.bodyError := rfl
  rw [failed] at same
  cases same

end DriveWebdav
