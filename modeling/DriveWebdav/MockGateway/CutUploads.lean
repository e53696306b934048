import DriveWebdav.Foundation.Machine
import DriveWebdav.MockGateway.TreeOperations
import DriveWebdav.MockGateway.Upload

/-! # Uploads that are cut off

One path is uploaded again and again. A body breaks off, a connection is dropped, the process
restarts; nothing of it is visible until an upload completes. -/

namespace DriveWebdav

namespace MockGateway

variable {gateway before after : MockGateway} {path : JsString} {children : MockEntries}
  {digest : Bytes → JsString} {now : Date} {opts : PutOptions} {bytes : Bytes}

/-- Nothing, a committed file, or a draft of one's own. -/
def Takes (clientUid : JsString) : Option (Kind MockLeaf) → Prop
  | none => True
  | some (.leaf (.file _)) => True
  | some (.leaf (.draft draft)) => draft.clientUid = clientUid
  | some .folder => False

/-- A path that can be uploaded to: its folder is there, and nothing is in the way. -/
structure Open (gateway : MockGateway) (path : JsString) : Prop where
  tidy : Tidy gateway.root
  parent : gateway.kindOf (parentPath path) = some .folder
  holds : Takes gateway.clientUid (gateway.kindOf path)

theorem Takes.notFolder {clientUid : JsString} {kind : Option (Kind MockLeaf)}
    (takes : Takes clientUid kind) : kind ≠ some .folder := by
  intro folder
  rw [folder] at takes
  exact takes

theorem Open.spot (isOpen : Open gateway path) : ∃ children, Spot gateway path children :=
  exists_spot isOpen.parent isOpen.holds.notFolder

/-- A path stays open where nothing but its own content changes. -/
theorem Open.remains (isOpen : Open before path) (differs : DiffersAt path before after)
    (tidy : Tidy after.root) (holds : Takes before.clientUid (after.kindOf path)) :
    Open after path := by
  rcases isOpen.spot with ⟨children, spot⟩
  rcases spot.remains differs holds.notFolder with ⟨children, spotAfter⟩
  exact ⟨tidy, spotAfter.parent, differs.clientUid.symm ▸ holds⟩

/-! ## What a client sees -/

/-- The entry that a name in a folder is shown as, if it is no folder. -/
def shown (gateway : MockGateway) (path : JsString) : Option DriveEntry :=
  (gateway.fileAt path).map fun file =>
    ⟨baseName path, false, file.data.length, file.mtime,
      some (gateway.reportedSha1 (normalize path) file)⟩

theorem ticked_fst {α : Type} (op : JsString) (rest : MockOperation α) :
    (ticked op rest gateway).1 =
      if gateway.fails op then .error transientFailure else (rest gateway).1 := by
  cases fails : gateway.fails op with
  | true => rw [ticked_of_fails fails]; rfl
  | false => rw [ticked_of_not_fails fails]; rfl

theorem bind_toEntry {found : Option MockNode} (kind : found.map Node.kind = gateway.kindOf path)
    (notFolder : gateway.kindOf path ≠ some .folder) :
    (found.bind fun node => gateway.toEntry (baseName path) node (normalize path)) =
      gateway.shown path := by
  rw [shown, fileAt, ← kind]
  rw [← kind] at notFolder
  cases found with
  | none => rfl
  | some node =>
      cases node with
      | folder info below => exact absurd rfl notFolder
      | leaf leaf =>
          cases leaf with
          | file file => rfl
          | draft draft => rfl

/-- That `lookup` leaves out drafts makes no difference to what is shown. -/
theorem lookup_toEntry (name p : JsString) :
    ((gateway.lookup path).bind fun node => gateway.toEntry name node p) =
      (gateway.rootNode.lookup (segments path)).bind fun node => gateway.toEntry name node p := by
  rw [lookup]
  split
  · next draft found =>
      rw [found]
      rfl
  · rfl

theorem stat_fst (notFolder : gateway.kindOf path ≠ some .folder) : (stat path gateway).1 =
    if gateway.fails "stat" then .error transientFailure else .ok (gateway.shown path) := by
  rw [stat, ticked_fst, lookup_toEntry, rootNode, segments_normalize, baseName_normalize,
    bind_toEntry (Entries.kind_lookup _) notFolder]

theorem toEntry_name {name : JsString} {node : MockNode} {p : JsString} {entry : DriveEntry}
    (same : gateway.toEntry name node p = some entry) : entry.name = name := by
  cases node with
  | folder info below =>
      cases same
      rfl
  | leaf leaf =>
      cases leaf with
      | file file =>
          cases same
          rfl
      | draft draft => cases same

/-- What the listing of a folder shows under one name. -/
def listedAs (gateway : MockGateway) (path : JsString) : Except Thrown (List DriveEntry) :=
  (list (parentPath path) gateway).1.map fun entries => entries.filter (·.name = baseName path)

theorem listedAs_eq (spot : Spot gateway path children) (unique : gateway.root.Unique) :
    gateway.listedAs path = if gateway.fails "list" then .error transientFailure
      else .ok (gateway.shown path).toList := by
  rcases Entries.lookup_eq_folder.mpr spot.located with ⟨info, found⟩
  have same : normalize (parentPath path ++ '/' :: baseName path) = normalize path := by
    rw [normalize, segments_append_slash, segments_of_isSegment (isSegment_baseName spot.inside),
      ← segments_eq_concat spot.inside, normalize]
  have listing := Entries.filter_filterMap_toList (unique.folderAt spot.located) (baseName path)
    (fun name node => gateway.toEntry name node (normalize (parentPath path ++ '/' :: name)))
    DriveEntry.name (fun name node entry => toEntry_name)
  rw [same, bind_toEntry spot.kindOf.symm spot.notFolder] at listing
  rw [listedAs, list, ticked_fst, normalize_parentPath]
  split
  · rfl
  · rw [lookup, rootNode, found]
    exact congrArg Except.ok listing

/-- A client sees the same at a path in two stores, whatever failures are set. -/
structure SeenAlike (path : JsString) (before after : MockGateway) : Prop where
  stat : ∀ faults, (MockGateway.stat path { after with faults }).1 =
    (MockGateway.stat path { before with faults }).1
  listed : ∀ faults, MockGateway.listedAs { after with faults } path =
    MockGateway.listedAs { before with faults } path

theorem seenAlike (isOpen : Open before path) (openAfter : Open after path)
    (same : after.fileAt path = before.fileAt path) : SeenAlike path before after := by
  have shows : ∀ faults, shown { after with faults } path = shown { before with faults } path := by
    intro faults
    change (after.fileAt path).map _ = (before.fileAt path).map _
    rw [same]
    rfl
  constructor
  · intro faults
    rw [@stat_fst { before with faults } path isOpen.holds.notFolder,
      @stat_fst { after with faults } path openAfter.holds.notFolder, shows]
    rfl
  · intro faults
    rcases isOpen.spot with ⟨children, spot⟩
    rcases openAfter.spot with ⟨childrenAfter, spotAfter⟩
    rw [@listedAs_eq { before with faults } path children ⟨spot.inside, spot.located, spot.notFolder⟩
        isOpen.tidy.unique,
      @listedAs_eq { after with faults } path childrenAfter
        ⟨spotAfter.inside, spotAfter.located, spotAfter.notFolder⟩ openAfter.tidy.unique, shows]
    rfl

/-! ## Attempts -/

/-- What can happen while one path is uploaded. -/
inductive UploadEvent
  /-- A request to upload the path begins. -/
  | start (opts : PutOptions)
  /-- The next piece of its body arrives. -/
  | chunk (bytes : Bytes)
  /-- The body breaks off. -/
  | broken
  /-- A test sets other faults. -/
  | inject (faults : Faults)
  /-- The process is killed, and a new one takes over the tree. -/
  | restart (now : Date)

/-- The store, and the upload whose body is arriving. -/
structure Attempts where
  gateway : MockGateway
  upload : Option Upload

/-- A request begins. Many are answered before their body is read. -/
def begin (path : JsString) (opts : PutOptions) (gateway : MockGateway) : Attempts :=
  match beginPut path opts gateway with
  | (.ok (.receiving upload), gateway) => ⟨gateway, some upload⟩
  | (_, gateway) => ⟨gateway, none⟩

/-- A piece arrives. The connection may drop with it. -/
def arrive (chunk : Bytes) (upload : Upload) (gateway : MockGateway) : Attempts :=
  match receiveChunk chunk upload gateway with
  | (.ok upload, gateway) => ⟨gateway, some upload⟩
  | (.error _, gateway) => ⟨gateway, none⟩

def attempt (path : JsString) : Machine Attempts UploadEvent
  | ⟨gateway, none⟩, .start opts => some (begin path opts gateway)
  | ⟨gateway, some upload⟩, .chunk bytes => some (arrive bytes upload gateway)
  | ⟨gateway, some _⟩, .broken => some ⟨gateway, none⟩
  | ⟨gateway, upload⟩, .inject faults => some ⟨{ gateway with faults }, upload⟩
  | ⟨gateway, _⟩, .restart now => (gateway.restart now).map fun next => ⟨next, none⟩
  | _, _ => none

/-- Until an upload completes, nothing of it is visible. -/
structure Hidden (origin : MockGateway) (path : JsString) (attempts : Attempts) : Prop where
  isOpen : Open attempts.gateway path
  differs : DiffersAt path origin attempts.gateway
  same : attempts.gateway.fileAt path = origin.fileAt path
  named : ∀ upload, attempts.upload = some upload → upload.path = normalize path
  drafted : ∀ upload, attempts.upload = some upload → upload.isRevision = false →
    origin.fileAt path = none

variable {origin : MockGateway} {attempts next : Attempts} {upload : Upload}

/-- A change at the path that no client sees. -/
theorem Hidden.unseen (hidden : Hidden origin path attempts)
    (differs : DiffersAt path attempts.gateway after) (tidy : Tidy after.root)
    (holds : after.kindOf path = attempts.gateway.kindOf path ∨
      origin.fileAt path = none ∧ ∃ received,
        after.kindOf path = some (.leaf (.draft ⟨attempts.gateway.clientUid, received⟩))) :
    Hidden origin path ⟨after, none⟩ where
  isOpen := by
    apply hidden.isOpen.remains differs tidy
    rcases holds with same | ⟨_, received, there⟩
    · rw [same]
      exact hidden.isOpen.holds
    · rw [there]
      rfl
  differs := hidden.differs.trans differs
  same := by
    rcases holds with same | ⟨noFile, received, there⟩
    · rw [fileAt, same]
      exact hidden.same
    · rw [fileAt, there, noFile]
  named _ arriving := by cases arriving
  drafted _ arriving := by cases arriving

theorem Hidden.receiving (hidden : Hidden origin path attempts)
    (named : upload.path = normalize path)
    (drafted : upload.isRevision = false → origin.fileAt path = none) :
    Hidden origin path ⟨attempts.gateway, some upload⟩ where
  isOpen := hidden.isOpen
  differs := hidden.differs
  same := hidden.same
  named _ arriving := Option.some.inj arriving ▸ named
  drafted _ arriving := Option.some.inj arriving ▸ drafted

theorem Hidden.idle (hidden : Hidden origin path attempts) :
    Hidden origin path ⟨attempts.gateway, none⟩ :=
  hidden.unseen .refl hidden.isOpen.tidy (.inl rfl)

theorem Hidden.inject (hidden : Hidden origin path attempts) (faults : Faults) :
    Hidden origin path ⟨{ attempts.gateway with faults }, attempts.upload⟩ where
  isOpen := ⟨hidden.isOpen.tidy, hidden.isOpen.parent, hidden.isOpen.holds⟩
  differs := ⟨hidden.differs.clientUid, hidden.differs.elsewhere⟩
  same := hidden.same
  named := hidden.named
  drafted := hidden.drafted

theorem Hidden.begin (hidden : Hidden origin path ⟨gateway, none⟩) (opts : PutOptions) :
    Hidden origin path (begin path opts gateway) := by
  rcases hidden.isOpen.spot with ⟨children, spot⟩
  have begins : Begun path opts gateway (beginPut path opts gateway) := begun spot
  rw [MockGateway.begin]
  generalize beginPut path opts gateway = outcome at begins
  cases begins with
  | kept outcome faults notReceiving =>
      have kept := hidden.inject faults
      cases outcome with
      | error error => exact kept
      | ok begins =>
          cases begins with
          | skipped => exact kept
          | receiving upload => exact absurd rfl (notReceiving upload)
  | revising existing found =>
      have kept := hidden.inject { gateway.faults with dropPutAfterBytes := none }
      apply kept.receiving rfl
      intro isDraft
      cases isDraft
  | drafting after noFile drafted =>
      have free : origin.fileAt path = none := by
        rw [← hidden.same]
        exact fileAt_eq_none noFile
      have unseen := hidden.unseen drafted.differs (drafted.tidy hidden.isOpen.tidy)
        (.inr ⟨free, 0, drafted.there⟩)
      have kept := unseen.inject { after.faults with dropPutAfterBytes := none }
      exact kept.receiving rfl fun _ => free

theorem Hidden.arrive (hidden : Hidden origin path ⟨gateway, some upload⟩) (chunk : Bytes) :
    Hidden origin path (arrive chunk upload gateway) := by
  have named := hidden.named upload rfl
  have uploading : Uploading gateway path (upload.add chunk) :=
    ⟨named, hidden.isOpen.parent, hidden.isOpen.holds.notFolder⟩
  rcases uploading.noteReceived with ⟨differs, there⟩
  have unseen : Hidden origin path ⟨gateway.noteReceived (upload.add chunk), none⟩ := by
    apply hidden.unseen differs (uploading.tidy hidden.isOpen.tidy)
    rw [there, noted]
    cases revision : upload.isRevision with
    | true => exact .inl (if_pos revision)
    | false =>
        refine .inr ⟨hidden.drafted upload rfl revision, (upload.add chunk).data.length, ?_⟩
        exact if_neg (ne_true_of_eq_false revision)
  rw [MockGateway.arrive, receiveChunk_eq]
  cases (upload.add chunk).dropped with
  | true => exact unseen
  | false => exact unseen.receiving named fun revision => hidden.drafted upload rfl revision

theorem Hidden.restart (hidden : Hidden origin path attempts) (now : Date) :
    ∃ next, attempts.gateway.restart now = some next ∧ Hidden origin path ⟨next, none⟩ := by
  rcases restart_tidy hidden.isOpen.tidy now with ⟨next, restarted, clientUid, tidy, same⟩
  exact ⟨next, restarted, hidden.unseen ⟨clientUid, fun q _ => same q⟩ tidy (.inl (same _))⟩

theorem Hidden.step {event : UploadEvent} (hidden : Hidden origin path attempts)
    (stepped : attempt path attempts event = some next) : Hidden origin path next := by
  rcases attempts with ⟨gateway, arriving⟩
  cases event with
  | start opts =>
      cases arriving with
      | none =>
          cases stepped
          exact hidden.begin opts
      | some upload => cases stepped
  | chunk bytes =>
      cases arriving with
      | none => cases stepped
      | some upload =>
          cases stepped
          exact hidden.arrive bytes
  | broken =>
      cases arriving with
      | none => cases stepped
      | some upload =>
          cases stepped
          exact hidden.idle
  | inject faults =>
      have kept := hidden.inject faults
      cases arriving with
      | none =>
          cases stepped
          exact kept
      | some upload =>
          cases stepped
          exact kept
  | restart now =>
      rcases hidden.restart now with ⟨restarted, equal, kept⟩
      cases arriving with
      | none =>
          rw [attempt, equal] at stepped
          cases stepped
          exact kept
      | some upload =>
          rw [attempt, equal] at stepped
          cases stepped
          exact kept

theorem hidden_of_run {events : List UploadEvent} (isOpen : Open origin path)
    (ran : (attempt path).play ⟨origin, none⟩ events = some attempts) :
    Hidden origin path attempts := by
  have begins : Hidden origin path ⟨origin, none⟩ := by
    constructor
    · exact isOpen
    · exact .refl
    · rfl
    · intro upload arriving
      cases arriving
    · intro upload arriving
      cases arriving
  exact Machine.invariant (Hidden origin path) begins
    (fun reached event next hidden stepped => hidden.step stepped) ran

/-! ## The last attempt -/

/-- The whole body arrives, it is what it was said to be, and no failure is set. -/
structure Uninterrupted (digest : Bytes → JsString) (gateway : MockGateway) (body : BodyStream)
    (opts : PutOptions) (bytes : Bytes) : Prop where
  ready : Ready gateway
  complete : body.bytes = some bytes
  right : Right digest opts bytes
  undropped : ∀ drop, gateway.faults.dropPutAfterBytes = some drop →
    body = .done ∨ bytes.length < drop

/-- How an upload of some bytes can end: refused as immutable, skipped as identical, or with
these bytes at its path. -/
inductive Completed (digest : Bytes → JsString) (path : JsString) (opts : PutOptions)
    (bytes : Bytes) (before : MockGateway) : Except Thrown PutResult × MockGateway → Prop
  | refused (file : MockFile) (found : before.fileAt path = some file)
      (immutable : opts.immutable = true) :
      Completed digest path opts bytes before
        (.error (.gateway immutablePreconditionDefault), before)
  | skipped (file : MockFile) (found : before.fileAt path = some file)
      (identical : before.isIdentical (normalize path) opts file = true) :
      Completed digest path opts bytes before (.ok .skippedIdentical, before)
  | stored (after : MockGateway) (file : MockFile) (differs : DiffersAt path before after)
      (there : after.kindOf path = some (.leaf (.file file))) (data : file.data = bytes)
      (sha1 : file.sha1 = digest bytes) :
      Completed digest path opts bytes before
        (.ok (if (before.fileAt path).isSome then .updated else .created), after)

/-- An upload that has begun ends with its bytes at its path. -/
theorem completed_receiving {body : BodyStream} {isRevision : Bool} {revisions : Nat}
    (uninterrupted : Uninterrupted digest before body opts bytes)
    (begins : beginPut path opts before =
      gateway.receiving (normalize path) opts isRevision revisions)
    (differs : DiffersAt path before gateway) (faults : gateway.faults = before.faults)
    (opened : ∃ children, Spot gateway path children)
    (kind : isRevision = (before.fileAt path).isSome) :
    Completed digest path opts bytes before (put digest now path body opts before) := by
  rcases opened with ⟨children, spot⟩
  have uploading : Uploading
      { gateway with faults := { gateway.faults with dropPutAfterBytes := none } } path
      ⟨normalize path, opts, isRevision, revisions, gateway.faults.dropPutAfterBytes, []⟩ :=
    ⟨rfl, spot.parent, spot.notFolder⟩
  rcases receive_all digest now uploading uninterrupted.complete (by
      rw [faults]
      exact uninterrupted.undropped) with ⟨received, equal, receives, arrived, _⟩
  rcases finishPut_right digest now arrived uninterrupted.right with
    ⟨after, finished, finishes, there⟩
  have ends : put digest now path body opts before =
      (.ok (if (before.fileAt path).isSome then .updated else .created), after) := by
    rw [put, begins, ← kind]
    exact equal.trans finished
  rw [ends]
  apply Completed.stored
  · have first : DiffersAt path before
        { gateway with faults := { gateway.faults with dropPutAfterBytes := none } } :=
      ⟨differs.clientUid, differs.elsewhere⟩
    exact (first.trans receives).trans finishes
  · exact there
  · rfl
  · rfl

theorem completed_drafting {body : BodyStream}
    (uninterrupted : Uninterrupted digest before body opts bytes)
    (spot : Spot before path children) (drafted : Drafted path before gateway)
    (begins : beginPut path opts before = gateway.receiving (normalize path) opts false 0)
    (noFile : ∀ file, before.kindOf path ≠ some (.leaf (.file file))) :
    Completed digest path opts bytes before (put digest now path body opts before) := by
  apply completed_receiving uninterrupted begins drafted.differs drafted.faults
  · apply spot.remains drafted.differs
    rw [drafted.there]
    intro folder
    cases folder
  · rw [fileAt_eq_none noFile]
    rfl

/-- An upload to an open path completes, if nothing interrupts it. -/
theorem put_completes {body : BodyStream} (isOpen : Open before path)
    (safe : isSafeSegment (baseName path) = true)
    (uninterrupted : Uninterrupted digest before body opts bytes) :
    Completed digest path opts bytes before (put digest now path body opts before) := by
  rcases isOpen.spot with ⟨children, spot⟩
  have begins : beginPut path opts before = _ := beginPut_ready uninterrupted.ready spot safe
  have kind := spot.kindOf
  have takes := isOpen.holds
  unfold beginIn at begins
  rw [inDir_normalize, inDir_normalize, baseName_normalize] at begins
  cases here : children.get (baseName path) with
  | none =>
      rw [here] at kind begins
      apply completed_drafting uninterrupted spot spot.drafted begins
      intro file found
      rw [kind] at found
      cases found
  | some node =>
      rw [here] at kind begins
      rw [kind] at takes
      cases node with
      | folder info below => exact takes.elim
      | leaf leaf =>
          cases leaf with
          | file existing =>
              have found : before.fileAt path = some existing := by
                rw [fileAt, kind]
                rfl
              dsimp only at begins
              split at begins
              · next identical =>
                  rw [put, begins]
                  exact .skipped existing found identical
              · split at begins
                · next immutable =>
                    rw [put, begins]
                    exact .refused existing found immutable
                · apply completed_receiving uninterrupted begins .refl rfl ⟨children, spot⟩
                  rw [found]
                  rfl
          | draft existing =>
              have own : existing.clientUid = before.clientUid := takes
              have replaced : beginPut path opts before = _ :=
                begins.trans (if_neg (by simp [own]))
              apply completed_drafting uninterrupted spot spot.redrafted replaced
              intro file found
              rw [kind] at found
              cases found

/-- However often an upload is cut off, its path shows what it showed before, nothing else
changes, a restart stays possible, and the next upload that arrives whole replaces what was
there. -/
theorem cutUploads_hidden {events : List UploadEvent} (isOpen : Open origin path)
    (ran : (attempt path).play ⟨origin, none⟩ events = some attempts) :
    SeenAlike path origin attempts.gateway ∧
      (∀ q, q ≠ segments path → attempts.gateway.root.kindAt q = origin.root.kindAt q) ∧
      (∀ now, ∃ next, attempts.gateway.restart now = some next) ∧
      ∀ (digest : Bytes → JsString) (now : Date) (body : BodyStream) (opts : PutOptions)
        (bytes : Bytes), attempts.upload = none → isSafeSegment (baseName path) = true →
        Uninterrupted digest attempts.gateway body opts bytes →
        Completed digest path opts bytes attempts.gateway
          (put digest now path body opts attempts.gateway) := by
  have hidden := hidden_of_run isOpen ran
  refine ⟨seenAlike isOpen hidden.isOpen hidden.same, hidden.differs.elsewhere, ?_, ?_⟩
  · intro now
    rcases hidden.restart now with ⟨next, restarted, _⟩
    exact ⟨next, restarted⟩
  · intro digest now body opts bytes _ safe uninterrupted
    exact put_completes hidden.isOpen safe uninterrupted

def exampleOptions : PutOptions := ⟨none, none, none, true, none⟩

/-- Of a body that nothing is known of, anything is right. -/
theorem exampleOptions_right (digest : Bytes → JsString) (bytes : Bytes) :
    Right digest exampleOptions bytes where
  size size known := by cases known
  sha1 sha1 known := by cases known

def exampleDate : Date := Date.ofMilliseconds (some 0)

/-- A store with one file, and another one after an upload beside it has been cut off. -/
def exampleStore : MockGateway :=
  ⟨"uid", .leaf "a" (.file ⟨[7], "x", exampleDate, 1⟩) .nil, .none, 1⟩

def exampleCut : MockGateway :=
  ⟨"uid", .leaf "a" (.file ⟨[7], "x", exampleDate, 1⟩)
    (.leaf "b" (.draft ⟨"uid", 2⟩) .nil), .none, 1⟩

theorem exampleStore_open : Open exampleStore "/b" where
  tidy :=
    { unique := ⟨List.not_mem_nil, trivial⟩
      entries := ⟨⟨isSegment_of_isSafeSegment (by decide), 0, rfl, rfl⟩, trivial⟩ }
  parent := rfl
  holds := trivial

theorem cutUploads_hidden_restarted :
    Completed (fun _ => "7037807198c22a7d2b0807371d763779a84fdfcf") "/b" exampleOptions [1, 2, 3]
      exampleCut
      (put (fun _ => "7037807198c22a7d2b0807371d763779a84fdfcf") exampleDate "/b"
        (.value [1, 2] (.value [3] .done)) exampleOptions exampleCut) := by
  have ran : (attempt "/b").play ⟨exampleStore, none⟩
      [.start exampleOptions, .chunk [1, 2], .broken, .restart exampleDate] =
        some ⟨exampleCut, none⟩ := by rfl
  apply (cutUploads_hidden exampleStore_open ran).2.2.2
  · rfl
  · decide
  · constructor
    · exact ⟨rfl, rfl⟩
    · rfl
    · exact exampleOptions_right _ _
    · intro drop dropping
      cases dropping

/-- A store that has a file in a folder. -/
def folderStore : MockGateway :=
  ⟨"uid", .folder "d" exampleDate (.leaf "b" (.file ⟨[7], "x", exampleDate, 1⟩) .nil) .nil, .none,
    1⟩

/-- The same store with the folder under the empty name, where a move onto the root leaves it. -/
def rootedStore : MockGateway :=
  ⟨"uid", .folder [] exampleDate (.leaf "b" (.file ⟨[7], "x", exampleDate, 1⟩) .nil) .nil, .none,
    1⟩

/-- The two conditions on names are needed: an upload under a name that cannot be addressed is
refused, and a folder under a name that is no segment comes to light elsewhere. -/
theorem names_needed :
    (¬ ∀ (origin : MockGateway) (path : JsString)
      (events : List UploadEvent) (attempts : Attempts), Open origin path →
      (attempt path).play ⟨origin, none⟩ events = some attempts → attempts.upload = none →
      ∀ (digest : Bytes → JsString) (now : Date) (body : BodyStream) (opts : PutOptions)
        (bytes : Bytes), Uninterrupted digest attempts.gateway body opts bytes →
        Completed digest path opts bytes attempts.gateway
          (put digest now path body opts attempts.gateway)) ∧
    move "/d" "/" folderStore = (.ok (), rootedStore) ∧
    rootedStore.kindOf (parentPath "/b") = some .folder ∧ rootedStore.kindOf "/b" = none ∧
    ∃ attempts, (attempt "/b").play ⟨rootedStore, none⟩ [.restart exampleDate] = some attempts ∧
      ¬SeenAlike "/b" rootedStore attempts.gateway := by
  constructor
  · intro completes
    have isOpen : Open ⟨"uid", .nil, .none, 0⟩ "/.." := ⟨⟨trivial, trivial⟩, rfl, trivial⟩
    have uninterrupted : Uninterrupted (fun _ => "da39a3ee5e6b4b0d3255bfef95601890afd80709")
        ⟨"uid", .nil, .none, 0⟩ .done exampleOptions [] := by
      constructor
      · exact ⟨rfl, rfl⟩
      · rfl
      · exact exampleOptions_right _ _
      · intro drop dropping
        cases dropping
    have completed := completes _ _ [] _ isOpen rfl rfl _ exampleDate _ _ _ uninterrupted
    have refused : put (fun _ => "da39a3ee5e6b4b0d3255bfef95601890afd80709") exampleDate "/.." .done
        exampleOptions ⟨"uid", .nil, .none, 0⟩ =
          (.error (.gateway (.plain "Invalid name" 400)), ⟨"uid", .nil, .none, 0⟩) := rfl
    rw [refused] at completed
    cases completed
  · refine ⟨rfl, rfl, rfl, _, rfl, ?_⟩
    intro alike
    cases alike.stat .none

end MockGateway

end DriveWebdav
