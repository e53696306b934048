import DriveWebdav.Drive.Commit
import DriveWebdav.SdkGateway.Gateway
import DriveWebdav.SdkGateway.Lookup
import DriveWebdav.Webdav.Handlers

/-! # What a successful PUT leaves behind

PUT over the gateway of the SDK, in a tree that nobody else writes to. -/

namespace DriveWebdav

/-- What the SDK checks before an upload completes. -/
structure UploadMetadata.Fits (platform : Platform) (metadata : UploadMetadata)
    (bytes : Bytes) : Prop where
  size : ∀ expected, metadata.expectedSize = some expected → (bytes.length : Int) = expected
  sha1 : ∀ expected, metadata.expectedSha1 = some expected → platform.sha1 bytes = expected

def storedRevision (platform : Platform) (metadata : UploadMetadata) (bytes : Bytes)
    (verified : Bool) : Revision :=
  ⟨some bytes.length, some (platform.sha1 bytes), verified, metadata.modificationTime⟩

/-- An upload completes only once its checks have passed and all its bytes are
committed with the modification time it was given. -/
inductive Commits (platform : Platform) (drive : Drive) : UploadController → Drive → Prop
  | revision {uid : Uid} {metadata : UploadMetadata} {stream : BodyStream} {bytes : Bytes}
      {stored : DriveNode} (verified : Bool) :
      stream.bytes = some bytes → metadata.Fits platform bytes →
      drive.nodes.get uid = some stored → stored.type = .file →
      Commits platform drive ⟨.revision uid metadata, stream⟩
        (drive.revise uid (storedRevision platform metadata bytes verified) bytes)
  | file {uid parent : Uid} {name : JsString} {metadata : UploadMetadata} {stream : BodyStream}
      {bytes : Bytes} (verified : Bool) (moment : Date) :
      stream.bytes = some bytes → metadata.Fits platform bytes → drive.nodes.get uid = none →
      Commits platform drive ⟨.file parent name metadata, stream⟩
        (drive.addFile platform uid parent name (storedRevision platform metadata bytes verified)
          bytes moment)

/-- How the calls of a PUT succeed. The draft of an upload under way is not part
of the tree. -/
def UploadSucceeds (platform : Platform) (drive : Drive) :
    (command : SdkCall) → SdkAnswer command → Drive → Prop
  | .completion controller, _, final => Commits platform drive controller final
  | .getFileUploader parent name metadata, uploader, final =>
      uploader = .file parent.uid name metadata ∧ final = drive
  | .getFileRevisionUploader uid metadata, uploader, final =>
      uploader = .revision uid metadata ∧ final = drive
  | .uploadFromStream uploader stream, controller, final =>
      controller = ⟨uploader, stream⟩ ∧ final = drive
  | command, value, final => final = drive ∧ AnswersTruly platform drive command value

/-- Any call may fail instead. -/
def uploadService (platform : Platform) : Program.Service SdkCall SdkAnswer Thrown Drive :=
  fun drive command answer final =>
    match answer with
    | .ok value => UploadSucceeds platform drive command value final
    | .error thrown =>
        (∃ fault, thrown = .sdk fault) ∧ (command.changesTree = false → final = drive)

/-- The terms of an operation that alone writes to the tree. -/
def soleWriter (platform : Platform) : Rules ServiceMemory SdkCall SdkAnswer Thrown Drive where
  service := uploadService platform
  invariant _ := True
  interference := Waits
  guarantee _ _ := True
  permits _ _ := True
  interference_refl world := ⟨rfl, world.memory.now, Nat.le_refl _, rfl⟩
  interference_trans := by
    rintro first second third ⟨same, time, later, equal⟩ ⟨same', time', later', equal'⟩
    refine ⟨same'.trans same, time', ?_, ?_⟩
    · rw [equal] at later'
      exact Nat.le_trans later later'
    · rw [equal', equal]

section

variable {platform : Platform} {opts : WebdavOptions} {drive : Drive} {world : ServiceWorld}

theorem undisturbed_soleWriter : Undisturbed platform (soleWriter platform) where
  invariant _ := trivial
  guarantee _ _ := trivial
  permits _ _ := trivial
  waits _ _ := id
  failures := by
    rintro drive command error final ⟨⟨fault, rfl⟩, _⟩
    simp [Thrown.status]
  lookups := by
    intro drive command answer final lookup answered
    cases answer with
    | error error =>
        constructor
        · apply answered.2
          cases command <;> first | rfl | cases lookup
        · intro value equal
          cases equal
    | ok value =>
        have truly : final = drive ∧ AnswersTruly platform drive command value := by
          cases command <;> first | exact answered | cases lookup
        exact ⟨truly.1, fun _ equal => by cases equal; exact truly.2⟩

/-! ## The upload -/

/-- An operation ends well, or throws what is answered as an error. -/
private def Ends {α : Type} (good : α → ServiceWorld → Prop) (outcome : Except Thrown α)
    (world : ServiceWorld) : Prop :=
  match outcome with
  | .ok value => good value world
  | .error error => 400 ≤ error.status

private theorem status_mapGenericError {error : Thrown} (fails : 400 ≤ error.status) :
    400 ≤ (mapGenericError platform error).status := by
  cases error with
  | gateway error => exact fails
  | sdk fault =>
      rcases fault with ⟨errorClass, message⟩
      cases errorClass <;> simp only [mapGenericError, mapSdkError, Thrown.status] <;>
        first | (split <;> simp [GatewayError.plain]) | simp [GatewayError.plain]

private theorem status_mapUploadError {error : Thrown} (path : JsString)
    (fails : 400 ≤ error.status) : 400 ≤ (mapUploadError platform path error).status := by
  cases error with
  | gateway error => exact fails
  | sdk fault =>
      unfold mapUploadError
      dsimp only
      split
      · simp [Thrown.status, GatewayError.draftConflict]
      · simp [Thrown.status, GatewayError.plain]
      · simp [Thrown.status, GatewayError.integrityFailed]
      · exact status_mapGenericError fails

/-- Whatever an operation does here, it keeps to these terms. -/
private theorem ensures_any {α : Type} (program : SdkOperation α) (world : ServiceWorld) :
    (soleWriter platform).Ensures program (fun _ _ => True) world := by
  induction program generalizing world with
  | finish value => trivial
  | fail error => trivial
  | update change resume induction => exact fun now _ _ => ⟨trivial, induction _ _⟩
  | await command resume induction =>
      exact fun now _ _ => ⟨trivial, fun answer remote _ => induction answer _⟩

/-- A clean-up whose failures are swallowed, then an error. -/
private theorem ends_cleanup {α : Type} {good : α → ServiceWorld → Prop}
    {cleanup : SdkOperation Unit} {error : Thrown}
    (never : ∀ world, (soleWriter platform).Ensures cleanup
      (fun outcome _ => ∃ done, outcome = .ok done) world) (fails : 400 ≤ error.status) :
    (soleWriter platform).Ensures (cleanup >>= fun _ => throw error : SdkOperation α)
      (Ends good) world :=
  (never world).bind (fun _ _ ⟨_, equal⟩ => nomatch equal) fun _ _ _ => fails

section Ends

variable {α β : Type} {good : α → ServiceWorld → Prop} {better : β → ServiceWorld → Prop}

private theorem ends_bind {program : SdkOperation α} {next : α → SdkOperation β}
    (first : (soleWriter platform).Ensures program (Ends good) world)
    (rest : ∀ value reached, good value reached →
      (soleWriter platform).Ensures (next value) (Ends better) reached) :
    (soleWriter platform).Ensures (program >>= next) (Ends better) world :=
  first.bind (fun _ _ failed => failed) rest

private theorem ends_request {command : SdkCall} (same : world.remote = drive) :
    (soleWriter platform).Ensures (Program.request command)
      (Ends fun value final => UploadSucceeds platform drive command value final.remote) world := by
  refine Rules.ensures_request.mpr fun now _ between => ⟨trivial, fun answer remote answered => ?_⟩
  rw [between.1, same] at answered
  cases answer with
  | ok value => exact answered
  | error error =>
      rcases answered.1 with ⟨fault, rfl⟩
      simp [Ends, Thrown.status]

private theorem ends_modify {change : ServiceMemory → ServiceMemory} (same : world.remote = drive) :
    (soleWriter platform).Ensures (Program.modify change)
      (Ends fun _ final => final.remote = drive) world :=
  Rules.ensures_modify.mpr fun _ _ between => ⟨trivial, between.1.trans same⟩

private theorem ends_resolve (path : JsString) (includeDrafts : Bool)
    (same : world.remote = drive) (accurate : Accurate platform world) :
    (soleWriter platform).Ensures (resolve platform path includeDrafts)
      (Ends fun found reached => reached.remote = drive ∧ Accurate platform reached ∧
        found = drive.nodeAt platform path includeDrafts) world := by
  refine (ensures_resolve undisturbed_soleWriter path includeDrafts same accurate).mono ?_
  rintro outcome reached ⟨same, accurate, found⟩
  cases outcome with
  | ok node => exact ⟨same, accurate, found⟩
  | error error => exact found

/-- A call on the request body whose failure is swallowed. -/
private theorem cancelBody_ends (same : world.remote = drive) :
    (soleWriter platform).Ensures cancelBody
      (fun outcome final => (∃ done, outcome = .ok done) ∧ final.remote = drive) world := by
  have asked : (soleWriter platform).Ensures (Program.request SdkCall.cancelBody)
      (fun _ final => final.remote = drive) world := by
    refine Rules.ensures_request.mpr fun now _ between => ⟨trivial, fun answer remote answered => ?_⟩
    rw [between.1, same] at answered
    cases answer with
    | ok value => exact answered.1
    | error error => exact answered.2 rfl
  exact asked.tryCatch (fun done _ same => ⟨⟨done, rfl⟩, same⟩) fun _ _ same => ⟨⟨(), rfl⟩, same⟩

private theorem abandonUpload_ends (p : JsString) (world : ServiceWorld) :
    (soleWriter platform).Ensures (abandonUpload p)
      (fun outcome _ => ∃ done, outcome = .ok done) world := by
  have released : (soleWriter platform).Ensures releaseBody
      (fun outcome _ => ∃ done, outcome = .ok done) world :=
    (ensures_any _ _).tryCatch (fun done _ _ => ⟨done, rfl⟩) fun _ _ _ => ⟨(), rfl⟩
  exact released.bind (fun _ _ ⟨_, equal⟩ => nomatch equal) fun _ _ _ _ _ _ =>
    ⟨trivial, (), rfl⟩

private theorem refusePut_ends {error : GatewayError} (fails : 400 ≤ error.httpStatus) :
    (soleWriter platform).Ensures (refusePut error : SdkOperation α) (Ends good) world :=
  ends_cleanup (fun _ => (cancelBody_ends rfl).mono fun _ _ done => done.1) fails

end Ends

/-- What an upload acts on: a folder to put a new file in, or a file to revise. -/
private def Target (platform : Platform) (drive : Drive) (p : JsString) (parent : NodeEntity) :
    Option Uid → Prop
  | none => Drive.FolderAt platform drive (segments (parentPath p)) parent.uid
  | some uid =>
      ∃ stored folder, drive.nodes.get uid = some stored ∧ stored.type = .file ∧
        stored.trashed = false ∧ platform.showName stored.name = baseName p ∧
        stored.parentUid = some folder ∧
        Drive.FolderAt platform drive (segments (parentPath p)) folder

/-- A committed file with the bytes and the time of an upload. -/
private def Uploaded (platform : Platform) (p : JsString) (body : BodyStream)
    (opts : PutOptions) (final : Drive) : Prop :=
  ∃ stored bytes verified, body.bytes = some bytes ∧ stored.bytes = bytes ∧
    (putMetadata platform p opts).Fits platform bytes ∧
    final.HoldsFile platform p stored
      (storedRevision platform (putMetadata platform p opts) bytes verified)

/-- The upload that was asked for. -/
private def uploaderFor (platform : Platform) (p : JsString) (parent : NodeEntity)
    (opts : PutOptions) : Option Uid → Uploader
  | none => .file parent.uid (baseName p) (putMetadata platform p opts)
  | some uid => .revision uid (putMetadata platform p opts)

private theorem requestUploader_ends {p : JsString} {parent : NodeEntity}
    {revisionOfUid : Option Uid} {opts : PutOptions} (same : world.remote = drive) :
    (soleWriter platform).Ensures (requestUploader platform p parent revisionOfUid opts)
      (Ends fun uploader reached =>
        uploader = uploaderFor platform p parent opts revisionOfUid ∧ reached.remote = drive)
      world := by
  cases revisionOfUid with
  | none => exact ends_request same
  | some uid => exact ends_request same

/-- Each kind of commit leaves the uploaded file at its path. -/
private theorem uploaded_of_commits {p : JsString} {parent : NodeEntity}
    {revisionOfUid : Option Uid} {body : BodyStream} {opts : PutOptions} {final : Drive}
    (target : Target platform drive p parent revisionOfUid)
    (committed : Commits platform drive
      ⟨uploaderFor platform p parent opts revisionOfUid, ownedStream body⟩ final) :
    Uploaded platform p body opts final := by
  cases revisionOfUid with
  | none =>
      cases committed with
      | @file uid _ _ _ _ bytes verified moment streamed fits fresh =>
          rw [bytes_ownedStream] at streamed
          exact ⟨_, bytes, verified, streamed, rfl, fits, rfl, rfl, rfl,
            platform.showName_ok _ rfl, uid, _, Drive.get_addFile _ _ _ _ _ _, rfl,
            target.addFile fresh⟩
  | some uid =>
      cases committed with
      | @revision _ _ _ bytes stored verified streamed fits located isFile =>
          rw [bytes_ownedStream] at streamed
          rcases target with ⟨_, folder, found, _, live, named, inside, lies⟩
          rw [located] at found
          cases found
          exact ⟨{ stored with
              activeRevision :=
                some (storedRevision platform (putMetadata platform p opts) bytes verified)
              bytes := bytes }, bytes, verified, streamed, rfl, fits, isFile, live, rfl, named,
            uid, folder, Drive.get_revise _ _ located, inside,
            lies.revise _ _ located isFile⟩

private theorem upload_ends {p : JsString} {parent : NodeEntity} {revisionOfUid : Option Uid}
    {body : BodyStream} {opts : PutOptions} (same : world.remote = drive)
    (target : Target platform drive p parent revisionOfUid) :
    (soleWriter platform).Ensures (upload platform p parent revisionOfUid body opts)
      (Ends fun result reached => result ≠ .skippedIdentical ∧
        Uploaded platform p body opts reached.remote) world := by
  refine Rules.Ensures.tryCatch (ends_bind (requestUploader_ends same) ?_)
    (fun result reached ends => ends)
    fun error reached fails => ends_cleanup (abandonUpload_ends p) (status_mapUploadError p fails)
  rintro _ reached ⟨rfl, same⟩
  refine ends_bind (ends_request same) ?_
  rintro _ reached ⟨rfl, same⟩
  refine ends_bind (ends_request same) fun _ reached committed => ?_
  refine ends_bind (ends_modify rfl) fun _ final same => ?_
  rw [← same] at committed
  exact ⟨by split <;> simp, uploaded_of_commits target committed⟩

/-! ## The whole PUT -/

/-- What a PUT of `body` has left at a path, by its result. -/
def PutLeaves (platform : Platform) (drive : Drive) (p : JsString) (body : BodyStream)
    (opts : PutOptions) (result : PutResult) (final : Drive) : Prop :=
  isRoot p = false ∧
    match putTarget opts (drive.nodeAt platform p true) with
    | .identical => result = .skippedIdentical ∧ final = drive
    | _ => result ≠ .skippedIdentical ∧ Uploaded platform p body opts final

/-- The path of an upload holds a file that may be revised. -/
private theorem target_of_revise {p : JsString} {parent : NodeEntity} {opts : PutOptions}
    {uid : Uid} (inside : isRoot p = false)
    (revises : putTarget opts (drive.nodeAt platform p true) = .revise uid) :
    Target platform drive p parent (some uid) := by
  cases found : drive.nodeAt platform p true with
  | none =>
      rw [found] at revises
      cases revises
  | some node =>
      have isFile : node.type = .file ∧ node.uid = uid := by
        simp only [found, putTarget] at revises
        split at revises
        · cases revises
        · split at revises
          · next isFile _ =>
              split at revises
              · cases revises
              · split at revises
                · cases revises
                · cases revises
                  exact ⟨isFile, rfl⟩
          · cases revises
      rcases Drive.nodeAt_eq_some inside found with ⟨folder, lies, member, named, live⟩
      rcases Drive.mem_children.mp member with ⟨stored, within, _⟩
      rcases Drive.getNode_eq_some.mp stored with ⟨stored, located, equal⟩
      rw [← equal] at within named live isFile
      rw [← equal, isFile.2] at located
      exact ⟨stored, folder, located, isFile.1, live, named, within, lies⟩

private theorem immutable_fails (message : JsString) :
    400 ≤ (GatewayError.immutablePrecondition message).httpStatus := by
  simp [GatewayError.immutablePrecondition]

private theorem ends_inside {α : Type} {good : α → ServiceWorld → Prop} {p : JsString}
    (inside : isRoot p = false) (outcome : Except Thrown α) (final : ServiceWorld)
    (ends : Ends good outcome final) :
    Ends (fun value reached => isRoot p = false ∧ good value reached) outcome final := by
  cases outcome with
  | ok value => exact ⟨inside, ends⟩
  | error error => exact ends

private theorem putInto_ends {p : JsString} {parent : NodeEntity} {body : BodyStream}
    {opts : PutOptions} (same : world.remote = drive) (accurate : Accurate platform world)
    (inside : isRoot p = false)
    (lies : Drive.FolderAt platform drive (segments (parentPath p)) parent.uid) :
    (soleWriter platform).Ensures (putInto platform p parent body opts)
      (Ends fun result reached =>
        PutLeaves platform drive p body opts result reached.remote) world := by
  refine ends_bind (ends_resolve p true same accurate) ?_
  rintro _ reached ⟨same, _, rfl⟩
  unfold PutLeaves
  cases chosen : putTarget opts (drive.nodeAt platform p true) with
  | collection => exact refusePut_ends (by simp [GatewayError.plain])
  | identical =>
      apply (cancelBody_ends same).bind
      · intro error final ends
        rcases ends with ⟨⟨value, equal⟩, _⟩
        cases equal
      · exact fun _ final done => ⟨inside, rfl, done.2⟩
  | immutable => exact refusePut_ends (immutable_fails _)
  | revise uid =>
      exact (upload_ends same (target_of_revise inside chosen)).mono (ends_inside inside)
  | free =>
      have target : Target platform drive p parent none := lies
      exact (upload_ends same target).mono (ends_inside inside)

private theorem put_ends {p : JsString} {body : BodyStream} {opts : PutOptions}
    (normal : normalize p = p) (same : world.remote = drive)
    (accurate : Accurate platform world) :
    (soleWriter platform).Ensures (put platform p body opts)
      (Ends fun result reached =>
        PutLeaves platform drive p body opts result reached.remote) world := by
  unfold put
  rw [normal]
  dsimp only
  split
  · exact refusePut_ends (by simp [GatewayError.plain])
  next inside =>
  split
  · exact refusePut_ends (by simp [GatewayError.plain])
  split
  · exact refusePut_ends (by simp [GatewayError.plain])
  have looked : (soleWriter platform).Ensures (resolveParent platform p)
      (Ends fun found reached => reached.remote = drive ∧ Accurate platform reached ∧
        found = drive.nodeAt platform (parentPath p) false) world := by
    refine (ends_resolve (parentPath p) false same accurate).tryCatch (fun _ _ ends => ends) ?_
    exact fun error reached fails =>
      ends_cleanup (fun _ => (cancelBody_ends rfl).mono fun _ _ done => done.1)
        (status_mapGenericError fails)
  refine ends_bind looked ?_
  rintro found reached ⟨same, accurate, located⟩
  cases found with
  | none => exact refusePut_ends (by simp [parentMissing, GatewayError.conflict])
  | some parent =>
      dsimp only
      split
      · exact refusePut_ends (by simp [parentMissing, GatewayError.conflict])
      · next isFolder =>
          refine putInto_ends same accurate (by simpa using inside) ⟨parent, ?_, ?_, rfl⟩
          · rw [Drive.nodeAt] at located
            split at located
            · exact located.symm
            · cases located
          · exact Decidable.of_not_not isFolder

/-! ## The answer -/

/-- The committed file is what the request carried and declared. -/
structure StoresBody (platform : Platform) (req : Request) (stored : DriveNode) : Prop where
  bytes : (req.body.getD .done).bytes = some stored.bytes
  size : ∀ declared, parseContentLength (req.header "Content-Length") = some declared →
    (stored.bytes.length : Int) = declared
  sha1 : ∀ digest, parseOcChecksum (req.header "OC-Checksum") = some digest →
    platform.sha1 stored.bytes = digest

/-- The revision in place claims to be what the request declares. -/
structure AlreadyHas (req : Request) (revision : Revision) : Prop where
  sha1 : ∃ digest, parseOcChecksum (req.header "OC-Checksum") = some digest ∧
    revision.claimedSha1.map JsString.toLowerCase = some digest
  size : ∀ declared, parseContentLength (req.header "Content-Length") = some declared →
    revision.claimedSize.map (fun size => (size : Int)) = some declared

/-- A text writes a whole number of seconds, one that a date can hold. -/
def WritesSeconds (text : JsString) (seconds : Int) : Prop :=
  text.writtenInteger = some seconds ∧
    -Date.maxMilliseconds ≤ seconds * 1000 ∧ seconds * 1000 ≤ Date.maxMilliseconds

/-- The stored time is the whole number of seconds that the request writes. -/
def StoresTime (req : Request) (revision : Revision) : Prop :=
  ∃ text seconds, truthy (req.header "X-OC-Mtime") = some text ∧ WritesSeconds text seconds ∧
    revision.claimedModificationTime = some ⟨some (seconds * 1000)⟩

/-- A successful PUT has stored its body, and says so of the time exactly when
it has stored that too; or it has changed nothing and the file was there. -/
def PutAnswerHolds (platform : Platform) (req : Request) (drive final : Drive)
    (response : Response ReadStream) : Prop :=
  (∃ stored revision, final.HoldsFile platform req.path stored revision ∧
      StoresBody platform req stored ∧
      (mtimeAccepted ∈ response.headers ↔ StoresTime req revision)) ∨
    (final = drive ∧ mtimeAccepted ∉ response.headers ∧
      ∃ stored revision, final.HoldsFile platform req.path stored revision ∧
        AlreadyHas req revision)

/-- A time in the request is a whole number of seconds that a date can hold. -/
def TimeFits (req : Request) : Prop :=
  ∀ text, truthy (req.header "X-OC-Mtime") = some text → ∃ seconds, WritesSeconds text seconds

/-- The file at the path is taken for the one that the request carries. -/
def IsIdentical (platform : Platform) (opts : WebdavOptions) (req : Request)
    (drive : Drive) : Prop :=
  putTarget (putOptions opts req) (drive.nodeAt platform req.path true) = .identical

private theorem mtimeAccepted_ne {name value : JsString} (other : mtimeAccepted.1 ≠ name) :
    mtimeAccepted ≠ (name, value) :=
  fun equal => other (congrArg Prod.fst equal)

private theorem mtimeAccepted_mem {Stream : Type} (putOpts : PutOptions) (result : PutResult) :
    mtimeAccepted ∈ (putResponse putOpts result : Response Stream).headers ↔
      result ≠ .skippedIdentical ∧ putOpts.mtime.isSome = true := by
  have digest : mtimeAccepted ∉ sha1Header putOpts.sha1 := by
    unfold sha1Header
    split
    · exact List.not_mem_nil
    · exact fun member => mtimeAccepted_ne (by decide) (List.mem_singleton.mp member)
  have common : ∀ status headers,
      mtimeAccepted ∈ (davResponse status none headers : Response Stream).headers ↔
        mtimeAccepted ∈ headers := by
    intro status headers
    simp only [davResponse, List.mem_cons]
    rw [or_iff_right (mtimeAccepted_ne (by decide)), or_iff_right (mtimeAccepted_ne (by decide))]
  cases result with
  | skippedIdentical => simp [putResponse, common, digest]
  | created => cases time : putOpts.mtime.isSome <;> simp [putResponse, common, time, digest]
  | updated => cases time : putOpts.mtime.isSome <;> simp [putResponse, common, time, digest]

/-- A time that fits is stored as it is written. -/
private theorem ofMilliseconds_of_writesSeconds {text : JsString} {seconds : Int}
    (writes : WritesSeconds text seconds) :
    Date.ofMilliseconds (text.parseInt.map fun seconds => seconds * 1000) =
      ⟨some (seconds * 1000)⟩ := by
  rcases writes with ⟨written, low, high⟩
  have parsed : text.parseInt = some seconds := by
    unfold JsString.writtenInteger at written
    split at written
    · exact written
    · cases written
  simp [Date.ofMilliseconds, Option.filter_eq_some_iff, parsed, low, high]

private theorem isSome_parseOcMtime (header : Option JsString) :
    (parseOcMtime header).isSome = true ↔ ∃ text, truthy header = some text := by
  simp [parseOcMtime, Option.isSome_iff_exists]

/-- Where the time of the request is what the revision was given, the header
speaks the truth if the time fits. -/
private theorem accepted_of_timeFits {req : Request} {revision : Revision}
    (time : revision.claimedModificationTime = parseOcMtime (req.header "X-OC-Mtime"))
    (fits : TimeFits req) :
    (parseOcMtime (req.header "X-OC-Mtime")).isSome = true ↔ StoresTime req revision := by
  rw [isSome_parseOcMtime]
  constructor
  · rintro ⟨text, present⟩
    rcases fits text present with ⟨seconds, writes⟩
    refine ⟨text, seconds, present, writes, ?_⟩
    rw [time, parseOcMtime, present, Option.map_some, ofMilliseconds_of_writesSeconds writes]
  · rintro ⟨text, _, present, _⟩
    exact ⟨text, present⟩

/-- A header that speaks the truth of any revision shows that the time fits. -/
private theorem timeFits_of_accepted {req : Request} {revision : Revision}
    (accepted : (parseOcMtime (req.header "X-OC-Mtime")).isSome = true → StoresTime req revision) :
    TimeFits req := by
  intro text present
  rcases accepted ((isSome_parseOcMtime _).mpr ⟨text, present⟩) with
    ⟨other, seconds, same, writes, _⟩
  rw [present] at same
  cases same
  exact ⟨seconds, writes⟩

private theorem ne_nil_of_parseOcChecksum {header : Option JsString} {digest : JsString}
    (parsed : parseOcChecksum header = some digest) : truthy (some digest) = some digest := by
  unfold parseOcChecksum at parsed
  split at parsed
  · cases parsed
  · rcases List.exists_of_findSome?_eq_some parsed with ⟨token, _, found⟩
    split at found
    · next value _ _ =>
        split at found
        · next named =>
            cases found
            simp only [ne_eq, Bool.and_eq_true, decide_eq_true_eq] at named
            rcases List.exists_cons_of_ne_nil named.1.2 with ⟨first, rest, rfl⟩
            rfl
        · cases found
    · cases found

/-- What an identical file at the path claims. -/
private theorem alreadyHas_of_identical {req : Request} (inside : isRoot req.path = false)
    (identical : IsIdentical platform opts req drive) :
    ∃ stored revision, drive.HoldsFile platform req.path stored revision ∧
      AlreadyHas req revision := by
  unfold IsIdentical at identical
  cases found : drive.nodeAt platform req.path true with
  | none =>
      rw [found] at identical
      cases identical
  | some node =>
      simp only [found, putTarget] at identical
      split at identical
      · cases identical
      split at identical
      · next revision isFile revised =>
          split at identical
          · next same =>
              rcases Drive.nodeAt_eq_some inside found with ⟨folder, lies, member, named, live⟩
              rcases Drive.mem_children.mp member with ⟨fetched, within, _⟩
              rcases Drive.getNode_eq_some.mp fetched with ⟨stored, located, equal⟩
              rw [← equal] at within named live isFile revised
              simp only [Bool.and_eq_true, Bool.or_eq_true, decide_eq_true_eq] at same
              refine ⟨stored, revision, ⟨isFile, live, revised, named, node.uid, folder, located,
                within, lies⟩, ?_, ?_⟩
              · cases digest : parseOcChecksum (req.header "OC-Checksum") with
                | none =>
                    have present := same.1.1
                    rw [putOptions, digest] at present
                    cases present
                | some digest' => exact ⟨digest', rfl, same.1.2.trans digest⟩
              · intro declared size
                rcases same.2 with absent | equal
                · have none := size.symm.trans absent
                  cases none
                · exact equal.trans size
          · split at identical <;> cases identical
      · cases identical

/-- What holds of the answer to an upload, from what the upload left. -/
private theorem putAnswerHolds_iff {req : Request} {body : BodyStream} {result : PutResult}
    {final : Drive} (carried : putBody req = .ok body)
    (leaves : PutLeaves platform drive req.path body (putOptions opts req) result final) :
    PutAnswerHolds platform req drive final (putResponse (putOptions opts req) result) ↔
      TimeFits req ∨ IsIdentical platform opts req drive := by
  rcases leaves with ⟨inside, leaves⟩
  have source : req.body.getD .done = body := by
    unfold putBody at carried
    split at carried
    · next present => rw [present]; cases carried; rfl
    · next absent _ => rw [absent]; cases carried; rfl
    · cases carried
    · cases carried
  unfold PutAnswerHolds
  rw [mtimeAccepted_mem]
  by_cases identical : IsIdentical platform opts req drive
  · have kept : result = .skippedIdentical ∧ final = drive := by
      rw [show putTarget _ _ = _ from identical] at leaves
      exact leaves
    rcases kept with ⟨rfl, rfl⟩
    exact iff_of_true (.inr ⟨rfl, by simp, alreadyHas_of_identical inside identical⟩)
      (.inr identical)
  · have uploaded : result ≠ .skippedIdentical ∧
        Uploaded platform req.path body (putOptions opts req) final := by
      cases chosen : putTarget (putOptions opts req) (drive.nodeAt platform req.path true) with
      | identical => exact absurd chosen identical
      | _ =>
          rw [chosen] at leaves
          exact leaves
    rcases uploaded with ⟨written, stored, bytes, verified, streamed, rfl, fits, holds⟩
    have body : StoresBody platform req stored := by
      refine ⟨by rw [source]; exact streamed, fits.size, fun digest parsed => fits.sha1 digest ?_⟩
      rw [putMetadata, putOptions, parsed]
      exact ne_nil_of_parseOcChecksum parsed
    rw [or_iff_left identical, and_iff_right written]
    constructor
    · rintro (⟨other, revision, _, _, accepted⟩ | ⟨_, absent, _⟩)
      · exact timeFits_of_accepted accepted.mp
      · exact fun text present => absurd ((isSome_parseOcMtime _).mpr ⟨text, present⟩) absent
    · exact fun fits => .inl ⟨stored, _, holds, body, accepted_of_timeFits rfl fits⟩

private theorem armGuard_ends (path : JsString) (world : ServiceWorld) :
    (soleWriter platform).Ensures (armGuard (sdkGateway platform) opts path)
      (fun outcome _ => ∃ done, outcome = .ok done) world := by
  unfold armGuard
  split
  · have looked : (soleWriter platform).Ensures
        (tryCatch ((sdkGateway platform).stat path) fun _ => pure none)
        (fun outcome _ => ∃ found, outcome = .ok found) world :=
      (ensures_any _ _).tryCatch (fun found _ _ => ⟨found, rfl⟩) fun _ _ _ => ⟨none, rfl⟩
    refine looked.bind (fun _ _ ⟨_, equal⟩ => nomatch equal) fun found reached _ => ?_
    cases found with
    | none => exact ⟨(), rfl⟩
    | some entry => exact fun _ _ _ => ⟨trivial, (), rfl⟩
  · exact ⟨(), rfl⟩

private theorem handlePut_ends (req : Request) {path : JsString}
    (normal : normalize path = path) (same : world.remote = drive)
    (accurate : Accurate platform world) :
    (soleWriter platform).Ensures (handlePut (sdkGateway platform) opts req path)
      (Ends fun response final => ∃ body result, putBody req = .ok body ∧
        response = putResponse (putOptions opts req) result ∧
        PutLeaves platform drive path body (putOptions opts req) result final.remote)
      world := by
  unfold handlePut
  cases carried : putBody req with
  | error error =>
      have conflict := status_of_putBody carried
      simp [reject, Ends, Thrown.status, conflict]
  | ok body =>
      have stored : (soleWriter platform).Ensures (put platform path body (putOptions opts req))
          _ world := put_ends normal same accurate
      refine ends_bind (Rules.Ensures.tryCatch stored (fun _ _ ends => ends) ?_)
        fun result reached leaves => ⟨body, result, rfl, rfl, leaves⟩
      exact fun error reached fails => ends_cleanup (armGuard_ends path) fails

/-- A successful PUT is what it says it is exactly when the time that the request
writes fits, or nothing was written. -/
theorem successfulPut_holds_iff {req : Request} (isPut : Method.parse req.method = .put)
    (accurate : Accurate platform world) :
    (soleWriter platform).Ensures (handleRequest (sdkGateway platform) platform opts req)
      (fun outcome final => ∀ response, outcome = .ok response →
        response.status = 201 ∨ response.status = 204 →
        (PutAnswerHolds platform req world.remote final.remote response ↔
          TimeFits req ∨ IsIdentical platform opts req world.remote)) world := by
  refine Rules.ensures_bind.mpr (Rules.ensures_read.mpr fun now _ between => ⟨trivial, ?_⟩)
  dsimp only
  split
  · rintro response equal (created | updated)
    · cases equal
      cases created
    · cases equal
      cases updated
  · have dispatched : dispatch (sdkGateway platform) platform opts req req.path =
        handlePut (sdkGateway platform) opts req req.path := by
      rw [dispatch, isPut]
    rw [dispatched]
    refine (handlePut_ends req (normalize_normalize (decode req.pathname)) between.1
      (accurate.waits between)).tryCatch ?_ ?_
    · rintro _ final ⟨body, result, carried, rfl, leaves⟩ response equal _
      cases equal
      exact putAnswerHolds_iff carried leaves
    · rintro error final fails response equal success
      cases equal
      rw [status_errorToResponse] at success
      have fails' : 400 ≤ error.status := fails
      omega

end

/-! ## A time that is read only in part -/

/-- One way of answering: nothing fails, and a new file gets the identity 9. -/
def answerPlainly (platform : Platform) (world : ServiceWorld) :
    (command : SdkCall) → Except Thrown (SdkAnswer command) × ServiceWorld
  | .getPathNode =>
      match world.remote.getNode world.remote.root with
      | some node => (.ok node, world)
      | none => (.error (.sdk ⟨.other, "no such node"⟩), world)
  | .getNode uid =>
      match world.remote.getNode uid with
      | some node => (.ok node, world)
      | none => (.error (.sdk ⟨.other, "no such node"⟩), world)
  | .iterateFolderChildren parent _ =>
      (.ok ⟨world.remote.children platform parent.uid, none⟩, world)
  | .getFileUploader parent name metadata => (.ok (.file parent.uid name metadata), world)
  | .uploadFromStream uploader stream => (.ok ⟨uploader, stream⟩, world)
  | .completion ⟨.file parent name metadata, stream⟩ =>
      match stream.bytes, world.remote.nodes.get 9 with
      | some bytes, none =>
          if metadata.expectedSize = some (bytes.length : Int) ∧ metadata.expectedSha1 = none then
            (.ok (), ⟨world.memory, world.remote.addFile platform 9 parent name
              (storedRevision platform metadata bytes true) bytes ⟨some 0⟩⟩)
          else (.error (.sdk ⟨.integrity, "checks failed"⟩), world)
      | _, _ => (.error (.sdk ⟨.other, "not stored"⟩), world)
  | _ => (.error (.sdk ⟨.other, "not answered"⟩), world)

theorem answerPlainly_allowed (platform : Platform) (world : ServiceWorld) (command : SdkCall) :
    (answerPlainly platform world command).2.memory = world.memory ∧
      (soleWriter platform).service world.remote command (answerPlainly platform world command).1
        (answerPlainly platform world command).2.remote := by
  have failed : ∀ (command : SdkCall) (fault : SdkError), (soleWriter platform).service
      world.remote command (.error (.sdk fault)) world.remote :=
    fun _ fault => ⟨⟨fault, rfl⟩, fun _ => rfl⟩
  unfold answerPlainly
  split
  · split
    · next found => exact ⟨rfl, rfl, found⟩
    · exact ⟨rfl, failed _ _⟩
  · split
    · next found => exact ⟨rfl, rfl, found⟩
    · exact ⟨rfl, failed _ _⟩
  · exact ⟨rfl, rfl, List.prefix_rfl, fun _ => rfl⟩
  · exact ⟨rfl, rfl, rfl⟩
  · exact ⟨rfl, rfl, rfl⟩
  · split
    · next bytes streamed fresh =>
        split
        · next fits =>
            refine ⟨rfl, .file true ⟨some 0⟩ streamed ⟨fun expected size => ?_, fun expected sha1 => ?_⟩
              fresh⟩
            · rw [fits.1] at size
              exact Option.some.inj size
            · rw [fits.2] at sha1
              cases sha1
        · exact ⟨rfl, failed _ _⟩
    · exact ⟨rfl, failed _ _⟩
  · exact ⟨rfl, failed _ _⟩

def emptyDrive : Drive := .ofNodes 0 [(0, .folder none "my-files")]

/-- A PUT of five bytes to `/a` with a time. -/
def timedPut (time : JsString) : Request where
  method := "PUT"
  pathname := "/a"
  header name :=
    if name = "Content-Length" then some "5"
    else if name = "X-OC-Mtime" then some time
    else none
  body := some (.value [104, 101, 108, 108, 111] .done)
  text := none

def plainOptions : WebdavOptions := ⟨false, none, true⟩

/-- The time `1e9` is taken for one second, stored so, and called accepted. -/
theorem partialTime_misleads :
    ¬(soleWriter (.plain [])).Ensures
      (handleRequest (sdkGateway (.plain [])) (.plain []) plainOptions (timedPut "1e9"))
      (fun outcome final => ∀ response, outcome = .ok response →
        response.status = 201 ∨ response.status = 204 →
        PutAnswerHolds (.plain []) (timedPut "1e9") emptyDrive final.remote response)
      ⟨.initial 0, emptyDrive⟩ := by
  intro ensures
  have runs := Program.runs_run (answerPlainly (.plain []))
    (fun world command => (answerPlainly_allowed (.plain []) world command).1)
    (fun world command => (answerPlainly_allowed (.plain []) world command).2)
    (handleRequest (sdkGateway (.plain [])) (.plain []) plainOptions (timedPut "1e9"))
    ⟨.initial 0, emptyDrive⟩
  have holds := ensures.of_runs (fun _ => trivial) runs
  have answered : ((Program.run (answerPlainly (.plain []))
      (handleRequest (sdkGateway (.plain [])) (.plain []) plainOptions (timedPut "1e9"))
      ⟨.initial 0, emptyDrive⟩).1.toOption.map fun response =>
        (response.status, decide (mtimeAccepted ∈ response.headers))) = some (201, true) := by
    decide
  generalize Program.run (answerPlainly (.plain []))
    (handleRequest (sdkGateway (.plain [])) (.plain []) plainOptions (timedPut "1e9"))
    ⟨.initial 0, emptyDrive⟩ = ended at holds answered
  rcases ended with ⟨outcome, final⟩
  cases outcome with
  | error error => cases answered
  | ok response =>
      simp only [Except.toOption, Option.map_some, Option.some.injEq, Prod.mk.injEq,
        decide_eq_true_eq] at answered
      rcases holds response rfl (.inl answered.1) with ⟨_, _, _, _, accepted⟩ | ⟨_, absent, _⟩
      · rcases accepted.mp answered.2 with ⟨text, seconds, present, ⟨written, _⟩, _⟩
        have read : text = "1e9" := by
          have header : truthy ((timedPut "1e9").header "X-OC-Mtime") = some ("1e9" : JsString) := by
            decide
          exact Option.some.inj (present.symm.trans header)
        have none : JsString.writtenInteger "1e9" = none := by decide
        rw [read, none] at written
        cases written
      · exact absent answered.2

/-- The same PUT with its time written out is what it says it is. -/
theorem timedPut_holds :
    (soleWriter (.plain [])).Ensures
      (handleRequest (sdkGateway (.plain [])) (.plain []) plainOptions (timedPut "1000000000"))
      (fun outcome final => ∀ response, outcome = .ok response →
        response.status = 201 ∨ response.status = 204 →
        PutAnswerHolds (.plain []) (timedPut "1000000000") emptyDrive final.remote response)
      ⟨.initial 0, emptyDrive⟩ := by
  refine (successfulPut_holds_iff (by decide) (.initial 0 emptyDrive)).mono ?_
  intro outcome final holds response equal success
  refine (holds response equal success).mpr (.inl fun text present => ?_)
  have header : truthy ((timedPut "1000000000").header "X-OC-Mtime") =
      some ("1000000000" : JsString) := by decide
  rw [Option.some.inj (present.symm.trans header)]
  exact ⟨1000000000, by decide, by decide, by decide⟩

end DriveWebdav
