import DriveWebdav.SdkGateway.StorePut
import DriveWebdav.Webdav.ImmutableContent

/-! # Where content comes from

However requests run side by side, the content of a file comes from one upload, all of it, or was
there before. -/

namespace DriveWebdav

/-- Some committed file has these bytes. -/
def Drive.HasContent (drive : Drive) (bytes : Bytes) : Prop :=
  ∃ uid stored, drive.nodes.get uid = some stored ∧ stored.isCommitted = true ∧
    stored.bytes = bytes

/-- What is taken from the SDK: a file gets new content only when an upload completes, whose whole
body fits what was said of it. An upload is of the body, and for the metadata, that it was asked
for with. -/
structure CommitsUploads (platform : Platform)
    (sdk : Program.Service SdkCall SdkAnswer Thrown Drive) : Prop where
  content : ∀ drive command answer final, sdk drive command answer final → ∀ bytes,
    final.HasContent bytes → drive.HasContent bytes ∨
      ∃ controller, command = .completion controller ∧ controller.stream.bytes = some bytes ∧
        (SdkDouble.metadataOf controller.uploader).Fits platform bytes
  creates : ∀ drive parent name metadata uploader final,
    sdk drive (.getFileUploader parent name metadata) (.ok uploader) final →
      SdkDouble.metadataOf uploader = metadata
  revises : ∀ drive uid metadata uploader final,
    sdk drive (.getFileRevisionUploader uid metadata) (.ok uploader) final →
      SdkDouble.metadataOf uploader = metadata
  controller : ∀ drive uploader stream controller final,
    sdk drive (.uploadFromStream uploader stream) (.ok controller) final →
      controller = ⟨uploader, stream⟩

/-- The request is a PUT whose whole body these bytes are, of the size and the digest that it
declares. -/
def Request.Brings (platform : Platform) (opts : WebdavOptions) (req : Request)
    (bytes : Bytes) : Prop :=
  Method.parse req.method = .put ∧ ∃ body, putBody req = .ok body ∧ body.bytes = some bytes ∧
    (putOptions opts req).fits platform.sha1 bytes = true

/-- An upload for what the request says of its body. -/
def Uploader.Asked (platform : Platform) (opts : WebdavOptions) (req : Request)
    (uploader : Uploader) : Prop :=
  ∃ p, SdkDouble.metadataOf uploader = putMetadata platform p (putOptions opts req)

/-- An upload that a request completes is of its body. -/
def CompletesOwn (platform : Platform) (opts : WebdavOptions) (req : Request) : SdkCall → Prop
  | .completion controller => Method.parse req.method = .put ∧
      (∃ body, putBody req = .ok body ∧ controller.stream.bytes = body.bytes) ∧
      controller.uploader.Asked platform opts req
  | _ => True

section

variable {platform : Platform} {opts : WebdavOptions} {req : Request}
  {sdk : Program.Service SdkCall SdkAnswer Thrown Drive} {others : Drive → Drive → Prop}
  {condition : Process.Condition Request ServiceMemory SdkCall SdkAnswer Thrown Drive}

/-! ## What requests complete -/

/-- Requests permit each other everything but to complete another's upload. -/
def ownUploads (platform : Platform) (opts : WebdavOptions)
    (sdk : Program.Service SdkCall SdkAnswer Thrown Drive) (others : Drive → Drive → Prop)
    (condition : Process.Condition Request ServiceMemory SdkCall SdkAnswer Thrown Drive) :
    Process.Coexistence (requests platform opts sdk others) condition where
  invariant _ := True
  interference _ _ _ := True
  permits req _ command := CompletesOwn platform opts req command
  interference_refl _ _ := trivial
  interference_trans _ _ _ _ _ _ := trivial
  answered _ _ _ _ _ _ _ _ _ := ⟨trivial, fun _ _ => trivial⟩
  outside _ _ _ _ _ := ⟨trivial, fun _ _ => trivial⟩

theorem lenient_ownUploads (req : Request) :
    Lenient ((ownUploads platform opts sdk others condition).rules req) where
  guarantee _ _ := ⟨trivial, fun _ => trivial⟩
  reads := by
    intro now command reads
    cases command with
    | completion controller => cases reads
    | _ => trivial

theorem upload_ownUploads (commits : CommitsUploads platform sdk) {body : BodyStream}
    (puts : Method.parse req.method = .put) (brings : putBody req = .ok body) (p : JsString)
    (parent : NodeEntity) (revisionOfUid : Option Uid) :
    Makes ((ownUploads platform opts sdk others condition).rules req)
      (upload platform p parent revisionOfUid body (putOptions opts req)) := by
  apply makes_uploadOf (lenient_ownUploads req).tolerant p parent revisionOfUid body _
    (Uploader.Asked platform opts req)
  · intro world
    cases revisionOfUid with
    | none =>
        apply Rules.ensures_request.mpr
        intro now _ _
        refine ⟨trivial, ?_⟩
        intro answer remote answered uploader same
        rw [same] at answered
        exact ⟨p, commits.creates _ _ _ _ _ _ answered⟩
    | some uid =>
        apply Rules.ensures_request.mpr
        intro now _ _
        refine ⟨trivial, ?_⟩
        intro answer remote answered uploader same
        rw [same] at answered
        exact ⟨p, commits.revises _ _ _ _ _ answered⟩
  · exact fun _ _ _ => trivial
  · intro now uploader controller remote final asked answered
    rw [commits.controller _ _ _ _ _ answered]
    exact ⟨puts, ⟨body, brings, bytes_ownedStream body⟩, asked⟩

theorem handlePut_ownUploads (commits : CommitsUploads platform sdk)
    (puts : Method.parse req.method = .put) (path : JsString) :
    Makes ((ownUploads platform opts sdk others condition).rules req)
      (handlePut (sdkGateway platform) opts req path) := by
  have lenient : Lenient ((ownUploads platform opts sdk others condition).rules req) :=
    lenient_ownUploads req
  unfold handlePut
  cases brings : putBody req with
  | error error => exact .reject _
  | ok body =>
      have put : Makes ((ownUploads platform opts sdk others condition).rules req)
          (DriveWebdav.put platform path body (putOptions opts req)) := by
        apply makes_put lenient.tolerant trivial
        intro p parent _
        apply makes_putInto lenient.tolerant trivial
        · exact fun _ _ _ => upload_ownUploads commits puts brings p parent _
        · exact upload_ownUploads commits puts brings p parent none
      apply Makes.bind
      · apply put.tryCatch
        exact fun _ => (makes_armGuard lenient path).bind fun _ => .throw _
      · exact fun _ => .pure _

theorem launch_ownUploads (commits : CommitsUploads platform sdk) (req : Request) :
    Makes ((ownUploads platform opts sdk others condition).rules req)
      ((requests platform opts sdk others).launch req) := by
  have lenient : Lenient ((ownUploads platform opts sdk others condition).rules req) :=
    lenient_ownUploads req
  by_cases puts : Method.parse req.method = .put
  · apply Makes.bind
    · apply (Makes.read lenient).bind
      intro memory
      split
      · exact .pure _
      · unfold dispatch
        rw [puts]
        exact (handlePut_ownUploads commits puts req.path).tryCatch fun _ => .pure _
    · exact fun _ => .pure _
  · apply makes_launch lenient sdk others
    constructor
    · exact fun put => absurd put puts
    · exact fun _ path => makes_mkcol lenient path fun _ _ _ => trivial
    · exact fun _ _ => makes_remove lenient.tolerant trivial fun _ _ => trivial
    · exact fun _ _ _ => makes_move lenient.tolerant trivial trivial (fun _ _ _ => trivial)
        fun _ _ _ => trivial
    · exact fun _ _ _ => makes_copy lenient.tolerant trivial trivial fun _ _ _ => trivial

/-! ## Runs -/

variable {sent : Request → Prop} {initial : ServiceWorld}
  {state : Process.State Request ServiceMemory SdkCall SdkAnswer Thrown Drive}

/-- However requests run side by side, whatever a file holds was there at the start, comes from
another client, or is the whole body of one PUT. -/
theorem content_origin (commits : CommitsUploads platform sdk) {foreign : Bytes → Prop}
    (brought : ∀ drive final, others drive final → ∀ bytes, final.HasContent bytes →
      drive.HasContent bytes ∨ foreign bytes)
    (reachable : (requests platform opts sdk others).Reachable (Process.Starting sent) initial
      state) (bytes : Bytes) (holds : state.world.remote.HasContent bytes) :
    initial.remote.HasContent bytes ∨ foreign bytes ∨
      ∃ req, sent req ∧ req.Brings platform opts bytes := by
  revert holds
  apply Process.Leads.induct (fun reached => reached.world.remote.HasContent bytes →
    initial.remote.HasContent bytes ∨ foreign bytes ∨
      ∃ req, sent req ∧ req.Brings platform opts bytes) .inl _ reachable
  intro event state next before step _ held holds
  rcases step.remote_cases with ⟨flight, command, answer, rfl, answered⟩ | ⟨_, acted⟩ | same
  · rcases commits.content _ _ _ _ answered bytes holds with earlier |
      ⟨controller, rfl, whole, fits⟩
    · exact held earlier
    · have respected : (ownUploads platform opts sdk others (Process.Starting sent)).Respected
          state :=
        Process.Coexistence.respected_of_reachable
          (fun req world _ => launch_ownUploads commits req world) trivial before
      rcases respected.permits step with ⟨puts, ⟨body, brings, same⟩, p, asked⟩
      rw [asked] at fits
      have started := Process.Reachable.labels before flight step.awaits.1
      exact .inr (.inr ⟨flight.label, started, puts, body, brings, same.symm.trans whole,
        fits_of_metadata fits⟩)
  · rcases acted with passes | ⟨_, changed⟩
    · rw [passes.1] at holds
      exact held holds
    · rcases brought _ _ changed bytes holds with earlier | new
      · exact held earlier
      · exact .inr (.inl new)
  · rw [same] at holds
    exact held holds

end

/-! ## An SDK that uploads -/

/-- The double as an SDK. -/
def doubleSdk (platform : Platform) (now : Date) :
    Program.Service SdkCall SdkAnswer Thrown Drive :=
  fun drive command answer final => SdkDouble.answer platform now drive command = (answer, final)

section

variable {platform : Platform} {now : Date} {drive : Drive} {uid : Uid} {bytes : Bytes}

theorem hasContent_of_delete (holds : (drive.delete uid).HasContent bytes) :
    drive.HasContent bytes := by
  rcases holds with ⟨other, stored, located, committed, same⟩
  by_cases deleted : other = uid
  · rw [deleted, Drive.delete, InsertionMap.get_delete_self] at located
    cases located
  · rw [Drive.delete, InsertionMap.get_delete_of_ne _ deleted] at located
    exact ⟨other, stored, located, committed, same⟩

theorem hasContent_of_commit {uploader : Uploader} {new : Bytes}
    (holds : (SdkDouble.commit platform now drive new uploader).HasContent bytes) :
    drive.HasContent bytes ∨ bytes = new := by
  rcases holds with ⟨other, stored, located, committed, same⟩
  cases uploader with
  | file parent name metadata =>
      rcases InsertionMap.get_set_eq_some located with ⟨_, rfl⟩ | ⟨_, earlier⟩
      · exact .inr same.symm
      · exact .inl ⟨other, stored, earlier, committed, same⟩
  | revision uid metadata =>
      rw [SdkDouble.commit, Drive.revise, InsertionMap.get_mapValues, Option.map_eq_some_iff]
        at located
      rcases located with ⟨earlier, located, rfl⟩
      by_cases revised : other = uid
      · rw [if_pos revised] at same
        exact .inr same.symm
      · rw [if_neg revised] at committed same
        exact .inl ⟨other, earlier, located, committed, same⟩

theorem hasContent_of_getFileUploader {parent : Uid} {name : JsString} {metadata : UploadMetadata}
    (holds : (SdkDouble.getFileUploader platform drive parent name metadata).2.HasContent bytes) :
    drive.HasContent bytes := by
  unfold SdkDouble.getFileUploader at holds
  split at holds
  · exact holds
  · dsimp only at holds
    split at holds
    · exact hasContent_of_delete holds
    · exact holds

theorem fits_of_completion {uploader : Uploader} {new : Bytes} {final : Drive}
    (completes : (SdkDouble.completion platform now drive uploader new).2 = final)
    (changed : final ≠ drive) : (SdkDouble.metadataOf uploader).Fits platform new ∧
      final = SdkDouble.commit platform now drive new uploader := by
  unfold SdkDouble.completion at completes
  split at completes
  · exact absurd completes.symm changed
  · next digest =>
      split at completes
      · exact absurd completes.symm changed
      · next size =>
          refine ⟨⟨?_, ?_⟩, completes.symm⟩
          · intro expected known
            rw [known] at size
            exact (by simpa using size : expected = _).symm
          · intro expected known
            rw [known] at digest
            exact (by simpa using digest : expected = _).symm

theorem commitsUploads_doubleSdk : CommitsUploads platform (doubleSdk platform now) where
  content := by
    intro drive command answer final answered bytes holds
    have reached : (SdkDouble.answer platform now drive command).2 = final :=
      congrArg Prod.snd answered
    by_cases same : final = drive
    · rw [same] at holds
      exact .inl holds
    · cases command with
      | getFileUploader parent name metadata =>
          rw [← reached] at holds
          exact .inl (hasContent_of_getFileUploader holds)
      | uploadFromStream uploader stream =>
          rw [SdkDouble.answer] at reached
          split at reached
          · exact absurd reached.symm same
          · exact absurd reached.symm same
      | completion controller =>
          rw [SdkDouble.answer] at reached
          split at reached
          · next new whole =>
              rcases fits_of_completion reached same with ⟨fits, rfl⟩
              rcases hasContent_of_commit holds with earlier | rfl
              · exact .inl earlier
              · exact .inr ⟨controller, rfl, whole, fits⟩
          · exact absurd reached.symm same
      | _ => exact absurd reached.symm same
  creates := by
    intro drive parent name metadata uploader final answered
    have given := congrArg Prod.fst answered
    simp only [SdkDouble.answer, SdkDouble.getFileUploader] at given
    split at given
    · cases given
      rfl
    · split at given
      · cases given
        rfl
      · cases given
  revises := by
    intro drive uid metadata uploader final answered
    cases congrArg Prod.fst answered
    rfl
  controller := by
    intro drive uploader stream controller final answered
    have given := congrArg Prod.fst answered
    rw [SdkDouble.answer] at given
    split at given
    · cases given
      rfl
    · cases given

end

def uploadRequests : Process Request ServiceMemory SdkCall SdkAnswer Thrown Drive :=
  requests (.plain []) plainOptions (doubleSdk (.plain []) SdkDouble.addedAt) nobody

/-- A PUT of two bytes to `/b`. -/
def otherPut : Request where
  method := "PUT"
  pathname := "/b"
  header _ := none
  body := some (.value [104, 105] .done)
  text := none

/-- The request that has started last moves on by so many steps. -/
def uploading (steps : Nat) : Process.State Request ServiceMemory SdkCall SdkAnswer Thrown Drive →
    Process.State Request ServiceMemory SdkCall SdkAnswer Thrown Drive :=
  (Process.advance (SdkDouble.answer (.plain []) SdkDouble.addedAt))^[steps]

/-- A PUT of five bytes has begun its upload. -/
def oneUpload : Process.State Request ServiceMemory SdkCall SdkAnswer Thrown Drive :=
  uploading 11 ⟨⟨.initial 0, emptyDrive⟩,
    [⟨timedPut "1000000000", [], uploadRequests.launch (timedPut "1000000000")⟩]⟩

/-- Another PUT has begun its upload, and both go on by so many steps. -/
def twoUploads (steps : Nat) : Process.State Request ServiceMemory SdkCall SdkAnswer Thrown Drive :=
  uploading steps (uploading 9
    ⟨oneUpload.world, ⟨otherPut, [], uploadRequests.launch otherPut⟩ :: oneUpload.inFlight⟩)

theorem leads_uploading {sent : Request → Prop} (steps : Nat)
    (state : Process.State Request ServiceMemory SdkCall SdkAnswer Thrown Drive) :
    uploadRequests.Leads (Process.Starting sent) state (uploading steps state) :=
  Process.leads_iterate_starting (fun _ _ => rfl) sent steps state

theorem twoUploads_reachable (steps : Nat) : uploadRequests.Reachable
    (Process.Starting fun req => req = timedPut "1000000000" ∨ req = otherPut)
    ⟨.initial 0, emptyDrive⟩ (twoUploads steps) := by
  have begun : uploadRequests.Reachable
      (Process.Starting fun req => req = timedPut "1000000000" ∨ req = otherPut)
      ⟨.initial 0, emptyDrive⟩ oneUpload := by
    refine .head ⟨_, .start (timedPut "1000000000") _ [], ?_⟩ (leads_uploading 11 _)
    rintro other ⟨⟩
    exact .inl rfl
  have joined : uploadRequests.Leads
      (Process.Starting fun req => req = timedPut "1000000000" ∨ req = otherPut) _ _ :=
    begun.tail ⟨_, .start otherPut oneUpload.world oneUpload.inFlight, by
      rintro other ⟨⟩
      exact .inr rfl⟩
  exact (joined.trans (leads_uploading 9 _)).trans (leads_uploading steps _)

theorem not_hasContent_emptyDrive : ¬emptyDrive.HasContent bytes := by
  rintro ⟨uid, stored, located, committed, _⟩
  have member := (InsertionMap.get_eq_some_iff _ _ _).mp located
  cases List.mem_singleton.mp member
  cases committed

/-- Two uploads wait for their completions side by side, and each file holds what its own PUT has
brought. -/
theorem content_origin_twoUploads :
    (∃ first second resume resumeToo, (twoUploads 0).inFlight.map Process.Flight.rest =
      [.await (.completion first) resume, .await (.completion second) resumeToo]) ∧
    (twoUploads 7).world.remote.HasContent [104, 101, 108, 108, 111] ∧
    (twoUploads 7).world.remote.HasContent [104, 105] ∧
    ∀ bytes, (twoUploads 7).world.remote.HasContent bytes → ∃ req,
      (req = timedPut "1000000000" ∨ req = otherPut) ∧
      req.Brings (.plain []) plainOptions bytes := by
  refine ⟨⟨_, _, _, _, rfl⟩, ⟨2, _, rfl, rfl, rfl⟩, ⟨1, _, rfl, rfl, rfl⟩, ?_⟩
  intro bytes holds
  have foreignless : ∀ drive final, nobody drive final → ∀ bytes, final.HasContent bytes →
      drive.HasContent bytes ∨ False := fun _ _ changed => changed.elim
  rcases content_origin commitsUploads_doubleSdk foreignless (twoUploads_reachable 7) _ holds with
    earlier | foreign | brought
  · exact absurd earlier not_hasContent_emptyDrive
  · exact foreign.elim
  · exact brought

end DriveWebdav
