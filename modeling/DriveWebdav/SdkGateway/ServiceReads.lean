import DriveWebdav.SdkGateway.Service
import DriveWebdav.SdkGateway.StoreReads

/-! # What the service over the SDK answers

The answers to GET and PROPFIND in a session, and the bodies that arrive. -/

namespace DriveWebdav

variable {platform : Platform} {world last : ServiceWorld} {drive : Drive}
  {node : NodeEntity} {content body : Bytes} {range : Option ByteRange} {stream : ReadStream}
  {path : JsString}

/-! ## Bodies -/

/-- A body that arrives in full, where the SDK yields the bytes of the node from the start, and of
a part that is sought the bytes from there. -/
inductive Receives (platform : Platform) (path : JsString) (drive : Drive) :
    ReadStream → Bytes → Prop
  | empty : Receives platform path drive .empty []
  | whole {node : NodeEntity} {content : Bytes} {revision : Revision}
      {events : List WholeRead.Event} {final : WholeRead} (holds : drive.Holds node content)
      (ran : (WholeRead.machine platform path revision content.length).play WholeRead.start events =
        some final)
      (serves : (WholeRead.written events).flatten <+: content) (ends : final.EndsCleanly) :
      Receives platform path drive (.whole node content.length)
        (final.stream.drain (final.stream.queue.length + 1)).delivered.flatten
  | seekable {node : NodeEntity} {content : Bytes} {revision : Revision} {range : ByteRange}
      {first : Nat} {clientAborted : Bool} {events : List RangedRead.Event} {final : RangedRead}
      (holds : drive.Holds node content)
      (ran : (RangedRead.machine platform path revision range content.length).play
        (RangedRead.start clientAborted) events = some final)
      (serves : RangedRead.Serves content range events) (ends : final.EndsCleanly) :
      Receives platform path drive
        (.seekable node range.start (wantedBytes range content.length) first) final.delivered
  | skipping {node : NodeEntity} {content : Bytes} {revision : Revision} {range : ByteRange}
      {clientAborted : Bool} {events : List RangedRead.Event} {final : RangedRead}
      (holds : drive.Holds node content)
      (ran : (RangedRead.machine platform path revision range content.length).play
        (RangedRead.start clientAborted) events = some final)
      (serves : RangedRead.Serves content range events) (ends : final.EndsCleanly) :
      Receives platform path drive
        (.skipping node range.start (wantedBytes range content.length) content.length)
        final.delivered

theorem Drive.Holds.unique {other : Bytes} (holds : drive.Holds node content)
    (also : drive.Holds node other) : other = content :=
  Option.some.inj (also.symm.trans holds)

/-- Equal parts of one content. -/
theorem slice_congr {first second : ByteRange} (starts : second.start = first.start)
    (wanted : wantedBytes second content.length = wantedBytes first content.length) :
    second.slice content = first.slice content := by
  rw [ByteRange.slice, ByteRange.slice, starts, wanted]

/-- What arrives in full is what was asked for. -/
theorem received_of_carries (carries : stream.Carries drive content range)
    (receives : Receives platform path drive stream body) : body = partOf content range := by
  cases carries with
  | empty none =>
      rw [partOf_eq_slice, ByteRange.slice, none, List.take_zero]
      cases receives
      rfl
  | @whole node _ holds =>
      generalize same : ReadStream.whole node content.length = stream at receives
      cases receives with
      | whole also ran serves ends =>
          cases (ReadStream.whole.inj same).1
          cases holds.unique also
          exact WholeRead.delivered_of_endsCleanly ran serves ends
      | _ => cases same
  | @seekable node _ range first holds =>
      generalize same : ReadStream.seekable node range.start (wantedBytes range content.length)
        first = stream at receives
      cases receives with
      | seekable also ran serves ends =>
          rcases ReadStream.seekable.inj same with ⟨rfl, starts, wanted, _⟩
          cases holds.unique also
          rw [RangedRead.delivered_of_endsCleanly ran serves ends, partOf_eq_slice]
          exact slice_congr starts.symm wanted.symm
      | _ => cases same
  | @skipping node _ range holds =>
      generalize same : ReadStream.skipping node range.start (wantedBytes range content.length)
        content.length = stream at receives
      cases receives with
      | skipping also ran serves ends =>
          rcases ReadStream.skipping.inj same with ⟨rfl, starts, wanted, _⟩
          cases holds.unique also
          rw [RangedRead.delivered_of_endsCleanly ran serves ends, partOf_eq_slice]
          exact slice_congr starts.symm wanted.symm
      | _ => cases same

/-! ## Answers -/

section

variable {opts : WebdavOptions} {log before after between : List (Request × Response ReadStream)}
  {req : Request} {response : Response ReadStream}

/-- In any session over the SDK, a GET or PROPFIND that succeeds tells the tree that the requests
before it have made: the file with its length, its digest and the part asked for, or the entries of
a folder, each once, and all of them where no name is unfit and every size is known. -/
theorem sdkSession_tells
    (session : (sdkView platform).Session (sdkGateway platform) platform opts world
      (before ++ (req, response) :: after) last) (steady : Steady platform world) :
    ∃ performed tree next, Performs platform opts before performed ∧
      ShownTree.Run platform.sha1 (world.remote.tree platform) performed tree ∧
      (sdkView platform).Session (sdkGateway platform) platform opts world
        (before ++ [(req, response)]) next ∧
      AnswerTells platform.sha1 tree (ReadStream.Carries next.remote)
        (next.remote.Clear platform) req response :=
  session.answerTells (shows_sdkView platform) (reports_sdkView platform) (lists_sdkView platform)
    steady fun _ _ _ _ => trivial

/-- A client lists the root. -/
def listRoot : Request where
  method := "PROPFIND"
  pathname := "/"
  header name := if name = "Depth" then some "1" else none
  body := none
  text := none

theorem sdkSession_tells_listRoot :
    ∃ made response performed tree next,
      Performs (.plain []) plainOptions [(folderRequest, (made : Response ReadStream))] performed ∧
      ShownTree.Run (Platform.plain []).sha1 (emptyDrive.tree (.plain [])) performed tree ∧
      (sdkView (.plain [])).Session (sdkGateway (.plain [])) (.plain []) plainOptions
        ⟨.initial 0, emptyDrive⟩ [(folderRequest, made), (listRoot, response)] next ∧
      AnswerTells (Platform.plain []).sha1 tree (ReadStream.Carries next.remote)
        (next.remote.Clear (.plain [])) listRoot response := by
  have steady := steady_initial sound_emptyDrive 0
  rcases exists_session (fun _ => rfl) plainOptions [folderRequest, listRoot] steady with
    ⟨log, last, same, session⟩
  rcases List.map_eq_cons_iff.mp same with ⟨⟨_, made⟩, others, rfl, rfl, more⟩
  rcases List.map_eq_cons_iff.mp more with ⟨⟨_, response⟩, rest, rfl, rfl, _⟩
  have whole : (sdkView (.plain [])).Session (sdkGateway (.plain [])) (.plain []) plainOptions
    ⟨.initial 0, emptyDrive⟩ ([(folderRequest, made)] ++ (listRoot, response) :: rest) last :=
    session
  exact ⟨made, response, sdkSession_tells whole steady⟩

/-- What a PUT has stored is what arrives of a GET of its path, whatever requests that leave the
path come between them and however calls fail. -/
theorem sdkSession_putGet {put get : Request} {stored sent : Response ReadStream}
    {body : BodyStream}
    (session : (sdkView platform).Session (sdkGateway platform) platform opts world
      ((put, stored) :: (between ++ (get, sent) :: after)) last)
    (steady : Steady platform world)
    (puts : Method.parse put.method = .put) (brings : putBody put = .ok body)
    (stores : stored.status = 201 ∨ stored.status = 204)
    (leaves : LeavesAt platform opts (segments put.path) between)
    (gets : Method.parse get.method = .get) (same : segments get.path = segments put.path)
    (sends : sent.status = 200 ∨ sent.status = 206) :
    ∃ bytes range next, body.Means platform.sha1 (putOptions opts put) bytes ∧
      (sdkView platform).Session (sdkGateway platform) platform opts world
        ((put, stored) :: (between ++ [(get, sent)])) next ∧
      sent.SendsFile platform.sha1 (ReadStream.Carries next.remote) get bytes range ∧
      ∀ stream received, sent.body = .stream stream →
        Receives platform get.path next.remote stream received → received = partOf bytes range := by
  have grounded : (world.remote.tree platform).Grounded .folder :=
    Drive.grounded_tree steady.sound.plain.isFolder
  rcases session.putGet (shows_sdkView platform) (reports_sdkView platform) steady grounded
    (fun _ _ _ _ => trivial) puts brings stores leaves gets same sends with
    ⟨bytes, range, next, means, answered, file⟩
  refine ⟨bytes, range, next, means, answered, file, ?_⟩
  intro stream received streamed receives
  rcases file.body with ⟨carried, known, carries⟩
  cases known.symm.trans streamed
  exact received_of_carries carries receives

/-- Between the PUT and the GET a folder is refused at the path and the root is listed. -/
theorem sdkSession_putGet_getRequest :
    ∃ (stored : Response ReadStream) (between : List (Request × Response ReadStream))
      (sent : Response ReadStream) (bytes : Bytes) (range : Option ByteRange)
      (next : ServiceWorld),
      between.map Prod.fst = [folderRequest, listRoot] ∧
      between.map (fun entry => some entry.2.status) = [some 405, some 207] ∧
      (BodyStream.value [104, 101, 108, 108, 111] .done).Means (Platform.plain []).sha1
        (putOptions plainOptions putRequest) bytes ∧
      (sdkView (.plain [])).Session (sdkGateway (.plain [])) (.plain []) plainOptions
        ⟨.initial 0, emptyDrive⟩ ((putRequest, stored) :: (between ++ [(getRequest, sent)])) next ∧
      sent.SendsFile (Platform.plain []).sha1 (ReadStream.Carries next.remote) getRequest bytes
        range ∧
      ∀ stream received, sent.body = .stream stream →
        Receives (.plain []) getRequest.path next.remote stream received →
        received = partOf bytes range := by
  have steady := steady_initial sound_emptyDrive 0
  rcases session_runRequests steady [putRequest, folderRequest, listRoot, getRequest] with
    ⟨log, same, statuses, session⟩
  have computed : (runRequests ⟨.initial 0, emptyDrive⟩
      [putRequest, folderRequest, listRoot, getRequest]).1 =
        [some 201, some 405, some 207, some 200] := by
    decide
  rw [computed] at statuses
  rcases List.map_eq_cons_iff.mp same with ⟨⟨_, stored⟩, afterPut, rfl, rfl, others⟩
  rcases List.map_eq_cons_iff.mp others with ⟨⟨_, refused⟩, afterFolder, rfl, rfl, further⟩
  rcases List.map_eq_cons_iff.mp further with ⟨⟨_, listed⟩, afterList, rfl, rfl, last⟩
  rcases List.map_eq_cons_iff.mp last with ⟨⟨_, sent⟩, none, rfl, rfl, _⟩
  simp only [List.map_cons, List.cons.injEq, Option.some.injEq] at statuses
  rcases statuses with ⟨created, taken, multi, found, _⟩
  have leaves : LeavesAt (.plain []) plainOptions (segments putRequest.path)
      [(folderRequest, refused), (listRoot, listed)] := by
    intro entry member operation asks _
    rcases List.mem_cons.mp member with rfl | member
    · cases asks
      trivial
    · rw [List.mem_singleton.mp member] at asks
      cases asks
  have whole : (sdkView (.plain [])).Session (sdkGateway (.plain [])) (.plain []) plainOptions
      ⟨.initial 0, emptyDrive⟩ ((putRequest, stored) ::
        ([(folderRequest, refused), (listRoot, listed)] ++ (getRequest, sent) :: none)) _ := session
  rcases sdkSession_putGet whole steady rfl rfl (.inl created) leaves rfl rfl (.inl found) with
    ⟨bytes, range, next, means, answered, file, received⟩
  refine ⟨stored, [(folderRequest, refused), (listRoot, listed)], sent, bytes, range, next, rfl, ?_,
    means, answered, file, received⟩
  rw [List.map_cons, List.map_cons, taken, multi]
  rfl

end

end DriveWebdav
