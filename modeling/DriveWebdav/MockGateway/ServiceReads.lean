import DriveWebdav.MockGateway.Service
import DriveWebdav.Webdav.FileReads

/-! # What the service over the gateway in memory sends

A GET that succeeds sends the file that is seen, or of it what was asked for, unless a failure that
a test has set breaks its body off. -/

namespace DriveWebdav

namespace MockGateway

variable {gateway : MockGateway} {path : JsString} {digest : Bytes → JsString} {data : Bytes}
  {range : Option ByteRange}

theorem bytes_streamOf_cut (data : Bytes) : (streamOf true data).bytes = none := by
  fun_induction streamOf true data with
  | case1 => rfl
  | case2 uncut => exact absurd rfl uncut
  | case3 data inhabited induction => rw [BodyStream.bytes, induction, Option.map_none]

theorem sliceOf_eq_partOf (data : Bytes) (range : Option ByteRange) :
    sliceOf data range = partOf data range := by
  cases range with
  | none => rfl
  | some range =>
      rw [sliceOf, partOf, List.drop_take]
      by_cases inside : range.stop + 1 ≤ data.length
      · rw [Nat.min_eq_left inside]
      · rw [List.take_of_length_le, List.take_of_length_le]
        · rw [List.length_drop]
          omega
        · rw [List.length_drop]
          omega

/-- A body that is not broken off is what was asked for. -/
def Carries (stream : BodyStream) (content : Bytes) (range : Option ByteRange) : Prop :=
  ∀ sent, stream.bytes = some sent → sent = partOf content range

/-- A stream of the first bytes of a content that is cut if they are not all of it. -/
theorem eq_of_streamOf {limit : Nat} {sent : Bytes}
    (sends : (streamOf (decide (limit < data.length)) (data.take limit)).bytes = some sent) :
    sent = data := by
  by_cases cut : limit < data.length
  · rw [decide_eq_true cut, bytes_streamOf_cut] at sends
    cases sends
  · rw [decide_eq_false cut, bytes_streamOf, List.take_of_length_le (Nat.not_lt.mp cut)] at sends
    exact (Option.some.inj sends).symm

theorem tree_of_lookup {node : MockNode} (found : gateway.lookup (normalize path) = some node) :
    gateway.tree (segments path) = shownKind node.kind := by
  have branch := (kindAt_of_lookup found).1
  rw [segments_normalize] at branch
  have here := congrFun branch []
  rw [PathMap.branch, List.append_nil] at here
  rw [tree, PathMap.seen, ← here]
  cases node with
  | folder info below => rfl
  | leaf leaf => rfl

theorem told_stat (path : JsString) (truthful : Truthful digest gateway) :
    OrError (fun found => ∀ entry, found = some entry →
      gateway.tree.Told digest (segments path) entry) (stat path gateway).1 := by
  cases fails : gateway.fails "stat" with
  | true =>
      rw [stat, ticked_of_fails fails]
      exact Nat.le_of_ble_eq_true rfl
  | false =>
      rw [stat, ticked_of_not_fails fails]
      intro entry known
      rcases Option.bind_eq_some_iff.mp known with ⟨node, found, shown⟩
      have seen := tree_of_lookup found
      have branch := (kindAt_of_lookup found).1
      rw [segments_normalize] at branch
      have here := congrFun branch []
      rw [PathMap.branch, List.append_nil] at here
      unfold ShownTree.Told
      rw [seen]
      unfold toEntry at shown
      split at shown
      · cases shown
      · cases shown
        exact ⟨.folder, rfl, rfl⟩
      · next file =>
          cases shown
          refine ⟨.file file.data, rfl, rfl, rfl, ?_⟩
          intro sha1 reported
          cases reported
          have honest : gateway.faults.corruptSha1ForPath ≠ some (normalize path) := by
            rw [truthful.reports]
            exact (Option.some_ne_none _).symm
          rw [reportedSha1, if_neg honest]
          exact truthful.digests (segments path) file here.symm

theorem hands_read (gateway : MockGateway) (path : JsString) (range : Option ByteRange) :
    OrError (fun result => ∃ content, gateway.tree (segments path) = some (.file content) ∧
      result.Hands Carries content range) (read path range gateway).1 := by
  cases fails : gateway.fails "read" with
  | true =>
      rw [read, ticked_of_fails fails]
      exact Nat.le_of_ble_eq_true rfl
  | false =>
      rw [read, ticked_of_not_fails fails]
      split
      · next file found =>
          dsimp only
          split
          · exact Nat.le_of_ble_eq_true rfl
          · refine ⟨file.data, tree_of_lookup found, ?_, rfl, ?_⟩
            · rw [← sliceOf_eq_partOf]
            · intro sent sends
              rw [← sliceOf_eq_partOf]
              exact eq_of_streamOf sends
      · exact Nat.le_of_ble_eq_true rfl

theorem gives_request {call : Call} {good : call.Answer → Prop}
    {world : World ServiceMemory MockGateway} (truthful : Truthful digest world.remote)
    (gives : ∀ now gateway, Truthful digest gateway → gateway.tree = world.remote.tree →
      OrError good (calls digest now call gateway).1) :
    (view digest).rules.Ensures (Program.request call : Operation Call Call.Answer _)
      (fun outcome _ => OrError good outcome) world := by
  apply Rules.ensures_request.mpr
  intro before _ idles
  refine ⟨trivial, ?_⟩
  rintro outcome remote ⟨now, answered⟩
  have meanwhile : Unseen digest world.remote before.remote := unseen_idle idles
  have given := gives now before.remote (meanwhile.truthful truthful) meanwhile.tree
  rw [answered] at given
  exact given

theorem reports_view (digest : Bytes → JsString) :
    (view digest).Reports asDriveGateway fun _ => Carries where
  stat path world truthful := by
    apply gives_request truthful
    intro now gateway truthful same
    have told := told_stat path truthful
    rw [same] at told
    exact told
  read path range world truthful := by
    apply gives_request truthful
    intro now gateway _ same
    have hands : OrError _ _ := hands_read gateway path range
    rw [same] at hands
    exact hands

/-- What a PUT has stored is what a GET of its path sends, whatever requests that leave the path come
between them, unless a failure that a test has set breaks the body off. -/
theorem session_putGet {platform : Platform} {opts : WebdavOptions}
    {world last : World ServiceMemory MockGateway} {put get : Request}
    {stored sent : Response BodyStream} {body : BodyStream}
    {between after : List (Request × Response BodyStream)}
    (session : (view digest).Session asDriveGateway platform opts world
      ((put, stored) :: (between ++ (get, sent) :: after)) last)
    (truthful : Truthful digest world.remote)
    (regular : ∀ entry ∈ (put, stored) :: between, ∀ operation,
      entry.1.operation platform opts = some operation → Regular operation)
    (puts : Method.parse put.method = .put) (brings : putBody put = .ok body)
    (stores : stored.status = 201 ∨ stored.status = 204)
    (leaves : LeavesAt platform opts (segments put.path) between)
    (gets : Method.parse get.method = .get) (same : segments get.path = segments put.path)
    (sends : sent.status = 200 ∨ sent.status = 206) :
    ∃ bytes range, body.Means digest (putOptions opts put) bytes ∧
      sent.SendsFile digest Carries get bytes range := by
  rcases session.putGet (shows_view digest) (reports_view digest) truthful grounded_tree regular
    puts brings stores leaves gets same sends with ⟨bytes, range, next, means, _, file⟩
  exact ⟨bytes, range, means, file⟩

/-- What a request comes to, if nothing fails meanwhile. -/
def runRequest (world : World ServiceMemory MockGateway) (req : Request) :
    Except Thrown (Response BodyStream) × World ServiceMemory MockGateway :=
  Program.run (answerAt (fun _ => []) ⟨some 0⟩)
    (handleRequest asDriveGateway (.plain []) ⟨false, none, true⟩ req) world

def stored : Except Thrown (Response BodyStream) × World ServiceMemory MockGateway :=
  runRequest ⟨.initial 0, emptyStore⟩ putRequest

theorem handles_runRequest {world : World ServiceMemory MockGateway} {req : Request}
    {response : Response BodyStream} (answered : (runRequest world req).1 = .ok response) :
    (view fun _ => []).rules.Runs
      (handleRequest asDriveGateway (.plain []) ⟨false, none, true⟩ req) world (.ok response)
      (runRequest world req).2 := by
  have runs := @runs_answerAt (fun _ => []) ⟨some 0⟩ _
    (handleRequest asDriveGateway (.plain []) ⟨false, none, true⟩ req) world
  change Program.Runs _ _ _ (runRequest world req).1 (runRequest world req).2 at runs
  rw [answered] at runs
  exact Rules.Runs.of_undisturbed runs

theorem session_putGet_getRequest :
    ∃ put get bytes range, stored.1 = .ok put ∧ (runRequest stored.2 getRequest).1 = .ok get ∧
      (BodyStream.value [104, 101, 108, 108, 111] .done).Means (fun _ => [])
        (putOptions ⟨false, none, true⟩ putRequest) bytes ∧
      get.SendsFile (fun _ => []) Carries getRequest bytes range := by
  have created : stored.1.toOption.map Response.status = some 201 := by
    decide
  have found : (runRequest stored.2 getRequest).1.toOption.map Response.status = some 200 := by
    decide
  cases put : stored.1 with
  | error error =>
      rw [put] at created
      cases created
  | ok first =>
      cases get : (runRequest stored.2 getRequest).1 with
      | error error =>
          rw [get] at found
          cases found
      | ok second =>
          rw [put] at created
          rw [get] at found
          have session : (view fun _ => []).Session asDriveGateway (.plain []) ⟨false, none, true⟩
              ⟨.initial 0, emptyStore⟩ ((putRequest, first) :: ([] ++ [(getRequest, second)]))
              (runRequest stored.2 getRequest).2 :=
            .request putRequest first (handles_runRequest put)
              (.request getRequest second (handles_runRequest get) (.nil _))
          have truthful : Truthful (fun _ => []) emptyStore := by
            refine ⟨fun path file held => ?_, rfl⟩
            cases path with
            | nil => cases held
            | cons name more => cases held
          have regular : ∀ entry ∈ [(putRequest, first)], ∀ operation,
              entry.1.operation (.plain []) ⟨false, none, true⟩ = some operation →
              Regular operation := by
            intro entry member operation asks
            rw [List.mem_singleton.mp member] at asks
            cases asks
            trivial
          rcases session_putGet session truthful regular rfl rfl
            (.inl (Option.some.inj created)) (fun _ member => absurd member List.not_mem_nil) rfl
            rfl (.inl (Option.some.inj found)) with ⟨bytes, range, means, file⟩
          exact ⟨first, second, bytes, range, rfl, rfl, means, file⟩

end MockGateway

end DriveWebdav
