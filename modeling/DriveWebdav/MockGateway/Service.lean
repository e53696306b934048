import DriveWebdav.MockGateway.Read
import DriveWebdav.MockGateway.Serving
import DriveWebdav.Webdav.FileService

/-! # The service over the gateway in memory

The requests that the end-to-end tests send, whatever failures they set in between. -/

namespace DriveWebdav

namespace MockGateway

def quota : MockOperation Quota := fun gateway =>
  (.ok ⟨some gateway.usedBytes, some (10 * 1024 * 1024 * 1024)⟩, gateway)

/-- Every call, answered at `now`. -/
def calls (digest : Bytes → JsString) (now : Date) : (call : Call) → MockOperation call.Answer
  | .stat path => stat path
  | .list path => list path
  | .read path range => read path range
  | .put path body opts => put digest now path body opts
  | .mkcol path => mkcol now path
  | .remove path => remove path
  | .move src dst => move src dst
  | .copy src dst => copy src dst
  | .quota => quota

/-- What a client may ask that leaves a tree: nothing is put in the place of the root, and nothing
is moved into itself. The gateway in memory checks neither. -/
def Regular : FileOperation → Prop
  | .move src dst => segments src ≠ [] ∧ segments dst ≠ [] ∧ ¬segments src <+: segments dst
  | .copy _ dst => segments dst ≠ []
  | _ => True

/-- The store as it is seen. The clock stands at any time at any call, and meanwhile a test may set
any failure but a wrong digest. -/
def view (digest : Bytes → JsString) : FileView Call Call.Answer MockGateway where
  service gateway call outcome final :=
    ∃ now, calls digest now call gateway = (outcome, final)
  digest := digest
  tree := tree
  good world := Truthful digest world.remote
  admits := Regular
  idle world next := ∃ faults : Faults,
    (world.remote.faults.corruptSha1ForPath = none → faults.corruptSha1ForPath = none) ∧
      next.remote = { world.remote with faults }
  idle_refl world := ⟨world.remote.faults, id, rfl⟩
  idle_trans := by
    rintro ⟨_, first⟩ ⟨_, second⟩ ⟨_, third⟩ ⟨faults, honest, rfl⟩ ⟨after, still, rfl⟩
    exact ⟨after, fun before => still (honest before), rfl⟩

/-! ## Statuses -/

/-- Whatever the operation throws has the status of an error. -/
def Rejects {α : Type} (operation : MockOperation α) : Prop :=
  ∀ gateway error, (operation gateway).1 = .error error → 400 ≤ error.status

variable {gateway : MockGateway} {path src dst p : JsString} {opts : PutOptions}
  {body : BodyStream} {digest : Bytes → JsString} {now : Date}

theorem rejects_ticked {α : Type} {op : JsString} {rest : MockOperation α} (rejects : Rejects rest) :
    Rejects (ticked op rest) := by
  intro gateway error thrown
  cases fails : gateway.fails op with
  | true =>
      rw [ticked_of_fails fails] at thrown
      cases thrown
      exact Nat.le_of_ble_eq_true rfl
  | false =>
      rw [ticked_of_not_fails fails] at thrown
      exact rejects gateway error thrown

theorem status_of_dirOf {error : Thrown} (missing : gateway.dirOf path = .error error) :
    400 ≤ error.status := by
  unfold dirOf at missing
  split at missing
  · cases missing
  · cases missing
    exact Nat.le_of_ble_eq_true rfl

theorem rejects_mkcol : Rejects (mkcol now path) := by
  apply rejects_ticked
  intro gateway error thrown
  dsimp only at thrown
  split at thrown
  · cases thrown
    exact Nat.le_of_ble_eq_true rfl
  · split at thrown
    · next missing =>
        cases thrown
        exact status_of_dirOf missing
    · split at thrown
      · cases thrown
        exact Nat.le_of_ble_eq_true rfl
      · cases thrown

theorem rejects_remove : Rejects (remove path) := by
  apply rejects_ticked
  intro gateway error thrown
  dsimp only at thrown
  split at thrown
  · cases thrown
    exact Nat.le_of_ble_eq_true rfl
  · split at thrown
    · next missing =>
        cases thrown
        exact status_of_dirOf missing
    · split at thrown
      · cases thrown
        exact Nat.le_of_ble_eq_true rfl
      · cases thrown
        exact Nat.le_of_ble_eq_true rfl
      · cases thrown

theorem rejects_putNode {node : MockNode} {prepare : MockGateway → MockGateway} :
    Rejects (putNode p node prepare) := by
  intro gateway error thrown
  unfold putNode at thrown
  split at thrown
  · next missing =>
      cases thrown
      exact status_of_dirOf missing
  · split at thrown
    · cases thrown
      exact Nat.le_of_ble_eq_true rfl
    · cases thrown

theorem rejects_move : Rejects (move src dst) := by
  apply rejects_ticked
  intro gateway error thrown
  dsimp only at thrown
  split at thrown
  · cases thrown
    exact Nat.le_of_ble_eq_true rfl
  · exact rejects_putNode gateway error thrown

theorem rejects_copy : Rejects (copy src dst) := by
  apply rejects_ticked
  intro gateway error thrown
  dsimp only at thrown
  split at thrown
  · cases thrown
    exact Nat.le_of_ble_eq_true rfl
  · exact rejects_putNode gateway error thrown
  · cases thrown
    exact Nat.le_of_ble_eq_true rfl

theorem rejects_beginIn {children : MockEntries} : Rejects (beginIn p opts children) := by
  intro gateway error thrown
  unfold beginIn at thrown
  split at thrown
  · cases thrown
    exact Nat.le_of_ble_eq_true rfl
  · split at thrown
    · cases thrown
    · split at thrown
      · cases thrown
        exact Nat.le_of_ble_eq_true rfl
      · cases thrown
  · split at thrown
    · cases thrown
      exact Nat.le_of_ble_eq_true rfl
    · cases thrown
  · cases thrown

theorem rejects_beginPut : Rejects (beginPut path opts) := by
  apply rejects_ticked
  intro gateway error thrown
  dsimp only at thrown
  split at thrown
  · cases thrown
    exact Nat.le_of_ble_eq_true rfl
  · split at thrown
    · cases thrown
      exact Nat.le_of_ble_eq_true rfl
    · split at thrown
      · next missing =>
          cases thrown
          exact status_of_dirOf missing
      · exact rejects_beginIn gateway error thrown

theorem rejects_finishPut {upload : Upload} : Rejects (finishPut digest now upload) := by
  intro gateway error thrown
  unfold finishPut at thrown
  dsimp only at thrown
  split at thrown
  · cases thrown
    exact Nat.le_of_ble_eq_true rfl
  · split at thrown
    · cases thrown
      exact Nat.le_of_ble_eq_true rfl
    · cases thrown

theorem rejects_receive {upload : Upload} : Rejects (receive digest now body upload) := by
  induction body generalizing upload with
  | done => exact rejects_finishPut
  | failed =>
      intro gateway error thrown
      cases thrown
      exact Nat.le_of_ble_eq_true rfl
  | value chunk rest induction =>
      intro gateway error thrown
      unfold receive at thrown
      rw [receiveChunk_eq] at thrown
      cases drops : (upload.add chunk).dropped with
      | true =>
          rw [drops] at thrown
          cases thrown
          exact Nat.le_of_ble_eq_true rfl
      | false =>
          rw [drops] at thrown
          exact induction _ error thrown

theorem rejects_put : Rejects (put digest now path body opts) := by
  intro gateway error thrown
  have begins : ∀ error, (beginPut path opts gateway).1 = .error error → 400 ≤ error.status :=
    rejects_beginPut gateway
  unfold put at thrown
  split at thrown
  · next failed =>
      cases thrown
      exact begins error (by rw [failed])
  · cases thrown
  · exact rejects_receive _ error thrown

/-! ## What is seen of the store -/

theorem unseen_ticked {α : Type} {op : JsString} {rest : MockOperation α}
    (unseen : Unseen digest gateway (rest gateway).2) :
    Unseen digest gateway (ticked op rest gateway).2 := by
  cases fails : gateway.fails op with
  | true =>
      rw [ticked_of_fails fails]
      exact ⟨rfl, fun truthful => ⟨truthful.digests, truthful.reports⟩⟩
  | false =>
      rw [ticked_of_not_fails fails]
      exact unseen

theorem unseen_stat : Unseen digest gateway (stat path gateway).2 := unseen_ticked .refl

theorem unseen_list : Unseen digest gateway (list path gateway).2 := by
  apply unseen_ticked
  split
  · exact .refl
  · exact .refl

theorem unseen_read {range : Option ByteRange} :
    Unseen digest gateway (read path range gateway).2 := by
  apply unseen_ticked
  have spent : Unseen digest gateway
      { gateway with faults := { gateway.faults with dropGetAfterBytes := none } } :=
    ⟨rfl, fun truthful => ⟨truthful.digests, truthful.reports⟩⟩
  split
  · dsimp only
    split
    · exact spent
    · exact spent
  · exact .refl

/-- What a test sets meanwhile is not seen. -/
theorem unseen_idle {world next : World ServiceMemory MockGateway}
    (idles : (view digest).idle world next) : Unseen digest world.remote next.remote := by
  rcases next with ⟨memory, _⟩
  rcases idles with ⟨faults, honest, rfl⟩
  exact ⟨rfl, fun truthful => ⟨truthful.digests, honest truthful.reports⟩⟩

theorem looks_request {call : Call}
    (unseen : ∀ now gateway, Unseen digest gateway (calls digest now call gateway).2) :
    (view digest).Looks (Program.request call) := by
  intro world truthful
  apply Rules.ensures_request.mpr
  intro before _ idles
  refine ⟨trivial, ?_⟩
  rintro outcome remote ⟨now, answered⟩
  have kept := (unseen_idle idles).trans (unseen now before.remote)
  rw [answered] at kept
  exact ⟨kept.truthful truthful, kept.tree⟩

/-- How an operation ends by its outcome. -/
theorem ends_ofUnit {operation : MockOperation Unit} (rejects : Rejects operation)
    (gateway : MockGateway) :
    (ofUnit (operation gateway).1).Ends (fun _ => .done) (operation gateway).1 := by
  cases outcome : (operation gateway).1 with
  | ok value => rfl
  | error error => exact ⟨rejects gateway error outcome, rejects gateway error outcome⟩

theorem ends_ofPut (rejects : Rejects (put digest now path body opts)) (gateway : MockGateway) :
    (ofPut (put digest now path body opts gateway).1).Ends PutResult.performed
      (put digest now path body opts gateway).1 := by
  cases outcome : (put digest now path body opts gateway).1 with
  | ok value => rfl
  | error error => exact ⟨rejects gateway error outcome, rejects gateway error outcome⟩

theorem does_request {operation : FileOperation} {call : Call} {ends : call.Answer → Performed}
    (serves : Regular operation → ∀ now gateway, Truthful digest gateway → ∃ performed : Performed,
      performed.Ends ends (calls digest now call gateway).1 ∧
        Served digest operation gateway performed (calls digest now call gateway).2) :
    (view digest).Does operation ends (Program.request call) := by
  intro regular world truthful
  apply Rules.ensures_request.mpr
  intro before _ idles
  refine ⟨trivial, ?_⟩
  rintro outcome remote ⟨now, answered⟩
  have meanwhile : Unseen digest world.remote before.remote := unseen_idle idles
  rcases serves regular now before.remote (meanwhile.truthful truthful) with
    ⟨performed, ended, served⟩
  rw [answered] at ended served
  refine ⟨served.truthful, performed, ended, ?_⟩
  have serves := served.serves
  rw [meanwhile.tree] at serves
  exact serves

/-- The gateway in memory serves the tree that is seen of it. -/
theorem shows_view (digest : Bytes → JsString) : (view digest).Shows asDriveGateway where
  mkcol _ := does_request fun _ _ gateway truthful =>
    ⟨_, ends_ofUnit rejects_mkcol gateway, served_mkcol truthful⟩
  remove _ := does_request fun _ _ gateway truthful =>
    ⟨_, ends_ofUnit rejects_remove gateway, served_remove truthful⟩
  move _ _ := does_request fun regular _ gateway truthful =>
    ⟨_, ends_ofUnit rejects_move gateway,
      served_move regular.1 regular.2.1 regular.2.2 truthful⟩
  copy _ _ := does_request fun regular _ gateway truthful =>
    ⟨_, ends_ofUnit rejects_copy gateway, served_copy regular truthful⟩
  put _ _ _ := does_request fun _ _ gateway truthful =>
    ⟨_, ends_ofPut rejects_put gateway, served_put truthful⟩
  stat _ := looks_request fun _ _ => unseen_stat
  list _ := looks_request fun _ _ => unseen_list
  read _ _ := looks_request fun _ _ => unseen_read
  quota := looks_request fun _ _ => .refl
  guards _ _ truthful := truthful
  idles _ _ truthful idles := ⟨(unseen_idle idles).truthful truthful, (unseen_idle idles).tree⟩

/-- A session over the gateway in memory, with any failures set along the way, is a run of the file
server: what was answered with success has had its effect, in order, and nothing else has. -/
theorem session_serves {platform : Platform} {opts : WebdavOptions}
    {world last : World ServiceMemory MockGateway}
    {log : List (Request × Response BodyStream)}
    (session : (view digest).Session asDriveGateway platform opts world log last)
    (truthful : Truthful digest world.remote)
    (regular : ∀ entry ∈ log, ∀ operation,
      entry.1.operation platform opts = some operation → Regular operation) :
    ∃ performed, Performs platform opts log performed ∧
      ShownTree.Run digest world.remote.tree performed last.remote.tree :=
  (session.run (shows_view digest) truthful regular).2

def emptyStore : MockGateway := ⟨"uid", .nil, .none, 0⟩

/-- Answer every call at one time. -/
def answerAt (digest : Bytes → JsString) (now : Date) (world : World ServiceMemory MockGateway)
    (call : Call) : Except Thrown call.Answer × World ServiceMemory MockGateway :=
  ((calls digest now call world.remote).1, ⟨world.memory, (calls digest now call world.remote).2⟩)

theorem runs_answerAt {α : Type} (program : Operation Call Call.Answer α)
    (world : World ServiceMemory MockGateway) :
    program.Runs (view digest).rules.service world (Program.run (answerAt digest now) program world).1
      (Program.run (answerAt digest now) program world).2 :=
  Program.runs_run _ (fun _ _ => rfl) (fun _ _ => ⟨now, rfl⟩) program world

theorem session_serves_folderRequest :
    ∃ response last performed, response.status = 201 ∧
      Performs (.plain []) ⟨false, none, true⟩
        [(folderRequest, (response : Response BodyStream))] performed ∧
      ShownTree.Run (fun _ => []) emptyStore.tree performed last := by
  have runs := @runs_answerAt (fun _ => []) ⟨some 0⟩ _
    (handleRequest asDriveGateway (.plain []) ⟨false, none, true⟩ folderRequest)
    ⟨.initial 0, emptyStore⟩
  have created : (Program.run (answerAt (fun _ => []) ⟨some 0⟩)
      (handleRequest asDriveGateway (.plain []) ⟨false, none, true⟩ folderRequest)
      ⟨.initial 0, emptyStore⟩).1.toOption.map Response.status = some 201 := by
    decide
  generalize Program.run _ _ _ = ended at runs created
  rcases ended with ⟨error | response, last⟩
  · cases created
  · have truthful : Truthful (fun _ => []) emptyStore := by
      refine ⟨fun path file held => ?_, rfl⟩
      cases path with
      | nil => cases held
      | cons name more => cases held
    have regular : ∀ entry ∈ [(folderRequest, response)], ∀ operation,
        entry.1.operation (.plain []) ⟨false, none, true⟩ = some operation → Regular operation := by
      intro entry member operation asks
      rw [List.mem_singleton.mp member] at asks
      cases asks
      trivial
    have handled := Rules.Runs.of_undisturbed runs
    rcases session_serves (.request folderRequest response handled (.nil last)) truthful regular with
      ⟨performed, performs, run⟩
    exact ⟨response, _, performed, Option.some.inj created, performs, run⟩

end MockGateway

end DriveWebdav
