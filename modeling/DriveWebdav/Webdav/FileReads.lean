import DriveWebdav.Webdav.FileService
import DriveWebdav.Webdav.Get

/-! # What the service answers of the tree

What the answers to GET and PROPFIND say, over any gateway whose lookups tell what is seen of its
store. -/

namespace DriveWebdav

variable {Command : Type} {Answer : Command → Type} {Stream Remote α β : Type}

/-- What an entry says is so of what is seen. -/
def DriveEntry.Tells (digest : Bytes → JsString) (entry : DriveEntry) : Shown → Prop
  | .folder => entry.isDir = true
  | .file content => entry.isDir = false ∧ entry.size = content.length ∧
      ∀ sha1, entry.sha1 = some sha1 → sha1 = digest content

/-- An entry tells what is seen at a path. -/
def ShownTree.Told (digest : Bytes → JsString) (tree : ShownTree) (path : List JsString)
    (entry : DriveEntry) : Prop :=
  ∃ item, tree path = some item ∧ entry.Tells digest item

/-- What is read of a content: all of it, or the bytes of a range. -/
def partOf (content : Bytes) : Option ByteRange → Bytes
  | none => content
  | some range => (content.drop range.start).take (range.stop + 1 - range.start)

/-- What a reading program comes to: a value of which something is so, or an error that has the
status of one. -/
def OrError (good : α → Prop) (outcome : Except Thrown α) : Prop :=
  match outcome with
  | .ok value => good value
  | .error error => 400 ≤ error.status

/-- A result of reading a file, whose stream carries what was asked for. -/
structure ReadResult.Hands (carries : Stream → Bytes → Option ByteRange → Prop) (content : Bytes)
    (range : Option ByteRange) (result : ReadResult Stream) : Prop where
  size : result.size = (partOf content range).length
  total : result.totalSize = content.length
  stream : carries result.stream content range

/-- The entries of what is seen in a folder, each once. Where all of it is `clear`, none is left
out. -/
structure ShownTree.Listed (digest : Bytes → JsString) (tree : ShownTree) (clear : Prop)
    (path : List JsString) (entries : List DriveEntry) : Prop where
  told : ∀ entry ∈ entries, tree.Told digest (path ++ [entry.name]) entry
  once : (entries.map DriveEntry.name).Nodup
  complete : clear → ∀ name item, tree (path ++ [name]) = some item →
    ∃ entry ∈ entries, entry.name = name

/-- The gateway tells what is seen of its store. -/
structure FileView.Reports (view : FileView Command Answer Remote)
    (gw : DriveGateway Command Answer Stream)
    (carries : Remote → Stream → Bytes → Option ByteRange → Prop) : Prop where
  stat : ∀ path world, view.good world → view.rules.Ensures (gw.stat path)
    (fun outcome _ => OrError (fun found => ∀ entry, found = some entry →
      (view.tree world.remote).Told view.digest (segments path) entry) outcome) world
  read : ∀ path range world, view.good world → view.rules.Ensures (gw.read path range)
    (fun outcome reached => OrError (fun result => ∃ content,
      view.tree world.remote (segments path) = some (.file content) ∧
        result.Hands (carries reached.remote) content range) outcome) world

/-- The gateway lists what is seen of its store. -/
structure FileView.Lists (view : FileView Command Answer Remote)
    (gw : DriveGateway Command Answer Stream) (clear : Remote → Prop) : Prop where
  list : ∀ path world, view.good world → view.rules.Ensures (gw.list path)
    (fun outcome reached => OrError (fun entries => (view.tree world.remote).Listed view.digest
      (clear reached.remote) (segments path) entries) outcome) world
  quota : ∀ world, view.good world → view.rules.Ensures gw.quota
    (fun outcome _ => OrError (fun _ => True) outcome) world

/-- An answer that sends a file, or of it the range that was asked for. -/
structure Response.SendsFile (digest : Bytes → JsString)
    (carries : Stream → Bytes → Option ByteRange → Prop) (req : Request) (content : Bytes)
    (range : Option ByteRange) (response : Response Stream) : Prop where
  asked : parseRange (req.header "Range") content.length = range.elim .none .range
  status : response.status = if range.isSome then 206 else 200
  length : response.header "Content-Length" =
    some (JsString.decimalNat (partOf content range).length)
  placed : ∀ part, range = some part → response.header "Content-Range" =
    some (contentRange part.start part.stop content.length)
  checksum : ∀ value, response.header "OC-Checksum" = some value →
    value = ("SHA1:" : JsString) ++ digest content
  body : ∃ stream, response.body = .stream stream ∧ carries stream content range

/-- A GET that succeeds sends the file that is seen. -/
def GetTells (digest : Bytes → JsString) (tree : ShownTree)
    (carries : Stream → Bytes → Option ByteRange → Prop) (req : Request) (path : JsString)
    (response : Response Stream) : Prop :=
  response.status = 200 ∨ response.status = 206 →
    ∃ content range, tree (segments path) = some (.file content) ∧
      response.SendsFile digest carries req content range

/-- A PROPFIND that succeeds, and does not ask for the quota, renders what is seen at its path, and
in a folder, if it asks so deep, the entries of it. -/
def PropfindTells (digest : Bytes → JsString) (tree : ShownTree) (clear : Prop) (req : Request)
    (path : JsString) (response : Response Stream) : Prop :=
  response.status = 207 → JsString.includes (req.text.getD []) "quota-available-bytes" = false →
    ∃ self children, tree.Told digest (segments path) self ∧
      (if (req.header "Depth").getD "infinity" ≠ "0" && self.isDir then
        tree.Listed digest clear (segments path) children else children = []) ∧
      response.body = .text (multistatus (responseXml (hrefFor path) self ::
        children.map fun child => responseXml (hrefFor (join path child.name)) child))

/-- What an answer tells of the tree. -/
structure AnswerTells (digest : Bytes → JsString) (tree : ShownTree)
    (carries : Stream → Bytes → Option ByteRange → Prop) (clear : Prop) (req : Request)
    (response : Response Stream) : Prop where
  get : Method.parse req.method = .get → GetTells digest tree carries req req.path response
  propfind : Method.parse req.method = .propfind →
    PropfindTells digest tree clear req req.path response

section

variable {view : FileView Command Answer Remote} {gw : DriveGateway Command Answer Stream}
  {carries : Remote → Stream → Bytes → Option ByteRange → Prop} {req : Request} {path : JsString}
  {world : World ServiceMemory Remote}

/-- The tree is as before, and what has come of a program is as it should be. -/
def FileView.SameTelling (view : FileView Command Answer Remote)
    (world : World ServiceMemory Remote) (good : Remote → α → Prop) (outcome : Except Thrown α)
    (reached : World ServiceMemory Remote) : Prop :=
  view.Same world outcome reached ∧ OrError (good reached.remote) outcome

theorem sends_of_result {entry : DriveEntry} {content : Bytes} {range : Option ByteRange}
    {result : ReadResult Stream} {remote : Remote} {response : Response Stream}
    (told : entry.Tells view.digest (.file content))
    (hands : result.Hands (carries remote) content range)
    (asked : parseRange (req.header "Range") content.length = range.elim .none .range)
    (status : response.status = if range.isSome then 206 else 200)
    (headers : response.headers = commonHeaders entry.mtime entry.sha1 ++
      (("Content-Length" : JsString), JsString.decimalNat result.size) ::
        (range.map fun part => (("Content-Range" : JsString),
          contentRange part.start part.stop result.totalSize)).toList)
    (body : response.body = .stream result.stream) :
    response.SendsFile view.digest (carries remote) req content range where
  asked := asked
  status := status
  length := by
    rw [← hands.size]
    exact header_contentLength headers
  placed := by
    rintro part rfl
    rw [← hands.total]
    exact header_contentRange headers
  checksum := by
    intro value announced
    rw [header_checksum headers] at announced
    · rcases Option.map_eq_some_iff.mp announced with ⟨sha1, reported, rfl⟩
      rw [told.2.2 sha1]
      cases known : entry.sha1 with
      | none =>
          rw [known] at reported
          cases reported
      | some digits =>
          rw [known] at reported
          cases digits with
          | nil => cases reported
          | cons first rest => exact reported
    · intro header member
      have lengthApart : ("Content-Length" : JsString) ≠ "OC-Checksum" := by decide
      have rangeApart : ("Content-Range" : JsString) ≠ "OC-Checksum" := by decide
      rcases List.mem_cons.mp member with rfl | member
      · exact lengthApart
      · cases range with
        | none => cases member
        | some part =>
            rw [List.mem_singleton.mp member]
            exact rangeApart
  body := ⟨result.stream, body, hands.stream⟩

variable (reports : view.Reports gw carries) (good : view.good world)
include reports good

/-- A file that has been looked up is read. -/
theorem tells_read {entry : DriveEntry} {content : Bytes}
    {respond : ReadResult Stream → Response Stream} {tree : ShownTree}
    (range : Option ByteRange) (same : view.tree world.remote = tree)
    (seen : tree (segments path) = some (.file content))
    (told : entry.Tells view.digest (.file content))
    (asked : parseRange (req.header "Range") content.length = range.elim .none .range)
    (status : ∀ result, (respond result).status = if range.isSome then 206 else 200)
    (headers : ∀ result, (respond result).headers = commonHeaders entry.mtime entry.sha1 ++
      (("Content-Length" : JsString), JsString.decimalNat result.size) ::
        (range.map fun part => (("Content-Range" : JsString),
          contentRange part.start part.stop result.totalSize)).toList)
    (body : ∀ result, (respond result).body = .stream result.stream) :
    view.rules.Ensures (gw.read path range >>= fun result => pure (respond result))
      (fun outcome reached => OrError
        (GetTells view.digest tree (carries reached.remote) req path) outcome) world := by
  apply (reports.read path range world good).bind
  · exact fun _ _ failed => failed
  · rintro result reached ⟨other, found, hands⟩ _
    rw [same, seen] at found
    cases found
    exact ⟨content, range, seen,
      sends_of_result told hands asked (status result) (headers result) (body result)⟩

variable (shows : view.Shows gw)
include shows

theorem tells_statOrThrow :
    view.rules.Ensures (statOrThrow gw path)
      (view.SameTelling world fun _ =>
        (view.tree world.remote).Told view.digest (segments path)) world := by
  apply Rules.Ensures.bind ((shows.stat path world good).and (reports.stat path world good))
  · exact fun _ _ failed => failed
  · rintro found reached ⟨same, tells⟩
    cases found with
    | none => exact ⟨same, Nat.le_of_ble_eq_true rfl⟩
    | some entry => exact ⟨same, tells entry rfl⟩

/-- What a GET has looked up is still what is seen when it reads. -/
theorem tells_handleGet :
    view.rules.Ensures (handleGet gw req path false)
      (fun outcome reached => OrError
        (GetTells view.digest (view.tree world.remote) (carries reached.remote) req path) outcome)
      world := by
  apply (tells_statOrThrow reports good shows).bind
  · exact fun _ _ failed => failed.2
  · rintro entry reached ⟨⟨still, same⟩, item, seen, told⟩
    cases item with
    | folder =>
        have isDir : entry.isDir = true := told
        rw [if_pos isDir]
        rintro (status | status)
        · cases status
        · cases status
    | file content =>
        have size : entry.size = content.length := told.2.1
        rw [if_neg (ne_true_of_eq_false told.1), size]
        dsimp only
        cases asked : parseRange (req.header "Range") content.length with
        | unsatisfiable =>
            rintro (status | status)
            · cases status
            · cases status
        | range range =>
            exact tells_read reports still (some range) same seen told asked (fun _ => rfl)
              (fun _ => List.append_assoc _ _ _) fun _ => rfl
        | none =>
            exact tells_read reports still none same seen told asked (fun _ => rfl)
              (fun _ => rfl) fun _ => rfl

/-- What a PROPFIND renders is what is seen. -/
theorem tells_handlePropfind {clear : Remote → Prop} (lists : view.Lists gw clear) :
    view.rules.Ensures (handlePropfind gw req path)
      (fun outcome reached => OrError (PropfindTells view.digest (view.tree world.remote)
        (clear reached.remote) req path) outcome) world := by
  unfold handlePropfind
  dsimp only
  split
  · next quota =>
      apply (lists.quota world good).bind
      · exact fun _ _ failed => failed
      · intro answered reached _ _ other
        rw [quota] at other
        cases other
  · apply (tells_statOrThrow reports good shows).bind
    · exact fun _ _ failed => failed.2
    · rintro self reached ⟨⟨still, same⟩, told⟩
      split
      · next deep =>
          apply (lists.list path reached still).bind
          · exact fun _ _ failed => failed
          · intro children last listed _ _
            refine ⟨self, children, told, ?_, rfl⟩
            rw [if_pos deep, ← same]
            exact listed
      · next shallow =>
          intro _ _
          refine ⟨self, [], told, ?_, rfl⟩
          rw [if_neg shallow]

end

/-! ## Answers in a session -/

section

variable {view : FileView Command Answer Remote} {gw : DriveGateway Command Answer Stream}
  {platform : Platform} {opts : WebdavOptions} {req : Request} {response : Response Stream}
  {world last : World ServiceMemory Remote} {before after : List (Request × Response Stream)}

/-- What a handler tells is what the request is answered with, where it does not fail. -/
theorem tells_handleRequest (shows : view.Shows gw)
    {handler : Operation Command Answer (Response Stream)}
    (tells : ShownTree → Remote → Response Stream → Prop)
    (dispatched : dispatch gw platform opts req req.path = handler)
    (fails : ∀ tree remote response, 400 ≤ response.status → tells tree remote response)
    (handles : ∀ now, view.good now → view.rules.Ensures handler
      (fun outcome reached => OrError (tells (view.tree now.remote) reached.remote) outcome) now)
    (good : view.good world) :
    view.rules.Ensures (handleRequest gw platform opts req)
      (fun outcome reached => ∀ response, outcome = .ok response →
        tells (view.tree world.remote) reached.remote response) world := by
  unfold handleRequest
  have read : view.Settles (Program.read : Operation Command Answer ServiceMemory) := by
    intro world good
    apply Rules.ensures_read.mpr
    intro now _ idles
    exact ⟨trivial, ⟨_, rfl⟩, shows.idles world now good idles⟩
  apply (read world good).bind
  · rintro error _ ⟨⟨memory, absurd⟩, _⟩
    cases absurd
  · rintro memory before ⟨_, still, same⟩
    rw [dispatched, ← same]
    split
    · rintro response answered
      cases answered
      exact fails _ _ _ (Nat.le_of_ble_eq_true rfl)
    · apply (handles before still).tryCatch
      · rintro response reached told other answered
        cases answered
        exact told
      · rintro error reached failed response answered
        cases answered
        apply fails
        rw [status_errorToResponse]
        exact failed

theorem FileView.Session.append {between : World ServiceMemory Remote}
    (first : view.Session gw platform opts world before between)
    (second : view.Session gw platform opts between after last) :
    view.Session gw platform opts world (before ++ after) last := by
  induction first with
  | nil => exact second
  | idle idles _ induction => exact .idle idles (induction second)
  | request req response handled _ induction =>
      exact .request req response handled (induction second)

theorem FileView.Session.split
    (session : view.Session gw platform opts world (before ++ after) last) :
    ∃ between, view.Session gw platform opts world before between ∧
      view.Session gw platform opts between after last := by
  generalize whole : before ++ after = log at session
  induction session generalizing before with
  | nil world =>
      rcases List.append_eq_nil_iff.mp whole with ⟨rfl, rfl⟩
      exact ⟨world, .nil world, .nil world⟩
  | idle idles rest induction =>
      rcases induction whole with ⟨between, first, second⟩
      exact ⟨between, .idle idles first, second⟩
  | @request world next last log req response handled rest induction =>
      cases before with
      | nil =>
          rw [List.nil_append] at whole
          rw [whole]
          exact ⟨world, .nil world, .request req response handled rest⟩
      | cons entry before =>
          rcases List.cons.inj whole with ⟨same, whole⟩
          rcases induction whole with ⟨between, first, second⟩
          rw [same]
          exact ⟨between, .request req response handled first, second⟩

/-- The first request of a session, from the world in which it is handled. -/
theorem FileView.Session.first
    (session : view.Session gw platform opts world ((req, response) :: after) last) :
    ∃ now next, view.idle world now ∧
      view.rules.Runs (handleRequest gw platform opts req) now (.ok response) next ∧
      view.Session gw platform opts next after last := by
  generalize whole : (req, response) :: after = log at session
  induction session with
  | nil world => cases whole
  | idle idles rest induction =>
      rcases induction whole with ⟨now, next, idlesOn, handled, rest⟩
      exact ⟨now, next, view.idle_trans _ _ _ idles idlesOn, handled, rest⟩
  | request req response handled rest induction =>
      cases whole
      exact ⟨_, _, view.idle_refl _, handled, rest⟩

/-- What a request of a session is answered tells the tree that the requests before it have
made. -/
theorem FileView.Session.tells (shows : view.Shows gw)
    (tells : ShownTree → Remote → Response Stream → Prop)
    (handles : ∀ now, view.good now → view.rules.Ensures (handleRequest gw platform opts req)
      (fun outcome reached => ∀ response, outcome = .ok response →
        tells (view.tree now.remote) reached.remote response) now)
    (session : view.Session gw platform opts world (before ++ (req, response) :: after) last)
    (good : view.good world)
    (admitted : ∀ entry ∈ before, ∀ operation, entry.1.operation platform opts = some operation →
      view.admits operation) :
    ∃ performed tree next, Performs platform opts before performed ∧
      ShownTree.Run view.digest (view.tree world.remote) performed tree ∧
      view.Session gw platform opts world (before ++ [(req, response)]) next ∧
      tells tree next.remote response := by
  rcases session.split with ⟨between, first, second⟩
  rcases first.run shows good admitted with ⟨good, performed, performs, run⟩
  rcases second.first with ⟨now, next, idles, handled, _⟩
  rcases shows.idles between now good idles with ⟨good, same⟩
  have told := (handles now good).of_disturbed (fun _ => trivial) handled response rfl
  rw [same] at told
  have answered : view.Session gw platform opts between [(req, response)] next :=
    .idle idles (.request req response handled (.nil next))
  exact ⟨performed, _, next, performs, run, first.append answered, told⟩

/-- What a GET sends is the file of the tree that the requests before it have made. -/
theorem tells_getRequest {carries : Remote → Stream → Bytes → Option ByteRange → Prop}
    (shows : view.Shows gw) (reports : view.Reports gw carries)
    (asks : Method.parse req.method = .get) (good : view.good world) :
    view.rules.Ensures (handleRequest gw platform opts req)
      (fun outcome reached => ∀ response, outcome = .ok response →
        GetTells view.digest (view.tree world.remote) (carries reached.remote) req req.path
          response) world := by
  have dispatched : dispatch gw platform opts req req.path = handleGet gw req req.path false := by
    rw [dispatch, asks]
  apply tells_handleRequest shows
    (fun tree remote => GetTells view.digest tree (carries remote) req req.path) dispatched
  · rintro tree remote response failed (status | status)
    · omega
    · omega
  · exact fun now good => tells_handleGet reports good shows
  · exact good

/-- What a PROPFIND renders is the tree that the requests before it have made. -/
theorem tells_propfindRequest {carries : Remote → Stream → Bytes → Option ByteRange → Prop}
    {clear : Remote → Prop} (shows : view.Shows gw) (reports : view.Reports gw carries)
    (lists : view.Lists gw clear) (asks : Method.parse req.method = .propfind)
    (good : view.good world) :
    view.rules.Ensures (handleRequest gw platform opts req)
      (fun outcome reached => ∀ response, outcome = .ok response →
        PropfindTells view.digest (view.tree world.remote) (clear reached.remote) req req.path
          response) world := by
  have dispatched : dispatch gw platform opts req req.path = handlePropfind gw req req.path := by
    rw [dispatch, asks]
  apply tells_handleRequest shows
    (fun tree remote => PropfindTells view.digest tree (clear remote) req req.path) dispatched
  · intro tree remote response failed status
    omega
  · exact fun now good => tells_handlePropfind reports good shows lists
  · exact good

/-- Whatever is answered tells the tree that the requests before it have made. -/
theorem FileView.Session.answerTells
    {carries : Remote → Stream → Bytes → Option ByteRange → Prop} {clear : Remote → Prop}
    (session : view.Session gw platform opts world (before ++ (req, response) :: after) last)
    (shows : view.Shows gw) (reports : view.Reports gw carries) (lists : view.Lists gw clear)
    (good : view.good world)
    (admitted : ∀ entry ∈ before, ∀ operation, entry.1.operation platform opts = some operation →
      view.admits operation) :
    ∃ performed tree next, Performs platform opts before performed ∧
      ShownTree.Run view.digest (view.tree world.remote) performed tree ∧
      view.Session gw platform opts world (before ++ [(req, response)]) next ∧
      AnswerTells view.digest tree (carries next.remote) (clear next.remote) req response := by
  apply session.tells shows (fun tree remote =>
    AnswerTells view.digest tree (carries remote) (clear remote) req) _ good admitted
  intro now good
  by_cases gets : Method.parse req.method = .get
  · apply (tells_getRequest shows reports gets good).mono
    intro outcome reached told response answered
    refine ⟨fun _ => told response answered, fun other => ?_⟩
    rw [gets] at other
    cases other
  · by_cases asks : Method.parse req.method = .propfind
    · apply (tells_propfindRequest shows reports lists asks good).mono
      intro outcome reached told response answered
      exact ⟨fun other => absurd other gets, fun _ => told response answered⟩
    · apply view.ensures_of_all
      intro outcome reached response _
      exact ⟨fun other => absurd other gets, fun other => absurd other asks⟩

/-- What a PUT has stored, a GET of the path sends, whatever requests that leave the path come
between them. -/
theorem FileView.Session.putGet {carries : Remote → Stream → Bytes → Option ByteRange → Prop}
    {put get : Request} {stored sent : Response Stream} {body : BodyStream}
    {between : List (Request × Response Stream)}
    (session : view.Session gw platform opts world
      ((put, stored) :: (between ++ (get, sent) :: after)) last)
    (shows : view.Shows gw) (reports : view.Reports gw carries) (good : view.good world)
    (grounded : (view.tree world.remote).Grounded .folder)
    (admitted : ∀ entry ∈ (put, stored) :: between, ∀ operation,
      entry.1.operation platform opts = some operation → view.admits operation)
    (puts : Method.parse put.method = .put) (brings : putBody put = .ok body)
    (stores : stored.status = 201 ∨ stored.status = 204)
    (leaves : LeavesAt platform opts (segments put.path) between)
    (gets : Method.parse get.method = .get) (same : segments get.path = segments put.path)
    (sends : sent.status = 200 ∨ sent.status = 206) :
    ∃ bytes range next, body.Means view.digest (putOptions opts put) bytes ∧
      view.Session gw platform opts world ((put, stored) :: (between ++ [(get, sent)])) next ∧
      sent.SendsFile view.digest (carries next.remote) get bytes range := by
  have asks : put.operation platform opts = some (.put put.path body (putOptions opts put)) := by
    rw [Request.operation, puts]
    dsimp only
    rw [brings]
    rfl
  have whole : view.Session gw platform opts world
      ([(put, stored)] ++ (between ++ (get, sent) :: after)) last := session
  rcases whole.split with ⟨now, first, rest⟩
  have alone : ∀ entry ∈ [(put, stored)], ∀ operation,
      entry.1.operation platform opts = some operation → view.admits operation := by
    intro entry member
    exact admitted entry (List.mem_cons.mpr (.inl (List.mem_singleton.mp member)))
  rcases first.run shows good alone with ⟨good, performed, performs, run⟩
  have present : ∃ bytes, view.tree now.remote (segments put.path) = some (.file bytes) ∧
      body.Means view.digest (putOptions opts put) bytes := by
    cases performs with
    | looked nothing _ =>
        rw [asks] at nothing
        cases nothing
    | @asked _ _ _ operation _ ended known answers performs =>
        cases asks.symm.trans known
        cases performs
        rcases run with _ | ⟨serves, run⟩
        cases run
        apply serves.put_present
        cases ended with
        | refused =>
            have failed : 400 ≤ stored.status := answers
            omega
        | astray =>
            have failed : stored.status = 500 := answers
            omega
        | kept => exact .inl rfl
        | done => exact .inr rfl
  rcases present with ⟨bytes, present, means⟩
  have told := rest.tells shows
    (fun tree remote => GetTells view.digest tree (carries remote) get get.path)
    (fun _ good => tells_getRequest shows reports gets good) good
    fun entry member => admitted entry (List.mem_cons_of_mem _ member)
  rcases told with ⟨later, tree, next, laterPerforms, laterRun, answered, tells⟩
  have kept := laterRun.leaves (run.grounded grounded) present (leaves.performed laterPerforms laterRun)
  rcases tells sends with ⟨content, range, seen, sends⟩
  rw [same, kept] at seen
  cases seen
  exact ⟨bytes, range, next, means, first.append answered, sends⟩

end

/-- A client uploads five bytes to `/a`. -/
def putRequest : Request where
  method := "PUT"
  pathname := "/a"
  header _ := none
  body := some (.value [104, 101, 108, 108, 111] .done)
  text := none

/-- A client reads `/a`. -/
def getRequest : Request where
  method := "GET"
  pathname := "/a"
  header _ := none
  body := none
  text := none

end DriveWebdav
