import DriveWebdav.FileServer
import DriveWebdav.Foundation.Interference
import DriveWebdav.Webdav.Handlers

/-! # The service as a file server

What the requests of one client, sent one after the other, do to the tree that is seen, over any
gateway whose operations serve that tree. -/

namespace DriveWebdav

/-- The operation that a request asks for, if it asks for any that can be tried. -/
def Request.operation (platform : Platform) (opts : WebdavOptions) (req : Request) :
    Option FileOperation :=
  match Method.parse req.method with
  | .put => (putBody req).toOption.map fun body => .put req.path body (putOptions opts req)
  | .mkcol => some (.mkcol req.path)
  | .delete => some (.remove req.path)
  | .move => (destinationPath platform req).toOption.map (.move req.path)
  | .copy => (destinationPath platform req).toOption.map (.copy req.path)
  | _ => none

/-- What the status of an answer says of how the operation has ended. -/
def Performed.Answers : Performed → Nat → Prop
  | .refused, status => 400 ≤ status
  | .astray, status => status = 500
  | .kept, status => status = 204
  | .done, status => status = 201 ∨ status = 204

theorem Performed.Answers.isError {performed : Performed} {status : Nat}
    (answers : performed.Answers status) :
    400 ≤ status ↔ performed = .refused ∨ performed = .astray := by
  cases performed with
  | refused => simpa [Answers] using answers
  | astray =>
      have status : status = 500 := answers
      simp [status]
  | kept =>
      have status : status = 204 := answers
      simp [status]
  | done =>
      rcases answers with status | status
      · simp [status]
      · simp [status]

/-- How an operation has ended that came to this outcome. -/
def Performed.Ends {α : Type} (ends : α → Performed) (performed : Performed) :
    Except Thrown α → Prop
  | .ok value => performed = ends value
  | .error error => performed.Answers error.status ∧ 400 ≤ error.status

variable {Command Stream Remote α β : Type} {Answer : Command → Type}

/-- How a store is looked at: the tree that is seen of it, and the worlds in which it can be told.
`idle` is what may happen at any time beside the requests. -/
structure FileView (Command : Type) (Answer : Command → Type) (Remote : Type) where
  service : Program.Service Command Answer Thrown Remote
  digest : Bytes → JsString
  tree : Remote → ShownTree
  good : World ServiceMemory Remote → Prop
  admits : FileOperation → Prop
  idle : World ServiceMemory Remote → World ServiceMemory Remote → Prop
  idle_refl : ∀ world, idle world world
  idle_trans : ∀ first second third, idle first second → idle second third → idle first third

namespace FileView

variable (view : FileView Command Answer Remote)

/-- The terms of a program that alone asks the store for anything. -/
def rules : Rules ServiceMemory Command Answer Thrown Remote where
  service := view.service
  invariant _ := True
  interference := view.idle
  guarantee _ _ := True
  permits _ _ := True
  interference_refl := view.idle_refl
  interference_trans := view.idle_trans

/-- The operation has ended, and served the tree. -/
def Done (operation : FileOperation) (ends : α → Performed) (world : World ServiceMemory Remote)
    (outcome : Except Thrown α) (reached : World ServiceMemory Remote) : Prop :=
  view.good reached ∧ ∃ performed : Performed, performed.Ends ends outcome ∧
    (view.tree world.remote).Serves view.digest operation performed (view.tree reached.remote)

/-- A program serves the tree with an operation. -/
def Does (operation : FileOperation) (ends : α → Performed) (program : Operation Command Answer α) :
    Prop :=
  view.admits operation → ∀ world, view.good world →
    view.rules.Ensures program (view.Done operation ends world) world

/-- The tree that is seen is as before. -/
def Same (world : World ServiceMemory Remote) (_ : Except Thrown α)
    (reached : World ServiceMemory Remote) : Prop :=
  view.good reached ∧ view.tree reached.remote = view.tree world.remote

/-- A program only looks at the tree. -/
def Looks (program : Operation Command Answer α) : Prop :=
  ∀ world, view.good world →
    view.rules.Ensures program (view.Same world) world

/-- It only looks, and never throws. -/
def Settles (program : Operation Command Answer α) : Prop :=
  ∀ world, view.good world → view.rules.Ensures program
    (fun outcome reached => (∃ value, outcome = .ok value) ∧ view.Same world outcome reached) world

/-- The gateway serves the tree that is seen of its store. -/
structure Shows (gw : DriveGateway Command Answer Stream) : Prop where
  mkcol : ∀ path, view.Does (.mkcol path) (fun _ => .done) (gw.mkcol path)
  remove : ∀ path, view.Does (.remove path) (fun _ => .done) (gw.remove path)
  move : ∀ src dst, view.Does (.move src dst) (fun _ => .done) (gw.move src dst)
  copy : ∀ src dst, view.Does (.copy src dst) (fun _ => .done) (gw.copy src dst)
  put : ∀ path body opts,
    view.Does (.put path body opts) PutResult.performed (gw.put path body opts)
  stat : ∀ path, view.Looks (gw.stat path)
  list : ∀ path, view.Looks (gw.list path)
  read : ∀ path range, view.Looks (gw.read path range)
  quota : view.Looks gw.quota
  guards : ∀ world guard, view.good world →
    view.good ⟨{ world.memory with guard }, world.remote⟩
  idles : ∀ world next, view.good world → view.idle world next →
    view.good next ∧ view.tree next.remote = view.tree world.remote

/-- What is so of every outcome needs no proof about the program. -/
theorem ensures_of_all {program : Operation Command Answer α} {world : World ServiceMemory Remote}
    {post : Except Thrown α → World ServiceMemory Remote → Prop}
    (all : ∀ outcome reached, post outcome reached) : view.rules.Ensures program post world := by
  induction program generalizing world with
  | finish value => exact all _ _
  | fail error => exact all _ _
  | update change resume induction => exact fun now _ _ => ⟨trivial, induction _⟩
  | await command resume induction => exact fun now _ _ => ⟨trivial, fun answer _ _ => induction answer⟩

variable {view} {operation : FileOperation} {world : World ServiceMemory Remote}

theorem Looks.pure (value : α) : view.Looks (pure value : Operation Command Answer α) :=
  fun _ good => ⟨good, rfl⟩

theorem Looks.reject (error : GatewayError) :
    view.Looks (DriveWebdav.reject error : Operation Command Answer α) :=
  fun _ good => ⟨good, rfl⟩

theorem Looks.bind {program : Operation Command Answer α}
    {next : α → Operation Command Answer β} (first : view.Looks program)
    (rest : ∀ value, view.Looks (next value)) : view.Looks (program >>= next) := by
  intro world good
  apply (first world good).bind
  · exact fun _ _ same => same
  · intro value reached same
    apply (rest value reached same.1).mono
    exact fun _ _ last => ⟨last.1, last.2.trans same.2⟩

theorem Looks.tryCatch {program : Operation Command Answer α}
    {recover : Thrown → Operation Command Answer α} (first : view.Looks program)
    (rest : ∀ error, view.Looks (recover error)) : view.Looks (tryCatch program recover) := by
  intro world good
  apply (first world good).tryCatch
  · exact fun _ _ same => same
  · intro error reached same
    apply (rest error reached same.1).mono
    exact fun _ _ last => ⟨last.1, last.2.trans same.2⟩

theorem Settles.pure (value : α) : view.Settles (pure value : Operation Command Answer α) :=
  fun _ good => ⟨⟨value, rfl⟩, good, rfl⟩

theorem Settles.bind {program : Operation Command Answer α}
    {next : α → Operation Command Answer β} (first : view.Settles program)
    (rest : ∀ value, view.Settles (next value)) : view.Settles (program >>= next) := by
  intro world good
  apply (first world good).bind
  · rintro error _ ⟨⟨value, absurd⟩, _⟩
    cases absurd
  · rintro value reached ⟨_, same⟩
    apply (rest value reached same.1).mono
    exact fun _ _ last => ⟨last.1, last.2.1, last.2.2.trans same.2⟩

end FileView

/-! ## Handlers that look -/

section

variable {view : FileView Command Answer Remote} {gw : DriveGateway Command Answer Stream}
  {platform : Platform} {opts : WebdavOptions} {req : Request} {path : JsString}
  (shows : view.Shows gw)
include shows

theorem looks_statOrThrow (path : JsString) : view.Looks (statOrThrow gw path) := by
  apply (shows.stat path).bind
  intro found
  cases found with
  | none => exact .reject _
  | some entry => exact .pure entry

theorem looks_handlePropfind : view.Looks (handlePropfind gw req path) := by
  unfold handlePropfind
  dsimp only
  split
  · exact shows.quota.bind fun _ => .pure _
  · apply (looks_statOrThrow shows path).bind
    intro entry
    split
    · exact (shows.list path).bind fun _ => .pure _
    · exact .pure _

theorem looks_handleProppatch : view.Looks (handleProppatch gw req path) :=
  (looks_statOrThrow shows path).bind fun _ => .pure _

theorem looks_handleRecalculateHash : view.Looks (handleRecalculateHash gw req path) := by
  unfold handleRecalculateHash
  split
  · exact .pure _
  · apply (looks_statOrThrow shows path).bind
    intro info
    split
    · exact .pure _
    · exact .pure _

theorem looks_handleGet (headOnly : Bool) : view.Looks (handleGet gw req path headOnly) := by
  apply (looks_statOrThrow shows path).bind
  intro info
  split
  · exact .pure _
  · dsimp only
    split
    · exact .pure _
    · split
      · exact .pure _
      · exact (shows.read path _).bind fun _ => .pure _
    · split
      · exact .pure _
      · exact (shows.read path _).bind fun _ => .pure _

theorem settles_guard (change : OverwriteGuard → Nat → OverwriteGuard) :
    view.Settles (Program.modify fun memory =>
      { memory with guard := change memory.guard memory.now } : Operation Command Answer Unit) := by
  intro world good
  apply Rules.ensures_modify.mpr
  intro now _ idles
  rcases shows.idles world now good idles with ⟨good, same⟩
  exact ⟨trivial, ⟨(), rfl⟩, shows.guards now _ good, same⟩

theorem settles_armGuard : view.Settles (armGuard gw opts path) := by
  unfold armGuard
  split
  · have looks : view.Settles (tryCatch (gw.stat path) fun _ => pure none) := by
      intro world good
      apply (shows.stat path world good).tryCatch
      · exact fun found _ same => ⟨⟨found, rfl⟩, same⟩
      · exact fun _ _ same => ⟨⟨none, rfl⟩, same⟩
    apply looks.bind
    intro found
    cases found with
    | none => exact .pure _
    | some entry => exact settles_guard shows fun guard now => guard.protect path now
  · exact .pure _

theorem settles_checkProtected :
    view.Settles (checkProtected opts path : Operation Command Answer Bool) := by
  unfold checkProtected
  split
  · intro world good now _ idles
    rcases shows.idles world now good idles with ⟨good, same⟩
    exact ⟨trivial, ⟨_, rfl⟩, shows.guards now _ good, same⟩
  · exact .pure false

theorem settles_releaseGuard :
    view.Settles (releaseGuard opts path : Operation Command Answer Unit) := by
  unfold releaseGuard
  split
  · exact settles_guard shows fun guard _ => guard.release path
  · exact .pure ()

end

/-! ## Handlers that change the tree -/

/-- The status that is answered. -/
def answeredStatus : Except Thrown (Response Stream) → Nat
  | .ok response => response.status
  | .error error => error.status

/-- The tree has been served as the answer says, or it is as before where no change was asked
for. -/
def FileView.Answered (view : FileView Command Answer Remote) (asked : Option FileOperation)
    (world : World ServiceMemory Remote) (outcome : Except Thrown (Response Stream))
    (reached : World ServiceMemory Remote) : Prop :=
  view.good reached ∧
    match asked with
    | none => view.tree reached.remote = view.tree world.remote
    | some operation => ∃ performed : Performed, performed.Answers (answeredStatus outcome) ∧
        (view.tree world.remote).Serves view.digest operation performed (view.tree reached.remote)

section

variable {view : FileView Command Answer Remote} {operation : FileOperation}
  {world reached : World ServiceMemory Remote}

theorem answered_of_same {asked : Option FileOperation}
    {outcome : Except Thrown (Response Stream)} (same : view.Same world outcome reached)
    (refused : asked = none ∨ 400 ≤ answeredStatus outcome) :
    view.Answered asked world outcome reached := by
  refine ⟨same.1, ?_⟩
  cases asked with
  | none => exact same.2
  | some operation =>
      rcases refused with none | refused
      · cases none
      · refine ⟨.refused, refused, ?_⟩
        rw [same.2]
        exact .refused operation

theorem FileView.Looks.answers {program : Operation Command Answer (Response Stream)}
    (looks : view.Looks program) (good : view.good world) :
    view.rules.Ensures program (view.Answered none world) world :=
  (looks world good).mono fun _ _ same => answered_of_same same (.inl rfl)

/-- An operation that has served the tree is answered. -/
theorem FileView.Does.answers {ends : α → Performed} {program : Operation Command Answer α}
    {respond : α → Response Stream} (does : view.Does operation ends program)
    (answers : ∀ value, (ends value).Answers (respond value).status) (admitted : view.admits operation)
    (good : view.good world) :
    view.rules.Ensures (program >>= fun value => pure (respond value))
      (view.Answered (some operation) world) world := by
  apply (does admitted world good).bind
  · rintro error reached ⟨good, performed, ended, serves⟩
    exact ⟨good, performed, ended.1, serves⟩
  · rintro value reached ⟨good, performed, rfl, serves⟩
    exact ⟨good, _, answers value, serves⟩

theorem answered_handleTransfer {platform : Platform} {req : Request}
    (good : view.good world) {transfer : JsString → Operation Command Answer Unit}
    {operation : JsString → FileOperation}
    (does : ∀ destination, view.Does (operation destination) (fun _ => .done) (transfer destination))
    (admitted : ∀ destination, destinationPath platform req = .ok destination →
      view.admits (operation destination)) :
    view.rules.Ensures
      (handleTransfer platform req transfer : Operation Command Answer (Response Stream))
      (view.Answered ((destinationPath platform req).toOption.map operation) world) world := by
  unfold handleTransfer
  cases parsed : destinationPath platform req with
  | error error => exact answered_of_same ⟨good, rfl⟩ (.inl rfl)
  | ok destination =>
      exact (does destination).answers (fun _ => .inl rfl) (admitted destination parsed) good

end

/-- Whatever is settled after an operation, it stays as it has ended. -/
theorem FileView.Done.settled {view : FileView Command Answer Remote} {operation : FileOperation}
    {ends : α → Performed} {world reached last : World ServiceMemory Remote}
    {outcome : Except Thrown α} {settled : Except Thrown β}
    (done : view.Done operation ends world outcome reached)
    (same : view.Same reached settled last) : view.Done operation ends world outcome last := by
  rcases done with ⟨_, performed, ended, serves⟩
  refine ⟨same.1, performed, ended, ?_⟩
  rw [same.2]
  exact serves

theorem answers_putResponse (putOpts : PutOptions) (result : PutResult) :
    result.performed.Answers (putResponse putOpts result : Response Stream).status := by
  cases result with
  | created => exact .inl rfl
  | updated => exact .inr rfl
  | skippedIdentical => rfl

section

variable {view : FileView Command Answer Remote} {gw : DriveGateway Command Answer Stream}
  {platform : Platform} {opts : WebdavOptions} {req : Request} {path : JsString}
  {world : World ServiceMemory Remote} (shows : view.Shows gw)
include shows

/-- A failed upload is looked at once more, and stays as it has ended. -/
theorem does_guardedPut (body : BodyStream) (putOpts : PutOptions) :
    view.Does (.put path body putOpts) PutResult.performed
      (tryCatch (gw.put path body putOpts) fun error =>
        armGuard gw opts path >>= fun _ => throw error) := by
  intro admitted world good
  apply (shows.put path body putOpts admitted world good).tryCatch
  · exact fun _ _ done => done
  · intro error reached done
    apply (settles_armGuard shows reached done.1).bind
    · rintro other _ ⟨⟨value, absurd⟩, _⟩
      cases absurd
    · exact fun _ _ settled => done.settled settled.2

variable (good : view.good world)
include good

theorem answered_handlePut {body : BodyStream} (whole : putBody req = .ok body)
    (admitted : view.admits (.put path body (putOptions opts req))) :
    view.rules.Ensures (handlePut gw opts req path)
      (view.Answered (some (.put path body (putOptions opts req))) world) world := by
  unfold handlePut
  rw [whole]
  exact (does_guardedPut shows body _).answers (answers_putResponse _) admitted good

/-- A DELETE asks the guard first, and then the gateway. -/
theorem answered_handleDelete (admitted : view.admits (.remove path)) :
    view.rules.Ensures (handleDelete gw opts path)
      (view.Answered (some (.remove path)) world) world := by
  unfold handleDelete
  apply (settles_checkProtected shows world good).bind
  · rintro error _ ⟨⟨value, absurd⟩, _⟩
    cases absurd
  · rintro guarded reached ⟨_, same⟩
    have before : view.tree world.remote = view.tree reached.remote := same.2.symm
    unfold FileView.Answered
    rw [before]
    cases guarded with
    | true =>
        have refused : 400 ≤ answeredStatus (.ok (forbiddenDelete : Response Stream)) :=
          Nat.le_of_ble_eq_true rfl
        have answered : view.Answered (some (.remove path)) reached (.ok forbiddenDelete) reached :=
          answered_of_same ⟨same.1, rfl⟩ (.inr refused)
        exact answered
    | false =>
        apply (shows.remove path admitted reached same.1).bind
        · rintro error last ⟨good, performed, ended, serves⟩
          exact ⟨good, performed, ended.1, serves⟩
        · intro value last done
          apply (settles_releaseGuard shows last done.1).bind
          · rintro error _ ⟨⟨_, absurd⟩, _⟩
            cases absurd
          · rintro _ ended ⟨_, settled⟩
            rcases done.settled settled with ⟨good, performed, rfl, serves⟩
            exact ⟨good, .done, .inr rfl, serves⟩

/-- Every request that is dispatched serves the tree with what it asks for. -/
theorem answered_dispatch
    (admitted : ∀ operation, req.operation platform opts = some operation →
      view.admits operation) :
    view.rules.Ensures (dispatch gw platform opts req req.path)
      (view.Answered (req.operation platform opts) world) world := by
  unfold Request.operation at admitted ⊢
  unfold dispatch
  cases method : Method.parse req.method with
  | options => exact FileView.Looks.answers (.pure _) good
  | propfind => exact (looks_handlePropfind shows).answers good
  | proppatch => exact (looks_handleProppatch shows).answers good
  | get => exact (looks_handleGet shows false).answers good
  | head => exact (looks_handleGet shows true).answers good
  | patch => exact (looks_handleRecalculateHash shows).answers good
  | unknown => exact FileView.Looks.answers (.pure _) good
  | put =>
      rw [method] at admitted
      dsimp only at admitted ⊢
      cases body : putBody req with
      | error error =>
          unfold handlePut
          rw [body]
          exact answered_of_same ⟨good, rfl⟩ (.inl rfl)
      | ok body' =>
          rw [body] at admitted
          exact answered_handlePut shows good body (admitted _ rfl)
  | mkcol =>
      rw [method] at admitted
      exact (shows.mkcol req.path).answers (fun _ => .inl rfl) (admitted _ rfl) good
  | delete =>
      rw [method] at admitted
      exact answered_handleDelete shows good (admitted _ rfl)
  | move =>
      rw [method] at admitted
      apply answered_handleTransfer good (shows.move req.path)
      intro destination parsed
      apply admitted
      dsimp only
      rw [parsed]
      rfl
  | copy =>
      rw [method] at admitted
      apply answered_handleTransfer good (shows.copy req.path)
      intro destination parsed
      apply admitted
      dsimp only
      rw [parsed]
      rfl

/-- Every request is answered, and serves the tree as its answer says. -/
theorem answered_handleRequest
    (admitted : ∀ operation, req.operation platform opts = some operation →
      view.admits operation) :
    view.rules.Ensures (handleRequest gw platform opts req)
      (fun outcome reached => (∃ response, outcome = .ok response) ∧
        view.Answered (req.operation platform opts) world outcome reached) world := by
  unfold handleRequest
  have read : view.Settles (Program.read : Operation Command Answer ServiceMemory) := by
    intro world good
    apply Rules.ensures_read.mpr
    intro now _ idles
    exact ⟨trivial, ⟨_, rfl⟩, shows.idles world now good idles⟩
  apply (read world good).bind
  · rintro error _ ⟨⟨memory, absurd⟩, _⟩
    cases absurd
  · rintro memory before ⟨_, same⟩
    unfold FileView.Answered
    rw [← same.2]
    split
    · have refused : 400 ≤ answeredStatus (.ok (davResponse 401 (some sessionRejected) [] :
          Response Stream)) := Nat.le_of_ble_eq_true rfl
      have answered : view.Answered (req.operation platform opts) before
          (.ok (davResponse 401 (some sessionRejected) [])) before :=
        answered_of_same ⟨same.1, rfl⟩ (.inr refused)
      exact ⟨⟨_, rfl⟩, answered⟩
    · apply (answered_dispatch shows same.1 admitted).tryCatch
      · exact fun response _ answered => ⟨⟨response, rfl⟩, answered⟩
      · intro error reached answered
        refine ⟨⟨_, rfl⟩, answered.1, ?_⟩
        have answered := answered.2
        cases asked : req.operation platform opts with
        | none =>
            rw [asked] at answered
            exact answered
        | some operation =>
            rw [asked] at answered
            rcases answered with ⟨performed, answers, serves⟩
            refine ⟨performed, ?_, serves⟩
            rw [answeredStatus, status_errorToResponse]
            exact answers

end

/-! ## One request after the other -/

/-- A client makes the folder `/a`. -/
def folderRequest : Request where
  method := "MKCOL"
  pathname := "/a"
  header _ := none
  body := none
  text := none

/-- Requests sent one after the other, each with its answer. -/
inductive FileView.Session (view : FileView Command Answer Remote)
    (gw : DriveGateway Command Answer Stream) (platform : Platform) (opts : WebdavOptions) :
    World ServiceMemory Remote → List (Request × Response Stream) → World ServiceMemory Remote →
      Prop
  | nil (world) : Session view gw platform opts world [] world
  | idle {world next last log} (idles : view.idle world next)
      (rest : Session view gw platform opts next log last) :
      Session view gw platform opts world log last
  | request {world next last log} (req) (response : Response Stream)
      (handled : view.rules.Runs (handleRequest gw platform opts req) world (.ok response) next)
      (rest : Session view gw platform opts next log last) :
      Session view gw platform opts world ((req, response) :: log) last

/-- What the requests of a session have done: each that asks for an operation has ended as its
answer says. -/
inductive Performs (platform : Platform) (opts : WebdavOptions) :
    List (Request × Response Stream) → List (FileOperation × Performed) → Prop
  | nil : Performs platform opts [] []
  | looked {req response log performed} (nothing : req.operation platform opts = none)
      (rest : Performs platform opts log performed) :
      Performs platform opts ((req, response) :: log) performed
  | asked {req log performed operation} {response : Response Stream} {ended : Performed}
      (asks : req.operation platform opts = some operation) (answers : ended.Answers response.status)
      (rest : Performs platform opts log performed) :
      Performs platform opts ((req, response) :: log) ((operation, ended) :: performed)

/-- What was performed was asked for, and ended as it was answered. -/
theorem Performs.asked_of_mem {platform : Platform} {opts : WebdavOptions}
    {log : List (Request × Response Stream)} {performed : List (FileOperation × Performed)}
    (performs : Performs platform opts log performed) {entry : FileOperation × Performed}
    (member : entry ∈ performed) :
    ∃ asked ∈ log, asked.1.operation platform opts = some entry.1 ∧
      entry.2.Answers asked.2.status := by
  induction performs with
  | nil => cases member
  | looked nothing rest induction =>
      rcases induction member with ⟨asked, inside, ended⟩
      exact ⟨asked, List.mem_cons_of_mem _ inside, ended⟩
  | asked asks answers rest induction =>
      rcases List.mem_cons.mp member with rfl | member
      · exact ⟨_, List.mem_cons_self, asks, answers⟩
      · rcases induction member with ⟨asked, inside, ended⟩
        exact ⟨asked, List.mem_cons_of_mem _ inside, ended⟩

/-- Requests that take nothing away at a path: each was refused, or asks for no operation that
does. Of the requests that answer 400 or more only a move that answers 500 may not have been
refused, but made halfway. -/
def LeavesAt (platform : Platform) (opts : WebdavOptions) (q : List JsString)
    (log : List (Request × Response Stream)) : Prop :=
  ∀ entry ∈ log, ∀ operation, entry.1.operation platform opts = some operation →
    entry.2.status < 400 ∨ (entry.2.status = 500 ∧ ∃ src dst, operation = .move src dst) →
    operation.Leaves q

section

variable {view : FileView Command Answer Remote} {gw : DriveGateway Command Answer Stream}
  {platform : Platform} {opts : WebdavOptions} {world last : World ServiceMemory Remote}
  {log : List (Request × Response Stream)}

theorem LeavesAt.performed {q : List JsString} {performed : List (FileOperation × Performed)}
    (leaves : LeavesAt platform opts q log) (performs : Performs platform opts log performed)
    {digest : Bytes → JsString} {tree next : ShownTree}
    (run : ShownTree.Run digest tree performed next) :
    ∀ entry ∈ performed, entry.2 ≠ .refused → entry.1.Leaves q := by
  rintro ⟨operation, ended⟩ member unrefused
  rcases performs.asked_of_mem member with ⟨asked, inside, asks, answers⟩
  apply leaves asked inside operation asks
  cases ended with
  | refused => exact absurd rfl unrefused
  | astray => exact .inr ⟨answers, run.move_of_astray member⟩
  | kept =>
      have status : asked.2.status = 204 := answers
      omega
  | done =>
      have status : asked.2.status = 201 ∨ asked.2.status = 204 := answers
      omega

/-- A PUT that was answered with success and brought these bytes, whole and as it declared them. -/
def Brought (digest : Bytes → JsString) (opts : WebdavOptions)
    (log : List (Request × Response Stream)) (bytes : Bytes) : Prop :=
  ∃ entry ∈ log, Method.parse entry.1.method = .put ∧
    (entry.2.status = 201 ∨ entry.2.status = 204) ∧
    ∃ body, putBody entry.1 = .ok body ∧ body.bytes = some bytes ∧
      (putOptions opts entry.1).fits digest bytes = true

theorem brought_of_uploaded {digest : Bytes → JsString} {bytes : Bytes}
    {performed : List (FileOperation × Performed)}
    (performs : Performs platform opts log performed)
    (uploaded : ShownTree.Uploaded digest performed bytes) : Brought digest opts log bytes := by
  rcases uploaded with ⟨path, body, putOpts, member, whole, fits⟩
  rcases performs.asked_of_mem member with ⟨asked, inside, asks, answers⟩
  refine ⟨asked, inside, ?_⟩
  unfold Request.operation at asks
  cases method : Method.parse asked.1.method with
  | put =>
      rw [method] at asks
      rcases Option.map_eq_some_iff.mp asks with ⟨body', known, same⟩
      cases same
      cases parsed : putBody asked.1 with
      | error error =>
          rw [parsed] at known
          cases known
      | ok body'' =>
          rw [parsed] at known
          cases known
          exact ⟨rfl, answers, body, rfl, whole, fits⟩
  | mkcol =>
      rw [method] at asks
      cases asks
  | delete =>
      rw [method] at asks
      cases asks
  | move =>
      rw [method] at asks
      rcases Option.map_eq_some_iff.mp asks with ⟨_, _, same⟩
      cases same
  | copy =>
      rw [method] at asks
      rcases Option.map_eq_some_iff.mp asks with ⟨_, _, same⟩
      cases same
  | _ =>
      rw [method] at asks
      cases asks

/-- A session is a run of the file server: the requests that were answered with success have had
their effect, one after the other, and the others none. -/
theorem FileView.Session.run (shows : view.Shows gw)
    (session : view.Session gw platform opts world log last) (good : view.good world)
    (admitted : ∀ entry ∈ log, ∀ operation, entry.1.operation platform opts = some operation →
      view.admits operation) :
    view.good last ∧ ∃ performed, Performs platform opts log performed ∧
      ShownTree.Run view.digest (view.tree world.remote) performed (view.tree last.remote) := by
  induction session with
  | nil world => exact ⟨good, [], .nil, .nil _⟩
  | idle idles rest induction =>
      rcases shows.idles _ _ good idles with ⟨good, same⟩
      rw [← same]
      exact induction good admitted
  | request req response handled rest induction =>
      have first := admitted _ List.mem_cons_self
      have ends := (answered_handleRequest shows good first).of_disturbed (fun _ => trivial) handled
      rcases induction ends.2.1 fun entry member => admitted entry (List.mem_cons_of_mem _ member)
        with ⟨good, performed, performs, run⟩
      refine ⟨good, ?_⟩
      have served := ends.2.2
      cases asks : req.operation platform opts with
      | none =>
          rw [asks] at served
          dsimp only at served
          rw [← served]
          exact ⟨performed, .looked asks performs, run⟩
      | some operation =>
          rw [asks] at served
          rcases served with ⟨ended, answers, serves⟩
          exact ⟨(operation, ended) :: performed, .asked asks answers performs, .cons serves run⟩

end

end DriveWebdav
