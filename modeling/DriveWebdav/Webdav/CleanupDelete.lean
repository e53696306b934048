import DriveWebdav.Foundation.Interference
import DriveWebdav.Webdav.GuardHistory
import Mathlib.Logic.Relation

/-! # The cleanup DELETE

A client deletes the target of every PUT that failed. This module says when the
service refuses that DELETE. -/

namespace DriveWebdav

/-! ## What other requests may do -/

/-- One step of the rest of the service and of the store, in which no DELETE of
`path` succeeds. -/
inductive OtherStep (path : JsString) : ServiceWorld → ServiceWorld → Prop
  | time (world : ServiceWorld) (later : Nat) : world.memory.now ≤ later →
      OtherStep path world ⟨{ world.memory with now := later }, world.remote⟩
  | protect (world : ServiceWorld) (other : JsString) :
      OtherStep path world
        ⟨{ world.memory with guard := world.memory.guard.protect other world.memory.now },
          world.remote⟩
  | check (world : ServiceWorld) (other : JsString) :
      OtherStep path world
        ⟨{ world.memory with
            guard := (world.memory.guard.isProtected other world.memory.now).2 },
          world.remote⟩
  | release (world : ServiceWorld) (other : JsString) : path ≠ other →
      OtherStep path world
        ⟨{ world.memory with guard := world.memory.guard.release other }, world.remote⟩
  | elsewhere (world changed : ServiceWorld) :
      changed.memory.now = world.memory.now → changed.memory.guard = world.memory.guard →
      (world.memory.sessionInvalid = true → changed.memory.sessionInvalid = true) →
      OtherStep path world changed

def Aftermath (path : JsString) : ServiceWorld → ServiceWorld → Prop :=
  Relation.ReflTransGen (OtherStep path)

theorem now_le_of_otherStep {path : JsString} {world changed : ServiceWorld}
    (step : OtherStep path world changed) : world.memory.now ≤ changed.memory.now := by
  cases step with
  | time later le => exact le
  | protect other => exact Nat.le_refl _
  | check other => exact Nat.le_refl _
  | release other different => exact Nat.le_refl _
  | elsewhere _ sameNow sameGuard latched => exact Nat.le_of_eq sameNow.symm

theorem now_le_of_aftermath {path : JsString} {world changed : ServiceWorld}
    (after : Aftermath path world changed) : world.memory.now ≤ changed.memory.now := by
  induction after with
  | refl => exact Nat.le_refl _
  | tail _ step induction => exact Nat.le_trans induction (now_le_of_otherStep step)

theorem sessionInvalid_of_aftermath {path : JsString} {world changed : ServiceWorld}
    (after : Aftermath path world changed) (invalid : world.memory.sessionInvalid = true) :
    changed.memory.sessionInvalid = true := by
  induction after with
  | refl => exact invalid
  | tail _ step induction =>
      cases step with
      | elsewhere _ sameNow sameGuard latched => exact latched induction
      | _ => exact induction

theorem covers_of_otherStep {path : JsString} {deadline : Nat} {world changed : ServiceWorld}
    (step : OtherStep path world changed)
    (covers : world.memory.guard.Covers path deadline)
    (early : world.memory.now < deadline)
    (window : deadline ≤ world.memory.now + OVERWRITE_PROTECT_MS) :
    changed.memory.guard.Covers path deadline := by
  cases step with
  | time later le => exact covers
  | protect other => exact OverwriteGuard.covers_protect covers early window
  | check other =>
      rw [OverwriteGuard.isProtected_snd]
      exact OverwriteGuard.covers_prune covers early
  | release other different => exact OverwriteGuard.covers_release_of_ne covers different
  | elsewhere _ sameNow sameGuard latched => exact sameGuard ▸ covers

/-- A protection that began runs until its deadline. -/
theorem covers_of_aftermath {path : JsString} {deadline : Nat} {world changed : ServiceWorld}
    (after : Aftermath path world changed)
    (covers : world.memory.guard.Covers path deadline)
    (window : deadline ≤ world.memory.now + OVERWRITE_PROTECT_MS)
    (early : changed.memory.now < deadline) :
    changed.memory.guard.Covers path deadline := by
  induction after with
  | refl => exact covers
  | tail before step induction =>
      have earlier := Nat.lt_of_le_of_lt (now_le_of_otherStep step) early
      have passed := now_le_of_aftermath before
      exact covers_of_otherStep step (induction earlier) earlier (by omega)

/-! ## Why requests do no more -/

section

variable {Stream : Type} {platform : Platform} {opts : WebdavOptions} {path : JsString}
  {store : Program.Service GatewayCall (GatewayAnswer Stream) Thrown Drive}
  {initial : ServiceWorld} {state next : GatewayState Stream Drive}
  {event : Process.Event Request ServiceMemory GatewayCall (GatewayAnswer Stream) Thrown}
  {condition : Process.Condition Request ServiceMemory GatewayCall (GatewayAnswer Stream) Thrown
    Drive}

/-- Steps in which no DELETE of the path succeeds, beside anything that others may do. -/
def SparesPath (path : JsString) :
    Process.Condition Request ServiceMemory GatewayCall (GatewayAnswer Stream) Thrown Drive :=
  fun event state next => (∀ flight, event = .accessed flight → ¬ReleasesGuard path flight) ∧
    (event = .outside → OtherStep path state.world next.world)

theorem otherStep_of_step
    (reachable : (handlers platform opts store).Reachable condition initial state)
    (step : (handlers platform opts store).Step event state next)
    (spares : SparesPath path event state next) : OtherStep path state.world next.world := by
  cases step with
  | start label world inFlight => exact .elsewhere _ _ rfl rfl id
  | finish label met value world before after => exact .elsewhere _ _ rfl rfl id
  | fail label met error world before after => exact .elsewhere _ _ rfl rfl id
  | update label met change resume world before after =>
      rcases reachable.accessed (.update label met change resume world before after) with
        ⟨changed, accesses, reached⟩
      rw [reached]
      rcases access_cases accesses with
        ⟨_, rfl⟩ | ⟨_, rfl⟩ | ⟨_, _, rfl⟩ | ⟨releases, rfl⟩
      · exact .elsewhere _ _ rfl rfl id
      · exact .protect _ _
      · exact .check _ _
      · apply OtherStep.release
        intro same
        rw [← same] at releases
        exact spares.1 _ rfl releases
  | await label met command resume answer remote world before after answered =>
      exact .elsewhere _ _ rfl rfl id
  | environment world changed inFlight acted => exact spares.2 rfl

/-- Requests side by side, whatever their gateway answers, take only such steps until a DELETE of
the path succeeds. -/
theorem aftermath_of_leads
    (reachable : (handlers platform opts store).Reachable condition initial state)
    (leads : (handlers platform opts store).Leads (SparesPath path) state next) :
    Aftermath path state.world next.world := by
  apply Process.Leads.induct (fun reached => Aftermath path state.world reached.world)
    Relation.ReflTransGen.refl _ leads
  intro event reached next before step spares after
  have anyway := Process.Reachable.leads reachable.anyhow before.anyhow
  exact after.tail (otherStep_of_step anyway step spares)

end

/-! ## Refusing a DELETE -/

section

variable (Stream : Type)

/-- The rules of a DELETE of `path` before `deadline`: others may act between
its steps, and it must not reach `gw.remove`. -/
def cleanupRules (path : JsString) (deadline : Nat) :
    Rules ServiceMemory GatewayCall (GatewayAnswer Stream) Thrown Drive where
  service _ _ _ _ := True
  invariant world := world.memory.now < deadline
  interference := Aftermath path
  guarantee _ _ := True
  permits _ command := ∀ other, command ≠ .remove other
  interference_refl _ := Relation.ReflTransGen.refl
  interference_trans _ _ _ := Relation.ReflTransGen.trans

variable (platform : Platform) (opts : WebdavOptions)

def AnswersError : Except Thrown (Response Stream) → ServiceWorld → Prop :=
  fun outcome _ => ∃ response, outcome = .ok response ∧ response.isError = true

/-- Every DELETE of `path` handled from here on, and before the protection of a
PUT that fails now would end, is answered with an error and never reaches
`gw.remove`, unless a DELETE of `path` has succeeded before. -/
def CleanupRefused (path : JsString) (world : ServiceWorld) : Prop :=
  ∀ req : Request, Method.parse req.method = .delete → req.path = path →
    (cleanupRules Stream path (world.memory.now + OVERWRITE_PROTECT_MS)).Ensures
      (handleRequest (calledGateway Stream) platform opts req)
      (AnswersError Stream) world

variable {Stream platform opts}

private theorem refused_of_covers {path : JsString} {world : ServiceWorld}
    (guarded : opts.guarded = true)
    (covers : world.memory.guard.Covers path (world.memory.now + OVERWRITE_PROTECT_MS)) :
    CleanupRefused Stream platform opts path world := by
  intro req isDelete samePath
  rw [handleRequest, Rules.ensures_bind, Rules.ensures_read]
  intro now early reached
  refine ⟨trivial, ?_⟩
  by_cases invalid : now.memory.sessionInvalid = true
  · simp only [isDelete, invalid]
    exact ⟨_, rfl, rfl⟩
  · simp only [isDelete, invalid, Bool.and_false, Bool.false_eq_true, if_false]
    rw [Rules.ensures_tryCatch, dispatch, isDelete]
    simp only [handleDelete, checkProtected, guarded, if_true]
    rw [Rules.ensures_bind, Rules.ensures_update]
    intro later laterEarly between
    have still := covers_of_aftermath (reached.trans between) covers (Nat.le_refl _) laterEarly
    have refused : (later.memory.guard.isProtected req.path later.memory.now).1 = true := by
      rw [OverwriteGuard.isProtected_iff, samePath]
      rcases still with ⟨expiry, found, le⟩
      exact ⟨expiry, found, Nat.le_trans laterEarly le⟩
    simp only [refused]
    exact ⟨trivial, _, rfl, rfl⟩

private theorem refused_of_invalid {path : JsString} {world : ServiceWorld}
    (invalid : world.memory.sessionInvalid = true) :
    CleanupRefused Stream platform opts path world := by
  intro req isDelete samePath
  rw [handleRequest, Rules.ensures_bind, Rules.ensures_read]
  intro now early reached
  refine ⟨trivial, ?_⟩
  simp only [isDelete, sessionInvalid_of_aftermath reached invalid]
  exact ⟨_, rfl, rfl⟩

/-- A moment before the deadline at which the guard lets a DELETE through: now,
or once the protection that is there has run out. -/
private theorem exists_exposed {path : JsString} {world : ServiceWorld}
    (exposed : ¬(opts.guarded = true ∧
      world.memory.guard.Covers path (world.memory.now + OVERWRITE_PROTECT_MS))) :
    ∃ now : ServiceWorld, Aftermath path world now ∧
      now.memory.sessionInvalid = world.memory.sessionInvalid ∧
      now.memory.now < world.memory.now + OVERWRITE_PROTECT_MS ∧
      (opts.guarded = true →
        (now.memory.guard.isProtected path now.memory.now).1 = false) := by
  by_cases covered : opts.guarded = true ∧
      world.memory.guard.Covers path (world.memory.now + 1)
  · rcases covered with ⟨guarded, expiry, found, after⟩
    refine ⟨_, Relation.ReflTransGen.single (.time world expiry (by omega)), rfl, ?_,
      fun _ => ?_⟩
    · by_contra late
      exact exposed ⟨guarded, expiry, found, by simpa using late⟩
    · rw [Bool.eq_false_iff, Ne, OverwriteGuard.isProtected_iff]
      rintro ⟨other, same, le⟩
      rw [found] at same
      cases same
      exact Nat.not_succ_le_self expiry le
  · refine ⟨world, Relation.ReflTransGen.refl, rfl, by simp [OVERWRITE_PROTECT_MS],
      fun guarded => ?_⟩
    rw [Bool.eq_false_iff, Ne, OverwriteGuard.isProtected_iff]
    exact fun covers => covered ⟨guarded, covers⟩

/-- A DELETE that comes when no protection runs reaches `gw.remove`. -/
private theorem not_refused {req : Request} {world : ServiceWorld}
    (valid : world.memory.sessionInvalid = false)
    (exposed : ¬(opts.guarded = true ∧
      world.memory.guard.Covers req.path (world.memory.now + OVERWRITE_PROTECT_MS))) :
    ¬CleanupRefused Stream platform opts req.path world := by
  intro refused
  rcases exists_exposed exposed with ⟨now, reached, same, early, unprotected⟩
  have isDelete : Method.parse ("DELETE" : JsString) = .delete := by decide
  have ensured := refused { req with method := "DELETE" } isDelete rfl
  have still : (cleanupRules Stream req.path
      (world.memory.now + OVERWRITE_PROTECT_MS)).interference now now :=
    Relation.ReflTransGen.refl
  rw [handleRequest, Rules.ensures_bind, Rules.ensures_read] at ensured
  have entered := (ensured now early reached).2
  simp only [isDelete, same, valid, Bool.and_false, Bool.false_eq_true, if_false] at entered
  rw [Rules.ensures_tryCatch, dispatch, isDelete] at entered
  simp only [handleDelete, checkProtected] at entered
  by_cases guarded : opts.guarded = true
  · simp only [guarded, if_true] at entered
    rw [Rules.ensures_bind, Rules.ensures_update] at entered
    have checked := (entered now early still).2
    have free := unprotected guarded
    simp only [Request.path] at checked free
    simp only [free] at checked
    refine (checked _ ?_ Relation.ReflTransGen.refl).1 _ rfl
    exact early
  · simp only [guarded] at entered
    exact (entered now early still).1 _ rfl

/-- When the cleanup DELETE of a request's path is refused. -/
private theorem cleanupRefused_iff {req : Request} {world : ServiceWorld} :
    CleanupRefused Stream platform opts req.path world ↔
      world.memory.sessionInvalid = true ∨ (opts.guarded = true ∧
        world.memory.guard.Covers req.path (world.memory.now + OVERWRITE_PROTECT_MS)) := by
  constructor
  · intro refused
    by_contra neither
    rw [not_or] at neither
    exact not_refused (Bool.eq_false_iff.mpr neither.1) neither.2 refused
  · rintro (invalid | ⟨guarded, covers⟩)
    · exact refused_of_invalid invalid
    · exact refused_of_covers guarded covers

end

/-! ## The course of a PUT -/

/-- How a PUT goes: what `gw.put` and the `stat` after it answer, and the worlds
they are answered in, which others may have changed meanwhile. The answers are of
any kind: a gateway that remembers where it found things may show no entry for a
file that is there. -/
structure PutCourse where
  putOutcome : Except Thrown PutResult
  afterPut : ServiceWorld
  statOutcome : Except Thrown (Option DriveEntry)
  afterStat : ServiceWorld

namespace PutCourse

/-- A PUT calls nothing but `put` and `stat`. -/
def answer {Stream : Type} (course : PutCourse) :
    ServiceWorld → (command : GatewayCall) →
      Except Thrown (GatewayAnswer Stream command) × ServiceWorld
  | _, .put _ _ _ => (course.putOutcome, course.afterPut)
  | _, .stat _ => (course.statOutcome, course.afterStat)
  | world, _ => (.error (.sdk ⟨.other, []⟩), world)

/-- The PUT is answered with an error status. -/
def fails (course : PutCourse) (req : Request) (world : ServiceWorld) : Bool :=
  world.memory.sessionInvalid ||
    match putBody req, course.putOutcome with
    | .error _, _ => true
    | .ok _, .ok _ => false
    | .ok _, .error thrown => 400 ≤ thrown.status

/-- The world in which the PUT is answered, apart from what the PUT protects. -/
def answeredIn (course : PutCourse) (opts : WebdavOptions) (req : Request)
    (world : ServiceWorld) : ServiceWorld :=
  if world.memory.sessionInvalid then world
  else
    match putBody req, course.putOutcome with
    | .error _, _ => world
    | .ok _, .ok _ => course.afterPut
    | .ok _, .error _ => if opts.guarded then course.afterStat else course.afterPut

/-- `gw.put` was called and failed, and the `stat` after it showed an entry. -/
def seesEntry (course : PutCourse) (req : Request) : Bool :=
  (putBody req).toBool && !course.putOutcome.toBool &&
    match course.statOutcome with
    | .ok entry => entry.isSome
    | .error _ => false

end PutCourse

section

variable (Stream : Type) (platform : Platform) (opts : WebdavOptions)

def runPut (course : PutCourse) (req : Request) (world : ServiceWorld) :
    Except Thrown (Response Stream) × ServiceWorld :=
  Program.run course.answer (handleRequest (calledGateway Stream) platform opts req)
    world

/-- If the PUT is answered with an error while something that a DELETE would
trash is at its path, the cleanup DELETE is refused. -/
def PutProtects (course : PutCourse) (req : Request) (world : ServiceWorld) : Prop :=
  ∀ response, (runPut Stream platform opts course req world).1 = .ok response →
    response.isError = true →
    Trashable platform (runPut Stream platform opts course req world).2.remote req.path →
    CleanupRefused Stream platform opts req.path (runPut Stream platform opts course req world).2

/-- A PUT protects its path from the cleanup DELETE exactly when it does not
fail, nothing is there to trash, the session is known to be dead, or the guard
is armed: by the `stat` that saw an entry after `gw.put` had failed, or by an
earlier protection that lasts as long. -/
def ProtectionCondition (course : PutCourse) (req : Request) (world : ServiceWorld) : Prop :=
  let answered := course.answeredIn opts req world
  course.fails req world = false ∨ ¬Trashable platform answered.remote req.path ∨
    answered.memory.sessionInvalid = true ∨
    (opts.guarded = true ∧
      (course.seesEntry req = true ∨
        answered.memory.guard.Covers req.path (answered.memory.now + OVERWRITE_PROTECT_MS)))

variable {Stream platform opts}

/-- The world once `armGuard` has run. -/
def PutCourse.armed (opts : WebdavOptions) (course : PutCourse) (path : JsString)
    (world : ServiceWorld) : ServiceWorld :=
  if opts.guarded then
    match course.statOutcome with
    | .ok (some _) =>
        ⟨{ course.afterStat.memory with
          guard := course.afterStat.memory.guard.protect path course.afterStat.memory.now },
          course.afterStat.remote⟩
    | _ => course.afterStat
  else world

theorem run_armGuard {course : PutCourse} {path : JsString} {world : ServiceWorld} :
    Program.run course.answer (armGuard (calledGateway Stream) opts path) world =
      (.ok (), course.armed opts path world) := by
  cases guarded : opts.guarded with
  | false => simp [armGuard, PutCourse.armed, guarded]
  | true =>
      simp only [armGuard, PutCourse.armed, guarded, if_true, Program.run_bind,
        Program.run_tryCatch, calledGateway, Program.run_request, PutCourse.answer]
      cases course.statOutcome with
      | error error => rfl
      | ok entry => cases entry <;> rfl

theorem run_handleRequest_put {course : PutCourse} {req : Request} {world : ServiceWorld}
    (isPut : Method.parse req.method = .put) (valid : world.memory.sessionInvalid = false) :
    runPut Stream platform opts course req world =
      match putBody req, course.putOutcome with
      | .error error, _ => (.ok (errorToResponse (.gateway error)), world)
      | .ok _, .ok result => (.ok (putResponse (putOptions opts req) result), course.afterPut)
      | .ok _, .error thrown =>
          (.ok (errorToResponse thrown),
            course.armed opts req.path course.afterPut) := by
  simp only [runPut, handleRequest, Program.run_bind, Program.run_read, isPut, valid,
    Bool.and_false, Bool.false_eq_true, if_false, Program.run_tryCatch, dispatch, handlePut]
  cases putBody req with
  | error error => rfl
  | ok body =>
      have called : (calledGateway Stream).put req.path body (putOptions opts req) =
          Program.request (GatewayCall.put req.path body (putOptions opts req)) := rfl
      simp only [Program.run_bind, Program.run_tryCatch, called, Program.run_request,
        PutCourse.answer]
      cases course.putOutcome with
      | ok result => rfl
      | error thrown => simp only [run_armGuard, Program.run_throw, Program.run_pure]

theorem isError_errorToResponse (thrown : Thrown) :
    (errorToResponse thrown : Response Stream).isError = decide (400 ≤ thrown.status) := by
  cases thrown <;> rfl

theorem isError_putResponse (putOpts : PutOptions) (result : PutResult) :
    (putResponse putOpts result : Response Stream).isError = false := by
  cases result <;> rfl

/-- What `armGuard` leaves behind: it protects the path if the `stat` shows an
entry, and changes nothing else. -/
theorem covers_armed_iff {course : PutCourse} {path : JsString} {world : ServiceWorld}
    (guarded : opts.guarded = true) :
    (course.armed opts path world).memory.guard.Covers path
        ((course.armed opts path world).memory.now + OVERWRITE_PROTECT_MS) ↔
      (∃ entry, course.statOutcome = .ok (some entry)) ∨
        course.afterStat.memory.guard.Covers path
          (course.afterStat.memory.now + OVERWRITE_PROTECT_MS) := by
  simp only [PutCourse.armed, guarded, if_true]
  cases course.statOutcome with
  | error error => simp
  | ok shown =>
      cases shown with
      | none => simp
      | some entry => simp [OverwriteGuard.covers_protect_self]

theorem remote_armed {course : PutCourse} {path : JsString} {world : ServiceWorld}
    (guarded : opts.guarded = true) :
    (course.armed opts path world).remote = course.afterStat.remote ∧
      (course.armed opts path world).memory.sessionInvalid =
        course.afterStat.memory.sessionInvalid := by
  simp only [PutCourse.armed, guarded, if_true]
  split <;> exact ⟨rfl, rfl⟩

theorem armed_of_unguarded {course : PutCourse} {path : JsString} {world : ServiceWorld}
    (unguarded : opts.guarded = false) : course.armed opts path world = world := by
  simp [PutCourse.armed, unguarded]

/-- What protection means once the answer to the PUT is known. -/
private theorem putProtects_iff_of_run {course : PutCourse} {req : Request}
    {world final : ServiceWorld} {response : Response Stream}
    (ran : runPut Stream platform opts course req world = (.ok response, final)) :
    PutProtects Stream platform opts course req world ↔
      response.isError = false ∨ ¬Trashable platform final.remote req.path ∨
        final.memory.sessionInvalid = true ∨ (opts.guarded = true ∧
          final.memory.guard.Covers req.path (final.memory.now + OVERWRITE_PROTECT_MS)) := by
  simp only [PutProtects, ran, cleanupRefused_iff, Except.ok.injEq, forall_eq']
  cases response.isError <;> simp [imp_iff_not_or]

private theorem putProtects_of_valid {course : PutCourse} {req : Request}
    {world : ServiceWorld} (isPut : Method.parse req.method = .put)
    (valid : world.memory.sessionInvalid = false) :
    PutProtects Stream platform opts course req world ↔
      ProtectionCondition platform opts course req world := by
  have ran : runPut Stream platform opts course req world = _ := run_handleRequest_put isPut valid
  simp only [ProtectionCondition, PutCourse.fails, PutCourse.answeredIn, PutCourse.seesEntry,
    valid, Bool.false_or, Bool.false_eq_true, if_false]
  cases body : putBody req with
  | error error =>
      rw [body] at ran
      rw [putProtects_iff_of_run ran, isError_errorToResponse, Thrown.status,
        status_of_putBody body]
      simp [valid, Except.toBool]
  | ok body =>
      rw [body] at ran
      cases outcome : course.putOutcome with
      | ok result =>
          rw [outcome] at ran
          rw [putProtects_iff_of_run ran, isError_putResponse]
          simp
      | error thrown =>
          rw [outcome] at ran
          rw [putProtects_iff_of_run ran, isError_errorToResponse]
          cases guarded : opts.guarded with
          | false => simp [armed_of_unguarded guarded]
          | true =>
              rw [(remote_armed guarded).1, (remote_armed guarded).2, covers_armed_iff guarded]
              cases course.statOutcome with
              | error error => simp [Except.toBool]
              | ok shown =>
                  cases shown with
                  | none => simp [Except.toBool]
                  | some entry => simp [Except.toBool]

/-- When a failed PUT protects what is at its path. -/
theorem putProtects_iff {course : PutCourse} {req : Request} {world : ServiceWorld}
    (isPut : Method.parse req.method = .put) :
    PutProtects Stream platform opts course req world ↔
      ProtectionCondition platform opts course req world := by
  cases valid : world.memory.sessionInvalid with
  | false => exact putProtects_of_valid isPut valid
  | true =>
      have ran : runPut Stream platform opts course req world =
          (.ok (davResponse 401 (some sessionRejected) []), world) := by
        simp [runPut, handleRequest, Program.run_bind, isPut, valid]
      rw [putProtects_iff_of_run ran]
      simp [ProtectionCondition, PutCourse.answeredIn, valid]

end

/-! ## A PUT that is refused before the gateway is asked -/

/-- A committed file at `/a`. -/
def guardedDrive : Drive :=
  .ofNodes 0 [(0, .folder none "my-files"), (1, .file 0 "a" [104, 105] (List.replicate 40 'a'))]

def guardedWorld : ServiceWorld := ⟨.initial 1000, guardedDrive⟩

/-- A PUT of `/a` that declares five bytes and carries no body. -/
def bodylessPut : Request where
  method := "PUT"
  pathname := "/a"
  header name := if name = "Content-Length" then some "5" else none
  body := none
  text := none

def guardedEntry : DriveEntry := ⟨"a", false, 2, ⟨some 0⟩, some (List.replicate 40 'a')⟩

def noCourse : PutCourse := ⟨.ok .created, guardedWorld, .ok (some guardedEntry), guardedWorld⟩

def guardedOptions : WebdavOptions := ⟨true, none, true⟩

theorem bodylessPut_exposes :
    ¬PutProtects Unit (.plain []) guardedOptions noCourse bodylessPut guardedWorld := by
  rw [putProtects_of_valid (by decide) rfl]
  rintro (failed | untrashable | invalid | ⟨_, seen | ⟨expiry, found, _⟩⟩)
  · exact absurd failed (by decide)
  · exact untrashable ⟨by decide, ⟨_, by rfl, .inr ⟨by decide, by decide⟩⟩⟩
  · exact absurd invalid (by decide)
  · exact absurd seen (by decide)
  · have absent : (noCourse.answeredIn guardedOptions bodylessPut guardedWorld).memory.guard.expiry
        bodylessPut.path = none := by decide
    rw [absent] at found
    cases found

/-- The same PUT with its body, refused by the gateway: the guard is armed. -/
theorem refusedPut_protects :
    PutProtects Unit (.plain []) guardedOptions
      ⟨.error (.gateway (.immutablePrecondition "Immutable")), guardedWorld,
        .ok (some guardedEntry), guardedWorld⟩
      { bodylessPut with body := some (.value [1, 2, 3, 4, 5] .done) } guardedWorld :=
  (putProtects_iff (by decide)).mpr (.inr (.inr (.inr ⟨rfl, .inl (by decide)⟩)))

end DriveWebdav
