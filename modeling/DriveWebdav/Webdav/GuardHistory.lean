import DriveWebdav.Foundation.Process
import DriveWebdav.Webdav.GatewayCalls

/-! # The guard over a history

Requests side by side over a gateway of which nothing is known, beside anything that leaves the
guard alone. What the guard refuses is told by what requests have met before. -/

namespace DriveWebdav

abbrev GatewayEntry (Stream : Type) :=
  Program.Entry ServiceMemory GatewayCall (GatewayAnswer Stream) Thrown

abbrev GatewayFlight (Stream : Type) :=
  Process.Flight Request ServiceMemory GatewayCall (GatewayAnswer Stream) Thrown

abbrev GatewayState (Stream Remote : Type) :=
  Process.State Request ServiceMemory GatewayCall (GatewayAnswer Stream) Thrown Remote

abbrev GatewayTaken (Stream Remote : Type) :=
  Process.Taken Request ServiceMemory GatewayCall (GatewayAnswer Stream) Thrown Remote

/-- The handlers over a gateway that answers as `store` does. The clock may be set in any way. -/
def handlers {Stream Remote : Type} (platform : Platform) (opts : WebdavOptions)
    (store : Program.Service GatewayCall (GatewayAnswer Stream) Thrown Remote) :
    Process Request ServiceMemory GatewayCall (GatewayAnswer Stream) Thrown Remote where
  service := store
  launch req := handleRequest (calledGateway Stream) platform opts req >>= fun _ => pure ()
  environment world changed := changed.memory.guard = world.memory.guard

section

variable {Stream : Type} (opts : WebdavOptions) (path : JsString) (flight : GatewayFlight Stream)

/-- A PUT of the path has failed, and has then seen that something is there. -/
def ArmsGuard : Prop :=
  Method.parse flight.label.method = .put ∧ flight.label.path = path ∧ ∃ start body error entry,
    putBody flight.label = .ok body ∧
      flight.met = [.access start,
        .exchange (.put path body (putOptions opts flight.label)) (.error error),
        .exchange (.stat path) (.ok (some entry))]

/-- A DELETE of the path is about to ask the guard. -/
def AsksGuard : Prop :=
  Method.parse flight.label.method = .delete ∧ flight.label.path = path ∧
    ∃ start, start.sessionInvalid = false ∧ flight.met = [.access start]

/-- A DELETE of the path has succeeded. -/
def ReleasesGuard : Prop :=
  Method.parse flight.label.method = .delete ∧ flight.label.path = path ∧
    ∃ start asked, flight.met =
      [.access start, .access asked, .exchange (.remove path) (.ok ())]

end

/-- Steps that neither renew nor end a protection of the path, and that clear the guard of old
entries only while the clock shows less than `expiry`. -/
def LeavesProtection {Stream Remote : Type} (opts : WebdavOptions) (path : JsString)
    (expiry : Nat) :
    Process.Condition Request ServiceMemory GatewayCall (GatewayAnswer Stream) Thrown Remote :=
  fun event state _ => ∀ flight, event = .accessed flight →
    ¬ArmsGuard opts path flight ∧ ¬ReleasesGuard path flight ∧
      ∀ other, ArmsGuard opts other flight ∨ AsksGuard other flight →
        state.world.memory.now < expiry

namespace OverwriteGuard

variable {guard : OverwriteGuard} {path other : JsString} {now until' : Nat}

theorem expiry_prune :
    (guard.prune now).expiry path = some until' ↔ guard.expiry path = some until' ∧ now < until' := by
  rw [expiry, prune, InsertionMap.get_filter, decide_eq_true_eq]
  exact Iff.rfl

theorem expiry_protect_self :
    (guard.protect path now).expiry path = some (now + OVERWRITE_PROTECT_MS) :=
  InsertionMap.get_set_self _ _ _

theorem expiry_protect_of_ne (different : path ≠ other) :
    (guard.protect other now).expiry path = (guard.prune now).expiry path :=
  InsertionMap.get_set_of_ne _ _ different

theorem expiry_release_self : (guard.release path).expiry path = none :=
  InsertionMap.get_delete_self _ _

theorem expiry_release_of_ne (different : path ≠ other) :
    (guard.release other).expiry path = guard.expiry path :=
  InsertionMap.get_delete_of_ne _ different

end OverwriteGuard

/-! ## Which requests use the guard -/

section

variable {Stream Remote : Type} {platform : Platform} {opts : WebdavOptions} {req : Request}
  {path : JsString} {trace : List (GatewayEntry Stream)} {change : ServiceMemory → ServiceMemory}

/-- What a failed PUT, a DELETE that asks and a DELETE that has succeeded do to the guard. -/
def ServiceMemory.protecting (path : JsString) (memory : ServiceMemory) : ServiceMemory :=
  { memory with guard := memory.guard.protect path memory.now }

def ServiceMemory.asking (path : JsString) (memory : ServiceMemory) : ServiceMemory :=
  { memory with guard := (memory.guard.isProtected path memory.now).2 }

def ServiceMemory.releasing (path : JsString) (memory : ServiceMemory) : ServiceMemory :=
  { memory with guard := memory.guard.release path }

theorem not_accesses_request {command : GatewayCall} :
    ¬(Program.request command :
      Operation GatewayCall (GatewayAnswer Stream) _).Accesses trace change := by
  have within : (Program.request command :
      Operation GatewayCall (GatewayAnswer Stream) _).Within (fun _ => False) fun _ => True :=
    Program.within_request trivial
  exact within.not_accesses

theorem accesses_armGuard
    (accesses : (armGuard (calledGateway Stream) opts path).Accesses trace change) :
    ∃ entry, trace = [.exchange (.stat path) (.ok (some entry))] ∧
      change = ServiceMemory.protecting path := by
  unfold armGuard at accesses
  split at accesses
  · rcases Program.accesses_bind accesses with looking | ⟨first, second, found, rfl, looked, rest⟩
    · rcases Program.accesses_tryCatch looking with stat | ⟨_, _, _, _, _, none⟩
      · exact absurd stat not_accesses_request
      · exact absurd none Program.not_accesses_finish
    · cases found with
      | none => exact absurd rest Program.not_accesses_finish
      | some entry =>
          rcases Program.accesses_modify rest with ⟨rfl, rfl⟩
          rcases Program.follows_tryCatch looked with ⟨value, same, shown⟩ | ⟨_, _, _, _, _, none⟩
          · cases same
            rw [Program.follows_request shown]
            exact ⟨entry, rfl, rfl⟩
          · cases none
  · exact absurd accesses Program.not_accesses_finish

theorem accesses_handlePut
    (accesses : (handlePut (calledGateway Stream) opts req path).Accesses trace change) :
    ∃ body error entry, putBody req = .ok body ∧
      trace = [.exchange (.put path body (putOptions opts req)) (.error error),
        .exchange (.stat path) (.ok (some entry))] ∧
      change = ServiceMemory.protecting path := by
  unfold handlePut at accesses
  split at accesses
  · exact absurd accesses Program.not_accesses_fail
  · next body brings =>
      rcases Program.accesses_bind accesses with trying | ⟨_, _, _, _, _, ended⟩
      · rcases Program.accesses_tryCatch trying with
          putting | ⟨first, second, error, rfl, failed, arming⟩
        · exact absurd putting not_accesses_request
        · rcases Program.accesses_bind arming with arming | ⟨_, _, _, _, _, thrown⟩
          · rcases accesses_armGuard arming with ⟨entry, rfl, same⟩
            rw [Program.follows_request failed]
            exact ⟨body, error, entry, brings, rfl, same⟩
          · exact absurd thrown Program.not_accesses_fail
      · exact absurd ended Program.not_accesses_finish

theorem accesses_handleDelete
    (accesses : (handleDelete (calledGateway Stream) opts path).Accesses trace change) :
    (trace = [] ∧ opts.guarded = true ∧ change = ServiceMemory.asking path) ∨
      (∃ asked, trace = [.access asked, .exchange (.remove path) (.ok ())]) ∧
        change = ServiceMemory.releasing path := by
  rcases Program.accesses_bind accesses with asking | ⟨first, second, refused, rfl, asked, rest⟩
  · unfold checkProtected at asking
    split at asking
    · next guarded =>
        rcases Program.accesses_update asking with ⟨rfl, rfl⟩ | ⟨_, _, _, ended⟩
        · exact .inl ⟨rfl, guarded, rfl⟩
        · exact absurd ended Program.not_accesses_finish
    · exact absurd asking Program.not_accesses_finish
  · cases refused with
    | true => exact absurd rest Program.not_accesses_finish
    | false =>
        rcases Program.accesses_bind rest with removing | ⟨third, last, _, rfl, removed, rest⟩
        · exact absurd removing not_accesses_request
        · rcases Program.accesses_bind rest with releasing | ⟨_, _, _, _, _, ended⟩
          · unfold releaseGuard at releasing
            unfold checkProtected at asked
            split at releasing
            · next guarded =>
                rw [if_pos guarded] at asked
                rcases Program.accesses_modify releasing with ⟨rfl, rfl⟩
                rw [Program.follows_request removed]
                cases asked with
                | update memory ended =>
                    rcases (Program.follows_finish ended).1 with rfl
                    exact .inr ⟨⟨memory, rfl⟩, rfl⟩
            · exact absurd releasing Program.not_accesses_finish
          · exact absurd ended Program.not_accesses_finish

/-- Other methods leave the guard to itself. -/
theorem not_accesses_dispatch (notPut : Method.parse req.method ≠ .put)
    (notDelete : Method.parse req.method ≠ .delete) :
    ¬(dispatch (calledGateway Stream) platform opts req path).Accesses trace change := by
  have requests : ∀ command, (Program.request command :
      Operation GatewayCall (GatewayAnswer Stream) _).Within (fun _ => False) fun _ => True :=
    fun _ => Program.within_request trivial
  have stats : ∀ path, ((calledGateway Stream).stat path).Within (fun _ => False) fun _ => True :=
    fun path => requests (.stat path)
  have reads : ∀ path range,
      ((calledGateway Stream).read path range).Within (fun _ => False) fun _ => True :=
    fun path range => requests (.read path range)
  have within : (dispatch (calledGateway Stream) platform opts req path).Within
      (fun _ => False) fun _ => True := by
    unfold dispatch
    cases method : Method.parse req.method with
    | options => exact Program.within_pure _
    | propfind =>
        exact within_handlePropfind stats (fun path => requests (.list path)) (requests .quota)
          req path
    | proppatch => exact within_handleProppatch stats req path
    | get => exact within_handleGet stats reads req path false
    | head => exact within_handleGet stats reads req path true
    | put => exact absurd method notPut
    | patch => exact within_handleRecalculateHash stats req path
    | mkcol => exact Program.within_bind (requests (.mkcol path)) fun _ => Program.within_pure _
    | delete => exact absurd method notDelete
    | move => exact within_handleTransfer fun destination => requests (.move path destination)
    | copy => exact within_handleTransfer fun destination => requests (.copy path destination)
    | unknown => exact Program.within_pure _
  exact within.not_accesses

/-- Every access of a request to the memory is its first one, which reads, or one of the three
that use the guard. -/
theorem access_cases {store : Program.Service GatewayCall (GatewayAnswer Stream) Thrown Remote}
    {flight : GatewayFlight Stream}
    (accesses : ((handlers platform opts store).launch flight.label).Accesses flight.met change) :
    (flight.met = [] ∧ change = id) ∨
      (ArmsGuard opts flight.label.path flight ∧
        change = ServiceMemory.protecting flight.label.path) ∨
      (AsksGuard flight.label.path flight ∧ opts.guarded = true ∧
        change = ServiceMemory.asking flight.label.path) ∨
      (ReleasesGuard flight.label.path flight ∧
        change = ServiceMemory.releasing flight.label.path) := by
  rcases flight with ⟨req, met, rest⟩
  dsimp only at accesses ⊢
  rcases Program.accesses_bind accesses with handling | ⟨_, _, _, _, _, ended⟩
  · rcases Program.accesses_bind handling with
      reading | ⟨first, second, memory, rfl, started, rest⟩
    · rcases Program.accesses_update reading with first | ⟨_, _, _, ended⟩
      · exact .inl first
      · exact absurd ended Program.not_accesses_finish
    · rcases Program.follows_read started with ⟨start, rfl, ⟨⟩⟩
      split at rest
      · exact absurd rest Program.not_accesses_finish
      · next goesOn =>
        rcases Program.accesses_tryCatch rest with dispatching | ⟨_, _, _, _, _, ended⟩
        · by_cases isPut : Method.parse req.method = .put
          · unfold dispatch at dispatching
            rw [isPut] at dispatching
            rcases accesses_handlePut dispatching with ⟨body, error, entry, brings, rfl, same⟩
            exact .inr (.inl ⟨⟨isPut, rfl, _, body, error, entry, brings, rfl⟩, same⟩)
          · by_cases isDelete : Method.parse req.method = .delete
            · unfold dispatch at dispatching
              rw [isDelete] at dispatching
              rcases accesses_handleDelete dispatching with
                ⟨rfl, guarded, same⟩ | ⟨⟨asked, rfl⟩, same⟩
              · have valid : memory.sessionInvalid = false := by simpa [isDelete] using goesOn
                exact .inr (.inr (.inl ⟨⟨isDelete, rfl, _, valid, rfl⟩, guarded, same⟩))
              · exact .inr (.inr (.inr ⟨⟨isDelete, rfl, _, asked, rfl⟩, same⟩))
            · exact absurd dispatching (not_accesses_dispatch isPut isDelete)
        · exact absurd ended Program.not_accesses_finish
  · exact absurd ended Program.not_accesses_finish

/-! ## Runs -/

variable {store : Program.Service GatewayCall (GatewayAnswer Stream) Thrown Remote}
  {event : Process.Event Request ServiceMemory GatewayCall (GatewayAnswer Stream) Thrown}
  {initial : World ServiceMemory Remote} {state next later : GatewayState Stream Remote}
  {flight : GatewayFlight Stream} {expiry : Nat}
  {condition : Process.Condition Request ServiceMemory GatewayCall (GatewayAnswer Stream) Thrown
    Remote}

/-- What a step does to the guard. -/
theorem guard_step (reachable : (handlers platform opts store).Reachable condition initial state)
    (step : (handlers platform opts store).Step event state next) :
    (next.world.memory.guard = state.world.memory.guard ∧
      ∀ flight, event = .accessed flight → flight.met = []) ∨
    ∃ flight, event = .accessed flight ∧
      (ArmsGuard opts flight.label.path flight ∧ next.world.memory.guard =
          state.world.memory.guard.protect flight.label.path state.world.memory.now ∨
        AsksGuard flight.label.path flight ∧ opts.guarded = true ∧ next.world.memory.guard =
          state.world.memory.guard.prune state.world.memory.now ∨
        ReleasesGuard flight.label.path flight ∧ next.world.memory.guard =
          state.world.memory.guard.release flight.label.path) := by
  rcases step.memory_cases with ⟨flight, rfl⟩ | ⟨others, outside | same⟩
  · rcases reachable.accessed step with ⟨change, accesses, reached⟩
    rw [reached]
    rcases access_cases accesses with
      ⟨first, rfl⟩ | ⟨arms, rfl⟩ | ⟨asks, guarded, rfl⟩ | ⟨releases, rfl⟩
    · left
      refine ⟨rfl, ?_⟩
      rintro _ ⟨⟩
      exact first
    · exact .inr ⟨flight, rfl, .inl ⟨arms, rfl⟩⟩
    · exact .inr ⟨flight, rfl, .inr (.inl ⟨asks, guarded, OverwriteGuard.isProtected_snd _ _ _⟩)⟩
    · exact .inr ⟨flight, rfl, .inr (.inr ⟨releases, rfl⟩)⟩
  · exact .inl ⟨outside, fun flight accessed => absurd accessed (others flight)⟩
  · rw [same]
    exact .inl ⟨rfl, fun flight accessed => absurd accessed (others flight)⟩

/-! A flight is at one place only. -/

theorem not_arms_of_first (first : flight.met = []) : ¬ArmsGuard opts path flight := by
  rintro ⟨_, _, _, _, _, _, _, met⟩
  rw [first] at met
  cases met

theorem not_asks_of_first (first : flight.met = []) : ¬AsksGuard path flight := by
  rintro ⟨_, _, _, _, met⟩
  rw [first] at met
  cases met

theorem not_releases_of_first (first : flight.met = []) : ¬ReleasesGuard path flight := by
  rintro ⟨_, _, _, _, met⟩
  rw [first] at met
  cases met

theorem not_releases_of_arms {other : JsString} (arms : ArmsGuard opts path flight) :
    ¬ReleasesGuard other flight := by
  intro releases
  cases arms.1.symm.trans releases.1

theorem not_arms_of_asks {other : JsString} (asks : AsksGuard path flight) :
    ¬ArmsGuard opts other flight := by
  intro arms
  cases arms.1.symm.trans asks.1

theorem not_releases_of_asks {other : JsString} (asks : AsksGuard path flight) :
    ¬ReleasesGuard other flight := by
  rcases asks with ⟨_, _, start, _, asks⟩
  rintro ⟨_, _, _, _, released⟩
  rw [asks] at released
  cases released

/-- A protection is new, or it is what the step has left. -/
theorem expiry_before (reachable : (handlers platform opts store).Reachable condition initial state)
    (step : (handlers platform opts store).Step event state next)
    (held : next.world.memory.guard.expiry path = some expiry) :
    (∃ flight, event = .accessed flight ∧ ArmsGuard opts path flight ∧
      expiry = state.world.memory.now + OVERWRITE_PROTECT_MS) ∨
    state.world.memory.guard.expiry path = some expiry ∧
      LeavesProtection opts path expiry event state next := by
  rcases guard_step reachable step with
    ⟨same, first⟩ | ⟨flight, rfl, ⟨arms, done⟩ | ⟨asks, _, done⟩ | ⟨releases, done⟩⟩
  · rw [same] at held
    refine .inr ⟨held, ?_⟩
    intro flight accessed
    have first := first flight accessed
    refine ⟨not_arms_of_first first, not_releases_of_first first, ?_⟩
    rintro other (arms | asks)
    · exact absurd arms (not_arms_of_first first)
    · exact absurd asks (not_asks_of_first first)
  · rw [done] at held
    by_cases same : path = flight.label.path
    · rw [← same, OverwriteGuard.expiry_protect_self] at held
      rw [← same] at arms
      exact .inl ⟨flight, rfl, arms, (Option.some.inj held).symm⟩
    · rw [OverwriteGuard.expiry_protect_of_ne same, OverwriteGuard.expiry_prune] at held
      refine .inr ⟨held.1, ?_⟩
      rintro _ ⟨⟩
      exact ⟨fun own => same own.2.1.symm, not_releases_of_arms arms, fun _ _ => held.2⟩
  · rw [done, OverwriteGuard.expiry_prune] at held
    refine .inr ⟨held.1, ?_⟩
    rintro _ ⟨⟩
    exact ⟨not_arms_of_asks asks, not_releases_of_asks asks, fun _ _ => held.2⟩
  · rw [done] at held
    by_cases same : path = flight.label.path
    · rw [← same, OverwriteGuard.expiry_release_self] at held
      cases held
    · rw [OverwriteGuard.expiry_release_of_ne same] at held
      refine .inr ⟨held, ?_⟩
      rintro _ ⟨⟩
      refine ⟨fun arms => not_releases_of_arms arms releases, fun own => same own.2.1.symm, ?_⟩
      rintro other (arms | asks)
      · exact absurd releases (not_releases_of_arms arms)
      · exact absurd releases (not_releases_of_asks asks)

/-- A protection stays through a step that leaves it. -/
theorem expiry_after (reachable : (handlers platform opts store).Reachable condition initial state)
    (step : (handlers platform opts store).Step event state next)
    (leaves : LeavesProtection opts path expiry event state next)
    (held : state.world.memory.guard.expiry path = some expiry) :
    next.world.memory.guard.expiry path = some expiry := by
  rcases guard_step reachable step with
    ⟨same, _⟩ | ⟨flight, rfl, ⟨arms, done⟩ | ⟨asks, _, done⟩ | ⟨releases, done⟩⟩
  · rw [same]
    exact held
  · rcases leaves flight rfl with ⟨idle, _, early⟩
    have different : path ≠ flight.label.path := by
      intro same
      rw [same] at idle
      exact idle arms
    rw [done, OverwriteGuard.expiry_protect_of_ne different, OverwriteGuard.expiry_prune]
    exact ⟨held, early _ (.inl arms)⟩
  · rw [done, OverwriteGuard.expiry_prune]
    exact ⟨held, (leaves flight rfl).2.2 _ (.inr asks)⟩
  · have different : path ≠ flight.label.path := by
      intro same
      have kept := (leaves flight rfl).2.1
      rw [same] at kept
      exact kept releases
    rw [done, OverwriteGuard.expiry_release_of_ne different]
    exact held

/-- What a step leaves the guard to hold for a path. -/
theorem expiry_step (reachable : (handlers platform opts store).Reachable condition initial state)
    (step : (handlers platform opts store).Step event state next) :
    next.world.memory.guard.expiry path = some expiry ↔
      (∃ flight, event = .accessed flight ∧ ArmsGuard opts path flight ∧
        expiry = state.world.memory.now + OVERWRITE_PROTECT_MS) ∨
      state.world.memory.guard.expiry path = some expiry ∧
        LeavesProtection opts path expiry event state next := by
  constructor
  · exact expiry_before reachable step
  · rintro (⟨arming, rfl, arms, rfl⟩ | ⟨held, leaves⟩)
    · rcases guard_step reachable step with
        ⟨_, first⟩ | ⟨flight, ⟨⟩, ⟨_, done⟩ | ⟨asks, _⟩ | ⟨releases, _⟩⟩
      · exact absurd arms (not_arms_of_first (first arming rfl))
      · rw [done, arms.2.1]
        exact OverwriteGuard.expiry_protect_self
      · exact absurd arms (not_arms_of_asks asks)
      · exact absurd releases (not_releases_of_arms arms)
    · exact expiry_after reachable step leaves held

/-- In the run a PUT of the path has armed the guard so that it would refuse until `expiry`, and no
step since has taken that back. -/
def ProtectedSince (opts : WebdavOptions) (path : JsString) (expiry : Nat)
    (history : List (GatewayTaken Stream Remote)) : Prop :=
  ∃ earlier arming armed since, history = earlier ++ armed :: since ∧
    armed.event = .accessed arming ∧ ArmsGuard opts path arming ∧
    expiry = armed.before.world.memory.now + OVERWRITE_PROTECT_MS ∧
    ∀ taken ∈ since, LeavesProtection opts path expiry taken.event taken.before taken.after

theorem not_protectedSince_nil : ¬ProtectedSince opts path expiry
    ([] : List (GatewayTaken Stream Remote)) := by
  rintro ⟨earlier, arming, armed, since, split, _⟩
  cases earlier with
  | nil => cases split
  | cons first more => cases split

/-- The last step armed the guard, or it left what was so. -/
theorem protectedSince_concat {history : List (GatewayTaken Stream Remote)}
    {taken : GatewayTaken Stream Remote} :
    ProtectedSince opts path expiry (history ++ [taken]) ↔
      (∃ arming, taken.event = .accessed arming ∧ ArmsGuard opts path arming ∧
        expiry = taken.before.world.memory.now + OVERWRITE_PROTECT_MS) ∨
      ProtectedSince opts path expiry history ∧
        LeavesProtection opts path expiry taken.event taken.before taken.after := by
  constructor
  · rintro ⟨earlier, arming, armed, since, split, accessed, arms, moment, leaves⟩
    rcases List.eq_nil_or_concat since with rfl | ⟨between, last, rfl⟩
    · rcases List.append_inj' split rfl with ⟨_, same⟩
      cases same
      exact .inl ⟨arming, accessed, arms, moment⟩
    · rw [List.concat_eq_append, ← List.cons_append, ← List.append_assoc] at split
      rcases List.append_inj' split rfl with ⟨rfl, same⟩
      cases same
      rw [List.concat_eq_append] at leaves
      refine .inr ⟨⟨earlier, arming, armed, between, rfl, accessed, arms, moment, ?_⟩, ?_⟩
      · exact fun other member => leaves other (List.mem_append_left _ member)
      · exact leaves taken (List.mem_append_right _ List.mem_cons_self)
  · rintro (⟨arming, accessed, arms, moment⟩ |
      ⟨⟨earlier, arming, armed, since, rfl, accessed, arms, moment, leaves⟩, last⟩)
    · exact ⟨history, arming, taken, [], rfl, accessed, arms, moment,
        fun _ member => absurd member List.not_mem_nil⟩
    · refine ⟨earlier, arming, armed, since ++ [taken], ?_, accessed, arms, moment, ?_⟩
      · rw [List.append_assoc, List.cons_append]
      · intro other member
        rcases List.mem_append.mp member with member | member
        · exact leaves other member
        · rw [List.mem_singleton.mp member]
          exact last

/-- What the guard holds is what the history of the requests tells. -/
theorem expiry_iff {history : List (GatewayTaken Stream Remote)}
    (fresh : initial.memory.guard = .empty)
    (run : (handlers platform opts store).Run initial history state) :
    state.world.memory.guard.expiry path = some expiry ↔
      ProtectedSince opts path expiry history := by
  induction run with
  | begin =>
      rw [fresh]
      exact iff_of_false nofun not_protectedSince_nil
  | step event next run stepped induction =>
      rw [expiry_step run.reachable stepped, protectedSince_concat, induction]

/-- The DELETE that asks is answered 403 exactly if the guard protects its path. -/
theorem follows_forbidden {start asked : ServiceMemory}
    (isDelete : Method.parse req.method = .delete) (guarded : opts.guarded = true)
    (valid : start.sessionInvalid = false) :
    (handleRequest (calledGateway Stream) platform opts req).Follows
        [.access start, .access asked] (.ok forbiddenDelete) ↔
      (asked.guard.isProtected req.path asked.now).1 = true := by
  have goesOn : ¬(Method.parse req.method ≠ .options && start.sessionInvalid) = true := by
    simp [valid]
  have entered : (handleRequest (calledGateway Stream) platform opts req).Reaches [.access start]
      (tryCatch (handleDelete (calledGateway Stream) opts req.path)
        fun error => pure (errorToResponse error)) := by
    refine .update start ?_
    change (if _ then _ else _ : Operation GatewayCall (GatewayAnswer Stream) _).Reaches [] _
    rw [if_neg goesOn, dispatch, isDelete]
    exact .here _
  rw [handleDelete, checkProtected, if_pos guarded] at entered
  have asking : (handleRequest (calledGateway Stream) platform opts req).Reaches
      [.access start, .access asked]
      (Program.andThen (if (asked.guard.isProtected req.path asked.now).1 then pure forbiddenDelete
        else (calledGateway Stream).remove req.path >>= fun _ =>
          releaseGuard opts req.path >>= fun _ => pure (davResponse 204 none []))
        (Program.onError fun error => pure (errorToResponse error))) :=
    entered.trans (.update asked (.here _))
  rw [← List.append_nil [_, _], asking.follows_iff]
  split
  · next refused => exact iff_of_true (.finish _) refused
  · next passes => exact iff_of_false nofun passes

/-- However requests run side by side and whatever the gateway answers them, a DELETE that asks the
guard is answered 403 exactly if the last PUT of that very path to arm it still has its protection
running, and no DELETE of the path has succeeded since. -/
theorem forbidden_iff {history : List (GatewayTaken Stream Remote)}
    (fresh : initial.memory.guard = .empty)
    (run : (handlers platform opts store).Run initial history state)
    (step : (handlers platform opts store).Step (.accessed flight) state next)
    (asks : AsksGuard path flight) :
    (handleRequest (calledGateway Stream) platform opts flight.label).Follows
        (flight.met ++ [.access state.world.memory]) (.ok forbiddenDelete) ↔
      ∃ expiry, state.world.memory.now < expiry ∧ ProtectedSince opts path expiry history := by
  have guarded : opts.guarded = true := by
    rcases guard_step run.reachable step with
      ⟨_, first⟩ | ⟨_, ⟨⟩, ⟨arms, _⟩ | ⟨_, guarded, _⟩ | ⟨releases, _⟩⟩
    · exact absurd asks (not_asks_of_first (first flight rfl))
    · exact absurd arms (not_arms_of_asks asks)
    · exact guarded
    · exact absurd releases (not_releases_of_asks asks)
  rcases asks with ⟨isDelete, rfl, start, valid, met⟩
  rw [met, List.singleton_append, follows_forbidden isDelete guarded valid,
    OverwriteGuard.isProtected_iff]
  constructor
  · rintro ⟨expiry, held, early⟩
    exact ⟨expiry, early, (expiry_iff fresh run).mp held⟩
  · rintro ⟨expiry, early, since⟩
    exact ⟨expiry, (expiry_iff fresh run).mpr since, early⟩

end

/-! ## A cleanup -/

/-- A gateway whose uploads break off, with a file at every path. -/
def brokenUploads (command : GatewayCall) : Except Thrown (GatewayAnswer Unit command) :=
  match command with
  | .stat _ => .ok (some ⟨"a", false, 5, ⟨some 0⟩, none⟩)
  | _ => .error (.sdk ⟨.other, "broken off"⟩)

def failedPut : Request where
  method := "PUT"
  pathname := "/a"
  header _ := none
  body := some .done
  text := none

def cleanupDelete : Request where
  method := "DELETE"
  pathname := "/a"
  header _ := none
  body := none
  text := none

def cleanupHandlers :
    Process Request ServiceMemory GatewayCall (GatewayAnswer Unit) Thrown Unit :=
  handlers (.plain []) ⟨true, none, true⟩ fun _ command answer _ => brokenUploads command = answer

/-- One operation moves on by so many steps. -/
def moved (steps : Nat) : GatewayState Unit Unit → GatewayState Unit Unit :=
  (Process.advance fun _ command => (brokenUploads command, ()))^[steps]

/-- The DELETE waits to ask the guard. -/
def waiting : GatewayState Unit Unit :=
  moved 1 ⟨⟨.initial 0, ()⟩, [⟨cleanupDelete, [], cleanupHandlers.launch cleanupDelete⟩]⟩

/-- The PUT, after so many steps, beside the DELETE. -/
def cleanup (steps : Nat) : GatewayState Unit Unit :=
  moved steps
    ⟨waiting.world, ⟨failedPut, [], cleanupHandlers.launch failedPut⟩ :: waiting.inFlight⟩

theorem cleanup_reachable (steps : Nat) :
    cleanupHandlers.Reachable (fun _ _ _ => True) ⟨.initial 0, ()⟩ (cleanup steps) := by
  have entered : cleanupHandlers.Reachable (fun _ _ _ => True) ⟨.initial 0, ()⟩ waiting :=
    .head ⟨_, .start cleanupDelete _ [], trivial⟩ (Process.leads_iterate (fun _ _ => rfl) 1 _)
  have joined := entered.tail ⟨_, .start failedPut waiting.world waiting.inFlight, trivial⟩
  exact joined.trans (Process.leads_iterate (fun _ _ => rfl) steps _)

/-- The DELETE that the client sends after the PUT has failed is answered 403. -/
theorem forbidden_iff_cleanup :
    (handleRequest (calledGateway Unit) (.plain []) ⟨true, none, true⟩ cleanupDelete).Follows
      [.access (.initial 0), .access (cleanup 4).world.memory] (.ok forbiddenDelete) := by
  have asks : ∃ flight next, cleanupHandlers.Step (.accessed flight) (cleanup 4) next ∧
      flight.label = cleanupDelete ∧ flight.met = [.access (.initial 0)] :=
    ⟨_, _, .update cleanupDelete _ _ _ _ [_] [], rfl, rfl⟩
  have arms : ∃ arming, cleanupHandlers.Step (.accessed arming) (cleanup 3) (cleanup 4) ∧
      ArmsGuard ⟨true, none, true⟩ "/a" arming :=
    ⟨_, .update failedPut _ _ _ _ [] _, rfl, rfl, _, _, _, _, rfl, rfl⟩
  rcases asks with ⟨flight, next, step, label, met⟩
  rcases arms with ⟨arming, armed, arms⟩
  rcases (cleanup_reachable 3).exists_run with ⟨history, run⟩
  have since : ProtectedSince ⟨true, none, true⟩ "/a" OVERWRITE_PROTECT_MS
      (history ++ [⟨.accessed arming, cleanup 3, cleanup 4⟩]) :=
    protectedSince_concat.mpr (.inl ⟨arming, rfl, arms, (Nat.zero_add _).symm⟩)
  have refused := (forbidden_iff rfl (run.step _ _ armed) step
    ⟨by rw [label]; rfl, by rw [label]; rfl, _, rfl, met⟩).mpr
    ⟨OVERWRITE_PROTECT_MS, Nat.le_of_ble_eq_true rfl, since⟩
  rw [label, met] at refused
  exact refused

end DriveWebdav
