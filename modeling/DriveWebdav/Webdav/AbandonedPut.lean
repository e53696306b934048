import DriveWebdav.Webdav.GatewayCalls

/-! # A PUT that its client abandons

The steps of a PUT whose upload is rejected late, interleaved with those of the
DELETE that the same client sends meanwhile. -/

namespace DriveWebdav

/-- Whose step is next, or how much time passes. -/
inductive Turn
  | put
  | delete
  | wait (milliseconds : Nat)
  deriving DecidableEq

def waited : List Turn → Nat
  | [] => 0
  | .wait milliseconds :: rest => milliseconds + waited rest
  | _ :: rest => waited rest

/-- The two requests, each with the steps it still has to take. -/
structure Duet (Stream : Type) where
  world : ServiceWorld
  put : Operation GatewayCall (GatewayAnswer Stream) (Response Stream)
  delete : Operation GatewayCall (GatewayAnswer Stream) (Response Stream)

abbrev Answering (Stream : Type) :=
  ServiceWorld → (command : GatewayCall) →
    Except Thrown (GatewayAnswer Stream command) × ServiceWorld

namespace Duet

variable {Stream : Type}

def turn (answer : Answering Stream) (duet : Duet Stream) : Turn → Duet Stream
  | .put =>
      ⟨(duet.put.step answer duet.world).2, (duet.put.step answer duet.world).1, duet.delete⟩
  | .delete =>
      ⟨(duet.delete.step answer duet.world).2, duet.put,
        (duet.delete.step answer duet.world).1⟩
  | .wait milliseconds =>
      ⟨⟨{ duet.world.memory with now := duet.world.memory.now + milliseconds },
        duet.world.remote⟩, duet.put, duet.delete⟩

def play (answer : Answering Stream) (duet : Duet Stream) (turns : List Turn) : Duet Stream :=
  turns.foldl (turn answer) duet

end Duet

/-- A PUT and a DELETE of one path: the service is guarded, its session valid,
and a node that the path shows is committed there. `rejection` is the error that
`gw.put` ends with. -/
structure Abandonment where
  platform : Platform
  opts : WebdavOptions
  put : Request
  delete : Request
  body : BodyStream
  rejection : Thrown
  start : ServiceWorld
  node : NodeEntity
  guarded : opts.guarded = true
  isPut : Method.parse put.method = .put
  isDelete : Method.parse delete.method = .delete
  samePath : delete.path = put.path
  hasBody : putBody put = .ok body
  valid : start.memory.sessionInvalid = false
  notRoot : isRoot put.path = false
  committed : start.remote.nodeAt platform put.path false = some node
  visible : (statEntry platform start.remote put.path).isSome = true

namespace Abandonment

variable (setting : Abandonment)

/-- `gw.put` rejects and changes nothing, `stat` tells the truth, and `remove`
trashes what it finds at the path. -/
def answer (Stream : Type) : Answering Stream
  | world, .put _ _ _ => (.error setting.rejection, world)
  | world, .stat path => (statAnswer setting.platform world.remote path, world)
  | world, .remove path =>
      match world.remote.nodeAt setting.platform path false with
      | some node => (.ok (), ⟨world.memory, world.remote.trash node.uid⟩)
      | none => (.error (.gateway (.notFound (("Not found: " : JsString) ++ path))), world)
  | world, _ => (.error (.sdk ⟨.other, []⟩), world)

def begin (Stream : Type) : Duet Stream where
  world := setting.start
  put := handleRequest (calledGateway Stream) setting.platform setting.opts setting.put
  delete := handleRequest (calledGateway Stream) setting.platform setting.opts setting.delete

/-- After the turns, the node that was committed at the path is not trashed. -/
def Survives (Stream : Type) (turns : List Turn) : Prop :=
  ∃ stored, (((setting.begin Stream).play (setting.answer Stream) turns).world.remote.nodes.get
    setting.node.uid) = some stored ∧ stored.trashed = false

end Abandonment

/-- The turns before and after the first step of the DELETE. -/
def splitAtDelete : List Turn → Option (List Turn × List Turn)
  | [] => none
  | .delete :: rest => some ([], rest)
  | turn :: rest => (splitAtDelete rest).map fun parts => (turn :: parts.1, parts.2)

/-- The turns before and after the DELETE checks the guard, which is its second
step. -/
def aroundCheck (turns : List Turn) : Option (List Turn × List Turn) :=
  (splitAtDelete turns).bind fun parts =>
    (splitAtDelete parts.2).map fun rest => (parts.1 ++ .delete :: rest.1, rest.2)

/-- The DELETE goes on to remove something only if its check came after the PUT
had protected the path, which is the fourth step of the PUT, or while an earlier
protection ran. -/
def HeldBack (setting : Abandonment) (turns : List Turn) : Prop :=
  ∀ before after, aroundCheck turns = some (before, after) → .delete ∈ after →
    4 ≤ before.count .put ∨
      setting.start.memory.guard.Covers setting.put.path
        (setting.start.memory.now + waited before + 1)

/-! ## The steps of the two requests -/

namespace Abandonment

variable {Stream : Type} (setting : Abandonment)

private def answered : Operation GatewayCall (GatewayAnswer Stream) (Response Stream) :=
  .finish (errorToResponse setting.rejection)

private def protecting : Operation GatewayCall (GatewayAnswer Stream) (Response Stream) :=
  .update
    (fun memory => { memory with guard := memory.guard.protect setting.put.path memory.now })
    fun _ => setting.answered

private def looking : Operation GatewayCall (GatewayAnswer Stream) (Response Stream) :=
  .await (GatewayCall.stat setting.put.path) fun
    | .ok (some _) => setting.protecting
    | _ => setting.answered

/-- What the PUT has still to do once it has taken so many steps. -/
private def putStage : Nat → Operation GatewayCall (GatewayAnswer Stream) (Response Stream)
  | 0 => handleRequest (calledGateway Stream) setting.platform setting.opts setting.put
  | 1 =>
      tryCatch (dispatch (calledGateway Stream) setting.platform setting.opts setting.put
        setting.put.path) fun error => pure (errorToResponse error)
  | 2 => setting.looking
  | 3 => setting.protecting
  | _ => setting.answered

private def releasing : Operation GatewayCall (GatewayAnswer Stream) (Response Stream) :=
  .update (fun memory => { memory with guard := memory.guard.release setting.put.path })
    fun _ => .finish (davResponse 204 none [])

private def removing : Operation GatewayCall (GatewayAnswer Stream) (Response Stream) :=
  .await (GatewayCall.remove setting.put.path) fun
    | .ok _ => setting.releasing
    | .error error => .finish (errorToResponse error)

private def checking : Operation GatewayCall (GatewayAnswer Stream) (Response Stream) :=
  .update
    (fun memory =>
      { memory with guard := (memory.guard.isProtected setting.put.path memory.now).2 })
    fun memory =>
      if (memory.guard.isProtected setting.put.path memory.now).1 then .finish forbiddenDelete
      else setting.removing

private theorem step_handlePut {world : ServiceWorld} (valid : world.memory.sessionInvalid = false) :
    Program.step (setting.answer Stream) (setting.putStage 0) world =
      (setting.putStage 1, world) := by
  simp only [putStage, handleRequest]
  change (Program.step _ (Program.update id _) world) = _
  simp only [Program.step, Program.andThen, Program.onValue, setting.isPut, valid, id]
  rfl

private theorem step_upload {world : ServiceWorld} :
    Program.step (setting.answer Stream) (setting.putStage 1) world =
      (setting.putStage 2, world) := by
  simp only [putStage, dispatch, setting.isPut, handlePut, setting.hasBody]
  refine Prod.ext ?_ rfl
  change (((armGuard (calledGateway Stream) setting.opts setting.put.path >>= fun _ =>
    throw setting.rejection).andThen _).andThen _) = setting.looking
  simp only [armGuard, setting.guarded, if_true, looking]
  refine congrArg (Program.await (GatewayCall.stat setting.put.path)) (funext fun answer => ?_)
  cases answer with
  | error error => rfl
  | ok entry => cases entry <;> rfl

private theorem step_look {world : ServiceWorld}
    (intact : world.remote = setting.start.remote) :
    Program.step (setting.answer Stream) (setting.putStage 2) world =
      (setting.putStage 3, world) := by
  rcases Option.isSome_iff_exists.mp setting.visible with ⟨entry, shown⟩
  simp only [putStage, looking, Program.step, answer, intact,
    statAnswer_of_nodeAt setting.committed, shown]

/-- Each step of the PUT, before anything is removed. Its fourth protects the
path. -/
private theorem step_putStage {world : ServiceWorld} (puts : Nat)
    (valid : world.memory.sessionInvalid = false)
    (intact : world.remote = setting.start.remote) :
    Program.step (setting.answer Stream) (setting.putStage puts) world =
      (setting.putStage (puts + 1),
        if puts = 3 then
          ⟨{ world.memory with
            guard := world.memory.guard.protect setting.put.path world.memory.now },
            world.remote⟩
        else world) := by
  match puts with
  | 0 => exact step_handlePut setting valid
  | 1 => exact step_upload setting
  | 2 => exact step_look setting intact
  | 3 => rfl
  | more + 4 => rfl

private theorem step_checking {world : ServiceWorld}
    (valid : world.memory.sessionInvalid = false) :
    (handleRequest (calledGateway Stream) setting.platform setting.opts setting.delete).step
      (setting.answer Stream) world = (setting.checking, world) := by
  simp only [handleRequest]
  change (Program.step _ (Program.update id _) world) = _
  simp only [Program.step, Program.andThen, Program.onValue, setting.isDelete, valid, id]
  refine Prod.ext ?_ rfl
  simp only [setting.isDelete, dispatch, handleDelete, checkProtected, setting.guarded, if_true,
    setting.samePath, checking]
  refine congrArg (Program.update _) (funext fun memory => ?_)
  dsimp only
  cases (memory.guard.isProtected setting.put.path memory.now).1 with
  | true => rfl
  | false =>
      refine congrArg (Program.await (GatewayCall.remove setting.put.path))
        (funext fun outcome => ?_)
      cases outcome with
      | error error => rfl
      | ok done =>
          simp only [releaseGuard, setting.guarded]
          rfl

/-! ## Before the check -/

/-- Nothing is removed yet: the PUT has taken `puts` steps, and the guard is as
it was, or protects the path once the PUT has taken its fourth. -/
private structure Before (puts : Nat) (duet : Duet Stream) : Prop where
  valid : duet.world.memory.sessionInvalid = false
  intact : duet.world.remote = setting.start.remote
  stage : duet.put = setting.putStage puts
  passed : setting.start.memory.now ≤ duet.world.memory.now
  unarmed : puts < 4 → duet.world.memory.guard = setting.start.memory.guard
  armed : 4 ≤ puts → duet.world.memory.guard.Covers setting.put.path
    (setting.start.memory.now + OVERWRITE_PROTECT_MS)

variable {setting}

private theorem Before.put {puts : Nat} {duet : Duet Stream}
    (before : setting.Before puts duet) :
    setting.Before (puts + 1) (duet.turn (setting.answer Stream) .put) ∧
      (duet.turn (setting.answer Stream) .put).world.memory.now = duet.world.memory.now := by
  have step : (duet.put.step (setting.answer Stream) duet.world) = _ :=
    before.stage ▸ step_putStage setting puts before.valid before.intact
  by_cases fourth : puts = 3
  · simp only [fourth, if_true] at step
    have covers : (duet.world.memory.guard.protect setting.put.path
        duet.world.memory.now).Covers setting.put.path
          (setting.start.memory.now + OVERWRITE_PROTECT_MS) := by
      rcases @OverwriteGuard.covers_protect_self duet.world.memory.guard setting.put.path
        duet.world.memory.now with ⟨expiry, found, le⟩
      exact ⟨expiry, found, Nat.le_trans (Nat.add_le_add_right before.passed _) le⟩
    simp only [Duet.turn, step, fourth]
    exact ⟨⟨before.valid, before.intact, rfl, before.passed, fun early => by omega,
      fun _ => covers⟩, trivial⟩
  · simp only [fourth, if_false] at step
    simp only [Duet.turn, step]
    exact ⟨⟨before.valid, before.intact, rfl, before.passed,
      fun early => before.unarmed (by omega), fun late => before.armed (by omega)⟩, trivial⟩

/-- The first step of the DELETE changes nothing. -/
private theorem Before.enter {puts : Nat} {duet : Duet Stream}
    (before : setting.Before puts duet) (stage : duet.delete = (setting.begin Stream).delete) :
    setting.Before puts (duet.turn (setting.answer Stream) .delete) ∧
      (duet.turn (setting.answer Stream) .delete).world.memory.now = duet.world.memory.now ∧
      (duet.turn (setting.answer Stream) .delete).delete = setting.checking := by
  have step : duet.delete.step (setting.answer Stream) duet.world =
      (setting.checking, duet.world) := stage ▸ step_checking setting before.valid
  simp only [Duet.turn, step]
  exact ⟨⟨before.valid, before.intact, before.stage, before.passed, before.unarmed,
    before.armed⟩, trivial, trivial⟩

/-- Turns without a step of the DELETE. -/
private theorem Before.play {turns : List Turn} {puts : Nat} {duet : Duet Stream}
    (before : setting.Before puts duet) (alone : .delete ∉ turns) :
    setting.Before (puts + turns.count .put) (duet.play (setting.answer Stream) turns) ∧
      (duet.play (setting.answer Stream) turns).world.memory.now =
        duet.world.memory.now + waited turns ∧
      (duet.play (setting.answer Stream) turns).delete = duet.delete := by
  induction turns generalizing puts duet with
  | nil => exact ⟨before, rfl, rfl⟩
  | cons turn rest induction =>
      have later : .delete ∉ rest := fun member => alone (List.mem_cons_of_mem _ member)
      cases turn with
      | delete => exact absurd List.mem_cons_self alone
      | put =>
          have next := before.put
          have played := induction next.1 later
          rw [next.2] at played
          simpa [Duet.play, waited, Duet.turn, Nat.add_right_comm, Nat.add_assoc,
            Nat.add_comm 1] using played
      | wait milliseconds =>
          have next : setting.Before puts
              (duet.turn (setting.answer Stream) (.wait milliseconds)) :=
            ⟨before.valid, before.intact, before.stage, Nat.le_add_right_of_le before.passed,
              before.unarmed, before.armed⟩
          have played := induction next later
          simpa [Duet.play, waited, Duet.turn, Nat.add_assoc] using played

/-! ## After the check -/

private abbrev Spares (program : Operation GatewayCall (GatewayAnswer Stream) (Response Stream)) :
    Prop :=
  program.Within (fun _ => True) fun command => ∀ path, command ≠ GatewayCall.remove path

private theorem spares_putStage (puts : Nat) :
    @Spares Stream (setting.putStage puts) := by
  have spares_stat : ∀ path, (Program.request (GatewayCall.stat path) :
      Operation GatewayCall (GatewayAnswer Stream) _).Within (fun _ => True)
        fun command => ∀ path, command ≠ GatewayCall.remove path :=
    fun path => Program.within_request fun other equal => by cases equal
  have spares_uploading : @Spares Stream (setting.putStage 1) := by
    refine Program.within_tryCatch ?_ fun _ => trivial
    simp only [dispatch, setting.isPut, handlePut, setting.hasBody]
    refine Program.within_bind (Program.within_tryCatch
      (Program.within_request fun other equal => by cases equal) fun error => ?_)
      fun _ => trivial
    refine Program.within_bind ?_ fun _ => trivial
    unfold armGuard
    split
    · refine Program.within_bind (Program.within_tryCatch (spares_stat _) fun _ => trivial)
        fun existing => ?_
      cases existing with
      | none => trivial
      | some entry => exact Program.within_modify trivial
    · trivial
  match puts with
  | 0 =>
      refine Program.within_bind (Program.within_read trivial) fun memory => ?_
      split
      · trivial
      · exact spares_uploading
  | 1 => exact spares_uploading
  | 2 =>
      refine ⟨fun _ => GatewayCall.noConfusion, fun answer => ?_⟩
      cases answer with
      | error error => trivial
      | ok entry =>
          cases entry with
          | none => trivial
          | some entry => exact ⟨trivial, fun _ => trivial⟩
  | 3 => exact ⟨trivial, fun _ => trivial⟩
  | more + 4 => trivial

private theorem remote_answer {world : ServiceWorld} {command : GatewayCall}
    (spared : ∀ path, command ≠ GatewayCall.remove path) :
    (setting.answer Stream world command).2.remote = world.remote := by
  cases command with
  | remove path => exact absurd rfl (spared path)
  | _ => rfl

private theorem remote_step
    {program : Operation GatewayCall (GatewayAnswer Stream) (Response Stream)}
    {world : ServiceWorld} (spares : Spares program) :
    (program.step (setting.answer Stream) world).2.remote = world.remote := by
  cases program with
  | finish value => rfl
  | fail error => rfl
  | update change resume => rfl
  | await command resume => exact remote_answer spares.1

/-- Only a step of the DELETE changes the tree. -/
private theorem remote_play {turns : List Turn} {duet : Duet Stream} (spares : Spares duet.put)
    (still : .delete ∉ turns ∨ Spares duet.delete) :
    (duet.play (setting.answer Stream) turns).world.remote = duet.world.remote ∧
      Spares (duet.play (setting.answer Stream) turns).put := by
  induction turns generalizing duet with
  | nil => exact ⟨rfl, spares⟩
  | cons turn rest induction =>
      have later : .delete ∉ rest ∨ Spares duet.delete :=
        still.imp_left fun alone member => alone (List.mem_cons_of_mem _ member)
      cases turn with
      | put =>
          have played := @induction (duet.turn (setting.answer Stream) .put)
            (spares.step _ _) later
          exact ⟨played.1.trans (remote_step spares), played.2⟩
      | wait milliseconds =>
          exact @induction (duet.turn (setting.answer Stream) (.wait milliseconds))
            spares later
      | delete =>
          rcases still with alone | still
          · exact absurd List.mem_cons_self alone
          · have played := @induction (duet.turn (setting.answer Stream) .delete)
              spares (.inr (still.step _ _))
            exact ⟨played.1.trans (remote_step still), played.2⟩

private theorem delete_play {turns : List Turn} {duet : Duet Stream} (alone : .delete ∉ turns) :
    (duet.play (setting.answer Stream) turns).delete = duet.delete := by
  induction turns generalizing duet with
  | nil => rfl
  | cons turn rest induction =>
      have later : .delete ∉ rest := fun member => alone (List.mem_cons_of_mem _ member)
      cases turn with
      | delete => exact absurd List.mem_cons_self alone
      | _ => exact induction later

end Abandonment

theorem splitAtDelete_eq_none {turns : List Turn} :
    splitAtDelete turns = none ↔ .delete ∉ turns := by
  induction turns with
  | nil => simp [splitAtDelete]
  | cons turn rest induction => cases turn <;> simp [splitAtDelete, induction]

theorem splitAtDelete_eq_some {turns before after : List Turn}
    (split : splitAtDelete turns = some (before, after)) :
    turns = before ++ .delete :: after ∧ .delete ∉ before := by
  induction turns generalizing before with
  | nil => cases split
  | cons turn rest induction =>
      cases turn with
      | delete =>
          cases split
          exact ⟨rfl, List.not_mem_nil⟩
      | _ =>
          simp only [splitAtDelete, Option.map_eq_some_iff, Prod.mk.injEq] at split
          rcases split with ⟨⟨first, second⟩, split, rfl, rfl⟩
          have rest := induction split
          exact ⟨by rw [rest.1]; rfl, by simp [rest.2]⟩

namespace Abandonment

variable {Stream : Type} {setting : Abandonment}

private theorem play_append {answer : Answering Stream} {duet : Duet Stream}
    (first second : List Turn) :
    duet.play answer (first ++ second) = (duet.play answer first).play answer second :=
  List.foldl_append

private theorem play_cons {answer : Answering Stream} {duet : Duet Stream} (turn : Turn)
    (rest : List Turn) :
    duet.play answer (turn :: rest) = (duet.turn answer turn).play answer rest := rfl

/-- The node that was committed is stored, and not trashed. -/
private theorem exists_committed :
    ∃ stored, setting.start.remote.nodes.get setting.node.uid = some stored ∧
      stored.trashed = false := by
  have committed := setting.committed
  rw [Drive.nodeAt] at committed
  split at committed
  · have stored := Drive.getNode_eq_some.mp (Drive.getNode_of_visit committed)
    rcases stored with ⟨stored, found, same⟩
    have inside : (segments setting.put.path).reverse ≠ [] := by
      intro empty
      have root := isRoot_iff.mpr (List.reverse_eq_nil_iff.mp empty)
      rw [setting.notRoot] at root
      cases root
    rcases List.exists_cons_of_ne_nil inside with ⟨name, above, shape⟩
    rw [shape, Drive.visit_cons_eq_some] at committed
    rcases committed with ⟨_, _, _, _, live⟩
    exact ⟨stored, found, by rw [← same] at live; exact live⟩
  · cases committed

private theorem survives_of_intact {turns : List Turn}
    (intact : ((setting.begin Stream).play (setting.answer Stream) turns).world.remote =
      setting.start.remote) : setting.Survives Stream turns := by
  rw [Survives, intact]
  exact exists_committed

private theorem before_begin : setting.Before 0 (setting.begin Stream) :=
  ⟨setting.valid, rfl, rfl, Nat.le_refl _, fun _ => rfl, fun late => by omega⟩

/-- The DELETE at its check: what it does next depends on the guard alone. -/
private theorem turn_check {duet : Duet Stream} (stage : duet.delete = setting.checking) :
    (duet.turn (setting.answer Stream) .delete).delete =
        (if (duet.world.memory.guard.isProtected setting.put.path duet.world.memory.now).1 then
          .finish forbiddenDelete else setting.removing) ∧
      (duet.turn (setting.answer Stream) .delete).put = duet.put ∧
      (duet.turn (setting.answer Stream) .delete).world.remote = duet.world.remote := by
  simp [Duet.turn, stage, checking, Program.step]

/-- Once the DELETE is past the check, its next step trashes the node. -/
private theorem trashed_of_removing {turns : List Turn} {duet : Duet Stream}
    (spares : Spares duet.put) (stage : duet.delete = setting.removing)
    (intact : duet.world.remote = setting.start.remote) (acts : .delete ∈ turns) :
    (duet.play (setting.answer Stream) turns).world.remote =
      setting.start.remote.trash setting.node.uid := by
  cases split : splitAtDelete turns with
  | none => exact absurd acts (splitAtDelete_eq_none.mp split)
  | some parts =>
      rcases parts with ⟨before, after⟩
      rcases splitAtDelete_eq_some split with ⟨rfl, alone⟩
      have waiting := @remote_play Stream setting before duet spares (.inl alone)
      have still := @delete_play Stream setting before duet alone
      rw [stage] at still
      rw [play_append, play_cons]
      have stepped : (((duet.play (setting.answer Stream) before).delete).step
          (setting.answer Stream) (duet.play (setting.answer Stream) before).world) =
          (setting.releasing,
            ⟨(duet.play (setting.answer Stream) before).world.memory,
              setting.start.remote.trash setting.node.uid⟩) := by
        simp only [still, removing, Program.step, answer, waiting.1, intact, setting.committed]
      have rest := @remote_play Stream setting after
        ((duet.play (setting.answer Stream) before).turn (setting.answer Stream) .delete)
        waiting.2 (.inr (by simp only [Duet.turn, stepped]; exact ⟨trivial, fun _ => trivial⟩))
      rw [rest.1]
      simp only [Duet.turn, stepped]

private theorem waited_append (first second : List Turn) :
    waited (first ++ second) = waited first + waited second := by
  induction first with
  | nil => simp [waited]
  | cons turn rest induction => cases turn <;> simp [waited, induction, Nat.add_assoc]

/-- Whether the guard refuses the DELETE at its check, from the turns before it. -/
private theorem isProtected_iff_of_before {puts passed : Nat} {duet : Duet Stream}
    (before : setting.Before puts duet) (brief : passed < OVERWRITE_PROTECT_MS)
    (now : duet.world.memory.now = setting.start.memory.now + passed) :
    (duet.world.memory.guard.isProtected setting.put.path duet.world.memory.now).1 = true ↔
      4 ≤ puts ∨ setting.start.memory.guard.Covers setting.put.path
        (setting.start.memory.now + passed + 1) := by
  rw [OverwriteGuard.isProtected_iff, now]
  by_cases late : 4 ≤ puts
  · rcases before.armed late with ⟨expiry, found, le⟩
    exact iff_of_true ⟨expiry, found, by omega⟩ (.inl late)
  · rw [before.unarmed (by omega)]
    simp [late]

/-- Whether the node survives, once it is known when the DELETE checks. -/
private theorem survives_iff_of_check {puts passed : Nat} {duet : Duet Stream}
    (before : setting.Before puts duet) (brief : passed < OVERWRITE_PROTECT_MS)
    (now : duet.world.memory.now = setting.start.memory.now + passed)
    (stage : duet.delete = setting.checking) (after : List Turn) :
    (∃ stored, ((duet.play (setting.answer Stream) (.delete :: after)).world.remote.nodes.get
        setting.node.uid) = some stored ∧ stored.trashed = false) ↔
      (.delete ∈ after → 4 ≤ puts ∨ setting.start.memory.guard.Covers setting.put.path
        (setting.start.memory.now + passed + 1)) := by
  rw [play_cons, ← isProtected_iff_of_before before brief now]
  have checked := turn_check stage
  have spares : Spares (duet.turn (setting.answer Stream) .delete).put := by
    rw [checked.2.1, before.stage]
    exact spares_putStage puts
  have intact := checked.2.2.trans before.intact
  by_cases refused :
      (duet.world.memory.guard.isProtected setting.put.path duet.world.memory.now).1 = true
  · rw [if_pos refused] at checked
    rw [(remote_play spares (.inr (by rw [checked.1]; trivial))).1, intact]
    exact iff_of_true exists_committed fun _ => refused
  · rw [if_neg refused] at checked
    by_cases acts : .delete ∈ after
    · rw [trashed_of_removing spares checked.1 intact acts]
      refine iff_of_false ?_ fun held => refused (held acts)
      rintro ⟨stored, found, live⟩
      rcases @exists_committed setting with ⟨original, same, _⟩
      rw [Drive.get_trash, same, Option.map_some, Drive.isAtOrBelow_self, if_pos rfl] at found
      cases found
      cases live
    · rw [(remote_play spares (.inl acts)).1, intact]
      exact iff_of_true exists_committed fun member => absurd member acts

/-- The content survives exactly when the DELETE is held back at its check. -/
theorem survives_iff_heldBack {turns : List Turn}
    (brief : waited turns < OVERWRITE_PROTECT_MS) :
    setting.Survives Stream turns ↔ HeldBack setting turns := by
  cases first : splitAtDelete turns with
  | none =>
      have alone := splitAtDelete_eq_none.mp first
      have played := (@before_begin Stream setting).play alone
      exact iff_of_true (survives_of_intact played.1.intact)
        fun before after split => by simp [aroundCheck, first] at split
  | some parts =>
      rcases parts with ⟨opening, rest⟩
      rcases splitAtDelete_eq_some first with ⟨rfl, openingAlone⟩
      have opened := (@before_begin Stream setting).play openingAlone
      have entered := opened.1.enter opened.2.2
      rw [Nat.zero_add] at entered
      cases second : splitAtDelete rest with
      | none =>
          have played := entered.1.play (splitAtDelete_eq_none.mp second)
          refine iff_of_true (survives_of_intact ?_) fun before after split => ?_
          · rw [play_append, play_cons]
            exact played.1.intact
          · simp [aroundCheck, first, second] at split
      | some parts =>
          rcases parts with ⟨between, after⟩
          rcases splitAtDelete_eq_some second with ⟨rfl, betweenAlone⟩
          have reached := entered.1.play betweenAlone
          have around : aroundCheck (opening ++ .delete :: (between ++ .delete :: after)) =
              some (opening ++ .delete :: between, after) := by
            simp [aroundCheck, first, second]
          have passed : waited (opening ++ .delete :: between) =
              waited opening + waited between := waited_append _ _
          have brief' : waited (opening ++ .delete :: between) < OVERWRITE_PROTECT_MS := by
            simp only [waited_append, waited] at brief ⊢
            omega
          have held := survives_iff_of_check reached.1 brief'
            (by rw [reached.2.1, entered.2.1, opened.2.1, passed, Nat.add_assoc]; rfl)
            (reached.2.2.trans entered.2.2) after
          rw [Survives, play_append, play_cons, play_append, held]
          simp only [HeldBack, around, Option.some.injEq, Prod.mk.injEq, and_imp]
          constructor
          · rintro survives before after rfl rfl
            simpa [passed] using survives
          · intro survives
            simpa [passed] using survives _ _ rfl rfl

end Abandonment

/-! ## A DELETE that comes before the rejection -/

/-- A committed file at `/a`, a PUT of `/a` and the DELETE that follows it. -/
def abandonedUpload : Abandonment where
  platform := .plain []
  opts := ⟨true, none, true⟩
  put := ⟨"PUT", "/a", fun _ => none, some (.value [1, 2, 3] .done), none⟩
  delete := ⟨"DELETE", "/a", fun _ => none, none, none⟩
  body := .value [1, 2, 3] .done
  rejection := .gateway (.plain "Operation aborted" 499)
  start := ⟨.initial 1000, .ofNodes 0
    [(0, .folder none "my-files"), (1, .file 0 "a" [104, 105] (List.replicate 40 'a'))]⟩
  node := (DriveNode.file 0 "a" [104, 105] (List.replicate 40 'a')).entity 1
  guarded := rfl
  isPut := by decide
  isDelete := by decide
  samePath := rfl
  hasBody := rfl
  valid := rfl
  notRoot := by decide
  committed := by decide
  visible := by decide

/-- The DELETE takes its three steps while the upload is still on its way. -/
theorem early_delete_trashes :
    ¬abandonedUpload.Survives Unit [.put, .delete, .delete, .delete, .put, .put, .put] := by
  rintro ⟨stored, found, live⟩
  have trashed : (((abandonedUpload.begin Unit).play (abandonedUpload.answer Unit)
      [.put, .delete, .delete, .delete, .put, .put, .put]).world.remote.nodes.get
        abandonedUpload.node.uid).map (·.trashed) = some true := by decide
  rw [found, Option.map_some, live] at trashed
  cases trashed

/-- The same requests, with the DELETE after the PUT has been answered. -/
theorem late_delete_spares :
    abandonedUpload.Survives Unit [.put, .put, .put, .put, .wait 1000, .delete, .delete,
      .delete] :=
  (Abandonment.survives_iff_heldBack (by decide)).mpr (by
    intro before after around acts
    have parts : aroundCheck [.put, .put, .put, .put, .wait 1000, .delete, .delete, .delete] =
        some ([.put, .put, .put, .put, .wait 1000, .delete], [.delete]) := by decide
    rw [parts] at around
    cases around
    exact .inl (by decide))

end DriveWebdav
