import DriveWebdav.Foundation.Execution
import DriveWebdav.SdkGateway.Move
import DriveWebdav.SdkGateway.PutBody

/-! # A tree whose calls can fail

Any call to the SDK of a tree can fail, and a call that fails leaves the tree. -/

namespace DriveWebdav

/-- A call is answered from the tree, or fails. -/
inductive Faulty (platform : Platform) : Program.Service SdkCall SdkAnswer Thrown Drive
  | answered (drive : Drive) (command : SdkCall) :
      Faulty platform drive command (TreeSdk.answer platform drive command).1
        (TreeSdk.answer platform drive command).2
  | rejected (drive : Drive) (command : SdkCall) (error : SdkError) :
      Faulty platform drive command (.error (.sdk error)) drive
  | brokenOff (drive : Drive) (parent : NodeEntity) (sought : Option JsString)
      (yielded : List NodeEntity) (error : SdkError)
      (some : yielded <+: drive.children platform parent.uid) :
      Faulty platform drive (.iterateFolderChildren parent sought) (.ok ⟨yielded, error⟩) drive
  | notMoved (drive : Drive) (nodes : List NodeEntity) (parent : NodeEntity) (error : SdkError) :
      Faulty platform drive (.moveNodes nodes parent) (.ok ⟨[.error error], none⟩) drive
  | notBegun (drive : Drive) (nodes : List NodeEntity) (parent : NodeEntity) (error : SdkError) :
      Faulty platform drive (.moveNodes nodes parent) (.ok ⟨[], some error⟩) drive

namespace TreeSdk

variable {platform : Platform} {drive : Drive}

/-- What fails changes nothing. -/
theorem answer_fails {command : SdkCall} {error : Thrown}
    (fails : (answer platform drive command).1 = .error error) :
    (answer platform drive command).2 = drive := by
  unfold answer at fails ⊢
  split
  · rfl
  · rfl
  · rfl
  · cases fails
  · cases fails
  · unfold renameNode at fails ⊢
    split
    · rfl
    · split
      · rfl
      · next free => simp_all
  · rfl

end TreeSdk

namespace Faulty

variable {platform : Platform} {drive final : Drive}

theorem of_error {command : SdkCall} {error : Thrown}
    (fails : Faulty platform drive command (.error error) final) :
    (∃ fault, error = .sdk fault) ∧ final = drive := by
  generalize outcome : (Except.error error : Except Thrown (SdkAnswer command)) = answer at fails
  cases fails with
  | answered =>
      exact ⟨TreeSdk.answer_error outcome.symm, TreeSdk.answer_fails outcome.symm⟩
  | rejected _ _ fault =>
      cases outcome
      exact ⟨⟨fault, rfl⟩, rfl⟩
  | brokenOff => cases outcome
  | notMoved => cases outcome
  | notBegun => cases outcome

theorem of_lookup {command : SdkCall} {outcome : Except Thrown (SdkAnswer command)}
    (answered : Faulty platform drive command outcome final) (lookup : command.isLookup = true) :
    final = drive ∧ ∀ value, outcome = .ok value → AnswersTruly platform drive command value := by
  cases answered with
  | answered =>
      refine ⟨TreeSdk.truthful.lookups _ _ lookup, ?_⟩
      intro value said
      cases command with
      | getPathNode => exact TreeSdk.truthful.pathNode _ _ said
      | getNode uid => exact TreeSdk.truthful.nodes _ _ _ said
      | iterateFolderChildren parent sought =>
          rw [TreeSdk.truthful.children] at said
          cases said
          exact ⟨List.prefix_rfl, fun _ => rfl⟩
      | _ => cases lookup
  | rejected => exact ⟨rfl, nofun⟩
  | brokenOff _ _ _ _ _ some =>
      refine ⟨rfl, ?_⟩
      intro value said
      cases said
      exact ⟨some, nofun⟩
  | notMoved => cases lookup
  | notBegun => cases lookup

theorem undisturbed : Undisturbed platform (Rules.alone (Faulty platform)) where
  invariant _ := trivial
  guarantee _ _ := trivial
  permits _ _ := trivial
  waits := by
    rintro world _ rfl
    exact ⟨rfl, world.memory.now, Nat.le_refl _, rfl⟩
  failures drive command error final fails := by
    rcases (of_error fails).1 with ⟨fault, rfl⟩
    exact Nat.le_of_ble_eq_true rfl
  lookups drive command outcome final lookup answered := of_lookup answered lookup

end Faulty

/-! ## Errors of lookups -/

section

variable {platform : Platform} {drive : Drive} {α : Type}

/-- Answered in one tree, the program throws only what its last call has raised. -/
private abbrev FailsByCall (platform : Platform) (drive : Drive) (program : SdkOperation α) :
    Prop :=
  Program.FailsByCall SdkCall.counted (raisedError platform)
    (fun call => Faulty platform drive call.1 call.2 drive) program

theorem raisedError_sdk (command : SdkCall) (fault : SdkError) :
    raisedError platform command (.error (.sdk fault)) = some fault := by
  cases command with
  | _ => rfl

private theorem request_byCall {command : SdkCall} (counts : command.counted = true) :
    FailsByCall platform drive (Program.request command) := by
  apply Program.failsByCall_request counts
  intro error answered
  rcases (Faulty.of_error answered).1 with ⟨fault, rfl⟩
  exact ⟨fault, raisedError_sdk command fault⟩

private theorem getRootUid_byCall (hasRoot : drive.HasRoot) :
    FailsByCall platform drive (getRootUid platform) := by
  apply Program.never_read.failsByCall.bind
  intro memory
  cases memory.rootUid with
  | some rootUid => exact (Program.never_pure rootUid).failsByCall
  | none =>
      dsimp only
      intro trace error follows expected
      rcases Program.follows_bind follows with
        ⟨_, equal, stopped⟩ | ⟨first, second, node, rfl, asked, rest⟩
      · cases equal
        exact request_byCall rfl _ _ stopped expected
      · rw [Program.follows_request asked] at expected
        have answered := expected _ _ List.mem_cons_self
        have fetched := (Faulty.of_lookup answered rfl).2 node rfl
        rcases hasRoot with ⟨root, known, isFolder⟩
        cases known.symm.trans fetched
        rw [if_neg (not_not_intro isFolder)] at rest
        exact absurd rest ((Program.never_modify _).bind (fun _ => Program.never_pure _) _ _)

private theorem getRoot_byCall (rootUid : Uid) : FailsByCall platform drive (getRoot rootUid) :=
  (request_byCall rfl).bind fun _ => (Program.never_pure _).failsByCall

private theorem resolveBelow_byCall (path name : JsString) (includeDrafts : Bool)
    (parent : Option NodeEntity) :
    FailsByCall platform drive (resolveBelow platform path name includeDrafts parent) := by
  cases parent with
  | none => exact (Program.never_pure _).failsByCall
  | some parent =>
      simp only [resolveBelow]
      split
      · exact (Program.never_pure _).failsByCall
      · apply Program.FailsByCall.bind_relayed (request_byCall rfl) (Program.relays_request rfl)
        · exact fun children => loop_quiet _ _ _ _ children
        · intro children trace error looped
          rcases loop_outcome looped with ⟨fault, absent, failed, _⟩
          refine ⟨fault, ?_⟩
          simp only [raisedError, Option.some.injEq, absent, failed]
          rfl

private theorem resolveSegments_byCall (hasRoot : drive.HasRoot) (segs : List JsString)
    (includeDrafts : Bool) :
    FailsByCall platform drive (resolveSegments platform segs includeDrafts) := by
  induction segs generalizing includeDrafts with
  | nil => exact (getRootUid_byCall hasRoot).bind getRoot_byCall
  | cons name above induction =>
      apply (getRootUid_byCall hasRoot).bind
      intro rootUid
      apply (resolveCached_never _ _ _).failsByCall.bind
      intro hit
      cases hit with
      | some node => exact (Program.never_pure _).failsByCall
      | none =>
          apply Program.FailsByCall.bind
          · cases above with
            | nil => exact getRoot_byCall rootUid
            | cons next rest => exact induction false
          · exact resolveBelow_byCall _ _ _

private theorem resolve_byCall (hasRoot : drive.HasRoot) {path : JsString}
    (safe : (segments path).all isSafeSegment = true) (includeDrafts : Bool) :
    FailsByCall platform drive (resolve platform path includeDrafts) := by
  rw [resolve, if_pos safe]
  exact resolveSegments_byCall hasRoot _ _

end

/-! ## Lookups that may fail -/

/-- What the last call of a trace has raised. -/
def lastFault (platform : Platform) (trace : SdkTrace) : Option SdkError :=
  (Program.lastCall SdkCall.counted trace).bind fun call => raisedError platform call.1 call.2

def invalidSegment : GatewayError := .plain "Invalid path segment" 400

/-- A lookup leaves the tree. It fails with what its last call has raised, or refuses. -/
structure LookedUp {α : Type} (platform : Platform) (drive : Drive) (good : α → Prop)
    (refused : GatewayError → Prop) (trace : SdkTrace) (outcome : Except Thrown α)
    (final : ServiceWorld) : Prop where
  same : final.remote = drive
  accurate : Accurate platform final
  found : ∀ value, outcome = .ok value → good value ∧ lastFault platform trace = none
  failed : ∀ error, outcome = .error error →
    (∃ call fault, Program.lastCall SdkCall.counted trace = some call ∧
      call.1.isLookup = true ∧ raisedError platform call.1 call.2 = some fault ∧
      error = .sdk fault) ∨
    (lastFault platform trace = none ∧ ∃ refusal, refused refusal ∧ error = .gateway refusal)

/-- An operation that only looks things up. -/
def Consults {α : Type} (platform : Platform) (drive : Drive) (program : SdkOperation α)
    (good : α → Prop) (refused : GatewayError → Prop) : Prop :=
  ∀ world trace outcome final, world.remote = drive → Accurate platform world →
    program.Executes (Faulty platform) world trace outcome final →
      LookedUp platform drive good refused trace outcome final

section

variable {platform : Platform} {drive : Drive} {α β : Type} {good : α → Prop}
  {better : β → Prop} {refused : GatewayError → Prop} {first second : SdkTrace}

/-- Once nothing is wrong, what is wrong later counts. -/
theorem lastFault_append (settled : lastFault platform first = none) :
    lastFault platform (first ++ second) = lastFault platform second := by
  rw [lastFault, Program.lastCall_append]
  cases last : Program.lastCall SdkCall.counted second with
  | none =>
      rw [Option.none_or, lastFault, last]
      exact settled
  | some call => rw [Option.some_or, lastFault, last]

theorem consults_pure {value : α} (fits : good value) :
    Consults platform drive (pure value) good refused := by
  intro world trace outcome final same accurate executes
  cases executes
  refine ⟨same, accurate, ?_, nofun⟩
  intro found equal
  cases equal
  exact ⟨fits, rfl⟩

theorem consults_reject {error : GatewayError} (refuses : refused error) :
    Consults platform drive (reject error) good refused := by
  intro world trace outcome final same accurate executes
  cases executes
  refine ⟨same, accurate, nofun, ?_⟩
  intro thrown equal
  cases equal
  exact .inr ⟨rfl, error, refuses, rfl⟩

theorem Consults.bind {program : SdkOperation α} {next : α → SdkOperation β}
    (begins : Consults platform drive program good refused)
    (rest : ∀ value, good value → Consults platform drive (next value) better refused) :
    Consults platform drive (program >>= next) better refused := by
  intro world trace outcome final same accurate executes
  rcases Program.executes_andThen executes with
    ⟨before, after, middle, reached, rfl, left, right⟩
  have looked := begins _ _ _ _ same accurate left
  cases middle with
  | error error =>
      cases right
      rw [List.append_nil]
      refine ⟨looked.same, looked.accurate, nofun, ?_⟩
      intro thrown equal
      cases equal
      exact looked.failed error rfl
  | ok value =>
      rcases looked.found value rfl with ⟨fits, settled⟩
      have later := rest value fits _ _ _ _ looked.same looked.accurate right
      refine ⟨later.same, later.accurate, ?_, ?_⟩
      · intro found equal
        rw [lastFault_append settled]
        exact later.found found equal
      · intro error equal
        rcases later.failed error equal with ⟨call, fault, last, lookup, raised⟩ | refusal
        · refine .inl ⟨call, fault, ?_, lookup, raised⟩
          rw [Program.lastCall_append, last, Option.some_or]
        · rw [lastFault_append settled]
          exact .inr refusal

/-- A path resolves to what the tree has there, unless a call fails. -/
theorem consults_resolve (hasRoot : drive.HasRoot) (path : JsString) (includeDrafts : Bool)
    (refuses : ¬(segments path).all isSafeSegment = true → refused invalidSegment) :
    Consults platform drive (resolve platform path includeDrafts)
      (fun found => found = drive.nodeAt platform path includeDrafts ∧
        (segments path).all isSafeSegment = true) refused := by
  by_cases safe : (segments path).all isSafeSegment = true
  · intro world trace outcome final same accurate executes
    rcases executes.ensured
        (ensures_resolve Faulty.undisturbed path includeDrafts same accurate) with
      ⟨stays, still, told⟩
    refine ⟨stays, still, ?_, ?_⟩
    · rintro found rfl
      refine ⟨⟨told, safe⟩, ?_⟩
      rw [lastFault, Option.bind_eq_none_iff]
      exact resolve_settles path includeDrafts found trace executes.follows
    · rintro error rfl
      have answered := (executes.answered (looksUp_resolve path includeDrafts)
        fun _ _ _ _ lookup answered => (Faulty.of_lookup answered lookup).1).2
      rw [same] at answered
      rcases resolve_byCall hasRoot safe includeDrafts trace error executes.follows answered with
        ⟨call, fault, last, raised⟩
      rcases resolve_blames path includeDrafts trace error executes.follows call fault last raised
        with ⟨lookup, raw⟩
      exact .inl ⟨call, fault, last, lookup, raised, raw⟩
  · rw [resolve, if_neg safe]
    exact consults_reject (refuses safe)

end

end DriveWebdav
