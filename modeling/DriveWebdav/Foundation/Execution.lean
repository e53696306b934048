import DriveWebdav.Foundation.Interference
import DriveWebdav.Foundation.Trace

/-! # Executions with their traces

An uninterrupted execution together with what the program met on its way. What is known of
executions and what is known of traces is about one and the same run. -/

namespace DriveWebdav

namespace Program

variable {Memory Command : Type} {Answer : Command → Type} {Error Fault Remote α β : Type}

/-- `Executes service program start trace outcome final`: run without interference from `start`,
the program may end with `outcome` in the world `final`, having met `trace`. -/
inductive Executes (service : Service Command Answer Error Remote) :
    Program Memory Command Answer Error α → World Memory Remote →
      List (Entry Memory Command Answer Error) → Except Error α → World Memory Remote → Prop
  | finish (value : α) (world) : Executes service (.finish value) world [] (.ok value) world
  | fail (error : Error) (world) : Executes service (.fail error) world [] (.error error) world
  | update {change resume world trace outcome final} :
      Executes service (resume world.memory) ⟨change world.memory, world.remote⟩
        trace outcome final →
      Executes service (.update change resume) world (.access world.memory :: trace) outcome final
  | await {command resume world answer remote trace outcome final} :
      service world.remote command answer remote →
      Executes service (resume answer) ⟨world.memory, remote⟩ trace outcome final →
      Executes service (.await command resume) world (.exchange command answer :: trace)
        outcome final

variable {service : Service Command Answer Error Remote}
  {program : Program Memory Command Answer Error α} {world final : World Memory Remote}
  {trace : List (Entry Memory Command Answer Error)} {outcome : Except Error α}

theorem Executes.runs (executes : program.Executes service world trace outcome final) :
    program.Runs service world outcome final := by
  induction executes with
  | finish value world => exact .finish value world
  | fail error world => exact .fail error world
  | update _ induction => exact .update induction
  | await answered _ induction => exact .await answered induction

theorem Executes.follows (executes : program.Executes service world trace outcome final) :
    program.Follows trace outcome := by
  induction executes with
  | finish value world => exact .finish value
  | fail error world => exact .fail error
  | update _ induction => exact .update _ induction
  | await answered _ induction => exact .await _ induction

theorem executes_andThen {next : Except Error α → Program Memory Command Answer Error β}
    {outcome : Except Error β}
    (executes : (program.andThen next).Executes service world trace outcome final) :
    ∃ first second middle reached, trace = first ++ second ∧
      program.Executes service world first middle reached ∧
      (next middle).Executes service reached second outcome final := by
  induction program generalizing world trace with
  | finish value => exact ⟨[], trace, _, world, rfl, .finish value world, executes⟩
  | fail error => exact ⟨[], trace, _, world, rfl, .fail error world, executes⟩
  | update change resume induction =>
      cases executes with
      | update executes =>
          rcases induction _ executes with ⟨first, second, middle, reached, rfl, left, right⟩
          exact ⟨_, second, middle, reached, rfl, .update left, right⟩
  | await command resume induction =>
      cases executes with
      | await answered executes =>
          rcases induction _ executes with ⟨first, second, middle, reached, rfl, left, right⟩
          exact ⟨_, second, middle, reached, rfl, .await answered left, right⟩

/-- A `do` step that fails does so in its first part or in its second. -/
theorem executes_bind_error {next : α → Program Memory Command Answer Error β} {error : Error}
    (executes : (program >>= next).Executes service world trace (.error error) final) :
    program.Executes service world trace (.error error) final ∨
      ∃ first second value reached, trace = first ++ second ∧
        program.Executes service world first (.ok value) reached ∧
        (next value).Executes service reached second (.error error) final := by
  rcases executes_andThen executes with ⟨first, second, middle, reached, rfl, left, right⟩
  cases middle with
  | ok value => exact .inr ⟨first, second, value, reached, rfl, left, right⟩
  | error thrown =>
      cases right
      rw [List.append_nil]
      exact .inl left

theorem executes_request {command : Command} {outcome : Except Error (Answer command)}
    (executes : (request command : Program Memory Command Answer Error _).Executes service world
      trace outcome final) :
    trace = [.exchange command outcome] ∧ final.memory = world.memory ∧
      service world.remote command outcome final.remote := by
  cases executes with
  | @await _ _ _ answer _ _ _ _ answered executes =>
      cases answer with
      | ok value =>
          cases executes
          exact ⟨rfl, rfl, answered⟩
      | error error =>
          cases executes
          exact ⟨rfl, rfl, answered⟩

/-- An error that is thrown again in another form. -/
theorem executes_rethrow {convert : Error → Error} {error : Error}
    (executes : (tryCatch program fun thrown => throw (convert thrown)).Executes service world
      trace (.error error) final) :
    ∃ thrown, program.Executes service world trace (.error thrown) final ∧
      error = convert thrown := by
  rcases executes_andThen executes with ⟨first, second, middle, reached, rfl, left, right⟩
  cases middle with
  | ok value => cases right
  | error thrown =>
      cases right
      rw [List.append_nil]
      exact ⟨thrown, left, rfl⟩

/-- What is done last leaves the outcome. -/
theorem executes_finallyDo_modify {change : Memory → Memory}
    (executes : (program.finallyDo (modify change)).Executes service world trace outcome final) :
    ∃ first memory reached, trace = first ++ [.access memory] ∧
      program.Executes service world first outcome reached ∧
      final = ⟨change reached.memory, reached.remote⟩ := by
  rcases executes_andThen executes with ⟨first, second, middle, reached, rfl, left, right⟩
  cases right with
  | update right =>
      cases middle with
      | ok value =>
          cases right
          exact ⟨first, reached.memory, reached, rfl, left, rfl⟩
      | error error =>
          cases right
          exact ⟨first, reached.memory, reached, rfl, left, rfl⟩

/-- A computed run is an execution. -/
theorem executes_run (answer : World Memory Remote → (command : Command) →
      Except Error (Answer command) × World Memory Remote)
    (alone : ∀ world command, (answer world command).2.memory = world.memory)
    (allowed : ∀ world command, service world.remote command (answer world command).1
      (answer world command).2.remote)
    (program : Program Memory Command Answer Error α) (world : World Memory Remote) :
    ∃ trace, program.Executes service world trace (run answer program world).1
      (run answer program world).2 := by
  induction program generalizing world with
  | finish value => exact ⟨[], .finish value world⟩
  | fail error => exact ⟨[], .fail error world⟩
  | update change resume induction =>
      rcases induction world.memory ⟨change world.memory, world.remote⟩ with ⟨trace, executes⟩
      exact ⟨_, .update executes⟩
  | await command resume induction =>
      rcases induction (answer world command).1 (answer world command).2 with ⟨trace, executes⟩
      have same : (⟨world.memory, (answer world command).2.remote⟩ : World Memory Remote) =
          (answer world command).2 := by rw [← alone world command]
      rw [← same] at executes
      have whole := Executes.await (allowed world command) executes
      rw [same] at whole
      exact ⟨_, whole⟩

/-- What a program ensures alone holds after an execution. -/
theorem Executes.ensured {post : Except Error α → World Memory Remote → Prop}
    (executes : program.Executes service world trace outcome final)
    (ensures : (Rules.alone service).Ensures program post world) : post outcome final :=
  Rules.ensures_alone_iff_runs.mp ensures _ _ executes.runs

/-- Commands that leave the world leave it as it was, and are all answered in it. -/
theorem Executes.answered {issue : Command → Prop} {access : (Memory → Memory) → Prop}
    (executes : program.Executes service world trace outcome final)
    (within : program.Within access issue)
    (leaves : ∀ remote command answer after, issue command →
      service remote command answer after → after = remote) :
    final.remote = world.remote ∧ ∀ command answer, Entry.exchange command answer ∈ trace →
      service world.remote command answer world.remote := by
  induction executes with
  | finish value world => exact ⟨rfl, nofun⟩
  | fail error world => exact ⟨rfl, nofun⟩
  | update _ induction =>
      rcases induction (within.2 _) with ⟨same, answered⟩
      refine ⟨same, ?_⟩
      intro command answer member
      rcases List.mem_cons.mp member with equal | member
      · cases equal
      · exact answered command answer member
  | await here _ induction =>
      have left := leaves _ _ _ _ within.1 here
      rcases induction (within.2 _) with ⟨same, answered⟩
      rw [left] at here
      dsimp only at same answered
      rw [left] at same answered
      refine ⟨same, ?_⟩
      intro command answer member
      rcases List.mem_cons.mp member with equal | member
      · cases equal
        exact here
      · exact answered command answer member

/-! ## Errors that come from calls -/

section Answerable

variable (counted : Command → Bool)
  (raised : (command : Command) → Except Error (Answer command) → Option Fault)
  (met : Exchange Command Answer Error → Prop)

/-- Where all answers are as expected, the program throws only what its last call has raised. -/
def FailsByCall (program : Program Memory Command Answer Error α) : Prop :=
  ∀ trace error, program.Follows trace (.error error) →
    (∀ command answer, Entry.exchange command answer ∈ trace → met ⟨command, answer⟩) →
    ∃ call fault, lastCall counted trace = some call ∧ raised call.1 call.2 = some fault

variable {counted raised met}

theorem NeverThrows.failsByCall (never : NeverThrows program) :
    FailsByCall counted raised met program :=
  fun trace error follows => absurd follows (never trace error)

theorem FailsByCall.bind {next : α → Program Memory Command Answer Error β}
    (first : FailsByCall counted raised met program)
    (rest : ∀ value, FailsByCall counted raised met (next value)) :
    FailsByCall counted raised met (program >>= next) := by
  intro trace error follows expected
  rcases follows_bind follows with ⟨_, equal, stopped⟩ | ⟨left, right, value, rfl, _, two⟩
  · cases equal
    exact first _ _ stopped expected
  · have later : ∀ command answer, Entry.exchange command answer ∈ right →
        met ⟨command, answer⟩ :=
      fun command answer member => expected command answer (List.mem_append_right left member)
    rcases rest value _ _ two later with ⟨call, fault, last, raises⟩
    refine ⟨call, fault, ?_, raises⟩
    rw [lastCall_append, last, Option.some_or]

/-- What goes through the answer of the last call throws nothing but what the answer holds. -/
theorem FailsByCall.bind_relayed {command : Command}
    {asked : Program Memory Command Answer Error (Answer command)}
    {next : Answer command → Program Memory Command Answer Error β}
    (first : FailsByCall counted raised met asked) (relays : Relays counted command asked)
    (quiet : ∀ answer, Quiet counted (next answer))
    (raises : ∀ answer trace error, (next answer).Follows trace (.error error) →
      ∃ fault, raised command (.ok answer) = some fault) :
    FailsByCall counted raised met (asked >>= next) := by
  intro trace error follows expected
  rcases follows_bind follows with ⟨_, equal, stopped⟩ | ⟨left, right, answer, rfl, one, two⟩
  · cases equal
    exact first _ _ stopped expected
  · rcases raises answer _ _ two with ⟨fault, raises⟩
    refine ⟨⟨command, .ok answer⟩, fault, ?_, raises⟩
    rw [lastCall_append, quiet answer _ _ two, relays _ _ one, Option.none_or]

theorem failsByCall_request {command : Command} (counts : counted command = true)
    (raises : ∀ error, met ⟨command, .error error⟩ →
      ∃ fault, raised command (.error error) = some fault) :
    FailsByCall counted raised met
      (request command : Program Memory Command Answer Error _) := by
  intro trace error follows expected
  rw [follows_request follows] at expected ⊢
  rcases raises error (expected command _ List.mem_cons_self) with ⟨fault, raises⟩
  exact ⟨⟨command, .error error⟩, fault, by simp [lastCall, counts], raises⟩

end Answerable

end Program

end DriveWebdav
