import DriveWebdav.Foundation.Interference
import DriveWebdav.Foundation.Progress
import Mathlib.Logic.Function.Iterate
import Mathlib.Logic.Relation

/-! # Processes

A process starts operations at any time and lets them step in any order, beside
an environment that acts on its own. Every operation keeps a history of what it
has met. -/

namespace DriveWebdav

/-- What the operations of a process are and the world they act on. A label
names an operation together with its arguments. -/
structure Process (Label Memory Command : Type) (Answer : Command → Type)
    (Error Remote : Type) where
  service : Program.Service Command Answer Error Remote
  launch : Label → Program Memory Command Answer Error Unit
  environment : World Memory Remote → World Memory Remote → Prop

namespace Process

variable {Label Memory Command α : Type} {Answer : Command → Type} {Error Remote : Type}

/-- An operation in flight: what it has met since it started, and what is left of it. -/
structure Flight (Label Memory Command : Type) (Answer : Command → Type) (Error : Type) where
  label : Label
  met : List (Program.Entry Memory Command Answer Error)
  rest : Program Memory Command Answer Error Unit

/-- The world together with the operations in flight. -/
structure State (Label Memory Command : Type) (Answer : Command → Type)
    (Error Remote : Type) where
  world : World Memory Remote
  inFlight : List (Flight Label Memory Command Answer Error)

/-- What happens in one step, and to which operation. -/
inductive Event (Label Memory Command : Type) (Answer : Command → Type) (Error : Type)
  | started (label : Label)
  | ended (flight : Flight Label Memory Command Answer Error)
  | accessed (flight : Flight Label Memory Command Answer Error)
  | answered (flight : Flight Label Memory Command Answer Error) (command : Command)
      (answer : Except Error (Answer command))
  | outside

inductive Step (process : Process Label Memory Command Answer Error Remote) :
    Event Label Memory Command Answer Error → State Label Memory Command Answer Error Remote →
      State Label Memory Command Answer Error Remote → Prop
  | start (label world inFlight) :
      Step process (.started label) ⟨world, inFlight⟩
        ⟨world, ⟨label, [], process.launch label⟩ :: inFlight⟩
  | finish (label met value world before after) :
      Step process (.ended ⟨label, met, .finish value⟩)
        ⟨world, before ++ ⟨label, met, .finish value⟩ :: after⟩ ⟨world, before ++ after⟩
  | fail (label met error world before after) :
      Step process (.ended ⟨label, met, .fail error⟩)
        ⟨world, before ++ ⟨label, met, .fail error⟩ :: after⟩ ⟨world, before ++ after⟩
  | update (label met change resume) (world : World Memory Remote) (before after) :
      Step process (.accessed ⟨label, met, .update change resume⟩)
        ⟨world, before ++ ⟨label, met, .update change resume⟩ :: after⟩
        ⟨⟨change world.memory, world.remote⟩,
          before ++ ⟨label, met ++ [.access world.memory], resume world.memory⟩ :: after⟩
  | await (label met command resume answer remote) (world : World Memory Remote)
      (before after) :
      process.service world.remote command answer remote →
      Step process (.answered ⟨label, met, .await command resume⟩ command answer)
        ⟨world, before ++ ⟨label, met, .await command resume⟩ :: after⟩
        ⟨⟨world.memory, remote⟩,
          before ++ ⟨label, met ++ [.exchange command answer], resume answer⟩ :: after⟩
  | environment (world changed inFlight) :
      process.environment world changed →
      Step process .outside ⟨world, inFlight⟩ ⟨changed, inFlight⟩

/-- A condition on steps. -/
abbrev Condition (Label Memory Command : Type) (Answer : Command → Type)
    (Error Remote : Type) :=
  Event Label Memory Command Answer Error → State Label Memory Command Answer Error Remote →
    State Label Memory Command Answer Error Remote → Prop

/-- Any number of steps that all meet `condition`. -/
def Leads (process : Process Label Memory Command Answer Error Remote)
    (condition : Condition Label Memory Command Answer Error Remote) :
    State Label Memory Command Answer Error Remote →
      State Label Memory Command Answer Error Remote → Prop :=
  Relation.ReflTransGen fun state next => ∃ event, process.Step event state next ∧
    condition event state next

/-- The states of every run that begins with nothing in flight at `initial` and
whose steps all meet `condition`. -/
def Reachable (process : Process Label Memory Command Answer Error Remote)
    (condition : Condition Label Memory Command Answer Error Remote)
    (initial : World Memory Remote) :
    State Label Memory Command Answer Error Remote → Prop :=
  process.Leads condition ⟨initial, []⟩

variable {process : Process Label Memory Command Answer Error Remote}
  {condition : Condition Label Memory Command Answer Error Remote}
  {initial : World Memory Remote} {state next : State Label Memory Command Answer Error Remote}
  {event : Event Label Memory Command Answer Error}

/-- What is kept by every step that meets the condition holds from then on. -/
theorem Leads.induct (holds : State Label Memory Command Answer Error Remote → Prop)
    (start : holds state)
    (step : ∀ event reached next, process.Leads condition state reached →
      process.Step event reached next → condition event reached next →
      holds reached → holds next)
    (leads : process.Leads condition state next) : holds next := by
  induction leads with
  | refl => exact start
  | tail before taken induction =>
      rcases taken with ⟨event, stepped, meets⟩
      exact step event _ _ before stepped meets induction

/-- The induction over a run: what holds at the start and is kept by every step
that meets the condition holds in every reachable state. -/
theorem Reachable.induct (holds : State Label Memory Command Answer Error Remote → Prop)
    (start : holds ⟨initial, []⟩)
    (step : ∀ event state next, process.Step event state next →
      condition event state next → holds state → holds next)
    (reachable : process.Reachable condition initial state) : holds state :=
  Leads.induct holds start (fun event state next _ => step event state next) reachable

theorem Leads.anyhow (leads : process.Leads condition state next) :
    process.Leads (fun _ _ _ => True) state next := by
  apply Relation.ReflTransGen.mono _ _ _ leads
  rintro before after ⟨event, step, _⟩
  exact ⟨event, step, trivial⟩

theorem Reachable.leads (reachable : process.Reachable condition initial state)
    (leads : process.Leads condition state next) : process.Reachable condition initial next :=
  Relation.ReflTransGen.trans reachable leads

/-- A step that a run has taken. -/
structure Taken (Label Memory Command : Type) (Answer : Command → Type)
    (Error Remote : Type) where
  event : Event Label Memory Command Answer Error
  before : State Label Memory Command Answer Error Remote
  after : State Label Memory Command Answer Error Remote

/-- A run that begins with nothing in flight at `initial`, with all its steps. -/
inductive Run (process : Process Label Memory Command Answer Error Remote)
    (initial : World Memory Remote) :
    List (Taken Label Memory Command Answer Error Remote) →
      State Label Memory Command Answer Error Remote → Prop
  | begin : Run process initial [] ⟨initial, []⟩
  | step {history state} (event next) (run : Run process initial history state)
      (stepped : process.Step event state next) :
      Run process initial (history ++ [⟨event, state, next⟩]) next

theorem Run.reachable {history : List (Taken Label Memory Command Answer Error Remote)}
    (run : process.Run initial history state) :
    process.Reachable (fun _ _ _ => True) initial state := by
  induction run with
  | begin => exact .refl
  | step event next run stepped induction => exact induction.tail ⟨event, stepped, trivial⟩

/-- Every reachable state is reached by a run. -/
theorem Reachable.exists_run (reachable : process.Reachable condition initial state) :
    ∃ history, process.Run initial history state := by
  apply reachable.induct fun state => ∃ history, process.Run initial history state
  · exact ⟨[], .begin⟩
  · intro event state next step _ held
    rcases held with ⟨history, run⟩
    exact ⟨_, .step event next run step⟩

private theorem mem_around {item other : α} {before after : List α}
    (member : item ∈ before ++ after) : item ∈ before ++ other :: after := by
  rcases List.mem_append.mp member with member | member
  · exact List.mem_append_left _ member
  · exact List.mem_append_right _ (List.mem_cons_of_mem _ member)

/-! ## Histories -/

/-- What an operation has met brought it to where it is, and every answer in it was given by the
service. -/
structure Flight.Genuine (process : Process Label Memory Command Answer Error Remote)
    (flight : Flight Label Memory Command Answer Error) : Prop where
  reaches : (process.launch flight.label).Reaches flight.met flight.rest
  answered : ∀ command answer, .exchange command answer ∈ flight.met →
    ∃ remote final, process.service remote command answer final

theorem Flight.Genuine.accessed {label : Label}
    {met : List (Program.Entry Memory Command Answer Error)} {change : Memory → Memory}
    {resume : Memory → Program Memory Command Answer Error Unit}
    (genuine : Genuine process ⟨label, met, .update change resume⟩) (memory : Memory) :
    Genuine process ⟨label, met ++ [.access memory], resume memory⟩ where
  reaches := genuine.reaches.trans (.update memory (.here _))
  answered := by
    intro command answer member
    rcases List.mem_append.mp member with member | member
    · exact genuine.answered command answer member
    · rcases List.mem_singleton.mp member with ⟨⟩

theorem Flight.Genuine.exchanged {label : Label}
    {met : List (Program.Entry Memory Command Answer Error)} {command : Command}
    {resume : Except Error (Answer command) → Program Memory Command Answer Error Unit}
    (genuine : Genuine process ⟨label, met, .await command resume⟩)
    {answer : Except Error (Answer command)} {remote final : Remote}
    (answered : process.service remote command answer final) :
    Genuine process ⟨label, met ++ [.exchange command answer], resume answer⟩ where
  reaches := genuine.reaches.trans (.await answer (.here _))
  answered := by
    intro other otherAnswer member
    rcases List.mem_append.mp member with member | member
    · exact genuine.answered other otherAnswer member
    · cases List.mem_singleton.mp member
      exact ⟨remote, final, answered⟩

theorem Step.genuine (step : process.Step event state next)
    (genuine : ∀ flight ∈ state.inFlight, flight.Genuine process) :
    ∀ flight ∈ next.inFlight, flight.Genuine process := by
  have continued : ∀ {acting moved : Flight Label Memory Command Answer Error}
      {before after : List (Flight Label Memory Command Answer Error)},
      (∀ flight ∈ before ++ acting :: after, flight.Genuine process) →
      moved.Genuine process → ∀ flight ∈ before ++ moved :: after, flight.Genuine process := by
    intro acting moved before after all keeps flight member
    rcases List.mem_append.mp member with member | member
    · exact all flight (mem_around (List.mem_append_left _ member))
    · rcases List.mem_cons.mp member with rfl | member
      · exact keeps
      · exact all flight (mem_around (List.mem_append_right _ member))
  cases step with
  | start label world inFlight =>
      intro flight member
      rcases List.mem_cons.mp member with rfl | member
      · refine ⟨.here _, ?_⟩
        intro command answer met
        cases met
      · exact genuine flight member
  | finish label met value world before after =>
      exact fun flight member => genuine flight (mem_around member)
  | fail label met error world before after =>
      exact fun flight member => genuine flight (mem_around member)
  | update label met change resume world before after =>
      apply continued genuine
      exact (genuine _ (List.mem_append_right _ List.mem_cons_self)).accessed world.memory
  | await label met command resume answer remote world before after answered =>
      apply continued genuine
      exact (genuine _ (List.mem_append_right _ List.mem_cons_self)).exchanged answered
  | environment world changed inFlight acted => exact genuine

theorem Reachable.genuine (reachable : process.Reachable condition initial state) :
    ∀ flight ∈ state.inFlight, flight.Genuine process := by
  apply reachable.induct fun state => ∀ flight ∈ state.inFlight, flight.Genuine process
  · intro flight member
    cases member
  · intro event state next step _ genuine
    exact step.genuine genuine

/-- An operation that has ended has met all that it meets. -/
theorem Reachable.follows (reachable : process.Reachable condition initial state)
    {flight : Flight Label Memory Command Answer Error}
    (step : process.Step (.ended flight) state next) :
    flight.Genuine process ∧ ∃ outcome, (process.launch flight.label).Follows flight.met outcome := by
  cases step with
  | finish label met value world before after =>
      have genuine := reachable.genuine _ (List.mem_append_right _ List.mem_cons_self)
      have follows := genuine.reaches.follows_iff.mpr (.finish value)
      rw [List.append_nil] at follows
      exact ⟨genuine, _, follows⟩
  | fail label met error world before after =>
      have genuine := reachable.genuine _ (List.mem_append_right _ List.mem_cons_self)
      have follows := genuine.reaches.follows_iff.mpr (.fail error)
      rw [List.append_nil] at follows
      exact ⟨genuine, _, follows⟩

/-- Only such operations start. -/
def Starting (sent : Label → Prop) : Condition Label Memory Command Answer Error Remote :=
  fun event _ _ => ∀ label, event = .started label → sent label

/-- What is in flight has been started. -/
theorem Reachable.labels {sent : Label → Prop}
    (reachable : process.Reachable (Starting sent) initial state) :
    ∀ flight ∈ state.inFlight, sent flight.label := by
  apply reachable.induct fun state => ∀ flight ∈ state.inFlight, sent flight.label
  · intro flight member
    cases member
  · intro event state next step meets held
    have continued : ∀ {acting moved : Flight Label Memory Command Answer Error}
        {before after : List (Flight Label Memory Command Answer Error)},
        (∀ flight ∈ before ++ acting :: after, sent flight.label) →
        moved.label = acting.label → ∀ flight ∈ before ++ moved :: after, sent flight.label := by
      intro acting moved before after all same flight member
      rcases List.mem_append.mp member with member | member
      · exact all flight (List.mem_append_left _ member)
      · rcases List.mem_cons.mp member with rfl | member
        · rw [same]
          exact all acting (List.mem_append_right _ List.mem_cons_self)
        · exact all flight (List.mem_append_right _ (List.mem_cons_of_mem _ member))
    cases step with
    | start label world inFlight =>
        intro flight member
        rcases List.mem_cons.mp member with rfl | member
        · exact meets label rfl
        · exact held flight member
    | finish label met value world before after =>
        exact fun flight member => held flight (mem_around member)
    | fail label met error world before after =>
        exact fun flight member => held flight (mem_around member)
    | update label met change resume world before after => exact continued held rfl
    | await label met command resume answer remote world before after answered =>
        exact continued held rfl
    | environment world changed inFlight acted => exact held

/-- An operation whose command is answered issues that command. -/
theorem Reachable.issues (reachable : process.Reachable condition initial state)
    {flight : Flight Label Memory Command Answer Error} {command : Command}
    {answer : Except Error (Answer command)}
    (step : process.Step (.answered flight command answer) state next) :
    (process.launch flight.label).Issues flight.met command := by
  cases step with
  | await label met command resume answer remote world before after answered =>
      have genuine := reachable.genuine _ (List.mem_append_right _ List.mem_cons_self)
      exact ⟨resume, genuine.reaches⟩

/-- An access to the memory is one that the operation makes where it stands. -/
theorem Reachable.accessed (reachable : process.Reachable condition initial state)
    {flight : Flight Label Memory Command Answer Error}
    (step : process.Step (.accessed flight) state next) :
    ∃ change, (process.launch flight.label).Accesses flight.met change ∧
      next.world = ⟨change state.world.memory, state.world.remote⟩ := by
  cases step with
  | update label met change resume world before after =>
      have genuine := reachable.genuine _ (List.mem_append_right _ List.mem_cons_self)
      exact ⟨change, ⟨resume, genuine.reaches⟩, rfl⟩

/-- Every answer was given in a world outside that is `since` the present one. -/
def Flight.Since (process : Process Label Memory Command Answer Error Remote)
    (since : Remote → Remote → Prop) (now : Remote)
    (flight : Flight Label Memory Command Answer Error) : Prop :=
  ∀ command answer, .exchange command answer ∈ flight.met →
    ∃ remote final, process.service remote command answer final ∧ since remote now

theorem Step.since {since : Remote → Remote → Prop}
    (trans : ∀ first second third, since first second → since second third → since first third)
    (step : process.Step event state next) (moves : since state.world.remote next.world.remote)
    (held : ∀ flight ∈ state.inFlight, flight.Since process since state.world.remote) :
    ∀ flight ∈ next.inFlight, flight.Since process since next.world.remote := by
  have kept : ∀ flight ∈ state.inFlight, flight.Since process since next.world.remote := by
    intro flight member command answer met
    rcases held flight member command answer met with ⟨remote, final, answered, before⟩
    exact ⟨remote, final, answered, trans _ _ _ before moves⟩
  cases step with
  | start label world inFlight =>
      intro flight member
      rcases List.mem_cons.mp member with rfl | member
      · intro command answer met
        cases met
      · exact kept flight member
  | finish label met value world before after =>
      exact fun flight member => kept flight (mem_around member)
  | fail label met error world before after =>
      exact fun flight member => kept flight (mem_around member)
  | update label met change resume world before after =>
      intro flight member
      rcases List.mem_append.mp member with member | member
      · exact kept flight (List.mem_append_left _ member)
      · rcases List.mem_cons.mp member with rfl | member
        · intro command answer exchanged
          rcases List.mem_append.mp exchanged with earlier | accessed
          · exact kept _ (List.mem_append_right _ List.mem_cons_self) command answer earlier
          · cases List.mem_singleton.mp accessed
        · exact kept flight (List.mem_append_right _ (List.mem_cons_of_mem _ member))
  | await label met command resume answer remote world before after answered =>
      intro flight member
      rcases List.mem_append.mp member with member | member
      · exact kept flight (List.mem_append_left _ member)
      · rcases List.mem_cons.mp member with rfl | member
        · intro other otherAnswer exchanged
          rcases List.mem_append.mp exchanged with earlier | last
          · exact kept _ (List.mem_append_right _ List.mem_cons_self) other otherAnswer earlier
          · cases List.mem_singleton.mp last
            exact ⟨world.remote, remote, answered, moves⟩
        · exact kept flight (List.mem_append_right _ (List.mem_cons_of_mem _ member))
  | environment world changed inFlight acted => exact kept

theorem Reachable.since {since : Remote → Remote → Prop}
    (trans : ∀ first second third, since first second → since second third → since first third)
    (moves : ∀ event state next, process.Step event state next → condition event state next →
      since state.world.remote next.world.remote)
    (reachable : process.Reachable condition initial state) :
    ∀ flight ∈ state.inFlight, flight.Since process since state.world.remote := by
  apply reachable.induct fun state =>
    ∀ flight ∈ state.inFlight, flight.Since process since state.world.remote
  · intro flight member
    cases member
  · intro event state next step meets held
    exact step.since trans (moves event state next step meets) held

/-- The memory changes by an access that some operation can make. -/
theorem Reachable.accesses {access : (Memory → Memory) → Prop} {issue : Command → Prop}
    (reachable : process.Reachable condition initial state)
    (within : ∀ label, (process.launch label).Within access issue)
    {flight : Flight Label Memory Command Answer Error}
    (step : process.Step (.accessed flight) state next) :
    ∃ change resume, access change ∧ flight.rest = .update change resume ∧
      next.world = ⟨change state.world.memory, state.world.remote⟩ := by
  cases step with
  | update label met change resume world before after =>
      have genuine := reachable.genuine _ (List.mem_append_right _ List.mem_cons_self)
      exact ⟨change, resume, (genuine.reaches.within (within label)).1, rfl, rfl⟩

/-- The world outside changes by an answer of the service or on its own. -/
theorem Step.remote_cases (step : process.Step event state next) :
    (∃ flight command answer, event = .answered flight command answer ∧
      process.service state.world.remote command answer next.world.remote) ∨
    (event = .outside ∧ process.environment state.world next.world) ∨
    next.world.remote = state.world.remote := by
  cases step with
  | start label world inFlight => exact .inr (.inr rfl)
  | finish label met value world before after => exact .inr (.inr rfl)
  | fail label met error world before after => exact .inr (.inr rfl)
  | update label met change resume world before after => exact .inr (.inr rfl)
  | await label met command resume answer remote world before after answered =>
      exact .inl ⟨_, command, answer, rfl, answered⟩
  | environment world changed inFlight acted => exact .inr (.inl ⟨rfl, acted⟩)

/-- The memory changes by an access of an operation or from outside. -/
theorem Step.memory_cases (step : process.Step event state next) :
    (∃ flight, event = .accessed flight) ∨ (∀ flight, event ≠ .accessed flight) ∧
      (process.environment state.world next.world ∨ next.world.memory = state.world.memory) := by
  cases step with
  | start label world inFlight => exact .inr ⟨nofun, .inr rfl⟩
  | finish label met value world before after => exact .inr ⟨nofun, .inr rfl⟩
  | fail label met error world before after => exact .inr ⟨nofun, .inr rfl⟩
  | update label met change resume world before after => exact .inl ⟨_, rfl⟩
  | await label met command resume answer remote world before after answered =>
      exact .inr ⟨nofun, .inr rfl⟩
  | environment world changed inFlight acted => exact .inr ⟨nofun, .inl acted⟩

/-- The operation that is answered was waiting for the answer. -/
theorem Step.awaits {flight : Flight Label Memory Command Answer Error} {command : Command}
    {answer : Except Error (Answer command)}
    (step : process.Step (.answered flight command answer) state next) :
    flight ∈ state.inFlight ∧ ∃ resume, flight.rest = .await command resume := by
  cases step with
  | await label met command resume answer remote world before after answered =>
      exact ⟨List.mem_append_right _ List.mem_cons_self, resume, rfl⟩

/-! ## Computed runs -/

/-- The operation that started last moves on, by an answer that is computed. -/
def advance (answer : Remote → (command : Command) → Except Error (Answer command) × Remote) :
    State Label Memory Command Answer Error Remote →
      State Label Memory Command Answer Error Remote
  | ⟨world, ⟨label, met, .update change resume⟩ :: others⟩ =>
      ⟨⟨change world.memory, world.remote⟩,
        ⟨label, met ++ [.access world.memory], resume world.memory⟩ :: others⟩
  | ⟨world, ⟨label, met, .await command resume⟩ :: others⟩ =>
      ⟨⟨world.memory, (answer world.remote command).2⟩,
        ⟨label, met ++ [.exchange command (answer world.remote command).1],
          resume (answer world.remote command).1⟩ :: others⟩
  | ⟨world, ⟨_, _, .finish _⟩ :: others⟩ => ⟨world, others⟩
  | ⟨world, ⟨_, _, .fail _⟩ :: others⟩ => ⟨world, others⟩
  | ⟨world, []⟩ => ⟨world, []⟩

/-- The step of `advance` is a step of the process. -/
theorem leads_advance
    {answer : Remote → (command : Command) → Except Error (Answer command) × Remote}
    (allowed : ∀ remote command,
      process.service remote command (answer remote command).1 (answer remote command).2)
    (state : State Label Memory Command Answer Error Remote)
    (meets : ∀ event, process.Step event state (advance answer state) →
      condition event state (advance answer state)) :
    process.Leads condition state (advance answer state) := by
  have single : ∀ {event}, process.Step event state (advance answer state) →
      process.Leads condition state (advance answer state) :=
    fun step => .single ⟨_, step, meets _ step⟩
  rcases state with ⟨world, _ | ⟨⟨label, met, rest⟩, others⟩⟩
  · exact .refl
  · cases rest with
    | finish value => exact single (.finish label met value world [] others)
    | fail error => exact single (.fail label met error world [] others)
    | update change resume => exact single (.update label met change resume world [] others)
    | await command resume =>
        exact single (.await label met command resume _ _ world [] others (allowed _ _))

/-- Answers that leave the world outside leave it in every step. -/
theorem remote_advance
    {answer : Remote → (command : Command) → Except Error (Answer command) × Remote}
    (leaves : ∀ remote command, (answer remote command).2 = remote)
    (state : State Label Memory Command Answer Error Remote) :
    (advance answer state).world.remote = state.world.remote := by
  rcases state with ⟨world, _ | ⟨⟨label, met, rest⟩, others⟩⟩
  · rfl
  · cases rest with
    | finish value => rfl
    | fail error => rfl
    | update change resume => rfl
    | await command resume => exact leaves world.remote command

/-- An operation that moves on starts no other. -/
theorem not_started_advance
    {answer : Remote → (command : Command) → Except Error (Answer command) × Remote}
    {label : Label} (step : process.Step (.started label) state (advance answer state)) :
    False := by
  have fewer : ∀ state : State Label Memory Command Answer Error Remote,
      (advance answer state).inFlight.length ≤ state.inFlight.length := by
    rintro ⟨world, _ | ⟨⟨label, met, rest⟩, others⟩⟩
    · exact Nat.le_refl _
    · cases rest with
      | finish value => exact Nat.le_succ _
      | fail error => exact Nat.le_succ _
      | update change resume => exact Nat.le_refl _
      | await command resume => exact Nat.le_refl _
  have longer : ∀ next : State Label Memory Command Answer Error Remote,
      process.Step (.started label) state next →
      next.inFlight.length = state.inFlight.length + 1 := by
    intro next step
    cases step with
    | start label world inFlight => rfl
  have more := longer _ step
  have less := fewer state
  omega

/-- An operation runs to its end, under a condition that lets it start. -/
theorem leads_run_of
    {answer : World Memory Remote → (command : Command) →
      Except Error (Answer command) × World Memory Remote}
    (alone : ∀ world command, (answer world command).2.memory = world.memory)
    (allowed : ∀ world command, process.service world.remote command (answer world command).1
      (answer world command).2.remote)
    (label : Label) (world : World Memory Remote)
    (meets : ∀ event state next, Starting (· = label) event state next →
      condition event state next) :
    process.Leads condition ⟨world, []⟩
      ⟨(Program.run answer (process.launch label) world).2, []⟩ := by
  have moves : ∀ (rest : Program Memory Command Answer Error Unit)
      (met : List (Program.Entry Memory Command Answer Error)) (world : World Memory Remote),
      process.Leads condition ⟨world, [⟨label, met, rest⟩]⟩
        ⟨(Program.run answer rest world).2, []⟩ := by
    intro rest
    induction rest with
    | finish value =>
        intro met world
        exact .single ⟨_, .finish label met value world [] [], meets _ _ _ nofun⟩
    | fail error =>
        intro met world
        exact .single ⟨_, .fail label met error world [] [], meets _ _ _ nofun⟩
    | update change resume induction =>
        intro met world
        exact .head ⟨_, .update label met change resume world [] [], meets _ _ _ nofun⟩
          (induction _ _ _)
    | await command resume induction =>
        intro met world
        have same : (⟨world.memory, (answer world command).2.remote⟩ : World Memory Remote) =
            (answer world command).2 := by rw [← alone world command]
        have taken := Step.await label met command resume _ _ world [] [] (allowed world command)
        rw [same] at taken
        exact .head ⟨_, taken, meets _ _ _ nofun⟩ (induction _ _ _)
  refine .head ⟨_, .start label world [], meets _ _ _ ?_⟩ (moves _ _ _)
  rintro other ⟨⟩
  rfl

theorem leads_run
    {answer : World Memory Remote → (command : Command) →
      Except Error (Answer command) × World Memory Remote}
    (alone : ∀ world command, (answer world command).2.memory = world.memory)
    (allowed : ∀ world command, process.service world.remote command (answer world command).1
      (answer world command).2.remote)
    (label : Label) (world : World Memory Remote) :
    process.Leads (fun _ _ _ => True) ⟨world, []⟩
      ⟨(Program.run answer (process.launch label) world).2, []⟩ :=
  leads_run_of alone allowed label world fun _ _ _ _ => trivial

/-- A computed run, under a condition that its states meet. -/
theorem leads_iterate_of
    {answer : Remote → (command : Command) → Except Error (Answer command) × Remote}
    (allowed : ∀ remote command,
      process.service remote command (answer remote command).1 (answer remote command).2)
    (steps : Nat) (state : State Label Memory Command Answer Error Remote)
    (meets : ∀ taken < steps, ∀ event,
      process.Step event ((advance answer)^[taken] state)
          (advance answer ((advance answer)^[taken] state)) →
        condition event ((advance answer)^[taken] state)
          (advance answer ((advance answer)^[taken] state))) :
    process.Leads condition state ((advance answer)^[steps] state) := by
  induction steps generalizing state with
  | zero => exact .refl
  | succ steps induction =>
      apply Relation.ReflTransGen.trans (leads_advance allowed state (meets 0 (Nat.succ_pos steps)))
      apply induction
      intro taken before
      exact meets (taken + 1) (Nat.succ_lt_succ before)

theorem leads_iterate
    {answer : Remote → (command : Command) → Except Error (Answer command) × Remote}
    (allowed : ∀ remote command,
      process.service remote command (answer remote command).1 (answer remote command).2)
    (steps : Nat) (state : State Label Memory Command Answer Error Remote) :
    process.Leads (fun _ _ _ => True) state ((advance answer)^[steps] state) :=
  leads_iterate_of allowed steps state fun _ _ _ _ => trivial

/-- A computed run of what is in flight, whatever may start. -/
theorem leads_iterate_starting
    {answer : Remote → (command : Command) → Except Error (Answer command) × Remote}
    (allowed : ∀ remote command,
      process.service remote command (answer remote command).1 (answer remote command).2)
    (sent : Label → Prop) (steps : Nat) (state : State Label Memory Command Answer Error Remote) :
    process.Leads (Starting sent) state ((advance answer)^[steps] state) := by
  apply leads_iterate_of allowed
  intro taken _ event step label same
  rw [same] at step
  exact (not_started_advance step).elim

/-! ## Operations that live with each other -/

/-- The operations in flight beside the one that an event is about. -/
def State.Beside (state : State Label Memory Command Answer Error Remote)
    (event : Event Label Memory Command Answer Error)
    (other : Flight Label Memory Command Answer Error) : Prop :=
  match event with
  | .answered flight _ _ =>
      ∃ before after, state.inFlight = before ++ flight :: after ∧ other ∈ before ++ after
  | _ => other ∈ state.inFlight

/-- Why the operations of a process do not disturb each other: an invariant of
the world, the changes that each operation tolerates, the commands it may
issue, and the proofs that these fit together. -/
structure Coexistence (process : Process Label Memory Command Answer Error Remote)
    (condition : Condition Label Memory Command Answer Error Remote) where
  invariant : World Memory Remote → Prop
  interference : Label → World Memory Remote → World Memory Remote → Prop
  permits : Label → World Memory Remote → Command → Prop
  interference_refl : ∀ label world, interference label world world
  interference_trans : ∀ label first second third, interference label first second →
    interference label second third → interference label first third
  answered : ∀ flight command answer state next, invariant state.world →
    permits flight.label state.world command →
    process.Step (.answered flight command answer) state next →
    condition (.answered flight command answer) state next →
    invariant next.world ∧ ∀ other, state.Beside (.answered flight command answer) other →
      interference other.label state.world next.world
  outside : ∀ state next, invariant state.world → process.Step .outside state next →
    condition .outside state next → invariant next.world ∧ ∀ other ∈ state.inFlight,
      interference other.label state.world next.world

namespace Coexistence

/-- The rules for one operation: its own accesses to memory keep the invariant
and are tolerated by whatever runs beside it. -/
def rules (coexistence : Coexistence process condition) (label : Label) :
    Rules Memory Command Answer Error Remote where
  service := process.service
  invariant := coexistence.invariant
  interference := coexistence.interference label
  guarantee world changed :=
    coexistence.invariant changed ∧ ∀ other, coexistence.interference other world changed
  permits := coexistence.permits label
  interference_refl := coexistence.interference_refl label
  interference_trans := coexistence.interference_trans label

/-- Every operation in flight keeps to its rules from here on. -/
def Respected (coexistence : Coexistence process condition)
    (state : State Label Memory Command Answer Error Remote) : Prop :=
  coexistence.invariant state.world ∧
    ∀ flight ∈ state.inFlight,
      (coexistence.rules flight.label).Ensures flight.rest (fun _ _ => True) state.world

variable {coexistence : Coexistence process condition}

/-- One operation moves on, and the others tolerate what it did. -/
private theorem respected_of_acting {world changed : World Memory Remote}
    {acting continued : Flight Label Memory Command Answer Error}
    {before after : List (Flight Label Memory Command Answer Error)}
    (respected : coexistence.Respected ⟨world, before ++ acting :: after⟩)
    (holds : coexistence.invariant changed)
    (tolerated : ∀ other ∈ before ++ after, coexistence.interference other.label world changed)
    (continues :
      (coexistence.rules continued.label).Ensures continued.rest (fun _ _ => True) changed) :
    coexistence.Respected ⟨changed, before ++ continued :: after⟩ := by
  have undisturbed : ∀ other ∈ before ++ after,
      (coexistence.rules other.label).Ensures other.rest (fun _ _ => True) changed :=
    fun other inside => (respected.2 other (mem_around inside)).of_interference
      (fun _ kept => kept) (tolerated other inside)
  refine ⟨holds, ?_⟩
  intro flight member
  rcases List.mem_append.mp member with member | member
  · exact undisturbed flight (List.mem_append_left _ member)
  · rcases List.mem_cons.mp member with rfl | member
    · exact continues
    · exact undisturbed flight (List.mem_append_right _ member)

theorem respected_step
    (launched : ∀ label world, coexistence.invariant world →
      (coexistence.rules label).Ensures (process.launch label) (fun _ _ => True) world)
    (step : process.Step event state next) (meets : condition event state next)
    (respected : coexistence.Respected state) : coexistence.Respected next := by
  have holds := respected.1
  have taken := step
  cases step with
  | start label world inFlight =>
      refine ⟨holds, ?_⟩
      intro flight member
      rcases List.mem_cons.mp member with rfl | member
      · exact launched label world holds
      · exact respected.2 flight member
  | finish label met value world before after =>
      exact ⟨holds, fun flight member => respected.2 flight (mem_around member)⟩
  | fail label met error world before after =>
      exact ⟨holds, fun flight member => respected.2 flight (mem_around member)⟩
  | update label met change resume world before after =>
      have acting := respected.2 _ (List.mem_append_right _ List.mem_cons_self) world holds
        (coexistence.interference_refl label world)
      exact respected_of_acting respected acting.1.1 (fun other _ => acting.1.2 other.label)
        acting.2
  | await label met command resume answer remote world before after answered =>
      have acting := respected.2 _ (List.mem_append_right _ List.mem_cons_self) world holds
        (coexistence.interference_refl label world)
      have outcome := coexistence.answered _ command answer _ _ holds acting.1 taken meets
      exact respected_of_acting respected outcome.1
        (fun other inside => outcome.2 other ⟨before, after, rfl, inside⟩)
        (acting.2 answer remote answered)
  | environment world changed inFlight acted =>
      have outcome := coexistence.outside _ _ holds taken meets
      refine ⟨outcome.1, ?_⟩
      intro flight member
      exact (respected.2 flight member).of_interference (fun _ kept => kept)
        (outcome.2 flight member)

/-- Operations that keep to their rules from any start keep the invariant over
every run whose steps meet the condition. -/
theorem respected_of_reachable
    (launched : ∀ label world, coexistence.invariant world →
      (coexistence.rules label).Ensures (process.launch label) (fun _ _ => True) world)
    (start : coexistence.invariant initial)
    (reachable : process.Reachable condition initial state) :
    coexistence.Respected state := by
  apply reachable.induct coexistence.Respected
  · refine ⟨start, ?_⟩
    intro flight member
    cases member
  · intro event state next step meets respected
    exact respected_step launched step meets respected

/-- The next command of an operation in flight is one it may issue here. -/
theorem Respected.permits (respected : coexistence.Respected state)
    {flight : Flight Label Memory Command Answer Error} {command : Command}
    {answer : Except Error (Answer command)}
    (step : process.Step (.answered flight command answer) state next) :
    coexistence.permits flight.label state.world command := by
  cases step with
  | await label met command resume answer remote world before after answered =>
      exact (respected.2 _ (List.mem_append_right _ List.mem_cons_self) world respected.1
        (coexistence.interference_refl label world)).1

end Coexistence

end Process

end DriveWebdav
