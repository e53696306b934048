import DriveWebdav.Foundation.Program

/-! # Traces

A trace records what a program met on its way: the memory it saw at each access
and the answer to each command. This module says where a program's error came
from, by the last call its trace counts. -/

namespace DriveWebdav

namespace Program

variable {Memory Command : Type} {Answer : Command → Type} {Error Fault α β : Type}

inductive Entry (Memory Command : Type) (Answer : Command → Type) (Error : Type)
  | access (memory : Memory)
  | exchange (command : Command) (answer : Except Error (Answer command))

/-- `Follows program trace outcome`: meeting exactly `trace`, the program ends
with `outcome`. -/
inductive Follows : Program Memory Command Answer Error α →
    List (Entry Memory Command Answer Error) → Except Error α → Prop
  | finish (value : α) : Follows (.finish value) [] (.ok value)
  | fail (error : Error) : Follows (.fail error) [] (.error error)
  | update {change resume trace outcome} (memory : Memory) :
      Follows (resume memory) trace outcome →
      Follows (.update change resume) (.access memory :: trace) outcome
  | await {command resume trace outcome} (answer : Except Error (Answer command)) :
      Follows (resume answer) trace outcome →
      Follows (.await command resume) (.exchange command answer :: trace) outcome

variable {program : Program Memory Command Answer Error α}
  {trace : List (Entry Memory Command Answer Error)}

theorem follows_andThen {next : Except Error α → Program Memory Command Answer Error β}
    {outcome : Except Error β} :
    (program.andThen next).Follows trace outcome ↔
      ∃ first second middle, trace = first ++ second ∧ program.Follows first middle ∧
        (next middle).Follows second outcome := by
  constructor
  · intro follows
    induction program generalizing trace with
    | finish value => exact ⟨[], trace, _, rfl, .finish value, follows⟩
    | fail error => exact ⟨[], trace, _, rfl, .fail error, follows⟩
    | update change resume induction =>
        cases follows with
        | update memory follows =>
            rcases induction memory follows with ⟨first, second, middle, rfl, left, right⟩
            exact ⟨_, second, middle, rfl, .update memory left, right⟩
    | await command resume induction =>
        cases follows with
        | await answer follows =>
            rcases induction answer follows with ⟨first, second, middle, rfl, left, right⟩
            exact ⟨_, second, middle, rfl, .await answer left, right⟩
  · rintro ⟨first, second, middle, rfl, left, right⟩
    induction left with
    | finish value => exact right
    | fail error => exact right
    | update memory _ induction => exact .update memory (induction right)
    | await answer _ induction => exact .await answer (induction right)

/-- A program that has ended on a trace does not go on with a longer one. -/
theorem Follows.eq_of_append {first rest : List (Entry Memory Command Answer Error)}
    {outcome other : Except Error α} (left : program.Follows first outcome)
    (right : program.Follows (first ++ rest) other) : rest = [] ∧ other = outcome := by
  induction left with
  | finish value =>
      cases right
      exact ⟨rfl, rfl⟩
  | fail error =>
      cases right
      exact ⟨rfl, rfl⟩
  | update memory _ induction =>
      cases right with
      | update _ right => exact induction right
  | await answer _ induction =>
      cases right with
      | await _ right => exact induction right

/-- Once the first of two programs has ended, the second one goes on. -/
theorem Follows.resume {first rest : List (Entry Memory Command Answer Error)}
    {middle : Except Error α} {outcome : Except Error β}
    {next : Except Error α → Program Memory Command Answer Error β}
    (left : program.Follows first middle)
    (whole : (program.andThen next).Follows (first ++ rest) outcome) :
    (next middle).Follows rest outcome := by
  induction left with
  | finish value => exact whole
  | fail error => exact whole
  | update memory _ induction =>
      cases whole with
      | update _ whole => exact induction whole
  | await answer _ induction =>
      cases whole with
      | await _ whole => exact induction whole

/-- A trace holds only commands that the program can issue. -/
theorem Within.issued {access : (Memory → Memory) → Prop} {issue : Command → Prop}
    {outcome : Except Error α} (within : program.Within access issue)
    (follows : program.Follows trace outcome) (command : Command)
    (answer : Except Error (Answer command)) (member : .exchange command answer ∈ trace) :
    issue command := by
  induction follows with
  | finish value => cases member
  | fail error => cases member
  | update memory _ induction =>
      cases member with
      | tail _ member => exact induction (within.2 memory) member
  | await other _ induction =>
      cases member with
      | head => exact within.1
      | tail _ member => exact induction (within.2 other) member

/-! ## The last call -/

section Blame

variable (counted : Command → Bool)
  (raised : (command : Command) → Except Error (Answer command) → Option Fault)

/-- A command together with its answer. -/
abbrev Exchange (Command : Type) (Answer : Command → Type) (Error : Type) :=
  (command : Command) × Except Error (Answer command)

/-- The last exchange of a command that counts. -/
def lastCall :
    List (Entry Memory Command Answer Error) → Option (Exchange Command Answer Error)
  | [] => none
  | .access _ :: rest => lastCall rest
  | .exchange command answer :: rest =>
      match lastCall rest with
      | some call => some call
      | none => if counted command then some ⟨command, answer⟩ else none

theorem lastCall_append (first second : List (Entry Memory Command Answer Error)) :
    lastCall counted (first ++ second) =
      (lastCall counted second).or (lastCall counted first) := by
  induction first with
  | nil => cases found : lastCall counted second <;> simp [lastCall, found]
  | cons entry rest induction =>
      cases entry with
      | access memory => exact induction
      | exchange command answer =>
          simp only [List.cons_append, lastCall, induction]
          cases lastCall counted second <;> cases lastCall counted rest <;> simp

theorem lastCall_append_of_right {first second : List (Entry Memory Command Answer Error)}
    (called : lastCall counted second ≠ none) : lastCall counted (first ++ second) ≠ none := by
  rw [lastCall_append]
  cases found : lastCall counted second with
  | none => exact absurd found called
  | some call => exact Option.some_ne_none call

theorem lastCall_append_of_left {first second : List (Entry Memory Command Answer Error)}
    (called : lastCall counted first ≠ none) : lastCall counted (first ++ second) ≠ none := by
  rw [lastCall_append]
  cases lastCall counted second with
  | none => exact called
  | some call => exact Option.some_ne_none call

/-- The program makes no call that counts. -/
def Quiet (program : Program Memory Command Answer Error α) : Prop :=
  ∀ trace outcome, program.Follows trace outcome → lastCall counted trace = none

/-- The program never throws. -/
def NeverThrows (program : Program Memory Command Answer Error α) : Prop :=
  ∀ trace error, ¬program.Follows trace (.error error)

/-- When the program ends with `value`, it has made a call that counts. -/
def CallsWith (program : Program Memory Command Answer Error α) (value : α) : Prop :=
  ∀ trace, program.Follows trace (.ok value) → lastCall counted trace ≠ none

/-- The program makes a call that counts, however it goes. -/
def Calls (program : Program Memory Command Answer Error α) : Prop :=
  ∀ trace outcome, program.Follows trace outcome → lastCall counted trace ≠ none

/-- When the program ends with `value`, its last call raised nothing. -/
def SettlesWith (program : Program Memory Command Answer Error α) (value : α) : Prop :=
  ∀ trace, program.Follows trace (.ok value) →
    ∀ call, lastCall counted trace = some call → raised call.1 call.2 = none

def Settles (program : Program Memory Command Answer Error α) : Prop :=
  ∀ value, SettlesWith counted raised program value

/-- When the program throws after its last call raised a fault, the fault and
what is thrown are related by `blame`. -/
def Blames (blame : Exchange Command Answer Error → Fault → Error → Prop)
    (program : Program Memory Command Answer Error α) : Prop :=
  ∀ trace error, program.Follows trace (.error error) →
    ∀ call fault, lastCall counted trace = some call → raised call.1 call.2 = some fault →
      blame call fault error

variable {counted raised} {blame weaker : Exchange Command Answer Error → Fault → Error → Prop}

theorem Quiet.settles (quiet : Quiet counted program) : Settles counted raised program := by
  intro value trace follows call last
  rw [quiet trace _ follows] at last
  cases last

theorem Quiet.blames (quiet : Quiet counted program) : Blames counted raised blame program := by
  intro trace error follows call fault last
  rw [quiet trace _ follows] at last
  cases last

theorem quiet_pure (value : α) :
    Quiet counted (pure value : Program Memory Command Answer Error α) := by
  intro trace outcome follows
  cases follows
  rfl

theorem quiet_throw (error : Error) :
    Quiet counted (throw error : Program Memory Command Answer Error α) := by
  intro trace outcome follows
  cases follows
  rfl

theorem quiet_read :
    Quiet counted (read : Program Memory Command Answer Error Memory) := by
  intro trace outcome follows
  cases follows with
  | update memory ended =>
      cases ended
      rfl

theorem quiet_modify (change : Memory → Memory) :
    Quiet counted (modify change : Program Memory Command Answer Error Unit) := by
  intro trace outcome follows
  cases follows with
  | update memory ended =>
      cases ended
      rfl

/-- The two traces of a `do` step, and how the second part began. -/
theorem follows_bind {next : α → Program Memory Command Answer Error β}
    {outcome : Except Error β} (follows : (program >>= next).Follows trace outcome) :
    (∃ error, outcome = .error error ∧ program.Follows trace (.error error)) ∨
      ∃ first second value, trace = first ++ second ∧ program.Follows first (.ok value) ∧
        (next value).Follows second outcome := by
  rcases follows_andThen.mp follows with ⟨first, second, middle, rfl, left, right⟩
  cases middle with
  | ok value => exact .inr ⟨first, second, value, rfl, left, right⟩
  | error error =>
      cases right
      exact .inl ⟨error, rfl, by simpa using left⟩

theorem bind_bind (program : Program Memory Command Answer Error α)
    (first : α → Program Memory Command Answer Error β)
    {γ : Type} (second : β → Program Memory Command Answer Error γ) :
    program >>= first >>= second = program >>= fun value => first value >>= second := by
  change (program.andThen (onValue first)).andThen (onValue second) = program.andThen _
  rw [andThen_assoc]
  congr 1
  funext outcome
  cases outcome with
  | ok value => rfl
  | error error => rfl

/-- Once the first part of a `do` step has ended, the second part goes on. -/
theorem Follows.resume_bind {first rest : List (Entry Memory Command Answer Error)} {value : α}
    {next : α → Program Memory Command Answer Error β} {outcome : Except Error β}
    (left : program.Follows first (.ok value))
    (whole : (program >>= next).Follows (first ++ rest) outcome) :
    (next value).Follows rest outcome :=
  left.resume whole

theorem follows_tryCatch {recover : Error → Program Memory Command Answer Error α}
    {outcome : Except Error α} (follows : (tryCatch program recover).Follows trace outcome) :
    (∃ value, outcome = .ok value ∧ program.Follows trace (.ok value)) ∨
      ∃ first second error, trace = first ++ second ∧ program.Follows first (.error error) ∧
        (recover error).Follows second outcome := by
  rcases follows_andThen.mp follows with ⟨first, second, middle, rfl, left, right⟩
  cases middle with
  | ok value =>
      cases right
      exact .inl ⟨value, rfl, by simpa using left⟩
  | error error => exact .inr ⟨first, second, error, rfl, left, right⟩

theorem Quiet.bind {next : α → Program Memory Command Answer Error β}
    (first : Quiet counted program) (rest : ∀ value, Quiet counted (next value)) :
    Quiet counted (program >>= next) := by
  intro trace outcome follows
  rcases follows_bind follows with ⟨error, rfl, stopped⟩ | ⟨left, right, value, rfl, one, two⟩
  · exact first _ _ stopped
  · rw [lastCall_append, rest value _ _ two, first _ _ one]
    rfl

theorem Quiet.tryCatch {recover : Error → Program Memory Command Answer Error α}
    (first : Quiet counted program) (rest : ∀ error, Quiet counted (recover error)) :
    Quiet counted (MonadExcept.tryCatch program recover) := by
  intro trace outcome follows
  rcases follows_tryCatch follows with ⟨_, rfl, ended⟩ | ⟨_, _, thrown, rfl, one, two⟩
  · exact first _ _ ended
  · rw [lastCall_append, rest thrown _ _ two, first _ _ one]
    rfl

private theorem lastCall_second {first second : List (Entry Memory Command Answer Error)}
    {call : Exchange Command Answer Error}
    (last : lastCall counted (first ++ second) = some call) :
    lastCall counted second = some call ∨
      (lastCall counted second = none ∧ lastCall counted first = some call) := by
  rw [lastCall_append] at last
  cases found : lastCall counted second with
  | none => exact .inr ⟨rfl, by simpa [found] using last⟩
  | some other => exact .inl (by simpa [found] using last)

theorem NeverThrows.bind {next : α → Program Memory Command Answer Error β}
    (first : NeverThrows program) (rest : ∀ value, NeverThrows (next value)) :
    NeverThrows (program >>= next) := by
  intro trace error follows
  rcases follows_bind follows with ⟨_, _, stopped⟩ | ⟨_, _, value, _, _, two⟩
  · exact first _ _ stopped
  · exact rest value _ _ two

theorem NeverThrows.tryCatch {recover : Error → Program Memory Command Answer Error α}
    (rest : ∀ error, NeverThrows (recover error)) :
    NeverThrows (MonadExcept.tryCatch program recover) := by
  intro trace error follows
  rcases follows_tryCatch follows with ⟨_, equal, _⟩ | ⟨_, _, thrown, _, _, two⟩
  · cases equal
  · exact rest thrown _ _ two

theorem never_pure (value : α) :
    NeverThrows (pure value : Program Memory Command Answer Error α) := by
  intro trace error follows
  cases follows

theorem never_read : NeverThrows (read : Program Memory Command Answer Error Memory) := by
  intro trace error follows
  cases follows with
  | update memory ended => cases ended

theorem never_modify (change : Memory → Memory) :
    NeverThrows (modify change : Program Memory Command Answer Error Unit) := by
  intro trace error follows
  cases follows with
  | update memory ended => cases ended

theorem NeverThrows.blames (never : NeverThrows program) :
    Blames counted raised blame program :=
  fun trace error follows => absurd follows (never trace error)

/-- Each way through a `do` step makes a call, in one part or the other. -/
theorem Calls.bind {next : α → Program Memory Command Answer Error β}
    (fails : ∀ trace error, program.Follows trace (.error error) →
      lastCall counted trace ≠ none)
    (covered : ∀ value, CallsWith counted program value ∨ Calls counted (next value)) :
    Calls counted (program >>= next) := by
  intro trace outcome follows
  rcases follows_bind follows with ⟨error, rfl, stopped⟩ | ⟨left, right, value, rfl, one, two⟩
  · exact fails _ _ stopped
  · rcases covered value with called | calls
    · exact lastCall_append_of_left counted (called _ one)
    · exact lastCall_append_of_right counted (calls _ _ two)

/-- A value that only some ways through a `do` step lead to. -/
theorem CallsWith.bind {next : α → Program Memory Command Answer Error β} {result : β}
    (covered : ∀ value, (∀ trace, ¬(next value).Follows trace (.ok result)) ∨
      CallsWith counted program value ∨ CallsWith counted (next value) result) :
    CallsWith counted (program >>= next) result := by
  intro trace follows
  rcases follows_bind follows with ⟨error, equal, _⟩ | ⟨left, right, value, rfl, one, two⟩
  · cases equal
  · rcases covered value with absent | called | called
    · exact absurd two (absent _)
    · exact lastCall_append_of_left counted (called _ one)
    · exact lastCall_append_of_right counted (called _ two)

theorem SettlesWith.bind {next : α → Program Memory Command Answer Error β} {result : β}
    (covered : ∀ value, (∀ trace, ¬(next value).Follows trace (.ok result)) ∨
      (SettlesWith counted raised program value ∧
        SettlesWith counted raised (next value) result)) :
    SettlesWith counted raised (program >>= next) result := by
  intro trace follows call last
  rcases follows_bind follows with ⟨error, equal, _⟩ | ⟨left, right, value, rfl, one, two⟩
  · cases equal
  · rcases covered value with absent | ⟨first, second⟩
    · exact absurd two (absent _)
    · rcases lastCall_second last with last | ⟨_, last⟩
      · exact second _ two call last
      · exact first _ one call last

theorem SettlesWith.tryCatch {recover : Error → Program Memory Command Answer Error α}
    {value : α} (settles : SettlesWith counted raised program value)
    (absent : ∀ error trace, ¬(recover error).Follows trace (.ok value)) :
    SettlesWith counted raised (MonadExcept.tryCatch program recover) value := by
  intro trace follows call last
  rcases follows_tryCatch follows with ⟨_, equal, ended⟩ | ⟨_, _, thrown, _, _, two⟩
  · cases equal
    exact settles _ ended call last
  · exact absurd two (absent thrown _)

theorem Calls.left {next : α → Program Memory Command Answer Error β}
    (first : Calls counted program) : Calls counted (program >>= next) :=
  .bind (fun _ _ follows => first _ _ follows)
    fun _ => .inl fun _ follows => first _ _ follows

/-- What an earlier step left behind is settled, or a later call covers it. -/
theorem Settles.bind {next : α → Program Memory Command Answer Error β}
    (covered : ∀ value, SettlesWith counted raised program value ∨
      Calls counted (next value))
    (rest : ∀ value, Settles counted raised (next value)) :
    Settles counted raised (program >>= next) := by
  intro value trace follows call last
  rcases follows_bind follows with ⟨error, equal, _⟩ | ⟨left, right, middle, rfl, one, two⟩
  · cases equal
  · rcases lastCall_second last with last | ⟨none, last⟩
    · exact rest middle _ _ two call last
    · rcases covered middle with settled | calls
      · exact settled _ one call last
      · exact absurd none (calls _ _ two)

theorem Blames.bind {next : α → Program Memory Command Answer Error β}
    (first : Blames counted raised blame program)
    (covered : ∀ value, SettlesWith counted raised program value ∨
      Calls counted (next value))
    (rest : ∀ value, Blames counted raised blame (next value)) :
    Blames counted raised blame (program >>= next) := by
  intro trace error follows call fault last raises
  rcases follows_bind follows with ⟨_, equal, follows⟩ | ⟨left, right, middle, rfl, one, two⟩
  · cases equal
    exact first _ _ follows call fault last raises
  · rcases lastCall_second last with last | ⟨none, last⟩
    · exact rest middle _ _ two call fault last raises
    · rcases covered middle with settled | calls
      · rw [settled _ one call last] at raises
        cases raises
      · exact absurd none (calls _ _ two)

theorem Blames.mono (blames : Blames counted raised blame program)
    (implies : ∀ call fault error, blame call fault error → weaker call fault error) :
    Blames counted raised weaker program :=
  fun trace error follows call fault last raises =>
    implies _ _ _ (blames trace error follows call fault last raises)

/-- An error that is caught and thrown again in another form, after a cleanup
that makes no call and throws nothing. -/
theorem Blames.mapError {cleanup : Error → Program Memory Command Answer Error Unit}
    {convert : Error → Error}
    (blames : Blames counted raised blame program)
    (quiet : ∀ error, Quiet counted (cleanup error))
    (never : ∀ error, NeverThrows (cleanup error))
    (implies : ∀ call fault error, blame call fault error →
      weaker call fault (convert error)) :
    Blames counted raised weaker
      (tryCatch program fun error => cleanup error >>= fun _ => throw (convert error)) := by
  intro trace error follows call fault last raises
  rcases follows_tryCatch follows with ⟨_, equal, _⟩ | ⟨left, right, thrown, rfl, one, two⟩
  · cases equal
  · have silent := (quiet thrown).bind (fun _ => quiet_throw (convert thrown)) _ _ two
    rcases follows_bind two with ⟨other, equal, two⟩ | ⟨front, back, _, rfl, _, two⟩
    · exact absurd two (never _ _ _)
    · cases two
      rw [lastCall_append, silent] at last
      exact implies _ _ _ (blames _ _ one call fault last raises)

theorem Settles.mapError {cleanup : Error → Program Memory Command Answer Error Unit}
    {convert : Error → Error} (settles : Settles counted raised program) :
    Settles counted raised
      (tryCatch program fun error => cleanup error >>= fun _ => throw (convert error)) := by
  intro value trace follows call last
  rcases follows_tryCatch follows with ⟨_, equal, follows⟩ | ⟨left, right, thrown, rfl, one, two⟩
  · cases equal
    exact settles _ _ follows call last
  · rcases follows_bind two with ⟨other, equal, two⟩ | ⟨front, back, _, rfl, _, two⟩
    · cases equal
    · cases two

/-- A part that throws nothing adds nothing to blame. -/
theorem Blames.bind_never {next : α → Program Memory Command Answer Error β}
    (first : Blames counted raised blame program) (never : ∀ value, NeverThrows (next value)) :
    Blames counted raised blame (program >>= next) := by
  intro trace error follows call fault last raises
  rcases follows_bind follows with ⟨_, equal, stopped⟩ | ⟨_, _, value, _, _, two⟩
  · cases equal
    exact first _ _ stopped call fault last raises
  · exact absurd two (never value _ _)

/-- A part that makes no call and throws on its own account adds nothing. -/
theorem Blames.bind_quiet {next : α → Program Memory Command Answer Error β}
    (first : Blames counted raised blame program) (settles : Settles counted raised program)
    (quiet : ∀ value, Quiet counted (next value)) :
    Blames counted raised blame (program >>= next) :=
  first.bind (fun value => .inl (settles value)) fun value => (quiet value).blames

theorem Settles.bind_quiet {next : α → Program Memory Command Answer Error β}
    (settles : Settles counted raised program) (quiet : ∀ value, Quiet counted (next value)) :
    Settles counted raised (program >>= next) :=
  .bind (fun value => .inl (settles value)) fun value => (quiet value).settles

theorem Blames.finallyDo {cleanup : Program Memory Command Answer Error Unit}
    (blames : Blames counted raised blame program) (quiet : Quiet counted cleanup)
    (never : NeverThrows cleanup) :
    Blames counted raised blame (program.finallyDo cleanup) := by
  intro trace error follows call fault last raises
  rcases follows_andThen.mp follows with ⟨first, rest, middle, rfl, one, two⟩
  rcases follows_andThen.mp two with ⟨second, third, done, rfl, cleaned, ended⟩
  cases done with
  | error thrown => exact absurd cleaned (never _ _)
  | ok value =>
      cases middle with
      | ok value => cases ended
      | error thrown =>
          cases ended
          rw [lastCall_append, List.append_nil, quiet _ _ cleaned] at last
          exact blames _ _ one call fault last raises

theorem Calls.tryCatch {recover : Error → Program Memory Command Answer Error α}
    (first : Calls counted program) :
    Calls counted (MonadExcept.tryCatch program recover) := by
  intro trace outcome follows
  rcases follows_tryCatch follows with ⟨_, rfl, ended⟩ | ⟨left, right, thrown, rfl, one, two⟩
  · exact first _ _ ended
  · exact lastCall_append_of_left counted (first _ _ one)

/-- The program ends with the answer to `command`, the last call it made. -/
def Relays (counted : Command → Bool) (command : Command)
    (program : Program Memory Command Answer Error (Answer command)) : Prop :=
  ∀ trace answer, program.Follows trace (.ok answer) →
    lastCall counted trace = some ⟨command, .ok answer⟩

section Relays

variable {command : Command} {asked : Program Memory Command Answer Error (Answer command)}
  {next : Answer command → Program Memory Command Answer Error β}

/-- An answer whose errors are dealt with by a part that makes no further call. -/
theorem Blames.bind_relayed (first : Blames counted raised blame asked)
    (relays : Relays counted command asked) (quiet : ∀ answer, Quiet counted (next answer))
    (implies : ∀ answer trace error fault, (next answer).Follows trace (.error error) →
      raised command (.ok answer) = some fault → blame ⟨command, .ok answer⟩ fault error) :
    Blames counted raised blame (asked >>= next) := by
  intro trace error follows call fault last raises
  rcases follows_bind follows with ⟨_, equal, stopped⟩ | ⟨left, right, answer, rfl, one, two⟩
  · cases equal
    exact first _ _ stopped call fault last raises
  · rw [lastCall_append, quiet answer _ _ two, relays _ _ one] at last
    cases last
    exact implies answer _ _ _ two raises

theorem Settles.bind_relayed (relays : Relays counted command asked)
    (quiet : ∀ answer, Quiet counted (next answer))
    (silent : ∀ answer trace value, (next answer).Follows trace (.ok value) →
      raised command (.ok answer) = none) :
    Settles counted raised (asked >>= next) := by
  intro value trace follows call last
  rcases follows_bind follows with ⟨_, equal, _⟩ | ⟨left, right, answer, rfl, one, two⟩
  · cases equal
  · rw [lastCall_append, quiet answer _ _ two, relays _ _ one] at last
    cases last
    exact silent answer _ _ two

theorem Relays.mapError {convert : Error → Error} (relays : Relays counted command asked) :
    Relays counted command (tryCatch asked fun error => throw (convert error)) := by
  intro trace answer follows
  rcases follows_tryCatch follows with ⟨_, equal, ended⟩ | ⟨_, _, _, _, _, two⟩
  · cases equal
    exact relays _ _ ended
  · cases two

end Relays

/-! ## Single commands -/

theorem follows_request {command : Command} {outcome : Except Error (Answer command)}
    (follows : (request command : Program Memory Command Answer Error _).Follows trace outcome) :
    trace = [.exchange command outcome] := by
  cases follows with
  | await answer follows =>
      cases answer <;> cases follows <;> rfl

theorem calls_request {command : Command} (counts : counted command = true) :
    Calls counted (request command : Program Memory Command Answer Error _) := by
  intro trace outcome follows
  rw [follows_request follows]
  simp [lastCall, counts]

theorem relays_request {command : Command} (counts : counted command = true) :
    Relays counted command (request command : Program Memory Command Answer Error _) := by
  intro trace answer follows
  rw [follows_request follows]
  simp [lastCall, counts]

theorem quiet_request {command : Command} (ignored : counted command = false) :
    Quiet counted (request command : Program Memory Command Answer Error _) := by
  intro trace outcome follows
  rw [follows_request follows]
  simp [lastCall, ignored]

theorem settles_request {command : Command}
    (silent : ∀ answer, raised command (.ok answer) = none) :
    Settles counted raised (request command : Program Memory Command Answer Error _) := by
  intro value trace follows call last
  rw [follows_request follows] at last
  simp only [lastCall, Option.ite_none_right_eq_some] at last
  cases last.2
  exact silent value

theorem blames_request {command : Command}
    (implies : ∀ fault error, raised command (.error error) = some fault →
      blame ⟨command, .error error⟩ fault error) :
    Blames counted raised blame (request command : Program Memory Command Answer Error _) := by
  intro trace error follows call fault last raises
  rw [follows_request follows] at last
  simp only [lastCall, Option.ite_none_right_eq_some] at last
  cases last.2
  exact implies fault error raises

end Blame

end Program

end DriveWebdav
