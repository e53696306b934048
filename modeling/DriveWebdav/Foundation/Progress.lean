import DriveWebdav.Foundation.Interference
import DriveWebdav.Foundation.Trace

/-! # Progress

How far a program has come: what it has met, what is left of it, and which command it issues
next. -/

namespace DriveWebdav

namespace Program

variable {Memory Command : Type} {Answer : Command → Type} {Error α β : Type}

/-- `Reaches program trace rest`: once `program` has met `trace`, `rest` is left of it. -/
inductive Reaches : Program Memory Command Answer Error α →
    List (Entry Memory Command Answer Error) → Program Memory Command Answer Error α → Prop
  | here (program) : Reaches program [] program
  | update {change resume trace rest} (memory : Memory) :
      Reaches (resume memory) trace rest →
      Reaches (.update change resume) (.access memory :: trace) rest
  | await {command resume trace rest} (answer : Except Error (Answer command)) :
      Reaches (resume answer) trace rest →
      Reaches (.await command resume) (.exchange command answer :: trace) rest

variable {program rest last : Program Memory Command Answer Error α}
  {trace later : List (Entry Memory Command Answer Error)} {command : Command}

theorem Reaches.trans (first : program.Reaches trace rest) (second : rest.Reaches later last) :
    program.Reaches (trace ++ later) last := by
  induction first with
  | here program => exact second
  | update memory _ induction => exact .update memory (induction second)
  | await answer _ induction => exact .await answer (induction second)

/-- What is left of a program does nothing that the program cannot do. -/
theorem Reaches.within {access : (Memory → Memory) → Prop} {issue : Command → Prop}
    (reaches : program.Reaches trace rest) (within : program.Within access issue) :
    rest.Within access issue := by
  induction reaches with
  | here program => exact within
  | update memory _ induction => exact induction (within.2 memory)
  | await answer _ induction => exact induction (within.2 answer)

/-- How a program ends is how what is left of it ends. -/
theorem Reaches.follows_iff {outcome : Except Error α} (reaches : program.Reaches trace rest) :
    program.Follows (trace ++ later) outcome ↔ rest.Follows later outcome := by
  induction reaches with
  | here program => exact Iff.rfl
  | update memory _ induction =>
      rw [← induction]
      constructor
      · intro follows
        cases follows with
        | update _ follows => exact follows
      · exact .update memory
  | await answer _ induction =>
      rw [← induction]
      constructor
      · intro follows
        cases follows with
        | await _ follows => exact follows
      · exact .await answer

/-- Once it has met `trace`, the program issues `command`. -/
def Issues (program : Program Memory Command Answer Error α)
    (trace : List (Entry Memory Command Answer Error)) (command : Command) : Prop :=
  ∃ resume, program.Reaches trace (.await command resume)

theorem not_issues_finish {value : α} :
    ¬(.finish value : Program Memory Command Answer Error α).Issues trace command := by
  intro issues
  rcases issues with ⟨resume, reaches⟩
  cases reaches

theorem not_issues_fail {error : Error} :
    ¬(.fail error : Program Memory Command Answer Error α).Issues trace command := by
  intro issues
  rcases issues with ⟨resume, reaches⟩
  cases reaches

theorem issues_update {change : Memory → Memory}
    {resume : Memory → Program Memory Command Answer Error α} :
    (Program.update change resume).Issues trace command ↔
      ∃ memory rest, trace = .access memory :: rest ∧ (resume memory).Issues rest command := by
  constructor
  · intro issues
    rcases issues with ⟨resume, reaches⟩
    cases reaches with
    | update memory reaches => exact ⟨memory, _, rfl, _, reaches⟩
  · intro issues
    rcases issues with ⟨memory, rest, rfl, resume, reaches⟩
    exact ⟨resume, .update memory reaches⟩

theorem issues_request {sought : Command} :
    (request sought : Program Memory Command Answer Error _).Issues trace command ↔
      trace = [] ∧ command = sought := by
  constructor
  · intro issues
    rcases issues with ⟨resume, reaches⟩
    cases reaches with
    | here => exact ⟨rfl, rfl⟩
    | await answer reaches =>
        cases answer with
        | ok value => cases reaches
        | error error => cases reaches
  · intro same
    rcases same with ⟨rfl, rfl⟩
    exact ⟨_, .here _⟩

theorem follows_finish {value : α} {outcome : Except Error α}
    (follows : (.finish value : Program Memory Command Answer Error α).Follows trace outcome) :
    trace = [] ∧ outcome = .ok value := by
  cases follows
  exact ⟨rfl, rfl⟩

theorem follows_read {outcome : Except Error Memory}
    (follows : (read : Program Memory Command Answer Error Memory).Follows trace outcome) :
    ∃ memory, trace = [.access memory] ∧ outcome = .ok memory := by
  cases follows with
  | update memory follows =>
      rcases follows_finish follows with ⟨rfl, same⟩
      exact ⟨memory, rfl, same⟩

/-- A command of two programs in sequence is issued by the first, or by the second after the
first has ended. -/
theorem issues_andThen {next : Except Error α → Program Memory Command Answer Error β} :
    (program.andThen next).Issues trace command ↔
      program.Issues trace command ∨
        ∃ first second middle, trace = first ++ second ∧ program.Follows first middle ∧
          (next middle).Issues second command := by
  constructor
  · intro issues
    induction program generalizing trace with
    | finish value => exact .inr ⟨[], trace, _, rfl, .finish value, issues⟩
    | fail error => exact .inr ⟨[], trace, _, rfl, .fail error, issues⟩
    | update change resume induction =>
        rcases issues_update.mp issues with ⟨memory, rest, rfl, continues⟩
        rcases induction memory continues with inside | ⟨first, second, middle, rfl, left, right⟩
        · exact .inl (issues_update.mpr ⟨memory, rest, rfl, inside⟩)
        · exact .inr ⟨_, second, middle, rfl, .update memory left, right⟩
    | await own resume induction =>
        rcases issues with ⟨continued, reaches⟩
        cases reaches with
        | here => exact .inl ⟨_, .here _⟩
        | await answer reaches =>
            rcases induction answer ⟨continued, reaches⟩ with
              ⟨inside, reached⟩ | ⟨first, second, middle, rfl, left, right⟩
            · exact .inl ⟨inside, .await answer reached⟩
            · exact .inr ⟨_, second, middle, rfl, .await answer left, right⟩
  · intro issues
    rcases issues with ⟨resume, reaches⟩ | ⟨first, second, middle, rfl, left, right⟩
    · refine ⟨fun answer => (resume answer).andThen next, ?_⟩
      generalize issuing : Program.await command resume = rest at reaches
      induction reaches with
      | here program =>
          rw [← issuing]
          exact .here _
      | update memory _ induction => exact .update memory (induction issuing)
      | await answer _ induction => exact .await answer (induction issuing)
    · induction left with
      | finish value => exact right
      | fail error => exact right
      | update memory _ induction =>
          exact issues_update.mpr ⟨memory, _, rfl, induction right⟩
      | await answer _ induction =>
          rcases induction right with ⟨resume, reaches⟩
          exact ⟨resume, .await answer reaches⟩

theorem issues_bind {next : α → Program Memory Command Answer Error β}
    (issues : (program >>= next).Issues trace command) :
    program.Issues trace command ∨
      ∃ first second value, trace = first ++ second ∧ program.Follows first (.ok value) ∧
        (next value).Issues second command := by
  rcases issues_andThen.mp issues with inside | ⟨first, second, middle, rfl, left, right⟩
  · exact .inl inside
  · cases middle with
    | ok value => exact .inr ⟨first, second, value, rfl, left, right⟩
    | error error => exact absurd right not_issues_fail

theorem issues_tryCatch {recover : Error → Program Memory Command Answer Error α}
    (issues : (tryCatch program recover).Issues trace command) :
    program.Issues trace command ∨
      ∃ first second error, trace = first ++ second ∧ program.Follows first (.error error) ∧
        (recover error).Issues second command := by
  rcases issues_andThen.mp issues with inside | ⟨first, second, middle, rfl, left, right⟩
  · exact .inl inside
  · cases middle with
    | ok value => exact absurd right not_issues_finish
    | error error => exact .inr ⟨first, second, error, rfl, left, right⟩

/-- Once it has met `trace`, the program makes this access to the memory. -/
def Accesses (program : Program Memory Command Answer Error α)
    (trace : List (Entry Memory Command Answer Error)) (change : Memory → Memory) : Prop :=
  ∃ resume, program.Reaches trace (.update change resume)

section Accesses

variable {change own : Memory → Memory}

theorem not_accesses_finish {value : α} :
    ¬(.finish value : Program Memory Command Answer Error α).Accesses trace change := by
  intro accesses
  rcases accesses with ⟨resume, reaches⟩
  cases reaches

theorem not_accesses_fail {error : Error} :
    ¬(.fail error : Program Memory Command Answer Error α).Accesses trace change := by
  intro accesses
  rcases accesses with ⟨resume, reaches⟩
  cases reaches

/-- A program that cannot make an access makes none. -/
theorem Within.not_accesses {issue : Command → Prop}
    (within : program.Within (fun _ => False) issue) : ¬program.Accesses trace change := by
  intro accesses
  rcases accesses with ⟨resume, reaches⟩
  exact (reaches.within within).1

theorem accesses_update {resume : Memory → Program Memory Command Answer Error α}
    (accesses : (Program.update own resume).Accesses trace change) :
    (trace = [] ∧ change = own) ∨
      ∃ memory rest, trace = .access memory :: rest ∧ (resume memory).Accesses rest change := by
  rcases accesses with ⟨resumed, reaches⟩
  cases reaches with
  | here => exact .inl ⟨rfl, rfl⟩
  | update memory reaches => exact .inr ⟨memory, _, rfl, resumed, reaches⟩

theorem accesses_modify
    (accesses : (modify own : Program Memory Command Answer Error Unit).Accesses trace change) :
    trace = [] ∧ change = own := by
  rcases accesses_update accesses with first | ⟨memory, rest, rfl, later⟩
  · exact first
  · exact absurd later not_accesses_finish

theorem accesses_andThen {next : Except Error α → Program Memory Command Answer Error β}
    (accesses : (program.andThen next).Accesses trace change) :
    program.Accesses trace change ∨
      ∃ first second middle, trace = first ++ second ∧ program.Follows first middle ∧
        (next middle).Accesses second change := by
  induction program generalizing trace with
  | finish value => exact .inr ⟨[], trace, _, rfl, .finish value, accesses⟩
  | fail error => exact .inr ⟨[], trace, _, rfl, .fail error, accesses⟩
  | update own resume induction =>
      rcases accesses_update accesses with ⟨rfl, rfl⟩ | ⟨memory, rest, rfl, continues⟩
      · exact .inl ⟨resume, .here _⟩
      · rcases induction memory continues with
          ⟨resumed, reached⟩ | ⟨first, second, middle, rfl, left, right⟩
        · exact .inl ⟨resumed, .update memory reached⟩
        · exact .inr ⟨_, second, middle, rfl, .update memory left, right⟩
  | await command resume induction =>
      rcases accesses with ⟨continued, reaches⟩
      cases reaches with
      | await answer reaches =>
          rcases induction answer ⟨continued, reaches⟩ with
            ⟨resumed, reached⟩ | ⟨first, second, middle, rfl, left, right⟩
          · exact .inl ⟨resumed, .await answer reached⟩
          · exact .inr ⟨_, second, middle, rfl, .await answer left, right⟩

theorem accesses_bind {next : α → Program Memory Command Answer Error β}
    (accesses : (program >>= next).Accesses trace change) :
    program.Accesses trace change ∨
      ∃ first second value, trace = first ++ second ∧ program.Follows first (.ok value) ∧
        (next value).Accesses second change := by
  rcases accesses_andThen accesses with inside | ⟨first, second, middle, rfl, left, right⟩
  · exact .inl inside
  · cases middle with
    | ok value => exact .inr ⟨first, second, value, rfl, left, right⟩
    | error error => exact absurd right not_accesses_fail

theorem accesses_tryCatch {recover : Error → Program Memory Command Answer Error α}
    (accesses : (tryCatch program recover).Accesses trace change) :
    program.Accesses trace change ∨
      ∃ first second error, trace = first ++ second ∧ program.Follows first (.error error) ∧
        (recover error).Accesses second change := by
  rcases accesses_andThen accesses with inside | ⟨first, second, middle, rfl, left, right⟩
  · exact .inl inside
  · cases middle with
    | ok value => exact absurd right not_accesses_finish
    | error error => exact .inr ⟨first, second, error, rfl, left, right⟩

end Accesses

end Program

namespace Rules

variable {Memory Command : Type} {Answer : Command → Type} {Error Remote α : Type}

/-- Rules about nothing but the commands. -/
def issuing (permits : Command → Prop) : Rules Memory Command Answer Error Remote where
  service _ _ _ _ := True
  invariant _ := True
  interference _ _ := True
  guarantee _ _ := True
  permits _ := permits
  interference_refl _ := trivial
  interference_trans _ _ _ _ _ := trivial

/-- Whatever it meets, a program under such rules issues permitted commands only. -/
theorem Ensures.issued {permits : Command → Prop}
    {program : Program Memory Command Answer Error α}
    {post : Except Error α → World Memory Remote → Prop} {world : World Memory Remote}
    {trace : List (Program.Entry Memory Command Answer Error)} {command : Command}
    (ensures : (issuing permits).Ensures program post world)
    (issues : program.Issues trace command) : permits command := by
  rcases issues with ⟨resume, reaches⟩
  generalize awaits : Program.await command resume = rest at reaches
  induction reaches generalizing world with
  | here program =>
      rw [← awaits] at ensures
      exact (ensures world trivial trivial).1
  | update memory _ induction =>
      exact induction (ensures ⟨memory, world.remote⟩ trivial trivial).2 awaits
  | await answer _ induction =>
      exact induction ((ensures world trivial trivial).2 answer world.remote trivial) awaits

/-- Every command that is answered on the way was permitted. -/
theorem Ensures.permits_of_follows {permits : Command → Prop}
    {program : Program Memory Command Answer Error α}
    {post : Except Error α → World Memory Remote → Prop} {world : World Memory Remote}
    {trace : List (Program.Entry Memory Command Answer Error)} {outcome : Except Error α}
    (ensures : (issuing permits).Ensures program post world)
    (follows : program.Follows trace outcome) (command : Command)
    (answer : Except Error (Answer command)) (member : .exchange command answer ∈ trace) :
    permits command := by
  induction follows generalizing world with
  | finish value => cases member
  | fail error => cases member
  | update memory _ induction =>
      rcases List.mem_cons.mp member with same | member
      · cases same
      · exact induction (ensures ⟨memory, world.remote⟩ trivial trivial).2 member
  | await given _ induction =>
      have asked := ensures world trivial trivial
      rcases List.mem_cons.mp member with same | member
      · cases same
        exact asked.1
      · exact induction (asked.2 given world.remote trivial) member

end Rules

end DriveWebdav
