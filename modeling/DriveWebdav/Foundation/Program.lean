import Mathlib.Logic.Relation

/-! # Asynchronous programs

A program is the text of one asynchronous function. It reads and writes memory
that it shares with other programs of its process, and it awaits commands that
an outside world answers or rejects. Nothing here fixes what the memory, the
commands or the world are. -/

namespace DriveWebdav

/-- A program that ends with a value of type `α` or by throwing an `Error`.
`update` is one indivisible access to the shared memory, `await` one command to
the outside world. Whatever happens between two of these steps is unobservable,
so another program may run at each of them. -/
inductive Program (Memory Command : Type) (Answer : Command → Type)
    (Error α : Type) : Type
  | finish (value : α)
  | fail (error : Error)
  | update (change : Memory → Memory)
      (resume : Memory → Program Memory Command Answer Error α)
  | await (command : Command)
      (resume : Except Error (Answer command) →
        Program Memory Command Answer Error α)

/-- The memory of the process together with the world outside it. -/
structure World (Memory Remote : Type) where
  memory : Memory
  remote : Remote

namespace Program

variable {Memory Command : Type} {Answer : Command → Type} {Error α β γ : Type}

/-- Run `program` and continue with its outcome, a value or a thrown error. -/
def andThen (program : Program Memory Command Answer Error α)
    (next : Except Error α → Program Memory Command Answer Error β) :
    Program Memory Command Answer Error β :=
  match program with
  | .finish value => next (.ok value)
  | .fail error => next (.error error)
  | .update change resume =>
      .update change fun memory => (resume memory).andThen next
  | .await command resume =>
      .await command fun answer => (resume answer).andThen next

def onValue (next : α → Program Memory Command Answer Error β) :
    Except Error α → Program Memory Command Answer Error β
  | .ok value => next value
  | .error error => .fail error

def onError (recover : Error → Program Memory Command Answer Error α) :
    Except Error α → Program Memory Command Answer Error α
  | .ok value => .finish value
  | .error error => recover error

instance : Monad (Program Memory Command Answer Error) where
  pure := .finish
  bind program next := program.andThen (onValue next)

instance : MonadExceptOf Error (Program Memory Command Answer Error) where
  throw := .fail
  tryCatch program recover := program.andThen (onError recover)

/-- `try { program } finally { cleanup }`. -/
def finallyDo (program : Program Memory Command Answer Error α)
    (cleanup : Program Memory Command Answer Error Unit) :
    Program Memory Command Answer Error α :=
  program.andThen fun outcome => cleanup.andThen (onValue fun _ =>
    match outcome with
    | .ok value => .finish value
    | .error error => .fail error)

/-- Issue one command; a rejection is thrown. -/
def request (command : Command) :
    Program Memory Command Answer Error (Answer command) :=
  .await command (onValue .finish)

/-- Read the shared memory. -/
def read : Program Memory Command Answer Error Memory :=
  .update id .finish

def modify (change : Memory → Memory) :
    Program Memory Command Answer Error Unit :=
  .update change fun _ => .finish ()

theorem andThen_assoc (program : Program Memory Command Answer Error α)
    (first : Except Error α → Program Memory Command Answer Error β)
    (second : Except Error β → Program Memory Command Answer Error γ) :
    (program.andThen first).andThen second =
      program.andThen fun outcome => (first outcome).andThen second := by
  induction program with
  | finish value => rfl
  | fail error => rfl
  | update change resume induction =>
      simp only [andThen, induction]
  | await command resume induction =>
      simp only [andThen, induction]

theorem bind_assoc (program : Program Memory Command Answer Error α)
    (first : α → Program Memory Command Answer Error β)
    (second : β → Program Memory Command Answer Error γ) :
    program >>= first >>= second = program >>= fun value => first value >>= second := by
  change (program.andThen (onValue first)).andThen (onValue second) = _
  rw [andThen_assoc]
  congr 1
  funext outcome
  cases outcome with
  | ok value => rfl
  | error error => rfl

/-! ## Uninterrupted executions -/

section Execution

variable {Remote : Type}

/-- How the outside world may answer a command, and what it is afterwards. -/
abbrev Service (Command : Type) (Answer : Command → Type) (Error Remote : Type) :=
  Remote → (command : Command) → Except Error (Answer command) → Remote → Prop

/-- `Runs service program start outcome final`: run without interference from
`start`, the program may end with `outcome` in the world `final`. -/
inductive Runs (service : Service Command Answer Error Remote) :
    Program Memory Command Answer Error α → World Memory Remote →
      Except Error α → World Memory Remote → Prop
  | finish (value : α) (world) : Runs service (.finish value) world (.ok value) world
  | fail (error : Error) (world) : Runs service (.fail error) world (.error error) world
  | update {change resume world outcome final} :
      Runs service (resume world.memory) ⟨change world.memory, world.remote⟩
        outcome final →
      Runs service (.update change resume) world outcome final
  | await {command resume world answer remote outcome final} :
      service world.remote command answer remote →
      Runs service (resume answer) ⟨world.memory, remote⟩ outcome final →
      Runs service (.await command resume) world outcome final

/-- Run a program against answers that are computed, each with the world it is
given in. Whatever others do meanwhile is part of that world. -/
def run (answer : World Memory Remote → (command : Command) →
      Except Error (Answer command) × World Memory Remote) :
    Program Memory Command Answer Error α → World Memory Remote →
      Except Error α × World Memory Remote
  | .finish value, world => (.ok value, world)
  | .fail error, world => (.error error, world)
  | .update change resume, world =>
      run answer (resume world.memory) ⟨change world.memory, world.remote⟩
  | .await command resume, world =>
      run answer (resume (answer world command).1) (answer world command).2

/-- A computed run without interference is one of the executions of every
service that allows the computed answers. -/
theorem runs_run {service : Service Command Answer Error Remote}
    (answer : World Memory Remote → (command : Command) →
      Except Error (Answer command) × World Memory Remote)
    (alone : ∀ world command, (answer world command).2.memory = world.memory)
    (allowed : ∀ world command, service world.remote command (answer world command).1
      (answer world command).2.remote)
    (program : Program Memory Command Answer Error α) (world : World Memory Remote) :
    Runs service program world (run answer program world).1 (run answer program world).2 := by
  induction program generalizing world with
  | finish value => exact .finish value world
  | fail error => exact .fail error world
  | update change resume induction =>
      exact .update (induction world.memory ⟨change world.memory, world.remote⟩)
  | await command resume induction =>
      have rest := induction (answer world command).1 (answer world command).2
      have same : (⟨world.memory, (answer world command).2.remote⟩ : World Memory Remote) =
          (answer world command).2 := by rw [← alone world command]
      rw [← same] at rest
      have executed := Runs.await (allowed world command) rest
      rw [same] at executed
      exact executed

theorem run_andThen (answer : World Memory Remote → (command : Command) →
      Except Error (Answer command) × World Memory Remote)
    (program : Program Memory Command Answer Error α)
    (next : Except Error α → Program Memory Command Answer Error β)
    (world : World Memory Remote) :
    run answer (program.andThen next) world =
      run answer (next (run answer program world).1) (run answer program world).2 := by
  induction program generalizing world with
  | finish value => rfl
  | fail error => rfl
  | update change resume induction => exact induction _ _
  | await command resume induction => exact induction _ _

/-- One step of a program; a program that has ended stays as it is. -/
def step (answer : World Memory Remote → (command : Command) →
      Except Error (Answer command) × World Memory Remote) :
    Program Memory Command Answer Error α → World Memory Remote →
      Program Memory Command Answer Error α × World Memory Remote
  | .finish value, world => (.finish value, world)
  | .fail error, world => (.fail error, world)
  | .update change resume, world =>
      (resume world.memory, ⟨change world.memory, world.remote⟩)
  | .await command resume, world =>
      (resume (answer world command).1, (answer world command).2)

section Computed

variable (answer : World Memory Remote → (command : Command) →
  Except Error (Answer command) × World Memory Remote) (world : World Memory Remote)

@[simp] theorem run_pure (value : α) :
    run answer (pure value) world = (.ok value, world) := rfl

@[simp] theorem run_throw (error : Error) :
    run answer (throw error : Program Memory Command Answer Error α) world =
      (.error error, world) := rfl

theorem run_bind (program : Program Memory Command Answer Error α)
    (next : α → Program Memory Command Answer Error β) :
    run answer (program >>= next) world =
      match run answer program world with
      | (.ok value, reached) => run answer (next value) reached
      | (.error error, reached) => (.error error, reached) := by
  change run answer (program.andThen (onValue next)) world = _
  rw [run_andThen]
  rcases run answer program world with ⟨outcome, reached⟩
  cases outcome <;> rfl

theorem run_tryCatch (program : Program Memory Command Answer Error α)
    (recover : Error → Program Memory Command Answer Error α) :
    run answer (tryCatch program recover) world =
      match run answer program world with
      | (.ok value, reached) => (.ok value, reached)
      | (.error error, reached) => run answer (recover error) reached := by
  change run answer (program.andThen (onError recover)) world = _
  rw [run_andThen]
  rcases run answer program world with ⟨outcome, reached⟩
  cases outcome <;> rfl

/-- What is done last leaves the outcome. -/
theorem run_finallyDo_modify (program : Program Memory Command Answer Error α)
    (change : Memory → Memory) :
    run answer (program.finallyDo (modify change)) world =
      ((run answer program world).1,
        ⟨change (run answer program world).2.memory, (run answer program world).2.remote⟩) := by
  rw [finallyDo, run_andThen]
  cases (run answer program world).1 with
  | ok value => rfl
  | error error => rfl

@[simp] theorem run_read :
    run answer (read : Program Memory Command Answer Error Memory) world =
      (.ok world.memory, world) := rfl

@[simp] theorem run_modify (change : Memory → Memory) :
    run answer (modify change : Program Memory Command Answer Error Unit) world =
      (.ok (), ⟨change world.memory, world.remote⟩) := rfl

theorem run_request (command : Command) :
    run answer (request command : Program Memory Command Answer Error _) world =
      answer world command := by
  simp only [request, run]
  rcases answer world command with ⟨outcome, reached⟩
  cases outcome <;> rfl

end Computed

end Execution

/-! ## What a program can do -/

/-- Every access to memory the program can ever make satisfies `access`, and
every command it can issue `issue`. -/
def Within (access : (Memory → Memory) → Prop) (issue : Command → Prop) :
    Program Memory Command Answer Error α → Prop
  | .finish _ => True
  | .fail _ => True
  | .update change resume => access change ∧ ∀ memory, Within access issue (resume memory)
  | .await command resume => issue command ∧ ∀ answer, Within access issue (resume answer)

section Within

variable {access : (Memory → Memory) → Prop} {issue : Command → Prop}

theorem within_andThen {program : Program Memory Command Answer Error α}
    {next : Except Error α → Program Memory Command Answer Error β}
    (first : program.Within access issue)
    (rest : ∀ outcome, (next outcome).Within access issue) :
    (program.andThen next).Within access issue := by
  induction program with
  | finish value => exact rest _
  | fail error => exact rest _
  | update change resume induction =>
      exact ⟨first.1, fun memory => induction memory (first.2 memory)⟩
  | await command resume induction =>
      exact ⟨first.1, fun answer => induction answer (first.2 answer)⟩

theorem within_bind {program : Program Memory Command Answer Error α}
    {next : α → Program Memory Command Answer Error β}
    (first : program.Within access issue)
    (rest : ∀ value, (next value).Within access issue) :
    (program >>= next).Within access issue :=
  within_andThen first fun
    | .ok value => rest value
    | .error _ => trivial

theorem within_tryCatch {program : Program Memory Command Answer Error α}
    {recover : Error → Program Memory Command Answer Error α}
    (first : program.Within access issue)
    (rest : ∀ error, (recover error).Within access issue) :
    (tryCatch program recover).Within access issue :=
  within_andThen first fun
    | .ok _ => trivial
    | .error error => rest error

theorem within_finallyDo {program : Program Memory Command Answer Error α}
    {cleanup : Program Memory Command Answer Error Unit}
    (first : program.Within access issue) (last : cleanup.Within access issue) :
    (program.finallyDo cleanup).Within access issue := by
  refine within_andThen first fun outcome => within_andThen last fun done => ?_
  cases done with
  | error error => trivial
  | ok value => cases outcome <;> trivial

theorem within_pure (value : α) :
    (pure value : Program Memory Command Answer Error α).Within access issue := trivial

theorem within_throw (error : Error) :
    (throw error : Program Memory Command Answer Error α).Within access issue := trivial

theorem within_request {command : Command} (issued : issue command) :
    (request command : Program Memory Command Answer Error _).Within access issue :=
  ⟨issued, fun answer => by cases answer <;> trivial⟩

theorem within_read (accessed : access id) :
    (read : Program Memory Command Answer Error Memory).Within access issue :=
  ⟨accessed, fun _ => trivial⟩

theorem within_modify {change : Memory → Memory} (accessed : access change) :
    (modify change : Program Memory Command Answer Error Unit).Within access issue :=
  ⟨accessed, fun _ => trivial⟩

theorem Within.step {Remote : Type} {program : Program Memory Command Answer Error α}
    (within : program.Within access issue)
    (answer : World Memory Remote → (command : Command) →
      Except Error (Answer command) × World Memory Remote) (world : World Memory Remote) :
    (program.step answer world).1.Within access issue := by
  cases program with
  | finish value => trivial
  | fail error => trivial
  | update change resume => exact within.2 world.memory
  | await command resume => exact within.2 _

theorem Within.mono {program : Program Memory Command Answer Error α}
    {weakerAccess : (Memory → Memory) → Prop} {weakerIssue : Command → Prop}
    (within : program.Within access issue)
    (accesses : ∀ change, access change → weakerAccess change)
    (issues : ∀ command, issue command → weakerIssue command) :
    program.Within weakerAccess weakerIssue := by
  induction program with
  | finish value => trivial
  | fail error => trivial
  | update change resume induction =>
      exact ⟨accesses _ within.1, fun memory => induction memory (within.2 memory)⟩
  | await command resume induction =>
      exact ⟨issues _ within.1, fun answer => induction answer (within.2 answer)⟩

end Within

end Program

end DriveWebdav
