import DriveWebdav.Foundation.Program

/-! # Programs under interference

What a program ensures when other programs, and the outside world itself, may
act between any two of its steps. Each program relies on what the others leave
alone and guarantees the same to them. -/

namespace DriveWebdav

/-- The terms under which one program runs: what it may assume of the steps
taken by others, what its own accesses to memory must leave true, and which
commands it may issue in which worlds. -/
structure Rules (Memory Command : Type) (Answer : Command → Type)
    (Error Remote : Type) where
  service : Program.Service Command Answer Error Remote
  invariant : World Memory Remote → Prop
  interference : World Memory Remote → World Memory Remote → Prop
  guarantee : World Memory Remote → World Memory Remote → Prop
  permits : World Memory Remote → Command → Prop
  interference_refl : ∀ world, interference world world
  interference_trans : ∀ first second third,
    interference first second → interference second third → interference first third

namespace Rules

variable {Memory Command : Type} {Answer : Command → Type}
  {Error Remote α β : Type}

/-- Started at `world` or at any world interference makes of it, the program
keeps to the rules at every step, and `post` holds when it ends. -/
def Ensures (rules : Rules Memory Command Answer Error Remote) :
    Program Memory Command Answer Error α →
      (Except Error α → World Memory Remote → Prop) → World Memory Remote → Prop
  | .finish value, post, world => post (.ok value) world
  | .fail error, post, world => post (.error error) world
  | .update change resume, post, world =>
      ∀ now, rules.invariant now → rules.interference world now →
        rules.guarantee now ⟨change now.memory, now.remote⟩ ∧
          Ensures rules (resume now.memory) post ⟨change now.memory, now.remote⟩
  | .await command resume, post, world =>
      ∀ now, rules.invariant now → rules.interference world now →
        rules.permits now command ∧
          ∀ answer remote, rules.service now.remote command answer remote →
            Ensures rules (resume answer) post ⟨now.memory, remote⟩

variable {rules : Rules Memory Command Answer Error Remote}
  {post weaker : Except Error α → World Memory Remote → Prop}
  {world : World Memory Remote}

@[simp] theorem ensures_finish (value : α) :
    rules.Ensures (.finish value) post world ↔ post (.ok value) world := Iff.rfl

@[simp] theorem ensures_pure (value : α) :
    rules.Ensures (pure value) post world ↔ post (.ok value) world := Iff.rfl

@[simp] theorem ensures_fail (error : Error) :
    rules.Ensures (.fail error) post world ↔ post (.error error) world := Iff.rfl

@[simp] theorem ensures_throw (error : Error) :
    rules.Ensures (throw error : Program Memory Command Answer Error α) post world ↔
      post (.error error) world := Iff.rfl

theorem ensures_update {change : Memory → Memory}
    {resume : Memory → Program Memory Command Answer Error α} :
    rules.Ensures (.update change resume) post world ↔
      ∀ now, rules.invariant now → rules.interference world now →
        rules.guarantee now ⟨change now.memory, now.remote⟩ ∧
          rules.Ensures (resume now.memory) post ⟨change now.memory, now.remote⟩ := Iff.rfl

theorem ensures_read {post : Except Error Memory → World Memory Remote → Prop} :
    rules.Ensures (Program.read : Program Memory Command Answer Error Memory) post world ↔
      ∀ now, rules.invariant now → rules.interference world now →
        rules.guarantee now now ∧ post (.ok now.memory) now := Iff.rfl

theorem ensures_modify {change : Memory → Memory}
    {post : Except Error Unit → World Memory Remote → Prop} :
    rules.Ensures (Program.modify change : Program Memory Command Answer Error Unit) post world ↔
      ∀ now, rules.invariant now → rules.interference world now →
        rules.guarantee now ⟨change now.memory, now.remote⟩ ∧
          post (.ok ()) ⟨change now.memory, now.remote⟩ := Iff.rfl

theorem ensures_request {command : Command}
    {post : Except Error (Answer command) → World Memory Remote → Prop} :
    rules.Ensures (Program.request command : Program Memory Command Answer Error _) post world ↔
      ∀ now, rules.invariant now → rules.interference world now →
        rules.permits now command ∧
          ∀ answer remote, rules.service now.remote command answer remote →
            post answer ⟨now.memory, remote⟩ := by
  constructor
  · intro ensures now holds reached
    refine ⟨(ensures now holds reached).1, fun answer remote answered => ?_⟩
    have ended := (ensures now holds reached).2 answer remote answered
    cases answer <;> exact ended
  · intro ensures now holds reached
    refine ⟨(ensures now holds reached).1, fun answer remote answered => ?_⟩
    have ended := (ensures now holds reached).2 answer remote answered
    cases answer <;> exact ended

theorem Ensures.mono {program : Program Memory Command Answer Error α}
    (ensures : rules.Ensures program post world)
    (implies : ∀ outcome final, post outcome final → weaker outcome final) :
    rules.Ensures program weaker world := by
  induction program generalizing world with
  | finish value => exact implies _ _ ensures
  | fail error => exact implies _ _ ensures
  | update change resume induction =>
      intro now holds reached
      exact ⟨(ensures now holds reached).1,
        induction now.memory (ensures now holds reached).2⟩
  | await command resume induction =>
      intro now holds reached
      exact ⟨(ensures now holds reached).1, fun answer remote answered =>
        induction answer ((ensures now holds reached).2 answer remote answered)⟩

theorem ensures_andThen {program : Program Memory Command Answer Error α}
    {next : Except Error α → Program Memory Command Answer Error β}
    {post : Except Error β → World Memory Remote → Prop} :
    rules.Ensures (program.andThen next) post world ↔
      rules.Ensures program
        (fun outcome => rules.Ensures (next outcome) post) world := by
  induction program generalizing world with
  | finish value => rfl
  | fail error => rfl
  | update change resume induction =>
      simp only [Program.andThen, Ensures, induction]
  | await command resume induction =>
      simp only [Program.andThen, Ensures, induction]

theorem ensures_bind {program : Program Memory Command Answer Error α}
    {next : α → Program Memory Command Answer Error β}
    {post : Except Error β → World Memory Remote → Prop} :
    rules.Ensures (program >>= next) post world ↔
      rules.Ensures program (fun
        | .ok value => rules.Ensures (next value) post
        | .error error => post (.error error)) world := by
  change rules.Ensures (program.andThen (Program.onValue next)) post world ↔ _
  rw [ensures_andThen]
  constructor <;> intro ensures <;> refine ensures.mono fun outcome final holds => ?_ <;>
    cases outcome <;> exact holds

theorem ensures_tryCatch {program : Program Memory Command Answer Error α}
    {recover : Error → Program Memory Command Answer Error α} :
    rules.Ensures (tryCatch program recover) post world ↔
      rules.Ensures program (fun
        | .ok value => post (.ok value)
        | .error error => rules.Ensures (recover error) post) world := by
  change rules.Ensures (program.andThen (Program.onError recover)) post world ↔ _
  rw [ensures_andThen]
  constructor <;> intro ensures <;> refine ensures.mono fun outcome final holds => ?_ <;>
    cases outcome <;> exact holds

/-- The rule for `andThen` and everything built from it: establish a middle
condition, then continue from it. -/
theorem Ensures.andThen {program : Program Memory Command Answer Error α}
    {next : Except Error α → Program Memory Command Answer Error β}
    {middle : Except Error α → World Memory Remote → Prop}
    {post : Except Error β → World Memory Remote → Prop}
    (first : rules.Ensures program middle world)
    (rest : ∀ outcome reached, middle outcome reached →
      rules.Ensures (next outcome) post reached) :
    rules.Ensures (program.andThen next) post world :=
  ensures_andThen.mpr (first.mono rest)

@[simp] theorem ensures_onValue_ok {next : α → Program Memory Command Answer Error β}
    {post : Except Error β → World Memory Remote → Prop} (value : α) :
    rules.Ensures (Program.onValue next (.ok value)) post world ↔
      rules.Ensures (next value) post world := Iff.rfl

@[simp] theorem ensures_onValue_error {next : α → Program Memory Command Answer Error β}
    {post : Except Error β → World Memory Remote → Prop} (error : Error) :
    rules.Ensures (Program.onValue next (.error error)) post world ↔
      post (.error error) world := Iff.rfl

/-- The rule for a `do` step: only a value continues, a throw is passed on. -/
theorem Ensures.bind {program : Program Memory Command Answer Error α}
    {next : α → Program Memory Command Answer Error β}
    {middle : Except Error α → World Memory Remote → Prop}
    {post : Except Error β → World Memory Remote → Prop}
    (first : rules.Ensures program middle world)
    (thrown : ∀ error reached, middle (.error error) reached → post (.error error) reached)
    (rest : ∀ value reached, middle (.ok value) reached →
      rules.Ensures (next value) post reached) :
    rules.Ensures (program >>= next) post world := by
  apply first.andThen
  intro outcome reached holds
  cases outcome with
  | ok value => exact rest value reached holds
  | error error => exact thrown error reached holds

/-- The rule for `try`/`catch`. -/
theorem Ensures.tryCatch {program : Program Memory Command Answer Error α}
    {recover : Error → Program Memory Command Answer Error α}
    {middle : Except Error α → World Memory Remote → Prop}
    (first : rules.Ensures program middle world)
    (kept : ∀ value reached, middle (.ok value) reached → post (.ok value) reached)
    (rest : ∀ error reached, middle (.error error) reached →
      rules.Ensures (recover error) post reached) :
    rules.Ensures (tryCatch program recover) post world := by
  apply first.andThen
  intro outcome reached holds
  cases outcome with
  | ok value => exact kept value reached holds
  | error error => exact rest error reached holds

/-- The rule for `try`/`finally` where the last access to memory cannot fail. -/
theorem Ensures.finallyModify {program : Program Memory Command Answer Error α}
    {change : Memory → Memory} {middle : Except Error α → World Memory Remote → Prop}
    (first : rules.Ensures program middle world)
    (last : ∀ outcome reached now, middle outcome reached → rules.invariant now →
      rules.interference reached now → rules.guarantee now ⟨change now.memory, now.remote⟩ ∧
        post outcome ⟨change now.memory, now.remote⟩) :
    rules.Ensures (program.finallyDo (Program.modify change)) post world := by
  apply first.andThen
  intro outcome reached held now holds between
  have kept := last outcome reached now held holds between
  refine ⟨kept.1, ?_⟩
  cases outcome with
  | ok value => exact kept.2
  | error error => exact kept.2

/-- A program that has not started its next step is not disturbed by what it
already tolerates. -/
theorem Ensures.of_interference {program : Program Memory Command Answer Error α}
    {disturbed : World Memory Remote}
    (ensures : rules.Ensures program post world)
    (stable : ∀ outcome, post outcome world → post outcome disturbed)
    (between : rules.interference world disturbed) :
    rules.Ensures program post disturbed := by
  cases program with
  | finish value => exact stable _ ensures
  | fail error => exact stable _ ensures
  | update change resume =>
      intro now holds reached
      exact ensures now holds (rules.interference_trans _ _ _ between reached)
  | await command resume =>
      intro now holds reached
      exact ensures now holds (rules.interference_trans _ _ _ between reached)

/-- An uninterrupted execution is one that the rules speak about. -/
theorem Ensures.of_runs {program : Program Memory Command Answer Error α}
    {outcome : Except Error α} {final : World Memory Remote}
    (ensures : rules.Ensures program post world) (invariant : ∀ world, rules.invariant world)
    (runs : program.Runs rules.service world outcome final) : post outcome final := by
  induction runs with
  | finish value world => exact ensures
  | fail error world => exact ensures
  | update _ induction =>
      exact induction (ensures _ (invariant _) (rules.interference_refl _)).2
  | await answered _ induction =>
      exact induction ((ensures _ (invariant _) (rules.interference_refl _)).2 _ _ answered)

/-! ## Two sets of rules -/

/-- What a program ensures on two sets of rules it ensures together on any rules that keep to
both, as long as `joint` holds: it is left alone by others and by answers, and follows from what
both sets of rules guarantee. -/
theorem Ensures.both {first second : Rules Memory Command Answer Error Remote}
    {program : Program Memory Command Answer Error α}
    {other : Except Error α → World Memory Remote → Prop}
    (joint : World Memory Remote → Prop)
    (between : ∀ world now, joint world → rules.interference world now → joint now ∧
      (first.invariant now ∧ first.interference world now) ∧
        second.invariant now ∧ second.interference world now)
    (accesses : ∀ now changed, joint now → first.guarantee now changed →
      second.guarantee now changed → rules.guarantee now changed ∧ joint changed)
    (commands : ∀ now command, joint now → first.permits now command →
      second.permits now command → rules.permits now command ∧
        ∀ answer remote, rules.service now.remote command answer remote →
          first.service now.remote command answer remote ∧
            second.service now.remote command answer remote ∧ joint ⟨now.memory, remote⟩)
    (holds : joint world) (one : first.Ensures program post world)
    (two : second.Ensures program other world) :
    rules.Ensures program
      (fun outcome final => post outcome final ∧ other outcome final ∧ joint final) world := by
  induction program generalizing world with
  | finish value => exact ⟨one, two, holds⟩
  | fail error => exact ⟨one, two, holds⟩
  | update change resume induction =>
      intro now _ acted
      rcases between world now holds acted with ⟨still, onFirst, onSecond⟩
      have one := one now onFirst.1 onFirst.2
      have two := two now onSecond.1 onSecond.2
      have kept := accesses now _ still one.1 two.1
      exact ⟨kept.1, induction _ kept.2 one.2 two.2⟩
  | await command resume induction =>
      intro now _ acted
      rcases between world now holds acted with ⟨still, onFirst, onSecond⟩
      have one := one now onFirst.1 onFirst.2
      have two := two now onSecond.1 onSecond.2
      have kept := commands now command still one.1 two.1
      refine ⟨kept.1, fun answer remote answered => ?_⟩
      rcases kept.2 answer remote answered with ⟨answeredFirst, answeredSecond, after⟩
      exact induction answer after (one.2 answer remote answeredFirst)
        (two.2 answer remote answeredSecond)

theorem Ensures.and {program : Program Memory Command Answer Error α}
    (one : rules.Ensures program post world) (two : rules.Ensures program weaker world) :
    rules.Ensures program (fun outcome final => post outcome final ∧ weaker outcome final)
      world := by
  induction program generalizing world with
  | finish value => exact ⟨one, two⟩
  | fail error => exact ⟨one, two⟩
  | update change resume induction =>
      intro now holds acted
      exact ⟨(one now holds acted).1, induction _ (one now holds acted).2 (two now holds acted).2⟩
  | await command resume induction =>
      intro now holds acted
      refine ⟨(one now holds acted).1, fun answer remote answered => ?_⟩
      exact induction answer ((one now holds acted).2 answer remote answered)
        ((two now holds acted).2 answer remote answered)

/-! ## Disturbed executions -/

/-- An execution under the rules: before each of its steps others may have acted. -/
inductive Runs (rules : Rules Memory Command Answer Error Remote) :
    Program Memory Command Answer Error α → World Memory Remote →
      Except Error α → World Memory Remote → Prop
  | finish (value : α) (world) : Runs rules (.finish value) world (.ok value) world
  | fail (error : Error) (world) : Runs rules (.fail error) world (.error error) world
  | update {change resume world now outcome final} (between : rules.interference world now) :
      Runs rules (resume now.memory) ⟨change now.memory, now.remote⟩ outcome final →
      Runs rules (.update change resume) world outcome final
  | await {command resume world now answer remote outcome final}
      (between : rules.interference world now) :
      rules.service now.remote command answer remote →
      Runs rules (resume answer) ⟨now.memory, remote⟩ outcome final →
      Runs rules (.await command resume) world outcome final

theorem Runs.of_undisturbed {program : Program Memory Command Answer Error α}
    {outcome : Except Error α} {final : World Memory Remote}
    (runs : program.Runs rules.service world outcome final) :
    rules.Runs program world outcome final := by
  induction runs with
  | finish value world => exact .finish value world
  | fail error world => exact .fail error world
  | update _ induction => exact .update (rules.interference_refl _) induction
  | await answered _ induction => exact .await (rules.interference_refl _) answered induction

/-- A run against computed answers is an execution, where the service allows the answers in every
world that `holds`, and they keep it so. -/
theorem runs_of_computed (answer : World Memory Remote → (command : Command) →
      Except Error (Answer command) × World Memory Remote) (holds : Remote → Prop)
    (alone : ∀ world command, (answer world command).2.memory = world.memory)
    (allowed : ∀ world command, holds world.remote → holds (answer world command).2.remote ∧
      rules.service world.remote command (answer world command).1 (answer world command).2.remote)
    (program : Program Memory Command Answer Error α) (start : holds world.remote) :
    rules.Runs program world (Program.run answer program world).1
      (Program.run answer program world).2 := by
  induction program generalizing world with
  | finish value => exact .finish value world
  | fail error => exact .fail error world
  | update change resume induction =>
      exact .update (rules.interference_refl _) (induction world.memory start)
  | await command resume induction =>
      rcases allowed world command start with ⟨kept, answered⟩
      have rest := induction (answer world command).1 kept
      have same : (answer world command).2 =
          ⟨world.memory, (answer world command).2.remote⟩ := by rw [← alone world command]
      rw [same] at rest
      have ran := Runs.await (rules.interference_refl world) answered rest
      rw [← same] at ran
      exact ran

/-- What a program ensures holds however it was disturbed. -/
theorem Ensures.of_disturbed {program : Program Memory Command Answer Error α}
    {outcome : Except Error α} {final : World Memory Remote}
    (ensures : rules.Ensures program post world) (invariant : ∀ world, rules.invariant world)
    (runs : rules.Runs program world outcome final) : post outcome final := by
  induction runs with
  | finish value world => exact ensures
  | fail error world => exact ensures
  | update between _ induction => exact induction (ensures _ (invariant _) between).2
  | await between answered _ induction =>
      exact induction ((ensures _ (invariant _) between).2 _ _ answered)

/-! ## Running alone -/

/-- The rules of a program that nothing interferes with. -/
def alone (service : Program.Service Command Answer Error Remote) :
    Rules Memory Command Answer Error Remote where
  service := service
  invariant _ := True
  interference := Eq
  guarantee _ _ := True
  permits _ _ := True
  interference_refl _ := rfl
  interference_trans _ _ _ := Eq.trans

variable {service : Program.Service Command Answer Error Remote}

@[simp] theorem ensures_alone_update {change : Memory → Memory}
    {resume : Memory → Program Memory Command Answer Error α} :
    (alone service).Ensures (.update change resume) post world ↔
      (alone service).Ensures (resume world.memory) post
        ⟨change world.memory, world.remote⟩ := by
  simp [Ensures, alone]

@[simp] theorem ensures_alone_await {command : Command}
    {resume : Except Error (Answer command) → Program Memory Command Answer Error α} :
    (alone service).Ensures (.await command resume) post world ↔
      ∀ answer remote, service world.remote command answer remote →
        (alone service).Ensures (resume answer) post ⟨world.memory, remote⟩ := by
  simp [Ensures, alone]

/-- Alone, what a program ensures is exactly what holds after every execution. -/
theorem ensures_alone_iff_runs {program : Program Memory Command Answer Error α} :
    (alone service).Ensures program post world ↔
      ∀ outcome final, program.Runs service world outcome final → post outcome final := by
  constructor
  · intro ensures outcome final runs
    induction runs with
    | finish value world => exact ensures
    | fail error world => exact ensures
    | update _ induction => exact induction (ensures_alone_update.mp ensures)
    | await answered _ induction =>
        exact induction (ensures_alone_await.mp ensures _ _ answered)
  · intro always
    induction program generalizing world with
    | finish value => exact always _ _ (.finish value world)
    | fail error => exact always _ _ (.fail error world)
    | update change resume induction =>
        rw [ensures_alone_update]
        exact induction _ fun outcome final runs => always outcome final (.update runs)
    | await command resume induction =>
        rw [ensures_alone_await]
        intro answer remote answered
        exact induction _ fun outcome final runs =>
          always outcome final (.await answered runs)

end Rules

end DriveWebdav
