import Mathlib.Data.List.Induction

/-! # Machines

A machine takes events one after another. An event that cannot happen in a state
has no successor there. -/

namespace DriveWebdav

abbrev Machine (State Event : Type) := State → Event → Option State

namespace Machine

variable {State Event : Type} {machine : Machine State Event}
  {start reached next final : State} {event : Event} {events later : List Event}

/-- The state after a list of events, if all of them can happen. -/
def play (machine : Machine State Event) : State → List Event → Option State
  | state, [] => some state
  | state, event :: rest => (machine state event).bind fun next => play machine next rest

@[simp] theorem play_nil (state : State) : machine.play state [] = some state := rfl

theorem play_append (start : State) (events later : List Event) :
    machine.play start (events ++ later) =
      (machine.play start events).bind fun reached => machine.play reached later := by
  induction events generalizing start with
  | nil => rfl
  | cons event rest induction =>
      simp only [List.cons_append, play, Option.bind_assoc]
      congr 1
      funext next
      exact induction next

theorem play_concat_eq_some :
    machine.play start (events ++ [event]) = some final ↔
      ∃ reached, machine.play start events = some reached ∧
        machine reached event = some final := by
  simp [play_append, play, Option.bind_eq_some_iff]

theorem play_append_eq_some :
    machine.play start (events ++ later) = some final ↔
      ∃ reached, machine.play start events = some reached ∧
        machine.play reached later = some final := by
  simp [play_append, Option.bind_eq_some_iff]

/-- What holds at the start and is kept by every event holds after every run. -/
theorem run_induct (holds : List Event → State → Prop) (begins : holds [] start)
    (steps : ∀ events reached event next, machine.play start events = some reached →
      holds events reached → machine reached event = some next →
      holds (events ++ [event]) next)
    (ran : machine.play start events = some final) : holds events final := by
  induction events using List.reverseRecOn generalizing final with
  | nil =>
      cases ran
      exact begins
  | append_singleton events event induction =>
      rcases play_concat_eq_some.mp ran with ⟨reached, before, stepped⟩
      exact steps events reached event final before (induction before) stepped

/-- The same for what does not speak of the events. -/
theorem invariant (holds : State → Prop) (begins : holds start)
    (steps : ∀ reached event next, holds reached → machine reached event = some next →
      holds next) (ran : machine.play start events = some final) : holds final :=
  run_induct (fun _ => holds) begins
    (fun _ reached event next _ held stepped => steps reached event next held stepped) ran

/-- Every event of a run happens in a state that allows it. -/
def Obeys (machine : Machine State Event) (allowed : State → Event → Prop) (start : State)
    (events : List Event) : Prop :=
  ∀ before event after reached, events = before ++ event :: after →
    machine.play start before = some reached → allowed reached event

theorem Obeys.left {allowed : State → Event → Prop}
    (obeys : machine.Obeys allowed start (events ++ later)) :
    machine.Obeys allowed start events := by
  intro opening next rest middle split opened
  apply obeys opening next (rest ++ later) middle
  · rw [split, List.append_assoc, List.cons_append]
  · exact opened

theorem Obeys.last {allowed : State → Event → Prop}
    (obeys : machine.Obeys allowed start (events ++ [event]))
    (ran : machine.play start events = some reached) : allowed reached event :=
  obeys events event [] reached rfl ran

theorem obeys_nil (allowed : State → Event → Prop) : machine.Obeys allowed start [] := by
  intro before event after reached equal _
  simp at equal

theorem Obeys.cons {allowed : State → Event → Prop} (first : allowed start event)
    (stepped : machine start event = some next) (rest : machine.Obeys allowed next events) :
    machine.Obeys allowed start (event :: events) := by
  intro before other after reached equal ran
  cases before with
  | nil =>
      cases equal
      cases ran
      exact first
  | cons opening before =>
      cases equal
      simp only [play, stepped, Option.bind_some] at ran
      exact rest before other after reached rfl ran

/-- What holds at the start and is kept by every allowed event holds after every
run that keeps to them. -/
theorem invariant_of_obeys {allowed : State → Event → Prop} (holds : State → Prop)
    (begins : holds start)
    (steps : ∀ reached event next, holds reached → allowed reached event →
      machine reached event = some next → holds next)
    (ran : machine.play start events = some final)
    (obeys : machine.Obeys allowed start events) : holds final := by
  induction events using List.reverseRecOn generalizing final with
  | nil =>
      cases ran
      exact begins
  | append_singleton events event induction =>
      rcases play_concat_eq_some.mp ran with ⟨reached, before, stepped⟩
      apply steps reached event final (induction before obeys.left)
      · exact obeys.last before
      · exact stepped

/-- What holds in every state that a run passes, its end included. -/
def Throughout (machine : Machine State Event) (holds : State → Prop) (start : State)
    (events : List Event) : Prop :=
  ∀ before after reached, events = before ++ after →
    machine.play start before = some reached → holds reached

/-- Where an event keeps `holds` exactly if it is allowed, a run keeps it exactly if
all its events are. -/
theorem throughout_iff_obeys {holds : State → Prop} {allowed : State → Event → Prop}
    (kept : State → Prop) (keptAtStart : kept start) (begins : holds start)
    (keeps : ∀ reached event next, kept reached → machine reached event = some next → kept next)
    (steps : ∀ reached event next, kept reached → holds reached →
      machine reached event = some next → (holds next ↔ allowed reached event))
    (ran : machine.play start events = some final) :
    machine.Throughout holds start events ↔ machine.Obeys allowed start events := by
  constructor
  · intro throughout before event after reached split begun
    subst split
    rcases play_append_eq_some.mp ran with ⟨middle, opened, rest⟩
    cases opened.symm.trans begun
    rcases Option.bind_eq_some_iff.mp rest with ⟨next, stepped, _⟩
    have keptHere := invariant kept keptAtStart keeps begun
    have holdsHere := throughout before (event :: after) reached rfl begun
    apply (steps reached event next keptHere holdsHere stepped).mp
    apply throughout (before ++ [event]) after next (by simp)
    exact play_concat_eq_some.mpr ⟨reached, begun, stepped⟩
  · intro obeys before after reached split begun
    subst split
    have both : kept reached ∧ holds reached := by
      apply invariant_of_obeys (fun state => kept state ∧ holds state) ⟨keptAtStart, begins⟩ _
        begun obeys.left
      intro state event next held permitted stepped
      exact ⟨keeps state event next held.1 stepped,
        (steps state event next held.1 held.2 stepped).mpr permitted⟩
    exact both.2

end Machine

end DriveWebdav
