import DriveWebdav.Serve.Socket

/-! # Whose socket is unlinked

A process removes the socket at its path when it starts and when it leaves. It is
not to remove one that another process still listens on. -/

namespace DriveWebdav

namespace SocketWorld

/-- What a process unlinks next was not bound by another one that is alive. -/
def SparesLive (world : SocketWorld) (process : Nat) : Prop :=
  world.phase process = .unlinking ∨ world.phase process = .leaving →
    ∀ entry binder, world.path = some entry → entry.binder = some binder →
      binder ≠ process → (world.phase binder).isAlive = false

/-- A process removes or binds the socket once all that have bound it before have
exited. -/
def Alone (world : SocketWorld) : Event → Prop
  | .step process => world.phase process = .unlinking ∨ world.phase process = .binding →
      ∀ other, (world.phase other).isBound = false
  | _ => True

/-! ## Who has bound the socket -/

structure Sound (world : SocketWorld) : Prop where
  bound : ∀ entry binder, world.path = some entry → entry.binder = some binder →
    (world.phase binder).isBound = true ∨ world.phase binder = .gone
  single : ∀ first second, (world.phase first).isBound = true →
    (world.phase second).isBound = true → first = second

variable {dirs : Nat → Nat} {world next : SocketWorld} {process : Nat} {phase : ServePhase}

/-- A process goes on, bound if it was and not otherwise, or exits. -/
private def Goes (before after : ServePhase) : Prop :=
  (before ≠ .gone ∨ after = .gone) ∧ (after = .gone ∨ after.isBound = before.isBound)

private theorem Sound.go {path : Option SocketEntry} {locks : Nat → Option Nat} {nextInode : Nat}
    (sound : Sound world) (goes : Goes (world.phase process) phase)
    (kept : path = world.path ∨ path = none) :
    Sound ⟨path, Function.update world.phase process phase, locks, nextInode⟩ := by
  constructor
  · intro entry binder there bound
    rcases kept with same | absent
    · rw [same] at there
      by_cases self : binder = process
      · subst self
        simp only [Function.update_self]
        rcases goes.2 with gone | same
        · exact .inr gone
        · rcases sound.bound entry binder there bound with earlier | gone
          · exact .inl (same.trans earlier)
          · exact .inr (goes.1.resolve_left fun here => here gone)
      · simp only [Function.update_of_ne self]
        exact sound.bound entry binder there bound
    · exact nomatch absent.symm.trans there
  · have earlier : ∀ other, (Function.update world.phase process phase other).isBound = true →
        (world.phase other).isBound = true := by
      intro other bound
      by_cases self : other = process
      · subst self
        rw [Function.update_self] at bound
        rcases goes.2 with gone | same
        · rw [gone] at bound
          cases bound
        · exact same.symm.trans bound
      · rwa [Function.update_of_ne self] at bound
    exact fun first second one two =>
      sound.single first second (earlier first one) (earlier second two)

private theorem Sound.bind (sound : Sound world) (binding : world.phase process = .binding)
    (alone : ∀ other, (world.phase other).isBound = false) : Sound (world.bind process) := by
  unfold SocketWorld.bind
  split
  · apply sound.go _ (.inl rfl)
    rw [binding]
    exact ⟨.inl nofun, .inr rfl⟩
  · constructor
    · intro entry binder there bound
      cases there
      cases bound
      exact .inl (by simp [enter, ServePhase.isBound])
    · have only : ∀ other, ((world.enter process .securing).phase other).isBound = true →
          other = process := by
        intro other bound
        by_contra different
        simp only [enter, Function.update_of_ne different, alone other] at bound
        cases bound
      exact fun first second one two => (only first one).trans (only second two).symm

private theorem goes_of_eq {before after : ServePhase} (equal : world.phase process = before)
    (goes : Goes before after) : Goes (world.phase process) after := by
  rw [equal]
  exact goes

private theorem goes_check : Goes .checking world.check := by
  unfold check
  split
  · exact ⟨.inl nofun, .inr rfl⟩
  · exact ⟨.inl nofun, .inr rfl⟩

private theorem goes_inspect : Goes .inspecting world.inspect := by
  unfold inspect
  split
  · split
    · exact ⟨.inl nofun, .inr rfl⟩
    · exact ⟨.inl nofun, .inr rfl⟩
  · exact ⟨.inl nofun, .inr rfl⟩

private theorem goes_chmod : Goes .securing world.chmod := by
  unfold chmod
  split
  · exact ⟨.inl nofun, .inr rfl⟩
  · exact ⟨.inl nofun, .inr rfl⟩

private theorem goes_recordInode : Goes .recording world.recordInode := by
  unfold recordInode
  split
  · exact ⟨.inl nofun, .inr rfl⟩
  · exact ⟨.inl nofun, .inl rfl⟩

private theorem Sound.advance (sound : Sound world) (alone : world.Alone (.step process))
    (stepped : world.advance dirs process = some next) : Sound next := by
  unfold SocketWorld.advance at stepped
  split at stepped
  · next here =>
      cases stepped
      exact sound.go (goes_of_eq here goes_check) (.inl rfl)
  · next here =>
      cases stepped
      exact sound.go (goes_of_eq here goes_inspect) (.inl rfl)
  · next here =>
      cases stepped
      unfold unlinkStale
      split
      · exact sound.go (goes_of_eq here ⟨.inl nofun, .inr rfl⟩) (.inr rfl)
      · exact sound.go (goes_of_eq here ⟨.inl nofun, .inr rfl⟩) (.inl rfl)
  · next here =>
      cases stepped
      exact sound.bind here (alone (.inr here))
  · next here =>
      cases stepped
      exact sound.go (goes_of_eq here goes_chmod) (.inl rfl)
  · next here =>
      cases stepped
      exact sound.go (goes_of_eq here goes_recordInode) (.inl rfl)
  · next here =>
      cases stepped
      exact sound.go (goes_of_eq here ⟨.inl nofun, .inr rfl⟩) (.inl rfl)
  · next here =>
      cases stepped
      exact sound.go (goes_of_eq here ⟨.inl nofun, .inr rfl⟩) (.inl rfl)
  · next here =>
      cases stepped
      exact sound.go (goes_of_eq here ⟨.inl nofun, .inl rfl⟩) (.inr rfl)
  · next here =>
      cases stepped
      exact sound.go (goes_of_eq here ⟨.inl nofun, .inl rfl⟩) (.inl rfl)
  · cases stepped

private theorem Sound.step {event : Event} (sound : Sound world) (alone : world.Alone event)
    (stepped : machine dirs world event = some next) : Sound next := by
  cases event with
  | start process =>
      simp only [machine, Option.ite_none_right_eq_some] at stepped
      cases stepped.2
      exact sound.go (goes_of_eq stepped.1.1 ⟨.inl nofun, .inr rfl⟩) (.inl rfl)
  | step process => exact sound.advance alone stepped
  | tick process =>
      simp only [machine] at stepped
      split at stepped
      · next here =>
          cases stepped
          split
          · exact sound.go (goes_of_eq here ⟨.inl nofun, .inr rfl⟩) (.inl rfl)
          · exact sound
      · cases stepped
  | signal process =>
      simp only [machine] at stepped
      split at stepped
      · next here =>
          cases stepped
          exact sound.go (goes_of_eq here ⟨.inl nofun, .inr rfl⟩) (.inl rfl)
      · next here =>
          cases stepped
          exact sound.go (goes_of_eq here ⟨.inl nofun, .inl rfl⟩) (.inl rfl)
      · next here =>
          cases stepped
          exact sound.go (goes_of_eq here ⟨.inl nofun, .inl rfl⟩) (.inl rfl)
      · next here =>
          cases stepped
          exact sound.go (goes_of_eq here ⟨.inl nofun, .inl rfl⟩) (.inl rfl)
      · cases stepped
  | kill process =>
      simp only [machine, Option.ite_none_right_eq_some] at stepped
      cases stepped.2
      exact sound.go ⟨.inr rfl, .inl rfl⟩ (.inl rfl)
  | remove =>
      cases stepped
      exact ⟨nofun, sound.single⟩

private theorem sound_start (path : Option (Nat × Bool)) : Sound (start path) where
  bound entry binder there bound := by
    rcases Option.map_eq_some_iff.mp there with ⟨_, _, rfl⟩
    cases bound
  single _ _ bound := nomatch bound

private theorem not_alive_of_gone (gone : phase = .gone) : phase.isAlive = false := by
  rw [gone]
  rfl

private theorem Sound.sparesLive (sound : Sound world) (alone : world.Alone (.step process)) :
    world.SparesLive process := by
  intro unlinks entry binder there bound different
  rcases sound.bound entry binder there bound with live | gone
  · rcases unlinks with unlinking | leaving
    · rw [alone (.inl unlinking) binder] at live
      cases live
    · exact absurd (sound.single binder process live (by rw [leaving]; rfl)) different
  · exact not_alive_of_gone gone

/-- No step unlinks the socket of another live process, in every run in which the
processes do not overlap. -/
theorem sparesLive_of_alone {path : Option (Nat × Bool)} {events : List Event}
    {reached : SocketWorld} (ran : (machine dirs).play (start path) events = some reached)
    (alone : (machine dirs).Obeys Alone (start path) (events ++ [.step process])) :
    reached.SparesLive process := by
  have sound : Sound reached := by
    apply Machine.invariant_of_obeys Sound (sound_start path) _ ran alone.left
    exact fun _ _ _ sound allowed stepped => sound.step allowed stepped
  exact sound.sparesLive (alone.last ran)

/-! ## Starts and exits -/

/-- A process is started once all others have exited. -/
def Apart (world : SocketWorld) : Event → Prop
  | .start _ => ∀ other, (world.phase other).isAlive = false
  | _ => True

private theorem alive_of_enter {other : Nat} (alive : (world.phase process).isAlive = true)
    (lives : (Function.update world.phase process phase other).isAlive = true) :
    (world.phase other).isAlive = true := by
  by_cases self : other = process
  · rw [self]
    exact alive
  · rwa [Function.update_of_ne self] at lives

private theorem alive_of_advance {other : Nat} (stepped : world.advance dirs process = some next)
    (lives : (next.phase other).isAlive = true) : (world.phase other).isAlive = true := by
  unfold SocketWorld.advance at stepped
  split at stepped
  · next here =>
      cases stepped
      exact alive_of_enter (by rw [here]; rfl) lives
  · next here =>
      cases stepped
      exact alive_of_enter (by rw [here]; rfl) lives
  · next here =>
      cases stepped
      unfold unlinkStale at lives
      split at lives
      · exact alive_of_enter (by rw [here]; rfl) lives
      · exact alive_of_enter (by rw [here]; rfl) lives
  · next here =>
      cases stepped
      unfold SocketWorld.bind at lives
      split at lives
      · exact alive_of_enter (by rw [here]; rfl) lives
      · exact alive_of_enter (by rw [here]; rfl) lives
  · next here =>
      cases stepped
      exact alive_of_enter (by rw [here]; rfl) lives
  · next here =>
      cases stepped
      exact alive_of_enter (by rw [here]; rfl) lives
  · next here =>
      cases stepped
      exact alive_of_enter (by rw [here]; rfl) lives
  · next here =>
      cases stepped
      exact alive_of_enter (by rw [here]; rfl) lives
  · next here =>
      cases stepped
      exact alive_of_enter (by rw [here]; rfl) lives
  · next here =>
      cases stepped
      exact alive_of_enter (by rw [here]; rfl) lives
  · cases stepped

/-- Nobody comes to life but by being started. -/
private theorem alive_of_step {event : Event} {other : Nat}
    (stepped : machine dirs world event = some next) (lives : (next.phase other).isAlive = true) :
    event = .start other ∨ (world.phase other).isAlive = true := by
  cases event with
  | start process =>
      simp only [machine, Option.ite_none_right_eq_some] at stepped
      cases stepped.2
      by_cases self : other = process
      · exact .inl (by rw [self])
      · simp only [enter, Function.update_of_ne self] at lives
        exact .inr lives
  | step process => exact .inr (alive_of_advance stepped lives)
  | tick process =>
      simp only [machine] at stepped
      split at stepped
      · next here =>
          cases stepped
          split at lives
          · exact .inr (alive_of_enter (by rw [here]; rfl) lives)
          · exact .inr lives
      · cases stepped
  | signal process =>
      simp only [machine] at stepped
      split at stepped
      · next here =>
          cases stepped
          exact .inr (alive_of_enter (by rw [here]; rfl) lives)
      · next here =>
          cases stepped
          exact .inr (alive_of_enter (by rw [here]; rfl) lives)
      · next here =>
          cases stepped
          exact .inr (alive_of_enter (by rw [here]; rfl) lives)
      · next here =>
          cases stepped
          exact .inr (alive_of_enter (by rw [here]; rfl) lives)
      · cases stepped
  | kill process =>
      simp only [machine, Option.ite_none_right_eq_some] at stepped
      cases stepped.2
      exact .inr (alive_of_enter stepped.1 lives)
  | remove =>
      cases stepped
      exact .inr lives

/-- Processes that are started one after the other has exited are alone. -/
theorem alone_of_apart {path : Option (Nat × Bool)} {events : List Event}
    (apart : (machine dirs).Obeys Apart (start path) events) :
    (machine dirs).Obeys Alone (start path) events := by
  intro before event after reached split ran
  rw [split] at apart
  have single : ∀ first second, (reached.phase first).isAlive = true →
      (reached.phase second).isAlive = true → first = second := by
    apply Machine.invariant_of_obeys (fun world => ∀ first second,
      (world.phase first).isAlive = true → (world.phase second).isAlive = true → first = second)
      (fun first second alive => by cases alive) _ ran apart.left
    intro world event next single allowed stepped first second one two
    rcases alive_of_step stepped one with started | one
    · rcases alive_of_step stepped two with again | two
      · cases started
        cases again
        rfl
      · cases started
        rw [allowed second] at two
        cases two
    · rcases alive_of_step stepped two with started | two
      · cases started
        rw [allowed first] at one
        cases one
      · exact single first second one two
  cases event with
  | step process =>
      intro acts other
      rw [← Bool.not_eq_true]
      intro bound
      have alive : (reached.phase process).isAlive = true := by
        rcases acts with unlinking | binding
        · rw [unlinking]
          rfl
        · rw [binding]
          rfl
      have living : (reached.phase other).isAlive = true := by
        cases phase : reached.phase other with
        | down | gone =>
            rw [phase] at bound
            cases bound
        | _ => rfl
      have same := single other process living alive
      rw [same] at bound
      rcases acts with unlinking | binding
      · rw [unlinking] at bound
        cases bound
      · rw [binding] at bound
        cases bound
  | _ => trivial

/-! ## What the session lock is good for -/

/-- Who is past the session lock and has not handed it back holds it. -/
private def Held (dirs : Nat → Nat) (world : SocketWorld) : Prop :=
  ∀ process, (world.phase process).isLocked = true → world.locks (dirs process) = some process

private theorem Held.go {path : Option SocketEntry} {nextInode : Nat} (held : Held dirs world)
    (kept : phase.isLocked = true → (world.phase process).isLocked = true) :
    Held dirs ⟨path, Function.update world.phase process phase, world.locks, nextInode⟩ := by
  intro other locked
  apply held other
  by_cases self : other = process
  · subst self
    simp only [Function.update_self] at locked
    exact kept locked
  · simpa only [Function.update_of_ne self] using locked

private theorem Held.release (held : Held dirs world) (locked : (world.phase process).isLocked = true)
    (released : phase.isLocked = false) :
    Held dirs ((world.enter process phase).release dirs process) := by
  intro other still
  by_cases self : other = process
  · subst self
    simp [SocketWorld.release, enter, released] at still
  · simp only [SocketWorld.release, enter, Function.update_of_ne self] at still ⊢
    have own := held other still
    have different : dirs other ≠ dirs process := by
      intro same
      rw [same, held process locked] at own
      exact self (Option.some.inj own).symm
    rw [Function.update_of_ne different]
    exact own

private theorem Held.start (held : Held dirs world) (free : world.isFree (dirs process) = true) :
    Held dirs { world.enter process .checking with
      locks := Function.update world.locks (dirs process) (some process) } := by
  intro other locked
  by_cases self : other = process
  · subst self
    simp
  · simp only [enter, Function.update_of_ne self] at locked ⊢
    have own := held other locked
    have different : dirs other ≠ dirs process := by
      intro same
      rw [same] at own
      simp only [isFree, own, decide_eq_true_eq] at free
      rw [free] at locked
      cases locked
    rw [Function.update_of_ne different]
    exact own

private theorem Held.advance (held : Held dirs world)
    (stepped : world.advance dirs process = some next) : Held dirs next := by
  unfold SocketWorld.advance at stepped
  split at stepped
  · next here =>
      cases stepped
      exact held.go fun _ => by rw [here]; rfl
  · next here =>
      cases stepped
      exact held.go fun _ => by rw [here]; rfl
  · next here =>
      cases stepped
      unfold unlinkStale
      split
      · exact held.go fun _ => by rw [here]; rfl
      · exact held.go fun _ => by rw [here]; rfl
  · next here =>
      cases stepped
      unfold SocketWorld.bind
      split
      · exact held.go fun _ => by rw [here]; rfl
      · exact held.go fun _ => by rw [here]; rfl
  · next here =>
      cases stepped
      exact held.go fun _ => by rw [here]; rfl
  · next here =>
      cases stepped
      exact held.go fun _ => by rw [here]; rfl
  · next here =>
      cases stepped
      exact held.go fun _ => by rw [here]; rfl
  · next here =>
      cases stepped
      exact held.release (by rw [here]; rfl) rfl
  · cases stepped
    exact held.go nofun
  · next here =>
      cases stepped
      exact held.release (by rw [here]; rfl) rfl
  · cases stepped

private theorem Held.step {event : Event} (held : Held dirs world)
    (stepped : machine dirs world event = some next) : Held dirs next := by
  cases event with
  | start process =>
      simp only [machine, Option.ite_none_right_eq_some] at stepped
      cases stepped.2
      exact held.start stepped.1.2
  | step process => exact held.advance stepped
  | tick process =>
      simp only [machine] at stepped
      split at stepped
      · next here =>
          cases stepped
          split
          · exact held.go fun _ => by rw [here]; rfl
          · exact held
      · cases stepped
  | signal process =>
      simp only [machine] at stepped
      split at stepped
      · next here =>
          cases stepped
          exact held.go fun _ => by rw [here]; rfl
      · cases stepped
        exact held.go nofun
      · cases stepped
        exact held.go nofun
      · cases stepped
        exact held.go nofun
      · cases stepped
  | kill process =>
      simp only [machine, Option.ite_none_right_eq_some] at stepped
      cases stepped.2
      exact held.go nofun
  | remove =>
      cases stepped
      exact held

/-- Where a process of the same data directory still lives beside one that holds the
session lock, it has handed the lock back and is about to unlink the socket. -/
theorem leaving_of_sameDir {path : Option (Nat × Bool)} {events : List Event}
    {reached : SocketWorld} {other : Nat}
    (ran : (machine dirs).play (start path) events = some reached)
    (same : dirs other = dirs process) (different : other ≠ process)
    (locked : (reached.phase process).isLocked = true)
    (alive : (reached.phase other).isAlive = true) : reached.phase other = .leaving := by
  have held : Held dirs reached := by
    apply Machine.invariant (Held dirs) (fun _ locked => by cases locked) _ ran
    exact fun _ _ _ held stepped => held.step stepped
  have apart : (reached.phase other).isLocked = false := by
    rw [← Bool.not_eq_true]
    intro too
    have own := held other too
    rw [same, held process locked] at own
    exact different (Option.some.inj own).symm
  cases phase : reached.phase other with
  | leaving => rfl
  | down | gone =>
      rw [phase] at alive
      cases alive
  | _ =>
      rw [phase] at apart
      cases apart

/-! ## Two data directories -/

private theorem unbound_update {phases : Nat → ServePhase} (free : phase.isBound = false)
    (others : ∀ other, other ≠ process → (phases other).isBound = false) (other : Nat) :
    (Function.update phases process phase other).isBound = false := by
  by_cases self : other = process
  · rw [self, Function.update_self]
    exact free
  · rw [Function.update_of_ne self]
    exact others other self

private theorem unbound_before {phases : Nat → ServePhase}
    (others : ∀ other, other ≠ process → (phases other).isBound = false) (other : Nat)
    (different : other ≠ process) :
    (Function.update phases process phase other).isBound = false := by
  rw [Function.update_of_ne different]
  exact others other different

private theorem unbound_start {path : Option (Nat × Bool)} (other : Nat)
    (_ : other ≠ process) : ((start path).phase other).isBound = false := rfl

/-- A killed process leaves its socket to the next one. -/
def succession : List Event :=
  [.start 0, .step 0, .step 0, .step 0, .step 0, .kill 0, .start 1, .step 1, .step 1]

theorem succession_sparesLive :
    ∃ reached, (machine fun _ => 0).play (start none) succession = some reached ∧
      reached.phase 1 = .unlinking ∧ reached.SparesLive 1 := by
  have ran : (machine fun _ => 0).play (start none) succession = some _ := rfl
  refine ⟨_, ran, rfl, sparesLive_of_alone ran ?_⟩
  have unmoved : ∀ {world : SocketWorld} {process : Nat},
      world.phase process ≠ .unlinking → world.phase process ≠ .binding →
      world.Alone (.step process) :=
    fun unlinks binds acts => (acts.elim unlinks binds).elim
  refine .cons trivial rfl ?_
  refine .cons (unmoved nofun nofun) rfl ?_
  refine .cons (fun _ => unbound_update rfl (unbound_before unbound_start)) rfl ?_
  refine .cons (unmoved nofun nofun) rfl ?_
  refine .cons (unmoved nofun nofun) rfl ?_
  refine .cons trivial rfl ?_
  refine .cons trivial rfl ?_
  refine .cons (unmoved nofun nofun) rfl ?_
  refine .cons (unmoved nofun nofun) rfl ?_
  refine .cons (fun _ => ?_) rfl (Machine.obeys_nil _)
  apply unbound_update rfl
  apply unbound_before
  apply unbound_before
  intro other _
  apply unbound_update rfl
  apply unbound_before
  apply unbound_before
  apply unbound_before
  apply unbound_before
  apply unbound_before
  exact unbound_start

/-- A second process with another data directory finds the socket of the first. -/
def overlap : List Event :=
  [.start 0, .step 0, .step 0, .step 0, .step 0, .start 1, .step 1, .step 1]

/-- The second is about to unlink the socket that the first still listens on. -/
theorem overlap_unlinksLive :
    ∃ reached, (machine id).play (start none) overlap = some reached ∧
      reached.phase 0 = .serving 1 ∧ ¬reached.SparesLive 1 := by
  refine ⟨_, rfl, rfl, ?_⟩
  intro spares
  have dead : false = true := (spares (.inl rfl) _ 0 rfl rfl (by decide)).symm.trans rfl
  cases dead

end SocketWorld

end DriveWebdav
