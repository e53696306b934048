import DriveWebdav.SessionStore.Ownership

/-! # One owner of the session

The session lock is there to let at most one live process write the credentials. -/

namespace DriveWebdav

/-- The process has acquired the session and has not released it. -/
def OwnershipPhase.holds : OwnershipPhase → Bool
  | .holding | .releasing | .removing => true
  | _ => false

namespace Ownership

def HasOneOwner (state : Ownership) : Prop :=
  ∀ first second, state.life first = .alive → state.life second = .alive →
    (state.phase first).holds = true → (state.phase second).holds = true → first = second

/-- What a run starts from: any lock, which may be held by a process. -/
structure Starts (pids : Nat → Nat) (state : Ownership) : Prop where
  running : ∀ process, state.life process = .alive →
    0 < pids process ∧ state.running (pids process) = true
  distinct : ∀ first second, state.life first = .alive → state.life second = .alive →
    pids first = pids second → first = second
  idle : ∀ process, state.phase process = .idle ∨
    (state.phase process = .holding ∧ ∃ inode startedAt,
      state.lock = some ⟨inode, .record (some (pids process)) startedAt, false, some process⟩)
  created : ∀ file, state.lock = some file → file.inode < state.nextInode ∧
    ∀ creator, file.creator = some creator →
      state.phase creator = .holding ∧ state.life creator ≠ .unborn

/-- A stale or malformed lock is unlinked. The file that goes is not one that a
live process put there, or wrote its bytes to, after this attempt had read the
lock. -/
def Careful (state : Ownership) : Event → Prop
  | .step process _ => ∀ attempt seen, state.phase process = .unlinking attempt seen →
      ∀ file creator, state.lock = some file → file.creator = some creator →
        state.life creator = .alive → file.inode = seen.inode ∧ seen.content ≠ .unwritten
  | _ => True

/-! ## What a lock says of its creator -/

/-- A process that has created the lock and not removed it. -/
private def owns : OwnershipPhase → Bool
  | .writing _ => true
  | phase => phase.holds

variable {pids : Nat → Nat} {state next : Ownership} {process : Nat} {phase : OwnershipPhase}

structure Honest (pids : Nat → Nat) (state : Ownership) (file : LockFile) : Prop where
  fresh : file.inode < state.nextInode
  recent : ∀ creator, file.creator = some creator → file.predatesBoot = false
  born : ∀ creator, file.creator = some creator → state.life creator ≠ .unborn
  signed : ∀ creator, file.creator = some creator →
    file.content = .unwritten ∨ ∃ raw, file.content = .record (some (pids creator)) raw

/-- What was read is what the path still holds, if the file is the same. -/
structure Recalled (pids : Nat → Nat) (state : Ownership) (seen : LockFile) : Prop where
  honest : Honest pids state seen
  same : ∀ file, state.lock = some file → file.inode = seen.inode → file.creator = seen.creator

/-- A record that was judged stale is that of a dead process. -/
def Stale (state : Ownership) (seen : LockFile) : Prop :=
  ∀ pid raw, seen.content = .record pid raw → ∀ file creator, state.lock = some file →
    file.inode = seen.inode → file.creator = some creator → state.life creator = .dead

def Recalls (pids : Nat → Nat) (state : Ownership) : OwnershipPhase → Prop
  | .judging _ seen => Recalled pids state seen
  | .rereading _ seen | .unlinking _ seen => Recalled pids state seen ∧ state.Stale seen
  | _ => True

structure Sound (pids : Nat → Nat) (state : Ownership) : Prop where
  running : ∀ process, state.life process = .alive →
    0 < pids process ∧ state.running (pids process) = true
  distinct : ∀ first second, state.life first = .alive → state.life second = .alive →
    pids first = pids second → first = second
  honest : ∀ file, state.lock = some file → Honest pids state file
  recalls : ∀ process, state.Recalls pids (state.phase process)
  owned : ∀ process, state.life process = .alive → owns (state.phase process) = true →
    ∃ file, state.lock = some file ∧ file.creator = some process

/-! ## What stays true while others act -/

/-- Nobody rises from the dead, and the file at the path is the one that was there
or a new one. -/
structure Evolves (state next : Ownership) : Prop where
  dead : ∀ process, state.life process = .dead → next.life process = .dead
  born : ∀ process, state.life process ≠ .unborn → next.life process ≠ .unborn
  grows : state.nextInode ≤ next.nextInode
  lock : ∀ file, next.lock = some file → state.nextInode ≤ file.inode ∨
    ∃ before, state.lock = some before ∧ before.inode = file.inode ∧
      before.creator = file.creator

private theorem Honest.evolve {file : LockFile} (honest : Honest pids state file)
    (evolves : Evolves state next) : Honest pids next file where
  fresh := Nat.lt_of_lt_of_le honest.fresh evolves.grows
  recent := honest.recent
  born creator created := evolves.born creator (honest.born creator created)
  signed := honest.signed

private theorem Recalled.evolve {seen : LockFile} (recalled : Recalled pids state seen)
    (evolves : Evolves state next) : Recalled pids next seen := by
  constructor
  · exact recalled.honest.evolve evolves
  · intro file there same
    rcases evolves.lock file there with new | ⟨before, was, inode, creator⟩
    · have old := recalled.honest.fresh
      omega
    · rw [← creator]
      exact recalled.same before was (inode.trans same)

private theorem Stale.evolve {seen : LockFile} (stale : state.Stale seen)
    (recalled : Recalled pids state seen) (evolves : Evolves state next) : next.Stale seen := by
  intro pid raw content file creator there same created
  rcases evolves.lock file there with new | ⟨before, was, inode, same'⟩
  · have old := recalled.honest.fresh
    omega
  · apply evolves.dead
    exact stale pid raw content before creator was (inode.trans same) (same'.trans created)

private theorem Recalls.evolve (recalls : state.Recalls pids phase)
    (evolves : Evolves state next) : next.Recalls pids phase := by
  cases phase with
  | judging attempt seen => exact Recalled.evolve recalls evolves
  | rereading attempt seen =>
      exact ⟨recalls.1.evolve evolves, recalls.2.evolve recalls.1 evolves⟩
  | unlinking attempt seen =>
      exact ⟨recalls.1.evolve evolves, recalls.2.evolve recalls.1 evolves⟩
  | _ => trivial

/-! ## A step of one process -/

/-- One process moves on, and the lock may change with it. -/
private def moved (process : Nat) (phase : OwnershipPhase) (lock : Option LockFile)
    (nextInode : Nat) (state : Ownership) : Ownership :=
  { state.enter process phase with lock := lock, nextInode := nextInode }

variable {lock : Option LockFile} {nextInode : Nat}

private theorem evolves_moved (grows : state.nextInode ≤ nextInode)
    (kept : ∀ file, lock = some file → state.nextInode ≤ file.inode ∨
      ∃ before, state.lock = some before ∧ before.inode = file.inode ∧
        before.creator = file.creator) :
    Evolves state (state.moved process phase lock nextInode) where
  dead _ := id
  born _ := id
  grows := grows
  lock := kept

private theorem Sound.moved (sound : Sound pids state)
    (evolves : Evolves state (state.moved process phase lock nextInode))
    (honest : ∀ file, lock = some file →
      Honest pids (state.moved process phase lock nextInode) file)
    (recalls : (state.moved process phase lock nextInode).Recalls pids phase)
    (owned : ∀ other, state.life other = .alive →
      owns (Function.update state.phase process phase other) = true →
        ∃ file, lock = some file ∧ file.creator = some other) :
    Sound pids (state.moved process phase lock nextInode) where
  running := sound.running
  distinct := sound.distinct
  honest := honest
  owned := owned
  recalls other := by
    by_cases same : other = process
    · subst same
      simpa [Ownership.moved, enter] using recalls
    · have earlier := (sound.recalls other).evolve evolves
      simpa [Ownership.moved, enter, Function.update_of_ne same] using earlier

/-- The lock stays as it is. -/
private theorem Sound.enter (sound : Sound pids state) (recalls : state.Recalls pids phase)
    (owning : owns phase = true → owns (state.phase process) = true) :
    Sound pids (state.enter process phase) := by
  have evolves : Evolves state (state.moved process phase state.lock state.nextInode) :=
    evolves_moved (Nat.le_refl _) fun file there => .inr ⟨file, there, rfl, rfl⟩
  apply sound.moved evolves
  · exact fun file there => (sound.honest file there).evolve evolves
  · exact recalls.evolve evolves
  · intro other alive owner
    by_cases same : other = process
    · subst same
      rw [Function.update_self] at owner
      exact sound.owned other alive (owning owner)
    · rw [Function.update_of_ne same] at owner
      exact sound.owned other alive owner

/-- The lock is removed, which nobody alive has reason to regret. -/
private theorem Sound.unlink (sound : Sound pids state)
    (free : ∀ file creator, state.lock = some file → file.creator = some creator →
      state.life creator = .alive → creator = process)
    (recalls : ∀ next, Recalls pids next phase) (released : owns phase = false) :
    Sound pids { state.enter process phase with lock := none } := by
  apply sound.moved
  · apply evolves_moved (Nat.le_refl _)
    intro file there
    cases there
  · intro file there
    cases there
  · exact recalls _
  · intro other alive owner
    by_cases same : other = process
    · subst same
      rw [Function.update_self, released] at owner
      cases owner
    · rw [Function.update_of_ne same] at owner
      rcases sound.owned other alive owner with ⟨file, there, created⟩
      exact absurd (free file other there created alive) same

private theorem Sound.createLock {dir : JsString} {attempt : Nat} (sound : Sound pids state)
    (alive : state.life process = .alive) :
    Sound pids (state.createLock dir process attempt) := by
  unfold Ownership.createLock
  split
  · apply sound.enter
    · split
      · trivial
      · trivial
    · split
      · exact nofun
      · exact nofun
  · next absent =>
      apply sound.moved
      · apply evolves_moved (Nat.le_succ _)
        intro file there
        cases there
        exact .inl (Nat.le_refl _)
      · intro file there
        cases there
        constructor
        · exact Nat.lt_succ_self _
        · exact fun _ _ => rfl
        · intro creator created
          cases created
          exact fun unborn => nomatch alive.symm.trans unborn
        · exact fun _ _ => .inl rfl
      · trivial
      · intro other living owner
        by_cases same : other = process
        · subst same
          exact ⟨_, rfl, rfl⟩
        · rw [Function.update_of_ne same] at owner
          rcases sound.owned other living owner with ⟨file, there, _⟩
          rw [absent] at there
          cases there

private theorem Sound.writeLock {inode : Nat} {startedAt : JsString} (sound : Sound pids state)
    (alive : state.life process = .alive) (writing : state.phase process = .writing inode) :
    Sound pids (state.writeLock pids process inode startedAt) := by
  rcases sound.owned process alive (by rw [writing]; rfl) with ⟨file, there, created⟩
  have honest := sound.honest file there
  have evolves : Evolves state (state.moved process .holding
      (state.lock.map fun file => if file.inode = inode then
        { file with content := .record (some (pids process)) startedAt } else file)
      state.nextInode) := by
    apply evolves_moved (Nat.le_refl _)
    intro after written
    rw [there, Option.map_some] at written
    cases written
    refine .inr ⟨file, there, ?_⟩
    split
    · exact ⟨rfl, rfl⟩
    · exact ⟨rfl, rfl⟩
  apply sound.moved evolves
  · intro after written
    rw [there, Option.map_some] at written
    cases written
    split
    · constructor
      · exact honest.fresh
      · exact honest.recent
      · exact honest.born
      · intro creator same
        rw [created] at same
        cases same
        exact .inr ⟨startedAt, rfl⟩
    · exact honest.evolve evolves
  · trivial
  · intro other living owner
    have before : ∃ file, state.lock = some file ∧ file.creator = some other := by
      by_cases same : other = process
      · subst same
        exact ⟨file, there, created⟩
      · rw [Function.update_of_ne same] at owner
        exact sound.owned other living owner
    rcases before with ⟨file, there, created⟩
    refine ⟨_, by rw [there, Option.map_some], ?_⟩
    split
    · exact created
    · exact created

/-! ## Judging a lock -/

private theorem recalled_of_read {file : LockFile} (sound : Sound pids state)
    (there : state.lock = some file) : Recalled pids state file := by
  constructor
  · exact sound.honest file there
  · intro other again _
    rw [there] at again
    cases again
    rfl

private theorem Sound.readLock {attempt : Nat} (sound : Sound pids state) :
    state.Recalls pids (state.readLock attempt) := by
  unfold Ownership.readLock
  split
  · trivial
  · next file there =>
      split
      · next malformed =>
          refine ⟨recalled_of_read sound there, ?_⟩
          intro pid raw content
          rw [malformed] at content
          cases content
      · exact recalled_of_read sound there

/-- A record whose process is not running, or that predates the boot, is that of a
dead process, if it is still there. -/
private theorem stale_of_judged {seen : LockFile} (sound : Sound pids state)
    (recalled : Recalled pids state seen)
    (judged : (state.isProcessAlive seen.content.pid &&
      !(state.lock.map LockFile.predatesBoot).getD false) = false) : state.Stale seen := by
  intro pid raw content file creator there same created
  have honest := sound.honest file there
  have recent := honest.recent creator created
  rw [recalled.same file there same] at created
  rw [there, Option.map_some, Option.getD_some, recent, Bool.not_false, Bool.and_true] at judged
  have born := recalled.honest.born creator created
  cases living : state.life creator with
  | unborn => exact absurd living born
  | dead => rfl
  | alive =>
      rcases sound.running creator living with ⟨positive, running⟩
      rcases recalled.honest.signed creator created with unwritten | ⟨other, signed⟩
      · rw [content] at unwritten
        cases unwritten
      · rw [signed] at judged
        simp [isProcessAlive, LockContent.pid, positive, running] at judged

private theorem Sound.judge {dir : JsString} {attempt : Nat} {seen : LockFile}
    (sound : Sound pids state) (recalled : Recalled pids state seen) :
    state.Recalls pids (state.judge dir pids process attempt seen) := by
  unfold Ownership.judge
  dsimp only
  split
  · trivial
  · next judged =>
      exact ⟨recalled, stale_of_judged sound recalled (Bool.eq_false_iff.mpr judged)⟩

/-- The lock that goes is not that of a live process. -/
private theorem Sound.dead_of_unlinking {attempt : Nat} {seen file : LockFile} {creator : Nat}
    {startedAt : JsString} (sound : Sound pids state)
    (careful : state.Careful (.step process startedAt))
    (unlinking : state.phase process = .unlinking attempt seen)
    (there : state.lock = some file) (created : file.creator = some creator) :
    state.life creator ≠ .alive := by
  intro alive
  have recalls := sound.recalls process
  rw [unlinking] at recalls
  rcases recalls with ⟨recalled, stale⟩
  rcases careful attempt seen unlinking file creator there created alive with ⟨same, written⟩
  have seenCreated := created
  rw [recalled.same file there same] at seenCreated
  rcases recalled.honest.signed creator seenCreated with unwritten | ⟨raw, signed⟩
  · exact written unwritten
  · have dead := stale _ raw signed file creator there same created
    rw [alive] at dead
    cases dead

/-! ## Runs -/

private theorem owns_readLock {attempt : Nat} : owns (state.readLock attempt) = false := by
  unfold Ownership.readLock
  split
  · rfl
  · split
    · rfl
    · rfl

private theorem owns_judge {dir : JsString} {attempt : Nat} {seen : LockFile} :
    owns (state.judge dir pids process attempt seen) = false := by
  unfold Ownership.judge
  dsimp only
  split
  · rfl
  · rfl

private theorem owns_reread {attempt : Nat} {seen : LockFile} :
    owns (state.reread attempt seen) = false := by
  unfold Ownership.reread
  split
  · rfl
  · rfl

private theorem Sound.enter_free (sound : Sound pids state)
    (recalls : state.Recalls pids phase) (free : owns phase = false) :
    Sound pids (state.enter process phase) := by
  apply sound.enter recalls
  intro owner
  rw [free] at owner
  cases owner

private theorem Sound.reread {attempt : Nat} {seen : LockFile} (sound : Sound pids state)
    (rereading : state.phase process = .rereading attempt seen) :
    state.Recalls pids (state.reread attempt seen) := by
  have recalls := sound.recalls process
  rw [rereading] at recalls
  unfold Ownership.reread
  split
  · exact recalls
  · trivial

private theorem Sound.readOwn (sound : Sound pids state)
    (releasing : state.phase process = .releasing) :
    Sound pids (state.enter process (state.readOwn pids process)) := by
  unfold Ownership.readOwn
  split
  · split
    · have recalls : state.Recalls pids .removing := trivial
      apply sound.enter recalls
      intro _
      rw [releasing]
      rfl
    · exact sound.enter_free trivial rfl
  · exact sound.enter_free trivial rfl

private theorem Sound.advance {dir : JsString} {startedAt : JsString} (sound : Sound pids state)
    (careful : state.Careful (.step process startedAt)) (alive : state.life process = .alive)
    (stepped : state.advance dir pids process startedAt = some next) : Sound pids next := by
  unfold Ownership.advance at stepped
  split at stepped
  · cases stepped
    exact sound.enter_free sound.readLock owns_readLock
  · next attempt seen judging =>
      cases stepped
      have recalls := sound.recalls process
      rw [judging] at recalls
      exact sound.enter_free (sound.judge recalls) owns_judge
  · next rereading =>
      cases stepped
      exact sound.enter_free (sound.reread rereading) owns_reread
  · next unlinking =>
      cases stepped
      have free : ∀ file creator, state.lock = some file → file.creator = some creator →
          state.life creator = .alive → creator = process := by
        intro file creator there created living
        exact absurd living (sound.dead_of_unlinking careful unlinking there created)
      exact sound.unlink free (fun _ => trivial) rfl
  · cases stepped
    exact sound.createLock alive
  · next writing =>
      cases stepped
      exact sound.writeLock alive writing
  · next releasing =>
      cases stepped
      exact sound.readOwn releasing
  · next removing =>
      cases stepped
      have free : ∀ file creator, state.lock = some file → file.creator = some creator →
          state.life creator = .alive → creator = process := by
        intro file creator there created _
        rcases sound.owned process alive (by rw [removing]; rfl) with ⟨own, here, mine⟩
        rw [there] at here
        cases here
        rw [created] at mine
        exact Option.some.inj mine
      exact sound.unlink free (fun _ => trivial) rfl
  · cases stepped

private theorem Sound.spawn (sound : Sound pids state) (positive : 0 < pids process)
    (unborn : state.life process = .unborn) (free : state.running (pids process) = false) :
    Sound pids { state.enter process .idle with
      life := Function.update state.life process .alive
      running := Function.update state.running (pids process) true } := by
  have evolves : Evolves state { state.enter process .idle with
      life := Function.update state.life process .alive
      running := Function.update state.running (pids process) true } := by
    constructor
    · intro other dead
      have different : other ≠ process := fun same => by rw [same, unborn] at dead; cases dead
      exact (Function.update_of_ne different _ _).trans dead
    · intro other born
      have different : other ≠ process := fun same => born (same ▸ unborn)
      exact fun absurd => born ((Function.update_of_ne different _ _).symm.trans absurd)
    · exact Nat.le_refl _
    · exact fun file there => .inr ⟨file, there, rfl, rfl⟩
  have before : ∀ other, Function.update state.life process .alive other = .alive →
      other = process ∨ (other ≠ process ∧ state.life other = .alive ∧
        pids other ≠ pids process) := by
    intro other living
    by_cases same : other = process
    · exact .inl same
    · rw [Function.update_of_ne same] at living
      refine .inr ⟨same, living, ?_⟩
      intro equal
      have running := (sound.running other living).2
      rw [equal, free] at running
      cases running
  constructor
  · intro other living
    rcases before other living with rfl | ⟨_, living, different⟩
    · exact ⟨positive, Function.update_self _ _ _⟩
    · rcases sound.running other living with ⟨positive, running⟩
      exact ⟨positive, (Function.update_of_ne different _ _).trans running⟩
  · intro first second living living' equal
    rcases before first living with rfl | ⟨_, living, different⟩
    · rcases before second living' with rfl | ⟨_, _, different⟩
      · rfl
      · exact absurd equal.symm different
    · rcases before second living' with rfl | ⟨_, living', _⟩
      · exact absurd equal different
      · exact sound.distinct first second living living' equal
  · exact fun file there => (sound.honest file there).evolve evolves
  · intro other
    by_cases same : other = process
    · subst same
      simp only [Ownership.enter, Function.update_self]
      trivial
    · simp only [Ownership.enter, Function.update_of_ne same]
      exact (sound.recalls other).evolve evolves
  · intro other living owner
    by_cases same : other = process
    · subst same
      simp [Ownership.enter, owns, OwnershipPhase.holds] at owner
    · simp only [Ownership.enter, Function.update_of_ne same] at owner living
      exact sound.owned other living owner

private theorem Sound.exit (sound : Sound pids state) (alive : state.life process = .alive) :
    Sound pids { state with
      life := Function.update state.life process .dead
      running := Function.update state.running (pids process) false } := by
  have evolves : Evolves state { state with
      life := Function.update state.life process .dead
      running := Function.update state.running (pids process) false } := by
    constructor
    · intro other dead
      have different : other ≠ process := fun same => by rw [same, alive] at dead; cases dead
      exact (Function.update_of_ne different _ _).trans dead
    · intro other born unborn
      by_cases same : other = process
      · subst same
        simp at unborn
      · exact born ((Function.update_of_ne same _ _).symm.trans unborn)
    · exact Nat.le_refl _
    · exact fun file there => .inr ⟨file, there, rfl, rfl⟩
  have before : ∀ other, Function.update state.life process .dead other = .alive →
      other ≠ process ∧ state.life other = .alive := by
    intro other living
    by_cases same : other = process
    · subst same
      simp at living
    · rw [Function.update_of_ne same] at living
      exact ⟨same, living⟩
  constructor
  · intro other living
    rcases before other living with ⟨same, living⟩
    rcases sound.running other living with ⟨positive, running⟩
    have different : pids other ≠ pids process :=
      fun equal => same (sound.distinct other process living alive equal)
    exact ⟨positive, (Function.update_of_ne different _ _).trans running⟩
  · intro first second living living' equal
    exact sound.distinct first second (before first living).2 (before second living').2 equal
  · exact fun file there => (sound.honest file there).evolve evolves
  · exact fun other => (sound.recalls other).evolve evolves
  · exact fun other living owner => sound.owned other (before other living).2 owner

private theorem Sound.step {dir : JsString} {event : Event} (sound : Sound pids state)
    (careful : state.Careful event) (stepped : machine dir pids state event = some next) :
    Sound pids next := by
  cases event with
  | spawn process =>
      simp only [machine, Option.ite_none_right_eq_some] at stepped
      rcases stepped with ⟨⟨unborn, positive, free⟩, equal⟩
      cases equal
      exact sound.spawn positive unborn free
  | exit process =>
      simp only [machine, Option.ite_none_right_eq_some] at stepped
      cases stepped.2
      exact sound.exit stepped.1
  | acquire process =>
      simp only [machine] at stepped
      split at stepped
      · cases stepped
        exact sound.enter_free trivial rfl
      · cases stepped
        exact sound.enter_free trivial rfl
      · cases stepped
  | release process =>
      simp only [machine] at stepped
      split at stepped
      · next holding =>
          cases stepped
          have recalls : state.Recalls pids .releasing := trivial
          apply sound.enter recalls
          intro _
          rw [holding]
          rfl
      · cases stepped
  | step process startedAt =>
      simp only [machine] at stepped
      split at stepped
      · next alive => exact sound.advance careful alive stepped
      · cases stepped

private theorem Starts.sound (starts : Starts pids state) : Sound pids state where
  running := starts.running
  distinct := starts.distinct
  honest file there := by
    rcases starts.created file there with ⟨fresh, created⟩
    have held : ∀ creator, file.creator = some creator → file.predatesBoot = false ∧
        ∃ raw, file.content = .record (some (pids creator)) raw := by
      intro creator same
      rcases starts.idle creator with idle | ⟨_, inode, startedAt, lock⟩
      · have holding := (created creator same).1
        rw [idle] at holding
        cases holding
      · rw [there] at lock
        cases lock
        exact ⟨rfl, startedAt, rfl⟩
    constructor
    · exact fresh
    · exact fun creator same => (held creator same).1
    · exact fun creator same => (created creator same).2
    · exact fun creator same => .inr (held creator same).2
  recalls process := by
    rcases starts.idle process with idle | ⟨holding, _⟩
    · rw [idle]
      trivial
    · rw [holding]
      trivial
  owned process _ owner := by
    rcases starts.idle process with idle | ⟨_, inode, startedAt, lock⟩
    · rw [idle] at owner
      cases owner
    · exact ⟨_, lock, rfl⟩

private theorem Sound.hasOneOwner (sound : Sound pids state) : state.HasOneOwner := by
  have owner : ∀ process, state.life process = .alive →
      (state.phase process).holds = true →
      ∃ file, state.lock = some file ∧ file.creator = some process := by
    intro process alive holds
    apply sound.owned process alive
    unfold owns
    split
    · rfl
    · exact holds
  intro first second alive alive' holds holds'
  rcases owner first alive holds with ⟨file, there, created⟩
  rcases owner second alive' holds' with ⟨other, there', created'⟩
  rw [there] at there'
  cases there'
  rw [created] at created'
  exact Option.some.inj created'

/-- At most one live process has acquired the session, in every run in which no
lock is unlinked that a live process has only just made. -/
theorem hasOneOwner_of_careful {dir : JsString} {start final : Ownership} {events : List Event}
    (starts : Starts pids start) (ran : (machine dir pids).play start events = some final)
    (careful : (machine dir pids).Obeys Careful start events) : final.HasOneOwner := by
  apply @Sound.hasOneOwner pids
  apply Machine.invariant_of_obeys (Sound pids) starts.sound _ ran careful
  intro reached event next sound allowed stepped
  exact sound.step allowed stepped

/-! ## Two processes -/

/-- Two processes that have not called anything yet, with the pids 1 and 2. -/
def twoProcesses (lock : Option LockFile) : Ownership where
  lock := lock
  phase _ := .idle
  life process := if process < 2 then .alive else .unborn
  running pid := pid = 1 || pid = 2
  nextInode := 1

private theorem twoProcesses_starts {lock : Option LockFile}
    (strange : ∀ file, lock = some file → file.inode = 0 ∧ file.creator = none) :
    Starts (· + 1) (twoProcesses lock) where
  running process alive := by
    have small : process < 2 := by
      by_contra large
      simp only [twoProcesses, if_neg large] at alive
      cases alive
    simp only [twoProcesses, Bool.or_eq_true, decide_eq_true_eq]
    omega
  distinct first second _ _ equal := Nat.succ.inj equal
  idle _ := .inl rfl
  created file there := by
    rcases strange file there with ⟨inode, creator⟩
    constructor
    · rw [inode]
      exact Nat.zero_lt_one
    · intro process created
      rw [creator] at created
      cases created

/-- The first process takes over the lock of one that is gone; the second is
refused. -/
def takeover : List Event :=
  [.acquire 0, .step 0 [], .step 0 [], .step 0 [], .step 0 [], .step 0 [], .step 0 "now",
    .acquire 1, .step 1 [], .step 1 []]

def staleLock : LockFile := ⟨0, .record (some 9) "then", false, none⟩

theorem takeover_hasOneOwner :
    ∃ final, (machine "/d" (· + 1)).play (twoProcesses (some staleLock)) takeover = some final ∧
      (final.phase 0).holds = true ∧ final.HasOneOwner := by
  have ran : (machine "/d" (· + 1)).play (twoProcesses (some staleLock)) takeover = some _ := rfl
  have starts : Starts (· + 1) (twoProcesses (some staleLock)) :=
    twoProcesses_starts fun file there => by cases there; exact ⟨rfl, rfl⟩
  refine ⟨_, ran, rfl, hasOneOwner_of_careful starts ran ?_⟩
  refine .cons trivial rfl ?_
  refine .cons (fun attempt seen phase => by cases phase) rfl ?_
  refine .cons (fun attempt seen phase => by cases phase) rfl ?_
  refine .cons (fun attempt seen phase => by cases phase) rfl ?_
  refine .cons ?_ rfl ?_
  · intro attempt seen _ file creator there created
    cases there
    cases created
  · refine .cons (fun attempt seen phase => by cases phase) rfl ?_
    refine .cons (fun attempt seen phase => by cases phase) rfl ?_
    refine .cons trivial rfl ?_
    refine .cons (fun attempt seen phase => by cases phase) rfl ?_
    refine .cons (fun attempt seen phase => by cases phase) rfl ?_
    exact Machine.obeys_nil _

/-- The first process has created the lock and not written it when the second
reads it. -/
def emptyLock : List Event :=
  [.acquire 0, .acquire 1, .step 0 [], .step 0 [], .step 1 [], .step 1 [], .step 1 [],
    .step 1 "now", .step 0 "now"]

/-- Both have acquired the session. -/
theorem emptyLock_twoOwners :
    Starts (· + 1) (twoProcesses none) ∧
      ∃ final, (machine "/d" (· + 1)).play (twoProcesses none) emptyLock = some final ∧
        ¬final.HasOneOwner := by
  constructor
  · exact twoProcesses_starts fun file there => by cases there
  · refine ⟨_, rfl, ?_⟩
    intro one
    have same : 0 = 1 := one 0 1 rfl rfl rfl rfl
    cases same

end Ownership

end DriveWebdav
