import DriveWebdav.SessionStore.AtomicWrite

/-! # The same write in two directories

A write does the same whatever the files hold that it does not touch. So it does in a
directory with changes under way what it does in a settled one. -/

namespace DriveWebdav

namespace PrivateWorld

variable {job : PrivateWrite} {disk : PrivateDirectory} {world twin next final : PrivateWorld}
  {event : Event} {events : List Event} {hidden : Nat → Prop}

/-- Two writes that are equally far. -/
structure Twin (hidden : Nat → Prop) (world twin : PrivateWorld) : Prop where
  disk : Disk.Alike hidden world.disk twin.disk
  phase : twin.phase = world.phase
  renamed : twin.renamed = world.renamed

theorem Twin.enter {phase : WritePhase} (twins : Twin hidden world twin) :
    Twin hidden { world with phase } { twin with phase } :=
  ⟨twins.disk, rfl, twins.renamed⟩

theorem Twin.perform {count : Nat} (twins : Twin hidden world twin)
    (stepped : world.perform job count = some next) :
    ∃ other, twin.perform job count = some other ∧ Twin hidden next other := by
  have phase := twins.phase
  simp only [PrivateWorld.perform] at stepped ⊢
  cases here : world.phase with
  | opening =>
      rw [here] at stepped phase
      simp only [Option.ite_none_right_eq_some] at stepped
      cases stepped.2
      simp only [phase, twins.disk.entries, stepped.1, if_true, twins.disk.next]
      exact ⟨_, rfl, twins.disk.create, rfl, twins.renamed⟩
  | writing inode written =>
      rw [here] at stepped phase
      simp only [Option.ite_none_right_eq_some] at stepped
      cases stepped.2
      simp only [phase, if_pos stepped.1]
      exact ⟨_, rfl, twins.disk.append, rfl, twins.renamed⟩
  | syncing inode =>
      rw [here] at stepped phase
      cases stepped
      simp only [phase]
      exact ⟨_, rfl, twins.disk.sync, rfl, twins.renamed⟩
  | moving =>
      rw [here] at stepped phase
      rcases Option.map_eq_some_iff.mp stepped with ⟨moved, renamed, same⟩
      cases same
      rcases twins.disk.rename renamed with ⟨other, found, alike⟩
      simp only [phase, found, Option.map_some]
      exact ⟨_, rfl, alike, rfl, rfl⟩
  | cleaning =>
      rw [here] at stepped phase
      cases stepped
      simp only [phase]
      exact ⟨_, rfl, twins.disk.remove, rfl, twins.renamed⟩
  | syncingDir =>
      rw [here] at stepped phase
      cases stepped
      simp only [phase]
      exact ⟨_, rfl, twins.disk.syncDirectory, rfl, twins.renamed⟩
  | closing | openingDir | closingDir =>
      rw [here] at stepped phase
      cases stepped
      simp only [phase]
      exact ⟨_, rfl, twins.enter⟩
  | resolved | rejected | stopped =>
      rw [here] at stepped
      cases stepped

theorem Twin.step (twins : Twin hidden world twin)
    (stepped : machine job world event = some next) (going : next.phase ≠ .stopped) :
    ∃ other, machine job twin event = some other ∧ Twin hidden next other := by
  cases event with
  | returns count => exact twins.perform stepped
  | fails =>
      simp only [machine, Option.ite_none_right_eq_some] at stepped
      cases stepped.2
      simp only [machine, twins.phase, if_pos stepped.1]
      exact ⟨_, rfl, twins.enter⟩
  | failsLate count =>
      simp only [machine, Option.ite_none_right_eq_some, Option.map_eq_some_iff] at stepped
      rcases stepped with ⟨can, performed, did, same⟩
      cases same
      rcases twins.perform did with ⟨other, also, alike⟩
      simp only [machine, twins.phase, if_pos can, also, Option.map_some]
      exact ⟨_, rfl, alike.enter⟩
  | stop kept contents =>
      simp only [machine, Option.ite_none_left_eq_some, Option.map_eq_some_iff] at stepped
      rcases stepped with ⟨_, after, _, same⟩
      cases same
      exact absurd rfl going

/-- Nothing follows a stop. -/
theorem stopped_of_play (stopped : world.phase = .stopped)
    (ran : (machine job).play world events = some final) : final.phase = .stopped := by
  apply Machine.invariant (fun world : PrivateWorld => world.phase = .stopped) stopped _ ran
  intro middle event next held stepped
  cases event <;>
    simp [machine, PrivateWorld.perform, held, canFail, WritePhase.isOver] at stepped

theorem Twin.play (twins : Twin hidden world twin)
    (ran : (machine job).play world events = some final) (going : final.phase ≠ .stopped) :
    ∃ other, (machine job).play twin events = some other ∧ Twin hidden final other := by
  induction events generalizing world twin with
  | nil =>
      cases ran
      exact ⟨twin, rfl, twins⟩
  | cons event rest induction =>
      rcases Option.bind_eq_some_iff.mp ran with ⟨next, stepped, later⟩
      have unstopped : next.phase ≠ .stopped :=
        fun stopped => going (stopped_of_play stopped later)
      rcases twins.step stepped unstopped with ⟨other, also, alike⟩
      simp only [Machine.play, also, Option.bind_some]
      exact induction alike later

/-! ## A directory with changes under way -/

theorem settled_settle (disk : PrivateDirectory) : Settled disk.settle :=
  ⟨rfl, fun _ _ => rfl⟩

theorem exists_settled (ran : (machine job).play (start disk) events = some final)
    (going : final.phase ≠ .stopped) :
    ∃ other, Sound job disk.settle other ∧ Twin (fun _ => False) final other := by
  have twins : Twin (fun _ => False) (start disk) (start disk.settle) :=
    ⟨Disk.alike_settle _ disk, rfl, rfl⟩
  rcases twins.play ran going with ⟨other, also, alike⟩
  exact ⟨other, sound_of_play (settled_settle disk) also, alike⟩

theorem entries_of_play (ran : (machine job).play (start disk) events = some final)
    (going : final.phase ≠ .stopped) {name : JsString} (notBase : name ≠ job.base)
    (notTmp : name ≠ job.tmp) : final.disk.entries name = disk.entries name := by
  rcases exists_settled ran going with ⟨other, sound, alike⟩
  rw [← alike.disk.entries]
  exact (sound.others name notBase notTmp).entries

theorem bytes_of_play (ran : (machine job).play (start disk) events = some final)
    (going : final.phase ≠ .stopped) {inode : Nat} (old : inode < disk.next) :
    final.disk.bytes inode = disk.bytes inode := by
  rcases exists_settled ran going with ⟨other, sound, alike⟩
  rw [← alike.disk.bytes inode not_false]
  exact (sound.old inode old).1

/-- The target of a call that resolves is a new file with the bytes of the call. -/
theorem resolved_of_play (ran : (machine job).play (start disk) events = some final)
    (resolved : final.phase = .resolved) :
    final.disk.read job.base = some job.bytes ∧ final.disk.entries job.tmp = none := by
  have going : final.phase ≠ .stopped := by
    rw [resolved]
    intro stopped
    cases stopped
  rcases exists_settled ran going with ⟨other, sound, alike⟩
  have fits := sound.fits
  rw [alike.phase, resolved] at fits
  rcases fits with ⟨named, gone, renamed⟩
  have complete := (sound.renamed renamed).1.1
  constructor
  · rw [← alike.disk.read fun _ _ => not_false, Disk.read, named, Option.map_some, complete]
  · rw [← alike.disk.entries]
    exact gone

/-! ## A write that goes well -/

/-- Every system call succeeds, and one `writeSync` writes everything. -/
def wholeWrite (size : Nat) : List Event :=
  [.returns 0, .returns size, .returns 0, .returns 0, .returns 0, .returns 0,
    .returns 0, .returns 0]

theorem exists_wholeWrite (fresh : disk.entries job.tmp = none) (filled : 0 < job.bytes.length) :
    ∃ world, (machine job).play (start disk) (wholeWrite job.bytes.length) =
      some world ∧ world.phase = .resolved := by
  have opened : (start disk).perform job 0 =
      some ⟨disk.create job.tmp, .writing disk.next 0, false⟩ := by
    simp only [PrivateWorld.perform, start, fresh, if_true, continueWrite, if_pos filled]
  have written : PrivateWorld.perform job job.bytes.length
      ⟨disk.create job.tmp, .writing disk.next 0, false⟩ =
      some ⟨(disk.create job.tmp).append disk.next job.bytes, .syncing disk.next, false⟩ := by
    simp only [PrivateWorld.perform, Nat.sub_zero, Nat.le_refl, if_true, List.drop_zero,
      List.take_length, continueWrite, Nat.zero_add, Nat.lt_irrefl, if_false, Nat.ne_of_gt filled]
  have named : (((disk.create job.tmp).append disk.next job.bytes).sync disk.next).entries job.tmp =
      some disk.next := by
    change (disk.create job.tmp).entries job.tmp = _
    rw [Disk.entries_create, Function.update_self]
  cases moved : (((disk.create job.tmp).append disk.next job.bytes).sync disk.next).rename job.tmp
      job.base with
  | none =>
      rw [Disk.rename_eq_none, named] at moved
      cases moved
  | some renamed =>
      have later : (machine job).play
          ⟨(disk.create job.tmp).append disk.next job.bytes, .syncing disk.next, false⟩
          [.returns 0, .returns 0, .returns 0, .returns 0, .returns 0, .returns 0] =
          some ⟨renamed.syncDirectory, .resolved, true⟩ := by
        simp only [Machine.play, machine, PrivateWorld.perform, moved, Option.bind_some,
          Option.map_some, Bool.false_eq_true, if_false]
      refine ⟨⟨renamed.syncDirectory, .resolved, true⟩, ?_, rfl⟩
      rw [wholeWrite, Machine.play, machine, opened, Option.bind_some, Machine.play, machine,
        written, Option.bind_some]
      exact later

end PrivateWorld

end DriveWebdav
