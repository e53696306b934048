import DriveWebdav.SessionStore.PrivateFile
import Mathlib.Data.List.TakeDrop

/-! # A private file is replaced as a whole

Whatever fails and whenever the machine stops, the target holds all of the old bytes or
all of the new, and no copy stays behind that is not pruned. -/

namespace DriveWebdav

namespace PrivateWorld

variable {job : PrivateWrite} {disk : PrivateDirectory} {world next reached final : PrivateWorld}
  {event : Event} {events : List Event}

theorem tmp_ne_base (job : PrivateWrite) : job.tmp ≠ job.base := by
  intro equal
  have lengths := congrArg List.length equal
  simp only [PrivateWrite.tmp, tempName, List.length_append, List.length_cons] at lengths
  omega

/-! ## The invariant -/

/-- The new file is whole, and on the disk. -/
def Complete (job : PrivateWrite) (file : Nat) (world : PrivateWorld) : Prop :=
  world.disk.bytes file = job.bytes ∧ world.disk.synced file = true

/-- What a phase says about the disk. `file` is the new file. -/
def Fits (job : PrivateWrite) (file : Nat) (world : PrivateWorld) : WritePhase → Prop
  | .opening => world.renamed = false ∧ world.disk.next = file
  | .writing inode written =>
      world.renamed = false ∧ inode = file ∧ world.disk.entries job.tmp = some file ∧
        world.disk.bytes file = job.bytes.take written
  | .syncing inode =>
      world.renamed = false ∧ inode = file ∧ world.disk.entries job.tmp = some file ∧
        world.disk.bytes file = job.bytes
  | .closing true => world.renamed = false
  | .closing false | .moving =>
      world.renamed = false ∧ world.disk.entries job.tmp = some file ∧ Complete job file world
  | .openingDir | .syncingDir | .closingDir | .resolved =>
      world.disk.entries job.base = some file ∧ world.disk.entries job.tmp = none ∧
        world.renamed = true
  | .rejected => world.disk.entries job.tmp = none
  | .cleaning | .stopped => True

structure Sound (job : PrivateWrite) (disk : PrivateDirectory) (world : PrivateWorld) :
    Prop where
  old : ∀ inode < disk.next, world.disk.bytes inode = disk.bytes inode ∧
    world.disk.synced inode = true
  others : ∀ name, name ≠ job.base → name ≠ job.tmp →
    world.disk.Always name (· = disk.durable name)
  unrenamed : world.renamed = false → ∀ holds : Option Nat → Prop,
    holds (disk.durable job.base) → world.disk.Always job.base holds
  renamed : world.renamed = true → Complete job disk.next world ∧
    world.disk.Always job.base fun entry =>
      entry = disk.durable job.base ∨ entry = some disk.next
  fits : Fits job disk.next world world.phase

/-- Every file is on the disk. -/
structure Settled (disk : PrivateDirectory) : Prop where
  pending : disk.pending = []
  synced : ∀ inode < disk.next, disk.synced inode = true

theorem sound_start (settled : Settled disk) : Sound job disk (start disk) where
  old inode below := ⟨rfl, settled.synced inode below⟩
  others name _ _ := ⟨rfl, by simp [start, settled.pending]⟩
  unrenamed _ _ held := ⟨held, by simp [start, settled.pending]⟩
  renamed started := by cases started
  fits := ⟨rfl, rfl⟩

/-- A step that only moves on. -/
theorem Sound.enter {phase : WritePhase} (sound : Sound job disk world)
    (fits : Fits job disk.next world phase) : Sound job disk { world with phase } :=
  ⟨sound.old, sound.others, sound.unrenamed, sound.renamed, by cases phase <;> exact fits⟩

theorem fits_continueWrite {inode written : Nat} (unrenamed : world.renamed = false)
    (own : inode = disk.next) (named : world.disk.entries job.tmp = some disk.next)
    (bytes : world.disk.bytes disk.next = job.bytes.take written) :
    Fits job disk.next world (continueWrite job inode written) := by
  unfold continueWrite
  split
  · exact ⟨unrenamed, own, named, bytes⟩
  · next whole =>
      rw [List.take_of_length_le (Nat.le_of_not_lt whole)] at bytes
      exact ⟨unrenamed, own, named, bytes⟩

theorem Sound.create (sound : Sound job disk world) (phase : world.phase = .opening) :
    Sound job disk { world with
      disk := world.disk.create job.tmp
      phase := continueWrite job world.disk.next 0 } := by
  have fits := sound.fits
  rw [phase] at fits
  rcases fits with ⟨unrenamed, own⟩
  constructor
  · intro inode below
    have different : inode ≠ world.disk.next := by omega
    have kept := @Disk.create_other _ _ _ _ job.tmp _ different
    exact ⟨kept.1.trans (sound.old inode below).1, kept.2.trans (sound.old inode below).2⟩
  · intro name notBase notTmp
    exact (sound.others name notBase notTmp).concat rfl rfl (DirectoryChange.keeps_link notTmp)
  · intro _ holds held
    exact (sound.unrenamed unrenamed holds held).concat rfl rfl
      (DirectoryChange.keeps_link (tmp_ne_base job).symm)
  · intro renamed
    rw [unrenamed] at renamed
    cases renamed
  · apply fits_continueWrite
    · exact unrenamed
    · exact own
    · rw [Disk.entries_create, Function.update_self, own]
    · rw [List.take_zero, ← own]
      exact Function.update_self ..

theorem Sound.append {written count : Nat} (sound : Sound job disk world)
    (phase : world.phase = .writing disk.next written) :
    Sound job disk { world with
      disk := world.disk.append disk.next ((job.bytes.drop written).take count)
      phase := if count = 0 then .closing true
        else continueWrite job disk.next (written + count) } := by
  have fits := sound.fits
  rw [phase] at fits
  rcases fits with ⟨unrenamed, _, named, bytes⟩
  constructor
  · intro inode below
    have different : inode ≠ disk.next := by omega
    have kept := @Disk.append_other _ _ _ _ _ ((job.bytes.drop written).take count) world.disk
      different
    exact ⟨kept.1.trans (sound.old inode below).1, kept.2.trans (sound.old inode below).2⟩
  · intro name notBase notTmp
    exact (sound.others name notBase notTmp).of_same rfl rfl
  · intro _ holds held
    exact (sound.unrenamed unrenamed holds held).of_same rfl rfl
  · intro renamed
    rw [unrenamed] at renamed
    cases renamed
  · split
    · exact unrenamed
    · apply fits_continueWrite
      · exact unrenamed
      · rfl
      · exact named
      · exact Disk.append_bytes.trans (by rw [bytes, List.take_add])

theorem Sound.sync (sound : Sound job disk world) (phase : world.phase = .syncing disk.next) :
    Sound job disk { world with
      disk := world.disk.sync disk.next
      phase := .closing false } := by
  have fits := sound.fits
  rw [phase] at fits
  rcases fits with ⟨unrenamed, _, named, bytes⟩
  constructor
  · intro inode below
    have different : inode ≠ disk.next := by omega
    exact ⟨(sound.old inode below).1,
      (Disk.sync_other different).trans (sound.old inode below).2⟩
  · intro name notBase notTmp
    exact (sound.others name notBase notTmp).of_same rfl rfl
  · intro _ holds held
    exact (sound.unrenamed unrenamed holds held).of_same rfl rfl
  · intro renamed
    rw [unrenamed] at renamed
    cases renamed
  · exact ⟨unrenamed, named, bytes, Function.update_self ..⟩

theorem Sound.rename {moved : PrivateDirectory} (sound : Sound job disk world)
    (phase : world.phase = .moving)
    (renamed : world.disk.rename job.tmp job.base = some moved) :
    Sound job disk { disk := moved, phase := .openingDir, renamed := true } := by
  have fits := sound.fits
  rw [phase] at fits
  rcases fits with ⟨unrenamed, named, bytes, synced⟩
  rcases Disk.rename_eq_some renamed with
    ⟨inode, source, durable, pending, sameBytes, sameSynced, entries⟩
  cases named.symm.trans source
  constructor
  · intro inode below
    rw [sameBytes, sameSynced]
    exact sound.old inode below
  · intro name notBase notTmp
    exact (sound.others name notBase notTmp).concat durable pending
      (DirectoryChange.keeps_move notTmp notBase)
  · nofun
  · intro _
    refine ⟨⟨by rw [sameBytes]; exact bytes, by rw [sameSynced]; exact synced⟩, ?_⟩
    exact (sound.unrenamed unrenamed _ (.inl rfl)).concat durable pending
      (DirectoryChange.keeps_move_target (.inr rfl))
  · refine ⟨?_, ?_, rfl⟩
    · rw [entries, Function.update_self]
    · rw [entries, Function.update_of_ne (tmp_ne_base job), Function.update_self]

theorem Sound.remove (sound : Sound job disk world) :
    Sound job disk { world with disk := world.disk.remove job.tmp, phase := .rejected } := by
  constructor
  · exact sound.old
  · intro name notBase notTmp
    exact (sound.others name notBase notTmp).concat rfl rfl
      (DirectoryChange.keeps_unlink notTmp)
  · intro unrenamed holds held
    exact (sound.unrenamed unrenamed holds held).concat rfl rfl
      (DirectoryChange.keeps_unlink (tmp_ne_base job).symm)
  · intro renamed
    exact ⟨(sound.renamed renamed).1, (sound.renamed renamed).2.concat rfl rfl
      (DirectoryChange.keeps_unlink (tmp_ne_base job).symm)⟩
  · change (world.disk.remove job.tmp).entries job.tmp = none
    rw [Disk.entries_remove, Function.update_self]

theorem Sound.syncDirectory (sound : Sound job disk world)
    (fits : Fits job disk.next world .syncingDir) :
    Sound job disk { world with disk := world.disk.syncDirectory, phase := .closingDir } := by
  constructor
  · exact sound.old
  · intro name notBase notTmp
    exact (sound.others name notBase notTmp).syncDirectory
  · intro unrenamed holds held
    exact (sound.unrenamed unrenamed holds held).syncDirectory
  · intro renamed
    exact ⟨(sound.renamed renamed).1, (sound.renamed renamed).2.syncDirectory⟩
  · exact fits

theorem fits_thrown {phase : WritePhase} (can : canFail phase = true)
    (fits : Fits job disk.next world phase) : Fits job disk.next world phase.thrown := by
  cases phase with
  | opening | closing | moving => trivial
  | writing | syncing => exact fits.1
  | openingDir | syncingDir | closingDir => exact fits
  | cleaning | resolved | rejected | stopped => cases can

/-- What a call does keeps the invariant, whether it then returns or throws. -/
theorem Sound.perform {count : Nat} (sound : Sound job disk world)
    (stepped : world.perform job count = some next) :
    Sound job disk next ∧
      (canFail world.phase = true → Fits job disk.next next world.phase.thrown) := by
  have fits := sound.fits
  simp only [PrivateWorld.perform] at stepped
  split at stepped
  · next phase =>
      simp only [Option.ite_none_right_eq_some] at stepped
      cases stepped.2
      rw [phase]
      exact ⟨sound.create phase, fun _ => trivial⟩
  · next inode written phase =>
      rw [phase] at fits ⊢
      rcases fits with ⟨unrenamed, rfl, _⟩
      simp only [Option.ite_none_right_eq_some] at stepped
      cases stepped.2
      exact ⟨sound.append phase, fun _ => unrenamed⟩
  · next inode phase =>
      rw [phase] at fits ⊢
      rcases fits with ⟨unrenamed, rfl, _⟩
      cases stepped
      exact ⟨sound.sync phase, fun _ => unrenamed⟩
  · next failed phase =>
      rw [phase] at fits ⊢
      cases stepped
      refine ⟨sound.enter ?_, fun _ => trivial⟩
      cases failed with
      | true => trivial
      | false => exact fits
  · next phase =>
      rcases Option.map_eq_some_iff.mp stepped with ⟨moved, renamed, same⟩
      cases same
      rw [phase]
      exact ⟨sound.rename phase renamed, fun _ => trivial⟩
  · next phase =>
      cases stepped
      rw [phase]
      exact ⟨sound.remove, nofun⟩
  · next phase =>
      rw [phase] at fits ⊢
      cases stepped
      exact ⟨sound.enter fits, fun _ => fits⟩
  · next phase =>
      rw [phase] at fits ⊢
      cases stepped
      exact ⟨sound.syncDirectory fits, fun _ => fits⟩
  · next phase =>
      rw [phase] at fits ⊢
      cases stepped
      exact ⟨sound.enter fits, fun _ => fits⟩
  · cases stepped

theorem Sound.stop {kept : List (DirectoryChange JsString)} {contents : Nat → Bytes}
    {after : PrivateDirectory} (sound : Sound job disk world)
    (stopped : world.disk.stop kept contents = some after) :
    Sound job disk { world with disk := after, phase := .stopped } := by
  constructor
  · intro inode below
    have survived := Disk.stop_synced (sound.old inode below).2 stopped
    exact ⟨survived.1.trans (sound.old inode below).1, survived.2⟩
  · intro name notBase notTmp
    exact (sound.others name notBase notTmp).stop stopped
  · intro unrenamed holds held
    exact (sound.unrenamed unrenamed holds held).stop stopped
  · intro renamed
    rcases sound.renamed renamed with ⟨⟨bytes, synced⟩, always⟩
    have survived := Disk.stop_synced synced stopped
    exact ⟨⟨survived.1.trans bytes, survived.2⟩, always.stop stopped⟩
  · trivial

theorem Sound.step (sound : Sound job disk world) (stepped : machine job world event = some next) :
    Sound job disk next := by
  cases event with
  | returns count => exact (sound.perform stepped).1
  | fails =>
      simp only [machine, Option.ite_none_right_eq_some] at stepped
      cases stepped.2
      exact sound.enter (fits_thrown stepped.1 sound.fits)
  | failsLate count =>
      simp only [machine, Option.ite_none_right_eq_some, Option.map_eq_some_iff] at stepped
      rcases stepped with ⟨can, performed, did, same⟩
      cases same
      rcases sound.perform did with ⟨after, fits⟩
      exact after.enter (fits can)
  | stop kept contents =>
      simp only [machine, Option.ite_none_left_eq_some, Option.map_eq_some_iff] at stepped
      rcases stepped with ⟨_, after, stopped, same⟩
      cases same
      exact sound.stop stopped

theorem sound_of_play (settled : Settled disk)
    (ran : (machine job).play (start disk) events = some reached) : Sound job disk reached := by
  apply Machine.invariant (Sound job disk) (sound_start settled) _ ran
  exact fun _ _ _ sound stepped => sound.step stepped

/-! ## Every call ends -/

/-- A bound on the system calls that are still to come. -/
def remaining (job : PrivateWrite) : WritePhase → Nat
  | .opening => job.bytes.length + 9
  | .writing _ written => job.bytes.length - written + 8
  | .syncing _ => 7
  | .closing _ => 6
  | .moving => 5
  | .openingDir => 4
  | .syncingDir => 3
  | .closingDir => 2
  | .cleaning => 1
  | .resolved | .rejected | .stopped => 0

theorem remaining_continueWrite (inode written : Nat) :
    remaining job (continueWrite job inode written) ≤ job.bytes.length - written + 8 := by
  unfold continueWrite
  split
  · exact Nat.le_refl _
  · simp only [remaining]
    omega

theorem remaining_thrown {phase : WritePhase} (can : canFail phase = true) :
    remaining job phase.thrown < remaining job phase := by
  cases phase with
  | cleaning | resolved | rejected | stopped => cases can
  | _ =>
      simp only [remaining, WritePhase.thrown]
      omega

theorem remaining_perform {count : Nat} (stepped : world.perform job count = some next) :
    remaining job next.phase < remaining job world.phase := by
  simp only [PrivateWorld.perform] at stepped
  split at stepped
  · next phase =>
      simp only [Option.ite_none_right_eq_some] at stepped
      cases stepped.2
      rw [phase]
      apply Nat.lt_of_le_of_lt (remaining_continueWrite _ _)
      simp only [remaining]
      omega
  · next inode written phase =>
      simp only [Option.ite_none_right_eq_some] at stepped
      rcases stepped with ⟨few, stepped⟩
      cases stepped
      rw [phase]
      by_cases none : count = 0
      · rw [if_pos none]
        simp only [remaining]
        omega
      · rw [if_neg none]
        apply Nat.lt_of_le_of_lt (remaining_continueWrite _ _)
        simp only [remaining]
        omega
  · next failed phase =>
      cases stepped
      rw [phase]
      exact Nat.lt_succ_self 6
  · next failed phase =>
      cases stepped
      rw [phase]
      cases failed with
      | true => exact Nat.lt_of_sub_pos (Nat.succ_pos 4)
      | false => exact Nat.lt_succ_self 5
  · next phase =>
      rcases Option.map_eq_some_iff.mp stepped with ⟨moved, renamed, same⟩
      cases same
      rw [phase]
      exact Nat.lt_succ_self 4
  · next phase =>
      cases stepped
      rw [phase]
      exact Nat.lt_succ_self 0
  · next phase =>
      cases stepped
      rw [phase]
      exact Nat.lt_succ_self 3
  · next phase =>
      cases stepped
      rw [phase]
      exact Nat.lt_succ_self 2
  · next phase =>
      cases stepped
      rw [phase]
      exact Nat.succ_pos 1
  · cases stepped

theorem remaining_step (stepped : machine job world event = some next) :
    remaining job next.phase < remaining job world.phase := by
  cases event with
  | returns count => exact remaining_perform stepped
  | fails =>
      simp only [machine, Option.ite_none_right_eq_some] at stepped
      cases stepped.2
      exact remaining_thrown stepped.1
  | failsLate count =>
      simp only [machine, Option.ite_none_right_eq_some, Option.map_eq_some_iff] at stepped
      rcases stepped with ⟨can, performed, did, same⟩
      cases same
      exact remaining_thrown can
  | stop kept contents =>
      simp only [machine, Option.ite_none_left_eq_some, Option.map_eq_some_iff] at stepped
      rcases stepped with ⟨going, after, stopped, same⟩
      cases same
      cases phase : world.phase with
      | resolved | rejected | stopped =>
          rw [phase] at going
          exact absurd rfl going
      | _ =>
          simp only [remaining]
          omega

theorem length_of_play (ran : (machine job).play (start disk) events = some reached) :
    events.length ≤ job.bytes.length + 9 := by
  have bound : events.length + remaining job reached.phase ≤ job.bytes.length + 9 := by
    apply Machine.run_induct
      (fun events reached => events.length + remaining job reached.phase ≤ job.bytes.length + 9)
      _ _ ran
    · simp [start, remaining]
    · intro before middle event next _ bound stepped
      have less := remaining_step stepped
      simp only [List.length_append, List.length_singleton]
      omega
  omega

theorem exists_step (going : world.phase.isOver = false) :
    ∃ event next, machine job world event = some next := by
  by_cases cleans : world.phase = .cleaning
  · have stepped : machine job world (.returns 0) =
        some { world with disk := world.disk.remove job.tmp, phase := .rejected } := by
      simp only [machine, PrivateWorld.perform, cleans]
    exact ⟨_, _, stepped⟩
  · have can : canFail world.phase = true := by simp [canFail, going, cleans]
    have stepped : machine job world .fails =
        some { world with phase := world.phase.thrown } := by
      rw [machine, if_pos can]
    exact ⟨_, _, stepped⟩

/-! ## A failure reaches the caller -/

/-- A system call throws, or writes nothing. -/
def IsFailure (world : PrivateWorld) : Event → Prop
  | .returns count => count = 0 ∧ ∃ inode written, world.phase = .writing inode written
  | .fails | .failsLate _ => True
  | .stop _ _ => False

theorem failing_of_thrown {phase : WritePhase} (sound : Sound job disk next)
    (same : next.phase = phase.thrown) (can : canFail phase = true)
    (unrenamed : next.renamed = false) : next.phase.isFailing = true := by
  have fits := sound.fits
  rw [same] at fits ⊢
  cases phase with
  | cleaning | resolved | rejected | stopped => cases can
  | openingDir | syncingDir | closingDir =>
      rw [fits.2.2] at unrenamed
      cases unrenamed
  | _ => rfl

theorem failing_of_failure (sound : Sound job disk world)
    (stepped : machine job world event = some next) (failure : IsFailure world event)
    (unrenamed : next.renamed = false) : next.phase.isFailing = true := by
  have after := sound.step stepped
  cases event with
  | returns count =>
      rcases failure with ⟨rfl, inode, written, phase⟩
      simp only [machine, PrivateWorld.perform, phase, Option.ite_none_right_eq_some] at stepped
      cases stepped.2
      rfl
  | fails =>
      simp only [machine, Option.ite_none_right_eq_some] at stepped
      rcases stepped with ⟨can, same⟩
      cases same
      exact failing_of_thrown after rfl can unrenamed
  | failsLate count =>
      simp only [machine, Option.ite_none_right_eq_some, Option.map_eq_some_iff] at stepped
      rcases stepped with ⟨can, performed, did, same⟩
      cases same
      exact failing_of_thrown after rfl can unrenamed
  | stop kept contents => exact failure.elim

theorem failing_thrown {phase : WritePhase} (failing : phase.isFailing = true)
    (can : canFail phase = true) : phase.thrown.isFailing = true := by
  cases phase with
  | closing => rfl
  | cleaning | rejected => cases can
  | _ => cases failing

theorem failing_step (failing : world.phase.isFailing = true)
    (stepped : machine job world event = some next) :
    next.phase.isFailing = true ∨ next.phase = .stopped := by
  cases event with
  | stop kept contents =>
      simp only [machine, Option.ite_none_left_eq_some, Option.map_eq_some_iff] at stepped
      rcases stepped with ⟨_, after, stopped, same⟩
      cases same
      exact .inr rfl
  | returns count =>
      cases phase : world.phase with
      | closing failed =>
          simp only [machine, PrivateWorld.perform, phase] at stepped
          rw [phase] at failing
          cases failed with
          | true =>
              cases stepped
              exact .inl rfl
          | false => cases failing
      | cleaning =>
          simp only [machine, PrivateWorld.perform, phase] at stepped
          cases stepped
          exact .inl rfl
      | rejected =>
          simp only [machine, PrivateWorld.perform, phase] at stepped
          cases stepped
      | _ =>
          rw [phase] at failing
          cases failing
  | fails =>
      simp only [machine, Option.ite_none_right_eq_some] at stepped
      rcases stepped with ⟨can, same⟩
      cases same
      exact .inl (failing_thrown failing can)
  | failsLate count =>
      simp only [machine, Option.ite_none_right_eq_some, Option.map_eq_some_iff] at stepped
      rcases stepped with ⟨can, performed, did, same⟩
      cases same
      exact .inl (failing_thrown failing can)

/-- Once a call has failed before the target was replaced, nothing but a rejection is
left. -/
theorem failing_of_play (ran : (machine job).play world events = some reached)
    (failing : world.phase.isFailing = true) :
    reached.phase.isFailing = true ∨ reached.phase = .stopped := by
  apply Machine.invariant (fun world : PrivateWorld =>
    world.phase.isFailing = true ∨ world.phase = .stopped) (.inl failing) _ ran
  intro middle event next held stepped
  rcases held with failing | stopped
  · exact failing_step failing stepped
  · cases event <;>
      simp [machine, PrivateWorld.perform, stopped, canFail, WritePhase.isOver] at stepped

end PrivateWorld

/-! ## Pruning -/

section

variable {base name : JsString} {names : List JsString} {directory : PrivateDirectory}

theorem entries_prune :
    (pruneOrphanTempFiles base names directory).1.entries name =
      if name ∈ names ∧ isOrphan base name = true then none else directory.entries name := by
  induction names generalizing directory with
  | nil => simp [pruneOrphanTempFiles]
  | cons first names induction =>
      by_cases orphan : isOrphan base first = true
      · simp only [pruneOrphanTempFiles, if_pos orphan, induction, Disk.entries_remove]
        by_cases same : name = first
        · rw [same]
          simp [orphan]
        · simp [same]
      · simp only [pruneOrphanTempFiles, if_neg orphan, induction]
        by_cases same : name = first
        · rw [same]
          simp [orphan]
        · simp [same]

theorem bytes_prune : (pruneOrphanTempFiles base names directory).1.bytes = directory.bytes := by
  induction names generalizing directory with
  | nil => rfl
  | cons first names induction =>
      simp only [pruneOrphanTempFiles]
      split
      · exact induction
      · exact induction

theorem isOrphan_tempName (base : JsString) (pid : Nat) (uuid : JsString) :
    isOrphan base (tempName base pid uuid) = true := by
  simp only [isOrphan, Bool.and_eq_true, JsString.endsWith, List.isPrefixOf_iff_prefix,
    List.isSuffixOf_iff_suffix]
  constructor
  · refine ⟨JsString.decimalNat pid ++ '.' :: uuid ++ (".tmp" : JsString), ?_⟩
    simp [tempName]
  · exact ⟨_, rfl⟩

theorem not_isOrphan_base (base : JsString) : isOrphan base base = false := by
  rw [← Bool.not_eq_true]
  intro orphan
  simp only [isOrphan, Bool.and_eq_true, List.isPrefixOf_iff_prefix] at orphan
  have lengths := orphan.1.length_le
  simp only [List.length_append, List.length_cons] at lengths
  omega

end

/-! ## The whole promise -/

/-- A name that `writePrivateFileAtomic` gives a temp file of the target. -/
def IsTempName (base name : JsString) : Prop := ∃ pid uuid, name = tempName base pid uuid

/-- What has been promised of a call, as far as it has come. Only a file that `isTemp`
tells to be a temp file may be pruned. -/
structure WriteOutcome (job : PrivateWrite) (isTemp : JsString → Prop) (disk : PrivateDirectory)
    (events : List PrivateWorld.Event) (reached : PrivateWorld) : Prop where
  target : reached.disk.read job.base = disk.read job.base ∨
    reached.disk.read job.base = some job.bytes
  others : ∀ name, name ≠ job.base → name ≠ job.tmp → reached.disk.read name = disk.read name
  ends : events.length ≤ job.bytes.length + 9
  goesOn : reached.phase.isOver = false →
    ∃ event next, PrivateWorld.machine job reached event = some next
  rejects : ∀ before event later middle next, events = before ++ event :: later →
    (PrivateWorld.machine job).play (.start disk) before = some middle →
    PrivateWorld.machine job middle event = some next →
    PrivateWorld.IsFailure middle event → next.renamed = false →
    reached.phase.isFailing = true ∨ reached.phase = .stopped
  restored : reached.phase = .rejected → reached.renamed = false →
    reached.disk.read job.base = disk.read job.base ∧ reached.disk.entries job.tmp = none
  pruned : ∀ names, (∀ name, reached.disk.entries name ≠ none → name ∈ names) →
    (pruneOrphanTempFiles job.base names reached.disk).1.entries job.tmp = none
  spared : ∀ names name, name = job.base ∨ ¬isTemp name →
    (pruneOrphanTempFiles job.base names reached.disk).1.read name = reached.disk.read name

namespace PrivateWorld

variable {job : PrivateWrite} {disk : PrivateDirectory} {world reached : PrivateWorld}
  {events : List Event}

theorem Sound.read_eq {name : JsString} (sound : Sound job disk world) (settled : Settled disk)
    (same : world.disk.entries name = disk.durable name) :
    world.disk.read name = disk.read name := by
  have entries : disk.entries name = disk.durable name := by
    simp [Disk.entries, settled.pending, DirectoryChange.applyAll]
  rw [Disk.read, Disk.read, same, entries]
  cases named : disk.durable name with
  | none => rfl
  | some inode => exact congrArg some (sound.old inode (disk.durableBelow name inode named)).1

theorem Sound.target (sound : Sound job disk world) (settled : Settled disk) :
    world.disk.read job.base = disk.read job.base ∨
      world.disk.read job.base = some job.bytes := by
  cases renamed : world.renamed with
  | false =>
      left
      apply sound.read_eq settled
      exact (sound.unrenamed renamed (· = disk.durable job.base) rfl).entries
  | true =>
      rcases sound.renamed renamed with ⟨⟨bytes, _⟩, always⟩
      rcases always.entries with same | same
      · exact .inl (sound.read_eq settled same)
      · right
        rw [Disk.read, same, Option.map_some, bytes]

/-- The promise is kept, except that pruning goes by how a name begins and ends. -/
theorem writeOutcome_of_play (settled : Settled disk)
    (ran : (machine job).play (start disk) events = some reached) :
    WriteOutcome job (fun name => isOrphan job.base name = true) disk events reached := by
  have sound := sound_of_play settled ran
  constructor
  · exact sound.target settled
  · intro name notBase notTmp
    exact sound.read_eq settled (sound.others name notBase notTmp).entries
  · exact length_of_play ran
  · exact exists_step
  · intro before event later middle next split opened stepped failure unrenamed
    have failing := failing_of_failure (sound_of_play settled opened) stepped failure unrenamed
    rw [split, Machine.play_append_eq_some] at ran
    rcases ran with ⟨_, again, rest⟩
    cases again.symm.trans opened
    simp only [Machine.play, stepped, Option.bind_some] at rest
    exact failing_of_play rest failing
  · intro rejected unrenamed
    have fits := sound.fits
    rw [rejected] at fits
    refine ⟨sound.read_eq settled ?_, fits⟩
    exact (sound.unrenamed unrenamed (· = disk.durable job.base) rfl).entries
  · intro names listed
    rw [entries_prune]
    split
    · rfl
    · next kept =>
        by_contra present
        exact kept ⟨listed _ present, isOrphan_tempName ..⟩
  · intro names name spared
    have kept : isOrphan job.base name = false := by
      rcases spared with rfl | plain
      · exact not_isOrphan_base job.base
      · exact Bool.eq_false_iff.mpr plain
    rw [Disk.read, Disk.read, bytes_prune, entries_prune, if_neg]
    intro orphan
    rw [kept] at orphan
    cases orphan.2

/-! ## A file that only looks like a temp file -/

def session : PrivateWrite where
  base := "auth-session.json"
  pid := 7
  uuid := "00000000-0000-4000-8000-000000000000"
  bytes := [1, 2]

/-- A file that someone called `.auth-session.json.tmp`. -/
def dotFile : JsString := ".auth-session.json.tmp"

def dotFileDirectory : PrivateDirectory :=
  .settled (fun name => if name = dotFile then some 0 else none) (fun _ => [3]) 1 (by
    intro name inode named
    simp only [Option.ite_none_right_eq_some] at named
    cases named.2
    exact Nat.zero_lt_one)

theorem settled_dotFileDirectory : Settled dotFileDirectory := ⟨rfl, fun _ _ => rfl⟩

/-- A whole call, with a short write. -/
def shortWrites : List Event :=
  [.returns 0, .returns 1, .returns 1, .returns 0, .returns 0, .returns 0, .returns 0, .returns 0,
    .returns 0]

theorem shortWrites_outcome : ∃ reached,
    (machine session).play (start dotFileDirectory) shortWrites = some reached ∧
      WriteOutcome session (fun name => isOrphan session.base name = true) dotFileDirectory
        shortWrites reached := by
  have ran : (machine session).play (start dotFileDirectory) shortWrites = some _ := rfl
  exact ⟨_, ran, writeOutcome_of_play settled_dotFileDirectory ran⟩

/-- Pruning removes it, although no call would give its temp file that name. -/
theorem dotFile_pruned :
    ¬WriteOutcome session (IsTempName session.base) dotFileDirectory [] (start dotFileDirectory) := by
  intro outcome
  have plain : ¬IsTempName session.base dotFile := by
    intro temp
    rcases temp with ⟨pid, uuid, same⟩
    have lengths := congrArg List.length same
    simp only [tempName, List.length_append, List.length_cons] at lengths
    have ofDotFile : dotFile.length = 22 := rfl
    have ofBase : session.base.length = 17 := rfl
    have ofEnd : (".tmp" : String).toList.length = 4 := rfl
    omega
  have gone := outcome.spared [dotFile] dotFile (.inr plain)
  rw [Disk.read, entries_prune, if_pos ⟨List.mem_singleton.mpr rfl, by decide⟩] at gone
  cases gone

end PrivateWorld

end DriveWebdav
