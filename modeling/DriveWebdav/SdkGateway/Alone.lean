import DriveWebdav.SdkGateway.Lookup
import DriveWebdav.SdkGateway.Operations

/-! # Operations that run alone

An SDK that answers one call after another from a tree that nobody else changes. -/

namespace DriveWebdav

/-- The answer to a call, and the tree afterwards. -/
abbrev TreeAnswer := Drive → (command : SdkCall) → Except Thrown (SdkAnswer command) × Drive

/-- The configured root is a folder. -/
def Drive.HasRoot (drive : Drive) : Prop :=
  ∃ node, drive.getNode drive.root = some node ∧ node.type = .folder

/-- Lookups are answered with what is in the tree, and leave it. -/
structure Truthful (platform : Platform) (answer : TreeAnswer) : Prop where
  lookups : ∀ drive command, command.isLookup = true → (answer drive command).2 = drive
  nodes : ∀ drive uid node, (answer drive (.getNode uid)).1 = .ok node →
    drive.getNode uid = some node
  root : ∀ drive node, drive.getNode drive.root = some node →
    (answer drive .getPathNode).1 = .ok node ∧ (answer drive (.getNode drive.root)).1 = .ok node
  pathNode : ∀ drive node, (answer drive .getPathNode).1 = .ok node →
    drive.getNode drive.root = some node
  children : ∀ drive parent sought, (answer drive (.iterateFolderChildren parent sought)).1 =
    .ok ⟨drive.children platform parent.uid, none⟩
  failures : ∀ drive command error, (answer drive command).1 = .error error → 400 ≤ error.status

/-- The SDK as the world of the service. -/
def TreeAnswer.respond (answer : TreeAnswer) (world : ServiceWorld) (command : SdkCall) :
    Except Thrown (SdkAnswer command) × ServiceWorld :=
  ((answer world.remote command).1, ⟨world.memory, (answer world.remote command).2⟩)

/-- Run an operation of the gateway, alone. -/
def TreeAnswer.run {α : Type} (answer : TreeAnswer) (program : SdkOperation α)
    (world : ServiceWorld) : Except Thrown α × ServiceWorld :=
  program.run answer.respond world

def TreeAnswer.rules (answer : TreeAnswer) :
    Rules ServiceMemory SdkCall SdkAnswer Thrown Drive :=
  Rules.alone fun drive command outcome final => answer drive command = (outcome, final)

namespace Truthful

variable {platform : Platform} {answer : TreeAnswer} {drive : Drive} {world : ServiceWorld}

theorem undisturbed (truthful : Truthful platform answer) : Undisturbed platform answer.rules where
  invariant _ := trivial
  guarantee _ _ := trivial
  permits _ _ := trivial
  waits := by
    rintro world _ rfl
    exact ⟨rfl, world.memory.now, Nat.le_refl _, rfl⟩
  failures drive command error final answered :=
    truthful.failures drive command error (congrArg Prod.fst answered)
  lookups := by
    intro drive command outcome final lookup answered
    have left := congrArg Prod.snd answered
    have said : (answer drive command).1 = outcome := congrArg Prod.fst answered
    rw [truthful.lookups drive command lookup] at left
    refine ⟨left.symm, ?_⟩
    intro value found
    rw [found] at said
    cases command with
    | getPathNode => exact truthful.pathNode _ _ said
    | getNode uid => exact truthful.nodes _ _ _ said
    | iterateFolderChildren parent sought =>
        rw [truthful.children] at said
        cases said
        exact ⟨List.prefix_rfl, fun _ => rfl⟩
    | _ => cases lookup

theorem reliable (truthful : Truthful platform answer) (hasRoot : drive.HasRoot) :
    Reliable answer.rules drive := by
  rcases hasRoot with ⟨root, fetched, isFolder⟩
  rcases truthful.root _ _ fetched with ⟨byPath, byUid⟩
  constructor
  · exact ⟨root, fetched, isFolder⟩
  · intro error final fails
    cases byPath.symm.trans (congrArg Prod.fst fails)
  · intro error final fails
    cases byUid.symm.trans (congrArg Prod.fst fails)
  · intro parent sought error final fails
    cases (truthful.children drive parent sought).symm.trans (congrArg Prod.fst fails)
  · intro parent sought yielded final answers
    cases (truthful.children drive parent sought).symm.trans (congrArg Prod.fst answers)
    rfl

/-- A path resolves to what the tree has there. -/
theorem run_resolve (truthful : Truthful platform answer) (hasRoot : drive.HasRoot)
    {path : JsString} (includeDrafts : Bool)
    (safe : (segments path).all isSafeSegment = true) (same : world.remote = drive)
    (accurate : Accurate platform world) :
    ∃ reached, answer.run (resolve platform path includeDrafts) world =
        (.ok (drive.nodeAt platform path includeDrafts), reached) ∧
      reached.remote = drive ∧ Accurate platform reached := by
  have finds : answer.rules.Ensures (resolve platform path includeDrafts)
      (Finds platform answer.rules drive fun found =>
        found = drive.nodeAt platform path includeDrafts) world :=
    finds_resolve truthful.undisturbed includeDrafts safe same accurate
  have found := finds.of_runs (fun _ => trivial)
    (Program.runs_run answer.respond (fun _ _ => rfl) (fun _ _ => rfl) _ world)
  rw [TreeAnswer.run]
  generalize Program.run answer.respond (resolve platform path includeDrafts) world =
    ended at found
  rcases ended with ⟨error | node, reached⟩
  · exact absurd (truthful.reliable hasRoot) found.2.2.2
  · exact ⟨reached, by rw [found.2.2], found.1, found.2.1⟩

end Truthful

end DriveWebdav
