import DriveWebdav.Systemd.CopyPass

/-! # What the `COMPLETE` marker says

The marker is to mean that every file of the live source has a copy on the remote. The
two counts only say that there are as many files on both sides. -/

namespace DriveWebdav

namespace CopyWorld

variable {requireSubdirs : List String} {world next reached final : CopyWorld}
  {source remote : FileTree} {marker : Bool} {event : Event} {events : List Event}

/-- The source when the pass counted its files. -/
def counted (world : CopyWorld) : Option FileTree :=
  match world.phase with
  | .sizing counted | .comparing counted _ => some counted
  | _ => none

/-- The marker is written only when every counted file has a copy on the remote. -/
def MarksTruly (requireSubdirs : List String) (world : CopyWorld) (event : Event) : Prop :=
  ∀ next, machine requireSubdirs world event = some next → world.marker = false →
    next.marker = true → ∃ counted, world.counted = some counted ∧
      counted.files ⊆ next.remote.files

/-! ## What a history tells -/

/-- No file that the remote holds leaves the source, or changes there. -/
def Keeps (world : CopyWorld) : Event → Prop
  | .change source => world.remote.files ∩ world.source.files ⊆ source.files
  | _ => True

/-- No file comes to the source, or changes there. -/
def Shrinks (world : CopyWorld) : Event → Prop
  | .change source => source.files ⊆ world.source.files
  | _ => True

section

variable (steps : Machine CopyWorld Event) (begun : CopyWorld)

/-- The remote began with nothing but files of the source, and none that it held has left the
source since. -/
def Retains (history : List Event) : Prop :=
  begun.remote.files ⊆ begun.source.files ∧ steps.Obeys Keeps begun history

/-- Nothing has been added to the source since a pass began to list it. -/
def AddsNothing (history : List Event) : Prop :=
  ∃ before listing after, history = before ++ .bridge true :: after ∧
    steps.play begun (before ++ [.bridge true]) = some listing ∧ steps.Obeys Shrinks listing after

/-- Whenever the two counts of a pass agree, one of the two was so when it counted the source. -/
def Careful (events : List Event) : Prop :=
  ∀ before between after world counted,
    events = before ++ .find :: between ++ .compare :: after → .find ∉ between →
    steps.play begun (before ++ .find :: between) = some world →
    world.phase = .comparing counted (some counted.count) →
    Retains steps begun before ∨ AddsNothing steps begun before

end

/-! ## What every pass keeps -/

/-- What the phase of a pass says about the world. -/
def Fits (phase : CopyPhase) (world : CopyWorld) : Prop :=
  match phase with
  | .idle _ => True
  | .copying listed => world.marker = false ∧ world.kept ⊆ listed
  | .counting => world.marker = false ∧ world.kept ⊆ world.remote.files
  | .sizing counted =>
      world.marker = false ∧ world.kept ⊆ counted.files ∧ world.kept ⊆ world.remote.files
  | .comparing counted got =>
      world.marker = false ∧ world.kept ⊆ counted.files ∧ world.kept ⊆ world.remote.files ∧
        ∀ count, got = some count → count = world.remote.count
  | _ => world.marker = false

structure Sound (world : CopyWorld) : Prop where
  kept : world.kept ⊆ world.source.files
  fits : Fits world.phase world

theorem sound_start : Sound (start source remote marker) where
  kept := Finset.empty_subset _
  fits := trivial

theorem Fits.shrink {phase : CopyPhase} {kept : Finset SourceFile}
    (fits : Fits phase world) (fewer : kept ⊆ world.kept) (source : FileTree) :
    Fits phase { world with source, kept } := by
  cases phase with
  | idle => trivial
  | guarding | awaitingBridge | listing => exact fits
  | copying listed => exact ⟨fits.1, fewer.trans fits.2⟩
  | counting => exact ⟨fits.1, fewer.trans fits.2⟩
  | sizing counted => exact ⟨fits.1, fewer.trans fits.2.1, fewer.trans fits.2.2⟩
  | comparing counted got =>
      exact ⟨fits.1, fewer.trans fits.2.1, fewer.trans fits.2.2.1, fits.2.2.2⟩

theorem Fits.unmark {phase : CopyPhase} (fits : Fits phase world) :
    Fits phase { world with marker := false } := by
  cases phase with
  | idle => trivial
  | guarding | awaitingBridge | listing => rfl
  | copying listed => exact ⟨rfl, fits.2⟩
  | counting => exact ⟨rfl, fits.2⟩
  | sizing counted => exact ⟨rfl, fits.2⟩
  | comparing counted got => exact ⟨rfl, fits.2⟩

theorem files_upload {file : SourceFile} {listed : Finset SourceFile}
    (stepped : world.upload file listed = some next) :
    file ∈ world.source.files ∧
      next = { world with remote := next.remote } ∧
      next.remote.files = insert file world.remote.files := by
  simp only [upload, Option.ite_none_right_eq_some, Option.dite_none_right_eq_some] at stepped
  rcases stepped with ⟨⟨member, _⟩, free, stepped⟩
  cases stepped
  exact ⟨member, rfl, rfl⟩

theorem Sound.rcloneExit {code : Nat} {listed : Finset SourceFile} (sound : Sound world)
    (phase : world.phase = .copying listed)
    (stepped : world.rcloneExit code listed = some next) : Sound next := by
  have fits := sound.fits
  rw [phase] at fits
  simp only [CopyWorld.rcloneExit] at stepped
  split at stepped
  · cases stepped
    exact ⟨sound.kept, trivial⟩
  · simp only [Option.ite_none_right_eq_some] at stepped
    rcases stepped with ⟨copied, stepped⟩
    cases stepped
    exact ⟨sound.kept, fits.1, fits.2.trans copied⟩

theorem Sound.step (sound : Sound world)
    (stepped : machine requireSubdirs world event = some next) : Sound next := by
  have fits := sound.fits
  cases event with
  | change source =>
      cases stepped
      exact ⟨Finset.inter_subset_right, fits.shrink Finset.inter_subset_left source⟩
  | start =>
      simp only [machine] at stepped
      split at stepped
      · cases stepped
        refine ⟨sound.kept, ?_⟩
        cases marker : world.marker with
        | true => trivial
        | false => exact marker
      · cases stepped
  | guard check =>
      simp only [machine] at stepped
      split at stepped
      · next phase =>
          cases stepped
          rw [phase] at fits
          refine ⟨sound.kept, ?_⟩
          by_cases guarded : isGuarded requireSubdirs check = true
          · rw [if_pos guarded]
            exact fits
          · rw [if_neg guarded]
            trivial
      · cases stepped
  | bridge appeared =>
      simp only [machine] at stepped
      split at stepped
      · next phase =>
          cases stepped
          rw [phase] at fits
          refine ⟨Finset.Subset.refl _, ?_⟩
          cases appeared with
          | true => exact fits
          | false => trivial
      · cases stepped
  | list file =>
      simp only [machine] at stepped
      split at stepped
      · next listed phase =>
          rw [phase] at fits
          simp only [Option.ite_none_right_eq_some] at stepped
          cases stepped.2
          exact ⟨sound.kept, fits⟩
      · cases stepped
  | endListing =>
      simp only [machine] at stepped
      split at stepped
      · next listed phase =>
          rw [phase] at fits
          simp only [Option.ite_none_right_eq_some] at stepped
          cases stepped.2
          exact ⟨sound.kept, fits, stepped.1⟩
      · cases stepped
  | upload file =>
      simp only [machine] at stepped
      split at stepped
      · next listed phase =>
          rcases files_upload stepped with ⟨_, same, _⟩
          rw [phase] at fits
          rw [same]
          exact ⟨sound.kept, by rw [phase]; exact fits⟩
      · next listed phase =>
          rcases files_upload stepped with ⟨_, same, _⟩
          rw [phase] at fits
          rw [same]
          exact ⟨sound.kept, by rw [phase]; exact fits⟩
      · cases stepped
  | exit code =>
      simp only [machine] at stepped
      split at stepped
      · split at stepped
        · cases stepped
        · next failed =>
            simp only [CopyWorld.rcloneExit, ne_eq, failed, not_false_eq_true, if_true]
              at stepped
            cases stepped
            exact ⟨sound.kept, trivial⟩
      · next listed phase => exact sound.rcloneExit phase stepped
      · cases stepped
  | find =>
      simp only [machine] at stepped
      split at stepped
      · next phase =>
          cases stepped
          rw [phase] at fits
          exact ⟨sound.kept, fits.1, sound.kept, fits.2⟩
      · cases stepped
  | size answered =>
      simp only [machine] at stepped
      split at stepped
      · next counted phase =>
          cases stepped
          rw [phase] at fits
          refine ⟨sound.kept, fits.1, fits.2.1, fits.2.2, ?_⟩
          intro count equal
          cases answered with
          | true => exact (Option.some.inj equal).symm
          | false => cases equal
      · cases stepped
  | compare =>
      simp only [machine] at stepped
      split at stepped
      · next counted got phase =>
          cases stepped
          simp only [CopyWorld.compare]
          split
          · exact ⟨sound.kept, trivial⟩
          · exact ⟨sound.kept, trivial⟩
      · cases stepped
  | kill =>
      cases stepped
      exact ⟨sound.kept, trivial⟩
  | unmark =>
      cases stepped
      exact ⟨sound.kept, fits.unmark⟩

theorem sound_of_play (ran : (machine requireSubdirs).play (start source remote marker) events =
    some reached) : Sound reached := by
  apply Machine.invariant Sound sound_start _ ran
  exact fun _ _ _ sound stepped => sound.step stepped

/-- A file that stays in the source from the beginning of the listing to the count is
never missed. -/
theorem kept_of_counting
    (ran : (machine requireSubdirs).play (start source remote marker) events = some reached)
    (phase : reached.phase = .counting) : reached.kept ⊆ reached.remote.files := by
  have fits := (sound_of_play ran).fits
  rw [phase] at fits
  exact fits.2

/-! ## The marker -/

theorem enter_rcloneExit {code : Nat} {listed : Finset SourceFile}
    (stepped : world.rcloneExit code listed = some next) :
    ∃ phase, next = world.enter phase ∧ next.counted = none := by
  simp only [CopyWorld.rcloneExit] at stepped
  split at stepped
  · cases stepped
    exact ⟨_, rfl, rfl⟩
  · simp only [Option.ite_none_right_eq_some] at stepped
    cases stepped.2
    exact ⟨_, rfl, rfl⟩

/-- What a step leaves. Most enter a phase, and only `find` counts the source. -/
inductive Moves (world : CopyWorld) : Event → CopyWorld → Prop
  | changes (source : FileTree) :
      Moves world (.change source) { world with source, kept := world.kept ∩ source.files }
  | lists {appeared : Bool} {phase : CopyPhase} (uncounted : (world.enter phase).counted = none) :
      Moves world (.bridge appeared) { world.enter phase with kept := world.source.files }
  | uploads {file : SourceFile} {next : CopyWorld} (member : file ∈ world.source.files)
      (same : next = { world with remote := next.remote })
      (files : next.remote.files = insert file world.remote.files)
      (uncounted : next.counted = none) : Moves world (.upload file) next
  | counts (counting : world.phase = .counting) :
      Moves world .find (world.enter (.sizing world.source))
  | marks {counted : FileTree} (agree : world.phase = .comparing counted (some counted.count)) :
      Moves world .compare { world.enter (.idle (some 0)) with marker := true }
  | unmarks : Moves world .unmark { world with marker := false }
  | enters {event : Event} {phase : CopyPhase} (other : event ≠ .find)
      (counted : (world.enter phase).counted = none ∨
        (world.enter phase).counted = world.counted) : Moves world event (world.enter phase)

theorem moves_of_step (stepped : machine requireSubdirs world event = some next) :
    Moves world event next := by
  cases event with
  | change source =>
      cases stepped
      exact .changes source
  | kill =>
      cases stepped
      exact .enters (by simp) (.inl rfl)
  | unmark =>
      cases stepped
      exact .unmarks
  | start =>
      simp only [machine] at stepped
      split at stepped
      · cases stepped
        refine .enters (by simp) (.inl ?_)
        cases marker : world.marker <;> rfl
      · cases stepped
  | guard check =>
      simp only [machine] at stepped
      split at stepped
      · cases stepped
        refine .enters (by simp) (.inl ?_)
        cases guarded : isGuarded requireSubdirs check <;> rfl
      · cases stepped
  | bridge appeared =>
      simp only [machine] at stepped
      split at stepped
      · cases stepped
        refine .lists ?_
        cases appeared <;> rfl
      · cases stepped
  | list file | endListing =>
      simp only [machine] at stepped
      split at stepped
      · simp only [Option.ite_none_right_eq_some] at stepped
        cases stepped.2
        exact .enters (by simp) (.inl rfl)
      · cases stepped
  | upload file =>
      simp only [machine] at stepped
      split at stepped
      · next phase =>
          rcases files_upload stepped with ⟨member, same, files⟩
          exact .uploads member same files (by rw [same]; simp only [CopyWorld.counted, phase])
      · next phase =>
          rcases files_upload stepped with ⟨member, same, files⟩
          exact .uploads member same files (by rw [same]; simp only [CopyWorld.counted, phase])
      · cases stepped
  | exit code =>
      have leaves : ∀ {listed}, world.rcloneExit code listed = some next →
          Moves world (.exit code) next := by
        intro listed left
        rcases enter_rcloneExit left with ⟨phase, rfl, uncounted⟩
        exact .enters (by simp) (.inl uncounted)
      simp only [machine] at stepped
      split at stepped
      · simp only [Option.ite_none_left_eq_some] at stepped
        exact leaves stepped.2
      · exact leaves stepped
      · cases stepped
  | find =>
      simp only [machine] at stepped
      split at stepped
      · next counting =>
          cases stepped
          exact .counts counting
      · cases stepped
  | size answered =>
      simp only [machine] at stepped
      split at stepped
      · next sizing =>
          cases stepped
          exact .enters (by simp) (.inr (by simp only [CopyWorld.counted, enter, sizing]))
      · cases stepped
  | compare =>
      simp only [machine] at stepped
      split at stepped
      · next counted got comparing =>
          cases stepped
          by_cases agree : got = some counted.count
          · rw [agree] at comparing
            rw [CopyWorld.compare, if_pos agree]
            exact .marks comparing
          · rw [CopyWorld.compare, if_neg agree]
            exact .enters (by simp) (.inl rfl)
      · cases stepped

theorem marker_of_step (stepped : machine requireSubdirs world event = some next)
    (unmarked : world.marker = false) (marked : next.marker = true) :
    event = .compare ∧ ∃ counted : FileTree,
      world.phase = .comparing counted (some counted.count) ∧ next.remote = world.remote := by
  have unchanged : ¬world.marker = true := by simp [unmarked]
  cases moves_of_step stepped with
  | changes | lists | counts | enters => exact absurd marked unchanged
  | uploads _ same =>
      rw [same] at marked
      exact absurd marked unchanged
  | marks agree => exact ⟨rfl, _, agree, rfl⟩
  | unmarks => cases marked

/-! ## From a count to the marker -/

/-- The source changes, or it stays and only its files come to the remote. -/
theorem spread_of_step (stepped : machine requireSubdirs world event = some next) :
    (∃ source, event = .change source ∧
      next = { world with source, kept := world.kept ∩ source.files }) ∨
    next.source = world.source ∧ next.remote.files ⊆ world.remote.files ∪ world.source.files ∧
      (next.kept = world.kept ∨ next.kept = world.source.files) := by
  cases moves_of_step stepped with
  | changes source => exact .inl ⟨source, rfl, rfl⟩
  | lists => exact .inr ⟨rfl, Finset.subset_union_left, .inr rfl⟩
  | uploads member same files =>
      refine .inr ⟨by rw [same], ?_, .inl (by rw [same])⟩
      rw [files]
      exact Finset.insert_subset (Finset.mem_union_right _ member) Finset.subset_union_left
  | counts | marks | unmarks | enters => exact .inr ⟨rfl, Finset.subset_union_left, .inl rfl⟩

/-- Between its two counts a pass writes nothing. -/
theorem counted_of_step {tree : FileTree}
    (stepped : machine requireSubdirs world event = some next) (other : event ≠ .find)
    (counted : next.counted = some tree) :
    world.counted = some tree ∧ next.remote = world.remote := by
  cases moves_of_step stepped with
  | changes | unmarks => exact ⟨counted, rfl⟩
  | lists uncounted => cases uncounted.symm.trans counted
  | uploads _ _ _ uncounted => cases uncounted.symm.trans counted
  | counts => exact absurd rfl other
  | marks => cases counted
  | enters _ same =>
      rcases same with uncounted | same
      · cases uncounted.symm.trans counted
      · exact ⟨same.symm.trans counted, rfl⟩

/-- What a pass compares is the source and the remote as they were when it counted the source. -/
theorem exists_find {tree : FileTree} {between : List Event}
    (ran : (machine requireSubdirs).play world (events ++ .find :: between) = some reached)
    (last : .find ∉ between) (counted : reached.counted = some tree) :
    ∃ found, (machine requireSubdirs).play world events = some found ∧
      found.phase = .counting ∧ tree = found.source ∧ reached.remote = found.remote := by
  rcases Machine.play_append_eq_some.mp ran with ⟨found, before, rest⟩
  rcases Option.bind_eq_some_iff.mp rest with ⟨sizing, stepped, onward⟩
  refine ⟨found, before, ?_⟩
  have others : (machine requireSubdirs).Obeys (fun _ event => event ≠ .find) sizing between := by
    rintro before event after _ split _ rfl
    rw [split] at last
    exact last (List.mem_append_right _ List.mem_cons_self)
  cases moves_of_step stepped with
  | enters other => exact absurd rfl other
  | counts counting =>
      refine ⟨counting, ?_⟩
      apply Machine.invariant_of_obeys (fun world => ∀ tree, world.counted = some tree →
        tree = found.source ∧ world.remote = found.remote) _ _ onward others tree counted
      · rintro _ ⟨⟩
        exact ⟨rfl, rfl⟩
      · rintro reached event next same other stepped tree counted
        rcases counted_of_step stepped other counted with ⟨earlier, remote⟩
        rw [remote]
        exact same tree earlier

theorem exists_last_find {tree : FileTree}
    (ran : (machine requireSubdirs).play (start source remote marker) events = some reached)
    (counted : reached.counted = some tree) :
    ∃ opening between, events = opening ++ .find :: between ∧ .find ∉ between := by
  apply Machine.run_induct (fun history reached => ∀ tree, reached.counted = some tree →
    ∃ opening between, history = opening ++ .find :: between ∧ Event.find ∉ between) _ _ ran tree
      counted
  · rintro _ ⟨⟩
  · intro history reached event next _ found stepped tree counted
    by_cases last : event = .find
    · exact ⟨history, [], by rw [last], List.not_mem_nil⟩
    · rcases found tree (counted_of_step stepped last counted).1 with
        ⟨opening, between, rfl, other⟩
      refine ⟨opening, between ++ [event], by rw [List.append_assoc, List.cons_append], ?_⟩
      intro member
      rcases List.mem_append.mp member with member | member
      · exact other member
      · exact last (List.mem_singleton.mp member).symm

/-- What the remote holds stays in the source. -/
theorem within_of_retains
    (ran : (machine requireSubdirs).play world events = some reached)
    (retains : Retains (machine requireSubdirs) world events) :
    reached.remote.files ⊆ reached.source.files := by
  apply Machine.invariant_of_obeys (fun world => world.remote.files ⊆ world.source.files)
    retains.1 _ ran retains.2
  intro reached event next within keeps stepped
  rcases spread_of_step stepped with ⟨source, rfl, rfl⟩ | ⟨source, remote, _⟩
  · have stays : reached.remote.files ∩ reached.source.files ⊆ source.files := keeps
    rw [Finset.inter_eq_left.mpr within] at stays
    exact stays
  · rw [source]
    exact remote.trans (Finset.union_subset within (Finset.Subset.refl _))

/-- Where nothing is added, all files of the source have been there since the listing. -/
theorem kept_of_addsNothing
    (ran : (machine requireSubdirs).play world events = some reached)
    (adds : AddsNothing (machine requireSubdirs) world events) :
    reached.source.files ⊆ reached.kept := by
  rcases adds with ⟨before, listing, after, rfl, begun, shrinks⟩
  rw [List.append_cons] at ran
  rcases Machine.play_append_eq_some.mp ran with ⟨_, opened, onward⟩
  cases begun.symm.trans opened
  rcases Machine.play_concat_eq_some.mp begun with ⟨waiting, _, stepped⟩
  have listed : listing.source.files ⊆ listing.kept := by
    simp only [machine] at stepped
    split at stepped
    · cases stepped
      exact Finset.Subset.refl _
    · cases stepped
  apply Machine.invariant_of_obeys (fun world => world.source.files ⊆ world.kept) listed _ onward
    shrinks
  intro reached event next kept shrinks stepped
  rcases spread_of_step stepped with ⟨source, rfl, rfl⟩ | ⟨source, _, same | same⟩
  · have fewer : source.files ⊆ reached.source.files := shrinks
    exact Finset.subset_inter (fewer.trans kept) (Finset.Subset.refl _)
  · rw [source, same]
    exact kept
  · rw [source, same]

/-- Of two trees of equally many files, one does not lack a file without the other. -/
theorem subset_of_count {counted remote : FileTree} (agree : counted.count = remote.count)
    (below : remote.files ⊆ counted.files) : counted.files ⊆ remote.files :=
  (Finset.eq_of_subset_of_card_le below agree.le).ge

/-- Over any passes and any changes of the source, the marker tells the truth in every careful
history. -/
theorem marksTruly_of_careful
    (careful : Careful (machine requireSubdirs) (start source remote marker) events) :
    (machine requireSubdirs).Obeys (MarksTruly requireSubdirs) (start source remote marker)
      events := by
  intro before event after reached split ran next stepped unmarked marked
  rcases marker_of_step stepped unmarked marked with ⟨rfl, counted, phase, unmoved⟩
  have known : reached.counted = some counted := by simp only [CopyWorld.counted, phase]
  refine ⟨counted, known, ?_⟩
  rcases exists_last_find ran known with ⟨opening, between, rfl, last⟩
  rcases exists_find ran last known with ⟨found, opened, counting, rfl, remote⟩
  rw [unmoved]
  rcases careful opening between after reached found.source split last ran phase with
    retains | adds
  · have fits := (sound_of_play ran).fits
    rw [phase] at fits
    apply subset_of_count (fits.2.2.2 _ rfl)
    rw [remote]
    exact within_of_retains opened retains
  · rw [remote]
    exact (kept_of_addsNothing opened adds).trans (kept_of_counting opened counting)

/-- A history that retains to its end is careful. -/
theorem careful_of_retains (retains : Retains (machine requireSubdirs) world events) :
    Careful (machine requireSubdirs) world events := by
  rintro before between after _ _ rfl _ _ _
  rw [List.append_assoc] at retains
  exact .inl ⟨retains.1, retains.2.left⟩

/-! ## Files that join and leave the source -/

def lone (path : String) (bytes : List UInt8) : FileTree :=
  FileTree.empty.insert ⟨path, bytes⟩ (by simp [FileTree.IsFree, FileTree.empty])

def joined : FileTree := (lone "a" [1]).insert ⟨"b", [2]⟩ (by decide)

/-- While a pass copies `a`, `b` joins the source. The next pass copies it, too. -/
def grown : List Event :=
  [.start, .guard ⟨true, true, []⟩, .bridge true, .list ⟨"a", [1]⟩, .endListing,
    .upload ⟨"a", [1]⟩, .change joined, .exit 0, .find, .size true, .compare,
    .start, .guard ⟨true, true, []⟩, .bridge true, .list ⟨"a", [1]⟩, .list ⟨"b", [2]⟩,
    .endListing, .upload ⟨"b", [2]⟩, .exit 0, .find, .size true, .compare]

/-- The second pass writes the marker, and rightly. -/
theorem grown_marksTruly :
    (∃ reached, (machine []).play (start (lone "a" [1]) FileTree.empty false) grown =
        some reached ∧ reached.marker = true) ∧
      (machine []).Obeys (MarksTruly []) (start (lone "a" [1]) FileTree.empty false) grown := by
  refine ⟨⟨_, rfl, rfl⟩, marksTruly_of_careful (careful_of_retains ⟨by decide, ?_⟩)⟩
  iterate 6 refine .cons trivial rfl ?_
  refine .cons ?_ rfl ?_
  · change (_ : Finset SourceFile) ⊆ _
    decide
  iterate 15 refine .cons trivial rfl ?_
  exact Machine.obeys_nil _

/-- After `a` is copied, `b` joins the source and `a` leaves it. -/
def replacement : List Event :=
  [.start, .guard ⟨true, true, []⟩, .bridge true, .list ⟨"a", [1]⟩, .endListing,
    .upload ⟨"a", [1]⟩, .change joined, .change (lone "b" [2]), .exit 0, .find, .size true,
    .compare]

/-- The pass that never saw `b` writes the marker. -/
theorem replacement_marks :
    ¬(machine []).Obeys (MarksTruly []) (start (lone "a" [1]) FileTree.empty false)
      replacement := by
  intro truly
  have ran : (machine []).play (start (lone "a" [1]) FileTree.empty false)
      replacement.dropLast = some _ := rfl
  rcases truly _ .compare [] _ rfl ran _ rfl rfl rfl with ⟨tree, same, below⟩
  cases same
  exact absurd below (by decide)

end CopyWorld

end DriveWebdav
