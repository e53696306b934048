import DriveWebdav.SdkGateway.FaultyTree

/-! # What a move says when it fails

A move is one call or two, and there is no way back from the first. What it reports is compared
with what has become of the tree. -/

namespace DriveWebdav

section

variable (platform : Platform) (drive : Drive)

/-- Why nothing can be moved away from `s`. -/
def sourceRefusal (s : JsString) : Option GatewayError :=
  if (segments s).all isSafeSegment then
    match drive.nodeAt platform s false with
    | none => some (.notFound (("Not found: " : JsString) ++ s))
    | some _ => none
  else some invalidSegment

/-- Why nothing can be moved to `d`. -/
def destinationRefusal (d : JsString) : Option GatewayError :=
  if (segments (parentPath d)).all isSafeSegment then
    match drive.nodeAt platform (parentPath d) false with
    | none => some (destinationParentMissing d)
    | some folder =>
        if folder.type ≠ .folder then some (destinationParentMissing d)
        else if !isSafeSegment (baseName d) then some (.plain "Invalid destination name" 400)
        else if (drive.nodeAt platform d true).isSome then some (destinationExists d)
        else none
  else some invalidSegment

/-- The precondition of a move that is not met, if any. -/
def refusal (s d : JsString) : Option GatewayError :=
  if isRoot s || isRoot d then some (.plain "Cannot move the root collection" 403)
  else if segments s <+: segments d then
    some (.plain "Cannot move a collection into itself" 409)
  else
    (sourceRefusal platform drive (normalize s)).or
      (destinationRefusal platform drive (normalize d))

end

section

variable {platform : Platform} {drive : Drive}

theorem consults_resolveOrThrow (hasRoot : drive.HasRoot) (s : JsString) :
    Consults platform drive (resolveOrThrow platform s)
      (fun node => drive.nodeAt platform s false = some node)
      fun error => sourceRefusal platform drive s = some error := by
  apply (consults_resolve hasRoot s false _).bind
  · intro found known
    rcases known with ⟨known, safe⟩
    cases found with
    | none =>
        apply consults_reject
        rw [sourceRefusal, if_pos safe, ← known]
    | some node => exact consults_pure known.symm
  · intro bad
    rw [sourceRefusal, if_neg bad]

theorem consults_resolveDestination (hasRoot : drive.HasRoot) (d : JsString) :
    Consults platform drive (resolveDestination platform d)
      (fun folder => drive.nodeAt platform (parentPath d) false = some folder ∧
        folder.type = .folder)
      fun error => destinationRefusal platform drive d = some error := by
  apply (consults_resolve hasRoot (parentPath d) false _).bind
  · intro found known
    rcases known with ⟨known, safe⟩
    cases found with
    | none =>
        apply consults_reject
        rw [destinationRefusal, if_pos safe, ← known]
    | some folder =>
        dsimp only
        split
        · next notFolder =>
            apply consults_reject
            rw [destinationRefusal, if_pos safe, ← known]
            dsimp only
            rw [if_pos notFolder]
        · next isFolder =>
            split
            · next bad =>
                apply consults_reject
                rw [destinationRefusal, if_pos safe, ← known]
                dsimp only
                rw [if_neg isFolder, if_pos bad]
            · next good =>
                apply (consults_resolve hasRoot d true _).bind
                · intro taken there
                  cases taken with
                  | none => exact consults_pure ⟨known.symm, Decidable.of_not_not isFolder⟩
                  | some node =>
                      apply consults_reject
                      rw [destinationRefusal, if_pos safe, ← known, ← there.1]
                      dsimp only
                      rw [if_neg isFolder, if_neg good]
                      rfl
                · intro bad
                  apply absurd _ bad
                  by_cases root : segments d = []
                  · rw [root]
                    rfl
                  · rw [segments_eq_concat root, List.all_append, safe, List.all_cons]
                    simpa using good
  · intro bad
    rw [destinationRefusal, if_neg bad]

end

/-! ## The two calls -/

/-- What the move has to say when a renaming has failed. -/
def partialMove (s d : JsString) : GatewayError :=
  partiallyMoved (normalize d) (join (parentPath d) (baseName s))

/-- The node of `s` has gone into the folder above `d`, under the name it had. -/
structure HasLeft (platform : Platform) (drive : Drive) (s d : JsString) (final : Drive) :
    Prop where
  moved : ∃ node folder, drive.nodeAt platform s false = some node ∧
    drive.nodeAt platform (parentPath d) false = some folder ∧
    platform.getName node = baseName s ∧ node.parentUid ≠ some folder.uid ∧
    final = reparented drive node folder

/-- The ways in which a move can fail, by the last call that it has made. -/
inductive MoveFailure (platform : Platform) (drive : Drive) (s d : JsString) (trace : SdkTrace) :
    Thrown → Drive → Prop
  | refused {error : GatewayError} (settled : lastFault platform trace = none)
      (reason : refusal platform drive s d = some error) :
      MoveFailure platform drive s d trace (.gateway error) drive
  | lookup {call : SdkExchange} {fault : SdkError}
      (last : Program.lastCall SdkCall.counted trace = some call)
      (raised : raisedError platform call.1 call.2 = some fault)
      (lookup : call.1.isLookup = true) : MoveFailure platform drive s d trace (.sdk fault) drive
  | relocation {call : SdkExchange} {fault : SdkError} {nodes : List NodeEntity}
      {parent : NodeEntity} (last : Program.lastCall SdkCall.counted trace = some call)
      (raised : raisedError platform call.1 call.2 = some fault)
      (called : call.1 = .moveNodes nodes parent) :
      MoveFailure platform drive s d trace (mapGenericError platform (.sdk fault)) drive
  | notRenamed {call : SdkExchange} {fault : SdkError} {node : NodeEntity} {name : JsString}
      (last : Program.lastCall SdkCall.counted trace = some call)
      (raised : raisedError platform call.1 call.2 = some fault)
      (called : call.1 = .renameNode node name) (stays : parentPath s = parentPath d) :
      MoveFailure platform drive s d trace (.gateway (partialMove s d)) drive
  | halfway {call : SdkExchange} {fault : SdkError} {node : NodeEntity} {name : JsString}
      {final : Drive} (last : Program.lastCall SdkCall.counted trace = some call)
      (raised : raisedError platform call.1 call.2 = some fault)
      (called : call.1 = .renameNode node name) (leaves : parentPath s ≠ parentPath d)
      (left : HasLeft platform drive s d final) :
      MoveFailure platform drive s d trace (.gateway (partialMove s d)) final

section

variable {platform : Platform} {drive : Drive} {world final : ServiceWorld} {trace : SdkTrace}
  {s d : JsString} {node folder : NodeEntity}

/-- How the first call can end. -/
theorem executes_relocate {outcome : Except Thrown Unit} (same : world.remote = drive)
    (executes : (relocate s d node folder).Executes (Faulty platform) world trace outcome final) :
    (outcome = .ok () ∧ lastFault platform trace = none ∧
      (parentPath s = parentPath d ∧ final.remote = drive ∨
        parentPath s ≠ parentPath d ∧ final.remote = reparented drive node folder)) ∨
    ∃ call fault nodes parent, outcome = .error (.sdk fault) ∧
      Program.lastCall SdkCall.counted trace = some call ∧ call.1 = .moveNodes nodes parent ∧
      raisedError platform call.1 call.2 = some fault ∧ final.remote = drive := by
  unfold relocate at executes
  split at executes
  · next stays =>
      cases executes
      exact .inl ⟨rfl, rfl, .inl ⟨stays, same⟩⟩
  · next leaves =>
      rcases Program.executes_andThen executes with
        ⟨first, second, middle, reached, rfl, asked, looped⟩
      rcases Program.executes_request asked with ⟨rfl, _, answered⟩
      rcases reached with ⟨memory, remote⟩
      rw [same] at answered
      cases answered with
      | answered =>
          by_cases taken : drive.nameTaken platform folder.uid (platform.getName node) node.uid
          · have said : TreeSdk.answer platform drive (.moveNodes [node] folder) =
                (.ok ⟨[.error TreeSdk.sameName], none⟩, drive) := by
              rw [TreeSdk.answer, TreeSdk.moveNode, if_pos taken]
            have left := congrArg Prod.snd said
            rw [said] at looped ⊢
            cases looped
            exact .inr ⟨_, _, [node], folder, rfl, rfl, rfl, rfl, left⟩
          · have said : TreeSdk.answer platform drive (.moveNodes [node] folder) =
                (.ok ⟨[.ok ()], none⟩, reparented drive node folder) := by
              rw [TreeSdk.answer, TreeSdk.moveNode, if_neg taken]
              rfl
            have moved := congrArg Prod.snd said
            rw [said] at looped ⊢
            cases looped
            exact .inl ⟨rfl, rfl, .inr ⟨leaves, moved⟩⟩
      | rejected _ _ fault =>
          cases looped
          exact .inr ⟨_, fault, [node], folder, rfl, rfl, rfl, rfl, rfl⟩
      | notMoved _ _ _ fault =>
          cases looped
          exact .inr ⟨_, fault, [node], folder, rfl, rfl, rfl, rfl, rfl⟩
      | notBegun _ _ _ fault =>
          cases looped
          exact .inr ⟨_, fault, [node], folder, rfl, rfl, rfl, rfl, rfl⟩

theorem executes_renameTo {outcome : Except Thrown Unit}
    (executes : (renameTo s d node).Executes (Faulty platform) world trace outcome final)
    {error : Thrown} (fails : outcome = .error error) :
    ∃ call fault renamed name, error = .gateway (partiallyMoved d
        (join (parentPath d) (baseName s))) ∧
      Program.lastCall SdkCall.counted trace = some call ∧ call.1 = .renameNode renamed name ∧
      raisedError platform call.1 call.2 = some fault ∧ final.remote = world.remote := by
  unfold renameTo at executes
  split at executes
  · cases executes
    cases fails
  · rcases Program.executes_andThen executes with
      ⟨first, second, middle, reached, rfl, asked, recovered⟩
    rcases Program.executes_request asked with ⟨rfl, _, answered⟩
    rcases reached with ⟨memory, remote⟩
    cases middle with
    | ok value =>
        cases recovered
        cases fails
    | error thrown =>
        rcases Faulty.of_error answered with ⟨⟨fault, rfl⟩, left⟩
        cases recovered
        cases fails
        exact ⟨_, fault, node, baseName d, rfl, rfl, rfl, rfl, left⟩

/-- The last call of a move, and what became of the tree. -/
theorem executes_moveNode {error : Thrown} (same : world.remote = drive)
    (executes : (moveNode platform s d node folder).Executes (Faulty platform) world trace
      (.error error) final) :
    ∃ call fault, Program.lastCall SdkCall.counted trace = some call ∧
      raisedError platform call.1 call.2 = some fault ∧
      ((∃ nodes parent, call.1 = .moveNodes nodes parent ∧
          error = mapGenericError platform (.sdk fault) ∧ final.remote = drive) ∨
        ∃ renamed name, call.1 = .renameNode renamed name ∧
          error = .gateway (partiallyMoved d (join (parentPath d) (baseName s))) ∧
          (parentPath s = parentPath d ∧ final.remote = drive ∨
            parentPath s ≠ parentPath d ∧ final.remote = reparented drive node folder)) := by
  rcases Program.executes_finallyDo_modify executes with ⟨first, memory, reached, rfl, ran, rfl⟩
  unfold mapErrors at ran
  rcases Program.executes_rethrow ran with ⟨thrown, calls, rfl⟩
  have last : Program.lastCall SdkCall.counted (first ++ [.access memory]) =
      Program.lastCall SdkCall.counted first := by
    rw [Program.lastCall_append]
    exact Option.none_or
  rw [last]
  rcases Program.executes_bind_error calls with
    moving | ⟨before, after, _, moved, rfl, moving, later⟩
  · rcases executes_relocate same moving with
      ⟨ended, _⟩ | ⟨call, fault, nodes, parent, equal, made, called, raised, left⟩
    · cases ended
    · cases equal
      exact ⟨call, fault, made, raised, .inl ⟨nodes, parent, called, rfl, left⟩⟩
  · rcases executes_renameTo later rfl with
      ⟨call, fault, renamed, name, rfl, made, called, raised, left⟩
    rcases executes_relocate same moving with ⟨_, _, became⟩ | ⟨_, _, _, _, ended, _⟩
    · refine ⟨call, fault, ?_, raised, .inr ⟨renamed, name, called, rfl, ?_⟩⟩
      · rw [Program.lastCall_append, made, Option.some_or]
      · dsimp only
        rw [left]
        exact became
    · cases ended

/-- Another folder at another path is another folder. -/
theorem hasLeft {tree : Drive} (rooted : drive.Rooted platform) (inside : segments s ≠ [])
    (found : drive.nodeAt platform s false = some node)
    (above : drive.nodeAt platform (parentPath d) false = some folder)
    (leaves : parentPath s ≠ parentPath d)
    (moved : tree = reparented drive node folder) : HasLeft platform drive s d tree := by
  rcases Drive.lies_of_visit (visit_of_nodeAt found) inside with
    ⟨home, parent, shape, upward, member, _⟩
  refine ⟨node, folder, found, above, ?_, ?_, moved⟩
  · rw [baseName, shape, List.getLastD_concat]
  · intro same
    have uids := (Drive.mem_children.mp member).2.1.symm.trans same
    have paths := rooted.visit_unique upward (visit_of_nodeAt above) (Option.some.inj uids)
    apply leaves
    rw [parentPath_eq s, shape, List.dropLast_concat, List.reverse_inj.mp paths]
    exact normalize_parentPath d

/-- Every failure of a move is one of these. -/
theorem executes_move {error : Thrown} (hasRoot : drive.HasRoot) (rooted : drive.Rooted platform)
    (same : world.remote = drive) (accurate : Accurate platform world)
    (executes : (move platform s d).Executes (Faulty platform) world trace (.error error) final) :
    MoveFailure platform drive s d trace error final.remote := by
  unfold move at executes
  dsimp only at executes
  rw [isRoot_normalize, isRoot_normalize] at executes
  split at executes
  · next root =>
      cases executes
      rw [same]
      apply MoveFailure.refused rfl
      rw [refusal, if_pos root]
  · next inside =>
      have below : segments s ≠ [] := by
        intro empty
        rw [isRoot_iff.mpr empty] at inside
        exact inside rfl
      split at executes
      · next into =>
          cases executes
          rw [same]
          apply MoveFailure.refused rfl
          rw [refusal, if_neg inside, if_pos ((movesInto_iff below).mp into)]
      · next apart =>
          have reason : refusal platform drive s d = (sourceRefusal platform drive (normalize s)).or
              (destinationRefusal platform drive (normalize d)) := by
            rw [refusal, if_neg inside, if_neg fun into => apart ((movesInto_iff below).mpr into)]
          rcases Program.executes_bind_error executes with
            found | ⟨first, second, node, reached, rfl, found, rest⟩
          · have looked := consults_resolveOrThrow hasRoot _ _ _ _ _ same accurate found
            rw [looked.same]
            rcases looked.failed error rfl with
              ⟨call, fault, last, lookup, raised, rfl⟩ | ⟨settled, refused, refuses, rfl⟩
            · exact .lookup last raised lookup
            · apply MoveFailure.refused settled
              rw [reason, refuses, Option.some_or]
          · have looked := consults_resolveOrThrow hasRoot _ _ _ _ _ same accurate found
            rcases looked.found node rfl with ⟨there, settled⟩
            have fine : sourceRefusal platform drive (normalize s) = none := by
              rw [sourceRefusal, if_pos (safe_of_nodeAt there), there]
            rw [fine, Option.none_or] at reason
            rcases Program.executes_bind_error rest with
              placed | ⟨third, fourth, folder, looking, rfl, placed, moving⟩
            · have checked := consults_resolveDestination hasRoot _ _ _ _ _ looked.same
                looked.accurate placed
              rw [checked.same]
              rcases checked.failed error rfl with
                ⟨call, fault, last, lookup, raised, rfl⟩ | ⟨none, refused, refuses, rfl⟩
              · apply MoveFailure.lookup _ raised lookup
                rw [Program.lastCall_append, last, Option.some_or]
              · apply MoveFailure.refused
                · rw [lastFault_append settled]
                  exact none
                · rw [reason, refuses]
            · have checked := consults_resolveDestination hasRoot _ _ _ _ _ looked.same
                looked.accurate placed
              rcases checked.found folder rfl with ⟨⟨above, _⟩, _⟩
              rcases executes_moveNode checked.same moving with
                ⟨call, fault, made, raised, how⟩
              have last : Program.lastCall SdkCall.counted (first ++ (third ++ fourth)) =
                  some call := by
                rw [Program.lastCall_append, Program.lastCall_append, made, Option.some_or,
                  Option.some_or]
              simp only [parentPath_normalize, baseName_normalize] at how above
              rw [nodeAt_normalize] at there
              rcases how with ⟨nodes, parent, called, rfl, left⟩ |
                ⟨renamed, name, called, rfl, ⟨stays, left⟩ | ⟨leaves, left⟩⟩
              · rw [left]
                exact .relocation last raised called
              · rw [left]
                exact .notRenamed last raised called stays
              · exact .halfway last raised called leaves
                  (hasLeft rooted below there above leaves left)

end

/-! ## The report -/

/-- What a move that failed says of the tree is so: either nothing has changed, and the status is
that of what failed, or the node is where the error says. -/
inductive Reported (platform : Platform) (drive : Drive) (s d : JsString) (trace : SdkTrace)
    (error : Thrown) : Drive → Prop
  | failed {fault : SdkError} (last : lastFault platform trace = some fault)
      (mapped : error.status = (mapSdkError platform fault).httpStatus)
      (whole : ∀ landed, error ≠ .gateway (partiallyMoved (normalize d) landed)) :
      Reported platform drive s d trace error drive
  | refused {reason : GatewayError} (settled : lastFault platform trace = none)
      (refuses : refusal platform drive s d = some reason)
      (mapped : error.status = reason.httpStatus)
      (whole : ∀ landed, error ≠ .gateway (partiallyMoved (normalize d) landed)) :
      Reported platform drive s d trace error drive
  | partly {final : Drive} (left : HasLeft platform drive s d final)
      (tells : error = .gateway (partialMove s d)) :
      Reported platform drive s d trace error final

/-- The move failed neither at a lookup whose error has a status of its own, nor at the renaming
of a node that stays in its folder. -/
def FailsPlainly (platform : Platform) (s d : JsString) (trace : SdkTrace) : Prop :=
  ∀ call fault, Program.lastCall SdkCall.counted trace = some call →
    raisedError platform call.1 call.2 = some fault →
    (call.1.isLookup = true → (mapSdkError platform fault).httpStatus = 500) ∧
      ∀ node name, call.1 = .renameNode node name → parentPath s ≠ parentPath d

section

variable {platform : Platform} {drive : Drive} {world final : ServiceWorld} {trace : SdkTrace}
  {s d landed : JsString}

theorem lastFault_eq {call : SdkExchange}
    (last : Program.lastCall SdkCall.counted trace = some call) :
    lastFault platform trace = raisedError platform call.1 call.2 := by
  rw [lastFault, last, Option.bind_some]

/-- No error of the SDK is taken for a move that was done in part. -/
theorem mapSdkError_ne_partiallyMoved (fault : SdkError) :
    mapSdkError platform fault ≠ partiallyMoved d landed := by
  intro equal
  have status : ∀ {first second : GatewayError}, first = second →
      first.httpStatus = second.httpStatus := congrArg GatewayError.httpStatus
  have head : ∀ {first second : GatewayError}, first = second →
      first.message.head? = second.message.head? :=
    congrArg fun error => (GatewayError.message error).head?
  unfold mapSdkError at equal
  split at equal
  · cases status equal
  · cases status equal
  · cases status equal
  · cases status equal
  · cases status equal
  · cases status equal
  · split at equal
    · cases status equal
    · cases head equal
  · cases head equal

theorem sourceRefusal_status {reason : GatewayError}
    (refuses : sourceRefusal platform drive s = some reason) : reason.httpStatus < 500 := by
  unfold sourceRefusal at refuses
  split at refuses
  · split at refuses
    · cases refuses
      exact Nat.le_of_ble_eq_true rfl
    · cases refuses
  · cases refuses
    exact Nat.le_of_ble_eq_true rfl

theorem destinationRefusal_status {reason : GatewayError}
    (refuses : destinationRefusal platform drive d = some reason) : reason.httpStatus < 500 := by
  unfold destinationRefusal at refuses
  split at refuses
  · split at refuses
    · cases refuses
      exact Nat.le_of_ble_eq_true rfl
    · split at refuses
      · cases refuses
        exact Nat.le_of_ble_eq_true rfl
      · split at refuses
        · cases refuses
          exact Nat.le_of_ble_eq_true rfl
        · split at refuses
          · cases refuses
            exact Nat.le_of_ble_eq_true rfl
          · cases refuses
  · cases refuses
    exact Nat.le_of_ble_eq_true rfl

theorem refusal_status {reason : GatewayError}
    (refuses : refusal platform drive s d = some reason) : reason.httpStatus < 500 := by
  unfold refusal at refuses
  split at refuses
  · cases refuses
    exact Nat.le_of_ble_eq_true rfl
  · split at refuses
    · cases refuses
      exact Nat.le_of_ble_eq_true rfl
    · rcases Option.or_eq_some_iff.mp refuses with source | ⟨_, destination⟩
      · exact sourceRefusal_status source
      · exact destinationRefusal_status destination

/-- A node that has left is not where it was. -/
theorem HasLeft.ne (left : HasLeft platform drive s d drive) : False := by
  rcases left.moved with ⟨node, folder, found, _, _, apart, same⟩
  have fetched := Drive.getNode_of_visit (visit_of_nodeAt found)
  rcases Drive.getNode_eq_some.mp fetched with ⟨stored, located, entity⟩
  have moved := congrArg (fun tree => tree.nodes.get node.uid) same
  rw [reparented, Drive.get_alter, located, Option.map_some, if_pos rfl] at moved
  apply apart
  rw [← entity]
  exact congrArg DriveNode.parentUid (Option.some.inj moved)

/-- What a move reports is true exactly if it did not fail at a lookup whose error has a status
of its own, or at renaming a node that stays in its folder. -/
theorem reported_iff {error : Thrown} (hasRoot : drive.HasRoot) (rooted : drive.Rooted platform)
    (same : world.remote = drive) (accurate : Accurate platform world)
    (executes : (move platform s d).Executes (Faulty platform) world trace (.error error) final) :
    Reported platform drive s d trace error final.remote ↔ FailsPlainly platform s d trace := by
  have failure := executes_move hasRoot rooted same accurate executes
  generalize final.remote = tree at failure ⊢
  cases failure with
  | refused settled reason =>
      constructor
      · intro _ call fault last raised
        rw [lastFault_eq last, raised] at settled
        cases settled
      · intro _
        apply Reported.refused settled reason rfl
        intro landed equal
        have status := refusal_status reason
        rw [Thrown.gateway.inj equal] at status
        exact absurd status (Nat.lt_irrefl 500)
  | @lookup call fault last raised lookup =>
      have known := (lastFault_eq last).trans raised
      constructor
      · intro report other reported lastToo raisedToo
        cases last.symm.trans lastToo
        cases raised.symm.trans raisedToo
        refine ⟨?_, fun node name called => by rw [called] at lookup; cases lookup⟩
        intro _
        cases report with
        | failed lastFault mapped =>
            cases known.symm.trans lastFault
            exact mapped.symm
        | refused settled => cases known.symm.trans settled
        | partly _ tells => cases tells
      · intro plain
        have status := (plain call fault last raised).1 lookup
        exact .failed known status.symm nofun
  | @relocation call fault nodes parent last raised called =>
      constructor
      · intro _ other reported lastToo _
        cases last.symm.trans lastToo
        rw [called]
        refine ⟨nofun, ?_⟩
        intro node name renamed
        cases renamed
      · intro _
        apply Reported.failed ((lastFault_eq last).trans raised) rfl
        intro landed equal
        exact mapSdkError_ne_partiallyMoved fault (Thrown.gateway.inj equal)
  | @notRenamed call fault node name last raised called stays =>
      constructor
      · intro report
        cases report with
        | failed _ _ whole => exact absurd rfl (whole _)
        | refused _ _ _ whole => exact absurd rfl (whole _)
        | partly left => exact left.ne.elim
      · intro plain
        exact absurd stays ((plain call fault last raised).2 node name called)
  | @halfway call fault node name final last raised called leaves left =>
      constructor
      · intro _ other reported lastToo _
        cases last.symm.trans lastToo
        rw [called]
        exact ⟨nofun, fun _ _ _ => leaves⟩
      · exact fun _ => .partly left rfl

end

/-! ## A rename that is refused -/

/-- The SDK of a tree whose renames are all refused. -/
def withoutRenames (world : ServiceWorld) (command : SdkCall) :
    Except Thrown (SdkAnswer command) × ServiceWorld :=
  match command with
  | .renameNode _ _ => (.error (.sdk ⟨.rateLimited, "Too many requests"⟩), world)
  | command => (TreeSdk.answer (.plain [])).respond world command

theorem executes_withoutRenames {α : Type} (program : SdkOperation α) (world : ServiceWorld) :
    ∃ trace, program.Executes (Faulty (.plain [])) world trace
      (program.run withoutRenames world).1 (program.run withoutRenames world).2 := by
  apply Program.executes_run
  · intro world command
    cases command with
    | _ => rfl
  · intro world command
    cases command with
    | renameNode node name => exact .rejected _ _ _
    | _ => exact .answered _ _

/-- The file has gone to `/b/x`, and this is what the error says. -/
theorem movedOnly_reported : ∃ trace final,
    (move (.plain []) "/a/x" "/b/y").Executes (Faulty (.plain [])) ⟨.initial 0, twoFolders []⟩
        trace (.error (.gateway (partialMove "/a/x" "/b/y"))) final ∧
      (Reported (.plain []) (twoFolders []) "/a/x" "/b/y" trace
          (.gateway (partialMove "/a/x" "/b/y")) final.remote ↔
        FailsPlainly (.plain []) "/a/x" "/b/y" trace) := by
  rcases executes_withoutRenames (move (.plain []) "/a/x" "/b/y")
    ⟨.initial 0, twoFolders []⟩ with ⟨trace, executes⟩
  refine ⟨trace, _, executes, reported_iff ⟨topFolder, rfl, rfl⟩ ?_ rfl (.initial 0 _) executes⟩
  exact (Drive.isTree_of_entries (by decide) (by decide)).rooted

/-- The file has stayed at `/a/x`, and the error says that it is now there and not at `/a/y`. -/
theorem unmoved_misreported : ∃ trace final,
    (move (.plain []) "/a/x" "/a/y").Executes (Faulty (.plain [])) ⟨.initial 0, twoFolders []⟩
        trace (.error (.gateway (.plain ("Partially completed move: the file is now at /a/x, " ++
          "not /a/y. Rename it or move it back." : String) 500))) final ∧
      final.remote = twoFolders [] ∧
      ¬Reported (.plain []) (twoFolders []) "/a/x" "/a/y" trace
        (.gateway (partialMove "/a/x" "/a/y")) final.remote := by
  rcases executes_withoutRenames (move (.plain []) "/a/x" "/a/y")
    ⟨.initial 0, twoFolders []⟩ with ⟨trace, executes⟩
  have wrong : ∀ tree, tree = twoFolders [] → ¬Reported (.plain []) (twoFolders []) "/a/x" "/a/y"
      trace (.gateway (partialMove "/a/x" "/a/y")) tree := by
    intro tree same report
    cases report with
    | failed _ _ whole => exact whole _ rfl
    | refused _ _ _ whole => exact whole _ rfl
    | partly left =>
        rw [same] at left
        exact left.ne
  exact ⟨trace, _, executes, rfl, wrong _ rfl⟩

end DriveWebdav
