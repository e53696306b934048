import DriveWebdav.Foundation.Machine
import DriveWebdav.MockGateway.TreeOperations
import DriveWebdav.MockGateway.Upload
import DriveWebdav.Webdav.Handlers

/-! # Trees that can be written down

Whatever is done with the gateway in memory, its tree can be written down and read back, as long
as every date can be and nothing is put in the place of the root. -/

namespace DriveWebdav

/-- The gateway with the uploads whose bodies are still arriving. -/
structure MockRun where
  gateway : MockGateway
  uploads : List MockGateway.Upload

namespace MockRun

def fresh (clientUid : JsString) : MockRun := ⟨⟨clientUid, .nil, .none, 0⟩, []⟩

/-- What can happen: a request that is handled at once, a helper of the tests, a step of an upload
or a restart. The folder that an upload holds may have been moved since, with the upload's draft
in it or without; `folder` is where each of them is by now, if anywhere. -/
inductive Event
  | mkcol (now : Date) (path : JsString)
  | remove (path : JsString)
  | move (src dst : JsString)
  | copy (src dst : JsString)
  | seedFile (now : Date) (path : JsString) (data : Bytes) (mtime : Date)
  | seedDraft (now : Date) (path clientUid : JsString)
  | seedDirs (now : Date) (path : JsString)
  | setFaults (faults : Faults)
  | begin (path : JsString) (opts : PutOptions)
  | receive (index : Nat) (chunk : Bytes) (folder : Option JsString)
  | breakOff (index : Nat)
  | finish (index : Nat) (folder : JsString) (ownDraft : Bool) (now : Date)
  | restart (now : Date)

/-- An upload, as if it had begun in the folder where its own is by now. -/
def within (folder : JsString) (upload : MockGateway.Upload) : MockGateway.Upload :=
  { upload with path := join folder (baseName upload.path) }

def begun (path : JsString) (opts : PutOptions) (run : MockRun) : MockRun :=
  match MockGateway.beginPut path opts run.gateway with
  | (.ok (.receiving upload), gateway) => ⟨gateway, run.uploads ++ [upload]⟩
  | (_, gateway) => ⟨gateway, run.uploads⟩

/-- A draft that is nowhere in the tree counts the bytes unseen. -/
def received (index : Nat) (upload : MockGateway.Upload) (chunk : Bytes)
    (folder : Option JsString) (run : MockRun) : MockRun :=
  let arrived := { upload with data := upload.data ++ chunk }
  let gateway := match folder with
    | none => run.gateway
    | some folder => run.gateway.noteReceived (within folder arrived)
  if arrived.drop.any fun drop => drop ≤ arrived.data.length then
    ⟨gateway, run.uploads.eraseIdx index⟩
  else ⟨gateway, run.uploads.set index arrived⟩

/-- An upload that fails deletes its draft only where it is still its own. -/
def finished (digest : Bytes → JsString) (index : Nat) (upload : MockGateway.Upload)
    (folder : JsString) (ownDraft : Bool) (now : Date) (run : MockRun) : MockRun :=
  let gateway := match MockGateway.finishPut digest now (within folder upload) run.gateway with
    | (.ok _, gateway) => gateway
    | (.error _, gateway) => if ownDraft then gateway else run.gateway
  ⟨gateway, run.uploads.eraseIdx index⟩

/-- No run goes on from a root that is moved: it would contain itself, which is no tree. -/
def machine (digest : Bytes → JsString) : Machine MockRun Event
  | run, .mkcol now path => some { run with gateway := (MockGateway.mkcol now path run.gateway).2 }
  | run, .remove path => some { run with gateway := (MockGateway.remove path run.gateway).2 }
  | run, .move src dst =>
      if isRoot src then none
      else some { run with gateway := (MockGateway.move src dst run.gateway).2 }
  | run, .copy src dst => some { run with gateway := (MockGateway.copy src dst run.gateway).2 }
  | run, .seedFile now path data mtime =>
      some { run with gateway := run.gateway.seedFile digest now path data mtime }
  | run, .seedDraft now path clientUid =>
      some { run with gateway := run.gateway.seedDraft now path clientUid }
  | run, .seedDirs now path => some { run with gateway := run.gateway.seedDirs now path }
  | run, .setFaults faults => some { run with gateway := { run.gateway with faults } }
  | run, .begin path opts => some (run.begun path opts)
  | run, .receive index chunk folder =>
      run.uploads[index]?.map fun upload => run.received index upload chunk folder
  | run, .breakOff index => some { run with uploads := run.uploads.eraseIdx index }
  | run, .finish index folder ownDraft now =>
      run.uploads[index]?.map fun upload => run.finished digest index upload folder ownDraft now
  | run, .restart now => (run.gateway.restart now).map fun gateway => ⟨gateway, []⟩

/-- Nothing is put in the place of the root, nor the root elsewhere, and what is stored is given a
date that can be written down. -/
def Storable (run : MockRun) : Event → Prop
  | .move src dst => isRoot src = false ∧ isRoot dst = false
  | .copy _ dst => isRoot dst = false
  | .seedFile _ path _ mtime => isRoot path = false ∧ mtime.IsValid
  | .seedDraft _ path _ => isRoot path = false
  | .finish index _ _ now => ∀ upload, run.uploads[index]? = some upload →
      (upload.opts.mtime.getD now).IsValid
  | _ => True

/-- What the text of the tree is read back as, by any gateway: every folder, file and draft is at
its path as it was, and the bytes in use are the same. -/
def RoundTrips (gateway : MockGateway) : Prop :=
  ∃ snapshot, gateway.serialize = some snapshot ∧ ∀ now other, ∃ restored,
    MockGateway.restore now other snapshot = some restored ∧
      restored.usedBytes = gateway.usedBytes ∧
      ∀ path, restored.root.kindAt path = gateway.root.kindAt path

end MockRun

namespace MockGateway

variable {gateway : MockGateway} {root : MockEntries} {path p : JsString} {node : MockNode}
  {now : Date}

/-- What the walk adds does not count the bytes in use. -/
theorem walk_usedBytes {entries : MockEntries} {above : JsString} {out snapshot : Snapshot}
    (written : walk entries above out = some snapshot) : snapshot.usedBytes = out.usedBytes := by
  induction entries generalizing above out snapshot with
  | nil =>
      cases written
      rfl
  | leaf name value rest induction =>
      cases value with
      | file file =>
          rcases Option.bind_eq_some_iff.mp written with ⟨mtime, _, written⟩
          have kept := induction written
          exact kept
      | draft draft =>
          rw [walk] at written
          have kept := induction written
          exact kept
  | folder name info children rest induction others =>
      rcases Option.bind_eq_some_iff.mp written with ⟨middle, inside, written⟩
      have first := induction inside
      exact (others written).trans first

/-- A tidy tree is read back as it was. -/
theorem Tidy.roundTrips (tidy : Tidy gateway.root) : MockRun.RoundTrips gateway := by
  rcases serialize_recorded gateway tidy with ⟨snapshot, written, recorded⟩
  refine ⟨snapshot, written, ?_⟩
  intro now other
  rcases restore_snapshot now tidy recorded other with ⟨final, restored, _, same⟩
  exact ⟨_, restored, walk_usedBytes written, same⟩

/-! ## What keeps a tree tidy -/

theorem Tidy.setNode {name : JsString} (tidy : Tidy root) (piece : IsSegment name)
    (unique : node.Unique) (dated : Dated node.kind)
    (below : node.Below fun name kind => IsSegment name ∧ Dated kind) :
    Tidy (root.set name node) where
  unique := tidy.unique.set unique
  entries := tidy.entries.set ⟨piece, dated⟩ below

/-- An operation keeps a tidy tree tidy. -/
def KeepsTidy {α : Type} (operation : MockOperation α) : Prop :=
  ∀ gateway, Tidy gateway.root → Tidy (operation gateway).2.root

theorem keepsTidy_ticked {α : Type} {op : JsString} {rest : MockOperation α}
    (keeps : KeepsTidy rest) : KeepsTidy (ticked op rest) := by
  intro gateway tidy
  cases fails : gateway.fails op with
  | true =>
      rw [ticked_of_fails fails]
      exact tidy
  | false =>
      rw [ticked_of_not_fails fails]
      exact keeps gateway tidy

theorem inside_of_notRoot (below : isRoot p = false) : segments p ≠ [] := by
  intro none
  rw [isRoot_iff.mpr none] at below
  cases below

theorem piece_of_notRoot (below : isRoot p = false) : IsSegment (baseName (normalize p)) := by
  rw [baseName_normalize]
  exact isSegment_baseName (inside_of_notRoot below)

theorem keepsTidy_mkcol (now : Date) (path : JsString) : KeepsTidy (mkcol now path) := by
  apply keepsTidy_ticked
  intro gateway tidy
  dsimp only
  split
  · exact tidy
  · next below =>
      rw [isRoot_normalize, Bool.not_eq_true] at below
      split
      · exact tidy
      · split
        · exact tidy
        · exact tidy_inDir tidy fun _ held =>
            held.setNode (piece_of_notRoot below) trivial trivial trivial

theorem keepsTidy_remove (path : JsString) : KeepsTidy (remove path) := by
  apply keepsTidy_ticked
  intro gateway tidy
  dsimp only
  split
  · exact tidy
  · split
    · exact tidy
    · split
      · exact tidy
      · exact tidy
      · exact tidy_inDir tidy fun _ held => held.delete

theorem tidy_putNode {d : JsString} {prepare : MockGateway → MockGateway}
    (tidy : Tidy gateway.root) (prepared : Tidy (prepare gateway).root)
    (piece : IsSegment (baseName d)) (unique : node.Unique) (dated : Dated node.kind)
    (below : node.Below fun name kind => IsSegment name ∧ Dated kind) :
    Tidy (putNode d node prepare gateway).2.root := by
  unfold putNode
  split
  · exact tidy
  · split
    · exact tidy
    · exact tidy_inDir prepared fun _ held => held.setNode piece unique dated below

/-- What is found in a tidy tree, the root apart, may stand anywhere in it. -/
theorem Tidy.lookup (tidy : Tidy gateway.root) (inside : segments p ≠ [])
    (found : gateway.lookup p = some node) :
    node.Unique ∧ Dated node.kind ∧ node.Below fun name kind => IsSegment name ∧ Dated kind := by
  have reached : gateway.rootNode.lookup (segments p) = some node := by
    unfold MockGateway.lookup at found
    split at found
    · cases found
    · exact found
  rcases List.exists_cons_of_ne_nil inside with ⟨name, path, shape⟩
  rw [rootNode] at reached
  have unique := tidy.unique.lookup reached
  rw [shape] at reached
  rcases tidy.entries.lookup reached with ⟨⟨last, holds⟩, below⟩
  exact ⟨unique, holds.2, below⟩

theorem keepsTidy_move {src dst : JsString} (fromBelow : isRoot src = false)
    (toBelow : isRoot dst = false) : KeepsTidy (move src dst) := by
  apply keepsTidy_ticked
  intro gateway tidy
  dsimp only
  split
  · exact tidy
  · next node found =>
      have inside := inside_of_notRoot fromBelow
      rw [← segments_normalize] at inside
      rcases tidy.lookup inside found with ⟨unique, dated, below⟩
      have prepared : Tidy (gateway.inDir (normalize src) fun children =>
          children.delete (baseName (normalize src))).root :=
        tidy_inDir tidy fun _ held => held.delete
      exact tidy_putNode tidy prepared (piece_of_notRoot toBelow) unique dated below

theorem keepsTidy_copy {src dst : JsString} (toBelow : isRoot dst = false) :
    KeepsTidy (copy src dst) := by
  apply keepsTidy_ticked
  intro gateway tidy
  dsimp only
  split
  · exact tidy
  · next file found =>
      have inside : segments (normalize src) ≠ [] := by
        intro none
        rw [MockGateway.lookup, none] at found
        cases found
      rcases tidy.lookup inside found with ⟨unique, dated, below⟩
      exact tidy_putNode tidy tidy (piece_of_notRoot toBelow) unique dated below
  · exact tidy

/-! ## Uploads -/

variable {opts : PutOptions} {upload : Upload} {digest : Bytes → JsString}

theorem keepsTidy_beginPut (path : JsString) (opts : PutOptions) :
    KeepsTidy (beginPut path opts) := by
  apply keepsTidy_ticked
  intro gateway tidy
  dsimp only
  split
  · exact tidy
  · split
    · exact tidy
    · next named =>
        rw [Bool.or_eq_true, not_or, Bool.not_eq_true', Bool.not_eq_false] at named
        have piece := isSegment_of_isSafeSegment named.2
        split
        · exact tidy
        · unfold beginIn
          split
          · exact tidy
          · split
            · exact tidy
            · split
              · exact tidy
              · exact tidy
          · split
            · exact tidy
            · exact tidy_inDir tidy fun _ held => held.delete.set piece trivial
          · exact tidy_inDir tidy fun _ held => held.set piece trivial

theorem path_of_receiving {isRevision : Bool} {revisions : Nat}
    (begins : (gateway.receiving p opts isRevision revisions).1 = .ok (.receiving upload)) :
    upload.path = p := by
  cases begins
  rfl

/-- An upload is not begun at the root. -/
theorem inside_of_beginPut (begins : (beginPut path opts gateway).1 = .ok (.receiving upload)) :
    segments upload.path ≠ [] := by
  unfold beginPut at begins
  cases fails : gateway.fails "put" with
  | true =>
      rw [ticked_of_fails fails] at begins
      cases begins
  | false =>
      rw [ticked_of_not_fails fails] at begins
      split at begins
      · cases begins
      · split at begins
        · cases begins
        · next named =>
            have same : upload.path = normalize path := by
              split at begins
              · cases begins
              · unfold beginIn at begins
                split at begins
                · cases begins
                · split at begins
                  · cases begins
                  · split at begins
                    · cases begins
                    · exact path_of_receiving begins
                · split at begins
                  · cases begins
                  · exact path_of_receiving begins
                · exact path_of_receiving begins
            rw [Bool.or_eq_true, not_or, Bool.not_eq_true] at named
            rw [same]
            exact inside_of_notRoot named.1

theorem piece_within (inside : segments upload.path ≠ []) (folder : JsString) :
    IsSegment (baseName (MockRun.within folder upload).path) := by
  apply isSegment_baseName
  rw [MockRun.within, segments_join, segments_of_isSegment (isSegment_baseName inside)]
  exact List.append_ne_nil_of_right_ne_nil _ (List.cons_ne_nil _ _)

theorem tidy_noteReceived (tidy : Tidy gateway.root) (piece : IsSegment (baseName upload.path)) :
    Tidy (gateway.noteReceived upload).root := by
  unfold noteReceived
  split
  · exact tidy
  · exact tidy_inDir tidy fun _ held => held.set piece trivial

theorem tidy_finishPut (tidy : Tidy gateway.root) (piece : IsSegment (baseName upload.path))
    (dated : (upload.opts.mtime.getD now).IsValid) :
    Tidy (finishPut digest now upload gateway).2.root := by
  unfold finishPut
  split
  · exact tidy
  · split
    · dsimp only
      split
      · exact tidy
      · exact tidy_inDir tidy fun _ held => held.delete
    · exact tidy_inDir tidy fun _ held => held.set piece dated

/-! ## Seeding -/

theorem tidy_reseed {made : Option MockEntries} (tidy : Tidy gateway.root)
    (keeps : ∀ root, made = some root → Tidy root) : Tidy (gateway.reseed made).root := by
  cases made with
  | none => exact tidy
  | some root => exact keeps root rfl

end MockGateway

namespace MockRun

variable {digest : Bytes → JsString} {run next : MockRun} {event : Event}

/-- The tree is tidy, and no upload is to the root. -/
structure Sound (run : MockRun) : Prop where
  tidy : MockGateway.Tidy run.gateway.root
  inside : ∀ upload ∈ run.uploads, segments upload.path ≠ []

theorem Sound.keep {gateway : MockGateway} (sound : Sound run)
    (tidy : MockGateway.Tidy gateway.root) : Sound { run with gateway := gateway } :=
  ⟨tidy, sound.inside⟩

theorem Sound.begun (sound : Sound run) (path : JsString) (opts : PutOptions) :
    Sound (run.begun path opts) := by
  have tidy := MockGateway.keepsTidy_beginPut path opts run.gateway sound.tidy
  have inside := @MockGateway.inside_of_beginPut run.gateway path opts
  unfold MockRun.begun
  rcases begins : MockGateway.beginPut path opts run.gateway with ⟨outcome, gateway⟩
  rw [begins] at tidy inside
  cases outcome with
  | error error => exact sound.keep tidy
  | ok start =>
      cases start with
      | skipped => exact sound.keep tidy
      | receiving upload =>
          refine ⟨tidy, ?_⟩
          intro other member
          rcases List.mem_append.mp member with before | here
          · exact sound.inside other before
          · rw [List.mem_singleton.mp here]
            exact inside rfl

theorem Sound.received {index : Nat} {upload : MockGateway.Upload} (sound : Sound run)
    (member : upload ∈ run.uploads) (chunk : Bytes) (folder : Option JsString) :
    Sound (run.received index upload chunk folder) := by
  have inside := sound.inside upload member
  have tidy : MockGateway.Tidy (match folder with
      | none => run.gateway
      | some folder => run.gateway.noteReceived
          (within folder { upload with data := upload.data ++ chunk })).root := by
    cases folder with
    | none => exact sound.tidy
    | some folder =>
        exact MockGateway.tidy_noteReceived sound.tidy (MockGateway.piece_within inside folder)
  unfold MockRun.received
  dsimp only
  split
  · exact ⟨tidy, fun other left => sound.inside other (List.mem_of_mem_eraseIdx left)⟩
  · refine ⟨tidy, ?_⟩
    intro other left
    rcases List.mem_or_eq_of_mem_set left with before | rfl
    · exact sound.inside other before
    · exact inside

theorem Sound.finished {index : Nat} {upload : MockGateway.Upload} {now : Date}
    (sound : Sound run) (member : upload ∈ run.uploads) (folder : JsString) (ownDraft : Bool)
    (dated : (upload.opts.mtime.getD now).IsValid) :
    Sound (run.finished digest index upload folder ownDraft now) := by
  have inside := sound.inside upload member
  have tidy := @MockGateway.tidy_finishPut run.gateway now (within folder upload) digest
    sound.tidy (MockGateway.piece_within inside folder) dated
  refine ⟨?_, fun other left => sound.inside other (List.mem_of_mem_eraseIdx left)⟩
  unfold MockRun.finished
  dsimp only
  split
  · next outcome =>
      rw [outcome] at tidy
      exact tidy
  · next outcome =>
      rw [outcome] at tidy
      split
      · exact tidy
      · exact sound.tidy

theorem Sound.step (sound : Sound run) (storable : Storable run event)
    (stepped : machine digest run event = some next) : Sound next := by
  cases event with
  | mkcol now path =>
      cases stepped
      exact sound.keep (MockGateway.keepsTidy_mkcol now path _ sound.tidy)
  | remove path =>
      cases stepped
      exact sound.keep (MockGateway.keepsTidy_remove path _ sound.tidy)
  | move src dst =>
      rcases Option.ite_none_left_eq_some.mp stepped with ⟨_, stepped⟩
      cases stepped
      exact sound.keep (MockGateway.keepsTidy_move storable.1 storable.2 _ sound.tidy)
  | copy src dst =>
      cases stepped
      exact sound.keep (MockGateway.keepsTidy_copy storable _ sound.tidy)
  | seedFile now path data mtime =>
      cases stepped
      apply sound.keep
      apply MockGateway.tidy_reseed sound.tidy
      intro root placed
      have dated : MockGateway.Dated (.leaf (.file ⟨data, digest data, mtime, 1⟩)) := storable.2
      exact MockGateway.place_tidy sound.tidy dated
        (MockGateway.inside_of_notRoot storable.1) placed
  | seedDraft now path clientUid =>
      cases stepped
      apply sound.keep
      apply MockGateway.tidy_reseed sound.tidy
      intro root placed
      have dated : MockGateway.Dated (.leaf (.draft ⟨clientUid, 0⟩)) := trivial
      exact MockGateway.place_tidy sound.tidy dated
        (MockGateway.inside_of_notRoot storable) placed
  | seedDirs now path =>
      cases stepped
      apply sound.keep
      apply MockGateway.tidy_reseed sound.tidy
      intro root made
      exact MockGateway.ensureDirs_tidy sound.tidy made
  | setFaults faults =>
      cases stepped
      exact sound.keep sound.tidy
  | begin path opts =>
      cases stepped
      exact sound.begun path opts
  | receive index chunk folder =>
      rcases Option.map_eq_some_iff.mp stepped with ⟨upload, here, rfl⟩
      exact sound.received (List.mem_of_getElem? here) chunk folder
  | breakOff index =>
      cases stepped
      exact ⟨sound.tidy, fun other left => sound.inside other (List.mem_of_mem_eraseIdx left)⟩
  | finish index folder ownDraft now =>
      rcases Option.map_eq_some_iff.mp stepped with ⟨upload, here, rfl⟩
      exact sound.finished (List.mem_of_getElem? here) folder ownDraft (storable upload here)
  | restart now =>
      rcases Option.map_eq_some_iff.mp stepped with ⟨gateway, restarted, rfl⟩
      rcases MockGateway.restart_tidy sound.tidy now with ⟨again, same, _, tidy, _⟩
      cases restarted.symm.trans same
      exact ⟨tidy, nofun⟩

/-- In every run that puts nothing in the place of the root and stores no date that cannot be
written down, the tree can at any time be written down, and any gateway reads back the same. -/
theorem roundTrips_of_storable {clientUid : JsString} {events : List Event} {final : MockRun}
    (ran : (machine digest).play (fresh clientUid) events = some final)
    (obeys : (machine digest).Obeys Storable (fresh clientUid) events) :
    RoundTrips final.gateway := by
  have begins : Sound (fresh clientUid) := ⟨⟨trivial, trivial⟩, nofun⟩
  have sound := Machine.invariant_of_obeys Sound begins
    (fun _ _ _ sound storable stepped => sound.step storable stepped) ran obeys
  exact sound.tidy.roundTrips

/-! ## Dates from requests -/

/-- What `X-OC-Mtime` gives can be written down exactly if it is a number of seconds that a date
can hold. -/
theorem isValid_ofSeconds (seconds : Option Int) :
    (Date.ofMilliseconds (seconds.map fun value => value * 1000)).IsValid ↔
      ∃ value, seconds = some value ∧
        -Date.maxMilliseconds ≤ value * 1000 ∧ value * 1000 ≤ Date.maxMilliseconds := by
  constructor
  · rintro ⟨milliseconds, named, _⟩
    rcases Option.filter_eq_some_iff.mp named with ⟨same, within⟩
    rcases Option.map_eq_some_iff.mp same with ⟨value, rfl, rfl⟩
    rw [Bool.and_eq_true, decide_eq_true_eq, decide_eq_true_eq] at within
    exact ⟨value, rfl, within⟩
  · rintro ⟨value, rfl, low, high⟩
    have named : (Date.ofMilliseconds (some (value * 1000))).toISOString =
        some (value * 1000) := by
      simp [Date.ofMilliseconds, Date.toISOString, low, high]
    exact ⟨value * 1000, named, rfl⟩

/-- A PUT with a modification time in its header. -/
def datedPut (path time : JsString) : Request where
  method := "PUT"
  pathname := path
  header name := if name = "X-OC-Mtime" then some time else none
  body := some .done
  text := none

def datedOptions (path time : JsString) : PutOptions :=
  putOptions ⟨false, none, false⟩ (datedPut path time)

/-- The folder of an upload is moved while the body arrives. -/
def movedUpload : List Event :=
  [.seedDirs ⟨some 0⟩ "/a/b", .begin "/a/f" (datedOptions "/a/f" "17"),
    .receive 0 [65, 66] (some "/a"), .move "/a" "/c", .finish 0 "/c" true ⟨some 0⟩]

def movedTree : MockEntries :=
  .folder "c" ⟨some 0⟩ (.folder "b" ⟨some 0⟩ .nil
    (.leaf "f" (.file ⟨[65, 66], [], ⟨some 17000⟩, 1⟩) .nil)) .nil

set_option maxRecDepth 8000 in
theorem movedUpload_roundTrips :
    (machine fun _ => []).play (fresh "me") movedUpload =
        some ⟨⟨"me", movedTree, .none, 2⟩, []⟩ ∧
      RoundTrips ⟨"me", movedTree, .none, 2⟩ := by
  have ran : (machine fun _ => []).play (fresh "me") movedUpload =
      some ⟨⟨"me", movedTree, .none, 2⟩, []⟩ := rfl
  refine ⟨ran, roundTrips_of_storable ran ?_⟩
  unfold movedUpload
  refine Machine.Obeys.cons ?_ (show machine _ _ _ = some _ from rfl) ?_
  · trivial
  refine Machine.Obeys.cons ?_ (show machine _ _ _ = some _ from rfl) ?_
  · trivial
  refine Machine.Obeys.cons ?_ (show machine _ _ _ = some _ from rfl) ?_
  · trivial
  refine Machine.Obeys.cons ?_ (show machine _ _ _ = some _ from rfl) ?_
  · exact ⟨rfl, rfl⟩
  refine Machine.Obeys.cons ?_ (show machine _ _ _ = some _ from rfl) (Machine.obeys_nil _)
  intro upload here
  cases here
  exact (isValid_ofSeconds (some 17)).mpr ⟨17, rfl, by decide, by decide⟩

/-- A modification time that is no number is stored, and then the tree cannot be written down. -/
theorem undatedUpload_unwritable : ∃ final,
    (machine fun _ => []).play (fresh "me")
        [.begin "/f" (datedOptions "/f" "soon"), .finish 0 "/" true ⟨some 0⟩] = some final ∧
      final.gateway.serialize = none ∧ ¬RoundTrips final.gateway := by
  refine ⟨_, rfl, rfl, ?_⟩
  rintro ⟨snapshot, written, _⟩
  cases written

end MockRun

end DriveWebdav
