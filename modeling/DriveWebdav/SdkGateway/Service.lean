import DriveWebdav.SdkGateway.StoreDouble
import DriveWebdav.SdkGateway.StoreMove
import DriveWebdav.SdkGateway.StorePut
import DriveWebdav.SdkGateway.Visibility

/-! # The service over the SDK

The requests of one client, over an SDK whose calls may fail at any time, in a tree that nobody
else changes. -/

namespace DriveWebdav

variable {platform : Platform} {world last : ServiceWorld} {α : Type}

theorem looks_of_makes {program : SdkOperation α} (normal : Makes (keyRules platform) program)
    (anchored : Makes (anchorRules platform) program) : (sdkView platform).Looks program := by
  intro world steady
  apply (steady_reads normal anchored ⟨steady, rfl⟩).mono
  rintro _ reached ⟨steady, same⟩
  exact ⟨steady, congrArg (Drive.tree platform) same⟩

/-- The gateway over the SDK serves the tree that is seen of the drive. -/
theorem shows_sdkView (platform : Platform) :
    (sdkView platform).Shows (sdkGateway platform) where
  mkcol := does_mkcol
  remove := does_remove
  move := does_move
  copy := does_copy
  put := does_put
  stat _ := looks_of_makes (makes_stat tolerant_keyRules trivial)
    (makes_stat anchoring_anchorRules.tolerant trivial)
  list path := looks_of_makes (normalKeys_list path)
    (Looks.makes fun _ => looks_list anchoring_anchorRules trivial)
  read _ range := looks_of_makes (makes_read tolerant_keyRules trivial range)
    (makes_read anchoring_anchorRules.tolerant trivial range)
  quota := by
    apply looks_of_makes
    · exact ((Makes.ask rfl).bind fun _ => .pure _).tryCatch fun _ => .pure _
    · exact ((anchoring_anchorRules.tolerant.lookup rfl).bind fun _ => .pure _).tryCatch
        fun _ => .pure _
  guards world guard steady := by
    have fewer : world.memory.Fewer { world.memory with guard } := .refl world.memory
    have spares : Drive.Spares platform (fun _ => True) world.remote world.remote :=
      steady.sound.spares
    exact Steady.spared steady spares (fun _ _ => trivial) fewer fun _ _ _ => trivial
  idles world next steady waited :=
    ⟨Steady.waits steady waited, congrArg (Drive.tree platform) waited.1⟩

theorem steady_initial {drive : Drive} (sound : drive.Sound platform) (now : Nat) :
    Steady platform ⟨.initial now, drive⟩ := by
  refine ⟨.initial now sound.proper, ?_, sound⟩
  intro key cached held
  cases held

/-- Whatever requests a client sends, there is a session of them. -/
theorem exists_session (lower : ∀ bytes, (platform.sha1 bytes).toLowerCase = platform.sha1 bytes)
    (opts : WebdavOptions) (reqs : List Request) (steady : Steady platform world) :
    ∃ log last, log.map Prod.fst = reqs ∧
      (sdkView platform).Session (sdkGateway platform) platform opts world log last := by
  induction reqs generalizing world with
  | nil => exact ⟨[], world, rfl, .nil world⟩
  | cons req rest induction =>
      have handled := StoreDouble.runs_respond lower ⟨some 0⟩
        (handleRequest (sdkGateway platform) platform opts req) steady.sound.plain
      have ended := (answered_handleRequest (shows_sdkView platform) steady fun _ _ =>
        trivial).of_disturbed (fun _ => trivial) handled
      rcases ended with ⟨⟨response, answered⟩, steady, _⟩
      rw [answered] at handled
      rcases induction steady with ⟨log, last, same, session⟩
      refine ⟨(req, response) :: log, last, ?_, .request req response handled session⟩
      rw [List.map_cons, same]

/-! ## What every session does -/

/-- A session over the SDK is a run of the file server, however calls fail and however long they
take: what was answered with success has had its effect, in order, and nothing else has, but for
a move that the SDK left halfway. -/
theorem sdkSession_serves {opts : WebdavOptions} {log : List (Request × Response ReadStream)}
    (session : (sdkView platform).Session (sdkGateway platform) platform opts world log last)
    (steady : Steady platform world) :
    Steady platform last ∧ ∃ performed, Performs platform opts log performed ∧
      ShownTree.Run platform.sha1 (world.remote.tree platform) performed
        (last.remote.tree platform) :=
  session.run (shows_sdkView platform) steady fun _ _ _ _ => trivial

theorem sound_emptyDrive : emptyDrive.Sound (.plain []) := by
  have only : ∀ uid stored, emptyDrive.nodes.get uid = some stored →
      uid = 0 ∧ stored = .folder none "my-files" := by
    intro uid stored located
    have member := (InsertionMap.get_eq_some_iff _ _ _).mp located
    have same := List.mem_singleton.mp member
    exact ⟨congrArg Prod.fst same, congrArg Prod.snd same⟩
  constructor
  · refine ⟨⟨?_, ?_⟩, ⟨_, rfl, rfl⟩, Drive.rooted_of_top fun _ located => ?_⟩
    · intro uid stored located
      rw [(only uid stored located).2]
      rfl
    · intro spot name first second firstNode secondNode located _ locatedToo _
      rw [(only _ _ located).1, (only _ _ locatedToo).1]
    · cases located
      rfl
  · intro uid stored located
    rw [(only uid stored located).2]
    constructor
    · exact NodeType.noConfusion
    · intro revision isFile
      cases isFile

/-- What a request comes to, if every call is answered. -/
def runRequest (world : ServiceWorld) (req : Request) :
    Except Thrown (Response ReadStream) × ServiceWorld :=
  Program.run (StoreDouble.respond (.plain []) ⟨some 0⟩)
    (handleRequest (sdkGateway (.plain [])) (.plain []) plainOptions req) world

theorem handles_runRequest {req : Request} {response : Response ReadStream}
    (plain : world.remote.Plain (.plain []))
    (answered : (runRequest world req).1 = .ok response) :
    (sdkView (.plain [])).rules.Runs
      (handleRequest (sdkGateway (.plain [])) (.plain []) plainOptions req) world (.ok response)
      (runRequest world req).2 := by
  have handled := StoreDouble.runs_respond (fun _ => rfl) ⟨some 0⟩
    (handleRequest (sdkGateway (.plain [])) (.plain []) plainOptions req) plain
  change (sdkView (.plain [])).rules.Runs _ _ (runRequest world req).1 (runRequest world req).2
    at handled
  rw [answered] at handled
  exact handled

/-- The statuses of requests sent one after the other, and the world after them. -/
def runRequests (world : ServiceWorld) : List Request → List (Option Nat) × ServiceWorld
  | [] => ([], world)
  | req :: rest =>
      let later := runRequests (runRequest world req).2 rest
      ((runRequest world req).1.toOption.map Response.status :: later.1, later.2)

theorem session_runRequests (steady : Steady (.plain []) world) (reqs : List Request) :
    ∃ log, log.map Prod.fst = reqs ∧
      log.map (fun entry => some entry.2.status) = (runRequests world reqs).1 ∧
      (sdkView (.plain [])).Session (sdkGateway (.plain [])) (.plain []) plainOptions world log
        (runRequests world reqs).2 := by
  induction reqs generalizing world with
  | nil => exact ⟨[], rfl, rfl, .nil world⟩
  | cons req rest induction =>
      have handled := StoreDouble.runs_respond (fun _ => rfl) ⟨some 0⟩
        (handleRequest (sdkGateway (.plain [])) (.plain []) plainOptions req) steady.sound.plain
      have ended := (answered_handleRequest (shows_sdkView (.plain [])) steady fun _ _ =>
        trivial).of_disturbed (fun _ => trivial) handled
      rcases ended with ⟨⟨response, answered⟩, after, _⟩
      rcases induction after with ⟨log, same, statuses, session⟩
      refine ⟨(req, response) :: log, ?_, ?_,
        .request req response (handles_runRequest steady.sound.plain answered) session⟩
      · rw [List.map_cons, same]
      · change (runRequest world req).1 = _ at answered
        have status : (runRequest world req).1.toOption.map Response.status =
            some response.status := by
          rw [answered]
          rfl
        rw [List.map_cons, statuses, runRequests, status]
        rfl

/-- A client deletes `/a`. -/
def removal : Request := { folderRequest with method := "DELETE" }

/-- A client uploads two bytes to `/a`. -/
def rewriting : Request :=
  { folderRequest with method := "PUT", body := some (.value [104, 105] .done) }

/-- A file is uploaded, not hidden by a folder, and deleted to make room for it. -/
theorem sdkSession_serves_replaced :
    ∃ (log : List (Request × Response ReadStream)) (last : ServiceWorld) (performed : _),
      log.map Prod.fst = [timedPut "1000000000", folderRequest, removal, folderRequest] ∧
      log.map (fun entry => some entry.2.status) = [some 201, some 405, some 204, some 201] ∧
      Steady (.plain []) last ∧ Performs (.plain []) plainOptions log performed ∧
      ShownTree.Run (Platform.plain []).sha1 (emptyDrive.tree (.plain [])) performed
        (last.remote.tree (.plain [])) := by
  have steady := steady_initial sound_emptyDrive 0
  rcases session_runRequests steady
    [timedPut "1000000000", folderRequest, removal, folderRequest] with
    ⟨log, same, statuses, session⟩
  rcases sdkSession_serves session steady with ⟨after, performed, performs, run⟩
  refine ⟨log, _, performed, same, ?_, after, performs, run⟩
  rw [statuses]
  decide

/-- What is seen at a path is seen there unchanged as long as no request that is not refused
deletes or moves it or a folder above it, or uploads over it where content may be replaced. -/
theorem sdkSession_leaves {opts : WebdavOptions} {log : List (Request × Response ReadStream)}
    (session : (sdkView platform).Session (sdkGateway platform) platform opts world log last)
    (steady : Steady platform world) {q : List JsString} {shown : Shown}
    (present : world.remote.tree platform q = some shown)
    (leaves : LeavesAt platform opts q log) : last.remote.tree platform q = some shown := by
  rcases session.run (shows_sdkView platform) steady fun _ _ _ _ => trivial with
    ⟨_, performed, performs, run⟩
  have grounded : (world.remote.tree platform).Grounded .folder :=
    Drive.grounded_tree steady.sound.plain.isFolder
  exact run.leaves grounded present (leaves.performed performs run)

theorem sound_oneFile : (oneFile (some 2)).Sound (.plain []) := by
  have only : ∀ uid stored, (oneFile (some 2)).nodes.get uid = some stored →
      uid = 0 ∧ stored = .folder none "my-files" ∨
        uid = 1 ∧ stored = { DriveNode.file 0 "a" [104, 105] "" with
          activeRevision := some ⟨some 2, none, false, none⟩ } := by
    intro uid stored located
    rcases List.mem_cons.mp ((InsertionMap.get_eq_some_iff _ _ _).mp located) with same | member
    · exact .inl ⟨congrArg Prod.fst same, congrArg Prod.snd same⟩
    · have same := List.mem_singleton.mp member
      exact .inr ⟨congrArg Prod.fst same, congrArg Prod.snd same⟩
  constructor
  · refine ⟨⟨?_, ?_⟩, ⟨_, rfl, rfl⟩, Drive.rooted_of_top fun _ located => ?_⟩
    · intro uid stored located
      rcases only uid stored located with ⟨_, rfl⟩ | ⟨_, rfl⟩
      · rfl
      · rfl
    · intro spot name first second firstNode secondNode located there locatedToo thereToo
      rcases only _ _ located with ⟨rfl, rfl⟩ | ⟨rfl, rfl⟩
      · cases there.1
      · rcases only _ _ locatedToo with ⟨rfl, rfl⟩ | ⟨rfl, rfl⟩
        · cases thereToo.1
        · rfl
    · cases located
      rfl
  · intro uid stored located
    rcases only uid stored located with ⟨_, rfl⟩ | ⟨_, rfl⟩
    · constructor
      · exact NodeType.noConfusion
      · intro revision isFile
        cases isFile
    · constructor
      · exact NodeType.noConfusion
      · intro revision _ active
        cases active
        constructor
        · intro size claimed
          exact (Option.some.inj claimed).symm
        · intro sha1 claimed
          cases claimed

/-- Two uploads over a file that is to stay as it is, and a folder made beside it. -/
theorem sdkSession_leaves_oneFile :
    ∃ log last, log.map Prod.fst = [timedPut "1000000000", folderRequest, timedPut "1000000000"] ∧
      (sdkView (.plain [])).Session (sdkGateway (.plain [])) (.plain []) ⟨true, none, true⟩
        ⟨.initial 0, oneFile (some 2)⟩ log last ∧
      last.remote.tree (.plain []) ["a"] = some (.file [104, 105]) := by
  have steady := steady_initial sound_oneFile 0
  rcases exists_session (fun _ => rfl) ⟨true, none, true⟩
    [timedPut "1000000000", folderRequest, timedPut "1000000000"] steady with
    ⟨log, last, same, session⟩
  refine ⟨log, last, same, session, sdkSession_leaves session steady rfl ?_⟩
  intro entry member operation asks _
  have listed : entry.1 ∈ [timedPut "1000000000", folderRequest, timedPut "1000000000"] :=
    same ▸ List.mem_map_of_mem member
  rcases List.mem_cons.mp listed with put | listed
  · rw [put] at asks
    cases asks
    exact .inl rfl
  · rcases List.mem_cons.mp listed with made | listed
    · rw [made] at asks
      cases asks
      trivial
    · rw [List.mem_singleton.mp listed] at asks
      cases asks
      exact .inl rfl

/-- No content is made up: every file that is seen after a session was seen before it, or it is
the whole body of a PUT that was answered with success. -/
theorem sdkSession_origin {opts : WebdavOptions} {log : List (Request × Response ReadStream)}
    (session : (sdkView platform).Session (sdkGateway platform) platform opts world log last)
    (steady : Steady platform world) {q : List JsString} {bytes : Bytes}
    (held : last.remote.tree platform q = some (.file bytes)) :
    (∃ before, world.remote.tree platform before = some (.file bytes)) ∨
      Brought platform.sha1 opts log bytes := by
  rcases session.run (shows_sdkView platform) steady fun _ _ _ _ => trivial with
    ⟨_, performed, performs, run⟩
  rcases run.origin held with before | uploaded
  · exact .inl before
  · exact .inr (brought_of_uploaded performs uploaded)

/-- A file is uploaded, an upload over it is cut short, and one replaces its content. -/
theorem sdkSession_origin_rewriting :
    ∃ log : List (Request × Response ReadStream),
      log.map Prod.fst = [timedPut "1000000000",
        { timedPut "1000000000" with body := some (.value [1, 2, 3] .done) }, rewriting] ∧
      log.map (fun entry => some entry.2.status) = [some 201, some 422, some 204] ∧
      ((∃ before, emptyDrive.tree (.plain []) before = some (.file [104, 105])) ∨
        Brought (Platform.plain []).sha1 plainOptions log [104, 105]) := by
  have steady := steady_initial sound_emptyDrive 0
  rcases session_runRequests steady [timedPut "1000000000",
    { timedPut "1000000000" with body := some (.value [1, 2, 3] .done) }, rewriting] with
    ⟨log, same, statuses, session⟩
  refine ⟨log, same, ?_, ?_⟩
  · rw [statuses]
    decide
  · apply sdkSession_origin session steady (q := ["a"])
    decide

end DriveWebdav
