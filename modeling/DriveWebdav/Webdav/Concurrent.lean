import DriveWebdav.Foundation.Process
import DriveWebdav.SdkGateway.Calls
import DriveWebdav.SdkGateway.Lookup
import DriveWebdav.Webdav.Handlers

/-! # Requests side by side

The service as a process: requests start at any time, and their awaits interleave with each
other and with what other clients do to the tree. -/

namespace DriveWebdav

/-- Time passes, and the session may turn out to be invalid. -/
def TimePasses (world changed : ServiceWorld) : Prop :=
  changed.remote = world.remote ∧ ∃ later invalid, world.memory.now ≤ later ∧
    changed.memory = { world.memory with now := later, sessionInvalid := invalid }

/-- The requests of one service, over the SDK and beside `others`. -/
def requests (platform : Platform) (opts : WebdavOptions)
    (sdk : Program.Service SdkCall SdkAnswer Thrown Drive) (others : Drive → Drive → Prop) :
    Process Request ServiceMemory SdkCall SdkAnswer Thrown Drive where
  service := sdk
  launch req := handleRequest (sdkGateway platform) platform opts req >>= fun _ => pure ()
  environment world changed :=
    TimePasses world changed ∨
      changed.memory = world.memory ∧ others world.remote changed.remote

/-- Nobody else changes the tree. -/
def nobody (_ _ : Drive) : Prop := False

section

variable {platform : Platform} {opts : WebdavOptions} {req : Request}
  {rules : Rules ServiceMemory SdkCall SdkAnswer Thrown Drive}

/-- What a request asks of the gateway keeps to the rules, where it changes the tree. -/
structure ChangesWithin (platform : Platform) (opts : WebdavOptions) (req : Request)
    (rules : Rules ServiceMemory SdkCall SdkAnswer Thrown Drive) : Prop where
  put : Method.parse req.method = .put → ∀ path body,
    Makes rules (DriveWebdav.put platform path body (putOptions opts req))
  mkcol : Method.parse req.method = .mkcol → ∀ path, Makes rules (DriveWebdav.mkcol platform path)
  remove : Method.parse req.method = .delete → ∀ path,
    Makes rules (DriveWebdav.remove platform path)
  move : Method.parse req.method = .move → ∀ src dst,
    Makes rules (DriveWebdav.move platform src dst)
  copy : Method.parse req.method = .copy → ∀ src dst,
    Makes rules (DriveWebdav.copy platform src dst)

variable (lenient : Lenient rules)
include lenient

theorem makes_statOrThrow (path : JsString) :
    Makes rules (statOrThrow (sdkGateway platform) path) := by
  apply (makes_stat lenient.tolerant trivial).bind
  intro found
  cases found with
  | none => exact .reject _
  | some entry => exact .pure _

theorem makes_handlePropfind (path : JsString) :
    Makes rules (handlePropfind (sdkGateway platform) req path) := by
  unfold handlePropfind
  dsimp only
  split
  · exact (makes_quota lenient).bind fun _ => .pure _
  · apply (makes_statOrThrow lenient path).bind
    intro self
    split
    · exact (makes_list lenient path).bind fun _ => .pure _
    · exact .pure _

theorem makes_handleRecalculateHash (path : JsString) :
    Makes rules (handleRecalculateHash (sdkGateway platform) req path) := by
  unfold handleRecalculateHash
  split
  · exact .pure _
  · apply (makes_statOrThrow lenient path).bind
    intro info
    split
    · exact .pure _
    · exact .pure _

theorem makes_handleGet (path : JsString) (headOnly : Bool) :
    Makes rules (handleGet (sdkGateway platform) req path headOnly) := by
  have reads : ∀ range, Makes rules ((sdkGateway platform).read path range) :=
    makes_read lenient.tolerant trivial
  apply (makes_statOrThrow lenient path).bind
  intro info
  split
  · exact .pure _
  · dsimp only
    split
    · exact .pure _
    · split
      · exact .pure _
      · exact (reads _).bind fun _ => .pure _
    · split
      · exact .pure _
      · exact (reads _).bind fun _ => .pure _

theorem makes_armGuard (path : JsString) :
    Makes rules (armGuard (sdkGateway platform) opts path) := by
  unfold armGuard
  split
  · apply ((makes_stat lenient.tolerant trivial).tryCatch fun _ => .pure _).bind
    intro found
    cases found with
    | none => exact .pure _
    | some entry => exact .modify lenient _
  · exact .pure _

theorem makes_handlePut (path : JsString)
    (puts : ∀ body, Makes rules (put platform path body (putOptions opts req))) :
    Makes rules (handlePut (sdkGateway platform) opts req path) := by
  unfold handlePut
  split
  · exact .reject _
  · apply Makes.bind
    · apply (puts _).tryCatch
      exact fun _ => (makes_armGuard lenient path).bind fun _ => .throw _
    · exact fun _ => .pure _

theorem makes_checkProtected (path : JsString) :
    Makes rules (checkProtected opts path : SdkOperation Bool) := by
  unfold checkProtected
  split
  · exact fun _ => Rules.ensures_update.mpr fun now _ _ => ⟨lenient.guarantee now _, trivial⟩
  · exact .pure _

theorem makes_releaseGuard (path : JsString) :
    Makes rules (releaseGuard opts path : SdkOperation Unit) := by
  unfold releaseGuard
  split
  · exact .modify lenient _
  · exact .pure _

theorem makes_handleDelete (path : JsString) (removes : Makes rules (remove platform path)) :
    Makes rules (handleDelete (sdkGateway platform) opts path) := by
  apply (makes_checkProtected lenient path).bind
  intro refused
  split
  · exact .pure _
  · apply removes.bind
    intro _
    exact (makes_releaseGuard lenient path).bind fun _ => .pure _

omit lenient in
theorem makes_handleTransfer {Stream : Type} {transfer : JsString → SdkOperation Unit}
    (transfers : ∀ destination, Makes rules (transfer destination)) :
    Makes rules (handleTransfer platform req transfer : SdkOperation (Response Stream)) := by
  unfold handleTransfer
  split
  · exact .reject _
  · exact (transfers _).bind fun _ => .pure _

theorem makes_dispatch (changes : ChangesWithin platform opts req rules) (path : JsString) :
    Makes rules (dispatch (sdkGateway platform) platform opts req path) := by
  unfold dispatch
  cases method : Method.parse req.method with
  | options => exact .pure _
  | propfind => exact makes_handlePropfind lenient path
  | proppatch => exact (makes_statOrThrow lenient path).bind fun _ => .pure _
  | get => exact makes_handleGet lenient path false
  | head => exact makes_handleGet lenient path true
  | put => exact makes_handlePut lenient path (changes.put method path)
  | patch => exact makes_handleRecalculateHash lenient path
  | mkcol => exact (changes.mkcol method path).bind fun _ => .pure _
  | delete => exact makes_handleDelete lenient path (changes.remove method path)
  | move => exact makes_handleTransfer (changes.move method path)
  | copy => exact makes_handleTransfer (changes.copy method path)
  | unknown => exact .pure _

theorem makes_handleRequest (changes : ChangesWithin platform opts req rules) :
    Makes rules (handleRequest (sdkGateway platform) platform opts req) := by
  apply (Makes.read lenient).bind
  intro memory
  split
  · exact .pure _
  · exact (makes_dispatch lenient changes req.path).tryCatch fun _ => .pure _

/-- A request keeps to the rules as soon as its changes do. -/
theorem makes_launch (sdk : Program.Service SdkCall SdkAnswer Thrown Drive)
    (others : Drive → Drive → Prop) (changes : ChangesWithin platform opts req rules) :
    Makes rules ((requests platform opts sdk others).launch req) :=
  (makes_handleRequest lenient changes).bind fun _ => .pure _

end

end DriveWebdav
