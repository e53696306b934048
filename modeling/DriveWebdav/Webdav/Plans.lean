import DriveWebdav.Foundation.Records
import DriveWebdav.SdkGateway.StoreOperations
import DriveWebdav.Webdav.UploadedContent

/-! # What a request carries out

Whatever the SDK answers and whatever runs beside it, a request makes the calls of one plan, in
order and each once, stops at the first that fails, and is answered with success exactly if none
has failed. -/

namespace DriveWebdav

/-- The calls that change what is seen. -/
def SdkCall.carriesOut : SdkCall → Bool
  | .trashNodes _ | .moveNodes _ _ | .renameNode _ _ | .copyNodes _ _ | .createFolder _ _
  | .completion _ => true
  | _ => false

/-- The call is answered as one that has been carried out. -/
def SdkCall.succeeds : (command : SdkCall) → Except Thrown (SdkAnswer command) → Bool
  | .trashNodes _, .ok results => (results.items.findSome? resultError).isNone &&
      results.failure.isNone
  | .moveNodes _ _, .ok results => (results.items.findSome? resultError).isNone &&
      results.failure.isNone
  | .copyNodes _ _, .ok results => (results.items.findSome? resultError).isNone &&
      results.failure.isNone
  | _, .ok _ => true
  | _, .error _ => false

/-- A call that changes what is seen, and whether it succeeded. -/
abbrev Change := SdkCall × Bool

def changeOf : Program.Entry ServiceMemory SdkCall SdkAnswer Thrown → Option Change
  | .access _ => none
  | .exchange command answer =>
      if command.carriesOut then some (command, command.succeeds answer) else none

/-- What the SDK throws is an error of the SDK. -/
def FromSdk : Program.Entry ServiceMemory SdkCall SdkAnswer Thrown → Prop
  | .exchange _ (.error error) => ∃ fault, error = .sdk fault
  | _ => True

/-- One of the plans is carried out, or broken off: before its first call, or because of one that
fails. -/
inductive CarriesOut (plans : List SdkCall → Prop) : List Change → Bool → Prop
  | done (plan) (planned : plans plan) : CarriesOut plans (plan.map fun call => (call, true)) true
  | refused : CarriesOut plans [] false
  | failed (before last after) (planned : plans (before ++ last :: after)) :
      CarriesOut plans (before.map (fun call => (call, true)) ++ [(last, false)]) false

/-- The methods that may change something. -/
def Method.changes : Method → Bool
  | .mkcol | .delete | .put | .copy | .move => true
  | _ => false

/-- What a request with this method may set out to do. -/
inductive Plan : Method → List SdkCall → Prop
  | mkcol (parent name) : Plan .mkcol [.createFolder parent name]
  | delete (node) : Plan .delete [.trashNodes [node]]
  | upload (controller) : Plan .put [.completion controller]
  | skip : Plan .put []
  | copy (uid name parent) : Plan .copy [.copyNodes [(uid, name)] parent]
  | relocate (node parent) : Plan .move [.moveNodes [node] parent]
  | rename (node name) : Plan .move [.renameNode node name]
  | both (node parent name) : Plan .move [.moveNodes [node] parent, .renameNode node name]
  | look {method : Method} (looks : method.changes = false) : Plan method []

abbrev Notes {α : Type} (operation : SdkOperation α) (post : Except Thrown α → List Change → Prop) :
    Prop :=
  Program.Records changeOf FromSdk operation post

/-- The operation changes nothing that is seen, and an error that it throws has an error's
status. -/
abbrev LooksOnly {α : Type} (operation : SdkOperation α) : Prop :=
  Notes operation fun outcome changes =>
    changes = [] ∧ ∀ error, outcome = .error error → 400 ≤ error.status

/-- The operation carries out one of the plans, and throws exactly if it has not come to the end of
it. -/
abbrev Accounts {α : Type} (plans : List SdkCall → Prop) (operation : SdkOperation α) : Prop :=
  Notes operation fun outcome changes =>
    CarriesOut plans changes outcome.isOk ∧ ∀ error, outcome = .error error → 400 ≤ error.status

section

variable {platform : Platform} {α β : Type} {plans : List SdkCall → Prop}

theorem fails_ok {value : α} (error : Thrown)
    (absurd : (.ok value : Except Thrown α) = .error error) : 400 ≤ error.status := by
  cases absurd

theorem fails_error {error : Thrown} (fails : 400 ≤ error.status) (other : Thrown)
    (same : (.error error : Except Thrown α) = .error other) : 400 ≤ other.status := by
  cases same
  exact fails

/-! ## Looking -/

theorem silent_access (memory : ServiceMemory) : changeOf (.access memory) = none := rfl

namespace LooksOnly

theorem pure (value : α) : LooksOnly (Pure.pure value : SdkOperation α) :=
  Program.records_pure ⟨rfl, fails_ok⟩

theorem throw {error : Thrown} (fails : 400 ≤ error.status) :
    LooksOnly (MonadExcept.throw error : SdkOperation α) := by
  apply Program.records_throw
  exact ⟨rfl, fails_error fails⟩

theorem bind {operation : SdkOperation α} {next : α → SdkOperation β}
    (first : LooksOnly operation) (rest : ∀ value, LooksOnly (next value)) :
    LooksOnly (operation >>= next) := by
  apply Program.Records.bind first
  · rintro error _ ⟨rfl, fails⟩
    exact ⟨rfl, fun other same => fails other (Except.error.inj same ▸ rfl)⟩
  · rintro value _ ⟨rfl, _⟩
    exact rest value

theorem tryCatch {operation : SdkOperation α} {recover : Thrown → SdkOperation α}
    (first : LooksOnly operation)
    (rest : ∀ error, 400 ≤ error.status → LooksOnly (recover error)) :
    LooksOnly (tryCatch operation recover) := by
  apply Program.Records.tryCatch first
  · exact fun _ _ looked => looked
  · rintro error _ ⟨rfl, fails⟩
    exact rest error (fails error rfl)

theorem update {change : ServiceMemory → ServiceMemory} {resume : ServiceMemory → SdkOperation α}
    (rest : ∀ memory, LooksOnly (resume memory)) : LooksOnly (.update change resume) :=
  Program.records_update silent_access rest

theorem read : LooksOnly (Program.read : SdkOperation _) := update fun memory => pure memory

theorem modify (change : ServiceMemory → ServiceMemory) :
    LooksOnly (Program.modify change : SdkOperation Unit) := update fun _ => pure ()

theorem request {command : SdkCall} (looks : command.carriesOut = false) :
    LooksOnly (Program.request command : SdkOperation _) := by
  apply Program.records_request
  intro answer fromSdk
  constructor
  · rw [changeOf, looks]
    rfl
  · rintro error rfl
    rcases fromSdk with ⟨fault, rfl⟩
    exact Nat.le_of_ble_eq_true rfl

theorem reject {error : GatewayError} (fails : 400 ≤ error.httpStatus) :
    LooksOnly (reject error : SdkOperation α) := throw fails

theorem mapErrors {operation : SdkOperation α} (looks : LooksOnly operation) :
    LooksOnly (mapErrors platform operation) :=
  looks.tryCatch fun _ fails => throw (status_genericError fails)

end LooksOnly

theorem looksOnly_getRootUid : LooksOnly (getRootUid platform) := by
  apply LooksOnly.read.bind
  intro memory
  cases memory.rootUid with
  | some rootUid => exact .pure _
  | none =>
      apply LooksOnly.bind (.request rfl)
      intro node
      split
      · exact .reject (Nat.le_of_ble_eq_true rfl)
      · exact (LooksOnly.modify _).bind fun _ => .pure _

theorem looksOnly_getRoot (rootUid : Uid) : LooksOnly (getRoot rootUid) :=
  LooksOnly.bind (.request rfl) fun _ => .pure _

theorem looksOnly_resolveCached (path name : JsString) (includeDrafts : Bool) :
    LooksOnly (resolveCached platform path name includeDrafts) := by
  apply LooksOnly.read.bind
  intro memory
  cases memory.resolveCache.get path with
  | none => exact .pure _
  | some cached =>
      dsimp only
      split
      · apply LooksOnly.bind
        · apply LooksOnly.tryCatch
          · exact LooksOnly.bind (.request rfl) fun _ => .pure _
          · exact fun _ _ => .pure _
        · intro hit
          cases hit with
          | some node => exact .pure _
          | none => exact (LooksOnly.modify _).bind fun _ => .pure _
      · exact .pure _

theorem looksOnly_resolveBelow (path name : JsString) (includeDrafts : Bool)
    (parent : Option NodeEntity) :
    LooksOnly (resolveBelow platform path name includeDrafts parent) := by
  cases parent with
  | none => exact .pure _
  | some parent =>
      simp only [resolveBelow]
      split
      · exact .pure _
      · apply LooksOnly.bind (.request rfl)
        intro children
        apply LooksOnly.bind
        · unfold firstYielded
          split
          · exact .pure _
          · split
            · exact .throw (Nat.le_of_ble_eq_true rfl)
            · exact .pure _
        · intro found
          cases found with
          | none => exact .pure _
          | some found =>
              simp only [takeChild]
              split
              · exact .pure _
              · split
                · exact .pure _
                · exact (LooksOnly.modify _).bind fun _ => .pure _

theorem looksOnly_resolveSegments (segs : List JsString) (includeDrafts : Bool) :
    LooksOnly (resolveSegments platform segs includeDrafts) := by
  induction segs generalizing includeDrafts with
  | nil => exact looksOnly_getRootUid.bind looksOnly_getRoot
  | cons name above induction =>
      apply looksOnly_getRootUid.bind
      intro rootUid
      apply (looksOnly_resolveCached _ _ _).bind
      intro hit
      cases hit with
      | some node => exact .pure _
      | none =>
          apply LooksOnly.bind
          · cases above with
            | nil => exact looksOnly_getRoot rootUid
            | cons next others => exact induction false
          · exact looksOnly_resolveBelow _ _ _

theorem looksOnly_resolve (path : JsString) (includeDrafts : Bool) :
    LooksOnly (resolve platform path includeDrafts) := by
  unfold resolve
  split
  · exact looksOnly_resolveSegments _ _
  · exact .reject (Nat.le_of_ble_eq_true rfl)

theorem looksOnly_resolveOrThrow (path : JsString) :
    LooksOnly (resolveOrThrow platform path) := by
  apply (looksOnly_resolve path false).bind
  intro found
  cases found with
  | none => exact .reject (Nat.le_of_ble_eq_true rfl)
  | some node => exact .pure _

theorem looksOnly_stat (path : JsString) : LooksOnly (stat platform path) := by
  apply (looksOnly_resolve path false).mapErrors.bind
  intro found
  cases found with
  | none => exact .pure _
  | some node =>
      dsimp only
      split
      · exact .pure _
      · exact .pure _

theorem looksOnly_resolveDestination (d : JsString) :
    LooksOnly (resolveDestination platform d) := by
  apply (looksOnly_resolve _ _).bind
  intro found
  cases found with
  | none => exact .reject (Nat.le_of_ble_eq_true rfl)
  | some folder =>
      dsimp only
      split
      · exact .reject (Nat.le_of_ble_eq_true rfl)
      · split
        · exact .reject (Nat.le_of_ble_eq_true rfl)
        · apply (looksOnly_resolve _ _).bind
          intro taken
          cases taken with
          | none => exact .pure _
          | some node => exact .reject (Nat.le_of_ble_eq_true rfl)

theorem looksOnly_cancelBody : LooksOnly cancelBody :=
  LooksOnly.tryCatch (.request rfl) fun _ _ => .pure _

theorem looksOnly_resolveParent (p : JsString) : LooksOnly (resolveParent platform p) :=
  (looksOnly_resolve _ _).tryCatch fun _ fails =>
    looksOnly_cancelBody.bind fun _ => .throw (status_genericError fails)

theorem looksOnly_abandonUpload (p : JsString) : LooksOnly (abandonUpload p) :=
  (LooksOnly.tryCatch (.request rfl) fun _ _ => .pure _).bind fun _ => .modify _

/-! ## Carrying out -/

namespace CarriesOut

variable {more all : List SdkCall → Prop} {changes others : List Change} {ends : Bool}

theorem one {call : SdkCall} (planned : plans [call]) (succeeded : Bool) :
    CarriesOut plans [(call, succeeded)] succeeded := by
  cases succeeded with
  | true => exact .done [call] planned
  | false => exact .failed [] call [] planned

/-- A plan that breaks off is the beginning of a longer one. -/
theorem longer {rest : List SdkCall} (broken : CarriesOut plans changes false)
    (joined : ∀ plan, plans plan → all (plan ++ rest)) : CarriesOut all changes false := by
  cases broken with
  | refused => exact .refused
  | failed before last after planned =>
      refine .failed before last (after ++ rest) ?_
      rw [← List.cons_append, ← List.append_assoc]
      exact joined _ planned

/-- A plan is carried out one part after the other, where the second is begun. -/
theorem append (first : CarriesOut plans changes true) (second : CarriesOut more others ends)
    (begun : others = [] → ends = true)
    (joined : ∀ plan rest, plans plan → more rest → all (plan ++ rest)) :
    CarriesOut all (changes ++ others) ends := by
  cases first with
  | done plan planned =>
      cases second with
      | done rest plannedRest =>
          rw [← List.map_append]
          exact .done _ (joined _ _ planned plannedRest)
      | refused => cases begun rfl
      | failed before last after plannedRest =>
          rw [← List.append_assoc, ← List.map_append]
          refine .failed (plan ++ before) last after ?_
          rw [List.append_assoc]
          exact joined _ _ planned plannedRest

end CarriesOut

/-- The operation ends well, and changes nothing that is seen. -/
abbrev Settles {α : Type} (operation : SdkOperation α) : Prop :=
  Notes operation fun outcome changes => changes = [] ∧ outcome.isOk = true

theorem settles_pure (value : α) : Settles (pure value : SdkOperation α) :=
  Program.records_pure ⟨rfl, rfl⟩

theorem settles_modify (change : ServiceMemory → ServiceMemory) :
    Settles (Program.modify change : SdkOperation Unit) :=
  Program.records_update silent_access fun _ => settles_pure ()

theorem Settles.bind {operation : SdkOperation α} {next : α → SdkOperation β}
    (first : Settles operation) (rest : ∀ value, Settles (next value)) :
    Settles (operation >>= next) := by
  apply Program.Records.bind first
  · rintro error _ ⟨_, absurd⟩
    cases absurd
  · rintro value _ ⟨rfl, _⟩
    exact rest value

/-- The operation throws, and changes nothing that is seen. -/
abbrev Refuses {α : Type} (operation : SdkOperation α) : Prop :=
  Notes operation fun outcome changes =>
    changes = [] ∧ ∃ error, outcome = .error error ∧ 400 ≤ error.status

theorem refuses_throw {error : Thrown} (fails : 400 ≤ error.status) :
    Refuses (throw error : SdkOperation α) :=
  Program.records_throw ⟨rfl, error, rfl, fails⟩

theorem refuses_reject {error : GatewayError} (fails : 400 ≤ error.httpStatus) :
    Refuses (reject error : SdkOperation α) := refuses_throw fails

theorem LooksOnly.refuses {operation : SdkOperation α} {next : α → SdkOperation β}
    (first : LooksOnly operation) (rest : ∀ value, Refuses (next value)) :
    Refuses (operation >>= next) := by
  apply Program.Records.bind first
  · rintro error _ ⟨rfl, fails⟩
    exact ⟨rfl, error, rfl, fails error rfl⟩
  · rintro value _ ⟨rfl, _⟩
    exact rest value

theorem refuses_refusePut {error : GatewayError} (fails : 400 ≤ error.httpStatus) :
    Refuses (refusePut error : SdkOperation α) :=
  looksOnly_cancelBody.refuses fun _ => refuses_reject fails

namespace Accounts

variable {operation : SdkOperation α} {next : α → SdkOperation β}

theorem refused (refuses : Refuses operation) : Accounts plans operation := by
  apply refuses.mono
  rintro _ _ ⟨rfl, error, rfl, fails⟩
  exact ⟨.refused, fails_error fails⟩

theorem after (first : LooksOnly operation)
    (rest : ∀ value, Accounts plans (next value)) : Accounts plans (operation >>= next) := by
  apply Program.Records.bind first
  · rintro error _ ⟨rfl, fails⟩
    exact ⟨.refused, fails_error (fails error rfl)⟩
  · rintro value _ ⟨rfl, _⟩
    exact rest value

/-- What comes after the plan ends well. -/
theorem ends (first : Accounts plans operation) (rest : ∀ value, Settles (next value)) :
    Accounts plans (operation >>= next) := by
  apply Program.Records.bind first
  · rintro error changes ⟨account, fails⟩
    exact ⟨account, fails_error (fails error rfl)⟩
  · rintro value changes ⟨account, _⟩
    apply (rest value).mono
    rintro outcome _ ⟨rfl, well⟩
    rw [List.append_nil, well]
    refine ⟨account, ?_⟩
    rintro error rfl
    cases well

/-- What is done about an error ends in an error. -/
theorem recover {handle : Thrown → SdkOperation α} (first : Accounts plans operation)
    (rest : ∀ error, 400 ≤ error.status → Refuses (handle error)) :
    Accounts plans (tryCatch operation handle) := by
  apply Program.Records.tryCatch first
  · rintro value changes ⟨account, _⟩
    exact ⟨account, fails_ok⟩
  · rintro error changes ⟨account, fails⟩
    apply (rest error (fails error rfl)).mono
    rintro _ _ ⟨rfl, other, rfl, failed⟩
    rw [List.append_nil]
    exact ⟨account, fails_error failed⟩

theorem mapErrors (first : Accounts plans operation) :
    Accounts plans (mapErrors platform operation) :=
  first.recover fun _ fails => refuses_throw (status_genericError fails)

end Accounts

/-- A call that changes something, and is answered with a value where it succeeds. -/
theorem accounts_call {command : SdkCall} (possible : plans [command])
    (changes : command.carriesOut = true)
    (honest : ∀ value, command.succeeds (.ok value) = true) :
    Accounts plans (Program.request command : SdkOperation _) := by
  apply Program.records_request
  intro answer fromSdk
  rw [changeOf, if_pos changes]
  cases answer with
  | ok value =>
      rw [honest value]
      exact ⟨.one possible true, fails_ok⟩
  | error error =>
      rcases fromSdk with ⟨fault, rfl⟩
      have failed : command.succeeds (.error (.sdk fault)) = false := by
        cases command <;> rfl
      rw [failed]
      exact ⟨.one possible false, fails_error (Nat.le_of_ble_eq_true rfl)⟩

/-- A call on nodes, with its results gone through. -/
theorem accounts_nodes {command : SdkCall} {results : SdkAnswer command → Yielded NodeResult}
    {thrown : SdkError → Thrown} (possible : plans [command])
    (changes : command.carriesOut = true)
    (honest : ∀ value, command.succeeds (.ok value) =
      (((results value).items.findSome? resultError).isNone && (results value).failure.isNone))
    (fails : ∀ error, 400 ≤ (thrown error).status) :
    Accounts plans (Program.request command >>= fun value => eachOk (results value) thrown) := by
  have called : Notes (Program.request command : SdkOperation _) fun answer met =>
      met = [(command, command.succeeds answer)] ∧
        ∀ error, answer = .error error → 400 ≤ error.status ∧ command.succeeds answer = false := by
    apply Program.records_request
    intro answer fromSdk
    rw [changeOf, if_pos changes]
    refine ⟨rfl, ?_⟩
    rintro error rfl
    rcases fromSdk with ⟨fault, rfl⟩
    refine ⟨Nat.le_of_ble_eq_true rfl, ?_⟩
    cases command <;> rfl
  apply called.bind
  · rintro error _ ⟨rfl, failed⟩
    rw [(failed error rfl).2]
    exact ⟨.one possible false, fails_error ((failed error rfl).1)⟩
  · rintro value _ ⟨rfl, _⟩
    rw [honest value]
    unfold eachOk
    cases ((results value).items.findSome? resultError) with
    | some error =>
        apply Program.records_throw
        exact ⟨.one possible false, fails_error (fails error)⟩
    | none =>
        cases (results value).failure with
        | some error =>
            apply Program.records_throw
            exact ⟨.one possible false, fails_error (Nat.le_of_ble_eq_true rfl)⟩
        | none =>
            apply Program.records_pure
            exact ⟨.one possible true, fails_ok⟩

/-! ## Operations -/

theorem accounts_mkcol (path : JsString) : Accounts (Plan .mkcol) (mkcol platform path) := by
  unfold mkcol
  dsimp only
  split
  · exact .refused (refuses_reject (Nat.le_of_ble_eq_true rfl))
  · split
    · exact .refused (refuses_reject (Nat.le_of_ble_eq_true rfl))
    · apply Accounts.after (looksOnly_resolve _ _)
      intro found
      cases found with
      | none => exact .refused (refuses_reject (Nat.le_of_ble_eq_true rfl))
      | some parent =>
          dsimp only
          split
          · exact .refused (refuses_reject (Nat.le_of_ble_eq_true rfl))
          · apply Accounts.after (looksOnly_resolve _ _)
            intro taken
            cases taken with
            | some node => exact .refused (refuses_reject (Nat.le_of_ble_eq_true rfl))
            | none =>
                apply Accounts.recover
                · apply Accounts.ends (accounts_call (.mkcol _ _) rfl fun _ => rfl)
                  exact fun _ => settles_modify _
                · exact fun _ fails => refuses_throw (status_createFolderError fails)

theorem accounts_remove (path : JsString) : Accounts (Plan .delete) (remove platform path) := by
  unfold remove
  dsimp only
  split
  · exact .refused (refuses_reject (Nat.le_of_ble_eq_true rfl))
  · apply Accounts.after (looksOnly_resolveOrThrow _)
    intro node
    rw [← Program.bind_assoc]
    apply Accounts.ends
    · exact accounts_nodes (.delete node) rfl (fun _ => rfl) fun _ => status_sdkError
    · exact fun _ => settles_modify _

theorem accounts_copy (src dst : JsString) : Accounts (Plan .copy) (copy platform src dst) := by
  unfold copy
  dsimp only
  apply Accounts.after (looksOnly_resolveOrThrow _)
  intro node
  split
  · exact .refused (refuses_reject (Nat.le_of_ble_eq_true rfl))
  · apply Accounts.after (looksOnly_resolveDestination _)
    intro folder
    apply Program.Records.finallyModify silent_access
    apply Accounts.mapErrors
    exact accounts_nodes (.copy _ _ _) rfl (fun _ => rfl) fun _ => Nat.le_of_ble_eq_true rfl

theorem accounts_upload (p : JsString) (parent : NodeEntity) (revisionOfUid : Option Uid)
    (body : BodyStream) (opts : PutOptions) :
    Accounts (Plan .put) (upload platform p parent revisionOfUid body opts) := by
  apply Accounts.recover
  · apply Accounts.after
    · cases revisionOfUid with
      | none => exact .request rfl
      | some uid => exact .request rfl
    · intro uploader
      apply Accounts.after (.request rfl)
      intro controller
      apply Accounts.ends (accounts_call (.upload controller) rfl fun _ => rfl)
      exact fun _ => (settles_modify _).bind fun _ => settles_pure _
  · intro error fails
    exact (looksOnly_abandonUpload p).refuses fun _ => refuses_throw (status_uploadError fails)

theorem accounts_put (path : JsString) (body : BodyStream) (opts : PutOptions) :
    Accounts (Plan .put) (put platform path body opts) := by
  unfold put
  dsimp only
  split
  · exact .refused (refuses_refusePut (Nat.le_of_ble_eq_true rfl))
  · split
    · exact .refused (refuses_refusePut (Nat.le_of_ble_eq_true rfl))
    · split
      · exact .refused (refuses_refusePut (Nat.le_of_ble_eq_true rfl))
      · apply Accounts.after (looksOnly_resolveParent _)
        intro found
        cases found with
        | none => exact .refused (refuses_refusePut (Nat.le_of_ble_eq_true rfl))
        | some parent =>
            dsimp only
            split
            · exact .refused (refuses_refusePut (Nat.le_of_ble_eq_true rfl))
            · apply Accounts.after (looksOnly_resolve _ _)
              intro existing
              split
              · exact .refused (refuses_refusePut (Nat.le_of_ble_eq_true rfl))
              · apply Accounts.after looksOnly_cancelBody
                exact fun _ => Program.records_pure ⟨.done [] .skip, fails_ok⟩
              · exact .refused (refuses_refusePut (Nat.le_of_ble_eq_true rfl))
              · exact accounts_upload _ _ _ _ _
              · exact accounts_upload _ _ _ _ _

/-! ### Moves -/

/-- The first call of a move, where there is one. -/
inductive Relocates (s d : JsString) (node : NodeEntity) : List SdkCall → Prop
  | stays (same : parentPath s = parentPath d) : Relocates s d node []
  | moves (folder) (apart : parentPath s ≠ parentPath d) :
      Relocates s d node [.moveNodes [node] folder]

/-- The last call of a move, where there is one. -/
inductive Renames (s d : JsString) (node : NodeEntity) : List SdkCall → Prop
  | stays (same : baseName s = baseName d) : Renames s d node []
  | renames (name) (apart : baseName s ≠ baseName d) : Renames s d node [.renameNode node name]

theorem accounts_relocate {s d : JsString} (node folder : NodeEntity) :
    Accounts (Relocates s d node) (relocate s d node folder) := by
  unfold relocate
  split
  · next same => exact Program.records_pure ⟨.done [] (.stays same), fails_ok⟩
  · next apart =>
      exact accounts_nodes (.moves folder apart) rfl (fun _ => rfl)
        fun _ => Nat.le_of_ble_eq_true rfl

/-- Once a renaming is due, it is tried. -/
theorem begins_renameTo {s d : JsString} (node : NodeEntity) :
    Notes (renameTo s d node) fun outcome changes => changes = [] → outcome.isOk = true := by
  unfold renameTo
  split
  · exact Program.records_pure fun _ => rfl
  · have called : Notes (Program.request (SdkCall.renameNode node (baseName d)) : SdkOperation _)
        fun _ changes => changes ≠ [] := by
      apply Program.records_request
      intro answer _
      exact List.cons_ne_nil _ _
    apply called.tryCatch
    · exact fun _ _ begun none => absurd none begun
    · intro error changes begun
      apply Program.records_throw
      intro none
      exact absurd (List.append_eq_nil_iff.mp none).1 begun

theorem accounts_renameTo {s d : JsString} (node : NodeEntity) :
    Accounts (Renames s d node) (renameTo s d node) := by
  unfold renameTo
  split
  · next same => exact Program.records_pure ⟨.done [] (.stays same), fails_ok⟩
  · next apart =>
      apply Accounts.recover
      · exact accounts_call (.renames _ apart) rfl fun _ => rfl
      · exact fun _ _ => refuses_reject (Nat.le_of_ble_eq_true rfl)

theorem plan_move {s d : JsString} {node : NodeEntity} {first second : List SdkCall}
    (different : ¬(parentPath s = parentPath d ∧ baseName s = baseName d))
    (relocates : Relocates s d node first) (renames : Renames s d node second) :
    Plan .move (first ++ second) := by
  cases relocates with
  | stays sameParent =>
      cases renames with
      | stays sameName => exact absurd ⟨sameParent, sameName⟩ different
      | renames name => exact .rename node name
  | moves folder =>
      cases renames with
      | stays => exact .relocate node folder
      | renames name => exact .both node folder name

theorem accounts_moveNode {s d : JsString}
    (different : ¬(parentPath s = parentPath d ∧ baseName s = baseName d))
    (node folder : NodeEntity) : Accounts (Plan .move) (moveNode platform s d node folder) := by
  apply Program.Records.finallyModify silent_access
  apply Accounts.mapErrors
  apply Program.Records.bind (accounts_relocate node folder)
  · rintro error changes ⟨account, fails⟩
    refine ⟨?_, ?_⟩
    · by_cases same : baseName s = baseName d
      · exact account.longer fun plan relocates => plan_move different relocates (.stays same)
      · exact account.longer fun plan relocates =>
          plan_move different relocates (.renames [] same)
    · rintro _ ⟨⟩
      exact fails error rfl
  · rintro value changes ⟨account, _⟩
    apply ((accounts_renameTo node).and (begins_renameTo node)).mono
    rintro outcome more ⟨⟨renamed, fails⟩, begun⟩
    exact ⟨account.append renamed begun fun _ _ => plan_move different, fails⟩

theorem accounts_move (src dst : JsString) : Accounts (Plan .move) (move platform src dst) := by
  unfold move
  dsimp only
  split
  · exact .refused (refuses_reject (Nat.le_of_ble_eq_true rfl))
  · next inside =>
      split
      · exact .refused (refuses_reject (Nat.le_of_ble_eq_true rfl))
      · next apart =>
          apply Accounts.after (looksOnly_resolveOrThrow _)
          intro node
          apply Accounts.after (looksOnly_resolveDestination _)
          intro folder
          apply accounts_moveNode
          rintro ⟨sameParent, sameName⟩
          rw [Bool.or_eq_true, not_or, isRoot_iff, isRoot_iff] at inside
          have same := join_parentPath_baseName inside.1
          rw [sameParent, sameName, join_parentPath_baseName inside.2, normalize_normalize,
            normalize_normalize] at same
          simp [same] at apart

/-! ## Requests -/

variable {opts : WebdavOptions} {req : Request}

/-- The handler carries out one of the plans, and answers with success exactly if it comes to the
end of it. -/
abbrev Answers (plans : List SdkCall → Prop) (handler : SdkOperation (Response ReadStream)) :
    Prop :=
  Notes handler fun outcome changes =>
    CarriesOut plans changes (decide (answeredStatus outcome < 400)) ∧
      ∀ error, outcome = .error error → 400 ≤ error.status

theorem answers_refusal {response : Response ReadStream} (fails : 400 ≤ response.status) :
    Answers plans (pure response) := by
  apply Program.records_pure
  rw [answeredStatus, decide_eq_false (Nat.not_lt.mpr fails)]
  exact ⟨.refused, fails_ok⟩

theorem answers_reject {error : GatewayError} (fails : 400 ≤ error.httpStatus) :
    Answers plans (reject error) := by
  have failed : 400 ≤ (Thrown.gateway error).status := fails
  apply Program.records_throw
  rw [answeredStatus, decide_eq_false (Nat.not_lt.mpr failed)]
  exact ⟨.refused, fails_error failed⟩

theorem LooksOnly.answers {operation : SdkOperation α}
    {next : α → SdkOperation (Response ReadStream)} (first : LooksOnly operation)
    (rest : ∀ value, Answers plans (next value)) : Answers plans (operation >>= next) := by
  apply Program.Records.bind first
  · rintro error _ ⟨rfl, fails⟩
    rw [answeredStatus, decide_eq_false (Nat.not_lt.mpr (fails error rfl))]
    exact ⟨.refused, fails_error (fails error rfl)⟩
  · rintro value _ ⟨rfl, _⟩
    exact rest value

/-- An operation that has come to its end is answered with success. -/
theorem Accounts.answers {operation : SdkOperation α} {settle : α → SdkOperation Unit}
    {respond : α → Response ReadStream} (accounts : Accounts plans operation)
    (settles : ∀ value, Settles (settle value)) (succeeds : ∀ value, (respond value).status < 400) :
    Answers plans (operation >>= fun value => settle value >>= fun _ => pure (respond value)) := by
  apply Program.Records.bind accounts
  · rintro error changes ⟨account, fails⟩
    have failed := fails error rfl
    rw [answeredStatus, decide_eq_false (Nat.not_lt.mpr failed)]
    exact ⟨account, fails_error failed⟩
  · rintro value changes ⟨account, _⟩
    apply Program.Records.bind (settles value)
    · rintro error _ ⟨_, absurd⟩
      cases absurd
    · rintro _ _ ⟨rfl, _⟩
      apply Program.records_pure
      rw [List.nil_append, List.append_nil, answeredStatus, decide_eq_true (succeeds value)]
      exact ⟨account, fails_ok⟩

theorem Accounts.answered {operation : SdkOperation α} {respond : α → Response ReadStream}
    (accounts : Accounts plans operation) (succeeds : ∀ value, (respond value).status < 400) :
    Answers plans (operation >>= fun value => pure (respond value)) :=
  accounts.answers (fun _ => settles_pure ()) succeeds

theorem looksOnly_armGuard (path : JsString) :
    LooksOnly (armGuard (sdkGateway platform) opts path) := by
  unfold armGuard
  split
  · apply LooksOnly.bind
    · exact (looksOnly_stat path).tryCatch fun _ _ => .pure _
    · intro found
      cases found with
      | none => exact .pure _
      | some entry => exact .modify _
  · exact .pure _

theorem answers_handlePut (path : JsString) :
    Answers (Plan .put) (handlePut (sdkGateway platform) opts req path) := by
  unfold handlePut
  split
  · next error refused =>
      apply answers_reject
      rw [status_of_putBody refused]
      exact Nat.le_of_ble_eq_true rfl
  · apply Accounts.answered
    · apply Accounts.recover (accounts_put _ _ _)
      exact fun _ fails => (looksOnly_armGuard path).refuses fun _ => refuses_throw fails
    · intro result
      cases result with
      | created => exact Nat.le_of_ble_eq_true rfl
      | updated => exact Nat.le_of_ble_eq_true rfl
      | skippedIdentical => exact Nat.le_of_ble_eq_true rfl

theorem answers_handleDelete (path : JsString) :
    Answers (Plan .delete) (handleDelete (sdkGateway platform) opts path) := by
  apply LooksOnly.answers
  · unfold checkProtected
    split
    · exact .update fun _ => .pure _
    · exact .pure _
  · intro refused
    split
    · exact answers_refusal (Nat.le_of_ble_eq_true rfl)
    · apply Accounts.answers (accounts_remove path)
      · intro _
        unfold releaseGuard
        split
        · exact settles_modify _
        · exact settles_pure _
      · exact fun _ => Nat.le_of_ble_eq_true rfl

theorem answers_handleTransfer {transfer : JsString → SdkOperation Unit}
    (accounts : ∀ destination, Accounts plans (transfer destination)) :
    Answers plans (handleTransfer platform req transfer) := by
  unfold handleTransfer destinationPath
  split
  · next missing =>
      split at missing
      · cases missing
        exact answers_reject (Nat.le_of_ble_eq_true rfl)
      · split at missing <;> cases missing
  · exact (accounts _).answered fun _ => Nat.le_of_ble_eq_true rfl

theorem answers_dispatch (changes : (Method.parse req.method).changes = true) (path : JsString) :
    Answers (Plan (Method.parse req.method)) (dispatch (sdkGateway platform) platform opts req path)
    := by
  unfold dispatch
  cases method : Method.parse req.method with
  | put => exact answers_handlePut path
  | mkcol => exact (accounts_mkcol path).answered fun _ => Nat.le_of_ble_eq_true rfl
  | delete => exact answers_handleDelete path
  | move => exact answers_handleTransfer (accounts_move path)
  | copy => exact answers_handleTransfer (accounts_copy path)
  | _ =>
      rw [method] at changes
      cases changes

/-- The other methods make no call that changes what is seen. -/
theorem quiet_dispatch (looks : (Method.parse req.method).changes = false) (path : JsString) :
    Notes (dispatch (sdkGateway platform) platform opts req path) fun _ changes => changes = [] := by
  have absent : ∀ method : Method, method.changes = true → Method.parse req.method ≠ method := by
    rintro method changes rfl
    rw [looks] at changes
    cases changes
  have lenient : Lenient (Rules.issuing fun command : SdkCall => command.carriesOut = false :
      Rules ServiceMemory SdkCall SdkAnswer Thrown Drive) :=
    ⟨fun _ _ => trivial, fun _ command reads => by cases command <;> first | rfl | cases reads⟩
  have within : ChangesWithin platform opts req (Rules.issuing fun command : SdkCall =>
      command.carriesOut = false : Rules ServiceMemory SdkCall SdkAnswer Thrown Drive) := by
    constructor
    · exact fun put => absurd put (absent .put rfl)
    · exact fun mkcol => absurd mkcol (absent .mkcol rfl)
    · exact fun delete => absurd delete (absent .delete rfl)
    · exact fun move => absurd move (absent .move rfl)
    · exact fun copy => absurd copy (absent .copy rfl)
  constructor
  intro trace outcome _ follows
  rw [List.filterMap_eq_nil_iff]
  intro entry member
  cases entry with
  | access memory => rfl
  | exchange command answer =>
      have issued := Rules.Ensures.permits_of_follows
        (makes_dispatch lenient within path ⟨.initial 0, emptyDrive⟩) follows command answer member
      rw [changeOf, issued]
      rfl

theorem carriesOut_look {method : Method} (looks : method.changes = false) (ends : Bool) :
    CarriesOut (Plan method) [] ends := by
  cases ends with
  | true => exact .done [] (.look looks)
  | false => exact .refused

/-- A request is answered, with success exactly if it has come to the end of its plan. -/
theorem answers_handleRequest :
    Notes (handleRequest (sdkGateway platform) platform opts req) fun outcome changes =>
      ∃ response, outcome = .ok response ∧
        CarriesOut (Plan (Method.parse req.method)) changes (decide (response.status < 400)) := by
  apply Program.records_update silent_access
  intro memory
  change Notes (if _ then _ else _ : SdkOperation (Response ReadStream)) _
  split
  · apply Program.records_pure
    refine ⟨_, rfl, ?_⟩
    rw [decide_eq_false (Nat.not_lt.mpr (Nat.le_of_ble_eq_true rfl))]
    exact .refused
  · cases changes : (Method.parse req.method).changes with
    | true =>
        apply (answers_dispatch changes req.path).tryCatch
        · rintro response notes ⟨carries, _⟩
          exact ⟨response, rfl, carries⟩
        · rintro error notes ⟨carries, _⟩
          apply Program.records_pure
          rw [List.append_nil]
          refine ⟨_, rfl, ?_⟩
          rw [status_errorToResponse]
          exact carries
    | false =>
        apply (quiet_dispatch changes req.path).tryCatch
        · rintro response _ rfl
          exact ⟨response, rfl, carriesOut_look changes _⟩
        · rintro error _ rfl
          apply Program.records_pure
          exact ⟨_, rfl, carriesOut_look changes _⟩

/-- However requests run side by side and whatever the SDK answers them, a request that has been
answered has made the calls of one plan, in order and each once, up to the first that failed; and
it has been answered with success exactly if the whole plan has been carried out. -/
theorem ended_carriesOut {sdk : Program.Service SdkCall SdkAnswer Thrown Drive}
    {others : Drive → Drive → Prop}
    {condition : Process.Condition Request ServiceMemory SdkCall SdkAnswer Thrown Drive}
    {initial : ServiceWorld}
    {state next : Process.State Request ServiceMemory SdkCall SdkAnswer Thrown Drive}
    {flight : Process.Flight Request ServiceMemory SdkCall SdkAnswer Thrown}
    (throws : ∀ drive command error final, sdk drive command (.error error) final →
      ∃ fault, error = .sdk fault)
    (reachable : (requests platform opts sdk others).Reachable condition initial state)
    (step : (requests platform opts sdk others).Step (.ended flight) state next) :
    ∃ response, (handleRequest (sdkGateway platform) platform opts flight.label).Follows flight.met
        (.ok response) ∧
      CarriesOut (Plan (Method.parse flight.label.method)) (flight.met.filterMap changeOf)
        (decide (response.status < 400)) := by
  rcases reachable.follows step with ⟨genuine, _, follows⟩
  have fromSdk : ∀ entry ∈ flight.met, FromSdk entry := by
    intro entry member
    cases entry with
    | access memory => trivial
    | exchange command answer =>
        cases answer with
        | ok value => trivial
        | error error =>
            rcases genuine.answered command _ member with ⟨drive, final, answered⟩
            exact throws drive command error final answered
  rcases Program.follows_bind follows with
    ⟨error, rfl, failed⟩ | ⟨met, rest, response, same, handled, done⟩
  · rcases answers_handleRequest.ends _ _ fromSdk failed with ⟨_, ⟨⟩, _⟩
  · rcases (Program.follows_finish done).1 with rfl
    rw [List.append_nil] at same
    rw [same] at fromSdk ⊢
    rcases answers_handleRequest.ends _ _ fromSdk handled with ⟨_, ⟨⟩, carries⟩
    exact ⟨response, handled, carries⟩

end

/-! ## A PUT -/

/-- An error of the double is one of the SDK. -/
theorem throws_doubleSdk {platform : Platform} {now : Date} (drive : Drive) (command : SdkCall)
    (error : Thrown) (final : Drive)
    (answered : doubleSdk platform now drive command (.error error) final) :
    ∃ fault, error = .sdk fault := by
  have given : (SdkDouble.answer platform now drive command).1 = .error error :=
    congrArg Prod.fst answered
  have node : ∀ uid, SdkDouble.getNode drive uid = .error error → ∃ fault, error = .sdk fault := by
    intro uid missing
    unfold SdkDouble.getNode at missing
    split at missing
    · cases missing
    · cases missing
      exact ⟨_, rfl⟩
  cases command with
  | getPathNode => exact node _ given
  | getNode uid => exact node uid given
  | getFileUploader parent name metadata =>
      simp only [SdkDouble.answer, SdkDouble.getFileUploader] at given
      split at given
      · cases given
      · split at given
        · cases given
        · cases given
          exact ⟨_, rfl⟩
  | uploadFromStream uploader stream =>
      rw [SdkDouble.answer] at given
      split at given
      · cases given
      · cases given
        exact ⟨_, rfl⟩
  | completion controller =>
      simp only [SdkDouble.answer, SdkDouble.completion] at given
      split at given
      · split at given
        · cases given
          exact ⟨_, rfl⟩
        · split at given
          · cases given
            exact ⟨_, rfl⟩
          · cases given
      · cases given
        exact ⟨_, rfl⟩
  | iterateFolderChildren => cases given
  | getFileRevisionUploader => cases given
  | cancelBody => cases given
  | releaseBody => cases given
  | _ =>
      cases given
      exact ⟨_, rfl⟩

/-- The service once it has answered a PUT, and before it is done with it. -/
def putToEnd : Process.State Request ServiceMemory SdkCall SdkAnswer Thrown Drive :=
  (Process.advance fun drive command =>
      SdkDouble.answer (.plain []) SdkDouble.addedAt drive command)^[13]
    ⟨⟨.initial 0, emptyDrive⟩,
      [⟨timedPut "1000000000", [], uploadRequests.launch (timedPut "1000000000")⟩]⟩

theorem putToEnd_reachable : uploadRequests.Reachable (fun _ _ _ => True)
    ⟨.initial 0, emptyDrive⟩ putToEnd :=
  .head ⟨_, .start (timedPut "1000000000") _ [], trivial⟩
    (Process.leads_iterate (fun _ _ => rfl) 13 _)

theorem ended_carriesOut_timedPut : ∃ met response controller,
    (handleRequest (sdkGateway (.plain [])) (.plain []) plainOptions
      (timedPut "1000000000")).Follows met (.ok response) ∧
    met.filterMap changeOf = [(.completion controller, true)] ∧
    CarriesOut (Plan .put) [(.completion controller, true)] (decide (response.status < 400)) := by
  have ends : ∃ flight next, uploadRequests.Step (.ended flight) putToEnd next ∧
      flight.label = timedPut "1000000000" ∧ ∃ controller,
        flight.met.filterMap changeOf = [(.completion controller, true)] :=
    ⟨_, _, .finish _ _ () _ [] [], rfl, _, rfl⟩
  rcases ends with ⟨flight, next, step, label, controller, made⟩
  rcases ended_carriesOut throws_doubleSdk putToEnd_reachable step with ⟨response, handled, carries⟩
  rw [label] at handled carries
  rw [made] at carries
  exact ⟨flight.met, response, controller, handled, made, carries⟩

end DriveWebdav
