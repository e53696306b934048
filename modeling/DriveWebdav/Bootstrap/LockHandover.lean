import DriveWebdav.Bootstrap.Service

/-! # Handing the session lock back

A failed start is to give up the session lock that it took. Only two of its steps go
through the wrapper that does. -/

namespace DriveWebdav

namespace BootstrapService

open Program

abbrev StartupEntry := Program.Entry Unit StartupCommand StartupCommand.Answer StartupError

/-- Whether the lock is held after a trace. Releasing never fails. -/
def lockAfter (locked : Bool) : List StartupEntry → Bool
  | [] => locked
  | .exchange .acquireSessionOwnership (.ok _) :: rest => lockAfter true rest
  | .exchange .releaseOwnership _ :: rest => lockAfter false rest
  | _ :: rest => lockAfter locked rest

def movesLock : StartupCommand → Bool
  | .acquireSessionOwnership | .releaseOwnership => true
  | _ => false

/-- A command that comes before the lock, whose failure is caught, or whose failure is
wrapped. -/
def handsBack : StartupCommand → Bool
  | .findActiveProtonClient | .releaseStaleEventsLock | .makeDirectories | .initTelemetry
  | .ensurePrivateDirectory | .acquireSessionOwnership | .readDirectory | .initApi
  | .releaseOwnership => true
  | _ => false

/-- No other command fails. -/
def Spared (trace : List StartupEntry) : Prop :=
  ∀ command error, .exchange command (.error error) ∈ trace → handsBack command = true

/-- The lock is not taken. -/
def Untaken (trace : List StartupEntry) : Prop :=
  ∀ answer, .exchange .acquireSessionOwnership (.ok answer) ∉ trace

def isKnownStore (store : JsString) : Bool :=
  store = ("unsafe_file" : JsString) || store = ("pass" : JsString) ||
    store = ("keychain" : JsString)

/-- What the start may fail of without keeping the lock. -/
def HandsBack (config : StartupConfig) (trace : List StartupEntry) : Prop :=
  Spared trace ∧ (isKnownStore config.credentialsStore = true ∨ Untaken trace)

variable {α β : Type} {config : StartupConfig} {trace first second : List StartupEntry}
  {locked middle final : Bool}

theorem lockAfter_append : lockAfter locked (first ++ second) =
    lockAfter (lockAfter locked first) second := by
  induction first generalizing locked with
  | nil => rfl
  | cons entry rest induction =>
      cases entry with
      | access memory => exact induction
      | exchange command answer =>
          cases command with
          | acquireSessionOwnership =>
              cases answer with
              | ok value => exact induction
              | error error => exact induction
          | _ => exact induction

theorem spared_append : Spared (first ++ second) ↔ Spared first ∧ Spared second := by
  constructor
  · intro spared
    constructor
    · intro command error member
      exact spared command error (List.mem_append_left _ member)
    · intro command error member
      exact spared command error (List.mem_append_right _ member)
  · intro both command error member
    rcases List.mem_append.mp member with member | member
    · exact both.1 command error member
    · exact both.2 command error member

theorem spared_nil : Spared [] := by
  intro command error member
  cases member

/-! ## Accounting for the lock -/

/-- From `locked`, the program ends with the lock as `final` tells, or it throws, and then
the lock is free exactly when nothing failed that keeps it. -/
structure Accounts (locked : Bool) (program : StartupProgram α) (final : Bool) : Prop where
  ok : ∀ trace value, program.Follows trace (.ok value) →
    Spared trace ∧ lockAfter locked trace = final
  error : ∀ trace error, program.Follows trace (.error error) →
    (lockAfter locked trace = false ↔ Spared trace)

theorem Accounts.bind {program : StartupProgram α} {next : α → StartupProgram β}
    (left : Accounts locked program middle)
    (right : ∀ value, Accounts middle (next value) final) :
    Accounts locked (program >>= next) final := by
  constructor
  · intro trace result follows
    rcases follows_bind follows with ⟨_, equal, _⟩ | ⟨one, two, value, rfl, before, after⟩
    · cases equal
    · rcases left.ok one value before with ⟨sparedOne, reached⟩
      rcases (right value).ok two result after with ⟨sparedTwo, ended⟩
      refine ⟨spared_append.mpr ⟨sparedOne, sparedTwo⟩, ?_⟩
      rw [lockAfter_append, reached, ended]
  · intro trace error follows
    rcases follows_bind follows with ⟨_, equal, thrown⟩ | ⟨one, two, value, rfl, before, after⟩
    · cases equal
      exact left.error trace error thrown
    · rcases left.ok one value before with ⟨sparedOne, reached⟩
      rw [lockAfter_append, reached, (right value).error two error after, spared_append]
      exact ⟨fun spared => ⟨sparedOne, spared⟩, fun spared => spared.2⟩

theorem accounts_pure (value : α) : Accounts locked (pure value) locked := by
  constructor
  · intro trace result follows
    cases follows
    exact ⟨spared_nil, rfl⟩
  · intro trace error follows
    cases follows

theorem accounts_throw (error : StartupError) :
    Accounts false (throw error : StartupProgram α) final := by
  constructor
  · intro trace result follows
    cases follows
  · intro trace other follows
    cases follows
    exact ⟨fun _ => spared_nil, fun _ => rfl⟩

theorem follows_call {command : StartupCommand} {outcome : Except StartupError command.Answer}
    (follows : (call command).Follows trace outcome) : trace = [.exchange command outcome] := by
  cases follows with
  | await answer ended =>
      cases answer with
      | ok value =>
          cases ended
          rfl
      | error error =>
          cases ended
          rfl

/-- A command that neither takes nor releases the lock. When it fails while the lock is
held, the lock is kept. -/
theorem accounts_call {command : StartupCommand} (still : movesLock command = false)
    (keeps : handsBack command = !locked) :
    Accounts locked (call command) locked := by
  have unmoved : ∀ answer, lockAfter locked [.exchange command answer] = locked := by
    intro answer
    cases command with
    | acquireSessionOwnership | releaseOwnership => cases still
    | _ => rfl
  constructor
  · intro trace value follows
    rw [follows_call follows]
    refine ⟨?_, unmoved _⟩
    intro other error member
    cases List.mem_singleton.mp member
  · intro trace error follows
    rw [follows_call follows, unmoved]
    constructor
    · intro free other thrown member
      cases List.mem_singleton.mp member
      rw [keeps, free]
      rfl
    · intro spared
      have handed := spared command error List.mem_cons_self
      rw [keeps] at handed
      exact Bool.not_eq_true' _ ▸ handed

theorem accounts_acquire : Accounts false (call .acquireSessionOwnership) true := by
  constructor
  · intro trace value follows
    rw [follows_call follows]
    refine ⟨?_, rfl⟩
    intro other error member
    cases List.mem_singleton.mp member
  · intro trace error follows
    rw [follows_call follows]
    refine ⟨fun _ => ?_, fun _ => rfl⟩
    intro other thrown member
    cases List.mem_singleton.mp member
    rfl

theorem spared_call {command : StartupCommand} {answer : Except StartupError command.Answer}
    (handed : handsBack command = true) : Spared [.exchange command answer] := by
  intro other error member
  cases List.mem_singleton.mp member
  exact handed

/-- A command whose failure is caught. -/
theorem follows_caught {command : StartupCommand} {value : command.Answer}
    {outcome : Except StartupError command.Answer}
    (follows : (tryCatch (call command) fun _ => pure value).Follows trace outcome) :
    ∃ answer result, outcome = .ok result ∧ trace = [.exchange command answer] := by
  rcases follows_tryCatch follows with ⟨result, rfl, ended⟩ | ⟨one, two, error, rfl, thrown, after⟩
  · exact ⟨_, result, rfl, follows_call ended⟩
  · cases after
    rw [List.append_nil]
    exact ⟨_, value, rfl, follows_call thrown⟩

theorem accounts_release :
    Accounts true (tryCatch (call .releaseOwnership) fun _ => pure ()) false := by
  constructor
  · intro trace value follows
    rcases follows_caught follows with ⟨answer, _, _, rfl⟩
    exact ⟨spared_call rfl, rfl⟩
  · intro trace error follows
    rcases follows_caught follows with ⟨_, _, equal, _⟩
    cases equal

theorem accounts_readDirectory :
    Accounts true (tryCatch (call .readDirectory) fun _ => pure ()) true := by
  constructor
  · intro trace value follows
    rcases follows_caught follows with ⟨answer, _, _, rfl⟩
    exact ⟨spared_call rfl, rfl⟩
  · intro trace error follows
    rcases follows_caught follows with ⟨_, _, equal, _⟩
    cases equal

theorem accounts_abortStartup (error : StartupError) :
    Accounts true (abortStartup false error : StartupProgram α) final :=
  accounts_release.bind fun _ => accounts_throw error

/-- However `initApi` goes wrong, the lock is handed back. -/
theorem accounts_loadApi :
    Accounts true (tryCatch (loadApi config) (abortStartup false)) true := by
  have called : ∀ {trace outcome}, (loadApi config).Follows trace outcome →
      ∃ answer, trace = [.exchange .initApi answer] := by
    intro trace outcome follows
    rcases follows_bind follows with ⟨error, _, thrown⟩ | ⟨one, two, value, rfl, before, after⟩
    · exact ⟨_, follows_call thrown⟩
    · rw [follows_call before]
      cases value with
      | none =>
          cases after
          exact ⟨_, rfl⟩
      | some api =>
          cases after
          exact ⟨_, rfl⟩
  constructor
  · intro trace value follows
    rcases follows_tryCatch follows with ⟨_, _, ended⟩ | ⟨one, two, error, rfl, before, after⟩
    · rcases called ended with ⟨answer, rfl⟩
      exact ⟨spared_call rfl, rfl⟩
    · rcases called before with ⟨answer, rfl⟩
      have aborted : Accounts true (abortStartup false error : StartupProgram Unit) true :=
        accounts_abortStartup error
      rcases aborted.ok two value after with ⟨spared, ended⟩
      rw [lockAfter_append, spared_append]
      exact ⟨⟨spared_call rfl, spared⟩, ended⟩
  · intro trace error follows
    rcases follows_tryCatch follows with ⟨_, equal, _⟩ | ⟨one, two, thrown, rfl, before, after⟩
    · cases equal
    · rcases called before with ⟨answer, rfl⟩
      have accounts : Accounts true (abortStartup false thrown : StartupProgram Unit) true :=
        accounts_abortStartup thrown
      have aborted := accounts.error two error after
      rw [lockAfter_append, spared_append]
      exact ⟨fun free => ⟨spared_call rfl, aborted.mp free⟩, fun spared => aborted.mpr spared.2⟩

theorem accounts_createCredentialsStore {store : JsString} (known : isKnownStore store = true) :
    Accounts true (createCredentialsStore store) true := by
  unfold createCredentialsStore
  by_cases file : store = ("unsafe_file" : JsString)
  · rw [if_pos file]
    exact accounts_call rfl rfl
  · rw [if_neg file]
    by_cases pass : store = ("pass" : JsString)
    · rw [if_pos pass]
      exact accounts_call rfl rfl
    · rw [if_neg pass]
      by_cases keychain : store = ("keychain" : JsString)
      · rw [if_pos keychain]
        exact accounts_call rfl rfl
      · rw [isKnownStore, decide_eq_false file, decide_eq_false pass,
          decide_eq_false keychain] at known
        cases known

theorem accounts_generateClientUid : Accounts true generateClientUid true := by
  apply Accounts.bind
  · exact accounts_call rfl rfl
  · intro uuid
    apply Accounts.bind
    · exact accounts_call rfl rfl
    · intro _
      exact accounts_pure _

theorem accounts_getOrGenerateServiceClientUid :
    Accounts true getOrGenerateServiceClientUid true := by
  apply Accounts.bind
  · exact accounts_call rfl rfl
  · intro file
    cases file with
    | none => exact accounts_generateClientUid
    | some content =>
        cases content with
        | malformed => exact accounts_generateClientUid
        | record clientUid =>
            cases clientUid with
            | none => exact accounts_generateClientUid
            | some clientUid =>
                simp only
                split
                · exact accounts_pure _
                · exact accounts_generateClientUid

theorem accounts_openEvents : Accounts true (openEvents config) true := by
  unfold openEvents
  split
  · apply Accounts.bind
    · exact accounts_call rfl rfl
    · intro canListenForEvents
      cases canListenForEvents with
      | true => exact accounts_pure ()
      | false =>
          apply Accounts.bind
          · exact accounts_call rfl rfl
          · intro _
            cases config.allowConcurrentClient with
            | true => exact accounts_pure ()
            | false => exact accounts_abortStartup _
  · exact accounts_pure ()

theorem accounts_prepare : Accounts false (prepare config) false := by
  have rest : ∀ _ : Unit, Accounts false (do
      call .makeDirectories
      call .initTelemetry) false := by
    intro _
    apply Accounts.bind
    · exact accounts_call rfl rfl
    · intro _
      exact accounts_call rfl rfl
  apply Accounts.bind
  · exact accounts_call rfl rfl
  · intro activeClientPid
    cases activeClientPid with
    | none => exact Accounts.bind (accounts_call rfl rfl) rest
    | some pid =>
        simp only
        split
        · exact rest ()
        · exact Accounts.bind (accounts_throw _) rest

theorem accounts_acquireCredentialStoreOwnership :
    Accounts false acquireCredentialStoreOwnership true := by
  apply Accounts.bind
  · exact accounts_call rfl rfl
  · intro _
    apply Accounts.bind
    · exact accounts_acquire
    · intro _
      exact accounts_readDirectory

/-! ## The whole start -/

theorem accounts_bootstrapService (known : isKnownStore config.credentialsStore = true) :
    Accounts false (bootstrapService config) true := by
  apply Accounts.bind
  · exact accounts_prepare
  · intro _
    apply Accounts.bind
    · exact accounts_acquireCredentialStoreOwnership
    · intro _
      apply Accounts.bind
      · exact accounts_createCredentialsStore known
      · intro _
        apply Accounts.bind
        · exact accounts_call rfl rfl
        · intro _
          apply Accounts.bind
          · exact accounts_loadApi
          · intro _
            apply Accounts.bind
            · exact accounts_getOrGenerateServiceClientUid
            · intro clientUid
              apply Accounts.bind
              · exact accounts_call rfl rfl
              · intro _
                apply Accounts.bind
                · exact accounts_openEvents
                · intro _
                  apply Accounts.bind
                  · exact accounts_call rfl rfl
                  · intro _
                    apply Accounts.bind
                    · exact accounts_call rfl rfl
                    · intro _
                      exact accounts_pure clientUid

/-! ## A store that is not known -/

theorem untaken_cons {entry : StartupEntry} {rest : List StartupEntry}
    (other : ∀ answer, entry ≠ .exchange .acquireSessionOwnership (.ok answer)) :
    Untaken (entry :: rest) ↔ Untaken rest := by
  constructor
  · intro untaken answer member
    exact untaken answer (List.mem_cons_of_mem _ member)
  · intro untaken answer member
    rcases List.mem_cons.mp member with same | member
    · exact other answer same.symm
    · exact untaken answer member

/-- Without a release, the lock is free only while it has not been taken. -/
theorem free_iff_untaken (kept : ∀ answer, .exchange .releaseOwnership answer ∉ trace) :
    lockAfter locked trace = false ↔ locked = false ∧ Untaken trace := by
  induction trace generalizing locked with
  | nil => exact ⟨fun free => ⟨free, fun _ member => by cases member⟩, fun free => free.1⟩
  | cons entry rest induction =>
      have keptRest : ∀ answer, .exchange .releaseOwnership answer ∉ rest :=
        fun answer member => kept answer (List.mem_cons_of_mem _ member)
      cases entry with
      | access memory =>
          have same := @untaken_cons (.access memory) rest fun _ equal => by cases equal
          rw [same]
          exact induction keptRest
      | exchange command answer =>
          cases command with
          | releaseOwnership => exact absurd List.mem_cons_self (kept answer)
          | acquireSessionOwnership =>
              cases answer with
              | ok value =>
                  constructor
                  · intro free
                    cases ((induction keptRest).mp free).1
                  · intro untaken
                    exact absurd List.mem_cons_self (untaken.2 value)
              | error error =>
                  have same := @untaken_cons (.exchange .acquireSessionOwnership (.error error))
                    rest fun _ equal => by cases equal
                  rw [same]
                  exact induction keptRest
          | _ =>
              have same := @untaken_cons (.exchange _ answer) rest fun _ equal => by cases equal
              rw [same]
              exact induction keptRest

/-- Such a start comes to its end right after it has taken the lock. -/
theorem bootstrapService_of_unknown (unknown : isKnownStore config.credentialsStore = false) :
    bootstrapService config = (do
      prepare config
      acquireCredentialStoreOwnership
      throw (invalidStoreError config.credentialsStore)) := by
  have invalid : createCredentialsStore config.credentialsStore =
      throw (invalidStoreError config.credentialsStore) := by
    simp only [isKnownStore, Bool.or_eq_false_iff, decide_eq_false_iff_not] at unknown
    rw [createCredentialsStore, if_neg unknown.1.1, if_neg unknown.1.2, if_neg unknown.2]
  unfold bootstrapService
  rw [invalid]
  rfl

theorem within_unknown (error : StartupError) :
    (do
      prepare config
      acquireCredentialStoreOwnership
      throw error : StartupProgram JsString).Within (fun _ => True)
        fun command => handsBack command = true ∧ command ≠ .releaseOwnership := by
  have rest : (do
      call .makeDirectories
      call .initTelemetry : StartupProgram Unit).Within (fun _ => True)
        fun command => handsBack command = true ∧ command ≠ .releaseOwnership := by
    apply within_bind
    · exact within_request ⟨rfl, nofun⟩
    · intro _
      exact within_request ⟨rfl, nofun⟩
  apply within_bind
  · apply within_bind
    · exact within_request ⟨rfl, nofun⟩
    · intro activeClientPid
      cases activeClientPid with
      | none => exact within_bind (within_request ⟨rfl, nofun⟩) fun _ => rest
      | some pid =>
          simp only
          split
          · exact rest
          · trivial
  · intro _
    apply within_bind
    · apply within_bind
      · exact within_request ⟨rfl, nofun⟩
      · intro _
        apply within_bind
        · exact within_request ⟨rfl, nofun⟩
        · intro _
          exact within_tryCatch (within_request ⟨rfl, nofun⟩) fun _ => trivial
    · intro _
      trivial

/-! ## Which failures hand the lock back -/

/-- A start that fails has given the lock up exactly when it failed of `initApi`, or found
another client, or had not taken the lock yet. -/
theorem free_iff_handsBack {error : StartupError}
    (follows : (bootstrapService config).Follows trace (.error error)) :
    lockAfter false trace = false ↔ HandsBack config trace := by
  cases known : isKnownStore config.credentialsStore with
  | true =>
      rw [(accounts_bootstrapService known).error trace error follows]
      exact ⟨fun spared => ⟨spared, .inl known⟩, fun handed => handed.1⟩
  | false =>
      rw [bootstrapService_of_unknown known] at follows
      have issued := (within_unknown _).issued follows
      have kept : ∀ answer, .exchange .releaseOwnership answer ∉ trace :=
        fun answer member => (issued _ answer member).2 rfl
      rw [free_iff_untaken kept]
      constructor
      · intro untaken
        refine ⟨?_, .inr untaken.2⟩
        intro command thrown member
        exact (issued command _ member).1
      · intro handed
        rcases handed.2 with store | untaken
        · rw [known] at store
          cases store
        · exact ⟨rfl, untaken⟩

def fileConfig : StartupConfig where
  appDir := "/data"
  credentialsStore := "unsafe_file"
  enablePersistedEvents := true
  allowConcurrentClient := false

/-- What every start with the lock begins with. -/
def lockedStart : List StartupEntry :=
  [.exchange .findActiveProtonClient (.ok none), .exchange .releaseStaleEventsLock (.ok ()),
    .exchange .makeDirectories (.ok ()), .exchange .initTelemetry (.ok ()),
    .exchange .ensurePrivateDirectory (.ok ()), .exchange .acquireSessionOwnership (.ok ()),
    .exchange .readDirectory (.ok ()), .exchange .ownedFileSessionStore (.ok ()),
    .exchange .initCrypto (.ok ())]

theorem follows_timeout : (bootstrapService fileConfig).Follows
    (lockedStart ++ [.exchange .initApi (.ok none), .exchange .releaseOwnership (.ok ())])
    (.error (timeoutError fileConfig)) := by
  refine .await _ (.await _ (.await _ (.await _ (.await _ (.await _ (.await _ ?_))))))
  refine .await _ (.await _ (.await _ (.await _ ?_)))
  exact .fail _

/-- The keyring never answers. -/
theorem timeout_handsBack : lockAfter false
      (lockedStart ++ [.exchange .initApi (.ok none), .exchange .releaseOwnership (.ok ())]) =
        false ↔
    HandsBack fileConfig
      (lockedStart ++ [.exchange .initApi (.ok none), .exchange .releaseOwnership (.ok ())]) :=
  free_iff_handsBack follows_timeout

/-- The file of the client UID cannot be read, and the start fails with the lock still
held. -/
theorem unreadableUid_keepsLock :
    ∃ trace error, (bootstrapService fileConfig).Follows trace (.error error) ∧
      lockAfter false trace = true := by
  let denied : StartupError := ⟨"Error", "EACCES: permission denied"⟩
  refine ⟨lockedStart ++ [.exchange .initApi (.ok (some ())), .exchange .readClientUid (.error denied)],
    denied, ?_, rfl⟩
  refine .await _ (.await _ (.await _ (.await _ (.await _ (.await _ (.await _ ?_))))))
  refine .await _ (.await _ (.await _ (.await _ ?_)))
  exact .fail _

end BootstrapService

end DriveWebdav
