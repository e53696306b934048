import DriveWebdav.Foundation.Trace
import DriveWebdav.Foundation.Text

/-! # Starting the service

`bootstrapService`, with each thing it does outside itself as a command that may
fail. -/

namespace DriveWebdav

structure StartupConfig where
  appDir : JsString
  credentialsStore : JsString
  enablePersistedEvents : Bool
  allowConcurrentClient : Bool

/-- An `Error`, by its class and message. -/
structure StartupError where
  name : JsString
  message : JsString
  deriving DecidableEq

/-- The file of the client UID, told apart by what `JSON.parse` makes of it. -/
inductive ClientUidFile
  | malformed
  | record (clientUid : Option JsString)

inductive StartupCommand
  | findActiveProtonClient
  | releaseStaleEventsLock
  | makeDirectories
  | initTelemetry
  | ensurePrivateDirectory
  | acquireSessionOwnership
  | readDirectory
  | ownedFileSessionStore
  | passSessionStore
  | secretsSessionStore
  | initCrypto
  | initApi
  | readClientUid
  | randomUUID
  | writeClientUid (data : JsString)
  | createCaches
  | openEventsProvider
  | disposeEventsProvider
  | createClients (clientUid : JsString)
  | createEventsManager
  | releaseOwnership
  deriving DecidableEq

/-- `initApi` gives nothing when the timer fires first, `readClientUid` when there is no
file, and the events provider tells whether it can listen for events. -/
abbrev StartupCommand.Answer : StartupCommand → Type
  | .findActiveProtonClient => Option Nat
  | .initApi => Option Unit
  | .readClientUid => Option ClientUidFile
  | .randomUUID => JsString
  | .openEventsProvider => Bool
  | _ => Unit

abbrev StartupProgram := Program Unit StartupCommand StartupCommand.Answer StartupError

namespace BootstrapService

open Program

def call (command : StartupCommand) : StartupProgram command.Answer := request command

def eventsLockFilename : JsString := "events.lock"

def activeClientError (config : StartupConfig) (pid : Nat) : StartupError where
  name := "ConcurrentClientError"
  message := ("Another Proton Drive client (pid " : JsString) ++ JsString.decimalNat pid ++
    (") is using " : JsString) ++ config.appDir ++ (" right now (it holds " : JsString) ++
    eventsLockFilename ++
    ("). Running both would make two processes refresh and rewrite the same session. Wait for it to finish, or set PROTON_WEBDAV_ALLOW_CONCURRENT_CLIENT=1 to override." : JsString)

def concurrentClientError (config : StartupConfig) : StartupError where
  name := "ConcurrentClientError"
  message := ("Another Proton Drive client is using " : JsString) ++ config.appDir ++
    (" right now (its events.lock is held by a live process). Running both would make two processes refresh and rewrite the same session. Wait for it to finish, or set PROTON_WEBDAV_ALLOW_CONCURRENT_CLIENT=1 to override." : JsString)

def timeoutError (config : StartupConfig) : StartupError where
  name := "Error"
  message := ("Timed out after 20s loading credentials from the '" : JsString) ++
    config.credentialsStore ++
    ("' store. If it is the OS keyring, it is probably locked and waiting for an interactive unlock: unlock it, or use a store that does not prompt." : JsString)

def invalidStoreError (store : JsString) : StartupError where
  name := "Error"
  message := ("Invalid credentials store: " : JsString) ++ store

/-- What comes before the lock. -/
def prepare (config : StartupConfig) : StartupProgram Unit := do
  let activeClientPid ← call .findActiveProtonClient
  match (activeClientPid : Option Nat) with
  | none => call .releaseStaleEventsLock
  | some pid =>
      if config.allowConcurrentClient then pure ()
      else throw (activeClientError config pid)
  call .makeDirectories
  call .initTelemetry

/-- `pruneOrphanTempFiles` catches whatever fails. -/
def acquireCredentialStoreOwnership : StartupProgram Unit := do
  call .ensurePrivateDirectory
  call .acquireSessionOwnership
  tryCatch (call .readDirectory) fun _ => pure ()

def createCredentialsStore (store : JsString) : StartupProgram Unit :=
  if store = ("unsafe_file" : JsString) then call .ownedFileSessionStore
  else if store = ("pass" : JsString) then call .passSessionStore
  else if store = ("keychain" : JsString) then call .secretsSessionStore
  else throw (invalidStoreError store)

/-- The wrapper that hands the lock back. -/
def abortStartup {α : Type} (started : Bool) (error : StartupError) : StartupProgram α := do
  if started then pure ()
  else tryCatch (call .releaseOwnership) fun _ => pure ()
  throw error

def loadApi (config : StartupConfig) : StartupProgram Unit := do
  match (← call .initApi : Option Unit) with
  | some api => pure api
  | none => throw (timeoutError config)

def clientUidPrefix : JsString := "external-drive-rclone"

def generateClientUid : StartupProgram JsString := do
  let uuid : JsString ← call .randomUUID
  let clientUid := clientUidPrefix ++ '-' :: uuid
  call (.writeClientUid
    (("\x7b\n  \"clientUid\": \"" : JsString) ++ clientUid ++ ("\"\n\x7d\n" : JsString)))
  pure clientUid

/-- Whatever else is in the file, a new UID is made. -/
def getOrGenerateServiceClientUid : StartupProgram JsString := do
  match (← call .readClientUid : Option ClientUidFile) with
  | some (.record (some clientUid)) =>
      if (clientUidPrefix ++ ['-']).isPrefixOf clientUid then pure clientUid
      else generateClientUid
  | _ => generateClientUid

def openEvents (config : StartupConfig) : StartupProgram Unit := do
  if config.enablePersistedEvents then
    let canListenForEvents : Bool ← call .openEventsProvider
    if canListenForEvents then pure ()
    else
      call .disposeEventsProvider
      if config.allowConcurrentClient then pure ()
      else abortStartup false (concurrentClientError config)
  else pure ()

def bootstrapService (config : StartupConfig) : StartupProgram JsString := do
  prepare config
  acquireCredentialStoreOwnership
  createCredentialsStore config.credentialsStore
  call .initCrypto
  tryCatch (loadApi config) (abortStartup false)
  let clientUid ← getOrGenerateServiceClientUid
  call .createCaches
  openEvents config
  call (.createClients clientUid)
  call .createEventsManager
  pure clientUid

end BootstrapService

end DriveWebdav
