import DriveWebdav.Foundation.Program
import DriveWebdav.OverwriteGuard
import DriveWebdav.Sdk

/-! # The gateway interface

What the WebDAV layer asks of a store, and the memory of the service. -/

namespace DriveWebdav

structure DriveEntry where
  name : JsString
  isDir : Bool
  size : Nat
  mtime : Date
  sha1 : Option JsString
  deriving DecidableEq, Repr

structure PutOptions where
  size : Option Int
  sha1 : Option JsString
  mtime : Option Date
  immutable : Bool
  overrideOtherClientDraftForPath : Option JsString
  deriving DecidableEq, Repr

inductive PutResult
  | created
  | updated
  | skippedIdentical
  deriving DecidableEq, Repr

/-- An inclusive range of bytes. -/
structure ByteRange where
  start : Nat
  stop : Nat
  deriving DecidableEq, Repr

structure ReadResult (Stream : Type) where
  stream : Stream
  size : Nat
  totalSize : Nat

structure Quota where
  used : Option Int
  available : Option Int
  deriving DecidableEq, Repr

/-- An entry of the path cache. -/
structure Resolved where
  uid : Uid
  parentUid : Option Uid
  expiresAt : Nat
  deriving DecidableEq, Repr

/-- What the requests of one process share. `now` is the clock. -/
structure ServiceMemory where
  now : Nat
  sessionInvalid : Bool
  guard : OverwriteGuard
  rootUid : Option Uid
  resolveCache : InsertionMap JsString Resolved

/-- The memory of a service that has just started. -/
def ServiceMemory.initial (now : Nat) : ServiceMemory where
  now := now
  sessionInvalid := false
  guard := .empty
  rootUid := none
  resolveCache := .empty

/-- An operation of the service, over whatever commands its gateway issues. -/
abbrev Operation (Command : Type) (Answer : Command → Type) :=
  Program ServiceMemory Command Answer Thrown

structure DriveGateway (Command : Type) (Answer : Command → Type) (Stream : Type) where
  stat : JsString → Operation Command Answer (Option DriveEntry)
  list : JsString → Operation Command Answer (List DriveEntry)
  read : JsString → Option ByteRange → Operation Command Answer (ReadResult Stream)
  put : JsString → BodyStream → PutOptions → Operation Command Answer PutResult
  mkcol : JsString → Operation Command Answer Unit
  remove : JsString → Operation Command Answer Unit
  move : JsString → JsString → Operation Command Answer Unit
  copy : JsString → JsString → Operation Command Answer Unit
  quota : Operation Command Answer Quota

/-- Throw an error of the gateway. -/
def reject {Command : Type} {Answer : Command → Type} {α : Type} (error : GatewayError) :
    Operation Command Answer α :=
  .fail (.gateway error)

end DriveWebdav
