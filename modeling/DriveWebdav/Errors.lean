import DriveWebdav.Foundation.Text

/-! # Errors

What an operation of the service can throw: an error of the SDK, or one of the
gateway's own errors, which carry the status the client is answered with. -/

namespace DriveWebdav

/-- The classes the service tells SDK errors apart by, each error under the most
specific one. -/
inductive SdkErrorClass
  | abort
  | rateLimited
  | connection
  | server
  | integrity
  | nodeWithSameNameExists (isUnfinishedUpload : Bool)
  | validation
  | other
  deriving DecidableEq, Repr

structure SdkError where
  errorClass : SdkErrorClass
  message : JsString
  deriving DecidableEq, Repr

inductive GatewayErrorName
  | gatewayError
  | notFoundError
  | conflictError
  | alreadyExistsError
  | immutablePreconditionError
  | draftConflictError
  | integrityFailedError
  deriving DecidableEq, Repr

structure GatewayError where
  name : GatewayErrorName
  message : JsString
  httpStatus : Nat
  deriving DecidableEq, Repr

namespace GatewayError

def plain (message : JsString) (httpStatus : Nat) : GatewayError :=
  ⟨.gatewayError, message, httpStatus⟩

def notFound (message : JsString) : GatewayError := ⟨.notFoundError, message, 404⟩

def notFoundDefault : GatewayError := notFound "Not Found"

def conflict (message : JsString) : GatewayError := ⟨.conflictError, message, 409⟩

def alreadyExists (message : JsString) : GatewayError := ⟨.alreadyExistsError, message, 405⟩

def alreadyExistsDefault : GatewayError := alreadyExists "Already Exists"

def immutablePrecondition (message : JsString) : GatewayError :=
  ⟨.immutablePreconditionError, message, 412⟩

def draftConflict (message : JsString) : GatewayError := ⟨.draftConflictError, message, 409⟩

def integrityFailed (message : JsString) : GatewayError :=
  ⟨.integrityFailedError, message, 422⟩

end GatewayError

inductive Thrown
  | gateway (error : GatewayError)
  | sdk (error : SdkError)
  deriving DecidableEq, Repr

/-- The status a client is answered with. -/
def Thrown.status : Thrown → Nat
  | .gateway error => error.httpStatus
  | .sdk _ => 500

end DriveWebdav
