import DriveWebdav.Gateway

/-! # From SDK errors to gateway errors -/

namespace DriveWebdav

/-- The error a client is answered with when the SDK fails for no reason of the
operation's own. -/
def mapSdkError (platform : Platform) (error : SdkError) : GatewayError :=
  match error.errorClass with
  | .abort => .plain "Operation aborted" 499
  | .rateLimited => .plain "Rate limited by Proton; retry later" 429
  | .connection => .plain "Proton is unreachable" 503
  | .server => .plain (("Proton API error: " : JsString) ++ error.message) 502
  | .nodeWithSameNameExists _ | .validation => .plain error.message 422
  | .integrity =>
      if platform.integrityIsValidation then .plain error.message 422
      else .plain (("Internal error: " : JsString) ++ error.message) 500
  | .other => .plain (("Internal error: " : JsString) ++ error.message) 500

def mapGenericError (platform : Platform) : Thrown → Thrown
  | .gateway error => .gateway error
  | .sdk error => .gateway (mapSdkError platform error)

def unfinishedUploadBlocks (path : JsString) : JsString :=
  path ++
    (": an unfinished upload blocks this name. It may be this service's own draft, " : JsString) ++
    ("if deleting it just failed transiently; retry first. " : JsString) ++
    ("Only if it persists, and the draft belongs to a different client, " : JsString) ++
    ("authorise exactly this path with PROTON_WEBDAV_OVERRIDE_DRAFT_PATH=" : JsString) ++
    path ++ ("." : JsString)

def mapUploadError (platform : Platform) (path : JsString) : Thrown → Thrown
  | .gateway error => .gateway error
  | .sdk error =>
      match error.errorClass with
      | .nodeWithSameNameExists true =>
          .gateway (.draftConflict (unfinishedUploadBlocks path))
      | .nodeWithSameNameExists false =>
          .gateway (.plain
            (path ++ (": a file with this name was created concurrently" : JsString)) 412)
      | .integrity =>
          .gateway (.integrityFailed (path ++ (": " : JsString) ++ error.message))
      | _ => mapGenericError platform (.sdk error)

/-- Run an SDK call, translating its errors. -/
def mapErrors {Command : Type} {Answer : Command → Type} {α : Type} (platform : Platform)
    (fn : Operation Command Answer α) : Operation Command Answer α :=
  tryCatch fn fun error => throw (mapGenericError platform error)

end DriveWebdav
