import DriveWebdav.Webdav.Headers
import DriveWebdav.Webdav.Propfind

/-! # Request handlers

The protocol translation, over any gateway. -/

namespace DriveWebdav

inductive Method
  | options
  | propfind
  | proppatch
  | get
  | head
  | put
  | patch
  | mkcol
  | delete
  | move
  | copy
  | unknown
  deriving DecidableEq, Repr

/-- `req.method.toUpperCase()`, told apart as the `switch` does. -/
def Method.parse (text : JsString) : Method :=
  let upper := JsString.toUpperCase text
  if upper = "OPTIONS" then .options
  else if upper = "PROPFIND" then .propfind
  else if upper = "PROPPATCH" then .proppatch
  else if upper = "GET" then .get
  else if upper = "HEAD" then .head
  else if upper = "PUT" then .put
  else if upper = "PATCH" then .patch
  else if upper = "MKCOL" then .mkcol
  else if upper = "DELETE" then .delete
  else if upper = "MOVE" then .move
  else if upper = "COPY" then .copy
  else .unknown

/-- A request. `pathname` is that of its parsed URL, `text` its body read as
text, or nothing where reading it fails. -/
structure Request where
  method : JsString
  pathname : JsString
  header : JsString → Option JsString
  body : Option BodyStream
  text : Option JsString

inductive ResponseBody (Stream : Type)
  | empty
  | text (text : JsString)
  | stream (stream : Stream)

structure Response (Stream : Type) where
  status : Nat
  headers : List (JsString × JsString)
  body : ResponseBody Stream

/-- An error status: the client treats the request as failed. -/
def Response.isError {Stream : Type} (response : Response Stream) : Bool :=
  400 ≤ response.status

/-- `guarded` says whether an overwrite guard is configured. -/
structure WebdavOptions where
  immutable : Bool
  allowOverrideDraftForPath : Option JsString
  guarded : Bool

def XML_CT : JsString := "application/xml; charset=utf-8"

def allowedMethods : JsString :=
  "OPTIONS, GET, HEAD, PUT, PATCH, DELETE, PROPFIND, PROPPATCH, MKCOL, MOVE, COPY"

section Handlers

variable {Command : Type} {Answer : Command → Type} {Stream : Type}

def davResponse (status : Nat) (body : Option JsString)
    (headers : List (JsString × JsString)) : Response Stream where
  status := status
  headers := (("DAV" : JsString), ("1" : JsString)) ::
    (("MS-Author-Via" : JsString), ("DAV" : JsString)) :: headers
  body :=
    match body with
    | none => .empty
    | some text => .text text

def xmlHeaders : List (JsString × JsString) := [("Content-Type", XML_CT)]

def errorToResponse : Thrown → Response Stream
  | .gateway err =>
      davResponse err.httpStatus
        (some (("<?xml version=\"1.0\"?><d:error xmlns:d=\"DAV:\"><d:message>" : JsString) ++
          xmlText err.message ++ ("</d:message></d:error>" : JsString)))
        xmlHeaders
  | .sdk _ => davResponse 500 none []

@[simp] theorem status_errorToResponse (thrown : Thrown) :
    (errorToResponse thrown : Response Stream).status = thrown.status := by
  cases thrown <;> rfl

/-- The path in the `Destination` header, which may be a URL or a path. -/
def destinationPath (platform : Platform) (req : Request) : Except GatewayError JsString :=
  match truthy (req.header "Destination") with
  | none => .error (.conflict "Missing Destination header")
  | some dest =>
      match platform.urlPathname dest with
      | some pathname => .ok (normalize (decode pathname))
      | none => .ok (normalize (decode dest))

variable (gw : DriveGateway Command Answer Stream)

/-- `stat`, where a missing entry is an error. -/
def statOrThrow (path : JsString) : Operation Command Answer DriveEntry :=
  gw.stat path >>= fun
    | none => reject .notFoundDefault
    | some entry => pure entry

def hrefFor (path : JsString) : JsString := if isRoot path then ['/'] else path

def handlePropfind (req : Request) (path : JsString) :
    Operation Command Answer (Response Stream) :=
  let bodyText := req.text.getD []
  if JsString.includes bodyText "quota-available-bytes" then
    gw.quota >>= fun q =>
      pure (davResponse 207 (some (quotaMultistatus path q.used q.available)) xmlHeaders)
  else
    let depth := (req.header "Depth").getD "infinity"
    statOrThrow gw path >>= fun self =>
      let own := responseXml (hrefFor path) self
      if depth ≠ "0" && self.isDir then
        gw.list path >>= fun children =>
          let responses := children.map fun child =>
            responseXml (hrefFor (join path child.name)) child
          pure (davResponse 207 (some (multistatus (own :: responses))) xmlHeaders)
      else pure (davResponse 207 (some (multistatus [own])) xmlHeaders)

private def matchLastmodifiedHere (text : JsString) : Option JsString :=
  let tag : JsString := "<LASTMODIFIED"
  let closing : JsString := "</LASTMODIFIED>"
  if JsString.toUpperCase (text.take tag.length) = tag then
    match (text.drop tag.length).dropWhile (· ≠ '>') with
    | '>' :: content =>
        let digits := content.takeWhile JsString.isDigit
        let rest := content.dropWhile JsString.isDigit
        if digits ≠ [] && JsString.toUpperCase (rest.take closing.length) = closing then
          some digits
        else none
    | _ => none
  else none

/-- The first match of `<lastmodified[^>]*>(\d+)</lastmodified>`, in any case. -/
def matchLastmodified : JsString → Option JsString
  | [] => none
  | character :: rest =>
      match matchLastmodifiedHere (character :: rest) with
      | some digits => some digits
      | none => matchLastmodified rest

def handleProppatch (req : Request) (path : JsString) :
    Operation Command Answer (Response Stream) :=
  let body := req.text.getD []
  statOrThrow gw path >>= fun self =>
    let ok :=
      match matchLastmodified body with
      | none => false
      | some digits =>
          decide (some (JsString.digitsValue digits : Int) =
            self.mtime.getTime.map fun time => time.fdiv 1000)
    pure (davResponse 207 (some (proppatchMultistatus path ok)) xmlHeaders)

def sha1Header (sha1 : Option JsString) : List (JsString × JsString) :=
  match truthy sha1 with
  | none => []
  | some digest => [("OC-Checksum", ("SHA1:" : JsString) ++ digest)]

def handleRecalculateHash (req : Request) (path : JsString) :
    Operation Command Answer (Response Stream) :=
  match truthy (req.header "X-Recalculate-Hash") with
  | none => pure (davResponse 400 none [])
  | some _ =>
      statOrThrow gw path >>= fun info =>
        if info.isDir then pure (davResponse 405 none [])
        else pure (davResponse 200 none (sha1Header info.sha1))

def handleGet (req : Request) (path : JsString) (headOnly : Bool) :
    Operation Command Answer (Response Stream) :=
  statOrThrow gw path >>= fun info =>
    if info.isDir then pure (davResponse 405 none [])
    else
      let commonHeaders : List (JsString × JsString) :=
        (("Accept-Ranges" : JsString), ("bytes" : JsString)) ::
          (("Last-Modified" : JsString), info.mtime.toUTCString) ::
          (("Content-Type" : JsString), ("application/octet-stream" : JsString)) ::
          sha1Header info.sha1
      let sized := fun (size : Nat) =>
        commonHeaders ++ [(("Content-Length" : JsString), JsString.decimalNat size)]
      match parseRange (req.header "Range") info.size with
      | .unsatisfiable =>
          pure (davResponse 416 none
            [("Content-Range", ("bytes */" : JsString) ++ JsString.decimalNat info.size)])
      | .range range =>
          if headOnly then pure ⟨200, sized info.size, .empty⟩
          else
            gw.read path (some range) >>= fun result =>
              let contentRange := ("bytes " : JsString) ++ JsString.decimalNat range.start ++
                '-' :: JsString.decimalNat range.stop ++
                '/' :: JsString.decimalNat result.totalSize
              pure ⟨206, sized result.size ++ [(("Content-Range" : JsString), contentRange)],
                .stream result.stream⟩
      | .none =>
          if headOnly then pure ⟨200, sized info.size, .empty⟩
          else
            gw.read path none >>= fun result =>
              pure ⟨200, sized result.size, .stream result.stream⟩

/-- The options a PUT request asks for. -/
def putOptions (opts : WebdavOptions) (req : Request) : PutOptions where
  size := parseContentLength (req.header "Content-Length")
  sha1 := parseOcChecksum (req.header "OC-Checksum")
  mtime := parseOcMtime (req.header "X-OC-Mtime")
  immutable := opts.immutable
  overrideOtherClientDraftForPath := opts.allowOverrideDraftForPath

/-- The body to upload. A request without one is taken for an empty file only
when it declares zero bytes. -/
def putBody (req : Request) : Except GatewayError BodyStream :=
  match req.body, parseContentLength (req.header "Content-Length") with
  | some body, _ => .ok body
  | none, some 0 => .ok .done
  | none, some size =>
      .error (.conflict (("PUT declared " : JsString) ++ JsString.decimal size ++
        (" bytes but carried no body" : JsString)))
  | none, none =>
      .error (.conflict
        "PUT has no body and no Content-Length; refusing to guess an empty upload")

theorem status_of_putBody {req : Request} {error : GatewayError}
    (refused : putBody req = .error error) : error.httpStatus = 409 := by
  unfold putBody at refused
  split at refused <;> cases refused <;> rfl

/-- `guard.protect(path)`, at the moment of the call. -/
def protect (path : JsString) : Operation Command Answer Unit :=
  Program.modify fun memory =>
    { memory with guard := memory.guard.protect path memory.now }

/-- What `handlePut` does once `gw.put` has rejected: look whether anything is at
the path, and if so protect it from the cleanup DELETE. -/
def armGuard (opts : WebdavOptions) (path : JsString) : Operation Command Answer Unit :=
  if opts.guarded then
    tryCatch (gw.stat path) (fun _ => pure none) >>= fun
      | none => pure ()
      | some _ => protect path
  else pure ()

def mtimeAccepted : JsString × JsString := ("X-OC-Mtime", "accepted")

def putResponse (putOpts : PutOptions) (result : PutResult) : Response Stream :=
  let headers := sha1Header putOpts.sha1
  let accepted : List (JsString × JsString) :=
    if putOpts.mtime.isSome then mtimeAccepted :: headers else headers
  match result with
  | .created => davResponse 201 none accepted
  | .updated => davResponse 204 none accepted
  | .skippedIdentical => davResponse 204 none headers

def handlePut (opts : WebdavOptions) (req : Request) (path : JsString) :
    Operation Command Answer (Response Stream) :=
  match putBody req with
  | .error error => reject error
  | .ok body =>
      let putOpts := putOptions opts req
      tryCatch (gw.put path body putOpts)
          (fun error => armGuard gw opts path >>= fun _ => throw error) >>= fun result =>
        pure (putResponse putOpts result)

def forbiddenDelete : Response Stream :=
  davResponse 403
    (some (("<?xml version=\"1.0\"?><d:error xmlns:d=\"DAV:\"><d:message>" : JsString) ++
      ("Refusing to delete committed content immediately after a failed overwrite" : JsString) ++
      ("</d:message></d:error>" : JsString)))
    xmlHeaders

/-- `guard.isProtected(path)`, which also prunes the guard. -/
def checkProtected (opts : WebdavOptions) (path : JsString) : Operation Command Answer Bool :=
  if opts.guarded then
    .update
      (fun memory =>
        { memory with guard := (memory.guard.isProtected path memory.now).2 })
      (fun memory => pure (memory.guard.isProtected path memory.now).1)
  else pure false

def releaseGuard (opts : WebdavOptions) (path : JsString) : Operation Command Answer Unit :=
  if opts.guarded then
    Program.modify fun memory => { memory with guard := memory.guard.release path }
  else pure ()

def handleDelete (opts : WebdavOptions) (path : JsString) :
    Operation Command Answer (Response Stream) :=
  checkProtected opts path >>= fun refused =>
    if refused then pure forbiddenDelete
    else
      gw.remove path >>= fun _ =>
        releaseGuard opts path >>= fun _ =>
          pure (davResponse 204 none [])

/-- A MOVE or COPY, given the gateway operation it asks for. -/
def handleTransfer (platform : Platform) (req : Request)
    (transfer : JsString → Operation Command Answer Unit) :
    Operation Command Answer (Response Stream) :=
  match destinationPath platform req with
  | .error error => reject error
  | .ok destination => transfer destination >>= fun _ => pure (davResponse 201 none [])

variable (platform : Platform) (opts : WebdavOptions)

def dispatch (req : Request) (path : JsString) :
    Operation Command Answer (Response Stream) :=
  match Method.parse req.method with
  | .options => pure (davResponse 200 none [("Allow", allowedMethods)])
  | .propfind => handlePropfind gw req path
  | .proppatch => handleProppatch gw req path
  | .get => handleGet gw req path false
  | .head => handleGet gw req path true
  | .put => handlePut gw opts req path
  | .patch => handleRecalculateHash gw req path
  | .mkcol => gw.mkcol path >>= fun _ => pure (davResponse 201 none [])
  | .delete => handleDelete gw opts path
  | .move => handleTransfer platform req (gw.move path)
  | .copy => handleTransfer platform req (gw.copy path)
  | .unknown => pure (davResponse 405 none [("Allow", allowedMethods)])

def sessionRejected : JsString :=
  ("Proton rejected this session: the saved token is no longer valid. " : JsString) ++
    ("Re-authenticate with the official Proton Drive CLI (`auth login`) against the same " :
      JsString) ++
    ("data directory, then restart this service. Retrying will not help." : JsString)

def Request.path (req : Request) : JsString := normalize (decode req.pathname)

def handleRequest (req : Request) : Operation Command Answer (Response Stream) :=
  Program.read >>= fun memory =>
    if Method.parse req.method ≠ .options && memory.sessionInvalid then
      pure (davResponse 401 (some sessionRejected) [])
    else
      tryCatch (dispatch gw platform opts req req.path)
        (fun error => pure (errorToResponse error))

end Handlers

end DriveWebdav
