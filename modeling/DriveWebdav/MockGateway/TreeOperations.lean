import DriveWebdav.MockGateway.Snapshot

/-! # Entries made, moved and seeded

What the gateway in memory does with whole entries, and the helpers with which tests seed it. -/

namespace DriveWebdav

namespace MockGateway

def destinationTaken (d : JsString) : GatewayError :=
  .immutablePrecondition (("Destination exists: " : JsString) ++ d)

/-- `now` is the time at which the folder is made. -/
def mkcol (now : Date) (path : JsString) : MockOperation Unit :=
  let p := normalize path
  ticked "mkcol" fun gateway =>
    if isRoot p then (.error (.gateway .alreadyExistsDefault), gateway)
    else
      match gateway.dirOf p with
      | .error error => (.error error, gateway)
      | .ok children =>
          if (children.get (baseName p)).isSome then
            (.error (.gateway .alreadyExistsDefault), gateway)
          else
            (.ok (), gateway.inDir p fun children =>
              children.set (baseName p) (.folder now .nil))

def remove (path : JsString) : MockOperation Unit :=
  let p := normalize path
  ticked "remove" fun gateway =>
    if isRoot p then (.error (.gateway (.plain "Refusing to remove root" 403)), gateway)
    else
      match gateway.dirOf p with
      | .error error => (.error error, gateway)
      | .ok children =>
          match children.get (baseName p) with
          | none | some (.leaf (.draft _)) => (.error (.gateway .notFoundDefault), gateway)
          | some _ => (.ok (), gateway.inDir p fun children => children.delete (baseName p))

/-- Put a node that was found somewhere under a name that is free. A folder that was to be put
below itself is then in no folder of the tree. -/
def putNode (d : JsString) (node : MockNode) (prepare : MockGateway → MockGateway) :
    MockOperation Unit := fun gateway =>
  match gateway.dirOf d with
  | .error error => (.error error, gateway)
  | .ok children =>
      if (children.get (baseName d)).isSome then
        (.error (.gateway (destinationTaken d)), gateway)
      else
        (.ok (), (prepare gateway).inDir d fun children => children.set (baseName d) node)

/-- The root is not refused here: that a root that is moved would contain itself is left to
`MockRun.machine`. -/
def move (src dst : JsString) : MockOperation Unit :=
  let s := normalize src
  let d := normalize dst
  ticked "move" fun gateway =>
    match gateway.lookup s with
    | none => (.error (.gateway .notFoundDefault), gateway)
    | some node =>
        putNode d node (fun gateway =>
          gateway.inDir s fun children => children.delete (baseName s)) gateway

def copy (src dst : JsString) : MockOperation Unit :=
  let s := normalize src
  let d := normalize dst
  ticked "copy" fun gateway =>
    match gateway.lookup s with
    | none => (.error (.gateway .notFoundDefault), gateway)
    | some (.leaf (.file file)) => putNode d (.leaf (.file file)) id gateway
    | some _ => (.error (.gateway (.plain "Collection copy unsupported" 501)), gateway)

/-! ## Seeding -/

/-- A helper that throws where a file stands in the place of a folder. -/
def reseed (gateway : MockGateway) (root : Option MockEntries) : MockGateway :=
  { gateway with root := root.getD gateway.root }

def seedFile (digest : Bytes → JsString) (now : Date) (path : JsString) (data : Bytes)
    (mtime : Date) (gateway : MockGateway) : MockGateway :=
  gateway.reseed (place now gateway.root path (.file ⟨data, digest data, mtime, 1⟩))

def seedDraft (now : Date) (path clientUid : JsString) (gateway : MockGateway) : MockGateway :=
  gateway.reseed (place now gateway.root path (.draft ⟨clientUid, 0⟩))

def seedDirs (now : Date) (path : JsString) (gateway : MockGateway) : MockGateway :=
  gateway.reseed (ensureDirs now path gateway.root)

end MockGateway

end DriveWebdav
