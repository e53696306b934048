import DriveWebdav.Foundation.InsertionMap
import DriveWebdav.MockGateway.Operations

/-! # The tree across restarts

What `serialize` writes down of a tree and what `restore` makes of it. The text in between is
not modelled: the language's own library reads back the data that it wrote. -/

namespace DriveWebdav

/-- `mtime.toISOString()`, by the milliseconds that the text stands for. It throws for an
invalid date. -/
def Date.toISOString (date : Date) : Option Int := date.milliseconds

structure SavedFile where
  data : Bytes
  sha1 : JsString
  mtime : Int
  revisions : Nat
  deriving DecidableEq, Repr

def SavedFile.toFile (saved : SavedFile) : MockFile :=
  ⟨saved.data, saved.sha1, Date.ofMilliseconds (some saved.mtime), saved.revisions⟩

/-- What `serialize` writes down. -/
structure Snapshot where
  dirs : List JsString
  files : InsertionMap JsString SavedFile
  drafts : InsertionMap JsString MockDraft
  usedBytes : Nat

namespace MockGateway

/-- Add a folder's entries, and what is below them, to a snapshot. -/
def walk : MockEntries → JsString → Snapshot → Option Snapshot
  | .nil, _, out => some out
  | .folder name _ children rest, above, out =>
      let p := normalize (above ++ '/' :: name)
      (walk children p { out with dirs := out.dirs ++ [p] }).bind (walk rest above)
  | .leaf name (.file file) rest, above, out =>
      let p := normalize (above ++ '/' :: name)
      file.mtime.toISOString.bind fun mtime =>
        walk rest above
          { out with files := out.files.set p ⟨file.data, file.sha1, mtime, file.revisions⟩ }
  | .leaf name (.draft draft) rest, above, out =>
      let p := normalize (above ++ '/' :: name)
      walk rest above { out with drafts := out.drafts.set p draft }

def serialize (gateway : MockGateway) : Option Snapshot :=
  walk gateway.root [] ⟨[], .empty, .empty, gateway.usedBytes⟩

/-- The folders on the way to a path, made where they are missing. A file in their place
throws. -/
def ensureDirs (now : Date) (path : JsString) (root : MockEntries) : Option MockEntries :=
  root.ensure now (segments path)

/-- Put a leaf at its path. -/
def place (now : Date) (root : MockEntries) (path : JsString) (leaf : MockLeaf) :
    Option MockEntries :=
  (ensureDirs now (parentPath path) root).bind fun root =>
    (root.folderAt (segments (parentPath path))).map fun _ =>
      root.modify (fun children => children.set (baseName path) (.leaf leaf))
        (segments (parentPath path))

def restoreDirs (now : Date) (snapshot : Snapshot) : Option MockEntries :=
  snapshot.dirs.foldlM (fun root path => ensureDirs now path root) .nil

def restoreFiles (now : Date) (snapshot : Snapshot) (root : MockEntries) : Option MockEntries :=
  snapshot.files.entries.foldlM (fun root entry => place now root entry.1 (.file entry.2.toFile)) root

def restoreDrafts (now : Date) (snapshot : Snapshot) (root : MockEntries) : Option MockEntries :=
  snapshot.drafts.entries.foldlM (fun root entry => place now root entry.1 (.draft entry.2)) root

/-- `restore`, which throws where a folder is missing. Folders are dated anew. -/
def restore (now : Date) (gateway : MockGateway) (snapshot : Snapshot) : Option MockGateway :=
  (restoreDirs now snapshot).bind fun root =>
    (restoreFiles now snapshot root).bind fun root =>
      (restoreDrafts now snapshot root).map fun root =>
        { gateway with root, usedBytes := snapshot.usedBytes }

/-- A new process, with the same client UID, takes over the tree. -/
def restart (now : Date) (gateway : MockGateway) : Option MockGateway :=
  gateway.serialize.bind (restore now ⟨gateway.clientUid, .nil, .none, 0⟩)

end MockGateway

end DriveWebdav
