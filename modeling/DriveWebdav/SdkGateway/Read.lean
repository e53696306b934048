import DriveWebdav.SdkGateway.Resolve

/-! # Reads

A read as far as its promise goes: until it rejects or returns a stream. What
the returned stream does is modelled on its own. -/

namespace DriveWebdav

/-- How the stream of a read is driven. -/
inductive ReadStream
  | empty
  | whole (node : NodeEntity) (totalSize : Nat)
  | seekable (node : NodeEntity) (start wanted first : Nat)
  | skipping (node : NodeEntity) (start wanted totalSize : Nat)

def SEEK_READ_CHUNK : Nat := 1024 * 1024

section

variable (platform : Platform)

/-- The end of a download whose bytes all arrived: size and digest must fit. -/
def checkDownload (path : JsString) (rev : Revision) (totalSize produced : Nat)
    (actual : JsString) : Option GatewayError :=
  if produced ≠ totalSize then
    some (.integrityFailed (path ++ (": size mismatch, got " : JsString) ++
      JsString.decimalNat produced ++ (", expected " : JsString) ++
      JsString.decimalNat totalSize))
  else
    match truthy (rev.claimedSha1.map JsString.toLowerCase) with
    | none => none
    | some expected =>
        if actual ≠ expected && rev.sha1Verified then
          some (.integrityFailed
            (path ++ (": SHA-1 mismatch against verified claimed digest" : JsString)))
        else none

def readWhole (path : JsString) (node : NodeEntity) (rev : Revision) (totalSize : Nat) :
    SdkOperation (ReadResult ReadStream) := do
  Program.request (SdkCall.getFileDownloader node)
  let started ← mapErrors platform (Program.request (SdkCall.downloadToStream node))
  match started with
  | .chunk => pure ⟨.whole node totalSize, totalSize, totalSize⟩
  | .complete produced actual =>
      match checkDownload path rev totalSize produced actual with
      | some error => reject error
      | none => pure ⟨.whole node totalSize, totalSize, totalSize⟩

def readRangeByFullRead (path : JsString) (node : NodeEntity) (rev : Revision)
    (start wanted totalSize : Nat) : SdkOperation (ReadResult ReadStream) := do
  let _ ← readWhole platform path node rev totalSize
  pure ⟨.skipping node start wanted totalSize, wanted, totalSize⟩

/-- How many bytes a range asks of a file: none past its end. -/
def wantedBytes (range : ByteRange) (totalSize : Nat) : Nat :=
  if totalSize = 0 then 0 else min range.stop (totalSize - 1) + 1 - range.start

def noDataAt (path : JsString) (start : Nat) : GatewayError :=
  .integrityFailed (path ++ (": no data at offset " : JsString) ++ JsString.decimalNat start)

/-- Accept the first chunk of a seekable stream, unless it is empty. -/
def acceptFirst (path : JsString) (start wanted : Nat) : Option Nat → SdkOperation Nat
  | none | some 0 => reject (noDataAt path start)
  | some length => pure (min length wanted)

def firstSeekableChunk (path : JsString) (start wanted : Nat) : SdkOperation Nat := do
  Program.request (SdkCall.seek start)
  let value ← Program.request (SdkCall.readSeekable (min SEEK_READ_CHUNK wanted))
  acceptFirst path start wanted value

def readRange (path : JsString) (node : NodeEntity) (rev : Revision) (range : ByteRange)
    (totalSize : Nat) : SdkOperation (ReadResult ReadStream) := do
  let wanted := wantedBytes range totalSize
  Program.request (SdkCall.getFileDownloader node)
  let seekable ← tryCatch
    (do
      Program.request (SdkCall.getSeekableStream node)
      pure true)
    (fun _ => pure false)
  if seekable then
    if wanted = 0 then pure ⟨.empty, 0, totalSize⟩
    else do
      let first ← mapErrors platform (firstSeekableChunk path range.start wanted)
      pure ⟨.seekable node range.start wanted first, wanted, totalSize⟩
  else do
    tryCatch (Program.request (SdkCall.forceReleaseDownloadSlot node)) fun _ => pure ()
    readRangeByFullRead platform path node rev range.start wanted totalSize

def read (path : JsString) (range : Option ByteRange) :
    SdkOperation (ReadResult ReadStream) := do
  let node ← resolveOrThrow platform path
  match node.type, node.activeRevision with
  | .file, some rev =>
      match rev.claimedSize with
      | none =>
          reject (.plain (path ++
            (": Proton reports no clear-text size for this revision" : JsString)) 409)
      | some totalSize =>
          match range with
          | some range => readRange platform path node rev range totalSize
          | none => readWhole platform path node rev totalSize
  | _, _ => reject (.notFound (("Not a file: " : JsString) ++ path))

end

end DriveWebdav
