import DriveWebdav.Gateway
import DriveWebdav.Paths

/-! # PROPFIND rendering -/

namespace DriveWebdav

private def replaceChars (table : List (Char × JsString)) (text : JsString) : JsString :=
  text.flatMap fun character => (table.lookup character).getD [character]

/-- The replacements of the source run one after the other; the first is of `&`,
so none touches what an earlier one wrote. -/
def xmlText (value : JsString) : JsString :=
  replaceChars [('&', "&amp;"), ('<', "&lt;"), ('>', "&gt;")] value

def xmlEscape (s : JsString) : JsString :=
  replaceChars [('&', "&amp;"), ('<', "&lt;"), ('>', "&gt;"), ('"', "&quot;")] s

def httpDate (d : Date) : JsString := d.toUTCString

def responseXml (href : JsString) (entry : DriveEntry) : JsString :=
  let slashed := if entry.isDir && !href.endsWith ['/'] then href ++ ['/'] else href
  let encoded := xmlEscape (encodeHref slashed)
  let resourcetype : JsString := if entry.isDir then "<d:collection/>" else ""
  let checksums : JsString :=
    match entry.isDir, entry.sha1 with
    | false, some (first :: digest) =>
        ("<oc:checksums><oc:checksum>SHA1:" : JsString) ++ (first :: digest) ++
          ("</oc:checksum></oc:checksums>" : JsString)
    | _, _ => "<oc:checksums/>"
  let contentLength : JsString :=
    if entry.isDir then ""
    else ("<d:getcontentlength>" : JsString) ++ JsString.decimalNat entry.size ++
      ("</d:getcontentlength>" : JsString)
  ("<d:response>\n  <d:href>" : JsString) ++ encoded ++
    ("</d:href>\n  <d:propstat>\n   <d:prop>\n    <d:displayname>" : JsString) ++
    xmlEscape entry.name ++
    ("</d:displayname>\n    <d:getlastmodified>" : JsString) ++ httpDate entry.mtime ++
    ("</d:getlastmodified>\n    " : JsString) ++ contentLength ++
    ("\n    <d:resourcetype>" : JsString) ++ resourcetype ++
    ("</d:resourcetype>\n    " : JsString) ++ checksums ++
    ("\n    <oc:permissions>RDNVW</oc:permissions>\n   </d:prop>\n" : JsString) ++
    ("   <d:status>HTTP/1.1 200 OK</d:status>\n  </d:propstat>\n </d:response>" : JsString)

def multistatus (responses : List JsString) : JsString :=
  ("<?xml version=\"1.0\" encoding=\"utf-8\"?>\n<d:multistatus xmlns:d=\"DAV:\" " : JsString) ++
    ("xmlns:oc=\"http://owncloud.org/ns\" xmlns:nc=\"http://nextcloud.org/ns\">\n " : JsString) ++
    ("\n " : JsString).intercalate responses ++ ("\n</d:multistatus>\n" : JsString)

/-- `-3` stands for a quota that is unknown or unlimited. -/
def quotaMultistatus (href : JsString) (used available : Option Int) : JsString :=
  let avail := available.getD (-3)
  let usedProp : JsString :=
    match used with
    | none => ""
    | some used => ("<d:quota-used-bytes>" : JsString) ++ JsString.decimal used ++
        ("</d:quota-used-bytes>" : JsString)
  ("<?xml version=\"1.0\" encoding=\"utf-8\"?>\n<d:multistatus xmlns:d=\"DAV:\">\n" : JsString) ++
    (" <d:response>\n  <d:href>" : JsString) ++ xmlEscape (encodeHref href) ++
    ("</d:href>\n  <d:propstat>\n   <d:prop>\n    " : JsString) ++ usedProp ++
    ("\n    <d:quota-available-bytes>" : JsString) ++ JsString.decimal avail ++
    ("</d:quota-available-bytes>\n   </d:prop>\n" : JsString) ++
    ("   <d:status>HTTP/1.1 200 OK</d:status>\n" : JsString) ++
    ("  </d:propstat>\n </d:response>\n</d:multistatus>\n" : JsString)

def proppatchMultistatus (href : JsString) (ok : Bool) : JsString :=
  let status : JsString := if ok then "HTTP/1.1 200 OK" else "HTTP/1.1 403 Forbidden"
  ("<?xml version=\"1.0\" encoding=\"utf-8\"?>\n<d:multistatus xmlns:d=\"DAV:\" " : JsString) ++
    ("xmlns:oc=\"http://owncloud.org/ns\">\n <d:response>\n  <d:href>" : JsString) ++
    xmlEscape (encodeHref href) ++
    ("</d:href>\n  <d:propstat>\n   <d:prop><d:lastmodified/></d:prop>\n" : JsString) ++
    ("   <d:status>" : JsString) ++ status ++ ("</d:status>\n" : JsString) ++
    ("  </d:propstat>\n </d:response>\n</d:multistatus>\n" : JsString)

end DriveWebdav
