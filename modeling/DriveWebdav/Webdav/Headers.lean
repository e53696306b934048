import DriveWebdav.Gateway

/-! # Request headers

The parsers of the WebDAV layer. An absent header is `none`. -/

namespace DriveWebdav

inductive RangeResult
  | range (range : ByteRange)
  | none
  | unsatisfiable
  deriving DecidableEq, Repr

/-- The two digit strings of `bytes=…-…`, when the header has that form. -/
def matchBytesRange (header : JsString) : Option (JsString × JsString) :=
  match header with
  | 'b' :: 'y' :: 't' :: 'e' :: 's' :: '=' :: rest =>
      match rest.dropWhile JsString.isDigit with
      | '-' :: stop =>
          if stop.all JsString.isDigit then
            some (rest.takeWhile JsString.isDigit, stop)
          else Option.none
      | _ => Option.none
  | _ => Option.none

def parseRange (header : Option JsString) (totalSize : Nat) : RangeResult :=
  match truthy header with
  | Option.none => .none
  | some header =>
      match matchBytesRange header.trim with
      | Option.none => .none
      | some (startStr, endStr) =>
          let start : Nat :=
            if startStr = [] && endStr ≠ [] then totalSize - JsString.digitsValue endStr
            else if startStr = [] then 0 else JsString.digitsValue startStr
          let stop : Int :=
            if startStr = [] || endStr = [] then (totalSize : Int) - 1
            else (JsString.digitsValue endStr : Int)
          if totalSize = 0 then .unsatisfiable
          else if totalSize ≤ start || stop < (start : Int) then .unsatisfiable
          else .range ⟨start, (min stop ((totalSize : Int) - 1)).toNat⟩

/-- The value of the first `SHA1:value` token. Splitting at every white space
character gives further empty tokens, which carry no algorithm. -/
def parseOcChecksum (header : Option JsString) : Option JsString :=
  match truthy header with
  | none => none
  | some header =>
      (header.splitOnP JsString.isWhiteSpace).findSome? fun token =>
        match token.splitOn ':' with
        | algo :: value :: _ =>
            if algo ≠ [] && value ≠ [] && JsString.toUpperCase algo = "SHA1" then
              some (JsString.toLowerCase value)
            else none
        | _ => none

/-- `new Date(parseInt(header, 10) * 1000)` of the header `X-OC-Mtime`. -/
def parseOcMtime (header : Option JsString) : Option Date :=
  (truthy header).map fun text =>
    Date.ofMilliseconds (text.parseInt.map fun seconds => seconds * 1000)

/-- The declared size, unless `Content-Length` is absent or not a number. -/
def parseContentLength (header : Option JsString) : Option Int :=
  header.bind JsString.parseInt

example : parseRange (some "bytes=-3") 10 = .range ⟨7, 9⟩ := by decide

example : parseOcChecksum (some "MD5:aa sha1:ABCDEF") = some ("abcdef" : JsString) := by decide

end DriveWebdav
