import DriveWebdav.SdkGateway.WholeRead

/-! # Reading a range

The callbacks of a ranged read and of the stream it returns, in any order in
which they can be called. A download slot is taken where a downloader is
obtained. The SDK gives it back on an abort event that its seekable stream
listens to, or once a download to a stream has settled. -/

namespace DriveWebdav

/-- What serves a range from a seekable stream: the chunk that was fetched ahead,
how many bytes are still wanted, and whether a pull waits for the SDK. -/
structure SeekableRead where
  pending : Option Bytes
  remaining : Nat
  pulling : Bool
  stream : ReadableStream Bytes Thrown

/-- What serves a range from a whole-file read: `received` counts the chunks that
were taken from it, and `pulling` tells whether a pull waits for another. -/
structure SkippingRead where
  whole : WholeRead
  received : Nat
  skipped : Nat
  remaining : Nat
  pulling : Bool
  stream : ReadableStream Bytes Thrown

inductive RangedPhase
  | acquiring
  | acquired
  | releasing
  | seeking
  | fetching
  | empty
  | seekable (served : SeekableRead)
  | reacquiring (whole : WholeRead)
  | skipping (served : SkippingRead)
  | rejected (error : Thrown)

/-- `aborted` is the signal the first downloader was given, `listening` tells
whether the SDK listens to it, and `held` whether that downloader holds its slot. -/
structure RangedRead where
  clientAborted : Bool
  aborted : Bool
  listening : Bool
  held : Bool
  phase : RangedPhase

namespace SkippingRead

/-- Nothing more is wanted of the whole file. -/
def finish (served : SkippingRead) : SkippingRead :=
  { served with
    whole := served.whole.cancel
    pulling := false
    stream := served.stream.close }

/-- The head of the loop in `pull`. -/
def pull (served : SkippingRead) : SkippingRead :=
  if served.remaining = 0 then served.finish
  else
    { served with
      whole := { served.whole with stream := served.whole.stream.read }
      pulling := true }

def failWith (error : Thrown) (served : SkippingRead) : SkippingRead :=
  { served with pulling := false, stream := served.stream.fail error }

/-- Hand on what is wanted of a chunk. -/
def pass (chunk : Bytes) (served : SkippingRead) : SkippingRead :=
  let slice := chunk.take served.remaining
  let passed := { served with remaining := served.remaining - slice.length, pulling := false }
  match served.stream.enqueue slice with
  | none => passed
  | some stream =>
      if passed.remaining = 0 then { passed with stream := stream }.finish
      else { passed with stream := stream }

/-- A chunk of the whole file: up to `start` it is skipped. -/
def take (start : Nat) (value : Bytes) (served : SkippingRead) : SkippingRead :=
  let taken := { served with received := served.received + 1 }
  if served.skipped < start then
    let drop := min (start - served.skipped) value.length
    let moved := { taken with skipped := served.skipped + drop }
    match value.drop drop with
    | [] => moved.pull
    | chunk => moved.pass chunk
  else taken.pass value

def shortRead (path : JsString) : GatewayError :=
  .integrityFailed (path ++ (": short read while serving a range" : JsString))

/-- The read that a pull waits for settles. -/
def receive (path : JsString) (start : Nat) (served : SkippingRead) : Option SkippingRead :=
  match served.whole.stream.delivered[served.received]? with
  | some value => some (served.take start value)
  | none =>
      match served.whole.stream.ended with
      | none => none
      | some (.ok _) => some (served.failWith (.gateway (shortRead path)))
      | some (.error error) => some (served.failWith error)

/-- The consumer cancels the stream it was given. -/
def cancel (served : SkippingRead) : SkippingRead :=
  if served.stream.isOver then served
  else { served with whole := served.whole.cancel, stream := served.stream.cancel }

end SkippingRead

namespace RangedRead

def start (clientAborted : Bool) : RangedRead :=
  ⟨clientAborted, clientAborted, false, false, .acquiring⟩

/-- An abort event fires once. -/
def abort (read : RangedRead) : RangedRead :=
  if read.aborted then read
  else { read with aborted := true, held := read.held && !read.listening }

def reject (error : Thrown) (read : RangedRead) : RangedRead :=
  { read.abort with phase := .rejected error }

/-- The client goes away: both kinds of download are linked to its signal. -/
def clientAbort (read : RangedRead) : RangedRead :=
  let linked := { read.abort with clientAborted := true }
  match read.phase with
  | .reacquiring whole => { linked with phase := .reacquiring whole.release }
  | .skipping served =>
      { linked with phase := .skipping { served with whole := served.whole.release } }
  | _ => linked

section

variable (platform : Platform) (path : JsString) (rev : Revision) (range : ByteRange)
  (totalSize : Nat)

def getFileDownloader (outcome : Except Thrown Unit) (read : RangedRead) : Option RangedRead :=
  match read.phase, outcome with
  | .acquiring, .error error => some { read with phase := .rejected error }
  | .acquiring, .ok _ => some { read with held := true, phase := .acquired }
  | .reacquiring _, .error error => some { read with phase := .rejected error }
  | .reacquiring whole, .ok _ =>
      some { read with
        phase := .skipping ⟨whole, 0, 0, wantedBytes range totalSize, false, .empty⟩ }
  | _, _ => none

/-- Where the SDK cannot seek, nothing listens to the signal. -/
def getSeekableStream (outcome : Except Thrown Unit) (read : RangedRead) : Option RangedRead :=
  match read.phase, outcome with
  | .acquired, .error _ => some { read.abort with phase := .releasing }
  | .acquired, .ok _ =>
      let listening := { read with listening := true }
      if wantedBytes range totalSize = 0 then some { listening.abort with phase := .empty }
      else some { listening with phase := .seeking }
  | _, _ => none

/-- The download that was started for its cleanup settles, and a whole-file read
takes over. -/
def forceReleased (read : RangedRead) : Option RangedRead :=
  match read.phase with
  | .releasing =>
      let whole := if read.clientAborted then WholeRead.start.release else WholeRead.start
      some { read with held := false, phase := .reacquiring whole }
  | _ => none

def seek (outcome : Except Thrown Unit) (read : RangedRead) : Option RangedRead :=
  match read.phase, outcome with
  | .seeking, .error error => some (read.reject (mapGenericError platform error))
  | .seeking, .ok _ => some { read with phase := .fetching }
  | _, _ => none

/-- The first chunk is fetched before the stream is returned. -/
def prefetch (outcome : Except Thrown (Option Bytes × Bool)) (read : RangedRead) : RangedRead :=
  match outcome with
  | .error error => read.reject (mapGenericError platform error)
  | .ok (none, _) | .ok (some [], _) => read.reject (.gateway (noDataAt path range.start))
  | .ok (some value, _) =>
      let wanted := wantedBytes range totalSize
      let first := value.take wanted
      { read with phase := .seekable ⟨some first, wanted - first.length, false, .empty⟩ }

/-- Serve so much; with nothing left to serve the slot is given back and the
stream ends. -/
def serve (served : SeekableRead) (read : RangedRead) : RangedRead :=
  if served.remaining = 0 then
    { read.abort with phase := .seekable { served with stream := served.stream.close } }
  else { read with phase := .seekable served }

def failStream (error : Thrown) (served : SeekableRead) (read : RangedRead) : RangedRead :=
  { read.abort with
    phase := .seekable { served with pulling := false, stream := served.stream.fail error } }

/-- A pull hands out the chunk that was fetched ahead, or asks the SDK. -/
def pullSeekable (served : SeekableRead) (read : RangedRead) : RangedRead :=
  match served.pending with
  | none => { read with phase := .seekable { served with pulling := true } }
  | some chunk =>
      match served.stream.enqueue chunk with
      | none => { read.abort with phase := .seekable { served with pending := none } }
      | some stream => read.serve { served with pending := none, stream := stream }

def shortBy (missing : Nat) : GatewayError :=
  .integrityFailed (path ++ (": short read, " : JsString) ++ JsString.decimalNat missing ++
    (" bytes missing" : JsString))

/-- The SDK answers a pull. A stream that was cancelled meanwhile takes no chunk. -/
def feed (outcome : Except Thrown (Option Bytes × Bool)) (served : SeekableRead)
    (read : RangedRead) : RangedRead :=
  match outcome with
  | .error error => read.failStream (mapGenericError platform error) served
  | .ok (value, done) =>
      let chunk := value.getD []
      let slice := chunk.take served.remaining
      let fed :=
        { served with remaining := served.remaining - slice.length, pulling := false }
      match if chunk.isEmpty then some served.stream else served.stream.enqueue slice with
      | none => { read.abort with phase := .seekable fed }
      | some stream =>
          if fed.remaining ≠ 0 && done then
            read.failStream (.gateway (shortBy path fed.remaining)) { fed with stream := stream }
          else read.serve { fed with stream := stream }

def readSeekable (outcome : Except Thrown (Option Bytes × Bool)) (read : RangedRead) :
    Option RangedRead :=
  match read.phase with
  | .fetching => some (read.prefetch platform path range totalSize outcome)
  | .seekable served =>
      if served.pulling then some (read.feed platform path outcome served) else none
  | _ => none

/-- A callback of the whole-file read. Its stream is read by `pull` alone. -/
def download (event : WholeRead.Event) (read : RangedRead) : Option RangedRead :=
  match read.phase, event with
  | .skipping _, .read => none
  | .skipping served, event =>
      (WholeRead.machine platform path rev totalSize served.whole event).map fun whole =>
        { read with phase := .skipping { served with whole := whole } }
  | _, _ => none

/-- Whether a stream with the default strategy asks its source for a chunk. -/
def asks (stream : ReadableStream Bytes Thrown) (pulling : Bool) : Bool :=
  stream.pulls 1 (fun _ => 1) && !pulling

def pull (read : RangedRead) : Option RangedRead :=
  match read.phase with
  | .seekable served =>
      if asks served.stream served.pulling then some (read.pullSeekable served) else none
  | .skipping served =>
      if asks served.stream served.pulling && served.whole.commit matches some (.ok _) then
        some { read with phase := .skipping served.pull }
      else none
  | _ => none

def receive (read : RangedRead) : Option RangedRead :=
  match read.phase with
  | .skipping served =>
      if served.pulling then
        (served.receive path range.start).map fun served =>
          { read with phase := .skipping served }
      else none
  | _ => none

def readStream (read : RangedRead) : Option RangedRead :=
  match read.phase with
  | .seekable served =>
      some { read with phase := .seekable { served with stream := served.stream.read } }
  | .skipping served =>
      if served.whole.commit matches some (.ok _) then
        some { read with phase := .skipping { served with stream := served.stream.read } }
      else none
  | _ => none

def cancel (read : RangedRead) : Option RangedRead :=
  match read.phase with
  | .seekable served =>
      if served.stream.isOver then some read
      else
        some { read.abort with
          phase := .seekable { served with stream := served.stream.cancel } }
  | .skipping served =>
      if served.whole.commit matches some (.ok _) then
        some { read with phase := .skipping served.cancel }
      else none
  | _ => none

inductive Event
  | clientAbort
  | getFileDownloader (outcome : Except Thrown Unit)
  | getSeekableStream (outcome : Except Thrown Unit)
  | forceReleased
  | seek (outcome : Except Thrown Unit)
  | readSeekable (outcome : Except Thrown (Option Bytes × Bool))
  | download (event : WholeRead.Event)
  | pull
  | receive
  | read
  | cancel

def machine : Machine RangedRead Event
  | read, .clientAbort => if read.clientAborted then none else some read.clientAbort
  | read, .getFileDownloader outcome => read.getFileDownloader range totalSize outcome
  | read, .getSeekableStream outcome => read.getSeekableStream range totalSize outcome
  | read, .forceReleased => read.forceReleased
  | read, .seek outcome => read.seek platform outcome
  | read, .readSeekable outcome => read.readSeekable platform path range totalSize outcome
  | read, .download event => read.download platform path rev totalSize event
  | read, .pull => read.pull
  | read, .receive => read.receive path range
  | read, .read => read.readStream
  | read, .cancel => read.cancel

end

end RangedRead

end DriveWebdav
