import DriveWebdav.SdkGateway.Faults
import DriveWebdav.SdkGateway.RangedRead

/-! # What a ranged read delivers

A range is served from a seekable stream, or cut out of a whole-file read. Either
way its consumer is to get the range, the whole range and nothing else. -/

namespace DriveWebdav

/-- The bytes of a content that a range asks for. -/
def ByteRange.slice (range : ByteRange) (content : Bytes) : Bytes :=
  (content.drop range.start).take (wantedBytes range content.length)

theorem ByteRange.length_slice (range : ByteRange) (content : Bytes) :
    (range.slice content).length = wantedBytes range content.length := by
  rw [slice, List.length_take, List.length_drop]
  apply Nat.min_eq_left
  unfold wantedBytes
  split
  · exact Nat.zero_le _
  · omega

/-! ## The seekable stream -/

namespace SeekableRead

/-- Of a range of `wanted` bytes the SDK has handed out `got`: what fits the range
was passed on, but for the chunk that was fetched ahead. -/
structure Serving (wanted : Nat) (got : Bytes) (served : SeekableRead) : Prop where
  ahead : ∀ chunk, served.pending = some chunk →
    chunk = got.take wanted ∧ served.stream.Fed []
  fed : served.pending = none → served.stream.Fed (got.take wanted)
  remaining : served.remaining = wanted - got.length
  finished : served.stream.Finished →
    wanted ≤ got.length ∧ served.pending = none ∧ served.pulling = false
  pulling : served.pulling = true → served.pending = none

variable {wanted : Nat} {got : Bytes} {served : SeekableRead}

private theorem Serving.mapStream {stream : ReadableStream Bytes Thrown} {pulling : Bool}
    (serving : Serving wanted got served)
    (keeps : ∀ bytes, served.stream.Fed bytes → stream.Fed bytes)
    (finished : stream.Finished → served.stream.Finished)
    (idle : pulling = true → served.pulling = true) :
    Serving wanted got { served with stream := stream, pulling := pulling } where
  ahead chunk pending := by
    rcases serving.ahead chunk pending with ⟨first, fed⟩
    exact ⟨first, keeps _ fed⟩
  fed pending := keeps _ (serving.fed pending)
  remaining := serving.remaining
  finished ended := by
    rcases serving.finished (finished ended) with ⟨complete, none, still⟩
    refine ⟨complete, none, ?_⟩
    cases pulling with
    | false => rfl
    | true => exact (idle rfl).symm.trans still
  pulling waits := serving.pulling (idle waits)

/-- A stream that has been fed all so far, and is closed if that is the range. -/
private theorem serving_serve (read : RangedRead) (pending : served.pending = none)
    (idle : served.pulling = false)
    (fed : served.stream.Fed (got.take wanted))
    (remaining : served.remaining = wanted - got.length)
    (unfinished : ¬served.stream.Finished) :
    ∃ next, (read.serve served).phase = .seekable next ∧ Serving wanted got next := by
  unfold RangedRead.serve
  split
  · next none =>
      refine ⟨_, rfl, ?_⟩
      have complete : wanted ≤ got.length := by omega
      constructor
      · intro chunk absurd
        exact nomatch pending.symm.trans absurd
      · exact fun _ => fed.close
      · exact remaining
      · exact fun _ => ⟨complete, pending, idle⟩
      · exact fun waits => nomatch idle.symm.trans waits
  · refine ⟨_, rfl, ?_⟩
    constructor
    · intro chunk absurd
      exact nomatch pending.symm.trans absurd
    · exact fun _ => fed
    · exact remaining
    · exact fun finished => absurd finished unfinished
    · exact fun waits => nomatch idle.symm.trans waits

private theorem Serving.fail (read : RangedRead) (error : Thrown) (serving : Serving wanted got served) :
    ∃ next, (read.failStream error served).phase = .seekable next ∧ Serving wanted got next :=
  ⟨_, rfl, serving.mapStream (fun _ fed => fed.fail error) ReadableStream.finished_of_fail nofun⟩

/-- What the range still wants of a chunk, and what it wants afterwards. -/
private theorem take_append_chunk (chunk : Bytes) (remaining : served.remaining = wanted - got.length) :
    (got ++ chunk).take wanted = got.take wanted ++ chunk.take served.remaining ∧
      served.remaining - (chunk.take served.remaining).length =
        wanted - (got ++ chunk).length := by
  rw [remaining]
  constructor
  · exact List.take_append
  · rw [List.length_take, List.length_append]
    omega

/-- The SDK hands out a chunk. -/
private theorem Serving.feed {platform : Platform} {path : JsString} {value : Option Bytes}
    {done : Bool} (read : RangedRead) (serving : Serving wanted got served)
    (waits : served.pulling = true) :
    ∃ next, (read.feed platform path (.ok (value, done)) served).phase = .seekable next ∧
      Serving wanted (got ++ value.getD []) next := by
  have pending := serving.pulling waits
  have unfinished : ¬served.stream.Finished := by
    intro finished
    exact nomatch waits.symm.trans (serving.finished finished).2.2
  rcases take_append_chunk (value.getD []) serving.remaining with ⟨taken, left⟩
  have fed := serving.fed pending
  simp only [RangedRead.feed]
  generalize value.getD [] = chunk at taken left ⊢
  split
  · next refused =>
      have unreadable : served.stream.status ≠ .readable := by
        split at refused
        · cases refused
        · exact ReadableStream.enqueue_eq_none_iff.mp refused
      refine ⟨_, rfl, ?_⟩
      constructor
      · intro chunk absurd
        exact nomatch pending.symm.trans absurd
      · intro _
        exact fed.lost fun live => live.elim unreadable unfinished
      · exact left
      · exact fun finished => absurd finished unfinished
      · exact nofun
  · next stream accepted =>
      have after : stream.Fed ((got ++ chunk).take wanted) ∧ ¬stream.Finished := by
        split at accepted
        · next empty =>
            cases accepted
            rw [List.isEmpty_iff.mp empty, List.append_nil]
            exact ⟨fed, unfinished⟩
        · rw [taken]
          exact ⟨fed.enqueue accepted, ReadableStream.not_finished_of_readable
            (ReadableStream.status_enqueue accepted)⟩
      split
      · apply Serving.fail
        constructor
        · intro chunk absurd
          exact nomatch pending.symm.trans absurd
        · exact fun _ => after.1
        · exact left
        · exact fun finished => absurd finished after.2
        · exact nofun
      · exact serving_serve read pending rfl after.1 left after.2

private theorem Serving.pull (read : RangedRead) (serving : Serving wanted got served)
    (readable : served.stream.status = .readable) (idle : served.pulling = false) :
    ∃ next, (read.pullSeekable served).phase = .seekable next ∧ Serving wanted got next := by
  have unfinished := ReadableStream.not_finished_of_readable readable
  unfold RangedRead.pullSeekable
  split
  · next pending =>
      refine ⟨_, rfl, ?_⟩
      constructor
      · intro chunk absurd
        exact nomatch pending.symm.trans absurd
      · exact fun _ => serving.fed pending
      · exact serving.remaining
      · exact fun finished => absurd finished unfinished
      · exact fun _ => pending
  · next chunk pending =>
      rcases serving.ahead chunk pending with ⟨rfl, fed⟩
      split
      · next refused => exact absurd readable (ReadableStream.enqueue_eq_none_iff.mp refused)
      · next stream accepted =>
          exact serving_serve read rfl idle (fed.enqueue accepted) serving.remaining
            (ReadableStream.not_finished_of_readable (ReadableStream.status_enqueue accepted))

/-- The first chunk has been fetched. -/
private theorem serving_prefetched (wanted : Nat) (got : Bytes) :
    Serving wanted got ⟨some (got.take wanted), wanted - (got.take wanted).length, false, .empty⟩ where
  ahead chunk pending := by
    cases pending
    exact ⟨rfl, ReadableStream.fed_empty⟩
  fed absurd := nomatch absurd
  remaining := by
    change wanted - (got.take wanted).length = wanted - got.length
    rw [List.length_take]
    omega
  finished absurd := absurd.elim nofun nofun
  pulling absurd := nomatch absurd

end SeekableRead

/-! ## The whole-file read -/

namespace WholeRead

/-- What reaches the stream of a whole-file read is what the SDK writes. -/
def Relays (chunks : List Bytes) (read : WholeRead) : Prop :=
  ∃ sent, read.stream.Conveys sent ∧ sent <+: chunks ∧
    (read.stream.status = .readable → sent = chunks)

variable {platform : Platform} {path : JsString} {rev : Revision} {totalSize : Nat}
  {event : Event} {chunks : List Bytes} {read next : WholeRead}

private theorem relays_start : Relays [] start :=
  ⟨[], ReadableStream.conveys_empty, List.prefix_rfl, fun _ => rfl⟩

/-- What is not written to a stream cannot be missed by it. -/
private theorem Relays.mapStream {stream : ReadableStream Bytes Thrown}
    (relays : Relays chunks read) (same : next.stream = stream)
    (keeps : ∀ sent, read.stream.Conveys sent → stream.Conveys sent)
    (readable : stream.status = .readable → read.stream.status = .readable) :
    Relays chunks next := by
  rcases relays with ⟨sent, conveys, begins, whole⟩
  rw [Relays, same]
  exact ⟨sent, keeps sent conveys, begins, whole ∘ readable⟩

private theorem Relays.readStream (relays : Relays chunks read) :
    Relays chunks { read with stream := read.stream.read } :=
  relays.mapStream rfl (fun _ conveys => conveys.read) ReadableStream.readable_of_read

private theorem Relays.cancel (relays : Relays chunks read) : Relays chunks read.cancel := by
  unfold WholeRead.cancel
  split
  · exact relays
  · exact relays.mapStream rfl (fun _ conveys => conveys.cancel) ReadableStream.readable_of_cancel

private theorem Relays.write {chunk : Bytes} (relays : Relays chunks read) :
    Relays (chunks ++ [chunk]) (read.write chunk) := by
  rcases relays with ⟨sent, conveys, begins, whole⟩
  unfold WholeRead.write
  dsimp only
  split
  · next refused =>
      refine ⟨sent, conveys, begins.trans (List.prefix_append _ _), fun readable => ?_⟩
      exact absurd readable (ReadableStream.enqueue_eq_none_iff.mp refused)
  · next stream accepted =>
      cases whole (ReadableStream.readable_of_enqueue accepted)
      exact ⟨_, (conveys.enqueue accepted).1, List.prefix_rfl, fun _ => rfl⟩

private theorem Relays.step (relays : Relays chunks read)
    (stepped : machine platform path rev totalSize read event = some next) :
    Relays (chunks ++ written [event]) next := by
  cases event with
  | write chunk =>
      simp only [machine, Option.ite_none_left_eq_some] at stepped
      cases stepped.2
      exact relays.write
  | complete outcome =>
      simp only [machine, Option.ite_none_left_eq_some] at stepped
      cases stepped.2
      rw [show written [.complete outcome] = [] from rfl, List.append_nil]
      unfold WholeRead.complete
      split
      · exact relays.mapStream rfl (fun _ conveys => conveys.fail _) ReadableStream.readable_of_fail
      · split
        · exact relays.mapStream rfl (fun _ conveys => conveys.fail _) ReadableStream.readable_of_fail
        · exact relays.mapStream rfl (fun _ conveys => conveys.close) ReadableStream.readable_of_close
  | pull =>
      simp only [machine, Option.ite_none_right_eq_some] at stepped
      cases stepped.2
      rw [show written [.pull] = [] from rfl, List.append_nil]
      exact relays
  | read =>
      simp only [machine, Option.ite_none_right_eq_some] at stepped
      cases stepped.2
      rw [show written [.read] = [] from rfl, List.append_nil]
      exact relays.readStream

private theorem delivered_cancel (read : WholeRead) :
    read.stream.delivered <+: read.cancel.stream.delivered := by
  unfold WholeRead.cancel
  split
  · exact List.prefix_rfl
  · exact (ReadableStream.delivered_cancel _).symm ▸ List.prefix_rfl

/-- No callback takes back what was delivered. -/
private theorem delivered_step
    (stepped : machine platform path rev totalSize read event = some next) :
    read.stream.delivered <+: next.stream.delivered := by
  cases event with
  | write chunk =>
      simp only [machine, Option.ite_none_left_eq_some] at stepped
      cases stepped.2
      unfold WholeRead.write
      dsimp only
      split
      · exact List.prefix_rfl
      · next stream accepted => exact ReadableStream.delivered_enqueue accepted
  | complete outcome =>
      simp only [machine, Option.ite_none_left_eq_some] at stepped
      cases stepped.2
      unfold WholeRead.complete
      split
      · exact (ReadableStream.delivered_fail _ _).symm ▸ List.prefix_rfl
      · split
        · exact (ReadableStream.delivered_fail _ _).symm ▸ List.prefix_rfl
        · exact (ReadableStream.delivered_close _).symm ▸ List.prefix_rfl
  | pull =>
      simp only [machine, Option.ite_none_right_eq_some] at stepped
      cases stepped.2
      exact List.prefix_rfl
  | read =>
      simp only [machine, Option.ite_none_right_eq_some] at stepped
      cases stepped.2
      exact ReadableStream.delivered_read _

end WholeRead

/-! ## The range of a whole-file read -/

namespace SkippingRead

/-- What has been taken of the whole file. -/
def taken (served : SkippingRead) : Bytes :=
  (served.whole.stream.delivered.take served.received).flatten

/-- Of what was taken, all from `start` on that fits the range has been passed on. -/
structure Serving (start wanted : Nat) (served : SkippingRead) : Prop where
  received : served.received ≤ served.whole.stream.delivered.length
  skipped : served.skipped = min start served.taken.length
  remaining : served.remaining = wanted - (served.taken.drop start).length
  fed : served.stream.Fed ((served.taken.drop start).take wanted)
  finished : served.stream.Finished →
    wanted ≤ (served.taken.drop start).length ∧ served.pulling = false

variable {start wanted : Nat} {served : SkippingRead}

private theorem taken_of_grows {next : SkippingRead} (serving : Serving start wanted served)
    (received : next.received = served.received)
    (grows : served.whole.stream.delivered <+: next.whole.stream.delivered) :
    next.taken = served.taken := by
  rcases grows with ⟨later, equal⟩
  rw [taken, taken, ← equal, received, List.take_append_of_le_length serving.received]

/-- The whole-file read goes on, and what was taken of it stays as it is. -/
private theorem Serving.mapWhole {whole : WholeRead} (serving : Serving start wanted served)
    (grows : served.whole.stream.delivered <+: whole.stream.delivered) :
    Serving start wanted { served with whole := whole } := by
  have same : ({ served with whole := whole } : SkippingRead).taken = served.taken :=
    taken_of_grows serving rfl grows
  constructor
  · exact Nat.le_trans serving.received grows.length_le
  · rw [same]
    exact serving.skipped
  · rw [same]
    exact serving.remaining
  · rw [same]
    exact serving.fed
  · rw [same]
    exact serving.finished

private theorem Serving.mapStream {stream : ReadableStream Bytes Thrown} {pulling : Bool}
    (serving : Serving start wanted served)
    (keeps : ∀ bytes, served.stream.Fed bytes → stream.Fed bytes)
    (finished : stream.Finished → served.stream.Finished)
    (idle : pulling = true → served.pulling = true) :
    Serving start wanted { served with stream := stream, pulling := pulling } where
  received := serving.received
  skipped := serving.skipped
  remaining := serving.remaining
  fed := keeps _ serving.fed
  finished ended := by
    rcases serving.finished (finished ended) with ⟨complete, still⟩
    refine ⟨complete, ?_⟩
    cases pulling with
    | false => rfl
    | true => exact (idle rfl).symm.trans still

/-- Nothing more is wanted. -/
private theorem Serving.finish (serving : Serving start wanted served)
    (none : served.remaining = 0) : Serving start wanted served.finish := by
  have complete : wanted ≤ (served.taken.drop start).length := by
    have remaining := serving.remaining
    omega
  have cancelled : Serving start wanted { served with whole := served.whole.cancel } :=
    serving.mapWhole (WholeRead.delivered_cancel served.whole)
  have same : (served.finish).taken = served.taken :=
    taken_of_grows serving rfl (WholeRead.delivered_cancel served.whole)
  constructor
  · exact cancelled.received
  · exact cancelled.skipped
  · exact cancelled.remaining
  · exact cancelled.fed.close
  · rw [same]
    exact fun _ => ⟨complete, rfl⟩

private theorem Serving.pull (serving : Serving start wanted served)
    (unfinished : ¬served.stream.Finished) : Serving start wanted served.pull := by
  unfold SkippingRead.pull
  split
  · next none => exact serving.finish none
  · have reads : Serving start wanted { served with
        whole := { served.whole with stream := served.whole.stream.read } } :=
      serving.mapWhole (ReadableStream.delivered_read served.whole.stream)
    exact ⟨reads.received, reads.skipped, reads.remaining, reads.fed,
      fun finished => absurd finished unfinished⟩

/-- A chunk from the range: what fits is passed on. `before` is what was passed on
of the range so far. -/
private theorem serving_pass {chunk before : Bytes}
    (received : served.received ≤ served.whole.stream.delivered.length)
    (skipped : served.skipped = min start served.taken.length)
    (taken : served.taken.drop start = before ++ chunk)
    (remaining : served.remaining = wanted - before.length)
    (fed : served.stream.Fed (before.take wanted)) (unfinished : ¬served.stream.Finished) :
    Serving start wanted (served.pass chunk) := by
  have slice : (served.taken.drop start).take wanted =
      before.take wanted ++ chunk.take served.remaining := by
    rw [taken, List.take_append, remaining]
  have left : served.remaining - (chunk.take served.remaining).length =
      wanted - (served.taken.drop start).length := by
    rw [taken, List.length_take, List.length_append]
    omega
  unfold SkippingRead.pass
  dsimp only
  split
  · next refused =>
      have unreadable := ReadableStream.enqueue_eq_none_iff.mp refused
      constructor
      · exact received
      · exact skipped
      · exact left
      · exact fed.lost fun live => live.elim unreadable unfinished
      · exact fun finished => absurd finished unfinished
  · next stream accepted =>
      have serving : Serving start wanted { served with
          remaining := served.remaining - (chunk.take served.remaining).length,
          pulling := false, stream := stream } := by
        constructor
        · exact received
        · exact skipped
        · exact left
        · change stream.Fed ((served.taken.drop start).take wanted)
          rw [slice]
          exact fed.enqueue accepted
        · intro finished
          exact absurd finished (ReadableStream.not_finished_of_readable
            (ReadableStream.status_enqueue accepted))
      split
      · next none => exact serving.finish none
      · exact serving

/-- `next` has taken one chunk more than `served`. -/
private structure Takes (served next : SkippingRead) : Prop where
  whole : next.whole = served.whole
  received : next.received = served.received + 1
  remaining : next.remaining = served.remaining
  stream : next.stream = served.stream

section Takes

variable {next : SkippingRead} {value : Bytes}

private theorem Takes.taken (takes : Takes served next)
    (arrived : served.whole.stream.delivered[served.received]? = some value) :
    next.taken = served.taken ++ value := by
  rw [SkippingRead.taken, SkippingRead.taken, takes.whole, takes.received, List.take_add_one,
    arrived]
  simp

/-- What a chunk brings of the range, as long as nothing of it has been taken. -/
private theorem drop_append_of_short {got : Bytes} (short : got.length < start) :
    (got ++ value).drop start = value.drop (min (start - got.length) value.length) := by
  rw [List.drop_append, List.drop_eq_nil_of_le (by omega), List.nil_append]
  by_cases within : start - got.length ≤ value.length
  · rw [Nat.min_eq_left within]
  · rw [List.drop_eq_nil_of_le (by omega), List.drop_eq_nil_of_le (by omega)]

/-- A chunk that lies before the range is skipped. -/
private theorem Serving.skip {rest : Bytes} (serving : Serving start wanted served)
    (takes : Takes served next) (received : next.received ≤ next.whole.stream.delivered.length)
    (skipped : next.skipped = min start next.taken.length)
    (nothing : served.taken.drop start = []) (brings : next.taken.drop start = [] ++ rest)
    (consumed : rest = []) (unfinished : ¬served.stream.Finished) :
    Serving start wanted next := by
  have still : next.taken.drop start = [] := by
    rw [brings, consumed, List.nil_append]
  constructor
  · exact received
  · exact skipped
  · rw [takes.remaining, serving.remaining, nothing, still]
  · rw [takes.stream, still, ← nothing]
    exact serving.fed
  · rw [takes.stream]
    exact fun finished => absurd finished unfinished

end Takes

/-- A chunk of the whole file arrives. -/
private theorem Serving.take {value : Bytes} (serving : Serving start wanted served)
    (arrived : served.whole.stream.delivered[served.received]? = some value)
    (waits : served.pulling = true) : Serving start wanted (served.take start value) := by
  have unfinished : ¬served.stream.Finished := by
    intro finished
    exact nomatch waits.symm.trans (serving.finished finished).2
  have received : served.received + 1 ≤ served.whole.stream.delivered.length :=
    (List.getElem?_eq_some_iff.mp arrived).1
  have skipped := serving.skipped
  unfold SkippingRead.take
  dsimp only
  split
  · next skipping =>
      have short : served.taken.length < start := by omega
      have nothing : served.taken.drop start = [] := List.drop_eq_nil_of_le (by omega)
      have brings : ∀ next : SkippingRead, Takes served next →
          next.taken.drop start =
            [] ++ value.drop (min (start - served.skipped) value.length) := by
        intro next takes
        rw [takes.taken arrived, drop_append_of_short short, skipped, List.nil_append,
          Nat.min_eq_right (Nat.le_of_lt short)]
      have counts : ∀ next : SkippingRead, Takes served next →
          served.skipped + min (start - served.skipped) value.length =
            min start next.taken.length := by
        intro next takes
        rw [takes.taken arrived, List.length_append]
        omega
      split
      · next consumed =>
          apply Serving.pull
          · exact serving.skip ⟨rfl, rfl, rfl, rfl⟩ received (counts _ ⟨rfl, rfl, rfl, rfl⟩) nothing
              (brings _ ⟨rfl, rfl, rfl, rfl⟩) consumed unfinished
          · exact unfinished
      · have remaining : served.remaining = wanted - ([] : Bytes).length := by
          rw [serving.remaining, nothing]
        have fed : served.stream.Fed (([] : Bytes).take wanted) := by
          rw [← nothing]
          exact serving.fed
        exact serving_pass received (counts _ ⟨rfl, rfl, rfl, rfl⟩)
          (brings _ ⟨rfl, rfl, rfl, rfl⟩) remaining fed unfinished
  · next reached =>
      have long : start ≤ served.taken.length := by omega
      have brings : ∀ next : SkippingRead, Takes served next →
          next.taken.drop start = served.taken.drop start ++ value := by
        intro next takes
        rw [takes.taken arrived, List.drop_append_of_le_length long]
      have counts : ∀ next : SkippingRead, Takes served next →
          served.skipped = min start next.taken.length := by
        intro next takes
        rw [takes.taken arrived, List.length_append]
        omega
      exact serving_pass received (counts _ ⟨rfl, rfl, rfl, rfl⟩)
        (brings _ ⟨rfl, rfl, rfl, rfl⟩) serving.remaining serving.fed unfinished

/-- The read that a pull waits for settles. -/
private theorem Serving.receive {path : JsString} {next : SkippingRead}
    (serving : Serving start wanted served) (waits : served.pulling = true)
    (received : served.receive path start = some next) : Serving start wanted next := by
  have failed : ∀ error, Serving start wanted (served.failWith error) := by
    intro error
    exact serving.mapStream (fun _ fed => fed.fail error) ReadableStream.finished_of_fail nofun
  unfold SkippingRead.receive at received
  split at received
  · next value arrived =>
      cases received
      exact serving.take arrived waits
  · split at received
    · cases received
    · cases received
      exact failed _
    · cases received
      exact failed _

private theorem Serving.cancel (serving : Serving start wanted served) :
    Serving start wanted served.cancel := by
  unfold SkippingRead.cancel
  split
  · exact serving
  · have cancelled : Serving start wanted { served with whole := served.whole.cancel } :=
      serving.mapWhole (WholeRead.delivered_cancel served.whole)
    exact cancelled.mapStream (fun _ fed => fed.cancel) ReadableStream.finished_of_cancel id

private theorem serving_start (whole : WholeRead) (start wanted : Nat) :
    Serving start wanted ⟨whole, 0, 0, wanted, false, .empty⟩ where
  received := Nat.zero_le _
  skipped := by simp [taken]
  remaining := by simp [taken]
  fed := by
    simp only [taken, List.take_zero, List.flatten_nil, List.drop_nil, List.take_nil]
    exact ReadableStream.fed_empty
  finished absurd := absurd.elim nofun nofun

/-! What the range does to its whole-file read hides nothing that was written. -/

section Relays

variable {chunks : List Bytes} {next : SkippingRead}

private theorem relays_finish (relays : served.whole.Relays chunks) :
    served.finish.whole.Relays chunks :=
  relays.cancel

private theorem relays_pull (relays : served.whole.Relays chunks) :
    served.pull.whole.Relays chunks := by
  unfold SkippingRead.pull
  split
  · exact relays_finish relays
  · exact relays.readStream

private theorem relays_pass {chunk : Bytes} (relays : served.whole.Relays chunks) :
    (served.pass chunk).whole.Relays chunks := by
  unfold SkippingRead.pass
  dsimp only
  split
  · exact relays
  · split
    · exact relays.cancel
    · exact relays

private theorem relays_receive {path : JsString} (relays : served.whole.Relays chunks)
    (received : served.receive path start = some next) : next.whole.Relays chunks := by
  unfold SkippingRead.receive at received
  split at received
  · cases received
    unfold SkippingRead.take
    dsimp only
    split
    · split
      · apply relays_pull
        exact relays
      · apply relays_pass
        exact relays
    · apply relays_pass
      exact relays
  · split at received
    · cases received
    · cases received
      exact relays
    · cases received
      exact relays

private theorem relays_cancel (relays : served.whole.Relays chunks) :
    served.cancel.whole.Relays chunks := by
  unfold SkippingRead.cancel
  split
  · exact relays
  · exact relays.cancel

end Relays

end SkippingRead

/-! ## Both ways -/

namespace RangedRead

/-- What an answer of the seekable stream hands out. -/
def fetched : Event → Bytes
  | .readSeekable (.ok (value, _)) => value.getD []
  | _ => []

/-- What the SDK has handed out of its seekable stream. -/
def sought (events : List Event) : Bytes := (events.map fetched).flatten

/-- The chunks that the SDK has written to a whole-file download. -/
def downloaded (events : List Event) : List Bytes :=
  events.flatMap fun
    | .download (.write chunk) => [chunk]
    | _ => []

@[simp] theorem sought_concat (events : List Event) (event : Event) :
    sought (events ++ [event]) = sought events ++ fetched event := by
  simp [sought]

@[simp] theorem downloaded_append (events later : List Event) :
    downloaded (events ++ later) = downloaded events ++ downloaded later :=
  List.flatMap_append

theorem downloaded_download (event : WholeRead.Event) :
    downloaded [.download event] = WholeRead.written [event] := by
  cases event <;> rfl

/-! ## What a ranged read is to do -/

/-- In any chunks, the SDK hands out nothing but the content: from the offset it
was told to seek, or from the first byte of a whole-file download. -/
structure Serves (content : Bytes) (range : ByteRange) (events : List Event) : Prop where
  seekable : sought events <+: content.drop range.start
  whole : (downloaded events).flatten <+: content

/-- The consumer was told that there is no more. -/
def EndsCleanly (read : RangedRead) : Prop :=
  match read.phase with
  | .empty => True
  | .seekable served => served.stream.status = .closed
  | .skipping served => served.stream.status = .closed
  | _ => False

def delivered (read : RangedRead) : Bytes :=
  match read.phase with
  | .seekable served => served.stream.delivered.flatten
  | .skipping served => served.stream.delivered.flatten
  | _ => []

/-- The read rejected, or its stream failed. -/
def Failed (read : RangedRead) : Prop :=
  match read.phase with
  | .rejected _ => True
  | .seekable served => ∃ error, served.stream.status = .errored error
  | .skipping served => ∃ error, served.stream.status = .errored error
  | _ => False

def Cancelled (read : RangedRead) : Prop :=
  match read.phase with
  | .seekable served => served.stream.status = .cancelled
  | .skipping served => served.stream.status = .cancelled
  | _ => False

/-- The SDK tells that there is no more, and the range is not complete. -/
def EndsEarly (read : RangedRead) : Event → Prop
  | .readSeekable (.ok (value, done)) =>
      match read.phase with
      | .fetching => value.getD [] = []
      | .seekable served => done = true ∧ (value.getD []).length < served.remaining
      | _ => False
  | .receive =>
      match read.phase with
      | .skipping served => served.whole.stream.delivered.length ≤ served.received
      | _ => False
  | _ => False

/-! ## Runs -/

section

variable {platform : Platform} {path : JsString} {rev : Revision} {range : ByteRange}
  {totalSize : Nat} {event : Event} {events : List Event} {read next final : RangedRead}

/-- How far the range has been served by the events so far. -/
private def Serving (range : ByteRange) (totalSize : Nat) (events : List Event)
    (read : RangedRead) : Prop :=
  match read.phase with
  | .seekable served => served.Serving (wantedBytes range totalSize) (sought events)
  | .reacquiring whole => downloaded events = [] ∧ whole.Relays []
  | .skipping served =>
      served.Serving range.start (wantedBytes range totalSize) ∧
        served.whole.Relays (downloaded events)
  | .empty => wantedBytes range totalSize = 0
  | .rejected _ => True
  | _ => sought events = [] ∧ downloaded events = []

private theorem serving_of_phase {before after : RangedRead} {earlier later : List Event}
    (serving : Serving range totalSize earlier before) (phase : after.phase = before.phase)
    (sought_eq : sought later = sought earlier)
    (downloaded_eq : downloaded later = downloaded earlier) :
    Serving range totalSize later after := by
  unfold Serving at serving ⊢
  rw [phase, sought_eq, downloaded_eq]
  exact serving

private theorem serving_seekable {served : SeekableRead} (phase : next.phase = .seekable served)
    (serving : served.Serving (wantedBytes range totalSize) (sought events)) :
    Serving range totalSize events next := by
  unfold Serving
  rw [phase]
  exact serving

private theorem serving_skipping {served : SkippingRead} (phase : next.phase = .skipping served)
    (serving : served.Serving range.start (wantedBytes range totalSize))
    (relays : served.whole.Relays (downloaded events)) : Serving range totalSize events next := by
  unfold Serving
  rw [phase]
  exact ⟨serving, relays⟩

private theorem serving_rejected {error : Thrown} (phase : next.phase = .rejected error) :
    Serving range totalSize events next := by
  unfold Serving
  rw [phase]
  trivial

private theorem phase_abort (read : RangedRead) : read.abort.phase = read.phase := by
  unfold abort
  split
  · rfl
  · rfl

private theorem Serving.clientAbort (serving : Serving range totalSize events read) :
    Serving range totalSize events read.clientAbort := by
  unfold RangedRead.clientAbort
  cases phase : read.phase with
  | reacquiring whole =>
      unfold Serving at serving
      rw [phase] at serving
      exact serving
  | skipping served =>
      unfold Serving at serving
      rw [phase] at serving
      exact serving_skipping rfl (serving.1.mapWhole List.prefix_rfl) serving.2
  | _ => exact serving_of_phase serving (phase_abort read) rfl rfl

private theorem Serving.getFileDownloader {outcome : Except Thrown Unit}
    (serving : Serving range totalSize events read)
    (stepped : read.getFileDownloader range totalSize outcome = some next) :
    Serving range totalSize events next := by
  unfold Serving at serving
  unfold RangedRead.getFileDownloader at stepped
  split at stepped
  · cases stepped
    trivial
  · next phase =>
      cases stepped
      rw [phase] at serving
      exact serving
  · cases stepped
    trivial
  · next whole _ phase =>
      cases stepped
      rw [phase] at serving
      apply serving_skipping rfl
      · exact SkippingRead.serving_start whole range.start _
      · rw [serving.1]
        exact serving.2
  · cases stepped

private theorem Serving.getSeekableStream {outcome : Except Thrown Unit}
    (serving : Serving range totalSize events read)
    (stepped : read.getSeekableStream range totalSize outcome = some next) :
    Serving range totalSize events next := by
  unfold Serving at serving
  unfold RangedRead.getSeekableStream at stepped
  split at stepped
  · next phase =>
      cases stepped
      rw [phase] at serving
      exact serving
  · next phase =>
      rw [phase] at serving
      dsimp only at stepped
      split at stepped
      · next none =>
          cases stepped
          exact none
      · cases stepped
        exact serving
  · cases stepped

private theorem Serving.forceReleased (serving : Serving range totalSize events read)
    (stepped : read.forceReleased = some next) : Serving range totalSize events next := by
  unfold Serving at serving
  unfold RangedRead.forceReleased at stepped
  split at stepped
  · next phase =>
      cases stepped
      rw [phase] at serving
      refine ⟨serving.2, ?_⟩
      split
      · exact WholeRead.relays_start
      · exact WholeRead.relays_start
  · cases stepped

private theorem Serving.seek {outcome : Except Thrown Unit}
    (serving : Serving range totalSize events read)
    (stepped : read.seek platform outcome = some next) : Serving range totalSize events next := by
  unfold Serving at serving
  unfold RangedRead.seek at stepped
  split at stepped
  · cases stepped
    trivial
  · next phase =>
      cases stepped
      rw [phase] at serving
      exact serving
  · cases stepped

private theorem Serving.readSeekable {outcome : Except Thrown (Option Bytes × Bool)}
    (serving : Serving range totalSize events read)
    (stepped : read.readSeekable platform path range totalSize outcome = some next) :
    Serving range totalSize (events ++ [.readSeekable outcome]) next := by
  unfold Serving at serving
  unfold RangedRead.readSeekable at stepped
  split at stepped
  · next phase =>
      cases stepped
      rw [phase] at serving
      unfold prefetch
      split
      · exact serving_rejected rfl
      · exact serving_rejected rfl
      · exact serving_rejected rfl
      · next value _ _ =>
          apply serving_seekable rfl
          rw [sought_concat, serving.1]
          exact SeekableRead.serving_prefetched _ value
  · next served phase =>
      rw [Option.ite_none_right_eq_some] at stepped
      cases stepped.2
      rw [phase] at serving
      cases outcome with
      | error error =>
          rcases serving.fail read (mapGenericError platform error) with
            ⟨after, reached, kept⟩
          apply serving_seekable reached
          rw [sought_concat]
          exact (List.append_nil (sought events)).symm ▸ kept
      | ok answer =>
          rcases serving.feed read stepped.1 with ⟨after, reached, kept⟩
          apply serving_seekable reached
          rw [sought_concat]
          exact kept
  · cases stepped

private theorem Serving.download {event : WholeRead.Event}
    (serving : Serving range totalSize events read)
    (stepped : read.download platform path rev totalSize event = some next) :
    Serving range totalSize (events ++ [.download event]) next := by
  unfold Serving at serving
  unfold RangedRead.download at stepped
  split at stepped
  · cases stepped
  · next _ served phase _ =>
      rcases Option.map_eq_some_iff.mp stepped with ⟨whole, moved, rfl⟩
      rw [phase] at serving
      apply serving_skipping rfl
      · exact serving.1.mapWhole (WholeRead.delivered_step moved)
      · rw [downloaded_append, downloaded_download]
        exact serving.2.step moved
  · cases stepped

private theorem readable_of_asks {stream : ReadableStream Bytes Thrown} {pulling : Bool}
    (asked : asks stream pulling = true) : stream.status = .readable ∧ pulling = false := by
  simp only [asks, Bool.and_eq_true, Bool.not_eq_true'] at asked
  rcases asked with ⟨pulls, idle⟩
  unfold ReadableStream.pulls at pulls
  split at pulls
  · next readable => exact ⟨readable, idle⟩
  · cases pulls

private theorem Serving.pull (serving : Serving range totalSize events read)
    (stepped : read.pull = some next) : Serving range totalSize events next := by
  unfold Serving at serving
  unfold RangedRead.pull at stepped
  split at stepped
  · next served phase =>
      rw [Option.ite_none_right_eq_some] at stepped
      cases stepped.2
      rw [phase] at serving
      rcases readable_of_asks stepped.1 with ⟨readable, idle⟩
      rcases serving.pull read readable idle with ⟨after, reached, kept⟩
      exact serving_seekable reached kept
  · next served phase =>
      rw [Option.ite_none_right_eq_some, Bool.and_eq_true] at stepped
      rcases stepped with ⟨⟨asked, _⟩, equal⟩
      cases equal
      rw [phase] at serving
      have unfinished :=
        ReadableStream.not_finished_of_readable (readable_of_asks asked).1
      exact serving_skipping rfl (serving.1.pull unfinished) (SkippingRead.relays_pull serving.2)
  · cases stepped

private theorem Serving.receive (serving : Serving range totalSize events read)
    (stepped : read.receive path range = some next) : Serving range totalSize events next := by
  unfold Serving at serving
  unfold RangedRead.receive at stepped
  split at stepped
  · next served phase =>
      rw [Option.ite_none_right_eq_some] at stepped
      rcases stepped with ⟨waits, mapped⟩
      rcases Option.map_eq_some_iff.mp mapped with ⟨after, received, rfl⟩
      rw [phase] at serving
      exact serving_skipping rfl (serving.1.receive waits received)
        (SkippingRead.relays_receive serving.2 received)
  · cases stepped

private theorem Serving.readStream (serving : Serving range totalSize events read)
    (stepped : read.readStream = some next) : Serving range totalSize events next := by
  unfold Serving at serving
  unfold RangedRead.readStream at stepped
  split at stepped
  · next served phase =>
      cases stepped
      rw [phase] at serving
      exact serving_seekable rfl
        (serving.mapStream (fun _ fed => fed.read) ReadableStream.finished_read.mp id)
  · next served phase =>
      rw [Option.ite_none_right_eq_some] at stepped
      cases stepped.2
      rw [phase] at serving
      exact serving_skipping rfl
        (serving.1.mapStream (fun _ fed => fed.read) ReadableStream.finished_read.mp id) serving.2
  · cases stepped

private theorem Serving.cancel (serving : Serving range totalSize events read)
    (stepped : read.cancel = some next) : Serving range totalSize events next := by
  unfold RangedRead.cancel at stepped
  split at stepped
  · next served phase =>
      split at stepped
      · cases stepped
        exact serving
      · cases stepped
        unfold Serving at serving
        rw [phase] at serving
        exact serving_seekable rfl
          (serving.mapStream (fun _ fed => fed.cancel) ReadableStream.finished_of_cancel id)
  · next served phase =>
      rw [Option.ite_none_right_eq_some] at stepped
      cases stepped.2
      unfold Serving at serving
      rw [phase] at serving
      exact serving_skipping rfl serving.1.cancel (SkippingRead.relays_cancel serving.2)
  · cases stepped

/-- An event at which the SDK hands out nothing. -/
private theorem serving_quiet (serving : Serving range totalSize events next)
    (nothing : fetched event = []) (silent : downloaded [event] = []) :
    Serving range totalSize (events ++ [event]) next := by
  apply serving_of_phase serving rfl
  · rw [sought_concat, nothing, List.append_nil]
  · rw [downloaded_append, silent, List.append_nil]

private theorem Serving.step (serving : Serving range totalSize events read)
    (stepped : machine platform path rev range totalSize read event = some next) :
    Serving range totalSize (events ++ [event]) next := by
  cases event with
  | clientAbort =>
      simp only [machine, Option.ite_none_left_eq_some] at stepped
      cases stepped.2
      exact serving_quiet serving.clientAbort rfl rfl
  | getFileDownloader outcome => exact serving_quiet (serving.getFileDownloader stepped) rfl rfl
  | getSeekableStream outcome => exact serving_quiet (serving.getSeekableStream stepped) rfl rfl
  | forceReleased => exact serving_quiet (serving.forceReleased stepped) rfl rfl
  | seek outcome => exact serving_quiet (serving.seek stepped) rfl rfl
  | readSeekable outcome => exact serving.readSeekable stepped
  | download event => exact serving.download stepped
  | pull => exact serving_quiet (serving.pull stepped) rfl rfl
  | receive => exact serving_quiet (serving.receive stepped) rfl rfl
  | read => exact serving_quiet (serving.readStream stepped) rfl rfl
  | cancel => exact serving_quiet (serving.cancel stepped) rfl rfl

private theorem serving_of_play {clientAborted : Bool}
    (ran : (machine platform path rev range totalSize).play (start clientAborted) events =
      some final) : Serving range totalSize events final := by
  have begins : Serving range totalSize [] (start clientAborted) := by
    exact ⟨rfl, rfl⟩
  apply Machine.run_induct (Serving range totalSize) begins _ ran
  intro events reached event next _ serving stepped
  exact serving.step stepped

/-- A prefix that is long enough holds the whole slice. -/
private theorem take_of_begins {got whole : Bytes} {wanted : Nat} (begins : got <+: whole)
    (complete : wanted ≤ got.length) : got.take wanted = whole.take wanted := by
  rcases begins with ⟨rest, rfl⟩
  exact (List.take_append_of_le_length complete).symm

private theorem flatten_begins {chunks whole : List Bytes} (begins : chunks <+: whole) :
    chunks.flatten <+: whole.flatten := by
  rcases begins with ⟨rest, rfl⟩
  exact ⟨rest.flatten, List.flatten_append.symm⟩

private theorem drop_begins {got whole : Bytes} (begins : got <+: whole) (start : Nat) :
    got.drop start <+: whole.drop start := by
  rcases begins with ⟨rest, rfl⟩
  exact ⟨rest.drop (start - got.length), List.drop_append.symm⟩

/-- What was taken of a whole-file read are the first bytes of the content. -/
private theorem taken_begins {served : SkippingRead} {content : Bytes}
    (relays : served.whole.Relays (downloaded events))
    (whole : (downloaded events).flatten <+: content) : served.taken <+: content := by
  rcases relays with ⟨sent, conveys, begins, _⟩
  have delivered := (List.take_prefix served.received _).trans (conveys.begins.trans begins)
  exact (flatten_begins delivered).trans whole

private theorem Serving.delivered_eq {content : Bytes}
    (serving : Serving range content.length events final)
    (serves : Serves content range events) (ends : final.EndsCleanly) :
    final.delivered = range.slice content := by
  unfold Serving at serving
  unfold EndsCleanly at ends
  unfold delivered ByteRange.slice
  cases phase : final.phase with
  | empty =>
      rw [phase] at serving
      change wantedBytes range content.length = 0 at serving
      rw [serving, List.take_zero]
  | seekable served =>
      rw [phase] at serving ends
      rcases serving.finished (.inr ends) with ⟨complete, pending, _⟩
      dsimp only
      rw [(serving.fed pending).delivered ends]
      exact take_of_begins serves.seekable complete
  | skipping served =>
      rw [phase] at serving ends
      rcases serving with ⟨serving, relays⟩
      dsimp only
      rw [serving.fed.delivered ends]
      exact take_of_begins (drop_begins (taken_begins relays serves.whole) range.start)
        (serving.finished (.inr ends)).1
  | _ =>
      rw [phase] at ends
      exact ends.elim

/-! ## A download that ends early -/

private theorem shut_of_unfinished {stream : ReadableStream Bytes Thrown}
    (unfinished : ¬stream.Finished) (unreadable : stream.status ≠ .readable) :
    (∃ error, stream.status = .errored error) ∨ stream.status = .cancelled := by
  cases status : stream.status with
  | readable => exact absurd status unreadable
  | closing => exact absurd (.inl status) unfinished
  | closed => exact absurd (.inr status) unfinished
  | cancelled => exact .inr rfl
  | errored error => exact .inl ⟨error, rfl⟩

private theorem shut_of_fail {stream : ReadableStream Bytes Thrown} (thrown : Thrown)
    (unfinished : ¬stream.Finished) :
    (∃ error, (stream.fail thrown).status = .errored error) ∨
      (stream.fail thrown).status = .cancelled := by
  rcases stream with ⟨queue, status, reading, delivered, ended⟩
  cases status with
  | readable => exact .inl ⟨thrown, rfl⟩
  | closing => exact .inl ⟨thrown, rfl⟩
  | closed => exact absurd (.inr rfl) unfinished
  | cancelled => exact .inr rfl
  | errored error => exact .inl ⟨error, rfl⟩

/-- The SDK says that there is no more while a pull waits. -/
private theorem feed_shut {served : SeekableRead} {wanted : Nat} {got : Bytes}
    {value : Option Bytes} (serving : served.Serving wanted got) (waits : served.pulling = true)
    (short : (value.getD []).length < served.remaining) :
    (read.feed platform path (.ok (value, true)) served).Failed ∨
      (read.feed platform path (.ok (value, true)) served).Cancelled := by
  have unfinished : ¬served.stream.Finished := by
    intro finished
    exact nomatch waits.symm.trans (serving.finished finished).2.2
  have left : served.remaining - ((value.getD []).take served.remaining).length ≠ 0 := by
    rw [List.length_take]
    omega
  simp only [feed]
  split
  · next refused =>
      apply shut_of_unfinished unfinished
      split at refused
      · cases refused
      · exact ReadableStream.enqueue_eq_none_iff.mp refused
  · next stream accepted =>
      have still : ¬stream.Finished := by
        split at accepted
        · cases accepted
          exact unfinished
        · exact ReadableStream.not_finished_of_readable (ReadableStream.status_enqueue accepted)
      have cut := decide_eq_true left
      rw [if_pos ((Bool.and_true _).trans cut)]
      exact shut_of_fail _ still

private theorem Serving.shut (serving : Serving range totalSize events read)
    (early : read.EndsEarly event)
    (stepped : machine platform path rev range totalSize read event = some next) :
    next.Failed ∨ next.Cancelled := by
  unfold Serving at serving
  cases event with
  | readSeekable outcome =>
      cases outcome with
      | error error => exact early.elim
      | ok answer =>
          rcases answer with ⟨value, done⟩
          simp only [machine, RangedRead.readSeekable] at stepped
          unfold EndsEarly at early
          cases phase : read.phase with
          | fetching =>
              rw [phase] at early stepped
              cases stepped
              left
              cases value with
              | none => trivial
              | some bytes =>
                  cases early
                  trivial
          | seekable served =>
              rw [phase] at early stepped serving
              simp only [Option.ite_none_right_eq_some] at stepped
              cases stepped.2
              rcases early with ⟨told, short⟩
              cases told
              exact feed_shut serving stepped.1 short
          | _ =>
              rw [phase] at early
              exact early.elim
  | receive =>
      simp only [machine, RangedRead.receive] at stepped
      unfold EndsEarly at early
      cases phase : read.phase with
      | skipping served =>
          rw [phase] at early stepped serving
          simp only [Option.ite_none_right_eq_some] at stepped
          rcases stepped with ⟨waits, mapped⟩
          rcases Option.map_eq_some_iff.mp mapped with ⟨after, received, rfl⟩
          have unfinished : ¬served.stream.Finished := by
            intro finished
            exact nomatch waits.symm.trans (serving.1.finished finished).2
          unfold SkippingRead.receive at received
          rw [List.getElem?_eq_none early] at received
          dsimp only at received
          split at received
          · cases received
          · cases received
            exact shut_of_fail _ unfinished
          · cases received
            exact shut_of_fail _ unfinished
      | _ =>
          rw [phase] at early
          exact early.elim
  | _ => exact early.elim

end

end RangedRead

/-! ## What is reported -/

/-- How many bytes a stream is to deliver. -/
def ReadStream.length : ReadStream → Nat
  | .empty => 0
  | .whole _ totalSize => totalSize
  | .seekable _ _ wanted _ | .skipping _ _ wanted _ => wanted

section

variable {platform : Platform} {path : JsString} {node : NodeEntity} {rev : Revision}
  {totalSize : Nat} {trace : SdkTrace} {result : ReadResult ReadStream}

theorem readWhole_reports
    (follows : (readWhole platform path node rev totalSize).Follows trace (.ok result)) :
    result = ⟨.whole node totalSize, totalSize, totalSize⟩ := by
  rcases Program.follows_bind follows with ⟨_, equal, _⟩ | ⟨_, _, _, _, _, rest⟩
  · cases equal
  rcases Program.follows_bind rest with ⟨_, equal, _⟩ | ⟨_, _, started, _, _, ended⟩
  · cases equal
  cases started with
  | chunk =>
      cases ended
      rfl
  | complete produced actual =>
      dsimp only at ended
      split at ended
      · cases ended
      · cases ended
        rfl

private theorem readRangeByFullRead_reports {start wanted : Nat}
    (follows : (readRangeByFullRead platform path node rev start wanted totalSize).Follows trace
      (.ok result)) : result = ⟨.skipping node start wanted totalSize, wanted, totalSize⟩ := by
  rcases Program.follows_bind follows with ⟨_, equal, _⟩ | ⟨_, _, _, _, _, ended⟩
  · cases equal
  · cases ended
    rfl

/-- Both ways of serving a range report the same sizes. -/
theorem readRange_reports {range : ByteRange}
    (follows : (readRange platform path node rev range totalSize).Follows trace (.ok result)) :
    result.size = wantedBytes range totalSize ∧ result.totalSize = totalSize ∧
      result.stream.length = wantedBytes range totalSize := by
  rcases Program.follows_bind follows with ⟨_, equal, _⟩ | ⟨_, _, _, _, _, rest⟩
  · cases equal
  rcases Program.follows_bind rest with ⟨_, equal, _⟩ | ⟨_, _, seekable, _, _, rest⟩
  · cases equal
  cases seekable with
  | true =>
      simp only [if_true] at rest
      split at rest
      · next none =>
          cases rest
          exact ⟨none.symm, rfl, none.symm⟩
      · rcases Program.follows_bind rest with ⟨_, equal, _⟩ | ⟨_, _, first, _, _, ended⟩
        · cases equal
        · cases ended
          exact ⟨rfl, rfl, rfl⟩
  | false =>
      simp only [Bool.false_eq_true, if_false] at rest
      rcases Program.follows_bind rest with ⟨_, equal, _⟩ | ⟨_, _, _, _, _, skipped⟩
      · cases equal
      · rw [readRangeByFullRead_reports skipped]
        exact ⟨rfl, rfl, rfl⟩

end

namespace RangedRead

/-- Of a range, all is delivered before the consumer is told that there is no more. -/
theorem delivered_of_endsCleanly {content : Bytes} {platform : Platform} {path : JsString}
    {rev : Revision} {range : ByteRange} {clientAborted : Bool} {events : List Event}
    {final : RangedRead}
    (ran : (machine platform path rev range content.length).play (start clientAborted) events =
      some final)
    (serves : Serves content range events) (ends : final.EndsCleanly) :
    final.delivered = range.slice content :=
  (serving_of_play ran).delivered_eq serves ends

/-- A ranged read, from a seekable stream or out of a whole-file read, ends cleanly
only after it has delivered the range; where the SDK ends early it fails, unless it
was cancelled; and it reports the size of the range and of the file. -/
theorem rangedRead_delivers {content : Bytes} {platform : Platform} {path : JsString}
    {rev : Revision} {range : ByteRange} {clientAborted : Bool} {events : List Event}
    {final : RangedRead}
    (ran : (machine platform path rev range content.length).play (start clientAborted) events =
      some final)
    (serves : Serves content range events) :
    (final.EndsCleanly → final.delivered = range.slice content) ∧
      (∀ event next, machine platform path rev range content.length final event = some next →
        final.EndsEarly event → next.Failed ∨ next.Cancelled) ∧
      ∀ node trace result,
        (readRange platform path node rev range content.length).Follows trace (.ok result) →
        result.size = (range.slice content).length ∧ result.totalSize = content.length := by
  refine ⟨delivered_of_endsCleanly ran serves, ?_, ?_⟩
  · intro event next stepped early
    exact (serving_of_play ran).shut early stepped
  · intro node trace result follows
    rcases readRange_reports follows with ⟨size, total, _⟩
    rw [range.length_slice]
    exact ⟨size, total⟩

def hello : Bytes := [104, 101, 108, 108, 111]

/-- The last chunk runs past the range. -/
def soughtRead : List Event :=
  [.getFileDownloader (.ok ()), .getSeekableStream (.ok ()), .seek (.ok ()),
    .readSeekable (.ok (some [101], false)), .pull, .read, .pull,
    .readSeekable (.ok (some [108, 108, 111], true)), .read]

/-- One chunk ends where the range begins, and one is empty. -/
def cutRead : List Event :=
  [.getFileDownloader (.ok ()), .getSeekableStream (.error (.sdk ⟨.other, "no block sizes"⟩)),
    .forceReleased, .getFileDownloader (.ok ()), .download (.write [104]), .download (.write []),
    .download (.write [101, 108, 108, 111]), .pull, .receive, .receive, .read, .pull, .receive,
    .read]

theorem soughtRead_delivers :
    ∃ sought cut,
      (machine (.plain []) "/a" WholeRead.unhashedRevision ⟨1, 3⟩ 5).play (start false)
        soughtRead = some sought ∧
      (machine (.plain []) "/a" WholeRead.unhashedRevision ⟨1, 3⟩ 5).play (start false)
        cutRead = some cut ∧
      sought.delivered = [101, 108, 108] ∧ cut.delivered = [101, 108, 108] := by
  have soughtRan : (machine (.plain []) "/a" WholeRead.unhashedRevision ⟨1, 3⟩
      hello.length).play (start false) soughtRead = some _ := rfl
  have cutRan : (machine (.plain []) "/a" WholeRead.unhashedRevision ⟨1, 3⟩
      hello.length).play (start false) cutRead = some _ := rfl
  have soughtServes : Serves hello ⟨1, 3⟩ soughtRead := ⟨by decide, by decide⟩
  have cutServes : Serves hello ⟨1, 3⟩ cutRead := ⟨by decide, by decide⟩
  exact ⟨_, _, soughtRan, cutRan, (rangedRead_delivers soughtRan soughtServes).1 rfl,
    (rangedRead_delivers cutRan cutServes).1 rfl⟩

end RangedRead

end DriveWebdav
