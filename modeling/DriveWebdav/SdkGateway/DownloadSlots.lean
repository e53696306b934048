import DriveWebdav.SdkGateway.RangedRead

/-! # The download slots of a ranged read

The SDK has few download slots, so one that is never given back blocks later
downloads. A ranged read that is over is to hold none. -/

namespace DriveWebdav

namespace RangedRead

/-! ## What a read is to do -/

def heldSlots (read : RangedRead) : Nat :=
  (if read.held then 1 else 0) +
    match read.phase with
    | .skipping served => if served.whole.settled then 0 else 1
    | _ => 0

/-- The read rejected, or its stream was drained, errored, cancelled or aborted. -/
def Over (read : RangedRead) : Prop :=
  match read.phase with
  | .rejected _ | .empty => True
  | .seekable served => served.stream.isOver = true ∨ read.clientAborted = true
  | .skipping served =>
      match served.whole.commit with
      | none => False
      | some (.error _) => True
      | some (.ok _) => served.stream.isOver = true ∨ read.clientAborted = true
  | _ => False

/-- The SDK has come to the end of a download, or waits for a write that nobody
wakes. -/
def AtRest (read : RangedRead) : Prop :=
  match read.phase with
  | .skipping served => served.whole.settled = true ∨ served.whole.parked = true
  | _ => True

def FreesSlots (read : RangedRead) : Prop :=
  read.Over → read.AtRest → read.heldSlots = 0

end RangedRead

/-- A chunk that can be written without parking the producer. -/
def WholeRead.HasRoom (read : WholeRead) (chunk : Bytes) : Prop :=
  read.stream.status = .readable → read.stream.reading = false →
    read.stream.weight List.length + chunk.length < DOWNLOAD_HIGH_WATER_MARK

namespace RangedRead

/-- The SDK does not start to listen to a signal that has been aborted, and what
it still writes to a download that was told to stop finds room. -/
def Timely (read : RangedRead) : Event → Prop
  | .getSeekableStream (.ok _) => read.aborted = false
  | .download (.write chunk) => ∀ served, read.phase = .skipping served →
      served.whole.aborted = true → served.whole.HasRoom chunk
  | _ => True

end RangedRead

/-! ## Downloads that are told to stop -/

namespace WholeRead

/-- How a whole-file read keeps its download from being left behind. -/
structure Tended (read : WholeRead) : Prop where
  conveys : ∃ sent, read.stream.Conveys sent
  stopped : read.stream.status ≠ .readable → read.settled = true ∨ read.aborted = true
  awake : read.aborted = true → read.settled = true ∨ read.parked = false
  rejected : ∀ error, read.commit = some (.error error) → read.settled = true

variable {read : WholeRead}

private theorem tended_start : Tended start where
  conveys := ⟨[], ReadableStream.conveys_empty⟩
  stopped absurd := absurd rfl |>.elim
  awake absurd := nomatch absurd
  rejected _ absurd := nomatch absurd

private theorem Tended.release (tended : Tended read) : Tended read.release where
  conveys := tended.conveys
  stopped _ := .inr rfl
  awake _ := .inr rfl
  rejected := tended.rejected

private theorem Tended.cancel (tended : Tended read) : Tended read.cancel := by
  unfold WholeRead.cancel
  split
  · exact tended
  · constructor
    · rcases tended.conveys with ⟨sent, conveys⟩
      exact ⟨sent, conveys.cancel⟩
    · exact fun _ => .inr rfl
    · exact fun _ => .inr rfl
    · exact tended.rejected

/-- A read that is cancelled lets go of its download, unless that is over. -/
private theorem Tended.cancel_stops (tended : Tended read) :
    read.cancel.settled = true ∨ read.cancel.aborted = true := by
  unfold WholeRead.cancel
  split
  · next ended =>
      apply tended.stopped
      intro readable
      rw [ReadableStream.isOver, readable] at ended
      cases ended
  · exact .inr rfl

private theorem Tended.wakeProducer (tended : Tended read) : Tended read.wakeProducer where
  conveys := tended.conveys
  stopped := tended.stopped
  awake _ := .inr rfl
  rejected := tended.rejected

private theorem Tended.readStream (tended : Tended read) :
    Tended { read with stream := read.stream.read } := by
  rcases tended.conveys with ⟨sent, conveys⟩
  constructor
  · exact ⟨sent, conveys.read⟩
  · intro unreadable
    apply tended.stopped
    intro readable
    rcases read.stream.status_read with same | ⟨closing, _⟩
    · exact unreadable (same.trans readable)
    · rw [readable] at closing
      cases closing
  · exact tended.awake
  · exact tended.rejected

private theorem commit_of_commitWith {error : Thrown}
    (rejected : (read.commitWith (.ok ())).commit = some (.error error)) :
    read.commit = some (.error error) := by
  unfold commitWith at rejected
  cases committed : read.commit with
  | none => simp [committed] at rejected
  | some outcome => simpa [committed] using rejected

/-- After a chunk the producer goes on exactly if the chunk found room. -/
theorem isFull_enqueue_iff {chunk : Bytes} {sent : List Bytes}
    {stream : ReadableStream Bytes Thrown} (conveys : read.stream.Conveys sent)
    (enqueued : read.stream.enqueue chunk = some stream) :
    stream.isFull DOWNLOAD_HIGH_WATER_MARK List.length = false ↔ read.HasRoom chunk := by
  unfold ReadableStream.enqueue at enqueued
  split at enqueued
  · next readable =>
      split at enqueued
      · next reading =>
          cases enqueued
          simp only [ReadableStream.isFull, ReadableStream.weight, (conveys.waiting reading).2]
          apply iff_of_true (by decide)
          intro _ unread
          exact nomatch reading.symm.trans unread
      · next unread =>
          cases enqueued
          simp only [ReadableStream.isFull, ReadableStream.weight,
            ReadableStream.foldr_weight_append, decide_eq_false_iff_not, Nat.not_le]
          constructor
          · intro fits _ _
            exact fits
          · intro room
            exact room readable (Bool.eq_false_iff.mpr unread)
  · cases enqueued

private theorem Tended.write {chunk : Bytes} (tended : Tended read)
    (awake : read.parked = false)
    (room : read.aborted = true → read.HasRoom chunk) : Tended (read.write chunk) := by
  rcases tended.conveys with ⟨sent, conveys⟩
  unfold WholeRead.write
  dsimp only
  split
  · constructor
    · exact ⟨sent, conveys⟩
    · exact tended.stopped
    · exact fun _ => .inr awake
    · exact tended.rejected
  · next stream enqueued =>
      constructor
      · exact ⟨sent ++ [chunk], (conveys.enqueue enqueued).1⟩
      · exact fun unreadable => absurd (conveys.enqueue enqueued).2 unreadable
      · exact fun aborted => .inr ((isFull_enqueue_iff conveys enqueued).mpr (room aborted))
      · exact fun error rejected => tended.rejected error (commit_of_commitWith rejected)

private theorem Tended.complete {platform : Platform} {path : JsString} {rev : Revision}
    {totalSize : Nat} {outcome : Except Thrown Unit} (tended : Tended read) :
    Tended (read.complete platform path rev totalSize outcome) := by
  rcases tended.conveys with ⟨sent, conveys⟩
  have settled : (read.complete platform path rev totalSize outcome).settled = true :=
    settled_complete outcome read
  constructor
  · unfold WholeRead.complete
    split
    · exact ⟨sent, conveys.fail _⟩
    · split
      · exact ⟨sent, conveys.fail _⟩
      · exact ⟨sent, conveys.close⟩
  · exact fun _ => .inl settled
  · exact fun _ => .inl settled
  · exact fun _ _ => settled

private theorem Tended.step {platform : Platform} {path : JsString} {rev : Revision}
    {totalSize : Nat} {event : Event} {next : WholeRead} (tended : Tended read)
    (room : ∀ chunk, event = .write chunk → read.aborted = true → read.HasRoom chunk)
    (stepped : machine platform path rev totalSize read event = some next) : Tended next := by
  cases event with
  | write chunk =>
      simp only [machine, Option.ite_none_left_eq_some, Bool.or_eq_true, not_or,
        Bool.not_eq_true] at stepped
      rcases stepped with ⟨⟨_, awake⟩, equal⟩
      cases equal
      exact tended.write awake (room chunk rfl)
  | complete outcome =>
      simp only [machine, Option.ite_none_left_eq_some] at stepped
      cases stepped.2
      exact tended.complete
  | pull =>
      simp only [machine, Option.ite_none_right_eq_some] at stepped
      cases stepped.2
      exact tended.wakeProducer
  | read =>
      simp only [machine, Option.ite_none_right_eq_some] at stepped
      cases stepped.2
      exact tended.readStream

private theorem aborted_write (chunk : Bytes) (read : WholeRead) :
    (read.write chunk).aborted = read.aborted ∧ (read.write chunk).settled = read.settled := by
  unfold WholeRead.write
  dsimp only
  split
  · exact ⟨rfl, rfl⟩
  · exact ⟨rfl, rfl⟩

private theorem aborted_complete {platform : Platform} {path : JsString} {rev : Revision}
    {totalSize : Nat} (outcome : Except Thrown Unit) (read : WholeRead) :
    (read.complete platform path rev totalSize outcome).aborted = read.aborted := by
  unfold WholeRead.complete
  split
  · rfl
  · split
    · rfl
    · rfl

/-- The callbacks of a read take back neither its end nor its abort. -/
private theorem stopped_step {platform : Platform} {path : JsString} {rev : Revision}
    {totalSize : Nat} {event : Event} {next : WholeRead}
    (stepped : machine platform path rev totalSize read event = some next) :
    next.aborted = read.aborted ∧ (read.settled = true → next.settled = true) := by
  cases event with
  | write chunk =>
      simp only [machine, Option.ite_none_left_eq_some] at stepped
      cases stepped.2
      rcases aborted_write chunk read with ⟨aborted, settled⟩
      exact ⟨aborted, settled.trans⟩
  | complete outcome =>
      simp only [machine, Option.ite_none_left_eq_some] at stepped
      cases stepped.2
      exact ⟨aborted_complete outcome read, fun _ => settled_complete outcome read⟩
  | pull =>
      simp only [machine, Option.ite_none_right_eq_some] at stepped
      cases stepped.2
      exact ⟨rfl, id⟩
  | read =>
      simp only [machine, Option.ite_none_right_eq_some] at stepped
      cases stepped.2
      exact ⟨rfl, id⟩

end WholeRead

/-! ## Both kinds of download -/

namespace SkippingRead

/-- How a range that is cut out of a whole-file read keeps its download. -/
structure Tended (served : SkippingRead) : Prop where
  whole : served.whole.Tended
  stopped : served.stream.status ≠ .readable →
    served.whole.settled = true ∨ served.whole.aborted = true

variable {served : SkippingRead}

/-- What serves the range next has not forgotten that its download was told to
stop. -/
private def Continues (served next : SkippingRead) : Prop :=
  next.Tended ∧ (served.whole.aborted = true → next.whole.aborted = true)

private theorem aborted_cancel {whole : WholeRead} (aborted : whole.aborted = true) :
    whole.cancel.aborted = true := by
  unfold WholeRead.cancel
  split
  · exact aborted
  · rfl

private theorem Tended.cancelling (tended : served.Tended)
    (stream : ReadableStream Bytes Thrown) (pulling : Bool) :
    Continues served { served with
      whole := served.whole.cancel, pulling := pulling, stream := stream } := by
  constructor
  · exact ⟨tended.whole.cancel, fun _ => tended.whole.cancel_stops⟩
  · exact aborted_cancel

private theorem Tended.finish (tended : served.Tended) : Continues served served.finish :=
  tended.cancelling served.stream.close false

private theorem Tended.cancel (tended : served.Tended) : Continues served served.cancel := by
  unfold SkippingRead.cancel
  split
  · exact ⟨tended, id⟩
  · exact tended.cancelling served.stream.cancel served.pulling

private theorem Tended.pull (tended : served.Tended) : Continues served served.pull := by
  unfold SkippingRead.pull
  split
  · exact tended.finish
  · exact ⟨⟨tended.whole.readStream, tended.stopped⟩, id⟩

private theorem Tended.pass {chunk : Bytes} (tended : served.Tended) :
    Continues served (served.pass chunk) := by
  unfold SkippingRead.pass
  dsimp only
  split
  · exact ⟨⟨tended.whole, tended.stopped⟩, id⟩
  · next stream enqueued =>
      have opened : ∀ {next : SkippingRead}, next.whole = served.whole → next.stream = stream →
          next.Tended := by
        intro next whole same
        constructor
        · rw [whole]
          exact tended.whole
        · intro unreadable
          rw [same] at unreadable
          exact absurd (ReadableStream.status_enqueue enqueued) unreadable
      split
      · exact Tended.finish (opened rfl rfl)
      · exact ⟨opened rfl rfl, id⟩

private theorem Tended.take {start : Nat} {value : Bytes} (tended : served.Tended) :
    Continues served (served.take start value) := by
  unfold SkippingRead.take
  dsimp only
  split
  · split
    · exact Tended.pull ⟨tended.whole, tended.stopped⟩
    · exact Tended.pass ⟨tended.whole, tended.stopped⟩
  · exact Tended.pass ⟨tended.whole, tended.stopped⟩

/-- A reader that was told of the end of the whole file has no download left. -/
private theorem Tended.stopped_of_ended {outcome : Except Thrown Unit} (tended : served.Tended)
    (ended : served.whole.stream.ended = some outcome) :
    served.whole.settled = true ∨ served.whole.aborted = true := by
  apply tended.whole.stopped
  rcases tended.whole.conveys with ⟨sent, conveys⟩
  intro readable
  cases outcome with
  | ok done =>
      rcases conveys.cleanly ended with status | status <;>
        exact nomatch readable.symm.trans status
  | error error => exact nomatch readable.symm.trans (conveys.failed error ended)

private theorem Tended.receive {path : JsString} {start : Nat} {next : SkippingRead}
    (tended : served.Tended) (received : served.receive path start = some next) :
    Continues served next := by
  unfold SkippingRead.receive at received
  split at received
  · cases received
    exact tended.take
  · split at received
    · cases received
    · next ended =>
        cases received
        exact ⟨⟨tended.whole, fun _ => tended.stopped_of_ended ended⟩, id⟩
    · next ended =>
        cases received
        exact ⟨⟨tended.whole, fun _ => tended.stopped_of_ended ended⟩, id⟩

private theorem Tended.readStream (tended : served.Tended) :
    Continues served { served with stream := served.stream.read } := by
  constructor
  · constructor
    · exact tended.whole
    · intro unreadable
      apply tended.stopped
      intro readable
      rcases served.stream.status_read with same | ⟨closing, _⟩
      · exact unreadable (same.trans readable)
      · exact nomatch readable.symm.trans closing
  · exact id

private theorem Tended.download {platform : Platform} {path : JsString} {rev : Revision}
    {totalSize : Nat} {event : WholeRead.Event} {whole : WholeRead} (tended : served.Tended)
    (room : ∀ chunk, event = .write chunk → served.whole.aborted = true →
      served.whole.HasRoom chunk)
    (stepped : WholeRead.machine platform path rev totalSize served.whole event = some whole) :
    Continues served { served with whole := whole } := by
  rcases WholeRead.stopped_step stepped with ⟨aborted, settled⟩
  constructor
  · constructor
    · exact tended.whole.step room stepped
    · exact fun unreadable => (tended.stopped unreadable).imp settled aborted.trans
  · exact aborted.trans

end SkippingRead

namespace RangedRead

/-- A slot that is held is given back on the next abort event. -/
def Responsive (read : RangedRead) : Prop :=
  read.held = true → read.aborted = false ∧ read.listening = true

def Tidy (read : RangedRead) : Prop :=
  (read.clientAborted = true → read.aborted = true) ∧
    match read.phase with
    | .acquiring | .empty | .rejected _ => read.held = false
    | .acquired | .releasing => True
    | .seeking | .fetching => read.Responsive
    | .seekable served =>
        read.Responsive ∧ (served.stream.status ≠ .readable → read.aborted = true)
    | .reacquiring whole =>
        read.held = false ∧ whole.Tended ∧
          (read.clientAborted = true → whole.aborted = true)
    | .skipping served =>
        read.held = false ∧ served.Tended ∧
          (read.clientAborted = true → served.whole.aborted = true)

variable {read next : RangedRead}

@[simp] private theorem aborted_abort (read : RangedRead) : read.abort.aborted = true := by
  unfold abort
  split
  · next aborted => exact aborted
  · rfl

@[simp] private theorem clientAborted_abort (read : RangedRead) :
    read.abort.clientAborted = read.clientAborted := by
  unfold abort
  split
  · rfl
  · rfl

@[simp] private theorem abort_phase (read : RangedRead) : read.abort.phase = read.phase := by
  unfold abort
  split
  · rfl
  · rfl

private theorem Responsive.held_abort (responsive : read.Responsive) :
    read.abort.held = false := by
  unfold abort
  split
  · next aborted =>
      rw [← Bool.not_eq_true]
      intro held
      exact nomatch aborted.symm.trans (responsive held).1
  · cases held : read.held with
    | false => rfl
    | true => simp [(responsive held).2]

private theorem held_abort_of_free (free : read.held = false) : read.abort.held = false := by
  unfold abort
  split
  · exact free
  · simp [free]

/-- After an abort there is nothing left that would answer to it. -/
private theorem responsive_of_free (free : next.held = false) : next.Responsive := by
  intro held
  rw [free] at held
  cases held

private theorem tidy_start (clientAborted : Bool) : (start clientAborted).Tidy :=
  ⟨id, rfl⟩

private theorem Tidy.clientAbort (tidy : read.Tidy) : read.clientAbort.Tidy := by
  rcases tidy with ⟨_, kept⟩
  unfold RangedRead.clientAbort
  cases phase : read.phase with
  | acquiring | empty | rejected =>
      rw [phase] at kept
      exact ⟨fun _ => aborted_abort read, by
        simpa only [abort_phase, phase] using held_abort_of_free kept⟩
  | acquired | releasing =>
      exact ⟨fun _ => aborted_abort read, by simp only [abort_phase, phase]⟩
  | seeking | fetching =>
      rw [phase] at kept
      have free := kept.held_abort
      exact ⟨fun _ => aborted_abort read, by
        simp only [abort_phase, phase]
        exact responsive_of_free free⟩
  | seekable served =>
      rw [phase] at kept
      have free := responsive_of_free kept.1.held_abort
      exact ⟨fun _ => aborted_abort read, by
        simpa only [abort_phase, phase] using ⟨free, fun _ => aborted_abort read⟩⟩
  | reacquiring whole =>
      rw [phase] at kept
      exact ⟨fun _ => aborted_abort read, held_abort_of_free kept.1, kept.2.1.release,
        fun _ => rfl⟩
  | skipping served =>
      rw [phase] at kept
      exact ⟨fun _ => aborted_abort read, held_abort_of_free kept.1,
        ⟨kept.2.1.whole.release, fun _ => .inr rfl⟩, fun _ => rfl⟩

private theorem Tidy.getFileDownloader {range : ByteRange} {totalSize : Nat}
    {outcome : Except Thrown Unit} (tidy : read.Tidy)
    (stepped : read.getFileDownloader range totalSize outcome = some next) : next.Tidy := by
  rcases tidy with ⟨linked, kept⟩
  unfold RangedRead.getFileDownloader at stepped
  split at stepped
  · next phase =>
      cases stepped
      rw [phase] at kept
      exact ⟨linked, kept⟩
  · cases stepped
    exact ⟨linked, trivial⟩
  · next phase =>
      cases stepped
      rw [phase] at kept
      exact ⟨linked, kept.1⟩
  · next phase =>
      cases stepped
      rw [phase] at kept
      exact ⟨linked, kept.1, ⟨kept.2.1, fun absurd => absurd rfl |>.elim⟩, kept.2.2⟩
  · cases stepped

private theorem Tidy.getSeekableStream {range : ByteRange} {totalSize : Nat}
    {outcome : Except Thrown Unit} (tidy : read.Tidy)
    (timely : read.Timely (.getSeekableStream outcome))
    (stepped : read.getSeekableStream range totalSize outcome = some next) : next.Tidy := by
  rcases tidy with ⟨linked, kept⟩
  unfold RangedRead.getSeekableStream at stepped
  split at stepped
  · cases stepped
    exact ⟨fun _ => aborted_abort read, trivial⟩
  · have heard : ({ read with listening := true } : RangedRead).Responsive :=
      fun _ => ⟨timely, rfl⟩
    dsimp only at stepped
    split at stepped
    · cases stepped
      exact ⟨fun _ => aborted_abort _, heard.held_abort⟩
    · cases stepped
      exact ⟨linked, heard⟩
  · cases stepped

private theorem Tidy.forceReleased (tidy : read.Tidy)
    (stepped : read.forceReleased = some next) : next.Tidy := by
  rcases tidy with ⟨linked, _⟩
  unfold RangedRead.forceReleased at stepped
  split at stepped
  · cases stepped
    refine ⟨linked, rfl, ?_, ?_⟩
    · split
      · exact WholeRead.tended_start.release
      · exact WholeRead.tended_start
    · intro aborted
      dsimp only at aborted
      rw [if_pos aborted]
      rfl
  · cases stepped

private theorem Responsive.reject (responsive : read.Responsive) (error : Thrown) :
    (read.reject error).Tidy :=
  ⟨fun _ => aborted_abort read, responsive.held_abort⟩

private theorem Tidy.seek {platform : Platform} {outcome : Except Thrown Unit}
    (tidy : read.Tidy) (stepped : read.seek platform outcome = some next) : next.Tidy := by
  rcases tidy with ⟨linked, kept⟩
  unfold RangedRead.seek at stepped
  split at stepped
  · next phase =>
      cases stepped
      rw [phase] at kept
      exact kept.reject _
  · next phase =>
      cases stepped
      rw [phase] at kept
      exact ⟨linked, kept⟩
  · cases stepped

private theorem tidy_prefetch {platform : Platform} {path : JsString} {range : ByteRange}
    {totalSize : Nat} {outcome : Except Thrown (Option Bytes × Bool)}
    (linked : read.clientAborted = true → read.aborted = true) (responsive : read.Responsive) :
    (read.prefetch platform path range totalSize outcome).Tidy := by
  unfold RangedRead.prefetch
  split
  · exact responsive.reject _
  · exact responsive.reject _
  · exact responsive.reject _
  · exact ⟨linked, responsive, fun absurd => absurd rfl |>.elim⟩

/-- A seekable stream that has ended leaves no slot behind. -/
private theorem Responsive.stop (responsive : read.Responsive) (served : SeekableRead) :
    ({ read.abort with phase := .seekable served } : RangedRead).Tidy :=
  ⟨fun _ => aborted_abort read, responsive_of_free responsive.held_abort,
    fun _ => aborted_abort read⟩

private theorem Responsive.serve {served : SeekableRead} (responsive : read.Responsive)
    (linked : read.clientAborted = true → read.aborted = true)
    (stopped : served.stream.status ≠ .readable → read.aborted = true) :
    (read.serve served).Tidy := by
  unfold RangedRead.serve
  split
  · exact responsive.stop _
  · exact ⟨linked, responsive, stopped⟩

private theorem tidy_feed {platform : Platform} {path : JsString} {served : SeekableRead}
    {outcome : Except Thrown (Option Bytes × Bool)}
    (linked : read.clientAborted = true → read.aborted = true) (responsive : read.Responsive)
    (stopped : served.stream.status ≠ .readable → read.aborted = true) :
    (read.feed platform path outcome served).Tidy := by
  unfold RangedRead.feed
  split
  · exact responsive.stop _
  · dsimp only
    split
    · exact responsive.stop _
    · next stream taken =>
        have readable_or : stream.status ≠ .readable → read.aborted = true := by
          intro unreadable
          split at taken
          · cases taken
            exact stopped unreadable
          · exact absurd (ReadableStream.status_enqueue taken) unreadable
        split
        · exact responsive.stop _
        · exact responsive.serve linked readable_or

private theorem Tidy.readSeekable {platform : Platform} {path : JsString} {range : ByteRange}
    {totalSize : Nat} {outcome : Except Thrown (Option Bytes × Bool)} (tidy : read.Tidy)
    (stepped : read.readSeekable platform path range totalSize outcome = some next) :
    next.Tidy := by
  rcases tidy with ⟨linked, kept⟩
  unfold RangedRead.readSeekable at stepped
  split at stepped
  · next phase =>
      cases stepped
      rw [phase] at kept
      exact tidy_prefetch linked kept
  · next phase =>
      rw [Option.ite_none_right_eq_some] at stepped
      cases stepped.2
      rw [phase] at kept
      exact tidy_feed linked kept.1 kept.2
  · cases stepped

/-- What serves the range from a whole-file read goes on. -/
private theorem tidy_continue {served after : SkippingRead} (tidy : read.Tidy)
    (phase : read.phase = .skipping served) (continues : served.Tended → served.Continues after) :
    ({ read with phase := .skipping after } : RangedRead).Tidy := by
  rcases tidy with ⟨linked, kept⟩
  rw [phase] at kept
  rcases continues kept.2.1 with ⟨tended, aborted⟩
  exact ⟨linked, kept.1, tended, aborted ∘ kept.2.2⟩

private theorem Tidy.download {platform : Platform} {path : JsString} {rev : Revision}
    {totalSize : Nat} {event : WholeRead.Event} (tidy : read.Tidy)
    (timely : read.Timely (.download event))
    (stepped : read.download platform path rev totalSize event = some next) : next.Tidy := by
  unfold RangedRead.download at stepped
  split at stepped
  · cases stepped
  · next served _ phase _ =>
      rcases Option.map_eq_some_iff.mp stepped with ⟨whole, moved, rfl⟩
      apply tidy_continue tidy phase
      intro tended
      apply tended.download _ moved
      intro chunk equal
      subst equal
      exact timely _ phase
  · cases stepped

private theorem Tidy.pull (tidy : read.Tidy) (stepped : read.pull = some next) : next.Tidy := by
  unfold RangedRead.pull at stepped
  split at stepped
  · next served phase =>
      rw [Option.ite_none_right_eq_some] at stepped
      cases stepped.2
      rcases tidy with ⟨linked, kept⟩
      rw [phase] at kept
      unfold RangedRead.pullSeekable
      split
      · exact ⟨linked, kept⟩
      · split
        · exact kept.1.stop _
        · next stream enqueued =>
            apply kept.1.serve linked
            exact fun unreadable => absurd (ReadableStream.status_enqueue enqueued) unreadable
  · next served phase =>
      rw [Option.ite_none_right_eq_some] at stepped
      cases stepped.2
      exact tidy_continue tidy phase SkippingRead.Tended.pull
  · cases stepped

private theorem Tidy.receive {path : JsString} {range : ByteRange} (tidy : read.Tidy)
    (stepped : read.receive path range = some next) : next.Tidy := by
  unfold RangedRead.receive at stepped
  split at stepped
  · next served phase =>
      rw [Option.ite_none_right_eq_some] at stepped
      rcases Option.map_eq_some_iff.mp stepped.2 with ⟨after, received, rfl⟩
      exact tidy_continue tidy phase fun tended => tended.receive received
  · cases stepped

private theorem Tidy.readStream (tidy : read.Tidy) (stepped : read.readStream = some next) :
    next.Tidy := by
  unfold RangedRead.readStream at stepped
  split at stepped
  · next served phase =>
      cases stepped
      rcases tidy with ⟨linked, kept⟩
      rw [phase] at kept
      refine ⟨linked, kept.1, ?_⟩
      intro unreadable
      apply kept.2
      intro readable
      rcases served.stream.status_read with same | ⟨closing, _⟩
      · exact unreadable (same.trans readable)
      · exact nomatch readable.symm.trans closing
  · next served phase =>
      rw [Option.ite_none_right_eq_some] at stepped
      cases stepped.2
      exact tidy_continue tidy phase SkippingRead.Tended.readStream
  · cases stepped

private theorem Tidy.cancel (tidy : read.Tidy) (stepped : read.cancel = some next) :
    next.Tidy := by
  unfold RangedRead.cancel at stepped
  split at stepped
  · next served phase =>
      split at stepped
      · cases stepped
        exact tidy
      · cases stepped
        rcases tidy with ⟨linked, kept⟩
        rw [phase] at kept
        exact kept.1.stop _
  · next served phase =>
      rw [Option.ite_none_right_eq_some] at stepped
      cases stepped.2
      exact tidy_continue tidy phase SkippingRead.Tended.cancel
  · cases stepped

private theorem Tidy.step {platform : Platform} {path : JsString} {rev : Revision}
    {range : ByteRange} {totalSize : Nat} {event : Event} (tidy : read.Tidy)
    (timely : read.Timely event)
    (stepped : machine platform path rev range totalSize read event = some next) :
    next.Tidy := by
  cases event with
  | clientAbort =>
      simp only [machine, Option.ite_none_left_eq_some] at stepped
      cases stepped.2
      exact tidy.clientAbort
  | getFileDownloader outcome => exact tidy.getFileDownloader stepped
  | getSeekableStream outcome => exact tidy.getSeekableStream timely stepped
  | forceReleased => exact tidy.forceReleased stepped
  | seek outcome => exact tidy.seek stepped
  | readSeekable outcome => exact tidy.readSeekable stepped
  | download event => exact tidy.download timely stepped
  | pull => exact tidy.pull stepped
  | receive => exact tidy.receive stepped
  | read => exact tidy.readStream stepped
  | cancel => exact tidy.cancel stepped

/-! ## Slots -/

/-- A responsive read holds no slot once it was aborted. -/
private theorem Responsive.free_of_aborted (responsive : read.Responsive)
    (aborted : read.aborted = true) : read.held = false := by
  rw [← Bool.not_eq_true]
  intro held
  exact nomatch aborted.symm.trans (responsive held).1

/-- A whole-file read that is over has no download, or one that nothing holds up. -/
private theorem settled_of_over {served : SkippingRead} (phase : read.phase = .skipping served)
    (tended : served.Tended)
    (followed : read.clientAborted = true → served.whole.aborted = true) (finished : read.Over)
    (atRest : read.AtRest) : served.whole.settled = true := by
  have stopped : served.whole.settled = true ∨ served.whole.aborted = true := by
    rw [Over, phase] at finished
    cases commit : served.whole.commit with
    | none => simp [commit] at finished
    | some answer =>
        cases answer with
        | error _ => exact .inl (tended.whole.rejected _ commit)
        | ok _ =>
            simp only [commit] at finished
            rcases finished with ended | gone
            · apply tended.stopped
              intro readable
              rw [ReadableStream.isOver, readable] at ended
              cases ended
            · exact .inr (followed gone)
  simp only [AtRest, phase] at atRest
  rcases atRest with settled | parked
  · exact settled
  · rcases stopped with settled | aborted
    · exact settled
    · rcases tended.whole.awake aborted with settled | awake
      · exact settled
      · cases parked.symm.trans awake

private theorem Tidy.freesSlots (tidy : read.Tidy) : read.FreesSlots := by
  rcases tidy with ⟨linked, kept⟩
  intro finished atRest
  unfold heldSlots
  cases phase : read.phase with
  | rejected | empty =>
      rw [phase] at kept
      simp [kept]
  | seekable served =>
      rw [phase] at kept
      have aborted : read.aborted = true := by
        simp only [Over, phase] at finished
        rcases finished with ended | gone
        · apply kept.2
          intro readable
          rw [ReadableStream.isOver, readable] at ended
          cases ended
        · exact linked gone
      simp [kept.1.free_of_aborted aborted]
  | skipping served =>
      rw [phase] at kept
      rcases kept with ⟨free, tended, followed⟩
      simp [free, settled_of_over phase tended followed finished atRest]
  | _ => simp [Over, phase] at finished

/-- A ranged read that is over holds no slot, in every run in which the SDK starts
to listen in time and finds room for what it still writes. -/
theorem freesSlots_of_timely {platform : Platform} {path : JsString} {rev : Revision}
    {range : ByteRange} {totalSize : Nat} {clientAborted : Bool} {events : List Event}
    {final : RangedRead}
    (ran : (machine platform path rev range totalSize).play (start clientAborted) events =
      some final)
    (timely : (machine platform path rev range totalSize).Obeys Timely (start clientAborted)
      events) : final.FreesSlots := by
  apply Tidy.freesSlots
  apply Machine.invariant_of_obeys Tidy (tidy_start clientAborted) _ ran timely
  intro reached event next tidy allowed stepped
  exact tidy.step allowed stepped

/-- The SDK cannot seek; the range is cut out of a whole-file read, which is
cancelled once the range is complete. -/
def skippedRead : List Event :=
  [.getFileDownloader (.ok ()), .getSeekableStream (.error (.sdk ⟨.other, "no block sizes"⟩)),
    .forceReleased, .getFileDownloader (.ok ()), .download (.write [104, 101, 108, 108, 111]),
    .pull, .receive, .read, .download (.complete (.error (.sdk ⟨.abort, "aborted"⟩)))]

theorem skippedRead_freesSlots :
    ∃ final, (machine (.plain []) "/a" WholeRead.unhashedRevision ⟨1, 2⟩ 5).play (start false)
        skippedRead = some final ∧ final.Over ∧ final.AtRest ∧ final.heldSlots = 0 := by
  have ran : (machine (.plain []) "/a" WholeRead.unhashedRevision ⟨1, 2⟩ 5).play (start false)
      skippedRead = some _ := rfl
  have freed := freesSlots_of_timely ran
    (.cons trivial rfl (.cons trivial rfl (.cons trivial rfl (.cons trivial rfl
      (.cons (fun served phase aborted => by cases phase; cases aborted) rfl
        (.cons trivial rfl (.cons trivial rfl (.cons trivial rfl (.cons trivial rfl
          (Machine.obeys_nil _))))))))))
  exact ⟨_, ran, .inl rfl, .inl rfl, freed (.inl rfl) (.inl rfl)⟩

/-! ## A client that goes away while the downloader is obtained -/

/-- The SDK starts to listen to a signal that has already been aborted; the range
is served to its end. -/
def lateListener : List Event :=
  [.clientAbort, .getFileDownloader (.ok ()), .getSeekableStream (.ok ()), .seek (.ok ()),
    .readSeekable (.ok (some [101, 108], false)), .pull, .read]

/-- The stream is drained and closed, and the slot is still held. -/
theorem lateListener_leaks :
    ∃ final, (machine (.plain []) "/a" WholeRead.unhashedRevision ⟨1, 2⟩ 5).play (start false)
        lateListener = some final ∧ ¬final.FreesSlots := by
  refine ⟨_, rfl, fun frees => ?_⟩
  have none : 1 = 0 := frees (.inl rfl) trivial
  cases none

end RangedRead

end DriveWebdav
