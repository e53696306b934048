import DriveWebdav.SdkGateway.DownloadSlots

/-! # A whole-file read that is let go

A whole-file read is released by the abort of its client's signal and by its
consumer's `cancel`. A producer that nobody wakes again holds a download slot. -/

namespace DriveWebdav

/-- A whole-file read with what its client and its consumer have done to it. -/
structure LinkedRead where
  whole : WholeRead
  clientAborted : Bool
  cancelled : Bool

namespace LinkedRead

/-- A signal that has already been aborted releases the read at once. -/
def start (clientAborted : Bool) : LinkedRead where
  whole := if clientAborted then WholeRead.start.release else WholeRead.start
  clientAborted := clientAborted
  cancelled := false

def clientAbort (read : LinkedRead) : LinkedRead :=
  { read with whole := read.whole.release, clientAborted := true }

def cancel (read : LinkedRead) : LinkedRead :=
  { read with whole := read.whole.cancel, cancelled := true }

inductive Event
  | callback (event : WholeRead.Event)
  | clientAbort
  | cancel

/-- A signal fires once, and a consumer has the stream once the read has committed. -/
def machine (platform : Platform) (path : JsString) (rev : Revision) (totalSize : Nat) :
    Machine LinkedRead Event
  | read, .callback event =>
      (WholeRead.machine platform path rev totalSize read.whole event).map fun whole =>
        { read with whole := whole }
  | read, .clientAbort => if read.clientAborted then none else some read.clientAbort
  | read, .cancel =>
      if read.whole.commit matches some (.ok _) then some read.cancel else none

/-! ## What a release is to do -/

def Released (read : LinkedRead) : Prop :=
  read.clientAborted = true ∨ read.cancelled = true

/-- Nobody waits on backpressure that has no consumer. -/
def Unparked (read : LinkedRead) : Prop :=
  read.Released → read.whole.parked = false

/-- What the SDK still writes for a client that has gone away finds room, and a
stream that is already over is cancelled only while no producer waits. -/
def Roomy (read : LinkedRead) : Event → Prop
  | .callback (.write chunk) => read.clientAborted = true → read.whole.HasRoom chunk
  | .cancel => read.whole.stream.isOver = true → read.whole.parked = false
  | _ => True

end LinkedRead

/-! ## Streams that are over -/

namespace WholeRead

variable {platform : Platform} {path : JsString} {rev : Revision} {totalSize : Nat}
  {event : Event} {read next : WholeRead}

/-- Nothing opens a stream again. -/
private theorem isOver_step (ended : read.stream.isOver = true)
    (stepped : machine platform path rev totalSize read event = some next) :
    next.stream.isOver = true := by
  cases event with
  | write chunk =>
      simp only [machine, Option.ite_none_left_eq_some] at stepped
      cases stepped.2
      unfold WholeRead.write
      dsimp only
      split
      · exact ended
      · next stream enqueued =>
          unfold ReadableStream.enqueue at enqueued
          split at enqueued
          · next readable =>
              rw [ReadableStream.isOver, readable] at ended
              cases ended
          · cases enqueued
  | complete outcome =>
      simp only [machine, Option.ite_none_left_eq_some] at stepped
      cases stepped.2
      unfold WholeRead.complete
      split
      · exact ReadableStream.isOver_fail ended _
      · split
        · exact ReadableStream.isOver_fail ended _
        · exact ReadableStream.isOver_close ended
  | pull =>
      simp only [machine, Option.ite_none_right_eq_some] at stepped
      cases stepped.2
      exact ended
  | read =>
      simp only [machine, Option.ite_none_right_eq_some] at stepped
      cases stepped.2
      exact ReadableStream.isOver_read ended

private theorem conveys_step {sent : List Bytes} (conveys : read.stream.Conveys sent)
    (stepped : machine platform path rev totalSize read event = some next) :
    ∃ sent, next.stream.Conveys sent := by
  cases event with
  | write chunk =>
      simp only [machine, Option.ite_none_left_eq_some] at stepped
      cases stepped.2
      unfold WholeRead.write
      dsimp only
      split
      · exact ⟨sent, conveys⟩
      · next stream enqueued => exact ⟨sent ++ [chunk], (conveys.enqueue enqueued).1⟩
  | complete outcome =>
      simp only [machine, Option.ite_none_left_eq_some] at stepped
      cases stepped.2
      unfold WholeRead.complete
      split
      · exact ⟨sent, conveys.fail _⟩
      · split
        · exact ⟨sent, conveys.fail _⟩
        · exact ⟨sent, conveys.close⟩
  | pull =>
      simp only [machine, Option.ite_none_right_eq_some] at stepped
      cases stepped.2
      exact ⟨sent, conveys⟩
  | read =>
      simp only [machine, Option.ite_none_right_eq_some] at stepped
      cases stepped.2
      exact ⟨sent, conveys.read⟩

private theorem conveys_cancel {sent : List Bytes} (conveys : read.stream.Conveys sent) :
    read.cancel.stream.Conveys sent := by
  unfold WholeRead.cancel
  split
  · exact conveys
  · exact conveys.cancel

private theorem isOver_cancel (read : WholeRead) : read.cancel.stream.isOver = true := by
  unfold WholeRead.cancel
  split
  · assumption
  · exact ReadableStream.isOver_cancel read.stream

/-- Only a write parks the producer. -/
private theorem parked_step (awake : read.parked = false)
    (other : ∀ chunk, event ≠ .write chunk)
    (stepped : machine platform path rev totalSize read event = some next) :
    next.parked = false := by
  cases event with
  | write chunk => exact absurd rfl (other chunk)
  | complete outcome =>
      simp only [machine, Option.ite_none_left_eq_some] at stepped
      cases stepped.2
      unfold WholeRead.complete
      split
      · exact awake
      · split
        · exact awake
        · exact awake
  | pull =>
      simp only [machine, Option.ite_none_right_eq_some] at stepped
      cases stepped.2
      rfl
  | read =>
      simp only [machine, Option.ite_none_right_eq_some] at stepped
      cases stepped.2
      exact awake

/-- A write parks the producer exactly if its chunk finds no room. -/
private theorem parked_write_iff (chunk : Bytes) {sent : List Bytes}
    (conveys : read.stream.Conveys sent) (awake : read.parked = false) :
    (read.write chunk).parked = false ↔ read.HasRoom chunk := by
  unfold WholeRead.write
  dsimp only
  split
  · next refused =>
      apply iff_of_true awake
      intro readable unread
      rw [ReadableStream.enqueue, readable] at refused
      simp only [unread] at refused
      cases refused
  · next stream enqueued => exact isFull_enqueue_iff conveys enqueued

end WholeRead

/-! ## Runs -/

namespace LinkedRead

variable {platform : Platform} {path : JsString} {rev : Revision} {totalSize : Nat}
  {event : Event} {events : List Event} {read next final : LinkedRead}

/-- The stream conveys what was written, and a cancelled one is over. -/
private structure Linked (read : LinkedRead) : Prop where
  conveys : ∃ sent, read.whole.stream.Conveys sent
  ended : read.cancelled = true → read.whole.stream.isOver = true

private theorem linked_start (clientAborted : Bool) : Linked (start clientAborted) where
  conveys := by
    unfold start
    cases clientAborted with
    | false => exact ⟨[], ReadableStream.conveys_empty⟩
    | true => exact ⟨[], ReadableStream.conveys_empty⟩
  ended absurd := nomatch absurd

private theorem Linked.step (linked : Linked read)
    (stepped : machine platform path rev totalSize read event = some next) : Linked next := by
  cases event with
  | callback event =>
      rcases Option.map_eq_some_iff.mp stepped with ⟨whole, moved, rfl⟩
      constructor
      · rcases linked.conveys with ⟨sent, conveys⟩
        exact WholeRead.conveys_step conveys moved
      · intro cancelled
        exact WholeRead.isOver_step (linked.ended cancelled) moved
  | clientAbort =>
      simp only [machine, Option.ite_none_left_eq_some] at stepped
      cases stepped.2
      exact ⟨linked.conveys, linked.ended⟩
  | cancel =>
      simp only [machine, Option.ite_none_right_eq_some] at stepped
      cases stepped.2
      constructor
      · rcases linked.conveys with ⟨sent, conveys⟩
        exact ⟨sent, WholeRead.conveys_cancel conveys⟩
      · intro _
        exact WholeRead.isOver_cancel read.whole

private theorem unparked_start (clientAborted : Bool) : (start clientAborted).Unparked := by
  intro _
  unfold start
  cases clientAborted with
  | false => rfl
  | true => rfl

/-- What the SDK writes after a release parks nobody exactly if it finds room. -/
private theorem unparked_write_iff {chunk : Bytes} {whole : WholeRead} (linked : Linked read)
    (moved : WholeRead.machine platform path rev totalSize read.whole (.write chunk) =
      some whole) :
    ({ read with whole := whole } : LinkedRead).Unparked ↔
      read.Roomy (.callback (.write chunk)) := by
  rcases linked.conveys with ⟨sent, conveys⟩
  simp only [WholeRead.machine, Option.ite_none_left_eq_some, Bool.or_eq_true, not_or,
    Bool.not_eq_true] at moved
  rcases moved with ⟨⟨_, awake⟩, equal⟩
  cases equal
  have parked := WholeRead.parked_write_iff chunk conveys awake
  constructor
  · intro unparked aborted
    exact parked.mp (unparked (.inl aborted))
  · intro roomy released
    apply parked.mpr
    rcases released with aborted | cancelled
    · exact roomy aborted
    · intro readable _
      have ended := linked.ended cancelled
      rw [ReadableStream.isOver, readable] at ended
      cases ended

private theorem unparked_cancel_iff : read.cancel.Unparked ↔ read.Roomy .cancel := by
  unfold Unparked Roomy LinkedRead.cancel WholeRead.cancel
  constructor
  · intro unparked ended
    have awake := unparked (.inr rfl)
    rw [if_pos ended] at awake
    exact awake
  · intro roomy _
    dsimp only
    split
    · next ended => exact roomy ended
    · rfl

private theorem unparked_step_iff (linked : Linked read) (unparked : read.Unparked)
    (stepped : machine platform path rev totalSize read event = some next) :
    next.Unparked ↔ read.Roomy event := by
  cases event with
  | callback event =>
      rcases Option.map_eq_some_iff.mp stepped with ⟨whole, moved, rfl⟩
      by_cases writes : ∃ chunk, event = .write chunk
      · rcases writes with ⟨chunk, rfl⟩
        exact unparked_write_iff linked moved
      · have other : ∀ chunk, event ≠ .write chunk := by
          intro chunk equal
          exact writes ⟨chunk, equal⟩
        apply iff_of_true
        · intro released
          exact WholeRead.parked_step (unparked released) other moved
        · cases event with
          | write chunk => exact absurd rfl (other chunk)
          | _ => trivial
  | clientAbort =>
      simp only [machine, Option.ite_none_left_eq_some] at stepped
      cases stepped.2
      exact iff_of_true (fun _ => rfl) trivial
  | cancel =>
      simp only [machine, Option.ite_none_right_eq_some] at stepped
      cases stepped.2
      exact unparked_cancel_iff

/-- A read that was released leaves no producer parked, exactly in the runs in which
what the SDK still writes finds room. -/
theorem unparked_iff_roomy {clientAborted : Bool}
    (ran : (machine platform path rev totalSize).play (start clientAborted) events =
      some final) :
    (machine platform path rev totalSize).Throughout Unparked (start clientAborted) events ↔
      (machine platform path rev totalSize).Obeys Roomy (start clientAborted) events := by
  apply Machine.throughout_iff_obeys Linked (linked_start clientAborted)
    (unparked_start clientAborted) _ _ ran
  · intro reached event next linked stepped
    exact linked.step stepped
  · intro reached event next linked unparked stepped
    exact unparked_step_iff linked unparked stepped

/-- The client goes away, and the SDK writes what it has just fetched. -/
def smallRead : List Event :=
  [.callback (.write [104, 101]), .clientAbort, .callback (.write [108, 108, 111]), .cancel]

theorem smallRead_unparked :
    ∃ final, (machine (.plain []) "/a" WholeRead.unhashedRevision 5).play (start false)
        smallRead = some final ∧
      (machine (.plain []) "/a" WholeRead.unhashedRevision 5).Throughout Unparked (start false)
        smallRead := by
  have ran : (machine (.plain []) "/a" WholeRead.unhashedRevision 5).play (start false)
      smallRead = some _ := rfl
  have fits : (LinkedRead.mk (WholeRead.start.write [104, 101]).release true false).Roomy
      (.callback (.write [108, 108, 111])) := by
    intro _ _ _
    decide
  refine ⟨_, ran, (unparked_iff_roomy ran).mpr ?_⟩
  exact .cons nofun rfl (.cons trivial rfl (.cons fits rfl (.cons nofun rfl
    (Machine.obeys_nil _))))

/-! ## A write that comes after the abort -/

/-- A block as the SDK writes it. -/
def block : Bytes := List.replicate (4 * 1024 * 1024) 0

/-- The client goes away between two blocks, and the stream is not cancelled. -/
def abortedRead : List Event :=
  [.callback (.write block), .clientAbort, .callback (.write block)]

/-- A chunk of half the limit finds no room behind another. -/
private theorem half_finds_no_room {read : WholeRead} {chunk : Bytes}
    (readable : read.stream.status = .readable) (unread : read.stream.reading = false)
    (queue : read.stream.queue = [chunk]) (length : chunk.length = 4 * 1024 * 1024) :
    ¬read.HasRoom chunk := by
  intro room
  have fits := room readable unread
  simp only [ReadableStream.weight, queue, List.foldr_cons, List.foldr_nil, length,
    DOWNLOAD_HIGH_WATER_MARK] at fits
  omega

/-- The second block fills the queue, and its write waits for a pull that nobody
makes. -/
theorem abortedRead_parks :
    ∃ final, (machine (.plain []) "/a" ⟨some (8 * 1024 * 1024), none, false, none⟩
        (8 * 1024 * 1024)).play (start false) abortedRead = some final ∧
      ¬(machine (.plain []) "/a" ⟨some (8 * 1024 * 1024), none, false, none⟩
        (8 * 1024 * 1024)).Throughout Unparked (start false) abortedRead := by
  let first := WholeRead.start.write block
  have ran : (machine (.plain []) "/a" ⟨some (8 * 1024 * 1024), none, false, none⟩
      (8 * 1024 * 1024)).play (start false) abortedRead =
        some ⟨first.release.write block, true, false⟩ := rfl
  refine ⟨_, ran, ?_⟩
  intro throughout
  have awake := throughout abortedRead [] _ (List.append_nil _).symm ran (.inl rfl)
  have conveys : first.release.stream.Conveys [block] :=
    (ReadableStream.conveys_empty.enqueue rfl).1
  have fits := (WholeRead.parked_write_iff block conveys rfl).mp awake
  exact half_finds_no_room rfl rfl rfl List.length_replicate fits

end LinkedRead

end DriveWebdav
