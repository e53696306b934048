import Mathlib.Data.List.Basic

/-! # Readable streams

The language's `ReadableStream` with its default controller: a queue between the
source that enqueues chunks and the one reader that takes them. -/

namespace DriveWebdav

/-- `closing`: closed by the source, with chunks still to be read. -/
inductive StreamStatus (Error : Type)
  | readable
  | closing
  | closed
  | cancelled
  | errored (error : Error)
  deriving DecidableEq

/-- `reading` tells whether a read waits for a chunk, `delivered` what the reads
were given, and `ended` what they were told of the end. -/
structure ReadableStream (Chunk Error : Type) where
  queue : List Chunk
  status : StreamStatus Error
  reading : Bool
  delivered : List Chunk
  ended : Option (Except Error Unit)

namespace ReadableStream

variable {Chunk Error : Type}

def empty : ReadableStream Chunk Error := ⟨[], .readable, false, [], none⟩

/-- A chunk goes to the read that waits for one, or to the queue. There is none to
give to a stream that is no longer readable: `enqueue` throws. -/
def enqueue (stream : ReadableStream Chunk Error) (chunk : Chunk) :
    Option (ReadableStream Chunk Error) :=
  match stream.status with
  | .readable =>
      if stream.reading then
        some { stream with reading := false, delivered := stream.delivered ++ [chunk] }
      else some { stream with queue := stream.queue ++ [chunk] }
  | _ => none

/-- Tell a waiting read how the stream ended. -/
private def settle (stream : ReadableStream Chunk Error) (outcome : Except Error Unit) :
    ReadableStream Chunk Error :=
  { stream with
    reading := false
    ended := if stream.reading then some outcome else stream.ended }

def close (stream : ReadableStream Chunk Error) : ReadableStream Chunk Error :=
  match stream.status with
  | .readable =>
      if stream.queue.isEmpty then { stream.settle (.ok ()) with status := .closed }
      else { stream with status := .closing }
  | _ => stream

/-- An error drops what is still in the queue. -/
def fail (stream : ReadableStream Chunk Error) (error : Error) : ReadableStream Chunk Error :=
  match stream.status with
  | .readable | .closing =>
      { stream.settle (.error error) with queue := [], status := .errored error }
  | _ => stream

def read (stream : ReadableStream Chunk Error) : ReadableStream Chunk Error :=
  match stream.queue, stream.status with
  | chunk :: rest, .closing =>
      { stream with
        queue := rest
        delivered := stream.delivered ++ [chunk]
        status := if rest.isEmpty then .closed else .closing }
  | chunk :: rest, _ => { stream with queue := rest, delivered := stream.delivered ++ [chunk] }
  | [], .readable => { stream with reading := true }
  | [], .errored error => { stream with ended := some (.error error) }
  | [], _ => { stream with ended := some (.ok ()) }

/-- Cancelling by the reader, which reaches the source while it can still act. -/
def cancel (stream : ReadableStream Chunk Error) : ReadableStream Chunk Error :=
  match stream.status with
  | .readable | .closing =>
      { stream.settle (.ok ()) with queue := [], status := .cancelled }
  | _ => stream

/-- Closed, cancelled or errored. -/
def isOver (stream : ReadableStream Chunk Error) : Bool :=
  match stream.status with
  | .readable | .closing => false
  | _ => true

/-- What the queue weighs, under a measure of chunks. -/
def weight (size : Chunk → Nat) (stream : ReadableStream Chunk Error) : Nat :=
  stream.queue.foldr (fun chunk total => size chunk + total) 0

theorem foldr_weight_append (size : Chunk → Nat) (queue : List Chunk) (chunk : Chunk) :
    (queue ++ [chunk]).foldr (fun chunk total => size chunk + total) 0 =
      queue.foldr (fun chunk total => size chunk + total) 0 + size chunk := by
  induction queue with
  | nil => simp
  | cons first rest induction =>
      simp only [List.cons_append, List.foldr_cons, induction]
      omega

/-- `(desiredSize ?? 1) <= 0`, right after a chunk was enqueued. -/
def isFull (highWaterMark : Nat) (size : Chunk → Nat)
    (stream : ReadableStream Chunk Error) : Bool :=
  highWaterMark ≤ stream.weight size

/-- Whether the stream asks its source for more. -/
def pulls (highWaterMark : Nat) (size : Chunk → Nat)
    (stream : ReadableStream Chunk Error) : Bool :=
  match stream.status with
  | .readable => stream.reading || !stream.isFull highWaterMark size
  | _ => false

/-- Read so many times. -/
def drain : Nat → ReadableStream Chunk Error → ReadableStream Chunk Error
  | 0, stream => stream
  | reads + 1, stream => drain reads stream.read

/-! ## Nothing lost, nothing repeated -/

/-- How a stream stands to the chunks that were enqueued. -/
structure Conveys (sent : List Chunk) (stream : ReadableStream Chunk Error) : Prop where
  begins : stream.delivered <+: sent
  complete : stream.status = .readable ∨ stream.status = .closing ∨ stream.status = .closed →
    stream.delivered ++ stream.queue = sent
  waiting : stream.reading = true → stream.status = .readable ∧ stream.queue = []
  closing : stream.status = .closing → stream.queue ≠ []
  emptied : stream.status ≠ .readable → stream.status ≠ .closing → stream.queue = []
  cleanly : stream.ended = some (.ok ()) → stream.status = .closed ∨ stream.status = .cancelled
  failed : ∀ error, stream.ended = some (.error error) → stream.status = .errored error

variable {sent : List Chunk} {stream : ReadableStream Chunk Error}

theorem conveys_empty : Conveys [] (empty : ReadableStream Chunk Error) where
  begins := List.prefix_rfl
  complete _ := rfl
  waiting absurd := nomatch absurd
  closing absurd := nomatch absurd
  emptied _ _ := rfl
  cleanly absurd := nomatch absurd
  failed _ absurd := nomatch absurd

theorem Conveys.enqueue {after : ReadableStream Chunk Error} {chunk : Chunk}
    (conveys : Conveys sent stream) (enqueued : stream.enqueue chunk = some after) :
    Conveys (sent ++ [chunk]) after ∧ after.status = .readable := by
  rcases stream with ⟨queue, status, reading, delivered, ended⟩
  cases status with
  | readable =>
      have all := conveys.complete (.inl rfl)
      simp only at all
      cases reading with
      | true =>
          cases enqueued
          have none := (conveys.waiting rfl).2
          simp only at none
          subst none
          rw [List.append_nil] at all
          subst all
          exact ⟨⟨List.prefix_rfl, fun _ => by simp, nofun, nofun, fun absurd => absurd rfl |>.elim,
            conveys.cleanly, conveys.failed⟩, rfl⟩
      | false =>
          cases enqueued
          refine ⟨⟨conveys.begins.trans (List.prefix_append _ _), fun _ => ?_, nofun, nofun,
            fun absurd => absurd rfl |>.elim, conveys.cleanly, conveys.failed⟩, rfl⟩
          simp only [← all, List.append_assoc]
  | _ => cases enqueued

theorem Conveys.close (conveys : Conveys sent stream) : Conveys sent stream.close := by
  rcases stream with ⟨queue, status, reading, delivered, ended⟩
  cases status with
  | readable =>
      have all := conveys.complete (.inl rfl)
      cases queue with
      | nil =>
          refine ⟨conveys.begins, fun _ => all, nofun, nofun, fun _ _ => rfl, fun _ => .inl rfl, ?_⟩
          intro error told
          cases reading with
          | true => cases told
          | false => cases conveys.failed error told
      | cons chunk rest =>
          refine ⟨conveys.begins, fun _ => all, fun waits => ?_, fun _ => nofun,
            fun _ absurd => absurd rfl |>.elim, fun told => ?_, fun error told => ?_⟩
          · cases (conveys.waiting waits).2
          · rcases conveys.cleanly told with absurd | absurd <;> cases absurd
          · cases conveys.failed error told
  | _ => exact conveys

theorem Conveys.fail (conveys : Conveys sent stream) (error : Error) :
    Conveys sent (stream.fail error) := by
  rcases stream with ⟨queue, status, reading, delivered, ended⟩
  have failing : status = .readable ∨ status = .closing →
      Conveys sent (ReadableStream.mk [] (.errored error) false delivered
        (if reading then some (.error error) else ended)) := by
    intro live
    refine ⟨conveys.begins, ?_, nofun, nofun, fun _ _ => rfl, fun told => ?_,
      fun other told => ?_⟩
    · rintro (absurd | absurd | absurd) <;> cases absurd
    · cases reading with
      | true => cases told
      | false => rcases live with rfl | rfl <;> rcases conveys.cleanly told with absurd | absurd <;> cases absurd
    · cases reading with
      | true =>
          cases told
          rfl
      | false => rcases live with rfl | rfl <;> cases conveys.failed other told
  cases status with
  | readable => exact failing (.inl rfl)
  | closing => exact failing (.inr rfl)
  | _ => exact conveys

/-- A cancelled stream has lost what was still in its queue. -/
theorem Conveys.cancel (conveys : Conveys sent stream) : Conveys sent stream.cancel := by
  rcases stream with ⟨queue, status, reading, delivered, ended⟩
  have cancelling : status = .readable ∨ status = .closing →
      Conveys sent (ReadableStream.mk [] .cancelled false delivered
        (if reading then some (.ok ()) else ended)) := by
    intro live
    constructor
    · exact conveys.begins
    · intro finished
      rcases finished with absurd | absurd | absurd <;> cases absurd
    · exact nofun
    · exact nofun
    · exact fun _ _ => rfl
    · exact fun _ => .inr rfl
    · intro error told
      cases reading with
      | true => cases told
      | false => rcases live with rfl | rfl <;> cases conveys.failed error told
  cases status with
  | readable => exact cancelling (.inl rfl)
  | closing => exact cancelling (.inr rfl)
  | _ => exact conveys

theorem Conveys.read (conveys : Conveys sent stream) : Conveys sent stream.read := by
  rcases stream with ⟨queue, status, reading, delivered, ended⟩
  cases queue with
  | cons chunk rest =>
      have live : status = .readable ∨ status = .closing := by
        cases status with
        | readable => exact .inl rfl
        | closing => exact .inr rfl
        | _ => cases conveys.emptied nofun nofun
      have all : delivered ++ chunk :: rest = sent :=
        conveys.complete (live.imp id .inl)
      have all' : (delivered ++ [chunk]) ++ rest = sent := by rw [← all, List.append_assoc]; rfl
      have unread : reading ≠ true := fun waits => by cases (conveys.waiting waits).2
      have untold : ended = none := by
        cases ended with
        | none => rfl
        | some outcome =>
            cases outcome with
            | ok done =>
                rcases live with rfl | rfl <;> rcases conveys.cleanly rfl with absurd | absurd <;>
                  cases absurd
            | error error => rcases live with rfl | rfl <;> cases conveys.failed error rfl
      subst untold
      rcases live with rfl | rfl
      · exact ⟨⟨rest, all'⟩, fun _ => all', fun waits => absurd waits unread, nofun,
          fun absurd => absurd rfl |>.elim, nofun, nofun⟩
      · refine ⟨⟨rest, all'⟩, fun _ => all', fun waits => absurd waits unread, fun closes => ?_,
          fun _ other => ?_, nofun, nofun⟩
        · cases rest with
          | nil => cases closes
          | cons next others => exact nofun
        · cases rest with
          | nil => rfl
          | cons next others => exact absurd rfl other
  | nil =>
      have told : ∀ {ended'}, (∀ h : ended' = some (.ok ()), status = .closed ∨ status = .cancelled) →
          (∀ error, ended' = some (.error error) → status = .errored error) →
          Conveys sent (ReadableStream.mk ([] : List Chunk) status reading delivered ended') :=
        fun cleanly failed => ⟨conveys.begins, conveys.complete, conveys.waiting,
          conveys.closing, conveys.emptied, cleanly, failed⟩
      cases status with
      | readable =>
          exact ⟨conveys.begins, conveys.complete, fun _ => ⟨rfl, rfl⟩, conveys.closing,
            conveys.emptied, conveys.cleanly, conveys.failed⟩
      | closing => exact absurd rfl (conveys.closing rfl)
      | closed => exact told (fun _ => .inl rfl) nofun
      | cancelled => exact told (fun _ => .inr rfl) nofun
      | errored error => exact told nofun fun _ equal => by cases equal; rfl

theorem status_enqueue {after : ReadableStream Chunk Error} {chunk : Chunk}
    (enqueued : stream.enqueue chunk = some after) : after.status = .readable := by
  unfold ReadableStream.enqueue at enqueued
  split at enqueued
  · next readable =>
      split at enqueued
      · cases enqueued
        exact readable
      · cases enqueued
        exact readable
  · cases enqueued

/-- The status after a read: only a stream whose end was announced goes on to it. -/
theorem status_read (stream : ReadableStream Chunk Error) :
    stream.read.status = stream.status ∨
      (stream.status = .closing ∧ stream.read.status = .closed) := by
  rcases stream with ⟨queue, status, reading, delivered, ended⟩
  cases queue with
  | nil => cases status <;> exact .inl rfl
  | cons chunk rest =>
      cases status with
      | closing =>
          cases rest with
          | nil => exact .inr ⟨rfl, rfl⟩
          | cons next others => exact .inl rfl
      | _ => exact .inl rfl

/-- A closed stream hands out what is left and then says so. -/
theorem Conveys.drain_closed (conveys : Conveys sent stream)
    (closed : stream.status = .closing ∨ stream.status = .closed) :
    (stream.drain (stream.queue.length + 1)).ended = some (.ok ()) ∧
      (stream.drain (stream.queue.length + 1)).delivered = sent := by
  generalize remaining : stream.queue.length = count
  induction count generalizing stream with
  | zero =>
      have none := List.length_eq_zero_iff.mp remaining
      rcases stream with ⟨queue, status, reading, delivered, ended⟩
      simp only at none closed
      subst none
      have all := conveys.complete (.inr closed)
      rw [List.append_nil] at all
      rcases closed with rfl | rfl
      · exact absurd rfl (conveys.closing rfl)
      · exact ⟨rfl, all⟩
  | succ count induction =>
      have after := conveys.read
      rcases stream with ⟨queue, status, reading, delivered, ended⟩
      cases queue with
      | nil => cases remaining
      | cons chunk rest =>
          have closing : status = .closing := by
            rcases closed with rfl | rfl
            · rfl
            · cases conveys.emptied nofun nofun
          subst closing
          have shorter : rest.length = count := Nat.succ.inj remaining
          refine induction after ?_ shorter
          cases rest with
          | nil => exact .inr rfl
          | cons next others => exact .inl rfl

/-- A failed stream gives nothing more, and the next read learns why. -/
theorem Conveys.drain_errored {error : Error} (conveys : Conveys sent stream)
    (failed : stream.status = .errored error) (reads : Nat) :
    (stream.drain (reads + 1)).ended = some (.error error) ∧
      (stream.drain (reads + 1)).delivered = stream.delivered := by
  induction reads generalizing stream with
  | zero =>
      rcases stream with ⟨queue, status, reading, delivered, ended⟩
      simp only at failed
      subst failed
      cases conveys.emptied nofun nofun
      exact ⟨rfl, rfl⟩
  | succ reads induction =>
      have after := conveys.read
      rcases stream with ⟨queue, status, reading, delivered, ended⟩
      simp only at failed
      subst failed
      cases conveys.emptied nofun nofun
      exact induction after rfl

/-- A stream whose source has not closed it does not end cleanly. -/
theorem Conveys.drain_readable (conveys : Conveys sent stream)
    (readable : stream.status = .readable) (reads : Nat) :
    (stream.drain reads).ended ≠ some (.ok ()) := by
  induction reads generalizing stream with
  | zero =>
      intro told
      rcases conveys.cleanly told with status | status
      · rw [readable] at status
        cases status
      · rw [readable] at status
        cases status
  | succ reads induction =>
      refine induction conveys.read ?_
      rcases stream.status_read with same | ⟨closing, _⟩
      · exact same.trans readable
      · rw [readable] at closing
        cases closing

/-! ## Streams that are over -/

theorem isOver_close (ended : stream.isOver = true) : stream.close.isOver = true := by
  rcases stream with ⟨queue, status, reading, delivered, told⟩
  cases status with
  | readable => cases ended
  | _ => exact ended

theorem isOver_fail (ended : stream.isOver = true) (error : Error) :
    (stream.fail error).isOver = true := by
  rcases stream with ⟨queue, status, reading, delivered, told⟩
  cases status with
  | readable => cases ended
  | closing => cases ended
  | _ => exact ended

theorem isOver_read (ended : stream.isOver = true) : stream.read.isOver = true := by
  rcases stream.status_read with same | ⟨closing, _⟩
  · rw [isOver, same]
    exact ended
  · rw [isOver, closing] at ended
    cases ended

theorem isOver_cancel (stream : ReadableStream Chunk Error) : stream.cancel.isOver = true := by
  rcases stream with ⟨queue, status, reading, delivered, told⟩
  cases status <;> rfl

/-! ## Streams that are open -/

section Open

variable {chunk : Chunk} {after : ReadableStream Chunk Error}

/-- The stream has been closed by its source. -/
def Finished (stream : ReadableStream Chunk Error) : Prop :=
  stream.status = .closing ∨ stream.status = .closed

/-- Its reader can still get what was enqueued. -/
def Open (stream : ReadableStream Chunk Error) : Prop :=
  stream.status = .readable ∨ stream.Finished

theorem enqueue_eq_none_iff : stream.enqueue chunk = none ↔ stream.status ≠ .readable := by
  rcases stream with ⟨queue, status, reading, delivered, ended⟩
  cases status with
  | readable => cases reading <;> simp [enqueue]
  | _ => simp [enqueue]

theorem readable_of_enqueue (enqueued : stream.enqueue chunk = some after) :
    stream.status = .readable := by
  by_contra unreadable
  rw [enqueue_eq_none_iff.mpr unreadable] at enqueued
  cases enqueued

theorem not_finished_of_readable (readable : stream.status = .readable) : ¬stream.Finished := by
  intro finished
  rcases finished with status | status
  · exact nomatch readable.symm.trans status
  · exact nomatch readable.symm.trans status

/-- A closed stream was closed before, or could still be. -/
theorem open_of_close (live : stream.close.Open) : stream.Open := by
  rcases stream with ⟨queue, status, reading, delivered, ended⟩
  cases status with
  | readable => exact .inl rfl
  | _ => exact live

/-- Nothing that fails is finished by it. -/
theorem finished_of_fail {error : Error} (finished : (stream.fail error).Finished) :
    stream.Finished := by
  rcases stream with ⟨queue, status, reading, delivered, ended⟩
  cases status with
  | readable => rcases finished with status | status <;> cases status
  | closing => exact .inl rfl
  | _ => exact finished

theorem finished_of_cancel (finished : stream.cancel.Finished) : stream.Finished := by
  rcases stream with ⟨queue, status, reading, delivered, ended⟩
  cases status with
  | readable => rcases finished with status | status <;> cases status
  | closing => exact .inl rfl
  | _ => exact finished

theorem finished_read : stream.read.Finished ↔ stream.Finished := by
  unfold Finished
  rcases stream.status_read with same | ⟨closing, closed⟩
  · rw [same]
  · rw [closing, closed]
    exact iff_of_true (.inr rfl) (.inl rfl)

theorem readable_of_read (readable : stream.read.status = .readable) :
    stream.status = .readable := by
  rcases stream.status_read with same | ⟨_, closed⟩
  · exact same.symm.trans readable
  · exact nomatch closed.symm.trans readable

theorem readable_of_close (readable : stream.close.status = .readable) :
    stream.status = .readable := by
  rcases stream with ⟨queue, status, reading, delivered, ended⟩
  cases status with
  | readable => rfl
  | _ => exact readable

theorem readable_of_fail {error : Error} (readable : (stream.fail error).status = .readable) :
    stream.status = .readable := by
  rcases stream with ⟨queue, status, reading, delivered, ended⟩
  cases status with
  | readable => rfl
  | closing => cases readable
  | _ => exact readable

theorem readable_of_cancel (readable : stream.cancel.status = .readable) :
    stream.status = .readable := by
  rcases stream with ⟨queue, status, reading, delivered, ended⟩
  cases status with
  | readable => rfl
  | closing => cases readable
  | _ => exact readable

end Open

/-! ## What was delivered stays delivered -/

section Delivered

variable {chunk : Chunk} {after : ReadableStream Chunk Error}

theorem delivered_enqueue (enqueued : stream.enqueue chunk = some after) :
    stream.delivered <+: after.delivered := by
  rcases stream with ⟨queue, status, reading, delivered, ended⟩
  cases status with
  | readable =>
      cases reading with
      | true =>
          cases enqueued
          exact List.prefix_append _ _
      | false =>
          cases enqueued
          exact List.prefix_rfl
  | _ => cases enqueued

theorem delivered_close (stream : ReadableStream Chunk Error) :
    stream.close.delivered = stream.delivered := by
  rcases stream with ⟨queue, status, reading, delivered, ended⟩
  cases status with
  | readable => cases queue <;> rfl
  | _ => rfl

theorem delivered_fail (stream : ReadableStream Chunk Error) (error : Error) :
    (stream.fail error).delivered = stream.delivered := by
  rcases stream with ⟨queue, status, reading, delivered, ended⟩
  cases status <;> rfl

theorem delivered_cancel (stream : ReadableStream Chunk Error) :
    stream.cancel.delivered = stream.delivered := by
  rcases stream with ⟨queue, status, reading, delivered, ended⟩
  cases status <;> rfl

theorem delivered_read (stream : ReadableStream Chunk Error) :
    stream.delivered <+: stream.read.delivered := by
  rcases stream with ⟨queue, status, reading, delivered, ended⟩
  cases queue with
  | nil => cases status <;> exact List.prefix_rfl
  | cons chunk rest => cases status <;> exact List.prefix_append _ _

end Delivered

/-! ## Streams that are fed -/

section Fed

variable {Item : Type}

/-- What was enqueued are `items`, as long as the reader can still get them. -/
def Fed (items : List Item) (stream : ReadableStream (List Item) Error) : Prop :=
  ∃ sent, stream.Conveys sent ∧ (stream.Open → sent.flatten = items)

variable {items other chunk : List Item} {stream after : ReadableStream (List Item) Error}

theorem fed_empty : Fed [] (empty : ReadableStream (List Item) Error) :=
  ⟨[], conveys_empty, fun _ => rfl⟩

theorem Fed.lost (fed : Fed items stream) (shut : ¬stream.Open) : Fed other stream := by
  rcases fed with ⟨sent, conveys, _⟩
  exact ⟨sent, conveys, fun live => absurd live shut⟩

theorem Fed.enqueue (fed : Fed items stream) (enqueued : stream.enqueue chunk = some after) :
    Fed (items ++ chunk) after := by
  rcases fed with ⟨sent, conveys, whole⟩
  refine ⟨sent ++ [chunk], (conveys.enqueue enqueued).1, fun _ => ?_⟩
  rw [List.flatten_append, whole (.inl (readable_of_enqueue enqueued)), List.flatten_singleton]

theorem Fed.close (fed : Fed items stream) : Fed items stream.close := by
  rcases fed with ⟨sent, conveys, whole⟩
  exact ⟨sent, conveys.close, fun live => whole (open_of_close live)⟩

theorem Fed.fail (fed : Fed items stream) (error : Error) : Fed items (stream.fail error) := by
  rcases fed with ⟨sent, conveys, whole⟩
  refine ⟨sent, conveys.fail error, fun live => whole ?_⟩
  exact live.imp readable_of_fail finished_of_fail

theorem Fed.cancel (fed : Fed items stream) : Fed items stream.cancel := by
  rcases fed with ⟨sent, conveys, whole⟩
  refine ⟨sent, conveys.cancel, fun live => whole ?_⟩
  exact live.imp readable_of_cancel finished_of_cancel

theorem Fed.read (fed : Fed items stream) : Fed items stream.read := by
  rcases fed with ⟨sent, conveys, whole⟩
  refine ⟨sent, conveys.read, fun live => whole ?_⟩
  exact live.imp readable_of_read finished_read.mp

/-- A reader that was told of the end has been given everything. -/
theorem Fed.delivered (fed : Fed items stream) (closed : stream.status = .closed) :
    stream.delivered.flatten = items := by
  rcases fed with ⟨sent, conveys, whole⟩
  have all := conveys.complete (.inr (.inr closed))
  rw [conveys.emptied (by simp [closed]) (by simp [closed]), List.append_nil] at all
  rw [all]
  exact whole (.inr (.inr closed))

end Fed

end ReadableStream

end DriveWebdav
