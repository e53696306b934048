import DriveWebdav.Foundation.Machine
import DriveWebdav.Foundation.ReadableStream
import DriveWebdav.SdkGateway.Read

/-! # Reading a whole file

The callbacks of a whole-file read, in any order in which they can be called: the
SDK writes chunks and completes, the stream pulls, and its consumer reads. -/

namespace DriveWebdav

/-- `commit` is the outcome of the promise that the read waits for, `parked` tells
whether a write waits to be woken, and `settled` whether the completion has been
handled. `aborted` is the signal that the SDK was given. -/
structure WholeRead where
  produced : Nat
  hash : Bytes
  stream : ReadableStream Bytes Thrown
  commit : Option (Except Thrown Unit)
  parked : Bool
  aborted : Bool
  settled : Bool

def DOWNLOAD_HIGH_WATER_MARK : Nat := 8 * 1024 * 1024

namespace WholeRead

def start : WholeRead := ⟨0, [], .empty, none, false, false, false⟩

def wakeProducer (read : WholeRead) : WholeRead := { read with parked := false }

def release (read : WholeRead) : WholeRead := { read with aborted := true, parked := false }

/-- Its consumer cancels the stream, which reaches the read while it is open. -/
def cancel (read : WholeRead) : WholeRead :=
  if read.stream.isOver then read else { read.release with stream := read.stream.cancel }

/-- The first outcome counts. -/
def commitWith (outcome : Except Thrown Unit) (read : WholeRead) : WholeRead :=
  { read with commit := some (read.commit.getD outcome) }

/-- The sink of the SDK: a chunk is hashed, counted and enqueued. -/
def write (chunk : Bytes) (read : WholeRead) : WholeRead :=
  let counted :=
    { read with hash := read.hash ++ chunk, produced := read.produced + chunk.length }
  match read.stream.enqueue chunk with
  | none => counted
  | some stream =>
      { counted.commitWith (.ok ()) with
        stream := stream
        parked := stream.isFull DOWNLOAD_HIGH_WATER_MARK List.length }

/-- Fail the read: before the commit by rejecting it, and the stream in any case. -/
def failWith (error : Thrown) (read : WholeRead) : WholeRead :=
  { read.commitWith (.error error) with stream := read.stream.fail error, settled := true }

section

variable (platform : Platform) (path : JsString) (rev : Revision) (totalSize : Nat)

/-- What is done once the download has completed. -/
def complete (outcome : Except Thrown Unit) (read : WholeRead) : WholeRead :=
  match outcome with
  | .error error => read.failWith (mapGenericError platform error)
  | .ok _ =>
      match checkDownload path rev totalSize read.produced (platform.sha1 read.hash) with
      | some error => read.failWith (.gateway error)
      | none => { read.commitWith (.ok ()) with stream := read.stream.close, settled := true }

inductive Event
  | write (chunk : Bytes)
  | complete (outcome : Except Thrown Unit)
  | pull
  | read

/-- A write waits for the one before it, and nothing is written after completion.
The consumer has the stream once the read has committed. -/
def machine : Machine WholeRead Event
  | read, .write chunk => if read.settled || read.parked then none else some (read.write chunk)
  | read, .complete outcome =>
      if read.settled then none else some (read.complete platform path rev totalSize outcome)
  | read, .pull =>
      if read.stream.pulls DOWNLOAD_HIGH_WATER_MARK List.length then some read.wakeProducer
      else none
  | read, .read =>
      if read.commit matches some (.ok _) then some { read with stream := read.stream.read }
      else none

end

/-- The chunks that a run writes. -/
def written (events : List Event) : List Bytes :=
  events.filterMap fun
    | .write chunk => some chunk
    | _ => none

@[simp] theorem written_append (events later : List Event) :
    written (events ++ later) = written events ++ written later :=
  List.filterMap_append

/-! ## What a read is to do -/

/-- A download that ends so has yielded the revision: all its bytes, and those of
its digest where that is verified. -/
def Succeeds (platform : Platform) (rev : Revision) (totalSize : Nat) (bytes : Bytes)
    (outcome : Except Thrown Unit) : Prop :=
  outcome = .ok () ∧ bytes.length = totalSize ∧
    ∀ digest, truthy rev.claimedSha1 = some digest → rev.sha1Verified = true →
      platform.sha1 bytes = digest.toLowerCase

/-- The consumer gets the whole stream and its end. -/
def EndsCleanly (read : WholeRead) : Prop :=
  read.commit = some (.ok ()) ∧
    (read.stream.drain (read.stream.queue.length + 1)).ended = some (.ok ())

/-- What is promised of a read whose download has run through `events`. -/
structure Keeps (platform : Platform) (rev : Revision) (totalSize : Nat) (events : List Event)
    (read : WholeRead) : Prop where
  inOrder : read.stream.delivered <+: written events
  whole : EndsCleanly read →
    (read.stream.drain (read.stream.queue.length + 1)).delivered = written events
  cleanly : EndsCleanly read ↔ ∃ outcome, .complete outcome ∈ events ∧
    Succeeds platform rev totalSize (written events).flatten outcome
  rejects : ∀ outcome, .complete outcome ∈ events →
    ¬Succeeds platform rev totalSize (written events).flatten outcome →
    read.stream.delivered.flatten = [] → ∃ error, read.commit = some (.error error)

/-- Whenever the download fails, nothing has been written yet or some byte has
reached the consumer. -/
def FailsInTime (platform : Platform) (path : JsString) (rev : Revision) (totalSize : Nat)
    (events : List Event) : Prop :=
  ∀ before outcome after reached, events = before ++ .complete outcome :: after →
    (machine platform path rev totalSize).play start before = some reached →
    ¬Succeeds platform rev totalSize (written before).flatten outcome →
    written before = [] ∨ reached.stream.delivered.flatten ≠ []

section Runs

variable {platform : Platform} {path : JsString} {rev : Revision} {totalSize : Nat}
  {events later : List Event} {read final : WholeRead}

private theorem truthy_map_toLowerCase (digest : Option JsString) :
    truthy (digest.map JsString.toLowerCase) = (truthy digest).map JsString.toLowerCase := by
  cases digest with
  | none => rfl
  | some text => cases text <;> rfl

private theorem checkDownload_eq_none_iff (path : JsString) {bytes : Bytes} :
    checkDownload path rev totalSize bytes.length (platform.sha1 bytes) = none ↔
      Succeeds platform rev totalSize bytes (.ok ()) := by
  unfold checkDownload Succeeds
  rw [truthy_map_toLowerCase]
  split
  · next size => exact iff_of_false nofun fun succeeds => size succeeds.2.1
  · next size =>
      have size := Decidable.of_not_not size
      cases known : truthy rev.claimedSha1 with
      | none => exact iff_of_true rfl ⟨rfl, size, nofun⟩
      | some digest =>
          simp only [Option.map_some, Bool.and_eq_true, decide_eq_true_eq]
          split
          · next mismatch =>
              exact iff_of_false nofun fun succeeds => mismatch.1 (succeeds.2.2 digest rfl mismatch.2)
          · next fits =>
              refine iff_of_true rfl ⟨trivial, size, fun other equal verified => ?_⟩
              cases equal
              exact Decidable.of_not_not fun mismatch => fits ⟨mismatch, verified⟩

@[simp] theorem settled_complete (outcome : Except Thrown Unit) (read : WholeRead) :
    (read.complete platform path rev totalSize outcome).settled = true := by
  unfold complete
  split
  · rfl
  · split <;> rfl

/-- The download is under way: what was written is hashed, counted and in the
stream, and the read has committed once there was a chunk. -/
private structure Writing (events : List Event) (read : WholeRead) : Prop where
  conveys : read.stream.Conveys (written events)
  hash : read.hash = (written events).flatten
  produced : read.produced = read.hash.length
  readable : read.stream.status = .readable
  commit : read.commit = if written events = [] then none else some (.ok ())
  incomplete : ∀ outcome, .complete outcome ∉ events

private theorem writing_start : Writing [] start where
  conveys := ReadableStream.conveys_empty
  hash := rfl
  produced := rfl
  readable := rfl
  commit := rfl
  incomplete _ := List.not_mem_nil

private theorem Writing.write {chunk : Bytes} (writing : Writing events read) :
    Writing (events ++ [.write chunk]) (read.write chunk) := by
  have sent : written (events ++ [.write chunk]) = written events ++ [chunk] := by simp [written]
  have enqueued : ∃ stream, read.stream.enqueue chunk = some stream := by
    rw [ReadableStream.enqueue, writing.readable]
    dsimp only
    split <;> exact ⟨_, rfl⟩
  rcases enqueued with ⟨stream, enqueued⟩
  have after := writing.conveys.enqueue enqueued
  have committed : read.commit.getD (.ok ()) = .ok () := by
    rw [writing.commit]
    split <;> rfl
  unfold WholeRead.write
  simp only [enqueued, commitWith, committed]
  refine ⟨by rw [sent]; exact after.1, by simp [sent, writing.hash], ?_, after.2, by simp [sent], ?_⟩
  · simp [writing.produced]
  · intro outcome member
    rcases List.mem_append.mp member with member | member
    · exact writing.incomplete outcome member
    · simp at member

/-- Events other than a write leave what was written as it is. -/
private theorem Writing.congr {event : Event} {next : WholeRead} (writing : Writing events read)
    (sent : written [event] = []) (other : ∀ outcome, event ≠ .complete outcome)
    (conveys : next.stream.Conveys (written events))
    (readable : next.stream.status = .readable) (hash : next.hash = read.hash)
    (produced : next.produced = read.produced) (commit : next.commit = read.commit) :
    Writing (events ++ [event]) next := by
  have same : written (events ++ [event]) = written events := by simp [sent]
  refine ⟨by rw [same]; exact conveys, by rw [same, hash, writing.hash],
    by rw [produced, hash, writing.produced], readable, by rw [same, commit, writing.commit], ?_⟩
  intro outcome member
  rcases List.mem_append.mp member with member | member
  · exact writing.incomplete outcome member
  · exact other outcome (List.mem_singleton.mp member).symm

/-- Until the completion, a run only writes. -/
private theorem writing_of_play
    (ran : (machine platform path rev totalSize).play start events = some final)
    (unsettled : final.settled = false) : Writing events final := by
  refine Machine.run_induct (fun events read => read.settled = false → Writing events read)
    (fun _ => writing_start) ?_ ran unsettled
  intro events reached event next _ writing stepped unsettled
  cases event with
  | write chunk =>
      simp only [machine] at stepped
      split at stepped
      · cases stepped
      · next open_ =>
          cases stepped
          simp only [Bool.or_eq_true, not_or, Bool.not_eq_true] at open_
          exact (writing open_.1).write
  | complete outcome =>
      simp only [machine] at stepped
      split at stepped
      · cases stepped
      · cases stepped
        rw [settled_complete] at unsettled
        cases unsettled
  | pull =>
      simp only [machine] at stepped
      split at stepped
      · cases stepped
        have before := writing unsettled
        exact before.congr rfl nofun before.conveys before.readable rfl rfl rfl
      · cases stepped
  | read =>
      simp only [machine] at stepped
      split at stepped
      · cases stepped
        have before := writing unsettled
        refine before.congr rfl nofun before.conveys.read ?_ rfl rfl rfl
        rcases reached.stream.status_read with same | ⟨closing, _⟩
        · exact same.trans before.readable
        · rw [before.readable] at closing
          cases closing
      · cases stepped

/-- A read that has failed: nothing reaches its consumer any more. -/
private structure Failed (before : WholeRead) (read : WholeRead) : Prop where
  settled : read.settled = true
  errored : ∃ error, read.stream.status = .errored error
  delivered : read.stream.delivered = before.stream.delivered
  conveys : ∃ sent, read.stream.Conveys sent
  commit : ∃ error, read.commit = some (before.commit.getD (.error error))

private theorem Failed.unclean {before : WholeRead} (failed : Failed before read) :
    ¬EndsCleanly read := by
  rcases failed.errored with ⟨error, errored⟩
  rcases failed.conveys with ⟨sent, conveys⟩
  rintro ⟨_, ended⟩
  rw [(conveys.drain_errored errored _).1] at ended
  cases ended

private theorem Writing.failWith (writing : Writing events read) (error : Thrown) :
    Failed read (read.failWith error) := by
  have failed : (read.stream.fail error).status = .errored error ∧
      (read.stream.fail error).delivered = read.stream.delivered := by
    rw [ReadableStream.fail, writing.readable]
    exact ⟨rfl, rfl⟩
  exact ⟨rfl, ⟨error, failed.1⟩, failed.2, ⟨_, writing.conveys.fail error⟩, error, rfl⟩

private theorem Writing.complete_fails {outcome : Except Thrown Unit}
    (writing : Writing events read)
    (fails : ¬Succeeds platform rev totalSize (written events).flatten outcome) :
    Failed read (read.complete platform path rev totalSize outcome) := by
  unfold complete
  cases outcome with
  | error error => exact writing.failWith _
  | ok done =>
      rw [← writing.hash, ← checkDownload_eq_none_iff path, ← writing.produced] at fails
      dsimp only
      split
      · exact writing.failWith _
      · next passed => exact absurd passed fails

private theorem Failed.step {before next : WholeRead} {event : Event}
    (failed : Failed before read)
    (stepped : machine platform path rev totalSize read event = some next) :
    Failed before next ∧ written [event] = [] := by
  rcases failed.errored with ⟨error, errored⟩
  cases event with
  | write chunk => simp [machine, failed.settled] at stepped
  | complete outcome => simp [machine, failed.settled] at stepped
  | pull => simp [machine, ReadableStream.pulls, errored] at stepped
  | read =>
      simp only [machine] at stepped
      split at stepped
      · cases stepped
        rcases failed.conveys with ⟨sent, conveys⟩
        have drained := conveys.drain_errored errored 0
        refine ⟨⟨failed.settled, ⟨error, ?_⟩, drained.2.trans failed.delivered,
          ⟨sent, conveys.read⟩, failed.commit⟩, rfl⟩
        rcases read.stream.status_read with same | ⟨closing, _⟩
        · exact same.trans errored
        · rw [errored] at closing
          cases closing
      · cases stepped

/-- A read whose download has succeeded: the rest is up to its consumer. -/
private structure Closed (sent : List Bytes) (read : WholeRead) : Prop where
  settled : read.settled = true
  closed : read.stream.status = .closing ∨ read.stream.status = .closed
  conveys : read.stream.Conveys sent
  commit : read.commit = some (.ok ())

private theorem Writing.complete_succeeds {outcome : Except Thrown Unit}
    (writing : Writing events read)
    (succeeds : Succeeds platform rev totalSize (written events).flatten outcome) :
    Closed (written events) (read.complete platform path rev totalSize outcome) := by
  have passed := succeeds
  rw [succeeds.1, ← writing.hash, ← checkDownload_eq_none_iff path,
    ← writing.produced] at passed
  rw [succeeds.1]
  simp only [complete, passed, commitWith]
  refine ⟨rfl, ?_, writing.conveys.close, ?_⟩
  · simp only [ReadableStream.close, writing.readable]
    split
    · exact .inr rfl
    · exact .inl rfl
  · simp only [writing.commit]
    split <;> rfl

private theorem Closed.step {sent : List Bytes} {next : WholeRead} {event : Event}
    (closed : Closed sent read)
    (stepped : machine platform path rev totalSize read event = some next) :
    Closed sent next ∧ written [event] = [] := by
  cases event with
  | write chunk => simp [machine, closed.settled] at stepped
  | complete outcome => simp [machine, closed.settled] at stepped
  | pull =>
      rcases closed.closed with status | status <;>
        simp [machine, ReadableStream.pulls, status] at stepped
  | read =>
      simp only [machine] at stepped
      split at stepped
      · cases stepped
        refine ⟨⟨closed.settled, ?_, closed.conveys.read, closed.commit⟩, rfl⟩
        rcases read.stream.status_read with same | ⟨_, ended⟩
        · rcases closed.closed with status | status
          · exact .inl (same.trans status)
          · exact .inr (same.trans status)
        · exact .inr ended
      · cases stepped

/-- What a completion has settled stays so for the rest of the run. -/
private theorem settled_run {holds : WholeRead → Prop}
    (step : ∀ read event next, holds read →
      machine platform path rev totalSize read event = some next →
      holds next ∧ written [event] = [])
    (begins : holds read)
    (ran : (machine platform path rev totalSize).play read later = some final) :
    holds final ∧ written later = [] := by
  refine Machine.run_induct (fun later read => holds read ∧ written later = []) ⟨begins, rfl⟩ ?_ ran
  intro events reached event next _ held stepped
  have kept := step reached event next held.1 stepped
  exact ⟨kept.1, by rw [written_append, held.2, kept.2]; rfl⟩

/-- The run up to the completion, the completion, and what comes after. -/
private theorem split_at_completion {before after : List Event} {outcome : Except Thrown Unit}
    (ran : (machine platform path rev totalSize).play start
      (before ++ .complete outcome :: after) = some final) :
    ∃ reached, (machine platform path rev totalSize).play start before = some reached ∧
      Writing before reached ∧
      (machine platform path rev totalSize).play
        (reached.complete platform path rev totalSize outcome) after = some final := by
  rcases Machine.play_append_eq_some.mp ran with ⟨reached, begun, rest⟩
  simp only [Machine.play, machine] at rest
  split at rest
  · cases rest
  · next unsettled =>
      exact ⟨reached, begun, writing_of_play begun (by simpa using unsettled), rest⟩

/-- A run that is not settled has not completed, and any other has once. -/
private theorem exists_completion
    (ran : (machine platform path rev totalSize).play start events = some final)
    (settled : final.settled = true) :
    ∃ before outcome after, events = before ++ .complete outcome :: after := by
  refine Machine.run_induct (fun events read => read.settled = true →
    ∃ before outcome after, events = before ++ .complete outcome :: after)
    (fun absurd => by cases absurd) ?_ ran settled
  intro events reached event next _ completed stepped settled
  have extend : reached.settled = true →
      ∃ before outcome after, events ++ [event] = before ++ .complete outcome :: after := by
    intro already
    rcases completed already with ⟨before, outcome, after, rfl⟩
    exact ⟨before, outcome, after ++ [event], by simp⟩
  cases event with
  | write chunk =>
      simp only [machine] at stepped
      split at stepped
      · cases stepped
      · next open_ =>
          cases stepped
          refine extend ?_
          unfold WholeRead.write at settled
          split at settled <;> exact settled
  | complete outcome => exact ⟨events, outcome, [], rfl⟩
  | pull =>
      simp only [machine] at stepped
      split at stepped
      · cases stepped
        exact extend settled
      · cases stepped
  | read =>
      simp only [machine] at stepped
      split at stepped
      · cases stepped
        exact extend settled
      · cases stepped

/-- The completion of a run, and what has been written up to it. -/
private structure Completed (platform : Platform) (path : JsString) (rev : Revision)
    (totalSize : Nat) (before : List Event) (outcome : Except Thrown Unit) (after : List Event)
    (final : WholeRead) : Prop where
  sent : written (before ++ .complete outcome :: after) = written before
  only : ∀ other, .complete other ∈ before ++ .complete outcome :: after → other = outcome
  ends : (Succeeds platform rev totalSize (written before).flatten outcome ∧
      Closed (written before) final) ∨
    (¬Succeeds platform rev totalSize (written before).flatten outcome ∧
      ∃ reached, (machine platform path rev totalSize).play start before = some reached ∧
        Writing before reached ∧ Failed reached final)

private theorem settled_complete_ne {holds : WholeRead → Prop}
    (settled : ∀ read, holds read → read.settled = true)
    (step : ∀ read event next, holds read →
      machine platform path rev totalSize read event = some next →
      holds next ∧ written [event] = [])
    (begins : holds read) (outcome : Except Thrown Unit)
    (ran : (machine platform path rev totalSize).play read later = some final) :
    .complete outcome ∉ later := by
  intro member
  rcases List.append_of_mem member with ⟨before, after, rfl⟩
  rcases Machine.play_append_eq_some.mp ran with ⟨reached, begun, rest⟩
  have held := (settled_run step begins begun).1
  simp [Machine.play, machine, settled reached held] at rest

private theorem completed_of_play {before after : List Event} {outcome : Except Thrown Unit}
    (ran : (machine platform path rev totalSize).play start
      (before ++ .complete outcome :: after) = some final) :
    Completed platform path rev totalSize before outcome after final := by
  rcases split_at_completion ran with ⟨reached, begun, writing, rest⟩
  have later : ∀ {holds : WholeRead → Prop}, (∀ read, holds read → read.settled = true) →
      (∀ read event next, holds read →
        machine platform path rev totalSize read event = some next →
        holds next ∧ written [event] = []) →
      holds (reached.complete platform path rev totalSize outcome) →
      holds final ∧ written (before ++ .complete outcome :: after) = written before ∧
        ∀ other, .complete other ∈ before ++ .complete outcome :: after → other = outcome := by
    intro holds settled step begins
    have run := settled_run step begins rest
    refine ⟨run.1, ?_, fun other member => ?_⟩
    · rw [written_append]
      have none : written (.complete outcome :: after) = written after := rfl
      rw [none, run.2, List.append_nil]
    · rcases List.mem_append.mp member with member | member
      · exact absurd member (writing.incomplete other)
      · rcases List.mem_cons.mp member with equal | member
        · cases equal
          rfl
        · exact absurd member (settled_complete_ne settled step begins other rest)
  by_cases succeeds : Succeeds platform rev totalSize (written before).flatten outcome
  · have run := later (fun _ closed => Closed.settled closed)
      (fun _ _ _ closed stepped => closed.step stepped) (writing.complete_succeeds succeeds)
    exact ⟨run.2.1, run.2.2, .inl ⟨succeeds, run.1⟩⟩
  · have run := later (fun _ failed => Failed.settled failed)
      (fun _ _ _ failed stepped => failed.step stepped) (writing.complete_fails succeeds)
    exact ⟨run.2.1, run.2.2, .inr ⟨succeeds, reached, begun, writing, run.1⟩⟩

private theorem keeps_of_writing (writing : Writing events final) :
    Keeps platform rev totalSize events final where
  inOrder := writing.conveys.begins
  whole ends := absurd ends.2 (writing.conveys.drain_readable writing.readable _)
  cleanly := iff_of_false
    (fun ends => writing.conveys.drain_readable writing.readable _ ends.2)
    fun ⟨outcome, member, _⟩ => writing.incomplete outcome member
  rejects outcome member := absurd member (writing.incomplete outcome)

private theorem keeps_of_closed {outcome : Except Thrown Unit}
    (completed : .complete outcome ∈ events)
    (only : ∀ other, .complete other ∈ events → other = outcome)
    (succeeds : Succeeds platform rev totalSize (written events).flatten outcome)
    (closed : Closed (written events) final) : Keeps platform rev totalSize events final where
  inOrder := closed.conveys.begins
  whole _ := (closed.conveys.drain_closed closed.closed).2
  cleanly := iff_of_true ⟨closed.commit, (closed.conveys.drain_closed closed.closed).1⟩
    ⟨outcome, completed, succeeds⟩
  rejects other member fails := absurd (only other member ▸ succeeds) fails

/-- A failed read keeps its promise if it was rejected or a byte was delivered. -/
private theorem keeps_iff_of_failed {before : List Event} {reached : WholeRead}
    {outcome : Except Thrown Unit} (completed : .complete outcome ∈ events)
    (only : ∀ other, .complete other ∈ events → other = outcome)
    (fails : ¬Succeeds platform rev totalSize (written events).flatten outcome)
    (writing : Writing before reached) (sent : written events = written before)
    (failed : Failed reached final) :
    Keeps platform rev totalSize events final ↔
      (written before = [] ∨ reached.stream.delivered.flatten ≠ []) := by
  rcases failed.commit with ⟨thrown, commit⟩
  have unclean := failed.unclean
  constructor
  · intro keeps
    by_contra neither
    rw [not_or, not_not] at neither
    rcases keeps.rejects outcome completed fails (by rw [failed.delivered]; exact neither.2) with
      ⟨other, rejected⟩
    rw [commit, writing.commit, if_neg neither.1] at rejected
    cases rejected
  · intro inTime
    refine ⟨?_, fun ends => absurd ends unclean, iff_of_false unclean ?_, ?_⟩
    · rw [failed.delivered, sent]
      exact writing.conveys.begins
    · rintro ⟨other, member, succeeds⟩
      exact fails (only other member ▸ succeeds)
    · intro _ _ _ undelivered
      rw [failed.delivered] at undelivered
      rcases inTime with none | delivered
      · exact ⟨thrown, by rw [commit, writing.commit, if_pos none]; rfl⟩
      · exact absurd undelivered delivered

/-- A read keeps its promises exactly when its download fails in time, if at all. -/
theorem keeps_iff_failsInTime
    (ran : (machine platform path rev totalSize).play start events = some final) :
    Keeps platform rev totalSize events final ↔
      FailsInTime platform path rev totalSize events := by
  cases settled : final.settled with
  | false =>
      have writing := writing_of_play ran settled
      refine iff_of_true (keeps_of_writing writing) fun before outcome after _ equal => ?_
      exact absurd (by simp [equal]) (writing.incomplete outcome)
  | true =>
      rcases exists_completion ran settled with ⟨before, outcome, after, rfl⟩
      have completed := completed_of_play ran
      have member : .complete outcome ∈ before ++ .complete outcome :: after := by simp
      rcases completed.ends with ⟨succeeds, closed⟩ | ⟨fails, reached, begun, writing, failed⟩
      · rw [← completed.sent] at succeeds closed
        refine iff_of_true (keeps_of_closed member completed.only succeeds closed) ?_
        intro before' outcome' after' _ equal _ fails
        have other := completed_of_play (equal ▸ ran)
        rw [completed.only outcome' (by rw [equal]; simp), ← other.sent, ← equal] at fails
        exact absurd succeeds fails
      · have keeps := keeps_iff_of_failed member completed.only
          (by rw [completed.sent]; exact fails) writing completed.sent failed
        refine ⟨fun kept before' outcome' after' reached' equal begun' fails' => ?_,
          fun inTime => keeps.mpr (inTime before outcome after reached rfl begun fails)⟩
        rw [equal] at ran kept
        have other := completed_of_play ran
        rcases other.ends with ⟨succeeds, _⟩ | ⟨_, same, again, writing', failed'⟩
        · exact absurd succeeds fails'
        · rw [begun'] at again
          cases again
          exact (keeps_iff_of_failed (by simp) other.only (by rw [other.sent]; exact fails')
            writing' other.sent failed').mp kept

/-- A consumer that comes to a clean end has got as many bytes as the file has. -/
theorem length_of_endsCleanly
    (ran : (machine platform path rev totalSize).play start events = some final)
    (ends : EndsCleanly final) :
    (final.stream.drain (final.stream.queue.length + 1)).delivered.flatten.length = totalSize := by
  cases settled : final.settled with
  | false =>
      have writing := writing_of_play ran settled
      exact absurd ends.2 (writing.conveys.drain_readable writing.readable _)
  | true =>
      rcases exists_completion ran settled with ⟨before, outcome, after, rfl⟩
      rcases (completed_of_play ran).ends with ⟨succeeds, closed⟩ | ⟨_, reached, _, _, failed⟩
      · rw [(closed.conveys.drain_closed closed.closed).2]
        exact succeeds.2.1
      · exact absurd ends failed.unclean

/-- If what was written are the first bytes of a content of that size, a consumer that comes to a
clean end has got all of it. -/
theorem delivered_of_endsCleanly {content : Bytes}
    (ran : (machine platform path rev content.length).play start events = some final)
    (begins : (written events).flatten <+: content) (ends : EndsCleanly final) :
    (final.stream.drain (final.stream.queue.length + 1)).delivered.flatten = content := by
  have length := length_of_endsCleanly ran ends
  cases settled : final.settled with
  | false =>
      have writing := writing_of_play ran settled
      exact absurd ends.2 (writing.conveys.drain_readable writing.readable _)
  | true =>
      rcases exists_completion ran settled with ⟨before, outcome, after, rfl⟩
      have completed := completed_of_play ran
      rw [completed.sent] at begins
      rcases completed.ends with ⟨_, closed⟩ | ⟨_, reached, _, _, failed⟩
      · rw [(closed.conveys.drain_closed closed.closed).2] at length ⊢
        exact begins.eq_of_length length
      · exact absurd ends failed.unclean

end Runs

/-! ## A failure that comes after an empty chunk -/

def unhashedRevision : Revision := ⟨some 5, none, false, none⟩

/-- An empty chunk commits the read; it is taken, and the download fails. -/
def lateFailure : List Event :=
  [.write [], .read, .complete (.error (.sdk ⟨.server, "connection lost"⟩))]

/-- The read has returned its stream, of which not a byte was delivered. -/
theorem lateFailure_hidden :
    ∃ read, (machine (.plain []) "/a" unhashedRevision 5).play start lateFailure = some read ∧
      ¬Keeps (.plain []) unhashedRevision 5 lateFailure read := by
  refine ⟨_, rfl, fun keeps => ?_⟩
  rcases keeps.rejects (.error (.sdk ⟨.server, "connection lost"⟩)) (by simp [lateFailure])
    (fun succeeds => nomatch succeeds.1) rfl with ⟨error, rejected⟩
  cases rejected

def plainRead : List Event := [.write [104, 101, 108, 108, 111], .complete (.ok ()), .read, .read]

theorem plainRead_keeps :
    ∃ read, (machine (.plain []) "/a" unhashedRevision 5).play start plainRead = some read ∧
      Keeps (.plain []) unhashedRevision 5 plainRead read := by
  have ran : (machine (.plain []) "/a" unhashedRevision 5).play start plainRead =
      some _ := rfl
  refine ⟨_, ran, (keeps_iff_failsInTime ran).mpr fun before outcome after _ equal _ fails => ?_⟩
  rcases before with _ | ⟨first, _ | ⟨second, rest⟩⟩
  · cases equal
  · simp only [plainRead, List.cons_append, List.nil_append, List.cons.injEq,
      Event.complete.injEq] at equal
    rcases equal with ⟨rfl, rfl, _⟩
    exact absurd ⟨rfl, rfl, nofun⟩ fails
  · simp only [plainRead, List.cons_append, List.cons.injEq] at equal
    have member : Event.complete outcome ∈ [Event.read, Event.read] := by
      rw [equal.2.2]
      simp
    simp at member

end WholeRead

end DriveWebdav
