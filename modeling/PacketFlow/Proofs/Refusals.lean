import PacketFlow.Proofs.Reentry

/-! What a send hands back when streams fail.

A failure is noted in the report of the send that made the call, behind those noted before, and it
comes out when the send returns. Taken together, the reports of a queue hand back exactly the events
whose calls failed, in the order of the calls and each with the error of its own call.
-/

set_option autoImplicit false

namespace PacketFlow

/-- The failures that the report of an open send of a queue has noted. -/
def Frame.failed (queue : QueueId) (frame : Frame) : List (Event × MarkerFailure) :=
  (frame.report? queue).toList.flatMap Report.failed

def Pipeline.failed (p : Pipeline) (queue : QueueId) : List (Event × MarkerFailure) :=
  p.frames.flatMap (Frame.failed queue)

namespace Turn

/-- The failures that a turn of a queue reports. -/
def failed (queue : QueueId) (turn : Turn) : List (Event × MarkerFailure) :=
  (turn.reports queue).flatMap Report.failed

/-- The event of a call of a queue that is answered with an error, and the error. -/
def refused (queue : QueueId) (turn : Turn) : List (Event × MarkerFailure) :=
  match turn.action with
  | .answer outcome => (turn.answered queue).flatMap fun answered => answered.2.refused outcome
  | _ => []

end Turn

namespace Pipeline

theorem failed_congr {p next : Pipeline} (frames : next.frames = p.frames) (queue : QueueId) :
    next.failed queue = p.failed queue := by
  rw [failed, failed, frames]

@[simp] theorem failed_markers (p : Pipeline) (markers : Markers) (queue : QueueId) :
    failed { p with markers := markers } queue = p.failed queue := rfl

@[simp] theorem failed_revise (p : Pipeline) (marker : MarkerId) (change : Marker.Change)
    (queue : QueueId) : (p.revise marker change).failed queue = p.failed queue := rfl

@[simp] theorem failed_hold (p : Pipeline) (queue other : QueueId) (backlog : Backlog)
    (markers : Markers) : (p.hold queue backlog markers).failed other = p.failed other := rfl

@[simp] theorem failed_prepared (p : Pipeline) (action : Action) (queue : QueueId) :
    (p.prepared action).failed queue = p.failed queue :=
  failed_congr (frames_prepared ..) queue

@[simp] theorem failed_begin (p : Pipeline) (queue other : QueueId) :
    (p.begin queue).failed other = p.failed other := rfl

@[simp] theorem failed_mark (p : Pipeline) (queue other : QueueId) :
    (p.mark queue).failed other = p.failed other := rfl

@[simp] theorem failed_delivered (p : Pipeline) (parcel : Parcel) (outcome : Outcome)
    (queue : QueueId) : (p.delivered parcel outcome).failed queue = p.failed queue :=
  failed_congr (by cases outcome <;> rfl) queue

theorem failed_push (p : Pipeline) (frame : Frame) (queue : QueueId) :
    (p.push frame).failed queue = frame.failed queue ++ p.failed queue := rfl

theorem failed_popped {p : Pipeline} {frame : Frame} {outer : List Frame}
    (framed : p.frames = frame :: outer) (queue : QueueId) :
    p.failed queue = frame.failed queue ++ p.popped.failed queue := by
  simp [failed, popped, framed]

theorem failed_of_free {p : Pipeline} {queue : QueueId} (free : p.sends queue = 0) :
    p.failed queue = [] :=
  flatMap_of_free free (fun _ => rfl) fun _ _ _ _ _ different => by
    simp [Frame.failed, Frame.report?, different]

/-- A look notes no failure: the report keeps those it has, or hands them over. -/
theorem advance_failed (p : Pipeline) (queue other : QueueId) (now : UInt64) (report : Report)
    (notices : List Notice) :
    let step := p.advance queue now report notices
    (if queue = other then step.reply.report?.toList.flatMap Report.failed else []) ++
        step.state.failed other =
      (if queue = other then report.failed else []) ++ p.failed other := by
  have looked : (p.looked queue now).failed other = p.failed other := rfl
  have rested : ((p.looked queue now).rest queue).failed other = p.failed other := rfl
  dsimp only
  cases batch : (p.released queue now).batch with
  | nil => simp [advance_of_nil batch, rested, Reply.report?, Report.absorb]
  | cons parcel waiting =>
    rw [advance_of_cons batch, transmit, failed_push, looked]
    by_cases same : queue = other <;>
      simp [Frame.failed, Frame.report?, Reply.report?, Report.absorb, same]

end Pipeline

open Pipeline

section answers

variable {p : Pipeline} {other : QueueId} {now : UInt64} {parcel : Parcel} {waiting : List Parcel}
  {report : Report} {outer : List Frame}
  (framed : p.frames = .drain other now parcel waiting report :: outer)

include framed

theorem subject?_of_drain (outcome : Outcome) : p.subject? (.answer outcome) = some other := by
  simp [subject?, framed, Frame.queue?]

theorem refused_of_drain (queue : QueueId) (outcome : Outcome) :
    Turn.refused queue ⟨p, .answer outcome⟩ =
      if other = queue then parcel.refused outcome else [] := by
  by_cases same : other = queue <;>
    simp [Turn.refused, Turn.answered, framed, Frame.atStream, same]

theorem failed_of_drain (queue : QueueId) :
    p.failed queue = (if other = queue then report.failed else []) ++ p.popped.failed queue := by
  rw [failed_popped framed]
  by_cases same : other = queue <;> simp [Frame.failed, Frame.report?, same]

end answers

/-- What a turn reports leaves the open reports, and what it is refused comes into one. -/
theorem Turn.refuses {turn : Turn} (guarded : turn.state.Guarded) (queue : QueueId) :
    turn.failed queue ++ turn.step.state.failed queue =
      turn.state.failed queue ++ turn.refused queue := by
  obtain ⟨p, action⟩ := turn
  have effect := step_effect guarded.unlocked action
  simp only [failed, reports, step] at *
  generalize p.step action = step at effect ⊢
  cases effect with
  | register | revise | send | refuse | enqueue | move | stay | evict | remove | miss | count =>
    simp [subject?, Reply.report?, refused, failed_push, Frame.failed, Frame.report?]
  | @withhold action other ticket now progress =>
    rcases progress with rfl | rfl <;>
      by_cases same : other = queue <;> simp [subject?, Reply.report?, refused, same]
  | @wait action other now asked =>
    rcases asks?_cases asked with ⟨ticket, rfl⟩ | ⟨ticket, rfl⟩ | rfl <;>
      by_cases same : other = queue <;> simp [subject?, Reply.report?, refused, same]
  | @begin action other now asked idle =>
    have looked := advance_failed ((p.prepared action).begin other) other queue now {} []
    rw [failed_begin, failed_prepared] at looked
    rcases asks?_cases asked with ⟨ticket, rfl⟩ | ⟨ticket, rfl⟩ | rfl <;>
      by_cases same : other = queue <;> simp_all [subject?, refused]
  | idle outcome closed => simp [subject?, refused, answered, closed]
  | @sent parcel outer outcome framed =>
    simp [subject?, framed, Frame.queue?, refused, answered, Frame.atStream,
      failed_popped framed, Frame.failed, Frame.report?]
  | @next other now parcel next waiting report outer outcome framed =>
    have free := failed_of_free (guarded.popped_drain framed).free
    have called : ((p.popped.delivered parcel outcome).transmit other now next waiting
        (p.popped.recorded parcel outcome report)
        (p.popped.noted parcel outcome)).state.failed queue =
          (if other = queue then report.failed ++ parcel.refused outcome else []) ++
            p.popped.failed queue := by
      rw [failed_of_drain rfl, failed_recorded]
      exact congrArg _ (failed_delivered ..)
    rw [called, subject?_of_drain framed, refused_of_drain framed, failed_of_drain framed]
    by_cases same : other = queue
    · subst same
      simp [free, transmit, Reply.report?]
    · simp [same]
  | @last other now parcel report outer outcome framed =>
    have free := failed_of_free (guarded.popped_drain framed).free
    have looked := advance_failed (p.popped.delivered parcel outcome) other queue now
      (p.popped.recorded parcel outcome report) (p.popped.noted parcel outcome)
    rw [failed_delivered, failed_recorded] at looked
    rw [subject?_of_drain framed, refused_of_drain framed, failed_of_drain framed]
    by_cases same : other = queue
    · subst same
      simpa [free] using looked
    · simpa [same] using looked

theorem Run.refuses {history : List Turn} {p : Pipeline} (run : Run {} history p)
    (queue : QueueId) :
    history.flatMap (Turn.failed queue) ++ p.failed queue =
      history.flatMap (Turn.refused queue) := by
  induction run with
  | start => rfl
  | @perform history p run action ih =>
    have last := @Turn.refuses ⟨p, action⟩ run.guarded queue
    rw [List.flatMap_append, List.flatMap_append, List.flatMap_singleton, List.flatMap_singleton,
      ← ih, List.append_assoc, List.append_assoc, ← last]
    rfl

end PacketFlow
