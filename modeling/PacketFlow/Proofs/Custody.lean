import PacketFlow.Proofs.Entries

/-! Who has an event.

A queue has the events it holds, those its send has taken out and not yet had answered, and those
in the report of that send. One action moves events between these places, takes some in and lets
some go; the law here is that it keeps the books.
-/

set_option autoImplicit false

namespace PacketFlow

/-- How many of some events have a number. -/
def times (id : EventId) (events : List Event) : Nat := events.countP fun event => event.id = id

@[simp] theorem times_nil (id : EventId) : times id [] = 0 := rfl

@[simp] theorem times_cons (id : EventId) (event : Event) (events : List Event) :
    times id (event :: events) = times id events + if event.id = id then 1 else 0 := by
  simp [times, List.countP_cons]

@[simp] theorem times_append (id : EventId) (first second : List Event) :
    times id (first ++ second) = times id first + times id second := by
  simp [times]

theorem times_perm {first second : List Event} (same : first.Perm second) (id : EventId) :
    times id first = times id second :=
  same.countP_eq _

theorem times_pos {id : EventId} {events : List Event} :
    0 < times id events ↔ ∃ event ∈ events, event.id = id := by
  simp [times, List.countP_pos_iff]

/-- An event that occurs at most once is there or not. -/
theorem times_eq_ite {α : Type} {items : List α} (event : α → Event) {id : EventId}
    (once : times id (items.map event) ≤ 1) [Decidable (∃ item ∈ items, (event item).id = id)] :
    times id (items.map event) = if ∃ item ∈ items, (event item).id = id then 1 else 0 := by
  split
  next present =>
    obtain ⟨item, member, numbered⟩ := present
    have some_time := times_pos.mpr ⟨event item, List.mem_map_of_mem member, numbered⟩
    omega
  next absent =>
    apply Nat.eq_zero_of_not_pos
    intro some_time
    obtain ⟨there, member, numbered⟩ := times_pos.mp some_time
    obtain ⟨item, inside, rfl⟩ := List.mem_map.mp member
    exact absent ⟨item, inside, numbered⟩

/-- The events that a notice says were dropped. -/
def Notice.dropped? : Notice → Option EventId
  | .droppingCancelled event => some event
  | _ => none

/-- What reports say together, by one of their counters. -/
def Report.total (count : Report → Nat) : List Report → Nat
  | [] => 0
  | report :: reports => count report + total count reports

@[simp] theorem Report.total_nil (count : Report → Nat) : total count [] = 0 := rfl

@[simp] theorem Report.total_cons (count : Report → Nat) (report : Report) (reports : List Report) :
    total count (report :: reports) = count report + total count reports := rfl

@[simp] theorem Report.total_append (count : Report → Nat) (one two : List Report) :
    total count (one ++ two) = total count one + total count two := by
  induction one with
  | nil => simp
  | cons report rest ih => rw [List.cons_append, total_cons, total_cons, ih, Nat.add_assoc]

def Report.returned (report : Report) : List Event := report.expired ++ report.failed.map (·.1)

def Reply.returned : Reply → List Event
  | .reported report => report.returned
  | .evicted events => events
  | .removed event => event.toList
  | _ => []

def Reply.report? : Reply → Option Report
  | .reported report => some report
  | _ => none

def Parcel.accepted (parcel : Parcel) : Outcome → List Event
  | .ok () => [parcel.event]
  | .error _ => []

/-- The event that is handed back with the reason when the stream fails. -/
def Parcel.refused (parcel : Parcel) : Outcome → List (Event × MarkerFailure)
  | .ok () => []
  | .error failure => [(parcel.event, .transmission failure)]

/-- The parcels that a frame of a queue has at the stream or still to transmit. -/
def Frame.parcels (queue : QueueId) : Frame → List Parcel
  | .send _ => []
  | .drain other _ parcel rest _ => if other = queue then parcel :: rest else []

def Frame.report? (queue : QueueId) : Frame → Option Report
  | .send _ => none
  | .drain other _ _ _ report => if other = queue then some report else none

def Frame.custody (queue : QueueId) (frame : Frame) : List Event :=
  (frame.parcels queue).map (·.event) ++ (frame.report? queue).toList.flatMap Report.returned

namespace Pipeline

/-- The batch of the send of a queue that is under way. -/
def inFlight (p : Pipeline) (queue : QueueId) : List Parcel :=
  p.frames.flatMap (Frame.parcels queue)

def openReports (p : Pipeline) (queue : QueueId) : List Report :=
  p.frames.filterMap (Frame.report? queue)

/-- The events that a queue or a send of it has. -/
def custody (p : Pipeline) (queue : QueueId) : List Event :=
  (p.entries queue).map (·.2) ++ p.frames.flatMap (Frame.custody queue)

def Stores (p : Pipeline) (queue : QueueId) (id : EventId) : Prop :=
  ∃ entry ∈ p.entries queue, entry.2.id = id

/-- An event of a number is in the batch of the send of a queue that is under way. -/
def Transmits (p : Pipeline) (queue : QueueId) (id : EventId) : Prop :=
  ∃ parcel ∈ p.inFlight queue, parcel.event.id = id

instance (p : Pipeline) (queue : QueueId) (id : EventId) : Decidable (p.Stores queue id) :=
  inferInstanceAs (Decidable (∃ entry ∈ p.entries queue, entry.2.id = id))

instance (p : Pipeline) (queue : QueueId) (id : EventId) : Decidable (p.Transmits queue id) :=
  inferInstanceAs (Decidable (∃ parcel ∈ p.inFlight queue, parcel.event.id = id))

/-- The queue that an action works on. -/
def subject? (p : Pipeline) : Action → Option QueueId
  | .enqueue queue _ | .reposition queue _ | .complete queue .. | .signal queue .. => some queue
  | .trySend queue _ | .evict queue _ | .remove queue _ | .count queue => some queue
  | .answer _ => p.frames.head?.bind Frame.queue?
  | .register _ | .revise .. | .send .. => none

end Pipeline

namespace Turn

def entered (queue : QueueId) (turn : Turn) : List Event :=
  match turn.action, turn.step.reply with
  | .enqueue other event, .queued (.ok _) => if other = queue then [event] else []
  | _, _ => []

/-- The event that a stream accepts in a turn from the send of a queue. -/
def sent (queue : QueueId) (turn : Turn) : List Event :=
  match turn.action, turn.state.frames with
  | .answer outcome, .drain other _ parcel _ _ :: _ =>
    if other = queue then parcel.accepted outcome else []
  | _, _ => []

/-- The events that are dropped as cancelled in a turn of a queue. -/
def dropped (queue : QueueId) (turn : Turn) : List EventId :=
  if turn.state.subject? turn.action = some queue then
    turn.step.notices.filterMap Notice.dropped?
  else []

def returned (queue : QueueId) (turn : Turn) : List Event :=
  if turn.state.subject? turn.action = some queue then turn.step.reply.returned else []

def reports (queue : QueueId) (turn : Turn) : List Report :=
  if turn.state.subject? turn.action = some queue then turn.step.reply.report?.toList else []

/-- An event is put into a queue only by who has it, so no queue does. -/
def Owned (turn : Turn) : Prop :=
  ∀ queue event, turn.action = .enqueue queue event →
    ∀ other, ∀ held ∈ turn.state.custody other, held.id ≠ event.id

end Turn

/-- What a release takes out is transmitted, dropped or rejected. -/
theorem Release.conserves (now : UInt64) (id : EventId) (entries : List Entry) (markers : Markers)
    (marked : ∀ entry ∈ entries, entry.2.marker ≠ none) :
    let released := heads now entries markers
    times id (entries.map (·.2)) =
      times id (released.left.map (·.2)) + times id (released.batch.map (·.event)) +
        (released.notices.filterMap Notice.dropped?).count id + times id released.expired := by
  induction entries generalizing markers with
  | nil => rfl
  | cons entry rest ih =>
    have later := ih (markers.clearQueued entry.2) fun other member =>
      marked other (List.mem_cons_of_mem _ member)
    dsimp only at later ⊢
    obtain ⟨marker, tagged⟩ := Option.ne_none_iff_exists'.mp (marked entry List.mem_cons_self)
    rw [heads_cons, List.map_cons, times_cons, later]
    cases fated : fate now markers entry.2 with
    | stray =>
      -- Every entry has a marker, so nothing is dropped in silence.
      rw [fate_eq_stray.mp fated] at tagged
      cases tagged
    | rejected =>
      simp [tagged, List.filterMap_cons, Notice.dropped?]
      omega
    | dropped =>
      simp [Notice.dropped?, List.count_cons]
      omega
    | released =>
      simp [parcel?, tagged]
      omega
    | held =>
      simp [← later]

/-- The notices of a release name the packets that it drops, in order. -/
theorem Release.dropped_notices (now : UInt64) (entries : List Entry) (markers : Markers) :
    (heads now entries markers).notices.filterMap Notice.dropped? =
      ((taken now entries markers).filter fun event => fate now markers event = .dropped).map
        (·.id) := by
  induction entries generalizing markers with
  | nil => rfl
  | cons entry rest ih =>
    have later := ih (markers.clearQueued entry.2)
    rw [heads_cons]
    cases fated : fate now markers entry.2 with
    | held => rw [taken_cons_of_held fated]; rfl
    | rejected =>
      rw [taken_cons (by simp [fated])]
      cases tagged : entry.2.marker <;>
        simp [List.filterMap_cons, Notice.dropped?, later, taken_clearQueued, fated]
    | dropped =>
      rw [taken_cons (by simp [fated])]
      simp [Notice.dropped?, later, taken_clearQueued, fated]
    | stray | released =>
      rw [taken_cons (by simp [fated])]
      simp [later, taken_clearQueued, fated]

theorem Release.length_dropped (now : UInt64) (entries : List Entry) (markers : Markers) :
    let released := heads now entries markers
    (released.notices.filterMap Notice.dropped?).length = released.cancelled := by
  dsimp only
  rw [dropped_notices, List.length_map, heads_cancelled, List.countP_eq_length_filter]

namespace Pipeline

theorem times_custody (p : Pipeline) (queue : QueueId) (id : EventId) :
    times id (p.custody queue) =
      times id ((p.entries queue).map (·.2)) + times id ((p.inFlight queue).map (·.event)) +
        times id ((p.openReports queue).flatMap Report.returned) := by
  -- Frame by frame, what it has is its parcels and the events in its report.
  have frames (open_ : List Frame) : times id (open_.flatMap (Frame.custody queue)) =
      times id ((open_.flatMap (Frame.parcels queue)).map (·.event)) +
        times id ((open_.filterMap (Frame.report? queue)).flatMap Report.returned) := by
    induction open_ with
    | nil => rfl
    | cons frame outer ih =>
      cases report : frame.report? queue <;> simp [Frame.custody, report, ih] <;> omega
  rw [custody, times_append, frames, Nat.add_assoc]
  rfl

theorem custody_congr {p next : Pipeline} {queue : QueueId}
    (entries : next.entries queue = p.entries queue) (frames : next.frames = p.frames) :
    next.custody queue = p.custody queue := by
  rw [custody, custody, entries, frames]

@[simp] theorem custody_markers (p : Pipeline) (markers : Markers) (queue : QueueId) :
    custody { p with markers := markers } queue = p.custody queue := rfl

@[simp] theorem custody_revise (p : Pipeline) (marker : MarkerId) (change : Marker.Change)
    (queue : QueueId) : (p.revise marker change).custody queue = p.custody queue := rfl

@[simp] theorem custody_prepared (p : Pipeline) (action : Action) (queue : QueueId) :
    (p.prepared action).custody queue = p.custody queue :=
  custody_congr (entries_prepared ..) (frames_prepared ..)

@[simp] theorem custody_begin (p : Pipeline) (queue other : QueueId) :
    (p.begin queue).custody other = p.custody other :=
  custody_congr (entries_begin ..) rfl

@[simp] theorem custody_rest (p : Pipeline) (queue other : QueueId) :
    (p.rest queue).custody other = p.custody other :=
  custody_congr (entries_rest ..) rfl

@[simp] theorem custody_mark (p : Pipeline) (queue other : QueueId) :
    (p.mark queue).custody other = p.custody other :=
  custody_congr (entries_mark ..) rfl

@[simp] theorem custody_delivered (p : Pipeline) (parcel : Parcel) (outcome : Outcome)
    (queue : QueueId) : (p.delivered parcel outcome).custody queue = p.custody queue :=
  custody_congr (entries_delivered ..) (by cases outcome <;> rfl)

/-- An event that was at the stream is accepted or handed back. -/
theorem times_recorded (p : Pipeline) (parcel : Parcel) (outcome : Outcome) (report : Report)
    (id : EventId) :
    times id (p.recorded parcel outcome report).returned + times id (parcel.accepted outcome) =
      times id report.returned + if parcel.event.id = id then 1 else 0 := by
  cases outcome with
  | ok => simp [recorded, deliver, Report.record, Report.returned, Parcel.accepted]
  | error failure =>
    simp [recorded, deliver, Report.record, Report.returned, Parcel.accepted]
    omega

theorem sent_recorded (p : Pipeline) (parcel : Parcel) (outcome : Outcome) (report : Report) :
    (p.recorded parcel outcome report).sent =
      report.sent + (parcel.accepted outcome).length := by
  cases outcome <;> rfl

theorem failed_recorded (p : Pipeline) (parcel : Parcel) (outcome : Outcome) (report : Report) :
    (p.recorded parcel outcome report).failed = report.failed ++ parcel.refused outcome := by
  cases outcome with
  | ok => exact (List.append_nil _).symm
  | error => rfl

theorem cancelled_recorded (p : Pipeline) (parcel : Parcel) (outcome : Outcome)
    (report : Report) : (p.recorded parcel outcome report).cancelled = report.cancelled := by
  cases outcome <;> rfl

theorem dropped_noted (p : Pipeline) (parcel : Parcel) (outcome : Outcome) :
    (p.noted parcel outcome).filterMap Notice.dropped? = [] := by
  cases outcome <;> rfl

theorem times_custody_push (p : Pipeline) (frame : Frame) (queue : QueueId) (id : EventId) :
    times id ((p.push frame).custody queue) =
      times id (p.custody queue) + times id (frame.custody queue) := by
  simp only [custody, push, entries, List.flatMap_cons, times_append]
  omega

theorem times_custody_popped {p : Pipeline} {frame : Frame} {outer : List Frame}
    (framed : p.frames = frame :: outer) (queue : QueueId) (id : EventId) :
    times id (p.custody queue) =
      times id (p.popped.custody queue) + times id (frame.custody queue) := by
  simp only [custody, popped, framed, entries, List.flatMap_cons, times_append, List.tail_cons]
  omega

/-- The books of a queue after some events came in and some went out. -/
theorem times_custody_hold {p : Pipeline} {queue : QueueId} {backlog : Backlog} {id : EventId}
    {came gone : Nat}
    (books : times id ((p.entries queue).map (·.2)) + came =
      times id (backlog.entries.map (·.2)) + gone) (markers : Markers) (other : QueueId) :
    times id ((p.hold queue backlog markers).custody other) +
        (if queue = other then gone else 0) =
      times id (p.custody other) + if queue = other then came else 0 := by
  have frames : (p.hold queue backlog markers).frames = p.frames := rfl
  rw [custody, custody, entries_hold, frames, times_append, times_append]
  by_cases here : queue = other
  · subst here
    rw [if_pos rfl, if_pos rfl, if_pos rfl]
    omega
  · rw [if_neg here, if_neg here, if_neg (Ne.symm here)]

section holding

variable {p : Pipeline} {queue : QueueId} {key : Key} {event : Event} (markers : Markers)
  (other : QueueId) (id : EventId)

theorem times_custody_insert (free : ∀ entry ∈ p.entries queue, entry.1 ≠ key) :
    times id ((p.hold queue ((p.queues queue).backlog.insert key event) markers).custody other) =
      times id (p.custody other) + if queue = other then times id [event] else 0 := by
  have books : times id ((p.entries queue).map (·.2)) + times id [event] =
      times id (((p.queues queue).backlog.insert key event).entries.map (·.2)) + 0 := by
    rw [times_perm ((Backlog.insert_perm free).map _), List.map_cons, times_cons]
    simp [entries]
  have stored := times_custody_hold books markers other
  rwa [ite_self, Nat.add_zero] at stored

theorem times_custody_erase (member : (key, event) ∈ p.entries queue) :
    times id (p.custody other) =
      times id ((p.hold queue ((p.queues queue).backlog.erase key) markers).custody other) +
        if queue = other then times id [event] else 0 := by
  have books : times id ((p.entries queue).map (·.2)) + 0 =
      times id (((p.queues queue).backlog.erase key).entries.map (·.2)) + times id [event] := by
    rw [entries, times_perm ((Backlog.erase_perm member).map _), List.map_cons, times_cons]
    simp
  have erased := times_custody_hold books markers other
  rw [ite_self, Nat.add_zero] at erased
  exact erased.symm

theorem times_custody_replace {new : Key} (member : (key, event) ∈ p.entries queue)
    (free : ∀ entry ∈ p.entries queue, entry.1 ≠ new) :
    times id ((p.hold queue (((p.queues queue).backlog.erase key).insert new event)
      markers).custody other) = times id (p.custody other) := by
  have kept : ∀ entry ∈ ((p.queues queue).backlog.erase key).entries, entry.1 ≠ new :=
    fun entry inside => free entry (Backlog.mem_erase.mp inside).1
  have books : times id ((p.entries queue).map (·.2)) + 0 = times id
      ((((p.queues queue).backlog.erase key).insert new event).entries.map (·.2)) + 0 := by
    rw [entries, times_perm ((Backlog.erase_perm member).map _),
      times_perm ((Backlog.insert_perm kept).map _), List.map_cons, List.map_cons]
  have moved := times_custody_hold books markers other
  rwa [ite_self, Nat.add_zero, Nat.add_zero] at moved

end holding

theorem times_custody_partition (p : Pipeline) (queue other : QueueId) (now : UInt64)
    (markers : Markers) (id : EventId) :
    let test (entry : Entry) := p.markers.isOverdue now entry.2
    times id (p.custody other) =
      times id ((p.hold queue ((p.queues queue).backlog.partition test).2 markers).custody other) +
        if queue = other then times id (p.overdue queue now) else 0 := by
  intro test
  have split := (Backlog.partition_perm (p.queues queue).backlog test).map (·.2)
  have books : times id ((p.entries queue).map (·.2)) + 0 =
      times id (((p.queues queue).backlog.partition test).2.entries.map (·.2)) +
        times id (p.overdue queue now) := by
    rw [Nat.add_zero, entries, times_perm split, List.map_append, times_append, Nat.add_comm]
    rfl
  have evicted := times_custody_hold books markers other
  rw [ite_self, Nat.add_zero] at evicted
  exact evicted.symm

theorem custody_looked_of_ne (p : Pipeline) {queue other : QueueId} (different : other ≠ queue)
    (now : UInt64) : (p.looked queue now).custody other = p.custody other :=
  custody_congr (by simp [different]) rfl

/-- What a look takes out of custody is in its batch, dropped or rejected. -/
theorem times_custody_looked {p : Pipeline} {queue : QueueId}
    (marked : ∀ entry ∈ p.entries queue, entry.2.marker ≠ none) (now : UInt64) (id : EventId) :
    times id (p.custody queue) = times id ((p.looked queue now).custody queue) +
      times id ((p.released queue now).batch.map (·.event)) +
      ((p.released queue now).notices.filterMap Notice.dropped?).count id +
      times id (p.released queue now).expired := by
  have taken := Release.conserves now id (p.entries queue) p.markers marked
  have left : (p.looked queue now).entries queue = (p.released queue now).left := by simp
  have frames : (p.looked queue now).frames = p.frames := rfl
  rw [custody, custody, left, frames, times_append, times_append, taken, released]
  omega

theorem times_custody_advance_of_ne (p : Pipeline) {queue other : QueueId}
    (different : queue ≠ other) (now : UInt64) (report : Report) (notices : List Notice)
    (id : EventId) :
    times id ((p.advance queue now report notices).state.custody other) =
      times id (p.custody other) := by
  rw [← custody_looked_of_ne p (Ne.symm different) now]
  cases batch : (p.released queue now).batch with
  | nil =>
    rw [advance_of_nil batch, custody_rest]
  | cons parcel waiting =>
    rw [advance_of_cons batch, transmit, times_custody_push]
    simp [Frame.custody, Frame.parcels, Frame.report?, different]

/-- A look keeps the books: what was in custody or in the report is still in custody, dropped, or
handed back. -/
theorem advance_conserves {p : Pipeline} {queue : QueueId}
    (marked : ∀ entry ∈ p.entries queue, entry.2.marker ≠ none) (now : UInt64) (report : Report)
    (notices : List Notice) (id : EventId) :
    let step := p.advance queue now report notices
    times id (step.state.custody queue) + (step.notices.filterMap Notice.dropped?).count id +
        times id step.reply.returned =
      times id (p.custody queue) + times id report.returned +
        (notices.filterMap Notice.dropped?).count id := by
  have taken := times_custody_looked marked now id
  dsimp only
  cases batch : (p.released queue now).batch with
  | nil =>
    rw [advance_of_nil batch, taken, batch]
    simp [Reply.returned, Report.returned, Report.absorb]
    omega
  | cons parcel waiting =>
    rw [advance_of_cons batch, taken, batch, transmit, times_custody_push]
    simp [Frame.custody, Frame.parcels, Frame.report?, Reply.returned, Report.returned,
      Report.absorb]
    omega

def tally (p : Pipeline) (queue : QueueId) (count : Report → Nat) : Nat :=
  Report.total count (p.openReports queue)

theorem tally_congr {p next : Pipeline} (frames : next.frames = p.frames) (queue : QueueId)
    (count : Report → Nat) : next.tally queue count = p.tally queue count := by
  rw [tally, tally, openReports, openReports, frames]

@[simp] theorem tally_markers (p : Pipeline) (markers : Markers) (queue : QueueId)
    (count : Report → Nat) :
    tally { p with markers := markers } queue count = p.tally queue count :=
  rfl

@[simp] theorem tally_revise (p : Pipeline) (marker : MarkerId) (change : Marker.Change)
    (queue : QueueId) (count : Report → Nat) :
    (p.revise marker change).tally queue count = p.tally queue count :=
  rfl

@[simp] theorem tally_hold (p : Pipeline) (queue other : QueueId) (backlog : Backlog)
    (markers : Markers) (count : Report → Nat) :
    (p.hold queue backlog markers).tally other count = p.tally other count :=
  rfl

@[simp] theorem tally_prepared (p : Pipeline) (action : Action) (queue : QueueId)
    (count : Report → Nat) : (p.prepared action).tally queue count = p.tally queue count :=
  tally_congr (frames_prepared ..) queue count

@[simp] theorem tally_delivered (p : Pipeline) (parcel : Parcel) (outcome : Outcome)
    (queue : QueueId) (count : Report → Nat) :
    (p.delivered parcel outcome).tally queue count = p.tally queue count :=
  tally_congr (by cases outcome <;> rfl) queue count

@[simp] theorem tally_begin (p : Pipeline) (queue other : QueueId) (count : Report → Nat) :
    (p.begin queue).tally other count = p.tally other count :=
  rfl

@[simp] theorem tally_mark (p : Pipeline) (queue other : QueueId) (count : Report → Nat) :
    (p.mark queue).tally other count = p.tally other count :=
  rfl

theorem tally_push (p : Pipeline) (frame : Frame) (queue : QueueId) (count : Report → Nat) :
    (p.push frame).tally queue count =
      p.tally queue count + Report.total count (frame.report? queue).toList := by
  cases report : frame.report? queue with
  | none => simp [tally, openReports, push, report]
  | some report =>
    simp [tally, openReports, push, report]
    omega

theorem notices_advance (p : Pipeline) (queue : QueueId) (now : UInt64) (report : Report)
    (notices : List Notice) : (p.advance queue now report notices).notices =
      notices ++ (p.released queue now).notices := by
  cases batch : (p.released queue now).batch with
  | nil => rw [advance_of_nil batch]
  | cons => rw [advance_of_cons batch]; rfl

/-- A look puts what it took out into the report, which stays open or is handed over. -/
theorem advance_tallies (p : Pipeline) (queue other : QueueId) (now : UInt64) (report : Report)
    (notices : List Notice) (count : Report → Nat) :
    let step := p.advance queue now report notices
    step.state.tally other count +
        (if queue = other then Report.total count step.reply.report?.toList else 0) =
      p.tally other count +
        if queue = other then count (report.absorb (p.released queue now)) else 0 := by
  have looked : (p.looked queue now).tally other count = p.tally other count := rfl
  have rested : ((p.looked queue now).rest queue).tally other count = p.tally other count := rfl
  dsimp only
  cases batch : (p.released queue now).batch with
  | nil => simp [advance_of_nil batch, rested, Reply.report?]
  | cons parcel waiting =>
    rw [advance_of_cons batch, transmit, tally_push, looked]
    by_cases same : queue = other <;> simp [Frame.report?, Reply.report?, same]

theorem tally_popped {p : Pipeline} {frame : Frame} {outer : List Frame}
    (framed : p.frames = frame :: outer) (queue : QueueId) (count : Report → Nat) :
    p.tally queue count =
      p.popped.tally queue count + Report.total count (frame.report? queue).toList := by
  rw [← tally_push]
  exact tally_congr (by simp [push, popped, framed]) queue count

end Pipeline

end PacketFlow
