import PacketFlow.Proofs.Custody

/-! No event is lost or doubled.

Whatever actions are performed, from inside streams or not, with whatever tickets and changes of
markers: as often as an event was put into a queue, it is there still or has left in one of the ways
that the queue reports. The one thing asked of callers is that they put in events that they have.
-/

set_option autoImplicit false

namespace PacketFlow

namespace Pipeline

/-- Entries stand under the numbers of their events, which have markers, and no event is in custody
twice. -/
structure Tidy (p : Pipeline) : Prop where
  own : ∀ queue, ∀ entry ∈ p.entries queue, entry.1.event = entry.2.id
  marked : ∀ queue, ∀ entry ∈ p.entries queue, entry.2.marker ≠ none
  single : ∀ queue id, times id (p.custody queue) ≤ 1
  apart : ∀ queue other id, 0 < times id (p.custody queue) → 0 < times id (p.custody other) →
    queue = other

theorem times_entries_le (p : Pipeline) (queue : QueueId) (id : EventId) :
    times id ((p.entries queue).map (·.2)) ≤ times id (p.custody queue) := by
  rw [custody, times_append]
  omega

theorem Tidy.entry_unique {p : Pipeline} (tidy : p.Tidy) {queue : QueueId} {first second : Entry}
    (one : first ∈ p.entries queue) (two : second ∈ p.entries queue)
    (same : first.1.event = second.1.event) : second = first := by
  have split : (p.entries queue).Perm
      (first :: ((p.queues queue).backlog.erase first.1).entries) := Backlog.erase_perm one
  have once := Nat.le_trans (times_entries_le p queue first.2.id) (tidy.single queue first.2.id)
  rw [times_perm (split.map _), List.map_cons, times_cons, if_pos rfl] at once
  rcases List.mem_cons.mp (split.mem_iff.mp two) with here | other
  · exact here
  · have again : 0 < times first.2.id
        (((p.queues queue).backlog.erase first.1).entries.map (·.2)) := by
      refine times_pos.mpr ⟨second.2, List.mem_map_of_mem other, ?_⟩
      rw [← tidy.own queue first one, ← tidy.own queue second two, same]
    omega

theorem Tidy.free_enqueue {p : Pipeline} (tidy : p.Tidy) {queue : QueueId} {event : Event}
    (owned : ∀ held ∈ p.custody queue, held.id ≠ event.id) (index : UInt64) :
    ∀ entry ∈ p.entries queue, entry.1 ≠ ⟨index, event.id⟩ := by
  intro entry member same
  have held : entry.2 ∈ p.custody queue :=
    List.mem_append_left _ (List.mem_map_of_mem member)
  apply owned entry.2 held
  rw [← tidy.own queue entry member, same]

theorem Tidy.free_move {p : Pipeline} (tidy : p.Tidy) {queue : QueueId} {ticket : Ticket}
    {old : UInt64} {event : Event} (moves : p.Moves queue ticket old event) :
    ∀ entry ∈ p.entries queue,
      entry.1 ≠ ⟨(p.markers.get ticket.marker).newIndex, ticket.event⟩ := by
  obtain ⟨_, different, stored⟩ := moves
  intro entry member same
  have unique := tidy.entry_unique stored member (by rw [same])
  rw [unique] at same
  exact different (congrArg Key.index same)

end Pipeline

open Pipeline

/-- One action keeps the books of every queue. -/
theorem Turn.conserves {turn : Turn} (guarded : turn.state.Guarded) (tidy : turn.state.Tidy)
    (owned : turn.Owned) (queue : QueueId) (id : EventId) :
    times id (turn.step.state.custody queue) + times id (turn.sent queue) +
        (turn.dropped queue).count id + times id (turn.returned queue) =
      times id (turn.state.custody queue) + times id (turn.entered queue) := by
  obtain ⟨p, action⟩ := turn
  have effect := step_effect guarded.unlocked action
  simp only [sent, dropped, returned, entered, step] at *
  -- One case for each effect: a queue gains only by an enqueue, other queues gain nothing.
  generalize p.step action = step at effect ⊢
  cases effect with
  | register | revise => simp [subject?]
  | send => simp [subject?, times_custody_push, Frame.custody, Frame.parcels, Frame.report?]
  | refuse => simp [subject?, Reply.returned]
  | @enqueue other event marker marked =>
    have free := tidy.free_enqueue (owned other event rfl other) (p.markers.get marker).newIndex
    rw [times_custody_insert _ _ _ free]
    by_cases here : other = queue <;>
      simp [subject?, Notice.dropped?, Reply.returned, List.filterMap_cons, here]
  | @move other ticket old event moves =>
    rw [times_custody_replace _ _ _ moves.2.2 (tidy.free_move moves)]
    simp [subject?, Notice.dropped?, Reply.returned, List.filterMap_cons]
  | stay => simp [subject?, Reply.returned]
  | withhold progress =>
    rcases progress with rfl | rfl <;> simp [subject?, Reply.returned, Report.returned]
  | wait asked =>
    rcases asks?_cases asked with ⟨ticket, rfl⟩ | ⟨ticket, rfl⟩ | rfl <;>
      simp [subject?, Reply.returned, Report.returned]
  | @begin action other now asked =>
    have marked : ∀ entry ∈ ((p.prepared action).begin other).entries other,
        entry.2.marker ≠ none := by simpa using tidy.marked other
    -- The send begins with nothing in its report.
    have here := advance_conserves marked now {} [] id
    rcases asks?_cases asked with ⟨ticket, rfl⟩ | ⟨ticket, rfl⟩ | rfl
    all_goals
      by_cases same : other = queue
      · subst same
        simp [subject?, Report.returned] at here ⊢
        omega
      · simp [subject?, same, times_custody_advance_of_ne _ same]
  | evict other now =>
    have books := times_custody_partition p other queue now
      ((p.overdue other now).foldl Markers.clearQueued p.markers) id
    rw [books]
    by_cases here : other = queue <;> simp [subject?, Reply.returned, here]
  | @remove other ticket event member =>
    have books := times_custody_erase (p.markers.setQueued ticket.marker none) queue id member
    rw [books]
    by_cases here : other = queue <;> simp [subject?, Reply.returned, here]
  | miss => simp [subject?, Reply.returned]
  | count => simp [subject?, Reply.returned]
  | idle outcome closed => simp [subject?, closed]
  | sent outcome framed =>
    have books : times id (p.custody queue) = times id (p.popped.custody queue) :=
      times_custody_popped framed queue id
    simp [subject?, framed, Frame.queue?, books]
  | @next other now parcel next waiting report outer outcome framed =>
    have books := times_custody_popped framed queue id
    have answered := times_recorded p.popped parcel outcome report id
    by_cases same : other = queue
    · simp [transmit, times_custody_push, subject?, framed, Frame.queue?, Frame.custody,
        Frame.parcels, Frame.report?, Reply.returned, dropped_noted, same] at books ⊢
      omega
    · simp [transmit, times_custody_push, subject?, framed, Frame.queue?, Frame.custody,
        Frame.parcels, Frame.report?, same] at books ⊢
      omega
  | @last other now parcel report outer outcome framed =>
    have books := times_custody_popped framed queue id
    have answered := times_recorded p.popped parcel outcome report id
    have marked : ∀ entry ∈ (p.popped.delivered parcel outcome).entries other,
        entry.2.marker ≠ none := by simpa using tidy.marked other
    have here := advance_conserves marked now (p.popped.recorded parcel outcome report)
      (p.popped.noted parcel outcome) id
    by_cases same : other = queue
    · subst same
      simp [subject?, framed, Frame.queue?, Frame.custody, Frame.parcels, Frame.report?,
        dropped_noted] at books here ⊢
      omega
    · simp [subject?, framed, Frame.queue?, Frame.custody, Frame.parcels, Frame.report?, same,
        times_custody_advance_of_ne _ same] at books ⊢
      omega

theorem Turn.entered_cases (turn : Turn) (queue : QueueId) :
    turn.entered queue = [] ∨
      ∃ event, turn.action = .enqueue queue event ∧ turn.entered queue = [event] := by
  unfold entered
  split
  next other event ticket action reply =>
    split
    next same => exact .inr ⟨event, same ▸ action, rfl⟩
    next => exact .inl rfl
  next => exact .inl rfl

/-- What is in custody after a turn was there before, or was put in by who had it. -/
theorem Turn.custody_cases {turn : Turn} (guarded : turn.state.Guarded) (tidy : turn.state.Tidy)
    (owned : turn.Owned) (queue : QueueId) (id : EventId) :
    times id (turn.step.state.custody queue) ≤ times id (turn.state.custody queue) ∨
      (times id (turn.step.state.custody queue) ≤ 1 ∧
        (∃ event, turn.action = .enqueue queue event) ∧
        ∀ other, times id (turn.state.custody other) = 0) := by
  have books := turn.conserves guarded tidy owned queue id
  rcases turn.entered_cases queue with nothing | ⟨event, action, entered⟩
  · rw [nothing, times_nil] at books
    exact .inl (by omega)
  · by_cases same : event.id = id
    · -- Who puts the event in has it, so no queue had it before.
      have absent (other : QueueId) : times id (turn.state.custody other) = 0 := by
        have none_held := owned queue event action other
        apply Nat.eq_zero_of_not_pos
        intro held
        obtain ⟨there, member, numbered⟩ := times_pos.mp held
        exact none_held there member (numbered.trans same.symm)
      have before := absent queue
      rw [entered, times_cons, if_pos same, times_nil] at books
      exact .inr ⟨by omega, ⟨event, action⟩, absent⟩
    · rw [entered, times_cons, if_neg same, times_nil] at books
      exact .inl (by omega)

theorem Turn.tidy {turn : Turn} (guarded : turn.state.Guarded) (tidy : turn.state.Tidy)
    (owned : turn.Owned) : turn.step.state.Tidy where
  own queue entry member := by
    have effect := step_effect guarded.unlocked turn.action
    rcases effect.mem_entries member with old | ⟨event, marker, _, _, rfl⟩ |
      ⟨ticket, old, event, _, moves, rfl⟩
    · exact tidy.own queue entry old
    · rfl
    · have numbered := tidy.own queue _ moves.2.2
      exact numbered
  marked queue entry member := by
    have effect := step_effect guarded.unlocked turn.action
    rcases effect.mem_entries member with old | ⟨event, marker, _, marked, rfl⟩ |
      ⟨ticket, old, event, _, moves, rfl⟩
    · exact tidy.marked queue entry old
    · exact Option.ne_none_iff_exists'.mpr ⟨marker, marked⟩
    · have tagged := tidy.marked queue _ moves.2.2
      exact tagged
  single queue id := by
    have before := tidy.single queue id
    rcases custody_cases guarded tidy owned queue id with less | ⟨once, _⟩
    · omega
    · exact once
  apart queue other id one two := by
    rcases custody_cases guarded tidy owned queue id with less | ⟨_, ⟨event, action⟩, absent⟩
    · rcases custody_cases guarded tidy owned other id with less' | ⟨_, _, absent⟩
      · exact tidy.apart queue other id (by omega) (by omega)
      · have nowhere := absent queue
        omega
    · -- A turn puts an event into one queue only.
      rcases custody_cases guarded tidy owned other id with less' | ⟨_, ⟨event', action'⟩, _⟩
      · have nowhere := absent other
        omega
      · rw [action] at action'
        cases action'
        rfl

theorem tidy_empty : Tidy {} where
  own _ _ member := nomatch member
  marked _ _ member := nomatch member
  single _ _ := Nat.zero_le _
  apart _ _ _ one := absurd one (Nat.lt_irrefl 0)

theorem Run.tidy {history : List Turn} {p : Pipeline} (run : Run {} history p)
    (owned : ∀ turn ∈ history, turn.Owned) : p.Tidy := by
  induction run with
  | start => exact tidy_empty
  | @perform history p run action ih =>
    have before : p.Tidy := ih fun turn member => owned turn (List.mem_append_left _ member)
    exact Turn.tidy run.guarded before (owned ⟨p, action⟩ (by simp))

theorem Run.conserves {history : List Turn} {p : Pipeline} (run : Run {} history p)
    (owned : ∀ turn ∈ history, turn.Owned) (queue : QueueId) (id : EventId) :
    times id (p.custody queue) + times id (history.flatMap (Turn.sent queue)) +
        (history.flatMap (Turn.dropped queue)).count id +
        times id (history.flatMap (Turn.returned queue)) =
      times id (history.flatMap (Turn.entered queue)) := by
  induction run with
  | start => rfl
  | @perform history p run action ih =>
    have earlier : ∀ turn ∈ history, turn.Owned :=
      fun turn member => owned turn (List.mem_append_left _ member)
    have before := ih earlier
    have last := Turn.conserves run.guarded (run.tidy earlier) (owned ⟨p, action⟩ (by simp))
      queue id
    simp only [Turn.step] at last
    simp only [List.flatMap_append, List.flatMap_singleton, times_append, List.count_append]
    omega

/-- The counters of the reports grow with what streams accept and what is dropped. -/
theorem Turn.tallies {turn : Turn} (guarded : turn.state.Guarded) (queue : QueueId) :
    turn.step.state.tally queue Report.sent + Report.total Report.sent (turn.reports queue) =
        turn.state.tally queue Report.sent + (turn.sent queue).length ∧
      turn.step.state.tally queue Report.cancelled +
          Report.total Report.cancelled (turn.reports queue) =
        turn.state.tally queue Report.cancelled + (turn.dropped queue).length := by
  obtain ⟨p, action⟩ := turn
  have effect := step_effect guarded.unlocked action
  simp only [sent, dropped, reports, step] at *
  generalize p.step action = step at effect ⊢
  cases effect with
  | register | revise => simp [subject?]
  | send => simp [subject?, tally_push, Frame.report?]
  | refuse | enqueue | move | stay | evict | remove | miss | count =>
    simp [subject?, Reply.report?, List.filterMap_cons, Notice.dropped?]
  | @withhold action other ticket now progress =>
    rcases progress with rfl | rfl
    all_goals by_cases same : other = queue <;> simp [subject?, Reply.report?, same]
  | @wait action other now asked =>
    rcases asks?_cases asked with ⟨ticket, rfl⟩ | ⟨ticket, rfl⟩ | rfl
    all_goals by_cases same : other = queue <;> simp [subject?, Reply.report?, same]
  | @begin action other now asked =>
    have looked (count : Report → Nat) := advance_tallies ((p.prepared action).begin other) other
      queue now {} [] count
    have counted := Release.length_dropped now (((p.prepared action).begin other).entries other)
      ((p.prepared action).begin other).markers
    rcases asks?_cases asked with ⟨ticket, rfl⟩ | ⟨ticket, rfl⟩ | rfl
    all_goals
      have sent := looked Report.sent
      have cancelled := looked Report.cancelled
      by_cases same : other = queue
      · simp_all [subject?, notices_advance, Report.absorb, released]
      · simp_all [subject?]
  | idle outcome closed => simp [subject?, closed]
  | sent outcome framed =>
    have closed (count : Report → Nat) := tally_popped framed queue count
    simp [subject?, framed, Frame.queue?, closed, Frame.report?]
  | @next other now parcel next waiting report outer outcome framed =>
    have closed (count : Report → Nat) := tally_popped framed queue count
    by_cases same : other = queue
    · simp [transmit, tally_push, subject?, framed, Frame.queue?, Frame.report?, Reply.report?,
        dropped_noted, sent_recorded, cancelled_recorded, same, closed]
      omega
    · simp [transmit, tally_push, subject?, framed, Frame.queue?, Frame.report?, same, closed]
  | @last other now parcel report outer outcome framed =>
    have closed (count : Report → Nat) := tally_popped framed queue count
    have looked (count : Report → Nat) := advance_tallies (p.popped.delivered parcel outcome)
      other queue now (p.popped.recorded parcel outcome report) (p.popped.noted parcel outcome)
      count
    have counted := Release.length_dropped now
      ((p.popped.delivered parcel outcome).entries other)
      (p.popped.delivered parcel outcome).markers
    have sent := looked Report.sent
    have cancelled := looked Report.cancelled
    by_cases same : other = queue
    · simp [Report.absorb, released, sent_recorded, cancelled_recorded, same]
        at sent cancelled counted
      simp [subject?, framed, Frame.queue?, Frame.report?, closed, notices_advance, dropped_noted,
        released, same]
      omega
    · simp [same] at sent cancelled
      simp [subject?, framed, Frame.queue?, Frame.report?, closed, same, sent, cancelled]

theorem Run.tallies {history : List Turn} {p : Pipeline} (run : Run {} history p)
    (queue : QueueId) :
    p.tally queue Report.sent + Report.total Report.sent (history.flatMap (Turn.reports queue)) =
        (history.flatMap (Turn.sent queue)).length ∧
      p.tally queue Report.cancelled +
          Report.total Report.cancelled (history.flatMap (Turn.reports queue)) =
        (history.flatMap (Turn.dropped queue)).length := by
  induction run with
  | start => exact ⟨rfl, rfl⟩
  | @perform history p run action ih =>
    obtain ⟨sent, cancelled⟩ := ih
    obtain ⟨sent', cancelled'⟩ := @Turn.tallies ⟨p, action⟩ run.guarded queue
    simp only [Turn.step] at sent' cancelled'
    simp only [List.flatMap_append, List.flatMap_singleton, Report.total_append,
      List.length_append]
    constructor <;> omega

/-- What holds of a queue after a history. -/
structure Conserved (history : List Turn) (p : Pipeline) (queue : QueueId) : Prop where
  /-- As often as an event was put in, it is held, in flight, or has left in a way that was
  reported. -/
  balance : ∀ id, times id (history.flatMap (Turn.entered queue)) =
    (if p.Stores queue id then 1 else 0) + (if p.Transmits queue id then 1 else 0) +
      times id (history.flatMap (Turn.sent queue)) +
      (history.flatMap (Turn.dropped queue)).count id +
      times id ((p.openReports queue).flatMap Report.returned ++
        history.flatMap (Turn.returned queue))
  /-- The counters of all reports agree with what was sent. -/
  sent : Report.total Report.sent (p.openReports queue ++ history.flatMap (Turn.reports queue)) =
    (history.flatMap (Turn.sent queue)).length
  cancelled :
    Report.total Report.cancelled (p.openReports queue ++ history.flatMap (Turn.reports queue)) =
      (history.flatMap (Turn.dropped queue)).length
  /-- Nothing was stored under a key that another entry had. -/
  free : ∀ turn ∈ history, ∀ entry,
    turn.state.Enters turn.action queue entry ∨ turn.state.MovesTo turn.action queue entry →
      ∀ stored ∈ turn.state.entries queue, stored.1 ≠ entry.1
  own : ∀ entry ∈ p.entries queue, entry.1.event = entry.2.id
  marked : ∀ entry ∈ p.entries queue, entry.2.marker ≠ none
  /-- No event is held, in flight or about to be reported twice, nor by two queues. -/
  single : ∀ id, times id (p.custody queue) ≤ 1
  apart : ∀ other, ∀ event ∈ p.custody queue, ∀ held ∈ p.custody other, held.id = event.id →
    queue = other

/-- The books of a queue balance after every run in which events are put in by who has them. -/
theorem conservation {history : List Turn} {p : Pipeline} (run : Run {} history p)
    (owned : ∀ turn ∈ history, turn.Owned) (queue : QueueId) : Conserved history p queue where
  balance id := by
    have tidy := run.tidy owned
    have books := run.conserves owned queue id
    have parts := times_custody p queue id
    have once := tidy.single queue id
    have few : times id ((p.entries queue).map (·.2)) ≤ 1 := by omega
    have lone : times id ((p.inFlight queue).map (·.event)) ≤ 1 := by omega
    have stored : times id ((p.entries queue).map (·.2)) = if p.Stores queue id then 1 else 0 :=
      times_eq_ite _ few
    have flying : times id ((p.inFlight queue).map (·.event)) =
        if p.Transmits queue id then 1 else 0 := times_eq_ite _ lone
    rw [times_append]
    omega
  sent := by
    rw [Report.total_append]
    exact (run.tallies queue).1
  cancelled := by
    rw [Report.total_append]
    exact (run.tallies queue).2
  free turn member entry arrives stored there := by
    -- The turns before this one are a run of their own, which leaves the process tidy.
    obtain ⟨before, after, parts⟩ := List.append_of_mem member
    have earlier : ∀ turn ∈ before, turn.Owned :=
      fun turn inside => owned turn (parts ▸ List.mem_append_left _ inside)
    have tidy := (run.cut parts).1.tidy earlier
    rcases arrives with ⟨event, marker, action, _, rfl⟩ | ⟨ticket, old, event, _, moves, rfl⟩
    · exact tidy.free_enqueue (owned turn member queue event action queue) _ stored there
    · exact tidy.free_move moves stored there
  own := (run.tidy owned).own queue
  marked := (run.tidy owned).marked queue
  single := (run.tidy owned).single queue
  apart other event inside held there same :=
    (run.tidy owned).apart queue other event.id (times_pos.mpr ⟨event, inside, rfl⟩)
      (times_pos.mpr ⟨held, there, same⟩)

/-- While the first of two packets is at the stream the second is removed. The stream fails, and the
first packet is put in again with the other marker. -/
def failingSend : List Action :=
  [.register (.fresh 0 1 0 (.ofMillis 100)), .register (.fresh 0 2 0 (.ofMillis 100)),
    .enqueue 0 (.chat 1 0), .enqueue 0 (.chat 2 1), .complete 0 ⟨1, 0⟩ 50, .remove 0 ⟨2, 1⟩,
    .answer (.error (.access "closed")), .enqueue 0 (.chat 1 1)]

theorem owned_failingSend : ∀ turn ∈ turns {} failingSend, turn.Owned := by
  intro turn member queue event action other held inside
  simp only [failingSend, turns, List.mem_cons, List.not_mem_nil, or_false] at member
  rcases member with rfl | rfl | rfl | rfl | rfl | rfl | rfl | rfl
  all_goals cases action
  · cases other <;> cases inside
  · cases other with
    | zero => revert held; decide
    | succ => cases inside
  · cases other with
    | zero => revert held; decide
    | succ => cases inside

theorem conservation_failingSend : Run {} (turns {} failingSend) (after {} failingSend) ∧
    (∀ turn ∈ turns {} failingSend, turn.Owned) ∧
    Conserved (turns {} failingSend) (after {} failingSend) 0 ∧
    (turns {} failingSend).flatMap (Turn.entered 0) = [.chat 1 0, .chat 2 1, .chat 1 1] ∧
    (turns {} failingSend).flatMap (Turn.returned 0) = [.chat 2 1, .chat 1 0] :=
  ⟨Run.ofActions {} failingSend, owned_failingSend,
    conservation (Run.ofActions {} failingSend) owned_failingSend 0, by decide, by decide⟩

end PacketFlow
