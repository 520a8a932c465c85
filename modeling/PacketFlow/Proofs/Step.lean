import PacketFlow.Proofs.Drain

/-! What each action does to a process none of whose queues is locked.

The equations here say it without the lock, which every operation takes and gives back, and with
one look for every send. Nothing later unfolds a step.
-/

set_option autoImplicit false

namespace PacketFlow

namespace Pipeline

def mark (p : Pipeline) (queue : QueueId) : Pipeline :=
  p.setQueue queue { p.queues queue with rerun := true }

def popped (p : Pipeline) : Pipeline := { p with frames := p.frames.tail }

def delivered (p : Pipeline) (parcel : Parcel) (outcome : Outcome) : Pipeline :=
  (p.deliver parcel outcome).2.1

/-- What a send notes of the answer to a parcel. -/
def noted (p : Pipeline) (parcel : Parcel) (outcome : Outcome) : List Notice :=
  match (p.deliver parcel outcome).1 with
  | .ok () => (p.deliver parcel outcome).2.2
  | .error failure => (p.deliver parcel outcome).2.2 ++ [.sendFailed parcel.event.id failure]

def recorded (p : Pipeline) (parcel : Parcel) (outcome : Outcome) (report : Report) : Report :=
  report.record parcel.event (p.deliver parcel outcome).1

/-- A queue holds the packet of a ticket under an index other than the new one of its marker. -/
def Moves (p : Pipeline) (queue : QueueId) (ticket : Ticket) (old : UInt64) (event : Event) :
    Prop :=
  (p.markers.get ticket.marker).queuedIndex = some old ∧
    old ≠ (p.markers.get ticket.marker).newIndex ∧
    (⟨old, ticket.event⟩, event) ∈ p.entries queue

/-- The key under which the packet of a ticket is looked for when it is to be removed. -/
def removalKey (p : Pipeline) (ticket : Ticket) : Key :=
  ⟨(p.markers.get ticket.marker).queuedOrZero, ticket.event⟩

/-- The events of a queue whose deadlines have passed, wherever they stand. -/
def overdue (p : Pipeline) (queue : QueueId) (now : UInt64) : List Event :=
  ((p.entries queue).filter fun entry => p.markers.isOverdue now entry.2).map (·.2)

/-- The process after what an action does to a marker before it asks for a send. -/
def prepared (p : Pipeline) : Action → Pipeline
  | .complete _ ticket _ => p.revise ticket.marker (.processed true)
  | .signal _ ticket _ => p.revise ticket.marker .release
  | _ => p

/-- The queue that an action asks to send, and the time. A packet that is complete asks unless a
deferral is outstanding, a deferral that is released asks when nothing else is awaited. -/
def asks? (p : Pipeline) (action : Action) : Option (QueueId × UInt64) :=
  match action with
  | .complete queue ticket now =>
    if ((p.prepared action).markers.get ticket.marker).deferrals.isHolding then none
    else some (queue, now)
  | .signal queue ticket now =>
    let marker := (p.prepared action).markers.get ticket.marker
    if marker.deferrals.isHolding || !marker.processed then none else some (queue, now)
  | .trySend queue now => some (queue, now)
  | _ => none

section equations

variable {p : Pipeline} {queue : QueueId} (unlocked : (p.queues queue).locked = false)

theorem step_enqueue_of_unmarked {event : Event} (unmarked : event.marker = none) :
    p.step (.enqueue queue event) =
      { reply := .queued (.error (.missingMarker event.id)), state := p } := by
  simp only [step, unmarked]

include unlocked

theorem locking_eq (operate : Queue → Step) :
    p.locking queue operate = operate { p.queues queue with locked := true } := by
  simp only [locking, Queue.lock?, unlocked, Bool.false_eq_true, if_false]

theorem putBack_locked :
    p.putBack queue { p.queues queue with locked := true } p.markers = p :=
  (putBack_eq_hold unlocked _ true _).trans (hold_self p queue)

theorem step_enqueue {event : Event} {marker : MarkerId} (marked : event.marker = some marker) :
    p.step (.enqueue queue event) =
      { reply := .queued (.ok ⟨event.id, marker⟩)
        state := p.hold queue
          ((p.queues queue).backlog.insert ⟨(p.markers.get marker).newIndex, event.id⟩ event)
          (p.markers.setQueued marker (some (p.markers.get marker).newIndex))
        notices := [.queued event.id (p.markers.get marker).newIndex] } := by
  simp only [step, marked, locking_eq unlocked]
  rw [← putBack_eq_hold unlocked _ true]
  rfl

theorem step_reposition {ticket : Ticket} {old : UInt64} {event : Event}
    (moves : p.Moves queue ticket old event) :
    p.step (.reposition queue ticket) =
      { reply := .moved true
        state := p.hold queue
          (((p.queues queue).backlog.erase ⟨old, ticket.event⟩).insert
            ⟨(p.markers.get ticket.marker).newIndex, ticket.event⟩ event)
          (p.markers.setQueued ticket.marker (some (p.markers.get ticket.marker).newIndex))
        notices := [.moved ticket.event old (p.markers.get ticket.marker).newIndex] } := by
  obtain ⟨queued, different, member⟩ := moves
  have found := Backlog.find?_eq_some_iff.mpr member
  simp only [step, locking_eq unlocked, Queue.reposition, queued, different, if_false, found]
  rw [← putBack_eq_hold unlocked _ true]

theorem step_reposition_of_not_moves {ticket : Ticket}
    (stays : ∀ old event, ¬p.Moves queue ticket old event) :
    p.step (.reposition queue ticket) = { reply := .moved false, state := p } := by
  simp only [step, locking_eq unlocked, Queue.reposition]
  -- The packet is unqueued, or stands where it should, or is not held under its index.
  cases queued : (p.markers.get ticket.marker).queuedIndex with
  | none => simp only [putBack_locked unlocked]
  | some old =>
    by_cases same : old = (p.markers.get ticket.marker).newIndex
    · simp only [same, if_true, putBack_locked unlocked]
    · cases found : (p.queues queue).backlog.find? ⟨old, ticket.event⟩ with
      | none => simp only [same, if_false, found, putBack_locked unlocked]
      | some event =>
        exact absurd ⟨queued, same, Backlog.find?_eq_some_iff.mp found⟩ (stays old event)

theorem step_evict (now : UInt64) :
    p.step (.evict queue now) =
      { reply := .evicted (p.overdue queue now)
        state := p.hold queue
          ((p.queues queue).backlog.partition fun entry => p.markers.isOverdue now entry.2).2
          ((p.overdue queue now).foldl Markers.clearQueued p.markers) } := by
  simp only [step, locking_eq unlocked]
  rw [← putBack_eq_hold unlocked _ true]
  rfl

theorem step_remove {ticket : Ticket} {event : Event}
    (member : (p.removalKey ticket, event) ∈ p.entries queue) :
    p.step (.remove queue ticket) =
      { reply := .removed (some event)
        state := p.hold queue ((p.queues queue).backlog.erase (p.removalKey ticket))
          (p.markers.setQueued ticket.marker none) } := by
  have found := Backlog.find?_eq_some_iff.mpr member
  simp only [removalKey] at found ⊢
  simp only [step, locking_eq unlocked, Queue.remove, found]
  rw [← putBack_eq_hold unlocked _ true]

theorem step_remove_of_absent {ticket : Ticket}
    (absent : ∀ event, (p.removalKey ticket, event) ∉ p.entries queue) :
    p.step (.remove queue ticket) = { reply := .removed none, state := p } := by
  have missing : (p.queues queue).backlog.find? (p.removalKey ticket) = none :=
    Option.eq_none_iff_forall_ne_some.mpr fun event found =>
      absent event (Backlog.find?_eq_some_iff.mp found)
  simp only [removalKey] at missing
  simp only [step, locking_eq unlocked, Queue.remove, missing, putBack_locked unlocked]

theorem step_count :
    p.step (.count queue) = { reply := .counted (p.entries queue).length, state := p } := by
  simp only [step, locking_eq unlocked, putBack_locked unlocked]
  rfl

theorem trySend_idle (idle : (p.queues queue).draining = false) (now : UInt64) :
    p.trySend queue now = (p.begin queue).advance queue now {} [] := by
  simp only [trySend, idle, Bool.false_eq_true, if_false]
  exact proceed_eq_advance (by simp [unlocked]) now {} []

omit unlocked

theorem trySend_busy (busy : (p.queues queue).draining = true) (now : UInt64) :
    p.trySend queue now = { reply := .reported {}, state := p.mark queue } := by
  simp only [trySend, mark, busy, if_true]

theorem step_answer_send {parcel : Parcel} {outer : List Frame} (outcome : Outcome)
    (framed : p.frames = .send parcel :: outer) :
    p.step (.answer outcome) =
      { reply := .sent (p.popped.deliver parcel outcome).1
        state := p.popped.delivered parcel outcome
        notices := (p.popped.deliver parcel outcome).2.2 } := by
  simp only [step, popped, framed]
  rfl

theorem step_answer_next {now : UInt64} {parcel next : Parcel} {rest : List Parcel}
    {report : Report} {outer : List Frame} (outcome : Outcome)
    (framed : p.frames = .drain queue now parcel (next :: rest) report :: outer) :
    p.step (.answer outcome) =
      (p.popped.delivered parcel outcome).transmit queue now next rest
        (p.popped.recorded parcel outcome report) (p.popped.noted parcel outcome) := by
  simp only [step, popped, framed]
  rfl

theorem queues_delivered (p : Pipeline) (parcel : Parcel) (outcome : Outcome) :
    (p.delivered parcel outcome).queues = p.queues := by
  cases outcome <;> rfl

theorem step_answer_last {now : UInt64} {parcel : Parcel} {report : Report} {outer : List Frame}
    (outcome : Outcome) (framed : p.frames = .drain queue now parcel [] report :: outer)
    (unlocked : (p.queues queue).locked = false) :
    p.step (.answer outcome) =
      (p.popped.delivered parcel outcome).advance queue now
        (p.popped.recorded parcel outcome report) (p.popped.noted parcel outcome) := by
  have free : ((p.popped.delivered parcel outcome).queues queue).locked = false := by
    rw [queues_delivered]
    exact unlocked
  rw [← proceed_eq_advance free]
  simp only [step, popped, framed]
  rfl

end equations

/-- What an action comes to, case by case. -/
inductive Effect (p : Pipeline) : Action → Step → Prop where
  | register (marker : Marker) :
    Effect p (.register marker)
      { reply := .registered p.markers.count
        state := { p with markers := (p.markers.add marker).2 } }
  | revise (marker : MarkerId) (change : Marker.Change) :
    Effect p (.revise marker change) { reply := .revised, state := p.revise marker change }
  | send (marker : MarkerId) (event : Event) :
    Effect p (.send marker event)
      { reply := .calling (p.call ⟨marker, event⟩), state := p.push (.send ⟨marker, event⟩) }
  | refuse (queue : QueueId) {event : Event} (unmarked : event.marker = none) :
    Effect p (.enqueue queue event)
      { reply := .queued (.error (.missingMarker event.id)), state := p }
  | enqueue (queue : QueueId) {event : Event} {marker : MarkerId}
    (marked : event.marker = some marker) :
    Effect p (.enqueue queue event)
      { reply := .queued (.ok ⟨event.id, marker⟩)
        state := p.hold queue
          ((p.queues queue).backlog.insert ⟨(p.markers.get marker).newIndex, event.id⟩ event)
          (p.markers.setQueued marker (some (p.markers.get marker).newIndex))
        notices := [.queued event.id (p.markers.get marker).newIndex] }
  | move {queue : QueueId} {ticket : Ticket} {old : UInt64} {event : Event}
    (moves : p.Moves queue ticket old event) :
    Effect p (.reposition queue ticket)
      { reply := .moved true
        state := p.hold queue
          (((p.queues queue).backlog.erase ⟨old, ticket.event⟩).insert
            ⟨(p.markers.get ticket.marker).newIndex, ticket.event⟩ event)
          (p.markers.setQueued ticket.marker (some (p.markers.get ticket.marker).newIndex))
        notices := [.moved ticket.event old (p.markers.get ticket.marker).newIndex] }
  | stay {queue : QueueId} {ticket : Ticket}
    (stays : ∀ old event, ¬p.Moves queue ticket old event) :
    Effect p (.reposition queue ticket) { reply := .moved false, state := p }
  | withhold {action : Action} {queue : QueueId} {ticket : Ticket} {now : UInt64}
    (progress : action = .complete queue ticket now ∨ action = .signal queue ticket now)
    (withheld : p.asks? action = none) :
    Effect p action { reply := .reported {}, state := p.prepared action }
  | wait {action : Action} {queue : QueueId} {now : UInt64}
    (asked : p.asks? action = some (queue, now)) (busy : (p.queues queue).draining = true) :
    Effect p action { reply := .reported {}, state := (p.prepared action).mark queue }
  | begin {action : Action} {queue : QueueId} {now : UInt64}
    (asked : p.asks? action = some (queue, now)) (idle : (p.queues queue).draining = false) :
    Effect p action (((p.prepared action).begin queue).advance queue now {} [])
  | evict (queue : QueueId) (now : UInt64) :
    Effect p (.evict queue now)
      { reply := .evicted (p.overdue queue now)
        state := p.hold queue
          ((p.queues queue).backlog.partition fun entry => p.markers.isOverdue now entry.2).2
          ((p.overdue queue now).foldl Markers.clearQueued p.markers) }
  | remove {queue : QueueId} {ticket : Ticket} {event : Event}
    (member : (p.removalKey ticket, event) ∈ p.entries queue) :
    Effect p (.remove queue ticket)
      { reply := .removed (some event)
        state := p.hold queue ((p.queues queue).backlog.erase (p.removalKey ticket))
          (p.markers.setQueued ticket.marker none) }
  | miss {queue : QueueId} {ticket : Ticket}
    (absent : ∀ event, (p.removalKey ticket, event) ∉ p.entries queue) :
    Effect p (.remove queue ticket) { reply := .removed none, state := p }
  | count (queue : QueueId) :
    Effect p (.count queue) { reply := .counted (p.entries queue).length, state := p }
  | idle (outcome : Outcome) (closed : p.frames = []) :
    Effect p (.answer outcome) { reply := .idle, state := p }
  | sent {parcel : Parcel} {outer : List Frame} (outcome : Outcome)
    (framed : p.frames = .send parcel :: outer) :
    Effect p (.answer outcome)
      { reply := .sent (p.popped.deliver parcel outcome).1
        state := p.popped.delivered parcel outcome
        notices := (p.popped.deliver parcel outcome).2.2 }
  | next {queue : QueueId} {now : UInt64} {parcel next : Parcel} {rest : List Parcel}
    {report : Report} {outer : List Frame} (outcome : Outcome)
    (framed : p.frames = .drain queue now parcel (next :: rest) report :: outer) :
    Effect p (.answer outcome)
      ((p.popped.delivered parcel outcome).transmit queue now next rest
        (p.popped.recorded parcel outcome report) (p.popped.noted parcel outcome))
  | last {queue : QueueId} {now : UInt64} {parcel : Parcel} {report : Report} {outer : List Frame}
    (outcome : Outcome) (framed : p.frames = .drain queue now parcel [] report :: outer) :
    Effect p (.answer outcome)
      ((p.popped.delivered parcel outcome).advance queue now
        (p.popped.recorded parcel outcome report) (p.popped.noted parcel outcome))

theorem asks?_cases {p : Pipeline} {action : Action} {queue : QueueId} {now : UInt64}
    (asked : p.asks? action = some (queue, now)) :
    (∃ ticket, action = .complete queue ticket now) ∨
      (∃ ticket, action = .signal queue ticket now) ∨ action = .trySend queue now := by
  cases action with
  | complete q ticket time =>
    simp only [asks?] at asked
    split at asked
    next => cases asked
    next =>
      cases asked
      exact .inl ⟨ticket, rfl⟩
  | signal q ticket time =>
    simp only [asks?] at asked
    split at asked
    next => cases asked
    next =>
      cases asked
      exact .inr (.inl ⟨ticket, rfl⟩)
  | trySend q time =>
    cases asked
    exact .inr (.inr rfl)
  | _ => cases asked

theorem step_of_asks {p : Pipeline} {action : Action} {queue : QueueId} {now : UInt64}
    (asked : p.asks? action = some (queue, now)) :
    p.step action = (p.prepared action).trySend queue now := by
  rcases asks?_cases asked with ⟨ticket, rfl⟩ | ⟨ticket, rfl⟩ | rfl
  · simp only [asks?] at asked
    split at asked
    next => cases asked
    next free => exact if_neg free
  · simp only [asks?] at asked
    split at asked
    next => cases asked
    next free => exact if_neg free
  · rfl

/-- A packet that has to wait for a listener is only noted in its marker. -/
theorem step_of_withheld {p : Pipeline} {action : Action} {queue : QueueId} {ticket : Ticket}
    {now : UInt64}
    (progress : action = .complete queue ticket now ∨ action = .signal queue ticket now)
    (withheld : p.asks? action = none) :
    p.step action = { reply := .reported {}, state := p.prepared action } := by
  rcases progress with rfl | rfl
  · simp only [asks?] at withheld
    split at withheld
    next holding => exact if_pos holding
    next => cases withheld
  · simp only [asks?] at withheld
    split at withheld
    next awaited => exact if_pos awaited
    next => cases withheld

theorem queues_prepared (p : Pipeline) (action : Action) :
    (p.prepared action).queues = p.queues := by
  cases action <;> rfl

theorem frames_prepared (p : Pipeline) (action : Action) :
    (p.prepared action).frames = p.frames := by
  cases action <;> rfl

/-- What is asked of a queue at rest begins with a look. -/
theorem step_of_begin {p : Pipeline} {action : Action} {queue : QueueId} {now : UInt64}
    (unlocked : (p.queues queue).locked = false) (asked : p.asks? action = some (queue, now))
    (idle : (p.queues queue).draining = false) :
    p.step action = ((p.prepared action).begin queue).advance queue now {} [] := by
  -- The marker is prepared first, which touches no queue.
  have same := queues_prepared p action
  rw [step_of_asks asked]
  exact trySend_idle (by rw [same]; exact unlocked) (by rw [same]; exact idle) now

theorem effect_of_asks {p : Pipeline} (unlocked : ∀ queue, (p.queues queue).locked = false)
    {action : Action} {queue : QueueId} {now : UInt64}
    (asked : p.asks? action = some (queue, now)) : Effect p action (p.step action) := by
  cases draining : (p.queues queue).draining with
  | true =>
    rw [step_of_asks asked, trySend_busy (by rw [queues_prepared]; exact draining)]
    exact .wait asked draining
  | false =>
    rw [step_of_begin (unlocked queue) asked draining]
    exact .begin asked draining

/-- A step has one of the effects listed. -/
theorem step_effect {p : Pipeline} (unlocked : ∀ queue, (p.queues queue).locked = false)
    (action : Action) : Effect p action (p.step action) := by
  cases action with
  | register marker => exact .register marker
  | revise marker change => exact .revise marker change
  | send marker event => exact .send marker event
  | enqueue queue event =>
    cases marked : event.marker with
    | none =>
      rw [step_enqueue_of_unmarked marked]
      exact .refuse queue marked
    | some marker =>
      rw [step_enqueue (unlocked queue) marked]
      exact .enqueue queue marked
  | reposition queue ticket =>
    by_cases moves : ∃ old event, p.Moves queue ticket old event
    · obtain ⟨old, event, moves⟩ := moves
      rw [step_reposition (unlocked queue) moves]
      exact .move moves
    · have stays : ∀ old event, ¬p.Moves queue ticket old event :=
        fun old event found => moves ⟨old, event, found⟩
      rw [step_reposition_of_not_moves (unlocked queue) stays]
      exact .stay stays
  | complete queue ticket now =>
    cases asked : p.asks? (.complete queue ticket now) with
    | some send => exact effect_of_asks unlocked asked
    | none =>
      rw [step_of_withheld (.inl rfl) asked]
      exact .withhold (.inl rfl) asked
  | signal queue ticket now =>
    cases asked : p.asks? (.signal queue ticket now) with
    | some send => exact effect_of_asks unlocked asked
    | none =>
      rw [step_of_withheld (.inr rfl) asked]
      exact .withhold (.inr rfl) asked
  | trySend queue now => exact effect_of_asks unlocked rfl
  | evict queue now =>
    rw [step_evict (unlocked queue)]
    exact .evict queue now
  | remove queue ticket =>
    by_cases present : ∃ event, (p.removalKey ticket, event) ∈ p.entries queue
    · obtain ⟨event, member⟩ := present
      rw [step_remove (unlocked queue) member]
      exact .remove member
    · have absent : ∀ event, (p.removalKey ticket, event) ∉ p.entries queue :=
        fun event member => present ⟨event, member⟩
      rw [step_remove_of_absent (unlocked queue) absent]
      exact .miss absent
  | count queue =>
    rw [step_count (unlocked queue)]
    exact .count queue
  | answer outcome =>
    cases framed : p.frames with
    | nil =>
      have ignored : p.step (.answer outcome) = { reply := .idle, state := p } := by
        simp only [step, framed]
      rw [ignored]
      exact .idle outcome framed
    | cons frame outer =>
      cases frame with
      | send parcel =>
        rw [step_answer_send outcome framed]
        exact .sent outcome framed
      | drain queue now parcel waiting report =>
        cases waiting with
        | nil =>
          rw [step_answer_last outcome framed (unlocked queue)]
          exact .last outcome framed
        | cons next waiting =>
          rw [step_answer_next outcome framed]
          exact .next outcome framed

end Pipeline

end PacketFlow
