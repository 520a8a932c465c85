import PacketFlow.Proofs.Order

/-! Calls that come back into a queue.

While a send of a queue waits for a stream, anything may be asked of the queue again from inside
that stream. A second send is not begun then: it leaves a mark for the one under way. Every other
operation finds the queue unlocked and does what it would do with nothing under way.
-/

set_option autoImplicit false

namespace PacketFlow

/-- The queue that an action may ask to send. -/
def Action.sends? : Action → Option QueueId
  | .complete queue .. | .signal queue .. | .trySend queue _ => some queue
  | _ => none

/-- The queue whose backlog an action works on without asking for a send. -/
def Action.handles? : Action → Option QueueId
  | .enqueue queue _ | .reposition queue _ | .evict queue _ | .remove queue _ => some queue
  | .count queue => some queue
  | _ => none

/-- The call of a queue whose answer a frame waits for. -/
def Frame.atStream (queue : QueueId) : Frame → List (UInt64 × Parcel)
  | .send _ => []
  | .drain other now parcel _ _ => if other = queue then [(now, parcel)] else []

/-- The call of a queue that is answered in a turn. -/
def Turn.answered (queue : QueueId) (turn : Turn) : List (UInt64 × Parcel) :=
  match turn.action, turn.state.frames with
  | .answer _, frame :: _ => frame.atStream queue
  | _, _ => []

namespace Pipeline

/-- The calls of a queue that wait for their answers. -/
def atStream (p : Pipeline) (queue : QueueId) : List (UInt64 × Parcel) :=
  p.frames.flatMap (Frame.atStream queue)

/-- The process with nothing under way: no call is open, and every queue may be sent. -/
def atRest (p : Pipeline) : Pipeline where
  markers := p.markers
  queues id := { p.queues id with draining := false, rerun := false }
  frames := []

/-- The process with the open calls and the guards of another one. -/
def inside (p outer : Pipeline) : Pipeline where
  markers := p.markers
  queues id :=
    { p.queues id with draining := (outer.queues id).draining, rerun := (outer.queues id).rerun }
  frames := outer.frames

end Pipeline

def Step.inside (step : Step) (outer : Pipeline) : Step :=
  { step with state := step.state.inside outer }

namespace Pipeline

theorem inside_hold_atRest (p : Pipeline) (queue : QueueId) (backlog : Backlog)
    (markers : Markers) :
    (p.atRest.hold queue backlog markers).inside p = p.hold queue backlog markers := by
  have queues : ((p.atRest.hold queue backlog markers).inside p).queues =
      (p.hold queue backlog markers).queues := by
    funext other
    simp only [inside, queues_hold]
    split
    next same =>
      subst same
      rfl
    next => rfl
  simp only [hold, inside, setQueue] at queues ⊢
  rw [queues]

/-- What works on a backlog without a send works inside a stream as it does at rest. -/
theorem step_eq_inside {p : Pipeline} (unlocked : ∀ queue, (p.queues queue).locked = false)
    {action : Action} {queue : QueueId} (handles : action.handles? = some queue) :
    p.step action = (p.atRest.step action).inside p := by
  have free : (p.atRest.queues queue).locked = false := unlocked queue
  cases action with
  | enqueue other event =>
    cases handles
    cases marked : event.marker with
    | none =>
      rw [step_enqueue_of_unmarked marked, step_enqueue_of_unmarked marked]
      rfl
    | some marker =>
      rw [step_enqueue (unlocked queue) marked, step_enqueue free marked, Step.inside,
        inside_hold_atRest]
      rfl
  | reposition other ticket =>
    cases handles
    by_cases moves : ∃ old event, p.Moves queue ticket old event
    · obtain ⟨old, event, moves⟩ := moves
      have same : p.atRest.Moves queue ticket old event := moves
      rw [step_reposition (unlocked queue) moves, step_reposition free same, Step.inside,
        inside_hold_atRest]
      rfl
    · have stays : ∀ old event, ¬p.Moves queue ticket old event :=
        fun old event found => moves ⟨old, event, found⟩
      have same : ∀ old event, ¬p.atRest.Moves queue ticket old event := stays
      rw [step_reposition_of_not_moves (unlocked queue) stays,
        step_reposition_of_not_moves free same]
      rfl
  | evict other now =>
    cases handles
    rw [step_evict (unlocked queue), step_evict free, Step.inside, inside_hold_atRest]
    rfl
  | remove other ticket =>
    cases handles
    by_cases present : ∃ event, (p.removalKey ticket, event) ∈ p.entries queue
    · obtain ⟨event, member⟩ := present
      have same : (p.atRest.removalKey ticket, event) ∈ p.atRest.entries queue := member
      rw [step_remove (unlocked queue) member, step_remove free same, Step.inside,
        inside_hold_atRest]
      rfl
    · have absent : ∀ event, (p.removalKey ticket, event) ∉ p.entries queue :=
        fun event member => present ⟨event, member⟩
      have same : ∀ event, (p.atRest.removalKey ticket, event) ∉ p.atRest.entries queue := absent
      rw [step_remove_of_absent (unlocked queue) absent, step_remove_of_absent free same]
      rfl
  | count other =>
    cases handles
    rw [step_count (unlocked queue), step_count free]
    rfl
  | _ => cases handles

theorem Guarded.draining_iff {p : Pipeline} (guarded : p.Guarded) (queue : QueueId) :
    (p.queues queue).draining = true ↔ 0 < p.sends queue := by
  rw [guarded.single]
  cases (p.queues queue).draining <;> simp

theorem Guarded.sends_le {p : Pipeline} (guarded : p.Guarded) (queue : QueueId) :
    p.sends queue ≤ 1 := by
  rw [guarded.single]
  exact Bool.toNat_le _

/-- What an action that asks for a send comes to while one is under way. -/
theorem step_of_busy {p : Pipeline} (guarded : p.Guarded) {action : Action} {queue : QueueId}
    (sends : action.sends? = some queue) (busy : 0 < p.sends queue) :
    p.step action =
      { reply := .reported {}
        state := (p.prepared action).setQueue queue
          { p.queues queue with
            rerun := (p.queues queue).rerun || (p.asks? action).isSome } } := by
  have draining := (guarded.draining_iff queue).mpr busy
  have same := queues_prepared p action
  cases asked : p.asks? action with
  | some send =>
    have own : send.1 = queue := by
      rcases asks?_cases asked with ⟨ticket, rfl⟩ | ⟨ticket, rfl⟩ | rfl <;>
        exact Option.some.inj sends
    rw [step_of_asks asked, own, trySend_busy (by rw [same]; exact draining), mark, same]
    simp
  | none =>
    have effect := step_effect guarded.unlocked action
    generalize p.step action = step at effect ⊢
    have kept : (p.prepared action).setQueue queue (p.queues queue) = p.prepared action := by
      rw [← same, setQueue_self]
    cases effect with
    | withhold => simp [kept]
    | wait asks | begin asks =>
      rw [asked] at asks
      cases asks
    | _ => cases sends

theorem reply_advance_ne_stuck (p : Pipeline) (queue : QueueId) (now : UInt64) (report : Report)
    (notices : List Notice) : (p.advance queue now report notices).reply ≠ .stuck := by
  cases batch : (p.released queue now).batch with
  | nil => simp [advance_of_nil batch]
  | cons => simp [advance_of_cons batch, transmit]

/-- No operation waits for a lock. -/
theorem reply_ne_stuck {p : Pipeline} (guarded : p.Guarded) (action : Action) :
    (p.step action).reply ≠ .stuck := by
  have effect := step_effect guarded.unlocked action
  generalize p.step action = step at effect ⊢
  cases effect with
  | begin | last => exact reply_advance_ne_stuck _ _ _ _ _
  | _ => exact Reply.noConfusion

theorem length_atStream (p : Pipeline) (queue : QueueId) :
    (p.atStream queue).length = p.sends queue := by
  unfold atStream sends
  induction p.frames with
  | nil => rfl
  | cons frame outer ih =>
    rw [List.flatMap_cons, List.length_append, ih, List.map_cons, List.count_cons]
    cases frame with
    | send => simp [Frame.atStream, Frame.queue?]
    | drain other =>
      by_cases same : other = queue <;> simp [Frame.atStream, Frame.queue?, same, Nat.add_comm]

theorem atStream_congr {p next : Pipeline} (frames : next.frames = p.frames) (queue : QueueId) :
    next.atStream queue = p.atStream queue := by
  rw [atStream, atStream, frames]

theorem atStream_popped {p : Pipeline} {frame : Frame} {outer : List Frame}
    (framed : p.frames = frame :: outer) (queue : QueueId) :
    p.atStream queue = frame.atStream queue ++ p.popped.atStream queue := by
  simp [atStream, popped, framed]

theorem atStream_transmit (p : Pipeline) (queue other : QueueId) (now : UInt64) (parcel : Parcel)
    (rest : List Parcel) (report : Report) (notices : List Notice) :
    (p.transmit queue now parcel rest report notices).state.atStream other =
      (if queue = other then [(now, parcel)] else []) ++ p.atStream other := rfl

theorem atStream_of_free {p : Pipeline} {queue : QueueId} (free : p.sends queue = 0) :
    p.atStream queue = [] := by
  apply List.eq_nil_of_length_eq_zero
  rw [length_atStream, free]

/-- A call that is made is the only one of its queue. -/
theorem Looking.atStream_transmit {p : Pipeline} {queue : QueueId} (looking : p.Looking queue)
    (other : QueueId) (now : UInt64) (parcel : Parcel) (rest : List Parcel) (report : Report)
    (notices : List Notice) :
    let step := p.transmit queue now parcel rest report notices
    step.state.atStream other = p.atStream other ++ step.calls other := by
  dsimp only
  rw [Pipeline.atStream_transmit, calls_transmit]
  by_cases same : queue = other
  · subst same
    simp [atStream_of_free looking.free]
  · simp [same]

theorem Looking.atStream_advance {p : Pipeline} {queue : QueueId} (looking : p.Looking queue)
    (other : QueueId) (now : UInt64) (report : Report) (notices : List Notice) :
    let step := p.advance queue now report notices
    step.state.atStream other = p.atStream other ++ step.calls other := by
  dsimp only
  cases batch : (p.released queue now).batch with
  | nil =>
    rw [advance_of_nil batch]
    exact (List.append_nil _).symm
  | cons parcel waiting =>
    rw [advance_of_cons batch]
    exact (looking.looked now).atStream_transmit ..

end Pipeline

open Pipeline

/-- A turn takes at most one call off those that wait, and adds the one it makes. -/
theorem Turn.balance {turn : Turn} (guarded : turn.state.Guarded) (queue : QueueId) :
    turn.state.atStream queue ++ turn.calls queue =
      turn.answered queue ++ turn.step.state.atStream queue := by
  obtain ⟨p, action⟩ := turn
  have effect := step_effect guarded.unlocked action
  simp only [calls, step] at *
  generalize p.step action = step at effect ⊢
  cases effect with
  | register | revise | send | refuse | enqueue | move | stay | evict | remove | miss | count =>
    exact List.append_nil _
  | withhold progress =>
    have kept := atStream_congr (frames_prepared p action) queue
    rcases progress with rfl | rfl <;> simp [answered, Step.calls, kept]
  | @wait action other now asked =>
    have kept : ((p.prepared action).mark other).atStream queue = p.atStream queue :=
      atStream_congr (frames_prepared ..) queue
    rcases asks?_cases asked with ⟨ticket, rfl⟩ | ⟨ticket, rfl⟩ | rfl <;>
      simp [answered, Step.calls, kept]
  | @begin action other now asked idle =>
    have looking : ((p.prepared action).begin other).Looking other := by
      apply (guarded.prepared action).begin
      rw [queues_prepared]
      exact idle
    have kept : ((p.prepared action).begin other).atStream queue = p.atStream queue :=
      atStream_congr (frames_prepared ..) queue
    rw [looking.atStream_advance, kept]
    rcases asks?_cases asked with ⟨ticket, rfl⟩ | ⟨ticket, rfl⟩ | rfl <;> rfl
  | idle outcome closed => simp [answered, Step.calls, closed]
  | @sent parcel outer outcome framed =>
    have kept : (p.popped.delivered parcel outcome).atStream queue = p.popped.atStream queue :=
      atStream_congr (by cases outcome <;> rfl) queue
    simp [answered, Step.calls, framed, atStream_popped framed, kept]
  | @next other now parcel next waiting report outer outcome framed =>
    have looking := (guarded.popped_drain framed).delivered parcel outcome
    have kept : (p.popped.delivered parcel outcome).atStream queue = p.popped.atStream queue :=
      atStream_congr (by cases outcome <;> rfl) queue
    rw [looking.atStream_transmit, kept, atStream_popped framed, List.append_assoc]
    simp [answered, framed]
  | @last other now parcel report outer outcome framed =>
    have looking := (guarded.popped_drain framed).delivered parcel outcome
    have kept : (p.popped.delivered parcel outcome).atStream queue = p.popped.atStream queue :=
      atStream_congr (by cases outcome <;> rfl) queue
    rw [looking.atStream_advance, kept, atStream_popped framed, List.append_assoc]
    simp [answered, framed]

theorem Run.balance_from {start p : Pipeline} {history : List Turn} (run : Run start history p)
    (guarded : start.Guarded) (queue : QueueId) :
    start.atStream queue ++ history.flatMap (Turn.calls queue) =
      history.flatMap (Turn.answered queue) ++ p.atStream queue := by
  induction run with
  | start => exact List.append_nil _
  | @perform history p run action ih =>
    have last := @Turn.balance ⟨p, action⟩ (run.keeps Guarded.step guarded) queue
    rw [List.flatMap_append, List.flatMap_append, List.flatMap_singleton, List.flatMap_singleton,
      ← List.append_assoc, ih, List.append_assoc, List.append_assoc, last]
    rfl

theorem Run.balance {history : List Turn} {p : Pipeline} (run : Run {} history p)
    (queue : QueueId) :
    history.flatMap (Turn.calls queue) =
      history.flatMap (Turn.answered queue) ++ p.atStream queue :=
  run.balance_from guarded_empty queue

/-- When a call is made, every earlier call of its queue has been answered. -/
theorem Turn.answered_of_calls {turn : Turn} (guarded : turn.state.Guarded) {queue : QueueId}
    (makes : turn.calls queue ≠ []) : turn.state.atStream queue = turn.answered queue := by
  have balance := turn.balance guarded queue
  have single : (turn.step.state.atStream queue).length ≤ 1 := by
    rw [length_atStream]
    exact (guarded.step turn.action).sends_le queue
  -- The open call after the turn is the one that is made, and it is the only one.
  have made : turn.step.state.atStream queue = turn.calls queue := by
    simp only [calls, Step.calls] at makes ⊢
    split at makes
    next outer _ framed =>
      rw [atStream, framed, List.flatMap_cons] at single ⊢
      split at makes
      next own =>
        have outside : outer.flatMap (Frame.atStream queue) = [] := by
          apply List.eq_nil_of_length_eq_zero
          rw [Frame.atStream, if_pos own, List.length_append, List.length_singleton] at single
          omega
        rw [outside, List.append_nil]
        rfl
      next => exact absurd rfl makes
    next => exact absurd rfl makes
  rw [made] at balance
  exact List.append_cancel_right balance

/-- How a queue stands to calls that come back into it, after a history. -/
structure Reentrant (history : List Turn) (p : Pipeline) (queue : QueueId) : Prop where
  /-- While a send is under way, another one is not begun. The marker of the ticket is brought up to
  date, and a mark is left when there is something to send. -/
  nested : ∀ action : Action, action.sends? = some queue → 0 < p.sends queue →
    p.step action =
      { reply := .reported {}
        state := (p.prepared action).setQueue queue
          { p.queues queue with
            rerun := (p.queues queue).rerun || (p.asks? action).isSome } }
  /-- Calls are answered in turn, and at most one of them is open. -/
  answered : history.flatMap (Turn.calls queue) =
    history.flatMap (Turn.answered queue) ++ p.atStream queue
  single : (p.atStream queue).length ≤ 1
  /-- No call is made before the answers of all earlier ones. -/
  alone : ∀ before turn after, history = before ++ turn :: after → turn.calls queue ≠ [] →
    before.flatMap (Turn.calls queue) = (before ++ [turn]).flatMap (Turn.answered queue)
  unlocked : (p.queues queue).locked = false
  /-- No operation meets the lock of another one below it. -/
  proceeds : ∀ action : Action, (p.step action).reply ≠ .stuck
  /-- Inside a stream the backlog is worked on as at rest. -/
  handles : ∀ action : Action, action.handles? = some queue →
    p.step action = (p.atRest.step action).inside p
  /-- With no send under way the guard is free, and no mark is left. -/
  idle : p.sends queue = 0 →
    (p.queues queue).draining = false ∧ (p.queues queue).rerun = false

/-- A queue may be called from inside its own streams, in every run and at any depth. -/
theorem single_drainer {history : List Turn} {p : Pipeline} (run : Run {} history p)
    (queue : QueueId) : Reentrant history p queue where
  nested action sends busy := step_of_busy run.guarded sends busy
  answered := run.balance queue
  single := by
    rw [length_atStream]
    exact run.guarded.sends_le queue
  alone before turn after parts makes := by
    have first := (run.cut parts).1
    rw [List.flatMap_append, List.flatMap_singleton,
      ← Turn.answered_of_calls first.guarded makes]
    exact first.balance queue
  unlocked := run.guarded.unlocked queue
  proceeds := reply_ne_stuck run.guarded
  handles action handles := step_eq_inside run.guarded.unlocked handles
  idle free := by
    have flag : (p.queues queue).draining = false := by
      rw [← Bool.not_eq_true, run.guarded.draining_iff, free]
      exact Nat.lt_irrefl 0
    exact ⟨flag, run.guarded.quiet queue flag⟩

/-- While one packet is at the stream another is queued, completed and moved, and the queue is asked
to send; all of it is done by the send under way. -/
def callsBack : List Action :=
  [.register (.fresh 0 1 0 (.ofMillis 100)), .register (.fresh 0 2 0 (.ofMillis 100)),
    .enqueue 0 (.chat 0 0), .complete 0 ⟨0, 0⟩ 50, .enqueue 0 (.chat 1 1),
    .complete 0 ⟨1, 1⟩ 60, .revise 1 (.newIndex 7), .reposition 0 ⟨1, 1⟩, .trySend 0 70,
    .answer (.ok ()), .trySend 0 80, .answer (.ok ())]

theorem single_drainer_callsBack : Run {} (turns {} callsBack) (after {} callsBack) ∧
    Reentrant (turns {} callsBack) (after {} callsBack) 0 ∧
    ((turns {} callsBack).flatMap (Turn.calls 0)).map (fun sending => sending.2.event.id) =
      [0, 1] ∧
    (turns {} callsBack).map (fun turn => turn.state.sends 0) =
      [0, 0, 0, 0, 1, 1, 1, 1, 1, 1, 1, 1] :=
  ⟨Run.ofActions {} callsBack, single_drainer (Run.ofActions {} callsBack) 0, by decide, by decide⟩

end PacketFlow
