import PacketFlow.Proofs.Progress

/-! Queues that nothing may leave.

A send stops at a packet that has to wait. Whether it has to is decided by the deadline, the
readiness and the deferrals in its marker, and nothing that queues and streams write into markers
changes these. So a send that looks at such a queue ends, and leaves it as it was.
-/

set_option autoImplicit false

namespace PacketFlow

/-- Nothing may leave a queue at a time: it is empty, or the deadline of its first packet has not
passed, and that packet is unfinished or deferred. -/
def Pipeline.Settled (p : Pipeline) (queue : QueueId) (now : UInt64) : Prop :=
  ∀ head ∈ (p.entries queue).head?, ∃ id, head.2.marker = some id ∧
    now ≤ (p.markers.get id).timeout ∧
      ((p.markers.get id).processed = false ∧ (p.markers.get id).asyncCancelled = false ∨
        0 < (p.markers.get id).deferrals.outstanding)

namespace Release

theorem fate_eq_held {now : UInt64} {markers : Markers} {event : Event} :
    fate now markers event = .held ↔ ∃ id, event.marker = some id ∧
      (markers.get id).isExpiredAt now = false ∧ (markers.get id).isReady = false := by
  unfold fate
  repeat' split
  all_goals simp_all

/-- The first packet that a release leaves had to wait. -/
theorem held_of_head {now : UInt64} {entries : List Entry} {markers : Markers} {head : Entry}
    (left : (heads now entries markers).left.head? = some head) :
    fate now markers head.2 = .held := by
  rw [heads_left] at left
  have fails := List.head?_dropWhile_not (fun entry => fate now markers entry.2 ≠ .held) entries
  rw [left] at fails
  simpa using fails

/-- The fate of an event hangs on what decides about release, and on nothing else of a marker. -/
theorem fate_of_sameGates {first second : Markers} (same : first.SameGates second) (now : UInt64)
    (event : Event) : fate now first event = fate now second event := by
  unfold fate
  split
  next => rfl
  next id _ =>
    have gate := same.gate id
    simp only [Marker.gate, Marker.Gate.mk.injEq] at gate
    obtain ⟨timeout, processed, asyncCancelled, deferrals⟩ := gate
    have expired : (first.get id).isExpiredAt now = (second.get id).isExpiredAt now := by
      rw [Marker.isExpiredAt, Marker.isExpiredAt, timeout]
    have ready : (first.get id).isReady = (second.get id).isReady := by
      simp only [Marker.isReady, Marker.isFinished, processed, asyncCancelled, deferrals]
    rw [expired, ready]

theorem heads_of_held {now : UInt64} {entries : List Entry} {markers : Markers}
    (held : ∀ head ∈ entries.head?, fate now markers head.2 = .held) :
    heads now entries markers = { left := entries, markers := markers } := by
  cases entries with
  | nil => rfl
  | cons entry rest => rw [heads_cons, held entry rfl]

end Release

namespace Pipeline

theorem settled_iff_held {p : Pipeline} {queue : QueueId} {now : UInt64} :
    p.Settled queue now ↔
      ∀ head ∈ (p.entries queue).head?, Release.fate now p.markers head.2 = .held := by
  simp only [Settled, Release.fate_eq_held, Marker.isReady_eq_false_iff, Marker.isExpiredAt,
    decide_eq_false_iff_not, UInt64.not_lt]

theorem Settled.earlier {p : Pipeline} {queue : QueueId} {early late : UInt64}
    (settled : p.Settled queue late) (before : early ≤ late) : p.Settled queue early := by
  intro head stands
  obtain ⟨id, marked, timely, waits⟩ := settled head stands
  exact ⟨id, marked, UInt64.le_trans before timely, waits⟩

/-- After a look, whatever it took, what stands first has to wait. -/
theorem settled_of_advance (p : Pipeline) (queue : QueueId) (now : UInt64) (report : Report)
    (notices : List Notice) : (p.advance queue now report notices).state.Settled queue now := by
  rw [settled_iff_held]
  intro head stands
  rw [entries_advance, entries_looked, if_pos rfl] at stands
  rw [Release.fate_of_sameGates (sameGates_advance ..)]
  exact Release.held_of_head stands

theorem Settled.congr {p next : Pipeline} {queue : QueueId} {now : UInt64}
    (settled : p.Settled queue now) (entries : next.entries queue = p.entries queue)
    (gates : next.markers.SameGates p.markers) : next.Settled queue now := by
  rw [settled_iff_held] at settled ⊢
  intro head stands
  rw [Release.fate_of_sameGates gates]
  exact settled head (entries ▸ stands)

/-- A look at a queue that nothing may leave ends the send. -/
theorem advance_of_settled {p : Pipeline} {queue : QueueId} {now : UInt64}
    (settled : p.Settled queue now) (report : Report) (notices : List Notice) :
    p.advance queue now report notices =
      { reply := .reported report, state := p.rest queue, notices := notices } := by
  have nothing : p.released queue now = { left := p.entries queue, markers := p.markers } :=
    Release.heads_of_held (settled_iff_held.mp settled)
  rw [advance_of_nil (by rw [nothing]), looked_eq_self nothing, nothing, Report.absorb_nothing,
    List.append_nil]

theorem step_of_settled {p : Pipeline} (guarded : p.Guarded) {queue : QueueId} {now : UInt64}
    (settled : p.Settled queue now) (idle : (p.queues queue).draining = false) :
    p.step (.trySend queue now) = { reply := .reported {}, state := p } := by
  have begun : p.step (.trySend queue now) = (p.begin queue).advance queue now {} [] :=
    trySend_idle (guarded.unlocked queue) idle now
  have waits : (p.begin queue).Settled queue now :=
    settled.congr (entries_begin ..) (Markers.Alike.refl _).sameGates
  -- The guard is taken and given back, and no mark was there.
  have rested : (p.begin queue).rest queue = p := by
    have quiet := guarded.quiet queue idle
    have flags : { p.queues queue with draining := false, rerun := false } = p.queues queue := by
      cases same : p.queues queue
      simp_all
    simp only [rest, begin, setQueue_setQueue, queues_setQueue_self, flags, setQueue_self]
  rw [begun, advance_of_settled waits, rested]

/-- When a look at a time takes nothing more, the deadline of what stands first has not passed. -/
theorem timely_of_advance {p : Pipeline} {queue : QueueId} {now : UInt64} {report : Report}
    {notices : List Notice} {head : Entry} :
    let step := p.advance queue now report notices
    (step.state.entries queue).head? = some head →
      ∃ id, head.2.marker = some id ∧ now ≤ (step.state.markers.get id).timeout := by
  intro step stands
  obtain ⟨id, marked, timely, _⟩ := settled_of_advance p queue now report notices head stands
  exact ⟨id, marked, timely⟩

end Pipeline

end PacketFlow
