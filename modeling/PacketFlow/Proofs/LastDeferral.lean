import PacketFlow.Proofs.Clearance
import PacketFlow.Proofs.Reentry

/-! The release of a last deferral.

Whoever releases a deferral asks for a send when none is left and the listeners of the packet have
finished. The send looks at once, so a packet that comes first leaves in that very turn, and with it
whatever may leave behind it. A packet whose listeners have not finished is left to its completion,
although a send that looked would take it as well when they are not waited for.
-/

set_option autoImplicit false

namespace PacketFlow

open Pipeline

/-- What leaves a queue with a send that begins in a turn, and where it goes. -/
structure Departs (turn : Turn) (queue : QueueId) (now : UInt64) : Prop where
  left : turn.step.state.entries queue = (turn.state.entries queue).dropWhile fun entry =>
    (turn.state.prepared turn.action).markers.lets now entry.2
  taken : (turn.takings queue).map Taking.sending =
    ((turn.state.prepared turn.action).sendings queue now).map (now, ·)
  dropped : turn.dropped queue =
    (((turn.state.prepared turn.action).departing queue now).filter fun parcel =>
      !(turn.state.prepared turn.action).markers.late now parcel && parcel.event.cancelled).map
        (·.event.id)
  /-- Once the queue has no send under way, what was taken out has been handed over and answered, in
  the order in which it was taken out. -/
  answered : ∀ later p, Run turn.step.state later p → (p.queues queue).draining = false →
    (turn :: later).flatMap (Turn.answered queue) =
      ((turn :: later).flatMap (Turn.takings queue)).map Taking.sending

theorem Turn.departs {turn : Turn} (guarded : turn.state.Guarded) {queue : QueueId}
    {now : UInt64} (begins : turn.begins? queue = some now) : Departs turn queue now := by
  obtain ⟨asked, idle⟩ := asks_of_begins begins
  have begun : turn.step =
      ((turn.state.prepared turn.action).begin queue).advance queue now {} [] :=
    step_of_begin (guarded.unlocked queue) asked idle
  have subject : turn.state.subject? turn.action = some queue := by
    rcases asks?_cases asked with ⟨ticket, same⟩ | ⟨ticket, same⟩ | same <;> rw [same] <;> rfl
  have same := released_begin (turn.state.prepared turn.action) queue now
  constructor
  case left =>
    rw [begun, entries_advance, entries_looked, if_pos rfl, same, released, Release.heads_left,
      entries_prepared]
    simp only [Release.lets_eq]
  case taken =>
    rw [takings_of_look (look?_of_begin asked idle), Look.takings, if_pos rfl,
      Release.map_sending_takings, ← released, same, batch_released]
  case dropped =>
    have gone := filter_taken (turn.state.prepared turn.action) queue now
      (show Fate.dropped ≠ .stray by decide)
      (fun parcel => !(turn.state.prepared turn.action).markers.late now parcel &&
        parcel.event.cancelled) fun parcel => by
          cases (turn.state.prepared turn.action).markers.late now parcel <;>
            cases parcel.event.cancelled <;> rfl
    rw [Turn.dropped, if_pos subject, begun, notices_advance, List.nil_append, same, released,
      Release.dropped_notices, gone, List.map_map]
    rfl
  case answered =>
    intro later p run freed
    have whole : Run turn.state (turn :: later) p := (Run.start.perform turn.action).append run
    have free : turn.state.sends queue = 0 := free_of_begins guarded begins
    have ended : p.sends queue = 0 := by
      rw [(whole.keeps Guarded.step guarded).single, freed]
      rfl
    have orders := whole.orders_from guarded queue
    have balance := whole.balance_from guarded queue
    rw [waiting_of_free free, waiting_of_free ended] at orders
    rw [atStream_of_free free, atStream_of_free ended] at balance
    rw [List.nil_append, List.append_nil] at orders balance
    exact balance.symm.trans orders

/-- A packet that is not late may leave when it is ready. -/
theorem Markers.lets_of_timely {markers : Markers} {now : UInt64} {event : Event} {id : MarkerId}
    (own : event.marker = some id) (timely : now ≤ (markers.get id).timeout) :
    markers.lets now event = true ↔
      ((markers.get id).processed = true ∨ (markers.get id).asyncCancelled = true) ∧
        (markers.get id).deferrals.outstanding ≤ 0 := by
  have prompt : ¬(markers.get id).timeout < now := UInt64.not_lt.mpr timely
  simp [lets, own, Marker.mayLeave, prompt]

namespace Pipeline

theorem markers_revise_self (p : Pipeline) (id : MarkerId) (change : Marker.Change) :
    (p.revise id change).markers.get id = (p.markers.get id).apply change := by
  simp [revise, Markers.revise]

theorem asks?_complete (p : Pipeline) (queue : QueueId) (ticket : Ticket) (now : UInt64) :
    p.asks? (.complete queue ticket now) =
      if (p.markers.get ticket.marker).deferrals.outstanding ≤ 0 then some (queue, now)
      else none := by
  have waits : (p.markers.get ticket.marker).deferrals.isHolding = true ↔
      ¬(p.markers.get ticket.marker).deferrals.outstanding ≤ 0 := by
    simp [Deferrals.isHolding]
  simp only [asks?, prepared, markers_revise_self, Marker.apply, waits, ite_not]

theorem asks?_signal (p : Pipeline) (queue : QueueId) (ticket : Ticket) (now : UInt64) :
    p.asks? (.signal queue ticket now) =
      if (p.markers.get ticket.marker).processed = true ∧
        (p.markers.get ticket.marker).deferrals.release.outstanding ≤ 0
      then some (queue, now) else none := by
  have waits : ((p.markers.get ticket.marker).deferrals.release.isHolding ||
      !(p.markers.get ticket.marker).processed) = true ↔
        ¬((p.markers.get ticket.marker).processed = true ∧
          (p.markers.get ticket.marker).deferrals.release.outstanding ≤ 0) := by
    rw [Bool.or_eq_true, Decidable.not_and_iff_not_or_not, or_comm]
    simp [Deferrals.isHolding]
  simp only [asks?, prepared, markers_revise_self, Marker.apply, waits, ite_not]

theorem head?_departing {p : Pipeline} {queue : QueueId} {now : UInt64} {head : Entry}
    {id : MarkerId} (first : (p.entries queue).head? = some head) (own : head.2.marker = some id)
    (ready : p.markers.lets now head.2 = true) :
    (p.departing queue now).head? = some ⟨id, head.2⟩ := by
  obtain ⟨rest, stored⟩ := List.head?_eq_some_iff.mp first
  have parcel : Release.parcel? head.2 = some ⟨id, head.2⟩ := by simp [Release.parcel?, own]
  rw [departing, stored, List.takeWhile_cons_of_pos (by exact ready),
    List.filterMap_cons_some (by exact parcel)]
  rfl

end Pipeline

/-- A packet that comes first leaves its queue with a send that begins in a turn, and does not come
late. -/
structure Leaves (turn : Turn) (queue : QueueId) (now : UInt64) (marker : MarkerId)
    (head : Entry) : Prop where
  departs : Departs turn queue now
  gone : head ∉ turn.step.state.entries queue
  dropped : head.2.cancelled = true → head.2.id ∈ turn.dropped queue
  sent : head.2.cancelled = false →
    ((turn.takings queue).map Taking.sending).head? = some (now, ⟨marker, head.2⟩)

theorem Turn.leaves {turn : Turn} (guarded : turn.state.Guarded) {queue : QueueId} {now : UInt64}
    (begins : turn.begins? queue = some now) {head : Entry} {id : MarkerId}
    (first : (turn.state.entries queue).head? = some head) (own : head.2.marker = some id)
    (timely : now ≤ ((turn.state.prepared turn.action).markers.get id).timeout)
    (ready : (turn.state.prepared turn.action).markers.lets now head.2 = true) :
    Leaves turn queue now id head := by
  obtain ⟨rest, stored⟩ := List.head?_eq_some_iff.mp first
  have departs := turn.departs guarded begins
  have ascending := turn.state.ascending queue
  rw [stored, List.pairwise_cons] at ascending
  have prompt : (turn.state.prepared turn.action).markers.late now ⟨id, head.2⟩ = false := by
    simpa [Markers.late] using timely
  obtain ⟨others, departing⟩ := List.head?_eq_some_iff.mp
    (head?_departing ((entries_prepared ..).symm ▸ first) own ready)
  constructor
  case departs => exact departs
  case gone =>
    rw [departs.left, stored, List.dropWhile_cons_of_pos (by exact ready)]
    intro again
    have behind := ascending.1 head ((List.dropWhile_suffix _).mem again)
    rw [Key.lt_irrefl] at behind
    cases behind
  case dropped =>
    intro cancelled
    rw [departs.dropped, departing, List.filter_cons_of_pos (by simp [prompt, cancelled])]
    exact List.mem_cons_self
  case sent =>
    intro wanted
    rw [departs.taken, sendings, departing, List.filter_cons_of_pos (by simp [prompt, wanted])]
    rfl

/-- What the release of a deferral comes to, for a packet that comes first in its queue. -/
structure LastRelease (p : Pipeline) (queue : QueueId) (ticket : Ticket) (now : UInt64)
    (head : Entry) : Prop where
  /-- When the listeners have finished and no deferral is left, the packet is sent at once. -/
  sends : (p.markers.get ticket.marker).processed = true →
    (p.markers.get ticket.marker).deferrals.release.outstanding ≤ 0 →
    Leaves ⟨p, .signal queue ticket now⟩ queue now ticket.marker head
  /-- Otherwise the release is noted in the marker, and nothing else is done. -/
  waits : ¬((p.markers.get ticket.marker).processed = true ∧
      (p.markers.get ticket.marker).deferrals.release.outstanding ≤ 0) →
    p.step (.signal queue ticket now) =
      { reply := .reported {}, state := p.revise ticket.marker .release }
  /-- A packet that was left is sent by its completion. -/
  completes : (p.markers.get ticket.marker).deferrals.release.outstanding ≤ 0 →
    ∀ later ≤ (p.markers.get ticket.marker).timeout,
      Leaves ⟨p.revise ticket.marker .release, .complete queue ticket later⟩ queue later
        ticket.marker head
  /-- The packets that a send would take are those, and those that are not waited for. -/
  rule : (p.revise ticket.marker .release).markers.lets now head.2 = true ↔
    ((p.markers.get ticket.marker).processed = true ∨
      (p.markers.get ticket.marker).asyncCancelled = true) ∧
      (p.markers.get ticket.marker).deferrals.release.outstanding ≤ 0

/-- The release of a deferral sends a packet that comes first exactly when its listeners have
finished and no other deferral is left. -/
theorem last_release {p : Pipeline} (guarded : p.Guarded) {queue : QueueId} {ticket : Ticket}
    {now : UInt64} {head : Entry} (idle : (p.queues queue).draining = false)
    (first : (p.entries queue).head? = some head) (own : head.2.marker = some ticket.marker)
    (timely : now ≤ (p.markers.get ticket.marker).timeout) :
    LastRelease p queue ticket now head := by
  have record := p.markers_revise_self ticket.marker .release
  have asks := p.asks?_signal queue ticket now
  have rule := Markers.lets_of_timely own
    (show now ≤ ((p.revise ticket.marker .release).markers.get ticket.marker).timeout by
      rw [record]
      exact timely)
  rw [record] at rule
  constructor
  case sends =>
    intro processed free
    apply Turn.leaves guarded _ first own
    · simp only [prepared, record]
      exact timely
    · exact rule.mpr ⟨.inl processed, free⟩
    · simp [Turn.begins?, asks, processed, free, idle]
  case waits =>
    intro awaited
    rw [if_neg awaited] at asks
    exact step_of_withheld (.inr rfl) asks
  case completes =>
    intro free later prompt
    have completed : ((p.revise ticket.marker .release).prepared
        (.complete queue ticket later)).markers.get ticket.marker =
          ((p.markers.get ticket.marker).apply .release).apply (.processed true) := by
      rw [prepared, markers_revise_self, record]
    have asked := (p.revise ticket.marker .release).asks?_complete queue ticket later
    rw [record, if_pos (by exact free)] at asked
    have still : ((p.revise ticket.marker .release).queues queue).draining = false := idle
    have timely' : later ≤ (((p.revise ticket.marker .release).prepared
        (.complete queue ticket later)).markers.get ticket.marker).timeout := by
      rw [completed]
      exact prompt
    apply Turn.leaves (guarded.markers _) _ first own timely'
    · rw [Markers.lets_of_timely own timely', completed]
      exact ⟨.inl rfl, free⟩
    · simp [Turn.begins?, asked, still]
  case rule => exact rule

/-- Two packets, the first of which owes a deferral. The second is not waited for. -/
def oneDeferred (revision : Marker.Change) : List Action :=
  [.register (.fresh 0 1 0 (.ofMillis 500)), .register (.fresh 0 2 0 (.ofMillis 500)),
    .enqueue 0 (.chat 0 0), .enqueue 0 (.chat 1 1), .revise 0 .defer, .revise 0 revision,
    .revise 1 (.asyncCancelled true)]

theorem last_release_processed :
    let p := after {} (oneDeferred (.processed true))
    let head : Entry := (⟨1, 0⟩, .chat 0 0)
    p.Guarded ∧ (p.queues 0).draining = false ∧ (p.entries 0).head? = some head ∧
      head.2.marker = some 0 ∧ 100 ≤ (p.markers.get 0).timeout ∧
      LastRelease p 0 ⟨0, 0⟩ 100 head ∧
      ((⟨p, .signal 0 ⟨0, 0⟩ 100⟩ : Turn).takings 0).map (·.parcel.event.id) = [0, 1] :=
  have guarded := (Run.ofActions {} (oneDeferred (.processed true))).guarded
  ⟨guarded, rfl, by decide, rfl, by decide,
    last_release guarded rfl (by decide) rfl (by decide), by decide⟩

/-- A packet that is not waited for and whose listeners have not finished stays when its last
deferral is released, although a send would take it. -/
theorem not_sends_unprocessed :
    let p := after {} (oneDeferred (.asyncCancelled true))
    let head : Entry := (⟨1, 0⟩, .chat 0 0)
    let released := (p.step (.signal 0 ⟨0, 0⟩ 100)).state
    Run {} (turns {} (oneDeferred (.asyncCancelled true))) p ∧ (p.queues 0).draining = false ∧
      (p.entries 0).head? = some head ∧ head.2.marker = some 0 ∧
      100 ≤ (p.markers.get 0).timeout ∧
      (p.revise 0 .release).markers.lets 100 head.2 = true ∧ head ∈ released.entries 0 ∧
      head ∉ (released.step (.trySend 0 100)).state.entries 0 :=
  ⟨Run.ofActions {} (oneDeferred (.asyncCancelled true)), rfl, by decide, rfl, by decide, by decide,
    by decide, by decide⟩

end PacketFlow
