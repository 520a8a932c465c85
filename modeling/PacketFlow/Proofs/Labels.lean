import PacketFlow.Proofs.Bookkeeping

/-! Markers that are passed on.

An event that a queue hands back may be given another marker before it is queued again. As long as
no two queued events share a marker, and a ticket is used only while its event has the marker that
the ticket names, every queued event has a marker that records the index it is held under.
-/

set_option autoImplicit false

namespace PacketFlow

namespace Pipeline

/-- Where queues hold the event of a ticket, it has the marker that the ticket names. -/
def Current (p : Pipeline) (ticket : Ticket) : Prop :=
  ∀ queue, ∀ entry ∈ p.entries queue, entry.1.event = ticket.event →
    entry.2.marker = some ticket.marker

/-- The markers of queued events record the indices under which they are held, and no two queued
events have the same marker. -/
structure Labelled (p : Pipeline) : Prop where
  recorded : ∀ queue, ∀ entry ∈ p.entries queue, ∃ id, entry.2.marker = some id ∧
    id < p.markers.count ∧ (p.markers.get id).queuedIndex = some entry.1.index
  apart : ∀ queue other, ∀ first ∈ p.entries queue, ∀ second ∈ p.entries other,
    first.2.marker = second.2.marker → queue = other ∧ first = second

end Pipeline

/-- Markers are used once they are registered and for one queued event at a time, the queued index
is not written from outside, and tickets are used while they are current. -/
structure Turn.Unshared (turn : Turn) : Prop where
  untouched : ∀ id index, turn.action ≠ .revise id (.queuedIndex index)
  registered : ∀ queue event id, turn.action = .enqueue queue event → event.marker = some id →
    id < turn.state.markers.count
  unused : ∀ queue event id, turn.action = .enqueue queue event → event.marker = some id →
    ∀ other, ∀ entry ∈ turn.state.entries other, entry.2.marker ≠ some id
  current : ∀ ticket, turn.action.lookup? = some ticket → turn.state.Current ticket

namespace Pipeline

variable {p next : Pipeline}

/-- Entries may leave, as long as the markers of those that stay keep their records. -/
theorem Labelled.fewer (labelled : p.Labelled)
    (entries : ∀ queue, ∀ entry ∈ next.entries queue, entry ∈ p.entries queue)
    (count : p.markers.count ≤ next.markers.count)
    (same : ∀ queue, ∀ entry ∈ next.entries queue, ∀ id < p.markers.count,
      entry.2.marker = some id →
        (next.markers.get id).queuedIndex = (p.markers.get id).queuedIndex) : next.Labelled where
  recorded queue entry member := by
    obtain ⟨id, marked, registered, recorded⟩ :=
      labelled.recorded queue entry (entries queue entry member)
    refine ⟨id, marked, Nat.lt_of_lt_of_le registered count, ?_⟩
    rw [same queue entry member id registered marked]
    exact recorded
  apart queue other first here second there :=
    labelled.apart queue other first (entries queue first here) second (entries other second there)

theorem Labelled.congr (labelled : p.Labelled)
    (entries : ∀ queue, next.entries queue = p.entries queue) (markers : next.markers = p.markers) :
    next.Labelled := by
  refine labelled.fewer (fun queue entry member => entries queue ▸ member) ?_ ?_
  · exact Nat.le_of_eq (congrArg Markers.count markers.symm)
  · intro _ _ _ id _ _
    rw [markers]

theorem Labelled.revise (labelled : p.Labelled) (id : MarkerId) {change : Marker.Change}
    (untouched : ∀ index, change ≠ .queuedIndex index) : (p.revise id change).Labelled :=
  labelled.fewer (fun _ _ member => member) (Nat.le_refl _) fun _ _ _ _ _ _ =>
    Markers.read_set Marker.queuedIndex (Marker.queuedIndex_apply _ untouched) _

theorem Labelled.prepared (labelled : p.Labelled) (action : Action) :
    (p.prepared action).Labelled := by
  cases action with
  | complete | signal => exact labelled.revise _ (by simp)
  | _ => exact labelled

theorem Labelled.delivered (labelled : p.Labelled) (parcel : Parcel) (outcome : Outcome) :
    (p.delivered parcel outcome).Labelled := by
  cases outcome with
  | error => exact labelled
  | ok =>
    exact labelled.fewer (fun _ _ member => member) (Nat.le_refl _) fun _ _ _ _ _ _ =>
      Markers.read_set Marker.queuedIndex (by rfl) _

theorem Labelled.popped (labelled : p.Labelled) : p.popped.Labelled :=
  labelled.congr (fun _ => rfl) rfl

theorem Labelled.register (labelled : p.Labelled) (new : Marker) :
    Labelled { p with markers := (p.markers.add new).2 } := by
  refine labelled.fewer (fun _ _ member => member) (Nat.le_succ _) fun _ _ _ id earlier _ => ?_
  dsimp only
  rw [Markers.get_add, if_neg (Nat.ne_of_lt earlier)]

/-- Entries leave a queue and have the markers of their events cleared. -/
theorem Labelled.clear (labelled : p.Labelled) (queue : QueueId) (gone : List Entry)
    (taken : ∀ entry ∈ gone, entry ∈ p.entries queue)
    (left : ∀ other, ∀ entry ∈ next.entries other,
      entry ∈ p.entries other ∧ (other = queue → entry ∉ gone))
    (markers : next.markers = (gone.map (·.2)).foldl Markers.clearQueued p.markers) :
    next.Labelled := by
  refine labelled.fewer (fun other entry member => (left other entry member).1) ?_ ?_
  · exact Nat.le_of_eq (by rw [markers, Markers.count_foldl_clearQueued])
  · intro other entry member id _ marked
    obtain ⟨stored, stays⟩ := left other entry member
    rw [markers, Markers.get_foldl_clearQueued, if_neg]
    rintro ⟨event, leaves, shared⟩
    -- An event that leaves with the same marker would be this one.
    obtain ⟨first, out, rfl⟩ := List.mem_map.mp leaves
    obtain ⟨here, same⟩ := labelled.apart queue other first (taken first out) entry stored
      (shared.trans marked.symm)
    exact stays here.symm (same ▸ out)

theorem Labelled.looked (labelled : p.Labelled) (queue : QueueId) (now : UInt64) :
    (p.looked queue now).Labelled := by
  have parts := List.takeWhile_append_dropWhile
    (p := fun entry : Entry => Release.fate now p.markers entry.2 ≠ .held) (l := p.entries queue)
  have ascending := p.ascending queue
  rw [← parts, List.pairwise_append] at ascending
  refine labelled.clear queue _ (fun entry member => (List.takeWhile_prefix _).mem member) ?_
    (Release.heads_markers ..)
  intro other entry member
  refine ⟨mem_of_mem_looked member, fun here out => ?_⟩
  rw [entries_looked, if_pos here, released, Release.heads_left] at member
  have behind := ascending.2.2 entry out entry member
  rw [Key.lt_irrefl] at behind
  cases behind

theorem Labelled.advance (labelled : p.Labelled) (queue : QueueId) (now : UInt64)
    (report : Report) (notices : List Notice) :
    (p.advance queue now report notices).state.Labelled :=
  (labelled.looked queue now).congr (fun other => entries_advance p queue other now report notices)
    (markers_advance p queue now report notices)

theorem Labelled.evict (labelled : p.Labelled) (queue : QueueId) (now : UInt64) :
    (p.hold queue
      ((p.queues queue).backlog.partition fun entry => p.markers.isOverdue now entry.2).2
      ((p.overdue queue now).foldl Markers.clearQueued p.markers)).Labelled := by
  refine labelled.clear queue _ (fun entry member => (List.mem_filter.mp member).1) ?_ rfl
  intro other entry member
  rw [entries_hold] at member
  split at member
  next here =>
    obtain ⟨stored, timely⟩ := Backlog.mem_partition.mp member
    refine ⟨here ▸ stored, fun _ out => ?_⟩
    rw [(List.mem_filter.mp out).2] at timely
    cases timely
  next there => exact ⟨member, fun here => absurd here there⟩

theorem Labelled.remove (labelled : p.Labelled) {queue : QueueId} {ticket : Ticket} {event : Event}
    (current : p.Current ticket) (member : (p.removalKey ticket, event) ∈ p.entries queue) :
    (p.hold queue ((p.queues queue).backlog.erase (p.removalKey ticket))
      (p.markers.setQueued ticket.marker none)).Labelled := by
  have cleared : p.markers.setQueued ticket.marker none = p.markers.clearQueued event := by
    rw [Markers.clearQueued, current queue _ member rfl]
  refine labelled.clear queue [(p.removalKey ticket, event)] ?_ ?_ cleared
  · intro entry only
    rw [List.mem_singleton.mp only]
    exact member
  · intro other entry inside
    rw [entries_hold] at inside
    split at inside
    next here =>
      obtain ⟨stored, kept⟩ := Backlog.mem_erase.mp inside
      refine ⟨here ▸ stored, fun _ out => kept ?_⟩
      rw [List.mem_singleton.mp out]
    next there => exact ⟨inside, fun here => absurd here there⟩

/-- An event comes under a key with a marker that no other queued event has, and that is told so. -/
theorem Labelled.place (labelled : p.Labelled) (queue : QueueId) (key : Key) {event : Event}
    {id : MarkerId} (marked : event.marker = some id) (registered : id < p.markers.count)
    (entries : ∀ other, ∀ entry ∈ next.entries other, other = queue ∧ entry = (key, event) ∨
      entry ∈ p.entries other ∧ entry.2.marker ≠ some id)
    (markers : next.markers = p.markers.setQueued id (some key.index)) : next.Labelled where
  recorded other entry member := by
    rw [markers]
    rcases entries other entry member with ⟨_, rfl⟩ | ⟨old, foreign⟩
    · refine ⟨id, marked, registered, ?_⟩
      rw [Markers.get_setQueued, if_pos rfl]
      rfl
    · obtain ⟨label, own, before, recorded⟩ := labelled.recorded other entry old
      refine ⟨label, own, before, ?_⟩
      rw [Markers.get_setQueued, if_neg]
      · exact recorded
      · rintro rfl
        exact foreign own
  apart here there first one second two shared := by
    rcases entries here first one with ⟨rfl, rfl⟩ | ⟨old, foreign⟩ <;>
      rcases entries there second two with ⟨rfl, rfl⟩ | ⟨old', foreign'⟩
    · exact ⟨rfl, rfl⟩
    · exact absurd (shared.symm.trans marked) foreign'
    · exact absurd (shared.trans marked) foreign
    · exact labelled.apart here there first old second old' shared

theorem Labelled.enqueue (labelled : p.Labelled) (queue : QueueId) {event : Event} {id : MarkerId}
    (marked : event.marker = some id) (registered : id < p.markers.count)
    (unused : ∀ other, ∀ entry ∈ p.entries other, entry.2.marker ≠ some id) (index : UInt64) :
    (p.hold queue ((p.queues queue).backlog.insert ⟨index, event.id⟩ event)
      (p.markers.setQueued id (some index))).Labelled := by
  refine labelled.place queue ⟨index, event.id⟩ marked registered (fun other entry member => ?_) rfl
  rw [entries_hold] at member
  split at member
  next here =>
    rcases Backlog.mem_insert.mp member with new | ⟨old, _⟩
    · exact .inl ⟨here, new⟩
    · exact .inr ⟨here ▸ old, unused queue entry old⟩
  next => exact .inr ⟨member, unused other entry member⟩

theorem Labelled.move (labelled : p.Labelled) {queue : QueueId} {ticket : Ticket} {old : UInt64}
    {event : Event} (current : p.Current ticket) (moves : p.Moves queue ticket old event) :
    (p.hold queue (((p.queues queue).backlog.erase ⟨old, ticket.event⟩).insert
        ⟨(p.markers.get ticket.marker).newIndex, ticket.event⟩ event)
      (p.markers.setQueued ticket.marker
        (some (p.markers.get ticket.marker).newIndex))).Labelled := by
  have stored := moves.2.2
  have marked : event.marker = some ticket.marker := current queue _ stored rfl
  obtain ⟨id, own, registered, _⟩ := labelled.recorded queue _ stored
  obtain rfl : ticket.marker = id := Option.some.inj (marked.symm.trans own)
  -- Only the entry that moves has the marker, and it is erased from where it was.
  have foreign {other : QueueId} {entry : Entry} (inside : entry ∈ p.entries other)
      (different : other = queue → entry.1 ≠ ⟨old, ticket.event⟩) :
      entry.2.marker ≠ some ticket.marker := by
    intro shared
    obtain ⟨here, same⟩ := labelled.apart queue other _ stored entry inside
      (marked.trans shared.symm)
    exact different here.symm (congrArg Prod.fst same.symm)
  refine labelled.place queue ⟨(p.markers.get ticket.marker).newIndex, ticket.event⟩ marked
    registered (fun other entry member => ?_) rfl
  rw [entries_hold] at member
  split at member
  next here =>
    rcases Backlog.mem_insert.mp member with new | ⟨kept, _⟩
    · exact .inl ⟨here, new⟩
    · obtain ⟨inside, different⟩ := Backlog.mem_erase.mp kept
      exact .inr ⟨here ▸ inside, foreign inside fun _ => different⟩
  next there => exact .inr ⟨member, foreign member fun here => absurd here there⟩

end Pipeline

open Pipeline

theorem Turn.labelled {turn : Turn} (guarded : turn.state.Guarded) (labelled : turn.state.Labelled)
    (unshared : turn.Unshared) : turn.step.state.Labelled := by
  obtain ⟨p, action⟩ := turn
  have effect := step_effect guarded.unlocked action
  simp only [step] at *
  generalize p.step action = step at effect ⊢
  cases effect with
  | register new => exact labelled.register new
  | revise id change =>
    exact labelled.revise id fun index same => unshared.untouched id index (by rw [same])
  | refuse | stay | miss | count | idle => exact labelled
  | send => exact labelled.congr (fun _ => rfl) rfl
  | enqueue queue marked =>
    exact labelled.enqueue queue marked (unshared.registered queue _ _ rfl marked)
      (unshared.unused queue _ _ rfl marked) _
  | move moves => exact labelled.move (unshared.current _ rfl) moves
  | withhold => exact labelled.prepared action
  | wait => exact (labelled.prepared action).congr (fun other => entries_mark ..) rfl
  | @begin action queue now =>
    have begun : ((p.prepared action).begin queue).Labelled :=
      (labelled.prepared action).congr (fun other => entries_begin ..) rfl
    exact begun.advance queue now {} []
  | evict queue now => exact labelled.evict queue now
  | remove member => exact labelled.remove (unshared.current _ rfl) member
  | sent => exact labelled.popped.delivered ..
  | next => exact (labelled.popped.delivered ..).congr (fun _ => rfl) rfl
  | last => exact (labelled.popped.delivered ..).advance ..

theorem labelled_empty : Labelled {} where
  recorded _ _ member := nomatch member
  apart _ _ _ member := nomatch member

theorem Run.labelled {history : List Turn} {p : Pipeline} (run : Run {} history p)
    (unshared : ∀ turn ∈ history, turn.Unshared) : p.Labelled := by
  induction run with
  | start => exact labelled_empty
  | @perform history p run action ih =>
    have before := ih fun turn member => unshared turn (List.mem_append_left _ member)
    exact Turn.labelled run.guarded before (unshared ⟨p, action⟩ (by simp))

end PacketFlow
