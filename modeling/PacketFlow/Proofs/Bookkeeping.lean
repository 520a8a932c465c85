import PacketFlow.Proofs.Conservation

/-! The index that a marker records.

A queue keeps the index of a packet twice: in the key under which it holds the packet, and in the
marker, where collaborators read it. When every event has a marker of its own and only queues write
that index, the two agree at all times, and a ticket finds its packet exactly where it is.
-/

set_option autoImplicit false

namespace PacketFlow

def Action.lookup? : Action → Option Ticket
  | .reposition _ ticket | .remove _ ticket => some ticket
  | _ => none

/-- Events have the markers that are assigned to them, markers are taken in unqueued and before they
are used, and the queued index is not written from outside. -/
structure Turn.Assigned (marker : EventId → MarkerId) (turn : Turn) : Prop where
  unqueued : ∀ new, turn.action = .register new → new.queuedIndex = none
  untouched : ∀ id index, turn.action ≠ .revise id (.queuedIndex index)
  own : ∀ queue event id, turn.action = .enqueue queue event → event.marker = some id →
    id = marker event.id ∧ id < turn.state.markers.count
  ticket : ∀ ticket, turn.action.lookup? = some ticket → ticket.marker = marker ticket.event

theorem Marker.queuedIndex_apply (record : Marker) {change : Marker.Change}
    (untouched : ∀ index, change ≠ .queuedIndex index) :
    (record.apply change).queuedIndex = record.queuedIndex := by
  cases change with
  | queuedIndex index => exact absurd rfl (untouched index)
  | _ => rfl

namespace Pipeline

/-- The markers of events that queues hold record the indices under which they are held, and all
other markers record none. -/
structure Booked (marker : EventId → MarkerId) (p : Pipeline) : Prop where
  own : ∀ queue, ∀ entry ∈ p.entries queue, entry.2.marker = some (marker entry.2.id)
  registered : ∀ queue, ∀ entry ∈ p.entries queue, marker entry.2.id < p.markers.count
  index : ∀ queue, ∀ entry ∈ p.entries queue,
    (p.markers.get (marker entry.2.id)).queuedIndex = some entry.1.index
  absent : ∀ id, (∀ queue, ¬p.Stores queue id) → (p.markers.get (marker id)).queuedIndex = none

variable {marker : EventId → MarkerId} {p next : Pipeline}

theorem Booked.congr (booked : p.Booked marker)
    (entries : ∀ queue, next.entries queue = p.entries queue)
    (count : p.markers.count ≤ next.markers.count)
    (queued : ∀ id, (next.markers.get id).queuedIndex = (p.markers.get id).queuedIndex) :
    next.Booked marker where
  own queue := by
    rw [entries]
    exact booked.own queue
  registered queue entry member := by
    rw [entries] at member
    exact Nat.lt_of_lt_of_le (booked.registered queue entry member) count
  index queue entry member := by
    rw [entries] at member
    rw [queued]
    exact booked.index queue entry member
  absent id nowhere := by
    rw [queued]
    apply booked.absent id
    intro queue
    have none_there := nowhere queue
    rwa [Stores, entries] at none_there

theorem Booked.revise (booked : p.Booked marker) (id : MarkerId) {change : Marker.Change}
    (untouched : ∀ index, change ≠ .queuedIndex index) : (p.revise id change).Booked marker :=
  booked.congr (fun _ => rfl) (Nat.le_refl _) fun _ =>
    Markers.read_set Marker.queuedIndex (Marker.queuedIndex_apply _ untouched) _

theorem Booked.prepared (booked : p.Booked marker) (action : Action) :
    (p.prepared action).Booked marker := by
  cases action with
  | complete | signal => exact booked.revise _ (by simp)
  | _ => exact booked

theorem Booked.delivered (booked : p.Booked marker) (parcel : Parcel) (outcome : Outcome) :
    (p.delivered parcel outcome).Booked marker := by
  cases outcome with
  | error => exact booked
  | ok =>
    exact booked.congr (fun _ => rfl) (Nat.le_refl _) fun _ =>
      Markers.read_set Marker.queuedIndex (by rfl) _

/-- A marker that is taken in unqueued belongs to no event that is held. -/
theorem Booked.register (booked : p.Booked marker) {new : Marker}
    (unqueued : new.queuedIndex = none) :
    Booked marker { p with markers := (p.markers.add new).2 } where
  own := booked.own
  registered queue entry member := Nat.lt_succ_of_lt (booked.registered queue entry member)
  index queue entry member := by
    have earlier := booked.registered queue entry member
    dsimp only
    rw [Markers.get_add, if_neg (Nat.ne_of_lt earlier)]
    exact booked.index queue entry member
  absent id nowhere := by
    dsimp only
    rw [Markers.get_add]
    split
    next => exact unqueued
    next => exact booked.absent id nowhere

theorem held_pos {queue : QueueId} {entry : Entry} (member : entry ∈ p.entries queue) :
    0 < times entry.2.id (p.custody queue) :=
  times_pos.mpr ⟨entry.2, List.mem_append_left _ (List.mem_map_of_mem member), rfl⟩

/-- An event that leaves a queue is in no queue afterwards. -/
theorem Tidy.left_behind (tidy : p.Tidy) {queue other : QueueId} {gone : List Event}
    {left : List Entry} (parts : ((p.entries queue).map (·.2)).Perm (gone ++ left.map (·.2)))
    {entry : Entry} (member : entry ∈ p.entries other) (stays : other = queue → entry ∈ left)
    {event : Event} (leaves : event ∈ gone) : event.id ≠ entry.2.id := by
  intro same
  have taken : 0 < times entry.2.id gone := times_pos.mpr ⟨event, leaves, same⟩
  -- Were it still held, the event would have been in custody twice.
  have count := times_perm parts entry.2.id
  rw [times_append] at count
  have few := times_entries_le p queue entry.2.id
  have once := tidy.single queue entry.2.id
  by_cases here : other = queue
  · have again : 0 < times entry.2.id (left.map (·.2)) :=
      times_pos.mpr ⟨entry.2, List.mem_map_of_mem (stays here), rfl⟩
    omega
  · exact here (tidy.apart other queue entry.2.id (held_pos member) (by omega))

/-- Events leave a queue and have their markers cleared. -/
theorem Booked.leave (injective : Function.Injective marker) (booked : p.Booked marker)
    (tidy : p.Tidy) {queue : QueueId} {gone : List Event} {left : List Entry}
    (parts : ((p.entries queue).map (·.2)).Perm (gone ++ left.map (·.2)))
    (kept : ∀ entry ∈ left, entry ∈ p.entries queue)
    (entries : ∀ other, next.entries other = if other = queue then left else p.entries other)
    (markers : next.markers = gone.foldl Markers.clearQueued p.markers) : next.Booked marker := by
  have belongs : ∀ event ∈ gone, event.marker = some (marker event.id) := by
    intro event leaves
    have stored := parts.mem_iff.mpr (List.mem_append_left _ leaves)
    obtain ⟨entry, member, rfl⟩ := List.mem_map.mp stored
    exact booked.own queue entry member
  -- Events have markers of their own, so a marker is cleared exactly when its event leaves.
  have cleared (id : EventId) (leaves : ∃ event ∈ gone, event.id = id) :
      (next.markers.get (marker id)).queuedIndex = none := by
    obtain ⟨event, taken, rfl⟩ := leaves
    rw [markers, Markers.get_foldl_clearQueued, if_pos ⟨event, taken, belongs event taken⟩]
    rfl
  have same (id : EventId) (stays : ∀ event ∈ gone, event.id ≠ id) :
      next.markers.get (marker id) = p.markers.get (marker id) := by
    rw [markers, Markers.get_foldl_clearQueued, if_neg]
    rintro ⟨event, taken, marked⟩
    rw [belongs event taken, Option.some.injEq] at marked
    exact stays event taken (injective marked)
  have before {other : QueueId} {entry : Entry} (member : entry ∈ next.entries other) :
      entry ∈ p.entries other ∧ ∀ event ∈ gone, event.id ≠ entry.2.id := by
    rw [entries] at member
    split at member
    next here =>
      have stored := kept entry member
      subst here
      exact ⟨stored, fun event leaves => tidy.left_behind parts stored (fun _ => member) leaves⟩
    next there =>
      exact ⟨member, fun event leaves =>
        tidy.left_behind parts member (fun here => absurd here there) leaves⟩
  constructor
  case own =>
    intro other entry member
    exact booked.own other entry (before member).1
  case registered =>
    intro other entry member
    rw [markers, Markers.count_foldl_clearQueued]
    exact booked.registered other entry (before member).1
  case index =>
    intro other entry member
    rw [same _ (before member).2]
    exact booked.index other entry (before member).1
  case absent =>
    intro id nowhere
    by_cases leaves : ∃ event ∈ gone, event.id = id
    · exact cleared id leaves
    · rw [same id fun event taken numbered => leaves ⟨event, taken, numbered⟩]
      apply booked.absent id
      rintro other ⟨entry, member, rfl⟩
      apply nowhere other
      rw [Stores, entries]
      split
      next here =>
        subst here
        rcases List.mem_append.mp (parts.mem_iff.mp (List.mem_map_of_mem member)) with out | stays
        · exact absurd ⟨entry.2, out, rfl⟩ leaves
        · obtain ⟨there, inside, event⟩ := List.mem_map.mp stays
          exact ⟨there, inside, congrArg Event.id event⟩
      next => exact ⟨entry, member, rfl⟩

theorem Booked.looked (injective : Function.Injective marker) (booked : p.Booked marker)
    (tidy : p.Tidy) (queue : QueueId) (now : UInt64) : (p.looked queue now).Booked marker := by
  have parts : ((p.entries queue).map (·.2)).Perm
      (Release.taken now (p.entries queue) p.markers ++
        (p.released queue now).left.map (·.2)) := by
    rw [released, Release.heads_left, Release.taken, ← List.map_append,
      List.takeWhile_append_dropWhile]
  exact booked.leave injective tidy parts
    (fun _ member => (Release.left_suffix now _ p.markers).mem member)
    (fun other => entries_looked p queue other now) (Release.heads_markers ..)

theorem Booked.advance (injective : Function.Injective marker) (booked : p.Booked marker)
    (tidy : p.Tidy) (queue : QueueId) (now : UInt64) (report : Report) (notices : List Notice) :
    (p.advance queue now report notices).state.Booked marker := by
  have markers := markers_advance p queue now report notices
  have looked := booked.looked injective tidy queue now
  refine looked.congr (fun other => entries_advance ..) ?_ fun id => ?_
  · exact Nat.le_of_eq (congrArg Markers.count markers.symm)
  · rw [markers]

theorem Booked.evict (injective : Function.Injective marker) (booked : p.Booked marker)
    (tidy : p.Tidy) (queue : QueueId) (now : UInt64) :
    (p.hold queue
      ((p.queues queue).backlog.partition fun entry => p.markers.isOverdue now entry.2).2
      ((p.overdue queue now).foldl Markers.clearQueued p.markers)).Booked marker := by
  have parts := (Backlog.partition_perm (p.queues queue).backlog fun entry =>
    p.markers.isOverdue now entry.2).map (·.2)
  rw [List.map_append] at parts
  exact booked.leave injective tidy parts (fun _ member => (Backlog.mem_partition.mp member).1)
    (fun other => entries_hold ..) rfl

theorem Booked.remove (injective : Function.Injective marker) (booked : p.Booked marker)
    (tidy : p.Tidy) {queue : QueueId} {ticket : Ticket} {event : Event}
    (issued : ticket.marker = marker ticket.event)
    (member : (p.removalKey ticket, event) ∈ p.entries queue) :
    (p.hold queue ((p.queues queue).backlog.erase (p.removalKey ticket))
      (p.markers.setQueued ticket.marker none)).Booked marker := by
  have parts : ((p.entries queue).map (·.2)).Perm ([event] ++
      ((p.queues queue).backlog.erase (p.removalKey ticket)).entries.map (·.2)) :=
    (Backlog.erase_perm member).map (·.2)
  have numbered : ticket.event = event.id := tidy.own queue _ member
  have cleared : p.markers.setQueued ticket.marker none = p.markers.clearQueued event := by
    rw [Markers.clearQueued, booked.own queue _ member, issued, numbered]
  exact booked.leave injective tidy parts
    (fun _ kept => (Backlog.mem_erase.mp kept).1) (fun other => entries_hold ..) cleared

/-- An event is placed under an index, wherever it was before, and its marker records the index. -/
theorem Booked.place (injective : Function.Injective marker) (booked : p.Booked marker)
    (queue : QueueId) {event : Event} {index : UInt64}
    (own : event.marker = some (marker event.id)) (registered : marker event.id < p.markers.count)
    (entries : ∀ other entry, entry ∈ next.entries other ↔
      other = queue ∧ entry = (⟨index, event.id⟩, event) ∨
        entry ∈ p.entries other ∧ entry.2.id ≠ event.id)
    (markers : next.markers = p.markers.setQueued (marker event.id) (some index)) :
    next.Booked marker := by
  have same {id : EventId} (different : id ≠ event.id) :
      next.markers.get (marker id) = p.markers.get (marker id) := by
    rw [markers, Markers.get_setQueued, if_neg fun equal => different (injective equal)]
  constructor
  case own =>
    intro other entry member
    rcases (entries other entry).mp member with ⟨_, rfl⟩ | ⟨old, _⟩
    · exact own
    · exact booked.own other entry old
  case registered =>
    intro other entry member
    rw [markers]
    rcases (entries other entry).mp member with ⟨_, rfl⟩ | ⟨old, _⟩
    · exact registered
    · exact booked.registered other entry old
  case index =>
    intro other entry member
    rcases (entries other entry).mp member with ⟨_, rfl⟩ | ⟨old, different⟩
    · rw [markers, Markers.get_setQueued, if_pos rfl]
      rfl
    · rw [same different]
      exact booked.index other entry old
  case absent =>
    intro id nowhere
    have different : id ≠ event.id := by
      rintro rfl
      exact nowhere queue ⟨_, (entries queue _).mpr (.inl ⟨rfl, rfl⟩), rfl⟩
    rw [same different]
    apply booked.absent id
    rintro other ⟨entry, member, rfl⟩
    exact nowhere other ⟨entry, (entries other entry).mpr (.inr ⟨member, different⟩), rfl⟩

theorem Booked.enqueue (injective : Function.Injective marker) (booked : p.Booked marker)
    (tidy : p.Tidy) {queue : QueueId} {event : Event}
    (owned : ∀ other, ∀ held ∈ p.custody other, held.id ≠ event.id)
    (own : event.marker = some (marker event.id)) (registered : marker event.id < p.markers.count)
    (index : UInt64) :
    (p.hold queue ((p.queues queue).backlog.insert ⟨index, event.id⟩ event)
      (p.markers.setQueued (marker event.id) (some index))).Booked marker := by
  refine booked.place injective queue own registered (fun other entry => ?_) rfl
  have foreign (stored : entry ∈ p.entries other) : entry.2.id ≠ event.id :=
    owned other entry.2 (List.mem_append_left _ (List.mem_map_of_mem stored))
  rw [entries_hold]
  by_cases here : other = queue
  · subst here
    rw [if_pos rfl, Backlog.mem_insert]
    constructor
    · rintro (new | ⟨old, _⟩)
      · exact .inl ⟨rfl, new⟩
      · exact .inr ⟨old, foreign old⟩
    · rintro (⟨_, new⟩ | ⟨old, _⟩)
      · exact .inl new
      · exact .inr ⟨old, tidy.free_enqueue (owned other) index entry old⟩
  · rw [if_neg here]
    constructor
    · exact fun stored => .inr ⟨stored, foreign stored⟩
    · rintro (⟨same, _⟩ | ⟨stored, _⟩)
      · exact absurd same here
      · exact stored

theorem Booked.move (injective : Function.Injective marker) (booked : p.Booked marker)
    (tidy : p.Tidy) {queue : QueueId} {ticket : Ticket} {old : UInt64} {event : Event}
    (issued : ticket.marker = marker ticket.event) (moves : p.Moves queue ticket old event) :
    (p.hold queue (((p.queues queue).backlog.erase ⟨old, ticket.event⟩).insert
        ⟨(p.markers.get ticket.marker).newIndex, ticket.event⟩ event)
      (p.markers.setQueued ticket.marker (some (p.markers.get ticket.marker).newIndex))).Booked
        marker := by
  obtain ⟨id, record⟩ := ticket
  dsimp only at issued
  subst issued
  have stored := moves.2.2
  have numbered : id = event.id := tidy.own queue _ stored
  subst numbered
  refine booked.place injective queue (booked.own queue _ stored)
    (booked.registered queue _ stored) (fun other entry => ?_) rfl
  rw [entries_hold]
  by_cases here : other = queue
  · subst here
    rw [if_pos rfl, Backlog.mem_insert, Backlog.mem_erase]
    constructor
    · rintro (new | ⟨⟨member, kept⟩, _⟩)
      · exact .inl ⟨rfl, new⟩
      · -- The entry that was erased is the only one of the event.
        refine .inr ⟨member, fun same => kept ?_⟩
        have numbered := (tidy.own other entry member).trans same
        rw [tidy.entry_unique stored member numbered.symm]
    · rintro (⟨_, new⟩ | ⟨member, foreign⟩)
      · exact .inl new
      · have numbered := tidy.own other entry member
        refine .inr ⟨⟨member, fun same => foreign ?_⟩, tidy.free_move moves entry member⟩
        rw [← numbered, same]
  · rw [if_neg here]
    constructor
    · refine fun member => .inr ⟨member, fun same => here ?_⟩
      exact tidy.apart other queue event.id (same ▸ held_pos member) (held_pos stored)
    · rintro (⟨same, _⟩ | ⟨member, _⟩)
      · exact absurd same here
      · exact member

end Pipeline

open Pipeline

/-- A process with the same entries and no more in custody is as tidy. -/
theorem Pipeline.Tidy.less {p next : Pipeline} (tidy : p.Tidy)
    (entries : ∀ queue, next.entries queue = p.entries queue)
    (custody : ∀ queue id, times id (next.custody queue) ≤ times id (p.custody queue)) :
    next.Tidy where
  own queue := by
    rw [entries]
    exact tidy.own queue
  marked queue := by
    rw [entries]
    exact tidy.marked queue
  single queue id := Nat.le_trans (custody queue id) (tidy.single queue id)
  apart queue other id one two :=
    tidy.apart queue other id (Nat.lt_of_lt_of_le one (custody queue id))
      (Nat.lt_of_lt_of_le two (custody other id))

theorem Turn.booked {marker : EventId → MarkerId} (injective : Function.Injective marker)
    {turn : Turn} (guarded : turn.state.Guarded) (tidy : turn.state.Tidy) (owned : turn.Owned)
    (assigned : turn.Assigned marker) (booked : turn.state.Booked marker) :
    turn.step.state.Booked marker := by
  obtain ⟨p, action⟩ := turn
  have effect := step_effect guarded.unlocked action
  simp only [step] at *
  generalize p.step action = step at effect ⊢
  cases effect with
  | register new => exact booked.register (assigned.unqueued new rfl)
  | revise id change =>
    exact booked.revise id fun index same => assigned.untouched id index (by rw [same])
  | send | refuse | stay | miss | count | idle =>
    exact booked.congr (fun _ => rfl) (Nat.le_refl _) fun _ => rfl
  | @enqueue queue event id marked =>
    obtain ⟨rfl, registered⟩ := assigned.own queue event id rfl marked
    exact booked.enqueue injective tidy (owned queue event rfl) marked registered _
  | @move queue ticket old event moves =>
    exact booked.move injective tidy (assigned.ticket ticket rfl) moves
  | withhold => exact booked.prepared action
  | @wait action queue =>
    exact (booked.prepared action).congr (fun other => entries_mark ..) (Nat.le_refl _) fun _ => rfl
  | @begin action queue now =>
    have begun : ((p.prepared action).begin queue).Booked marker :=
      (booked.prepared action).congr (fun other => entries_begin ..) (Nat.le_refl _) fun _ => rfl
    have neat : ((p.prepared action).begin queue).Tidy :=
      tidy.less (fun other => by simp) fun other id => by simp
    exact begun.advance injective neat queue now {} []
  | evict queue now => exact booked.evict injective tidy queue now
  | @remove queue ticket event member =>
    exact booked.remove injective tidy (assigned.ticket ticket rfl) member
  | sent =>
    have popped : p.popped.Booked marker := booked.congr (fun _ => rfl) (Nat.le_refl _) fun _ => rfl
    exact popped.delivered ..
  | @next queue now parcel next waiting report outer outcome =>
    have popped : p.popped.Booked marker := booked.congr (fun _ => rfl) (Nat.le_refl _) fun _ => rfl
    exact (popped.delivered parcel outcome).congr (fun _ => rfl) (Nat.le_refl _) fun _ => rfl
  | @last queue now parcel report outer outcome framed =>
    have popped : p.popped.Booked marker := booked.congr (fun _ => rfl) (Nat.le_refl _) fun _ => rfl
    have neat : (p.popped.delivered parcel outcome).Tidy := by
      refine tidy.less (fun other => by simp) fun other id => ?_
      have books := times_custody_popped framed other id
      rw [custody_delivered]
      omega
    exact (popped.delivered parcel outcome).advance injective neat queue now _ _

theorem booked_empty (marker : EventId → MarkerId) : Booked marker {} where
  own _ _ member := nomatch member
  registered _ _ member := nomatch member
  index _ _ member := nomatch member
  absent _ _ := rfl

theorem Run.booked {marker : EventId → MarkerId} (injective : Function.Injective marker)
    {history : List Turn} {p : Pipeline} (run : Run {} history p)
    (owned : ∀ turn ∈ history, turn.Owned) (assigned : ∀ turn ∈ history, turn.Assigned marker) :
    p.Booked marker := by
  induction run with
  | start => exact booked_empty marker
  | @perform history p run action ih =>
    have owned' : ∀ turn ∈ history, turn.Owned :=
      fun turn member => owned turn (List.mem_append_left _ member)
    have before := ih owned' fun turn member => assigned turn (List.mem_append_left _ member)
    exact Turn.booked injective run.guarded (run.tidy owned') (owned ⟨p, action⟩ (by simp))
      (assigned ⟨p, action⟩ (by simp)) before

namespace Pipeline

variable {marker : EventId → MarkerId} {p : Pipeline}

section replies

variable {queue : QueueId} {ticket : Ticket} (unlocked : (p.queues queue).locked = false)

include unlocked

theorem reply_remove_iff {event : Event} :
    (p.step (.remove queue ticket)).reply = .removed (some event) ↔
      (p.removalKey ticket, event) ∈ p.entries queue := by
  constructor
  · intro reply
    by_cases present : ∃ stored, (p.removalKey ticket, stored) ∈ p.entries queue
    · obtain ⟨stored, member⟩ := present
      rw [step_remove unlocked member] at reply
      cases reply
      exact member
    · rw [step_remove_of_absent unlocked fun stored member => present ⟨stored, member⟩] at reply
      cases reply
  · intro member
    rw [step_remove unlocked member]

theorem reply_remove_none_iff : (p.step (.remove queue ticket)).reply = .removed none ↔
    ∀ event, (p.removalKey ticket, event) ∉ p.entries queue := by
  constructor
  · intro reply event member
    rw [step_remove unlocked member] at reply
    cases reply
  · intro absent
    rw [step_remove_of_absent unlocked absent]

theorem reply_reposition_iff : (p.step (.reposition queue ticket)).reply = .moved true ↔
    ∃ old event, p.Moves queue ticket old event := by
  constructor
  · intro reply
    by_cases moves : ∃ old event, p.Moves queue ticket old event
    · exact moves
    · rw [step_reposition_of_not_moves unlocked fun old event there =>
        moves ⟨old, event, there⟩] at reply
      cases reply
  · rintro ⟨old, event, moves⟩
    rw [step_reposition unlocked moves]

theorem reply_reposition_false_iff : (p.step (.reposition queue ticket)).reply = .moved false ↔
    ¬∃ old event, p.Moves queue ticket old event := by
  constructor
  · rintro reply ⟨old, event, moves⟩
    rw [step_reposition unlocked moves] at reply
    cases reply
  · intro stays
    rw [step_reposition_of_not_moves unlocked fun old event moves => stays ⟨old, event, moves⟩]

end replies

/-- The entry of an event that a queue holds is the one its marker names. -/
theorem Booked.key_eq (booked : p.Booked marker) (tidy : p.Tidy) {queue : QueueId} {entry : Entry}
    (member : entry ∈ p.entries queue) {index : UInt64}
    (queued : (p.markers.get (marker entry.2.id)).queuedIndex = some index) :
    entry.1 = ⟨index, entry.2.id⟩ := by
  have recorded := booked.index queue entry member
  rw [queued, Option.some.injEq] at recorded
  rw [recorded, ← tidy.own queue entry member]

/-- A ticket finds its packet exactly where it is. -/
theorem Booked.removalKey_mem_iff (booked : p.Booked marker) (tidy : p.Tidy) {queue : QueueId}
    {ticket : Ticket} (issued : ticket.marker = marker ticket.event) {event : Event} :
    (p.removalKey ticket, event) ∈ p.entries queue ↔
      event.id = ticket.event ∧ ∃ key, (key, event) ∈ p.entries queue := by
  constructor
  · intro member
    have numbered := tidy.own queue _ member
    exact ⟨numbered.symm, _, member⟩
  · rintro ⟨numbered, key, member⟩
    have recorded := booked.index queue _ member
    have same := booked.key_eq tidy member recorded
    have looked : p.removalKey ticket = key := by
      rw [removalKey, issued, ← numbered, Marker.queuedOrZero, recorded]
      exact same.symm
    rwa [looked]

/-- A packet moves exactly when its queue holds it under another index than the new one. -/
theorem Booked.moves_iff (booked : p.Booked marker) (tidy : p.Tidy) {queue : QueueId}
    {ticket : Ticket} (issued : ticket.marker = marker ticket.event) :
    (∃ old event, p.Moves queue ticket old event) ↔
      ∃ entry ∈ p.entries queue, entry.2.id = ticket.event ∧
        entry.1.index ≠ (p.markers.get ticket.marker).newIndex := by
  constructor
  · rintro ⟨old, event, _, different, member⟩
    exact ⟨_, member, (tidy.own queue _ member).symm, different⟩
  · rintro ⟨entry, member, numbered, different⟩
    have recorded := booked.index queue entry member
    have same := booked.key_eq tidy member recorded
    refine ⟨entry.1.index, entry.2, ?_, different, ?_⟩
    · rw [issued, ← numbered]
      exact recorded
    · rw [← numbered, ← same]
      exact member

end Pipeline

/-- Queues and markers agree on what is held and under which index, and so do tickets. -/
structure Indexed (marker : EventId → MarkerId) (p : Pipeline) : Prop where
  held : ∀ id key, (∃ queue event, (key, event) ∈ p.entries queue ∧ event.id = id) ↔
    key.event = id ∧ (p.markers.get (marker id)).queuedIndex = some key.index
  apart : ∀ queue other id, p.Stores queue id → p.Stores other id → queue = other
  absent : ∀ id, (∀ queue, ¬p.Stores queue id) → (p.markers.get (marker id)).queuedIndex = none
  /-- A removal returns the event exactly when the queue holds it. -/
  removes : ∀ queue ticket, ticket.marker = marker ticket.event →
    (∀ event, (p.step (.remove queue ticket)).reply = .removed (some event) ↔
      event.id = ticket.event ∧ ∃ key, (key, event) ∈ p.entries queue) ∧
    ((p.step (.remove queue ticket)).reply = .removed none ↔ ¬p.Stores queue ticket.event)
  /-- A move happens exactly when the queue holds the event under another index than the new one. -/
  moves : ∀ queue ticket, ticket.marker = marker ticket.event →
    let away := ∃ entry ∈ p.entries queue, entry.2.id = ticket.event ∧
      entry.1.index ≠ (p.markers.get ticket.marker).newIndex
    ((p.step (.reposition queue ticket)).reply = .moved true ↔ away) ∧
      ((p.step (.reposition queue ticket)).reply = .moved false ↔ ¬away)

/-- Queues and markers agree after every run in which events have markers of their own, whatever the
tickets, times and new indices. -/
theorem indexed {marker : EventId → MarkerId} (injective : Function.Injective marker)
    {history : List Turn} {p : Pipeline} (run : Run {} history p)
    (owned : ∀ turn ∈ history, turn.Owned) (assigned : ∀ turn ∈ history, turn.Assigned marker) :
    Indexed marker p where
  held id key := by
    have tidy := run.tidy owned
    have booked := run.booked injective owned assigned
    constructor
    · rintro ⟨queue, event, member, rfl⟩
      exact ⟨tidy.own queue _ member, booked.index queue _ member⟩
    · rintro ⟨numbered, queued⟩
      by_cases stored : ∃ queue, p.Stores queue id
      · obtain ⟨queue, entry, member, rfl⟩ := stored
        have same : entry.1 = key := by rw [booked.key_eq tidy member queued, ← numbered]
        exact ⟨queue, entry.2, same ▸ member, rfl⟩
      · -- Were the event in no queue, its marker would record no index.
        have unqueued := booked.absent id fun queue holds => stored ⟨queue, holds⟩
        rw [unqueued] at queued
        cases queued
  apart queue other id one two := by
    obtain ⟨entry, member, rfl⟩ := one
    obtain ⟨there, member', same⟩ := two
    have held := held_pos member'
    rw [same] at held
    exact (run.tidy owned).apart queue other entry.2.id (held_pos member) held
  absent := (run.booked injective owned assigned).absent
  removes queue ticket issued := by
    have tidy := run.tidy owned
    have booked := run.booked injective owned assigned
    have unlocked := run.guarded.unlocked queue
    refine ⟨fun event => ?_, ?_⟩
    · rw [reply_remove_iff unlocked]
      exact booked.removalKey_mem_iff tidy issued
    · rw [reply_remove_none_iff unlocked]
      constructor
      · rintro absent ⟨entry, member, numbered⟩
        apply absent entry.2
        exact (booked.removalKey_mem_iff tidy issued).mpr ⟨numbered, entry.1, member⟩
      · intro absent event member
        obtain ⟨numbered, key, stored⟩ := (booked.removalKey_mem_iff tidy issued).mp member
        exact absent ⟨_, stored, numbered⟩
  moves queue ticket issued := by
    have moves : (∃ old event, p.Moves queue ticket old event) ↔ _ :=
      (run.booked injective owned assigned).moves_iff (run.tidy owned) issued
    have unlocked := run.guarded.unlocked queue
    dsimp only
    rw [reply_reposition_iff unlocked, reply_reposition_false_iff unlocked, moves]
    exact ⟨Iff.rfl, Iff.rfl⟩

/-- Packets of two queues, tickets given to the wrong queue, a new index, and a removal that comes
while the packet is at the stream. -/
def crossedTickets : List Action :=
  [.register (.fresh 0 1 0 (.ofMillis 100)), .register (.fresh 0 2 0 (.ofMillis 100)),
    .enqueue 0 (.chat 0 0), .enqueue 1 (.chat 1 1), .revise 0 (.newIndex 9),
    .reposition 1 ⟨0, 0⟩, .reposition 0 ⟨0, 0⟩, .remove 0 ⟨1, 1⟩, .complete 0 ⟨0, 0⟩ 50,
    .remove 0 ⟨0, 0⟩]

theorem owned_crossedTickets : ∀ turn ∈ turns {} crossedTickets, turn.Owned := by
  intro turn member queue event action other held inside
  simp only [crossedTickets, turns, List.mem_cons, List.not_mem_nil, or_false] at member
  rcases member with rfl | rfl | rfl | rfl | rfl | rfl | rfl | rfl | rfl | rfl
  all_goals cases action
  · cases other <;> cases inside
  · cases other with
    | zero => revert held; decide
    | succ => cases inside

theorem assigned_crossedTickets : ∀ turn ∈ turns {} crossedTickets, turn.Assigned id := by
  rintro ⟨p, action⟩ member
  simp only [crossedTickets, turns, List.mem_cons, List.not_mem_nil, or_false,
    Turn.mk.injEq] at member
  rcases member with ⟨-, rfl⟩ | ⟨-, rfl⟩ | ⟨before, rfl⟩ | ⟨before, rfl⟩ | ⟨-, rfl⟩ | ⟨-, rfl⟩ |
    ⟨-, rfl⟩ | ⟨-, rfl⟩ | ⟨-, rfl⟩ | ⟨-, rfl⟩
  all_goals constructor
  -- Only the two enqueues read the state, where the markers of their events are taken in.
  case inr.inr.inl.own | inr.inr.inr.inl.own =>
    rintro _ _ _ ⟨⟩ ⟨⟩
    rw [before]
    exact ⟨rfl, by decide⟩
  all_goals first
    | rintro _ _ _ ⟨⟩
    | rintro _ _ ⟨⟩
    | rintro _ ⟨⟩ <;> rfl

theorem indexed_crossedTickets : Function.Injective (id : EventId → MarkerId) ∧
    Run {} (turns {} crossedTickets) (after {} crossedTickets) ∧
    (∀ turn ∈ turns {} crossedTickets, turn.Owned) ∧
    (∀ turn ∈ turns {} crossedTickets, turn.Assigned id) ∧
    Indexed id (after {} crossedTickets) ∧
    ((after {} crossedTickets).entries 1).map (·.1) = [⟨2, 1⟩] :=
  ⟨fun _ _ same => same, Run.ofActions {} crossedTickets, owned_crossedTickets,
    assigned_crossedTickets, indexed (fun _ _ same => same) (Run.ofActions {} crossedTickets)
      owned_crossedTickets assigned_crossedTickets, by decide⟩

end PacketFlow
