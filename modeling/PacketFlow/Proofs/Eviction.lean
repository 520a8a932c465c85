import PacketFlow.Proofs.Clearance

/-! Eviction before a send, and eviction after it.

An eviction takes the late packets of a queue from wherever they stand. A send rejects those that it
meets in front of the first packet that has to wait. A late packet never has to wait itself, so the
packets that a send transmits and drops do not depend on late ones before or between them: eviction
and send can change places, and only the way in which a late packet is handed back changes with
them.
-/

set_option autoImplicit false

namespace PacketFlow

namespace Markers

/-- It matters which packets were cleared, and not in which order or how often. -/
theorem foldl_clearQueued_congr {first second : List Event}
    (same : ∀ event, event ∈ first ↔ event ∈ second) (markers : Markers) :
    first.foldl clearQueued markers = second.foldl clearQueued markers := by
  apply eq_of_get
  · rw [count_foldl_clearQueued, count_foldl_clearQueued]
  · intro id
    simp only [get_foldl_clearQueued, same]

/-- Queues and streams write into different fields of a marker. -/
theorem acceptAll_foldl_clearQueued (events : List Event) (markers : Markers)
    (answers : List (Parcel × Outcome)) :
    (events.foldl clearQueued markers).acceptAll answers =
      events.foldl clearQueued (markers.acceptAll answers) := by
  apply eq_of_get
  · rw [count_foldl_clearQueued, count_acceptAll, count_acceptAll, count_foldl_clearQueued]
  · intro id
    rw [get_foldl_clearQueued, get_acceptAll, get_acceptAll, get_foldl_clearQueued]
    split <;> rfl

end Markers

namespace Release

theorem isOverdue_iff {now : UInt64} {markers : Markers} {event : Event} :
    markers.isOverdue now event = true ↔
      fate now markers event = .rejected ∨ fate now markers event = .stray := by
  unfold Markers.isOverdue fate
  cases event.marker with
  | none => simp
  | some id =>
    dsimp only
    repeat' split
    all_goals simp_all

/-- A packet whose deadline has passed is not kept back, whatever it is waiting for. -/
theorem isOverdue_or_leaves (now : UInt64) (markers : Markers) (event : Event) :
    (markers.isOverdue now event || decide (fate now markers event ≠ .held)) =
      decide (fate now markers event ≠ .held) := by
  rw [Bool.or_eq_right_iff_imp, isOverdue_iff, decide_eq_true_iff]
  rintro (rejected | stray)
  · simp [rejected]
  · simp [stray]

theorem isOverdue_eq_rejected {now : UInt64} {markers : Markers} {event : Event}
    (marked : event.marker ≠ none) :
    markers.isOverdue now event = decide (fate now markers event = .rejected) := by
  rw [Bool.eq_iff_iff, isOverdue_iff, decide_eq_true_iff]
  exact or_iff_left fun stray => marked (fate_eq_stray.mp stray)

/-- A release takes the packets that it would take with the late ones among them, less those. -/
theorem takeWhile_timely (now : UInt64) (markers : Markers) (entries : List Entry) :
    (entries.filter fun entry => !markers.isOverdue now entry.2).takeWhile
        (fun entry => fate now markers entry.2 ≠ .held) =
      (entries.takeWhile fun entry => fate now markers entry.2 ≠ .held).filter
        fun entry => !markers.isOverdue now entry.2 := by
  simp only [List.takeWhile_filter, Bool.not_not, isOverdue_or_leaves]

theorem dropWhile_timely (now : UInt64) (markers : Markers) (entries : List Entry) :
    (entries.filter fun entry => !markers.isOverdue now entry.2).dropWhile
        (fun entry => fate now markers entry.2 ≠ .held) =
      (entries.dropWhile fun entry => fate now markers entry.2 ≠ .held).filter
        fun entry => !markers.isOverdue now entry.2 := by
  simp only [List.dropWhile_filter, Bool.not_not, isOverdue_or_leaves]

end Release

namespace Pipeline

theorem eq_of_parts {first second : Pipeline} (markers : first.markers = second.markers)
    (queues : first.queues = second.queues) (frames : first.frames = second.frames) :
    first = second := by
  cases first
  cases second
  simp_all

/-- The process after an eviction. -/
def evicted (p : Pipeline) (queue : QueueId) (now : UInt64) : Pipeline :=
  p.hold queue ((p.queues queue).backlog.partition fun entry => p.markers.isOverdue now entry.2).2
    ((p.overdue queue now).foldl Markers.clearQueued p.markers)

/-- The process after a send whose streams give some answers. -/
def emptied (p : Pipeline) (queue : QueueId) (now : UInt64) (outcomes : List Outcome) : Pipeline :=
  let last := ((p.begin queue).looked queue now).rest queue
  { last with markers := last.markers.acceptAll ((p.sendings queue now).zip outcomes) }

section evicted

variable (p : Pipeline) (queue : QueueId) (now : UInt64)

theorem entries_evicted : (p.evicted queue now).entries queue =
    (p.entries queue).filter fun entry => !p.markers.isOverdue now entry.2 := by
  rw [evicted, entries_hold, if_pos rfl]
  rfl

theorem alike_evicted {α : Type} {read : Marker → α} (lasting : Marker.Lasting read) :
    Markers.Alike read (p.evicted queue now).markers p.markers :=
  Markers.alike_foldl_clearQueued lasting ..

theorem fate_evicted (event : Event) :
    Release.fate now (p.evicted queue now).markers event = Release.fate now p.markers event :=
  Release.fate_of_sameGates (alike_evicted p queue now Marker.lasting_gate).sameGates now event

theorem taken_evicted :
    Release.taken now ((p.evicted queue now).entries queue) (p.evicted queue now).markers =
      (Release.taken now (p.entries queue) p.markers).filter
        fun event => !p.markers.isOverdue now event := by
  simp only [Release.taken, fate_evicted, entries_evicted, Release.takeWhile_timely,
    List.filter_map]
  rfl

/-- Late packets are missed by none but a send that would reject or lose them. -/
theorem filter_taken_evicted (fate : Fate) :
    ((Release.taken now ((p.evicted queue now).entries queue) (p.evicted queue now).markers).filter
        fun event => Release.fate now (p.evicted queue now).markers event = fate) =
      if fate = .rejected ∨ fate = .stray then []
      else (Release.taken now (p.entries queue) p.markers).filter
        fun event => Release.fate now p.markers event = fate := by
  simp only [taken_evicted, fate_evicted, List.filter_filter]
  split
  next late =>
    apply List.filter_eq_nil_iff.mpr
    intro event _
    rw [Bool.and_eq_true, decide_eq_true_iff, not_and]
    rintro rfl
    simpa using Release.isOverdue_iff.mpr late
  next timely =>
    apply List.filter_congr
    intro event _
    rw [Bool.and_eq_left_iff_imp, decide_eq_true_iff]
    rintro rfl
    simpa using mt Release.isOverdue_iff.mp timely

/-- What a send transmits does not depend on late packets. -/
theorem sendings_evicted : (p.evicted queue now).sendings queue now = p.sendings queue now := by
  rw [← batch_released, ← batch_released, released, released, Release.heads_batch,
    Release.heads_batch, filter_taken_evicted, if_neg (by decide)]

/-- After an eviction a send reports the same, less the packets that are late. -/
theorem cleared_evicted (outcomes : List Outcome) :
    (p.evicted queue now).cleared queue now outcomes =
      { p.cleared queue now outcomes with expired := [] } := by
  have cancelled : ((p.evicted queue now).released queue now).cancelled =
      (p.released queue now).cancelled := by
    rw [released, released, Release.heads_cancelled, Release.heads_cancelled,
      List.countP_eq_length_filter, filter_taken_evicted, if_neg (by decide),
      List.countP_eq_length_filter]
  have expired : ((p.evicted queue now).released queue now).expired = [] := by
    rw [released, Release.heads_expired, filter_taken_evicted, if_pos (by decide)]
  rw [cancelled_released, cancelled_released] at cancelled
  rw [expired_released] at expired
  rw [cleared, cleared, sendings_evicted, cancelled, expired]

theorem entries_emptied (outcomes : List Outcome) :
    (p.emptied queue now outcomes).entries queue =
      (p.entries queue).dropWhile fun entry => Release.fate now p.markers entry.2 ≠ .held := by
  have same : (p.emptied queue now outcomes).entries queue =
      (((p.begin queue).looked queue now).rest queue).entries queue := rfl
  rw [same, entries_rest, entries_looked, if_pos rfl, released_begin, released, Release.heads_left]

theorem markers_emptied (outcomes : List Outcome) :
    (p.emptied queue now outcomes).markers =
      (Release.taken now (p.entries queue) p.markers).foldl Markers.clearQueued
        (p.markers.acceptAll ((p.sendings queue now).zip outcomes)) := by
  have same : (p.emptied queue now outcomes).markers =
      ((p.begin queue).released queue now).markers.acceptAll
        ((p.sendings queue now).zip outcomes) := rfl
  rw [same, released_begin, released, Release.heads_markers, Markers.acceptAll_foldl_clearQueued]

theorem isOverdue_congr {first second : Markers} (same : first.SameGates second) (event : Event) :
    first.isOverdue now event = second.isOverdue now event := by
  rw [Bool.eq_iff_iff, Release.isOverdue_iff, Release.isOverdue_iff,
    Release.fate_of_sameGates same]

theorem sameGates_emptied (outcomes : List Outcome) :
    (p.emptied queue now outcomes).markers.SameGates p.markers := by
  rw [markers_emptied]
  constructor
  · rw [Markers.count_foldl_clearQueued, Markers.count_acceptAll]
  · intro id
    rw [Markers.get_foldl_clearQueued, Markers.get_acceptAll]
    split <;> rfl

/-- What is late in a queue is late in front of what stays there, or behind. -/
theorem overdue_eq (outcomes : List Outcome) : p.overdue queue now =
    ((Release.taken now (p.entries queue) p.markers).filter (p.markers.isOverdue now)) ++
      (p.emptied queue now outcomes).overdue queue now := by
  have behind : (p.emptied queue now outcomes).overdue queue now =
      (((p.entries queue).dropWhile fun entry => Release.fate now p.markers entry.2 ≠ .held).filter
        fun entry => p.markers.isOverdue now entry.2).map (·.2) := by
    simp only [overdue, entries_emptied, isOverdue_congr now (sameGates_emptied ..)]
  rw [behind, Release.taken, List.filter_map, ← List.map_append]
  have parts := List.takeWhile_append_dropWhile
    (p := fun entry : Entry => Release.fate now p.markers entry.2 ≠ .held) (l := p.entries queue)
  rw [overdue]
  conv => lhs; rw [← parts, List.filter_append]
  rfl

/-- The packets that leave a queue are the same in both orders. -/
theorem mem_leaving (outcomes : List Outcome) (event : Event) :
    event ∈ p.overdue queue now ++
        Release.taken now ((p.evicted queue now).entries queue) (p.evicted queue now).markers ↔
      event ∈ Release.taken now (p.entries queue) p.markers ++
        (p.emptied queue now outcomes).overdue queue now := by
  rw [taken_evicted, overdue_eq p queue now outcomes]
  simp only [List.mem_append, List.mem_filter, Bool.not_eq_true']
  cases p.markers.isOverdue now event <;> simp [or_comm]

theorem markers_emptied_evicted (outcomes : List Outcome) :
    ((p.evicted queue now).emptied queue now outcomes).markers =
      ((p.emptied queue now outcomes).evicted queue now).markers := by
  have first : (p.evicted queue now).markers =
      (p.overdue queue now).foldl Markers.clearQueued p.markers := rfl
  have last : ((p.emptied queue now outcomes).evicted queue now).markers =
      ((p.emptied queue now outcomes).overdue queue now).foldl Markers.clearQueued
        (p.emptied queue now outcomes).markers := rfl
  rw [last, markers_emptied, markers_emptied, sendings_evicted, ← List.foldl_append, first,
    Markers.acceptAll_foldl_clearQueued, ← List.foldl_append]
  exact Markers.foldl_clearQueued_congr (mem_leaving p queue now outcomes) _

theorem entries_emptied_evicted (outcomes : List Outcome) :
    ((p.evicted queue now).emptied queue now outcomes).entries queue =
      ((p.emptied queue now outcomes).evicted queue now).entries queue := by
  simp only [entries_emptied, entries_evicted, fate_evicted, Release.dropWhile_timely,
    isOverdue_congr now (sameGates_emptied ..)]

theorem queues_emptied_evicted (outcomes : List Outcome) :
    ((p.evicted queue now).emptied queue now outcomes).queues =
      ((p.emptied queue now outcomes).evicted queue now).queues := by
  have backlog := Backlog.ext (entries_emptied_evicted p queue now outcomes)
  funext other
  by_cases same : other = queue
  · subst same
    have flags : ((p.evicted other now).emptied other now outcomes).queues other =
        { ((p.emptied other now outcomes).evicted other now).queues other with
          backlog :=
            (((p.evicted other now).emptied other now outcomes).queues other).backlog } := by
      simp [emptied, evicted, looked, queues_rest, queues_hold, queues_begin]
    rw [flags, backlog]
  · simp [emptied, evicted, looked, queues_rest, queues_hold, queues_begin, same]

/-- Both orders lead to the same state. -/
theorem emptied_evicted (outcomes : List Outcome) :
    (p.evicted queue now).emptied queue now outcomes =
      (p.emptied queue now outcomes).evicted queue now := by
  have frames : ((p.evicted queue now).emptied queue now outcomes).frames =
      ((p.emptied queue now outcomes).evicted queue now).frames := rfl
  exact eq_of_parts (markers_emptied_evicted ..) (queues_emptied_evicted ..) frames

/-- A send rejects the late packets that it takes out. -/
theorem rejected_eq (marked : ∀ entry ∈ p.entries queue, entry.2.marker ≠ none)
    (outcomes : List Outcome) : (p.cleared queue now outcomes).expired =
      (Release.taken now (p.entries queue) p.markers).filter (p.markers.isOverdue now) := by
  have same : (p.cleared queue now outcomes).expired = (p.released queue now).expired :=
    (expired_released ..).symm
  rw [same, released, Release.heads_expired]
  apply List.filter_congr
  intro event member
  obtain ⟨entry, taken, rfl⟩ := List.mem_map.mp member
  have stored := (List.takeWhile_sublist _).subset taken
  exact (Release.isOverdue_eq_rejected (marked entry stored)).symm

end evicted

section clearance

variable {p : Pipeline} {queue : QueueId} (now : UInt64)

theorem step_evicted (unlocked : (p.queues queue).locked = false) : p.step (.evict queue now) =
    { reply := .evicted (p.overdue queue now), state := p.evicted queue now } :=
  step_evict unlocked now

theorem after_clearance {outcomes : List Outcome} (unlocked : (p.queues queue).locked = false)
    (idle : (p.queues queue).draining = false)
    (complete : outcomes.length = (p.sendings queue now).length) :
    p.after (clearance queue now outcomes) = p.emptied queue now outcomes :=
  (clearance_eq now unlocked idle complete).2

end clearance

/-- The deadline of a packet lies before a time. -/
def Late (p : Pipeline) (now : UInt64) (event : Event) : Prop :=
  ∃ id, event.marker = some id ∧ (p.markers.get id).timeout < now

theorem isOverdue_iff_late {p : Pipeline} {now : UInt64} {event : Event}
    (marked : event.marker ≠ none) :
    p.markers.isOverdue now event = true ↔ p.Late now event := by
  obtain ⟨id, tagged⟩ := Option.ne_none_iff_exists'.mp marked
  simp [Late, Markers.isOverdue, Marker.isExpiredAt, tagged]

end Pipeline

open Pipeline

/-- What comes of an eviction and a send at one time, one after the other, when the streams that
the send calls give some answers and do nothing else. -/
structure Interchanges (p : Pipeline) (queue : QueueId) (now : UInt64) (outcomes : List Outcome) :
    Prop where
  /-- An eviction hands back the packets that are late, in the order of their keys. -/
  evicts : ∃ taken : List Entry,
    (p.step (.evict queue now)).reply = .evicted (taken.map (·.2)) ∧
      taken.Pairwise (fun a b => a.1.lt b.1 = true) ∧
      ∀ entry, entry ∈ taken ↔ entry ∈ p.entries queue ∧ p.Late now entry.2
  keeps : ∀ entry, entry ∈ (p.step (.evict queue now)).state.entries queue ↔
    entry ∈ p.entries queue ∧ ¬p.Late now entry.2
  /-- In both orders the send makes the same calls and reports the same, but after an eviction it
  has nothing to reject. What it rejects otherwise was evicted first. -/
  replies : ∃ (calls : List StreamCall) (report : Report) (rejected late : List Event),
    report.expired = [] ∧
      (p.turns (.evict queue now :: clearance queue now outcomes)).map (·.step.reply) =
        .evicted (rejected ++ late) :: (calls.map .calling ++ [.reported report]) ∧
      (p.turns (clearance queue now outcomes ++ [.evict queue now])).map (·.step.reply) =
        calls.map .calling ++ [.reported { report with expired := rejected }, .evicted late]
  /-- In both orders the process ends in the same state. -/
  state : p.after (.evict queue now :: clearance queue now outcomes) =
    p.after (clearance queue now outcomes ++ [.evict queue now])

/-- Outside a send, an eviction can be made before a send or after it. -/
theorem interchanges {p : Pipeline} {queue : QueueId} (now : UInt64) {outcomes : List Outcome}
    (unlocked : (p.queues queue).locked = false) (idle : (p.queues queue).draining = false)
    (marked : ∀ entry ∈ p.entries queue, entry.2.marker ≠ none)
    (complete : outcomes.length = (p.sendings queue now).length) :
    Interchanges p queue now outcomes := by
  have late : ∀ entry ∈ p.entries queue,
      (p.markers.isOverdue now entry.2 = true ↔ p.Late now entry.2) :=
    fun entry member => isOverdue_iff_late (marked entry member)
  -- The guard and the lock of the queue are as free between the two operations as before them.
  have unlocked' : ((p.evicted queue now).queues queue).locked = false := by
    simpa [evicted, queues_hold] using unlocked
  have idle' : ((p.evicted queue now).queues queue).draining = false := by
    simpa [evicted, queues_hold] using idle
  have freed : ((p.emptied queue now outcomes).queues queue).locked = false := by
    simpa [emptied, looked, queues_rest, queues_hold, queues_begin] using unlocked
  have complete' : outcomes.length = ((p.evicted queue now).sendings queue now).length := by
    rw [sendings_evicted]
    exact complete
  constructor
  case evicts =>
    refine ⟨(p.entries queue).filter fun entry => p.markers.isOverdue now entry.2, ?_,
      (p.ascending queue).filter _, fun entry => ?_⟩
    · rw [step_evicted now unlocked]
      rfl
    · rw [List.mem_filter]
      exact and_congr_right (late entry)
  case keeps =>
    intro entry
    rw [step_evicted now unlocked, entries_evicted, List.mem_filter, Bool.not_eq_true',
      ← Bool.not_eq_true]
    exact and_congr_right fun member => not_congr (late entry member)
  case replies =>
    refine ⟨(p.sendings queue now).map p.call, { p.cleared queue now outcomes with expired := [] },
      (p.cleared queue now outcomes).expired, (p.emptied queue now outcomes).overdue queue now,
      rfl, ?_, ?_⟩
    · have calls := call_of_alike (alike_evicted p queue now Marker.lasting_stream)
      have replies := (clearance_eq now unlocked' idle' complete').1
      rw [sendings_evicted, cleared_evicted] at replies
      simp only [calls] at replies
      rw [turns, List.map_cons, Turn.step, step_evicted now unlocked, replies,
        rejected_eq p queue now marked, ← overdue_eq, List.map_map]
      rfl
    · have replies := (clearance_eq now unlocked idle complete).1
      rw [turns_append, List.map_append, replies, after_clearance now unlocked idle complete,
        List.append_assoc, List.map_map]
      simp only [turns, Turn.step, step_evicted now freed, List.map_cons, List.map_nil]
      rfl
  case state =>
    calc p.after (.evict queue now :: clearance queue now outcomes)
        = (p.evicted queue now).after (clearance queue now outcomes) := by
          rw [after, List.foldl_cons, step_evicted now unlocked, ← after]
      _ = (p.evicted queue now).emptied queue now outcomes :=
          after_clearance now unlocked' idle' complete'
      _ = (p.emptied queue now outcomes).evicted queue now := emptied_evicted ..
      _ = p.after (clearance queue now outcomes ++ [.evict queue now]) := by
          rw [after_append, after_clearance now unlocked idle complete]
          exact (congrArg Step.state (step_evicted now freed)).symm

/-- One late packet stands first and is met by the send, the other one stands behind a packet that
has to wait. -/
theorem interchanges_sixQueued :
    let p := after {} sixQueued
    let outcomes : List Outcome := [.ok (), .error (.access "closed")]
    (p.queues 0).locked = false ∧ (p.queues 0).draining = false ∧
      (∀ entry ∈ p.entries 0, entry.2.marker ≠ none) ∧
      outcomes.length = (p.sendings 0 100).length ∧ Interchanges p 0 100 outcomes ∧
      (p.cleared 0 100 outcomes).expired = [.chat 0 0] ∧
      p.overdue 0 100 = [.chat 0 0, .chat 5 5] := by
  intro p outcomes
  have marked : ∀ entry ∈ p.entries 0, entry.2.marker ≠ none := by decide
  have complete : outcomes.length = (p.sendings 0 100).length := by decide
  exact ⟨rfl, rfl, marked, complete, interchanges 100 rfl rfl marked complete, by decide,
    by decide⟩

end PacketFlow
