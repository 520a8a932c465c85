import PacketFlow.Proofs.Custody
import PacketFlow.Proofs.Settlement

/-! What one send takes out of a queue.

When the streams only answer, a send takes the longest run of first entries none of which has to
wait, and nothing else. What it rejects, drops and transmits, what it reports and what it writes
into the markers are read off that run as it was when the send began.
-/

set_option autoImplicit false

namespace PacketFlow

/-- The deadline has passed, or listeners have finished or are not waited for and no deferral is
outstanding. -/
def Marker.mayLeave (marker : Marker) (now : UInt64) : Bool :=
  marker.timeout < now ||
    (marker.processed || marker.asyncCancelled) && marker.deferrals.outstanding ≤ 0

namespace Markers

/-- No marker keeps an event back. -/
def lets (markers : Markers) (now : UInt64) (event : Event) : Bool :=
  event.marker.all fun id => (markers.get id).mayLeave now

def late (markers : Markers) (now : UInt64) (parcel : Parcel) : Bool :=
  (markers.get parcel.marker).timeout < now

/-- Record the answer of a stream to a parcel. -/
def accept (markers : Markers) (parcel : Parcel) : Outcome → Markers
  | .ok () => markers.setTransmitted parcel.marker
  | .error _ => markers

def acceptAll (markers : Markers) (answers : List (Parcel × Outcome)) : Markers :=
  answers.foldl (fun markers answer => markers.accept answer.1 answer.2) markers

/-- An answer says that the packet of a marker was transmitted. -/
def accepted (id : MarkerId) (answers : List (Parcel × Outcome)) : Bool :=
  answers.any fun answer => answer.1.marker == id && answer.2.isOk

theorem get_accept (markers : Markers) (parcel : Parcel) (outcome : Outcome) (id : MarkerId) :
    (markers.accept parcel outcome).get id =
      { markers.get id with
        transmitted := (markers.get id).transmitted || accepted id [(parcel, outcome)] } := by
  cases outcome with
  | error => simp [accept, accepted, Except.isOk, Except.toBool]
  | ok =>
    by_cases same : id = parcel.marker
    · simp [accept, accepted, setTransmitted, set, same, Except.isOk, Except.toBool]
    · simp [accept, accepted, setTransmitted, set, same, beq_false_of_ne (Ne.symm same)]

theorem get_acceptAll (answers : List (Parcel × Outcome)) (markers : Markers) (id : MarkerId) :
    (markers.acceptAll answers).get id =
      { markers.get id with
        transmitted := (markers.get id).transmitted || accepted id answers } := by
  induction answers generalizing markers with
  | nil => simp [acceptAll, accepted]
  | cons answer rest ih =>
    have first : markers.acceptAll (answer :: rest) =
        (markers.accept answer.1 answer.2).acceptAll rest := rfl
    rw [first, ih, get_accept]
    simp [accepted, Bool.or_assoc]

theorem count_acceptAll (answers : List (Parcel × Outcome)) (markers : Markers) :
    (markers.acceptAll answers).count = markers.count := by
  induction answers generalizing markers with
  | nil => rfl
  | cons answer rest ih =>
    obtain ⟨parcel, outcome⟩ := answer
    cases outcome <;> exact ih _

end Markers

namespace Report

/-- A report with the answers of streams counted in. -/
def answered (report : Report) (answers : List (Parcel × Outcome)) : Report :=
  { report with
    sent := report.sent + (answers.flatMap fun answer => answer.1.accepted answer.2).length
    failed := report.failed ++ answers.flatMap fun answer => answer.1.refused answer.2 }

theorem answered_nil (report : Report) : report.answered [] = report := by
  simp [answered]

/-- Each answer is counted once, as a success or as a failure. -/
theorem length_answers (answers : List (Parcel × Outcome)) :
    (answers.flatMap fun answer => answer.1.accepted answer.2).length +
      (answers.flatMap fun answer => answer.1.refused answer.2).length = answers.length := by
  induction answers with
  | nil => rfl
  | cons answer rest ih =>
    obtain ⟨parcel, outcome⟩ := answer
    have once : (parcel.accepted outcome).length + (parcel.refused outcome).length = 1 := by
      cases outcome <;> rfl
    simp only [List.flatMap_cons, List.length_append, List.length_cons]
    omega

theorem answered_cons (report : Report) (answer : Parcel × Outcome)
    (answers : List (Parcel × Outcome)) :
    report.answered (answer :: answers) = (report.answered [answer]).answered answers := by
  simp [answered, Nat.add_assoc]

end Report

namespace Release

/-- A marker keeps back exactly what a release leaves. -/
theorem lets_eq (now : UInt64) (markers : Markers) (event : Event) :
    markers.lets now event = decide (fate now markers event ≠ .held) := by
  have leaves (marker : Marker) :
      marker.mayLeave now = (marker.isExpiredAt now || marker.isReady) := by
    rw [Bool.eq_iff_iff, Bool.or_eq_true, Marker.isReady_iff]
    simp [Marker.mayLeave, Marker.isExpiredAt]
  rw [Bool.eq_iff_iff, decide_eq_true_iff, ne_eq, fate_eq_held, Markers.lets]
  cases event.marker with
  | none => simp
  | some id =>
    rw [Option.all_some, leaves]
    cases late : (markers.get id).isExpiredAt now <;> simp [late]

/-- What leaves is rejected when it is late, and else dropped or transmitted. -/
theorem fate_of_leaves {now : UInt64} {markers : Markers} {event : Event} {parcel : Parcel}
    (leaves : fate now markers event ≠ .held) (parted : parcel? event = some parcel) :
    fate now markers event =
      if markers.late now parcel then .rejected
      else if parcel.event.cancelled then .dropped else .released := by
  obtain ⟨id, marked, rfl⟩ := Option.map_eq_some_iff.mp parted
  simp only [fate, marked] at leaves ⊢
  simp only [Markers.late, ← Marker.isExpiredAt.eq_1]
  split
  next => rfl
  next timely =>
    rw [if_neg timely] at leaves
    split
    next => rfl
    next waits =>
      rw [if_neg waits] at leaves
      cases leaves rfl

/-- Parcels can be sorted before or after they are made. -/
theorem filterMap_filter_parcel? {events : List Event} {want : Event → Bool} {test : Parcel → Bool}
    (same : ∀ event ∈ events, ∀ parcel, parcel? event = some parcel → want event = test parcel) :
    (events.filter want).filterMap parcel? = (events.filterMap parcel?).filter test := by
  induction events with
  | nil => rfl
  | cons event rest ih =>
    have later := ih fun other member => same other (List.mem_cons_of_mem _ member)
    rw [List.filter_cons]
    cases parted : parcel? event with
    | none =>
      rw [List.filterMap_cons_none parted, ← later]
      split
      next => exact List.filterMap_cons_none parted
      next => rfl
    | some parcel =>
      rw [List.filterMap_cons_some parted, List.filter_cons, ← later,
        same event List.mem_cons_self parcel parted]
      split
      next => exact List.filterMap_cons_some parted
      next => rfl

theorem map_filterMap_parcel? {events : List Event}
    (marked : ∀ event ∈ events, event.marker ≠ none) :
    (events.filterMap parcel?).map (·.event) = events := by
  rw [List.map_filterMap]
  induction events with
  | nil => rfl
  | cons event rest ih =>
    obtain ⟨id, tagged⟩ := Option.ne_none_iff_exists'.mp (marked event List.mem_cons_self)
    rw [List.filterMap_cons_some (b := event) (by simp [parcel?, tagged])]
    rw [ih fun other member => marked other (List.mem_cons_of_mem _ member)]

end Release

namespace Pipeline

/-- The packets that may leave a queue at a time: the longest run of first entries that no marker
keeps back. An event that has no marker leaves with them, and nobody is told. -/
def departing (p : Pipeline) (queue : QueueId) (now : UInt64) : List Parcel :=
  ((p.entries queue).takeWhile fun entry => p.markers.lets now entry.2).filterMap
    fun entry => Release.parcel? entry.2

def sendings (p : Pipeline) (queue : QueueId) (now : UInt64) : List Parcel :=
  (p.departing queue now).filter fun parcel =>
    !p.markers.late now parcel && !parcel.event.cancelled

/-- What a send reports when its streams give some answers. -/
def cleared (p : Pipeline) (queue : QueueId) (now : UInt64) (outcomes : List Outcome) :
    Report where
  sent := (((p.sendings queue now).zip outcomes).flatMap fun answer =>
    answer.1.accepted answer.2).length
  cancelled := (p.departing queue now).countP fun parcel =>
    !p.markers.late now parcel && parcel.event.cancelled
  expired := ((p.departing queue now).filter (p.markers.late now)).map (·.event)
  failed := ((p.sendings queue now).zip outcomes).flatMap fun answer =>
    answer.1.refused answer.2

section released

variable (p : Pipeline) (queue : QueueId) (now : UInt64)

theorem taken_eq : (Release.taken now (p.entries queue) p.markers).filterMap Release.parcel? =
    p.departing queue now := by
  simp only [Release.taken, departing, Release.lets_eq, List.filterMap_map]
  rfl

theorem leaves_of_taken {event : Event}
    (member : event ∈ Release.taken now (p.entries queue) p.markers) :
    Release.fate now p.markers event ≠ .held := by
  obtain ⟨entry, inside, rfl⟩ := List.mem_map.mp member
  simpa using List.all_eq_true.mp List.all_takeWhile entry inside

/-- The packets that meet one of the fates are those of the departing that pass its test. -/
theorem filter_departing (fate : Fate) (test : Parcel → Bool)
    (same : ∀ parcel : Parcel, decide ((if p.markers.late now parcel then Fate.rejected
      else if parcel.event.cancelled then .dropped else .released) = fate) = test parcel) :
    ((Release.taken now (p.entries queue) p.markers).filter fun event =>
      Release.fate now p.markers event = fate).filterMap Release.parcel? =
        (p.departing queue now).filter test := by
  rw [← taken_eq]
  apply Release.filterMap_filter_parcel?
  intro event member parcel parted
  rw [Release.fate_of_leaves (leaves_of_taken p queue now member) parted]
  exact same parcel

theorem filter_taken {fate : Fate} (marked : fate ≠ .stray) (test : Parcel → Bool)
    (same : ∀ parcel : Parcel, decide ((if p.markers.late now parcel then Fate.rejected
      else if parcel.event.cancelled then .dropped else .released) = fate) = test parcel) :
    ((Release.taken now (p.entries queue) p.markers).filter fun event =>
      Release.fate now p.markers event = fate) =
        ((p.departing queue now).filter test).map (·.event) := by
  rw [← p.filter_departing queue now fate test same, Release.map_filterMap_parcel?]
  intro event member unmarked
  have meets := (List.mem_filter.mp member).2
  rw [Release.fate_eq_stray.mpr unmarked] at meets
  exact marked (of_decide_eq_true meets).symm

theorem batch_released : (p.released queue now).batch = p.sendings queue now := by
  rw [released, Release.heads_batch, sendings]
  apply filter_departing
  intro parcel
  cases p.markers.late now parcel <;> cases parcel.event.cancelled <;> rfl

theorem expired_released : (p.released queue now).expired =
    ((p.departing queue now).filter (p.markers.late now)).map (·.event) := by
  rw [released, Release.heads_expired]
  apply filter_taken p queue now (by decide)
  intro parcel
  cases p.markers.late now parcel <;> cases parcel.event.cancelled <;> rfl

theorem cancelled_released : (p.released queue now).cancelled =
    (p.departing queue now).countP fun parcel =>
      !p.markers.late now parcel && parcel.event.cancelled := by
  have dropped := p.filter_taken queue now (show Fate.dropped ≠ .stray by decide)
    (fun parcel => !p.markers.late now parcel && parcel.event.cancelled) fun parcel => by
      cases p.markers.late now parcel <;> cases parcel.event.cancelled <;> rfl
  rw [released, Release.heads_cancelled, List.countP_eq_length_filter, dropped, List.length_map,
    List.countP_eq_length_filter]

theorem get_released (id : MarkerId) :
    (p.released queue now).markers.get id =
      if ∃ parcel ∈ p.departing queue now, parcel.marker = id then
        { p.markers.get id with queuedIndex := none }
      else p.markers.get id := by
  have same : (∃ event ∈ Release.taken now (p.entries queue) p.markers, event.marker = some id) ↔
      ∃ parcel ∈ p.departing queue now, parcel.marker = id := by
    rw [← taken_eq]
    constructor
    · rintro ⟨event, member, marked⟩
      exact ⟨⟨id, event⟩, List.mem_filterMap.mpr ⟨event, member, by simp [Release.parcel?, marked]⟩,
        rfl⟩
    · rintro ⟨parcel, member, rfl⟩
      obtain ⟨event, inside, parted⟩ := List.mem_filterMap.mp member
      obtain ⟨id, marked, rfl⟩ := Option.map_eq_some_iff.mp parted
      exact ⟨event, inside, marked⟩
  rw [released, Release.heads_markers, Markers.get_foldl_clearQueued]
  simp only [same]
  rfl

end released

/-- Streams are called as before after what queues and streams write into markers. -/
theorem call_of_alike {p next : Pipeline}
    (alike : Markers.Alike Marker.stream next.markers p.markers) (parcel : Parcel) :
    next.call parcel = p.call parcel := by
  simp only [call, alike.same]

theorem delivered_eq (p : Pipeline) (parcel : Parcel) (outcome : Outcome) :
    p.delivered parcel outcome = { p with markers := p.markers.accept parcel outcome } := by
  cases outcome <;> rfl

theorem recorded_eq (p : Pipeline) (parcel : Parcel) (outcome : Outcome) (report : Report) :
    p.recorded parcel outcome report = report.answered [(parcel, outcome)] := by
  cases outcome with
  | ok => simp [recorded, deliver, Report.record, Report.answered, Parcel.accepted, Parcel.refused]
  | error =>
    simp [recorded, deliver, Report.record, Report.answered, Parcel.accepted, Parcel.refused]

/-- The stream answers the packet that a send has just handed to it. -/
theorem step_transmit_last {p : Pipeline} {queue : QueueId}
    (unlocked : (p.queues queue).locked = false) (now : UInt64) (parcel : Parcel) (report : Report)
    (notices : List Notice) (outcome : Outcome) :
    (p.transmit queue now parcel [] report notices).state.step (.answer outcome) =
      (p.delivered parcel outcome).advance queue now (report.answered [(parcel, outcome)])
        (p.noted parcel outcome) := by
  rw [← recorded_eq p]
  exact step_answer_last outcome rfl unlocked

theorem step_transmit_next (p : Pipeline) (queue : QueueId) (now : UInt64) (parcel next : Parcel)
    (waiting : List Parcel) (report : Report) (notices : List Notice) (outcome : Outcome) :
    (p.transmit queue now parcel (next :: waiting) report notices).state.step (.answer outcome) =
      (p.delivered parcel outcome).transmit queue now next waiting
        (report.answered [(parcel, outcome)]) (p.noted parcel outcome) := by
  rw [← recorded_eq p]
  exact step_answer_next outcome rfl

/-- What a send does with its batch when the streams only answer and nothing more may leave. -/
theorem answers_transmit {p : Pipeline} {queue : QueueId} {now : UInt64}
    (unlocked : (p.queues queue).locked = false) (settled : p.Settled queue now) (parcel : Parcel)
    {waiting : List Parcel} (report : Report) (notices : List Notice) (first : Outcome)
    {others : List Outcome} (complete : others.length = waiting.length) :
    let called := (p.transmit queue now parcel waiting report notices).state
    let answers := (parcel :: waiting).zip (first :: others)
    let actions := (first :: others).map Action.answer
    (called.turns actions).map (·.step.reply) =
        waiting.map (fun parcel => .calling (p.call parcel)) ++
          [.reported (report.answered answers)] ∧
      called.after actions = { p.rest queue with markers := p.markers.acceptAll answers } := by
  -- One turn takes the first answer; the rest of the batch is transmitted from there.
  induction waiting generalizing p parcel report notices first others with
  | nil =>
    obtain rfl := List.length_eq_zero_iff.mp complete
    have step := step_transmit_last unlocked now parcel report notices first
    have waits : (p.delivered parcel first).Settled queue now :=
      settled.congr (entries_delivered ..) (alike_delivered Marker.lasting_gate ..).sameGates
    rw [advance_of_settled waits, delivered_eq] at step
    constructor
    · simp [turns, Turn.step, step]
    · simp [after, step, rest, setQueue, Markers.acceptAll]
  | cons next waiting ih =>
    obtain ⟨second, others, rfl⟩ := List.exists_cons_of_length_eq_add_one complete
    have step := step_transmit_next p queue now parcel next waiting report notices first
    have waits : (p.delivered parcel first).Settled queue now :=
      settled.congr (entries_delivered ..) (alike_delivered Marker.lasting_gate ..).sameGates
    have unlocked' : ((p.delivered parcel first).queues queue).locked = false := by
      rw [queues_delivered]
      exact unlocked
    have calls := call_of_alike (alike_delivered Marker.lasting_stream p parcel first)
    obtain ⟨replies, last⟩ := ih unlocked' waits next (report.answered [(parcel, first)])
      (p.noted parcel first) second (by simpa using complete)
    constructor
    · rw [List.map_cons, turns, List.map_cons, Turn.step, step, replies, ← Report.answered_cons]
      simp only [calls, List.map_cons, List.cons_append, transmit]
      rfl
    · rw [List.map_cons, after, List.foldl_cons, step, ← after, last, delivered_eq]
      rfl

theorem released_begin (p : Pipeline) (queue : QueueId) (now : UInt64) :
    (p.begin queue).released queue now = p.released queue now := by
  rw [released, entries_begin]
  rfl

end Pipeline

/-- A send of a queue, and the answers that its streams give. -/
def clearance (queue : QueueId) (now : UInt64) (outcomes : List Outcome) : List Action :=
  .trySend queue now :: outcomes.map .answer

open Pipeline

/-- A send begins, calls its streams one after the other and reports. -/
theorem clearance_eq {p : Pipeline} {queue : QueueId} (now : UInt64) {outcomes : List Outcome}
    (unlocked : (p.queues queue).locked = false) (idle : (p.queues queue).draining = false)
    (complete : outcomes.length = (p.sendings queue now).length) :
    (p.turns (clearance queue now outcomes)).map (·.step.reply) =
        (p.sendings queue now).map (fun parcel => .calling (p.call parcel)) ++
          [.reported (p.cleared queue now outcomes)] ∧
      p.after (clearance queue now outcomes) =
        let last := ((p.begin queue).looked queue now).rest queue
        { last with
          markers := last.markers.acceptAll ((p.sendings queue now).zip outcomes) } := by
  have step : p.step (.trySend queue now) = (p.begin queue).advance queue now {} [] :=
    trySend_idle unlocked idle now
  have reported : p.cleared queue now outcomes =
      (({} : Report).absorb ((p.begin queue).released queue now)).answered
        ((p.sendings queue now).zip outcomes) := by
    simp [cleared, Report.answered, Report.absorb, released_begin, expired_released,
      cancelled_released]
  rw [reported]
  rw [← batch_released] at complete ⊢
  have batch := congrArg Release.batch (released_begin p queue now)
  cases parcels : (p.released queue now).batch with
  | nil =>
    rw [parcels] at complete batch
    obtain rfl := List.length_eq_zero_iff.mp complete
    rw [advance_of_nil batch] at step
    constructor
    · simp [clearance, turns, Turn.step, step, Report.answered_nil]
    · simp [clearance, after, step, Markers.acceptAll]
  | cons parcel waiting =>
    rw [parcels] at complete batch
    obtain ⟨first, others, rfl⟩ := List.exists_cons_of_length_eq_add_one complete
    rw [advance_of_cons batch] at step
    have settled := settled_of_advance (p.begin queue) queue now {} []
    rw [advance_of_cons batch] at settled
    have unlocked' : (((p.begin queue).looked queue now).queues queue).locked = false := by
      simpa [looked, queues_hold, begin] using unlocked
    have calls := call_of_alike (alike_looked Marker.lasting_stream (p.begin queue) queue now)
    obtain ⟨replies, last⟩ := answers_transmit unlocked' settled parcel
      (({} : Report).absorb ((p.begin queue).released queue now)) _ first (by simpa using complete)
    constructor
    · rw [clearance, turns, List.map_cons, Turn.step, step, replies]
      simp only [calls, List.map_cons, List.cons_append, transmit]
      rfl
    · rw [clearance, after, List.foldl_cons, step, ← after, last]
      rfl

/-- What a send of a queue does when its streams give some answers and do nothing else. -/
structure Clears (p : Pipeline) (queue : QueueId) (now : UInt64) (outcomes : List Outcome)
    (last : Pipeline) : Prop where
  /-- There is one call for each packet to transmit, in order, and the report at the end. -/
  replies : (p.turns (clearance queue now outcomes)).map (·.step.reply) =
    (p.sendings queue now).map (fun parcel => .calling (p.call parcel)) ++
      [.reported (p.cleared queue now outcomes)]
  /-- What was transmitted is reported as sent or as failed. -/
  parted : (p.cleared queue now outcomes).sent + (p.cleared queue now outcomes).failed.length =
    (p.sendings queue now).length
  left : last.entries queue =
    (p.entries queue).dropWhile fun entry => p.markers.lets now entry.2
  free : (last.queues queue).draining = false
  apart : ∀ other, other ≠ queue → last.queues other = p.queues other
  frames : last.frames = p.frames
  registered : last.markers.count = p.markers.count
  departed : ∀ parcel ∈ p.departing queue now, last.markers.get parcel.marker =
    { p.markers.get parcel.marker with
      queuedIndex := none
      transmitted := (p.markers.get parcel.marker).transmitted ||
        Markers.accepted parcel.marker ((p.sendings queue now).zip outcomes) }
  /-- A marker that no departing packet has is left alone. -/
  stays : ∀ id, (∀ parcel ∈ p.departing queue now, parcel.marker ≠ id) →
    last.markers.get id = p.markers.get id

/-- Outside a send, a send takes out exactly the packets that may leave. -/
theorem clears {p : Pipeline} {queue : QueueId} (now : UInt64) {outcomes : List Outcome}
    (unlocked : (p.queues queue).locked = false) (idle : (p.queues queue).draining = false)
    (complete : outcomes.length = (p.sendings queue now).length) :
    Clears p queue now outcomes (p.after (clearance queue now outcomes)) := by
  obtain ⟨replies, last⟩ := clearance_eq now unlocked idle complete
  have record (id : MarkerId) : (((p.begin queue).looked queue now).rest queue).markers.get id =
      if ∃ parcel ∈ p.departing queue now, parcel.marker = id then
        { p.markers.get id with queuedIndex := none }
      else p.markers.get id := by
    rw [← get_released, ← released_begin]
    rfl
  rw [last]
  constructor
  case replies => exact replies
  case parted =>
    rw [cleared, Report.length_answers, List.length_zip, complete, Nat.min_self]
  case left =>
    calc (((p.begin queue).looked queue now).rest queue).entries queue
        = ((p.begin queue).released queue now).left := by
          rw [entries_rest, entries_looked, if_pos rfl]
      _ = (p.entries queue).dropWhile fun entry => p.markers.lets now entry.2 := by
          rw [released_begin, released, Release.heads_left]
          simp only [Release.lets_eq]
  case free => exact congrArg Queue.draining (queues_setQueue_self ..)
  case apart =>
    intro other different
    simp [queues_rest, looked, queues_hold, queues_begin, different]
  case frames => rfl
  case registered =>
    exact (Markers.count_acceptAll ..).trans (alike_looked Marker.lasting_stream ..).count
  case departed =>
    intro parcel member
    rw [Markers.get_acceptAll, record, if_pos ⟨parcel, member, rfl⟩]
  case stays =>
    intro id apart
    have silent : Markers.accepted id ((p.sendings queue now).zip outcomes) = false := by
      apply List.any_eq_false.mpr
      intro answer member
      have sending := (List.of_mem_zip member).1
      have different := apart answer.1 (List.mem_filter.mp sending).1
      simp [different]
    rw [Markers.get_acceptAll, record, if_neg (by simpa using apart), silent, Bool.or_false]

/-- Six packets, queued out of order: one that is late, one that was cancelled, one that is ready
and one that is no longer waited for; then one that owes a deferral, and behind it a late one. -/
def sixQueued : List Action :=
  [.register (.fresh 0 1 0 (.ofMillis 50)), .register (.fresh 0 2 0 (.ofMillis 500)),
    .register (.fresh 0 3 0 (.ofMillis 500)), .register (.fresh 0 4 0 (.ofMillis 500)),
    .register (.fresh 0 5 0 (.ofMillis 500)), .register (.fresh 0 6 0 (.ofMillis 50)),
    .enqueue 0 (.chat 3 3), .enqueue 0 { Event.chat 1 1 with cancelled := true },
    .enqueue 0 (.chat 5 5), .enqueue 0 (.chat 4 4), .enqueue 0 (.chat 0 0), .enqueue 0 (.chat 2 2),
    .revise 1 (.processed true), .revise 2 (.processed true), .revise 3 (.asyncCancelled true),
    .revise 4 (.processed true), .revise 4 .defer]

/-- The first call succeeds and the second one fails. -/
theorem clears_sixQueued :
    let p := after {} sixQueued
    let outcomes : List Outcome := [.ok (), .error (.access "closed")]
    (p.queues 0).locked = false ∧ (p.queues 0).draining = false ∧
      outcomes.length = (p.sendings 0 100).length ∧
      Clears p 0 100 outcomes (p.after (clearance 0 100 outcomes)) ∧
      p.cleared 0 100 outcomes =
        { sent := 1, cancelled := 1, expired := [.chat 0 0]
          failed := [(.chat 3 3, .transmission (.access "closed"))] } ∧
      ((p.after (clearance 0 100 outcomes)).entries 0).map (·.2.id) = [4, 5] := by
  intro p outcomes
  have complete : outcomes.length = (p.sendings 0 100).length := by decide
  exact ⟨rfl, rfl, complete, clears 100 rfl rfl complete, by decide, by decide⟩

end PacketFlow
