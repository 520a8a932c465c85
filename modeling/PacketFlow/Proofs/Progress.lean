import PacketFlow.Proofs.Entries

/-! What a history says of the packets of a queue.

In an orderly history packets are put in with rising keys, every deferral of a packet is added
before the packet is complete or released once, and no more are released than were added. As long as
no packet is deferred more often than a counter can tell, the record of every marker can be read off
the history: a packet is ready exactly when it is complete and as many deferrals were released as
were added.
-/

set_option autoImplicit false

namespace PacketFlow

namespace Deferrals

theorem toInt_add {deferrals : Deferrals} (room : deferrals.outstanding.toInt < 2147483647) :
    deferrals.add.outstanding.toInt = deferrals.outstanding.toInt + 1 := by
  have low := deferrals.outstanding.le_toInt
  have one : (1 : Int32).toInt = 1 := by decide
  rw [add, Int32.toInt_add, one, Int.bmod_eq_of_le] <;> omega

theorem toInt_release {deferrals : Deferrals} (added : 0 < deferrals.outstanding.toInt) :
    deferrals.release.outstanding.toInt = deferrals.outstanding.toInt - 1 := by
  have high := deferrals.outstanding.toInt_lt
  have one : (1 : Int32).toInt = 1 := by decide
  rw [release, Int32.toInt_sub, one, Int.bmod_eq_of_le] <;> omega

theorem isHolding_iff {deferrals : Deferrals} :
    deferrals.isHolding = true ↔ 0 < deferrals.outstanding.toInt := by
  simp [isHolding, Int32.lt_iff_toInt_lt]

end Deferrals

namespace Turn

def placed (queue : QueueId) (turn : Turn) : List Entry :=
  match turn.action with
  | .enqueue other event =>
    if other = queue then
      event.marker.toList.map fun id => (⟨(turn.state.markers.get id).newIndex, event.id⟩, event)
    else []
  | _ => []

def defers (id : MarkerId) (turn : Turn) : Bool :=
  match turn.action with
  | .revise other .defer => other = id
  | _ => false

def signals (id : MarkerId) (turn : Turn) : Bool :=
  match turn.action with
  | .signal _ ticket _ => ticket.marker = id
  | _ => false

def completes (id : MarkerId) (turn : Turn) : Bool :=
  match turn.action with
  | .complete _ ticket _ => ticket.marker = id
  | _ => false

end Turn

namespace History

/-- The entries that were stored in a queue, under the keys that they got. -/
def placed (history : List Turn) (queue : QueueId) : List Entry :=
  history.flatMap (Turn.placed queue)

def deferred (history : List Turn) (id : MarkerId) : Nat := history.countP (Turn.defers id)

def signalled (history : List Turn) (id : MarkerId) : Nat := history.countP (Turn.signals id)

def completed (history : List Turn) (id : MarkerId) : Bool := history.any (Turn.completes id)

/-- The packet is complete, and as many deferrals were released as were added. -/
def settled (history : List Turn) (event : Event) : Bool :=
  event.marker.any fun id =>
    completed history id && signalled history id == deferred history id

/-- No packet is deferred more often than its counter can tell. -/
def Counted (history : List Turn) : Prop := ∀ id, deferred history id ≤ 2147483647

/-- A ticket was given out for an entry that was stored. -/
def Issued (history : List Turn) (queue : QueueId) (ticket : Ticket) : Prop :=
  ∃ entry ∈ placed history queue, entry.2.id = ticket.event ∧ entry.2.marker = some ticket.marker

section snoc

variable (history : List Turn) (turn : Turn) (queue : QueueId) (id : MarkerId)

theorem placed_snoc :
    placed (history ++ [turn]) queue = placed history queue ++ turn.placed queue := by
  simp [placed]

theorem deferred_snoc : deferred (history ++ [turn]) id =
    deferred history id + if turn.defers id then 1 else 0 := by
  simp [deferred, List.countP_append, List.countP_cons]

theorem signalled_snoc : signalled (history ++ [turn]) id =
    signalled history id + if turn.signals id then 1 else 0 := by
  simp [signalled, List.countP_append, List.countP_cons]

theorem completed_snoc :
    completed (history ++ [turn]) id = (completed history id || turn.completes id) := by
  simp [completed]

end snoc

theorem Counted.earlier {history : List Turn} {turn : Turn}
    (counted : Counted (history ++ [turn])) : Counted history := by
  intro id
  have all := counted id
  rw [deferred_snoc] at all
  omega

end History

open History Pipeline

/-- What may be done next to one queue. Markers are taken in fresh. A deferral is added while the
packet is neither complete nor released. An event is put in with a marker that no other one had,
above every key so far. Packets are completed and released by their tickets, and not released more
often than they were deferred. -/
inductive Permitted (queue : QueueId) (before : List Turn) (p : Pipeline) : Action → Prop where
  | register {marker : Marker} (unprocessed : marker.processed = false)
    (active : marker.asyncCancelled = false) (lasting : marker.timeout = topWord)
    (undeferred : marker.deferrals = {}) : Permitted queue before p (.register marker)
  | defer {id : MarkerId} (registered : id < p.markers.count)
    (incomplete : completed before id = false) (unsignalled : signalled before id = 0) :
    Permitted queue before p (.revise id .defer)
  | enqueue {event : Event} {id : MarkerId} (marked : event.marker = some id)
    (registered : id < p.markers.count) (uncancelled : event.cancelled = false)
    (fresh : ∀ earlier ∈ placed before queue, earlier.2.marker ≠ some id)
    (above : ∀ earlier ∈ placed before queue,
      earlier.1.lt ⟨(p.markers.get id).newIndex, event.id⟩ = true) :
    Permitted queue before p (.enqueue queue event)
  | complete {ticket : Ticket} (now : UInt64) (issued : Issued before queue ticket) :
    Permitted queue before p (.complete queue ticket now)
  | signal {ticket : Ticket} (now : UInt64) (issued : Issued before queue ticket)
    (owed : signalled before ticket.marker < deferred before ticket.marker) :
    Permitted queue before p (.signal queue ticket now)
  | trySend (now : UInt64) : Permitted queue before p (.trySend queue now)
  | answer (outcome : Outcome) : Permitted queue before p (.answer outcome)

theorem Permitted.asked {queue other : QueueId} {before : List Turn} {p : Pipeline}
    {action : Action} {now : UInt64} (permitted : Permitted queue before p action)
    (asked : p.asks? action = some (other, now)) : other = queue := by
  rcases asks?_cases asked with ⟨ticket, rfl⟩ | ⟨ticket, rfl⟩ | rfl <;> cases permitted <;> rfl

/-- What decides whether a packet may be released. -/
structure Marker.Gate where
  timeout : UInt64
  processed : Bool
  asyncCancelled : Bool
  deferrals : Deferrals

def Marker.gate (marker : Marker) : Marker.Gate :=
  ⟨marker.timeout, marker.processed, marker.asyncCancelled, marker.deferrals⟩

/-- A reading of records that sees nothing of what queues and streams write into them. -/
structure Marker.Lasting {α : Type} (read : Marker → α) : Prop where
  queued : ∀ record index, read (record.apply (.queuedIndex index)) = read record
  transmitted : ∀ record : Marker, read { record with transmitted := true } = read record

theorem Marker.lasting_gate : Marker.Lasting Marker.gate := ⟨fun _ _ => rfl, fun _ => rfl⟩

theorem Marker.lasting_stream : Marker.Lasting Marker.stream := ⟨fun _ _ => rfl, fun _ => rfl⟩

/-- A reading of records that is changed by nothing but revisions: it does not see what completes a
packet or releases a deferral either. -/
structure Marker.Enduring {α : Type} (read : Marker → α) : Prop extends Lasting read where
  processed : ∀ record value, read (record.apply (.processed value)) = read record
  released : ∀ record, read (record.apply .release) = read record

namespace Markers

/-- The same numbers are given out, and a reading finds the same in every record. -/
structure Alike {α : Type} (read : Marker → α) (first second : Markers) : Prop where
  count : first.count = second.count
  same : ∀ id, read (first.get id) = read (second.get id)

structure SameGates (first second : Markers) : Prop where
  count : first.count = second.count
  gate : ∀ id, (first.get id).gate = (second.get id).gate

theorem Alike.sameGates {first second : Markers} (alike : Alike Marker.gate first second) :
    first.SameGates second :=
  ⟨alike.count, alike.same⟩

section alike

variable {α : Type} {read : Marker → α}

theorem Alike.refl (markers : Markers) : Alike read markers markers := ⟨rfl, fun _ => rfl⟩

theorem Alike.trans {first second third : Markers} (one : Alike read first second)
    (two : Alike read second third) : Alike read first third :=
  ⟨one.count.trans two.count, fun id => (one.same id).trans (two.same id)⟩

variable (lasting : Marker.Lasting read)

include lasting

theorem alike_setQueued (markers : Markers) (id : MarkerId) (index : Option UInt64) :
    Alike read (markers.setQueued id index) markers :=
  ⟨rfl, read_set read (lasting.queued _ index)⟩

theorem alike_setTransmitted (markers : Markers) (id : MarkerId) :
    Alike read (markers.setTransmitted id) markers :=
  ⟨rfl, read_set read (lasting.transmitted _)⟩

theorem alike_foldl_clearQueued (events : List Event) (markers : Markers) :
    Alike read (events.foldl clearQueued markers) markers := by
  refine ⟨count_foldl_clearQueued events markers, fun id => ?_⟩
  rw [get_foldl_clearQueued]
  split
  next => exact lasting.queued _ _
  next => rfl

end alike

end Markers

namespace Pipeline

/-- The markers after what an action itself does to them, without what queues and streams record. -/
def adjusted (p : Pipeline) : Action → Markers
  | .register marker => (p.markers.add marker).2
  | .revise id change => p.markers.revise id change
  | action => (p.prepared action).markers

section alike

variable {α : Type} {read : Marker → α} (lasting : Marker.Lasting read)

include lasting

theorem alike_delivered (p : Pipeline) (parcel : Parcel) (outcome : Outcome) :
    Markers.Alike read (p.delivered parcel outcome).markers p.markers := by
  cases outcome with
  | error => exact .refl _
  | ok => exact Markers.alike_setTransmitted lasting ..

theorem alike_looked (p : Pipeline) (queue : QueueId) (now : UInt64) :
    Markers.Alike read (p.looked queue now).markers p.markers := by
  have markers : (p.looked queue now).markers = (p.released queue now).markers := rfl
  rw [markers, released, Release.heads_markers]
  exact Markers.alike_foldl_clearQueued lasting ..

theorem alike_advance (p : Pipeline) (queue : QueueId) (now : UInt64) (report : Report)
    (notices : List Notice) :
    Markers.Alike read (p.advance queue now report notices).state.markers p.markers := by
  rw [markers_advance]
  exact alike_looked lasting p queue now

/-- Apart from what an action itself does, a step leaves alone what a lasting reading sees. -/
theorem Effect.alike {p : Pipeline} {action : Action} {step : Step}
    (effect : Effect p action step) :
    Markers.Alike read step.state.markers (p.adjusted action) := by
  cases effect with
  | register | revise | send | refuse | stay | miss | count | idle => exact .refl _
  | enqueue | move | remove => exact Markers.alike_setQueued lasting ..
  | evict => exact Markers.alike_foldl_clearQueued lasting ..
  | withhold progress => rcases progress with rfl | rfl <;> exact .refl _
  | wait asked => rcases asks?_cases asked with ⟨_, rfl⟩ | ⟨_, rfl⟩ | rfl <;> exact .refl _
  | begin asked =>
    rcases asks?_cases asked with ⟨_, rfl⟩ | ⟨_, rfl⟩ | rfl <;> exact alike_advance lasting ..
  | sent | next => exact alike_delivered lasting ..
  | last => exact (alike_advance lasting ..).trans (alike_delivered lasting ..)

end alike

theorem sameGates_advance (p : Pipeline) (queue : QueueId) (now : UInt64) (report : Report)
    (notices : List Notice) :
    (p.advance queue now report notices).state.markers.SameGates p.markers :=
  (alike_advance Marker.lasting_gate p queue now report notices).sameGates

/-- Apart from what an action itself does, a step leaves alone what decides about release. -/
theorem Effect.sameGates {p : Pipeline} {action : Action} {step : Step}
    (effect : Effect p action step) : step.state.markers.SameGates (p.adjusted action) :=
  (effect.alike Marker.lasting_gate).sameGates

/-- What an enduring reading finds in a record is kept, unless the record is revised. -/
theorem read_kept {α : Type} {read : Marker → α} (enduring : Marker.Enduring read) {p : Pipeline}
    (guarded : p.Guarded) {id : MarkerId} (registered : id < p.markers.count) {action : Action}
    (kept : ∀ change, action = .revise id change →
      ∀ record, read (record.apply change) = read record) :
    id < (p.step action).state.markers.count ∧
      read ((p.step action).state.markers.get id) = read (p.markers.get id) := by
  have alike := (step_effect guarded.unlocked action).alike enduring.toLasting
  rw [alike.count, alike.same]
  cases action with
  | register marker =>
    refine ⟨Nat.lt_succ_of_lt registered, ?_⟩
    rw [adjusted, Markers.get_add, if_neg (Nat.ne_of_lt registered)]
  | revise other change =>
    refine ⟨registered, ?_⟩
    by_cases same : id = other
    · subst same
      rw [adjusted, Markers.revise, Markers.get_set_self]
      exact kept change rfl _
    · rw [adjusted, Markers.revise, Markers.get_set_of_ne _ _ same]
  | complete => exact ⟨registered, Markers.read_set read (enduring.processed ..) id⟩
  | signal => exact ⟨registered, Markers.read_set read (enduring.released ..) id⟩
  | _ => exact ⟨registered, rfl⟩

end Pipeline

theorem Run.read_kept {α : Type} {read : Marker → α} (enduring : Marker.Enduring read)
    {start p : Pipeline} {history : List Turn} (run : Run start history p)
    (guarded : start.Guarded) {id : MarkerId} (registered : id < start.markers.count)
    (kept : ∀ turn ∈ history, ∀ change, turn.action = .revise id change →
      ∀ record, read (record.apply change) = read record) :
    id < p.markers.count ∧ read (p.markers.get id) = read (start.markers.get id) := by
  induction run with
  | start => exact ⟨registered, rfl⟩
  | @perform history q run action ih =>
    obtain ⟨still, same⟩ := ih fun turn member => kept turn (List.mem_append_left _ member)
    obtain ⟨after, last⟩ := Pipeline.read_kept enduring (run.keeps Guarded.step guarded) still
      (kept ⟨q, action⟩ (List.mem_append_right _ (List.mem_singleton_self _)))
    exact ⟨after, last.trans same⟩

/-- What is read from a record that was registered can be read as long as nobody revises it. -/
theorem Run.read_registered {α : Type} {read : Marker → α} (enduring : Marker.Enduring read)
    {p : Pipeline} {before later : List Turn} {taking : Turn} {record : Marker}
    (run : Run {} (before ++ taking :: later) p) (taken : taking.action = .register record)
    (kept : ∀ turn ∈ later, ∀ change, turn.action = .revise taking.state.markers.count change →
      ∀ record, read (record.apply change) = read record) :
    read (p.markers.get taking.state.markers.count) = read record := by
  obtain ⟨toTaking, fromTaking⟩ := run.cut rfl
  have registered : taking.step.state.markers = (taking.state.markers.add record).2 := by
    rw [Turn.step, taken]
    rfl
  have inside : taking.state.markers.count < taking.step.state.markers.count := by
    rw [registered]
    exact Nat.lt_succ_self _
  have same := (fromTaking.read_kept enduring (toTaking.guarded.step taking.action) inside kept).2
  rw [registered, Markers.get_add, if_pos rfl] at same
  exact same

/-- The record of a marker agrees with a history. -/
structure Recorded (history : List Turn) (id : MarkerId) (record : Marker) : Prop where
  timeout : record.timeout = topWord
  active : record.asyncCancelled = false
  processed : record.processed = completed history id
  balance : record.deferrals.outstanding.toInt =
    (deferred history id : Int) - signalled history id
  owed : signalled history id ≤ deferred history id

namespace Recorded

variable {history : List Turn} {turn : Turn} {id : MarkerId} {record next : Marker}

theorem congr (recorded : Recorded history id record) (gate : next.gate = record.gate) :
    Recorded history id next where
  timeout := (congrArg Marker.Gate.timeout gate).trans recorded.timeout
  active := (congrArg Marker.Gate.asyncCancelled gate).trans recorded.active
  processed := (congrArg Marker.Gate.processed gate).trans recorded.processed
  balance := by
    have same : next.deferrals = record.deferrals := congrArg Marker.Gate.deferrals gate
    rw [same]
    exact recorded.balance
  owed := recorded.owed

theorem quiet (recorded : Recorded history id record) (undeferred : turn.defers id = false)
    (unsignalled : turn.signals id = false) (incomplete : turn.completes id = false) :
    Recorded (history ++ [turn]) id record := by
  refine ⟨recorded.timeout, recorded.active, ?_, ?_, ?_⟩
  · rw [completed_snoc, incomplete, Bool.or_false]
    exact recorded.processed
  · rw [deferred_snoc, signalled_snoc, undeferred, unsignalled]
    exact recorded.balance
  · rw [deferred_snoc, signalled_snoc, undeferred, unsignalled]
    exact recorded.owed

theorem complete (recorded : Recorded history id record) {queue : QueueId} {ticket : Ticket}
    {now : UInt64} {p : Pipeline} (same : ticket.marker = id) :
    Recorded (history ++ [⟨p, .complete queue ticket now⟩]) id
      (record.apply (.processed true)) := by
  refine ⟨recorded.timeout, recorded.active, ?_, ?_, ?_⟩
  · simp [completed_snoc, Turn.completes, same, Marker.apply]
  · rw [deferred_snoc, signalled_snoc]
    exact recorded.balance
  · rw [deferred_snoc, signalled_snoc]
    exact recorded.owed

theorem signal (recorded : Recorded history id record) {queue : QueueId} {ticket : Ticket}
    {now : UInt64} {p : Pipeline} (same : ticket.marker = id)
    (owed : signalled history id < deferred history id) :
    Recorded (history ++ [⟨p, .signal queue ticket now⟩]) id (record.apply .release) := by
  have balance := recorded.balance
  -- A release is owed, so the counter is positive and does not wrap.
  have added : 0 < record.deferrals.outstanding.toInt := by omega
  have released := Deferrals.toInt_release added
  refine ⟨recorded.timeout, recorded.active, ?_, ?_, ?_⟩
  · rw [completed_snoc]
    exact recorded.processed.trans (by simp [Turn.completes])
  · simp only [deferred_snoc, signalled_snoc, Turn.defers, Turn.signals, same, decide_true,
      Marker.apply, if_true, Bool.false_eq_true, if_false]
    omega
  · simp only [deferred_snoc, signalled_snoc, Turn.defers, Turn.signals, same, decide_true,
      if_true, Bool.false_eq_true, if_false]
    omega

theorem defer (recorded : Recorded history id record) {p : Pipeline}
    (counted : Counted (history ++ [⟨p, .revise id .defer⟩])) :
    Recorded (history ++ [⟨p, .revise id .defer⟩]) id (record.apply .defer) := by
  have balance := recorded.balance
  have owed := recorded.owed
  have all := counted id
  simp only [deferred_snoc, Turn.defers, decide_true, if_true] at all
  -- This deferral is among those that can be counted, so the counter does not wrap.
  have room : record.deferrals.outstanding.toInt < 2147483647 := by omega
  have added := Deferrals.toInt_add room
  refine ⟨recorded.timeout, recorded.active, ?_, ?_, ?_⟩
  · rw [completed_snoc]
    exact recorded.processed.trans (by simp [Turn.completes])
  · simp only [deferred_snoc, signalled_snoc, Turn.defers, Turn.signals, decide_true,
      Marker.apply, if_true, Bool.false_eq_true, if_false]
    omega
  · simp only [deferred_snoc, signalled_snoc, Turn.defers, Turn.signals, decide_true,
      if_true, Bool.false_eq_true, if_false]
    omega

theorem isReady_eq (recorded : Recorded history id record) : record.isReady =
    (completed history id && signalled history id == deferred history id) := by
  have balance := recorded.balance
  have owed := recorded.owed
  have holding : record.deferrals.isHolding = !(signalled history id == deferred history id) := by
    rw [Bool.eq_iff_iff, Deferrals.isHolding_iff]
    simp
    omega
  rw [Marker.isReady, Marker.isFinished, recorded.active, Bool.or_false, recorded.processed,
    holding, Bool.not_not]

theorem unexpired (recorded : Recorded history id record) (now : UInt64) :
    record.isExpiredAt now = false := by
  have bound := now.toNat_lt
  rw [Marker.isExpiredAt, recorded.timeout, decide_eq_false_iff_not, UInt64.lt_iff_toNat_lt,
    toNat_topWord]
  omega

end Recorded

namespace Pipeline

/-- The records of all registered markers agree with a history. -/
structure Tracked (history : List Turn) (queue : QueueId) (p : Pipeline) : Prop where
  recorded : ∀ id < p.markers.count, Recorded history id (p.markers.get id)
  unused : ∀ id, p.markers.count ≤ id →
    completed history id = false ∧ deferred history id = 0 ∧ signalled history id = 0
  marked : ∀ entry ∈ placed history queue, ∃ id, entry.2.marker = some id ∧
    id < p.markers.count ∧ entry.2.cancelled = false
  issued : ∀ id, completed history id = true →
    ∃ entry ∈ placed history queue, entry.2.marker = some id
  ascending : (placed history queue).Pairwise fun a b => a.1.lt b.1 = true

variable {history : List Turn} {queue : QueueId} {p next : Pipeline}

theorem Tracked.congr (tracked : p.Tracked history queue)
    (same : next.markers.SameGates p.markers) : next.Tracked history queue where
  recorded id registered :=
    (tracked.recorded id (same.count ▸ registered)).congr (same.gate id)
  unused id unregistered := tracked.unused id (same.count ▸ unregistered)
  marked entry member := by
    rw [same.count]
    exact tracked.marked entry member
  issued := tracked.issued
  ascending := tracked.ascending

theorem Tracked.registered (tracked : p.Tracked history queue) {ticket : Ticket}
    (issued : Issued history queue ticket) : ticket.marker < p.markers.count := by
  obtain ⟨entry, member, _, marked⟩ := issued
  obtain ⟨id, same, registered, _⟩ := tracked.marked entry member
  rw [marked, Option.some.injEq] at same
  exact same ▸ registered

/-- A turn that neither stores an entry nor is about an unregistered marker. -/
theorem Tracked.extend (tracked : p.Tracked history queue) {turn : Turn}
    (nothing : turn.placed queue = []) (count : p.markers.count ≤ next.markers.count)
    (recorded : ∀ id < next.markers.count, Recorded (history ++ [turn]) id (next.markers.get id))
    (about : ∀ id, p.markers.count ≤ id →
      turn.defers id = false ∧ turn.signals id = false ∧ turn.completes id = false)
    (issued : ∀ id, turn.completes id = true →
      ∃ entry ∈ placed history queue, entry.2.marker = some id) :
    next.Tracked (history ++ [turn]) queue where
  recorded := recorded
  unused id unregistered := by
    have before := Nat.le_trans count unregistered
    obtain ⟨undeferred, unsignalled, incomplete⟩ := about id before
    obtain ⟨completed, deferred, signalled⟩ := tracked.unused id before
    rw [completed_snoc, deferred_snoc, signalled_snoc, undeferred, unsignalled, incomplete,
      completed, deferred, signalled]
    exact ⟨rfl, rfl, rfl⟩
  marked entry member := by
    rw [placed_snoc, nothing, List.append_nil] at member
    obtain ⟨id, marked, registered, uncancelled⟩ := tracked.marked entry member
    exact ⟨id, marked, Nat.lt_of_lt_of_le registered count, uncancelled⟩
  issued id completed := by
    rw [placed_snoc, nothing, List.append_nil]
    rw [completed_snoc, Bool.or_eq_true] at completed
    rcases completed with earlier | now
    · exact tracked.issued id earlier
    · exact issued id now
  ascending := by
    rw [placed_snoc, nothing, List.append_nil]
    exact tracked.ascending

theorem Tracked.revised (tracked : p.Tracked history queue) {turn : Turn} {id : MarkerId}
    {change : Marker.Change} (registered : id < p.markers.count)
    (nothing : turn.placed queue = [])
    (recorded : Recorded (history ++ [turn]) id ((p.markers.get id).apply change))
    (others : ∀ other, id ≠ other →
      turn.defers other = false ∧ turn.signals other = false ∧ turn.completes other = false)
    (issued : turn.completes id = true → ∃ entry ∈ placed history queue, entry.2.marker = some id) :
    Tracked (history ++ [turn]) queue { p with markers := p.markers.revise id change } := by
  refine tracked.extend nothing (Nat.le_refl _) (fun other inside => ?_) (fun other outside => ?_)
    fun other completes => ?_
  · rw [Markers.get_revise]
    split
    next same => exact same ▸ recorded
    next different =>
      obtain ⟨undeferred, unsignalled, incomplete⟩ := others other (Ne.symm different)
      exact (tracked.recorded other inside).quiet undeferred unsignalled incomplete
  · exact others other (Nat.ne_of_lt (Nat.lt_of_lt_of_le registered outside))
  · by_cases same : id = other
    · subst same
      exact issued completes
    · rw [(others other same).2.2] at completes
      cases completes

theorem Tracked.adjusted (tracked : p.Tracked history queue) {action : Action}
    (permitted : Permitted queue history p action) (counted : Counted (history ++ [⟨p, action⟩])) :
    Tracked (history ++ [⟨p, action⟩]) queue { p with markers := p.adjusted action } := by
  cases permitted with
  | @register marker unprocessed active lasting undeferred =>
    refine tracked.extend rfl (Nat.le_succ _) (fun id registered => ?_) (fun _ _ => ⟨rfl, rfl, rfl⟩)
      fun _ completes => absurd completes Bool.false_ne_true
    rw [Pipeline.adjusted, Markers.get_add]
    split
    next same =>
      -- No turn was about a marker before it was taken in.
      obtain ⟨completed, deferred, signalled⟩ := tracked.unused id (Nat.le_of_eq same.symm)
      have fresh : Recorded history id marker := by
        refine ⟨lasting, active, ?_, ?_, ?_⟩
        · rw [unprocessed, completed]
        · rw [undeferred, deferred, signalled]
          rfl
        · rw [signalled]
          exact Nat.zero_le _
      exact fresh.quiet rfl rfl rfl
    next different =>
      have before : id < p.markers.count :=
        Nat.lt_of_le_of_ne (Nat.le_of_lt_succ registered) different
      exact (tracked.recorded id before).quiet rfl rfl rfl
  | @defer id registered incomplete unsignalled =>
    exact tracked.revised registered rfl ((tracked.recorded id registered).defer counted)
      (fun other different => ⟨by simpa [Turn.defers] using different, rfl, rfl⟩)
      fun completes => absurd completes Bool.false_ne_true
  | @enqueue event id marked registered uncancelled fresh above =>
    have new : Turn.placed queue ⟨p, .enqueue queue event⟩ =
        [(⟨(p.markers.get id).newIndex, event.id⟩, event)] := by simp [Turn.placed, marked]
    constructor
    case recorded =>
      exact fun other inside => (tracked.recorded other inside).quiet rfl rfl rfl
    case unused =>
      intro other outside
      have before := tracked.unused other outside
      simpa [completed_snoc, deferred_snoc, signalled_snoc, Turn.completes, Turn.defers,
        Turn.signals] using before
    case marked =>
      intro entry member
      rw [placed_snoc, new] at member
      rcases List.mem_append.mp member with old | last
      · exact tracked.marked entry old
      · cases List.mem_singleton.mp last
        exact ⟨id, marked, registered, uncancelled⟩
    case issued =>
      intro other completed
      rw [completed_snoc] at completed
      have earlier : History.completed history other = true := by
        simpa [Turn.completes] using completed
      obtain ⟨entry, member, same⟩ := tracked.issued other earlier
      rw [placed_snoc]
      exact ⟨entry, List.mem_append_left _ member, same⟩
    case ascending =>
      rw [placed_snoc, new, List.pairwise_append]
      refine ⟨tracked.ascending, List.pairwise_singleton _ _, fun earlier member last there => ?_⟩
      cases List.mem_singleton.mp there
      exact above earlier member
  | @complete ticket now issued =>
    have registered := tracked.registered issued
    refine tracked.revised registered rfl ((tracked.recorded _ registered).complete rfl)
      (fun other different => ⟨rfl, rfl, by simpa [Turn.completes] using different⟩) fun _ => ?_
    obtain ⟨entry, member, _, marked⟩ := issued
    exact ⟨entry, member, marked⟩
  | @signal ticket now issued owed =>
    have registered := tracked.registered issued
    exact tracked.revised registered rfl ((tracked.recorded _ registered).signal rfl owed)
      (fun other different => ⟨rfl, by simpa [Turn.signals] using different, rfl⟩)
      fun completes => absurd completes Bool.false_ne_true
  | trySend | answer =>
    exact tracked.extend rfl (Nat.le_refl _)
      (fun id registered => (tracked.recorded id registered).quiet rfl rfl rfl)
      (fun _ _ => ⟨rfl, rfl, rfl⟩) fun _ completes => absurd completes Bool.false_ne_true

theorem Tracked.step (tracked : p.Tracked history queue) {action : Action}
    (permitted : Permitted queue history p action) (counted : Counted (history ++ [⟨p, action⟩]))
    (guarded : p.Guarded) :
    (p.step action).state.Tracked (history ++ [⟨p, action⟩]) queue := by
  have effect := step_effect guarded.unlocked action
  exact (tracked.adjusted permitted counted).congr effect.sameGates

end Pipeline

end PacketFlow
