import PacketFlow.Proofs.Delivery
import PacketFlow.Proofs.Settlement

/-! A send that has returned has nothing left to do.

Streams may change the head of a queue in any way while they have a packet, also while they have the
last one. The send looks once more when that packet is answered, and it returns only from a look
that takes nothing to transmit. What stands first then has to wait, so that another send at that
time, or at an earlier one, does nothing at all.
-/

set_option autoImplicit false

namespace PacketFlow

namespace Pipeline

theorem draining_hold (p : Pipeline) (queue other : QueueId) (backlog : Backlog)
    (markers : Markers) :
    ((p.hold queue backlog markers).queues other).draining = (p.queues other).draining := by
  rw [queues_hold]
  split
  next same => rw [same]
  next => rfl

end Pipeline

open Pipeline

/-- A send gives back its guard only in a look. -/
theorem Turn.look_of_freed {turn : Turn} (guarded : turn.state.Guarded) {queue : QueueId}
    (under : (turn.state.queues queue).draining = true)
    (freed : (turn.step.state.queues queue).draining = false) :
    ∃ look, turn.look? = some look ∧ look.queue = queue := by
  obtain ⟨p, action⟩ := turn
  have effect := step_effect guarded.unlocked action
  simp only [step] at *
  generalize p.step action = step at effect freed
  -- Every other effect leaves the guard of the queue as it was.
  cases effect with
  | register | revise | send | refuse | stay | miss | count | idle =>
    cases under.symm.trans freed
  | enqueue | move | evict | remove =>
    rw [draining_hold] at freed
    cases under.symm.trans freed
  | withhold =>
    rw [queues_prepared] at freed
    cases under.symm.trans freed
  | @wait action other now asked busy =>
    rw [queues_mark, queues_prepared] at freed
    split at freed
    next same =>
      rw [same] at under
      cases under.symm.trans freed
    next => cases under.symm.trans freed
  | @begin action other now asked idle =>
    -- A queue whose send is under way begins no other one.
    have different : queue ≠ other := by
      rintro rfl
      cases under.symm.trans idle
    rw [queues_advance_of_ne _ different, queues_begin, if_neg different, queues_prepared] at freed
    cases under.symm.trans freed
  | sent =>
    rw [queues_delivered] at freed
    cases under.symm.trans freed
  | next =>
    rw [transmit, push, queues_delivered] at freed
    cases under.symm.trans freed
  | @last other now parcel report outer outcome framed =>
    by_cases same : other = queue
    · exact ⟨_, look?_of_last outcome framed, same⟩
    · rw [queues_advance_of_ne _ (Ne.symm same), queues_delivered] at freed
      cases under.symm.trans freed

theorem Turn.look_of_begins {turn : Turn} {queue : QueueId} {now : UInt64}
    (begins : turn.begins? queue = some now) :
    ∃ look, turn.look? = some look ∧ look.queue = queue := by
  obtain ⟨asked, idle⟩ := asks_of_begins begins
  exact ⟨_, look?_of_begin asked idle, rfl⟩

theorem Turn.begins?_of_draining {turn : Turn} {queue : QueueId}
    (under : (turn.state.queues queue).draining = true) : turn.begins? queue = none := by
  unfold begins?
  split
  next => simp [under]
  next => rfl

theorem Run.last {start p : Pipeline} {history : List Turn} {turn : Turn}
    (run : Run start (history ++ [turn]) p) :
    Run start history turn.state ∧ p = turn.step.state := by
  obtain ⟨first, rest⟩ := run.cut rfl
  exact ⟨first, rest.eq_of_nil⟩

/-- The look of a send that goes on transmitting keeps the guard. -/
theorem Pipeline.Looking.reports_of_freed {p : Pipeline} {queue : QueueId}
    (looking : p.Looking queue) {now : UInt64} {report : Report} {notices : List Notice}
    (freed : ((p.advance queue now report notices).state.queues queue).draining = false) :
    ∃ final, (p.advance queue now report notices).reply = .reported final := by
  cases batch : (p.released queue now).batch with
  | nil => exact ⟨_, by rw [advance_of_nil batch]⟩
  | cons parcel waiting =>
    rw [advance_of_cons batch] at freed
    cases ((looking.looked now).draining.symm.trans freed)

/-- The last turn of a send is a look at the time at which the send began. -/
theorem Run.look_of_returned {before later : List Turn} {call : Turn} {p : Pipeline}
    (run : Run {} (before ++ call :: later) p) {queue : QueueId} {now : UInt64}
    (begins : call.begins? queue = some now)
    (under : ∀ turn ∈ later, (turn.state.queues queue).draining = true)
    (freed : (p.queues queue).draining = false) :
    ∃ turn look, (call :: later).getLast? = some turn ∧ turn.state.Guarded ∧
      p = turn.step.state ∧ turn.look? = some look ∧ look.queue = queue ∧ look.now = now := by
  -- The last turn is the one that begins the send, or one with the send under way.
  obtain ⟨earlier, turn, parts, looks⟩ : ∃ earlier turn, call :: later = earlier ++ [turn] ∧
      (turn.state.Guarded → p = turn.step.state →
        ∃ look, turn.look? = some look ∧ look.queue = queue) := by
    rcases List.eq_nil_or_concat later with rfl | ⟨rest, last, rfl⟩
    · exact ⟨[], call, rfl, fun _ _ => Turn.look_of_begins begins⟩
    · refine ⟨call :: rest, last, by simp, fun guarded ends => ?_⟩
      exact Turn.look_of_freed guarded (under last (by simp)) (ends ▸ freed)
  have whole := run
  rw [parts, ← List.append_assoc] at whole
  obtain ⟨first, ends⟩ := whole.last
  obtain ⟨look, looked, rfl⟩ := looks first.guarded ends
  refine ⟨turn, look, by simp [parts], first.guarded, ends, looked, rfl, ?_⟩
  have began := first.look_began rfl looked
  rw [List.append_assoc, ← parts, List.filterMap_append, List.filterMap_cons, begins,
    List.filterMap_eq_nil_iff.mpr fun turn member => Turn.begins?_of_draining (under turn member)]
    at began
  simpa using began.symm

/-- What a send leaves when it returns. -/
structure Returned (call : Turn) (later : List Turn) (p : Pipeline) (queue : QueueId)
    (now : UInt64) : Prop where
  reports : ∃ turn report, (call :: later).getLast? = some turn ∧
    turn.step.reply = .reported report
  settled : p.Settled queue now
  /-- A send that follows at that time, or at an earlier one, does nothing. -/
  again : ∀ time ≤ now, p.step (.trySend queue time) = { reply := .reported {}, state := p }

/-- A send that was begun and is no longer under way has left nothing that may leave the queue,
whatever was done while it was under way. -/
theorem returned_settled {before later : List Turn} {call : Turn} {p : Pipeline}
    (run : Run {} (before ++ call :: later) p) {queue : QueueId} {now : UInt64}
    (begins : call.begins? queue = some now)
    (under : ∀ turn ∈ later, (turn.state.queues queue).draining = true)
    (freed : (p.queues queue).draining = false) : Returned call later p queue now := by
  obtain ⟨turn, look, last, guarded, ends, looks, rfl, rfl⟩ :=
    run.look_of_returned begins under freed
  have taken := Turn.look_taken guarded looks
  obtain ⟨report, notices, step⟩ := taken.step
  rw [ends, step] at freed
  have settled : p.Settled look.queue look.now := by
    rw [ends, step]
    exact settled_of_advance _ _ _ _ _
  constructor
  case reports =>
    obtain ⟨final, reported⟩ := taken.looking.reports_of_freed freed
    exact ⟨turn, final, last, by rw [step, reported]⟩
  case settled => exact settled
  case again =>
    intro time before
    rw [← step, ← ends] at freed
    exact step_of_settled run.guarded (settled.earlier before) freed

/-- A packet that is ready is sent. While it is at the stream a second one is made ready and asked
to be sent, and a third one is completed that owes a deferral. The second stream call fails. -/
def readyPacket : List Action :=
  [.register (.fresh 0 1 0 (.ofMillis 500)), .register (.fresh 0 2 0 (.ofMillis 500)),
    .register (.fresh 0 3 0 (.ofMillis 500)), .enqueue 0 (.chat 0 0), .revise 0 (.processed true)]

def sendsReady : Turn := ⟨after {} readyPacket, .trySend 0 100⟩

def whileSending : List Turn :=
  sendsReady.step.state.turns [.enqueue 0 (.chat 1 1), .complete 0 ⟨1, 1⟩ 200,
    .enqueue 0 (.chat 2 2), .revise 2 .defer, .complete 0 ⟨2, 2⟩ 90, .answer (.ok ()),
    .answer (.error (.access "closed"))]

theorem returned_settled_whileSending : ∃ last,
    Run {} (turns {} readyPacket ++ sendsReady :: whileSending) last ∧
      sendsReady.begins? 0 = some 100 ∧
      (∀ turn ∈ whileSending, (turn.state.queues 0).draining = true) ∧
      (last.queues 0).draining = false ∧ Returned sendsReady whileSending last 0 100 ∧
      (last.entries 0).map (·.2.id) = [2] := by
  have run := ((Run.ofActions {} readyPacket).perform (.trySend 0 100)).append_turns
    [.enqueue 0 (.chat 1 1), .complete 0 ⟨1, 1⟩ 200, .enqueue 0 (.chat 2 2), .revise 2 .defer,
      .complete 0 ⟨2, 2⟩ 90, .answer (.ok ()), .answer (.error (.access "closed"))]
  rw [List.append_assoc] at run
  exact ⟨_, run, by decide, by decide, by decide,
    returned_settled run (by decide) (by decide) (by decide), by decide⟩

end PacketFlow
