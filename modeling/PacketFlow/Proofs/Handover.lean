import PacketFlow.Proofs.Reentry
import PacketFlow.Proofs.Settlement

/-! What becomes of a send that is asked for while another one is under way.

It leaves a mark for the send under way and nothing else, not even its time. So the send under way
goes on by the time at which it began: it rejects what was overdue then. A packet whose deadline
lies between the two times is not rejected, as it would have been by the second send on its own.
-/

set_option autoImplicit false

namespace PacketFlow

def Markers.deadline? (markers : Markers) (event : Event) : Option UInt64 :=
  event.marker.map fun id => (markers.get id).timeout

/-- Some markers still give an event the deadline before a time that it had while a queue held it
in an earlier state. -/
def Pipeline.Lapses (p : Pipeline) (queue : QueueId) (time : UInt64) (markers : Markers)
    (event : Event) : Prop :=
  ∃ deadline ∈ markers.deadline? event, deadline < time ∧
    ∃ entry ∈ p.entries queue, entry.2.id = event.id ∧
      p.markers.deadline? entry.2 = some deadline

instance (p : Pipeline) (queue : QueueId) (time : UInt64) (markers : Markers) (event : Event) :
    Decidable (p.Lapses queue time markers event) :=
  inferInstanceAs (Decidable (∃ deadline ∈ markers.deadline? event, deadline < time ∧
    ∃ entry ∈ p.entries queue, entry.2.id = event.id ∧
      p.markers.deadline? entry.2 = some deadline))

/-- A send of a queue that has waited for a stream reports to its caller. -/
def Turn.Returns (queue : QueueId) (turn : Turn) : Prop :=
  (∃ outcome, turn.action = .answer outcome) ∧ turn.reports queue ≠ []

/-- In later turns, no packet that was held in a state with a deadline before a time is taken out
to be handed to a stream, or stands first when a send returns, unless its deadline was moved. -/
structure Rejects (p : Pipeline) (queue : QueueId) (time : UInt64) (later : List Turn) : Prop where
  taken : ∀ turn ∈ later, ∀ taking ∈ turn.takings queue,
    ¬p.Lapses queue time taking.markers taking.parcel.event
  first : ∀ turn ∈ later, turn.Returns queue → ∀ head,
    (turn.step.state.entries queue).head? = some head →
      ¬p.Lapses queue time turn.step.state.markers head.2

theorem Pipeline.Lapses.mono {p : Pipeline} {queue : QueueId} {early late : UInt64}
    {markers : Markers} {event : Event} (earlier : early ≤ late)
    (lapses : p.Lapses queue early markers event) : p.Lapses queue late markers event := by
  obtain ⟨deadline, now, before, held⟩ := lapses
  exact ⟨deadline, now, UInt64.lt_of_lt_of_le before earlier, held⟩

theorem Rejects.mono {p : Pipeline} {queue : QueueId} {early late : UInt64} {later : List Turn}
    (earlier : early ≤ late) (rejects : Rejects p queue late later) :
    Rejects p queue early later where
  taken turn member taking taken lapses := rejects.taken turn member taking taken
    (lapses.mono earlier)
  first turn member returns head stands lapses := rejects.first turn member returns head stands
    (lapses.mono earlier)

/-- What has a deadline at a time or after it does not lapse before that time. -/
theorem Pipeline.not_lapses {p : Pipeline} {queue : QueueId} {time : UInt64} {markers : Markers}
    {event : Event} {id : MarkerId} (marked : event.marker = some id)
    (timely : time ≤ (markers.get id).timeout) : ¬p.Lapses queue time markers event := by
  rintro ⟨deadline, now, before, _⟩
  rw [Markers.deadline?, marked, Option.map_some, Option.mem_some_iff] at now
  rw [now] at timely
  exact absurd before (UInt64.not_lt.mpr timely)

open Pipeline

/-- A send returns in a look that is taken when its last packet has been answered. -/
theorem Turn.look_of_returns {turn : Turn} (guarded : turn.state.Guarded) {queue : QueueId}
    (returns : turn.Returns queue) : ∃ look, turn.look? = some look ∧ look.queue = queue := by
  obtain ⟨p, action⟩ := turn
  obtain ⟨⟨outcome, rfl⟩, reports⟩ := returns
  have effect := step_effect guarded.unlocked (.answer outcome)
  simp only [Turn.reports, step] at *
  generalize p.step (.answer outcome) = step at effect reports
  cases effect with
  | withhold progress => rcases progress with same | same <;> cases same
  | wait asked | begin asked => cases asked
  | idle _ closed => simp [subject?, closed] at reports
  | sent _ framed => simp [subject?, framed, Frame.queue?] at reports
  | next _ framed => simp [transmit, Reply.report?] at reports
  | @last other now parcel report outer _ framed =>
    refine ⟨_, look?_of_last outcome framed, ?_⟩
    by_cases own : other = queue
    · exact own
    · simp [subject?, framed, Frame.queue?, own] at reports

/-- The times of the sends that a queue has begun, when no later turn begins one. -/
theorem filterMap_begins_append {queue : QueueId} {before later : List Turn}
    (same : ∀ turn ∈ later, turn.begins? queue = none) :
    (before ++ later).filterMap (Turn.begins? queue) =
      before.filterMap (Turn.begins? queue) := by
  rw [List.filterMap_append, List.filterMap_eq_nil_iff.mpr same, List.append_nil]

/-- A look that is taken before another send begins is taken by the send under way. -/
theorem Run.look_now {before later : List Turn} {turn : Turn}
    (run : Run {} (before ++ later) turn.state) {middle : Pipeline} (first : Run {} before middle)
    {queue : QueueId} {now : UInt64} (running : (queue, now) ∈ middle.under)
    (same : ∀ other ∈ later ++ [turn], other.begins? queue = none) {look : Look}
    (looks : turn.look? = some look) (own : look.queue = queue) : look.now = now := by
  have began := run.look_began rfl looks
  rw [own, List.append_assoc, filterMap_begins_append same, first.under_began running] at began
  exact (Option.some.inj began).symm

/-- What is called after some point of a run waited there, or was taken out since. -/
theorem Run.orders_since {before later : List Turn} {middle p : Pipeline}
    (first : Run {} before middle) (run : Run {} (before ++ later) p) (queue : QueueId) :
    later.flatMap (Turn.calls queue) ++ p.waiting queue =
      middle.waiting queue ++ (later.flatMap (Turn.takings queue)).map Taking.sending := by
  have whole := run.orders queue
  rw [List.flatMap_append, List.flatMap_append, List.map_append, ← first.orders queue,
    List.append_assoc, List.append_assoc] at whole
  exact List.append_cancel_left whole

/-- What is asked of a queue while a send of it is under way, and what comes of it later. -/
structure HandsOver (nested : Turn) (later : List Turn) (p : Pipeline) (queue : QueueId)
    (now asked : UInt64) : Prop where
  /-- Only a mark is left. -/
  marks : nested.step =
    { reply := .reported {}, state := (nested.state.prepared nested.action).mark queue }
  /-- What is handed over later waited outside the queue already, or is taken out later. -/
  calls : later.flatMap (Turn.calls queue) ++ p.waiting queue =
    nested.state.waiting queue ++ (later.flatMap (Turn.takings queue)).map Taking.sending
  /-- The send under way goes by its own time. -/
  own : ∀ turn ∈ later, ∀ taking ∈ turn.takings queue, taking.now = now
  rejects : Rejects nested.state queue now later
  /-- The packets that were overdue for the send that was asked for are rejected when it was asked
  for at the time of the one under way, or at an earlier one. -/
  prompt : asked ≤ now → Rejects nested.state queue asked later

/-- A send that is asked for while another one is under way is left to that one. -/
theorem hands_over {before later : List Turn} {nested : Turn} {p : Pipeline}
    (run : Run {} (before ++ nested :: later) p) {queue : QueueId} {now asked : UInt64}
    (running : (queue, now) ∈ nested.state.under)
    (asks : nested.state.asks? nested.action = some (queue, asked))
    (same : ∀ turn ∈ later, turn.begins? queue = none) :
    HandsOver nested later p queue now asked := by
  obtain ⟨first, rest⟩ := run.cut rfl
  have guarded := first.guarded
  have busy : (nested.state.queues queue).draining = true :=
    (guarded.draining_iff queue).mpr (sends_pos running)
  have unbegun : nested.begins? queue = none := by simp [Turn.begins?, asks, busy]
  have silent : ∀ turn ∈ nested :: later, turn.begins? queue = none := by
    simpa [unbegun] using same
  have marks : nested.step =
      { reply := .reported {}, state := (nested.state.prepared nested.action).mark queue } := by
    rw [Turn.step, step_of_asks asks]
    exact trySend_busy (by rw [queues_prepared]; exact busy) asked
  -- Every later look is taken by the send under way, so at its time.
  have now_eq : ∀ turn ∈ later, ∀ look, turn.look? = some look → look.queue = queue →
      look.now = now := by
    intro turn member look looks own
    obtain ⟨between, after, rfl⟩ := List.append_of_mem member
    have parts : before ++ nested :: (between ++ turn :: after) =
        (before ++ nested :: between) ++ turn :: after := by simp
    refine (run.cut parts).1.look_now first running (fun other inside => silent other ?_) looks own
    rw [List.cons_append, List.mem_cons, List.mem_append, List.mem_singleton] at inside
    rw [List.mem_cons, List.mem_append, List.mem_cons]
    rcases inside with here | earlier | last
    · exact .inl here
    · exact .inr (.inl earlier)
    · exact .inr (.inr (.inl last))
  have guardedLater : ∀ turn ∈ later, turn.state.Guarded := fun turn member =>
    run.guarded_of_mem (List.mem_append_right _ (List.mem_cons_of_mem _ member))
  have rejects : Rejects nested.state queue now later := by
    constructor
    · intro turn member taking taken
      obtain ⟨look, looks, rfl, inside⟩ := Turn.mem_takings taken
      obtain ⟨_, moment⟩ := Release.moment_of_mem_takings inside
      have due := moment.due (look.state.ascending look.queue)
      have timely := due.timely
      rw [moment.now_eq, now_eq turn member look looks rfl] at timely
      exact not_lapses due.own timely
    · intro turn member returns head stands
      obtain ⟨look, looks, rfl⟩ := Turn.look_of_returns (guardedLater turn member) returns
      obtain ⟨report, notices, step⟩ := (Turn.look_taken (guardedLater turn member) looks).step
      rw [step] at stands ⊢
      obtain ⟨id, marked, timely⟩ := timely_of_advance stands
      rw [now_eq turn member look looks rfl] at timely ⊢
      exact not_lapses marked timely
  refine ⟨marks, ?_, ?_, rejects, fun earlier => rejects.mono earlier⟩
  · have upto : Run {} (before ++ [nested]) nested.step.state := first.perform nested.action
    have waits : nested.step.state.waiting queue = nested.state.waiting queue := by simp [marks]
    rw [← waits]
    exact upto.orders_since (by simpa using run) queue
  · intro turn member taking taken
    obtain ⟨look, looks, own, inside⟩ := Turn.mem_takings taken
    obtain ⟨_, moment⟩ := Release.moment_of_mem_takings inside
    rw [moment.now_eq]
    exact now_eq turn member look looks own

/-- A send begins at 100. While its packet is at the stream, another packet with a deadline is put
into the queue, ready to leave. -/
def meanwhile (deadline : UInt64) : List Action :=
  [.register (.fresh 0 1 0 (.ofMillis 1000)), .register (.fresh 0 2 0 (.ofMillis deadline)),
    .enqueue 0 (.chat 0 0), .revise 0 (.processed true), .trySend 0 100, .enqueue 0 (.chat 1 1),
    .revise 1 (.processed true)]

def asking (deadline time : UInt64) : Turn := ⟨after {} (meanwhile deadline), .trySend 0 time⟩

def streamReturns (deadline time : UInt64) : List Turn :=
  (asking deadline time).step.state.turns [.answer (.ok ()), .answer (.ok ())]

theorem run_asking (deadline time : UInt64) :
    Run {} (turns {} (meanwhile deadline) ++ asking deadline time :: streamReturns deadline time)
      ((asking deadline time).step.state.after [.answer (.ok ()), .answer (.ok ())]) := by
  have asked := (Run.ofActions {} (meanwhile deadline)).perform (.trySend 0 time)
  simpa [asking, streamReturns, Turn.step] using
    asked.append_turns [.answer (.ok ()), .answer (.ok ())]

theorem hands_over_promptly :
    let last := (asking 80 90).step.state.after [.answer (.ok ()), .answer (.ok ())]
    Run {} (turns {} (meanwhile 80) ++ asking 80 90 :: streamReturns 80 90) last ∧
      (0, 100) ∈ (asking 80 90).state.under ∧
      (asking 80 90).state.asks? (asking 80 90).action = some (0, 90) ∧
      (∀ turn ∈ streamReturns 80 90, turn.begins? 0 = none) ∧
      HandsOver (asking 80 90) (streamReturns 80 90) last 0 100 90 ∧
      ((streamReturns 80 90).flatMap (Turn.reports 0)).map (·.expired.map (·.id)) = [[1]] :=
  ⟨run_asking 80 90, by decide, by decide, by decide,
    hands_over (run_asking 80 90) (by decide) rfl (by decide), by decide⟩

/-- A send that is asked for later than the one under way began does not have its overdue packets
rejected: one of them is handed to its stream. -/
theorem not_rejects_asked_late : (0, 100) ∈ (asking 150 200).state.under ∧
    (asking 150 200).state.asks? (asking 150 200).action = some (0, 200) ∧
    (∀ turn ∈ streamReturns 150 200, turn.begins? 0 = none) ∧
    ((streamReturns 150 200).flatMap (Turn.calls 0)).map (fun sending => sending.2.event.id) = [1] ∧
    ¬Rejects (asking 150 200).state 0 200 (streamReturns 150 200) := by
  refine ⟨by decide, by decide, by decide, by decide, fun rejects => ?_⟩
  have lapsed : ∃ turn ∈ streamReturns 150 200, ∃ taking ∈ turn.takings 0,
      (asking 150 200).state.Lapses 0 200 taking.markers taking.parcel.event := by decide
  obtain ⟨turn, member, taking, taken, lapses⟩ := lapsed
  exact rejects.taken turn member taking taken lapses

end PacketFlow
