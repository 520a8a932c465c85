import Mathlib.Data.List.Forall2
import PacketFlow.Proofs.Refusals

/-! What streams answer does not matter to the order of things.

Whether a stream accepts a packet is written down in the marker of the packet and in the report, and
nothing reads it there. So two runs of the same operations take the same turns, whatever the streams
answer. Erasing the answers from a process commutes with its steps, and the two runs are compared
through their common erasure.
-/

set_option autoImplicit false

namespace PacketFlow

def Marker.regardless (marker : Marker) : Marker := { marker with transmitted := false }

def Markers.regardless (markers : Markers) : Markers :=
  { markers with get := fun id => (markers.get id).regardless }

/-- A report that does not say of a packet that was transmitted whether the stream accepted it. -/
def Report.regardless (report : Report) : Report :=
  { report with sent := report.sent + report.failed.length, failed := [] }

def Frame.regardless : Frame → Frame
  | .send parcel => .send parcel
  | .drain queue now parcel rest report => .drain queue now parcel rest report.regardless

def Pipeline.regardless (p : Pipeline) : Pipeline :=
  { p with markers := p.markers.regardless, frames := p.frames.map Frame.regardless }

def Action.regardless : Action → Action
  | .answer _ => .answer (.ok ())
  | action => action

def Reply.regardless : Reply → Reply
  | .sent _ => .sent (.ok ())
  | .reported report => .reported report.regardless
  | reply => reply

def Step.regardless (step : Step) : Step where
  reply := step.reply.regardless
  state := step.state.regardless

namespace Markers

theorem regardless_set (markers : Markers) (id : MarkerId) (marker : Marker) :
    (markers.set id marker).regardless = markers.regardless.set id marker.regardless := by
  unfold regardless set
  congr
  funext other
  dsimp only
  split <;> rfl

theorem regardless_revise (markers : Markers) (id : MarkerId) (change : Marker.Change) :
    (markers.revise id change).regardless = markers.regardless.revise id change := by
  have apply : ((markers.get id).apply change).regardless =
      (markers.regardless.get id).apply change := by
    cases change <;> rfl
  rw [revise, regardless_set, apply]
  rfl

theorem regardless_setQueued (markers : Markers) (id : MarkerId) (index : Option UInt64) :
    (markers.setQueued id index).regardless = markers.regardless.setQueued id index :=
  regardless_revise ..

theorem regardless_setTransmitted (markers : Markers) (id : MarkerId) :
    (markers.setTransmitted id).regardless = markers.regardless := by
  unfold regardless setTransmitted set
  congr
  funext other
  dsimp only
  split
  next same => rw [same]; rfl
  next => rfl

theorem regardless_clearQueued (markers : Markers) (event : Event) :
    (markers.clearQueued event).regardless = markers.regardless.clearQueued event := by
  unfold clearQueued
  split
  next => rfl
  next => exact regardless_setQueued ..

theorem regardless_foldl_clearQueued (events : List Event) (markers : Markers) :
    (events.foldl clearQueued markers).regardless =
      events.foldl clearQueued markers.regardless := by
  induction events generalizing markers with
  | nil => rfl
  | cons event rest ih => rw [List.foldl_cons, ih, regardless_clearQueued, List.foldl_cons]

theorem regardless_add (markers : Markers) (marker : Marker) :
    (markers.add marker).2.regardless = (markers.regardless.add marker).2.regardless := by
  unfold regardless add set
  congr
  funext other
  dsimp only
  split <;> rfl

end Markers

namespace Release

/-- A release takes the same heads. -/
theorem heads_regardless (now : UInt64) (entries : List Entry) (markers : Markers) :
    heads now entries markers.regardless =
      { heads now entries markers with
        markers := (heads now entries markers).markers.regardless } := by
  induction entries generalizing markers with
  | nil => rfl
  | cons entry rest ih =>
    have same : fate now markers.regardless entry.2 = fate now markers entry.2 := rfl
    rw [heads_cons, heads_cons, ← Markers.regardless_clearQueued, ih, same]
    cases fated : fate now markers entry.2 <;> rfl

end Release

namespace Pipeline

variable (p : Pipeline) (queue : QueueId) (now : UInt64)

theorem released_regardless : p.regardless.released queue now =
    { p.released queue now with markers := (p.released queue now).markers.regardless } :=
  Release.heads_regardless ..

theorem regardless_looked :
    (p.looked queue now).regardless = p.regardless.looked queue now := by
  have left : (p.regardless.released queue now).left = (p.released queue now).left := by
    rw [released_regardless]
  have backlog : ((p.regardless.queues queue).release p.regardless.markers now).1.backlog =
      ((p.queues queue).release p.markers now).1.backlog :=
    Backlog.ext left
  rw [looked, looked, backlog, released_regardless]
  rfl

theorem regardless_revise (id : MarkerId) (change : Marker.Change) :
    (p.revise id change).regardless = p.regardless.revise id change := by
  simp only [revise, regardless, Markers.regardless_revise]

theorem regardless_prepared (action : Action) :
    (p.prepared action).regardless = p.regardless.prepared action.regardless := by
  cases action <;> first | rfl | exact regardless_revise ..

theorem asks?_regardless (action : Action) :
    p.regardless.asks? action.regardless = p.asks? action := by
  have prepared := p.regardless_prepared action
  cases action with
  | complete | signal =>
    simp only [asks?]
    rw [← prepared]
    rfl
  | _ => rfl

theorem regardless_delivered (parcel : Parcel) (outcome : Outcome) :
    (p.delivered parcel outcome).regardless = p.regardless := by
  cases outcome with
  | error => rfl
  | ok => simp only [delivered, deliver, regardless, Markers.regardless_setTransmitted]

theorem recorded_regardless (parcel : Parcel) (outcome : Outcome) (report : Report) :
    (p.recorded parcel outcome report).regardless =
      p.regardless.recorded parcel (.ok ()) report.regardless := by
  cases outcome with
  | ok => simp [recorded, deliver, Report.record, Report.regardless]; omega
  | error => simp [recorded, deliver, Report.record, Report.regardless]; omega

theorem regardless_hold (backlog : Backlog) (markers : Markers) :
    (p.hold queue backlog markers).regardless =
      p.regardless.hold queue backlog markers.regardless := rfl

@[simp] theorem regardless_regardless : p.regardless.regardless = p.regardless := by
  have frames : (p.frames.map Frame.regardless).map Frame.regardless =
      p.frames.map Frame.regardless := by
    rw [List.map_map]
    apply List.map_congr_left
    intro frame _
    cases frame <;> rfl
  simp only [regardless, frames]
  rfl

theorem regardless_push (frame : Frame) :
    (p.push frame).regardless = p.regardless.push frame.regardless := rfl

theorem regardless_rest : (p.rest queue).regardless = p.regardless.rest queue := rfl

theorem regardless_mark : (p.mark queue).regardless = p.regardless.mark queue := rfl

theorem regardless_popped : p.popped.regardless = p.regardless.popped := by
  simp only [popped, regardless, List.map_tail]

theorem regardless_markers (markers : Markers) :
    regardless { p with markers := markers } =
      { p.regardless with markers := markers.regardless } := rfl

theorem transmit_regardless (parcel : Parcel) (rest : List Parcel) (report : Report)
    (notices others : List Notice) :
    (p.transmit queue now parcel rest report notices).regardless =
      (p.regardless.transmit queue now parcel rest report.regardless others).regardless := by
  simp only [transmit, Step.regardless, regardless_push, regardless_regardless]
  rfl

/-- A send goes on in the same way. -/
theorem advance_regardless (report : Report) (notices others : List Notice) :
    (p.advance queue now report notices).regardless =
      (p.regardless.advance queue now report.regardless others).regardless := by
  have released := p.released_regardless queue now
  have absorbed : (report.absorb (p.released queue now)).regardless =
      report.regardless.absorb (p.regardless.released queue now) := by
    rw [released]
    rfl
  have batch : (p.regardless.released queue now).batch = (p.released queue now).batch := by
    rw [released]
  cases parcels : (p.released queue now).batch with
  | nil =>
    rw [advance_of_nil parcels, advance_of_nil (batch.trans parcels), ← regardless_looked,
      ← absorbed]
    simp only [Step.regardless, regardless_rest, regardless_regardless]
    rfl
  | cons parcel waiting =>
    rw [advance_of_cons parcels, advance_of_cons (batch.trans parcels), ← regardless_looked,
      ← absorbed]
    exact transmit_regardless ..

theorem answered_same (parcel : Parcel) (outcome : Outcome) :
    (p.popped.delivered parcel outcome).regardless =
      (p.regardless.popped.delivered parcel (.ok ())).regardless := by
  simp only [regardless_delivered, regardless_popped, regardless_regardless]

theorem recorded_same (parcel : Parcel) (outcome : Outcome) (report : Report) :
    (p.popped.recorded parcel outcome report).regardless =
      (p.regardless.popped.recorded parcel (.ok ()) report.regardless).regardless := by
  rw [recorded_regardless, recorded_regardless]
  rfl

section congr

variable {p q : Pipeline} (same : p.regardless = q.regardless) {queue : QueueId} {now : UInt64}
  {report other : Report} (reports : report.regardless = other.regardless)
  {notices others : List Notice}

include same reports

theorem transmit_congr {parcel : Parcel} {rest : List Parcel} :
    (p.transmit queue now parcel rest report notices).regardless =
      (q.transmit queue now parcel rest other others).regardless := by
  rw [transmit_regardless _ _ _ _ _ _ _ [], transmit_regardless q _ _ _ _ _ _ [], same, reports]

theorem advance_congr : (p.advance queue now report notices).regardless =
    (q.advance queue now other others).regardless := by
  rw [advance_regardless _ _ _ _ _ [], advance_regardless q _ _ _ _ [], same, reports]

end congr

/-- What an action comes to does not hang on what streams have answered before, nor on what they
answer now. -/
theorem step_regardless {p : Pipeline} (unlocked : ∀ queue, (p.queues queue).locked = false)
    (action : Action) :
    (p.step action).regardless = (p.regardless.step action.regardless).regardless := by
  have effect := step_effect unlocked action
  have free (queue : QueueId) : (p.regardless.queues queue).locked = false := unlocked queue
  generalize p.step action = step at effect
  -- What decides between the effects is seen by the erased process as well, and what an action
  -- writes commutes with erasure.
  cases effect with
  | register marker =>
    simp only [Step.regardless, Action.regardless, step, regardless_markers,
      Markers.regardless_add p.markers, regardless_regardless]
    rfl
  | revise marker change =>
    have same := p.regardless_revise marker change
    simp only [Step.regardless, Action.regardless, step, ← same, regardless_regardless]
  | send marker event =>
    simp only [Step.regardless, Action.regardless, step, regardless_push, regardless_regardless]
    rfl
  | refuse queue unmarked =>
    simp only [Action.regardless, step_enqueue_of_unmarked unmarked, Step.regardless,
      regardless_regardless]
  | @enqueue queue event marker marked =>
    simp only [Action.regardless, step_enqueue (free queue) marked, Step.regardless,
      regardless_hold, Markers.regardless_setQueued, regardless_regardless]
    rfl
  | @move queue ticket old event moves =>
    have moves' : p.regardless.Moves queue ticket old event := moves
    simp only [Action.regardless, step_reposition (free queue) moves', Step.regardless,
      regardless_hold, Markers.regardless_setQueued, regardless_regardless]
    rfl
  | @stay queue ticket stays =>
    have stays' : ∀ old event, ¬p.regardless.Moves queue ticket old event := stays
    simp only [Action.regardless, step_reposition_of_not_moves (free queue) stays',
      Step.regardless, regardless_regardless]
  | @withhold action queue ticket now progress withheld =>
    have withheld' := (p.asks?_regardless action).trans withheld
    have same : action.regardless = action := by rcases progress with rfl | rfl <;> rfl
    rw [same] at withheld' ⊢
    rw [step_of_withheld progress withheld']
    simp only [Step.regardless, regardless_prepared, same, regardless_regardless]
  | @wait action queue now asked busy =>
    have asked' := (p.asks?_regardless action).trans asked
    have busy' : ((p.regardless.prepared action.regardless).queues queue).draining = true := by
      rw [queues_prepared]
      exact busy
    rw [step_of_asks asked', trySend_busy busy', ← regardless_prepared]
    simp only [Step.regardless, regardless_mark, regardless_regardless]
  | @begin action queue now asked idle =>
    have asked' := (p.asks?_regardless action).trans asked
    have idle' : ((p.regardless.prepared action.regardless).queues queue).draining = false := by
      rw [queues_prepared]
      exact idle
    have free' : ((p.regardless.prepared action.regardless).queues queue).locked = false := by
      rw [queues_prepared]
      exact free queue
    rw [step_of_asks asked', trySend_idle free' idle', ← regardless_prepared]
    exact advance_regardless ..
  | evict queue now =>
    simp only [Action.regardless, step_evict (free queue), Step.regardless, regardless_hold,
      Markers.regardless_foldl_clearQueued, regardless_regardless]
    rfl
  | @remove queue ticket event member =>
    have member' : (p.regardless.removalKey ticket, event) ∈ p.regardless.entries queue := member
    simp only [Action.regardless, step_remove (free queue) member', Step.regardless,
      regardless_hold, Markers.regardless_setQueued, regardless_regardless]
    rfl
  | @miss queue ticket absent =>
    have absent' : ∀ event, (p.regardless.removalKey ticket, event) ∉ p.regardless.entries queue :=
      absent
    simp only [Action.regardless, step_remove_of_absent (free queue) absent', Step.regardless,
      regardless_regardless]
  | count queue =>
    simp only [Action.regardless, step_count (free queue), Step.regardless, regardless_regardless]
    rfl
  | idle outcome closed =>
    have closed' : p.regardless.frames = [] := by rw [regardless, closed]; rfl
    simp only [Action.regardless, step, closed', Step.regardless, regardless_regardless]
  | @sent parcel outer outcome framed =>
    have framed' : p.regardless.frames = .send parcel :: outer.map Frame.regardless := by
      rw [regardless, framed]
      rfl
    simp only [Action.regardless, step_answer_send (.ok ()) framed', Step.regardless,
      regardless_delivered, regardless_popped, regardless_regardless]
    rfl
  | @next queue now parcel next rest report outer outcome framed =>
    have framed' : p.regardless.frames =
        .drain queue now parcel (next :: rest) report.regardless :: outer.map Frame.regardless := by
      rw [regardless, framed]
      rfl
    rw [Action.regardless, step_answer_next (.ok ()) framed']
    exact transmit_congr (answered_same ..) (recorded_same ..)
  | @last queue now parcel report outer outcome framed =>
    have framed' : p.regardless.frames =
        .drain queue now parcel [] report.regardless :: outer.map Frame.regardless := by
      rw [regardless, framed]
      rfl
    rw [Action.regardless, step_answer_last (.ok ()) framed' (free queue)]
    exact advance_congr (answered_same ..) (recorded_same ..)

theorem step_congr {p q : Pipeline} (guarded : p.Guarded) (guarded' : q.Guarded)
    (same : p.regardless = q.regardless) {action other : Action}
    (actions : action.regardless = other.regardless) :
    (p.step action).regardless = (q.step other).regardless := by
  rw [step_regardless guarded.unlocked, same, actions, ← step_regardless guarded'.unlocked]

end Pipeline

def Action.isAnswer : Action → Bool
  | .answer _ => true
  | _ => false

theorem Action.regardless_of_isAnswer {action : Action} (answers : action.isAnswer = true) :
    action.regardless = .answer (.ok ()) := by
  cases action with
  | answer => rfl
  | _ => cases answers

@[simp] theorem Action.isAnswer_regardless (action : Action) :
    action.regardless.isAnswer = action.isAnswer := by
  cases action <;> rfl

/-- While a stream has a packet nothing is done until it answers, and only then is it answered. -/
def Turn.Calm (turn : Turn) : Prop := turn.action.isAnswer = !turn.state.frames.isEmpty

instance (turn : Turn) : Decidable turn.Calm :=
  inferInstanceAs (Decidable (turn.action.isAnswer = !turn.state.frames.isEmpty))

/-- What is done in a history apart from the answers of streams. -/
def operations (history : List Turn) : List Action :=
  (history.map (·.action)).filter (!·.isAnswer)

theorem operations_cons (turn : Turn) (rest : List Turn) :
    operations (turn :: rest) =
      if turn.action.isAnswer then operations rest else turn.action :: operations rest := by
  cases answers : turn.action.isAnswer <;> simp [operations, answers]

theorem operations_turns (p : Pipeline) (actions : List Action) :
    operations (p.turns actions) = actions.filter (!·.isAnswer) := by
  rw [operations, Pipeline.map_action_turns]

/-- Two turns are the same but for what streams answer: the same is done with the same entries and
the same records, the same call is made and the same reply is given, in which an event counts as
transmitted whether it is sent or failed. -/
structure Turn.Agrees (one two : Turn) : Prop where
  action : one.action.regardless = two.action.regardless
  entries : ∀ queue, one.state.entries queue = two.state.entries queue
  records : ∀ id, (one.state.markers.get id).regardless = (two.state.markers.get id).regardless
  calls : ∀ queue, one.calls queue = two.calls queue
  reply : one.step.reply.regardless = two.step.reply.regardless

theorem Step.calls_regardless (step : Step) (queue : QueueId) :
    step.regardless.calls queue = step.calls queue := by
  obtain ⟨reply, ⟨markers, queues, frames⟩, notices⟩ := step
  cases reply with
  | calling =>
    cases frames with
    | nil => rfl
    | cons frame outer => cases frame <;> rfl
  | _ => rfl

namespace Pipeline

section observed

variable {p q : Pipeline} (same : p.regardless = q.regardless)

include same

theorem entries_of_regardless (queue : QueueId) : p.entries queue = q.entries queue := by
  have seen := congrArg (·.entries queue) same
  exact seen

theorem record_of_regardless (id : MarkerId) :
    (p.markers.get id).regardless = (q.markers.get id).regardless := by
  have seen := congrArg (·.markers.get id) same
  exact seen

theorem isEmpty_of_regardless : p.frames.isEmpty = q.frames.isEmpty := by
  have seen := congrArg (·.frames.isEmpty) same
  simpa [regardless] using seen

end observed

end Pipeline

theorem Turn.agrees {one two : Turn} (guarded : one.state.Guarded) (guarded' : two.state.Guarded)
    (same : one.state.regardless = two.state.regardless)
    (actions : one.action.regardless = two.action.regardless) : one.Agrees two := by
  have steps : one.step.regardless = two.step.regardless :=
    Pipeline.step_congr guarded guarded' same actions
  constructor
  case action => exact actions
  case entries => exact Pipeline.entries_of_regardless same
  case records => exact Pipeline.record_of_regardless same
  case calls =>
    intro queue
    rw [calls, ← Step.calls_regardless, steps, Step.calls_regardless, calls]
  case reply => exact congrArg Step.reply steps

/-- A calm run that does nothing from a process with no open call has no turn. -/
theorem Run.eq_nil_of_calm {start p : Pipeline} {history : List Turn}
    (run : Run start history p) (calm : ∀ turn ∈ history, turn.Calm)
    (closed : start.frames.isEmpty = true) (nothing : operations history = []) : history = [] := by
  cases history with
  | nil => rfl
  | cons turn rest =>
    have here : turn.action.isAnswer = _ := calm turn List.mem_cons_self
    rw [run.first.1, closed] at here
    rw [operations_cons, here] at nothing
    cases nothing

/-- Two runs of the same operations go in step. -/
theorem Run.lockstep {start start' p q : Pipeline} {first second : List Turn}
    (one : Run start first p) (two : Run start' second q) (guarded : start.Guarded)
    (guarded' : start'.Guarded) (same : start.regardless = start'.regardless)
    (calm : ∀ turn ∈ first, turn.Calm) (calm' : ∀ turn ∈ second, turn.Calm)
    (alike : operations first = operations second) (ended : p.frames = [])
    (ended' : q.frames = []) :
    List.Forall₂ Turn.Agrees first second ∧ p.regardless = q.regardless := by
  have open_alike := Pipeline.isEmpty_of_regardless same
  induction first generalizing start start' second with
  | nil =>
    have closed : start'.frames.isEmpty = true := by
      rw [← open_alike, ← one.eq_of_nil, ended]
      rfl
    obtain rfl := two.eq_nil_of_calm calm' closed alike.symm
    rw [one.eq_of_nil, two.eq_of_nil]
    exact ⟨.nil, same⟩
  | cons turn rest ih =>
    cases second with
    | nil =>
      have closed : start.frames.isEmpty = true := by
        rw [open_alike, ← two.eq_of_nil, ended']
        rfl
      cases one.eq_nil_of_calm calm closed alike
    | cons other others =>
      obtain ⟨rfl, later⟩ := one.first
      obtain ⟨rfl, later'⟩ := two.first
      have here : turn.action.isAnswer = _ := calm turn List.mem_cons_self
      have there : other.action.isAnswer = _ := calm' other List.mem_cons_self
      have answers : turn.action.isAnswer = other.action.isAnswer := by
        rw [here, there, open_alike]
      -- Both streams answer, or both runs go on with the next operation.
      have actions : turn.action.regardless = other.action.regardless ∧
          operations rest = operations others := by
        rw [operations_cons, operations_cons, ← answers] at alike
        cases answered : turn.action.isAnswer with
        | true =>
          rw [answered] at answers alike
          exact ⟨by rw [Action.regardless_of_isAnswer answered,
            Action.regardless_of_isAnswer answers.symm], alike⟩
        | false =>
          rw [answered] at alike
          obtain ⟨same_action, others_alike⟩ := List.cons.inj alike
          exact ⟨congrArg Action.regardless same_action, others_alike⟩
      have steps : turn.step.regardless = other.step.regardless :=
        Pipeline.step_congr guarded guarded' same actions.1
      have states : turn.step.state.regardless = other.step.state.regardless :=
        congrArg Step.state steps
      obtain ⟨turns, last⟩ := ih later later' (guarded.step turn.action)
        (guarded'.step other.action) states
        (fun turn member => calm turn (List.mem_cons_of_mem _ member))
        (fun turn member => calm' turn (List.mem_cons_of_mem _ member)) actions.2
        (Pipeline.isEmpty_of_regardless states)
      exact ⟨.cons (Turn.agrees guarded guarded' same actions.1) turns, last⟩

/-- A run can be taken again with other answers: they are asked for where the first ones were. -/
theorem Run.replays {start start' p : Pipeline} {history : List Turn}
    (run : Run start history p) (guarded : start.Guarded) (guarded' : start'.Guarded)
    (same : start.regardless = start'.regardless) (calm : ∀ turn ∈ history, turn.Calm)
    {actions : List Action}
    (alike : actions.map Action.regardless = history.map (·.action.regardless)) :
    (∀ turn ∈ start'.turns actions, turn.Calm) ∧
      p.regardless = (start'.after actions).regardless := by
  induction history generalizing start start' actions with
  | nil =>
    obtain rfl := List.map_eq_nil_iff.mp alike
    rw [run.eq_of_nil]
    exact ⟨fun _ member => absurd member List.not_mem_nil, same⟩
  | cons turn rest ih =>
    obtain ⟨action, others, rfl, here, later⟩ := List.map_eq_cons_iff.mp alike
    obtain ⟨rfl, ahead⟩ := run.first
    have steps := Pipeline.step_congr guarded guarded' same here.symm
    obtain ⟨calm_later, last⟩ := ih ahead (guarded.step turn.action) (guarded'.step action)
      (congrArg Step.state steps) (fun turn member => calm turn (List.mem_cons_of_mem _ member))
      later
    refine ⟨fun turn' member => ?_, last⟩
    rcases List.mem_cons.mp member with first | further
    · have asked : turn.action.isAnswer = _ := calm turn List.mem_cons_self
      have answers : action.isAnswer = turn.action.isAnswer := by
        rw [← Action.isAnswer_regardless, here, Action.isAnswer_regardless]
      rw [first, Turn.Calm, answers, asked, Pipeline.isEmpty_of_regardless same]
    · exact calm_later turn' further

/-- The failures that a complete run reports of a queue are those of its calls. -/
structure Accounted (history : List Turn) (queue : QueueId) : Prop where
  /-- Every call is answered, in the order of the calls. -/
  answered : history.flatMap (Turn.answered queue) = history.flatMap (Turn.calls queue)
  /-- Exactly the events whose calls are answered with an error are reported as failed, each with
  that error. -/
  failed : history.flatMap (Turn.failed queue) = history.flatMap (Turn.refused queue)

theorem Run.accounted {history : List Turn} {p : Pipeline} (run : Run {} history p)
    (ended : p.frames = []) (queue : QueueId) : Accounted history queue where
  answered := by
    rw [run.balance, Pipeline.atStream, ended]
    exact (List.append_nil _).symm
  failed := by
    rw [← run.refuses, Pipeline.failed, ended]
    exact (List.append_nil _).symm

/-- Two runs that differ only in what streams answer. -/
structure Indifferent (first second : List Turn) (p q : Pipeline) : Prop where
  turns : List.Forall₂ Turn.Agrees first second
  entries : ∀ queue, p.entries queue = q.entries queue
  records : ∀ id, (p.markers.get id).regardless = (q.markers.get id).regardless
  accounted : ∀ queue, Accounted first queue ∧ Accounted second queue
  /-- With any other answers the run is complete as well. -/
  replays : ∀ actions : List Action,
    actions.map Action.regardless = first.map (·.action.regardless) →
      (∀ turn ∈ Pipeline.turns {} actions, turn.Calm) ∧ (Pipeline.after {} actions).frames = []

open Pipeline

/-- Whatever streams answer, runs of the same operations take the same turns, and each reports the
failures of its own calls. -/
theorem indifferent {first second : List Turn} {p q : Pipeline} (one : Run {} first p)
    (two : Run {} second q) (calm : ∀ turn ∈ first, turn.Calm) (calm' : ∀ turn ∈ second, turn.Calm)
    (alike : operations first = operations second) (ended : p.frames = [])
    (ended' : q.frames = []) :
    Indifferent first second p q := by
  obtain ⟨turns, last⟩ := Run.lockstep one two Pipeline.guarded_empty Pipeline.guarded_empty rfl
    calm calm' alike ended ended'
  constructor
  case turns => exact turns
  case entries => exact Pipeline.entries_of_regardless last
  case records => exact Pipeline.record_of_regardless last
  case accounted =>
    intro queue
    exact ⟨one.accounted ended queue, two.accounted ended' queue⟩
  case replays =>
    intro actions alike
    obtain ⟨calm_again, last⟩ := one.replays guarded_empty guarded_empty rfl calm alike
    have closed := isEmpty_of_regardless last
    rw [ended] at closed
    exact ⟨calm_again, List.isEmpty_iff.mp closed.symm⟩

/-- Two packets are sent together, one is evicted later, and the first one is asked for in vain. -/
def twoSent (first second : Outcome) : List Action :=
  [.register (.fresh 0 1 0 (.ofMillis 500)), .register (.fresh 0 2 0 (.ofMillis 500)),
    .register (.fresh 0 3 0 (.ofMillis 150)), .enqueue 0 (.chat 0 0), .enqueue 0 (.chat 1 1),
    .enqueue 0 (.chat 2 2), .complete 0 ⟨1, 1⟩ 90, .complete 0 ⟨0, 0⟩ 100, .answer first,
    .answer second, .evict 0 200, .remove 0 ⟨0, 0⟩]

/-- In one run the second call fails, in the other one the first. -/
theorem indifferent_twoSent :
    let one := twoSent (.ok ()) (.error (.access "closed"))
    let two := twoSent (.error (.invocation "reset")) (.ok ())
    Run {} (turns {} one) (after {} one) ∧ Run {} (turns {} two) (after {} two) ∧
      (∀ turn ∈ turns {} one, turn.Calm) ∧ (∀ turn ∈ turns {} two, turn.Calm) ∧
      operations (turns {} one) = operations (turns {} two) ∧
      (after {} one).frames = [] ∧ (after {} two).frames = [] ∧
      Indifferent (turns {} one) (turns {} two) (after {} one) (after {} two) ∧
      (turns {} one).flatMap (Turn.failed 0) = [(.chat 1 1, .transmission (.access "closed"))] ∧
      (turns {} two).flatMap (Turn.failed 0) =
        [(.chat 0 0, .transmission (.invocation "reset"))] := by
  intro one two
  have run := Run.ofActions {} one
  have run' := Run.ofActions {} two
  have calm : ∀ turn ∈ turns {} one, turn.Calm := by decide
  have calm' : ∀ turn ∈ turns {} two, turn.Calm := by decide
  have alike : operations (turns {} one) = operations (turns {} two) := by
    rw [operations_turns, operations_turns]
    rfl
  exact ⟨run, run', calm, calm', alike, rfl, rfl, indifferent run run' calm calm' alike rfl rfl,
    by decide, by decide⟩

end PacketFlow
