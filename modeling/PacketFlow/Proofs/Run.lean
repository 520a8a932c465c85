import PacketFlow.Proofs.Step

/-! Runs of the pipeline, and the guard that every run keeps.

A run is a history of turns: an action together with the state it is performed in. Calls from
inside a stream are turns like all others, taken while a frame is open.
-/

set_option autoImplicit false

namespace PacketFlow

/-- One action and the state of the process when it is performed. -/
structure Turn where
  state : Pipeline
  action : Action

def Turn.step (turn : Turn) : Step := turn.state.step turn.action

/-- The actions of a history, performed in turn, lead from one state to another. -/
inductive Run (start : Pipeline) : List Turn → Pipeline → Prop where
  | start : Run start [] start
  | perform {history : List Turn} {p : Pipeline} (run : Run start history p) (action : Action) :
    Run start (history ++ [⟨p, action⟩]) (p.step action).state

namespace Run

variable {start p : Pipeline} {history : List Turn}

/-- What every action keeps holds after every run. -/
theorem keeps {Invariant : Pipeline → Prop}
    (step : ∀ {p : Pipeline} (action : Action), Invariant p → Invariant (p.step action).state)
    (run : Run start history p) (initial : Invariant start) : Invariant p := by
  induction run with
  | start => exact initial
  | perform _ action ih => exact step action ih

theorem eq_of_nil (run : Run start [] p) : p = start := by
  generalize none_left : ([] : List Turn) = history at run
  cases run with
  | start => rfl
  | perform => simp at none_left

/-- A run can be cut at each of its turns. -/
theorem cut (run : Run start history p) {before after : List Turn} {turn : Turn}
    (parts : history = before ++ turn :: after) :
    Run start before turn.state ∧ Run turn.step.state after p := by
  -- Turns come off the end, so either the cut is at the last turn or that turn is after it.
  induction run generalizing after with
  | start => simp at parts
  | @perform history p run action ih =>
    rcases List.eq_nil_or_concat after with rfl | ⟨rest, last, rfl⟩
    · obtain ⟨rfl, same⟩ := List.append_inj' parts rfl
      cases same
      exact ⟨run, .start⟩
    · rw [List.concat_eq_append, ← List.cons_append, ← List.append_assoc] at parts
      obtain ⟨earlier, same⟩ := List.append_inj' parts rfl
      cases same
      obtain ⟨head, tail⟩ := ih earlier
      rw [List.concat_eq_append]
      exact ⟨head, .perform tail action⟩

/-- A run can be continued by another one. -/
theorem append {middle : Pipeline} {later : List Turn} (first : Run start history middle)
    (rest : Run middle later p) : Run start (history ++ later) p := by
  induction rest with
  | start => simpa using first
  | perform _ action ih =>
    rw [← List.append_assoc]
    exact ih.perform action

/-- The first turn of a run is taken at its start. -/
theorem first {turn : Turn} {rest : List Turn} (run : Run start (turn :: rest) p) :
    turn.state = start ∧ Run turn.step.state rest p := by
  obtain ⟨here, later⟩ := run.cut (List.nil_append _).symm
  exact ⟨here.eq_of_nil, later⟩

end Run

namespace Pipeline

def turns (p : Pipeline) : List Action → List Turn
  | [] => []
  | action :: rest => ⟨p, action⟩ :: (p.step action).state.turns rest

def after (p : Pipeline) (actions : List Action) : Pipeline :=
  actions.foldl (fun p action => (p.step action).state) p

theorem turns_append (p : Pipeline) (first second : List Action) :
    p.turns (first ++ second) = p.turns first ++ (p.after first).turns second := by
  induction first generalizing p with
  | nil => rfl
  | cons action rest ih => exact congrArg (⟨p, action⟩ :: ·) (ih _)

theorem after_append (p : Pipeline) (first second : List Action) :
    p.after (first ++ second) = (p.after first).after second :=
  List.foldl_append

/-- The turns of a script perform its actions. -/
theorem map_action_turns (p : Pipeline) (actions : List Action) :
    (p.turns actions).map (·.action) = actions := by
  induction actions generalizing p with
  | nil => rfl
  | cons action rest ih => exact congrArg (action :: ·) (ih _)

/-- Turns of a script are counted by its actions when their states do not matter. -/
theorem countP_turns {test : Turn → Bool} (blind : ∀ turn, test turn = test ⟨{}, turn.action⟩)
    (p : Pipeline) (actions : List Action) :
    (p.turns actions).countP test = actions.countP fun action => test ⟨{}, action⟩ := by
  conv => rhs; rw [← map_action_turns p actions, List.countP_map]
  exact congrArg (List.countP · _) (funext blind)

theorem exists_turn_iff (p : Pipeline) (actions : List Action) (action : Action) :
    (∃ turn ∈ p.turns actions, turn.action = action) ↔ action ∈ actions := by
  rw [← List.mem_map, map_action_turns]

end Pipeline

theorem Run.append_turns {start p : Pipeline} {history : List Turn} (run : Run start history p)
    (actions : List Action) : Run start (history ++ p.turns actions) (p.after actions) := by
  induction actions generalizing history p with
  | nil => simpa [Pipeline.turns, Pipeline.after] using run
  | cons action rest ih =>
    have longer := ih (run.perform action)
    rw [List.append_assoc] at longer
    exact longer

theorem Run.ofActions (start : Pipeline) (actions : List Action) :
    Run start (start.turns actions) (start.after actions) :=
  Run.start.append_turns actions

/-- A chat packet of one player, for short scripts. -/
def Event.chat (id : EventId) (marker : MarkerId) : Event where
  id := id
  player := 7
  packet := { type := .clientChat }
  marker := some marker

def Frame.queue? : Frame → Option QueueId
  | .send _ => none
  | .drain queue .. => some queue

namespace Pipeline

/-- How many sends of a queue wait for a stream. -/
def sends (p : Pipeline) (queue : QueueId) : Nat := (p.frames.map Frame.queue?).count (some queue)

/-- Between two actions no queue is locked, the guard of a queue is taken exactly while one send
of it waits for a stream, and only such a send is asked for another look. -/
structure Guarded (p : Pipeline) : Prop where
  unlocked : ∀ queue, (p.queues queue).locked = false
  single : ∀ queue, p.sends queue = (p.queues queue).draining.toNat
  quiet : ∀ queue, (p.queues queue).draining = false → (p.queues queue).rerun = false

/-- The guard as it is when a send of a queue is about to look: the send has the guard and waits
for no stream. -/
structure Looking (p : Pipeline) (queue : QueueId) : Prop where
  unlocked : ∀ other, (p.queues other).locked = false
  draining : (p.queues queue).draining = true
  free : p.sends queue = 0
  single : ∀ other, other ≠ queue → p.sends other = (p.queues other).draining.toNat
  quiet : ∀ other, other ≠ queue → (p.queues other).draining = false →
    (p.queues other).rerun = false

theorem guarded_empty : Guarded {} where
  unlocked _ := rfl
  single _ := rfl
  quiet _ _ := rfl

theorem Guarded.congr {p next : Pipeline} (guarded : p.Guarded) (frames : next.frames = p.frames)
    (locked : ∀ queue, (next.queues queue).locked = (p.queues queue).locked)
    (draining : ∀ queue, (next.queues queue).draining = (p.queues queue).draining)
    (quiet : ∀ queue, (p.queues queue).draining = false → (next.queues queue).rerun = false) :
    next.Guarded where
  unlocked queue := (locked queue).trans (guarded.unlocked queue)
  single queue := by
    rw [draining, ← guarded.single, sends, sends, frames]
  quiet queue := by
    rw [draining]
    exact quiet queue

theorem Guarded.markers {p : Pipeline} (guarded : p.Guarded) (markers : Markers) :
    Guarded { p with markers := markers } :=
  guarded.congr rfl (fun _ => rfl) (fun _ => rfl) guarded.quiet

theorem Guarded.hold {p : Pipeline} (guarded : p.Guarded) (queue : QueueId) (backlog : Backlog)
    (markers : Markers) : (p.hold queue backlog markers).Guarded := by
  have flags (other : QueueId) := queues_hold p queue other backlog markers
  apply Guarded.congr guarded
  · rfl
  · intro other
    rw [flags]
    split <;> simp_all
  · intro other
    rw [flags]
    split <;> simp_all
  · intro other idle
    rw [flags]
    split
    next same => exact guarded.quiet queue (same ▸ idle)
    next => exact guarded.quiet other idle

theorem queues_mark (p : Pipeline) (queue other : QueueId) : (p.mark queue).queues other =
    if other = queue then { p.queues queue with rerun := true } else p.queues other := rfl

theorem Guarded.mark {p : Pipeline} (guarded : p.Guarded) {queue : QueueId}
    (busy : (p.queues queue).draining = true) : (p.mark queue).Guarded := by
  apply Guarded.congr guarded
  · rfl
  · intro other
    rw [queues_mark]
    split <;> simp_all
  · intro other
    rw [queues_mark]
    split <;> simp_all
  · intro other idle
    rw [queues_mark]
    split
    next same =>
      -- Only a queue whose send is under way is marked.
      rw [same, busy] at idle
      cases idle
    next => exact guarded.quiet other idle

theorem sends_push (p : Pipeline) (frame : Frame) (queue : QueueId) :
    (p.push frame).sends queue = p.sends queue + if frame.queue? = some queue then 1 else 0 := by
  simp [sends, push, List.count_cons]

theorem sends_popped {p : Pipeline} {frame : Frame} {outer : List Frame}
    (framed : p.frames = frame :: outer) (queue : QueueId) :
    p.sends queue = p.popped.sends queue + if frame.queue? = some queue then 1 else 0 := by
  simp [sends, popped, framed, List.count_cons]

theorem Guarded.push_send {p : Pipeline} (guarded : p.Guarded) (parcel : Parcel) :
    (p.push (.send parcel)).Guarded where
  unlocked := guarded.unlocked
  single queue := by
    rw [sends_push]
    exact guarded.single queue
  quiet := guarded.quiet

theorem Guarded.popped_send {p : Pipeline} (guarded : p.Guarded) {parcel : Parcel}
    {outer : List Frame} (framed : p.frames = .send parcel :: outer) : p.popped.Guarded where
  unlocked := guarded.unlocked
  single queue := by
    have same := sends_popped framed queue
    exact same.symm.trans (guarded.single queue)
  quiet := guarded.quiet

theorem queues_begin (p : Pipeline) (queue other : QueueId) : (p.begin queue).queues other =
    if other = queue then { p.queues queue with draining := true, rerun := false }
    else p.queues other := rfl

theorem queues_rest (p : Pipeline) (queue other : QueueId) : (p.rest queue).queues other =
    if other = queue then { p.queues queue with draining := false, rerun := false }
    else p.queues other := rfl

/-- A send that is started looks at its queue with the guard taken. -/
theorem Guarded.begin {p : Pipeline} (guarded : p.Guarded) {queue : QueueId}
    (idle : (p.queues queue).draining = false) : (p.begin queue).Looking queue where
  unlocked other := by
    rw [queues_begin]
    split
    next => exact guarded.unlocked queue
    next => exact guarded.unlocked other
  draining := by simp [queues_begin]
  free := (guarded.single queue).trans (by rw [idle]; rfl)
  single other different := by
    rw [queues_begin, if_neg different]
    exact guarded.single other
  quiet other different := by
    rw [queues_begin, if_neg different]
    exact guarded.quiet other

/-- A send whose last parcel was answered looks at its queue with the guard taken. -/
theorem Guarded.popped_drain {p : Pipeline} (guarded : p.Guarded) {queue : QueueId} {now : UInt64}
    {parcel : Parcel} {waiting : List Parcel} {report : Report} {outer : List Frame}
    (framed : p.frames = .drain queue now parcel waiting report :: outer) :
    p.popped.Looking queue := by
  have here : p.sends queue = p.popped.sends queue + 1 := by
    simpa [Frame.queue?] using sends_popped framed queue
  have taken := guarded.single queue
  -- The closed frame was a send of the queue, so the guard was taken and no other send waits.
  have draining : (p.queues queue).draining = true := by
    cases flag : (p.queues queue).draining with
    | true => rfl
    | false => rw [here, flag] at taken; cases taken
  rw [here, draining] at taken
  refine ⟨guarded.unlocked, draining, Nat.succ.inj taken, fun other different => ?_,
    fun other _ => guarded.quiet other⟩
  have there : p.sends other = p.popped.sends other := by
    simpa [Frame.queue?, Ne.symm different] using sends_popped framed other
  exact there.symm.trans (guarded.single other)

theorem Looking.congr {p next : Pipeline} {queue : QueueId} (looking : p.Looking queue)
    (frames : next.frames = p.frames)
    (locked : ∀ other, (next.queues other).locked = (p.queues other).locked)
    (draining : ∀ other, (next.queues other).draining = (p.queues other).draining)
    (rerun : ∀ other, (next.queues other).rerun = (p.queues other).rerun) :
    next.Looking queue where
  unlocked other := (locked other).trans (looking.unlocked other)
  draining := (draining queue).trans looking.draining
  free := by
    rw [← looking.free, sends, sends, frames]
  single other different := by
    rw [draining, ← looking.single other different, sends, sends, frames]
  quiet other different := by
    rw [draining, rerun]
    exact looking.quiet other different

theorem Looking.delivered {p : Pipeline} {queue : QueueId} (looking : p.Looking queue)
    (parcel : Parcel) (outcome : Outcome) : (p.delivered parcel outcome).Looking queue := by
  cases outcome
  all_goals exact looking.congr rfl (fun _ => rfl) (fun _ => rfl) (fun _ => rfl)

theorem Looking.looked {p : Pipeline} {queue : QueueId} (looking : p.Looking queue)
    (now : UInt64) : (p.looked queue now).Looking queue := by
  apply looking.congr
  · rfl
  all_goals
    intro other
    simp only [Pipeline.looked, queues_hold]
    split
    next same => rw [same]
    next => rfl

theorem Looking.transmit {p : Pipeline} {queue : QueueId} (looking : p.Looking queue)
    (now : UInt64) (parcel : Parcel) (waiting : List Parcel) (report : Report)
    (notices : List Notice) :
    (p.transmit queue now parcel waiting report notices).state.Guarded where
  unlocked := looking.unlocked
  single other := by
    simp only [Pipeline.transmit, sends_push, Frame.queue?, Option.some.injEq]
    by_cases same : queue = other
    · subst same
      simp [looking.free, looking.draining, push]
    · rw [if_neg same]
      exact looking.single other (Ne.symm same)
  quiet other idle := by
    by_cases same : other = queue
    · rw [same] at idle
      exact absurd (looking.draining.symm.trans idle) (by simp)
    · exact looking.quiet other same idle

theorem Looking.rest {p : Pipeline} {queue : QueueId} (looking : p.Looking queue) :
    (p.rest queue).Guarded where
  unlocked other := by
    rw [queues_rest]
    split
    next => exact looking.unlocked queue
    next => exact looking.unlocked other
  single other := by
    rw [queues_rest]
    split
    next same => exact same ▸ looking.free
    next different => exact looking.single other different
  quiet other := by
    rw [queues_rest]
    split
    next => exact fun _ => rfl
    next different => exact looking.quiet other different

theorem Looking.advance {p : Pipeline} {queue : QueueId} (looking : p.Looking queue)
    (now : UInt64) (report : Report) (notices : List Notice) :
    (p.advance queue now report notices).state.Guarded := by
  have after := looking.looked now
  cases batch : (p.released queue now).batch with
  | nil =>
    rw [advance_of_nil batch]
    exact after.rest
  | cons parcel waiting =>
    rw [advance_of_cons batch]
    exact after.transmit ..

theorem Guarded.prepared {p : Pipeline} (guarded : p.Guarded) (action : Action) :
    (p.prepared action).Guarded := by
  cases action with
  | complete | signal => exact guarded.markers _
  | _ => exact guarded

theorem Guarded.step {p : Pipeline} (action : Action) (guarded : p.Guarded) :
    (p.step action).state.Guarded := by
  have effect := step_effect guarded.unlocked action
  generalize p.step action = step at effect ⊢
  cases effect with
  | register | revise => exact guarded.markers _
  | send => exact guarded.push_send _
  | enqueue | move | evict | remove => exact guarded.hold ..
  | refuse | stay | miss | count | idle => exact guarded
  | withhold => exact guarded.prepared action
  | wait asked busy =>
    apply (guarded.prepared action).mark
    rw [queues_prepared]
    exact busy
  | begin asked idle =>
    apply Looking.advance
    apply (guarded.prepared action).begin
    rw [queues_prepared]
    exact idle
  | sent outcome framed => cases outcome <;> exact (guarded.popped_send framed).markers _
  | next outcome framed => exact ((guarded.popped_drain framed).delivered ..).transmit ..
  | last outcome framed => exact ((guarded.popped_drain framed).delivered ..).advance ..

end Pipeline

theorem Run.guarded {history : List Turn} {p : Pipeline} (run : Run {} history p) : p.Guarded :=
  run.keeps Pipeline.Guarded.step Pipeline.guarded_empty

end PacketFlow
