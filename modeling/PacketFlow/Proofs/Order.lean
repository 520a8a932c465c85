import PacketFlow.Proofs.Custody
import PacketFlow.Proofs.Takings

/-! Packets leave a queue in order.

A send takes out a batch and hands it to streams one packet after the other, and whatever happens
meanwhile, nothing else is taken out of the queue before the batch is through. So the calls of a
queue come in the order in which packets were taken out, and a packet that is overtaken came into
the queue, or was moved forward, after the other one had left.
-/

set_option autoImplicit false

namespace PacketFlow

/-- The look of a send at its queue: the process as it is then, and the time of the send. -/
structure Look where
  state : Pipeline
  queue : QueueId
  now : UInt64

def Look.takings (queue : QueueId) (look : Look) : List Taking :=
  if look.queue = queue then
    Release.takings look.now (look.state.entries queue) look.state.markers
  else []

/-- The calls of a queue that a step makes, each with the time of its send. -/
def Step.calls (queue : QueueId) (step : Step) : List (UInt64 × Parcel) :=
  match step.reply, step.state.frames with
  | .calling _, .drain other now parcel _ _ :: _ => if other = queue then [(now, parcel)] else []
  | _, _ => []

/-- What a frame of a queue has still to transmit after the packet at the stream. -/
def Frame.waiting (queue : QueueId) : Frame → List (UInt64 × Parcel)
  | .send _ => []
  | .drain other now _ rest _ => if other = queue then rest.map (now, ·) else []

def Pipeline.waiting (p : Pipeline) (queue : QueueId) : List (UInt64 × Parcel) :=
  p.frames.flatMap (Frame.waiting queue)

/-- The queue and the time of the send that waits in a frame. -/
def Frame.send? : Frame → Option (QueueId × UInt64)
  | .send _ => none
  | .drain queue now .. => some (queue, now)

def Pipeline.under (p : Pipeline) : List (QueueId × UInt64) := p.frames.filterMap Frame.send?

namespace Turn

/-- The look that is taken in a turn: a send looks when it begins, and when its last packet has been
answered. -/
def look? (turn : Turn) : Option Look :=
  match turn.action, turn.state.frames with
  | .answer outcome, .drain queue now parcel [] _ :: _ =>
    some ⟨turn.state.popped.delivered parcel outcome, queue, now⟩
  | action, _ =>
    match turn.state.asks? action with
    | some (queue, now) =>
      if (turn.state.queues queue).draining then none
      else some ⟨(turn.state.prepared action).begin queue, queue, now⟩
    | none => none

def takings (queue : QueueId) (turn : Turn) : List Taking :=
  turn.look?.toList.flatMap (Look.takings queue)

def calls (queue : QueueId) (turn : Turn) : List (UInt64 × Parcel) := turn.step.calls queue

def begins? (queue : QueueId) (turn : Turn) : Option UInt64 :=
  match turn.state.asks? turn.action with
  | some (other, now) =>
    if other = queue ∧ (turn.state.queues queue).draining = false then some now else none
  | none => none

end Turn

namespace Pipeline

theorem waiting_congr {p next : Pipeline} (frames : next.frames = p.frames) (queue : QueueId) :
    next.waiting queue = p.waiting queue := by
  rw [waiting, waiting, frames]

@[simp] theorem waiting_prepared (p : Pipeline) (action : Action) (queue : QueueId) :
    (p.prepared action).waiting queue = p.waiting queue :=
  waiting_congr (frames_prepared ..) queue

@[simp] theorem waiting_begin (p : Pipeline) (queue other : QueueId) :
    (p.begin queue).waiting other = p.waiting other := rfl

@[simp] theorem waiting_mark (p : Pipeline) (queue other : QueueId) :
    (p.mark queue).waiting other = p.waiting other := rfl

@[simp] theorem waiting_hold (p : Pipeline) (queue other : QueueId) (backlog : Backlog)
    (markers : Markers) : (p.hold queue backlog markers).waiting other = p.waiting other := rfl

@[simp] theorem waiting_markers (p : Pipeline) (markers : Markers) (queue : QueueId) :
    waiting { p with markers := markers } queue = p.waiting queue := rfl

@[simp] theorem waiting_revise (p : Pipeline) (marker : MarkerId) (change : Marker.Change)
    (queue : QueueId) : (p.revise marker change).waiting queue = p.waiting queue := rfl

@[simp] theorem waiting_delivered (p : Pipeline) (parcel : Parcel) (outcome : Outcome)
    (queue : QueueId) : (p.delivered parcel outcome).waiting queue = p.waiting queue :=
  waiting_congr (by cases outcome <;> rfl) queue

theorem waiting_popped {p : Pipeline} {frame : Frame} {outer : List Frame}
    (framed : p.frames = frame :: outer) (queue : QueueId) :
    p.waiting queue = frame.waiting queue ++ p.popped.waiting queue := by
  simp [waiting, popped, framed]

/-- A reading that sees nothing in direct sends and in sends of other queues finds nothing when no
send of the queue waits for a stream. -/
theorem flatMap_of_free {p : Pipeline} {queue : QueueId} (free : p.sends queue = 0) {α : Type}
    {part : Frame → List α} (direct : ∀ parcel, part (.send parcel) = [])
    (foreign : ∀ other now parcel rest report, other ≠ queue →
      part (.drain other now parcel rest report) = []) :
    p.frames.flatMap part = [] := by
  rw [sends, List.count_eq_zero] at free
  apply List.flatMap_eq_nil_iff.mpr
  intro frame member
  cases frame with
  | send parcel => exact direct parcel
  | drain other =>
    apply foreign
    rintro rfl
    exact free (List.mem_map_of_mem member)

theorem waiting_of_free {p : Pipeline} {queue : QueueId} (free : p.sends queue = 0) :
    p.waiting queue = [] :=
  flatMap_of_free free (fun _ => rfl) fun _ _ _ _ _ different => if_neg different

theorem inFlight_of_free {p : Pipeline} {queue : QueueId} (free : p.sends queue = 0) :
    p.inFlight queue = [] :=
  flatMap_of_free free (fun _ => rfl) fun _ _ _ _ _ different => if_neg different

theorem calls_transmit (p : Pipeline) (queue other : QueueId) (now : UInt64) (parcel : Parcel)
    (rest : List Parcel) (report : Report) (notices : List Notice) :
    (p.transmit queue now parcel rest report notices).calls other =
      if queue = other then [(now, parcel)] else [] := rfl

theorem waiting_transmit (p : Pipeline) (queue other : QueueId) (now : UInt64) (parcel : Parcel)
    (rest : List Parcel) (report : Report) (notices : List Notice) :
    (p.transmit queue now parcel rest report notices).state.waiting other =
      (if queue = other then rest.map (now, ·) else []) ++ p.waiting other := rfl

/-- What a look takes out is called or waits for its call. -/
theorem advance_orders {p : Pipeline} {queue : QueueId} (looking : p.Looking queue)
    (now : UInt64) (report : Report) (notices : List Notice) (other : QueueId) :
    let step := p.advance queue now report notices
    step.calls other ++ step.state.waiting other =
      p.waiting other ++ ((⟨p, queue, now⟩ : Look).takings other).map Taking.sending := by
  have looked : (p.looked queue now).waiting other = p.waiting other := rfl
  have rested : ((p.looked queue now).rest queue).waiting other = p.waiting other := rfl
  dsimp only [Look.takings]
  by_cases same : queue = other
  · subst same
    -- No call of the queue waits: its only send is the one that looks.
    have empty := waiting_of_free looking.free
    rw [if_pos rfl, Release.map_sending_takings, ← released, empty]
    cases batch : (p.released queue now).batch with
    | nil => simp [advance_of_nil batch, Step.calls, rested, empty]
    | cons parcel waiting =>
      simp [advance_of_cons batch, calls_transmit, waiting_transmit, looked, empty]
  · cases batch : (p.released queue now).batch with
    | nil => simp [advance_of_nil batch, Step.calls, rested, same]
    | cons parcel waiting =>
      simp [advance_of_cons batch, calls_transmit, waiting_transmit, looked, same]

end Pipeline

open Pipeline

theorem Turn.look?_of_begin {p : Pipeline} {action : Action} {queue : QueueId} {now : UInt64}
    (asked : p.asks? action = some (queue, now)) (idle : (p.queues queue).draining = false) :
    Turn.look? ⟨p, action⟩ = some ⟨(p.prepared action).begin queue, queue, now⟩ := by
  rcases asks?_cases asked with ⟨ticket, rfl⟩ | ⟨ticket, rfl⟩ | rfl <;>
    simp [look?, asked, idle]

theorem Turn.look?_of_last {p : Pipeline} {queue : QueueId} {now : UInt64} {parcel : Parcel}
    {report : Report} {outer : List Frame} (outcome : Outcome)
    (framed : p.frames = .drain queue now parcel [] report :: outer) :
    Turn.look? ⟨p, .answer outcome⟩ = some ⟨p.popped.delivered parcel outcome, queue, now⟩ := by
  simp [look?, framed]

/-- A send begins when it is asked for and none of its queue is under way. -/
theorem Turn.asks_of_begins {turn : Turn} {queue : QueueId} {now : UInt64}
    (begins : turn.begins? queue = some now) :
    turn.state.asks? turn.action = some (queue, now) ∧
      (turn.state.queues queue).draining = false := by
  unfold begins? at begins
  split at begins
  next other time asked =>
    split at begins
    next own =>
      obtain ⟨rfl, idle⟩ := own
      cases begins
      exact ⟨asked, idle⟩
    next => cases begins
  next => cases begins

/-- No send of a queue is under way when one begins. -/
theorem Turn.free_of_begins {turn : Turn} (guarded : turn.state.Guarded) {queue : QueueId}
    {now : UInt64} (begins : turn.begins? queue = some now) : turn.state.sends queue = 0 := by
  rw [guarded.single, (asks_of_begins begins).2]
  rfl

theorem Turn.queue_of_look {p : Pipeline} {action : Action} {queue : QueueId} {now : UInt64}
    (asked : p.asks? action = some (queue, now)) {look : Look}
    (looks : Turn.look? ⟨p, action⟩ = some look) : look.queue = queue := by
  cases draining : (p.queues queue).draining with
  | true =>
    rcases asks?_cases asked with ⟨ticket, rfl⟩ | ⟨ticket, rfl⟩ | rfl <;>
      simp [look?, asked, draining] at looks
  | false =>
    rw [look?_of_begin asked draining, Option.some.injEq] at looks
    rw [← looks]

theorem Turn.takings_of_look {turn : Turn} {look : Look} (looks : turn.look? = some look)
    (queue : QueueId) : turn.takings queue = look.takings queue := by
  simp [takings, looks]

/-- What a turn takes out comes behind what waits already, and calls are made from the front. -/
theorem Turn.orders {turn : Turn} (guarded : turn.state.Guarded) (queue : QueueId) :
    turn.step.calls queue ++ turn.step.state.waiting queue =
      turn.state.waiting queue ++ (turn.takings queue).map Taking.sending := by
  obtain ⟨p, action⟩ := turn
  have effect := step_effect guarded.unlocked action
  simp only [takings, step] at *
  generalize p.step action = step at effect ⊢
  cases effect with
  | register | revise => simp [look?, asks?, Step.calls]
  | send => simp [look?, asks?, Step.calls, Frame.waiting, push, waiting]
  | refuse | enqueue | move | stay | evict | remove | miss | count =>
    simp [look?, asks?, Step.calls]
  | withhold progress withheld =>
    rcases progress with rfl | rfl <;> simp [look?, withheld, Step.calls]
  | wait asked busy =>
    rcases asks?_cases asked with ⟨ticket, rfl⟩ | ⟨ticket, rfl⟩ | rfl <;>
      simp [look?, asked, busy, Step.calls]
  | @begin action other now asked idle =>
    have looking : ((p.prepared action).begin other).Looking other := by
      apply (guarded.prepared action).begin
      rw [queues_prepared]
      exact idle
    have orders := advance_orders looking now {} [] queue
    rw [look?_of_begin asked idle]
    simpa using orders
  | idle outcome closed => simp [look?, asks?, closed, Step.calls]
  | sent outcome framed =>
    have popped := waiting_popped framed queue
    simp [look?, asks?, framed, Step.calls, popped, Frame.waiting]
  | @next other now parcel next waiting report outer outcome framed =>
    have popped := waiting_popped framed queue
    by_cases same : other = queue <;>
      simp [look?, asks?, framed, calls_transmit, waiting_transmit, popped, Frame.waiting, same]
  | @last other now parcel report outer outcome framed =>
    have looking := (guarded.popped_drain framed).delivered parcel outcome
    have orders := advance_orders looking now (p.popped.recorded parcel outcome report)
      (p.popped.noted parcel outcome) queue
    have popped := waiting_popped framed queue
    rw [look?_of_last outcome framed]
    simpa [popped, Frame.waiting] using orders

/-- What is true of a look: the send has the guard and waits for no stream, the queue holds what it
held before the turn, and the turn goes on with what the look takes out. -/
structure Look.Taken (look : Look) (turn : Turn) : Prop where
  looking : look.state.Looking look.queue
  entries : ∀ queue, look.state.entries queue = turn.state.entries queue
  others : ∀ queue, queue ≠ look.queue → look.state.queues queue = turn.state.queues queue
  waiting : turn.state.waiting look.queue = []
  step : ∃ report notices,
    turn.step = look.state.advance look.queue look.now report notices

theorem Turn.look_taken {turn : Turn} (guarded : turn.state.Guarded) {look : Look}
    (looks : turn.look? = some look) : look.Taken turn := by
  obtain ⟨p, action⟩ := turn
  unfold look? at looks
  split at looks
  next _ _ outcome queue now parcel report outer answers framed =>
    dsimp only at answers framed
    subst answers
    cases looks
    have looking := (guarded.popped_drain framed).delivered parcel outcome
    have waits := waiting_popped framed queue
    have free := waiting_of_free looking.free
    refine ⟨looking, fun _ => by simp, fun _ _ => by rw [queues_delivered]; rfl, ?_, _, _,
      step_answer_last outcome framed (guarded.unlocked queue)⟩
    rw [waiting_delivered] at free
    rw [waits, free]
    simp [Frame.waiting]
  next =>
    split at looks
    next queue now asked =>
      split at looks
      next => cases looks
      next idle =>
        cases looks
        rw [Bool.not_eq_true] at idle
        have same := queues_prepared p action
        have looking : ((p.prepared action).begin queue).Looking queue :=
          (guarded.prepared action).begin (by rw [same]; exact idle)
        have free := waiting_of_free looking.free
        have others : ∀ other, other ≠ queue →
            ((p.prepared action).begin queue).queues other = p.queues other := by
          intro other different
          rw [queues_begin, if_neg different, same]
        exact ⟨looking, fun _ => by simp, others, by simpa using free, {}, [],
          step_of_begin (guarded.unlocked queue) asked idle⟩
    next => cases looks

theorem Turn.mem_takings {turn : Turn} {queue : QueueId} {taking : Taking}
    (member : taking ∈ turn.takings queue) :
    ∃ look, turn.look? = some look ∧ look.queue = queue ∧
      taking ∈ Release.takings look.now (look.state.entries queue) look.state.markers := by
  obtain ⟨look, looks, taken⟩ := List.mem_flatMap.mp member
  unfold Look.takings at taken
  split at taken
  next same => exact ⟨look, Option.mem_toList.mp looks, same, taken⟩
  next => cases taken

/-- What a queue holds after a turn comes behind everything taken out in the turn. -/
theorem Turn.behind_taking {turn : Turn} (guarded : turn.state.Guarded) {queue : QueueId}
    {taking : Taking} (member : taking ∈ turn.takings queue) :
    ∀ entry ∈ turn.step.state.entries queue, taking.key.lt entry.1 = true := by
  intro entry inside
  obtain ⟨look, looks, rfl, taken⟩ := mem_takings member
  obtain ⟨_, moment⟩ := Release.moment_of_mem_takings taken
  obtain ⟨report, notices, step⟩ := (look_taken guarded looks).step
  have left : entry ∈ (look.state.released look.queue look.now).left := by
    simpa [step] using inside
  exact (moment.due (look.state.ascending look.queue)).least entry (moment.left_behind.mem left)

/-- What a queue holds after a run was there at its start, or was put or moved there. -/
theorem Run.mem_entries {start p : Pipeline} {history : List Turn} (run : Run start history p)
    (guarded : start.Guarded) {queue : QueueId} {entry : Entry}
    (member : entry ∈ p.entries queue) :
    entry ∈ start.entries queue ∨ ∃ turn ∈ history,
      turn.state.Enters turn.action queue entry ∨ turn.state.MovesTo turn.action queue entry := by
  induction run with
  | start => exact .inl member
  | @perform history p run action ih =>
    have effect := step_effect (run.keeps Guarded.step guarded).unlocked action
    rcases effect.mem_entries member with old | arrives
    · rcases ih old with initial | ⟨turn, earlier, arrives⟩
      · exact .inl initial
      · exact .inr ⟨turn, List.mem_append_left _ earlier, arrives⟩
    · exact .inr ⟨⟨p, action⟩, by simp, arrives⟩

/-- What a run calls, or leaves waiting for its call, waited at its start or was taken out since. -/
theorem Run.orders_from {start p : Pipeline} {history : List Turn} (run : Run start history p)
    (guarded : start.Guarded) (queue : QueueId) :
    history.flatMap (Turn.calls queue) ++ p.waiting queue =
      start.waiting queue ++ (history.flatMap (Turn.takings queue)).map Taking.sending := by
  induction run with
  | start => exact (List.append_nil _).symm
  | @perform history p run action ih =>
    have last := @Turn.orders ⟨p, action⟩ (run.keeps Guarded.step guarded) queue
    simp only [Turn.step] at last
    rw [List.flatMap_append, List.flatMap_append, List.flatMap_singleton, List.flatMap_singleton,
      List.map_append, ← List.append_assoc, ← ih, List.append_assoc, List.append_assoc]
    rw [← last]
    rfl

theorem Run.orders {history : List Turn} {p : Pipeline} (run : Run {} history p)
    (queue : QueueId) :
    history.flatMap (Turn.calls queue) ++ p.waiting queue =
      (history.flatMap (Turn.takings queue)).map Taking.sending :=
  run.orders_from guarded_empty queue

theorem Pipeline.sends_pos {p : Pipeline} {queue : QueueId} {now : UInt64}
    (member : (queue, now) ∈ p.under) : 0 < p.sends queue := by
  obtain ⟨frame, open_, same⟩ := List.mem_filterMap.mp member
  cases frame with
  | send => cases same
  | drain =>
    cases same
    exact List.count_pos_iff.mpr (List.mem_map_of_mem open_)

theorem Pipeline.mem_under_advance {p : Pipeline} {queue : QueueId} {now : UInt64}
    {report : Report} {notices : List Notice} {send : QueueId × UInt64}
    (member : send ∈ (p.advance queue now report notices).state.under) :
    send ∈ p.under ∨ send = (queue, now) := by
  cases batch : (p.released queue now).batch with
  | nil =>
    rw [advance_of_nil batch] at member
    exact .inl member
  | cons parcel waiting =>
    rw [advance_of_cons batch] at member
    exact (List.mem_cons.mp member).symm

theorem Pipeline.under_popped {p : Pipeline} {frame : Frame} {outer : List Frame}
    (framed : p.frames = frame :: outer) : p.under = frame.send?.toList ++ p.popped.under := by
  cases send : frame.send? <;> simp [under, popped, framed, send]

@[simp] theorem Pipeline.under_delivered (p : Pipeline) (parcel : Parcel) (outcome : Outcome) :
    (p.delivered parcel outcome).under = p.under := by
  cases outcome <;> rfl

/-- A send under way after a turn was under way before, or begins in the turn. -/
theorem Turn.under_cases {turn : Turn} (guarded : turn.state.Guarded) {queue : QueueId}
    {now : UInt64} (member : (queue, now) ∈ turn.step.state.under) :
    (queue, now) ∈ turn.state.under ∧ turn.begins? queue = none ∨
      turn.begins? queue = some now := by
  obtain ⟨p, action⟩ := turn
  have effect := step_effect guarded.unlocked action
  simp only [step, begins?] at *
  generalize p.step action = step at effect member
  cases effect with
  | register | revise | refuse | enqueue | move | stay | evict | remove | miss | count =>
    exact .inl ⟨member, rfl⟩
  | send => exact .inl ⟨by simpa [under, push, Frame.send?] using member, rfl⟩
  | withhold progress withheld =>
    rw [under, frames_prepared] at member
    exact .inl ⟨member, by simp [withheld]⟩
  | wait asked busy =>
    rw [under, mark, setQueue, frames_prepared] at member
    refine .inl ⟨member, ?_⟩
    simp only [asked]
    rw [if_neg]
    rintro ⟨rfl, idle⟩
    rw [busy] at idle
    cases idle
  | @begin action other time asked idle =>
    simp only [asked]
    -- The guard is free, so no send of the queue was under way before.
    have free : p.sends other = 0 := (guarded.single other).trans (by rw [idle]; rfl)
    rcases mem_under_advance member with earlier | same
    · have there : (queue, now) ∈ p.under := by
        rwa [under, begin, setQueue, frames_prepared] at earlier
      refine .inl ⟨there, ?_⟩
      rw [if_neg]
      rintro ⟨rfl, _⟩
      have waits := sends_pos there
      omega
    · cases same
      exact .inr (if_pos ⟨rfl, idle⟩)
  | idle => exact .inl ⟨member, rfl⟩
  | sent outcome framed =>
    refine .inl ⟨?_, rfl⟩
    rw [under_popped framed]
    simpa [Frame.send?] using member
  | @next other time parcel next waiting report outer outcome framed =>
    refine .inl ⟨?_, rfl⟩
    rw [under_popped framed]
    rcases List.mem_cons.mp member with same | earlier
    · simp [Frame.send?, same]
    · have outside : (queue, now) ∈ (p.popped.delivered parcel outcome).under := earlier
      exact List.mem_append_right _ (by simpa using outside)
  | @last other time parcel report outer outcome framed =>
    refine .inl ⟨?_, rfl⟩
    rw [under_popped framed]
    rcases mem_under_advance member with earlier | same
    · exact List.mem_append_right _ (by simpa using earlier)
    · simp [Frame.send?, same]

/-- A send under way is the one that its queue began last. -/
theorem Run.under_began {history : List Turn} {p : Pipeline} (run : Run {} history p)
    {queue : QueueId} {now : UInt64} (member : (queue, now) ∈ p.under) :
    (history.filterMap (Turn.begins? queue)).getLast? = some now := by
  induction run with
  | start => cases member
  | @perform history p run action ih =>
    rw [List.filterMap_append]
    rcases @Turn.under_cases ⟨p, action⟩ run.guarded queue now member with ⟨earlier, none⟩ | began
    · simpa [none] using ih earlier
    · simp [began]

theorem Run.look_began {history : List Turn} {p : Pipeline} (run : Run {} history p) {turn : Turn}
    (state : turn.state = p) {look : Look} (looks : turn.look? = some look) :
    ((history ++ [turn]).filterMap (Turn.begins? look.queue)).getLast? = some look.now := by
  subst state
  rw [List.filterMap_append]
  unfold Turn.look? at looks
  split at looks
  next outcome queue now parcel report outer answers framed =>
    cases looks
    have under : (queue, now) ∈ turn.state.under := by
      simp [Pipeline.under_popped framed, Frame.send?]
    have quiet : turn.begins? queue = none := by simp [Turn.begins?, answers, asks?]
    simpa [quiet] using run.under_began under
  next =>
    split at looks
    next queue now asked =>
      split at looks
      next => cases looks
      next idle =>
        cases looks
        have begins : turn.begins? queue = some now := by simp [Turn.begins?, asked, idle]
        simp [begins]
    next => cases looks

theorem Pipeline.advance_carried {p : Pipeline} {queue other : QueueId} {now : UInt64}
    {report : Report} {notices : List Notice} {sending : UInt64 × Parcel} :
    let step := p.advance queue now report notices
    sending ∈ step.calls other → step.reply = .calling (step.state.call sending.2) := by
  intro step member
  simp only [step] at member ⊢
  cases batch : (p.released queue now).batch with
  | nil =>
    rw [advance_of_nil batch] at member
    cases member
  | cons parcel waiting =>
    rw [advance_of_cons batch] at member ⊢
    rw [calls_transmit] at member
    split at member
    next =>
      cases List.mem_singleton.mp member
      rfl
    next => cases member

/-- A call of a queue hands the packet to the stream that its marker has. -/
theorem Turn.carried {turn : Turn} (guarded : turn.state.Guarded) {queue : QueueId}
    {sending : UInt64 × Parcel} (member : sending ∈ turn.calls queue) :
    turn.step.reply = .calling (turn.step.state.call sending.2) := by
  obtain ⟨p, action⟩ := turn
  have effect := step_effect guarded.unlocked action
  simp only [calls, step] at *
  generalize p.step action = step at effect member
  cases effect with
  | begin | last => exact advance_carried member
  | next =>
    rw [calls_transmit] at member
    split at member
    next =>
      cases List.mem_singleton.mp member
      rfl
    next => cases member
  | _ => cases member

/-- An entry before a packet that has left came to its place after the packet had left. -/
theorem Run.arrives_later {history : List Turn} {p : Pipeline} (run : Run {} history p)
    {before after : List Turn} {turn : Turn} (parts : history = before ++ turn :: after)
    {queue : QueueId} {taking : Taking} (taken : taking ∈ turn.takings queue) {entry : Entry}
    (member : entry ∈ p.entries queue) (lower : entry.1.lt taking.key = true) :
    ∃ later ∈ after, later.state.Enters later.action queue entry ∨
      later.state.MovesTo later.action queue entry := by
  obtain ⟨first, rest⟩ := run.cut parts
  have guarded := first.guarded
  -- What is still held when the packet has left comes behind it, so the entry is not from then.
  rcases rest.mem_entries (guarded.step turn.action) member with old | arrives
  · have higher := Turn.behind_taking guarded taken entry old
    exact absurd (Key.lt_asymm lower) (by simp [higher])
  · exact arrives

/-- How packets have left a queue after a history. -/
structure InOrder (history : List Turn) (p : Pipeline) (queue : QueueId) : Prop where
  due : ∀ turn ∈ history, ∀ taking ∈ turn.takings queue, taking.Due
  /-- A packet is taken out in a look, after the packets before it and before those behind it. -/
  moment : ∀ turn ∈ history, ∀ taking ∈ turn.takings queue, ∃ look before,
    turn.look? = some look ∧
      taking.Moment look.now (turn.state.entries queue) before look.state.markers
  gone : ∀ turn ∈ history, ∀ taking ∈ turn.takings queue,
    ∀ entry ∈ turn.step.state.entries queue, taking.key.lt entry.1 = true
  /-- The time of a packet that is taken out is that of the send under way. -/
  began : ∀ before turn after, history = before ++ turn :: after →
    ∀ taking ∈ turn.takings queue,
      ((before ++ [turn]).filterMap (Turn.begins? queue)).getLast? = some taking.now
  calls : history.flatMap (Turn.calls queue) ++ p.waiting queue =
    (history.flatMap (Turn.takings queue)).map Taking.sending
  carried : ∀ turn ∈ history, ∀ sending ∈ turn.calls queue,
    turn.step.reply = .calling (turn.step.state.call sending.2)
  /-- Nothing is taken out before everything taken out earlier has been called and answered. -/
  through : ∀ before turn after, history = before ++ turn :: after →
    ∀ look, turn.look? = some look → look.queue = queue →
      look.state.inFlight queue = [] ∧ before.flatMap (Turn.calls queue) =
        (before.flatMap (Turn.takings queue)).map Taking.sending
  /-- What is held before a packet that has left came there later. -/
  overtaken : ∀ before turn after, history = before ++ turn :: after →
    ∀ taking ∈ turn.takings queue, ∀ entry ∈ p.entries queue, entry.1.lt taking.key = true →
      ∃ later ∈ after, later.state.Enters later.action queue entry ∨
        later.state.MovesTo later.action queue entry
  /-- What leaves after a packet that it comes before came there in between. -/
  overtakes : ∀ before turn between next after,
    history = before ++ turn :: between ++ next :: after →
      ∀ first ∈ turn.takings queue, ∀ second ∈ next.takings queue,
        second.key.lt first.key = true → ∃ later ∈ between,
          later.state.Enters later.action queue (second.key, second.parcel.event) ∨
            later.state.MovesTo later.action queue (second.key, second.parcel.event)

theorem Run.guarded_of_mem {history : List Turn} {p : Pipeline} (run : Run {} history p)
    {turn : Turn} (member : turn ∈ history) : turn.state.Guarded := by
  obtain ⟨before, after, parts⟩ := List.append_of_mem member
  exact (run.cut parts).1.guarded

/-- Packets leave every queue in order, in every run. -/
theorem in_order {history : List Turn} {p : Pipeline} (run : Run {} history p)
    (queue : QueueId) : InOrder history p queue where
  due turn member taking taken := by
    obtain ⟨look, looks, rfl, inside⟩ := Turn.mem_takings taken
    obtain ⟨before, moment⟩ := Release.moment_of_mem_takings inside
    exact moment.due (look.state.ascending look.queue)
  moment turn member taking taken := by
    obtain ⟨look, looks, rfl, inside⟩ := Turn.mem_takings taken
    obtain ⟨before, moment⟩ := Release.moment_of_mem_takings inside
    rw [(Turn.look_taken (run.guarded_of_mem member) looks).entries] at moment
    exact ⟨look, before, looks, moment⟩
  gone turn member taking taken := Turn.behind_taking (run.guarded_of_mem member) taken
  began before turn after parts taking taken := by
    obtain ⟨look, looks, rfl, inside⟩ := Turn.mem_takings taken
    obtain ⟨_, moment⟩ := Release.moment_of_mem_takings inside
    rw [moment.now_eq]
    exact (run.cut parts).1.look_began rfl looks
  calls := run.orders queue
  carried turn member sending called := Turn.carried (run.guarded_of_mem member) called
  through before turn after parts look looks same := by
    subst same
    have first := (run.cut parts).1
    have taken := Turn.look_taken first.guarded looks
    have orders := first.orders look.queue
    rw [taken.waiting, List.append_nil] at orders
    exact ⟨inFlight_of_free taken.looking.free, orders⟩
  overtaken before turn after parts taking taken entry held lower :=
    run.arrives_later parts taken held lower
  overtakes before turn between next after parts one taken two again lower := by
    obtain ⟨first, _⟩ := run.cut parts
    have guarded := first.guarded
    obtain ⟨look, looks, rfl, inside⟩ := Turn.mem_takings again
    obtain ⟨earlier, moment⟩ := Release.moment_of_mem_takings inside
    -- The second packet was held when its turn began, under a key below that of the first.
    have split := moment.split
    rw [(Turn.look_taken guarded looks).entries] at split
    have held : (two.key, two.parcel.event) ∈ next.state.entries look.queue := by
      rw [split]
      exact List.mem_append_right _ List.mem_cons_self
    exact first.arrives_later rfl taken held lower

/-- While a packet is at the stream another one that comes before it is put in and completed. -/
def lateArrival : List Action :=
  [.register (.fresh 0 1 0 (.ofMillis 100)), .register (.fresh 0 2 0 (.ofMillis 100)),
    .enqueue 0 (.chat 2 1), .complete 0 ⟨2, 1⟩ 50, .enqueue 0 (.chat 1 0), .complete 0 ⟨1, 0⟩ 60,
    .answer (.ok ()), .answer (.ok ())]

theorem in_order_lateArrival : Run {} (turns {} lateArrival) (after {} lateArrival) ∧
    InOrder (turns {} lateArrival) (after {} lateArrival) 0 ∧
    ((turns {} lateArrival).flatMap (Turn.takings 0)).map (fun taking => (taking.now, taking.key)) =
      [(50, ⟨2, 2⟩), (50, ⟨1, 1⟩)] :=
  ⟨Run.ofActions {} lateArrival, in_order (Run.ofActions {} lateArrival) 0, by decide⟩

end PacketFlow
