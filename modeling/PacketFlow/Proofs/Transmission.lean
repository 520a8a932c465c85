import PacketFlow.Proofs.Order
import PacketFlow.Proofs.Progress

/-! Every send makes one call, and a marker tells truly whether a send of it has succeeded.

A send is open from its call to the answer of the stream. Calls from inside the stream open further
sends above it, which are answered first, so each answer belongs to one call. The stream that is
called is the one that the marker has when the send begins; what is done to the marker meanwhile
does not concern the call. Only an answer that reports success is noted in the marker.
-/

set_option autoImplicit false

namespace PacketFlow

open Pipeline

/-- What a frame has at the stream. -/
def Frame.parcel : Frame → Parcel
  | .send parcel => parcel
  | .drain _ _ parcel _ _ => parcel

/-- The report that a send of a queue ends with or goes on with after a step. -/
def Step.report? (step : Step) : Option Report :=
  match step.reply, step.state.frames with
  | .reported report, _ => some report
  | _, .drain _ _ _ _ report :: _ => some report
  | _, _ => none

/-- The result that the send of a frame comes back with in a step. A send of a queue tells it in its
report. -/
inductive Frame.Gives : Frame → Step → Except MarkerFailure Unit → Prop where
  | direct {parcel : Parcel} {step : Step} {result : Except MarkerFailure Unit}
    (replied : step.reply = .sent result) : Gives (.send parcel) step result
  | sent {queue : QueueId} {now : UInt64} {parcel : Parcel} {rest : List Parcel}
    {report next : Report} {step : Step} (tells : step.report? = some next)
    (sent : next.sent = report.sent + 1) (failed : next.failed = report.failed) :
    Gives (.drain queue now parcel rest report) step (.ok ())
  | failed {queue : QueueId} {now : UInt64} {parcel : Parcel} {rest : List Parcel}
    {report next : Report} {step : Step} {failure : MarkerFailure}
    (tells : step.report? = some next) (sent : next.sent = report.sent)
    (failed : next.failed = report.failed ++ [(parcel.event, failure)]) :
    Gives (.drain queue now parcel rest report) step (.error failure)

namespace Turn

/-- A send begins in a turn: it calls the stream and waits in a frame. -/
def Opens (turn : Turn) (frame : Frame) (call : StreamCall) : Prop :=
  turn.step.reply = .calling call ∧ turn.step.state.frames.head? = some frame

/-- The innermost of the frames is answered in a turn. -/
def Answers (turn : Turn) (frames : List Frame) (outcome : Outcome) : Prop :=
  turn.state.frames = frames ∧ turn.action = .answer outcome

/-- A send comes back in a turn. -/
def ComesBack (turn : Turn) (frame : Frame) (result : Except MarkerFailure Unit) : Prop :=
  (∃ outer outcome, turn.Answers (frame :: outer) outcome) ∧ frame.Gives turn.step result

/-- The frames that stay open in a turn. -/
def outer (turn : Turn) : List Frame :=
  match turn.action with
  | .answer _ => turn.state.frames.tail
  | _ => turn.state.frames

end Turn

/-- A step leaves frames open as they were, and opens one more when it calls a stream. -/
inductive Step.Opening (outer : List Frame) (step : Step) : Option Frame → Prop where
  | silent (frames : step.state.frames = outer) (silent : ∀ call, step.reply ≠ .calling call) :
    Opening outer step none
  | opened {frame : Frame} (frames : step.state.frames = frame :: outer)
    (called : step.reply = .calling (step.state.call frame.parcel)) :
    Opening outer step (some frame)

namespace Pipeline

/-- A look opens only a frame of its queue. -/
theorem opening_advance (p : Pipeline) (queue : QueueId) (now : UInt64) (report : Report)
    (notices : List Notice) :
    ∃ opened, (p.advance queue now report notices).Opening p.frames opened ∧
      ∀ frame ∈ opened, frame.queue? = some queue := by
  cases batch : (p.released queue now).batch with
  | nil =>
    rw [advance_of_nil batch]
    exact ⟨none, .silent rfl (by simp), by simp⟩
  | cons parcel waiting =>
    rw [advance_of_cons batch]
    exact ⟨some _, .opened rfl rfl, by simp [Frame.queue?]⟩

theorem frames_delivered (p : Pipeline) (parcel : Parcel) (outcome : Outcome) :
    (p.delivered parcel outcome).frames = p.frames := by
  cases outcome <;> rfl

end Pipeline

/-- A frame that a turn opens is that of a direct send or belongs to a queue. -/
theorem Turn.opening {turn : Turn} (guarded : turn.state.Guarded) :
    ∃ opened, turn.step.Opening turn.outer opened ∧ ∀ frame ∈ opened,
      turn.action = .send frame.parcel.marker frame.parcel.event ∨ frame.queue?.isSome = true := by
  obtain ⟨p, action⟩ := turn
  have effect := step_effect guarded.unlocked action
  simp only [step, outer] at *
  generalize p.step action = step at effect ⊢
  cases effect with
  | register | revise | refuse | enqueue | move | stay | evict | remove | miss | count =>
    exact ⟨none, .silent rfl (by simp), by simp⟩
  | send => exact ⟨some _, .opened rfl rfl, by simp [Frame.parcel]⟩
  | withhold progress =>
    rcases progress with rfl | rfl <;> exact ⟨none, .silent rfl (by simp), by simp⟩
  | wait asked =>
    rcases asks?_cases asked with ⟨_, rfl⟩ | ⟨_, rfl⟩ | rfl <;>
      exact ⟨none, .silent rfl (by simp), by simp⟩
  | @begin action queue now asked =>
    obtain ⟨opened, opening, own⟩ :=
      opening_advance ((p.prepared action).begin queue) queue now {} []
    refine ⟨opened, ?_, fun frame member => .inr (by rw [own frame member]; rfl)⟩
    rcases asks?_cases asked with ⟨_, rfl⟩ | ⟨_, rfl⟩ | rfl <;> exact opening
  | idle outcome closed => exact ⟨none, .silent (by simp [closed]) (by simp), by simp⟩
  | sent outcome framed =>
    exact ⟨none, .silent (frames_delivered ..) (by simp), by simp⟩
  | next outcome framed =>
    exact ⟨some _, .opened (congrArg _ (frames_delivered ..)) rfl, by simp [Frame.queue?]⟩
  | @last queue now parcel report outer outcome framed =>
    obtain ⟨opened, opening, own⟩ := opening_advance (p.popped.delivered parcel outcome) queue now
      (p.popped.recorded parcel outcome report) (p.popped.noted parcel outcome)
    rw [frames_delivered] at opening
    exact ⟨opened, opening, fun frame member => .inr (by rw [own frame member]; rfl)⟩

theorem Turn.opens_iff {turn : Turn} (guarded : turn.state.Guarded) {frame : Frame}
    {call : StreamCall} : turn.Opens frame call ↔
      turn.step.state.frames = frame :: turn.outer ∧
        call = turn.step.state.call frame.parcel ∧ turn.step.reply = .calling call := by
  constructor
  · rintro ⟨replied, head⟩
    obtain ⟨opened, opening, -⟩ := turn.opening guarded
    cases opening with
    | silent _ silent => exact absurd replied (silent call)
    | opened frames called =>
      rw [frames, List.head?_cons, Option.some.injEq] at head
      subst head
      rw [called, Reply.calling.injEq] at replied
      exact ⟨frames, replied.symm, by rw [called, replied]⟩
  · rintro ⟨frames, -, replied⟩
    exact ⟨replied, by rw [frames]; rfl⟩

/-- A direct send begins with its call, and nothing else begins one. -/
theorem Turn.opens_send_iff {turn : Turn} (guarded : turn.state.Guarded) {parcel : Parcel} :
    turn.action = .send parcel.marker parcel.event ↔ ∃ call, turn.Opens (.send parcel) call := by
  constructor
  · intro sends
    have called : turn.step = turn.state.step (.send parcel.marker parcel.event) := by
      rw [step, sends]
    exact ⟨turn.state.call parcel, by rw [called]; rfl, by rw [called]; rfl⟩
  · rintro ⟨call, replied, head⟩
    obtain ⟨opened, opening, kind⟩ := turn.opening guarded
    cases opening with
    | silent _ silent => exact absurd replied (silent call)
    | opened frames =>
      rw [frames, List.head?_cons, Option.some.injEq] at head
      subst head
      exact (kind _ rfl).resolve_right (by simp [Frame.queue?])

theorem Turn.mem_calls_iff {turn : Turn} {queue : QueueId} {now : UInt64} {parcel : Parcel} :
    (now, parcel) ∈ turn.calls queue ↔
      ∃ rest report call, turn.Opens (.drain queue now parcel rest report) call := by
  constructor
  · intro member
    unfold calls Step.calls at member
    split at member
    next _ _ call other time called rest report outer replied frames =>
      split at member
      next same =>
        subst same
        cases List.mem_singleton.mp member
        exact ⟨rest, report, call, replied, by rw [frames]; rfl⟩
      next => cases member
    next => cases member
  · rintro ⟨rest, report, call, replied, head⟩
    obtain ⟨outer, frames⟩ := List.head?_eq_some_iff.mp head
    rw [calls, Step.calls, replied, frames]
    simp

/-- A look passes on what the report says of calls. -/
theorem Pipeline.report_advance (p : Pipeline) (queue : QueueId) (now : UInt64) (report : Report)
    (notices : List Notice) : ∃ next, (p.advance queue now report notices).report? = some next ∧
      next.sent = report.sent ∧ next.failed = report.failed := by
  cases batch : (p.released queue now).batch with
  | nil =>
    rw [advance_of_nil batch]
    exact ⟨_, rfl, rfl, rfl⟩
  | cons parcel waiting =>
    rw [advance_of_cons batch]
    exact ⟨_, rfl, rfl, rfl⟩

/-- A report that counts one packet more gives success, one that hands back a packet more gives the
error that comes with it. -/
theorem Frame.gives_of_recorded {queue : QueueId} {now : UInt64} {parcel : Parcel}
    {rest : List Parcel} {report next : Report} {step : Step} (p : Pipeline) (outcome : Outcome)
    (tells : step.report? = some next)
    (sent : next.sent = (p.recorded parcel outcome report).sent)
    (failed : next.failed = (p.recorded parcel outcome report).failed)
    (result : Except MarkerFailure Unit) :
    (Frame.drain queue now parcel rest report).Gives step result ↔
      result = outcome.mapError .transmission := by
  rw [sent_recorded] at sent
  rw [failed_recorded] at failed
  cases outcome with
  | ok =>
    have kept : next.failed = report.failed := failed.trans (List.append_nil _)
    constructor
    · intro gives
      cases gives with
      | sent => rfl
      | failed told same =>
        obtain rfl := Option.some.inj (tells.symm.trans told)
        exact absurd (same.symm.trans sent) (Nat.ne_of_lt (Nat.lt_succ_self _))
    · rintro rfl
      exact .sent tells sent kept
  | error failure =>
    constructor
    · intro gives
      cases gives with
      | sent told more =>
        obtain rfl := Option.some.inj (tells.symm.trans told)
        exact absurd (sent.symm.trans more) (Nat.ne_of_lt (Nat.lt_succ_self _))
      | failed told _ handed =>
        obtain rfl := Option.some.inj (tells.symm.trans told)
        have same := List.append_cancel_left (failed.symm.trans handed)
        cases same
        rfl
    · rintro rfl
      exact .failed tells sent failed

/-- What a send comes back with is the answer of the stream. -/
theorem Turn.gives_iff {turn : Turn} (guarded : turn.state.Guarded) {frame : Frame}
    {outer : List Frame} {outcome : Outcome} (answers : turn.Answers (frame :: outer) outcome)
    (result : Except MarkerFailure Unit) :
    frame.Gives turn.step result ↔ result = outcome.mapError .transmission := by
  obtain ⟨p, action⟩ := turn
  obtain ⟨framed, asked⟩ := answers
  dsimp only at framed asked
  subst asked
  cases frame with
  | send parcel =>
    have replied : (p.step (.answer outcome)).reply =
        .sent (outcome.mapError .transmission) := by
      rw [step_answer_send outcome framed]
      cases outcome <;> rfl
    constructor
    · rintro ⟨given⟩
      exact Reply.sent.inj (given.symm.trans replied)
    · rintro rfl
      exact .direct replied
  | drain queue now parcel rest report =>
    cases rest with
    | nil =>
      have last := step_answer_last outcome framed (guarded.unlocked queue)
      obtain ⟨next, tells, sent, failed⟩ := report_advance (p.popped.delivered parcel outcome) queue
        now (p.popped.recorded parcel outcome report) (p.popped.noted parcel outcome)
      rw [← last] at tells
      exact Frame.gives_of_recorded p.popped outcome tells sent failed result
    | cons following rest =>
      have tells : (p.step (.answer outcome)).report? =
          some (p.popped.recorded parcel outcome report) := by
        rw [step_answer_next outcome framed]
        rfl
      exact Frame.gives_of_recorded p.popped outcome tells rfl rfl result

/-- What becomes of a call. It waits for its answer with the calls below it, or it was answered once
and its send came back with what the stream reported. -/
inductive Paired (frame : Frame) (outer : List Frame) (later : List Turn) (p : Pipeline) : Prop
  where
  | waits (unanswered : ∀ turn ∈ later, ∀ outcome, ¬turn.Answers (frame :: outer) outcome)
    (opened : frame :: outer <:+ p.frames)
  | returned {inner after : List Turn} {closing : Turn} {outcome : Outcome}
    (split : later = inner ++ closing :: after)
    (unanswered : ∀ turn ∈ inner, ∀ outcome, ¬turn.Answers (frame :: outer) outcome)
    (answers : closing.Answers (frame :: outer) outcome)
    (result : ∀ result, frame.Gives closing.step result ↔
      result = outcome.mapError .transmission)

/-- Frames stay open in a turn that does not answer the innermost of them. -/
theorem Turn.suffix_outer {turn : Turn} {frame : Frame} {outer : List Frame}
    (opened : frame :: outer <:+ turn.state.frames)
    (unanswered : ∀ outcome, ¬turn.Answers (frame :: outer) outcome) :
    frame :: outer <:+ turn.outer := by
  obtain ⟨p, action⟩ := turn
  cases action with
  | answer outcome =>
    obtain ⟨above, split⟩ := opened
    cases above with
    | nil => exact absurd ⟨split.symm, rfl⟩ (unanswered outcome)
    | cons innermost above =>
      dsimp only at split
      refine ⟨above, ?_⟩
      simp only [Turn.outer, ← split]
      rfl
  | _ => exact opened

theorem Run.paired {start p : Pipeline} {later : List Turn} (run : Run start later p)
    (guarded : start.Guarded) {frame : Frame} {outer : List Frame}
    (opened : start.frames = frame :: outer) : Paired frame outer later p := by
  induction run with
  | start => exact .waits (by simp) (opened ▸ List.suffix_refl _)
  | @perform history q run action ih =>
    have now : q.Guarded := run.keeps Guarded.step guarded
    cases ih with
    | returned split unanswered answers result =>
      exact .returned (by rw [split, List.append_assoc]; rfl) unanswered answers result
    | waits unanswered stays =>
      by_cases answered : ∃ outcome, Turn.Answers ⟨q, action⟩ (frame :: outer) outcome
      · obtain ⟨outcome, answers⟩ := answered
        exact .returned rfl unanswered answers (Turn.gives_iff now answers)
      · have still := Turn.suffix_outer stays fun outcome answers => answered ⟨outcome, answers⟩
        refine .waits ?_ ?_
        · intro turn member
          rcases List.mem_append.mp member with earlier | last
          · exact unanswered turn earlier
          · rw [List.mem_singleton.mp last]
            exact fun outcome answers => answered ⟨outcome, answers⟩
        · obtain ⟨_, opening, -⟩ := @Turn.opening ⟨q, action⟩ now
          cases opening with
          | silent frames => exact frames.symm ▸ still
          | opened frames => exact frames.symm ▸ still.trans (List.suffix_cons ..)

/-- What an enduring reading finds in records is what it found before, unless a record is revised
or a new one comes in. -/
theorem Pipeline.read_same {α : Type} {read : Marker → α} (enduring : Marker.Enduring read)
    {p : Pipeline} (guarded : p.Guarded) {action : Action}
    (unrevised : ∀ id change, action ≠ .revise id change)
    (unregistered : ∀ record, action ≠ .register record) (id : MarkerId) :
    read ((p.step action).state.markers.get id) = read (p.markers.get id) := by
  have alike := (step_effect guarded.unlocked action).alike enduring.toLasting
  rw [alike.same]
  cases action with
  | register record => exact absurd rfl (unregistered record)
  | revise other change => exact absurd rfl (unrevised other change)
  | complete => exact Markers.read_set read (enduring.processed ..) id
  | signal => exact Markers.read_set read (enduring.released ..) id
  | _ => rfl

theorem Marker.enduring_stream : Marker.Enduring Marker.stream :=
  ⟨Marker.lasting_stream, fun _ _ => rfl, fun _ => rfl⟩

/-- A call goes to the stream that the marker has when the send begins. -/
theorem Turn.Opens.stream {turn : Turn} (guarded : turn.state.Guarded) {frame : Frame}
    {call : StreamCall} (opens : turn.Opens frame call) :
    call.stream = (turn.state.markers.get frame.parcel.marker).stream := by
  obtain ⟨-, called, replied⟩ := (opens_iff guarded).mp opens
  have same : (turn.step.state.markers.get frame.parcel.marker).stream =
      (turn.state.markers.get frame.parcel.marker).stream := by
    refine read_same Marker.enduring_stream guarded (fun id change revised => ?_)
      (fun record registers => ?_) _
    · rw [step, revised] at replied
      cases replied
    · rw [step, registers] at replied
      cases replied
  rw [called]
  exact same

/-- A stream accepts a packet of a marker in a turn. -/
def Turn.Accepts (id : MarkerId) (turn : Turn) : Prop :=
  ∃ frame outer, turn.Answers (frame :: outer) (.ok ()) ∧ frame.parcel.marker = id

theorem Marker.transmitted_apply (record : Marker) (change : Marker.Change) :
    (record.apply change).transmitted = record.transmitted := by
  cases change <;> rfl

namespace Pipeline

theorem transmitted_foldl_clearQueued (events : List Event) (markers : Markers) (id : MarkerId) :
    ((events.foldl Markers.clearQueued markers).get id).transmitted =
      (markers.get id).transmitted := by
  rw [Markers.get_foldl_clearQueued]
  split <;> rfl

theorem transmitted_advance (p : Pipeline) (queue : QueueId) (now : UInt64) (report : Report)
    (notices : List Notice) (id : MarkerId) :
    ((p.advance queue now report notices).state.markers.get id).transmitted =
      (p.markers.get id).transmitted := by
  have markers : (p.looked queue now).markers = (p.released queue now).markers := rfl
  rw [markers_advance, markers, released, Release.heads_markers]
  exact transmitted_foldl_clearQueued ..

theorem transmitted_revise (p : Pipeline) (other : MarkerId) (change : Marker.Change)
    (id : MarkerId) :
    ((p.revise other change).markers.get id).transmitted = (p.markers.get id).transmitted :=
  Markers.read_set Marker.transmitted (Marker.transmitted_apply _ change) id

theorem transmitted_prepared (p : Pipeline) (action : Action) (id : MarkerId) :
    ((p.prepared action).markers.get id).transmitted = (p.markers.get id).transmitted := by
  cases action with
  | complete | signal => exact transmitted_revise ..
  | _ => rfl

theorem transmitted_delivered (p : Pipeline) (parcel : Parcel) (outcome : Outcome)
    (id : MarkerId) : ((p.delivered parcel outcome).markers.get id).transmitted = true ↔
      (p.markers.get id).transmitted = true ∨ (outcome = .ok () ∧ parcel.marker = id) := by
  cases outcome with
  | error failure => simp [delivered, deliver]
  | ok =>
    simp only [delivered, deliver, Markers.setTransmitted]
    by_cases same : id = parcel.marker
    · subst same
      simp
    · simp [Markers.get_set_of_ne _ _ same, Ne.symm same]

end Pipeline

theorem Turn.accepts_iff {p : Pipeline} {outcome : Outcome} {frame : Frame} {outer : List Frame}
    (framed : p.frames = frame :: outer) (id : MarkerId) :
    Turn.Accepts id ⟨p, .answer outcome⟩ ↔ outcome = .ok () ∧ frame.parcel.marker = id := by
  constructor
  · rintro ⟨other, around, ⟨same, answer⟩, own⟩
    cases framed.symm.trans same
    exact ⟨Action.answer.inj answer, own⟩
  · rintro ⟨rfl, own⟩
    exact ⟨frame, outer, ⟨framed, rfl⟩, own⟩

/-- A turn in which nothing is answered leaves the flag as it is. -/
theorem Turn.transmitted_of_silent {p next : Pipeline} {action : Action} {id : MarkerId}
    (silent : ∀ outcome, action ≠ .answer outcome)
    (same : (next.markers.get id).transmitted = (p.markers.get id).transmitted) :
    (next.markers.get id).transmitted = true ↔
      (p.markers.get id).transmitted = true ∨ Turn.Accepts id ⟨p, action⟩ := by
  have unanswered : ¬Turn.Accepts id ⟨p, action⟩ := by
    rintro ⟨_, _, ⟨-, answer⟩, -⟩
    exact silent _ answer
  rw [same, or_iff_left unanswered]

/-- A marker that is there tells of the sends that succeeded before and of one that succeeds in a
turn. -/
theorem Turn.transmitted_step {turn : Turn} (guarded : turn.state.Guarded) {id : MarkerId}
    (registered : id < turn.state.markers.count) :
    (turn.step.state.markers.get id).transmitted = true ↔
      (turn.state.markers.get id).transmitted = true ∨ turn.Accepts id := by
  obtain ⟨p, action⟩ := turn
  have effect := step_effect guarded.unlocked action
  simp only [step] at *
  generalize p.step action = step at effect ⊢
  cases effect with
  | register marker =>
    refine transmitted_of_silent (by simp) ?_
    rw [Markers.get_add, if_neg (Nat.ne_of_lt registered)]
  | revise => exact transmitted_of_silent (by simp) (transmitted_revise ..)
  | send | refuse | stay | miss | count => exact transmitted_of_silent (by simp) rfl
  | enqueue | move | remove =>
    exact transmitted_of_silent (by simp) (transmitted_revise p _ (.queuedIndex _) id)
  | evict => exact transmitted_of_silent (by simp) (transmitted_foldl_clearQueued ..)
  | withhold progress =>
    have same := transmitted_prepared p action id
    rcases progress with rfl | rfl <;> exact transmitted_of_silent (by simp) same
  | wait asked =>
    have same := transmitted_prepared p action id
    rcases asks?_cases asked with ⟨_, rfl⟩ | ⟨_, rfl⟩ | rfl <;>
      exact transmitted_of_silent (by simp) same
  | @begin action queue now asked =>
    have same := (transmitted_advance ((p.prepared action).begin queue) queue now {} [] id).trans
      (transmitted_prepared p action id)
    rcases asks?_cases asked with ⟨_, rfl⟩ | ⟨_, rfl⟩ | rfl <;>
      exact transmitted_of_silent (by simp) same
  | idle outcome closed =>
    have unanswered : ¬Turn.Accepts id ⟨p, .answer outcome⟩ := by
      rintro ⟨_, _, ⟨framed, -⟩, -⟩
      cases closed.symm.trans framed
    rw [or_iff_left unanswered]
  | sent outcome framed =>
    rw [accepts_iff framed]
    exact transmitted_delivered p.popped _ outcome id
  | next outcome framed =>
    rw [accepts_iff framed]
    exact transmitted_delivered p.popped _ outcome id
  | last outcome framed =>
    rw [accepts_iff framed, transmitted_advance]
    exact transmitted_delivered p.popped _ outcome id

/-- Markers that are there stay there, and new ones come in one after the other. -/
theorem Pipeline.registered_step {p : Pipeline} (guarded : p.Guarded) (action : Action)
    (id : MarkerId) : id < (p.step action).state.markers.count ↔
      id < p.markers.count ∨ (id = p.markers.count ∧ ∃ record, action = .register record) := by
  rw [((step_effect guarded.unlocked action).alike Marker.lasting_stream).count]
  cases action with
  | register record =>
    have more : (p.adjusted (.register record)).count = p.markers.count + 1 := rfl
    rw [more, Nat.lt_succ_iff_lt_or_eq]
    exact or_congr_right ⟨fun last => ⟨last, record, rfl⟩, And.left⟩
  | _ => simp [adjusted, prepared, Pipeline.revise, Markers.revise]

theorem Run.transmitted {start p : Pipeline} {history : List Turn} (run : Run start history p)
    (guarded : start.Guarded) {id : MarkerId} (registered : id < start.markers.count) :
    id < p.markers.count ∧ ((p.markers.get id).transmitted = true ↔
      (start.markers.get id).transmitted = true ∨ ∃ turn ∈ history, turn.Accepts id) := by
  induction run with
  | start => simp [registered]
  | @perform history q run action ih =>
    obtain ⟨still, before⟩ := ih
    have now : q.Guarded := run.keeps Guarded.step guarded
    have last := @Turn.transmitted_step ⟨q, action⟩ now id still
    refine ⟨(registered_step now action id).mpr (.inl still), last.trans ?_⟩
    rw [before, or_assoc]
    simp [or_and_right, exists_or]

/-- A marker that is there came in at some turn. -/
theorem Run.exists_registered {history : List Turn} {p : Pipeline} (run : Run {} history p)
    {id : MarkerId} (registered : id < p.markers.count) :
    ∃ before taking later record, history = before ++ taking :: later ∧
      taking.action = .register record ∧ taking.state.markers.count = id := by
  induction run with
  | start => exact absurd registered (Nat.not_lt_zero id)
  | @perform history q run action ih =>
    rcases (registered_step run.guarded action id).mp registered with old | ⟨rfl, record, rfl⟩
    · obtain ⟨before, taking, later, record, rfl, taken, own⟩ := ih old
      exact ⟨before, taking, later ++ [⟨q, action⟩], record, by simp, taken, own⟩
    · exact ⟨history, ⟨q, .register record⟩, [], record, rfl, rfl, rfl⟩

/-- A call hands over what belongs to the packet, and lets listeners see it. -/
structure Conveys (call : StreamCall) (event : Event) : Prop where
  direction : call.direction = .server ↔ event.type.direction = .server
  player : call.player = event.player
  packet : call.packet = event.packet
  network : call.network = event.network
  filtered : call.bypassFilters = false

/-- What an answer with an error leaves when nothing was done since the call: of a direct send what
there was before it, of a send of a queue the markers as they were at the call, except that a queue
whose batch is through is looked at again. -/
def Frame.Spares (frame : Frame) (opening closing : Turn) : Prop :=
  match frame with
  | .send _ => closing.step.state = opening.state
  | .drain queue now _ rest _ =>
    closing.step.state.markers =
      if rest = [] then (opening.step.state.looked queue now).markers
      else opening.step.state.markers

/-- What sends do, and what markers tell of them, in a history that has led to a state. -/
structure Faithful (history : List Turn) (p : Pipeline) : Prop where
  /-- A direct send begins with a call. -/
  direct : ∀ turn ∈ history, ∀ parcel : Parcel,
    turn.action = .send parcel.marker parcel.event ↔ ∃ call, turn.Opens (.send parcel) call
  /-- So do the sends of the packets that a queue releases, as soon as it is their turn. -/
  drained : ∀ queue, history.flatMap (Turn.calls queue) ++ p.waiting queue =
    (history.flatMap (Turn.takings queue)).map Taking.sending
  drains : ∀ turn ∈ history, ∀ queue now parcel, (now, parcel) ∈ turn.calls queue ↔
    ∃ rest report call, turn.Opens (.drain queue now parcel rest report) call
  /-- The call goes to the stream that the marker has when the send begins. -/
  stream : ∀ turn ∈ history, ∀ frame call, turn.Opens frame call →
    call.stream = (turn.state.markers.get frame.parcel.marker).stream
  content : ∀ turn ∈ history, ∀ frame call, turn.Opens frame call →
    Conveys call frame.parcel.event
  /-- A turn that makes no call begins no send. -/
  silent : ∀ turn ∈ history, (∀ call, turn.step.reply ≠ .calling call) →
    turn.step.state.frames = turn.outer
  paired : ∀ before turn later, history = before ++ turn :: later →
    ∀ frame call, turn.Opens frame call → Paired frame turn.outer later p
  /-- The flag is set when the marker comes in with it, and by sends that come back with success. -/
  flag : ∀ id < p.markers.count, ∃ before taking later record,
    history = before ++ taking :: later ∧ taking.action = .register record ∧
      taking.state.markers.count = id ∧
      ((p.markers.get id).transmitted = true ↔ record.transmitted = true ∨
        ∃ turn ∈ later, ∃ frame, frame.parcel.marker = id ∧ turn.ComesBack frame (.ok ()))
  lasting : ∀ turn ∈ history, ∀ id < turn.state.markers.count,
    (turn.state.markers.get id).transmitted = true → (p.markers.get id).transmitted = true
  spared : ∀ before opening closing after,
    history = before ++ opening :: closing :: after → ∀ frame call, opening.Opens frame call →
      ∀ failure, closing.action = .answer (.error failure) → frame.Spares opening closing

theorem Turn.comesBack_iff {turn : Turn} (guarded : turn.state.Guarded) (id : MarkerId) :
    (∃ frame, frame.parcel.marker = id ∧ turn.ComesBack frame (.ok ())) ↔ turn.Accepts id := by
  constructor
  · rintro ⟨frame, own, ⟨outer, outcome, answers⟩, gives⟩
    have same := (gives_iff guarded answers _).mp gives
    cases outcome with
    | ok => exact ⟨frame, outer, answers, own⟩
    | error => cases same
  · rintro ⟨frame, outer, answers, own⟩
    exact ⟨frame, own, ⟨outer, _, answers⟩, (gives_iff guarded answers _).mpr rfl⟩

theorem Turn.spares {opening closing : Turn} (guarded : opening.state.Guarded)
    (next : closing.state = opening.step.state) {frame : Frame} {call : StreamCall}
    (opens : opening.Opens frame call) {failure : StreamFailure}
    (fails : closing.action = .answer (.error failure)) : frame.Spares opening closing := by
  obtain ⟨frames, -⟩ := (opens_iff guarded).mp opens
  have framed : closing.state.frames = frame :: opening.outer := by rw [next, frames]
  have free : closing.state.Guarded := by
    rw [next]
    exact guarded.step opening.action
  have answered : closing.step = closing.state.step (.answer (.error failure)) := by
    rw [step, fails]
  cases frame with
  | send parcel =>
    have sends := (opens_send_iff guarded).mpr ⟨call, opens⟩
    have opened : closing.state = opening.state.push (.send parcel) := by
      rw [next, step, sends]
      rfl
    have state : closing.step.state = closing.state.popped := by
      rw [answered, step_answer_send _ framed]
      rfl
    rw [Frame.Spares, state, opened]
    rfl
  | drain queue now parcel rest report =>
    rw [Frame.Spares, ← next]
    cases rest with
    | nil =>
      rw [if_pos rfl, answered, step_answer_last _ framed (free.unlocked queue), markers_advance]
      rfl
    | cons following rest =>
      rw [if_neg (List.cons_ne_nil following rest), answered, step_answer_next _ framed]
      rfl

/-- Sends make one call each, and markers tell truly which of them have succeeded. -/
theorem faithful {history : List Turn} {p : Pipeline} (run : Run {} history p) :
    Faithful history p := by
  constructor
  case direct => exact fun turn member parcel => Turn.opens_send_iff (run.guarded_of_mem member)
  case drained => exact run.orders
  case drains => exact fun turn _ queue now parcel => Turn.mem_calls_iff
  case stream => exact fun turn member frame call opens => opens.stream (run.guarded_of_mem member)
  case content =>
    intro turn member frame call opens
    obtain ⟨-, rfl, -⟩ := (Turn.opens_iff (run.guarded_of_mem member)).mp opens
    exact ⟨Iff.rfl, rfl, rfl, rfl, rfl⟩
  case silent =>
    intro turn member silent
    obtain ⟨_, opening, -⟩ := turn.opening (run.guarded_of_mem member)
    cases opening with
    | silent frames => exact frames
    | opened _ called => exact absurd called (silent _)
  case paired =>
    intro before turn later split frame call opens
    obtain ⟨toTurn, fromTurn⟩ := run.cut split
    obtain ⟨frames, -⟩ := (Turn.opens_iff toTurn.guarded).mp opens
    exact fromTurn.paired (toTurn.guarded.step turn.action) frames
  case flag =>
    intro id registered
    obtain ⟨before, taking, later, record, split, taken, own⟩ := run.exists_registered registered
    obtain ⟨toTaking, fromTaking⟩ := run.cut split
    refine ⟨before, taking, later, record, split, taken, own, ?_⟩
    have added : taking.step.state.markers = (taking.state.markers.add record).2 := by
      rw [Turn.step, taken]
      rfl
    have inside : id < taking.step.state.markers.count := by
      rw [added, ← own]
      exact Nat.lt_succ_self _
    obtain ⟨-, told⟩ := fromTaking.transmitted (toTaking.guarded.step taking.action) inside
    rw [added, Markers.get_add, if_pos own.symm] at told
    rw [told]
    refine or_congr_right (exists_congr fun turn => and_congr_right fun member => ?_)
    have among : turn ∈ history := by
      rw [split]
      exact List.mem_append_right _ (List.mem_cons_of_mem _ member)
    exact (Turn.comesBack_iff (run.guarded_of_mem among) id).symm
  case lasting =>
    intro turn member id registered transmitted
    obtain ⟨before, later, split⟩ := List.append_of_mem member
    obtain ⟨toTurn, fromTurn⟩ := run.cut split
    have inside := (registered_step toTurn.guarded turn.action id).mpr (.inl registered)
    have kept := (Turn.transmitted_step toTurn.guarded registered).mpr (.inl transmitted)
    exact (fromTurn.transmitted (toTurn.guarded.step turn.action) inside).2.mpr (.inl kept)
  case spared =>
    intro before opening closing after split frame call opens failure fails
    obtain ⟨toOpening, fromOpening⟩ := run.cut split
    exact Turn.spares toOpening.guarded fromOpening.first.1 opens fails

/-- A packet of the first of two markers is sent, and the stream calls back: it puts another stream
in its place, sends again through that one and fails. The first call succeeds nevertheless. Then a
queue sends a packet of each marker, and only that of the second is refused. -/
def nested : List Action :=
  [.register (.fresh 5 0 0 (.ofMillis 100)), .register (.fresh 6 1 0 (.ofMillis 100)),
    .send 0 (.chat 0 0), .revise 0 (.stream 9), .send 0 (.chat 1 0),
    .answer (.error (.access "closed")), .answer (.ok ()),
    .enqueue 0 (.chat 2 0), .enqueue 0 (.chat 3 1), .revise 0 (.asyncCancelled true),
    .revise 1 (.asyncCancelled true), .trySend 0 50, .answer (.ok ()),
    .answer (.error (.invocation "reset"))]

theorem faithful_nested : Run {} (turns {} nested) (after {} nested) ∧
    Faithful (turns {} nested) (after {} nested) ∧
    ((after {} nested).markers.get 0).transmitted = true ∧
    ((after {} nested).markers.get 1).transmitted = false :=
  ⟨Run.ofActions {} nested, faithful (Run.ofActions {} nested), by decide, by decide⟩

end PacketFlow
