import Mathlib.Data.List.TakeWhile
import PacketFlow.Proofs.Order
import PacketFlow.Proofs.Progress

/-! Packets are handed over as soon as all before them are done, and in order.

In an orderly history of one queue, whatever is called from inside streams and however streams
answer: whenever no call is open, the packets handed to streams are the longest run of first packets
that are complete with all their deferrals released, and the others are still held. This holds as
long as deferrals can be counted: a counter that has gone round holds nothing back.
-/

set_option autoImplicit false

namespace PacketFlow

open History Pipeline

def Turn.handed (queue : QueueId) (turn : Turn) : List Event :=
  (turn.calls queue).map fun sending => sending.2.event

/-- What a turn hands over comes before what waits, and what it takes out comes behind. -/
theorem Turn.handed_orders {turn : Turn} (guarded : turn.state.Guarded) (queue : QueueId) :
    turn.handed queue ++ (turn.step.state.waiting queue).map (fun sending => sending.2.event) =
      (turn.state.waiting queue).map (fun sending => sending.2.event) ++
        (turn.takings queue).map fun taking => taking.parcel.event := by
  have orders := congrArg (List.map fun sending => sending.2.event) (turn.orders guarded queue)
  simpa [handed, calls, Taking.sending, Function.comp_def] using orders

namespace History

variable {history : List Turn} {turn : Turn}

theorem settled_iff {event : Event} : settled history event = true ↔ ∃ id,
    event.marker = some id ∧ completed history id = true ∧
      signalled history id = deferred history id := by
  cases marked : event.marker <;> simp [settled, marked]

theorem settled_quiet {event : Event} (quiet : ∀ id, event.marker = some id →
    turn.defers id = false ∧ turn.signals id = false ∧ turn.completes id = false) :
    settled (history ++ [turn]) event = settled history event := by
  cases marked : event.marker with
  | none => simp [settled, marked]
  | some id =>
    obtain ⟨undeferred, unsignalled, incomplete⟩ := quiet id marked
    simp [settled, marked, completed_snoc, deferred_snoc, signalled_snoc, undeferred, unsignalled,
      incomplete]

theorem settled_of_marked {event : Event} {id : MarkerId} (marked : event.marker = some id)
    (undeferred : turn.defers id = false) (unsignalled : turn.signals id = false)
    (incomplete : turn.completes id = false) :
    settled (history ++ [turn]) event = settled history event := by
  apply settled_quiet
  intro other same
  rw [marked, Option.some.injEq] at same
  subst same
  exact ⟨undeferred, unsignalled, incomplete⟩

end History

namespace Pipeline

variable {history : List Turn} {queue : QueueId} {p : Pipeline} {action : Action}

theorem settled_mono (permitted : Permitted queue history p action) {event : Event}
    (done : settled history event = true) : settled (history ++ [⟨p, action⟩]) event = true := by
  obtain ⟨id, marked, complete, even⟩ := settled_iff.mp done
  cases permitted with
  | register | enqueue | trySend | answer =>
    rw [settled_quiet fun _ _ => ⟨rfl, rfl, rfl⟩]
    exact done
  | @defer other _ incomplete =>
    -- The packet is complete, so it is not deferred any more.
    have different : other ≠ id := by
      rintro rfl
      rw [complete] at incomplete
      cases incomplete
    rw [settled_of_marked marked (by simpa [Turn.defers] using different) rfl rfl]
    exact done
  | complete =>
    refine settled_iff.mpr ⟨id, marked, ?_, ?_⟩
    · rw [completed_snoc, complete, Bool.true_or]
    · rw [deferred_snoc, signalled_snoc]
      exact even
  | @signal ticket _ _ owed =>
    -- The packet owes no release.
    have different : ticket.marker ≠ id := by
      rintro rfl
      omega
    rw [settled_of_marked marked rfl (by simpa [Turn.signals] using different) rfl]
    exact done

theorem Tracked.isReady_eq (tracked : p.Tracked history queue) {event : Event} {id : MarkerId}
    (marked : event.marker = some id) (registered : id < p.markers.count) :
    (p.markers.get id).isReady = settled history event := by
  rw [(tracked.recorded id registered).isReady_eq, settled, marked, Option.any_some]

/-- A packet becomes done only in a turn that asks for a send. -/
theorem Tracked.settled_of_silent (tracked : p.Tracked history queue)
    (permitted : Permitted queue history p action) (counted : Counted (history ++ [⟨p, action⟩]))
    (silent : p.asks? action = none) {event : Event}
    {id : MarkerId} (marked : event.marker = some id) (registered : id < p.markers.count)
    (waits : settled history event = false) :
    settled (history ++ [⟨p, action⟩]) event = false := by
  have adjusted := tracked.adjusted permitted counted
  cases permitted with
  | register | enqueue | answer =>
    rw [settled_quiet fun _ _ => ⟨rfl, rfl, rfl⟩]
    exact waits
  | trySend => cases silent
  | @defer other _ incomplete =>
    by_cases same : other = id
    · subst same
      simp [settled, marked, completed_snoc, Turn.completes, incomplete]
    · rw [settled_of_marked marked (by simpa [Turn.defers] using same) rfl rfl]
      exact waits
  | @complete ticket now issued =>
    by_cases same : ticket.marker = id
    · subst same
      rw [← adjusted.isReady_eq marked registered]
      simp only [asks?] at silent
      split at silent
      next holding =>
        -- A completion that asks for nothing leaves a deferral outstanding.
        rw [Marker.isReady, Bool.and_eq_false_iff]
        exact .inr ((Bool.not_eq_false' _).mpr holding)
      next => cases silent
    · rw [settled_of_marked marked rfl rfl (by simpa [Turn.completes] using same)]
      exact waits
  | @signal ticket now issued owed =>
    by_cases same : ticket.marker = id
    · subst same
      have active := (adjusted.recorded ticket.marker registered).active
      rw [← adjusted.isReady_eq marked registered]
      simp only [asks?] at silent
      split at silent
      next awaited =>
        -- So does a release that asks for nothing, or the packet is not complete.
        rw [Bool.or_eq_true] at awaited
        rw [Marker.isReady, Bool.and_eq_false_iff, Marker.isFinished, active, Bool.or_false]
        rcases awaited with holding | unprocessed
        · exact .inr ((Bool.not_eq_false' _).mpr holding)
        · exact .inl ((Bool.not_eq_true' _).mp unprocessed)
      next => cases silent
    · rw [settled_of_marked marked rfl (by simpa [Turn.signals] using same) rfl]
      exact waits

theorem Tracked.fate_eq (tracked : p.Tracked history queue) {entry : Entry}
    (member : entry ∈ placed history queue) (now : UInt64) : Release.fate now p.markers entry.2 =
      if settled history entry.2 then .released else .held := by
  obtain ⟨id, marked, registered, uncancelled⟩ := tracked.marked entry member
  have unexpired := (tracked.recorded id registered).unexpired now
  have ready := tracked.isReady_eq marked registered
  simp only [Release.fate, marked, unexpired, ready, uncancelled, Bool.false_eq_true, if_false]

end Pipeline

namespace Release

/-- A release of entries that are done or held takes out the first ones that are done. -/
theorem heads_of_done {now : UInt64} {done : Entry → Bool} {entries : List Entry}
    {markers : Markers} (fated : ∀ entry ∈ entries,
      fate now markers entry.2 = if done entry then .released else .held) :
    (heads now entries markers).left = entries.dropWhile done ∧
      (heads now entries markers).batch.map Parcel.event =
        (entries.takeWhile done).map Prod.snd := by
  induction entries generalizing markers with
  | nil => exact ⟨rfl, rfl⟩
  | cons entry rest ih =>
    have here := fated entry List.mem_cons_self
    have later := @ih (markers.clearQueued entry.2) fun other member => by
      rw [fate_clearQueued]
      exact fated other (List.mem_cons_of_mem _ member)
    rw [heads_cons, here, List.dropWhile_cons, List.takeWhile_cons]
    cases finished : done entry with
    | false => exact ⟨rfl, rfl⟩
    | true =>
      rw [finished, if_pos rfl] at here
      obtain ⟨id, marked, _⟩ := fate_eq_released.mp here
      simpa [parcel?, marked] using later

end Release

namespace Pipeline

variable {history : List Turn} {queue : QueueId} {p : Pipeline} {action : Action}

/-- A turn without a look takes nothing out, and a send that it asks for is under way already. -/
theorem Tracked.still (guarded : p.Guarded) (permitted : Permitted queue history p action)
    (stored : ∀ entry ∈ p.entries queue, entry ∈ placed history queue)
    (no_look : Turn.look? ⟨p, action⟩ = none) :
    (p.step action).state.entries queue = p.entries queue ++ Turn.placed queue ⟨p, action⟩ ∧
      (((p.step action).state.queues queue).draining = false →
        p.asks? action = none ∧ (p.queues queue).draining = false) := by
  have effect := step_effect guarded.unlocked action
  generalize p.step action = step at effect ⊢
  cases effect with
  | register | revise | idle => exact ⟨(List.append_nil _).symm, fun idle => ⟨rfl, idle⟩⟩
  | send | move | stay | evict | remove | miss | count => cases permitted
  | refuse _ unmarked =>
    cases permitted with
    | enqueue marked => cases unmarked.symm.trans marked
  | @enqueue other event id marked =>
    cases permitted with
    | @enqueue _ id' marked' _ _ _ above =>
      cases marked.symm.trans marked'
      -- The key is above all keys so far, so the entry comes last.
      have last : ((p.queues queue).backlog.insert ⟨(p.markers.get id).newIndex, event.id⟩
          event).entries = p.entries queue ++ [(⟨(p.markers.get id).newIndex, event.id⟩, event)] :=
        Backlog.entries_insert_of_above fun entry member => above entry (stored entry member)
      refine ⟨?_, fun idle => ⟨rfl, ?_⟩⟩
      · simp [last, Turn.placed, marked]
      · simpa [queues_hold] using idle
  | withhold progress withheld =>
    rcases progress with rfl | rfl <;>
      exact ⟨(List.append_nil _).symm, fun idle => ⟨withheld, idle⟩⟩
  | @wait action other now asked busy =>
    have here := permitted.asked asked
    subst here
    refine ⟨?_, fun idle => ?_⟩
    · rw [entries_mark, entries_prepared]
      rcases asks?_cases asked with ⟨ticket, rfl⟩ | ⟨ticket, rfl⟩ | rfl <;>
        exact (List.append_nil _).symm
    · -- The send under way has been marked and will look again.
      rw [queues_mark, if_pos rfl, queues_prepared] at idle
      cases busy.symm.trans idle
  | begin asked idle => cases (Turn.look?_of_begin asked idle).symm.trans no_look
  | sent outcome =>
    refine ⟨(entries_delivered ..).trans (List.append_nil _).symm, fun idle => ⟨rfl, ?_⟩⟩
    rwa [queues_delivered] at idle
  | next outcome =>
    refine ⟨(entries_delivered ..).trans (List.append_nil _).symm, fun idle => ⟨rfl, ?_⟩⟩
    rwa [transmit, push, queues_delivered] at idle
  | last outcome framed => cases (Turn.look?_of_last outcome framed).symm.trans no_look

theorem queues_advance_of_ne (p : Pipeline) {queue other : QueueId} (different : other ≠ queue)
    (now : UInt64) (report : Report) (notices : List Notice) :
    (p.advance queue now report notices).state.queues other = p.queues other := by
  cases batch : (p.released queue now).batch with
  | nil => simp [advance_of_nil batch, queues_rest, looked, queues_hold, different]
  | cons => simp [advance_of_cons batch, transmit, push, looked, queues_hold, different]

/-- A look takes out the first packets that are done, and no others. -/
theorem Tracked.look (guarded : p.Guarded) (permitted : Permitted queue history p action)
    (counted : Counted (history ++ [⟨p, action⟩])) (tracked : p.Tracked history queue)
    (stored : ∀ entry ∈ p.entries queue, entry ∈ placed history queue)
    {look : Look} (looks : Turn.look? ⟨p, action⟩ = some look) (here : look.queue = queue) :
    let done (entry : Entry) := settled (history ++ [⟨p, action⟩]) entry.2
    (p.step action).state.entries queue = (p.entries queue).dropWhile done ∧
      (Turn.takings queue ⟨p, action⟩).map (fun taking => taking.parcel.event) =
        ((p.entries queue).takeWhile done).map Prod.snd := by
  subst here
  have taken := Turn.look_taken guarded looks
  obtain ⟨report, notices, step⟩ := taken.step
  have after := tracked.step permitted counted guarded
  simp only [Turn.step] at step
  rw [step] at after ⊢
  -- A look clears queued indices only, so it decides as the state after the turn would.
  have markers := sameGates_advance look.state look.queue look.now report notices
  have before : look.state.Tracked (history ++ [⟨p, action⟩]) look.queue :=
    after.congr ⟨markers.count.symm, fun id => (markers.gate id).symm⟩
  have same := taken.entries look.queue
  have fated : ∀ entry ∈ look.state.entries look.queue,
      Release.fate look.now look.state.markers entry.2 =
        if settled (history ++ [⟨p, action⟩]) entry.2 then .released else .held := by
    intro entry member
    apply before.fate_eq
    rw [placed_snoc]
    exact List.mem_append_left _ (stored entry (same ▸ member))
  obtain ⟨left, batch⟩ := Release.heads_of_done fated
  rw [same] at left batch
  constructor
  · rw [entries_advance, entries_looked, if_pos rfl, released, same]
    exact left
  · rw [Turn.takings_of_look looks, Look.takings, if_pos rfl, ← batch, same,
      ← Release.map_parcel_takings, List.map_map]
    rfl

/-- The packets that have left a queue are those handed to streams and those about to be, and all
are done. When no send is under way the head is not done. -/
structure Delivered (history : List Turn) (queue : QueueId) (p : Pipeline) : Prop where
  parts : ∃ gone, placed history queue = gone ++ p.entries queue ∧
    gone.map Prod.snd = history.flatMap (Turn.handed queue) ++
      (p.waiting queue).map (fun sending => sending.2.event) ∧
    ∀ entry ∈ gone, settled history entry.2 = true
  resting : (p.queues queue).draining = false →
    ∀ entry ∈ (p.entries queue).head?, settled history entry.2 = false

/-- A turn that takes nothing out keeps what was delivered, and what is held stays. -/
theorem Delivered.still (delivered : p.Delivered history queue)
    (tracked : p.Tracked history queue) (permitted : Permitted queue history p action)
    (counted : Counted (history ++ [⟨p, action⟩])) {next : Pipeline} (entries : next.entries queue =
      p.entries queue ++ Turn.placed queue ⟨p, action⟩)
    (orders : Turn.handed queue ⟨p, action⟩ ++
      (next.waiting queue).map (fun sending => sending.2.event) =
        (p.waiting queue).map fun sending => sending.2.event)
    (idle : (next.queues queue).draining = false →
      p.asks? action = none ∧ (p.queues queue).draining = false) :
    next.Delivered (history ++ [⟨p, action⟩]) queue := by
  obtain ⟨gone, split, left, done⟩ := delivered.parts
  constructor
  case parts =>
    refine ⟨gone, ?_, ?_, fun entry member => settled_mono permitted (done entry member)⟩
    · rw [placed_snoc, split, entries, List.append_assoc]
    · rw [left, ← orders]
      simp
  case resting =>
    intro rests entry head
    obtain ⟨silent, rested⟩ := idle rests
    rw [entries] at head
    cases held : p.entries queue with
    | cons first others =>
      rw [held] at head
      have same : first = entry := Option.some.inj head
      subst same
      have member : first ∈ placed history queue := by simp [split, held]
      obtain ⟨id, marked, registered, _⟩ := tracked.marked first member
      have waits := delivered.resting rested first (by simp [held])
      exact tracked.settled_of_silent permitted counted silent marked registered waits
    | nil =>
      -- The head has just been put in, and its marker is that of no packet before it.
      rw [held] at head
      cases permitted with
      | @enqueue event id marked registered uncancelled fresh =>
        have new : entry.2 = event := by
          simp only [Turn.placed, marked, if_true, Option.toList_some, List.map_cons, List.map_nil,
            List.nil_append, List.head?_cons, Option.mem_some_iff] at head
          rw [← head]
        have incomplete : completed history id = false := by
          rw [Bool.eq_false_iff]
          intro completed
          obtain ⟨earlier, member, same⟩ := tracked.issued id completed
          exact fresh earlier member same
        rw [settled_quiet fun _ _ => ⟨rfl, rfl, rfl⟩, new, settled, marked]
        simp [incomplete]
      | _ => cases head

theorem Delivered.step (delivered : p.Delivered history queue)
    (tracked : p.Tracked history queue) (guarded : p.Guarded)
    (permitted : Permitted queue history p action)
    (counted : Counted (history ++ [⟨p, action⟩])) :
    (p.step action).state.Delivered (history ++ [⟨p, action⟩]) queue := by
  have stored : ∀ entry ∈ p.entries queue, entry ∈ placed history queue := by
    obtain ⟨gone, split, _⟩ := delivered.parts
    intro entry member
    rw [split]
    exact List.mem_append_right _ member
  have orders := @Turn.handed_orders ⟨p, action⟩ guarded queue
  simp only [Turn.step] at orders
  cases looks : Turn.look? ⟨p, action⟩ with
  | none =>
    obtain ⟨entries, idle⟩ := Tracked.still guarded permitted stored looks
    have nothing : Turn.takings queue ⟨p, action⟩ = [] := by simp [Turn.takings, looks]
    rw [nothing, List.map_nil, List.append_nil] at orders
    exact delivered.still tracked permitted counted entries orders idle
  | some look =>
    have unplaced : Turn.placed queue ⟨p, action⟩ = [] := by
      -- Putting in an event looks at nothing.
      cases permitted with
      | enqueue => simp [Turn.look?, asks?] at looks
      | _ => rfl
    by_cases here : look.queue = queue
    · obtain ⟨entries, takings⟩ := Tracked.look guarded permitted counted tracked stored looks here
      obtain ⟨gone, split, left, done⟩ := delivered.parts
      constructor
      case parts =>
        refine ⟨gone ++ (p.entries queue).takeWhile fun entry =>
          settled (history ++ [⟨p, action⟩]) entry.2, ?_, ?_, ?_⟩
        · rw [placed_snoc, unplaced, List.append_nil, split, entries, List.append_assoc,
            List.takeWhile_append_dropWhile]
        · rw [List.map_append, left, ← takings, List.append_assoc, ← orders]
          simp
        · intro entry member
          rcases List.mem_append.mp member with earlier | now
          · exact settled_mono permitted (done entry earlier)
          · exact List.all_eq_true.mp List.all_takeWhile entry now
      case resting =>
        intro _ entry head
        rw [entries] at head
        have stops := List.head?_dropWhile_not
          (fun entry : Entry => settled (history ++ [⟨p, action⟩]) entry.2) (p.entries queue)
        rw [Option.mem_def.mp head] at stops
        exact stops
    · -- The look is at another queue, whose last packet was answered.
      have taken := Turn.look_taken guarded looks
      have nothing : Turn.takings queue ⟨p, action⟩ = [] := by
        rw [Turn.takings_of_look looks, Look.takings, if_neg here]
      have silent : p.asks? action = none := by
        cases asked : p.asks? action with
        | none => rfl
        | some request =>
          exact absurd ((Turn.queue_of_look asked looks).trans (permitted.asked asked)) here
      obtain ⟨report, notices, step⟩ := taken.step
      simp only [Turn.step] at step
      rw [nothing, List.map_nil, List.append_nil] at orders
      have entries : (p.step action).state.entries queue =
          p.entries queue ++ Turn.placed queue ⟨p, action⟩ := by
        rw [unplaced, List.append_nil, step, entries_advance, entries_looked,
          if_neg (Ne.symm here), taken.entries]
      refine delivered.still tracked permitted counted entries orders fun idle => ⟨silent, ?_⟩
      rwa [step, queues_advance_of_ne _ (Ne.symm here), taken.others queue (Ne.symm here)] at idle

end Pipeline

/-- A history of one queue in which every turn was permitted after those before it. -/
inductive Orderly (queue : QueueId) : List Turn → Prop where
  | start : Orderly queue []
  | next {history : List Turn} {p : Pipeline} {action : Action} (orderly : Orderly queue history)
    (permitted : Permitted queue history p action) : Orderly queue (history ++ [⟨p, action⟩])

theorem Orderly.last {queue : QueueId} {history : List Turn} {p : Pipeline} {action : Action}
    (orderly : Orderly queue (history ++ [⟨p, action⟩])) :
    Orderly queue history ∧ Permitted queue history p action := by
  generalize whole : history ++ [⟨p, action⟩] = longer at orderly
  cases orderly with
  | start => simp at whole
  | next earlier permitted =>
    obtain ⟨same, turn⟩ := List.append_inj' whole rfl
    cases turn
    exact ⟨same ▸ earlier, same ▸ permitted⟩

theorem tracked_empty (queue : QueueId) : Tracked [] queue {} where
  recorded _ registered := nomatch registered
  unused _ _ := ⟨rfl, rfl, rfl⟩
  marked _ member := nomatch member
  issued _ completed := nomatch completed
  ascending := .nil

theorem delivered_empty (queue : QueueId) : Pipeline.Delivered [] queue {} where
  parts := ⟨[], rfl, rfl, fun _ member => nomatch member⟩
  resting _ _ head := nomatch head

theorem Run.delivered {queue : QueueId} {history : List Turn} {p : Pipeline}
    (run : Run {} history p) (orderly : Orderly queue history) (counted : Counted history) :
    p.Tracked history queue ∧ p.Delivered history queue := by
  induction run with
  | start => exact ⟨tracked_empty queue, delivered_empty queue⟩
  | @perform history p run action ih =>
    obtain ⟨earlier, permitted⟩ := orderly.last
    obtain ⟨tracked, delivered⟩ := ih earlier counted.earlier
    exact ⟨tracked.step permitted counted run.guarded,
      delivered.step tracked run.guarded permitted counted⟩

/-- What has left a queue and what it holds when no call is open. -/
structure HandedOver (history : List Turn) (queue : QueueId) (p : Pipeline) : Prop where
  /-- The packets handed to streams, in order, are the first ones that are done. -/
  handed : history.flatMap (Turn.handed queue) =
    ((placed history queue).takeWhile fun entry => settled history entry.2).map Prod.snd
  held : p.entries queue =
    (placed history queue).dropWhile fun entry => settled history entry.2
  ascending : (placed history queue).Pairwise fun a b => a.1.lt b.1 = true

/-- After every orderly run in which deferrals can be counted and no call is open, the packets that
were handed over are the longest run of first packets that are done. -/
theorem handed_over {queue : QueueId} {history : List Turn} {p : Pipeline}
    (run : Run {} history p) (orderly : Orderly queue history) (counted : Counted history)
    (returned : p.frames = []) : HandedOver history queue p := by
  obtain ⟨tracked, delivered⟩ := run.delivered orderly counted
  obtain ⟨gone, split, left, done⟩ := delivered.parts
  -- With no call open no send is under way, so nothing waits to be called.
  have free : p.sends queue = 0 := by rw [sends, returned]; rfl
  have idle : (p.queues queue).draining = false := by
    have single := run.guarded.single queue
    rw [free] at single
    cases draining : (p.queues queue).draining with
    | false => rfl
    | true => rw [draining] at single; cases single
  rw [waiting_of_free free, List.map_nil, List.append_nil] at left
  have stops : (p.entries queue).takeWhile (fun entry => settled history entry.2) = [] ∧
      (p.entries queue).dropWhile (fun entry => settled history entry.2) = p.entries queue := by
    have resting := delivered.resting idle
    cases held : p.entries queue with
    | nil => exact ⟨rfl, rfl⟩
    | cons head rest =>
      have waits := resting head (by simp [held])
      simp [waits]
  refine ⟨?_, ?_, tracked.ascending⟩
  · rw [split, List.takeWhile_append_of_pos done, stops.1, List.append_nil, left]
  · rw [split, List.dropWhile_append_of_pos done, stops.2]

/-- Actions of which each is permitted after those before it. -/
def Allowed (queue : QueueId) (before : List Turn) (p : Pipeline) : List Action → Prop
  | [] => True
  | action :: rest => Permitted queue before p action ∧
    Allowed queue (before ++ [⟨p, action⟩]) (p.step action).state rest

theorem Allowed.orderly {queue : QueueId} {before : List Turn} {p : Pipeline}
    {actions : List Action} (allowed : Allowed queue before p actions)
    (orderly : Orderly queue before) : Orderly queue (before ++ p.turns actions) := by
  induction actions generalizing before p with
  | nil => simpa [turns] using orderly
  | cons action rest ih =>
    have longer := ih allowed.2 (orderly.next allowed.1)
    rw [List.append_assoc] at longer
    exact longer

/-- Three packets are completed backwards. The second one owes a release, which comes while the
first one is at the stream, and that stream fails. -/
def backwards : List Action :=
  [.register (.fresh 0 1 0 .max), .register (.fresh 0 2 0 .max), .register (.fresh 0 3 0 .max),
    .revise 1 .defer, .enqueue 0 (.chat 1 0), .enqueue 0 (.chat 2 1), .enqueue 0 (.chat 3 2),
    .complete 0 ⟨3, 2⟩ 50, .complete 0 ⟨2, 1⟩ 50, .complete 0 ⟨1, 0⟩ 50, .signal 0 ⟨2, 1⟩ 60,
    .answer (.error (.access "closed")), .answer (.ok ()), .answer (.ok ())]

theorem allowed_backwards : Allowed 0 [] {} backwards :=
  ⟨.register rfl rfl (by decide) rfl, .register rfl rfl (by decide) rfl,
    .register rfl rfl (by decide) rfl, .defer (by decide) rfl rfl,
    .enqueue rfl (by decide) rfl (by decide) (by decide),
    .enqueue rfl (by decide) rfl (by decide) (by decide),
    .enqueue rfl (by decide) rfl (by decide) (by decide),
    .complete 50 ⟨(⟨3, 3⟩, .chat 3 2), by decide, rfl, rfl⟩,
    .complete 50 ⟨(⟨2, 2⟩, .chat 2 1), by decide, rfl, rfl⟩,
    .complete 50 ⟨(⟨1, 1⟩, .chat 1 0), by decide, rfl, rfl⟩,
    .signal 60 ⟨(⟨2, 2⟩, .chat 2 1), by decide, rfl, rfl⟩ (by decide),
    .answer _, .answer _, .answer _, trivial⟩

theorem counted_backwards : Counted (turns {} backwards) := fun _ =>
  Nat.le_trans List.countP_le_length (by decide)

theorem handed_over_backwards : Run {} (turns {} backwards) (after {} backwards) ∧
    Orderly 0 (turns {} backwards) ∧ Counted (turns {} backwards) ∧
    (after {} backwards).frames = [] ∧
    HandedOver (turns {} backwards) 0 (after {} backwards) ∧
    (turns {} backwards).flatMap (Turn.handed 0) = [.chat 1 0, .chat 2 1, .chat 3 2] :=
  have run := Run.ofActions {} backwards
  have orderly : Orderly 0 (turns {} backwards) := allowed_backwards.orderly .start
  have returned : (after {} backwards).frames = [] := by decide
  ⟨run, orderly, counted_backwards, returned,
    handed_over run orderly counted_backwards returned, by decide⟩

theorem Allowed.append {queue : QueueId} {before : List Turn} {p : Pipeline}
    {first second : List Action} (one : Allowed queue before p first)
    (two : Allowed queue (before ++ p.turns first) (p.after first) second) :
    Allowed queue before p (first ++ second) := by
  induction first generalizing before p with
  | nil => simpa [turns, after] using two
  | cons action rest ih =>
    refine ⟨one.1, ih one.2 ?_⟩
    rw [List.append_assoc]
    exact two

/-- A packet may be deferred any number of times until it is complete or released. -/
theorem allowed_deferrals {queue : QueueId} {before : List Turn} {p : Pipeline} {id : MarkerId}
    (registered : id < p.markers.count) (incomplete : completed before id = false)
    (unsignalled : signalled before id = 0) (count : Nat) :
    Allowed queue before p (List.replicate count (.revise id .defer)) := by
  induction count generalizing before p with
  | zero => trivial
  | succ count ih =>
    refine ⟨.defer registered incomplete unsignalled, ih registered ?_ ?_⟩
    · rw [completed_snoc, incomplete]
      rfl
    · rw [signalled_snoc, unsignalled]
      rfl

/-- A process with one marker, whose counter stands at a number. -/
def counting (outstanding : Int32) : Pipeline :=
  after {} [.register { Marker.fresh 0 1 0 .max with deferrals := ⟨outstanding⟩ }]

theorem step_counting (outstanding : Int32) :
    ((counting outstanding).step (.revise 0 .defer)).state = counting (outstanding + 1) := by
  -- Nothing but the record of the marker differs.
  refine congrArg (fun markers => ({ markers := markers } : Pipeline)) ?_
  refine Markers.eq_of_get rfl fun id => ?_
  by_cases same : id = 0
  · subst same
    rfl
  · have unused (number : Int32) : (counting number).markers.get id = Markers.none.get id :=
      if_neg same
    exact (Markers.get_set_of_ne _ _ same).trans ((unused _).trans (unused _).symm)

/-- The counter goes on beyond its largest number with the smallest one. -/
theorem after_deferrals (outstanding : Int32) (count : Nat) :
    (counting outstanding).after (List.replicate count (.revise 0 .defer)) =
      counting (outstanding + Int32.ofNat count) := by
  induction count generalizing outstanding with
  | zero => simp [after]
  | succ count ih =>
    have sum : outstanding + 1 + Int32.ofNat count = outstanding + Int32.ofNat (count + 1) := by
      rw [Int32.ofNat_add, Int32.add_assoc, Int32.add_comm 1]
      rfl
    rw [List.replicate_succ, after, List.foldl_cons, step_counting, ← after, ih, sum]

/-- A marker is taken in and deferred so many times. -/
def deferring (count : Nat) : List Action :=
  .register (.fresh 0 1 0 .max) :: List.replicate count (.revise 0 .defer)

/-- Its packet is put in and completed without a release, and the stream takes it. -/
def completing : List Action := [.enqueue 0 (.chat 0 0), .complete 0 ⟨0, 0⟩ 50, .answer (.ok ())]

theorem after_deferring (count : Nat) :
    after {} (deferring count) = counting (Int32.ofNat count) := by
  have counted := after_deferrals 0 count
  rw [Int32.zero_add] at counted
  exact counted

theorem mem_deferring {count : Nat} {action : Action} (member : action ∈ deferring count) :
    (∃ marker, action = .register marker) ∨ action = .revise 0 .defer := by
  rcases List.mem_cons.mp member with rfl | again
  · exact .inl ⟨_, rfl⟩
  · exact .inr (List.eq_of_mem_replicate again)

theorem placed_deferring (count : Nat) : placed (turns {} (deferring count)) 0 = [] := by
  refine List.flatMap_eq_nil_iff.mpr fun turn member => ?_
  have performed := (exists_turn_iff {} (deferring count) turn.action).mp ⟨turn, member, rfl⟩
  rcases mem_deferring performed with ⟨marker, action⟩ | action <;> simp [Turn.placed, action]

theorem orderly_deferring (count : Nat) :
    Orderly 0 (turns {} (deferring count ++ completing)) := by
  have first : Allowed 0 [] {} (deferring count) :=
    ⟨.register rfl rfl (by decide) rfl, allowed_deferrals Nat.zero_lt_one rfl rfl count⟩
  refine (first.append ?_).orderly .start
  rw [after_deferring, List.nil_append]
  refine ⟨.enqueue rfl Nat.zero_lt_one rfl ?_ ?_, .complete 50 ?_, .answer _, trivial⟩
  · simp [placed_deferring]
  · simp [placed_deferring]
  · refine ⟨(⟨1, 0⟩, .chat 0 0), ?_, rfl, rfl⟩
    rw [placed_snoc]
    exact List.mem_append_right _ (List.mem_singleton_self _)

theorem deferred_deferring (count : Nat) :
    deferred (turns {} (deferring count ++ completing)) 0 = count := by
  rw [deferred, countP_turns fun _ => rfl, deferring, completing]
  simp [Turn.defers, List.countP_append, List.countP_replicate]

theorem signalled_deferring (count : Nat) :
    signalled (turns {} (deferring count ++ completing)) 0 = 0 := by
  rw [signalled, countP_turns fun _ => rfl, deferring, completing]
  simp [Turn.signals, List.countP_append, List.countP_replicate]

/-- The packet is not done, since it is never released. -/
theorem held_deferring {count : Nat} (owing : 0 < count) {p : Pipeline}
    (handed : HandedOver (turns {} (deferring count ++ completing)) 0 p) : p.entries 0 ≠ [] := by
  intro empty
  obtain ⟨turn, member, action⟩ := (exists_turn_iff {} (deferring count ++ completing)
    (.enqueue 0 (.chat 0 0))).mpr (by simp [completing])
  have stored : (⟨(turn.state.markers.get 0).newIndex, 0⟩, .chat 0 0) ∈
      placed (turns {} (deferring count ++ completing)) 0 :=
    List.mem_flatMap.mpr ⟨turn, member, by simp [Turn.placed, action, Event.chat]⟩
  rw [handed.held, List.dropWhile_eq_nil_iff] at empty
  obtain ⟨id, marked, -, even⟩ := settled_iff.mp (empty _ stored)
  obtain rfl : 0 = id := Option.some.inj marked
  rw [signalled_deferring, deferred_deferring] at even
  omega

/-- One deferral too many. -/
def overflown : List Action := deferring 2147483648 ++ completing

/-- A packet that was deferred once more than its counter can tell is handed over as soon as it is
complete, though none of its deferrals was released. -/
theorem not_handed_over_overflown :
    Run {} (turns {} overflown) (after {} overflown) ∧ Orderly 0 (turns {} overflown) ∧
      (after {} overflown).frames = [] ∧
      deferred (turns {} overflown) 0 = 2147483648 ∧ signalled (turns {} overflown) 0 = 0 ∧
      (after {} overflown).entries 0 = [] ∧
      ¬HandedOver (turns {} overflown) 0 (after {} overflown) := by
  have state : after {} overflown = (counting (-2147483648)).after completing := by
    rw [overflown, after_append, after_deferring]
    rfl
  have gone : (after {} overflown).entries 0 = [] := by
    rw [state]
    decide
  refine ⟨Run.ofActions {} _, orderly_deferring _, ?_, deferred_deferring _,
    signalled_deferring _, gone, fun handed => held_deferring (by decide) handed gone⟩
  rw [state]
  decide

end PacketFlow
