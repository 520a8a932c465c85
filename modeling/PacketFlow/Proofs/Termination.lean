import PacketFlow.Proofs.Fixpoint
import PacketFlow.Proofs.Reentry

/-! Every send comes to its end.

Streams may ask for another look with every call that they are given, so it is not the mark that
runs out. A packet is handed over at most once for each time that it stood in the queue: a turn pays
for its calls with packets that were there, or that it puts in. A send whose streams put in finitely
many packets makes finitely many calls, and when each of them is answered it returns.
-/

set_option autoImplicit false

namespace PacketFlow

/-- A release takes each entry once, and leaves the others. -/
theorem Release.length_heads (now : UInt64) (entries : List Entry) (markers : Markers) :
    let released := heads now entries markers
    released.left.length + released.batch.length ≤ entries.length := by
  have parts : (entries.takeWhile fun entry => fate now markers entry.2 ≠ .held).length +
      (entries.dropWhile fun entry => fate now markers entry.2 ≠ .held).length =
        entries.length := by
    rw [← List.length_append, List.takeWhile_append_dropWhile]
  have batch : (heads now entries markers).batch.length ≤ (taken now entries markers).length := by
    rw [heads_batch]
    exact Nat.le_trans (List.length_filterMap_le ..) (List.length_filter_le ..)
  rw [taken, List.length_map] at batch
  dsimp only
  rw [heads_left]
  omega

namespace Backlog

theorem length_insert_le (backlog : Backlog) (key : Key) (event : Event) :
    (backlog.insert key event).entries.length ≤ backlog.entries.length + 1 := by
  -- What comes behind the key does not come before it.
  have apart : backlog.entries.countP (key.lt ·.1) ≤ backlog.entries.countP (!·.1.lt key) := by
    apply List.countP_mono_left
    intro entry _ high
    rw [Key.lt_asymm high]
    rfl
  have size : (backlog.insert key event).entries.length =
      backlog.entries.countP (·.1.lt key) + (backlog.entries.countP (key.lt ·.1) + 1) := by
    simp [insert, List.countP_eq_length_filter]
  have parts : backlog.entries.countP (·.1.lt key) + backlog.entries.countP (!·.1.lt key) =
      backlog.entries.length := by
    rw [List.countP_eq_length_filter, List.countP_eq_length_filter, ← List.length_append]
    exact (List.filter_append_perm ..).length_eq
  omega

theorem length_erase_le (backlog : Backlog) (key : Key) :
    (backlog.erase key).entries.length ≤ backlog.entries.length :=
  List.length_filter_le ..

theorem length_erase_of_mem {backlog : Backlog} {key : Key} {event : Event}
    (member : (key, event) ∈ backlog.entries) :
    (backlog.erase key).entries.length + 1 = backlog.entries.length :=
  (erase_perm member).length_eq.symm

end Backlog

namespace Pipeline

/-- How many packets a queue could still hand over: those it holds, and those that wait for their
calls. -/
def ahead (p : Pipeline) (queue : QueueId) : Nat :=
  (p.entries queue).length + (p.waiting queue).length

end Pipeline

open Pipeline

/-- A turn takes out what the queue held. -/
theorem Turn.length_entries {turn : Turn} (guarded : turn.state.Guarded) (queue : QueueId) :
    (turn.step.state.entries queue).length + (turn.takings queue).length ≤
      (turn.state.entries queue).length + (turn.entered queue).length := by
  cases looks : turn.look? with
  | some look =>
    have taken := look_taken guarded looks
    obtain ⟨report, notices, step⟩ := taken.step
    rw [step, entries_advance, entries_looked, takings_of_look looks, Look.takings,
      ← taken.entries queue]
    by_cases own : queue = look.queue
    · subst own
      have few := Release.length_heads look.now (look.state.entries look.queue) look.state.markers
      dsimp only at few
      rw [← Release.map_parcel_takings, List.length_map] at few
      rw [if_pos rfl, if_pos rfl]
      exact Nat.le_trans few (Nat.le_add_right ..)
    · rw [if_neg own, if_neg (Ne.symm own)]
      exact Nat.le_add_right ..
  | none =>
    have nothing : turn.takings queue = [] := by rw [takings, looks]; rfl
    rw [nothing, List.length_nil, Nat.add_zero]
    obtain ⟨p, action⟩ := turn
    have effect := step_effect guarded.unlocked action
    simp only [entered, step] at *
    generalize p.step action = step at effect ⊢
    cases effect with
    | register | revise | send | refuse | stay | miss | count | idle => exact Nat.le_add_right ..
    | @enqueue other event marker =>
      rw [entries_hold]
      split
      next same =>
        subst same
        simpa [entries] using Backlog.length_insert_le ..
      next => exact Nat.le_add_right ..
    | @move other ticket old event moves =>
      rw [entries_hold]
      split
      next same =>
        subst same
        have gone := Backlog.length_erase_of_mem moves.2.2
        have back := Backlog.length_insert_le ((p.queues queue).backlog.erase ⟨old, ticket.event⟩)
          ⟨(p.markers.get ticket.marker).newIndex, ticket.event⟩ event
        rw [gone] at back
        exact Nat.le_trans back (Nat.le_add_right ..)
      next => exact Nat.le_add_right ..
    | withhold => simp
    | wait => simp
    | begin asked idle =>
      rw [look?_of_begin asked idle] at looks
      cases looks
    | evict other now =>
      rw [entries_hold]
      split
      next same =>
        subst same
        exact Nat.le_trans (List.length_filter_le ..) (Nat.le_add_right ..)
      next => exact Nat.le_add_right ..
    | remove =>
      rw [entries_hold]
      split
      next same =>
        subst same
        exact Nat.le_trans (Backlog.length_erase_le ..) (Nat.le_add_right ..)
      next => exact Nat.le_add_right ..
    | sent => simp
    | next => simp [transmit]
    | last outcome framed =>
      rw [look?_of_last outcome framed] at looks
      cases looks

/-- A turn pays for its calls. -/
theorem Turn.pays {turn : Turn} (guarded : turn.state.Guarded) (queue : QueueId) :
    (turn.calls queue).length + turn.step.state.ahead queue ≤
      turn.state.ahead queue + (turn.entered queue).length := by
  have orders := congrArg List.length (turn.orders guarded queue)
  have taken := turn.length_entries guarded queue
  rw [List.length_append, List.length_append, List.length_map] at orders
  simp only [calls, ahead]
  omega

theorem Run.pays {start p : Pipeline} {history : List Turn} (run : Run start history p)
    (guarded : start.Guarded) (queue : QueueId) :
    (history.flatMap (Turn.calls queue)).length + p.ahead queue ≤
      start.ahead queue + (history.flatMap (Turn.entered queue)).length := by
  induction run with
  | start => simp
  | @perform history p run action ih =>
    have last := @Turn.pays ⟨p, action⟩ (run.keeps Guarded.step guarded) queue
    simp only [Turn.step] at last
    simp only [List.flatMap_append, List.flatMap_singleton, List.length_append]
    omega

namespace Pipeline

/-- The states of a process that performs one action after the other, without end. -/
def reached (p : Pipeline) (schedule : Nat → Action) : Nat → Pipeline
  | 0 => p
  | time + 1 => ((p.reached schedule time).step (schedule time)).state

def turnAt (p : Pipeline) (schedule : Nat → Action) (time : Nat) : Turn :=
  ⟨p.reached schedule time, schedule time⟩

/-- The first turns of an endless schedule. -/
def opening (p : Pipeline) (schedule : Nat → Action) (count : Nat) : List Turn :=
  (List.range count).map (p.turnAt schedule)

/-- The send of a queue is under way after each of the first turns. -/
def Sending (p : Pipeline) (schedule : Nat → Action) (queue : QueueId) (count : Nat) : Prop :=
  ∀ time < count, ((p.reached schedule (time + 1)).queues queue).draining = true

section schedules

variable {p : Pipeline} {schedule : Nat → Action} {queue : QueueId}

theorem opening_succ (count : Nat) :
    p.opening schedule (count + 1) = p.opening schedule count ++ [p.turnAt schedule count] := by
  rw [opening, List.range_succ, List.map_append]
  rfl

theorem run_opening (p : Pipeline) (schedule : Nat → Action) (count : Nat) :
    Run p (p.opening schedule count) (p.reached schedule count) := by
  induction count with
  | zero => exact .start
  | succ count ih =>
    rw [opening_succ]
    exact ih.perform (schedule count)

/-- What a turn adds to what was answered is never taken back. -/
theorem answered_opening_mono (p : Pipeline) (schedule : Nat → Action) (queue : QueueId)
    {early late : Nat} (before : early ≤ late) :
    ((p.opening schedule early).flatMap (Turn.answered queue)).length ≤
      ((p.opening schedule late).flatMap (Turn.answered queue)).length := by
  induction before with
  | refl => exact Nat.le_refl _
  | step _ ih =>
    rw [opening_succ, List.flatMap_append, List.length_append]
    omega

/-- A send that does not go on for ever ends with some turn. -/
theorem exists_last_of_not_sending {count : Nat} (stops : ¬p.Sending schedule queue count) :
    ∃ last, p.Sending schedule queue last ∧
      ((p.reached schedule (last + 1)).queues queue).draining = false := by
  induction count with
  | zero => exact absurd (fun _ early => absurd early (Nat.not_lt_zero _)) stops
  | succ count ih =>
    by_cases sending : p.Sending schedule queue count
    · refine ⟨count, sending, Bool.eq_false_iff.mpr fun under => stops fun time early => ?_⟩
      rcases Nat.lt_succ_iff_lt_or_eq.mp early with before | rfl
      · exact sending time before
      · exact under
    · exact ih sending

/-- While a send goes on and every call is answered, there are more answers than any number. -/
theorem exists_answered (guarded : p.Guarded) (sending : ∀ count, p.Sending schedule queue count)
    (answers : ∀ time, (p.reached schedule time).atStream queue ≠ [] →
      ∃ later ≥ time, (p.turnAt schedule later).answered queue ≠ []) (number : Nat) :
    ∃ count, number ≤ ((p.opening schedule count).flatMap (Turn.answered queue)).length := by
  induction number with
  | zero => exact ⟨0, Nat.zero_le _⟩
  | succ number ih =>
    obtain ⟨count, enough⟩ := ih
    have under := sending (count + 1) count (Nat.lt_succ_self _)
    have kept := (run_opening p schedule (count + 1)).keeps Guarded.step guarded
    -- The send is under way after that turn, so a call of it waits.
    have waits : (p.reached schedule (count + 1)).atStream queue ≠ [] := by
      rw [← List.length_pos_iff, length_atStream]
      exact (kept.draining_iff queue).mp under
    obtain ⟨later, after, answered⟩ := answers _ waits
    have before : count ≤ later := Nat.le_of_succ_le after
    have more := List.length_pos_iff.mpr answered
    have mono := answered_opening_mono p schedule queue before
    refine ⟨later + 1, ?_⟩
    rw [opening_succ, List.flatMap_append, List.length_append, List.flatMap_singleton]
    omega

end schedules

end Pipeline

/-- What becomes of a send that an endless schedule begins with, of a queue of some size. -/
structure Terminates (p : Pipeline) (schedule : Nat → Action) (queue : QueueId) (size : Nat) :
    Prop where
  /-- At any time, no more packets have been handed over than were there or were put in. -/
  calls : ∀ count, ((p.opening schedule count).flatMap (Turn.calls queue)).length ≤
    size + ((p.opening schedule count).flatMap (Turn.entered queue)).length
  /-- When its streams put in no more than some number of packets, and answer each call, the send
  returns its report. -/
  returns : ∀ extra,
    (∀ count, p.Sending schedule queue count →
      ((p.opening schedule (count + 1)).flatMap (Turn.entered queue)).length ≤ extra) →
    (∀ time, p.Sending schedule queue time → (p.reached schedule time).atStream queue ≠ [] →
      ∃ later ≥ time, (p.turnAt schedule later).answered queue ≠ []) →
    ∃ last report, p.Sending schedule queue last ∧
      (p.turnAt schedule last).step.reply = .reported report ∧
      ((p.reached schedule (last + 1)).queues queue).draining = false ∧
      ((p.opening schedule (last + 1)).flatMap (Turn.calls queue)).length ≤ size + extra

/-- A send whose streams put in finitely many packets ends, whatever else they do and however often
they ask for another one. -/
theorem terminates {p : Pipeline} (guarded : p.Guarded) {schedule : Nat → Action}
    {queue : QueueId} {now : UInt64} (begins : (p.turnAt schedule 0).begins? queue = some now) :
    Terminates p schedule queue (p.entries queue).length := by
  have free : p.sends queue = 0 := Turn.free_of_begins guarded begins
  have calls (count : Nat) : ((p.opening schedule count).flatMap (Turn.calls queue)).length ≤
      (p.entries queue).length +
        ((p.opening schedule count).flatMap (Turn.entered queue)).length := by
    have pays := (run_opening p schedule count).pays guarded queue
    simp only [ahead, waiting_of_free free, List.length_nil] at pays
    omega
  refine ⟨calls, fun extra few answers => ?_⟩
  -- A send that went on for ever would have had more answers than it can have made calls.
  have stops : ∃ count, ¬p.Sending schedule queue count := by
    apply Classical.not_forall.mp
    intro sending
    obtain ⟨count, many⟩ := exists_answered guarded sending
      (fun time => answers time (sending time)) ((p.entries queue).length + extra + 1)
    have later := answered_opening_mono p schedule queue (Nat.le_add_right count 1)
    have balance := congrArg List.length
      ((run_opening p schedule (count + 1)).balance_from guarded queue)
    rw [List.length_append, List.length_append, length_atStream, free] at balance
    have paid := calls (count + 1)
    have entered := few count (sending count)
    omega
  obtain ⟨count, stops⟩ := stops
  obtain ⟨last, sending, freed⟩ := exists_last_of_not_sending stops
  have kept := (run_opening p schedule last).keeps Guarded.step guarded
  -- The last turn of the send is a look that takes nothing to transmit.
  obtain ⟨look, looks, rfl⟩ : ∃ look, (p.turnAt schedule last).look? = some look ∧
      look.queue = queue := by
    cases last with
    | zero => exact Turn.look_of_begins begins
    | succ before => exact Turn.look_of_freed kept (sending before (Nat.lt_succ_self _)) freed
  have taken := Turn.look_taken kept looks
  obtain ⟨report, notices, step⟩ := taken.step
  have ended : ((p.turnAt schedule last).step.state.queues look.queue).draining = false := freed
  rw [step] at ended
  obtain ⟨final, reported⟩ := taken.looking.reports_of_freed ended
  refine ⟨last, final, sending, by rw [step, reported], freed, ?_⟩
  have paid := calls (last + 1)
  have entered := few last sending
  omega

/-- Two packets are queued and the first is ready. While it is at the stream a third one is put in,
and both others are completed, which asks for more sends. -/
def refilled : List Action :=
  [.trySend 0 100, .enqueue 0 (.chat 2 2), .complete 0 ⟨2, 2⟩ 200, .complete 0 ⟨1, 1⟩ 90,
    .trySend 0 100, .answer (.ok ()), .trySend 0 100, .answer (.error (.access "closed")),
    .answer (.ok ())]

def twoQueued : Pipeline :=
  after {} [.register (.fresh 0 1 0 (.ofMillis 500)), .register (.fresh 0 2 0 (.ofMillis 500)),
    .register (.fresh 0 3 0 (.ofMillis 500)), .enqueue 0 (.chat 0 0), .enqueue 0 (.chat 1 1),
    .revise 0 (.processed true)]

theorem terminates_refilled :
    let schedule (time : Nat) := refilled.getD time (.count 0)
    twoQueued.Guarded ∧ (twoQueued.turnAt schedule 0).begins? 0 = some 100 ∧
      Terminates twoQueued schedule 0 (twoQueued.entries 0).length ∧
      ((twoQueued.opening schedule 9).flatMap (Turn.calls 0)).map (·.2.event.id) = [0, 1, 2] ∧
      (twoQueued.opening schedule 9).flatMap (Turn.entered 0) = [.chat 2 2] ∧
      ((twoQueued.reached schedule 8).queues 0).draining = true ∧
      ((twoQueued.reached schedule 9).queues 0).draining = false := by
  intro schedule
  have guarded : twoQueued.Guarded := (Run.ofActions {} _).guarded
  have begins : (twoQueued.turnAt schedule 0).begins? 0 = some 100 := by decide
  exact ⟨guarded, begins, terminates guarded begins, by decide, by decide, by decide, by decide⟩

end PacketFlow
