import PacketFlow.Proofs.Labels
import PacketFlow.Proofs.Order

/-! Tickets whose markers are not queued.

Such a ticket moves nothing. A removal, however, takes a marker that is not queued for one that is
queued under index zero. What it takes out then is the event of the ticket, queued under that index
with another marker, which goes on recording the index.
-/

set_option autoImplicit false

namespace PacketFlow

/-- What is recorded already can be written again. -/
theorem Markers.setQueued_self {markers : Markers} {id : MarkerId} {index : Option UInt64}
    (same : (markers.get id).queuedIndex = index) : markers.setQueued id index = markers := by
  subst same
  simp only [setQueued, revise, set, Marker.apply]
  congr 1
  funext other
  split
  next here => rw [here]
  next => rfl

open Pipeline

/-- What a ticket whose marker is not queued can do to a queue after a history. -/
structure UnqueuedTicket (history : List Turn) (p : Pipeline) (queue : QueueId)
    (ticket : Ticket) : Prop where
  stays : p.step (.reposition queue ticket) = { reply := .moved false, state := p }
  /-- Nothing is taken out unless the queue holds the event of the ticket under index zero. -/
  keeps : (∀ event, (⟨0, ticket.event⟩, event) ∉ p.entries queue) →
    p.step (.remove queue ticket) = { reply := .removed none, state := p }
  /-- An event that it holds there is taken out, and no marker is told. -/
  takes : ∀ event, (⟨0, ticket.event⟩, event) ∈ p.entries queue →
    p.step (.remove queue ticket) =
      { reply := .removed (some event)
        state := p.hold queue ((p.queues queue).backlog.erase ⟨0, ticket.event⟩) p.markers }
  /-- The event was queued or moved under that index. -/
  came : ∀ event, (⟨0, ticket.event⟩, event) ∈ p.entries queue → ∃ turn ∈ history,
    turn.state.Enters turn.action queue (⟨0, ticket.event⟩, event) ∨
      turn.state.MovesTo turn.action queue (⟨0, ticket.event⟩, event)
  /-- Unless markers were shared, the event has another marker than the ticket names, and that one
  records the index. -/
  replaced : (∀ turn ∈ history, turn.Unshared) →
    ∀ event, (⟨0, ticket.event⟩, event) ∈ p.entries queue → ∃ other, event.marker = some other ∧
      other ≠ ticket.marker ∧ (p.markers.get other).queuedIndex = some 0

/-- After every run, a ticket whose marker is not queued takes out at most its event, and only from
index zero. -/
theorem unqueued_ticket {history : List Turn} {p : Pipeline} (run : Run {} history p)
    {ticket : Ticket} (unqueued : (p.markers.get ticket.marker).queuedIndex = none)
    (queue : QueueId) : UnqueuedTicket history p queue ticket := by
  have unlocked := run.guarded.unlocked queue
  have key : p.removalKey ticket = ⟨0, ticket.event⟩ := by
    rw [removalKey, Marker.queuedOrZero, unqueued]
    rfl
  constructor
  case stays =>
    apply step_reposition_of_not_moves unlocked
    rintro old event ⟨queued, _⟩
    rw [unqueued] at queued
    cases queued
  case keeps =>
    intro absent
    exact step_remove_of_absent unlocked (key ▸ absent)
  case takes =>
    intro event member
    rw [← key] at member ⊢
    rw [step_remove unlocked member, Markers.setQueued_self unqueued]
  case came =>
    intro event member
    rcases run.mem_entries guarded_empty member with initial | arrives
    · cases initial
    · exact arrives
  case replaced =>
    intro unshared event member
    obtain ⟨other, marked, _, recorded⟩ := (run.labelled unshared).recorded queue _ member
    refine ⟨other, marked, ?_, recorded⟩
    rintro rfl
    rw [unqueued] at recorded
    cases recorded

/-- An event is queued and removed, given another marker, and queued under index zero. -/
def markedAgain : List Action :=
  [.register (.fresh 0 5 0 (.ofMillis 100)), .register (.fresh 0 0 0 (.ofMillis 100)),
    .enqueue 0 (.chat 0 0), .remove 0 ⟨0, 0⟩, .enqueue 0 (.chat 0 1)]

theorem unshared_markedAgain : ∀ turn ∈ turns {} markedAgain, turn.Unshared := by
  rintro ⟨p, action⟩ member
  simp only [markedAgain, turns, List.mem_cons, List.not_mem_nil, or_false,
    Turn.mk.injEq] at member
  rcases member with ⟨-, rfl⟩ | ⟨-, rfl⟩ | ⟨before, rfl⟩ | ⟨before, rfl⟩ | ⟨before, rfl⟩
  all_goals constructor
  -- Both enqueues find every queue empty, and the removal finds the event with its first marker.
  case inr.inr.inl.registered | inr.inr.inr.inr.registered =>
    rintro _ _ _ ⟨⟩ ⟨⟩
    rw [before]
    decide
  case inr.inr.inl.unused | inr.inr.inr.inr.unused =>
    rintro _ _ _ ⟨⟩ ⟨⟩ other entry inside
    rw [before] at inside
    cases other <;> cases inside
  case inr.inr.inr.inl.current =>
    rintro _ ⟨⟩ queue entry inside _
    rw [before] at inside
    cases queue with
    | zero =>
      rw [List.mem_singleton.mp inside]
      rfl
    | succ => cases inside
  all_goals first
    | rintro _ ⟨⟩
      done
    | rintro _ _ ⟨⟩
      done
    | rintro _ _ _ ⟨⟩

theorem unqueued_ticket_markedAgain :
    Run {} (turns {} markedAgain) (after {} markedAgain) ∧
      ((after {} markedAgain).markers.get 0).queuedIndex = none ∧
      UnqueuedTicket (turns {} markedAgain) (after {} markedAgain) 0 ⟨0, 0⟩ :=
  ⟨Run.ofActions {} markedAgain, rfl, unqueued_ticket (Run.ofActions {} markedAgain) rfl 0⟩

/-- The ticket of a marker that the event has no longer takes the event out, and the marker that it
has goes on recording that it is queued. -/
theorem takes_markedAgain :
    let p := after {} markedAgain
    let removal := p.step (.remove 0 ⟨0, 0⟩)
    Run {} (turns {} markedAgain) p ∧ (∀ turn ∈ turns {} markedAgain, turn.Unshared) ∧
      (p.markers.get 0).queuedIndex = none ∧ removal.reply = .removed (some (.chat 0 1)) ∧
      removal.state.entries 0 = [] ∧ (removal.state.markers.get 1).queuedIndex = some 0 :=
  ⟨Run.ofActions {} markedAgain, unshared_markedAgain, rfl, rfl, rfl, rfl⟩

end PacketFlow
