import PacketFlow.Proofs.Run

/-! How the entries of a queue change.

An entry comes into a queue by an enqueue or by a move, and by nothing else. Storing under a key
that is free adds one entry, erasing a stored key takes one away.
-/

set_option autoImplicit false

namespace PacketFlow

namespace Backlog

/-- Storing under a free key adds one entry and disturbs no other. -/
theorem insert_perm {backlog : Backlog} {key : Key} {event : Event}
    (free : ∀ entry ∈ backlog.entries, entry.1 ≠ key) :
    (backlog.insert key event).entries.Perm ((key, event) :: backlog.entries) := by
  -- No stored key is equal, so each one is on exactly one side of the new key.
  have apart : ∀ entry ∈ backlog.entries, key.lt entry.1 = !entry.1.lt key := by
    intro entry member
    cases low : entry.1.lt key with
    | true =>
      exact Key.lt_asymm low
    | false =>
      cases high : key.lt entry.1 with
      | true => rfl
      | false => exact absurd (Key.lt_connected low high) (free entry member)
  have upper : backlog.entries.filter (key.lt ·.1) = backlog.entries.filter (!·.1.lt key) :=
    List.filter_congr apart
  simp only [insert]
  rw [upper]
  exact List.perm_middle.trans ((List.filter_append_perm _ _).cons _)

/-- Storing under a key above all others puts the entry last. -/
theorem entries_insert_of_above {backlog : Backlog} {key : Key} {event : Event}
    (above : ∀ entry ∈ backlog.entries, entry.1.lt key = true) :
    (backlog.insert key event).entries = backlog.entries ++ [(key, event)] := by
  have lower : backlog.entries.filter (·.1.lt key) = backlog.entries :=
    List.filter_eq_self.mpr above
  have upper : backlog.entries.filter (key.lt ·.1) = [] := by
    apply List.filter_eq_nil_iff.mpr
    intro entry member
    rw [Key.lt_asymm (above entry member)]
    exact Bool.false_ne_true
  simp only [insert]
  rw [lower, upper]

/-- Erasing a stored key takes one entry away and disturbs no other. -/
theorem erase_perm {backlog : Backlog} {key : Key} {event : Event}
    (member : (key, event) ∈ backlog.entries) :
    backlog.entries.Perm ((key, event) :: (backlog.erase key).entries) := by
  obtain ⟨entries, ascending⟩ := backlog
  -- Keys ascend, so no entry behind the erased one has its key.
  induction ascending with
  | nil => cases member
  | @cons first rest before later ih =>
    simp only [erase] at ih ⊢
    rcases List.mem_cons.mp member with same | further
    · subst same
      have kept : rest.filter (·.1 ≠ key) = rest := by
        apply List.filter_eq_self.mpr
        intro entry inside
        have low := before entry inside
        simpa using (Key.ne_of_lt low).symm
      rw [List.filter_cons_of_neg (by simp), kept]
    · have different : first.1 ≠ key := Key.ne_of_lt (before _ further)
      rw [List.filter_cons_of_pos (by simpa using different)]
      exact ((ih further).cons first).trans (.swap ..)

theorem partition_perm (backlog : Backlog) (test : Entry → Bool) :
    backlog.entries.Perm ((backlog.partition test).1 ++ (backlog.partition test).2.entries) :=
  (List.filter_append_perm test backlog.entries).symm

end Backlog

namespace Pipeline

@[simp] theorem entries_hold (p : Pipeline) (queue other : QueueId) (backlog : Backlog)
    (markers : Markers) : (p.hold queue backlog markers).entries other =
      if other = queue then backlog.entries else p.entries other := by
  simp only [entries, queues_hold]
  split <;> rfl

/-- Flags of a queue can be set without touching what it holds. -/
theorem entries_setQueue (p : Pipeline) {queue : QueueId} {new : Queue}
    (same : new.backlog = (p.queues queue).backlog) (other : QueueId) :
    (p.setQueue queue new).entries other = p.entries other := by
  simp only [entries, setQueue]
  split
  next here => rw [same, here]
  next => rfl

@[simp] theorem entries_begin (p : Pipeline) (queue other : QueueId) :
    (p.begin queue).entries other = p.entries other :=
  entries_setQueue p (by rfl) other

@[simp] theorem entries_rest (p : Pipeline) (queue other : QueueId) :
    (p.rest queue).entries other = p.entries other :=
  entries_setQueue p (by rfl) other

@[simp] theorem entries_mark (p : Pipeline) (queue other : QueueId) :
    (p.mark queue).entries other = p.entries other :=
  entries_setQueue p (by rfl) other

@[simp] theorem entries_prepared (p : Pipeline) (action : Action) (queue : QueueId) :
    (p.prepared action).entries queue = p.entries queue := by
  simp only [entries, queues_prepared]

@[simp] theorem entries_delivered (p : Pipeline) (parcel : Parcel) (outcome : Outcome)
    (queue : QueueId) : (p.delivered parcel outcome).entries queue = p.entries queue := by
  simp only [entries, queues_delivered]

@[simp] theorem entries_popped (p : Pipeline) (queue : QueueId) :
    p.popped.entries queue = p.entries queue := rfl

@[simp] theorem entries_push (p : Pipeline) (frame : Frame) (queue : QueueId) :
    (p.push frame).entries queue = p.entries queue := rfl

@[simp] theorem entries_looked (p : Pipeline) (queue other : QueueId) (now : UInt64) :
    (p.looked queue now).entries other =
      if other = queue then (p.released queue now).left else p.entries other := by
  rw [looked, entries_hold]
  rfl

@[simp] theorem entries_advance (p : Pipeline) (queue other : QueueId) (now : UInt64)
    (report : Report) (notices : List Notice) :
    (p.advance queue now report notices).state.entries other =
      (p.looked queue now).entries other := by
  cases batch : (p.released queue now).batch with
  | nil => rw [advance_of_nil batch, entries_rest]
  | cons parcel waiting =>
    rw [advance_of_cons batch]
    rfl

theorem markers_advance (p : Pipeline) (queue : QueueId) (now : UInt64) (report : Report)
    (notices : List Notice) : (p.advance queue now report notices).state.markers =
      (p.looked queue now).markers := by
  cases batch : (p.released queue now).batch with
  | nil => rw [advance_of_nil batch]; rfl
  | cons => rw [advance_of_cons batch]; rfl

/-- A look only takes entries out. -/
theorem mem_of_mem_looked {p : Pipeline} {queue other : QueueId} {now : UInt64} {entry : Entry}
    (member : entry ∈ (p.looked queue now).entries other) : entry ∈ p.entries other := by
  rw [entries_looked] at member
  split at member
  next same =>
    rw [same]
    exact (Release.left_suffix now _ p.markers).mem member
  next => exact member

/-- The entries of a queue stand in the order of their keys. -/
theorem ascending (p : Pipeline) (queue : QueueId) :
    (p.entries queue).Pairwise fun a b => a.1.lt b.1 = true :=
  (p.queues queue).backlog.ascending

/-- An action puts an event into a queue. -/
def Enters (p : Pipeline) (action : Action) (queue : QueueId) (entry : Entry) : Prop :=
  ∃ event marker, action = .enqueue queue event ∧ event.marker = some marker ∧
    entry = (⟨(p.markers.get marker).newIndex, event.id⟩, event)

/-- An action moves an event within a queue, from one key to that of an entry. -/
def MovesTo (p : Pipeline) (action : Action) (queue : QueueId) (entry : Entry) : Prop :=
  ∃ ticket old event, action = .reposition queue ticket ∧ p.Moves queue ticket old event ∧
    entry = (⟨(p.markers.get ticket.marker).newIndex, ticket.event⟩, event)

/-- An entry of a queue was there before the action, unless the action put or moved it there. -/
theorem Effect.mem_entries {p : Pipeline} {action : Action} {step : Step}
    (effect : Effect p action step) {queue : QueueId} {entry : Entry}
    (member : entry ∈ step.state.entries queue) :
    entry ∈ p.entries queue ∨ p.Enters action queue entry ∨ p.MovesTo action queue entry := by
  cases effect with
  | register | revise | send | refuse | stay | miss | count | idle => exact .inl member
  | @enqueue other event marker marked =>
    rw [entries_hold] at member
    split at member
    next same =>
      subst same
      rcases Backlog.mem_insert.mp member with new | old
      · exact .inr (.inl ⟨event, marker, rfl, marked, new⟩)
      · exact .inl old.1
    next => exact .inl member
  | @move other ticket old event moves =>
    rw [entries_hold] at member
    split at member
    next same =>
      subst same
      rcases Backlog.mem_insert.mp member with new | kept
      · exact .inr (.inr ⟨ticket, old, event, rfl, moves, new⟩)
      · exact .inl (Backlog.mem_erase.mp kept.1).1
    next => exact .inl member
  | withhold => exact .inl (by simpa using member)
  | wait => exact .inl (by simpa using member)
  | begin =>
    rw [entries_advance] at member
    exact .inl (by simpa using mem_of_mem_looked member)
  | evict other now =>
    rw [entries_hold] at member
    split at member
    next same =>
      subst same
      exact .inl (Backlog.mem_partition.mp member).1
    next => exact .inl member
  | @remove other ticket =>
    rw [entries_hold] at member
    split at member
    next same =>
      subst same
      exact .inl (Backlog.mem_erase.mp member).1
    next => exact .inl member
  | sent => exact .inl (by simpa using member)
  | next => exact .inl (by simpa [transmit] using member)
  | last =>
    rw [entries_advance] at member
    exact .inl (by simpa using mem_of_mem_looked member)

end Pipeline

end PacketFlow
