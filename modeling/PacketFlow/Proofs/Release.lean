import PacketFlow.Queue.Release

/-! What a release takes out.

The heads that a release takes are the longest run of first entries none of which has to wait.
Clearing the queued index of a packet that was taken changes neither the deadline nor the readiness
of any marker, so the fate of every entry can be read off the markers as they were at the start.
-/

set_option autoImplicit false

namespace PacketFlow

namespace Markers

theorem get_revise (markers : Markers) (id other : MarkerId) (change : Marker.Change) :
    (markers.revise id change).get other =
      if other = id then (markers.get id).apply change else markers.get other := rfl

theorem get_setQueued (markers : Markers) (id other : MarkerId) (index : Option UInt64) :
    (markers.setQueued id index).get other =
      if other = id then (markers.get id).apply (.queuedIndex index) else markers.get other := rfl

@[simp] theorem isExpiredAt_setQueued (markers : Markers) (id other : MarkerId)
    (index : Option UInt64) (now : UInt64) :
    ((markers.setQueued id index).get other).isExpiredAt now =
      (markers.get other).isExpiredAt now :=
  read_set (·.isExpiredAt now) (by rfl) other

@[simp] theorem isReady_setQueued (markers : Markers) (id other : MarkerId)
    (index : Option UInt64) :
    ((markers.setQueued id index).get other).isReady = (markers.get other).isReady :=
  read_set Marker.isReady (by rfl) other

theorem get_clearQueued (markers : Markers) (event : Event) (id : MarkerId) :
    (markers.clearQueued event).get id =
      if event.marker = some id then (markers.get id).apply (.queuedIndex .none)
      else markers.get id := by
  unfold clearQueued
  split
  next none => simp [none]
  next other marked =>
    rw [get_setQueued, marked]
    by_cases same : id = other
    · simp [same]
    · simp [same, Ne.symm same]

theorem get_foldl_clearQueued (events : List Event) (markers : Markers) (id : MarkerId) :
    (events.foldl clearQueued markers).get id =
      if ∃ event ∈ events, event.marker = some id then
        (markers.get id).apply (.queuedIndex .none)
      else markers.get id := by
  induction events generalizing markers with
  | nil => simp
  | cons event rest ih =>
    rw [List.foldl_cons, ih, get_clearQueued]
    simp only [List.mem_cons, exists_eq_or_imp]
    by_cases first : event.marker = some id
    · simp only [first, if_true, true_or]
      -- Clearing a record twice is clearing it once.
      split <;> rfl
    · simp only [first, if_false, false_or]

theorem count_foldl_clearQueued (events : List Event) (markers : Markers) :
    (events.foldl clearQueued markers).count = markers.count := by
  induction events generalizing markers with
  | nil => rfl
  | cons event rest ih =>
    rw [List.foldl_cons, ih]
    cases marked : event.marker <;> simp [clearQueued, marked, setQueued, revise]

end Markers

theorem Marker.isReady_iff {marker : Marker} : marker.isReady = true ↔
    (marker.processed = true ∨ marker.asyncCancelled = true) ∧
      marker.deferrals.outstanding ≤ 0 := by
  simp [isReady, isFinished, Deferrals.isHolding]

theorem Marker.isReady_eq_false_iff {marker : Marker} : marker.isReady = false ↔
    marker.processed = false ∧ marker.asyncCancelled = false ∨
      0 < marker.deferrals.outstanding := by
  simp only [isReady, isFinished, Deferrals.isHolding, Bool.and_eq_false_iff,
    Bool.or_eq_false_iff, Bool.not_eq_false', decide_eq_true_eq]

/-- What becomes of the first packet of a queue. -/
inductive Fate where
  /-- It has no marker. -/
  | stray
  /-- Its deadline has passed. -/
  | rejected
  /-- It is ready, and a listener cancelled it. -/
  | dropped
  | released
  /-- It is not ready. -/
  | held
  deriving DecidableEq

namespace Release

def fate (now : UInt64) (markers : Markers) (event : Event) : Fate :=
  match event.marker with
  | none => .stray
  | some id =>
    if (markers.get id).isExpiredAt now then .rejected
    else if (markers.get id).isReady then if event.cancelled then .dropped else .released
    else .held

@[simp] theorem fate_setQueued (now : UInt64) (markers : Markers) (id : MarkerId)
    (index : Option UInt64) (event : Event) :
    fate now (markers.setQueued id index) event = fate now markers event := by
  simp [fate]

@[simp] theorem fate_clearQueued (now : UInt64) (markers : Markers) (taken event : Event) :
    fate now (markers.clearQueued taken) event = fate now markers event := by
  unfold Markers.clearQueued
  split
  next => rfl
  next => exact fate_setQueued ..

theorem fate_eq_stray {now : UInt64} {markers : Markers} {event : Event} :
    fate now markers event = .stray ↔ event.marker = none := by
  unfold fate
  repeat' split
  all_goals simp_all

/-- The fate of an event that is transmitted says all that was checked. -/
theorem fate_eq_released {now : UInt64} {markers : Markers} {event : Event} :
    fate now markers event = .released ↔
      ∃ id, event.marker = some id ∧ (markers.get id).isExpiredAt now = false ∧
        (markers.get id).isReady = true ∧ event.cancelled = false := by
  unfold fate
  repeat' split
  all_goals simp_all

def parcel? (event : Event) : Option Parcel := event.marker.map fun id => ⟨id, event⟩

/-- The events that a release at a time takes out, in order. -/
def taken (now : UInt64) (entries : List Entry) (markers : Markers) : List Event :=
  (entries.takeWhile fun entry => fate now markers entry.2 ≠ .held).map (·.2)

theorem taken_clearQueued (now : UInt64) (entries : List Entry) (markers : Markers)
    (event : Event) :
    taken now entries (markers.clearQueued event) = taken now entries markers := by
  simp [taken]

theorem taken_cons_of_held {now : UInt64} {entry : Entry} {rest : List Entry} {markers : Markers}
    (held : fate now markers entry.2 = .held) : taken now (entry :: rest) markers = [] := by
  simp [taken, held]

theorem taken_cons {now : UInt64} {entry : Entry} {rest : List Entry} {markers : Markers}
    (leaves : fate now markers entry.2 ≠ .held) :
    taken now (entry :: rest) markers = entry.2 :: taken now rest markers := by
  simp [taken, leaves]

/-- A head that leaves is recorded, and the release goes on behind it. -/
theorem heads_cons {now : UInt64} {entry : Entry} {rest : List Entry} {markers : Markers} :
    heads now (entry :: rest) markers =
      let later := heads now rest (markers.clearQueued entry.2)
      match fate now markers entry.2 with
      | .stray => later
      | .rejected =>
        { later with
          expired := entry.2 :: later.expired
          notices := (entry.2.marker.map fun id =>
            .rejecting entry.2.type entry.2.player (markers.get id).timeout).toList ++
              later.notices }
      | .dropped =>
        { later with
          cancelled := later.cancelled + 1
          notices := .droppingCancelled entry.2.id :: later.notices }
      | .released => { later with batch := (parcel? entry.2).toList ++ later.batch }
      | .held => { left := entry :: rest, markers := markers } := by
  obtain ⟨key, event⟩ := entry
  cases marked : event.marker with
  | none => simp [heads, fate, Markers.clearQueued, marked]
  | some id =>
    simp only [heads, fate, Markers.clearQueued, parcel?, marked]
    split
    next => simp
    next =>
      split
      next => split <;> simp
      next => rfl

/-- A release leaves nothing for a second one. -/
theorem heads_again (now : UInt64) (entries : List Entry) (markers : Markers) :
    let first := heads now entries markers
    heads now first.left first.markers = { left := first.left, markers := first.markers } := by
  induction entries generalizing markers with
  | nil => rfl
  | cons entry rest ih =>
    rw [heads_cons]
    cases fated : fate now markers entry.2 with
    | held =>
      -- The head that had to wait is met again, with the records as they were.
      dsimp only
      rw [heads_cons, fated]
    | _ => exact ih _

section closedForm

variable (now : UInt64) (entries : List Entry) (markers : Markers)

theorem heads_left : (heads now entries markers).left =
    entries.dropWhile fun entry => fate now markers entry.2 ≠ .held := by
  induction entries generalizing markers with
  | nil => rfl
  | cons entry rest ih =>
    rw [heads_cons, List.dropWhile_cons]
    cases fated : fate now markers entry.2 <;> simp [ih]

theorem heads_markers : (heads now entries markers).markers =
    (taken now entries markers).foldl Markers.clearQueued markers := by
  induction entries generalizing markers with
  | nil => rfl
  | cons entry rest ih =>
    rw [heads_cons]
    cases fated : fate now markers entry.2 with
    | held => rw [taken_cons_of_held fated]; rfl
    | _ =>
      -- What is taken out later can be read off the markers before the head was cleared.
      rw [taken_cons (by simp [fated]), List.foldl_cons, ← taken_clearQueued _ _ _ entry.2]
      exact ih _

theorem heads_batch : (heads now entries markers).batch =
    ((taken now entries markers).filter fun event => fate now markers event = .released).filterMap
      parcel? := by
  induction entries generalizing markers with
  | nil => rfl
  | cons entry rest ih =>
    rw [heads_cons]
    cases fated : fate now markers entry.2 with
    | held => rw [taken_cons_of_held fated]; rfl
    | released =>
      obtain ⟨id, marked, _⟩ := fate_eq_released.mp fated
      rw [taken_cons (by simp [fated])]
      simp [ih, taken_clearQueued, fated, parcel?, marked]
    | _ =>
      rw [taken_cons (by simp [fated])]
      simp [ih, taken_clearQueued, fated]

theorem heads_expired : (heads now entries markers).expired =
    (taken now entries markers).filter fun event => fate now markers event = .rejected := by
  induction entries generalizing markers with
  | nil => rfl
  | cons entry rest ih =>
    rw [heads_cons]
    cases fated : fate now markers entry.2 with
    | held => rw [taken_cons_of_held fated]; rfl
    | _ =>
      rw [taken_cons (by simp [fated])]
      simp [ih, taken_clearQueued, fated]

theorem heads_cancelled : (heads now entries markers).cancelled =
    (taken now entries markers).countP fun event => fate now markers event = .dropped := by
  induction entries generalizing markers with
  | nil => rfl
  | cons entry rest ih =>
    rw [heads_cons]
    cases fated : fate now markers entry.2 with
    | held => rw [taken_cons_of_held fated]; rfl
    | _ =>
      rw [taken_cons (by simp [fated])]
      simp [ih, taken_clearQueued, fated]

end closedForm

end Release

end PacketFlow
