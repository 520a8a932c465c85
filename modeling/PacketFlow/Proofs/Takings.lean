import PacketFlow.Proofs.Run

/-! The moment at which a packet is taken out of its queue.

A release takes one head after the other. Here each packet that it takes out to transmit is written
down with what was true at that moment: what the queue still held behind it, and the records of the
markers, which have changed since the release began only in the queued indices of packets taken out
earlier.
-/

set_option autoImplicit false

namespace PacketFlow

/-- A packet that is taken out to be transmitted. -/
structure Taking where
  now : UInt64
  key : Key
  parcel : Parcel
  /-- What the queue still holds. -/
  behind : List Entry
  markers : Markers

namespace Taking

/-- What is handed to the stream, and the time of the send. -/
def sending (taking : Taking) : UInt64 × Parcel := (taking.now, taking.parcel)

def marker (taking : Taking) : Marker := taking.markers.get taking.parcel.marker

/-- The packet comes first in its queue, its deadline has not passed, its listeners have finished or
will not be waited for, no deferral is outstanding, and nobody has cancelled it. -/
structure Due (taking : Taking) : Prop where
  own : taking.parcel.event.marker = some taking.parcel.marker
  least : ∀ entry ∈ taking.behind, taking.key.lt entry.1 = true
  timely : taking.now ≤ taking.marker.timeout
  finished : taking.marker.processed = true ∨ taking.marker.asyncCancelled = true
  settled : taking.marker.deferrals.outstanding ≤ 0
  uncancelled : taking.parcel.event.cancelled = false

/-- The moment at which a packet is taken out in a release that began with some entries: those
before it have left, and its own fate is to be released. -/
structure Moment (taking : Taking) (now : UInt64) (entries before : List Entry)
    (markers : Markers) : Prop where
  split : entries = before ++ (taking.key, taking.parcel.event) :: taking.behind
  left : (Release.heads now before markers).left = []
  now_eq : taking.now = now
  markers_eq : taking.markers = (Release.heads now before markers).markers
  released : Release.fate now taking.markers taking.parcel.event = .released
  own : Release.parcel? taking.parcel.event = some taking.parcel

end Taking

namespace Release

def takings (now : UInt64) : List Entry → Markers → List Taking
  | [], _ => []
  | (key, event) :: rest, markers =>
    let later := takings now rest (markers.clearQueued event)
    match fate now markers event with
    | .held => []
    | .released => (parcel? event).toList.map (⟨now, key, ·, rest, markers⟩) ++ later
    | _ => later

theorem map_parcel_takings (now : UInt64) (entries : List Entry) (markers : Markers) :
    (takings now entries markers).map Taking.parcel = (heads now entries markers).batch := by
  induction entries generalizing markers with
  | nil => rfl
  | cons entry rest ih =>
    have later := ih (markers.clearQueued entry.2)
    rw [heads_cons, takings]
    cases fated : fate now markers entry.2 with
    | held => rfl
    | stray | rejected | dropped => exact later
    | released =>
      cases parcel? entry.2 <;> simp [later]

/-- Releasing some heads and then the others is one release. -/
theorem heads_append {now : UInt64} {before : List Entry} {markers : Markers}
    (all : (heads now before markers).left = []) (rest : List Entry) :
    heads now (before ++ rest) markers =
      let first := heads now before markers
      let second := heads now rest first.markers
      { left := second.left
        markers := second.markers
        batch := first.batch ++ second.batch
        cancelled := first.cancelled + second.cancelled
        expired := first.expired ++ second.expired
        notices := first.notices ++ second.notices } := by
  induction before generalizing markers with
  | nil => simp [heads]
  | cons entry before ih =>
    rw [heads_cons] at all
    rw [List.cons_append, heads_cons, heads_cons]
    cases fated : fate now markers entry.2 with
    | held =>
      -- The heads before are released to the last one, so none of them has to wait.
      rw [fated] at all
      cases all
    | stray | rejected | released =>
      rw [fated] at all
      simp [ih all]
    | dropped =>
      rw [fated] at all
      simp [ih all]
      omega

/-- A packet that is taken out is the head, or is taken out after the head has left. -/
theorem mem_takings_cons {now : UInt64} {entry : Entry} {rest : List Entry} {markers : Markers}
    {taking : Taking} (member : taking ∈ takings now (entry :: rest) markers) :
    fate now markers entry.2 ≠ .held ∧
      ((fate now markers entry.2 = .released ∧ ∃ parcel, parcel? entry.2 = some parcel ∧
          taking = ⟨now, entry.1, parcel, rest, markers⟩) ∨
        taking ∈ takings now rest (markers.clearQueued entry.2)) := by
  rw [takings] at member
  cases fated : fate now markers entry.2 with
  | held =>
    rw [fated] at member
    cases member
  | stray | rejected | dropped =>
    rw [fated] at member
    exact ⟨by simp, .inr member⟩
  | released =>
    rw [fated] at member
    rcases List.mem_append.mp member with here | later
    · obtain ⟨parcel, made, rfl⟩ := List.mem_map.mp here
      exact ⟨by simp, .inl ⟨rfl, parcel, Option.mem_toList.mp made, rfl⟩⟩
    · exact ⟨by simp, .inr later⟩

theorem moment_of_mem_takings {now : UInt64} {entries : List Entry} {markers : Markers}
    {taking : Taking} (member : taking ∈ takings now entries markers) :
    ∃ before, taking.Moment now entries before markers := by
  induction entries generalizing markers with
  | nil => cases member
  | cons entry rest ih =>
    obtain ⟨leaves, ⟨released, parcel, made, rfl⟩ | later⟩ := mem_takings_cons member
    · obtain ⟨id, _, rfl⟩ := Option.map_eq_some_iff.mp made
      exact ⟨[], rfl, rfl, rfl, rfl, released, made⟩
    · obtain ⟨before, moment⟩ := ih later
      refine ⟨entry :: before, by rw [moment.split]; rfl, ?_, moment.now_eq, ?_, moment.released,
        moment.own⟩
      · rw [heads_cons]
        cases fated : fate now markers entry.2 with
        | held => exact absurd fated leaves
        | _ => exact moment.left
      · rw [heads_cons, moment.markers_eq]
        cases fated : fate now markers entry.2 with
        | held => exact absurd fated leaves
        | _ => rfl

/-- Packets are handed over in the order in which they are taken out, at the time of the send. -/
theorem map_sending_takings (now : UInt64) (entries : List Entry) (markers : Markers) :
    (takings now entries markers).map Taking.sending =
      (heads now entries markers).batch.map (now, ·) := by
  rw [← map_parcel_takings, List.map_map]
  apply List.map_congr_left
  intro taking member
  obtain ⟨_, moment⟩ := moment_of_mem_takings member
  rw [Taking.sending, moment.now_eq]
  rfl

end Release

namespace Taking.Moment

variable {taking : Taking} {now : UInt64} {entries before : List Entry} {markers : Markers}

theorem batch (moment : taking.Moment now entries before markers) :
    (Release.heads now entries markers).batch =
      (Release.heads now before markers).batch ++ taking.parcel ::
        (Release.heads now taking.behind
          (taking.markers.clearQueued taking.parcel.event)).batch := by
  rw [moment.split, Release.heads_append moment.left]
  dsimp only
  rw [← moment.markers_eq, Release.heads_cons, moment.released, moment.own]
  rfl

theorem left_behind (moment : taking.Moment now entries before markers) :
    (Release.heads now entries markers).left <:+ taking.behind := by
  rw [moment.split, Release.heads_append moment.left]
  dsimp only
  rw [← moment.markers_eq, Release.heads_cons, moment.released]
  exact Release.left_suffix ..

/-- Packets are taken out only when they are due. -/
theorem due (moment : taking.Moment now entries before markers)
    (ascending : entries.Pairwise fun a b => a.1.lt b.1 = true) : taking.Due := by
  obtain ⟨id, marked, unexpired, ready, uncancelled⟩ :=
    Release.fate_eq_released.mp moment.released
  have own := moment.own
  rw [Release.parcel?, marked, Option.map_some, Option.some.injEq] at own
  have same : taking.parcel.marker = id := (congrArg Parcel.marker own).symm
  obtain ⟨finished, settled⟩ := Marker.isReady_iff.mp ready
  rw [moment.split] at ascending
  subst same
  -- That the key is least comes from the order of the queue, the rest from the fate.
  refine ⟨marked, ?_, ?_, finished, settled, uncancelled⟩
  · exact (List.pairwise_cons.mp (List.pairwise_append.mp ascending).2.1).1
  · rw [moment.now_eq]
    simpa [Marker.isExpiredAt, Taking.marker] using unexpired

end Taking.Moment

end PacketFlow
