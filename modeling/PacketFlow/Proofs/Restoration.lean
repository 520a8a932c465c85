import PacketFlow.Admission.Defaults
import PacketFlow.Marker.Restore
import PacketFlow.Proofs.Fields
import PacketFlow.Scenario.Answer
import PacketFlow.Snapshot.Json

/-! What comes back from a snapshot.

Snapshots and defaults are read back from their texts unchanged. A marker that is restored from its
snapshot, or from the text of it, cannot be told from the original by anything that concerns
timing, order or completion: all answers depend on what a snapshot shows, and every use changes
that in the same way.
-/

set_option autoImplicit false

namespace PacketFlow

open Json

theorem Snapshot.ofJson_toJson (state : Snapshot) : ofJson state.toJson = .ok state := by
  rw [ofJson, toJson, read_record _ rfl (by decide)]
  simp only [ofFields, Fields.required, Fields.optional, taking, List.reverse_cons,
    List.reverse_nil, List.nil_append, List.cons_append, List.lookup_cons]
  simp [index?_ofOption, bool?]
  rfl

theorem Snapshot.ofText_toText (state : Snapshot) : ofText state.toText = .ok state :=
  (ofText_render ..).trans (ofJson_toJson state)

theorem Duration.ofJson_toJson (span : Duration) : ofJson span.toJson = .ok span := by
  rw [ofJson, toJson, read_record _ rfl (by decide)]
  simp only [ofFields, Fields.required, taking, List.reverse_cons, List.reverse_nil,
    List.nil_append, List.cons_append, List.lookup_cons]
  simp [bind, Except.bind, ofParts?_parts]

theorem Defaults.ofJson_toJson (defaults : Defaults) : ofJson defaults.toJson = .ok defaults := by
  rw [ofJson, toJson, read_record _ rfl (by decide)]
  simp only [ofFields, Fields.optional, taking, List.reverse_cons, List.reverse_nil,
    List.nil_append, List.cons_append, List.lookup_cons]
  simp [Duration.ofJson_toJson]
  rfl

theorem Defaults.ofText_toText (defaults : Defaults) : ofText defaults.toText = .ok defaults :=
  (ofText_render ..).trans (ofJson_toJson defaults)

namespace Marker

/-- What collaborators do with a marker where timing, order and completion are concerned. -/
inductive Use where
  | setTimeout (value : UInt64)
  | setNewIndex (value : UInt64)
  | setQueuedIndex (value : Option UInt64)
  | setProcessed (value : Bool)
  | setAsyncCancelled (value : Bool)
  | defer
  | release
  | isExpiredAt (now : UInt64)
  /-- The order against a partner that may be missing. -/
  | compareTo (partner : Option Marker)
  /-- Order, equality and hash, as seen from both sides. -/
  | compareWith (partner : Marker)
  | snapshot

inductive Answer where
  | done
  | delay (outstanding : Int32)
  | expired (value : Bool)
  | order (value : Ordering)
  | compared (forth back : Scenario.Comparison)
  | snapshot (value : Snapshot)

def use (marker : Marker) : Use → Marker × Answer
  | .setTimeout value => (marker.apply (.timeout value), .done)
  | .setNewIndex value => (marker.apply (.newIndex value), .done)
  | .setQueuedIndex value => (marker.apply (.queuedIndex value), .done)
  | .setProcessed value => (marker.apply (.processed value), .done)
  | .setAsyncCancelled value => (marker.apply (.asyncCancelled value), .done)
  | .defer => (marker.apply .defer, .delay (marker.apply .defer).deferrals.outstanding)
  | .release => (marker.apply .release, .delay (marker.apply .release).deferrals.outstanding)
  | .isExpiredAt now => (marker, .expired (marker.isExpiredAt now))
  | .compareTo partner => (marker, .order (marker.compareTo partner))
  | .compareWith partner => (marker, .compared (.of marker partner) (.of partner marker))
  | .snapshot => (marker, .snapshot marker.snapshot)

def answers (marker : Marker) : List Use → List Answer
  | [] => []
  | use :: rest => (marker.use use).2 :: (marker.use use).1.answers rest

/-- Markers with one snapshot differ only in what belongs to the running process. -/
theorem eq_of_snapshot_eq {a b : Marker} (same : a.snapshot = b.snapshot) :
    ∃ stream traversal lock handler worker, b = { a with
      stream := stream
      traversal := traversal
      lock := lock
      handler := handler
      worker := worker } := by
  obtain ⟨_, _, _, _, _, _, _, _, _, _, ⟨_⟩, _, _, _⟩ := a
  obtain ⟨_, _, _, _, _, _, _, _, _, _, ⟨_⟩, _, _, _⟩ := b
  simp only [snapshot, Snapshot.mk.injEq] at same
  obtain ⟨-, rfl, rfl, rfl, rfl, rfl, rfl, rfl, rfl, rfl⟩ := same
  exact ⟨_, _, _, _, _, rfl⟩

/-- A use has the same answer and the same effect on markers with one snapshot. -/
theorem use_eq {a b : Marker} (same : a.snapshot = b.snapshot) (use : Use) :
    (a.use use).2 = (b.use use).2 ∧ (a.use use).1.snapshot = (b.use use).1.snapshot := by
  obtain ⟨stream, traversal, lock, handler, worker, rfl⟩ := eq_of_snapshot_eq same
  cases use <;> exact ⟨rfl, rfl⟩

theorem answers_eq {a b : Marker} (same : a.snapshot = b.snapshot) (uses : List Use) :
    a.answers uses = b.answers uses := by
  induction uses generalizing a b with
  | nil => rfl
  | cons use rest ih =>
    obtain ⟨answer, after⟩ := use_eq same use
    rw [answers, answers, answer, ih after]

theorem stream_restore {stream : StreamId} {state : Snapshot} {marker : Marker}
    (success : restore stream state = .ok marker) : marker.stream = stream := by
  unfold restore at success
  split at success
  next =>
    cases success
    rfl
  next => cases success

theorem exists_restore_iff {stream : StreamId} {state : Snapshot} :
    (∃ restored, restore stream state = .ok restored) ↔
      state.version = Snapshot.currentVersion := by
  unfold restore
  split
  next current => exact ⟨fun _ => current, fun _ => ⟨_, rfl⟩⟩
  next stale =>
    constructor
    · rintro ⟨_, refused⟩
      cases refused
    · exact fun current => absurd current stale

end Marker

/-- Snapshots and texts lose nothing that they claim to keep. -/
structure Lossless (stream : StreamId) : Prop where
  snapshots : ∀ state : Snapshot, Snapshot.ofText state.toText = .ok state
  defaults : ∀ defaults : Defaults, Defaults.ofText defaults.toText = .ok defaults
  /-- A marker comes back from its snapshot, and from the text of it, and answers like before. -/
  markers : ∀ marker : Marker, ∃ restored,
    Marker.restore stream marker.snapshot = .ok restored ∧
      (∃ state, Snapshot.ofText marker.snapshot.toText = .ok state ∧
        Marker.restore stream state = .ok restored) ∧
      restored.stream = stream ∧ restored.snapshot = marker.snapshot ∧
      ∀ uses, restored.answers uses = marker.answers uses
  accepted : ∀ state, (∃ restored, Marker.restore stream state = .ok restored) ↔
    state.version = Snapshot.currentVersion
  kept : ∀ state restored, Marker.restore stream state = .ok restored → restored.snapshot = state

theorem lossless (stream : StreamId) : Lossless stream where
  snapshots := Snapshot.ofText_toText
  defaults := Defaults.ofText_toText
  markers marker := by
    obtain ⟨restored, success⟩ : ∃ restored, Marker.restore stream marker.snapshot = .ok restored :=
      Marker.exists_restore_iff.mpr rfl
    have same := Marker.snapshot_restore success
    exact ⟨restored, success, ⟨_, Snapshot.ofText_toText _, success⟩,
      Marker.stream_restore success, same, Marker.answers_eq same⟩
  accepted _ := Marker.exists_restore_iff
  kept _ _ := Marker.snapshot_restore

end PacketFlow
