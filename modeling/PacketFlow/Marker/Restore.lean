import PacketFlow.Marker
import PacketFlow.Notice
import PacketFlow.Snapshot

/-! Taking snapshots of markers and restoring markers from them. -/

set_option autoImplicit false

namespace PacketFlow.Marker

/-- The timing, order and completion state at this moment. -/
def snapshot (marker : Marker) : Snapshot where
  version := Snapshot.currentVersion
  initialTime := marker.initialTime
  timeout := marker.timeout
  admittedIndex := marker.admittedIndex
  newIndex := marker.newIndex
  queuedIndex := marker.queuedIndex
  processed := marker.processed
  transmitted := marker.transmitted
  asyncCancelled := marker.asyncCancelled
  delay := marker.deferrals.outstanding

/-- A marker in the state of a snapshot. Listener position, handler and worker start empty. -/
def restore (stream : StreamId) (state : Snapshot) : Except MarkerFailure Marker :=
  if state.version = Snapshot.currentVersion then
    .ok {
      stream := stream
      initialTime := state.initialTime
      timeout := state.timeout
      admittedIndex := state.admittedIndex
      newIndex := state.newIndex
      queuedIndex := state.queuedIndex
      processed := state.processed
      transmitted := state.transmitted
      asyncCancelled := state.asyncCancelled
      deferrals := ⟨state.delay⟩ }
  else
    .error (.incompatibleSnapshot state.version Snapshot.currentVersion)

/-- What a successful restoration notes. -/
def restoreNotice (state : Snapshot) : Notice := .restored state.newIndex state.delay

theorem snapshot_restore {stream : StreamId} {state : Snapshot} {marker : Marker}
    (h : restore stream state = .ok marker) : marker.snapshot = state := by
  unfold restore at h
  split at h
  next current =>
    cases h
    cases state
    simp only at current
    subst current
    rfl
  next => cases h

end PacketFlow.Marker
