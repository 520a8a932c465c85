import PacketFlow.Markers
import PacketFlow.Notice
import PacketFlow.Queue.Backlog

/-! Release of packets from the head of a queue.

Heads are taken out one after the other until one is met that has to wait: its listeners have not
finished, or a deferral is outstanding. A head whose deadline has passed is rejected before
anything else is asked of it, and a cancelled one is dropped once it is ready.
-/

set_option autoImplicit false

namespace PacketFlow

/-- An event on its way from the queue to the stream of its marker. -/
structure Parcel where
  marker : MarkerId
  event : Event
  deriving DecidableEq, Repr

/-- What a release leaves and what it takes out. -/
structure Release where
  left : List Entry
  markers : Markers
  batch : List Parcel := []
  cancelled : Nat := 0
  expired : List Event := []
  notices : List Notice := []

namespace Release

/-- Release heads at a time. An event without a marker belongs to nobody and is dropped. -/
def heads (now : UInt64) : List Entry → Markers → Release
  | [], markers => { left := [], markers := markers }
  | (key, event) :: rest, markers =>
    match event.marker with
    | none => heads now rest markers
    | some id =>
      let marker := markers.get id
      if marker.isExpiredAt now then
        let later := heads now rest (markers.setQueued id none)
        { later with
          expired := event :: later.expired
          notices := .rejecting event.type event.player marker.timeout :: later.notices }
      else if marker.isReady then
        let later := heads now rest (markers.setQueued id none)
        if event.cancelled then
          { later with
            cancelled := later.cancelled + 1
            notices := .droppingCancelled event.id :: later.notices }
        else
          { later with batch := ⟨id, event⟩ :: later.batch }
      else
        { left := (key, event) :: rest, markers := markers }

/-- A release takes heads only. -/
theorem left_suffix (now : UInt64) (entries : List Entry) (markers : Markers) :
    (heads now entries markers).left <:+ entries := by
  induction entries generalizing markers with
  | nil => exact List.suffix_refl _
  | cons entry rest ih =>
    obtain ⟨key, event⟩ := entry
    unfold heads
    split
    next => exact (ih markers).trans (List.suffix_cons _ _)
    next id _ =>
      dsimp only
      split
      next => exact (ih _).trans (List.suffix_cons _ _)
      next =>
        split
        next =>
          split
          next => exact (ih _).trans (List.suffix_cons _ _)
          next => exact (ih _).trans (List.suffix_cons _ _)
        next => exact List.suffix_refl _

end Release

end PacketFlow
