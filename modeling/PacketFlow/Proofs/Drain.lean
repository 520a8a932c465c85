import PacketFlow.Pipeline
import PacketFlow.Proofs.Release

/-! One look decides how a send goes on.

A send that has nothing left to transmit looks at its queue, and looks again when a mark was left
meanwhile. The second look finds what the first one left and takes nothing, so the effect of both
is that of one release: the send either transmits the first parcel of the batch or ends.
-/

set_option autoImplicit false

namespace PacketFlow

def Report.absorb (report : Report) (released : Release) : Report :=
  { report with
    cancelled := report.cancelled + released.cancelled
    expired := report.expired ++ released.expired }

theorem Report.absorb_nothing (report : Report) (left : List Entry) (markers : Markers) :
    report.absorb { left := left, markers := markers } = report := by
  simp [absorb]

namespace Pipeline

/-- What a queue holds, in the order of transmission. -/
def entries (p : Pipeline) (queue : QueueId) : List Entry := (p.queues queue).backlog.entries

/-- The process with another backlog in a queue, and other records of its markers. -/
def hold (p : Pipeline) (queue : QueueId) (backlog : Backlog) (markers : Markers) : Pipeline :=
  { p.setQueue queue { p.queues queue with backlog := backlog } with markers := markers }

def begin (p : Pipeline) (queue : QueueId) : Pipeline :=
  p.setQueue queue { p.queues queue with draining := true, rerun := false }

def rest (p : Pipeline) (queue : QueueId) : Pipeline :=
  p.setQueue queue { p.queues queue with draining := false, rerun := false }

def released (p : Pipeline) (queue : QueueId) (now : UInt64) : Release :=
  Release.heads now (p.entries queue) p.markers

def looked (p : Pipeline) (queue : QueueId) (now : UInt64) : Pipeline :=
  p.hold queue ((p.queues queue).release p.markers now).1.backlog (p.released queue now).markers

/-- How a send goes on when it looks at its queue. -/
def advance (p : Pipeline) (queue : QueueId) (now : UInt64) (report : Report)
    (notices : List Notice) : Step :=
  let released := p.released queue now
  match released.batch with
  | parcel :: rest =>
    (p.looked queue now).transmit queue now parcel rest (report.absorb released)
      (notices ++ released.notices)
  | [] =>
    { reply := .reported (report.absorb released)
      state := (p.looked queue now).rest queue
      notices := notices ++ released.notices }

theorem advance_of_nil {p : Pipeline} {queue : QueueId} {now : UInt64}
    (batch : (p.released queue now).batch = []) (report : Report) (notices : List Notice) :
    p.advance queue now report notices =
      { reply := .reported (report.absorb (p.released queue now))
        state := (p.looked queue now).rest queue
        notices := notices ++ (p.released queue now).notices } := by
  simp only [advance, batch]

theorem advance_of_cons {p : Pipeline} {queue : QueueId} {now : UInt64} {parcel : Parcel}
    {waiting : List Parcel} (batch : (p.released queue now).batch = parcel :: waiting)
    (report : Report) (notices : List Notice) :
    p.advance queue now report notices =
      (p.looked queue now).transmit queue now parcel waiting
        (report.absorb (p.released queue now)) (notices ++ (p.released queue now).notices) := by
  simp only [advance, batch]

@[simp] theorem setQueue_setQueue (p : Pipeline) (id : QueueId) (first second : Queue) :
    (p.setQueue id first).setQueue id second = p.setQueue id second := by
  unfold setQueue
  congr
  funext other
  by_cases same : other = id <;> simp [same]

@[simp] theorem setQueue_self (p : Pipeline) (id : QueueId) :
    p.setQueue id (p.queues id) = p := by
  obtain ⟨markers, queues, frames⟩ := p
  simp only [setQueue]
  congr
  funext other
  split
  next same => rw [same]
  next => rfl

@[simp] theorem hold_self (p : Pipeline) (queue : QueueId) :
    p.hold queue (p.queues queue).backlog p.markers = p :=
  setQueue_self p queue

theorem queues_hold (p : Pipeline) (queue other : QueueId) (backlog : Backlog)
    (markers : Markers) : (p.hold queue backlog markers).queues other =
      if other = queue then { p.queues queue with backlog := backlog } else p.queues other := rfl

/-- A queue that nobody had locked is put back unlocked. -/
theorem putBack_eq_hold {p : Pipeline} {id : QueueId} (unlocked : (p.queues id).locked = false)
    (backlog : Backlog) (locked : Bool) (markers : Markers) :
    p.putBack id { p.queues id with backlog := backlog, locked := locked } markers =
      p.hold id backlog markers := by
  simp only [putBack, hold, Queue.unlock, ← unlocked]

theorem release?_eq {p : Pipeline} {queue : QueueId} (unlocked : (p.queues queue).locked = false)
    (now : UInt64) (report : Report) :
    p.release? queue now report =
      some (p.looked queue now, (p.released queue now).batch,
        report.absorb (p.released queue now), (p.released queue now).notices) := by
  simp only [release?, Queue.lock?, unlocked, Bool.false_eq_true, if_false, Option.map_some]
  rw [looked, ← putBack_eq_hold unlocked _ true]
  rfl

/-- A look that takes nothing changes nothing. -/
theorem looked_eq_self {p : Pipeline} {queue : QueueId} {now : UInt64}
    (nothing : p.released queue now = { left := p.entries queue, markers := p.markers }) :
    p.looked queue now = p := by
  have backlog : ((p.queues queue).release p.markers now).1.backlog = (p.queues queue).backlog :=
    Backlog.ext (congrArg Release.left nothing)
  have markers : (p.released queue now).markers = p.markers := by rw [nothing]
  rw [looked, backlog, markers, hold_self]

/-- After a look there is nothing to take, whatever mark was left. -/
theorem released_looked (p : Pipeline) (queue : QueueId) (now : UInt64) (mark : Bool) :
    let again := (p.looked queue now).setQueue queue
      { (p.looked queue now).queues queue with rerun := mark }
    again.released queue now = { left := again.entries queue, markers := again.markers } := by
  simp only [released, entries, looked, queues_setQueue_self, queues_hold, if_true]
  exact Release.heads_again now _ _

/-- The two looks of a send come to one. -/
theorem proceed_eq_advance {p : Pipeline} {queue : QueueId}
    (unlocked : (p.queues queue).locked = false) (now : UInt64) (report : Report)
    (notices : List Notice) :
    p.proceed queue now report notices = p.advance queue now report notices := by
  simp only [proceed, look, advance, release?_eq unlocked]
  cases batch : (p.released queue now).batch with
  | cons parcel rest => rfl
  | nil =>
    dsimp only
    split
    next marked =>
      -- The send looks again, at a queue whose head has to wait.
      have nothing := released_looked p queue now false
      rw [release?_eq (by simp [looked, queues_hold, unlocked]), looked_eq_self nothing, nothing]
      simp only [Report.absorb_nothing, List.append_nil, finish, rest, setQueue_setQueue,
        queues_setQueue_self]
    next unmarked =>
      -- The flag is down already, so ending the send leaves it as it is.
      have quiet : ((p.looked queue now).queues queue).rerun = false := by simpa using unmarked
      simp only [finish, rest, ← quiet]

end Pipeline

end PacketFlow
