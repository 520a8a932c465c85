import Mathlib.Data.List.Nodup
import PacketFlow.Proofs.Labels

/-! Packets that are moved within their queue.

A move takes a packet out and puts it back under the new index of its marker. Where a packet that is
moved ends depends on the last index it was given and on nothing else: not on the indices it had in
between, nor on the order in which packets were moved, nor on what stood under an index before. A
packet that is not moved stays, whatever index its marker has.
-/

set_option autoImplicit false

namespace PacketFlow

/-- What a collaborator does to move queued packets: it gives a packet another new index, and it
tells the queue so. -/
inductive Shift where
  | aim (ticket : Ticket) (index : UInt64)
  | place (ticket : Ticket)
  deriving DecidableEq

namespace Shift

def ticket : Shift → Ticket
  | aim ticket _ | place ticket => ticket

def action (queue : QueueId) : Shift → Action
  | aim ticket index => .revise ticket.marker (.newIndex index)
  | place ticket => .reposition queue ticket

/-- The new index that a marker has after a shift. -/
def newIndex (markers : Markers) (id : MarkerId) : Shift → UInt64
  | aim ticket index => if id = ticket.marker then index else (markers.get id).newIndex
  | place _ => (markers.get id).newIndex

/-- The index that a marker records after a shift. -/
def queuedIndex (markers : Markers) (id : MarkerId) : Shift → Option UInt64
  | aim .. => (markers.get id).queuedIndex
  | place ticket =>
    if id = ticket.marker then some (markers.get id).newIndex else (markers.get id).queuedIndex

/-- The queue is told of every new index, if not at once. -/
def Heeded : List Shift → Prop
  | [] => True
  | aim ticket _ :: rest => place ticket ∈ rest ∧ Heeded rest
  | place _ :: rest => Heeded rest

instance decidableHeeded : (shifts : List Shift) → Decidable (Heeded shifts)
  | [] => .isTrue trivial
  | aim _ _ :: rest => @instDecidableAnd _ _ _ (decidableHeeded rest)
  | place _ :: rest => decidableHeeded rest

theorem Heeded.tail {shift : Shift} {rest : List Shift} (heeded : Heeded (shift :: rest)) :
    Heeded rest := by
  cases shift with
  | aim => exact heeded.2
  | place => exact heeded

theorem Heeded.place_mem {shifts : List Shift} (heeded : Heeded shifts) {ticket : Ticket}
    {index : UInt64} (member : aim ticket index ∈ shifts) : place ticket ∈ shifts := by
  induction shifts with
  | nil => cases member
  | cons shift rest ih =>
    rcases List.mem_cons.mp member with rfl | later
    · exact List.mem_cons_of_mem _ heeded.1
    · exact List.mem_cons_of_mem _ (ih heeded.tail later)

end Shift

theorem Backlog.nodup (backlog : Backlog) : backlog.entries.Nodup :=
  backlog.ascending.imp fun low same => Key.ne_of_lt low (congrArg Prod.fst same)

/-- A backlog is determined by what it stores. -/
theorem Backlog.eq_of_mem_iff {first second : Backlog}
    (same : ∀ entry, entry ∈ first.entries ↔ entry ∈ second.entries) : first = second := by
  have stored := (List.perm_ext_iff_of_nodup first.nodup second.nodup).mpr same
  apply Backlog.ext
  refine stored.eq_of_pairwise (fun _ _ _ _ low high => ?_) first.ascending second.ascending
  rw [Key.lt_asymm low] at high
  cases high

/-- What was recorded last counts. -/
theorem Markers.setQueued_setQueued (markers : Markers) (id : MarkerId)
    (first second : Option UInt64) :
    (markers.setQueued id first).setQueued id second = markers.setQueued id second := by
  refine eq_of_get rfl fun other => ?_
  simp only [setQueued, revise, set, if_true]
  split <;> rfl

namespace Pipeline

theorem hold_hold (p : Pipeline) (queue : QueueId) (backlog other : Backlog)
    (markers later : Markers) :
    (p.hold queue backlog markers).hold queue other later = p.hold queue other later := by
  simp only [hold, setQueue, if_true]
  congr 1
  funext id
  split
  next => rfl
  next => rfl

theorem markers_hold (p : Pipeline) (queue : QueueId) (backlog : Backlog) (markers : Markers) :
    (p.hold queue backlog markers).markers = markers := rfl

/-- Each packet of a queue has a marker of its own, which records the index it is held under. -/
structure Filed (p : Pipeline) (queue : QueueId) : Prop where
  own : ∀ entry ∈ p.entries queue, entry.1.event = entry.2.id
  recorded : ∀ entry ∈ p.entries queue, ∃ id, entry.2.marker = some id ∧
    (p.markers.get id).queuedIndex = some entry.1.index
  single : ((p.entries queue).map fun entry => entry.2.id).Nodup
  unshared : ((p.entries queue).map fun entry => entry.2.marker).Nodup

/-- A ticket is that of a packet that a queue holds. -/
def Issued (p : Pipeline) (queue : QueueId) (ticket : Ticket) : Prop :=
  ∃ event ∈ (p.entries queue).map (·.2), event.id = ticket.event ∧
    event.marker = some ticket.marker

/-- Two states differ in nothing but the indices under which a queue holds its packets, and what the
markers of these packets say of indices. -/
structure Rearranges (p q : Pipeline) (queue : QueueId) : Prop where
  held : ((q.entries queue).map (·.2)).Perm ((p.entries queue).map (·.2))
  flags : q.queues queue = { p.queues queue with backlog := (q.queues queue).backlog }
  apart : ∀ other, other ≠ queue → q.queues other = p.queues other
  frames : q.frames = p.frames
  count : q.markers.count = p.markers.count
  markers : ∀ id, q.markers.get id =
    { p.markers.get id with
      newIndex := (q.markers.get id).newIndex
      queuedIndex := (q.markers.get id).queuedIndex }
  foreign : ∀ id, (∀ event ∈ (p.entries queue).map (·.2), event.marker ≠ some id) →
    q.markers.get id = p.markers.get id

variable {p q r : Pipeline} {queue : QueueId}

theorem Rearranges.refl (p : Pipeline) (queue : QueueId) : p.Rearranges p queue where
  held := .refl _
  flags := rfl
  apart _ _ := rfl
  frames := rfl
  count := rfl
  markers _ := rfl
  foreign _ _ := rfl

theorem Rearranges.trans (first : p.Rearranges q queue) (second : q.Rearranges r queue) :
    p.Rearranges r queue where
  held := second.held.trans first.held
  flags := by rw [second.flags, first.flags]
  apart other different := (second.apart other different).trans (first.apart other different)
  frames := second.frames.trans first.frames
  count := second.count.trans first.count
  markers id := by
    conv => lhs; rw [second.markers id, first.markers id]
  foreign id absent := by
    rw [second.foreign id fun event member => absent event (first.held.mem_iff.mp member)]
    exact first.foreign id absent

theorem Rearranges.issued (same : p.Rearranges q queue) {ticket : Ticket} :
    q.Issued queue ticket ↔ p.Issued queue ticket := by
  simp only [Issued, same.held.mem_iff]

/-- A packet that is held again is held under the same index when its marker says so. -/
theorem Filed.mem_of_same (filed : p.Filed queue) (refiled : q.Filed queue) {entry : Entry}
    (member : entry ∈ p.entries queue) (held : entry.2 ∈ (q.entries queue).map (·.2))
    (same : ∀ id, entry.2.marker = some id →
      (q.markers.get id).queuedIndex = (p.markers.get id).queuedIndex) :
    entry ∈ q.entries queue := by
  obtain ⟨there, inside, event⟩ := List.mem_map.mp held
  obtain ⟨id, marked, recorded⟩ := filed.recorded entry member
  obtain ⟨other, marked', recorded'⟩ := refiled.recorded there inside
  obtain rfl : other = id := by
    rw [event, marked] at marked'
    exact (Option.some.inj marked').symm
  have index : there.1.index = entry.1.index := by
    rw [same other marked, recorded] at recorded'
    exact (Option.some.inj recorded').symm
  have number : there.1.event = entry.1.event := by
    rw [filed.own entry member, refiled.own there inside, event]
  have key : there.1 = entry.1 := by
    cases one : there.1
    cases two : entry.1
    simp_all
  exact Prod.ext key event ▸ inside

/-- Two rearrangements of one state agree when the markers say the same of indices. -/
theorem Rearranges.eq (first : p.Rearranges q queue) (second : p.Rearranges r queue)
    (filed : q.Filed queue) (refiled : r.Filed queue)
    (newIndex : ∀ id, (q.markers.get id).newIndex = (r.markers.get id).newIndex)
    (queuedIndex : ∀ id, (q.markers.get id).queuedIndex = (r.markers.get id).queuedIndex) :
    q = r := by
  have held := first.held.trans second.held.symm
  have markers : q.markers = r.markers :=
    Markers.eq_of_get (first.count.trans second.count.symm) fun id => by
      rw [first.markers id, second.markers id, newIndex, queuedIndex]
  have backlog : (q.queues queue).backlog = (r.queues queue).backlog := by
    refine Backlog.eq_of_mem_iff fun entry => ⟨fun member => ?_, fun member => ?_⟩
    · exact filed.mem_of_same refiled member (held.mem_iff.mp (List.mem_map_of_mem member))
        fun id _ => (queuedIndex id).symm
    · exact refiled.mem_of_same filed member (held.mem_iff.mpr (List.mem_map_of_mem member))
        fun id _ => queuedIndex id
  have queues : q.queues = r.queues := by
    funext other
    by_cases same : other = queue
    · rw [same, first.flags, second.flags, backlog]
    · rw [first.apart other same, second.apart other same]
  have frames := first.frames.trans second.frames.symm
  cases q
  cases r
  simp_all

/-- What one shift does to a queue whose packets are filed. -/
structure Shifted (p q : Pipeline) (queue : QueueId) (shift : Shift) : Prop where
  rearranges : p.Rearranges q queue
  filed : q.Filed queue
  newIndex : ∀ id, (q.markers.get id).newIndex = shift.newIndex p.markers id
  queuedIndex : ∀ id, (q.markers.get id).queuedIndex = shift.queuedIndex p.markers id

/-- A packet of a ticket, where the queue holds it. -/
theorem Filed.lookup (filed : p.Filed queue) {ticket : Ticket} (issued : p.Issued queue ticket) :
    ∃ index event, (⟨index, ticket.event⟩, event) ∈ p.entries queue ∧ event.id = ticket.event ∧
      event.marker = some ticket.marker ∧
        (p.markers.get ticket.marker).queuedIndex = some index := by
  obtain ⟨_, held, numbered, marked⟩ := issued
  obtain ⟨⟨⟨index, number⟩, event⟩, member, rfl⟩ := List.mem_map.mp held
  obtain ⟨id, own, recorded⟩ := filed.recorded _ member
  obtain rfl : ticket.marker = id := Option.some.inj (marked.symm.trans own)
  obtain rfl : number = ticket.event := (filed.own _ member).trans numbered
  exact ⟨index, event, member, numbered, marked, recorded⟩

theorem Filed.aim (filed : p.Filed queue) {ticket : Ticket} (issued : p.Issued queue ticket)
    (index : UInt64) :
    p.Shifted (p.revise ticket.marker (.newIndex index)) queue (.aim ticket index) := by
  have get (id : MarkerId) : (p.revise ticket.marker (.newIndex index)).markers.get id =
      if id = ticket.marker then (p.markers.get ticket.marker).apply (.newIndex index)
      else p.markers.get id := rfl
  have queuedIndex (id : MarkerId) :
      ((p.revise ticket.marker (.newIndex index)).markers.get id).queuedIndex =
        (p.markers.get id).queuedIndex :=
    Markers.read_set Marker.queuedIndex (by rfl) id
  constructor
  case rearranges =>
    refine ⟨.refl _, rfl, fun _ _ => rfl, rfl, rfl, fun id => ?_, fun id absent => ?_⟩
    · rw [get]
      split
      next same =>
        rw [same]
        rfl
      next => rfl
    · obtain ⟨event, held, _, marked⟩ := issued
      rw [get, if_neg]
      rintro rfl
      exact absent event held marked
  case filed =>
    refine ⟨filed.own, fun entry member => ?_, filed.single, filed.unshared⟩
    obtain ⟨id, marked, recorded⟩ := filed.recorded entry member
    exact ⟨id, marked, (queuedIndex id).trans recorded⟩
  case newIndex =>
    intro id
    rw [get, Shift.newIndex]
    split <;> rfl
  case queuedIndex => exact queuedIndex

/-- The process after a packet was moved. -/
def relocated (p : Pipeline) (queue : QueueId) (ticket : Ticket) (old : UInt64) (event : Event) :
    Pipeline :=
  p.hold queue (((p.queues queue).backlog.erase ⟨old, ticket.event⟩).insert
      ⟨(p.markers.get ticket.marker).newIndex, ticket.event⟩ event)
    (p.markers.setQueued ticket.marker (some (p.markers.get ticket.marker).newIndex))

section relocated

variable {ticket : Ticket} {old : UInt64} {event : Event}

theorem get_relocated (p : Pipeline) (queue : QueueId) (ticket : Ticket) (old : UInt64)
    (event : Event) (id : MarkerId) : (p.relocated queue ticket old event).markers.get id =
      if id = ticket.marker then
        (p.markers.get ticket.marker).apply
          (.queuedIndex (some (p.markers.get ticket.marker).newIndex))
      else p.markers.get id := rfl

/-- No packet stands where one is moved to: it would have the number of the one that moves. -/
theorem Filed.free (filed : p.Filed queue) (moves : p.Moves queue ticket old event) :
    ∀ entry ∈ ((p.queues queue).backlog.erase ⟨old, ticket.event⟩).entries,
      entry.1 ≠ ⟨(p.markers.get ticket.marker).newIndex, ticket.event⟩ := by
  intro entry member same
  obtain ⟨stored, away⟩ := Backlog.mem_erase.mp member
  have number : entry.2.id = event.id := by
    rw [← filed.own entry stored, ← filed.own _ moves.2.2, same]
  exact away (congrArg Prod.fst (List.inj_on_of_nodup_map filed.single stored moves.2.2 number))

theorem Filed.mem_relocated (filed : p.Filed queue) (moves : p.Moves queue ticket old event)
    {entry : Entry} : entry ∈ (p.relocated queue ticket old event).entries queue ↔
      entry = (⟨(p.markers.get ticket.marker).newIndex, ticket.event⟩, event) ∨
        entry ∈ p.entries queue ∧ entry ≠ (⟨old, ticket.event⟩, event) := by
  rw [relocated, entries_hold, if_pos rfl, Backlog.mem_insert]
  refine or_congr_right ⟨?_, ?_⟩
  · rintro ⟨kept, _⟩
    obtain ⟨stored, away⟩ := Backlog.mem_erase.mp kept
    exact ⟨stored, fun same => away (congrArg Prod.fst same)⟩
  · rintro ⟨stored, different⟩
    have kept : entry ∈ ((p.queues queue).backlog.erase ⟨old, ticket.event⟩).entries := by
      refine Backlog.mem_erase.mpr ⟨stored, fun same => different (Prod.ext same ?_)⟩
      exact Backlog.eq_of_mem (same ▸ stored) moves.2.2
    exact ⟨kept, filed.free moves entry kept⟩

theorem Filed.held_relocated (filed : p.Filed queue) (moves : p.Moves queue ticket old event) :
    (((p.relocated queue ticket old event).entries queue).map (·.2)).Perm
      ((p.entries queue).map (·.2)) := by
  have inserted := (@Backlog.insert_perm _ _ event (filed.free moves)).map (·.2)
  have erased := (Backlog.erase_perm moves.2.2).map (·.2)
  rw [relocated, entries_hold, if_pos rfl]
  exact inserted.trans erased.symm

theorem Filed.relocate (filed : p.Filed queue) (marked : event.marker = some ticket.marker)
    (moves : p.Moves queue ticket old event) :
    p.Shifted (p.relocated queue ticket old event) queue (.place ticket) := by
  have get := get_relocated p queue ticket old event
  -- Of the packets that stay, none has the marker of the one that moves.
  have foreign {entry : Entry} (member : entry ∈ p.entries queue)
      (different : entry ≠ (⟨old, ticket.event⟩, event)) :
      entry.2.marker ≠ some ticket.marker := fun shared =>
    different (List.inj_on_of_nodup_map filed.unshared member moves.2.2 (shared.trans marked.symm))
  constructor
  case rearranges =>
    refine ⟨filed.held_relocated moves, ?_, ?_, rfl, rfl, fun id => ?_, fun id absent => ?_⟩
    · simp [relocated, queues_hold]
    · intro other different
      simp [relocated, queues_hold, different]
    · rw [get]
      split
      next same =>
        rw [same]
        rfl
      next => rfl
    · rw [get, if_neg]
      rintro rfl
      exact absent event (List.mem_map_of_mem moves.2.2) marked
  case filed =>
    have numbers := (filed.held_relocated moves).map Event.id
    have markers := (filed.held_relocated moves).map Event.marker
    rw [List.map_map, List.map_map] at numbers markers
    refine ⟨fun entry member => ?_, fun entry member => ?_, numbers.nodup_iff.mpr filed.single,
      markers.nodup_iff.mpr filed.unshared⟩
    · rcases (filed.mem_relocated moves).mp member with rfl | ⟨stored, _⟩
      · exact filed.own (⟨old, ticket.event⟩, event) moves.2.2
      · exact filed.own entry stored
    · rcases (filed.mem_relocated moves).mp member with rfl | ⟨stored, different⟩
      · refine ⟨ticket.marker, marked, ?_⟩
        rw [get, if_pos rfl]
        rfl
      · obtain ⟨id, own, recorded⟩ := filed.recorded entry stored
        refine ⟨id, own, ?_⟩
        rw [get, if_neg]
        · exact recorded
        · rintro rfl
          exact foreign stored different own
  case newIndex =>
    intro id
    rw [get, Shift.newIndex]
    split
    next same =>
      rw [same]
      rfl
    next => rfl
  case queuedIndex =>
    intro id
    rw [get, Shift.queuedIndex]
    split
    next same =>
      rw [same]
      rfl
    next => rfl

end relocated

theorem not_moves_of_recorded {ticket : Ticket}
    (recorded : (p.markers.get ticket.marker).queuedIndex =
      some (p.markers.get ticket.marker).newIndex) (old : UInt64) (event : Event) :
    ¬p.Moves queue ticket old event := by
  rintro ⟨queued, different, _⟩
  rw [recorded] at queued
  exact different (Option.some.inj queued).symm

/-- Telling a queue of a new index either moves the packet or finds it in its place. -/
theorem Filed.place (filed : p.Filed queue) (unlocked : (p.queues queue).locked = false)
    {ticket : Ticket} (issued : p.Issued queue ticket) :
    p.Shifted (p.step (.reposition queue ticket)).state queue (.place ticket) := by
  obtain ⟨index, event, member, _, marked, recorded⟩ := filed.lookup issued
  by_cases same : index = (p.markers.get ticket.marker).newIndex
  · rw [step_reposition_of_not_moves unlocked (not_moves_of_recorded (same ▸ recorded))]
    refine ⟨.refl p queue, filed, fun _ => rfl, fun id => ?_⟩
    rw [Shift.queuedIndex]
    split
    next here => rw [here, recorded, same]
    next => rfl
  · have moves : p.Moves queue ticket index event := ⟨recorded, same, member⟩
    rw [step_reposition unlocked moves]
    exact filed.relocate marked moves

theorem Filed.shift (filed : p.Filed queue) (unlocked : (p.queues queue).locked = false)
    {shift : Shift} (issued : p.Issued queue shift.ticket) :
    p.Shifted (p.step (shift.action queue)).state queue shift := by
  cases shift with
  | aim ticket index => exact filed.aim issued index
  | place ticket => exact filed.place unlocked issued

/-- The process after a list of shifts. -/
def shifted (p : Pipeline) (queue : QueueId) (shifts : List Shift) : Pipeline :=
  p.after (shifts.map (Shift.action queue))

/-- What a list of shifts does to a queue whose packets are filed. -/
structure Reshifted (p q : Pipeline) (queue : QueueId) (shifts : List Shift) : Prop where
  rearranges : p.Rearranges q queue
  filed : q.Filed queue
  unaimed : ∀ id, (∀ ticket index, .aim ticket index ∈ shifts → ticket.marker ≠ id) →
    (q.markers.get id).newIndex = (p.markers.get id).newIndex
  unplaced : ∀ id, (∀ ticket, .place ticket ∈ shifts → ticket.marker ≠ id) →
    (q.markers.get id).queuedIndex = (p.markers.get id).queuedIndex
  placed : Shift.Heeded shifts → ∀ ticket, .place ticket ∈ shifts →
    (q.markers.get ticket.marker).queuedIndex = some (q.markers.get ticket.marker).newIndex

/-- Tickets of packets that a queue holds are told apart by their markers. -/
theorem Filed.ticket_eq (filed : p.Filed queue) {first second : Ticket}
    (one : p.Issued queue first) (two : p.Issued queue second)
    (same : first.marker = second.marker) : first = second := by
  obtain ⟨_, held, number, marked⟩ := one
  obtain ⟨_, held', number', marked'⟩ := two
  obtain ⟨entry, member, rfl⟩ := List.mem_map.mp held
  obtain ⟨other, member', rfl⟩ := List.mem_map.mp held'
  have shared : entry.2.marker = other.2.marker := by rw [marked, marked', same]
  obtain rfl := List.inj_on_of_nodup_map filed.unshared member member' shared
  cases first
  cases second
  simp_all

theorem Filed.reshifted {shifts : List Shift} (filed : p.Filed queue)
    (unlocked : (p.queues queue).locked = false)
    (issued : ∀ shift ∈ shifts, p.Issued queue shift.ticket) :
    p.Reshifted (p.shifted queue shifts) queue shifts := by
  induction shifts generalizing p with
  | nil => exact ⟨.refl p queue, filed, fun _ _ => rfl, fun _ _ => rfl, fun _ _ no => nomatch no⟩
  | cons shift rest ih =>
    have first := filed.shift unlocked (issued shift List.mem_cons_self)
    have unlocked' : ((p.step (shift.action queue)).state.queues queue).locked = false := by
      rw [first.rearranges.flags]
      exact unlocked
    have later := ih first.filed unlocked' fun other member =>
      first.rearranges.issued.mpr (issued other (List.mem_cons_of_mem _ member))
    constructor
    case rearranges => exact first.rearranges.trans later.rearranges
    case filed => exact later.filed
    case unaimed =>
      intro id absent
      have kept := later.unaimed id fun ticket index member =>
        absent ticket index (List.mem_cons_of_mem _ member)
      refine kept.trans ((first.newIndex id).trans ?_)
      cases shift with
      | aim ticket index => exact if_neg (absent ticket index List.mem_cons_self).symm
      | place => rfl
    case unplaced =>
      intro id absent
      have kept := later.unplaced id fun ticket member =>
        absent ticket (List.mem_cons_of_mem _ member)
      refine kept.trans ((first.queuedIndex id).trans ?_)
      cases shift with
      | aim => rfl
      | place ticket => exact if_neg (absent ticket List.mem_cons_self).symm
    case placed =>
      intro heeded ticket member
      by_cases again : .place ticket ∈ rest
      · exact later.placed heeded.tail ticket again
      · obtain rfl : .place ticket = shift := (List.mem_cons.mp member).resolve_right again
        -- The packet is placed here for the last time, and it is not given another index after.
        have only {other : Ticket} (listed : p.Issued queue other)
            (same : other.marker = ticket.marker) : other = ticket :=
          filed.ticket_eq listed (issued (.place ticket) List.mem_cons_self) same
        have silent (other : Ticket) (inside : .place other ∈ rest) :
            other.marker ≠ ticket.marker := fun same =>
          again (only (issued (.place other) (List.mem_cons_of_mem _ inside)) same ▸ inside)
        have unplaced := later.unplaced ticket.marker silent
        have unaimed := later.unaimed ticket.marker fun other index inside =>
          silent other (heeded.tail.place_mem inside)
        have placed := first.queuedIndex ticket.marker
        rw [Shift.queuedIndex, if_pos rfl] at placed
        exact unplaced.trans (placed.trans (congrArg some
          ((unaimed.trans (first.newIndex ticket.marker)).symm)))

/-- Shifts of packets that a queue holds, every one of which the queue is told of. -/
structure Admits (p : Pipeline) (queue : QueueId) (shifts : List Shift) : Prop where
  issued : ∀ shift ∈ shifts, p.Issued queue shift.ticket
  heeded : Shift.Heeded shifts

/-- A packet that is not placed keeps its indices. -/
theorem Reshifted.of_not_placed {shifts : List Shift} (reshifted : p.Reshifted q queue shifts)
    (filed : p.Filed queue) (admits : p.Admits queue shifts) {ticket : Ticket}
    (issued : p.Issued queue ticket) (absent : .place ticket ∉ shifts) :
    (q.markers.get ticket.marker).newIndex = (p.markers.get ticket.marker).newIndex ∧
      (q.markers.get ticket.marker).queuedIndex = (p.markers.get ticket.marker).queuedIndex := by
  have silent (other : Ticket) (member : .place other ∈ shifts) :
      other.marker ≠ ticket.marker := fun same =>
    absent (filed.ticket_eq (admits.issued _ member) issued same ▸ member)
  exact ⟨reshifted.unaimed _ fun other _ member => silent other (admits.heeded.place_mem member),
    reshifted.unplaced _ silent⟩

/-- Where the packets of a queue stand after shifts. -/
structure Places (p q : Pipeline) (queue : QueueId) (shifts : List Shift) : Prop where
  /-- A packet that was placed stands under the new index that its marker has in the end. -/
  placed : ∀ ticket, .place ticket ∈ shifts → ∃ event, event.id = ticket.event ∧
    event.marker = some ticket.marker ∧
      (⟨(q.markers.get ticket.marker).newIndex, ticket.event⟩, event) ∈ q.entries queue
  kept : ∀ entry ∈ p.entries queue, ∀ id, entry.2.marker = some id →
    .place ⟨entry.2.id, id⟩ ∉ shifts → entry ∈ q.entries queue
  length : (q.entries queue).length = (p.entries queue).length

theorem issued_of_mem {entry : Entry} {id : MarkerId} (member : entry ∈ p.entries queue)
    (marked : entry.2.marker = some id) : p.Issued queue ⟨entry.2.id, id⟩ :=
  ⟨entry.2, List.mem_map_of_mem member, rfl, marked⟩

theorem Reshifted.places {shifts : List Shift} (reshifted : p.Reshifted q queue shifts)
    (filed : p.Filed queue) (admits : p.Admits queue shifts) : Places p q queue shifts where
  placed ticket member := by
    have issued := reshifted.rearranges.issued.mpr (admits.issued _ member)
    obtain ⟨index, event, stored, numbered, marked, recorded⟩ := reshifted.filed.lookup issued
    have placed := reshifted.placed admits.heeded ticket member
    obtain rfl := Option.some.inj (recorded.symm.trans placed)
    exact ⟨event, numbered, marked, stored⟩
  kept entry member id marked absent := by
    have same := reshifted.of_not_placed filed admits (issued_of_mem member marked) absent
    refine filed.mem_of_same reshifted.filed member ?_ fun other own => ?_
    · exact reshifted.rearranges.held.mem_iff.mpr (List.mem_map_of_mem member)
    · obtain rfl := Option.some.inj (marked.symm.trans own)
      exact same.2
  length := by
    simpa using reshifted.rearranges.held.length_eq

/-- What a packet that only one of two lists of shifts places is held under in the end. -/
theorem Reshifted.agree_iff {first second : List Shift} (one : p.Reshifted q queue first)
    (two : p.Reshifted r queue second) (filed : p.Filed queue) (admits : p.Admits queue first)
    (admits' : p.Admits queue second) {ticket : Ticket} (issued : p.Issued queue ticket)
    (placed : .place ticket ∈ first) (absent : .place ticket ∉ second)
    (same : (q.markers.get ticket.marker).newIndex = (r.markers.get ticket.marker).newIndex) :
    (q.markers.get ticket.marker).queuedIndex = (r.markers.get ticket.marker).queuedIndex ↔
      (p.markers.get ticket.marker).queuedIndex =
        some (p.markers.get ticket.marker).newIndex := by
  have kept := two.of_not_placed filed admits' issued absent
  rw [one.placed admits.heeded ticket placed, same, kept.1, kept.2, eq_comm]

/-- Shifts that end with the same new indices leave the same process, unless a packet that only one
of them places was not in its place before. -/
theorem Filed.shifted_eq_iff (filed : p.Filed queue) (unlocked : (p.queues queue).locked = false)
    {first second : List Shift} (admits : p.Admits queue first) (admits' : p.Admits queue second)
    (same : ∀ ticket, p.Issued queue ticket →
      ((p.shifted queue first).markers.get ticket.marker).newIndex =
        ((p.shifted queue second).markers.get ticket.marker).newIndex) :
    p.shifted queue first = p.shifted queue second ↔
      ∀ ticket, p.Issued queue ticket → ¬(.place ticket ∈ first ↔ .place ticket ∈ second) →
        (p.markers.get ticket.marker).queuedIndex =
          some (p.markers.get ticket.marker).newIndex := by
  have one := filed.reshifted unlocked admits.issued
  have two := filed.reshifted unlocked admits'.issued
  constructor
  · intro equal ticket issued only
    by_cases inside : .place ticket ∈ first
    · have absent : .place ticket ∉ second := fun also => only ⟨fun _ => also, fun _ => inside⟩
      exact (one.agree_iff two filed admits admits' issued inside absent (same ticket issued)).mp
        (by rw [equal])
    · have also : .place ticket ∈ second := Classical.byContradiction fun absent =>
        only ⟨fun placed => absurd placed inside, fun placed => absurd placed absent⟩
      exact (two.agree_iff one filed admits' admits issued also inside (same ticket issued).symm).mp
        (by rw [equal])
  · intro settled
    have agree (id : MarkerId) :
        ((p.shifted queue first).markers.get id).newIndex =
            ((p.shifted queue second).markers.get id).newIndex ∧
          ((p.shifted queue first).markers.get id).queuedIndex =
            ((p.shifted queue second).markers.get id).queuedIndex := by
      by_cases own : ∃ event ∈ (p.entries queue).map (·.2), event.marker = some id
      · obtain ⟨event, held, marked⟩ := own
        have issued : p.Issued queue ⟨event.id, id⟩ := ⟨event, held, rfl, marked⟩
        have new := same _ issued
        refine ⟨new, ?_⟩
        by_cases inside : .place ⟨event.id, id⟩ ∈ first <;>
          by_cases also : .place ⟨event.id, id⟩ ∈ second
        · rw [one.placed admits.heeded _ inside, two.placed admits'.heeded _ also, new]
        · exact (one.agree_iff two filed admits admits' issued inside also new).mpr
            (settled _ issued (by simp [inside, also]))
        · exact ((two.agree_iff one filed admits' admits issued also inside new.symm).mpr
            (settled _ issued (by simp [inside, also]))).symm
        · rw [(one.of_not_placed filed admits issued inside).2,
            (two.of_not_placed filed admits' issued also).2]
      · have absent : ∀ event ∈ (p.entries queue).map (·.2), event.marker ≠ some id :=
          fun event held marked => own ⟨event, held, marked⟩
        rw [one.rearranges.foreign id absent, two.rearranges.foreign id absent]
        exact ⟨rfl, rfl⟩
    exact one.rearranges.eq two.rearranges one.filed two.filed (fun id => (agree id).1)
      fun id => (agree id).2

/-- A packet that is moved. -/
structure Repositions (p : Pipeline) (queue : QueueId) (ticket : Ticket) (entry : Entry) :
    Prop where
  moved : (p.step (.reposition queue ticket)).reply = .moved true
  removed : (p.step (.remove queue ticket)).reply = .removed (some entry.2)
  /-- The process is left as if the packet had been taken out and queued again. -/
  again : (p.step (.reposition queue ticket)).state =
    p.after [.remove queue ticket, .enqueue queue entry.2]
  entries : ∀ other, other ∈ (p.step (.reposition queue ticket)).state.entries queue ↔
    other = (⟨(p.markers.get ticket.marker).newIndex, ticket.event⟩, entry.2) ∨
      other ∈ p.entries queue ∧ other ≠ entry
  length : ((p.step (.reposition queue ticket)).state.entries queue).length =
    (p.entries queue).length
  markers : ∀ id, id ≠ ticket.marker →
    (p.step (.reposition queue ticket)).state.markers.get id = p.markers.get id
  queues : ∀ other, other ≠ queue →
    (p.step (.reposition queue ticket)).state.queues other = p.queues other

theorem Filed.repositions (filed : p.Filed queue) (unlocked : (p.queues queue).locked = false)
    {entry : Entry} (member : entry ∈ p.entries queue) {id : MarkerId}
    (marked : entry.2.marker = some id) (away : (p.markers.get id).newIndex ≠ entry.1.index) :
    Repositions p queue ⟨entry.2.id, id⟩ entry := by
  obtain ⟨⟨old, number⟩, event⟩ := entry
  obtain rfl : number = event.id := filed.own _ member
  dsimp only at marked away ⊢
  obtain ⟨other, own, recorded⟩ := filed.recorded _ member
  obtain rfl : id = other := Option.some.inj (marked.symm.trans own)
  have moves : p.Moves queue ⟨event.id, id⟩ old event := ⟨recorded, away.symm, member⟩
  have step := step_reposition unlocked moves
  have state : (p.step (.reposition queue ⟨event.id, id⟩)).state =
      p.relocated queue ⟨event.id, id⟩ old event := by rw [step]; rfl
  have key : p.removalKey ⟨event.id, id⟩ = ⟨old, event.id⟩ := by
    rw [removalKey, Marker.queuedOrZero, recorded]
    rfl
  have stored : (p.removalKey ⟨event.id, id⟩, event) ∈ p.entries queue := key ▸ member
  have taken := step_remove unlocked stored
  rw [key] at taken
  have relocates := filed.relocate marked moves
  constructor
  case moved => rw [step]
  case removed => rw [taken]
  case again =>
    have free : ((p.step (.remove queue ⟨event.id, id⟩)).state.queues queue).locked = false := by
      rw [taken, queues_hold, if_pos rfl]
      exact unlocked
    have queued := step_enqueue free marked
    have index : ((p.markers.setQueued id none).get id).newIndex = (p.markers.get id).newIndex :=
      Markers.read_set Marker.newIndex (by rfl) id
    rw [state, after, List.foldl_cons, List.foldl_cons, List.foldl_nil, queued, taken]
    simp only [relocated, hold_hold, markers_hold, Markers.setQueued_setQueued, index, queues_hold,
      if_true]
  case entries =>
    intro other
    rw [state]
    exact filed.mem_relocated moves
  case length =>
    rw [state]
    simpa using (filed.held_relocated moves).length_eq
  case markers =>
    intro other different
    rw [state, get_relocated, if_neg different]
  case queues =>
    intro other different
    rw [state]
    exact relocates.rearranges.apart other different

end Pipeline

open Pipeline

/-- When events and their markers are owned by one queue at a time, every queue has its packets
filed. -/
theorem Run.filed {history : List Turn} {p : Pipeline} (run : Run {} history p)
    (owned : ∀ turn ∈ history, turn.Owned) (unshared : ∀ turn ∈ history, turn.Unshared)
    (queue : QueueId) : p.Filed queue := by
  have tidy := run.tidy owned
  have labelled := run.labelled unshared
  have nodup : (p.entries queue).Nodup := (p.queues queue).backlog.nodup
  constructor
  case own => exact tidy.own queue
  case recorded =>
    intro entry member
    obtain ⟨id, marked, _, recorded⟩ := labelled.recorded queue entry member
    exact ⟨id, marked, recorded⟩
  case single =>
    refine List.Nodup.map_on (fun first one second two same => ?_) nodup
    have number : first.1.event = second.1.event := by
      rw [tidy.own queue first one, tidy.own queue second two, same]
    exact (tidy.entry_unique one two number).symm
  case unshared =>
    exact List.Nodup.map_on (fun first one second two same =>
      (labelled.apart queue queue first one second two same).2) nodup

/-- Packets are filed when each one has a marker of its own number. -/
theorem filed_of_numbered {p : Pipeline} {queue : QueueId}
    (numbered : ∀ entry ∈ p.entries queue, entry.1.event = entry.2.id ∧
      entry.2.marker = some entry.2.id ∧
      (p.markers.get entry.2.id).queuedIndex = some entry.1.index)
    (single : ((p.entries queue).map fun entry => entry.2.id).Nodup) : p.Filed queue where
  own entry member := (numbered entry member).1
  recorded entry member := ⟨_, (numbered entry member).2⟩
  single := single
  unshared := by
    have marked : (p.entries queue).map (fun entry => entry.2.marker) =
        ((p.entries queue).map fun entry => entry.2.id).map some := by
      rw [List.map_map]
      exact List.map_congr_left fun entry member => (numbered entry member).2.1
    rw [marked]
    exact single.map fun _ _ => Option.some.inj

/-- How the packets of a queue can be moved. -/
structure Rearrangement (p : Pipeline) (queue : QueueId) : Prop where
  /-- To move a packet is to take it out and to queue it again, and touches nothing else. -/
  moves : ∀ entry ∈ p.entries queue, ∀ id, entry.2.marker = some id →
    (p.markers.get id).newIndex ≠ entry.1.index → Repositions p queue ⟨entry.2.id, id⟩ entry
  stays : ∀ entry ∈ p.entries queue, ∀ id, entry.2.marker = some id →
    (p.markers.get id).newIndex = entry.1.index →
    p.step (.reposition queue ⟨entry.2.id, id⟩) = { reply := .moved false, state := p }
  places : ∀ shifts, p.Admits queue shifts → Places p (p.shifted queue shifts) queue shifts
  /-- Two ways to move the same packets to the same indices come to the same. -/
  agrees : ∀ first second, p.Admits queue first → p.Admits queue second →
    (∀ ticket, .place ticket ∈ first ↔ .place ticket ∈ second) →
    (∀ ticket, p.Issued queue ticket →
      ((p.shifted queue first).markers.get ticket.marker).newIndex =
        ((p.shifted queue second).markers.get ticket.marker).newIndex) →
    p.shifted queue first = p.shifted queue second
  /-- When they do not move the same packets, they come to the same exactly if those that only one
  of them moves were where their markers wanted them. -/
  differs : ∀ first second, p.Admits queue first → p.Admits queue second →
    (∀ ticket, p.Issued queue ticket →
      ((p.shifted queue first).markers.get ticket.marker).newIndex =
        ((p.shifted queue second).markers.get ticket.marker).newIndex) →
    (p.shifted queue first = p.shifted queue second ↔
      ∀ ticket, p.Issued queue ticket → ¬(.place ticket ∈ first ↔ .place ticket ∈ second) →
        (p.markers.get ticket.marker).queuedIndex = some (p.markers.get ticket.marker).newIndex)

/-- A queue whose packets are filed can be rearranged in any order and by any detour. -/
theorem rearrangement {p : Pipeline} {queue : QueueId} (filed : p.Filed queue)
    (unlocked : (p.queues queue).locked = false) : Rearrangement p queue where
  moves _ member _ marked away := filed.repositions unlocked member marked away
  stays entry member id marked same := by
    apply step_reposition_of_not_moves unlocked
    obtain ⟨other, own, recorded⟩ := filed.recorded entry member
    obtain rfl : id = other := Option.some.inj (marked.symm.trans own)
    exact not_moves_of_recorded (by rw [recorded, same])
  places _ admits := (filed.reshifted unlocked admits.issued).places filed admits
  agrees _ _ admits admits' both same :=
    (filed.shifted_eq_iff unlocked admits admits' same).mpr fun ticket _ only =>
      absurd (both ticket) only
  differs _ _ admits admits' same := filed.shifted_eq_iff unlocked admits admits' same

/-- Three packets, of which the first two change places with each other and the third one comes to
stand between them, by two ways. -/
def threeQueued : List Action :=
  [.register (.fresh 0 1 0 (.ofMillis 500)), .register (.fresh 0 2 0 (.ofMillis 500)),
    .register (.fresh 0 3 0 (.ofMillis 500)), .enqueue 0 (.chat 0 0), .enqueue 0 (.chat 1 1),
    .enqueue 0 (.chat 2 2)]

def inTurn : List Shift :=
  [.aim ⟨0, 0⟩ 2, .place ⟨0, 0⟩, .aim ⟨1, 1⟩ 1, .place ⟨1, 1⟩, .aim ⟨2, 2⟩ 1, .place ⟨2, 2⟩]

def byDetours : List Shift :=
  [.aim ⟨2, 2⟩ 1, .aim ⟨1, 1⟩ 9, .place ⟨1, 1⟩, .place ⟨2, 2⟩, .aim ⟨1, 1⟩ 1, .aim ⟨0, 0⟩ 2,
    .place ⟨1, 1⟩, .place ⟨0, 0⟩, .place ⟨2, 2⟩]

theorem rearrangement_threeQueued :
    let p := after {} threeQueued
    p.Filed 0 ∧ (p.queues 0).locked = false ∧ Rearrangement p 0 ∧ p.Admits 0 inTurn ∧
      p.Admits 0 byDetours ∧
      p.shifted 0 inTurn = p.shifted 0 byDetours ∧
      ((p.shifted 0 inTurn).entries 0).map (·.1) = [⟨1, 1⟩, ⟨1, 2⟩, ⟨2, 0⟩] := by
  intro p
  have filed : p.Filed 0 := filed_of_numbered (by decide) (by decide)
  have admits : p.Admits 0 inTurn := ⟨by unfold Issued; decide, by decide⟩
  have admits' : p.Admits 0 byDetours := ⟨by unfold Issued; decide, by decide⟩
  have both : ∀ ticket, .place ticket ∈ inTurn ↔ .place ticket ∈ byDetours := by
    intro ticket
    simp only [inTurn, byDetours, List.mem_cons, List.not_mem_nil, Shift.place.injEq, reduceCtorEq]
    grind
  have same : ∀ event ∈ (p.entries 0).map (·.2), ∀ id ∈ event.marker,
      ((p.shifted 0 inTurn).markers.get id).newIndex =
        ((p.shifted 0 byDetours).markers.get id).newIndex := by decide
  have rearranges := rearrangement filed rfl
  refine ⟨filed, rfl, rearranges, admits, admits', ?_, by decide⟩
  refine rearranges.agrees inTurn byDetours admits admits' both ?_
  rintro ticket ⟨event, held, _, marked⟩
  exact same event held ticket.marker marked

/-- Two packets, of which the first one has another index that its queue was not told of. -/
def oneAimed : List Action :=
  [.register (.fresh 0 1 0 (.ofMillis 500)), .register (.fresh 0 2 0 (.ofMillis 500)),
    .enqueue 0 (.chat 0 0), .enqueue 0 (.chat 1 1), .revise 0 (.newIndex 7)]

def secondMoved : List Shift := [.aim ⟨1, 1⟩ 5, .place ⟨1, 1⟩]

def bothMoved : List Shift := [.aim ⟨1, 1⟩ 5, .place ⟨1, 1⟩, .aim ⟨0, 0⟩ 7, .place ⟨0, 0⟩]

/-- The same new indices in the end are not enough for the same queue: a packet that was not in its
place stays where it is unless it is moved. -/
theorem not_agrees_oneAimed :
    let p := after {} oneAimed
    p.Filed 0 ∧ (p.queues 0).locked = false ∧ p.Admits 0 secondMoved ∧ p.Admits 0 bothMoved ∧
      (∀ ticket, p.Issued 0 ticket →
        ((p.shifted 0 secondMoved).markers.get ticket.marker).newIndex =
          ((p.shifted 0 bothMoved).markers.get ticket.marker).newIndex) ∧
      ((p.shifted 0 secondMoved).entries 0).map (·.1) = [⟨1, 0⟩, ⟨5, 1⟩] ∧
      ((p.shifted 0 bothMoved).entries 0).map (·.1) = [⟨5, 1⟩, ⟨7, 0⟩] ∧
      ¬p.shifted 0 secondMoved = p.shifted 0 bothMoved := by
  intro p
  have filed : p.Filed 0 := filed_of_numbered (by decide) (by decide)
  have same : ∀ event ∈ (p.entries 0).map (·.2), ∀ id ∈ event.marker,
      ((p.shifted 0 secondMoved).markers.get id).newIndex =
        ((p.shifted 0 bothMoved).markers.get id).newIndex := by decide
  have apart : ((p.shifted 0 secondMoved).entries 0).map (·.1) ≠
      ((p.shifted 0 bothMoved).entries 0).map (·.1) := by decide
  refine ⟨filed, rfl, ⟨by unfold Issued; decide, by decide⟩, ⟨by unfold Issued; decide, by decide⟩,
    ?_, by decide, by decide, fun equal => apart (by rw [equal])⟩
  rintro ticket ⟨event, held, _, marked⟩
  exact same event held ticket.marker marked

end PacketFlow
