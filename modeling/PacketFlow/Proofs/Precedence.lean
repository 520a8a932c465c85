import Mathlib.Data.List.Dedup
import PacketFlow.Proofs.Conservation
import PacketFlow.Proofs.Exhaustion
import PacketFlow.Proofs.Progress
import PacketFlow.Proofs.Sorting

/-! Precedence of markers, in containers and in queues.

Markers compare by their new index alone. Containers that tell elements apart by that comparison
keep one marker of each index. A queue keeps every packet: it adds the number of the event to the
index that a marker has when the packet gets its place, so that its order refines that of markers
for as long as they keep their indices.
-/

set_option autoImplicit false

namespace PacketFlow

namespace Marker

theorem compare_eq_eq_iff (a b : Marker) : compare a b = .eq ↔ a.newIndex = b.newIndex := by
  rw [compare_eq, Std.compare_eq_iff_eq]

theorem beq_iff (a b : Marker) : (a == b) = true ↔ a.newIndex = b.newIndex :=
  @beq_iff_eq _ _ _ a.newIndex b.newIndex

theorem lt_iff (a b : Marker) : a.lt b = true ↔ a.newIndex.toNat < b.newIndex.toNat := by
  rw [lt, compare_eq, Ordering.isLT_iff_eq_lt, Std.compare_eq_lt, UInt64.lt_iff_toNat_lt]

instance : Std.TransOrd Marker where
  eq_swap {a b} := by
    rw [compare_eq, compare_eq]
    exact Std.OrientedCmp.eq_swap
  isLE_trans {a b c} ab bc := by
    rw [compare_eq] at ab bc ⊢
    exact Std.TransCmp.isLE_trans ab bc

instance : Std.LawfulBEqCmp (compare : Marker → Marker → Ordering) where
  compare_eq_iff_beq {a b} := by
    rw [compare_eq_eq_iff, beq_iff]

instance : EquivBEq Marker where
  rfl {a} := (beq_iff a a).mpr rfl
  symm {a b} same := (beq_iff b a).mpr ((beq_iff a b).mp same).symm
  trans {a b c} ab bc := (beq_iff a c).mpr (((beq_iff a b).mp ab).trans ((beq_iff b c).mp bc))

instance : LawfulHashable Marker where
  hash_eq a b same := congrArg (hash : UInt64 → UInt64) ((beq_iff a b).mp same)

/-- Of the markers with one index those that come first in a list are kept. -/
structure OneEach (markers kept : List Marker) : Prop where
  first : ∀ m ∈ kept, markers.find? (·.newIndex == m.newIndex) = some m
  each : ∀ m ∈ markers, ∃ other ∈ kept, other.newIndex = m.newIndex
  apart : kept.Pairwise fun a b => a.newIndex ≠ b.newIndex

theorem contains_iff (kept : List Marker) (m : Marker) :
    kept.contains m = true ↔ ∃ other ∈ kept, other.newIndex = m.newIndex := by
  rw [List.contains_iff_exists_mem_beq]
  refine exists_congr fun other => and_congr_right fun _ => ?_
  rw [beq_iff, eq_comm]

namespace OneEach

theorem nil : OneEach [] [] := ⟨List.forall_mem_nil _, List.forall_mem_nil _, .nil⟩

theorem perm {markers kept next : List Marker} (one : OneEach markers kept)
    (same : next.Perm kept) : OneEach markers next where
  first m member := one.first m (same.mem_iff.mp member)
  each m member := by
    obtain ⟨other, inside, equal⟩ := one.each m member
    exact ⟨other, same.mem_iff.mpr inside, equal⟩
  apart := (same.pairwise_iff fun different => Ne.symm different).mpr one.apart

/-- What comes behind does not matter for what comes first. -/
theorem first_append {markers : List Marker} {kept : Marker}
    (first : markers.find? (·.newIndex == kept.newIndex) = some kept) (m : Marker) :
    (markers ++ [m]).find? (·.newIndex == kept.newIndex) = some kept := by
  rw [List.find?_append, first]
  rfl

/-- A marker is kept unless one of its index was kept before. -/
theorem insert {markers kept : List Marker} (one : OneEach markers kept) (m : Marker) :
    OneEach (markers ++ [m]) (if kept.contains m then kept else m :: kept) := by
  split
  next present =>
    constructor
    case first => exact fun other member => first_append (one.first other member) m
    case each =>
      intro other member
      rcases List.mem_append.mp member with before | last
      · exact one.each other before
      · rw [List.mem_singleton.mp last]
        exact (contains_iff kept m).mp present
    case apart => exact one.apart
  next absent =>
    have fresh : ∀ other ∈ kept, other.newIndex ≠ m.newIndex := fun other member same =>
      absent ((contains_iff kept m).mpr ⟨other, member, same⟩)
    constructor
    case first =>
      intro other member
      rcases List.mem_cons.mp member with rfl | old
      · -- None of the markers before has the index, since one of them would have been kept.
        have before : markers.find? (·.newIndex == other.newIndex) = none := by
          rw [List.find?_eq_none]
          intro earlier inside same
          obtain ⟨there, stays, equal⟩ := one.each earlier inside
          exact fresh there stays (equal.trans (eq_of_beq same))
        rw [List.find?_append, before]
        simp
      · exact first_append (one.first other old) m
    case each =>
      intro other member
      rcases List.mem_append.mp member with before | last
      · obtain ⟨there, stays, equal⟩ := one.each other before
        exact ⟨there, List.mem_cons_of_mem m stays, equal⟩
      · rw [List.mem_singleton.mp last]
        exact ⟨m, List.mem_cons_self, rfl⟩
    case apart => exact .cons (fun other member same => fresh other member same.symm) one.apart

/-- Markers that are put into a container one after the other. -/
theorem foldl {σ : Type} {toList : σ → List Marker} {put : σ → Marker → σ}
    (puts : ∀ container m, (toList (put container m)).Perm
      (if (toList container).contains m then toList container else m :: toList container))
    {markers : List Marker} {container : σ} (one : OneEach markers (toList container))
    (more : List Marker) : OneEach (markers ++ more) (toList (more.foldl put container)) := by
  induction more generalizing markers container with
  | nil => simpa using one
  | cons m more ih =>
    have longer := ih ((one.insert m).perm (puts container m))
    rw [List.append_assoc] at longer
    exact longer

/-- As many are kept as there are indices. -/
theorem length {markers kept : List Marker} (one : OneEach markers kept) :
    kept.length = (markers.map newIndex).dedup.length := by
  have distinct : (kept.map newIndex).Nodup := by
    rw [List.nodup_iff_pairwise_ne, List.pairwise_map]
    exact one.apart
  have same : (kept.map newIndex).Perm (markers.map newIndex).dedup := by
    rw [List.perm_ext_iff_of_nodup distinct (List.nodup_dedup _)]
    intro index
    rw [List.mem_dedup, List.mem_map, List.mem_map]
    constructor
    · rintro ⟨m, member, rfl⟩
      exact ⟨m, List.mem_of_find?_eq_some (one.first m member), rfl⟩
    · rintro ⟨m, member, rfl⟩
      exact one.each m member
  rw [← same.length_eq, List.length_map]

end OneEach

theorem oneEach_orderedSet (markers : List Marker) :
    OneEach markers (orderedSet markers).toList := by
  have puts (container : Std.TreeSet Marker) (m : Marker) : (container.insert m).toList.Perm
      (if container.toList.contains m then container.toList else m :: container.toList) := by
    have inserted := @Std.TreeSet.toList_insert_perm _ _ container _ _ _ m
    rwa [Std.TreeSet.contains_toList]
  have empty : OneEach [] (∅ : Std.TreeSet Marker).toList := .nil
  rw [orderedSet, Std.TreeSet.ofList_equiv_foldl.toList_eq]
  exact empty.foldl puts markers

theorem oneEach_hashedSet (markers : List Marker) :
    OneEach markers (hashedSet markers).toList := by
  have puts (container : Std.HashSet Marker) (m : Marker) : (container.insert m).toList.Perm
      (if container.toList.contains m then container.toList else m :: container.toList) := by
    have inserted := @Std.HashSet.toList_insert_perm _ _ _ container _ _ m
    rwa [Std.HashSet.contains_toList]
  have empty : OneEach [] (∅ : Std.HashSet Marker).toList := by
    rw [Std.HashSet.toList_empty]
    exact .nil
  exact (empty.foldl puts markers).perm Std.HashSet.ofList_equiv_foldl.toList_perm

/-- How markers compare, and what becomes of a list of them in a sort and in containers. A partner
that is missing comes before every marker, as `none` does among options. -/
structure Ranked (markers : List Marker) : Prop where
  swap : ∀ a b : Option Marker, compare a b = (compare b a).swap
  trans : ∀ a b c : Option Marker, (compare a b).isLE = true → (compare b c).isLE = true →
    (compare a c).isLE = true
  present : ∀ a b : Marker, compare (some a) (some b) = compare a b
  missing : ∀ a : Marker, compare none (some a) = .lt
  compareTo : ∀ (a : Marker) (partner : Option Marker),
    a.compareTo partner = compare (some a) partner
  equal : ∀ a b : Marker, compare a b = .eq ↔ a.newIndex = b.newIndex
  same : ∀ a b : Marker, (a == b) = true ↔ a.newIndex = b.newIndex
  hashed : ∀ a b : Marker, a.newIndex = b.newIndex → hash a = hash b
  less : ∀ a b : Marker, a.lt b = true ↔ compare a b = .lt
  sorted : SortedBy (fun marker => marker.newIndex.toNat) markers (sort markers)
  orderedSet : OneEach markers (orderedSet markers).toList
  hashedSet : OneEach markers (hashedSet markers).toList
  sizes : (Marker.orderedSet markers).size = (markers.map newIndex).dedup.length ∧
    (Marker.hashedSet markers).size = (markers.map newIndex).dedup.length

theorem ranked (markers : List Marker) : Ranked markers where
  swap _ _ := Std.OrientedCmp.eq_swap
  trans _ _ _ := Std.TransCmp.isLE_trans
  present _ _ := rfl
  missing _ := rfl
  compareTo _ partner := by cases partner <;> rfl
  equal := compare_eq_eq_iff
  same := beq_iff
  hashed _ _ same := congrArg (hash : UInt64 → UInt64) same
  less _ _ := Ordering.isLT_iff_eq_lt
  sorted := sortedBy_sort markers
  orderedSet := oneEach_orderedSet markers
  hashedSet := oneEach_hashedSet markers
  sizes := by
    rw [← Std.TreeSet.length_toList, ← Std.HashSet.length_toList]
    exact ⟨(oneEach_orderedSet markers).length, (oneEach_hashedSet markers).length⟩

end Marker

open Pipeline

/-- A turn gives a packet its place in a queue, under the index that its marker has: the packet is
stored, or moved by a ticket that carries the marker. -/
inductive Turn.Places (queue : QueueId) (entry : Entry) (id : MarkerId) (turn : Turn) : Prop where
  | stored (action : turn.action = .enqueue queue entry.2)
    (key : entry.1 = ⟨(turn.state.markers.get id).newIndex, entry.2.id⟩)
  | moved {event : EventId} {old : UInt64} (action : turn.action = .reposition queue ⟨event, id⟩)
    (moves : turn.state.Moves queue ⟨event, id⟩ old entry.2)
    (key : entry.1 = ⟨(turn.state.markers.get id).newIndex, event⟩)

/-- A packet has its place from its own marker, which was given no other index since. -/
structure InPlace (history : List Turn) (queue : QueueId) (entry : Entry) (id : MarkerId) :
    Prop where
  marked : entry.2.marker = some id
  placed : ∃ before turn later, history = before ++ turn :: later ∧
    id < turn.state.markers.count ∧ turn.Places queue entry id ∧
    ∀ other ∈ later, ∀ index, other.action ≠ .revise id (.newIndex index)

/-- A packet that is in its place is held under the index that its marker has. -/
theorem InPlace.index {history : List Turn} {p : Pipeline} (run : Run {} history p)
    {queue : QueueId} {entry : Entry} {id : MarkerId} (inPlace : InPlace history queue entry id) :
    entry.1.index = (p.markers.get id).newIndex := by
  obtain ⟨before, turn, later, split, registered, places, kept⟩ := inPlace.placed
  obtain ⟨toTurn, fromTurn⟩ := run.cut split
  have placed : entry.1.index = (turn.state.markers.get id).newIndex ∧
      ∀ change, turn.action ≠ .revise id change := by
    cases places with
    | stored action key => exact ⟨congrArg Key.index key, by simp [action]⟩
    | moved action _ key => exact ⟨congrArg Key.index key, by simp [action]⟩
  obtain ⟨still, first⟩ := read_kept Marker.enduring_newIndex toTurn.guarded registered
    fun change revised => absurd revised (placed.2 change)
  have last := fromTurn.read_kept Marker.enduring_newIndex (toTurn.guarded.step turn.action) still
    fun other member change revised record =>
      record.newIndex_apply fun index same => kept other member index (same ▸ revised)
  exact placed.1.trans (first.symm.trans last.2.symm)

/-- One packet of a queue stands before another when its key is lower. -/
theorem Pipeline.before_iff {p : Pipeline} {queue : QueueId} {a b : Entry}
    (first : a ∈ p.entries queue) (second : b ∈ p.entries queue) :
    [a, b].Sublist (p.entries queue) ↔ a.1.lt b.1 = true := by
  have ascending := p.ascending queue
  constructor
  · exact List.pairwise_iff_forall_sublist.mp ascending
  · intro low
    obtain ⟨before, behind, split⟩ := List.append_of_mem first
    rw [split] at ascending second ⊢
    obtain ⟨-, later, apart⟩ := List.pairwise_append.mp ascending
    rcases List.mem_append.mp second with earlier | there
    · have high := apart b earlier a List.mem_cons_self
      rw [Key.lt_asymm low] at high
      cases high
    · rcases List.mem_cons.mp there with rfl | after
      · rw [Key.lt_irrefl] at low
        cases low
      · exact ((List.singleton_sublist.mpr after).cons_cons a).trans (List.sublist_append_right ..)

/-- What queues make of the order of markers. -/
structure Sequenced (history : List Turn) (p : Pipeline) : Prop where
  /-- Keys are in a strict linear order, which a queue keeps. -/
  irreflexive : ∀ key : Key, key.lt key = false
  transitive : ∀ a b c : Key, a.lt b = true → b.lt c = true → a.lt c = true
  connected : ∀ a b : Key, a ≠ b → a.lt b = true ∨ b.lt a = true
  before : ∀ queue, ∀ a ∈ p.entries queue, ∀ b ∈ p.entries queue,
    [a, b].Sublist (p.entries queue) ↔ a.1.lt b.1 = true
  /-- Packets in their places stand in the order of their markers, and where those are equal in the
  order of the events. -/
  order : ∀ queue, ∀ a ∈ p.entries queue, ∀ b ∈ p.entries queue, ∀ m n,
    InPlace history queue a m → InPlace history queue b n →
      (a.1.lt b.1 = true ↔ (p.markers.get m).lt (p.markers.get n) = true ∨
        ((p.markers.get m == p.markers.get n) = true ∧ a.2.id < b.2.id))
  /-- Whatever the markers are, a packet that is stored or moved takes no other one's place. -/
  stored : ∀ turn ∈ history, ∀ queue event id, turn.action = .enqueue queue event →
    event.marker = some id → (turn.step.state.entries queue).Perm
      ((⟨(turn.state.markers.get id).newIndex, event.id⟩, event) :: turn.state.entries queue)
  moved : ∀ turn ∈ history, ∀ queue ticket, turn.action = .reposition queue ticket →
    ((turn.step.state.entries queue).map Prod.snd).Perm ((turn.state.entries queue).map Prod.snd)

theorem Turn.stored_perm {turn : Turn} (guarded : turn.state.Guarded) (tidy : turn.state.Tidy)
    (owned : turn.Owned) {queue : QueueId} {event : Event} {id : MarkerId}
    (action : turn.action = .enqueue queue event) (marked : event.marker = some id) :
    (turn.step.state.entries queue).Perm
      ((⟨(turn.state.markers.get id).newIndex, event.id⟩, event) :: turn.state.entries queue) := by
  rw [step, action, step_enqueue (guarded.unlocked queue) marked, entries_hold, if_pos rfl]
  exact Backlog.insert_perm (tidy.free_enqueue (owned queue event action queue) _)

theorem Turn.moved_perm {turn : Turn} (guarded : turn.state.Guarded) (tidy : turn.state.Tidy)
    {queue : QueueId} {ticket : Ticket} (action : turn.action = .reposition queue ticket) :
    ((turn.step.state.entries queue).map Prod.snd).Perm
      ((turn.state.entries queue).map Prod.snd) := by
  have unlocked := guarded.unlocked queue
  rw [step, action]
  by_cases moves : ∃ old event, turn.state.Moves queue ticket old event
  · obtain ⟨old, event, moves⟩ := moves
    rw [step_reposition unlocked moves, entries_hold, if_pos rfl]
    have taken := (Backlog.erase_perm moves.2.2).map Prod.snd
    have free : ∀ entry ∈ ((turn.state.queues queue).backlog.erase ⟨old, ticket.event⟩).entries,
        entry.1 ≠ ⟨(turn.state.markers.get ticket.marker).newIndex, ticket.event⟩ :=
      fun entry member => tidy.free_move moves entry (Backlog.mem_erase.mp member).1
    exact ((Backlog.insert_perm free).map Prod.snd).trans taken.symm
  · rw [step_reposition_of_not_moves unlocked fun old event found => moves ⟨old, event, found⟩]

theorem Run.tidy_of_mem {history : List Turn} {p : Pipeline} (run : Run {} history p)
    (owned : ∀ turn ∈ history, turn.Owned) {turn : Turn} (member : turn ∈ history) :
    turn.state.Guarded ∧ turn.state.Tidy := by
  obtain ⟨before, after, split⟩ := List.append_of_mem member
  have toTurn := (run.cut split).1
  exact ⟨toTurn.guarded,
    toTurn.tidy fun earlier inside => owned earlier (split ▸ List.mem_append_left _ inside)⟩

/-- Markers are ranked by their indices, containers keep one of each index, and queues keep all
packets and refine the order of those whose markers keep their indices. -/
theorem precedence {history : List Turn} {p : Pipeline} (run : Run {} history p)
    (owned : ∀ turn ∈ history, turn.Owned) (markers : List Marker) :
    Marker.Ranked markers ∧ Sequenced history p := by
  refine ⟨Marker.ranked markers, ?_⟩
  constructor
  case irreflexive => exact Key.lt_irrefl
  case transitive => exact fun _ _ _ => Key.lt_trans
  case connected =>
    intro a b different
    cases low : a.lt b with
    | true => exact .inl rfl
    | false =>
      cases high : b.lt a with
      | true => exact .inr rfl
      | false => exact absurd (Key.lt_connected low high) different
  case before => exact fun queue a first b second => before_iff first second
  case order =>
    intro queue a first b second m n placed placed'
    have tidy := run.tidy owned
    rw [Key.lt_iff, placed.index run, placed'.index run, tidy.own queue a first,
      tidy.own queue b second, Marker.lt_iff, Marker.beq_iff, UInt64.toNat_inj]
  case stored =>
    intro turn member queue event id action marked
    obtain ⟨guarded, tidy⟩ := run.tidy_of_mem owned member
    exact turn.stored_perm guarded tidy (owned turn member) action marked
  case moved =>
    intro turn member queue ticket action
    obtain ⟨guarded, tidy⟩ := run.tidy_of_mem owned member
    exact turn.moved_perm guarded tidy action

/-- Two packets of one index, and a third one that is moved before them. -/
def reordered : List Action :=
  [.register (.fresh 0 5 0 (.ofMillis 100)), .register (.fresh 0 5 1 (.ofMillis 100)),
    .register (.fresh 0 7 2 (.ofMillis 100)), .enqueue 0 (.chat 1 1), .enqueue 0 (.chat 0 0),
    .enqueue 0 (.chat 2 2), .revise 2 (.newIndex 3), .reposition 0 ⟨2, 2⟩]

theorem owned_reordered : ∀ turn ∈ turns {} reordered, turn.Owned := by
  intro turn member queue event action other held inside
  simp only [reordered, turns, List.mem_cons, List.not_mem_nil, or_false] at member
  rcases member with rfl | rfl | rfl | rfl | rfl | rfl | rfl | rfl
  all_goals cases action
  · cases other <;> cases inside
  all_goals
    cases other with
    | zero => revert held; decide
    | succ => cases inside

/-- One packet stands where it was stored, the other one where it was moved. -/
theorem inPlace_reordered : InPlace (turns {} reordered) 0 (⟨5, 0⟩, .chat 0 0) 0 ∧
    InPlace (turns {} reordered) 0 (⟨3, 2⟩, .chat 2 2) 2 := by
  have storing := turns_append {} (reordered.take 4) (reordered.drop 4)
  have moving := turns_append {} (reordered.take 7) (reordered.drop 7)
  refine ⟨⟨rfl, _, _, _, storing, by decide, .stored rfl rfl, ?_⟩,
    ⟨rfl, _, _, _, moving, by decide, .moved rfl ⟨rfl, by decide, by decide⟩ rfl,
      List.forall_mem_nil _⟩⟩
  simp [reordered, turns]

theorem precedence_reordered :
    Run {} (turns {} reordered) (after {} reordered) ∧
      (∀ turn ∈ turns {} reordered, turn.Owned) ∧
      (Marker.Ranked [.fresh 0 5 0 (.ofMillis 100), .fresh 0 3 9 .zero, .fresh 1 5 4 .zero] ∧
        Sequenced (turns {} reordered) (after {} reordered)) ∧
      ((after {} reordered).entries 0).map Prod.fst = [⟨3, 2⟩, ⟨5, 0⟩, ⟨5, 1⟩] ∧
      InPlace (turns {} reordered) 0 (⟨5, 0⟩, .chat 0 0) 0 ∧
      InPlace (turns {} reordered) 0 (⟨3, 2⟩, .chat 2 2) 2 := by
  have run := Run.ofActions {} reordered
  exact ⟨run, owned_reordered, precedence run owned_reordered _, by decide, inPlace_reordered⟩

/-- An event changes its marker between two stays in a queue. Its first ticket stays usable, and the
first marker comes to record the index of the second stay, for another event in another queue. -/
def displaced : List Action :=
  [.register (.fresh 0 5 0 (.ofMillis 100)), .register (.fresh 0 5 0 (.ofMillis 100)),
    .register (.fresh 0 7 0 (.ofMillis 100)), .enqueue 0 (.chat 0 0), .remove 0 ⟨0, 0⟩,
    .enqueue 0 (.chat 0 1), .enqueue 0 (.chat 1 2), .enqueue 1 (.chat 2 0),
    .revise 0 (.newIndex 9), .reposition 0 ⟨0, 0⟩]

theorem owned_displaced : ∀ turn ∈ turns {} displaced, turn.Owned := by
  intro turn member queue event action other held inside
  simp only [displaced, turns, List.mem_cons, List.not_mem_nil, or_false] at member
  rcases member with rfl | rfl | rfl | rfl | rfl | rfl | rfl | rfl | rfl | rfl
  all_goals cases action
  · cases other <;> cases inside
  all_goals
    rcases other with _ | _ | other
    · revert held; decide
    · revert held; decide
    · cases inside

/-- A ticket of another marker moves a packet behind one of a higher marker, though no marker of the
two was ever given another index. -/
theorem not_sequenced_displaced :
    Run {} (turns {} displaced) (after {} displaced) ∧
      (∀ turn ∈ turns {} displaced, turn.Owned) ∧
      (∀ turn ∈ turns {} displaced, ∀ index,
        turn.action ≠ .revise 1 (.newIndex index) ∧ turn.action ≠ .revise 2 (.newIndex index)) ∧
      (after {} displaced).entries 0 = [(⟨7, 1⟩, .chat 1 2), (⟨9, 0⟩, .chat 0 1)] ∧
      ((after {} displaced).markers.get 1).lt ((after {} displaced).markers.get 2) = true ∧
      ¬[(⟨9, 0⟩, Event.chat 0 1), (⟨7, 1⟩, Event.chat 1 2)].Sublist
        ((after {} displaced).entries 0) :=
  ⟨Run.ofActions {} displaced, owned_displaced, by simp [displaced, turns], by decide, by decide,
    by decide⟩

end PacketFlow
