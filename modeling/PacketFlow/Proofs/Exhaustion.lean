import Mathlib.Algebra.Ring.Nat
import PacketFlow.Admission
import PacketFlow.Proofs.Progress

/-! The order of admission, up to the last index and beyond it.

Each admission adds twice in words that stop at the largest one. Over a sequence of admissions this
comes to stopping once: an index is the exact sum of all that was reserved, cut off at the largest
word. So indices rise until the range is used up and repeat only there, where queues fall back on
the numbers of events and keep the order of admission all the same.
-/

set_option autoImplicit false

namespace PacketFlow

namespace Admission

/-- A packet comes in, with the defaults of the stream or with deltas of its own. -/
inductive Request where
  | standard (time : UInt64)
  | own (delta : UInt64) (timeoutDelta : Duration) (time : UInt64)

/-- How many indices are skipped before the packet. -/
def Request.delta (defaults : Defaults) : Request → UInt64
  | .standard _ => defaults.sendingDelta
  | .own delta _ _ => delta

def accept (admission : Admission) : Request → Marker × Admission × List Notice
  | .standard time => admission.issue time
  | .own delta timeoutDelta time => admission.issueAt delta timeoutDelta time

def next (admission : Admission) (request : Request) : Admission := (admission.accept request).2.1

def after (admission : Admission) (requests : List Request) : Admission :=
  requests.foldl next admission

/-- The markers that are given out, in the order of admission. -/
def issued (admission : Admission) : List Request → List Marker
  | [] => []
  | request :: rest => (admission.accept request).1 :: (admission.next request).issued rest

/-- What requests reserve in unbounded numbers: the indices they skip, and one for each. -/
def reserved (defaults : Defaults) (requests : List Request) : Nat :=
  (requests.map fun request => (request.delta defaults).toNat + 1).sum

section accept

variable (admission : Admission) (request : Request)

theorem current_next : (admission.next request).current =
    admission.nextIndex (request.delta admission.defaults) := by
  cases request <;> rfl

theorem defaults_next : (admission.next request).defaults = admission.defaults := by
  cases request <;> rfl

theorem admittedIndex_accept :
    (admission.accept request).1.admittedIndex = (admission.next request).current := by
  cases request <;> rfl

theorem newIndex_accept :
    (admission.accept request).1.newIndex = (admission.accept request).1.admittedIndex := by
  cases request <;> rfl

end accept

/-- Stopping at every addition comes to stopping once. -/
theorem toNat_current_after (admission : Admission) (requests : List Request) :
    (admission.after requests).current.toNat =
      min (admission.current.toNat + reserved admission.defaults requests)
        18446744073709551615 := by
  induction requests generalizing admission with
  | nil =>
    have bound := admission.current.toNat_lt
    simp only [after, List.foldl_nil, reserved, List.map_nil, List.sum_nil]
    omega
  | cons request rest ih =>
    have later := ih (admission.next request)
    rw [defaults_next, current_next, toNat_nextIndex] at later
    simp only [after, List.foldl_cons, reserved, List.map_cons, List.sum_cons] at later ⊢
    omega

section issued

variable {admission : Admission} {requests : List Request} {place : Nat} {record : Marker}

theorem length_issued (admission : Admission) (requests : List Request) :
    (admission.issued requests).length = requests.length := by
  induction requests generalizing admission with
  | nil => rfl
  | cons request rest ih => rw [issued, List.length_cons, List.length_cons, ih]

theorem newIndex_of_mem_issued (member : record ∈ admission.issued requests) :
    record.newIndex = record.admittedIndex := by
  induction requests generalizing admission with
  | nil => cases member
  | cons request rest ih =>
    rcases List.mem_cons.mp member with rfl | later
    · exact newIndex_accept admission request
    · exact ih later

theorem admittedIndex_issued (found : (admission.issued requests)[place]? = some record) :
    record.admittedIndex = (admission.after (requests.take (place + 1))).current := by
  induction requests generalizing admission place with
  | nil => cases found
  | cons request rest ih =>
    cases place with
    | zero =>
      cases found
      exact admittedIndex_accept admission request
    | succ place => exact ih found

theorem toNat_admittedIndex (found : (admission.issued requests)[place]? = some record) :
    record.admittedIndex.toNat =
      min (admission.current.toNat + reserved admission.defaults (requests.take (place + 1)))
        18446744073709551615 := by
  rw [admittedIndex_issued found, toNat_current_after]

theorem current_eq_last : (admission.after requests).current =
    ((admission.issued requests).getLast?.map Marker.admittedIndex).getD admission.current := by
  rcases List.eq_nil_or_concat requests with rfl | ⟨earlier, request, rfl⟩
  · rfl
  · have length := length_issued admission (earlier.concat request)
    rw [List.length_concat] at length
    rw [List.getLast?_eq_getElem?, length, Nat.add_sub_cancel,
      List.getElem?_eq_getElem (by omega), Option.map_some, Option.getD_some,
      admittedIndex_issued (List.getElem?_eq_getElem (by omega)), List.take_of_length_le (by simp)]

/-- Every request reserves at least the index that it gets. -/
theorem reserved_take_succ (defaults : Defaults) (inside : place < requests.length) :
    reserved defaults (requests.take place) < reserved defaults (requests.take (place + 1)) := by
  rw [List.take_succ_eq_append_getElem inside]
  simp only [reserved, List.map_append, List.sum_append, List.map_cons, List.map_nil,
    List.sum_cons, List.sum_nil]
  omega

theorem reserved_take_lt (defaults : Defaults) {later : Nat} (before : place < later)
    (inside : later ≤ requests.length) :
    reserved defaults (requests.take place) < reserved defaults (requests.take later) := by
  induction before with
  | refl => exact reserved_take_succ defaults inside
  | step _ ih =>
    exact Nat.lt_trans (ih (Nat.le_of_succ_le inside)) (reserved_take_succ defaults inside)

/-- A later index is larger, unless the range was used up before it. -/
theorem rises {first second : Nat} {a b : Marker} (before : first < second)
    (one : (admission.issued requests)[first]? = some a)
    (two : (admission.issued requests)[second]? = some b) :
    a.admittedIndex < b.admittedIndex ∨ a.admittedIndex = topWord ∧ b.admittedIndex = topWord := by
  obtain ⟨inside, -⟩ := List.getElem?_eq_some_iff.mp two
  rw [length_issued] at inside
  have more : reserved admission.defaults (requests.take (first + 1)) <
      reserved admission.defaults (requests.take (second + 1)) :=
    reserved_take_lt admission.defaults (Nat.succ_lt_succ before) inside
  have low := toNat_admittedIndex one
  have high := toNat_admittedIndex two
  rw [UInt64.lt_iff_toNat_lt, ← UInt64.toNat_inj, ← UInt64.toNat_inj, toNat_topWord]
  omega

end issued

end Admission

/-- A turn of a history puts an event into a queue with a marker that was taken in before and was
given no other index since. -/
structure Arrives (history : List Turn) (record : Marker) (turn : Turn) (queue : QueueId)
    (event : Event) : Prop where
  action : turn.action = .enqueue queue event
  taken : ∃ early taking between late, history = early ++ taking :: (between ++ turn :: late) ∧
    taking.action = .register record ∧ event.marker = some taking.state.markers.count ∧
    ∀ other ∈ between, ∀ index,
      other.action ≠ .revise taking.state.markers.count (.newIndex index)

open Pipeline

theorem Marker.enduring_newIndex : Marker.Enduring Marker.newIndex :=
  ⟨⟨fun _ _ => rfl, fun _ => rfl⟩, fun _ _ => rfl, fun _ => rfl⟩

theorem Marker.newIndex_apply (record : Marker) {change : Marker.Change}
    (other : ∀ index, change ≠ .newIndex index) :
    (record.apply change).newIndex = record.newIndex := by
  cases change with
  | newIndex index => exact absurd rfl (other index)
  | _ => rfl

/-- An event arrives under the index that its marker came with. -/
theorem Arrives.stored {history : List Turn} {p : Pipeline} (run : Run {} history p)
    {record : Marker} {turn : Turn} {queue : QueueId} {event : Event}
    (arrives : Arrives history record turn queue event) :
    (⟨record.newIndex, event.id⟩, event) ∈ turn.step.state.entries queue := by
  obtain ⟨early, taking, between, late, parts, taken, marked, kept⟩ := arrives.taken
  have reached : history = (early ++ taking :: between) ++ turn :: late := by simp [parts]
  have toTurn := (run.cut reached).1
  have same : (turn.state.markers.get taking.state.markers.count).newIndex = record.newIndex :=
    toTurn.read_registered Marker.enduring_newIndex taken fun other member change revised record =>
      record.newIndex_apply fun index same => kept other member index (same ▸ revised)
  have unlocked := toTurn.guarded.unlocked queue
  rw [Turn.step, arrives.action, step_enqueue unlocked marked, same]
  simp only [entries_hold, if_true]
  exact Backlog.mem_insert.mpr (.inl rfl)

/-- What a stream that has admitted nothing yet gives out, as packets ask for admission. -/
structure InSequence (admission : Admission) (requests : List Admission.Request) : Prop where
  length : (admission.issued requests).length = requests.length
  /-- An index is the exact sum of what was reserved up to it, as far as there are indices. -/
  index : ∀ place record, (admission.issued requests)[place]? = some record →
    record.admittedIndex.toNat =
      min (Admission.reserved admission.defaults (requests.take (place + 1))) 18446744073709551615
  current : (admission.after requests).current =
    ((admission.issued requests).getLast?.map Marker.admittedIndex).getD 0
  rising : (admission.issued requests).Pairwise fun a b =>
    a.admittedIndex < b.admittedIndex ∨ a.admittedIndex = topWord ∧ b.admittedIndex = topWord
  /-- Two packets share an index only where there are no more. -/
  shared : ∀ (first second : Nat) (a b : Marker), first ≠ second →
    (admission.issued requests)[first]? = some a → (admission.issued requests)[second]? = some b →
      a.admittedIndex = b.admittedIndex → a.admittedIndex = topWord
  /-- What lies between the indices of two packets in turn is given to no packet. -/
  skipped : ∀ (place : Nat) (a b : Marker), (admission.issued requests)[place]? = some a →
    (admission.issued requests)[place + 1]? = some b → ∀ other ∈ admission.issued requests,
      ¬(a.admittedIndex < other.admittedIndex ∧ other.admittedIndex < b.admittedIndex)
  /-- Queues hold packets under keys that rise in the order of admission, if the numbers of events
  do, whatever is left of the indices. -/
  keys : ∀ history p, Run {} history p → ∀ (first second : Nat) (a b : Marker), first < second →
    (admission.issued requests)[first]? = some a → (admission.issued requests)[second]? = some b →
    ∀ turn turn' queue queue' event event', Arrives history a turn queue event →
      Arrives history b turn' queue' event' → event.id < event'.id →
        (⟨a.admittedIndex, event.id⟩, event) ∈ turn.step.state.entries queue ∧
          (⟨b.admittedIndex, event'.id⟩, event') ∈ turn'.step.state.entries queue' ∧
          Key.lt ⟨a.admittedIndex, event.id⟩ ⟨b.admittedIndex, event'.id⟩ = true

open Admission in
theorem in_sequence (stream : StreamId) (defaults : Defaults) (requests : List Request) :
    InSequence { stream := stream, defaults := defaults } requests where
  length := length_issued ..
  index place record found := by
    rw [toNat_admittedIndex found]
    congr 1
    exact Nat.zero_add _
  current := current_eq_last
  rising := by
    rw [List.pairwise_iff_getElem]
    intro first second _ _ before
    exact rises before (List.getElem?_eq_getElem _) (List.getElem?_eq_getElem _)
  shared first second a b different one two same := by
    rcases Nat.lt_or_gt_of_ne different with before | before
    · rcases rises before one two with low | used
      · exact absurd (same ▸ low) (UInt64.lt_irrefl _)
      · exact used.1
    · rcases rises before two one with low | used
      · exact absurd (same ▸ low) (UInt64.lt_irrefl _)
      · exact used.2
  skipped place a b one two other member := by
    rintro ⟨above, below⟩
    obtain ⟨between, found⟩ := List.mem_iff_getElem?.mp member
    -- The packet came with one of the two, before both or after both.
    rcases Nat.lt_trichotomy between place with before | rfl | behind
    · rcases rises before found one with low | used
      · exact UInt64.lt_asymm low above
      · exact UInt64.lt_irrefl _ (used.1 ▸ used.2 ▸ above)
    · rw [one, Option.some.injEq] at found
      exact UInt64.lt_irrefl _ (found ▸ above)
    · rcases Nat.lt_or_eq_of_le behind with after | rfl
      · rcases rises after two found with low | used
        · exact UInt64.lt_asymm low below
        · exact UInt64.lt_irrefl _ (used.1 ▸ used.2 ▸ below)
      · rw [two, Option.some.injEq] at found
        exact UInt64.lt_irrefl _ (found ▸ below)
  keys history p run first second a b before one two turn turn' queue queue' event event' arrives
      arrives' later := by
    have stored := arrives.stored run
    have stored' := arrives'.stored run
    rw [newIndex_of_mem_issued (List.mem_of_getElem? one)] at stored
    rw [newIndex_of_mem_issued (List.mem_of_getElem? two)] at stored'
    refine ⟨stored, stored', (Key.lt_iff ..).mpr ?_⟩
    rcases rises before one two with low | ⟨used, used'⟩
    · exact .inl (UInt64.lt_iff_toNat_lt.mp low)
    · exact .inr ⟨by rw [used, used'], later⟩

/-- All indices but the last are skipped at once, and more packets come in after that. -/
def exhausting : List Admission.Request :=
  [.own 18446744073709551614 .zero 0, .standard 0, .own 5 .zero 0]

/-- The packets come to their queue out of order. -/
def exhausted : List Action :=
  (Admission.issued { stream := 0 } exhausting).map Action.register ++
    [.enqueue 0 (.chat 2 2), .enqueue 0 (.chat 0 0), .enqueue 0 (.chat 1 1)]

theorem arrives_exhausted {place : Nat} (inside : place < 3) : ∃ record turn,
    (Admission.issued { stream := 0 } exhausting)[place]? = some record ∧
      Arrives (turns {} exhausted) record turn 0 (.chat place place) := by
  have kept : ∀ turn ∈ turns {} exhausted, ∀ id change, turn.action ≠ .revise id change := by
    simp [exhausted, exhausting, turns, Admission.issued]
  obtain rfl | rfl | rfl : place = 0 ∨ place = 1 ∨ place = 2 := by omega
  · exact ⟨_, _, rfl, rfl, [], _, ((turns {} exhausted).drop 1).take 3, _, rfl, rfl, rfl,
      fun other member index => kept other (List.drop_subset _ _ (List.take_subset _ _ member)) _ _⟩
  · exact ⟨_, _, rfl, rfl, (turns {} exhausted).take 1, _, ((turns {} exhausted).drop 2).take 3, _,
      rfl, rfl, rfl,
      fun other member index => kept other (List.drop_subset _ _ (List.take_subset _ _ member)) _ _⟩
  · exact ⟨_, _, rfl, rfl, (turns {} exhausted).take 2, _, ((turns {} exhausted).drop 3).take 0, _,
      rfl, rfl, rfl, fun _ member => absurd member List.not_mem_nil⟩

theorem in_sequence_exhausted :
    InSequence { stream := 0 } exhausting ∧
      (∀ place < 3, ∃ record turn,
        (Admission.issued { stream := 0 } exhausting)[place]? = some record ∧
          Arrives (turns {} exhausted) record turn 0 (.chat place place)) ∧
      (Admission.issued { stream := 0 } exhausting).map Marker.admittedIndex =
        [topWord, topWord, topWord] ∧
      ((after {} exhausted).entries 0).map Prod.fst =
        [⟨topWord, 0⟩, ⟨topWord, 1⟩, ⟨topWord, 2⟩] :=
  ⟨in_sequence 0 .standard exhausting, fun _ => arrives_exhausted, by decide, by decide⟩

end PacketFlow
