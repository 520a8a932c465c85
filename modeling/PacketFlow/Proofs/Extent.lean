import PacketFlow.Proofs.Progress

/-! How far a cursor reaches.

A cursor never stands behind the end of its chain, whatever position is asked for and however often
it is told to go on. So the number of listeners still to come is a difference in which nothing is
cut off, and it is exactly how many are visited before nothing comes any more.
-/

set_option autoImplicit false

namespace PacketFlow

namespace Cursor

theorem ext {a b : Cursor} (chain : a.chain = b.chain) (position : a.position = b.position) :
    a = b := by
  cases a
  cases b
  simp_all

/-- The cursor after so many calls of `next`. -/
def after (cursor : Cursor) : Nat → Cursor
  | 0 => cursor
  | count + 1 => cursor.next.2.after count

/-- The listeners that so many calls of `next` yield. -/
def yields (cursor : Cursor) : Nat → List Listener
  | 0 => []
  | count + 1 => cursor.next.1.toList ++ cursor.next.2.yields count

/-- Calling `next` until nothing comes visits some listeners and leaves the cursor at last. -/
inductive Visits : Cursor → List Listener → Cursor → Prop where
  | done {cursor : Cursor} (nothing : cursor.next.1 = none) : Visits cursor [] cursor.next.2
  | visit {cursor last : Cursor} {listener : Listener} {visited : List Listener}
    (got : cursor.next.1 = some listener) (rest : Visits cursor.next.2 visited last) :
    Visits cursor (listener :: visited) last

theorem position_add_remaining (cursor : Cursor) :
    cursor.position + cursor.remaining = cursor.chain.length :=
  Nat.add_sub_of_le cursor.position_le

theorem hasNext_iff (cursor : Cursor) : cursor.hasNext = true ↔ 0 < cursor.remaining := by
  have whole := cursor.position_add_remaining
  rw [hasNext, decide_eq_true_iff]
  omega

theorem hasNext_eq_false_iff (cursor : Cursor) :
    cursor.hasNext = false ↔ cursor.remaining = 0 := by
  rw [← Bool.not_eq_true, hasNext_iff, Nat.not_lt, Nat.le_zero]

theorem left_eq_nil_iff (cursor : Cursor) : cursor.left = [] ↔ cursor.remaining = 0 := by
  rw [← length_left, List.length_eq_zero_iff]

theorem isSome_peek_iff (cursor : Cursor) : cursor.peek.isSome = true ↔ 0 < cursor.remaining := by
  rw [peek_eq_head?, List.isSome_head?, ne_eq, left_eq_nil_iff, Nat.pos_iff_ne_zero]

@[simp] theorem chain_next (cursor : Cursor) : cursor.next.2.chain = cursor.chain := by
  unfold next
  split <;> rfl

theorem position_next (cursor : Cursor) :
    cursor.next.2.position = min (cursor.position + 1) cursor.chain.length := by
  have inside := cursor.position_le
  unfold next
  split
  next before => exact (Nat.min_eq_left before).symm
  next exhausted =>
    show cursor.position = _
    omega

theorem remaining_resume (chain : Chain) (position : Nat) :
    (resume chain position).remaining = chain.length - position := by
  simp only [remaining, resume]
  omega

/-- A cursor at the end stays there and yields nothing. -/
theorem next_of_remaining {cursor : Cursor} (finished : cursor.remaining = 0) :
    cursor.next = (none, cursor) := by
  have past : ¬cursor.position < cursor.chain.length :=
    Nat.not_lt.mpr (Nat.sub_eq_zero_iff_le.mp finished)
  rw [next, dif_neg past]

@[simp] theorem chain_after (cursor : Cursor) (count : Nat) :
    (cursor.after count).chain = cursor.chain := by
  induction count generalizing cursor with
  | zero => rfl
  | succ count ih => rw [after, ih, chain_next]

theorem position_after (cursor : Cursor) (count : Nat) :
    (cursor.after count).position = min (cursor.position + count) cursor.chain.length := by
  induction count generalizing cursor with
  | zero => exact (Nat.min_eq_left cursor.position_le).symm
  | succ count ih =>
    rw [after, ih, chain_next, position_next]
    omega

theorem after_add (cursor : Cursor) (first second : Nat) :
    cursor.after (first + second) = (cursor.after first).after second := by
  apply ext
  · rw [chain_after, chain_after, chain_after]
  · rw [position_after, position_after, position_after, chain_after]
    omega

theorem yields_eq_take (cursor : Cursor) (count : Nat) :
    cursor.yields count = cursor.left.take count := by
  induction count generalizing cursor with
  | zero => rfl
  | succ count ih =>
    rw [yields, ih, next_fst, left_next]
    cases cursor.left <;> simp

theorem left_after (cursor : Cursor) (count : Nat) :
    (cursor.after count).left = cursor.left.drop count := by
  induction count generalizing cursor with
  | zero => rfl
  | succ count ih => rw [after, ih, left_next, List.drop_tail]

theorem yields_add (cursor : Cursor) (first second : Nat) :
    cursor.yields (first + second) = cursor.yields first ++ (cursor.after first).yields second := by
  rw [yields_eq_take, yields_eq_take, yields_eq_take, left_after, List.take_add]

theorem remaining_after (cursor : Cursor) (count : Nat) :
    (cursor.after count).remaining = cursor.remaining - count := by
  rw [← length_left, left_after, List.length_drop, length_left]

theorem after_of_remaining {cursor : Cursor} (finished : cursor.remaining = 0) (count : Nat) :
    cursor.after count = cursor := by
  induction count with
  | zero => rfl
  | succ count ih => rw [after, next_of_remaining finished, ih]

/-- Passing over some listeners and visiting one is to call `next` for each of them. -/
theorem nth_eq (cursor : Cursor) (count : Nat) : cursor.nth count = (cursor.after count).next := by
  rw [nth]
  congr 1
  apply ext
  · exact (chain_after cursor count).symm
  · exact (position_after cursor count).symm

theorem chain_nth (cursor : Cursor) (count : Nat) : (cursor.nth count).2.chain = cursor.chain := by
  rw [nth_eq, chain_next, chain_after]

theorem position_nth (cursor : Cursor) (count : Nat) :
    (cursor.nth count).2.position = min (cursor.position + (count + 1)) cursor.chain.length := by
  rw [nth_eq, position_next, chain_after, position_after]
  omega

theorem rest_snd_next (cursor : Cursor) : cursor.next.2.rest.2 = cursor.rest.2 :=
  ext (chain_next cursor) (congrArg Chain.length (chain_next cursor))

/-- With nothing left, a call leaves the cursor at the end. -/
theorem next_snd_of_left_eq_nil {cursor : Cursor} (empty : cursor.left = []) :
    cursor.next.2 = cursor.rest.2 := by
  have finished := (left_eq_nil_iff cursor).mp empty
  have whole := cursor.position_add_remaining
  refine ext (chain_next cursor) ((position_next cursor).trans ?_)
  exact Nat.min_eq_right (by omega)

theorem visits_rest (cursor : Cursor) : Visits cursor cursor.left cursor.rest.2 := by
  -- The induction is on what is left; each call takes the first of it.
  generalize all : cursor.left = listeners
  induction listeners generalizing cursor with
  | nil =>
    have nothing : cursor.next.1 = none := by rw [next_fst, all]; rfl
    rw [← next_snd_of_left_eq_nil all]
    exact .done nothing
  | cons listener listeners ih =>
    have got : cursor.next.1 = some listener := by rw [next_fst, all]; rfl
    have later := ih cursor.next.2 (by rw [left_next, all]; rfl)
    rw [rest_snd_next] at later
    exact .visit got later

/-- What is visited is what was left, and then the cursor is at the end. -/
theorem visits_iff {cursor last : Cursor} {visited : List Listener} :
    Visits cursor visited last ↔ visited = cursor.left ∧ last = cursor.rest.2 := by
  constructor
  · intro visits
    induction visits with
    | @done cursor nothing =>
      have empty : cursor.left = [] := by rwa [next_fst, List.head?_eq_none_iff] at nothing
      exact ⟨empty.symm, next_snd_of_left_eq_nil empty⟩
    | @visit cursor last listener visited got rest ih =>
      obtain ⟨rfl, rfl⟩ := ih
      rw [next_fst] at got
      obtain ⟨later, left⟩ := List.head?_eq_some_iff.mp got
      exact ⟨by rw [left_next, left, List.tail_cons], rest_snd_next cursor⟩
  · rintro ⟨rfl, rfl⟩
    exact visits_rest cursor

end Cursor

namespace Marker

theorem enduring_traversal : Enduring traversal :=
  ⟨⟨fun _ _ => rfl, fun _ => rfl⟩, fun _ _ => rfl, fun _ => rfl⟩

theorem traversal_apply (record : Marker) {change : Change}
    (stored : ∀ value, change ≠ .traversal value) (stepped : change ≠ .advance) :
    (record.apply change).traversal = record.traversal := by
  cases change with
  | traversal value => exact absurd rfl (stored value)
  | advance => exact absurd rfl stepped
  | _ => rfl

end Marker

/-- A marker is asked for its next listener. -/
def Action.advances (id : MarkerId) : Action → Bool
  | .revise other .advance => other == id
  | _ => false

namespace Pipeline

/-- A step moves the cursor of a marker by one listener when it asks the marker for it, and leaves
it alone when it does not, unless another cursor is stored. -/
theorem traversal_step {p : Pipeline} (guarded : p.Guarded) {id : MarkerId}
    (registered : id < p.markers.count) {action : Action}
    (kept : ∀ value, action ≠ .revise id (.traversal value)) :
    id < (p.step action).state.markers.count ∧
      ((p.step action).state.markers.get id).traversal =
        (p.markers.get id).traversal.map (·.after (action.advances id).toNat) := by
  cases asked : action.advances id with
  | true =>
    have shape : action = .revise id .advance := by
      unfold Action.advances at asked
      split at asked
      next => rw [eq_of_beq asked]
      next => cases asked
    subst shape
    refine ⟨registered, ?_⟩
    simp only [step, revise, Markers.revise, Markers.get_set_self]
    rfl
  | false =>
    have same : ((p.markers.get id).traversal.map (·.after 0)) = (p.markers.get id).traversal :=
      Option.map_id'
    rw [Bool.toNat_false, same]
    refine read_kept Marker.enduring_traversal guarded registered fun change revised record => ?_
    subst revised
    refine record.traversal_apply (fun value stored => kept value (stored ▸ rfl)) ?_
    rintro rfl
    simp [Action.advances] at asked

end Pipeline

namespace History

/-- How often a marker was asked for its next listener. -/
def stepped (history : List Turn) (id : MarkerId) : Nat :=
  history.countP fun turn => turn.action.advances id

theorem stepped_concat (history : List Turn) (turn : Turn) (id : MarkerId) :
    stepped (history ++ [turn]) id = stepped history id + (turn.action.advances id).toNat := by
  rw [stepped, List.countP_append, List.countP_singleton]
  cases turn.action.advances id <;> rfl

end History

open History Pipeline

/-- A cursor that rests in a marker is moved by the calls that ask for the next listener, and by
nothing else that happens meanwhile. -/
theorem Run.traversal_kept {start p : Pipeline} {history : List Turn} (run : Run start history p)
    (guarded : start.Guarded) {id : MarkerId} (registered : id < start.markers.count)
    (kept : ∀ turn ∈ history, ∀ value, turn.action ≠ .revise id (.traversal value)) :
    id < p.markers.count ∧ (p.markers.get id).traversal =
      (start.markers.get id).traversal.map (·.after (stepped history id)) := by
  induction run with
  | start => exact ⟨registered, Option.map_id'.symm⟩
  | @perform history q run action ih =>
    obtain ⟨still, before⟩ := ih fun turn member => kept turn (List.mem_append_left _ member)
    obtain ⟨after, last⟩ := Pipeline.traversal_step (run.keeps Pipeline.Guarded.step guarded) still
      (kept ⟨q, action⟩ (List.mem_append_right _ (List.mem_singleton_self _)))
    refine ⟨after, last.trans ?_⟩
    rw [before, Option.map_map, stepped_concat]
    congr 1
    funext cursor
    exact (cursor.after_add _ _).symm

namespace Cursor

/-- The cursors over a chain that a program can come by, and how many listeners of the chain it has
asked for on the way. A copy is the same cursor. -/
inductive Obtained (chain : Chain) : Nat → Cursor → Prop where
  | start : Obtained chain 0 (start chain)
  | resume (position : Nat) : Obtained chain position (resume chain position)
  | next {count : Nat} {cursor : Cursor} (before : Obtained chain count cursor) :
    Obtained chain (count + 1) cursor.next.2
  | nth {count : Nat} {cursor : Cursor} (before : Obtained chain count cursor) (passed : Nat) :
    Obtained chain (count + passed + 1) (cursor.nth passed).2
  /-- The cursor is stored in a marker and read back after other turns have been taken, and the
  marker was asked for its next listener by some of them. -/
  | stored {count : Nat} {cursor kept : Cursor} {earlier later : List Turn} {storing : Turn}
    {id : MarkerId} {p : Pipeline} (before : Obtained chain count cursor)
    (run : Run {} (earlier ++ storing :: later) p)
    (stores : storing.action = .revise id (.traversal (some cursor)))
    (registered : id < storing.state.markers.count)
    (undisturbed : ∀ turn ∈ later, ∀ value, turn.action ≠ .revise id (.traversal value))
    (read : (p.markers.get id).traversal = some kept) :
    Obtained chain (count + stepped later id) kept

/-- What is read from a marker is the stored cursor, moved by every call for the next listener. -/
theorem eq_after_of_stored {cursor kept : Cursor} {earlier later : List Turn} {storing : Turn}
    {id : MarkerId} {p : Pipeline} (run : Run {} (earlier ++ storing :: later) p)
    (stores : storing.action = .revise id (.traversal (some cursor)))
    (registered : id < storing.state.markers.count)
    (undisturbed : ∀ turn ∈ later, ∀ value, turn.action ≠ .revise id (.traversal value))
    (read : (p.markers.get id).traversal = some kept) : kept = cursor.after (stepped later id) := by
  obtain ⟨toStoring, fromStoring⟩ := run.cut rfl
  have put : storing.step.state.markers =
      storing.state.markers.revise id (.traversal (some cursor)) := by
    rw [Turn.step, stores]
    rfl
  have inside : id < storing.step.state.markers.count := by
    rw [put]
    exact registered
  obtain ⟨-, found⟩ := fromStoring.traversal_kept
    (toStoring.guarded.step storing.action) inside undisturbed
  rw [put, Markers.revise, Markers.get_set_self, read] at found
  exact Option.some.inj found

/-- A cursor stands where it was moved to, or at the end when that lies behind it. -/
theorem Obtained.stands {chain : Chain} {count : Nat} {cursor : Cursor}
    (obtained : Obtained chain count cursor) :
    cursor.chain = chain ∧ cursor.position = min count chain.length := by
  induction obtained with
  | start => exact ⟨rfl, (Nat.zero_min _).symm⟩
  | resume position => exact ⟨rfl, rfl⟩
  | @next count cursor before ih =>
    obtain ⟨rfl, stands⟩ := ih
    refine ⟨chain_next cursor, ?_⟩
    rw [position_next, stands]
    omega
  | @nth count cursor before passed ih =>
    obtain ⟨rfl, stands⟩ := ih
    refine ⟨chain_nth cursor passed, ?_⟩
    rw [position_nth, stands]
    omega
  | @stored count cursor kept earlier later storing id p before run stores registered undisturbed
      read ih =>
    obtain ⟨rfl, stands⟩ := ih
    rw [eq_after_of_stored run stores registered undisturbed read]
    refine ⟨chain_after cursor _, ?_⟩
    rw [position_after, stands]
    omega

/-- What a cursor that was moved so often over a chain says about the listeners still to come. -/
structure Sized (chain : Chain) (count : Nat) (cursor : Cursor) : Prop where
  own : cursor.chain = chain
  position : cursor.position = min count chain.length
  inside : cursor.position ≤ cursor.chain.length
  /-- Nothing is cut off where the position is taken from the length. -/
  whole : cursor.position + cursor.remaining = cursor.chain.length
  hasNext : cursor.hasNext = true ↔ 0 < cursor.remaining
  peek : cursor.peek.isSome = true ↔ 0 < cursor.remaining
  bounds : cursor.bounds = (cursor.remaining, cursor.remaining)
  /-- Nothing comes any more in the end. -/
  ends : ∃ visited last, Visits cursor visited last
  visits : ∀ visited last, Visits cursor visited last →
    visited.length = cursor.remaining ∧ last.remaining = 0
  /-- A call that passes over everything yields nothing, and neither does any later one. -/
  past : ∀ passed, cursor.remaining ≤ passed → (cursor.nth passed).1 = none ∧
    (cursor.nth passed).2.bounds = (0, 0) ∧ Visits (cursor.nth passed).2 [] (cursor.nth passed).2

theorem remaining_rest (cursor : Cursor) : cursor.rest.2.remaining = 0 := Nat.sub_self _

/-- A cursor never stands behind the end, and it yields exactly as many listeners as it promises. -/
theorem exactly_sized {chain : Chain} {count : Nat} {cursor : Cursor}
    (obtained : Obtained chain count cursor) : Sized chain count cursor := by
  obtain ⟨own, position⟩ := obtained.stands
  constructor
  case own => exact own
  case position => exact position
  case inside => exact cursor.position_le
  case whole => exact cursor.position_add_remaining
  case hasNext => exact cursor.hasNext_iff
  case peek => exact cursor.isSome_peek_iff
  case bounds => rfl
  case ends => exact ⟨_, _, visits_rest cursor⟩
  case visits =>
    intro visited last visits
    obtain ⟨rfl, rfl⟩ := visits_iff.mp visits
    exact ⟨length_left cursor, remaining_rest cursor⟩
  case past =>
    intro passed far
    have finished : (cursor.after passed).remaining = 0 := by
      rw [remaining_after]
      exact Nat.sub_eq_zero_of_le far
    -- Passing over everything is enough; the call itself finds the cursor at the end.
    have same : cursor.nth passed = (none, cursor.after passed) := by
      rw [nth_eq, next_of_remaining finished]
    have stays : Visits (cursor.after passed) [] (cursor.after passed).next.2 :=
      .done (by rw [next_of_remaining finished])
    rw [next_of_remaining finished] at stays
    rw [same]
    exact ⟨rfl, by rw [bounds, finished], stays⟩

/-- Four listeners, registered out of order. -/
def mixed : List Listener := [⟨.monitor, 4⟩, ⟨.normal, 2⟩, ⟨.lowest, 1⟩, ⟨.normal, 3⟩]

def few : Chain := .ofList mixed

def admission : List Action := [.register (.fresh 0 7 1 .zero)]

/-- A cursor behind the first listener goes into a marker, which is asked for one listener more. -/
def parking : Turn := ⟨Pipeline.after {} admission, .revise 0 (.traversal (some (resume few 1)))⟩

def meanwhile : List Action := [.revise 0 .defer, .revise 0 .advance, .enqueue 0 (.chat 3 0)]

/-- The cursor that comes back from the marker passes over more listeners than are left. -/
theorem exactly_sized_past_the_end :
    Obtained few 10 ((resume few 1).next.2.nth 7).2 ∧
      Sized few 10 ((resume few 1).next.2.nth 7).2 := by
  have run := ((Run.ofActions {} admission).perform parking.action).append_turns meanwhile
  rw [List.append_assoc] at run
  have undisturbed : ∀ turn ∈ parking.step.state.turns meanwhile, ∀ value,
      turn.action ≠ .revise 0 (.traversal value) := by
    simp [meanwhile, turns]
  have back : Obtained few 2 (resume few 1).next.2 :=
    @Obtained.stored _ _ _ _ (turns {} admission) (parking.step.state.turns meanwhile) parking 0 _
      (.resume 1) run rfl Nat.zero_lt_one undisturbed rfl
  exact ⟨back.nth 7, exactly_sized (back.nth 7)⟩

end Cursor

end PacketFlow
