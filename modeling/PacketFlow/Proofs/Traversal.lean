import Mathlib.Data.List.Permutation
import PacketFlow.Proofs.Extent
import PacketFlow.Proofs.Sorting

/-! A chain is visited once, however it is handed over on the way.

Workers hold cursors in their hands and put them into markers, from where others take copies. While
a chain is under way one holder of a cursor at a time has the word: it is moved, or it hands over to
another holder, and whatever is done with the other cursors meanwhile does not touch it. The
listeners that are passed by all of them are the first ones of the chain, each one once.
-/

set_option autoImplicit false

namespace PacketFlow

open Pipeline

/-- Where a cursor is kept. -/
inductive Holder where
  | worker (id : Nat)
  | marker (id : MarkerId)
  deriving DecidableEq, Repr

/-- A process together with what its workers have in their hands. -/
structure Workplace where
  process : Pipeline := {}
  hands : Nat → Option Cursor := fun _ => none

/-- What is done with cursors, or meanwhile. -/
inductive Deed where
  | start (worker : Nat) (chain : Chain)
  | resume (worker : Nat) (chain : Chain) (position : Nat)
  | clone (source target : Nat)
  /-- Take a copy of the cursor in a marker. -/
  | fetch (source : MarkerId) (target : Nat)
  /-- Put a copy of a cursor into a marker. -/
  | store (source : Nat) (target : MarkerId)
  | next (worker : Nat)
  | nth (worker : Nat) (count : Nat)
  | perform (action : Action)

/-- The holder whose cursor is told to go on, and how many listeners it passes over first. -/
def Deed.moves? : Deed → Option (Holder × Nat)
  | .next worker => some (.worker worker, 0)
  | .nth worker count => some (.worker worker, count)
  | .perform (.revise id .advance) => some (.marker id, 0)
  | _ => none

/-- The holder that has another cursor afterwards, or the same one at another place. -/
def Deed.target? : Deed → Option Holder
  | .start worker _ | .resume worker .. | .clone _ worker | .fetch _ worker | .next worker
  | .nth worker _ => some (.worker worker)
  | .store _ id | .perform (.revise id (.traversal _)) | .perform (.revise id .advance) =>
    some (.marker id)
  | .perform _ => none

namespace Workplace

def held (w : Workplace) : Holder → Option Cursor
  | .worker id => w.hands id
  | .marker id => (w.process.markers.get id).traversal

def give (w : Workplace) (worker : Nat) (cursor : Option Cursor) : Workplace :=
  { w with hands := fun other => if other = worker then cursor else w.hands other }

def perform (w : Workplace) (action : Action) : Workplace :=
  { w with process := (w.process.step action).state }

def step (w : Workplace) : Deed → Workplace
  | .start worker chain => w.give worker (some (.start chain))
  | .resume worker chain position => w.give worker (some (.resume chain position))
  | .clone source target => w.give target (w.hands source)
  | .fetch source target => w.give target (w.process.markers.get source).traversal
  | .store source target => w.perform (.revise target (.traversal (w.hands source)))
  | .next worker => w.give worker ((w.hands worker).map fun cursor => cursor.next.2)
  | .nth worker count => w.give worker ((w.hands worker).map fun cursor => (cursor.nth count).2)
  | .perform action => w.perform action

/-- The listener that is visited. -/
def yielded (w : Workplace) : Deed → Option Listener
  | .next worker => (w.hands worker).bind fun cursor => cursor.next.1
  | .nth worker count => (w.hands worker).bind fun cursor => (cursor.nth count).1
  | .perform (.revise id .advance) => (w.process.markers.get id).nextListener
  | _ => none

/-- The listeners that are passed over, which are those that as many calls of `next` would yield. -/
def skipped (w : Workplace) : Deed → List Listener
  | .nth worker count => ((w.hands worker).map fun cursor => cursor.yields count).getD []
  | _ => []

def passed (w : Workplace) (deed : Deed) : List Listener :=
  w.skipped deed ++ (w.yielded deed).toList

theorem held_give (w : Workplace) (worker : Nat) (cursor : Option Cursor) (holder : Holder) :
    (w.give worker cursor).held holder =
      if holder = .worker worker then cursor else w.held holder := by
  cases holder with
  | worker id => simp [give, held]
  | marker id => rfl

/-- A holder is there: markers have to be registered. -/
def Has (w : Workplace) : Holder → Prop
  | .worker _ => True
  | .marker id => id < w.process.markers.count

theorem held_perform {w : Workplace} (guarded : w.process.Guarded) {holder : Holder}
    (has : w.Has holder) {action : Action} (spared : Deed.target? (.perform action) ≠ some holder) :
    (w.perform action).Has holder ∧ (w.perform action).held holder = w.held holder := by
  cases holder with
  | worker id => exact ⟨trivial, rfl⟩
  | marker id =>
    refine read_kept Marker.enduring_traversal guarded has fun change revised record => ?_
    subst revised
    refine record.traversal_apply (fun value stored => ?_) fun stepped => ?_
    · subst stored
      exact spared rfl
    · subst stepped
      exact spared rfl

theorem held_give_of_ne (w : Workplace) {worker : Nat} (cursor : Option Cursor) {holder : Holder}
    (has : w.Has holder) (spared : some (Holder.worker worker) ≠ some holder) :
    (w.give worker cursor).Has holder ∧ (w.give worker cursor).held holder = w.held holder := by
  refine ⟨?_, by rw [held_give, if_neg fun same => spared (congrArg some same.symm)]⟩
  cases holder with
  | worker id => trivial
  | marker id => exact has

/-- What is done to one holder leaves every other cursor where it was. -/
theorem held_step {w : Workplace} (guarded : w.process.Guarded) {holder : Holder}
    (has : w.Has holder) {deed : Deed} (spared : deed.target? ≠ some holder) :
    (w.step deed).Has holder ∧ (w.step deed).held holder = w.held holder := by
  cases deed with
  | perform action => exact held_perform guarded has spared
  | store source target => exact held_perform guarded has spared
  | _ => exact held_give_of_ne w _ has spared

theorem guarded_step {w : Workplace} (guarded : w.process.Guarded) (deed : Deed) :
    (w.step deed).process.Guarded := by
  cases deed with
  | perform action => exact guarded.step action
  | store source target => exact guarded.step _
  | _ => exact guarded

/-- A holder that is told to go on passes the listeners that as many calls of `next` yield, and its
cursor stands behind them. -/
theorem step_of_moves {w : Workplace} {deed : Deed} {holder : Holder} {count : Nat}
    (moves : deed.moves? = some (holder, count)) {cursor : Cursor}
    (held : w.held holder = some cursor) :
    w.yielded deed = (cursor.after count).next.1 ∧ w.passed deed = cursor.yields (count + 1) ∧
      (w.step deed).held holder = some (cursor.after (count + 1)) := by
  have called : cursor.yields (count + 1) =
      cursor.yields count ++ (cursor.after count).next.1.toList := by
    rw [Cursor.yields_add]
    simp [Cursor.yields]
  rw [called, Cursor.after_add]
  unfold Deed.moves? at moves
  split at moves
  next worker =>
    cases moves
    have inHand : w.hands worker = some cursor := held
    simp [passed, skipped, yielded, step, held_give, inHand, Cursor.yields, Cursor.after]
  next worker passing =>
    cases moves
    have inHand : w.hands worker = some cursor := held
    simp [passed, skipped, yielded, step, held_give, inHand, Cursor.nth_eq, Cursor.after]
  next id =>
    cases moves
    have stored : (w.process.markers.get id).traversal = some cursor := held
    have moved : (w.step (.perform (.revise id .advance))).held (.marker id) =
        some cursor.next.2 := by
      simp only [step, perform, Workplace.held, Pipeline.step, revise, Markers.revise,
        Markers.get_set_self, Marker.apply, stored]
      rfl
    simp [passed, skipped, yielded, Marker.nextListener, stored, moved, Cursor.yields, Cursor.after]
  next => cases moves

/-- One holder hands over to another, who gets a copy of the cursor or one that stands where it
stands. -/
inductive HandsOn (w : Workplace) : Deed → Holder → Holder → Prop where
  | clone (source target : Nat) : HandsOn w (.clone source target) (.worker source) (.worker target)
  | fetch (source : MarkerId) (target : Nat) :
    HandsOn w (.fetch source target) (.marker source) (.worker target)
  | store (source : Nat) {target : MarkerId} (registered : target < w.process.markers.count) :
    HandsOn w (.store source target) (.worker source) (.marker target)
  | resume {source : Holder} {cursor : Cursor} (held : w.held source = some cursor)
    (target : Nat) :
    HandsOn w (.resume target cursor.chain cursor.position) source (.worker target)

/-- A traversal of a chain: who has the word now, and what was passed by all that had it before. -/
inductive Relay (chain : Chain) : Workplace → Holder → List Listener → Prop where
  | start {w : Workplace} {history : List Turn} (run : Run {} history w.process) (worker : Nat) :
    Relay chain (w.step (.start worker chain)) (.worker worker) []
  | advance {w : Workplace} {holder : Holder} {passed : List Listener} {deed : Deed} {count : Nat}
    (relay : Relay chain w holder passed) (moves : deed.moves? = some (holder, count)) :
    Relay chain (w.step deed) holder (passed ++ w.passed deed)
  | handOn {w : Workplace} {holder target : Holder} {passed : List Listener} {deed : Deed}
    (relay : Relay chain w holder passed) (hands : w.HandsOn deed holder target) :
    Relay chain (w.step deed) target passed
  /-- Something is done that leaves the cursor alone, to a copy of it for instance. -/
  | aside {w : Workplace} {holder : Holder} {passed : List Listener} {deed : Deed}
    (relay : Relay chain w holder passed) (spared : deed.target? ≠ some holder) :
    Relay chain (w.step deed) holder passed

/-- The holder has a cursor that stands behind the first listeners of a chain. -/
structure Carries (chain : Chain) (w : Workplace) (holder : Holder) (passed : List Listener) :
    Prop where
  guarded : w.process.Guarded
  has : w.Has holder
  held : w.held holder = some (.resume chain passed.length)
  first : passed <+: chain.listeners

/-- Who is handed a cursor has it where the other one has it. -/
theorem HandsOn.held {w : Workplace} {deed : Deed} {holder target : Holder}
    (hands : w.HandsOn deed holder target) (has : w.Has holder) {cursor : Cursor}
    (carried : w.held holder = some cursor) :
    (w.step deed).Has target ∧ (w.step deed).held target = some cursor := by
  cases hands with
  | clone | fetch => exact ⟨trivial, (held_give ..).trans ((if_pos rfl).trans carried)⟩
  | store source registered =>
    refine ⟨registered, Eq.trans ?_ carried⟩
    simp only [step, perform, Workplace.held, Pipeline.step, revise, Markers.revise,
      Markers.get_set_self]
    rfl
  | @resume _ stands held worker =>
    refine ⟨trivial, (held_give ..).trans ((if_pos rfl).trans ?_)⟩
    obtain rfl := Option.some.inj (held.symm.trans carried)
    exact congrArg some (Cursor.ext rfl (Nat.min_eq_left stands.position_le))

theorem has_of_moves {w : Workplace} {deed : Deed} {holder : Holder} {count : Nat}
    (moves : deed.moves? = some (holder, count)) (has : w.Has holder) :
    (w.step deed).Has holder := by
  unfold Deed.moves? at moves
  split at moves
  next => cases moves; exact has
  next => cases moves; exact has
  next => cases moves; exact has
  next => cases moves

theorem Carries.advance {chain : Chain} {w : Workplace} {holder : Holder} {passed : List Listener}
    (carries : Carries chain w holder passed) {deed : Deed} {count : Nat}
    (moves : deed.moves? = some (holder, count)) :
    Carries chain (w.step deed) holder (passed ++ w.passed deed) := by
  obtain ⟨-, yields, stands⟩ := step_of_moves moves carries.held
  rw [Cursor.yields_eq_take, Cursor.left_resume] at yields
  constructor
  case guarded => exact guarded_step carries.guarded deed
  case has => exact has_of_moves moves carries.has
  case held =>
    refine stands.trans (congrArg some (Cursor.ext (Cursor.chain_after ..) ?_))
    rw [Cursor.position_after, yields]
    simp only [Cursor.resume, Chain.length, List.length_append, List.length_take, List.length_drop]
    omega
  case first =>
    -- What was passed and what is passed now is taken from the chain in one piece.
    rw [yields, List.prefix_iff_eq_take.mp carries.first, List.length_take_of_le
      carries.first.length_le, ← List.take_add]
    exact List.take_prefix ..

theorem Relay.carries {chain : Chain} {w : Workplace} {holder : Holder} {passed : List Listener}
    (relay : Relay chain w holder passed) : Carries chain w holder passed := by
  induction relay with
  | start run worker =>
    exact ⟨run.guarded, trivial, (held_give ..).trans (if_pos rfl), List.nil_prefix⟩
  | advance relay moves ih => exact ih.advance moves
  | handOn relay hands ih =>
    obtain ⟨has, held⟩ := hands.held ih.has ih.held
    exact ⟨guarded_step ih.guarded _, has, held, ih.first⟩
  | aside relay spared ih =>
    obtain ⟨has, held⟩ := held_step ih.guarded ih.has spared
    exact ⟨guarded_step ih.guarded _, has, held.trans ih.held, ih.first⟩

/-- A cursor is moved for its holder alone. -/
theorem held_of_moves (w : Workplace) {deed : Deed} {moved other : Holder} {count : Nat}
    (moves : deed.moves? = some (moved, count)) (apart : other ≠ moved) :
    (w.step deed).held other = w.held other := by
  unfold Deed.moves? at moves
  split at moves
  next => cases moves; exact (held_give ..).trans (if_neg apart)
  next => cases moves; exact (held_give ..).trans (if_neg apart)
  next id =>
    cases moves
    cases other with
    | worker => rfl
    | marker other =>
      have different : other ≠ id := fun same => apart (congrArg Holder.marker same)
      simp only [step, perform, held, Pipeline.step, revise, Markers.revise,
        Markers.get_set_of_ne _ _ different]
  next => cases moves

/-- What is known of a traversal when some listeners were passed and a holder has the word. -/
structure Visited (registered : List Listener) (w : Workplace) (holder : Holder)
    (passed : List Listener) : Prop where
  classes : [Priority.lowest, .low, .normal, .high, .highest, .monitor].Pairwise
    fun a b => compare a b = .lt
  order : SortedBy (fun listener => listener.priority.rank) registered
    (Chain.ofList registered).listeners
  first : passed <+: (Chain.ofList registered).listeners
  /-- The cursor stands behind what was passed, and at the end when that is everything. -/
  held : ∃ cursor, w.held holder = some cursor ∧ cursor.chain = .ofList registered ∧
    cursor.position = passed.length ∧
    (cursor.hasNext = false ↔ passed = (Chain.ofList registered).listeners)
  /-- Then nothing comes any more, and the cursor stays. -/
  done : passed = (Chain.ofList registered).listeners →
    ∀ deed count, deed.moves? = some (holder, count) →
      w.yielded deed = none ∧ w.passed deed = [] ∧ (w.step deed).held holder = w.held holder
  apart : ∀ deed moved count, deed.moves? = some (moved, count) →
    ∀ other ≠ moved, (w.step deed).held other = w.held other

/-- However a chain is handed over on the way, its listeners are visited in order and once each. -/
theorem visits_once {registered : List Listener} {w : Workplace} {holder : Holder}
    {passed : List Listener} (relay : Relay (.ofList registered) w holder passed) :
    Visited registered w holder passed := by
  have carries := relay.carries
  have inside := carries.first.length_le
  constructor
  case classes => decide
  case order => exact Chain.sortedBy_ofList registered
  case first => exact carries.first
  case held =>
    refine ⟨_, carries.held, rfl, Nat.min_eq_left inside, ?_⟩
    rw [Cursor.hasNext_eq_false_iff, Cursor.remaining_resume, Nat.sub_eq_zero_iff_le]
    exact ⟨carries.first.eq_of_length_le,
      fun whole => Nat.le_of_eq (congrArg List.length whole.symm)⟩
  case done =>
    intro whole deed count moves
    have finished : (Cursor.resume (.ofList registered) passed.length).remaining = 0 := by
      rw [Cursor.remaining_resume, whole]
      exact Nat.sub_self _
    obtain ⟨yielded, yields, stands⟩ := step_of_moves moves carries.held
    rw [Cursor.after_of_remaining finished] at yielded stands
    rw [Cursor.yields_eq_take, (Cursor.left_eq_nil_iff _).mpr finished, List.take_nil] at yields
    rw [Cursor.next_of_remaining finished] at yielded
    exact ⟨yielded, yields, stands.trans carries.held.symm⟩
  case apart =>
    intro deed moved count moves other different
    exact w.held_of_moves moves different

/-- A chain goes from hand to hand, through a marker and on from a position, while the first worker
goes on with the cursor that he gave a copy of. -/
theorem visits_once_mixed : ∃ w passed, Relay (.ofList Cursor.mixed) w (.worker 3) passed ∧
    Visited Cursor.mixed w (.worker 3) passed ∧
    passed = [⟨.lowest, 1⟩, ⟨.normal, 2⟩, ⟨.normal, 3⟩, ⟨.monitor, 4⟩] := by
  have start := @Relay.start (.ofList Cursor.mixed) { process := after {} Cursor.admission } _
    (Run.ofActions {} Cursor.admission) 0
  have first := @Relay.advance _ _ _ _ (.next 0) 0 start rfl
  have second := @Relay.handOn _ _ _ _ _ _ first (.clone 0 1)
  have own := @Relay.aside _ _ _ _ (.next 0) second (by decide)
  have third := @Relay.advance _ _ _ _ (.nth 1 1) 1 own rfl
  have inMarker := @Relay.handOn _ _ _ _ _ _ third (.store 1 Nat.zero_lt_one)
  have asked := @Relay.advance _ _ _ _ (.perform (.revise 0 .advance)) 0 inMarker rfl
  have fetched := @Relay.handOn _ _ _ _ _ _ asked (.fetch 0 2)
  have resumed := @Relay.handOn _ _ _ _ _ _ fetched (.resume rfl 3)
  have last := @Relay.advance _ _ _ _ (.nth 3 5) 5 resumed rfl
  refine ⟨_, _, last, visits_once last, ?_⟩
  cbv

end Workplace

end PacketFlow
