import PacketFlow.Event

/-! Queued events in the order of transmission.

Entries are sorted by send index, and by event number where indices are equal, so packets whose
markers compare equal are still kept apart. No two entries have one key.
-/

set_option autoImplicit false

namespace PacketFlow

/-- The send index an event was queued under and the number of the event. -/
structure Key where
  index : UInt64
  event : Nat
  deriving DecidableEq, Repr

def Key.lt (a b : Key) : Bool :=
  decide (a.index < b.index) || (a.index == b.index && decide (a.event < b.event))

theorem Key.lt_iff (a b : Key) : a.lt b = true ↔
    a.index.toNat < b.index.toNat ∨ (a.index.toNat = b.index.toNat ∧ a.event < b.event) := by
  simp [lt, UInt64.lt_iff_toNat_lt, ← UInt64.toNat_inj]

theorem Key.lt_irrefl (a : Key) : a.lt a = false := by
  rw [Bool.eq_false_iff, ne_eq, lt_iff]; omega

theorem Key.lt_trans {a b c : Key} (ab : a.lt b = true) (bc : b.lt c = true) : a.lt c = true := by
  rw [lt_iff] at *; omega

theorem Key.lt_asymm {a b : Key} (ab : a.lt b = true) : b.lt a = false := by
  rw [Bool.eq_false_iff, ne_eq, lt_iff] at *; omega

theorem Key.ne_of_lt {a b : Key} (ab : a.lt b = true) : a ≠ b := by
  rintro rfl
  rw [lt_irrefl] at ab
  cases ab

theorem Key.lt_connected {a b : Key} (ab : a.lt b = false) (ba : b.lt a = false) : a = b := by
  rw [Bool.eq_false_iff, ne_eq, lt_iff] at ab ba
  have index : a.index = b.index := UInt64.toNat_inj.mp (by omega)
  have event : a.event = b.event := by omega
  cases a
  cases b
  simp_all

/-- A queued event under its key. -/
abbrev Entry := Key × Event

structure Backlog where
  entries : List Entry
  ascending : entries.Pairwise (fun a b => a.1.lt b.1 = true)
  deriving DecidableEq, Repr

namespace Backlog

def empty : Backlog := ⟨[], .nil⟩

def size (backlog : Backlog) : Nat := backlog.entries.length

def find? (backlog : Backlog) (key : Key) : Option Event :=
  (backlog.entries.find? fun entry => entry.1 = key).map (·.2)

/-- Store an event under a key, in place of what was stored there. -/
def insert (backlog : Backlog) (key : Key) (event : Event) : Backlog where
  entries := backlog.entries.filter (·.1.lt key) ++
    (key, event) :: backlog.entries.filter (key.lt ·.1)
  ascending := by
    rw [List.pairwise_append, List.pairwise_cons]
    refine ⟨backlog.ascending.filter _, ⟨?_, backlog.ascending.filter _⟩, ?_⟩
    · intro entry member
      exact (List.mem_filter.mp member).2
    · intro before memberBefore after memberAfter
      have low := (List.mem_filter.mp memberBefore).2
      rcases List.mem_cons.mp memberAfter with same | member
      · subst same; exact low
      · exact Key.lt_trans low (List.mem_filter.mp member).2

def erase (backlog : Backlog) (key : Key) : Backlog :=
  ⟨backlog.entries.filter (·.1 ≠ key), backlog.ascending.filter _⟩

def partition (backlog : Backlog) (test : Entry → Bool) : List Entry × Backlog :=
  (backlog.entries.filter test,
    ⟨backlog.entries.filter fun entry => !test entry, backlog.ascending.filter _⟩)

/-- The part of a backlog behind some of its first entries. -/
def ofSuffix (backlog : Backlog) (entries : List Entry) (suffix : entries <:+ backlog.entries) :
    Backlog :=
  ⟨entries, backlog.ascending.sublist suffix.sublist⟩

theorem ext {a b : Backlog} (same : a.entries = b.entries) : a = b := by
  cases a; cases b; simp_all

theorem mem_insert {backlog : Backlog} {key : Key} {event : Event} {entry : Entry} :
    entry ∈ (backlog.insert key event).entries ↔
      entry = (key, event) ∨ (entry ∈ backlog.entries ∧ entry.1 ≠ key) := by
  simp only [insert, List.mem_append, List.mem_cons, List.mem_filter]
  constructor
  · rintro (⟨member, low⟩ | same | ⟨member, high⟩)
    · exact .inr ⟨member, Key.ne_of_lt low⟩
    · exact .inl same
    · exact .inr ⟨member, (Key.ne_of_lt high).symm⟩
  · rintro (same | ⟨member, different⟩)
    · exact .inr (.inl same)
    · cases low : entry.1.lt key with
      | true => exact .inl ⟨member, rfl⟩
      | false =>
        cases high : key.lt entry.1 with
        | true => exact .inr (.inr ⟨member, rfl⟩)
        | false => exact absurd (Key.lt_connected low high) different

theorem mem_erase {backlog : Backlog} {key : Key} {entry : Entry} :
    entry ∈ (backlog.erase key).entries ↔ entry ∈ backlog.entries ∧ entry.1 ≠ key := by
  simp [erase]

theorem mem_partition {backlog : Backlog} {test : Entry → Bool} {entry : Entry} :
    entry ∈ (backlog.partition test).2.entries ↔ entry ∈ backlog.entries ∧ test entry = false := by
  simp [partition]

theorem eq_of_mem {backlog : Backlog} {key : Key} {a b : Event}
    (first : (key, a) ∈ backlog.entries) (second : (key, b) ∈ backlog.entries) : a = b := by
  obtain ⟨entries, ascending⟩ := backlog
  induction ascending with
  | nil => cases first
  | cons before _ ih =>
    rcases List.mem_cons.mp first with same | later <;>
      rcases List.mem_cons.mp second with same' | later'
    · exact congrArg Prod.snd (same.trans same'.symm)
    · have low := before _ later'
      exact absurd (congrArg Prod.fst same).symm (Key.ne_of_lt low)
    · have low := before _ later
      exact absurd (congrArg Prod.fst same').symm (Key.ne_of_lt low)
    · exact ih later later'

theorem find?_eq_some_iff {backlog : Backlog} {key : Key} {event : Event} :
    backlog.find? key = some event ↔ (key, event) ∈ backlog.entries := by
  unfold find?
  constructor
  · intro found
    obtain ⟨entry, located, rfl⟩ := Option.map_eq_some_iff.mp found
    have same : entry.1 = key := by simpa using List.find?_some located
    exact same ▸ List.mem_of_find?_eq_some located
  · intro member
    cases located : backlog.entries.find? fun entry => entry.1 = key with
    | none =>
      have absent := List.find?_eq_none.mp located (key, event) member
      simp at absent
    | some entry =>
      have same : entry.1 = key := by simpa using List.find?_some located
      have stored : (key, entry.2) ∈ backlog.entries :=
        same ▸ List.mem_of_find?_eq_some located
      exact congrArg some (eq_of_mem stored member)

end Backlog

end PacketFlow
