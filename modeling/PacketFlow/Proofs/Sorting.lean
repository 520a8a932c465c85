import PacketFlow.Listener
import PacketFlow.Marker.Order

/-! Stable orders: of listeners by their priority class, and of markers by their new index.

Both are given in one way, by a number for each element. Elements with one number keep the places
that they had among each other, which together with the order fixes the outcome.
-/

set_option autoImplicit false

namespace PacketFlow

variable {α : Type}

/-- A list in ascending order of a number. Elements with the same number stand as they did. -/
structure SortedBy (key : α → Nat) (list sorted : List α) : Prop where
  perm : sorted.Perm list
  ascending : sorted.Pairwise fun a b => key a ≤ key b
  stable : ∀ number, sorted.filter (key · == number) = list.filter (key · == number)

theorem sortedBy_mergeSort {key : α → Nat} {le : α → α → Bool}
    (by_key : ∀ a b, le a b = true ↔ key a ≤ key b) (list : List α) :
    SortedBy key list (list.mergeSort le) := by
  have trans (a b c : α) (ab : le a b = true) (bc : le b c = true) : le a c = true := by
    rw [by_key] at ab bc ⊢
    exact Nat.le_trans ab bc
  have total (a b : α) : (le a b || le b a) = true := by
    rw [Bool.or_eq_true, by_key, by_key]
    exact Nat.le_total _ _
  constructor
  case perm => exact List.mergeSort_perm list le
  case ascending =>
    exact (List.pairwise_mergeSort trans total list).imp fun {a b} => (by_key a b).mp
  case stable =>
    intro number
    -- Tied elements are in order already, so they are found in the outcome one after the other.
    have tied : (list.filter (key · == number)).Pairwise fun a b => le a b = true := by
      refine List.pairwise_of_forall_mem_list fun a first b second => ?_
      have same := (eq_of_beq (List.mem_filter.mp first).2).trans
        (eq_of_beq (List.mem_filter.mp second).2).symm
      exact (by_key a b).mpr (Nat.le_of_eq same)
    have kept := (List.sublist_mergeSort trans total tied List.filter_sublist).filter
      (key · == number)
    rw [List.filter_filter] at kept
    simp only [Bool.and_self] at kept
    exact (kept.eq_of_length ((List.mergeSort_perm list le).filter _).length_eq.symm).symm

namespace Chain

/-- Lower priority classes come first, and registration order is kept within a class. -/
theorem sortedBy_ofList (registered : List Listener) :
    SortedBy (fun listener => listener.priority.rank) registered (ofList registered).listeners :=
  sortedBy_mergeSort (fun _ _ => decide_eq_true_iff) registered

end Chain

namespace Marker

theorem compare_eq (a b : Marker) : compare a b = compare a.newIndex b.newIndex := rfl

theorem le_iff (a b : Marker) : a.le b = true ↔ a.newIndex.toNat ≤ b.newIndex.toNat := by
  rw [le, compare_eq, Std.isLE_compare, UInt64.le_iff_toNat_le]

/-- Markers in order of transmission. -/
theorem sortedBy_sort (markers : List Marker) :
    SortedBy (fun marker => marker.newIndex.toNat) markers (sort markers) :=
  sortedBy_mergeSort le_iff markers

end Marker

end PacketFlow
