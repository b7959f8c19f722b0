import Mathlib.Data.List.Chain
import Mathlib.Data.List.Sort
import Mathlib.Order.Basic

/-! Lists sorted by a key. Equal keys meet in the sorted list, and without equal keys it does not depend on the order
in which the items were given. -/

set_option autoImplicit false

namespace KeyOrder

variable {α κ : Type} [LinearOrder κ] (key : α → κ)

/-- The items in the order of their keys; items with one key stay in their order. -/
def sorted (items : List α) : List α :=
  items.mergeSort fun first second => decide (key first ≤ key second)

theorem sorted_perm (items : List α) : (sorted key items).Perm items :=
  List.mergeSort_perm items _

theorem sorted_pairwise (items : List α) :
    (sorted key items).Pairwise fun first second => key first ≤ key second := by
  have ordered : (sorted key items).Pairwise fun first second => decide (key first ≤ key second) = true := by
    apply List.pairwise_mergeSort
    · intro first second third below under
      rw [decide_eq_true_eq] at below under ⊢
      exact below.trans under
    · intro first second
      rw [Bool.or_eq_true, decide_eq_true_eq, decide_eq_true_eq]
      exact le_total _ _
  exact ordered.imp fun below => of_decide_eq_true below

variable {key}

/-- No item of a list and the next one. -/
theorem neighbours_any {differs : α → α → Bool} {items : List α} :
    ((items.zip items.tail).any fun pair => !differs pair.1 pair.2) = false ↔
      items.IsChain fun first second => differs first second = true := by
  induction items with
  | nil => simp
  | cons first rest ih =>
    cases rest with
    | nil => simp
    | cons second more =>
      rw [List.isChain_cons_cons, ← ih]
      simp

/-- Keys that differ between neighbours of a sorted list differ everywhere. -/
theorem pairwise_lt_of_neighbours {items : List α}
    (ordered : items.Pairwise fun first second => key first ≤ key second)
    (apart : items.IsChain fun first second => key first ≠ key second) :
    items.Pairwise fun first second => key first < key second := by
  induction items with
  | nil => exact .nil
  | cons first rest ih =>
    obtain ⟨below, others⟩ := List.pairwise_cons.mp ordered
    cases rest with
    | nil => exact List.pairwise_singleton _ first
    | cons second more =>
      obtain ⟨differs, chain⟩ := List.isChain_cons_cons.mp apart
      have later := ih others chain
      have next : key first < key second := lt_of_le_of_ne (below second List.mem_cons_self) differs
      refine List.pairwise_cons.mpr ⟨fun item member => ?_, later⟩
      rcases List.mem_cons.mp member with rfl | further
      · exact next
      · exact next.trans ((List.pairwise_cons.mp later).1 item further)

theorem nodup_iff_sorted_neighbours {items : List α} :
    (items.map key).Nodup ↔ (sorted key items).IsChain fun first second => key first ≠ key second := by
  have same : ((sorted key items).map key).Nodup ↔ (items.map key).Nodup :=
    ((sorted_perm key items).map key).nodup_iff
  rw [← same]
  constructor
  · intro distinct
    rw [List.Nodup, List.pairwise_map] at distinct
    exact distinct.isChain
  · intro apart
    rw [List.Nodup, List.pairwise_map]
    exact (pairwise_lt_of_neighbours (sorted_pairwise key items) apart).imp fun below => ne_of_lt below

theorem sorted_pairwise_lt {items : List α} (distinct : (items.map key).Nodup) :
    (sorted key items).Pairwise fun first second => key first < key second :=
  pairwise_lt_of_neighbours (sorted_pairwise key items) (nodup_iff_sorted_neighbours.mp distinct)

/-- Without equal keys the order in which the items were given does not matter. -/
theorem sorted_congr {items others : List α} (same : others.Perm items) (distinct : (items.map key).Nodup) :
    sorted key others = sorted key items := by
  have others_distinct : (others.map key).Nodup := (same.map key).nodup_iff.mpr distinct
  have asymmetric : ∀ first second, first ∈ sorted key others → second ∈ sorted key items →
      key first < key second → key second < key first → first = second := by
    intro first second _ _ below above
    exact absurd below (lt_asymm above)
  exact List.Perm.eq_of_pairwise asymmetric (sorted_pairwise_lt others_distinct) (sorted_pairwise_lt distinct)
    ((sorted_perm key others).trans (same.trans (sorted_perm key items).symm))

end KeyOrder
