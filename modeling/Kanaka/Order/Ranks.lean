import Mathlib.Data.List.Sort

/-!
# Elements by rank

The element of rank `k` is the one at index `k` once the list is sorted.
-/

namespace Kanaka.Ranks

variable {α : Type*} [LinearOrder α] {values other : List α} {k l : Nat} {x y : α}

def ranked (k : Nat) (values : List α) : Option α := (values.insertionSort (· ≤ ·))[k]?

theorem sorted_perm (same : values.Perm other) :
    values.insertionSort (· ≤ ·) = other.insertionSort (· ≤ ·) := by
  apply List.Perm.eq_of_sortedLE List.sortedLE_insertionSort List.sortedLE_insertionSort
  exact (List.perm_insertionSort _ values).trans (same.trans (List.perm_insertionSort _ other).symm)

theorem exists_ranked (inside : k < values.length) : ∃ x, ranked k values = some x :=
  ⟨_, List.getElem?_eq_getElem (by rwa [List.length_insertionSort])⟩

theorem exists_rank (member : x ∈ values) : ∃ k < values.length, ranked k values = some x := by
  obtain ⟨k, inside, found⟩ := List.getElem_of_mem ((List.mem_insertionSort (· ≤ ·)).mpr member)
  rw [List.length_insertionSort] at inside
  exact ⟨k, inside, List.getElem?_eq_some_iff.mpr ⟨_, found⟩⟩

theorem mem_of_ranked (found : ranked k values = some x) : x ∈ values :=
  (List.mem_insertionSort (· ≤ ·)).mp (List.mem_of_getElem? found)

theorem ranked_le_ranked (lower : ranked k values = some x) (upper : ranked l values = some y)
    (le : k ≤ l) : x ≤ y := by
  obtain ⟨_, rfl⟩ := List.getElem?_eq_some_iff.mp lower
  obtain ⟨_, rfl⟩ := List.getElem?_eq_some_iff.mp upper
  exact List.sortedLE_iff_getElem_le_getElem_of_le.mp List.sortedLE_insertionSort le

theorem ranked_zero_le (found : ranked 0 values = some x) (member : y ∈ values) : x ≤ y := by
  obtain ⟨k, _, placed⟩ := exists_rank member
  exact ranked_le_ranked found placed (Nat.zero_le k)

theorem le_ranked_last (found : ranked (values.length - 1) values = some x) (member : y ∈ values) :
    y ≤ x := by
  obtain ⟨k, inside, placed⟩ := exists_rank member
  exact ranked_le_ranked placed found (Nat.le_sub_one_of_lt inside)

/-! ## Elements below and above -/

theorem countP_eq_add (k : Nat) (p : α → Bool) : values.countP p =
    ((values.insertionSort (· ≤ ·)).take k).countP p + ((values.insertionSort (· ≤ ·)).drop k).countP p := by
  rw [← List.countP_append, List.take_append_drop]
  exact ((List.perm_insertionSort _ values).countP_eq p).symm

theorem countP_lt_ranked (found : ranked k values = some x) : values.countP (· < x) ≤ k := by
  have above : ((values.insertionSort (· ≤ ·)).drop k).countP (· < x) = 0 := by
    rw [List.countP_eq_zero]
    intro y later
    obtain ⟨j, placed⟩ := List.getElem?_of_mem later
    rw [List.getElem?_drop] at placed
    simpa using ranked_le_ranked found placed (Nat.le_add_right k j)
  rw [countP_eq_add k, above, Nat.add_zero]
  exact List.countP_le_length.trans (List.length_take_le k _)

theorem countP_ranked_lt (found : ranked k values = some x) :
    values.countP (x < ·) + k < values.length := by
  have below : ((values.insertionSort (· ≤ ·)).take (k + 1)).countP (x < ·) = 0 := by
    rw [List.countP_eq_zero]
    intro y sooner
    obtain ⟨j, placed⟩ := List.getElem?_of_mem sooner
    rw [List.getElem?_take, Option.ite_none_right_eq_some] at placed
    simpa using ranked_le_ranked placed.2 found (Nat.le_of_lt_succ placed.1)
  have inside : k < values.length := by
    obtain ⟨inside, _⟩ := List.getElem?_eq_some_iff.mp found
    rwa [List.length_insertionSort] at inside
  have rest : ((values.insertionSort (· ≤ ·)).drop (k + 1)).countP (x < ·) ≤ values.length - (k + 1) := by
    rw [← List.length_insertionSort (· ≤ ·) values, ← List.length_drop]
    exact List.countP_le_length
  rw [countP_eq_add (k + 1), below]
  omega

end Kanaka.Ranks
