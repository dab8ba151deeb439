import Mathlib.Data.List.Basic

/-!
# Pages of a sorted list

Which changes of a list the page at an offset does not show, and where a new row is sorted in.
-/

namespace Kanaka

/-- The rows up to the end of a page; limit 0 is no limit. -/
def upTo {α : Type} (limit offset : Nat) (rows : List α) : List α :=
  if limit = 0 then rows else rows.take (offset + limit)

def page {α : Type} (limit offset : Nat) (rows : List α) : List α := (upTo limit offset rows).drop offset

namespace Page
variable {α : Type} {limit offset : Nat} {rows : List α}

theorem eq_ite : page limit offset rows =
    if limit = 0 then rows.drop offset else (rows.drop offset).take limit := by
  unfold page upTo
  split
  · rfl
  · exact List.take_drop.symm

theorem mem_upTo_cases {row : α} (early : row ∈ upTo limit offset rows) :
    row ∈ rows.take offset ∨ row ∈ page limit offset rows := by
  have split := List.take_append_drop offset (upTo limit offset rows)
  rw [← split] at early
  rcases List.mem_append.mp early with before | shown
  · left
    unfold upTo at before
    split at before
    · exact before
    · rwa [List.take_take, Nat.min_eq_left (Nat.le_add_right ..)] at before
  · exact .inr shown

theorem eq_nil_of_short (short : rows.length ≤ offset) : page limit offset rows = [] := by
  rw [eq_ite, List.drop_eq_nil_of_le short, List.take_nil, ite_self]

theorem map_of_unshown {f : α → α} (same : ∀ row ∈ page limit offset rows, f row = row) :
    page limit offset (rows.map f) = page limit offset rows := by
  have maps : page limit offset (rows.map f) = (page limit offset rows).map f := by
    rw [eq_ite, eq_ite]
    split
    · exact List.map_drop.symm
    · rw [← List.map_drop, ← List.map_take]
  rw [maps]
  exact (List.map_congr_left same).trans (List.map_id' _)

theorem filter_of_upTo {p : α → Bool} (kept : ∀ row ∈ upTo limit offset rows, p row = true) :
    page limit offset (rows.filter p) = page limit offset rows := by
  by_cases all : upTo limit offset rows = rows
  · rw [all] at kept
    rw [List.filter_eq_self.mpr kept]
  · have limited : limit ≠ 0 := by
      intro unlimited
      exact all (if_pos unlimited)
    have taken (other : List α) : upTo limit offset other = other.take (offset + limit) := if_neg limited
    rw [taken] at kept all
    have long : ¬ rows.length ≤ offset + limit := fun short => all (List.take_of_length_le short)
    have full : (rows.take (offset + limit)).length = offset + limit :=
      List.length_take_of_le (Nat.le_of_not_le long)
    have split : rows.filter p = rows.take (offset + limit) ++ (rows.drop (offset + limit)).filter p := by
      conv => lhs; rw [← List.take_append_drop (offset + limit) rows]
      rw [List.filter_append, List.filter_eq_self.mpr kept]
    rw [page, page, taken, taken, split, List.take_append_of_le_length (Nat.le_of_eq full.symm),
      List.take_take, Nat.min_self]

theorem filter_of_nil {p : α → Bool} (empty : page limit offset rows = []) :
    page limit offset (rows.filter p) = [] := by
  have beyond : rows.length ≤ offset := by
    rw [eq_ite] at empty
    split at empty
    · exact List.drop_eq_nil_iff.mp empty
    · exact List.drop_eq_nil_iff.mp ((List.take_eq_nil_iff.mp empty).resolve_left ‹_›)
  exact eq_nil_of_short (Nat.le_trans (List.length_filter_le ..) beyond)

theorem insert_of_le {before after : List α} {new : α} (limited : limit ≠ 0)
    (le : offset + limit ≤ before.length) :
    page limit offset (before ++ new :: after) = page limit offset (before ++ after) := by
  rw [page, page, upTo, upTo, if_neg limited, if_neg limited, List.take_append_of_le_length le,
    List.take_append_of_le_length le]

end Page

namespace Sorted
variable {α : Type} {le : α → α → Bool}

theorem filter_append_filter {rows : List α} {p : α → Bool} (sorted : rows.Pairwise fun a b => le a b)
    (closed : ∀ a b, le a b → p b → p a) :
    rows.filter p ++ rows.filter (fun row => !p row) = rows := by
  induction rows with
  | nil => rfl
  | cons first rows ih =>
      obtain ⟨smallest, sorted⟩ := List.pairwise_cons.mp sorted
      by_cases holds : p first = true
      · simp [holds, ih sorted]
      · have none : rows.filter p = [] := List.filter_eq_nil_iff.mpr
          fun row member here => holds (closed first row (smallest row member) here)
        have rest := ih sorted
        rw [none, List.nil_append] at rest
        simp [holds, none, rest]

variable (trans : ∀ a b c, le a b → le b c → le a c) (total : ∀ a b, le a b || le b a)
include trans total

theorem mergeSort_cons (first : α) (rows : List α) :
    (first :: rows).mergeSort le = (rows.mergeSort le).filter (fun row => !le first row) ++
      first :: (rows.mergeSort le).filter (le first) := by
  obtain ⟨before, after, sorted, rest, smaller⟩ := List.mergeSort_cons trans total first rows
  have ordered := List.pairwise_mergeSort trans total (first :: rows)
  rw [sorted] at ordered
  have larger : ∀ row ∈ after, le first row = true :=
    fun row member => List.rel_of_pairwise_cons (List.pairwise_append.mp ordered).2.1 member
  have none : before.filter (le first) = [] := List.filter_eq_nil_iff.mpr fun row member => by
    simpa using smaller row member
  have none' : (after.filter fun row => !le first row) = [] := List.filter_eq_nil_iff.mpr
    fun row member => by simpa using larger row member
  rw [sorted, rest, List.filter_append, List.filter_append, none, none', List.append_nil,
    List.nil_append, List.filter_eq_self.mpr smaller, List.filter_eq_self.mpr larger]

theorem mergeSort_concat (rows : List α) (new : α) :
    (rows ++ [new]).mergeSort le = (rows.mergeSort le).filter (fun row => le row new) ++
      new :: (rows.mergeSort le).filter fun row => !le row new := by
  induction rows with
  | nil => simp
  | cons first rows ih =>
      rw [List.cons_append, mergeSort_cons trans total, mergeSort_cons trans total, ih]
      by_cases before : le first new = true
      · have nowhere : (rows.mergeSort le).filter (fun row => !le first row && !le row new) = [] := by
          refine List.filter_eq_nil_iff.mpr fun row _ both => ?_
          simp only [Bool.and_eq_true, Bool.not_eq_true'] at both
          have later : le new row = true := by simpa [both.2] using total row new
          rw [trans _ _ _ before later] at both
          exact absurd both.1 (by decide)
        simp [List.filter_append, List.filter_filter, before, nowhere, Bool.and_comm]
      · have nowhere : (rows.mergeSort le).filter (fun row => le first row && le row new) = [] := by
          refine List.filter_eq_nil_iff.mpr fun row _ both => ?_
          simp only [Bool.and_eq_true] at both
          exact before (trans _ _ _ both.1 both.2)
        simp [List.filter_append, List.filter_filter, before, nowhere, Bool.and_comm]

end Sorted

end Kanaka
