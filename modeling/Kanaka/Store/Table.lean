import Mathlib.Algebra.BigOperators.Group.List.Basic
import Mathlib.Data.List.Nodup

/-!
# Tables with a primary key

Saving a row replaces the row that has its key, or adds it as a new one.
-/

namespace Kanaka

variable {ρ κ M : Type}

structure Table (key : ρ → κ) where
  rows : List ρ
  distinct : (rows.map key).Nodup

namespace Table
variable {key : ρ → κ} (t : Table key)

def empty : Table key := ⟨[], List.nodup_nil⟩

@[simp] theorem empty_rows : (empty : Table key).rows = [] := rfl

def change (f : ρ → ρ) (kept : ∀ row, key (f row) = key row) : Table key :=
  ⟨t.rows.map f, by
    rw [List.map_map, show key ∘ f = key from funext kept]
    exact t.distinct⟩

theorem eq_of_key {row other : ρ} (member : row ∈ t.rows) (member' : other ∈ t.rows)
    (same : key row = key other) : row = other :=
  List.inj_on_of_nodup_map t.distinct member member' same

section Save
variable [DecidableEq κ]

def erase (k : κ) : Table key :=
  ⟨t.rows.filter fun row => key row ≠ k, t.distinct.sublist (List.filter_sublist.map key)⟩

def find (k : κ) : Option ρ := t.rows.find? fun row => key row = k

def save (row : ρ) : Table key :=
  if absent : key row ∉ t.rows.map key then
    ⟨t.rows ++ [row], by
      rw [List.map_append, List.map_singleton]
      exact List.nodup_append.mpr ⟨t.distinct, List.nodup_singleton _, by
        rintro k member _ last rfl
        exact absent (List.mem_singleton.mp last ▸ member)⟩⟩
  else t.change (fun other => if key other = key row then row else other) fun other => by
    split
    · exact Eq.symm ‹_›
    · rfl

variable {t} {k : κ} {row other : ρ}

theorem find_eq_some_iff : t.find k = some row ↔ row ∈ t.rows ∧ key row = k := by
  constructor
  · intro found
    exact ⟨List.mem_of_find?_eq_some found, by simpa using List.find?_some found⟩
  · rintro ⟨member, rfl⟩
    cases found : t.find (key row) with
    | none => exact absurd (decide_eq_true rfl) (List.find?_eq_none.mp found row member)
    | some first =>
        have same : key first = key row := by simpa using List.find?_some found
        rw [t.eq_of_key (List.mem_of_find?_eq_some found) member same]

theorem find_eq_none_iff : t.find k = none ↔ k ∉ t.rows.map key := by
  simp [find]

theorem mem_save : other ∈ (t.save row).rows ↔ other = row ∨ other ∈ t.rows ∧ key other ≠ key row := by
  unfold save
  split
  · rename_i absent
    simp only [List.mem_append, List.mem_singleton]
    constructor
    · rintro (member | same)
      · exact .inr ⟨member, fun same => absent (same ▸ List.mem_map_of_mem member)⟩
      · exact .inl same
    · rintro (same | ⟨member, _⟩)
      · exact .inr same
      · exact .inl member
  · rename_i present
    obtain ⟨old, member, replaced⟩ := List.mem_map.mp (not_not.mp present)
    simp only [change, List.mem_map]
    constructor
    · rintro ⟨before, stood, rfl⟩
      split
      · exact .inl rfl
      · exact .inr ⟨stood, ‹_›⟩
    · rintro (rfl | ⟨stood, ne⟩)
      · exact ⟨old, member, if_pos replaced⟩
      · exact ⟨other, stood, if_neg ne⟩

theorem find_save : (t.save row).find k = if key row = k then some row else t.find k := by
  apply Option.ext
  intro other
  rw [find_eq_some_iff, mem_save]
  split
  · rename_i same
    subst same
    rw [Option.some.injEq, eq_comm (a := row)]
    constructor
    · rintro ⟨here | ⟨_, ne⟩, there⟩
      · exact here
      · exact absurd there ne
    · rintro rfl
      exact ⟨.inl rfl, rfl⟩
  · rename_i ne
    rw [find_eq_some_iff]
    constructor
    · rintro ⟨rfl | ⟨member, _⟩, there⟩
      · exact absurd there ne
      · exact ⟨member, there⟩
    · rintro ⟨member, rfl⟩
      exact ⟨.inr ⟨member, Ne.symm ne⟩, rfl⟩

theorem find_change {f : ρ → ρ} {kept : ∀ row, key (f row) = key row} :
    (t.change f kept).find k = (t.find k).map f := by
  apply Option.ext
  intro other
  simp only [find_eq_some_iff, Option.map_eq_some_iff, change, List.mem_map]
  constructor
  · rintro ⟨⟨before, member, rfl⟩, named⟩
    exact ⟨before, ⟨member, (kept before).symm.trans named⟩, rfl⟩
  · rintro ⟨before, ⟨member, named⟩, rfl⟩
    exact ⟨⟨before, member, rfl⟩, (kept before).trans named⟩

end Save

/-! ## Rows saved one after the other -/

section SaveAll
variable [DecidableEq κ]

def saveAll (rows : List ρ) : Table key := rows.foldl (fun table row => table.save row) t

@[simp] theorem saveAll_nil : t.saveAll [] = t := rfl

@[simp] theorem saveAll_cons (row : ρ) (rows : List ρ) :
    t.saveAll (row :: rows) = (t.save row).saveAll rows := rfl

variable {t} {k : κ} {row : ρ} {rows : List ρ}

theorem mem_saveAll (member : row ∈ (t.saveAll rows).rows) : row ∈ t.rows ∨ row ∈ rows := by
  induction rows generalizing t with
  | nil => exact .inl member
  | cons first rows ih =>
      rcases ih member with saved | later
      · rcases mem_save.mp saved with rfl | ⟨stood, _⟩
        · exact .inr List.mem_cons_self
        · exact .inl stood
      · exact .inr (List.mem_cons_of_mem first later)

theorem rows_saveAll (fresh : ((t.rows ++ rows).map key).Nodup) :
    (t.saveAll rows).rows = t.rows ++ rows := by
  induction rows generalizing t with
  | nil => simp
  | cons first rows ih =>
      have absent : key first ∉ t.rows.map key := by
        intro member
        rw [List.map_append, List.map_cons, List.nodup_middle, List.nodup_cons] at fresh
        exact fresh.1 (List.mem_append_left _ member)
      have saved : (t.save first).rows = t.rows ++ [first] := by rw [save, dif_pos absent]
      have regrouped : (t.save first).rows ++ rows = t.rows ++ first :: rows := by
        rw [saved, List.append_assoc, List.singleton_append]
      rw [saveAll_cons, ih (by rwa [regrouped]), regrouped]

theorem find_saveAll : (t.saveAll rows).find k =
    (rows.reverse.find? fun row => key row = k).or (t.find k) := by
  induction rows generalizing t with
  | nil => rfl
  | cons first rows ih =>
      rw [saveAll_cons, ih, find_save, List.reverse_cons, List.find?_append, Option.or_assoc]
      congr 1
      by_cases same : key first = k
      · simp [same]
      · simp [same]

end SaveAll

/-! ## Sums over the rows -/

section Sums
variable [AddCommMonoid M] (f : ρ → M)

def sum : M := (t.rows.map f).sum

theorem sum_save [DecidableEq κ] (row : ρ) :
    (t.save row).sum f + (t.find (key row)).elim 0 f = t.sum f + f row := by
  cases found : t.find (key row) with
  | none =>
      have absent := find_eq_none_iff.mp found
      simp [sum, save, absent]
  | some old =>
      obtain ⟨member, replaced⟩ := find_eq_some_iff.mp found
      have present : ¬ key row ∉ t.rows.map key := not_not.mpr (replaced ▸ List.mem_map_of_mem member)
      obtain ⟨before, after, split⟩ := List.append_of_mem member
      have distinct := t.distinct
      rw [split, List.map_append, List.map_cons, List.nodup_middle, List.nodup_cons, replaced] at distinct
      have others : ∀ other ∈ before ++ after,
          (if key other = key row then row else other) = other := by
        intro other stands
        apply if_neg
        intro same
        apply distinct.1
        rw [← List.map_append, ← same]
        exact List.mem_map_of_mem stands
      have kept : ∀ rows ⊆ before ++ after,
          rows.map (fun other => f (if key other = key row then row else other)) = rows.map f :=
        fun rows part => List.map_congr_left fun other stands => by rw [others other (part stands)]
      simp only [sum, save, dif_neg present, change, split, List.map_map, List.map_append,
        List.map_cons, List.sum_append, List.sum_cons, Function.comp_def, if_pos replaced,
        Option.elim_some, kept before (List.subset_append_left ..),
        kept after (List.subset_append_right ..)]
      ac_rfl

end Sums

/-! ## Keys that the database counts up -/

section Serial
variable {key : ρ → Nat} (t : Table key)

def serial : Nat := (t.rows.map key).foldr max 0 + 1

theorem key_lt_serial {row : ρ} (member : row ∈ t.rows) : key row < t.serial := by
  have bound : ∀ keys : List Nat, ∀ k ∈ keys, k ≤ keys.foldr max 0 := by
    intro keys
    induction keys with
    | nil => simp
    | cons first rest ih =>
        intro k found
        rw [List.foldr_cons]
        rcases List.mem_cons.mp found with rfl | found
        · exact Nat.le_max_left ..
        · exact Nat.le_trans (ih k found) (Nat.le_max_right ..)
  exact Nat.lt_succ_of_le (bound _ _ (List.mem_map_of_mem member))

def insert (make : Nat → ρ) (keyed : ∀ id, key (make id) = id) : Table key :=
  ⟨t.rows ++ [make t.serial], by
    rw [List.map_append, List.map_singleton, keyed]
    apply List.nodup_append.mpr
    refine ⟨t.distinct, List.nodup_singleton _, ?_⟩
    rintro k member _ last rfl
    obtain ⟨row, stands, rfl⟩ := List.mem_map.mp member
    exact absurd (List.mem_singleton.mp last) (Nat.ne_of_lt (t.key_lt_serial stands))⟩

@[simp] theorem insert_rows (make : Nat → ρ) (keyed : ∀ id, key (make id) = id) :
    (t.insert make keyed).rows = t.rows ++ [make t.serial] := rfl

theorem sum_insert [AddCommMonoid M] (f : ρ → M) (make : Nat → ρ) (keyed : ∀ id, key (make id) = id) :
    (t.insert make keyed).sum f = t.sum f + f (make t.serial) := by
  rw [sum, insert_rows, List.map_append, List.sum_append, List.map_singleton, List.sum_singleton, sum]

theorem find_insert (make : Nat → ρ) (keyed : ∀ id, key (make id) = id) (k : Nat) :
    (t.insert make keyed).find k = if k = t.serial then some (make t.serial) else t.find k := by
  apply Option.ext
  intro row
  rw [find_eq_some_iff, insert_rows, List.mem_append, List.mem_singleton]
  split
  · rename_i same
    subst same
    rw [Option.some.injEq]
    constructor
    · rintro ⟨stood | new, named⟩
      · exact absurd named (Nat.ne_of_lt (t.key_lt_serial stood))
      · exact new.symm
    · rintro rfl
      exact ⟨.inr rfl, keyed _⟩
  · rename_i other
    rw [find_eq_some_iff]
    constructor
    · rintro ⟨stood | rfl, named⟩
      · exact ⟨stood, named⟩
      · exact absurd (named.symm.trans (keyed _)) other
    · rintro ⟨stood, named⟩
      exact ⟨.inl stood, named⟩

end Serial

end Table

end Kanaka
