import Kanaka.Backend.JsRegex
import Mathlib.Data.List.DropRight

/-! # Texts of JavaScript -/

namespace Kanaka.Backend

/-- `text.toLowerCase()`. The Kelvin sign is the one letter that is not ASCII's and whose lower case
is; the other ones are left as they are, and are in no name of a field. -/
def toLowerCase (text : String) : String :=
  String.ofList (text.toList.map fun c => if c = '\u212a' then 'k' else c.toLower)

theorem isUpper_lowered (c : Char) :
    (if c = '\u212a' then 'k' else c.toLower).isUpper = false := by
  split
  · rfl
  · unfold Char.toLower Char.isUpper
    split
    · rename_i upper
      simp only [ge_iff_le, UInt32.le_iff_toNat_le, UInt32.toNat_add, decide_eq_false_iff_not,
        not_and] at upper ⊢
      simp at upper ⊢
      omega
    · rename_i lower
      simpa using lower

theorem upper_notMem {c : Char} (upper : c.isUpper = true) (name : String) :
    c ∉ (toLowerCase name).toList := by
  rw [toLowerCase, String.toList_ofList, List.mem_map]
  rintro ⟨d, -, rfl⟩
  rw [isUpper_lowered] at upper
  cases upper

theorem toLowerCase_ne {name field : String} (c : Char) (upper : c.isUpper = true)
    (member : c ∈ field.toList) : toLowerCase name ≠ field := by
  rintro rfl
  exact upper_notMem upper name member

/-! ## Separators -/

def split (separator : Char) (text : String) : List String :=
  (text.toList.splitOn separator).map String.ofList

def join (separator : Char) (parts : List String) : String :=
  (String.singleton separator).intercalate parts

section Separators
variable {separator c : Char} {parts : List String} {text part : String}

theorem toList_join : (join separator parts).toList = [separator].intercalate (parts.map String.toList) := by
  rw [join, String.toList_intercalate, String.toList_singleton]

theorem split_join (filled : parts ≠ []) (free : ∀ part ∈ parts, separator ∉ part.toList) :
    split separator (join separator parts) = parts := by
  have free : ∀ chars ∈ parts.map String.toList, separator ∉ chars := List.forall_mem_map.mpr free
  rw [split, toList_join, List.splitOn_intercalate separator free (by simpa using filled), List.map_map]
  simp [Function.comp_def]

theorem mem_join (found : c ∈ (join separator parts).toList) :
    c = separator ∨ ∃ part ∈ parts, c ∈ part.toList := by
  rw [toList_join] at found
  induction parts with
  | nil => cases found
  | cons part parts ih =>
      cases parts with
      | nil => exact .inr ⟨part, List.mem_cons_self, by simpa using found⟩
      | cons next parts =>
          rw [List.map_cons, List.map_cons, List.intercalate_cons_cons, List.mem_append,
            List.mem_append, List.mem_singleton] at found
          rcases found with (here | between) | later
          · exact .inr ⟨part, List.mem_cons_self, here⟩
          · exact .inl between
          · refine (ih later).imp_right ?_
            rintro ⟨other, member, found⟩
            exact ⟨other, List.mem_cons_of_mem part member, found⟩

theorem notMem_and_subset_of_mem_splitOn {chars piece : List Char} (member : piece ∈ chars.splitOn separator) :
    separator ∉ piece ∧ piece ⊆ chars := by
  induction chars generalizing piece with
  | nil =>
      rw [List.splitOn_nil, List.mem_singleton] at member
      subst member
      simp
  | cons first chars ih =>
      have later {piece : List Char} (member : piece ∈ chars.splitOn separator) :
          separator ∉ piece ∧ piece ⊆ first :: chars :=
        (ih member).imp_right (List.subset_cons_of_subset first)
      rw [List.splitOn_cons_eq_if_modifyHead] at member
      split at member
      · rcases List.mem_cons.mp member with rfl | member
        · simp
        · exact later member
      · rename_i other
        cases pieces : chars.splitOn separator with
        | nil => exact absurd pieces (List.splitOn_ne_nil separator chars)
        | cons head pieces' =>
            rw [pieces, List.modifyHead_cons] at member
            rcases List.mem_cons.mp member with rfl | member
            · obtain ⟨free, part⟩ := later (pieces ▸ List.mem_cons_self)
              have ne : separator ≠ first := by
                rintro rfl
                simp at other
              simpa [ne] using ⟨free, part⟩
            · exact later (pieces ▸ List.mem_cons_of_mem head member)

theorem notMem_of_mem_split (member : part ∈ split separator text) : separator ∉ part.toList := by
  obtain ⟨piece, found, rfl⟩ := List.mem_map.mp member
  rw [String.toList_ofList]
  exact (notMem_and_subset_of_mem_splitOn found).1

theorem subset_of_mem_split (member : part ∈ split separator text) : part.toList ⊆ text.toList := by
  obtain ⟨piece, found, rfl⟩ := List.mem_map.mp member
  rw [String.toList_ofList]
  exact (notMem_and_subset_of_mem_splitOn found).2

end Separators

/-! ## White space at the ends -/

def trim (text : String) : String :=
  String.ofList ((text.toList.dropWhile JsRegex.space).rdropWhile JsRegex.space)

def Trimmed (text : String) : Prop :=
  text.toList.head?.any JsRegex.space = false ∧ text.toList.getLast?.any JsRegex.space = false

instance (text : String) : Decidable (Trimmed text) := inferInstanceAs (Decidable (_ ∧ _))

theorem any_eq_false_iff {o : Option Char} {p : Char → Bool} :
    o.any p = false ↔ ∀ c ∈ o, p c = false := by
  cases o <;> simp

theorem trim_eq {text : String} (trimmed : Trimmed text) : trim text = text := by
  obtain ⟨start, finish⟩ := trimmed
  rw [any_eq_false_iff] at start finish
  have left : text.toList.dropWhile JsRegex.space = text.toList := by
    rw [List.dropWhile_eq_self_iff]
    intro filled
    rw [start _ (by simp [List.head?_eq_getElem?, filled])]
    exact Bool.false_ne_true
  have right : text.toList.rdropWhile JsRegex.space = text.toList := by
    rw [List.rdropWhile_eq_self_iff]
    intro filled
    rw [finish _ (List.getLast?_eq_some_getLast filled)]
    exact Bool.false_ne_true
  rw [trim, left, right, String.ofList_toList]

theorem trimmed_trim (text : String) : Trimmed (trim text) := by
  unfold Trimmed trim
  rw [String.toList_ofList, any_eq_false_iff, any_eq_false_iff]
  constructor
  · intro c first
    obtain ⟨rest, same⟩ := List.rdropWhile_prefix JsRegex.space (text.toList.dropWhile JsRegex.space)
    have start := List.head?_dropWhile_not JsRegex.space text.toList
    rw [← same, List.head?_append_of_ne_nil, first] at start
    · exact start
    · rintro none
      rw [none] at first
      cases first
  · intro c last
    obtain ⟨filled, rfl⟩ := List.mem_getLast?_eq_getLast last
    exact Bool.eq_false_iff.mpr (List.rdropWhile_last_not JsRegex.space _ filled)

theorem trim_subset (text : String) : (trim text).toList ⊆ text.toList := by
  intro c inside
  rw [trim, String.toList_ofList] at inside
  exact (List.dropWhile_sublist _).mem ((List.rdropWhile_prefix _ _).mem inside)

end Kanaka.Backend
