import Kanaka.Contracts.Interface

/-! # Numbers as text, and texts in parts -/

namespace Kanaka.Backend
open Contracts

theorem toString_inj {n m : Nat} (same : toString n = toString m) : n = m := by
  have digits : Nat.toDigits 10 n = Nat.toDigits 10 m := by
    simpa [Nat.toString_eq_repr, Nat.toList_repr] using congrArg String.toList same
  rw [← Nat.ofDigitChars_ten_toDigits (n := n), digits, Nat.ofDigitChars_ten_toDigits]

/-- `/^[0-9]+$/` -/
def isDigits (text : String) : Bool := text.toList ≠ [] ∧ text.toList.all Char.isDigit

/-- `BigInt(text)`, of digits. -/
def bigInt (text : String) : Nat := Nat.ofDigitChars 10 text.toList 0

theorem bigInt_toString (n : Nat) : bigInt (toString n) = n := by
  unfold bigInt
  rw [Nat.toString_eq_repr, Nat.toList_repr, Nat.ofDigitChars_ten_toDigits]

/-- `poolId.toString()` of an event. -/
def idText (poolId : Felt252) : String := toString poolId.val

theorem idText_inj {a b : Felt252} : idText a = idText b ↔ a = b :=
  ⟨fun same => Fin.ext (toString_inj same), congrArg idText⟩

theorem before_inj {α : Type} {sep : α} {xs ys xs' ys' : List α} (absent : sep ∉ xs)
    (absent' : sep ∉ xs') (same : xs ++ sep :: ys = xs' ++ sep :: ys') : xs = xs' ∧ ys = ys' := by
  induction xs generalizing xs' with
  | nil =>
      cases xs' with
      | nil => simpa using same
      | cons x xs' =>
          obtain ⟨rfl, -⟩ := List.cons.inj same
          exact absurd List.mem_cons_self absent'
  | cons x xs ih =>
      cases xs' with
      | nil =>
          obtain ⟨rfl, -⟩ := List.cons.inj same
          exact absurd List.mem_cons_self absent
      | cons x' xs' =>
          obtain ⟨rfl, rest⟩ := List.cons.inj same
          simp only [List.mem_cons, not_or] at absent absent'
          obtain ⟨rfl, after⟩ := ih absent.2 absent'.2 rest
          exact ⟨rfl, after⟩

end Kanaka.Backend
