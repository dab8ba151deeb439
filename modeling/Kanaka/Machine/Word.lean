import Mathlib.Algebra.BigOperators.Ring.Finset
import Mathlib.Data.BitVec

/-!
# Checked machine words and sums over them

Words of `n` bits whose operations fail instead of wrapping, and what one write does to a sum over
a whole map of such words.
-/

namespace Kanaka.Machine
open Finset

variable {n : Nat} {a b c : BitVec n}

def checkedAdd (a b : BitVec n) : Option (BitVec n) :=
  if a.toNat + b.toNat < 2 ^ n then some (a + b) else none

def checkedSub (a b : BitVec n) : Option (BitVec n) :=
  if b.toNat ≤ a.toNat then some (a - b) else none

def checkedMul (a b : BitVec n) : Option (BitVec n) :=
  if a.toNat * b.toNat < 2 ^ n then some (a * b) else none

theorem checked_eq_some {result : Nat} {wrapped : BitVec n} (wraps : wrapped.toNat = result % 2 ^ n) :
    (if result < 2 ^ n then some wrapped else none) = some c ↔ c.toNat = result := by
  constructor
  · intro h
    split at h
    · rename_i fits
      rw [← Option.some.inj h, wraps, Nat.mod_eq_of_lt fits]
    · contradiction
  · intro h
    have fits : result < 2 ^ n := h ▸ c.isLt
    rw [if_pos fits, Option.some.injEq]
    apply BitVec.eq_of_toNat_eq
    rw [wraps, Nat.mod_eq_of_lt fits, h]

theorem checkedAdd_eq_some : checkedAdd a b = some c ↔ c.toNat = a.toNat + b.toNat :=
  checked_eq_some (BitVec.toNat_add a b)

theorem checkedAdd_eq_none : checkedAdd a b = none ↔ 2 ^ n ≤ a.toNat + b.toNat := by
  unfold checkedAdd
  split <;> simp_all

theorem checkedSub_eq_some : checkedSub a b = some c ↔ c.toNat + b.toNat = a.toNat := by
  unfold checkedSub
  have small := a.isLt
  constructor
  · intro h
    split at h
    · rename_i le
      rw [← Option.some.inj h, BitVec.toNat_sub_of_le le, Nat.sub_add_cancel le]
    · contradiction
  · intro h
    have le : b.toNat ≤ a.toNat := by omega
    rw [if_pos le, Option.some.injEq]
    apply BitVec.eq_of_toNat_eq
    rw [BitVec.toNat_sub_of_le le]
    omega

theorem checkedSub_of_le (h : b.toNat ≤ a.toNat) : checkedSub a b = some (a - b) := if_pos h

theorem checkedMul_eq_some : checkedMul a b = some c ↔ c.toNat = a.toNat * b.toNat :=
  checked_eq_some (BitVec.toNat_mul a b)

section Sums
variable {ι κ ν M : Type} [Fintype ι] [DecidableEq ι] [AddCommMonoid M]

theorem sum_write (f : ι → ν) (weight : ι → ν → M) (i : ι) (value : ν) :
    ∑ j, weight j (Function.update f i value j) + weight i (f i) =
      ∑ j, weight j (f j) + weight i value := by
  rw [← add_sum_erase univ (fun j => weight j (Function.update f i value j)) (mem_univ i),
    ← add_sum_erase univ (fun j => weight j (f j)) (mem_univ i)]
  have others : ∑ j ∈ univ.erase i, weight j (Function.update f i value j) =
      ∑ j ∈ univ.erase i, weight j (f j) :=
    sum_congr rfl fun j member => by rw [Function.update_of_ne (ne_of_mem_erase member)]
  rw [others, Function.update_self]
  ac_rfl

variable [DecidableEq κ]

theorem sum_write_slice {slice : ι → κ} (injective : Function.Injective slice) (f : κ → ν)
    (weight : ν → M) (i : ι) (value : ν) :
    ∑ j, weight (Function.update f (slice i) value (slice j)) + weight (f (slice i)) =
      ∑ j, weight (f (slice j)) + weight value := by
  have h := sum_write (f ∘ slice) (fun _ => weight) i value
  rw [← Function.update_comp_eq_of_injective f injective] at h
  exact h

omit [DecidableEq ι] in
theorem sum_write_outside {slice : ι → κ} (f : κ → ν) (weight : ν → M) {k : κ} (value : ν)
    (outside : ∀ j, slice j ≠ k) :
    ∑ j, weight (Function.update f k value (slice j)) = ∑ j, weight (f (slice j)) :=
  sum_congr rfl fun j _ => by rw [Function.update_of_ne (outside j)]

end Sums

end Kanaka.Machine
