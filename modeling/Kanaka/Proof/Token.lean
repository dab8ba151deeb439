import Kanaka.Contracts.Interface

/-! # Ledgers of well-behaved tokens -/

namespace Kanaka.Proof
open Machine Contracts

abbrev Ledger := LegacyMap ContractAddress U256

namespace Ledger

def supply (ledger : Ledger) : Nat := ∑ account, (ledger account).toNat

/-- Exactly the requested amount moves, or nothing does. -/
def move (ledger : Ledger) (source target : ContractAddress) (amount : U256) : Option Ledger := do
  let debited ← checkedSub (ledger source) amount
  let paid : Ledger := Function.update ledger source debited
  let credited ← checkedAdd (paid target) amount
  return Function.update paid target credited

variable {ledger after : Ledger} {source target : ContractAddress} {amount : U256}

theorem move_eq_some (moved : ledger.move source target amount = some after) :
    ∃ debited credited : U256, debited.toNat + amount.toNat = (ledger source).toNat ∧
      credited.toNat = (Function.update ledger source debited target).toNat + amount.toNat ∧
      after = Function.update (Function.update ledger source debited) target credited := by
  simp only [move, Option.bind_eq_bind, Option.bind_eq_some_iff, Option.pure_def,
    Option.some.injEq] at moved
  obtain ⟨debited, difference, credited, sum, rfl⟩ := moved
  exact ⟨debited, credited, checkedSub_eq_some.mp difference, checkedAdd_eq_some.mp sum, rfl⟩

theorem move_of_eq {debited credited : U256}
    (difference : checkedSub (ledger source) amount = some debited)
    (sum : checkedAdd (Function.update ledger source debited target) amount = some credited) :
    ledger.move source target amount =
      some (Function.update (Function.update ledger source debited) target credited) := by
  simp only [move, difference, Option.bind_eq_bind, Option.bind_some, sum, Option.pure_def]

theorem balance_move (moved : ledger.move source target amount = some after)
    (account : ContractAddress) :
    ((after account).toNat : Int) = (ledger account).toNat +
      (if account = target then (amount.toNat : Int) else 0) -
      (if account = source then (amount.toNat : Int) else 0) := by
  obtain ⟨debited, credited, difference, sum, rfl⟩ := move_eq_some moved
  have paid : ((Function.update ledger source debited account).toNat : Int) =
      (ledger account).toNat - (if account = source then (amount.toNat : Int) else 0) := by
    by_cases payer : account = source
    · rw [payer, Function.update_self, if_pos rfl]
      omega
    · rw [Function.update_of_ne payer, if_neg payer, sub_zero]
  by_cases payee : account = target
  · rw [payee, Function.update_self, if_pos rfl, sum]
    rw [payee] at paid
    omega
  · rw [Function.update_of_ne payee, paid, if_neg payee, add_zero]

theorem supply_move (moved : ledger.move source target amount = some after) :
    after.supply = ledger.supply := by
  obtain ⟨debited, credited, difference, sum, rfl⟩ := move_eq_some moved
  have first := sum_write ledger (fun _ => BitVec.toNat) source debited
  have second := sum_write (Function.update ledger source debited) (fun _ => BitVec.toNat)
    target credited
  simp only [supply]
  omega

end Ledger

end Kanaka.Proof
