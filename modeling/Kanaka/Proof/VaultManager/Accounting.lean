import Kanaka.Contracts.Network
import Kanaka.Contracts.VaultManager
import Kanaka.Machine.Simulate
import Mathlib.Algebra.Order.BigOperators.Group.Finset

namespace Kanaka.Proof.VaultManager
open Machine Contracts Contracts.VaultManager

/-- `VaultManager` at `self`, with every contract it calls in the environment. -/
abbrev vaultManagerAlone (self : ContractAddress) : System State Call Reply :=
  alone self (entry self) fun _ _ => False

def deposited (user : ContractAddress) (poolId : Felt252) : Event → Nat
  | .deposit u p amount => if u = user ∧ p = poolId then amount.toNat else 0
  | .withdrawal _ _ _ => 0

def withdrawn (user : ContractAddress) (poolId : Felt252) : Event → Nat
  | .deposit _ _ _ => 0
  | .withdrawal u p amount => if u = user ∧ p = poolId then amount.toNat else 0

def deposits (s : State) (user : ContractAddress) (poolId : Felt252) : Nat :=
  (s.events.map (deposited user poolId)).sum

def withdrawals (s : State) (user : ContractAddress) (poolId : Felt252) : Nat :=
  (s.events.map (withdrawn user poolId)).sum

def Balanced (s : State) : Prop :=
  ∀ poolId, (s.totalSupply poolId).toNat = ∑ user, (s.balances (user, poolId)).toNat

/-- How far a user's balance is ahead of the events. -/
def unannounced (s : State) (user : ContractAddress) (poolId : Felt252) : Int :=
  (s.balances (user, poolId)).toNat - deposits s user poolId + withdrawals s user poolId

def SameUnannounced (before after : State) : Prop :=
  ∀ user poolId, unannounced after user poolId = unannounced before user poolId

theorem Balanced.write {s : State} (balanced : Balanced s) (user : ContractAddress)
    (poolId : Felt252) {balance total : U256}
    (moves : total.toNat + (s.balances (user, poolId)).toNat =
      (s.totalSupply poolId).toNat + balance.toNat) :
    Balanced ((s.writeBalances (user, poolId) balance).writeTotalSupply poolId total) := by
  intro other
  simp only [State.writeTotalSupply_totalSupply, State.writeTotalSupply_balances,
    State.writeBalances_totalSupply, State.writeBalances_balances]
  by_cases same : other = poolId
  · subst same
    have sum := sum_write_slice (Prod.mk_left_injective other) s.balances BitVec.toNat user balance
    have before := balanced other
    rw [Function.update_self]
    omega
  · rw [Function.update_of_ne same, balanced other, sum_write_outside]
    simp [same]

theorem Balanced.balance_le {s : State} (balanced : Balanced s) (user : ContractAddress)
    (poolId : Felt252) : (s.balances (user, poolId)).toNat ≤ (s.totalSupply poolId).toNat := by
  rw [balanced poolId]
  exact Finset.single_le_sum (f := fun u => (s.balances (u, poolId)).toNat)
    (fun _ _ => Nat.zero_le _) (Finset.mem_univ user)

theorem unannounced_write (s : State) (user : ContractAddress) (poolId : Felt252)
    (balance total : U256) (u : ContractAddress) (p : Felt252) :
    unannounced ((s.writeBalances (user, poolId) balance).writeTotalSupply poolId total) u p =
      unannounced s u p +
        if user = u ∧ poolId = p then
          (balance.toNat : Int) - (s.balances (user, poolId)).toNat else 0 := by
  simp only [unannounced, deposits, withdrawals, State.writeTotalSupply_balances,
    State.writeTotalSupply_events, State.writeBalances_balances, State.writeBalances_events]
  split
  · rename_i same
    rw [← same.1, ← same.2, Function.update_self]
    omega
  · rename_i other
    rw [Function.update_of_ne]
    · omega
    · intro same
      rw [Prod.mk.injEq] at same
      exact other ⟨same.1.symm, same.2.symm⟩

theorem unannounced_emit (s : State) (event : Event) (u : ContractAddress) (p : Felt252) :
    unannounced (s.emit event) u p =
      unannounced s u p - deposited u p event + withdrawn u p event := by
  simp only [unannounced, deposits, withdrawals, State.emit_balances, State.emit_events,
    List.map_append, List.map_cons, List.map_nil, List.sum_append, List.sum_cons, List.sum_nil]
  omega

section Entries
variable (self caller : ContractAddress)

abbrev KeepsAccounts {α : Type} (now : Snapshot State Call Reply) (code : Entry State α)
    (history : List (Crossing State Call Reply)) : Prop :=
  Safe (vaultManagerAlone self) (fun s => Balanced s.state) SameUnannounced
    (fun _ next => Balanced next.state ∧ SameUnannounced now.state next.state)
    (code.run now.state) history

theorem deposit_keepsAccounts (poolId : Felt252) (amount : U256) (now : Snapshot State Call Reply)
    (history : List (Crossing State Call Reply)) (balanced : Balanced now.state) :
    KeepsAccounts self now (deposit self caller poolId amount) history := by
  apply safe_deposit
  intro _ _ _
  apply Safe.send (deployed_foreign (entry_foreign _ _ (by simp))) balanced
  intro _ paid paidOk paidSame newBalance newTotal balance_eq total_eq
  simp only [Has.get_self, Has.set_self] at balance_eq total_eq ⊢
  have written : Balanced ((paid.state.writeBalances (caller, poolId) newBalance).writeTotalSupply
      poolId newTotal) := paidOk.write caller poolId (by omega)
  apply Safe.send (deployed_foreign (entry_foreign _ _ (by simp))) written
  intro _ told toldOk toldSame
  -- the event announces what the write before the second call added
  constructor
  · exact toldOk
  · intro user pool
    have toldNow := toldSame user pool
    have before := paidSame user pool
    rw [unannounced_write] at toldNow
    rw [unannounced_emit]
    simp only [deposited, withdrawn]
    split <;> simp_all

theorem withdraw_keepsAccounts (poolId : Felt252) (amount : U256) (now : Snapshot State Call Reply)
    (history : List (Crossing State Call Reply)) (balanced : Balanced now.state) :
    KeepsAccounts self now (withdraw self caller poolId amount) history := by
  apply safe_withdraw
  intro newBalance newTotal _ _ balance_eq total_eq
  simp only [Has.get_self, Has.set_self] at balance_eq total_eq ⊢
  have written : Balanced ((now.state.writeBalances (caller, poolId) newBalance).writeTotalSupply
      poolId newTotal) := balanced.write caller poolId (by omega)
  apply Safe.send (deployed_foreign (entry_foreign _ _ (by simp))) written
  intro _ told toldOk toldSame
  apply Safe.send (deployed_foreign (entry_foreign _ _ (by simp))) toldOk
  intro _ paid paidOk paidSame
  constructor
  · exact paidOk
  · intro user pool
    have toldNow := toldSame user pool
    have after := paidSame user pool
    rw [unannounced_write] at toldNow
    rw [unannounced_emit]
    simp only [deposited, withdrawn]
    split <;> simp_all
    omega

theorem addPool_keepsAccounts (poolId : Felt252) (token : ContractAddress)
    (now : Snapshot State Call Reply) (history : List (Crossing State Call Reply))
    (balanced : Balanced now.state) :
    KeepsAccounts self now (addPool caller poolId token) history := by
  apply safe_addPool
  intro _ _
  exact ⟨balanced, fun _ _ => rfl⟩

theorem vaultManager_keepsAccounts :
    Certified (vaultManagerAlone self) (fun s => Balanced s.state) SameUnannounced
      SameUnannounced where
  rely_refl _ _ _ := rfl
  rely_trans first second user poolId := (second user poolId).trans (first user poolId)
  guarantee_trans first second user poolId := (second user poolId).trans (first user poolId)
  resumed _ balanced := balanced
  enter {depth request body now} _ found balanced := by
    simp only [alone, deployed_cons, deployed_nil, Option.ite_none_right_eq_some,
      Option.some.injEq] at found
    rw [← found.2]
    exact safe_entry self request.sender request.message ⟨balanced, fun _ _ => rfl⟩
      (fun poolId amount _ => deposit_keepsAccounts self _ poolId amount now _ balanced)
      (fun poolId amount _ => withdraw_keepsAccounts self _ poolId amount now _ balanced)
      (fun poolId token _ => addPool_keepsAccounts self _ poolId token now _ balanced)
  nested _ guarantee := guarantee
  drift _ impossible := impossible.elim
  tick _ impossible := impossible.elim

end Entries

theorem constructor_balanced (strategyRegistry yieldEngine : ContractAddress) :
    Balanced (constructor strategyRegistry yieldEngine) := by
  intro poolId
  simp [constructor]

theorem unannounced_constructor (strategyRegistry yieldEngine user : ContractAddress)
    (poolId : Felt252) : unannounced (constructor strategyRegistry yieldEngine) user poolId = 0 := by
  simp [unannounced, constructor, deposits, withdrawals]

section Runs
variable {self strategyRegistry yieldEngine : ContractAddress} {config : Config State Call Reply}
  (reaches : (vaultManagerAlone self).Reaches
    (.initial (constructor strategyRegistry yieldEngine)) config)
include reaches

theorem balanced_of_reaches : Balanced config.now.state :=
  (vaultManager_keepsAccounts self).invariant rfl (constructor_balanced _ _) reaches

theorem balances_announced (idle : config.stack = []) (user : ContractAddress) (poolId : Felt252) :
    ((config.now.state.balances (user, poolId)).toNat : Int) =
      deposits config.now.state user poolId - withdrawals config.now.state user poolId := by
  have same := (vaultManager_keepsAccounts self).guarantee rfl (constructor_balanced _ _)
    (fun _ _ => rfl) reaches idle user poolId
  rw [Config.initial, unannounced_constructor, unannounced] at same
  omega

end Runs

/-- The books balance whenever control is outside the contract, at any depth of re-entrancy, and
the events account for every balance whenever no call is waiting. -/
theorem vaultManager_accounting (self strategyRegistry yieldEngine : ContractAddress)
    {config : Config State Call Reply}
    (reaches : (vaultManagerAlone self).Reaches
      (.initial (constructor strategyRegistry yieldEngine)) config) :
    (∀ poolId, (config.now.state.totalSupply poolId).toNat =
      ∑ user, (config.now.state.balances (user, poolId)).toNat) ∧
    (config.stack = [] → ∀ user poolId, ((config.now.state.balances (user, poolId)).toNat : Int) =
      deposits config.now.state user poolId - withdrawals config.now.state user poolId) :=
  ⟨balanced_of_reaches reaches, balances_announced reaches⟩

theorem vaultManager_accounting_deposit : ∃ config : Config State Call Reply, config.stack = [] ∧
    config.now.state.balances (7, 0) = 5 ∧
    (config.now.state.totalSupply 0).toNat =
      ∑ user, (config.now.state.balances (user, 0)).toNat := by
  -- a pool is added, then user 7 deposits 5 and the token and the yield engine answer
  have run := (((((vaultManagerAlone 1).start (constructor 2 3)).enter
    ⟨2, 1, .vaultManager (.addPool 0 9)⟩ trivial rfl 1 rfl).enter
    ⟨7, 1, .vaultManager (.deposit 0 5)⟩ trivial rfl 1 rfl).reply .unit 1 rfl).reply .unit 1 rfl
  exact ⟨_, rfl, rfl, (vaultManager_accounting 1 2 3 run).1 0⟩

end Kanaka.Proof.VaultManager
