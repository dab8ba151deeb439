import Kanaka.Machine.Outcome
import Kanaka.Proof.RewardDistributor.Conservation
import Kanaka.Proof.VaultManager.Accounting

namespace Kanaka.Proof.Transfers
open Machine Contracts Proof.VaultManager Proof.RewardDistributor

abbrev vaultCall (self caller : ContractAddress) (message : IVaultManager) :
    Entry VaultManager.State Reply :=
  VaultManager.entry self caller (.vaultManager message)

abbrev claimCall (self caller : ContractAddress) : Entry RewardDistributor.State Reply :=
  RewardDistributor.entry self caller (.rewardDistributor .claimRewards)

section Entries
variable (self caller : ContractAddress)

theorem deposit_heedless (poolId : Felt252) (amount : U256) (s : VaultManager.State) :
    Heedless (vaultManagerAlone self) ((vaultCall self caller (.deposit poolId amount)).run s) := by
  apply Heedless.bind
  · apply Heedless.require
    apply Heedless.require
    apply Heedless.load
    apply Heedless.require
    apply Heedless.send (deployed_foreign (VaultManager.entry_foreign _ _ (by simp)))
    · exact fun _ _ => rfl
    · intro _ paid
      apply Heedless.load
      apply Heedless.orPanic
      intro newBalance
      apply Heedless.update
      apply Heedless.load
      apply Heedless.orPanic
      intro newTotal
      apply Heedless.update
      apply Heedless.load
      apply Heedless.send (deployed_foreign (VaultManager.entry_foreign _ _ (by simp)))
      · exact fun _ _ => rfl
      · exact fun _ _ => .done
  · exact fun _ _ => .done

theorem withdraw_heedless (poolId : Felt252) (amount : U256) (s : VaultManager.State) :
    Heedless (vaultManagerAlone self) ((vaultCall self caller (.withdraw poolId amount)).run s) := by
  apply Heedless.bind
  · apply Heedless.require
    apply Heedless.load
    apply Heedless.require
    apply Heedless.load
    apply Heedless.require
    apply Heedless.orPanic
    intro newBalance
    apply Heedless.update
    apply Heedless.load
    apply Heedless.orPanic
    intro newTotal
    apply Heedless.update
    apply Heedless.load
    apply Heedless.send (deployed_foreign (VaultManager.entry_foreign _ _ (by simp)))
    · exact fun _ _ => rfl
    · intro _ told
      apply Heedless.send (deployed_foreign (VaultManager.entry_foreign _ _ (by simp)))
      · exact fun _ _ => rfl
      · exact fun _ _ => .done
  · exact fun _ _ => .done

theorem claimRewards_heedless (s : RewardDistributor.State) :
    Heedless (rewardDistributorAlone self) ((claimCall self caller).run s) := by
  apply Heedless.bind
  · apply Heedless.load
    apply Heedless.require
    apply Heedless.update
    apply Heedless.load
    apply Heedless.send (deployed_foreign (RewardDistributor.entry_foreign _ _ (by simp)))
    · exact fun _ _ => rfl
    · exact fun _ _ => .done
  · exact fun _ _ => .done

end Entries

theorem unheeded {σ : Type} {S : System σ Call Reply} {program : Program σ Call Reply Reply}
    (heedless : Heedless S program) (s : σ) {answer : Call → Option Reply} {sent : List Call}
    {result : Option (Reply × σ)} (ends : Ends S (quiet answer) program sent result) :
    (∀ call ∈ sent, answer call = none → settled s result = s) ∧
    ∀ answer' : Call → Option Reply, (∀ call, answer' call = none ↔ answer call = none) →
      Ends S (quiet answer') program sent result := by
  constructor
  · intro call made fails
    rw [ends.reverted made fails, settled]
  · intro answer' same
    exact ends.of_heedless heedless same

/-- A token call that reverts leaves everything as it was; a `false` is taken for a `true`. -/
theorem failed_transfers (self caller : ContractAddress) :
    (∀ poolId amount s answer sent result,
      Ends (vaultManagerAlone self) (quiet answer)
        ((vaultCall self caller (.deposit poolId amount)).run s) sent result →
      (∀ call ∈ sent, answer call = none → settled s result = s) ∧
      ∀ answer', (∀ call, answer' call = none ↔ answer call = none) →
        Ends (vaultManagerAlone self) (quiet answer')
          ((vaultCall self caller (.deposit poolId amount)).run s) sent result) ∧
    (∀ poolId amount s answer sent result,
      Ends (vaultManagerAlone self) (quiet answer)
        ((vaultCall self caller (.withdraw poolId amount)).run s) sent result →
      (∀ call ∈ sent, answer call = none → settled s result = s) ∧
      ∀ answer', (∀ call, answer' call = none ↔ answer call = none) →
        Ends (vaultManagerAlone self) (quiet answer')
          ((vaultCall self caller (.withdraw poolId amount)).run s) sent result) ∧
    (∀ s answer sent result,
      Ends (rewardDistributorAlone self) (quiet answer) ((claimCall self caller).run s) sent
        result →
      (∀ call ∈ sent, answer call = none → settled s result = s) ∧
      ∀ answer', (∀ call, answer' call = none ↔ answer call = none) →
        Ends (rewardDistributorAlone self) (quiet answer') ((claimCall self caller).run s) sent
          result) := by
  refine ⟨?_, ?_, ?_⟩
  · intro poolId amount s answer sent result ends
    exact unheeded (deposit_heedless self caller poolId amount s) s ends
  · intro poolId amount s answer sent result ends
    exact unheeded (withdraw_heedless self caller poolId amount s) s ends
  · intro s answer sent result ends
    exact unheeded (claimRewards_heedless self caller s) s ends

theorem failed_transfers_claim : ∃ result : Reply × RewardDistributor.State,
    Ends (rewardDistributorAlone 1) (quiet fun _ => some (.bool false))
      ((claimCall 1 7).run ((RewardDistributor.constructor 2 3).writeRewards 7 5))
      [⟨1, 2, .erc20 (.transfer 7 5)⟩] (some result) ∧
    result.2.rewards 7 = 0 := by
  -- the claim of user 7 is settled as if the token had answered `true`
  exact ⟨_, ((failed_transfers 1 7).2.2 _ _ _ _
    (System.endsFor_sound (fun _ => some (.bool true)) 1 rfl)).2 _ (by simp), rfl⟩

/-- A deposit is credited although the token has answered `false`. -/
theorem failed_transfer_credited : ∃ (config : Config VaultManager.State Call Reply)
    (result : Reply × VaultManager.State),
    (vaultManagerAlone 1).Reaches (.initial (VaultManager.constructor 2 3)) config ∧
    Ends (vaultManagerAlone 1) (quiet fun _ => some (.bool false))
      ((vaultCall 1 7 (.deposit 0 5)).run config.now.state)
      [⟨1, 8, .erc20 (.transferFrom 7 1 5)⟩, ⟨1, 3, .yieldEngine (.onDeposit 0 5)⟩]
      (some result) ∧
    config.now.state.balances (7, 0) = 0 ∧ result.2.balances (7, 0) = 5 ∧
    config.now.state.totalSupply 0 = 0 ∧ result.2.totalSupply 0 = 5 := by
  have run := ((vaultManagerAlone 1).start (VaultManager.constructor 2 3)).enter
    ⟨2, 1, .vaultManager (.addPool 0 8)⟩ trivial rfl 1 rfl
  exact ⟨_, _, run, System.endsFor_sound _ 2 rfl, rfl, rfl, rfl, rfl⟩

end Kanaka.Proof.Transfers
