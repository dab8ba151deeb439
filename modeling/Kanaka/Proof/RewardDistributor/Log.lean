import Kanaka.Proof.Backend.Rewards.Mirror

/-! # The log of `RewardDistributor` -/

namespace Kanaka.Proof.RewardDistributor
open Machine Contracts Contracts.RewardDistributor
open Backend.RewardDistributorService (given taken distributed withdrawn rewards_distribution
  given_distribution taken_distribution given_emit taken_emit given_writeRewards taken_writeRewards
  writeRewards_apply)

/-- What waiting claims have taken out of the user's reward. -/
def inTransit (s : State) (user : ContractAddress) : Int :=
  given s user - taken s user - (s.rewards user).toNat

def SameTransit (before after : State) : Prop :=
  ∀ user, inTransit after user = inTransit before user

def handedOut : Event → Nat
  | .rewardDistributed _ amount _ => amount.toNat
  | .rewardClaimed _ _ => 0

def Totalled (s : State) : Prop := s.totalDistributed.toNat = (s.events.map handedOut).sum

section Entries
variable (self caller : ContractAddress)

abbrev KeepsTransit {α : Type} (s : State) (code : Entry State α)
    (history : List (Crossing State Call Reply)) : Prop :=
  Safe (rewardDistributorAlone self) (fun now => Totalled now.state) SameTransit
    (fun _ next => Totalled next.state ∧ SameTransit s next.state) (code.run s) history

theorem distributeReward_keepsTransit (user : ContractAddress) (amount : U256) (s : State)
    (history : List (Crossing State Call Reply)) (totalled : Totalled s) :
    KeepsTransit self s (distributeReward caller user amount) history := by
  apply safe_distributeReward
  intro _ newReward newTotal reward_eq total_eq
  simp only [Has.get_self, Has.set_self] at reward_eq total_eq ⊢
  constructor
  · rw [Totalled] at totalled
    simp only [Totalled, State.emit_totalDistributed, State.writeTotalDistributed_totalDistributed,
      State.emit_events, State.writeTotalDistributed_events, State.writeRewards_events, total_eq,
      totalled, List.map_append, List.map_cons, List.map_nil, List.sum_append, List.sum_singleton,
      handedOut]
  · intro someone
    simp only [inTransit, given_distribution rfl, taken_distribution rfl, rewards_distribution rfl]
    split
    · rename_i same
      rw [← same, reward_eq]
      omega
    · omega

theorem claimRewards_keepsTransit (s : State) (history : List (Crossing State Call Reply))
    (totalled : Totalled s) : KeepsTransit self s (claimRewards self caller) history := by
  apply safe_claimRewards
  intro _
  apply Safe.send (deployed_foreign (entry_foreign _ _ (by simp))) totalled
  intro _ next nextTotalled nextSame
  simp only [Has.get_self, Has.set_self] at nextSame ⊢
  constructor
  · rw [Totalled] at nextTotalled
    simp [Totalled, nextTotalled, handedOut]
  · intro someone
    have between := nextSame someone
    simp only [inTransit, given_writeRewards, taken_writeRewards, writeRewards_apply, given_emit,
      taken_emit, distributed, withdrawn, State.emit_rewards] at between ⊢
    by_cases same : caller = someone
    · subst same
      simp only [if_true, U256.toNat_zero] at between ⊢
      omega
    · simp only [if_neg same] at between ⊢
      omega

theorem setDistributor_keepsTransit (authorized : Bool) (distributor : ContractAddress) (s : State)
    (history : List (Crossing State Call Reply)) (totalled : Totalled s) :
    KeepsTransit self s (setDistributor caller authorized distributor) history := by
  apply safe_setDistributor
  intro _
  exact ⟨totalled, fun _ => rfl⟩

theorem rewardDistributor_keepsTransit :
    Certified (rewardDistributorAlone self) (fun now => Totalled now.state) SameTransit
      SameTransit where
  rely_refl _ _ := rfl
  rely_trans first second user := (second user).trans (first user)
  guarantee_trans first second user := (second user).trans (first user)
  resumed _ totalled := totalled
  enter {depth request body now} _ found totalled := by
    simp only [alone, deployed_cons, deployed_nil, Option.ite_none_right_eq_some,
      Option.some.injEq] at found
    rw [← found.2]
    exact safe_entry self request.sender request.message
      (fun _ => ⟨totalled, fun _ => rfl⟩)
      (fun authorized distributor _ =>
        setDistributor_keepsTransit self _ authorized distributor _ _ totalled)
      (fun user amount _ => distributeReward_keepsTransit self _ user amount _ _ totalled)
      fun _ => claimRewards_keepsTransit self _ _ _ totalled
  nested _ guarantee := guarantee
  drift _ impossible := impossible.elim
  tick _ impossible := impossible.elim

end Entries

theorem constructor_totalled (token governance : ContractAddress) :
    Totalled (constructor token governance) := rfl

section Runs
variable {self token governance : ContractAddress} {config : Config State Call Reply}
  (reaches : (rewardDistributorAlone self).Reaches (.initial (constructor token governance)) config)
include reaches

theorem totalled_of_reaches : Totalled config.now.state :=
  (rewardDistributor_keepsTransit self).invariant rfl (constructor_totalled _ _) reaches

theorem settled_of_idle (idle : config.stack = []) (user : ContractAddress) :
    ((config.now.state.rewards user).toNat : Int) =
      given config.now.state user - taken config.now.state user := by
  have same := (rewardDistributor_keepsTransit self).guarantee rfl (constructor_totalled _ _)
    (fun _ => rfl) reaches idle user
  simp [inTransit, Config.initial, constructor, given, taken] at same ⊢
  omega

end Runs

end Kanaka.Proof.RewardDistributor
