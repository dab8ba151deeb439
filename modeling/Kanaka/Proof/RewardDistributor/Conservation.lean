import Kanaka.Contracts.Network
import Kanaka.Contracts.RewardDistributor
import Kanaka.Machine.Simulate

namespace Kanaka.Proof.RewardDistributor
open Machine Contracts Contracts.RewardDistributor

/-- `RewardDistributor` at `self`, with the token and all callers in the environment. -/
abbrev rewardDistributorAlone (self : ContractAddress) : System State Call Reply :=
  alone self (entry self) fun _ _ => False

/-- What one crossing credits to a user: a reward given by a caller that is authorized then. -/
def credits (user : ContractAddress) : Crossing State Call Reply → Nat
  | .received ⟨caller, _, .rewardDistributor (.distributeReward u amount)⟩ state =>
      if u = user ∧ state.authorizedDistributors caller then amount.toNat else 0
  | _ => 0

/-- What one crossing pays to a user: an amount handed to the token's `transfer`. -/
def payments (user : ContractAddress) : Crossing State Call Reply → Nat
  | .sent ⟨_, target, .erc20 (.transfer u amount)⟩ state =>
      if u = user ∧ target = state.token then amount.toNat else 0
  | _ => 0

def credited (history : List (Crossing State Call Reply)) (user : ContractAddress) : Nat :=
  (history.map (credits user)).sum

def paid (history : List (Crossing State Call Reply)) (user : ContractAddress) : Nat :=
  (history.map (payments user)).sum

@[simp] theorem credited_append (history : List (Crossing State Call Reply))
    (crossing : Crossing State Call Reply) (user : ContractAddress) :
    credited (history ++ [crossing]) user = credited history user + credits user crossing := by
  simp [credited]

@[simp] theorem paid_append (history : List (Crossing State Call Reply))
    (crossing : Crossing State Call Reply) (user : ContractAddress) :
    paid (history ++ [crossing]) user = paid history user + payments user crossing := by
  simp [paid]

theorem credits_received {request : Call} {state : State} (user : ContractAddress)
    (other : ∀ u amount, request.message ≠ .rewardDistributor (.distributeReward u amount)) :
    credits user (.received request state) = 0 := by
  unfold credits
  split
  · rename_i h
    cases h
    exact absurd rfl (other _ _)
  · rfl

structure Conserved (now : Snapshot State Call Reply) : Prop where
  user : ∀ user,
    (now.state.rewards user).toNat + paid now.history user = credited now.history user
  total : now.state.totalDistributed.toNat = ∑ user, credited now.history user

theorem Conserved.append {now : Snapshot State Call Reply} (conserved : Conserved now)
    (crossing : Crossing State Call Reply) (credit : ∀ user, credits user crossing = 0)
    (payment : ∀ user, payments user crossing = 0) :
    Conserved ⟨now.state, now.history ++ [crossing]⟩ := by
  constructor
  · intro user
    simpa [credit, payment] using conserved.user user
  · simpa [credit] using conserved.total

theorem Conserved.congr {now : Snapshot State Call Reply} (conserved : Conserved now) {state : State}
    (rewards : state.rewards = now.state.rewards)
    (total : state.totalDistributed = now.state.totalDistributed) :
    Conserved ⟨state, now.history⟩ := by
  constructor
  · simpa [rewards] using conserved.user
  · simpa [total] using conserved.total

section Entries
variable (self caller : ContractAddress)

abbrev KeepsRewards {α : Type} (state : State) (code : Entry State α)
    (history : List (Crossing State Call Reply)) : Prop :=
  Safe (rewardDistributorAlone self) Conserved (fun _ _ => True)
    (fun _ next => Conserved next ∧ True) (code.run state) history

theorem distributeReward_keepsRewards (target user : ContractAddress) (amount : U256)
    (now : Snapshot State Call Reply) (conserved : Conserved now) :
    KeepsRewards self now.state (distributeReward caller user amount) (now.history ++
      [.received ⟨caller, target, .rewardDistributor (.distributeReward user amount)⟩ now.state]) := by
  apply safe_distributeReward
  intro authorized newReward newTotal reward_eq total_eq
  simp only [Has.get_self, Has.set_self] at authorized reward_eq total_eq ⊢
  refine ⟨?_, trivial⟩
  have credit : ∀ u, credits u
      (.received ⟨caller, target, .rewardDistributor (.distributeReward user amount)⟩ now.state) =
        if user = u then amount.toNat else 0 := by
    intro u
    simp [credits, authorized]
  constructor
  · intro u
    have before := conserved.user u
    simp only [credited_append, paid_append, credit, payments, State.emit_rewards,
      State.writeTotalDistributed_rewards, State.writeRewards_rewards]
    by_cases same : user = u
    · subst same
      rw [Function.update_self, if_pos rfl]
      omega
    · rw [Function.update_of_ne (Ne.symm same), if_neg same]
      omega
  · simp only [credited_append, credit, State.emit_totalDistributed,
      State.writeTotalDistributed_totalDistributed, Finset.sum_add_distrib, Finset.sum_ite_eq,
      Finset.mem_univ, if_true]
    have before := conserved.total
    omega

theorem setDistributor_keepsRewards (authorized : Bool) (distributor : ContractAddress)
    (now : Snapshot State Call Reply) (conserved : Conserved now) :
    KeepsRewards self now.state (setDistributor caller authorized distributor) now.history := by
  apply safe_setDistributor
  intro _
  exact ⟨conserved.congr rfl rfl, trivial⟩

theorem claimRewards_keepsRewards (now : Snapshot State Call Reply) (conserved : Conserved now) :
    KeepsRewards self now.state (claimRewards self caller) now.history := by
  apply safe_claimRewards
  intro _
  -- the reward is gone before the token gets control, and counts as paid from then on
  have leaving : Conserved ⟨now.state.writeRewards caller 0, now.history ++
      [.sent ⟨self, now.state.token, .erc20 (.transfer caller (now.state.rewards caller))⟩
        (now.state.writeRewards caller 0)]⟩ := by
    constructor
    · intro user
      have before := conserved.user user
      simp only [credited_append, paid_append, credits, payments, State.writeRewards_rewards,
        State.writeRewards_token]
      by_cases same : caller = user
      · subst same
        simp only [Function.update_self, and_self, if_true, U256.toNat_zero]
        omega
      · rw [Function.update_of_ne (Ne.symm same), if_neg (fun h => same h.1)]
        omega
    · simpa [credits] using conserved.total
  apply Safe.send (deployed_foreign (entry_foreign _ _ (by simp))) leaving
  intro _ next nextOk _
  exact ⟨nextOk.congr rfl rfl, trivial⟩

theorem rewardDistributor_keepsRewards :
    Certified (rewardDistributorAlone self) Conserved (fun _ _ => True) (fun _ _ => True) where
  rely_refl _ := trivial
  rely_trans _ _ := trivial
  guarantee_trans _ _ := trivial
  resumed _ conserved := conserved.append _ (fun _ => rfl) (fun _ => rfl)
  enter {depth request body now} _ found conserved := by
    simp only [alone, deployed_cons, deployed_nil, Option.ite_none_right_eq_some,
      Option.some.injEq] at found
    rw [← found.2]
    have received := fun other => conserved.append (.received request now.state)
      (fun user => credits_received user other) (fun _ => rfl)
    apply safe_entry self request.sender request.message (fun other => ⟨received other, trivial⟩)
    · intro authorized distributor other
      exact setDistributor_keepsRewards self _ authorized distributor _ (received other)
    · intro user amount eq
      obtain ⟨sender, target, message⟩ := request
      subst eq
      exact distributeReward_keepsRewards self sender target user amount now conserved
    · intro other
      exact claimRewards_keepsRewards self _ _ (received other)
  nested _ _ := trivial
  drift _ impossible := impossible.elim
  tick _ impossible := impossible.elim

end Entries

theorem constructor_conserved (token governance : ContractAddress) :
    Conserved ⟨constructor token governance, []⟩ := by
  constructor <;> simp [constructor, credited, paid]

/-- Rewards are neither created nor paid twice, also when the token re-enters the contract. -/
theorem rewards_conserved (self token governance : ContractAddress) {config : Config State Call Reply}
    (reaches : (rewardDistributorAlone self).Reaches
      (.initial (constructor token governance)) config) :
    (∀ user, ((config.now.state.rewards user).toNat : Int) =
      credited config.now.history user - paid config.now.history user) ∧
    (∀ user, paid config.now.history user ≤ credited config.now.history user) ∧
    config.now.state.totalDistributed.toNat =
      ∑ user, (config.now.state.rewards user).toNat + ∑ user, paid config.now.history user := by
  have conserved := (rewardDistributor_keepsRewards self).invariant rfl
    (constructor_conserved token governance) reaches
  refine ⟨?_, ?_, ?_⟩
  · intro user
    have balance := conserved.user user
    omega
  · intro user
    have balance := conserved.user user
    omega
  · rw [conserved.total, ← Finset.sum_add_distrib]
    exact Finset.sum_congr rfl fun user _ => (conserved.user user).symm

theorem rewards_conserved_claiming : ∃ config : Config State Call Reply, config.stack ≠ [] ∧
    paid config.now.history 7 = 5 ∧ config.now.state.totalDistributed.toNat =
      ∑ user, (config.now.state.rewards user).toNat + ∑ user, paid config.now.history user := by
  -- governance 3 rewards user 7, whose claim is still in the hands of the token
  have run := (((rewardDistributorAlone 1).start (constructor 2 3)).enter
    ⟨3, 1, .rewardDistributor (.distributeReward 7 5)⟩ trivial rfl 1 rfl).enter
    ⟨7, 1, .rewardDistributor .claimRewards⟩ trivial rfl 1 rfl
  exact ⟨_, by simp [settle], rfl, (rewards_conserved 1 2 3 run).2.2⟩

end Kanaka.Proof.RewardDistributor
