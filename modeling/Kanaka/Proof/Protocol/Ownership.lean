import Kanaka.Proof.Protocol.Agreement

/-!
# Whose call it takes

What a user has in the protocol stays as it is while the user makes no call, whatever the others
call, and however tokens and strategies call back.
-/

namespace Kanaka.Proof.Protocol
open Machine Contracts

/-- Without calls by the user. -/
abbrev without (user : ContractAddress) {σ : Type} (S : System σ Call Reply) : System σ Call Reply :=
  { S with enters := fun depth request state =>
    S.enters depth request state ∧ request.sender ≠ user }

variable {user : ContractAddress}

/-! ## Balances -/

section Balances
variable {self caller : ContractAddress} {balances : Felt252 → U256}

def Holds (user : ContractAddress) (balances : Felt252 → U256) (s : VaultManager.State) : Prop :=
  ∀ poolId, s.balances (user, poolId) = balances poolId

/-- The user makes no deposit or withdrawal. The vault lets nobody act under the address 0. -/
def Abstains (user : ContractAddress) (request : Call) : Prop :=
  request.sender = user → user ≠ 0 → ¬ Moves request.message

theorem Abstains.other {request : Call} (abstains : Abstains user request)
    (nonzero : request.sender ≠ 0) (moves : Moves request.message) : request.sender ≠ user := by
  intro same
  exact abstains same (same ▸ nonzero) moves

abbrev vaultWithout (self user : ContractAddress) : System VaultManager.State Call Reply :=
  { alone self (VaultManager.entry self) fun _ _ => False with
    enters := fun _ request _ => Abstains user request }

theorem Holds.write {s : VaultManager.State} (holds : Holds user balances s) (other : caller ≠ user)
    (poolId : Felt252) (balance total : U256) :
    Holds user balances ((s.writeBalances (caller, poolId) balance).writeTotalSupply poolId total) := by
  intro id
  have ne : (user, id) ≠ (caller, poolId) := by
    simp [other.symm]
  rw [VaultManager.State.writeTotalSupply_balances, VaultManager.State.writeBalances_balances,
    Function.update_of_ne ne]
  exact holds id

theorem vault_holds (self user : ContractAddress) (balances : Felt252 → U256) :
    Certified (vaultWithout self user) (fun now => Holds user balances now.state) (fun _ _ => True)
      (fun _ _ => True) where
  rely_refl _ := trivial
  rely_trans _ _ := trivial
  guarantee_trans _ _ := trivial
  resumed _ holds := holds
  enter {depth request body now} enters found holds := by
    simp only [alone, deployed_cons, deployed_nil, Option.ite_none_right_eq_some,
      Option.some.injEq] at found
    rw [← found.2]
    have foreign : ∀ target m, (∀ v, m ≠ .vaultManager v) → ∀ w body,
        (vaultWithout self user).code ⟨self, target, m⟩ = some body →
        ∃ reason, body.run w = .panic reason :=
      fun _ _ foreign _ => deployed_foreign (VaultManager.entry_foreign _ _ foreign)
    apply VaultManager.safe_entry self request.sender request.message ⟨holds, trivial⟩
    · intro poolId amount message
      apply VaultManager.safe_deposit
      intro nonzero _ _
      have other := enters.other nonzero ⟨poolId, amount, .inl message⟩
      apply Safe.send (foreign _ _ (by simp) _) holds
      intro _ paid paidHolds _ newBalance newTotal _ _
      apply Safe.send (foreign _ _ (by simp) _) (paidHolds.write other _ _ _)
      exact fun _ told toldHolds _ => ⟨toldHolds, trivial⟩
    · intro poolId amount message
      apply VaultManager.safe_withdraw
      intro newBalance newTotal nonzero _ _ _
      have other := enters.other nonzero ⟨poolId, amount, .inr message⟩
      apply Safe.send (foreign _ _ (by simp) _) (holds.write other _ _ _)
      intro _ told toldHolds _
      apply Safe.send (foreign _ _ (by simp) _) toldHolds
      exact fun _ paid paidHolds _ => ⟨paidHolds, trivial⟩
    · intro poolId token _
      apply VaultManager.safe_addPool
      exact fun _ _ => ⟨holds, trivial⟩
  nested _ _ := trivial
  drift _ impossible := impossible.elim
  tick _ impossible := impossible.elim

end Balances

/-! ## Votes and rewards -/

section Rewards
open Governance.Rewards (Wired rewarding unserved)
variable {governance distributor caller : ContractAddress} {votes : U256 → Vote} {reward : U256}

structure Untouched (governance distributor user : ContractAddress) (votes : U256 → Vote)
    (reward : U256) (w : Governance.Rewards.World) : Prop extends Wired governance distributor w where
  votes : ∀ id, w.governance.votes (id, user) = votes id
  reward : w.distributor.rewards user = reward

abbrev rewardingWithout (governance distributor user : ContractAddress) :
    System Governance.Rewards.World Call Reply :=
  without user (rewarding governance distributor)

namespace Untouched
variable {w : Governance.Rewards.World} (untouched : Untouched governance distributor user votes reward w)
include untouched

theorem governance_write {s : Contracts.Governance.State}
    (deployment : s.rewardDistributor = w.governance.rewardDistributor)
    (same : ∀ id, s.votes (id, user) = w.governance.votes (id, user)) :
    Untouched governance distributor user votes reward ⟨s, w.distributor, w.block⟩ :=
  ⟨untouched.toWired.congr deployment, fun id => (same id).trans (untouched.votes id),
    untouched.reward⟩

theorem distributor_write {s : RewardDistributor.State}
    (authority : s.governance = w.distributor.governance)
    (authorized : s.authorizedDistributors = w.distributor.authorizedDistributors)
    (same : s.rewards user = w.distributor.rewards user) :
    Untouched governance distributor user votes reward ⟨w.governance, s, w.block⟩ := by
  refine ⟨⟨untouched.deployment, authority.trans untouched.authority, ?_⟩, untouched.votes,
    same.trans untouched.reward⟩
  rw [authorized]
  exact untouched.authorized

end Untouched

abbrev KeepsUntouched (governance distributor user : ContractAddress) (votes : U256 → Vote)
    (reward : U256) {α : Type} (w : Governance.Rewards.World)
    (code : Entry Governance.Rewards.World α)
    (history : List (Crossing Governance.Rewards.World Call Reply)) : Prop :=
  Safe (rewardingWithout governance distributor user)
    (fun now => Untouched governance distributor user votes reward now.state) (fun _ _ => True)
    (fun _ next => Untouched governance distributor user votes reward next.state ∧ True)
    (code.run w) history

theorem untouched_distributeReward {w : Governance.Rewards.World} {amount : U256}
    {Q : Snapshot Governance.Rewards.World Call Reply → Prop}
    {history : List (Crossing Governance.Rewards.World Call Reply)}
    (apart : distributor ≠ governance) (other : caller ≠ user)
    (untouched : Untouched governance distributor user votes reward w)
    (post : ∀ w', Untouched governance distributor user votes reward w' → Q ⟨w', history⟩) :
    Safe (rewardingWithout governance distributor user)
      (fun now => Untouched governance distributor user votes reward now.state) (fun _ _ => True)
      (fun _ => Q) ((Contracts.Governance.distributeReward governance caller amount).run w)
      history := by
  apply Contracts.Governance.safe_distributeReward
  rw [Governance.Rewards.World.get_governance, untouched.deployment]
  have found : (rewardingWithout governance distributor user).code
      ⟨governance, distributor, .rewardDistributor (.distributeReward caller amount)⟩ =
        some (RewardDistributor.entry distributor governance
          (.rewardDistributor (.distributeReward caller amount))) := by
    simp [apart]
  apply Safe.sendIn found
  apply Safe.bind
  apply RewardDistributor.safe_distributeReward
  intro _ newReward newTotal _ _
  apply Safe.done
  apply post
  apply untouched.distributor_write
  · rfl
  · rfl
  · exact Function.update_of_ne other.symm _ _

section Functions
variable {w : Governance.Rewards.World}
  {history : List (Crossing Governance.Rewards.World Call Reply)}
  (untouched : Untouched governance distributor user votes reward w)

theorem tokens_unserved (sender target : ContractAddress) (m : IERC20) (w : Governance.Rewards.World)
    (body : Entry Governance.Rewards.World Reply) :
    (rewardingWithout governance distributor user).code ⟨sender, target, .erc20 m⟩ = some body →
      ∃ reason, body.run w = .panic reason := unserved governance distributor body

section Caller
variable (other : caller ≠ user)
include untouched other

theorem keepsUntouched_propose (apart : distributor ≠ governance) (description : Felt252) :
    KeepsUntouched governance distributor user votes reward w
      (Contracts.Governance.propose governance caller description) history := by
  apply Contracts.Governance.safe_propose
  apply Contracts.Governance.safe_tokenBalance
  apply Safe.send (tokens_unserved _ _ _ _) untouched
  intro _ asked askedUntouched _ balance _ _ endTime nextCount _ _
  apply untouched_distributeReward apart other
  · exact askedUntouched.governance_write rfl fun _ => rfl
  · intro paid paidUntouched
    exact ⟨paidUntouched.governance_write rfl fun _ => rfl, trivial⟩

theorem keepsUntouched_castVote (apart : distributor ≠ governance) (id : U256) (support : Bool) :
    KeepsUntouched governance distributor user votes reward w
      (Contracts.Governance.castVote governance caller id support) history := by
  apply Contracts.Governance.safe_castVote
  intro _ _ _ _
  apply Contracts.Governance.safe_tokenBalance
  apply Safe.send (tokens_unserved _ _ _ _) untouched
  intro _ asked askedUntouched _ power _ _ _ counted _ _ _
  apply untouched_distributeReward apart other
  · apply askedUntouched.governance_write
    · rfl
    · intro id'
      have ne : (id', user) ≠ (id, caller) := by simp [other.symm]
      exact Function.update_of_ne ne _ _
  · intro paid paidUntouched
    exact ⟨paidUntouched.governance_write rfl fun _ => rfl, trivial⟩

theorem keepsUntouched_governance (apart : distributor ≠ governance) (message : Message) :
    KeepsUntouched governance distributor user votes reward w
      (Contracts.Governance.entry governance caller message) history := by
  apply Contracts.Governance.safe_entry governance caller message ⟨untouched, trivial⟩
  · exact fun description _ => keepsUntouched_propose untouched other apart description
  · exact fun id support _ => keepsUntouched_castVote untouched other apart id support
  · intro id _
    apply Contracts.Governance.safe_executeProposal
    exact fun _ _ _ _ _ => ⟨untouched.governance_write rfl fun _ => rfl, trivial⟩
  · intro id _
    apply Contracts.Governance.safe_cancelProposal
    exact fun _ _ _ _ => ⟨untouched.governance_write rfl fun _ => rfl, trivial⟩

theorem keepsUntouched_claimRewards :
    KeepsUntouched governance distributor user votes reward w
      (RewardDistributor.claimRewards distributor caller) history := by
  apply RewardDistributor.safe_claimRewards
  intro _
  have claimed : Untouched governance distributor user votes reward
      ⟨w.governance, w.distributor.writeRewards caller 0, w.block⟩ :=
    untouched.distributor_write rfl rfl (Function.update_of_ne other.symm _ _)
  apply Safe.send (tokens_unserved _ _ _ _) claimed
  intro _ paid paidUntouched _
  exact ⟨paidUntouched.distributor_write rfl rfl rfl, trivial⟩

/-- Only the governance contract is served by the functions that reward. -/
theorem keepsUntouched_distributor (outside : caller ≠ governance) (message : Message) :
    KeepsUntouched governance distributor user votes reward w
      (RewardDistributor.entry distributor caller message) history := by
  apply RewardDistributor.safe_entry distributor caller message
  · exact fun _ => ⟨untouched, trivial⟩
  · intro authorized address _
    apply RewardDistributor.safe_setDistributor
    exact fun authority => absurd (authority.trans untouched.authority) outside
  · intro rewarded amount _
    apply RewardDistributor.safe_distributeReward
    exact fun authorized => absurd ((untouched.authorized _).mp authorized) outside
  · exact fun _ => keepsUntouched_claimRewards untouched other

end Caller

include untouched in
theorem Untouched.same {w' : Governance.Rewards.World} (governance_same : w'.governance = w.governance)
    (distributor_same : w'.distributor = w.distributor) :
    Untouched governance distributor user votes reward w' := by
  refine ⟨⟨?_, ?_, ?_⟩, ?_, ?_⟩
  · rw [governance_same]
    exact untouched.deployment
  · rw [distributor_same]
    exact untouched.authority
  · rw [distributor_same]
    exact untouched.authorized
  · rw [governance_same]
    exact untouched.votes
  · rw [distributor_same]
    exact untouched.reward

end Functions

theorem rewarding_untouched (apart : distributor ≠ governance) :
    Certified (rewardingWithout governance distributor user)
      (fun now => Untouched governance distributor user votes reward now.state) (fun _ _ => True)
      (fun _ _ => True) where
  rely_refl _ := trivial
  rely_trans _ _ := trivial
  guarantee_trans _ _ := trivial
  resumed _ untouched := untouched
  enter {depth request body now} enters found untouched := by
    obtain ⟨⟨outside, _⟩, other⟩ := enters
    simp only [deployed_cons, deployed_nil] at found
    split at found
    · cases found
      exact keepsUntouched_governance untouched other apart request.message
    split at found
    · cases found
      exact keepsUntouched_distributor untouched other outside request.message
    · contradiction
  nested _ _ := trivial
  drift _ impossible := impossible.elim
  tick untouched moves := ⟨untouched.same moves.1 moves.2, trivial⟩

end Rewards

/-! ## The protocol -/

section Parts
variable (d : Deployment)

theorem vault_isPart (outside : user ∉ d.addresses) :
    Part (without user (protocol d)) (vaultWithout d.vault user) World.vault := by
  have among : Among World.vault (Welcome (vaultWithout d.vault user)) (servers d)
      [(d.vault, VaultManager.entry d.vault)] :=
    vault_among d fun self _ member _ _ _ _ _ _ same _ => absurd (same ▸ member) outside
  refine among.isPart d.apart rfl rfl ?_ ?_ ?_
  · exact fun entered _ _ same _ => absurd same entered.2
  · exact fun impossible => impossible.elim
  · exact fun ticks => .inl ticks.2.1

theorem contracts_isPart (contract : user ≠ 0 → user ∈ d.addresses) :
    Part (protocol d) (vaultWithout d.vault user) World.vault := by
  have among : Among World.vault (Welcome (vaultWithout d.vault user)) (servers d)
      [(d.vault, VaultManager.entry d.vault)] :=
    vault_among d fun _ _ _ _ _ still _ _ _ _ _ => still
  refine among.isPart d.apart rfl rfl ?_ ?_ ?_
  · exact fun outside _ _ same nonzero => absurd (same ▸ contract nonzero) outside
  · exact fun impossible => impossible.elim
  · exact fun ticks => .inl ticks.2.1

theorem rewardsWithout_isPart (outside : user ∉ d.addresses) :
    Part (without user (protocol d)) (rewardingWithout d.governance d.distributor user)
      rewardsOf := by
  have among : Among rewardsOf
      (Welcome (rewardingWithout d.governance d.distributor user)) (servers d)
      [(d.governance, Contracts.Governance.entry d.governance),
        (d.distributor, RewardDistributor.entry d.distributor)] :=
    rewards_among d fun self governance distributor member _ _ _ _ _ =>
      ⟨⟨governance, distributor⟩, fun same => outside (same ▸ member)⟩
  refine among.isPart d.apart rfl rfl ?_ ?_ ?_
  · intro depth request state entered _ _
    have sender := entered.1
    simp only [Deployment.addresses, List.mem_cons, not_or] at sender
    exact ⟨⟨sender.2.2.2.2.1, sender.2.2.2.2.2.1⟩, entered.2⟩
  · exact fun impossible => impossible.elim
  · intro before after ticks
    obtain ⟨-, -, -, -, governance, distributor, -⟩ := ticks
    exact .inr ⟨governance, distributor⟩

end Parts

/-- From any state between two transactions on, a user who makes no call keeps the balances, the
votes and the rewards, whoever calls what, and however the called tokens and strategies go on. -/
theorem kept_without_calls (d : Deployment) (authority token rewardToken : ContractAddress)
    (quorum : U256) (votingPeriod : U64) (block : Block) {config later : Config World Call Reply}
    (reaches : (protocol d).Reaches
      (.initial (d.deploy authority token rewardToken quorum votingPeriod block)) config)
    (idle : config.stack = []) (outside : user ∉ d.addresses)
    (run : (without user (protocol d)).Reaches config later) :
    (∀ poolId, later.now.state.vault.balances (user, poolId) =
      config.now.state.vault.balances (user, poolId)) ∧
    (∀ id, later.now.state.governance.votes (id, user) =
      config.now.state.governance.votes (id, user)) ∧
    later.now.state.distributor.rewards user = config.now.state.distributor.rewards user := by
  obtain ⟨now, stack⟩ := config
  cases idle
  constructor
  · obtain ⟨seen, seenRun, same, -⟩ := (vault_isPart d outside).follows run
    have start : Holds user (fun poolId => now.state.vault.balances (user, poolId)) now.state.vault :=
      fun _ => rfl
    have holds := (vault_holds d.vault user _).invariant rfl start seenRun
    rw [same] at holds
    exact holds
  · obtain ⟨seen, seenRun, same, -⟩ := (rewardsWithout_isPart d outside).follows run
    have start : Untouched d.governance d.distributor user
        (fun id => now.state.governance.votes (id, user)) (now.state.distributor.rewards user)
        (rewardsOf now.state) :=
      ⟨(rewarded reaches).toWired, fun _ => rfl, rfl⟩
    have untouched := (rewarding_untouched d.distinct.2.2.2.2).invariant rfl start seenRun
    rw [same] at untouched
    exact ⟨untouched.votes, untouched.reward⟩

theorem rest_without {d : Deployment} (user : ContractAddress) {first config : Config World Call Reply}
    (_ : (protocol d).Reaches first config) : (without user (protocol d)).Reaches config config :=
  .refl

theorem kept_without_calls_deposited : ∃ config later : Config World Call Reply,
    config.now.state.vault.balances (10, 0) = 5 ∧ later.now.state.vault.balances (14, 0) = 2 ∧
    (∀ poolId, later.now.state.vault.balances (10, poolId) =
      config.now.state.vault.balances (10, poolId)) ∧
    later.now.state.distributor.rewards 10 = 100000 := by
  -- 10 deposits and proposes; then 14 deposits, with a vote of 15 inside its transfer
  have run := (((protocol ⟨1, 2, 3, 4, 5, 6, by decide⟩).start
    (Deployment.deploy ⟨1, 2, 3, 4, 5, 6, by decide⟩ 7 12 13 10 100 ⟨1⟩)).enter
    ⟨7, 1, .strategyRegistry (.addPool 8 9 1 100)⟩ (by decide) rfl 2 rfl).enter
    ⟨10, 2, .vaultManager (.deposit 0 5)⟩ (by decide) rfl 1 rfl
  have run := ((run.reply .unit 3 rfl).enter ⟨10, 5, .governance (.propose 0)⟩ (by decide) rfl 1
    rfl).reply (.u256 3) 2 rfl
  have rest := ((rest_without 10 run).enter ⟨14, 2, .vaultManager (.deposit 0 2)⟩
    (by decide) rfl 1 rfl).enter ⟨15, 5, .governance (.castVote 0 true)⟩ (by decide) rfl 1 rfl
  have rest := (rest.reply (.u256 3) 2 rfl).reply .unit 3 rfl
  have kept := kept_without_calls _ 7 12 13 10 100 ⟨1⟩ run rfl (by decide) rest
  exact ⟨_, _, rfl, rfl, kept.1, kept.2.2⟩

end Kanaka.Proof.Protocol
