import Kanaka.Contracts.Governance
import Kanaka.Contracts.Network
import Kanaka.Contracts.RewardDistributor
import Kanaka.Machine.Simulate
import Mathlib.Data.FinEnum
import Mathlib.Data.Fintype.Prod

namespace Kanaka.Proof.Governance.Rewards
open Machine Contracts

structure World where
  governance : Governance.State
  distributor : RewardDistributor.State
  block : Block

instance : Has Governance.State World where
  get := World.governance
  set governance w := { w with governance }
  get_set _ _ := rfl
  set_set _ _ _ := rfl

instance : Has RewardDistributor.State World where
  get := World.distributor
  set distributor w := { w with distributor }
  get_set _ _ := rfl
  set_set _ _ _ := rfl

instance : Has Block World where
  get := World.block
  set block w := { w with block }
  get_set _ _ := rfl
  set_set _ _ _ := rfl

@[simp] theorem World.get_governance (w : World) :
    (Has.get w : Governance.State) = w.governance := rfl

@[simp] theorem World.get_distributor (w : World) :
    (Has.get w : RewardDistributor.State) = w.distributor := rfl

@[simp] theorem World.set_governance (s : Governance.State) (w : World) :
    (Has.set s w : World) = ⟨s, w.distributor, w.block⟩ := rfl

@[simp] theorem World.set_distributor (s : RewardDistributor.State) (w : World) :
    (Has.set s w : World) = ⟨w.governance, s, w.block⟩ := rfl

/-- `Governance` and `RewardDistributor` at two addresses, with the token in the environment. -/
abbrev rewarding (governance distributor : ContractAddress) : System World Call Reply where
  code := deployed [(governance, Governance.entry governance),
    (distributor, RewardDistributor.entry distributor)]
  enters _ request _ := request.sender ≠ governance ∧ request.sender ≠ distributor
  drift _ _ := False
  tick w w' := w'.governance = w.governance ∧ w'.distributor = w.distributor

def votesCast (s : Governance.State) : Nat :=
  (Finset.univ.filter fun key => (s.votes key).votes ≠ 0).card

structure Wired (governance distributor : ContractAddress) (w : World) : Prop where
  deployment : w.governance.rewardDistributor = distributor
  authority : w.distributor.governance = governance
  authorized : ∀ address,
    w.distributor.authorizedDistributors address = true ↔ address = governance

def earned (s : Governance.State) : Nat :=
  100000 * s.proposalCount.toNat + 10000 * votesCast s

structure Rewarded (governance distributor : ContractAddress) (w : World) : Prop
    extends Wired governance distributor w where
  total : w.distributor.totalDistributed.toNat = earned w.governance

theorem Wired.congr {governance distributor : ContractAddress} {w : World}
    (wired : Wired governance distributor w) {s : Governance.State}
    (deployment : s.rewardDistributor = w.governance.rewardDistributor) :
    Wired governance distributor ⟨s, w.distributor, w.block⟩ :=
  ⟨deployment.trans wired.deployment, wired.authority, wired.authorized⟩

theorem Rewarded.congr {governance distributor : ContractAddress} {w : World}
    (rewarded : Rewarded governance distributor w) {s : Governance.State}
    (deployment : s.rewardDistributor = w.governance.rewardDistributor)
    (count : s.proposalCount = w.governance.proposalCount) (votes : s.votes = w.governance.votes) :
    Rewarded governance distributor ⟨s, w.distributor, w.block⟩ := by
  refine ⟨rewarded.toWired.congr deployment, ?_⟩
  simpa only [earned, votesCast, count, votes] using rewarded.total

theorem votesCast_write (s : Governance.State) (key : U256 × ContractAddress) (vote : Vote)
    (fresh : (s.votes key).votes = 0) (cast : vote.votes ≠ 0) :
    votesCast (s.writeVotes key vote) = votesCast s + 1 := by
  have sum := sum_write s.votes (fun _ v => if v.votes ≠ 0 then 1 else 0) key vote
  rw [fresh, if_neg (not_not.mpr rfl), if_pos cast, Nat.add_zero] at sum
  simp only [votesCast, Finset.card_filter, Governance.State.writeVotes_votes]
  exact sum

section Entries
variable (governance distributor caller : ContractAddress)

theorem unserved {message : IERC20} {sender target : ContractAddress} {w : World}
    (body : Entry World Reply)
    (found : (rewarding governance distributor).code ⟨sender, target, .erc20 message⟩ = some body) :
    ∃ reason, body.run w = .panic reason := by
  have governed : ∀ m, Message.erc20 message ≠ .governance m := by simp
  have distributed : ∀ m, Message.erc20 message ≠ .rewardDistributor m := by simp
  apply deployed_unserved _ body found
  intro server member
  rcases List.mem_pair.mp member with rfl | rfl
  · exact ⟨_, Governance.entry_foreign governance sender governed⟩
  · exact ⟨_, RewardDistributor.entry_foreign distributor sender distributed⟩

abbrev KeepsRewarded {α : Type} (w : World) (code : Entry World α)
    (history : List (Crossing World Call Reply)) : Prop :=
  Safe (rewarding governance distributor) (fun now => Rewarded governance distributor now.state)
    (fun _ _ => True) (fun _ next => Rewarded governance distributor next.state ∧ True)
    (code.run w) history

theorem keepsRewarded_distributeReward {w : World} {user : ContractAddress} {amount : U256}
    {Q : Snapshot World Call Reply → Prop} {history : List (Crossing World Call Reply)}
    (apart : distributor ≠ governance) (wired : Wired governance distributor w)
    (due : w.distributor.totalDistributed.toNat + amount.toNat = earned w.governance)
    (post : ∀ w' : World, Rewarded governance distributor w' → Q ⟨w', history⟩) :
    Safe (rewarding governance distributor) (fun now => Rewarded governance distributor now.state)
      (fun _ _ => True) (fun _ => Q)
      ((Governance.distributeReward governance user amount).run w) history := by
  apply Governance.safe_distributeReward
  rw [World.get_governance, wired.deployment]
  have found : (rewarding governance distributor).code
      ⟨governance, distributor, .rewardDistributor (.distributeReward user amount)⟩ =
        some (RewardDistributor.entry distributor governance
          (.rewardDistributor (.distributeReward user amount))) := by
    simp [apart]
  apply Safe.sendIn found
  apply Safe.bind
  apply RewardDistributor.safe_distributeReward
  intro _ newReward newTotal _ total_eq
  apply Safe.done
  apply post
  exact ⟨⟨wired.deployment, wired.authority, wired.authorized⟩, total_eq.trans due⟩

theorem propose_keepsRewarded (apart : distributor ≠ governance) (description : Felt252) (w : World)
    (history : List (Crossing World Call Reply)) (rewarded : Rewarded governance distributor w) :
    KeepsRewarded governance distributor w (Governance.propose governance caller description)
      history := by
  apply Governance.safe_propose
  apply Governance.safe_tokenBalance
  apply Safe.send (unserved governance distributor) rewarded
  intro _ asked askedRewarded _ balance _ _ endTime nextCount _ next
  apply keepsRewarded_distributeReward governance distributor apart
  · exact askedRewarded.toWired.congr rfl
  · have total := askedRewarded.total
    have amount : (100000 : U256).toNat = 100000 := rfl
    have one : (1 : U256).toNat = 1 := rfl
    simp only [World.get_governance, one] at next
    simp only [World.get_governance, World.set_governance, earned, votesCast,
      Governance.State.writeProposalCount_proposalCount,
      Governance.State.writeProposalCount_votes, Governance.State.writeProposals_votes, next,
      amount, total]
    omega
  · intro paid paidRewarded
    exact ⟨paidRewarded.congr rfl rfl rfl, trivial⟩

theorem castVote_keepsRewarded (apart : distributor ≠ governance) (id : U256) (support : Bool)
    (w : World) (history : List (Crossing World Call Reply))
    (rewarded : Rewarded governance distributor w) :
    KeepsRewarded governance distributor w (Governance.castVote governance caller id support)
      history := by
  apply Governance.safe_castVote
  intro _ _ _ _
  apply Governance.safe_tokenBalance
  apply Safe.send (unserved governance distributor) rewarded
  intro _ asked askedRewarded _ power _ positive fresh counted _ _ _
  apply keepsRewarded_distributeReward governance distributor apart
  · exact askedRewarded.toWired.congr rfl
  · have total := askedRewarded.total
    have amount : (10000 : U256).toNat = 10000 := rfl
    have cast : power ≠ 0 := (U256.ne_zero_iff power).mpr positive
    have one_more := votesCast_write asked.state.governance (id, caller) ⟨support, power⟩ fresh cast
    simp only [earned] at total
    simp only [World.get_governance, World.set_governance, earned, votesCast,
      Governance.State.writeProposals_proposalCount, Governance.State.writeVotes_proposalCount,
      Governance.State.writeProposals_votes, amount, total] at one_more ⊢
    omega
  · intro paid paidRewarded
    exact ⟨paidRewarded.congr rfl rfl rfl, trivial⟩

theorem executeProposal_keepsRewarded (id : U256) (w : World)
    (history : List (Crossing World Call Reply)) (rewarded : Rewarded governance distributor w) :
    KeepsRewarded governance distributor w (Governance.executeProposal id) history := by
  apply Governance.safe_executeProposal
  intro _ _ _ _ _
  exact ⟨rewarded.congr rfl rfl rfl, trivial⟩

theorem cancelProposal_keepsRewarded (id : U256) (w : World)
    (history : List (Crossing World Call Reply)) (rewarded : Rewarded governance distributor w) :
    KeepsRewarded governance distributor w (Governance.cancelProposal caller id) history := by
  apply Governance.safe_cancelProposal
  intro _ _ _ _
  exact ⟨rewarded.congr rfl rfl rfl, trivial⟩

theorem setDistributor_keepsRewarded (authorized : Bool) (address : ContractAddress) (w : World)
    (history : List (Crossing World Call Reply)) (rewarded : Rewarded governance distributor w)
    (outside : caller ≠ governance) :
    KeepsRewarded governance distributor w
      (RewardDistributor.setDistributor caller authorized address) history := by
  apply RewardDistributor.safe_setDistributor
  intro authority
  exact absurd (authority.trans rewarded.authority) outside

theorem distributeReward_keepsRewarded (user : ContractAddress) (amount : U256) (w : World)
    (history : List (Crossing World Call Reply)) (rewarded : Rewarded governance distributor w)
    (outside : caller ≠ governance) :
    KeepsRewarded governance distributor w (RewardDistributor.distributeReward caller user amount)
      history := by
  apply RewardDistributor.safe_distributeReward
  intro authorized
  exact absurd ((rewarded.authorized caller).mp authorized) outside

theorem claimRewards_keepsRewarded (w : World) (history : List (Crossing World Call Reply))
    (rewarded : Rewarded governance distributor w) :
    KeepsRewarded governance distributor w (RewardDistributor.claimRewards distributor caller)
      history := by
  apply RewardDistributor.safe_claimRewards
  intro _
  have written : Rewarded governance distributor
      ⟨w.governance, w.distributor.writeRewards caller 0, w.block⟩ :=
    ⟨⟨rewarded.deployment, rewarded.authority, rewarded.authorized⟩, rewarded.total⟩
  apply Safe.send (unserved governance distributor) written
  intro _ paid paidRewarded _
  exact ⟨⟨⟨paidRewarded.deployment, paidRewarded.authority, paidRewarded.authorized⟩,
    paidRewarded.total⟩, trivial⟩

theorem rewarding_keepsRewarded (apart : distributor ≠ governance) :
    Certified (rewarding governance distributor)
      (fun now => Rewarded governance distributor now.state) (fun _ _ => True)
      (fun _ _ => True) where
  rely_refl _ := trivial
  rely_trans _ _ := trivial
  guarantee_trans _ _ := trivial
  resumed _ rewarded := rewarded
  enter {depth request body now} outside found rewarded := by
    simp only [deployed_cons, deployed_nil] at found
    split at found
    · cases found
      exact Governance.safe_entry governance request.sender request.message ⟨rewarded, trivial⟩
        (fun description _ =>
          propose_keepsRewarded governance distributor _ apart description _ _ rewarded)
        (fun id support _ =>
          castVote_keepsRewarded governance distributor _ apart id support _ _ rewarded)
        (fun id _ => executeProposal_keepsRewarded governance distributor id _ _ rewarded)
        (fun id _ => cancelProposal_keepsRewarded governance distributor _ id _ _ rewarded)
    · split at found
      · cases found
        exact RewardDistributor.safe_entry distributor request.sender request.message
          (fun _ => ⟨rewarded, trivial⟩)
          (fun authorized address _ => setDistributor_keepsRewarded governance distributor _
            authorized address _ _ rewarded outside.1)
          (fun user amount _ => distributeReward_keepsRewarded governance distributor _ user amount
            _ _ rewarded outside.1)
          (fun _ => claimRewards_keepsRewarded governance distributor _ _ _ rewarded)
      · contradiction
  nested _ _ := trivial
  drift _ impossible := impossible.elim
  tick {now w} rewarded moves := by
    obtain ⟨sameGovernance, sameDistributor⟩ := moves
    refine ⟨⟨⟨?_, ?_, ?_⟩, ?_⟩, trivial⟩
    · rw [sameGovernance]
      exact rewarded.deployment
    · rw [sameDistributor]
      exact rewarded.authority
    · rw [sameDistributor]
      exact rewarded.authorized
    · rw [sameDistributor, sameGovernance]
      exact rewarded.total

end Entries

theorem constructor_rewarded (governance distributor token : ContractAddress)
    (rewardToken : ContractAddress) (quorum : U256) (votingPeriod : U64) (block : Block) :
    Rewarded governance distributor
      ⟨Governance.constructor token distributor quorum votingPeriod,
        RewardDistributor.constructor rewardToken governance, block⟩ := by
  refine ⟨⟨rfl, rfl, ?_⟩, ?_⟩
  · intro address
    by_cases same : address = governance
    · simp [RewardDistributor.constructor, same]
    · simp [RewardDistributor.constructor, same]
  · simp [RewardDistributor.constructor, Governance.constructor, earned, votesCast, Vote.zero]

theorem distributeReward_runs (self : ContractAddress) {caller : ContractAddress}
    (user : ContractAddress) (amount : U256) {w : World}
    (authorized : w.distributor.authorizedDistributors caller = true) :
    (∃ w', (RewardDistributor.entry self caller
      (.rewardDistributor (.distributeReward user amount))).run w = .done .unit w') ∨
    ((RewardDistributor.entry self caller
      (.rewardDistributor (.distributeReward user amount))).run w = .panic "u256_add Overflow" ∧
      (2 ^ 256 ≤ (w.distributor.rewards user).toNat + amount.toNat ∨
        2 ^ 256 ≤ w.distributor.totalDistributed.toNat + amount.toNat)) := by
  simp only [RewardDistributor.entry, RewardDistributor.distributeReward, Code.run_bind,
    Code.run_load, Program.done_bind, World.get_distributor, authorized, Code.run_require, if_true,
    U256.add]
  cases reward : checkedAdd (w.distributor.rewards user) amount with
  | none => exact .inr ⟨rfl, .inl (checkedAdd_eq_none.mp reward)⟩
  | some newReward =>
      simp only [Code.run_bind, Code.run_orPanic_some, Program.done_bind, Code.run_update,
        Code.run_load, World.get_distributor, World.set_distributor,
        RewardDistributor.State.writeRewards_totalDistributed]
      cases total : checkedAdd w.distributor.totalDistributed amount with
      | none => exact .inr ⟨rfl, .inr (checkedAdd_eq_none.mp total)⟩
      | some newTotal => exact .inl ⟨_, rfl⟩

/-- Governance alone distributes rewards, its calls of `distribute_reward` fail by overflow only
whatever it has written itself before, and what is distributed is what proposals and votes earn. -/
theorem rewards_earned (governance distributor token rewardToken : ContractAddress) (quorum : U256)
    (votingPeriod : U64) (block : Block) (apart : distributor ≠ governance)
    {config : Config World Call Reply}
    (reaches : (rewarding governance distributor).Reaches
      (.initial ⟨Governance.constructor token distributor quorum votingPeriod,
        RewardDistributor.constructor rewardToken governance, block⟩) config) :
    (∀ address, config.now.state.distributor.authorizedDistributors address = true ↔
      address = governance) ∧
    config.now.state.governance.rewardDistributor = distributor ∧
    (∀ w : World, w.distributor = config.now.state.distributor → ∀ user amount, ∃ body,
      (rewarding governance distributor).code
        ⟨governance, distributor, .rewardDistributor (.distributeReward user amount)⟩ = some body ∧
      ((∃ w', body.run w = .done .unit w') ∨
        (body.run w = .panic "u256_add Overflow" ∧
          (2 ^ 256 ≤ (w.distributor.rewards user).toNat + amount.toNat ∨
            2 ^ 256 ≤ w.distributor.totalDistributed.toNat + amount.toNat)))) ∧
    config.now.state.distributor.totalDistributed.toNat =
      100000 * config.now.state.governance.proposalCount.toNat +
        10000 * (Finset.univ.filter fun key : U256 × ContractAddress =>
          0 < (config.now.state.governance.votes key).votes.toNat).card := by
  have rewarded := (rewarding_keepsRewarded governance distributor apart).invariant rfl
    (constructor_rewarded governance distributor token rewardToken quorum votingPeriod block) reaches
  refine ⟨rewarded.authorized, rewarded.deployment, ?_, ?_⟩
  · intro w same user amount
    have authorized : w.distributor.authorizedDistributors governance = true := by
      rw [same]
      exact (rewarded.authorized governance).mpr rfl
    refine ⟨_, by simp only [deployed_cons, if_neg apart, if_true]; rfl, ?_⟩
    exact distributeReward_runs distributor user amount authorized
  · rw [rewarded.total, earned, votesCast]
    simp only [U256.ne_zero_iff]

theorem rewards_earned_voting : ∃ config : Config World Call Reply, config.stack = [] ∧
    config.now.state.distributor.totalDistributed.toNat = 110000 ∧
    config.now.state.distributor.totalDistributed.toNat =
      100000 * config.now.state.governance.proposalCount.toNat +
        10000 * (Finset.univ.filter fun key : U256 × ContractAddress =>
          0 < (config.now.state.governance.votes key).votes.toNat).card := by
  -- user 7 proposes and votes
  have proposed := (((rewarding 1 2).start ⟨Governance.constructor 3 2 10 100,
    RewardDistributor.constructor 3 1, ⟨1⟩⟩).enter
    ⟨7, 1, .governance (.propose 0)⟩ (by decide) rfl 1 rfl).reply (.u256 5) 2 rfl
  have run := (proposed.enter ⟨7, 1, .governance (.castVote 0 true)⟩ (by decide) rfl 1 rfl).reply
    (.u256 5) 2 rfl
  exact ⟨_, rfl, rfl, (rewards_earned 1 2 3 3 10 100 ⟨1⟩ (by decide) run).2.2.2⟩

end Kanaka.Proof.Governance.Rewards
