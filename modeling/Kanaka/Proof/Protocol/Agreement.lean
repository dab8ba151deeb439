import Kanaka.Proof.Governance.Rewards
import Kanaka.Proof.Governance.Tally
import Kanaka.Proof.Pools.Liquidity
import Kanaka.Proof.Pools.Registry
import Kanaka.Proof.Protocol.World

namespace Kanaka.Proof.Protocol
open Machine Contracts

namespace Deployment
variable (d : Deployment)

theorem distinct : d.vault ≠ d.registry ∧ d.engine ≠ d.vault ∧ d.oracle ≠ d.vault ∧
    d.oracle ≠ d.engine ∧ d.distributor ≠ d.governance := by
  have apart := d.apart
  simp only [List.nodup_cons, List.mem_cons, not_or] at apart
  tauto

def pools : Pools.Liquidity.Deployment :=
  ⟨d.vault, d.engine, d.oracle, d.distinct.2.1, d.distinct.2.2.1, d.distinct.2.2.2.1⟩

def registration : Pools.Registry.Deployment := ⟨d.registry, d.vault, d.distinct.1⟩

end Deployment

def poolsOf (w : World) : Pools.Liquidity.World := ⟨w.vault, w.engine, w.oracle, w.block⟩

def registrationOf (w : World) : Pools.Registry.World := ⟨w.registry, w.vault⟩

def governanceOf (w : World) : Governance.World := ⟨w.governance, w.block⟩

def rewardsOf (w : World) : Governance.Rewards.World := ⟨w.governance, w.distributor, w.block⟩

section Parts
variable (d : Deployment)

theorem pools_isPart : Part (protocol d) (Pools.Liquidity.pooling d.pools) poolsOf := by
  have apart := d.apart
  simp only [List.nodup_cons, List.mem_cons, List.not_mem_nil, not_or, or_false] at apart
  have free : ∀ self, self ≠ d.vault → self ≠ d.engine → self ≠ d.oracle → ∀ target message,
      Welcome (Pools.Liquidity.pooling d.pools) ⟨self, target, message⟩ :=
    fun _ vault engine oracle _ _ _ _ _ => ⟨vault, engine, oracle⟩
  have among : Among poolsOf (Welcome (Pools.Liquidity.pooling d.pools)) (servers d)
      [(d.vault, VaultManager.entry d.vault), (d.engine, YieldEngine.entry d.engine),
        (d.oracle, CDROracle.entry)] := by
    refine .beside (fun sender message =>
      registry_beside (free _ (by tauto) (by tauto) (by tauto)) sender message fun _ _ => rfl) ?_
    refine .part (fun sender message =>
      vault_inside d.vault sender message ⟨⟨fun _ => rfl⟩, fun _ _ => rfl, fun _ _ => trivial⟩) ?_
    refine .part (fun sender message =>
      engine_inside d.engine sender message ⟨⟨fun _ => rfl⟩, fun _ _ => rfl, fun _ _ => trivial⟩) ?_
    refine .part (fun sender message => oracle_inside sender message
      ⟨⟨fun _ => rfl⟩, fun _ _ => rfl, fun _ _ => trivial⟩ ⟨fun _ => rfl⟩) ?_
    refine .beside (fun sender message =>
      governance_beside (free _ (by tauto) (by tauto) (by tauto)) sender message fun _ _ => rfl) ?_
    refine .beside (fun sender message =>
      distributor_beside (free _ (by tauto) (by tauto) (by tauto)) sender message fun _ _ => rfl) ?_
    exact .nil
  refine among.isPart d.apart rfl rfl ?_ ?_ ?_
  · intro depth request state outside _ _
    simp only [Deployment.addresses, List.mem_cons, not_or] at outside
    exact ⟨outside.2.1, outside.2.2.1, outside.2.2.2.1⟩
  · exact fun impossible => impossible.elim
  · intro before after ticks
    exact .inr ⟨ticks.2.1, ticks.2.2.1, ticks.2.2.2.1⟩

/-- The requests that move what somebody has in the vault. -/
def Moves (message : Message) : Prop :=
  ∃ poolId amount, message = .vaultManager (.deposit poolId amount) ∨
    message = .vaultManager (.withdraw poolId amount)

theorem vault_among {welcome : Call → Prop}
    (free : ∀ self, self ≠ d.vault → self ∈ d.addresses → ∀ target message, ¬ Moves message →
      welcome ⟨self, target, message⟩) :
    Among World.vault welcome (servers d) [(d.vault, VaultManager.entry d.vault)] := by
  have apart := d.apart
  simp only [List.nodup_cons, List.mem_cons, List.not_mem_nil, not_or, or_false] at apart
  have registry := free d.registry (by tauto) (by simp [Deployment.addresses])
  have engine := free d.engine (by tauto) (by simp [Deployment.addresses])
  have governance := free d.governance (by tauto) (by simp [Deployment.addresses])
  have distributor := free d.distributor (by tauto) (by simp [Deployment.addresses])
  refine .beside (fun sender message => ?_) ?_
  · exact StrategyRegistry.seen_entry _ sender ⟨⟨fun _ => rfl⟩, fun _ _ => rfl, fun _ _ => rfl⟩
      (fun _ _ _ => registry _ _ (by simp [Moves])) (fun _ _ => registry _ _ (by simp [Moves])) message
  refine .part (fun sender message => vault_inside d.vault sender message
    ⟨⟨fun _ => rfl⟩, fun _ _ => rfl, fun _ _ => trivial⟩) ?_
  refine .beside (fun sender message => ?_) ?_
  · exact YieldEngine.seen_entry _ sender ⟨⟨fun _ => rfl⟩, fun _ _ => rfl, fun _ _ => rfl⟩
      (fun _ _ => engine _ _ (by simp [Moves])) (fun _ _ _ => engine _ _ (by simp [Moves]))
      (fun _ _ => engine _ _ (by simp [Moves])) message
  refine .beside (fun sender message => oracle_beside sender message fun _ _ => rfl) ?_
  refine .beside (fun sender message => ?_) ?_
  · exact Contracts.Governance.seen_entry _ sender ⟨⟨fun _ => rfl⟩, fun _ _ => rfl, fun _ _ => rfl⟩
      ⟨fun _ => rfl⟩ (fun _ _ => governance _ _ (by simp [Moves]))
      (fun _ _ _ => governance _ _ (by simp [Moves])) message
  refine .beside (fun sender message => ?_) ?_
  · exact RewardDistributor.seen_entry _ sender ⟨⟨fun _ => rfl⟩, fun _ _ => rfl, fun _ _ => rfl⟩
      (fun _ _ => distributor _ _ (by simp [Moves])) message
  exact .nil

theorem registration_isPart :
    Part (protocol d) (Pools.Registry.registering d.registration) registrationOf := by
  have apart := d.apart
  simp only [List.nodup_cons, List.mem_cons, List.not_mem_nil, not_or, or_false] at apart
  have free : ∀ self, self ≠ d.registry → self ≠ d.vault → ∀ target message,
      Welcome (Pools.Registry.registering d.registration) ⟨self, target, message⟩ :=
    fun _ registry vault _ _ _ _ _ => ⟨registry, vault⟩
  have among : Among registrationOf (Welcome (Pools.Registry.registering d.registration))
      (servers d) [(d.registry, StrategyRegistry.entry d.registry),
        (d.vault, VaultManager.entry d.vault)] := by
    refine .part (fun sender message =>
      registry_inside d.registry sender message
        ⟨⟨fun _ => rfl⟩, fun _ _ => rfl, fun _ _ => trivial⟩) ?_
    refine .part (fun sender message =>
      vault_inside d.vault sender message ⟨⟨fun _ => rfl⟩, fun _ _ => rfl, fun _ _ => trivial⟩) ?_
    refine .beside (fun sender message =>
      engine_beside (free _ (by tauto) (by tauto)) sender message fun _ _ => rfl) ?_
    refine .beside (fun sender message => oracle_beside sender message fun _ _ => rfl) ?_
    refine .beside (fun sender message =>
      governance_beside (free _ (by tauto) (by tauto)) sender message fun _ _ => rfl) ?_
    refine .beside (fun sender message =>
      distributor_beside (free _ (by tauto) (by tauto)) sender message fun _ _ => rfl) ?_
    exact .nil
  refine among.isPart d.apart rfl rfl ?_ ?_ ?_
  · intro depth request state outside _ _
    simp only [Deployment.addresses, List.mem_cons, not_or] at outside
    exact ⟨outside.1, outside.2.1⟩
  · exact fun impossible => impossible.elim
  · intro before after ticks
    left
    rw [Aside, registrationOf, registrationOf, ticks.1, ticks.2.1]

theorem governance_isPart :
    Part (protocol d) (Governance.governanceAlone d.governance) governanceOf := by
  have free : ∀ self target message,
      Welcome (Governance.governanceAlone d.governance) ⟨self, target, message⟩ :=
    fun _ _ _ _ _ _ => trivial
  have among : Among governanceOf (Welcome (Governance.governanceAlone d.governance))
      (servers d) [(d.governance, Governance.entry d.governance)] := by
    refine .beside (fun sender message => registry_beside (free _) sender message fun _ _ => rfl) ?_
    refine .beside (fun sender message => vault_beside (free _) sender message fun _ _ => rfl) ?_
    refine .beside (fun sender message => engine_beside (free _) sender message fun _ _ => rfl) ?_
    refine .beside (fun sender message => oracle_beside sender message fun _ _ => rfl) ?_
    refine .part (fun sender message =>
      governance_inside d.governance sender message ⟨⟨fun _ => rfl⟩, fun _ _ => rfl, fun _ _ =>
        trivial⟩ ⟨fun _ => rfl⟩) ?_
    refine .beside (fun sender message =>
      distributor_beside (free _) sender message fun _ _ => rfl) ?_
    exact .nil
  refine among.isPart d.apart rfl rfl ?_ ?_ ?_
  · exact fun _ _ _ => trivial
  · exact fun impossible => impossible.elim
  · intro before after ticks
    obtain ⟨-, -, -, -, governance, -, clock⟩ := ticks
    exact .inr ⟨governance, clock⟩

theorem rewards_among {welcome : Call → Prop}
    (free : ∀ self, self ≠ d.governance → self ≠ d.distributor → self ∈ d.addresses →
      ∀ target message, welcome ⟨self, target, message⟩) :
    Among rewardsOf welcome (servers d) [(d.governance, Governance.entry d.governance),
      (d.distributor, RewardDistributor.entry d.distributor)] := by
  have apart := d.apart
  simp only [List.nodup_cons, List.mem_cons, List.not_mem_nil, not_or, or_false] at apart
  refine .beside (fun sender message => registry_beside
    (free _ (by tauto) (by tauto) (by simp [Deployment.addresses])) sender message fun _ _ => rfl) ?_
  refine .beside (fun sender message => vault_beside
    (free _ (by tauto) (by tauto) (by simp [Deployment.addresses])) sender message fun _ _ => rfl) ?_
  refine .beside (fun sender message => engine_beside
    (free _ (by tauto) (by tauto) (by simp [Deployment.addresses])) sender message fun _ _ => rfl) ?_
  refine .beside (fun sender message => oracle_beside sender message fun _ _ => rfl) ?_
  refine .part (fun sender message => governance_inside d.governance sender message
    ⟨⟨fun _ => rfl⟩, fun _ _ => rfl, fun _ _ => trivial⟩ ⟨fun _ => rfl⟩) ?_
  refine .part (fun sender message => distributor_inside d.distributor sender message
    ⟨⟨fun _ => rfl⟩, fun _ _ => rfl, fun _ _ => trivial⟩) ?_
  exact .nil

theorem rewards_isPart :
    Part (protocol d) (Governance.Rewards.rewarding d.governance d.distributor) rewardsOf := by
  have among : Among rewardsOf
      (Welcome (Governance.Rewards.rewarding d.governance d.distributor)) (servers d)
      [(d.governance, Governance.entry d.governance),
        (d.distributor, RewardDistributor.entry d.distributor)] :=
    rewards_among d fun _ governance distributor _ _ _ _ _ _ => ⟨governance, distributor⟩
  refine among.isPart d.apart rfl rfl ?_ ?_ ?_
  · intro depth request state outside _ _
    simp only [Deployment.addresses, List.mem_cons, not_or] at outside
    exact ⟨outside.2.2.2.2.1, outside.2.2.2.2.2.1⟩
  · exact fun impossible => impossible.elim
  · intro before after ticks
    obtain ⟨-, -, -, -, governance, distributor, -⟩ := ticks
    exact .inr ⟨governance, distributor⟩

end Parts

section Reached
variable {d : Deployment} {authority token rewardToken : ContractAddress} {quorum : U256}
  {votingPeriod : U64} {block : Block} {config : Config World Call Reply}
  (reaches : (protocol d).Reaches
    (.initial (d.deploy authority token rewardToken quorum votingPeriod block)) config)
include reaches

theorem agreed : Pools.Liquidity.Agreed d.pools (poolsOf config.now.state) := by
  obtain ⟨seen, run, same, -⟩ := (pools_isPart d).follows reaches
  rw [← same]
  exact (Pools.Liquidity.pooling_keepsAgreed d.pools).invariant rfl
    (Pools.Liquidity.constructor_agreed d.pools _ _ _ _ _) run

theorem linked : Pools.Registry.Linked d.registration (registrationOf config.now.state) := by
  obtain ⟨seen, run, same, -⟩ := (registration_isPart d).follows reaches
  have start : Pools.Registry.Linked d.registration (registrationOf
      (d.deploy authority token rewardToken quorum votingPeriod block)) :=
    ⟨rfl, rfl, fun _ => Pools.constructor_registered _ _ _ _ _⟩
  rw [← same]
  exact (Pools.Registry.registering_keepsLinked d.registration).invariant rfl start run

theorem tallied (clock : 0 < block.timestamp.toNat) :
    Governance.Tallied (governanceOf config.now.state) := by
  obtain ⟨seen, run, same, -⟩ := (governance_isPart d).follows reaches
  have start := Governance.constructor_tallied token d.distributor quorum votingPeriod block clock
  rw [← same]
  exact ((Governance.governance_keepsTally d.governance).invariant rfl (.start start) run).here

theorem rewarded :
    Governance.Rewards.Rewarded d.governance d.distributor (rewardsOf config.now.state) := by
  obtain ⟨seen, run, same, -⟩ := (rewards_isPart d).follows reaches
  rw [← same]
  exact (Governance.Rewards.rewarding_keepsRewarded d.governance d.distributor
    d.distinct.2.2.2.2).invariant rfl (Governance.Rewards.constructor_rewarded _ _ _ _ _ _ _) run

/-- However the contracts and their environment call each other, the oracle's value of a pool is the
sum of what the vault owes its users, every pool that the vault owes for is the registry's, and the
distributor has given out what the proposals and the votes of governance earn. -/
theorem protocol_agrees (clock : 0 < block.timestamp.toNat) :
    (∀ poolId, (config.now.state.oracle.poolMetrics poolId).tvl.toNat =
      ∑ user, (config.now.state.vault.balances (user, poolId)).toNat) ∧
    (Pools.added config.now.state.registry < fieldPrime → ∀ user poolId,
      config.now.state.vault.balances (user, poolId) ≠ 0 →
      poolId.val < config.now.state.registry.poolCount.val ∧
      (config.now.state.registry.pools poolId).token ≠ 0 ∧
      config.now.state.vault.poolTokens poolId = (config.now.state.registry.pools poolId).token) ∧
    config.now.state.distributor.totalDistributed.toNat =
      100000 * config.now.state.governance.proposalCount.toNat +
        10000 * (Finset.univ.filter fun key : U256 × ContractAddress =>
          (config.now.state.governance.votes key).votes ≠ 0).card ∧
    (∀ id support, (Governance.tally (config.now.state.governance.proposals id) support).toNat =
      ∑ voter, Governance.weight support (config.now.state.governance.votes (id, voter))) := by
  have pools := agreed reaches
  have registered := (linked reaches).pools
  refine ⟨?_, ?_, (rewarded reaches).total, (tallied reaches clock).tally⟩
  · intro poolId
    exact (congrArg BitVec.toNat (pools.tvl poolId)).trans (pools.balanced poolId)
  · intro few user poolId owed
    have supplied : config.now.state.vault.totalSupply poolId ≠ 0 := by
      rw [U256.ne_zero_iff] at owed ⊢
      exact owed.trans_le (pools.balanced.balance_le user poolId)
    have bound := pools.bound poolId supplied
    have known : poolId.val < config.now.state.registry.poolCount.val := by
      by_contra unknown
      exact bound ((registered few).free poolId (not_lt.mp unknown)).2
    have live := (registered few).live poolId known
    exact ⟨known, live.token, live.bound⟩

end Reached

theorem protocol_agrees_used : ∃ config : Config World Call Reply,
    config.now.state.vault.balances (10, 0) = 5 ∧
    config.now.state.governance.proposalCount = 1 ∧
    config.now.state.vault.poolTokens 0 = (config.now.state.registry.pools 0).token ∧
    config.now.state.distributor.totalDistributed.toNat =
      100000 * config.now.state.governance.proposalCount.toNat +
        10000 * (Finset.univ.filter fun key : U256 × ContractAddress =>
          (config.now.state.governance.votes key).votes ≠ 0).card := by
  -- 7 adds a pool of token 8, into which user 10 deposits; user 11 makes a proposal
  have run := (((protocol ⟨1, 2, 3, 4, 5, 6, by decide⟩).start
    (Deployment.deploy ⟨1, 2, 3, 4, 5, 6, by decide⟩ 7 12 13 10 100 ⟨1⟩)).enter
    ⟨7, 1, .strategyRegistry (.addPool 8 9 1 100)⟩ (by decide) rfl 2 rfl).enter
    ⟨10, 2, .vaultManager (.deposit 0 5)⟩ (by decide) rfl 1 rfl
  have run := (run.reply .unit 3 rfl).enter ⟨11, 5, .governance (.propose 0)⟩ (by decide) rfl 1 rfl
  have run := run.reply (.u256 3) 2 rfl
  have agrees := protocol_agrees run (by decide)
  have pool := agrees.2.1 (by decide) 10 0 (by decide)
  exact ⟨_, rfl, rfl, pool.2.2, agrees.2.2.1⟩

end Kanaka.Proof.Protocol
