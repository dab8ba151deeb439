import Kanaka.Proof.Backend.Oracle.Correlations
import Kanaka.Proof.Governance.Log
import Kanaka.Proof.Protocol.Mirrors
import Kanaka.Proof.RewardDistributor.Log

/-! # What the logs of the contracts tell -/

namespace Kanaka.Proof.Protocol
open Machine Contracts
open Backend.CDROracleService (Figures figures)
open Backend.RewardDistributorService (given taken)

/-! ## The oracle announces what it writes at once -/

structure Readings where
  metrics : Felt252 → Figures
  correlations : Felt252 × Felt252 → U256

def Readings.zero : Readings := ⟨fun _ => (0, 0, 0), fun _ => 0⟩

def Readings.read (readings : Readings) : CDROracle.Event → Readings
  | .metricsUpdated poolId tvl volatility yieldRate =>
      { readings with
        metrics := Function.update readings.metrics poolId (tvl, volatility, yieldRate) }
  | .correlationUpdated a b correlation =>
      { readings with
        correlations :=
          Function.update (Function.update readings.correlations (a, b) correlation) (b, a)
            correlation }

def readingsOf (oracle : CDROracle.State) : Readings :=
  ⟨fun poolId => figures (oracle.poolMetrics poolId), oracle.correlations⟩

def Read (oracle : CDROracle.State) : Prop :=
  readingsOf oracle = oracle.events.foldl Readings.read .zero

theorem Read.emit {before after : CDROracle.State} (read : Read before) {event : CDROracle.Event}
    (log : after.events = before.events ++ [event])
    (shown : readingsOf after = (readingsOf before).read event) : Read after := by
  rw [Read, log, List.foldl_append, List.foldl_cons, List.foldl_nil, ← read, shown]

theorem readingsOf_storeMetrics (oracle : CDROracle.State) (poolId : Felt252)
    (metrics : PoolMetrics) (event : CDROracle.Event) :
    readingsOf ((oracle.writePoolMetrics poolId metrics).emit event) =
      (readingsOf oracle).read
        (.metricsUpdated poolId metrics.tvl metrics.volatility metrics.yieldRate) := by
  simp only [readingsOf, Readings.read, CDROracle.State.emit_poolMetrics,
    CDROracle.State.writePoolMetrics_poolMetrics, CDROracle.State.emit_correlations,
    CDROracle.State.writePoolMetrics_correlations, Readings.mk.injEq, and_true]
  funext other
  rw [Function.update_apply, Function.update_apply]
  split <;> rfl

abbrev OracleWorld := Backend.CDROracleService.World

abbrev oracleAlone (self : ContractAddress) : System OracleWorld Call Reply :=
  alone self CDROracle.entry fun w w' => w'.oracle = w.oracle

theorem oracle_reads (self : ContractAddress) :
    Localised (oracleAlone self) fun w => Read w.oracle where
  code {request body} found w read := by
    simp only [alone, deployed_cons, deployed_nil, Option.ite_none_right_eq_some,
      Option.some.injEq] at found
    rw [← found.2]
    intro history
    apply CDROracle.safe_entry request.sender request.message read
    · intro poolId amount isDeposit
      apply CDROracle.safe_updatePoolMetrics
      intro _ tvl _
      exact read.emit rfl (readingsOf_storeMetrics _ _ _ _)
    · intro replace poolId _
      apply CDROracle.safe_updateMetric
      intro _
      apply CDROracle.safe_storeMetrics
      exact read.emit rfl (readingsOf_storeMetrics _ _ _ _)
    · intro poolA poolB correlation
      apply CDROracle.safe_updateCorrelation
      exact fun _ _ => read.emit rfl rfl
  drift impossible _ := impossible.elim
  tick same read := by
    rw [same]
    exact read

def oracleOf (w : World) : OracleWorld := ⟨w.oracle, w.block⟩

theorem oracle_isPart (d : Deployment) : Part (protocol d) (oracleAlone d.oracle) oracleOf := by
  have free : ∀ self target message, Welcome (oracleAlone d.oracle) ⟨self, target, message⟩ :=
    fun _ _ _ _ _ _ => trivial
  have among : Among oracleOf (Welcome (oracleAlone d.oracle)) (servers d)
      [(d.oracle, CDROracle.entry)] := by
    refine .beside (fun sender message => registry_beside (free _) sender message fun _ _ => rfl) ?_
    refine .beside (fun sender message => vault_beside (free _) sender message fun _ _ => rfl) ?_
    refine .beside (fun sender message => engine_beside (free _) sender message fun _ _ => rfl) ?_
    refine .part (fun sender message => oracle_inside sender message
      ⟨⟨fun _ => rfl⟩, fun _ _ => rfl, fun _ _ => trivial⟩ ⟨fun _ => rfl⟩) ?_
    refine .beside (fun sender message => governance_beside (free _) sender message fun _ _ => rfl) ?_
    refine .beside (fun sender message =>
      distributor_beside (free _) sender message fun _ _ => rfl) ?_
    exact .nil
  refine among.isPart d.apart rfl rfl ?_ ?_ ?_
  · exact fun _ _ _ => trivial
  · exact fun impossible => impossible.elim
  · exact fun ticks => .inr ticks.2.2.2.1

theorem distributor_isPart (d : Deployment) : Part (protocol d)
    (RewardDistributor.rewardDistributorAlone d.distributor) World.distributor := by
  have free : ∀ self target message,
      Welcome (RewardDistributor.rewardDistributorAlone d.distributor) ⟨self, target, message⟩ :=
    fun _ _ _ _ _ _ => trivial
  have among : Among World.distributor
      (Welcome (RewardDistributor.rewardDistributorAlone d.distributor)) (servers d)
      [(d.distributor, Contracts.RewardDistributor.entry d.distributor)] := by
    refine .beside (fun sender message => registry_beside (free _) sender message fun _ _ => rfl) ?_
    refine .beside (fun sender message => vault_beside (free _) sender message fun _ _ => rfl) ?_
    refine .beside (fun sender message => engine_beside (free _) sender message fun _ _ => rfl) ?_
    refine .beside (fun sender message => oracle_beside sender message fun _ _ => rfl) ?_
    refine .beside (fun sender message => governance_beside (free _) sender message fun _ _ => rfl) ?_
    refine .part (fun sender message => distributor_inside d.distributor sender message
      ⟨⟨fun _ => rfl⟩, fun _ _ => rfl, fun _ _ => trivial⟩) ?_
    exact .nil
  refine among.isPart d.apart rfl rfl ?_ ?_ ?_
  · exact fun _ _ _ => trivial
  · exact fun impossible => impossible.elim
  · exact fun ticks => .inl ticks.2.2.2.2.2.1

section Reached
variable {d : Deployment} {authority token rewardToken : ContractAddress} {quorum : U256}
  {votingPeriod : U64} {block : Block} {config : Config World Call Reply}
  (reaches : (protocol d).Reaches
    (.initial (d.deploy authority token rewardToken quorum votingPeriod block)) config)
include reaches

theorem oracle_read : Read config.now.state.oracle := by
  obtain ⟨seen, run, same, -⟩ := (oracle_isPart d).follows reaches
  have read := (oracle_reads d.oracle).invariant (P := fun w => Read w.oracle)
    (show Read (CDROracle.constructor d.engine authority) from rfl) run
  rw [same] at read
  exact read

theorem balances_logged (idle : config.stack = []) (user : ContractAddress) (poolId : Felt252) :
    ((config.now.state.vault.balances (user, poolId)).toNat : Int) =
      VaultManager.deposits config.now.state.vault user poolId -
        VaultManager.withdrawals config.now.state.vault user poolId := by
  obtain ⟨seen, run, same, settled⟩ := (vaultAlone_isPart d).follows reaches
  have announced := VaultManager.balances_announced run (settled idle) user poolId
  rw [same] at announced
  exact announced

theorem governance_told (clock : 0 < block.timestamp.toNat) (idle : config.stack = []) :
    Governance.Tidy config.now.state.governance config.now.state.block ∧
      ∀ event, event ∈ config.now.state.governance.events ↔
        Governance.Stands config.now.state.governance event := by
  obtain ⟨seen, run, same, settled⟩ := (governance_isPart d).follows reaches
  have tidy := Governance.tidy_of_reaches clock run
  have log := (Governance.log_of_reaches clock run (settled idle)).2
  rw [same] at tidy log
  exact ⟨tidy, log⟩

theorem rewards_logged (idle : config.stack = []) :
    RewardDistributor.Totalled config.now.state.distributor ∧
    ∀ user, ((config.now.state.distributor.rewards user).toNat : Int) =
      given config.now.state.distributor user - taken config.now.state.distributor user := by
  obtain ⟨seen, run, same, settled⟩ := (distributor_isPart d).follows reaches
  have total := RewardDistributor.totalled_of_reaches run
  have rewards := RewardDistributor.settled_of_idle run (settled idle)
  rw [same] at total rewards
  exact ⟨total, rewards⟩

end Reached

structure SameLogs (w w' : World) : Prop where
  vault : w'.vault.events = w.vault.events
  oracle : w'.oracle.events = w.oracle.events
  governance : w'.governance.events = w.governance.events
  distributor : w'.distributor.events = w.distributor.events

structure SameStorage (w w' : World) : Prop where
  balances : w'.vault.balances = w.vault.balances
  totalSupply : w'.vault.totalSupply = w.vault.totalSupply
  readings : readingsOf w'.oracle = readingsOf w.oracle
  proposals : w'.governance.proposals = w.governance.proposals
  votes : w'.governance.votes = w.governance.votes
  proposalCount : w'.governance.proposalCount = w.governance.proposalCount
  rewards : w'.distributor.rewards = w.distributor.rewards
  totalDistributed : w'.distributor.totalDistributed = w.distributor.totalDistributed

/-- Two runs whose contracts have the same logs between two transactions have the same accounts,
metrics, proposals, votes and rewards, in whatever order the contracts have been called, however
the calls were nested, and whoever governs. -/
theorem storage_logged {d d' : Deployment} {authority authority' token token' rewardToken rewardToken' :
      ContractAddress} {quorum quorum' : U256} {votingPeriod votingPeriod' : U64} {block block' : Block}
    (clock : 0 < block.timestamp.toNat) (clock' : 0 < block'.timestamp.toNat)
    {config config' : Config World Call Reply}
    (reaches : (protocol d).Reaches
      (.initial (d.deploy authority token rewardToken quorum votingPeriod block)) config)
    (reaches' : (protocol d').Reaches
      (.initial (d'.deploy authority' token' rewardToken' quorum' votingPeriod' block')) config')
    (idle : config.stack = []) (idle' : config'.stack = [])
    (same : SameLogs config.now.state config'.now.state) :
    SameStorage config.now.state config'.now.state := by
  obtain ⟨tidy, told⟩ := governance_told reaches clock idle
  obtain ⟨tidy', told'⟩ := governance_told reaches' clock' idle'
  have stands : ∀ event, Governance.Stands config'.now.state.governance event ↔
      Governance.Stands config.now.state.governance event := by
    intro event
    rw [← told, ← told', same.governance]
  have votes := Governance.votes_eq tidy tidy' stands
  have balances : config'.now.state.vault.balances = config.now.state.vault.balances := by
    funext ⟨user, poolId⟩
    have here := balances_logged reaches idle user poolId
    have there := balances_logged reaches' idle' user poolId
    simp only [VaultManager.deposits, VaultManager.withdrawals, same.vault] at here there
    exact BitVec.eq_of_toNat_eq (by omega)
  obtain ⟨total, rewards⟩ := rewards_logged reaches idle
  obtain ⟨total', rewards'⟩ := rewards_logged reaches' idle'
  refine ⟨balances, ?_, ?_, ?_, votes, ?_, ?_, ?_⟩
  · funext poolId
    have here := supplied_announced reaches idle poolId
    have there := supplied_announced reaches' idle' poolId
    rw [same.vault] at there
    exact BitVec.eq_of_toNat_eq (by omega)
  · rw [oracle_read reaches, oracle_read reaches', same.oracle]
  · refine Governance.proposals_eq tidy tidy' stands ?_
    intro id side
    refine ((tallied reaches' clock').tally id side).trans ?_
    refine Eq.trans ?_ ((tallied reaches clock).tally id side).symm
    simp only [governanceOf, votes]
  · apply BitVec.eq_of_toNat_eq
    exact le_antisymm (Governance.proposalCount_le fun event => (stands event).symm)
      (Governance.proposalCount_le stands)
  · funext user
    have here := rewards user
    have there := rewards' user
    simp only [given, taken, same.distributor] at here there
    exact BitVec.eq_of_toNat_eq (by omega)
  · apply BitVec.eq_of_toNat_eq
    rw [total, total', same.distributor]

theorem storage_logged_nested : ∃ config config' : Config World Call Reply,
    config.now.state.vault.events = [.deposit 14 0 2, .deposit 10 0 5] ∧
    SameStorage config.now.state config'.now.state := by
  -- 14 deposits while the token moves what 10 deposits, or before that
  have pool := ((protocol ⟨1, 2, 3, 4, 5, 6, by decide⟩).start
    (Deployment.deploy ⟨1, 2, 3, 4, 5, 6, by decide⟩ 7 12 13 10 100 ⟨1⟩)).enter
    ⟨7, 1, .strategyRegistry (.addPool 8 9 1 100)⟩ (by decide) rfl 2 rfl
  have nested := (((pool.enter ⟨10, 2, .vaultManager (.deposit 0 5)⟩ (by decide) rfl 1 rfl).enter
    ⟨14, 2, .vaultManager (.deposit 0 2)⟩ (by decide) rfl 1 rfl).reply .unit 3 rfl).reply .unit 3 rfl
  have sequential := (((pool.enter ⟨14, 2, .vaultManager (.deposit 0 2)⟩ (by decide) rfl 1 rfl).reply
    .unit 3 rfl).enter ⟨10, 2, .vaultManager (.deposit 0 5)⟩ (by decide) rfl 1 rfl).reply .unit 3 rfl
  exact ⟨_, _, rfl, storage_logged (by decide) (by decide) nested sequential rfl rfl
    ⟨rfl, rfl, rfl, rfl⟩⟩

end Kanaka.Proof.Protocol
