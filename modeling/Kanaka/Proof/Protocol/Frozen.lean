import Kanaka.Machine.Simulate
import Kanaka.Proof.Protocol.World

/-!
# What the contracts never ask of each other

The governance contract marks proposals as executed and calls none of the functions that are
reserved to it, and the registry does not harvest.
-/

namespace Kanaka.Proof.Protocol
open Machine Contracts

/-! ## Pools that the governance contract governs -/

structure Pools where
  registry : StrategyRegistry.State
  vault : VaultManager.State
  engine : YieldEngine.State
  oracle : CDROracle.State
  block : Block

instance : Has StrategyRegistry.State Pools where
  get := Pools.registry
  set registry w := { w with registry }
  get_set _ _ := rfl
  set_set _ _ _ := rfl

instance : Has VaultManager.State Pools where
  get := Pools.vault
  set vault w := { w with vault }
  get_set _ _ := rfl
  set_set _ _ _ := rfl

instance : Has YieldEngine.State Pools where
  get := Pools.engine
  set engine w := { w with engine }
  get_set _ _ := rfl
  set_set _ _ _ := rfl

instance : Has CDROracle.State Pools where
  get := Pools.oracle
  set oracle w := { w with oracle }
  get_set _ _ := rfl
  set_set _ _ _ := rfl

instance : Has Block Pools where
  get := Pools.block
  set block w := { w with block }
  get_set _ _ := rfl
  set_set _ _ _ := rfl

def World.pools (w : World) : Pools := ⟨w.registry, w.vault, w.engine, w.oracle, w.block⟩

structure Foreign (message : Message) : Prop where
  registry : ∀ m, message ≠ .strategyRegistry m
  vault : ∀ m, message ≠ .vaultManager m
  engine : ∀ m, message ≠ .yieldEngine m
  oracle : ∀ m, message ≠ .cdrOracle m

/-- The four contracts, called by anyone but themselves, and by the governance contract for other
things only. -/
abbrev governed (d : Deployment) : System Pools Call Reply where
  code := deployed [(d.registry, StrategyRegistry.entry d.registry),
    (d.vault, VaultManager.entry d.vault), (d.engine, YieldEngine.entry d.engine),
    (d.oracle, CDROracle.entry)]
  enters _ request _ := (request.sender ≠ d.registry ∧ request.sender ≠ d.vault ∧
    request.sender ≠ d.engine ∧ request.sender ≠ d.oracle) ∧
    (request.sender = d.governance → Foreign request.message)
  drift _ _ := False
  tick w w' := w'.registry = w.registry ∧ w'.vault = w.vault ∧ w'.engine = w.engine ∧
    w'.oracle = w.oracle

structure Frozen (d : Deployment) (w : Pools) : Prop where
  registry : w.registry = StrategyRegistry.constructor d.vault d.engine d.governance
  vault : w.vault = VaultManager.constructor d.registry d.engine
  engine : w.engine = YieldEngine.constructor d.vault d.oracle d.registry d.governance
  oracle : w.oracle = CDROracle.constructor d.engine d.governance

theorem governed_isPart (d : Deployment) : Part (protocol d) (governed d) World.pools := by
  have apart := d.apart
  simp only [List.nodup_cons, List.mem_cons, List.not_mem_nil, not_or, or_false] at apart
  have governs : ∀ target message, Foreign message →
      Welcome (governed d) ⟨d.governance, target, message⟩ := by
    intro target message foreign _ _ _
    exact ⟨⟨by tauto, by tauto, by tauto, by tauto⟩, fun _ => foreign⟩
  have distributes : ∀ target message, Welcome (governed d) ⟨d.distributor, target, message⟩ := by
    intro target message _ _ _
    refine ⟨⟨by tauto, by tauto, by tauto, by tauto⟩, fun same => ?_⟩
    exact absurd same.symm (by tauto)
  have among : Among World.pools (Welcome (governed d)) (servers d)
      [(d.registry, StrategyRegistry.entry d.registry), (d.vault, VaultManager.entry d.vault),
        (d.engine, YieldEngine.entry d.engine), (d.oracle, CDROracle.entry)] := by
    refine .part (fun sender message => registry_inside d.registry sender message
      ⟨⟨fun _ => rfl⟩, fun _ _ => rfl, fun _ _ => trivial⟩) ?_
    refine .part (fun sender message => vault_inside d.vault sender message
      ⟨⟨fun _ => rfl⟩, fun _ _ => rfl, fun _ _ => trivial⟩) ?_
    refine .part (fun sender message => engine_inside d.engine sender message
      ⟨⟨fun _ => rfl⟩, fun _ _ => rfl, fun _ _ => trivial⟩) ?_
    refine .part (fun sender message => oracle_inside sender message
      ⟨⟨fun _ => rfl⟩, fun _ _ => rfl, fun _ _ => trivial⟩ ⟨fun _ => rfl⟩) ?_
    refine .beside (fun sender message => ?_) (.beside (fun sender message => ?_) .nil)
    · apply Contracts.Governance.seen_entry d.governance sender
        ⟨⟨fun _ => rfl⟩, fun _ _ => rfl, fun _ _ => rfl⟩ ⟨fun _ => rfl⟩
      · exact fun token m => governs _ _ ⟨by simp, by simp, by simp, by simp⟩
      · exact fun distributor user amount => governs _ _ ⟨by simp, by simp, by simp, by simp⟩
    · exact distributor_beside distributes sender message fun _ _ => rfl
  refine among.isPart d.apart rfl rfl ?_ ?_ ?_
  · intro depth request state outside _ _
    simp only [Deployment.addresses, List.mem_cons, not_or] at outside
    refine ⟨⟨outside.1, outside.2.1, outside.2.2.1, outside.2.2.2.1⟩, fun same => ?_⟩
    exact absurd same outside.2.2.2.2.1
  · exact fun impossible => impossible.elim
  · intro before after ticks
    exact .inr ⟨ticks.1, ticks.2.1, ticks.2.2.1, ticks.2.2.2.1⟩

section Entries
variable {d : Deployment} {w : Pools} {history : List (Crossing Pools Call Reply)}
  (frozen : Frozen d w) (sender : ContractAddress) (message : Message)
include frozen

abbrev StaysFrozen (d : Deployment) (w : Pools) (code : Entry Pools Reply)
    (history : List (Crossing Pools Call Reply)) : Prop :=
  Safe (governed d) (fun now => Frozen d now.state) (fun _ _ => True)
    (fun _ next => Frozen d next.state ∧ True) (code.run w) history

theorem registry_staysFrozen (governance : sender ≠ d.governance) (engine : sender ≠ d.engine) :
    StaysFrozen d w (StrategyRegistry.entry d.registry sender message) history := by
  have reserved : (Has.get w : StrategyRegistry.State).governance = d.governance :=
    congrArg StrategyRegistry.State.governance frozen.registry
  have rebalances : (Has.get w : StrategyRegistry.State).yieldEngine = d.engine :=
    congrArg StrategyRegistry.State.yieldEngine frozen.registry
  apply StrategyRegistry.safe_entry d.registry sender message ⟨frozen, trivial⟩
  · intro token strategy minDeposit maxCapacity _
    apply StrategyRegistry.safe_addPool
    exact fun authorized _ _ => absurd (authorized.trans reserved) governance
  · intro poolId active minDeposit maxCapacity _
    apply StrategyRegistry.safe_updatePool
    exact fun authorized _ => absurd (authorized.trans reserved) governance
  · intro newWeights
    apply StrategyRegistry.safe_executeRebalance
    exact fun authorized => absurd (authorized.trans rebalances) engine

theorem vault_staysFrozen (registry : sender ≠ d.registry) :
    StaysFrozen d w (VaultManager.entry d.vault sender message) history := by
  have unbound : ∀ poolId, (Has.get w : VaultManager.State).poolTokens poolId = 0 :=
    congrFun (congrArg VaultManager.State.poolTokens frozen.vault)
  have reserved : (Has.get w : VaultManager.State).strategyRegistry = d.registry :=
    congrArg VaultManager.State.strategyRegistry frozen.vault
  apply VaultManager.safe_entry d.vault sender message ⟨frozen, trivial⟩
  · intro poolId amount _
    apply VaultManager.safe_deposit
    exact fun _ _ bound => absurd (unbound poolId) bound
  · intro poolId amount _
    apply VaultManager.safe_withdraw
    exact fun _ _ _ bound => absurd (unbound poolId) bound
  · intro poolId token _
    apply VaultManager.safe_addPool
    exact fun authorized => absurd (authorized.trans reserved) registry

theorem engine_staysFrozen (governance : sender ≠ d.governance) (registry : sender ≠ d.registry)
    (vault : sender ≠ d.vault) :
    StaysFrozen d w (YieldEngine.entry d.engine sender message) history := by
  have reserved : (Has.get w : YieldEngine.State).governance = d.governance :=
    congrArg YieldEngine.State.governance frozen.engine
  have harvests : (Has.get w : YieldEngine.State).strategyRegistry = d.registry :=
    congrArg YieldEngine.State.strategyRegistry frozen.engine
  have notifies : (Has.get w : YieldEngine.State).vaultManager = d.vault :=
    congrArg YieldEngine.State.vaultManager frozen.engine
  apply YieldEngine.safe_entry d.engine sender message ⟨frozen, trivial⟩
  · intro newWeights _
    apply Safe.load
    apply Safe.require
    exact fun authorized => absurd (authorized.trans reserved) governance
  · intro poolId _
    apply YieldEngine.safe_harvestYield
    exact fun authorized => absurd (authorized.trans harvests) registry
  · intro isDeposit poolId amount
    apply YieldEngine.safe_notifyOracle
    exact fun authorized => absurd (authorized.trans notifies) vault

theorem oracle_staysFrozen (governance : sender ≠ d.governance) (engine : sender ≠ d.engine) :
    StaysFrozen d w (CDROracle.entry sender message) history := by
  have reserved : (Has.get w : CDROracle.State).governance = d.governance :=
    congrArg CDROracle.State.governance frozen.oracle
  have notifies : (Has.get w : CDROracle.State).yieldEngine = d.engine :=
    congrArg CDROracle.State.yieldEngine frozen.oracle
  apply CDROracle.safe_entry sender message ⟨frozen, trivial⟩
  · intro poolId amount isDeposit
    apply CDROracle.safe_updatePoolMetrics
    exact fun authorized => absurd (authorized.trans notifies) engine
  · intro replace poolId _
    apply CDROracle.safe_updateMetric
    exact fun authorized => absurd (authorized.trans reserved) governance
  · intro poolA poolB correlation
    apply CDROracle.safe_updateCorrelation
    exact fun authorized => absurd (authorized.trans reserved) governance

end Entries

theorem governed_staysFrozen (d : Deployment) :
    Certified (governed d) (fun now => Frozen d now.state) (fun _ _ => True) (fun _ _ => True) where
  rely_refl _ := trivial
  rely_trans _ _ := trivial
  guarantee_trans _ _ := trivial
  resumed _ frozen := frozen
  enter {depth request body now} enters found frozen := by
    obtain ⟨⟨registry, vault, engine, oracle⟩, governs⟩ := enters
    by_cases governance : request.sender = d.governance
    · have foreign := governs governance
      have panics : ∃ reason, body.run now.state = .panic reason := by
        apply deployed_unserved _ body found
        intro server member
        simp only [List.mem_cons, List.not_mem_nil, or_false] at member
        rcases member with rfl | rfl | rfl | rfl
        · exact ⟨_, StrategyRegistry.entry_foreign _ _ foreign.registry⟩
        · exact ⟨_, VaultManager.entry_foreign _ _ foreign.vault⟩
        · exact ⟨_, YieldEngine.entry_foreign _ _ foreign.engine⟩
        · exact ⟨_, CDROracle.entry_foreign _ foreign.oracle⟩
      obtain ⟨reason, panics⟩ := panics
      rw [panics]
      exact .panic
    simp only [deployed_cons, deployed_nil] at found
    split at found
    · cases found
      exact registry_staysFrozen frozen _ _ governance engine
    split at found
    · cases found
      exact vault_staysFrozen frozen _ _ registry
    split at found
    · cases found
      exact engine_staysFrozen frozen _ _ governance registry vault
    split at found
    · cases found
      exact oracle_staysFrozen frozen _ _ governance engine
    · contradiction
  nested _ _ := trivial
  drift _ impossible := impossible.elim
  tick {now w} frozen moves := by
    obtain ⟨registry, vault, engine, oracle⟩ := moves
    exact ⟨⟨registry.trans frozen.registry, vault.trans frozen.vault, engine.trans frozen.engine,
      oracle.trans frozen.oracle⟩, trivial⟩

/-- A protocol that its governance contract governs stays as it has been deployed, whatever
proposals are executed: there is no pool, no deposit, no weight and no metric. -/
theorem governed_frozen (d : Deployment) (token rewardToken : ContractAddress) (quorum : U256)
    (votingPeriod : U64) (block : Block) {config : Config World Call Reply}
    (reaches : (protocol d).Reaches
      (.initial (d.deploy d.governance token rewardToken quorum votingPeriod block)) config) :
    config.now.state.registry = StrategyRegistry.constructor d.vault d.engine d.governance ∧
    config.now.state.vault = VaultManager.constructor d.registry d.engine ∧
    config.now.state.engine = YieldEngine.constructor d.vault d.oracle d.registry d.governance ∧
    config.now.state.oracle = CDROracle.constructor d.engine d.governance := by
  obtain ⟨seen, run, same, -⟩ := (governed_isPart d).follows reaches
  have start : Frozen d
      (d.deploy d.governance token rewardToken quorum votingPeriod block).pools :=
    ⟨rfl, rfl, rfl, rfl⟩
  have frozen := (governed_staysFrozen d).invariant rfl start run
  rw [same] at frozen
  exact ⟨frozen.registry, frozen.vault, frozen.engine, frozen.oracle⟩

theorem governed_frozen_executed : ∃ config : Config World Call Reply,
    (config.now.state.governance.proposals 0).executed = true ∧
    config.now.state.registry = StrategyRegistry.constructor 2 3 5 := by
  -- user 11 proposes and votes; the proposal is executed after its voting period
  have run := ((((protocol ⟨1, 2, 3, 4, 5, 6, by decide⟩).start
    (Deployment.deploy ⟨1, 2, 3, 4, 5, 6, by decide⟩ 5 12 13 10 100 ⟨1⟩)).enter
    ⟨11, 5, .governance (.propose 0)⟩ (by decide) rfl 1 rfl).reply (.u256 20) 2 rfl).enter
    ⟨11, 5, .governance (.castVote 0 true)⟩ (by decide) rfl 1 rfl
  have run := ((run.reply (.u256 20) 2 rfl).tick ⟨_, _, _, _, _, _, ⟨102⟩⟩
    ⟨rfl, rfl, rfl, rfl, rfl, rfl, by decide⟩).enter
    ⟨11, 5, .governance (.executeProposal 0)⟩ (by decide) rfl 1 rfl
  exact ⟨_, rfl, (governed_frozen _ 12 13 10 100 ⟨1⟩ run).1⟩

/-! ## Yields -/

/-- The engine, called by anyone for anything, and by the registry for all but a harvest. -/
abbrev unharvested (d : Deployment) : System YieldEngine.State Call Reply :=
  { alone d.engine (YieldEngine.entry d.engine) fun _ _ => False with
    enters := fun _ request _ => request.sender = d.registry →
      ∀ poolId, request.message ≠ .yieldEngine (.harvestYield poolId) }

structure Unharvested (d : Deployment) (s : YieldEngine.State) : Prop where
  registry : s.strategyRegistry = d.registry
  events : ∀ poolId amount, .yieldHarvested poolId amount ∉ s.events

theorem unharvested_isPart (d : Deployment) : Part (protocol d) (unharvested d) World.engine := by
  have apart := d.apart
  simp only [List.nodup_cons, List.mem_cons, List.not_mem_nil, not_or, or_false] at apart
  have free : ∀ self, self ≠ d.registry → ∀ target message,
      Welcome (unharvested d) ⟨self, target, message⟩ :=
    fun _ other _ _ _ _ _ same => absurd same other
  have among : Among World.engine (Welcome (unharvested d)) (servers d)
      [(d.engine, YieldEngine.entry d.engine)] := by
    refine .beside (fun sender message => ?_) ?_
    · apply StrategyRegistry.seen_entry d.registry sender
        ⟨⟨fun _ => rfl⟩, fun _ _ => rfl, fun _ _ => rfl⟩
      · exact fun vault poolId token _ _ _ _ => by simp
      · exact fun strategy weight _ _ _ _ => by simp
    refine .beside (fun sender message =>
      vault_beside (free _ (by tauto)) sender message fun _ _ => rfl) ?_
    refine .part (fun sender message => engine_inside d.engine sender message
      ⟨⟨fun _ => rfl⟩, fun _ _ => rfl, fun _ _ => trivial⟩) ?_
    refine .beside (fun sender message => oracle_beside sender message fun _ _ => rfl) ?_
    refine .beside (fun sender message =>
      governance_beside (free _ (by tauto)) sender message fun _ _ => rfl) ?_
    refine .beside (fun sender message =>
      distributor_beside (free _ (by tauto)) sender message fun _ _ => rfl) ?_
    exact .nil
  refine among.isPart d.apart rfl rfl ?_ ?_ ?_
  · intro depth request state outside _ _ same
    simp only [Deployment.addresses, List.mem_cons, not_or] at outside
    exact absurd same outside.1
  · exact fun impossible => impossible.elim
  · intro before after ticks
    exact .inl ticks.2.2.1

theorem Unharvested.emit {d : Deployment} {s : YieldEngine.State} (unharvested : Unharvested d s)
    (newWeights : CairoArray U256) : Unharvested d (s.emit (.rebalanced newWeights)) := by
  refine ⟨unharvested.registry, ?_⟩
  simp [unharvested.events]

theorem unharvested_kept (d : Deployment) :
    Certified (unharvested d) (fun now => Unharvested d now.state) (fun _ _ => True)
      (fun _ _ => True) where
  rely_refl _ := trivial
  rely_trans _ _ := trivial
  guarantee_trans _ _ := trivial
  resumed _ kept := kept
  enter {depth request body now} enters found kept := by
    simp only [alone, deployed_cons, deployed_nil, Option.ite_none_right_eq_some,
      Option.some.injEq] at found
    rw [← found.2]
    apply YieldEngine.safe_entry d.engine request.sender request.message ⟨kept, trivial⟩
    · intro newWeights _
      apply YieldEngine.safe_rebalance d.engine request.sender newWeights
        fun _ _ _ filled => Unharvested d filled
      · exact fun _ => kept
      · exact fun _ _ _ _ _ _ _ filling _ _ => ⟨filling.registry, filling.events⟩
      · intro _ i filled filling
        apply Safe.send (deployed_foreign (YieldEngine.entry_foreign _ _ (by simp)))
        · exact ⟨filling.registry, filling.events⟩
        · intro _ executed executedKept _
          exact ⟨executedKept.emit newWeights, trivial⟩
    · intro poolId harvest
      apply YieldEngine.safe_harvestYield
      exact fun authorized => absurd harvest (enters (authorized.trans kept.registry) poolId)
    · intro isDeposit poolId amount
      apply YieldEngine.safe_notifyOracle
      intro _
      apply Safe.send (deployed_foreign (YieldEngine.entry_foreign _ _ (by simp))) kept
      exact fun _ told toldKept _ => ⟨toldKept, trivial⟩
  nested _ _ := trivial
  drift _ impossible := impossible.elim
  tick _ impossible := impossible.elim

/-- Harvests are reserved to the registry, which makes none: they fail for all others, and no yield
is ever distributed. -/
theorem yield_unharvested (d : Deployment) (authority token rewardToken : ContractAddress)
    (quorum : U256) (votingPeriod : U64) (block : Block) {config : Config World Call Reply}
    (reaches : (protocol d).Reaches
      (.initial (d.deploy authority token rewardToken quorum votingPeriod block)) config) :
    (∀ poolId amount, .yieldHarvested poolId amount ∉ config.now.state.engine.events) ∧
    ∀ sender poolId, sender ≠ d.registry →
      (YieldEngine.entry d.engine sender (.yieldEngine (.harvestYield poolId))).run
        config.now.state = .panic "UNAUTHORIZED" := by
  obtain ⟨seen, run, same, -⟩ := (unharvested_isPart d).follows reaches
  have start : Unharvested d
      (d.deploy authority token rewardToken quorum votingPeriod block).engine := by
    refine ⟨rfl, fun poolId amount member => ?_⟩
    cases member
  have kept := (unharvested_kept d).invariant rfl start run
  rw [same] at kept
  refine ⟨kept.events, fun sender poolId outside => ?_⟩
  have refused : ¬ sender = (Has.get config.now.state : YieldEngine.State).strategyRegistry :=
    fun authorized => outside (authorized.trans kept.registry)
  simp only [YieldEngine.entry, YieldEngine.harvestYield, Code.run_bind, Code.run_load,
    Program.done_bind, Code.run_require, if_neg refused, Program.panic_bind]

theorem yield_unharvested_rebalanced : ∃ config : Config World Call Reply,
    config.now.state.engine.poolWeights 0 = 100000 ∧
    ∀ poolId amount, .yieldHarvested poolId amount ∉ config.now.state.engine.events := by
  -- 7 adds a pool, sets its yield rate and gives it all weight
  have run := (((protocol ⟨1, 2, 3, 4, 5, 6, by decide⟩).start
    (Deployment.deploy ⟨1, 2, 3, 4, 5, 6, by decide⟩ 7 12 13 10 100 ⟨1⟩)).enter
    ⟨7, 1, .strategyRegistry (.addPool 8 9 1 100)⟩ (by decide) rfl 2 rfl).enter
    ⟨7, 4, .cdrOracle (.updateYieldRate 0 5000)⟩ (by decide) rfl 1 rfl
  have run := (run.enter ⟨7, 3, .yieldEngine (.rebalance ⟨[100000], by decide⟩)⟩ (by decide) rfl 2
    rfl).reply .unit 1 rfl
  exact ⟨_, rfl, (yield_unharvested _ 7 12 13 10 100 ⟨1⟩ run).1⟩

end Kanaka.Proof.Protocol
