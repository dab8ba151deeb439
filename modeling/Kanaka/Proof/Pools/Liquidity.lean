import Kanaka.Contracts.CDROracle
import Kanaka.Contracts.Network
import Kanaka.Contracts.VaultManager
import Kanaka.Contracts.YieldEngine
import Kanaka.Machine.Progress
import Kanaka.Proof.VaultManager.Accounting

namespace Kanaka.Proof.Pools.Liquidity
open Machine Contracts

structure World where
  vault : VaultManager.State
  engine : YieldEngine.State
  oracle : CDROracle.State
  block : Block

instance : Has VaultManager.State World where
  get := World.vault
  set vault w := { w with vault }
  get_set _ _ := rfl
  set_set _ _ _ := rfl

instance : Has YieldEngine.State World where
  get := World.engine
  set engine w := { w with engine }
  get_set _ _ := rfl
  set_set _ _ _ := rfl

instance : Has CDROracle.State World where
  get := World.oracle
  set oracle w := { w with oracle }
  get_set _ _ := rfl
  set_set _ _ _ := rfl

instance : Has Block World where
  get := World.block
  set block w := { w with block }
  get_set _ _ := rfl
  set_set _ _ _ := rfl

@[simp] theorem World.get_vault (w : World) : (Has.get w : VaultManager.State) = w.vault := rfl

@[simp] theorem World.get_engine (w : World) : (Has.get w : YieldEngine.State) = w.engine := rfl

@[simp] theorem World.get_oracle (w : World) : (Has.get w : CDROracle.State) = w.oracle := rfl

@[simp] theorem World.set_vault (s : VaultManager.State) (w : World) :
    (Has.set s w : World) = ⟨s, w.engine, w.oracle, w.block⟩ := rfl

@[simp] theorem World.set_oracle (s : CDROracle.State) (w : World) :
    (Has.set s w : World) = ⟨w.vault, w.engine, s, w.block⟩ := rfl

structure Deployment where
  vault : ContractAddress
  engine : ContractAddress
  oracle : ContractAddress
  engine_ne_vault : engine ≠ vault
  oracle_ne_vault : oracle ≠ vault
  oracle_ne_engine : oracle ≠ engine

/-- The three contracts, with tokens, registry, governance and users in the environment. -/
abbrev pooling (d : Deployment) : System World Call Reply where
  code := deployed [(d.vault, VaultManager.entry d.vault), (d.engine, YieldEngine.entry d.engine),
    (d.oracle, CDROracle.entry)]
  enters _ request _ :=
    request.sender ≠ d.vault ∧ request.sender ≠ d.engine ∧ request.sender ≠ d.oracle
  drift _ _ := False
  tick w w' := w'.vault = w.vault ∧ w'.engine = w.engine ∧ w'.oracle = w.oracle

structure Wired (d : Deployment) (w : World) : Prop where
  vaultEngine : w.vault.yieldEngine = d.engine
  engineVault : w.engine.vaultManager = d.vault
  engineOracle : w.engine.cdrOracle = d.oracle
  oracleEngine : w.oracle.yieldEngine = d.engine

structure Agreed (d : Deployment) (w : World) : Prop extends Wired d w where
  tvl : ∀ poolId, (w.oracle.poolMetrics poolId).tvl = w.vault.totalSupply poolId
  balanced : VaultManager.Balanced w.vault
  bound : ∀ poolId, w.vault.totalSupply poolId ≠ 0 → w.vault.poolTokens poolId ≠ 0

def Registered (before after : World) : Prop :=
  ∀ poolId, before.vault.poolTokens poolId ≠ 0 → after.vault.poolTokens poolId ≠ 0

section Code
variable (d : Deployment)

theorem code_vault (sender : ContractAddress) (message : Message) :
    (pooling d).code ⟨sender, d.vault, message⟩ =
      some (VaultManager.entry d.vault sender message) := by
  simp

theorem code_engine (sender : ContractAddress) (message : Message) :
    (pooling d).code ⟨sender, d.engine, message⟩ =
      some (YieldEngine.entry d.engine sender message) := by
  simp [d.engine_ne_vault]

theorem code_oracle (sender : ContractAddress) (message : Message) :
    (pooling d).code ⟨sender, d.oracle, message⟩ = some (CDROracle.entry sender message) := by
  simp [d.oracle_ne_vault, d.oracle_ne_engine]

theorem unserved {sender target : ContractAddress} {message : Message} {w : World}
    (vault : ∀ m, message ≠ .vaultManager m) (engine : ∀ m, message ≠ .yieldEngine m)
    (oracle : ∀ m, message ≠ .cdrOracle m) (body : Entry World Reply)
    (found : (pooling d).code ⟨sender, target, message⟩ = some body) :
    ∃ reason, body.run w = .panic reason := by
  apply deployed_unserved _ body found
  intro server member
  simp only [List.mem_cons, List.not_mem_nil, or_false] at member
  rcases member with rfl | rfl | rfl
  · exact ⟨_, VaultManager.entry_foreign _ _ vault⟩
  · exact ⟨_, YieldEngine.entry_foreign _ _ engine⟩
  · exact ⟨_, CDROracle.entry_foreign _ oracle⟩

end Code

def Notified (isDeposit : Bool) (amount old new : U256) : Prop :=
  if isDeposit then new.toNat = old.toNat + amount.toNat else new.toNat + amount.toNat = old.toNat

section Entries
variable (d : Deployment) (caller : ContractAddress)

abbrev KeepsAgreed {α : Type} (first w : World) (code : Entry World α)
    (history : List (Crossing World Call Reply)) : Prop :=
  Safe (pooling d) (fun now => Agreed d now.state) Registered
    (fun _ next => Agreed d next.state ∧ Registered first next.state) (code.run w) history

theorem keepsAgreed_notify (isDeposit : Bool) {w : World} {poolId : Felt252} {amount : U256}
    {message : IYieldEngine} {Q : Reply → Snapshot World Call Reply → Prop}
    {history : List (Crossing World Call Reply)}
    (served : (YieldEngine.entry d.engine d.vault (.yieldEngine message) : Entry World Reply) = do
      YieldEngine.notifyOracle d.engine d.vault isDeposit poolId amount
      return .unit)
    (wired : Wired d w)
    (post : ∀ tvl lastUpdate event,
      Notified isDeposit amount (w.oracle.poolMetrics poolId).tvl tvl →
      Q .unit ⟨⟨w.vault, w.engine, (w.oracle.writePoolMetrics poolId
        { w.oracle.poolMetrics poolId with tvl, lastUpdate }).emit event, w.block⟩, history⟩) :
    Safe (pooling d) (fun now => Agreed d now.state) Registered Q
      ((Code.send ⟨d.vault, d.engine, .yieldEngine message⟩ : Entry World Reply).run w)
      history := by
  apply Safe.sendIn (code_engine d d.vault (.yieldEngine message))
  rw [served]
  apply Safe.bind
  apply YieldEngine.safe_notifyOracle
  intro _
  rw [World.get_engine, wired.engineOracle]
  apply Safe.sendIn (code_oracle d d.engine _)
  apply Safe.bind
  apply CDROracle.safe_updatePoolMetrics
  intro _ tvl tvl_eq
  exact .done (.done (post tvl _ _ tvl_eq))

theorem Agreed.move {w : World} (agreed : Agreed d w) (isDeposit : Bool) {user : ContractAddress}
    {poolId : Felt252} {amount balance supply tvl : U256} (lastUpdate : U64)
    (event : CDROracle.Event) (registered : w.vault.poolTokens poolId ≠ 0)
    (balance_eq : Notified isDeposit amount (w.vault.balances (user, poolId)) balance)
    (supply_eq : Notified isDeposit amount (w.vault.totalSupply poolId) supply)
    (tvl_eq : Notified isDeposit amount (w.oracle.poolMetrics poolId).tvl tvl) :
    Agreed d ⟨(w.vault.writeBalances (user, poolId) balance).writeTotalSupply poolId supply,
      w.engine, (w.oracle.writePoolMetrics poolId
        { w.oracle.poolMetrics poolId with tvl, lastUpdate }).emit event, w.block⟩ := by
  refine ⟨⟨agreed.vaultEngine, agreed.engineVault, agreed.engineOracle, agreed.oracleEngine⟩,
    ?_, ?_, ?_⟩
  · intro other
    simp only [CDROracle.State.emit_poolMetrics, CDROracle.State.writePoolMetrics_poolMetrics,
      VaultManager.State.writeTotalSupply_totalSupply,
      VaultManager.State.writeBalances_totalSupply]
    by_cases same : other = poolId
    · rw [same, Function.update_self, Function.update_self]
      rw [agreed.tvl] at tvl_eq
      apply BitVec.eq_of_toNat_eq
      cases isDeposit with
      | true => exact tvl_eq.trans supply_eq.symm
      | false => exact Nat.add_right_cancel (tvl_eq.trans supply_eq.symm)
    · rw [Function.update_of_ne same, Function.update_of_ne same]
      exact agreed.tvl other
  · apply agreed.balanced.write
    cases isDeposit with
    | true =>
        simp only [Notified, if_true] at balance_eq supply_eq
        omega
    | false =>
        simp only [Notified, Bool.false_eq_true, if_false] at balance_eq supply_eq
        omega
  · intro other supplied
    by_cases same : other = poolId
    · rw [same]
      exact registered
    · simp only [VaultManager.State.writeTotalSupply_totalSupply,
        VaultManager.State.writeBalances_totalSupply, Function.update_of_ne same] at supplied
      exact agreed.bound other supplied

theorem Agreed.emit {w : World} (agreed : Agreed d w) (event : VaultManager.Event) :
    Agreed d ⟨w.vault.emit event, w.engine, w.oracle, w.block⟩ :=
  ⟨⟨agreed.vaultEngine, agreed.engineVault, agreed.engineOracle, agreed.oracleEngine⟩,
    agreed.tvl, agreed.balanced, agreed.bound⟩

theorem deposit_keepsAgreed (poolId : Felt252) (amount : U256) (w : World)
    (history : List (Crossing World Call Reply)) (agreed : Agreed d w) :
    KeepsAgreed d w w (VaultManager.deposit d.vault caller poolId amount) history := by
  apply VaultManager.safe_deposit
  intro _ _ registered
  apply Safe.send (unserved d (by simp) (by simp) (by simp)) agreed
  intro _ paid paidAgreed stay newBalance newTotal balance_eq total_eq
  have registeredNow := stay poolId registered
  simp only [World.get_vault, World.set_vault, paidAgreed.vaultEngine] at balance_eq total_eq ⊢
  apply keepsAgreed_notify d true rfl
  · exact ⟨paidAgreed.vaultEngine, paidAgreed.engineVault, paidAgreed.engineOracle,
      paidAgreed.oracleEngine⟩
  · intro tvl lastUpdate event tvl_eq
    have moved := paidAgreed.move d true lastUpdate event registeredNow balance_eq total_eq
      tvl_eq
    exact ⟨moved.emit d _, stay⟩

theorem withdraw_keepsAgreed (poolId : Felt252) (amount : U256) (w : World)
    (history : List (Crossing World Call Reply)) (agreed : Agreed d w) :
    KeepsAgreed d w w (VaultManager.withdraw d.vault caller poolId amount) history := by
  apply VaultManager.safe_withdraw
  intro newBalance newTotal _ registered balance_eq total_eq
  simp only [World.get_vault, World.set_vault, agreed.vaultEngine] at balance_eq total_eq ⊢
  apply keepsAgreed_notify d false rfl
  · exact ⟨agreed.vaultEngine, agreed.engineVault, agreed.engineOracle, agreed.oracleEngine⟩
  · intro tvl lastUpdate event tvl_eq
    have moved := agreed.move d false lastUpdate event registered balance_eq total_eq tvl_eq
    apply Safe.send (unserved d (by simp) (by simp) (by simp)) moved
    intro _ paid paidAgreed stay
    exact ⟨paidAgreed.emit d _, stay⟩

theorem addPool_keepsAgreed (poolId : Felt252) (token : ContractAddress) (w : World)
    (history : List (Crossing World Call Reply)) (agreed : Agreed d w) :
    KeepsAgreed d w w (VaultManager.addPool caller poolId token) history := by
  apply VaultManager.safe_addPool
  intro _ nonzero
  have stay : Registered w ⟨w.vault.writePoolTokens poolId token, w.engine, w.oracle, w.block⟩ := by
    intro other registered
    rw [VaultManager.State.writePoolTokens_poolTokens]
    by_cases same : other = poolId
    · rw [same, Function.update_self]
      exact nonzero
    · rw [Function.update_of_ne same]
      exact registered
  refine ⟨⟨⟨agreed.vaultEngine, agreed.engineVault, agreed.engineOracle, agreed.oracleEngine⟩,
    agreed.tvl, agreed.balanced, ?_⟩, stay⟩
  exact fun other supplied => stay other (agreed.bound other supplied)

theorem Agreed.congr {w w' : World} (agreed : Agreed d w) (vault : w'.vault = w.vault)
    (engineVault : w'.engine.vaultManager = w.engine.vaultManager)
    (engineOracle : w'.engine.cdrOracle = w.engine.cdrOracle) (oracle : w'.oracle = w.oracle) :
    Agreed d w' := by
  refine ⟨⟨?_, engineVault.trans agreed.engineVault, engineOracle.trans agreed.engineOracle, ?_⟩,
    ?_, ?_, ?_⟩
  · rw [vault]
    exact agreed.vaultEngine
  · rw [oracle]
    exact agreed.oracleEngine
  · rw [oracle, vault]
    exact agreed.tvl
  · rw [vault]
    exact agreed.balanced
  · rw [vault]
    exact agreed.bound

theorem rebalance_keepsAgreed (newWeights : CairoArray U256) (w : World)
    (history : List (Crossing World Call Reply)) (agreed : Agreed d w) :
    KeepsAgreed d w w (YieldEngine.rebalance d.engine caller newWeights) history := by
  apply YieldEngine.safe_rebalance d.engine caller newWeights
    (fun _ _ _ now => Agreed d now ∧ now.vault = w.vault)
  · intro _
    exact ⟨agreed, rfl⟩
  · intro weight rest i total now j total' filling _ _
    exact ⟨filling.1.congr d rfl rfl rfl rfl, filling.2⟩
  · intro _ i filled filling
    have written : Agreed d
        ⟨filled.vault, filled.engine.writeTotalWeights 100000, filled.oracle, filled.block⟩ :=
      filling.1.congr d rfl rfl rfl rfl
    apply Safe.send (unserved d (by simp) (by simp) (by simp)) written
    intro _ executed executedAgreed stay
    refine ⟨executedAgreed.congr d rfl rfl rfl rfl, ?_⟩
    intro poolId registered
    rw [← filling.2] at registered
    exact stay poolId registered

theorem harvestYield_keepsAgreed (poolId : Felt252) (w : World)
    (history : List (Crossing World Call Reply)) (agreed : Agreed d w) :
    KeepsAgreed d w w (YieldEngine.harvestYield d.engine caller poolId) history := by
  -- the vault manager has no `distribute_yield`, so there is nothing to keep after a yield
  apply YieldEngine.safe_harvestYield
  intro _
  rw [World.get_engine, agreed.engineOracle]
  apply Safe.sendIn (code_oracle d d.engine _)
  apply Safe.bind
  apply CDROracle.safe_getPoolYield
  intro product _
  apply Safe.done
  intro yieldAmount _ _
  constructor
  · intro _
    exact ⟨agreed, fun _ registered => registered⟩
  · intro _
    rw [World.get_engine, agreed.engineVault]
    apply Safe.sendIn (code_vault d d.engine _)
    exact .panic

theorem notifyOracle_keepsAgreed (isDeposit : Bool) (poolId : Felt252) (amount : U256) (w : World)
    (history : List (Crossing World Call Reply)) (agreed : Agreed d w) (outside : caller ≠ d.vault) :
    KeepsAgreed d w w (YieldEngine.notifyOracle d.engine caller isDeposit poolId amount) history := by
  apply YieldEngine.safe_notifyOracle
  intro authorized
  exact absurd (authorized.trans agreed.engineVault) outside

theorem updatePoolMetrics_keepsAgreed (poolId : Felt252) (amount : U256) (isDeposit : Bool)
    (w : World) (history : List (Crossing World Call Reply)) (agreed : Agreed d w)
    (outside : caller ≠ d.engine) :
    KeepsAgreed d w w (CDROracle.updatePoolMetrics caller poolId amount isDeposit) history := by
  apply CDROracle.safe_updatePoolMetrics
  intro authorized
  exact absurd (authorized.trans agreed.oracleEngine) outside

theorem updateMetric_keepsAgreed (replace : PoolMetrics → PoolMetrics) (poolId : Felt252)
    (kept : ∀ old : PoolMetrics, (replace old).tvl = old.tvl) (w : World)
    (history : List (Crossing World Call Reply)) (agreed : Agreed d w) :
    KeepsAgreed d w w (CDROracle.updateMetric caller replace poolId) history := by
  apply CDROracle.safe_updateMetric
  intro _
  apply CDROracle.safe_storeMetrics
  refine ⟨⟨⟨agreed.vaultEngine, agreed.engineVault, agreed.engineOracle, agreed.oracleEngine⟩, ?_,
    agreed.balanced, agreed.bound⟩, fun _ registered => registered⟩
  intro other
  simp only [World.get_oracle, World.set_oracle, CDROracle.State.emit_poolMetrics,
    CDROracle.State.writePoolMetrics_poolMetrics]
  by_cases same : other = poolId
  · rw [same, Function.update_self, kept]
    exact agreed.tvl poolId
  · rw [Function.update_of_ne same]
    exact agreed.tvl other

theorem updateCorrelation_keepsAgreed (poolA poolB : Felt252) (correlation : U256) (w : World)
    (history : List (Crossing World Call Reply)) (agreed : Agreed d w) :
    KeepsAgreed d w w (CDROracle.updateCorrelation caller poolA poolB correlation) history := by
  apply CDROracle.safe_updateCorrelation
  intro _ _
  exact ⟨⟨⟨agreed.vaultEngine, agreed.engineVault, agreed.engineOracle, agreed.oracleEngine⟩,
    agreed.tvl, agreed.balanced, agreed.bound⟩, fun _ registered => registered⟩

theorem pooling_keepsAgreed :
    Certified (pooling d) (fun now => Agreed d now.state) Registered Registered where
  rely_refl _ _ registered := registered
  rely_trans first second poolId registered := second poolId (first poolId registered)
  guarantee_trans first second poolId registered := second poolId (first poolId registered)
  resumed _ agreed := agreed
  enter {depth request body now} outside found agreed := by
    simp only [deployed_cons, deployed_nil] at found
    split at found
    · cases found
      exact VaultManager.safe_entry d.vault request.sender request.message
        ⟨agreed, fun _ registered => registered⟩
        (fun poolId amount _ => deposit_keepsAgreed d _ poolId amount _ _ agreed)
        (fun poolId amount _ => withdraw_keepsAgreed d _ poolId amount _ _ agreed)
        (fun poolId token _ => addPool_keepsAgreed d _ poolId token _ _ agreed)
    · split at found
      · cases found
        exact YieldEngine.safe_entry d.engine request.sender request.message
          ⟨agreed, fun _ registered => registered⟩
          (fun newWeights _ => rebalance_keepsAgreed d _ newWeights _ _ agreed)
          (fun poolId _ => harvestYield_keepsAgreed d _ poolId _ _ agreed)
          (fun isDeposit poolId amount =>
            notifyOracle_keepsAgreed d _ isDeposit poolId amount _ _ agreed outside.1)
      · split at found
        · cases found
          exact CDROracle.safe_entry request.sender request.message
            ⟨agreed, fun _ registered => registered⟩
            (fun poolId amount isDeposit => updatePoolMetrics_keepsAgreed d _ poolId amount
              isDeposit _ _ agreed outside.2.1)
            (fun replace poolId kept =>
              updateMetric_keepsAgreed d _ replace poolId kept _ _ agreed)
            (fun poolA poolB correlation =>
              updateCorrelation_keepsAgreed d _ poolA poolB correlation _ _ agreed)
        · contradiction
  nested _ registered := registered
  drift _ impossible := impossible.elim
  tick {now w} agreed moves := by
    obtain ⟨vault, engine, oracle⟩ := moves
    refine ⟨agreed.congr d vault (by rw [engine]) (by rw [engine]) oracle, ?_⟩
    intro poolId registered
    rw [vault]
    exact registered

end Entries

/-- A withdrawal of what the user has gets as far as the token's `transfer`, and ends after it. -/
theorem withdraw_available (d : Deployment) {w : World} (agreed : Agreed d w)
    {user : ContractAddress} {poolId : Felt252} {amount : U256} (nonzero : user ≠ 0)
    (positive : 0 < amount.toNat)
    (enough : amount.toNat ≤ (w.vault.balances (user, poolId)).toNat)
    (outside : (pooling d).code
      ⟨d.vault, w.vault.poolTokens poolId, .erc20 (.transfer user amount)⟩ = none) :
    ∃ w' resume,
      Runs (pooling d)
        ((VaultManager.entry d.vault user (.vaultManager (.withdraw poolId amount))).run w)
        (.call ⟨d.vault, w.vault.poolTokens poolId, .erc20 (.transfer user amount)⟩ w' resume) ∧
      ∀ reply now, ∃ last, resume reply now = .done .unit last := by
  have covered := enough.trans (agreed.balanced.balance_le user poolId)
  have supplied : w.vault.totalSupply poolId ≠ 0 := by
    rw [U256.ne_zero_iff]
    omega
  have metered : amount.toNat ≤ (w.oracle.poolMetrics poolId).tvl.toNat := by
    rw [agreed.tvl]
    exact covered
  apply Exists.intro
  apply Exists.intro
  constructor
  · apply Runs.assoc
    apply Runs.require nonzero
    apply Runs.assoc
    apply Runs.load
    apply Runs.assoc
    apply Runs.require enough
    apply Runs.assoc
    apply Runs.load
    apply Runs.assoc
    apply Runs.require (agreed.bound poolId supplied)
    apply Runs.assoc
    apply Runs.orPanic (checkedSub_of_le enough)
    apply Runs.assoc
    apply Runs.update
    apply Runs.assoc
    apply Runs.load
    apply Runs.assoc
    apply Runs.orPanic (checkedSub_of_le covered)
    apply Runs.assoc
    apply Runs.update
    apply Runs.assoc
    apply Runs.load
    simp only [World.get_vault, World.set_vault, VaultManager.State.writeTotalSupply_yieldEngine,
      VaultManager.State.writeBalances_yieldEngine, agreed.vaultEngine]
    apply Runs.assoc
    apply Runs.sendIn (code_engine d d.vault _)
    -- `on_withdrawal` of the yield engine
    apply Runs.assoc
    apply Runs.assoc
    apply Runs.load
    apply Runs.assoc
    apply Runs.require agreed.engineVault.symm
    apply Runs.assoc
    apply Runs.load
    simp only [World.get_engine, agreed.engineOracle]
    apply Runs.assoc
    apply Runs.sendIn (code_oracle d d.engine _)
    -- `update_pool_metrics` of the oracle
    apply Runs.assoc
    apply Runs.assoc
    apply Runs.load
    apply Runs.assoc
    apply Runs.require agreed.oracleEngine.symm
    apply Runs.assoc
    apply Runs.load
    apply Runs.assoc
    apply Runs.orPanic (checkedSub_of_le metered)
    exact .outside outside
  · intro reply now
    exact ⟨_, rfl⟩

theorem constructor_agreed (d : Deployment)
    (strategyRegistry strategyRegistry' governance governance' : ContractAddress) (block : Block) :
    Agreed d ⟨VaultManager.constructor strategyRegistry d.engine,
      YieldEngine.constructor d.vault d.oracle strategyRegistry' governance,
      CDROracle.constructor d.engine governance', block⟩ := by
  refine ⟨⟨rfl, rfl, rfl, rfl⟩, fun _ => rfl, VaultManager.constructor_balanced _ _, ?_⟩
  intro poolId supplied
  exact absurd rfl supplied

/-- The oracle's `tvl` is the vault's supply, and so withdrawals never fail on the way to the token.
A token at the address of one of the three contracts has no `transfer` that could succeed. -/
theorem pools_agree (d : Deployment)
    (strategyRegistry strategyRegistry' governance governance' : ContractAddress) (block : Block)
    {config : Config World Call Reply}
    (reaches : (pooling d).Reaches
      (.initial ⟨VaultManager.constructor strategyRegistry d.engine,
        YieldEngine.constructor d.vault d.oracle strategyRegistry' governance,
        CDROracle.constructor d.engine governance', block⟩) config) :
    (∀ poolId, (config.now.state.oracle.poolMetrics poolId).tvl =
      config.now.state.vault.totalSupply poolId) ∧
    (∀ user poolId amount, user ≠ 0 → 0 < amount.toNat →
      amount.toNat ≤ (config.now.state.vault.balances (user, poolId)).toNat →
      (pooling d).code ⟨d.vault, config.now.state.vault.poolTokens poolId,
        .erc20 (.transfer user amount)⟩ = none →
      ∃ body w' resume,
        (pooling d).code ⟨user, d.vault, .vaultManager (.withdraw poolId amount)⟩ = some body ∧
        Runs (pooling d) (body.run config.now.state)
          (.call ⟨d.vault, config.now.state.vault.poolTokens poolId,
            .erc20 (.transfer user amount)⟩ w' resume) ∧
        ∀ reply now, ∃ last, resume reply now = .done .unit last) := by
  have agreed := (pooling_keepsAgreed d).invariant rfl
    (constructor_agreed d strategyRegistry strategyRegistry' governance governance' block) reaches
  refine ⟨agreed.tvl, ?_⟩
  intro user poolId amount nonzero positive enough outside
  obtain ⟨w', resume, runs, ends⟩ := withdraw_available d agreed nonzero positive enough outside
  exact ⟨_, w', resume, code_vault d user _, runs, ends⟩

theorem pools_agree_deposited : ∃ (d : Deployment) (config : Config World Call Reply),
    config.now.state.vault.totalSupply 0 = 5 ∧
    (config.now.state.oracle.poolMetrics 0).tvl = config.now.state.vault.totalSupply 0 ∧
    ∃ body w' resume, (pooling d).code ⟨7, d.vault, .vaultManager (.withdraw 0 3)⟩ = some body ∧
      Runs (pooling d) (body.run config.now.state)
        (.call ⟨d.vault, 8, .erc20 (.transfer 7 3)⟩ w' resume) := by
  -- user 7 has deposited 5 of token 8 and can withdraw 3
  have run := ((((pooling ⟨1, 2, 3, by decide, by decide, by decide⟩).start
    ⟨VaultManager.constructor 9 2, YieldEngine.constructor 1 3 4 5, CDROracle.constructor 2 6,
      ⟨1⟩⟩).enter ⟨9, 1, .vaultManager (.addPool 0 8)⟩ (by decide) rfl 1 rfl).enter
    ⟨7, 1, .vaultManager (.deposit 0 5)⟩ (by decide) rfl 1 rfl).reply .unit 3 rfl
  have agree := pools_agree _ 9 4 5 6 ⟨1⟩ run
  obtain ⟨body, w', resume, found, runs, _⟩ :=
    agree.2 7 0 3 (by decide) (by decide) (by decide) rfl
  exact ⟨_, _, rfl, agree.1 0, body, w', resume, found, runs⟩

end Kanaka.Proof.Pools.Liquidity
