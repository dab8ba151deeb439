import Kanaka.Contracts.CDROracle
import Kanaka.Contracts.Network
import Kanaka.Contracts.YieldEngine
import Kanaka.Machine.Outcome

namespace Kanaka.Proof.Pools.Yields
open Machine Contracts

structure World where
  engine : YieldEngine.State
  oracle : CDROracle.State
  block : Block

instance : Has YieldEngine.State World where
  get := World.engine
  set engine w := { w with engine }
  get_set _ _ := rfl
  set_set _ _ _ := rfl

instance : Has CDROracle.State World where
  get := World.oracle
  set oracle w := { w with oracle }
  get_set _ _ := rfl
  set_set _ _ _ := rfl

instance : Has Block World where
  get := World.block
  set block w := { w with block }
  get_set _ _ := rfl
  set_set _ _ _ := rfl

@[simp] theorem World.get_engine (w : World) : (Has.get w : YieldEngine.State) = w.engine := rfl

@[simp] theorem World.get_oracle (w : World) : (Has.get w : CDROracle.State) = w.oracle := rfl

@[simp] theorem World.set_oracle (s : CDROracle.State) (w : World) :
    (Has.set s w : World) = ⟨w.engine, s, w.block⟩ := rfl

structure Deployment where
  vault : ContractAddress
  engine : ContractAddress
  oracle : ContractAddress
  engine_ne_vault : engine ≠ vault
  oracle_ne_vault : oracle ≠ vault
  oracle_ne_engine : oracle ≠ engine

/-- The engine and its oracle, with the vault, the registry and governance in the environment. -/
abbrev yielding (d : Deployment) : System World Call Reply where
  code := deployed [(d.engine, YieldEngine.entry d.engine), (d.oracle, CDROracle.entry)]
  enters _ request _ := request.sender ≠ d.engine ∧ request.sender ≠ d.oracle
  drift _ _ := False
  tick w w' := w'.engine = w.engine ∧ w'.oracle = w.oracle

/-! ## Runs in which every change leaves room for the product -/

/-- The rate that governance sets times the pool's value is a word, and so is the pool's rate times
the value after a deposit. -/
def Restrained (d : Deployment) (call : Call) (w : World) : Prop :=
  (∀ poolId rate, call.target = d.oracle → call.sender = w.oracle.governance →
    call.message = .cdrOracle (.updateYieldRate poolId rate) →
    rate.toNat * (w.oracle.poolMetrics poolId).tvl.toNat < 2 ^ 256) ∧
  ∀ poolId amount, call.target = d.engine → call.sender = w.engine.vaultManager →
    call.message = .yieldEngine (.onDeposit poolId amount) →
    (w.oracle.poolMetrics poolId).tvl.toNat + amount.toNat < 2 ^ 256 →
    (w.oracle.poolMetrics poolId).yieldRate.toNat *
      ((w.oracle.poolMetrics poolId).tvl.toNat + amount.toNat) < 2 ^ 256

abbrev restrained (d : Deployment) : System World Call Reply :=
  { yielding d with
    enters := fun depth request w => (yielding d).enters depth request w ∧ Restrained d request w }

structure Wired (d : Deployment) (w : World) : Prop where
  engineVault : w.engine.vaultManager = d.vault
  engineOracle : w.engine.cdrOracle = d.oracle
  oracleEngine : w.oracle.yieldEngine = d.engine

def Fits (metrics : PoolMetrics) : Prop := metrics.yieldRate.toNat * metrics.tvl.toNat < 2 ^ 256

structure Roomy (d : Deployment) (w : World) : Prop extends Wired d w where
  fits : ∀ poolId, Fits (w.oracle.poolMetrics poolId)

section Code
variable (d : Deployment)

theorem code_oracle (sender : ContractAddress) (message : Message) :
    (yielding d).code ⟨sender, d.oracle, message⟩ = some (CDROracle.entry sender message) := by
  simp [d.oracle_ne_engine]

theorem unserved {sender target : ContractAddress} {message : Message} {w : World}
    (engine : ∀ m, message ≠ .yieldEngine m) (oracle : ∀ m, message ≠ .cdrOracle m)
    (body : Entry World Reply) (found : (yielding d).code ⟨sender, target, message⟩ = some body) :
    ∃ reason, body.run w = .panic reason := by
  apply deployed_unserved _ body found
  intro server member
  simp only [List.mem_cons, List.not_mem_nil, or_false] at member
  rcases member with rfl | rfl
  · exact ⟨_, YieldEngine.entry_foreign _ _ engine⟩
  · exact ⟨_, CDROracle.entry_foreign _ oracle⟩

end Code

section Entries
variable (d : Deployment) (caller : ContractAddress)

/-- Whatever happens while a call waits, the invariant holds when the call goes on. -/
abbrev Always (_ _ : World) : Prop := True

abbrev KeepsRoomy {α : Type} (w : World) (code : Entry World α)
    (history : List (Crossing World Call Reply)) : Prop :=
  Safe (restrained d) (fun now => Roomy d now.state) Always
    (fun _ next => Roomy d next.state ∧ True) (code.run w) history

theorem Roomy.congr {w w' : World} (roomy : Roomy d w)
    (engineVault : w'.engine.vaultManager = w.engine.vaultManager)
    (engineOracle : w'.engine.cdrOracle = w.engine.cdrOracle)
    (oracleEngine : w'.oracle.yieldEngine = w.oracle.yieldEngine)
    (metrics : w'.oracle.poolMetrics = w.oracle.poolMetrics) : Roomy d w' := by
  refine ⟨⟨engineVault.trans roomy.engineVault, engineOracle.trans roomy.engineOracle,
    oracleEngine.trans roomy.oracleEngine⟩, ?_⟩
  rw [metrics]
  exact roomy.fits

theorem Roomy.write {w : World} (roomy : Roomy d w) (poolId : Felt252) (metrics : PoolMetrics)
    (event : CDROracle.Event) (fits : Fits metrics) :
    Roomy d ⟨w.engine, (w.oracle.writePoolMetrics poolId metrics).emit event, w.block⟩ := by
  refine ⟨⟨roomy.engineVault, roomy.engineOracle, roomy.oracleEngine⟩, ?_⟩
  intro other
  simp only [CDROracle.State.emit_poolMetrics, CDROracle.State.writePoolMetrics_poolMetrics]
  by_cases same : other = poolId
  · rw [same, Function.update_self]
    exact fits
  · rw [Function.update_of_ne same]
    exact roomy.fits other

theorem updateMetric_keepsRoomy (replace : PoolMetrics → PoolMetrics) (poolId : Felt252) (w : World)
    (history : List (Crossing World Call Reply)) (roomy : Roomy d w)
    (fits : caller = w.oracle.governance → Fits (replace (w.oracle.poolMetrics poolId))) :
    KeepsRoomy d w (CDROracle.updateMetric caller replace poolId) history := by
  apply CDROracle.safe_updateMetric
  intro authorized
  apply CDROracle.safe_storeMetrics
  exact ⟨roomy.write d poolId _ _ (fits authorized), trivial⟩

theorem updatePoolMetrics_keepsRoomy (poolId : Felt252) (amount : U256) (isDeposit : Bool) (w : World)
    (history : List (Crossing World Call Reply)) (roomy : Roomy d w) (outside : caller ≠ d.engine) :
    KeepsRoomy d w (CDROracle.updatePoolMetrics caller poolId amount isDeposit) history := by
  apply CDROracle.safe_updatePoolMetrics
  intro authorized
  exact absurd (authorized.trans roomy.oracleEngine) outside

theorem oracle_keepsRoomy (message : Message) (w : World) (history : List (Crossing World Call Reply))
    (roomy : Roomy d w) (outside : caller ≠ d.engine)
    (rates : ∀ poolId rate, message = .cdrOracle (.updateYieldRate poolId rate) →
      caller = w.oracle.governance →
        rate.toNat * (w.oracle.poolMetrics poolId).tvl.toNat < 2 ^ 256) :
    KeepsRoomy d w (CDROracle.entry caller message) history := by
  unfold CDROracle.entry
  split
  · rename_i poolId amount isDeposit
    apply Safe.bind
    apply (updatePoolMetrics_keepsRoomy d caller poolId amount isDeposit w history roomy outside).weaken
    exact fun _ _ kept => .done kept
  · rename_i poolId volatility
    apply Safe.bind
    apply (updateMetric_keepsRoomy d caller (fun old => { old with volatility }) poolId w history
      roomy fun _ => roomy.fits poolId).weaken
    exact fun _ _ kept => .done kept
  · rename_i poolId rate
    apply Safe.bind
    apply (updateMetric_keepsRoomy d caller (fun old => { old with yieldRate := rate }) poolId w
      history roomy fun authorized => rates poolId rate rfl authorized).weaken
    exact fun _ _ kept => .done kept
  · apply Safe.bind
    apply CDROracle.safe_updateCorrelation
    intro _ _
    exact .done ⟨roomy.congr d rfl rfl rfl rfl, trivial⟩
  · exact .done ⟨roomy, trivial⟩
  · exact .done ⟨roomy, trivial⟩
  · apply Safe.bind
    apply CDROracle.safe_getPoolYield
    intro product _
    exact .done ⟨roomy, trivial⟩
  · exact .panic

theorem notifyOracle_keepsRoomy (isDeposit : Bool) (poolId : Felt252) (amount : U256) (w : World)
    (history : List (Crossing World Call Reply)) (roomy : Roomy d w)
    (deposits : isDeposit = true → caller = w.engine.vaultManager →
      (w.oracle.poolMetrics poolId).tvl.toNat + amount.toNat < 2 ^ 256 →
      (w.oracle.poolMetrics poolId).yieldRate.toNat *
        ((w.oracle.poolMetrics poolId).tvl.toNat + amount.toNat) < 2 ^ 256) :
    KeepsRoomy d w (YieldEngine.notifyOracle d.engine caller isDeposit poolId amount) history := by
  apply YieldEngine.safe_notifyOracle
  intro authorized
  rw [World.get_engine, roomy.engineOracle]
  apply Safe.sendIn (S := restrained d) (code_oracle d d.engine _)
  apply Safe.bind
  apply CDROracle.safe_updatePoolMetrics
  intro _ tvl tvl_eq
  refine .done ⟨roomy.write d poolId _ _ ?_, trivial⟩
  show (w.oracle.poolMetrics poolId).yieldRate.toNat * tvl.toNat < 2 ^ 256
  cases isDeposit with
  | true =>
      have sum : tvl.toNat = (w.oracle.poolMetrics poolId).tvl.toNat + amount.toNat := tvl_eq
      rw [sum]
      exact deposits rfl authorized (sum ▸ tvl.isLt)
  | false =>
      have difference : tvl.toNat + amount.toNat = (w.oracle.poolMetrics poolId).tvl.toNat := tvl_eq
      exact lt_of_le_of_lt (Nat.mul_le_mul_left _ (Nat.le.intro difference)) (roomy.fits poolId)

theorem rebalance_keepsRoomy (newWeights : CairoArray U256) (w : World)
    (history : List (Crossing World Call Reply)) (roomy : Roomy d w) :
    KeepsRoomy d w (YieldEngine.rebalance d.engine caller newWeights) history := by
  apply YieldEngine.safe_rebalance d.engine caller newWeights (fun _ _ _ now => Roomy d now)
  · exact fun _ => roomy
  · exact fun _ _ _ _ now _ _ filling _ _ => filling.congr d rfl rfl rfl rfl
  · intro _ i filled filling
    have written : Roomy d ⟨filled.engine.writeTotalWeights 100000, filled.oracle, filled.block⟩ :=
      filling.congr d rfl rfl rfl rfl
    apply Safe.send (S := restrained d) (unserved d (by simp) (by simp)) written
    intro _ executed executedRoomy _
    exact ⟨executedRoomy.congr d rfl rfl rfl rfl, trivial⟩

theorem harvestYield_keepsRoomy (poolId : Felt252) (w : World)
    (history : List (Crossing World Call Reply)) (roomy : Roomy d w) :
    KeepsRoomy d w (YieldEngine.harvestYield d.engine caller poolId) history := by
  apply YieldEngine.safe_harvestYield
  intro _
  rw [World.get_engine, roomy.engineOracle]
  apply Safe.sendIn (S := restrained d) (code_oracle d d.engine _)
  apply Safe.bind
  apply CDROracle.safe_getPoolYield
  intro product _
  apply Safe.done
  intro yieldAmount _ _
  constructor
  · exact fun _ => ⟨roomy, trivial⟩
  · intro _
    apply Safe.send (S := restrained d) (unserved d (by simp) (by simp)) roomy
    intro _ paid paidRoomy _
    exact ⟨paidRoomy.congr d rfl rfl rfl rfl, trivial⟩

theorem engine_keepsRoomy (message : Message) (w : World) (history : List (Crossing World Call Reply))
    (roomy : Roomy d w)
    (deposits : ∀ poolId amount, message = .yieldEngine (.onDeposit poolId amount) →
      caller = w.engine.vaultManager →
        (w.oracle.poolMetrics poolId).tvl.toNat + amount.toNat < 2 ^ 256 →
          (w.oracle.poolMetrics poolId).yieldRate.toNat *
            ((w.oracle.poolMetrics poolId).tvl.toNat + amount.toNat) < 2 ^ 256) :
    KeepsRoomy d w (YieldEngine.entry d.engine caller message) history := by
  unfold YieldEngine.entry
  split
  · rename_i newWeights
    apply Safe.bind
    apply (rebalance_keepsRoomy d caller newWeights w history roomy).weaken
    exact fun _ _ kept => .done kept
  · rename_i poolId
    apply Safe.bind
    apply (harvestYield_keepsRoomy d caller poolId w history roomy).weaken
    exact fun _ _ kept => .done kept
  · exact .done ⟨roomy, trivial⟩
  · exact .done ⟨roomy, trivial⟩
  · rename_i poolId amount
    apply Safe.bind
    apply (notifyOracle_keepsRoomy d caller true poolId amount w history roomy
      fun _ => deposits poolId amount rfl).weaken
    exact fun _ _ kept => .done kept
  · rename_i poolId amount
    apply Safe.bind
    apply (notifyOracle_keepsRoomy d caller false poolId amount w history roomy
      (by simp)).weaken
    exact fun _ _ kept => .done kept
  · exact .panic

theorem restrained_keepsRoomy :
    Certified (restrained d) (fun now => Roomy d now.state) Always Always where
  rely_refl _ := trivial
  rely_trans _ _ := trivial
  guarantee_trans _ _ := trivial
  resumed _ roomy := roomy
  enter {depth request body now} enters found roomy := by
    obtain ⟨⟨outsideEngine, -⟩, rates, deposits⟩ := enters
    simp only [deployed_cons, deployed_nil] at found
    split at found
    · rename_i target
      cases found
      exact engine_keepsRoomy d request.sender request.message _ _ roomy
        fun poolId amount message authorized => deposits poolId amount target authorized message
    · split at found
      · rename_i target
        cases found
        exact oracle_keepsRoomy d request.sender request.message _ _ roomy outsideEngine
          fun poolId rate message authorized => rates poolId rate target authorized message
      · contradiction
  nested _ _ := trivial
  drift _ impossible := impossible.elim
  tick {now w} roomy moves := by
    obtain ⟨engine, oracle⟩ := moves
    exact ⟨roomy.congr d (by rw [engine]) (by rw [engine]) (by rw [oracle]) (by rw [oracle]), trivial⟩

end Entries

/-! ## What the engine can rely on -/

/-- Yields are told, and a harvest of the registry's ends if the vault takes the yield. -/
structure Computes (d : Deployment) (w : World) : Prop where
  yields : ∀ caller poolId, ∃ amount lastUpdate,
    (CDROracle.entry caller (.cdrOracle (.getPoolYield poolId)) : Entry World Reply).run w =
      .done (.poolYield amount lastUpdate) w
  harvests : ∀ (answer : Call → Option Reply) poolId,
    (∀ amount, ∃ reply,
      answer ⟨d.engine, d.vault, .vaultManager (.distributeYield poolId amount)⟩ = some reply) →
    ∃ sent result, Ends (yielding d) (quiet answer)
      ((YieldEngine.entry d.engine w.engine.strategyRegistry (.yieldEngine (.harvestYield poolId)) :
        Entry World Reply).run w) sent (some result)

section Computes
variable (d : Deployment) {w : World}

theorem Fits.checkedMul {metrics : PoolMetrics} (fits : Fits metrics) :
    checkedMul metrics.yieldRate metrics.tvl = some (metrics.yieldRate * metrics.tvl) := if_pos fits

theorem Fits.getPoolYield (caller : ContractAddress) (poolId : Felt252)
    (fits : Fits (w.oracle.poolMetrics poolId)) :
    (CDROracle.entry caller (.cdrOracle (.getPoolYield poolId)) : Entry World Reply).run w =
      .done (.poolYield ((w.oracle.poolMetrics poolId).yieldRate *
        (w.oracle.poolMetrics poolId).tvl / 100000) (w.oracle.poolMetrics poolId).lastUpdate) w := by
  have product := fits.checkedMul
  simp [CDROracle.entry, CDROracle.getPoolYield, U256.mul, product, pure]

def distribute (poolId : Felt252) (yieldAmount : U256) : Entry World Unit := do
  if 0 < yieldAmount then
    let vaultManager := (← Code.load YieldEngine.State).vaultManager
    let _ ← Code.send ⟨d.engine, vaultManager, .vaultManager (.distributeYield poolId yieldAmount)⟩
    Code.update (YieldEngine.State.emit · (.yieldHarvested poolId yieldAmount))

theorem Wired.distribute (wired : Wired d w) {answer : Call → Option Reply} {poolId : Felt252}
    {yieldAmount : U256} {reply : Reply}
    (pays : answer ⟨d.engine, d.vault, .vaultManager (.distributeYield poolId yieldAmount)⟩ = some reply) :
    ∃ sent result, Ends (yielding d) (quiet answer)
      ((distribute d poolId yieldAmount >>= fun _ => pure .unit : Entry World Reply).run w)
      sent (some result) := by
  unfold Yields.distribute
  split
  · apply Exists.intro
    apply Exists.intro
    apply Ends.assoc
    apply Ends.load
    rw [World.get_engine, wired.engineVault]
    apply Ends.assoc
    have outside : (yielding d).code
        ⟨d.engine, d.vault, .vaultManager (.distributeYield poolId yieldAmount)⟩ = none := by
      simp [d.engine_ne_vault.symm, d.oracle_ne_vault.symm]
    apply Ends.send outside (Ends.quiet_some.mpr ⟨pays, rfl⟩)
    apply Ends.update
    exact .done
  · exact ⟨_, _, .done⟩

theorem Roomy.harvestYield (roomy : Roomy d w) (answer : Call → Option Reply) (poolId : Felt252)
    (paid : ∀ amount, ∃ reply,
      answer ⟨d.engine, d.vault, .vaultManager (.distributeYield poolId amount)⟩ = some reply) :
    ∃ sent result, Ends (yielding d) (quiet answer)
      ((YieldEngine.entry d.engine w.engine.strategyRegistry (.yieldEngine (.harvestYield poolId)) :
        Entry World Reply).run w) sent (some result) := by
  obtain ⟨reply, pays⟩ := paid
    ((w.oracle.poolMetrics poolId).yieldRate * (w.oracle.poolMetrics poolId).tvl / 100000)
  obtain ⟨sent, result, ends⟩ := roomy.distribute d pays
  refine ⟨sent, result, ?_⟩
  apply Ends.assoc
  apply Ends.load
  apply Ends.assoc
  apply Ends.require rfl
  apply Ends.assoc
  apply Ends.load
  rw [World.get_engine, roomy.engineOracle]
  apply Ends.assoc
  apply Ends.sendIn (code_oracle d d.engine _)
  rw [Code.run_bind, (roomy.fits poolId).getPoolYield d.engine poolId]
  exact ends

theorem Roomy.computes (roomy : Roomy d w) : Computes d w where
  yields caller poolId := ⟨_, _, (roomy.fits poolId).getPoolYield caller poolId⟩
  harvests answer poolId paid := roomy.harvestYield d answer poolId paid

end Computes

theorem constructor_roomy (d : Deployment) (strategyRegistry governance governance' : ContractAddress)
    (block : Block) :
    Roomy d ⟨YieldEngine.constructor d.vault d.oracle strategyRegistry governance,
      CDROracle.constructor d.engine governance', block⟩ := by
  refine ⟨⟨rfl, rfl, rfl⟩, ?_⟩
  intro poolId
  show PoolMetrics.zero.yieldRate.toNat * PoolMetrics.zero.tvl.toNat < 2 ^ 256
  decide

/-- Yields are computed in every state of a run in which every rate that governance sets and every
deposit leave room for the product. -/
theorem yields_compute (d : Deployment) (strategyRegistry governance governance' : ContractAddress)
    (block : Block) {config : Config World Call Reply}
    (reaches : (restrained d).Reaches
      (.initial ⟨YieldEngine.constructor d.vault d.oracle strategyRegistry governance,
        CDROracle.constructor d.engine governance', block⟩) config) :
    Computes d config.now.state :=
  Roomy.computes d ((restrained_keepsRoomy d).invariant rfl
    (constructor_roomy d strategyRegistry governance governance' block) reaches)

def deployment : Deployment := ⟨1, 2, 3, by decide, by decide, by decide⟩

theorem yields_compute_deposited : ∃ config : Config World Call Reply,
    (config.now.state.oracle.poolMetrics 0).yieldRate = 5000 ∧
    (config.now.state.oracle.poolMetrics 0).tvl = 300 ∧ Computes deployment config.now.state := by
  -- governance sets a rate of five percent, and the vault reports a deposit
  have run := ((restrained deployment).start ⟨YieldEngine.constructor 1 3 4 5, CDROracle.constructor 2 6,
    ⟨1⟩⟩).enter ⟨6, 3, .cdrOracle (.updateYieldRate 0 5000)⟩
    (by
      refine ⟨by decide, ?_, ?_⟩
      · intro _ _ _ _ message
        cases message
        decide
      · intro _ _ _ _ message
        cases message) rfl 1 rfl
  have run := run.enter ⟨1, 2, .yieldEngine (.onDeposit 0 300)⟩
    (by
      refine ⟨by decide, ?_, ?_⟩
      · intro _ _ _ _ message
        cases message
      · intro _ _ _ _ message
        cases message
        decide) rfl 2 rfl
  exact ⟨_, rfl, rfl, yields_compute deployment 4 5 6 ⟨1⟩ run⟩

/-- Governance sets a rate that a deposit of two makes too large: nobody can harvest the pool. -/
theorem harvest_overflows : ∃ config : Config World Call Reply,
    (yielding deployment).Reaches (.initial ⟨YieldEngine.constructor 1 3 4 5, CDROracle.constructor 2 6,
      ⟨1⟩⟩) config ∧
    (CDROracle.entry 7 (.cdrOracle (.getPoolYield 0)) : Entry World Reply).run config.now.state =
      .panic "u256_mul Overflow" ∧
    Ends (yielding deployment) (quiet fun _ => some .unit)
      ((YieldEngine.entry 2 4 (.yieldEngine (.harvestYield 0)) : Entry World Reply).run config.now.state)
      [] none ∧
    ¬ Computes deployment config.now.state := by
  have run := ((yielding deployment).start ⟨YieldEngine.constructor 1 3 4 5, CDROracle.constructor 2 6,
    ⟨1⟩⟩).enter ⟨6, 3, .cdrOracle (.updateYieldRate 0 (.ofNat 256 (2 ^ 255)))⟩ (by decide) rfl 1 rfl
  have run := run.enter ⟨1, 2, .yieldEngine (.onDeposit 0 2)⟩ (by decide) rfl 2 rfl
  refine ⟨_, run, rfl, System.endsFor_sound _ 2 rfl, ?_⟩
  intro computes
  obtain ⟨amount, lastUpdate, told⟩ := computes.yields 7 0
  cases told

end Kanaka.Proof.Pools.Yields
