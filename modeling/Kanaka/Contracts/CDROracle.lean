import Kanaka.Contracts.Interface

/-! # `cdr_oracle.cairo` -/

namespace Kanaka.Contracts.CDROracle
open Machine Machine.Code

inductive Event where
  | metricsUpdated (poolId : Felt252) (tvl volatility yieldRate : U256)
  | correlationUpdated (poolA poolB : Felt252) (correlation : U256)
deriving DecidableEq

structure State where
  poolMetrics : LegacyMap Felt252 PoolMetrics
  correlations : LegacyMap (Felt252 × Felt252) U256
  yieldEngine : ContractAddress
  governance : ContractAddress
  events : List Event

def constructor (yieldEngineAddress governanceAddress : ContractAddress) : State where
  poolMetrics := fun _ => .zero
  correlations := fun _ => 0
  yieldEngine := yieldEngineAddress
  governance := governanceAddress
  events := []

namespace State
variable (s : State)

@[simps -fullyApplied] def writePoolMetrics (key : Felt252) (value : PoolMetrics) : State :=
  { s with poolMetrics := Function.update s.poolMetrics key value }

@[simps -fullyApplied] def writeCorrelations (key : Felt252 × Felt252) (value : U256) : State :=
  { s with correlations := Function.update s.correlations key value }

@[simps -fullyApplied] def emit (event : Event) : State :=
  { s with events := s.events ++ [event] }

end State

section
variable {σ : Type} [Has State σ] [Has Block σ] (caller : ContractAddress)

/-- The common end of the metric updates: stamp the metrics, store them and announce them. -/
def storeMetrics (poolId : Felt252) (metrics : PoolMetrics) : Entry σ Unit := do
  let timestamp ← getBlockTimestamp
  let metrics := { metrics with lastUpdate := timestamp }
  update (State.writePoolMetrics · poolId metrics)
  update (State.emit · (.metricsUpdated poolId metrics.tvl metrics.volatility metrics.yieldRate))

def updatePoolMetrics (poolId : Felt252) (amount : U256) (isDeposit : Bool) : Entry σ Unit := do
  let yieldEngine := (← load State).yieldEngine
  require (caller = yieldEngine) "UNAUTHORIZED"
  let metrics := (← load State).poolMetrics poolId
  let tvl ← if isDeposit then U256.add metrics.tvl amount else U256.sub metrics.tvl amount
  storeMetrics poolId { metrics with tvl := tvl }

/-- `update_volatility` and `update_yield_rate` replace one field of the metrics. -/
def updateMetric (replace : PoolMetrics → PoolMetrics) (poolId : Felt252) : Entry σ Unit := do
  let governance := (← load State).governance
  require (caller = governance) "UNAUTHORIZED"
  let metrics := (← load State).poolMetrics poolId
  storeMetrics poolId (replace metrics)

def updateVolatility (poolId : Felt252) (newVolatility : U256) : Entry σ Unit :=
  updateMetric caller (fun metrics => { metrics with volatility := newVolatility }) poolId

def updateYieldRate (poolId : Felt252) (newYieldRate : U256) : Entry σ Unit :=
  updateMetric caller (fun metrics => { metrics with yieldRate := newYieldRate }) poolId

def updateCorrelation (poolA poolB : Felt252) (correlation : U256) : Entry σ Unit := do
  let governance := (← load State).governance
  require (caller = governance) "UNAUTHORIZED"
  require (correlation ≤ 100000) "INVALID_CORRELATION"
  update (State.writeCorrelations · (poolA, poolB) correlation)
  update (State.writeCorrelations · (poolB, poolA) correlation)
  update (State.emit · (.correlationUpdated poolA poolB correlation))

def getPoolYield (poolId : Felt252) : Entry σ (U256 × U64) := do
  let metrics := (← load State).poolMetrics poolId
  let product ← U256.mul metrics.yieldRate metrics.tvl
  return (product / 100000, metrics.lastUpdate)

def entry : Message → Entry σ Reply
  | .cdrOracle (.updatePoolMetrics poolId amount isDeposit) => do
      updatePoolMetrics caller poolId amount isDeposit
      return .unit
  | .cdrOracle (.updateVolatility poolId newVolatility) => do
      updateVolatility caller poolId newVolatility
      return .unit
  | .cdrOracle (.updateYieldRate poolId newYieldRate) => do
      updateYieldRate caller poolId newYieldRate
      return .unit
  | .cdrOracle (.updateCorrelation poolA poolB correlation) => do
      updateCorrelation caller poolA poolB correlation
      return .unit
  | .cdrOracle (.getPoolMetrics poolId) => do
      return .poolMetrics ((← load State).poolMetrics poolId)
  | .cdrOracle (.getCorrelation poolA poolB) => do
      return .u256 ((← load State).correlations (poolA, poolB))
  | .cdrOracle (.getPoolYield poolId) => do
      let (amount, lastUpdate) ← getPoolYield poolId
      return .poolYield amount lastUpdate
  | _ => revert "ENTRYPOINT_NOT_FOUND"

variable {S : System σ Call Reply} {I : Snapshot σ Call Reply → Prop}
  {R : σ → σ → Prop} {Q : Snapshot σ Call Reply → Prop}
  {state : σ} {history : List (Crossing σ Call Reply)}

theorem safe_storeMetrics (poolId : Felt252) (metrics : PoolMetrics)
    (stored : Q ⟨Has.set (((Has.get state : State).writePoolMetrics poolId
      { metrics with lastUpdate := (Has.get state : Block).timestamp }).emit
      (.metricsUpdated poolId metrics.tvl metrics.volatility metrics.yieldRate)) state, history⟩) :
    Safe S I R (fun _ => Q) ((storeMetrics poolId metrics).run state) history := by
  apply safe_getBlockTimestamp
  apply Safe.update
  apply Safe.done
  rw [Has.get_set, Has.set_set]
  exact stored

theorem safe_updatePoolMetrics (poolId : Felt252) (amount : U256) (isDeposit : Bool)
    (stored : caller = (Has.get state : State).yieldEngine → ∀ tvl : U256,
      (if isDeposit then
        tvl.toNat = ((Has.get state : State).poolMetrics poolId).tvl.toNat + amount.toNat
      else tvl.toNat + amount.toNat = ((Has.get state : State).poolMetrics poolId).tvl.toNat) →
      Q ⟨Has.set (((Has.get state : State).writePoolMetrics poolId
        { (Has.get state : State).poolMetrics poolId with
          tvl, lastUpdate := (Has.get state : Block).timestamp }).emit
        (.metricsUpdated poolId tvl ((Has.get state : State).poolMetrics poolId).volatility
          ((Has.get state : State).poolMetrics poolId).yieldRate)) state, history⟩) :
    Safe S I R (fun _ => Q) ((updatePoolMetrics caller poolId amount isDeposit).run state)
      history := by
  apply Safe.load
  apply Safe.require
  intro authorized
  apply Safe.load
  cases isDeposit with
  | true =>
      apply safe_u256_add
      intro tvl tvl_eq
      exact safe_storeMetrics poolId _ (stored authorized tvl tvl_eq)
  | false =>
      apply safe_u256_sub
      intro tvl tvl_eq
      exact safe_storeMetrics poolId _ (stored authorized tvl tvl_eq)

theorem safe_updateMetric (replace : PoolMetrics → PoolMetrics) (poolId : Felt252)
    (stored : caller = (Has.get state : State).governance →
      Safe S I R (fun _ => Q)
        ((storeMetrics poolId (replace ((Has.get state : State).poolMetrics poolId))).run state)
        history) :
    Safe S I R (fun _ => Q) ((updateMetric caller replace poolId).run state) history := by
  apply Safe.load
  apply Safe.require
  intro authorized
  apply Safe.load
  exact stored authorized

omit [Has Block σ] in
theorem safe_updateCorrelation (poolA poolB : Felt252) (correlation : U256)
    (stored : caller = (Has.get state : State).governance → correlation ≤ 100000 →
      Q ⟨Has.set ((((Has.get state : State).writeCorrelations (poolA, poolB)
        correlation).writeCorrelations (poolB, poolA) correlation).emit
        (.correlationUpdated poolA poolB correlation)) state, history⟩) :
    Safe S I R (fun _ => Q) ((updateCorrelation caller poolA poolB correlation).run state)
      history := by
  apply Safe.load
  apply Safe.require
  intro authorized
  apply Safe.require
  intro bounded
  apply Safe.update
  apply Safe.update
  have post := stored authorized bounded
  apply Safe.done
  simp only [Has.get_set, Has.set_set]
  exact post

omit [Has Block σ] in
theorem safe_getPoolYield {Q : U256 × U64 → Snapshot σ Call Reply → Prop} (poolId : Felt252)
    (answer : ∀ product : U256,
      product.toNat = ((Has.get state : State).poolMetrics poolId).yieldRate.toNat *
        ((Has.get state : State).poolMetrics poolId).tvl.toNat →
      Q (product / 100000, ((Has.get state : State).poolMetrics poolId).lastUpdate)
        ⟨state, history⟩) :
    Safe S I R Q ((getPoolYield poolId).run state) history := by
  apply Safe.load
  apply Safe.orPanic
  intro product product_eq
  exact .done (answer product (checkedMul_eq_some.mp product_eq))

theorem safe_entry (message : Message) (views : Q ⟨state, history⟩)
    (notifications : ∀ poolId amount isDeposit,
      Safe S I R (fun _ => Q) ((updatePoolMetrics caller poolId amount isDeposit).run state) history)
    (metrics : ∀ replace poolId, (∀ old : PoolMetrics, (replace old).tvl = old.tvl) →
      Safe S I R (fun _ => Q) ((updateMetric caller replace poolId).run state) history)
    (correlations : ∀ poolA poolB correlation,
      Safe S I R (fun _ => Q) ((updateCorrelation caller poolA poolB correlation).run state)
        history) :
    Safe S I R (fun _ => Q) ((entry caller message).run state) history := by
  unfold entry
  split
  · exact Safe.bind ((notifications _ _ _).weaken fun _ _ post => .done post)
  · rename_i poolId newVolatility
    have safe := metrics (fun old => { old with volatility := newVolatility }) poolId fun _ => rfl
    exact Safe.bind (safe.weaken fun _ _ post => .done post)
  · rename_i poolId newYieldRate
    have safe := metrics (fun old => { old with yieldRate := newYieldRate }) poolId fun _ => rfl
    exact Safe.bind (safe.weaken fun _ _ post => .done post)
  · exact Safe.bind ((correlations _ _ _).weaken fun _ _ post => .done post)
  · exact .done views
  · exact .done views
  · apply Safe.bind
    apply safe_getPoolYield
    intro product _
    exact .done views
  · exact .panic

theorem entry_foreign {message : Message} (foreign : ∀ m, message ≠ .cdrOracle m) :
    (entry caller message).run state = .panic "ENTRYPOINT_NOT_FOUND" := by
  unfold entry
  split
  all_goals first | exact absurd rfl (foreign _) | rfl

end

end Kanaka.Contracts.CDROracle
