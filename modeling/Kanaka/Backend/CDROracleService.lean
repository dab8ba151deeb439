import Kanaka.Async.Pool
import Kanaka.Backend.ErrorHandler
import Kanaka.Backend.Text
import Kanaka.Contracts.CDROracle
import Kanaka.Store.Table

/-! # `cdr-oracle.service.ts` -/

namespace Kanaka.Backend.CDROracleService
open Kanaka.Async Contracts

/-! ## Entities -/

structure PoolMetrics where
  poolId : String
  tvl : Int
  volatility : Int
  yieldRate : Int
  lastUpdate : Int
deriving DecidableEq

structure PoolCorrelation where
  poolA : String
  poolB : String
  correlation : Int
deriving DecidableEq

def PoolCorrelation.key (row : PoolCorrelation) : String × String := (row.poolA, row.poolB)

structure Store where
  poolMetrics : Table PoolMetrics.poolId
  poolCorrelations : Table PoolCorrelation.key
  now : Int

/-! ## Operations -/

inductive Op where
  | now
  | findMetrics (poolId : String)
  | saveMetrics (row : PoolMetrics)
  | findCorrelation (poolA poolB : String)
  | saveCorrelation (row : PoolCorrelation)
deriving DecidableEq

abbrev Reply : Op → Type
  | .now => Int
  | .findMetrics _ => Option PoolMetrics
  | .findCorrelation _ _ => Option PoolCorrelation
  | .saveMetrics _ | .saveCorrelation _ => Unit

abbrev Async := Task Op Reply JsError

def perform (op : Op) : Async (Reply op) := Task.perform op

/-! ## Event handlers -/

def onMetricsUpdated (poolId : Felt252) (tvl volatility yieldRate : U256) : Async Unit :=
  Task.tryCatch (do
    match ← perform (.findMetrics (idText poolId)) with
    | some metrics =>
        let now ← perform .now
        perform (.saveMetrics { metrics with
          tvl := tvl.toNat
          volatility := volatility.toNat
          yieldRate := yieldRate.toNat
          lastUpdate := now / 1000 })
    | none =>
        let now ← perform .now
        perform (.saveMetrics ⟨idText poolId, tvl.toNat, volatility.toNat, yieldRate.toNat, now / 1000⟩))
    fun _ => pure ()

def onCorrelationUpdated (poolA poolB : Felt252) (correlation : U256) : Async Unit :=
  Task.tryCatch (do
    match ← perform (.findCorrelation (idText poolA) (idText poolB)) with
    | some row => perform (.saveCorrelation { row with correlation := correlation.toNat })
    | none => perform (.saveCorrelation ⟨idText poolA, idText poolB, correlation.toNat⟩))
    fun _ => pure ()

def body : CDROracle.Event → Async Unit
  | .metricsUpdated poolId tvl volatility yieldRate => onMetricsUpdated poolId tvl volatility yieldRate
  | .correlationUpdated poolA poolB correlation => onCorrelationUpdated poolA poolB correlation

namespace Service

def perform : (op : Op) → Store → Reply op × Store
  | .now, store => (store.now, store)
  | .findMetrics poolId, store => (store.poolMetrics.find poolId, store)
  | .saveMetrics row, store => ((), { store with poolMetrics := store.poolMetrics.save row })
  | .findCorrelation poolA poolB, store => (store.poolCorrelations.find (poolA, poolB), store)
  | .saveCorrelation row, store =>
      ((), { store with poolCorrelations := store.poolCorrelations.save row })

/-- An operation that fails leaves the tables as they are; the clock does not fail. -/
def failed : Op → Store → Option Store
  | .now, _ => none
  | _, store => some store

end Service

def service : Service CDROracle.Event Op Reply JsError Unit Store where
  body := body
  perform := Service.perform
  failed := Service.failed
  drift before after := after.poolMetrics = before.poolMetrics ∧
    after.poolCorrelations = before.poolCorrelations

/-! ## Deliveries to the database of the migrations -/

/-- What a handler meets: the time, and the ids in the table of pools. -/
structure Moment where
  now : Int
  pools : List String

/-- The columns are `numeric(36,0)`, and `poolId` is a foreign key on `pools`. -/
def storable (moment : Moment) (row : PoolMetrics) : Bool :=
  row.tvl < 10 ^ 36 && row.volatility < 10 ^ 36 && row.yieldRate < 10 ^ 36 &&
    moment.pools.contains row.poolId

def serve (moment : Moment) : (op : Op) → Store → Except JsError (Reply op) × Store
  | .now, store => (.ok moment.now, store)
  | .saveMetrics row, store =>
      if storable moment row then
        (.ok (), { store with poolMetrics := store.poolMetrics.save row })
      else (.error (.ofMessage "QueryFailedError"), store)
  | .findMetrics poolId, store => (.ok (store.poolMetrics.find poolId), store)
  | .findCorrelation poolA poolB, store => (.ok (store.poolCorrelations.find (poolA, poolB)), store)
  | .saveCorrelation row, store =>
      (.ok (), { store with poolCorrelations := store.poolCorrelations.save row })

def deliver (store : Store) (delivery : CDROracle.Event × Moment) : Store :=
  ((body delivery.1).run (serve delivery.2) store).2

def deliverAll (deliveries : List (CDROracle.Event × Moment)) : Store :=
  deliveries.foldl deliver ⟨.empty, .empty, 0⟩

end Kanaka.Backend.CDROracleService
