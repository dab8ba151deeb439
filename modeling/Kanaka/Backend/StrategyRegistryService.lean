import Kanaka.Async.Pool
import Kanaka.Backend.ErrorHandler
import Kanaka.Backend.Text
import Kanaka.Contracts.StrategyRegistry
import Kanaka.Store.Table

/-! # `strategy-registry.service.ts` -/

namespace Kanaka.Backend.StrategyRegistryService
open Kanaka.Async Contracts

/-! ## Entities -/

structure Pool where
  poolId : String
  token : ContractAddress
  strategy : ContractAddress
  active : Bool
  minDeposit : Int
  maxCapacity : Int
deriving DecidableEq

/-- `id` is a plain primary column: the database does not number the rows. -/
structure StrategyExecution where
  id : Nat
  poolId : String
  strategy : ContractAddress
  weight : Int
deriving DecidableEq

structure Store where
  pools : Table Pool.poolId
  strategyExecutions : Table StrategyExecution.id

def Store.empty : Store := ⟨.empty, .empty⟩

/-! ## Operations -/

inductive Op where
  | savePool (row : Pool)
  | updatePool (poolId : String) (active : Bool) (minDeposit maxCapacity : Int)
  | saveExecution (row : StrategyExecution)
deriving DecidableEq

abbrev Reply : Op → Type := fun _ => Unit

abbrev Async := Task Op Reply JsError

def perform (op : Op) : Async Unit := Task.perform op

/-! ## Event handlers -/

def onPoolAdded (poolId : Felt252) (token strategy : ContractAddress) : Async Unit :=
  Task.tryCatch (perform (.savePool ⟨idText poolId, token, strategy, true, 0, 0⟩)) fun _ => pure ()

def onPoolUpdated (poolId : Felt252) (active : Bool) (minDeposit maxCapacity : U256) : Async Unit :=
  Task.tryCatch (perform (.updatePool (idText poolId) active minDeposit.toNat maxCapacity.toNat))
    fun _ => pure ()

/-- `create` leaves the `id` at the initial value that the class gives it. -/
def onStrategyExecuted (poolId : Felt252) (strategy : ContractAddress) : Async Unit :=
  Task.tryCatch (perform (.saveExecution ⟨0, idText poolId, strategy, 0⟩)) fun _ => pure ()

def body : StrategyRegistry.Event → Async Unit
  | .poolAdded poolId token strategy => onPoolAdded poolId token strategy
  | .poolUpdated poolId active minDeposit maxCapacity =>
      onPoolUpdated poolId active minDeposit maxCapacity
  | .strategyExecuted poolId strategy => onStrategyExecuted poolId strategy

/-! ## Views -/

/-- What `executeCall` makes of the contract's views, by the texts of their arguments. -/
structure Chain where
  getPool : String → Except JsError Contracts.Pool
  isValidDeposit : String → String → Except JsError Bool

structure PoolView where
  token : ContractAddress
  strategy : ContractAddress
  active : Bool
  minDeposit : String
  maxCapacity : String
deriving DecidableEq

def getPool (chain : Chain) (poolId : String) : Except JsError PoolView := do
  let pool ← chain.getPool poolId
  return {
    token := pool.token
    strategy := pool.strategy
    active := pool.active
    minDeposit := toString pool.minDeposit.toNat
    maxCapacity := toString pool.maxCapacity.toNat }

def isValidDeposit (chain : Chain) (poolId amount : String) : Except JsError Bool :=
  chain.isValidDeposit poolId amount

namespace Service

def updatePool (pools : Table Pool.poolId) (poolId : String) (active : Bool)
    (minDeposit maxCapacity : Int) : Table Pool.poolId :=
  pools.change (fun row =>
    if row.poolId = poolId then { row with active, minDeposit, maxCapacity } else row)
    fun row => by split <;> rfl

def perform : (op : Op) → Store → Reply op × Store
  | .savePool row, store => ((), { store with pools := store.pools.save row })
  | .updatePool poolId active minDeposit maxCapacity, store =>
      ((), { store with pools := updatePool store.pools poolId active minDeposit maxCapacity })
  | .saveExecution row, store =>
      ((), { store with strategyExecutions := store.strategyExecutions.save row })

def failed : Op → Store → Option Store := fun _ store => some store

end Service

def service : Service StrategyRegistry.Event Op Reply JsError Unit Store where
  body := body
  perform := Service.perform
  failed := Service.failed
  drift _ _ := False

end Kanaka.Backend.StrategyRegistryService
