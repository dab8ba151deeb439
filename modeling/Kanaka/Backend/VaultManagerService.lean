import Kanaka.Async.Sequence
import Kanaka.Backend.ErrorHandler
import Kanaka.Backend.Text
import Kanaka.Store.Table

/-! # `vault-manager.service.ts` -/

namespace Kanaka.Backend.VaultManagerService
open Kanaka.Async Contracts

/-! ## Entities -/

/-- `balance` is a `decimal(36, 0)` column, read and written through `BigInt`. -/
structure PoolBalance where
  poolId : String
  user : ContractAddress
  balance : Int
deriving DecidableEq

structure Pool where
  poolId : String
  token : ContractAddress
  totalSupply : Int
deriving DecidableEq

def PoolBalance.key (row : PoolBalance) : String × ContractAddress := (row.poolId, row.user)

structure Store where
  poolBalances : Table PoolBalance.key
  pools : Table Pool.poolId

def Store.empty : Store := ⟨.empty, .empty⟩

inductive Event where
  | deposit (user : ContractAddress) (poolId : Felt252) (amount : U256)
  | withdrawal (user : ContractAddress) (poolId : Felt252) (amount : U256)
  | poolAdded (poolId : Felt252) (token : ContractAddress)
deriving DecidableEq

/-! ## Operations -/

inductive Op where
  | findBalance (poolId : String) (user : ContractAddress)
  | saveBalance (row : PoolBalance)
  | findPool (poolId : String)
  | savePool (row : Pool)
deriving DecidableEq

abbrev Reply : Op → Type
  | .findBalance _ _ => Option PoolBalance
  | .findPool _ => Option Pool
  | .saveBalance _ | .savePool _ => Unit

abbrev Async := Task Op Reply JsError

def perform (op : Op) : Async (Reply op) := Task.perform op

/-! ## Event handlers -/

def updateTotalSupply (poolId : Felt252) (change : Int) : Async Unit := do
  match ← perform (.findPool (idText poolId)) with
  | some pool => perform (.savePool { pool with totalSupply := pool.totalSupply + change })
  | none => pure ()

/-- `Update pool balance` in the `Deposit` handler. -/
def addBalance (user : ContractAddress) (poolId : Felt252) (amount : U256) : Async Unit := do
  match ← perform (.findBalance (idText poolId) user) with
  | some balance =>
      perform (.saveBalance { balance with balance := balance.balance + amount.toNat })
  | none => perform (.saveBalance ⟨idText poolId, user, amount.toNat⟩)

/-- `Update pool balance` in the `Withdrawal` handler, which creates no row. -/
def subtractBalance (user : ContractAddress) (poolId : Felt252) (amount : U256) : Async Unit := do
  match ← perform (.findBalance (idText poolId) user) with
  | some balance =>
      perform (.saveBalance { balance with balance := balance.balance - amount.toNat })
  | none => pure ()

def onDeposit (user : ContractAddress) (poolId : Felt252) (amount : U256) : Async Unit :=
  Task.tryCatch (do
    addBalance user poolId amount
    updateTotalSupply poolId amount.toNat) fun _ => pure ()

def onWithdrawal (user : ContractAddress) (poolId : Felt252) (amount : U256) : Async Unit :=
  Task.tryCatch (do
    subtractBalance user poolId amount
    updateTotalSupply poolId (-amount.toNat)) fun _ => pure ()

def createPool (poolId : String) (token : ContractAddress) : Async Unit := do
  match ← perform (.findPool poolId) with
  | some _ => pure ()
  | none => perform (.savePool ⟨poolId, token, 0⟩)

def onPoolAdded (poolId : Felt252) (token : ContractAddress) : Async Unit :=
  Task.tryCatch (createPool (idText poolId) token) fun _ => pure ()

def body : Event → Async Unit
  | .deposit user poolId amount => onDeposit user poolId amount
  | .withdrawal user poolId amount => onWithdrawal user poolId amount
  | .poolAdded poolId token => onPoolAdded poolId token

/-- What `addPool` does once it has the receipt of its transaction; it takes the id as it is given. -/
def addPool (poolId : String) (token : ContractAddress) : Async Unit := createPool poolId token

namespace Service

def perform : (op : Op) → Store → Reply op × Store
  | .findBalance poolId user, store => (store.poolBalances.find (poolId, user), store)
  | .saveBalance row, store => ((), { store with poolBalances := store.poolBalances.save row })
  | .findPool poolId, store => (store.pools.find poolId, store)
  | .savePool row, store => ((), { store with pools := store.pools.save row })

def failed : Op → Store → Option Store := fun _ store => some store

end Service

def service : Service Event Op Reply JsError Unit Store where
  body := body
  perform := Service.perform
  failed := Service.failed
  drift _ _ := False

/-! ## The database of the migrations -/

/-- The columns are `numeric(36,0)`. -/
def fits (value : Int) : Bool := -10 ^ 36 < value && value < 10 ^ 36

/-- `poolId` is a foreign key on `pools`, where `strategy` has no default and a new row has none. -/
def storable (store : Store) : Op → Bool
  | .saveBalance row => fits row.balance && (store.pools.find row.poolId).isSome
  | .savePool row => fits row.totalSupply && (store.pools.find row.poolId).isSome
  | .findBalance _ _ | .findPool _ => true

def serve (op : Op) (store : Store) : Except JsError (Reply op) × Store :=
  if storable store op then service.answer op store
  else (.error (.ofMessage "QueryFailedError"), store)

def deliver (store : Store) (event : Event) : Store := ((body event).run serve store).2

end Kanaka.Backend.VaultManagerService
