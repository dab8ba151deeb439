import Kanaka.Async.Pool
import Kanaka.Backend.ErrorHandler
import Kanaka.Store.Table
import Mathlib.Data.Rat.Defs

/-! # `defi.service.ts` -/

namespace Kanaka.Backend.DefiService
open Kanaka.Async

/-! ## Entities -/

/-- `totalValue` is a `varchar` column, read and written through `BigInt`. -/
structure Pool where
  id : Nat
  totalValue : Int
deriving DecidableEq

inductive TransactionType where
  | deposit
  | withdraw
deriving DecidableEq

inductive TransactionStatus where
  | pending
  | completed
  | failed
deriving DecidableEq

structure Transaction where
  id : Nat
  userId : Nat
  poolId : Nat
  type : TransactionType
  amount : Rat
  transactionHash : String
  status : TransactionStatus
deriving DecidableEq

inductive DefiError where
  | notFound (message : String)
  | rangeError (amount : Rat)
  | thrown (error : JsError)
deriving DecidableEq

/-! ## Operations -/

inductive Op where
  | findPool (id : Nat)
  | savePool (pool : Pool)
  | findTransaction (transactionHash : String)
  | saveTransaction (transaction : Transaction)
  /-- `starknetService.deposit` or `withdraw`, which replies with the `transaction_hash`. -/
  | starknet (type : TransactionType) (walletAddress : String) (amount : Rat) (poolId : String)
  | broadcastPoolUpdate (poolId : String) (totalValueLocked : Int)
deriving DecidableEq

abbrev Reply : Op → Type
  | .findPool _ => Option Pool
  | .findTransaction _ => Option Transaction
  | .saveTransaction _ => Transaction
  | .starknet _ _ _ _ => String
  | .savePool _ | .broadcastPoolUpdate _ _ => Unit

abbrev Async := Task Op Reply DefiError

def perform (op : Op) : Async (Reply op) := Task.perform op

/-! ## The service's functions -/

def toBigInt (amount : Rat) : Except DefiError Int :=
  if amount.den = 1 then .ok amount.num else .error (.rangeError amount)

def TransactionType.apply : TransactionType → Int → Int → Int
  | .deposit, totalValue, amount => totalValue + amount
  | .withdraw, totalValue, amount => totalValue - amount

def getPool (id : Nat) : Async Pool := do
  match ← perform (.findPool id) with
  | some pool => return pool
  | none => .fail (.notFound "Pool not found")

/-- `deposit` and `withdraw`, which differ in the contract's method and in the sign. -/
def move (type : TransactionType) (userId poolId : Nat) (amount : Rat) (walletAddress : String) :
    Async Transaction := do
  let pool ← getPool poolId
  -- Call Starknet contract
  let transactionHash ← perform (.starknet type walletAddress amount (toString poolId))
  -- Create transaction record
  let transaction ← perform
    (.saveTransaction ⟨0, userId, pool.id, type, amount, transactionHash, .pending⟩)
  -- Update pool total value
  let change ← Task.ofExcept (toBigInt amount)
  let totalValue := type.apply pool.totalValue change
  perform (.savePool { pool with totalValue })
  -- Broadcast update via WebSocket
  perform (.broadcastPoolUpdate (toString poolId) totalValue)
  return transaction

def deposit := move .deposit

def withdraw := move .withdraw

def updateTransactionStatus (hash : String) (status : TransactionStatus) : Async Transaction := do
  match ← perform (.findTransaction hash) with
  | some transaction => perform (.saveTransaction { transaction with status })
  | none => .fail (.notFound "Transaction not found")

inductive Call where
  | deposit (userId poolId : Nat) (amount : Rat) (walletAddress : String)
  | withdraw (userId poolId : Nat) (amount : Rat) (walletAddress : String)
  /-- The status is `completed` or `failed`. -/
  | updateTransactionStatus (hash : String) (failed : Bool)
deriving DecidableEq

def outcome (failed : Bool) : TransactionStatus := if failed then .failed else .completed

def body : Call → Async Transaction
  | .deposit userId poolId amount walletAddress => deposit userId poolId amount walletAddress
  | .withdraw userId poolId amount walletAddress => withdraw userId poolId amount walletAddress
  | .updateTransactionStatus hash failed => updateTransactionStatus hash (outcome failed)

/-! ## The service -/

structure State where
  pools : Table Pool.id
  transactions : Table Transaction.id
  transactionHash : String

namespace Service

/-- A row with a new `id` is inserted, and the database numbers it. -/
def saveTransaction (transactions : Table Transaction.id) (transaction : Transaction) :
    Transaction × Table Transaction.id :=
  match transactions.find transaction.id with
  | some _ => (transaction, transactions.save transaction)
  | none => ({ transaction with id := transactions.serial },
      transactions.insert (fun id => { transaction with id }) fun _ => rfl)

def perform : (op : Op) → State → Reply op × State
  | .findPool id, s => (s.pools.find id, s)
  | .savePool pool, s => ((), { s with pools := s.pools.save pool })
  | .findTransaction transactionHash, s =>
      (s.transactions.rows.find? (·.transactionHash = transactionHash), s)
  | .saveTransaction transaction, s =>
      let saved := saveTransaction s.transactions transaction
      (saved.1, { s with transactions := saved.2 })
  | .starknet _ _ _ _, s => (s.transactionHash, s)
  | .broadcastPoolUpdate _ _, s => ((), s)

def failed : Op → State → Option State
  | .starknet _ _ _ _, s | .broadcastPoolUpdate _ _, s => some s
  | _, _ => none

end Service

def service : Service Call Op Reply DefiError Transaction State where
  body := body
  perform := Service.perform
  failed := Service.failed
  drift s s' := s'.pools = s.pools ∧ s'.transactions = s.transactions

end Kanaka.Backend.DefiService
