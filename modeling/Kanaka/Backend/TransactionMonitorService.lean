import Kanaka.Async.Expand
import Kanaka.Async.Pool
import Kanaka.Backend.TransactionService
import Kanaka.Store.Table

/-!
# `transaction-monitor.service.ts`

With the two functions of `transaction.service.ts` that hand transactions to the monitor.
-/

namespace Kanaka.Backend.TransactionMonitorService
open Kanaka.Async TransactionService

structure Config where
  maxConfirmations : Int
  maxRetries : Int

structure ChainReceipt where
  status : Option Nat
  blockNumber : Option Nat
deriving DecidableEq

inductive Topic where
  | new
  | confirming
  | confirmed
  | failed
deriving DecidableEq

/-! ## Operations -/

inductive Op where
  | findOne (hash : String)
  | findPending
  | save (transaction : Transaction)
  | getTransactionReceipt (hash : String)
  | getCurrentBlockNumber
  | emit (topic : Topic) (transaction : Transaction)
  /-- An operation of `TransactionService` that is not the monitor's. -/
  | outside (op : TransactionService.Op)
deriving DecidableEq

abbrev Reply : Op → Type
  | .findOne _ => Option Transaction
  | .findPending => List Transaction
  | .getTransactionReceipt _ => Option ChainReceipt
  | .getCurrentBlockNumber => Nat
  | .outside op => TransactionService.Reply op
  | .save _ | .emit _ _ => Unit

abbrev Async := Task Op Reply JsError

def perform (op : Op) : Async (Reply op) := Task.perform op

/-! ## The status of a transaction -/

def errorMessage (error : JsError) : String := appended error.asError.message

def ChainReceipt.confirmations (receipt : ChainReceipt) (currentBlock : Nat) : Int :=
  match receipt.blockNumber with
  | some (mined + 1) => (currentBlock : Int) - (mined + 1) + 1
  | _ => 0

variable (config : Config) (transaction : Transaction)

def notMined : Transaction × Option Topic :=
  let retryCount := transaction.retryCount + 1
  if config.maxRetries < retryCount then
    ({ transaction with
      retryCount
      status := .failed
      error := "Transaction not found after maximum retries" }, some .failed)
  else
    ({ transaction with retryCount }, none)

def mined (receipt : ChainReceipt) (currentBlock : Nat) : Transaction × Option Topic :=
  let confirmations := receipt.confirmations currentBlock
  if receipt.status = some 1 then
    if config.maxConfirmations ≤ confirmations then
      ({ transaction with confirmations, status := .confirmed }, some .confirmed)
    else
      ({ transaction with confirmations, status := .confirming }, some .confirming)
  else
    ({ transaction with confirmations, status := .failed, error := "Transaction execution failed" },
      some .failed)

def notUpdated (error : JsError) : Transaction × Option Topic :=
  let retryCount := transaction.retryCount + 1
  if config.maxRetries < retryCount then
    ({ transaction with
      retryCount
      status := .failed
      error := "Error updating status: " ++ errorMessage error }, some .failed)
  else
    ({ transaction with retryCount }, none)

def lookUp : Async (Transaction × Option Topic) := do
  match ← perform (.getTransactionReceipt transaction.hash) with
  | none => return notMined config transaction
  | some receipt =>
      let currentBlock ← perform .getCurrentBlockNumber
      return mined config transaction receipt currentBlock

def announce (transaction : Transaction) : Option Topic → Async Unit
  | some topic => perform (.emit topic transaction)
  | none => pure ()

def store (updated : Transaction × Option Topic) : Async Unit := do
  announce updated.1 updated.2
  perform (.save updated.1)

/-- The catch block finds the transaction as the lookups have changed it. -/
def updateTransactionStatus : Async Unit := do
  match ← (lookUp config transaction).attempt with
  | .ok updated => (store updated).tryCatch fun error => store (notUpdated config updated.1 error)
  | .error error => store (notUpdated config transaction error)

/-! ## The monitor -/

def Transaction.created (hash type : String) : Transaction :=
  ⟨hash, type, .pending, 0, "", 0, 0, "", ""⟩

def trackTransaction (hash type : String) : Async Transaction := do
  match ← perform (.findOne hash) with
  | some existingTransaction => return existingTransaction
  | none =>
      let transaction := Transaction.created hash type
      perform (.save transaction)
      perform (.emit .new transaction)
      return transaction

def updateAll : List Transaction → Async Unit
  | [] => pure ()
  | transaction :: rest => do
      updateTransactionStatus config transaction
      updateAll rest

def checkPendingTransactions : Async Unit := do
  let pendingTransactions ← perform .findPending
  updateAll config pendingTransactions

def getTransaction (hash : String) : Async (Option Transaction) := perform (.findOne hash)

/-! ## The callers in `transaction.service.ts` -/

/-- The monitor's part in an operation of `TransactionService`. -/
def monitored : (op : TransactionService.Op) → Async (TransactionService.Reply op)
  | .trackTransaction hash type _ => do
      let _ ← trackTransaction hash type
      return ()
  | .getTransaction hash => getTransaction hash
  | .updateTransactionStatus transaction => updateTransactionStatus config transaction
  | op => perform (.outside op)

def executeTransaction (request : Request) (opts : TransactionOptions) : Async Receipt :=
  (TransactionService.executeTransaction request opts).expand (monitored config)

def ensureTracked (txHash type : String) : Async Unit := do
  match ← getTransaction txHash with
  | some _ => pure ()
  | none => do
      let _ ← trackTransaction txHash type
      return ()

def updateFound (txHash : String) (change : Transaction → Transaction) : Async Unit := do
  match ← getTransaction txHash with
  | some tx => updateTransactionStatus config (change tx)
  | none => pure ()

def awaitTransaction (txHash : String) (confirmations : Nat) (type : String) : Async Receipt := do
  ensureTracked txHash type
  perform (.outside .getProvider)
  let receipt ← perform (.outside (.wait txHash confirmations))
  updateFound config txHash (·.withReceipt receipt)
  return receipt

/-- The error path: the row is handed over as failed. -/
def abandon (txHash : String) (error : JsError) : Async Receipt := do
  let blockchainError ← Task.ofExcept
    (handleBlockchainError error ("waitForTransaction(" ++ txHash ++ ")"))
  updateFound config txHash fun tx =>
    { tx with status := .failed, error := blockchainError.message }
  .fail blockchainError.thrown

def waitForTransaction (txHash : String) (confirmations : Nat) (type : String) : Async Receipt :=
  (awaitTransaction config txHash confirmations type).tryCatch (abandon config txHash)

inductive Call where
  | checkPendingTransactions
  | executeTransaction (request : Request) (opts : TransactionOptions)
  | waitForTransaction (txHash : String) (confirmations : Nat) (type : String)

def body : Call → Async Unit
  | .checkPendingTransactions => checkPendingTransactions config
  | .executeTransaction request opts => do
      let _ ← executeTransaction config request opts
      return ()
  | .waitForTransaction txHash confirmations type => do
      let _ ← waitForTransaction config txHash confirmations type
      return ()

/-! ## The service -/

structure World where
  receipt : String → Option ChainReceipt
  block : Nat
  reply : (op : TransactionService.Op) → TransactionService.Reply op

structure State where
  transactions : Table Transaction.hash
  emitted : List (Topic × Transaction)
  world : World

namespace Service

def perform : (op : Op) → State → Reply op × State
  | .findOne hash, s => (s.transactions.find hash, s)
  | .findPending, s =>
      (s.transactions.rows.filter fun row => row.status = .pending ∨ row.status = .confirming, s)
  | .save transaction, s => ((), { s with transactions := s.transactions.save transaction })
  | .getTransactionReceipt hash, s => (s.world.receipt hash, s)
  | .getCurrentBlockNumber, s => (s.world.block, s)
  | .emit topic transaction, s => ((), { s with emitted := s.emitted ++ [(topic, transaction)] })
  | .outside op, s => (s.world.reply op, s)

def failed : Op → State → Option State
  | .save _, _ | .emit _ _, _ => none
  | _, s => some s

end Service

def service : Service Call Op Reply JsError Unit State where
  body := body config
  perform := Service.perform
  failed := Service.failed
  drift s s' := s'.transactions = s.transactions ∧ s'.emitted = s.emitted

end Kanaka.Backend.TransactionMonitorService
