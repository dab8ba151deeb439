import Kanaka.Async.Task
import Kanaka.Backend.ErrorHandler
import Mathlib.Data.Rat.Floor

/-! # `transaction.service.ts` -/

namespace Kanaka.Backend.TransactionService
open Kanaka.Async

inductive GasPriceStrategy where
  | fastest
  | fast
  | average
  | slow
  | custom
deriving DecidableEq

structure GasOptimizationOptions where
  strategy : GasPriceStrategy
  multiplier : Option Rat
  customGasPrice : Option String
  customMaxFeePerGas : Option String
  customMaxPriorityFeePerGas : Option String
  forceEIP1559 : Option Bool
  forceLegacy : Option Bool
deriving DecidableEq

/-- The options of a call over the configured defaults; a callback is told by its presence. -/
structure TransactionOptions where
  maxRetries : Option Int
  retryDelay : Option Nat
  gasMultiplier : Option Rat
  gasPriceMultiplier : Option Rat
  gasPriceStrategy : Option GasPriceStrategy
  customGasPrice : Option String
  customMaxFeePerGas : Option String
  customMaxPriorityFeePerGas : Option String
  forceEIP1559 : Option Bool
  forceLegacy : Option Bool
  confirmations : Option Nat
  skipSimulation : Bool
  useGasHistory : Bool
  onRetry : Bool
  onConfirmation : Bool
  metadata : List (String × String)

structure Request where
  contractName : String
  methodName : String
  args : List String
  privateKey : String
deriving DecidableEq

structure GasPriceData where
  type : Nat
  gasPrice : Option String
  maxFeePerGas : Option String
  maxPriorityFeePerGas : Option String
deriving DecidableEq

structure TxOptions where
  gasLimit : String
  maxFeePerGas : Option String
  maxPriorityFeePerGas : Option String
  gasPrice : Option String
deriving DecidableEq

structure Metadata where
  contractName : String
  methodName : String
  args : List String
  sender : String
  gasLimit : String
  gasPrice : GasPriceData
  further : List (String × String)
deriving DecidableEq

structure Receipt where
  blockNumber : Nat
  gasUsed : Nat
  effectiveGasPrice : Option Nat
  transactionHash : String
deriving DecidableEq

inductive TransactionStatus where
  | pending
  | confirming
  | confirmed
  | failed
deriving DecidableEq

structure Transaction where
  hash : String
  type : String
  status : TransactionStatus
  confirmations : Int
  error : String
  retryCount : Nat
  blockNumber : Nat
  gasUsed : String
  effectiveGasPrice : String
deriving DecidableEq

inductive Op where
  | getContractWithSigner (contractName privateKey : String)
  | getContract (contractName : String)
  | getProvider
  | getBlock
  | newWallet (privateKey : String)
  | estimateGas (request : Request)
  | populateTransaction (request : Request)
  | call (gasLimit : Int) (sender : Option String) (block : Nat)
  | estimateGasWithHistory (request : Request) (multiplier : Rat)
  | getOptimalGasPrice (options : GasOptimizationOptions)
  /-- `contract[methodName](...args, txOptions)`, which replies with the hash. -/
  | submit (request : Request) (txOptions : TxOptions)
  | getAddress
  | trackTransaction (hash type : String) (metadata : Metadata)
  | wait (hash : String) (confirmations : Nat)
  | getTransaction (hash : String)
  | updateTransactionStatus (transaction : Transaction)
  | recordGasUsage (contractName methodName : String) (gasUsed : Nat) (transactionHash : String)
  | onConfirmation (confirmations : Nat) (receipt : Receipt)
  | onRetry (error : JsError) (attempt : Nat)
  | setTimeout (delay : Nat)
deriving DecidableEq

abbrev Reply : Op → Type
  | .getBlock => Nat
  | .newWallet _ => String
  | .estimateGas _ => Nat
  | .call _ _ _ => String
  | .estimateGasWithHistory _ _ => String
  | .getOptimalGasPrice _ => GasPriceData
  | .submit _ _ => String
  | .getAddress => String
  | .wait _ _ => Receipt
  | .getTransaction _ => Option Transaction
  | _ => Unit

abbrev Async := Task Op Reply JsError

def perform (op : Op) : Async (Reply op) := Task.perform op

def Request.context (request : Request) : String :=
  request.contractName ++ "." ++ request.methodName

/-! ## The simulation -/

structure Simulation where
  success : Bool
  gasEstimate : String
  result : String

def simulationContract (request : Request) : Async Unit :=
  if request.privateKey ≠ "" then
    perform (.getContractWithSigner request.contractName request.privateKey)
  else
    perform (.getContract request.contractName)

def simulationSender (request : Request) : Async (Option String) :=
  if request.privateKey ≠ "" then some <$> perform (.newWallet request.privateKey)
  else return none

def runSimulation (request : Request) : Async Simulation := do
  simulationContract request
  perform .getProvider
  let block ← perform .getBlock
  let sender ← simulationSender request
  let gasEstimate ← perform (.estimateGas request)
  perform (.populateTransaction request)
  let result ← perform (.call ⌊(gasEstimate : Rat) * (6 / 5)⌋ sender block)
  return ⟨true, toString gasEstimate, result⟩

def simulateTransaction (request : Request) : Async Simulation :=
  (runSimulation request).tryCatch fun error => do
    let blockchainError ← Task.ofExcept
      (handleBlockchainError error ("simulateTransaction(" ++ request.context ++ ")"))
    .fail blockchainError.thrown

/-! ## One attempt -/

variable (request : Request) (opts : TransactionOptions)

def gasEstimation : Async String :=
  let multiplier := opts.gasMultiplier.getD (6 / 5)
  if opts.useGasHistory then
    -- Use historical gas data if available
    perform (.estimateGasWithHistory request multiplier)
  else do
    -- Standard gas estimation
    let estimate ← perform (.estimateGas request)
    return toString ⌊(estimate : Rat) * multiplier⌋

/-- What the gas estimation's own catch block makes of an error. -/
def fallbackGas (error : JsError) : Except JsError String := do
  let blockchainError ← handleBlockchainError error (request.context ++ " gas estimation")
  if blockchainError.type = .transactionReverted then throw blockchainError.thrown
  else return "1000000"

def gasOptimizationOptions : GasOptimizationOptions where
  strategy := opts.gasPriceStrategy.getD .fast
  multiplier := opts.gasPriceMultiplier
  customGasPrice := opts.customGasPrice
  customMaxFeePerGas := opts.customMaxFeePerGas
  customMaxPriorityFeePerGas := opts.customMaxPriorityFeePerGas
  forceEIP1559 := opts.forceEIP1559
  forceLegacy := opts.forceLegacy

def txOptions (gasLimit : String) (gasPriceData : GasPriceData) : TxOptions :=
  if gasPriceData.type = 2 then
    ⟨gasLimit, gasPriceData.maxFeePerGas, gasPriceData.maxPriorityFeePerGas, none⟩
  else
    ⟨gasLimit, none, none, gasPriceData.gasPrice⟩

def Transaction.withReceipt (transaction : Transaction) (receipt : Receipt) : Transaction :=
  { transaction with
    blockNumber := receipt.blockNumber
    gasUsed := toString receipt.gasUsed
    effectiveGasPrice := (receipt.effectiveGasPrice.map toString).getD "0" }

/-- Up to the submission. -/
def prepare : Async (String × GasPriceData) := do
  perform (.getContractWithSigner request.contractName request.privateKey)
  let gasEstimate ← (gasEstimation request opts).tryCatch fun error =>
    Task.ofExcept (fallbackGas request error)
  let gasPriceData ← perform (.getOptimalGasPrice (gasOptimizationOptions opts))
  return (gasEstimate, gasPriceData)

def updateTransaction (hash : String) (receipt : Receipt) : Async Unit := do
  match ← perform (.getTransaction hash) with
  | some updatedTx => perform (.updateTransactionStatus (updatedTx.withReceipt receipt))
  | none => return ()

def notifyConfirmation (receipt : Receipt) : Async Unit :=
  if opts.onConfirmation then perform (.onConfirmation (opts.confirmations.getD 1) receipt)
  else return ()

/-- From the hash of the submitted transaction on. -/
def follow (gasEstimate : String) (gasPriceData : GasPriceData) (hash : String) :
    Async Receipt := do
  let sender ← perform .getAddress
  perform (.trackTransaction hash request.context
    ⟨request.contractName, request.methodName, request.args, sender, gasEstimate, gasPriceData,
      opts.metadata⟩)
  -- Wait for the transaction to be mined with the specified confirmations
  let receipt ← perform (.wait hash (opts.confirmations.getD 1))
  updateTransaction hash receipt
  -- Record gas usage for future optimization
  perform (.recordGasUsage request.contractName request.methodName receipt.gasUsed
    receipt.transactionHash)
  notifyConfirmation opts receipt
  return receipt

def attemptTransaction : Async Receipt := do
  let (gasEstimate, gasPriceData) ← prepare request opts
  let hash ← perform (.submit request (txOptions gasEstimate gasPriceData))
  follow request opts gasEstimate gasPriceData hash

/-! ## The retry loop -/

def notifyRetry (error : JsError) (attempt : Nat) : Async Unit :=
  if opts.onRetry then perform (.onRetry error.asError attempt) else return ()

/-- The catch block of attempt number `attempt`: a retry or the structured error. -/
def afterFailure (error : JsError) (attempt : Nat) : Async Unit := do
  let blockchainError ← Task.ofExcept (handleBlockchainError error request.context)
  if attempt ≤ opts.maxRetries.getD 3 ∧ isRetryable blockchainError then do
    notifyRetry opts error attempt
    -- Wait before retrying with exponential backoff
    perform (.setTimeout (opts.retryDelay.getD 2000 * 2 ^ (attempt - 1)))
  else
    .fail blockchainError.thrown

/-- `while (attempt <= maxRetries)`, with the passes that are left. -/
def attempts : Nat → Nat → Option JsError → Async Receipt
  | 0, _, lastError => do
      let finalError ← Task.ofExcept
        (handleBlockchainError (lastError.getD (.ofMessage "Unknown error")) request.context)
      .fail finalError.thrown
  | remaining + 1, attempt, _ =>
      (attemptTransaction request opts).tryCatch fun error => do
        afterFailure request opts error (attempt + 1)
        attempts remaining (attempt + 1) (some error.asError)

def executeTransaction : Async Receipt := do
  if ¬ opts.skipSimulation then
    let _ ← simulateTransaction request
  attempts request opts (opts.maxRetries.getD 3 + 1).toNat 0 none

end Kanaka.Backend.TransactionService
