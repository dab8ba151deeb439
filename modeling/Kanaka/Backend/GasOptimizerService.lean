import Kanaka.Backend.JsNumber
import Kanaka.Backend.TransactionService

/-! # `gas-optimizer.service.ts` -/

namespace Kanaka.Backend.GasOptimizerService
open TransactionService (GasPriceStrategy)

structure GasPriceData where
  strategy : GasPriceStrategy
  gasPrice : Option String
  maxFeePerGas : Option String
  maxPriorityFeePerGas : Option String
  baseFeePerGas : Option String
  estimatedTimeInSeconds : Option Nat
  type : Nat
deriving DecidableEq

structure GasOptimizationOptions where
  strategy : Option GasPriceStrategy
  customGasPrice : Option String
  customMaxFeePerGas : Option String
  customMaxPriorityFeePerGas : Option String
  multiplier : Option JsNumber
  forceEIP1559 : Bool
  forceLegacy : Bool
deriving DecidableEq

structure Config where
  defaultStrategy : GasPriceStrategy
  defaultMultiplier : JsNumber
  cacheTTL : Int

/-! ## The provider -/

structure FeeData where
  maxFeePerGas : Option Int
  maxPriorityFeePerGas : Option Int
  lastBaseFeePerGas : Option Int

structure Provider where
  getProvider : Except JsError Unit
  getFeeData : Except JsError FeeData
  /-- The `baseFeePerGas` of the latest block. -/
  getBlock : Except JsError (Option Int)
  getGasPrice : Except JsError Int

def getBaseFeePerGas (provider : Provider) : Except JsError Int := do
  provider.getProvider
  match ← provider.getBlock with
  | some baseFeePerGas => return baseFeePerGas
  | none => do
      -- If the block doesn't have a base fee, estimate it from the gas price
      let gasPrice ← provider.getGasPrice
      return gasPrice.tdiv 2

def digitsValue (digits : List Char) : Except JsError Int :=
  if digits ≠ [] ∧ digits.all Char.isDigit then .ok (Nat.ofDigitChars 10 digits 0 : Nat)
  else
    .error { JsError.ofMessage "invalid BigNumber string" with
      code := some "INVALID_ARGUMENT"
      argument := some "value" }

/-- `ethers.BigNumber.from(value)`, of the decimal texts that prices are. -/
def bigNumber (value : String) : Except JsError Int :=
  match value.toList with
  | '-' :: digits => (- ·) <$> digitsValue digits
  | digits => digitsValue digits

/-! ## Fetching -/

def percentOf (percent value : Int) : Int := (value * percent).tdiv 100

def feeRecord (baseFee priorityFee : Int) (strategy : GasPriceStrategy) (seconds : Nat) :
    GasPriceData where
  strategy := strategy
  gasPrice := none
  maxFeePerGas := some (toString (baseFee + priorityFee))
  maxPriorityFeePerGas := some (toString priorityFee)
  baseFeePerGas := some (toString baseFee)
  estimatedTimeInSeconds := some seconds
  type := 2

def feeRecords (baseFee fastPriorityFee : Int) : List GasPriceData :=
  [feeRecord baseFee (percentOf 150 fastPriorityFee) .fastest 15,
    feeRecord baseFee fastPriorityFee .fast 30,
    feeRecord baseFee (percentOf 80 fastPriorityFee) .average 60,
    feeRecord baseFee (percentOf 50 fastPriorityFee) .slow 180]

def legacyRecord (gasPrice : Int) (strategy : GasPriceStrategy) (seconds : Nat) : GasPriceData where
  strategy := strategy
  gasPrice := some (toString gasPrice)
  maxFeePerGas := none
  maxPriorityFeePerGas := none
  baseFeePerGas := none
  estimatedTimeInSeconds := some seconds
  type := 0

def legacyRecords (fastGasPrice : Int) : List GasPriceData :=
  [legacyRecord (percentOf 150 fastGasPrice) .fastest 15,
    legacyRecord fastGasPrice .fast 30,
    legacyRecord (percentOf 80 fastGasPrice) .average 60,
    legacyRecord (percentOf 50 fastGasPrice) .slow 180]

def baseFeeOf (provider : Provider) : Option Int → Except JsError Int
  | some lastBaseFeePerGas => .ok lastBaseFeePerGas
  | none => getBaseFeePerGas provider

def fetchFeeData (provider : Provider) : Except JsError (Option (List GasPriceData)) := do
  let feeData ← provider.getFeeData
  match feeData.maxFeePerGas, feeData.maxPriorityFeePerGas with
  | some _, some maxPriorityFeePerGas => do
      let baseFee ← baseFeeOf provider feeData.lastBaseFeePerGas
      return some (feeRecords baseFee maxPriorityFeePerGas)
  | _, _ => return none

def fetch (provider : Provider) : Except JsError (List GasPriceData) := do
  provider.getProvider
  match fetchFeeData provider with
  | .ok (some records) => return records
  | _ =>
      -- Fall back to legacy gas price
      let gasPrice ← provider.getGasPrice
      return legacyRecords gasPrice

structure GasPriceCache where
  timestamp : Int
  data : List GasPriceData
deriving DecidableEq

def GasPriceCache.Valid (config : Config) (now : Int) (cache : GasPriceCache) : Prop :=
  0 < cache.timestamp ∧ now - cache.timestamp < config.cacheTTL

instance (config : Config) (now : Int) (cache : GasPriceCache) : Decidable (cache.Valid config now) := by
  unfold GasPriceCache.Valid
  infer_instance

structure Request where
  options : GasOptimizationOptions
  now : Int
  fetching : Provider
  converting : Provider

variable (config : Config) (request : Request)

def getGasPriceData (cache : GasPriceCache) : Except JsError (List GasPriceData) × GasPriceCache :=
  if cache.Valid config request.now then (.ok cache.data, cache)
  else
    match fetch request.fetching with
    | .ok data => (.ok data, ⟨request.now, data⟩)
    | .error error => (.error error, cache)

/-! ## One request -/

def customPrice (options : GasOptimizationOptions) : Option GasPriceData :=
  if truthy options.customGasPrice then
    some ⟨.custom, options.customGasPrice, none, none, none, none, 0⟩
  else if truthy options.customMaxFeePerGas ∧ truthy options.customMaxPriorityFeePerGas then
    some ⟨.custom, none, options.customMaxFeePerGas, options.customMaxPriorityFeePerGas, none, none, 2⟩
  else none

def strategy : GasPriceStrategy := request.options.strategy.getD config.defaultStrategy

def multiplier : JsNumber := JsNumber.or request.options.multiplier config.defaultMultiplier

def custom : Option GasPriceData :=
  if strategy config request = .custom then customPrice request.options else none

/-- Where the record of the strategy, or else that of `FAST`, is in the list. -/
def selected (strategy : GasPriceStrategy) (data : List GasPriceData) : Option (Fin data.length) :=
  (data.findFinIdx? (·.strategy = strategy)).or (data.findFinIdx? (·.strategy = .fast))

def applyMultiplier (multiplier : JsNumber) (value : String) : Except JsError String := do
  let bigValue ← bigNumber value
  return ((JsNumber.round bigValue).mul multiplier).ceil.toString

/-- The record is changed in place; an error leaves what was changed before it. -/
def multiplyFees (multiplier : JsNumber) (record : GasPriceData) : Except JsError Unit × GasPriceData :=
  match record.maxFeePerGas, record.maxPriorityFeePerGas with
  | some maxFeePerGas, some maxPriorityFeePerGas =>
      if maxFeePerGas ≠ "" ∧ maxPriorityFeePerGas ≠ "" then
        match applyMultiplier multiplier maxFeePerGas with
        | .error error => (.error error, record)
        | .ok multiplied =>
            let record := { record with maxFeePerGas := some multiplied }
            match applyMultiplier multiplier maxPriorityFeePerGas with
            | .error error => (.error error, record)
            | .ok multiplied => (.ok (), { record with maxPriorityFeePerGas := some multiplied })
      else (.error (.ofMessage missingFees), record)
  | _, _ => (.error (.ofMessage missingFees), record)
where
  missingFees := "Missing maxFeePerGas or maxPriorityFeePerGas for EIP-1559 transaction"

def multiplyGasPrice (multiplier : JsNumber) (record : GasPriceData) :
    Except JsError Unit × GasPriceData :=
  match record.gasPrice with
  | some gasPrice =>
      if gasPrice ≠ "" then
        match applyMultiplier multiplier gasPrice with
        | .error error => (.error error, record)
        | .ok multiplied => (.ok (), { record with gasPrice := some multiplied })
      else (.error (.ofMessage "Missing gasPrice for legacy transaction"), record)
  | none => (.error (.ofMessage "Missing gasPrice for legacy transaction"), record)

def multiply (multiplier : JsNumber) (record : GasPriceData) : Except JsError Unit × GasPriceData :=
  if multiplier = .finite 1 then (.ok (), record)
  else if record.type = 2 then multiplyFees multiplier record
  else multiplyGasPrice multiplier record

def toEIP1559 (provider : Provider) (record : GasPriceData) : Except JsError GasPriceData :=
  match record.gasPrice with
  | some gasPrice =>
      if gasPrice ≠ "" then do
        let price ← bigNumber gasPrice
        let baseFee ← getBaseFeePerGas provider
        return { record with
          maxFeePerGas := some (toString price)
          maxPriorityFeePerGas := some (toString (price - baseFee))
          baseFeePerGas := some (toString baseFee)
          type := 2
          gasPrice := none }
      else .error (.ofMessage "Missing gasPrice for conversion to EIP-1559")
  | none => .error (.ofMessage "Missing gasPrice for conversion to EIP-1559")

def toLegacy (record : GasPriceData) : Except JsError GasPriceData :=
  match record.maxFeePerGas with
  | some maxFeePerGas =>
      if maxFeePerGas ≠ "" then do
        let price ← bigNumber maxFeePerGas
        return { record with
          gasPrice := some (toString price)
          type := 0
          maxFeePerGas := none
          maxPriorityFeePerGas := none
          baseFeePerGas := none }
      else .error (.ofMessage "Missing maxFeePerGas for conversion to legacy")
  | none => .error (.ofMessage "Missing maxFeePerGas for conversion to legacy")

def convert (record : GasPriceData) : Except JsError GasPriceData :=
  if request.options.forceEIP1559 ∧ record.type = 0 then toEIP1559 request.converting record
  else if request.options.forceLegacy ∧ record.type = 2 then toLegacy record
  else .ok record

def adjust (record : GasPriceData) : Except JsError GasPriceData × GasPriceData :=
  match multiply (multiplier config request) record with
  | (.error error, record) => (.error error, record)
  | (.ok (), record) =>
      match convert request record with
      | .error error => (.error error, record)
      | .ok record => (.ok record, record)

def strategyName : GasPriceStrategy → String
  | .fastest => "fastest"
  | .fast => "fast"
  | .average => "average"
  | .slow => "slow"
  | .custom => "custom"

/-- The selected record is the cache's own, and is returned as it is. -/
def selectRecord (data : List GasPriceData) : Except JsError GasPriceData × List GasPriceData :=
  match selected (strategy config request) data with
  | none =>
      (.error (.ofMessage ("Could not find gas price for strategy: " ++
        strategyName (strategy config request))), data)
  | some place =>
      let (result, record) := adjust config request (data.get place)
      (result, data.set place record)

def getOptimalGasPrice (cache : GasPriceCache) : Except JsError GasPriceData × GasPriceCache :=
  match custom config request with
  | some price => (.ok price, cache)
  | none =>
      match getGasPriceData config request cache with
      | (.error error, cache) => (.error error, cache)
      | (.ok data, cache) =>
          let (result, data) := selectRecord config request data
          (result, { cache with data })

end Kanaka.Backend.GasOptimizerService
