import Kanaka.Backend.GasOptimizerService
import Mathlib.Data.List.Sort
import Mathlib.Logic.Function.Basic

/-! # The gas usage history of `gas-optimizer.service.ts` -/

namespace Kanaka.Backend.GasOptimizerService

structure GasUsageHistoryEntry where
  contractName : String
  methodName : String
  gasUsed : JsNumber
  timestamp : Int
  transactionHash : String
deriving DecidableEq

abbrev GasUsageHistory := String → Option (List GasUsageHistoryEntry)

def historyKey (contractName methodName : String) : String := contractName ++ "." ++ methodName

def GasUsageHistoryEntry.key (entry : GasUsageHistoryEntry) : String :=
  historyKey entry.contractName entry.methodName

/-- `list.slice(start)`: a negative start counts from the end. -/
def slice {α : Type*} (start : Int) (list : List α) : List α :=
  list.drop (if start < 0 then list.length + start else start).toNat

def recordGasUsage (maxHistoryEntries : Int) (gasUsageHistory : GasUsageHistory)
    (entry : GasUsageHistoryEntry) : GasUsageHistory :=
  let history := (gasUsageHistory entry.key).getD [] ++ [entry]
  -- Limit history size
  let history :=
    if maxHistoryEntries < history.length then slice (-maxHistoryEntries) history else history
  Function.update gasUsageHistory entry.key (some history)

def getGasUsageHistory (gasUsageHistory : GasUsageHistory) (contractName methodName : String) :
    List GasUsageHistoryEntry :=
  (gasUsageHistory (historyKey contractName methodName)).getD []

/-! ## Estimates -/

def averageGas (history : List GasUsageHistoryEntry) : JsInteger :=
  let totalGas := history.foldl (fun sum entry => JsNumber.add sum entry.gasUsed) (.finite 0)
  (totalGas.divNat history.length).ceil

def withMultiplier (multiplier gas : JsNumber) : String := (gas.mul multiplier).ceil.toString

/-- `contractEstimate` is what the contract's own estimate is, once the contract is found. -/
def estimateGasWithHistory (gasUsageHistory : GasUsageHistory) (contractName methodName : String)
    (multiplier : JsNumber) (contractEstimate : Except JsError JsNumber) : Except JsError String :=
  let history := (gasUsageHistory (historyKey contractName methodName)).getD []
  if 0 < history.length then .ok (withMultiplier multiplier (averageGas history).toNumber)
  else withMultiplier multiplier <$> contractEstimate

/-! ## Statistics -/

structure GasUsageStats where
  min : JsNumber
  max : JsNumber
  avg : JsInteger
  median : JsNumber
  count : Nat
deriving DecidableEq

/-- `values.sort((a, b) => a - b)`: two values keep their order unless the second is less. -/
def sort (values : List JsNumber) : List JsNumber := values.insertionSort fun a b => ¬ b.lt a

def getGasUsageStats (arithmetic : JsNumber.Arithmetic) (gasUsageHistory : GasUsageHistory)
    (contractName methodName : String) : GasUsageStats :=
  let history := getGasUsageHistory gasUsageHistory contractName methodName
  if history.length = 0 then ⟨.finite 0, .finite 0, .finite 0, .finite 0, 0⟩
  else
    let gasValues := sort (history.map (·.gasUsed))
    let min := gasValues[0]?.getD (.finite 0)
    let max := gasValues[gasValues.length - 1]?.getD (.finite 0)
    let total := gasValues.foldl arithmetic.add (.finite 0)
    let avg := (arithmetic.divNat total gasValues.length).ceil
    let median := gasValues[gasValues.length / 2]?.getD (.finite 0)
    ⟨min, max, avg, median, history.length⟩

example : getGasUsageStats .doubles (fun _ => some ([90000, 21000, 50000, 21001].map fun gasUsed =>
    ⟨"Router", "swap", .finite gasUsed, 0, "0x1"⟩)) "Router" "swap" =
      ⟨.finite 21000, .finite 90000, .finite 45501, .finite 50000, 4⟩ := by decide +kernel

end Kanaka.Backend.GasOptimizerService
