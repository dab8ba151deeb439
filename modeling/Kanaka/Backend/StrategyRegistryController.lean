import Kanaka.Backend.StrategyRegistryService

/-! # `strategy-registry.controller.ts` -/

namespace Kanaka.Backend.StrategyRegistryController
open StrategyRegistryService (Chain PoolView)

structure HttpException where
  status : Nat
  error : String
  message : String
deriving DecidableEq

def badAmount : HttpException :=
  ⟨400, "Bad Request", "Amount must be a valid number in wei (no decimals)"⟩

def failedValidation (error : JsError) : HttpException :=
  ⟨500, "Failed to validate deposit", error.asError.message.getD ""⟩

structure Validity where
  isValid : Bool
  reason : Option String
deriving DecidableEq

def invalidReason (pool : PoolView) (amount : String) : Option String :=
  if bigInt amount < bigInt pool.minDeposit then
    some ("Amount is below minimum deposit of " ++ pool.minDeposit)
  else if pool.maxCapacity ≠ "0" ∧ bigInt pool.maxCapacity < bigInt amount then
    some ("Amount exceeds maximum capacity of " ++ pool.maxCapacity)
  else if ¬ pool.active then some "Pool is not active"
  else none

def isValidDeposit (chain : Chain) (poolId amount : String) : Except HttpException Validity :=
  match StrategyRegistryService.getPool chain poolId with
  | .error error => .error (failedValidation error)
  | .ok pool =>
      -- Validate amount format
      if ¬ isDigits amount then .error badAmount
      else
        match StrategyRegistryService.isValidDeposit chain poolId amount with
        | .error error => .error (failedValidation error)
        | .ok isValid => .ok ⟨isValid, if isValid then none else invalidReason pool amount⟩

end Kanaka.Backend.StrategyRegistryController
