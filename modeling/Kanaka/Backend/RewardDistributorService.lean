import Kanaka.Async.Pool
import Kanaka.Backend.ErrorHandler
import Kanaka.Backend.Text
import Kanaka.Store.Table

/-! # `reward-distributor.service.ts` -/

namespace Kanaka.Backend.RewardDistributorService
open Kanaka.Async Contracts

/-- `amount` is a `decimal(36, 0)` column, read and written through `BigInt`. -/
structure Reward where
  id : Nat
  user : ContractAddress
  amount : Int
  reason : String
  claimed : Bool
deriving DecidableEq

structure Store where
  rewards : Table Reward.id
  /-- What the contract answers to `get_rewards`. -/
  onChain : ContractAddress → Int

inductive Op where
  | saveReward (reward : Reward)
  | updateClaimed (user : ContractAddress)
  | findRewards (user : ContractAddress) (includeHistory : Bool)
  | callGetRewards (user : ContractAddress)
deriving DecidableEq

abbrev Reply : Op → Type
  | .saveReward _ | .updateClaimed _ => Unit
  | .findRewards _ _ => List Reward
  | .callGetRewards _ => Int

abbrev Async := Task Op Reply JsError

def perform (op : Op) : Async (Reply op) := Task.perform op

/-! ## Event handlers -/

/-- `create` leaves the `id` at its initial value. -/
def onRewardDistributed (user : ContractAddress) (amount : U256) (reason : Felt252) : Async Unit :=
  Task.tryCatch (perform (.saveReward ⟨0, user, amount.toNat, idText reason, false⟩)) fun _ => pure ()

def onRewardClaimed (user : ContractAddress) : Async Unit :=
  Task.tryCatch (perform (.updateClaimed user)) fun _ => pure ()

/-! ## Queries -/

structure UserRewards where
  rewards : List Reward
  onChainRewards : String
  totalUnclaimed : Int
deriving DecidableEq

def getRewards (user : ContractAddress) : Async String :=
  Task.tryCatch (do
    let rewards ← perform (.callGetRewards user)
    return toString rewards) fun error => .fail error.asError

def totalUnclaimed (rewards : List Reward) : Int :=
  (rewards.filter fun reward => !reward.claimed).foldl (fun sum reward => sum + reward.amount) 0

def getUserRewards (user : ContractAddress) (includeHistory : Bool) : Async UserRewards :=
  Task.tryCatch (do
    let rewards ← perform (.findRewards user includeHistory)
    -- Get on-chain rewards as well
    let onChainRewards ← Task.tryCatch (getRewards user) fun _ => pure "0"
    return ⟨rewards, onChainRewards, totalUnclaimed rewards⟩) fun error => .fail error.asError

/-! ## The service -/

inductive Call where
  | rewardDistributed (user : ContractAddress) (amount : U256) (reason : Felt252)
  | rewardClaimed (user : ContractAddress)
  | getUserRewards (user : ContractAddress) (includeHistory : Bool)

inductive Value where
  | unit
  | userRewards (value : UserRewards)

def body : Call → Async Value
  | .rewardDistributed user amount reason => do
      onRewardDistributed user amount reason
      return .unit
  | .rewardClaimed user => do
      onRewardClaimed user
      return .unit
  | .getUserRewards user includeHistory => do
      return .userRewards (← getUserRewards user includeHistory)

namespace Service

/-- A row with a new `id` is inserted, and the database numbers it. -/
def saveReward (rewards : Table Reward.id) (reward : Reward) : Table Reward.id :=
  match rewards.find reward.id with
  | some _ => rewards.save reward
  | none => rewards.insert (fun id => { reward with id }) fun _ => rfl

def updateClaimed (rewards : Table Reward.id) (user : ContractAddress) : Table Reward.id :=
  rewards.change (fun reward =>
    if reward.user = user ∧ reward.claimed = false then { reward with claimed := true } else reward)
    fun reward => by split <;> rfl

def perform : (op : Op) → Store → Reply op × Store
  | .saveReward reward, store => ((), { store with rewards := saveReward store.rewards reward })
  | .updateClaimed user, store => ((), { store with rewards := updateClaimed store.rewards user })
  | .findRewards user includeHistory, store =>
      -- the latest timestamp first
      ((store.rewards.rows.filter fun reward =>
        reward.user = user && (includeHistory || !reward.claimed)).reverse, store)
  | .callGetRewards user, store => (store.onChain user, store)

def failed : Op → Store → Option Store := fun _ store => some store

end Service

def service : Service Call Op Reply JsError Value Store where
  body := body
  perform := Service.perform
  failed := Service.failed
  drift before after := after.rewards = before.rewards

end Kanaka.Backend.RewardDistributorService
