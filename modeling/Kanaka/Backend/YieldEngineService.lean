import Kanaka.Async.Pool
import Kanaka.Backend.ErrorHandler
import Kanaka.Backend.Text
import Kanaka.Store.Table

/-! # `yield-engine.service.ts` -/

namespace Kanaka.Backend.YieldEngineService
open Kanaka.Async Contracts

structure PoolWeight where
  id : Nat
  poolId : String
  weight : String
deriving DecidableEq

/-- Which of the matching rows a `findOne` without an order returns. -/
structure FindOne where
  pick : List PoolWeight → Option PoolWeight
  mem : ∀ {rows row}, pick rows = some row → row ∈ rows
  isSome : ∀ {rows}, rows ≠ [] → (pick rows).isSome

def FindOne.first : FindOne where
  pick := List.head?
  mem := List.mem_of_head?
  isSome := List.isSome_head?.mpr

def FindOne.preferring (row : PoolWeight) : FindOne where
  pick rows := if row ∈ rows then some row else rows.head?
  mem := by
    intro rows other picked
    split at picked
    · rename_i member
      exact Option.some.inj picked ▸ member
    · exact List.mem_of_head? picked
  isSome := by
    intro rows nonempty
    split
    · rfl
    · exact List.isSome_head?.mpr nonempty

inductive Op where
  | saveWeight (poolId weight : String)
  | findWeight (poolId : String)
deriving DecidableEq

abbrev Reply : Op → Type
  | .saveWeight _ _ => Unit
  | .findWeight _ => Option PoolWeight

abbrev Async := Task Op Reply JsError

def perform (op : Op) : Async (Reply op) := Task.perform op

def saveWeights : Nat → List U256 → Async Unit
  | _, [] => pure ()
  | i, weight :: rest => do
      perform (.saveWeight (toString i) (toString weight.toNat))
      saveWeights (i + 1) rest

/-- An error is logged and thrown again. -/
def onRebalanced (newWeights : CairoArray U256) : Async Unit :=
  Task.tryCatch (saveWeights 0 newWeights.val) .fail

def getPoolWeight (poolId : Nat) : Async (Option String) :=
  Task.tryCatch (do
    let poolWeight ← perform (.findWeight (toString poolId))
    return (poolWeight.map (·.weight)).filter (· ≠ "")) .fail

inductive Call where
  | rebalanced (newWeights : CairoArray U256)
  | getPoolWeight (poolId : Nat)

inductive Value where
  | unit
  | weight (value : Option String)

def body : Call → Async Value
  | .rebalanced newWeights => do
      onRebalanced newWeights
      return .unit
  | .getPoolWeight poolId => do
      return .weight (← getPoolWeight poolId)

abbrev Store := Table PoolWeight.id

namespace Service

/-- The saved entity has no `id`, so that the row is inserted and numbered. -/
def perform (findOne : FindOne) : (op : Op) → Store → Reply op × Store
  | .saveWeight poolId weight, store =>
      ((), store.insert (fun id => ⟨id, poolId, weight⟩) fun _ => rfl)
  | .findWeight poolId, store =>
      (findOne.pick (store.rows.filter fun row => row.poolId = poolId), store)

def failed : Op → Store → Option Store := fun _ store => some store

end Service

def service (findOne : FindOne) : Service Call Op Reply JsError Value Store where
  body := body
  perform := Service.perform findOne
  failed := Service.failed
  drift _ _ := False

end Kanaka.Backend.YieldEngineService
