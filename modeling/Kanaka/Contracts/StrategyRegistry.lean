import Kanaka.Contracts.Interface

/-! # `strategy_registry.cairo` -/

namespace Kanaka.Contracts.StrategyRegistry
open Machine Machine.Code

inductive Event where
  | poolAdded (poolId : Felt252) (token strategy : ContractAddress)
  | poolUpdated (poolId : Felt252) (active : Bool) (minDeposit maxCapacity : U256)
  | strategyExecuted (poolId : Felt252) (strategy : ContractAddress)
deriving DecidableEq

structure State where
  pools : LegacyMap Felt252 Pool
  poolCount : Felt252
  vaultManager : ContractAddress
  yieldEngine : ContractAddress
  governance : ContractAddress
  events : List Event

def constructor (vaultManagerAddress yieldEngineAddress governanceAddress : ContractAddress) :
    State where
  pools := fun _ => .zero
  poolCount := 0
  vaultManager := vaultManagerAddress
  yieldEngine := yieldEngineAddress
  governance := governanceAddress
  events := []

namespace State
variable (s : State)

@[simps -fullyApplied] def writePools (key : Felt252) (value : Pool) : State :=
  { s with pools := Function.update s.pools key value }

@[simps -fullyApplied] def writePoolCount (value : Felt252) : State :=
  { s with poolCount := value }

@[simps -fullyApplied] def emit (event : Event) : State :=
  { s with events := s.events ++ [event] }

end State

section
variable {σ : Type} [Has State σ] (self caller : ContractAddress)

def addPool (token strategy : ContractAddress) (minDeposit maxCapacity : U256) :
    Entry σ Felt252 := do
  let governance := (← load State).governance
  require (caller = governance) "UNAUTHORIZED"
  require (token ≠ 0 ∧ strategy ≠ 0) "INVALID_ADDRESSES"
  let poolId := (← load State).poolCount
  let newPool : Pool := ⟨token, strategy, true, minDeposit, maxCapacity⟩
  update (State.writePools · poolId newPool)
  update (State.writePoolCount · (poolId + 1))
  -- Register pool with vault manager
  let vaultManager := (← load State).vaultManager
  let _ ← send ⟨self, vaultManager, .vaultManager (.addPool poolId token)⟩
  update (State.emit · (.poolAdded poolId token strategy))
  return poolId

def updatePool (poolId : Felt252) (active : Bool) (minDeposit maxCapacity : U256) :
    Entry σ Unit := do
  let governance := (← load State).governance
  require (caller = governance) "UNAUTHORIZED"
  let pool := (← load State).pools poolId
  require (pool.token ≠ 0) "INVALID_POOL"
  let pool := { pool with active, minDeposit, maxCapacity }
  update (State.writePools · poolId pool)
  update (State.emit · (.poolUpdated poolId active minDeposit maxCapacity))

/-- The loop of `execute_rebalance`, from index `i` on, with the weights that are left. -/
def executeLoop : List U256 → U32 → Entry σ Unit
  | [], _ => pure ()
  | weight :: rest, i => do
      let poolId := i.toFelt
      let pool := (← load State).pools poolId
      if pool.active then
        -- Execute strategy
        let _ ← send ⟨self, pool.strategy, .strategyExecute weight⟩
        update (State.emit · (.strategyExecuted poolId pool.strategy))
      let i ← U32.add i 1
      executeLoop rest i

def executeRebalance (newWeights : CairoArray U256) : Entry σ Unit := do
  let yieldEngine := (← load State).yieldEngine
  require (caller = yieldEngine) "UNAUTHORIZED"
  executeLoop self newWeights.val 0

def isValidDeposit (poolId : Felt252) (amount : U256) : Entry σ Bool := do
  let pool := (← load State).pools poolId
  return pool.active && decide (pool.minDeposit ≤ amount) && decide (amount ≤ pool.maxCapacity)

def entry : Message → Entry σ Reply
  | .strategyRegistry (.addPool token strategy minDeposit maxCapacity) => do
      let poolId ← addPool self caller token strategy minDeposit maxCapacity
      return .felt poolId
  | .strategyRegistry (.updatePool poolId active minDeposit maxCapacity) => do
      updatePool caller poolId active minDeposit maxCapacity
      return .unit
  | .strategyRegistry (.executeRebalance newWeights) => do
      executeRebalance self caller newWeights
      return .unit
  | .strategyRegistry (.getPool poolId) => do
      return .pool ((← load State).pools poolId)
  | .strategyRegistry .getPoolCount => do
      return .felt (← load State).poolCount
  | .strategyRegistry (.isValidDeposit poolId amount) => do
      return .bool (← isValidDeposit poolId amount)
  | _ => revert "ENTRYPOINT_NOT_FOUND"

variable {S : System σ Call Reply} {I : Snapshot σ Call Reply → Prop}
  {R : σ → σ → Prop} {Q : Snapshot σ Call Reply → Prop}
  {state : σ} {history : List (Crossing σ Call Reply)}

theorem safe_addPool {Q : Felt252 → Snapshot σ Call Reply → Prop} (token strategy : ContractAddress)
    (minDeposit maxCapacity : U256)
    (bind : caller = (Has.get state : State).governance → token ≠ 0 → strategy ≠ 0 →
      Safe S I R
        (fun _ bound => Q (Has.get state : State).poolCount
          ⟨Has.set ((Has.get bound.state : State).emit
            (.poolAdded (Has.get state : State).poolCount token strategy)) bound.state,
            bound.history⟩)
        ((send ⟨self, (Has.get state : State).vaultManager,
          .vaultManager (.addPool (Has.get state : State).poolCount token)⟩ : Entry σ Reply).run
          (Has.set (((Has.get state : State).writePools (Has.get state : State).poolCount
            ⟨token, strategy, true, minDeposit, maxCapacity⟩).writePoolCount
            ((Has.get state : State).poolCount + 1)) state)) history) :
    Safe S I R Q ((addPool self caller token strategy minDeposit maxCapacity).run state)
      history := by
  apply Safe.load
  apply Safe.require
  intro authorized
  apply Safe.require
  intro nonzero
  apply Safe.load
  apply Safe.update
  apply Safe.update
  apply Safe.load
  simp only [Has.get_set, Has.set_set, State.writePoolCount_vaultManager,
    State.writePools_vaultManager]
  apply Safe.bind
  apply (bind authorized nonzero.1 nonzero.2).weaken
  intro _ bound post
  exact .done post

theorem safe_updatePool (poolId : Felt252) (active : Bool) (minDeposit maxCapacity : U256)
    (updated : caller = (Has.get state : State).governance →
      ((Has.get state : State).pools poolId).token ≠ 0 →
      Q ⟨Has.set (((Has.get state : State).writePools poolId
          { (Has.get state : State).pools poolId with active, minDeposit, maxCapacity }).emit
          (.poolUpdated poolId active minDeposit maxCapacity)) state, history⟩) :
    Safe S I R (fun _ => Q) ((updatePool caller poolId active minDeposit maxCapacity).run state)
      history := by
  apply Safe.load
  apply Safe.require
  intro authorized
  apply Safe.load
  apply Safe.require
  intro known
  apply Safe.update
  have post := updated authorized known
  apply Safe.done
  rw [Has.get_set, Has.set_set]
  exact post

theorem safe_entry (message : Message) (views : Q ⟨state, history⟩)
    (additions : ∀ token strategy minDeposit maxCapacity,
      message = .strategyRegistry (.addPool token strategy minDeposit maxCapacity) →
      Safe S I R (fun _ => Q)
        ((addPool self caller token strategy minDeposit maxCapacity).run state) history)
    (updates : ∀ poolId active minDeposit maxCapacity,
      message = .strategyRegistry (.updatePool poolId active minDeposit maxCapacity) →
      Safe S I R (fun _ => Q)
        ((updatePool caller poolId active minDeposit maxCapacity).run state) history)
    (rebalances : ∀ newWeights,
      Safe S I R (fun _ => Q) ((executeRebalance self caller newWeights).run state) history) :
    Safe S I R (fun _ => Q) ((entry self caller message).run state) history := by
  unfold entry
  split
  · exact Safe.bind ((additions _ _ _ _ rfl).weaken fun _ _ post => .done post)
  · exact Safe.bind ((updates _ _ _ _ rfl).weaken fun _ _ post => .done post)
  · exact Safe.bind ((rebalances _).weaken fun _ _ post => .done post)
  · exact .done views
  · exact .done views
  · exact .done views
  · exact .panic

theorem entry_foreign {message : Message} (foreign : ∀ m, message ≠ .strategyRegistry m) :
    (entry self caller message).run state = .panic "ENTRYPOINT_NOT_FOUND" := by
  unfold entry
  split
  all_goals first | exact absurd rfl (foreign _) | rfl

theorem safe_executeRebalance (newWeights : CairoArray U256)
    (loop : caller = (Has.get state : State).yieldEngine →
      Safe S I R (fun _ => Q) ((executeLoop self newWeights.val 0).run state) history) :
    Safe S I R (fun _ => Q) ((executeRebalance self caller newWeights).run state) history := by
  apply Safe.load
  apply Safe.require
  exact loop

theorem safe_executeLoop (inv : σ → Prop)
    (served : ∀ s target weight body, S.code ⟨self, target, .strategyExecute weight⟩ = some body →
      ∃ reason, body.run s = .panic reason)
    (leave : ∀ s history request, inv s → I ⟨s, history ++ [.sent request s]⟩)
    (back : ∀ s now, inv s → I now → R s now.state → inv now.state)
    (emit : ∀ s poolId strategy, inv s →
      inv (Has.set ((Has.get s : State).emit (.strategyExecuted poolId strategy)) s))
    (last : ∀ s history, inv s → Q ⟨s, history⟩) (weights : List U256) (i : U32)
    (start : inv state) :
    Safe S I R (fun _ => Q) ((executeLoop self weights i).run state) history := by
  induction weights generalizing i state history with
  | nil => exact .done (last state history start)
  | cons weight rest ih =>
      apply Safe.load
      dsimp only
      split
      · apply Safe.bind
        apply Safe.send (served state _ weight) (leave state history _ start)
        intro _ executed executedOk related
        apply Safe.update
        apply safe_u32_add
        intro j _
        exact ih j (emit _ _ _ (back state executed start executedOk related))
      · apply safe_u32_add
        intro j _
        exact ih j start

end

end Kanaka.Contracts.StrategyRegistry
