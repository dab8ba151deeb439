import Kanaka.Contracts.Interface

/-! # `yield_engine.cairo` -/

namespace Kanaka.Contracts.YieldEngine
open Machine Machine.Code

inductive Event where
  | rebalanced (newWeights : CairoArray U256)
  | yieldHarvested (poolId : Felt252) (amount : U256)
deriving DecidableEq

structure State where
  poolWeights : LegacyMap Felt252 U256
  totalWeights : U256
  vaultManager : ContractAddress
  cdrOracle : ContractAddress
  strategyRegistry : ContractAddress
  governance : ContractAddress
  events : List Event

def constructor (vaultManagerAddress cdrOracleAddress strategyRegistryAddress
    governanceAddress : ContractAddress) : State where
  poolWeights := fun _ => 0
  totalWeights := 0
  vaultManager := vaultManagerAddress
  cdrOracle := cdrOracleAddress
  strategyRegistry := strategyRegistryAddress
  governance := governanceAddress
  events := []

namespace State
variable (s : State)

@[simps -fullyApplied] def writePoolWeights (key : Felt252) (value : U256) : State :=
  { s with poolWeights := Function.update s.poolWeights key value }

@[simps -fullyApplied] def writeTotalWeights (value : U256) : State :=
  { s with totalWeights := value }

@[simps -fullyApplied] def emit (event : Event) : State :=
  { s with events := s.events ++ [event] }

end State

section
variable {σ : Type} [Has State σ] (self caller : ContractAddress)

/-- The loop of `rebalance`, from index `i` on, with the weights that are left. -/
def rebalanceLoop : List U256 → U32 → U256 → Entry σ U256
  | [], _, total => pure total
  | weight :: rest, i, total => do
      update (State.writePoolWeights · i.toFelt weight)
      let total ← U256.add total weight
      let i ← U32.add i 1
      rebalanceLoop rest i total

def rebalance (newWeights : CairoArray U256) : Entry σ Unit := do
  let governance := (← load State).governance
  require (caller = governance) "UNAUTHORIZED"
  -- Validate and update weights
  let total ← rebalanceLoop newWeights.val 0 0
  require (total = 100000) "INVALID_WEIGHTS"
  update (State.writeTotalWeights · total)
  -- Execute rebalancing through strategy registry
  let strategyRegistry := (← load State).strategyRegistry
  let _ ← send ⟨self, strategyRegistry, .strategyRegistry (.executeRebalance newWeights)⟩
  update (State.emit · (.rebalanced newWeights))

def harvestYield (poolId : Felt252) : Entry σ Unit := do
  let strategyRegistry := (← load State).strategyRegistry
  require (caller = strategyRegistry) "UNAUTHORIZED"
  -- Get yield data from CDR Oracle
  let cdrOracle := (← load State).cdrOracle
  match ← send ⟨self, cdrOracle, .cdrOracle (.getPoolYield poolId)⟩ with
  | .poolYield yieldAmount _ =>
      if 0 < yieldAmount then
        -- Distribute yield through vault manager
        let vaultManager := (← load State).vaultManager
        let _ ← send ⟨self, vaultManager, .vaultManager (.distributeYield poolId yieldAmount)⟩
        update (State.emit · (.yieldHarvested poolId yieldAmount))
  | _ => revert "Failed to deserialize result"

/-- `on_deposit` and `on_withdrawal` differ in the flag they pass on. -/
def notifyOracle (isDeposit : Bool) (poolId : Felt252) (amount : U256) : Entry σ Unit := do
  let vaultManager := (← load State).vaultManager
  require (caller = vaultManager) "UNAUTHORIZED"
  -- Update CDR Oracle
  let cdrOracle := (← load State).cdrOracle
  let _ ← send ⟨self, cdrOracle, .cdrOracle (.updatePoolMetrics poolId amount isDeposit)⟩

def onDeposit (poolId : Felt252) (amount : U256) : Entry σ Unit :=
  notifyOracle self caller true poolId amount

def onWithdrawal (poolId : Felt252) (amount : U256) : Entry σ Unit :=
  notifyOracle self caller false poolId amount

def entry : Message → Entry σ Reply
  | .yieldEngine (.rebalance newWeights) => do
      rebalance self caller newWeights
      return .unit
  | .yieldEngine (.harvestYield poolId) => do
      harvestYield self caller poolId
      return .unit
  | .yieldEngine (.getPoolWeight poolId) => do
      return .u256 ((← load State).poolWeights poolId)
  | .yieldEngine .getTotalWeights => do
      return .u256 (← load State).totalWeights
  | .yieldEngine (.onDeposit poolId amount) => do
      onDeposit self caller poolId amount
      return .unit
  | .yieldEngine (.onWithdrawal poolId amount) => do
      onWithdrawal self caller poolId amount
      return .unit
  | _ => revert "ENTRYPOINT_NOT_FOUND"

variable {S : System σ Call Reply} {I : Snapshot σ Call Reply → Prop}
  {R : σ → σ → Prop} {Q : Snapshot σ Call Reply → Prop}
  {state : σ} {history : List (Crossing σ Call Reply)}

theorem safe_rebalanceLoop {α : Type} {Q : α → Snapshot σ Call Reply → Prop}
    {next : U256 → Entry σ α} (inv : List U256 → U32 → U256 → σ → Prop)
    (step : ∀ weight rest i total s j total', inv (weight :: rest) i total s →
      j.toNat = i.toNat + 1 → total'.toNat = total.toNat + weight.toNat →
      inv rest j total' (Has.set ((Has.get s : State).writePoolWeights i.toFelt weight) s))
    (last : ∀ i total s, inv [] i total s → Safe S I R Q ((next total).run s) history)
    {weights : List U256} {i : U32} {total : U256} (start : inv weights i total state) :
    Safe S I R Q ((rebalanceLoop weights i total >>= next).run state) history := by
  induction weights generalizing i total state with
  | nil => exact last i total state start
  | cons weight rest ih =>
      apply Safe.assoc
      apply Safe.update
      apply Safe.assoc
      apply safe_u256_add
      intro total' total_eq
      apply Safe.assoc
      apply safe_u32_add
      intro j j_eq
      exact ih (step weight rest i total state j total' start j_eq total_eq)

theorem safe_rebalance (newWeights : CairoArray U256) (inv : List U256 → U32 → U256 → σ → Prop)
    (start : caller = (Has.get state : State).governance → inv newWeights.val 0 0 state)
    (step : ∀ weight rest i total s j total', inv (weight :: rest) i total s →
      j.toNat = i.toNat + 1 → total'.toNat = total.toNat + weight.toNat →
      inv rest j total' (Has.set ((Has.get s : State).writePoolWeights i.toFelt weight) s))
    (execute : caller = (Has.get state : State).governance → ∀ i s, inv [] i 100000 s →
      Safe S I R
        (fun _ executed => Q ⟨Has.set ((Has.get executed.state : State).emit
          (.rebalanced newWeights)) executed.state, executed.history⟩)
        ((send ⟨self, (Has.get s : State).strategyRegistry,
          .strategyRegistry (.executeRebalance newWeights)⟩ : Entry σ Reply).run
          (Has.set ((Has.get s : State).writeTotalWeights 100000) s)) history) :
    Safe S I R (fun _ => Q) ((rebalance self caller newWeights).run state) history := by
  apply Safe.load
  apply Safe.require
  intro authorized
  apply safe_rebalanceLoop inv step _ (start authorized)
  intro i total s filled
  apply Safe.require
  intro total_eq
  subst total_eq
  apply Safe.update
  apply Safe.load
  rw [Has.get_set, State.writeTotalWeights_strategyRegistry]
  apply Safe.bind
  apply (execute authorized i s filled).weaken
  intro _ executed post
  exact .done post

theorem safe_harvestYield (poolId : Felt252)
    (ask : caller = (Has.get state : State).strategyRegistry →
      Safe S I R
        (fun reply asked => ∀ yieldAmount lastUpdate, reply = .poolYield yieldAmount lastUpdate →
          (yieldAmount ≤ 0 → Q asked) ∧
          (0 < yieldAmount →
            Safe S I R
              (fun _ paid => Q ⟨Has.set ((Has.get paid.state : State).emit
                (.yieldHarvested poolId yieldAmount)) paid.state, paid.history⟩)
              ((send ⟨self, (Has.get asked.state : State).vaultManager,
                .vaultManager (.distributeYield poolId yieldAmount)⟩ : Entry σ Reply).run
                asked.state) asked.history))
        ((send ⟨self, (Has.get state : State).cdrOracle, .cdrOracle (.getPoolYield poolId)⟩ :
          Entry σ Reply).run state) history) :
    Safe S I R (fun _ => Q) ((harvestYield self caller poolId).run state) history := by
  apply Safe.load
  apply Safe.require
  intro authorized
  apply Safe.load
  apply Safe.bind
  apply (ask authorized).weaken
  intro reply asked answered
  cases reply with
  | poolYield yieldAmount lastUpdate =>
      obtain ⟨nothing, distribute⟩ := answered yieldAmount lastUpdate rfl
      dsimp only
      split
      · rename_i positive
        apply Safe.load
        apply Safe.bind
        apply (distribute positive).weaken
        intro _ paid post
        exact .done post
      · rename_i zero
        exact .done (nothing (BitVec.not_lt.mp zero))
  | _ => exact .panic

theorem safe_notifyOracle (isDeposit : Bool) (poolId : Felt252) (amount : U256)
    (notify : caller = (Has.get state : State).vaultManager →
      Safe S I R (fun _ => Q)
        ((send ⟨self, (Has.get state : State).cdrOracle,
          .cdrOracle (.updatePoolMetrics poolId amount isDeposit)⟩ : Entry σ Reply).run state)
        history) :
    Safe S I R (fun _ => Q) ((notifyOracle self caller isDeposit poolId amount).run state)
      history := by
  apply Safe.load
  apply Safe.require
  intro authorized
  apply Safe.load
  apply Safe.bind
  apply (notify authorized).weaken
  intro _ told post
  exact .done post

theorem safe_entry (message : Message) (views : Q ⟨state, history⟩)
    (rebalances : ∀ newWeights, message = .yieldEngine (.rebalance newWeights) →
      Safe S I R (fun _ => Q) ((rebalance self caller newWeights).run state) history)
    (harvests : ∀ poolId, message = .yieldEngine (.harvestYield poolId) →
      Safe S I R (fun _ => Q) ((harvestYield self caller poolId).run state) history)
    (notifications : ∀ isDeposit poolId amount,
      Safe S I R (fun _ => Q) ((notifyOracle self caller isDeposit poolId amount).run state)
        history) :
    Safe S I R (fun _ => Q) ((entry self caller message).run state) history := by
  unfold entry
  split
  · exact Safe.bind ((rebalances _ rfl).weaken fun _ _ post => .done post)
  · exact Safe.bind ((harvests _ rfl).weaken fun _ _ post => .done post)
  · exact .done views
  · exact .done views
  · exact Safe.bind ((notifications true _ _).weaken fun _ _ post => .done post)
  · exact Safe.bind ((notifications false _ _).weaken fun _ _ post => .done post)
  · exact .panic

theorem entry_foreign {message : Message} (foreign : ∀ m, message ≠ .yieldEngine m) :
    (entry self caller message).run state = .panic "ENTRYPOINT_NOT_FOUND" := by
  unfold entry
  split
  all_goals first | exact absurd rfl (foreign _) | rfl

end

end Kanaka.Contracts.YieldEngine
