import Kanaka.Contracts.Interface

/-! # `vault_manager.cairo` -/

namespace Kanaka.Contracts.VaultManager
open Machine Machine.Code

inductive Event where
  | deposit (user : ContractAddress) (poolId : Felt252) (amount : U256)
  | withdrawal (user : ContractAddress) (poolId : Felt252) (amount : U256)
deriving DecidableEq

structure State where
  balances : LegacyMap (ContractAddress × Felt252) U256
  totalSupply : LegacyMap Felt252 U256
  poolTokens : LegacyMap Felt252 ContractAddress
  strategyRegistry : ContractAddress
  yieldEngine : ContractAddress
  events : List Event

def constructor (strategyRegistryAddress yieldEngineAddress : ContractAddress) : State where
  balances := fun _ => 0
  totalSupply := fun _ => 0
  poolTokens := fun _ => 0
  strategyRegistry := strategyRegistryAddress
  yieldEngine := yieldEngineAddress
  events := []

namespace State
variable (s : State)

@[simps -fullyApplied] def writeBalances (key : ContractAddress × Felt252) (value : U256) : State :=
  { s with balances := Function.update s.balances key value }

@[simps -fullyApplied] def writeTotalSupply (key : Felt252) (value : U256) : State :=
  { s with totalSupply := Function.update s.totalSupply key value }

@[simps -fullyApplied] def writePoolTokens (key : Felt252) (value : ContractAddress) : State :=
  { s with poolTokens := Function.update s.poolTokens key value }

@[simps -fullyApplied] def emit (event : Event) : State :=
  { s with events := s.events ++ [event] }

end State

section
variable {σ : Type} [Has State σ] (self caller : ContractAddress)

def deposit (poolId : Felt252) (amount : U256) : Entry σ Unit := do
  require (caller ≠ 0) "INVALID_CALLER"
  require (0 < amount) "INVALID_AMOUNT"
  -- Get pool token
  let poolToken := (← load State).poolTokens poolId
  require (poolToken ≠ 0) "INVALID_POOL"
  -- Transfer tokens from user
  let _ ← send ⟨self, poolToken, .erc20 (.transferFrom caller self amount)⟩
  -- Update balances
  let userBalance := (← load State).balances (caller, poolId)
  let newBalance ← U256.add userBalance amount
  update (State.writeBalances · (caller, poolId) newBalance)
  let total := (← load State).totalSupply poolId
  let newTotal ← U256.add total amount
  update (State.writeTotalSupply · poolId newTotal)
  -- Notify yield engine
  let yieldEngine := (← load State).yieldEngine
  let _ ← send ⟨self, yieldEngine, .yieldEngine (.onDeposit poolId amount)⟩
  update (State.emit · (.deposit caller poolId amount))

def withdraw (poolId : Felt252) (amount : U256) : Entry σ Unit := do
  require (caller ≠ 0) "INVALID_CALLER"
  let userBalance := (← load State).balances (caller, poolId)
  require (amount ≤ userBalance) "INSUFFICIENT_BALANCE"
  -- Get pool token
  let poolToken := (← load State).poolTokens poolId
  require (poolToken ≠ 0) "INVALID_POOL"
  -- Update balances
  let newBalance ← U256.sub userBalance amount
  update (State.writeBalances · (caller, poolId) newBalance)
  let total := (← load State).totalSupply poolId
  let newTotal ← U256.sub total amount
  update (State.writeTotalSupply · poolId newTotal)
  -- Notify yield engine
  let yieldEngine := (← load State).yieldEngine
  let _ ← send ⟨self, yieldEngine, .yieldEngine (.onWithdrawal poolId amount)⟩
  -- Transfer tokens to user
  let _ ← send ⟨self, poolToken, .erc20 (.transfer caller amount)⟩
  update (State.emit · (.withdrawal caller poolId amount))

def addPool (poolId : Felt252) (token : ContractAddress) : Entry σ Unit := do
  -- Only strategy registry can add pools
  let strategyRegistry := (← load State).strategyRegistry
  require (caller = strategyRegistry) "UNAUTHORIZED"
  require (token ≠ 0) "INVALID_TOKEN"
  update (State.writePoolTokens · poolId token)

/-- The dispatch table. `distribute_yield` is called by the yield engine but does not exist here. -/
def entry : Message → Entry σ Reply
  | .vaultManager (.deposit poolId amount) => do
      deposit self caller poolId amount
      return .unit
  | .vaultManager (.withdraw poolId amount) => do
      withdraw self caller poolId amount
      return .unit
  | .vaultManager (.getBalance user poolId) => do
      return .u256 ((← load State).balances (user, poolId))
  | .vaultManager (.getTotalSupply poolId) => do
      return .u256 ((← load State).totalSupply poolId)
  | .vaultManager (.addPool poolId token) => do
      addPool caller poolId token
      return .unit
  | _ => revert "ENTRYPOINT_NOT_FOUND"

variable {S : System σ Call Reply} {I : Snapshot σ Call Reply → Prop}
  {R : σ → σ → Prop} {Q : Snapshot σ Call Reply → Prop}
  {state : σ} {history : List (Crossing σ Call Reply)}

theorem safe_deposit (poolId : Felt252) (amount : U256)
    (pull : caller ≠ 0 → 0 < amount → (Has.get state : State).poolTokens poolId ≠ 0 →
      Safe S I R (fun _ paid => ∀ newBalance newTotal : U256,
          newBalance.toNat =
            ((Has.get paid.state : State).balances (caller, poolId)).toNat + amount.toNat →
          newTotal.toNat =
            ((Has.get paid.state : State).totalSupply poolId).toNat + amount.toNat →
          Safe S I R
            (fun _ told => Q ⟨Has.set ((Has.get told.state : State).emit
              (.deposit caller poolId amount)) told.state, told.history⟩)
            ((send ⟨self, (Has.get paid.state : State).yieldEngine,
              .yieldEngine (.onDeposit poolId amount)⟩ : Entry σ Reply).run
              (Has.set (((Has.get paid.state : State).writeBalances (caller, poolId)
                newBalance).writeTotalSupply poolId newTotal) paid.state)) paid.history)
        ((send ⟨self, (Has.get state : State).poolTokens poolId,
          .erc20 (.transferFrom caller self amount)⟩ : Entry σ Reply).run state) history) :
    Safe S I R (fun _ => Q) ((deposit self caller poolId amount).run state) history := by
  apply Safe.require
  intro nonzero
  apply Safe.require
  intro positive
  apply Safe.load
  apply Safe.require
  intro registered
  apply Safe.bind
  apply (pull nonzero positive registered).weaken
  intro _ paid notify
  apply Safe.load
  apply safe_u256_add
  intro newBalance balance_eq
  apply Safe.update
  apply Safe.load
  apply safe_u256_add
  intro newTotal total_eq
  apply Safe.update
  apply Safe.load
  simp only [Has.get_set, Has.set_set, State.writeBalances_totalSupply,
    State.writeBalances_yieldEngine, State.writeTotalSupply_yieldEngine] at total_eq ⊢
  apply Safe.bind
  apply (notify newBalance newTotal balance_eq total_eq).weaken
  intro _ told post
  exact .done post

theorem safe_withdraw (poolId : Felt252) (amount : U256)
    (notify : ∀ newBalance newTotal : U256, caller ≠ 0 →
      (Has.get state : State).poolTokens poolId ≠ 0 →
      newBalance.toNat + amount.toNat = ((Has.get state : State).balances (caller, poolId)).toNat →
      newTotal.toNat + amount.toNat = ((Has.get state : State).totalSupply poolId).toNat →
      Safe S I R
        (fun _ told => Safe S I R
          (fun _ paid => Q ⟨Has.set ((Has.get paid.state : State).emit
            (.withdrawal caller poolId amount)) paid.state, paid.history⟩)
          ((send ⟨self, (Has.get state : State).poolTokens poolId,
            .erc20 (.transfer caller amount)⟩ : Entry σ Reply).run told.state) told.history)
        ((send ⟨self, (Has.get state : State).yieldEngine,
          .yieldEngine (.onWithdrawal poolId amount)⟩ : Entry σ Reply).run
          (Has.set (((Has.get state : State).writeBalances (caller, poolId)
            newBalance).writeTotalSupply poolId newTotal) state)) history) :
    Safe S I R (fun _ => Q) ((withdraw self caller poolId amount).run state) history := by
  apply Safe.require
  intro nonzero
  apply Safe.load
  apply Safe.require
  intro _
  apply Safe.load
  apply Safe.require
  intro registered
  apply safe_u256_sub
  intro newBalance balance_eq
  apply Safe.update
  apply Safe.load
  apply safe_u256_sub
  intro newTotal total_eq
  apply Safe.update
  apply Safe.load
  simp only [Has.get_set, Has.set_set, State.writeBalances_totalSupply,
    State.writeBalances_yieldEngine, State.writeTotalSupply_yieldEngine] at total_eq ⊢
  apply Safe.bind
  apply (notify newBalance newTotal nonzero registered balance_eq total_eq).weaken
  intro _ told pay
  apply Safe.bind
  apply pay.weaken
  intro _ paid post
  exact .done post

theorem safe_addPool (poolId : Felt252) (token : ContractAddress)
    (bound : caller = (Has.get state : State).strategyRegistry → token ≠ 0 →
      Q ⟨Has.set ((Has.get state : State).writePoolTokens poolId token) state, history⟩) :
    Safe S I R (fun _ => Q) ((addPool caller poolId token).run state) history := by
  apply Safe.load
  apply Safe.require
  intro authorized
  apply Safe.require
  intro nonzero
  exact .done (bound authorized nonzero)

theorem safe_entry (message : Message) (views : Q ⟨state, history⟩)
    (deposits : ∀ poolId amount, message = .vaultManager (.deposit poolId amount) →
      Safe S I R (fun _ => Q) ((deposit self caller poolId amount).run state) history)
    (withdrawals : ∀ poolId amount, message = .vaultManager (.withdraw poolId amount) →
      Safe S I R (fun _ => Q) ((withdraw self caller poolId amount).run state) history)
    (additions : ∀ poolId token, message = .vaultManager (.addPool poolId token) →
      Safe S I R (fun _ => Q) ((addPool caller poolId token).run state) history) :
    Safe S I R (fun _ => Q) ((entry self caller message).run state) history := by
  unfold entry
  split
  · exact Safe.bind ((deposits _ _ rfl).weaken fun _ _ post => .done post)
  · exact Safe.bind ((withdrawals _ _ rfl).weaken fun _ _ post => .done post)
  · exact .done views
  · exact .done views
  · exact Safe.bind ((additions _ _ rfl).weaken fun _ _ post => .done post)
  · exact .panic

theorem entry_foreign {message : Message} (foreign : ∀ m, message ≠ .vaultManager m) :
    (entry self caller message).run state = .panic "ENTRYPOINT_NOT_FOUND" := by
  unfold entry
  split
  all_goals first | exact absurd rfl (foreign _) | rfl

end

end Kanaka.Contracts.VaultManager
