import Kanaka.Machine.Safety
import Kanaka.Machine.Word

/-!
# Values and interfaces of the contracts

The Cairo types that cross contract boundaries, and the entry points behind the dispatchers.
-/

namespace Kanaka.Contracts
open Machine

def fieldPrime : Nat := 2 ^ 251 + 17 * 2 ^ 192 + 1

instance : NeZero fieldPrime := ⟨by decide⟩

/-- A field element; its arithmetic wraps. -/
abbrev Felt252 := Fin fieldPrime

abbrev ContractAddress := Fin (2 ^ 251)

instance ContractAddress.neZero : NeZero (2 ^ 251) := ⟨by decide⟩

abbrev U32 := BitVec 32
abbrev U64 := BitVec 64
abbrev U256 := BitVec 256

theorem U256.toNat_zero : (0 : U256).toNat = 0 := rfl

theorem U256.ne_zero_iff (value : U256) : value ≠ 0 ↔ 0 < value.toNat := by
  rw [ne_eq, ← BitVec.toNat_inj, U256.toNat_zero, Nat.pos_iff_ne_zero]

abbrev LegacyMap (κ ν : Type) := κ → ν

def U32.toFelt (i : U32) : Felt252 := Fin.ofNat fieldPrime i.toNat

theorem U32.val_toFelt (i : U32) : i.toFelt.val = i.toNat := by
  have small : i.toNat < fieldPrime := i.isLt.trans (by decide)
  exact Nat.mod_eq_of_lt small

/-- `Array<T>`: its length is a `usize`. -/
abbrev CairoArray (α : Type) := { items : List α // items.length < 2 ^ 32 }

structure Block where
  timestamp : U64

structure Pool where
  token : ContractAddress
  strategy : ContractAddress
  active : Bool
  minDeposit : U256
  maxCapacity : U256
deriving DecidableEq

structure PoolMetrics where
  tvl : U256
  volatility : U256
  yieldRate : U256
  lastUpdate : U64
deriving DecidableEq

structure Proposal where
  id : U256
  proposer : ContractAddress
  description : Felt252
  startTime : U64
  endTime : U64
  forVotes : U256
  againstVotes : U256
  executed : Bool
  canceled : Bool
deriving DecidableEq

structure Vote where
  support : Bool
  votes : U256
deriving DecidableEq

/-! What a storage map returns for a key that has not been written. -/

def Pool.zero : Pool := ⟨0, 0, false, 0, 0⟩
def PoolMetrics.zero : PoolMetrics := ⟨0, 0, 0, 0⟩
def Proposal.zero : Proposal := ⟨0, 0, 0, 0, 0, 0, 0, false, false⟩
def Vote.zero : Vote := ⟨false, 0⟩

inductive IERC20 where
  | balanceOf (account : ContractAddress)
  | transfer (recipient : ContractAddress) (amount : U256)
  | transferFrom (owner recipient : ContractAddress) (amount : U256)

inductive IVaultManager where
  | deposit (poolId : Felt252) (amount : U256)
  | withdraw (poolId : Felt252) (amount : U256)
  | getBalance (user : ContractAddress) (poolId : Felt252)
  | getTotalSupply (poolId : Felt252)
  | addPool (poolId : Felt252) (token : ContractAddress)
  | distributeYield (poolId : Felt252) (amount : U256)

inductive IYieldEngine where
  | rebalance (newWeights : CairoArray U256)
  | harvestYield (poolId : Felt252)
  | getPoolWeight (poolId : Felt252)
  | getTotalWeights
  | onDeposit (poolId : Felt252) (amount : U256)
  | onWithdrawal (poolId : Felt252) (amount : U256)

inductive ICDROracle where
  | updatePoolMetrics (poolId : Felt252) (amount : U256) (isDeposit : Bool)
  | updateVolatility (poolId : Felt252) (newVolatility : U256)
  | updateYieldRate (poolId : Felt252) (newYieldRate : U256)
  | updateCorrelation (poolA poolB : Felt252) (correlation : U256)
  | getPoolMetrics (poolId : Felt252)
  | getCorrelation (poolA poolB : Felt252)
  | getPoolYield (poolId : Felt252)

inductive IStrategyRegistry where
  | addPool (token strategy : ContractAddress) (minDeposit maxCapacity : U256)
  | updatePool (poolId : Felt252) (active : Bool) (minDeposit maxCapacity : U256)
  | executeRebalance (newWeights : CairoArray U256)
  | getPool (poolId : Felt252)
  | getPoolCount
  | isValidDeposit (poolId : Felt252) (amount : U256)

inductive IGovernance where
  | propose (description : Felt252)
  | castVote (proposalId : U256) (support : Bool)
  | executeProposal (proposalId : U256)
  | cancelProposal (proposalId : U256)
  | getProposal (proposalId : U256)
  | getVote (proposalId : U256) (voter : ContractAddress)
  | getQuorum
  | getVotingPeriod

inductive IRewardDistributor where
  | authorizeDistributor (distributor : ContractAddress)
  | revokeDistributor (distributor : ContractAddress)
  | distributeReward (user : ContractAddress) (amount : U256)
  | claimRewards
  | getRewards (user : ContractAddress)
  | getTotalDistributed
  | isAuthorizedDistributor (distributor : ContractAddress)

/-- A selector with its calldata. `other` is any call that none of the interfaces declares. -/
inductive Message where
  | erc20 (message : IERC20)
  | vaultManager (message : IVaultManager)
  | yieldEngine (message : IYieldEngine)
  | cdrOracle (message : ICDROracle)
  | strategyRegistry (message : IStrategyRegistry)
  | strategyExecute (weight : U256)
  | governance (message : IGovernance)
  | rewardDistributor (message : IRewardDistributor)
  | other (selector : Felt252) (calldata : List Felt252)

structure Call where
  sender : ContractAddress
  target : ContractAddress
  message : Message

inductive Reply where
  | unit
  | felt (value : Felt252)
  | u64 (value : U64)
  | u256 (value : U256)
  | bool (value : Bool)
  | pool (value : Pool)
  | poolMetrics (value : PoolMetrics)
  | poolYield (amount : U256) (lastUpdate : U64)
  | proposal (value : Proposal)
  | vote (value : Vote)
deriving DecidableEq

/-- The body of an entry point, over any storage `σ` that has the contract's own as a part. -/
abbrev Entry (σ : Type) := Code σ Call Reply

section
variable {σ : Type}

def U256.add (a b : U256) : Entry σ U256 := Code.orPanic "u256_add Overflow" (checkedAdd a b)
def U256.sub (a b : U256) : Entry σ U256 := Code.orPanic "u256_sub Overflow" (checkedSub a b)
def U256.mul (a b : U256) : Entry σ U256 := Code.orPanic "u256_mul Overflow" (checkedMul a b)
def U64.add (a b : U64) : Entry σ U64 := Code.orPanic "u64_add Overflow" (checkedAdd a b)
def U32.add (a b : U32) : Entry σ U32 := Code.orPanic "u32_add Overflow" (checkedAdd a b)

def getBlockTimestamp [Has Block σ] : Entry σ U64 := do
  let block ← Code.load Block
  return block.timestamp

section Rules
variable {α : Type} {S : System σ Call Reply} {I : Snapshot σ Call Reply → Prop}
  {R : σ → σ → Prop} {Q : α → Snapshot σ Call Reply → Prop}
  {state : σ} {history : List (Crossing σ Call Reply)}

theorem safe_u256_add {a b : U256} {next : U256 → Entry σ α}
    (rest : ∀ c, c.toNat = a.toNat + b.toNat → Safe S I R Q ((next c).run state) history) :
    Safe S I R Q ((U256.add a b >>= next).run state) history :=
  Safe.orPanic fun c sum => rest c (checkedAdd_eq_some.mp sum)

theorem safe_u256_sub {a b : U256} {next : U256 → Entry σ α}
    (rest : ∀ c, c.toNat + b.toNat = a.toNat → Safe S I R Q ((next c).run state) history) :
    Safe S I R Q ((U256.sub a b >>= next).run state) history :=
  Safe.orPanic fun c difference => rest c (checkedSub_eq_some.mp difference)

theorem safe_u64_add {a b : U64} {next : U64 → Entry σ α}
    (rest : ∀ c, c.toNat = a.toNat + b.toNat → Safe S I R Q ((next c).run state) history) :
    Safe S I R Q ((U64.add a b >>= next).run state) history :=
  Safe.orPanic fun c sum => rest c (checkedAdd_eq_some.mp sum)

theorem safe_u32_add {a b : U32} {next : U32 → Entry σ α}
    (rest : ∀ c, c.toNat = a.toNat + b.toNat → Safe S I R Q ((next c).run state) history) :
    Safe S I R Q ((U32.add a b >>= next).run state) history :=
  Safe.orPanic fun c sum => rest c (checkedAdd_eq_some.mp sum)

theorem safe_getBlockTimestamp [Has Block σ] {next : U64 → Entry σ α}
    (rest : Safe S I R Q ((next (Has.get state : Block).timestamp).run state) history) :
    Safe S I R Q ((getBlockTimestamp >>= next).run state) history := rest

end Rules

def Reply.expectU256 : Reply → Entry σ U256
  | .u256 value => pure value
  | _ => Code.revert "Failed to deserialize result"

end

end Kanaka.Contracts
