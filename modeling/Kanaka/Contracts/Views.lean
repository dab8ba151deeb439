import Kanaka.Contracts.CDROracle
import Kanaka.Contracts.Governance
import Kanaka.Contracts.Network
import Kanaka.Contracts.RewardDistributor
import Kanaka.Contracts.StrategyRegistry
import Kanaka.Contracts.VaultManager
import Kanaka.Contracts.YieldEngine
import Kanaka.Machine.Part

/-!
# The contracts over parts of a storage

Each entry point does over a part of the storage what it does over the whole, and sends no other
requests than the ones listed here.
-/

namespace Kanaka.Contracts
open Machine

variable {σ τ : Type} {view : σ → τ} {frame : σ → σ → Prop} {sends : Call → Prop}
  [IsPreorder σ frame] (self caller : ContractAddress)

theorem seen_getBlockTimestamp [Has Block σ] [Has Block τ] (clock : Reads view Block) :
    Code.Seen view frame sends (getBlockTimestamp : Entry σ U64) getBlockTimestamp :=
  .bind (.load clock) fun _ => .pure _

namespace VaultManager
variable [Has State σ] [Has State τ] (writes : Writes view frame State)
include writes

theorem seen_deposit (pull : ∀ token m, sends ⟨self, token, .erc20 m⟩)
    (notify : ∀ engine poolId amount, sends ⟨self, engine, .yieldEngine (.onDeposit poolId amount)⟩)
    (poolId : Felt252) (amount : U256) :
    Code.Seen view frame sends (deposit self caller poolId amount : Entry σ Unit)
      (deposit self caller poolId amount) := by
  have reads := writes.toReads
  refine .bind .require fun _ => .bind .require fun _ => .bind (.load reads) fun _ => ?_
  refine .bind .require fun _ => .bind (.send (pull _ _)) fun _ => ?_
  -- balance and supply, which are read after the transfer
  refine .bind (.load reads) fun _ => .bind (.orPanic _) fun _ => .bind (.update writes _) fun _ => ?_
  refine .bind (.load reads) fun _ => .bind (.orPanic _) fun _ => .bind (.update writes _) fun _ => ?_
  refine .bind (.load reads) fun _ => .bind (.send (notify _ _ _)) fun _ => ?_
  exact .update writes _

theorem seen_withdraw (pay : ∀ token m, sends ⟨self, token, .erc20 m⟩)
    (notify : ∀ engine poolId amount,
      sends ⟨self, engine, .yieldEngine (.onWithdrawal poolId amount)⟩)
    (poolId : Felt252) (amount : U256) :
    Code.Seen view frame sends (withdraw self caller poolId amount : Entry σ Unit)
      (withdraw self caller poolId amount) := by
  have reads := writes.toReads
  refine .bind .require fun _ => .bind (.load reads) fun _ => .bind .require fun _ => ?_
  refine .bind (.load reads) fun _ => .bind .require fun _ => ?_
  refine .bind (.orPanic _) fun _ => .bind (.update writes _) fun _ => ?_
  refine .bind (.load reads) fun _ => .bind (.orPanic _) fun _ => .bind (.update writes _) fun _ => ?_
  refine .bind (.load reads) fun _ => .bind (.send (notify _ _ _)) fun _ => ?_
  exact .bind (.send (pay _ _)) fun _ => .update writes _

theorem seen_addPool (poolId : Felt252) (token : ContractAddress) :
    Code.Seen view frame sends (addPool caller poolId token : Entry σ Unit)
      (addPool caller poolId token) := by
  refine .bind (.load writes.toReads) fun _ => .bind .require fun _ => .bind .require fun _ => ?_
  exact .update writes _

theorem seen_entry (pay : ∀ token m, sends ⟨self, token, .erc20 m⟩)
    (notify : ∀ engine poolId amount,
      sends ⟨self, engine, .yieldEngine (.onDeposit poolId amount)⟩ ∧
      sends ⟨self, engine, .yieldEngine (.onWithdrawal poolId amount)⟩) (message : Message) :
    Code.Seen view frame sends (entry self caller message : Entry σ Reply)
      (entry self caller message) := by
  have reads := writes.toReads
  have deposits := fun engine poolId amount => (notify engine poolId amount).1
  have withdrawals := fun engine poolId amount => (notify engine poolId amount).2
  cases message with
  | vaultManager m =>
      cases m with
      | deposit => exact .bind (seen_deposit self caller writes pay deposits _ _) fun _ => .pure _
      | withdraw => exact .bind (seen_withdraw self caller writes pay withdrawals _ _) fun _ => .pure _
      | addPool => exact .bind (seen_addPool caller writes _ _) fun _ => .pure _
      | getBalance | getTotalSupply => exact .bind (.load reads) fun _ => .pure _
      | distributeYield => exact .revert _
  | _ => exact .revert _

end VaultManager

namespace YieldEngine
variable [Has State σ] [Has State τ] (writes : Writes view frame State)
include writes

theorem seen_rebalanceLoop (weights : List U256) (i : U32) (total : U256) :
    Code.Seen view frame sends (rebalanceLoop weights i total : Entry σ U256)
      (rebalanceLoop weights i total) := by
  induction weights generalizing i total with
  | nil => exact .pure _
  | cons weight rest ih =>
      refine .bind (.update writes _) fun _ => .bind (.orPanic _) fun _ => ?_
      exact .bind (.orPanic _) fun _ => ih _ _

theorem seen_rebalance (execute : ∀ registry newWeights,
      sends ⟨self, registry, .strategyRegistry (.executeRebalance newWeights)⟩)
    (newWeights : CairoArray U256) :
    Code.Seen view frame sends (rebalance self caller newWeights : Entry σ Unit)
      (rebalance self caller newWeights) := by
  have reads := writes.toReads
  refine .bind (.load reads) fun _ => .bind .require fun _ => ?_
  refine .bind (seen_rebalanceLoop writes _ _ _) fun _ => .bind .require fun _ => ?_
  refine .bind (.update writes _) fun _ => .bind (.load reads) fun _ => ?_
  exact .bind (.send (execute _ _)) fun _ => .update writes _

theorem seen_harvestYield (ask : ∀ oracle m, sends ⟨self, oracle, .cdrOracle m⟩)
    (distribute : ∀ vault poolId amount,
      sends ⟨self, vault, .vaultManager (.distributeYield poolId amount)⟩) (poolId : Felt252) :
    Code.Seen view frame sends (harvestYield self caller poolId : Entry σ Unit)
      (harvestYield self caller poolId) := by
  have reads := writes.toReads
  refine .bind (.load reads) fun _ => .bind .require fun _ => .bind (.load reads) fun _ => ?_
  refine .bind (.send (ask _ _)) fun reply => ?_
  cases reply with
  | poolYield yieldAmount lastUpdate =>
      dsimp only
      split
      · refine .bind (.load reads) fun _ => .bind (.send (distribute _ _ _)) fun _ => ?_
        exact .update writes _
      · exact .pure _
  | _ => exact .revert _

theorem seen_notifyOracle (tell : ∀ oracle m, sends ⟨self, oracle, .cdrOracle m⟩)
    (isDeposit : Bool) (poolId : Felt252) (amount : U256) :
    Code.Seen view frame sends (notifyOracle self caller isDeposit poolId amount : Entry σ Unit)
      (notifyOracle self caller isDeposit poolId amount) := by
  have reads := writes.toReads
  refine .bind (.load reads) fun _ => .bind .require fun _ => .bind (.load reads) fun _ => ?_
  exact .bind (.send (tell _ _)) fun _ => .pure _

theorem seen_entry (tell : ∀ oracle m, sends ⟨self, oracle, .cdrOracle m⟩)
    (distribute : ∀ vault poolId amount,
      sends ⟨self, vault, .vaultManager (.distributeYield poolId amount)⟩)
    (execute : ∀ registry newWeights,
      sends ⟨self, registry, .strategyRegistry (.executeRebalance newWeights)⟩) (message : Message) :
    Code.Seen view frame sends (entry self caller message : Entry σ Reply)
      (entry self caller message) := by
  have reads := writes.toReads
  cases message with
  | yieldEngine m =>
      cases m with
      | rebalance => exact .bind (seen_rebalance self caller writes execute _) fun _ => .pure _
      | harvestYield =>
          exact .bind (seen_harvestYield self caller writes tell distribute _) fun _ => .pure _
      | getPoolWeight | getTotalWeights => exact .bind (.load reads) fun _ => .pure _
      | onDeposit | onWithdrawal =>
          exact .bind (seen_notifyOracle self caller writes tell _ _ _) fun _ => .pure _
  | _ => exact .revert _

end YieldEngine

namespace CDROracle
variable [Has State σ] [Has State τ] [Has Block σ] [Has Block τ] (writes : Writes view frame State)
  (clock : Reads view Block)
include writes clock

theorem seen_storeMetrics (poolId : Felt252) (metrics : PoolMetrics) :
    Code.Seen view frame sends (storeMetrics poolId metrics : Entry σ Unit)
      (storeMetrics poolId metrics) := by
  refine .bind (seen_getBlockTimestamp clock) fun _ => ?_
  exact .bind (.update writes _) fun _ => .update writes _

theorem seen_updatePoolMetrics (poolId : Felt252) (amount : U256) (isDeposit : Bool) :
    Code.Seen view frame sends (updatePoolMetrics caller poolId amount isDeposit : Entry σ Unit)
      (updatePoolMetrics caller poolId amount isDeposit) := by
  have reads := writes.toReads
  refine .bind (.load reads) fun _ => .bind .require fun _ => .bind (.load reads) fun _ => ?_
  cases isDeposit with
  | true | false =>
      exact .bind (.orPanic _) fun _ => seen_storeMetrics writes clock _ _

theorem seen_updateMetric (replace : PoolMetrics → PoolMetrics) (poolId : Felt252) :
    Code.Seen view frame sends (updateMetric caller replace poolId : Entry σ Unit)
      (updateMetric caller replace poolId) := by
  have reads := writes.toReads
  refine .bind (.load reads) fun _ => .bind .require fun _ => .bind (.load reads) fun _ => ?_
  exact seen_storeMetrics writes clock _ _

omit clock [Has Block σ] [Has Block τ] in
theorem seen_updateCorrelation (poolA poolB : Felt252) (correlation : U256) :
    Code.Seen view frame sends (updateCorrelation caller poolA poolB correlation : Entry σ Unit)
      (updateCorrelation caller poolA poolB correlation) := by
  refine .bind (.load writes.toReads) fun _ => .bind .require fun _ => .bind .require fun _ => ?_
  refine .bind (.update writes _) fun _ => .bind (.update writes _) fun _ => ?_
  exact .update writes _

theorem seen_entry (message : Message) :
    Code.Seen view frame sends (entry caller message : Entry σ Reply) (entry caller message) := by
  have reads := writes.toReads
  cases message with
  | cdrOracle m =>
      cases m with
      | updatePoolMetrics =>
          exact .bind (seen_updatePoolMetrics caller writes clock _ _ _) fun _ => .pure _
      | updateVolatility | updateYieldRate =>
          exact .bind (seen_updateMetric caller writes clock _ _) fun _ => .pure _
      | updateCorrelation =>
          exact .bind (seen_updateCorrelation caller writes _ _ _) fun _ => .pure _
      | getPoolMetrics | getCorrelation => exact .bind (.load reads) fun _ => .pure _
      | getPoolYield =>
          refine .bind (.bind (.load reads) fun _ => ?_) fun _ => .pure _
          exact .bind (.orPanic _) fun _ => .pure _
  | _ => exact .revert _

end CDROracle

namespace StrategyRegistry
variable [Has State σ] [Has State τ] (writes : Writes view frame State)
include writes

theorem seen_addPool (bind : ∀ vault poolId token,
      sends ⟨self, vault, .vaultManager (.addPool poolId token)⟩)
    (token strategy : ContractAddress) (minDeposit maxCapacity : U256) :
    Code.Seen view frame sends
      (addPool self caller token strategy minDeposit maxCapacity : Entry σ Felt252)
      (addPool self caller token strategy minDeposit maxCapacity) := by
  have reads := writes.toReads
  refine .bind (.load reads) fun _ => .bind .require fun _ => .bind .require fun _ => ?_
  refine .bind (.load reads) fun _ => ?_
  refine .bind (.update writes _) fun _ => .bind (.update writes _) fun _ => ?_
  refine .bind (.load reads) fun _ => .bind (.send (bind _ _ _)) fun _ => ?_
  exact .bind (.update writes _) fun _ => .pure _

theorem seen_updatePool (poolId : Felt252) (active : Bool) (minDeposit maxCapacity : U256) :
    Code.Seen view frame sends
      (updatePool caller poolId active minDeposit maxCapacity : Entry σ Unit)
      (updatePool caller poolId active minDeposit maxCapacity) := by
  have reads := writes.toReads
  refine .bind (.load reads) fun _ => .bind .require fun _ => ?_
  refine .bind (.load reads) fun _ => .bind .require fun _ => ?_
  exact .bind (.update writes _) fun _ => .update writes _

theorem seen_executeLoop (execute : ∀ strategy weight, sends ⟨self, strategy, .strategyExecute weight⟩)
    (weights : List U256) (i : U32) :
    Code.Seen view frame sends (executeLoop self weights i : Entry σ Unit)
      (executeLoop self weights i) := by
  induction weights generalizing i with
  | nil => exact .pure _
  | cons weight rest ih =>
      refine .bind (.load writes.toReads) fun s => ?_
      dsimp only
      split
      · refine .bind (.send (execute _ _)) fun _ => .bind (.update writes _) fun _ => ?_
        exact .bind (.orPanic _) fun _ => ih _
      · exact .bind (.orPanic _) fun _ => ih _

theorem seen_entry (bind : ∀ vault poolId token,
      sends ⟨self, vault, .vaultManager (.addPool poolId token)⟩)
    (execute : ∀ strategy weight, sends ⟨self, strategy, .strategyExecute weight⟩)
    (message : Message) :
    Code.Seen view frame sends (entry self caller message : Entry σ Reply)
      (entry self caller message) := by
  have reads := writes.toReads
  cases message with
  | strategyRegistry m =>
      cases m with
      | addPool => exact .bind (seen_addPool self caller writes bind _ _ _ _) fun _ => .pure _
      | updatePool => exact .bind (seen_updatePool caller writes _ _ _ _) fun _ => .pure _
      | executeRebalance =>
          refine .bind (.bind (.load reads) fun _ => .bind .require fun _ => ?_) fun _ => .pure _
          exact seen_executeLoop self writes execute _ _
      | getPool | getPoolCount => exact .bind (.load reads) fun _ => .pure _
      | isValidDeposit => exact .bind (.bind (.load reads) fun _ => .pure _) fun _ => .pure _
  | _ => exact .revert _

end StrategyRegistry

namespace Governance
variable [Has State σ] [Has State τ] [Has Block σ] [Has Block τ] (writes : Writes view frame State)
  (clock : Reads view Block)
include writes

omit [Has Block σ] [Has Block τ] in
theorem seen_tokenBalance (ask : ∀ token m, sends ⟨self, token, .erc20 m⟩)
    (account : ContractAddress) :
    Code.Seen view frame sends (tokenBalance self account : Entry σ U256)
      (tokenBalance self account) := by
  refine .bind (.load writes.toReads) fun _ => .bind (.send (ask _ _)) fun reply => ?_
  cases reply with
  | u256 balance => exact .pure _
  | _ => exact .revert _

omit [Has Block σ] [Has Block τ] in
theorem seen_distributeReward (reward : ∀ distributor user amount,
      sends ⟨self, distributor, .rewardDistributor (.distributeReward user amount)⟩)
    (user : ContractAddress) (amount : U256) :
    Code.Seen view frame sends (distributeReward self user amount : Entry σ Unit)
      (distributeReward self user amount) :=
  .bind (.load writes.toReads) fun _ => .bind (.send (reward _ _ _)) fun _ => .pure _

include clock

theorem seen_propose (ask : ∀ token m, sends ⟨self, token, .erc20 m⟩)
    (reward : ∀ distributor user amount,
      sends ⟨self, distributor, .rewardDistributor (.distributeReward user amount)⟩)
    (description : Felt252) :
    Code.Seen view frame sends (propose self caller description : Entry σ U256)
      (propose self caller description) := by
  have reads := writes.toReads
  refine .bind (seen_tokenBalance self writes ask _) fun _ => .bind .require fun _ => ?_
  refine .bind (.load reads) fun _ => .bind (seen_getBlockTimestamp clock) fun _ => ?_
  refine .bind (.load reads) fun _ => .bind (.orPanic _) fun _ => ?_
  refine .bind (.update writes _) fun _ => .bind (.orPanic _) fun _ => ?_
  refine .bind (.update writes _) fun _ => ?_
  refine .bind (seen_distributeReward self writes reward _ _) fun _ => ?_
  exact .bind (.update writes _) fun _ => .pure _

theorem seen_castVote (ask : ∀ token m, sends ⟨self, token, .erc20 m⟩)
    (reward : ∀ distributor user amount,
      sends ⟨self, distributor, .rewardDistributor (.distributeReward user amount)⟩)
    (proposalId : U256) (support : Bool) :
    Code.Seen view frame sends (castVote self caller proposalId support : Entry σ Unit)
      (castVote self caller proposalId support) := by
  have reads := writes.toReads
  refine .bind (.load reads) fun _ => .bind .require fun _ => ?_
  refine .bind (seen_getBlockTimestamp clock) fun _ => .bind .require fun _ => ?_
  refine .bind (seen_tokenBalance self writes ask _) fun _ => .bind .require fun _ => ?_
  refine .bind (.load reads) fun _ => .bind .require fun _ => .bind (.update writes _) fun _ => ?_
  refine .bind (.load reads) fun s => .bind (?_ : Code.Seen _ _ _ (countVote _ _ _) _) fun _ => ?_
  · cases support with
    | true | false => exact .bind (.orPanic _) fun _ => .pure _
  refine .bind (.update writes _) fun _ => ?_
  refine .bind (seen_distributeReward self writes reward _ _) fun _ => ?_
  exact .update writes _

theorem seen_executeProposal (proposalId : U256) :
    Code.Seen view frame sends (executeProposal proposalId : Entry σ Unit)
      (executeProposal proposalId) := by
  have reads := writes.toReads
  refine .bind (.load reads) fun _ => .bind .require fun _ => ?_
  refine .bind (seen_getBlockTimestamp clock) fun _ => .bind .require fun _ => ?_
  refine .bind (.orPanic _) fun _ => .bind (.load reads) fun _ => ?_
  refine .bind .require fun _ => .bind .require fun _ => ?_
  exact .bind (.update writes _) fun _ => .update writes _

theorem seen_cancelProposal (proposalId : U256) :
    Code.Seen view frame sends (cancelProposal caller proposalId : Entry σ Unit)
      (cancelProposal caller proposalId) := by
  refine .bind (.load writes.toReads) fun _ => .bind .require fun _ => .bind .require fun _ => ?_
  refine .bind (seen_getBlockTimestamp clock) fun _ => .bind .require fun _ => ?_
  exact .bind (.update writes _) fun _ => .update writes _

theorem seen_entry (ask : ∀ token m, sends ⟨self, token, .erc20 m⟩)
    (reward : ∀ distributor user amount,
      sends ⟨self, distributor, .rewardDistributor (.distributeReward user amount)⟩)
    (message : Message) :
    Code.Seen view frame sends (entry self caller message : Entry σ Reply)
      (entry self caller message) := by
  have reads := writes.toReads
  cases message with
  | governance m =>
      cases m with
      | propose => exact .bind (seen_propose self caller writes clock ask reward _) fun _ => .pure _
      | castVote =>
          exact .bind (seen_castVote self caller writes clock ask reward _ _) fun _ => .pure _
      | executeProposal => exact .bind (seen_executeProposal writes clock _) fun _ => .pure _
      | cancelProposal => exact .bind (seen_cancelProposal caller writes clock _) fun _ => .pure _
      | getProposal | getVote | getQuorum | getVotingPeriod =>
          exact .bind (.load reads) fun _ => .pure _
  | _ => exact .revert _

end Governance

namespace RewardDistributor
variable [Has State σ] [Has State τ] (writes : Writes view frame State)
include writes

theorem seen_setDistributor (authorized : Bool) (distributor : ContractAddress) :
    Code.Seen view frame sends (setDistributor caller authorized distributor : Entry σ Unit)
      (setDistributor caller authorized distributor) :=
  .bind (.load writes.toReads) fun _ => .bind .require fun _ => .update writes _

theorem seen_distributeReward (user : ContractAddress) (amount : U256) :
    Code.Seen view frame sends (distributeReward caller user amount : Entry σ Unit)
      (distributeReward caller user amount) := by
  have reads := writes.toReads
  refine .bind (.load reads) fun _ => .bind .require fun _ => ?_
  refine .bind (.load reads) fun _ => .bind (.orPanic _) fun _ => .bind (.update writes _) fun _ => ?_
  refine .bind (.load reads) fun _ => .bind (.orPanic _) fun _ => .bind (.update writes _) fun _ => ?_
  exact .update writes _

theorem seen_claimRewards (pay : ∀ token m, sends ⟨self, token, .erc20 m⟩) :
    Code.Seen view frame sends (claimRewards self caller : Entry σ Unit)
      (claimRewards self caller) := by
  have reads := writes.toReads
  refine .bind (.load reads) fun _ => .bind .require fun _ => .bind (.update writes _) fun _ => ?_
  exact .bind (.load reads) fun _ => .bind (.send (pay _ _)) fun _ => .update writes _

theorem seen_entry (pay : ∀ token m, sends ⟨self, token, .erc20 m⟩) (message : Message) :
    Code.Seen view frame sends (entry self caller message : Entry σ Reply)
      (entry self caller message) := by
  have reads := writes.toReads
  cases message with
  | rewardDistributor m =>
      cases m with
      | authorizeDistributor | revokeDistributor =>
          exact .bind (seen_setDistributor caller writes _ _) fun _ => .pure _
      | distributeReward => exact .bind (seen_distributeReward caller writes _ _) fun _ => .pure _
      | claimRewards => exact .bind (seen_claimRewards self caller writes pay) fun _ => .pure _
      | getRewards | getTotalDistributed | isAuthorizedDistributor =>
          exact .bind (.load reads) fun _ => .pure _
  | _ => exact .revert _

end RewardDistributor

/-! ## Some of the deployed contracts -/

/-- Of the deployed contracts some make the part, and the others are beside it. -/
inductive Among (view : σ → τ) (welcome : Call → Prop) :
    List (ContractAddress × Server σ) → List (ContractAddress × Server τ) → Prop where
  | nil : Among view welcome [] []
  | part {address : ContractAddress} {server : Server σ} {server' : Server τ}
      {rest : List (ContractAddress × Server σ)} {rest' : List (ContractAddress × Server τ)} :
      (∀ sender message, Code.Seen view (fun _ _ => True) (fun _ => True) (server sender message)
        (server' sender message)) →
      Among view welcome rest rest' →
      Among view welcome ((address, server) :: rest) ((address, server') :: rest')
  | beside {address : ContractAddress} {server : Server σ}
      {rest : List (ContractAddress × Server σ)} {rest' : List (ContractAddress × Server τ)} :
      (∀ sender message, Code.Seen id (Aside view) welcome (server sender message)
        (server sender message)) →
      Among view welcome rest rest' → Among view welcome ((address, server) :: rest) rest'

namespace Among
variable {welcome : Call → Prop} {servers : List (ContractAddress × Server σ)}
  {servers' : List (ContractAddress × Server τ)} {call : Call}

theorem missing (among : Among view welcome servers servers')
    (unused : call.target ∉ servers.map Prod.fst) : deployed servers' call = none := by
  induction among with
  | nil => rfl
  | part _ _ ih =>
      rw [List.map_cons, List.mem_cons, not_or] at unused
      rw [deployed_cons, if_neg unused.1]
      exact ih unused.2
  | beside _ _ ih =>
      rw [List.map_cons, List.mem_cons, not_or] at unused
      exact ih unused.2

theorem inside (among : Among view welcome servers servers') {body' : Entry τ Reply}
    (apart : (servers.map Prod.fst).Nodup) (found : deployed servers' call = some body') :
    ∃ body, deployed servers call = some body ∧
      body.Seen view (fun _ _ => True) (fun _ => True) body' := by
  induction among with
  | nil => contradiction
  | part seen _ ih =>
      rw [deployed_cons] at found ⊢
      split at found
      · cases found
        rw [if_pos ‹_›]
        exact ⟨_, rfl, seen _ _⟩
      · rw [if_neg ‹_›]
        exact ih (List.nodup_cons.mp apart).2 found
  | @beside address _ _ _ _ among ih =>
      rw [List.map_cons, List.nodup_cons] at apart
      rw [deployed_cons, if_neg]
      · exact ih apart.2 found
      rintro rfl
      rw [among.missing apart.1] at found
      contradiction

theorem outside (among : Among view welcome servers servers') {body : Entry σ Reply}
    (missing : deployed servers' call = none) (found : deployed servers call = some body) :
    body.Seen id (Aside view) welcome body := by
  induction among with
  | nil => contradiction
  | part _ _ ih =>
      rw [deployed_cons] at missing found
      split at missing
      · contradiction
      · rw [if_neg ‹_›] at found
        exact ih missing found
  | beside seen _ ih =>
      rw [deployed_cons] at found
      split at found
      · cases found
        exact seen _ _
      · exact ih missing found

/-- The part of the deployment is a part of the system. Some calls to other addresses may be served
as well. -/
theorem isPartBeyond {S : System σ Call Reply} {T : System τ Call Reply}
    (rest : Call → Option (Entry σ Reply)) (rest' : Call → Option (Entry τ Reply))
    (among : Among view (Welcome T) servers servers') (apart : (servers.map Prod.fst).Nodup)
    (code : ∀ call, S.code call = (deployed servers call <|> rest call))
    (code' : ∀ call, T.code call = (deployed servers' call <|> rest' call))
    (served : ∀ {call body'}, rest' call = some body' → ∃ body, S.code call = some body ∧
      body.Seen view (fun _ _ => True) (fun _ => True) body')
    (beyond : ∀ {call body}, rest' call = none → rest call = some body →
      deployed servers call = none → body.Seen id (Aside view) (Welcome T) body)
    (enters : ∀ {depth request state}, S.enters depth request state → T.code request ≠ none →
      ∀ depth', T.enters depth' request (view state))
    (drift : ∀ {before after}, S.drift before after →
      Aside view before after ∨ T.drift (view before) (view after))
    (tick : ∀ {before after}, S.tick before after →
      Aside view before after ∨ T.tick (view before) (view after)) : Part S T view where
  inside {request body'} found := by
    rw [code'] at found
    cases mine : deployed servers' request with
    | none =>
        rw [mine] at found
        exact served found
    | some body =>
        rw [mine] at found
        cases found
        obtain ⟨body, found, seen⟩ := among.inside apart mine
        refine ⟨body, ?_, seen⟩
        rw [code, found]
        rfl
  beside {request body} missing found := by
    rw [code'] at missing
    rw [code] at found
    cases mine : deployed servers' request with
    | some body =>
        rw [mine] at missing
        contradiction
    | none =>
        rw [mine] at missing
        cases theirs : deployed servers request with
        | none =>
            rw [theirs] at found
            exact beyond missing found theirs
        | some body =>
            rw [theirs] at found
            cases found
            exact among.outside mine theirs
  enters := enters
  drift := drift
  tick := tick

theorem isPart {S : System σ Call Reply} {T : System τ Call Reply}
    (among : Among view (Welcome T) servers servers') (apart : (servers.map Prod.fst).Nodup)
    (code : S.code = deployed servers) (code' : T.code = deployed servers')
    (enters : ∀ {depth request state}, S.enters depth request state → T.code request ≠ none →
      ∀ depth', T.enters depth' request (view state))
    (drift : ∀ {before after}, S.drift before after →
      Aside view before after ∨ T.drift (view before) (view after))
    (tick : ∀ {before after}, S.tick before after →
      Aside view before after ∨ T.tick (view before) (view after)) : Part S T view := by
  refine isPartBeyond (fun _ => none) (fun _ => none) among apart ?_ ?_ ?_ ?_ enters drift tick
  · intro call
    simp [code]
  · intro call
    simp [code']
  · exact fun impossible => absurd impossible (by simp)
  · exact fun _ impossible => absurd impossible (by simp)

end Among

end Kanaka.Contracts
