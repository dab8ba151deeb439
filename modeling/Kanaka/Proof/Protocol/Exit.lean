import Kanaka.Machine.Completion
import Kanaka.Proof.Protocol.Economy
import Mathlib.Data.Fintype.BigOperators

/-!
# Leaving

Whatever has been called before, everybody gets out of the vault what it owes them.
-/

namespace Kanaka.Proof.Protocol
open Machine Contracts
open Pools.Custody (Ledgers)

theorem Ledger.move_of_le {ledger : Ledger} {source : ContractAddress} (target : ContractAddress)
    {amount : U256} (enough : amount.toNat ≤ (ledger source).toNat) (fits : ledger.supply < 2 ^ 256) :
    ∃ after, ledger.move source target amount = some after := by
  have difference := checkedSub_of_le enough
  obtain debited := checkedSub_eq_some.mp difference
  have paid := sum_write ledger (fun _ => BitVec.toNat) source (ledger source - amount)
  have held : (Function.update ledger source (ledger source - amount) target).toNat ≤
      ∑ account, (Function.update ledger source (ledger source - amount) account).toNat :=
    Finset.single_le_sum (f := fun account =>
      (Function.update ledger source (ledger source - amount) account).toNat)
      (fun _ _ => Nat.zero_le _) (Finset.mem_univ target)
  have total : ledger.supply = ∑ account, (ledger account).toNat := rfl
  have room : (Function.update ledger source (ledger source - amount) target).toNat +
      amount.toNat < 2 ^ 256 := by omega
  exact ⟨_, Ledger.move_of_eq difference (if_pos room)⟩

namespace Economy

section Withdrawals
variable {d : Deployment} {user : ContractAddress} {poolId : Felt252} {amount : U256} {w : World}

structure Withdrawn (d : Deployment) (user : ContractAddress) (poolId : Felt252) (amount : U256)
    (w w' : World) : Prop where
  registry : w'.protocol.registry = w.protocol.registry
  pools : w'.protocol.vault.poolTokens = w.protocol.vault.poolTokens
  balances : w'.protocol.vault.balances = Function.update w.protocol.vault.balances (user, poolId)
    (w.protocol.vault.balances (user, poolId) - amount)
  paid : ∃ moved, (w.tokens (w.protocol.vault.poolTokens poolId)).move d.vault user amount =
    some moved ∧ w'.tokens = Function.update w.tokens (w.protocol.vault.poolTokens poolId) moved

theorem code_vault (sender : ContractAddress) (message : Message) :
    (economy d).code ⟨sender, d.vault, message⟩ =
      some (VaultManager.entry d.vault sender message) := by
  simp [servers, d.distinct.1]

theorem code_engine (sender : ContractAddress) (message : Message) :
    (economy d).code ⟨sender, d.engine, message⟩ =
      some (YieldEngine.entry d.engine sender message) := by
  have apart := d.apart
  simp only [List.nodup_cons, List.mem_cons, not_or] at apart
  simp [servers, d.distinct.2.1, Ne.symm apart.1.2.1]

theorem code_oracle (sender : ContractAddress) (message : Message) :
    (economy d).code ⟨sender, d.oracle, message⟩ = some (CDROracle.entry sender message) := by
  have apart := d.apart
  simp only [List.nodup_cons, List.mem_cons, not_or] at apart
  simp [servers, d.distinct.2.2.1, d.distinct.2.2.2.1, Ne.symm apart.1.2.2.1]

theorem code_token {token : ContractAddress} (outside : token ∉ d.addresses)
    (sender : ContractAddress) (message : Message) :
    (economy d).code ⟨sender, token, message⟩ = Economy.token d ⟨sender, token, message⟩ := by
  have missing : deployed (servers d : List (ContractAddress × Server World))
      ⟨sender, token, message⟩ = none := servers_missing outside
  simp [missing]

theorem transfer_completes {token : ContractAddress} (outside : token ∉ d.addresses)
    {moved : Ledger} (move : (w.tokens token).move d.vault user amount = some moved) :
    Completes (economy d) (fun _ now => now = ⟨w.protocol, Function.update w.tokens token moved⟩)
      ((Code.send ⟨d.vault, token, .erc20 (.transfer user amount)⟩ : Entry World Reply).run w) := by
  have found : (economy d).code ⟨d.vault, token, .erc20 (.transfer user amount)⟩ =
      some (transfer token d.vault user amount) := by
    rw [code_token outside]
    exact congrArg some (if_neg outside)
  have missing : (economy d).code ⟨token, token, .other 0 []⟩ = none := code_token outside _ _
  apply Completes.sendIn found
  apply Completes.bind
  apply Completes.sendOut .unit missing
  apply Completes.load
  apply Completes.orPanic move
  apply Completes.update
  apply Completes.bind
  apply Completes.sendOut .unit missing
  exact .done rfl

theorem notify_completes {engine : ContractAddress} (here : engine = d.engine)
    (engineVault : w.protocol.engine.vaultManager = d.vault)
    (engineOracle : w.protocol.engine.cdrOracle = d.oracle)
    (oracleEngine : w.protocol.oracle.yieldEngine = d.engine)
    (enough : amount.toNat ≤ (w.protocol.oracle.poolMetrics poolId).tvl.toNat) :
    Completes (economy d)
      (fun _ now => now.protocol.registry = w.protocol.registry ∧
        now.protocol.vault = w.protocol.vault ∧ now.tokens = w.tokens)
      ((Code.send ⟨d.vault, engine, .yieldEngine (.onWithdrawal poolId amount)⟩ :
        Entry World Reply).run w) := by
  rw [here]
  apply Completes.sendIn (code_engine d.vault _)
  apply Completes.bind
  apply Completes.load
  apply Completes.require engineVault.symm
  apply Completes.load
  have target : (Has.get w : YieldEngine.State).cdrOracle = d.oracle := engineOracle
  rw [target]
  apply Completes.bind
  apply Completes.sendIn (code_oracle d.engine _)
  apply Completes.bind
  apply Completes.load
  apply Completes.require oracleEngine.symm
  apply Completes.load
  apply Completes.orPanic (checkedSub_of_le enough)
  exact .done (.done (.done (.done ⟨rfl, rfl, rfl⟩)))

theorem withdraw_completes (agreed : Pools.Liquidity.Agreed d.pools (poolsOf w.protocol))
    (nonzero : user ≠ 0) (registered : w.protocol.vault.poolTokens poolId ≠ 0)
    (enough : amount.toNat ≤ (w.protocol.vault.balances (user, poolId)).toNat)
    (outside : w.protocol.vault.poolTokens poolId ∉ d.addresses) {moved : Ledger}
    (move : (w.tokens (w.protocol.vault.poolTokens poolId)).move d.vault user amount = some moved) :
    Completes (economy d) (fun _ now => Withdrawn d user poolId amount w now)
      ((VaultManager.entry d.vault user (.vaultManager (.withdraw poolId amount)) :
        Entry World Reply).run w) := by
  have covered := enough.trans (agreed.balanced.balance_le user poolId)
  have metered : amount.toNat ≤ (w.protocol.oracle.poolMetrics poolId).tvl.toNat :=
    covered.trans_eq (congrArg BitVec.toNat (agreed.tvl poolId)).symm
  apply Completes.bind
  apply Completes.require nonzero
  apply Completes.load
  apply Completes.require enough
  apply Completes.load
  apply Completes.require registered
  apply Completes.orPanic (checkedSub_of_le enough)
  apply Completes.update
  apply Completes.load
  apply Completes.orPanic (checkedSub_of_le covered)
  apply Completes.update
  apply Completes.load
  apply Completes.bind
  refine Completes.weaken (notify_completes agreed.vaultEngine agreed.engineVault
    agreed.engineOracle agreed.oracleEngine metered) ?_
  intro _ told kept
  obtain ⟨registry, vault, tokens⟩ := kept
  have move' : (told.tokens (w.protocol.vault.poolTokens poolId)).move d.vault user amount =
      some moved := by
    rw [tokens]
    exact move
  apply Completes.bind
  apply (transfer_completes outside move').weaken
  rintro _ _ rfl
  have pools : told.protocol.vault.poolTokens = w.protocol.vault.poolTokens := by
    rw [vault]
    rfl
  have balances : told.protocol.vault.balances = Function.update w.protocol.vault.balances
      (user, poolId) (w.protocol.vault.balances (user, poolId) - amount) := by
    rw [vault]
    rfl
  have paid : Function.update told.tokens (w.protocol.vault.poolTokens poolId) moved =
      Function.update w.tokens (w.protocol.vault.poolTokens poolId) moved := by
    rw [tokens]
    rfl
  exact .done (.done ⟨registry, pools, balances, moved, move, paid⟩)

end Withdrawals

/-! ## Everybody -/

section Leaving
variable {d : Deployment} {left : Finset (ContractAddress × Felt252)} {w now next : World}

def due (w : World) (token user : ContractAddress) (key : ContractAddress × Felt252) : Nat :=
  if key.1 = user ∧ w.protocol.vault.poolTokens key.2 = token then
    (w.protocol.vault.balances key).toNat
  else 0

structure Left (d : Deployment) (left : Finset (ContractAddress × Felt252)) (w now : World) :
    Prop where
  registry : now.protocol.registry = w.protocol.registry
  pools : now.protocol.vault.poolTokens = w.protocol.vault.poolTokens
  balances : ∀ key, now.protocol.vault.balances key =
    if key ∈ left then 0 else w.protocol.vault.balances key
  paid : ∀ token user, user ≠ d.vault →
    (now.tokens token user).toNat = (w.tokens token user).toNat + ∑ key ∈ left, due w token user key

theorem Left.refl (w : World) : Left d ∅ w w :=
  ⟨rfl, rfl, fun _ => rfl, fun _ _ _ => rfl⟩

theorem Left.skip {key : ContractAddress × Felt252} (hasLeft : Left d left w now)
    (fresh : key ∉ left) (nothing : w.protocol.vault.balances key = 0) :
    Left d (insert key left) w now := by
  refine ⟨hasLeft.registry, hasLeft.pools, ?_, ?_⟩
  · intro other
    rw [hasLeft.balances]
    by_cases same : other = key
    · simp [same, nothing]
    · simp [same]
  · intro token user outside
    have zero : due w token user key = 0 := by simp [due, nothing]
    rw [hasLeft.paid token user outside, Finset.sum_insert fresh, zero, zero_add]

theorem Left.withdraw {user : ContractAddress} {poolId : Felt252} (hasLeft : Left d left w now)
    (fresh : (user, poolId) ∉ left)
    (withdrawn : Withdrawn d user poolId (w.protocol.vault.balances (user, poolId)) now next) :
    Left d (insert (user, poolId) left) w next := by
  have whole : now.protocol.vault.balances (user, poolId) =
      w.protocol.vault.balances (user, poolId) := by
    rw [hasLeft.balances, if_neg fresh]
  refine ⟨withdrawn.registry.trans hasLeft.registry, withdrawn.pools.trans hasLeft.pools, ?_, ?_⟩
  · intro other
    rw [withdrawn.balances, whole]
    by_cases same : other = (user, poolId)
    · simp [same]
    · rw [Function.update_of_ne same, hasLeft.balances]
      simp [same]
  · intro token account outside
    obtain ⟨moved, move, tokens⟩ := withdrawn.paid
    rw [Finset.sum_insert fresh, tokens, hasLeft.pools]
    rw [hasLeft.pools] at move
    have before := hasLeft.paid token account outside
    by_cases same : token = w.protocol.vault.poolTokens poolId
    · have balance := Ledger.balance_move move account
      rw [if_neg outside, ← same] at balance
      rw [← same, Function.update_self]
      by_cases mine : account = user
      · simp only [due, mine, same, and_self, if_true] at balance ⊢ before
        omega
      · rw [if_neg mine] at balance
        have zero : due w token account (user, poolId) = 0 := by simp [due, Ne.symm mine]
        omega
    · have zero : due w token account (user, poolId) = 0 := by simp [due, Ne.symm same]
      rw [Function.update_of_ne same, zero]
      omega

end Leaving

section Reached
variable {d : Deployment} {authority governanceToken rewardToken : ContractAddress} {quorum : U256}
  {votingPeriod : U64} {block : Block} {tokens : Ledgers} {config : Config World Call Reply}
  (reaches : (economy d).Reaches (.initial
    ⟨d.deploy authority governanceToken rewardToken quorum votingPeriod block, tokens⟩) config)
include reaches

theorem covered (start : Sound d tokens) (few : Pools.added config.now.state.protocol.registry < fieldPrime)
    {user : ContractAddress} {poolId : Felt252} {amount : U256} (positive : 0 < amount.toNat)
    (enough : amount.toNat ≤ (config.now.state.protocol.vault.balances (user, poolId)).toNat) :
    amount.toNat ≤ (config.now.state.tokens
      (config.now.state.protocol.vault.poolTokens poolId) d.vault).toNat ∧
    config.now.state.protocol.vault.poolTokens poolId ∉ d.addresses := by
  have supplied := enough.trans ((pooled reaches).balanced.balance_le user poolId)
  have owed : (config.now.state.protocol.vault.totalSupply poolId).toNat ≤
      Pools.Custody.owed config.now.state.protocol.vault
        (config.now.state.protocol.vault.poolTokens poolId) :=
    Finset.single_le_sum (f := fun id => (config.now.state.protocol.vault.totalSupply id).toNat)
      (fun _ _ => Nat.zero_le _) (by simp)
  have slack := (solvent reaches).covered few (config.now.state.protocol.vault.poolTokens poolId)
  have held : Pools.Custody.owed config.now.state.protocol.vault
      (config.now.state.protocol.vault.poolTokens poolId) ≤ (config.now.state.tokens
        (config.now.state.protocol.vault.poolTokens poolId) d.vault).toNat := by
    rw [Pools.Custody.slack] at slack
    exact Int.ofNat_le.mp (sub_nonneg.mp slack)
  have enough := (supplied.trans owed).trans held
  refine ⟨enough, fun here => ?_⟩
  have nothing := (sound reaches start).absent _ here
  have part : (config.now.state.tokens
      (config.now.state.protocol.vault.poolTokens poolId) d.vault).toNat ≤
      (config.now.state.tokens (config.now.state.protocol.vault.poolTokens poolId)).supply :=
    Finset.single_le_sum (f := fun account => (config.now.state.tokens
      (config.now.state.protocol.vault.poolTokens poolId) account).toNat)
      (fun _ _ => Nat.zero_le _) (Finset.mem_univ d.vault)
  omega

theorem withdraw_served (start : Sound d tokens)
    (few : Pools.added config.now.state.protocol.registry < fieldPrime) {user : ContractAddress}
    {poolId : Felt252} {amount : U256} (positive : 0 < amount.toNat)
    (enough : amount.toNat ≤ (config.now.state.protocol.vault.balances (user, poolId)).toNat) :
    ∃ next, (economy d).Reaches config ⟨next, config.stack⟩ ∧
      Withdrawn d user poolId amount config.now.state next.state := by
  have owner : user ≠ 0 ∧ user ∉ d.addresses := by
    refine not_or.mp fun contract => ?_
    have nothing := unowned reaches (fun nonzero => contract.resolve_left nonzero) poolId
    rw [nothing, U256.toNat_zero] at enough
    omega
  have supplied : config.now.state.protocol.vault.totalSupply poolId ≠ 0 := by
    rw [U256.ne_zero_iff]
    exact positive.trans_le (enough.trans ((pooled reaches).balanced.balance_le user poolId))
  obtain ⟨held, outside⟩ := covered reaches start few positive enough
  obtain ⟨moved, move⟩ := Ledger.move_of_le user held ((sound reaches start).fits _)
  have completes := withdraw_completes (pooled reaches) owner.1
    ((pooled reaches).bound poolId supplied) enough outside move
  obtain ⟨_, next, withdrawn, run⟩ := completes.served owner.2 (code_vault user _)
  exact ⟨next, run, withdrawn⟩

theorem everybody_leaves (start : Sound d tokens)
    (few : Pools.added config.now.state.protocol.registry < fieldPrime)
    (left : Finset (ContractAddress × Felt252)) :
    ∃ next, (economy d).Reaches config ⟨next, config.stack⟩ ∧
      Left d left config.now.state next.state := by
  induction left using Finset.induction_on with
  | empty => exact ⟨config.now, .refl, .refl _⟩
  | @insert key left fresh ih =>
      obtain ⟨now, run, hasLeft⟩ := ih
      by_cases nothing : config.now.state.protocol.vault.balances key = 0
      · exact ⟨now, run, hasLeft.skip fresh nothing⟩
      have positive := (U256.ne_zero_iff _).mp nothing
      have whole := hasLeft.balances key
      rw [if_neg fresh] at whole
      obtain ⟨next, served, withdrawn⟩ := withdraw_served (reaches.trans run) start
        (by rw [hasLeft.registry]; exact few) positive (by rw [whole])
      exact ⟨next, run.trans served, hasLeft.withdraw fresh withdrawn⟩

end Reached

/-- Nobody is ever locked in: in every state that the protocol and its tokens reach, also while other
calls are waiting, each withdrawal of what the vault owes can be completed, which pays it and
touches nobody else's balance; and so everybody can leave. -/
theorem always_leaves (d : Deployment) (authority governanceToken rewardToken : ContractAddress)
    (quorum : U256) (votingPeriod : U64) (block : Block) (tokens : Ledgers)
    (start : Sound d tokens) {config : Config World Call Reply}
    (reaches : (economy d).Reaches (.initial
      ⟨d.deploy authority governanceToken rewardToken quorum votingPeriod block, tokens⟩) config)
    (few : Pools.added config.now.state.protocol.registry < fieldPrime) :
    (∀ user poolId (amount : U256), 0 < amount.toNat →
      amount.toNat ≤ (config.now.state.protocol.vault.balances (user, poolId)).toNat →
      ∃ next, (economy d).Reaches config ⟨next, config.stack⟩ ∧
        Withdrawn d user poolId amount config.now.state next.state) ∧
    ∃ next, (economy d).Reaches config ⟨next, config.stack⟩ ∧
      (∀ key, next.state.protocol.vault.balances key = 0) ∧
      ∀ token user, user ≠ d.vault →
        (next.state.tokens token user).toNat = (config.now.state.tokens token user).toNat +
          ∑ poolId with config.now.state.protocol.vault.poolTokens poolId = token,
            (config.now.state.protocol.vault.balances (user, poolId)).toNat := by
  refine ⟨fun user poolId amount positive enough =>
    withdraw_served reaches start few positive enough, ?_⟩
  obtain ⟨next, run, hasLeft⟩ := everybody_leaves reaches start few Finset.univ
  refine ⟨next, run, ?_, ?_⟩
  · intro key
    rw [hasLeft.balances, if_pos (Finset.mem_univ key)]
  · intro token user outside
    rw [hasLeft.paid token user outside, Fintype.sum_prod_type, Finset.sum_eq_single user]
    · simp [due, Finset.sum_filter]
    · intro other _ different
      simp [due, different]
    · exact fun missing => absurd (Finset.mem_univ user) missing

theorem always_leaves_waiting : ∃ (d : Deployment) (config : Config World Call Reply),
    config.stack.length = 1 ∧ config.now.state.protocol.vault.balances (10, 0) = 5 ∧
    (∃ next, (economy d).Reaches config ⟨next, config.stack⟩ ∧
      Withdrawn d 10 0 3 config.now.state next.state) ∧
    ∃ next, (economy d).Reaches config ⟨next, config.stack⟩ ∧
      ∀ key, next.state.protocol.vault.balances key = 0 := by
  -- 10 has deposited 5 of token 8; 14 is depositing 2, which the token has not taken yet
  have single : ∀ amount : U256, Ledger.supply (Function.update (fun _ => 0) 10 amount) =
      amount.toNat := by
    intro amount
    rw [Ledger.supply, Finset.sum_eq_single 10]
    · rw [Function.update_self]
    · intro other _ different
      rw [Function.update_of_ne different, U256.toNat_zero]
    · exact fun missing => absurd (Finset.mem_univ _) missing
  have start : Sound ⟨1, 2, 3, 4, 5, 6, by decide⟩
      (Function.update (fun _ _ => 0) 8 (Function.update (fun _ => 0) 10 5)) := by
    have empty : ∀ token : ContractAddress, token ≠ 8 → Ledger.supply
        (Function.update (fun _ _ => 0) 8 (Function.update (fun _ => 0) 10 5) token) = 0 := by
      intro token different
      rw [Function.update_of_ne different]
      exact Finset.sum_eq_zero fun _ _ => rfl
    constructor
    · intro token
      by_cases same : token = 8
      · rw [same, Function.update_self, single]
        decide
      · rw [empty token same]
        decide
    · intro token here
      exact empty token fun same => absurd (same ▸ here) (by decide)
  have run := ((economy ⟨1, 2, 3, 4, 5, 6, by decide⟩).start
    ⟨Deployment.deploy ⟨1, 2, 3, 4, 5, 6, by decide⟩ 7 12 13 10 100 ⟨1⟩,
      Function.update (fun _ _ => 0) 8 (Function.update (fun _ => 0) 10 5)⟩).enter
    ⟨7, 1, .strategyRegistry (.addPool 8 9 1 100)⟩ (by decide) rfl 2 rfl
  have run := ((run.enter ⟨10, 2, .vaultManager (.deposit 0 5)⟩ (by decide) rfl 2 rfl).reply
    .unit 1 rfl).reply .unit 3 rfl
  have run := run.enter ⟨14, 2, .vaultManager (.deposit 0 2)⟩ (by decide) rfl 2 rfl
  have leaves := always_leaves _ 7 12 13 10 100 ⟨1⟩ _ start run (by decide)
  obtain ⟨next, everybody, empty, -⟩ := leaves.2
  exact ⟨_, _, rfl, rfl, leaves.1 10 0 3 (by decide) (by decide), next, everybody, empty⟩

end Economy

end Kanaka.Proof.Protocol
