import Kanaka.Proof.Pools.Registry
import Kanaka.Proof.Token

namespace Kanaka.Proof.Pools.Custody
open Machine Contracts
open Registry (Deployment Linked)

abbrev Ledgers := LegacyMap ContractAddress Ledger

structure World where
  registry : StrategyRegistry.State
  vault : VaultManager.State
  tokens : Ledgers

instance : Has StrategyRegistry.State World where
  get := World.registry
  set registry w := { w with registry }
  get_set _ _ := rfl
  set_set _ _ _ := rfl

instance : Has VaultManager.State World where
  get := World.vault
  set vault w := { w with vault }
  get_set _ _ := rfl
  set_set _ _ _ := rfl

instance : Has Ledgers World where
  get := World.tokens
  set tokens w := { w with tokens }
  get_set _ _ := rfl
  set_set _ _ _ := rfl

@[simp] theorem World.get_registry (w : World) :
    (Has.get w : StrategyRegistry.State) = w.registry := rfl

@[simp] theorem World.get_vault (w : World) : (Has.get w : VaultManager.State) = w.vault := rfl

@[simp] theorem World.get_tokens (w : World) : (Has.get w : Ledgers) = w.tokens := rfl

@[simp] theorem World.set_registry (s : StrategyRegistry.State) (w : World) :
    (Has.set s w : World) = ⟨s, w.vault, w.tokens⟩ := rfl

@[simp] theorem World.set_vault (s : VaultManager.State) (w : World) :
    (Has.set s w : World) = ⟨w.registry, s, w.tokens⟩ := rfl

@[simp] theorem World.set_tokens (s : Ledgers) (w : World) :
    (Has.set s w : World) = ⟨w.registry, w.vault, s⟩ := rfl

/-- A transfer of `token`. The token may call anyone before and after it moves the amount, and it
reverts when one of these calls fails or the balances do not allow the transfer. -/
def transfer (token source target : ContractAddress) (amount : U256) : Entry World Reply := do
  let _ ← Code.send ⟨token, token, .other 0 []⟩
  let ledger := (← Code.load Ledgers) token
  let moved ← Code.orPanic "INSUFFICIENT_BALANCE" (ledger.move source target amount)
  Code.update fun ledgers : Ledgers => Function.update ledgers token moved
  let _ ← Code.send ⟨token, token, .other 0 []⟩
  return .bool true

def erc20 (token caller : ContractAddress) : Message → Option (Entry World Reply)
  | .erc20 (.transfer recipient amount) => some (transfer token caller recipient amount)
  | .erc20 (.transferFrom owner recipient amount) => some (transfer token owner recipient amount)
  | _ => none

/-- The two contracts and the tokens that the vault calls. What others do with tokens is up to them,
but the vault gives no allowance, so they cannot spend what is the vault's. -/
abbrev custody (d : Deployment) : System World Call Reply where
  code call := deployed [(d.registry, StrategyRegistry.entry d.registry),
    (d.vault, VaultManager.entry d.vault)] call <|> erc20 call.target call.sender call.message
  enters _ request _ := request.sender ≠ d.registry ∧ request.sender ≠ d.vault ∧
    (request.target = d.registry ∨ request.target = d.vault)
  drift w w' := w'.registry = w.registry ∧ w'.vault = w.vault ∧
    ∀ token, (w.tokens token d.vault).toNat ≤ (w'.tokens token d.vault).toNat
  tick _ _ := False

def owed (v : VaultManager.State) (token : ContractAddress) : Nat :=
  ∑ id with v.poolTokens id = token, (v.totalSupply id).toNat

/-- How much more of a token the vault has than its pools owe. -/
def slack (d : Deployment) (w : World) (token : ContractAddress) : Int :=
  (w.tokens token d.vault).toNat - owed w.vault token

structure Solvent (d : Deployment) (w : World) : Prop where
  linked : Linked d ⟨w.registry, w.vault⟩
  bound : added w.registry < fieldPrime →
    ∀ id, w.vault.totalSupply id ≠ 0 → w.vault.poolTokens id ≠ 0
  covered : added w.registry < fieldPrime → ∀ token, 0 ≤ slack d w token

/-- Pools keep their tokens, and the slack of each token grows by `gain` at least. -/
structure Gains (d : Deployment) (gain : ContractAddress → Int) (before after : World) : Prop where
  count : added before.registry ≤ added after.registry
  tokens : added after.registry < fieldPrime → ∀ id, before.vault.poolTokens id ≠ 0 →
    after.vault.poolTokens id = before.vault.poolTokens id
  slack : added after.registry < fieldPrime → ∀ token,
    slack d before token + gain token ≤ slack d after token

abbrev Keeps (d : Deployment) : World → World → Prop := Gains d 0

section Sums
variable (v : VaultManager.State)

theorem owed_writeTotalSupply (id : Felt252) (total : U256) (token : ContractAddress) :
    owed (v.writeTotalSupply id total) token +
        (if v.poolTokens id = token then (v.totalSupply id).toNat else 0) =
      owed v token + (if v.poolTokens id = token then total.toNat else 0) := by
  simp only [owed, Finset.sum_filter, VaultManager.State.writeTotalSupply_poolTokens,
    VaultManager.State.writeTotalSupply_totalSupply]
  exact sum_write v.totalSupply
    (fun other value => if v.poolTokens other = token then value.toNat else 0) id total

theorem owed_writePoolTokens {id : Felt252} (empty : v.totalSupply id = 0)
    (token other : ContractAddress) : owed (v.writePoolTokens id token) other = owed v other := by
  simp only [owed, Finset.sum_filter, VaultManager.State.writePoolTokens_poolTokens,
    VaultManager.State.writePoolTokens_totalSupply]
  apply Finset.sum_congr rfl
  intro pool _
  by_cases same : pool = id
  · rw [same, empty]
    simp
  · rw [Function.update_of_ne same]

end Sums

namespace Gains
variable {d : Deployment} {gain gain' : ContractAddress → Int} {w w' w'' : World}

theorem refl (w : World) : Keeps d w w :=
  ⟨le_rfl, fun _ _ _ => rfl, fun _ _ => (add_zero _).le⟩

theorem trans (first : Gains d gain w w') (second : Gains d gain' w' w'') :
    Gains d (gain + gain') w w'' := by
  refine ⟨first.count.trans second.count, ?_, ?_⟩
  · intro few id bound
    have kept := first.tokens (second.count.trans_lt few) id bound
    rw [← kept] at bound
    exact (second.tokens few id bound).trans kept
  · intro few token
    have before := first.slack (second.count.trans_lt few) token
    have after := second.slack few token
    rw [Pi.add_apply]
    omega

theorem keeps_trans (first : Keeps d w w') (second : Keeps d w' w'') : Keeps d w w'' := by
  have both := first.trans second
  rwa [add_zero] at both

theorem weaken (gains : Gains d gain w w')
    (less : added w'.registry < fieldPrime → ∀ token, gain' token ≤ gain token) :
    Gains d gain' w w' := by
  refine ⟨gains.count, gains.tokens, ?_⟩
  intro few token
  have grown := gains.slack few token
  have small := less few token
  omega

theorem of_same (registry : added w'.registry = added w.registry)
    (pools : w'.vault.poolTokens = w.vault.poolTokens)
    (supply : w'.vault.totalSupply = w.vault.totalSupply)
    (tokens : ∀ token, (w.tokens token d.vault).toNat ≤ (w'.tokens token d.vault).toNat) :
    Keeps d w w' := by
  refine ⟨registry.ge, ?_, ?_⟩
  · intro _ id _
    rw [pools]
  · intro _ token
    have held := tokens token
    have same : owed w'.vault token = owed w.vault token := by rw [owed, owed, pools, supply]
    simp only [Custody.slack, same, Pi.zero_apply]
    omega

theorem covered (gains : Gains d gain w w')
    (enough : added w.registry < fieldPrime → ∀ token, 0 ≤ Custody.slack d w token + gain token)
    (few : added w'.registry < fieldPrime) (token : ContractAddress) :
    0 ≤ Custody.slack d w' token :=
  (enough (gains.count.trans_lt few) token).trans (gains.slack few token)

end Gains

def received (d : Deployment) (token source target : ContractAddress) (amount : U256)
    (other : ContractAddress) : Int :=
  if token = other then
    (if d.vault = target then (amount.toNat : Int) else 0) -
      (if d.vault = source then (amount.toNat : Int) else 0)
  else 0

def released (v : VaultManager.State) (id : Felt252) (total : U256) (token : ContractAddress) : Int :=
  if v.poolTokens id = token then ((v.totalSupply id).toNat : Int) - total.toNat else 0

section Moves
variable {d : Deployment} {w : World}

theorem Gains.transfer {token source target : ContractAddress} {amount : U256} {ledger : Ledger}
    (moved : (w.tokens token).move source target amount = some ledger) :
    Gains d (received d token source target amount) w
      ⟨w.registry, w.vault, Function.update w.tokens token ledger⟩ := by
  refine ⟨le_rfl, fun _ _ _ => rfl, ?_⟩
  intro _ other
  simp only [Custody.slack, received]
  by_cases same : token = other
  · have held := Ledger.balance_move moved d.vault
    rw [← same, Function.update_self, if_pos rfl]
    omega
  · rw [Function.update_of_ne (Ne.symm same), if_neg same, add_zero]

theorem Gains.release (key : ContractAddress × Felt252) (balance : U256) (id : Felt252)
    (total : U256) :
    Gains d (released w.vault id total) w
      ⟨w.registry, (w.vault.writeBalances key balance).writeTotalSupply id total, w.tokens⟩ := by
  refine ⟨le_rfl, fun _ _ _ => rfl, ?_⟩
  intro _ token
  have sum := owed_writeTotalSupply (w.vault.writeBalances key balance) id total token
  have same : owed (w.vault.writeBalances key balance) token = owed w.vault token := rfl
  simp only [same, VaultManager.State.writeBalances_poolTokens,
    VaultManager.State.writeBalances_totalSupply] at sum
  simp only [Custody.slack, released]
  split at sum <;> rename_i owner
  · rw [if_pos owner]
    omega
  · rw [if_neg owner]
    omega

theorem Solvent.transfer (solvent : Solvent d w) {token : ContractAddress} {ledger : Ledger}
    (covered : added w.registry < fieldPrime → ∀ other,
      0 ≤ slack d ⟨w.registry, w.vault, Function.update w.tokens token ledger⟩ other) :
    Solvent d ⟨w.registry, w.vault, Function.update w.tokens token ledger⟩ :=
  ⟨solvent.linked, solvent.bound, covered⟩

theorem Solvent.release (solvent : Solvent d w) {key : ContractAddress × Felt252} {balance : U256}
    {id : Felt252} {total : U256}
    (registered : added w.registry < fieldPrime → w.vault.poolTokens id ≠ 0)
    (covered : added w.registry < fieldPrime → ∀ token, 0 ≤ slack d
      ⟨w.registry, (w.vault.writeBalances key balance).writeTotalSupply id total, w.tokens⟩ token) :
    Solvent d ⟨w.registry, (w.vault.writeBalances key balance).writeTotalSupply id total,
      w.tokens⟩ := by
  refine ⟨solvent.linked.vault d rfl rfl, ?_, covered⟩
  intro few other supplied
  by_cases same : other = id
  · rw [same]
    exact registered few
  · simp only [VaultManager.State.writeTotalSupply_totalSupply,
      VaultManager.State.writeBalances_totalSupply, Function.update_of_ne same] at supplied
    exact solvent.bound few other supplied

theorem Solvent.keeps {w' : World} (solvent : Solvent d w) (keeps : Keeps d w w')
    (few : added w'.registry < fieldPrime) (token : ContractAddress) : 0 ≤ slack d w' token := by
  apply keeps.covered _ few
  intro fewBefore other
  rw [Pi.zero_apply, add_zero]
  exact solvent.covered fewBefore other

theorem Solvent.of_same {w' : World} (solvent : Solvent d w)
    (linked : Linked d ⟨w'.registry, w'.vault⟩)
    (registry : added w'.registry = added w.registry)
    (pools : w'.vault.poolTokens = w.vault.poolTokens)
    (supply : w'.vault.totalSupply = w.vault.totalSupply)
    (tokens : ∀ token, (w.tokens token d.vault).toNat ≤ (w'.tokens token d.vault).toNat) :
    Solvent d w' := by
  refine ⟨linked, ?_, solvent.keeps (Gains.of_same registry pools supply tokens)⟩
  rw [registry, pools, supply]
  exact solvent.bound

/-- `add_pool` binds an id that nobody has used, so that the vault owes nothing for it. -/
theorem Solvent.free_supply (solvent : Solvent d w) (few : added w.registry < fieldPrime) :
    w.vault.poolTokens w.registry.poolCount = 0 ∧ w.vault.totalSupply w.registry.poolCount = 0 := by
  have free := ((solvent.linked.pools few).free w.registry.poolCount le_rfl).2
  refine ⟨free, ?_⟩
  by_contra supplied
  exact solvent.bound few _ supplied free

theorem Gains.addPool (solvent : Solvent d w) (pool : Pool) :
    Keeps d w ⟨opened w.registry pool, w.vault.writePoolTokens w.registry.poolCount pool.token,
      w.tokens⟩ := by
  refine ⟨?_, ?_, ?_⟩
  · rw [added_opened]
    exact Nat.le_succ _
  · intro few id bound
    rw [added_opened] at few
    have free := solvent.free_supply (Nat.lt_of_succ_lt few)
    rw [VaultManager.State.writePoolTokens_poolTokens, Function.update_of_ne]
    rintro rfl
    exact bound free.1
  · intro few token
    rw [added_opened] at few
    have free := solvent.free_supply (Nat.lt_of_succ_lt few)
    rw [Custody.slack, Custody.slack, owed_writePoolTokens w.vault free.2, Pi.zero_apply, add_zero]

theorem Solvent.addPool (solvent : Solvent d w) (pool : Pool) (token : pool.token ≠ 0)
    (strategy : pool.strategy ≠ 0) :
    Solvent d ⟨opened w.registry pool, w.vault.writePoolTokens w.registry.poolCount pool.token,
      w.tokens⟩ := by
  refine ⟨solvent.linked.addPool d pool token strategy, ?_, solvent.keeps (Gains.addPool solvent pool)⟩
  intro few id supplied
  rw [added_opened] at few
  rw [VaultManager.State.writePoolTokens_poolTokens]
  by_cases new : id = w.registry.poolCount
  · rw [new, Function.update_self]
    exact token
  · rw [Function.update_of_ne new]
    exact solvent.bound (Nat.lt_of_succ_lt few) id supplied

end Moves

section Code
variable (d : Deployment)

theorem code_registry (sender : ContractAddress) (message : Message) :
    (custody d).code ⟨sender, d.registry, message⟩ =
      some (StrategyRegistry.entry d.registry sender message) := by
  simp

theorem code_vault (sender : ContractAddress) (message : Message) :
    (custody d).code ⟨sender, d.vault, message⟩ =
      some (VaultManager.entry d.vault sender message) := by
  simp [d.vault_ne_registry]

theorem code_token {token : ContractAddress} (registry : token ≠ d.registry)
    (vault : token ≠ d.vault) (sender : ContractAddress) (message : Message) :
    (custody d).code ⟨sender, token, message⟩ = erc20 token sender message := by
  simp [registry, vault]

theorem unserved {sender target : ContractAddress} {message : Message} {w : World}
    (registry : ∀ m, message ≠ .strategyRegistry m) (vault : ∀ m, message ≠ .vaultManager m)
    (token : ∀ m, message ≠ .erc20 m) (body : Entry World Reply)
    (found : (custody d).code ⟨sender, target, message⟩ = some body) :
    ∃ reason, body.run w = .panic reason := by
  by_cases here : target = d.registry
  · rw [here, code_registry] at found
    cases found
    exact ⟨_, StrategyRegistry.entry_foreign _ _ registry⟩
  by_cases there : target = d.vault
  · rw [there, code_vault] at found
    cases found
    exact ⟨_, VaultManager.entry_foreign _ _ vault⟩
  rw [code_token d here there] at found
  cases message with
  | erc20 m => exact absurd rfl (token m)
  | _ => contradiction

end Code

section Entries
variable (d : Deployment) (caller : ContractAddress)

abbrev KeepsSolvent {α : Type} (first w : World) (code : Entry World α)
    (history : List (Crossing World Call Reply)) : Prop :=
  Safe (custody d) (fun now => Solvent d now.state) (Keeps d)
    (fun _ next => Solvent d next.state ∧ Keeps d first next.state) (code.run w) history

theorem keepsSolvent_announce {first w : World} (solvent : Solvent d w) (keeps : Keeps d first w)
    (event : VaultManager.Event) :
    Solvent d ⟨w.registry, w.vault.emit event, w.tokens⟩ ∧
      Keeps d first ⟨w.registry, w.vault.emit event, w.tokens⟩ := by
  constructor
  · exact solvent.of_same (solvent.linked.vault d rfl rfl) rfl rfl rfl fun _ => le_rfl
  · exact keeps.keeps_trans (Gains.of_same rfl rfl rfl fun _ => le_rfl)

theorem keepsSolvent_transfer {w : World} {token source target : ContractAddress} {amount : U256}
    {message : IERC20} {Q : Reply → Snapshot World Call Reply → Prop}
    {history : List (Crossing World Call Reply)}
    (serves : erc20 token d.vault (.erc20 message) = some (transfer token source target amount))
    (solvent : Solvent d w)
    (enough : added w.registry < fieldPrime → ∀ other,
      0 ≤ slack d w other + received d token source target amount other)
    (post : ∀ reply (now : Snapshot World Call Reply), Solvent d now.state →
      Gains d (received d token source target amount) w now.state → Q reply now) :
    Safe (custody d) (fun now => Solvent d now.state) (Keeps d) Q
      ((Code.send ⟨d.vault, token, .erc20 message⟩ : Entry World Reply).run w) history := by
  by_cases registry : token = d.registry
  · rw [registry]
    apply Safe.sendIn (code_registry d d.vault _)
    rw [StrategyRegistry.entry_foreign d.registry d.vault (by simp)]
    exact .panic
  by_cases vault : token = d.vault
  · rw [vault]
    apply Safe.sendIn (code_vault d d.vault _)
    rw [VaultManager.entry_foreign d.vault d.vault (by simp)]
    exact .panic
  apply Safe.sendIn ((code_token d registry vault d.vault _).trans serves)
  apply Safe.bind
  apply Safe.send (unserved d (by simp) (by simp) (by simp)) solvent
  intro _ called calledSolvent before
  apply Safe.load
  apply Safe.orPanic
  intro ledger moved
  apply Safe.update
  simp only [World.get_tokens, World.set_tokens] at moved ⊢
  have moves := before.trans (Gains.transfer moved)
  rw [zero_add] at moves
  apply Safe.bind
  apply Safe.send (unserved d (by simp) (by simp) (by simp))
    (calledSolvent.transfer (moves.covered enough))
  intro _ done doneSolvent after
  have gains := moves.trans after
  rw [add_zero] at gains
  exact .done (post _ done doneSolvent gains)

theorem deposit_keepsSolvent (poolId : Felt252) (amount : U256) (w : World)
    (history : List (Crossing World Call Reply)) (solvent : Solvent d w)
    (outside : caller ≠ d.vault) :
    KeepsSolvent d w w (VaultManager.deposit d.vault caller poolId amount) history := by
  apply VaultManager.safe_deposit
  intro _ _ registered
  rw [World.get_vault] at registered ⊢
  have incoming : ∀ token, received d (w.vault.poolTokens poolId) caller d.vault amount token =
      if w.vault.poolTokens poolId = token then (amount.toNat : Int) else 0 := by
    intro token
    rw [received, if_pos rfl, if_neg outside.symm, sub_zero]
  apply keepsSolvent_transfer d rfl solvent
  · intro few token
    have covered := solvent.covered few token
    rw [incoming]
    split <;> omega
  intro _ paid paidSolvent gains newBalance newTotal _ total_eq
  simp only [World.get_vault, World.set_vault] at total_eq ⊢
  -- what the pool owes more is what the token has brought in
  have keeps : Keeps d w ⟨paid.state.registry, (paid.state.vault.writeBalances (caller, poolId)
      newBalance).writeTotalSupply poolId newTotal, paid.state.tokens⟩ := by
    apply (gains.trans (Gains.release (caller, poolId) newBalance poolId newTotal)).weaken
    intro few token
    have bound := gains.tokens few poolId registered
    rw [Pi.add_apply, incoming, released, bound, total_eq, Pi.zero_apply]
    split <;> omega
  have written : Solvent d ⟨paid.state.registry, (paid.state.vault.writeBalances (caller, poolId)
      newBalance).writeTotalSupply poolId newTotal, paid.state.tokens⟩ := by
    apply paidSolvent.release
    · intro few
      rw [gains.tokens few poolId registered]
      exact registered
    · intro few token
      exact solvent.keeps keeps few token
  apply Safe.send (unserved d (by simp) (by simp) (by simp)) written
  intro _ told toldSolvent after
  exact keepsSolvent_announce d toldSolvent (keeps.keeps_trans after) _

theorem withdraw_keepsSolvent (poolId : Felt252) (amount : U256) (w : World)
    (history : List (Crossing World Call Reply)) (solvent : Solvent d w)
    (outside : caller ≠ d.vault) :
    KeepsSolvent d w w (VaultManager.withdraw d.vault caller poolId amount) history := by
  apply VaultManager.safe_withdraw
  intro newBalance newTotal _ registered _ total_eq
  simp only [World.get_vault, World.set_vault] at registered total_eq ⊢
  have outgoing : ∀ token, received d (w.vault.poolTokens poolId) d.vault caller amount token =
      if w.vault.poolTokens poolId = token then -(amount.toNat : Int) else 0 := by
    intro token
    rw [received, if_pos rfl, if_neg outside.symm, zero_sub]
  have freed : ∀ token, released w.vault poolId newTotal token =
      if w.vault.poolTokens poolId = token then (amount.toNat : Int) else 0 := by
    intro token
    rw [released, ← total_eq]
    split <;> omega
  have gains := Gains.release (d := d) (w := w) (caller, poolId) newBalance poolId newTotal
  have written : Solvent d ⟨w.registry, (w.vault.writeBalances (caller, poolId)
      newBalance).writeTotalSupply poolId newTotal, w.tokens⟩ := by
    apply solvent.release (fun _ => registered)
    apply gains.covered
    intro few token
    have covered := solvent.covered few token
    rw [freed]
    split <;> omega
  apply Safe.send (unserved d (by simp) (by simp) (by simp)) written
  intro _ told toldSolvent after
  have freedNow := gains.trans after
  rw [add_zero] at freedNow
  -- the supply has been lowered before the token is called
  apply keepsSolvent_transfer d rfl toldSolvent
  · intro few token
    have covered := solvent.covered (freedNow.count.trans_lt few) token
    have grown := freedNow.slack few token
    rw [freed] at grown
    rw [outgoing]
    split at grown <;> rename_i owner
    · rw [if_pos owner]
      omega
    · rw [if_neg owner]
      omega
  intro _ paid paidSolvent paying
  have balanced : Keeps d w paid.state := by
    apply (freedNow.trans paying).weaken
    intro few token
    rw [Pi.add_apply, freed, outgoing, Pi.zero_apply]
    split <;> omega
  exact keepsSolvent_announce d paidSolvent balanced _

theorem vaultAddPool_keepsSolvent (poolId : Felt252) (token : ContractAddress) (w : World)
    (history : List (Crossing World Call Reply)) (solvent : Solvent d w)
    (outside : caller ≠ d.registry) :
    KeepsSolvent d w w (VaultManager.addPool caller poolId token) history := by
  apply VaultManager.safe_addPool
  intro authorized _
  exact absurd (authorized.trans solvent.linked.vaultRegistry) outside

theorem addPool_keepsSolvent (token strategy : ContractAddress) (minDeposit maxCapacity : U256)
    (w : World) (history : List (Crossing World Call Reply)) (solvent : Solvent d w) :
    KeepsSolvent d w w
      (StrategyRegistry.addPool d.registry caller token strategy minDeposit maxCapacity)
      history := by
  have registryVault : w.registry.vaultManager = d.vault := solvent.linked.registryVault
  apply StrategyRegistry.safe_addPool
  intro _ tokenNonzero strategyNonzero
  rw [World.get_registry, registryVault]
  apply Safe.sendIn (code_vault d d.registry _)
  apply Safe.bind
  apply VaultManager.safe_addPool
  intro _ _
  exact .done ⟨solvent.addPool ⟨token, strategy, true, minDeposit, maxCapacity⟩ tokenNonzero
    strategyNonzero, Gains.addPool solvent ⟨token, strategy, true, minDeposit, maxCapacity⟩⟩

theorem keepsSolvent_emit {first w : World} {r : StrategyRegistry.State}
    (event : StrategyRegistry.Event) (other : ∀ id token strategy, event ≠ .poolAdded id token strategy)
    (solvent : Solvent d w) (keeps : Keeps d first w) (linked : Linked d ⟨r, w.vault⟩)
    (events : r.events = w.registry.events) :
    Solvent d ⟨r.emit event, w.vault, w.tokens⟩ ∧ Keeps d first ⟨r.emit event, w.vault, w.tokens⟩ := by
  have same : added (r.emit event) = added w.registry := by
    rw [added_emit r other, added, added, events]
  constructor
  · exact solvent.of_same (linked.emit d other) same rfl rfl fun _ => le_rfl
  · exact keeps.keeps_trans (Gains.of_same same rfl rfl fun _ => le_rfl)

theorem updatePool_keepsSolvent (poolId : Felt252) (active : Bool) (minDeposit maxCapacity : U256)
    (w : World) (history : List (Crossing World Call Reply)) (solvent : Solvent d w) :
    KeepsSolvent d w w (StrategyRegistry.updatePool caller poolId active minDeposit maxCapacity)
      history := by
  apply StrategyRegistry.safe_updatePool
  intro _ known
  apply keepsSolvent_emit d _ (by simp) solvent (.refl w)
  · exact solvent.linked.updatePool d known rfl rfl
  · rfl

theorem executeRebalance_keepsSolvent (newWeights : CairoArray U256) (w : World)
    (history : List (Crossing World Call Reply)) (solvent : Solvent d w) :
    KeepsSolvent d w w (StrategyRegistry.executeRebalance d.registry caller newWeights) history := by
  apply StrategyRegistry.safe_executeRebalance
  intro _
  apply StrategyRegistry.safe_executeLoop d.registry fun now => Solvent d now ∧ Keeps d w now
  · exact fun s target weight => unserved d (by simp) (by simp) (by simp)
  · exact fun s history request kept => kept.1
  · exact fun s now kept solvent related => ⟨solvent, kept.2.keeps_trans related⟩
  · exact fun s poolId strategy kept =>
      keepsSolvent_emit d _ (by simp) kept.1 kept.2 kept.1.linked rfl
  · exact fun s history kept => kept
  · exact ⟨solvent, .refl w⟩

theorem custody_keepsSolvent :
    Certified (custody d) (fun now => Solvent d now.state) (Keeps d) (Keeps d) where
  rely_refl := Gains.refl
  rely_trans first second := first.keeps_trans second
  guarantee_trans first second := first.keeps_trans second
  resumed _ solvent := solvent
  enter {depth request body now} enters found solvent := by
    obtain ⟨notRegistry, notVault, here | there⟩ := enters
    · obtain ⟨sender, target, message⟩ := request
      cases here
      rw [code_registry] at found
      cases found
      exact StrategyRegistry.safe_entry d.registry sender message ⟨solvent, .refl _⟩
        (fun token strategy minDeposit maxCapacity _ =>
          addPool_keepsSolvent d _ token strategy minDeposit maxCapacity _ _ solvent)
        (fun poolId active minDeposit maxCapacity _ =>
          updatePool_keepsSolvent d _ poolId active minDeposit maxCapacity _ _ solvent)
        (fun newWeights => executeRebalance_keepsSolvent d _ newWeights _ _ solvent)
    · obtain ⟨sender, target, message⟩ := request
      cases there
      rw [code_vault] at found
      cases found
      exact VaultManager.safe_entry d.vault sender message ⟨solvent, .refl _⟩
        (fun poolId amount _ => deposit_keepsSolvent d _ poolId amount _ _ solvent notVault)
        (fun poolId amount _ => withdraw_keepsSolvent d _ poolId amount _ _ solvent notVault)
        (fun poolId token _ => vaultAddPool_keepsSolvent d _ poolId token _ _ solvent notRegistry)
  nested _ keeps := keeps
  drift {now w} solvent moves := by
    obtain ⟨registry, vault, tokens⟩ := moves
    have keeps : Keeps d now.state w :=
      .of_same (by rw [registry]) (by rw [vault]) (by rw [vault]) tokens
    refine ⟨?_, keeps, keeps⟩
    apply solvent.of_same _ (by rw [registry]) (by rw [vault]) (by rw [vault]) tokens
    rw [registry, vault]
    exact solvent.linked
  tick _ impossible := impossible.elim

end Entries

theorem constructor_solvent (d : Deployment) (yieldEngine governance yieldEngine' : ContractAddress)
    (tokens : Ledgers) :
    Solvent d ⟨StrategyRegistry.constructor d.vault yieldEngine governance,
      VaultManager.constructor d.registry yieldEngine', tokens⟩ := by
  refine ⟨⟨rfl, rfl, fun _ => constructor_registered _ _ _ _ _⟩, ?_, ?_⟩
  · intro _ id supplied
    exact absurd rfl supplied
  · intro _ token
    simp [slack, owed, VaultManager.constructor]

/-- The vault holds what it owes, in every token, also while tokens and other contracts are being
called. -/
theorem vault_solvent (d : Deployment) (yieldEngine governance yieldEngine' : ContractAddress)
    (tokens : Ledgers) {config : Config World Call Reply}
    (reaches : (custody d).Reaches
      (.initial ⟨StrategyRegistry.constructor d.vault yieldEngine governance,
        VaultManager.constructor d.registry yieldEngine', tokens⟩) config)
    (few : added config.now.state.registry < fieldPrime) (token : ContractAddress) :
    ∑ id with config.now.state.vault.poolTokens id = token,
        (config.now.state.vault.totalSupply id).toNat ≤
      (config.now.state.tokens token d.vault).toNat := by
  have start := constructor_solvent d yieldEngine governance yieldEngine' tokens
  have covered := ((custody_keepsSolvent d).invariant rfl start reaches).covered few token
  rw [slack, owed] at covered
  omega

theorem vault_solvent_withdrawing : ∃ config : Config World Call Reply,
    config.now.state.vault.totalSupply 0 = 2 ∧ config.now.state.tokens 8 2 = 5 ∧
    ∑ id with config.now.state.vault.poolTokens id = 8,
        (config.now.state.vault.totalSupply id).toNat ≤
      (config.now.state.tokens 8 2).toNat := by
  -- user 7 has deposited 5 of token 8 and is withdrawing 3, which the token has not sent yet
  have run := ((custody ⟨1, 2, by decide⟩).start ⟨StrategyRegistry.constructor 2 5 6,
    VaultManager.constructor 1 5, fun _ => Function.update (fun _ => 0) 7 5⟩).enter
    ⟨6, 1, .strategyRegistry (.addPool 8 9 1 100)⟩ (by decide) rfl 1 rfl
  have run := (((run.enter ⟨7, 2, .vaultManager (.deposit 0 5)⟩ (by decide) rfl 2 rfl).reply
    .unit 1 rfl).reply .unit 1 rfl).reply .unit 1 rfl
  have run := (run.enter ⟨7, 2, .vaultManager (.withdraw 0 3)⟩ (by decide) rfl 1 rfl).reply
    .unit 2 rfl
  have solvent := vault_solvent _ 5 6 5 _ run (by decide) 8
  exact ⟨_, rfl, rfl, solvent⟩

end Kanaka.Proof.Pools.Custody
