import Kanaka.Contracts.StrategyRegistry
import Kanaka.Contracts.VaultManager

namespace Kanaka.Proof.Pools
open Machine Contracts

def added (r : StrategyRegistry.State) : Nat :=
  r.events.countP fun
    | .poolAdded _ _ _ => true
    | _ => false

structure Live (r : StrategyRegistry.State) (v : VaultManager.State) (id : Felt252) : Prop where
  token : (r.pools id).token ≠ 0
  strategy : (r.pools id).strategy ≠ 0
  bound : v.poolTokens id = (r.pools id).token
  announced : .poolAdded id (r.pools id).token (r.pools id).strategy ∈ r.events

structure Registered (r : StrategyRegistry.State) (v : VaultManager.State) : Prop where
  count : r.poolCount.val = added r
  live : ∀ id, id.val < r.poolCount.val → Live r v id
  created : ∀ id token strategy, .poolAdded id token strategy ∈ r.events →
    id.val < r.poolCount.val ∧ (r.pools id).token = token ∧ (r.pools id).strategy = strategy
  free : ∀ id, r.poolCount.val ≤ id.val → r.pools id = .zero ∧ v.poolTokens id = 0

theorem added_emit_poolAdded (r : StrategyRegistry.State) (id : Felt252)
    (token strategy : ContractAddress) :
    added (r.emit (.poolAdded id token strategy)) = added r + 1 := by
  simp [added]

def opened (r : StrategyRegistry.State) (pool : Pool) : StrategyRegistry.State :=
  ((r.writePools r.poolCount pool).writePoolCount (r.poolCount + 1)).emit
    (.poolAdded r.poolCount pool.token pool.strategy)

theorem opened_pools_self (r : StrategyRegistry.State) (pool : Pool) :
    (opened r pool).pools r.poolCount = pool :=
  Function.update_self ..

theorem opened_pools_of_ne (r : StrategyRegistry.State) (pool : Pool) {id : Felt252}
    (ne : id ≠ r.poolCount) : (opened r pool).pools id = r.pools id :=
  Function.update_of_ne ne _ _

theorem mem_opened {r : StrategyRegistry.State} {pool : Pool} {event : StrategyRegistry.Event} :
    event ∈ (opened r pool).events ↔
      event ∈ r.events ∨ event = .poolAdded r.poolCount pool.token pool.strategy := by
  rw [opened, StrategyRegistry.State.emit_events, List.mem_append, List.mem_singleton]
  rfl

theorem added_opened (r : StrategyRegistry.State) (pool : Pool) :
    added (opened r pool) = added r + 1 :=
  added_emit_poolAdded _ _ _ _

theorem added_emit (r : StrategyRegistry.State) {event : StrategyRegistry.Event}
    (other : ∀ id token strategy, event ≠ .poolAdded id token strategy) :
    added (r.emit event) = added r := by
  cases event with
  | poolAdded id token strategy => exact absurd rfl (other id token strategy)
  | poolUpdated | strategyExecuted => simp [added]

theorem val_add_one {id : Felt252} (few : id.val + 1 < fieldPrime) : (id + 1).val = id.val + 1 := by
  have one : (1 : Felt252).val = 1 := rfl
  rw [Fin.val_add, one, Nat.mod_eq_of_lt few]

theorem constructor_registered (vaultManager yieldEngine governance : ContractAddress)
    (strategyRegistry yieldEngine' : ContractAddress) :
    Registered (StrategyRegistry.constructor vaultManager yieldEngine governance)
      (VaultManager.constructor strategyRegistry yieldEngine') := by
  constructor <;> simp [StrategyRegistry.constructor, VaultManager.constructor, added]

namespace Registered
variable {r : StrategyRegistry.State} {v : VaultManager.State}

theorem live_of_token (registered : Registered r v) {id : Felt252} (token : (r.pools id).token ≠ 0) :
    id.val < r.poolCount.val := by
  by_contra free
  rw [(registered.free id (not_lt.mp free)).1] at token
  exact token rfl

theorem emit (registered : Registered r v) {event : StrategyRegistry.Event}
    (other : ∀ id token strategy, event ≠ .poolAdded id token strategy) :
    Registered (r.emit event) v := by
  refine ⟨(registered.count).trans (added_emit r other).symm, ?_, ?_, registered.free⟩
  · intro id below
    have live := registered.live id below
    exact { live with announced := List.mem_append_left _ live.announced }
  · intro id token strategy member
    rcases List.mem_append.mp member with member | member
    · exact registered.created id token strategy member
    · exact absurd (List.mem_singleton.mp member).symm (other id token strategy)

theorem vault (registered : Registered r v) {v' : VaultManager.State}
    (same : v'.poolTokens = v.poolTokens) : Registered r v' := by
  refine ⟨registered.count, ?_, registered.created, ?_⟩
  · intro id below
    have live := registered.live id below
    exact { live with bound := same ▸ live.bound }
  · rw [same]
    exact registered.free

theorem updatePool (registered : Registered r v) {id : Felt252} {pool : Pool}
    (below : id.val < r.poolCount.val) (token : pool.token = (r.pools id).token)
    (strategy : pool.strategy = (r.pools id).strategy) : Registered (r.writePools id pool) v := by
  -- the whole struct is rewritten, with the token and the strategy that were read
  have same : ∀ other, ((r.writePools id pool).pools other).token = (r.pools other).token ∧
      ((r.writePools id pool).pools other).strategy = (r.pools other).strategy := by
    intro other
    rw [StrategyRegistry.State.writePools_pools]
    by_cases eq : other = id
    · rw [eq, Function.update_self]
      exact ⟨token, strategy⟩
    · rw [Function.update_of_ne eq]
      exact ⟨rfl, rfl⟩
  refine ⟨registered.count, ?_, ?_, ?_⟩
  · intro other otherBelow
    have live := registered.live other otherBelow
    constructor
    · rw [(same other).1]
      exact live.token
    · rw [(same other).2]
      exact live.strategy
    · rw [(same other).1]
      exact live.bound
    · rw [(same other).1, (same other).2]
      exact live.announced
  · intro other otherToken otherStrategy member
    rw [(same other).1, (same other).2]
    exact registered.created other otherToken otherStrategy member
  · intro other free
    have ne : other ≠ id := by
      rintro rfl
      exact absurd below (not_lt.mpr free)
    rw [StrategyRegistry.State.writePools_pools, Function.update_of_ne ne]
    exact registered.free other free

theorem addPool (registered : Registered r v) {pool : Pool} (few : added r + 1 < fieldPrime)
    (token : pool.token ≠ 0) (strategy : pool.strategy ≠ 0) :
    Registered (opened r pool) (v.writePoolTokens r.poolCount pool.token) := by
  have next : (opened r pool).poolCount.val = r.poolCount.val + 1 :=
    val_add_one (registered.count ▸ few)
  have new_token : (v.writePoolTokens r.poolCount pool.token).poolTokens r.poolCount = pool.token :=
    Function.update_self ..
  have old_token : ∀ id, id ≠ r.poolCount →
      (v.writePoolTokens r.poolCount pool.token).poolTokens id = v.poolTokens id :=
    fun id ne => Function.update_of_ne ne _ _
  constructor
  · rw [next, added_opened, registered.count]
  · intro id below
    rw [next] at below
    by_cases new : id = r.poolCount
    · subst new
      constructor
      · rwa [opened_pools_self]
      · rwa [opened_pools_self]
      · rw [opened_pools_self, new_token]
      · rw [opened_pools_self]
        exact mem_opened.mpr (.inr rfl)
    · have ne : id.val ≠ r.poolCount.val := fun eq => new (Fin.ext eq)
      have live := registered.live id (by omega)
      constructor
      · rw [opened_pools_of_ne r pool new]
        exact live.token
      · rw [opened_pools_of_ne r pool new]
        exact live.strategy
      · rw [opened_pools_of_ne r pool new, old_token id new]
        exact live.bound
      · rw [opened_pools_of_ne r pool new]
        exact mem_opened.mpr (.inl live.announced)
  · intro id token' strategy' member
    rw [next]
    rcases mem_opened.mp member with member | eq
    · have created := registered.created id token' strategy' member
      have ne : id ≠ r.poolCount := by
        rintro rfl
        exact absurd created.1 (lt_irrefl _)
      rw [opened_pools_of_ne r pool ne]
      exact ⟨created.1.trans (Nat.lt_succ_self _), created.2⟩
    · simp only [StrategyRegistry.Event.poolAdded.injEq] at eq
      obtain ⟨rfl, rfl, rfl⟩ := eq
      rw [opened_pools_self]
      exact ⟨Nat.lt_succ_self _, rfl, rfl⟩
  · intro id free
    rw [next] at free
    have ne : id ≠ r.poolCount := by
      rintro rfl
      omega
    rw [opened_pools_of_ne r pool ne, old_token id ne]
    exact registered.free id (by omega)

end Registered

end Kanaka.Proof.Pools
