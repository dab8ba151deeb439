import Kanaka.Contracts.Network
import Kanaka.Machine.Simulate
import Kanaka.Proof.Pools.Registration

namespace Kanaka.Proof.Pools.Registry
open Machine Contracts

structure World where
  registry : StrategyRegistry.State
  vault : VaultManager.State

instance : Has StrategyRegistry.State World where
  get := World.registry
  set registry w := { w with registry }
  get_set _ _ := rfl
  set_set _ _ _ := rfl

instance : Has VaultManager.State World where
  get := World.vault
  set vault w := { w with vault }
  get_set _ _ := rfl
  set_set _ _ _ := rfl

@[simp] theorem World.get_registry (w : World) :
    (Has.get w : StrategyRegistry.State) = w.registry := rfl

@[simp] theorem World.get_vault (w : World) : (Has.get w : VaultManager.State) = w.vault := rfl

@[simp] theorem World.set_registry (s : StrategyRegistry.State) (w : World) :
    (Has.set s w : World) = ⟨s, w.vault⟩ := rfl

@[simp] theorem World.set_vault (s : VaultManager.State) (w : World) :
    (Has.set s w : World) = ⟨w.registry, s⟩ := rfl

structure Deployment where
  registry : ContractAddress
  vault : ContractAddress
  vault_ne_registry : vault ≠ registry

/-- The two contracts, with tokens, strategies, yield engine and callers in the environment. -/
abbrev registering (d : Deployment) : System World Call Reply where
  code := deployed [(d.registry, StrategyRegistry.entry d.registry),
    (d.vault, VaultManager.entry d.vault)]
  enters _ request _ := request.sender ≠ d.registry ∧ request.sender ≠ d.vault
  drift _ _ := False
  tick _ _ := False

structure Linked (d : Deployment) (w : World) : Prop where
  registryVault : w.registry.vaultManager = d.vault
  vaultRegistry : w.vault.strategyRegistry = d.registry
  pools : added w.registry < fieldPrime → Registered w.registry w.vault

section Entries
variable (d : Deployment) (caller : ContractAddress)

theorem code_vault (sender : ContractAddress) (message : Message) :
    (registering d).code ⟨sender, d.vault, message⟩ =
      some (VaultManager.entry d.vault sender message) := by
  simp [d.vault_ne_registry]

theorem unserved {sender target : ContractAddress} {message : Message} {w : World}
    (registry : ∀ m, message ≠ .strategyRegistry m) (vault : ∀ m, message ≠ .vaultManager m)
    (body : Entry World Reply)
    (found : (registering d).code ⟨sender, target, message⟩ = some body) :
    ∃ reason, body.run w = .panic reason := by
  apply deployed_unserved _ body found
  intro server member
  rcases List.mem_pair.mp member with rfl | rfl
  · exact ⟨_, StrategyRegistry.entry_foreign _ _ registry⟩
  · exact ⟨_, VaultManager.entry_foreign _ _ vault⟩

abbrev KeepsLinked {α : Type} (w : World) (code : Entry World α)
    (history : List (Crossing World Call Reply)) : Prop :=
  Safe (registering d) (fun now => Linked d now.state) (fun _ _ => True)
    (fun _ next => Linked d next.state ∧ True) (code.run w) history

theorem Linked.vault {w : World} (linked : Linked d w) {v : VaultManager.State}
    (registry : v.strategyRegistry = w.vault.strategyRegistry)
    (tokens : v.poolTokens = w.vault.poolTokens) : Linked d ⟨w.registry, v⟩ :=
  ⟨linked.registryVault, registry.trans linked.vaultRegistry,
    fun few => (linked.pools few).vault tokens⟩

theorem Linked.writeSupply {w : World} (linked : Linked d w) (key : ContractAddress × Felt252)
    (balance : U256) (id : Felt252) (total : U256) :
    Linked d ⟨w.registry, (w.vault.writeBalances key balance).writeTotalSupply id total⟩ :=
  linked.vault d rfl rfl

theorem Linked.addPool {w : World} (linked : Linked d w) (pool : Pool) (token : pool.token ≠ 0)
    (strategy : pool.strategy ≠ 0) :
    Linked d ⟨opened w.registry pool, w.vault.writePoolTokens w.registry.poolCount pool.token⟩ := by
  refine ⟨linked.registryVault, linked.vaultRegistry, ?_⟩
  intro few
  have more := few
  rw [added_opened] at more
  exact (linked.pools (Nat.lt_of_succ_lt more)).addPool more token strategy

theorem Linked.emit {w : World} (linked : Linked d w) {event : StrategyRegistry.Event}
    (other : ∀ id token strategy, event ≠ .poolAdded id token strategy) :
    Linked d ⟨w.registry.emit event, w.vault⟩ := by
  refine ⟨linked.registryVault, linked.vaultRegistry, ?_⟩
  intro few
  rw [added_emit w.registry other] at few
  exact (linked.pools few).emit other

theorem Linked.updatePool {w : World} (linked : Linked d w) {poolId : Felt252} {pool : Pool}
    (known : (w.registry.pools poolId).token ≠ 0)
    (token : pool.token = (w.registry.pools poolId).token)
    (strategy : pool.strategy = (w.registry.pools poolId).strategy) :
    Linked d ⟨w.registry.writePools poolId pool, w.vault⟩ := by
  refine ⟨linked.registryVault, linked.vaultRegistry, ?_⟩
  intro few
  have registered := linked.pools few
  exact registered.updatePool (registered.live_of_token known) token strategy

theorem deposit_keepsLinked (poolId : Felt252) (amount : U256) (w : World)
    (history : List (Crossing World Call Reply)) (linked : Linked d w) :
    KeepsLinked d w (VaultManager.deposit d.vault caller poolId amount) history := by
  apply VaultManager.safe_deposit
  intro _ _ _
  apply Safe.send (unserved d (by simp) (by simp)) linked
  intro _ paid paidLinked _ newBalance newTotal _ _
  apply Safe.send (unserved d (by simp) (by simp)) (paidLinked.writeSupply d _ _ _ _)
  intro _ told toldLinked _
  exact ⟨toldLinked.vault d rfl rfl, trivial⟩

theorem withdraw_keepsLinked (poolId : Felt252) (amount : U256) (w : World)
    (history : List (Crossing World Call Reply)) (linked : Linked d w) :
    KeepsLinked d w (VaultManager.withdraw d.vault caller poolId amount) history := by
  apply VaultManager.safe_withdraw
  intro newBalance newTotal _ _ _ _
  apply Safe.send (unserved d (by simp) (by simp)) (linked.writeSupply d _ _ _ _)
  intro _ told toldLinked _
  apply Safe.send (unserved d (by simp) (by simp)) toldLinked
  intro _ paid paidLinked _
  exact ⟨paidLinked.vault d rfl rfl, trivial⟩

theorem vaultAddPool_keepsLinked (poolId : Felt252) (token : ContractAddress) (w : World)
    (history : List (Crossing World Call Reply)) (linked : Linked d w)
    (outside : caller ≠ d.registry) :
    KeepsLinked d w (VaultManager.addPool caller poolId token) history := by
  apply VaultManager.safe_addPool
  intro authorized _
  exact absurd (authorized.trans linked.vaultRegistry) outside

theorem addPool_keepsLinked (token strategy : ContractAddress) (minDeposit maxCapacity : U256)
    (w : World) (history : List (Crossing World Call Reply)) (linked : Linked d w) :
    KeepsLinked d w
      (StrategyRegistry.addPool d.registry caller token strategy minDeposit maxCapacity)
      history := by
  apply StrategyRegistry.safe_addPool
  intro _ tokenNonzero strategyNonzero
  rw [World.get_registry, linked.registryVault]
  apply Safe.sendIn (code_vault d d.registry _)
  apply Safe.bind
  apply VaultManager.safe_addPool
  intro _ _
  exact .done ⟨linked.addPool d ⟨token, strategy, true, minDeposit, maxCapacity⟩ tokenNonzero
    strategyNonzero, trivial⟩

theorem updatePool_keepsLinked (poolId : Felt252) (active : Bool) (minDeposit maxCapacity : U256)
    (w : World) (history : List (Crossing World Call Reply)) (linked : Linked d w) :
    KeepsLinked d w (StrategyRegistry.updatePool caller poolId active minDeposit maxCapacity)
      history := by
  apply StrategyRegistry.safe_updatePool
  intro _ known
  have written : Linked d ⟨w.registry.writePools poolId
      { w.registry.pools poolId with active, minDeposit, maxCapacity }, w.vault⟩ :=
    linked.updatePool d known rfl rfl
  exact ⟨written.emit d (by simp), trivial⟩

theorem executeRebalance_keepsLinked (newWeights : CairoArray U256) (w : World)
    (history : List (Crossing World Call Reply)) (linked : Linked d w) :
    KeepsLinked d w (StrategyRegistry.executeRebalance d.registry caller newWeights) history := by
  apply StrategyRegistry.safe_executeRebalance
  intro _
  apply StrategyRegistry.safe_executeLoop d.registry (Linked d)
  · exact fun s target weight => unserved d (by simp) (by simp)
  · exact fun _ _ _ linked => linked
  · exact fun _ _ _ linked _ => linked
  · exact fun s poolId strategy linked => linked.emit d (by simp)
  · exact fun _ _ linked => ⟨linked, trivial⟩
  · exact linked

theorem registering_keepsLinked :
    Certified (registering d) (fun now => Linked d now.state) (fun _ _ => True)
      (fun _ _ => True) where
  rely_refl _ := trivial
  rely_trans _ _ := trivial
  guarantee_trans _ _ := trivial
  resumed _ linked := linked
  enter {depth request body now} outside found linked := by
    simp only [deployed_cons, deployed_nil] at found
    split at found
    · cases found
      exact StrategyRegistry.safe_entry d.registry request.sender request.message
        ⟨linked, trivial⟩
        (fun token strategy minDeposit maxCapacity _ =>
          addPool_keepsLinked d _ token strategy minDeposit maxCapacity _ _ linked)
        (fun poolId active minDeposit maxCapacity _ =>
          updatePool_keepsLinked d _ poolId active minDeposit maxCapacity _ _ linked)
        (fun newWeights => executeRebalance_keepsLinked d _ newWeights _ _ linked)
    · split at found
      · cases found
        exact VaultManager.safe_entry d.vault request.sender request.message ⟨linked, trivial⟩
          (fun poolId amount _ => deposit_keepsLinked d _ poolId amount _ _ linked)
          (fun poolId amount _ => withdraw_keepsLinked d _ poolId amount _ _ linked)
          (fun poolId token _ => vaultAddPool_keepsLinked d _ poolId token _ _ linked outside.1)
      · contradiction
  nested _ _ := trivial
  drift _ impossible := impossible.elim
  tick _ impossible := impossible.elim

end Entries

theorem deposit_registered (self caller : ContractAddress) (poolId : Felt252) (amount : U256)
    (w : World) (nonzero : caller ≠ 0) (positive : 0 < amount)
    (registered : w.vault.poolTokens poolId ≠ 0) :
    ∃ resume, (VaultManager.deposit self caller poolId amount).run w =
      .call ⟨self, w.vault.poolTokens poolId, .erc20 (.transferFrom caller self amount)⟩ w
        resume := by
  simp only [VaultManager.deposit, Code.run_bind, Code.run_require, if_pos nonzero, if_pos positive,
    Program.done_bind, Code.run_load, World.get_vault, if_pos registered]
  exact ⟨_, rfl⟩

theorem deposit_unregistered (self caller : ContractAddress) (poolId : Felt252) (amount : U256)
    (w : World) (nonzero : caller ≠ 0) (positive : 0 < amount)
    (unregistered : w.vault.poolTokens poolId = 0) :
    (VaultManager.deposit self caller poolId amount).run w = .panic "INVALID_POOL" := by
  simp only [VaultManager.deposit, Code.run_bind, Code.run_require, if_pos nonzero, if_pos positive,
    Program.done_bind, Code.run_load, World.get_vault, unregistered, ne_eq, not_true_eq_false,
    if_false, Program.panic_bind]

/-- With fewer pools added than there are ids, registry and vault agree on every id, and the vault
takes deposits exactly for the registry's pools. -/
theorem registry_vault_agree (d : Deployment) (yieldEngine governance yieldEngine' : ContractAddress)
    {config : Config World Call Reply}
    (reaches : (registering d).Reaches
      (.initial ⟨StrategyRegistry.constructor d.vault yieldEngine governance,
        VaultManager.constructor d.registry yieldEngine'⟩) config)
    (few : added config.now.state.registry < fieldPrime) :
    (∀ id, id.val < config.now.state.registry.poolCount.val →
      (config.now.state.registry.pools id).token ≠ 0 ∧
      (config.now.state.registry.pools id).strategy ≠ 0 ∧
      config.now.state.vault.poolTokens id = (config.now.state.registry.pools id).token ∧
      .poolAdded id (config.now.state.registry.pools id).token
        (config.now.state.registry.pools id).strategy ∈ config.now.state.registry.events ∧
      ∀ token strategy, .poolAdded id token strategy ∈ config.now.state.registry.events →
        (config.now.state.registry.pools id).token = token ∧
        (config.now.state.registry.pools id).strategy = strategy) ∧
    (∀ id, config.now.state.registry.poolCount.val ≤ id.val →
      config.now.state.registry.pools id = .zero ∧ config.now.state.vault.poolTokens id = 0) ∧
    (∀ self caller id amount, caller ≠ 0 → 0 < amount →
      (id.val < config.now.state.registry.poolCount.val →
        ∃ resume, (VaultManager.deposit self caller id amount).run config.now.state =
          .call ⟨self, (config.now.state.registry.pools id).token,
            .erc20 (.transferFrom caller self amount)⟩ config.now.state resume) ∧
      (config.now.state.registry.poolCount.val ≤ id.val →
        (VaultManager.deposit self caller id amount).run config.now.state =
          .panic "INVALID_POOL")) := by
  have start : Linked d ⟨StrategyRegistry.constructor d.vault yieldEngine governance,
      VaultManager.constructor d.registry yieldEngine'⟩ :=
    ⟨rfl, rfl, fun _ => constructor_registered _ _ _ _ _⟩
  have registered := ((registering_keepsLinked d).invariant rfl start reaches).pools few
  refine ⟨?_, registered.free, ?_⟩
  · intro id below
    have live := registered.live id below
    refine ⟨live.token, live.strategy, live.bound, live.announced, ?_⟩
    intro token strategy member
    exact (registered.created id token strategy member).2
  · intro self caller id amount nonzero positive
    constructor
    · intro below
      have live := registered.live id below
      rw [← live.bound]
      exact deposit_registered self caller id amount _ nonzero positive (live.bound ▸ live.token)
    · intro above
      exact deposit_unregistered self caller id amount _ nonzero positive
        (registered.free id above).2

theorem registry_vault_agree_updated : ∃ config : Config World Call Reply,
    config.now.state.registry.poolCount = 1 ∧
    (config.now.state.registry.pools 0).maxCapacity = 50 ∧
    config.now.state.vault.poolTokens 0 = (config.now.state.registry.pools 0).token := by
  -- governance 6 adds a pool of token 8 with strategy 9 and changes its limits
  have run := ((registering ⟨1, 2, by decide⟩).start
    ⟨StrategyRegistry.constructor 2 5 6, VaultManager.constructor 1 5⟩).enter
    ⟨6, 1, .strategyRegistry (.addPool 8 9 1 100)⟩ (by decide) rfl 2 rfl
  have run := run.enter ⟨6, 1, .strategyRegistry (.updatePool 0 true 1 50)⟩ (by decide) rfl 1 rfl
  have agree := registry_vault_agree _ 5 6 5 run (by decide)
  have pool := agree.1 0 (by decide)
  exact ⟨_, rfl, rfl, pool.2.2.1⟩

end Kanaka.Proof.Pools.Registry
