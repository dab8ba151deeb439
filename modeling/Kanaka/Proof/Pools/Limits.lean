import Kanaka.Machine.Outcome
import Kanaka.Proof.Pools.Registry

namespace Kanaka.Proof.Pools.Limits
open Machine Contracts Registry

/-- The call of `deposit` that the vault serves. -/
abbrev depositCall (d : Deployment) (caller : ContractAddress) (poolId : Felt252) (amount : U256) :
    Entry World Reply :=
  VaultManager.entry d.vault caller (.vaultManager (.deposit poolId amount))

/-! ## What `deposit` looks at -/

section Deposit
variable (d : Deployment) {caller : ContractAddress} {poolId : Felt252} {amount : U256} {w : World}
  {sent : List Call} {result : Reply × World}

theorem deposit_checks {env : Call → World → Option (Reply × World) → Prop}
    (ends : Ends (registering d) env ((depositCall d caller poolId amount).run w) sent
      (some result)) :
    0 < amount ∧ w.vault.poolTokens poolId ≠ 0 := by
  obtain ⟨_, ends⟩ := ends.of_assoc.of_require
  obtain ⟨positive, ends⟩ := ends.of_assoc.of_require
  obtain ⟨registered, _⟩ := ends.of_assoc.of_load.of_assoc.of_require
  exact ⟨positive, registered⟩

theorem deposit_ignores_registry {answer : Call → Option Reply} (registry : StrategyRegistry.State)
    (ends : Ends (registering d) (quiet answer) ((depositCall d caller poolId amount).run w) sent
      (some result)) :
    Ends (registering d) (quiet answer)
      ((depositCall d caller poolId amount).run ⟨registry, w.vault⟩) sent
      (some (result.1, ⟨registry, result.2.vault⟩)) := by
  obtain ⟨nonzero, ends⟩ := ends.of_assoc.of_require
  obtain ⟨positive, ends⟩ := ends.of_assoc.of_require
  obtain ⟨registered, ends⟩ := ends.of_assoc.of_load.of_assoc.of_require
  obtain ⟨_, _, _, rfl, token, tokenAnswer, paid⟩ := ends.of_assoc.of_send (unserved d (by simp) (by simp))
  obtain ⟨pays, rfl⟩ := Ends.quiet_some.mp tokenAnswer
  obtain ⟨newBalance, credited, paid⟩ := paid.of_assoc.of_load.of_assoc.of_orPanic
  obtain ⟨newTotal, added, paid⟩ := paid.of_assoc.of_update.of_assoc.of_load.of_assoc.of_orPanic
  obtain ⟨_, _, _, rfl, engine, engineAnswer, told⟩ :=
    paid.of_assoc.of_update.of_assoc.of_load.of_assoc.of_send (unserved d (by simp) (by simp))
  obtain ⟨tells, rfl⟩ := Ends.quiet_some.mp engineAnswer
  obtain ⟨rfl, final⟩ := Ends.done_iff.mp told
  cases final
  apply Ends.assoc
  apply Ends.require nonzero
  apply Ends.assoc
  apply Ends.require positive
  apply Ends.assoc
  apply Ends.load
  apply Ends.assoc
  apply Ends.require registered
  apply Ends.assoc
  apply Ends.send token (Ends.quiet_some.mpr ⟨pays, rfl⟩)
  apply Ends.assoc
  apply Ends.load
  apply Ends.assoc
  apply Ends.orPanic credited
  apply Ends.assoc
  apply Ends.update
  apply Ends.assoc
  apply Ends.load
  apply Ends.assoc
  apply Ends.orPanic added
  apply Ends.assoc
  apply Ends.update
  apply Ends.assoc
  apply Ends.load
  apply Ends.assoc
  apply Ends.send engine (Ends.quiet_some.mpr ⟨tells, rfl⟩)
  exact .done

end Deposit

/-! ## Runs that keep within the capacity -/

/-- Governance never lowers a capacity, and no deposit goes beyond it. -/
def Prudent (d : Deployment) (call : Call) (w : World) : Prop :=
  (∀ poolId amount, call.target = d.vault → call.message = .vaultManager (.deposit poolId amount) →
    (w.vault.totalSupply poolId).toNat + amount.toNat ≤
      (w.registry.pools poolId).maxCapacity.toNat) ∧
  (∀ poolId active minDeposit maxCapacity, call.target = d.registry →
    call.sender = w.registry.governance →
    call.message = .strategyRegistry (.updatePool poolId active minDeposit maxCapacity) →
    (w.registry.pools poolId).maxCapacity.toNat ≤ maxCapacity.toNat) ∧
  (∀ token strategy minDeposit maxCapacity, call.target = d.registry →
    call.sender = w.registry.governance →
    call.message = .strategyRegistry (.addPool token strategy minDeposit maxCapacity) →
    (w.registry.pools w.registry.poolCount).maxCapacity.toNat ≤ maxCapacity.toNat)

/-- The runs without re-entrant calls that are `Prudent`. -/
abbrev prudent (d : Deployment) : System World Call Reply :=
  { registering d with
    enters := fun depth request w =>
      depth = 0 ∧ (registering d).enters depth request w ∧ Prudent d request w }

structure Within (d : Deployment) (w : World) : Prop where
  registryVault : w.registry.vaultManager = d.vault
  capacity : ∀ poolId, (w.vault.totalSupply poolId).toNat ≤
    (w.registry.pools poolId).maxCapacity.toNat

section Entries
variable (d : Deployment) (caller : ContractAddress)

/-- Nothing changes while a call waits, as nobody re-enters. -/
abbrev KeepsWithin {α : Type} (w : World) (code : Entry World α)
    (history : List (Crossing World Call Reply)) : Prop :=
  Safe (prudent d) (fun now => Within d now.state) Eq (fun _ next => Within d next.state ∧ True)
    (code.run w) history

theorem Within.supply {w : World} (within : Within d w) (key : ContractAddress × Felt252)
    (balance : U256) (poolId : Felt252) {supply : U256}
    (fits : supply.toNat ≤ (w.registry.pools poolId).maxCapacity.toNat) :
    Within d ⟨w.registry, (w.vault.writeBalances key balance).writeTotalSupply poolId supply⟩ := by
  refine ⟨within.registryVault, ?_⟩
  intro other
  simp only [VaultManager.State.writeTotalSupply_totalSupply,
    VaultManager.State.writeBalances_totalSupply]
  by_cases same : other = poolId
  · rw [same, Function.update_self]
    exact fits
  · rw [Function.update_of_ne same]
    exact within.capacity other

theorem Within.pool {w : World} (within : Within d w) (poolId : Felt252) (pool : Pool)
    (raised : (w.registry.pools poolId).maxCapacity.toNat ≤ pool.maxCapacity.toNat) :
    Within d ⟨w.registry.writePools poolId pool, w.vault⟩ := by
  refine ⟨within.registryVault, ?_⟩
  intro other
  rw [StrategyRegistry.State.writePools_pools]
  by_cases same : other = poolId
  · rw [same, Function.update_self]
    exact (within.capacity poolId).trans raised
  · rw [Function.update_of_ne same]
    exact within.capacity other

theorem deposit_keepsWithin (poolId : Felt252) (amount : U256) (w : World)
    (history : List (Crossing World Call Reply)) (within : Within d w)
    (fits : (w.vault.totalSupply poolId).toNat + amount.toNat ≤
      (w.registry.pools poolId).maxCapacity.toNat) :
    KeepsWithin d w (VaultManager.deposit d.vault caller poolId amount) history := by
  apply VaultManager.safe_deposit
  intro _ _ _
  apply Safe.send (S := prudent d) (unserved d (by simp) (by simp)) within
  intro _ paid _ same newBalance newTotal _ total_eq
  subst same
  have credited := within.supply d (caller, poolId) newBalance poolId (total_eq.trans_le fits)
  apply Safe.send (S := prudent d) (unserved d (by simp) (by simp)) credited
  intro _ told toldWithin _
  exact ⟨⟨toldWithin.registryVault, toldWithin.capacity⟩, trivial⟩

theorem withdraw_keepsWithin (poolId : Felt252) (amount : U256) (w : World)
    (history : List (Crossing World Call Reply)) (within : Within d w) :
    KeepsWithin d w (VaultManager.withdraw d.vault caller poolId amount) history := by
  apply VaultManager.safe_withdraw
  intro newBalance newTotal _ _ _ total_eq
  have below : newTotal.toNat ≤ (w.vault.totalSupply poolId).toNat := Nat.le.intro total_eq
  have debited := within.supply d (caller, poolId) newBalance poolId
    (below.trans (within.capacity poolId))
  apply Safe.send (S := prudent d) (unserved d (by simp) (by simp)) debited
  intro _ told toldWithin _
  apply Safe.send (S := prudent d) (unserved d (by simp) (by simp)) toldWithin
  intro _ paid paidWithin _
  exact ⟨⟨paidWithin.registryVault, paidWithin.capacity⟩, trivial⟩

theorem vaultAddPool_keepsWithin (poolId : Felt252) (token : ContractAddress) (w : World)
    (history : List (Crossing World Call Reply)) (within : Within d w) :
    KeepsWithin d w (VaultManager.addPool caller poolId token) history := by
  apply VaultManager.safe_addPool
  intro _ _
  exact ⟨⟨within.registryVault, within.capacity⟩, trivial⟩

theorem addPool_keepsWithin (token strategy : ContractAddress) (minDeposit maxCapacity : U256)
    (w : World) (history : List (Crossing World Call Reply)) (within : Within d w)
    (raised : caller = w.registry.governance →
      (w.registry.pools w.registry.poolCount).maxCapacity.toNat ≤ maxCapacity.toNat) :
    KeepsWithin d w
      (StrategyRegistry.addPool d.registry caller token strategy minDeposit maxCapacity)
      history := by
  apply StrategyRegistry.safe_addPool
  intro authorized _ _
  have opened := within.pool d w.registry.poolCount
    ⟨token, strategy, true, minDeposit, maxCapacity⟩ (raised authorized)
  rw [World.get_registry, within.registryVault]
  apply Safe.sendIn (S := prudent d) (code_vault d d.registry _)
  apply Safe.bind
  apply VaultManager.safe_addPool
  intro _ _
  exact .done ⟨⟨opened.registryVault, opened.capacity⟩, trivial⟩

theorem updatePool_keepsWithin (poolId : Felt252) (active : Bool) (minDeposit maxCapacity : U256)
    (w : World) (history : List (Crossing World Call Reply)) (within : Within d w)
    (raised : caller = w.registry.governance →
      (w.registry.pools poolId).maxCapacity.toNat ≤ maxCapacity.toNat) :
    KeepsWithin d w (StrategyRegistry.updatePool caller poolId active minDeposit maxCapacity)
      history := by
  apply StrategyRegistry.safe_updatePool
  intro authorized _
  have updated := within.pool d poolId
    { w.registry.pools poolId with active, minDeposit, maxCapacity } (raised authorized)
  exact ⟨⟨updated.registryVault, updated.capacity⟩, trivial⟩

theorem executeRebalance_keepsWithin (newWeights : CairoArray U256) (w : World)
    (history : List (Crossing World Call Reply)) (within : Within d w) :
    KeepsWithin d w (StrategyRegistry.executeRebalance d.registry caller newWeights) history := by
  apply StrategyRegistry.safe_executeRebalance
  intro _
  apply StrategyRegistry.safe_executeLoop d.registry (Within d)
  · exact fun s target weight => unserved d (by simp) (by simp)
  · exact fun _ _ _ within => within
  · exact fun _ _ _ nowWithin _ => nowWithin
  · exact fun s poolId strategy within => ⟨within.registryVault, within.capacity⟩
  · exact fun _ _ within => ⟨within, trivial⟩
  · exact within

theorem prudent_keepsWithin :
    Certified (prudent d) (fun now => Within d now.state) Eq (fun _ _ => True) where
  rely_refl _ := rfl
  rely_trans := Eq.trans
  guarantee_trans _ _ := trivial
  resumed _ within := within
  enter {depth request body now} enters found within := by
    obtain ⟨_, _, deposits, updates, additions⟩ := enters
    simp only [deployed_cons, deployed_nil] at found
    split at found
    · rename_i target
      cases found
      exact StrategyRegistry.safe_entry d.registry request.sender request.message
        ⟨within, trivial⟩
        (fun token strategy minDeposit maxCapacity message =>
          addPool_keepsWithin d _ token strategy minDeposit maxCapacity _ _ within
            fun authorized => additions _ _ _ _ target authorized message)
        (fun poolId active minDeposit maxCapacity message =>
          updatePool_keepsWithin d _ poolId active minDeposit maxCapacity _ _ within
            fun authorized => updates _ _ _ _ target authorized message)
        (fun newWeights => executeRebalance_keepsWithin d _ newWeights _ _ within)
    · split at found
      · rename_i target
        cases found
        exact VaultManager.safe_entry d.vault request.sender request.message ⟨within, trivial⟩
          (fun poolId amount message =>
            deposit_keepsWithin d _ poolId amount _ _ within (deposits _ _ target message))
          (fun poolId amount _ => withdraw_keepsWithin d _ poolId amount _ _ within)
          (fun poolId token _ => vaultAddPool_keepsWithin d _ poolId token _ _ within)
      · contradiction
  nested enters _ := absurd enters.1 (Nat.succ_ne_zero _)
  drift _ impossible := impossible.elim
  tick _ impossible := impossible.elim

end Entries

/-- The vault does not look at the registry's limits: they bind those who ask for them. -/
theorem deposit_unlimited (d : Deployment) (yieldEngine governance yieldEngine' : ContractAddress) :
    (∀ caller poolId amount w env sent result,
      Ends (registering d) env ((depositCall d caller poolId amount).run w) sent (some result) →
      0 < amount ∧ w.vault.poolTokens poolId ≠ 0) ∧
    (∀ caller poolId amount w answer sent result registry,
      Ends (registering d) (quiet answer) ((depositCall d caller poolId amount).run w) sent
        (some result) →
      Ends (registering d) (quiet answer)
        ((depositCall d caller poolId amount).run ⟨registry, w.vault⟩) sent
        (some (result.1, ⟨registry, result.2.vault⟩))) ∧
    ∀ config : Config World Call Reply, (prudent d).Reaches
      (.initial ⟨StrategyRegistry.constructor d.vault yieldEngine governance,
        VaultManager.constructor d.registry yieldEngine'⟩) config →
      ∀ poolId, (config.now.state.vault.totalSupply poolId).toNat ≤
        (config.now.state.registry.pools poolId).maxCapacity.toNat := by
  refine ⟨?_, ?_, ?_⟩
  · intro caller poolId amount w env sent result ends
    exact deposit_checks d ends
  · intro caller poolId amount w answer sent result registry ends
    exact deposit_ignores_registry d registry ends
  · intro config reaches
    have start : Within d ⟨StrategyRegistry.constructor d.vault yieldEngine governance,
        VaultManager.constructor d.registry yieldEngine'⟩ := ⟨rfl, fun _ => Nat.zero_le _⟩
    exact ((prudent_keepsWithin d).invariant rfl start reaches).capacity

theorem deposit_unlimited_filled : ∃ config : Config World Call Reply,
    (config.now.state.vault.totalSupply 0).toNat = 100 ∧
    (config.now.state.registry.pools 0).maxCapacity = 100 ∧
    (config.now.state.vault.totalSupply 0).toNat ≤
      (config.now.state.registry.pools 0).maxCapacity.toNat := by
  -- user 7 fills a pool of capacity 100
  have run := ((prudent ⟨1, 2, by decide⟩).start
    ⟨StrategyRegistry.constructor 2 5 6, VaultManager.constructor 1 5⟩).enter
    ⟨6, 1, .strategyRegistry (.addPool 8 9 10 100)⟩
    (by
      refine ⟨rfl, by decide, ?_, ?_, ?_⟩
      · intro _ _ _ message
        cases message
      · intro _ _ _ _ _ _ message
        cases message
      · intro _ _ _ _ _ _ message
        cases message
        exact Nat.zero_le _) rfl 2 rfl
  have run := ((run.enter ⟨7, 2, .vaultManager (.deposit 0 100)⟩
    (by
      refine ⟨rfl, by decide, ?_, ?_, ?_⟩
      · intro _ _ _ message
        cases message
        decide
      · intro _ _ _ _ _ _ message
        cases message
      · intro _ _ _ _ _ _ message
        cases message) rfl 1 rfl).reply (.bool true) 1 rfl).reply .unit 1 rfl
  exact ⟨_, rfl, rfl, (deposit_unlimited ⟨1, 2, by decide⟩ 5 6 5).2.2 _ run 0⟩

/-- A deposit that `is_valid_deposit` refuses succeeds and takes the supply over the capacity. -/
theorem deposit_beyond_capacity : ∃ (config : Config World Call Reply) (sent : List Call)
    (result : Reply × World),
    (registering ⟨1, 2, by decide⟩).Reaches
      (.initial ⟨StrategyRegistry.constructor 2 5 6, VaultManager.constructor 1 5⟩) config ∧
    (StrategyRegistry.isValidDeposit 0 500 : Entry World Bool).run config.now.state =
      .done false config.now.state ∧
    Ends (registering ⟨1, 2, by decide⟩) (quiet fun _ => some (.bool true))
      ((depositCall ⟨1, 2, by decide⟩ 7 0 500).run config.now.state) sent (some result) ∧
    result.2.registry = config.now.state.registry ∧
    (result.2.registry.pools 0).maxCapacity.toNat < (result.2.vault.totalSupply 0).toNat := by
  have run := ((registering ⟨1, 2, by decide⟩).start
    ⟨StrategyRegistry.constructor 2 5 6, VaultManager.constructor 1 5⟩).enter
    ⟨6, 1, .strategyRegistry (.addPool 8 9 10 100)⟩ (by decide) rfl 2 rfl
  exact ⟨_, _, _, run, rfl, System.endsFor_sound _ 2 rfl, rfl, by decide⟩

end Kanaka.Proof.Pools.Limits
