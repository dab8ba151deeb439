import Kanaka.Contracts.Network
import Kanaka.Contracts.StrategyRegistry
import Kanaka.Contracts.YieldEngine
import Kanaka.Machine.Exchanges
import Mathlib.Algebra.Order.BigOperators.Group.List
import Mathlib.Algebra.Order.Group.Nat

namespace Kanaka.Proof.Pools.Rebalance
open Machine Contracts

structure World where
  engine : YieldEngine.State
  registry : StrategyRegistry.State

instance : Has YieldEngine.State World where
  get := World.engine
  set engine w := { w with engine }
  get_set _ _ := rfl
  set_set _ _ _ := rfl

instance : Has StrategyRegistry.State World where
  get := World.registry
  set registry w := { w with registry }
  get_set _ _ := rfl
  set_set _ _ _ := rfl

@[simp] theorem World.get_engine (w : World) : (Has.get w : YieldEngine.State) = w.engine := rfl

@[simp] theorem World.get_registry (w : World) :
    (Has.get w : StrategyRegistry.State) = w.registry := rfl

@[simp] theorem World.set_registry (s : StrategyRegistry.State) (w : World) :
    (Has.set s w : World) = ⟨w.engine, s⟩ := rfl

structure Deployment where
  engine : ContractAddress
  registry : ContractAddress
  registry_ne_engine : registry ≠ engine

/-- The two contracts, with vault, oracle, strategies and governance in the environment. -/
abbrev balancing (d : Deployment) : System World Call Reply where
  code := deployed [(d.engine, YieldEngine.entry d.engine),
    (d.registry, StrategyRegistry.entry d.registry)]
  enters _ request _ := request.sender ≠ d.engine ∧ request.sender ≠ d.registry
  drift _ _ := False
  tick _ _ := False

structure Wired (d : Deployment) (w : World) : Prop where
  engineRegistry : w.engine.strategyRegistry = d.registry
  registryEngine : w.registry.yieldEngine = d.engine

def poolAt (i : Nat) : Felt252 := Fin.ofNat fieldPrime i

theorem toFelt_eq_poolAt (i : U32) : i.toFelt = poolAt i.toNat := rfl

structure Turn where
  weight : U256
  pool : Pool

/-- The turns from index `i` on. Between two of them only the call of a strategy can change the
pools: `found` are the pools after each call. -/
def turns : Nat → List U256 → LegacyMap Felt252 Pool → List (LegacyMap Felt252 Pool) → List Turn
  | _, [], _, _ => []
  | i, weight :: rest, pools, found =>
      ⟨weight, pools (poolAt i)⟩ ::
        if (pools (poolAt i)).active then turns (i + 1) rest (found.headD pools) found.tail
        else turns (i + 1) rest pools found

def Turn.call (registry : ContractAddress) (turn : Turn) : Call :=
  ⟨registry, turn.pool.strategy, .strategyExecute turn.weight⟩

def executed (registry : ContractAddress) (taken : List Turn) : List Call :=
  (taken.filter (·.pool.active)).map (Turn.call registry)

def withheld (taken : List Turn) : List U256 :=
  (taken.filter (!·.pool.active)).map Turn.weight

def passed (sent : List Call) : List U256 :=
  sent.filterMap fun call =>
    match call.message with
    | .strategyExecute weight => some weight
    | _ => none

def total (weights : List U256) : Nat := (weights.map BitVec.toNat).sum

theorem total_cons (weight : U256) (weights : List U256) :
    total (weight :: weights) = weight.toNat + total weights := List.sum_cons

theorem total_eq_zero {weights : List U256} : total weights = 0 ↔ ∀ weight ∈ weights, weight = 0 := by
  rw [total, List.sum_eq_zero_iff, List.forall_mem_map]
  apply forall₂_congr
  intro weight _
  rw [← BitVec.toNat_inj, U256.toNat_zero]

theorem turns_weights (weights : List U256) (i : Nat) (pools : LegacyMap Felt252 Pool)
    (found : List (LegacyMap Felt252 Pool)) : (turns i weights pools found).map Turn.weight = weights := by
  induction weights generalizing i pools found with
  | nil => rfl
  | cons weight rest ih =>
      rw [turns, List.map_cons]
      split <;> rw [ih]

section Taken
variable (registry : ContractAddress) {turn : Turn} (rest : List Turn)

theorem executed_active (active : turn.pool.active = true) :
    executed registry (turn :: rest) = turn.call registry :: executed registry rest := by
  rw [executed, List.filter_cons, if_pos active]
  rfl

theorem executed_inactive (inactive : turn.pool.active = false) :
    executed registry (turn :: rest) = executed registry rest := by
  rw [executed, List.filter_cons, if_neg (by rw [inactive]; exact Bool.false_ne_true)]
  rfl

theorem withheld_active (active : turn.pool.active = true) :
    withheld (turn :: rest) = withheld rest := by
  rw [withheld, List.filter_cons, if_neg (by rw [active]; exact Bool.false_ne_true)]
  rfl

theorem withheld_inactive (inactive : turn.pool.active = false) :
    withheld (turn :: rest) = turn.weight :: withheld rest := by
  rw [withheld, List.filter_cons, if_pos (by rw [inactive]; rfl)]
  rfl

theorem passed_call (sent : List Call) :
    passed (turn.call registry :: sent) = turn.weight :: passed sent := rfl

theorem total_split (taken : List Turn) :
    total (passed (executed registry taken)) + total (withheld taken) =
      total (taken.map Turn.weight) := by
  induction taken with
  | nil => rfl
  | cons turn rest ih =>
      rw [List.map_cons, total_cons]
      cases active : turn.pool.active with
      | true =>
          rw [executed_active registry rest active, withheld_active rest active, passed_call,
            total_cons]
          omega
      | false =>
          rw [executed_inactive registry rest active, withheld_inactive rest active, total_cons]
          omega

end Taken

section Entries
variable (d : Deployment) (caller : ContractAddress)

theorem code_registry (sender : ContractAddress) (message : Message) :
    (balancing d).code ⟨sender, d.registry, message⟩ =
      some (StrategyRegistry.entry d.registry sender message) := by
  simp [d.registry_ne_engine]

theorem unserved {sender target : ContractAddress} {message : Message} {w : World}
    (engine : ∀ m, message ≠ .yieldEngine m) (registry : ∀ m, message ≠ .strategyRegistry m)
    (body : Entry World Reply)
    (found : (balancing d).code ⟨sender, target, message⟩ = some body) :
    ∃ reason, body.run w = .panic reason := by
  apply deployed_unserved _ body found
  intro server member
  rcases List.mem_pair.mp member with rfl | rfl
  · exact ⟨_, YieldEngine.entry_foreign _ _ engine⟩
  · exact ⟨_, StrategyRegistry.entry_foreign _ _ registry⟩

/-! ## The wiring -/

abbrev KeepsWired {α : Type} (w : World) (code : Entry World α)
    (history : List (Crossing World Call Reply)) : Prop :=
  Safe (balancing d) (fun now => Wired d now.state) (fun _ _ => True)
    (fun _ next => Wired d next.state ∧ True) (code.run w) history

theorem Wired.engine {w : World} (wired : Wired d w) {s : YieldEngine.State}
    (same : s.strategyRegistry = w.engine.strategyRegistry) : Wired d ⟨s, w.registry⟩ :=
  ⟨same.trans wired.engineRegistry, wired.registryEngine⟩

theorem Wired.registry {w : World} (wired : Wired d w) {s : StrategyRegistry.State}
    (same : s.yieldEngine = w.registry.yieldEngine) : Wired d ⟨w.engine, s⟩ :=
  ⟨wired.engineRegistry, same.trans wired.registryEngine⟩

theorem executeRebalance_keepsWired (newWeights : CairoArray U256) (w : World)
    (history : List (Crossing World Call Reply)) (wired : Wired d w) :
    KeepsWired d w (StrategyRegistry.executeRebalance d.registry caller newWeights) history := by
  apply StrategyRegistry.safe_executeRebalance
  intro _
  apply StrategyRegistry.safe_executeLoop d.registry (Wired d)
  · exact fun s target weight => unserved d (by simp) (by simp)
  · exact fun _ _ _ wired => wired
  · exact fun _ _ _ wired _ => wired
  · exact fun s poolId strategy wired => wired.registry d rfl
  · exact fun _ _ wired => ⟨wired, trivial⟩
  · exact wired

theorem rebalance_keepsWired (newWeights : CairoArray U256) (w : World)
    (history : List (Crossing World Call Reply)) (wired : Wired d w) :
    KeepsWired d w (YieldEngine.rebalance d.engine caller newWeights) history := by
  apply YieldEngine.safe_rebalance d.engine caller newWeights fun _ _ _ s => Wired d s
  · exact fun _ => wired
  · exact fun _ _ _ _ _ _ _ wired _ _ => wired.engine d rfl
  · intro _ i s filled
    rw [World.get_engine, filled.engineRegistry]
    apply Safe.sendIn (code_registry d d.engine _)
    have written : Wired d ⟨s.engine.writeTotalWeights 100000, s.registry⟩ := filled.engine d rfl
    apply Safe.bind
    apply (executeRebalance_keepsWired d d.engine newWeights _ _ written).weaken
    intro _ executed executedWired
    exact .done ⟨executedWired.1.engine d rfl, trivial⟩

theorem harvestYield_keepsWired (poolId : Felt252) (w : World)
    (history : List (Crossing World Call Reply)) (wired : Wired d w) :
    KeepsWired d w (YieldEngine.harvestYield d.engine caller poolId) history := by
  apply YieldEngine.safe_harvestYield
  intro _
  apply Safe.send (unserved d (by simp) (by simp)) wired
  intro _ asked askedWired _ yieldAmount _ _
  constructor
  · exact fun _ => ⟨askedWired, trivial⟩
  · intro _
    apply Safe.send (unserved d (by simp) (by simp)) askedWired
    intro _ paid paidWired _
    exact ⟨paidWired.engine d rfl, trivial⟩

theorem notifyOracle_keepsWired (isDeposit : Bool) (poolId : Felt252) (amount : U256) (w : World)
    (history : List (Crossing World Call Reply)) (wired : Wired d w) :
    KeepsWired d w (YieldEngine.notifyOracle d.engine caller isDeposit poolId amount) history := by
  apply YieldEngine.safe_notifyOracle
  intro _
  apply Safe.send (unserved d (by simp) (by simp)) wired
  intro _ told toldWired _
  exact ⟨toldWired, trivial⟩

theorem addPool_keepsWired (token strategy : ContractAddress) (minDeposit maxCapacity : U256)
    (w : World) (history : List (Crossing World Call Reply)) (wired : Wired d w) :
    KeepsWired d w
      (StrategyRegistry.addPool d.registry caller token strategy minDeposit maxCapacity)
      history := by
  apply StrategyRegistry.safe_addPool
  intro _ _ _
  apply Safe.send (unserved d (by simp) (by simp)) ⟨wired.engineRegistry, wired.registryEngine⟩
  intro _ bound boundWired _
  exact ⟨boundWired.registry d rfl, trivial⟩

theorem updatePool_keepsWired (poolId : Felt252) (active : Bool) (minDeposit maxCapacity : U256)
    (w : World) (history : List (Crossing World Call Reply)) (wired : Wired d w) :
    KeepsWired d w (StrategyRegistry.updatePool caller poolId active minDeposit maxCapacity)
      history := by
  apply StrategyRegistry.safe_updatePool
  intro _ _
  exact ⟨wired.registry d rfl, trivial⟩

theorem balancing_keepsWired :
    Certified (balancing d) (fun now => Wired d now.state) (fun _ _ => True) (fun _ _ => True) where
  rely_refl _ := trivial
  rely_trans _ _ := trivial
  guarantee_trans _ _ := trivial
  resumed _ wired := wired
  enter {depth request body now} _ found wired := by
    simp only [deployed_cons, deployed_nil] at found
    split at found
    · cases found
      exact YieldEngine.safe_entry d.engine request.sender request.message ⟨wired, trivial⟩
        (fun newWeights _ => rebalance_keepsWired d _ newWeights _ _ wired)
        (fun poolId _ => harvestYield_keepsWired d _ poolId _ _ wired)
        (fun isDeposit poolId amount =>
          notifyOracle_keepsWired d _ isDeposit poolId amount _ _ wired)
    · split at found
      · cases found
        exact StrategyRegistry.safe_entry d.registry request.sender request.message
          ⟨wired, trivial⟩
          (fun token strategy minDeposit maxCapacity _ =>
            addPool_keepsWired d _ token strategy minDeposit maxCapacity _ _ wired)
          (fun poolId active minDeposit maxCapacity _ =>
            updatePool_keepsWired d _ poolId active minDeposit maxCapacity _ _ wired)
          (fun newWeights => executeRebalance_keepsWired d _ newWeights _ _ wired)
      · contradiction
  nested _ _ := trivial
  drift _ impossible := impossible.elim
  tick _ impossible := impossible.elim

/-! ## What a rebalance passes on -/

section Passed
variable {exchanges : List (Call × World)} {result : Reply × World}

theorem rebalanceLoop_exchanges {next : U256 → Entry World Reply} (weights : List U256) (i : U32)
    (sum : U256) (w : World)
    (made : Exchanges (balancing d) ((YieldEngine.rebalanceLoop weights i sum >>= next).run w)
      exchanges result) :
    ∃ (sum' : U256) (engine : YieldEngine.State), sum'.toNat = sum.toNat + total weights ∧
      engine.strategyRegistry = w.engine.strategyRegistry ∧
      Exchanges (balancing d) ((next sum').run ⟨engine, w.registry⟩) exchanges result := by
  induction weights generalizing i sum w with
  | nil => exact ⟨sum, w.engine, rfl, rfl, made⟩
  | cons weight rest ih =>
      obtain ⟨sum', added, made⟩ := made.of_assoc.of_update.of_assoc.of_orPanic
      obtain ⟨j, _, made⟩ := made.of_assoc.of_orPanic
      obtain ⟨last, engine, last_eq, same, made⟩ := ih j sum' _ made
      refine ⟨last, engine, ?_, same, made⟩
      rw [last_eq, checkedAdd_eq_some.mp added, total_cons]
      omega

def poolsFound (exchanges : List (Call × World)) : List (LegacyMap Felt252 Pool) :=
  exchanges.map (·.2.registry.pools)

theorem executeLoop_exchanges {next : Unit → Entry World Reply} (weights : List U256) (i : U32)
    (w : World) (last : ∀ (w' : World) (rest : List (Call × World)),
      Exchanges (balancing d) ((next ()).run w') rest result → rest = [])
    (made : Exchanges (balancing d)
      ((StrategyRegistry.executeLoop d.registry weights i >>= next).run w) exchanges result) :
    exchanges.map Prod.fst =
      executed d.registry (turns i.toNat weights w.registry.pools (poolsFound exchanges)) := by
  induction weights generalizing i w exchanges with
  | nil => rw [last w exchanges made]; rfl
  | cons weight rest ih =>
      have made := made.of_assoc.of_load
      simp only [World.get_registry] at made
      split at made
      · rename_i active
        obtain ⟨_, found, later, rfl, answered⟩ := made.of_assoc.of_assoc.of_send
          (unserved d (by simp) (by simp))
        obtain ⟨j, next_eq, made⟩ := answered.of_assoc.of_update.of_assoc.of_orPanic
        have index : j.toNat = i.toNat + 1 := checkedAdd_eq_some.mp next_eq
        have later := ih j _ made
        rw [index] at later
        rw [toFelt_eq_poolAt] at active
        rw [List.map_cons, later, turns, if_pos active, executed_active d.registry _ active]
        rfl
      · rename_i inactive
        obtain ⟨j, next_eq, made⟩ := made.of_assoc.of_orPanic
        have index : j.toNat = i.toNat + 1 := checkedAdd_eq_some.mp next_eq
        have later := ih j _ made
        rw [index] at later
        rw [toFelt_eq_poolAt] at inactive
        rw [later, turns, if_neg inactive, executed_inactive d.registry _ (Bool.eq_false_of_not_eq_true inactive)]

theorem rebalance_exchanges (newWeights : CairoArray U256) (w : World) (wired : Wired d w)
    (made : Exchanges (balancing d)
      ((YieldEngine.entry d.engine caller (.yieldEngine (.rebalance newWeights))).run w)
      exchanges result) :
    total newWeights.val = 100000 ∧ exchanges.map Prod.fst =
      executed d.registry (turns 0 newWeights.val w.registry.pools (poolsFound exchanges)) := by
  obtain ⟨_, made⟩ := made.of_assoc.of_load.of_assoc.of_require
  obtain ⟨sum, engine, sum_eq, same, made⟩ := rebalanceLoop_exchanges d _ _ _ _ made.of_assoc
  obtain ⟨listed, made⟩ := made.of_assoc.of_require
  have made := made.of_assoc.of_update.of_assoc.of_load.of_assoc
  have found : (balancing d).code ⟨d.engine, engine.strategyRegistry,
      .strategyRegistry (.executeRebalance newWeights)⟩ =
      some (StrategyRegistry.entry d.registry d.engine
        (.strategyRegistry (.executeRebalance newWeights))) := by
    rw [same, wired.engineRegistry]
    exact code_registry d _ _
  obtain ⟨_, made⟩ := (made.of_sendIn found).of_assoc.of_assoc.of_load.of_assoc.of_require
  constructor
  · rw [listed] at sum_eq
    exact (sum_eq.trans (Nat.zero_add _)).symm
  · apply executeLoop_exchanges d _ _ _ _ made
    intro w' rest ended
    exact (Exchanges.done_iff.mp ended).1

theorem total_of_ends (newWeights : CairoArray U256) (w : World) (wired : Wired d w)
    {env : Call → World → Option (Reply × World) → Prop} {sent : List Call}
    (ends : Ends (balancing d) env
      ((YieldEngine.entry d.engine caller (.yieldEngine (.rebalance newWeights))).run w)
      sent (some result)) : total newWeights.val = 100000 := by
  obtain ⟨exchanges, -, made⟩ := ends.exchanges rfl
  exact (rebalance_exchanges d caller newWeights w wired made).1

end Passed

end Entries

/-- A rebalance that succeeds sends out one call for each pool that is active when its turn comes,
to its strategy and with its own weight; the weights of the others are withheld. -/
theorem rebalance_delivers (d : Deployment)
    (vaultManager cdrOracle governance vaultManager' governance' : ContractAddress)
    {config : Config World Call Reply}
    (reaches : (balancing d).Reaches
      (.initial ⟨YieldEngine.constructor vaultManager cdrOracle d.registry governance,
        StrategyRegistry.constructor vaultManager' d.engine governance'⟩) config)
    (caller : ContractAddress) (newWeights : CairoArray U256) {exchanges : List (Call × World)}
    {result : Reply × World}
    (succeeds : Exchanges (balancing d)
      ((YieldEngine.entry d.engine caller (.yieldEngine (.rebalance newWeights))).run
        config.now.state) exchanges result) :
    let taken := turns 0 newWeights.val config.now.state.registry.pools (poolsFound exchanges)
    let sent := exchanges.map Prod.fst
    sent = executed d.registry taken ∧ taken.map Turn.weight = newWeights.val ∧
      total (passed sent) + total (withheld taken) = 100000 ∧
      (total (passed sent) = 100000 ↔ ∀ weight ∈ withheld taken, weight = 0) := by
  intro taken sent
  have start : Wired d ⟨YieldEngine.constructor vaultManager cdrOracle d.registry governance,
      StrategyRegistry.constructor vaultManager' d.engine governance'⟩ := ⟨rfl, rfl⟩
  have wired := (balancing_keepsWired d).invariant rfl start reaches
  obtain ⟨listed, calls⟩ := rebalance_exchanges d caller newWeights _ wired succeeds
  have weights : taken.map Turn.weight = newWeights.val := turns_weights ..
  have split : total (passed sent) + total (withheld taken) = 100000 := by
    rw [← listed, ← weights, ← total_split d.registry taken, ← calls]
  refine ⟨calls, weights, split, ?_⟩
  rw [← total_eq_zero]
  omega

theorem rebalance_delivers_first : ∃ (config : Config World Call Reply)
    (exchanges : List (Call × World)),
    exchanges.map Prod.fst = [⟨2, 9, .strategyExecute 60000⟩] ∧
    total (withheld (turns 0 [60000, 40000] config.now.state.registry.pools
      (poolsFound exchanges))) = 40000 := by
  -- governance 5 adds two pools; the second is not active any more when strategy 9 returns
  have run := ((((balancing ⟨1, 2, by decide⟩).start
    ⟨YieldEngine.constructor 3 4 2 5, StrategyRegistry.constructor 3 1 5⟩).enter
    ⟨5, 2, .strategyRegistry (.addPool 8 9 1 100)⟩ (by decide) rfl 1 rfl).reply .unit 1 rfl).enter
    ⟨5, 2, .strategyRegistry (.addPool 8 10 1 100)⟩ (by decide) rfl 1 rfl
  have fits : [(60000 : U256), 40000].length < 2 ^ 32 := by decide
  obtain ⟨config, exchanges, reaches, calls, result, made⟩ :
      ∃ (config : Config World Call Reply) (exchanges : List (Call × World)),
      (balancing ⟨1, 2, by decide⟩).Reaches
        (.initial ⟨YieldEngine.constructor 3 4 2 5, StrategyRegistry.constructor 3 1 5⟩) config ∧
      exchanges.map Prod.fst = [⟨2, 9, .strategyExecute 60000⟩] ∧
      ∃ result, Exchanges (balancing ⟨1, 2, by decide⟩)
        ((YieldEngine.entry 1 5 (.yieldEngine (.rebalance ⟨[60000, 40000], fits⟩))).run
          config.now.state) exchanges result :=
    ⟨_, [(_, ⟨YieldEngine.constructor 3 4 2 5, StrategyRegistry.constructor 3 1 5⟩)],
      run.reply .unit 1 rfl, rfl, _,
      .inside rfl (@Exchanges.answered _ _ _ _ _ _ _ .unit _ _ _ rfl .done)⟩
  have split : total (passed (exchanges.map Prod.fst)) + _ = 100000 :=
    (rebalance_delivers _ 3 4 5 3 5 reaches 5 ⟨[60000, 40000], fits⟩ made).2.2.1
  have first : total (passed [⟨2, 9, .strategyExecute 60000⟩]) = 60000 := by decide
  rw [calls, first] at split
  exact ⟨config, exchanges, calls, Nat.add_left_cancel split⟩

/-- The weight of a pool that has been deactivated goes to no strategy. -/
theorem rebalance_withholds : ∃ (config : Config World Call Reply) (sent : List Call)
    (result : Reply × World),
    (balancing ⟨1, 2, by decide⟩).Reaches
      (.initial ⟨YieldEngine.constructor 3 4 2 5, StrategyRegistry.constructor 3 1 5⟩) config ∧
    Ends (balancing ⟨1, 2, by decide⟩) anything
      ((YieldEngine.entry 1 5 (.yieldEngine (.rebalance ⟨[60000, 40000], by decide⟩))).run
        config.now.state) sent (some result) ∧
    total (passed sent) ≠ 100000 := by
  have run := ((((balancing ⟨1, 2, by decide⟩).start
    ⟨YieldEngine.constructor 3 4 2 5, StrategyRegistry.constructor 3 1 5⟩).enter
    ⟨5, 2, .strategyRegistry (.addPool 8 9 1 100)⟩ (by decide) rfl 1 rfl).reply .unit 1 rfl).enter
    ⟨5, 2, .strategyRegistry (.addPool 8 10 1 100)⟩ (by decide) rfl 1 rfl
  have run := (run.reply .unit 1 rfl).enter
    ⟨5, 2, .strategyRegistry (.updatePool 1 false 1 100)⟩ (by decide) rfl 1 rfl
  exact ⟨_, _, _, run, System.endsFor_anything (fun _ => some .unit) 3 rfl, by decide⟩

end Kanaka.Proof.Pools.Rebalance
