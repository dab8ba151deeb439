import Kanaka.Proof.Pools.Rebalance

/-! # Which rebalances are accepted, and what they do -/

namespace Kanaka.Proof.Pools.Rebalance
open Machine Contracts

/-! ## The weights that are written -/

def written : Nat → List U256 → YieldEngine.State → YieldEngine.State
  | _, [], s => s
  | i, weight :: rest, s => written (i + 1) rest (s.writePoolWeights (poolAt i) weight)

theorem val_poolAt {i : Nat} (small : i < 2 ^ 32) : (poolAt i).val = i :=
  Nat.mod_eq_of_lt (small.trans (by decide))

theorem poolAt_inj {i j : Nat} (small : i < 2 ^ 32) (small' : j < 2 ^ 32) :
    poolAt i = poolAt j ↔ i = j := by
  rw [Fin.ext_iff, val_poolAt small, val_poolAt small']

theorem written_other (weights : List U256) {i : Nat} {s : YieldEngine.State} {id : Felt252}
    (apart : ∀ j, i ≤ j → j < i + weights.length → id ≠ poolAt j) :
    (written i weights s).poolWeights id = s.poolWeights id := by
  induction weights generalizing i s with
  | nil => rfl
  | cons weight rest ih =>
      rw [List.length_cons] at apart
      rw [written, ih fun j above below => apart j (by omega) (by omega)]
      exact Function.update_of_ne (apart i (le_refl i) (by omega)) _ _

theorem written_poolWeights (weights : List U256) {i j : Nat} {s : YieldEngine.State}
    (fits : i + weights.length ≤ 2 ^ 32) (listed : j < weights.length) :
    (written i weights s).poolWeights (poolAt (i + j)) = weights[j] := by
  induction weights generalizing i j s with
  | nil => contradiction
  | cons weight rest ih =>
      rw [List.length_cons] at fits listed
      cases j with
      | zero =>
          have apart : ∀ k, i + 1 ≤ k → k < i + 1 + rest.length → poolAt i ≠ poolAt k := by
            intro k above below
            rw [Ne, poolAt_inj (by omega) (by omega)]
            omega
          show (written (i + 1) rest _).poolWeights (poolAt i) = weight
          rw [written_other rest apart]
          exact Function.update_self ..
      | succ j =>
          have later : (written (i + 1) rest (s.writePoolWeights (poolAt i) weight)).poolWeights
              (poolAt (i + 1 + j)) = rest[j] := ih (by omega) (by omega)
          rw [Nat.add_right_comm] at later
          exact later

theorem written_strategyRegistry (weights : List U256) (i : Nat) (s : YieldEngine.State) :
    (written i weights s).strategyRegistry = s.strategyRegistry := by
  induction weights generalizing i s with
  | nil => rfl
  | cons weight rest ih => exact ih ..

/-! ## The strategies that are called -/

def executions (registry : ContractAddress) (pools : LegacyMap Felt252 Pool) :
    Nat → List U256 → List Call
  | _, [] => []
  | i, weight :: rest =>
      if (pools (poolAt i)).active then
        ⟨registry, (pools (poolAt i)).strategy, .strategyExecute weight⟩ ::
          executions registry pools (i + 1) rest
      else executions registry pools (i + 1) rest

section Accepted
variable (d : Deployment) {answer : Call → Option Reply}

/-- The strategies of the listed pools are outside the two contracts and return normally. -/
def Returns (answer : Call → Option Reply) (pools : LegacyMap Felt252 Pool) (i : Nat)
    (weights : List U256) : Prop :=
  ∀ call ∈ executions d.registry pools i weights,
    call.target ≠ d.engine ∧ call.target ≠ d.registry ∧ (answer call).isSome

theorem rebalanceLoop_run (weights : List U256) (i : U32) (sum : U256) (w : World)
    (fits : i.toNat + weights.length < 2 ^ 32) (small : sum.toNat + total weights < 2 ^ 256) :
    ∃ sum' : U256, sum'.toNat = sum.toNat + total weights ∧
      ∀ next : U256 → Entry World Reply,
        (YieldEngine.rebalanceLoop weights i sum >>= next).run w =
          (next sum').run ⟨written i.toNat weights w.engine, w.registry⟩ := by
  induction weights generalizing i sum w with
  | nil => exact ⟨sum, rfl, fun _ => rfl⟩
  | cons weight rest ih =>
      have split : total (weight :: rest) = weight.toNat + total rest := List.sum_cons
      rw [List.length_cons] at fits
      rw [split] at small
      have added : checkedAdd sum weight = some (sum + weight) := if_pos (by omega)
      have advanced : checkedAdd i 1 = some (i + 1) := by
        apply if_pos
        show i.toNat + 1 < 2 ^ 32
        omega
      have index : (i + 1).toNat = i.toNat + 1 := checkedAdd_eq_some.mp advanced
      have sum_eq : (sum + weight).toNat = sum.toNat + weight.toNat := checkedAdd_eq_some.mp added
      obtain ⟨sum', total_eq, runs⟩ := ih (i + 1) (sum + weight)
        ⟨w.engine.writePoolWeights i.toFelt weight, w.registry⟩ (by omega) (by omega)
      refine ⟨sum', by omega, ?_⟩
      intro next
      rw [index] at runs
      rw [written, ← toFelt_eq_poolAt, ← runs next]
      simp only [YieldEngine.rebalanceLoop, U256.add, U32.add, added, advanced]
      rfl

theorem code_outside {sender target : ContractAddress} {message : Message}
    (engine : target ≠ d.engine) (registry : target ≠ d.registry) :
    (balancing d).code ⟨sender, target, message⟩ = none := by
  simp [engine, registry]

theorem executeLoop_run (weights : List U256) (i : U32) (w : World)
    (fits : i.toNat + weights.length < 2 ^ 32)
    (returns : Returns d answer w.registry.pools i.toNat weights) :
    ∃ registry : StrategyRegistry.State, ∀ (next : Unit → Entry World Reply) rest result,
      Ends (balancing d) (quiet answer) ((next ()).run ⟨w.engine, registry⟩) rest (some result) →
        Ends (balancing d) (quiet answer)
          ((StrategyRegistry.executeLoop d.registry weights i >>= next).run w)
          (executions d.registry w.registry.pools i.toNat weights ++ rest) (some result) := by
  induction weights generalizing i w with
  | nil => exact ⟨w.registry, fun _ _ _ ends => ends⟩
  | cons weight rest ih =>
      rw [List.length_cons] at fits
      have advanced : checkedAdd i 1 = some (i + 1) := by
        apply if_pos
        show i.toNat + 1 < 2 ^ 32
        omega
      have index : (i + 1).toNat = i.toNat + 1 := checkedAdd_eq_some.mp advanced
      unfold Returns at returns
      by_cases active : (w.registry.pools i.toFelt).active = true
      · have listed : executions d.registry w.registry.pools i.toNat (weight :: rest) =
            ⟨d.registry, (w.registry.pools i.toFelt).strategy, .strategyExecute weight⟩ ::
              executions d.registry w.registry.pools (i + 1).toNat rest := by
          rw [executions, ← toFelt_eq_poolAt, if_pos active, index]
        rw [listed, List.forall_mem_cons] at returns
        obtain ⟨⟨engine, registry, replies⟩, others⟩ := returns
        obtain ⟨reply, given⟩ := Option.isSome_iff_exists.mp replies
        obtain ⟨final, runs⟩ := ih (i + 1) ⟨w.engine, w.registry.emit
          (.strategyExecuted i.toFelt (w.registry.pools i.toFelt).strategy)⟩ (by omega) others
        refine ⟨final, fun next left result ends => ?_⟩
        rw [listed]
        apply Ends.assoc
        apply Ends.load
        simp only [World.get_registry, active, if_true]
        apply Ends.assoc
        apply Ends.send (code_outside d engine registry) (Ends.quiet_some.mpr ⟨given, rfl⟩)
        apply Ends.assoc
        apply Ends.update
        apply Ends.assoc
        apply Ends.orPanic advanced
        exact runs next left result ends
      · have listed : executions d.registry w.registry.pools i.toNat (weight :: rest) =
            executions d.registry w.registry.pools (i + 1).toNat rest := by
          rw [executions, ← toFelt_eq_poolAt, if_neg active, index]
        rw [listed] at returns
        obtain ⟨final, runs⟩ := ih (i + 1) w (by omega) returns
        refine ⟨final, fun next left result ends => ?_⟩
        rw [listed]
        apply Ends.assoc
        apply Ends.load
        simp only [World.get_registry, active]
        apply Ends.assoc
        apply Ends.orPanic advanced
        exact runs next left result ends

theorem rebalance_run (newWeights : CairoArray U256) (w : World) (wired : Wired d w)
    (listed : total newWeights.val = 100000)
    (returns : Returns d answer w.registry.pools 0 newWeights.val) :
    ∃ final : World, Ends (balancing d) (quiet answer)
        ((YieldEngine.entry d.engine w.engine.governance
          (.yieldEngine (.rebalance newWeights))).run w)
        (executions d.registry w.registry.pools 0 newWeights.val) (some (.unit, final)) ∧
      final.engine.totalWeights = 100000 ∧
      final.engine.poolWeights = (written 0 newWeights.val w.engine).poolWeights := by
  have fits : (0 : U32).toNat + newWeights.val.length < 2 ^ 32 := by
    rw [show (0 : U32).toNat = 0 from rfl, Nat.zero_add]
    exact newWeights.property
  obtain ⟨sum, sum_eq, fills⟩ := rebalanceLoop_run newWeights.val 0 0 w fits (by
    rw [listed]
    decide)
  have accepted : sum = 100000 := by
    apply BitVec.eq_of_toNat_eq
    rw [sum_eq, listed]
    rfl
  subst accepted
  obtain ⟨registry, executes⟩ := executeLoop_run d newWeights.val 0
    ⟨(written 0 newWeights.val w.engine).writeTotalWeights 100000, w.registry⟩ fits returns
  have found : (balancing d).code ⟨d.engine, (written 0 newWeights.val w.engine).strategyRegistry,
      .strategyRegistry (.executeRebalance newWeights)⟩ =
      some (StrategyRegistry.entry d.registry d.engine
        (.strategyRegistry (.executeRebalance newWeights))) := by
    rw [written_strategyRegistry, wired.engineRegistry]
    exact code_registry d _ _
  let finished := ((written 0 newWeights.val w.engine).writeTotalWeights 100000).emit
    (.rebalanced newWeights)
  refine ⟨⟨finished, registry⟩, ?_, rfl, rfl⟩
  apply Ends.assoc
  apply Ends.load
  apply Ends.assoc
  apply Ends.require rfl
  apply Ends.assoc
  rw [fills]
  apply Ends.assoc
  apply Ends.require rfl
  apply Ends.assoc
  apply Ends.update
  apply Ends.assoc
  apply Ends.load
  apply Ends.assoc
  apply Ends.sendIn found
  apply Ends.assoc
  apply Ends.assoc
  apply Ends.load
  apply Ends.assoc
  apply Ends.require wired.registryEngine.symm
  rw [← List.append_nil (executions _ _ _ _)]
  apply executes
  exact .done

/-- What a rebalance does: the weights are those of the list, and each active pool of the list has
its strategy called once, in the order of the list. -/
structure Rebalanced (before : World) (weights : List U256) (sent : List Call) (after : World) :
    Prop where
  listed : ∀ i (inside : i < weights.length), after.engine.poolWeights (poolAt i) = weights[i]
  others : ∀ id, (∀ i < weights.length, id ≠ poolAt i) →
    after.engine.poolWeights id = before.engine.poolWeights id
  total : after.engine.totalWeights = 100000
  sent : sent = executions d.registry before.registry.pools 0 weights

end Accepted

theorem rebalance_accepted_iff (d : Deployment)
    (vaultManager cdrOracle governance vaultManager' governance' : ContractAddress)
    {config : Config World Call Reply}
    (reaches : (balancing d).Reaches
      (.initial ⟨YieldEngine.constructor vaultManager cdrOracle d.registry governance,
        StrategyRegistry.constructor vaultManager' d.engine governance'⟩) config)
    (newWeights : CairoArray U256) (answer : Call → Option Reply)
    (returns : Returns d answer config.now.state.registry.pools 0 newWeights.val) :
    let call := (YieldEngine.entry d.engine config.now.state.engine.governance
      (.yieldEngine (.rebalance newWeights))).run config.now.state
    ((∃ sent result, Ends (balancing d) (quiet answer) call sent (some result)) ↔
      total newWeights.val = 100000) ∧
    ∀ sent reply final, Ends (balancing d) (quiet answer) call sent (some (reply, final)) →
      Rebalanced d config.now.state newWeights.val sent final := by
  have start : Wired d ⟨YieldEngine.constructor vaultManager cdrOracle d.registry governance,
      StrategyRegistry.constructor vaultManager' d.engine governance'⟩ := ⟨rfl, rfl⟩
  have wired := (balancing_keepsWired d).invariant rfl start reaches
  constructor
  · constructor
    · rintro ⟨sent, result, ends⟩
      exact total_of_ends d _ newWeights _ wired ends
    · intro listed
      obtain ⟨final, ends, -⟩ := rebalance_run d newWeights _ wired listed returns
      exact ⟨_, _, ends⟩
  · intro sent reply final ends
    have listed := total_of_ends d _ newWeights _ wired ends
    obtain ⟨final', ends', total_eq, weights_eq⟩ :=
      rebalance_run d newWeights _ wired listed returns
    obtain ⟨rfl, same⟩ := ends.unique ends'
    cases same
    refine ⟨?_, ?_, total_eq, rfl⟩
    · intro i inside
      have fits : 0 + newWeights.val.length ≤ 2 ^ 32 := by
        rw [Nat.zero_add]
        exact newWeights.property.le
      have there := written_poolWeights (s := config.now.state.engine) newWeights.val fits inside
      rw [Nat.zero_add] at there
      rw [weights_eq, there]
    · intro id apart
      rw [weights_eq]
      apply written_other
      intro j _ below
      exact apart j (by omega)

/-- Governance 5 adds a pool with strategy 9 and gives it the whole weight. -/
theorem rebalance_accepted_one : ∃ (sent : List Call) (final : World),
    sent = [⟨2, 9, .strategyExecute 100000⟩] ∧ final.engine.poolWeights (poolAt 0) = 100000 := by
  have run := (((balancing ⟨1, 2, by decide⟩).start
    ⟨YieldEngine.constructor 3 4 2 5, StrategyRegistry.constructor 3 1 5⟩).enter
    ⟨5, 2, .strategyRegistry (.addPool 8 9 1 100)⟩ (by decide) rfl 1 rfl).reply .unit 1 rfl
  obtain ⟨accepted, done⟩ := rebalance_accepted_iff _ 3 4 5 3 5 run ⟨[100000], by decide⟩
    (fun _ => some .unit) (by
      intro call member
      rw [show call = ⟨2, 9, .strategyExecute 100000⟩ from List.mem_singleton.mp member]
      decide)
  obtain ⟨sent, ⟨reply, final⟩, ends⟩ := accepted.mpr rfl
  have rebalanced := done sent reply final ends
  exact ⟨sent, final, rebalanced.sent, rebalanced.listed 0 (by decide)⟩

end Kanaka.Proof.Pools.Rebalance
