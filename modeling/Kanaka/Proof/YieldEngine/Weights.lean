import Kanaka.Contracts.Network
import Kanaka.Contracts.YieldEngine
import Kanaka.Machine.Simulate
import Mathlib.Algebra.Order.BigOperators.Group.Finset

namespace Kanaka.Proof.YieldEngine
open Machine Contracts Contracts.YieldEngine

/-- `YieldEngine` at `self`, with every contract it calls in the environment. -/
abbrev yieldEngineAlone (self : ContractAddress) (allowed : Call → State → Prop) :
    System State Call Reply :=
  { alone self (entry self) fun _ _ => False with enters := fun _ => allowed }

def weightBelow (n : Nat) (s : State) : Nat :=
  ∑ id : Felt252 with id.val < n, (s.poolWeights id).toNat

def Emitted (s : State) : Prop := ∃ newWeights, .rebalanced newWeights ∈ s.events

structure Normalised (s : State) : Prop where
  sum : ∑ id, (s.poolWeights id).toNat = s.totalWeights.toNat
  total : s.totalWeights = 0 ∨ s.totalWeights = 100000
  emitted : Emitted s → s.totalWeights = 100000

structure Announces (before after : State) : Prop where
  total : after.totalWeights = before.totalWeights ∨ Emitted after
  emitted : Emitted before → Emitted after

/-- The list says what becomes of every pool that has a weight. -/
def Covers (newWeights : CairoArray U256) (s : State) : Prop :=
  ∀ id : Felt252, newWeights.val.length ≤ id.val → s.poolWeights id = 0

def RebalancesCover (self : ContractAddress) (call : Call) (s : State) : Prop :=
  call.target = self → call.sender = s.governance →
    ∀ newWeights, call.message = .yieldEngine (.rebalance newWeights) →
      (newWeights.val.map BitVec.toNat).sum = 100000 → Covers newWeights s

theorem Announces.refl (s : State) : Announces s s := ⟨.inl rfl, id⟩

theorem Announces.trans {a b c : State} (first : Announces a b) (second : Announces b c) :
    Announces a c := by
  refine ⟨?_, second.emitted ∘ first.emitted⟩
  rcases second.total with same | emitted
  · rcases first.total with same' | emitted
    · exact .inl (same.trans same')
    · exact .inr (second.emitted emitted)
  · exact .inr emitted

theorem weightBelow_zero (s : State) : weightBelow 0 s = 0 := by
  simp [weightBelow]

theorem weightBelow_write (s : State) (i : U32) (weight : U256) :
    weightBelow (i.toNat + 1) (s.writePoolWeights i.toFelt weight) =
      weightBelow i.toNat s + weight.toNat := by
  have split : Finset.univ.filter (fun id : Felt252 => id.val < i.toNat + 1) =
      insert i.toFelt (Finset.univ.filter fun id : Felt252 => id.val < i.toNat) := by
    ext id
    simp only [Finset.mem_filter, Finset.mem_univ, true_and, Finset.mem_insert, Fin.ext_iff,
      U32.val_toFelt]
    omega
  have apart : i.toFelt ∉ Finset.univ.filter fun id : Felt252 => id.val < i.toNat := by
    simp [U32.val_toFelt]
  have below : ∀ id ∈ Finset.univ.filter (fun id : Felt252 => id.val < i.toNat),
      ((s.writePoolWeights i.toFelt weight).poolWeights id).toNat = (s.poolWeights id).toNat := by
    intro id member
    have ne : id ≠ i.toFelt := by
      rintro rfl
      exact apart member
    rw [State.writePoolWeights_poolWeights, Function.update_of_ne ne]
  rw [weightBelow, split, Finset.sum_insert apart, Finset.sum_congr rfl below,
    State.writePoolWeights_poolWeights, Function.update_self, Nat.add_comm, weightBelow]

/-- The loop of `rebalance` over `weights` is at index `i`. -/
structure Filling (weights : List U256) (first : State) (rest : List U256) (i : U32) (total : U256)
    (s : State) : Prop where
  left : i.toNat + rest.length = weights.length
  listed : total.toNat + (rest.map BitVec.toNat).sum = (weights.map BitVec.toNat).sum
  below : weightBelow i.toNat s = total.toNat
  above : ∀ id : Felt252, weights.length ≤ id.val → s.poolWeights id = first.poolWeights id

theorem Filling.write {weights : List U256} {first s : State} {weight : U256} {rest : List U256}
    {i j : U32} {total total' : U256} (filling : Filling weights first (weight :: rest) i total s)
    (j_eq : j.toNat = i.toNat + 1) (total_eq : total'.toNat = total.toNat + weight.toNat) :
    Filling weights first rest j total' (s.writePoolWeights i.toFelt weight) := by
  have left := filling.left
  have sum := filling.listed
  rw [List.length_cons] at left
  rw [List.map_cons, List.sum_cons] at sum
  refine ⟨by omega, by omega, ?_, ?_⟩
  · rw [j_eq, weightBelow_write, filling.below, total_eq]
  · intro id above
    have ne : id ≠ i.toFelt := by
      rintro rfl
      rw [U32.val_toFelt] at above
      omega
    rw [State.writePoolWeights_poolWeights, Function.update_of_ne ne]
    exact filling.above id above

theorem Filling.sum {weights : List U256} {first s : State} {i : U32} {total : U256}
    (filling : Filling weights first [] i total s) :
    ∑ id, (s.poolWeights id).toNat = total.toNat +
      ∑ id : Felt252 with weights.length ≤ id.val, (first.poolWeights id).toNat := by
  have left : i.toNat = weights.length := filling.left
  have above : ∀ id ∈ Finset.univ.filter (fun id : Felt252 => ¬ id.val < weights.length),
      (s.poolWeights id).toNat = (first.poolWeights id).toNat := by
    intro id member
    rw [filling.above id (not_lt.mp (Finset.mem_filter.mp member).2)]
  rw [← Finset.sum_filter_add_sum_filter_not Finset.univ
      (fun id : Felt252 => id.val < weights.length), Finset.sum_congr rfl above, ← filling.below,
    left, weightBelow]
  simp only [not_lt]

section Entries
variable (self caller : ContractAddress) (allowed : Call → State → Prop)

abbrev KeepsWeights {α : Type} (s : State) (code : Entry State α)
    (history : List (Crossing State Call Reply)) : Prop :=
  Safe (yieldEngineAlone self allowed) (fun now => Normalised now.state) Announces
    (fun _ next => Normalised next.state ∧ Announces s next.state) (code.run s) history

theorem rebalance_keepsWeights (newWeights : CairoArray U256) (s : State)
    (history : List (Crossing State Call Reply))
    (covers : caller = s.governance → (newWeights.val.map BitVec.toNat).sum = 100000 →
      Covers newWeights s) :
    KeepsWeights self allowed s (rebalance self caller newWeights) history := by
  apply safe_rebalance self caller newWeights (Filling newWeights.val s)
  · intro _
    exact ⟨Nat.zero_add _, Nat.zero_add _, weightBelow_zero s, fun _ _ => rfl⟩
  · intro weight rest i total now j total' filling j_eq total_eq
    exact filling.write j_eq total_eq
  · intro authorized i filled filling
    have listed : (newWeights.val.map BitVec.toNat).sum = 100000 := filling.listed.symm
    have others : ∑ id : Felt252 with newWeights.val.length ≤ id.val,
        (s.poolWeights id).toNat = 0 := by
      apply Finset.sum_eq_zero
      intro id member
      rw [covers authorized listed id (Finset.mem_filter.mp member).2, U256.toNat_zero]
    have written : Normalised (filled.writeTotalWeights 100000) := by
      refine ⟨?_, .inr rfl, fun _ => rfl⟩
      have sum := filling.sum
      rw [others, Nat.add_zero] at sum
      exact sum
    apply Safe.send (deployed_foreign (entry_foreign _ _ (by simp))) written
    intro _ executed executedOk announces
    -- a rebalance inside `execute_rebalance` ends with the same total
    have total_after : executed.state.totalWeights = 100000 := by
      rcases announces.total with same | emitted
      · exact same
      · exact executedOk.emitted emitted
    have emitted : Emitted (executed.state.emit (.rebalanced newWeights)) :=
      ⟨newWeights, List.mem_append_right _ List.mem_cons_self⟩
    exact ⟨⟨executedOk.sum, .inr total_after, fun _ => total_after⟩, ⟨.inr emitted, fun _ => emitted⟩⟩

theorem Emitted.emit_harvest {s : State} {poolId : Felt252} {amount : U256} :
    Emitted (s.emit (.yieldHarvested poolId amount)) ↔ Emitted s := by
  simp [Emitted]

theorem harvestYield_keepsWeights (poolId : Felt252) (s : State)
    (history : List (Crossing State Call Reply)) (normalised : Normalised s) :
    KeepsWeights self allowed s (harvestYield self caller poolId) history := by
  apply safe_harvestYield
  intro _
  apply Safe.send (deployed_foreign (entry_foreign _ _ (by simp))) normalised
  intro _ answered answeredOk answeredAnnounces yieldAmount _ _
  constructor
  · intro _
    exact ⟨answeredOk, answeredAnnounces⟩
  · intro _
    apply Safe.send (deployed_foreign (entry_foreign _ _ (by simp))) answeredOk
    intro _ paid paidOk paidAnnounces
    have announces := answeredAnnounces.trans paidAnnounces
    refine ⟨⟨paidOk.sum, paidOk.total, ?_⟩, ⟨?_, ?_⟩⟩
    · exact fun emitted => paidOk.emitted (Emitted.emit_harvest.mp emitted)
    · exact announces.total.imp id Emitted.emit_harvest.mpr
    · exact fun emitted => Emitted.emit_harvest.mpr (announces.emitted emitted)

theorem notifyOracle_keepsWeights (isDeposit : Bool) (poolId : Felt252) (amount : U256) (s : State)
    (history : List (Crossing State Call Reply)) (normalised : Normalised s) :
    KeepsWeights self allowed s (notifyOracle self caller isDeposit poolId amount) history := by
  apply safe_notifyOracle
  intro _
  apply Safe.send (deployed_foreign (entry_foreign _ _ (by simp))) normalised
  intro _ told toldOk announces
  exact ⟨toldOk, announces⟩

theorem yieldEngine_keepsWeights :
    Certified (yieldEngineAlone self (RebalancesCover self)) (fun now => Normalised now.state)
      Announces Announces where
  rely_refl := Announces.refl
  rely_trans := Announces.trans
  guarantee_trans := Announces.trans
  resumed _ normalised := normalised
  enter {depth request body now} covers found normalised := by
    simp only [alone, deployed_cons, deployed_nil, Option.ite_none_right_eq_some,
      Option.some.injEq] at found
    rw [← found.2]
    exact safe_entry self request.sender request.message ⟨normalised, Announces.refl _⟩
      (fun newWeights eq => rebalance_keepsWeights self _ _ newWeights _ _
        fun authorized => covers found.1 authorized newWeights eq)
      (fun poolId _ => harvestYield_keepsWeights self _ _ poolId _ _ normalised)
      (fun isDeposit poolId amount =>
        notifyOracle_keepsWeights self _ _ isDeposit poolId amount _ _ normalised)
  nested _ announces := announces
  drift _ impossible := impossible.elim
  tick _ impossible := impossible.elim

end Entries

theorem constructor_normalised (vaultManager cdrOracle strategyRegistry governance : ContractAddress) :
    Normalised (constructor vaultManager cdrOracle strategyRegistry governance) := by
  refine ⟨?_, .inl rfl, ?_⟩
  · simp [constructor]
  · simp [Emitted, constructor]

/-- As long as every rebalance lists all pools that have a weight, the weights stay normalised. -/
theorem weights_normalised (self vaultManager cdrOracle strategyRegistry governance : ContractAddress)
    {config : Config State Call Reply}
    (reaches : (yieldEngineAlone self (RebalancesCover self)).Reaches
      (.initial (constructor vaultManager cdrOracle strategyRegistry governance)) config) :
    ∑ id, (config.now.state.poolWeights id).toNat = config.now.state.totalWeights.toNat ∧
    (config.now.state.totalWeights.toNat = 0 ∨ config.now.state.totalWeights.toNat = 100000) ∧
    (config.stack = [] → ((∃ newWeights, .rebalanced newWeights ∈ config.now.state.events) →
        config.now.state.totalWeights.toNat = 100000) ∧
      ((∀ newWeights, .rebalanced newWeights ∉ config.now.state.events) →
        config.now.state.totalWeights.toNat = 0)) := by
  have certified := yieldEngine_keepsWeights self
  have start := constructor_normalised vaultManager cdrOracle strategyRegistry governance
  have normalised := certified.invariant rfl start reaches
  refine ⟨normalised.sum, ?_, ?_⟩
  · rcases normalised.total with total | total
    · exact .inl (congrArg BitVec.toNat total)
    · exact .inr (congrArg BitVec.toNat total)
  · intro idle
    constructor
    · intro emitted
      exact congrArg BitVec.toNat (normalised.emitted emitted)
    · intro silent
      have announces := certified.guarantee rfl start (.refl _) reaches idle
      rcases announces.total with same | ⟨newWeights, emitted⟩
      · exact congrArg BitVec.toNat same
      · exact absurd emitted (silent newWeights)

theorem weights_normalised_divided : ∃ config : Config State Call Reply,
    config.stack = [] ∧ config.now.state.poolWeights 1 = 30000 ∧
    ∑ id, (config.now.state.poolWeights id).toNat = config.now.state.totalWeights.toNat := by
  -- governance 5 gives all weight to the first pool, then divides it between two
  have first := (((yieldEngineAlone 1 (RebalancesCover 1)).start (constructor 2 3 4 5)).enter
    ⟨5, 1, .yieldEngine (.rebalance ⟨[100000], by decide⟩)⟩
    (by intro _ _ newWeights eq _; cases eq; exact fun _ _ => rfl) rfl 1 rfl).reply .unit 1 rfl
  have run := (first.enter ⟨5, 1, .yieldEngine (.rebalance ⟨[70000, 30000], by decide⟩)⟩
    (by
      intro _ _ newWeights eq _
      cases eq
      intro id above
      have ne : id ≠ U32.toFelt 0 := by
        rintro rfl
        exact absurd above (by decide)
      exact Function.update_of_ne ne _ _) rfl 1 rfl).reply .unit 1 rfl
  exact ⟨_, rfl, rfl, (weights_normalised 1 2 3 4 5 run).1⟩

/-- A rebalance of two pools is followed by one of the first pool only: the second keeps its
weight. -/
theorem weights_accumulate : ∃ config : Config State Call Reply,
    (yieldEngineAlone 1 fun _ _ => True).Reaches (.initial (constructor 2 3 4 5)) config ∧
    config.stack = [] ∧ config.now.state.totalWeights = 100000 ∧
    config.now.state.totalWeights.toNat < ∑ id, (config.now.state.poolWeights id).toNat := by
  have run := ((((yieldEngineAlone 1 fun _ _ => True).start (constructor 2 3 4 5)).enter
    ⟨5, 1, .yieldEngine (.rebalance ⟨[50000, 50000], by decide⟩)⟩ trivial rfl 1 rfl).reply
    .unit 1 rfl).enter
    ⟨5, 1, .yieldEngine (.rebalance ⟨[100000], by decide⟩)⟩ trivial rfl 1 rfl
  obtain ⟨config, reaches, idle, total, first, second⟩ : ∃ config : Config State Call Reply,
      (yieldEngineAlone 1 fun _ _ => True).Reaches (.initial (constructor 2 3 4 5)) config ∧
      config.stack = [] ∧ config.now.state.totalWeights = 100000 ∧
      config.now.state.poolWeights 0 = 100000 ∧ config.now.state.poolWeights 1 = 50000 :=
    ⟨_, run.reply .unit 1 rfl, rfl, rfl, rfl, rfl⟩
  refine ⟨config, reaches, idle, total, ?_⟩
  calc config.now.state.totalWeights.toNat
      < (config.now.state.poolWeights 0).toNat + (config.now.state.poolWeights 1).toNat := by
        rw [total, first, second]
        decide
    _ = ∑ id ∈ {0, 1}, (config.now.state.poolWeights id).toNat :=
        by
        rw [Finset.sum_pair (by decide : (0 : Felt252) ≠ 1)]
    _ ≤ ∑ id, (config.now.state.poolWeights id).toNat :=
        Finset.sum_le_sum_of_subset (Finset.subset_univ _)

end Kanaka.Proof.YieldEngine
