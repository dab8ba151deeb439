import Kanaka.Async.Sequence
import Kanaka.Backend.YieldEngineService
import Kanaka.Contracts.Network
import Kanaka.Contracts.YieldEngine
import Kanaka.Machine.Transactions

/-! # The rows of weights next to the yield engine -/

namespace Kanaka.Backend.YieldEngineService
open Async Contracts

/-! ## The table after a list of events -/

def isRebalance : YieldEngine.Event → Option (CairoArray U256)
  | .rebalanced newWeights => some newWeights
  | .yieldHarvested _ _ => none

def announced (s : YieldEngine.State) : List (CairoArray U256) := s.events.filterMap isRebalance

def mirror (findOne : FindOne) (events : List (CairoArray U256)) : Store :=
  (service findOne).completeAll .empty (events.map .rebalanced)

def PoolWeight.entry (row : PoolWeight) : String × String := (row.poolId, row.weight)

def entries : Nat → List U256 → List (String × String)
  | _, [] => []
  | i, weight :: rest => (toString i, toString weight.toNat) :: entries (i + 1) rest

theorem mem_entries {start : Nat} {weights : List U256} {i : Nat} {text : String} :
    (toString i, text) ∈ entries start weights ↔
      start ≤ i ∧ ∃ weight, weights[i - start]? = some weight ∧ text = toString weight.toNat := by
  induction weights generalizing start with
  | nil => simp [entries]
  | cons weight rest ih =>
      rw [entries, List.mem_cons, ih, Prod.mk.injEq]
      constructor
      · rintro (⟨same, rfl⟩ | ⟨later, weight', found, rfl⟩)
        · rw [toString_inj same]
          exact ⟨Nat.le_refl _, weight, by simp, rfl⟩
        · refine ⟨by omega, weight', ?_, rfl⟩
          rw [show i - start = i - (start + 1) + 1 by omega, List.getElem?_cons_succ]
          exact found
      · rintro ⟨le, weight', found, rfl⟩
        by_cases same : i = start
        · subst same
          simp only [Nat.sub_self, List.getElem?_cons_zero, Option.some.injEq] at found
          exact .inl ⟨rfl, by rw [found]⟩
        · rw [show i - start = i - (start + 1) + 1 by omega, List.getElem?_cons_succ] at found
          exact .inr ⟨by omega, weight', found, rfl⟩

section Mirror
variable (findOne : FindOne)

theorem run_saveWeights (start : Nat) (weights : List U256) (store : Store) :
    ∃ after, (saveWeights start weights).run (service findOne).answer store = (.ok (), after) ∧
      after.rows.map PoolWeight.entry = store.rows.map PoolWeight.entry ++ entries start weights := by
  induction weights generalizing start store with
  | nil => exact ⟨store, rfl, by simp [entries]⟩
  | cons weight rest ih =>
      obtain ⟨after, ran, rows⟩ := ih (start + 1)
        (store.insert (fun id => ⟨id, toString start, toString weight.toNat⟩) fun _ => rfl)
      refine ⟨after, ?_, ?_⟩
      · rw [saveWeights, perform, Service.run_answer_perform]
        exact ran
      · rw [rows, Table.insert_rows]
        simp [PoolWeight.entry, entries]

theorem complete_rebalanced (store : Store) (newWeights : CairoArray U256) :
    ((service findOne).complete store (.rebalanced newWeights)).rows.map PoolWeight.entry =
      store.rows.map PoolWeight.entry ++ entries 0 newWeights.val := by
  obtain ⟨after, ran, rows⟩ := run_saveWeights findOne 0 newWeights.val store
  rw [← rows]
  unfold Service.complete
  show ((onRebalanced newWeights >>= fun _ => pure Value.unit).run (service findOne).answer
    store).2.rows.map _ = _
  rw [Task.run_bind_pure, onRebalanced, (service findOne).run_answer_caught _ _ ran]

theorem mirror_entries (events : List (CairoArray U256)) :
    (mirror findOne events).rows.map PoolWeight.entry =
      events.flatMap fun newWeights => entries 0 newWeights.val := by
  induction events using List.reverseRecOn with
  | nil => rfl
  | append_singleton past newWeights ih =>
      rw [mirror, List.map_append, List.map_singleton, Service.completeAll_concat,
        complete_rebalanced]
      rw [mirror] at ih
      simp [ih]

theorem mirror_eq (other : FindOne) (events : List (CairoArray U256)) :
    mirror findOne events = mirror other events := by
  have saved : ∀ weights start store, (saveWeights start weights).run (service findOne).answer store =
      (saveWeights start weights).run (service other).answer store := by
    intro weights
    induction weights with
    | nil => exact fun _ _ => rfl
    | cons weight rest ih =>
        intro start store
        rw [saveWeights, perform, Service.run_answer_perform, Service.run_answer_perform]
        exact ih _ _
  induction events using List.reverseRecOn with
  | nil => rfl
  | append_singleton past newWeights ih =>
      rw [mirror, mirror, List.map_append, List.map_singleton, Service.completeAll_concat,
        Service.completeAll_concat]
      rw [mirror, mirror] at ih
      rw [ih]
      show ((onRebalanced newWeights >>= fun _ => pure Value.unit).run _ _).2 =
        ((onRebalanced newWeights >>= fun _ => pure Value.unit).run _ _).2
      rw [Task.run_bind_pure, Task.run_bind_pure, onRebalanced, Task.run_tryCatch, Task.run_tryCatch,
        saved]
      rfl

theorem mem_mirror {events : List (CairoArray U256)} {i : Nat} {text : String} :
    (∃ row ∈ (mirror findOne events).rows, row.entry = (toString i, text)) ↔
      ∃ newWeights ∈ events, ∃ weight, newWeights.val[i]? = some weight ∧
        text = toString weight.toNat := by
  rw [← List.mem_map, mirror_entries]
  simp only [List.mem_flatMap, mem_entries, Nat.zero_le, true_and, Nat.sub_zero]

end Mirror

/-! ## Rebalances one after the other -/

section Rebalances
open Machine

abbrev engineAlone (self : ContractAddress) :
    System YieldEngine.State Contracts.Call Contracts.Reply :=
  alone self (YieldEngine.entry self) fun _ _ => True

structure Others (before after : YieldEngine.State) : Prop where
  weights : after.poolWeights = before.poolWeights
  announced : announced after = announced before

def IsRebalance (call : Contracts.Call) : Prop :=
  ∃ newWeights, call.message = .yieldEngine (.rebalance newWeights)

def poolWeight (s : YieldEngine.State) (i : Nat) : U256 := s.poolWeights (Fin.ofNat fieldPrime i)

def Assigned (s : YieldEngine.State) (i : Nat) : Prop :=
  ∃ newWeights ∈ announced s, i < newWeights.val.length

/-- `getPoolWeight` answers what the contract does, whichever matching row the database picks. -/
def Current (s : YieldEngine.State) : Prop :=
  ∀ i, Assigned s i → ∀ findOne, (getPoolWeight i).run (service findOne).answer
    (mirror findOne (announced s)) =
      (.ok (some (toString (poolWeight s i).toNat)), mirror findOne (announced s))

/-- No pool that has a weight gets another one. -/
def Harmless (s : YieldEngine.State) (call : Contracts.Call) : Prop :=
  ∀ newWeights, call.message = .yieldEngine (.rebalance newWeights) →
    ∀ i weight, newWeights.val[i]? = some weight → Assigned s i → poolWeight s i = weight

/-- All that was ever announced of a pool is what the contract has. -/
def Settled (s : YieldEngine.State) : Prop :=
  ∀ newWeights ∈ announced s, ∀ i weight, newWeights.val[i]? = some weight → poolWeight s i = weight

theorem toString_ne_empty (n : Nat) : toString n ≠ "" := by
  intro empty
  have digits : Nat.toDigits 10 n = [] := by
    simpa [Nat.toString_eq_repr, Nat.toList_repr] using congrArg String.toList empty
  exact Nat.toDigits_ne_nil digits

theorem run_getPoolWeight (findOne : FindOne) (store : Store) (i : Nat) :
    (getPoolWeight i).run (service findOne).answer store =
      (.ok (((findOne.pick (store.rows.filter fun row => row.poolId = toString i)).map
        (·.weight)).filter (· ≠ "")), store) := rfl

theorem current_iff (s : YieldEngine.State) : Current s ↔ Settled s := by
  constructor
  · intro current newWeights member i weight found
    have assigned : Assigned s i := ⟨newWeights, member, (List.getElem?_eq_some_iff.mp found).1⟩
    obtain ⟨row, stands, entry⟩ := (mem_mirror .first).mpr ⟨newWeights, member, weight, found, rfl⟩
    simp only [PoolWeight.entry, Prod.mk.injEq] at entry
    have answered := current i assigned (.preferring row)
    have matching : row ∈ (mirror (.preferring row) (announced s)).rows.filter
        fun row => row.poolId = toString i := by
      rw [mirror_eq _ .first]
      exact List.mem_filter.mpr ⟨stands, by simp [entry.1]⟩
    have picked : (FindOne.preferring row).pick ((mirror (.preferring row) (announced s)).rows.filter
        fun row => row.poolId = toString i) = some row := if_pos matching
    rw [run_getPoolWeight, picked, Option.map_some, entry.2, Option.filter_some,
      decide_eq_true (toString_ne_empty _)] at answered
    simp only [if_true, Prod.mk.injEq, Except.ok.injEq, Option.some.injEq, and_true] at answered
    exact (BitVec.eq_of_toNat_eq (toString_inj answered)).symm
  · intro settled i assigned findOne
    obtain ⟨newWeights, member, inside⟩ := assigned
    obtain ⟨row, stands, entry⟩ := (mem_mirror findOne).mpr
      ⟨newWeights, member, _, List.getElem?_eq_getElem inside, rfl⟩
    simp only [PoolWeight.entry, Prod.mk.injEq] at entry
    have matching : row ∈ (mirror findOne (announced s)).rows.filter
        fun row => row.poolId = toString i := List.mem_filter.mpr ⟨stands, by simp [entry.1]⟩
    obtain ⟨other, picked⟩ := Option.isSome_iff_exists.mp
      (findOne.isSome (List.ne_nil_of_mem matching))
    obtain ⟨stands', named⟩ := List.mem_filter.mp (findOne.mem picked)
    have entry' : other.entry = (toString i, other.weight) := by
      rw [PoolWeight.entry, of_decide_eq_true named]
    obtain ⟨earlier, member', weight, found, text⟩ :=
      (mem_mirror findOne).mp ⟨other, stands', entry'⟩
    rw [run_getPoolWeight, picked, Option.map_some, text, settled _ member' _ _ found,
      Option.filter_some, decide_eq_true (toString_ne_empty _), if_pos rfl]

theorem loop_ends {S : System YieldEngine.State Contracts.Call Contracts.Reply}
    {env : Contracts.Call → YieldEngine.State → Option (Contracts.Reply × YieldEngine.State) → Prop}
    {weights : List U256} {i : U32} {total : U256} {next : U256 → Entry YieldEngine.State Contracts.Reply}
    {s : YieldEngine.State} {sent : List Contracts.Call} {result : Contracts.Reply × YieldEngine.State}
    (ends : Ends S env ((YieldEngine.rebalanceLoop weights i total >>= next).run s) sent (some result)) :
    ∃ total' filled, Ends S env ((next total').run filled) sent (some result) ∧
      filled.events = s.events ∧ ∀ id : Felt252, filled.poolWeights id =
        (if i.toNat ≤ id.val then weights[id.val - i.toNat]? else none).getD (s.poolWeights id) := by
  induction weights generalizing i total s with
  | nil => exact ⟨total, s, ends, rfl, fun id => by simp⟩
  | cons weight rest ih =>
      obtain ⟨_, _, ends⟩ := ends.of_assoc.of_update.of_assoc.of_orPanic
      obtain ⟨j, next_i, ends⟩ := ends.of_assoc.of_orPanic
      have j_eq : j.toNat = i.toNat + 1 := checkedAdd_eq_some.mp next_i
      obtain ⟨total', filled, ends, events, values⟩ := ih ends
      refine ⟨total', filled, ends, events, ?_⟩
      intro id
      rw [values id, j_eq]
      simp only [Has.get_self, Has.set_self, YieldEngine.State.writePoolWeights_poolWeights]
      by_cases here : id.val = i.toNat
      · have same : id = i.toFelt := Fin.ext (here.trans (U32.val_toFelt i).symm)
        rw [same, Function.update_self, U32.val_toFelt, if_neg (Nat.not_succ_le_self _),
          if_pos (Nat.le_refl _), Nat.sub_self]
        rfl
      · have other : id ≠ i.toFelt := by
          rintro rfl
          exact here (U32.val_toFelt i)
        rw [Function.update_of_ne other]
        by_cases later : i.toNat + 1 ≤ id.val
        · rw [if_pos later, if_pos (by omega), show id.val - i.toNat = id.val - (i.toNat + 1) + 1 by omega,
            List.getElem?_cons_succ]
        · rw [if_neg later, if_neg (by omega)]

theorem rebalance_ends {self caller : ContractAddress} {newWeights : CairoArray U256}
    {s : YieldEngine.State} {sent : List Contracts.Call} {result : Contracts.Reply × YieldEngine.State}
    (ends : Ends (engineAlone self) (amid Others)
      ((YieldEngine.entry self caller (.yieldEngine (.rebalance newWeights))).run s) sent (some result)) :
    announced result.2 = announced s ++ [newWeights] ∧
    ∀ i < 2 ^ 32, poolWeight result.2 i = (newWeights.val[i]?).getD (poolWeight s i) := by
  obtain ⟨_, ends⟩ := ends.of_assoc.of_load.of_assoc.of_require
  obtain ⟨_, filled, ends, events, values⟩ := loop_ends ends.of_assoc
  obtain ⟨_, ends⟩ := ends.of_assoc.of_require
  obtain ⟨_, executed, _, _, _, met, ends⟩ := ends.of_assoc.of_update.of_assoc.of_load.of_assoc.of_send
    (deployed_foreign (YieldEngine.entry_foreign _ _ (by simp)))
  have met : Others (filled.writeTotalWeights _) executed := met _ _ rfl
  obtain ⟨_, ends⟩ := Ends.done_iff.mp ends.of_update
  cases ends
  constructor
  · have same := met.announced
    simp only [announced, YieldEngine.State.writeTotalWeights_events, events] at same
    simp [announced, isRebalance, same]
  · intro i small
    have inside : (Fin.ofNat fieldPrime i).val = i :=
      Nat.mod_eq_of_lt (small.trans (by decide))
    simp only [poolWeight, Has.get_self, Has.set_self, YieldEngine.State.emit_poolWeights, met.weights,
      YieldEngine.State.writeTotalWeights_poolWeights, values, inside]
    simp

theorem settled_step {s after : YieldEngine.State} {newWeights : CairoArray U256}
    (listed : announced after = announced s ++ [newWeights])
    (values : ∀ i < 2 ^ 32, poolWeight after i = (newWeights.val[i]?).getD (poolWeight s i))
    (settled : Settled s) : Settled after ↔ ∀ i weight, newWeights.val[i]? = some weight →
      Assigned s i → poolWeight s i = weight := by
  have small : ∀ {list : CairoArray U256} {i : Nat} {weight : U256}, list.val[i]? = some weight →
      i < 2 ^ 32 := fun {list} {_} {_} found => (List.getElem?_eq_some_iff.mp found).1.trans list.property
  rw [Settled, listed]
  simp only [List.mem_append, List.mem_singleton]
  constructor
  · rintro settledAfter i weight found ⟨earlier, member, inside⟩
    have before := List.getElem?_eq_getElem inside
    rw [settled earlier member i _ before, ← settledAfter earlier (.inl member) i _ before,
      settledAfter newWeights (.inr rfl) i weight found]
  · rintro harmless list (member | rfl) i weight found
    · rw [values i (small found)]
      cases now : newWeights.val[i]? with
      | none => exact settled list member i weight found
      | some weight' =>
          have assigned : Assigned s i := ⟨list, member, (List.getElem?_eq_some_iff.mp found).1⟩
          rw [Option.getD_some, ← harmless i weight' now assigned]
          exact settled list member i weight found
    · rw [values i (small found), found, Option.getD_some]

/-- `getPoolWeight` answers what the contract does after every rebalance exactly when no rebalance
changes a weight. -/
theorem weights_mirrored_iff (self vaultManager cdrOracle strategyRegistry governance : ContractAddress)
    {past : List (Contracts.Call × YieldEngine.State)}
    (succession : Succession (engineAlone self) Others IsRebalance
      (YieldEngine.constructor vaultManager cdrOracle strategyRegistry governance) past) :
    (∀ early, early <+: past →
      Current (latest (YieldEngine.constructor vaultManager cdrOracle strategyRegistry governance) early)) ↔
    ∀ early call, early ++ [call] <+: past → Harmless
      (latest (YieldEngine.constructor vaultManager cdrOracle strategyRegistry governance) early) call.1 := by
  simp only [current_iff]
  apply succession.always_iff
  · exact fun newWeights member => absurd member List.not_mem_nil
  · intro past request before body sent reply after _ met known found ends settled
    obtain ⟨newWeights, message⟩ := known
    simp only [alone, deployed_cons, deployed_nil, Option.ite_none_right_eq_some,
      Option.some.injEq, message] at found
    rw [← found.2] at ends
    obtain ⟨listed, values⟩ := rebalance_ends ends
    rw [met.announced] at listed
    simp only [poolWeight, met.weights] at values
    rw [settled_step listed values settled]
    constructor
    · intro harmless other same
      rw [message] at same
      cases same
      exact harmless
    · exact fun harmless => harmless newWeights message

theorem Others.refl (s : YieldEngine.State) : Others s s := ⟨rfl, rfl⟩

theorem weights_mirrored_same : ∃ past : List (Contracts.Call × YieldEngine.State), past.length = 2 ∧
    ∀ early, early <+: past → Current (latest (YieldEngine.constructor 2 3 4 5) early) := by
  have none : Succession (engineAlone 1) Others IsRebalance (YieldEngine.constructor 2 3 4 5) [] := .nil
  have run := (none.call .refl ⟨5, 1, .yieldEngine (.rebalance ⟨[100000], by decide⟩)⟩ ⟨_, rfl⟩ rfl
    (fun _ => some .unit) 1 rfl).call .refl ⟨5, 1, .yieldEngine (.rebalance ⟨[100000], by decide⟩)⟩
    ⟨_, rfl⟩ rfl (fun _ => some .unit) 1 rfl
  refine ⟨_, rfl, (weights_mirrored_iff 1 2 3 4 5 run).mpr ?_⟩
  intro early call reached
  rcases List.prefix_concat_iff.mp reached with last | reached
  · obtain ⟨rfl, same⟩ := List.append_inj' last rfl
    cases same
    intro newWeights message i weight found _
    cases message
    cases i with
    | zero =>
        cases found
        rfl
    | succ i => simp at found
  · rcases List.prefix_concat_iff.mp reached with last | reached
    · obtain ⟨rfl, same⟩ := List.append_inj' last rfl
      cases same
      rintro newWeights message i weight found ⟨earlier, there, _⟩
      exact absurd there List.not_mem_nil
    · simp at reached

/-- Governance 5 moves the whole weight from the first pool to the second: the first row of each
pool still answers. -/
theorem weight_stale : ∃ past : List (Contracts.Call × YieldEngine.State),
    Succession (engineAlone 1) Others IsRebalance (YieldEngine.constructor 2 3 4 5) past ∧
    poolWeight (latest (YieldEngine.constructor 2 3 4 5) past) 0 = 0 ∧
    ((getPoolWeight 0).run (service .first).answer
      (mirror .first (announced (latest (YieldEngine.constructor 2 3 4 5) past)))).1 =
        .ok (some "100000") := by
  have none : Succession (engineAlone 1) Others IsRebalance (YieldEngine.constructor 2 3 4 5) [] := .nil
  have run := (none.call .refl ⟨5, 1, .yieldEngine (.rebalance ⟨[100000], by decide⟩)⟩ ⟨_, rfl⟩ rfl
    (fun _ => some .unit) 1 rfl).call .refl ⟨5, 1, .yieldEngine (.rebalance ⟨[0, 100000], by decide⟩)⟩
    ⟨_, rfl⟩ rfl (fun _ => some .unit) 1 rfl
  refine ⟨_, run, rfl, ?_⟩
  rfl

end Rebalances

end Kanaka.Backend.YieldEngineService
