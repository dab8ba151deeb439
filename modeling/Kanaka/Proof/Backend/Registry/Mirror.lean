import Kanaka.Async.Sequence
import Kanaka.Backend.StrategyRegistryService
import Kanaka.Contracts.Network
import Kanaka.Machine.Simulate

/-! # The tables of the registry after a list of events -/

namespace Kanaka.Backend.StrategyRegistryService
open Async Contracts

def mirror (events : List StrategyRegistry.Event) : Store := service.completeAll .empty events

theorem mirror_concat (past : List StrategyRegistry.Event) (event : StrategyRegistry.Event) :
    mirror (past ++ [event]) = service.complete (mirror past) event := by
  simp [mirror]

section Complete
variable (past : List StrategyRegistry.Event) (poolId : Felt252)

theorem find_added (token strategy : ContractAddress) (name : String) :
    (mirror (past ++ [.poolAdded poolId token strategy])).pools.find name =
      if idText poolId = name then some ⟨idText poolId, token, strategy, true, 0, 0⟩
      else (mirror past).pools.find name := by
  rw [mirror_concat]
  exact Table.find_save

theorem find_updated (active : Bool) (minDeposit maxCapacity : U256) (name : String) :
    (mirror (past ++ [.poolUpdated poolId active minDeposit maxCapacity])).pools.find name =
      ((mirror past).pools.find name).map fun row => if row.poolId = idText poolId then
        { row with active, minDeposit := minDeposit.toNat, maxCapacity := maxCapacity.toNat }
        else row := by
  rw [mirror_concat]
  show (Service.updatePool (mirror past).pools (idText poolId) active minDeposit.toNat
    maxCapacity.toNat).find name = _
  rw [Service.updatePool, Table.find_change]

theorem pools_executed (strategy : ContractAddress) :
    (mirror (past ++ [.strategyExecuted poolId strategy])).pools = (mirror past).pools := by
  rw [mirror_concat]
  rfl

theorem executions_executed (strategy : ContractAddress) :
    (mirror (past ++ [.strategyExecuted poolId strategy])).strategyExecutions =
      (mirror past).strategyExecutions.save ⟨0, idText poolId, strategy, 0⟩ := by
  rw [mirror_concat]
  rfl

end Complete

/-! ## Pools next to the contract -/

section Contract
open Machine

def rowOf (poolId : Felt252) (pool : Contracts.Pool) : Pool :=
  ⟨idText poolId, pool.token, pool.strategy, pool.active, pool.minDeposit.toNat,
    pool.maxCapacity.toNat⟩

def Created (s : StrategyRegistry.State) (poolId : Felt252) : Prop :=
  ∃ token strategy, .poolAdded poolId token strategy ∈ s.events

def Agrees (s : StrategyRegistry.State) : Prop :=
  ∀ poolId, Created s poolId →
    (mirror s.events).pools.find (idText poolId) = some (rowOf poolId (s.pools poolId))

theorem Agrees.added {s : StrategyRegistry.State} (agrees : Agrees s) (poolId count : Felt252)
    (token strategy : ContractAddress) :
    Agrees (((s.writePools poolId ⟨token, strategy, true, 0, 0⟩).writePoolCount count).emit
      (.poolAdded poolId token strategy)) := by
  intro other created
  simp only [StrategyRegistry.State.emit_events, StrategyRegistry.State.writePoolCount_events,
    StrategyRegistry.State.writePools_events, StrategyRegistry.State.emit_pools,
    StrategyRegistry.State.writePoolCount_pools, StrategyRegistry.State.writePools_pools]
  rw [find_added, Function.update_apply]
  by_cases same : other = poolId
  · subst same
    simp [rowOf]
  · rw [if_neg fun named => same (idText_inj.mp named).symm, if_neg same]
    apply agrees
    obtain ⟨token', strategy', member⟩ := created
    simp only [StrategyRegistry.State.emit_events, StrategyRegistry.State.writePoolCount_events,
      StrategyRegistry.State.writePools_events, List.mem_append, List.mem_singleton,
      StrategyRegistry.Event.poolAdded.injEq, same, false_and, or_false] at member
    exact ⟨token', strategy', member⟩

theorem Agrees.updated {s : StrategyRegistry.State} (agrees : Agrees s) (poolId : Felt252)
    (active : Bool) (minDeposit maxCapacity : U256) :
    Agrees ((s.writePools poolId { s.pools poolId with active, minDeposit, maxCapacity }).emit
      (.poolUpdated poolId active minDeposit maxCapacity)) := by
  intro other created
  have before : Created s other := by simpa [Created] using created
  simp only [StrategyRegistry.State.emit_events, StrategyRegistry.State.writePools_events,
    StrategyRegistry.State.emit_pools, StrategyRegistry.State.writePools_pools]
  rw [find_updated, agrees other before, Function.update_apply, Option.map_some]
  by_cases same : other = poolId
  · subst same
    simp [rowOf]
  · have apart : idText other ≠ idText poolId := fun named => same (idText_inj.mp named)
    simp [rowOf, same, apart]

theorem Agrees.executed {s : StrategyRegistry.State} (agrees : Agrees s) (poolId : Felt252)
    (strategy : ContractAddress) : Agrees (s.emit (.strategyExecuted poolId strategy)) := by
  intro other created
  have before : Created s other := by simpa [Created] using created
  rw [StrategyRegistry.State.emit_events, pools_executed]
  exact agrees other before

/-- Nothing enters while a call waits, and every pool is added without limits. -/
structure Plain (registry : ContractAddress) (depth : Nat) (call : Contracts.Call)
    (s : StrategyRegistry.State) : Prop where
  idle : depth = 0
  unlimited : ∀ token strategy minDeposit maxCapacity,
    call.message = .strategyRegistry (.addPool token strategy minDeposit maxCapacity) →
    call.target = registry → call.sender = s.governance → token ≠ 0 → strategy ≠ 0 →
    minDeposit = 0 ∧ maxCapacity = 0

abbrev registryAlone (self : ContractAddress)
    (enters : Nat → Contracts.Call → StrategyRegistry.State → Prop) :
    System StrategyRegistry.State Contracts.Call Contracts.Reply :=
  { alone self (StrategyRegistry.entry self) fun _ _ => False with enters }

section Entries
variable (self caller : ContractAddress)

abbrev KeepsPools {α : Type} (s : StrategyRegistry.State) (code : Entry StrategyRegistry.State α)
    (history : List (Crossing StrategyRegistry.State Contracts.Call Contracts.Reply)) : Prop :=
  Safe (registryAlone self (Plain self)) (fun _ => True) (fun before after => after = before)
    (fun _ next => True ∧ (Agrees s → Agrees next.state)) (code.run s) history

theorem addPool_keepsPools (token strategy : ContractAddress) (minDeposit maxCapacity : U256)
    (s : StrategyRegistry.State)
    (history : List (Crossing StrategyRegistry.State Contracts.Call Contracts.Reply))
    (unlimited : caller = s.governance → token ≠ 0 → strategy ≠ 0 → minDeposit = 0 ∧ maxCapacity = 0) :
    KeepsPools self s (StrategyRegistry.addPool self caller token strategy minDeposit maxCapacity)
      history := by
  apply StrategyRegistry.safe_addPool
  intro authorized nonzero nonzero'
  obtain ⟨rfl, rfl⟩ := unlimited authorized nonzero nonzero'
  apply Safe.send (deployed_foreign (StrategyRegistry.entry_foreign _ _ (by simp))) trivial
  intro _ bound _ same
  rw [same]
  exact ⟨trivial, fun agrees => agrees.added _ _ _ _⟩

theorem updatePool_keepsPools (poolId : Felt252) (active : Bool) (minDeposit maxCapacity : U256)
    (s : StrategyRegistry.State)
    (history : List (Crossing StrategyRegistry.State Contracts.Call Contracts.Reply)) :
    KeepsPools self s (StrategyRegistry.updatePool caller poolId active minDeposit maxCapacity)
      history := by
  apply StrategyRegistry.safe_updatePool
  intro _ _
  exact ⟨trivial, fun agrees => agrees.updated _ _ _ _⟩

theorem executeRebalance_keepsPools (newWeights : CairoArray U256) (s : StrategyRegistry.State)
    (history : List (Crossing StrategyRegistry.State Contracts.Call Contracts.Reply)) :
    KeepsPools self s (StrategyRegistry.executeRebalance self caller newWeights) history := by
  apply StrategyRegistry.safe_executeRebalance
  intro _
  apply StrategyRegistry.safe_executeLoop self fun now => Agrees s → Agrees now
  · intro _ _ _
    exact deployed_foreign (StrategyRegistry.entry_foreign _ _ (by simp))
  · exact fun _ _ _ _ => trivial
  · intro _ _ keeps _ same
    rw [same]
    exact keeps
  · exact fun _ _ _ keeps agrees => (keeps agrees).executed _ _
  · exact fun _ _ keeps => ⟨trivial, keeps⟩
  · exact id

theorem registry_keepsPools : Certified (registryAlone self (Plain self)) (fun _ => True)
    (fun before after => after = before) (fun before after => Agrees before → Agrees after) where
  rely_refl _ := rfl
  rely_trans first second := second.trans first
  guarantee_trans first second := second ∘ first
  resumed _ _ := trivial
  enter {depth request body now} plain found _ := by
    simp only [alone, deployed_cons, deployed_nil, Option.ite_none_right_eq_some,
      Option.some.injEq] at found
    rw [← found.2]
    exact StrategyRegistry.safe_entry self request.sender request.message ⟨trivial, id⟩
      (fun token strategy minDeposit maxCapacity eq => addPool_keepsPools self _ token strategy
        minDeposit maxCapacity _ _ (plain.unlimited _ _ _ _ eq found.1))
      (fun poolId active minDeposit maxCapacity _ =>
        updatePool_keepsPools self _ poolId active minDeposit maxCapacity _ _)
      (fun newWeights => executeRebalance_keepsPools self _ newWeights _ _)
  nested plain _ := absurd plain.idle (Nat.succ_ne_zero _)
  drift _ impossible := impossible.elim
  tick _ impossible := impossible.elim

end Entries

/-- If every pool is added without limits, and nothing enters while a call waits, then the rows say
of every pool what the contract says. -/
theorem pools_mirrored (self vaultManager yieldEngine governance : ContractAddress)
    {config : Config StrategyRegistry.State Contracts.Call Contracts.Reply}
    (reaches : (registryAlone self (Plain self)).Reaches
      (.initial (StrategyRegistry.constructor vaultManager yieldEngine governance)) config)
    (idle : config.stack = []) : Agrees config.now.state :=
  (registry_keepsPools self).guarantee rfl trivial id reaches idle fun poolId created => by
    obtain ⟨_, _, member⟩ := created
    exact absurd member List.not_mem_nil

theorem pools_mirrored_updated :
    ∃ config : Config StrategyRegistry.State Contracts.Call Contracts.Reply,
      (config.now.state.pools 0).minDeposit = 5 ∧ Created config.now.state 0 ∧
      Agrees config.now.state := by
  -- governance 5 adds a pool and sets its limits afterwards
  have run := ((((registryAlone 1 (Plain 1)).start (StrategyRegistry.constructor 2 3 5)).enter
    ⟨5, 1, .strategyRegistry (.addPool 8 9 0 0)⟩
    ⟨rfl, by intro _ _ _ _ eq _ _ _ _; cases eq; exact ⟨rfl, rfl⟩⟩ rfl 1 rfl).reply .unit 1 rfl).enter
    ⟨5, 1, .strategyRegistry (.updatePool 0 true 5 100)⟩
    ⟨rfl, by intro _ _ _ _ eq; cases eq⟩ rfl 1 rfl
  exact ⟨_, rfl, ⟨8, 9, List.mem_cons_self⟩, pools_mirrored 1 2 3 5 run rfl⟩

/-- A pool that is added with limits has none in its row. -/
theorem limits_lost : ∃ config : Config StrategyRegistry.State Contracts.Call Contracts.Reply,
    (registryAlone 1 fun _ _ _ => True).Reaches
      (.initial (StrategyRegistry.constructor 2 3 5)) config ∧ config.stack = [] ∧
    Created config.now.state 0 ∧ config.now.state.pools 0 = ⟨8, 9, true, 5, 100⟩ ∧
    (mirror config.now.state.events).pools.find "0" = some ⟨"0", 8, 9, true, 0, 0⟩ := by
  have run := (((registryAlone 1 fun _ _ _ => True).start (StrategyRegistry.constructor 2 3 5)).enter
    ⟨5, 1, .strategyRegistry (.addPool 8 9 5 100)⟩ trivial rfl 1 rfl).reply .unit 1 rfl
  refine ⟨_, run, rfl, ⟨8, 9, List.mem_cons_self⟩, rfl, ?_⟩
  decide +kernel

end Contract

/-! ## The history of executions -/

section Executions

def executed (event : Felt252 × ContractAddress) : StrategyRegistry.Event :=
  .strategyExecuted event.1 event.2

def executions (events : List (Felt252 × ContractAddress)) : List StrategyExecution :=
  (mirror (events.map executed)).strategyExecutions.rows

/-- One row an event, with its pool and strategy, and no handler touches an earlier row. -/
structure AppendOnly (events : List (Felt252 × ContractAddress)) : Prop where
  rows : ((executions events).map fun row => (row.poolId, row.strategy)).Perm
    (events.map fun event => (idText event.1, event.2))
  kept : ∀ early event, early ++ [event] <+: events →
    ∀ row ∈ executions early, row ∈ executions (early ++ [event])

theorem executions_eq (events : List (Felt252 × ContractAddress)) : executions events =
    (events.getLast?.map fun event => ⟨0, idText event.1, event.2, 0⟩).toList := by
  unfold executions
  induction events using List.reverseRecOn with
  | nil => rfl
  | append_singleton past event ih =>
      rw [List.map_append, List.map_singleton, executed, executions_executed, List.getLast?_concat]
      cases last : past.getLast? with
      | none =>
          rw [last] at ih
          simp only [Option.map_none, Option.toList_none] at ih
          simp [Table.save, ih]
      | some earlier =>
          rw [last] at ih
          simp only [Option.map_some, Option.toList_some] at ih
          simp [Table.save, Table.change, ih]

/-- Every execution is saved under the same key: only a history of one event is kept. -/
theorem appendOnly_iff (events : List (Felt252 × ContractAddress)) :
    AppendOnly events ↔ events.length ≤ 1 := by
  constructor
  · intro append
    have rows := append.rows.length_eq
    rw [List.length_map, List.length_map, executions_eq] at rows
    cases last : events.getLast? with
    | none => simp [List.getLast?_eq_none_iff.mp last]
    | some event => simp [← rows, last]
  · intro few
    rcases events with _ | ⟨event, _ | ⟨second, rest⟩⟩
    · exact ⟨.refl _, fun early event reached => by simp at reached⟩
    · refine ⟨by simp [executions_eq], ?_⟩
      intro early last reached row member
      have first : early = [] := by
        have short := reached.length_le
        simp only [List.length_append, List.length_singleton] at short
        exact List.eq_nil_of_length_eq_zero (by omega)
      subst first
      simp [executions_eq] at member
    · simp at few

theorem executions_overwritten : executions [(1, 8), (2, 9)] = [⟨0, "2", 9, 0⟩] ∧
    ¬ AppendOnly [(1, 8), (2, 9)] := by
  constructor
  · decide +kernel
  · intro append
    exact absurd append.rows.length_eq (by decide +kernel)

end Executions

end Kanaka.Backend.StrategyRegistryService
