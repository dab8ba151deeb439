import Kanaka.Async.Accounts
import Kanaka.Proof.Backend.Vault.Mirror

/-! # Vault handlers that overlap -/

namespace Kanaka.Backend.VaultManagerService
open Async Contracts

/-! ## What an event changes -/

def Event.pool : Event → Felt252
  | .deposit _ poolId _ | .withdrawal _ poolId _ | .poolAdded poolId _ => poolId

def Event.user : Event → ContractAddress
  | .deposit user _ _ | .withdrawal user _ _ => user
  | .poolAdded _ _ => 0

def Event.change : Event → Int
  | .deposit _ _ amount => amount.toNat
  | .withdrawal _ _ amount => -amount.toNat
  | .poolAdded _ _ => 0

def Event.Moves : Event → Prop
  | .deposit _ _ _ | .withdrawal _ _ _ => True
  | .poolAdded _ _ => False

def Event.balanceChange (poolId : String) (user : ContractAddress) (event : Event) : Int :=
  if idText event.pool = poolId ∧ event.user = user then event.change else 0

def Event.supplyChange (poolId : String) (event : Event) : Int :=
  if idText event.pool = poolId then event.change else 0

/-! ## Where a handler stands -/

inductive Phase where
  | begun
  | read (found : Option PoolBalance)
  | credited
  | looked (found : Option Pool)
  | supplied
  | failed
deriving DecidableEq

def Phase.note : Phase → Async.Event Op Reply JsError → Phase
  | _, ⟨.findBalance _ _, .ok found⟩ => .read found
  | _, ⟨.saveBalance _, .ok _⟩ => .credited
  | _, ⟨.findPool _, .ok found⟩ => .looked found
  | _, ⟨.savePool _, .ok _⟩ => .supplied
  | _, ⟨_, .error _⟩ => .failed

def Event.Asks (event : Event) : Phase → Op → Prop
  | .begun, op => op = .findBalance (idText event.pool) event.user
  | .read (some row), op => op = .saveBalance { row with balance := row.balance + event.change }
  | .read none, op =>
      match event with
      | .deposit user poolId amount => op = .saveBalance ⟨idText poolId, user, amount.toNat⟩
      | _ => op = .findPool (idText event.pool)
  | .credited, op => op = .findPool (idText event.pool)
  | .looked (some row), op => op = .savePool { row with totalSupply := row.totalSupply + event.change }
  | _, _ => False

def Phase.Ended (phase : Phase) : Prop := phase = .supplied ∨ phase = .looked none ∨ phase = .failed

section Follows
variable {event : Event} {phase : Phase}

abbrev Keeps {α : Type} (event : Event) (R : Phase → α → Prop) (E : Phase → JsError → Prop)
    (phase : Phase) (task : Async α) : Prop :=
  Task.Follows Phase.note (fun phase op => event.Moves → event.Asks phase op) R E phase task

theorem keeps_perform (op : Op) {R : Phase → Reply op → Prop} {E : Phase → JsError → Prop}
    (asks : event.Moves → event.Asks phase op)
    (replied : ∀ reply, R (phase.note ⟨op, .ok reply⟩) reply) (failed : ∀ error, E .failed error) :
    Keeps event R E phase (perform op) := by
  apply Task.Follows.perform asks replied
  intro error
  cases op <;> exact failed error

theorem keeps_updateTotalSupply {E : Phase → JsError → Prop}
    (ready : event.Asks phase (.findPool (idText event.pool))) (failed : ∀ error, E .failed error) :
    Keeps event (fun phase _ => phase.Ended) E phase (updateTotalSupply event.pool event.change) := by
  apply Task.Follows.bind
  apply keeps_perform (.findPool _)
  · exact fun _ => ready
  · intro found
    cases found with
    | none => exact .done (.inr (.inl rfl))
    | some row =>
        apply keeps_perform (.savePool _)
        · exact fun _ => rfl
        · exact fun _ => .inl rfl
        · exact failed
  · exact failed

theorem keeps_saveBalance {E : Phase → JsError → Prop} (row : PoolBalance)
    (asks : event.Moves → event.Asks phase (.saveBalance row)) (failed : ∀ error, E .failed error) :
    Keeps event (fun phase _ => event.Asks phase (.findPool (idText event.pool))) E phase
      (perform (.saveBalance row)) := by
  apply keeps_perform (.saveBalance row)
  · exact asks
  · exact fun _ => rfl
  · exact failed

theorem keeps_handler (event : Event) {first : Async Unit}
    (follows : ∀ E : Phase → JsError → Prop, (∀ error, E .failed error) →
      Keeps event (fun phase _ => event.Asks phase (.findPool (idText event.pool))) E .begun first) :
    Keeps event (fun phase _ => event.Moves → phase.Ended) (fun _ _ => False) .begun
      ((first >>= fun _ => updateTotalSupply event.pool event.change).tryCatch fun _ => pure ()) := by
  apply Task.Follows.tryCatch
  apply Task.Follows.bind
  apply (follows (fun phase _ => phase = .failed) fun _ => rfl).weaken
  · intro phase _ ready
    apply (keeps_updateTotalSupply (E := fun phase _ => phase = .failed) ready fun _ => rfl).weaken
    · exact fun _ _ ended _ => ended
    · exact fun _ _ failed => .done fun _ => .inr (.inr failed)
  · exact fun _ _ failed => .done fun _ => .inr (.inr failed)

theorem keeps_body (event : Event) :
    Keeps event (fun phase _ => event.Moves → phase.Ended) (fun _ _ => False) .begun (body event) := by
  cases event with
  | deposit user poolId amount =>
      apply keeps_handler (.deposit user poolId amount)
      intro E failed
      apply Task.Follows.bind
      apply keeps_perform (.findBalance _ _)
      · exact fun _ => rfl
      · intro found
        cases found with
        | some row => exact keeps_saveBalance _ (fun _ => rfl) failed
        | none => exact keeps_saveBalance _ (fun _ => rfl) failed
      · exact failed
  | withdrawal user poolId amount =>
      apply keeps_handler (.withdrawal user poolId amount)
      intro E failed
      apply Task.Follows.bind
      apply keeps_perform (.findBalance _ _)
      · exact fun _ => rfl
      · intro found
        cases found with
        | some row => exact keeps_saveBalance _ (fun _ => rfl) failed
        | none => exact .done rfl
      · exact failed
  | poolAdded poolId token =>
      apply Task.Follows.tryCatch
      apply Task.Follows.bind
      apply keeps_perform (.findPool _)
      · exact False.elim
      · intro found
        cases found with
        | some row => exact .done False.elim
        | none =>
            apply keeps_perform (.savePool _)
            · exact False.elim
            · exact fun _ => False.elim
            · exact fun _ => .done False.elim
      · exact fun _ => .done False.elim

end Follows

abbrev Calls := Async.Pool Event Op Reply JsError Unit Store

def discipline : service.Discipline Phase where
  note := Phase.note
  begun := .begun
  asks event phase op := event.Moves → event.Asks phase op
  returns event phase _ := event.Moves → phase.Ended
  throws _ _ _ := False
  follows := keeps_body

/-! ## Runs in which nothing is read too early -/

def Delivers (pool : Calls) : Action Event Op Reply JsError Store → Prop
  | .start event => event.Moves ∧ (pool.state.pools.find (idText event.pool)).isSome
  | .serve _ ⟨_, answer⟩ => answer.isOk
  | .drift _ => True

/-- What was read is still there when it is saved, and no balance row is missing where one is
needed. -/
def Event.Fresh (event : Event) (store : Store) : Phase → Op → Prop
  | .read found, .saveBalance _ => store.poolBalances.find (idText event.pool, event.user) = found
  | .read none, .findPool _ => event.change = 0
  | .looked found, .savePool _ => store.pools.find (idText event.pool) = found
  | _, _ => True

def UpToDate (pool : Calls) : Action Event Op Reply JsError Store → Prop
  | .serve task ⟨op, _⟩ =>
      ∀ running ∈ pool.tasks[task]?, running.call.Fresh pool.state (discipline.notes running) op
  | _ => True

def Careful (pool : Calls) (action : Action Event Op Reply JsError Store) : Prop :=
  Delivers pool action ∧ UpToDate pool action

instance (event : Event) : Decidable event.Moves := by
  cases event <;> unfold Event.Moves <;> infer_instance

instance (event : Event) (store : Store) (phase : Phase) (op : Op) :
    Decidable (event.Fresh store phase op) := by
  unfold Event.Fresh
  split <;> infer_instance

instance (pool : Calls) (action : Action Event Op Reply JsError Store) :
    Decidable (Delivers pool action) := by
  cases action <;> unfold Delivers <;> infer_instance

instance (pool : Calls) (action : Action Event Op Reply JsError Store) :
    Decidable (UpToDate pool action) := by
  cases action <;> unfold UpToDate <;> infer_instance

instance (pool : Calls) (action : Action Event Op Reply JsError Store) :
    Decidable (Careful pool action) := by
  unfold Careful
  infer_instance

/-- The handler moves the balances of a pool that has its row, and nothing has failed it. -/
structure Event.Sound (event : Event) (store : Store) (phase : Phase) : Prop where
  moves : event.Moves
  listed : (store.pools.find (idText event.pool)).isSome
  unfailed : phase ≠ .failed
  found : phase ≠ .looked none

section Runs
variable {event : Event} {store after : Store} {phase : Phase} {op : Op}
  {answer : Except JsError (Reply op)} {initial : Store} {pool : Calls}

theorem serves_ok (serves : service.Serves op store answer after) (fine : answer.isOk) :
    answer = .ok (Service.perform op store).1 ∧ after = (Service.perform op store).2 := by
  cases serves with
  | ok => exact ⟨rfl, rfl⟩
  | error => contradiction

theorem listed_perform {poolId : String} (listed : (store.pools.find poolId).isSome) :
    ((Service.perform op store).2.pools.find poolId).isSome := by
  cases op with
  | savePool row =>
      simp only [Service.perform, Table.find_save]
      split
      · rfl
      · exact listed
  | _ => exact listed

theorem Event.Sound.perform (sound : event.Sound store phase) (asks : event.Asks phase op) :
    event.Sound (Service.perform op store).2
      (phase.note ⟨op, .ok (Service.perform op store).1⟩) := by
  apply Event.Sound.mk sound.moves (listed_perform sound.listed)
  · cases op <;> simp [Phase.note]
  · cases op with
    | findPool poolId =>
        have named : poolId = idText event.pool := by
          unfold Event.Asks at asks
          split at asks <;> cases event <;> simp_all
        have listed := sound.listed
        rw [← named] at listed
        intro lost
        simp only [Phase.note, Service.perform, Phase.looked.injEq] at lost
        rw [lost] at listed
        contradiction
    | _ => simp [Phase.note]

theorem sound_of_reaches (reaches : service.Reaches Careful ⟨initial, []⟩ pool) :
    ∀ running ∈ pool.tasks, running.call.Sound pool.state (discipline.notes running) := by
  apply (Service.Reaches.invariant discipline (I := fun pool => ∀ running ∈ pool.tasks,
    running.call.Sound pool.state (discipline.notes running)) reaches (by simp) _ _ _ _).1
  · simp
  · intro pool event sound permitted
    apply forall_start sound
    exact ⟨permitted.1.1, permitted.1.2, nofun, nofun⟩
  · intro pool task event history op resume answer after sound found keeps permitted serves
    obtain ⟨rfl, rfl⟩ := serves_ok serves permitted.1
    have own := sound _ (List.mem_of_getElem? found)
    apply forall_serve
    · intro running member
      have other := sound running member
      exact ⟨other.moves, listed_perform other.listed, other.unfailed, other.found⟩
    · rw [discipline.notes_serve]
      exact own.perform (keeps.asks own.moves)
  · exact fun _ _ _ _ drifts => drifts.elim

/-! ### What the handlers have added so far -/

def Phase.credits : Phase → Bool
  | .credited | .looked _ | .supplied => true
  | _ => false

def Phase.supplies : Phase → Bool
  | .supplied => true
  | _ => false

def Event.credit (poolId : String) (user : ContractAddress) (event : Event) (phase : Phase) : Int :=
  if phase.credits then event.balanceChange poolId user else 0

def Event.supply (poolId : String) (event : Event) (phase : Phase) : Int :=
  if phase.supplies then event.supplyChange poolId else 0

def Store.supplyOf (store : Store) (poolId : String) : Int :=
  (store.pools.find poolId).elim 0 (·.totalSupply)

theorem balanceOf_saveBalance {row : PoolBalance} {poolId : String} {user : ContractAddress} :
    (Service.perform (.saveBalance row) store).2.balanceOf poolId user =
      if row.poolId = poolId ∧ row.user = user then row.balance else store.balanceOf poolId user := by
  simp only [Service.perform, Store.balanceOf, Table.find_save, PoolBalance.key, Prod.mk.injEq]
  split <;> rfl

theorem supplyOf_savePool {row : Pool} {poolId : String} :
    (Service.perform (.savePool row) store).2.supplyOf poolId =
      if row.poolId = poolId then row.totalSupply else store.supplyOf poolId := by
  simp only [Service.perform, Store.supplyOf, Table.find_save]
  split <;> rfl

theorem credit_saveBalance {row : PoolBalance} {found : Option PoolBalance} {poolId : String}
    {user : ContractAddress}
    (fresh : store.poolBalances.find (idText event.pool, event.user) = found)
    (named : row.key = (idText event.pool, event.user))
    (moved : row.balance = found.elim 0 (·.balance) + event.change) :
    (Service.perform (.saveBalance row) store).2.balanceOf poolId user =
      store.balanceOf poolId user + event.balanceChange poolId user := by
  simp only [PoolBalance.key, Prod.mk.injEq] at named
  rw [balanceOf_saveBalance, named.1, named.2]
  unfold Event.balanceChange
  split
  · rename_i same
    obtain ⟨rfl, rfl⟩ := same
    rw [moved, ← fresh]
    rfl
  · exact (Int.add_zero _).symm

theorem credit_perform (asks : event.Asks phase op) (fresh : event.Fresh store phase op)
    (poolId : String) (user : ContractAddress) :
    (Service.perform op store).2.balanceOf poolId user + event.credit poolId user phase =
      store.balanceOf poolId user +
        event.credit poolId user (phase.note ⟨op, .ok (Service.perform op store).1⟩) := by
  cases phase with
  | begun =>
      cases asks
      rfl
  | read found =>
      have none : event.credit poolId user (.read found) = 0 := rfl
      rw [none, Int.add_zero]
      cases found with
      | some row =>
          cases asks
          apply credit_saveBalance fresh
          · exact (Table.find_eq_some_iff.mp fresh).2
          · rfl
      | none =>
          cases event with
          | deposit someone id amount =>
              cases asks
              apply credit_saveBalance fresh
              · rfl
              · exact (Int.zero_add _).symm
          | withdrawal someone id amount =>
              cases asks
              have nothing : (Event.withdrawal someone id amount).change = 0 := fresh
              simp [Event.credit, Event.balanceChange, Phase.credits, Phase.note, nothing,
                Service.perform]
          | poolAdded id token =>
              cases asks
              simp [Event.credit, Event.balanceChange, Phase.credits, Phase.note, Event.change,
                Service.perform]
  | credited =>
      cases asks
      rfl
  | looked found =>
      cases found with
      | some row =>
          cases asks
          rfl
      | none => exact False.elim asks
  | supplied => exact False.elim asks
  | failed => exact False.elim asks

theorem supply_perform (asks : event.Asks phase op) (fresh : event.Fresh store phase op)
    (poolId : String) :
    (Service.perform op store).2.supplyOf poolId + event.supply poolId phase =
      store.supplyOf poolId +
        event.supply poolId (phase.note ⟨op, .ok (Service.perform op store).1⟩) := by
  cases phase with
  | begun =>
      cases asks
      rfl
  | read found =>
      cases found with
      | some row =>
          cases asks
          rfl
      | none => cases event <;> cases asks <;> rfl
  | credited =>
      cases asks
      rfl
  | looked found =>
      cases found with
      | some row =>
          cases asks
          have stands : store.pools.find (idText event.pool) = some row := fresh
          have named : row.poolId = idText event.pool := (Table.find_eq_some_iff.mp stands).2
          have none : event.supply poolId (.looked (some row)) = 0 := rfl
          have added : event.supply poolId .supplied = event.supplyChange poolId := rfl
          rw [none, Int.add_zero, supplyOf_savePool, named]
          show _ = _ + event.supply poolId .supplied
          rw [added]
          unfold Event.supplyChange
          split
          · rename_i same
            rw [Store.supplyOf, ← same, stands, Option.elim_some]
          · exact (Int.add_zero _).symm
      | none => exact False.elim asks
  | supplied => exact False.elim asks
  | failed => exact False.elim asks

theorem Event.Sound.supplied {running : Running Event Op Reply JsError Unit}
    (sound : running.call.Sound store (discipline.notes running)) (keeps : discipline.Keeps running)
    (finished : running.rest.Finished) : discipline.notes running = .supplied := by
  obtain ⟨event, history, rest⟩ := running
  cases keeps with
  | done ended =>
      rcases ended sound.moves with supplied | lost | failed
      · exact supplied
      · exact absurd lost sound.found
      · exact absurd failed sound.unfailed
  | fail error => exact error.elim
  | await _ _ => exact finished.elim

theorem sum_of_finished (reaches : service.Reaches Careful ⟨initial, []⟩ pool)
    (keeps : ∀ running ∈ pool.tasks, discipline.Keeps running)
    (finished : ∀ running ∈ pool.tasks, running.rest.Finished) (share : Event → Phase → Int) :
    pool.tasks.map (discipline.contribution share) =
      pool.tasks.map fun running => share running.call .supplied := by
  apply List.map_congr_left
  intro running member
  rw [Service.Discipline.contribution]
  rw [(sound_of_reaches reaches running member).supplied (keeps running member)
    (finished running member)]

/-- What each operation adds to a quantity is added by the time that the handlers have finished. -/
theorem quantity_kept (reaches : service.Reaches Careful ⟨initial, []⟩ pool)
    (finished : ∀ running ∈ pool.tasks, running.rest.Finished) (quantity : Store → Int)
    (share : Event → Phase → Int) (starts : ∀ event, share event .begun = 0)
    (performs : ∀ {event : Event} {phase op store}, event.Asks phase op → event.Fresh store phase op →
      quantity (Service.perform op store).2 + share event phase =
        quantity store + share event (phase.note ⟨op, .ok (Service.perform op store).1⟩)) :
    quantity pool.state = quantity initial +
      (pool.tasks.map fun running => share running.call .supplied).sum := by
  obtain ⟨balanced, keeps⟩ := reaches.accounts discipline quantity share
    (fun _ => sound_of_reaches) starts (by
      intro pool task event history op resume answer after sound found keeps permitted serves
      obtain ⟨rfl, rfl⟩ := serves_ok serves permitted.1
      have own := sound _ (List.mem_of_getElem? found)
      exact performs (keeps.asks own.moves) (permitted.2 _ found))
    fun _ _ _ _ drifts => drifts.elim
  rw [sum_of_finished reaches keeps finished] at balanced
  exact balanced

theorem balances_kept (reaches : service.Reaches Careful ⟨initial, []⟩ pool)
    (finished : ∀ running ∈ pool.tasks, running.rest.Finished) (poolId : String)
    (user : ContractAddress) : pool.state.balanceOf poolId user = initial.balanceOf poolId user +
      (pool.tasks.map fun running => running.call.balanceChange poolId user).sum :=
  quantity_kept reaches finished (·.balanceOf poolId user) (Event.credit poolId user)
    (fun _ => rfl) fun asks fresh => credit_perform asks fresh poolId user

theorem supplies_kept (reaches : service.Reaches Careful ⟨initial, []⟩ pool)
    (finished : ∀ running ∈ pool.tasks, running.rest.Finished) (poolId : String) :
    pool.state.supplyOf poolId = initial.supplyOf poolId +
      (pool.tasks.map fun running => running.call.supplyChange poolId).sum :=
  quantity_kept reaches finished (·.supplyOf poolId) (Event.supply poolId)
    (fun _ => rfl) fun asks fresh => supply_perform asks fresh poolId

/-! ## The events of the contract -/

theorem balanceChange_delivered (poolId : String) (user : ContractAddress)
    (event : VaultManager.Event) :
    (delivered event).balanceChange poolId user = movement poolId user event := by
  cases event <;> rfl

theorem supplyChange_delivered (poolId : String) (event : VaultManager.Event) :
    (delivered event).supplyChange poolId = poolMovement poolId event := by
  cases event <;> rfl

/-- The tables hold what they held before the events, and what the events have moved. -/
structure Mirrors (initial : Store) (events : List VaultManager.Event) (store : Store) : Prop where
  balances : ∀ poolId user, store.balanceOf poolId user =
    initial.balanceOf poolId user + (events.map (movement poolId user)).sum
  supplies : ∀ poolId, store.supplyOf poolId =
    initial.supplyOf poolId + (events.map (poolMovement poolId)).sum

/-- No update is lost in a run in which every row is saved as it was read. -/
theorem updates_kept {events : List VaultManager.Event}
    (reaches : service.Reaches Careful ⟨initial, []⟩ pool)
    (calls : pool.tasks.map (·.call) = events.map delivered)
    (finished : ∀ running ∈ pool.tasks, running.rest.Finished) :
    Mirrors initial events pool.state := by
  have moved : ∀ (change : Event → Int) (move : VaultManager.Event → Int),
      (∀ event, change (delivered event) = move event) →
      (pool.tasks.map fun running => change running.call) = events.map move := by
    intro change move same
    have mapped := congrArg (List.map change) calls
    simp only [List.map_map, Function.comp_def, same] at mapped
    exact mapped
  constructor
  · intro poolId user
    rw [balances_kept reaches finished, moved _ _ (balanceChange_delivered poolId user)]
  · intro poolId
    rw [supplies_kept reaches finished, moved _ _ (supplyChange_delivered poolId)]

end Runs

def firstPool : Store := ⟨.empty, Table.empty.save ⟨"0", 9, 0⟩⟩

def serves (task count : Nat) : List (Move Event JsError) := List.replicate count (.serve task none)

theorem updates_kept_overlapping : ∃ pool : Calls,
    service.Reaches Careful ⟨firstPool, []⟩ pool ∧ pool.state.supplyOf "0" = 6 ∧
      Mirrors firstPool [.deposit 7 0 5, .deposit 8 0 3, .withdrawal 7 0 2] pool.state := by
  have run : ∃ pool, service.Reaches Careful ⟨firstPool, []⟩ pool ∧
      pool.tasks.map (·.call) = [.deposit 7 0 5, .deposit 8 0 3, .withdrawal 7 0 2] ∧
      (∀ running ∈ pool.tasks, running.rest.Finished) ∧ pool.state.supplyOf "0" = 6 := by
    -- the balances are read and saved in turn, then the total supplies are
    apply service.exists_of_play (fun pool action => decide (Careful pool action))
      (fun _ _ => of_decide_eq_true)
      (.start (.deposit 7 0 5) :: .start (.deposit 8 0 3) :: serves 0 2 ++ serves 1 2 ++
        .start (.withdrawal 7 0 2) :: serves 2 2 ++ serves 1 2 ++ serves 0 2 ++ serves 2 2)
    decide +kernel
  obtain ⟨pool, reaches, calls, finished, supply⟩ := run
  exact ⟨pool, reaches, supply, updates_kept reaches calls finished⟩

section Contract
open Machine Proof.VaultManager

theorem deposits_emitted : ∃ config : Config VaultManager.State Contracts.Call Contracts.Reply,
    (vaultManagerAlone 1).Reaches (.initial (VaultManager.constructor 2 3)) config ∧
      config.now.state.events = [.deposit 7 0 5, .deposit 7 0 3] := by
  have first := (((((vaultManagerAlone 1).start (VaultManager.constructor 2 3)).enter
    ⟨2, 1, .vaultManager (.addPool 0 9)⟩ trivial rfl 1 rfl).enter
    ⟨7, 1, .vaultManager (.deposit 0 5)⟩ trivial rfl 1 rfl).reply .unit 1 rfl).reply .unit 1 rfl
  have second := ((first.enter
    ⟨7, 1, .vaultManager (.deposit 0 3)⟩ trivial rfl 1 rfl).reply .unit 1 rfl).reply .unit 1 rfl
  exact ⟨_, second, rfl⟩

/-- Both handlers of the first deposits find no balance row, and the second saves over the first. -/
theorem update_lost : ∃ config : Config VaultManager.State Contracts.Call Contracts.Reply,
    (vaultManagerAlone 1).Reaches (.initial (VaultManager.constructor 2 3)) config ∧
    NeverOverdrawn config.now.state.events ∧ ∃ pool : Calls,
      service.Reaches Delivers ⟨firstPool, []⟩ pool ∧
      pool.tasks.map (·.call) = config.now.state.events.map delivered ∧
      (∀ running ∈ pool.tasks, running.rest.Finished) ∧
      pool.state.balanceOf "0" 7 = 3 ∧ ¬ Mirrors firstPool config.now.state.events pool.state := by
  obtain ⟨config, run, events⟩ := deposits_emitted
  have lost : ∃ pool, service.Reaches Delivers ⟨firstPool, []⟩ pool ∧
      pool.tasks.map (·.call) = [.deposit 7 0 5, .deposit 7 0 3] ∧
      (∀ running ∈ pool.tasks, running.rest.Finished) ∧ pool.state.balanceOf "0" 7 = 3 := by
    apply service.exists_of_play (fun pool action => decide (Delivers pool action))
      (fun _ _ => of_decide_eq_true)
      (.start (.deposit 7 0 5) :: .start (.deposit 7 0 3) :: serves 0 1 ++ serves 1 1 ++
        serves 0 3 ++ serves 1 3)
    decide +kernel
  obtain ⟨pool, reaches, calls, finished, balance⟩ := lost
  refine ⟨config, run, ?_, pool, reaches, ?_, finished, balance, ?_⟩
  · rw [events]
    exact (NeverOverdrawn.nil.deposit 7 0 5).deposit 7 0 3
  · rw [events]
    exact calls
  · rw [events]
    intro mirrors
    have both := mirrors.balances "0" 7
    rw [balance] at both
    revert both
    decide +kernel

end Contract

end Kanaka.Backend.VaultManagerService
