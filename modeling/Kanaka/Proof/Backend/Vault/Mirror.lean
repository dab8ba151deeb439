import Kanaka.Async.Sequence
import Kanaka.Backend.VaultManagerService
import Kanaka.Proof.VaultManager.Accounting
import Mathlib.Algebra.BigOperators.Group.Finset.Basic

/-! # The vault tables after a list of events -/

namespace Kanaka.Backend.VaultManagerService
open Finset Async Contracts

/-! ## What a handler does to the tables -/

def Store.balanceOf (store : Store) (poolId : String) (user : ContractAddress) : Int :=
  (store.poolBalances.find (poolId, user)).elim 0 (·.balance)

def PoolBalance.within (poolId : String) (row : PoolBalance) : Int :=
  if row.poolId = poolId then row.balance else 0

def Store.rowTotal (store : Store) (poolId : String) : Int :=
  store.poolBalances.sum (PoolBalance.within poolId)

def Store.supply (store : Store) (poolId : String) (change : Int) : Store :=
  match store.pools.find poolId with
  | some pool =>
      { store with pools := store.pools.save { pool with totalSupply := pool.totalSupply + change } }
  | none => store

def Store.credit (store : Store) (poolId : String) (user : ContractAddress) (change : Int) : Store :=
  { store with
    poolBalances := store.poolBalances.save ⟨poolId, user, store.balanceOf poolId user + change⟩ }

/-- A withdrawal that finds no row changes no balance. -/
def Store.debit (store : Store) (poolId : String) (user : ContractAddress) (amount : Nat) : Store :=
  if (store.poolBalances.find (poolId, user)).isSome then store.credit poolId user (-amount) else store

section Tables
variable {store : Store} {poolId other : String} {user someone : ContractAddress} {change : Int}

@[simp] theorem Store.supply_poolBalances :
    (store.supply poolId change).poolBalances = store.poolBalances := by
  unfold Store.supply
  split <;> rfl

@[simp] theorem Store.debit_pools {amount : Nat} :
    (store.debit poolId user amount).pools = store.pools := by
  unfold Store.debit
  split <;> rfl

@[simp] theorem Store.supply_rowTotal :
    (store.supply poolId change).rowTotal other = store.rowTotal other := by
  simp [Store.rowTotal]

theorem Store.find_supply : (store.supply poolId change).pools.find other =
    (store.pools.find other).map fun pool =>
      { pool with totalSupply := pool.totalSupply + if poolId = other then change else 0 } := by
  unfold Store.supply
  cases found : store.pools.find poolId with
  | none =>
      by_cases same : poolId = other
      · subst same
        simp [found]
      · simp [same]
  | some pool =>
      have named : pool.poolId = poolId := (Table.find_eq_some_iff.mp found).2
      simp only [Table.find_save, named]
      by_cases same : poolId = other
      · subst same
        simp [found, named]
      · simp [same]

theorem Store.credit_found {row : PoolBalance} (found : store.poolBalances.find (poolId, user) = some row) :
    store.credit poolId user change = { store with
      poolBalances := store.poolBalances.save { row with balance := row.balance + change } } := by
  have named := (Table.find_eq_some_iff.mp found).2
  simp only [PoolBalance.key, Prod.mk.injEq] at named
  simp [Store.credit, Store.balanceOf, found, named]

theorem Store.rowTotal_credit : (store.credit poolId user change).rowTotal other =
    store.rowTotal other + if poolId = other then change else 0 := by
  have sum := store.poolBalances.sum_save (PoolBalance.within other)
    ⟨poolId, user, store.balanceOf poolId user + change⟩
  have replaced : (store.poolBalances.find (poolId, user)).elim 0 (PoolBalance.within other) =
      if poolId = other then store.balanceOf poolId user else 0 := by
    unfold Store.balanceOf
    cases found : store.poolBalances.find (poolId, user) with
    | none => simp
    | some row =>
        have named : row.poolId = poolId := congrArg Prod.fst (Table.find_eq_some_iff.mp found).2
        simp [PoolBalance.within, named]
  rw [PoolBalance.key, replaced] at sum
  simp only [Store.rowTotal, Store.credit, PoolBalance.within] at sum ⊢
  split at sum
  · simp_all
    omega
  · simp_all

end Tables

theorem run_updateTotalSupply (poolId : Felt252) (change : Int) (store : Store) :
    (updateTotalSupply poolId change).run service.answer store =
      (.ok (), store.supply (idText poolId) change) := by
  unfold updateTotalSupply Store.supply perform
  rw [Service.run_answer_perform]
  cases found : store.pools.find (idText poolId) with
  | none => simp [service, Service.perform, found]
  | some pool => simp [service, Service.perform, Service.answer, found]

theorem run_addBalance (user : ContractAddress) (poolId : Felt252) (amount : U256) (store : Store) :
    (addBalance user poolId amount).run service.answer store =
      (.ok (), store.credit (idText poolId) user amount.toNat) := by
  unfold addBalance perform
  rw [Service.run_answer_perform]
  cases found : store.poolBalances.find (idText poolId, user) with
  | none => simp [Store.credit, Store.balanceOf, service, Service.perform, Service.answer, found]
  | some row =>
      rw [Store.credit_found found]
      simp [service, Service.perform, Service.answer, found]

theorem run_subtractBalance (user : ContractAddress) (poolId : Felt252) (amount : U256)
    (store : Store) : (subtractBalance user poolId amount).run service.answer store =
      (.ok (), store.debit (idText poolId) user amount.toNat) := by
  unfold subtractBalance Store.debit perform
  rw [Service.run_answer_perform]
  cases found : store.poolBalances.find (idText poolId, user) with
  | none => simp [service, Service.perform, found]
  | some row =>
      rw [Store.credit_found found]
      simp [service, Service.perform, Service.answer, found, Int.sub_eq_add_neg]

theorem complete_deposit (store : Store) (user : ContractAddress) (poolId : Felt252) (amount : U256) :
    service.complete store (.deposit user poolId amount) =
      (store.credit (idText poolId) user amount.toNat).supply (idText poolId) amount.toNat := by
  unfold Service.complete
  show ((onDeposit user poolId amount).run service.answer store).2 = _
  unfold onDeposit
  rw [Task.run_tryCatch, Task.run_bind_ok (run_addBalance ..), run_updateTotalSupply]

theorem complete_withdrawal (store : Store) (user : ContractAddress) (poolId : Felt252)
    (amount : U256) : service.complete store (.withdrawal user poolId amount) =
      (store.debit (idText poolId) user amount.toNat).supply (idText poolId) (-amount.toNat) := by
  unfold Service.complete
  show ((onWithdrawal user poolId amount).run service.answer store).2 = _
  unfold onWithdrawal
  rw [Task.run_tryCatch, Task.run_bind_ok (run_subtractBalance ..), run_updateTotalSupply]

/-! ## The events of the contract -/

def delivered : VaultManager.Event → Event
  | .deposit user poolId amount => .deposit user poolId amount
  | .withdrawal user poolId amount => .withdrawal user poolId amount

def signedAmount : VaultManager.Event → Int
  | .deposit _ _ amount => amount.toNat
  | .withdrawal _ _ amount => -amount.toNat

def eventPool : VaultManager.Event → Felt252
  | .deposit _ poolId _ | .withdrawal _ poolId _ => poolId

def eventUser : VaultManager.Event → ContractAddress
  | .deposit user _ _ | .withdrawal user _ _ => user

def poolMovement (poolId : String) (event : VaultManager.Event) : Int :=
  if idText (eventPool event) = poolId then signedAmount event else 0

def movement (poolId : String) (user : ContractAddress) (event : VaultManager.Event) : Int :=
  if idText (eventPool event) = poolId ∧ eventUser event = user then signedAmount event else 0

/-- No event takes more from a user than the events before it have brought. -/
def NeverOverdrawn (events : List VaultManager.Event) : Prop :=
  ∀ past, past <+: events → ∀ poolId user, 0 ≤ (past.map (movement poolId user)).sum

theorem find_complete (store : Store) (event : VaultManager.Event) (poolId : String) :
    (service.complete store (delivered event)).pools.find poolId =
      (store.pools.find poolId).map fun pool =>
        { pool with totalSupply := pool.totalSupply + poolMovement poolId event } := by
  cases event with
  | deposit user id amount =>
      rw [delivered, complete_deposit, Store.find_supply]
      rfl
  | withdrawal user id amount =>
      rw [delivered, complete_withdrawal, Store.find_supply, Store.debit_pools]
      rfl

theorem NeverOverdrawn.nil : NeverOverdrawn [] := by
  intro past early poolId user
  rw [List.prefix_nil.mp early]
  rfl

theorem NeverOverdrawn.deposit {past : List VaultManager.Event} (covered : NeverOverdrawn past)
    (user : ContractAddress) (poolId : Felt252) (amount : U256) :
    NeverOverdrawn (past ++ [.deposit user poolId amount]) := by
  intro before early id someone
  rcases List.prefix_concat_iff.mp early with rfl | early
  · have enough := covered past (List.prefix_refl past) id someone
    simp only [List.map_append, List.sum_append, List.map_singleton, List.sum_singleton, movement,
      signedAmount]
    split <;> omega
  · exact covered before early id someone

/-! ## Pools that are registered between the events -/

/-- What the service does: it handles an event of the contract, or registers a pool. -/
inductive Item where
  | handled (event : VaultManager.Event)
  | registered (poolId : String) (token : ContractAddress)

def Item.body : Item → Async Unit
  | .handled event => VaultManagerService.body (delivered event)
  | .registered poolId token => addPool poolId token

def Item.announced : Item → Option VaultManager.Event
  | .handled event => some event
  | .registered _ _ => none

def announcements (items : List Item) : List VaultManager.Event := items.filterMap Item.announced

def Store.after (store : Store) (item : Item) : Store := (item.body.run service.answer store).2

/-- The tables when each item has been served to completion, from an empty database. -/
def served (items : List Item) : Store := items.foldl Store.after .empty

/-- What the events before the registration of a pool add up to in it. -/
def movedBefore (poolId : String) : List Item → Int
  | [] => 0
  | .handled event :: rest => poolMovement poolId event + movedBefore poolId rest
  | .registered id _ :: rest => if id = poolId then 0 else movedBefore poolId rest

/-- A withdrawal that takes something comes after a deposit of its user in the pool. -/
def Preceded (poolId : String) (events : List VaultManager.Event) : Prop :=
  ∀ past user id amount, past ++ [.withdrawal user id amount] <+: events → idText id = poolId →
    amount = 0 ∨ ∃ paid, .deposit user id paid ∈ past

section Items
variable {store : Store} {poolId : String} {past : List VaultManager.Event} {items : List Item}

theorem Store.after_registered (id : String) (token : ContractAddress) :
    store.after (.registered id token) = match store.pools.find id with
      | some _ => store
      | none => { store with pools := store.pools.save ⟨id, token, 0⟩ } := by
  show ((createPool id token).run service.answer store).2 = _
  unfold createPool perform
  rw [Service.run_answer_perform]
  cases found : store.pools.find id with
  | none => simp [service, Service.perform, Service.answer, found]
  | some pool => simp [service, Service.perform, found]

/-! ### The rows of pools -/

theorem find_after_found {pool : Pool} (found : store.pools.find poolId = some pool)
    (items : List Item) : (items.foldl Store.after store).pools.find poolId = some { pool with
      totalSupply := pool.totalSupply + ((announcements items).map (poolMovement poolId)).sum } := by
  induction items generalizing store pool with
  | nil => simp [announcements, found]
  | cons item rest ih =>
      cases item with
      | handled event =>
          have next : (store.after (.handled event)).pools.find poolId =
              some { pool with totalSupply := pool.totalSupply + poolMovement poolId event } := by
            show (service.complete store (delivered event)).pools.find poolId = _
            rw [find_complete, found]
            rfl
          rw [List.foldl_cons, ih next]
          simp [announcements, Item.announced, Int.add_assoc]
      | registered id token =>
          have next : (store.after (.registered id token)).pools.find poolId = some pool := by
            rw [Store.after_registered]
            cases known : store.pools.find id with
            | some _ => exact found
            | none =>
                dsimp only
                rw [Table.find_save, if_neg, found]
                rintro rfl
                simp [found] at known
          rw [List.foldl_cons, ih next]
          rfl

/-- A row that is registered on the way has missed what came before it. -/
theorem total_of_missing (missing : store.pools.find poolId = none) {pool : Pool}
    (found : (items.foldl Store.after store).pools.find poolId = some pool) :
    pool.totalSupply + movedBefore poolId items =
      ((announcements items).map (poolMovement poolId)).sum := by
  induction items generalizing store with
  | nil =>
      rw [List.foldl_nil, missing] at found
      contradiction
  | cons item rest ih =>
      rw [List.foldl_cons] at found
      cases item with
      | handled event =>
          have next : (store.after (.handled event)).pools.find poolId = none := by
            show (service.complete store (delivered event)).pools.find poolId = _
            rw [find_complete, missing]
            rfl
          have total := ih next found
          simp only [movedBefore, announcements, Item.announced, List.filterMap_cons, List.map_cons,
            List.sum_cons] at total ⊢
          omega
      | registered id token =>
          by_cases here : id = poolId
          · subst here
            have next : (store.after (.registered id token)).pools.find id =
                some ⟨id, token, 0⟩ := by
              rw [Store.after_registered, missing]
              simp [Table.find_save]
            rw [find_after_found next, Option.some.injEq] at found
            rw [← found, movedBefore, if_pos rfl, Int.add_zero]
            exact Int.zero_add _
          · have next : (store.after (.registered id token)).pools.find poolId = none := by
              rw [Store.after_registered]
              cases known : store.pools.find id with
              | some _ => exact missing
              | none =>
                  dsimp only
                  rw [Table.find_save, if_neg here, missing]
            have total := ih next found
            rwa [movedBefore, if_neg here]

/-! ### The rows of balances -/

structure Counts (poolId : String) (events : List VaultManager.Event) (store : Store) : Prop where
  found : ∀ id user, idText id = poolId → ((store.poolBalances.find (poolId, user)).isSome ↔
    ∃ paid, .deposit user id paid ∈ events)
  least : (events.map (poolMovement poolId)).sum ≤ store.rowTotal poolId
  exact : store.rowTotal poolId = (events.map (poolMovement poolId)).sum ↔ Preceded poolId events

theorem Counts.nil : Counts poolId [] .empty := by
  constructor
  · intro id user named
    exact ⟨nofun, nofun⟩
  · exact Int.le_refl 0
  · refine ⟨fun _ past user id amount early => ?_, fun _ => rfl⟩
    have short := early.length_le
    simp at short

theorem preceded_deposit {user : ContractAddress} {id : Felt252} {amount : U256} :
    Preceded poolId (past ++ [.deposit user id amount]) ↔ Preceded poolId past := by
  constructor
  · intro preceded before someone other taken early
    exact preceded before someone other taken (early.trans (List.prefix_append ..))
  · intro preceded before someone other taken early
    rcases List.prefix_concat_iff.mp early with same | early
    · have last := (List.append_inj' same rfl).2
      simp at last
    · exact preceded before someone other taken early

theorem preceded_withdrawal {user : ContractAddress} {id : Felt252} {amount : U256} :
    Preceded poolId (past ++ [.withdrawal user id amount]) ↔ Preceded poolId past ∧
      (idText id = poolId → amount = 0 ∨ ∃ paid, .deposit user id paid ∈ past) := by
  constructor
  · intro preceded
    refine ⟨fun before someone other taken early => ?_, preceded past user id amount (List.prefix_refl _)⟩
    exact preceded before someone other taken (early.trans (List.prefix_append ..))
  · rintro ⟨preceded, last⟩ before someone other taken early
    rcases List.prefix_concat_iff.mp early with same | early
    · obtain ⟨rfl, tail⟩ := List.append_inj' same rfl
      simp only [List.cons.injEq, VaultManager.Event.withdrawal.injEq, and_true] at tail
      obtain ⟨rfl, rfl, rfl⟩ := tail
      exact last
    · exact preceded before someone other taken early

theorem Store.found_credit {user someone : ContractAddress} {id : String} {change : Int} :
    ((store.credit id user change).poolBalances.find (poolId, someone)).isSome ↔
      id = poolId ∧ user = someone ∨ (store.poolBalances.find (poolId, someone)).isSome := by
  simp only [Store.credit, Table.find_save, PoolBalance.key, Prod.mk.injEq]
  split
  · simp [*]
  · simp [*]

theorem sum_poolMovement_concat (event : VaultManager.Event) :
    ((past ++ [event]).map (poolMovement poolId)).sum =
      (past.map (poolMovement poolId)).sum + poolMovement poolId event := by
  simp

theorem Counts.deposit (counts : Counts poolId past store) (user : ContractAddress) (id : Felt252)
    (amount : U256) : Counts poolId (past ++ [VaultManager.Event.deposit user id amount])
      (service.complete store (.deposit user id amount)) := by
  have moved : ((past ++ [VaultManager.Event.deposit user id amount]).map (poolMovement poolId)).sum =
      (past.map (poolMovement poolId)).sum + if idText id = poolId then (amount.toNat : Int) else 0 :=
    sum_poolMovement_concat (.deposit user id amount)
  rw [complete_deposit]
  constructor
  · intro other someone named
    rw [Store.supply_poolBalances, Store.found_credit, counts.found other someone named, ← named,
      idText_inj]
    simp only [List.mem_append, List.mem_singleton, VaultManager.Event.deposit.injEq]
    constructor
    · rintro (⟨rfl, rfl⟩ | ⟨paid, before⟩)
      · exact ⟨amount, .inr ⟨rfl, rfl, rfl⟩⟩
      · exact ⟨paid, .inl before⟩
    · rintro ⟨paid, before | ⟨rfl, rfl, rfl⟩⟩
      · exact .inr ⟨paid, before⟩
      · exact .inl ⟨rfl, rfl⟩
  · rw [moved, Store.supply_rowTotal, Store.rowTotal_credit]
    exact Int.add_le_add_right counts.least _
  · rw [moved, Store.supply_rowTotal, Store.rowTotal_credit, preceded_deposit, ← counts.exact,
      add_left_inj]

theorem Counts.withdrawal (counts : Counts poolId past store) (user : ContractAddress)
    (id : Felt252) (amount : U256) : Counts poolId (past ++ [VaultManager.Event.withdrawal user id amount])
      (service.complete store (.withdrawal user id amount)) := by
  have moved : ((past ++ [VaultManager.Event.withdrawal user id amount]).map (poolMovement poolId)).sum =
      (past.map (poolMovement poolId)).sum + if idText id = poolId then -(amount.toNat : Int) else 0 :=
    sum_poolMovement_concat (.withdrawal user id amount)
  have paid (other someone) : (∃ paid, .deposit someone other paid ∈
      past ++ [VaultManager.Event.withdrawal user id amount]) ↔
        ∃ paid, .deposit someone other paid ∈ past := by simp
  rw [complete_withdrawal]
  by_cases known : (store.poolBalances.find (idText id, user)).isSome
  · have taken : store.debit (idText id) user amount.toNat =
        store.credit (idText id) user (-amount.toNat) := if_pos known
    rw [taken]
    constructor
    · intro other someone named
      rw [Store.supply_poolBalances, Store.found_credit, paid, ← counts.found other someone named]
      constructor
      · rintro (⟨rfl, rfl⟩ | before)
        · exact known
        · exact before
      · exact .inr
    · rw [moved, Store.supply_rowTotal, Store.rowTotal_credit]
      exact Int.add_le_add_right counts.least _
    · rw [moved, Store.supply_rowTotal, Store.rowTotal_credit, preceded_withdrawal, ← counts.exact,
        add_left_inj]
      refine ⟨fun same => ⟨same, fun named => .inr ?_⟩, And.left⟩
      exact (counts.found id user named).mp (named ▸ known)
  · have lost : store.debit (idText id) user amount.toNat = store := if_neg known
    have least := counts.least
    rw [lost]
    constructor
    · intro other someone named
      rw [Store.supply_poolBalances, paid, counts.found other someone named]
    · rw [moved, Store.supply_rowTotal]
      split <;> omega
    · rw [moved, Store.supply_rowTotal, preceded_withdrawal, ← counts.exact]
      by_cases named : idText id = poolId
      · have unpaid : ¬ ∃ paid, .deposit user id paid ∈ past := by
          rwa [← counts.found id user named, ← named]
        rw [if_pos named]
        constructor
        · intro same
          have nothing : amount.toNat = 0 := by omega
          exact ⟨by omega, fun _ => .inl (BitVec.eq_of_toNat_eq nothing)⟩
        · rintro ⟨same, rest⟩
          rcases rest named with rfl | paid
          · simpa using same
          · exact absurd paid unpaid
      · rw [if_neg named, Int.add_zero]
        exact ⟨fun same => ⟨same, fun here => absurd here named⟩, And.left⟩

theorem counts_served (poolId : String) (items : List Item) :
    Counts poolId (announcements items) (served items) := by
  induction items using List.reverseRecOn with
  | nil => exact .nil
  | append_singleton items item ih =>
      rw [served, List.foldl_concat, ← served]
      cases item with
      | handled event =>
          have told : announcements (items ++ [.handled event]) = announcements items ++ [event] := by
            simp [announcements, Item.announced]
          rw [told]
          cases event with
          | deposit user id amount => exact ih.deposit user id amount
          | withdrawal user id amount => exact ih.withdrawal user id amount
      | registered id token =>
          have told : announcements (items ++ [.registered id token]) = announcements items := by
            simp [announcements, Item.announced]
          rw [told, Store.after_registered]
          split
          · exact ih
          · exact ⟨ih.found, ih.least, ih.exact⟩

end Items

/-! ## Events that meet the database of the migrations -/

def deliverAll (registered : Table Pool.poolId) (events : List VaultManager.Event) : Store :=
  events.foldl (fun store event => deliver store (delivered event)) ⟨.empty, registered⟩

/-- The handler of the event has no save refused. -/
def Accepted (store : Store) (event : VaultManager.Event) : Prop :=
  deliver store (delivered event) = service.complete store (delivered event)

section Deliveries
variable {store : Store} {poolId : String}

theorem find_serve {op : Op} (other : ∀ row, op = .savePool row → row.poolId ≠ poolId) :
    (serve op store).2.pools.find poolId = store.pools.find poolId := by
  unfold serve
  split
  · cases op with
    | savePool row => exact Table.find_save.trans (if_neg (other row rfl))
    | _ => rfl
  · rfl

theorem find_updateTotalSupply {id : Felt252} (other : idText id ≠ poolId) (change : Int) :
    ((updateTotalSupply id change).run serve store).2.pools.find poolId =
      store.pools.find poolId := by
  have looks : serve (.findPool (idText id)) store = (.ok (store.pools.find (idText id)), store) := rfl
  unfold updateTotalSupply perform
  rw [Task.run_bind_ok ((Task.run_perform ..).trans looks)]
  cases found : store.pools.find (idText id) with
  | none => rfl
  | some pool =>
      dsimp only
      rw [Task.run_perform, find_serve]
      intro row same
      cases same
      rwa [(Table.find_eq_some_iff.mp found).2]

theorem find_handler {first : Async Unit} (kept : (first.run serve store).2.pools = store.pools)
    {id : Felt252} (other : idText id ≠ poolId) (change : Int) :
    (((first >>= fun _ => updateTotalSupply id change).tryCatch fun _ => pure ()).run serve
      store).2.pools.find poolId = store.pools.find poolId := by
  rw [Task.run_tryCatch, Task.run_bind, ← kept]
  rcases first.run serve store with ⟨_ | _, after⟩
  · rfl
  · have updated : ((updateTotalSupply id change).run serve after).2.pools.find poolId =
        after.pools.find poolId := find_updateTotalSupply other change
    dsimp only
    rw [← updated]
    rcases (updateTotalSupply id change).run serve after with ⟨_ | _, last⟩
    · rfl
    · rfl

theorem pools_saveBalance (row : PoolBalance) :
    ((perform (.saveBalance row)).run serve store).2.pools = store.pools := by
  unfold perform serve
  rw [Task.run_perform]
  split
  · rfl
  · rfl

theorem pools_addBalance (user : ContractAddress) (id : Felt252) (amount : U256) :
    ((addBalance user id amount).run serve store).2.pools = store.pools := by
  have looks : (perform (.findBalance (idText id) user)).run serve store =
      (.ok (store.poolBalances.find (idText id, user)), store) := (Task.run_perform _ _ _).trans rfl
  unfold addBalance
  rw [Task.run_bind_ok looks]
  cases store.poolBalances.find (idText id, user) with
  | none =>
      dsimp only
      rw [pools_saveBalance]
  | some row => exact pools_saveBalance _

theorem pools_subtractBalance (user : ContractAddress) (id : Felt252) (amount : U256) :
    ((subtractBalance user id amount).run serve store).2.pools = store.pools := by
  have looks : (perform (.findBalance (idText id) user)).run serve store =
      (.ok (store.poolBalances.find (idText id, user)), store) := (Task.run_perform _ _ _).trans rfl
  unfold subtractBalance
  rw [Task.run_bind_ok looks]
  cases store.poolBalances.find (idText id, user) with
  | none => rfl
  | some row => exact pools_saveBalance _

theorem find_deliver_other {event : VaultManager.Event} (other : idText (eventPool event) ≠ poolId) :
    (deliver store (delivered event)).pools.find poolId = store.pools.find poolId := by
  cases event with
  | deposit user id amount => exact find_handler (pools_addBalance user id amount) other _
  | withdrawal user id amount => exact find_handler (pools_subtractBalance user id amount) other _

theorem find_deliverAll (registered : Table Pool.poolId) {events : List VaultManager.Event}
    {poolId : Felt252} (accepted : ∀ past event, past ++ [event] <+: events →
      eventPool event = poolId → Accepted (deliverAll registered past) event) :
    (deliverAll registered events).pools.find (idText poolId) =
      (registered.find (idText poolId)).map fun pool => { pool with
        totalSupply := pool.totalSupply + (events.map (poolMovement (idText poolId))).sum } := by
  induction events using List.reverseRecOn with
  | nil => simp [deliverAll]
  | append_singleton past event ih =>
      have earlier := ih fun before other early =>
        accepted before other (early.trans (List.prefix_append ..))
      rw [deliverAll, List.foldl_concat, ← deliverAll, sum_poolMovement_concat]
      by_cases here : eventPool event = poolId
      · rw [accepted past event (List.prefix_refl _) here, find_complete, earlier, Option.map_map]
        simp [Function.comp_def, Int.add_assoc]
      · have still : poolMovement (idText poolId) event = 0 :=
          if_neg fun same => here (idText_inj.mp same)
        rw [find_deliver_other fun same => here (idText_inj.mp same), earlier, still, Int.add_zero]

end Deliveries

/-! ## Next to the contract -/

section Contract
open Machine Proof.VaultManager

theorem sum_movement (poolId : String) (events : List VaultManager.Event) :
    ∑ user, (events.map (movement poolId user)).sum = (events.map (poolMovement poolId)).sum := by
  induction events with
  | nil => simp
  | cons event rest ih =>
      have spread : ∑ user, movement poolId user event = poolMovement poolId event := by
        unfold movement poolMovement
        split <;> simp_all
      simp only [List.map_cons, List.sum_cons, Finset.sum_add_distrib, ih, spread]

theorem movements_eq (s : VaultManager.State) (user : ContractAddress) (poolId : Felt252) :
    (s.events.map (movement (idText poolId) user)).sum =
      deposits s user poolId - withdrawals s user poolId := by
  unfold deposits withdrawals
  induction s.events with
  | nil => rfl
  | cons event rest ih =>
      have here : movement (idText poolId) user event =
          deposited user poolId event - withdrawn user poolId event := by
        cases event with
        | deposit u p amount | withdrawal u p amount =>
            simp only [movement, deposited, withdrawn, eventPool, eventUser, signedAmount,
              idText_inj, and_comm (a := p = poolId)]
            split <;> simp
      simp only [List.map_cons, List.sum_cons, ih, here]
      omega

variable {self strategyRegistry yieldEngine : ContractAddress}
  {config : Config VaultManager.State Contracts.Call Contracts.Reply}

theorem totalSupply_announced (reaches : (vaultManagerAlone self).Reaches
    (.initial (VaultManager.constructor strategyRegistry yieldEngine)) config)
    (idle : config.stack = []) (poolId : Felt252) :
    ((config.now.state.totalSupply poolId).toNat : Int) =
      (config.now.state.events.map (poolMovement (idText poolId))).sum := by
  rw [balanced_of_reaches reaches poolId, ← sum_movement, Nat.cast_sum]
  apply Finset.sum_congr rfl
  intro user _
  rw [balances_announced reaches idle, movements_eq]

/-- The row of a pool shows the sum of its balances and the total supply on chain. -/
structure Agrees (s : VaultManager.State) (store : Store) (poolId : Felt252) (pool : Pool) : Prop where
  rows : pool.totalSupply = store.rowTotal (idText poolId)
  chain : pool.totalSupply = (s.totalSupply poolId).toNat

/-- When no call waits, the row of a pool is right if and only if it has missed nothing and no
withdrawal has come too early. -/
theorem totals_mirrored_iff (reaches : (vaultManagerAlone self).Reaches
    (.initial (VaultManager.constructor strategyRegistry yieldEngine)) config)
    (idle : config.stack = []) {items : List Item}
    (inOrder : announcements items = config.now.state.events) {poolId : Felt252} {pool : Pool}
    (found : (served items).pools.find (idText poolId) = some pool) :
    Agrees config.now.state (served items) poolId pool ↔
      movedBefore (idText poolId) items = 0 ∧ Preceded (idText poolId) config.now.state.events := by
  have missing : Store.empty.pools.find (idText poolId) = none := rfl
  have total := total_of_missing missing found
  have counts := counts_served (idText poolId) items
  have chain := totalSupply_announced reaches idle poolId
  rw [inOrder] at total counts
  constructor
  · rintro ⟨rows, same⟩
    exact ⟨by omega, counts.exact.mp (by omega)⟩
  · rintro ⟨nothing, preceded⟩
    have rows := counts.exact.mpr preceded
    exact ⟨by omega, by omega⟩

theorem totals_mirrored_withdrawn : ∃ config : Config VaultManager.State Contracts.Call Contracts.Reply,
    config.now.state.totalSupply 0 = 3 ∧ Agrees config.now.state (served [.registered "0" 9,
      .handled (.deposit 7 0 5), .handled (.withdrawal 7 0 2)]) 0 ⟨"0", 9, 3⟩ := by
  -- the pool has its row before user 7 deposits 5 and takes 2 of it back
  have run := ((((((((vaultManagerAlone 1).start (VaultManager.constructor 2 3)).enter
    ⟨2, 1, .vaultManager (.addPool 0 9)⟩ trivial rfl 1 rfl).enter
    ⟨7, 1, .vaultManager (.deposit 0 5)⟩ trivial rfl 1 rfl).reply .unit 1 rfl).reply .unit 1 rfl).enter
    ⟨7, 1, .vaultManager (.withdraw 0 2)⟩ trivial rfl 1 rfl).reply .unit 1 rfl).reply .unit 1 rfl
  have paid : Preceded (idText 0) ([] ++ [.deposit 7 0 5]) :=
    preceded_deposit.mpr (Counts.nil.exact.mp rfl)
  have taken : Preceded (idText 0) ([.deposit 7 0 5] ++ [.withdrawal 7 0 2]) :=
    preceded_withdrawal.mpr ⟨paid, fun _ => .inr ⟨5, List.mem_singleton_self _⟩⟩
  refine ⟨_, rfl, (totals_mirrored_iff run rfl rfl ?_).mpr ⟨rfl, taken⟩⟩
  decide +kernel

/-- A pool whose row comes after its first deposit, and one in which user 7 deposits while the token
pays out a withdrawal. -/
theorem totals_apart :
    (∃ config : Config VaultManager.State Contracts.Call Contracts.Reply,
      (vaultManagerAlone 1).Reaches (.initial (VaultManager.constructor 2 3)) config ∧
      config.stack = [] ∧ ∃ items, announcements items = config.now.state.events ∧
        (served items).pools.find (idText 0) = some ⟨"0", 9, 3⟩ ∧
        (served items).rowTotal (idText 0) = 8 ∧ config.now.state.totalSupply 0 = 8 ∧
        ¬ Agrees config.now.state (served items) 0 ⟨"0", 9, 3⟩) ∧
    ∃ config : Config VaultManager.State Contracts.Call Contracts.Reply,
      (vaultManagerAlone 1).Reaches (.initial (VaultManager.constructor 2 3)) config ∧
      ∃ items, announcements items = config.now.state.events ∧
        (served items).pools.find (idText 0) = some ⟨"0", 9, 8⟩ ∧
        config.now.state.totalSupply 0 = 6 ∧
        ¬ Agrees config.now.state (served items) 0 ⟨"0", 9, 8⟩ := by
  have deposited := (((((vaultManagerAlone 1).start (VaultManager.constructor 2 3)).enter
    ⟨2, 1, .vaultManager (.addPool 0 9)⟩ trivial rfl 1 rfl).enter
    ⟨7, 1, .vaultManager (.deposit 0 5)⟩ trivial rfl 1 rfl).reply .unit 1 rfl).reply .unit 1 rfl
  constructor
  · have run := ((deposited.enter
      ⟨7, 1, .vaultManager (.deposit 0 3)⟩ trivial rfl 1 rfl).reply .unit 1 rfl).reply .unit 1 rfl
    refine ⟨_, run, rfl, [.handled (.deposit 7 0 5), .registered "0" 9, .handled (.deposit 7 0 3)],
      rfl, ?_, ?_, rfl, fun agrees => absurd agrees.chain (by decide)⟩
    · decide +kernel
    · decide +kernel
  · have run := ((((deposited.enter
      ⟨7, 1, .vaultManager (.withdraw 0 2)⟩ trivial rfl 1 rfl).reply .unit 1 rfl).enter
      ⟨7, 1, .vaultManager (.deposit 0 3)⟩ trivial rfl 1 rfl).reply .unit 1 rfl).reply .unit 1 rfl
    refine ⟨_, run, [.registered "0" 9, .handled (.deposit 7 0 5), .handled (.deposit 7 0 3)],
      rfl, ?_, rfl, fun agrees => absurd agrees.chain (by decide)⟩
    decide +kernel

end Contract

end Kanaka.Backend.VaultManagerService
