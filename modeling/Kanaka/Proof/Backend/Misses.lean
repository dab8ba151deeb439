import Kanaka.Proof.Backend.TransactionStatus

/-! # Checks that find no receipt -/

namespace Kanaka.Backend.TransactionMonitorService
open Async TransactionService

structure Lookup where
  getTransactionReceipt : Except JsError (Option ChainReceipt)
  getCurrentBlockNumber : Except JsError Nat

namespace Lookup

def missed (lookup : Lookup) : Bool :=
  match lookup.getTransactionReceipt with
  | .ok (some _) => !lookup.getCurrentBlockNumber.isOk
  | _ => true

def failedReceipt (lookup : Lookup) : Bool :=
  match lookup.getTransactionReceipt, lookup.getCurrentBlockNumber with
  | .ok (some receipt), .ok _ => receipt.status ≠ some 1
  | _, _ => false

def serve (lookup : Lookup) : (op : Op) → State → Except JsError (Reply op) × State
  | .getTransactionReceipt _, s => (lookup.getTransactionReceipt, s)
  | .getCurrentBlockNumber, s => (lookup.getCurrentBlockNumber, s)
  | op, s => (.ok (Service.perform op s).1, (Service.perform op s).2)

end Lookup

section Checks
variable (config : Config) (hash : String)

def check (s : State) (lookup : Lookup) : State :=
  match s.transactions.find hash with
  | some row => ((updateTransactionStatus config row).run lookup.serve s).2
  | none => s

def watch (s : State) (lookups : List Lookup) : State := lookups.foldl (check config hash) s

def LastMissed (n : Nat) (lookups : List Lookup) : Prop :=
  n ≤ lookups.length ∧ ∀ lookup ∈ lookups.drop (lookups.length - n), lookup.missed = true

/-- What the counter is for: misses fail a transaction only in a row. -/
def FailsInARow (s : State) (lookups : List Lookup) : Prop :=
  ∀ past last, past ++ [last] <+: lookups → last.failedReceipt = false →
    (watch config hash s past).statusOf hash ≠ some .failed →
    (watch config hash s (past ++ [last])).statusOf hash = some .failed →
      LastMissed (config.maxRetries + 1).toNat (past ++ [last])

/-- More than `maxRetries` lookups miss only in a row, as long as the transaction has not failed. -/
def MissesInARow (s : State) (lookups : List Lookup) : Prop :=
  ∀ past last, past ++ [last] <+: lookups → last.missed = true →
    (watch config hash s past).statusOf hash ≠ some .failed →
    config.maxRetries < (past ++ [last]).countP Lookup.missed →
      LastMissed (config.maxRetries + 1).toNat (past ++ [last])

end Checks

/-! ## What one check comes to -/

section Check
variable {config : Config} {hash : String} {s : State} {lookup : Lookup} {row : Transaction}

def looked (config : Config) (row : Transaction) (lookup : Lookup) :
    Except JsError (Transaction × Option Topic) :=
  match lookup.getTransactionReceipt with
  | .error error => .error error
  | .ok none => .ok (notMined config row)
  | .ok (some receipt) => (mined config row receipt) <$> lookup.getCurrentBlockNumber

def updated (config : Config) (row : Transaction) (lookup : Lookup) : Transaction × Option Topic :=
  match looked config row lookup with
  | .ok updated => updated
  | .error error => notUpdated config row error

theorem run_lookUp : (lookUp config row).run lookup.serve s = (looked config row lookup, s) := by
  unfold lookUp looked perform
  rw [Task.run_bind, Task.run_perform]
  cases receipt : lookup.getTransactionReceipt with
  | error error => simp [Lookup.serve, receipt]
  | ok found =>
      cases found with
      | none => simp [Lookup.serve, receipt]
      | some mined =>
          simp only [Lookup.serve, receipt, Task.run_bind, Task.run_perform]
          cases lookup.getCurrentBlockNumber with
          | error error => rfl
          | ok currentBlock => rfl

theorem run_store (updated : Transaction × Option Topic) : ∃ emitted,
    (store updated).run lookup.serve s =
      (.ok (), { s with transactions := s.transactions.save updated.1, emitted }) := by
  obtain ⟨row, topic⟩ := updated
  cases topic with
  | none => exact ⟨_, rfl⟩
  | some topic => exact ⟨_, rfl⟩

theorem run_updateTransactionStatus : ∃ emitted,
    ((updateTransactionStatus config row).run lookup.serve s).2 =
      { s with transactions := s.transactions.save (updated config row lookup).1, emitted } := by
  have ran : (lookUp config row).attempt.run lookup.serve s = (.ok (looked config row lookup), s) := by
    rw [Task.run_attempt, run_lookUp]
  unfold updateTransactionStatus updated
  rw [Task.run_bind_ok ran]
  cases looked config row lookup with
  | ok told =>
      obtain ⟨emitted, stored⟩ := @run_store s lookup told
      refine ⟨emitted, ?_⟩
      dsimp only
      rw [Task.run_tryCatch, stored]
  | error error =>
      obtain ⟨emitted, stored⟩ := @run_store s lookup (notUpdated config row error)
      refine ⟨emitted, ?_⟩
      dsimp only
      rw [stored]

section Updated
variable (config row)

theorem notMined_eq : (notMined config row).1.hash = row.hash ∧
    (notMined config row).1.retryCount = row.retryCount + 1 ∧
    (notMined config row).1.status =
      if config.maxRetries < ((row.retryCount + 1 : Nat) : Int) then .failed else row.status := by
  unfold notMined
  dsimp only
  split <;> exact ⟨rfl, rfl, rfl⟩

theorem notUpdated_eq (error : JsError) : (notUpdated config row error).1.hash = row.hash ∧
    (notUpdated config row error).1.retryCount = row.retryCount + 1 ∧
    (notUpdated config row error).1.status =
      if config.maxRetries < ((row.retryCount + 1 : Nat) : Int) then .failed else row.status := by
  unfold notUpdated
  dsimp only
  split <;> exact ⟨rfl, rfl, rfl⟩

theorem mined_eq (receipt : ChainReceipt) (currentBlock : Nat) :
    (mined config row receipt currentBlock).1.hash = row.hash ∧
    (mined config row receipt currentBlock).1.retryCount = row.retryCount ∧
    ((mined config row receipt currentBlock).1.status = .failed ↔ receipt.status ≠ some 1) := by
  unfold mined
  dsimp only
  split
  · split <;> simp_all
  · simp_all

end Updated

theorem updated_of_missed (missed : lookup.missed = true) :
    (updated config row lookup).1.hash = row.hash ∧
    (updated config row lookup).1.retryCount = row.retryCount + 1 ∧
    (updated config row lookup).1.status =
      if config.maxRetries < ((row.retryCount + 1 : Nat) : Int) then .failed else row.status := by
  unfold Lookup.missed at missed
  unfold updated looked
  cases receipt : lookup.getTransactionReceipt with
  | error error => exact notUpdated_eq config row error
  | ok found =>
      cases found with
      | none => exact notMined_eq config row
      | some found =>
          cases block : lookup.getCurrentBlockNumber with
          | error error => exact notUpdated_eq config row error
          | ok currentBlock => simp [receipt, block, Except.isOk, Except.toBool] at missed

theorem updated_of_mined (mined : lookup.missed = false) :
    (updated config row lookup).1.hash = row.hash ∧
    (updated config row lookup).1.retryCount = row.retryCount ∧
    ((updated config row lookup).1.status = .failed ↔ lookup.failedReceipt = true) := by
  unfold Lookup.missed at mined
  unfold updated looked Lookup.failedReceipt
  cases receipt : lookup.getTransactionReceipt with
  | error error => simp [receipt] at mined
  | ok found =>
      cases found with
      | none => simp [receipt] at mined
      | some found =>
          cases block : lookup.getCurrentBlockNumber with
          | error error => simp [receipt, block, Except.isOk, Except.toBool] at mined
          | ok currentBlock => simpa using mined_eq config row found currentBlock

theorem hash_updated : (updated config row lookup).1.hash = row.hash := by
  cases missed : lookup.missed with
  | true => exact (updated_of_missed missed).1
  | false => exact (updated_of_mined missed).1

theorem find_check (found : s.transactions.find hash = some row) :
    (check config hash s lookup).transactions.find hash = some (updated config row lookup).1 := by
  obtain ⟨emitted, after⟩ := @run_updateTransactionStatus config s lookup row
  have named := (Table.find_eq_some_iff.mp found).2
  simp only [check, found, after]
  rw [Table.find_save, if_pos (hash_updated.trans named)]

end Check

/-! ## Runs of checks -/

def tracked (s : State) (hash type : String) : State :=
  { s with transactions := s.transactions.save (Transaction.created hash type) }

section Runs
variable {config : Config} {hash type : String} {s : State} {past : List Lookup} {last : Lookup}

theorem watch_concat : watch config hash s (past ++ [last]) =
    check config hash (watch config hash s past) last := by
  rw [watch, List.foldl_append]
  rfl

theorem retryCount_watch (lookups : List Lookup) : ∃ row,
    (watch config hash (tracked s hash type) lookups).transactions.find hash = some row ∧
      row.retryCount = lookups.countP Lookup.missed := by
  induction lookups using List.reverseRecOn with
  | nil => exact ⟨Transaction.created hash type, by simp [watch, tracked, Table.find_save,
      Transaction.created], rfl⟩
  | append_singleton past last ih =>
      obtain ⟨row, found, counted⟩ := ih
      refine ⟨_, by rw [watch_concat]; exact find_check found, ?_⟩
      rw [List.countP_append, List.countP_singleton, ← counted]
      cases missed : last.missed with
      | true => exact (updated_of_missed missed).2.1
      | false => exact (updated_of_mined missed).2.1

theorem fails_iff (before : (watch config hash (tracked s hash type) past).statusOf hash ≠ some .failed) :
    last.failedReceipt = false ∧
      (watch config hash (tracked s hash type) (past ++ [last])).statusOf hash = some .failed ↔
    last.missed = true ∧ config.maxRetries < (past ++ [last]).countP Lookup.missed := by
  obtain ⟨row, found, counted⟩ := @retryCount_watch config hash type s past
  have status : row.status ≠ .failed := by
    rintro failed
    exact before (by rw [State.statusOf, found, Option.map_some, failed])
  rw [watch_concat, State.statusOf, find_check found, Option.map_some, Option.some.injEq,
    List.countP_append, List.countP_singleton, ← counted]
  cases missed : last.missed with
  | true =>
      have receipt : last.failedReceipt = false := by
        unfold Lookup.missed at missed
        unfold Lookup.failedReceipt
        split <;> simp_all [Except.isOk, Except.toBool]
      rw [(updated_of_missed missed).2.2, receipt]
      simp [status]
  | false =>
      rw [(updated_of_mined missed).2.2]
      simp

end Runs

/-- Misses that are apart fail a transaction like misses in a row. -/
theorem failsInARow_iff (config : Config) (hash type : String) (s : State) (lookups : List Lookup) :
    FailsInARow config hash (tracked s hash type) lookups ↔
      MissesInARow config hash (tracked s hash type) lookups := by
  constructor
  · intro fails past last reached missed before many
    obtain ⟨receipt, failed⟩ := (fails_iff before).mpr ⟨missed, many⟩
    exact fails past last reached receipt before failed
  · intro misses past last reached receipt before failed
    obtain ⟨missed, many⟩ := (fails_iff before).mp ⟨receipt, failed⟩
    exact misses past last reached missed before many

def unreachable : Lookup := ⟨.error (.ofMessage "timeout"), .ok 0⟩

def seen : Lookup := ⟨.ok (some ⟨some 1, some 10⟩), .ok 12⟩

def troubled : List Lookup := List.replicate 5 unreachable ++ [seen, unreachable]

/-- The transaction is confirming, and fails with the next error. -/
theorem failed_while_confirming :
    (watch ⟨12, 5⟩ "0xa" (tracked pendingState "0xa" "swap") (List.replicate 5 unreachable ++ [seen])).statusOf
      "0xa" = some .confirming ∧
    (watch ⟨12, 5⟩ "0xa" (tracked pendingState "0xa" "swap") troubled).statusOf "0xa" = some .failed ∧
    ¬ FailsInARow ⟨12, 5⟩ "0xa" (tracked pendingState "0xa" "swap") troubled := by
  have confirming : (watch ⟨12, 5⟩ "0xa" (tracked pendingState "0xa" "swap")
      (List.replicate 5 unreachable ++ [seen])).statusOf "0xa" = some .confirming := by decide +kernel
  have failed : (watch ⟨12, 5⟩ "0xa" (tracked pendingState "0xa" "swap") troubled).statusOf "0xa" =
      some .failed := by decide +kernel
  refine ⟨confirming, failed, ?_⟩
  intro fails
  have row := fails (List.replicate 5 unreachable ++ [seen]) unreachable (List.prefix_refl troubled) rfl
    (by rw [confirming]; decide) failed
  have impossible := row.2 seen (by simp [List.replicate])
  cases impossible

end Kanaka.Backend.TransactionMonitorService
