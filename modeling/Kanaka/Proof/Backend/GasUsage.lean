import Kanaka.Backend.GasUsageHistory
import Mathlib.Data.List.DropRight
import Mathlib.Data.List.Induction

/-! # The bound of the gas usage history -/

namespace Kanaka.Backend.GasOptimizerService

/-! ## One list -/

section Lists
variable {α : Type*} {m : Nat} {list : List α}

/-- What a list is cut to: as there is no negative zero to start from, a bound of zero keeps all. -/
def kept (m : Nat) (list : List α) : List α := if m = 0 then list else list.rtake m

theorem kept_of_pos (positive : 0 < m) : kept m list = list.rtake m := if_neg positive.ne'

theorem slice_neg : slice (-(m : Int)) list = kept m list := by
  unfold slice kept List.rtake
  rcases Nat.eq_zero_or_pos m with rfl | positive
  · simp
  · rw [if_pos (by omega), if_neg positive.ne']
    congr 1
    omega

theorem rtake_of_length_le (short : list.length ≤ m) : list.rtake m = list := by
  unfold List.rtake
  rw [Nat.sub_eq_zero_of_le short, List.drop_zero]

theorem kept_of_length_le (short : list.length ≤ m) : kept m list = list := by
  unfold kept
  split
  · rfl
  · exact rtake_of_length_le short

theorem limit_eq_kept : (if (m : Int) < list.length then slice (-(m : Int)) list else list) =
    kept m list := by
  split
  · exact slice_neg
  · rename_i short
    exact (kept_of_length_le (by omega)).symm

theorem kept_kept_concat (entry : α) : kept m (kept m list ++ [entry]) = kept m (list ++ [entry]) := by
  cases m with
  | zero => rfl
  | succ m =>
      have positive : 0 < m + 1 := m.succ_pos
      rw [kept_of_pos positive, kept_of_pos positive, kept_of_pos positive,
        List.rtake_concat_succ, List.rtake_concat_succ]
      congr 1
      unfold List.rtake
      rw [List.drop_drop, List.length_drop]
      congr 1
      omega

theorem kept_eq_rtake_iff : kept m list = list.rtake m ↔ 0 < m ∨ list = [] := by
  rcases Nat.eq_zero_or_pos m with rfl | positive
  · simp [kept]
  · simp [kept_of_pos positive, positive]

end Lists

/-! ## One call -/

section Calls
variable {m : Nat} {history : GasUsageHistory} {entry : GasUsageHistoryEntry}

theorem recordGasUsage_eq : recordGasUsage m history entry =
    Function.update history entry.key (some (kept m ((history entry.key).getD [] ++ [entry]))) := by
  unfold recordGasUsage
  dsimp only
  rw [limit_eq_kept]

theorem recordGasUsage_other {key : String} (other : key ≠ entry.key) :
    recordGasUsage m history entry key = history key := by
  rw [recordGasUsage_eq, Function.update_of_ne other]

theorem recordGasUsage_own : recordGasUsage m history entry entry.key =
    some (kept m ((history entry.key).getD [] ++ [entry])) := by
  rw [recordGasUsage_eq, Function.update_self]

end Calls

/-! ## Sequences of calls -/

def record (m : Nat) (calls : List GasUsageHistoryEntry) : GasUsageHistory :=
  calls.foldl (recordGasUsage m) (fun _ => none)

def recordedFor (key : String) (calls : List GasUsageHistoryEntry) : List GasUsageHistoryEntry :=
  calls.filter (·.key = key)

variable {m : Nat} {calls : List GasUsageHistoryEntry}

theorem record_concat (entry : GasUsageHistoryEntry) :
    record m (calls ++ [entry]) = recordGasUsage m (record m calls) entry := by
  unfold record
  rw [List.foldl_concat]

theorem record_eq (key : String) : (record m calls key).getD [] = kept m (recordedFor key calls) := by
  induction calls using List.reverseRecOn with
  | nil => simp [record, recordedFor, kept]
  | append_singleton calls entry ih =>
      rw [record_concat]
      unfold recordedFor at ih ⊢
      rw [List.filter_append]
      by_cases own : entry.key = key
      · subst own
        rw [recordGasUsage_own, Option.getD_some, ih, kept_kept_concat]
        simp
      · rw [recordGasUsage_other (Ne.symm own), ih]
        simp [own]

theorem getGasUsageHistory_record (contractName methodName : String) :
    getGasUsageHistory (record m calls) contractName methodName =
      kept m (recordedFor (historyKey contractName methodName) calls) := record_eq _

/-- An estimate is made from the last entries of its own key. -/
theorem estimateGasWithHistory_record (positive : 0 < m) {contractName methodName : String}
    (used : recordedFor (historyKey contractName methodName) calls ≠ []) (multiplier : JsNumber)
    (contractEstimate : Except JsError JsNumber) :
    estimateGasWithHistory (record m calls) contractName methodName multiplier contractEstimate =
      .ok (withMultiplier multiplier (averageGas
        ((recordedFor (historyKey contractName methodName) calls).rtake m)).toNumber) := by
  unfold estimateGasWithHistory
  dsimp only
  rw [record_eq, kept_of_pos positive]
  have filled := List.length_pos_of_ne_nil used
  rw [if_pos]
  unfold List.rtake
  rw [List.length_drop]
  omega

structure BoundedTail (m : Nat) (calls : List GasUsageHistoryEntry) : Prop where
  last : ∀ contractName methodName, getGasUsageHistory (record m calls) contractName methodName =
    (recordedFor (historyKey contractName methodName) calls).rtake m
  others : ∀ (history : GasUsageHistory) (entry : GasUsageHistoryEntry) contractName methodName,
    historyKey contractName methodName ≠ entry.key →
      getGasUsageHistory (recordGasUsage m history entry) contractName methodName =
        getGasUsageHistory history contractName methodName

/-- The history is the bounded tail unless the bound is zero and an entry is recorded. -/
theorem boundedTail_iff (m : Nat) (calls : List GasUsageHistoryEntry) :
    BoundedTail m calls ↔ 0 < m ∨ calls = [] := by
  constructor
  · intro bounded
    cases calls with
    | nil => exact .inr rfl
    | cons entry calls =>
        left
        have tail := bounded.last entry.contractName entry.methodName
        rw [getGasUsageHistory_record, kept_eq_rtake_iff] at tail
        refine tail.resolve_right ?_
        unfold recordedFor
        rw [List.filter_cons_of_pos (by simp [GasUsageHistoryEntry.key])]
        exact List.cons_ne_nil _ _
  · intro condition
    constructor
    · intro contractName methodName
      rw [getGasUsageHistory_record, kept_eq_rtake_iff]
      refine condition.imp_right ?_
      rintro rfl
      rfl
    · intro history entry contractName methodName other
      unfold getGasUsageHistory
      rw [recordGasUsage_other other]

def swapUsage : GasUsageHistoryEntry := ⟨"Router", "swap", .finite 21000, 0, "0x1"⟩

theorem zero_keeps_all : getGasUsageHistory (record 0 [swapUsage, swapUsage]) "Router" "swap" =
    [swapUsage, swapUsage] ∧ ¬ BoundedTail 0 [swapUsage, swapUsage] := by
  have all : getGasUsageHistory (record 0 [swapUsage, swapUsage]) "Router" "swap" =
      [swapUsage, swapUsage] := by decide +kernel
  refine ⟨all, ?_⟩
  intro bounded
  have tail := bounded.last "Router" "swap"
  rw [all] at tail
  revert tail
  decide +kernel

end Kanaka.Backend.GasOptimizerService
