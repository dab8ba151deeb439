import Kanaka.Order.Ranks
import Kanaka.Proof.Backend.Doubles
import Kanaka.Proof.Backend.GasUsage
import Mathlib.Algebra.Order.BigOperators.Group.List

/-! # The statistics of the gas usage history -/

namespace Kanaka.Backend.GasOptimizerService
open Ranks

/-! ## What they are meant to be -/

structure Summary where
  min : Nat
  max : Nat
  avg : Nat
  median : Nat

structure Summary.Describes (summary : Summary) (values : List Nat) : Prop where
  ordered : summary.min ≤ summary.median ∧ summary.median ≤ summary.max
  averaged : summary.min ≤ summary.avg ∧ summary.avg ≤ summary.max
  least : summary.min ∈ values ∧ ∀ value ∈ values, summary.min ≤ value
  greatest : summary.max ∈ values ∧ ∀ value ∈ values, value ≤ summary.max
  middle : summary.median ∈ values ∧ 2 * values.countP (· < summary.median) ≤ values.length ∧
    2 * values.countP (summary.median < ·) ≤ values.length
  mean : summary.avg = ⌈(values.sum : Rat) / values.length⌉₊

def Summary.stats (summary : Summary) (count : Nat) : GasUsageStats :=
  ⟨.finite summary.min, .finite summary.max, .finite summary.avg, .finite summary.median, count⟩

def summarize (values : List Nat) : Summary where
  min := (ranked 0 values).getD 0
  max := (ranked (values.length - 1) values).getD 0
  avg := ⌈(values.sum : Rat) / values.length⌉₊
  median := (ranked (values.length / 2) values).getD 0

section Values
variable {values : List Nat}

theorem le_mean {least : Nat} (filled : values ≠ []) (bound : ∀ value ∈ values, least ≤ value) :
    (least : Rat) ≤ values.sum / values.length := by
  have positive : (0 : Rat) < values.length := by exact_mod_cast List.length_pos_of_ne_nil filled
  have total : values.length * least ≤ values.sum := List.card_nsmul_le_sum values least bound
  rw [le_div_iff₀ positive, mul_comm]
  exact_mod_cast total

theorem mean_le {greatest : Nat} (filled : values ≠ []) (bound : ∀ value ∈ values, value ≤ greatest) :
    values.sum / values.length ≤ (greatest : Rat) := by
  have positive : (0 : Rat) < values.length := by exact_mod_cast List.length_pos_of_ne_nil filled
  have total : values.sum ≤ values.length * greatest := List.sum_le_card_nsmul values greatest bound
  rw [div_le_iff₀ positive, mul_comm]
  exact_mod_cast total

theorem summarize_describes (filled : values ≠ []) : (summarize values).Describes values := by
  have positive := List.length_pos_of_ne_nil filled
  have first : ∃ min, ranked 0 values = some min := exists_ranked positive
  have last : ∃ max, ranked (values.length - 1) values = some max := exists_ranked (by omega)
  have half : ∃ median, ranked (values.length / 2) values = some median := exists_ranked (by omega)
  obtain ⟨min, first⟩ := first
  obtain ⟨max, last⟩ := last
  obtain ⟨median, half⟩ := half
  have summary : summarize values =
      ⟨min, max, ⌈(values.sum : Rat) / values.length⌉₊, median⟩ := by
    rw [summarize, first, last, half]
    rfl
  have below : 2 * values.countP (· < median) ≤ values.length := by
    have few := countP_lt_ranked half
    omega
  have above : 2 * values.countP (median < ·) ≤ values.length := by
    have few := countP_ranked_lt half
    omega
  have least : ∀ value ∈ values, min ≤ value := fun value => ranked_zero_le first
  have greatest : ∀ value ∈ values, value ≤ max := fun value => le_ranked_last last
  rw [summary]
  exact
    { ordered := ⟨least median (mem_of_ranked half), greatest median (mem_of_ranked half)⟩
      averaged := ⟨Nat.cast_le.mp ((le_mean filled least).trans (Nat.le_ceil _)),
        Nat.ceil_le.mpr (mean_le filled greatest)⟩
      least := ⟨mem_of_ranked first, least⟩
      greatest := ⟨mem_of_ranked last, greatest⟩
      middle := ⟨mem_of_ranked half, below, above⟩
      mean := rfl }

end Values

/-! ## What they are -/

theorem lt_ofNat (n m : Nat) : (JsNumber.ofNat n).lt (.ofNat m) = decide (n < m) := by
  simp [JsNumber.ofNat, JsNumber.lt]

section Numbers
variable {values other : List Nat}

theorem sort_ofNat : sort (values.map .ofNat) = (values.insertionSort (· ≤ ·)).map .ofNat := by
  refine (List.map_insertionSort (· ≤ ·) (fun a b : JsNumber => ¬ b.lt a) _ values ?_).symm
  intro n _ m _
  simp [lt_ofNat]

theorem length_sort_ofNat : (sort (values.map .ofNat)).length = values.length := by
  rw [sort_ofNat, List.length_map, List.length_insertionSort]

theorem sort_perm (same : values.Perm other) : sort (values.map .ofNat) = sort (other.map .ofNat) := by
  rw [sort_ofNat, sort_ofNat, sorted_perm same]

theorem getD_sort_ofNat (k : Nat) :
    (sort (values.map .ofNat))[k]?.getD (.finite 0) = .ofNat ((ranked k values).getD 0) := by
  rw [sort_ofNat, List.getElem?_map]
  unfold ranked
  cases (values.insertionSort (· ≤ ·))[k]? with
  | none => rfl
  | some value => rfl

/-- Sums up to the total, and the average, are those of the numbers. -/
structure Faithful (arithmetic : JsNumber.Arithmetic) (total count : Nat) : Prop where
  add : ∀ n m, n + m ≤ total → arithmetic.add (.ofNat n) (.ofNat m) = .ofNat (n + m)
  ceil : (arithmetic.divNat (.ofNat total) count).ceil = .finite ⌈(total : Rat) / count⌉₊

theorem ceil_ofNat_div (total count : Nat) :
    JsInteger.finite ⌈(total : Rat) / count⌉ = .finite ⌈(total : Rat) / count⌉₊ := by
  rw [Int.natCast_ceil_eq_ceil (by positivity)]

theorem faithful_exact (total count : Nat) : Faithful .exact total count where
  add n m _ := congrArg JsNumber.finite (Nat.cast_add n m).symm
  ceil := ceil_ofNat_div total count

/-- Doubles are faithful as long as the total is a safe integer. -/
theorem faithful_doubles {total count : Nat} (small : total < 2 ^ 53) (positive : 0 < count)
    (few : count ≤ 2 ^ 53) : Faithful .doubles total count where
  add n m le := by
    refine Eq.trans ?_ (JsNumber.round_ofNat (le.trans_lt small))
    exact congrArg JsNumber.round (Nat.cast_add n m).symm
  ceil := (JsNumber.ceil_round_div small positive few).trans (ceil_ofNat_div total count)

variable {arithmetic : JsNumber.Arithmetic}

theorem foldl_add {total count : Nat} (faithful : Faithful arithmetic total count) (start : Nat)
    (small : start + values.sum ≤ total) :
    (values.map .ofNat).foldl arithmetic.add (.ofNat start) = .ofNat (start + values.sum) := by
  induction values generalizing start with
  | nil => rfl
  | cons value values ih =>
      rw [List.sum_cons, ← Nat.add_assoc] at small ⊢
      rw [List.map_cons, List.foldl_cons, faithful.add start value ((Nat.le_add_right _ _).trans small)]
      exact ih (start + value) small

theorem foldl_sort {count : Nat} (faithful : Faithful arithmetic values.sum count) :
    (sort (values.map .ofNat)).foldl arithmetic.add (.finite 0) = .ofNat values.sum := by
  have total : (values.insertionSort (· ≤ ·)).sum = values.sum := (List.perm_insertionSort _ values).sum_eq
  rw [← total] at faithful ⊢
  rw [sort_ofNat]
  exact (foldl_add faithful 0 (Nat.zero_add _).le).trans (by rw [Nat.zero_add])

end Numbers

/-! ## Whole histories -/

def GasUsageHistoryEntry.Whole (entry : GasUsageHistoryEntry) : Prop :=
  ∃ gas : Nat, entry.gasUsed = .ofNat gas

def GasUsageHistoryEntry.gas (entry : GasUsageHistoryEntry) : Nat :=
  match entry.gasUsed with
  | .finite value => ⌊value⌋₊
  | _ => 0

theorem GasUsageHistoryEntry.Whole.gasUsed_eq {entry : GasUsageHistoryEntry} (whole : entry.Whole) :
    entry.gasUsed = .ofNat entry.gas := by
  obtain ⟨gas, used⟩ := whole
  rw [GasUsageHistoryEntry.gas, used]
  exact congrArg JsNumber.ofNat (Nat.floor_natCast gas).symm

theorem map_gasUsed {history : List GasUsageHistoryEntry} (whole : ∀ entry ∈ history, entry.Whole) :
    history.map (·.gasUsed) = (history.map (·.gas)).map .ofNat := by
  rw [List.map_map]
  exact List.map_congr_left fun entry member => (whole entry member).gasUsed_eq

section Stats
variable {arithmetic : JsNumber.Arithmetic} {gasUsageHistory other : GasUsageHistory}
  {contractName methodName : String} {history : List GasUsageHistoryEntry}

theorem getGasUsageStats_nil (read : getGasUsageHistory gasUsageHistory contractName methodName = []) :
    getGasUsageStats arithmetic gasUsageHistory contractName methodName =
      ⟨.finite 0, .finite 0, .finite 0, .finite 0, 0⟩ := by
  unfold getGasUsageStats
  rw [read]
  rfl

theorem getGasUsageStats_eq (read : getGasUsageHistory gasUsageHistory contractName methodName = history)
    (filled : history ≠ []) (whole : ∀ entry ∈ history, entry.Whole)
    (faithful : Faithful arithmetic (history.map (·.gas)).sum history.length) :
    getGasUsageStats arithmetic gasUsageHistory contractName methodName =
      (summarize (history.map (·.gas))).stats history.length := by
  unfold getGasUsageStats summarize
  dsimp only
  rw [read, if_neg (List.length_pos_of_ne_nil filled).ne', map_gasUsed whole, length_sort_ofNat,
    getD_sort_ofNat, getD_sort_ofNat, getD_sort_ofNat, foldl_sort faithful, List.length_map, faithful.ceil]
  rfl

/-- In any arithmetic the order in which the entries were recorded does not matter. -/
theorem getGasUsageStats_perm (read : getGasUsageHistory gasUsageHistory contractName methodName = history)
    (whole : ∀ entry ∈ history, entry.Whole)
    (reordered : (getGasUsageHistory other contractName methodName).Perm history) :
    getGasUsageStats arithmetic other contractName methodName =
      getGasUsageStats arithmetic gasUsageHistory contractName methodName := by
  have whole' : ∀ entry ∈ getGasUsageHistory other contractName methodName, entry.Whole :=
    fun entry member => whole entry (reordered.subset member)
  unfold getGasUsageStats
  dsimp only
  rw [read, reordered.length_eq, map_gasUsed whole, map_gasUsed whole', sort_perm (reordered.map _)]

/-- The statistics of whole numbers, whatever the order in which they were recorded. -/
theorem getGasUsageStats_describes
    (read : getGasUsageHistory gasUsageHistory contractName methodName = history)
    (filled : history ≠ []) (whole : ∀ entry ∈ history, entry.Whole) :
    (∃ summary : Summary, summary.Describes (history.map (·.gas)) ∧
      getGasUsageStats .exact gasUsageHistory contractName methodName = summary.stats history.length) ∧
    ∀ reordered, (getGasUsageHistory reordered contractName methodName).Perm history →
      getGasUsageStats .exact reordered contractName methodName =
        getGasUsageStats .exact gasUsageHistory contractName methodName := by
  constructor
  · refine ⟨summarize (history.map (·.gas)), summarize_describes (List.map_eq_nil_iff.not.mpr filled), ?_⟩
    exact getGasUsageStats_eq read filled whole (faithful_exact _ _)
  · intro reordered same
    exact getGasUsageStats_perm read whole same

def swaps : List GasUsageHistoryEntry :=
  [90000, 21000, 50000, 21001].map fun gasUsed => ⟨"Router", "swap", .ofNat gasUsed, 0, "0x1"⟩

theorem getGasUsageStats_swaps : getGasUsageHistory (fun _ => some swaps) "Router" "swap" = swaps ∧
    (∃ summary : Summary, summary.Describes (swaps.map (·.gas)) ∧
      getGasUsageStats .exact (fun _ => some swaps) "Router" "swap" = summary.stats 4) ∧
    ∀ reordered, (getGasUsageHistory reordered "Router" "swap").Perm swaps →
      getGasUsageStats .exact reordered "Router" "swap" =
        getGasUsageStats .exact (fun _ => some swaps) "Router" "swap" := by
  have whole : ∀ entry ∈ swaps, entry.Whole := by
    intro entry member
    obtain ⟨gasUsed, _, rfl⟩ := List.mem_map.mp member
    exact ⟨gasUsed, rfl⟩
  exact ⟨rfl, getGasUsageStats_describes rfl (List.cons_ne_nil _ _) whole⟩

/-! ## Doubles -/

theorem getGasUsageStats_doubles
    (read : getGasUsageHistory gasUsageHistory contractName methodName = history)
    (whole : ∀ entry ∈ history, entry.Whole) (small : (history.map (·.gas)).sum < 2 ^ 53)
    (few : history.length ≤ 2 ^ 53) :
    getGasUsageStats .doubles gasUsageHistory contractName methodName =
      getGasUsageStats .exact gasUsageHistory contractName methodName := by
  by_cases filled : history = []
  · rw [getGasUsageStats_nil (read.trans filled), getGasUsageStats_nil (read.trans filled)]
  · have faithful := faithful_doubles small (List.length_pos_of_ne_nil filled) few
    rw [getGasUsageStats_eq read filled whole faithful,
      getGasUsageStats_eq read filled whole (faithful_exact _ _)]

theorem averageGas_eq_avg (read : getGasUsageHistory gasUsageHistory contractName methodName = history)
    (filled : history ≠ []) (whole : ∀ entry ∈ history, entry.Whole)
    (small : (history.map (·.gas)).sum < 2 ^ 53) (few : history.length ≤ 2 ^ 53) :
    averageGas history = (getGasUsageStats .doubles gasUsageHistory contractName methodName).avg := by
  have faithful := faithful_doubles small (List.length_pos_of_ne_nil filled) few
  have total : history.foldl (fun sum entry => JsNumber.add sum entry.gasUsed) (.finite 0) =
      .ofNat (history.map (·.gas)).sum := by
    rw [← List.foldl_map, map_gasUsed whole]
    exact (foldl_add faithful 0 (Nat.zero_add _).le).trans (by rw [Nat.zero_add])
  rw [getGasUsageStats_eq read filled whole faithful, averageGas, total]
  exact faithful.ceil.trans (by rw [Summary.stats, summarize, List.length_map])

end Stats

/-! ## Sequences of calls -/

theorem getGasUsageStats_record_perm {arithmetic : JsNumber.Arithmetic} {m : Nat}
    {calls other : List GasUsageHistoryEntry} {contractName methodName : String} (same : other.Perm calls)
    (fit : (recordedFor (historyKey contractName methodName) calls).length ≤ m)
    (whole : ∀ call ∈ calls, call.Whole) :
    getGasUsageStats arithmetic (record m other) contractName methodName =
      getGasUsageStats arithmetic (record m calls) contractName methodName := by
  have own : (recordedFor (historyKey contractName methodName) other).Perm
      (recordedFor (historyKey contractName methodName) calls) := same.filter _
  have fit' := own.length_eq.le.trans fit
  have read : getGasUsageHistory (record m calls) contractName methodName =
      recordedFor (historyKey contractName methodName) calls :=
    (getGasUsageHistory_record contractName methodName).trans (kept_of_length_le fit)
  refine getGasUsageStats_perm read (fun call member => whole call (List.mem_of_mem_filter member)) ?_
  rw [getGasUsageHistory_record, kept_of_length_le fit']
  exact own

end Kanaka.Backend.GasOptimizerService
