import Kanaka.Backend.JsNumber
import Mathlib.Algebra.Order.Field.Power
import Mathlib.Data.Nat.Log
import Mathlib.Tactic.Linarith
import Mathlib.Tactic.Ring
import Mathlib.Tactic.Positivity

/-! # Rounding to doubles -/

namespace Kanaka.Backend.JsNumber

variable {x : Rat} {n : Nat}

theorem nearestEven_intCast (z : Int) : nearestEven z = z := by
  simp [nearestEven]

theorem abs_nearestEven_sub_le (x : Rat) : |(nearestEven x : Rat) - x| ≤ 1 / 2 := by
  have below := Int.floor_le x
  have above := Int.lt_floor_add_one x
  rw [abs_le]
  unfold nearestEven
  dsimp only
  split_ifs with lower upper even <;> push_cast <;> constructor <;> linarith

/-! ## The last bit -/

theorem two_zpow_log2_le (positive : 0 < x) :
    (2 : Rat) ^ ((Nat.log2 x.num.toNat : Int) - Nat.log2 x.den - 1) ≤ x := by
  have num_pos : 0 < x.num := Rat.num_pos.mpr positive
  have numerator : (2 : Rat) ^ Nat.log2 x.num.toNat ≤ x.num := by
    have least := Nat.log2_self_le (n := x.num.toNat) (by omega)
    rw [← Int.toNat_of_nonneg num_pos.le]
    exact_mod_cast least
  have denominator : (x.den : Rat) ≤ 2 ^ (Nat.log2 x.den + 1) := by
    exact_mod_cast (Nat.lt_log2_self (n := x.den)).le
  calc (2 : Rat) ^ ((Nat.log2 x.num.toNat : Int) - Nat.log2 x.den - 1)
      = 2 ^ Nat.log2 x.num.toNat / 2 ^ (Nat.log2 x.den + 1) := by
        rw [sub_sub, zpow_sub₀ two_ne_zero, zpow_natCast, ← Nat.cast_one, ← Nat.cast_add, zpow_natCast]
    _ ≤ x.num / x.den := by
        have den_pos : (0 : Rat) < x.den := by exact_mod_cast x.den_pos
        exact div_le_div₀ (by positivity) numerator den_pos denominator
    _ = x := x.num_div_den

theorem two_zpow_lastBit_le (positive : 0 < x) :
    (2 : Rat) ^ lastBit x ≤ x / 2 ^ 52 ∨ lastBit x = -1074 := by
  unfold lastBit
  extract_lets e
  have leading : (2 : Rat) ^ (if x < 2 ^ e then e - 1 else e) ≤ x := by
    split_ifs with less
    · exact two_zpow_log2_le positive
    · exact not_lt.mp less
  rcases max_choice ((if x < 2 ^ e then e - 1 else e) - 52) (-1074) with first | last
  · left
    rw [first, zpow_sub₀ two_ne_zero]
    exact div_le_div_of_nonneg_right leading (by positivity)
  · exact .inr last

theorem lastBit_natCast_le (small : n < 2 ^ 53) : lastBit n ≤ 0 := by
  have log : Nat.log2 n ≤ 52 := by
    by_cases zero : n = 0
    · simp [zero]
    · exact Nat.le_of_lt_succ ((Nat.log2_lt zero).mpr small)
  unfold lastBit
  extract_lets e
  have leading : e ≤ 52 := by
    simp only [e, Rat.num_natCast, Rat.den_natCast, Int.toNat_natCast]
    have one : Nat.log2 1 = 0 := by decide
    omega
  split_ifs <;> omega

/-! ## Rounding -/

def rounded (x : Rat) : Rat := nearestEven (x / 2 ^ lastBit |x|) * 2 ^ lastBit |x|

theorem round_eq (filled : x ≠ 0) (finite : |rounded x| < 2 ^ 1024) : round x = .finite (rounded x) := by
  unfold round
  rw [if_neg filled]
  exact if_neg (not_le.mpr finite)

theorem rounded_of_multiple {z : Int} (multiple : x = z * 2 ^ lastBit |x|) : rounded x = x := by
  have unit : (2 : Rat) ^ lastBit |x| ≠ 0 := zpow_ne_zero _ two_ne_zero
  have quotient : x / 2 ^ lastBit |x| = z := by rwa [div_eq_iff unit]
  rw [rounded, quotient, nearestEven_intCast, ← multiple]

theorem abs_rounded_sub_le (positive : 0 < x) : |rounded x - x| ≤ 2 ^ lastBit x / 2 := by
  have unit : (0 : Rat) < 2 ^ lastBit x := zpow_pos two_pos _
  calc |rounded x - x|
      = |(nearestEven (x / 2 ^ lastBit x) - x / 2 ^ lastBit x) * 2 ^ lastBit x| := by
        rw [rounded, abs_of_pos positive, sub_mul, div_mul_cancel₀ _ unit.ne']
    _ ≤ 1 / 2 * 2 ^ lastBit x := by
        rw [abs_mul, abs_of_pos unit]
        exact mul_le_mul_of_nonneg_right (abs_nearestEven_sub_le _) unit.le
    _ = 2 ^ lastBit x / 2 := by ring

theorem round_ofNat (small : n < 2 ^ 53) : round n = .ofNat n := by
  by_cases zero : n = 0
  · rw [zero]
    rfl
  · obtain ⟨bits, scale⟩ : ∃ bits : Nat, lastBit n = -bits :=
      ⟨(-lastBit n).toNat, by have := lastBit_natCast_le small; omega⟩
    have exact : rounded n = n := by
      apply rounded_of_multiple (z := n * 2 ^ bits)
      rw [Nat.abs_cast, scale, zpow_neg, zpow_natCast]
      push_cast
      rw [mul_assoc, mul_inv_cancel₀ (by positivity), mul_one]
    have finite : |(n : Rat)| < 2 ^ 1024 := by
      rw [Nat.abs_cast]
      exact_mod_cast small.trans (Nat.pow_lt_pow_right one_lt_two (by norm_num))
    rw [round_eq (Nat.cast_ne_zero.mpr zero) (by rwa [exact]), exact]
    rfl

theorem round_of_small (positive : 0 < x) (small : x < 2 ^ 53) : round x = .finite (rounded x) := by
  have unit : (2 : Rat) ^ lastBit x ≤ 2 := by
    rcases two_zpow_lastBit_le positive with first | last
    · refine first.trans ?_
      rw [div_le_iff₀ (by positivity)]
      exact small.le.trans (by norm_num)
    · rw [last]
      exact (zpow_le_one_of_nonpos₀ one_le_two (by norm_num)).trans one_le_two
  have close : |rounded x| ≤ x + 1 := by
    have near := (abs_sub_abs_le_abs_sub (rounded x) x).trans (abs_rounded_sub_le positive)
    rw [abs_of_pos positive] at near
    linarith
  have room : x + 1 ≤ 2 ^ 54 := by linarith
  have finite : (2 : Rat) ^ 54 < 2 ^ 1024 := pow_lt_pow_right₀ one_lt_two (by norm_num)
  exact round_eq positive.ne' ((close.trans room).trans_lt finite)

theorem le_nearestEven {z : Int} (below : (z : Rat) ≤ x) : z ≤ nearestEven x := by
  have floor : z ≤ ⌊x⌋ := Int.le_floor.mpr below
  unfold nearestEven
  extract_lets rest
  split_ifs <;> omega

theorem natCast_le_rounded (small : n < 2 ^ 53) (positive : 0 < x) (below : n ≤ x) :
    n ≤ rounded x := by
  have unit : (0 : Rat) < 2 ^ lastBit x := zpow_pos two_pos _
  rw [rounded, abs_of_pos positive]
  rcases le_or_gt (lastBit x) 0 with whole | coarse
  · -- integers are multiples of the last bit
    obtain ⟨bits, scale⟩ : ∃ bits : Nat, lastBit x = -bits := ⟨(-lastBit x).toNat, by omega⟩
    have inverse : (2 : Rat) ^ bits * 2 ^ lastBit x = 1 := by
      rw [scale, zpow_neg, zpow_natCast, mul_inv_cancel₀ (by positivity)]
    have least : (n * 2 ^ bits : Int) ≤ nearestEven (x / 2 ^ lastBit x) := by
      apply le_nearestEven
      rw [le_div_iff₀ unit]
      push_cast
      rwa [mul_assoc, inverse, mul_one]
    calc (n : Rat) = (n * 2 ^ bits : Int) * 2 ^ lastBit x := by
          push_cast
          rw [mul_assoc, inverse, mul_one]
      _ ≤ _ := mul_le_mul_of_nonneg_right (by exact_mod_cast least) unit.le
  · have leading : (2 : Rat) ^ lastBit x ≤ x / 2 ^ 52 := by
      rcases two_zpow_lastBit_le positive with first | last
      · exact first
      · omega
    have least : (2 ^ 52 : Int) ≤ nearestEven (x / 2 ^ lastBit x) := by
      apply le_nearestEven
      rw [le_div_iff₀ unit]
      push_cast
      rwa [mul_comm, ← le_div_iff₀ (by positivity)]
    have two_le : (2 : Rat) ≤ 2 ^ lastBit x := by
      calc (2 : Rat) = 2 ^ (1 : Int) := (zpow_one 2).symm
        _ ≤ 2 ^ lastBit x := zpow_le_zpow_right₀ one_le_two coarse
    calc (n : Rat) ≤ 2 ^ 53 := by exact_mod_cast small.le
      _ = 2 ^ 52 * 2 := by norm_num
      _ ≤ (nearestEven (x / 2 ^ lastBit x)) * 2 ^ lastBit x :=
        mul_le_mul (by exact_mod_cast least) two_le two_pos.le (by exact_mod_cast (by omega))

theorem natCast_le_round (small : n < 2 ^ 53) (positive : 0 < x) (below : n ≤ x) :
    round x = .infinite false ∨ ∃ y : Rat, round x = .finite y ∧ n ≤ y := by
  by_cases finite : |rounded x| < 2 ^ 1024
  · exact .inr ⟨rounded x, round_eq positive.ne' finite, natCast_le_rounded small positive below⟩
  · left
    unfold round
    rw [if_neg positive.ne']
    refine (if_pos (not_lt.mp finite)).trans ?_
    rw [decide_eq_false positive.not_gt]

/-! ## Quotients -/

section Quotients
variable {total count : Nat}

/-- The rounding of a quotient is less than the distance of a fraction to an integer. -/
theorem abs_rounded_div_sub_lt (filled : 0 < total) (small : total < 2 ^ 53) (positive : 0 < count)
    (few : count ≤ 2 ^ 53) : |rounded (total / count) - total / count| < 1 / (count : Rat) := by
  have total_pos : (0 : Rat) < total := by exact_mod_cast filled
  have count_pos : (0 : Rat) < count := by exact_mod_cast positive
  have small : (total : Rat) < 2 ^ 53 := by exact_mod_cast small
  have few : (count : Rat) ≤ 2 ^ 53 := by exact_mod_cast few
  have quotient : (0 : Rat) < total / count := div_pos total_pos count_pos
  refine (abs_rounded_sub_le quotient).trans_lt ?_
  rcases two_zpow_lastBit_le quotient with first | last
  · calc (2 : Rat) ^ lastBit (total / count) / 2
        ≤ total / count / 2 ^ 52 / 2 := div_le_div_of_nonneg_right first two_pos.le
      _ = total / 2 ^ 53 / count := by ring
      _ < 1 / count := div_lt_div_of_pos_right ((div_lt_one (by positivity)).mpr small) count_pos
  · rw [last]
    calc (2 : Rat) ^ (-1074 : Int) / 2
        < 2 ^ (-1074 : Int) := half_lt_self (by positivity)
      _ ≤ 2 ^ (-53 : Int) := zpow_le_zpow_right₀ one_le_two (by norm_num)
      _ = 1 / 2 ^ 53 := by rw [zpow_neg, one_div]; rfl
      _ ≤ 1 / count := one_div_le_one_div_of_le count_pos few

theorem ceil_eq_of_near {y gap : Rat} {z : Int} (above : z + gap ≤ x) (below : x + gap ≤ z + 1)
    (near : |y - x| < gap) : ⌈y⌉ = ⌈x⌉ := by
  obtain ⟨lower, upper⟩ := abs_lt.mp near
  have ceil {w : Rat} (more : z < w) (most : w ≤ z + 1) : ⌈w⌉ = z + 1 := by
    rw [Int.ceil_eq_iff]
    push_cast
    exact ⟨by linarith, most⟩
  rw [ceil (by linarith) (by linarith), ceil (by linarith) (by linarith)]

theorem ceil_round_div (small : total < 2 ^ 53) (positive : 0 < count) (few : count ≤ 2 ^ 53) :
    (round (total / count)).ceil = .finite ⌈(total : Rat) / count⌉ := by
  have count_pos : (0 : Rat) < count := by exact_mod_cast positive
  obtain ⟨quotient, rest, less, rfl⟩ : ∃ quotient rest, rest < count ∧ total = count * quotient + rest :=
    ⟨total / count, total % count, Nat.mod_lt total positive, (Nat.div_add_mod total count).symm⟩
  have split : ((count * quotient + rest : Nat) : Rat) / count = quotient + rest / count := by
    push_cast
    rw [add_div, mul_div_cancel_left₀ _ count_pos.ne']
  by_cases whole : rest = 0
  · have exact : ((count * quotient + rest : Nat) : Rat) / count = quotient := by
      rw [split, whole, Nat.cast_zero, zero_div, add_zero]
    have bound : quotient ≤ count * quotient + rest :=
      (Nat.le_mul_of_pos_left quotient positive).trans (Nat.le_add_right _ _)
    rw [exact, round_ofNat (bound.trans_lt small)]
    rfl
  · have filled : 0 < count * quotient + rest := by omega
    have near := abs_rounded_div_sub_lt filled small positive few
    have bound : ((count * quotient + rest : Nat) : Rat) / count < 2 ^ 53 := by
      refine (div_le_self (Nat.cast_nonneg _) (by exact_mod_cast positive)).trans_lt ?_
      exact_mod_cast small
    have one_le : 1 / (count : Rat) ≤ rest / count :=
      div_le_div_of_nonneg_right (by exact_mod_cast Nat.pos_of_ne_zero whole) count_pos.le
    have rest_le : (rest : Rat) / count + 1 / count ≤ 1 := by
      rw [← add_div, div_le_one count_pos]
      exact_mod_cast less
    rw [round_of_small (div_pos (by exact_mod_cast filled) count_pos) bound]
    apply congrArg JsInteger.finite
    apply ceil_eq_of_near (z := quotient) ?_ ?_ near
    · rw [split, Int.cast_natCast]
      linarith
    · rw [split, Int.cast_natCast]
      linarith

end Quotients

end Kanaka.Backend.JsNumber
