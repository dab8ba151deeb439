import Kanaka.Backend.StrategyRegistryController

/-! # What is told about a deposit that the contract refuses -/

namespace Kanaka.Backend.StrategyRegistryController
open StrategyRegistryService Contracts

/-! ## The conditions of the contract -/

def amountOf (amount : String) : U256 := BitVec.ofNat 256 (bigInt amount)

inductive Condition where
  | active
  | minDeposit
  | maxCapacity

def Condition.Holds (pool : Contracts.Pool) (amount : U256) : Condition → Prop
  | .active => pool.active = true
  | .minDeposit => pool.minDeposit ≤ amount
  | .maxCapacity => amount ≤ pool.maxCapacity

def Condition.reason (pool : Contracts.Pool) : Condition → String
  | .active => "Pool is not active"
  | .minDeposit => "Amount is below minimum deposit of " ++ toString pool.minDeposit.toNat
  | .maxCapacity => "Amount exceeds maximum capacity of " ++ toString pool.maxCapacity.toNat

def accepts (pool : Contracts.Pool) (amount : U256) : Bool :=
  pool.active && decide (pool.minDeposit ≤ amount) && decide (amount ≤ pool.maxCapacity)

theorem accepts_iff {pool : Contracts.Pool} {amount : U256} :
    accepts pool amount = true ↔ ∀ condition : Condition, condition.Holds pool amount := by
  unfold accepts
  rw [Bool.and_eq_true, Bool.and_eq_true, decide_eq_true_eq, decide_eq_true_eq]
  constructor
  · rintro ⟨⟨active, minimum⟩, maximum⟩ condition
    cases condition with
    | active => exact active
    | minDeposit => exact minimum
    | maxCapacity => exact maximum
  · intro all
    exact ⟨⟨all .active, all .minDeposit⟩, all .maxCapacity⟩

def refusal (pool : Contracts.Pool) (amount : U256) : Option Condition :=
  if amount < pool.minDeposit then some .minDeposit
  else if pool.maxCapacity ≠ 0 ∧ pool.maxCapacity < amount then some .maxCapacity
  else if ¬ pool.active then some .active
  else none

theorem refusal_fails {pool : Contracts.Pool} {amount : U256} {condition : Condition}
    (refused : refusal pool amount = some condition) : ¬ condition.Holds pool amount := by
  unfold refusal at refused
  split at refused
  · rename_i below
    cases refused
    exact BitVec.not_le.mpr below
  · split at refused
    · rename_i beyond
      cases refused
      exact BitVec.not_le.mpr beyond.2
    · split at refused
      · rename_i inactive
        cases refused
        exact inactive
      · cases refused

theorem refusal_eq_none_iff {pool : Contracts.Pool} {amount : U256} : refusal pool amount = none ↔
    pool.active = true ∧ pool.minDeposit ≤ amount ∧ (pool.maxCapacity ≠ 0 → amount ≤ pool.maxCapacity) := by
  unfold refusal
  split
  · rename_i below
    exact iff_of_false (by simp) fun holds => BitVec.not_le.mpr below holds.2.1
  · rename_i minimum
    split
    · rename_i beyond
      exact iff_of_false (by simp) fun holds => BitVec.not_le.mpr beyond.2 (holds.2.2 beyond.1)
    · rename_i within
      have maximum (limited : pool.maxCapacity ≠ 0) : amount ≤ pool.maxCapacity :=
        BitVec.not_lt.mp fun more => within ⟨limited, more⟩
      split
      · rename_i inactive
        exact iff_of_false (by simp) fun holds => inactive holds.1
      · rename_i active
        exact iff_of_true rfl ⟨not_not.mp active, BitVec.not_lt.mp minimum, maximum⟩

theorem unexplained_iff {pool : Contracts.Pool} {amount : U256} :
    accepts pool amount = false ∧ refusal pool amount = none ↔
      pool.active = true ∧ pool.minDeposit ≤ amount ∧ pool.maxCapacity = 0 ∧ 0 < amount := by
  constructor
  · rintro ⟨refused, unexplained⟩
    obtain ⟨active, minimum, maximum⟩ := refusal_eq_none_iff.mp unexplained
    have beyond : ¬ amount ≤ pool.maxCapacity := by
      intro within
      have accepted : accepts pool amount = true := by simp [accepts, active, minimum, within]
      rw [refused] at accepted
      cases accepted
    have unlimited : pool.maxCapacity = 0 := of_not_not fun limited => beyond (maximum limited)
    rw [unlimited] at beyond
    exact ⟨active, minimum, unlimited, BitVec.not_le.mp beyond⟩
  · rintro ⟨active, minimum, unlimited, positive⟩
    constructor
    · rw [Bool.eq_false_iff, ne_eq, accepts_iff]
      intro all
      have within : amount ≤ pool.maxCapacity := all .maxCapacity
      rw [unlimited] at within
      exact BitVec.not_le.mpr positive within
    · exact refusal_eq_none_iff.mpr ⟨active, minimum, fun limited => absurd unlimited limited⟩

/-! ## The texts of the controller -/

def viewOf (pool : Contracts.Pool) : PoolView :=
  ⟨pool.token, pool.strategy, pool.active, toString pool.minDeposit.toNat, toString pool.maxCapacity.toNat⟩

theorem lt_amountOf {amount : String} (fits : bigInt amount < 2 ^ 256) (limit : U256) :
    bigInt amount < limit.toNat ↔ amountOf amount < limit := by
  rw [BitVec.lt_def, amountOf, BitVec.toNat_ofNat, Nat.mod_eq_of_lt fits]

theorem amountOf_lt {amount : String} (fits : bigInt amount < 2 ^ 256) (limit : U256) :
    limit.toNat < bigInt amount ↔ limit < amountOf amount := by
  rw [BitVec.lt_def, amountOf, BitVec.toNat_ofNat, Nat.mod_eq_of_lt fits]

theorem toString_ne_zero_iff (limit : U256) : toString limit.toNat ≠ "0" ↔ limit ≠ 0 := by
  have zero : toString limit.toNat = "0" ↔ limit = 0 := by
    constructor
    · exact fun same => BitVec.toNat_inj.mp (toString_inj (m := 0) same)
    · rintro rfl
      rfl
  exact not_congr zero

theorem invalidReason_viewOf {amount : String} (fits : bigInt amount < 2 ^ 256) (pool : Contracts.Pool) :
    invalidReason (viewOf pool) amount = (refusal pool (amountOf amount)).map (·.reason pool) := by
  unfold invalidReason refusal viewOf
  dsimp only
  rw [bigInt_toString, bigInt_toString]
  simp only [lt_amountOf fits, amountOf_lt fits, toString_ne_zero_iff]
  split
  · rfl
  · split
    · rfl
    · split <;> rfl

/-! ## The contract behind the chain -/

def Views (s : StrategyRegistry.State) (message : IStrategyRegistry) (reply : Contracts.Reply) : Prop :=
  ∀ self caller, (StrategyRegistry.entry self caller (.strategyRegistry message) :
    Entry StrategyRegistry.State Contracts.Reply).run s = .done reply s

theorem views_getPool (s : StrategyRegistry.State) (poolId : Felt252) :
    Views s (.getPool poolId) (.pool (s.pools poolId)) := fun _ _ => rfl

theorem views_isValidDeposit (s : StrategyRegistry.State) (poolId : Felt252) (amount : U256) :
    Views s (.isValidDeposit poolId amount) (.bool (accepts (s.pools poolId) amount)) := fun _ _ => rfl

theorem views_unique {s : StrategyRegistry.State} {message : IStrategyRegistry}
    {reply other : Contracts.Reply} (first : Views s message reply) (second : Views s message other) :
    reply = other := by
  have same := (first 0 0).symm.trans (second 0 0)
  rw [Machine.Program.done.injEq] at same
  exact same.1

structure Serves (chain : Chain) (s : StrategyRegistry.State) (text : String) (poolId : Felt252) : Prop where
  getPool : ∀ pool, Views s (.getPool poolId) (.pool pool) → chain.getPool text = .ok pool
  isValidDeposit : ∀ amount valid, isDigits amount = true → bigInt amount < 2 ^ 256 →
    Views s (.isValidDeposit poolId (amountOf amount)) (.bool valid) →
      chain.isValidDeposit text amount = .ok valid

section Explained
variable {chain : Chain} {s : StrategyRegistry.State} {text amount : String} {poolId : Felt252}

theorem isValidDeposit_served (serves : Serves chain s text poolId) (digits : isDigits amount = true)
    (fits : bigInt amount < 2 ^ 256) : isValidDeposit chain text amount =
      .ok ⟨accepts (s.pools poolId) (amountOf amount),
        if accepts (s.pools poolId) (amountOf amount) then none
        else (refusal (s.pools poolId) (amountOf amount)).map (·.reason (s.pools poolId))⟩ := by
  have pool : StrategyRegistryService.getPool chain text = .ok (viewOf (s.pools poolId)) := by
    rw [StrategyRegistryService.getPool, serves.getPool _ (views_getPool s poolId)]
    rfl
  have valid : StrategyRegistryService.isValidDeposit chain text amount =
      .ok (accepts (s.pools poolId) (amountOf amount)) :=
    serves.isValidDeposit amount _ digits fits (views_isValidDeposit s poolId _)
  unfold isValidDeposit
  rw [pool, ← invalidReason_viewOf fits]
  dsimp only
  rw [if_neg (not_not.mpr digits), valid]

/-- There is a reason if and only if the contract refuses, and it names a condition that fails. -/
def Explained (chain : Chain) (s : StrategyRegistry.State) (text : String) (poolId : Felt252)
    (amount : String) : Prop :=
  ∃ validity valid, isValidDeposit chain text amount = .ok validity ∧
    Views s (.isValidDeposit poolId (amountOf amount)) (.bool valid) ∧
    (validity.reason ≠ none ↔ valid = false) ∧
    ∀ reason, validity.reason = some reason → ∃ condition : Condition,
      reason = condition.reason (s.pools poolId) ∧ ¬ condition.Holds (s.pools poolId) (amountOf amount)

/-- Only a capacity of zero is refused and not explained. -/
theorem deposit_explained_iff (serves : Serves chain s text poolId) (digits : isDigits amount = true)
    (fits : bigInt amount < 2 ^ 256) : Explained chain s text poolId amount ↔
      ¬ ((s.pools poolId).active = true ∧ (s.pools poolId).minDeposit ≤ amountOf amount ∧
        (s.pools poolId).maxCapacity = 0 ∧ 0 < amountOf amount) := by
  have served := isValidDeposit_served serves digits fits
  rw [← unexplained_iff]
  constructor
  · rintro ⟨validity, valid, responded, viewed, iff, -⟩ ⟨refused, unexplained⟩
    rw [served, refused, unexplained, Except.ok.injEq] at responded
    have same := views_unique viewed (views_isValidDeposit s poolId (amountOf amount))
    rw [Contracts.Reply.bool.injEq, refused] at same
    subst responded
    exact iff.mpr same rfl
  · intro explained
    refine ⟨_, _, served, views_isValidDeposit s poolId (amountOf amount), ?_, ?_⟩
    · cases accepted : accepts (s.pools poolId) (amountOf amount) with
      | true => simp
      | false =>
          have told : refusal (s.pools poolId) (amountOf amount) ≠ none :=
            fun unexplained => explained ⟨accepted, unexplained⟩
          simpa using told
    · intro reason told
      dsimp only at told
      split at told
      · cases told
      · obtain ⟨condition, refused, rfl⟩ := Option.map_eq_some_iff.mp told
        exact ⟨condition, rfl, refusal_fails refused⟩

end Explained

/-! ## A pool without capacity -/

def feltOf (text : String) : Felt252 := Fin.ofNat fieldPrime (bigInt text)

def chainOf (s : StrategyRegistry.State) : Chain where
  getPool text := .ok (s.pools (feltOf text))
  isValidDeposit text amount := .ok (accepts (s.pools (feltOf text)) (amountOf amount))

theorem feltOf_idText (poolId : Felt252) : feltOf (idText poolId) = poolId := by
  rw [feltOf, idText, bigInt_toString]
  exact Fin.ext (Nat.mod_eq_of_lt poolId.isLt)

theorem serves_chainOf (s : StrategyRegistry.State) (poolId : Felt252) :
    Serves (chainOf s) s (idText poolId) poolId := by
  constructor
  · intro pool viewed
    have same := views_unique viewed (views_getPool s poolId)
    rw [Contracts.Reply.pool.injEq] at same
    simp only [chainOf, feltOf_idText, same]
  · intro amount valid digits fits viewed
    have same := views_unique viewed (views_isValidDeposit s poolId (amountOf amount))
    rw [Contracts.Reply.bool.injEq] at same
    simp only [chainOf, feltOf_idText, same]

def emptyPool : StrategyRegistry.State :=
  (StrategyRegistry.constructor 1 2 3).writePools 0 ⟨10, 11, true, 5, 0⟩

theorem explained_below : Explained (chainOf emptyPool) emptyPool (idText 0) 0 "4" ↔
    ¬ ((emptyPool.pools 0).active = true ∧ (emptyPool.pools 0).minDeposit ≤ amountOf "4" ∧
      (emptyPool.pools 0).maxCapacity = 0 ∧ 0 < amountOf "4") :=
  deposit_explained_iff (serves_chainOf emptyPool 0) (by decide +kernel) (by decide +kernel)

theorem refused_without_reason :
    isValidDeposit (chainOf emptyPool) (idText 0) "10" = .ok ⟨false, none⟩ ∧
    ¬ Explained (chainOf emptyPool) emptyPool (idText 0) 0 "10" := by
  have refused : isValidDeposit (chainOf emptyPool) (idText 0) "10" = .ok ⟨false, none⟩ := by
    decide +kernel
  refine ⟨refused, ?_⟩
  rintro ⟨validity, valid, responded, viewed, iff, -⟩
  rw [refused, Except.ok.injEq] at responded
  subst responded
  have same := views_unique viewed (views_isValidDeposit emptyPool 0 (amountOf "10"))
  rw [Contracts.Reply.bool.injEq, show accepts (emptyPool.pools 0) (amountOf "10") = false by
    decide +kernel] at same
  exact iff.mpr same rfl

end Kanaka.Backend.StrategyRegistryController
