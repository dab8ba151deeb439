import Mathlib.Order.Nat
import Kanaka.Backend.Retry
import Kanaka.Proof.Backend.Doubles

/-! # How a retried method runs -/

namespace Kanaka.Backend.Retry

variable {ε τ α : Type} {errors : Errors ε τ} {opts : Required ε τ} {outcome : Nat → Except ε α}

/-! ## The specification -/

def Retryable (errors : Errors ε τ) (opts : Required ε τ) (error : ε) (attempt : Nat) : Prop :=
  (∀ type ∈ opts.doNotRetryOnErrors, errors.instanceOf error type = false) ∧
    (opts.retryOnErrors = [] ∨ ∃ type ∈ opts.retryOnErrors, errors.instanceOf error type = true) ∧
      opts.shouldRetry error attempt = true

def Stops (errors : Errors ε τ) (opts : Required ε τ) (outcome : Nat → Except ε α) (call : Nat) :
    Prop :=
  (∃ value, outcome call = .ok value) ∨ call = opts.maxRetries + 1 ∨
    ∃ error, outcome call = .error error ∧ ¬Retryable errors opts error call

def doubled : JsNumber → Nat → JsNumber
  | .finite x, times => .finite (x * 2 ^ times)
  | x, _ => x

/-- The wait that is asked for after the error of a call. -/
def wanted (opts : Required ε τ) (call : Nat) : JsNumber :=
  if opts.exponentialBackoff then (doubled opts.retryDelay (call - 1)).min opts.maxDelay
  else opts.retryDelay

def retried (waits : Nat → JsNumber) (outcome : Nat → Except ε α) (call : Nat) : List (Event ε) :=
  match outcome call with
  | .error error => [.invoke, .onRetry error call, .wait (waits call)]
  | .ok _ => []

def trace (waits : Nat → JsNumber) (outcome : Nat → Except ε α) (last : Nat) : List (Event ε) :=
  (List.range (last - 1)).flatMap (fun i => retried waits outcome (i + 1)) ++ [.invoke]

/-- The errors up to the last one have messages, or what is thrown instead is the last one. -/
def Told (errors : Errors ε τ) (outcome : Nat → Except ε α) (last : Nat) : Prop :=
  (∀ call error, 1 ≤ call → call < last → outcome call = .error error →
      ∃ message, errors.errorMessage error = .ok message) ∧
    ∀ error thrown, outcome last = .error error → errors.errorMessage error = .error thrown →
      thrown = error

/-- A timer can be set for this time exactly. -/
def Waitable (delay : JsNumber) : Prop :=
  ∃ ms : Nat, 1 ≤ ms ∧ ms ≤ 2147483647 ∧ delay = .finite ms

/-! ## The waits -/

theorem waitable_timeout (delay : JsNumber) : Waitable (timeout delay) := by
  have one : Waitable (.finite 1) := ⟨1, le_refl 1, by omega, congrArg JsNumber.finite Nat.cast_one.symm⟩
  cases delay with
  | finite delay =>
      simp only [timeout]
      split_ifs with range
      · obtain ⟨least, most⟩ := range
        have floor_least : 1 ≤ ⌊delay⌋ := Int.le_floor.mpr (by exact_mod_cast least)
        have floor_most : ⌊delay⌋ ≤ 2147483647 := by
          exact_mod_cast (Int.floor_le delay).trans most
        refine ⟨⌊delay⌋.toNat, by omega, by omega, congrArg JsNumber.finite ?_⟩
        exact_mod_cast (Int.toNat_of_nonneg (by omega)).symm
      · exact one
  | infinite | nan => exact one

theorem timeout_of_waitable {delay : JsNumber} (waitable : Waitable delay) :
    timeout delay = delay := by
  obtain ⟨ms, least, most, rfl⟩ := waitable
  have range : (1 : Rat) ≤ ms ∧ (ms : Rat) ≤ 2147483647 :=
    ⟨by exact_mod_cast least, by exact_mod_cast most⟩
  rw [timeout, if_pos range, Int.floor_natCast, Int.cast_natCast]

section Backoff
variable {d : Rat} {k n : Nat}

theorem powTwo_eq (small : k < 53) : JsNumber.powTwo k = .finite (2 ^ k) := by
  have rounds := JsNumber.round_ofNat (Nat.pow_lt_pow_right one_lt_two small)
  rw [Nat.cast_pow, Nat.cast_ofNat] at rounds
  rw [JsNumber.powTwo, rounds, JsNumber.ofNat, Nat.cast_pow, Nat.cast_ofNat]

theorem powTwo_ge (large : 53 ≤ k) : JsNumber.powTwo k = .infinite false ∨
    ∃ p : Rat, JsNumber.powTwo k = .finite p ∧ 2 ^ 52 ≤ p := by
  have below : ((2 ^ 52 : Nat) : Rat) ≤ 2 ^ k := by
    exact_mod_cast Nat.pow_le_pow_right two_pos (by omega)
  have rounds := JsNumber.natCast_le_round (by norm_num) (by positivity) below
  rwa [Nat.cast_pow, Nat.cast_ofNat] at rounds

theorem mul_powTwo_eq (least : 1 ≤ d) (small : n < 2 ^ 53) (product : d * 2 ^ k = n) :
    (JsNumber.finite d).mul (.powTwo k) = .finite n := by
  have power : (2 : Rat) ^ k ≤ n := by
    rw [← product]
    exact le_mul_of_one_le_left (by positivity) least
  have few : k < 53 := by
    apply (Nat.pow_lt_pow_iff_right one_lt_two).mp
    exact lt_of_le_of_lt (by exact_mod_cast power) small
  rw [powTwo_eq few, JsNumber.mul, product, JsNumber.round_ofNat small]
  rfl

theorem mul_powTwo_ge (least : 1 ≤ d) (small : n < 2 ^ 52) (below : n ≤ d * 2 ^ k) :
    (JsNumber.finite d).mul (.powTwo k) = .infinite false ∨
      ∃ y : Rat, (JsNumber.finite d).mul (.powTwo k) = .finite y ∧ n ≤ y := by
  have positive : 0 < d := one_pos.trans_le least
  have bound : n < 2 ^ 53 := small.trans (by norm_num)
  rcases lt_or_ge k 53 with few | many
  · rw [powTwo_eq few]
    exact JsNumber.natCast_le_round bound (by positivity) below
  · rcases powTwo_ge many with infinite | ⟨p, finite, large⟩
    · left
      have filled : ¬(JsNumber.finite d = .finite 0 ∨ JsNumber.infinite false = .finite 0) := by
        simpa using positive.ne'
      rw [infinite]
      refine (if_neg filled).trans ?_
      rw [JsNumber.negative, JsNumber.negative, decide_eq_false positive.not_gt]
      rfl
    · have most : (n : Rat) ≤ d * p := by
        calc (n : Rat) ≤ 2 ^ 52 := by exact_mod_cast small.le
          _ ≤ p := large
          _ ≤ d * p := le_mul_of_one_le_left (by positivity) least
      rw [finite]
      exact JsNumber.natCast_le_round bound (mul_pos positive (by positivity)) most

theorem infinite_mul_powTwo : (JsNumber.infinite false).mul (.powTwo k) = .infinite false := by
  have positive : JsNumber.powTwo k = .infinite false ∨
      ∃ p : Rat, JsNumber.powTwo k = .finite p ∧ (1 : Nat) ≤ p :=
    JsNumber.natCast_le_round (by norm_num) (by positivity)
      (by rw [Nat.cast_one]; exact one_le_pow₀ one_le_two)
  rcases positive with infinite | ⟨p, finite, least⟩
  · rw [infinite]
    rfl
  · have filled : 0 < p := one_pos.trans_le (by exact_mod_cast least)
    rw [finite]
    refine (if_neg ?_).trans ?_
    · simpa using filled.ne'
    · rw [JsNumber.negative, JsNumber.negative, decide_eq_false filled.not_gt]
      rfl

theorem min_mul_of_finite {d cap : Rat} {ms ms' : Nat} (least : 1 ≤ ms) (least' : 1 ≤ ms')
    (small : ms < 2 ^ 52) (eq : (if d * 2 ^ k ≤ cap then d * 2 ^ k else cap) = ms)
    (eq' : (if d * 2 ^ 0 ≤ cap then d * 2 ^ 0 else cap) = ms') :
    ((JsNumber.finite d).mul (.powTwo k)).min (.finite cap) =
      (doubled (.finite d) k).min (.finite cap) := by
  have one_le : 1 ≤ d := by
    have start : (1 : Rat) ≤ ms' := by exact_mod_cast least'
    rw [pow_zero, mul_one] at eq'
    split_ifs at eq' with within <;> linarith
  have doubled_eq : (doubled (.finite d) k).min (.finite cap) = .finite ms :=
    congrArg JsNumber.finite eq
  rw [doubled_eq]
  split_ifs at eq with within
  · rw [mul_powTwo_eq one_le (by omega) eq, ← eq]
    exact congrArg JsNumber.finite (if_pos within)
  · have above : (ms : Rat) ≤ d * 2 ^ k := by
      rw [← eq]
      exact (not_le.mp within).le
    rw [eq]
    rcases mul_powTwo_ge one_le small above with infinite | ⟨y, finite, most⟩
    · rw [infinite]
      rfl
    · rw [finite]
      apply congrArg JsNumber.finite
      split_ifs with less
      · exact le_antisymm less most
      · rfl

theorem min_mul_powTwo {delay cap : JsNumber} (first : Waitable ((doubled delay 0).min cap))
    (waitable : Waitable ((doubled delay k).min cap)) :
    (delay.mul (.powTwo k)).min cap = (doubled delay k).min cap := by
  obtain ⟨ms, least, most, eq⟩ := waitable
  obtain ⟨ms', least', -, eq'⟩ := first
  cases delay with
  | finite d =>
      cases cap with
      | finite cap =>
          exact min_mul_of_finite least least' (by omega) (JsNumber.finite.inj eq)
            (JsNumber.finite.inj eq')
      | infinite negative =>
          cases negative with
          | true => cases eq
          | false =>
              have product : d * 2 ^ k = ms := JsNumber.finite.inj eq
              have start : d * 2 ^ 0 = ms' := JsNumber.finite.inj eq'
              rw [pow_zero, mul_one] at start
              have one_le : 1 ≤ d := by
                rw [start]
                exact_mod_cast least'
              rw [mul_powTwo_eq one_le (by omega) product, doubled, product]
      | nan => cases eq
  | infinite negative =>
      cases negative with
      | true => cases cap <;> cases eq
      | false => exact congrArg (JsNumber.min · cap) infinite_mul_powTwo
  | nan => cases cap <;> cases eq

theorem delay_eq {call : Nat} (first : Waitable (wanted opts 1)) (waitable : Waitable (wanted opts call)) :
    delay opts call = wanted opts call := by
  unfold delay
  unfold wanted at first waitable ⊢
  split
  · rename_i backoff
    rw [if_pos backoff] at first waitable
    exact min_mul_powTwo first waitable
  · rfl

end Backoff

/-! ## The catch block -/

section Catch
variable {error : ε} {attempt : Nat}

theorem shouldNotRetry_eq_false : shouldNotRetry errors opts error = false ↔
    (∀ type ∈ opts.doNotRetryOnErrors, errors.instanceOf error type = false) ∧
      (opts.retryOnErrors = [] ∨
        ∃ type ∈ opts.retryOnErrors, errors.instanceOf error type = true) := by
  unfold shouldNotRetry
  rw [Bool.or_eq_false_iff]
  apply and_congr
  · cases opts.doNotRetryOnErrors <;> simp
  · cases opts.retryOnErrors with
    | nil => simp
    | cons type types =>
        cases first : errors.instanceOf error type <;> simp [first]

theorem retryable_iff : Retryable errors opts error attempt ↔
    (shouldNotRetry errors opts error || !opts.shouldRetry error attempt) = false := by
  rw [Bool.or_eq_false_iff, Bool.not_eq_false', shouldNotRetry_eq_false, and_assoc]
  rfl

def ended (errors : Errors ε τ) : Except ε α → Except ε α
  | .ok value => .ok value
  | .error error => errors.errorMessage error >>= fun _ => .error error

@[simp] theorem ended_error : ended errors (.error error : Except ε α) =
    errors.errorMessage error >>= fun _ => .error error := rfl

theorem caught_of_stops (stops : attempt = opts.maxRetries + 1 ∨
    ¬Retryable errors opts error attempt) :
    caught errors opts error attempt = errors.errorMessage error >>= fun _ => .error error := by
  unfold caught
  split
  · rfl
  · rename_i more
    have unretryable := stops.resolve_left (by omega)
    rw [retryable_iff, Bool.not_eq_false] at unretryable
    rw [if_pos unretryable]
    rfl

theorem caught_of_retryable (more : attempt ≤ opts.maxRetries)
    (retryable : Retryable errors opts error attempt) :
    caught errors opts error attempt = errors.errorMessage error >>= fun _ =>
      .ok [.onRetry error attempt, .wait (timeout (delay opts attempt))] := by
  unfold caught
  rw [if_neg (not_lt.mpr more), retryable_iff.mp retryable]
  rfl

theorem caught_of_untold {thrown : ε} (untold : errors.errorMessage error = .error thrown) :
    caught errors opts error attempt = .error thrown := by
  unfold caught
  rw [untold]
  split
  · rfl
  · split <;> rfl

end Catch

/-! ## The loop -/

section Loop
variable {attempt : Nat} {lastError error : ε}

theorem loop_of_stops (more : attempt ≤ opts.maxRetries)
    (stops : Stops errors opts outcome (attempt + 1)) :
    loop errors opts outcome attempt lastError =
      ([.invoke], ended errors (outcome (attempt + 1))) := by
  rw [loop, if_pos more]
  cases result : outcome (attempt + 1) with
  | ok value => rfl
  | error error =>
      have last : attempt + 1 = opts.maxRetries + 1 ∨ ¬Retryable errors opts error (attempt + 1) := by
        rcases stops with ⟨value, ok⟩ | last | ⟨error', failed, unretryable⟩
        · rw [result] at ok
          contradiction
        · exact .inl last
        · rw [result] at failed
          cases failed
          exact .inr unretryable
      dsimp only
      rw [caught_of_stops last]
      rw [ended_error]
      cases errors.errorMessage error <;> rfl

theorem continues (more : attempt ≤ opts.maxRetries)
    (goesOn : ¬Stops errors opts outcome (attempt + 1)) :
    attempt + 1 ≤ opts.maxRetries ∧ ∃ error, outcome (attempt + 1) = .error error ∧
      Retryable errors opts error (attempt + 1) := by
  unfold Stops at goesOn
  push Not at goesOn
  obtain ⟨failed, notLast, retryable⟩ := goesOn
  cases result : outcome (attempt + 1) with
  | ok value => exact absurd result (failed value)
  | error error => exact ⟨by omega, error, rfl, retryable error result⟩

theorem fails {call : Nat} (goesOn : ¬Stops errors opts outcome call) :
    ∃ error, outcome call = .error error := by
  cases result : outcome call with
  | ok value => exact absurd (.inl ⟨value, result⟩) goesOn
  | error error => exact ⟨error, rfl⟩

theorem loop_of_told {message : String} (more : attempt + 1 ≤ opts.maxRetries)
    (failed : outcome (attempt + 1) = .error error)
    (retryable : Retryable errors opts error (attempt + 1))
    (told : errors.errorMessage error = .ok message) :
    loop errors opts outcome attempt lastError =
      (retried (fun call => timeout (delay opts call)) outcome (attempt + 1) ++ (loop errors opts outcome (attempt + 1) error).1,
        (loop errors opts outcome (attempt + 1) error).2) := by
  rw [loop, if_pos (Nat.le_of_succ_le more), failed]
  dsimp only
  rw [caught_of_retryable more retryable, told, retried, failed]
  rfl

theorem loop_of_untold {thrown : ε} (more : attempt ≤ opts.maxRetries)
    (failed : outcome (attempt + 1) = .error error)
    (untold : errors.errorMessage error = .error thrown) :
    loop errors opts outcome attempt lastError = ([.invoke], .error thrown) := by
  rw [loop, if_pos more, failed]
  dsimp only
  rw [caught_of_untold untold]

theorem failures_succ {last : Nat} {P : Nat → ε → Prop} (failed : outcome (attempt + 1) = .error error) :
    (∀ call error, attempt < call → call < attempt + 1 + last + 1 → outcome call = .error error →
      P call error) ↔
    P (attempt + 1) error ∧ ∀ call error, attempt + 1 < call → call < attempt + 1 + last + 1 →
      outcome call = .error error → P call error := by
  constructor
  · intro all
    exact ⟨all (attempt + 1) error (by omega) (by omega) failed,
      fun call error later => all call error (by omega)⟩
  · rintro ⟨first, later⟩ call error' after before failed'
    rcases Nat.eq_or_lt_of_le (Nat.succ_le_of_lt after) with rfl | later'
    · rw [failed] at failed'
      cases failed'
      exact first
    · exact later call error' later' before failed'

theorem ended_iff {result : Except ε α} : ended errors result = result ↔
    ∀ error thrown, result = .error error → errors.errorMessage error = .error thrown →
      thrown = error := by
  cases result with
  | ok value => exact iff_of_true rfl (by simp)
  | error error =>
      rw [ended_error]
      cases told : errors.errorMessage error with
      | ok message =>
          apply iff_of_true rfl
          rintro _ _ ⟨⟩ untold
          rw [told] at untold
          cases untold
      | error thrown =>
          constructor
          · rintro same _ _ ⟨⟩ untold
            rw [told] at untold
            cases untold
            exact Except.error.inj same
          · intro same
            exact congrArg Except.error (same error thrown rfl told)

def traceFrom (waits : Nat → JsNumber) (outcome : Nat → Except ε α) (attempt : Nat) :
    Nat → List (Event ε)
  | 0 => [.invoke]
  | calls + 1 => retried waits outcome (attempt + 1) ++ traceFrom waits outcome (attempt + 1) calls

theorem retried_append_inj {waits waits' : Nat → JsNumber} {call : Nat} {rest rest' : List (Event ε)}
    (failed : outcome call = .error error) :
    retried waits outcome call ++ rest = retried waits' outcome call ++ rest' ↔
      waits call = waits' call ∧ rest = rest' := by
  simp [retried, failed]

theorem loop_iff {waits : Nat → JsNumber} (calls : Nat) (more : attempt ≤ opts.maxRetries)
    (goesOn : ∀ call, attempt < call → call < attempt + calls + 1 → ¬Stops errors opts outcome call)
    (stops : Stops errors opts outcome (attempt + calls + 1)) :
    loop errors opts outcome attempt lastError =
        (traceFrom waits outcome attempt calls, outcome (attempt + calls + 1)) ↔
      (∀ call error, attempt < call → call < attempt + calls + 1 → outcome call = .error error →
        (∃ message, errors.errorMessage error = .ok message) ∧
          timeout (delay opts call) = waits call) ∧
      ∀ error thrown, outcome (attempt + calls + 1) = .error error →
        errors.errorMessage error = .error thrown → thrown = error := by
  induction calls generalizing attempt lastError with
  | zero =>
      rw [loop_of_stops more stops, traceFrom, Prod.mk.injEq, and_iff_right rfl, Nat.add_zero, ended_iff]
      exact (and_iff_right fun call error after before => absurd before (by omega)).symm
  | succ calls ih =>
      obtain ⟨more', error, failed, retryable⟩ := continues more (goesOn _ (by omega) (by omega))
      have shift : attempt + (calls + 1) + 1 = attempt + 1 + calls + 1 := by omega
      rw [shift] at goesOn stops ⊢
      rw [failures_succ failed, and_assoc]
      cases told : errors.errorMessage error with
      | ok message =>
          have heard : ∃ m, (Except.ok message : Except ε String) = .ok m := ⟨message, rfl⟩
          rw [loop_of_told more' failed retryable told, traceFrom, Prod.mk.injEq,
            retried_append_inj failed, and_assoc, and_assoc, and_iff_right heard,
            ← @ih _ error more' (fun call after before => goesOn call (by omega) before) stops,
            Prod.ext_iff]
      | error thrown =>
          rw [loop_of_untold more failed told]
          apply iff_of_false
          · intro same
            have events : [.invoke] = traceFrom waits outcome attempt (calls + 1) :=
              congrArg Prod.fst same
            rw [traceFrom, retried, failed] at events
            cases events
          · rintro ⟨⟨⟨message, ok⟩, -⟩, -⟩
            cases ok

end Loop

/-! ## The decorated method -/

theorem traceFrom_eq {waits : Nat → JsNumber} (attempt calls : Nat) :
    traceFrom waits outcome attempt calls =
      (List.range calls).flatMap (fun i => retried waits outcome (attempt + i + 1)) ++ [.invoke] := by
  induction calls generalizing attempt with
  | zero => rfl
  | succ calls ih =>
      rw [traceFrom, ih, List.range_succ_eq_map, List.flatMap_cons, List.flatMap_map,
        List.append_assoc, Nat.add_zero]
      simp only [Nat.succ_eq_add_one, Nat.add_assoc, Nat.add_comm 1]

theorem waits_iff {last : Nat} :
    (∀ call, 1 ≤ call → call < last → timeout (delay opts call) = wanted opts call) ↔
      ∀ call, 1 ≤ call → call < last → Waitable (wanted opts call) := by
  constructor
  · intro same call after before
    rw [← same call after before]
    exact waitable_timeout _
  · intro waitable call after before
    have first := waitable 1 (le_refl 1) (by omega)
    have now := waitable call after before
    rw [delay_eq first now, timeout_of_waitable now]

theorem stops_at_maxRetries (errors : Errors ε τ) (opts : Required ε τ) (outcome : Nat → Except ε α) :
    Stops errors opts outcome (opts.maxRetries + 1) :=
  .inr (.inl rfl)

/-- The run is the one that the options ask for if and only if the errors have messages and every
wait can be waited. -/
theorem retry_iff (errors : Errors ε τ) (options : RetryOptions ε τ) (outcome : Nat → Except ε α) :
    ∃ last, IsLeast {call | 1 ≤ call ∧ Stops errors (withDefaults options) outcome call} last ∧
      (retry errors options outcome =
          (trace (wanted (withDefaults options)) outcome last, outcome last) ↔
        Told errors outcome last ∧
          ∀ call, 1 ≤ call → call < last → Waitable (wanted (withDefaults options) call)) := by
  classical
  have stopped : ∃ call, 1 ≤ call ∧ Stops errors (withDefaults options) outcome call :=
    ⟨_, Nat.le_add_left 1 _, stops_at_maxRetries errors (withDefaults options) outcome⟩
  have least := Nat.isLeast_find stopped
  refine ⟨Nat.find stopped, least, ?_⟩
  generalize Nat.find stopped = last at least
  obtain ⟨⟨positive, stops⟩, first⟩ := least
  obtain ⟨calls, rfl⟩ := Nat.exists_eq_add_of_le' positive
  have goesOn : ∀ call, 0 < call → call < 0 + calls + 1 →
      ¬Stops errors (withDefaults options) outcome call := by
    intro call after before stops'
    have later := first ⟨after, stops'⟩
    omega
  have loops := @loop_iff _ _ _ _ _ _ 0 errors.unknownError (wanted (withDefaults options)) calls
    (Nat.zero_le _) goesOn (by rwa [Nat.zero_add])
  rw [traceFrom_eq] at loops
  simp only [Nat.zero_add] at loops
  refine loops.trans ?_
  rw [← waits_iff, Told, and_right_comm]
  apply and_congr_left'
  constructor
  · intro each
    constructor
    · exact fun call error after before failed => (each call error after before failed).1
    · intro call after before
      obtain ⟨error, failed⟩ := fails (goesOn call after (by omega))
      exact (each call error after before failed).2
  · rintro ⟨told, waits⟩ call error after before failed
    exact ⟨told call error after before failed, waits call after before⟩

/-- A method may throw an `Error`, or `Object.create(null)`, which `String` does not convert. -/
inductive Rejection where
  | error (message : String)
  | nullPrototype

def rejections : Errors Rejection Unit where
  instanceOf
    | .error _, () => true
    | .nullPrototype, () => false
  errorMessage
    | .error message => .ok message
    | .nullPrototype => .error (.error "Cannot convert object to primitive value")
  unknownError := .error "Unknown error occurred"

def rejects (_ : Nat) : Except Rejection Unit := .error .nullPrototype

theorem retry_nullPrototype (options : RetryOptions Rejection Unit) :
    retry rejections options rejects =
      ([.invoke], .error (.error "Cannot convert object to primitive value")) :=
  loop_of_untold (Nat.zero_le _) rfl rfl

theorem retry_masks (options : RetryOptions Rejection Unit) : ¬∃ last,
    IsLeast {call | 1 ≤ call ∧ Stops rejections (withDefaults options) rejects call} last ∧
      retry rejections options rejects =
        (trace (wanted (withDefaults options)) rejects last, rejects last) := by
  rintro ⟨last, -, same⟩
  rw [retry_nullPrototype] at same
  cases congrArg Prod.snd same

theorem retry_masks_default : ¬∃ last, IsLeast {call | 1 ≤ call ∧
      Stops rejections (withDefaults { : RetryOptions Rejection Unit}) rejects call} last ∧
    retry rejections { : RetryOptions Rejection Unit} rejects =
      (trace (wanted (withDefaults { : RetryOptions Rejection Unit})) rejects last, rejects last) :=
  retry_masks {}

end Kanaka.Backend.Retry
