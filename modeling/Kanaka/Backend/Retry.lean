import Kanaka.Backend.JsNumber

/-! # `retry.decorator.ts` -/

namespace Kanaka.Backend

/-- An option that is left out is `none`. Errors are told apart by the classes in `τ`. -/
structure RetryOptions (ε τ : Type) where
  maxRetries : Option Nat := none
  retryDelay : Option JsNumber := none
  exponentialBackoff : Option Bool := none
  maxDelay : Option JsNumber := none
  retryOnErrors : Option (List τ) := none
  doNotRetryOnErrors : Option (List τ) := none
  shouldRetry : Option (ε → Nat → Bool) := none

namespace Retry

structure Required (ε τ : Type) where
  maxRetries : Nat
  retryDelay : JsNumber
  exponentialBackoff : Bool
  maxDelay : JsNumber
  retryOnErrors : List τ
  doNotRetryOnErrors : List τ
  shouldRetry : ε → Nat → Bool

/-- What the language answers about thrown values. `errorMessage` is
`error instanceof Error ? error.message : String(error)`, as a text, or what that throws. -/
structure Errors (ε τ : Type) where
  instanceOf : ε → τ → Bool
  errorMessage : ε → Except ε String
  unknownError : ε

inductive Event (ε : Type) where
  | invoke
  | onRetry (error : ε) (attempt : Nat)
  | wait (delay : JsNumber)
deriving DecidableEq

variable {ε τ α : Type}

def defaultOptions : Required ε τ where
  maxRetries := 3
  retryDelay := .finite 1000
  exponentialBackoff := true
  maxDelay := .finite 30000
  retryOnErrors := []
  doNotRetryOnErrors := []
  shouldRetry := fun _ _ => true

def withDefaults (options : RetryOptions ε τ) : Required ε τ :=
  let defaults : Required ε τ := defaultOptions
  { maxRetries := options.maxRetries.getD defaults.maxRetries
    retryDelay := options.retryDelay.getD defaults.retryDelay
    exponentialBackoff := options.exponentialBackoff.getD defaults.exponentialBackoff
    maxDelay := options.maxDelay.getD defaults.maxDelay
    retryOnErrors := options.retryOnErrors.getD defaults.retryOnErrors
    doNotRetryOnErrors := options.doNotRetryOnErrors.getD defaults.doNotRetryOnErrors
    shouldRetry := options.shouldRetry.getD defaults.shouldRetry }

/-- The time after which `setTimeout` calls back. Node.js drops the fraction, and takes 1 for what is
less than 1, more than 2147483647, or no number. -/
def timeout : JsNumber → JsNumber
  | .finite delay => if 1 ≤ delay ∧ delay ≤ 2147483647 then .finite ⌊delay⌋ else .finite 1
  | .infinite _ | .nan => .finite 1

section Method
variable (errors : Errors ε τ) (opts : Required ε τ)

def shouldNotRetry (error : ε) : Bool :=
  (opts.doNotRetryOnErrors.length > 0 && opts.doNotRetryOnErrors.any (errors.instanceOf error)) ||
    (opts.retryOnErrors.length > 0 && !opts.retryOnErrors.any (errors.instanceOf error))

def delay (attempt : Nat) : JsNumber :=
  if opts.exponentialBackoff then
    (opts.retryDelay.mul (.powTwo (attempt - 1))).min opts.maxDelay
  else opts.retryDelay

/-- The `catch` block: what is done before the next attempt, or what is thrown. The message is
made for the log. -/
def caught (error : ε) (attempt : Nat) : Except ε (List (Event ε)) :=
  -- Check if we've reached the maximum number of retries
  if attempt > opts.maxRetries then do
    let _ ← errors.errorMessage error
    throw error
  else if shouldNotRetry errors opts error || !opts.shouldRetry error attempt then do
    let _ ← errors.errorMessage error
    throw error
  else do
    let _ ← errors.errorMessage error
    return [.onRetry error attempt, .wait (timeout (delay opts attempt))]

/-- The `while` loop, for a method whose calls end as `outcome` tells, the first one as
`outcome 1`. -/
def loop (outcome : Nat → Except ε α) (attempt : Nat) (lastError : ε) :
    List (Event ε) × Except ε α :=
  if attempt ≤ opts.maxRetries then
    match outcome (attempt + 1) with
    | .ok value => ([.invoke], .ok value)
    | .error error =>
        match caught errors opts error (attempt + 1) with
        | .error thrown => ([.invoke], .error thrown)
        | .ok events =>
            let rest := loop outcome (attempt + 1) error
            (.invoke :: events ++ rest.1, rest.2)
  else ([], .error lastError)
termination_by opts.maxRetries + 1 - attempt

end Method

/-- The decorated method: what it does, and how it ends. -/
def retry (errors : Errors ε τ) (options : RetryOptions ε τ) (outcome : Nat → Except ε α) :
    List (Event ε) × Except ε α :=
  loop errors (withDefaults options) outcome 0 errors.unknownError

end Retry

end Kanaka.Backend
