import Mathlib.Logic.Function.Basic

/-!
# `circuit-breaker.service.ts` and `circuit-breaker.service.fixed.ts`

`execute` has one await, the call of `fn`. What it does before and after runs without interruption,
so that a service is told by its effect on a circuit at a start, a success, a failure and a reset.
-/

namespace Kanaka.Backend

inductive CircuitState where
  | closed
  | opened
  | halfOpen
deriving DecidableEq

/-- Whether `error instanceof Error ? error.message : String(error)` is a text, or throws. -/
class Texts (ε : Type) where
  hasText : ε → Bool

export Texts (hasText)

structure Breaker (Options Circuit ε : Type) where
  initial : Options → Circuit
  enter : String → Options → Int → Circuit → Except String Unit × Circuit
  succeeded : Options → Circuit → Circuit
  failed : Options → ε → Int → Circuit → Circuit
  reset : Circuit → Circuit
  state : Circuit → CircuitState

/-! ## `circuit-breaker.service.ts` -/

namespace CircuitBreakerService
variable {ε : Type} [Texts ε]

/-- `failureTypes` are the classes by their `instanceof`. -/
structure CircuitBreakerOptions (ε : Type) where
  failureThreshold : Int
  resetTimeout : Int
  successThreshold : Int
  timeout : Int
  failureTypes : List (ε → Bool)

def defaultOptions : CircuitBreakerOptions ε where
  failureThreshold := 5
  resetTimeout := 30000
  successThreshold := 2
  timeout := 10000
  failureTypes := []

structure Circuit (ε : Type) where
  state : CircuitState
  failures : Int
  successes : Int
  lastFailure : Int
  options : CircuitBreakerOptions ε

def initial (opts : CircuitBreakerOptions ε) : Circuit ε := ⟨.closed, 0, 0, 0, opts⟩

/-- `execute` up to the call of `fn`. -/
def enter (circuitName : String) (opts : CircuitBreakerOptions ε) (now : Int)
    (circuit : Circuit ε) : Except String Unit × Circuit ε :=
  if circuit.state = .opened then
    let timeElapsed := now - circuit.lastFailure
    if timeElapsed < opts.resetTimeout then
      (.error ("Circuit " ++ circuitName ++ " is open"), circuit)
    else
      -- Transition to half-open state
      (.ok (), { circuit with state := .halfOpen, successes := 0 })
  else (.ok (), circuit)

/-- `execute` after `fn` succeeded. -/
def succeeded (opts : CircuitBreakerOptions ε) (circuit : Circuit ε) : Circuit ε :=
  if circuit.state = .halfOpen then
    let circuit := { circuit with successes := circuit.successes + 1 }
    if opts.successThreshold ≤ circuit.successes then
      { circuit with state := .closed, failures := 0, successes := 0 }
    else circuit
  else if circuit.state = .closed then
    -- Reset failures on success in closed state
    { circuit with failures := 0 }
  else circuit

def isFailureType (opts : CircuitBreakerOptions ε) (error : ε) : Bool :=
  opts.failureTypes.length = 0 || opts.failureTypes.any fun errorType => errorType error

/-- `execute` after `fn` failed or timed out. -/
def failed (opts : CircuitBreakerOptions ε) (error : ε) (now : Int) (circuit : Circuit ε) :
    Circuit ε :=
  if isFailureType opts error then
    let circuit := { circuit with failures := circuit.failures + 1, lastFailure := now }
    -- the message for the log may throw
    if hasText error = false then circuit
    -- Check if we should open the circuit
    else if opts.failureThreshold ≤ circuit.failures then { circuit with state := .opened }
    else circuit
  else circuit

def resetCircuit (circuit : Circuit ε) : Circuit ε :=
  { circuit with state := .closed, failures := 0, successes := 0 }

def service : Breaker (CircuitBreakerOptions ε) (Circuit ε) ε where
  initial := initial
  enter := enter
  succeeded := succeeded
  failed := failed
  reset := resetCircuit
  state := Circuit.state

end CircuitBreakerService

/-! ## `circuit-breaker.service.fixed.ts` -/

namespace CircuitBreakerServiceFixed
variable {ε : Type} [Texts ε]

structure CircuitBreakerOptions where
  failureThreshold : Int
  resetTimeout : Int
  successThreshold : Int
  timeout : Int
  persistent : Bool

structure Circuit where
  state : CircuitState
  failures : Int
  successes : Int
  lastFailure : Int
  options : CircuitBreakerOptions

def initial (opts : CircuitBreakerOptions) : Circuit := ⟨.closed, 0, 0, 0, opts⟩

def enter (circuitName : String) (opts : CircuitBreakerOptions) (now : Int) (circuit : Circuit) :
    Except String Unit × Circuit :=
  if circuit.state = .opened then
    let timeElapsed := now - circuit.lastFailure
    if timeElapsed < opts.resetTimeout then
      (.error ("Circuit " ++ circuitName ++ " is open"), circuit)
    else
      -- Transition to half-open state
      (.ok (), { circuit with state := .halfOpen, successes := 0 })
  else (.ok (), circuit)

def handleSuccess (circuit : Circuit) : Circuit :=
  if circuit.state = .halfOpen then
    let circuit := { circuit with successes := circuit.successes + 1 }
    if circuit.options.successThreshold ≤ circuit.successes then
      { circuit with state := .closed, failures := 0, successes := 0 }
    else circuit
  else if circuit.state = .closed then
    -- Reset failures on success in closed state
    { circuit with failures := 0 }
  else circuit

def handleFailure (error : ε) (now : Int) (circuit : Circuit) : Circuit :=
  let circuit := { circuit with failures := circuit.failures + 1, lastFailure := now }
  -- the message for the log may throw
  if hasText error = false then circuit
  else if circuit.state = .halfOpen ∨
      circuit.state = .closed ∧ circuit.options.failureThreshold ≤ circuit.failures then
    { circuit with state := .opened, successes := 0 }
  else circuit

def resetCircuit (circuit : Circuit) : Circuit :=
  { circuit with state := .closed, failures := 0, successes := 0 }

def service : Breaker CircuitBreakerOptions Circuit ε where
  initial := initial
  enter := enter
  succeeded := fun _ => handleSuccess
  failed := fun _ => handleFailure
  reset := resetCircuit
  state := Circuit.state

end CircuitBreakerServiceFixed

/-! ## Runs -/

inductive Outcome (ε : Type) where
  | success
  | failure (error : ε)

/-- `execute` throws at once when the circuit is open; else it waits for `fn` until it settles. -/
inductive Phase (ε : Type) where
  | rejected (message : String)
  | running
  | settled (outcome : Outcome ε)

structure Execution (Options ε : Type) where
  circuitName : String
  options : Options
  started : Int
  phase : Phase ε

structure Circuits (Options Circuit ε : Type) where
  circuits : String → Option Circuit
  executions : List (Execution Options ε)

inductive BreakerEvent (Options ε : Type) where
  | execute (circuitName : String) (options : Options) (now : Int)
  | settle (execution : Nat) (outcome : Outcome ε) (now : Int)
  | resetCircuit (circuitName : String)

namespace Breaker
variable {Options Circuit ε : Type} (B : Breaker Options Circuit ε)

def settle (options : Options) (now : Int) : Outcome ε → Circuit → Circuit
  | .success => B.succeeded options
  | .failure error => B.failed options error now

def circuit (options : Options) (existing : Option Circuit) : Circuit :=
  existing.getD (B.initial options)

def step (s : Circuits Options Circuit ε) : BreakerEvent Options ε → Circuits Options Circuit ε
  | .execute circuitName options now =>
      let entered := B.enter circuitName options now (B.circuit options (s.circuits circuitName))
      { circuits := Function.update s.circuits circuitName (some entered.2)
        executions := s.executions ++ [⟨circuitName, options, now,
          match entered.1 with
          | .ok () => .running
          | .error message => .rejected message⟩] }
  | .settle execution outcome now =>
      match s.executions[execution]? with
      | some ⟨circuitName, options, started, .running⟩ =>
          { circuits := Function.update s.circuits circuitName
              ((s.circuits circuitName).map (B.settle options now outcome))
            executions := s.executions.set execution
              ⟨circuitName, options, started, .settled outcome⟩ }
      | _ => s
  | .resetCircuit circuitName =>
      { s with
        circuits := Function.update s.circuits circuitName
          ((s.circuits circuitName).map B.reset) }

def run (events : List (BreakerEvent Options ε)) : Circuits Options Circuit ε :=
  events.foldl B.step ⟨fun _ => none, []⟩

def getCircuitState (s : Circuits Options Circuit ε) (circuitName : String) : Option CircuitState :=
  (s.circuits circuitName).map B.state

end Breaker

end Kanaka.Backend
