import Kanaka.Proof.Backend.Breaker.Simulation

/-! # The two circuit breaker services -/

namespace Kanaka.Backend.CircuitBreakerService
open CircuitBreakerServiceFixed

variable {ε : Type}

structure Settings where
  failureThreshold : Int
  resetTimeout : Int
  successThreshold : Int
  timeout : Int

namespace Settings
variable (settings : Settings)

def options : CircuitBreakerOptions ε where
  failureThreshold := settings.failureThreshold
  resetTimeout := settings.resetTimeout
  successThreshold := settings.successThreshold
  timeout := settings.timeout
  failureTypes := []

def fixedOptions : CircuitBreakerServiceFixed.CircuitBreakerOptions where
  failureThreshold := settings.failureThreshold
  resetTimeout := settings.resetTimeout
  successThreshold := settings.successThreshold
  timeout := settings.timeout
  persistent := false

end Settings

/-- The successes count in the half-open state only; a circuit that is not closed has had its
failures. -/
structure Agrees (settings : Settings) (circuit : Circuit ε)
    (fixed : CircuitBreakerServiceFixed.Circuit) : Prop where
  state : circuit.state = fixed.state
  failures : circuit.failures = fixed.failures
  lastFailure : circuit.lastFailure = fixed.lastFailure
  successes : circuit.state = .halfOpen → circuit.successes = fixed.successes
  failed : circuit.state ≠ .closed → settings.failureThreshold ≤ circuit.failures
  options : fixed.options = settings.fixedOptions

section Circuits
variable {settings : Settings} {circuit : Circuit ε} {fixed : CircuitBreakerServiceFixed.Circuit}

theorem Agrees.enter (agrees : Agrees settings circuit fixed) (circuitName : String) (now : Int) :
    (CircuitBreakerService.enter circuitName settings.options now circuit).1 =
      (CircuitBreakerServiceFixed.enter circuitName settings.fixedOptions now fixed).1 ∧
    Agrees settings (CircuitBreakerService.enter circuitName settings.options now circuit).2
      (CircuitBreakerServiceFixed.enter circuitName settings.fixedOptions now fixed).2 := by
  obtain ⟨state, failures, successes, lastFailure, options⟩ := circuit
  obtain ⟨_, _, successes', _, _⟩ := fixed
  obtain ⟨rfl, rfl, rfl, successes_eq, failed, rfl⟩ := agrees
  unfold CircuitBreakerService.enter CircuitBreakerServiceFixed.enter
  by_cases isOpen : state = .opened
  · subst isOpen
    by_cases early : now - lastFailure < settings.resetTimeout
    · simp only [if_true, Settings.options, Settings.fixedOptions, early]
      exact ⟨trivial, rfl, rfl, rfl, successes_eq, failed, rfl⟩
    · simp only [if_true, Settings.options, Settings.fixedOptions, early, if_false]
      exact ⟨trivial, rfl, rfl, rfl, fun _ => rfl, fun _ => failed (by simp), rfl⟩
  · simp only [isOpen, if_false]
    exact ⟨trivial, rfl, rfl, rfl, successes_eq, failed, rfl⟩

theorem Agrees.succeeded (agrees : Agrees settings circuit fixed) :
    Agrees settings (CircuitBreakerService.succeeded settings.options circuit)
      (handleSuccess fixed) := by
  obtain ⟨state, failures, successes, lastFailure, options⟩ := circuit
  obtain ⟨_, _, successes', _, _⟩ := fixed
  obtain ⟨rfl, rfl, rfl, successes_eq, failed, rfl⟩ := agrees
  unfold CircuitBreakerService.succeeded handleSuccess
  cases state with
  | closed => exact ⟨rfl, rfl, rfl, fun half => by contradiction, fun other => absurd rfl other, rfl⟩
  | opened => exact ⟨rfl, rfl, rfl, successes_eq, failed, rfl⟩
  | halfOpen =>
      obtain rfl : successes = successes' := successes_eq rfl
      by_cases enough : settings.successThreshold ≤ successes + 1
      · simp only [if_true, Settings.options, Settings.fixedOptions, enough]
        exact ⟨rfl, rfl, rfl, fun _ => rfl, fun other => absurd rfl other, rfl⟩
      · simp only [if_true, Settings.options, Settings.fixedOptions, enough, if_false]
        exact ⟨rfl, rfl, rfl, fun _ => rfl, failed, rfl⟩

variable [Texts ε]

/-- Without a text neither service opens the circuit. Otherwise one does because of its failures, the
other in the half-open state because of that state. -/
theorem Agrees.recorded (agrees : Agrees settings circuit fixed) (error : ε) (now : Int) :
    Agrees settings (CircuitBreakerService.failed settings.options error now circuit)
      (handleFailure error now fixed) := by
  obtain ⟨state, failures, successes, lastFailure, options⟩ := circuit
  obtain ⟨_, _, successes', _, _⟩ := fixed
  obtain ⟨rfl, rfl, rfl, successes_eq, failed, rfl⟩ := agrees
  have counts : isFailureType (settings.options : CircuitBreakerOptions ε) error = true := rfl
  unfold CircuitBreakerService.failed handleFailure
  rw [if_pos counts]
  by_cases silent : hasText error = false
  · rw [if_pos silent, if_pos silent]
    exact ⟨rfl, rfl, rfl, successes_eq,
      fun other => Int.le_trans (failed other) (Int.le_add_one (Int.le_refl _)), rfl⟩
  rw [if_neg silent, if_neg silent]
  by_cases many : settings.failureThreshold ≤ failures + 1
  · have opens : (settings.options : CircuitBreakerOptions ε).failureThreshold ≤ failures + 1 := many
    rw [if_pos opens]
    cases state with
    | opened =>
        rw [if_neg (by simp)]
        exact ⟨rfl, rfl, rfl, fun half => by contradiction, fun _ => many, rfl⟩
    | halfOpen =>
        rw [if_pos (.inl rfl)]
        exact ⟨rfl, rfl, rfl, fun half => by contradiction, fun _ => many, rfl⟩
    | closed =>
        rw [if_pos (.inr ⟨rfl, many⟩)]
        exact ⟨rfl, rfl, rfl, fun half => by contradiction, fun _ => many, rfl⟩
  · -- A circuit that is not closed has had its failures, so that one more does not miss the threshold.
    have isClosed : state = .closed := by
      by_contra other
      exact many (Int.le_trans (failed other) (Int.le_add_one (Int.le_refl _)))
    subst isClosed
    have stays : ¬ (settings.options : CircuitBreakerOptions ε).failureThreshold ≤ failures + 1 := many
    rw [if_neg stays, if_neg fun opens => opens.elim (by simp) fun both => many both.2]
    exact ⟨rfl, rfl, rfl, fun half => by contradiction, fun other => absurd rfl other, rfl⟩

theorem simulates (settings : Settings) (circuitName : String) :
    (service : Breaker _ _ ε).Simulates CircuitBreakerServiceFixed.service circuitName settings.options
      settings.fixedOptions (Agrees settings) where
  initial := ⟨rfl, rfl, rfl, fun _ => rfl, fun other => absurd rfl other, rfl⟩
  enter now _ _ agrees := agrees.enter circuitName now
  settle now outcome _ _ agrees := by
    cases outcome with
    | success => exact agrees.succeeded
    | failure error => exact agrees.recorded error now
  reset agrees := ⟨rfl, rfl, agrees.lastFailure, fun _ => rfl, fun other => absurd rfl other,
    agrees.options⟩
  state agrees := agrees.state

end Circuits

def settings : Settings := ⟨1, 10, 1, 5⟩

end Kanaka.Backend.CircuitBreakerService
