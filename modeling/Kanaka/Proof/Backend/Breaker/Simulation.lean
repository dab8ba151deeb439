import Kanaka.Backend.CircuitBreaker
import Mathlib.Data.List.Forall2
import Mathlib.Data.List.Induction

/-! # Two circuit breakers on the same calls -/

namespace Kanaka.Backend

variable {Options Options' Circuit Circuit' ε : Type}

section Lists
variable {α β : Type} {R : α → β → Prop} {as : List α} {bs : List β}

theorem forall₂_getElem? (related : List.Forall₂ R as bs) (i : Nat) :
    Option.Rel R as[i]? bs[i]? := by
  induction related generalizing i with
  | nil => exact .none
  | cons head _ ih =>
      cases i with
      | zero => exact .some head
      | succ i => exact ih i

theorem forall₂_set {a : α} {b : β} (related : List.Forall₂ R as bs) (i : Nat) (new : R a b) :
    List.Forall₂ R (as.set i a) (bs.set i b) := by
  induction related generalizing i with
  | nil => exact .nil
  | cons head rest ih =>
      cases i with
      | zero => exact .cons new rest
      | succ i => exact .cons head (ih i)

end Lists

/-- An `Error`, or `Object.create(null)`, which `String` does not convert. -/
inductive Rejection where
  | error
  | nullPrototype

instance : Texts Rejection where
  hasText
    | .error => true
    | .nullPrototype => false

def BreakerEvent.map (f : Options → Options') : BreakerEvent Options ε → BreakerEvent Options' ε
  | .execute circuitName options now => .execute circuitName (f options) now
  | .settle execution outcome now => .settle execution outcome now
  | .resetCircuit circuitName => .resetCircuit circuitName

def BreakerEvent.Passes (circuitName : String) (options : Options) (event : BreakerEvent Options ε) :
    Prop :=
  ∀ passed now, event = .execute circuitName passed now → passed = options

def Circuits.decisions (s : Circuits Options Circuit ε) (circuitName : String) : List (Phase ε) :=
  (s.executions.filter fun execution => execution.circuitName = circuitName).map (·.phase)

namespace Breaker

section Steps
variable (B : Breaker Options Circuit ε) (s : Circuits Options Circuit ε)

theorem run_concat (events : List (BreakerEvent Options ε)) (event : BreakerEvent Options ε) :
    B.run (events ++ [event]) = B.step (B.run events) event := by
  simp only [run, List.foldl_append, List.foldl_cons, List.foldl_nil]

theorem step_settle {execution : Nat} {e : Execution Options ε} (outcome : Outcome ε) (now : Int)
    (found : s.executions[execution]? = some e) (running : e.phase = .running) :
    B.step s (.settle execution outcome now) =
      { circuits := Function.update s.circuits e.circuitName
          ((s.circuits e.circuitName).map (B.settle e.options now outcome))
        executions := s.executions.set execution { e with phase := .settled outcome } } := by
  obtain ⟨circuitName, options, started, phase⟩ := e
  subst running
  simp only [step, found]

theorem step_settle_idle {execution : Nat} (outcome : Outcome ε) (now : Int)
    (idle : ∀ e, s.executions[execution]? = some e → e.phase ≠ .running) :
    B.step s (.settle execution outcome now) = s := by
  simp only [step]
  split
  · rename_i found
    exact absurd rfl (idle _ found)
  · rfl

theorem step_settle_away {execution : Nat} {e : Execution Options ε} (outcome : Outcome ε)
    (now : Int) (found : s.executions[execution]? = some e) {circuitName : String}
    (away : e.circuitName ≠ circuitName) :
    (B.step s (.settle execution outcome now)).circuits circuitName = s.circuits circuitName ∧
    ∃ phase, (B.step s (.settle execution outcome now)).executions =
      s.executions.set execution { e with phase } := by
  by_cases running : e.phase = .running
  · rw [B.step_settle s outcome now found running]
    exact ⟨Function.update_of_ne (Ne.symm away) .., _, rfl⟩
  · rw [B.step_settle_idle s outcome now fun e' found' => by
      rw [found] at found'
      cases found'
      exact running]
    obtain ⟨inside, same⟩ := List.getElem?_eq_some_iff.mp found
    exact ⟨rfl, e.phase, by rw [← same, List.set_getElem_self]⟩

variable {s} in
theorem step_kept {execution : Nat} {e : Execution Options ε} (event : BreakerEvent Options ε)
    (found : s.executions[execution]? = some e) (settled : e.phase ≠ .running) :
    (B.step s event).executions[execution]? = some e := by
  cases event with
  | execute circuitName options now =>
      exact (List.getElem?_append_left (List.getElem?_eq_some_iff.mp found).1).trans found
  | resetCircuit circuitName => exact found
  | settle other outcome now =>
      by_cases same : other = execution
      · subst same
        rw [B.step_settle_idle s outcome now fun e' found' => by
          rw [found] at found'
          cases found'
          exact settled]
        exact found
      · cases here : s.executions[other]? with
        | none =>
            rw [B.step_settle_idle s outcome now fun e' found' => by simp [here] at found']
            exact found
        | some e' =>
            by_cases running : e'.phase = .running
            · rw [B.step_settle s outcome now here running]
              exact (List.getElem?_set_ne same).trans found
            · rw [B.step_settle_idle s outcome now fun _ found' => by
                rw [here] at found'
                cases found'
                exact running]
              exact found

end Steps

structure Simulates (B : Breaker Options Circuit ε) (B' : Breaker Options' Circuit' ε)
    (circuitName : String) (options : Options) (options' : Options') (R : Circuit → Circuit' → Prop) :
    Prop where
  initial : R (B.initial options) (B'.initial options')
  enter : ∀ now {circuit circuit'}, R circuit circuit' →
    (B.enter circuitName options now circuit).1 = (B'.enter circuitName options' now circuit').1 ∧
    R (B.enter circuitName options now circuit).2 (B'.enter circuitName options' now circuit').2
  settle : ∀ now outcome {circuit circuit'}, R circuit circuit' →
    R (B.settle options now outcome circuit) (B'.settle options' now outcome circuit')
  reset : ∀ {circuit circuit'}, R circuit circuit' → R (B.reset circuit) (B'.reset circuit')
  state : ∀ {circuit circuit'}, R circuit circuit' → B.state circuit = B'.state circuit'

section Simulation
variable {B : Breaker Options Circuit ε} {B' : Breaker Options' Circuit' ε} {circuitName : String}
  {options : Options} {options' : Options'} {R : Circuit → Circuit' → Prop}
  {s : Circuits Options Circuit ε} {s' : Circuits Options' Circuit' ε}

variable (circuitName options options') in
structure Alike (execution : Execution Options ε) (execution' : Execution Options' ε) : Prop where
  name : execution.circuitName = execution'.circuitName
  here : execution.circuitName = circuitName →
    execution.options = options ∧ execution'.options = options' ∧ execution.phase = execution'.phase

variable (circuitName options options' R) in
structure Related (s : Circuits Options Circuit ε) (s' : Circuits Options' Circuit' ε) : Prop where
  circuit : Option.Rel R (s.circuits circuitName) (s'.circuits circuitName)
  executions : List.Forall₂ (Alike circuitName options options') s.executions s'.executions

theorem map_phase_filter {executions : List (Execution Options ε)}
    {executions' : List (Execution Options' ε)}
    (alike : List.Forall₂ (Alike circuitName options options') executions executions') :
    (executions.filter fun e => e.circuitName = circuitName).map (·.phase) =
      (executions'.filter fun e => e.circuitName = circuitName).map (·.phase) := by
  induction alike with
  | nil => rfl
  | @cons e e' rest rest' alike _ ih =>
      by_cases here : e.circuitName = circuitName
      · have here' : e'.circuitName = circuitName := alike.name ▸ here
        simp only [List.filter_cons, here, here', decide_true, if_true, List.map_cons,
          (alike.here here).2.2, ih]
      · have here' : e'.circuitName ≠ circuitName := alike.name ▸ here
        simp only [List.filter_cons, here, here', decide_false, Bool.false_eq_true, if_false, ih]

theorem Related.decisions (related : Related circuitName options options' R s s') :
    s.decisions circuitName = s'.decisions circuitName := map_phase_filter related.executions

theorem rel_map {f : Circuit → Circuit} {f' : Circuit' → Circuit'} {circuit : Option Circuit}
    {circuit' : Option Circuit'} (related : Option.Rel R circuit circuit')
    (step : ∀ {circuit circuit'}, R circuit circuit' → R (f circuit) (f' circuit')) :
    Option.Rel R (circuit.map f) (circuit'.map f') := by
  cases related with
  | none => exact .none
  | some related => exact .some (step related)

section Runs
variable (simulates : Simulates B B' circuitName options options' R)
include simulates

theorem Related.getCircuitState (related : Related circuitName options options' R s s') :
    B.getCircuitState s circuitName = B'.getCircuitState s' circuitName := by
  have circuit := related.circuit
  unfold Breaker.getCircuitState
  generalize s.circuits circuitName = one, s'.circuits circuitName = two at circuit
  cases circuit with
  | none => rfl
  | some same => exact congrArg some (simulates.state same)

theorem Related.circuit_getD (related : Related circuitName options options' R s s') :
    R (B.circuit options (s.circuits circuitName))
      (B'.circuit options' (s'.circuits circuitName)) := by
  have circuit := related.circuit
  generalize s.circuits circuitName = one, s'.circuits circuitName = two at circuit
  cases circuit with
  | none => exact simulates.initial
  | some same => exact same

theorem Related.execute (related : Related circuitName options options' R s s') (name : String)
    (passed : Options) (passed' : Options') (now : Int)
    (same : name = circuitName → passed = options ∧ passed' = options') :
    Related circuitName options options' R (B.step s (.execute name passed now))
      (B'.step s' (.execute name passed' now)) := by
  by_cases here : name = circuitName
  · subst here
    obtain ⟨rfl, rfl⟩ := same rfl
    obtain ⟨decided, entered⟩ := simulates.enter now (related.circuit_getD simulates)
    constructor
    · simp only [step, Function.update_self]
      exact .some entered
    · apply List.rel_append related.executions
      refine .cons ⟨rfl, fun _ => ⟨rfl, rfl, ?_⟩⟩ .nil
      simp only [decided]
  · constructor
    · simp only [step, Function.update_of_ne (Ne.symm here)]
      exact related.circuit
    · exact List.rel_append related.executions (.cons ⟨rfl, fun named => absurd named here⟩ .nil)

theorem Related.settle (related : Related circuitName options options' R s s') (execution : Nat)
    (outcome : Outcome ε) (now : Int) :
    Related circuitName options options' R (B.step s (.settle execution outcome now))
      (B'.step s' (.settle execution outcome now)) := by
  have found := forall₂_getElem? related.executions execution
  generalize one : s.executions[execution]? = entry, two : s'.executions[execution]? = entry' at found
  cases found with
  | none =>
      rw [B.step_settle_idle s outcome now fun e found => by simp [one] at found,
        B'.step_settle_idle s' outcome now fun e found => by simp [two] at found]
      exact related
  | @some e e' alike =>
      by_cases here : e.circuitName = circuitName
      · obtain ⟨same, same', phase⟩ := alike.here here
        by_cases running : e.phase = .running
        · rw [B.step_settle s outcome now one running,
            B'.step_settle s' outcome now two (phase.symm.trans running)]
          constructor
          · simp only [here, alike.name ▸ here, same, same', Function.update_self]
            exact rel_map related.circuit (simulates.settle now outcome)
          · exact forall₂_set related.executions execution
              ⟨alike.name, fun _ => ⟨same, same', rfl⟩⟩
        · rw [B.step_settle_idle s outcome now fun _ found => by
              rw [one] at found
              cases found
              exact running,
            B'.step_settle_idle s' outcome now fun _ found => by
              rw [two] at found
              cases found
              exact phase ▸ running]
          exact related
      · obtain ⟨same, phase, moved⟩ := B.step_settle_away s outcome now one here
        obtain ⟨same', phase', moved'⟩ :=
          B'.step_settle_away s' outcome now two fun named => here (alike.name.trans named)
        constructor
        · rw [same, same']
          exact related.circuit
        · rw [moved, moved']
          exact forall₂_set related.executions execution
            ⟨alike.name, fun named => absurd named here⟩

theorem Related.resetCircuit (related : Related circuitName options options' R s s')
    (name : String) :
    Related circuitName options options' R (B.step s (.resetCircuit name))
      (B'.step s' (.resetCircuit name)) := by
  refine ⟨?_, related.executions⟩
  by_cases here : circuitName = name
  · subst here
    simp only [step, Function.update_self]
    exact rel_map related.circuit simulates.reset
  · simp only [step, Function.update_of_ne here]
    exact related.circuit

end Runs

end Simulation

end Breaker

end Kanaka.Backend
