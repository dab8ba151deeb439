import Kanaka.Proof.Backend.Breaker.Simulation

/-! # Half-open probing -/

namespace Kanaka.Backend

variable {ε : Type} [Texts ε]

def BreakerEvent.time {Options : Type} : BreakerEvent Options ε → Option Int
  | .execute _ _ now => some now
  | .settle _ _ now => some now
  | .resetCircuit _ => none

namespace CircuitBreakerService

abbrev Event (ε : Type) := BreakerEvent (CircuitBreakerOptions ε) ε

abbrev State (ε : Type) := Circuits (CircuitBreakerOptions ε) (Circuit ε) ε

def run (events : List (Event ε)) : State ε := service.run events

theorem run_concat (events : List (Event ε)) (event : Event ε) :
    run (events ++ [event]) = service.step (run events) event := service.run_concat events event

variable (circuitName : String)

def stateOf (s : State ε) : Option CircuitState := service.getCircuitState s circuitName

def CountedFailure (s : State ε) (event : Event ε) : Prop :=
  ∃ execution e error now, event = .settle execution (.failure error) now ∧
    s.executions[execution]? = some e ∧ e.circuitName = circuitName ∧ e.phase = .running ∧
    isFailureType e.options error = true

/-- The clock does not go back, and no call is in flight when its time is over. -/
inductive Punctual : List (Event ε) → Int → Prop where
  | start (clock : Int) : Punctual [] clock
  | timed {events clock event now} : Punctual events clock → BreakerEvent.time event = some now →
      clock ≤ now →
      (∀ e ∈ (run events).executions, e.phase = .running → now ≤ e.started + e.options.timeout) →
      Punctual (events ++ [event]) now
  | resetCircuit {events clock name} : Punctual events clock →
      Punctual (events ++ [.resetCircuit name]) clock

/-- From the step that made the circuit half-open on it was half-open all the time. -/
structure Episode (before during : List (Event ε)) : Prop where
  entered : stateOf circuitName (run before) ≠ some .halfOpen
  begun : during ≠ []
  lasting : ∀ past, past <+: during → past ≠ [] →
    stateOf circuitName (run (before ++ past)) = some .halfOpen

/-- Different calls that started after `before` and have succeeded since, and no call was counted
as failed since. -/
structure Probed (before during : List (Event ε)) (probes : List Nat) : Prop where
  nodup : probes.Nodup
  succeeded : ∀ probe ∈ probes, (run before).executions.length ≤ probe ∧
    ∃ e, (run (before ++ during)).executions[probe]? = some e ∧ e.circuitName = circuitName ∧
      e.phase = .settled .success
  unfailed : ∀ past event, past ++ [event] <+: during →
    ¬ CountedFailure circuitName (run (before ++ past)) event

section Episodes
variable {circuitName} {before during : List (Event ε)} {event : Event ε} {probes : List Nat}

theorem run_snoc : run (before ++ (during ++ [event])) =
    service.step (run (before ++ during)) event := by
  rw [← List.append_assoc, run_concat]

theorem Episode.snoc (episode : Episode circuitName before during)
    (state : stateOf circuitName (run (before ++ (during ++ [event]))) = some .halfOpen) :
    Episode circuitName before (during ++ [event]) := by
  refine ⟨episode.entered, by simp, ?_⟩
  intro past reached begun
  rcases List.prefix_concat_iff.mp reached with same | earlier
  · exact same ▸ state
  · exact episode.lasting past earlier begun

theorem Probed.snoc (probed : Probed circuitName before during probes)
    (quiet : ¬ CountedFailure circuitName (run (before ++ during)) event) :
    Probed circuitName before (during ++ [event]) probes := by
  refine ⟨probed.nodup, ?_, ?_⟩
  · intro probe member
    obtain ⟨since, e, found, here, success⟩ := probed.succeeded probe member
    rw [run_snoc]
    exact ⟨since, e, service.step_kept event found (by simp [success]), here, success⟩
  · intro past next reached
    rcases List.prefix_concat_iff.mp reached with same | earlier
    · obtain ⟨rfl, last⟩ := List.append_inj' same rfl
      rw [List.singleton_inj] at last
      exact last ▸ quiet
    · exact probed.unfailed past next earlier

end Episodes

/-! ## What a step does to one circuit -/

def Called (s : State ε) (i : Nat) (e : Execution (CircuitBreakerOptions ε) ε) : Prop :=
  s.executions[i]? = some e ∧ e.circuitName = circuitName

structure Away (s after : State ε) (event : Event ε) : Prop where
  circuit : after.circuits circuitName = s.circuits circuitName
  called : ∀ i e, Called circuitName after i e ↔ Called circuitName s i e
  quiet : ¬ CountedFailure circuitName s event

section Steps
variable {circuitName} {opts : CircuitBreakerOptions ε} {s : State ε}

omit [Texts ε] in
theorem CountedFailure.settles {execution : Nat} {outcome : Outcome ε} {now : Int}
    (counted : CountedFailure circuitName s (.settle execution outcome now)) :
    ∃ e, Called circuitName s execution e ∧ e.phase = .running := by
  obtain ⟨execution, e, error, now, same, found, here, running, -⟩ := counted
  cases same
  exact ⟨e, ⟨found, here⟩, running⟩

omit [Texts ε] in
theorem called_append_other {new : Execution (CircuitBreakerOptions ε) ε}
    {circuits : String → Option (Circuit ε)} (other : new.circuitName ≠ circuitName) (i : Nat)
    (e : Execution (CircuitBreakerOptions ε) ε) :
    Called circuitName ⟨circuits, s.executions ++ [new]⟩ i e ↔ Called circuitName s i e := by
  refine and_congr_left fun here => ?_
  rw [List.getElem?_append]
  split
  · rfl
  · rename_i beyond
    rw [List.getElem?_eq_none (Nat.le_of_not_lt beyond)]
    simp only [reduceCtorEq, iff_false]
    intro found
    have same : e = new := List.mem_singleton.mp (List.mem_of_getElem? found)
    exact other (same ▸ here)

omit [Texts ε] in
theorem called_set_other {old new : Execution (CircuitBreakerOptions ε) ε} {place : Nat}
    {circuits : String → Option (Circuit ε)} (found : s.executions[place]? = some old)
    (other : old.circuitName ≠ circuitName) (same : new.circuitName = old.circuitName) (i : Nat)
    (e : Execution (CircuitBreakerOptions ε) ε) :
    Called circuitName ⟨circuits, s.executions.set place new⟩ i e ↔ Called circuitName s i e := by
  refine and_congr_left fun here => ?_
  by_cases at_ : place = i
  · subst at_
    rw [List.getElem?_set_self (List.getElem?_eq_some_iff.mp found).1, found]
    constructor <;> intro equal <;> cases equal
    · exact absurd (same.symm.trans here) other
    · exact absurd here other
  · rw [List.getElem?_set_ne at_]

variable (s) in
theorem step_cases (event : Event ε) (passes : event.Passes circuitName opts) :
    Away circuitName s (service.step s event) event ∨
    (∃ now, event = .execute circuitName opts now) ∨
    (∃ execution e outcome now, event = .settle execution outcome now ∧
      Called circuitName s execution e ∧ e.phase = .running) ∨
    event = .resetCircuit circuitName := by
  cases event with
  | execute name passed now =>
      by_cases here : name = circuitName
      · subst here
        exact .inr (.inl ⟨now, by rw [passes passed now rfl]⟩)
      · refine .inl ⟨Function.update_of_ne (Ne.symm here) .., called_append_other here, ?_⟩
        rintro ⟨_, _, _, _, same, -⟩
        contradiction
  | resetCircuit name =>
      by_cases here : name = circuitName
      · exact .inr (.inr (.inr (here ▸ rfl)))
      · refine .inl ⟨Function.update_of_ne (Ne.symm here) .., fun _ _ => Iff.rfl, ?_⟩
        rintro ⟨_, _, _, _, same, -⟩
        contradiction
  | settle execution outcome now =>
      by_cases running : ∃ e, s.executions[execution]? = some e ∧ e.phase = .running
      · obtain ⟨e, found, running⟩ := running
        by_cases here : e.circuitName = circuitName
        · exact .inr (.inr (.inl ⟨execution, e, outcome, now, rfl, ⟨found, here⟩, running⟩))
        · rw [service.step_settle s outcome now found running]
          refine .inl ⟨Function.update_of_ne (Ne.symm here) .., called_set_other found here rfl, ?_⟩
          intro counted
          obtain ⟨e', ⟨found', here'⟩, -⟩ := counted.settles
          rw [found] at found'
          cases found'
          exact here here'
      · rw [service.step_settle_idle s outcome now fun e found idle => running ⟨e, found, idle⟩]
        refine .inl ⟨rfl, fun _ _ => Iff.rfl, ?_⟩
        intro counted
        obtain ⟨e, ⟨found, -⟩, runs⟩ := counted.settles
        exact running ⟨e, found, runs⟩

end Steps

/-! ## The invariant -/

section Probes
variable (circuitName : String) (opts : CircuitBreakerOptions ε) (events : List (Event ε))

def FailedAt (t : Int) : Prop :=
  ∃ past failure, past ++ [failure] <+: events ∧ CountedFailure circuitName (run past) failure ∧
    failure.time = some t

/-- The circuit is half-open, with this many successes, and nothing from before is in flight. -/
def Probing (successes : Int) : Prop :=
  ∃ before during probes, events = before ++ during ∧ Episode circuitName before during ∧
    Probed circuitName before during probes ∧ (probes.length : Int) = successes ∧
    ∀ i e, Called circuitName (run events) i e → e.phase = .running →
      (run before).executions.length ≤ i

structure Honest (clock : Int) : Prop where
  called : ∀ i e, Called circuitName (run events) i e →
    e.options = opts ∧ (∃ circuit, (run events).circuits circuitName = some circuit) ∧
    e.started ≤ clock
  failures : ∀ t, FailedAt circuitName events t → t ≤ clock ∧
    ∃ circuit, (run events).circuits circuitName = some circuit ∧ t ≤ circuit.lastFailure
  tripped : ∀ circuit, (run events).circuits circuitName = some circuit → circuit.state ≠ .closed →
    opts.failureThreshold ≤ circuit.failures
  opened : ∀ circuit, (run events).circuits circuitName = some circuit → circuit.state = .opened →
    ∀ i e, Called circuitName (run events) i e → e.phase = .running →
      e.started ≤ circuit.lastFailure
  halfOpen : ∀ circuit, (run events).circuits circuitName = some circuit →
    circuit.state = .halfOpen → circuit.successes < opts.successThreshold ∧
      Probing circuitName events circuit.successes

end Probes

section Invariant
variable {circuitName : String} {opts : CircuitBreakerOptions ε} {events : List (Event ε)}
  {event : Event ε} {clock later t : Int} {circuit : Circuit ε}

theorem FailedAt.snoc (failed : FailedAt circuitName (events ++ [event]) t) :
    FailedAt circuitName events t ∨
      CountedFailure circuitName (run events) event ∧ event.time = some t := by
  obtain ⟨past, failure, reached, counted, at_⟩ := failed
  rcases List.prefix_concat_iff.mp reached with same | earlier
  · obtain ⟨rfl, last⟩ := List.append_inj' same rfl
    rw [List.singleton_inj] at last
    subst last
    exact .inr ⟨counted, at_⟩
  · exact .inl ⟨past, failure, earlier, counted, at_⟩

theorem length_le_step (s : State ε) (event : Event ε) :
    s.executions.length ≤ (service.step s event).executions.length := by
  cases event with
  | execute name passed now => simp [Breaker.step]
  | resetCircuit name => exact Nat.le_refl _
  | settle execution outcome now =>
      simp only [Breaker.step]
      split <;> simp

theorem length_le_run (before during : List (Event ε)) :
    (run before).executions.length ≤ (run (before ++ during)).executions.length := by
  induction during using List.reverseRecOn with
  | nil => simp
  | append_singleton during event ih =>
      rw [run_snoc]
      exact Nat.le_trans ih (length_le_step _ event)

theorem stateOf_eq (found : (run events).circuits circuitName = some circuit) :
    stateOf circuitName (run events) = some circuit.state := by
  rw [stateOf, Breaker.getCircuitState, found]
  rfl

theorem Probing.snoc {successes : Int} (probing : Probing circuitName events successes)
    (quiet : ¬ CountedFailure circuitName (run events) event)
    (state : stateOf circuitName (run (events ++ [event])) = some .halfOpen)
    (started : ∀ i e, Called circuitName (run (events ++ [event])) i e → e.phase = .running →
      Called circuitName (run events) i e ∨ (run events).executions.length ≤ i) :
    Probing circuitName (events ++ [event]) successes := by
  obtain ⟨before, during, probes, rfl, episode, probed, count, since⟩ := probing
  rw [List.append_assoc] at state started ⊢
  refine ⟨before, during ++ [event], probes, rfl, episode.snoc state, probed.snoc quiet, count, ?_⟩
  intro i e called running
  rcases started i e called running with old | new
  · exact since i e old running
  · exact Nat.le_trans (length_le_run before during) new

theorem Honest.failures_quiet (honest : Honest circuitName opts events clock) (forth : clock ≤ later)
    (quiet : ¬ CountedFailure circuitName (run events) event)
    (same : ∀ circuit, (run events).circuits circuitName = some circuit → ∃ circuit',
      (run (events ++ [event])).circuits circuitName = some circuit' ∧
      circuit.lastFailure = circuit'.lastFailure)
    (failed : FailedAt circuitName (events ++ [event]) t) :
    t ≤ later ∧ ∃ circuit, (run (events ++ [event])).circuits circuitName = some circuit ∧
      t ≤ circuit.lastFailure := by
  rcases failed.snoc with failed | ⟨counted, -⟩
  · obtain ⟨before, circuit, found, last⟩ := honest.failures t failed
    obtain ⟨circuit', found', equal⟩ := same circuit found
    exact ⟨Int.le_trans before forth, circuit', found', equal ▸ last⟩
  · exact absurd counted quiet

theorem Honest.away (honest : Honest circuitName opts events clock) (forth : clock ≤ later)
    (away : Away circuitName (run events) (service.step (run events) event) event) :
    Honest circuitName opts (events ++ [event]) later := by
  rw [← run_concat] at away
  constructor
  · intro i e called
    obtain ⟨passed, existing, started⟩ := honest.called i e ((away.called i e).mp called)
    rw [away.circuit]
    exact ⟨passed, existing, Int.le_trans started forth⟩
  · intro t failed
    exact honest.failures_quiet forth away.quiet
      (fun circuit found => ⟨circuit, away.circuit.trans found, rfl⟩) failed
  · intro circuit found
    exact honest.tripped circuit (away.circuit ▸ found)
  · intro circuit found opened i e called
    exact honest.opened circuit (away.circuit ▸ found) opened i e ((away.called i e).mp called)
  · intro circuit found half
    obtain ⟨few, probing⟩ := honest.halfOpen circuit (away.circuit ▸ found) half
    refine ⟨few, probing.snoc away.quiet (half ▸ stateOf_eq found) ?_⟩
    intro i e called _
    exact .inl ((away.called i e).mp called)

/-! ### A call of the circuit -/

variable (circuitName opts events) in
theorem existing_of_state (tripped : (service.circuit opts ((run events).circuits circuitName)).state ≠
    .closed) : (run events).circuits circuitName =
      some (service.circuit opts ((run events).circuits circuitName)) := by
  cases found : (run events).circuits circuitName with
  | none =>
      rw [found] at tripped
      exact absurd rfl tripped
  | some circuit => rfl

theorem circuit_of_found (found : (run events).circuits circuitName = some circuit) :
    service.circuit opts ((run events).circuits circuitName) = circuit := by
  rw [found]
  rfl

section Execute
variable {now : Int} {verdict : Except String Unit} {after : Circuit ε}
  (entered : enter circuitName opts now
    (service.circuit opts ((run events).circuits circuitName)) = (verdict, after))
include entered

theorem circuits_execute :
    (run (events ++ [.execute circuitName opts now])).circuits circuitName = some after := by
  have same : service.enter circuitName opts now
      (service.circuit opts ((run events).circuits circuitName)) = (verdict, after) := entered
  simp only [run_concat, Breaker.step, Function.update_self, same]

theorem called_execute {i : Nat} {e : Execution (CircuitBreakerOptions ε) ε}
    (called : Called circuitName (run (events ++ [.execute circuitName opts now])) i e) :
    Called circuitName (run events) i e ∨ (run events).executions.length ≤ i ∧
      e.options = opts ∧ e.started = now ∧ (e.phase = .running → verdict = .ok ()) := by
  have same : service.enter circuitName opts now
      (service.circuit opts ((run events).circuits circuitName)) = (verdict, after) := entered
  obtain ⟨found, here⟩ := called
  simp only [run_concat, Breaker.step, same] at found
  rw [List.getElem?_append] at found
  split at found
  · exact .inl ⟨found, here⟩
  · have same := List.mem_singleton.mp (List.mem_of_getElem? found)
    subst same
    refine .inr ⟨Nat.le_of_not_lt ‹_›, rfl, rfl, ?_⟩
    cases verdict with
    | ok value => exact fun _ => rfl
    | error message => exact fun running => by contradiction

theorem Honest.execute (honest : Honest circuitName opts events clock) (forth : clock ≤ now)
    (last : ∀ circuit, (run events).circuits circuitName = some circuit →
      circuit.lastFailure = after.lastFailure)
    (tripped : after.state ≠ .closed → opts.failureThreshold ≤ after.failures)
    (opened : after.state = .opened → verdict ≠ .ok () ∧
      ∀ i e, Called circuitName (run events) i e → e.phase = .running →
        e.started ≤ after.lastFailure)
    (halfOpen : after.state = .halfOpen → after.successes < opts.successThreshold ∧
      Probing circuitName (events ++ [.execute circuitName opts now]) after.successes) :
    Honest circuitName opts (events ++ [.execute circuitName opts now]) now := by
  have found := circuits_execute entered
  constructor
  · intro i e called
    rcases called_execute entered called with old | ⟨-, passed, started, -⟩
    · obtain ⟨passed, -, started⟩ := honest.called i e old
      exact ⟨passed, ⟨after, found⟩, Int.le_trans started forth⟩
    · exact ⟨passed, ⟨after, found⟩, Int.le_of_eq started⟩
  · intro t failed
    refine honest.failures_quiet forth ?_ (fun circuit existing => ⟨after, found, last circuit existing⟩)
      failed
    rintro ⟨_, _, _, _, same, -⟩
    contradiction
  · intro circuit found' state
    rw [found] at found'
    cases found'
    exact tripped state
  · intro circuit found' state i e called running
    rw [found] at found'
    cases found'
    obtain ⟨refused, before⟩ := opened state
    rcases called_execute entered called with old | ⟨-, -, -, started⟩
    · exact before i e old running
    · exact absurd (started running) refused
  · intro circuit found' state
    rw [found] at found'
    cases found'
    exact halfOpen state

end Execute

section Enter
variable {now : Int} (honest : Honest circuitName opts events clock) (forth : clock ≤ now)
include honest

/-- What was in flight when the circuit opened is over when it has been open long enough. -/
theorem Honest.landed (found : (run events).circuits circuitName = some circuit)
    (isOpen : circuit.state = .opened) (late : ¬ now - circuit.lastFailure < opts.resetTimeout)
    (timers : ∀ e ∈ (run events).executions, e.phase = .running →
      now ≤ e.started + e.options.timeout)
    (shorter : opts.timeout < opts.resetTimeout) (i : Nat)
    (e : Execution (CircuitBreakerOptions ε) ε) (called : Called circuitName (run events) i e) :
    e.phase ≠ .running := by
  intro running
  have started := honest.opened circuit found isOpen i e called running
  have due := timers e (List.mem_of_getElem? called.1) running
  rw [(honest.called i e called).1] at due
  omega

theorem Honest.probing (entered : enter circuitName opts now
      (service.circuit opts ((run events).circuits circuitName)) =
        (.ok (), { circuit with state := .halfOpen, successes := 0 }))
    (found : (run events).circuits circuitName = some circuit) (isOpen : circuit.state = .opened)
    (late : ¬ now - circuit.lastFailure < opts.resetTimeout)
    (timers : ∀ e ∈ (run events).executions, e.phase = .running →
      now ≤ e.started + e.options.timeout)
    (shorter : opts.timeout < opts.resetTimeout) :
    Probing circuitName (events ++ [.execute circuitName opts now]) 0 := by
  refine ⟨events, [.execute circuitName opts now], [], rfl, ⟨?_, by simp, ?_⟩, ⟨.nil, by simp, ?_⟩,
    rfl, ?_⟩
  · rw [stateOf_eq found, isOpen]
    simp
  · intro past reached begun
    obtain none | ⟨rest, rfl, nothing⟩ := List.prefix_cons_iff.mp reached
    · exact absurd none begun
    · rw [List.prefix_nil.mp nothing, stateOf_eq (circuits_execute entered)]
  · intro past event reached
    have reached : past ++ [event] <+: [] ++ [.execute circuitName opts now] := reached
    rcases List.prefix_concat_iff.mp reached with same | nothing
    · obtain ⟨rfl, last⟩ := List.append_inj' same rfl
      rw [List.singleton_inj] at last
      subst last
      rintro ⟨_, _, _, _, same, -⟩
      contradiction
    · simp at nothing
  · intro i e called running
    rcases called_execute entered called with old | ⟨new, -⟩
    · exact absurd running (honest.landed found isOpen late timers shorter i e old)
    · exact new

theorem Honest.enters (forth : clock ≤ now)
    (timers : ∀ e ∈ (run events).executions, e.phase = .running →
      now ≤ e.started + e.options.timeout)
    (positive : 1 ≤ opts.successThreshold) (shorter : opts.timeout < opts.resetTimeout) :
    Honest circuitName opts (events ++ [.execute circuitName opts now]) now := by
  have existing := existing_of_state circuitName opts events
  generalize same : service.circuit opts ((run events).circuits circuitName) = circuit at existing
  have last : ∀ circuit', (run events).circuits circuitName = some circuit' →
      circuit'.lastFailure = circuit.lastFailure := by
    intro circuit' found
    rw [← same, circuit_of_found found]
  by_cases isOpen : circuit.state = .opened
  · have found := existing (by simp [isOpen])
    have tripped := honest.tripped circuit found (by simp [isOpen])
    by_cases early : now - circuit.lastFailure < opts.resetTimeout
    · have entered : enter circuitName opts now
          (service.circuit opts ((run events).circuits circuitName)) =
          (.error ("Circuit " ++ circuitName ++ " is open"), circuit) := by
        rw [same, enter, if_pos isOpen, if_pos early]
      apply Honest.execute entered honest forth last (fun _ => tripped)
      · exact fun _ => ⟨by simp, honest.opened circuit found isOpen⟩
      · intro half
        rw [isOpen] at half
        contradiction
    · have entered : enter circuitName opts now
          (service.circuit opts ((run events).circuits circuitName)) =
          (.ok (), { circuit with state := .halfOpen, successes := 0 }) := by
        rw [same, enter, if_pos isOpen, if_neg early]
      apply Honest.execute entered honest forth last (fun _ => tripped)
      · intro isOpen
        contradiction
      · exact fun _ => ⟨positive, honest.probing entered found isOpen early timers shorter⟩
  · have entered : enter circuitName opts now
        (service.circuit opts ((run events).circuits circuitName)) = (.ok (), circuit) := by
      rw [same, enter, if_neg isOpen]
    apply Honest.execute entered honest forth last
    · exact fun state => honest.tripped circuit (existing state) state
    · exact fun state => absurd state isOpen
    · intro half
      have found := existing (by simp [half])
      obtain ⟨few, probing⟩ := honest.halfOpen circuit found half
      refine ⟨few, probing.snoc ?_ ?_ ?_⟩
      · rintro ⟨_, _, _, _, same, -⟩
        contradiction
      · rw [stateOf_eq (circuits_execute entered), half]
      · intro i e called _
        exact (called_execute entered called).imp_right (·.1)

end Enter

/-! ### A call of the circuit settles -/

section Settle
variable {i : Nat} {e : Execution (CircuitBreakerOptions ε) ε} {outcome : Outcome ε} {now : Int}

variable (now) in
theorem Probed.hit {before during : List (Event ε)} {probes : List Nat}
    (probed : Probed circuitName before during probes)
    (called : Called circuitName (run (before ++ during)) i e) (running : e.phase = .running)
    (since : (run before).executions.length ≤ i) :
    Probed circuitName before (during ++ [.settle i .success now]) (probes ++ [i]) := by
  have quiet : ¬ CountedFailure circuitName (run (before ++ during)) (.settle i .success now) := by
    rintro ⟨_, _, _, _, same, -⟩
    cases same
  have kept := probed.snoc quiet
  refine ⟨?_, ?_, kept.unfailed⟩
  · rw [List.nodup_append]
    refine ⟨probed.nodup, by simp, ?_⟩
    intro probe member other single same
    rw [List.mem_singleton] at single
    subst same single
    obtain ⟨-, e', found, -, success⟩ := probed.succeeded probe member
    rw [called.1] at found
    cases found
    rw [running] at success
    contradiction
  · intro probe member
    rcases List.mem_append.mp member with old | new
    · exact kept.succeeded probe old
    · rw [List.mem_singleton.mp new, run_snoc, service.step_settle _ _ now called.1 running]
      exact ⟨since, _, List.getElem?_set_self (List.getElem?_eq_some_iff.mp called.1).1, called.2, rfl⟩

variable (called : Called circuitName (run events) i e) (running : e.phase = .running)
include called running

theorem called_settle {j : Nat} {e' : Execution (CircuitBreakerOptions ε) ε}
    (called' : Called circuitName (run (events ++ [.settle i outcome now])) j e') :
    Called circuitName (run events) j e' ∨ e'.phase ≠ .running ∧ e'.options = e.options ∧
      e'.started = e.started := by
  obtain ⟨found, here⟩ := called'
  rw [run_concat, service.step_settle _ outcome now called.1 running] at found
  by_cases same : i = j
  · subst same
    simp only [List.getElem?_set_self (List.getElem?_eq_some_iff.mp called.1).1,
      Option.some.injEq] at found
    subst found
    exact .inr ⟨by simp, rfl, rfl⟩
  · simp only [List.getElem?_set_ne same] at found
    exact .inl ⟨found, here⟩

theorem Honest.settle {after : Circuit ε} (honest : Honest circuitName opts events clock)
    (forth : clock ≤ now) (found : (run events).circuits circuitName = some circuit)
    (settles : service.settle opts now outcome circuit = after)
    (failures : ∀ t, FailedAt circuitName (events ++ [.settle i outcome now]) t →
      t ≤ now ∧ t ≤ after.lastFailure)
    (tripped : after.state ≠ .closed → opts.failureThreshold ≤ after.failures)
    (opened : after.state = .opened → ∀ j e', Called circuitName (run events) j e' →
      e'.phase = .running → e'.started ≤ after.lastFailure)
    (halfOpen : after.state = .halfOpen → after.successes < opts.successThreshold ∧
      Probing circuitName (events ++ [.settle i outcome now]) after.successes) :
    Honest circuitName opts (events ++ [.settle i outcome now]) now := by
  have here : (run (events ++ [.settle i outcome now])).circuits circuitName = some after := by
    rw [run_concat, service.step_settle _ outcome now called.1 running]
    simp only [called.2, Function.update_self, found, Option.map_some,
      (honest.called i e called).1, settles]
  constructor
  · intro j e' called'
    rcases called_settle called running called' with old | ⟨-, passed, started⟩
    · obtain ⟨passed, -, started⟩ := honest.called j e' old
      exact ⟨passed, ⟨after, here⟩, Int.le_trans started forth⟩
    · obtain ⟨passed', -, started'⟩ := honest.called i e called
      exact ⟨passed.trans passed', ⟨after, here⟩, started ▸ Int.le_trans started' forth⟩
  · intro t failed
    exact ⟨(failures t failed).1, after, here, (failures t failed).2⟩
  · intro circuit found'
    rw [here] at found'
    cases found'
    exact tripped
  · intro circuit found' state j e' called' runs
    rw [here] at found'
    cases found'
    rcases called_settle called running called' with old | ⟨settled, -⟩
    · exact opened state j e' old runs
    · exact absurd runs settled
  · intro circuit found'
    rw [here] at found'
    cases found'
    exact halfOpen

variable (outcome now) in
theorem stateOf_settle (honest : Honest circuitName opts events clock)
    (found : (run events).circuits circuitName = some circuit) :
    stateOf circuitName (run (events ++ [.settle i outcome now])) =
      some (service.settle opts now outcome circuit).state := by
  apply stateOf_eq
  rw [run_concat, service.step_settle _ outcome now called.1 running]
  simp only [called.2, Function.update_self, found, Option.map_some, (honest.called i e called).1]

omit running in
theorem Honest.existing (honest : Honest circuitName opts events clock) :
    ∃ circuit, (run events).circuits circuitName = some circuit := (honest.called i e called).2.1

omit called running in
theorem Honest.quiet (honest : Honest circuitName opts events clock) (forth : clock ≤ now)
    (found : (run events).circuits circuitName = some circuit)
    (quiet : ¬ CountedFailure circuitName (run events) (.settle i outcome now))
    (failed : FailedAt circuitName (events ++ [.settle i outcome now]) t) :
    t ≤ now ∧ t ≤ circuit.lastFailure := by
  rcases failed.snoc with failed | ⟨counted, -⟩
  · obtain ⟨before, circuit', found', after⟩ := honest.failures t failed
    rw [found] at found'
    cases found'
    exact ⟨Int.le_trans before forth, after⟩
  · exact absurd counted quiet

theorem Probing.hit {successes : Int} (probing : Probing circuitName events successes)
    (state : stateOf circuitName (run (events ++ [.settle i .success now])) = some .halfOpen) :
    Probing circuitName (events ++ [.settle i .success now]) (successes + 1) := by
  obtain ⟨before, during, probes, rfl, episode, probed, count, since⟩ := probing
  have hit := probed.hit now called running (since i e called running)
  have settled : ∀ j e', Called circuitName
      (run ((before ++ during) ++ [.settle i .success now])) j e' → _ :=
    fun j e' => called_settle called running
  rw [List.append_assoc] at state settled ⊢
  refine ⟨before, during ++ [.settle i .success now], probes ++ [i], rfl, episode.snoc state, hit, ?_,
    ?_⟩
  · simp [count]
  · intro j e' called' runs
    rcases settled j e' called' with old | ⟨idle, -⟩
    · exact since j e' old runs
    · exact absurd runs idle

theorem Honest.success (honest : Honest circuitName opts events clock) (forth : clock ≤ now) :
    Honest circuitName opts (events ++ [.settle i .success now]) now := by
  obtain ⟨circuit, found⟩ := honest.existing called
  have quiet : ¬ CountedFailure circuitName (run events) (.settle i .success now) := by
    rintro ⟨_, _, _, _, same, -⟩
    cases same
  have failures := fun t => honest.quiet (t := t) forth found quiet
  have state := stateOf_settle .success now called running honest found
  obtain ⟨phase, failed, successes, last, options⟩ := circuit
  cases phase with
  | closed =>
      apply honest.settle called running forth found rfl failures
      · exact fun other => absurd rfl other
      · exact fun isOpen => by contradiction
      · exact fun half => by contradiction
  | opened =>
      apply honest.settle called running forth found rfl failures
      · exact honest.tripped _ found
      · exact honest.opened _ found
      · exact fun half => by contradiction
  | halfOpen =>
      obtain ⟨few, probing⟩ := honest.halfOpen _ found rfl
      by_cases enough : opts.successThreshold ≤ successes + 1
      · have settles : service.settle opts now .success ⟨.halfOpen, failed, successes, last, options⟩ =
            ⟨.closed, 0, 0, last, options⟩ := if_pos enough
        apply honest.settle called running forth found settles failures
        · exact fun other => absurd rfl other
        · exact fun isOpen => by contradiction
        · exact fun half => by contradiction
      · have settles : service.settle opts now .success ⟨.halfOpen, failed, successes, last, options⟩ =
            ⟨.halfOpen, failed, successes + 1, last, options⟩ := if_neg enough
        rw [settles] at state
        have tripped := honest.tripped _ found (by simp)
        apply honest.settle called running forth found settles failures
        · exact fun _ => tripped
        · exact fun isOpen => by contradiction
        · exact fun _ => ⟨Int.lt_of_not_ge enough, probing.hit called running state⟩

theorem Honest.failure (honest : Honest circuitName opts events clock) (forth : clock ≤ now)
    (error : ε) (told : stateOf circuitName (run events) = some .halfOpen →
      CountedFailure circuitName (run events) (.settle i (.failure error) now) →
        hasText error = true) :
    Honest circuitName opts (events ++ [.settle i (.failure error) now]) now := by
  obtain ⟨circuit, found⟩ := honest.existing called
  have state := stateOf_settle (.failure error) now called running honest found
  by_cases counts : isFailureType opts error = true
  · have before : ∀ j e', Called circuitName (run events) j e' → e'.started ≤ now :=
      fun j e' called' => Int.le_trans (honest.called j e' called').2.2 forth
    have failures : ∀ t, FailedAt circuitName (events ++ [.settle i (.failure error) now]) t →
        t ≤ now ∧ t ≤ now := by
      intro t failed
      rcases failed.snoc with failed | ⟨-, last⟩
      · have earlier := Int.le_trans (honest.failures t failed).1 forth
        exact ⟨earlier, earlier⟩
      · cases last
        exact ⟨Int.le_refl _, Int.le_refl _⟩
    by_cases opens : hasText error = true ∧ opts.failureThreshold ≤ circuit.failures + 1
    · obtain ⟨text, many⟩ := opens
      have settles : service.settle opts now (.failure error) circuit = { circuit with
          state := .opened, failures := circuit.failures + 1, lastFailure := now } := by
        show failed opts error now circuit = _
        rw [failed, if_pos counts, if_neg (by simp [text]), if_pos many]
      apply honest.settle called running forth found settles failures
      · exact fun _ => many
      · exact fun _ j e' called' _ => before j e' called'
      · exact fun half => by contradiction
    · have settles : service.settle opts now (.failure error) circuit = { circuit with
          failures := circuit.failures + 1, lastFailure := now } := by
        show failed opts error now circuit = _
        rw [failed, if_pos counts]
        by_cases silent : hasText error = false
        · rw [if_pos silent]
        · rw [if_neg silent, if_neg fun many => opens ⟨eq_true_of_ne_false silent, many⟩]
      -- a half-open circuit has had its failures, and the failure has a text
      have unprobed : circuit.state ≠ .halfOpen := by
        intro half
        have tripped := honest.tripped circuit found (by simp [half])
        have counted : CountedFailure circuitName (run events) (.settle i (.failure error) now) :=
          ⟨i, e, error, now, rfl, called.1, called.2, running, (honest.called i e called).1 ▸ counts⟩
        have text := told ((stateOf_eq found).trans (congrArg some half)) counted
        exact opens ⟨text, Int.le_trans tripped (Int.le_add_one (Int.le_refl _))⟩
      apply honest.settle called running forth found settles failures
      · exact fun other => Int.le_trans (honest.tripped circuit found other)
          (Int.le_add_one (Int.le_refl _))
      · exact fun _ j e' called' _ => before j e' called'
      · exact fun half => absurd half unprobed
  · have settles : service.settle opts now (.failure error) circuit = circuit := by
      show failed opts error now circuit = _
      rw [failed, if_neg counts]
    have quiet : ¬ CountedFailure circuitName (run events) (.settle i (.failure error) now) := by
      rintro ⟨_, e', _, _, same, found', here', -, counted⟩
      cases same
      rw [called.1] at found'
      cases found'
      exact counts ((honest.called i e called).1 ▸ counted)
    rw [settles] at state
    apply honest.settle called running forth found settles
      fun t => honest.quiet (t := t) forth found quiet
    · exact honest.tripped circuit found
    · exact honest.opened circuit found
    · intro half
      obtain ⟨few, probing⟩ := honest.halfOpen circuit found half
      refine ⟨few, probing.snoc quiet (half ▸ state) ?_⟩
      intro j e' called' runs
      rcases called_settle called running called' with old | ⟨idle, -⟩
      · exact .inl old
      · exact absurd runs idle

end Settle

theorem Honest.reset (honest : Honest circuitName opts events clock) :
    Honest circuitName opts (events ++ [.resetCircuit circuitName]) clock := by
  have quiet : ¬ CountedFailure circuitName (run events) (.resetCircuit circuitName) := by
    rintro ⟨_, _, _, _, same, -⟩
    cases same
  have here : (run (events ++ [.resetCircuit circuitName])).circuits circuitName =
      ((run events).circuits circuitName).map resetCircuit := by
    simp only [run_concat, Breaker.step, Function.update_self]
    rfl
  have closed : ∀ circuit, (run (events ++ [.resetCircuit circuitName])).circuits circuitName =
      some circuit → circuit.state = .closed := by
    intro circuit found
    rw [here] at found
    obtain ⟨circuit, -, rfl⟩ := Option.map_eq_some_iff.mp found
    rfl
  constructor
  · intro i e called
    have called : Called circuitName (run events) i e := by
      rw [run_concat] at called
      exact called
    obtain ⟨passed, ⟨circuit, found⟩, started⟩ := honest.called i e called
    exact ⟨passed, ⟨_, here.trans (congrArg (Option.map resetCircuit) found)⟩, started⟩
  · intro t failed
    exact honest.failures_quiet (Int.le_refl _) quiet
      (fun circuit found => ⟨_, here.trans (congrArg (Option.map resetCircuit) found), rfl⟩) failed
  · exact fun circuit found state => absurd (closed circuit found) state
  · intro circuit found state
    rw [closed circuit found] at state
    contradiction
  · intro circuit found state
    rw [closed circuit found] at state
    contradiction

theorem honest_nil (clock : Int) : Honest circuitName opts ([] : List (Event ε)) clock := by
  have none : (run ([] : List (Event ε))).circuits circuitName = none := rfl
  have uncalled : ∀ i e, ¬ Called circuitName (run ([] : List (Event ε))) i e := by
    rintro i e ⟨found, -⟩
    cases found
  constructor
  · exact fun i e called => absurd called (uncalled i e)
  · rintro t ⟨past, failure, reached, -⟩
    simp at reached
  · exact fun circuit found => by simp [none] at found
  · exact fun circuit found => by simp [none] at found
  · exact fun circuit found => by simp [none] at found

/-- A failure that is counted while the circuit is half-open has a text. -/
def Told (circuitName : String) (events : List (Event ε)) : Prop :=
  ∀ past execution error now, past ++ [.settle execution (.failure error) now] <+: events →
    stateOf circuitName (run past) = some .halfOpen →
      CountedFailure circuitName (run past) (.settle execution (.failure error) now) →
        hasText error = true

theorem Told.before (told : Told circuitName (events ++ [event])) : Told circuitName events :=
  fun past execution error now reached =>
    told past execution error now (reached.trans (List.prefix_append _ _))

theorem honest_of_punctual (punctual : Punctual events clock) (told : Told circuitName events)
    (passes : ∀ event ∈ events, event.Passes circuitName opts)
    (positive : 1 ≤ opts.successThreshold) (shorter : opts.timeout < opts.resetTimeout) :
    Honest circuitName opts events clock := by
  induction punctual with
  | start clock => exact honest_nil clock
  | @timed events clock event now _ at_ forth timers ih =>
      have honest := ih told.before fun event member => passes event (List.mem_append_left _ member)
      have passed := passes event (List.mem_append_right _ (List.mem_singleton_self _))
      rcases step_cases (run events) event passed with
        away | ⟨now', rfl⟩ | ⟨i, e, outcome, now', rfl, called, running⟩ | rfl
      · exact honest.away forth away
      · cases at_
        exact honest.enters forth timers positive shorter
      · cases at_
        cases outcome with
        | success => exact honest.success called running forth
        | failure error =>
            exact honest.failure called running forth error
              (told events i error now (List.prefix_refl _))
      · cases at_
  | @resetCircuit events clock name _ ih =>
      have honest := ih told.before fun event member => passes event (List.mem_append_left _ member)
      have passed := passes _ (List.mem_append_right _ (List.mem_singleton_self _))
      rcases step_cases (run events) _ passed with away | ⟨now', same⟩ | ⟨i, e, outcome, now', same, -⟩ | same
      · exact honest.away (Int.le_refl _) away
      · cases same
      · cases same
      · cases same
        exact honest.reset

/-! ## Decisions -/

theorem found_of_stateOf {state : CircuitState}
    (same : stateOf circuitName (run events) = some state) :
    ∃ circuit, (run events).circuits circuitName = some circuit ∧ circuit.state = state :=
  Option.map_eq_some_iff.mp same

theorem failed_state (opts : CircuitBreakerOptions ε) (error : ε) (now : Int) (circuit : Circuit ε) :
    (failed opts error now circuit).state = .opened ∨
      (failed opts error now circuit).state = circuit.state := by
  unfold failed
  dsimp only
  split
  · split
    · exact .inr rfl
    · split
      · exact .inl rfl
      · exact .inr rfl
  · exact .inr rfl

theorem Honest.closing (honest : Honest circuitName opts events clock)
    (passed : event.Passes circuitName opts)
    (half : stateOf circuitName (run events) = some .halfOpen)
    (closed : stateOf circuitName (run (events ++ [event])) = some .closed)
    (other : event ≠ .resetCircuit circuitName) :
    ∃ i e now circuit, event = .settle i .success now ∧ Called circuitName (run events) i e ∧
      e.phase = .running ∧ (run events).circuits circuitName = some circuit ∧
      circuit.state = .halfOpen ∧ opts.successThreshold ≤ circuit.successes + 1 := by
  obtain ⟨circuit, found, state⟩ := found_of_stateOf half
  rcases step_cases (run events) event passed with
    away | ⟨now, rfl⟩ | ⟨i, e, outcome, now, rfl, called, running⟩ | rfl
  · rw [stateOf, Breaker.getCircuitState, run_concat, away.circuit, found, Option.map_some,
      Option.some.injEq] at closed
    rw [show circuit.state = .closed from closed] at state
    contradiction
  · have entered : enter circuitName opts now
        (service.circuit opts ((run events).circuits circuitName)) = (.ok (), circuit) := by
      rw [circuit_of_found found, enter, if_neg (by simp [state])]
    rw [stateOf_eq (circuits_execute entered), state] at closed
    cases closed
  · rw [stateOf_settle outcome now called running honest found, Option.some.injEq] at closed
    cases outcome with
    | success =>
        refine ⟨i, e, now, circuit, rfl, called, running, found, state, ?_⟩
        by_contra few
        have still : succeeded opts circuit = { circuit with successes := circuit.successes + 1 } := by
          rw [succeeded, if_pos state, if_neg few]
        rw [show service.settle opts now .success circuit = _ from still] at closed
        rw [show circuit.state = .closed from closed] at state
        contradiction
    | failure error =>
        have settled : (failed opts error now circuit).state = .closed := closed
        rcases failed_state opts error now circuit with opens | stays
        · rw [opens] at settled
          contradiction
        · rw [← stays, settled] at state
          contradiction
  · contradiction

theorem Honest.rejects {now : Int} (honest : Honest circuitName opts events clock)
    (isOpen : stateOf circuitName (run events) = some .opened)
    (failed : FailedAt circuitName events t) (early : now < t + opts.resetTimeout) :
    (run (events ++ [.execute circuitName opts now])).executions = (run events).executions ++
      [⟨circuitName, opts, now, .rejected ("Circuit " ++ circuitName ++ " is open")⟩] := by
  obtain ⟨circuit, found, state⟩ := found_of_stateOf isOpen
  obtain ⟨-, circuit', found', last⟩ := honest.failures t failed
  rw [found] at found'
  cases found'
  have entered : service.enter circuitName opts now
      (service.circuit opts ((run events).circuits circuitName)) =
      (.error ("Circuit " ++ circuitName ++ " is open"), circuit) := by
    show enter circuitName opts now _ = _
    rw [circuit_of_found found, enter, if_pos state, if_pos (by omega)]
  simp only [run_concat, Breaker.step, entered]

theorem Punctual.before (punctual : Punctual (events ++ [event]) clock) :
    ∃ earlier, Punctual events earlier := by
  generalize same : events ++ [event] = all at punctual
  cases punctual with
  | start => simp at same
  | timed before _ _ _ =>
      obtain ⟨rfl, -⟩ := List.append_inj' same rfl
      exact ⟨_, before⟩
  | resetCircuit before =>
      obtain ⟨rfl, -⟩ := List.append_inj' same rfl
      exact ⟨_, before⟩

end Invariant

/-- A step closes a half-open circuit, other than by a reset, only after as many calls as
`successThreshold` says that started and succeeded since it became half-open, none being counted as
failed since; and it starts no call of an open circuit within `resetTimeout` of a counted failure. -/
structure ProbesHonestly (circuitName : String) (opts : CircuitBreakerOptions ε)
    (events : List (Event ε)) (event : Event ε) : Prop where
  closes : stateOf circuitName (run events) = some .halfOpen →
    stateOf circuitName (run (events ++ [event])) = some .closed →
    event ≠ .resetCircuit circuitName →
    ∃ before during probes, events = before ++ during ∧ Episode circuitName before during ∧
      Probed circuitName before (during ++ [event]) probes ∧
      (probes.length : Int) = opts.successThreshold
  rejects : ∀ now t, event = .execute circuitName opts now →
    stateOf circuitName (run events) = some .opened → FailedAt circuitName events t →
    now < t + opts.resetTimeout →
    (run (events ++ [event])).executions = (run events).executions ++
      [⟨circuitName, opts, now, .rejected ("Circuit " ++ circuitName ++ " is open")⟩]

/-- With timers on time, and a text for every failure that is counted while the circuit is half-open,
probing is honest in every step of a run. -/
theorem probing_honest_of_told (circuitName : String) (opts : CircuitBreakerOptions ε)
    (events : List (Event ε)) (event : Event ε) (clock : Int)
    (punctual : Punctual (events ++ [event]) clock)
    (passes : ∀ e ∈ events ++ [event], e.Passes circuitName opts)
    (positive : 1 ≤ opts.successThreshold) (shorter : opts.timeout < opts.resetTimeout)
    (told : Told circuitName events) : ProbesHonestly circuitName opts events event := by
  obtain ⟨earlier, punctual⟩ := punctual.before
  have honest := honest_of_punctual punctual told
    (fun e member => passes e (List.mem_append_left _ member)) positive shorter
  constructor
  · intro half closed other
    have passed := passes event (List.mem_append_right _ (List.mem_singleton_self _))
    obtain ⟨i, e, now, circuit, rfl, called, running, found, state, enough⟩ :=
      honest.closing passed half closed other
    obtain ⟨few, before, during, probes, rfl, episode, probed, count, since⟩ :=
      honest.halfOpen circuit found state
    refine ⟨before, during, probes ++ [i], rfl, episode,
      probed.hit now called running (since i e called running), ?_⟩
    simp only [List.length_append, List.length_singleton]
    omega
  · rintro now t rfl isOpen failed early
    exact honest.rejects isOpen failed early

def options : CircuitBreakerOptions Rejection where
  failureThreshold := 1
  resetTimeout := 10
  successThreshold := 1
  timeout := 5
  failureTypes := []

def reopened : List (Event Rejection) :=
  [.execute "c" options 0, .settle 0 (.failure .error) 1, .execute "c" options 20,
    .settle 1 (.failure .error) 21, .execute "c" options 40]

def silenced : List (Event Rejection) :=
  [.execute "c" options 0, .settle 0 (.failure .error) 1, .execute "c" options 20,
    .execute "c" options 20, .settle 1 (.failure .nullPrototype) 21]

section Samples
variable {events : List (Event Rejection)} {event : Event Rejection} {clock now : Int}

def deadlines (s : State Rejection) : List Int :=
  s.executions.filterMap fun e =>
    match e.phase with
    | .running => some (e.started + e.options.timeout)
    | _ => none

theorem Punctual.next (punctual : Punctual events clock) (now : Int) (at_ : event.time = some now)
    (forth : clock ≤ now) (early : ∀ deadline ∈ deadlines (run events), now ≤ deadline) :
    Punctual (events ++ [event]) now := by
  refine .timed punctual at_ forth fun e member running => early _ ?_
  refine List.mem_filterMap.mpr ⟨e, member, ?_⟩
  rw [running]

theorem punctual_first : Punctual [.execute "c" options 0, .settle 0 (.failure .error) 1,
    .execute "c" options 20] 20 :=
  (((Punctual.start 0).next 0 rfl (by decide) (by decide)).next 1 rfl (by decide)
    (by decide)).next 20 rfl (by decide) (by decide)

end Samples

theorem probing_honest_of_reopened : ProbesHonestly "c" options reopened (.settle 2 .success 41) := by
  have punctual : Punctual (reopened ++ [.settle 2 .success 41]) 41 :=
    ((punctual_first.next 21 rfl (by decide) (by decide)).next 40 rfl (by decide)
      (by decide)).next 41 rfl (by decide) (by decide)
  apply probing_honest_of_told "c" options reopened (.settle 2 .success 41) 41 punctual
  · intro event member passed now same
    subst same
    simp only [reopened, List.cons_append, List.nil_append, List.mem_cons,
      BreakerEvent.execute.injEq, true_and, reduceCtorEq, false_or, or_false,
      List.not_mem_nil] at member
    rcases member with ⟨same, -⟩ | ⟨same, -⟩ | ⟨same, -⟩ <;> exact same
  · decide
  · decide
  · intro past execution rejection now reached _ _
    have member : .settle execution (.failure rejection) now ∈ reopened :=
      reached.subset (List.mem_append_right _ (List.mem_singleton_self _))
    simp only [reopened, List.mem_cons, BreakerEvent.settle.injEq, Outcome.failure.injEq,
      reduceCtorEq, false_or, or_false, List.not_mem_nil] at member
    rcases member with ⟨-, rfl, -⟩ | ⟨-, rfl, -⟩ <;> rfl

/-- A half-open circuit is closed after a failure that was counted. -/
theorem closed_despite_failure :
    Punctual (silenced ++ [.settle 2 .success 22]) 22 ∧
    (∀ event ∈ silenced ++ [.settle 2 .success 22], event.Passes "c" options) ∧
    ¬ ProbesHonestly "c" options silenced (.settle 2 .success 22) := by
  refine ⟨((punctual_first.next 20 rfl (by decide) (by decide)).next 21 rfl (by decide)
    (by decide)).next 22 rfl (by decide) (by decide), ?_, ?_⟩
  · intro event member passed now same
    subst same
    simp only [silenced, List.cons_append, List.nil_append, List.mem_cons,
      BreakerEvent.execute.injEq, true_and, reduceCtorEq, false_or, or_false,
      List.not_mem_nil] at member
    rcases member with ⟨same, -⟩ | ⟨same, -⟩ | ⟨same, -⟩ <;> exact same
  · intro honest
    obtain ⟨before, during, probes, split, episode, probed, -⟩ := honest.closes rfl rfl nofun
    obtain ⟨earlier, last, rfl⟩ := (List.eq_nil_or_concat' during).resolve_left episode.begun
    have same : (before ++ earlier) ++ [last] = _ := (List.append_assoc ..).trans split.symm
    have failure : silenced = silenced.take 4 ++ [.settle 1 (.failure .nullPrototype) 21] := rfl
    obtain ⟨past, single⟩ := List.append_inj' (same.trans failure) rfl
    obtain rfl := List.singleton_inj.mp single
    apply probed.unfailed earlier _ (List.prefix_append _ _)
    rw [past]
    exact ⟨1, ⟨"c", options, 20, .running⟩, .nullPrototype, 21, rfl, rfl, rfl, rfl, rfl⟩

end CircuitBreakerService

end Kanaka.Backend
