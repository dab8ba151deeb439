import Kanaka.Backend.ContractAuthGuard
import Mathlib.Data.List.Induction

/-! # Requests that a contract denies -/

namespace Kanaka.Backend.ContractAuthGuard
open CircuitBreakerService

variable (config : Config)

def Asks (events : List GuardEvent) (id : Nat) (check : Check) : Prop :=
  ∃ request now, .request id request now ∈ events ∧
    judge config (fun _ => false) request = .inr check

variable (extra : Nat → Bool)

def Denied (events : List GuardEvent) : Prop :=
  ∀ id check response now, extra id = true → Asks config events id check →
    .respond id response now ∈ events → outcome config response check ≠ .success

/-- The additional requests never find nor leave a circuit of theirs open. -/
def Untripped (events : List GuardEvent) : Prop :=
  ∀ id check, extra id = true → Asks config events id check →
    ∀ past, past <+: events →
      (run config past).isOpen (circuitBreakerKey check.contractAction) = false

def without (events : List GuardEvent) : List GuardEvent :=
  events.filter fun event => !extra event.id

section Relation
variable {config extra}

section Circuits
variable {circuit : Circuit Thrown} {error : Thrown} {now : Int}

theorem failed_uncounted (uncounted : ¬ isFailureType options error = true) :
    failed options error now circuit = circuit := if_neg uncounted

theorem hasText_of_counts (counts : isFailureType options error = true) : hasText error ≠ false := by
  cases error with
  | forbiddenException | error => exact Bool.noConfusion
  | value => cases counts

theorem failed_counted (counts : isFailureType options error = true) :
    failed options error now circuit =
      if options.failureThreshold ≤ circuit.failures + 1 then
        { circuit with state := .opened, failures := circuit.failures + 1, lastFailure := now }
      else { circuit with failures := circuit.failures + 1, lastFailure := now } := by
  rw [failed, if_pos counts]
  exact if_neg (hasText_of_counts counts)

theorem failed_few (counts : isFailureType options error = true)
    (few : ¬ options.failureThreshold ≤ circuit.failures + 1) :
    failed options error now circuit =
      { circuit with failures := circuit.failures + 1, lastFailure := now } := by
  rw [failed_counted counts, if_neg few]

theorem few_of_stays (counts : isFailureType options error = true)
    (stays : (failed options error now circuit).state ≠ .opened) :
    ¬ options.failureThreshold ≤ circuit.failures + 1 := by
  intro many
  rw [failed_counted counts, if_pos many] at stays
  exact stays rfl

end Circuits

/-- Where both circuits are closed, the one with the additional requests has had at least the
failures of the other. -/
structure Trails (one two : Circuit Thrown) : Prop where
  state : one.state = .closed
  state' : two.state = .closed
  failures : one.failures ≤ two.failures

namespace Trails
variable {one two : Circuit Thrown} (trails : Trails one two)
include trails

theorem both_succeed : Trails (succeeded options one) (succeeded options two) := by
  obtain ⟨_, _, _, _, _⟩ := one
  obtain ⟨_, _, _, _, _⟩ := two
  obtain ⟨rfl, rfl, -⟩ := trails
  exact ⟨rfl, rfl, Int.le_refl 0⟩

theorem both_fail (error : Thrown) (now : Int)
    (stays : (failed options error now two).state ≠ .opened) :
    Trails (failed options error now one) (failed options error now two) := by
  by_cases counts : isFailureType options error = true
  · have few := few_of_stays counts stays
    have failures := trails.failures
    rw [failed_few counts few, failed_few counts (by omega)]
    exact ⟨trails.state, trails.state', Int.add_le_add_right failures 1⟩
  · rw [failed_uncounted counts, failed_uncounted counts]
    exact trails

theorem one_fails (error : Thrown) (now : Int)
    (stays : (failed options error now two).state ≠ .opened) :
    Trails one (failed options error now two) := by
  by_cases counts : isFailureType options error = true
  · rw [failed_few counts (few_of_stays counts stays)]
    exact ⟨trails.state, trails.state', Int.le_trans trails.failures (Int.le_add_one (Int.le_refl _))⟩
  · rw [failed_uncounted counts]
    exact trails

theorem enter (key : String) (now : Int) :
    CircuitBreakerService.enter key options now one = (.ok (), one) ∧
    CircuitBreakerService.enter key options now two = (.ok (), two) := by
  unfold CircuitBreakerService.enter
  rw [trails.state, trails.state']
  exact ⟨rfl, rfl⟩

end Trails

theorem Trails.settle {one : Option (Circuit Thrown)} {two : Circuit Thrown}
    (trails : Trails (service.circuit options one) two) (now : Int) (outcome : Outcome Thrown)
    (stays : (service.settle options now outcome two).state ≠ .opened) :
    Trails (service.circuit options (one.map (service.settle options now outcome)))
      (service.settle options now outcome two) := by
  cases outcome with
  | success => cases one <;> exact trails.both_succeed
  | failure error =>
      cases one with
      | none => exact trails.one_fails error now stays
      | some one => exact trails.both_fail error now stays

/-- A circuit of the runs without (`one`) and with (`two`) the additional requests, of which some
use it or none does. -/
def Apart (used : Prop) (one two : Option (Circuit Thrown)) : Prop :=
  (used → Trails (service.circuit options one) (service.circuit options two)) ∧ (¬ used → two = one)

theorem apart_of_used {used : Prop} (uses : used) {one two : Circuit Thrown}
    (trails : Trails one two) : Apart used (some one) (some two) :=
  ⟨fun _ => trails, fun unused => absurd uses unused⟩

theorem apart_of_unused {used : Prop} (unused : ¬ used) (circuit : Option (Circuit Thrown)) :
    Apart used circuit circuit := ⟨fun uses => absurd uses unused, fun _ => rfl⟩

variable (extra) in
structure Unaffected (used : String → Prop) (s s' : State) : Prop where
  pending : ∀ id, extra id = false → s'.pending id = s.pending id
  verdicts : ∀ id, extra id = false → s'.verdicts id = s.verdicts id
  circuits : ∀ key, Apart (used key) (s.circuits key) (s'.circuits key)
  entered : ∀ id check, s'.pending id = some check →
    ∃ circuit, s'.circuits (circuitBreakerKey check.contractAction) = some circuit

namespace State
variable {s : State} {id other : Nat} {verdict : Verdict}

theorem answer_pending_self : (s.answer id verdict).pending id = none := Function.update_self ..

theorem answer_pending_of_ne (away : other ≠ id) :
    (s.answer id verdict).pending other = s.pending other := Function.update_of_ne away ..

theorem answer_verdicts_self : (s.answer id verdict).verdicts id = some verdict :=
  Function.update_self ..

theorem answer_verdicts_of_ne (away : other ≠ id) :
    (s.answer id verdict).verdicts other = s.verdicts other := Function.update_of_ne away ..

theorem stays_of_isOpen {circuit : Circuit Thrown} {key : String}
    {f : Circuit Thrown → Circuit Thrown} (found : s.circuits key = some circuit)
    (stays : (State.answer { s with
      circuits := Function.update s.circuits key ((s.circuits key).map f) } id verdict).isOpen key =
        false) : (f circuit).state ≠ .opened := by
  simpa [isOpen, answer, found] using stays

theorem pending_of_answer {pending : Nat → Option Check} {check : Check}
    (asked : Function.update pending id none other = some check) : pending other = some check := by
  by_cases here : other = id
  · subst here
    rw [Function.update_self] at asked
    contradiction
  · rwa [Function.update_of_ne here] at asked

end State

section Updates
variable {used : String → Prop} {s s' : State} {id : Nat} {key : String}

theorem Unaffected.isOpen (same : Unaffected extra used s s') : s'.isOpen = s.isOpen := by
  funext key
  obtain ⟨trails, equal⟩ := same.circuits key
  by_cases uses : used key
  · obtain ⟨closed, closed', -⟩ := trails uses
    unfold State.isOpen
    revert closed closed'
    cases s.circuits key <;> cases s'.circuits key <;> intro closed closed' <;>
      simp_all [Breaker.circuit]
  · unfold State.isOpen
    rw [equal uses]

theorem Apart.update {one two : Option (Circuit Thrown)}
    (apart : ∀ key, Apart (used key) (s.circuits key) (s'.circuits key))
    (here : Apart (used key) one two) (other : String) :
    Apart (used other) (Function.update s.circuits key one other)
      (Function.update s'.circuits key two other) := by
  by_cases same : other = key
  · subst same
    rw [Function.update_self, Function.update_self]
    exact here
  · rw [Function.update_of_ne same, Function.update_of_ne same]
    exact apart other

theorem Unaffected.answer (same : Unaffected extra used s s') (id : Nat) (verdict : Verdict) :
    Unaffected extra used (s.answer id verdict) (s'.answer id verdict) := by
  refine ⟨fun other shared => ?_, fun other shared => ?_, same.circuits, fun other check asked => ?_⟩
  · by_cases here : other = id
    · subst here
      rw [State.answer_pending_self, State.answer_pending_self]
    · rw [State.answer_pending_of_ne here, State.answer_pending_of_ne here, same.pending other shared]
  · by_cases here : other = id
    · subst here
      rw [State.answer_verdicts_self, State.answer_verdicts_self]
    · rw [State.answer_verdicts_of_ne here, State.answer_verdicts_of_ne here,
        same.verdicts other shared]
  · exact same.entered other check (State.pending_of_answer asked)

theorem Unaffected.answer_extra (same : Unaffected extra used s s') {id : Nat}
    (additional : extra id = true) (verdict : Verdict) :
    Unaffected extra used s (s'.answer id verdict) := by
  have away : ∀ other, extra other = false → other ≠ id := by
    rintro other shared rfl
    rw [shared] at additional
    contradiction
  refine ⟨fun other shared => ?_, fun other shared => ?_, same.circuits, fun other check asked => ?_⟩
  · rw [State.answer_pending_of_ne (away other shared), same.pending other shared]
  · rw [State.answer_verdicts_of_ne (away other shared), same.verdicts other shared]
  · exact same.entered other check (State.pending_of_answer asked)

theorem Unaffected.write (same : Unaffected extra used s s') {one two : Option (Circuit Thrown)}
    (here : Apart (used key) one two)
    (stays : ∀ circuit, s'.circuits key = some circuit → ∃ circuit, two = some circuit) :
    Unaffected extra used { s with circuits := Function.update s.circuits key one }
      { s' with circuits := Function.update s'.circuits key two } := by
  refine ⟨same.pending, same.verdicts, Apart.update same.circuits here, fun other check asked => ?_⟩
  obtain ⟨circuit, found⟩ := same.entered other check asked
  by_cases this : circuitBreakerKey check.contractAction = key
  · rw [this] at found ⊢
    simp only [Function.update_self]
    exact stays circuit found
  · simp only [Function.update_of_ne this]
    exact ⟨circuit, found⟩

theorem Unaffected.write_extra (same : Unaffected extra used s s') {two : Option (Circuit Thrown)}
    (here : Apart (used key) (s.circuits key) two)
    (stays : ∀ circuit, s'.circuits key = some circuit → ∃ circuit, two = some circuit) :
    Unaffected extra used s { s' with circuits := Function.update s'.circuits key two } := by
  have written := same.write here stays
  rwa [Function.update_eq_self] at written

theorem Unaffected.ask (same : Unaffected extra used s s') (id : Nat) {check : Check}
    (entered : ∃ circuit, s'.circuits (circuitBreakerKey check.contractAction) = some circuit) :
    Unaffected extra used { s with pending := Function.update s.pending id (some check) }
      { s' with pending := Function.update s'.pending id (some check) } := by
  refine ⟨fun other shared => ?_, same.verdicts, same.circuits, fun other check' asked => ?_⟩
  · by_cases here : other = id
    · subst here
      simp only [Function.update_self]
    · simp only [Function.update_of_ne here]
      exact same.pending other shared
  · by_cases here : other = id
    · subst here
      simp only [Function.update_self, Option.some.injEq] at asked
      exact asked ▸ entered
    · simp only [Function.update_of_ne here] at asked
      exact same.entered other check' asked

theorem Unaffected.ask_extra (same : Unaffected extra used s s') {id : Nat}
    (additional : extra id = true) {check : Check}
    (entered : ∃ circuit, s'.circuits (circuitBreakerKey check.contractAction) = some circuit) :
    Unaffected extra used s
      { s' with pending := Function.update s'.pending id (some check) } := by
  have asked := same.ask id entered
  refine ⟨fun other shared => ?_, same.verdicts, same.circuits, asked.entered⟩
  have away : other ≠ id := by
    rintro rfl
    rw [shared] at additional
    contradiction
  simp only [Function.update_of_ne away]
  exact same.pending other shared

end Updates

section Steps
variable {used : String → Prop} {s s' : State} {id : Nat} {now : Int}
  (same : Unaffected extra used s s')
include same

theorem Unaffected.request (request : Request) :
    Unaffected extra used (step config s (.request id request now))
      (step config s' (.request id request now)) := by
  simp only [step, same.isOpen]
  cases judge config s.isOpen request with
  | inl verdict => exact same.answer id verdict
  | inr check =>
      obtain ⟨trails, equal⟩ := same.circuits (circuitBreakerKey check.contractAction)
      by_cases uses : used (circuitBreakerKey check.contractAction)
      · obtain ⟨one, two⟩ := (trails uses).enter (circuitBreakerKey check.contractAction) now
        simp only [one, two]
        exact (same.write (apart_of_used uses (trails uses)) fun _ _ => ⟨_, rfl⟩).ask id
          ⟨_, Function.update_self ..⟩
      · simp only [equal uses]
        generalize enter (circuitBreakerKey check.contractAction) options now
          (service.circuit options (s.circuits (circuitBreakerKey check.contractAction))) = entered
        have written := same.write (apart_of_unused uses (some entered.2)) fun _ _ => ⟨_, rfl⟩
        cases entered.1 with
        | ok _ => exact written.ask id ⟨_, Function.update_self ..⟩
        | error message => exact written.answer id _

theorem Unaffected.request_extra (additional : extra id = true) (request : Request)
    (asks : ∀ check, judge config s'.isOpen request = .inr check →
      used (circuitBreakerKey check.contractAction)) :
    Unaffected extra used s (step config s' (.request id request now)) := by
  simp only [step]
  cases judged : judge config s'.isOpen request with
  | inl verdict => exact same.answer_extra additional verdict
  | inr check =>
      have uses := asks check judged
      obtain ⟨trails, -⟩ := same.circuits (circuitBreakerKey check.contractAction)
      obtain ⟨-, two⟩ := (trails uses).enter (circuitBreakerKey check.contractAction) now
      simp only [two]
      have apart : Apart (used (circuitBreakerKey check.contractAction))
          (s.circuits (circuitBreakerKey check.contractAction))
          (some (service.circuit options (s'.circuits (circuitBreakerKey check.contractAction)))) :=
        ⟨fun _ => trails uses, fun unused => absurd uses unused⟩
      exact (same.write_extra apart fun _ _ => ⟨_, rfl⟩).ask_extra additional
        ⟨_, Function.update_self ..⟩

theorem Unaffected.respond (shared : extra id = false) (response : Response)
    (stays : ∀ key, used key → (step config s' (.respond id response now)).isOpen key = false) :
    Unaffected extra used (step config s (.respond id response now))
      (step config s' (.respond id response now)) := by
  simp only [step, same.pending id shared] at stays ⊢
  cases asked : s.pending id with
  | none => exact same
  | some check =>
      simp only [asked] at stays
      obtain ⟨circuit, found⟩ := same.entered id check ((same.pending id shared).trans asked)
      obtain ⟨trails, equal⟩ := same.circuits (circuitBreakerKey check.contractAction)
      refine (same.write ?_ fun circuit found => ⟨_, congrArg (Option.map _) found⟩).answer id _
      by_cases uses : used (circuitBreakerKey check.contractAction)
      · have stays := State.stays_of_isOpen found (stays _ uses)
        rw [found] at trails ⊢
        exact ⟨fun _ => (trails uses).settle now _ stays, fun unused => absurd uses unused⟩
      · rw [equal uses]
        exact apart_of_unused uses _

theorem Unaffected.respond_extra (additional : extra id = true) (response : Response)
    (asks : ∀ check, s'.pending id = some check → used (circuitBreakerKey check.contractAction) ∧
      outcome config response check ≠ .success)
    (stays : ∀ key, used key → (step config s' (.respond id response now)).isOpen key = false) :
    Unaffected extra used s (step config s' (.respond id response now)) := by
  simp only [step] at stays ⊢
  cases asked : s'.pending id with
  | none => exact same
  | some check =>
      simp only [asked] at stays
      obtain ⟨uses, refused⟩ := asks check asked
      obtain ⟨circuit, found⟩ := same.entered id check asked
      obtain ⟨trails, -⟩ := same.circuits (circuitBreakerKey check.contractAction)
      refine (same.write_extra ?_ fun circuit found => ⟨_, congrArg (Option.map _) found⟩).answer_extra
        additional _
      have stays := State.stays_of_isOpen found (stays _ uses)
      rw [found] at trails ⊢
      cases response : outcome config response check with
      | success => exact absurd response refused
      | failure error =>
          rw [response] at stays
          exact ⟨fun _ => (trails uses).one_fails error now stays, fun unused => absurd uses unused⟩

end Steps

/-! ## Runs -/

section Runs
variable {events past : List GuardEvent} {id : Nat} {check : Check}

theorem run_concat (event : GuardEvent) :
    run config (past ++ [event]) = step config (run config past) event := by
  simp only [run, List.foldl_append, List.foldl_cons, List.foldl_nil]

theorem judge_of_open {isOpen : String → Bool} {request : Request}
    (judged : judge config isOpen request = .inr check) :
    judge config (fun _ => false) request = .inr check := by
  unfold judge at judged ⊢
  cases action : request.contractAction with
  | none => simp [action] at judged
  | some contractAction =>
      cases user : request.user.bind (·.address) with
      | none => simp [action, user] at judged
      | some address =>
          by_cases tripped : isOpen (contractKey contractAction) = true
          · simp only [action, user, tripped, if_true] at judged
            split at judged
            · contradiction
            · split at judged <;> contradiction
          · simpa only [action, user, tripped, Bool.false_eq_true, if_false] using judged

theorem Asks.mono (asks : Asks config past id check) (reached : past <+: events) :
    Asks config events id check := by
  obtain ⟨request, now, member, judged⟩ := asks
  exact ⟨request, now, reached.subset member, judged⟩

theorem asks_of_pending (asked : (run config events).pending id = some check) :
    Asks config events id check := by
  induction events using List.reverseRecOn with
  | nil => contradiction
  | append_singleton past event ih =>
      have before : (run config past).pending id = some check → Asks config (past ++ [event]) id check :=
        fun asked => (ih asked).mono (List.prefix_append _ _)
      rw [run_concat] at asked
      cases event with
      | request other request now =>
          simp only [step] at asked
          split at asked
          · exact before (State.pending_of_answer asked)
          · rename_i check' judged
            split at asked
            · by_cases here : id = other
              · subst here
                simp only [Function.update_self, Option.some.injEq] at asked
                subst asked
                exact ⟨request, now, by simp, judge_of_open judged⟩
              · simp only [Function.update_of_ne here] at asked
                exact before asked
            · exact before (State.pending_of_answer asked)
      | respond other response now =>
          simp only [step] at asked
          split at asked
          · exact before asked
          · exact before (State.pending_of_answer asked)

variable (config extra events) in
def Used (key : String) : Prop :=
  ∃ id check, extra id = true ∧ Asks config events id check ∧
    key = circuitBreakerKey check.contractAction

theorem unaffected_of_run (denied : Denied config extra events)
    (untripped : Untripped config extra events) (reached : past <+: events) :
    Unaffected extra (Used config extra events) (run config (without extra past))
      (run config past) := by
  induction past using List.reverseRecOn with
  | nil =>
      refine ⟨fun _ _ => rfl, fun _ _ => rfl, fun _ => ⟨fun _ => ⟨rfl, rfl, Int.le_refl _⟩, fun _ => rfl⟩,
        fun id check asked => by contradiction⟩
  | append_singleton past event ih =>
      have earlier := (List.prefix_append past [event]).trans reached
      have same := ih earlier
      have stays : ∀ key, Used config extra events key →
          (step config (run config past) event).isOpen key = false := by
        rintro key ⟨id, check, additional, asks, rfl⟩
        rw [← run_concat]
        exact untripped id check additional asks _ reached
      have member : event ∈ events := reached.subset (by simp)
      rw [run_concat]
      cases additional : extra event.id with
      | false =>
          have kept : without extra (past ++ [event]) = without extra past ++ [event] := by
            simp [without, List.filter_append, additional]
          rw [kept, run_concat]
          cases event with
          | request id request now => exact same.request request
          | respond id response now => exact same.respond additional response stays
      | true =>
          have dropped : without extra (past ++ [event]) = without extra past := by
            simp [without, List.filter_append, additional]
          rw [dropped]
          cases event with
          | request id request now =>
              refine same.request_extra additional request fun check judged => ?_
              exact ⟨id, check, additional, ⟨request, now, member, judge_of_open judged⟩, rfl⟩
          | respond id response now =>
              refine same.respond_extra additional response (fun check asked => ?_) stays
              have asks := (asks_of_pending asked).mono earlier
              exact ⟨⟨id, check, additional, asks, rfl⟩,
                denied id check response now additional asks member⟩

end Runs

end Relation

/-- As long as the additional requests, none of which the contract grants, trip no circuit of
theirs, every other request is decided as without them. -/
theorem unaffected_of_untripped (events : List GuardEvent) (denied : Denied config extra events)
    (untripped : Untripped config extra events) (id : Nat) (shared : extra id = false) :
    (run config events).verdicts id = (run config (without extra events)).verdicts id :=
  (unaffected_of_run denied untripped (List.prefix_refl events)).verdicts id shared

namespace Vault

def alice : String := "0x00000000000000000000000000000000000000aa"

def mallory : String := "0x00000000000000000000000000000000000000bb"

def ethers : Config where
  adminAddresses := []
  isAddress address := address = alice || address = mallory
  actionRole action := "ROLE_" ++ action
  toLowerCase address := address

def deposit : ContractActionOptions := ⟨"Vault", "deposit", none⟩

def asks (address : String) : Request := ⟨some deposit, some ⟨some address, none⟩⟩

def chain : Chain where
  getContract := .ok (· = "canPerformAction")
  hasRole _ _ := .ok false
  owner := .ok ""
  canPerformAction address _ := .ok (address = alice)

def visit (id : Nat) (address : String) : List GuardEvent :=
  [.request id (asks address) id, .respond id (.answered chain) id]

def history (n : Nat) : List GuardEvent :=
  (List.range n).flatMap (fun id => visit id mallory) ++ visit n alice

theorem mem_visit {event : GuardEvent} {id : Nat} {address : String}
    (member : event ∈ visit id address) :
    event = .request id (asks address) id ∨ event = .respond id (.answered chain) id := by
  simpa [visit] using member

theorem check_of_asks {n id : Nat} {check : Check} (early : id < n)
    (asked : Asks ethers (history n) id check) : check = ⟨deposit, mallory⟩ := by
  obtain ⟨request, now, member, judged⟩ := asked
  simp only [history, List.mem_append, List.mem_flatMap, List.mem_range] at member
  obtain ⟨_, _, member⟩ | member := member
  · obtain same | same := mem_visit member
    · obtain ⟨rfl, rfl, rfl⟩ := GuardEvent.request.inj same
      have : judge ethers (fun _ => false) (asks mallory) = .inr ⟨deposit, mallory⟩ := by decide
      rw [this] at judged
      exact (Sum.inr.inj judged).symm
    · contradiction
  · obtain same | same := mem_visit member
    · obtain ⟨rfl, rfl, rfl⟩ := GuardEvent.request.inj same
      exact absurd early (Nat.lt_irrefl _)
    · contradiction

theorem denied (n : Nat) : Denied ethers (· < n) (history n) := by
  intro id check response now additional asked member
  obtain rfl := check_of_asks (of_decide_eq_true additional) asked
  have answered : response = .answered chain := by
    simp only [history, List.mem_append, List.mem_flatMap, List.mem_range] at member
    obtain ⟨_, _, member⟩ | member := member <;> obtain same | same := mem_visit member
    · contradiction
    · exact (GuardEvent.respond.inj same).2.1
    · contradiction
    · exact (GuardEvent.respond.inj same).2.1
  subst answered
  have refused : outcome ethers (.answered chain) ⟨deposit, mallory⟩ =
    .failure (.forbiddenException "You are not authorized to perform this action") := rfl
  rw [refused]
  intro granted
  contradiction

end Vault

theorem unaffected_of_denial :
    (run Vault.ethers (Vault.history 1)).verdicts 1 =
      (run Vault.ethers (without (· < 1) (Vault.history 1))).verdicts 1 := by
  refine unaffected_of_untripped Vault.ethers _ (Vault.history 1) (Vault.denied 1) ?_ 1 rfl
  intro id check additional asked past reached
  obtain rfl := Vault.check_of_asks (of_decide_eq_true additional) asked
  have shut : ∀ n < 5, (run Vault.ethers ((Vault.history 1).take n)).isOpen
    (circuitBreakerKey Vault.deposit) = false := by decide
  rw [List.prefix_iff_eq_take.mp reached]
  exact shut past.length (Nat.lt_succ_of_le reached.length_le)

/-- After five requests of Mallory that the contract denies, Alice is refused. -/
theorem refused_after_denials :
    Denied Vault.ethers (· < 5) (Vault.history 5) ∧
    checkPermission Vault.ethers Vault.chain Vault.deposit Vault.alice = .ok () ∧
    (run Vault.ethers (without (· < 5) (Vault.history 5))).verdicts 5 = some .allowed ∧
    (run Vault.ethers (Vault.history 5)).verdicts 5 =
      some (.unauthorized "Error checking permissions") :=
  ⟨Vault.denied 5, by decide, by decide, by decide⟩

end Kanaka.Backend.ContractAuthGuard
