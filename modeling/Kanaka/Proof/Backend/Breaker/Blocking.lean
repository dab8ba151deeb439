import Kanaka.Proof.Backend.Breaker.Denials

/-! # Requests for a contract that has a circuit open -/

namespace Kanaka.Backend.ContractAuthGuard
open CircuitBreakerService

/-- A circuit that the guard's calls for the contract use is open, and not for long enough. -/
def Tripped (s : State) (contract : String) (now : Int) : Prop :=
  ∃ contractAction : ContractActionOptions, contractAction.contract = contract ∧
    ∃ circuit, s.circuits (circuitBreakerKey contractAction) = some circuit ∧
      circuit.state = .opened ∧ now - circuit.lastFailure < options.resetTimeout

/-- What the check of the breaker is for: while the contract is tripped the request is forbidden,
before anything grants it. -/
def Blocks (config : Config) (s : State) (request : Request) (now : Int) : Prop :=
  ∀ contractAction, request.contractAction = some contractAction →
    Tripped s contractAction.contract now →
      ∃ message, judge config s.isOpen request = .inl (.forbidden message)

def Addressed (config : Config) (request : Request) : Prop :=
  ∃ address, request.user.bind (·.address) = some address ∧ address ≠ "" ∧ config.isAddress address

/-- The name of the contract is also the name of an action of another one, and that action's
circuit is open. -/
def Aliased (s : State) (contract : String) : Prop :=
  ∃ other : ContractActionOptions, contract = other.contract ++ ":" ++ other.action ∧
    s.isOpen (circuitBreakerKey other)

section Guard
variable {config : Config} {request : Request} {contractAction : ContractActionOptions}
  {isOpen : String → Bool}

theorem forbidden_iff (action : request.contractAction = some contractAction) :
    (∃ message, judge config isOpen request = .inl (.forbidden message)) ↔
      Addressed config request ∧ isOpen (contractKey contractAction) = true := by
  unfold judge Addressed
  rw [action]
  cases request.user.bind (·.address) with
  | none => simp
  | some address =>
      by_cases empty : address = ""
      · simp [empty]
      · by_cases invalid : config.isAddress address = true
        · cases tripped : isOpen (contractKey contractAction) with
          | true => simp [empty, invalid, tripped]
          | false =>
              -- the request is granted, refused or comes to the permission check
              refine iff_of_false ?_ (by simp)
              rintro ⟨message, judged⟩
              simp only [empty, invalid, tripped, if_false, not_true, Bool.false_eq_true] at judged
              split at judged
              · cases judged
              · split at judged
                · cases judged
                · cases judged
                · split at judged
                  · cases judged
                  · split at judged <;> cases judged
        · simp [empty, invalid]

/-! ## The keys of a run -/

def Keyed (s : State) : Prop :=
  ∀ key circuit, s.circuits key = some circuit →
    ∃ contractAction, key = circuitBreakerKey contractAction

theorem Keyed.update {s : State} (keyed : Keyed s) (contractAction : ContractActionOptions)
    (circuit : Option (Circuit Thrown)) {key : String} {found : Circuit Thrown}
    (written : Function.update s.circuits (circuitBreakerKey contractAction) circuit key = some found) :
    ∃ contractAction, key = circuitBreakerKey contractAction := by
  by_cases same : key = circuitBreakerKey contractAction
  · exact ⟨contractAction, same⟩
  · rw [Function.update_of_ne same] at written
    exact keyed key found written

theorem Keyed.step {s : State} (keyed : Keyed s) (event : GuardEvent) : Keyed (step config s event) := by
  intro key circuit found
  cases event with
  | request id request now =>
      simp only [ContractAuthGuard.step] at found
      split at found
      · exact keyed key circuit found
      · split at found
        · exact keyed.update _ _ found
        · exact keyed.update _ _ found
  | respond id response now =>
      simp only [ContractAuthGuard.step] at found
      split at found
      · exact keyed key circuit found
      · exact keyed.update _ _ found

theorem keyed_run (events : List GuardEvent) : Keyed (run config events) := by
  induction events using List.reverseRecOn with
  | nil =>
      intro key circuit found
      cases found
  | append_singleton past event ih =>
      rw [run, List.foldl_append]
      exact ih.step event

theorem isOpen_contractKey {s : State} (keyed : Keyed s) (contractAction : ContractActionOptions) :
    s.isOpen (contractKey contractAction) = true ↔ Aliased s contractAction.contract := by
  have keys (other : ContractActionOptions) : contractKey contractAction = circuitBreakerKey other ↔
      contractAction.contract = other.contract ++ ":" ++ other.action := by
    rw [contractKey, circuitBreakerKey, String.append_assoc, String.append_assoc, String.append_right_inj,
      String.append_assoc]
  constructor
  · intro opened
    obtain ⟨circuit, found, -⟩ := (Option.any_eq_true _ _).mp opened
    obtain ⟨other, same⟩ := keyed _ circuit found
    exact ⟨other, (keys other).mp same, same ▸ opened⟩
  · rintro ⟨other, same, opened⟩
    rw [(keys other).mpr same]
    exact opened

/-- The guard looks at a circuit that no call for the contract uses. -/
theorem blocks_iff (config : Config) (events : List GuardEvent) (request : Request) (now : Int) :
    Blocks config (run config events) request now ↔
      ∀ contractAction, request.contractAction = some contractAction →
        Tripped (run config events) contractAction.contract now →
          Addressed config request ∧ Aliased (run config events) contractAction.contract := by
  unfold Blocks
  apply forall₂_congr
  intro contractAction action
  rw [forbidden_iff action, isOpen_contractKey (keyed_run events)]

end Guard

namespace Vault

def administered : Config := { ethers with adminAddresses := [alice] }

end Vault

/-- After five denials the deposit's circuit is open, and Alice's deposit is allowed. -/
theorem allowed_while_tripped :
    Tripped (run Vault.administered (Vault.history 5)) "Vault" 6 ∧
    judge Vault.administered (run Vault.administered (Vault.history 5)).isOpen
      (Vault.asks Vault.alice) = .inl .allowed ∧
    ¬ Blocks Vault.administered (run Vault.administered (Vault.history 5)) (Vault.asks Vault.alice) 6 := by
  have opened : ((run Vault.administered (Vault.history 5)).circuits
      (circuitBreakerKey Vault.deposit)).any (fun circuit => circuit.state = .opened ∧
        6 - circuit.lastFailure < (options : CircuitBreakerOptions Thrown).resetTimeout) = true := by decide
  have tripped : Tripped (run Vault.administered (Vault.history 5)) "Vault" 6 := by
    obtain ⟨circuit, found, holds⟩ := (Option.any_eq_true _ _).mp opened
    exact ⟨Vault.deposit, rfl, circuit, found, of_decide_eq_true holds⟩
  have allowed : judge Vault.administered (run Vault.administered (Vault.history 5)).isOpen
      (Vault.asks Vault.alice) = .inl .allowed := by decide
  refine ⟨tripped, allowed, ?_⟩
  intro blocks
  obtain ⟨message, forbidden⟩ := blocks Vault.deposit rfl tripped
  rw [allowed] at forbidden
  cases forbidden

end Kanaka.Backend.ContractAuthGuard
