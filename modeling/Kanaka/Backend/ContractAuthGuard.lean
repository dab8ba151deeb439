import Kanaka.Backend.CircuitBreaker

/-! # `contract-auth.guard.ts` -/

namespace Kanaka.Backend.ContractAuthGuard
open CircuitBreakerService

structure ContractActionOptions where
  contract : String
  action : String
  roles : Option (List String)
deriving DecidableEq

/-- `request.user`; `roles` is absent unless it is an array. -/
structure User where
  address : Option String
  roles : Option (List String)
deriving DecidableEq

structure Request where
  contractAction : Option ContractActionOptions
  user : Option User
deriving DecidableEq

inductive Verdict where
  | allowed
  | unauthorized (message : String)
  | forbidden (message : String)
deriving DecidableEq

/-- A thrown value; `value` is one that is not an `Error`. -/
inductive Thrown where
  | forbiddenException (message : String)
  | error (message : String)
  | value
deriving DecidableEq

def Thrown.isError : Thrown → Bool
  | .forbiddenException _ => true
  | .error _ => true
  | .value => false

def Thrown.isForbidden : Thrown → Bool
  | .forbiddenException _ => true
  | _ => false

instance : Texts Thrown := ⟨Thrown.isError⟩

/-- `isAddress` and `actionRole` (the hash of `ROLE_` and the action) are functions of `ethers`. -/
structure Config where
  adminAddresses : List String
  isAddress : String → Bool
  actionRole : String → String
  toLowerCase : String → String

structure Chain where
  getContract : Except Thrown (String → Bool)
  hasRole : String → String → Except Thrown Bool
  owner : Except Thrown String
  canPerformAction : String → String → Except Thrown Bool

inductive Response where
  | answered (chain : Chain)
  | timedOut

variable (config : Config)

/-- The function that `canActivate` runs in the circuit breaker. -/
def checkPermission (chain : Chain) (contractAction : ContractActionOptions) (userAddress : String) :
    Except Thrown Unit := do
  let hasFunction ← chain.getContract
  -- Check if the user has the required role in the contract
  let hasRole ← if hasFunction "hasRole" then
      chain.hasRole (config.actionRole contractAction.action) userAddress
    else pure false
  if hasRole then return ()
  -- Check if the user is an owner
  let isOwner ← if hasFunction "owner" then do
      let owner ← chain.owner
      pure (decide (config.toLowerCase owner = userAddress))
    else pure false
  if isOwner then return ()
  -- Check if the user has permission for this specific action
  let canPerform ← if hasFunction "canPerformAction" then
      chain.canPerformAction userAddress contractAction.action
    else pure false
  if canPerform then return ()
  throw (.forbiddenException "You are not authorized to perform this action")

def contractKey (contractAction : ContractActionOptions) : String :=
  "contract:" ++ contractAction.contract

def circuitBreakerKey (contractAction : ContractActionOptions) : String :=
  "contract:" ++ contractAction.contract ++ ":" ++ contractAction.action

/-- What is left of a request that is neither admitted nor refused at once. -/
structure Check where
  contractAction : ContractActionOptions
  userAddress : String
deriving DecidableEq

/-- `canActivate` up to the permission check; `isOpen` tells of the circuit of the contract. -/
def judge (isOpen : String → Bool) (request : Request) : Verdict ⊕ Check :=
  match request.contractAction with
  | none => .inl .allowed
  | some contractAction =>
      match request.user.bind (·.address) with
      | none => .inl (.unauthorized "Authentication required for this action")
      | some address =>
          if address = "" then .inl (.unauthorized "Authentication required for this action")
          else if ¬ config.isAddress address then .inl (.unauthorized "Invalid address format")
          else
            let userAddress := config.toLowerCase address
            -- Check if the circuit breaker is tripped for this contract
            if isOpen (contractKey contractAction) then
              .inl (.forbidden ("Operations for " ++ contractAction.contract ++
                " are temporarily disabled"))
            else if config.adminAddresses.contains userAddress then .inl .allowed
            else
              match contractAction.roles with
              | none => .inr ⟨contractAction, userAddress⟩
              | some [] => .inr ⟨contractAction, userAddress⟩
              | some (role :: roles) =>
                  match request.user.bind (·.roles) with
                  | none => .inl (.unauthorized "You do not have the required role for this action")
                  | some userRoles =>
                      if (role :: roles).any (userRoles.contains ·) then .inl .allowed
                      else
                        .inl (.unauthorized "You do not have the required role for this action")

def rethrown : Thrown → Verdict
  | .forbiddenException message => .forbidden message
  | _ => .unauthorized "Error checking permissions"

def options : CircuitBreakerOptions Thrown :=
  { (defaultOptions : CircuitBreakerOptions Thrown) with failureTypes := [Thrown.isError, Thrown.isForbidden] }

/-! ## Histories -/

inductive GuardEvent where
  | request (id : Nat) (request : Request) (now : Int)
  | respond (id : Nat) (response : Response) (now : Int)

def GuardEvent.id : GuardEvent → Nat
  | .request id _ _ => id
  | .respond id _ _ => id

structure State where
  circuits : String → Option (Circuit Thrown)
  pending : Nat → Option Check
  verdicts : Nat → Option Verdict

namespace State

def initial : State := ⟨fun _ => none, fun _ => none, fun _ => none⟩

def isOpen (s : State) (key : String) : Bool :=
  (s.circuits key).any fun circuit => circuit.state = .opened

def answer (s : State) (id : Nat) (verdict : Verdict) : State :=
  { s with
    pending := Function.update s.pending id none
    verdicts := Function.update s.verdicts id (some verdict) }

end State

def outcome (response : Response) (check : Check) : Outcome Thrown :=
  match response with
  | .timedOut => .failure (.error "Operation timed out")
  | .answered chain =>
      match checkPermission config chain check.contractAction check.userAddress with
      | .ok () => .success
      | .error error => .failure error

def verdict : Outcome Thrown → Verdict
  | .success => .allowed
  | .failure error => rethrown error

def step (s : State) : GuardEvent → State
  | .request id request now =>
      match judge config s.isOpen request with
      | .inl verdict => s.answer id verdict
      | .inr check =>
          let key := circuitBreakerKey check.contractAction
          let entered := enter key options now (service.circuit options (s.circuits key))
          let circuits := Function.update s.circuits key (some entered.2)
          match entered.1 with
          | .ok () => { s with circuits, pending := Function.update s.pending id (some check) }
          | .error message => State.answer { s with circuits } id (rethrown (.error message))
  | .respond id response now =>
      match s.pending id with
      | none => s
      | some check =>
          let key := circuitBreakerKey check.contractAction
          let outcome := outcome config response check
          State.answer { s with
            circuits := Function.update s.circuits key
              ((s.circuits key).map (service.settle options now outcome)) } id (verdict outcome)

def run (events : List GuardEvent) : State := events.foldl (step config) .initial

end Kanaka.Backend.ContractAuthGuard
