import Mathlib.Data.List.Infix

/-! # `error-handler.service.ts` -/

namespace Kanaka.Backend

inductive BlockchainErrorType where
  | transactionReverted
  | transactionReplaced
  | transactionUnderpriced
  | transactionOutOfGas
  | transactionFailed
  | nonceExpired
  | nonceTooLow
  | nonceTooHigh
  | networkError
  | timeout
  | rateLimit
  | unpredictableGas
  | contractError
  | contractNotDeployed
  | invalidArgument
  | missingArgument
  | insufficientFunds
  | unauthorized
  | rejectedByUser
  | chainDisconnected
  | unsupportedOperation
  | unknownError
deriving DecidableEq

/-- A value by what `+` and what a template make of it, `none` where they throw. -/
structure Shown where
  appended : Option String
  inTemplate : Option String
deriving DecidableEq

/-- A truthy `error.data`: a primitive, by its text; an object, of which three fields are read; or
any other value, by its `message`, or else by itself (`none` where reading `message` throws). -/
inductive ErrorData where
  | text (value : String) (filled : value ≠ "")
  | object (message reason argument : Option String)
  | other (shown : Option Shown)
deriving DecidableEq

/-- A thrown object; a field that is absent is `none`. `transactionHash` is `transaction?.hash`. -/
structure JsError where
  isError : Bool
  code : Option String
  message : Option String
  reason : Option String
  data : Option ErrorData
  argument : Option String
  hash : Option String
  transactionHash : Option String
deriving DecidableEq

def JsError.empty : JsError := ⟨false, none, none, none, none, none, none, none⟩

def JsError.ofMessage (message : String) : JsError :=
  { JsError.empty with isError := true, message := some message }

/-- `error instanceof Error ? error : new Error(String(error))` -/
def JsError.asError (error : JsError) : JsError :=
  if error.isError then error else .ofMessage "[object Object]"

theorem bind_eq_ok {α β : Type} {first : Except JsError α} {next : α → Except JsError β} {result : β}
    (ok : (first >>= next) = .ok result) : ∃ value, first = .ok value ∧ next value = .ok result := by
  cases first with
  | error error => cases ok
  | ok value => exact ⟨value, rfl, ok⟩

structure BlockchainError where
  type : BlockchainErrorType
  message : String
  code : Option String
  data : Option ErrorData
  originalError : JsError
  context : String
  transactionHash : Option String
  retryable : Option Bool
  userFriendlyMessage : Option String
deriving DecidableEq

/-- The structured error when it is thrown and caught again. -/
def BlockchainError.thrown (error : BlockchainError) : JsError :=
  { JsError.empty with code := error.code, message := some error.message, data := error.data }

/-! ## Strings -/

def truthy : Option String → Bool
  | some text => text ≠ ""
  | none => false

def orElse (first second : Option String) : Option String :=
  if truthy first then first else second

/-- What `+` appends for a value that may be undefined. -/
def appended (value : Option String) : String := value.getD "undefined"

def includes (text part : String) : Bool := decide (part.toList <:+: text.toList)

/-- `(.+?)` followed by a place where `stop` holds of what is left: `.` matches no line end. -/
def capture (stop : List Char → Bool) : List Char → Option (List Char)
  | [] => none
  | c :: rest =>
      if c ∈ ['\n', '\r', '\u2028', '\u2029'] then none
      else if stop rest then some [c]
      else (capture stop rest).map (c :: ·)

def search (opening : List Char) (stop : List Char → Bool) : List Char → Option (List Char)
  | [] => none
  | c :: rest =>
      let found :=
        if opening <+: c :: rest then capture stop ((c :: rest).drop opening.length) else none
      match found with
      | some captured => some captured
      | none => search opening stop rest

inductive RevertReason where
  | text (value : String)
  | other (shown : Shown)
deriving DecidableEq

namespace RevertReason

def truthy : RevertReason → Bool
  | .text value => value ≠ ""
  | .other _ => true

def shown : RevertReason → Shown
  | .text value => ⟨some value, some value⟩
  | .other shown => shown

end RevertReason

/-- `error.data.message || error.data` -/
def ErrorData.revertReason : ErrorData → Option RevertReason
  | .text value _ => some (.text value)
  | .object message _ _ =>
      some (.text (if truthy message then message.getD "" else "[object Object]"))
  | .other shown => shown.map .other

def matchOfUndefined : JsError :=
  .ofMessage "Cannot read properties of undefined (reading 'match')"

def textOf : Option String → Except JsError String
  | some text => .ok text
  | none => .error (.ofMessage "Cannot convert object to primitive value")

def extractRevertReason (error : JsError) : Except JsError RevertReason :=
  match error.data.bind (·.revertReason) with
  | some reason => .ok reason
  | none =>
      match error.message with
      | none => .error matchOfUndefined
      | some message =>
          -- /reverted with reason string '(.+?)'/
          match search "reverted with reason string '".toList (fun rest => rest.head? = some '\'')
            message.toList with
          | some reason => .ok (.text (String.ofList reason))
          | none =>
              -- /reverted: (.+?)(?:$|\\n)/ ends at the end of the text or at a backslash and an n
              match search "reverted: ".toList (fun rest => rest = [] ∨ ['\\', 'n'] <+: rest)
                message.toList with
              | some reason => .ok (.text (String.ofList reason))
              | none => .ok (.text ((orElse error.reason (some "")).getD ""))

/-! ## The handler -/

def ErrorData.reason : ErrorData → Option String
  | .object _ reason _ => reason
  | _ => none

def ErrorData.argument : ErrorData → Option String
  | .object _ _ argument => argument
  | _ => none

def getUserFriendlyMessage (error : BlockchainError) : Except JsError String :=
  match error.type with
  | .transactionReverted => do
      let reason ← if includes error.message "reverted" then extractRevertReason error.originalError
        else .ok (.text "")
      if reason.truthy then do
        let text ← textOf reason.shown.inTemplate
        return "Transaction failed: " ++ text
      else return "The transaction was rejected by the blockchain. " ++
        "Please check your inputs and try again."
  | .transactionOutOfGas =>
      .ok "The transaction ran out of gas. Please try again with a higher gas limit."
  | .transactionUnderpriced =>
      .ok "The transaction fee is too low. Please try again with a higher fee."
  | .transactionReplaced =>
      .ok (if error.data.bind (·.reason) = some "cancelled" then
          "The transaction was cancelled. Please try again."
        else if error.data.bind (·.reason) = some "repriced" then
          "The transaction was replaced with a higher fee."
        else "The transaction was replaced by another transaction.")
  | .insufficientFunds => .ok "You do not have enough funds to complete this transaction."
  | .unauthorized => .ok "You are not authorized to perform this action."
  | .rejectedByUser => .ok "The transaction was rejected by the user."
  | .invalidArgument =>
      .ok ("Invalid input: " ++ appended (orElse (error.data.bind (·.argument))
        (some "Please check your inputs and try again.")))
  | .missingArgument =>
      .ok ("Missing required input: " ++ appended (orElse (error.data.bind (·.argument))
        (some "Please provide all required information.")))
  | .networkError | .chainDisconnected =>
      .ok ("There was a problem connecting to the blockchain. " ++
        "Please check your network connection and try again.")
  | .timeout =>
      .ok "The operation timed out. The network might be congested. Please try again later."
  | .rateLimit => .ok "Too many requests. Please wait a moment and try again."
  | .unpredictableGas =>
      .ok ("Unable to estimate gas for this transaction. " ++
        "The operation might not be possible with the current parameters.")
  | .contractNotDeployed => .ok "The contract does not exist at the specified address."
  | .nonceTooLow | .nonceTooHigh | .nonceExpired =>
      .ok "Transaction sequence error. Please try again."
  | .unsupportedOperation =>
      .ok "This operation is not supported by the current network or contract."
  | _ => .ok "An unexpected error occurred. Please try again later."

/-- The `UNKNOWN_ERROR` and `default` cases, which look at the message. -/
def classifyMessage (error : JsError) (base : BlockchainError) :
    Except JsError BlockchainError :=
  match error.message with
  | none => .ok base
  | some message =>
      if message = "" then .ok base
      else if includes message "gas required exceeds allowance" ∨ includes message "out of gas" then
        .ok { base with
          type := .transactionOutOfGas, message := "Transaction ran out of gas", retryable := some true }
      else if includes message "execution reverted" then do
        let reason ← extractRevertReason error
        let text ← textOf reason.shown.appended
        return { base with
          type := .transactionReverted, message := "Transaction reverted: " ++ text,
          retryable := some false }
      else if includes message "rate limit" then
        .ok { base with type := .rateLimit, message := "Rate limit exceeded", retryable := some true }
      else if includes message "nonce too low" then
        .ok { base with type := .nonceTooLow, message := "Nonce too low", retryable := some true }
      else if includes message "nonce too high" then
        .ok { base with type := .nonceTooHigh, message := "Nonce too high", retryable := some true }
      else if includes message "user rejected" ∨ includes message "user denied" then
        .ok { base with
          type := .rejectedByUser, message := "Transaction rejected by user", retryable := some false }
      else if includes message "contract not deployed" then
        .ok { base with
          type := .contractNotDeployed, message := "Contract not deployed", retryable := some false }
      else if includes message "disconnected" ∨ includes message "not connected" then
        .ok { base with
          type := .chainDisconnected, message := "Chain disconnected", retryable := some true }
      else .ok base

def classifyCode (error : JsError) (code : String) (base : BlockchainError) :
    Except JsError BlockchainError :=
  let base := { base with code := some code }
  match code with
  | "CALL_EXCEPTION" => .ok { base with
      type := .transactionReverted
      message := "Transaction reverted: " ++ appended (orElse error.reason error.message)
      data := error.data
      retryable := some false }
  | "UNPREDICTABLE_GAS_LIMIT" => .ok { base with
      type := .unpredictableGas
      message := "Cannot estimate gas: " ++ appended (orElse error.reason error.message)
      data := error.data
      retryable := some false }
  | "REPLACEMENT_UNDERPRICED" => .ok { base with
      type := .transactionUnderpriced
      message := "Transaction replacement underpriced"
      retryable := some true }
  | "TRANSACTION_REPLACED" => .ok { base with
      type := .transactionReplaced
      message := "Transaction was replaced: " ++ (orElse error.reason (some "")).getD ""
      data := some (.object none error.reason none)
      -- Only retry if the transaction was cancelled, not if it was replaced or repriced
      retryable := some (error.reason = some "cancelled") }
  | "INSUFFICIENT_FUNDS" => .ok { base with
      type := .insufficientFunds
      message := "Insufficient funds for transaction"
      retryable := some false }
  | "NONCE_EXPIRED" => .ok { base with
      type := .nonceExpired
      message := "Nonce has already been used"
      retryable := some true }
  | "INVALID_ARGUMENT" => .ok { base with
      type := .invalidArgument
      message := "Invalid argument: " ++ appended error.argument
      data := some (.object none none error.argument)
      retryable := some false }
  | "MISSING_ARGUMENT" => .ok { base with
      type := .missingArgument
      message := "Missing argument: " ++ appended error.argument
      data := some (.object none none error.argument)
      retryable := some false }
  | "UNSUPPORTED_OPERATION" => .ok { base with
      type := .unsupportedOperation
      message := "Unsupported operation: " ++ appended error.message
      retryable := some false }
  | "NETWORK_ERROR" | "SERVER_ERROR" | "CONNECTION_ERROR" => .ok { base with
      type := .networkError
      message := "Network error: " ++ appended error.message
      retryable := some true }
  | "TIMEOUT" => .ok { base with
      type := .timeout
      message := "Operation timed out"
      retryable := some true }
  | _ => classifyMessage error base

def handleBlockchainError (error : JsError) (context : String) : Except JsError BlockchainError := do
  let base : BlockchainError := {
    type := .unknownError
    message := (orElse error.message (some "Unknown blockchain error")).getD ""
    code := none
    data := none
    originalError := error
    context
    transactionHash := if truthy error.transactionHash then error.transactionHash
      else if truthy error.hash then error.hash else none
    retryable := some false
    userFriendlyMessage := none }
  let blockchainError ← match error.code with
    | some code => if code ≠ "" then classifyCode error code base else .ok base
    | none => .ok base
  -- Add user-friendly message
  let userFriendlyMessage ← getUserFriendlyMessage blockchainError
  return { blockchainError with userFriendlyMessage := some userFriendlyMessage }

def retryableByType (type : BlockchainErrorType) (data : Option ErrorData) : Bool :=
  match type with
  | .networkError | .timeout | .rateLimit | .transactionUnderpriced | .nonceExpired | .nonceTooLow
  | .nonceTooHigh | .transactionOutOfGas | .chainDisconnected => true
  -- Only retry if the transaction was cancelled, not if it was replaced or repriced
  | .transactionReplaced => data.bind (·.reason) = some "cancelled"
  | _ => false

def isRetryable (error : BlockchainError) : Bool :=
  match error.retryable with
  | some retryable => retryable
  | none => retryableByType error.type error.data

end Kanaka.Backend
