import Kanaka.Backend.ErrorHandler

/-! # What becomes of an error in the error handler -/

namespace Kanaka.Backend

/-! ## The types of errors -/

def codeType : String → Option BlockchainErrorType
  | "CALL_EXCEPTION" => some .transactionReverted
  | "UNPREDICTABLE_GAS_LIMIT" => some .unpredictableGas
  | "REPLACEMENT_UNDERPRICED" => some .transactionUnderpriced
  | "TRANSACTION_REPLACED" => some .transactionReplaced
  | "INSUFFICIENT_FUNDS" => some .insufficientFunds
  | "NONCE_EXPIRED" => some .nonceExpired
  | "INVALID_ARGUMENT" => some .invalidArgument
  | "MISSING_ARGUMENT" => some .missingArgument
  | "UNSUPPORTED_OPERATION" => some .unsupportedOperation
  | "NETWORK_ERROR" | "SERVER_ERROR" | "CONNECTION_ERROR" => some .networkError
  | "TIMEOUT" => some .timeout
  | _ => none

def messageType (message : String) : BlockchainErrorType :=
  if includes message "gas required exceeds allowance" ∨ includes message "out of gas" then
    .transactionOutOfGas
  else if includes message "execution reverted" then .transactionReverted
  else if includes message "rate limit" then .rateLimit
  else if includes message "nonce too low" then .nonceTooLow
  else if includes message "nonce too high" then .nonceTooHigh
  else if includes message "user rejected" ∨ includes message "user denied" then .rejectedByUser
  else if includes message "contract not deployed" then .contractNotDeployed
  else if includes message "disconnected" ∨ includes message "not connected" then .chainDisconnected
  else .unknownError

def reworded : BlockchainErrorType → String
  | .transactionOutOfGas => "Transaction ran out of gas"
  | .rateLimit => "Rate limit exceeded"
  | .nonceTooLow => "Nonce too low"
  | .nonceTooHigh => "Nonce too high"
  | .rejectedByUser => "Transaction rejected by user"
  | .contractNotDeployed => "Contract not deployed"
  | .chainDisconnected => "Chain disconnected"
  | _ => "Unknown blockchain error"

theorem includes_append {text part : String} (inside : includes text part = true) (rest : String) :
    includes (text ++ rest) part = true := by
  unfold includes at inside ⊢
  rw [decide_eq_true_eq] at inside ⊢
  rw [String.toList_append]
  exact inside.trans (List.prefix_append _ _).isInfix

theorem messageType_empty : messageType "" = .unknownError := by
  decide

theorem messageType_unknown : messageType "Unknown blockchain error" = .unknownError := by
  decide

theorem infix_append_iff {α : Type} {part : List α} {opening text : List α}
    (apart : ∀ rest ∈ opening.tails, rest ≠ [] → ¬part <+: rest ∧ ¬rest <+: part) :
    part <:+: opening ++ text ↔ part <:+: text := by
  induction opening with
  | nil => rfl
  | cons c opening ih =>
      have here := apart (c :: opening) (by simp) (by simp)
      rw [List.cons_append, List.infix_cons_iff, ih fun rest member => apart rest (by simp [member])]
      constructor
      · rintro (starts | inside)
        · -- the part would share a beginning with the opening
          rcases List.prefix_or_prefix_of_prefix starts
            (List.prefix_append (c :: opening) text) with shorter | longer
          · exact absurd shorter here.1
          · exact absurd longer here.2
        · exact inside
      · exact .inr

theorem includes_reverted (text part : String)
    (apart : ∀ rest ∈ "Transaction reverted: ".toList.tails, rest ≠ [] →
      ¬part.toList <+: rest ∧ ¬rest <+: part.toList) :
    includes ("Transaction reverted: " ++ text) part = includes text part := by
  unfold includes
  rw [String.toList_append, decide_eq_decide]
  exact infix_append_iff apart

theorem messageType_reverted (text : String) :
    messageType ("Transaction reverted: " ++ text) = .transactionReverted ↔
      includes text "execution reverted" = true ∧
        includes text "gas required exceeds allowance" = false ∧
          includes text "out of gas" = false := by
  unfold messageType
  rw [includes_reverted text "gas required exceeds allowance" (by decide),
    includes_reverted text "out of gas" (by decide),
    includes_reverted text "execution reverted" (by decide)]
  by_cases gas : includes text "gas required exceeds allowance" = true ∨
    includes text "out of gas" = true
  · rw [if_pos gas]
    rcases gas with gas | gas <;> simp [gas]
  · rw [if_neg gas]
    rw [not_or, Bool.not_eq_true, Bool.not_eq_true] at gas
    by_cases execution : includes text "execution reverted" = true
    · rw [if_pos execution]
      exact iff_of_true rfl ⟨execution, gas⟩
    · rw [if_neg execution]
      apply iff_of_false _ fun both => execution both.1
      repeat' split
      all_goals simp

/-- What the handler makes of an error, before it adds the message for the user. -/
inductive Classified (error : JsError) (base : BlockchainError) : BlockchainError → Prop where
  | plain : truthy error.code = false → Classified error base base
  | listed {code type message data} : error.code = some code → codeType code = some type →
      (type = .transactionReverted → includes message "reverted" = true ∧ data = error.data) →
      (type = .transactionReplaced → data = some (.object none error.reason none)) →
      Classified error base { base with
        code := some code, type, message, data, retryable := some (retryableByType type data) }
  | unknown {code} : error.code = some code → code ≠ "" → codeType code = none →
      messageType (error.message.getD "") = .unknownError →
      Classified error base { base with code := some code }
  | reverted {code reason text} : error.code = some code → code ≠ "" → codeType code = none →
      messageType (error.message.getD "") = .transactionReverted →
      extractRevertReason error = .ok reason → reason.shown.appended = some text →
      Classified error base { base with
        code := some code, type := .transactionReverted
        message := "Transaction reverted: " ++ text, retryable := some false }
  | reworded {code type} : error.code = some code → code ≠ "" → codeType code = none →
      messageType (error.message.getD "") = type → type ≠ .transactionReverted →
      type ≠ .unknownError →
      Classified error base { base with
        code := some code, type, message := reworded type
        retryable := some (retryableByType type none) }

section Classified
variable {error : JsError} {base result : BlockchainError} {code message : String}

theorem textOf_eq_ok {text : Option String} {value : String} :
    textOf text = .ok value ↔ text = some value := by
  cases text <;> simp [textOf]

theorem classifyMessage_eq (said : error.message = some message) (filled : message ≠ "") :
    classifyMessage error base = match messageType message with
      | .unknownError => .ok base
      | .transactionReverted => do
          let reason ← extractRevertReason error
          let text ← textOf reason.shown.appended
          return { base with
            type := .transactionReverted, message := "Transaction reverted: " ++ text,
            retryable := some false }
      | type => .ok { base with
          type, message := reworded type, retryable := some (retryableByType type none) } := by
  unfold classifyMessage messageType
  rw [said]
  simp only [if_neg filled]
  by_cases gas : includes message "gas required exceeds allowance" ∨ includes message "out of gas"
  · simp only [if_pos gas]; rfl
  simp only [if_neg gas]
  by_cases execution : includes message "execution reverted" = true
  · simp only [if_pos execution]
  simp only [if_neg execution]
  by_cases limit : includes message "rate limit" = true
  · simp only [if_pos limit]; rfl
  simp only [if_neg limit]
  by_cases low : includes message "nonce too low" = true
  · simp only [if_pos low]; rfl
  simp only [if_neg low]
  by_cases high : includes message "nonce too high" = true
  · simp only [if_pos high]; rfl
  simp only [if_neg high]
  by_cases user : includes message "user rejected" ∨ includes message "user denied"
  · simp only [if_pos user]; rfl
  simp only [if_neg user]
  by_cases contract : includes message "contract not deployed" = true
  · simp only [if_pos contract]; rfl
  simp only [if_neg contract]
  by_cases chain : includes message "disconnected" ∨ includes message "not connected"
  · simp only [if_pos chain]; rfl
  simp only [if_neg chain]

theorem classified_of_message (coded : error.code = some code) (filled : code ≠ "")
    (unlisted : codeType code = none)
    (ok : classifyMessage error { base with code := some code } = .ok result) :
    Classified error base result := by
  have unsaid : truthy error.message = false → Classified error base result := by
    intro silent
    have said : messageType (error.message.getD "") = .unknownError := by
      cases same : error.message with
      | none => exact messageType_empty
      | some message =>
          rw [same, truthy, decide_eq_false_iff_not, not_not] at silent
          subst silent
          exact messageType_empty
    have kept : classifyMessage error { base with code := some code } =
        .ok { base with code := some code } := by
      unfold classifyMessage
      cases same : error.message with
      | none => rfl
      | some message =>
          rw [same, truthy, decide_eq_false_iff_not, not_not] at silent
          exact if_pos silent
    rw [kept] at ok
    cases ok
    exact .unknown coded filled unlisted said
  cases said : error.message with
  | none => exact unsaid (by rw [said]; rfl)
  | some message =>
      by_cases blank : message = ""
      · exact unsaid (by rw [said, blank]; rfl)
      · rw [classifyMessage_eq said blank] at ok
        have type : messageType (error.message.getD "") = messageType message := by rw [said]; rfl
        split at ok
        · rename_i same
          cases ok
          exact .unknown coded filled unlisted (type.trans same)
        · rename_i same
          obtain ⟨reason, found, ok⟩ := bind_eq_ok ok
          obtain ⟨text, shown, ok⟩ := bind_eq_ok ok
          cases ok
          exact .reverted coded filled unlisted (type.trans same) found (textOf_eq_ok.mp shown)
        · rename_i other other'
          cases ok
          exact .reworded coded filled unlisted type other' other

theorem classified_of_code (coded : error.code = some code) (filled : code ≠ "")
    (ok : classifyCode error code base = .ok result) : Classified error base result := by
  unfold classifyCode at ok
  split at ok
  case h_1 =>
    cases ok
    exact .listed coded rfl (fun _ => ⟨includes_append (by decide) _, rfl⟩) (by simp)
  case h_4 =>
    cases ok
    exact .listed coded rfl (by simp) fun _ => rfl
  case h_14 =>
    apply classified_of_message coded filled _ ok
    unfold codeType
    split <;> first | rfl | contradiction
  all_goals
    cases ok
    exact .listed coded rfl (by simp) (by simp)

def classifyError (error : JsError) (base : BlockchainError) : Except JsError BlockchainError :=
  match error.code with
  | some code => if code ≠ "" then classifyCode error code base else .ok base
  | none => .ok base

theorem classified_of_ok (ok : classifyError error base = .ok result) :
    Classified error base result := by
  unfold classifyError at ok
  cases coded : error.code with
  | none =>
      rw [coded] at ok
      cases ok
      exact .plain (by rw [coded]; rfl)
  | some code =>
      rw [coded] at ok
      by_cases blank : code = ""
      · simp only [blank, ne_eq, not_true_eq_false, if_false] at ok
        cases ok
        exact .plain (by rw [coded, blank]; rfl)
      · simp only [ne_eq, blank, not_false_eq_true, if_true] at ok
        exact classified_of_code coded blank ok

end Classified

/-! ## The handler -/

def started (error : JsError) (context : String) : BlockchainError where
  type := .unknownError
  message := (orElse error.message (some "Unknown blockchain error")).getD ""
  code := none
  data := none
  originalError := error
  context := context
  transactionHash := if truthy error.transactionHash then error.transactionHash
    else if truthy error.hash then error.hash else none
  retryable := some false
  userFriendlyMessage := none

section Handled
variable {error : JsError} {context : String} {b result : BlockchainError}

theorem handleBlockchainError_eq : handleBlockchainError error context =
    (classifyError error (started error context) >>= fun result =>
      getUserFriendlyMessage result >>= fun text =>
        pure { result with userFriendlyMessage := some text }) := by
  unfold handleBlockchainError classifyError started
  cases error.code with
  | none => rfl
  | some code =>
      dsimp only
      split <;> rfl

theorem handled_of_ok (ok : handleBlockchainError error context = .ok b) : ∃ result text,
    Classified error (started error context) result ∧ getUserFriendlyMessage result = .ok text ∧
      b = { result with userFriendlyMessage := some text } := by
  rw [handleBlockchainError_eq] at ok
  obtain ⟨result, classified, ok⟩ := bind_eq_ok ok
  obtain ⟨text, friendly, ok⟩ := bind_eq_ok ok
  cases ok
  exact ⟨result, text, classified_of_ok classified, friendly, rfl⟩

/-! ### Retrying -/

theorem Classified.retryable_eq (classified : Classified error (started error context) result) :
    result.retryable = some (retryableByType result.type result.data) := by
  cases classified <;> rfl

theorem retryable_agrees (ok : handleBlockchainError error context = .ok b) :
    b.retryable = some (isRetryable { b with retryable := none }) := by
  obtain ⟨result, text, classified, -, rfl⟩ := handled_of_ok ok
  exact classified.retryable_eq

end Handled

theorem retryable_agrees_timeout : some true = some (isRetryable
    { started { JsError.empty with code := some "TIMEOUT" } "" with
      code := some "TIMEOUT", type := .timeout, message := "Operation timed out", retryable := none
      userFriendlyMessage := some
        "The operation timed out. The network might be congested. Please try again later." }) :=
  retryable_agrees (show handleBlockchainError { JsError.empty with code := some "TIMEOUT" } "" = _
    from rfl)

/-! ### Errors that the handler answers -/

def typeOf (error : JsError) : BlockchainErrorType :=
  match error.code with
  | some code =>
      if code ≠ "" then (codeType code).getD (messageType (error.message.getD "")) else .unknownError
  | none => .unknownError

/-- What the revert reason is taken from can be put into a template. -/
def Explained (error : JsError) : Prop :=
  match error.data.bind (·.revertReason) with
  | some reason => reason.shown.inTemplate.isSome
  | none => error.message.isSome

def Answerable (error : JsError) : Prop :=
  typeOf error = .transactionReverted → Explained error ∧ (error.code ≠ some "CALL_EXCEPTION" →
    ∀ reason ∈ error.data.bind (·.revertReason), reason.shown.appended.isSome)

section Answered
variable {error : JsError} {context code : String} {base result : BlockchainError}

theorem typeOf_coded (coded : error.code = some code) (filled : code ≠ "") :
    typeOf error = (codeType code).getD (messageType (error.message.getD "")) := by
  unfold typeOf
  rw [coded]
  exact if_pos filled

theorem typeOf_plain (plain : truthy error.code = false) : typeOf error = .unknownError := by
  unfold typeOf
  cases coded : error.code with
  | none => rfl
  | some code =>
      rw [coded, truthy, decide_eq_false_iff_not] at plain
      exact if_neg plain

theorem filled_of_codeType {type : BlockchainErrorType} (listed : codeType code = some type) :
    code ≠ "" := by
  rintro rfl
  contradiction

theorem Classified.type_eq (classified : Classified error (started error context) result) :
    result.type = typeOf error := by
  cases classified with
  | plain plain => exact (typeOf_plain plain).symm
  | listed coded listed => rw [typeOf_coded coded (filled_of_codeType listed), listed, Option.getD_some]
  | unknown coded filled unlisted said =>
      rw [typeOf_coded coded filled, unlisted, Option.getD_none, said]
      rfl
  | reverted coded filled unlisted said =>
      rw [typeOf_coded coded filled, unlisted, Option.getD_none, said]
  | reworded coded filled unlisted said =>
      rw [typeOf_coded coded filled, unlisted, Option.getD_none, said]

theorem code_of_reverted (listed : codeType code = some .transactionReverted) :
    code = "CALL_EXCEPTION" := by
  unfold codeType at listed
  split at listed <;> first | rfl | contradiction

theorem originalError_eq (classified : Classified error (started error context) result) :
    result.originalError = error := by
  cases classified <;> rfl

theorem explained_iff : Explained error ↔ ∃ reason, extractRevertReason error = .ok reason ∧
    (reason.truthy = true → reason.shown.inTemplate.isSome) := by
  unfold Explained extractRevertReason
  cases error.data.bind (·.revertReason) with
  | some reason => cases reason <;> simp [RevertReason.truthy, RevertReason.shown]
  | none =>
      cases error.message with
      | none => simp
      | some message =>
          dsimp only
          split
          · simp [RevertReason.shown]
          · split <;> simp [RevertReason.shown]

theorem getUserFriendlyMessage_ok : (∃ text, getUserFriendlyMessage result = .ok text) ↔
    (result.type = .transactionReverted → includes result.message "reverted" = true →
      Explained result.originalError) := by
  by_cases reverted : result.type = .transactionReverted
  · unfold getUserFriendlyMessage
    rw [reverted]
    by_cases told : includes result.message "reverted" = true
    · rw [explained_iff]
      simp only [told, if_true, forall_const]
      constructor
      · rintro ⟨text, ok⟩
        obtain ⟨reason, found, ok⟩ := bind_eq_ok ok
        refine ⟨reason, found, fun shown => ?_⟩
        rw [if_pos shown] at ok
        obtain ⟨text, inTemplate, -⟩ := bind_eq_ok ok
        rw [textOf_eq_ok.mp inTemplate]
        rfl
      · rintro ⟨reason, found, shown⟩
        rw [found]
        by_cases truthy : reason.truthy = true
        · obtain ⟨text, inTemplate⟩ := Option.isSome_iff_exists.mp (shown truthy)
          refine ⟨"Transaction failed: " ++ text, ?_⟩
          show (if reason.truthy = true then _ else _) = _
          rw [if_pos truthy, inTemplate]
          rfl
        · refine ⟨_, if_neg truthy⟩
    · simp only [told]
      exact iff_of_true ⟨_, rfl⟩ (by simp)
  · apply iff_of_true _ fun same => absurd same reverted
    unfold getUserFriendlyMessage
    cases type : result.type with
    | transactionReverted => exact absurd type reverted
    | _ => exact ⟨_, rfl⟩

theorem classifyCode_ok {type : BlockchainErrorType} (listed : codeType code = some type) :
    ∃ result, classifyCode error code base = .ok result := by
  unfold classifyCode
  unfold codeType at listed
  split at listed
  all_goals first | exact ⟨_, rfl⟩ | contradiction

theorem classifyCode_unlisted (unlisted : codeType code = none) :
    classifyCode error code base = classifyMessage error { base with code := some code } := by
  unfold classifyCode
  split
  case h_14 => rfl
  all_goals contradiction

theorem classifyMessage_ok {message : String} (said : error.message = some message)
    (filled : message ≠ "") (shown : messageType message = .transactionReverted →
      ∃ reason, extractRevertReason error = .ok reason ∧ reason.shown.appended.isSome) :
    ∃ result, classifyMessage error base = .ok result := by
  rw [classifyMessage_eq said filled]
  split
  · exact ⟨_, rfl⟩
  · rename_i reverted
    obtain ⟨reason, found, appended⟩ := shown reverted
    obtain ⟨text, same⟩ := Option.isSome_iff_exists.mp appended
    rw [found]
    dsimp only [bind, Except.bind]
    rw [textOf_eq_ok.mpr same]
    exact ⟨_, rfl⟩
  · exact ⟨_, rfl⟩

theorem extractRevertReason_of_explained {message : String} (said : error.message = some message) :
    ∃ reason, extractRevertReason error = .ok reason ∧
      ((∀ given ∈ error.data.bind (·.revertReason), given.shown.appended.isSome) →
        reason.shown.appended.isSome) := by
  unfold extractRevertReason
  cases data : error.data.bind (·.revertReason) with
  | some reason => exact ⟨reason, rfl, fun shown => shown reason rfl⟩
  | none =>
      rw [said]
      dsimp only
      split
      · exact ⟨_, rfl, fun _ => rfl⟩
      · split <;> exact ⟨_, rfl, fun _ => rfl⟩

theorem classifyError_ok (answerable : Answerable error) (base : BlockchainError) :
    ∃ result, classifyError error base = .ok result := by
  unfold classifyError
  cases coded : error.code with
  | none => exact ⟨_, rfl⟩
  | some code =>
      dsimp only
      by_cases blank : code = ""
      · exact ⟨base, if_neg (not_not_intro blank)⟩
      · rw [if_pos blank]
        cases listed : codeType code with
        | some type => exact classifyCode_ok listed
        | none =>
            have type := typeOf_coded coded blank
            rw [listed, Option.getD_none] at type
            have other : code ≠ "CALL_EXCEPTION" := by
              rintro rfl
              contradiction
            rw [classifyCode_unlisted listed]
            cases said : error.message with
            | none => exact ⟨_, by unfold classifyMessage; rw [said]⟩
            | some message =>
                by_cases silent : message = ""
                · refine ⟨{ base with code := some code }, ?_⟩
                  unfold classifyMessage
                  rw [said]
                  exact if_pos silent
                · apply classifyMessage_ok said silent
                  intro reverted
                  rw [said, Option.getD_some, reverted] at type
                  obtain ⟨reason, found, shown⟩ := extractRevertReason_of_explained said
                  refine ⟨reason, found, shown ((answerable type).2 ?_)⟩
                  rw [coded, Ne, Option.some.injEq]
                  exact other

theorem handled_of_answerable (answerable : Answerable error) (context : String) :
    ∃ b, handleBlockchainError error context = .ok b := by
  obtain ⟨result, classified⟩ := classifyError_ok answerable (started error context)
  have friendly : ∃ text, getUserFriendlyMessage result = .ok text := by
    apply getUserFriendlyMessage_ok.mpr
    intro reverted _
    have known := classified_of_ok classified
    rw [originalError_eq known]
    exact (answerable (known.type_eq ▸ reverted)).1
  obtain ⟨text, same⟩ := friendly
  rw [handleBlockchainError_eq, classified]
  dsimp only [bind, Except.bind]
  rw [same]
  exact ⟨_, rfl⟩

theorem answerable_of_handled {b : BlockchainError}
    (handled : handleBlockchainError error context = .ok b) : Answerable error := by
  obtain ⟨result, text, classified, friendly, -⟩ := handled_of_ok handled
  intro reverted
  have explained := getUserFriendlyMessage_ok.mp ⟨text, friendly⟩ (classified.type_eq.trans reverted)
  rw [originalError_eq classified] at explained
  cases classified with
  | plain plain => rw [typeOf_plain plain] at reverted; contradiction
  | listed coded listed told =>
      have filled := filled_of_codeType listed
      rw [typeOf_coded coded filled, listed, Option.getD_some] at reverted
      refine ⟨explained (told reverted).1, fun other => ?_⟩
      rw [coded, code_of_reverted (listed.trans (congrArg some reverted))] at other
      exact absurd rfl other
  | unknown coded filled unlisted said =>
      rw [typeOf_coded coded filled, unlisted, Option.getD_none, said] at reverted
      contradiction
  | reverted coded filled unlisted said found shown =>
      refine ⟨explained (includes_append (by decide) _), fun _ given member => ?_⟩
      unfold extractRevertReason at found
      rw [Option.mem_def.mp member] at found
      cases found
      rw [shown]
      rfl
  | reworded coded filled unlisted said other =>
      rw [typeOf_coded coded filled, unlisted, Option.getD_none, said] at reverted
      exact absurd reverted other

theorem handled_iff : (∃ b, handleBlockchainError error context = .ok b) ↔ Answerable error := by
  constructor
  · rintro ⟨b, handled⟩
    exact answerable_of_handled handled
  · exact fun answerable => handled_of_answerable answerable context

end Answered

theorem handled_without_message : handleBlockchainError
    { JsError.empty with code := some "CALL_EXCEPTION" } "" = .error matchOfUndefined :=
  rfl

/-! ### Handling an error again -/

/-- The message that the error is given tells the type that its own message tells. -/
def MessageKept (error : JsError) : Prop :=
  match messageType (error.message.getD "") with
  | .transactionOutOfGas | .chainDisconnected | .unknownError => True
  | .transactionReverted => ∀ reason text, extractRevertReason error = .ok reason →
      reason.shown.appended = some text → includes text "execution reverted" = true ∧
        includes text "gas required exceeds allowance" = false ∧
          includes text "out of gas" = false
  | _ => False

/-- What tells the type of the error and whether to retry is still there in the structured error. -/
def Stable (error : JsError) : Prop :=
  ∀ code, error.code = some code → code ≠ "" → match codeType code with
    | some type => type = .transactionReplaced → error.reason ≠ some "cancelled"
    | none => MessageKept error

section Again
variable {error : JsError} {context context' : String} {b result : BlockchainError}

theorem retryableByType_congr {type : BlockchainErrorType} (other : type ≠ .transactionReplaced)
    (data data' : Option ErrorData) : retryableByType type data = retryableByType type data' := by
  cases type with
  | transactionReplaced => exact absurd rfl other
  | _ => rfl

theorem typeOf_thrown {code : String} (coded : result.code = some code) (filled : code ≠ "") :
    typeOf result.thrown = (codeType code).getD (messageType result.message) :=
  typeOf_coded coded filled

theorem answerable_thrown (answerable : Answerable error)
    (classified : Classified error (started error context) result) : Answerable result.thrown := by
  intro reverted
  have without : result.data = none → Explained result.thrown ∧
      (result.code ≠ some "CALL_EXCEPTION" →
        ∀ reason ∈ result.thrown.data.bind (·.revertReason), reason.shown.appended.isSome) := by
    intro empty
    have nothing : result.thrown.data = none := empty
    rw [Explained, nothing]
    exact ⟨rfl, fun _ _ member => by cases member⟩
  cases classified with
  | @listed code type _ _ coded listed told =>
      have filled := filled_of_codeType listed
      rw [typeOf_thrown rfl filled, listed, Option.getD_some] at reverted
      have named := code_of_reverted (listed.trans (congrArg some reverted))
      have explained := (answerable (by
        rw [typeOf_coded coded filled, listed, Option.getD_some, reverted])).1
      refine ⟨?_, fun other => absurd (congrArg some named) other⟩
      unfold Explained BlockchainError.thrown
      unfold Explained at explained
      dsimp only
      rw [(told reverted).2]
      split
      · rename_i same
        rw [same] at explained
        exact explained
      · rfl
  | _ => exact without rfl

theorem stable_coded {code : String} (coded : error.code = some code) (filled : code ≠ "") :
    Stable error ↔ match codeType code with
      | some type => type = .transactionReplaced → error.reason ≠ some "cancelled"
      | none => MessageKept error := by
  constructor
  · exact fun stable => stable code coded filled
  · intro stable code' coded' _
    rw [coded] at coded'
    cases coded'
    exact stable

theorem kept_iff (classified : Classified error (started error context) result) :
    typeOf result.thrown = result.type ∧
        (result.type = .transactionReplaced → error.reason ≠ some "cancelled") ↔ Stable error := by
  cases classified with
  | plain plain =>
      rw [typeOf_plain (show truthy (started error context).thrown.code = false from rfl)]
      apply iff_of_true ⟨rfl, by simp [started]⟩
      intro code coded filled
      rw [coded, truthy, decide_eq_false_iff_not] at plain
      exact absurd filled plain
  | @listed code type message data coded listed _ told =>
      have filled := filled_of_codeType listed
      rw [typeOf_thrown rfl filled, listed, Option.getD_some, stable_coded coded filled, listed]
      exact and_iff_right rfl
  | @unknown code coded filled unlisted said =>
      rw [typeOf_thrown rfl filled, stable_coded coded filled, unlisted]
      show messageType ((orElse error.message (some "Unknown blockchain error")).getD "") = _ ∧ _ ↔ _
      have kept : messageType ((orElse error.message (some "Unknown blockchain error")).getD "") =
          .unknownError := by
        unfold orElse
        split
        · exact said
        · exact messageType_unknown
      rw [kept, MessageKept, said]
      exact iff_of_true ⟨rfl, by simp [started]⟩ trivial
  | @reverted code reason text coded filled unlisted said found shown =>
      rw [typeOf_thrown rfl filled, stable_coded coded filled, unlisted]
      simp only [Option.getD_none, MessageKept, said]
      constructor
      · rintro ⟨kept, -⟩ reason' text' found' shown'
        rw [found] at found'
        cases found'
        rw [shown] at shown'
        cases shown'
        exact (messageType_reverted _).mp kept
      · exact fun kept => ⟨(messageType_reverted _).mpr (kept reason text found shown), by simp⟩
  | @reworded code type coded filled unlisted said other other' =>
      rw [typeOf_thrown rfl filled, stable_coded coded filled, unlisted]
      simp only [Option.getD_none, MessageKept, said]
      cases type with
      | transactionReverted | unknownError => contradiction
      | transactionOutOfGas | chainDisconnected => exact iff_of_true ⟨by decide, by simp⟩ trivial
      | rateLimit | nonceTooLow | nonceTooHigh | rejectedByUser | contractNotDeployed =>
          exact iff_of_false (fun kept => absurd kept.1 (by decide)) id
      | _ => exact iff_of_false (fun kept => by cases messageType_unknown.symm.trans kept.1) id

theorem messageType_ne_replaced (message : String) :
    messageType message ≠ .transactionReplaced := by
  unfold messageType
  repeat' split
  all_goals simp

theorem Classified.retryable_replaced (classified : Classified error (started error context) result)
    (replaced : result.type = .transactionReplaced) :
    result.retryable = some (decide (error.reason = some "cancelled")) := by
  rw [classified.retryable_eq, replaced]
  cases classified with
  | listed coded listed told told' => rw [told' replaced]; rfl
  | reworded coded filled unlisted said =>
      exact absurd (said.trans replaced) (messageType_ne_replaced _)
  | _ => contradiction

theorem handled_again_iff (handled : handleBlockchainError error context = .ok b) :
    (∃ again, handleBlockchainError b.thrown context' = .ok again ∧ again.type = b.type ∧
      again.retryable = b.retryable) ↔ Stable error := by
  have answerable := answerable_of_handled handled
  obtain ⟨result, text, classified, -, rfl⟩ := handled_of_ok handled
  rw [← kept_iff classified]
  obtain ⟨again, handled'⟩ :=
    handled_of_answerable (answerable_thrown answerable classified) context'
  obtain ⟨result', text', classified', -, rfl⟩ := handled_of_ok handled'
  have type := classified'.type_eq
  constructor
  · rintro ⟨again, handled'', sameType, sameRetryable⟩
    rw [Except.ok.inj (handled''.symm.trans handled')] at sameType sameRetryable
    refine ⟨type.symm.trans sameType, fun replaced => ?_⟩
    -- the reason is not thrown, so that a second pass finds nothing cancelled
    have again : result'.retryable = some false :=
      classified'.retryable_replaced (sameType.trans replaced)
    have first : some false = some (decide (error.reason = some "cancelled")) :=
      again.symm.trans (Eq.trans sameRetryable (classified.retryable_replaced replaced))
    exact of_decide_eq_false (Option.some.inj first).symm
  · rintro ⟨kept, uncancelled⟩
    have same := type.trans kept
    refine ⟨_, handled', same, ?_⟩
    show result'.retryable = result.retryable
    by_cases replaced : result.type = .transactionReplaced
    · rw [classified'.retryable_replaced (same.trans replaced),
        classified.retryable_replaced replaced, decide_eq_false (uncancelled replaced)]
      rfl
    · rw [classified'.retryable_eq, classified.retryable_eq, same, retryableByType_congr replaced]

end Again

def nonceTooLowError : JsError :=
  { JsError.empty with code := some "UNKNOWN_ERROR", message := some "nonce too low" }

theorem handled_again_expired : (∃ again, handleBlockchainError
      { started { JsError.empty with code := some "NONCE_EXPIRED" } "" with
        code := some "NONCE_EXPIRED", type := .nonceExpired
        message := "Nonce has already been used", retryable := some true
        userFriendlyMessage := some "Transaction sequence error. Please try again." : BlockchainError
      }.thrown "again" = .ok again ∧
      again.type = .nonceExpired ∧ again.retryable = some true) ↔
    Stable { JsError.empty with code := some "NONCE_EXPIRED" } :=
  handled_again_iff (show handleBlockchainError _ "" = _ from rfl)

theorem handled_again_nonceTooLow : ∃ b again, handleBlockchainError nonceTooLowError "" = .ok b ∧
    handleBlockchainError b.thrown "again" = .ok again ∧ again.type ≠ b.type ∧
      again.retryable ≠ b.retryable :=
  ⟨_, _, rfl, rfl, by simp, by simp⟩

end Kanaka.Backend
