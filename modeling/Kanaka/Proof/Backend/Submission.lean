import Kanaka.Backend.TransactionService

/-! # Repeated submissions of one request -/

namespace Kanaka.Backend.TransactionService
open Kanaka.Async

/-- What the awaited calls of one attempt are answered. -/
abbrev Answers := (op : Op) → Except JsError (Reply op)

/-- The answers before the attempts (0) and in each of them. -/
abbrev Schedule := Nat → Answers

/-- The simulation ends with its call, an attempt with the timer before the next one. -/
def Op.phaseAfter (phase : Nat) : Op → Nat
  | .call _ _ _ => phase + 1
  | .setTimeout _ => phase + 1
  | _ => phase

def Schedule.serve (schedule : Schedule) (op : Op) (state : Nat × List (Event Op Reply JsError)) :
    Except JsError (Reply op) × Nat × List (Event Op Reply JsError) :=
  (schedule state.1 op, op.phaseAfter state.1, state.2 ++ [⟨op, schedule state.1 op⟩])

def firstPhase (opts : TransactionOptions) : Nat := if opts.skipSimulation then 1 else 0

def Schedule.trace (schedule : Schedule) (request : Request) (opts : TransactionOptions) :
    List (Event Op Reply JsError) :=
  ((executeTransaction request opts).run schedule.serve (firstPhase opts, [])).2.2

/-! ## The transaction of the request -/

def Cancelled (error : JsError) : Prop :=
  error.code = some "TRANSACTION_REPLACED" ∧ error.reason = some "cancelled"

instance (error : JsError) : Decidable (Cancelled error) :=
  inferInstanceAs (Decidable (_ ∧ _))

inductive Standing where
  | clear
  | live (hash : String)
  | repeated
deriving DecidableEq

def Standing.after (standing : Standing) (event : Event Op Reply JsError) : Standing :=
  match event, standing with
  | ⟨.submit _ _, .ok hash⟩, .clear => .live hash
  | ⟨.submit _ _, _⟩, .live _ => .repeated
  | ⟨.wait waited _, .error error⟩, .live hash =>
      if waited = hash ∧ Cancelled error then .clear else .live hash
  | _, standing => standing

/-- No submission while the transaction of an earlier one stands. -/
def AtMostOneLive (trace : List (Event Op Reply JsError)) : Prop :=
  trace.foldl Standing.after .clear ≠ .repeated

instance (trace : List (Event Op Reply JsError)) : Decidable (AtMostOneLive trace) :=
  inferInstanceAs (Decidable (_ ≠ _))

/-! ## What one attempt comes to -/

variable (request : Request) (opts : TransactionOptions) (answers : Answers)

def gasLimit : Except JsError String :=
  let multiplier := opts.gasMultiplier.getD (6 / 5)
  let estimated := if opts.useGasHistory then answers (.estimateGasWithHistory request multiplier)
    else (answers (.estimateGas request)).map fun estimate : Nat =>
      toString ⌊(estimate : Rat) * multiplier⌋
  match estimated with
  | .ok gasLimit => .ok gasLimit
  | .error error => fallbackGas request error

def prepared : Except JsError (String × GasPriceData) := do
  answers (.getContractWithSigner request.contractName request.privateKey)
  let gasEstimate ← gasLimit request opts answers
  let gasPriceData ← answers (.getOptimalGasPrice (gasOptimizationOptions opts))
  return (gasEstimate, gasPriceData)

def updated (hash : String) (receipt : Receipt) : Except JsError Unit := do
  match ← answers (.getTransaction hash) with
  | some updatedTx => answers (.updateTransactionStatus (updatedTx.withReceipt receipt))
  | none => return ()

def notified (receipt : Receipt) : Except JsError Unit :=
  if opts.onConfirmation then answers (.onConfirmation (opts.confirmations.getD 1) receipt)
  else return ()

def confirmed (gasEstimate : String) (gasPriceData : GasPriceData) (hash : String) :
    Except JsError Receipt := do
  let sender ← answers .getAddress
  answers (.trackTransaction hash request.context
    ⟨request.contractName, request.methodName, request.args, sender, gasEstimate, gasPriceData,
      opts.metadata⟩)
  let receipt ← answers (.wait hash (opts.confirmations.getD 1))
  updated answers hash receipt
  answers (.recordGasUsage request.contractName request.methodName receipt.gasUsed
    receipt.transactionHash)
  notified opts answers receipt
  return receipt

def reportedCancelled (gasEstimate : String) (gasPriceData : GasPriceData) (hash : String) : Bool :=
  match answers .getAddress with
  | .error _ => false
  | .ok sender =>
      match answers (.trackTransaction hash request.context
        ⟨request.contractName, request.methodName, request.args, sender, gasEstimate, gasPriceData,
          opts.metadata⟩) with
      | .error _ => false
      | .ok _ =>
          match answers (.wait hash (opts.confirmations.getD 1)) with
          | .error error => Cancelled error
          | .ok _ => false

def Submits : Prop := ∃ gasEstimate gasPriceData,
  prepared request opts answers = .ok (gasEstimate, gasPriceData)

/-- The attempt obtains a transaction that is not reported cancelled. -/
def LeavesLive : Prop := ∃ gasEstimate gasPriceData hash,
  prepared request opts answers = .ok (gasEstimate, gasPriceData) ∧
  answers (.submit request (txOptions gasEstimate gasPriceData)) = .ok hash ∧
  ¬ reportedCancelled request opts answers gasEstimate gasPriceData hash

def settled : Except JsError Receipt := do
  let (gasEstimate, gasPriceData) ← prepared request opts answers
  let hash ← answers (.submit request (txOptions gasEstimate gasPriceData))
  confirmed request opts answers gasEstimate gasPriceData hash

def retries (attempt : Nat) (error : JsError) : Bool :=
  match handleBlockchainError error request.context with
  | .error _ => false
  | .ok blockchainError =>
      attempt ≤ opts.maxRetries.getD 3 ∧ isRetryable blockchainError ∧
      (opts.onRetry → (answers (.onRetry error.asError attempt)).isOk) ∧
      (answers (.setTimeout (opts.retryDelay.getD 2000 * 2 ^ (attempt - 1)))).isOk

def retried (attempt : Nat) : Bool :=
  match settled request opts answers with
  | .error error => retries request opts answers attempt error
  | .ok _ => false

def simulatedContract : Except JsError Unit :=
  if request.privateKey ≠ "" then
    answers (.getContractWithSigner request.contractName request.privateKey)
  else
    answers (.getContract request.contractName)

def simulatedSender : Except JsError (Option String) :=
  if request.privateKey ≠ "" then (answers (.newWallet request.privateKey)).map some
  else .ok none

def simulated : Except JsError String := do
  simulatedContract request answers
  answers .getProvider
  let block ← answers .getBlock
  let sender ← simulatedSender request answers
  let gasEstimate ← answers (.estimateGas request)
  answers (.populateTransaction request)
  answers (.call ⌊((gasEstimate : Nat) : Rat) * (6 / 5)⌋ sender block)

/-! ## The standing after one attempt -/

def Schedule.observe (schedule : Schedule) (op : Op) (state : Nat × Standing) :
    Except JsError (Reply op) × Nat × Standing :=
  (schedule state.1 op, op.phaseAfter state.1, state.2.after ⟨op, schedule state.1 op⟩)

variable {request opts} {schedule : Schedule} {phase : Nat} {standing : Standing}

@[simp] theorem run_perform (op : Op) (state : Nat × Standing) :
    (perform op).run schedule.observe state = schedule.observe op state :=
  Task.run_perform ..

theorem run_fallbackGas {error : JsError} (state : Nat × Standing) :
    (Task.ofExcept (fallbackGas request error) : Async String).run schedule.observe state =
      (fallbackGas request error, state) := by
  cases fallbackGas request error <;> rfl

theorem observe_quiet {op : Op}
    (quiet : match op with
      | .submit _ _ | .wait _ _ | .call _ _ _ | .setTimeout _ => False
      | _ => True) :
    schedule.observe op (phase, standing) = (schedule phase op, (phase, standing)) := by
  cases op <;> first | contradiction | rfl

theorem run_quiet (op : Op)
    (quiet : match op with
      | .submit _ _ | .wait _ _ | .call _ _ _ | .setTimeout _ => False
      | _ => True) :
    (perform op).run schedule.observe (phase, standing) = (schedule phase op, (phase, standing)) := by
  rw [run_perform, observe_quiet quiet]

theorem run_gasEstimation :
    ((gasEstimation request opts).tryCatch fun error =>
      Task.ofExcept (fallbackGas request error)).run schedule.observe (phase, standing) =
      (gasLimit request opts (schedule phase), (phase, standing)) := by
  rw [Task.run_tryCatch]
  unfold gasEstimation gasLimit
  cases opts.useGasHistory with
  | true =>
      simp only [if_true]
      rw [run_quiet (.estimateGasWithHistory request _) trivial]
      cases schedule phase (.estimateGasWithHistory request (opts.gasMultiplier.getD (6 / 5))) with
      | ok gas => rfl
      | error error => exact run_fallbackGas _
  | false =>
      simp only [Bool.false_eq_true, if_false]
      rw [Task.run_bind, run_quiet (.estimateGas request) trivial]
      cases schedule phase (.estimateGas request) with
      | ok estimate => rfl
      | error error => exact run_fallbackGas _

theorem run_prepare :
    (prepare request opts).run schedule.observe (phase, standing) =
      (prepared request opts (schedule phase), (phase, standing)) := by
  unfold prepare prepared
  rw [Task.run_bind, run_quiet _ trivial]
  cases schedule phase (.getContractWithSigner request.contractName request.privateKey) with
  | error error => rfl
  | ok reply =>
      simp only [Task.run_bind, run_gasEstimation]
      cases gasLimit request opts (schedule phase) with
      | error error => rfl
      | ok gas =>
          dsimp only
          rw [run_quiet _ trivial]
          cases schedule phase (.getOptimalGasPrice (gasOptimizationOptions opts)) <;> rfl

def Standing.waited (hash : String) (cancelled : Bool) : Standing → Standing
  | .live other => if hash = other ∧ cancelled then .clear else .live other
  | standing => standing

@[simp] theorem Standing.waited_false (hash : String) : standing.waited hash false = standing := by
  cases standing <;> simp [waited]

theorem run_wait (hash : String) (confirmations : Nat) :
    (perform (.wait hash confirmations)).run schedule.observe (phase, standing) =
      (schedule phase (.wait hash confirmations), (phase,
        standing.waited hash (match schedule phase (.wait hash confirmations) with
          | .error error => Cancelled error
          | .ok _ => false))) := by
  rw [run_perform]
  unfold Schedule.observe
  cases schedule phase (.wait hash confirmations) with
  | ok receipt => cases standing <;> simp [Op.phaseAfter, Standing.after, Standing.waited]
  | error error => cases standing <;> simp [Op.phaseAfter, Standing.after, Standing.waited]

@[simp] theorem ok_bind {α β : Type} (value : α) (next : α → Except JsError β) :
    (Except.ok value >>= next) = next value := rfl

@[simp] theorem error_bind {α β : Type} (error : JsError) (next : α → Except JsError β) :
    (Except.error error >>= next) = .error error := rfl

theorem run_updateTransaction (hash : String) (receipt : Receipt) :
    (updateTransaction hash receipt).run schedule.observe (phase, standing) =
      (updated (schedule phase) hash receipt, (phase, standing)) := by
  unfold updateTransaction updated
  rw [Task.run_bind, run_quiet _ trivial]
  cases schedule phase (.getTransaction hash) with
  | error error => simp only [error_bind]
  | ok found =>
      simp only [ok_bind]
      cases found with
      | none => rfl
      | some updatedTx => exact run_quiet _ trivial

theorem run_notifyConfirmation (receipt : Receipt) :
    (notifyConfirmation opts receipt).run schedule.observe (phase, standing) =
      (notified opts (schedule phase) receipt, (phase, standing)) := by
  unfold notifyConfirmation notified
  split
  · exact run_quiet _ trivial
  · rfl

theorem run_follow (gasEstimate : String) (gasPriceData : GasPriceData) (hash : String) :
    (follow request opts gasEstimate gasPriceData hash).run schedule.observe (phase, standing) =
      (confirmed request opts (schedule phase) gasEstimate gasPriceData hash, (phase,
        standing.waited hash
          (reportedCancelled request opts (schedule phase) gasEstimate gasPriceData hash))) := by
  unfold follow confirmed reportedCancelled
  rw [Task.run_bind, run_quiet _ trivial]
  cases schedule phase .getAddress with
  | error error => simp only [error_bind, Standing.waited_false]
  | ok sender =>
      simp only [ok_bind]
      rw [Task.run_bind, run_quiet _ trivial]
      cases schedule phase (.trackTransaction hash request.context ⟨request.contractName,
        request.methodName, request.args, sender, gasEstimate, gasPriceData, opts.metadata⟩) with
      | error error => simp only [error_bind, Standing.waited_false]
      | ok reply =>
          simp only [ok_bind]
          rw [Task.run_bind, run_wait]
          cases schedule phase (.wait hash (opts.confirmations.getD 1)) with
          | error error => simp only [error_bind]
          | ok receipt =>
              simp only [ok_bind, Standing.waited_false]
              rw [Task.run_bind, run_updateTransaction]
              cases updated (schedule phase) hash receipt with
              | error error => simp only [error_bind]
              | ok reply =>
                  simp only [ok_bind]
                  rw [Task.run_bind, run_quiet _ trivial]
                  cases schedule phase (.recordGasUsage request.contractName request.methodName
                    receipt.gasUsed receipt.transactionHash) with
                  | error error => simp only [error_bind]
                  | ok reply =>
                      simp only [ok_bind]
                      rw [Task.run_bind, run_notifyConfirmation]
                      cases notified opts (schedule phase) receipt <;> rfl

def Standing.submitted (answer : Except JsError String) : Standing → Standing
  | .clear => match answer with
      | .ok hash => .live hash
      | .error _ => .clear
  | _ => .repeated

theorem run_submit (options : TxOptions) :
    (perform (.submit request options)).run schedule.observe (phase, standing) =
      (schedule phase (.submit request options), (phase,
        standing.submitted (schedule phase (.submit request options)))) := by
  rw [run_perform]
  unfold Schedule.observe
  cases schedule phase (.submit request options) with
  | ok hash => cases standing <;> rfl
  | error error => cases standing <;> rfl

variable (request opts) in
def standingAfter (answers : Answers) (standing : Standing) : Standing :=
  match prepared request opts answers with
  | .error _ => standing
  | .ok (gasEstimate, gasPriceData) =>
      match answers (.submit request (txOptions gasEstimate gasPriceData)) with
      | .error error => standing.submitted (.error error)
      | .ok hash => (standing.submitted (.ok hash)).waited hash
          (reportedCancelled request opts answers gasEstimate gasPriceData hash)

theorem run_attemptTransaction :
    (attemptTransaction request opts).run schedule.observe (phase, standing) =
      (settled request opts (schedule phase), (phase,
        standingAfter request opts (schedule phase) standing)) := by
  unfold attemptTransaction settled standingAfter
  rw [Task.run_bind, run_prepare]
  cases prepared request opts (schedule phase) with
  | error error => simp only [error_bind]
  | ok ready =>
      obtain ⟨gasEstimate, gasPriceData⟩ := ready
      simp only [ok_bind]
      rw [Task.run_bind, run_submit]
      cases schedule phase (.submit request (txOptions gasEstimate gasPriceData)) with
      | error error => simp only [error_bind]
      | ok hash =>
          simp only [ok_bind]
          exact run_follow gasEstimate gasPriceData hash

theorem standingAfter_repeated :
    standingAfter request opts answers standing = .repeated ↔
      standing = .repeated ∨ (∃ hash, standing = .live hash) ∧ Submits request opts answers := by
  unfold standingAfter Submits
  cases prepared request opts answers with
  | error error => simp
  | ok ready =>
      obtain ⟨gasEstimate, gasPriceData⟩ := ready
      simp only
      cases answers (.submit request (txOptions gasEstimate gasPriceData)) with
      | error error => cases standing <;> simp [Standing.submitted]
      | ok hash =>
          cases standing with
          | clear =>
              simp only [Standing.submitted, Standing.waited]
              split <;> simp
          | live other => simp [Standing.submitted, Standing.waited]
          | repeated => simp [Standing.submitted, Standing.waited]

theorem standingAfter_live :
    (∃ hash, standingAfter request opts answers standing = .live hash) ↔
      (∃ hash, standing = .live hash) ∧ ¬ Submits request opts answers ∨
      standing = .clear ∧ LeavesLive request opts answers := by
  unfold standingAfter Submits LeavesLive
  cases prepared request opts answers with
  | error error => simp
  | ok ready =>
      obtain ⟨gasEstimate, gasPriceData⟩ := ready
      simp only
      cases sent : answers (.submit request (txOptions gasEstimate gasPriceData)) with
      | error error => cases standing <;> simp_all [Standing.submitted]
      | ok hash =>
          cases standing with
          | clear =>
              by_cases reported : reportedCancelled request opts answers gasEstimate gasPriceData hash
              · simp_all [Standing.submitted, Standing.waited]
              · simp_all [Standing.submitted, Standing.waited]
          | live other => simp [Standing.submitted, Standing.waited]
          | repeated => simp [Standing.submitted, Standing.waited]

variable {answers} in
theorem LeavesLive.submits (leaves : LeavesLive request opts answers) :
    Submits request opts answers := by
  obtain ⟨gasEstimate, gasPriceData, hash, ready, -⟩ := leaves
  exact ⟨gasEstimate, gasPriceData, ready⟩

/-! ## The loop -/

theorem run_notifyRetry (error : JsError) (attempt : Nat) :
    (notifyRetry opts error attempt).run schedule.observe (phase, standing) =
      (if opts.onRetry then schedule phase (.onRetry error.asError attempt) else .ok (),
        (phase, standing)) := by
  unfold notifyRetry
  split
  · exact run_quiet _ trivial
  · rfl

theorem run_setTimeout (delay : Nat) :
    (perform (.setTimeout delay)).run schedule.observe (phase, standing) =
      (schedule phase (.setTimeout delay), (phase + 1, standing)) := by
  rw [run_perform]
  rfl

variable (request opts schedule phase standing) in
theorem run_afterFailure (error : JsError) (attempt : Nat) :
    ∃ answer after,
      (afterFailure request opts error attempt).run schedule.observe (phase, standing) =
        (answer, (after, standing)) ∧
      (answer.isOk = retries request opts (schedule phase) attempt error) ∧
      (answer.isOk → after = phase + 1) := by
  unfold afterFailure retries
  rw [Task.run_bind]
  cases handleBlockchainError error request.context with
  | error failure => exact ⟨.error failure, phase, rfl, rfl, by simp [Except.isOk, Except.toBool]⟩
  | ok blockchainError =>
      simp only [Task.ofExcept, Task.run_done]
      by_cases again : attempt ≤ opts.maxRetries.getD 3 ∧ isRetryable blockchainError
      · rw [if_pos again, Task.run_bind, run_notifyRetry]
        have told : (opts.onRetry → (schedule phase (.onRetry error.asError attempt)).isOk) ↔
            (if opts.onRetry then schedule phase (.onRetry error.asError attempt)
              else .ok () : Except JsError Unit).isOk := by
          cases opts.onRetry <;> simp [Except.isOk, Except.toBool]
        simp only [again, true_and, told]
        cases (if opts.onRetry then schedule phase (.onRetry error.asError attempt)
          else .ok () : Except JsError Unit) with
        | error failure => exact ⟨.error failure, phase, rfl, rfl, by simp [Except.isOk, Except.toBool]⟩
        | ok reply => exact ⟨_, phase + 1, run_setTimeout _, by simp [Except.isOk, Except.toBool],
            fun _ => rfl⟩
      · rw [if_neg again]
        refine ⟨.error blockchainError.thrown, phase, rfl, ?_, by simp [Except.isOk, Except.toBool]⟩
        symm
        apply decide_eq_false
        rintro ⟨within, retryable, -⟩
        exact again ⟨within, retryable⟩

variable (request opts schedule) in
def standingFrom : Nat → Nat → Standing → Standing
  | 0, _, standing => standing
  | remaining + 1, attempt, standing =>
      let standing := standingAfter request opts (schedule (attempt + 1)) standing
      if retried request opts (schedule (attempt + 1)) (attempt + 1) then
        standingFrom remaining (attempt + 1) standing
      else standing

theorem run_attempts (remaining attempt : Nat) (lastError : Option JsError) :
    ((attempts request opts remaining attempt lastError).run schedule.observe
      (attempt + 1, standing)).2.2 = standingFrom request opts schedule remaining attempt standing := by
  induction remaining generalizing attempt lastError standing with
  | zero =>
      unfold attempts standingFrom
      rw [Task.run_bind]
      cases handleBlockchainError (lastError.getD (.ofMessage "Unknown error")) request.context <;> rfl
  | succ remaining ih =>
      unfold attempts standingFrom retried
      rw [Task.run_tryCatch, run_attemptTransaction]
      cases settled request opts (schedule (attempt + 1)) with
      | ok receipt => rfl
      | error error =>
          obtain ⟨answer, after, run, again, next⟩ := run_afterFailure request opts schedule
            (attempt + 1) (standingAfter request opts (schedule (attempt + 1)) standing) error
            (attempt + 1)
          simp only
          rw [Task.run_bind, run]
          simp only [← again]
          cases answer with
          | error failure => rfl
          | ok reply =>
              rw [next rfl]
              exact ih ..

theorem standingFrom_of_repeated (remaining attempt : Nat) :
    standingFrom request opts schedule remaining attempt .repeated = .repeated := by
  induction remaining generalizing attempt with
  | zero => rfl
  | succ remaining ih =>
      have stays : standingAfter request opts (schedule (attempt + 1)) .repeated = .repeated :=
        (standingAfter_repeated _).mpr (.inl rfl)
      unfold standingFrom
      rw [stays]
      dsimp only
      split
      · exact ih (attempt + 1)
      · rfl

theorem standingFrom_succ_repeated (remaining attempt : Nat) :
    standingFrom request opts schedule (remaining + 1) attempt standing = .repeated ↔
      standingAfter request opts (schedule (attempt + 1)) standing = .repeated ∨
      retried request opts (schedule (attempt + 1)) (attempt + 1) ∧
        standingFrom request opts schedule remaining (attempt + 1)
          (standingAfter request opts (schedule (attempt + 1)) standing) = .repeated := by
  rw [standingFrom]
  constructor
  · intro repeated
    split at repeated
    · exact .inr ⟨‹_›, repeated⟩
    · exact .inl repeated
  · rintro (after | ⟨again, later⟩)
    · rw [after]
      split
      · exact standingFrom_of_repeated ..
      · rfl
    · exact (if_pos again).trans later

theorem standingFrom_repeated (remaining attempt : Nat) :
    standingFrom request opts schedule remaining attempt standing = .repeated ↔
      standing = .repeated ∨ ∃ j, attempt < j ∧ j ≤ attempt + remaining ∧
        (∀ k, attempt < k → k < j → retried request opts (schedule k) k) ∧
        Submits request opts (schedule j) ∧
        ((∃ hash, standing = .live hash) ∨
          ∃ i, attempt < i ∧ i < j ∧ LeavesLive request opts (schedule i)) := by
  induction remaining generalizing attempt standing with
  | zero =>
      unfold standingFrom
      constructor
      · exact Or.inl
      · rintro (repeated | ⟨j, above, below, -⟩)
        · exact repeated
        · omega
  | succ remaining ih =>
      rw [standingFrom_succ_repeated, ih (attempt + 1), standingAfter_repeated]
      constructor
      · rintro ((before | ⟨live, submits⟩) | ⟨again, (before | ⟨live, submits⟩) |
          ⟨j, above, below, retries, submits, left⟩⟩)
        · exact .inl before
        · exact .inr ⟨attempt + 1, by omega, by omega, fun k _ _ => by omega, submits, .inl live⟩
        · exact .inl before
        · exact .inr ⟨attempt + 1, by omega, by omega, fun k _ _ => by omega, submits, .inl live⟩
        have retries : ∀ k, attempt < k → k < j → retried request opts (schedule k) k := by
          intro k past under
          rcases Nat.eq_or_lt_of_le past with rfl | past
          · exact again
          · exact retries k past under
        refine .inr ⟨j, by omega, by omega, retries, submits, ?_⟩
        rcases left with left | ⟨i, past, under, leaves⟩
        · rcases (standingAfter_live _).mp left with ⟨live, -⟩ | ⟨-, leaves⟩
          · exact .inl live
          · exact .inr ⟨attempt + 1, by omega, above, leaves⟩
        · exact .inr ⟨i, by omega, under, leaves⟩
      · rintro (before | ⟨j, above, below, retries, submits, left⟩)
        · exact .inl (.inl before)
        rcases Nat.eq_or_lt_of_le above with rfl | above
        · rcases left with live | ⟨i, past, under, -⟩
          · exact .inl (.inr ⟨live, submits⟩)
          · omega
        by_cases after : standing = .repeated ∨
            (∃ hash, standing = .live hash) ∧ Submits request opts (schedule (attempt + 1))
        · exact .inl after
        refine .inr ⟨retries (attempt + 1) (by omega) above,
          .inr ⟨j, above, by omega, fun k past => retries k (by omega), submits, ?_⟩⟩
        push Not at after
        rw [standingAfter_live]
        rcases left with live | ⟨i, past, under, leaves⟩
        · exact .inl (.inl ⟨live, after.2 live⟩)
        · rcases Nat.eq_or_lt_of_le past with rfl | past
          · left
            cases standing with
            | clear => exact .inr ⟨rfl, leaves⟩
            | live hash => exact absurd leaves.submits (after.2 ⟨hash, rfl⟩)
            | repeated => exact absurd rfl after.1
          · exact .inr ⟨i, past, under, leaves⟩

/-! ## The simulation and the whole call -/

theorem run_call (gasLimit : Int) (sender : Option String) (block : Nat) :
    (perform (.call gasLimit sender block)).run schedule.observe (phase, standing) =
      (schedule phase (.call gasLimit sender block), (phase + 1, standing)) := by
  rw [run_perform]
  rfl

theorem run_simulationContract :
    (simulationContract request).run schedule.observe (phase, standing) =
      (simulatedContract request (schedule phase), (phase, standing)) := by
  unfold simulationContract simulatedContract
  split
  · exact run_quiet _ trivial
  · exact run_quiet _ trivial

theorem run_simulationSender :
    (simulationSender request).run schedule.observe (phase, standing) =
      (simulatedSender request (schedule phase), (phase, standing)) := by
  unfold simulationSender simulatedSender
  split
  · show Task.run schedule.observe (perform (.newWallet request.privateKey) >>= _) _ = _
    rw [Task.run_bind, run_quiet (.newWallet request.privateKey) trivial]
    cases schedule phase (.newWallet request.privateKey) <;> rfl
  · rfl

variable (request schedule phase standing) in
theorem run_runSimulation :
    ∃ answer after, (runSimulation request).run schedule.observe (phase, standing) =
      (answer, (after, standing)) ∧
      answer.isOk = (simulated request (schedule phase)).isOk ∧
      (answer.isOk → after = phase + 1) := by
  unfold runSimulation simulated
  rw [Task.run_bind, run_simulationContract]
  cases simulatedContract request (schedule phase) with
  | error error => exact ⟨_, _, rfl, rfl, nofun⟩
  | ok reply =>
  simp only [ok_bind]
  rw [Task.run_bind, run_quiet .getProvider trivial]
  cases schedule phase .getProvider with
  | error error => exact ⟨_, _, rfl, rfl, nofun⟩
  | ok reply =>
  simp only [ok_bind]
  rw [Task.run_bind, run_quiet .getBlock trivial]
  cases schedule phase .getBlock with
  | error error => exact ⟨_, _, rfl, rfl, nofun⟩
  | ok block =>
  simp only [ok_bind]
  rw [Task.run_bind, run_simulationSender]
  cases simulatedSender request (schedule phase) with
  | error error => exact ⟨_, _, rfl, rfl, nofun⟩
  | ok sender =>
  simp only [ok_bind]
  rw [Task.run_bind, run_quiet (.estimateGas request) trivial]
  cases schedule phase (.estimateGas request) with
  | error error => exact ⟨_, _, rfl, rfl, nofun⟩
  | ok gasEstimate =>
  simp only [ok_bind]
  rw [Task.run_bind, run_quiet (.populateTransaction request) trivial]
  cases schedule phase (.populateTransaction request) with
  | error error => exact ⟨_, _, rfl, rfl, nofun⟩
  | ok reply =>
  simp only [ok_bind]
  rw [Task.run_bind, run_call]
  cases schedule phase (.call ⌊((gasEstimate : Nat) : Rat) * (6 / 5)⌋ sender block) with
  | error error => exact ⟨_, _, rfl, rfl, nofun⟩
  | ok result => exact ⟨_, _, rfl, rfl, fun _ => rfl⟩

variable (request schedule phase standing) in
theorem run_simulateTransaction :
    ∃ answer after, (simulateTransaction request).run schedule.observe (phase, standing) =
      (answer, (after, standing)) ∧
      answer.isOk = (simulated request (schedule phase)).isOk ∧
      (answer.isOk → after = phase + 1) := by
  obtain ⟨answer, after, run, same, next⟩ := run_runSimulation request schedule phase standing
  unfold simulateTransaction
  rw [Task.run_tryCatch, run]
  cases answer with
  | ok simulation => exact ⟨_, _, rfl, same, next⟩
  | error error =>
      simp only
      rw [Task.run_bind]
      cases handleBlockchainError error ("simulateTransaction(" ++ request.context ++ ")") with
      | error failure => exact ⟨_, _, rfl, same, nofun⟩
      | ok blockchainError => exact ⟨_, _, rfl, same, nofun⟩

theorem trace_standing : (schedule.trace request opts).foldl Standing.after .clear =
    ((executeTransaction request opts).run schedule.observe (firstPhase opts, .clear)).2.2 := by
  have agree : ∀ op (state : Nat × List (Event Op Reply JsError)),
      schedule.observe op (state.1, state.2.foldl Standing.after .clear) =
        ((schedule.serve op state).1, ((schedule.serve op state).2.1,
          (schedule.serve op state).2.2.foldl Standing.after .clear)) := by
    intro op state
    simp only [Schedule.serve, Schedule.observe, List.foldl_append, List.foldl_cons, List.foldl_nil]
  have simulates := Task.run_simulates
    (fun state => (state.1, state.2.foldl Standing.after .clear)) agree
    (executeTransaction request opts) (firstPhase opts, [])
  exact (congrArg (fun result => result.2.2) simulates).symm

theorem trace_repeated :
    (schedule.trace request opts).foldl Standing.after .clear = .repeated ↔
      (opts.skipSimulation ∨ (simulated request (schedule 0)).isOk) ∧
      standingFrom request opts schedule (opts.maxRetries.getD 3 + 1).toNat 0 .clear =
        .repeated := by
  rw [trace_standing]
  unfold executeTransaction firstPhase
  cases opts.skipSimulation with
  | true => simp [run_attempts]
  | false =>
      obtain ⟨answer, after, run, same, next⟩ := run_simulateTransaction request schedule 0 .clear
      simp only [Bool.false_eq_true, not_false_eq_true, if_true, if_false, false_or]
      rw [Task.run_bind, run, ← same]
      cases answer with
      | error error => simp [Except.isOk, Except.toBool]
      | ok simulation =>
          rw [next rfl]
          simp [Except.isOk, Except.toBool, run_attempts]

variable {answers} in
theorem retried_within {attempt : Nat} (again : retried request opts answers attempt) :
    (attempt : Int) ≤ opts.maxRetries.getD 3 := by
  unfold retried retries at again
  split at again
  · split at again
    · contradiction
    · exact (of_decide_eq_true again).1
  · contradiction

theorem executeTransaction_atMostOneLive_iff (request : Request) (opts : TransactionOptions)
    (schedule : Schedule) :
    AtMostOneLive (schedule.trace request opts) ↔
      ∀ i j, 0 < i → i < j → opts.skipSimulation ∨ (simulated request (schedule 0)).isOk →
        (∀ k, 0 < k → k < j → retried request opts (schedule k) k) →
        LeavesLive request opts (schedule i) → ¬ Submits request opts (schedule j) := by
  unfold AtMostOneLive
  rw [Ne, trace_repeated, standingFrom_repeated]
  constructor
  · intro once i j positive below passes again leaves submits
    have last := retried_within (again (j - 1) (by omega) (by omega))
    refine once ⟨passes, .inr ⟨j, by omega, by omega, again, submits, .inr ⟨i, positive, below, ?_⟩⟩⟩
    exact leaves
  · rintro safe ⟨passes, cleared | ⟨j, -, -, again, submits, live | ⟨i, positive, below, leaves⟩⟩⟩
    · contradiction
    · obtain ⟨hash, live⟩ := live
      contradiction
    · exact safe i j positive below passes again leaves submits

def mined : Answers
  | .getBlock => .ok 100
  | .newWallet _ => .ok "0x5e"
  | .estimateGas _ => .ok 21000
  | .call _ _ _ => .ok "0x"
  | .estimateGasWithHistory _ _ => .ok "25200"
  | .getOptimalGasPrice _ => .ok ⟨2, none, some "30", some "2"⟩
  | .submit _ _ => .ok "0xd1"
  | .getAddress => .ok "0x5e"
  | .wait _ _ => .ok ⟨101, 21000, some 30, "0xd1"⟩
  | .getTransaction _ => .ok none
  | .getContractWithSigner _ _ | .getContract _ | .getProvider | .populateTransaction _
  | .trackTransaction _ _ _ | .updateTransactionStatus _ | .recordGasUsage _ _ _ _
  | .onConfirmation _ _ | .onRetry _ _ | .setTimeout _ => .ok ()

def slowConfirmation : Schedule
  | 1, .wait _ _ => .error { JsError.ofMessage "timeout exceeded" with code := some "TIMEOUT" }
  | _, op => mined op

def defaultOptions : TransactionOptions :=
  { maxRetries := some 3, retryDelay := some 2000, gasMultiplier := some (6 / 5),
    gasPriceMultiplier := none, gasPriceStrategy := some .fast, customGasPrice := none,
    customMaxFeePerGas := none, customMaxPriorityFeePerGas := none, forceEIP1559 := none,
    forceLegacy := none, confirmations := some 1, skipSimulation := false, useGasHistory := true,
    onRetry := false, onConfirmation := false, metadata := [] }

theorem executeTransaction_submits_twice :
    ¬ AtMostOneLive (slowConfirmation.trace
      ⟨"VaultManager", "deposit", ["1", "100"], "0x5e"⟩ defaultOptions) := by
  decide

end Kanaka.Backend.TransactionService
