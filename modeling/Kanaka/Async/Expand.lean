import Kanaka.Async.Task

/-!
# Operations that are tasks

An operation of one level can be a task of operations of the level below.
-/

namespace Kanaka.Async.Task

variable {Op Op' : Type} {Reply : Op → Type} {Reply' : Op' → Type} {ε α κ : Type}

/-- The task up to the value or the error that it ends with. -/
def attempt (task : Task Op Reply ε α) : Task Op Reply ε (Except ε α) :=
  (task >>= fun value => pure (.ok value)).tryCatch fun error => pure (.error error)

def expand (serve : (op : Op) → Task Op' Reply' ε (Reply op)) : Task Op Reply ε α → Task Op' Reply' ε α
  | .done value => .done value
  | .fail error => .fail error
  | .await op resume => (serve op).attempt >>= fun answer => (resume answer).expand serve

theorem run_attempt {σ : Type} (serve : (op : Op) → σ → Except ε (Reply op) × σ)
    (task : Task Op Reply ε α) (state : σ) :
    task.attempt.run serve state = (.ok (task.run serve state).1, (task.run serve state).2) := by
  rw [attempt, run_tryCatch, run_bind_pure]
  rcases task.run serve state with ⟨_ | value, after⟩ <;> rfl

namespace Follows
variable {note : κ → Event Op' Reply' ε → κ} {Q : κ → Op' → Prop} {E : κ → ε → Prop} {notes : κ}

theorem attempt {R : κ → Except ε α → Prop} {task : Task Op' Reply' ε α}
    (follows : Follows note Q (fun notes value => R notes (.ok value))
      (fun notes error => R notes (.error error)) notes task) :
    Follows note Q R E notes task.attempt := by
  apply Follows.tryCatch
  apply Follows.bind
  apply follows.weaken
  · exact fun _ _ ends => .done ends
  · exact fun _ _ ends => .done ends

/-- What every operation keeps when it is expanded, every task keeps. -/
theorem expand {I : κ → Prop} {serve : (op : Op) → Task Op' Reply' ε (Reply op)}
    (served : ∀ op notes, I notes →
      Follows note Q (fun notes _ => I notes) (fun notes _ => I notes) notes (serve op))
    (task : Task Op Reply ε α) (holds : I notes) :
    Follows note Q (fun notes _ => I notes) (fun notes _ => I notes) notes (task.expand serve) := by
  induction task generalizing notes with
  | done value => exact .done holds
  | fail error => exact .fail holds
  | await op resume ih =>
      apply Follows.bind
      apply Follows.attempt
      apply (served op notes holds).weaken
      · exact fun _ _ holds => ih _ holds
      · exact fun _ _ holds => ih _ holds

end Follows

end Kanaka.Async.Task
