import Mathlib.Logic.Function.Basic

/-!
# Asynchronous functions

A task runs to its next operation on the outside world (an `await`, a read of the clock, a
broadcast), and goes on with the reply or with the error that comes back.
-/

namespace Kanaka.Async

inductive Task (Op : Type) (Reply : Op → Type) (ε α : Type) where
  | done (value : α)
  | fail (error : ε)
  | await (op : Op) (resume : Except ε (Reply op) → Task Op Reply ε α)

structure Event (Op : Type) (Reply : Op → Type) (ε : Type) where
  op : Op
  answer : Except ε (Reply op)

variable {Op : Type} {Reply : Op → Type} {ε α β σ κ : Type}

namespace Task

def bind : Task Op Reply ε α → (α → Task Op Reply ε β) → Task Op Reply ε β
  | .done value, next => next value
  | .fail error, _ => .fail error
  | .await op resume, next => .await op fun answer => (resume answer).bind next

def tryCatch : Task Op Reply ε α → (ε → Task Op Reply ε α) → Task Op Reply ε α
  | .done value, _ => .done value
  | .fail error, handler => handler error
  | .await op resume, handler => .await op fun answer => (resume answer).tryCatch handler

instance : Monad (Task Op Reply ε) where
  pure := .done
  bind := bind

def perform (op : Op) : Task Op Reply ε (Reply op) :=
  .await op fun
    | .ok reply => .done reply
    | .error error => .fail error

/-- `if (condition) throw error;` -/
def throwIf (condition : Prop) [Decidable condition] (error : ε) : Task Op Reply ε Unit :=
  if condition then .fail error else .done ()

def ofExcept : Except ε α → Task Op Reply ε α
  | .ok value => .done value
  | .error error => .fail error

/-- The task on its own, with each operation answered at once. -/
def run (serve : (op : Op) → σ → Except ε (Reply op) × σ) : Task Op Reply ε α → σ → Except ε α × σ
  | .done value, state => (.ok value, state)
  | .fail error, state => (.error error, state)
  | .await op resume, state => (resume (serve op state).1).run serve (serve op state).2

section Run
variable (serve : (op : Op) → σ → Except ε (Reply op) × σ) (state : σ)

@[simp] theorem run_done (value : α) :
    (done value : Task Op Reply ε α).run serve state = (.ok value, state) := rfl

@[simp] theorem run_pure (value : α) :
    (pure value : Task Op Reply ε α).run serve state = (.ok value, state) := rfl

@[simp] theorem run_fail (error : ε) :
    (fail error : Task Op Reply ε α).run serve state = (.error error, state) := rfl

@[simp] theorem run_perform (op : Op) :
    (perform op : Task Op Reply ε (Reply op)).run serve state = serve op state := by
  simp only [perform, run]
  cases serve op state with
  | mk answer next => cases answer <;> rfl

theorem run_bind (first : Task Op Reply ε α) (next : α → Task Op Reply ε β) :
    (first >>= next).run serve state =
      match first.run serve state with
      | (.ok value, after) => (next value).run serve after
      | (.error error, after) => (.error error, after) := by
  induction first generalizing state with
  | done value => rfl
  | fail error => rfl
  | await op resume ih => exact ih _ _

theorem run_bind_pure (first : Task Op Reply ε α) (f : α → β) :
    (first >>= fun value => pure (f value)).run serve state =
      ((first.run serve state).1.map f, (first.run serve state).2) := by
  rw [run_bind]
  rcases first.run serve state with ⟨_ | value, after⟩ <;> rfl

theorem run_tryCatch (first : Task Op Reply ε α) (handler : ε → Task Op Reply ε α) :
    (first.tryCatch handler).run serve state =
      match first.run serve state with
      | (.ok value, after) => (.ok value, after)
      | (.error error, after) => (handler error).run serve after := by
  induction first generalizing state with
  | done value => rfl
  | fail error => rfl
  | await op resume ih => exact ih _ _

theorem run_throwIf (condition : Prop) [Decidable condition] (error : ε) :
    (throwIf condition error : Task Op Reply ε Unit).run serve state =
      if condition then (.error error, state) else (.ok (), state) := by
  unfold throwIf
  split <;> rfl

section Bind
variable {serve state} {first : Task Op Reply ε α} {next : α → Task Op Reply ε β} {after : σ}

theorem run_bind_ok {value : α} (ran : first.run serve state = (.ok value, after)) :
    (first >>= next).run serve state = (next value).run serve after := by
  rw [run_bind, ran]

theorem run_bind_error {error : ε} (ran : first.run serve state = (.error error, after)) :
    (first >>= next).run serve state = (.error error, after) := by
  rw [run_bind, ran]

theorem run_caught {error : ε} {handler : ε → Task Op Reply ε α}
    (ran : first.run serve state = (.error error, after)) :
    (first.tryCatch handler).run serve state = (handler error).run serve after := by
  rw [run_tryCatch, ran]

variable {condition : Prop} [Decidable condition] {error : ε} {rest : Unit → Task Op Reply ε β}

theorem run_throwIf_pos (holds : condition) :
    (throwIf condition error >>= rest).run serve state = (.error error, state) := by
  apply run_bind_error
  rw [run_throwIf, if_pos holds]

theorem run_throwIf_neg (fails : ¬ condition) :
    (throwIf condition error >>= rest).run serve state = (rest ()).run serve state := by
  apply run_bind_ok
  rw [run_throwIf, if_neg fails]

end Bind

/-- Two servers that answer alike in related states give related runs. -/
theorem run_simulates {τ : Type} {serve : (op : Op) → σ → Except ε (Reply op) × σ}
    {observe : (op : Op) → τ → Except ε (Reply op) × τ} (view : σ → τ)
    (agree : ∀ op state, observe op (view state) = ((serve op state).1, view (serve op state).2))
    (task : Task Op Reply ε α) (state : σ) :
    task.run observe (view state) = ((task.run serve state).1, view (task.run serve state).2) := by
  induction task generalizing state with
  | done value => rfl
  | fail error => rfl
  | await op resume ih =>
      rw [run, run, agree]
      exact ih _ _

end Run

/-! ## What a task does, told by its past -/

/-- Whatever the answers, the task performs an operation only if `Q` allows it after what was noted
of the events so far; it ends in `R` or, with an error, in `E`. -/
inductive Follows (note : κ → Event Op Reply ε → κ) (Q : κ → Op → Prop) (R : κ → α → Prop)
    (E : κ → ε → Prop) : κ → Task Op Reply ε α → Prop where
  | done {notes value} : R notes value → Follows note Q R E notes (.done value)
  | fail {notes error} : E notes error → Follows note Q R E notes (.fail error)
  | await {notes op resume} : Q notes op →
      (∀ answer, Follows note Q R E (note notes ⟨op, answer⟩) (resume answer)) →
      Follows note Q R E notes (.await op resume)

namespace Follows
variable {note : κ → Event Op Reply ε → κ} {Q : κ → Op → Prop} {R : κ → α → Prop}
  {R' : κ → β → Prop} {E : κ → ε → Prop} {notes : κ}

theorem bind {first : Task Op Reply ε α} {next : α → Task Op Reply ε β}
    (follows : Follows note Q (fun notes value => Follows note Q R' E notes (next value)) E notes
      first) : Follows note Q R' E notes (first >>= next) := by
  induction follows with
  | done rest => exact rest
  | fail post => exact .fail post
  | await allowed _ ih => exact .await allowed ih

theorem tryCatch {first : Task Op Reply ε α} {handler : ε → Task Op Reply ε α}
    (follows : Follows note Q R (fun notes error => Follows note Q R E notes (handler error)) notes
      first) : Follows note Q R E notes (first.tryCatch handler) := by
  induction follows with
  | done post => exact .done post
  | fail rest => exact rest
  | await allowed _ ih => exact .await allowed ih

theorem weaken {R₂ : κ → α → Prop} {E₂ : κ → ε → Prop} {task : Task Op Reply ε α}
    (follows : Follows note Q R E notes task) (values : ∀ notes value, R notes value → R₂ notes value)
    (errors : ∀ notes error, E notes error → E₂ notes error) : Follows note Q R₂ E₂ notes task := by
  induction follows with
  | done post => exact .done (values _ _ post)
  | fail post => exact .fail (errors _ _ post)
  | await allowed _ ih => exact .await allowed ih

theorem of_forall (allowed : ∀ notes op, Q notes op) (values : ∀ notes value, R notes value)
    (errors : ∀ notes error, E notes error) (task : Task Op Reply ε α) :
    Follows note Q R E notes task := by
  induction task generalizing notes with
  | done value => exact .done (values notes value)
  | fail error => exact .fail (errors notes error)
  | await op resume ih => exact .await (allowed notes op) fun answer => ih answer

theorem perform {op : Op} {R : κ → Reply op → Prop} (allowed : Q notes op)
    (replied : ∀ reply, R (note notes ⟨op, .ok reply⟩) reply)
    (failed : ∀ error, E (note notes ⟨op, .error error⟩) error) :
    Follows note Q R E notes (Task.perform op) := by
  apply Follows.await allowed
  intro answer
  cases answer with
  | ok reply => exact .done (replied reply)
  | error error => exact .fail (failed error)

theorem throwIf {condition : Prop} [Decidable condition] {error : ε} {R : κ → Unit → Prop}
    (thrown : condition → E notes error) (rest : ¬ condition → R notes ()) :
    Follows note Q R E notes (Task.throwIf condition error) := by
  unfold Task.throwIf
  split
  · exact .fail (thrown ‹_›)
  · exact .done (rest ‹_›)

theorem run_keeps {serve : (op : Op) → σ → Except ε (Reply op) × σ} {I : σ → Prop}
    {task : Task Op Reply ε α} (follows : Follows note Q R E notes task)
    (kept : ∀ notes op state, Q notes op → I state → I (serve op state).2) {state : σ}
    (holds : I state) : I (task.run serve state).2 := by
  induction follows generalizing state with
  | done _ => exact holds
  | fail _ => exact holds
  | await allowed _ ih => exact ih _ (kept _ _ _ allowed holds)

end Follows

end Task

end Kanaka.Async
