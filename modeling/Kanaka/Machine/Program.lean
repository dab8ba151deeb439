import Mathlib.Logic.Function.Basic

/-!
# Programs that hand over control

A resumption: code with a storage `σ` runs until it ends, panics, or sends a request `γ` to somebody
else, and goes on with the reply `ρ` and whatever storage it finds when the reply arrives.
-/

namespace Kanaka.Machine

inductive Program (σ γ ρ α : Type) where
  | done (value : α) (state : σ)
  | panic (reason : String)
  | call (request : γ) (state : σ) (resume : ρ → σ → Program σ γ ρ α)

structure Code (σ γ ρ α : Type) where
  run : σ → Program σ γ ρ α

variable {σ γ ρ α β τ : Type}

def Program.bind : Program σ γ ρ α → (α → σ → Program σ γ ρ β) → Program σ γ ρ β
  | .done value state, next => next value state
  | .panic reason, _ => .panic reason
  | .call request state resume, next =>
      .call request state fun reply state' => (resume reply state').bind next

instance : Monad (Code σ γ ρ) where
  pure value := ⟨fun state => .done value state⟩
  bind first next := ⟨fun state => (first.run state).bind fun value => (next value).run⟩

class Has (τ σ : Type) where
  get : σ → τ
  set : τ → σ → σ
  get_set : ∀ value state, get (set value state) = value
  set_set : ∀ value value' state, set value (set value' state) = set value state

attribute [simp] Has.get_set Has.set_set

instance : Has σ σ := ⟨id, fun value _ => value, fun _ _ => rfl, fun _ _ _ => rfl⟩

@[simp] theorem Has.get_self (state : σ) : (Has.get state : σ) = state := rfl

@[simp] theorem Has.set_self (value state : σ) : Has.set value state = value := rfl

namespace Code

def load (τ : Type) [Has τ σ] : Code σ γ ρ τ := ⟨fun state => .done (Has.get state) state⟩

def update [Has τ σ] (f : τ → τ) : Code σ γ ρ Unit :=
  ⟨fun state => .done () (Has.set (f (Has.get state)) state)⟩

def revert (reason : String) : Code σ γ ρ α := ⟨fun _ => .panic reason⟩

def require (condition : Prop) [Decidable condition] (reason : String) : Code σ γ ρ Unit :=
  if condition then pure () else revert reason

def orPanic (reason : String) : Option α → Code σ γ ρ α
  | some value => pure value
  | none => revert reason

def send (request : γ) : Code σ γ ρ ρ :=
  ⟨fun state => .call request state fun reply state' => .done reply state'⟩

end Code

theorem Program.bind_assoc (program : Program σ γ ρ α) {β δ : Type} (next : α → σ → Program σ γ ρ β)
    (last : β → σ → Program σ γ ρ δ) :
    (program.bind next).bind last = program.bind fun value state => (next value state).bind last := by
  induction program with
  | done value state => rfl
  | panic reason => rfl
  | call request state resume ih =>
      simp only [Program.bind, Program.call.injEq, true_and]
      funext reply state'
      exact ih reply state'

theorem Program.bind_done (program : Program σ γ ρ α) :
    (program.bind fun value state => .done value state) = program := by
  induction program with
  | done value state => rfl
  | panic reason => rfl
  | call request state resume ih =>
      simp only [Program.bind, Program.call.injEq, true_and]
      funext reply state'
      exact ih reply state'

section Evaluation
variable (state : σ)

@[simp] theorem Code.run_bind (first : Code σ γ ρ α) (next : α → Code σ γ ρ β) :
    (first >>= next).run state = (first.run state).bind fun value => (next value).run := rfl

@[simp] theorem Code.run_load [Has τ σ] :
    (Code.load τ : Code σ γ ρ τ).run state = .done (Has.get state) state := rfl

@[simp] theorem Code.run_update [Has τ σ] (f : τ → τ) :
    (Code.update f : Code σ γ ρ Unit).run state =
      .done () (Has.set (f (Has.get state)) state) := rfl

@[simp] theorem Code.run_require (condition : Prop) [Decidable condition] (reason : String) :
    (Code.require condition reason : Code σ γ ρ Unit).run state =
      if condition then .done () state else .panic reason := by
  unfold Code.require
  split <;> rfl

@[simp] theorem Code.run_orPanic_some (reason : String) (value : α) :
    (Code.orPanic reason (some value) : Code σ γ ρ α).run state = .done value state := rfl

@[simp] theorem Program.done_bind (value : α) (next : α → σ → Program σ γ ρ β) :
    (Program.done value state).bind next = next value state := rfl

@[simp] theorem Program.panic_bind (reason : String) (next : α → σ → Program σ γ ρ β) :
    (Program.panic reason).bind next = .panic reason := rfl

end Evaluation

/-- The program can end properly, for some replies and some storages found with them. -/
inductive Program.MayEnd : Program σ γ ρ α → Prop where
  | done {value state} : MayEnd (.done value state)
  | call {request state resume} (reply state') : MayEnd (resume reply state') →
      MayEnd (.call request state resume)

theorem Program.MayEnd.of_require {state : σ} {condition : Prop} [Decidable condition]
    {reason : String} {next : Unit → Code σ γ ρ α}
    (ends : ((Code.require condition reason >>= next).run state).MayEnd) :
    condition ∧ ((next ()).run state).MayEnd := by
  simp only [Code.run_bind, Code.run_require] at ends
  split at ends
  · exact ⟨‹_›, ends⟩
  · cases ends

end Kanaka.Machine
