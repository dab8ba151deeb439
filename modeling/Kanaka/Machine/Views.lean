import Kanaka.Machine.Program
import Mathlib.Order.Defs.Unbundled

/-!
# Code over different storages

The code of a contract does not depend on what else the storage holds. `Seen` relates what it does
over a storage to what the same code does over a part of it, and tells which requests it sends and
what it leaves as it was.
-/

namespace Kanaka.Machine

variable {σ τ γ ρ α β : Type}

/-- The second program is the first, seen through `view`. Between two calls the first keeps to
`frame`, and its requests are among `sends`. -/
inductive Program.Seen (view : σ → τ) (frame : σ → σ → Prop) (sends : γ → Prop) :
    σ → Program σ γ ρ α → Program τ γ ρ α → Prop where
  | done {start state value} : frame start state →
      Seen view frame sends start (.done value state) (.done value (view state))
  | panic {start reason} : Seen view frame sends start (.panic reason) (.panic reason)
  | call {start request state resume resume'} : sends request → frame start state →
      (∀ reply state', Seen view frame sends state' (resume reply state')
        (resume' reply (view state'))) →
      Seen view frame sends start (.call request state resume) (.call request (view state) resume')

/-- The second code does over the part what the first does over the whole. -/
def Code.Seen (view : σ → τ) (frame : σ → σ → Prop) (sends : γ → Prop) (code : Code σ γ ρ α)
    (code' : Code τ γ ρ α) : Prop :=
  ∀ state, (code.run state).Seen view frame sends state (code'.run (view state))

/-- A component is read alike in the whole and in the part. -/
structure Reads (view : σ → τ) (κ : Type) [Has κ σ] [Has κ τ] : Prop where
  get : ∀ state, (Has.get (view state) : κ) = Has.get state

/-- Writing a component is the same in the whole and in the part, and keeps to the frame. -/
structure Writes (view : σ → τ) (frame : σ → σ → Prop) (κ : Type) [Has κ σ] [Has κ τ] : Prop
    extends Reads view κ where
  set : ∀ (value : κ) state, view (Has.set value state) = Has.set value (view state)
  frame : ∀ (value : κ) state, frame state (Has.set value state)

variable {view : σ → τ} {frame : σ → σ → Prop} {sends : γ → Prop}

section Preorder
variable [IsPreorder σ frame]

theorem Program.Seen.rebase {start state : σ} {program : Program σ γ ρ α} {program' : Program τ γ ρ α}
    (framed : frame start state) (seen : program.Seen view frame sends state program') :
    program.Seen view frame sends start program' := by
  cases seen with
  | done last => exact .done (IsTrans.trans _ _ _ framed last)
  | panic => exact .panic
  | call sent last resume => exact .call sent (IsTrans.trans _ _ _ framed last) resume

theorem Program.Seen.bind {start : σ} {program : Program σ γ ρ α} {program' : Program τ γ ρ α}
    {next : α → σ → Program σ γ ρ β} {next' : α → τ → Program τ γ ρ β}
    (seen : program.Seen view frame sends start program')
    (rest : ∀ value state, (next value state).Seen view frame sends state (next' value (view state))) :
    (program.bind next).Seen view frame sends start (program'.bind next') := by
  induction seen with
  | done framed => exact (rest _ _).rebase framed
  | panic => exact .panic
  | call sent framed _ ih => exact .call sent framed ih

/-! ## Rules for code -/

namespace Code.Seen
variable {κ : Type} [Has κ σ] [Has κ τ]

theorem bind {first : Code σ γ ρ β} {first' : Code τ γ ρ β} {next : β → Code σ γ ρ α}
    {next' : β → Code τ γ ρ α} (seen : first.Seen view frame sends first')
    (rest : ∀ value, (next value).Seen view frame sends (next' value)) :
    Code.Seen view frame sends (first >>= next) (first' >>= next') :=
  fun state => (seen state).bind fun value => rest value

theorem pure (value : α) :
    Code.Seen view frame sends (pure value : Code σ γ ρ α) (pure value : Code τ γ ρ α) :=
  fun _ => .done (Std.Refl.refl _)

omit [IsPreorder σ frame] in
theorem revert (reason : String) :
    Code.Seen view frame sends (Code.revert reason : Code σ γ ρ α) (Code.revert reason) :=
  fun _ => .panic

theorem require {condition : Prop} [Decidable condition] {reason : String} :
    Code.Seen view frame sends (Code.require condition reason : Code σ γ ρ Unit)
      (Code.require condition reason) := by
  unfold Code.require
  split
  · exact pure ()
  · exact revert reason

theorem orPanic {reason : String} (value : Option α) :
    Code.Seen view frame sends (Code.orPanic reason value : Code σ γ ρ α)
      (Code.orPanic reason value) := by
  cases value with
  | none => exact revert reason
  | some value => exact pure value

theorem load (reads : Reads view κ) :
    Code.Seen view frame sends (Code.load κ : Code σ γ ρ κ) (Code.load κ) := by
  intro state
  simp only [Code.run_load, reads.get]
  exact .done (Std.Refl.refl _)

omit [IsPreorder σ frame] in
theorem update (writes : Writes view frame κ) (f : κ → κ) :
    Code.Seen view frame sends (Code.update f : Code σ γ ρ Unit) (Code.update f) := by
  intro state
  simp only [Code.run_update, writes.get, ← writes.set]
  exact .done (writes.frame _ state)

theorem send {request : γ} (sent : sends request) :
    Code.Seen view frame sends (Code.send request : Code σ γ ρ ρ) (Code.send request) :=
  fun _ => .call sent (Std.Refl.refl _) fun _ _ => .done (Std.Refl.refl _)

end Code.Seen

end Preorder

end Kanaka.Machine
