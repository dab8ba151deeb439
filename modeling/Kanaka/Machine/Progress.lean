import Kanaka.Machine.System

/-! # Following a run that must not fail -/

namespace Kanaka.Machine.Runs

variable {σ γ ρ α β δ : Type} {S : System σ γ ρ} {state : σ} {result : Program σ γ ρ ρ}

theorem require {condition : Prop} [Decidable condition] {reason : String}
    {next : Unit → Code σ γ ρ ρ} (holds : condition)
    (runs : Runs S ((next ()).run state) result) :
    Runs S ((Code.require condition reason >>= next).run state) result := by
  rw [Code.run_bind, Code.run_require, if_pos holds]
  exact runs

theorem load {τ : Type} [Has τ σ] {next : τ → Code σ γ ρ ρ}
    (runs : Runs S ((next (Has.get state)).run state) result) :
    Runs S ((Code.load τ >>= next).run state) result := runs

theorem update {τ : Type} [Has τ σ] {f : τ → τ} {next : Unit → Code σ γ ρ ρ}
    (runs : Runs S ((next ()).run (Has.set (f (Has.get state)) state)) result) :
    Runs S ((Code.update f >>= next).run state) result := runs

theorem orPanic {reason : String} {value : Option β} {b : β} {next : β → Code σ γ ρ ρ}
    (found : value = some b) (runs : Runs S ((next b).run state) result) :
    Runs S ((Code.orPanic reason value >>= next).run state) result := by
  rw [found]
  exact runs

theorem sendIn {request : γ} {body : Code σ γ ρ ρ} {next : ρ → Code σ γ ρ ρ}
    (found : S.code request = some body) (runs : Runs S ((body >>= next).run state) result) :
    Runs S ((Code.send request >>= next).run state) result := .inside found runs

theorem assoc {first : Code σ γ ρ β} {second : β → Code σ γ ρ δ} {next : δ → Code σ γ ρ ρ}
    (runs : Runs S ((first >>= fun b => second b >>= next).run state) result) :
    Runs S (((first >>= second) >>= next).run state) result := by
  simp only [Code.run_bind, Program.bind_assoc] at runs ⊢
  exact runs

end Kanaka.Machine.Runs
