import Kanaka.Machine.System

/-!
# Programs that end properly

`Completes` is total: the program ends when the environment answers each of its calls at once,
changing nothing. Then a request that reaches the program can be served by a run.
-/

namespace Kanaka.Machine

variable {σ γ ρ α β δ : Type} {S : System σ γ ρ}

inductive Completes (S : System σ γ ρ) (Q : α → σ → Prop) : Program σ γ ρ α → Prop where
  | done {value state} : Q value state → Completes S Q (.done value state)
  | answered {request state resume} (reply : ρ) : S.code request = none →
      Completes S Q (resume reply state) → Completes S Q (.call request state resume)
  | inside {request state resume body} : S.code request = some body →
      Completes S Q ((body.run state).bind resume) → Completes S Q (.call request state resume)

namespace Completes

/-! ## Rules for code -/

section Rules
variable {Q : α → σ → Prop} {state : σ}

theorem require {condition : Prop} [Decidable condition] {reason : String}
    {next : Unit → Code σ γ ρ α} (holds : condition) (rest : Completes S Q ((next ()).run state)) :
    Completes S Q ((Code.require condition reason >>= next).run state) := by
  rw [Code.run_bind, Code.run_require, if_pos holds]
  exact rest

theorem load {τ : Type} [Has τ σ] {next : τ → Code σ γ ρ α}
    (rest : Completes S Q ((next (Has.get state)).run state)) :
    Completes S Q ((Code.load τ >>= next).run state) := rest

theorem update {τ : Type} [Has τ σ] {f : τ → τ} {next : Unit → Code σ γ ρ α}
    (rest : Completes S Q ((next ()).run (Has.set (f (Has.get state)) state))) :
    Completes S Q ((Code.update f >>= next).run state) := rest

theorem orPanic {reason : String} {value : Option β} {b : β} {next : β → Code σ γ ρ α}
    (found : value = some b) (rest : Completes S Q ((next b).run state)) :
    Completes S Q ((Code.orPanic reason value >>= next).run state) := by
  rw [found]
  exact rest

theorem bind {first : Code σ γ ρ β} {next : β → Code σ γ ρ α}
    (completes : Completes S (fun value now => Completes S Q ((next value).run now))
      (first.run state)) : Completes S Q ((first >>= next).run state) := by
  rw [Code.run_bind]
  generalize first.run state = program at completes
  induction completes with
  | done rest => exact rest
  | answered reply missing _ ih => exact .answered reply missing ih
  | inside found _ ih =>
      rw [Program.bind_assoc] at ih
      exact .inside found ih

theorem weaken {Q' : α → σ → Prop} {program : Program σ γ ρ α} (completes : Completes S Q program)
    (implies : ∀ value state, Q value state → Q' value state) : Completes S Q' program := by
  induction completes with
  | done post => exact .done (implies _ _ post)
  | answered reply missing _ ih => exact .answered reply missing ih
  | inside found _ ih => exact .inside found ih

theorem sendOut {request : γ} {Q : ρ → σ → Prop} (reply : ρ) (missing : S.code request = none)
    (post : Q reply state) : Completes S Q ((Code.send request).run state) :=
  .answered reply missing (.done post)

theorem sendIn {request : γ} {body : Code σ γ ρ ρ} {Q : ρ → σ → Prop}
    (found : S.code request = some body) (rest : Completes S Q (body.run state)) :
    Completes S Q ((Code.send request).run state) := by
  apply Completes.inside found
  rw [Program.bind_done]
  exact rest

end Rules

/-! ## Runs -/

variable {Q : ρ → σ → Prop} {first : Config σ γ ρ}

theorem settles {saved : Snapshot σ γ ρ} {history : List (Crossing σ γ ρ)}
    {stack : List (Activation σ γ ρ)} {program : Program σ γ ρ ρ} (completes : Completes S Q program)
    (reaches : ∀ result, Runs S program result → S.Reaches first (settle saved history stack result)) :
    ∃ reply now, Q reply now.state ∧ S.Reaches first ⟨now, stack⟩ := by
  induction completes generalizing history with
  | done post => exact ⟨_, _, post, reaches _ .done⟩
  | answered reply missing _ ih =>
      exact ih fun result runs => (reaches _ (.outside missing)).step (.reply reply runs)
  | inside found _ ih => exact ih fun result runs => reaches result (.inside found runs)

theorem served {now : Snapshot σ γ ρ} {stack : List (Activation σ γ ρ)} {request : γ}
    {body : Code σ γ ρ ρ} (completes : Completes S Q (body.run now.state))
    (enters : S.enters stack.length request now.state) (found : S.code request = some body) :
    ∃ reply next, Q reply next.state ∧ S.Reaches ⟨now, stack⟩ ⟨next, stack⟩ :=
  completes.settles fun _ runs => .single (.enter enters found runs)

end Completes

end Kanaka.Machine
