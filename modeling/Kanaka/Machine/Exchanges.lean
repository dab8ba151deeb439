import Kanaka.Machine.Outcome

/-!
# What is found with each answer

`Exchanges` follows a call like `Ends`, in an environment that may do anything, and records each
request that leaves the system together with the storage that its answer comes back to.
-/

namespace Kanaka.Machine

variable {σ γ ρ α β : Type} {S : System σ γ ρ}

inductive Exchanges (S : System σ γ ρ) : Program σ γ ρ ρ → List (γ × σ) → ρ × σ → Prop where
  | done {reply state} : Exchanges S (.done reply state) [] (reply, state)
  | inside {request state resume body exchanges result} : S.code request = some body →
      Exchanges S ((body.run state).bind resume) exchanges result →
      Exchanges S (.call request state resume) exchanges result
  | answered {request state resume reply found exchanges result} : S.code request = none →
      Exchanges S (resume reply found) exchanges result →
      Exchanges S (.call request state resume) ((request, found) :: exchanges) result

theorem Ends.exchanges {env : γ → σ → Option (ρ × σ) → Prop} {program : Program σ γ ρ ρ}
    {sent : List γ} {outcome : Option (ρ × σ)} (ends : Ends S env program sent outcome)
    {result : ρ × σ} (succeeds : outcome = some result) :
    ∃ exchanges, exchanges.map Prod.fst = sent ∧ Exchanges S program exchanges result := by
  induction ends with
  | done =>
      cases succeeds
      exact ⟨[], rfl, .done⟩
  | panic => contradiction
  | inside found _ ih =>
      obtain ⟨exchanges, rfl, made⟩ := ih succeeds
      exact ⟨exchanges, rfl, .inside found made⟩
  | @answered request _ _ _ state _ _ missing _ _ ih =>
      obtain ⟨exchanges, rfl, made⟩ := ih succeeds
      exact ⟨(request, state) :: exchanges, rfl, .answered missing made⟩
  | failed => contradiction

namespace Exchanges
variable {state : σ} {exchanges : List (γ × σ)} {result : ρ × σ}

theorem done_iff {reply : ρ} :
    Exchanges S (.done reply state) exchanges result ↔ exchanges = [] ∧ result = (reply, state) := by
  constructor
  · intro made
    cases made
    exact ⟨rfl, rfl⟩
  · rintro ⟨rfl, rfl⟩
    exact .done

theorem of_require {condition : Prop} [Decidable condition] {reason : String}
    {next : Unit → Code σ γ ρ ρ}
    (made : Exchanges S ((Code.require condition reason >>= next).run state) exchanges result) :
    condition ∧ Exchanges S ((next ()).run state) exchanges result := by
  rw [Code.run_bind, Code.run_require] at made
  split at made
  · exact ⟨‹_›, made⟩
  · cases made

theorem of_load {τ : Type} [Has τ σ] {next : τ → Code σ γ ρ ρ}
    (made : Exchanges S ((Code.load τ >>= next).run state) exchanges result) :
    Exchanges S ((next (Has.get state)).run state) exchanges result := made

theorem of_update {τ : Type} [Has τ σ] {f : τ → τ} {next : Unit → Code σ γ ρ ρ}
    (made : Exchanges S ((Code.update f >>= next).run state) exchanges result) :
    Exchanges S ((next ()).run (Has.set (f (Has.get state)) state)) exchanges result := made

theorem of_orPanic {reason : String} {value : Option β} {next : β → Code σ γ ρ ρ}
    (made : Exchanges S ((Code.orPanic reason value >>= next).run state) exchanges result) :
    ∃ b, value = some b ∧ Exchanges S ((next b).run state) exchanges result := by
  cases value with
  | none => cases made
  | some b => exact ⟨b, rfl, made⟩

theorem of_assoc {first : Code σ γ ρ β} {second : β → Code σ γ ρ α} {next : α → Code σ γ ρ ρ}
    (made : Exchanges S (((first >>= second) >>= next).run state) exchanges result) :
    Exchanges S ((first >>= fun b => second b >>= next).run state) exchanges result := by
  simp only [Code.run_bind, Program.bind_assoc] at made ⊢
  exact made

theorem of_send {request : γ} {next : ρ → Code σ γ ρ ρ}
    (served : ∀ body, S.code request = some body → ∃ reason, body.run state = .panic reason)
    (made : Exchanges S ((Code.send request >>= next).run state) exchanges result) :
    ∃ reply found rest, exchanges = (request, found) :: rest ∧
      Exchanges S ((next reply).run found) rest result := by
  cases made with
  | inside found made =>
      obtain ⟨reason, panics⟩ := served _ found
      rw [panics] at made
      cases made
  | answered _ made => exact ⟨_, _, _, rfl, made⟩

theorem of_sendIn {request : γ} {body : Code σ γ ρ ρ} {next : ρ → Code σ γ ρ ρ}
    (found : S.code request = some body)
    (made : Exchanges S ((Code.send request >>= next).run state) exchanges result) :
    Exchanges S ((body >>= next).run state) exchanges result := by
  cases made with
  | inside found' made =>
      rw [found, Option.some.injEq] at found'
      subst found'
      exact made
  | answered missing =>
      rw [missing] at found
      contradiction

end Exchanges

end Kanaka.Machine
