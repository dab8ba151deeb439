import Kanaka.Machine.Safety

/-!
# Invariants of single contracts

What the code of every contract of a system keeps between the calls that it makes, the system keeps,
whoever calls whom and however deep.
-/

namespace Kanaka.Machine

variable {σ γ ρ α : Type} {S : System σ γ ρ} {P : σ → Prop}

/-- Every call leaves the system. -/
def solo : System σ γ ρ where
  code _ := none
  enters _ _ _ := True
  drift _ _ := False
  tick _ _ := True

/-- The program keeps `P` if what it calls does. -/
def Local (P : σ → Prop) (program : Program σ γ ρ α) : Prop :=
  ∀ history, Safe solo (fun now => P now.state) (fun _ _ => True) (fun _ now => P now.state)
    program history

namespace Local

theorem done {value : α} {state : σ} (holds : P state) :
    Local P (.done value state : Program σ γ ρ α) := fun _ => .done holds

theorem call {request : γ} {state : σ} {resume : ρ → σ → Program σ γ ρ α} (holds : P state)
    (back : ∀ reply state', P state' → Local P (resume reply state')) :
    Local P (.call request state resume) :=
  fun _ => .outside rfl holds fun reply now ok _ => back reply now.state ok now.history

theorem of_done {value : α} {state : σ} (keeps : Local P (.done value state : Program σ γ ρ α)) :
    P state := by
  cases keeps [] with
  | done holds => exact holds

theorem of_call {request : γ} {state : σ} {resume : ρ → σ → Program σ γ ρ α}
    (keeps : Local P (.call request state resume)) :
    P state ∧ ∀ reply state', P state' → Local P (resume reply state') := by
  constructor
  · cases keeps [] with
    | outside _ holds _ => exact holds
    | inside found _ => cases found
  · intro reply state' holds history
    cases keeps [] with
    | outside _ _ back => exact back reply ⟨state', history⟩ holds trivial
    | inside found _ => cases found

theorem bind {β : Type} {program : Program σ γ ρ β} {next : β → σ → Program σ γ ρ α}
    (keeps : Local P program) (rest : ∀ value state, P state → Local P (next value state)) :
    Local P (program.bind next) := by
  induction program with
  | done value state => exact rest value state keeps.of_done
  | panic reason => exact fun _ => .panic
  | call request state resume ih =>
      obtain ⟨holds, back⟩ := keeps.of_call
      exact .call holds fun reply state' holds' => ih reply state' (back reply state' holds')

theorem send {Q : ρ → Snapshot σ γ ρ → Prop} {request : γ} {state : σ}
    {history : List (Crossing σ γ ρ)} (holds : P state)
    (back : ∀ reply now, P now.state → Q reply now) :
    Safe solo (fun now => P now.state) (fun _ _ => True) Q ((Code.send request).run state) history :=
  .outside rfl holds fun reply now ok _ => .done (back reply now ok)

end Local

/-- The code of every contract keeps `P`, and so does what happens outside. -/
structure Localised (S : System σ γ ρ) (P : σ → Prop) : Prop where
  code : ∀ {request body}, S.code request = some body → ∀ {state}, P state → Local P (body.run state)
  drift : ∀ {before after}, S.drift before after → P before → P after
  tick : ∀ {before after}, S.tick before after → P before → P after

section Runs
variable (localised : Localised S P)
include localised

theorem Localised.runs {program result : Program σ γ ρ ρ} (runs : Runs S program result)
    (keeps : Local P program) : Local P result := by
  induction runs with
  | done | panic | outside => exact keeps
  | inside found _ ih =>
      obtain ⟨holds, back⟩ := keeps.of_call
      exact ih ((localised.code found holds).bind back)

/-- Calls that wait have left `P` behind, and keep it when they go on. -/
def Waiting (P : σ → Prop) (stack : List (Activation σ γ ρ)) : Prop :=
  ∀ activation ∈ stack, P activation.saved.state ∧
    ∀ reply state, P state → Local P (activation.resume reply state)

omit localised in
theorem Local.settle {saved : Snapshot σ γ ρ} {history : List (Crossing σ γ ρ)}
    {stack : List (Activation σ γ ρ)} {result : Program σ γ ρ ρ} (keeps : Local P result)
    (before : P saved.state) (waiting : Waiting P stack) :
    P (settle saved history stack result).now.state ∧
      Waiting P (settle saved history stack result).stack := by
  cases result with
  | done reply state => exact ⟨keeps.of_done, waiting⟩
  | panic reason => exact ⟨before, waiting⟩
  | call request state resume =>
      obtain ⟨holds, back⟩ := keeps.of_call
      exact ⟨holds, List.forall_mem_cons.mpr ⟨⟨before, back⟩, waiting⟩⟩

theorem Localised.step {config next : Config σ γ ρ} (step : Step S config next)
    (holds : P config.now.state) (waiting : Waiting P config.stack) :
    P next.now.state ∧ Waiting P next.stack := by
  cases step with
  | enter _ found runs =>
      exact (localised.runs runs (localised.code found holds)).settle holds waiting
  | reply reply runs =>
      obtain ⟨⟨before, back⟩, rest⟩ := List.forall_mem_cons.mp waiting
      exact (localised.runs runs (back reply _ holds)).settle before rest
  | fail =>
      obtain ⟨⟨before, _⟩, rest⟩ := List.forall_mem_cons.mp waiting
      exact ⟨before, rest⟩
  | drift moves => exact ⟨localised.drift moves holds, waiting⟩
  | tick moves => exact ⟨localised.tick moves holds, waiting⟩

theorem Localised.invariant {state : σ} {config : Config σ γ ρ} (initially : P state)
    (reaches : S.Reaches (.initial state) config) : P config.now.state := by
  suffices holds : P config.now.state ∧ Waiting P config.stack from holds.1
  induction reaches with
  | refl => exact ⟨initially, by simp [Config.initial, Waiting]⟩
  | tail _ step ih => exact localised.step step ih.1 ih.2

end Runs

end Kanaka.Machine
