import Kanaka.Machine.System

/-! # Computing runs -/

namespace Kanaka.Machine

variable {σ γ ρ : Type} {S : System σ γ ρ}

def System.runFor (S : System σ γ ρ) : Nat → Program σ γ ρ ρ → Option (Program σ γ ρ ρ)
  | _, .done reply state => some (.done reply state)
  | _, .panic reason => some (.panic reason)
  | 0, .call _ _ _ => none
  | fuel + 1, .call request state resume =>
      match S.code request with
      | none => some (.call request state resume)
      | some body => S.runFor fuel ((body.run state).bind resume)

theorem System.runFor_sound (fuel : Nat) {program result : Program σ γ ρ ρ}
    (h : S.runFor fuel program = some result) : Runs S program result := by
  induction fuel generalizing program with
  | zero =>
      cases program with
      | done | panic =>
          rw [← Option.some.inj h]
          constructor
      | call => contradiction
  | succ fuel ih =>
      cases program with
      | done | panic =>
          rw [← Option.some.inj h]
          constructor
      | call request state resume =>
          simp only [System.runFor] at h
          split at h
          · rename_i missing
            rw [← Option.some.inj h]
            exact .outside missing
          · rename_i body found
            exact .inside found (ih h)

theorem System.start (S : System σ γ ρ) (state : σ) :
    S.Reaches (.initial state) ⟨⟨state, []⟩, []⟩ := .refl

namespace System.Reaches
variable {first : Config σ γ ρ} {now : Snapshot σ γ ρ} {stack : List (Activation σ γ ρ)}
  {result : Program σ γ ρ ρ}

theorem enter (reaches : S.Reaches first ⟨now, stack⟩) (request : γ)
    (enters : S.enters stack.length request now.state) {body : Code σ γ ρ ρ}
    (found : S.code request = some body) (fuel : Nat)
    (runs : S.runFor fuel (body.run now.state) = some result) :
    S.Reaches first (settle now (now.history ++ [.received request now.state]) stack result) :=
  reaches.step (.enter enters found (System.runFor_sound fuel runs))

theorem reply {activation : Activation σ γ ρ}
    (reaches : S.Reaches first ⟨now, activation :: stack⟩) (reply : ρ) (fuel : Nat)
    (runs : S.runFor fuel (activation.resume reply now.state) = some result) :
    S.Reaches first
      (settle activation.saved (now.history ++ [.resumed reply now.state]) stack result) :=
  reaches.step (.reply reply (System.runFor_sound fuel runs))

theorem drift (reaches : S.Reaches first ⟨now, stack⟩) (state : σ)
    (moves : S.drift now.state state) : S.Reaches first ⟨⟨state, now.history⟩, stack⟩ :=
  reaches.step (.drift moves)

theorem tick (reaches : S.Reaches first ⟨now, []⟩) (state : σ) (moves : S.tick now.state state) :
    S.Reaches first ⟨⟨state, now.history⟩, []⟩ :=
  reaches.step (.tick moves)

end System.Reaches

end Kanaka.Machine
