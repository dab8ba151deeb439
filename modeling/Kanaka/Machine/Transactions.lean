import Kanaka.Machine.Outcome

/-!
# Calls one after the other

A list of calls that all succeed. Others act between them and while one of them waits for a reply,
but only as `others` allows.
-/

namespace Kanaka.Machine

variable {σ γ ρ : Type}

def amid (others : σ → σ → Prop) : γ → σ → Option (ρ × σ) → Prop :=
  fun _ state answer => ∀ reply found, answer = some (reply, found) → others state found

/-- The storage after the latest call. -/
def latest (first : σ) (past : List (γ × σ)) : σ := (past.getLast?.map Prod.snd).getD first

@[simp] theorem latest_concat (first : σ) (past : List (γ × σ)) (call : γ × σ) :
    latest first (past ++ [call]) = call.2 := by
  simp [latest]

/-- Each request with the storage in which its call ends. -/
inductive Succession (S : System σ γ ρ) (others : σ → σ → Prop) (made : γ → Prop) (first : σ) :
    List (γ × σ) → Prop where
  | nil : Succession S others made first []
  | snoc {past request before body sent reply after} : Succession S others made first past →
      others (latest first past) before → made request → S.code request = some body →
      Ends S (amid others) (body.run before) sent (some (reply, after)) →
      Succession S others made first (past ++ [(request, after)])

namespace Succession
variable {S : System σ γ ρ} {others : σ → σ → Prop} {made : γ → Prop} {first : σ}
  {past : List (γ × σ)}

theorem of_prefix {early : List (γ × σ)} (succession : Succession S others made first past)
    (reached : early <+: past) : Succession S others made first early := by
  induction succession with
  | nil =>
      rw [List.prefix_nil.mp reached]
      exact .nil
  | snoc succession met known found ends ih =>
      rcases List.prefix_concat_iff.mp reached with rfl | reached
      · exact .snoc succession met known found ends
      · exact ih reached

theorem call {body : Code σ γ ρ ρ} {sent : List γ} {reply : ρ} {after : σ}
    (succession : Succession S others made first past) (refl : ∀ state, others state state)
    (request : γ) (known : made request) (found : S.code request = some body) (answer : γ → Option ρ) (fuel : Nat)
    (ends : S.endsFor answer fuel (body.run (latest first past)) = some (sent, some (reply, after))) :
    Succession S others made first (past ++ [(request, after)]) := by
  apply succession.snoc (refl _) known found
  apply (System.endsFor_sound answer fuel ends).weaken
  rintro request state result given reply found rfl
  rw [(Ends.quiet_some.mp given).2]
  exact refl state

/-- If a step keeps `P` exactly when it is harmless, then `P` holds after every call exactly when
every call is harmless. -/
theorem always_iff {P : σ → Prop} {harmless : σ → γ → Prop} (initially : P first)
    (step : ∀ past request before body sent reply after, Succession S others made first past →
      others (latest first past) before → made request → S.code request = some body →
      Ends S (amid others) (body.run before) sent (some (reply, after)) → P (latest first past) →
      (P after ↔ harmless (latest first past) request))
    (succession : Succession S others made first past) :
    (∀ early, early <+: past → P (latest first early)) ↔
      ∀ early call, early ++ [call] <+: past → harmless (latest first early) call.1 := by
  induction succession with
  | nil =>
      constructor
      · intro _ early call reached
        simp at reached
      · intro _ early reached
        rw [List.prefix_nil.mp reached]
        exact initially
  | @snoc past request before body sent reply after succession met known found ends ih =>
      have next := step _ _ _ _ _ _ _ succession met known found ends
      constructor
      · intro always early call reached
        have before := ih.mp fun earlier reached => always earlier (reached.trans (List.prefix_append ..))
        rcases List.prefix_concat_iff.mp reached with last | reached
        · obtain ⟨rfl, same⟩ := List.append_inj' last rfl
          cases same
          have there := always _ (List.prefix_refl _)
          rw [latest_concat] at there
          exact (next (always early (List.prefix_append ..))).mp there
        · exact before early call reached
      · intro harmless early reached
        have before := ih.mpr fun earlier call reached =>
          harmless earlier call (reached.trans (List.prefix_append ..))
        rcases List.prefix_concat_iff.mp reached with rfl | reached
        · rw [latest_concat]
          exact (next (before past (List.prefix_refl past))).mpr
            (harmless past (request, after) (List.prefix_refl _))
        · exact before early reached

end Succession

end Kanaka.Machine
