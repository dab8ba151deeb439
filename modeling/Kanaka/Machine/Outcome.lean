import Kanaka.Machine.Simulate

/-!
# What a call comes to

`Ends` follows one call to its end in an environment of which only the answers matter: `env` says
how a request that leaves the system may be answered, and which storage is found with the answer.
-/

namespace Kanaka.Machine

variable {σ γ ρ α β : Type} {S : System σ γ ρ} {env : γ → σ → Option (ρ × σ) → Prop}

/-- The call sends `sent` out of the system and ends with a reply, or with `none` when it is
reverted. -/
inductive Ends (S : System σ γ ρ) (env : γ → σ → Option (ρ × σ) → Prop) :
    Program σ γ ρ ρ → List γ → Option (ρ × σ) → Prop where
  | done {reply state} : Ends S env (.done reply state) [] (some (reply, state))
  | panic {reason} : Ends S env (.panic reason) [] none
  | inside {request state resume body sent result} : S.code request = some body →
      Ends S env ((body.run state).bind resume) sent result →
      Ends S env (.call request state resume) sent result
  | answered {request state resume reply found sent result} : S.code request = none →
      env request state (some (reply, found)) → Ends S env (resume reply found) sent result →
      Ends S env (.call request state resume) (request :: sent) result
  | failed {request state resume} : S.code request = none → env request state none →
      Ends S env (.call request state resume) [request] none

/-- An environment that answers as it likes and may have changed anything in the meantime. -/
def anything : γ → σ → Option (ρ × σ) → Prop := fun _ _ _ => True

/-- An environment that answers, or fails, without entering the system. -/
def quiet (answer : γ → Option ρ) : γ → σ → Option (ρ × σ) → Prop :=
  fun request state result => result = (answer request).map (·, state)

/-- The storage after a call that was made in `state`. -/
def settled (state : σ) : Option (ρ × σ) → σ
  | some (_, final) => final
  | none => state

namespace Ends

theorem done_iff {reply : ρ} {state : σ} {sent : List γ} {result : Option (ρ × σ)} :
    Ends S env (.done reply state) sent result ↔ sent = [] ∧ result = some (reply, state) := by
  constructor
  · intro ends
    cases ends
    exact ⟨rfl, rfl⟩
  · rintro ⟨rfl, rfl⟩
    exact .done

theorem of_panic {reason : String} {sent : List γ} {result : Option (ρ × σ)}
    (ends : Ends S env (.panic reason) sent result) : result = none := by
  cases ends
  rfl

section Code
variable {state : σ} {sent : List γ} {result : ρ × σ}

theorem of_require {condition : Prop} [Decidable condition] {reason : String}
    {next : Unit → Code σ γ ρ ρ}
    (ends : Ends S env ((Code.require condition reason >>= next).run state) sent (some result)) :
    condition ∧ Ends S env ((next ()).run state) sent (some result) := by
  rw [Code.run_bind, Code.run_require] at ends
  split at ends
  · exact ⟨‹_›, ends⟩
  · exact absurd ends.of_panic (Option.some_ne_none _)

theorem of_load {τ : Type} [Has τ σ] {next : τ → Code σ γ ρ ρ} {result : Option (ρ × σ)}
    (ends : Ends S env ((Code.load τ >>= next).run state) sent result) :
    Ends S env ((next (Has.get state)).run state) sent result := ends

theorem of_update {τ : Type} [Has τ σ] {f : τ → τ} {next : Unit → Code σ γ ρ ρ}
    {result : Option (ρ × σ)}
    (ends : Ends S env ((Code.update f >>= next).run state) sent result) :
    Ends S env ((next ()).run (Has.set (f (Has.get state)) state)) sent result := ends

theorem of_orPanic {reason : String} {value : Option β} {next : β → Code σ γ ρ ρ}
    (ends : Ends S env ((Code.orPanic reason value >>= next).run state) sent (some result)) :
    ∃ b, value = some b ∧ Ends S env ((next b).run state) sent (some result) := by
  cases value with
  | none => exact absurd ends.of_panic (Option.some_ne_none _)
  | some b => exact ⟨b, rfl, ends⟩

theorem of_assoc {first : Code σ γ ρ β} {second : β → Code σ γ ρ α} {next : α → Code σ γ ρ ρ}
    {result : Option (ρ × σ)}
    (ends : Ends S env (((first >>= second) >>= next).run state) sent result) :
    Ends S env ((first >>= fun b => second b >>= next).run state) sent result := by
  simp only [Code.run_bind, Program.bind_assoc] at ends ⊢
  exact ends

theorem of_send {request : γ} {next : ρ → Code σ γ ρ ρ}
    (served : ∀ body, S.code request = some body → ∃ reason, body.run state = .panic reason)
    (ends : Ends S env ((Code.send request >>= next).run state) sent (some result)) :
    ∃ reply found rest, sent = request :: rest ∧ S.code request = none ∧
      env request state (some (reply, found)) ∧
      Ends S env ((next reply).run found) rest (some result) := by
  cases ends with
  | inside found ends =>
      obtain ⟨reason, panics⟩ := served _ found
      rw [panics] at ends
      exact absurd ends.of_panic (Option.some_ne_none _)
  | answered missing answer ends => exact ⟨_, _, _, rfl, missing, answer, ends⟩

theorem require {condition : Prop} [Decidable condition] {reason : String}
    {next : Unit → Code σ γ ρ ρ} (holds : condition)
    (ends : Ends S env ((next ()).run state) sent (some result)) :
    Ends S env ((Code.require condition reason >>= next).run state) sent (some result) := by
  rw [Code.run_bind, Code.run_require, if_pos holds]
  exact ends

theorem load {τ : Type} [Has τ σ] {next : τ → Code σ γ ρ ρ}
    (ends : Ends S env ((next (Has.get state)).run state) sent (some result)) :
    Ends S env ((Code.load τ >>= next).run state) sent (some result) := ends

theorem update {τ : Type} [Has τ σ] {f : τ → τ} {next : Unit → Code σ γ ρ ρ}
    (ends : Ends S env ((next ()).run (Has.set (f (Has.get state)) state)) sent (some result)) :
    Ends S env ((Code.update f >>= next).run state) sent (some result) := ends

theorem send {request : γ} {reply : ρ} {found : σ} {next : ρ → Code σ γ ρ ρ}
    (missing : S.code request = none) (answer : env request state (some (reply, found)))
    (ends : Ends S env ((next reply).run found) sent (some result)) :
    Ends S env ((Code.send request >>= next).run state) (request :: sent) (some result) :=
  .answered missing answer ends

theorem sendIn {request : γ} {body : Code σ γ ρ ρ} {next : ρ → Code σ γ ρ ρ}
    (found : S.code request = some body)
    (ends : Ends S env ((body >>= next).run state) sent (some result)) :
    Ends S env ((Code.send request >>= next).run state) sent (some result) := .inside found ends

theorem orPanic {reason : String} {value : Option β} {b : β} {next : β → Code σ γ ρ ρ}
    (found : value = some b) (ends : Ends S env ((next b).run state) sent (some result)) :
    Ends S env ((Code.orPanic reason value >>= next).run state) sent (some result) := by
  rw [found]
  exact ends

theorem assoc {first : Code σ γ ρ β} {second : β → Code σ γ ρ α} {next : α → Code σ γ ρ ρ}
    (ends : Ends S env ((first >>= fun b => second b >>= next).run state) sent (some result)) :
    Ends S env (((first >>= second) >>= next).run state) sent (some result) := by
  simp only [Code.run_bind, Program.bind_assoc] at ends ⊢
  exact ends

theorem of_sendIn {request : γ} {body : Code σ γ ρ ρ} {next : ρ → Code σ γ ρ ρ}
    {result : Option (ρ × σ)} (found : S.code request = some body)
    (ends : Ends S env ((Code.send request >>= next).run state) sent result) :
    Ends S env ((body >>= next).run state) sent result := by
  cases ends with
  | inside found' ends =>
      rw [found, Option.some.injEq] at found'
      subst found'
      exact ends
  | answered missing => rw [missing] at found; contradiction
  | failed missing => rw [missing] at found; contradiction

end Code

theorem weaken {env' : γ → σ → Option (ρ × σ) → Prop} {program : Program σ γ ρ ρ} {sent : List γ}
    {result : Option (ρ × σ)} (ends : Ends S env program sent result)
    (implies : ∀ request state answer, env request state answer → env' request state answer) :
    Ends S env' program sent result := by
  induction ends with
  | done => exact .done
  | panic => exact .panic
  | inside found _ ih => exact .inside found ih
  | answered missing answer _ ih => exact .answered missing (implies _ _ _ answer) ih
  | failed missing answer => exact .failed missing (implies _ _ _ answer)

section Quiet
variable {answer : γ → Option ρ} {program : Program σ γ ρ ρ} {sent : List γ}
  {result : Option (ρ × σ)}

theorem quiet_some {request : γ} {state found : σ} {reply : ρ} :
    quiet answer request state (some (reply, found)) ↔ answer request = some reply ∧ found = state := by
  cases given : answer request with
  | none => simp [quiet, given]
  | some reply' =>
      simp only [quiet, given, Option.map_some, Option.some.injEq, Prod.mk.injEq]
      exact and_congr eq_comm Iff.rfl

theorem reverted (ends : Ends S (quiet answer) program sent result) {request : γ}
    (made : request ∈ sent) (fails : answer request = none) : result = none := by
  induction ends with
  | done => contradiction
  | panic => rfl
  | inside _ _ ih => exact ih made
  | answered _ given _ ih =>
      rcases List.mem_cons.mp made with rfl | made
      · rw [(quiet_some.mp given).1] at fails
        contradiction
      · exact ih made
  | failed => rfl

theorem follow (ends : Ends S (quiet answer) program sent result) {first : Config σ γ ρ}
    {saved : Snapshot σ γ ρ} {history : List (Crossing σ γ ρ)} {stack : List (Activation σ γ ρ)}
    (reaches : ∀ halted, Runs S program halted →
      S.Reaches first (settle saved history stack halted)) :
    ∃ history', S.Reaches first
      ⟨result.elim saved fun reached => ⟨reached.2, history'⟩, stack⟩ := by
  induction ends generalizing history with
  | done => exact ⟨history, reaches _ .done⟩
  | panic => exact ⟨history, reaches _ .panic⟩
  | inside found _ ih => exact ih fun halted runs => reaches halted (.inside found runs)
  | @answered request state resume reply found _ _ missing given _ ih =>
      have waiting := reaches _ (.outside missing)
      obtain ⟨_, rfl⟩ := quiet_some.mp given
      exact ih fun halted runs => waiting.step (.reply reply runs)
  | failed missing => exact ⟨history, (reaches _ (.outside missing)).step .fail⟩

end Quiet

theorem unique {answer : γ → Option ρ} {program : Program σ γ ρ ρ} {sent sent' : List γ}
    {result result' : Option (ρ × σ)} (ends : Ends S (quiet answer) program sent result)
    (ends' : Ends S (quiet answer) program sent' result') : sent = sent' ∧ result = result' := by
  induction ends generalizing sent' result' with
  | done =>
      cases ends'
      exact ⟨rfl, rfl⟩
  | panic =>
      cases ends'
      exact ⟨rfl, rfl⟩
  | inside found _ ih =>
      cases ends' with
      | inside found' rest =>
          cases found.symm.trans found'
          exact ih rest
      | answered missing => exact absurd (found.symm.trans missing) nofun
      | failed missing => exact absurd (found.symm.trans missing) nofun
  | answered missing given _ ih =>
      obtain ⟨replied, rfl⟩ := quiet_some.mp given
      cases ends' with
      | inside found => exact absurd (found.symm.trans missing) nofun
      | answered _ given' rest =>
          obtain ⟨replied', rfl⟩ := quiet_some.mp given'
          cases replied.symm.trans replied'
          obtain ⟨rfl, same⟩ := ih rest
          exact ⟨rfl, same⟩
      | failed _ given' =>
          rw [quiet, replied] at given'
          contradiction
  | failed missing given =>
      cases ends' with
      | inside found => exact absurd (found.symm.trans missing) nofun
      | answered _ given' =>
          rw [quiet, (quiet_some.mp given').1] at given
          contradiction
      | failed => exact ⟨rfl, rfl⟩

theorem reaches {answer : γ → Option ρ} {sent : List γ} {result : Option (ρ × σ)}
    {now : Snapshot σ γ ρ} {stack : List (Activation σ γ ρ)} {request : γ} {body : Code σ γ ρ ρ}
    (ends : Ends S (quiet answer) (body.run now.state) sent result)
    (enters : S.enters stack.length request now.state) (found : S.code request = some body) :
    ∃ config, S.Reaches ⟨now, stack⟩ config ∧ config.stack = stack ∧
      config.now.state = settled now.state result := by
  have first : ∀ halted, Runs S (body.run now.state) halted → S.Reaches ⟨now, stack⟩
      (settle now (now.history ++ [.received request now.state]) stack halted) :=
    fun halted runs => .step .refl (.enter enters found runs)
  obtain ⟨history, reached⟩ := ends.follow first
  refine ⟨_, reached, rfl, ?_⟩
  cases result with
  | none => rfl
  | some reached => rfl

end Ends

/-! ## Programs that do not look at the answers -/

/-- What the program does next depends on no reply, only on whether there is one. -/
inductive Heedless (S : System σ γ ρ) : Program σ γ ρ α → Prop where
  | done {value state} : Heedless S (.done value state)
  | panic {reason} : Heedless S (.panic reason)
  | call {request state resume} :
      (∀ body, S.code request = some body → ∃ reason, body.run state = .panic reason) →
      (∀ reply reply', resume reply = resume reply') →
      (∀ reply found, Heedless S (resume reply found)) → Heedless S (.call request state resume)

namespace Heedless
variable {state : σ}

theorem require {condition : Prop} [Decidable condition] {reason : String}
    {next : Unit → Code σ γ ρ α} (rest : Heedless S ((next ()).run state)) :
    Heedless S ((Code.require condition reason >>= next).run state) := by
  rw [Code.run_bind, Code.run_require]
  split
  · exact rest
  · exact .panic

theorem load {τ : Type} [Has τ σ] {next : τ → Code σ γ ρ α}
    (rest : Heedless S ((next (Has.get state)).run state)) :
    Heedless S ((Code.load τ >>= next).run state) := rest

theorem update {τ : Type} [Has τ σ] {f : τ → τ} {next : Unit → Code σ γ ρ α}
    (rest : Heedless S ((next ()).run (Has.set (f (Has.get state)) state))) :
    Heedless S ((Code.update f >>= next).run state) := rest

theorem orPanic {reason : String} {value : Option β} {next : β → Code σ γ ρ α}
    (rest : ∀ b, Heedless S ((next b).run state)) :
    Heedless S ((Code.orPanic reason value >>= next).run state) := by
  cases value with
  | none => exact .panic
  | some b => exact rest b

theorem send {request : γ} {next : ρ → Code σ γ ρ α}
    (served : ∀ body, S.code request = some body → ∃ reason, body.run state = .panic reason)
    (ignored : ∀ reply reply', next reply = next reply')
    (rest : ∀ reply found, Heedless S ((next reply).run found)) :
    Heedless S ((Code.send request >>= next).run state) := by
  apply Heedless.call served
  · intro reply reply'
    funext found
    exact congrArg (fun code => Code.run code found) (ignored reply reply')
  · exact rest

theorem bind {first : Code σ γ ρ β} {next : β → Code σ γ ρ α}
    (heedless : Heedless S (first.run state))
    (rest : ∀ b found, Heedless S ((next b).run found)) :
    Heedless S ((first >>= next).run state) := by
  rw [Code.run_bind]
  generalize first.run state = program at heedless
  induction heedless with
  | done => exact rest _ _
  | panic => exact .panic
  | call served ignored _ ih =>
      apply Heedless.call served
      · intro reply reply'
        funext found
        rw [ignored reply reply']
      · exact ih

end Heedless

theorem Ends.of_heedless {answer answer' : γ → Option ρ} {program : Program σ γ ρ ρ}
    {sent : List γ} {result : Option (ρ × σ)} (ends : Ends S (quiet answer) program sent result)
    (heedless : Heedless S program)
    (same : ∀ request, answer' request = none ↔ answer request = none) :
    Ends S (quiet answer') program sent result := by
  induction ends with
  | done => exact .done
  | panic => exact .panic
  | inside found ends =>
      cases heedless with
      | call served =>
          obtain ⟨reason, panics⟩ := served _ found
          apply Ends.inside found
          rw [panics] at ends ⊢
          cases ends
          exact .panic
  | @answered request _ resume reply state _ _ missing given _ ih =>
      obtain ⟨replied, rfl⟩ := quiet_some.mp given
      cases heedless with
      | call _ ignored rest =>
          cases replied' : answer' request with
          | none =>
              rw [same, replied] at replied'
              contradiction
          | some reply' =>
              apply Ends.answered missing (quiet_some.mpr ⟨replied', rfl⟩)
              rw [ignored reply' reply]
              exact ih (rest _ _)
  | @failed request _ _ missing given =>
      have unanswered : answer' request = none := by
        rw [same]
        exact Option.map_eq_none_iff.mp given.symm
      exact .failed missing (by rw [quiet, unanswered, Option.map_none])

/-! ## Computing outcomes -/

def System.endsFor (S : System σ γ ρ) (answer : γ → Option ρ) :
    Nat → Program σ γ ρ ρ → Option (List γ × Option (ρ × σ))
  | _, .done reply state => some ([], some (reply, state))
  | _, .panic _ => some ([], none)
  | 0, .call _ _ _ => none
  | fuel + 1, .call request state resume =>
      match S.code request with
      | some body => S.endsFor answer fuel ((body.run state).bind resume)
      | none =>
          match answer request with
          | some reply => (S.endsFor answer fuel (resume reply state)).map fun rest =>
              (request :: rest.1, rest.2)
          | none => some ([request], none)

theorem System.endsFor_sound (answer : γ → Option ρ) (fuel : Nat) {program : Program σ γ ρ ρ}
    {sent : List γ} {result : Option (ρ × σ)}
    (h : S.endsFor answer fuel program = some (sent, result)) :
    Ends S (quiet answer) program sent result := by
  induction fuel generalizing program sent with
  | zero =>
      cases program with
      | done | panic =>
          cases h
          constructor
      | call => contradiction
  | succ fuel ih =>
      cases program with
      | done | panic =>
          cases h
          constructor
      | call request state resume =>
          simp only [System.endsFor] at h
          cases code : S.code request with
          | some body =>
              rw [code] at h
              exact .inside code (ih h)
          | none =>
              rw [code] at h
              cases given : answer request with
              | none =>
                  simp only [given, Option.some.injEq, Prod.mk.injEq] at h
                  obtain ⟨rfl, rfl⟩ := h
                  exact .failed code (by simp [quiet, given])
              | some reply =>
                  simp only [given, Option.map_eq_some_iff, Prod.mk.injEq] at h
                  obtain ⟨⟨rest, last⟩, ends, rfl, rfl⟩ := h
                  exact .answered code (Ends.quiet_some.mpr ⟨given, rfl⟩) (ih ends)

theorem System.endsFor_anything (answer : γ → Option ρ) (fuel : Nat) {program : Program σ γ ρ ρ}
    {sent : List γ} {result : Option (ρ × σ)}
    (h : S.endsFor answer fuel program = some (sent, result)) : Ends S anything program sent result :=
  (System.endsFor_sound answer fuel h).weaken fun _ _ _ _ => trivial

end Kanaka.Machine
