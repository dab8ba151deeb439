import Kanaka.Machine.System

/-!
# Rely-guarantee reasoning about re-entrant systems

`Safe` follows the code of one call: the invariant `I` has to hold whenever control leaves the
system, and may be used again, together with the rely relation `R`, when it comes back. `Certified`
asks this of every entry point; its consequences hold for all configurations of all runs, at any
depth of re-entrancy.
-/

namespace Kanaka.Machine

variable {σ γ ρ α β τ : Type} {S : System σ γ ρ} {I : Snapshot σ γ ρ → Prop}
  {R G : σ → σ → Prop} {base : σ → Prop}

inductive Safe (S : System σ γ ρ) (I : Snapshot σ γ ρ → Prop) (R : σ → σ → Prop)
    (Q : α → Snapshot σ γ ρ → Prop) : Program σ γ ρ α → List (Crossing σ γ ρ) → Prop where
  | done {value state history} : Q value ⟨state, history⟩ → Safe S I R Q (.done value state) history
  | panic {reason history} : Safe S I R Q (.panic reason) history
  | outside {request state resume history} : S.code request = none →
      I ⟨state, history ++ [.sent request state]⟩ →
      (∀ reply now, I now → R state now.state →
        Safe S I R Q (resume reply now.state) now.history) →
      Safe S I R Q (.call request state resume) history
  | inside {request state resume body history} : S.code request = some body →
      Safe S I R Q ((body.run state).bind resume) history →
      Safe S I R Q (.call request state resume) history

theorem Safe.runs {Q : ρ → Snapshot σ γ ρ → Prop} {program result : Program σ γ ρ ρ}
    {history : List (Crossing σ γ ρ)} (safe : Safe S I R Q program history)
    (runs : Runs S program result) : Safe S I R Q result history := by
  induction runs with
  | done | panic | outside => exact safe
  | inside found _ ih =>
      cases safe with
      | outside missing => simp [found] at missing
      | inside found' safe =>
          rw [found, Option.some.injEq] at found'
          subst found'
          exact ih safe

/-! ## Rules for code -/

section Rules
variable {Q : α → Snapshot σ γ ρ → Prop} {state : σ} {history : List (Crossing σ γ ρ)}

theorem Safe.require {condition : Prop} [Decidable condition] {reason : String}
    {next : Unit → Code σ γ ρ α} (holds : condition → Safe S I R Q ((next ()).run state) history) :
    Safe S I R Q ((Code.require condition reason >>= next).run state) history := by
  simp only [Code.run_bind, Code.run_require]
  split
  · exact holds ‹_›
  · exact .panic

theorem Safe.load [Has τ σ] {next : τ → Code σ γ ρ α}
    (rest : Safe S I R Q ((next (Has.get state)).run state) history) :
    Safe S I R Q ((Code.load τ >>= next).run state) history := rest

theorem Safe.update [Has τ σ] {f : τ → τ} {next : Unit → Code σ γ ρ α}
    (rest : Safe S I R Q ((next ()).run (Has.set (f (Has.get state)) state)) history) :
    Safe S I R Q ((Code.update f >>= next).run state) history := rest

theorem Safe.orPanic {reason : String} {value : Option β} {next : β → Code σ γ ρ α}
    (rest : ∀ b, value = some b → Safe S I R Q ((next b).run state) history) :
    Safe S I R Q ((Code.orPanic reason value >>= next).run state) history := by
  cases value with
  | none => exact .panic
  | some b => exact rest b rfl

theorem Safe.send {request : γ} {Q : ρ → Snapshot σ γ ρ → Prop}
    (served : ∀ body, S.code request = some body → ∃ reason, body.run state = .panic reason)
    (leave : I ⟨state, history ++ [.sent request state]⟩)
    (back : ∀ reply now, I now → R state now.state → Q reply now) :
    Safe S I R Q ((Code.send request).run state) history := by
  cases found : S.code request with
  | none => exact .outside found leave fun reply now ok rely => .done (back reply now ok rely)
  | some body =>
      obtain ⟨reason, panics⟩ := served body found
      apply Safe.inside found
      rw [panics]
      exact .panic

theorem Safe.sendIn {request : γ} {body : Code σ γ ρ ρ} {Q : ρ → Snapshot σ γ ρ → Prop}
    (found : S.code request = some body) (rest : Safe S I R Q (body.run state) history) :
    Safe S I R Q ((Code.send request).run state) history := by
  apply Safe.inside found
  rw [Program.bind_done]
  exact rest

theorem Safe.assoc {first : Code σ γ ρ β} {δ : Type} {second : β → Code σ γ ρ δ}
    {next : δ → Code σ γ ρ α}
    (rest : Safe S I R Q ((first >>= fun b => second b >>= next).run state) history) :
    Safe S I R Q (((first >>= second) >>= next).run state) history := by
  simp only [Code.run_bind, Program.bind_assoc] at rest ⊢
  exact rest

theorem Safe.bind {first : Code σ γ ρ β} {next : β → Code σ γ ρ α}
    (safe : Safe S I R (fun b now => Safe S I R Q ((next b).run now.state) now.history)
      (first.run state) history) :
    Safe S I R Q ((first >>= next).run state) history := by
  rw [Code.run_bind]
  generalize first.run state = program at safe
  induction safe with
  | done post => exact post
  | panic => exact .panic
  | outside missing leave _ ih => exact .outside missing leave ih
  | inside found _ ih =>
      rw [Program.bind_assoc] at ih
      exact .inside found ih

theorem Safe.weaken {Q' : α → Snapshot σ γ ρ → Prop} {program : Program σ γ ρ α}
    (safe : Safe S I R Q program history)
    (implies : ∀ value now, Q value now → Q' value now) : Safe S I R Q' program history := by
  induction safe with
  | done post => exact .done (implies _ _ post)
  | panic => exact .panic
  | outside missing leave _ ih => exact .outside missing leave ih
  | inside found _ ih => exact .inside found ih

theorem Safe.restrict {T : System σ γ ρ} {program : Program σ γ ρ α}
    (safe : Safe S I R Q program history)
    (fewer : ∀ request, T.code request = S.code request ∨
      ∃ body, T.code request = some body ∧ ∀ s, ∃ reason, body.run s = .panic reason) :
    Safe T I R Q program history := by
  induction safe with
  | done post => exact .done post
  | panic => exact .panic
  | @outside request state _ _ missing leave _ ih =>
      obtain same | ⟨body, found, panics⟩ := fewer request
      · exact .outside (same.trans missing) leave ih
      · obtain ⟨reason, panic⟩ := panics state
        apply Safe.inside found
        rw [panic]
        exact .panic
  | @inside request state _ _ _ found _ ih =>
      obtain same | ⟨body, found, panics⟩ := fewer request
      · exact .inside (same.trans found) ih
      · obtain ⟨reason, panic⟩ := panics state
        apply Safe.inside found
        rw [panic]
        exact .panic

end Rules

/-! ## What the history remembers -/

/-- `P` holds now, and everything the history has seen is related by `H` to the storage now. -/
structure Kept {σ γ ρ : Type} (P : σ → Prop) (H : σ → σ → Prop) (now : Snapshot σ γ ρ) : Prop where
  here : P now.state
  past : ∀ crossing ∈ now.history, H crossing.state now.state

namespace Kept
variable {P : σ → Prop} {H : σ → σ → Prop} {now : Snapshot σ γ ρ}

theorem start {state : σ} (ok : P state) :
    Kept P H (Config.initial state : Config σ γ ρ).now :=
  ⟨ok, fun _ member => by simp [Config.initial] at member⟩

theorem cross [Std.Refl H] (kept : Kept P H now) (crossing : Crossing σ γ ρ)
    (same : crossing.state = now.state) : Kept P H ⟨now.state, now.history ++ [crossing]⟩ := by
  refine ⟨kept.here, ?_⟩
  intro other member
  rcases List.mem_append.mp member with member | member
  · exact kept.past other member
  · rw [List.mem_singleton.mp member, same]
    exact Std.Refl.refl _

theorem advance [IsTrans σ H] (kept : Kept P H now) {state : σ} (ok : P state)
    (related : H now.state state) : Kept P H ⟨state, now.history⟩ :=
  ⟨ok, fun crossing member => IsTrans.trans _ _ _ (kept.past crossing member) related⟩

end Kept

/-! ## Soundness -/

/-- Every entry point of the system keeps `I` and guarantees `G`, and what may happen while a call
waits is covered by `R`. -/
structure Certified (S : System σ γ ρ) (I : Snapshot σ γ ρ → Prop) (R G : σ → σ → Prop) : Prop where
  rely_refl : ∀ s, R s s
  rely_trans : ∀ {a b c}, R a b → R b c → R a c
  guarantee_trans : ∀ {a b c}, G a b → G b c → G a c
  resumed : ∀ {now} reply, I now → I ⟨now.state, now.history ++ [.resumed reply now.state]⟩
  enter : ∀ {depth request body now}, S.enters depth request now.state →
    S.code request = some body → I now →
    Safe S I R (fun _ next => I next ∧ G now.state next.state) (body.run now.state)
      (now.history ++ [.received request now.state])
  nested : ∀ {depth request s t}, S.enters (depth + 1) request s → G s t → R s t
  drift : ∀ {now state}, I now → S.drift now.state state →
    I ⟨state, now.history⟩ ∧ R now.state state ∧ G now.state state
  tick : ∀ {now state}, I now → S.tick now.state state →
    I ⟨state, now.history⟩ ∧ G now.state state

inductive Suspended (S : System σ γ ρ) (I : Snapshot σ γ ρ → Prop) (R G : σ → σ → Prop)
    (base : σ → Prop) : List (Activation σ γ ρ) → σ → Prop where
  | nil {state} : base state → Suspended S I R G base [] state
  | cons {activation stack left state} : I activation.saved → R left state →
      (∀ reply next, I next → R left next.state →
        Safe S I R (fun _ last => I last ∧ G activation.saved.state last.state)
          (activation.resume reply next.state) next.history) →
      (stack ≠ [] → ∀ last, G activation.saved.state last → R activation.saved.state last) →
      Suspended S I R G base stack activation.saved.state →
      Suspended S I R G base (activation :: stack) state

theorem Suspended.advance {stack : List (Activation σ γ ρ)} {state next : σ}
    (rely_trans : ∀ {a b c}, R a b → R b c → R a c)
    (suspended : Suspended S I R G base stack state)
    (waiting : stack ≠ [] → R state next) (idle : base state → base next) :
    Suspended S I R G base stack next := by
  cases suspended with
  | nil h => exact .nil (idle h)
  | cons saved rely resume nested rest =>
      exact .cons saved (rely_trans rely (waiting (by simp))) resume nested rest

theorem Safe.settled (certified : Certified S I R G) (closed : ∀ {a b}, base a → G a b → base b)
    {saved : Snapshot σ γ ρ} {history : List (Crossing σ γ ρ)} {stack : List (Activation σ γ ρ)}
    {result : Program σ γ ρ ρ} (savedOk : I saved)
    (suspended : Suspended S I R G base stack saved.state)
    (nested : stack ≠ [] → ∀ last, G saved.state last → R saved.state last)
    (safe : Safe S I R (fun _ last => I last ∧ G saved.state last.state) result history)
    (halted : result.Halted S) :
    I (settle saved history stack result).now ∧
      Suspended S I R G base (settle saved history stack result).stack
        (settle saved history stack result).now.state := by
  cases safe with
  | done post =>
      exact ⟨post.1, suspended.advance certified.rely_trans (fun h => nested h _ post.2)
        (fun h => closed h post.2)⟩
  | panic => exact ⟨savedOk, suspended⟩
  | outside missing leave back =>
      exact ⟨leave, .cons savedOk (certified.rely_refl _) back nested suspended⟩
  | inside found _ =>
      simp only [Program.Halted] at halted
      simp [halted] at found

theorem Certified.step (certified : Certified S I R G) (closed : ∀ {a b}, base a → G a b → base b)
    {config next : Config σ γ ρ} (step : Step S config next) (ok : I config.now)
    (suspended : Suspended S I R G base config.stack config.now.state) :
    I next.now ∧ Suspended S I R G base next.stack next.now.state := by
  cases step with
  | @enter now stack request body result enters found runs =>
      refine Safe.settled certified closed ok suspended ?_
        ((certified.enter enters found ok).runs runs) runs.halted
      intro waiting last guarantee
      cases stack with
      | nil => contradiction
      | cons => exact certified.nested enters guarantee
  | reply reply runs =>
      cases suspended with
      | cons saved rely resume nested rest =>
          exact Safe.settled certified closed saved rest nested
            ((resume reply _ (certified.resumed reply ok) rely).runs runs) runs.halted
  | fail =>
      cases suspended with
      | cons saved _ _ _ rest => exact ⟨saved, rest⟩
  | drift moves =>
      obtain ⟨okAfter, rely, guarantee⟩ := certified.drift ok moves
      exact ⟨okAfter, suspended.advance certified.rely_trans (fun _ => rely)
        (fun h => closed h guarantee)⟩
  | tick moves =>
      obtain ⟨okAfter, guarantee⟩ := certified.tick ok moves
      exact ⟨okAfter, suspended.advance certified.rely_trans (by simp) (fun h => closed h guarantee)⟩

theorem Certified.run (certified : Certified S I R G) (base : σ → Prop)
    (closed : ∀ {a b}, base a → G a b → base b) {first config : Config σ γ ρ}
    (idle : first.stack = []) (ok : I first.now) (start : base first.now.state)
    (reaches : S.Reaches first config) :
    I config.now ∧ Suspended S I R G base config.stack config.now.state := by
  induction reaches with
  | refl => exact ⟨ok, idle ▸ .nil start⟩
  | tail _ step ih => exact certified.step closed step ih.1 ih.2

/-- The invariant holds whenever the environment has control, however deep the re-entrancy. -/
theorem Certified.invariant (certified : Certified S I R G) {first config : Config σ γ ρ}
    (idle : first.stack = []) (ok : I first.now) (reaches : S.Reaches first config) :
    I config.now :=
  (certified.run (fun _ => True) (fun _ _ => trivial) idle ok trivial reaches).1

theorem Certified.guarantee (certified : Certified S I R G) {first config : Config σ γ ρ}
    (idle : first.stack = []) (ok : I first.now) (refl : G first.now.state first.now.state)
    (reaches : S.Reaches first config) (idleAfter : config.stack = []) :
    G first.now.state config.now.state := by
  have suspended := (certified.run (G first.now.state) certified.guarantee_trans idle ok refl
    reaches).2
  rw [idleAfter] at suspended
  cases suspended with
  | nil h => exact h

section Always
variable {P : σ → Prop}

theorem Kept.settle (base : σ → Prop) (closed : ∀ {a b}, base a → G a b → base b)
    {saved : Snapshot σ γ ρ} {history : List (Crossing σ γ ρ)} {stack : List (Activation σ γ ρ)}
    {result : Program σ γ ρ ρ} (kept : Kept P G (settle saved history stack result).now)
    (crossing : Crossing σ γ ρ) (member : crossing ∈ history) (start : base crossing.state)
    (savedOk : base saved.state) (waiting : ∀ activation ∈ stack, base activation.saved.state) :
    base (settle saved history stack result).now.state ∧
      ∀ activation ∈ (settle saved history stack result).stack, base activation.saved.state := by
  cases result with
  | done reply state => exact ⟨closed start (kept.past crossing member), waiting⟩
  | panic reason => exact ⟨savedOk, waiting⟩
  | call request state resume =>
      refine ⟨closed start (kept.past crossing (List.mem_append_left _ member)), ?_⟩
      intro activation found
      rcases List.mem_cons.mp found with rfl | found
      · exact savedOk
      · exact waiting activation found

/-- From a moment at which no call is waiting, `G` leads to whatever the run reaches, also to the
states in the middle of a call. -/
theorem Certified.always [IsPreorder σ G] (certified : Certified S (Kept P G) R G)
    {first config : Config σ γ ρ} (idle : first.stack = []) (ok : Kept P G first.now)
    (reaches : S.Reaches first config) : G first.now.state config.now.state := by
  have closed : ∀ {a b}, G first.now.state a → G a b → G first.now.state b :=
    fun before after => IsTrans.trans _ _ _ before after
  suffices follows : G first.now.state config.now.state ∧
      ∀ activation ∈ config.stack, G first.now.state activation.saved.state from follows.1
  induction reaches with
  | refl => exact ⟨Std.Refl.refl _, by simp [idle]⟩
  | tail before step ih =>
      have kept := certified.invariant idle ok (System.Reaches.step before step)
      obtain ⟨here, waiting⟩ := ih
      cases step with
      | @enter now stack request =>
          exact kept.settle (G first.now.state) closed (.received request now.state)
            (List.mem_append_right _ List.mem_cons_self) here here waiting
      | @reply now activation stack result reply =>
          exact kept.settle (G first.now.state) closed (.resumed reply now.state)
            (List.mem_append_right _ List.mem_cons_self) here
            (waiting activation List.mem_cons_self)
            fun other member => waiting other (List.mem_cons_of_mem _ member)
      | @fail now activation stack =>
          exact ⟨waiting activation List.mem_cons_self,
            fun other member => waiting other (List.mem_cons_of_mem _ member)⟩
      | drift moves =>
          have ok := certified.invariant idle ok before
          exact ⟨closed here (certified.drift ok moves).2.2, waiting⟩
      | tick moves =>
          have ok := certified.invariant idle ok before
          exact ⟨closed here (certified.tick ok moves).2, waiting⟩

end Always

end Kanaka.Machine
