import Kanaka.Machine.System
import Kanaka.Machine.Views

/-!
# Parts of a system

Some contracts of a system are a system of their own: the other contracts belong to its environment.
What the part goes through in a run of the whole, it can go through in a run of its own.
-/

namespace Kanaka.Machine

variable {σ τ γ ρ : Type} {S : System σ γ ρ} {T : System τ γ ρ} {view : σ → τ}

/-- What the other contracts may send: the part takes such requests at any time. -/
def Welcome (T : System τ γ ρ) (request : γ) : Prop :=
  T.code request ≠ none → ∀ depth state, T.enters depth request state

/-- The rest of the system leaves the part as it is. -/
def Aside (view : σ → τ) (before after : σ) : Prop := view after = view before

instance : IsPreorder σ (Aside view) where
  refl _ := rfl
  trans _ _ _ first second := second.trans first

instance isPreorder_true : IsPreorder σ fun _ _ => True where
  refl _ := trivial
  trans _ _ _ _ _ := trivial

structure Part (S : System σ γ ρ) (T : System τ γ ρ) (view : σ → τ) : Prop where
  inside : ∀ {request body'}, T.code request = some body' → ∃ body, S.code request = some body ∧
    body.Seen view (fun _ _ => True) (fun _ => True) body'
  beside : ∀ {request body}, T.code request = none → S.code request = some body →
    body.Seen id (Aside view) (Welcome T) body
  enters : ∀ {depth request state}, S.enters depth request state → T.code request ≠ none →
    ∀ depth', T.enters depth' request (view state)
  drift : ∀ {before after}, S.drift before after →
    Aside view before after ∨ T.drift (view before) (view after)
  tick : ∀ {before after}, S.tick before after →
    Aside view before after ∨ T.tick (view before) (view after)

/-- Who runs: the part, which goes on as a program of its own, or the contracts beside it, which
find and leave it in a state. -/
inductive Turn (τ γ ρ : Type) where
  | part (program : Program τ γ ρ ρ)
  | beside (state : τ)

/-- How a program of the whole is made of programs of the part, whose calls wait on the stack above
`base`, and of programs beside the part. -/
inductive Woven (T : System τ γ ρ) (view : σ → τ) (base : List (Activation τ γ ρ)) :
    Program σ γ ρ ρ → Turn τ γ ρ → List (Activation τ γ ρ) → Prop where
  | part {start : σ} {program : Program σ γ ρ ρ} {program' : Program τ γ ρ ρ} :
      program.Seen view (fun _ _ => True) (fun _ => True) start program' →
      Woven T view base program (.part program') base
  | beside {start : σ} {program : Program σ γ ρ ρ} :
      program.Seen id (Aside view) (Welcome T) start program →
      Woven T view base program (.beside (view start)) base
  /-- The part calls within itself. -/
  | within {start : σ} {program : Program σ γ ρ ρ} {program' : Program τ γ ρ ρ}
      {next : ρ → σ → Program σ γ ρ ρ} {next' : ρ → τ → Program τ γ ρ ρ}
      {stack : List (Activation τ γ ρ)} :
      program.Seen view (fun _ _ => True) (fun _ => True) start program' →
      (∀ reply state, Woven T view base (next reply state) (.part (next' reply (view state))) stack) →
      Woven T view base (program.bind next) (.part (program'.bind next')) stack
  /-- The contracts beside the part call each other. -/
  | among {start : σ} {program : Program σ γ ρ ρ} {next : ρ → σ → Program σ γ ρ ρ}
      {stack : List (Activation τ γ ρ)} :
      program.Seen id (Aside view) (Welcome T) start program →
      (∀ reply state, Woven T view base (next reply state) (.beside (view state)) stack) →
      Woven T view base (program.bind next) (.beside (view start)) stack
  /-- A contract beside the part calls it. -/
  | called {start : σ} {program : Program σ γ ρ ρ} {program' : Program τ γ ρ ρ}
      {next : ρ → σ → Program σ γ ρ ρ} {stack : List (Activation τ γ ρ)} :
      program.Seen view (fun _ _ => True) (fun _ => True) start program' →
      (∀ reply state, Woven T view base (next reply state) (.beside (view state)) stack) →
      Woven T view base (program.bind next) (.part program') stack
  /-- The part calls a contract beside it. -/
  | calls {start : σ} {program : Program σ γ ρ ρ} {next : ρ → σ → Program σ γ ρ ρ}
      {activation : Activation τ γ ρ} {stack : List (Activation τ γ ρ)} :
      program.Seen id (Aside view) (Welcome T) start program →
      (∀ reply state, Woven T view base (next reply state)
        (.part (activation.resume reply (view state))) stack) →
      Woven T view base (program.bind next) (.beside (view start)) (activation :: stack)

section Runs
variable {first : Config τ γ ρ}

/-- The part can get to where it is its turn, or the turn of the others. -/
def Ready (T : System τ γ ρ) (first : Config τ γ ρ) : Turn τ γ ρ → List (Activation τ γ ρ) → Prop
  | .beside state, stack => ∃ history, T.Reaches first ⟨⟨state, history⟩, stack⟩
  | .part program, stack => ∃ saved history, ∀ result, Runs T program result →
      T.Reaches first (settle saved history stack result)

theorem Ready.resume {state : τ} {activation : Activation τ γ ρ} {stack : List (Activation τ γ ρ)}
    (ready : Ready T first (.beside state) (activation :: stack)) (reply : ρ) :
    Ready T first (.part (activation.resume reply state)) stack := by
  obtain ⟨history, reaches⟩ := ready
  exact ⟨_, _, fun result runs => reaches.step (.reply reply runs)⟩

theorem Ready.enter {request : γ} {body : Code τ γ ρ ρ} {state : τ}
    {stack : List (Activation τ γ ρ)} (ready : Ready T first (.beside state) stack)
    (found : T.code request = some body) (enters : ∀ depth, T.enters depth request state) :
    Ready T first (.part (body.run state)) stack := by
  obtain ⟨history, reaches⟩ := ready
  exact ⟨_, _, fun result runs => reaches.step (.enter (enters _) found runs)⟩

theorem Ready.inside {request : γ} {state : τ} {resume : ρ → τ → Program τ γ ρ ρ}
    {body : Code τ γ ρ ρ} {stack : List (Activation τ γ ρ)}
    (ready : Ready T first (.part (.call request state resume)) stack)
    (found : T.code request = some body) :
    Ready T first (.part ((body.run state).bind resume)) stack := by
  obtain ⟨saved, history, reaches⟩ := ready
  exact ⟨saved, history, fun result runs => reaches result (.inside found runs)⟩

theorem Ready.send {request : γ} {state : τ} {resume : ρ → τ → Program τ γ ρ ρ}
    {stack : List (Activation τ γ ρ)}
    (ready : Ready T first (.part (.call request state resume)) stack)
    (missing : T.code request = none) :
    ∃ saved, Ready T first (.beside state) (⟨saved, resume⟩ :: stack) := by
  obtain ⟨saved, history, reaches⟩ := ready
  exact ⟨saved, _, reaches _ (.outside missing)⟩

/-- The next call of a program, by the part or by a contract beside it. -/
inductive Calls (T : System τ γ ρ) (view : σ → τ) (base : List (Activation τ γ ρ))
    (first : Config τ γ ρ) (request : γ) (state : σ) (resume : ρ → σ → Program σ γ ρ ρ) : Prop where
  | part {resume' stack} : Ready T first (.part (.call request (view state) resume')) stack →
      (∀ reply state', Woven T view base (resume reply state')
        (.part (resume' reply (view state'))) stack) → Calls T view base first request state resume
  | beside {stack} : Ready T first (.beside (view state)) stack → Welcome T request →
      (∀ reply state', Woven T view base (resume reply state') (.beside (view state')) stack) →
      Calls T view base first request state resume

/-- What is known of a program at its head. -/
def Headed (T : System τ γ ρ) (view : σ → τ) (base : List (Activation τ γ ρ))
    (first : Config τ γ ρ) : Program σ γ ρ ρ → Prop
  | .done _ state => Ready T first (.beside (view state)) base
  | .panic _ => True
  | .call request state resume => Calls T view base first request state resume

theorem Ready.aside {before after : σ} {stack : List (Activation τ γ ρ)}
    (ready : Ready T first (.beside (view before)) stack) (aside : Aside view before after) :
    Ready T first (.beside (view after)) stack := by
  unfold Aside at aside
  rwa [aside]

theorem Ready.done {reply : ρ} {state : τ} {stack : List (Activation τ γ ρ)}
    (ready : Ready T first (.part (.done reply state)) stack) :
    Ready T first (.beside state) stack := by
  obtain ⟨saved, history, reaches⟩ := ready
  exact ⟨history, reaches _ .done⟩

theorem Woven.headed {base stack : List (Activation τ γ ρ)} {program : Program σ γ ρ ρ}
    {turn : Turn τ γ ρ} (woven : Woven T view base program turn stack)
    (ready : Ready T first turn stack) : Headed T view base first program := by
  induction woven with
  | part seen =>
      cases seen with
      | done _ => exact ready.done
      | panic => trivial
      | call _ _ resume => exact .part ready fun reply state' => .part (resume reply state')
  | beside seen =>
      cases seen with
      | done aside => exact ready.aside aside
      | panic => trivial
      | call welcome aside resume =>
          exact .beside (ready.aside aside) welcome fun reply state' => .beside (resume reply state')
  | within seen rest ih =>
      cases seen with
      | done _ => exact ih _ _ ready
      | panic => trivial
      | call _ _ resume => exact .part ready fun reply state' => .within (resume reply state') rest
  | among seen rest ih =>
      cases seen with
      | done aside => exact ih _ _ (ready.aside aside)
      | panic => trivial
      | call welcome aside resume =>
          exact .beside (ready.aside aside) welcome fun reply state' => .among (resume reply state') rest
  | called seen rest ih =>
      cases seen with
      | done _ => exact ih _ _ ready.done
      | panic => trivial
      | call _ _ resume => exact .part ready fun reply state' => .called (resume reply state') rest
  | calls seen rest ih =>
      cases seen with
      | done aside => exact ih _ _ ((ready.aside aside).resume _)
      | panic => trivial
      | call welcome aside resume =>
          exact .beside (ready.aside aside) welcome fun reply state' => .calls (resume reply state') rest

/-- The whole waits for a reply: the one whose call it is goes on. -/
def Waits (T : System τ γ ρ) (view : σ → τ) (base : List (Activation τ γ ρ))
    (resume : ρ → σ → Program σ γ ρ ρ) (stack : List (Activation τ γ ρ)) : Prop :=
  (∀ reply state, Woven T view base (resume reply state) (.beside (view state)) stack) ∨
  ∃ activation rest, stack = activation :: rest ∧ ∀ reply state,
    Woven T view base (resume reply state) (.part (activation.resume reply (view state))) rest

/-- What the part comes to with a result of the whole. -/
def Followed (T : System τ γ ρ) (view : σ → τ) (base : List (Activation τ γ ρ))
    (first : Config τ γ ρ) : Program σ γ ρ ρ → Prop
  | .done _ state => Ready T first (.beside (view state)) base
  | .panic _ => True
  | .call _ state resume =>
      ∃ stack, Ready T first (.beside (view state)) stack ∧ Waits T view base resume stack

namespace Part
variable (part : Part S T view)
include part

theorem missing {request : γ} (missing : S.code request = none) : T.code request = none := by
  cases found : T.code request with
  | none => rfl
  | some body' =>
      obtain ⟨body, found, -⟩ := part.inside found
      simp [missing] at found

theorem served {request : γ} {body : Code σ γ ρ ρ} {body' : Code τ γ ρ ρ}
    (found' : T.code request = some body') (found : S.code request = some body) :
    body.Seen view (fun _ _ => True) (fun _ => True) body' := by
  obtain ⟨body₁, found₁, seen⟩ := part.inside found'
  cases found.symm.trans found₁
  exact seen

theorem follow {base stack : List (Activation τ γ ρ)} {program result : Program σ γ ρ ρ}
    {turn : Turn τ γ ρ} (runs : Runs S program result) (woven : Woven T view base program turn stack)
    (ready : Ready T first turn stack) : Followed T view base first result := by
  induction runs generalizing turn stack with
  | done => exact woven.headed ready
  | panic => trivial
  | outside missing =>
      cases woven.headed ready with
      | part ready rest =>
          obtain ⟨saved, ready⟩ := ready.send (part.missing missing)
          exact ⟨_, ready, .inr ⟨_, _, rfl, rest⟩⟩
      | beside ready _ rest => exact ⟨_, ready, .inl rest⟩
  | @inside request state _ body _ found _ ih =>
      cases woven.headed ready with
      | part ready rest =>
          cases mine : T.code request with
          | some body' => exact ih (.within (part.served mine found state) rest) (ready.inside mine)
          | none =>
              obtain ⟨saved, ready⟩ := ready.send mine
              exact ih (.calls (part.beside mine found state) rest) ready
      | beside ready welcome rest =>
          cases mine : T.code request with
          | some body' =>
              have enters := fun depth => welcome (by simp [mine]) depth (view state)
              exact ih (.called (part.served mine found state) rest) (ready.enter mine enters)
          | none => exact ih (.among (part.beside mine found state) rest) ready

end Part

/-- What waits in the whole and what waits in the part. -/
inductive Stacks (T : System τ γ ρ) (view : σ → τ) (first : Config τ γ ρ) :
    List (Activation σ γ ρ) → List (Activation τ γ ρ) → Prop where
  | nil : Stacks T view first [] []
  | cons {activation rest base stack} : Stacks T view first rest base →
      Ready T first (.beside (view activation.saved.state)) base →
      Waits T view base activation.resume stack → Stacks T view first (activation :: rest) stack

/-- The part can come to what it is in a configuration of the whole. -/
def Followable (T : System τ γ ρ) (view : σ → τ) (first : Config τ γ ρ) (config : Config σ γ ρ) :
    Prop :=
  ∃ stack, Stacks T view first config.stack stack ∧
    Ready T first (.beside (view config.now.state)) stack

theorem Followed.settle {base : List (Activation τ γ ρ)} {saved : Snapshot σ γ ρ}
    {history : List (Crossing σ γ ρ)} {stack : List (Activation σ γ ρ)} {result : Program σ γ ρ ρ}
    (paired : Stacks T view first stack base) (ready : Ready T first (.beside (view saved.state)) base)
    (followed : Followed T view base first result) :
    Followable T view first (settle saved history stack result) := by
  cases result with
  | done => exact ⟨base, paired, followed⟩
  | panic => exact ⟨base, paired, ready⟩
  | call request state resume =>
      obtain ⟨stack', ready', waits⟩ := followed
      exact ⟨stack', .cons paired ready waits, ready'⟩

namespace Part
variable (part : Part S T view)
include part

theorem step {config next : Config σ γ ρ} (followable : Followable T view first config)
    (step : Step S config next) : Followable T view first next := by
  obtain ⟨base, paired, ready⟩ := followable
  cases step with
  | @enter now stack request body result enters found runs =>
      refine Followed.settle paired ready ?_
      cases mine : T.code request with
      | some body' =>
          exact part.follow runs (.part (part.served mine found now.state))
            (ready.enter mine (part.enters enters (by simp [mine])))
      | none => exact part.follow runs (.beside (part.beside mine found now.state)) ready
  | reply reply runs =>
      cases paired with
      | cons paired saved waits =>
          refine Followed.settle paired saved ?_
          obtain woven | ⟨activation, rest, rfl, woven⟩ := waits
          · exact part.follow runs (woven reply _) ready
          · exact part.follow runs (woven reply _) (ready.resume reply)
  | fail =>
      cases paired with
      | cons paired saved _ => exact ⟨_, paired, saved⟩
  | drift drifts =>
      obtain aside | drifts := part.drift drifts
      · exact ⟨base, paired, ready.aside aside⟩
      · obtain ⟨history, reaches⟩ := ready
        exact ⟨base, paired, history, reaches.step (.drift drifts)⟩
  | tick ticks =>
      cases paired
      obtain aside | ticks := part.tick ticks
      · exact ⟨[], .nil, ready.aside aside⟩
      · obtain ⟨history, reaches⟩ := ready
        exact ⟨[], .nil, history, reaches.step (.tick ticks)⟩

omit first in
/-- What the part goes through in a run of the whole, it can go through in a run of its own. -/
theorem follows {now : Snapshot σ γ ρ} {config : Config σ γ ρ} (run : S.Reaches ⟨now, []⟩ config) :
    ∃ seen, T.Reaches (.initial (view now.state)) seen ∧ seen.now.state = view config.now.state ∧
      (config.stack = [] → seen.stack = []) := by
  have followable : Followable T view (.initial (view now.state)) config := by
    induction run with
    | refl => exact ⟨[], .nil, [], .refl⟩
    | tail _ last ih => exact part.step ih last
  obtain ⟨stack, paired, history, reaches⟩ := followable
  refine ⟨_, reaches, rfl, fun settled => ?_⟩
  rw [settled] at paired
  cases paired
  rfl

end Part

end Runs

end Kanaka.Machine
