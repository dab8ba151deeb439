import Kanaka.Machine.Program
import Mathlib.Logic.Relation

/-!
# Systems of contracts and their runs

A system is some contracts in the middle of an arbitrary environment. Control is with the
environment in every configuration: it may call any entry point of the system, also while calls of
the system to the environment are waiting for their reply (re-entrancy), answer the innermost of
them, or let it fail. A call that panics leaves nothing behind.
-/

namespace Kanaka.Machine

structure System (σ γ ρ : Type) where
  /-- The code that a request reaches, `none` when its target is outside the system. -/
  code : γ → Option (Code σ γ ρ ρ)
  /-- The requests the environment can make, given the number of calls waiting for a reply. -/
  enters : Nat → γ → σ → Prop
  /-- What the environment can change whenever it has control. -/
  drift : σ → σ → Prop
  /-- What can change between two transactions only. -/
  tick : σ → σ → Prop

inductive Crossing (σ γ ρ : Type) where
  | received (request : γ) (state : σ)
  | sent (request : γ) (state : σ)
  | resumed (reply : ρ) (state : σ)

variable {σ γ ρ : Type}

def Crossing.state : Crossing σ γ ρ → σ
  | .received _ state | .sent _ state | .resumed _ state => state

/-- The storage and the crossings of the calls that have not been reverted, oldest first. -/
structure Snapshot (σ γ ρ : Type) where
  state : σ
  history : List (Crossing σ γ ρ)

structure Activation (σ γ ρ : Type) where
  saved : Snapshot σ γ ρ
  resume : ρ → σ → Program σ γ ρ ρ

structure Config (σ γ ρ : Type) where
  now : Snapshot σ γ ρ
  stack : List (Activation σ γ ρ)

def Config.initial (state : σ) : Config σ γ ρ := ⟨⟨state, []⟩, []⟩

/-- Run a program until it ends, panics or sends a request out of the system. Requests between
contracts of the system run the code they reach. -/
inductive Runs (S : System σ γ ρ) : Program σ γ ρ ρ → Program σ γ ρ ρ → Prop where
  | done {reply state} : Runs S (.done reply state) (.done reply state)
  | panic {reason} : Runs S (.panic reason) (.panic reason)
  | outside {request state resume} : S.code request = none →
      Runs S (.call request state resume) (.call request state resume)
  | inside {request state resume body result} : S.code request = some body →
      Runs S ((body.run state).bind resume) result → Runs S (.call request state resume) result

def Program.Halted (S : System σ γ ρ) : Program σ γ ρ ρ → Prop
  | .done _ _ | .panic _ => True
  | .call request _ _ => S.code request = none

theorem Runs.halted {S : System σ γ ρ} {program result : Program σ γ ρ ρ}
    (runs : Runs S program result) : result.Halted S := by
  induction runs with
  | done | panic => trivial
  | outside missing => exact missing
  | inside _ _ ih => exact ih

def settle (saved : Snapshot σ γ ρ) (history : List (Crossing σ γ ρ))
    (stack : List (Activation σ γ ρ)) : Program σ γ ρ ρ → Config σ γ ρ
  | .done _ state => ⟨⟨state, history⟩, stack⟩
  | .panic _ => ⟨saved, stack⟩
  | .call request state resume =>
      ⟨⟨state, history ++ [.sent request state]⟩, ⟨saved, resume⟩ :: stack⟩

inductive Step (S : System σ γ ρ) : Config σ γ ρ → Config σ γ ρ → Prop where
  | enter {now stack request body result} : S.enters stack.length request now.state →
      S.code request = some body → Runs S (body.run now.state) result →
      Step S ⟨now, stack⟩
        (settle now (now.history ++ [.received request now.state]) stack result)
  | reply {now activation stack result} (reply : ρ) :
      Runs S (activation.resume reply now.state) result →
      Step S ⟨now, activation :: stack⟩
        (settle activation.saved (now.history ++ [.resumed reply now.state]) stack result)
  | fail {now activation stack} : Step S ⟨now, activation :: stack⟩ ⟨activation.saved, stack⟩
  | drift {now stack state} : S.drift now.state state →
      Step S ⟨now, stack⟩ ⟨⟨state, now.history⟩, stack⟩
  | tick {now state} : S.tick now.state state → Step S ⟨now, []⟩ ⟨⟨state, now.history⟩, []⟩

def System.Reaches (S : System σ γ ρ) : Config σ γ ρ → Config σ γ ρ → Prop :=
  Relation.ReflTransGen (Step S)

theorem System.Reaches.step {S : System σ γ ρ} {first config next : Config σ γ ρ}
    (reaches : S.Reaches first config) (step : Step S config next) : S.Reaches first next :=
  reaches.tail step

/-- A run stays a run when the environment may do more. -/
structure System.Below (S T : System σ γ ρ) : Prop where
  code : S.code = T.code
  enters : ∀ {depth request state}, S.enters depth request state → T.enters depth request state
  drift : ∀ {before after}, S.drift before after → T.drift before after
  tick : ∀ {before after}, S.tick before after → T.tick before after

section Below
variable {S T : System σ γ ρ} (below : S.Below T)
include below

theorem System.Below.runs {program result : Program σ γ ρ ρ} (runs : Runs S program result) :
    Runs T program result := by
  induction runs with
  | done => exact .done
  | panic => exact .panic
  | outside missing => exact .outside (below.code ▸ missing)
  | inside found _ ih => exact .inside (below.code ▸ found) ih

theorem System.Below.step {config next : Config σ γ ρ} (step : Step S config next) :
    Step T config next := by
  cases step with
  | enter enters found runs =>
      exact .enter (below.enters enters) (below.code ▸ found) (below.runs runs)
  | reply reply runs => exact .reply reply (below.runs runs)
  | fail => exact .fail
  | drift moves => exact .drift (below.drift moves)
  | tick moves => exact .tick (below.tick moves)

theorem System.Below.reaches {first config : Config σ γ ρ} (reaches : S.Reaches first config) :
    T.Reaches first config := by
  induction reaches with
  | refl => exact .refl
  | tail _ step ih => exact System.Reaches.step ih (below.step step)

end Below

end Kanaka.Machine
