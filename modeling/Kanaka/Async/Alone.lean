import Kanaka.Async.Pool

/-!
# Calls one after the other

A call that runs with no other call and no failure is a sequential program, but for what the world
does before each of its operations.
-/

namespace Kanaka.Async

variable {Call Op : Type} {Reply : Op → Type} {ε α β γ σ : Type}

def Task.result : Task Op Reply ε α → Option (Except ε α)
  | .done value => some (.ok value)
  | .fail error => some (.error error)
  | .await _ _ => none

namespace Service
variable (S : Service Call Op Reply ε α σ) (clear : Op → σ → Prop)

/-- The task ends in `Q` if it runs alone and each operation is clear where it takes place. -/
def Ensures (Q : Except ε β → σ → Prop) : Task Op Reply ε β → σ → Prop
  | .done value, state => Q (.ok value) state
  | .fail error, state => Q (.error error) state
  | .await op resume, state => ∀ after, S.drift state after → clear op after →
      Ensures Q (resume (.ok (S.perform op after).1)) (S.perform op after).2

/-- Holds on, whatever the world does. -/
def Stable (P : σ → Prop) : Prop := ∀ {before after}, S.drift before after → P before → P after

structure Alone (pool : Pool Call Op Reply ε α σ) (action : Action Call Op Reply ε σ) : Prop where
  start : ∀ {call}, action = .start call → ∀ running ∈ pool.tasks, running.rest.Finished
  serve : ∀ {task event}, action = .serve task event → ∃ reply, event.answer = .ok reply
  clear : ∀ {task event}, action = .serve task event → clear event.op pool.state

variable {S clear} {state after : σ}

namespace Ensures
variable {Q : Except ε β → σ → Prop}

theorem bind {first : Task Op Reply ε β} {next : β → Task Op Reply ε γ} {Q : Except ε γ → σ → Prop}
    (ensures : S.Ensures clear (fun
      | .ok value, state => S.Ensures clear Q (next value) state
      | .error error, state => Q (.error error) state) first state) :
    S.Ensures clear Q (first >>= next) state := by
  induction first generalizing state with
  | done value => exact ensures
  | fail error => exact ensures
  | await op resume ih => exact fun after drifted passed => ih _ (ensures after drifted passed)

theorem tryCatch {first : Task Op Reply ε β} {handler : ε → Task Op Reply ε β}
    (ensures : S.Ensures clear (fun
      | .ok value, state => Q (.ok value) state
      | .error error, state => S.Ensures clear Q (handler error) state) first state) :
    S.Ensures clear Q (first.tryCatch handler) state := by
  induction first generalizing state with
  | done value => exact ensures
  | fail error => exact ensures
  | await op resume ih => exact fun after drifted passed => ih _ (ensures after drifted passed)

theorem weaken {Q' : Except ε β → σ → Prop} {task : Task Op Reply ε β}
    (ensures : S.Ensures clear Q task state) (weaker : ∀ result state, Q result state → Q' result state) :
    S.Ensures clear Q' task state := by
  induction task generalizing state with
  | done value => exact weaker _ _ ensures
  | fail error => exact weaker _ _ ensures
  | await op resume ih => exact fun after drifted passed => ih _ (ensures after drifted passed)

theorem perform {op : Op} {next : Reply op → Task Op Reply ε β}
    (ensures : ∀ after, S.drift state after → clear op after →
      S.Ensures clear Q (next (S.perform op after).1) (S.perform op after).2) :
    S.Ensures clear Q (Task.perform op >>= next) state := ensures

theorem throwIf {condition : Prop} [Decidable condition] {error : ε} {next : Unit → Task Op Reply ε β}
    (thrown : condition → Q (.error error) state)
    (rest : ¬ condition → S.Ensures clear Q (next ()) state) :
    S.Ensures clear Q (Task.throwIf condition error >>= next) state := by
  unfold Task.throwIf
  split
  · exact thrown ‹_›
  · exact rest ‹_›

theorem drift (trans : ∀ {a b c}, S.drift a b → S.drift b c → S.drift a c)
    (stable : ∀ result, S.Stable (Q result)) {task : Task Op Reply ε β}
    (ensures : S.Ensures clear Q task state) (drifted : S.drift state after) :
    S.Ensures clear Q task after := by
  cases task with
  | done value => exact stable _ drifted ensures
  | fail error => exact stable _ drifted ensures
  | await op resume =>
      exact fun later drifted' passed => ensures later (trans drifted drifted') passed

end Ensures

/-- The last call may still run, the others have ended. -/
def Turn (I : σ → Prop) (R : Call → Except ε α → σ → Prop) (clear : Op → σ → Prop)
    (S : Service Call Op Reply ε α σ) (pool : Pool Call Op Reply ε α σ) : Prop :=
  pool.tasks = [] ∧ I pool.state ∨
  ∃ earlier last, pool.tasks = earlier ++ [last] ∧ (∀ running ∈ earlier, running.rest.Finished) ∧
    S.Ensures clear (fun result state => I state ∧ R last.call result state) last.rest pool.state

section Runs
variable {I : σ → Prop} {R : Call → Except ε α → σ → Prop} {first pool next : Pool Call Op Reply ε α σ}
  {action : Action Call Op Reply ε σ}

theorem Turn.invariant (turn : Turn I R clear S pool)
    (finished : ∀ running ∈ pool.tasks, running.rest.Finished) : I pool.state := by
  rcases turn with ⟨-, holds⟩ | ⟨earlier, last, tasks, -, ensures⟩
  · exact holds
  · have ended := finished last (tasks ▸ List.mem_append_right _ (List.mem_singleton_self last))
    cases rest : last.rest with
    | done value => exact (rest ▸ ensures).1
    | fail error => exact (rest ▸ ensures).1
    | await op resume =>
        rw [rest] at ended
        exact ended.elim

theorem Turn.step (refl : ∀ state, S.drift state state)
    (trans : ∀ {a b c}, S.drift a b → S.drift b c → S.drift a c) (stable : S.Stable I)
    (kept : ∀ call result, S.Stable (R call result))
    (each : ∀ call state, I state →
      S.Ensures clear (fun result state => I state ∧ R call result state) (S.body call) state)
    (turn : Turn I R clear S pool) (alone : Alone clear pool action) (step : S.Step pool action next) :
    Turn I R clear S next := by
  cases step with
  | @start call =>
      have finished := alone.start rfl
      exact .inr ⟨pool.tasks, _, rfl, finished, each call _ (turn.invariant finished)⟩
  | @serve task call history op resume answer after found served =>
      obtain ⟨reply, ok⟩ := alone.serve rfl
      rcases turn with ⟨none, -⟩ | ⟨earlier, last, tasks, finished, ensures⟩
      · rw [none] at found
        contradiction
      · rw [tasks] at found
        rcases getElem?_start found with early | ⟨rfl, rfl⟩
        · exact (finished _ (List.mem_of_getElem? early)).elim
        · cases served with
          | ok =>
              refine .inr ⟨earlier, ⟨call, history ++ [⟨op, .ok (S.perform op pool.state).1⟩],
                resume (.ok (S.perform op pool.state).1)⟩, ?_, finished,
                ensures _ (refl _) (alone.clear rfl)⟩
              simp [tasks]
          | error => contradiction
  | @drift after drifted =>
      rcases turn with ⟨none, holds⟩ | ⟨earlier, last, tasks, finished, ensures⟩
      · exact .inl ⟨none, stable drifted holds⟩
      · refine .inr ⟨earlier, last, tasks, finished, ensures.drift trans ?_ drifted⟩
        exact fun result _ _ drifted both => ⟨stable drifted both.1, kept _ _ drifted both.2⟩

/-- In a run of calls that take turns, the last one ends as each does on its own. -/
theorem Reaches.alone {allowed : Pool Call Op Reply ε α σ → Action Call Op Reply ε σ → Prop}
    (refl : ∀ state, S.drift state state)
    (trans : ∀ {a b c}, S.drift a b → S.drift b c → S.drift a c) (stable : S.Stable I)
    (kept : ∀ call result, S.Stable (R call result))
    (each : ∀ call state, I state →
      S.Ensures clear (fun result state => I state ∧ R call result state) (S.body call) state)
    (alone : ∀ pool action, allowed pool action → Alone clear pool action)
    {initial : σ} (initially : I initial) (reaches : S.Reaches allowed ⟨initial, []⟩ pool) :
    ∀ last ∈ pool.tasks.getLast?, ∀ result ∈ last.rest.result, R last.call result pool.state := by
  have turn : Turn I R clear S pool := by
    induction reaches with
    | refl => exact .inl ⟨rfl, initially⟩
    | step _ permitted step ih => exact ih.step refl trans stable kept each (alone _ _ permitted) step
  intro last found result ended
  rcases turn with ⟨none, -⟩ | ⟨earlier, last', tasks, -, ensures⟩
  · rw [none] at found
    contradiction
  · rw [tasks, List.getLast?_append, List.getLast?_singleton] at found
    cases found
    cases rest : last.rest with
    | await op resume =>
        rw [rest] at ended
        contradiction
    | done value | fail error =>
        rw [rest] at ended ensures
        cases ended
        exact ensures.2

end Runs

end Service

end Kanaka.Async
