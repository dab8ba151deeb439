import Kanaka.Async.Pool

/-!
# Calls out of each other's sight

Some calls of a service have a part of the state to themselves. A run is, as far as they can see, a
run in which the other calls are never made.
-/

namespace Kanaka.Async

section Filter
variable {τ : Type} {p : τ → Bool} {tasks : List τ} {task : Nat} {old : τ}

theorem filter_set_of_not (new : τ) (found : tasks[task]? = some old) (outside : p old = false)
    (outside' : p new = false) : (tasks.set task new).filter p = tasks.filter p := by
  induction tasks generalizing task with
  | nil => simp at found
  | cons first rest ih =>
      cases task with
      | zero =>
          cases found
          simp [outside, outside']
      | succ task => simp only [List.set_cons_succ, List.filter_cons, ih found]

theorem exists_place_of_filter (found : tasks[task]? = some old) (inside : p old = true) :
    ∃ place, (tasks.filter p)[place]? = some old ∧
      ∀ new, p new = true → (tasks.set task new).filter p = (tasks.filter p).set place new := by
  induction tasks generalizing task with
  | nil => simp at found
  | cons first rest ih =>
      cases task with
      | zero =>
          cases found
          exact ⟨0, by simp [inside], fun new inside' => by simp [inside, inside']⟩
      | succ task =>
          obtain ⟨place, there, served⟩ := ih found
          by_cases holds : p first = true
          · exact ⟨place + 1, by simpa [holds] using there,
              fun new inside' => by simp [holds, served new inside']⟩
          · exact ⟨place, by simpa [holds] using there,
              fun new inside' => by simp [holds, served new inside']⟩

end Filter

/-! ## Tasks by the operations they ask for -/

namespace Task
variable {Op : Type} {Reply : Op → Type} {ε α β : Type} {Q : Op → Prop}

/-- The task asks for no other operations. -/
def Within (Q : Op → Prop) (task : Task Op Reply ε α) : Prop :=
  Follows (fun _ _ => ()) (fun _ => Q) (fun _ _ => True) (fun _ _ => True) () task

namespace Within

theorem done (value : α) : Within Q (.done value : Task Op Reply ε α) :=
  Follows.done trivial

theorem perform {op : Op} (asked : Q op) :
    Within Q (Task.perform op : Task Op Reply ε (Reply op)) :=
  Follows.perform asked (fun _ => trivial) fun _ => trivial

theorem bind {first : Task Op Reply ε α} {next : α → Task Op Reply ε β} (within : Within Q first)
    (rest : ∀ value, Within Q (next value)) : Within Q (first >>= next) :=
  Follows.bind (within.weaken (fun _ value _ => rest value) fun _ _ _ => trivial)

theorem tryCatch {first : Task Op Reply ε α} {handler : ε → Task Op Reply ε α}
    (within : Within Q first) (caught : ∀ error, Within Q (handler error)) :
    Within Q (first.tryCatch handler) :=
  Follows.tryCatch (within.weaken (fun _ _ _ => trivial) fun _ error _ => caught error)

end Within

end Task

namespace Service

variable {Call Op : Type} {Reply : Op → Type} {ε α σ κ : Type} {S : Service Call Op Reply ε α σ}

/-- Calls that are known by the operations they ask for. -/
def Discipline.within {Q : Call → Op → Prop} (within : ∀ call, Task.Within (Q call) (S.body call)) :
    S.Discipline Unit where
  note _ _ := ()
  begun := ()
  asks call _ := Q call
  returns _ _ _ := True
  throws _ _ _ := True
  follows := within

/-- Calls may start where they are permitted. -/
def Permitted (permits : σ → Call → Prop) (pool : Pool Call Op Reply ε α σ)
    (action : Action Call Op Reply ε σ) : Prop :=
  ∀ call, action = .start call → permits pool.state call

/-- Only calls that are `mine` start, where they are permitted. -/
def Only (mine : Call → Bool) (permits : σ → Call → Prop) (pool : Pool Call Op Reply ε α σ)
    (action : Action Call Op Reply ε σ) : Prop :=
  ∀ call, action = .start call → mine call = true ∧ permits pool.state call

/-- The calls that are `mine` cannot tell related states apart, and the other calls do not leave
them. -/
structure Isolates (D : S.Discipline κ) (mine : Call → Bool) (permits : σ → Call → Prop)
    (related : σ → σ → Prop) : Prop where
  start : ∀ {state alone call}, related state alone → mine call = true → permits state call →
    permits alone call
  own : ∀ {state alone call notes op answer after}, related state alone → mine call = true →
    D.asks call notes op → S.Serves op state answer after →
    ∃ after', S.Serves op alone answer after' ∧ related after after'
  other : ∀ {state alone call notes op answer after}, related state alone → mine call = false →
    D.asks call notes op → S.Serves op state answer after → related after alone
  drift : ∀ {state alone after}, related state alone → S.drift state after →
    ∃ after', S.drift alone after' ∧ related after after'

theorem Reaches.begin {allowed : Pool Call Op Reply ε α σ → Action Call Op Reply ε σ → Prop}
    {first pool : Pool Call Op Reply ε α σ} (reaches : S.Reaches allowed first pool) (call : Call)
    (permitted : allowed pool (.start call)) :
    S.Reaches allowed first ⟨pool.state, pool.tasks ++ [⟨call, [], S.body call⟩]⟩ :=
  reaches.step permitted .start

variable {D : S.Discipline κ} {mine : Call → Bool} {permits : σ → Call → Prop}
  {related : σ → σ → Prop} {initial : σ} {pool : Pool Call Op Reply ε α σ}

theorem Reaches.isolated (isolates : Isolates D mine permits related) (refl : related initial initial)
    (reaches : S.Reaches (Permitted permits) ⟨initial, []⟩ pool) :
    ∃ alone, S.Reaches (Only mine permits) ⟨initial, []⟩ alone ∧ related pool.state alone.state ∧
      alone.tasks = pool.tasks.filter (mine ·.call) := by
  induction reaches with
  | refl => exact ⟨_, .refl, refl, rfl⟩
  | @step pool action next before permitted step ih =>
      obtain ⟨alone, reaches, alike, tasks⟩ := ih
      cases step with
      | @start call =>
          by_cases own : mine call = true
          · have allowed := isolates.start alike own (permitted call rfl)
            refine ⟨_, reaches.begin call ?_, alike, ?_⟩
            · rintro _ ⟨⟩
              exact ⟨own, allowed⟩
            · simp [tasks, own]
          · exact ⟨alone, reaches, alike, by simp [tasks, own]⟩
      | @serve task call history op resume answer after found serves =>
          have asks := (before.keeps D (by simp) _ (List.mem_of_getElem? found)).asks
          by_cases own : mine call = true
          · obtain ⟨after', served, alike'⟩ := isolates.own alike own asks serves
            obtain ⟨place, there, set⟩ := exists_place_of_filter
              (p := fun running : Running Call Op Reply ε α => mine running.call) found own
            rw [← tasks] at there
            refine ⟨_, reaches.step ?_ (.serve there served), alike', ?_⟩
            · rintro _ ⟨⟩
            · rw [set _ own, tasks]
          · rw [Bool.not_eq_true] at own
            refine ⟨alone, reaches, isolates.other alike own asks serves, ?_⟩
            rw [tasks]
            exact (filter_set_of_not (p := fun running => mine running.call)
              ⟨call, history ++ [⟨op, answer⟩], resume answer⟩ found own own).symm
      | drift drifts =>
          obtain ⟨after', drifts', alike'⟩ := isolates.drift alike drifts
          refine ⟨_, reaches.step ?_ (.drift drifts'), alike', tasks⟩
          rintro _ ⟨⟩

end Service

end Kanaka.Async
