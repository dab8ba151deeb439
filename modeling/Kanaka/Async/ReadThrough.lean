import Kanaka.Async.Pool

/-!
# Caches in front of a source

A call keeps under its key what the source has answered to it, and takes what it finds there instead
of asking the source. Whatever the interleaving, what is kept under a key was answered to a call with
that key.
-/

namespace Kanaka.Async

variable {Call Op : Type} {Reply : Op → Type} {ε α σ κ Key V : Type}

/-! ## Notes that leave nothing out -/

def transcript (history : List (Event Op Reply ε)) (event : Event Op Reply ε) :
    List (Event Op Reply ε) := history ++ [event]

theorem foldl_transcript (history past : List (Event Op Reply ε)) :
    history.foldl transcript past = past ++ history := by
  induction history generalizing past with
  | nil => exact (List.append_nil past).symm
  | cons event history ih => simp [ih, transcript]

namespace Service

/-- A cache that is read and filled by the calls of a service. -/
structure ReadThrough (S : Service Call Op Reply ε α σ) (Key V : Type) where
  key : Call → Option Key
  kept : σ → Key → V → Prop
  fetched : Call → Event Op Reply ε → V → Prop
  hit : Call → Event Op Reply ε → V → Prop

variable {S : Service Call Op Reply ε α σ} (C : S.ReadThrough Key V)

namespace ReadThrough

/-- A call with the key has had the value from the source. -/
def Sourced (pool : Pool Call Op Reply ε α σ) (key : Key) (value : V) : Prop :=
  ∃ source ∈ pool.tasks, C.key source.call = some key ∧
    ∃ event ∈ source.history, C.fetched source.call event value

structure Faithful (pool : Pool Call Op Reply ε α σ) : Prop where
  kept : ∀ key value, C.kept pool.state key value → C.Sourced pool key value
  hit : ∀ running ∈ pool.tasks, ∀ event ∈ running.history, ∀ value,
    C.hit running.call event value → ∃ key, C.key running.call = some key ∧ C.Sourced pool key value

variable {C} {pool : Pool Call Op Reply ε α σ} {key : Key} {value : V} {task : Nat} {call : Call}
  {history : List (Event Op Reply ε)} {op : Op} {resume : Except ε (Reply op) → Task Op Reply ε α}
  {answer : Except ε (Reply op)} {after : σ}

theorem Sourced.start (sourced : C.Sourced pool key value) (call : Call) :
    C.Sourced ⟨pool.state, pool.tasks ++ [⟨call, [], S.body call⟩]⟩ key value := by
  obtain ⟨source, member, has, answered⟩ := sourced
  exact ⟨source, List.mem_append_left _ member, has, answered⟩

theorem Sourced.serve (found : pool.tasks[task]? = some ⟨call, history, .await op resume⟩)
    (sourced : C.Sourced pool key value) (answer : Except ε (Reply op)) (after : σ) :
    C.Sourced ⟨after, pool.tasks.set task ⟨call, history ++ [⟨op, answer⟩], resume answer⟩⟩
      key value := by
  obtain ⟨source, member, has, event, past, answered⟩ := sourced
  obtain ⟨place, there⟩ := List.mem_iff_getElem?.mp member
  by_cases same : place = task
  · subst same
    cases there.symm.trans found
    exact ⟨_, List.mem_of_getElem? (getElem?_served found), has, event,
      List.mem_append_left _ past, answered⟩
  · exact ⟨source, List.mem_of_getElem? (getElem?_other same there), has, event, past, answered⟩

theorem Sourced.served (found : pool.tasks[task]? = some ⟨call, history, .await op resume⟩)
    (has : C.key call = some key) {event : Event Op Reply ε}
    (member : event ∈ history ++ [⟨op, answer⟩]) (answered : C.fetched call event value) :
    C.Sourced ⟨after, pool.tasks.set task ⟨call, history ++ [⟨op, answer⟩], resume answer⟩⟩
      key value :=
  ⟨_, List.mem_of_getElem? (getElem?_served found), has, event, member, answered⟩

theorem Faithful.start (faithful : C.Faithful pool) (call : Call) :
    C.Faithful ⟨pool.state, pool.tasks ++ [⟨call, [], S.body call⟩]⟩ where
  kept key value held := (faithful.kept key value held).start call
  hit := by
    apply forall_start
    · intro running member event past value found
      obtain ⟨key, has, sourced⟩ := faithful.hit running member event past value found
      exact ⟨key, has, sourced.start call⟩
    · simp

/-- An operation keeps what its own call has had from the source, or what was kept before; what it
finds was kept. -/
theorem Faithful.serve (faithful : C.Faithful pool)
    (found : pool.tasks[task]? = some ⟨call, history, .await op resume⟩)
    (kept : ∀ key value, C.kept after key value → C.kept pool.state key value ∨
      C.key call = some key ∧ ∃ event ∈ history, C.fetched call event value)
    (hit : ∀ value, C.hit call ⟨op, answer⟩ value →
      ∃ key, C.key call = some key ∧ C.kept pool.state key value) :
    C.Faithful ⟨after, pool.tasks.set task ⟨call, history ++ [⟨op, answer⟩], resume answer⟩⟩ where
  kept key value held := by
    rcases kept key value held with before | ⟨has, event, past, answered⟩
    · exact (faithful.kept key value before).serve found answer after
    · exact .served found has (List.mem_append_left _ past) answered
  hit := by
    apply forall_serve
    · intro running member event past value taken
      obtain ⟨key, has, sourced⟩ := faithful.hit running member event past value taken
      exact ⟨key, has, sourced.serve found answer after⟩
    · intro event past value taken
      rcases List.mem_append.mp past with past | last
      · obtain ⟨key, has, sourced⟩ :=
          faithful.hit _ (List.mem_of_getElem? found) event past value taken
        exact ⟨key, has, sourced.serve found answer after⟩
      · rw [List.mem_singleton.mp last] at taken
        obtain ⟨key, has, there⟩ := hit value taken
        exact ⟨key, has, (faithful.kept key value there).serve found answer after⟩

theorem Faithful.drift (faithful : C.Faithful pool)
    (kept : ∀ key value, C.kept after key value → C.kept pool.state key value) :
    C.Faithful ⟨after, pool.tasks⟩ where
  kept key value held := faithful.kept key value (kept key value held)
  hit := faithful.hit

theorem Faithful.empty {initial : σ} (empty : ∀ key value, ¬ C.kept initial key value) :
    C.Faithful ⟨initial, []⟩ where
  kept key value held := (empty key value held).elim
  hit := by simp

end ReadThrough

end Service

end Kanaka.Async
