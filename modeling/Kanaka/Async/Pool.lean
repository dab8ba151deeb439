import Kanaka.Async.Task
import Mathlib.Data.List.Basic

/-!
# Interleaved calls

The calls of a service share its state. Any number of them may be under way: a step starts a call,
lets the next operation of one take place or fail, or lets the world go on. Nothing happens between
two operations of a call except such steps of others.
-/

namespace Kanaka.Async

structure Service (Call Op : Type) (Reply : Op → Type) (ε α σ : Type) where
  body : Call → Task Op Reply ε α
  perform : (op : Op) → σ → Reply op × σ
  /-- What a failed operation leaves, if the operation can fail. -/
  failed : Op → σ → Option σ
  drift : σ → σ → Prop

variable {Call Op : Type} {Reply : Op → Type} {ε α σ κ : Type}

structure Running (Call Op : Type) (Reply : Op → Type) (ε α : Type) where
  call : Call
  history : List (Event Op Reply ε)
  rest : Task Op Reply ε α

structure Pool (Call Op : Type) (Reply : Op → Type) (ε α σ : Type) where
  state : σ
  tasks : List (Running Call Op Reply ε α)

/-! ## Tasks by their place -/

section Places
variable {τ : Type} {tasks : List τ} {task place : Nat} {new running : τ}

theorem getElem?_start (found : (tasks ++ [new])[place]? = some running) :
    tasks[place]? = some running ∨ place = tasks.length ∧ running = new := by
  rw [List.getElem?_append] at found
  split at found
  · exact .inl found
  · have inside := (List.getElem?_eq_some_iff.mp found).1
    simp only [List.length_singleton] at inside
    have last : place = tasks.length := by omega
    subst last
    rw [Nat.sub_self, List.getElem?_cons_zero, Option.some.injEq] at found
    exact .inr ⟨rfl, found.symm⟩

theorem getElem?_serve (found : (tasks.set task new)[place]? = some running) :
    place ≠ task ∧ tasks[place]? = some running ∨ place = task ∧ running = new := by
  by_cases same : place = task
  · subst same
    have inside := (List.getElem?_eq_some_iff.mp found).1
    rw [List.length_set] at inside
    rw [List.getElem?_set_self inside, Option.some.injEq] at found
    exact .inr ⟨rfl, found.symm⟩
  · rw [List.getElem?_set_ne (Ne.symm same)] at found
    exact .inl ⟨same, found⟩

theorem getElem?_served (found : tasks[task]? = some running) :
    (tasks.set task new)[task]? = some new :=
  List.getElem?_set_self (List.getElem?_eq_some_iff.mp found).1

theorem getElem?_other (apart : place ≠ task) (found : tasks[place]? = some running) :
    (tasks.set task new)[place]? = some running :=
  (List.getElem?_set_ne (Ne.symm apart)).trans found

theorem forall_start {P : τ → Prop} (old : ∀ running ∈ tasks, P running) (started : P new) :
    ∀ running ∈ tasks ++ [new], P running := by
  intro running member
  rcases List.mem_append.mp member with member | last
  · exact old running member
  · exact List.mem_singleton.mp last ▸ started

theorem forall_serve {P : τ → Prop} (old : ∀ running ∈ tasks, P running) (served : P new) :
    ∀ running ∈ tasks.set task new, P running := by
  intro running member
  rcases List.mem_or_eq_of_mem_set member with member | same
  · exact old running member
  · exact same ▸ served

theorem countP_le_one {p : τ → Bool} (alone : ∀ (task other : Nat) (running running' : τ),
    tasks[task]? = some running → tasks[other]? = some running' → p running = true →
    p running' = true → task = other) : tasks.countP p ≤ 1 := by
  induction tasks with
  | nil => exact Nat.zero_le 1
  | cons first rest ih =>
      rw [List.countP_cons]
      by_cases here : p first = true
      · have none : rest.countP p = 0 := by
          apply List.countP_eq_zero.mpr
          intro running member there
          obtain ⟨place, found⟩ := List.mem_iff_getElem?.mp member
          have := alone 0 (place + 1) first running rfl found here there
          omega
        simp [none, here]
      · rw [if_neg here]
        apply ih
        intro task other running running' found found' holds holds'
        have := alone (task + 1) (other + 1) running running' found found' holds holds'
        omega

end Places

inductive Action (Call Op : Type) (Reply : Op → Type) (ε σ : Type) where
  | start (call : Call)
  | serve (task : Nat) (event : Event Op Reply ε)
  | drift (state : σ)

/-- A step of a schedule: the next operation of a task takes place, or fails. -/
inductive Move (Call ε : Type) where
  | start (call : Call)
  | serve (task : Nat) (failure : Option ε)

def Task.Finished : Task Op Reply ε α → Prop
  | .await _ _ => False
  | _ => True

instance (task : Task Op Reply ε α) : Decidable task.Finished := by
  cases task <;> unfold Task.Finished <;> infer_instance

namespace Service
variable (S : Service Call Op Reply ε α σ)

inductive Serves (op : Op) (state : σ) : Except ε (Reply op) → σ → Prop where
  | ok : Serves op state (.ok (S.perform op state).1) (S.perform op state).2
  | error {error after} : S.failed op state = some after → Serves op state (.error error) after

inductive Step : Pool Call Op Reply ε α σ → Action Call Op Reply ε σ →
    Pool Call Op Reply ε α σ → Prop where
  | start {pool call} :
      Step pool (.start call) ⟨pool.state, pool.tasks ++ [⟨call, [], S.body call⟩]⟩
  | serve {pool task call history op resume answer after} :
      pool.tasks[task]? = some ⟨call, history, .await op resume⟩ →
      S.Serves op pool.state answer after →
      Step pool (.serve task ⟨op, answer⟩)
        ⟨after, pool.tasks.set task ⟨call, history ++ [⟨op, answer⟩], resume answer⟩⟩
  | drift {pool after} : S.drift pool.state after → Step pool (.drift after) ⟨after, pool.tasks⟩

/-- The pools of the runs from `first` whose steps are all allowed. -/
inductive Reaches (allowed : Pool Call Op Reply ε α σ → Action Call Op Reply ε σ → Prop)
    (first : Pool Call Op Reply ε α σ) : Pool Call Op Reply ε α σ → Prop where
  | refl : Reaches allowed first first
  | step {pool action next} : Reaches allowed first pool → allowed pool action →
      S.Step pool action next → Reaches allowed first next

variable {S} in
theorem Reaches.mono {allowed allowed' : Pool Call Op Reply ε α σ → Action Call Op Reply ε σ → Prop}
    {first pool : Pool Call Op Reply ε α σ}
    (permits : ∀ pool action, allowed pool action → allowed' pool action)
    (reaches : S.Reaches allowed first pool) : S.Reaches allowed' first pool := by
  induction reaches with
  | refl => exact .refl
  | step _ permitted step ih => exact ih.step (permits _ _ permitted) step

variable {S} in
theorem Reaches.trans {allowed : Pool Call Op Reply ε α σ → Action Call Op Reply ε σ → Prop}
    {first middle last : Pool Call Op Reply ε α σ} (reaches : S.Reaches allowed first middle)
    (continues : S.Reaches allowed middle last) : S.Reaches allowed first last := by
  induction continues with
  | refl => exact reaches
  | step _ permitted step ih => exact ih.step permitted step

/-! ## Schedules -/

def serve (op : Op) (state : σ) : Option ε → Option (Except ε (Reply op) × σ)
  | none => some (.ok (S.perform op state).1, (S.perform op state).2)
  | some error => (S.failed op state).map fun after => (.error error, after)

variable (check : Pool Call Op Reply ε α σ → Action Call Op Reply ε σ → Bool)

/-- The step of a move, if it passes the check. -/
def move (pool : Pool Call Op Reply ε α σ) : Move Call ε → Option (Pool Call Op Reply ε α σ)
  | .start call =>
      if check pool (.start call) then
        some ⟨pool.state, pool.tasks ++ [⟨call, [], S.body call⟩]⟩
      else none
  | .serve task failure =>
      match pool.tasks[task]? with
      | some ⟨call, history, .await op resume⟩ =>
          match S.serve op pool.state failure with
          | some (answer, after) =>
              if check pool (.serve task ⟨op, answer⟩) then
                some ⟨after, pool.tasks.set task ⟨call, history ++ [⟨op, answer⟩], resume answer⟩⟩
              else none
          | none => none
      | _ => none

def play (moves : List (Move Call ε)) (pool : Pool Call Op Reply ε α σ) :
    Option (Pool Call Op Reply ε α σ) :=
  moves.foldlM (S.move check) pool

variable {check}

theorem serves_of_serve {op : Op} {state after : σ} {failure : Option ε}
    {answer : Except ε (Reply op)} (served : S.serve op state failure = some (answer, after)) :
    S.Serves op state answer after := by
  cases failure with
  | none =>
      cases served
      exact .ok
  | some error =>
      obtain ⟨after, failed, same⟩ := Option.map_eq_some_iff.mp served
      cases same
      exact .error failed

theorem serve_of_move {pool next : Pool Call Op Reply ε α σ} {task : Nat} {failure : Option ε}
    (moved : S.move check pool (.serve task failure) = some next) :
    ∃ event, check pool (.serve task event) = true ∧ S.Step pool (.serve task event) next := by
  simp only [Service.move] at moved
  split at moved
  · rename_i call history op resume found
    cases served : S.serve op pool.state failure with
    | none =>
        rw [served] at moved
        contradiction
    | some result =>
        obtain ⟨answer, after⟩ := result
        rw [served] at moved
        simp only at moved
        split at moved
        · cases moved
          exact ⟨_, ‹_›, .serve found (S.serves_of_serve served)⟩
        · contradiction
  · contradiction

theorem step_of_move {pool next : Pool Call Op Reply ε α σ} {move : Move Call ε}
    (moved : S.move check pool move = some next) :
    ∃ action, check pool action = true ∧ S.Step pool action next := by
  cases move with
  | start call =>
      simp only [Service.move] at moved
      split at moved
      · cases moved
        exact ⟨_, ‹_›, .start⟩
      · contradiction
  | serve task failure =>
      obtain ⟨event, passed, step⟩ := S.serve_of_move moved
      exact ⟨_, passed, step⟩

theorem reaches_of_play {allowed : Pool Call Op Reply ε α σ → Action Call Op Reply ε σ → Prop}
    (sound : ∀ pool action, check pool action = true → allowed pool action)
    {first pool last : Pool Call Op Reply ε α σ} (moves : List (Move Call ε))
    (reaches : S.Reaches allowed first pool) (played : S.play check moves pool = some last) :
    S.Reaches allowed first last := by
  induction moves generalizing pool with
  | nil =>
      cases played
      exact reaches
  | cons move moves ih =>
      unfold play at played
      rw [List.foldlM_cons] at played
      obtain ⟨next, moved, rest⟩ := Option.bind_eq_some_iff.mp played
      obtain ⟨action, passed, step⟩ := S.step_of_move moved
      exact ih (reaches.step (sound _ _ passed) step) rest

variable (check) in
/-- A schedule that passes the check and ends in `P` is a run that ends in `P`. -/
theorem exists_of_play {allowed : Pool Call Op Reply ε α σ → Action Call Op Reply ε σ → Prop}
    {P : Pool Call Op Reply ε α σ → Prop} [DecidablePred P]
    (sound : ∀ pool action, check pool action = true → allowed pool action)
    {first : Pool Call Op Reply ε α σ} (moves : List (Move Call ε))
    (ends : (S.play check moves first).any (fun last => decide (P last)) = true) :
    ∃ last, S.Reaches allowed first last ∧ P last := by
  cases played : S.play check moves first with
  | none =>
      rw [played] at ends
      contradiction
  | some last =>
      rw [played] at ends
      exact ⟨last, S.reaches_of_play sound moves .refl played, of_decide_eq_true ends⟩

variable (check) in
theorem exists_serve_of_play {allowed : Pool Call Op Reply ε α σ → Action Call Op Reply ε σ → Prop}
    {P : Pool Call Op Reply ε α σ → Pool Call Op Reply ε α σ → Prop} [DecidableRel P]
    (sound : ∀ pool action, check pool action = true → allowed pool action)
    {first : Pool Call Op Reply ε α σ} (moves : List (Move Call ε)) (task : Nat) (failure : Option ε)
    (ends : (S.play check moves first).any (fun pool =>
      (S.move check pool (.serve task failure)).any fun next => decide (P pool next)) = true) :
    ∃ pool event next, S.Reaches allowed first pool ∧ S.Step pool (.serve task event) next ∧
      P pool next := by
  obtain ⟨pool, played, moved⟩ := (Option.any_eq_true _ _).mp ends
  obtain ⟨next, served, holds⟩ := (Option.any_eq_true _ _).mp moved
  obtain ⟨event, _, step⟩ := S.serve_of_move served
  exact ⟨pool, event, next, S.reaches_of_play sound moves .refl played, step, of_decide_eq_true holds⟩

variable (check) in
/-- Schedules one after the other, the world going on before each. -/
def playAll : List ((σ → σ) × List (Move Call ε)) → Pool Call Op Reply ε α σ →
    Option (Pool Call Op Reply ε α σ)
  | [], pool => some pool
  | (drift, moves) :: rest, pool =>
      if check pool (.drift (drift pool.state)) then
        (S.play check moves ⟨drift pool.state, pool.tasks⟩).bind (playAll rest)
      else none

theorem reaches_of_playAll {allowed : Pool Call Op Reply ε α σ → Action Call Op Reply ε σ → Prop}
    (sound : ∀ pool action, check pool action = true → allowed pool action)
    {segments : List ((σ → σ) × List (Move Call ε))}
    (drifts : ∀ segment ∈ segments, ∀ state, S.drift state (segment.1 state))
    {first pool last : Pool Call Op Reply ε α σ} (reaches : S.Reaches allowed first pool)
    (played : S.playAll check segments pool = some last) : S.Reaches allowed first last := by
  induction segments generalizing pool with
  | nil =>
      cases played
      exact reaches
  | cons segment segments ih =>
      obtain ⟨drift, moves⟩ := segment
      simp only [playAll] at played
      split at played
      · rename_i passed
        obtain ⟨next, moved, rest⟩ := Option.bind_eq_some_iff.mp played
        have drifted := reaches.step (sound _ _ passed) (.drift (drifts _ List.mem_cons_self _))
        exact ih (fun segment member => drifts segment (List.mem_cons_of_mem _ member))
          (S.reaches_of_play sound moves drifted moved) rest
      · contradiction

variable (check) in
theorem exists_of_playAll {allowed : Pool Call Op Reply ε α σ → Action Call Op Reply ε σ → Prop}
    {P : Pool Call Op Reply ε α σ → Prop} [DecidablePred P]
    (sound : ∀ pool action, check pool action = true → allowed pool action)
    {first : Pool Call Op Reply ε α σ} (segments : List ((σ → σ) × List (Move Call ε)))
    (drifts : ∀ segment ∈ segments, ∀ state, S.drift state (segment.1 state))
    (ends : (S.playAll check segments first).any (fun last => decide (P last)) = true) :
    ∃ last, S.Reaches allowed first last ∧ P last := by
  obtain ⟨last, played, holds⟩ := (Option.any_eq_true _ _).mp ends
  exact ⟨last, S.reaches_of_playAll sound drifts .refl played, of_decide_eq_true holds⟩

/-! ## What every call keeps to -/

/-- Notes taken of the events of a call, and what the notes say about its next operation and its
end. -/
structure Discipline (κ : Type) where
  note : κ → Event Op Reply ε → κ
  begun : κ
  asks : Call → κ → Op → Prop
  returns : Call → κ → α → Prop
  throws : Call → κ → ε → Prop
  follows : ∀ call, Task.Follows note (asks call) (returns call) (throws call) begun (S.body call)

variable {S} {allowed : Pool Call Op Reply ε α σ → Action Call Op Reply ε σ → Prop}
  {first pool : Pool Call Op Reply ε α σ}

namespace Discipline
variable (D : S.Discipline κ)

def notes (running : Running Call Op Reply ε α) : κ := running.history.foldl D.note D.begun

def Keeps (running : Running Call Op Reply ε α) : Prop :=
  Task.Follows D.note (D.asks running.call) (D.returns running.call) (D.throws running.call)
    (D.notes running) running.rest

theorem notes_serve (call : Call) (history : List (Event Op Reply ε)) (event : Event Op Reply ε)
    (rest rest' : Task Op Reply ε α) :
    D.notes ⟨call, history ++ [event], rest⟩ = D.note (D.notes ⟨call, history, rest'⟩) event := by
  simp only [notes, List.foldl_append, List.foldl_cons, List.foldl_nil]

variable {D}

theorem Keeps.asks {call : Call} {history : List (Event Op Reply ε)} {op : Op}
    {resume : Except ε (Reply op) → Task Op Reply ε α}
    (keeps : D.Keeps ⟨call, history, .await op resume⟩) :
    D.asks call (D.notes ⟨call, history, .await op resume⟩) op := by
  cases keeps with
  | await allowed _ => exact allowed

theorem Keeps.serve {call : Call} {history : List (Event Op Reply ε)} {op : Op}
    {resume : Except ε (Reply op) → Task Op Reply ε α} (answer : Except ε (Reply op))
    (keeps : D.Keeps ⟨call, history, .await op resume⟩) :
    D.Keeps ⟨call, history ++ [⟨op, answer⟩], resume answer⟩ := by
  unfold Keeps
  rw [D.notes_serve call history ⟨op, answer⟩ (resume answer) (.await op resume)]
  cases keeps with
  | await _ rest => exact rest answer

theorem Keeps.start (call : Call) : D.Keeps ⟨call, [], S.body call⟩ := D.follows call

end Discipline

/-- An invariant of runs in which every step is allowed and every call keeps to the discipline. -/
theorem Reaches.invariant (D : S.Discipline κ) {I : Pool Call Op Reply ε α σ → Prop}
    (reaches : S.Reaches allowed first pool) (kept : ∀ running ∈ first.tasks, D.Keeps running)
    (initially : I first)
    (started : ∀ pool call, I pool → allowed pool (.start call) →
      I ⟨pool.state, pool.tasks ++ [⟨call, [], S.body call⟩]⟩)
    (served : ∀ pool task call history op resume answer after, I pool →
      pool.tasks[task]? = some ⟨call, history, .await op resume⟩ →
      D.Keeps ⟨call, history, .await op resume⟩ → allowed pool (.serve task ⟨op, answer⟩) →
      S.Serves op pool.state answer after →
      I ⟨after, pool.tasks.set task ⟨call, history ++ [⟨op, answer⟩], resume answer⟩⟩)
    (drifted : ∀ pool after, I pool → allowed pool (.drift after) → S.drift pool.state after →
      I ⟨after, pool.tasks⟩) :
    I pool ∧ ∀ running ∈ pool.tasks, D.Keeps running := by
  induction reaches with
  | refl => exact ⟨initially, kept⟩
  | step _ permitted step ih =>
      obtain ⟨holds, keeps⟩ := ih
      cases step with
      | start =>
          exact ⟨started _ _ holds permitted, forall_start keeps (.start _)⟩
      | serve found serves =>
          have task := keeps _ (List.mem_of_getElem? found)
          exact ⟨served _ _ _ _ _ _ _ _ holds found task permitted serves,
            forall_serve keeps (task.serve _)⟩
      | drift drifts => exact ⟨drifted _ _ holds permitted drifts, keeps⟩

theorem Reaches.keeps (D : S.Discipline κ) (reaches : S.Reaches allowed first pool)
    (kept : ∀ running ∈ first.tasks, D.Keeps running) : ∀ running ∈ pool.tasks, D.Keeps running :=
  (reaches.invariant D (I := fun _ => True) kept trivial (fun _ _ _ _ => trivial)
    (fun _ _ _ _ _ _ _ _ _ _ _ _ _ => trivial) (fun _ _ _ _ _ => trivial)).2

theorem Reaches.state {I : σ → Prop} (reaches : S.Reaches allowed first pool)
    (initially : I first.state) (performed : ∀ op state, I state → I (S.perform op state).2)
    (failed : ∀ op state after, I state → S.failed op state = some after → I after)
    (drifted : ∀ state after, I state → S.drift state after → I after) : I pool.state := by
  induction reaches with
  | refl => exact initially
  | step _ _ step ih =>
      cases step with
      | start => exact ih
      | serve _ serves =>
          cases serves with
          | ok => exact performed _ _ ih
          | error fails => exact failed _ _ _ ih fails
      | drift drifts => exact drifted _ _ ih drifts

end Service

end Kanaka.Async
