import Kanaka.Async.Pool
import Mathlib.Algebra.BigOperators.Group.List.Basic

/-!
# Accounts of interleaved calls

A quantity of the shared state to which every call contributes what its own notes say, whatever the
others do.
-/

namespace Kanaka.Async

section Shares
variable {τ M : Type} [AddCommMonoid M] {tasks : List τ} {task : Nat} {old : τ}

theorem sum_start (tasks : List τ) (new : τ) (share : τ → M) :
    ((tasks ++ [new]).map share).sum = (tasks.map share).sum + share new := by
  rw [List.map_append, List.sum_append, List.map_singleton, List.sum_singleton]

theorem sum_serve (new : τ) (share : τ → M) (found : tasks[task]? = some old) :
    ((tasks.set task new).map share).sum + share old = (tasks.map share).sum + share new := by
  induction tasks generalizing task with
  | nil => simp at found
  | cons first rest ih =>
      cases task with
      | zero =>
          cases found
          simp only [List.set_cons_zero, List.map_cons, List.sum_cons]
          ac_rfl
      | succ task =>
          simp only [List.set_cons_succ, List.map_cons, List.sum_cons, add_assoc]
          rw [ih found]

end Shares

namespace Service

variable {Call Op : Type} {Reply : Op → Type} {ε α σ κ M : Type} [AddCommGroup M]
  {S : Service Call Op Reply ε α σ}
  {allowed : Pool Call Op Reply ε α σ → Action Call Op Reply ε σ → Prop}
  {initial : σ} {pool : Pool Call Op Reply ε α σ}

def Discipline.contribution (D : S.Discipline κ) (share : Call → κ → M)
    (running : Running Call Op Reply ε α) : M := share running.call (D.notes running)

/-- If every operation moves the total by what the share of its call changes, the total is the
initial one and the shares of all calls. -/
theorem Reaches.accounts (D : S.Discipline κ) (total : σ → M) (share : Call → κ → M)
    {I : Pool Call Op Reply ε α σ → Prop} (reaches : S.Reaches allowed ⟨initial, []⟩ pool)
    (invariant : ∀ pool, S.Reaches allowed ⟨initial, []⟩ pool → I pool)
    (fresh : ∀ call, share call D.begun = 0)
    (served : ∀ pool task call history op resume answer after, I pool →
      pool.tasks[task]? = some ⟨call, history, .await op resume⟩ →
      D.Keeps ⟨call, history, .await op resume⟩ → allowed pool (.serve task ⟨op, answer⟩) →
      S.Serves op pool.state answer after →
      total after + share call (D.notes ⟨call, history, .await op resume⟩) = total pool.state +
        share call (D.note (D.notes ⟨call, history, .await op resume⟩) ⟨op, answer⟩))
    (drifted : ∀ pool after, I pool → allowed pool (.drift after) → S.drift pool.state after →
      total after = total pool.state) :
    total pool.state = total initial + (pool.tasks.map (D.contribution share)).sum ∧
      ∀ running ∈ pool.tasks, D.Keeps running := by
  induction reaches with
  | refl => simp
  | @step pool action next before permitted step ih =>
      obtain ⟨balanced, keeps⟩ := ih
      have holds := invariant pool before
      cases step with
      | @start call =>
          refine ⟨?_, forall_start keeps (.start _)⟩
          have none : D.contribution share ⟨call, [], S.body call⟩ = 0 := fresh call
          rw [sum_start, none, add_zero]
          exact balanced
      | @serve task call history op resume answer after found serves =>
          have running := keeps _ (List.mem_of_getElem? found)
          refine ⟨?_, forall_serve keeps (running.serve _)⟩
          have moved := served _ _ _ _ _ _ _ _ holds found running permitted serves
          have shares := sum_serve ⟨call, history ++ [⟨op, answer⟩], resume answer⟩
            (D.contribution share) found
          simp only [Discipline.contribution, D.notes_serve call history ⟨op, answer⟩
            (resume answer) (.await op resume)] at shares
          apply add_right_cancel (b := share call (D.notes ⟨call, history, .await op resume⟩))
          rw [moved, balanced, add_assoc, add_assoc]
          exact congrArg (total initial + ·) shares.symm
      | drift drifts =>
          exact ⟨(drifted _ _ holds permitted drifts).trans balanced, keeps⟩

end Service

end Kanaka.Async
