import Kanaka.Async.Pool

/-!
# Calls to completion

A call that nothing interrupts and in which no operation fails, and a list of such calls.
-/

namespace Kanaka.Async.Service

variable {Call Op : Type} {Reply : Op → Type} {ε α β σ : Type} (S : Service Call Op Reply ε α σ)

def answer (op : Op) (state : σ) : Except ε (Reply op) × σ :=
  (.ok (S.perform op state).1, (S.perform op state).2)

def complete (state : σ) (call : Call) : σ := ((S.body call).run S.answer state).2

def completeAll (state : σ) (calls : List Call) : σ := calls.foldl S.complete state

@[simp] theorem completeAll_nil (state : σ) : S.completeAll state [] = state := rfl

@[simp] theorem completeAll_concat (state : σ) (calls : List Call) (call : Call) :
    S.completeAll state (calls ++ [call]) = S.complete (S.completeAll state calls) call := by
  rw [completeAll, List.foldl_append]
  rfl

theorem run_answer_perform (op : Op) (next : Reply op → Task Op Reply ε β) (state : σ) :
    (Task.perform op >>= next).run S.answer state =
      (next (S.perform op state).1).run S.answer (S.perform op state).2 :=
  Task.run_bind_ok (Task.run_perform _ _ _)

theorem run_answer_caught (task : Task Op Reply ε β) (handler : ε → Task Op Reply ε β) {value : β}
    {state after : σ} (ran : task.run S.answer state = (.ok value, after)) :
    (task.tryCatch handler).run S.answer state = (.ok value, after) := by
  rw [Task.run_tryCatch, ran]

end Kanaka.Async.Service
