import Mathlib.Data.List.Basic

/-!
# Timers

The timers of an event loop. A pending timer runs its job once, unless it is cleared before; no
handle is given out twice.
-/

namespace Kanaka.Async

structure Timer (κ : Type) where
  handle : Nat
  job : κ
deriving DecidableEq

structure Timers (κ : Type) where
  pending : List (Timer κ)
  next : Nat
deriving DecidableEq

namespace Timers
variable {κ : Type} (timers : Timers κ)

def empty : Timers κ := ⟨[], 0⟩

def set (job : κ) : Timers κ := ⟨timers.pending ++ [⟨timers.next, job⟩], timers.next + 1⟩

/-- The handle of a timer that has run, or that was never set, is let be. -/
def clear (handle : Nat) : Timers κ :=
  { timers with pending := timers.pending.filter fun timer => timer.handle ≠ handle }

def job? (handle : Nat) : Option κ :=
  (timers.pending.find? fun timer => timer.handle = handle).map (·.job)

@[simp] theorem pending_empty : (empty : Timers κ).pending = [] := rfl

@[simp] theorem pending_set (job : κ) :
    (timers.set job).pending = timers.pending ++ [⟨timers.next, job⟩] := rfl

@[simp] theorem pending_clear (handle : Nat) : (timers.clear handle).pending =
    timers.pending.filter fun timer => timer.handle ≠ handle := rfl

variable {timers}

theorem mem_of_mem_clear {handle : Nat} {timer : Timer κ} (member : timer ∈ (timers.clear handle).pending) :
    timer ∈ timers.pending := List.mem_of_mem_filter member

theorem mem_of_job? {handle : Nat} {job : κ} (found : timers.job? handle = some job) :
    ⟨handle, job⟩ ∈ timers.pending := by
  obtain ⟨timer, first, same⟩ := Option.map_eq_some_iff.mp found
  have held : timer.handle = handle := by simpa using List.find?_some first
  rw [← same, ← held]
  exact List.mem_of_find?_eq_some first

theorem pending_clear_only {timer : Timer κ} (only : timers.pending = [timer]) :
    (timers.clear timer.handle).pending = [] := by
  simp [only]

end Timers

end Kanaka.Async
