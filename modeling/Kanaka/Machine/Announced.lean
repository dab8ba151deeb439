import Kanaka.Machine.Safety
import Mathlib.Data.List.Nodup

/-!
# Storage that is announced by events

A storage stands for a set of events, those it would have to announce to be known by its log alone.
Calls between a write and its announcement may write and announce other things: the difference of
the two is what a call leaves as it has found it.
-/

namespace Kanaka.Machine

variable {σ ε : Type} [DecidableEq ε] (events : σ → List ε) (stands : σ → ε → Prop)
  [∀ s, DecidablePred (stands s)]

def unannounced (s : σ) (event : ε) : Int :=
  (if stands s event then 1 else 0) - (events s).count event

def SameUnannounced (before after : σ) : Prop :=
  ∀ event, unannounced events stands after event = unannounced events stands before event

variable {events stands} {before after written next : σ} {new : ε}

theorem SameUnannounced.refl (s : σ) : SameUnannounced events stands s s := fun _ => rfl

theorem SameUnannounced.trans {middle : σ} (first : SameUnannounced events stands before middle)
    (second : SameUnannounced events stands middle after) :
    SameUnannounced events stands before after :=
  fun event => (second event).trans (first event)

theorem SameUnannounced.congr (log : events after = events before)
    (same : ∀ event, stands after event ↔ stands before event) :
    SameUnannounced events stands before after := by
  intro event
  simp only [unannounced, log, same event]

theorem unannounced_write (log : events written = events before) (fresh : ¬stands before new)
    (wrote : ∀ event, stands written event ↔ stands before event ∨ event = new) (event : ε) :
    unannounced events stands written event =
      unannounced events stands before event + if event = new then 1 else 0 := by
  simp only [unannounced, log, wrote event]
  by_cases same : event = new
  · subst same
    simp only [or_true, if_true, if_neg fresh]
    omega
  · simp only [same, or_false, if_false]
    omega

theorem unannounced_emit (log : events after = events written ++ [new])
    (same : ∀ event, stands after event ↔ stands written event) (event : ε) :
    unannounced events stands after event =
      unannounced events stands written event - if event = new then 1 else 0 := by
  simp only [unannounced, log, same event, List.count_append, List.count_singleton, beq_iff_eq,
    eq_comm (a := new)]
  split <;> split <;> omega

theorem SameUnannounced.announce (meanwhile : SameUnannounced events stands written next)
    (log : events written = events before) (fresh : ¬stands before new)
    (wrote : ∀ event, stands written event ↔ stands before event ∨ event = new)
    (emitted : events after = events next ++ [new])
    (same : ∀ event, stands after event ↔ stands next event) :
    SameUnannounced events stands before after := by
  intro event
  have write := unannounced_write log fresh wrote event
  have emit := unannounced_emit emitted same event
  have between := meanwhile event
  omega

theorem SameUnannounced.settled (same : SameUnannounced events stands before after)
    (log : events before = []) (silent : ∀ event, ¬stands before event) :
    (events after).Nodup ∧ ∀ event, event ∈ events after ↔ stands after event := by
  have counted : ∀ event, (events after).count event = if stands after event then 1 else 0 := by
    intro event
    have balance := same event
    rw [unannounced, unannounced, log, if_neg (silent event), List.count_nil] at balance
    split at balance
    · rw [if_pos ‹_›]
      omega
    · rw [if_neg ‹_›]
      omega
  constructor
  · rw [List.nodup_iff_count_le_one]
    intro event
    rw [counted]
    split <;> omega
  · intro event
    rw [← List.count_pos_iff, counted]
    split <;> simp_all

end Kanaka.Machine
