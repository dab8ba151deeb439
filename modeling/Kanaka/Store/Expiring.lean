import Mathlib.Data.List.AList

/-!
# Stores whose entries expire

An entry is there until its deadline, which no later operation has to notice.
-/

namespace Kanaka

structure Expiring (α : Type) where
  value : α
  /-- `none` is for ever. -/
  deadline : Option Nat

namespace Expiring
variable {κ α : Type} [DecidableEq κ]

def live (now : Nat) (entry : Expiring α) : Bool :=
  match entry.deadline with
  | none => true
  | some deadline => now < deadline

abbrev Store (κ α : Type) := AList fun _ : κ => Expiring α

namespace Store
variable (store : Store κ α) (now : Nat)

def find (key : κ) : Option (Expiring α) := (store.lookup key).filter (live now)

def get (key : κ) : Option α := (store.find now key).map (·.value)

def set (key : κ) (value : α) (deadline : Option Nat) : Store κ α :=
  store.insert key ⟨value, deadline⟩

def del (key : κ) : Store κ α := store.erase key

/-- Sets the key if it is not there. -/
def setNX (key : κ) (value : α) (deadline : Option Nat) : Bool × Store κ α :=
  match store.get now key with
  | some _ => (false, store)
  | none => (true, store.set key value deadline)

def expire (key : κ) (deadline : Option Nat) : Store κ α :=
  match store.get now key with
  | some value => store.set key value deadline
  | none => store

def keys : List κ := AList.keys store |>.filter fun key => (store.get now key).isSome

variable {store now} {key other : κ} {value : α} {deadline : Option Nat}

@[simp] theorem get_empty : (∅ : Store κ α).get now key = none := by simp [get, find]

theorem get_set_self : (store.set key value deadline).get now key =
    if live now (⟨value, deadline⟩ : Expiring α) then some value else none := by
  simp only [get, find, set, AList.lookup_insert, Option.filter_some]
  split <;> rfl

@[simp] theorem get_set_of_ne (away : other ≠ key) :
    (store.set key value deadline).get now other = store.get now other := by
  simp [get, find, set, AList.lookup_insert_ne away]

@[simp] theorem get_del_self : (store.del key).get now key = none := by simp [get, find, del]

@[simp] theorem get_del_of_ne (away : other ≠ key) :
    (store.del key).get now other = store.get now other := by
  simp [get, find, del, AList.lookup_erase_ne away]

theorem lookup_set_eq_some {entry : Expiring α} :
    (store.set key value deadline).lookup other = some entry ↔
      other = key ∧ ⟨value, deadline⟩ = entry ∨ other ≠ key ∧ store.lookup other = some entry := by
  by_cases same : other = key
  · subst same
    simp [set]
  · simp [set, AList.lookup_insert_ne same, same]

theorem lookup_del_eq_some {entry : Expiring α} :
    (store.del key).lookup other = some entry ↔ other ≠ key ∧ store.lookup other = some entry := by
  by_cases same : other = key
  · subst same
    simp [del]
  · simp [del, AList.lookup_erase_ne same, same]

@[simp] theorem get_expire_of_ne (away : other ≠ key) (t : Nat) :
    (store.expire now key deadline).get t other = store.get t other := by
  unfold expire
  split
  · exact get_set_of_ne away
  · rfl

theorem get_eq_some : store.get now key = some value ↔
    ∃ deadline, store.lookup key = some ⟨value, deadline⟩ ∧
      live now (⟨value, deadline⟩ : Expiring α) = true := by
  constructor
  · intro found
    obtain ⟨⟨_, deadline⟩, present, rfl⟩ := Option.map_eq_some_iff.mp found
    exact ⟨deadline, Option.filter_eq_some_iff.mp present⟩
  · rintro ⟨deadline, present⟩
    exact Option.map_eq_some_iff.mpr ⟨_, Option.filter_eq_some_iff.mpr present, rfl⟩

theorem live_of_le {earlier : Nat} (le : earlier ≤ now) {entry : Expiring α}
    (alive : live now entry = true) : live earlier entry = true := by
  obtain ⟨_, _ | deadline⟩ := entry
  · rfl
  · exact decide_eq_true (Nat.lt_of_le_of_lt le (of_decide_eq_true alive))

theorem get_of_later {earlier : Nat} (le : earlier ≤ now) (found : store.get now key = some value) :
    store.get earlier key = some value := by
  obtain ⟨deadline, present, alive⟩ := get_eq_some.mp found
  exact get_eq_some.mpr ⟨deadline, present, live_of_le le alive⟩

theorem setNX_of_none (absent : store.get now key = none) (value : α) (deadline : Option Nat) :
    store.setNX now key value deadline = (true, store.set key value deadline) := by
  rw [setNX, absent]

theorem setNX_of_some (present : store.get now key = some value) (new : α) (deadline : Option Nat) :
    store.setNX now key new deadline = (false, store) := by
  rw [setNX, present]

end Store

end Expiring

end Kanaka
