import Kanaka.Json.Value

/-! # Places in a value -/

namespace Kanaka.Json

inductive Step where
  | index (i : Nat)
  | key (name : String)

namespace Value

/-- An item of an array, or an own property of an object. -/
def own : Value → Step → Option Value
  | .array items, .index i => items[i]?
  | .object fields _, .key name => fields.lookup name
  | _, _ => none

/-- An item or an own property, or the prototype that was set; with a null prototype there is no
`__proto__` to read. -/
def get : Value → Step → Option Value
  | .object fields prototype, .key name =>
      (fields.lookup name).or (if name = "__proto__" then prototype.filter isObject else none)
  | value, step => value.own step

def find (value : Value) : List Step → Option Value
  | [] => some value
  | step :: path => (value.own step).bind (·.find path)

def read (value : Value) : List Step → Option Value
  | [] => some value
  | step :: path => (value.get step).bind (·.read path)

section Find
variable {value other : Value} {step : Step}

@[simp] theorem find_nil : value.find [] = some value := rfl

@[simp] theorem find_cons (path : List Step) :
    value.find (step :: path) = (value.own step).bind (·.find path) := rfl

theorem find_congr (same : ∀ step, value.own step = other.own step) (path : List Step)
    (last : Step) : value.find (path ++ [last]) = other.find (path ++ [last]) := by
  cases path with
  | nil => simp [same]
  | cons step path => simp [same]

theorem lookup_map {α β : Type} (change : String → α → β) (fields : List (String × α))
    (name : String) : (fields.map fun field => (field.1, change field.1 field.2)).lookup name =
      (fields.lookup name).map (change name) := by
  induction fields with
  | nil => rfl
  | cons field fields ih =>
      rw [List.map_cons, List.lookup_cons, List.lookup_cons, ih]
      cases same : name == field.1 with
      | false => rfl
      | true => rw [eq_of_beq same]; rfl

theorem lookup_iff_mem {α : Type} {fields : List (String × α)} (distinct : (fields.map Prod.fst).Nodup)
    (name : String) (value : α) : fields.lookup name = some value ↔ (name, value) ∈ fields := by
  induction fields with
  | nil => simp
  | cons field fields ih =>
      obtain ⟨first, content⟩ := field
      rw [List.map_cons, List.nodup_cons] at distinct
      rw [List.lookup_cons, List.mem_cons, Prod.mk.injEq, ← ih distinct.2]
      by_cases same : name = first
      · have absent : fields.lookup first = none := by
          rw [List.lookup_eq_none_iff]
          intro field member
          rw [bne_iff_ne]
          intro equal
          exact distinct.1 (List.mem_map.mpr ⟨field, member, equal.symm⟩)
        subst same
        simp [absent, eq_comm]
      · rw [beq_false_of_ne same]
        simp [same]

theorem IsJson.own (json : value.IsJson) (found : value.own step = some other) : other.IsJson := by
  cases json with
  | literal | string => cases step <;> cases found
  | array items =>
      cases step with
      | index i => exact items other (List.mem_of_getElem? found)
      | key name => cases found
  | object distinct fields =>
      cases step with
      | index i => cases found
      | key name => exact fields (name, other) ((lookup_iff_mem distinct name other).mp found)

theorem IsJson.find {path : List Step} (json : value.IsJson) (found : value.find path = some other) :
    other.IsJson := by
  induction path generalizing value with
  | nil =>
      cases found
      exact json
  | cons step path ih =>
      obtain ⟨child, here, later⟩ := Option.bind_eq_some_iff.mp found
      exact ih (json.own here) later

end Find

end Value

/-- None of the names on the way is of a kind. -/
def Open (closed : String → Bool) (path : List Step) : Prop :=
  ∀ name, .key name ∈ path → closed name = false

section Open
variable {closed : String → Bool} {step : Step} {path : List Step}

@[simp] theorem open_nil : Open closed [] := by
  simp [Open]

theorem open_cons : Open closed (step :: path) ↔ Open closed [step] ∧ Open closed path := by
  simp [Open, or_imp, forall_and]

theorem open_append (path path' : List Step) :
    Open closed (path ++ path') ↔ Open closed path ∧ Open closed path' := by
  simp [Open, or_imp, forall_and]

@[simp] theorem open_index (i : Nat) : Open closed [.index i] := by
  simp [Open]

@[simp] theorem open_key (name : String) : Open closed [.key name] ↔ closed name = false := by
  simp [Open]

end Open

end Kanaka.Json
