import Kanaka.Proof.Backend.Sanitizing

/-! # What the sanitizer keeps of the structure of a value -/

namespace Kanaka.Backend.RequestSanitizerMiddleware
open Json

inductive Layout where
  | undefined
  | literal (text : Literal)
  | string
  | array (length : Nat)
  | object (names : List String)

def layout : Value → Layout
  | .undefined => .undefined
  | .literal text => .literal text
  | .string _ => .string
  | .array items => .array items.length
  | .object fields _ => .object (fields.map Prod.fst)

/-- The same names, lengths and literals at every place, and nothing to inherit from. -/
structure Preserves (sanitizeHtml : String → String) (value : Value) : Prop where
  layouts : ∀ path, ((sanitizeObject sanitizeHtml value).find path).map layout =
    (value.find path).map layout
  prototypes : ∀ path fields prototype,
    (sanitizeObject sanitizeHtml value).find path = some (.object fields prototype) → prototype = none

/-- No object that is reached has a property of that name. -/
def ProtoFree (value : Value) : Prop :=
  ∀ path, Open shouldSkipSanitization path → value.find (path ++ [.key "__proto__"]) = none

section Kept
variable {sanitizeHtml : String → String} {value : Value} {path : List Step}

theorem ProtoFree.here (free : ProtoFree value) : value.own (.key "__proto__") = none := by
  simpa using free [] open_nil

theorem ProtoFree.child {step : Step} {child : Value} (free : ProtoFree value)
    (opened : Open shouldSkipSanitization [step]) (found : value.own step = some child) :
    ProtoFree child := by
  intro path later
  simpa [found] using free (step :: path) (open_cons.mpr ⟨opened, later⟩)

section Assigned
variable (absent : value.own (.key "__proto__") = none)
include absent

theorem own_sanitizeObject (step : Step) :
    (sanitizeObject sanitizeHtml value).own step =
      (value.own step).map (sanitizeStep sanitizeHtml step) := by
  cases value with
  | array items =>
      cases step with
      | index i =>
          rw [sanitizeObject, sanitizeItems_eq, Value.own, List.getElem?_map]
          rfl
      | key name => rfl
  | object fields prototype =>
      cases step with
      | index i => rfl
      | key name =>
          have lookups := Value.lookup_map
            (fun key value => sanitizeStep sanitizeHtml (.key key) value) fields name
          rw [sanitizeObject, assignAll, Value.own, Value.own, lookup_filter, sanitizeFields_eq, lookups]
          by_cases proto : name = "__proto__"
          · subst proto
            rw [if_pos rfl, show fields.lookup "__proto__" = none from absent]
            rfl
          · rw [if_neg proto]
  | string text =>
      rw [sanitizeObject_string]
      cases step <;> rfl
  | _ => cases step <;> rfl

theorem names_kept {fields : List (String × Value)} (same : ∃ prototype, value = .object fields prototype) :
    (sanitizeFields sanitizeHtml fields).filter (·.1 != "__proto__") =
      sanitizeFields sanitizeHtml fields := by
  obtain ⟨prototype, rfl⟩ := same
  rw [List.filter_eq_self, sanitizeFields_eq, List.forall_mem_map]
  intro field member
  rw [bne_comm]
  exact List.lookup_eq_none_iff.mp absent field member

theorem layout_sanitizeObject : layout (sanitizeObject sanitizeHtml value) = layout value := by
  cases value with
  | array items => rw [sanitizeObject, layout, sanitizeItems_eq, List.length_map]; rfl
  | object fields prototype =>
      rw [sanitizeObject, assignAll, layout, names_kept absent ⟨prototype, rfl⟩, sanitizeFields_eq,
        List.map_map]
      rfl
  | string text => rw [sanitizeObject_string]; rfl
  | _ => rfl

theorem prototype_sanitizeObject {fields : List (String × Value)} {prototype : Option Value}
    (same : sanitizeObject sanitizeHtml value = .object fields prototype) : prototype = none := by
  cases value with
  | object original inherited =>
      have lookups := Value.lookup_map
        (fun key value => sanitizeStep sanitizeHtml (.key key) value) original "__proto__"
      rw [sanitizeObject, assignAll, sanitizeFields_eq, lookups,
        show original.lookup "__proto__" = none from absent, Value.object.injEq] at same
      exact same.2.symm
  | string text =>
      rw [sanitizeObject_string] at same
      cases same
  | _ => cases same

end Assigned

theorem own_proto_of_layout (same : layout (sanitizeObject sanitizeHtml value) = layout value) :
    value.own (.key "__proto__") = none := by
  cases value with
  | object fields prototype =>
      rw [sanitizeObject, assignAll, layout, layout, Layout.object.injEq] at same
      have absent : "__proto__" ∉ fields.map Prod.fst := by
        rw [← same]
        simp
      rw [Value.own, List.lookup_eq_none_iff]
      intro field member
      rw [bne_iff_ne]
      rintro equal
      exact absent (List.mem_map.mpr ⟨field, member, equal.symm⟩)
  | _ => rfl

theorem find_sanitizeObject {step : Step} {child : Value} (absent : value.own (.key "__proto__") = none)
    (opened : Open shouldSkipSanitization [step]) (found : value.own step = some child)
    (path : List Step) : (sanitizeObject sanitizeHtml value).find (step :: path) =
      (sanitizeObject sanitizeHtml child).find path := by
  rw [Value.find_cons, own_sanitizeObject absent, found, Option.map_some, sanitizeStep_open opened]
  rfl

theorem kept_find (json : value.IsJson) (free : ProtoFree value) (path : List Step) :
    ((sanitizeObject sanitizeHtml value).find path).map layout = (value.find path).map layout ∧
    ∀ fields prototype,
      (sanitizeObject sanitizeHtml value).find path = some (.object fields prototype) →
        prototype = none := by
  induction path generalizing value with
  | nil =>
      constructor
      · exact congrArg some (layout_sanitizeObject free.here)
      · exact fun fields prototype same => prototype_sanitizeObject free.here (Option.some.inj same)
  | cons step path ih =>
      cases found : value.own step with
      | none =>
          rw [Value.find_cons, Value.find_cons, own_sanitizeObject free.here, found]
          exact ⟨rfl, by simp⟩
      | some child =>
          by_cases opened : Open shouldSkipSanitization [step]
          · rw [find_sanitizeObject free.here opened found, Value.find_cons, found]
            exact ih (json.own found) (free.child opened found)
          · -- the value of an exempt property is kept as it is
            have same : sanitizeStep sanitizeHtml step child = child := by
              cases step with
              | index i => exact absurd (open_index i) opened
              | key name => exact if_pos (by simpa using opened)
            rw [Value.find_cons, Value.find_cons, own_sanitizeObject free.here, found, Option.map_some,
              same]
            refine ⟨rfl, fun fields prototype here => ?_⟩
            cases (json.own found).find here
            rfl

theorem preserves_iff (json : value.IsJson) : Preserves sanitizeHtml value ↔ ProtoFree value := by
  constructor
  · rintro ⟨layouts, -⟩ path opened
    induction path generalizing value with
    | nil => simpa using own_proto_of_layout (Option.some.inj (layouts []))
    | cons step path ih =>
        obtain ⟨here, later⟩ := open_cons.mp opened
        have absent := own_proto_of_layout (Option.some.inj (layouts []))
        rw [List.cons_append, Value.find_cons]
        cases found : value.own step with
        | none => rfl
        | some child =>
            apply ih (json.own found) _ later
            intro path
            have same := layouts (step :: path)
            rwa [find_sanitizeObject absent here found, Value.find_cons, found] at same
  · intro free
    exact ⟨fun path => (kept_find json free path).1, fun path => (kept_find json free path).2⟩

end Kept

def adminBody : Value :=
  .object [("__proto__", .object [("admin", .literal ⟨"true", by simp [special]⟩)] none)] none

theorem adminBody_json : adminBody.IsJson := by
  apply Value.IsJson.object
  · simp
  · intro field member
    cases List.mem_singleton.mp member
    apply Value.IsJson.object
    · simp
    · intro field member
      cases List.mem_singleton.mp member
      exact .literal _

theorem preserves_iff_adminBody : Preserves escapeHtml adminBody ↔ ProtoFree adminBody :=
  preserves_iff adminBody_json

/-- The own property is gone, and what it said is inherited. -/
theorem admin_inherited :
    sanitizeObject escapeHtml adminBody =
      .object [] (some (.object [("admin", .literal ⟨"true", by simp [special]⟩)] none)) ∧
    ¬ Preserves escapeHtml adminBody := by
  constructor
  · rfl
  · rintro ⟨layouts, -⟩
    have same := layouts []
    simp [adminBody, sanitizeObject, sanitizeFields, assignAll, layout] at same

end Kanaka.Backend.RequestSanitizerMiddleware
