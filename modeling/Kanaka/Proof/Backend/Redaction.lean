import Kanaka.Backend.SensitiveDataFilter
import Kanaka.Json.Paths

/-! # What the log filter leaves of a value -/

namespace Kanaka.Backend.SensitiveDataFilter
open Json

def redacted : Value := .string "[REDACTED]"

def filterProperty (filter : SensitiveDataFilter) : Value → Value
  | .string text => .string (filter.filterString text)
  | value => filter.filterObject value

def filterStep (filter : SensitiveDataFilter) : Step → Value → Value
  | .index _, item => filter.filterObject item
  | .key name, value => if isSensitive name then redacted else filter.filterProperty value

section Places
variable {filter : SensitiveDataFilter} {value found : Value} {path : List Step} {step : Step}

theorem filterItems_eq (items : List Value) : filter.filterItems items = items.map filter.filterObject := by
  induction items with
  | nil => rfl
  | cons item items ih => rw [filterItems, ih, List.map_cons]

theorem filterFields_eq (fields : List (String × Value)) : filter.filterFields fields =
    fields.map fun field => (field.1, filter.filterStep (.key field.1) field.2) := by
  induction fields with
  | nil => rfl
  | cons field fields ih =>
      obtain ⟨key, value⟩ := field
      unfold filterFields
      rw [ih, List.map_cons]
      cases value <;> rfl

theorem own_filterObject (value : Value) (step : Step) :
    (filter.filterObject value).own step = (value.own step).map (filter.filterStep step) := by
  cases value with
  | array items =>
      cases step with
      | index i =>
          rw [filterObject, Value.own, filterItems_eq, List.getElem?_map]
          rfl
      | key name => rfl
  | object fields prototype =>
      cases step with
      | index i => rfl
      | key name =>
          rw [filterObject, Value.own, Value.own, filterFields_eq]
          exact Value.lookup_map (fun key value => filter.filterStep (.key key) value) fields name
  | _ => cases step <;> rfl

theorem own_filterStep (opened : Open isSensitive [step]) (value : Value) (next : Step) :
    (filter.filterStep step value).own next = (filter.filterObject value).own next := by
  cases step with
  | index i => rfl
  | key name =>
      rw [filterStep, (open_key name).mp opened]
      cases value <;> rfl

theorem find_filterObject (opened : Open isSensitive path) (value : Value) (step : Step) :
    (filter.filterObject value).find (path ++ [step]) =
      (value.find (path ++ [step])).map (filter.filterStep step) := by
  induction path generalizing value with
  | nil => simp [own_filterObject]
  | cons first path ih =>
      obtain ⟨here, later⟩ := open_cons.mp opened
      rw [List.cons_append, Value.find_cons, Value.find_cons, own_filterObject]
      cases value.own first with
      | none => rfl
      | some child =>
          show (filter.filterStep first child).find (path ++ [step]) = _
          rw [Value.find_congr (own_filterStep here child)]
          exact ih later child

theorem open_of_found (reached : (filter.filterObject value).find (path ++ [step]) = some found) :
    Open isSensitive path := by
  induction path generalizing value with
  | nil => exact open_nil
  | cons first path ih =>
      rw [List.cons_append, Value.find_cons, own_filterObject, Option.bind_eq_some_iff] at reached
      obtain ⟨filtered, here, later⟩ := reached
      obtain ⟨child, -, rfl⟩ := Option.map_eq_some_iff.mp here
      have opened : Open isSensitive [first] := by
        cases first with
        | index i => exact open_index i
        | key name =>
            rw [open_key, ← Bool.not_eq_true]
            intro sensitive
            rw [filterStep, if_pos sensitive] at later
            cases path <;> cases later
      rw [Value.find_congr (own_filterStep opened child)] at later
      exact open_cons.mpr ⟨opened, ih later⟩

end Places

/-! ## Sensitive fields -/

/-- One of the names, whatever the case of its letters. -/
def Listed (name : String) : Prop :=
  ∃ field ∈ sensitiveFields, toLowerCase field = toLowerCase name

/-- The names that are listed with a capital are never found. -/
theorem isSensitive_iff (name : String) : isSensitive name = true ↔ toLowerCase name ∈
    ["password", "mnemonic", "secret", "token", "api_key", "jwt", "authorization", "cookie", "ssn",
      "cvv"] := by
  have confirmation : toLowerCase name ≠ "passwordConfirmation" := toLowerCase_ne 'C' rfl (by simp)
  have current : toLowerCase name ≠ "currentPassword" := toLowerCase_ne 'P' rfl (by simp)
  have new : toLowerCase name ≠ "newPassword" := toLowerCase_ne 'P' rfl (by simp)
  have privateKey : toLowerCase name ≠ "privateKey" := toLowerCase_ne 'K' rfl (by simp)
  have apiKey : toLowerCase name ≠ "apiKey" := toLowerCase_ne 'K' rfl (by simp)
  have access : toLowerCase name ≠ "accessToken" := toLowerCase_ne 'T' rfl (by simp)
  have refresh : toLowerCase name ≠ "refreshToken" := toLowerCase_ne 'T' rfl (by simp)
  have card : toLowerCase name ≠ "creditCard" := toLowerCase_ne 'C' rfl (by simp)
  simp [isSensitive, sensitiveFields, confirmation, current, new, privateKey, apiKey, access, refresh,
    card]

/-- What the filter is for: a listed property is redacted, wherever it is. -/
def Redacts (filter : SensitiveDataFilter) (value : Value) : Prop :=
  ∀ path name found, (filter.filterObject value).find (path ++ [.key name]) = some found →
    Listed name → found = redacted

/-- Every listed property is found by its name in lower case, or is a string that the patterns
redact as a whole. -/
def ListedLower (filter : SensitiveDataFilter) (value : Value) : Prop :=
  ∀ path name found, Open isSensitive path → value.find (path ++ [.key name]) = some found →
    Listed name → isSensitive name = true ∨
      ∃ text, found = .string text ∧ filter.filterString text = "[REDACTED]"

theorem redacts_iff (filter : SensitiveDataFilter) (value : Value) :
    filter.Redacts value ↔ filter.ListedLower value := by
  constructor
  · intro redacts path name found opened reached listed
    have filtered := @find_filterObject filter path opened value (.key name)
    rw [reached] at filtered
    have same := redacts path name _ filtered listed
    by_cases sensitive : isSensitive name = true
    · exact .inl sensitive
    · rw [filterStep, if_neg sensitive] at same
      right
      cases found with
      | string text => exact ⟨text, rfl, Value.string.inj same⟩
      | _ => cases same
  · intro condition path name found reached listed
    have opened := open_of_found reached
    rw [find_filterObject opened, Option.map_eq_some_iff] at reached
    obtain ⟨original, reached, rfl⟩ := reached
    rcases condition path name original opened reached listed with sensitive | ⟨text, rfl, same⟩
    · exact if_pos sensitive
    · by_cases sensitive : isSensitive name = true
      · exact if_pos sensitive
      · rw [filterStep, if_neg sensitive, filterProperty, same]
        rfl

def cardLog : Value := .object [("creditCard", .literal ⟨"4111111111111111", by simp [special]⟩)] none

theorem creditCard_kept : ¬builtIn.Redacts cardLog := by
  intro redacts
  have kept := redacts [] "creditCard" _ rfl ⟨"creditCard", by simp [sensitiveFields], rfl⟩
  cases kept

/-! ## Strings -/

/-- What the shape of a value is made of, at one place. -/
inductive Shape where
  | undefined
  | literal (text : Literal)
  | string
  | array (length : Nat)
  | object (names : List String)

def shape : Value → Shape
  | .undefined => .undefined
  | .literal text => .literal text
  | .string _ => .string
  | .array items => .array items.length
  | .object fields _ => .object (fields.map Prod.fst)

/-- What the filter is for: the shape stays, and every string that is not redacted is filtered. -/
def Filters (filter : SensitiveDataFilter) (value : Value) : Prop :=
  (∀ path, Open isSensitive path →
    ((filter.filterObject value).find path).map shape = (value.find path).map shape) ∧
  ∀ path text, Open isSensitive path → value.find path = some (.string text) →
    (filter.filterObject value).find path = some (.string (filter.filterString text))

def ItemsUnchanged (filter : SensitiveDataFilter) (value : Value) : Prop :=
  ∀ path i text, Open isSensitive path → value.find (path ++ [.index i]) = some (.string text) →
    filter.filterString text = text

section Strings
variable {filter : SensitiveDataFilter} {value : Value}

theorem shape_filterObject (value : Value) : shape (filter.filterObject value) = shape value := by
  cases value with
  | array items => rw [filterObject, shape, filterItems_eq, List.length_map]; rfl
  | object fields prototype => rw [filterObject, shape, filterFields_eq, List.map_map]; rfl
  | _ => rfl

theorem shape_filterStep {step : Step} (opened : Open isSensitive [step]) (value : Value) :
    shape (filter.filterStep step value) = shape value := by
  cases step with
  | index i => exact shape_filterObject value
  | key name =>
      rw [filterStep, (open_key name).mp opened]
      cases value with
      | string text => rfl
      | _ => exact shape_filterObject _

theorem shape_find {path : List Step} (opened : Open isSensitive path) :
    ((filter.filterObject value).find path).map shape = (value.find path).map shape := by
  rcases List.eq_nil_or_concat path with rfl | ⟨path, step, rfl⟩
  · exact congrArg some (shape_filterObject value)
  · rw [List.concat_eq_append] at opened ⊢
    obtain ⟨before, last⟩ := (open_append path [step]).mp opened
    rw [find_filterObject before, Option.map_map]
    congr 1
    funext child
    exact shape_filterStep last child

theorem filters_iff (filter : SensitiveDataFilter) (container : ∀ text, value ≠ .string text) :
    filter.Filters value ↔ filter.ItemsUnchanged value := by
  constructor
  · rintro ⟨-, filtered⟩ path i text opened found
    have item := filtered (path ++ [.index i]) text ((open_append _ _).mpr ⟨opened, open_index i⟩) found
    rw [find_filterObject opened, found] at item
    exact (Value.string.inj (Option.some.inj item)).symm
  · intro unchanged
    refine ⟨fun path opened => shape_find opened, fun path text opened found => ?_⟩
    rcases List.eq_nil_or_concat path with rfl | ⟨path, step, rfl⟩
    · exact absurd (Option.some.inj found) (container text)
    · rw [List.concat_eq_append] at opened found ⊢
      obtain ⟨before, last⟩ := (open_append path [step]).mp opened
      rw [find_filterObject before, found, Option.map_some, Option.some.injEq]
      cases step with
      | index i =>
          rw [unchanged path i text before found]
          rfl
      | key name =>
          rw [filterStep, (open_key name).mp last]
          rfl

end Strings

def emailLog : Value := .array [.string "a@b.co"]

theorem filters_iff_emailLog : builtIn.Filters emailLog ↔ builtIn.ItemsUnchanged emailLog :=
  filters_iff builtIn (by simp [emailLog])

theorem email_kept : ¬builtIn.Filters emailLog := by
  rintro ⟨-, filtered⟩
  have kept := filtered [.index 0] "a@b.co" (open_index 0) rfl
  have same : "a@b.co" = builtIn.filterString "a@b.co" := Value.string.inj (Option.some.inj kept)
  revert same
  decide +kernel

end Kanaka.Backend.SensitiveDataFilter
