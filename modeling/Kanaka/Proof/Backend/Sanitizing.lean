import Kanaka.Backend.RequestSanitizerMiddleware
import Kanaka.Json.Paths

/-! # What the sanitizer lets through -/

namespace Kanaka.Backend.RequestSanitizerMiddleware
open Json JsRegex

/-! ## Markup -/

theorem no_markup_of_test {parts : List (Text.Regex Char)} {text : String}
    (found : test (whole parts) text = true) (plain : ∀ part ∈ parts, part.reads '<' = false) :
    '<' ∉ text.toList := by
  intro member
  obtain ⟨part, inParts, reads⟩ := reads_of_test found '<' member
  rw [plain part inParts] at reads
  cases reads

theorem hexadecimal_plain (digits : Nat) : ∀ part ∈ hexadecimal digits, part.reads '<' = false := by
  simp only [hexadecimal, List.forall_mem_cons]
  exact ⟨rfl, rfl, by simp⟩

theorem jwtToken_plain : ∀ part ∈ jwtToken, part.reads '<' = false := by
  simp only [jwtToken, List.forall_mem_cons]
  exact ⟨rfl, rfl, rfl, rfl, rfl, by simp⟩

theorem no_markup_of_shortcut {text : String}
    (shortcut : isBlockchainData text = true ∨ isJwtToken text = true) : '<' ∉ text.toList := by
  rcases shortcut with blockchain | jwt
  · simp only [isBlockchainData, Bool.or_eq_true] at blockchain
    rcases blockchain with (address | hash) | signature
    · exact no_markup_of_test address (hexadecimal_plain 40)
    · exact no_markup_of_test hash (hexadecimal_plain 64)
    · exact no_markup_of_test signature (hexadecimal_plain 130)
  · exact no_markup_of_test jwt jwtToken_plain

section Places
variable {sanitizeHtml : String → String} {value child : Value} {step : Step} {path : List Step}

theorem no_markup_sanitizeString (clean : ∀ text, '<' ∉ (sanitizeHtml text).toList) (text : String) :
    '<' ∉ (sanitizeString sanitizeHtml text).toList := by
  unfold sanitizeString
  split
  · exact no_markup_of_shortcut (.inl ‹_›)
  · split
    · exact no_markup_of_shortcut (.inr ‹_›)
    · exact clean text

/-! ## What is found in a sanitized value -/

def sanitizeStep (sanitizeHtml : String → String) : Step → Value → Value
  | .index _, item => sanitizeObject sanitizeHtml item
  | .key name, value =>
      if shouldSkipSanitization name then value else sanitizeObject sanitizeHtml value

/-- Only an object is found where it was assigned to `__proto__`. -/
def assignable : Step → Value → Bool
  | .key name, value => name != "__proto__" || value.isObject
  | .index _, _ => true

theorem sanitizeItems_eq (items : List Value) :
    sanitizeItems sanitizeHtml items = items.map (sanitizeObject sanitizeHtml) := by
  induction items with
  | nil => rfl
  | cons item items ih => rw [sanitizeItems, ih, List.map_cons]

theorem sanitizeFields_eq (fields : List (String × Value)) : sanitizeFields sanitizeHtml fields =
    fields.map fun field => (field.1, sanitizeStep sanitizeHtml (.key field.1) field.2) := by
  induction fields with
  | nil => rfl
  | cons field fields ih => rw [sanitizeFields, ih, List.map_cons]; rfl

theorem lookup_filter {entries : List (String × Value)} {name other : String} :
    (entries.filter (·.1 != other)).lookup name =
      if name = other then none else entries.lookup name := by
  induction entries with
  | nil => simp
  | cons entry entries ih =>
      obtain ⟨key, value⟩ := entry
      rw [List.filter_cons, List.lookup_cons]
      by_cases kept : key = other
      · subst kept
        rw [bne_self_eq_false, if_neg Bool.false_ne_true, ih]
        by_cases same : name = key
        · rw [if_pos same, if_pos same]
        · rw [if_neg same, if_neg same, beq_false_of_ne same]
      · rw [if_pos (bne_iff_ne.mpr kept), List.lookup_cons, ih]
        by_cases same : name = key
        · subst same
          simp [kept]
        · rw [beq_false_of_ne same]

theorem get_assignAll (entries : List (String × Value)) (name : String) :
    (assignAll entries).get (.key name) =
      (entries.lookup name).filter (assignable (.key name)) := by
  rw [assignAll, Value.get, lookup_filter]
  by_cases proto : name = "__proto__"
  · subst proto
    rw [if_pos rfl, if_pos rfl, Option.none_or, Option.filter_filter]
    congr 1
    funext value
    cases here : value.isObject with
    | true => simp [assignable, here]
    | false => simp [assignable, here]
  · rw [if_neg proto, if_neg proto, Option.or_none]
    cases entries.lookup name with
    | none => rfl
    | some value => exact (Option.filter_some_pos (by simp [assignable, proto])).symm

theorem sanitizeObject_string (text : String) : sanitizeObject sanitizeHtml (.string text) =
    .string (if text = "" then text else sanitizeString sanitizeHtml text) := by
  unfold sanitizeObject
  split <;> rfl

theorem get_sanitizeObject (value : Value) (step : Step) :
    (sanitizeObject sanitizeHtml value).get step =
      ((value.own step).map (sanitizeStep sanitizeHtml step)).filter (assignable step) := by
  cases value with
  | array items =>
      cases step with
      | index i =>
          rw [sanitizeObject, sanitizeItems_eq]
          simp only [Value.get, Value.own, List.getElem?_map]
          cases items[i]? <;> rfl
      | key name => rfl
  | object fields prototype =>
      cases step with
      | index i => rfl
      | key name =>
          rw [sanitizeObject, get_assignAll, sanitizeFields_eq]
          congr 1
          exact Value.lookup_map (fun key value => sanitizeStep sanitizeHtml (.key key) value) fields name
  | string text =>
      rw [sanitizeObject_string]
      cases step <;> rfl
  | _ => cases step <;> rfl

theorem sanitizeStep_open (opened : Open shouldSkipSanitization [step]) (child : Value) :
    sanitizeStep sanitizeHtml step child = sanitizeObject sanitizeHtml child := by
  cases step with
  | index i => rfl
  | key name => exact if_neg (Bool.eq_false_iff.mp ((open_key name).mp opened))

theorem no_markup_at (clean : ∀ text, '<' ∉ (sanitizeHtml text).toList)
    (opened : Open shouldSkipSanitization path) {text : String}
    (leaf : (sanitizeObject sanitizeHtml value).read path = some (.string text)) :
    '<' ∉ text.toList := by
  induction path generalizing value with
  | nil =>
      have same : sanitizeObject sanitizeHtml value = .string text := Option.some.inj leaf
      cases value with
      | string original =>
          rw [sanitizeObject_string, Value.string.injEq] at same
          subst same
          split
          · rename_i empty
            simp [empty]
          · exact no_markup_sanitizeString clean original
      | _ => cases same
  | cons step path ih =>
      obtain ⟨here, later⟩ := open_cons.mp opened
      obtain ⟨child, found, leaf⟩ := Option.bind_eq_some_iff.mp leaf
      rw [get_sanitizeObject, Option.filter_eq_some_iff] at found
      obtain ⟨original, -, rfl⟩ := Option.map_eq_some_iff.mp found.1
      rw [sanitizeStep_open here] at leaf
      exact ih later leaf

/-- Neither sanitizing nor the shortcuts let markup through. -/
theorem no_markup (clean : ∀ text, '<' ∉ (sanitizeHtml text).toList) (value : Value) :
    (∀ path text, Open shouldSkipSanitization path →
      (sanitizeObject sanitizeHtml value).read path = some (.string text) → '<' ∉ text.toList) ∧
    ∀ text, isBlockchainData text = true ∨ isJwtToken text = true → '<' ∉ text.toList :=
  ⟨fun _ _ opened leaf => no_markup_at clean opened leaf, fun _ => no_markup_of_shortcut⟩

end Places

/-- A sanitizer that keeps all text, with the three characters escaped. -/
def escapeHtml (text : String) : String :=
  String.ofList (text.toList.flatMap fun c =>
    if c = '&' then "&amp;".toList
    else if c = '<' then "&lt;".toList
    else if c = '>' then "&gt;".toList
    else [c])

theorem escapeHtml_clean (text : String) : '<' ∉ (escapeHtml text).toList := by
  rw [escapeHtml, String.toList_ofList, List.mem_flatMap]
  rintro ⟨c, -, member⟩
  split_ifs at member with ampersand less greater
  · simp at member
  · simp at member
  · simp at member
  · exact less (List.mem_singleton.mp member).symm

def noteBody : Value := .object [("note", .string "1 < 2")] none

theorem no_markup_noteBody : '<' ∉ (escapeHtml "1 < 2").toList :=
  (no_markup escapeHtml_clean noteBody).1 [.key "note"] (escapeHtml "1 < 2") ((open_key _).mpr rfl) rfl

/-! ## Secrets -/

/-- One of the names, whatever the case of its letters. -/
def Listed (name : String) : Prop :=
  ∃ field ∈ sensitiveFields, toLowerCase field = toLowerCase name

/-- The names that are listed with a capital are never found. -/
theorem shouldSkipSanitization_iff (name : String) : shouldSkipSanitization name = true ↔
    toLowerCase name ∈ ["password", "mnemonic", "secret", "token", "signature", "hash", "address",
      "nonce"] := by
  have confirmation : toLowerCase name ≠ "passwordConfirmation" := toLowerCase_ne 'C' rfl (by simp)
  have current : toLowerCase name ≠ "currentPassword" := toLowerCase_ne 'P' rfl (by simp)
  have new : toLowerCase name ≠ "newPassword" := toLowerCase_ne 'P' rfl (by simp)
  have privateKey : toLowerCase name ≠ "privateKey" := toLowerCase_ne 'K' rfl (by simp)
  simp [shouldSkipSanitization, sensitiveFields, confirmation, current, new, privateKey]

/-- What the exemption is for: a listed property that is reached keeps its value. -/
def Keeps (sanitizeHtml : String → String) (value : Value) : Prop :=
  ∀ path name found, Open shouldSkipSanitization path →
    value.find (path ++ [.key name]) = some found → Listed name →
      (sanitizeObject sanitizeHtml value).read (path ++ [.key name]) = some found

/-- No string that is reached in the value is changed, and nothing is named `__proto__`. -/
def Clean (sanitizeHtml : String → String) (value : Value) : Prop :=
  ∀ path, Open shouldSkipSanitization path →
    (∀ text, value.find path = some (.string text) →
      text = "" ∨ sanitizeString sanitizeHtml text = text) ∧
    value.find (path ++ [.key "__proto__"]) = none

/-- Every listed property that is reached is found by its name in lower case, or is clean. -/
def ListedLower (sanitizeHtml : String → String) (value : Value) : Prop :=
  ∀ path name found, Open shouldSkipSanitization path →
    value.find (path ++ [.key name]) = some found → Listed name →
      shouldSkipSanitization name = true ∨ Clean sanitizeHtml found

section Kept
variable {sanitizeHtml : String → String} {value : Value} {path : List Step}

end Kept

end Kanaka.Backend.RequestSanitizerMiddleware
