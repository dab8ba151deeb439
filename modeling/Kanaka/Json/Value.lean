import Kanaka.Json.Balanced

/-! # Values that JSON tells, and their texts -/

namespace Kanaka.Json

/-- The text of a number, of a boolean or of null. -/
structure Literal where
  text : String
  plain : ∀ c ∈ text.toList, c ∉ special
deriving DecidableEq

/-- A value of the language that is made of JSON's. The fields of an object are its own; a
`prototype` is there when one was set, be it null. -/
inductive Value where
  | undefined
  | literal (text : Literal)
  | string (value : String)
  | array (items : List Value)
  | object (fields : List (String × Value)) (prototype : Option Value)

namespace Value

def null : Value := .literal ⟨"null", by simp [special]⟩

/-- `typeof value === 'object' && value !== null` -/
def isObject : Value → Bool
  | .array _ | .object _ _ => true
  | _ => false

def isNull : Value → Bool
  | .literal text => text.text = "null"
  | _ => false

theorem tree_induction {motive : Value → Prop} (undefined : motive .undefined)
    (literal : ∀ text, motive (.literal text)) (string : ∀ value, motive (.string value))
    (array : ∀ items, (∀ item ∈ items, motive item) → motive (.array items))
    (object : ∀ fields prototype, (∀ field ∈ fields, motive field.2) →
      (∀ value ∈ prototype, motive value) → motive (.object fields prototype)) (value : Value) :
    motive value :=
  @Value.rec motive (fun items => ∀ item ∈ items, motive item)
    (fun fields => ∀ field ∈ fields, motive field.2)
    (fun prototype => ∀ value ∈ prototype, motive value) (fun field => motive field.2)
    undefined literal string array object
    (by simp) (fun _ _ first rest => List.forall_mem_cons.mpr ⟨first, rest⟩)
    (by simp) (fun _ _ first rest => List.forall_mem_cons.mpr ⟨first, rest⟩)
    (by simp) (by simp) (fun _ _ second => second) value

/-- What `JSON.parse` makes. -/
inductive IsJson : Value → Prop where
  | literal (text) : IsJson (.literal text)
  | string (value) : IsJson (.string value)
  | array {items} : (∀ item ∈ items, IsJson item) → IsJson (.array items)
  | object {fields} : (fields.map Prod.fst).Nodup → (∀ field ∈ fields, IsJson field.2) →
      IsJson (.object fields none)

/-! ## `JSON.stringify` -/

/-- A character within a string. -/
def escape (c : Char) : List Char :=
  if c = '"' then ['\\', '"']
  else if c = '\\' then ['\\', '\\']
  else if c = '\x08' then ['\\', 'b']
  else if c = '\t' then ['\\', 't']
  else if c = '\n' then ['\\', 'n']
  else if c = '\x0c' then ['\\', 'f']
  else if c = '\r' then ['\\', 'r']
  else if c.toNat < 32 then
    ['\\', 'u', '0', '0', Nat.digitChar (c.toNat / 16), Nat.digitChar (c.toNat % 16)]
  else [c]

def quote (value : String) : List Char :=
  '"' :: (value.toList.flatMap escape ++ ['"'])

mutual

/-- An undefined value has no text of its own, and is null in an array. -/
def text : Value → List Char
  | .undefined => "null".toList
  | .literal text => text.text.toList
  | .string value => quote value
  | .array items => '[' :: ([','].intercalate (texts items) ++ [']'])
  | .object fields _ => '{' :: ([','].intercalate (members fields) ++ ['}'])

def texts : List Value → List (List Char)
  | [] => []
  | item :: items => item.text :: texts items

def members : List (String × Value) → List (List Char)
  | [] => []
  | (_, .undefined) :: fields => members fields
  | (name, value) :: fields => (quote name ++ ':' :: value.text) :: members fields

end

def stringify (value : Value) : String := String.ofList value.text

/-! ### The text is balanced -/

theorem escaped_hex (n : Nat) (bound : n < 16) : Escaped [Nat.digitChar n] := by
  apply Escaped.plain
  · revert n; decide
  · revert n; decide

theorem escaped_escape (c : Char) : Escaped (escape c) := by
  unfold escape
  split_ifs with quote backslash _ _ _ _ _ control
  iterate 7 exact .pair _
  · have zero : Escaped ['0'] := .plain (by decide) (by decide)
    exact .append (.pair 'u') (.append zero (.append zero
      (.append (escaped_hex _ (by omega)) (escaped_hex _ (by omega)))))
  · exact .plain quote backslash

theorem escaped_flatMap (value : List Char) : Escaped (value.flatMap escape) := by
  induction value with
  | nil => exact .nil
  | cons c value ih => exact .append (escaped_escape c) ih

theorem balanced_quote (value : String) : Balanced (quote value) :=
  .quoted (escaped_flatMap value.toList)

theorem balanced_members {fields : List (String × Value)}
    (balanced : ∀ field ∈ fields, Balanced field.2.text) : ∀ text ∈ members fields, Balanced text := by
  induction fields with
  | nil => simp [members]
  | cons field fields ih =>
      obtain ⟨name, value⟩ := field
      rw [List.forall_mem_cons] at balanced
      have rest := ih balanced.2
      have first : Balanced (quote name ++ ':' :: value.text) :=
        .append (balanced_quote name) (.append (.plain (by decide) : Balanced [':']) balanced.1)
      cases value <;> simpa [members, first] using rest

theorem texts_eq (items : List Value) : texts items = items.map text := by
  induction items with
  | nil => rfl
  | cons item items ih => rw [texts, ih, List.map_cons]

theorem balanced_text (value : Value) : Balanced value.text := by
  induction value using tree_induction with
  | undefined => exact .of_plain (by simp [text, special])
  | literal text => exact .of_plain text.plain
  | string value => exact balanced_quote value
  | array items ih =>
      apply Balanced.brackets
      apply Balanced.intercalate (.plain (by decide))
      rw [texts_eq]
      simpa using ih
  | object fields prototype ih => exact .braces (.intercalate (.plain (by decide)) (balanced_members ih))

theorem bracketed_object (fields : List (String × Value)) (prototype : Option Value) :
    Bracketed (object fields prototype).text :=
  ⟨'{', _, '}', .intercalate (.plain (by decide))
    (balanced_members fun field _ => balanced_text field.2), .inl ⟨rfl, rfl⟩, rfl⟩

end Value

end Kanaka.Json
