import Mathlib.Logic.Function.Basic

/-! # Objects that one service writes and another one reads -/

namespace Kanaka.Backend

/-- A `date` is a `Date` or the text that JSON makes of it. -/
inductive JsValue where
  | undefined
  | null
  | bool (value : Bool)
  | number (value : Int)
  | string (value : String)
  | date (ms : Int)
  | array (items : List JsValue)
  | object (fields : List (String × JsValue))

namespace JsValue

/-- `value.field`, for fields that only plain objects have. -/
def get : JsValue → String → Except String JsValue
  | .undefined, field =>
      .error ("Cannot read properties of undefined (reading '" ++ field ++ "')")
  | .null, field => .error ("Cannot read properties of null (reading '" ++ field ++ "')")
  | .object fields, field => .ok ((fields.lookup field).getD .undefined)
  | _, _ => .ok .undefined

def truthy : JsValue → Bool
  | .undefined => false
  | .null => false
  | .bool value => value
  | .number value => value ≠ 0
  | .string value => value ≠ ""
  | _ => true

def or (value other : JsValue) : JsValue := if value.truthy then value else other

def isString : JsValue → String → Bool
  | .string value, text => value = text
  | _, _ => false

def strings (items : List String) : JsValue := .array (items.map .string)

mutual

/-- What `JSON.parse` makes of what `JSON.stringify` makes of a value. -/
def json : JsValue → JsValue
  | .array items => .array (jsonItems items)
  | .object fields => .object (jsonFields fields)
  | value => value

def jsonItems : List JsValue → List JsValue
  | [] => []
  | .undefined :: items => .null :: jsonItems items
  | item :: items => item.json :: jsonItems items

def jsonFields : List (String × JsValue) → List (String × JsValue)
  | [] => []
  | (_, .undefined) :: fields => jsonFields fields
  | (field, value) :: fields => (field, value.json) :: jsonFields fields

end

end JsValue

end Kanaka.Backend
