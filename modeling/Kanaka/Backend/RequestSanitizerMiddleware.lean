import Kanaka.Backend.JsRegex
import Kanaka.Backend.JsText
import Kanaka.Json.Value

/-! # `request-sanitizer.middleware.ts` -/

namespace Kanaka.Backend.RequestSanitizerMiddleware
open Json JsRegex

/-- `/^0x[a-fA-F0-9]{40}$/`, for any number of digits. -/
def hexadecimal (digits : Nat) : List (Text.Regex Char) :=
  [word false "0x", exactly digits (any false (oneOf "a-fA-F0-9"))]

def isBlockchainData (text : String) : Bool :=
  -- an Ethereum address, a transaction hash, a signature
  test (whole (hexadecimal 40)) text || test (whole (hexadecimal 64)) text ||
    test (whole (hexadecimal 130)) text

/-- `/^[A-Za-z0-9-_=]+\.[A-Za-z0-9-_=]+\.?[A-Za-z0-9-_.+/=]*$/`, without the anchors. -/
def jwtToken : List (Text.Regex Char) :=
  [atLeast 1 (any false (oneOf "A-Za-z0-9-_=")), word false ".",
    atLeast 1 (any false (oneOf "A-Za-z0-9-_=")), optional (word false "."),
    star (any false (oneOf "A-Za-z0-9-_.+/="))]

def isJwtToken (text : String) : Bool := test (whole jwtToken) text

def sensitiveFields : List String :=
  ["password", "passwordConfirmation", "currentPassword", "newPassword", "privateKey", "mnemonic",
    "secret", "token", "signature", "hash", "address", "nonce"]

def shouldSkipSanitization (key : String) : Bool := sensitiveFields.contains (toLowerCase key)

/-- `{}` after these assignments, whose names are distinct: an object or null that is assigned to
`__proto__` becomes the prototype, and any other value is lost there. -/
def assignAll (entries : List (String × Value)) : Value :=
  .object (entries.filter (·.1 != "__proto__"))
    ((entries.lookup "__proto__").filter fun value => value.isObject || value.isNull)

/-! `sanitizeHtml` is the package's, with no tags allowed. -/

variable (sanitizeHtml : String → String)

def sanitizeString (text : String) : String :=
  if isBlockchainData text then text
  else if isJwtToken text then text
  else sanitizeHtml text

mutual

def sanitizeObject : Value → Value
  | .array items => .array (sanitizeItems items)
  | .object fields _ => assignAll (sanitizeFields fields)
  | .string text => if text = "" then .string text else .string (sanitizeString sanitizeHtml text)
  | value => value

def sanitizeItems : List Value → List Value
  | [] => []
  | item :: items => sanitizeObject item :: sanitizeItems items

def sanitizeFields : List (String × Value) → List (String × Value)
  | [] => []
  | (key, value) :: fields =>
      (key, if shouldSkipSanitization key then value else sanitizeObject value) ::
        sanitizeFields fields

end

end Kanaka.Backend.RequestSanitizerMiddleware
