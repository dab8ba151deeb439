import Kanaka.Backend.ErrorHandler
import Kanaka.Backend.JsRegex
import Kanaka.Backend.JsText
import Kanaka.Json.Value

/-! # `sensitive-data.filter.ts` -/

namespace Kanaka.Backend

/-- The patterns by name, as what replaces their matches, and the replacements. -/
structure SensitiveDataFilter where
  patterns : List (String × (String → String → String))
  replacements : List (String × String)

namespace SensitiveDataFilter
open Json JsRegex

/-- `/eyJ[a-zA-Z0-9_-]{5,}\.eyJ[a-zA-Z0-9_-]{5,}\.[a-zA-Z0-9_-]{5,}/g` -/
def jwt : Text.Regex Char :=
  let part := atLeast 5 (any false (oneOf "a-zA-Z0-9_-"))
  sequence [word false "eyJ", part, word false ".eyJ", part, word false ".", part]

/-- `["']?` -/
def quotes : Text.Regex Char := optional (any false (oneOf "\"'"))

/-- What follows the name of a field: `[=:]\s*["']?`, a value, and `["']?`. -/
def assigned (value : Text.Regex Char) : List (Text.Regex Char) :=
  [any true (oneOf "=:"), star (any true space), quotes, value, quotes]

/-- `/api[_-]?key[=:]\s*["']?([a-zA-Z0-9]{8,})["']?/gi` -/
def apiKey : Text.Regex Char :=
  sequence ([word true "api", optional (any true (oneOf "_-")), word true "key"] ++
    assigned (atLeast 8 (any true (oneOf "a-zA-Z0-9"))))

/-- `/[a-zA-Z0-9._%+-]+@[a-zA-Z0-9.-]+\.[a-zA-Z]{2,}/g` -/
def email : Text.Regex Char :=
  sequence [atLeast 1 (any false (oneOf "a-zA-Z0-9._%+-")), word false "@",
    atLeast 1 (any false (oneOf "a-zA-Z0-9.-")), word false ".",
    atLeast 2 (any false (oneOf "a-zA-Z"))]

/-- `/password[=:]\s*["']?([^"'&\s]{3,})["']?/gi` -/
def password : Text.Regex Char :=
  sequence (word true "password" ::
    assigned (atLeast 3 (except true fun c => oneOf "\"'&" c || space c)))

/-- `/private[_-]?key[=:]\s*["']?([a-fA-F0-9]{32,})["']?/gi` -/
def privateKey : Text.Regex Char :=
  sequence ([word true "private", optional (any true (oneOf "_-")), word true "key"] ++
    assigned (atLeast 32 (any true (oneOf "a-fA-F0-9"))))

/-- `/mnemonic[=:]\s*["']?([a-z\s]{12,})["']?/gi` -/
def mnemonic : Text.Regex Char :=
  sequence (word true "mnemonic" ::
    assigned (atLeast 12 (any true fun c => oneOf "a-z" c || space c)))

/-- `/\b(?:\d[ -]*?){13,16}\b/g` -/
def creditCard : Text.Regex Char :=
  sequence [wordBoundary,
    .many (.seq (any false digit) (.many (any false (oneOf " -")) 0 none true)) 13 (some 16) false,
    wordBoundary]

/-- `/0x[a-fA-F0-9]{130}/g` -/
def signature : Text.Regex Char :=
  sequence [word false "0x", exactly 130 (any false (oneOf "a-fA-F0-9"))]

/-- `/\b(?:[0-9]{1,3}\.){3}[0-9]{1,3}\b/g` -/
def ipAddress : Text.Regex Char :=
  let number := .many (any false (oneOf "0-9")) 1 (some 3) false
  sequence [wordBoundary, exactly 3 (.seq number (word false ".")), number, wordBoundary]

/-- `/(https?:\/\/[^\s"'<>]+)/g` -/
def url : Text.Regex Char :=
  sequence [word false "http", optional (word false "s"), word false "://",
    atLeast 1 (except false fun c => space c || oneOf "\"'<>" c)]

/-- The filter that the configuration adds no patterns to. -/
def builtIn : SensitiveDataFilter where
  patterns := [("jwt", replace jwt), ("apiKey", replace apiKey), ("email", replace email),
    ("password", replace password), ("privateKey", replace privateKey),
    ("mnemonic", replace mnemonic), ("creditCard", replace creditCard),
    ("signature", replace signature), ("ipAddress", replace ipAddress), ("url", replace url)]
  replacements := [("jwt", "[REDACTED_JWT]"), ("apiKey", "api_key: [REDACTED_API_KEY]"),
    ("email", "[REDACTED_EMAIL]"), ("password", "password: [REDACTED]"),
    ("privateKey", "private_key: [REDACTED]"), ("mnemonic", "mnemonic: [REDACTED]"),
    ("creditCard", "[REDACTED_CARD]"), ("signature", "[REDACTED_SIGNATURE]"),
    ("ipAddress", "[REDACTED_IP]"), ("url", "[REDACTED_URL]")]

def sensitiveFields : List String :=
  ["password", "passwordConfirmation", "currentPassword", "newPassword", "privateKey", "mnemonic",
    "secret", "token", "apiKey", "api_key", "jwt", "accessToken", "refreshToken", "authorization",
    "cookie", "ssn", "creditCard", "cvv"]

variable (filter : SensitiveDataFilter)

def filterString (input : String) : String :=
  if input = "" then input
  else filter.patterns.foldl (fun result (key, replace) =>
    replace result ((orElse (filter.replacements.lookup key) (some "***")).getD "")) input

def isSensitive (key : String) : Bool := sensitiveFields.contains (toLowerCase key)

mutual

def filterObject : Value → Value
  | .array items => .array (filterItems items)
  | .object fields _ => .object (filterFields fields) none
  | value => value

def filterItems : List Value → List Value
  | [] => []
  | item :: items => filterObject item :: filterItems items

def filterFields : List (String × Value) → List (String × Value)
  | [] => []
  | (key, value) :: fields =>
      let nested := filterObject value
      let filtered := match value with
        | .string text => .string (filter.filterString text)
        | _ => nested
      (key, if isSensitive key then .string "[REDACTED]" else filtered) :: filterFields fields

end

end SensitiveDataFilter

end Kanaka.Backend
