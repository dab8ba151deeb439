import Kanaka.Backend.AuthService
import Kanaka.Backend.UserService

/-! # `strategies/jwt.strategy.ts` and `guards/jwt.strategy.ts` -/

namespace Kanaka.Backend

/-- What a strategy gets of a signed payload until it expires. -/
def decoded (payload : JsValue) (iat exp : Int) : JsValue :=
  match payload.json with
  | .object fields => .object (fields ++ [("iat", .number iat), ("exp", .number exp)])
  | value => value

namespace JwtStrategy

def lowerCase (toLowerCase : String → String) : JsValue → Except String String
  | .string value => .ok (toLowerCase value)
  | .undefined => .error "Cannot read properties of undefined (reading 'toLowerCase')"
  | .null => .error "Cannot read properties of null (reading 'toLowerCase')"
  | _ => .error "toLowerCase is not a function"

inductive JwtError where
  | unauthorized (message : String)
  | error (message : String)

def roleNames : JsValue → Except JwtError (List JsValue)
  | .array roles => roles.mapM fun role => (role.get "name").mapError .error
  | roles => if roles.truthy then .error (.error "user.roles.map is not a function") else .ok []

section Strategies
variable (toLowerCase : String → String) (findOne : JsValue → Except String (Option User))

/-- The body of the `try` in `validate`. -/
def lookUp (payload : JsValue) : Except JwtError JsValue := do
  let sub ← (payload.get "sub").mapError .error
  let address ← (payload.get "address").mapError .error
  -- Find the user in the database
  match ← (findOne sub).mapError .error with
  | none => throw (.unauthorized "User not found")
  | some user =>
      let userAddress ← (user.object.get "address").mapError .error
      let stored ← (lowerCase toLowerCase userAddress).mapError .error
      let claimed ← (lowerCase toLowerCase address).mapError .error
      if stored ≠ claimed then throw (.unauthorized "Invalid token")
      -- Map user roles to strings
      let roles ← roleNames (.strings user.roles)
      let nonce ← (user.object.get "nonce").mapError .error
      return .object [("id", .number user.id), ("address", userAddress), ("nonce", nonce),
        ("roles", .array roles)]

/-- `validate` of the strategy in `strategies`; a rejection comes with its message. `findOne` asks
for a relation `roles`, which the entity does not have, and may throw. -/
def validate (payload : JsValue) : Except String JsValue :=
  match lookUp toLowerCase findOne payload with
  | .ok user => .ok user
  | .error (.unauthorized message) => .error message
  | .error (.error _) => .error "Authentication failed"

end Strategies

/-- `validate` of the strategy in `guards`. -/
def validateGuard (payload : JsValue) : Except String JsValue := do
  let sub ← payload.get "sub"
  let walletAddress ← payload.get "walletAddress"
  let roles ← payload.get "roles"
  return .object [("id", sub), ("walletAddress", walletAddress),
    ("roles", roles.or (.strings ["user"]))]

end JwtStrategy

end Kanaka.Backend
