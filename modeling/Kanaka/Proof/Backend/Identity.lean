import Kanaka.Backend.JwtStrategy

/-! # Who the bearer of a token is -/

namespace Kanaka.Backend.JwtStrategy

inductive LoginPath where
  | authService (walletType : String)
  | userService
deriving DecidableEq

def LoginPath.payload (user : User) : LoginPath → JsValue
  | .authService walletType => AuthService.payload user user.walletAddress walletType
  | .userService => UserService.payload user

inductive Validator where
  | strategies
  | guards
deriving DecidableEq

def Validator.validate (toLowerCase : String → String)
    (findOne : JsValue → Except String (Option User)) (payload : JsValue) :
    Validator → Except String JsValue
  | .strategies => JwtStrategy.validate toLowerCase findOne payload
  | .guards => validateGuard payload

/-- The payload is accepted and yields the user, in the shape that the controllers read. -/
def Yields (user : User) (result : Except String JsValue) : Prop :=
  ∃ identity, result = .ok identity ∧ identity.get "id" = .ok (.number user.id) ∧
    identity.get "walletAddress" = .ok (.string user.walletAddress) ∧
    identity.get "roles" = .ok (.strings user.roles)

theorem jsonItems_strings (items : List String) :
    JsValue.jsonItems (items.map .string) = items.map .string := by
  induction items with
  | nil => rfl
  | cons item items ih => simp [JsValue.jsonItems, JsValue.json, ih]

/-- The entity has no address of that name, so that nobody is accepted. -/
theorem validate_rejects (toLowerCase : String → String)
    (findOne : JsValue → Except String (Option User)) (payload : JsValue) :
    ∃ message, validate toLowerCase findOne payload = .error message := by
  unfold validate lookUp
  cases payload.get "sub" with
  | error message => exact ⟨_, rfl⟩
  | ok sub =>
      cases payload.get "address" with
      | error message => exact ⟨_, rfl⟩
      | ok address =>
          simp only [Except.mapError, bind, Except.bind]
          cases findOne sub with
          | error message => exact ⟨_, rfl⟩
          | ok user => cases user <;> exact ⟨_, rfl⟩

theorem decoded_authService (user : User) (walletType : String) (iat exp : Int) :
    decoded (AuthService.payload user user.walletAddress walletType) iat exp =
      .object [("sub", .number user.id), ("address", .string user.walletAddress),
        ("walletType", .string walletType), ("roles", .strings user.roles), ("iat", .number iat),
        ("exp", .number exp)] := by
  simp [decoded, AuthService.payload, JsValue.json, JsValue.jsonFields, JsValue.strings,
    jsonItems_strings]

theorem decoded_userService (user : User) (iat exp : Int) :
    decoded (UserService.payload user) iat exp =
      .object [("sub", .number user.id), ("walletAddress", .string user.walletAddress),
        ("roles", .strings user.roles), ("iat", .number iat), ("exp", .number exp)] := by
  simp [decoded, UserService.payload, JsValue.json, JsValue.jsonFields, JsValue.strings, JsValue.or,
    JsValue.truthy, jsonItems_strings]

/-- Only the pair that was made for each other carries the identity over. -/
theorem yields_iff (toLowerCase : String → String)
    (findOne : JsValue → Except String (Option User)) (user : User) (path : LoginPath)
    (validator : Validator) (iat exp : Int) :
    Yields user (validator.validate toLowerCase findOne (decoded (path.payload user) iat exp)) ↔
      path = .userService ∧ validator = .guards := by
  cases validator with
  | strategies =>
      obtain ⟨message, rejected⟩ :=
        validate_rejects toLowerCase findOne (decoded (path.payload user) iat exp)
      simp [Yields, Validator.validate, rejected]
  | guards =>
      cases path with
      | authService walletType =>
          simp only [Validator.validate, LoginPath.payload, decoded_authService]
          constructor
          · rintro ⟨identity, accepted, -, address, -⟩
            cases accepted
            have absent : (.ok .undefined : Except String JsValue) =
              .ok (.string user.walletAddress) := address
            cases absent
          · rintro ⟨⟨⟩, -⟩
      | userService =>
          simp only [Validator.validate, LoginPath.payload, decoded_userService, and_self, iff_true]
          exact ⟨_, rfl, rfl, rfl, rfl⟩

def alice : User := ⟨1, "0xa", .ethereum, "0x01", ["user", "admin"]⟩

/-- The guards' strategy does not find the address in the token of the authentication service. -/
theorem address_lost :
    ¬ ∀ validator : Validator, Yields alice (validator.validate id (fun _ => .ok (some alice))
      (decoded (LoginPath.payload alice (.authService "ethereum")) 0 3600)) := by
  intro carried
  obtain ⟨identity, accepted, -, address, -⟩ := carried .guards
  simp only [Validator.validate, LoginPath.payload, decoded_authService] at accepted
  cases accepted
  have absent : (.ok .undefined : Except String JsValue) = .ok (.string "0xa") := address
  cases absent

end Kanaka.Backend.JwtStrategy
