import Kanaka.Async.Task
import Kanaka.Backend.SignatureService
import Kanaka.Backend.User
import Kanaka.Store.Expiring

/-! # `auth.service.ts` and `api-key.strategy.ts` -/

namespace Kanaka.Backend.AuthService
open Async SignatureService

/-- `randomNonce` and `uuid` are what the random functions return one after the other, `number` is
`Number` (`none` where it is no id), and `apiKeys` are the configured keys. -/
structure Config where
  signatureService : SignatureService
  randomNonce : Nat → String
  uuid : Nat → String
  number : String → Option Nat
  apiKeys : List (String × String × List String)

inductive AuthError where
  | unauthorized (message : String)
  | badRequest (message : String)
  | error (message : String)
deriving DecidableEq

/-- The pattern of `keys` is the stem and a star. -/
inductive Op where
  | findOne (walletAddress : String)
  | findById (id : Option Nat)
  | insert (walletAddress walletType nonce : String) (roles : List String)
  | save (user : User)
  | generateNonce
  | uuidv4
  | now
  | setJson (key : String) (value : JsValue) (expireSeconds : Int)
  | getJson (key : String)
  | del (key : String)
  | keys (stem : String)

abbrev Reply : Op → Type
  | .findOne _ => Option User
  | .findById _ => Option User
  | .insert .. => User
  | .generateNonce => String
  | .uuidv4 => String
  | .now => Nat
  | .getJson _ => JsValue
  | .keys _ => List String
  | _ => Unit

abbrev Program := Task Op Reply AuthError

def await (op : Op) : Program (Reply op) := Task.perform op

variable (config : Config)

/-! ## Logins -/

def getUserByAddress (address : String) : Program User := do
  -- Normalize the address
  let normalizedAddress := config.signatureService.toLowerCase address
  match ← await (.findOne normalizedAddress) with
  | some user => return user
  | none =>
      let nonce ← await .generateNonce
      await (.insert normalizedAddress WalletType.ethereum.text nonce ["user"])

def generateNonce (address : String) : Program String := do
  let user ← getUserByAddress config address
  -- Generate a new nonce
  let nonce ← await .generateNonce
  await (.save { user with nonce })
  return nonce

structure AuthMessage where
  message : String
  nonce : String
deriving DecidableEq

def getAuthMessage (address : String) : Program AuthMessage := do
  let user ← getUserByAddress config address
  return ⟨generateAuthMessage user.nonce, user.nonce⟩

def normalize (address walletType : String) : String :=
  if walletType = "ethereum" then config.signatureService.toLowerCase address else address

def findOrCreate (address walletType : String) : Program User := do
  match ← await (.findOne (normalize config address walletType)) with
  | some user => return user
  | none =>
      let nonce ← await .generateNonce
      await (.insert (normalize config address walletType) walletType nonce ["user"])

def loginMessage (timestamp : Nat) : String := "Login to Kanaka Protocol: " ++ toString timestamp

def isValid (address signature walletType : String) (timestamp : Nat) : Bool :=
  if walletType = "ethereum" then
    config.signatureService.verifyEthereumSignature (loginMessage timestamp) signature
      (normalize config address walletType)
  else
    -- This is a placeholder - you'll need to implement the actual verification
    true

def payload (user : User) (address walletType : String) : JsValue :=
  .object [("sub", .number user.id), ("address", .string address),
    ("walletType", .string walletType), ("roles", .strings user.roles)]

structure Login where
  token : JsValue
  user : JsValue

def verifySignature (address signature walletType : String) : Program Login :=
  Task.tryCatch (do
    let user ← findOrCreate config address walletType
    -- Generate the message that was signed
    let timestamp ← await .now
    Task.throwIf (¬ isValid config address signature walletType timestamp)
      (.unauthorized "Invalid signature")
    -- Generate a new nonce for next time
    let nonce ← await .generateNonce
    await (.save { user with nonce })
    -- Generate a JWT token
    let address := normalize config address walletType
    return ⟨payload user address walletType,
      .object [("id", .number user.id), ("address", .string address),
        ("walletType", .string walletType), ("roles", .strings user.roles)]⟩)
  fun
    | .unauthorized message => .fail (.unauthorized message)
    | _ => .fail (.unauthorized "Authentication failed")

/-! ## API keys -/

def apiKeyStem : String := "apikey:"

structure ApiKey where
  apiKey : String
  expiresAt : Int
deriving DecidableEq

def read (value : JsValue) (field : String) : Program JsValue :=
  Task.ofExcept ((value.get field).mapError .error)

def roleNames : List String → Program (List JsValue)
  | [] => return []
  | role :: roles => do
      let name ← read (.string role) "name"
      return name :: (← roleNames roles)

def generateApiKey (userId name : String) (expiresIn : Int) : Program ApiKey := do
  match ← await (.findById (config.number userId)) with
  | none => .fail (.badRequest "User not found")
  | some user =>
      -- Generate a random API key
      let apiKey ← await .uuidv4
      -- Map user roles to strings
      let roles ← roleNames user.roles
      -- Store the API key in Redis
      let now ← await .now
      let expiresAt := now + expiresIn * 1000
      let createdAt ← await .now
      await (.setJson (apiKeyStem ++ apiKey) (.object [("userId", .number user.id),
        ("walletAddress", .string user.walletAddress), ("name", .string name),
        ("roles", .array roles), ("createdAt", .date createdAt), ("expiresAt", .date expiresAt)])
        expiresIn)
      return ⟨apiKey, expiresAt⟩

def revokeApiKey (apiKey : String) : Program Unit := await (.del (apiKeyStem ++ apiKey))

structure Listed where
  apiKey : String
  name : JsValue
  createdAt : JsValue
  expiresAt : JsValue

/-- `apiKey.substring(0, 8) + '...'` -/
def shown (apiKey : String) : String := String.ofList (apiKey.toList.take 8) ++ "..."

def listed (userId : String) : List String → Program (List Listed)
  | [] => return []
  | key :: keys => do
      let apiKeyData ← await (.getJson key)
      if apiKeyData.truthy then
        let owner ← read apiKeyData "userId"
        if owner.isString userId then
          -- Extract the actual API key from the Redis key
          let apiKey := String.ofList (key.toList.drop apiKeyStem.length)
          let now ← await .now
          let name ← read apiKeyData "name"
          let createdAt ← read apiKeyData "createdAt"
          let expiresAt ← read apiKeyData "expiresAt"
          let entry : Listed := ⟨shown apiKey, name.or (.string "Unknown"), createdAt.or (.date now),
            expiresAt.or (.date now)⟩
          return entry :: (← listed userId keys)
        else listed userId keys
      else listed userId keys

def listApiKeys (userId : String) : Program (List Listed) := do
  match ← await (.findById (config.number userId)) with
  | none => .fail (.badRequest "User not found")
  | some _ =>
      -- Get all keys from Redis that match the pattern
      let keys ← await (.keys apiKeyStem)
      listed userId keys

/-- The user that `ApiKeyStrategy.validate` hands on. -/
structure Validated where
  name : JsValue
  roles : JsValue
  metadata : JsValue

/-- The body of the `try` in `validate`. -/
def lookUp (apiKey : String) : Program Validated := do
  -- Check if the API key is in the static list
  match config.apiKeys.lookup apiKey with
  | some (name, roles) => return ⟨.string name, .strings roles, .undefined⟩
  | none =>
      -- Check if the API key is in Redis (for dynamically generated keys)
      let apiKeyData ← await (.getJson (apiKeyStem ++ apiKey))
      if apiKeyData.truthy then
        let name ← read apiKeyData "name"
        let roles ← read apiKeyData "roles"
        let metadata ← read apiKeyData "metadata"
        return ⟨name, roles.or (.array []), metadata.or (.object [])⟩
      else .fail (.unauthorized "Invalid API key")

def validate (apiKey : String) : Program Validated :=
  (lookUp config apiKey).tryCatch fun
    | .unauthorized message => .fail (.unauthorized message)
    | _ => .fail (.unauthorized "API key validation failed")

/-! ## The stores behind the service -/

/-- `drawn` counts the random nonces, `keyed` the random keys; times are in milliseconds. -/
structure State where
  now : Nat
  users : List User
  nextUser : Nat
  redis : Expiring.Store String JsValue
  drawn : Nat
  keyed : Nat

def State.userAt (s : State) (walletAddress : String) : Option User :=
  s.users.find? (·.walletAddress = walletAddress)

def State.userOf (s : State) (id : Option Nat) : Option User :=
  s.users.find? fun user => some user.id = id

/-- An operation at a moment of the state, none of which fails but for what the tables refuse. -/
def perform : (op : Op) → State → Except AuthError (Reply op) × State
  | .findOne walletAddress, s => (.ok (s.userAt walletAddress), s)
  | .findById id, s => (.ok (s.userOf id), s)
  | .insert walletAddress walletType nonce roles, s =>
      match WalletType.ofText walletType, s.userAt walletAddress with
      | some walletType, none =>
          let user := ⟨s.nextUser, walletAddress, walletType, nonce, roles⟩
          (.ok user, { s with users := s.users ++ [user], nextUser := s.nextUser + 1 })
      | _, _ => (.error (.error "QueryFailedError"), s)
  | .save user, s =>
      (.ok (), { s with users := s.users.map fun row => if row.id = user.id then user else row })
  | .generateNonce, s => (.ok (config.randomNonce s.drawn), { s with drawn := s.drawn + 1 })
  | .uuidv4, s => (.ok (config.uuid s.keyed), { s with keyed := s.keyed + 1 })
  | .now, s => (.ok s.now, s)
  | .setJson key value expireSeconds, s =>
      let deadline := if 0 < expireSeconds then some (s.now + expireSeconds.toNat * 1000) else none
      (.ok (), { s with redis := s.redis.set key value.json deadline })
  | .getJson key, s => (.ok ((s.redis.get s.now key).getD .null), s)
  | .del key, s => (.ok (), { s with redis := s.redis.del key })
  | .keys stem, s => (.ok ((s.redis.keys s.now).filter (·.startsWith stem)), s)

def run {α : Type} (program : Program α) (s : State) : Except AuthError α × State :=
  program.run (perform config) s

/-! ## Requests, one after the other -/

inductive Request where
  | getAuthMessage (address : String)
  | generateNonce (address : String)
  | verifySignature (address signature walletType : String)
  | generateApiKey (userId name : String) (expiresIn : Int)
  | revokeApiKey (apiKey : String)
  | listApiKeys (userId : String)
  | validate (apiKey : String)

inductive Response where
  | message (message : AuthMessage)
  | nonce (nonce : String)
  | login (login : Login)
  | apiKey (apiKey : ApiKey)
  | revoked
  | listed (keys : List Listed)
  | validated (user : Validated)

def Request.body : Request → Program Response
  | .getAuthMessage address => do return .message (← AuthService.getAuthMessage config address)
  | .generateNonce address => do return .nonce (← AuthService.generateNonce config address)
  | .verifySignature address signature walletType => do
      return .login (← AuthService.verifySignature config address signature walletType)
  | .generateApiKey userId name expiresIn => do
      return .apiKey (← AuthService.generateApiKey config userId name expiresIn)
  | .revokeApiKey apiKey => do
      AuthService.revokeApiKey apiKey
      return .revoked
  | .listApiKeys userId => do return .listed (← AuthService.listApiKeys config userId)
  | .validate apiKey => do return .validated (← AuthService.validate config apiKey)

structure Served where
  before : State
  request : Request
  response : Except AuthError Response

def serve : State → List (Nat × Request) → List Served
  | _, [] => []
  | s, (now, request) :: requests =>
      let before := { s with now }
      let result := run config (request.body config) before
      ⟨before, request, result.1⟩ :: serve result.2 requests

def empty : State := ⟨0, [], 1, ∅, 0, 0⟩

end Kanaka.Backend.AuthService
