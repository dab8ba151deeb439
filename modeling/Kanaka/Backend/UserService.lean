import Kanaka.Async.Pool
import Kanaka.Backend.SignatureService
import Kanaka.Backend.User
import Kanaka.Store.Expiring

/-! # `user.service.ts` -/

namespace Kanaka.Backend

namespace UserService
open Async SignatureService

inductive Op where
  | set (key value : String) (expireSeconds : Nat)
  | get (key : String)
  | del (key : String)
  | verifySignature (message signature address : String)
  | findOne (walletAddress : String)
  | save (walletAddress : String)
deriving DecidableEq

/-- A `save` comes back with `none` when the address is taken. -/
abbrev Reply : Op → Type
  | .get _ => Option String
  | .verifySignature .. => Bool
  | .findOne _ => Option User
  | .save _ => Option User
  | _ => Unit

abbrev Program := Task Op Reply String

def await (op : Op) : Program (Reply op) := Task.perform op

variable (signatureService : SignatureService)

def nonceKey (walletAddress : String) : String := "auth:nonce:" ++ walletAddress

/-- `nonce` is the one that `generateNonce` returns in the call. -/
def createNonce (walletAddress nonce : String) : Program String := do
  await (.set (nonceKey walletAddress) nonce 300)
  return generateAuthMessage nonce

def getOrCreate (walletAddress : String) : Program User := do
  match ← await (.findOne (signatureService.toLowerCase walletAddress)) with
  | some user => return user
  | none =>
      match ← await (.save (signatureService.toLowerCase walletAddress)) with
      | some user => return user
      | none => .fail "duplicate key value violates unique constraint"

def payload (user : User) : JsValue :=
  .object [("sub", .number user.id), ("walletAddress", .string user.walletAddress),
    ("roles", (JsValue.strings user.roles).or (.strings ["user"]))]

def verifySignature (walletAddress signature : String) : Program JsValue := do
  let stored ← await (.get (nonceKey walletAddress))
  match stored.filter (· ≠ "") with
  | none => .fail "Nonce expired or not found"
  | some nonce =>
      let isValid ← await (.verifySignature (generateAuthMessage nonce) signature walletAddress)
      Task.throwIf (¬ isValid) "Invalid signature"
      -- Delete the nonce after successful verification
      await (.del (nonceKey walletAddress))
      let user ← getOrCreate signatureService walletAddress
      -- Generate JWT token
      return payload user

/-! ## Calls -/

inductive Call where
  | createNonce (walletAddress nonce : String)
  | verifySignature (walletAddress signature : String)
deriving DecidableEq

inductive Value where
  | message (message : String)
  | token (payload : JsValue)

def body : Call → Program Value
  | .createNonce walletAddress nonce => do return .message (← createNonce walletAddress nonce)
  | .verifySignature walletAddress signature => do
      return .token (← verifySignature signatureService walletAddress signature)

/-- Times are in milliseconds. -/
structure State where
  now : Nat
  redis : Expiring.Store String String
  users : List User
  nextUser : Nat

def State.get (s : State) (key : String) : Option String := s.redis.get s.now key

/-- The entity that `create` makes of an address, with the id that the table gives it. -/
def newUser (id : Nat) (walletAddress : String) : User :=
  ⟨id, walletAddress, .ethereum, "", ["user"]⟩

def perform : (op : Op) → State → Reply op × State
  | .set key value expireSeconds, s =>
      ((), { s with redis := s.redis.set key value (some (s.now + expireSeconds * 1000)) })
  | .get key, s => (s.get key, s)
  | .del key, s => ((), { s with redis := s.redis.del key })
  | .verifySignature message signature address, s =>
      (signatureService.verifySignature message signature address, s)
  | .findOne walletAddress, s => (s.users.find? (·.walletAddress = walletAddress), s)
  | .save walletAddress, s =>
      if s.users.any (·.walletAddress = walletAddress) then (none, s)
      else
        let user := newUser s.nextUser walletAddress
        (some user, { s with users := s.users ++ [user], nextUser := s.nextUser + 1 })

def failed : Op → State → Option State
  | .verifySignature .., _ => none
  | _, s => some s

def Drift (before after : State) : Prop :=
  ∃ now, before.now ≤ now ∧ after = { before with now }

def service : Service Call Op Reply String Value State where
  body := body signatureService
  perform := perform signatureService
  failed := failed
  drift := Drift

end UserService

end Kanaka.Backend
