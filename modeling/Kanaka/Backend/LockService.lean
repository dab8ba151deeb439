import Kanaka.Async.Pool
import Kanaka.Store.Expiring

/-! # `lock.service.ts` -/

namespace Kanaka.Backend.LockService
open Async

/-- `ttl` is in seconds, `retryDelay` in milliseconds. -/
structure LockOptions where
  ttl : Option Nat
  retries : Option Nat
  retryDelay : Option Nat
deriving DecidableEq

structure Opts where
  ttl : Nat
  retries : Nat
  retryDelay : Nat

def defaultOptions : Opts := ⟨30, 5, 200⟩

def LockOptions.opts (options : LockOptions) : Opts where
  ttl := options.ttl.getD defaultOptions.ttl
  retries := options.retries.getD defaultOptions.retries
  retryDelay := options.retryDelay.getD defaultOptions.retryDelay

/-- `fn` is what a call of `withLock` does with its token. -/
inductive Op where
  | setNX (key value : String) (expireSeconds : Nat)
  | get (key : String)
  | set (key value : String) (expireSeconds : Nat)
  | del (key : String)
  | setTimeout (delay : Nat)
  | fn (key token : String)
deriving DecidableEq

abbrev Reply : Op → Type
  | .setNX .. => Bool
  | .get _ => Option String
  | _ => Unit

abbrev Program := Task Op Reply String

def await (op : Op) : Program (Reply op) := Task.perform op

def lockKey (key : String) : String := "lock:" ++ key

section Acquire
variable (key token : String) (opts : Opts)

/-- An attempt either returns or goes on to the next. -/
def attempt : Program (Option (Option String)) :=
  Task.tryCatch (do
    let acquired ← await (.setNX (lockKey key) token opts.ttl)
    if acquired then return some (some token)
    -- Wait before retrying
    await (.setTimeout opts.retryDelay)
    return none)
  fun _ => return some none

def attempts : Nat → Program (Option String)
  | 0 => return none
  | left + 1 => do
      match ← attempt key token opts with
      | some result => return result
      | none => attempts left

end Acquire

/-- `token` is what `uuidv4` returns in the call. -/
def acquire (key token : String) (options : LockOptions) : Program (Option String) :=
  attempts key token options.opts options.opts.retries

def release (key token : String) : Program Bool :=
  Task.tryCatch (do
    -- Get the current token
    let currentToken ← await (.get (lockKey key))
    -- Only release if the token matches
    if currentToken = some token then
      await (.del (lockKey key))
      return true
    else return currentToken = none)
  fun _ => return false

def extend (key token : String) (ttl : Nat) : Program Bool :=
  Task.tryCatch (do
    -- Get the current token
    let currentToken ← await (.get (lockKey key))
    -- Only extend if the token matches
    if currentToken = some token then
      await (.set (lockKey key) token ttl)
      return true
    else return false)
  fun _ => return false

def withLock (key token : String) (options : LockOptions) : Program Unit := do
  match ← acquire key token options with
  | none => .fail ("Failed to acquire lock: " ++ key)
  | some token =>
      if token = "" then .fail ("Failed to acquire lock: " ++ key)
      else
        let outcome ← Task.tryCatch (do
          await (.fn key token)
          return .ok ())
          fun error => return .error error
        let _ ← release key token
        Task.ofExcept outcome

/-! ## Calls of any number of clients -/

/-- The token of `acquire` and `withLock` is the one that they generate. -/
inductive Kind where
  | acquire (options : LockOptions)
  | release
  | extend (ttl : Nat)
  | withLock (options : LockOptions)
deriving DecidableEq

structure Call where
  key : String
  token : String
  kind : Kind
deriving DecidableEq

inductive Value where
  | token (token : Option String)
  | done (success : Bool)
  | unit

def body (call : Call) : Program Value :=
  match call.kind with
  | .acquire options => do return .token (← acquire call.key call.token options)
  | .release => do return .done (← release call.key call.token)
  | .extend ttl => do return .done (← extend call.key call.token ttl)
  | .withLock options => do
      withLock call.key call.token options
      return .unit

/-- Times are in milliseconds. `granted` notes when the acquisition of a token runs out. -/
structure State where
  now : Nat
  redis : Expiring.Store String String
  granted : String → Nat

def State.get (s : State) (key : String) : Option String := s.redis.get s.now key

def perform : (op : Op) → State → Reply op × State
  | .setNX key value expireSeconds, s =>
      let deadline := s.now + expireSeconds * 1000
      let (acquired, redis) := s.redis.setNX s.now key value (some deadline)
      (acquired, if acquired then { s with redis, granted := Function.update s.granted value deadline }
        else s)
  | .get key, s => (s.get key, s)
  | .set key value expireSeconds, s =>
      let deadline := if 0 < expireSeconds then some (s.now + expireSeconds * 1000) else none
      ((), { s with redis := s.redis.set key value deadline })
  | .del key, s => ((), { s with redis := s.redis.del key })
  | .setTimeout _, s => ((), s)
  | .fn _ _, s => ((), s)

def failed : Op → State → Option State
  | .setTimeout _, _ => none
  | _, s => some s

def Drift (before after : State) : Prop :=
  ∃ now, before.now ≤ now ∧ after = { before with now }

def service : Service Call Op Reply String Value State where
  body := body
  perform := perform
  failed := failed
  drift := Drift

end Kanaka.Backend.LockService
