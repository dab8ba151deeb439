import Kanaka.Async.Expand
import Kanaka.Async.Pool
import Kanaka.Json.Value
import Kanaka.Backend.ErrorHandler
import Kanaka.Backend.JsNumber
import Mathlib.Data.List.AList

/-! # `cache.interceptor.ts` -/

namespace Kanaka.Backend.HttpCacheInterceptor
open Json

inductive UserId where
  | text (value : String)
  | number (value : JsInteger)

def UserId.toString : UserId → String
  | .text value => value
  | .number value => value.toString

def UserId.truthy : UserId → Bool
  | .text value => value ≠ ""
  | .number value => value ≠ .finite 0 ∧ value ≠ .nan

structure Context where
  customKey : Option String
  controller : String
  handler : String
  skipCache : Bool

/-- `query` is none when it is not there, and `user` is the id. -/
structure Request where
  method : String
  path : Option String
  url : Option String
  query : Option (List (String × Value))
  user : Option UserId

def baseKey (context : Context) : String :=
  (orElse context.customKey (some (context.controller ++ ":" ++ context.handler))).getD ""

def queryParams (request : Request) : String :=
  (Value.object (request.query.getD []) none).stringify

def urlPath (request : Request) : String :=
  (orElse (orElse request.path request.url) (some "/")).getD ""

def userId (request : Request) : String :=
  match request.user with
  | some id => if id.truthy then id.toString else "anonymous"
  | none => "anonymous"

def hashed (context : Context) (request : Request) : String :=
  baseKey context ++ ":" ++ urlPath request ++ ":" ++ queryParams request ++ ":" ++ userId request

def generateCacheKey (sha256 : String → String) (context : Context) (request : Request) : String :=
  sha256 (hashed context request)

/-- The key that the response is looked up with and kept under, unless the cache is passed by. -/
def intercept (sha256 : String → String) (context : Context) (request : Request) : Option String :=
  if request.method ≠ "GET" ∨ context.skipCache then none
  else some (generateCacheKey sha256 context request)

/-! ## Requests on their way to their handlers -/

open Async

/-- `customTTL` is the number in the metadata of the handler, if there is one. -/
structure Exchange where
  context : Context
  request : Request
  customTTL : Option Nat

def getTTL (exchange : Exchange) : Nat := exchange.customTTL.getD 300

def key (sha256 : String → String) (exchange : Exchange) : Option String :=
  intercept sha256 exchange.context exchange.request

section Exchanges
variable {ρ W ε : Type}

inductive Op (ρ : Type) where
  | get (key : String)
  | handle (exchange : Exchange)
  | set (key : String) (response : ρ) (ttl : Nat)

/-- A response that is undefined or null is `none`. -/
abbrev Reply : Op ρ → Type
  | .get _ => Option ρ
  | .handle _ => Option ρ
  | .set .. => Unit

abbrev Program (ρ ε : Type) := Task (Op ρ) Reply ε

def await (op : Op ρ) : Program ρ ε (Reply op) := Task.perform op

variable (sha256 : String → String)

def handleAndKeep (key : String) (exchange : Exchange) : Program ρ ε (Option ρ) := do
  let response ← await (.handle exchange)
  match response with
  | none => return none
  | some response =>
      -- Nobody awaits this promise, and an error of it changes no response
      let _ ← (await (.set key response (getTTL exchange))).attempt
      return some response

/-- `intercept`, up to the response. -/
def respond (exchange : Exchange) : Program ρ ε (Option ρ) :=
  match key sha256 exchange with
  | none => await (.handle exchange)
  | some key => do
      let cachedResponse : Except ε (Option ρ) ← (await (.get key)).attempt
      match cachedResponse with
      | .ok (some cachedResponse) => return some cachedResponse
      | .ok none => handleAndKeep key exchange
      | .error _ => await (.handle exchange)

structure State (ρ W : Type) where
  cache : AList fun _ : String => ρ
  world : W

variable (handler : Exchange → W → Option ρ × W)

def perform : (op : Op ρ) → State ρ W → Reply op × State ρ W
  | .get key, s => (s.cache.lookup key, s)
  | .handle exchange, s =>
      ((handler exchange s.world).1, { s with world := (handler exchange s.world).2 })
  | .set key response _, s => ((), { s with cache := s.cache.insert key response })

/-- Entries expire, and the rest of the application goes on. -/
def Drift (before after : State ρ W) : Prop :=
  ∀ key response, after.cache.lookup key = some response → before.cache.lookup key = some response

/-- The requests to an application. Any operation can fail, a handler too. -/
def service : Service Exchange (Op ρ) Reply ε (Option ρ) (State ρ W) where
  body := respond sha256
  perform := perform handler
  failed _ s := some s
  drift := Drift

end Exchanges

end Kanaka.Backend.HttpCacheInterceptor
