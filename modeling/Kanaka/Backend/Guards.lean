import Kanaka.Async.Pool
import Kanaka.Backend.ContractAuthGuard
import Kanaka.Backend.HttpCacheInterceptor
import Kanaka.Backend.RateLimiterService

/-! # `roles.guard.ts`, `rate-limit.guard.ts` and the guards of `app.module.ts` -/

namespace Kanaka.Backend.Guards
open Async RateLimiterService

/-! ## Metadata of handlers and controllers -/

inductive Metadata where
  | roles (roles : List String)
  | rateLimit (options : PartialOptions)
  | contractAction (options : ContractAuthGuard.ContractActionOptions)
  | text (value : String)
  | number (value : Nat)
  | flag
deriving DecidableEq

/-- The decorators of `common/decorators`. `skip-cache.decorator.ts` and `cache.decorator.ts` both
have a `SkipCache`. -/
inductive Decorator where
  | roles (roles : List String)
  | rateLimit (options : PartialOptions)
  | contractAction (options : ContractAuthGuard.ContractActionOptions)
  | cacheKey (key : String)
  | cacheTTL (ttl : Nat)
  | cache (key : String) (ttl : Nat)
  | skipCache
  | skipCacheModule
  | skipThrottle
  | skipTransform
deriving DecidableEq

def Decorator.metadata : Decorator → List (String × Metadata)
  | .roles names => [("roles", .roles names)]
  | .rateLimit options => [("rateLimit", .rateLimit options)]
  | .contractAction options => [("contract_action", .contractAction options)]
  | .cacheKey key => [("cacheKey", .text key)]
  | .cacheTTL ttl => [("cacheTTL", .number ttl)]
  | .cache key ttl => [("cacheKey", .text key), ("cacheTTL", .number ttl)]
  | .skipCache => [("skipCache", .flag)]
  | .skipCacheModule => [("cache_module:skip_cache", .flag)]
  | .skipThrottle => [("skipThrottle", .flag), ("skipRateLimit", .flag)]
  | .skipTransform => [("skipTransform", .flag)]

structure Route where
  handler : List (String × Metadata)
  controller : List (String × Metadata)

def Route.decorated (handler controller : List Decorator) : Route :=
  ⟨handler.flatMap (·.metadata), controller.flatMap (·.metadata)⟩

def Route.getAllAndOverride (route : Route) (key : String) : Option Metadata :=
  (route.handler.lookup key).or (route.controller.lookup key)

/-! ## Requests -/

structure RequestUser where
  id : Option HttpCacheInterceptor.UserId
  roles : Option (List String)

structure Request where
  user : Option RequestUser
  ip : Option String
  remoteAddress : Option String

inductive Refusal where
  | forbidden (message : String)
  | tooManyRequests (retryAfter : Int)
  | typeError (message : String)
  /-- Thrown by the `ThrottlerGuard` of Nest. -/
  | throttled
deriving DecidableEq

/-- What a guard comes to, and the headers of the response that it has set. -/
structure Outcome where
  headers : List (String × String)
  verdict : Except Refusal Unit

/-! ## `RolesGuard` -/

def rolesGuard (route : Route) (request : Request) : Except Refusal Unit :=
  match route.getAllAndOverride "roles" with
  | some (.roles (role :: roles)) =>
      match request.user with
      | none => .error (.forbidden "Access denied")
      | some user =>
          if (role :: roles).any fun role => user.roles.any (·.contains role) then .ok ()
          else .error (.forbidden "You do not have the required role to access this resource")
  -- If no roles are required, allow access
  | _ => .ok ()

/-! ## `RateLimitGuard` -/

def getRateLimitKey (request : Request) : String :=
  match request.user.bind (·.id) with
  | some id => if id.truthy then "user:" ++ id.toString else ipKey
  | none => ipKey
where
  ipKey := "ip:" ++ (orElse (orElse request.ip request.remoteAddress) (some "unknown")).getD ""

/-- `RATE_LIMIT_KEY` of the guard. -/
def rateLimitKey : String := "rate_limit"

def Route.options (route : Route) : Option PartialOptions :=
  match route.getAllAndOverride rateLimitKey with
  | some (.rateLimit options) => some options
  | _ => none

def limitHeaders (options : PartialOptions) (result : RateLimitResult) : List (String × String) :=
  [("X-RateLimit-Limit", (options.points.map toString).getD "100"),
    ("X-RateLimit-Remaining", toString result.remaining),
    ("X-RateLimit-Reset", toString result.resetTime)]

def rateLimitGuard (route : Route) (request : Request) (now : Nat) :
    Task Op Op.Reply String Outcome :=
  if (route.getAllAndOverride "skipRateLimit").isSome then return ⟨[], .ok ()⟩
  else do
    let result ← checkRateLimit (getRateLimitKey request) (route.options.getD ⟨none, none⟩) now
    match route.options with
    | none =>
        return ⟨[], .error (.typeError "Cannot read properties of undefined (reading 'points')")⟩
    | some options =>
        if result.allowed then return ⟨limitHeaders options result, .ok ()⟩
        else return ⟨limitHeaders options result, .error (.tooManyRequests result.resetTime)⟩

/-! ## The guards of the application -/

/-- A request to a route at a time; `throttled` is the answer of the `ThrottlerGuard`. -/
structure Arrival where
  route : Route
  request : Request
  throttled : Bool
  now : Nat

/-- The global guards, in their order. The guard that sets `request.user` is one of the
controllers, and these run later. -/
def globalGuards (arrival : Arrival) : Task Op Op.Reply String Outcome :=
  let request := { arrival.request with user := none }
  match rolesGuard arrival.route request with
  | .error refusal => return ⟨[], .error refusal⟩
  | .ok () =>
      if arrival.throttled then return ⟨[], .error .throttled⟩
      else rateLimitGuard arrival.route request arrival.now

structure Visit where
  handler : List Decorator
  controller : List Decorator
  request : Request
  throttled : Bool
  now : Nat

def Visit.arrival (visit : Visit) : Arrival :=
  ⟨.decorated visit.handler visit.controller, visit.request, visit.throttled, visit.now⟩

structure State where
  now : Nat
  redis : Redis

def perform : (op : Op) → State → op.Reply × State
  | .zRemRangeByScore key min max, s =>
      ((), { s with redis := zRemRangeByScore s.redis s.now key min max })
  | .zCount key min max, s => (((s.redis.get s.now key).getD ∅).count min max, s)
  | .zAdd key score member, s => ((), { s with redis := zAdd s.redis s.now key score member })
  | .expire key expireSeconds, s =>
      ((), { s with redis := s.redis.expire s.now key (some (s.now + expireSeconds * 1000)) })

def Drift (before after : State) : Prop := ∃ now, before.now ≤ now ∧ after = { before with now }

def service {Call : Type} (body : Call → Task Op Op.Reply String Outcome) :
    Service Call Op Op.Reply String Outcome State where
  body := body
  perform := perform
  failed _ s := some s
  drift := Drift

def onTime (s : State) (arrival : Arrival) : Prop := arrival.now = s.now

end Kanaka.Backend.Guards
