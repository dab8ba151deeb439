import Kanaka.Async.Task
import Kanaka.Store.Expiring

/-!
# `rate-limiter.service.ts`

Times are in milliseconds since the epoch. The clock is read twice in a row at the beginning of
`checkRateLimit`; both readings are the time of the request.
-/

namespace Kanaka.Backend.RateLimiterService
open Async

structure RateLimitOptions where
  points : Nat
  duration : Nat
deriving DecidableEq

structure PartialOptions where
  points : Option Nat
  duration : Option Nat
deriving DecidableEq

structure RateLimitResult where
  allowed : Bool
  remaining : Int
  resetTime : Int
deriving DecidableEq

def defaultOptions : RateLimitOptions := ⟨100, 60⟩

def PartialOptions.opts (options : PartialOptions) : RateLimitOptions :=
  ⟨options.points.getD defaultOptions.points, options.duration.getD defaultOptions.duration⟩

structure Date where
  ms : Nat
  valid : ms ≤ 8640000000000000

/-- The Redis operations; a lower bound `none` is minus infinity. -/
inductive Op where
  | zRemRangeByScore (key : String) (min : Option Int) (max : Int)
  | zCount (key : String) (min max : Int)
  | zAdd (key : String) (score : Int) (member : String)
  | expire (key : String) (expireSeconds : Nat)

abbrev Op.Reply : Op → Type
  | .zCount .. => Nat
  | _ => Unit

def redis (op : Op) : Task Op Op.Reply String op.Reply := Task.perform op

structure Window where
  windowStart : Int
  windowEnd : Int

def getWindow (timestamp duration : Nat) : Window where
  windowStart := (timestamp / 1000 : Nat) - duration
  windowEnd := (timestamp / 1000 : Nat)

def maxSafeInteger : Int := 9007199254740991

def getCurrentCount (key : String) (startTime : Int) : Task Op Op.Reply String Nat :=
  (redis (.zCount key startTime maxSafeInteger)).tryCatch fun _ => pure 0

def generateKey (identifier : String) (now : Nat) : String :=
  "ratelimit:" ++ identifier ++ ":" ++ toString (now / 1000)

def member (identifier : String) (now : Nat) : String := toString now ++ ":" ++ identifier

def checkRateLimit (identifier : String) (options : PartialOptions) (now : Nat) :
    Task Op Op.Reply String RateLimitResult :=
  let opts := options.opts
  let key := generateKey identifier now
  let window := getWindow now opts.duration
  Task.tryCatch (do
    -- Clean old records
    redis (.zRemRangeByScore key none window.windowStart)
    -- Get current count
    let currentCount ← getCurrentCount key window.windowStart
    if opts.points ≤ currentCount then return ⟨false, 0, window.windowEnd * 1000⟩
    -- Record new request
    redis (.zAdd key now (member identifier now))
    redis (.expire key opts.duration)
    return ⟨true, (opts.points : Int) - currentCount - 1, window.windowEnd * 1000⟩)
  -- Fail open - allow request in case of Redis errors
  fun _ => return ⟨true, 1, (((now / 1000 : Nat) : Int) + opts.duration) * 1000⟩

/-! ## Redis -/

abbrev SortedSet := AList fun _ : String => Int

def SortedSet.remove (set : SortedSet) (min : Option Int) (max : Int) : SortedSet :=
  ⟨set.entries.filter fun entry => !(min.all (· ≤ entry.2) && entry.2 ≤ max),
    set.nodupKeys.sublist List.filter_sublist⟩

def SortedSet.count (set : SortedSet) (min max : Int) : Nat :=
  (set.entries.filter fun entry => min ≤ entry.2 && entry.2 ≤ max).length

abbrev Redis := Expiring.Store String SortedSet

def zRemRangeByScore (redis : Redis) (now : Nat) (key : String) (min : Option Int) (max : Int) :
    Redis :=
  match redis.find now key with
  | some ⟨set, deadline⟩ =>
      -- A set that gets empty is removed
      if (set.remove min max).entries = [] then redis.del key
      else redis.set key (set.remove min max) deadline
  | none => redis

def zAdd (redis : Redis) (now : Nat) (key : String) (score : Int) (member : String) : Redis :=
  match redis.find now key with
  | some ⟨set, deadline⟩ => redis.set key (set.insert member score) deadline
  | none => redis.set key (AList.singleton member score) none

/-- An operation at a time, none of which fails. -/
def perform (now : Nat) : (op : Op) → Redis → Except String op.Reply × Redis
  | .zRemRangeByScore key min max, redis => (.ok (), zRemRangeByScore redis now key min max)
  | .zCount key min max, redis => (.ok (((redis.get now key).getD ∅).count min max), redis)
  | .zAdd key score member, redis => (.ok (), zAdd redis now key score member)
  | .expire key expireSeconds, redis =>
      (.ok (), redis.expire now key (some (now + expireSeconds * 1000)))

/-! ## Requests, one after the other -/

structure Call where
  identifier : String
  options : PartialOptions
  now : Date

def Call.check (call : Call) (redis : Redis) : Except String RateLimitResult × Redis :=
  (checkRateLimit call.identifier call.options call.now.ms).run (perform call.now.ms) redis

def serve : Redis → List Call → List (Call × Except String RateLimitResult)
  | _, [] => []
  | redis, call :: calls => (call, (call.check redis).1) :: serve (call.check redis).2 calls

def decisions (calls : List Call) : List (Call × Except String RateLimitResult) := serve ∅ calls

end Kanaka.Backend.RateLimiterService
