import Kanaka.Async.Pool
import Kanaka.Async.Timers
import Kanaka.Backend.ErrorHandler
import Kanaka.Backend.JsNumber

/-!
# `redis.service.ts`

The server is outside: what it answers may change at any time. So may the client report that it is
ready, that it has failed or that its connection has ended.
-/

namespace Kanaka.Backend.RedisService
open Async

def maxReconnectAttempts : Nat := 10

/-- A command to the client; `expireSeconds` is the `EX` of its options. -/
inductive Command where
  | set (key value : String) (expireSeconds : Option JsNumber)
  | get (key : String)
  | del (key : String)
  | keys (pattern : String)
  | zAdd (key : String) (score : JsNumber) (member : String)
  | zRemRangeByScore (key : String) (min max : JsNumber)
  | zCard (key : String)
  | zCount (key : String) (min max : JsNumber)
  | expire (key : String) (expireSeconds : JsNumber)
deriving DecidableEq

abbrev Answer : Command → Type
  | .get _ => Option String
  | .keys _ => List String
  | .zCard _ | .zCount _ _ _ => Nat
  | _ => Unit

/-- `fire` lets a timer that is pending run: its callback begins with `reconnectTimer = null`. -/
inductive Op where
  | isConnected
  | setConnected (connected : Bool)
  | connect
  | quit
  | command (command : Command)
  | scheduleReconnect
  | clearReconnect
  | fire (handle : Nat)
deriving DecidableEq

abbrev Reply : Op → Type
  | .isConnected | .fire _ => Bool
  | .command command => Answer command
  | _ => Unit

abbrev Program := Task Op Reply JsError

def await (op : Op) : Program (Reply op) := Task.perform op

def connect : Program Unit :=
  Task.tryCatch (do
    await .connect
    await (.setConnected true))
  fun error => do
    await (.setConnected false)
    .fail error

def connectOrSchedule : Program Unit := connect.tryCatch fun _ => await .scheduleReconnect

def onModuleInit : Program Unit := connectOrSchedule

def onModuleDestroy : Program Unit :=
  Task.tryCatch (do
    await .clearReconnect
    if ← await .isConnected then await .quit)
  fun _ => return ()

def reconnect (handle : Nat) : Program Unit := do
  if ← await (.fire handle) then connectOrSchedule

def isRedisConnected : Program Bool := await .isConnected

/-! ## Operations -/

def request (command : Command) : Program (Answer command) :=
  Task.tryCatch (do
    if ¬ (← await .isConnected) then connect
    await (.command command))
  fun error => do
    await (.setConnected false)
    await .scheduleReconnect
    .fail error

def expiry (expireSeconds : Option JsNumber) : Option JsNumber :=
  expireSeconds.filter (JsNumber.finite 0).lt

def set (key value : String) (expireSeconds : Option JsNumber) : Program Unit :=
  request (.set key value (expiry expireSeconds))

def get (key : String) : Program (Option String) := request (.get key)

def del (key : String) : Program Unit := request (.del key)

def keys (pattern : String) : Program (List String) := request (.keys pattern)

def zAdd (key : String) (score : JsNumber) (member : String) : Program Unit :=
  request (.zAdd key score member)

def zRemRangeByScore (key : String) (min max : JsNumber) : Program Unit :=
  request (.zRemRangeByScore key min max)

def zCard (key : String) : Program Nat := request (.zCard key)

def zCount (key : String) (min max : JsNumber) : Program Nat := request (.zCount key min max)

def expire (key : String) (expireSeconds : JsNumber) : Program Unit :=
  request (.expire key expireSeconds)

/-! ## The service -/

/-- A pending timer is told by its delay. `scheduled` notes the delays of the timers set since the
client was last ready. -/
structure State where
  isConnected : Bool
  reconnectTimer : Option Nat
  reconnectAttempts : Nat
  timers : Timers Nat
  server : (command : Command) → Answer command
  scheduled : List Nat

def State.initial (server : (command : Command) → Answer command) : State :=
  ⟨false, none, 0, .empty, server, []⟩

namespace State
variable (s : State)

def scheduleReconnect : State :=
  if s.reconnectTimer.isSome then s
  else
    let reconnectAttempts := s.reconnectAttempts + 1
    if maxReconnectAttempts < reconnectAttempts then { s with reconnectAttempts }
    else
      let delay := min (1000 * 2 ^ (reconnectAttempts - 1)) 30000
      { s with
        reconnectAttempts
        reconnectTimer := s.timers.next
        timers := s.timers.set delay
        scheduled := s.scheduled ++ [delay] }

def clearReconnect : State :=
  match s.reconnectTimer with
  | some handle => { s with timers := s.timers.clear handle, reconnectTimer := none }
  | none => s

def fire (handle : Nat) : Bool × State :=
  match s.timers.job? handle with
  | some _ => (true, { s with timers := s.timers.clear handle, reconnectTimer := none })
  | none => (false, s)

def ready : State := { s with isConnected := true, reconnectAttempts := 0, scheduled := [] }

end State

def perform : (op : Op) → State → Reply op × State
  | .isConnected, s => (s.isConnected, s)
  | .setConnected isConnected, s => ((), { s with isConnected })
  | .connect, s | .quit, s => ((), s)
  | .command command, s => (s.server command, s)
  | .scheduleReconnect, s => ((), s.scheduleReconnect)
  | .clearReconnect, s => ((), s.clearReconnect)
  | .fire handle, s => s.fire handle

def failed : Op → State → Option State
  | .connect, s | .quit, s | .command _, s => some s
  | _, _ => none

/-- What the client reports, and what the server goes on to. -/
inductive Drift (s : State) : State → Prop where
  | ready : Drift s s.ready
  /-- `error` or `end` -/
  | lost : Drift s { s with isConnected := false }
  | served (server) : Drift s { s with server }

inductive Call where
  | onModuleInit
  | onModuleDestroy
  | timer (handle : Nat)
  | isRedisConnected
  | set (key value : String) (expireSeconds : Option JsNumber)
  | get (key : String)
  | del (key : String)
  | keys (pattern : String)
  | zAdd (key : String) (score : JsNumber) (member : String)
  | zRemRangeByScore (key : String) (min max : JsNumber)
  | zCard (key : String)
  | zCount (key : String) (min max : JsNumber)
  | expire (key : String) (expireSeconds : JsNumber)

inductive Value where
  | unit
  | bool (value : Bool)
  | text (value : Option String)
  | texts (values : List String)
  | number (value : Nat)

def body : Call → Program Value
  | .onModuleInit => do onModuleInit; return .unit
  | .onModuleDestroy => do onModuleDestroy; return .unit
  | .timer handle => do reconnect handle; return .unit
  | .isRedisConnected => do return .bool (← isRedisConnected)
  | .set key value expireSeconds => do set key value expireSeconds; return .unit
  | .get key => do return .text (← get key)
  | .del key => do del key; return .unit
  | .keys pattern => do return .texts (← keys pattern)
  | .zAdd key score member => do zAdd key score member; return .unit
  | .zRemRangeByScore key min max => do zRemRangeByScore key min max; return .unit
  | .zCard key => do return .number (← zCard key)
  | .zCount key min max => do return .number (← zCount key min max)
  | .expire key expireSeconds => do expire key expireSeconds; return .unit

def service : Service Call Op Reply JsError Value State := ⟨body, perform, failed, Drift⟩

abbrev Calls := Pool Call Op Reply JsError Value State

end Kanaka.Backend.RedisService
