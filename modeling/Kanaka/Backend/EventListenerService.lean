import Kanaka.Async.Pool
import Kanaka.Async.Timers
import Kanaka.Backend.ErrorHandler
import Kanaka.Backend.JsNumber
import Kanaka.Store.Table

/-!
# `event-listener.service.ts`

What a contract makes of `on` and `removeAllListeners`, and whether it has them, is outside. The
subscribers of the emitter are left out, as no connection depends on them.
-/

namespace Kanaka.Backend.EventListenerService
open Async

structure Config where
  maxReconnectAttempts : JsNumber
  reconnectDelay : JsNumber

/-- Where the configuration sets neither. -/
def defaultConfig : Config := ⟨.finite 10, .finite 5000⟩

structure Listener where
  key : String
  contract : String
  eventName : String
deriving DecidableEq

/-- `connected`, `disconnected` and `scheduleReconnect` are what `connect`, `disconnect` and
`scheduleReconnect` do in one go; `fire` lets a pending timer run and tells if it is to connect. -/
inductive Op where
  | getListener (key : String)
  | getListeners
  | removeAllListeners (listener : Listener)
  | deleteListener (key : String)
  | on (listener : Listener)
  | setListener (listener : Listener)
  | connected
  | setDisconnected
  | disconnected
  | scheduleReconnect
  | fire (handle : Nat)
deriving DecidableEq

abbrev Reply : Op → Type
  | .getListener _ => Option Listener
  | .getListeners => List Listener
  | .fire _ => Bool
  | _ => Unit

abbrev Program := Task Op Reply JsError

def await (op : Op) : Program (Reply op) := Task.perform op

/-! ## Listeners -/

def removeEventListener (key : String) : Program Unit := do
  match ← await (.getListener key) with
  | some listener =>
      Task.tryCatch (do
        await (.removeAllListeners listener)
        await (.deleteListener key))
        fun error => do
          let _ ← Task.ofExcept
            (handleBlockchainError error ("removeEventListener(" ++ listener.eventName ++ ")"))
          return ()
  | none => return ()

def removeEventListeners : List Listener → Program Unit
  | [] => return ()
  | listener :: rest => do
      removeEventListener listener.key
      removeEventListeners rest

def addEventListener (listener : Listener) : Program Unit :=
  Task.tryCatch (do
    -- Remove any existing listener for this event
    removeEventListener listener.key
    -- Add the new listener
    await (.on listener)
    -- Store the listener reference
    await (.setListener listener))
  fun error => do
    let blockchainError ← Task.ofExcept
      (handleBlockchainError error ("addEventListener(" ++ listener.eventName ++ ")"))
    .fail blockchainError.thrown

def addEventListeners : List Listener → Program Unit
  | [] => return ()
  | listener :: rest => do
      addEventListener listener
      addEventListeners rest

def setupPoolEventListeners : Program Unit :=
  addEventListeners [⟨"PoolDeposit", "pool", "Deposit"⟩, ⟨"PoolWithdraw", "pool", "Withdraw"⟩,
    ⟨"PoolRebalance", "pool", "Rebalance"⟩]

def setupVaultEventListeners : Program Unit :=
  addEventListeners [⟨"VaultDeposit", "vault", "Deposit"⟩, ⟨"VaultWithdraw", "vault", "Withdraw"⟩]

def setupGovernanceEventListeners : Program Unit :=
  addEventListeners [⟨"ProposalCreated", "governance", "ProposalCreated"⟩,
    ⟨"VoteCast", "governance", "VoteCast"⟩, ⟨"ProposalExecuted", "governance", "ProposalExecuted"⟩]

def setupRewardEventListeners : Program Unit :=
  addEventListeners [⟨"RewardDistributed", "reward", "RewardDistributed"⟩,
    ⟨"RewardClaimed", "reward", "RewardClaimed"⟩]

def setupStrategyEventListeners : Program Unit :=
  addEventListeners [⟨"StrategyExecuted", "strategy", "StrategyExecuted"⟩,
    ⟨"StrategyAdded", "strategy", "StrategyAdded"⟩, ⟨"StrategyUpdated", "strategy", "StrategyUpdated"⟩]

def setupEventListeners : Program Unit := do
  setupPoolEventListeners
  setupVaultEventListeners
  setupGovernanceEventListeners
  setupRewardEventListeners
  setupStrategyEventListeners

/-! ## The connection -/

def connect : Program Unit :=
  Task.tryCatch (do
    -- Initialize all event listeners
    setupEventListeners
    await .connected)
  fun error => do
    await .setDisconnected
    let _ ← Task.ofExcept (handleBlockchainError error "event listener connection")
    await .scheduleReconnect

def disconnect : Program Unit := do
  -- Remove all listeners
  let listeners ← await .getListeners
  removeEventListeners listeners
  await .disconnected

def onModuleInit : Program Unit := connect

def onModuleDestroy : Program Unit := disconnect

def timer (handle : Nat) : Program Unit := do
  if ← await (.fire handle) then connect

/-! ## The service -/

/-- What a timer waits, and whether its callback calls `connect()`. -/
structure Job where
  delay : JsNumber
  connects : Bool
deriving DecidableEq

/-- `setTimeout(() => {}, 0)` -/
def placeholder : Job := ⟨.finite 0, false⟩

def Config.delay (config : Config) (attempt : Nat) : JsNumber :=
  config.reconnectDelay.mul (.round ((3 / 2) ^ (attempt - 1)))

/-- `reconnectInterval` is the handle of a timer. `scheduled` notes how many reconnections were
scheduled since the last successful connect. -/
structure State where
  listeners : Table Listener.key
  reconnectInterval : Option Nat
  isConnected : Bool
  reconnectAttempts : Nat
  timers : Timers Job
  scheduled : Nat

namespace State
variable (s : State)

def setReconnectInterval (job : Job) : State :=
  { s with reconnectInterval := some s.timers.next, timers := s.timers.set job }

def initial : State := State.setReconnectInterval ⟨.empty, none, false, 0, .empty, 0⟩ placeholder

def clearReconnectInterval : State :=
  match s.reconnectInterval with
  | some handle => { s with timers := s.timers.clear handle }.setReconnectInterval placeholder
  | none => s

def connected : State :=
  { s with isConnected := true, reconnectAttempts := 0, scheduled := 0 }.clearReconnectInterval

def disconnected : State := { s with isConnected := false }.clearReconnectInterval

def scheduleReconnect (config : Config) : State :=
  if s.reconnectInterval.isSome then s
  else
    let reconnectAttempts := s.reconnectAttempts + 1
    if config.maxReconnectAttempts.lt (.finite reconnectAttempts) then { s with reconnectAttempts }
    else
      { s with reconnectAttempts, scheduled := s.scheduled + 1 }.setReconnectInterval
        ⟨config.delay reconnectAttempts, true⟩

def fire (handle : Nat) : Bool × State :=
  match s.timers.job? handle with
  | some job =>
      let fired := { s with timers := s.timers.clear handle }
      if job.connects then (true, fired.setReconnectInterval placeholder) else (false, fired)
  | none => (false, s)

end State

def perform (config : Config) : (op : Op) → State → Reply op × State
  | .getListener key, s => (s.listeners.find key, s)
  | .getListeners, s => (s.listeners.rows, s)
  | .removeAllListeners _, s | .on _, s => ((), s)
  | .deleteListener key, s => ((), { s with listeners := s.listeners.erase key })
  | .setListener listener, s => ((), { s with listeners := s.listeners.save listener })
  | .connected, s => ((), s.connected)
  | .setDisconnected, s => ((), { s with isConnected := false })
  | .disconnected, s => ((), s.disconnected)
  | .scheduleReconnect, s => ((), s.scheduleReconnect config)
  | .fire handle, s => s.fire handle

def failed : Op → State → Option State
  | .removeAllListeners _, s | .on _, s => some s
  | _, _ => none

inductive Call where
  | onModuleInit
  | onModuleDestroy
  | connect
  | disconnect
  | timer (handle : Nat)
deriving DecidableEq

def body : Call → Program Unit
  | .onModuleInit => onModuleInit
  | .onModuleDestroy => onModuleDestroy
  | .connect => connect
  | .disconnect => disconnect
  | .timer handle => timer handle

def service (config : Config) : Service Call Op Reply JsError Unit State :=
  ⟨body, perform config, failed, fun _ _ => False⟩

abbrev Calls := Pool Call Op Reply JsError Unit State

end Kanaka.Backend.EventListenerService
