import Kanaka.Backend.EventListenerService

/-! # The reconnect timers of the event listener -/

namespace Kanaka.Backend.EventListenerService
open Async

/-- The call at `task` has ended after its `connect()` failed: the catch block alone sets
`isConnected` to false by itself. -/
def ConnectFails (task : Nat) (next : Calls) : Prop :=
  ∃ running ∈ next.tasks[task]?, running.rest.Finished ∧
    ∃ past ∈ running.history, past.op = .setDisconnected

instance (task : Nat) (next : Calls) : Decidable (ConnectFails task next) :=
  inferInstanceAs (Decidable (∃ running ∈ next.tasks[task]?, running.rest.Finished ∧
    ∃ past ∈ running.history, past.op = .setDisconnected))

/-- If attempts were left, exactly one timer is to connect, with the delay of the last attempt. -/
def Armed (config : Config) (before after : State) : Prop :=
  (JsNumber.finite before.scheduled).lt config.maxReconnectAttempts = true →
    ∃ timer, after.timers.pending.filter (·.job.connects) = [timer] ∧
      timer.job.delay = config.delay after.scheduled

def Reconnects (config : Config) (task : Nat) (pool next : Calls) : Prop :=
  ConnectFails task next → Armed config pool.state next.state

/-! ## The field is never empty -/

/-- The field holds a handle, so that nothing was ever scheduled. -/
structure Unscheduled (s : State) : Prop where
  held : s.reconnectInterval.isSome
  idle : ∀ timer ∈ s.timers.pending, timer.job.connects = false
  none : s.scheduled = 0

namespace Unscheduled
variable {s : State}

theorem initial : Unscheduled .initial where
  held := rfl
  idle := by simp [State.initial, State.setReconnectInterval, placeholder]
  none := rfl

theorem clear (unscheduled : Unscheduled s) (handle : Nat) :
    Unscheduled { s with timers := s.timers.clear handle } where
  held := unscheduled.held
  idle timer member := unscheduled.idle timer (Timers.mem_of_mem_clear member)
  none := unscheduled.none

theorem setPlaceholder (unscheduled : Unscheduled s) :
    Unscheduled (s.setReconnectInterval placeholder) where
  held := rfl
  idle timer member := by
    rcases List.mem_append.mp member with member | last
    · exact unscheduled.idle timer member
    · rw [List.mem_singleton.mp last, placeholder]
  none := unscheduled.none

theorem clearReconnectInterval (unscheduled : Unscheduled s) : Unscheduled s.clearReconnectInterval := by
  unfold State.clearReconnectInterval
  split
  · exact (unscheduled.clear _).setPlaceholder
  · exact unscheduled

theorem connected (unscheduled : Unscheduled s) : Unscheduled s.connected :=
  clearReconnectInterval ⟨unscheduled.held, unscheduled.idle, rfl⟩

theorem disconnected (unscheduled : Unscheduled s) : Unscheduled s.disconnected :=
  clearReconnectInterval ⟨unscheduled.held, unscheduled.idle, unscheduled.none⟩

theorem scheduleReconnect (unscheduled : Unscheduled s) (config : Config) :
    Unscheduled (s.scheduleReconnect config) := by
  rw [State.scheduleReconnect, if_pos unscheduled.held]
  exact unscheduled

theorem fire (unscheduled : Unscheduled s) (handle : Nat) : Unscheduled (s.fire handle).2 := by
  unfold State.fire
  split
  · dsimp only
    split
    · exact (unscheduled.clear handle).setPlaceholder
    · exact unscheduled.clear handle
  · exact unscheduled

theorem perform (unscheduled : Unscheduled s) (config : Config) (op : Op) :
    Unscheduled (perform config op s).2 := by
  cases op with
  | connected => exact unscheduled.connected
  | disconnected => exact unscheduled.disconnected
  | scheduleReconnect => exact unscheduled.scheduleReconnect config
  | fire handle => exact unscheduled.fire handle
  | setDisconnected | deleteListener | setListener =>
      exact ⟨unscheduled.held, unscheduled.idle, unscheduled.none⟩
  | getListener | getListeners | removeAllListeners | on => exact unscheduled

theorem failed (unscheduled : Unscheduled s) {op : Op} {after : State}
    (fails : failed op s = some after) : Unscheduled after := by
  cases op <;> cases fails <;> exact unscheduled

theorem armed_iff {before after : State} (unscheduled : Unscheduled before)
    (unscheduled' : Unscheduled after) (config : Config) :
    Armed config before after ↔ (JsNumber.finite 0).lt config.maxReconnectAttempts = false := by
  have unarmed : after.timers.pending.filter (·.job.connects) = [] := by
    apply List.filter_eq_nil_iff.mpr
    intro timer member
    rw [unscheduled'.idle timer member]
    decide
  unfold Armed
  rw [unscheduled.none, unarmed, Nat.cast_zero]
  constructor
  · intro armed
    apply Bool.eq_false_iff.mpr
    intro asked
    obtain ⟨timer, only, _⟩ := armed asked
    contradiction
  · intro unasked asked
    rw [unasked] at asked
    contradiction

end Unscheduled

def always (_ : Calls) (_ : Action Call Op Reply JsError State) : Prop := True

variable {config : Config} {pool next : Calls}

theorem unscheduled_of_reaches (reaches : (service config).Reaches always ⟨.initial, []⟩ pool) :
    Unscheduled pool.state :=
  reaches.state .initial (fun op _ unscheduled => unscheduled.perform config op)
    (fun _ _ _ unscheduled fails => unscheduled.failed fails) (fun _ _ _ drifts => drifts.elim)

/-- A failed `connect()` leaves what it should if and only if no reconnection is asked for. -/
theorem reconnects_iff (reaches : (service config).Reaches always ⟨.initial, []⟩ pool) {task : Nat}
    {event : Event Op Reply JsError} (step : (service config).Step pool (.serve task event) next)
    (fails : ConnectFails task next) : Reconnects config task pool next ↔
      (JsNumber.finite 0).lt config.maxReconnectAttempts = false := by
  have armed := (unscheduled_of_reaches reaches).armed_iff
    (unscheduled_of_reaches (reaches.step trivial step)) config
  constructor
  · exact fun reconnects => armed.mp (reconnects fails)
  · exact fun unasked _ => armed.mpr unasked

/-! ## A contract without `on` -/

/-- `contract` is a promise, as `getContract` is not awaited. -/
def onMissing : JsError := .ofMessage "contract.on is not a function"

def missing : List (Move Call JsError) :=
  [.start .onModuleInit, .serve 0 none, .serve 0 (some onMissing), .serve 0 none]

theorem connectFails_of_missing (config : Config) : ∃ pool event next,
    (service config).Reaches always ⟨.initial, []⟩ pool ∧
      (service config).Step pool (.serve 0 event) next ∧ ConnectFails 0 next := by
  apply (service config).exists_serve_of_play (fun _ _ => true)
    (P := fun _ next => ConnectFails 0 next) (fun _ _ _ => trivial) missing 0 none
  rfl

def unasked : Config := ⟨.finite 0, .finite 5000⟩

theorem reconnects_unasked : ∃ pool event next,
    (service unasked).Reaches always ⟨.initial, []⟩ pool ∧
      (service unasked).Step pool (.serve 0 event) next ∧ ConnectFails 0 next ∧
      Reconnects unasked 0 pool next := by
  obtain ⟨pool, event, next, reaches, step, fails⟩ := connectFails_of_missing unasked
  exact ⟨pool, event, next, reaches, step, fails, (reconnects_iff reaches step fails).mpr (by decide)⟩

/-- After the start has failed no timer will connect, though ten attempts are left. -/
theorem unreconnected : ∃ pool event next,
    (service defaultConfig).Reaches always ⟨.initial, []⟩ pool ∧
      (service defaultConfig).Step pool (.serve 0 event) next ∧
      ¬ Reconnects defaultConfig 0 pool next := by
  obtain ⟨pool, event, next, reaches, step, fails⟩ := connectFails_of_missing defaultConfig
  refine ⟨pool, event, next, reaches, step, fun reconnects => ?_⟩
  have armed := (unscheduled_of_reaches reaches).armed_iff
    (unscheduled_of_reaches (reaches.step trivial step)) defaultConfig
  exact absurd (armed.mp (reconnects fails)) (by decide)

end Kanaka.Backend.EventListenerService
