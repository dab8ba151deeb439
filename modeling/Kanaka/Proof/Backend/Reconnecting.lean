import Kanaka.Backend.RedisService

/-! # The reconnect timers of the Redis client -/

namespace Kanaka.Backend.RedisService
open Async

def backOff (earlier : Nat) : Nat := min (1000 * 2 ^ earlier) 30000

/-- The handle is that of the only pending timer, and the counter, up to its bound, is the number of
timers set since the client was last ready. -/
structure Bounded (s : State) : Prop where
  pending : s.timers.pending = [] ∨
    ∃ timer, s.timers.pending = [timer] ∧ s.reconnectTimer = some timer.handle
  scheduled : s.scheduled = (List.range (min s.reconnectAttempts maxReconnectAttempts)).map backOff

namespace Bounded
variable {s : State}

theorem initial (server : (command : Command) → Answer command) : Bounded (.initial server) :=
  ⟨.inl rfl, rfl⟩

theorem idle (bounded : Bounded s) (unheld : s.reconnectTimer = none) : s.timers.pending = [] := by
  rcases bounded.pending with quiet | ⟨timer, _, held⟩
  · exact quiet
  · rw [unheld] at held
    contradiction

theorem scheduleReconnect (bounded : Bounded s) : Bounded s.scheduleReconnect := by
  have noted := bounded.scheduled
  unfold State.scheduleReconnect
  split
  · exact bounded
  · rename_i unheld
    have quiet := bounded.idle (Option.not_isSome_iff_eq_none.mp unheld)
    dsimp only
    split
    · rename_i beyond
      have spent : maxReconnectAttempts ≤ s.reconnectAttempts := Nat.lt_succ_iff.mp beyond
      refine ⟨bounded.pending, ?_⟩
      change _ = (List.range (min (s.reconnectAttempts + 1) maxReconnectAttempts)).map backOff
      rw [noted, min_eq_right spent, min_eq_right (Nat.le_succ_of_le spent)]
    · rename_i within
      constructor
      · refine .inr ⟨⟨s.timers.next, backOff s.reconnectAttempts⟩, ?_, rfl⟩
        simp [quiet, backOff]
      · have before : min s.reconnectAttempts maxReconnectAttempts = s.reconnectAttempts := by omega
        have after : min (s.reconnectAttempts + 1) maxReconnectAttempts = s.reconnectAttempts + 1 := by
          omega
        rw [noted, before, after, List.range_succ, List.map_append]
        rfl

theorem release (bounded : Bounded s) {handle : Nat} (held : s.reconnectTimer = some handle) :
    Bounded { s with timers := s.timers.clear handle, reconnectTimer := none } := by
  refine ⟨.inl ?_, bounded.scheduled⟩
  rcases bounded.pending with quiet | ⟨timer, only, same⟩
  · simp [quiet]
  · rw [held, Option.some.injEq] at same
    exact same ▸ Timers.pending_clear_only only

theorem clearReconnect (bounded : Bounded s) : Bounded s.clearReconnect := by
  unfold State.clearReconnect
  split
  · exact bounded.release ‹_›
  · exact bounded

theorem fire (bounded : Bounded s) (handle : Nat) : Bounded (s.fire handle).2 := by
  unfold State.fire
  split
  · rename_i found
    have member := Timers.mem_of_job? found
    apply bounded.release
    rcases bounded.pending with quiet | ⟨timer, only, held⟩
    · rw [quiet] at member
      contradiction
    · rw [only, List.mem_singleton] at member
      rw [held, ← member]
  · exact bounded

theorem perform (bounded : Bounded s) (op : Op) : Bounded (perform op s).2 := by
  cases op with
  | setConnected connected => exact ⟨bounded.pending, bounded.scheduled⟩
  | scheduleReconnect => exact bounded.scheduleReconnect
  | clearReconnect => exact bounded.clearReconnect
  | fire handle => exact bounded.fire handle
  | isConnected | connect | quit | command => exact bounded

theorem failed (bounded : Bounded s) {op : Op} {after : State} (fails : failed op s = some after) :
    Bounded after := by
  cases op <;> cases fails <;> exact bounded

theorem drift (bounded : Bounded s) {after : State} (drifts : Drift s after) : Bounded after := by
  cases drifts with
  | ready => exact ⟨bounded.pending, rfl⟩
  | lost => exact ⟨bounded.pending, bounded.scheduled⟩
  | served => exact ⟨bounded.pending, bounded.scheduled⟩

end Bounded

variable {allowed : Calls → Action Call Op Reply JsError State → Prop}
  {server : (command : Command) → Answer command} {pool : Calls}

theorem bounded_of_reaches (reaches : service.Reaches allowed ⟨.initial server, []⟩ pool) :
    Bounded pool.state :=
  reaches.state (.initial server) (fun op _ bounded => bounded.perform op)
    (fun _ _ _ bounded fails => bounded.failed fails) (fun _ _ bounded drifts => bounded.drift drifts)

/-- Whatever fails, fires and is reported, and in whatever order: one timer at a time, and since the
client was last ready no more of them than attempts are allowed, each with its delay. -/
theorem reconnects_bounded (reaches : service.Reaches allowed ⟨.initial server, []⟩ pool) :
    pool.state.timers.pending.length ≤ 1 ∧ pool.state.scheduled.length ≤ maxReconnectAttempts ∧
      ∀ earlier delay, pool.state.scheduled[earlier]? = some delay →
        delay = min (1000 * 2 ^ earlier) 30000 := by
  have bounded := bounded_of_reaches reaches
  refine ⟨?_, ?_, ?_⟩
  · rcases bounded.pending with quiet | ⟨timer, only, _⟩
    · simp [quiet]
    · simp [only]
  · rw [bounded.scheduled, List.length_map, List.length_range]
    exact min_le_right _ _
  · intro earlier delay found
    rw [bounded.scheduled, List.getElem?_map] at found
    obtain ⟨place, ranged, same⟩ := Option.map_eq_some_iff.mp found
    obtain ⟨_, placed⟩ := List.getElem?_eq_some_iff.mp ranged
    rw [List.getElem_range] at placed
    rw [← same, ← placed]
    rfl

/-! ## Two attempts -/

def emptyServer : (command : Command) → Answer command
  | .get _ => none
  | .keys _ => []
  | .zCard _ | .zCount _ _ _ => 0
  | .set _ _ _ | .del _ | .zAdd _ _ _ | .zRemRangeByScore _ _ _ | .expire _ _ => ()

def refused : JsError := .ofMessage "connect ECONNREFUSED 127.0.0.1:6379"

def refusedTwice : List (Move Call JsError) :=
  [.start .onModuleInit, .serve 0 (some refused), .serve 0 none, .serve 0 none,
    .start (.timer 0), .serve 1 none, .serve 1 (some refused), .serve 1 none, .serve 1 none]

theorem reconnects_bounded_twice :
    ∃ pool, service.Reaches (fun _ _ => True) ⟨.initial emptyServer, []⟩ pool ∧
      pool.state.scheduled = [1000, 2000] ∧ pool.state.timers.pending.length ≤ 1 ∧
      pool.state.scheduled.length ≤ maxReconnectAttempts := by
  have run : ∃ pool, service.Reaches (fun _ _ => True) ⟨.initial emptyServer, []⟩ pool ∧
      pool.state.scheduled = [1000, 2000] := by
    apply service.exists_of_play (fun _ _ => true) (fun _ _ _ => trivial) refusedTwice
    decide
  obtain ⟨pool, reaches, twice⟩ := run
  have bounded := reconnects_bounded reaches
  exact ⟨pool, reaches, twice, bounded.1, bounded.2.1⟩

end Kanaka.Backend.RedisService
