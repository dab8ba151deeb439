import Kanaka.Backend.LockService

/-! # Locks and their owners -/

namespace Kanaka.Backend.LockService
open Async

abbrev Calls := Pool Call Op Reply String Value State

abbrev Stage := Running Call Op Reply String Value

abbrev Notes := Option (Event Op Reply String)

/-! ## What a call asks for, by the last answer that it got -/

def Call.Generates (call : Call) : Prop :=
  match call.kind with
  | .acquire _ => True
  | .withLock _ => True
  | _ => False

instance (call : Call) : Decidable call.Generates := by
  unfold Call.Generates
  split <;> infer_instance

def Call.Owns (call : Call) (last : Notes) : Prop :=
  last = some ⟨.get (lockKey call.key), .ok (some call.token)⟩

def Call.Holds (call : Call) (last : Notes) : Prop :=
  ∃ ttl, last = some ⟨.setNX (lockKey call.key) call.token ttl, .ok true⟩

def Asks (call : Call) (last : Notes) : Op → Prop
  | .setNX key value _ => key = lockKey call.key ∧ value = call.token ∧ call.Generates
  | .get key => key = lockKey call.key
  | .set key value _ => call.Owns last ∧ key = lockKey call.key ∧ value = call.token
  | .del key => call.Owns last ∧ key = lockKey call.key
  | .setTimeout _ => True
  | .fn key token => call.Holds last ∧ key = call.key ∧ token = call.token ∧ call.Generates

section Follows
variable {call : Call} {last : Notes}

abbrev Keeps {α : Type} (call : Call) (R : Notes → α → Prop) (last : Notes) (program : Program α) :
    Prop :=
  Task.Follows (fun _ event => some event) (Asks call) R (fun _ _ => True) last program

theorem keeps_await (op : Op) {R : Notes → Reply op → Prop} {E : Notes → String → Prop}
    (asks : Asks call last op) (replied : ∀ reply, R (some ⟨op, .ok reply⟩) reply)
    (failed : ∀ error, E (some ⟨op, .error error⟩) error) :
    Task.Follows (fun _ event => some event) (Asks call) R E last (await op) :=
  Task.Follows.perform asks replied failed

/-- Either the call holds the lock or nothing is returned. -/
def Result (call : Call) (last : Notes) (result : Option String) : Prop :=
  ∀ token ∈ result, token = call.token ∧ call.Holds last

theorem keeps_attempt (generates : call.Generates) (opts : Opts) :
    Keeps call (fun last returned => ∀ result ∈ returned, Result call last result) last
      (attempt call.key call.token opts) := by
  apply Task.Follows.tryCatch
  apply Task.Follows.bind
  apply keeps_await (.setNX _ _ _)
  · exact ⟨rfl, rfl, generates⟩
  · intro acquired
    cases acquired with
    | true =>
        apply Task.Follows.done
        rintro _ ⟨⟩ _ ⟨⟩
        exact ⟨rfl, _, rfl⟩
    | false =>
        apply Task.Follows.bind
        apply keeps_await (.setTimeout _)
        · exact trivial
        · exact fun _ => .done (by simp)
        · exact fun _ => .done (by simp [Result])
  · exact fun _ => .done (by simp [Result])

theorem keeps_attempts (generates : call.Generates) (opts : Opts) (left : Nat) :
    Keeps call (Result call) last (attempts call.key call.token opts left) := by
  induction left generalizing last with
  | zero => exact .done (by simp [Result])
  | succ left ih =>
      apply Task.Follows.bind
      apply (keeps_attempt generates opts).weaken
      · intro last returned result
        cases returned with
        | none => exact ih
        | some returned => exact .done (result _ rfl)
      · exact fun _ _ _ => trivial

theorem keeps_change (op : Op) (missed : Option String → Bool)
    (asks : ∀ last, call.Owns last → Asks call last op) :
    Keeps call (fun _ _ => True) last (Task.tryCatch (do
      let currentToken ← await (.get (lockKey call.key))
      if currentToken = some call.token then
        let _ ← await op
        return true
      else return missed currentToken)
      fun _ => return false) := by
  apply Task.Follows.tryCatch
  apply Task.Follows.bind
  apply keeps_await (.get _)
  · exact rfl
  · intro currentToken
    split
    · rename_i own
      apply Task.Follows.bind
      apply keeps_await op
      · exact asks _ (by rw [own]; rfl)
      · exact fun _ => .done trivial
      · exact fun _ => .done trivial
    · exact .done trivial
  · exact fun _ => .done trivial

theorem keeps_release : Keeps call (fun _ _ => True) last (release call.key call.token) :=
  keeps_change (.del _) (fun currentToken => currentToken = none) fun _ owns => ⟨owns, rfl⟩

theorem keeps_extend (ttl : Nat) :
    Keeps call (fun _ _ => True) last (extend call.key call.token ttl) :=
  keeps_change (.set _ _ _) (fun _ => false) fun _ owns => ⟨owns, rfl, rfl⟩

theorem keeps_withLock (generates : call.Generates) (options : LockOptions) :
    Keeps call (fun _ _ => True) last (withLock call.key call.token options) := by
  apply Task.Follows.bind
  apply (keeps_attempts generates options.opts options.opts.retries).weaken
  · intro last result granted
    cases result with
    | none => exact .fail trivial
    | some token =>
        obtain ⟨rfl, holds⟩ := granted _ rfl
        simp only
        split
        · exact .fail trivial
        · apply Task.Follows.bind
          have ended : ∀ (last : Notes) (outcome : Except String Unit),
              Keeps call (fun _ _ => True) last (do
                let _ ← release call.key call.token
                Task.ofExcept outcome) := by
            intro last outcome
            apply Task.Follows.bind
            apply keeps_release.weaken
            · intro last _ _
              cases outcome with
              | ok _ => exact .done trivial
              | error _ => exact .fail trivial
            · exact fun _ _ _ => trivial
          apply Task.Follows.tryCatch
          apply Task.Follows.bind
          apply keeps_await (.fn _ _)
          · exact ⟨holds, rfl, rfl, generates⟩
          · exact fun _ => .done (ended _ _)
          · exact fun _ => .done (ended _ _)
  · exact fun _ _ _ => trivial

theorem keeps_body (call : Call) : Keeps call (fun _ _ => True) none (body call) := by
  unfold body
  split
  · rename_i options kind
    apply Task.Follows.bind
    apply (keeps_attempts (by simp [Call.Generates, kind]) _ _).weaken
    · exact fun _ _ _ => .done trivial
    · exact fun _ _ _ => trivial
  · apply Task.Follows.bind
    apply keeps_release.weaken
    · exact fun _ _ _ => .done trivial
    · exact fun _ _ _ => trivial
  · apply Task.Follows.bind
    apply (keeps_extend _).weaken
    · exact fun _ _ _ => .done trivial
    · exact fun _ _ _ => trivial
  · rename_i options kind
    apply Task.Follows.bind
    apply (keeps_withLock (by simp [Call.Generates, kind]) options).weaken
    · exact fun _ _ _ => .done trivial
    · exact fun _ _ _ => trivial

end Follows

def discipline : service.Discipline Notes where
  note _ event := some event
  begun := none
  asks := Asks
  returns _ _ _ := True
  throws _ _ _ := True
  follows := keeps_body

/-! ## What one operation does -/

def next (stage : Stage) : Option Op :=
  match stage.rest with
  | .await op _ => some op
  | _ => none

def State.put (s : State) (key value : String) (deadline : Option Nat) : State :=
  { s with redis := s.redis.set key value deadline }

def State.drop (s : State) (key : String) : State := { s with redis := s.redis.del key }

def State.grant (s : State) (token : String) (deadline : Nat) : State :=
  { s with granted := Function.update s.granted token deadline }

def deadline (s : State) (ttl : Nat) : Option Nat :=
  if 0 < ttl then some (s.now + ttl * 1000) else none

inductive Effect (call : Call) (last : Notes) (s : State) : Event Op Reply String → State → Prop where
  | quiet {event} : (∀ key value, event = ⟨.get key, .ok (some value)⟩ → s.get key = some value) →
      ¬ call.Holds (some event) → Effect call last s event s
  | acquired {ttl} : call.Generates → s.get (lockKey call.key) = none →
      Effect call last s ⟨.setNX (lockKey call.key) call.token ttl, .ok true⟩
        ((s.put (lockKey call.key) call.token (some (s.now + ttl * 1000))).grant call.token
          (s.now + ttl * 1000))
  | extended {ttl} : call.Owns last →
      Effect call last s ⟨.set (lockKey call.key) call.token ttl, .ok ()⟩
        (s.put (lockKey call.key) call.token (deadline s ttl))
  | released : call.Owns last →
      Effect call last s ⟨.del (lockKey call.key), .ok ()⟩ (s.drop (lockKey call.key))

theorem effect_of_serves {call : Call} {last : Notes} {s after : State} {op : Op}
    {answer : Except String (Reply op)} (asks : Asks call last op)
    (serves : service.Serves op s answer after) : Effect call last s ⟨op, answer⟩ after := by
  cases serves with
  | error failed =>
      have same : after = s := by
        cases op <;> cases failed <;> rfl
      subst same
      exact .quiet (by rintro _ _ ⟨⟩) (by rintro ⟨_, ⟨⟩⟩)
  | ok =>
      cases op with
      | setNX key value ttl =>
          obtain ⟨rfl, rfl, generates⟩ := asks
          cases found : s.get (lockKey call.key) with
          | none =>
              have set := Expiring.Store.setNX_of_none found call.token (some (s.now + ttl * 1000))
              simp only [service, perform, set]
              exact .acquired generates found
          | some other =>
              have kept := Expiring.Store.setNX_of_some found call.token (some (s.now + ttl * 1000))
              simp only [service, perform, kept]
              exact .quiet (by rintro _ _ ⟨⟩) (by rintro ⟨_, ⟨⟩⟩)
      | get key =>
          refine .quiet ?_ (by rintro ⟨_, ⟨⟩⟩)
          intro key value same
          obtain ⟨ops, answers⟩ := Event.mk.inj same
          cases ops
          exact Except.ok.inj (eq_of_heq answers)
      | set key value ttl =>
          obtain ⟨owns, rfl, rfl⟩ := asks
          exact .extended owns
      | del key =>
          obtain ⟨owns, rfl⟩ := asks
          exact .released owns
      | setTimeout delay => exact .quiet (by rintro _ _ ⟨⟩) (by rintro ⟨_, ⟨⟩⟩)
      | fn key token => exact .quiet (by rintro _ _ ⟨⟩) (by rintro ⟨_, ⟨⟩⟩)

section State
variable {s : State} {key other value token : String} {at_ : Option Nat} {ttl : Nat}

theorem get_put_of_ne (away : other ≠ key) : (s.put key value at_).get other = s.get other :=
  Expiring.Store.get_set_of_ne away

theorem get_grant {deadline : Nat} : (s.grant token deadline).get key = s.get key := rfl

theorem get_drop_of_ne (away : other ≠ key) : (s.drop key).get other = s.get other :=
  Expiring.Store.get_del_of_ne away

theorem get_drop_self : (s.drop key).get key = none := Expiring.Store.get_del_self

theorem eq_of_get_put {found : String} (got : (s.put key value at_).get key = some found) :
    found = value := by
  simp only [State.get, State.put, Expiring.Store.get_set_self] at got
  split at got
  · exact (Option.some.inj got).symm
  · contradiction

end State

section Invariants
variable {pool : Calls} {stage : Stage} {key token : String}

theorem asks_of_next {op : Op} (keeps : discipline.Keeps stage) (asked : next stage = some op) :
    Asks stage.call (discipline.notes stage) op := by
  obtain ⟨call, history, rest⟩ := stage
  cases rest with
  | done value => contradiction
  | fail error => contradiction
  | await op' resume =>
      cases asked
      exact keeps.asks

def Op.writes (key : String) : Op → Bool
  | .set written _ _ => written = key
  | .del deleted => deleted = key
  | _ => false

def Touches (key : String) (stage : Stage) : Prop := (next stage).any (·.writes key) = true

instance (key : String) (stage : Stage) : Decidable (Touches key stage) :=
  inferInstanceAs (Decidable (_ = _))

theorem touches_of_writes {op : Op} (asked : next stage = some op) (writes : op.writes key = true) :
    Touches key stage := by
  rw [Touches, asked]
  exact writes

theorem Touches.owns (touches : Touches key stage) (keeps : discipline.Keeps stage) :
    stage.call.Owns (discipline.notes stage) ∧ key = lockKey stage.call.key := by
  obtain ⟨op, asked, writes⟩ := (Option.any_eq_true _ _).mp touches
  have asks := asks_of_next keeps asked
  cases op with
  | set written value ttl => exact ⟨asks.1, (of_decide_eq_true writes).symm.trans asks.2.1⟩
  | del deleted => exact ⟨asks.1, (of_decide_eq_true writes).symm.trans asks.2⟩
  | _ => contradiction

def InBody (key token : String) (stage : Stage) : Prop := next stage = some (.fn key token)

theorem InBody.holds (inside : InBody key token stage) (keeps : discipline.Keeps stage) :
    stage.call.Holds (discipline.notes stage) ∧ key = stage.call.key ∧ token = stage.call.token ∧
      stage.call.Generates := asks_of_next keeps inside

structure Settled (pool : Calls) : Prop where
  own : ∀ stage ∈ pool.tasks, ∀ key, Touches key stage → ∀ value,
    pool.state.get key = some value → value = stage.call.token
  agree : ∀ stage ∈ pool.tasks, ∀ other ∈ pool.tasks, ∀ key, Touches key stage →
    Touches key other → stage.call.token = other.call.token

/-- No call acquires a key while another is about to write it. -/
def acquiresAlone (pool : Calls) : Action Call Op Reply String State → Bool
  | .serve _ ⟨.setNX key _ _, .ok true⟩ => pool.tasks.all fun stage => ¬ Touches key stage
  | _ => true

theorem Settled.start (settled : Settled pool) (call : Call)
    (keeps : discipline.Keeps ⟨call, [], body call⟩) :
    Settled ⟨pool.state, pool.tasks ++ [⟨call, [], body call⟩]⟩ := by
  have untouching : ∀ key, ¬ Touches key ⟨call, [], body call⟩ := by
    intro key touches
    obtain ⟨owns, -⟩ := touches.owns keeps
    cases owns
  have old : ∀ stage ∈ pool.tasks ++ [⟨call, [], body call⟩], ∀ key, Touches key stage →
      stage ∈ pool.tasks := by
    intro stage member key touches
    rcases List.mem_append.mp member with member | last
    · exact member
    · rw [List.mem_singleton] at last
      exact absurd (last ▸ touches) (untouching key)
  refine ⟨fun stage member key touches => settled.own stage (old stage member key touches) key touches, ?_⟩
  intro stage member other member' key touches touches'
  exact settled.agree stage (old stage member key touches) other (old other member' key touches')
    key touches touches'

variable {task : Nat} {new : Stage} {event : Event Op Reply String} {after : State}

theorem Settled.serve_untouching (settled : Settled pool) (untouching : ∀ key, ¬ Touches key new)
    (own : ∀ stage ∈ pool.tasks, ∀ key, Touches key stage → ∀ value,
      after.get key = some value → value = stage.call.token) :
    Settled ⟨after, pool.tasks.set task new⟩ := by
  have old : ∀ stage ∈ pool.tasks.set task new, ∀ key, Touches key stage → stage ∈ pool.tasks := by
    intro stage member key touches
    rcases List.mem_or_eq_of_mem_set member with member | rfl
    · exact member
    · exact absurd touches (untouching key)
  refine ⟨fun stage member key touches => own stage (old stage member key touches) key touches, ?_⟩
  intro stage member other member' key touches touches'
  exact settled.agree stage (old stage member key touches) other (old other member' key touches')
    key touches touches'

theorem Settled.serve_quiet (settled : Settled pool)
    (read : ∀ key, Touches key new → pool.state.get key = some new.call.token) :
    Settled ⟨pool.state, pool.tasks.set task new⟩ := by
  constructor
  · intro stage member key touches value found
    rcases List.mem_or_eq_of_mem_set member with member | rfl
    · exact settled.own stage member key touches value found
    · exact Option.some.inj (found.symm.trans (read key touches))
  · intro stage member other member' key touches touches'
    rcases List.mem_or_eq_of_mem_set member with old | rfl
    · rcases List.mem_or_eq_of_mem_set member' with old' | rfl
      · exact settled.agree stage old other old' key touches touches'
      · exact (settled.own stage old key touches _ (read key touches')).symm
    · rcases List.mem_or_eq_of_mem_set member' with old' | rfl
      · exact settled.own other old' key touches' _ (read key touches)
      · rfl

theorem Settled.serve (settled : Settled pool) (member : stage ∈ pool.tasks)
    (asked : next stage = some event.op) (keeps : discipline.Keeps new) (last : discipline.notes new = some event)
    (effect : Effect stage.call (discipline.notes stage) pool.state event after)
    (permitted : acquiresAlone pool (.serve task event) = true) :
    Settled ⟨after, pool.tasks.set task new⟩ := by
  have read : ∀ key, Touches key new → event = ⟨.get key, .ok (some new.call.token)⟩ := by
    intro key touches
    obtain ⟨owns, same⟩ := touches.owns keeps
    rw [Call.Owns, last, ← same] at owns
    exact Option.some.inj owns
  cases effect with
  | quiet got _ => exact settled.serve_quiet fun key touches => got key _ (read key touches)
  | acquired _ absent =>
      refine settled.serve_untouching (fun key touches => by cases read key touches) ?_
      intro other member' key touches value found
      have away : key ≠ lockKey stage.call.key := by
        rintro rfl
        exact of_decide_eq_true (List.all_eq_true.mp permitted other member') touches
      rw [get_grant, get_put_of_ne away] at found
      exact settled.own other member' key touches value found
  | extended _ =>
      refine settled.serve_untouching (fun key touches => by cases read key touches) ?_
      intro other member' key touches value found
      by_cases here : key = lockKey stage.call.key
      · subst here
        have writes := touches_of_writes asked (decide_eq_true (Eq.refl (lockKey stage.call.key)))
        exact (eq_of_get_put found).trans (settled.agree stage member other member' _ writes touches)
      · rw [get_put_of_ne here] at found
        exact settled.own other member' key touches value found
  | released _ =>
      refine settled.serve_untouching (fun key touches => by cases read key touches) ?_
      intro other member' key touches value found
      by_cases here : key = lockKey stage.call.key
      · subst here
        rw [get_drop_self] at found
        contradiction
      · rw [get_drop_of_ne here] at found
        exact settled.own other member' key touches value found

theorem Settled.drift (settled : Settled pool) (drift : Drift pool.state after) :
    Settled ⟨after, pool.tasks⟩ := by
  obtain ⟨now, later, rfl⟩ := drift
  refine ⟨fun stage member key touches value found => ?_, settled.agree⟩
  exact settled.own stage member key touches value (Expiring.Store.get_of_later later found)

/-- What is stored under a key is changed by a call with that token only. -/
def Owned (before : Calls) (action : Action Call Op Reply String State) (after : Calls) : Prop :=
  ∀ key value, before.state.get key = some value →
    after.state.redis.lookup key ≠ before.state.redis.lookup key →
    ∃ task event stage, action = .serve task event ∧ before.tasks[task]? = some stage ∧
      stage.call.token = value

theorem owned_of_step {action : Action Call Op Reply String State} {pool' : Calls}
    (settled : Settled pool) (keeps : ∀ stage ∈ pool.tasks, discipline.Keeps stage)
    (step : service.Step pool action pool') : Owned pool action pool' := by
  intro key value stored changed
  cases step with
  | start => exact absurd rfl changed
  | drift drift =>
      obtain ⟨_, _, rfl⟩ := drift
      exact absurd rfl changed
  | @serve task call history op resume answer after found serves =>
      have member := List.mem_of_getElem? found
      have asked : next ⟨call, history, .await op resume⟩ = some op := rfl
      refine ⟨_, _, _, rfl, found, ?_⟩
      cases effect_of_serves (keeps _ member).asks serves with
      | quiet => exact absurd rfl changed
      | acquired _ absent =>
          refine absurd (AList.lookup_insert_ne ?_) changed
          rintro rfl
          rw [absent] at stored
          contradiction
      | extended _ =>
          by_cases here : key = lockKey call.key
          · subst here
            exact (settled.own _ member _ (touches_of_writes asked (decide_eq_true rfl)) _ stored).symm
          · exact absurd (AList.lookup_insert_ne here) changed
      | released _ =>
          by_cases here : key = lockKey call.key
          · subst here
            exact (settled.own _ member _ (touches_of_writes asked (decide_eq_true rfl)) _ stored).symm
          · exact absurd (AList.lookup_erase_ne here) changed

theorem settled_of_reaches {state : State}
    (reaches : service.Reaches (acquiresAlone · ·) ⟨state, []⟩ pool) :
    Settled pool ∧ ∀ stage ∈ pool.tasks, discipline.Keeps stage := by
  apply reaches.invariant discipline
  · simp
  · exact ⟨by simp, by simp⟩
  · exact fun pool call settled _ => settled.start call (.start call)
  · intro pool task call history op resume answer after settled found keeps permitted serves
    refine settled.serve (List.mem_of_getElem? found) rfl (keeps.serve answer) ?_
      (effect_of_serves keeps.asks serves) permitted
    exact List.foldl_concat _ _ _ _
  · exact fun pool after settled _ drift => settled.drift drift

/-! ## Exclusion -/

def freshTokens (pool : Calls) : Action Call Op Reply String State → Bool
  | .start call => pool.tasks.all fun stage =>
      ¬ (call.Generates ∧ stage.call.Generates ∧ stage.call.token = call.token)
  | _ => true

def bodies (pool : Calls) (check : String → String → Bool) : Bool :=
  pool.tasks.all fun stage =>
    match next stage with
    | some (.fn key token) => check (lockKey key) token
    | _ => true

def inTime (pool : Calls) : Bool :=
  bodies pool fun _ token => pool.state.now < pool.state.granted token

/-- The lock of a body that runs is neither released nor cut short. -/
def keepsUp (pool : Calls) : Action Call Op Reply String State → Bool
  | .serve _ ⟨.del released, .ok ()⟩ =>
      bodies pool fun key token => ¬ (key = released ∧ pool.state.get key = some token)
  | .serve _ ⟨.set extended _ ttl, .ok ()⟩ =>
      bodies pool fun key token => key = extended →
        ttl = 0 ∨ pool.state.granted token ≤ pool.state.now + ttl * 1000
  | _ => true

def Exclusive (pool : Calls) : Prop :=
  ∀ (task other : Nat) (stage stage' : Stage) (key token token' : String),
    pool.tasks[task]? = some stage → pool.tasks[other]? = some stage' →
    InBody key token stage → InBody key token' stage' → task = other

structure Held (pool : Calls) : Prop where
  stored : ∀ (task : Nat) (stage : Stage), pool.tasks[task]? = some stage →
    ∀ key token, InBody key token stage →
      ∃ deadline, pool.state.redis.lookup (lockKey key) = some ⟨token, deadline⟩ ∧
        ∀ d ∈ deadline, pool.state.granted token ≤ d
  distinct : ∀ (task other : Nat) (stage stage' : Stage),
    pool.tasks[task]? = some stage → pool.tasks[other]? = some stage' →
    stage.call.Generates → stage'.call.Generates → stage.call.token = stage'.call.token →
    task = other

theorem Held.exclusive (held : Held pool) (keeps : ∀ stage ∈ pool.tasks, discipline.Keeps stage) :
    Exclusive pool := by
  intro task other stage stage' key token token' found found' inside inside'
  obtain ⟨_, stored, -⟩ := held.stored task stage found key token inside
  obtain ⟨_, stored', -⟩ := held.stored other stage' found' key token' inside'
  obtain ⟨-, -, own, generates⟩ := inside.holds (keeps _ (List.mem_of_getElem? found))
  obtain ⟨-, -, own', generates'⟩ := inside'.holds (keeps _ (List.mem_of_getElem? found'))
  have same : token = token' :=
    congrArg Expiring.value (Option.some.inj (stored.symm.trans stored'))
  exact held.distinct task other stage stage' found found' generates generates'
    (own.symm.trans (same.trans own'))

theorem of_bodies {check : String → String → Bool} (all : bodies pool check = true)
    (member : stage ∈ pool.tasks) {key token : String} (inside : InBody key token stage) :
    check (lockKey key) token = true := by
  have here := List.all_eq_true.mp all stage member
  rw [InBody] at inside
  simpa only [inside] using here

theorem Held.get (held : Held pool) (time : inTime pool = true) (found : pool.tasks[task]? = some stage)
    {key token : String} (inside : InBody key token stage) :
    pool.state.get (lockKey key) = some token := by
  obtain ⟨deadline, stored, lasting⟩ := held.stored task stage found key token inside
  have soon := of_decide_eq_true (of_bodies time (List.mem_of_getElem? found) inside)
  refine Expiring.Store.get_eq_some.mpr ⟨deadline, stored, ?_⟩
  cases deadline with
  | none => rfl
  | some d => exact decide_eq_true (Nat.lt_of_lt_of_le soon (lasting d rfl))

theorem Held.start (held : Held pool) (call : Call)
    (permitted : freshTokens pool (.start call) = true) :
    Held ⟨pool.state, pool.tasks ++ [⟨call, [], body call⟩]⟩ := by
  have fresh : ∀ {task : Nat} {stage : Stage}, pool.tasks[task]? = some stage →
      call.Generates → stage.call.Generates → stage.call.token ≠ call.token := by
    intro task stage found generates generates' same
    exact of_decide_eq_true (List.all_eq_true.mp permitted stage (List.mem_of_getElem? found))
      ⟨generates, generates', same⟩
  constructor
  · intro task stage found key token inside
    rcases getElem?_start found with old | ⟨-, rfl⟩
    · exact held.stored task stage old key token inside
    · obtain ⟨⟨_, none⟩, -⟩ := inside.holds (.start call)
      cases none
  · intro task other stage stage' found found' generates generates' same
    rcases getElem?_start found with old | ⟨rfl, rfl⟩
    · rcases getElem?_start found' with old' | ⟨rfl, rfl⟩
      · exact held.distinct task other stage stage' old old' generates generates' same
      · exact absurd same (fresh old generates' generates)
    · rcases getElem?_start found' with old' | ⟨rfl, -⟩
      · exact absurd same.symm (fresh old' generates generates')
      · rfl

theorem Held.drift (held : Held pool) (drift : Drift pool.state after) : Held ⟨after, pool.tasks⟩ := by
  obtain ⟨now, -, rfl⟩ := drift
  exact ⟨held.stored, held.distinct⟩

section Serve
variable (held : Held pool) (found : pool.tasks[task]? = some stage) (call : new.call = stage.call)
include held found call

theorem Held.distinct_serve {place other : Nat} {running running' : Stage}
    (served : (pool.tasks.set task new)[place]? = some running)
    (served' : (pool.tasks.set task new)[other]? = some running')
    (generates : running.call.Generates) (generates' : running'.call.Generates)
    (same : running.call.token = running'.call.token) : place = other := by
  have before : ∀ {place : Nat} {running : Stage},
      (pool.tasks.set task new)[place]? = some running →
      ∃ stage, pool.tasks[place]? = some stage ∧ stage.call = running.call := by
    intro place running served
    rcases getElem?_serve served with ⟨-, old⟩ | ⟨rfl, rfl⟩
    · exact ⟨running, old, rfl⟩
    · exact ⟨stage, found, call.symm⟩
  obtain ⟨stage, old, call⟩ := before served
  obtain ⟨stage', old', call'⟩ := before served'
  rw [← call] at generates same
  rw [← call'] at generates' same
  exact held.distinct place other stage stage' old old' generates generates' same

variable (settled : Settled pool) (time : inTime pool = true)
  (keeps : ∀ stage ∈ pool.tasks, discipline.Keeps stage)
  (asked : next stage = some event.op)
  (effect : Effect stage.call (discipline.notes stage) pool.state event after)
  (permitted : keepsUp pool (.serve task event) = true)
include settled time keeps asked effect permitted

omit call in
theorem Held.stored_other {place : Nat} {other : Stage} (apart : place ≠ task)
    (old : pool.tasks[place]? = some other) {key token : String} (inside : InBody key token other) :
    ∃ deadline, after.redis.lookup (lockKey key) = some ⟨token, deadline⟩ ∧
      ∀ d ∈ deadline, after.granted token ≤ d := by
  have member := List.mem_of_getElem? old
  obtain ⟨deadline, stored, lasting⟩ := held.stored place other old key token inside
  have there := held.get time old inside
  cases effect with
  | quiet => exact ⟨deadline, stored, lasting⟩
  | acquired generates absent =>
      have away : lockKey key ≠ lockKey stage.call.key := by
        intro same
        rw [same, absent] at there
        contradiction
      have other' : token ≠ stage.call.token := by
        obtain ⟨-, -, own, generates'⟩ := inside.holds (keeps other member)
        intro same
        exact apart (held.distinct place task other stage old found generates' generates
          (own.symm.trans same))
      refine ⟨deadline, (AList.lookup_insert_ne away).trans stored, fun d at_ => ?_⟩
      simpa only [State.grant, State.put, Function.update_of_ne other'] using lasting d at_
  | @extended ttl owns =>
      by_cases here : lockKey key = lockKey stage.call.key
      · have writes := touches_of_writes asked (decide_eq_true (Eq.refl (lockKey stage.call.key)))
        have own := settled.own stage (List.mem_of_getElem? found) _ writes token (here ▸ there)
        simp only [keepsUp] at permitted
        have longer := of_decide_eq_true (of_bodies permitted member inside) here
        refine ⟨_, by rw [here, own]; exact AList.lookup_insert _, fun d at_ => ?_⟩
        unfold LockService.deadline at at_
        split at at_
        · cases at_
          exact longer.resolve_left (by omega)
        · contradiction
      · exact ⟨deadline, (AList.lookup_insert_ne here).trans stored, lasting⟩
  | released owns =>
      by_cases here : lockKey key = lockKey stage.call.key
      · simp only [keepsUp] at permitted
        exact absurd ⟨here, here ▸ there⟩ (of_decide_eq_true (of_bodies permitted member inside))
      · exact ⟨deadline, (AList.lookup_erase_ne here).trans stored, lasting⟩

theorem Held.serve (keeps' : discipline.Keeps new) (last : discipline.notes new = some event) :
    Held ⟨after, pool.tasks.set task new⟩ := by
  refine ⟨?_, fun _ _ _ _ served served' => held.distinct_serve found call served served'⟩
  intro place running served key token inside
  rcases getElem?_serve served with ⟨apart, old⟩ | ⟨-, rfl⟩
  · exact held.stored_other found settled time keeps asked effect permitted apart old inside
  · obtain ⟨holds, rfl, rfl, -⟩ := inside.holds keeps'
    rw [last] at holds
    rw [call] at holds ⊢
    cases effect with
    | quiet _ none => exact absurd holds none
    | acquired =>
        refine ⟨_, AList.lookup_insert _, fun d at_ => ?_⟩
        cases at_
        simp [State.grant]
    | extended =>
        obtain ⟨_, same⟩ := holds
        cases same
    | released =>
        obtain ⟨_, same⟩ := holds
        cases same

end Serve

/-- Calls keep out of each other's way and bodies run in time. -/
def Careful (pool : Calls) (action : Action Call Op Reply String State) : Prop :=
  freshTokens pool action = true ∧ inTime pool = true ∧ acquiresAlone pool action = true ∧
    keepsUp pool action = true

theorem held_of_reaches {state : State} (reaches : service.Reaches Careful ⟨state, []⟩ pool) :
    (Settled pool ∧ Held pool) ∧ ∀ stage ∈ pool.tasks, discipline.Keeps stage := by
  have invariant : (Settled pool ∧ Held pool ∧ ∀ stage ∈ pool.tasks, discipline.Keeps stage) ∧
      ∀ stage ∈ pool.tasks, discipline.Keeps stage := by
    apply reaches.invariant discipline
    · simp
    · exact ⟨⟨by simp, by simp⟩, ⟨by simp, by simp⟩, by simp⟩
    · rintro pool call ⟨settled, held, keeps⟩ ⟨fresh, -⟩
      exact ⟨settled.start call (.start call), held.start call fresh, forall_start keeps (.start call)⟩
    · rintro pool task call history op resume answer after ⟨settled, held, keeps⟩ found kept
        ⟨-, time, alone, up⟩ serves
      have effect := effect_of_serves kept.asks serves
      have last : discipline.notes ⟨call, history ++ [⟨op, answer⟩], resume answer⟩ =
        some ⟨op, answer⟩ := List.foldl_concat _ _ _ _
      have served := kept.serve answer
      exact ⟨settled.serve (List.mem_of_getElem? found) rfl served last effect alone,
        held.serve found rfl settled time keeps rfl effect up served last,
        forall_serve keeps served⟩
    · rintro pool after ⟨settled, held, keeps⟩ - drift
      exact ⟨settled.drift drift, held.drift drift, keeps⟩
  exact ⟨⟨invariant.1.1, invariant.1.2.1⟩, invariant.2⟩

end Invariants

/-- As long as no call acquires a key that another is about to write, values are changed by their
owners only; bodies in time whose own locks are kept up do not overlap then. -/
theorem locks_safe_of_careful (state : State) :
    (∀ pool action pool', service.Reaches (acquiresAlone · ·) ⟨state, []⟩ pool →
      service.Step pool action pool' → Owned pool action pool') ∧
    ∀ pool, service.Reaches Careful ⟨state, []⟩ pool → Exclusive pool := by
  constructor
  · intro pool action pool' reaches step
    obtain ⟨settled, keeps⟩ := settled_of_reaches reaches
    exact owned_of_step settled keeps step
  · intro pool reaches
    obtain ⟨⟨-, held⟩, keeps⟩ := held_of_reaches reaches
    exact held.exclusive keeps

/-! ## A late deletion -/

def seconds (ttl : Nat) : LockOptions := ⟨some ttl, none, none⟩

def lock (token : String) (ttl : Nat) : Call := ⟨"k", token, .withLock (seconds ttl)⟩

def idle : Calls := ⟨⟨0, ∅, fun _ => 0⟩, []⟩

def serves (task n : Nat) : List (Move Call String) := List.replicate n (.serve task none)

def wait (ms : Nat) (s : State) : State := { s with now := s.now + ms }

theorem drift_wait (ms : Nat) (s : State) : Drift s (wait ms s) := ⟨_, Nat.le_add_right _ _, rfl⟩

instance (key token : String) (stage : Stage) : Decidable (InBody key token stage) :=
  inferInstanceAs (Decidable (_ = _))

def RunsBody (pool : Calls) (task : Nat) (key token : String) : Prop :=
  ∃ stage ∈ pool.tasks[task]?, InBody key token stage

instance (pool : Calls) (task : Nat) (key token : String) :
    Decidable (RunsBody pool task key token) :=
  inferInstanceAs (Decidable (∃ stage ∈ pool.tasks[task]?, _))

theorem locks_safe_of_turns : ∃ pool, service.Reaches Careful idle pool ∧
    RunsBody pool 1 "k" "b" ∧ Exclusive pool ∧
      ∀ action pool', service.Step pool action pool' → Owned pool action pool' := by
  have run : ∃ pool, service.Reaches Careful idle pool ∧ RunsBody pool 1 "k" "b" := by
    apply service.exists_of_playAll
      (fun pool action => freshTokens pool action && inTime pool && acquiresAlone pool action &&
        keepsUp pool action)
      (fun _ _ passed => by simpa [Careful, and_assoc] using passed)
      [(wait 0, .start (lock "a" 1) :: serves 0 4), (wait 1000, .start (lock "b" 30) :: serves 1 1)]
      (by simp [service, drift_wait])
    decide
  obtain ⟨pool, reaches, runs⟩ := run
  have alone : service.Reaches (acquiresAlone · ·) idle pool :=
    reaches.mono fun _ _ careful => careful.2.2.1
  exact ⟨pool, reaches, runs, (locks_safe_of_careful _).2 pool reaches,
    fun action pool' => (locks_safe_of_careful _).1 pool action pool' alone⟩

/-- The lock of the first body has expired when the first call deletes the key, which the second
holds by then; the third acquires it during the second body. -/
theorem bodies_overlap : ∃ pool,
    service.Reaches (fun pool action => freshTokens pool action = true ∧ inTime pool = true) idle
      pool ∧ pool.tasks.map (·.call) = [lock "a" 1, lock "b" 30, lock "c" 30] ∧ ¬ Exclusive pool := by
  have run : ∃ pool,
      service.Reaches (fun pool action => freshTokens pool action = true ∧ inTime pool = true) idle
        pool ∧ pool.tasks.map (·.call) = [lock "a" 1, lock "b" 30, lock "c" 30] ∧
        RunsBody pool 1 "k" "b" ∧ RunsBody pool 2 "k" "c" := by
    apply service.exists_of_playAll (fun pool action => freshTokens pool action && inTime pool)
      (fun _ _ passed => by simpa using passed)
      [(wait 0, .start (lock "a" 1) :: serves 0 3),
        (wait 1000, .start (lock "b" 30) :: serves 1 1 ++ serves 0 1 ++
          .start (lock "c" 30) :: serves 2 1)]
      (by simp [service, drift_wait])
    decide
  obtain ⟨pool, reaches, calls, ⟨stage, found, inside⟩, stage', found', inside'⟩ := run
  refine ⟨pool, reaches, calls, fun exclusive => ?_⟩
  exact absurd (exclusive 1 2 stage stage' "k" "b" "c" found found' inside inside') (by decide)

end Kanaka.Backend.LockService
