import Kanaka.Async.ReadThrough
import Kanaka.Backend.Text
import Kanaka.Proof.Backend.CacheKeys

/-! # Whose response a request is answered with -/

namespace Kanaka.Backend.HttpCacheInterceptor
open Json Async

section Separated
variable {context context' : Context} {request request' : Request}

/-- What the router and the users' ids look like: the path begins with a slash, which the names
before it do not have, and the id has no colon. -/
structure Routed (exchange : Exchange) : Prop where
  base : '/' ∉ (baseKey exchange.context).toList
  path : ∃ rest, (urlPath exchange.request).toList = '/' :: rest
  user : ':' ∉ (userId exchange.request).toList

structure SameRequest (first second : Exchange) : Prop where
  base : baseKey first.context = baseKey second.context
  path : urlPath first.request = urlPath second.request
  query : queryParams first.request = queryParams second.request
  user : userId first.request = userId second.request

variable {first second : Exchange}

theorem separated {exchange : Exchange} (routed : Routed exchange) :
    '/' ∉ (baseKey exchange.context).toList ++ [':'] := by
  simp [routed.base]

theorem sameRequest_of_hashed (routed : Routed first) (routed' : Routed second)
    (same : hashed first.context first.request = hashed second.context second.request) :
    SameRequest first second := by
  obtain ⟨rest, path⟩ := routed.path
  obtain ⟨rest', path'⟩ := routed'.path
  have texts := congrArg String.toList same
  have bases : (baseKey first.context).toList ++ [':'] =
      (baseKey second.context).toList ++ [':'] := by
    rw [toList_hashed, toList_hashed, path, path'] at texts
    apply And.left
    apply before_inj (separated routed) (separated routed')
    simpa using texts
  have base : baseKey first.context = baseKey second.context :=
    String.toList_inj.mp (List.append_cancel_right bases)
  rw [toList_hashed, toList_hashed, base, List.append_cancel_left_eq, List.cons.injEq] at texts
  obtain ⟨requests, users⟩ := append_last routed.user routed'.user texts.2
  obtain ⟨paths, queries⟩ := (bracketed_queryParams first.request).separated
    (bracketed_queryParams second.request) (by decide) requests
  exact ⟨base, String.toList_inj.mp paths, String.toList_inj.mp queries, String.toList_inj.mp users⟩

theorem sameRequest_of_key {sha256 : String → String} (injective : sha256.Injective)
    (routed : Routed first) (routed' : Routed second) {text : String}
    (kept : key sha256 first = some text) (read : key sha256 second = some text) :
    SameRequest first second := by
  have same : generateCacheKey sha256 first.context first.request =
      generateCacheKey sha256 second.context second.request := by
    unfold key intercept at kept read
    split at kept
    · cases kept
    · split at read
      · cases read
      · exact Option.some.inj (kept.trans read.symm)
  exact sameRequest_of_hashed routed routed' (injective same)

end Separated

/-! ## What a request does on its way -/

section Follows
variable {ρ W ε : Type} {sha256 : String → String} {exchange : Exchange}

abbrev History (ρ ε : Type) := List (Event (Op ρ) Reply ε)

def Handled (exchange : Exchange) (history : History ρ ε) (response : ρ) : Prop :=
  ⟨.handle exchange, .ok (some response)⟩ ∈ history

def Found (history : History ρ ε) (response : ρ) : Prop :=
  ∃ key, ⟨.get key, .ok (some response)⟩ ∈ history

variable (sha256) in
def Asks (exchange : Exchange) (history : History ρ ε) : Op ρ → Prop
  | .get text => key sha256 exchange = some text
  | .handle other => other = exchange
  | .set text response _ => key sha256 exchange = some text ∧ Handled exchange history response

def Returns (exchange : Exchange) (history : History ρ ε) (value : Option ρ) : Prop :=
  ∀ response, value = some response → Handled exchange history response ∨ Found history response

variable (sha256 exchange) in
abbrev Proper (history : History ρ ε) (task : Program ρ ε (Option ρ)) : Prop :=
  Task.Follows transcript (Asks sha256 exchange) (Returns exchange) (fun _ _ => True) history task

theorem follows_await {history : History ρ ε} (op : Op ρ) {R : History ρ ε → Reply op → Prop}
    {E : History ρ ε → ε → Prop} (asks : Asks sha256 exchange history op)
    (replied : ∀ reply, R (transcript history ⟨op, .ok reply⟩) reply)
    (failed : ∀ error, E (transcript history ⟨op, .error error⟩) error) :
    Task.Follows transcript (Asks sha256 exchange) R E history (await op) :=
  Task.Follows.perform asks replied failed

theorem proper_handle (history : History ρ ε) :
    Proper sha256 exchange history (await (.handle exchange)) := by
  apply follows_await (.handle exchange) rfl
  · rintro _ response rfl
    exact .inl (by simp [Handled, transcript])
  · exact fun _ => trivial

theorem proper_handleAndKeep {text : String} (has : key sha256 exchange = some text)
    (history : History ρ ε) : Proper sha256 exchange history (handleAndKeep text exchange) := by
  apply Task.Follows.bind
  apply follows_await (.handle exchange) rfl
  · intro response
    cases response with
    | none => exact .done (by simp [Returns])
    | some response =>
        have handled : Handled exchange
            (transcript history ⟨.handle exchange, .ok (some response)⟩) response := by
          simp [Handled, transcript]
        have returned (event : Event (Op ρ) Reply ε) : Returns exchange
            (transcript (transcript history ⟨.handle exchange, .ok (some response)⟩) event)
            (some response) := by
          rintro _ ⟨⟩
          exact .inl (List.mem_append_left _ handled)
        apply Task.Follows.bind
        apply Task.Follows.attempt
        apply follows_await (.set _ _ _) ⟨has, handled⟩
        · exact fun _ => .done (returned _)
        · exact fun _ => .done (returned _)
  · exact fun _ => trivial

theorem proper_respond (exchange : Exchange) :
    Proper sha256 exchange [] (respond sha256 exchange : Program ρ ε (Option ρ)) := by
  unfold respond
  cases has : key sha256 exchange with
  | none => exact proper_handle []
  | some text =>
      apply Task.Follows.bind
      apply Task.Follows.attempt
      apply follows_await (.get text) has
      · intro cachedResponse
        cases cachedResponse with
        | none => exact proper_handleAndKeep has _
        | some cachedResponse =>
            apply Task.Follows.done
            rintro _ ⟨⟩
            exact .inr ⟨text, List.mem_append_right _ (List.mem_singleton_self _)⟩
      · exact fun _ => proper_handle _

variable (sha256) (handler : Exchange → W → Option ρ × W)

def discipline : (service sha256 handler (ε := ε)).Discipline (History ρ ε) where
  note := transcript
  begun := []
  asks := Asks sha256
  returns := Returns
  throws _ _ _ := True
  follows := proper_respond

/-! ## The cache -/

def responses : (service sha256 handler (ε := ε)).ReadThrough String ρ where
  key := key sha256
  kept s text response := s.cache.lookup text = some response
  fetched exchange event response := event = ⟨.handle exchange, .ok (some response)⟩
  hit _ event response := ∃ text, event = ⟨.get text, .ok (some response)⟩

variable {sha256 handler}
  {allowed : Pool Exchange (Op ρ) Reply ε (Option ρ) (State ρ W) →
    Action Exchange (Op ρ) Reply ε (State ρ W) → Prop}
  {initial : State ρ W} {pool : Pool Exchange (Op ρ) Reply ε (Option ρ) (State ρ W)}

theorem notes_eq (running : Running Exchange (Op ρ) Reply ε (Option ρ)) :
    (discipline sha256 handler).notes running = running.history :=
  foldl_transcript running.history []

theorem faithful_serve {task : Nat} {history : History ρ ε} {op : Op ρ}
    {resume : Except ε (Reply op) → Program ρ ε (Option ρ)} {answer : Except ε (Reply op)}
    {after : State ρ W} (faithful : (responses sha256 handler).Faithful pool)
    (found : pool.tasks[task]? = some ⟨exchange, history, .await op resume⟩)
    (asks : Asks sha256 exchange history op)
    (serves : (service sha256 handler).Serves op pool.state answer after) :
    (responses sha256 handler).Faithful
      ⟨after, pool.tasks.set task ⟨exchange, history ++ [⟨op, answer⟩], resume answer⟩⟩ := by
  apply faithful.serve found
  · intro text response kept
    cases serves with
    | error fails =>
        cases fails
        exact .inl kept
    | ok =>
        cases op with
        | get _ => exact .inl kept
        | handle _ => exact .inl kept
        | set other response' ttl =>
            obtain ⟨has, handled⟩ := asks
            simp only [responses, service, perform] at kept
            by_cases same : text = other
            · subst same
              rw [AList.lookup_insert, Option.some.injEq] at kept
              subst kept
              exact .inr ⟨has, _, handled, rfl⟩
            · rw [AList.lookup_insert_ne same] at kept
              exact .inl kept
  · rintro response ⟨text, same⟩
    cases serves with
    | error _ => cases same
    | ok =>
        cases op with
        | get other =>
            simp only [Event.mk.injEq, Op.get.injEq] at same
            obtain ⟨rfl, found⟩ := same
            exact ⟨other, asks, Except.ok.inj (eq_of_heq found)⟩
        | handle _ => cases same
        | set _ _ _ => cases same

theorem faithful (reaches : (service sha256 handler).Reaches allowed ⟨initial, []⟩ pool)
    (empty : initial.cache = ∅) : (responses sha256 handler).Faithful pool ∧
      ∀ running ∈ pool.tasks, (discipline sha256 handler).Keeps running := by
  apply reaches.invariant (discipline sha256 handler) (by simp)
  · exact .empty fun _ _ kept => by simp [responses, empty] at kept
  · exact fun _ call holds _ => holds.start call
  · intro pool task exchange history op resume answer after holds found keeps _ serves
    have asks := keeps.asks
    rw [notes_eq] at asks
    exact faithful_serve holds found asks serves
  · exact fun _ _ holds _ drifts => holds.drift drifts

end Follows

/-! ## The responses -/

section Responses
variable {ρ W ε : Type} {sha256 : String → String} {handler : Exchange → W → Option ρ × W}
  {allowed : Pool Exchange (Op ρ) Reply ε (Option ρ) (State ρ W) →
    Action Exchange (Op ρ) Reply ε (State ρ W) → Prop}
  {initial : State ρ W} {pool : Pool Exchange (Op ρ) Reply ε (Option ρ) (State ρ W)}

def Cached (exchange : Exchange) : Prop :=
  exchange.request.method = "GET" ∧ exchange.context.skipCache = false

theorem cached_of_key {exchange : Exchange} {text : String} (has : key sha256 exchange = some text) :
    Cached exchange := by
  unfold key intercept at has
  split at has
  · cases has
  · rename_i passes
    simpa [Cached] using passes

/-- However the requests are interleaved, a request is answered with what its own handler responded,
or with what the handler responded when the same user made the same request. -/
theorem responded (injective : sha256.Injective) (empty : initial.cache = ∅)
    (reaches : (service sha256 handler).Reaches allowed ⟨initial, []⟩ pool)
    (routed : ∀ running ∈ pool.tasks, Routed running.call)
    {running : Running Exchange (Op ρ) Reply ε (Option ρ)} (member : running ∈ pool.tasks)
    {response : ρ} (ended : running.rest = .done (some response)) :
    ∃ source ∈ pool.tasks, ⟨.handle source.call, .ok (some response)⟩ ∈ source.history ∧
      (source = running ∨ Cached source.call ∧ Cached running.call ∧
        SameRequest source.call running.call) := by
  obtain ⟨faithful, keeps⟩ := faithful reaches empty
  have follows := keeps running member
  unfold Service.Discipline.Keeps at follows
  rw [ended, notes_eq] at follows
  cases follows with
  | done returned =>
      rcases returned response rfl with handled | ⟨text, found⟩
      · exact ⟨running, member, handled, .inl rfl⟩
      · obtain ⟨key, read, source, there, kept, event, past, rfl⟩ :=
          faithful.hit running member _ found response ⟨text, rfl⟩
        exact ⟨source, there, past, .inr ⟨cached_of_key kept, cached_of_key read,
          sameRequest_of_key injective (routed source there) (routed running member) kept read⟩⟩

end Responses

/-- A user's balance is asked for twice, and every request that is handled counts. -/
def balances : Exchange :=
  ⟨⟨none, "VaultManagerController", "getPoolBalances", false⟩,
    ⟨"GET", some "/api/balances", none, none, some (.text "7")⟩, none⟩

def count (_ : Exchange) (requests : Nat) : Option Nat × Nat := (some requests, requests + 1)

def secondRequest : Running Exchange (Op Nat) Reply String (Option Nat) :=
  ⟨balances, [⟨.get (hashed balances.context balances.request), .ok (some 0)⟩], .done (some 0)⟩

def firstRequest : Running Exchange (Op Nat) Reply String (Option Nat) :=
  ⟨balances, [⟨.get (hashed balances.context balances.request), .ok none⟩,
    ⟨.handle balances, .ok (some 0)⟩,
    ⟨.set (hashed balances.context balances.request) 0 300, .ok ()⟩], .done (some 0)⟩

theorem responded_again : ∃ source ∈ [firstRequest, secondRequest],
    ⟨.handle source.call, .ok (some 0)⟩ ∈ source.history ∧
      (source = secondRequest ∨ Cached source.call ∧ Cached balances ∧
        SameRequest source.call balances) := by
  have reaches : (service id count (ε := String)).Reaches (fun _ _ => True) ⟨⟨∅, 0⟩, []⟩
      ⟨⟨AList.singleton (hashed balances.context balances.request) 0, 1⟩,
        [firstRequest, secondRequest]⟩ :=
    (service id count).reaches_of_play (fun _ _ (_ : true = true) => trivial)
      [.start balances, .serve 0 none, .serve 0 none, .serve 0 none, .start balances, .serve 1 none]
      .refl rfl
  have routed : Routed balances := ⟨by decide, ⟨_, rfl⟩, by decide⟩
  exact responded (fun _ _ same => same) rfl reaches
    (by simp [firstRequest, secondRequest, routed]) (List.mem_cons_of_mem _ List.mem_cons_self) rfl

end Kanaka.Backend.HttpCacheInterceptor
