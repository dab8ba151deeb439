import Kanaka.Async.Alone
import Kanaka.Async.Isolation
import Kanaka.Async.ReadThrough
import Kanaka.Backend.Guards
import Kanaka.Proof.Backend.RateLimit

/-! # The requests that the guards let through -/

namespace Kanaka.Backend.Guards
open Async Expiring RateLimiterService

/-! ## What a request does to Redis -/

def opKey : Op → String
  | .zRemRangeByScore key _ _ => key
  | .zCount key _ _ => key
  | .zAdd key _ _ => key
  | .expire key _ => key

section Keys
variable {op : Op} {key : String} {s s' : State}

theorem perform_now : (perform op s).2.now = s.now := by
  cases op <;> rfl

theorem lookup_zRemRangeByScore_of_ne {redis : Redis} {now : Nat} {other : String} {max : Int}
    {min : Option Int} (away : key ≠ other) :
    (zRemRangeByScore redis now other min max).lookup key = redis.lookup key := by
  unfold zRemRangeByScore
  split
  · split
    · exact AList.lookup_erase_ne away
    · exact AList.lookup_insert_ne away
  · rfl

theorem lookup_perform_of_ne (away : key ≠ opKey op) :
    (perform op s).2.redis.lookup key = s.redis.lookup key := by
  cases op with
  | zRemRangeByScore other min max => exact lookup_zRemRangeByScore_of_ne away
  | zCount => rfl
  | zAdd other score member =>
      simp only [perform, zAdd]
      split <;> exact AList.lookup_insert_ne away
  | expire other expireSeconds =>
      simp only [perform, Store.expire]
      split
      · exact AList.lookup_insert_ne away
      · rfl

theorem perform_congr (now : s.now = s'.now)
    (same : s.redis.lookup (opKey op) = s'.redis.lookup (opKey op)) :
    (perform op s).1 = (perform op s').1 ∧
      (perform op s).2.redis.lookup (opKey op) = (perform op s').2.redis.lookup (opKey op) := by
  have found : Store.find s.redis s'.now (opKey op) = Store.find s'.redis s'.now (opKey op) := by
    rw [Store.find, Store.find, same]
  cases op with
  | zRemRangeByScore key min max =>
      simp only [opKey] at same found
      refine ⟨rfl, ?_⟩
      simp only [perform, opKey, zRemRangeByScore, now, found]
      split
      · split
        · rw [Store.del, Store.del, AList.lookup_erase, AList.lookup_erase]
        · rw [Store.set, Store.set, AList.lookup_insert, AList.lookup_insert]
      · exact same
  | zCount key min max =>
      simp only [opKey] at same found
      exact ⟨by simp only [perform, Store.get, now, found], same⟩
  | zAdd key score member =>
      simp only [opKey] at same found
      refine ⟨rfl, ?_⟩
      simp only [perform, opKey, zAdd, now, found]
      split <;> rw [Store.set, Store.set, AList.lookup_insert, AList.lookup_insert]
  | expire key expireSeconds =>
      simp only [opKey] at same found
      refine ⟨rfl, ?_⟩
      simp only [perform, opKey, Store.expire, Store.get, now, found]
      cases Store.find s'.redis s'.now key with
      | none => exact same
      | some entry =>
          simp only [Option.map_some]
          rw [Store.set, Store.set, AList.lookup_insert, AList.lookup_insert]

end Keys

/-! ## What a guard asks for -/

def Counts (key : String) (op : Op) : Prop := ∃ now, opKey op = generateKey key now

section Within
variable {key : String} {now : Nat}

theorem within_checkRateLimit (options : PartialOptions) :
    Task.Within (Counts key) (checkRateLimit key options now) := by
  apply Task.Within.tryCatch
  · apply Task.Within.bind (.perform ⟨now, rfl⟩)
    intro _
    apply Task.Within.bind
    · apply Task.Within.tryCatch (.perform ⟨now, rfl⟩)
      exact fun _ => .done 0
    · intro currentCount
      split
      · exact .done _
      · apply Task.Within.bind (.perform ⟨now, rfl⟩)
        intro _
        exact .bind (.perform ⟨now, rfl⟩) fun _ => .done _
  · exact fun _ => .done _

theorem within_rateLimitGuard (route : Route) (request : Request) :
    Task.Within (Counts (getRateLimitKey request)) (rateLimitGuard route request now) := by
  unfold rateLimitGuard
  split
  · exact .done _
  · apply Task.Within.bind (within_checkRateLimit _)
    intro result
    split
    · exact .done _
    · split <;> exact .done _

end Within

/-! ## The requests under one key -/

/-- Requests that ask the guard with what it finds in `request.user`. -/
def limited (arrival : Arrival) : Task Op Op.Reply String Outcome :=
  rateLimitGuard arrival.route arrival.request arrival.now

def discipline : (service limited).Discipline Unit :=
  .within fun arrival => within_rateLimitGuard arrival.route arrival.request

def under (key : String) (arrival : Arrival) : Bool := getRateLimitKey arrival.request = key

/-- The states have counted the same of those with the key. -/
def Alike (key : String) (s alone : State) : Prop :=
  s.now = alone.now ∧ ∀ now, s.redis.lookup (generateKey key now) =
    alone.redis.lookup (generateKey key now)

theorem isolates (key : String) :
    Service.Isolates discipline (under key) onTime (Alike key) where
  start alike _ onTime := onTime.trans alike.1
  own := by
    rintro s alone arrival _ op answer after ⟨now, same⟩ own ⟨then', opKey_eq⟩ serves
    rw [of_decide_eq_true own] at opKey_eq
    cases serves with
    | error fails =>
        cases fails
        exact ⟨alone, .error rfl, now, same⟩
    | ok =>
        obtain ⟨replies, sets⟩ := perform_congr now (opKey_eq ▸ same then')
        refine ⟨(perform op alone).2, ?_, ?_⟩
        · have served : (service limited).Serves op alone (.ok (perform op alone).1)
              (perform op alone).2 := .ok
          rwa [← replies] at served
        · refine ⟨by simpa only [service, perform_now] using now, fun moment => ?_⟩
          by_cases here : generateKey key moment = opKey op
          · rw [here]
            exact sets
          · simp only [service]
            rw [lookup_perform_of_ne here, lookup_perform_of_ne here]
            exact same moment
  other := by
    rintro s alone arrival _ op answer after ⟨now, same⟩ other ⟨then', opKey_eq⟩ serves
    cases serves with
    | error fails =>
        cases fails
        exact ⟨now, same⟩
    | ok =>
        refine ⟨by simpa only [service, perform_now] using now, fun moment => ?_⟩
        have away : generateKey key moment ≠ opKey op := by
          rw [opKey_eq]
          intro equal
          exact of_decide_eq_false other (generateKey_inj equal).1.symm
        simp only [service]
        rw [lookup_perform_of_ne away]
        exact same moment
  drift := by
    rintro s alone _ ⟨now, same⟩ ⟨later, le, rfl⟩
    exact ⟨{ alone with now := later }, ⟨later, now ▸ le, rfl⟩, rfl, same⟩

/-- The requests under a key are counted, refused and answered as if no others were made. -/
theorem rate_limit_isolated (key : String) {initial : State}
    {pool : Pool Arrival Op Op.Reply String Outcome State}
    (reaches : (service limited).Reaches (Service.Permitted onTime) ⟨initial, []⟩ pool) :
    ∃ alone, (service limited).Reaches (Service.Only (under key) onTime) ⟨initial, []⟩ alone ∧
      alone.tasks = pool.tasks.filter (under key ·.call) := by
  obtain ⟨alone, reaches, -, tasks⟩ := reaches.isolated (isolates key) ⟨rfl, fun _ => rfl⟩
  exact ⟨alone, reaches, tasks⟩

/-- Two clients and a clock that stands still. -/
def arrivalFrom (ip : String) : Arrival := ⟨⟨[], []⟩, ⟨none, some ip, none⟩, false, 1000⟩

def atItsTime (pool : Pool Arrival Op Op.Reply String Outcome State) :
    Action Arrival Op Op.Reply String State → Bool
  | .start arrival => arrival.now = pool.state.now
  | _ => true

/-- Each client's request is counted before the other's is added. -/
theorem rate_limit_isolated_alone : ∃ alone,
    (service limited).Reaches (Service.Only (under "ip:10.0.0.1") onTime) ⟨⟨1000, ∅⟩, []⟩ alone ∧
      alone.tasks.map (·.history.length) = [4] := by
  have run : ∃ pool, (service limited).Reaches (Service.Permitted onTime) ⟨⟨1000, ∅⟩, []⟩ pool ∧
      (pool.tasks.filter (under "ip:10.0.0.1" ·.call)).map (·.history.length) = [4] := by
    apply (service limited).exists_of_play atItsTime
      (fun pool action passed arrival same => by
        subst same
        have equal : arrival.now = pool.state.now := of_decide_eq_true passed
        exact equal)
      [.start (arrivalFrom "10.0.0.1"), .start (arrivalFrom "10.0.0.2"), .serve 0 none,
        .serve 1 none, .serve 0 none, .serve 1 none, .serve 0 none, .serve 1 none, .serve 0 none]
    decide
  obtain ⟨pool, reaches, counted⟩ := run
  obtain ⟨alone, reaches, tasks⟩ := rate_limit_isolated "ip:10.0.0.1" reaches
  exact ⟨alone, reaches, by rw [tasks, counted]⟩

/-! ## The requests that reach a handler -/

section Decorated

def named (decorators : List Decorator) : Option (List String) :=
  decorators.findSome? fun
    | .roles names => some names
    | _ => none

def Visit.requiredRoles (visit : Visit) : List String :=
  ((named visit.handler).or (named visit.controller)).getD []

def Visit.SkipsThrottle (visit : Visit) : Prop :=
  .skipThrottle ∈ visit.handler ∨ .skipThrottle ∈ visit.controller

/-- What becomes of a request, whoever sends it and whatever was counted before. -/
inductive Fate (visit : Visit) : Except Refusal Unit → Prop where
  | forbidden : visit.requiredRoles ≠ [] → Fate visit (.error (.forbidden "Access denied"))
  | throttled : visit.requiredRoles = [] → visit.throttled = true → Fate visit (.error .throttled)
  | admitted : visit.requiredRoles = [] → visit.throttled = false → visit.SkipsThrottle →
      Fate visit (.ok ())
  | broken : visit.requiredRoles = [] → visit.throttled = false → ¬ visit.SkipsThrottle →
      Fate visit (.error (.typeError "Cannot read properties of undefined (reading 'points')"))

theorem lookup_roles (decorators : List Decorator) :
    (decorators.flatMap (·.metadata)).lookup "roles" = (named decorators).map .roles := by
  induction decorators with
  | nil => rfl
  | cons decorator decorators ih =>
      cases decorator <;> simp [named, Decorator.metadata, List.lookup_cons] at ih ⊢ <;> exact ih

theorem lookup_rateLimitKey (decorators : List Decorator) :
    (decorators.flatMap (·.metadata)).lookup rateLimitKey = none := by
  induction decorators with
  | nil => rfl
  | cons decorator decorators ih =>
      cases decorator <;> simp [rateLimitKey, Decorator.metadata, List.lookup_cons] at ih ⊢ <;>
        exact ih

theorem lookup_skipRateLimit (decorators : List Decorator) :
    ((decorators.flatMap (·.metadata)).lookup "skipRateLimit").isSome ↔
      .skipThrottle ∈ decorators := by
  induction decorators with
  | nil => simp
  | cons decorator decorators ih =>
      cases decorator <;> simp [Decorator.metadata, List.lookup_cons] at ih ⊢ <;> exact ih

section Visits
variable (visit : Visit)

theorem getAllAndOverride_roles : visit.arrival.route.getAllAndOverride "roles" =
    ((named visit.handler).or (named visit.controller)).map .roles := by
  simp only [Visit.arrival, Route.getAllAndOverride, Route.decorated, lookup_roles, Option.map_or]

theorem options_arrival : visit.arrival.route.options = none := by
  simp only [Visit.arrival, Route.options, Route.getAllAndOverride, Route.decorated,
    lookup_rateLimitKey, Option.or_none]

theorem skips_arrival :
    (visit.arrival.route.getAllAndOverride "skipRateLimit").isSome ↔ visit.SkipsThrottle := by
  rw [Visit.arrival, Route.getAllAndOverride, Route.decorated, Option.isSome_or, Bool.or_eq_true,
    lookup_skipRateLimit, lookup_skipRateLimit, Visit.SkipsThrottle]

theorem rolesGuard_arrival (request : Request) :
    rolesGuard visit.arrival.route { request with user := none } =
      if visit.requiredRoles = [] then .ok () else .error (.forbidden "Access denied") := by
  unfold rolesGuard Visit.requiredRoles
  rw [getAllAndOverride_roles]
  cases (named visit.handler).or (named visit.controller) with
  | none => rfl
  | some names => cases names <;> rfl

/-- Nothing is counted of a request that ends otherwise than broken. -/
structure Ends (history : List (Event Op Op.Reply String)) (outcome : Outcome) : Prop where
  headers : outcome.headers = []
  fate : Fate visit outcome.verdict
  uncounted : (∀ message, outcome.verdict ≠ .error (.typeError message)) → history = []

theorem follows_checkRateLimit {κ : Type} {note : κ → Event Op Op.Reply String → κ} {notes : κ}
    (key : String) (options : PartialOptions) (now : Nat) :
    Task.Follows note (fun _ _ => True) (fun _ _ => True) (fun _ _ => False) notes
      (checkRateLimit key options now) :=
  Task.Follows.tryCatch (.of_forall (fun _ _ => trivial) (fun _ _ => trivial)
    (fun _ _ => .done trivial) _)

theorem follows_globalGuards : Task.Follows transcript (fun _ _ => True) (Ends visit)
    (fun _ _ => False) [] (globalGuards visit.arrival) := by
  unfold globalGuards
  dsimp only
  rw [rolesGuard_arrival]
  by_cases free : visit.requiredRoles = []
  · rw [if_pos free]
    cases throttled : visit.throttled with
    | true =>
        simp only [Visit.arrival, throttled, if_true]
        exact .done ⟨rfl, .throttled free throttled, fun _ => rfl⟩
    | false =>
        have passed : ¬ visit.arrival.throttled = true := by simp [Visit.arrival, throttled]
        simp only [if_neg passed, rateLimitGuard]
        split
        · rename_i skips
          exact .done ⟨rfl, .admitted free throttled ((skips_arrival visit).mp skips), fun _ => rfl⟩
        · rename_i counted
          apply Task.Follows.bind
          apply (follows_checkRateLimit _ _ _).weaken
          · intro history result _
            rw [options_arrival]
            refine .done ⟨rfl, .broken free throttled (mt (skips_arrival visit).mpr counted), ?_⟩
            exact fun fine => absurd rfl (fine _)
          · exact fun _ _ impossible => impossible.elim
  · rw [if_neg free]
    exact .done ⟨rfl, .forbidden free, fun _ => rfl⟩

end Visits

end Decorated

def fates : (service (globalGuards ∘ Visit.arrival)).Discipline (List (Event Op Op.Reply String)) where
  note := transcript
  begun := []
  asks _ _ _ := True
  returns := Ends
  throws _ _ _ := False
  follows := follows_globalGuards

/-- Whatever requests come in, and whatever Redis does: a handler with roles is never reached, and
another one only if it is exempt from the rate limit, whose guard breaks on every other request. -/
theorem fate_of_visit {initial : State} {pool : Pool Visit Op Op.Reply String Outcome State}
    {allowed : Pool Visit Op Op.Reply String Outcome State →
      Action Visit Op Op.Reply String State → Prop}
    (reaches : (service (globalGuards ∘ Visit.arrival)).Reaches allowed ⟨initial, []⟩ pool)
    {running : Running Visit Op Op.Reply String Outcome} (member : running ∈ pool.tasks)
    {result : Except String Outcome} (ended : running.rest.result = some result) :
    ∃ outcome, result = .ok outcome ∧ outcome.headers = [] ∧ Fate running.call outcome.verdict ∧
      ((∀ message, outcome.verdict ≠ .error (.typeError message)) → running.history = []) := by
  have keeps := reaches.keeps fates (by simp) running member
  unfold Service.Discipline.Keeps Service.Discipline.notes fates at keeps
  simp only [foldl_transcript, List.nil_append] at keeps
  cases rest : running.rest with
  | done outcome =>
      rw [rest] at keeps ended
      cases keeps with
      | done ends => exact ⟨outcome, (Option.some.inj ended).symm, ends.headers, ends.fate, ends.uncounted⟩
  | fail error =>
      rw [rest] at keeps
      cases keeps with
      | fail impossible => exact impossible.elim
  | await op resume =>
      rw [rest] at ended
      cases ended

def addPoolVisit : Visit :=
  ⟨[.roles ["admin"], .contractAction ⟨"Vault", "add_pool", none⟩], [], ⟨none, none, none⟩, false, 0⟩

theorem fate_of_visit_addPool : ∃ outcome,
    (.ok ⟨[], .error (.forbidden "Access denied")⟩ : Except String Outcome) = .ok outcome ∧
      outcome.headers = [] ∧ Fate addPoolVisit outcome.verdict ∧
        ((∀ message, outcome.verdict ≠ .error (.typeError message)) →
          ([] : List (Event Op Op.Reply String)) = []) :=
  fate_of_visit
    (Service.Reaches.refl.begin addPoolVisit trivial :
      (service (globalGuards ∘ Visit.arrival)).Reaches (fun _ _ => True) ⟨⟨0, ∅⟩, []⟩ _)
    (List.mem_singleton_self _) rfl

end Kanaka.Backend.Guards
