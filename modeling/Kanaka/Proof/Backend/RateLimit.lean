import Kanaka.Backend.RateLimiterService
import Kanaka.Backend.Text
import Mathlib.Data.Finset.Card
import Mathlib.Data.List.NodupEquivFin

/-! # The calls that a rate limiter allows -/

namespace Kanaka.Backend.RateLimiterService
open Async Expiring

/-! ## Keys and members -/

theorem colon_notMem_toString (n : Nat) : ':' ∉ (toString n).toList := by
  intro colon
  rw [Nat.toString_eq_repr, Nat.toList_repr] at colon
  have := Nat.isDigit_of_mem_toDigits (by decide) (by decide) colon
  contradiction

theorem member_inj {identifier : String} {n m : Nat}
    (same : member identifier n = member identifier m) : n = m := by
  apply toString_inj
  have lists := congrArg String.toList same
  simp only [member, String.toList_append, List.append_left_inj] at lists
  exact String.toList_inj.mp lists

theorem generateKey_inj {identifier other : String} {n m : Nat}
    (same : generateKey identifier n = generateKey other m) :
    identifier = other ∧ n / 1000 = m / 1000 := by
  have lists := congrArg (fun key => key.toList.reverse) same
  simp only [generateKey, String.toList_append, List.reverse_append, List.append_assoc] at lists
  have absent (k : Nat) : ':' ∉ (toString k).toList.reverse := by
    simpa using colon_notMem_toString k
  obtain ⟨digits, rest⟩ := before_inj (absent _) (absent _) lists
  have names : identifier.toList.reverse = other.toList.reverse := List.append_cancel_right rest
  exact ⟨String.toList_inj.mp (List.reverse_injective names),
    toString_inj (String.toList_inj.mp (List.reverse_injective digits))⟩

/-! ## What a call does to the sorted sets -/

def recorded (redis : Redis) (now : Nat) (key : String) : SortedSet := (redis.get now key).getD ∅

section Redis
variable {redis : Redis} {now t : Nat} {key other : String}

theorem recorded_set {set : SortedSet} {deadline : Option Nat} :
    recorded (redis.set key set deadline) t key =
      if live t (⟨set, deadline⟩ : Expiring SortedSet) then set else ∅ := by
  simp only [recorded, Store.get_set_self]
  split <;> rfl

theorem recorded_zRemRangeByScore_of_ne (away : other ≠ key) (max : Int) :
    recorded (zRemRangeByScore redis now key none max) t other = recorded redis t other := by
  unfold zRemRangeByScore
  split
  · split <;> simp [recorded, away]
  · rfl

theorem recorded_zAdd_of_ne (away : other ≠ key) (score : Int) (member : String) :
    recorded (zAdd redis now key score member) t other = recorded redis t other := by
  unfold zAdd
  split <;> simp [recorded, away]

theorem SortedSet.remove_of_forall {set : SortedSet} {max : Int}
    (above : ∀ entry ∈ set.entries, max < entry.2) : set.remove none max = set := by
  apply AList.ext
  apply List.filter_eq_self.mpr
  intro entry inside
  simpa using above entry inside

theorem SortedSet.count_of_forall {set : SortedSet} {min max : Int}
    (within : ∀ entry ∈ set.entries, min ≤ entry.2 ∧ entry.2 ≤ max) :
    set.count min max = set.entries.length := by
  unfold SortedSet.count
  rw [List.filter_eq_self.mpr]
  intro entry inside
  simpa using within entry inside

theorem recorded_of_find {entry : Expiring SortedSet} (found : redis.find now key = some entry) :
    recorded redis t key = if live t entry then entry.value else ∅ := by
  have stored := (Option.filter_eq_some_iff.mp found).1
  simp only [recorded, Store.get, Store.find, stored, Option.filter_some]
  split <;> rfl

theorem live_of_find {entry : Expiring SortedSet} (found : redis.find now key = some entry) :
    live now entry = true := (Option.filter_eq_some_iff.mp found).2

theorem recorded_of_find_none (absent : redis.find now key = none) : recorded redis now key = ∅ := by
  simp [recorded, Store.get, absent]

theorem recorded_zRemRangeByScore {max : Int}
    (above : ∀ entry ∈ (recorded redis now key).entries, max < entry.2) :
    recorded (zRemRangeByScore redis now key none max) t key = recorded redis t key := by
  unfold zRemRangeByScore
  cases found : redis.find now key with
  | none => rfl
  | some entry =>
      obtain ⟨set, deadline⟩ := entry
      rw [recorded_of_find found, if_pos (live_of_find found)] at above
      simp only [SortedSet.remove_of_forall above]
      rw [recorded_of_find found]
      split
      · have empty : set = ∅ := AList.ext ‹_›
        simp [recorded, empty]
      · exact recorded_set

theorem recorded_zAdd (score : Int) (member : String) :
    recorded (zAdd redis now key score member) now key =
      (recorded redis now key).insert member score := by
  unfold zAdd
  cases found : redis.find now key with
  | none =>
      rw [recorded_of_find_none found]
      exact recorded_set
  | some entry =>
      rw [recorded_of_find found, if_pos (live_of_find found)]
      exact recorded_set.trans (if_pos (live_of_find found))

theorem get_zAdd (score : Int) (member : String) :
    ((zAdd redis now key score member).get now key).isSome := by
  unfold zAdd
  cases found : redis.find now key with
  | none => simp [Store.get_set_self, live]
  | some entry =>
      have alive : live now (⟨entry.value.insert member score, entry.deadline⟩ : Expiring SortedSet) =
        true := by simpa [live] using live_of_find found
      simp [Store.get_set_self, alive]

theorem recorded_expire {deadline : Nat} (present : (redis.get now key).isSome) (early : t < deadline) :
    recorded (redis.expire now key (some deadline)) t key = recorded redis now key := by
  obtain ⟨set, found⟩ := Option.isSome_iff_exists.mp present
  simp only [Store.expire, found]
  rw [recorded_set, recorded, found]
  simp [live, early]

end Redis

namespace Call
variable (call : Call) (redis : Redis)

def key : String := generateKey call.identifier call.now.ms

def windowStart : Int := (getWindow call.now.ms call.options.opts.duration).windowStart

def cleaned : Redis := zRemRangeByScore redis call.now.ms call.key none call.windowStart

def currentCount : Nat :=
  (recorded (call.cleaned redis) call.now.ms call.key).count call.windowStart maxSafeInteger

def written : Redis :=
  (zAdd (call.cleaned redis) call.now.ms call.key call.now.ms
    (member call.identifier call.now.ms)).expire call.now.ms call.key
      (some (call.now.ms + call.options.opts.duration * 1000))

def allows : Bool := call.currentCount redis < call.options.opts.points

variable {call redis}

theorem check_eq :
    call.check redis =
      if call.allows redis then
        (.ok ⟨true, (call.options.opts.points : Int) - call.currentCount redis - 1,
          (getWindow call.now.ms call.options.opts.duration).windowEnd * 1000⟩, call.written redis)
      else
        (.ok ⟨false, 0, (getWindow call.now.ms call.options.opts.duration).windowEnd * 1000⟩,
          call.cleaned redis) := by
  let key := generateKey call.identifier call.now.ms
  let start := (getWindow call.now.ms call.options.opts.duration).windowStart
  have first : (RateLimiterService.redis (.zRemRangeByScore key none start)).run
    (perform call.now.ms) redis = (.ok (), call.cleaned redis) := Task.run_perform ..
  have second : (getCurrentCount key start).run (perform call.now.ms) (call.cleaned redis) =
    (.ok (call.currentCount redis), call.cleaned redis) := rfl
  rw [check, checkRateLimit, Task.run_tryCatch, Task.run_bind_ok first, Task.run_bind_ok second]
  cases allows : call.allows redis with
  | true =>
      have few : ¬ call.options.opts.points ≤ call.currentCount redis := by
        simpa [Call.allows] using allows
      rw [if_neg few]
      rfl
  | false =>
      have many : call.options.opts.points ≤ call.currentCount redis := by
        simpa [Call.allows] using allows
      rw [if_pos many]
      rfl

end Call

/-! ## The calls of one second -/

def Call.Of (identifier : String) (second : Nat) (call : Call) : Prop :=
  call.identifier = identifier ∧ call.now.ms / 1000 = second

instance (identifier : String) (second : Nat) (call : Call) :
    Decidable (call.Of identifier second) := inferInstanceAs (Decidable (_ ∧ _))

def entry (identifier : String) (ms : Nat) : Sigma fun _ : String => Int :=
  ⟨member identifier ms, ms⟩

def moments (identifier : String) (second : Nat) (past : List Call) : Finset Nat :=
  ((past.filter fun call => call.Of identifier second).map fun call => call.now.ms).toFinset

/-- Throughout a second, its sorted set tells of its calls until the points are used up. -/
structure Records (points : Nat) (identifier : String) (second : Nat) (past : List Call)
    (redis : Redis) (set : SortedSet) : Prop where
  stored : ∀ t, t / 1000 = second → recorded redis t (generateKey identifier t) = set
  sound : ∀ e ∈ set.entries, ∃ ms ∈ moments identifier second past, e = entry identifier ms
  complete : set.entries.length < points →
    ∀ ms ∈ moments identifier second past, entry identifier ms ∈ set.entries

section Records
variable {points second : Nat} {identifier : String} {past : List Call} {redis : Redis}
  {set : SortedSet} {call : Call} {ms : Nat}

theorem entry_inj {n m : Nat} (same : entry identifier n = entry identifier m) : n = m :=
  member_inj (congrArg Sigma.fst same)

theorem mem_moments :
    ms ∈ moments identifier second past ↔ ∃ call ∈ past, call.Of identifier second ∧ call.now.ms = ms := by
  simp [moments, and_assoc]

theorem moments_concat_of (of : call.Of identifier second) :
    moments identifier second (past ++ [call]) = insert call.now.ms (moments identifier second past) := by
  ext ms
  simp [mem_moments, or_and_right, exists_or, of, eq_comm, or_comm]

theorem moments_concat_of_not (away : ¬ call.Of identifier second) :
    moments identifier second (past ++ [call]) = moments identifier second past := by
  ext ms
  simp [mem_moments, or_and_right, exists_or, away]

theorem Records.few_iff (records : Records points identifier second past redis set) :
    set.entries.length < points ↔ (moments identifier second past).card < points := by
  have size : set.entries.toFinset.card = set.entries.length :=
    List.toFinset_card_of_nodup set.nodupKeys.nodup
  have image : ((moments identifier second past).image (entry identifier)).card =
      (moments identifier second past).card :=
    Finset.card_image_of_injective _ fun _ _ => entry_inj
  constructor
  · intro few
    have covered : (moments identifier second past).image (entry identifier) ⊆
        set.entries.toFinset := by
      intro e inside
      obtain ⟨ms, present, rfl⟩ := Finset.mem_image.mp inside
      exact List.mem_toFinset.mpr (records.complete few ms present)
    have := Finset.card_le_card covered
    omega
  · intro few
    have covered : set.entries.toFinset ⊆
        (moments identifier second past).image (entry identifier) := by
      intro e inside
      obtain ⟨ms, present, rfl⟩ := records.sound e (List.mem_toFinset.mp inside)
      exact Finset.mem_image_of_mem _ present
    have := Finset.card_le_card covered
    omega

theorem mem_insert_entry {key : String} {score : Int} {e : Sigma fun _ : String => Int} :
    e ∈ (set.insert key score).entries ↔ e = ⟨key, score⟩ ∨ e.1 ≠ key ∧ e ∈ set.entries := by
  obtain ⟨other, b⟩ := e
  rw [← AList.mem_lookup_iff, ← AList.mem_lookup_iff]
  by_cases same : other = key
  · subst same
    simp [eq_comm]
  · simp [AList.lookup_insert_ne same, same]

/-- No score of a second is as low as the start of a window, which is in seconds. -/
theorem Records.within (records : Records points identifier second past redis set)
    (of : call.Of identifier second) (lasting : 1 ≤ call.options.opts.duration)
    {e : Sigma fun _ : String => Int} (inside : e ∈ set.entries) :
    call.windowStart < e.2 ∧ e.2 ≤ maxSafeInteger := by
  obtain ⟨ms, present, rfl⟩ := records.sound e inside
  obtain ⟨earlier, -, ⟨-, here⟩, rfl⟩ := mem_moments.mp present
  have valid := earlier.now.valid
  have same := of.2
  simp only [Call.windowStart, getWindow, entry, maxSafeInteger]
  omega

theorem Call.key_of (of : call.Of identifier second) {t : Nat} (here : t / 1000 = second) :
    generateKey identifier t = call.key := by
  rw [Call.key, generateKey, generateKey, of.1, of.2, here]

section Step
variable (records : Records points identifier second past redis set)
include records

theorem Records.step_other (away : ¬ call.Of identifier second) :
    Records points identifier second (past ++ [call]) (call.check redis).2 set := by
  have same : moments identifier second (past ++ [call]) = moments identifier second past :=
    moments_concat_of_not away
  refine ⟨fun t here => ?_, same ▸ records.sound, same ▸ records.complete⟩
  have apart : generateKey identifier t ≠ call.key := by
    intro same
    obtain ⟨same, seconds⟩ := generateKey_inj same
    exact away ⟨same.symm, seconds.symm.trans here⟩
  have cleaned : recorded (call.cleaned redis) t (generateKey identifier t) = set :=
    (recorded_zRemRangeByScore_of_ne apart _).trans (records.stored t here)
  rw [Call.check_eq]
  split
  · simp only [Call.written, recorded, Store.get_expire_of_ne apart t]
    exact (recorded_zAdd_of_ne apart _ _).trans cleaned
  · exact cleaned

section Here
variable (of : call.Of identifier second) (lasting : 1 ≤ call.options.opts.duration)
include of lasting

theorem Records.recorded_cleaned {t : Nat} (here : t / 1000 = second) :
    recorded (call.cleaned redis) t call.key = set := by
  rw [Call.cleaned, recorded_zRemRangeByScore, ← Call.key_of of here]
  · exact records.stored t here
  · intro e inside
    rw [← Call.key_of of of.2, records.stored _ of.2] at inside
    exact (records.within of lasting inside).1

theorem Records.currentCount : call.currentCount redis = set.entries.length := by
  rw [Call.currentCount, records.recorded_cleaned of lasting of.2]
  apply SortedSet.count_of_forall
  intro e inside
  obtain ⟨above, below⟩ := records.within of lasting inside
  exact ⟨Int.le_of_lt above, below⟩

theorem Records.recorded_written {t : Nat} (here : t / 1000 = second) :
    recorded (call.written redis) t call.key =
      set.insert (member identifier call.now.ms) call.now.ms := by
  have soon : t < call.now.ms + call.options.opts.duration * 1000 := by
    have := of.2
    omega
  rw [Call.written, recorded_expire (get_zAdd _ _) soon, recorded_zAdd,
    records.recorded_cleaned of lasting of.2, of.1]

theorem Records.step_allowed (points_eq : call.options.opts.points = points)
    (allows : call.allows redis = true) :
    Records points identifier second (past ++ [call]) (call.written redis)
      (set.insert (member identifier call.now.ms) call.now.ms) := by
  have room : set.entries.length < points := by
    rw [← records.currentCount of lasting, ← points_eq]
    simpa [Call.allows] using allows
  rw [Call.allows] at allows
  refine ⟨fun t here => ?_, fun e inside => ?_, fun _ ms present => ?_⟩
  · rw [Call.key_of of here]
    exact records.recorded_written of lasting here
  · rw [moments_concat_of of]
    rcases mem_insert_entry.mp inside with rfl | ⟨-, inside⟩
    · exact ⟨_, Finset.mem_insert_self _ _, rfl⟩
    · obtain ⟨ms, present, same⟩ := records.sound e inside
      exact ⟨ms, Finset.mem_insert_of_mem present, same⟩
  · rw [moments_concat_of of] at present
    apply mem_insert_entry.mpr
    by_cases same : ms = call.now.ms
    · exact .inl (congrArg (entry identifier) same)
    · refine .inr ⟨fun member => same (member_inj member), ?_⟩
      exact records.complete room ms (Finset.mem_of_mem_insert_of_ne present same)

theorem Records.step_refused (points_eq : call.options.opts.points = points)
    (refuses : call.allows redis = false) :
    Records points identifier second (past ++ [call]) (call.cleaned redis) set := by
  have full : ¬ set.entries.length < points := by
    rw [← records.currentCount of lasting, ← points_eq]
    simpa [Call.allows] using refuses
  refine ⟨fun t here => ?_, fun e inside => ?_, fun room => absurd room full⟩
  · rw [Call.key_of of here]
    exact records.recorded_cleaned of lasting here
  · rw [moments_concat_of of]
    obtain ⟨ms, present, same⟩ := records.sound e inside
    exact ⟨ms, Finset.mem_insert_of_mem present, same⟩

end Here

end Step

end Records

/-! ## All calls -/

/-- Fewer milliseconds than points of the call's second have seen a call of its identifier before. -/
def early (points : Nat) (past : List Call) (call : Call) : Bool :=
  (moments call.identifier (call.now.ms / 1000) past).card < points

def earlies (points : Nat) : List Call → List Call → List (Call × Bool)
  | _, [] => []
  | past, call :: calls => (call, early points past call) :: earlies points (past ++ [call]) calls

def Call.Within (identifier : String) (start duration : Nat) (call : Call) : Bool :=
  call.identifier = identifier && start ≤ call.now.ms && call.now.ms < start + duration * 1000

/-- How many calls of the identifier are allowed in the interval from a moment on. -/
def allowedIn (identifier : String) (duration : Nat) (calls : List Call) (start : Nat) : Nat :=
  (decisions calls).countP fun (call, result) =>
    call.Within identifier start duration && result.toOption.any (·.allowed)

def earlyIn (identifier : String) (points duration : Nat) (calls : List Call) (start : Nat) : Nat :=
  (earlies points [] calls).countP fun (call, early) =>
    call.Within identifier start duration && early

section Run
variable {points duration : Nat} {identifier : String} {calls past : List Call} {redis : Redis}

def Uniform (identifier : String) (points duration : Nat) (calls : List Call) : Prop :=
  ∀ call ∈ calls, call.identifier = identifier → call.options.opts = ⟨points, duration⟩

theorem records_empty (second : Nat) : Records points identifier second [] ∅ ∅ := by
  refine ⟨fun t _ => ?_, ?_, ?_⟩ <;> simp [recorded, moments]

theorem allowed_iff_early {call : Call} {set : SortedSet} (lasting : 1 ≤ duration)
    (uniform : call.options.opts = ⟨points, duration⟩)
    (records : Records points call.identifier (call.now.ms / 1000) past redis set) :
    (call.check redis).1.toOption.any (·.allowed) = early points past call := by
  have count := records.currentCount ⟨rfl, rfl⟩ (by rw [uniform]; exact lasting)
  have same : call.allows redis = early points past call := by
    rw [Call.allows, early, count, uniform]
    exact decide_eq_decide.mpr records.few_iff
  rw [Call.check_eq, ← same]
  cases call.allows redis <;> rfl

theorem countP_serve (lasting : 1 ≤ duration) (uniform : Uniform identifier points duration calls)
    (records : ∀ second, ∃ set, Records points identifier second past redis set) (start : Nat) :
    ((serve redis calls).countP fun (call, result) =>
        call.Within identifier start duration && result.toOption.any (·.allowed)) =
      (earlies points past calls).countP fun (call, early) =>
        call.Within identifier start duration && early := by
  induction calls generalizing past redis with
  | nil => rfl
  | cons call calls ih =>
      have rest : Uniform identifier points duration calls := fun other member =>
        uniform other (List.mem_cons_of_mem _ member)
      have later : ∀ second, ∃ set,
          Records points identifier second (past ++ [call]) (call.check redis).2 set := by
        intro second
        obtain ⟨set, records⟩ := records second
        by_cases of : call.Of identifier second
        · have opts := uniform call List.mem_cons_self of.1
          have lasts : 1 ≤ call.options.opts.duration := by rw [opts]; exact lasting
          rw [Call.check_eq]
          cases allows : call.allows redis with
          | true => exact ⟨_, records.step_allowed of lasts (by rw [opts]) allows⟩
          | false => exact ⟨_, records.step_refused of lasts (by rw [opts]) allows⟩
        · exact ⟨set, records.step_other of⟩
      simp only [serve, earlies, List.countP_cons, ih rest later]
      congr 1
      by_cases mine : call.identifier = identifier
      · subst mine
        obtain ⟨set, records⟩ := records (call.now.ms / 1000)
        rw [allowed_iff_early lasting (uniform call List.mem_cons_self rfl) records]
      · simp [Call.Within, mine]

end Run

/-- The limit is kept exactly where no interval of the duration has more early calls than points. -/
theorem limit_kept_iff (identifier : String) (points duration : Nat) (calls : List Call)
    (lasting : 1 ≤ duration) (uniform : Uniform identifier points duration calls) :
    (∀ start, allowedIn identifier duration calls start ≤ points) ↔
      ∀ start, earlyIn identifier points duration calls start ≤ points := by
  apply forall_congr'
  intro start
  rw [allowedIn, decisions, countP_serve lasting uniform fun second => ⟨∅, records_empty second⟩,
    earlyIn]

def request (points : Nat) (ms : Fin 10000) : Call where
  identifier := "alice"
  options := ⟨some points, some 60⟩
  now := ⟨ms, Nat.le_trans (Nat.le_of_lt ms.2) (by decide)⟩

/-- The second request of a second is refused. -/
theorem limit_kept_of_pair : (decisions [request 1 1000, request 1 1500]).map
      (fun decision => decision.2.toOption.map (·.allowed)) = [some true, some false] ∧
    ∀ start, allowedIn "alice" 60 [request 1 1000, request 1 1500] start ≤ 1 := by
  have uniform : Uniform "alice" 1 60 [request 1 1000, request 1 1500] := by
    intro call member _
    rcases List.mem_pair.mp member with rfl | rfl <;> rfl
  refine ⟨by decide, (limit_kept_iff "alice" 1 60 _ (by decide) uniform).mpr fun start => ?_⟩
  have few : (earlies 1 [] [request 1 1000, request 1 1500]).countP Prod.snd ≤ 1 := by decide
  refine Nat.le_trans (List.countP_mono_left fun pair _ counted => ?_) few
  exact (Bool.and_eq_true_iff.mp counted).2

/-- One request a minute is the limit; two a second apart are allowed. -/
theorem limit_broken :
    ¬ ∀ start, allowedIn "alice" 60 [request 1 1000, request 1 2000] start ≤ 1 := by
  intro kept
  have allowed : allowedIn "alice" 60 [request 1 1000, request 1 2000] 1000 = 2 := by decide
  have := kept 1000
  omega

end Kanaka.Backend.RateLimiterService
