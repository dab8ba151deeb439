import Kanaka.Proof.Backend.Auth.Requests

/-! # The life of an API key -/

namespace Kanaka.Backend.AuthService
open Async Expiring

variable (config : Config)

/-- An issued key, whose it is, and whether it was revoked since. -/
structure Issued where
  apiKey : ApiKey
  user : User
  revoked : Bool

def Issued.usable (key : Issued) (now : Nat) : Bool := !key.revoked && now < key.apiKey.expiresAt

def Issued.revoke (apiKey : String) (key : Issued) : Issued :=
  { key with revoked := key.revoked || key.apiKey.apiKey = apiKey }

def Served.note (served : Served) (keys : List Issued) : List Issued :=
  match served.request, served.response with
  | .generateApiKey userId _ _, .ok (.apiKey apiKey) =>
      match served.before.userOf (config.number userId) with
      | some user => ⟨apiKey, user, false⟩ :: keys
      | none => keys
  | .revokeApiKey apiKey, .ok _ => keys.map (Issued.revoke apiKey)
  | _, _ => keys

def moments : List Issued → State → List (Nat × Request) → List (List Issued × State)
  | _, _, [] => []
  | keys, s, (now, request) :: requests =>
      let before := { s with now }
      let result := run config (request.body config) before
      let keys := Served.note config ⟨before, request, result.1⟩ keys
      (keys, result.2) :: moments keys result.2 requests

/-- Usable keys, and no others, are accepted with the roles of their users and listed once. The
lists show the start of a key only. -/
structure Kept (keys : List Issued) (s : State) : Prop where
  accepted : ∀ key ∈ keys, key.usable s.now = true → ∃ validated,
    (run config (validate config key.apiKey.apiKey) s).1 = .ok validated ∧
      validated.roles = .strings key.user.roles
  refused : ∀ key ∈ keys, key.usable s.now = false → ∃ error,
    (run config (validate config key.apiKey.apiKey) s).1 = .error error
  listed : ∀ user ∈ s.users, ∀ start, ∃ entries,
    (run config (listApiKeys config (toString user.id)) s).1 = .ok entries ∧
      entries.countP (·.apiKey = start) = keys.countP fun key =>
        key.usable s.now ∧ key.user.id = user.id ∧ shown key.apiKey.apiKey = start

def start (users : List User) (nextUser : Nat) : State := ⟨0, users, nextUser, ∅, 0, 0⟩

def LifecycleKept (s : State) (requests : List (Nat × Request)) : Prop :=
  ∀ moment ∈ moments config [] s requests, ∀ now, moment.2.now ≤ now →
    Kept config moment.1 { moment.2 with now }

def NoneIssued (s : State) (requests : List (Nat × Request)) : Prop :=
  ∀ served ∈ serve config s requests, ∀ userId name expiresIn,
    served.request = .generateApiKey userId name expiresIn →
    served.before.userOf (config.number userId) = none

/-! ## Records -/

def Records (s : State) : Prop :=
  ∀ now key value, s.redis.get now key = some value → ∃ id, value.get "userId" = .ok (.number id)

variable {config} {s : State}

theorem records_start {users : List User} {nextUser : Nat} : Records (start users nextUser) := by
  intro now key value found
  rw [start, Store.get_empty] at found
  contradiction

theorem record_userId (user : User) (name : String) (createdAt expiresAt : Int) :
    (record user name createdAt expiresAt).json.get "userId" = .ok (.number user.id) := rfl

theorem Records.issue (records : Records s) (user : User) (name : String) (expiresIn : Int) :
    Records (s.issue config user name expiresIn) := by
  intro now key value found
  by_cases same : key = apiKeyStem ++ config.uuid s.keyed
  · subst same
    simp only [State.issue, Store.get_set_self, Option.ite_none_right_eq_some] at found
    obtain ⟨-, stored⟩ := found
    cases stored
    exact ⟨_, record_userId user name s.now _⟩
  · rw [State.issue, Store.get_set_of_ne same] at found
    exact records now key value found

theorem Records.revoke (records : Records s) (apiKey : String) :
    Records { s with redis := s.redis.del (apiKeyStem ++ apiKey) } := by
  intro now key value found
  by_cases same : key = apiKeyStem ++ apiKey
  · subst same
    rw [Store.get_del_self] at found
    contradiction
  · rw [Store.get_del_of_ne same] at found
    exact records now key value found

theorem account_redis (walletAddress walletType : String) :
    (s.account config walletAddress walletType).2.redis = s.redis := by
  unfold State.account
  split
  · rfl
  · split <;> rfl

theorem Records.request (records : Records s) (request : Request) :
    Records (run config (request.body config) s).2 := by
  have of_redis {after : State} (same : after.redis = s.redis) : Records after := by
    rw [Records, same]
    exact records
  have effect : Effect config s (run config (request.body config) s).2 := effect_request request
  generalize (run config (request.body config) s).2 = after at effect ⊢
  cases effect with
  | account walletAddress walletType => exact of_redis (account_redis walletAddress walletType)
  | rotate walletAddress walletType user => exact of_redis (account_redis walletAddress walletType)
  | issue user name expiresIn => exact records.issue user name expiresIn
  | revoke apiKey => exact records.revoke apiKey
  | read => exact records

/-! ## Lists -/

theorem run_read {value result : JsValue} {field : String} (there : value.get field = .ok result) :
    run config (read value field) s = (.ok result, s) := by
  rw [read, there]
  rfl

theorem run_listed (records : Records s) (userId : String) (keys : List String) :
    run config (listed userId keys) s = (.ok [], s) := by
  induction keys with
  | nil => rfl
  | cons key keys ih =>
      rw [listed, run, Task.run_bind_ok (run_await (.getJson key))]
      cases found : s.redis.get s.now key with
      | none => exact ih
      | some value =>
          obtain ⟨id, owner⟩ := records s.now key value found
          simp only [Option.getD_some]
          split
          · rw [Task.run_bind_ok (run_read owner)]
            exact ih
          · exact ih

/-- The stored number is not the text that it is compared with. -/
theorem run_listApiKeys (records : Records s) (userId : String) :
    run config (listApiKeys config userId) s =
      match s.userOf (config.number userId) with
      | some _ => (.ok [], s)
      | none => (.error (.badRequest "User not found"), s) := by
  rw [listApiKeys, run, Task.run_bind_ok (run_await (.findById _))]
  cases s.userOf (config.number userId) with
  | none => rfl
  | some user =>
      simp only
      rw [Task.run_bind_ok (run_await (.keys _))]
      exact run_listed records userId _

theorem lists_nothing (records : Records s) (numbers : ∀ id, config.number (toString id) = some id)
    {user : User} (member : user ∈ s.users) :
    (run config (listApiKeys config (toString user.id)) s).1 = .ok [] := by
  rw [run_listApiKeys records, numbers]
  have found : (s.userOf (some user.id)).isSome := by
    rw [State.userOf, List.find?_isSome]
    exact ⟨user, member, decide_eq_true rfl⟩
  obtain ⟨other, found⟩ := Option.isSome_iff_exists.mp found
  rw [found]

/-! ## A key that was just issued -/

theorem accepts_record {apiKey name : String} {user : User} {createdAt expiresAt : Int}
    (stored : s.redis.get s.now (apiKeyStem ++ apiKey) =
      some (record user name createdAt expiresAt).json) :
    ∃ validated, (run config (validate config apiKey) s).1 = .ok validated := by
  rw [validate, run, Task.run_tryCatch, lookUp]
  cases config.apiKeys.lookup apiKey with
  | some known => exact ⟨_, rfl⟩
  | none =>
      simp only
      rw [Task.run_bind_ok (run_await (.getJson _))]
      simp only [stored]
      exact ⟨_, rfl⟩

/-- An issued key is missing in the list of its user, or never expires. -/
theorem not_kept_of_issue (records : Records s)
    (numbers : ∀ id, config.number (toString id) = some id) {user : User} (member : user ∈ s.users)
    (name : String) (expiresIn : Int) (keys : List Issued) :
    ¬ Kept config (⟨⟨config.uuid s.keyed, s.now + expiresIn * 1000⟩, user, false⟩ :: keys)
      (s.issue config user name expiresIn) := by
  intro kept
  by_cases positive : 0 < expiresIn
  · obtain ⟨entries, listed, count⟩ := kept.listed user member (shown (config.uuid s.keyed))
    rw [lists_nothing (records.issue user name expiresIn) numbers member] at listed
    cases listed
    have usable : s.now < s.now + expiresIn * 1000 := by omega
    simp [State.issue, Issued.usable, usable] at count
  · have unusable : ¬ ((s.now : Int) < s.now + expiresIn * 1000) := by omega
    obtain ⟨error, refused⟩ := kept.refused _ List.mem_cons_self
      (by simp [State.issue, Issued.usable, unusable])
    have stored : (s.issue config user name expiresIn).redis.get s.now
        (apiKeyStem ++ config.uuid s.keyed) =
          some (record user name s.now (s.now + expiresIn * 1000)).json := by
      simp [State.issue, Store.get_set_self, live, positive]
    have accepted : ∃ validated, (run config (validate config (config.uuid s.keyed))
        (s.issue config user name expiresIn)).1 = .ok validated := accepts_record stored
    obtain ⟨validated, accepted⟩ := accepted
    rw [accepted] at refused
    contradiction

/-! ## Runs -/

theorem note_generateApiKey {user : User} {userId : String}
    (found : s.userOf (config.number userId) = some user) (name : String) (expiresIn : Int)
    (keys : List Issued) :
    Served.note config ⟨s, .generateApiKey userId name expiresIn,
        (run config ((Request.generateApiKey userId name expiresIn).body config) s).1⟩ keys =
      ⟨⟨config.uuid s.keyed, s.now + expiresIn * 1000⟩, user, false⟩ :: keys := by
  simp [Served.note, Request.body, run_body, run_generateApiKey, found, Except.map]

theorem note_nil {served : Served} (noted : served.note config [] ≠ []) :
    ∃ userId name expiresIn, served.request = .generateApiKey userId name expiresIn ∧
      served.before.userOf (config.number userId) ≠ none := by
  unfold Served.note at noted
  split at noted
  · split at noted
    · exact ⟨_, _, _, ‹_›, by simp [*]⟩
    · contradiction
  · contradiction
  · contradiction

theorem Records.at (records : Records s) (now : Nat) : Records { s with now } := records

theorem noneIssued_of_kept (records : Records s)
    (numbers : ∀ id, config.number (toString id) = some id) {keys : List Issued}
    {requests : List (Nat × Request)}
    (kept : ∀ moment ∈ moments config keys s requests, ∀ now, moment.2.now ≤ now →
      Kept config moment.1 { moment.2 with now }) : NoneIssued config s requests := by
  induction requests generalizing s keys with
  | nil => exact fun served member => by contradiction
  | cons first requests ih =>
      obtain ⟨now, request⟩ := first
      intro served member userId name expiresIn asked
      rcases List.mem_cons.mp member with rfl | later
      · simp only at asked
        subst asked
        by_contra found
        obtain ⟨user, found⟩ := Option.ne_none_iff_exists'.mp found
        have after := kept _ List.mem_cons_self _ (Nat.le_refl _)
        simp only at after
        rw [note_generateApiKey found] at after
        simp only [Request.body, run_body, run_generateApiKey, found] at after
        exact not_kept_of_issue (records.at now) numbers (List.mem_of_find?_eq_some found) name
          expiresIn keys after
      · exact ih ((records.at now).request request)
          (fun moment member => kept moment (List.mem_cons_of_mem _ member)) served later userId name
          expiresIn asked

theorem moments_of_noneIssued (records : Records s) {requests : List (Nat × Request)}
    (none : NoneIssued config s requests) {moment : List Issued × State}
    (member : moment ∈ moments config [] s requests) : moment.1 = [] ∧ Records moment.2 := by
  induction requests generalizing s with
  | nil => contradiction
  | cons first requests ih =>
      obtain ⟨now, request⟩ := first
      have records' : Records (run config (request.body config) { s with now }).2 :=
        (records.at now).request request
      have noted : Served.note config ⟨{ s with now }, request,
          (run config (request.body config) { s with now }).1⟩ [] = [] := by
        by_contra noted
        obtain ⟨userId, name, expiresIn, asked, found⟩ := note_nil noted
        exact found (none _ List.mem_cons_self userId name expiresIn asked)
      simp only [moments, noted] at member
      rcases List.mem_cons.mp member with rfl | later
      · exact ⟨rfl, records'⟩
      · exact ih records' (fun served member => none served (List.mem_cons_of_mem _ member)) later

/-- The life of a key never goes as it should. -/
theorem lifecycleKept_iff (numbers : ∀ id, config.number (toString id) = some id)
    (users : List User) (nextUser : Nat) (requests : List (Nat × Request)) :
    LifecycleKept config (start users nextUser) requests ↔
      NoneIssued config (start users nextUser) requests := by
  refine ⟨noneIssued_of_kept records_start numbers, fun none moment member now later => ?_⟩
  obtain ⟨keys, s⟩ := moment
  obtain ⟨nothing, records⟩ := moments_of_noneIssued records_start none member
  simp only at nothing
  subst nothing
  refine ⟨fun key member => by contradiction, fun key member => by contradiction, ?_⟩
  exact fun user member start => ⟨[], lists_nothing (records.at now) numbers member, rfl⟩

def keyed : Config where
  signatureService := ⟨fun _ _ => none, id⟩
  randomNonce n := String.ofList (List.replicate n '0')
  uuid n := String.ofList (List.replicate n '1')
  number text :=
    if text.toList.all Char.isDigit then some (Nat.ofDigitChars 10 text.toList 0) else none
  apiKeys := []

theorem keyed_number (id : Nat) : keyed.number (toString id) = some id := by
  simp only [keyed, Nat.toString_eq_repr, Nat.toList_repr, Nat.ofDigitChars_ten_toDigits]
  exact if_pos (List.all_eq_true.mpr fun _ member =>
    Nat.isDigit_of_mem_toDigits (by decide) (by decide) member)

def bob : User := ⟨1, "0xb", .ethereum, "0x01", ["user", "admin"]⟩

/-- User 7 does not exist and gets no key; Bob's key is issued and does not live as it should. -/
theorem lifecycleKept_of_stranger :
    LifecycleKept keyed (start [bob] 2)
      [(0, .generateApiKey (toString 7) "ci" 60), (1, .listApiKeys (toString 1))] ∧
    ¬ LifecycleKept keyed (start [bob] 2)
      [(0, .generateApiKey (toString 1) "ci" 60), (1, .listApiKeys (toString 1))] := by
  constructor
  · apply (lifecycleKept_iff keyed_number [bob] 2 _).mpr
    intro served member userId name expiresIn asked
    rcases List.mem_cons.mp member with rfl | later
    · cases asked
      rw [keyed_number]
      rfl
    · cases List.mem_singleton.mp later
      contradiction
  · intro kept
    have absent := (lifecycleKept_iff keyed_number [bob] 2 _).mp kept _ List.mem_cons_self _ _ _ rfl
    rw [keyed_number] at absent
    contradiction

/-- Bob's first key is not in his list. -/
theorem key_not_listed :
    ¬ ∀ config : Config, Function.Injective config.uuid →
      (∀ n, config.apiKeys.lookup (config.uuid n) = none) →
      (∀ id, config.number (toString id) = some id) →
      ∀ users nextUser requests, LifecycleKept config (start users nextUser) requests := by
  intro kept
  have random : Function.Injective keyed.uuid := by
    intro n m same
    simpa [keyed] using congrArg (·.toList.length) same
  have kept := kept keyed random (fun _ => rfl) keyed_number [bob] 2
    [(0, .generateApiKey (toString 1) "ci" 60)]
  have absent := noneIssued_of_kept records_start keyed_number kept _ List.mem_cons_self _ _ _ rfl
  rw [keyed_number] at absent
  contradiction

end Kanaka.Backend.AuthService
