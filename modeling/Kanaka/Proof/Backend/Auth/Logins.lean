import Kanaka.Proof.Backend.Auth.Requests
import Mathlib.Data.List.Pairwise

/-! # Logins and nonces -/

namespace Kanaka.Backend.AuthService
open Async SignatureService

variable (config : Config)

/-! ## The nonces of the table -/

def Apart (user other : User) : Prop := user.id ≠ other.id ∧ user.nonce ≠ other.nonce

instance : Std.Symm Apart := ⟨fun _ _ apart => ⟨apart.1.symm, apart.2.symm⟩⟩

structure Tidy (s : State) : Prop where
  ids : ∀ user ∈ s.users, user.id < s.nextUser
  drawn : ∀ user ∈ s.users, ∃ i < s.drawn, user.nonce = config.randomNonce i
  distinct : s.users.Pairwise Apart

/-- The nonce was drawn and is not stored any more. -/
def Spent (nonce : String) (s : State) : Prop :=
  (∃ i < s.drawn, nonce = config.randomNonce i) ∧ ∀ user ∈ s.users, user.nonce ≠ nonce

variable {config}

theorem fresh_of_drawn (random : Function.Injective config.randomNonce) {nonce : String} {n : Nat}
    (drawn : ∃ i < n, nonce = config.randomNonce i) : config.randomNonce n ≠ nonce := by
  rintro rfl
  obtain ⟨i, early, same⟩ := drawn
  exact absurd (random same) (Nat.ne_of_gt early)

theorem drawn_succ {nonce : String} {n : Nat} (drawn : ∃ i < n, nonce = config.randomNonce i) :
    ∃ i < n + 1, nonce = config.randomNonce i := by
  obtain ⟨i, early, same⟩ := drawn
  exact ⟨i, Nat.lt_succ_of_lt early, same⟩

section States
variable {s : State} {user : User} {nonce walletAddress : String} {walletType : WalletType}

theorem Tidy.draw (tidy : Tidy config s) : Tidy config s.draw :=
  ⟨tidy.ids, fun user member => drawn_succ (tidy.drawn user member), tidy.distinct⟩

theorem Spent.draw (spent : Spent config nonce s) : Spent config nonce s.draw :=
  ⟨drawn_succ spent.1, spent.2⟩

variable (random : Function.Injective config.randomNonce)
include random

theorem Tidy.create (tidy : Tidy config s) : Tidy config (s.create config walletAddress walletType) := by
  refine ⟨fun user member => ?_, fun user member => ?_, ?_⟩
  · rcases List.mem_append.mp member with old | new
    · exact Nat.lt_succ_of_lt (tidy.ids user old)
    · exact List.mem_singleton.mp new ▸ Nat.lt_succ_self s.nextUser
  · rcases List.mem_append.mp member with old | new
    · exact drawn_succ (tidy.drawn user old)
    · exact ⟨s.drawn, Nat.lt_succ_self _, List.mem_singleton.mp new ▸ rfl⟩
  · refine List.pairwise_append.mpr ⟨tidy.distinct, List.pairwise_singleton _ _, ?_⟩
    intro user member new last
    rw [List.mem_singleton] at last
    subst last
    exact ⟨Nat.ne_of_lt (tidy.ids user member), (fresh_of_drawn random (tidy.drawn user member)).symm⟩

theorem Spent.create (spent : Spent config nonce s) :
    Spent config nonce (s.create config walletAddress walletType) := by
  refine ⟨drawn_succ spent.1, fun user member => ?_⟩
  rcases List.mem_append.mp member with old | new
  · exact spent.2 user old
  · exact List.mem_singleton.mp new ▸ fresh_of_drawn random spent.1

theorem Tidy.rotate (tidy : Tidy config s) (user : User) :
    Tidy config (s.rotate config user) := by
  have ids (row : User) : (if row.id = user.id then
      { user with nonce := config.randomNonce s.drawn } else row).id = row.id := by
    split
    · exact Eq.symm ‹_›
    · rfl
  refine ⟨fun row member' => ?_, fun row member' => ?_, ?_⟩
  · obtain ⟨old, there, rfl⟩ := List.mem_map.mp member'
    rw [ids]
    exact tidy.ids old there
  · obtain ⟨old, there, rfl⟩ := List.mem_map.mp member'
    split
    · exact ⟨s.drawn, Nat.lt_succ_self _, rfl⟩
    · exact drawn_succ (tidy.drawn old there)
  · apply List.pairwise_map.mpr
    refine tidy.distinct.imp_of_mem fun {row other} there there' apart => ?_
    refine ⟨by rw [ids, ids]; exact apart.1, ?_⟩
    split <;> split
    · exact absurd (‹row.id = user.id›.trans (Eq.symm ‹_›)) apart.1
    · exact fresh_of_drawn random (tidy.drawn other there')
    · exact (fresh_of_drawn random (tidy.drawn row there)).symm
    · exact apart.2

theorem Spent.rotate (spent : Spent config nonce s) : Spent config nonce (s.rotate config user) := by
  refine ⟨drawn_succ spent.1, fun row member => ?_⟩
  obtain ⟨old, there, rfl⟩ := List.mem_map.mp member
  split
  · exact fresh_of_drawn random spent.1
  · exact spent.2 old there

theorem Tidy.spends (tidy : Tidy config s) (member : user ∈ s.users) :
    Spent config user.nonce (s.rotate config user) := by
  refine ⟨drawn_succ (tidy.drawn user member), fun row member' => ?_⟩
  obtain ⟨old, there, rfl⟩ := List.mem_map.mp member'
  split
  · exact fresh_of_drawn random (tidy.drawn user member)
  · rename_i away
    have apart : old ≠ user := fun same => away (congrArg User.id same)
    exact (tidy.distinct.forall there member apart).2

theorem Tidy.account (tidy : Tidy config s) (walletAddress walletType : String) :
    Tidy config (s.account config walletAddress walletType).2 ∧
    (∀ nonce, Spent config nonce s →
      Spent config nonce (s.account config walletAddress walletType).2) ∧
    ∀ user ∈ (s.account config walletAddress walletType).1,
      user ∈ (s.account config walletAddress walletType).2.users ∧
      ∀ nonce, Spent config nonce s → user.nonce ≠ nonce := by
  unfold State.account
  cases found : s.userAt walletAddress with
  | some user =>
      have member := List.mem_of_find?_eq_some found
      refine ⟨tidy, fun _ spent => spent, ?_⟩
      rintro _ ⟨⟩
      exact ⟨member, fun nonce spent => spent.2 user member⟩
  | none =>
      cases WalletType.ofText walletType with
      | none => exact ⟨tidy.draw, fun _ spent => spent.draw, by simp⟩
      | some walletType =>
          refine ⟨tidy.create random, fun _ spent => spent.create random, ?_⟩
          rintro _ ⟨⟩
          exact ⟨List.mem_append_right _ (List.mem_singleton_self _),
            fun nonce spent => fresh_of_drawn random spent.1⟩

end States

/-! ## Runs -/

section Runs
variable {s : State} {nonce : String} (random : Function.Injective config.randomNonce)

/-- A request leaves a table whose nonces are in order, and no spent nonce comes back. -/
def Orderly (config : Config) (before after : State) : Prop :=
  Tidy config after ∧ ∀ nonce, Spent config nonce before → Spent config nonce after

theorem Tidy.orderly_of_users {after : State} (tidy : Tidy config s) (users : after.users = s.users)
    (next : after.nextUser = s.nextUser) (drawn : after.drawn = s.drawn) : Orderly config s after := by
  refine ⟨⟨?_, ?_, ?_⟩, fun nonce spent => ?_⟩
  · rw [users, next]
    exact tidy.ids
  · rw [users, drawn]
    exact tidy.drawn
  · rw [users]
    exact tidy.distinct
  · rw [Spent, users, drawn]
    exact spent

include random

theorem Tidy.orderly_account (tidy : Tidy config s) (walletAddress walletType : String) :
    Orderly config s (s.account config walletAddress walletType).2 :=
  ⟨(tidy.account random walletAddress walletType).1, (tidy.account random walletAddress walletType).2.1⟩

theorem Tidy.orderly_rotate (tidy : Tidy config s) (walletAddress walletType : String) (user : User) :
    Orderly config s ((s.account config walletAddress walletType).2.rotate config user) := by
  obtain ⟨tidy', spent', -⟩ := tidy.account random walletAddress walletType
  exact ⟨tidy'.rotate random user, fun nonce spent => (spent' nonce spent).rotate random⟩

theorem Tidy.orderly_request (tidy : Tidy config s) (request : Request) :
    Orderly config s (run config (request.body config) s).2 := by
  have effect : Effect config s (run config (request.body config) s).2 := effect_request request
  generalize (run config (request.body config) s).2 = after at effect ⊢
  cases effect with
  | account walletAddress walletType => exact tidy.orderly_account random walletAddress walletType
  | rotate walletAddress walletType user =>
      exact tidy.orderly_rotate random walletAddress walletType user
  | issue user name expiresIn => exact tidy.orderly_of_users rfl rfl rfl
  | revoke apiKey => exact tidy.orderly_of_users rfl rfl rfl
  | read => exact tidy.orderly_of_users rfl rfl rfl

end Runs

/-! ## Tokens -/

variable (config)

def Served.storedNonce (served : Served) (address walletType : String) : Option String :=
  (served.before.account config (normalize config address walletType) walletType).1.map (·.nonce)

def Served.tokenNonce (served : Served) : Option String :=
  match served.request, served.response with
  | .verifySignature address _ walletType, .ok (.login _) => served.storedNonce config address walletType
  | _, _ => none

def Contains (message nonce : String) : Prop := ∃ before after, message = before ++ nonce ++ after

variable (Genuine : (walletType message signature address : String) → Prop)

def SignedOver (address signature walletType nonce : String) : Prop :=
  ∃ message, Contains message nonce ∧
    Genuine walletType message signature (normalize config address walletType)

structure LoginSound (requests : List (Nat × Request)) : Prop where
  signed : ∀ served ∈ serve config empty requests, ∀ address signature walletType login,
    served.request = .verifySignature address signature walletType →
    served.response = .ok (.login login) →
    ∃ nonce ∈ served.storedNonce config address walletType,
      SignedOver config Genuine address signature walletType nonce
  once : ∀ nonce, (serve config empty requests).countP (·.tokenNonce config = some nonce) ≤ 1

/-- Each login comes with a signature over a message with the nonce, or with one that Ethereum's
check refuses. -/
def WellSigned (requests : List (Nat × Request)) : Prop :=
  ∀ served ∈ serve config empty requests, ∀ address signature walletType,
    served.request = .verifySignature address signature walletType →
    ∀ nonce ∈ served.storedNonce config address walletType,
      (walletType = "ethereum" ∧ ¬ Genuine walletType (loginMessage served.before.now) signature
        (normalize config address walletType)) ∨
      SignedOver config Genuine address signature walletType nonce

variable {config Genuine}

section Once
variable {s : State} {nonce : String}

theorem account_now (walletAddress walletType : String) :
    (s.account config walletAddress walletType).2.now = s.now := by
  unfold State.account
  split
  · rfl
  · split <;> rfl

theorem response_verifySignature {served : Served} {address signature walletType : String}
    (request : served.request = .verifySignature address signature walletType)
    (response : served.response = (run config (served.request.body config) served.before).1) :
    (∃ login, served.response = .ok (.login login)) ↔
      (∃ nonce, nonce ∈ served.storedNonce config address walletType) ∧
        isValid config address signature walletType served.before.now = true := by
  have now : (served.before.account config (normalize config address walletType) walletType).2.now =
    served.before.now := account_now ..
  rw [response, request]
  simp only [Request.body, run_body, run_verifySignature, Served.storedNonce]
  revert now
  rcases served.before.account config (normalize config address walletType) walletType with
    ⟨_ | user, after⟩
  · simp [Except.map]
  · rintro now
    simp only at now
    simp only [now]
    split <;> simp_all [Except.map]

theorem tokenNonce_eq_some {served : Served} (issued : served.tokenNonce config = some nonce) :
    ∃ address signature walletType login,
      served.request = .verifySignature address signature walletType ∧
      served.response = .ok (.login login) ∧
      nonce ∈ served.storedNonce config address walletType := by
  obtain ⟨before, request, response⟩ := served
  unfold Served.tokenNonce at issued
  split at issued
  · exact ⟨_, _, _, _, ‹_›, ‹_›, issued⟩
  · contradiction

variable (random : Function.Injective config.randomNonce)
include random

theorem spent_of_token (tidy : Tidy config s) {request : Request}
    (issued : Served.tokenNonce config ⟨s, request, (run config (request.body config) s).1⟩ = some nonce) :
    ¬ Spent config nonce s ∧ Spent config nonce (run config (request.body config) s).2 := by
  obtain ⟨address, signature, walletType, login, rfl, response, stored⟩ := tokenNonce_eq_some issued
  have valid := ((response_verifySignature rfl rfl).mp ⟨login, response⟩).2
  have now : (s.account config (normalize config address walletType) walletType).2.now = s.now :=
    account_now ..
  obtain ⟨tidy', -, users⟩ := tidy.account random (normalize config address walletType) walletType
  simp only [Request.body, run_body, run_verifySignature]
  simp only [Served.storedNonce] at stored
  revert now tidy' users stored
  rcases s.account config (normalize config address walletType) walletType with ⟨_ | user, after⟩
  · intro stored
    contradiction
  · intro stored now tidy' users
    obtain ⟨member, other⟩ := users user rfl
    cases stored
    simp only at now
    simp only [now, valid, if_true]
    exact ⟨fun spent => other _ spent rfl, tidy'.spends random member⟩

theorem countP_tokenNonce (tidy : Tidy config s) (requests : List (Nat × Request)) :
    (serve config s requests).countP (·.tokenNonce config = some nonce) ≤ 1 ∧
    (Spent config nonce s →
      (serve config s requests).countP (·.tokenNonce config = some nonce) = 0) := by
  induction requests generalizing s with
  | nil => exact ⟨Nat.zero_le 1, fun _ => rfl⟩
  | cons first requests ih =>
      obtain ⟨now, request⟩ := first
      have before : Tidy config { s with now } := ⟨tidy.ids, tidy.drawn, tidy.distinct⟩
      obtain ⟨after, kept⟩ := before.orderly_request random request
      obtain ⟨most, spent⟩ := ih after
      simp only [serve, List.countP_cons]
      by_cases issued : Served.tokenNonce config
          ⟨{ s with now }, request, (run config (request.body config) { s with now }).1⟩ = some nonce
      · obtain ⟨unspent, spends⟩ := spent_of_token random before issued
        simp only [issued, decide_true, if_true, spent spends]
        exact ⟨Nat.le_refl 1, fun spent => absurd spent unspent⟩
      · simp only [issued, decide_false, Bool.false_eq_true, if_false, Nat.add_zero]
        exact ⟨most, fun earlier => spent (kept _ earlier)⟩

end Once

theorem tidy_empty : Tidy config empty :=
  ⟨fun _ member => by contradiction, fun _ member => by contradiction, .nil⟩

theorem isValid_iff (genuine : ∀ message signature address,
      config.signatureService.verifyEthereumSignature message signature address = true ↔
        Genuine "ethereum" message signature address)
    (address signature walletType : String) (timestamp : Nat) :
    isValid config address signature walletType timestamp = true ↔
      ¬ (walletType = "ethereum" ∧ ¬ Genuine walletType (loginMessage timestamp) signature
        (normalize config address walletType)) := by
  unfold isValid
  by_cases ethereum : walletType = "ethereum"
  · subst ethereum
    simp [genuine]
  · simp [ethereum]

/-- The logins are sound exactly where each one's signature covers the stored nonce, which is not
what is checked. -/
theorem loginSound_iff (genuine : ∀ message signature address,
      config.signatureService.verifyEthereumSignature message signature address = true ↔
        Genuine "ethereum" message signature address)
    (random : Function.Injective config.randomNonce) (requests : List (Nat × Request)) :
    LoginSound config Genuine requests ↔ WellSigned config Genuine requests := by
  constructor
  · intro sound served member address signature walletType request nonce stored
    by_cases refused : walletType = "ethereum" ∧ ¬ Genuine walletType
        (loginMessage served.before.now) signature (normalize config address walletType)
    · exact .inl refused
    · have valid := (isValid_iff genuine address signature walletType served.before.now).mpr refused
      obtain ⟨login, response⟩ :=
        (response_verifySignature request (response_of_mem member)).mpr ⟨⟨nonce, stored⟩, valid⟩
      obtain ⟨nonce', stored', signed⟩ := sound.signed served member _ _ _ login request response
      cases stored.symm.trans stored'
      exact .inr signed
  · intro signed
    refine ⟨fun served member address signature walletType login request response => ?_,
      fun nonce => (countP_tokenNonce random tidy_empty requests).1⟩
    obtain ⟨⟨nonce, stored⟩, valid⟩ :=
      (response_verifySignature request (response_of_mem member)).mp ⟨login, response⟩
    rcases signed served member address signature walletType request nonce stored with refused | signed
    · exact absurd refused ((isValid_iff genuine _ _ _ _).mp valid)
    · exact ⟨nonce, stored, signed⟩

/-- Nobody has signed anything, so that `verifyMessage` throws. -/
def unsigned : Config where
  signatureService := ⟨fun _ _ => none, id⟩
  randomNonce n := String.ofList (List.replicate n '0')
  uuid n := String.ofList (List.replicate n '1')
  number _ := none
  apiKeys := []

theorem unsigned_random : Function.Injective unsigned.randomNonce := by
  intro n m same
  simpa [unsigned] using congrArg (·.toList.length) same

theorem loginSound_of_refusal :
    LoginSound unsigned (fun _ _ _ _ => False) [(5, .verifySignature "0xvictim" "0x" "ethereum")] := by
  apply (loginSound_iff (fun _ _ _ => by simp [verifyEthereumSignature, unsigned]) unsigned_random _).mpr
  intro served member address signature walletType request nonce stored
  left
  cases List.mem_singleton.mp member
  cases request
  exact ⟨rfl, id⟩

/-- Any signature at all logs any Starknet address in. -/
theorem token_unsigned :
    ¬ ∀ (config : Config) (Genuine : (walletType message signature address : String) → Prop),
      (∀ message signature address,
        config.signatureService.verifyEthereumSignature message signature address = true ↔
          Genuine "ethereum" message signature address) →
      Function.Injective config.randomNonce →
      ∀ requests, LoginSound config Genuine requests := by
  intro sound
  have sound := sound unsigned (fun _ _ _ _ => False)
    (fun _ _ _ => by simp [verifyEthereumSignature, unsigned]) unsigned_random
    [(0, .verifySignature "0xvictim" "anything" "starknet")]
  obtain ⟨nonce, -, message, -, genuine⟩ :=
    sound.signed _ (List.mem_singleton_self _) "0xvictim" "anything" "starknet" _ rfl rfl
  exact genuine

end Kanaka.Backend.AuthService
