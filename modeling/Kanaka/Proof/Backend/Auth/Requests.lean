import Kanaka.Backend.AuthService

/-! # What the requests of the authentication service do -/

namespace Kanaka.Backend.AuthService
open Async SignatureService

variable (config : Config)

namespace State
variable (s : State)

def draw : State := { s with drawn := s.drawn + 1 }

def newUser (walletAddress : String) (walletType : WalletType) : User :=
  ⟨s.nextUser, walletAddress, walletType, config.randomNonce s.drawn, ["user"]⟩

def create (walletAddress : String) (walletType : WalletType) : State :=
  { s.draw with
    users := s.users ++ [s.newUser config walletAddress walletType]
    nextUser := s.nextUser + 1 }

def rotate (user : User) : State :=
  { s.draw with
    users := s.users.map fun row =>
      if row.id = user.id then { user with nonce := config.randomNonce s.drawn } else row }

def account (walletAddress walletType : String) : Option User × State :=
  match s.userAt walletAddress with
  | some user => (some user, s)
  | none =>
      match WalletType.ofText walletType with
      | some walletType => (some (s.newUser config walletAddress walletType),
          s.create config walletAddress walletType)
      | none => (none, s.draw)

end State

section Runs
variable {config} {s : State}

theorem run_await (op : Op) : run config (await op) s = perform config op s := Task.run_perform ..

theorem run_findOrCreate (address walletType : String) :
    run config (findOrCreate config address walletType) s =
      match s.account config (normalize config address walletType) walletType with
      | (some user, after) => (.ok user, after)
      | (none, after) => (.error (.error "QueryFailedError"), after) := by
  unfold findOrCreate run
  rw [Task.run_bind_ok (run_await (.findOne _)), State.account]
  cases absent : s.userAt (normalize config address walletType) with
  | some user => rfl
  | none =>
      simp only
      rw [Task.run_bind_ok (run_await .generateNonce)]
      refine (run_await (.insert _ _ _ _)).trans ?_
      have absent' : State.userAt { s with drawn := s.drawn + 1 }
        (normalize config address walletType) = none := absent
      simp only [perform, absent']
      cases WalletType.ofText walletType <;> rfl

theorem getUserByAddress_eq (address : String) :
    getUserByAddress config address = findOrCreate config address "ethereum" := by
  have normal : normalize config address "ethereum" =
    config.signatureService.toLowerCase address := if_pos rfl
  simp only [getUserByAddress, findOrCreate]
  rw [normal]
  refine congrArg (fun next => await (.findOne _) >>= next) ?_
  funext found
  cases found <;> rfl

theorem run_getAuthMessage (address : String) :
    run config (getAuthMessage config address) s =
      match s.account config (normalize config address "ethereum") "ethereum" with
      | (some user, after) => (.ok ⟨generateAuthMessage user.nonce, user.nonce⟩, after)
      | (none, after) => (.error (.error "QueryFailedError"), after) := by
  rw [getAuthMessage, getUserByAddress_eq, run, Task.run_bind, ← run, run_findOrCreate]
  rcases s.account config (normalize config address "ethereum") "ethereum" with ⟨_ | user, after⟩ <;>
    rfl

theorem run_generateNonce (address : String) :
    run config (generateNonce config address) s =
      match s.account config (normalize config address "ethereum") "ethereum" with
      | (some user, after) => (.ok (config.randomNonce after.drawn), after.rotate config user)
      | (none, after) => (.error (.error "QueryFailedError"), after) := by
  rw [generateNonce, getUserByAddress_eq, run, Task.run_bind, ← run, run_findOrCreate]
  rcases s.account config (normalize config address "ethereum") "ethereum" with ⟨_ | user, after⟩ <;>
    rfl

def loggedIn (user : User) (address walletType : String) : Login :=
  ⟨payload user address walletType, .object [("id", .number user.id), ("address", .string address),
    ("walletType", .string walletType), ("roles", .strings user.roles)]⟩

theorem run_verifySignature (address signature walletType : String) :
    run config (verifySignature config address signature walletType) s =
      match s.account config (normalize config address walletType) walletType with
      | (some user, after) =>
          if isValid config address signature walletType after.now then
            (.ok (loggedIn user (normalize config address walletType) walletType),
              after.rotate config user)
          else (.error (.unauthorized "Invalid signature"), after)
      | (none, after) => (.error (.unauthorized "Authentication failed"), after) := by
  rw [verifySignature, run, Task.run_tryCatch, Task.run_bind, ← run, run_findOrCreate]
  rcases s.account config (normalize config address walletType) walletType with ⟨_ | user, after⟩
  · rfl
  · simp only
    rw [Task.run_bind_ok (run_await .now)]
    by_cases valid : isValid config address signature walletType after.now = true
    · rw [Task.run_throwIf_neg (not_not.mpr valid), if_pos valid]
      rfl
    · rw [Task.run_throwIf_pos valid, if_neg valid]
      rfl

theorem run_roleNames (roles : List String) :
    run config (roleNames roles) s = (.ok (roles.map fun _ => .undefined), s) := by
  induction roles with
  | nil => rfl
  | cons role roles ih =>
      rw [run] at ih
      rw [roleNames, run, List.map_cons]
      exact Task.run_bind_ok ih

def record (user : User) (name : String) (createdAt expiresAt : Int) : JsValue :=
  .object [("userId", .number user.id), ("walletAddress", .string user.walletAddress),
    ("name", .string name), ("roles", .array (user.roles.map fun _ => .undefined)),
    ("createdAt", .date createdAt), ("expiresAt", .date expiresAt)]

def State.issue (config : Config) (s : State) (user : User) (name : String) (expiresIn : Int) : State :=
  { s with
    keyed := s.keyed + 1
    redis := s.redis.set (apiKeyStem ++ config.uuid s.keyed)
      (record user name s.now (s.now + expiresIn * 1000)).json
      (if 0 < expiresIn then some (s.now + expiresIn.toNat * 1000) else none) }

theorem run_generateApiKey (userId name : String) (expiresIn : Int) :
    run config (generateApiKey config userId name expiresIn) s =
      match s.userOf (config.number userId) with
      | some user =>
          (.ok ⟨config.uuid s.keyed, s.now + expiresIn * 1000⟩, s.issue config user name expiresIn)
      | none => (.error (.badRequest "User not found"), s) := by
  unfold generateApiKey run
  rw [Task.run_bind_ok (run_await (.findById _))]
  cases s.userOf (config.number userId) with
  | none => rfl
  | some user =>
      simp only
      rw [Task.run_bind_ok (run_await .uuidv4), Task.run_bind_ok (run_roleNames user.roles)]
      rfl

/-! ## Requests that only read -/

def Op.Reads : Op → Prop
  | .findById _ => True
  | .now => True
  | .getJson _ => True
  | .keys _ => True
  | _ => False

abbrev ReadsOnly {α : Type} (program : Program α) : Prop :=
  Task.Follows (fun (_ : Unit) _ => ()) (fun _ op => op.Reads) (fun _ _ => True) (fun _ _ => True) ()
    program

theorem ReadsOnly.state {α : Type} {program : Program α} (reads : ReadsOnly program) :
    (run config program s).2 = s := by
  apply reads.run_keeps (I := fun state => state = s)
  · rintro _ op state reads rfl
    cases op <;> first | rfl | cases reads
  · rfl

theorem ReadsOnly.await {α : Type} (op : Op) (reads : op.Reads) {next : Reply op → Program α}
    (rest : ∀ reply, ReadsOnly (next reply)) : ReadsOnly (AuthService.await op >>= next) := by
  apply Task.Follows.bind
  refine Task.Follows.perform ?_ rest fun _ => trivial
  exact reads

theorem ReadsOnly.read {α : Type} (value : JsValue) (field : String) {next : JsValue → Program α}
    (rest : ∀ value, ReadsOnly (next value)) : ReadsOnly (AuthService.read value field >>= next) := by
  apply Task.Follows.bind
  unfold AuthService.read
  cases value.get field with
  | ok value => exact .done (rest value)
  | error message => exact .fail trivial

theorem reads_listed (userId : String) (keys : List String) : ReadsOnly (listed userId keys) := by
  induction keys with
  | nil => exact .done trivial
  | cons key keys ih =>
      apply ReadsOnly.await (.getJson key) trivial
      intro data
      split
      · apply ReadsOnly.read
        intro owner
        split
        · apply ReadsOnly.await .now trivial
          intro now
          apply ReadsOnly.read
          intro name
          apply ReadsOnly.read
          intro createdAt
          apply ReadsOnly.read
          intro expiresAt
          apply Task.Follows.bind
          exact ih.weaken (fun _ _ _ => .done trivial) fun _ _ _ => trivial
        · exact ih
      · exact ih

theorem reads_listApiKeys (userId : String) : ReadsOnly (listApiKeys config userId) := by
  apply ReadsOnly.await (.findById _) trivial
  intro found
  cases found with
  | none => exact .fail trivial
  | some user =>
      apply ReadsOnly.await (.keys _) trivial
      intro keys
      exact reads_listed userId keys

theorem reads_lookUp (apiKey : String) : ReadsOnly (lookUp config apiKey) := by
  unfold lookUp
  split
  · exact .done trivial
  · apply ReadsOnly.await (.getJson _) trivial
    intro data
    split
    · apply ReadsOnly.read
      intro name
      apply ReadsOnly.read
      intro roles
      apply ReadsOnly.read
      exact fun _ => .done trivial
    · exact .fail trivial

theorem reads_validate (apiKey : String) : ReadsOnly (validate config apiKey) := by
  apply Task.Follows.tryCatch
  refine (reads_lookUp apiKey).weaken (fun _ _ _ => trivial) fun _ error _ => ?_
  cases error <;> exact .fail trivial

/-! ## Served requests -/

theorem run_body {α : Type} (program : Program α) (respond : α → Response) :
    run config (do return respond (← program)) s =
      ((run config program s).1.map respond, (run config program s).2) :=
  Task.run_bind_pure ..

/-- What requests do to the state. -/
inductive Effect (config : Config) (s : State) : State → Prop where
  | account (walletAddress walletType : String) :
      Effect config s (s.account config walletAddress walletType).2
  | rotate (walletAddress walletType : String) (user : User) :
      Effect config s ((s.account config walletAddress walletType).2.rotate config user)
  | issue (user : User) (name : String) (expiresIn : Int) :
      Effect config s (s.issue config user name expiresIn)
  | revoke (apiKey : String) : Effect config s { s with redis := s.redis.del (apiKeyStem ++ apiKey) }
  | read : Effect config s s

theorem effect_request (request : Request) : Effect config s (run config (request.body config) s).2 := by
  cases request with
  | getAuthMessage address =>
      have account : Effect config s _ := .account (normalize config address "ethereum") "ethereum"
      simp only [Request.body, run_body, run_getAuthMessage]
      revert account
      rcases s.account config (normalize config address "ethereum") "ethereum" with ⟨_ | user, after⟩ <;>
        exact fun account => account
  | generateNonce address =>
      have account : Effect config s _ := .account (normalize config address "ethereum") "ethereum"
      have rotate : ∀ user, Effect config s _ :=
        .rotate (normalize config address "ethereum") "ethereum"
      simp only [Request.body, run_body, run_generateNonce]
      revert account rotate
      rcases s.account config (normalize config address "ethereum") "ethereum" with ⟨_ | user, after⟩
      · exact fun account _ => account
      · exact fun _ rotate => rotate user
  | verifySignature address signature walletType =>
      have account : Effect config s _ := .account (normalize config address walletType) walletType
      have rotate : ∀ user, Effect config s _ := .rotate (normalize config address walletType) walletType
      simp only [Request.body, run_body, run_verifySignature]
      revert account rotate
      rcases s.account config (normalize config address walletType) walletType with ⟨_ | user, after⟩
      · exact fun account _ => account
      · intro account rotate
        simp only
        split
        · exact rotate user
        · exact account
  | generateApiKey userId name expiresIn =>
      simp only [Request.body, run_body, run_generateApiKey]
      split
      · exact .issue _ name expiresIn
      · exact .read
  | revokeApiKey apiKey => exact .revoke apiKey
  | listApiKeys userId =>
      simp only [Request.body, run_body, (reads_listApiKeys userId).state]
      exact .read
  | validate apiKey =>
      simp only [Request.body, run_body, (reads_validate apiKey).state]
      exact .read

theorem response_of_mem {requests : List (Nat × Request)} {served : Served}
    (member : served ∈ serve config s requests) :
    served.response = (run config (served.request.body config) served.before).1 := by
  induction requests generalizing s with
  | nil => contradiction
  | cons first requests ih =>
      rcases List.mem_cons.mp member with rfl | later
      · rfl
      · exact ih later

end Runs

end Kanaka.Backend.AuthService
