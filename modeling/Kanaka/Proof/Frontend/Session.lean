import Kanaka.Frontend.AuthContext

/-! # The session over interleaved calls -/

namespace Kanaka.Frontend.AuthContext
open Async
open Backend (truthy)
open Json (Value)

/-! ## What a call goes through -/

/-- Where a call stands with its login: not yet begun, requested, or ended either way. -/
inductive Phase where
  | begun
  | requested
  | settled
deriving DecidableEq

/-- `read` is the token found in the storage, `sent` the one of the last request. -/
structure Notes where
  read : Option String
  sent : Option String
  user : Option Value
  response : Option Value
  phase : Phase

def Effect.settles : Effect → Bool
  | .dispatch (.loginSuccess _ _) | .dispatch (.loginFailure _) => true
  | _ => false

def Effect.requests : Effect → Bool
  | .dispatch .loginRequest => true
  | _ => false

def Phase.after (phase : Phase) (effects : List Effect) : Phase :=
  if effects.any Effect.settles then .settled
  else if effects.any Effect.requests then .requested
  else phase

namespace Notes

def begun : Notes := ⟨none, none, none, none, .begun⟩

def note (notes : Notes) : Event Op Reply Thrown → Notes
  | ⟨.getItems, .ok (token, _)⟩ => { notes with read := token }
  | ⟨.send _, .ok token⟩ => { notes with sent := token, user := none }
  | ⟨.receive .getProfile _, .ok (.ok user)⟩ => { notes with user := some user }
  | ⟨.receive (.updateProfile _) _, .ok (.ok user)⟩ => { notes with user := some user }
  | ⟨.receive (.login _ _ _) _, .ok (.ok response)⟩ => { notes with response := some response }
  | ⟨.sync effects, .ok _⟩ => { notes with phase := notes.phase.after effects }
  -- the storage and the reducer do not fail
  | ⟨.getItems, .error _⟩ | ⟨.sync _, .error _⟩ => { notes with phase := .settled }
  | _ => notes

end Notes

def Call.checks : Call → Bool
  | .checkAuth => true
  | _ => false

def Call.wallet : Call → Option Wallet
  | .login wallet _ | .connectAndLogin wallet _ => some wallet
  | _ => none

/-- The call still has to end what it has made the session wait for. -/
def Owes (call : Call) : Phase → Prop
  | .begun => call.checks = true
  | .requested => call.wallet.isSome = true
  | .settled => False

def Op.Quiet : Op → Prop
  | .getItems | .receive _ _ | .sync _ => False
  | _ => True

inductive Asks (call : Call) (notes : Notes) : Op → Prop where
  | getItems : Asks call notes .getItems
  | quiet {op} : op.Quiet → Asks call notes op
  | receive {request} : Asks call notes (.receive request notes.sent)
  | requested : call.wallet.isSome = true → Asks call notes (.sync [.dispatch .loginRequest])
  | shown {user walletType} : notes.user = some user → truthy notes.read = true →
      Asks call notes (.sync [.dispatch (.loginSuccess user walletType)])
  | loggedIn {response token user wallet walletType} : notes.response = some response →
      credentials response = .ok (token, user) → call.wallet = some wallet →
      wallet.isConnected = true →
      Asks call notes (.sync [.setToken token, .setWalletType walletType,
        .dispatch (.loginSuccess user (some walletType))])
  | refused {error} : Asks call notes (.sync [.dispatch (.loginFailure error)])
  | cleared {error} :
      Asks call notes (.sync [.removeToken, .removeWalletType, .dispatch (.loginFailure error)])
  | loggedOut : Asks call notes (.sync [.removeToken, .removeWalletType, .dispatch .logout])
  | updated {user} : notes.user = some user →
      Asks call notes (.sync [.dispatch (.updateUser user)])

section Follows
variable {α : Type} {call : Call} {notes : Notes}

abbrev Follows (call : Call) (R : Notes → α → Prop) (E : Notes → Thrown → Prop) (notes : Notes)
    (task : Program α) : Prop :=
  Task.Follows Notes.note (Asks call) R E notes task

theorem follows_quiet (op : Op) (quiet : op.Quiet) {R : Notes → Reply op → Prop}
    {E : Notes → Thrown → Prop} (replied : ∀ reply, R (notes.note ⟨op, .ok reply⟩) reply)
    (failed : ∀ after error, after.phase = notes.phase → E after error) :
    Follows call R E notes (await op) := by
  apply Task.Follows.perform (.quiet quiet) replied
  intro error
  apply failed
  cases op with
  | getItems => exact quiet.elim
  | receive _ _ => exact quiet.elim
  | sync _ => exact quiet.elim
  | _ => rfl

theorem follows_sync {effects : List Effect} {R : Notes → Unit → Prop} {E : Notes → Thrown → Prop}
    (asks : Asks call notes (.sync effects))
    (replied : R { notes with phase := notes.phase.after effects } ())
    (failed : ∀ after error, after.phase = .settled → E after error) :
    Follows call R E notes (await (.sync effects)) :=
  Task.Follows.perform asks (fun _ => replied) fun error => failed _ error rfl

theorem phase_receive (request : Request) (token : Option String)
    (answer : Except Thrown (Reply (.receive request token))) :
    (notes.note ⟨.receive request token, answer⟩).phase = notes.phase := by
  cases request <;> rcases answer with _ | (_ | _) <;> rfl

theorem follows_request (config : Request) {R : Notes → Value → Prop}
    {E : Notes → Thrown → Prop}
    (replied : ∀ token data, R ((notes.note ⟨.send config, .ok token⟩).note
      ⟨.receive config token, .ok (.ok data)⟩) data)
    (failed : ∀ after error, after.phase = notes.phase → E after error) :
    Follows call R E notes (request config) := by
  apply Task.Follows.bind
  apply follows_quiet (.send config) trivial _ failed
  intro token
  apply Task.Follows.bind
  have asks : Asks call (notes.note ⟨.send config, .ok token⟩) (.receive config token) := .receive
  apply Task.Follows.perform asks
  · intro response
    cases response with
    | ok data => exact .done (replied token data)
    | error error => exact .fail (failed _ error (phase_receive config token _))
  · exact fun error => failed _ error (phase_receive config token _)

theorem follows_ofExcept {result : Except Thrown α} {R : Notes → α → Prop}
    {E : Notes → Thrown → Prop} (returned : ∀ value, result = .ok value → R notes value)
    (failed : ∀ error, E notes error) : Follows call R E notes (Task.ofExcept result) := by
  cases result with
  | ok value => exact .done (returned value rfl)
  | error error => exact .fail (failed error)

theorem follows_signMessage (wallet : Wallet) (message : String) {R : Notes → String → Prop}
    {E : Notes → Thrown → Prop}
    (signed : ∀ signature, wallet.isConnected = true → R notes signature)
    (failed : ∀ after error, after.phase = notes.phase → E after error) :
    Follows call R E notes (wallet.signMessage message) := by
  unfold Wallet.signMessage
  split
  · exact .fail (failed _ _ rfl)
  · rename_i connected
    have connected : wallet.isConnected = true := not_not.mp connected
    split
    · split
      · exact follows_quiet (.sign _ _) trivial (fun signature => signed signature connected) failed
      · exact .fail (failed _ _ rfl)
    · exact follows_quiet (.sign _ _) trivial (fun signature => signed signature connected) failed
    · exact .fail (failed _ _ rfl)

/-- The call owes nothing at its end. -/
abbrev Ends (call : Call) (notes : Notes) (task : Program Unit) : Prop :=
  Follows call (fun notes _ => ¬ Owes call notes.phase) (fun notes _ => ¬ Owes call notes.phase)
    notes task

theorem not_owes_of_settled {phase : Phase} (settled : phase = .settled) : ¬ Owes call phase := by
  rw [settled]
  exact id

theorem not_owes_of_begun {phase : Phase} (other : call.checks = false) (begun : phase = .begun) :
    ¬ Owes call phase := by
  rw [begun]
  intro checks
  rw [Owes, other] at checks
  contradiction

theorem ends_sync {effects : List Effect} (asks : Asks call notes (.sync effects))
    (settles : effects.any Effect.settles = true) : Ends call notes (await (.sync effects)) := by
  apply follows_sync asks
  · exact not_owes_of_settled (if_pos settles)
  · exact fun _ _ settled => not_owes_of_settled settled

theorem ends_checkAuth : Ends .checkAuth .begun checkAuth := by
  apply Task.Follows.bind
  apply Task.Follows.perform .getItems
  · rintro ⟨token, savedWalletType⟩
    dsimp only
    split
    · rename_i stored
      apply Task.Follows.tryCatch
      apply Task.Follows.bind
      apply follows_request .getProfile
      · intro token user
        apply follows_sync (.shown rfl stored)
        · exact not_owes_of_settled rfl
        · exact fun _ _ _ => ends_sync .cleared rfl
      · exact fun _ _ _ => ends_sync .cleared rfl
    · exact ends_sync .refused rfl
  · exact fun _ => not_owes_of_settled rfl

section Login
variable {wallet : Wallet} (own : call.wallet = some wallet) (other : call.checks = false)
include own

theorem ends_signIn (currentWalletType : WalletType) :
    Ends call notes (signIn wallet currentWalletType) := by
  have refuse (notes : Notes) (error : Thrown) : Ends call notes (do
      await (.sync [.dispatch (.loginFailure error.message)])
      .fail error) := by
    apply Task.Follows.bind
    apply follows_sync .refused
    · exact .fail (not_owes_of_settled rfl)
    · exact fun _ _ settled => not_owes_of_settled settled
  apply Task.Follows.bind
  apply follows_sync (.requested (Option.isSome_of_mem own))
  · apply Task.Follows.tryCatch
    apply Task.Follows.bind
    apply follows_quiet .now trivial _ fun after error _ => refuse after error
    intro timestamp
    apply Task.Follows.bind
    apply follows_signMessage wallet _ _ fun after error _ => refuse after error
    intro signature connected
    apply Task.Follows.bind
    apply follows_request (.login _ _ _) _ fun after error _ => refuse after error
    intro _ response
    apply Task.Follows.bind
    apply follows_ofExcept _ fun error => refuse _ error
    rintro ⟨token, user⟩ given
    apply follows_sync (.loggedIn rfl given own connected)
    · exact not_owes_of_settled rfl
    · exact fun after error _ => refuse after error
  · exact fun _ _ settled => not_owes_of_settled settled

include other

theorem ends_login (preferredWalletType : Option WalletType) (begun : notes.phase = .begun) :
    Ends call notes (login wallet preferredWalletType) := by
  unfold login
  dsimp only
  cases preferredWalletType with
  | none =>
      split
      · exact .fail (not_owes_of_begun other begun)
      · split
        · exact .fail (not_owes_of_begun other begun)
        · exact ends_signIn own _
  | some type =>
      split
      · apply Task.Follows.bind
        apply follows_quiet (.connectWallet type) trivial
        · exact fun _ => ends_signIn own type
        · exact fun _ _ same => not_owes_of_begun other (same.trans begun)
      · exact ends_signIn own type

end Login

theorem ends_logout (other : call.checks = false) (begun : notes.phase = .begun) :
    Ends call notes logout := by
  have clear (after : Notes) (begun : after.phase = .begun) : Ends call after
      (await (.sync [.removeToken, .removeWalletType, .dispatch .logout])) := by
    apply follows_sync .loggedOut
    · exact not_owes_of_begun other begun
    · exact fun _ _ settled => not_owes_of_settled settled
  apply Task.Follows.bind
  apply Task.Follows.tryCatch
  apply Task.Follows.bind
  apply follows_request .logout
  · exact fun _ _ => .done (clear _ begun)
  · exact fun after _ same => .done (clear after (same.trans begun))

theorem ends_body (call : Call) : Ends call .begun (body call) := by
  cases call with
  | checkAuth => exact ends_checkAuth
  | login wallet preferredWalletType => exact ends_login rfl rfl preferredWalletType rfl
  | logout => exact ends_logout rfl rfl
  | updateUser userData =>
      apply Task.Follows.bind
      apply Task.Follows.bind
      apply follows_request (.updateProfile userData)
      · intro token user
        apply Task.Follows.bind
        apply follows_sync (.updated rfl)
        · exact .done (.done (not_owes_of_begun rfl rfl))
        · exact fun _ _ settled => not_owes_of_settled settled
      · exact fun _ _ same => not_owes_of_begun rfl same
  | connectAndLogin wallet type =>
      apply Task.Follows.tryCatch
      apply Task.Follows.bind
      apply follows_quiet (.connectWallet type) trivial
      · intro _
        apply (ends_login rfl rfl (some type) rfl).weaken (fun _ _ ended => ended)
        exact fun _ _ ended => .done ended
      · exact fun _ _ same => .done (not_owes_of_begun rfl same)
  | disconnectAndLogout isAuthenticated =>
      have leave (notes : Notes) (ended : ¬ Owes (.disconnectAndLogout isAuthenticated) notes.phase) :
          Follows (.disconnectAndLogout isAuthenticated)
            (fun notes _ => ¬ Owes (.disconnectAndLogout isAuthenticated) notes.phase)
            (fun notes _ => Ends (.disconnectAndLogout isAuthenticated) notes (return ())) notes
            (await .disconnectWallet) := by
        apply follows_quiet .disconnectWallet trivial (fun _ => ended)
        intro after _ same
        rw [← same] at ended
        exact .done ended
      apply Task.Follows.tryCatch
      cases isAuthenticated with
      | false => exact leave .begun (not_owes_of_begun rfl rfl)
      | true =>
          apply Task.Follows.bind
          apply (ends_logout rfl rfl).weaken
          · exact fun after _ ended => leave after ended
          · exact fun _ _ ended => .done ended
  | request method url =>
      apply Task.Follows.bind
      apply follows_request (.other method url)
      · exact fun _ _ => .done (not_owes_of_begun rfl rfl)
      · exact fun _ _ same => not_owes_of_begun rfl same

end Follows

def discipline : service.Discipline Notes where
  note := Notes.note
  begun := .begun
  asks := Asks
  returns call notes _ := ¬ Owes call notes.phase
  throws call notes _ := ¬ Owes call notes.phase
  follows := ends_body

abbrev Session := Async.Pool Call Op Reply Thrown Unit State

/-! ## What an operation does -/

inductive Turn (call : Call) (s : State) (notes : Notes) : Op → Notes → State → Prop where
  | quiet {op} : Turn call s notes op notes s
  | read : Turn call s notes .getItems { notes with read := s.authToken } s
  | sent {request} : Turn call s notes (.send request)
      { notes with sent := if truthy s.authToken then s.authToken else none, user := none } s
  | profile {op user} : (s.world.server .getProfile notes.sent = .ok user ∨
        ∃ data, s.world.server (.updateProfile data) notes.sent = .ok user) →
      Turn call s notes op { notes with user := some user } s
  | response {op response address signature walletType} :
      s.world.server (.login address signature walletType) notes.sent = .ok response →
      Turn call s notes op { notes with response := some response } s
  | expired {op} : Turn call s notes op notes (s.sync [.removeToken, .dispatch .logout])
  | sync {effects} : Asks call notes (.sync effects) →
      Turn call s notes (.sync effects) { notes with phase := notes.phase.after effects }
        (s.sync effects)

section Turns
variable {call : Call} {s after : State} {notes notes' : Notes} {op : Op}

theorem turn_of_received (request : Request) {response : Except Thrown Value}
    (same : s.world.server request notes.sent = response) :
    Turn call s notes op (notes.note ⟨.receive request notes.sent, .ok response⟩)
      (s.sync (expired response)) := by
  cases response with
  | error error =>
      have kept : notes.note ⟨.receive request notes.sent, .ok (.error error)⟩ = notes := by
        cases request <;> rfl
      rw [kept, expired]
      by_cases unauthorized : error.status = some 401
      · rw [if_pos unauthorized]
        exact .expired
      · rw [if_neg unauthorized]
        exact .quiet
  | ok data =>
      cases request with
      | getProfile => exact .profile (.inl same)
      | updateProfile changes => exact .profile (.inr ⟨changes, same⟩)
      | login address signature walletType => exact .response same
      | logout => exact .quiet
      | other method url => exact .quiet

theorem turn_of_serves {answer : Except Thrown (Reply op)} (asks : Asks call notes op)
    (serves : service.Serves op s answer after) :
    Turn call s notes op (notes.note ⟨op, answer⟩) after := by
  cases serves with
  | ok =>
      cases op with
      | getItems => exact .read
      | send request => exact .sent
      | receive request token =>
          cases asks with
          | quiet quiet => exact quiet.elim
          | receive => exact turn_of_received request rfl
      | sync effects => exact .sync asks
      | _ => exact .quiet
  | error fails =>
      cases op with
      | connectWallet type =>
          cases fails
          exact .quiet
      | sign type message =>
          cases fails
          exact .quiet
      | disconnectWallet =>
          cases fails
          exact .quiet
      | _ => contradiction

end Turns

/-! ## The state that is shown -/

/-- A user is kept only in an authenticated session, and an error only in another one. -/
structure Coherent (auth : AuthState) : Prop where
  user : auth.isAuthenticated = false → auth.user = .null
  error : auth.isAuthenticated = true → auth.error = none

theorem Coherent.reduce {auth : AuthState} (coherent : Coherent auth) (action : AuthAction) :
    Coherent (authReducer auth action) := by
  cases action with
  | loginRequest => exact ⟨coherent.user, fun _ => rfl⟩
  | loginSuccess user walletType =>
      exact ⟨fun outside => absurd outside.symm Bool.false_ne_true, fun _ => rfl⟩
  | loginFailure error =>
      exact ⟨fun _ => rfl, fun authenticated => absurd authenticated Bool.false_ne_true⟩
  | logout => exact ⟨fun _ => rfl, fun authenticated => absurd authenticated Bool.false_ne_true⟩
  | updateUser user =>
      refine ⟨fun outside => ?_, coherent.error⟩
      rw [authReducer, coherent.user outside]
      rfl

theorem Coherent.sync {s : State} (coherent : Coherent s.auth) (effects : List Effect) :
    Coherent (s.sync effects).auth := by
  induction effects generalizing s with
  | nil => exact coherent
  | cons effect effects ih =>
      apply ih
      cases effect with
      | dispatch action => exact coherent.reduce action
      | _ => exact coherent

theorem Coherent.turn {call : Call} {s after : State} {notes notes' : Notes} {op : Op}
    (coherent : Coherent s.auth) (turn : Turn call s notes op notes' after) :
    Coherent after.auth := by
  cases turn with
  | expired => exact coherent.sync _
  | sync _ => exact coherent.sync _
  | _ => exact coherent

/-! ### Waiting -/

/-- The session waits after an operation only if the call still owes its end, or if the session
waited before and the call owes what it owed. -/
theorem Turn.waits {call : Call} {s after : State} {notes notes' : Notes} {op : Op}
    (turn : Turn call s notes op notes' after) (waits : after.auth.isLoading = true) :
    Owes call notes'.phase ∨
      s.auth.isLoading = true ∧ (Owes call notes.phase → Owes call notes'.phase) := by
  cases turn with
  | expired => contradiction
  | sync asks =>
      cases asks with
      | quiet quiet => exact quiet.elim
      | requested own => exact .inl own
      | updated _ => exact .inr ⟨waits, id⟩
      | _ => contradiction
  | _ => exact .inr ⟨waits, id⟩

def Waiting (pool : Session) : Prop :=
  pool.state.auth.isLoading = true →
    ∃ running ∈ pool.tasks, Owes running.call (discipline.notes running).phase

theorem waiting_start {pool : Session} (waiting : Waiting pool) (call : Call) :
    Waiting ⟨pool.state, pool.tasks ++ [⟨call, [], body call⟩]⟩ := by
  intro waits
  obtain ⟨running, member, owes⟩ := waiting waits
  exact ⟨running, List.mem_append_left _ member, owes⟩

theorem waiting_serve {pool : Session} {task : Nat} {call : Call}
    {history : List (Event Op Reply Thrown)} {op : Op}
    {resume : Except Thrown (Reply op) → Program Unit} {answer : Except Thrown (Reply op)}
    {after : State} (waiting : Waiting pool)
    (found : pool.tasks[task]? = some ⟨call, history, .await op resume⟩)
    (turn : Turn call pool.state (discipline.notes ⟨call, history, .await op resume⟩) op
      (discipline.notes ⟨call, history ++ [⟨op, answer⟩], resume answer⟩) after) :
    Waiting ⟨after, pool.tasks.set task ⟨call, history ++ [⟨op, answer⟩], resume answer⟩⟩ := by
  have served : ⟨call, history ++ [⟨op, answer⟩], resume answer⟩ ∈
      pool.tasks.set task ⟨call, history ++ [⟨op, answer⟩], resume answer⟩ :=
    List.mem_of_getElem? (getElem?_served found)
  intro waits
  rcases turn.waits waits with owes | ⟨before, kept⟩
  · exact ⟨_, served, owes⟩
  · obtain ⟨running, member, owes⟩ := waiting before
    obtain ⟨place, there⟩ := List.mem_iff_getElem?.mp member
    by_cases same : place = task
    · rw [same, found] at there
      cases there
      exact ⟨_, served, kept owes⟩
    · exact ⟨running, List.mem_of_getElem? (getElem?_other same there), owes⟩

theorem unfinished_of_owes {running : Running Call Op Reply Thrown Unit}
    (keeps : discipline.Keeps running)
    (owes : Owes running.call (discipline.notes running).phase) : ¬ running.rest.Finished := by
  obtain ⟨call, history, rest⟩ := running
  cases keeps with
  | done settled => exact absurd owes settled
  | fail settled => exact absurd owes settled
  | await _ _ => exact id

theorem enters_of_owes {call : Call} {phase : Phase} (owes : Owes call phase) :
    call = .checkAuth ∨ ∃ wallet, call.wallet = some wallet := by
  cases phase with
  | begun =>
      cases call with
      | checkAuth => exact .inl rfl
      | _ => contradiction
  | requested => exact .inr (Option.isSome_iff_exists.mp owes)
  | settled => exact owes.elim

/-! ### What is shown of the answers

A relation between a stored token and a user, such as that the user is the token's owner.
-/

/-- Users in the relation are no empty values, and updating one leaves it in the relation. -/
structure Lasting (owns : Option String → Value → Prop) : Prop where
  filled : ∀ {token user}, owns token user → filled user = true
  spread : ∀ {token user data}, owns token data → owns token (spread user data)

/-- The server answers a request with what its token owns, and a login with a token and its user. -/
structure World.Answers (owns : Option String → Value → Prop) (world : World) : Prop where
  login : ∀ address signature walletType sent body token user,
    world.server (.login address signature walletType) sent = .ok body →
    credentials body = .ok (token, user) → owns (some token) user
  getProfile : ∀ token user, world.server .getProfile token = .ok user → owns token user
  updateProfile : ∀ data token user,
    world.server (.updateProfile data) token = .ok user → owns token user

structure Notes.Sound (owns : Option String → Value → Prop) (notes : Notes) : Prop where
  user : ∀ user ∈ notes.user, owns notes.sent user
  response : ∀ body ∈ notes.response, ∀ token user, credentials body = .ok (token, user) →
    owns (some token) user

theorem Notes.Sound.begun {owns : Option String → Value → Prop} : Notes.begun.Sound owns where
  user _ none := absurd none (Option.not_mem_none _)
  response _ none := absurd none (Option.not_mem_none _)

def State.Owned (owns : Option String → Value → Prop) (s : State) : Prop :=
  s.auth.isAuthenticated = true → owns s.authToken s.auth.user

def Op.shows : Op → Bool
  | .sync [.dispatch (.loginSuccess _ _)] | .sync [.dispatch (.updateUser _)] => true
  | _ => false

section Owned
variable {owns : Option String → Value → Prop} {call : Call} {s after : State}
  {notes notes' : Notes} {op : Op}

theorem Turn.sound (turn : Turn call s notes op notes' after) (answers : s.world.Answers owns)
    (sound : notes.Sound owns) : notes'.Sound owns := by
  cases turn with
  | sent => exact ⟨by simp, sound.response⟩
  | profile answered =>
      refine ⟨?_, sound.response⟩
      intro user replied
      cases replied
      rcases answered with checked | ⟨data, updated⟩
      · exact answers.getProfile _ _ checked
      · exact answers.updateProfile _ _ _ updated
  | response answered =>
      refine ⟨sound.user, ?_⟩
      intro body replied token user given
      cases replied
      exact answers.login _ _ _ _ _ _ _ answered given
  | _ => exact ⟨sound.user, sound.response⟩

theorem State.Owned.of_outside (outside : s.auth.isAuthenticated = false) : s.Owned owns := by
  intro authenticated
  rw [outside] at authenticated
  contradiction

theorem Turn.owned (lasting : Lasting owns) (turn : Turn call s notes op notes' after)
    (sound : notes.Sound owns)
    (timely : op.shows = true → ∀ user, owns notes.sent user → owns s.authToken user)
    (owned : s.Owned owns) : after.Owned owns := by
  cases turn with
  | expired => exact .of_outside rfl
  | sync asks =>
      cases asks with
      | quiet quiet => exact quiet.elim
      | requested _ => exact owned
      | shown replied _ => exact fun _ => timely rfl _ (sound.user _ replied)
      | loggedIn replied given _ _ => exact fun _ => sound.response _ replied _ _ given
      | updated replied =>
          intro authenticated
          have before : filled s.auth.user = true := lasting.filled (owned authenticated)
          have data := timely rfl _ (sound.user _ replied)
          show owns s.authToken (if filled s.auth.user then _ else _)
          rw [if_pos before]
          exact lasting.spread data
      | _ => exact .of_outside rfl
  | _ => exact owned

end Owned

structure Known (owns : Option String → Value → Prop) (pool : Session) : Prop where
  answers : pool.state.world.Answers owns
  sound : ∀ running ∈ pool.tasks, (discipline.notes running).Sound owns
  owned : pool.state.Owned owns

theorem sync_world (s : State) (effects : List Effect) : (s.sync effects).world = s.world := by
  induction effects generalizing s with
  | nil => rfl
  | cons effect effects ih =>
      apply (ih (s.apply effect)).trans
      cases effect <;> rfl

theorem Turn.world {call : Call} {s after : State} {notes notes' : Notes} {op : Op}
    (turn : Turn call s notes op notes' after) : after.world = s.world := by
  cases turn with
  | expired => rfl
  | sync _ => exact sync_world s _
  | _ => rfl

/-! ### The owner of a token -/

def idOf (user : Value) : Option Value := (properties user).lookup "id"

def Owner (owner : String → String) (token : Option String) (user : Value) : Prop :=
  ∃ own, token = some own ∧ idOf user = some (.string (owner own))

theorem filled_of_idOf {user id : Value} (named : idOf user = some id) : filled user = true := by
  cases user with
  | undefined | literal => contradiction
  | string value =>
      by_cases empty : value = ""
      · subst empty
        contradiction
      · exact decide_eq_true empty
  | array | object => rfl

theorem lasting_owner (owner : String → String) : Lasting (Owner owner) where
  filled owns := by
    obtain ⟨own, _, named⟩ := owns
    exact filled_of_idOf named
  spread owns := by
    obtain ⟨own, stored, named⟩ := owns
    refine ⟨own, stored, ?_⟩
    unfold idOf at named
    rw [idOf, spread, properties, List.lookup_append, named, Option.some_or]

theorem lasting_filled : Lasting fun _ user => filled user = true := ⟨id, fun _ => rfl⟩

def World.Carries (world : World) : Prop := world.Answers fun _ user => filled user = true

theorem World.Answers.carries {owner : String → String} {world : World}
    (answers : world.Answers (Owner owner)) : world.Carries where
  login _ _ _ _ _ _ _ replied given :=
    (lasting_owner owner).filled (answers.login _ _ _ _ _ _ _ replied given)
  getProfile _ _ replied := (lasting_owner owner).filled (answers.getProfile _ _ replied)
  updateProfile _ _ _ replied :=
    (lasting_owner owner).filled (answers.updateProfile _ _ _ replied)

/-- A profile is shown only while the token it was asked for with is the stored one, and the server
goes on to answer a token with its owner's profile. -/
def Timely (owner : String → String) (pool : Session) : Action Call Op Reply Thrown State → Prop
  | .start _ => True
  | .serve task ⟨op, _⟩ => op.shows = true →
      ∀ running ∈ pool.tasks[task]?, (discipline.notes running).sent = pool.state.authToken
  | .drift after => after.world.Answers (Owner owner)

/-! ### Logins without a connected wallet -/

/-- The call comes from a render in which no wallet is connected, or needs none. -/
def Call.Offline (call : Call) : Prop := ∀ wallet ∈ call.wallet, wallet.isConnected = false

section Offline
variable {call : Call} {s after : State} {notes notes' : Notes} {op : Op}

theorem Turn.stored (turn : Turn call s notes op notes' after) (offline : call.Offline) :
    after.authToken = none ∨ after.authToken = s.authToken := by
  cases turn with
  | expired => exact .inl rfl
  | sync asks =>
      cases asks with
      | quiet quiet => exact quiet.elim
      | loggedIn _ _ own connected =>
          rw [offline _ own] at connected
          contradiction
      | cleared => exact .inl rfl
      | loggedOut => exact .inl rfl
      | _ => exact .inr rfl
  | _ => exact .inr rfl

theorem Turn.reads (turn : Turn call s notes op notes' after) :
    notes'.read = notes.read ∨ notes'.read = s.authToken := by
  cases turn with
  | read => exact .inr rfl
  | _ => exact .inl rfl

theorem Turn.unseen (turn : Turn call s notes op notes' after) (offline : call.Offline)
    (unread : truthy notes.read = false) (outside : s.auth.isAuthenticated = false) :
    after.auth.isAuthenticated = false := by
  cases turn with
  | expired => rfl
  | sync asks =>
      cases asks with
      | quiet quiet => exact quiet.elim
      | requested _ => exact outside
      | shown _ stored =>
          rw [unread] at stored
          contradiction
      | loggedIn _ _ own connected =>
          rw [offline _ own] at connected
          contradiction
      | updated _ => exact outside
      | _ => rfl
  | _ => exact outside

end Offline

/-- The page offers a login only while no wallet is connected. -/
def FromPage (_ : Session) : Action Call Op Reply Thrown State → Prop
  | .start call => call.Offline
  | _ => True

def Restored (authToken token : Option String) : Prop := token = none ∨ token = authToken

theorem Restored.falsy {authToken token : Option String} (restored : Restored authToken token)
    (falsy : truthy authToken = false) : truthy token = false := by
  rcases restored with none | same
  · rw [none]
    rfl
  · rw [same]
    exact falsy

structure Unentered (authToken : Option String) (pool : Session) : Prop where
  stored : Restored authToken pool.state.authToken
  offline : ∀ running ∈ pool.tasks,
    running.call.Offline ∧ Restored authToken (discipline.notes running).read
  unseen : truthy authToken = false → pool.state.auth.isAuthenticated = false

/-! ## A browser with a stored token -/

def profile (id : String) : Value :=
  .object [("id", .string id), ("address", .string id), ("roles", .array [.string "user"]),
    ("createdAt", .string "2024-01-01"), ("updatedAt", .string "2024-01-01")] none

def unauthorized : Thrown := .error "Request failed with status code 401" (some 401)

/-- A token is the address of its owner. -/
def exampleServer : Request → Option String → Except Thrown Value
  | .login (some address) _ _, _ =>
      .ok (.object [("token", .string address), ("user", profile address)] none)
  | .getProfile, some token | .updateProfile _, some token => .ok (profile token)
  | .logout, _ | .other _ _, _ => .ok .undefined
  | .login none _ _, _ | .getProfile, none | .updateProfile _, none => .error unauthorized

def exampleWorld : World := ⟨exampleServer, 1700000000000, fun _ message => message⟩

theorem exampleWorld_answers : exampleWorld.Answers (Owner id) where
  login address _ _ _ body token user replied given := by
    cases address with
    | none => contradiction
    | some address =>
        cases replied
        cases given
        exact ⟨_, rfl, rfl⟩
  getProfile token _ replied := by
    cases token with
    | none => contradiction
    | some token =>
        cases replied
        exact ⟨token, rfl, rfl⟩
  updateProfile _ token _ replied := by
    cases token with
    | none => contradiction
    | some token =>
        cases replied
        exact ⟨token, rfl, rfl⟩

def envelopingWorld : World where
  server request token := (exampleServer request token).map fun body =>
    .object [("data", body), ("meta", .object [] none)] none
  now := 1700000000000
  signature _ message := message

def timely (pool : Session) : Action Call Op Reply Thrown State → Bool
  | .start _ => true
  | .serve task ⟨op, _⟩ => !op.shows ||
      pool.tasks[task]?.all fun running => (discipline.notes running).sent = pool.state.authToken
  | .drift _ => false

theorem timely_sound (pool : Session) (action : Action Call Op Reply Thrown State)
    (passed : timely pool action = true) : Timely id pool action := by
  cases action with
  | start call => trivial
  | serve task event =>
      intro shows running found
      obtain ⟨op, answer⟩ := event
      have shown : op.shows = true := shows
      simp only [timely, shown, Bool.not_true, Bool.false_or] at passed
      rw [Option.mem_def.mp found] at passed
      exact of_decide_eq_true passed
  | drift after => contradiction

def served (task count : Nat) : List (Async.Move Call Thrown) :=
  List.replicate count (.serve task none)

def fromPage (_ : Session) : Action Call Op Reply Thrown State → Bool
  | .start call => call.wallet.all fun wallet => !wallet.isConnected
  | .serve _ _ => true
  | .drift _ => false

theorem fromPage_sound (pool : Session) (action : Action Call Op Reply Thrown State)
    (passed : fromPage pool action = true) : FromPage pool action := by
  cases action with
  | start call =>
      intro wallet own
      simp only [fromPage, Option.mem_def.mp own, Option.all_some, Bool.not_eq_true'] at passed
      exact passed
  | serve task event => trivial
  | drift after => contradiction

/-! ## Whole runs -/

section Runs
variable {allowed : Session → Action Call Op Reply Thrown State → Prop} {authToken : Option String}
  {walletType : Option WalletType} {world : World} {pool : Session}

theorem keeps_mounted :
    ∀ running ∈ (mounted authToken walletType world).tasks, discipline.Keeps running := by
  intro running member
  rw [List.mem_singleton.mp member]
  exact Service.Discipline.Keeps.start Call.checkAuth

theorem turn_of_step {call : Call} {history : List (Event Op Reply Thrown)} {op : Op}
    {resume : Except Thrown (Reply op) → Program Unit} {answer : Except Thrown (Reply op)}
    {s after : State} (keeps : discipline.Keeps ⟨call, history, .await op resume⟩)
    (serves : service.Serves op s answer after) :
    Turn call s (discipline.notes ⟨call, history, .await op resume⟩) op
      (discipline.notes ⟨call, history ++ [⟨op, answer⟩], resume answer⟩) after := by
  rw [discipline.notes_serve call history ⟨op, answer⟩ (resume answer) (.await op resume)]
  exact turn_of_serves keeps.asks serves

theorem coherent_of_reaches
    (reaches : service.Reaches allowed (mounted authToken walletType world) pool) :
    (Coherent pool.state.auth ∧ Waiting pool) ∧
      ∀ running ∈ pool.tasks, discipline.Keeps running := by
  apply reaches.invariant discipline keeps_mounted
  · exact ⟨⟨fun _ => rfl, fun _ => rfl⟩, fun _ => ⟨_, List.mem_singleton_self _, rfl⟩⟩
  · exact fun pool call ⟨coherent, waiting⟩ _ => ⟨coherent, waiting_start waiting call⟩
  · rintro pool task call history op resume answer after ⟨coherent, waiting⟩ found keeps - serves
    have turn := turn_of_step keeps serves
    exact ⟨coherent.turn turn, waiting_serve waiting found turn⟩
  · rintro pool after ⟨coherent, waiting⟩ - drifts
    rw [drifts]
    exact ⟨coherent, waiting⟩

theorem known_of_reaches {owns : Option String → Value → Prop} (lasting : Lasting owns)
    (answers : world.Answers owns)
    (drifting : ∀ pool after, allowed pool (.drift after) → after.world.Answers owns)
    (timely : ∀ pool task event, allowed pool (.serve task event) → event.op.shows = true →
      ∀ running ∈ pool.tasks[task]?, ∀ user, owns (discipline.notes running).sent user →
        owns pool.state.authToken user)
    (reaches : service.Reaches allowed (mounted authToken walletType world) pool) :
    Known owns pool := by
  apply (reaches.invariant discipline (I := Known owns) keeps_mounted _ _ _ _).1
  · refine ⟨answers, ?_, .of_outside rfl⟩
    intro running member
    rw [List.mem_singleton.mp member]
    exact .begun
  · intro pool call known _
    exact ⟨known.answers, forall_start known.sound .begun, known.owned⟩
  · intro pool task call history op resume answer after known found keeps permitted serves
    have turn := turn_of_step keeps serves
    have own := known.sound _ (List.mem_of_getElem? found)
    refine ⟨?_, forall_serve known.sound (turn.sound known.answers own), ?_⟩
    · show after.world.Answers owns
      rw [turn.world]
      exact known.answers
    · exact turn.owned lasting own (fun shows => timely _ _ _ permitted shows _ found) known.owned
  · intro pool after known permitted drifts
    refine ⟨drifting _ _ permitted, known.sound, ?_⟩
    rw [drifts]
    exact known.owned

/-- Whatever the order of the checks, logins, logouts, updates and replies, and whatever is in their
bodies: a user is kept only in an authenticated session, no error stands beside one, and the session
waits only while a check or a login is under way. An authenticated session has a user as long as the
server's answers carry one. -/
theorem session_coherent
    (reaches : service.Reaches allowed (mounted authToken walletType world) pool) :
    Coherent pool.state.auth ∧
      (pool.state.auth.isLoading = true → ∃ running ∈ pool.tasks, ¬ running.rest.Finished ∧
        (running.call = .checkAuth ∨ ∃ wallet, running.call.wallet = some wallet)) ∧
      (world.Carries → (∀ pool after, allowed pool (.drift after) → after.world.Carries) →
        pool.state.auth.isAuthenticated = true → filled pool.state.auth.user = true) := by
  obtain ⟨⟨coherent, waiting⟩, keeps⟩ := coherent_of_reaches reaches
  refine ⟨coherent, fun waits => ?_, fun carries drifting => ?_⟩
  · obtain ⟨running, member, owes⟩ := waiting waits
    exact ⟨running, member, unfinished_of_owes (keeps running member) owes, enters_of_owes owes⟩
  · exact (known_of_reaches lasting_filled carries drifting
      (fun _ _ _ _ _ _ _ _ carried => carried) reaches).owned

theorem session_coherent_waiting : ∃ pool : Session,
    service.Reaches (Timely id) (mounted (some "0x7") none exampleWorld) pool ∧
      pool.state.auth.isLoading = true ∧ Coherent pool.state.auth ∧
      (∃ running ∈ pool.tasks, ¬ running.rest.Finished ∧
        (running.call = .checkAuth ∨ ∃ wallet, running.call.wallet = some wallet)) ∧
      filled pool.state.auth.user = true := by
  have run : ∃ pool, service.Reaches (Timely id) (mounted (some "0x7") none exampleWorld)
      pool ∧ pool.state.auth.isLoading = true ∧ pool.state.auth.isAuthenticated = true := by
    apply service.exists_of_play timely timely_sound
      (served 0 4 ++ .start (.login ⟨some "0x8", some .ethereum, false⟩ none) :: served 1 1)
    decide +kernel
  obtain ⟨pool, reaches, waits, authenticated⟩ := run
  obtain ⟨coherent, busy, shown⟩ := session_coherent reaches
  exact ⟨pool, reaches, waits, coherent, busy waits, shown exampleWorld_answers.carries
    (fun _ _ answers => answers.carries) authenticated⟩

/-- An envelope around the answer to a login leaves an authenticated session without a user, with the
text of an undefined token in the storage. -/
theorem session_enveloped : ∃ pool : Session,
    service.Reaches (fun _ _ => True) (mounted none none envelopingWorld) pool ∧
      pool.state.auth.isAuthenticated = true ∧ filled pool.state.auth.user = false ∧
      pool.state.authToken = some "undefined" := by
  apply service.exists_of_play (fun _ _ => true) (fun _ _ _ => trivial)
    (served 0 2 ++ .start (.login ⟨some "0x8", some .ethereum, false⟩ none) :: served 1 6)
  decide +kernel

/-- As long as profiles come in time, the user that is shown is the owner of the stored token. -/
theorem session_owned {owner : String → String} (answers : world.Answers (Owner owner))
    (reaches : service.Reaches (Timely owner) (mounted authToken walletType world) pool)
    (authenticated : pool.state.auth.isAuthenticated = true) :
    ∃ token, pool.state.authToken = some token ∧
      idOf pool.state.auth.user = some (.string (owner token)) := by
  refine (known_of_reaches (lasting_owner owner) answers (fun _ _ answers => answers) ?_
    reaches).owned authenticated
  intro pool task event timely shows running found user own
  rwa [← timely shows running found]

theorem session_owned_switched : ∃ pool : Session,
    service.Reaches (Timely id) (mounted (some "0x7") none exampleWorld) pool ∧
      pool.state.authToken = some "0x8" ∧ ∃ token, pool.state.authToken = some token ∧
        idOf pool.state.auth.user = some (.string (id token)) := by
  have run : ∃ pool, service.Reaches (Timely id) (mounted (some "0x7") none exampleWorld) pool ∧
      pool.state.authToken = some "0x8" ∧ pool.state.auth.isAuthenticated = true := by
    apply service.exists_of_play timely timely_sound
      (served 0 4 ++ .start (.login ⟨some "0x8", some .ethereum, false⟩ none) ::
        .start (.updateUser (profile "0x7")) :: served 1 3 ++ served 2 3 ++ served 1 3)
    decide +kernel
  obtain ⟨pool, reaches, stored, authenticated⟩ := run
  exact ⟨pool, reaches, stored, session_owned exampleWorld_answers reaches authenticated⟩

/-- A profile that comes after the logout shows its user without a token. -/
theorem session_unowned : ∃ pool : Session,
    service.Reaches (fun _ _ => True) (mounted (some "0x7") none exampleWorld) pool ∧
      pool.state.auth.isAuthenticated = true ∧ pool.state.authToken = none := by
  apply service.exists_of_play (fun _ _ => true) (fun _ _ _ => trivial)
    (served 0 2 ++ .start .logout :: served 1 3 ++ served 0 2)
  decide +kernel

theorem unentered_of_reaches
    (reaches : service.Reaches FromPage (mounted authToken walletType world) pool) :
    Unentered authToken pool := by
  apply (reaches.invariant discipline (I := Unentered authToken) keeps_mounted _ _ _ _).1
  · refine ⟨.inr rfl, ?_, fun _ => rfl⟩
    intro running member
    rw [List.mem_singleton.mp member]
    exact ⟨fun _ none => absurd none (Option.not_mem_none _), .inl rfl⟩
  · intro pool call unentered offline
    exact ⟨unentered.stored, forall_start unentered.offline ⟨offline, .inl rfl⟩, unentered.unseen⟩
  · intro pool task call history op resume answer after unentered found keeps _ serves
    have turn := turn_of_step keeps serves
    obtain ⟨offline, read⟩ := unentered.offline _ (List.mem_of_getElem? found)
    refine ⟨?_, forall_serve unentered.offline ⟨offline, ?_⟩, ?_⟩
    · rcases turn.stored offline with none | same
      · exact .inl none
      · show Restored authToken after.authToken
        rw [same]
        exact unentered.stored
    · rcases turn.reads with same | same
      · rw [same]
        exact read
      · rw [same]
        exact unentered.stored
    · exact fun falsy => turn.unseen offline (read.falsy falsy) (unentered.unseen falsy)
  · intro pool after unentered _ drifts
    rw [drifts]
    exact ⟨unentered.stored, unentered.offline, unentered.unseen⟩

/-- From the page nobody logs in. The wallet that the button connects is not the one of the render
whose `login` it calls, so no new token is ever stored, and without a token at the mount no user is
ever shown. -/
theorem page_never_enters
    (reaches : service.Reaches FromPage (mounted authToken walletType world) pool) :
    Restored authToken pool.state.authToken ∧
      (truthy authToken = false → pool.state.auth.isAuthenticated = false) := by
  have unentered := unentered_of_reaches reaches
  exact ⟨unentered.stored, unentered.unseen⟩

theorem page_never_enters_refused : ∃ pool : Session,
    service.Reaches FromPage (mounted none none exampleWorld) pool ∧
      pool.state.auth.error = some "Wallet not connected" ∧
      Restored none pool.state.authToken ∧ pool.state.auth.isAuthenticated = false := by
  have run : ∃ pool, service.Reaches FromPage (mounted none none exampleWorld) pool ∧
      pool.state.auth.error = some "Wallet not connected" := by
    apply service.exists_of_play fromPage fromPage_sound
      (served 0 2 ++ .start (.connectAndLogin ⟨none, none, false⟩ .ethereum) :: served 1 5)
    decide +kernel
  obtain ⟨pool, reaches, refused⟩ := run
  obtain ⟨restored, outside⟩ := page_never_enters reaches
  exact ⟨pool, reaches, refused, restored, outside rfl⟩

end Runs

end Kanaka.Frontend.AuthContext
