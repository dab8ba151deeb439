import Kanaka.Async.Pool
import Kanaka.Backend.ErrorHandler
import Kanaka.Json.Value

/-!
# `AuthContext.tsx`

The session that the frontend shows, with `authService.ts`, `api.ts`, `useWalletSelector.ts` and
what they use of `WalletContext.tsx`. A function keeps the wallet of the render it comes from.
-/

namespace Kanaka.Frontend.AuthContext
open Async
open Backend (truthy)
open Json (Value)

inductive WalletType where
  | ethereum
  | starknet
deriving DecidableEq

/-! ## Bodies of responses

Nothing checks what a body is; the types of `authTypes.ts` are gone when it arrives.
-/

def filled : Value → Bool
  | .undefined => false
  | .literal text => text.text ∉ ["null", "false", "0"]
  | .string value => value ≠ ""
  | .array _ | .object _ _ => true

/-- The own properties that `...value` spreads. -/
def properties : Value → List (String × Value)
  | .object fields _ => fields
  | .array items => items.mapIdx fun i item => (toString i, item)
  | .string value => value.toList.mapIdx fun i c => (toString i, .string c.toString)
  | .undefined | .literal _ => []

/-- `{ ...user, ...data }`, whatever the order of its properties. -/
def spread (user data : Value) : Value :=
  .object (properties data ++ (properties user).filter fun field =>
    ((properties data).lookup field.1).isNone) none

/-! ## The reducer -/

structure AuthState where
  isAuthenticated : Bool
  isLoading : Bool
  user : Value
  error : Option String
  walletType : Option WalletType

def initialState : AuthState := ⟨false, true, .null, none, none⟩

inductive AuthAction where
  | loginRequest
  | loginSuccess (user : Value) (walletType : Option WalletType)
  | loginFailure (error : String)
  | logout
  | updateUser (user : Value)

def authReducer (state : AuthState) : AuthAction → AuthState
  | .loginRequest => { state with isLoading := true, error := none }
  | .loginSuccess user walletType =>
      { state with
        isAuthenticated := true
        isLoading := false
        user := user
        walletType := walletType
        error := none }
  | .loginFailure error =>
      { state with
        isAuthenticated := false
        isLoading := false
        user := .null
        error := some error }
  | .logout =>
      { state with
        isAuthenticated := false
        isLoading := false
        user := .null
        walletType := none
        error := none }
  | .updateUser user =>
      { state with user := if filled state.user then spread state.user user else .null }

/-! ## Operations -/

/-- A thrown `Error`, with the `response.status` that an error of `axios` may have, or a thrown
value of another kind. -/
inductive Thrown where
  | error (message : String) (status : Option Nat)
  | other
deriving DecidableEq

/-- `error instanceof Error ? error.message : 'Login failed'` -/
def Thrown.message : Thrown → String
  | .error message _ => message
  | .other => "Login failed"

def Thrown.status : Thrown → Option Nat
  | .error _ status => status
  | .other => none

/-! ### What is read from a body -/

/-- `value.name`, for names that only plain objects have. -/
def property (value : Value) (name : String) : Except Thrown Value :=
  match value with
  | .undefined =>
      .error (.error ("Cannot read properties of undefined (reading '" ++ name ++ "')") none)
  | .object fields _ => .ok ((fields.lookup name).getD .undefined)
  | other =>
      if other.isNull then
        .error (.error ("Cannot read properties of null (reading '" ++ name ++ "')") none)
      else .ok .undefined

mutual

/-- `String(value)`; what JSON makes of a property `toString` is no function. -/
def toText : Value → Except Thrown String
  | .undefined => .ok "undefined"
  | .literal text => .ok text.text
  | .string value => .ok value
  | .array items => do return ",".intercalate (← itemTexts items)
  | .object fields _ =>
      if (fields.lookup "toString").isSome then
        .error (.error "Cannot convert object to primitive value" none)
      else .ok "[object Object]"

def itemTexts : List Value → Except Thrown (List String)
  | [] => .ok []
  | .undefined :: items => do return "" :: (← itemTexts items)
  | item :: items => do
      let text ← if item.isNull then .ok "" else toText item
      return text :: (← itemTexts items)

end

/-- The token that `localStorage` gets from the answer to a login, and its user. -/
def credentials (body : Value) : Except Thrown (String × Value) := do
  let token ← toText (← property body "token")
  return (token, ← property body "user")

inductive Request where
  | login (address : Option String) (signature : String) (walletType : WalletType)
  | logout
  | getProfile
  | updateProfile (data : Value)
  /-- Any other request of the pages. -/
  | other (method url : String)

inductive Effect where
  | setToken (token : String)
  | setWalletType (walletType : WalletType)
  | removeToken
  | removeWalletType
  | dispatch (action : AuthAction)

/-- `send` is the interceptor that attaches the stored token and replies with it; `receive` waits
for the response; `sync` has its effects in one go. -/
inductive Op where
  | getItems
  | send (request : Request)
  | receive (request : Request) (token : Option String)
  | connectWallet (type : WalletType)
  | now
  | sign (type : WalletType) (message : String)
  | disconnectWallet
  | sync (effects : List Effect)

abbrev Reply : Op → Type
  | .getItems => Option String × Option WalletType
  | .send _ => Option String
  | .receive _ _ => Except Thrown Value
  | .now => Nat
  | .sign _ _ => String
  | .connectWallet _ | .disconnectWallet | .sync _ => Unit

abbrev Program := Task Op Reply Thrown

def await (op : Op) : Program (Reply op) := Task.perform op

def request (request : Request) : Program Value := do
  let token ← await (.send request)
  let response ← await (.receive request token)
  Task.ofExcept response

/-! ## The wallet of a render -/

structure Wallet where
  address : Option String
  walletType : Option WalletType
  hasStarknetAccount : Bool
deriving DecidableEq

def Wallet.isConnected (wallet : Wallet) : Bool := truthy wallet.address

def Wallet.signMessage (wallet : Wallet) (message : String) : Program String :=
  if ¬ truthy wallet.address then
    .fail (.error "Wallet not connected" none)
  else
    match wallet.walletType with
    | some .starknet =>
        if wallet.hasStarknetAccount then await (.sign .starknet message)
        else .fail (.error "Starknet account not available" none)
    | some .ethereum => await (.sign .ethereum message)
    | none => .fail (.error "Unknown wallet type" none)

/-! ## The provider's functions -/

def checkAuth : Program Unit := do
  let (token, savedWalletType) ← await .getItems
  if truthy token then
    Task.tryCatch (do
      -- Verify token by fetching user profile
      let user ← request .getProfile
      await (.sync [.dispatch (.loginSuccess user savedWalletType)]))
      fun _ =>
        -- Token is invalid, remove it
        await (.sync [.removeToken, .removeWalletType, .dispatch (.loginFailure "Invalid token")])
  else
    await (.sync [.dispatch (.loginFailure "No token found")])

/-- The part of `login` that has a wallet type. -/
def signIn (wallet : Wallet) (currentWalletType : WalletType) : Program Unit := do
  await (.sync [.dispatch .loginRequest])
  Task.tryCatch (do
    -- Create a message to sign
    let timestamp ← await .now
    -- Sign the message with the wallet
    let signature ← wallet.signMessage ("Login to Kanaka Protocol: " ++ toString timestamp)
    -- Send the signature to the backend
    let response ← request (.login wallet.address signature currentWalletType)
    -- Store the token and wallet type
    let (token, user) ← Task.ofExcept (credentials response)
    await (.sync [.setToken token, .setWalletType currentWalletType,
      .dispatch (.loginSuccess user (some currentWalletType))]))
    fun error => do
      await (.sync [.dispatch (.loginFailure error.message)])
      .fail error

/-- What `connectWallet` connects is the wallet of a later render. -/
def login (wallet : Wallet) (preferredWalletType : Option WalletType) : Program Unit := do
  -- If wallet is not connected, try to connect it first
  if ¬ wallet.isConnected ∨ ¬ truthy wallet.address then
    match preferredWalletType with
    | none => .fail (.error "Wallet type must be specified when not connected" none)
    | some type => await (.connectWallet type)
  -- Use the current wallet type if none specified
  match preferredWalletType <|> wallet.walletType with
  | none => .fail (.error "No wallet type available" none)
  | some currentWalletType => signIn wallet currentWalletType

def logout : Program Unit := do
  -- Call logout endpoint
  Task.tryCatch (do
    let _ ← request .logout
    return ())
    fun _ => return ()
  -- Remove token regardless of API call success
  await (.sync [.removeToken, .removeWalletType, .dispatch .logout])

def updateUser (userData : Value) : Program Value := do
  let user ← request (.updateProfile userData)
  await (.sync [.dispatch (.updateUser user)])
  return user

/-! ## The page's functions -/

def connectAndLogin (wallet : Wallet) (type : WalletType) : Program Unit :=
  Task.tryCatch (do
    -- First connect the wallet
    await (.connectWallet type)
    -- Then login
    login wallet (some type))
  fun _ => return ()

def disconnectAndLogout (isAuthenticated : Bool) : Program Unit :=
  Task.tryCatch (do
    -- First logout from the backend
    if isAuthenticated then
      logout
    -- Then disconnect the wallet
    await .disconnectWallet)
  fun _ => return ()

inductive Call where
  | checkAuth
  | login (wallet : Wallet) (preferredWalletType : Option WalletType)
  | logout
  | updateUser (userData : Value)
  | connectAndLogin (wallet : Wallet) (type : WalletType)
  | disconnectAndLogout (isAuthenticated : Bool)
  | request (method url : String)

def body : Call → Program Unit
  | .checkAuth => checkAuth
  | .login wallet preferredWalletType => login wallet preferredWalletType
  | .logout => logout
  | .updateUser userData => do
      let _ ← updateUser userData
      return ()
  | .connectAndLogin wallet type => connectAndLogin wallet type
  | .disconnectAndLogout isAuthenticated => disconnectAndLogout isAuthenticated
  | .request method url => do
      let _ ← request (.other method url)
      return ()

/-! ## The browser -/

/-- What the server, the clock and the wallet would answer. -/
structure World where
  server : Request → Option String → Except Thrown Value
  now : Nat
  signature : WalletType → String → String

/-- `authToken` and `walletType` are the items of `localStorage`. -/
structure State where
  authToken : Option String
  walletType : Option WalletType
  auth : AuthState
  world : World

namespace State

def apply (s : State) : Effect → State
  | .setToken token => { s with authToken := some token }
  | .setWalletType walletType => { s with walletType := some walletType }
  | .removeToken => { s with authToken := none }
  | .removeWalletType => { s with walletType := none }
  | .dispatch action => { s with auth := authReducer s.auth action }

def sync (s : State) (effects : List Effect) : State := effects.foldl apply s

end State

/-- The response interceptor, and the listener for `auth:expired`. -/
def expired {α : Type} : Except Thrown α → List Effect
  | .ok _ => []
  | .error error => if error.status = some 401 then [.removeToken, .dispatch .logout] else []

namespace Service

def perform : (op : Op) → State → Reply op × State
  | .getItems, s => ((s.authToken, s.walletType), s)
  | .send _, s => (if truthy s.authToken then s.authToken else none, s)
  | .receive request token, s =>
      let response := s.world.server request token
      (response, s.sync (expired response))
  | .now, s => (s.world.now, s)
  | .sign type message, s => (s.world.signature type message, s)
  | .connectWallet _, s | .disconnectWallet, s => ((), s)
  | .sync effects, s => ((), s.sync effects)

/-- The wallet can refuse. -/
def failed : Op → State → Option State
  | .connectWallet _, s | .sign _ _, s | .disconnectWallet, s => some s
  | _, _ => none

end Service

def service : Service Call Op Reply Thrown Unit State where
  body := body
  perform := Service.perform
  failed := Service.failed
  drift s s' := s' = { s with world := s'.world }

/-- The provider has checked nothing yet. -/
def mounted (authToken : Option String) (walletType : Option WalletType) (world : World) :
    Async.Pool Call Op Reply Thrown Unit State :=
  ⟨⟨authToken, walletType, initialState, world⟩, [⟨.checkAuth, [], checkAuth⟩]⟩

end Kanaka.Frontend.AuthContext
