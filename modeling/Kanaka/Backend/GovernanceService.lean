import Kanaka.Async.Pool
import Kanaka.Backend.ErrorHandler
import Mathlib.Data.List.Sort

/-! # `governance.service.ts` -/

namespace Kanaka.Backend.GovernanceService
open Kanaka.Async

/-! ## Entities -/

inductive Status where
  | active
  | pending
  | passed
  | rejected
  | executed
  | cancelled
deriving DecidableEq

def Status.text : Status → String
  | .active => "active"
  | .pending => "pending"
  | .passed => "passed"
  | .rejected => "rejected"
  | .executed => "executed"
  | .cancelled => "cancelled"

inductive Support where
  | yes
  | no
  | abstain
deriving DecidableEq

/-- A `Date`, or the ISO string that JSON makes of it, by its milliseconds. -/
inductive Timestamp where
  | date (ms : Int)
  | iso (ms : Int)
deriving DecidableEq

def Timestamp.ms : Timestamp → Int
  | .date ms => ms
  | .iso ms => ms

/-- `new Date() > timestamp`: next to a date, a string counts as NaN. -/
def Timestamp.past (now : Int) : Timestamp → Prop
  | .date ms => ms < now
  | .iso _ => False

instance (now : Int) (timestamp : Timestamp) : Decidable (timestamp.past now) := by
  cases timestamp <;> unfold Timestamp.past <;> infer_instance

structure Action where
  target : String
  value : String
  signature : String
  calldata : String
deriving DecidableEq

structure Vote where
  id : Nat
  proposalId : Nat
  voterId : Nat
  voterAddress : String
  power : Int
  support : Support
  createdAt : Timestamp
deriving DecidableEq

/-- `actions` is what `JSON.parse` makes of the column, `none` for a text that is not an array;
`votes` is the relation, where it is loaded. -/
structure Proposal where
  id : Nat
  title : String
  description : String
  creatorId : Nat
  creatorAddress : String
  actions : Option (List Action)
  startTime : Timestamp
  endTime : Timestamp
  yesVotes : Int
  noVotes : Int
  abstainVotes : Int
  status : Status
  executedAt : Option Timestamp
  votes : Option (List Vote)
  createdAt : Timestamp
deriving DecidableEq

def padded (width : Nat) (value : Nat) : String :=
  let digits := toString value
  String.ofList (List.replicate (width - digits.length) '0') ++ digits

/-- `toISOString`: the year, month and day of the proleptic Gregorian calendar, counted in eras of
400 years that begin on a first of March, and the time of the day. -/
def toISOString (ms : Int) : String :=
  let days := ms / 86400000 + 719468
  let time := (ms % 86400000).toNat
  let dayOfEra := (days % 146097).toNat
  let yearOfEra := (dayOfEra - dayOfEra / 1460 + dayOfEra / 36524 - dayOfEra / 146096) / 365
  let dayOfYear := dayOfEra - (365 * yearOfEra + yearOfEra / 4 - yearOfEra / 100)
  let march := (5 * dayOfYear + 2) / 153
  let day := dayOfYear - (153 * march + 2) / 5 + 1
  let month := if march < 10 then march + 3 else march - 9
  let year := days / 146097 * 400 + yearOfEra + if month ≤ 2 then 1 else 0
  let year := if 0 ≤ year ∧ year ≤ 9999 then padded 4 year.toNat
    else (if year < 0 then "-" else "+") ++ padded 6 year.natAbs
  year ++ "-" ++ padded 2 month ++ "-" ++ padded 2 day ++ "T" ++ padded 2 (time / 3600000) ++ ":" ++
    padded 2 (time / 60000 % 60) ++ ":" ++ padded 2 (time / 1000 % 60) ++ "." ++
    padded 3 (time % 1000) ++ "Z"

/-! ## JSON and columns -/

/-- The timestamp out of `JSON.parse(JSON.stringify(...))`. -/
def Timestamp.json (timestamp : Timestamp) : Timestamp := .iso timestamp.ms

def Timestamp.column (timestamp : Timestamp) : Timestamp := .date timestamp.ms

def Vote.json (vote : Vote) : Vote := { vote with createdAt := vote.createdAt.json }

def Proposal.json (proposal : Proposal) : Proposal :=
  { proposal with
    startTime := proposal.startTime.json
    endTime := proposal.endTime.json
    executedAt := proposal.executedAt.map (·.json)
    votes := proposal.votes.map (·.map (·.json))
    createdAt := proposal.createdAt.json }

def Proposal.columns (proposal : Proposal) : Proposal :=
  { proposal with
    startTime := proposal.startTime.column
    endTime := proposal.endTime.column
    executedAt := proposal.executedAt.map (·.column)
    votes := none
    createdAt := proposal.createdAt.column }

inductive Key where
  | proposal (id : Nat)
  | proposals
  | proposalList (active : Bool) (limit offset : Nat)
  | votes (proposalId : Nat) (support : Option Bool)
deriving DecidableEq

abbrev Key.Value : Key → Type
  | .proposal _ => Proposal
  | .proposals => Unit
  | .proposalList _ _ _ => List Proposal
  | .votes _ _ => List Vote

def Key.json : (key : Key) → key.Value → key.Value
  | .proposal _, entity => entity.json
  | .proposals, value => value
  | .proposalList _ _ _, entities => entities.map (·.json)
  | .votes _ _, entities => entities.map (·.json)

/-! ## Operations -/

structure CreateProposalDto where
  title : String
  description : String
  actions : Option (List Action)
  walletAddress : String
deriving DecidableEq

structure VoteDto where
  support : Support
  walletAddress : String
deriving DecidableEq

structure ProposalUpdate where
  proposalId : Nat
  title : String
  status : Status
  votesFor : Int
  votesAgainst : Int
  votesAbstain : Int
  quorumPercentage : Nat
  executionStatus : Option String
deriving DecidableEq

inductive Op where
  | now
  | getGovernanceTokenBalance (walletAddress : String)
  /-- The service is passed the action; the proposal and the position say which one it is. -/
  | executeGovernanceAction (proposalId position : Nat) (action : Action)
  | redisGet (key : Key)
  | redisSet (key : Key) (value : key.Value) (expireSeconds : Nat)
  | redisDel (key : Key)
  | findProposal (id : Nat)
  | findProposals (active : Bool) (limit offset : Nat)
  | findEnded (now : Int)
  | findVote (proposalId : Nat) (voterAddress : String)
  | findVotes (proposalId : Nat) (support : Option Bool)
  /-- `save` of an object out of `create`. -/
  | insertProposal (proposal : Proposal)
  /-- `save` of an object that was read. -/
  | saveProposal (proposal : Proposal)
  | saveVote (vote : Vote)
  | broadcastProposalUpdate (update : ProposalUpdate)

abbrev Reply : Op → Type
  | .now => Int
  | .getGovernanceTokenBalance _ => Int
  | .redisGet key => Option key.Value
  | .findProposal _ => Option Proposal
  | .findProposals _ _ _ => List Proposal
  | .findEnded _ => List Proposal
  | .findVote _ _ => Option Vote
  | .findVotes _ _ => List Vote
  | .insertProposal _ => Proposal
  | .saveProposal _ => Proposal
  | .saveVote _ => Vote
  | _ => Unit

abbrev Async := Task Op Reply JsError

def perform (op : Op) : Async (Reply op) := Task.perform op

def getJson (key : Key) : Async (Option key.Value) :=
  (do
    let value ← perform (.redisGet key)
    return value.map key.json).tryCatch fun _ => return none

def setJson (key : Key) (value : key.Value) (expireSeconds : Nat) : Async Unit :=
  perform (.redisSet key value expireSeconds)

structure Config where
  proposalThreshold : Int
  votingPeriod : Int
  executionDelay : Int
  quorum : Int

def broadcast (proposal : Proposal) (status : Status) (quorumPercentage : Nat)
    (executionStatus : Option String) : Async Unit :=
  perform (.broadcastProposalUpdate ⟨proposal.id, proposal.title, status, proposal.yesVotes,
    proposal.noVotes, proposal.abstainVotes, quorumPercentage, executionStatus⟩)

/-! ## The service -/

variable (config : Config)

def createProposal (userId : Nat) (dto : CreateProposalDto) : Async Proposal := do
  -- Check if user has enough tokens to create a proposal
  let balance ← perform (.getGovernanceTokenBalance dto.walletAddress)
  Task.throwIf (balance < config.proposalThreshold) (.ofMessage
    ("Insufficient governance tokens. Required: " ++ toString config.proposalThreshold ++
      ", Current: " ++ toString balance))
  let startTime ← perform .now
  let now ← perform .now
  let savedProposal ← perform (.insertProposal {
    id := 0, title := dto.title, description := dto.description,
    actions := some (dto.actions.getD []), status := .active, creatorId := userId,
    creatorAddress := dto.walletAddress, startTime := .date startTime,
    endTime := .date (now + config.votingPeriod * 1000), yesVotes := 0, noVotes := 0,
    abstainVotes := 0, executedAt := none, votes := none, createdAt := .date startTime })
  broadcast savedProposal .active 0 none
  return savedProposal

def getProposals (active : Bool) (limit offset : Nat) : Async (List Proposal) := do
  match ← getJson (.proposalList active limit offset) with
  | some cachedProposals => return cachedProposals
  | none =>
      let proposals ← perform (.findProposals active limit offset)
      -- Cache for 1 minute
      setJson (.proposalList active limit offset) proposals 60
      return proposals

def getProposal (id : Nat) : Async Proposal := do
  match ← getJson (.proposal id) with
  | some cachedProposal => return cachedProposal
  | none =>
      match ← perform (.findProposal id) with
      | none => .fail (.ofMessage ("Proposal with ID " ++ toString id ++ " not found"))
      | some proposal => do
          -- Cache for 1 minute
          setJson (.proposal id) proposal 60
          return proposal

def Proposal.withVote (proposal : Proposal) (support : Support) (votingPower : Int) : Proposal :=
  match support with
  | .yes => { proposal with yesVotes := proposal.yesVotes + votingPower }
  | .no => { proposal with noVotes := proposal.noVotes + votingPower }
  | .abstain => { proposal with abstainVotes := proposal.abstainVotes + votingPower }

def vote (userId proposalId : Nat) (dto : VoteDto) : Async Vote := do
  let proposal ← getProposal proposalId
  Task.throwIf (proposal.status ≠ .active)
    (.ofMessage ("Proposal is not active. Current status: " ++ proposal.status.text))
  -- Check if voting period has ended
  let now ← perform .now
  Task.throwIf (proposal.endTime.past now) (.ofMessage "Voting period has ended")
  -- Check if user has already voted
  let existingVote ← perform (.findVote proposalId dto.walletAddress)
  Task.throwIf (existingVote.isSome) (.ofMessage "You have already voted on this proposal")
  -- Get user's voting power
  let votingPower ← perform (.getGovernanceTokenBalance dto.walletAddress)
  Task.throwIf (votingPower ≤ 0) (.ofMessage "You do not have any voting power")
  let savedVote ← perform (.saveVote {
    id := 0, proposalId, voterId := userId, voterAddress := dto.walletAddress,
    power := votingPower, support := dto.support, createdAt := .date now })
  -- Update proposal vote counts
  let proposal := proposal.withVote dto.support votingPower
  let _ ← perform (.saveProposal proposal)
  perform (.redisDel (.proposal proposalId))
  broadcast proposal .active 0 none
  return savedVote

def executeActions (proposalId : Nat) : Nat → List Action → Async Unit
  | _, [] => return ()
  | position, action :: actions => do
      perform (.executeGovernanceAction proposalId position action)
      executeActions proposalId (position + 1) actions

/-- `proposal.status = status` and what both ends of `executeProposal` do with it. -/
def recordOutcome (proposalId : Nat) (proposal : Proposal) (status : Status)
    (executionStatus : String) : Async Proposal := do
  let now ← perform .now
  let proposal := { proposal with status, executedAt := some (.date now) }
  let updatedProposal ← perform (.saveProposal proposal)
  -- Clear cache
  perform (.redisDel (.proposal proposalId))
  perform (.redisDel .proposals)
  broadcast proposal status 100 (some executionStatus)
  return updatedProposal

/-- The try block of `executeProposal`. -/
def carryOut (proposalId : Nat) (proposal : Proposal) : Async Proposal := do
  -- Parse actions
  match proposal.actions with
  | none => .fail (.ofMessage "Unexpected token in JSON")
  | some actions => do
      executeActions proposalId 0 actions
      recordOutcome proposalId proposal .executed "completed"

def executeProposal (proposalId : Nat) : Async Proposal := do
  let proposal ← getProposal proposalId
  Task.throwIf (proposal.status ≠ .passed)
    (.ofMessage ("Proposal is not passed. Current status: " ++ proposal.status.text))
  match proposal.endTime with
  | .iso _ => .fail (.ofMessage "proposal.endTime.getTime is not a function")
  | .date endTime => do
      -- Check if execution delay has passed
      let executionTime := endTime + config.executionDelay * 1000
      let now ← perform .now
      Task.throwIf (now < executionTime) (.ofMessage
        ("Execution delay has not passed. Execution allowed after: " ++ toISOString executionTime))
      (carryOut proposalId proposal).tryCatch fun error => do
        let _ ← recordOutcome proposalId proposal .rejected "failed"
        .fail error

def Proposal.totalVotes (proposal : Proposal) : Int :=
  proposal.yesVotes + proposal.noVotes + proposal.abstainVotes

def Proposal.decided (proposal : Proposal) : Proposal :=
  { proposal with
    status := if config.quorum ≤ proposal.totalVotes then
        if proposal.noVotes < proposal.yesVotes then .passed else .rejected
      else .rejected }

def decideProposals : List Proposal → Async Unit
  | [] => return ()
  | proposal :: rest => do
      let proposal := proposal.decided config
      let _ ← perform (.saveProposal proposal)
      -- Clear cache
      perform (.redisDel (.proposal proposal.id))
      broadcast proposal (if proposal.status = .passed then .passed
        else if proposal.status = .rejected then .rejected else .cancelled) 100 none
      decideProposals rest

def processEndedProposals : Async Unit := do
  let now ← perform .now
  let endedProposals ← perform (.findEnded now)
  decideProposals config endedProposals
  -- Clear proposals cache if any proposals were updated
  if 0 < endedProposals.length then
    perform (.redisDel .proposals)

def getVotes (proposalId : Nat) (support : Option Bool) : Async (List Vote) := do
  match ← getJson (.votes proposalId support) with
  | some cachedVotes => return cachedVotes
  | none =>
      let votes ← perform (.findVotes proposalId support)
      -- Cache for 1 minute
      setJson (.votes proposalId support) votes 60
      return votes

def cancelProposal (proposalId : Nat) : Async Proposal := do
  let proposal ← getProposal proposalId
  Task.throwIf (proposal.status ≠ .active ∧ proposal.status ≠ .pending)
    (.ofMessage ("Proposal cannot be cancelled. Current status: " ++ proposal.status.text))
  -- Update proposal status
  let proposal := { proposal with status := .cancelled }
  let updatedProposal ← perform (.saveProposal proposal)
  -- Clear cache
  perform (.redisDel (.proposal proposalId))
  perform (.redisDel .proposals)
  broadcast proposal .cancelled 0 none
  return updatedProposal

/-! ## Calls -/

inductive Call where
  | createProposal (userId : Nat) (dto : CreateProposalDto)
  | getProposals (active : Bool) (limit offset : Nat)
  | getProposal (id : Nat)
  | vote (userId proposalId : Nat) (dto : VoteDto)
  | executeProposal (proposalId : Nat)
  | processEndedProposals
  | getVotes (proposalId : Nat) (support : Option Bool)
  | cancelProposal (proposalId : Nat)
deriving DecidableEq

inductive Result where
  | proposal (proposal : Proposal)
  | proposals (proposals : List Proposal)
  | vote (vote : Vote)
  | votes (votes : List Vote)
  | nothing
deriving DecidableEq

def body : Call → Async Result
  | .createProposal userId dto => Result.proposal <$> createProposal config userId dto
  | .getProposals active limit offset => Result.proposals <$> getProposals active limit offset
  | .getProposal id => Result.proposal <$> getProposal id
  | .vote userId proposalId dto => Result.vote <$> vote userId proposalId dto
  | .executeProposal proposalId => Result.proposal <$> executeProposal config proposalId
  | .processEndedProposals => (fun _ => Result.nothing) <$> processEndedProposals config
  | .getVotes proposalId support => Result.votes <$> getVotes proposalId support
  | .cancelProposal proposalId => Result.proposal <$> cancelProposal proposalId

/-! ## The stores behind the service -/

structure ActionCall where
  proposalId : Nat
  position : Nat
  action : Action
  succeeded : Bool
deriving DecidableEq

/-- The tables, the cache, the chain and the clock. Redis holds the objects that were written; what
is read is their JSON. -/
structure Store where
  proposals : Nat → Option Proposal
  nextProposal : Nat
  votes : List Vote
  nextVote : Nat
  cache : (key : Key) → Option key.Value
  actions : List ActionCall
  balances : String → Int
  clock : Int

namespace Store

def proposalRows (store : Store) : List Proposal :=
  (List.range store.nextProposal).filterMap fun id => (store.proposals id).map (·.columns)

def latestFirst {α : Type} (createdAt : α → Timestamp) (rows : List α) : List α :=
  rows.mergeSort fun first second => (createdAt second).ms ≤ (createdAt first).ms

def votesOf (store : Store) (proposalId : Nat) : List Vote :=
  store.votes.filter fun vote => vote.proposalId = proposalId

def perform : (op : Op) → Store → Reply op × Store
  | .now, store => (store.clock, store)
  | .getGovernanceTokenBalance walletAddress, store => (store.balances walletAddress, store)
  | .executeGovernanceAction proposalId position action, store =>
      ((), { store with actions := store.actions ++ [⟨proposalId, position, action, true⟩] })
  | .redisGet key, store => (store.cache key, store)
  | .redisSet key value _, store =>
      ((), { store with cache := Function.update store.cache key (some value) })
  | .redisDel key, store => ((), { store with cache := Function.update store.cache key none })
  | .findProposal id, store =>
      ((store.proposals id).map fun proposal =>
        { proposal.columns with votes := some (store.votesOf id) }, store)
  | .findProposals active limit offset, store =>
      let found := ((latestFirst (·.createdAt) store.proposalRows).filter
        fun proposal => active → proposal.status = .active).drop offset
      -- `take: 0` sets no limit
      (if limit = 0 then found else found.take limit, store)
  | .findEnded now, store =>
      (store.proposalRows.filter fun proposal =>
        proposal.status = .active ∧ proposal.endTime.ms < now, store)
  | .findVote proposalId voterAddress, store =>
      ((store.votesOf proposalId).find? fun vote => vote.voterAddress = voterAddress, store)
  | .findVotes proposalId support, store =>
      (latestFirst (·.createdAt) ((store.votesOf proposalId).filter fun vote =>
        match support with
        | some true => vote.support = .yes
        | some false => vote.support = .no
        | none => true), store)
  | .insertProposal proposal, store =>
      let row := { proposal with id := store.nextProposal, createdAt := .date store.clock }
      (row, { store with
        proposals := Function.update store.proposals store.nextProposal (some row.columns)
        nextProposal := store.nextProposal + 1 })
  | .saveProposal proposal, store =>
      (proposal, { store with
        proposals := Function.update store.proposals proposal.id (some proposal.columns) })
  | .saveVote vote, store =>
      let row := { vote with id := store.nextVote, createdAt := .date store.clock }
      (row, { store with votes := store.votes ++ [row], nextVote := store.nextVote + 1 })
  | .broadcastProposalUpdate _, store => ((), store)

/-- What a failed operation leaves. The clock does not fail. -/
def failed : Op → Store → Option Store
  | .now, _ => none
  | .executeGovernanceAction proposalId position action, store =>
      some { store with actions := store.actions ++ [⟨proposalId, position, action, false⟩] }
  | _, store => some store

/-- Cached values expire, balances change and time passes. -/
structure Drift (before after : Store) : Prop where
  proposals : after.proposals = before.proposals
  nextProposal : after.nextProposal = before.nextProposal
  votes : after.votes = before.votes
  nextVote : after.nextVote = before.nextVote
  actions : after.actions = before.actions
  cache : ∀ key, after.cache key = before.cache key ∨ after.cache key = none

end Store

def service : Service Call Op Reply JsError Result Store where
  body := body config
  perform := Store.perform
  failed := Store.failed
  drift := Store.Drift

end Kanaka.Backend.GovernanceService
