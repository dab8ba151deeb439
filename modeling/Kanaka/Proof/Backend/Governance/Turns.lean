import Kanaka.Proof.Backend.Governance.Calls

/-! # What one operation does to the store and to what its call knows -/

namespace Kanaka.Backend.GovernanceService
open Kanaka.Async

variable (config : Config)

structure Quiet (before after : Store) : Prop where
  proposals : after.proposals = before.proposals
  nextProposal : after.nextProposal = before.nextProposal
  votes : after.votes = before.votes
  nextVote : after.nextVote = before.nextVote
  actions : after.actions = before.actions
  cache : ∀ id proposal, after.cache (.proposal id) = some proposal →
    before.cache (.proposal id) = some proposal

theorem Quiet.refl (store : Store) : Quiet store store :=
  ⟨rfl, rfl, rfl, rfl, rfl, fun _ _ cached => cached⟩

theorem Store.Drift.quiet {before after : Store} (drift : Store.Drift before after) :
    Quiet before after := by
  refine ⟨drift.proposals, drift.nextProposal, drift.votes, drift.nextVote, drift.actions, ?_⟩
  intro id proposal cached
  rcases drift.cache (.proposal id) with same | gone
  · exact same ▸ cached
  · rw [gone] at cached
    contradiction

def Store.loaded (store : Store) (id : Nat) (row : Proposal) : Proposal :=
  { row.columns with votes := some (store.votesOf id) }

inductive Turn (call : Call) (notes : Notes) (store : Store) :
    Event Op Reply JsError → Notes → Store → Prop where
  | quiet {event after} : Quiet store after → Turn call notes store event notes after
  | fetch {id proposal} : call.target = some id → store.cache (.proposal id) = some proposal →
      Turn call notes store ⟨.redisGet (.proposal id), .ok (some proposal)⟩
        { notes with copies := [proposal.json] } store
  | remember {id proposal seconds} : call.target = some id → notes.copies = [proposal] →
      Turn call notes store ⟨.redisSet (.proposal id) proposal seconds, .ok ()⟩ notes
        { store with cache := Function.update store.cache (.proposal id) (some proposal) }
  | load {id row} : call.target = some id → store.proposals id = some row →
      Turn call notes store ⟨.findProposal id, .ok (some (store.loaded id row))⟩
        { notes with copies := [store.loaded id row], loaded := true } store
  | ended {now proposals} : call = .processEndedProposals →
      (∀ proposal ∈ proposals, ∃ id row, store.proposals id = some row ∧
        proposal = row.columns ∧ row.status = .active) →
      Turn call notes store ⟨.findEnded now, .ok proposals⟩ { notes with copies := proposals } store
  | unvoted {userId proposalId dto} : call = .vote userId proposalId dto →
      notes.inserted = none → notes.tried = false →
      (∀ vote ∈ store.votes, vote.proposalId = proposalId → vote.voterAddress ≠ dto.walletAddress) →
      Turn call notes store ⟨.findVote proposalId dto.walletAddress, .ok none⟩
        { notes with unvoted := true } store
  | insertVote {vote userId dto copy} : call = .vote userId vote.proposalId dto →
      dto.walletAddress = vote.voterAddress → notes.unvoted = true → notes.inserted = none →
      notes.tried = false → notes.copies = [copy] →
      Turn call notes store
        ⟨.saveVote vote,
          .ok { vote with id := store.nextVote, createdAt := .date store.clock }⟩
        { notes with inserted := some { vote with id := store.nextVote }, unvoted := false }
        { store with
          votes := store.votes ++
            [{ vote with id := store.nextVote, createdAt := .date store.clock }]
          nextVote := store.nextVote + 1 }
  | insertProposal {proposal reply row} : proposal.status = .active → proposal.yesVotes = 0 →
      proposal.noVotes = 0 → proposal.abstainVotes = 0 →
      row = ({ proposal with id := store.nextProposal, createdAt := .date store.clock } :
        Proposal).columns →
      Turn call notes store ⟨.insertProposal proposal, .ok reply⟩ notes
        { store with
          proposals := Function.update store.proposals store.nextProposal (some row)
          nextProposal := store.nextProposal + 1 }
  | save {proposal copy} : copy ∈ notes.copies → copy.id = proposal.id →
      Written config notes copy proposal call →
      Turn call notes store ⟨.saveProposal proposal, .ok proposal⟩
        { notes with inserted := none, tried := true, saved := true }
        { store with
          proposals := Function.update store.proposals proposal.id (some proposal.columns) }
  | saveFailed {proposal copy error} : copy ∈ notes.copies → copy.id = proposal.id →
      Written config notes copy proposal call →
      Turn call notes store ⟨.saveProposal proposal, .error error⟩
        { notes with tried := true, gaveUp := notes.gaveUp || proposal.status = .rejected } store
  | pass {proposalId action copy answer succeeded} : call = .executeProposal proposalId →
      notes.tried = false → notes.loaded = true → notes.copies = [copy] → copy.status = .passed →
      Turn call notes store ⟨.executeGovernanceAction proposalId notes.passedOn action, answer⟩
        { notes with passedOn := notes.passedOn + 1 }
        { store with
          actions := store.actions ++ [⟨proposalId, notes.passedOn, action, succeeded⟩] }

theorem Quiet.cacheOf {store : Store} {key : Key} {value : Option key.Value}
    (other : ∀ id, key = .proposal id → value = none) :
    Quiet store { store with cache := Function.update store.cache key value } := by
  refine ⟨rfl, rfl, rfl, rfl, rfl, ?_⟩
  intro id proposal cached
  by_cases same : Key.proposal id = key
  · subst same
    rw [other id rfl] at cached
    simp at cached
  · simpa only [Function.update_of_ne same] using cached

theorem turn_of_failed {call : Call} {notes : Notes} {store after : Store} {op : Op}
    {error : JsError} (asks : Asks config call notes op) (failed : Store.failed op store = some after) :
    Turn config call notes store ⟨op, .error error⟩ (notes.note ⟨op, .error error⟩) after := by
  cases op with
  | now => contradiction
  | executeGovernanceAction proposalId position action =>
      obtain ⟨execute, at_, untried, loaded, copy, copies, passed⟩ := asks
      cases failed
      subst at_
      exact .pass execute untried loaded copies passed
  | saveProposal proposal =>
      obtain ⟨copy, read, same, written⟩ := asks
      cases failed
      exact .saveFailed read same written
  | redisGet key =>
      cases failed
      cases key <;> exact .quiet (.refl store)
  | _ =>
      cases failed
      exact .quiet (.refl store)

theorem turn_of_serves {call : Call} {notes : Notes} {store after : Store} {op : Op}
    {answer : Except JsError (Reply op)} (asks : Asks config call notes op)
    (serves : (service config).Serves op store answer after) :
    Turn config call notes store ⟨op, answer⟩ (notes.note ⟨op, answer⟩) after := by
  cases serves with
  | error failed => exact turn_of_failed config asks failed
  | ok =>
      cases op with
      | executeGovernanceAction proposalId position action =>
          obtain ⟨execute, at_, untried, loaded, copy, copies, passed⟩ := asks
          subst at_
          exact .pass execute untried loaded copies passed
      | saveProposal proposal =>
          obtain ⟨copy, read, same, written⟩ := asks
          exact .save read same written
      | insertProposal proposal =>
          obtain ⟨-, active, yes, no, abstain⟩ := asks
          exact .insertProposal active yes no abstain rfl
      | saveVote vote =>
          obtain ⟨userId, dto, voting, wallet, unvoted, idle, untried, copy, copies⟩ := asks
          exact .insertVote voting wallet unvoted idle untried copies
      | redisGet key =>
          cases key with
          | proposal id =>
              show Turn config call notes store
                ⟨.redisGet (.proposal id), .ok (store.cache (.proposal id))⟩
                (notes.note ⟨.redisGet (.proposal id), .ok (store.cache (.proposal id))⟩) store
              cases cached : store.cache (.proposal id) with
              | none => exact .quiet (.refl store)
              | some proposal => exact .fetch asks cached
          | _ => exact .quiet (.refl store)
      | redisSet key value seconds =>
          cases key with
          | proposal id => exact .remember asks.1 asks.2
          | _ => exact .quiet (.cacheOf nofun)
      | redisDel key => exact .quiet (.cacheOf fun _ _ => rfl)
      | findProposal id =>
          show Turn config call notes store
            ⟨.findProposal id, .ok ((store.proposals id).map (store.loaded id))⟩
            (notes.note ⟨.findProposal id, .ok ((store.proposals id).map (store.loaded id))⟩) store
          cases found : store.proposals id with
          | none => exact .quiet (.refl store)
          | some row => exact .load asks found
      | findEnded now =>
          apply Turn.ended asks
          intro proposal member
          obtain ⟨listed, ended⟩ := List.mem_filter.mp member
          obtain ⟨id, -, found⟩ := List.mem_filterMap.mp listed
          obtain ⟨row, stored, rfl⟩ := Option.map_eq_some_iff.mp found
          exact ⟨id, row, stored, rfl, (of_decide_eq_true ended).1⟩
      | findVote proposalId voterAddress =>
          obtain ⟨userId, dto, voting, wallet, idle, untried⟩ := asks
          subst wallet
          have reply : ((service config).perform (.findVote proposalId dto.walletAddress) store).1 =
            (store.votesOf proposalId).find? fun vote => vote.voterAddress = dto.walletAddress := rfl
          rw [reply]
          cases found : (store.votesOf proposalId).find? fun vote =>
            vote.voterAddress = dto.walletAddress with
          | some vote => exact .quiet (.refl store)
          | none =>
              apply Turn.unvoted voting idle untried
              intro vote member proposal wallet
              have stored : vote ∈ store.votesOf proposalId :=
                List.mem_filter.mpr ⟨member, decide_eq_true proposal⟩
              exact List.find?_eq_none.mp found vote stored (decide_eq_true wallet)
      | _ => exact .quiet (.refl store)

/-! ## Runs -/

abbrev Calls := Pool Call Op Reply JsError Result Store

abbrev Stage := Running Call Op Reply JsError Result

def notesOf (stage : Stage) : Notes := stage.history.foldl Notes.note .begun

theorem ended_of_finished {config : Config} {stage : Stage} (keeps : (discipline config).Keeps stage)
    (finished : stage.rest.Finished) : Ended (notesOf stage) := by
  obtain ⟨call, history, rest⟩ := stage
  cases keeps with
  | done ended => exact ended
  | fail ended => exact ended
  | await _ _ => exact finished.elim

section Invariants
variable {config : Config} {allowed : Calls → Async.Action Call Op Reply JsError Store → Prop}
  {first pool : Calls} (reaches : (service config).Reaches allowed first pool)
  (kept : ∀ stage ∈ first.tasks, (discipline config).Keeps stage)
include reaches kept

theorem invariant_keeps {I : Calls → Prop} (initially : I first)
    (started : ∀ pool call, I pool → allowed pool (.start call) →
      I ⟨pool.state, pool.tasks ++ [⟨call, [], body config call⟩]⟩)
    (turned : ∀ pool task stage next event after, I pool → pool.tasks[task]? = some stage →
      next.call = stage.call → ¬ stage.rest.Finished → allowed pool (.serve task event) →
      (discipline config).Keeps next →
      Turn config stage.call (notesOf stage) pool.state event (notesOf next) after →
      I ⟨after, pool.tasks.set task next⟩)
    (drifted : ∀ pool after, I pool → Quiet pool.state after → I ⟨after, pool.tasks⟩) :
    I pool ∧ ∀ stage ∈ pool.tasks, (discipline config).Keeps stage := by
  apply reaches.invariant (discipline config) kept initially
  · exact started
  · intro pool task call history op resume answer after holds found keeps permitted serves
    have turn := turn_of_serves config keeps.asks serves
    refine turned pool task _ ⟨call, history ++ [⟨op, answer⟩], resume answer⟩ ⟨op, answer⟩ after
      holds found rfl (fun finished => finished) permitted (keeps.serve answer) ?_
    rw [show notesOf ⟨call, history ++ [⟨op, answer⟩], resume answer⟩ = _ from
      (discipline config).notes_serve call history ⟨op, answer⟩ (resume answer) (.await op resume)]
    exact turn
  · intro pool after holds _ drift
    exact drifted pool after holds drift.quiet

theorem keeps_of_reaches : ∀ stage ∈ pool.tasks, (discipline config).Keeps stage :=
  (invariant_keeps reaches kept (I := fun _ => True) trivial (fun _ _ _ _ => trivial)
    (fun _ _ _ _ _ _ _ _ _ _ _ _ _ => trivial) (fun _ _ _ _ => trivial)).2

theorem invariant {I : Calls → Prop} (initially : I first)
    (started : ∀ pool call, I pool → allowed pool (.start call) →
      I ⟨pool.state, pool.tasks ++ [⟨call, [], body config call⟩]⟩)
    (turned : ∀ pool task stage next event after, I pool → pool.tasks[task]? = some stage →
      next.call = stage.call → ¬ stage.rest.Finished → allowed pool (.serve task event) →
      (discipline config).Keeps next →
      Turn config stage.call (notesOf stage) pool.state event (notesOf next) after →
      I ⟨after, pool.tasks.set task next⟩)
    (drifted : ∀ pool after, I pool → Quiet pool.state after → I ⟨after, pool.tasks⟩) : I pool :=
  (invariant_keeps reaches kept initially started turned drifted).1

end Invariants

/-! ## Schedules from a small store -/

def openProposal : Proposal where
  id := 1
  title := "Increase ETH Staking Allocation"
  description := "Increase the allocation to ETH staking strategies by 10%"
  creatorId := 1
  creatorAddress := "0xc"
  actions := some [⟨"0x1", "0", "updateAllocation(uint256,uint256)", "0x1,0xa"⟩,
    ⟨"0x2", "0", "updateAllocation(uint256,uint256)", "0x2,0xb"⟩]
  startTime := .date 0
  endTime := .date 1000
  yesVotes := 0
  noVotes := 0
  abstainVotes := 0
  status := .active
  executedAt := none
  votes := none
  createdAt := .date 0

/-- A proposal that passed and whose execution delay is over at 10⁸. -/
def passedProposal : Proposal := { openProposal with status := .passed, yesVotes := 200 }

def storeOf (proposal : Proposal) (clock : Int) : Store where
  proposals := fun id => if id = 1 then some proposal else none
  nextProposal := 2
  votes := []
  nextVote := 1
  cache := fun _ => none
  actions := []
  balances := fun _ => 100
  clock

def defaultConfig : Config := ⟨100, 259200, 86400, 150⟩

def steps (task count : Nat) : List (Move Call JsError) :=
  List.replicate count (.serve task none)

end Kanaka.Backend.GovernanceService
