import Kanaka.Contracts.Interface

/-! # `governance.cairo` -/

namespace Kanaka.Contracts.Governance
open Machine Machine.Code

inductive Event where
  | proposalCreated (id : U256) (proposer : ContractAddress) (description : Felt252)
      (startTime endTime : U64)
  | voteCast (voter : ContractAddress) (proposalId : U256) (support : Bool) (votes : U256)
  | proposalExecuted (id : U256)
  | proposalCanceled (id : U256)
deriving DecidableEq

structure State where
  proposals : LegacyMap U256 Proposal
  votes : LegacyMap (U256 × ContractAddress) Vote
  proposalCount : U256
  token : ContractAddress
  rewardDistributor : ContractAddress
  quorum : U256
  votingPeriod : U64
  events : List Event

def constructor (tokenAddress rewardDistributorAddress : ContractAddress) (initialQuorum : U256)
    (initialVotingPeriod : U64) : State where
  proposals := fun _ => .zero
  votes := fun _ => .zero
  proposalCount := 0
  token := tokenAddress
  rewardDistributor := rewardDistributorAddress
  quorum := initialQuorum
  votingPeriod := initialVotingPeriod
  events := []

namespace State
variable (s : State)

@[simps -fullyApplied] def writeProposals (key : U256) (value : Proposal) : State :=
  { s with proposals := Function.update s.proposals key value }

@[simps -fullyApplied] def writeVotes (key : U256 × ContractAddress) (value : Vote) : State :=
  { s with votes := Function.update s.votes key value }

@[simps -fullyApplied] def writeProposalCount (value : U256) : State :=
  { s with proposalCount := value }

@[simps -fullyApplied] def emit (event : Event) : State :=
  { s with events := s.events ++ [event] }

end State

section
variable {σ : Type} [Has State σ] [Has Block σ] (self caller : ContractAddress)

def writeProposal (proposalId : U256) (proposal : Proposal) : Entry σ Unit :=
  update (State.writeProposals · proposalId proposal)

def tokenBalance (account : ContractAddress) : Entry σ U256 := do
  let token := (← load State).token
  let reply ← send ⟨self, token, .erc20 (.balanceOf account)⟩
  reply.expectU256

def distributeReward (user : ContractAddress) (amount : U256) : Entry σ Unit := do
  let rewardDistributor := (← load State).rewardDistributor
  let _ ← send ⟨self, rewardDistributor, .rewardDistributor (.distributeReward user amount)⟩

def propose (description : Felt252) : Entry σ U256 := do
  let proposerBalance ← tokenBalance self caller
  require (0 < proposerBalance) "INSUFFICIENT_BALANCE"
  let proposalId := (← load State).proposalCount
  let startTime ← getBlockTimestamp
  let votingPeriod := (← load State).votingPeriod
  let endTime ← U64.add startTime votingPeriod
  let proposal : Proposal :=
    { id := proposalId, proposer := caller, description, startTime, endTime, forVotes := 0,
      againstVotes := 0, executed := false, canceled := false }
  writeProposal proposalId proposal
  let nextCount ← U256.add proposalId 1
  update (State.writeProposalCount · nextCount)
  -- Distribute rewards for proposal creation
  distributeReward self caller 100000
  update (State.emit · (.proposalCreated proposalId caller description startTime endTime))
  return proposalId

def countVote (proposal : Proposal) (support : Bool) (power : U256) : Entry σ Proposal :=
  if support then do
    let forVotes ← U256.add proposal.forVotes power
    return { proposal with forVotes }
  else do
    let againstVotes ← U256.add proposal.againstVotes power
    return { proposal with againstVotes }

def castVote (proposalId : U256) (support : Bool) : Entry σ Unit := do
  let proposal := (← load State).proposals proposalId
  require (!proposal.executed && !proposal.canceled) "INVALID_PROPOSAL_STATE"
  let timestamp ← getBlockTimestamp
  require (proposal.startTime ≤ timestamp ∧ timestamp ≤ proposal.endTime) "INVALID_VOTING_TIME"
  let voterBalance ← tokenBalance self caller
  require (0 < voterBalance) "NO_VOTING_POWER"
  -- Check if already voted
  let previousVote := (← load State).votes (proposalId, caller)
  require (previousVote.votes = 0) "ALREADY_VOTED"
  let vote : Vote := ⟨support, voterBalance⟩
  update (State.writeVotes · (proposalId, caller) vote)
  -- Update proposal votes
  let proposal := (← load State).proposals proposalId
  let proposal ← countVote proposal support voterBalance
  writeProposal proposalId proposal
  -- Distribute rewards for voting
  distributeReward self caller 10000
  update (State.emit · (.voteCast caller proposalId support voterBalance))

def executeProposal (proposalId : U256) : Entry σ Unit := do
  let proposal := (← load State).proposals proposalId
  require (!proposal.executed && !proposal.canceled) "INVALID_PROPOSAL_STATE"
  let timestamp ← getBlockTimestamp
  require (proposal.endTime < timestamp) "VOTING_NOT_ENDED"
  let totalVotes ← U256.add proposal.forVotes proposal.againstVotes
  let quorum := (← load State).quorum
  require (quorum ≤ totalVotes) "QUORUM_NOT_REACHED"
  require (proposal.againstVotes < proposal.forVotes) "PROPOSAL_DEFEATED"
  writeProposal proposalId { proposal with executed := true }
  update (State.emit · (.proposalExecuted proposalId))

def cancelProposal (proposalId : U256) : Entry σ Unit := do
  let proposal := (← load State).proposals proposalId
  require (caller = proposal.proposer) "UNAUTHORIZED"
  require (!proposal.executed && !proposal.canceled) "INVALID_PROPOSAL_STATE"
  let timestamp ← getBlockTimestamp
  require (timestamp ≤ proposal.endTime) "VOTING_ENDED"
  writeProposal proposalId { proposal with canceled := true }
  update (State.emit · (.proposalCanceled proposalId))

def entry : Message → Entry σ Reply
  | .governance (.propose description) => do
      let proposalId ← propose self caller description
      return .u256 proposalId
  | .governance (.castVote proposalId support) => do
      castVote self caller proposalId support
      return .unit
  | .governance (.executeProposal proposalId) => do
      executeProposal proposalId
      return .unit
  | .governance (.cancelProposal proposalId) => do
      cancelProposal caller proposalId
      return .unit
  | .governance (.getProposal proposalId) => do
      return .proposal ((← load State).proposals proposalId)
  | .governance (.getVote proposalId voter) => do
      return .vote ((← load State).votes (proposalId, voter))
  | .governance .getQuorum => do
      return .u256 (← load State).quorum
  | .governance .getVotingPeriod => do
      return .u64 (← load State).votingPeriod
  | _ => revert "ENTRYPOINT_NOT_FOUND"

variable {S : System σ Call Reply} {I : Snapshot σ Call Reply → Prop}
  {R : σ → σ → Prop} {Q : Snapshot σ Call Reply → Prop}
  {state : σ} {history : List (Crossing σ Call Reply)}

def tally (proposal : Proposal) (support : Bool) : U256 :=
  if support then proposal.forVotes else proposal.againstVotes

section Calls
variable {α : Type} {Q : α → Snapshot σ Call Reply → Prop}

omit [Has Block σ] in
theorem safe_tokenBalance {account : ContractAddress} {Q : U256 → Snapshot σ Call Reply → Prop}
    (ask : Safe S I R (fun reply now => ∀ balance, reply = .u256 balance → Q balance now)
      ((send ⟨self, (Has.get state : State).token, .erc20 (.balanceOf account)⟩ :
        Entry σ Reply).run state) history) :
    Safe S I R Q ((tokenBalance self account).run state) history := by
  apply Safe.load
  apply Safe.bind
  apply ask.weaken
  intro reply now answered
  cases reply with
  | u256 balance => exact .done (answered balance rfl)
  | _ => exact .panic

omit [Has State σ] [Has Block σ] in
theorem safe_countVote {proposal : Proposal} {support : Bool} {power : U256}
    {next : Proposal → Entry σ α}
    (rest : ∀ counted : Proposal,
      counted = { proposal with
        forVotes := counted.forVotes, againstVotes := counted.againstVotes } →
      (tally counted support).toNat = (tally proposal support).toNat + power.toNat →
      tally counted (!support) = tally proposal (!support) →
      Safe S I R Q ((next counted).run state) history) :
    Safe S I R Q ((countVote proposal support power >>= next).run state) history := by
  apply Safe.bind
  cases support with
  | true => exact safe_u256_add fun votes sum => .done (rest _ rfl sum rfl)
  | false => exact safe_u256_add fun votes sum => .done (rest _ rfl sum rfl)

end Calls

omit [Has Block σ] in
theorem safe_distributeReward {user : ContractAddress} {amount : U256}
    (reward : Safe S I R (fun _ => Q)
      ((send ⟨self, (Has.get state : State).rewardDistributor,
        .rewardDistributor (.distributeReward user amount)⟩ : Entry σ Reply).run state) history) :
    Safe S I R (fun _ => Q) ((distributeReward self user amount).run state) history := by
  apply Safe.load
  apply Safe.bind
  apply reward.weaken
  intro _ now post
  exact .done post

theorem safe_propose {Q : U256 → Snapshot σ Call Reply → Prop} (description : Felt252)
    (ask : Safe S I R
      (fun balance asked => 0 < balance → ∀ (endTime : U64) (nextCount : U256),
        endTime.toNat = (Has.get asked.state : Block).timestamp.toNat +
          (Has.get asked.state : State).votingPeriod.toNat →
        nextCount.toNat = (Has.get asked.state : State).proposalCount.toNat + (1 : U256).toNat →
        Safe S I R
          (fun _ rewarded => Q (Has.get asked.state : State).proposalCount
            ⟨Has.set ((Has.get rewarded.state : State).emit
              (.proposalCreated (Has.get asked.state : State).proposalCount caller description
                (Has.get asked.state : Block).timestamp endTime)) rewarded.state,
              rewarded.history⟩)
          ((distributeReward self caller 100000).run
            (Has.set (((Has.get asked.state : State).writeProposals
              (Has.get asked.state : State).proposalCount
              ⟨(Has.get asked.state : State).proposalCount, caller, description,
                (Has.get asked.state : Block).timestamp, endTime, 0, 0, false,
                false⟩).writeProposalCount nextCount) asked.state)) asked.history)
      ((tokenBalance self caller).run state) history) :
    Safe S I R Q ((propose self caller description).run state) history := by
  apply Safe.bind
  apply ask.weaken
  intro balance asked reward
  apply Safe.require
  intro positive
  apply Safe.load
  apply safe_getBlockTimestamp
  apply Safe.load
  apply safe_u64_add
  intro endTime period
  apply Safe.update
  apply safe_u256_add
  intro nextCount next
  apply Safe.update
  rw [Has.get_set, Has.set_set]
  apply Safe.bind
  apply (reward positive endTime nextCount period next).weaken
  intro _ rewarded post
  exact .done post

theorem safe_castVote (proposalId : U256) (support : Bool)
    (ask : ((Has.get state : State).proposals proposalId).executed = false →
      ((Has.get state : State).proposals proposalId).canceled = false →
      ((Has.get state : State).proposals proposalId).startTime ≤
        (Has.get state : Block).timestamp →
      (Has.get state : Block).timestamp ≤
        ((Has.get state : State).proposals proposalId).endTime →
      Safe S I R
        (fun power asked => 0 < power →
          ((Has.get asked.state : State).votes (proposalId, caller)).votes = 0 →
          ∀ counted : Proposal,
            counted = { (Has.get asked.state : State).proposals proposalId with
              forVotes := counted.forVotes, againstVotes := counted.againstVotes } →
            (tally counted support).toNat =
              (tally ((Has.get asked.state : State).proposals proposalId) support).toNat +
                power.toNat →
            tally counted (!support) =
              tally ((Has.get asked.state : State).proposals proposalId) (!support) →
            Safe S I R
              (fun _ rewarded => Q ⟨Has.set ((Has.get rewarded.state : State).emit
                (.voteCast caller proposalId support power)) rewarded.state, rewarded.history⟩)
              ((distributeReward self caller 10000).run
                (Has.set (((Has.get asked.state : State).writeVotes (proposalId, caller)
                  ⟨support, power⟩).writeProposals proposalId counted) asked.state))
              asked.history)
        ((tokenBalance self caller).run state) history) :
    Safe S I R (fun _ => Q) ((castVote self caller proposalId support).run state) history := by
  apply Safe.load
  apply Safe.require
  intro undecided
  rw [Bool.and_eq_true, Bool.not_eq_true', Bool.not_eq_true'] at undecided
  apply safe_getBlockTimestamp
  apply Safe.require
  intro window
  apply Safe.bind
  apply (ask undecided.1 undecided.2 window.1 window.2).weaken
  intro power asked reward
  apply Safe.require
  intro positive
  apply Safe.load
  apply Safe.require
  intro fresh
  apply Safe.update
  apply Safe.load
  rw [Has.get_set, State.writeVotes_proposals]
  apply safe_countVote
  intro counted counted_eq raised others
  apply Safe.update
  rw [Has.get_set, Has.set_set]
  apply Safe.bind
  apply (reward positive fresh counted counted_eq raised others).weaken
  intro _ rewarded post
  exact .done post

theorem safe_executeProposal (proposalId : U256)
    (execute : ((Has.get state : State).proposals proposalId).executed = false →
      ((Has.get state : State).proposals proposalId).canceled = false →
      ((Has.get state : State).proposals proposalId).endTime < (Has.get state : Block).timestamp →
      (Has.get state : State).quorum.toNat ≤
        ((Has.get state : State).proposals proposalId).forVotes.toNat +
          ((Has.get state : State).proposals proposalId).againstVotes.toNat →
      ((Has.get state : State).proposals proposalId).againstVotes <
        ((Has.get state : State).proposals proposalId).forVotes →
      Q ⟨Has.set (((Has.get state : State).writeProposals proposalId
          { (Has.get state : State).proposals proposalId with executed := true }).emit
          (.proposalExecuted proposalId)) state, history⟩) :
    Safe S I R (fun _ => Q) ((executeProposal proposalId).run state) history := by
  apply Safe.load
  apply Safe.require
  intro undecided
  rw [Bool.and_eq_true, Bool.not_eq_true', Bool.not_eq_true'] at undecided
  apply safe_getBlockTimestamp
  apply Safe.require
  intro ended
  apply safe_u256_add
  intro totalVotes total
  apply Safe.load
  apply Safe.require
  intro enough
  apply Safe.require
  intro majority
  apply Safe.update
  have post := execute undecided.1 undecided.2 ended (total ▸ enough) majority
  apply Safe.done
  rw [Has.get_set, Has.set_set]
  exact post

theorem safe_cancelProposal (proposalId : U256)
    (cancel : caller = ((Has.get state : State).proposals proposalId).proposer →
      ((Has.get state : State).proposals proposalId).executed = false →
      ((Has.get state : State).proposals proposalId).canceled = false →
      (Has.get state : Block).timestamp ≤
        ((Has.get state : State).proposals proposalId).endTime →
      Q ⟨Has.set (((Has.get state : State).writeProposals proposalId
          { (Has.get state : State).proposals proposalId with canceled := true }).emit
          (.proposalCanceled proposalId)) state, history⟩) :
    Safe S I R (fun _ => Q) ((cancelProposal caller proposalId).run state) history := by
  apply Safe.load
  apply Safe.require
  intro authorized
  apply Safe.require
  intro undecided
  rw [Bool.and_eq_true, Bool.not_eq_true', Bool.not_eq_true'] at undecided
  apply safe_getBlockTimestamp
  apply Safe.require
  intro stillOpen
  apply Safe.update
  have post := cancel authorized undecided.1 undecided.2 stillOpen
  apply Safe.done
  rw [Has.get_set, Has.set_set]
  exact post

theorem safe_entry (message : Message) (views : Q ⟨state, history⟩)
    (proposals : ∀ description, message = .governance (.propose description) →
      Safe S I R (fun _ => Q) ((propose self caller description).run state) history)
    (votes : ∀ proposalId support, message = .governance (.castVote proposalId support) →
      Safe S I R (fun _ => Q) ((castVote self caller proposalId support).run state) history)
    (executions : ∀ proposalId, message = .governance (.executeProposal proposalId) →
      Safe S I R (fun _ => Q) ((executeProposal proposalId).run state) history)
    (cancellations : ∀ proposalId, message = .governance (.cancelProposal proposalId) →
      Safe S I R (fun _ => Q) ((cancelProposal caller proposalId).run state) history) :
    Safe S I R (fun _ => Q) ((entry self caller message).run state) history := by
  unfold entry
  split
  · exact Safe.bind ((proposals _ rfl).weaken fun _ _ post => .done post)
  · exact Safe.bind ((votes _ _ rfl).weaken fun _ _ post => .done post)
  · exact Safe.bind ((executions _ rfl).weaken fun _ _ post => .done post)
  · exact Safe.bind ((cancellations _ rfl).weaken fun _ _ post => .done post)
  · exact .done views
  · exact .done views
  · exact .done views
  · exact .done views
  · exact .panic

theorem entry_foreign {message : Message} (foreign : ∀ m, message ≠ .governance m) :
    (entry self caller message).run state = .panic "ENTRYPOINT_NOT_FOUND" := by
  unfold entry
  split
  all_goals first | exact absurd rfl (foreign _) | rfl

end

end Kanaka.Contracts.Governance
