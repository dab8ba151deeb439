import Kanaka.Proof.Governance.World

namespace Kanaka.Proof.Governance
open Machine Contracts Contracts.Governance

/-- `Governance` at `self` in blocks with any positive timestamps; token and distributor are in the
environment. -/
abbrev governanceAlone (self : ContractAddress) : System World Call Reply :=
  alone self (entry self) fun w w' =>
    w'.governance = w.governance ∧ 0 < w'.block.timestamp.toNat

def weight (support : Bool) (vote : Vote) : Nat :=
  if vote.support = support then vote.votes.toNat else 0

structure Tallied (w : World) : Prop extends Numbered w.governance w.block where
  tally : ∀ id support, (tally (w.governance.proposals id) support).toNat =
    ∑ voter, weight support (w.governance.votes (id, voter))
  unvoted : ∀ id, w.governance.proposalCount.toNat ≤ id.toNat →
    ∀ voter, (w.governance.votes (id, voter)).votes = 0

structure Grows (before after : World) : Prop where
  votes : ∀ id voter, (before.governance.votes (id, voter)).votes ≠ 0 →
    after.governance.votes (id, voter) = before.governance.votes (id, voter)
  count : before.governance.proposalCount.toNat ≤ after.governance.proposalCount.toNat

theorem Grows.refl (w : World) : Grows w w := ⟨fun _ _ _ => rfl, le_rfl⟩

theorem Grows.trans {a b c : World} (first : Grows a b) (second : Grows b c) : Grows a c := by
  refine ⟨?_, first.count.trans second.count⟩
  intro id voter voted
  have kept := first.votes id voter voted
  rw [second.votes id voter (kept ▸ voted), kept]

instance : IsPreorder World Grows where
  refl := Grows.refl
  trans _ _ _ := Grows.trans

theorem weight_of_votes_eq_zero {vote : Vote} (h : vote.votes = 0) (support : Bool) :
    weight support vote = 0 := by
  simp [weight, h]

theorem weight_self (support : Bool) (power : U256) :
    weight support ⟨support, power⟩ = power.toNat := by
  simp [weight]

theorem weight_other {support side : Bool} (ne : side ≠ support) (power : U256) :
    weight side ⟨support, power⟩ = 0 := by
  simp [weight, ne.symm]

theorem Tallied.vote {w : World} (tallied : Tallied w) {id : U256} {caller : ContractAddress}
    {support : Bool} {power : U256} {counted : Proposal}
    (born : id.toNat < w.governance.proposalCount.toNat)
    (fresh : (w.governance.votes (id, caller)).votes = 0)
    (raised : (Governance.tally counted support).toNat =
      (Governance.tally (w.governance.proposals id) support).toNat + power.toNat)
    (others : Governance.tally counted (!support) =
      Governance.tally (w.governance.proposals id) (!support)) :
    Tallied ⟨(w.governance.writeVotes (id, caller) ⟨support, power⟩).writeProposals id counted,
      w.block⟩ := by
  have numbered : Numbered (w.governance.writeVotes (id, caller) ⟨support, power⟩) w.block :=
    tallied.toNumbered.congr tallied.clock rfl rfl
  refine ⟨numbered.writeProposals born counted, ?_, ?_⟩
  · intro other side
    simp only [State.writeProposals_proposals, State.writeProposals_votes,
      State.writeVotes_proposals, State.writeVotes_votes]
    have before := tallied.tally other side
    by_cases same : other = id
    · subst same
      have sum := sum_write_slice (Prod.mk_right_injective other) w.governance.votes (weight side)
        caller ⟨support, power⟩
      rw [weight_of_votes_eq_zero fresh] at sum
      rw [Function.update_self]
      by_cases side_eq : side = support
      · subst side_eq
        rw [weight_self] at sum
        omega
      · have flipped : side = !support := by cases side <;> cases support <;> simp_all
        rw [weight_other side_eq] at sum
        rw [flipped] at before sum ⊢
        rw [others]
        omega
    · rw [Function.update_of_ne same, before, sum_write_outside]
      simp [same]
  · intro other unborn voter
    simp only [State.writeProposals_proposalCount, State.writeVotes_proposalCount] at unborn
    have ne : other ≠ id := by
      rintro rfl
      omega
    simpa [ne] using tallied.unvoted other unborn voter

theorem Tallied.propose {w : World} (tallied : Tallied w) {proposal : Proposal} {nextCount : U256}
    (forVotes : proposal.forVotes = 0) (againstVotes : proposal.againstVotes = 0)
    (next : nextCount.toNat = w.governance.proposalCount.toNat + (1 : U256).toNat) :
    Tallied ⟨(w.governance.writeProposals w.governance.proposalCount proposal).writeProposalCount
      nextCount, w.block⟩ := by
  refine ⟨tallied.toNumbered.propose proposal next, ?_, ?_⟩
  · intro other side
    simp only [State.writeProposalCount_proposals, State.writeProposalCount_votes,
      State.writeProposals_proposals, State.writeProposals_votes]
    by_cases same : other = w.governance.proposalCount
    · subst same
      have empty : ∀ voter, weight side (w.governance.votes (w.governance.proposalCount, voter)) = 0 :=
        fun voter => weight_of_votes_eq_zero (tallied.unvoted _ le_rfl voter) side
      rw [Function.update_self, Finset.sum_eq_zero fun voter _ => empty voter]
      simp [Governance.tally, forVotes, againstVotes]
    · rw [Function.update_of_ne same]
      exact tallied.tally other side
  · intro other unborn
    have one : (1 : U256).toNat = 1 := rfl
    rw [State.writeProposalCount_proposalCount, next] at unborn
    exact tallied.unvoted other (by omega)

theorem Tallied.writeProposals {w : World} (tallied : Tallied w) {id : U256} {proposal : Proposal}
    (born : id.toNat < w.governance.proposalCount.toNat)
    (kept : ∀ side, Governance.tally proposal side =
      Governance.tally (w.governance.proposals id) side) :
    Tallied ⟨w.governance.writeProposals id proposal, w.block⟩ := by
  refine ⟨tallied.toNumbered.writeProposals born proposal, ?_, tallied.unvoted⟩
  intro other side
  simp only [State.writeProposals_proposals, State.writeProposals_votes]
  by_cases same : other = id
  · subst same
    rw [Function.update_self, kept]
    exact tallied.tally other side
  · rw [Function.update_of_ne same]
    exact tallied.tally other side

section Entries
variable (self caller : ContractAddress)

abbrev KeepsTally {α : Type} (now : Snapshot World Call Reply) (code : Entry World α)
    (history : List (Crossing World Call Reply)) : Prop :=
  Safe (governanceAlone self) (Kept Tallied Grows) Grows
    (fun _ next => Kept Tallied Grows next ∧ Grows now.state next.state) (code.run now.state) history

theorem Tallied.emit {w : World} (tallied : Tallied w) (event : Event) :
    Tallied ⟨w.governance.emit event, w.block⟩ :=
  ⟨tallied.toNumbered.congr tallied.clock rfl rfl, tallied.tally, tallied.unvoted⟩

theorem Grows.emit (w : World) (event : Event) : Grows w ⟨w.governance.emit event, w.block⟩ :=
  ⟨fun _ _ _ => rfl, le_rfl⟩

theorem Kept.emit {now : Snapshot World Call Reply} (kept : Kept Tallied Grows now)
    (event : Event) :
    Kept Tallied Grows ⟨⟨now.state.governance.emit event, now.state.block⟩, now.history⟩ :=
  kept.advance (kept.here.emit event) (.emit _ _)

theorem propose_keepsTally (description : Felt252) (now : Snapshot World Call Reply)
    (kept : Kept Tallied Grows now) :
    KeepsTally self now (propose self caller description) now.history := by
  apply safe_propose
  apply safe_tokenBalance
  apply Safe.send (unserved self (by simp)) (kept.cross _ rfl)
  intro _ paid paidKept paidGrows _ _ _ endTime nextCount _ next
  simp only [World.get_governance, World.set_governance, World.get_block] at next ⊢
  generalize eq : (⟨paid.state.governance.proposalCount, caller, description,
    paid.state.block.timestamp, endTime, 0, 0, false, false⟩ : Proposal) = proposal
  have grows : Grows paid.state ⟨(paid.state.governance.writeProposals
      paid.state.governance.proposalCount proposal).writeProposalCount nextCount,
      paid.state.block⟩ := ⟨fun _ _ _ => rfl, by simp [next]⟩
  have created := paidKept.advance (paidKept.here.propose (by rw [← eq]) (by rw [← eq]) next) grows
  apply safe_distributeReward
  apply Safe.send (unserved self (by simp)) (created.cross _ rfl)
  intro _ rewarded rewardedKept rewardedGrows
  exact ⟨Kept.emit rewardedKept _,
    paidGrows.trans (grows.trans (rewardedGrows.trans (.emit _ _)))⟩

theorem castVote_keepsTally (id : U256) (support : Bool) (now : Snapshot World Call Reply)
    (kept : Kept Tallied Grows now) :
    KeepsTally self now (castVote self caller id support) now.history := by
  apply safe_castVote
  intro _ _ _ stillOpen
  have born := kept.here.born_of_open stillOpen
  apply safe_tokenBalance
  apply Safe.send (unserved self (by simp)) (kept.cross _ rfl)
  intro _ paid paidKept paidGrows power _ _ fresh counted _ raised others
  simp only [World.get_governance, World.set_governance] at fresh raised others ⊢
  have grows : Grows paid.state ⟨(paid.state.governance.writeVotes (id, caller)
      ⟨support, power⟩).writeProposals id counted, paid.state.block⟩ := by
    refine ⟨?_, le_rfl⟩
    intro other voter voted
    have ne : (other, voter) ≠ (id, caller) := by
      rintro same
      rw [same] at voted
      exact voted fresh
    simp only [State.writeProposals_votes, State.writeVotes_votes, Function.update_of_ne ne]
  have voted := paidKept.advance
    (paidKept.here.vote (born.trans_le paidGrows.count) fresh raised others) grows
  apply safe_distributeReward
  apply Safe.send (unserved self (by simp)) (voted.cross _ rfl)
  intro _ rewarded rewardedKept rewardedGrows
  exact ⟨Kept.emit rewardedKept _,
    paidGrows.trans (grows.trans (rewardedGrows.trans (.emit _ _)))⟩

theorem keepsTally_finish {now : Snapshot World Call Reply} (kept : Kept Tallied Grows now)
    {id : U256} {proposal : Proposal} (born : id.toNat < now.state.governance.proposalCount.toNat)
    (same : ∀ side, Governance.tally proposal side =
      Governance.tally (now.state.governance.proposals id) side) (event : Event) :
    Kept Tallied Grows ⟨⟨(now.state.governance.writeProposals id proposal).emit event,
        now.state.block⟩, now.history⟩ ∧
      Grows now.state ⟨(now.state.governance.writeProposals id proposal).emit event,
        now.state.block⟩ := by
  have grows : Grows now.state
      ⟨now.state.governance.writeProposals id proposal, now.state.block⟩ :=
    ⟨fun _ _ _ => rfl, le_rfl⟩
  have written := kept.advance (kept.here.writeProposals born same) grows
  exact ⟨Kept.emit written event, grows.trans (.emit _ _)⟩

theorem executeProposal_keepsTally (id : U256) (now : Snapshot World Call Reply)
    (kept : Kept Tallied Grows now) :
    KeepsTally self now (executeProposal id) now.history := by
  apply safe_executeProposal
  intro _ _ _ _ majority
  exact keepsTally_finish kept (kept.here.born_of_majority majority) (by simp [Governance.tally]) _

theorem cancelProposal_keepsTally (id : U256) (now : Snapshot World Call Reply)
    (kept : Kept Tallied Grows now) :
    KeepsTally self now (cancelProposal caller id) now.history := by
  apply safe_cancelProposal
  intro _ _ _ stillOpen
  exact keepsTally_finish kept (kept.here.born_of_open stillOpen) (by simp [Governance.tally]) _

theorem governance_keepsTally :
    Certified (governanceAlone self) (Kept Tallied Grows) Grows Grows where
  rely_refl := Grows.refl
  rely_trans := Grows.trans
  guarantee_trans := Grows.trans
  resumed _ kept := kept.cross _ rfl
  enter {depth request body now} _ found kept := by
    simp only [alone, deployed_cons, deployed_nil, Option.ite_none_right_eq_some,
      Option.some.injEq] at found
    rw [← found.2]
    have received := kept.cross (.received request now.state) rfl
    exact safe_entry self request.sender request.message ⟨received, Grows.refl _⟩
      (fun description _ => propose_keepsTally self _ description _ received)
      (fun id support _ => castVote_keepsTally self _ id support _ received)
      (fun id _ => executeProposal_keepsTally self id _ received)
      (fun id _ => cancelProposal_keepsTally self _ id _ received)
  nested _ guarantee := guarantee
  drift _ impossible := impossible.elim
  tick {now w} kept moves := by
    obtain ⟨same, clock⟩ := moves
    have grows : Grows now.state w := ⟨fun id voter _ => by rw [same], by rw [same]⟩
    have tallied : Tallied w := by
      refine ⟨kept.here.toNumbered.congr clock (by rw [same]) (by rw [same]), ?_, ?_⟩
      · rw [same]
        exact kept.here.tally
      · rw [same]
        exact kept.here.unvoted
    exact ⟨kept.advance tallied grows, grows⟩

end Entries

theorem constructor_tallied (token rewardDistributor : ContractAddress) (quorum : U256)
    (votingPeriod : U64) (block : Block) (clock : 0 < block.timestamp.toNat) :
    Tallied ⟨constructor token rewardDistributor quorum votingPeriod, block⟩ := by
  refine ⟨constructor_numbered _ _ _ _ clock, ?_, fun _ _ _ => rfl⟩
  intro id support
  simp [constructor, Governance.tally, Proposal.zero, Vote.zero, weight]

/-- The tallies are the sums over the recorded votes; records are final, through the calls that are
not reverted and from any state between transactions on; nothing is recorded for an id that has
not been given out. -/
theorem governance_tally (self token rewardDistributor : ContractAddress) (quorum : U256)
    (votingPeriod : U64) (block : Block) (clock : 0 < block.timestamp.toNat)
    {config : Config World Call Reply}
    (reaches : (governanceAlone self).Reaches
      (.initial ⟨constructor token rewardDistributor quorum votingPeriod, block⟩) config) :
    (∀ id, ((config.now.state.governance.proposals id).forVotes.toNat =
        ∑ voter, if (config.now.state.governance.votes (id, voter)).support = true
          then (config.now.state.governance.votes (id, voter)).votes.toNat else 0) ∧
      (config.now.state.governance.proposals id).againstVotes.toNat =
        ∑ voter, if (config.now.state.governance.votes (id, voter)).support = false
          then (config.now.state.governance.votes (id, voter)).votes.toNat else 0) ∧
    (∀ crossing ∈ config.now.history, ∀ id voter,
      (crossing.state.governance.votes (id, voter)).votes ≠ 0 →
        config.now.state.governance.votes (id, voter) =
          crossing.state.governance.votes (id, voter)) ∧
    (config.stack = [] → ∀ later, (governanceAlone self).Reaches config later → ∀ id voter,
      (config.now.state.governance.votes (id, voter)).votes ≠ 0 →
        later.now.state.governance.votes (id, voter) =
          config.now.state.governance.votes (id, voter)) ∧
    (∀ id, config.now.state.governance.proposalCount.toNat ≤ id.toNat →
      ∀ voter, (config.now.state.governance.votes (id, voter)).votes = 0) := by
  have certified := governance_keepsTally self
  have kept := certified.invariant rfl
    (Kept.start (constructor_tallied token rewardDistributor quorum votingPeriod block clock)) reaches
  refine ⟨fun id => ⟨kept.here.tally id true, kept.here.tally id false⟩, ?_, ?_, kept.here.unvoted⟩
  · intro crossing member
    exact (kept.past crossing member).votes
  · intro idle later reachesLater
    exact (certified.always idle kept reachesLater).votes

theorem governance_tally_voting : ∃ config : Config World Call Reply, config.stack ≠ [] ∧
    (config.now.state.governance.proposals 0).forVotes = 5 ∧
    ((config.now.state.governance.proposals 0).forVotes.toNat =
      ∑ voter, if (config.now.state.governance.votes (0, voter)).support = true
        then (config.now.state.governance.votes (0, voter)).votes.toNat else 0) := by
  -- the reward for the vote is still in the hands of the distributor
  have run := ((((((governanceAlone 1).start ⟨constructor 2 3 10 100, ⟨1⟩⟩).enter
    ⟨7, 1, .governance (.propose 0)⟩ trivial rfl 1 rfl).reply (.u256 5) 1 rfl).reply .unit 1 rfl).enter
    ⟨7, 1, .governance (.castVote 0 true)⟩ trivial rfl 1 rfl).reply (.u256 5) 1 rfl
  exact ⟨_, by simp [settle], rfl,
    ((governance_tally 1 2 3 10 100 ⟨1⟩ (by decide) run).1 0).1⟩

end Kanaka.Proof.Governance
