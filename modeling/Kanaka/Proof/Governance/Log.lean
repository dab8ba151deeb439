import Kanaka.Machine.Announced
import Kanaka.Proof.Governance.Tally

/-! # The log of `Governance` -/

namespace Kanaka.Proof.Governance
open Machine Contracts Contracts.Governance

def Stands (s : State) : Event → Prop
  | .proposalCreated id proposer description startTime endTime =>
      id.toNat < s.proposalCount.toNat ∧ (s.proposals id).proposer = proposer ∧
        (s.proposals id).description = description ∧ (s.proposals id).startTime = startTime ∧
        (s.proposals id).endTime = endTime
  | .voteCast voter id support votes => votes ≠ 0 ∧ s.votes (id, voter) = ⟨support, votes⟩
  | .proposalExecuted id => (s.proposals id).executed = true
  | .proposalCanceled id => (s.proposals id).canceled = true

instance decidableStands (s : State) : DecidablePred (Stands s)
  | .proposalCreated .. => inferInstanceAs (Decidable (_ ∧ _))
  | .voteCast .. => inferInstanceAs (Decidable (_ ∧ _))
  | .proposalExecuted _ => inferInstanceAs (Decidable (_ = _))
  | .proposalCanceled _ => inferInstanceAs (Decidable (_ = _))

/-- A proposal that has been made carries the id under which it is stored, and a vote that has not
been cast reads as zeros. -/
structure Tidy (s : State) (block : Block) : Prop extends Numbered s block where
  named : ∀ id, id.toNat < s.proposalCount.toNat → (s.proposals id).id = id
  blank : ∀ key, (s.votes key).votes = 0 → s.votes key = .zero

theorem Tidy.writeProposals {s : State} {block : Block} (tidy : Tidy s block) {id : U256}
    (born : id.toNat < s.proposalCount.toNat) {proposal : Proposal}
    (same : proposal.id = (s.proposals id).id) : Tidy (s.writeProposals id proposal) block := by
  refine ⟨tidy.toNumbered.writeProposals born proposal, ?_, tidy.blank⟩
  intro other otherBorn
  rw [State.writeProposals_proposals, Function.update_apply]
  split
  · rename_i eq
    rw [eq, same, tidy.named id born]
  · exact tidy.named other otherBorn

theorem Tidy.propose {s : State} {block : Block} (tidy : Tidy s block) (proposal : Proposal)
    (own : proposal.id = s.proposalCount) {nextCount : U256}
    (next : nextCount.toNat = s.proposalCount.toNat + (1 : U256).toNat) :
    Tidy ((s.writeProposals s.proposalCount proposal).writeProposalCount nextCount) block := by
  refine ⟨tidy.toNumbered.propose proposal next, ?_, tidy.blank⟩
  intro other born
  have one : (1 : U256).toNat = 1 := rfl
  rw [State.writeProposalCount_proposalCount, next] at born
  rw [State.writeProposalCount_proposals, State.writeProposals_proposals, Function.update_apply]
  split
  · rename_i eq
    rw [eq, own]
  · rename_i ne
    have apart : other.toNat ≠ s.proposalCount.toNat := fun eq => ne (BitVec.eq_of_toNat_eq eq)
    exact tidy.named other (by omega)

theorem Tidy.congr {s s' : State} {block block' : Block} (tidy : Tidy s block)
    (clock : 0 < block'.timestamp.toNat) (proposals : s'.proposals = s.proposals)
    (count : s'.proposalCount = s.proposalCount) (votes : s'.votes = s.votes) : Tidy s' block' := by
  refine ⟨tidy.toNumbered.congr clock proposals count, ?_, ?_⟩
  · rw [proposals, count]
    exact tidy.named
  · rw [votes]
    exact tidy.blank

theorem Tidy.writeVotes {s : State} {block : Block} (tidy : Tidy s block)
    (key : U256 × ContractAddress) (vote : Vote) (cast : vote.votes ≠ 0) :
    Tidy (s.writeVotes key vote) block := by
  refine ⟨tidy.toNumbered.congr tidy.clock rfl rfl, tidy.named, ?_⟩
  intro other none
  rw [State.writeVotes_votes, Function.update_apply] at none ⊢
  split at none
  · exact absurd none cast
  · rename_i ne
    rw [if_neg ne]
    exact tidy.blank other none

structure Tells (before after : World) : Prop where
  same : SameUnannounced (fun w : World => w.governance.events) (fun w => Stands w.governance)
    before after
  count : before.governance.proposalCount.toNat ≤ after.governance.proposalCount.toNat

theorem Tells.refl (w : World) : Tells w w := ⟨.refl w, le_rfl⟩

theorem Tells.trans {a b c : World} (first : Tells a b) (second : Tells b c) : Tells a c :=
  ⟨first.same.trans second.same, first.count.trans second.count⟩

section Writes
variable {w : World} {id : U256} {caller : ContractAddress}

theorem stands_propose (numbered : Numbered w.governance w.block) {proposal : Proposal}
    {nextCount : U256} (next : nextCount.toNat = w.governance.proposalCount.toNat + (1 : U256).toNat)
    (undecided : proposal.executed = false) (uncanceled : proposal.canceled = false) (event : Event) :
    Stands ((w.governance.writeProposals w.governance.proposalCount proposal).writeProposalCount
        nextCount) event ↔ Stands w.governance event ∨ event = .proposalCreated
          w.governance.proposalCount proposal.proposer proposal.description proposal.startTime
          proposal.endTime := by
  have one : (1 : U256).toNat = 1 := rfl
  have zero := numbered.unborn _ le_rfl
  cases event with
  | proposalCreated other proposer description startTime endTime =>
      simp only [Stands, State.writeProposalCount_proposalCount, State.writeProposalCount_proposals,
        State.writeProposals_proposals, next, one]
      by_cases same : other = w.governance.proposalCount
      · subst same
        simp [eq_comm]
      · have ne : other.toNat ≠ w.governance.proposalCount.toNat :=
          fun eq => same (BitVec.eq_of_toNat_eq eq)
        have born : other.toNat < w.governance.proposalCount.toNat + 1 ↔
            other.toNat < w.governance.proposalCount.toNat := by omega
        simp [born, same]
  | voteCast voter other support votes => simp [Stands]
  | proposalExecuted other | proposalCanceled other =>
      by_cases same : other = w.governance.proposalCount
      · subst same
        simp [Stands, zero, undecided, uncanceled, Proposal.zero]
      · simp [Stands, Function.update_of_ne same]

theorem stands_vote {support : Bool} {power : U256} {counted : Proposal} (positive : 0 < power)
    (fresh : (w.governance.votes (id, caller)).votes = 0)
    (counted_eq : counted = { w.governance.proposals id with
      forVotes := counted.forVotes, againstVotes := counted.againstVotes }) (event : Event) :
    Stands ((w.governance.writeVotes (id, caller) ⟨support, power⟩).writeProposals id counted)
        event ↔ Stands w.governance event ∨ event = .voteCast caller id support power := by
  cases event with
  | voteCast voter other side votes =>
      by_cases same : (other, voter) = (id, caller)
      · cases same
        have unvoted : ¬(votes ≠ 0 ∧ w.governance.votes (id, caller) = ⟨side, votes⟩) := by
          rintro ⟨voted, recorded⟩
          rw [recorded] at fresh
          exact voted fresh
        have nonzero : power ≠ 0 := (BitVec.pos_iff_ne_zero ..).mp positive
        simp only [Stands, State.writeProposals_votes, State.writeVotes_votes,
          Function.update_self, unvoted, false_or, Vote.mk.injEq, Event.voteCast.injEq, true_and]
        constructor
        · exact fun recorded => ⟨recorded.2.1.symm, recorded.2.2.symm⟩
        · exact fun recorded => ⟨recorded.2 ▸ nonzero, recorded.1.symm, recorded.2.symm⟩
      · have other_event : Event.voteCast voter other side votes ≠ .voteCast caller id support power := by
          rintro eq
          cases eq
          exact same rfl
        simp [Stands, Function.update_of_ne same, other_event]
  | proposalCreated other proposer description startTime endTime =>
      by_cases same : other = id
      · subst same
        rw [counted_eq]
        simp [Stands]
      · simp [Stands, Function.update_of_ne same]
  | proposalExecuted other | proposalCanceled other =>
      by_cases same : other = id
      · subst same
        rw [counted_eq]
        simp [Stands]
      · simp [Stands, Function.update_of_ne same]

theorem stands_execute (undecided : (w.governance.proposals id).executed = false) (event : Event) :
    Stands (w.governance.writeProposals id { w.governance.proposals id with executed := true }) event ↔
      Stands w.governance event ∨ event = .proposalExecuted id := by
  cases event with
  | proposalExecuted other | proposalCanceled other | proposalCreated other =>
      by_cases same : other = id
      · subst same
        simp [Stands]
      · simp [Stands, same]
  | voteCast => simp [Stands]

theorem stands_cancel (event : Event) :
    Stands (w.governance.writeProposals id { w.governance.proposals id with canceled := true }) event ↔
      Stands w.governance event ∨ event = .proposalCanceled id := by
  cases event with
  | proposalExecuted other | proposalCanceled other | proposalCreated other =>
      by_cases same : other = id
      · subst same
        simp [Stands]
      · simp [Stands, same]
  | voteCast => simp [Stands]

end Writes

section Entries
variable (self caller : ContractAddress)

abbrev KeepsLog {α : Type} (now : Snapshot World Call Reply) (code : Entry World α)
    (history : List (Crossing World Call Reply)) : Prop :=
  Safe (governanceAlone self) (fun s => Tidy s.state.governance s.state.block) Tells
    (fun _ next => Tidy next.state.governance next.state.block ∧ Tells now.state next.state)
    (code.run now.state) history

theorem propose_keepsLog (description : Felt252) (now : Snapshot World Call Reply)
    (history : List (Crossing World Call Reply))
    (tidy : Tidy now.state.governance now.state.block) :
    KeepsLog self now (propose self caller description) history := by
  apply safe_propose
  apply safe_tokenBalance
  apply Safe.send (unserved self (by simp)) tidy
  intro _ paid paidTidy paidTells _ _ _ endTime nextCount _ next
  simp only [World.get_governance, World.set_governance, World.get_block] at next ⊢
  have written := paidTidy.propose ⟨paid.state.governance.proposalCount, caller, description,
    paid.state.block.timestamp, endTime, 0, 0, false, false⟩ rfl next
  apply safe_distributeReward
  apply Safe.send (unserved self (by simp)) written
  intro _ rewarded rewardedTidy rewardedTells
  have one : (1 : U256).toNat = 1 := rfl
  have counted := rewardedTells.count
  simp only [State.writeProposalCount_proposalCount, next, one] at counted
  refine ⟨rewardedTidy.congr rewardedTidy.clock rfl rfl rfl, paidTells.trans ⟨?_, ?_⟩⟩
  · refine .announce rewardedTells.same rfl ?_ (stands_propose paidTidy.toNumbered next rfl rfl)
      rfl fun _ => .rfl
    simp [Stands]
  · simp only [State.emit_proposalCount]
    omega

theorem castVote_keepsLog (id : U256) (support : Bool) (now : Snapshot World Call Reply)
    (history : List (Crossing World Call Reply))
    (tidy : Tidy now.state.governance now.state.block) :
    KeepsLog self now (castVote self caller id support) history := by
  apply safe_castVote
  intro _ _ _ stillOpen
  have born := tidy.born_of_open stillOpen
  apply safe_tokenBalance
  apply Safe.send (unserved self (by simp)) tidy
  intro _ paid paidTidy paidTells power _ positive fresh counted counted_eq _ _
  simp only [World.get_governance, World.set_governance] at fresh counted_eq ⊢
  have voted := paidTidy.writeVotes (id, caller) ⟨support, power⟩
    ((BitVec.pos_iff_ne_zero ..).mp positive)
  apply safe_distributeReward
  apply Safe.send (unserved self (by simp))
    (voted.writeProposals (born.trans_le paidTells.count) (by rw [counted_eq]; rfl))
  intro _ rewarded rewardedTidy rewardedTells
  refine ⟨rewardedTidy.congr rewardedTidy.clock rfl rfl rfl, paidTells.trans ⟨?_, ?_⟩⟩
  · refine .announce rewardedTells.same rfl ?_ (stands_vote positive fresh counted_eq) rfl
      fun _ => .rfl
    rintro ⟨voted, recorded⟩
    rw [recorded] at fresh
    exact voted fresh
  · exact rewardedTells.count

theorem keepsLog_decide {now : Snapshot World Call Reply}
    (tidy : Tidy now.state.governance now.state.block) {id : U256} {proposal : Proposal}
    (born : id.toNat < now.state.governance.proposalCount.toNat) {event : Event}
    (fresh : ¬Stands now.state.governance event)
    (wrote : ∀ other, Stands (now.state.governance.writeProposals id proposal) other ↔
      Stands now.state.governance other ∨ other = event)
    (same : proposal.id = (now.state.governance.proposals id).id) :
    Tidy ((now.state.governance.writeProposals id proposal).emit event) now.state.block ∧
      Tells now.state
        ⟨(now.state.governance.writeProposals id proposal).emit event, now.state.block⟩ := by
  refine ⟨(tidy.writeProposals born same).congr tidy.clock rfl rfl rfl, ?_, le_rfl⟩
  exact .announce (.refl ⟨now.state.governance.writeProposals id proposal, now.state.block⟩) rfl
    fresh wrote rfl fun _ => .rfl

theorem executeProposal_keepsLog (id : U256) (now : Snapshot World Call Reply)
    (history : List (Crossing World Call Reply))
    (tidy : Tidy now.state.governance now.state.block) :
    KeepsLog self now (executeProposal id) history := by
  apply safe_executeProposal
  intro undecided _ _ _ majority
  refine keepsLog_decide tidy (tidy.born_of_majority majority) ?_ (stands_execute undecided)
    rfl
  simpa [Stands] using undecided

theorem cancelProposal_keepsLog (id : U256) (now : Snapshot World Call Reply)
    (history : List (Crossing World Call Reply))
    (tidy : Tidy now.state.governance now.state.block) :
    KeepsLog self now (cancelProposal caller id) history := by
  apply safe_cancelProposal
  intro _ _ uncanceled stillOpen
  refine keepsLog_decide tidy (tidy.born_of_open stillOpen) ?_ stands_cancel rfl
  simpa [Stands] using uncanceled

theorem governance_keepsLog :
    Certified (governanceAlone self) (fun s => Tidy s.state.governance s.state.block) Tells
      Tells where
  rely_refl := Tells.refl
  rely_trans := Tells.trans
  guarantee_trans := Tells.trans
  resumed _ tidy := tidy
  enter {depth request body now} _ found tidy := by
    simp only [alone, deployed_cons, deployed_nil, Option.ite_none_right_eq_some,
      Option.some.injEq] at found
    rw [← found.2]
    exact safe_entry self request.sender request.message ⟨tidy, Tells.refl _⟩
      (fun description _ => propose_keepsLog self _ description now _ tidy)
      (fun id support _ => castVote_keepsLog self _ id support now _ tidy)
      (fun id _ => executeProposal_keepsLog self id now _ tidy)
      (fun id _ => cancelProposal_keepsLog self _ id now _ tidy)
  nested _ guarantee := guarantee
  drift _ impossible := impossible.elim
  tick {now w} tidy moves := by
    obtain ⟨same, clock⟩ := moves
    refine ⟨tidy.congr clock (by rw [same]) (by rw [same]) (by rw [same]), ?_, by rw [same]⟩
    exact .congr (by rw [same]) fun _ => by rw [same]

end Entries

def power (id : U256) (side : Bool) : Event → Nat
  | .voteCast _ proposalId support votes =>
      if proposalId = id ∧ support = side then votes.toNat else 0
  | .proposalCreated .. | .proposalExecuted _ | .proposalCanceled _ => 0

theorem sum_power {s : State} (once : s.events.Nodup)
    (log : ∀ event, event ∈ s.events ↔ Stands s event) (id : U256) (side : Bool) :
    ∑ voter, weight side (s.votes (id, voter)) = (s.events.map (power id side)).sum := by
  rw [← List.sum_toFinset _ once]
  refine Finset.sum_bij_ne_zero
    (fun voter _ _ => .voteCast voter id side (s.votes (id, voter)).votes) ?_ ?_ ?_ ?_
  · intro voter _ counted
    rw [List.mem_toFinset, log]
    unfold weight at counted
    split at counted
    · rename_i same
      exact ⟨fun zero => counted (by rw [zero]; rfl), by rw [← same]⟩
    · exact absurd rfl counted
  · intro voter _ _ other _ _ same
    cases same
    rfl
  · intro event member counted
    rw [List.mem_toFinset, log] at member
    cases event with
    | voteCast voter other support votes =>
        obtain ⟨-, recorded⟩ := member
        simp only [power] at counted
        split at counted
        · rename_i same
          rw [same.1] at recorded ⊢
          refine ⟨voter, Finset.mem_univ voter, ?_, ?_⟩
          · rw [recorded, same.2, weight_self]
            exact counted
          · rw [recorded, same.2]
        · exact absurd rfl counted
    | _ => exact absurd rfl counted
  · intro voter _ counted
    unfold weight at counted ⊢
    split at counted
    · rename_i same
      simp [power, same]
    · exact absurd rfl counted

theorem constructor_tidy (token rewardDistributor : ContractAddress) (quorum : U256)
    (votingPeriod : U64) {block : Block} (clock : 0 < block.timestamp.toNat) :
    Tidy (constructor token rewardDistributor quorum votingPeriod) block :=
  ⟨constructor_numbered _ _ _ _ clock, fun id born => absurd born (Nat.not_lt_zero id.toNat),
    fun _ _ => rfl⟩

theorem constructor_silent (token rewardDistributor : ContractAddress) (quorum : U256)
    (votingPeriod : U64) (event : Event) :
    ¬Stands (constructor token rewardDistributor quorum votingPeriod) event := by
  cases event with
  | voteCast voter id support votes =>
      rintro ⟨voted, recorded⟩
      exact voted (congrArg Vote.votes recorded).symm
  | _ => simp [Stands, constructor, Proposal.zero]

section Runs
variable {self token rewardDistributor : ContractAddress} {quorum : U256} {votingPeriod : U64}
  {block : Block} (clock : 0 < block.timestamp.toNat) {config : Config World Call Reply}
  (reaches : (governanceAlone self).Reaches
    (.initial ⟨constructor token rewardDistributor quorum votingPeriod, block⟩) config)
include clock reaches

theorem tidy_of_reaches : Tidy config.now.state.governance config.now.state.block :=
  (governance_keepsLog self).invariant rfl (constructor_tidy _ _ _ _ clock) reaches

theorem log_of_reaches (idle : config.stack = []) : config.now.state.governance.events.Nodup ∧
    ∀ event, event ∈ config.now.state.governance.events ↔
      Stands config.now.state.governance event := by
  have tells := (governance_keepsLog self).guarantee rfl (constructor_tidy _ _ _ _ clock)
    (Tells.refl _) reaches idle
  exact tells.same.settled rfl (constructor_silent _ _ _ _)

end Runs

/-! ### Equal logs -/

section Equal
variable {s s' : State} {block block' : Block} (tidy : Tidy s block) (tidy' : Tidy s' block')
  (same : ∀ event, Stands s' event ↔ Stands s event)
include same

theorem proposalCount_le : s.proposalCount.toNat ≤ s'.proposalCount.toNat := by
  by_contra more
  have created : Stands s (.proposalCreated s'.proposalCount _ _ _ _) :=
    ⟨not_le.mp more, rfl, rfl, rfl, rfl⟩
  exact absurd ((same _).mpr created).1 (Nat.lt_irrefl _)

include tidy tidy' in
theorem votes_eq : s'.votes = s.votes := by
  funext key
  by_cases cast : (s.votes key).votes = 0
  · by_cases cast' : (s'.votes key).votes = 0
    · rw [tidy.blank key cast, tidy'.blank key cast']
    · have recorded : Stands s' (.voteCast key.2 key.1 (s'.votes key).support (s'.votes key).votes) :=
        ⟨cast', rfl⟩
      exact ((same _).mp recorded).2.symm
  · have recorded : Stands s (.voteCast key.2 key.1 (s.votes key).support (s.votes key).votes) :=
      ⟨cast, rfl⟩
    exact ((same _).mpr recorded).2

include tidy tidy' in
theorem proposals_eq (tallies : ∀ id side, (Governance.tally (s'.proposals id) side).toNat =
      (Governance.tally (s.proposals id) side).toNat) : s'.proposals = s.proposals := by
  have count : s'.proposalCount.toNat = s.proposalCount.toNat :=
    le_antisymm (proposalCount_le fun event => (same event).symm) (proposalCount_le same)
  funext id
  by_cases born : id.toNat < s.proposalCount.toNat
  · have created : Stands s (.proposalCreated id _ _ _ _) := ⟨born, rfl, rfl, rfl, rfl⟩
    obtain ⟨_, proposer, description, startTime, endTime⟩ := (same _).mpr created
    have executed := same (.proposalExecuted id)
    have canceled := same (.proposalCanceled id)
    have named := (tidy'.named id (count ▸ born)).trans (tidy.named id born).symm
    have forVotes := BitVec.eq_of_toNat_eq (tallies id true)
    have againstVotes := BitVec.eq_of_toNat_eq (tallies id false)
    simp only [Stands, Bool.coe_iff_coe] at executed canceled
    generalize s'.proposals id = p' at *
    generalize s.proposals id = p at *
    cases p
    cases p'
    simp_all [Governance.tally]
  · rw [tidy.unborn id (not_lt.mp born), tidy'.unborn id (count ▸ not_lt.mp born)]

end Equal

/-- When no call is waiting, the log holds every event that the storage stands for exactly once and
no other, whatever the calls out of `propose` and `cast_vote` have done; the tallies are the sums
over the logged votes. -/
theorem governance_logged (self token rewardDistributor : ContractAddress) (quorum : U256)
    (votingPeriod : U64) (block : Block) (clock : 0 < block.timestamp.toNat)
    {config : Config World Call Reply}
    (reaches : (governanceAlone self).Reaches
      (.initial ⟨constructor token rewardDistributor quorum votingPeriod, block⟩) config)
    (idle : config.stack = []) :
    config.now.state.governance.events.Nodup ∧
    (∀ event, event ∈ config.now.state.governance.events ↔
      Stands config.now.state.governance event) ∧
    ∀ id side, (Governance.tally (config.now.state.governance.proposals id) side).toNat =
      (config.now.state.governance.events.map (power id side)).sum := by
  obtain ⟨once, log⟩ := log_of_reaches clock reaches idle
  refine ⟨once, log, ?_⟩
  intro id side
  have kept := (governance_keepsTally self).invariant rfl
    (Kept.start (constructor_tallied token rewardDistributor quorum votingPeriod block clock)) reaches
  rw [kept.here.tally id side, sum_power once log]

theorem governance_logged_late : ∃ config : Config World Call Reply,
    config.now.state.governance.events = [.voteCast 8 0 true 3, .proposalCreated 0 7 0 1 101] ∧
    config.now.state.governance.events.Nodup ∧
    Stands config.now.state.governance (.proposalCreated 0 7 0 1 101) := by
  -- 8 votes while the reward for the proposal is paid, and is announced before it
  have run := ((((((governanceAlone 1).start ⟨constructor 2 3 10 100, ⟨1⟩⟩).enter
    ⟨7, 1, .governance (.propose 0)⟩ trivial rfl 1 rfl).reply (.u256 5) 1 rfl).enter
    ⟨8, 1, .governance (.castVote 0 true)⟩ trivial rfl 1 rfl).reply (.u256 3) 1 rfl)
  have run := (run.reply .unit 1 rfl).reply .unit 1 rfl
  have logged := governance_logged 1 2 3 10 100 ⟨1⟩ (by decide) run rfl
  exact ⟨_, rfl, logged.1, (logged.2.1 _).mp (List.mem_cons_of_mem _ (List.mem_singleton_self _))⟩

end Kanaka.Proof.Governance
