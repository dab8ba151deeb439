import Kanaka.Proof.Governance.World

namespace Kanaka.Proof.Governance
open Machine Contracts Contracts.Governance

/-- `Governance` at `self` when the token and the distributor do not call back and time does not run
backwards. -/
abbrev governanceUnentered (self : ContractAddress) : System World Call Reply :=
  { alone self (entry self) fun w w' =>
      w'.governance = w.governance ∧ w.block.timestamp.toNat ≤ w'.block.timestamp.toNat with
    enters := fun depth _ _ => depth = 0 }

def Closed (timestamp : U64) (p : Proposal) : Prop :=
  p.executed = true ∨ p.canceled = true ∨ p.endTime.toNat < timestamp.toNat

structure WellFormed (quorum : U256) (votingPeriod timestamp : U64) (id : U256) (p : Proposal) :
    Prop where
  id_eq : p.id = id
  period : p.endTime.toNat = p.startTime.toNat + votingPeriod.toNat
  exclusive : ¬ (p.executed = true ∧ p.canceled = true)
  majority : p.executed = true → p.againstVotes.toNat < p.forVotes.toNat
  quorum : p.executed = true → quorum.toNat ≤ p.forVotes.toNat + p.againstVotes.toNat
  ended : p.executed = true → p.endTime.toNat < timestamp.toNat

/-- How a proposal may go on from `p`, seen at `timestamp`. -/
structure Proceeds (timestamp : U64) (p q : Proposal) : Prop where
  id : q.id = p.id
  proposer : q.proposer = p.proposer
  description : q.description = p.description
  startTime : q.startTime = p.startTime
  endTime : q.endTime = p.endTime
  executed : p.executed = true → q.executed = true
  canceled : p.canceled = true → q.canceled = true
  tallies : Closed timestamp p → q.forVotes = p.forVotes ∧ q.againstVotes = p.againstVotes

structure Lifecycle (quorum : U256) (votingPeriod : U64) (w : World) : Prop
    extends Numbered w.governance w.block where
  quorum_eq : w.governance.quorum = quorum
  votingPeriod_eq : w.governance.votingPeriod = votingPeriod
  proposals : ∀ id, id.toNat < w.governance.proposalCount.toNat →
    WellFormed quorum votingPeriod w.block.timestamp id (w.governance.proposals id)

structure Later (before after : World) : Prop where
  clock : before.block.timestamp.toNat ≤ after.block.timestamp.toNat
  count : before.governance.proposalCount.toNat ≤ after.governance.proposalCount.toNat
  proposals : ∀ id, id.toNat < before.governance.proposalCount.toNat →
    Proceeds before.block.timestamp (before.governance.proposals id) (after.governance.proposals id)

theorem Proceeds.refl (timestamp : U64) (p : Proposal) : Proceeds timestamp p p :=
  ⟨rfl, rfl, rfl, rfl, rfl, fun h => h, fun h => h, fun _ => ⟨rfl, rfl⟩⟩

theorem Proceeds.closed {timestamp timestamp' : U64} {p q : Proposal}
    (proceeds : Proceeds timestamp p q) (clock : timestamp.toNat ≤ timestamp'.toNat)
    (closed : Closed timestamp p) : Closed timestamp' q := by
  rcases closed with executed | canceled | ended
  · exact .inl (proceeds.executed executed)
  · exact .inr (.inl (proceeds.canceled canceled))
  · rw [← proceeds.endTime] at ended
    exact .inr (.inr (ended.trans_le clock))

theorem Proceeds.trans {timestamp timestamp' : U64} {p q r : Proposal}
    (clock : timestamp.toNat ≤ timestamp'.toNat) (first : Proceeds timestamp p q)
    (second : Proceeds timestamp' q r) : Proceeds timestamp p r where
  id := second.id.trans first.id
  proposer := second.proposer.trans first.proposer
  description := second.description.trans first.description
  startTime := second.startTime.trans first.startTime
  endTime := second.endTime.trans first.endTime
  executed := second.executed ∘ first.executed
  canceled := second.canceled ∘ first.canceled
  tallies closed := by
    have before := first.tallies closed
    have after := second.tallies (first.closed clock closed)
    exact ⟨after.1.trans before.1, after.2.trans before.2⟩

theorem Later.refl (w : World) : Later w w :=
  ⟨le_rfl, le_rfl, fun _ _ => .refl _ _⟩

theorem Later.trans {a b c : World} (first : Later a b) (second : Later b c) : Later a c := by
  refine ⟨first.clock.trans second.clock, first.count.trans second.count, ?_⟩
  intro id born
  exact (first.proposals id born).trans first.clock
    (second.proposals id (born.trans_le first.count))

instance : IsPreorder World Later where
  refl := Later.refl
  trans _ _ _ := Later.trans

theorem WellFormed.later {quorum : U256} {votingPeriod timestamp timestamp' : U64} {id : U256}
    {p : Proposal} (wellFormed : WellFormed quorum votingPeriod timestamp id p)
    (clock : timestamp.toNat ≤ timestamp'.toNat) :
    WellFormed quorum votingPeriod timestamp' id p :=
  { wellFormed with ended := fun executed => (wellFormed.ended executed).trans_le clock }

theorem Lifecycle.writeProposals {quorum : U256} {votingPeriod : U64} {w : World} {id : U256}
    {proposal : Proposal} (lifecycle : Lifecycle quorum votingPeriod w)
    (born : id.toNat < w.governance.proposalCount.toNat)
    (wellFormed : WellFormed quorum votingPeriod w.block.timestamp id proposal) :
    Lifecycle quorum votingPeriod ⟨w.governance.writeProposals id proposal, w.block⟩ := by
  refine ⟨lifecycle.toNumbered.writeProposals born proposal, lifecycle.quorum_eq,
    lifecycle.votingPeriod_eq, ?_⟩
  intro other otherBorn
  by_cases same : other = id
  · rw [same, State.writeProposals_proposals, Function.update_self]
    exact wellFormed
  · rw [State.writeProposals_proposals, Function.update_of_ne same]
    exact lifecycle.proposals other otherBorn

theorem Later.writeProposals {w : World} {id : U256} {proposal : Proposal}
    (proceeds : Proceeds w.block.timestamp (w.governance.proposals id) proposal) :
    Later w ⟨w.governance.writeProposals id proposal, w.block⟩ := by
  refine ⟨le_rfl, le_rfl, ?_⟩
  intro other born
  by_cases same : other = id
  · rw [same, State.writeProposals_proposals, Function.update_self]
    exact proceeds
  · rw [State.writeProposals_proposals, Function.update_of_ne same]
    exact .refl _ _

theorem Lifecycle.propose {quorum : U256} {votingPeriod : U64} {w : World} {proposal : Proposal}
    {nextCount : U256} (lifecycle : Lifecycle quorum votingPeriod w)
    (next : nextCount.toNat = w.governance.proposalCount.toNat + (1 : U256).toNat)
    (wellFormed : WellFormed quorum votingPeriod w.block.timestamp w.governance.proposalCount
      proposal) :
    Lifecycle quorum votingPeriod ⟨(w.governance.writeProposals w.governance.proposalCount
      proposal).writeProposalCount nextCount, w.block⟩ := by
  refine ⟨lifecycle.toNumbered.propose proposal next, lifecycle.quorum_eq,
    lifecycle.votingPeriod_eq, ?_⟩
  intro other born
  have one : (1 : U256).toNat = 1 := rfl
  rw [State.writeProposalCount_proposalCount, next] at born
  rw [State.writeProposalCount_proposals, State.writeProposals_proposals]
  by_cases same : other = w.governance.proposalCount
  · rw [same, Function.update_self]
    exact wellFormed
  · rw [Function.update_of_ne same]
    have ne : other.toNat ≠ w.governance.proposalCount.toNat :=
      fun eq => same (BitVec.eq_of_toNat_eq eq)
    exact lifecycle.proposals other (by omega)

theorem Later.propose {w : World} (proposal : Proposal) {nextCount : U256}
    (next : nextCount.toNat = w.governance.proposalCount.toNat + (1 : U256).toNat) :
    Later w ⟨(w.governance.writeProposals w.governance.proposalCount
      proposal).writeProposalCount nextCount, w.block⟩ := by
  refine ⟨le_rfl, ?_, ?_⟩
  · rw [State.writeProposalCount_proposalCount, next]
    exact Nat.le_add_right _ _
  · intro other born
    have ne : other ≠ w.governance.proposalCount := by
      rintro rfl
      omega
    rw [State.writeProposalCount_proposals, State.writeProposals_proposals,
      Function.update_of_ne ne]
    exact .refl _ _

theorem Lifecycle.congr {quorum : U256} {votingPeriod : U64} {w : World} {s : State}
    (lifecycle : Lifecycle quorum votingPeriod w) (proposals : s.proposals = w.governance.proposals)
    (count : s.proposalCount = w.governance.proposalCount) (quorum_eq : s.quorum = w.governance.quorum)
    (votingPeriod_eq : s.votingPeriod = w.governance.votingPeriod) :
    Lifecycle quorum votingPeriod ⟨s, w.block⟩ := by
  refine ⟨lifecycle.toNumbered.congr lifecycle.clock proposals count,
    quorum_eq.trans lifecycle.quorum_eq, votingPeriod_eq.trans lifecycle.votingPeriod_eq, ?_⟩
  rw [proposals, count]
  exact lifecycle.proposals

theorem Later.congr {w : World} {s : State} (proposals : s.proposals = w.governance.proposals)
    (count : s.proposalCount = w.governance.proposalCount) : Later w ⟨s, w.block⟩ := by
  refine ⟨le_rfl, by rw [count], ?_⟩
  rw [proposals]
  exact fun _ _ => .refl _ _

section Entries
variable (self caller : ContractAddress) {quorum : U256} {votingPeriod : U64}

abbrev KeepsLifecycle (quorum : U256) (votingPeriod : U64) {α : Type}
    (now : Snapshot World Call Reply) (code : Entry World α)
    (history : List (Crossing World Call Reply)) : Prop :=
  Safe (governanceUnentered self) (Kept (Lifecycle quorum votingPeriod) Later) Eq
    (fun _ next => Kept (Lifecycle quorum votingPeriod) Later next ∧ Later now.state next.state)
    (code.run now.state) history

theorem keepsLifecycle_emit {now next : Snapshot World Call Reply}
    (kept : Kept (Lifecycle quorum votingPeriod) Later next) (later : Later now.state next.state)
    (event : Event) :
    Kept (Lifecycle quorum votingPeriod) Later
        ⟨⟨next.state.governance.emit event, next.state.block⟩, next.history⟩ ∧
      Later now.state ⟨next.state.governance.emit event, next.state.block⟩ := by
  have emitted : Later next.state ⟨next.state.governance.emit event, next.state.block⟩ :=
    .congr rfl rfl
  exact ⟨kept.advance (kept.here.congr rfl rfl rfl rfl) emitted, later.trans emitted⟩

theorem propose_keepsLifecycle (description : Felt252) (now : Snapshot World Call Reply)
    (kept : Kept (Lifecycle quorum votingPeriod) Later now) :
    KeepsLifecycle self quorum votingPeriod now (propose self caller description) now.history := by
  apply safe_propose
  apply safe_tokenBalance
  apply Safe.send (unserved self (by simp)) (kept.cross _ rfl)
  intro _ paid paidKept paidSame _ _ _ endTime nextCount period next
  simp only [World.get_governance, World.set_governance, World.get_block] at period next ⊢
  rw [paidKept.here.votingPeriod_eq] at period
  have wellFormed : WellFormed quorum votingPeriod paid.state.block.timestamp
      paid.state.governance.proposalCount ⟨paid.state.governance.proposalCount, caller, description,
        paid.state.block.timestamp, endTime, 0, 0, false, false⟩ :=
    ⟨rfl, period, by simp, by simp, by simp, by simp⟩
  have later := Later.propose ⟨paid.state.governance.proposalCount, caller, description,
    paid.state.block.timestamp, endTime, 0, 0, false, false⟩ next
  have created := paidKept.advance (paidKept.here.propose next wellFormed) later
  apply safe_distributeReward
  apply Safe.send (unserved self (by simp)) (created.cross _ rfl)
  intro _ rewarded rewardedKept rewardedSame
  have laterNow : Later now.state rewarded.state := by
    rw [paidSame, ← rewardedSame]
    exact later
  exact keepsLifecycle_emit rewardedKept laterNow _

theorem castVote_keepsLifecycle (id : U256) (support : Bool) (now : Snapshot World Call Reply)
    (kept : Kept (Lifecycle quorum votingPeriod) Later now) :
    KeepsLifecycle self quorum votingPeriod now (castVote self caller id support) now.history := by
  -- the voting time is checked before `balance_of`, which leaves the proposal as it was
  apply safe_castVote
  intro notExecuted notCanceled _ window
  apply safe_tokenBalance
  apply Safe.send (unserved self (by simp)) (kept.cross _ rfl)
  intro _ paid paidKept paidSame power _ _ _ counted counted_eq _ _
  simp only [World.get_governance, World.set_governance, World.get_block]
    at notExecuted notCanceled window counted_eq ⊢
  rw [paidSame] at notExecuted notCanceled window
  have born := paidKept.here.born_of_open window
  have before := paidKept.here.proposals id born
  have wellFormed : WellFormed quorum votingPeriod paid.state.block.timestamp id counted := by
    rw [counted_eq]
    exact ⟨before.id_eq, before.period, before.exclusive, by simp [notExecuted],
      by simp [notExecuted], before.ended⟩
  have stillOpen : ¬ Closed paid.state.block.timestamp (paid.state.governance.proposals id) := by
    simp only [Closed, notExecuted, notCanceled, Bool.false_eq_true, false_or, not_lt]
    exact window
  have proceeds : Proceeds paid.state.block.timestamp (paid.state.governance.proposals id) counted := by
    rw [counted_eq]
    exact ⟨rfl, rfl, rfl, rfl, rfl, fun h => h, fun h => h, fun closed => absurd closed stillOpen⟩
  have voted : Later paid.state ⟨paid.state.governance.writeVotes (id, caller) ⟨support, power⟩,
      paid.state.block⟩ := .congr rfl rfl
  have votedLifecycle : Lifecycle quorum votingPeriod
      ⟨paid.state.governance.writeVotes (id, caller) ⟨support, power⟩, paid.state.block⟩ :=
    paidKept.here.congr rfl rfl rfl rfl
  have later := voted.trans (.writeProposals proceeds)
  have written := paidKept.advance (votedLifecycle.writeProposals born wellFormed) later
  apply safe_distributeReward
  apply Safe.send (unserved self (by simp)) (written.cross _ rfl)
  intro _ rewarded rewardedKept rewardedSame
  have laterNow : Later now.state rewarded.state := by
    rw [paidSame, ← rewardedSame]
    exact later
  exact keepsLifecycle_emit rewardedKept laterNow _

theorem keepsLifecycle_finish {now : Snapshot World Call Reply}
    (kept : Kept (Lifecycle quorum votingPeriod) Later now) {id : U256} {proposal : Proposal}
    (born : id.toNat < now.state.governance.proposalCount.toNat)
    (wellFormed : WellFormed quorum votingPeriod now.state.block.timestamp id proposal)
    (proceeds : Proceeds now.state.block.timestamp (now.state.governance.proposals id) proposal)
    (event : Event) :
    Kept (Lifecycle quorum votingPeriod) Later
        ⟨⟨(now.state.governance.writeProposals id proposal).emit event, now.state.block⟩,
          now.history⟩ ∧
      Later now.state ⟨(now.state.governance.writeProposals id proposal).emit event,
        now.state.block⟩ := by
  have later := Later.writeProposals proceeds
  have written := kept.advance (kept.here.writeProposals born wellFormed) later
  exact keepsLifecycle_emit written later event

theorem executeProposal_keepsLifecycle (id : U256) (now : Snapshot World Call Reply)
    (kept : Kept (Lifecycle quorum votingPeriod) Later now) :
    KeepsLifecycle self quorum votingPeriod now (executeProposal id) now.history := by
  apply safe_executeProposal
  intro _ notCanceled ended enough majority
  simp only [World.get_governance, World.get_block, kept.here.quorum_eq]
    at notCanceled ended enough majority
  have born := kept.here.born_of_majority majority
  have before := kept.here.proposals id born
  apply keepsLifecycle_finish kept born
  · exact ⟨before.id_eq, before.period, by simp [notCanceled], fun _ => majority, fun _ => enough,
      fun _ => ended⟩
  · exact ⟨rfl, rfl, rfl, rfl, rfl, fun _ => rfl, fun h => h, fun _ => ⟨rfl, rfl⟩⟩

theorem cancelProposal_keepsLifecycle (id : U256) (now : Snapshot World Call Reply)
    (kept : Kept (Lifecycle quorum votingPeriod) Later now) :
    KeepsLifecycle self quorum votingPeriod now (cancelProposal caller id) now.history := by
  apply safe_cancelProposal
  intro _ notExecuted _ stillOpen
  simp only [World.get_governance, World.get_block] at notExecuted stillOpen
  have born := kept.here.born_of_open stillOpen
  have before := kept.here.proposals id born
  apply keepsLifecycle_finish kept born
  · exact ⟨before.id_eq, before.period, by simp [notExecuted], by simp [notExecuted],
      by simp [notExecuted], by simp [notExecuted]⟩
  · exact ⟨rfl, rfl, rfl, rfl, rfl, fun h => h, fun _ => rfl, fun _ => ⟨rfl, rfl⟩⟩

theorem governance_keepsLifecycle :
    Certified (governanceUnentered self) (Kept (Lifecycle quorum votingPeriod) Later) Eq Later where
  rely_refl _ := rfl
  rely_trans := Eq.trans
  guarantee_trans := Later.trans
  resumed _ kept := kept.cross _ rfl
  enter {depth request body now} _ found kept := by
    simp only [alone, deployed_cons, deployed_nil, Option.ite_none_right_eq_some,
      Option.some.injEq] at found
    rw [← found.2]
    have received := kept.cross (.received request now.state) rfl
    exact safe_entry self request.sender request.message ⟨received, Later.refl _⟩
      (fun description _ => propose_keepsLifecycle self _ description _ received)
      (fun id support _ => castVote_keepsLifecycle self _ id support _ received)
      (fun id _ => executeProposal_keepsLifecycle self id _ received)
      (fun id _ => cancelProposal_keepsLifecycle self _ id _ received)
  nested deeper _ := absurd deeper (Nat.succ_ne_zero _)
  drift _ impossible := impossible.elim
  tick {now w} kept moves := by
    obtain ⟨same, clock⟩ := moves
    have later : Later now.state w := by
      refine ⟨clock, by rw [same], ?_⟩
      rw [same]
      exact fun _ _ => .refl _ _
    have lifecycle : Lifecycle quorum votingPeriod w := by
      have positive := kept.here.clock.trans_le clock
      refine ⟨kept.here.toNumbered.congr positive (by rw [same]) (by rw [same]), ?_, ?_, ?_⟩
      · rw [same, kept.here.quorum_eq]
      · rw [same, kept.here.votingPeriod_eq]
      · rw [same]
        exact fun id born => (kept.here.proposals id born).later clock
    exact ⟨kept.advance lifecycle later, later⟩

end Entries

theorem constructor_lifecycle (token rewardDistributor : ContractAddress) (quorum : U256)
    (votingPeriod : U64) (block : Block) (clock : 0 < block.timestamp.toNat) :
    Lifecycle quorum votingPeriod
      ⟨constructor token rewardDistributor quorum votingPeriod, block⟩ := by
  refine ⟨constructor_numbered _ _ _ _ clock, rfl, rfl, ?_⟩
  intro id born
  exact absurd born (Nat.not_lt_zero _)

theorem Lifecycle.exclusive {quorum : U256} {votingPeriod : U64} {w : World}
    (lifecycle : Lifecycle quorum votingPeriod w) (id : U256) :
    ¬ ((w.governance.proposals id).executed = true ∧
      (w.governance.proposals id).canceled = true) := by
  by_cases born : id.toNat < w.governance.proposalCount.toNat
  · exact (lifecycle.proposals id born).exclusive
  · rw [lifecycle.unborn id (not_lt.mp born)]
    simp [Proposal.zero]

theorem Lifecycle.born_of_executed {quorum : U256} {votingPeriod : U64} {w : World}
    (lifecycle : Lifecycle quorum votingPeriod w) {id : U256}
    (executed : (w.governance.proposals id).executed = true) :
    id.toNat < w.governance.proposalCount.toNat := by
  by_contra unborn
  rw [lifecycle.unborn id (not_lt.mp unborn)] at executed
  exact absurd executed (by decide)

theorem castVote_time {self caller : ContractAddress} {id : U256} {support : Bool} {w : World}
    (ends : ((castVote self caller id support).run w).MayEnd) :
    w.block.timestamp.toNat ≤ (w.governance.proposals id).endTime.toNat := by
  obtain ⟨_, ends⟩ := Program.MayEnd.of_require ends
  exact (Program.MayEnd.of_require ends).1.2

theorem executeProposal_time {id : U256} {w : World}
    (ends : ((executeProposal id).run w).MayEnd) :
    (w.governance.proposals id).endTime.toNat < w.block.timestamp.toNat := by
  obtain ⟨_, ends⟩ := Program.MayEnd.of_require ends
  exact (Program.MayEnd.of_require ends).1

/-- The flags exclude each other, decisions are justified by the final tallies and the time, what a
proposal was created with stays, and voting and execution are never possible together. -/
theorem governance_lifecycle (self token rewardDistributor : ContractAddress) (quorum : U256)
    (votingPeriod : U64) (block : Block) (clock : 0 < block.timestamp.toNat)
    {config : Config World Call Reply}
    (reaches : (governanceUnentered self).Reaches
      (.initial ⟨constructor token rewardDistributor quorum votingPeriod, block⟩) config) :
    (∀ id, ¬ ((config.now.state.governance.proposals id).executed = true ∧
      (config.now.state.governance.proposals id).canceled = true)) ∧
    (∀ id, id.toNat < config.now.state.governance.proposalCount.toNat →
      (config.now.state.governance.proposals id).id = id ∧
      (config.now.state.governance.proposals id).endTime.toNat =
        (config.now.state.governance.proposals id).startTime.toNat + votingPeriod.toNat) ∧
    (∀ id, (config.now.state.governance.proposals id).executed = true →
      (config.now.state.governance.proposals id).againstVotes.toNat <
        (config.now.state.governance.proposals id).forVotes.toNat ∧
      quorum.toNat ≤ (config.now.state.governance.proposals id).forVotes.toNat +
        (config.now.state.governance.proposals id).againstVotes.toNat ∧
      (config.now.state.governance.proposals id).endTime.toNat <
        config.now.state.block.timestamp.toNat) ∧
    (∀ crossing ∈ config.now.history, Later crossing.state config.now.state) ∧
    (config.stack = [] → ∀ later, (governanceUnentered self).Reaches config later →
      Later config.now.state later.now.state) ∧
    (∀ (w : World) (caller : ContractAddress) (id : U256) (support : Bool),
      ¬ (((castVote self caller id support).run w).MayEnd ∧
        ((executeProposal id).run w).MayEnd)) := by
  have certified : Certified (governanceUnentered self)
      (Kept (Lifecycle quorum votingPeriod) Later) Eq Later := governance_keepsLifecycle self
  have kept := certified.invariant rfl
    (Kept.start (constructor_lifecycle token rewardDistributor quorum votingPeriod block clock))
    reaches
  refine ⟨kept.here.exclusive, ?_, ?_, kept.past, ?_, ?_⟩
  · intro id born
    have wellFormed := kept.here.proposals id born
    exact ⟨wellFormed.id_eq, wellFormed.period⟩
  · intro id executed
    have wellFormed := kept.here.proposals id (kept.here.born_of_executed executed)
    exact ⟨wellFormed.majority executed, wellFormed.quorum executed, wellFormed.ended executed⟩
  · intro idle later reachesLater
    exact certified.always idle kept reachesLater
  · rintro w caller id support ⟨votes, executes⟩
    exact absurd (executeProposal_time executes) (not_lt.mpr (castVote_time votes))

theorem governance_lifecycle_executed : ∃ config : Config World Call Reply, config.stack = [] ∧
    (config.now.state.governance.proposals 0).executed = true ∧
    (10 : U256).toNat ≤ (config.now.state.governance.proposals 0).forVotes.toNat +
      (config.now.state.governance.proposals 0).againstVotes.toNat := by
  -- user 7 proposes, votes in time and executes the proposal after its end
  have voted := ((((((governanceUnentered 1).start ⟨constructor 2 3 10 100, ⟨1⟩⟩).enter
    ⟨7, 1, .governance (.propose 0)⟩ rfl rfl 1 rfl).reply (.u256 50) 1 rfl).reply .unit 1 rfl).enter
    ⟨7, 1, .governance (.castVote 0 true)⟩ rfl rfl 1 rfl).reply (.u256 50) 1 rfl
  have run := ((voted.reply .unit 1 rfl).tick ⟨_, ⟨102⟩⟩ ⟨rfl, by decide⟩).enter
    ⟨8, 1, .governance (.executeProposal 0)⟩ rfl rfl 1 rfl
  exact ⟨_, rfl, rfl, ((governance_lifecycle 1 2 3 10 100 ⟨1⟩ (by decide) run).2.2.1 0 rfl).2.1⟩

end Kanaka.Proof.Governance
