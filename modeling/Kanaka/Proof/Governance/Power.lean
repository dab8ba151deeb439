import Kanaka.Contracts.Governance
import Kanaka.Contracts.Network
import Kanaka.Machine.Simulate
import Kanaka.Proof.Token
import Mathlib.Algebra.Order.BigOperators.Group.Finset

namespace Kanaka.Proof.Governance.Power
open Machine Contracts Contracts.Governance

structure World where
  governance : State
  block : Block
  ledger : Ledger

instance : Has State World where
  get := World.governance
  set governance w := { w with governance }
  get_set _ _ := rfl
  set_set _ _ _ := rfl

instance : Has Block World where
  get := World.block
  set block w := { w with block }
  get_set _ _ := rfl
  set_set _ _ _ := rfl

instance : Has Ledger World where
  get := World.ledger
  set ledger w := { w with ledger }
  get_set _ _ := rfl
  set_set _ _ _ := rfl

@[simp] theorem World.get_governance (w : World) : (Has.get w : State) = w.governance := rfl

@[simp] theorem World.set_governance (s : State) (w : World) :
    (Has.set s w : World) = ⟨s, w.block, w.ledger⟩ := rfl

def token : Server World := fun _ message =>
  match message with
  | .erc20 (.balanceOf account) => do return .u256 ((← Code.load Ledger) account)
  | _ => Code.revert "ENTRYPOINT_NOT_FOUND"

/-- `Governance` at `self` and its token at `tokenAddress`. The environment transfers tokens whenever
it has control, and may make the calls that `allowed` admits, at any depth. -/
abbrev voting (self tokenAddress : ContractAddress) (allowed : Call → World → Prop) :
    System World Call Reply where
  code := deployed [(self, entry self), (tokenAddress, token)]
  enters _ := allowed
  drift w w' := w'.governance = w.governance ∧ w'.block = w.block ∧
    ∃ source target amount, w.ledger.move source target amount = some w'.ledger
  tick w w' := w'.governance = w.governance ∧ w'.ledger = w.ledger

def counted (w : World) (id : U256) : Nat :=
  (w.governance.proposals id).forVotes.toNat + (w.governance.proposals id).againstVotes.toNat

/-- The addresses that have voted on `id` still hold as much as was counted. -/
def Backed (w : World) (id : U256) : Prop :=
  counted w id ≤ ∑ voter with (w.governance.votes (id, voter)).votes ≠ 0, (w.ledger voter).toNat

theorem Backed.of_uncounted {w : World} {id : U256} (none : counted w id = 0) : Backed w id := by
  rw [Backed, none]
  exact Nat.zero_le _

/-- Calls of `cast_vote` are made only while the earlier votes are backed. -/
def VotesBacked (self : ContractAddress) (call : Call) (w : World) : Prop :=
  call.target = self → ∀ id support, call.message = .governance (.castVote id support) →
    Backed w id

structure Bounded (tokenAddress : ContractAddress) (total : Nat) (w : World) : Prop where
  token : w.governance.token = tokenAddress
  supply : w.ledger.supply = total
  power : ∀ id, counted w id ≤ total

theorem Backed.vote {w : World} {id : U256} {voter : ContractAddress} (backed : Backed w id)
    (fresh : (w.governance.votes (id, voter)).votes = 0) :
    counted w id + (w.ledger voter).toNat ≤ w.ledger.supply := by
  have apart : voter ∉ Finset.univ.filter
      fun other => (w.governance.votes (id, other)).votes ≠ 0 := by
    simp [fresh]
  calc counted w id + (w.ledger voter).toNat
      ≤ ∑ other with (w.governance.votes (id, other)).votes ≠ 0, (w.ledger other).toNat +
          (w.ledger voter).toNat := Nat.add_le_add_right backed _
    _ = ∑ other ∈ insert voter (Finset.univ.filter
          fun other => (w.governance.votes (id, other)).votes ≠ 0), (w.ledger other).toNat := by
        rw [Finset.sum_insert apart, Nat.add_comm]
    _ ≤ w.ledger.supply := Finset.sum_le_sum_of_subset (Finset.subset_univ _)

theorem Bounded.writeProposals {tokenAddress : ContractAddress} {total : Nat} {w : World}
    (bounded : Bounded tokenAddress total w) {id : U256} {proposal : Proposal}
    (power : proposal.forVotes.toNat + proposal.againstVotes.toNat ≤ total) :
    Bounded tokenAddress total ⟨w.governance.writeProposals id proposal, w.block, w.ledger⟩ := by
  refine ⟨bounded.token, bounded.supply, ?_⟩
  intro other
  by_cases same : other = id
  · simpa only [counted, same, State.writeProposals_proposals, Function.update_self] using power
  · simpa only [counted, State.writeProposals_proposals, Function.update_of_ne same] using
      bounded.power other

theorem Bounded.congr {tokenAddress : ContractAddress} {total : Nat} {w w' : World}
    (bounded : Bounded tokenAddress total w) (deployment : w'.governance.token = w.governance.token)
    (proposals : w'.governance.proposals = w.governance.proposals)
    (supply : w'.ledger.supply = w.ledger.supply) : Bounded tokenAddress total w' := by
  refine ⟨deployment.trans bounded.token, supply.trans bounded.supply, ?_⟩
  intro id
  simpa only [counted, proposals] using bounded.power id

section Entries
variable (self caller tokenAddress : ContractAddress) {total : Nat}

abbrev KeepsBound (total : Nat) {α : Type} (w : World) (code : Entry World α)
    (history : List (Crossing World Call Reply)) : Prop :=
  Safe (voting self tokenAddress (VotesBacked self))
    (fun now => Bounded tokenAddress total now.state) (fun _ _ => True)
    (fun _ next => Bounded tokenAddress total next.state ∧ True) (code.run w) history

theorem keepsBound_tokenBalance {w : World} {account : ContractAddress}
    {Q : U256 → Snapshot World Call Reply → Prop} {history : List (Crossing World Call Reply)}
    (deployment : w.governance.token = tokenAddress) (post : Q (w.ledger account) ⟨w, history⟩) :
    Safe (voting self tokenAddress (VotesBacked self))
      (fun now => Bounded tokenAddress total now.state) (fun _ _ => True) Q
      ((tokenBalance self account).run w) history := by
  apply safe_tokenBalance
  rw [World.get_governance, deployment]
  by_cases same : tokenAddress = self
  · have found : (voting self tokenAddress (VotesBacked self)).code
        ⟨self, tokenAddress, .erc20 (.balanceOf account)⟩ =
          some (entry self self (.erc20 (.balanceOf account))) := by
      simp [same]
    apply Safe.sendIn found
    rw [entry_foreign self self (by simp)]
    exact .panic
  · have found : (voting self tokenAddress (VotesBacked self)).code
        ⟨self, tokenAddress, .erc20 (.balanceOf account)⟩ =
          some (token self (.erc20 (.balanceOf account))) := by
      simp [same]
    apply Safe.sendIn found
    apply Safe.done
    intro balance answered
    cases answered
    exact post

theorem keepsBound_distributeReward {w : World} {user : ContractAddress} {amount : U256}
    {Q : Snapshot World Call Reply → Prop} {history : List (Crossing World Call Reply)}
    (bounded : Bounded tokenAddress total w)
    (post : ∀ now : Snapshot World Call Reply, Bounded tokenAddress total now.state → Q now) :
    Safe (voting self tokenAddress (VotesBacked self))
      (fun now => Bounded tokenAddress total now.state) (fun _ _ => True) (fun _ => Q)
      ((distributeReward self user amount).run w) history := by
  apply safe_distributeReward
  have foreign : ∀ m, Message.rewardDistributor (.distributeReward user amount) ≠ .governance m := by
    simp
  apply Safe.send _ bounded
  · intro _ now nowBounded _
    exact post now nowBounded
  · intro body found
    apply deployed_unserved _ body found
    intro server member
    rcases List.mem_pair.mp member with rfl | rfl
    · exact ⟨_, entry_foreign self self foreign⟩
    · exact ⟨_, rfl⟩

theorem propose_keepsBound (description : Felt252) (w : World)
    (history : List (Crossing World Call Reply)) (bounded : Bounded tokenAddress total w) :
    KeepsBound self tokenAddress total w (propose self caller description) history := by
  apply safe_propose
  apply keepsBound_tokenBalance self tokenAddress bounded.token
  intro _ endTime nextCount _ _
  apply keepsBound_distributeReward
  · exact (bounded.writeProposals (by simp)).congr rfl rfl rfl
  · intro rewarded rewardedBounded
    exact ⟨rewardedBounded.congr rfl rfl rfl, trivial⟩

theorem castVote_keepsBound (id : U256) (support : Bool) (w : World)
    (history : List (Crossing World Call Reply)) (bounded : Bounded tokenAddress total w)
    (backed : Backed w id) :
    KeepsBound self tokenAddress total w (castVote self caller id support) history := by
  apply safe_castVote
  intro _ _ _ _
  apply keepsBound_tokenBalance self tokenAddress bounded.token
  intro _ fresh proposal _ raised others
  simp only [World.get_governance, World.set_governance] at fresh raised others ⊢
  have power : proposal.forVotes.toNat + proposal.againstVotes.toNat ≤ total := by
    have sum : proposal.forVotes.toNat + proposal.againstVotes.toNat =
        counted w id + (w.ledger caller).toNat := by
      cases support with
      | true =>
          simp only [tally, Bool.not_true, if_true, Bool.false_eq_true, if_false] at raised others
          rw [others, counted]
          omega
      | false =>
          simp only [tally, Bool.not_false, if_true, Bool.false_eq_true, if_false] at raised others
          rw [others, counted]
          omega
    rw [sum, ← bounded.supply]
    exact backed.vote fresh
  have voted : Bounded tokenAddress total
      ⟨w.governance.writeVotes (id, caller) ⟨support, w.ledger caller⟩, w.block, w.ledger⟩ :=
    bounded.congr rfl rfl rfl
  apply keepsBound_distributeReward self tokenAddress (voted.writeProposals power)
  intro rewarded rewardedBounded
  exact ⟨rewardedBounded.congr rfl rfl rfl, trivial⟩

theorem executeProposal_keepsBound (id : U256) (w : World)
    (history : List (Crossing World Call Reply)) (bounded : Bounded tokenAddress total w) :
    KeepsBound self tokenAddress total w (executeProposal id) history := by
  apply safe_executeProposal
  intro _ _ _ _ _
  have executed : Bounded tokenAddress total ⟨w.governance.writeProposals id
      { w.governance.proposals id with executed := true }, w.block, w.ledger⟩ :=
    bounded.writeProposals (bounded.power id)
  exact ⟨executed.congr rfl rfl rfl, trivial⟩

theorem cancelProposal_keepsBound (id : U256) (w : World)
    (history : List (Crossing World Call Reply)) (bounded : Bounded tokenAddress total w) :
    KeepsBound self tokenAddress total w (cancelProposal caller id) history := by
  apply safe_cancelProposal
  intro _ _ _ _
  have canceled : Bounded tokenAddress total ⟨w.governance.writeProposals id
      { w.governance.proposals id with canceled := true }, w.block, w.ledger⟩ :=
    bounded.writeProposals (bounded.power id)
  exact ⟨canceled.congr rfl rfl rfl, trivial⟩

theorem voting_keepsBound :
    Certified (voting self tokenAddress (VotesBacked self))
      (fun now => Bounded tokenAddress total now.state) (fun _ _ => True) (fun _ _ => True) where
  rely_refl _ := trivial
  rely_trans _ _ := trivial
  guarantee_trans _ _ := trivial
  resumed _ bounded := bounded
  enter {depth request body now} backed found bounded := by
    simp only [deployed_cons, deployed_nil] at found
    split at found
    · rename_i here
      cases found
      exact safe_entry self request.sender request.message ⟨bounded, trivial⟩
        (fun description _ => propose_keepsBound self _ _ description _ _ bounded)
        (fun id support eq => castVote_keepsBound self _ _ id support _ _ bounded
          (backed here id support eq))
        (fun id _ => executeProposal_keepsBound self _ id _ _ bounded)
        (fun id _ => cancelProposal_keepsBound self _ _ id _ _ bounded)
    · split at found
      · cases found
        unfold token
        split
        · exact .done ⟨bounded, trivial⟩
        · exact .panic
      · contradiction
  nested _ _ := trivial
  drift {now w} bounded moves := by
    obtain ⟨same, _, source, target, amount, moved⟩ := moves
    have kept : Bounded tokenAddress total w :=
      bounded.congr (by rw [same]) (by rw [same]) (Ledger.supply_move moved)
    exact ⟨kept, trivial, trivial⟩
  tick bounded moves :=
    ⟨bounded.congr (by rw [moves.1]) (by rw [moves.1]) (by rw [moves.2]), trivial⟩

end Entries

/-- While votes are cast only as long as the earlier ones are backed, no token counts twice. -/
theorem voting_power_bounded (self tokenAddress rewardDistributor : ContractAddress) (quorum : U256)
    (votingPeriod : U64) (block : Block) (ledger : Ledger) {config : Config World Call Reply}
    (reaches : (voting self tokenAddress (VotesBacked self)).Reaches
      (.initial ⟨constructor tokenAddress rewardDistributor quorum votingPeriod, block, ledger⟩)
      config) (id : U256) :
    (config.now.state.governance.proposals id).forVotes.toNat +
      (config.now.state.governance.proposals id).againstVotes.toNat ≤
        ∑ account, (ledger account).toNat := by
  have start : Bounded tokenAddress ledger.supply
      ⟨constructor tokenAddress rewardDistributor quorum votingPeriod, block, ledger⟩ := by
    refine ⟨rfl, rfl, ?_⟩
    intro id
    simp [counted, constructor, Proposal.zero]
  exact ((voting_keepsBound self tokenAddress).invariant rfl start reaches).power id

def oneHolder : Ledger := Function.update (fun _ => 0) 7 100

theorem oneHolder_supply : oneHolder.supply = 100 := by
  have others : ∀ account ∈ Finset.univ, account ≠ 7 → (oneHolder account).toNat = 0 := by
    intro account _ ne
    rw [oneHolder, Function.update_of_ne ne, U256.toNat_zero]
  rw [Ledger.supply, Finset.sum_eq_single 7 others (by simp), oneHolder, Function.update_self]
  rfl

theorem voting_power_bounded_vote : ∃ config : Config World Call Reply, config.stack = [] ∧
    (config.now.state.governance.proposals 0).forVotes = 100 ∧
    (config.now.state.governance.proposals 0).forVotes.toNat +
      (config.now.state.governance.proposals 0).againstVotes.toNat ≤
        ∑ account, (oneHolder account).toNat := by
  have proposed := (((voting 1 2 (VotesBacked 1)).start
    ⟨constructor 2 3 10 100, ⟨1⟩, oneHolder⟩).enter
    ⟨7, 1, .governance (.propose 0)⟩ (by simp [VotesBacked]) rfl 2 rfl).reply .unit 1 rfl
  have run := (proposed.enter ⟨7, 1, .governance (.castVote 0 true)⟩
    (by intro _ id support eq; cases eq; exact Backed.of_uncounted rfl) rfl 2 rfl).reply .unit 1 rfl
  exact ⟨_, rfl, rfl, voting_power_bounded 1 2 3 10 100 ⟨1⟩ oneHolder run 0⟩

/-- User 7 votes with all 100 tokens there are, gives them to user 8, and user 8 votes again. -/
theorem voting_power_reused : ∃ config : Config World Call Reply,
    (voting 1 2 fun _ _ => True).Reaches
      (.initial ⟨constructor 2 3 10 100, ⟨1⟩, oneHolder⟩) config ∧
    ∑ account, (oneHolder account).toNat <
      (config.now.state.governance.proposals 0).forVotes.toNat +
        (config.now.state.governance.proposals 0).againstVotes.toNat := by
  have voted := (((((voting 1 2 fun _ _ => True).start
    ⟨constructor 2 3 10 100, ⟨1⟩, oneHolder⟩).enter
    ⟨7, 1, .governance (.propose 0)⟩ trivial rfl 2 rfl).reply .unit 1 rfl).enter
    ⟨7, 1, .governance (.castVote 0 true)⟩ trivial rfl 2 rfl).reply .unit 1 rfl
  have moved := voted.drift
    ⟨_, ⟨1⟩, Function.update (Function.update oneHolder 7 0) 8 100⟩
    ⟨rfl, rfl, 7, 8, 100, Ledger.move_of_eq rfl rfl⟩
  have run := (moved.enter ⟨8, 1, .governance (.castVote 0 true)⟩ trivial rfl 2 rfl).reply .unit 1 rfl
  obtain ⟨config, reaches, forVotes, againstVotes⟩ : ∃ config : Config World Call Reply,
      (voting 1 2 fun _ _ => True).Reaches
        (.initial ⟨constructor 2 3 10 100, ⟨1⟩, oneHolder⟩) config ∧
      (config.now.state.governance.proposals 0).forVotes = 200 ∧
      (config.now.state.governance.proposals 0).againstVotes = 0 := ⟨_, run, rfl, rfl⟩
  refine ⟨config, reaches, ?_⟩
  have supply : ∑ account, (oneHolder account).toNat = 100 := oneHolder_supply
  rw [supply, forVotes, againstVotes]
  decide

end Kanaka.Proof.Governance.Power
