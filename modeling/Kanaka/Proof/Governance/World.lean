import Kanaka.Contracts.Governance
import Kanaka.Contracts.Network
import Kanaka.Machine.Simulate

namespace Kanaka.Proof.Governance
open Machine Contracts Contracts.Governance

structure World where
  governance : State
  block : Block

instance : Has State World where
  get := World.governance
  set governance w := { w with governance }
  get_set _ _ := rfl
  set_set _ _ _ := rfl

instance : Has Block World where
  get := World.block
  set block w := { w with block }
  get_set _ _ := rfl
  set_set _ _ _ := rfl

@[simp] theorem World.get_governance (w : World) : (Has.get w : State) = w.governance := rfl

@[simp] theorem World.get_block (w : World) : (Has.get w : Block) = w.block := rfl

@[simp] theorem World.set_governance (s : State) (w : World) :
    (Has.set s w : World) = ⟨s, w.block⟩ := rfl

theorem unserved (self : ContractAddress) {sender target : ContractAddress} {message : Message}
    {w : World} (foreign : ∀ m, message ≠ .governance m) (body : Entry World Reply)
    (found : deployed [(self, entry self)] ⟨sender, target, message⟩ = some body) :
    ∃ reason, body.run w = .panic reason :=
  deployed_foreign (entry_foreign self sender foreign) body found

structure Numbered (s : State) (block : Block) : Prop where
  clock : 0 < block.timestamp.toNat
  unborn : ∀ id, s.proposalCount.toNat ≤ id.toNat → s.proposals id = .zero

namespace Numbered
variable {s : State} {block : Block} {id : U256}

theorem born_of_open (numbered : Numbered s block)
    (stillOpen : block.timestamp ≤ (s.proposals id).endTime) :
    id.toNat < s.proposalCount.toNat := by
  -- the voting time of zeros is over in every block
  by_contra unborn
  have clock := numbered.clock
  have zero : Proposal.zero.endTime.toNat = 0 := rfl
  rw [numbered.unborn id (not_lt.mp unborn), BitVec.le_def] at stillOpen
  omega

theorem born_of_majority (numbered : Numbered s block)
    (majority : (s.proposals id).againstVotes < (s.proposals id).forVotes) :
    id.toNat < s.proposalCount.toNat := by
  by_contra unborn
  rw [numbered.unborn id (not_lt.mp unborn)] at majority
  exact absurd majority (by decide)

theorem writeProposals (numbered : Numbered s block) (born : id.toNat < s.proposalCount.toNat)
    (proposal : Proposal) : Numbered (s.writeProposals id proposal) block := by
  refine ⟨numbered.clock, ?_⟩
  intro other unborn
  rw [State.writeProposals_proposalCount] at unborn
  have ne : other ≠ id := by
    rintro rfl
    omega
  rw [State.writeProposals_proposals, Function.update_of_ne ne]
  exact numbered.unborn other unborn

theorem propose (numbered : Numbered s block) (proposal : Proposal) {nextCount : U256}
    (next : nextCount.toNat = s.proposalCount.toNat + (1 : U256).toNat) :
    Numbered ((s.writeProposals s.proposalCount proposal).writeProposalCount nextCount) block := by
  refine ⟨numbered.clock, ?_⟩
  intro other unborn
  have one : (1 : U256).toNat = 1 := rfl
  rw [State.writeProposalCount_proposalCount, next] at unborn
  have ne : other ≠ s.proposalCount := by
    rintro rfl
    omega
  rw [State.writeProposalCount_proposals, State.writeProposals_proposals, Function.update_of_ne ne]
  exact numbered.unborn other (by omega)

theorem congr (numbered : Numbered s block) {s' : State} {block' : Block}
    (clock : 0 < block'.timestamp.toNat) (proposals : s'.proposals = s.proposals)
    (count : s'.proposalCount = s.proposalCount) : Numbered s' block' := by
  refine ⟨clock, ?_⟩
  rw [proposals, count]
  exact numbered.unborn

end Numbered

theorem constructor_numbered (token rewardDistributor : ContractAddress) (quorum : U256)
    (votingPeriod : U64) {block : Block} (clock : 0 < block.timestamp.toNat) :
    Numbered (constructor token rewardDistributor quorum votingPeriod) block :=
  ⟨clock, fun _ _ => rfl⟩

end Kanaka.Proof.Governance
