import Kanaka.Contracts.Interface

/-! # `reward_distributor.cairo` -/

namespace Kanaka.Contracts.RewardDistributor
open Machine Machine.Code

inductive Event where
  | rewardDistributed (user : ContractAddress) (amount : U256) (reason : Felt252)
  | rewardClaimed (user : ContractAddress) (amount : U256)
deriving DecidableEq

structure State where
  rewards : LegacyMap ContractAddress U256
  totalDistributed : U256
  token : ContractAddress
  governance : ContractAddress
  authorizedDistributors : LegacyMap ContractAddress Bool
  events : List Event

def constructor (tokenAddress governanceAddress : ContractAddress) : State where
  rewards := fun _ => 0
  totalDistributed := 0
  token := tokenAddress
  governance := governanceAddress
  authorizedDistributors := Function.update (fun _ => false) governanceAddress true
  events := []

namespace State
variable (s : State)

@[simps -fullyApplied] def writeRewards (key : ContractAddress) (value : U256) : State :=
  { s with rewards := Function.update s.rewards key value }

@[simps -fullyApplied] def writeTotalDistributed (value : U256) : State :=
  { s with totalDistributed := value }

@[simps -fullyApplied] def writeAuthorizedDistributors (key : ContractAddress) (value : Bool) : State :=
  { s with authorizedDistributors := Function.update s.authorizedDistributors key value }

@[simps -fullyApplied] def emit (event : Event) : State :=
  { s with events := s.events ++ [event] }

end State

section
variable {σ : Type} [Has State σ] (self caller : ContractAddress)

/-- `authorize_distributor` and `revoke_distributor` write opposite flags. -/
def setDistributor (authorized : Bool) (distributor : ContractAddress) : Entry σ Unit := do
  let governance := (← load State).governance
  require (caller = governance) "UNAUTHORIZED"
  update (State.writeAuthorizedDistributors · distributor authorized)

def authorizeDistributor (distributor : ContractAddress) : Entry σ Unit :=
  setDistributor caller true distributor

def revokeDistributor (distributor : ContractAddress) : Entry σ Unit :=
  setDistributor caller false distributor

def distributeReward (user : ContractAddress) (amount : U256) : Entry σ Unit := do
  let authorized := (← load State).authorizedDistributors caller
  require authorized "UNAUTHORIZED"
  let currentReward := (← load State).rewards user
  let newReward ← U256.add currentReward amount
  update (State.writeRewards · user newReward)
  let total := (← load State).totalDistributed
  let newTotal ← U256.add total amount
  update (State.writeTotalDistributed · newTotal)
  update (State.emit · (.rewardDistributed user amount 0))

def claimRewards : Entry σ Unit := do
  let amount := (← load State).rewards caller
  require (0 < amount) "NO_REWARDS"
  update (State.writeRewards · caller 0)
  let token := (← load State).token
  let _ ← send ⟨self, token, .erc20 (.transfer caller amount)⟩
  update (State.emit · (.rewardClaimed caller amount))

def entry : Message → Entry σ Reply
  | .rewardDistributor (.authorizeDistributor distributor) => do
      authorizeDistributor caller distributor
      return .unit
  | .rewardDistributor (.revokeDistributor distributor) => do
      revokeDistributor caller distributor
      return .unit
  | .rewardDistributor (.distributeReward user amount) => do
      distributeReward caller user amount
      return .unit
  | .rewardDistributor .claimRewards => do
      claimRewards self caller
      return .unit
  | .rewardDistributor (.getRewards user) => do
      return .u256 ((← load State).rewards user)
  | .rewardDistributor .getTotalDistributed => do
      return .u256 (← load State).totalDistributed
  | .rewardDistributor (.isAuthorizedDistributor distributor) => do
      return .bool ((← load State).authorizedDistributors distributor)
  | _ => revert "ENTRYPOINT_NOT_FOUND"

variable {S : System σ Call Reply} {I : Snapshot σ Call Reply → Prop}
  {R : σ → σ → Prop} {Q : Snapshot σ Call Reply → Prop}
  {state : σ} {history : List (Crossing σ Call Reply)}

theorem safe_setDistributor (authorized : Bool) (distributor : ContractAddress)
    (written : caller = (Has.get state : State).governance →
      Q ⟨Has.set ((Has.get state : State).writeAuthorizedDistributors distributor authorized) state,
        history⟩) :
    Safe S I R (fun _ => Q) ((setDistributor caller authorized distributor).run state) history := by
  apply Safe.load
  apply Safe.require
  intro authority
  exact .done (written authority)

theorem safe_distributeReward (user : ContractAddress) (amount : U256)
    (written : (Has.get state : State).authorizedDistributors caller = true →
      ∀ newReward newTotal : U256,
        newReward.toNat = ((Has.get state : State).rewards user).toNat + amount.toNat →
        newTotal.toNat = (Has.get state : State).totalDistributed.toNat + amount.toNat →
        Q ⟨Has.set ((((Has.get state : State).writeRewards user newReward).writeTotalDistributed
          newTotal).emit (.rewardDistributed user amount 0)) state, history⟩) :
    Safe S I R (fun _ => Q) ((distributeReward caller user amount).run state) history := by
  apply Safe.load
  apply Safe.require
  intro authorized
  apply Safe.load
  apply safe_u256_add
  intro newReward reward_eq
  apply Safe.update
  apply Safe.load
  rw [Has.get_set, State.writeRewards_totalDistributed]
  apply safe_u256_add
  intro newTotal total_eq
  apply Safe.update
  have post := written authorized newReward newTotal reward_eq total_eq
  apply Safe.done
  simp only [Has.get_set, Has.set_set]
  exact post

theorem safe_claimRewards
    (pay : 0 < (Has.get state : State).rewards caller →
      Safe S I R
        (fun _ paid => Q ⟨Has.set ((Has.get paid.state : State).emit
          (.rewardClaimed caller ((Has.get state : State).rewards caller))) paid.state,
          paid.history⟩)
        ((send ⟨self, (Has.get state : State).token,
          .erc20 (.transfer caller ((Has.get state : State).rewards caller))⟩ :
            Entry σ Reply).run
          (Has.set ((Has.get state : State).writeRewards caller 0) state)) history) :
    Safe S I R (fun _ => Q) ((claimRewards self caller).run state) history := by
  apply Safe.load
  apply Safe.require
  intro positive
  apply Safe.update
  apply Safe.load
  rw [Has.get_set, State.writeRewards_token]
  apply Safe.bind
  apply (pay positive).weaken
  intro _ paid post
  exact .done post

theorem safe_entry (message : Message)
    (views : (∀ user amount, message ≠ .rewardDistributor (.distributeReward user amount)) →
      Q ⟨state, history⟩)
    (changes : ∀ authorized distributor,
      (∀ user amount, message ≠ .rewardDistributor (.distributeReward user amount)) →
      Safe S I R (fun _ => Q) ((setDistributor caller authorized distributor).run state) history)
    (rewards : ∀ user amount, message = .rewardDistributor (.distributeReward user amount) →
      Safe S I R (fun _ => Q) ((distributeReward caller user amount).run state) history)
    (claims : (∀ user amount, message ≠ .rewardDistributor (.distributeReward user amount)) →
      Safe S I R (fun _ => Q) ((claimRewards self caller).run state) history) :
    Safe S I R (fun _ => Q) ((entry self caller message).run state) history := by
  unfold entry
  split
  · exact Safe.bind ((changes true _ (by simp)).weaken fun _ _ post => .done post)
  · exact Safe.bind ((changes false _ (by simp)).weaken fun _ _ post => .done post)
  · exact Safe.bind ((rewards _ _ rfl).weaken fun _ _ post => .done post)
  · exact Safe.bind ((claims (by simp)).weaken fun _ _ post => .done post)
  · exact .done (views (by simp))
  · exact .done (views (by simp))
  · exact .done (views (by simp))
  · exact .panic

theorem entry_foreign {message : Message} (foreign : ∀ m, message ≠ .rewardDistributor m) :
    (entry self caller message).run state = .panic "ENTRYPOINT_NOT_FOUND" := by
  unfold entry
  split
  all_goals first | exact absurd rfl (foreign _) | rfl

end

end Kanaka.Contracts.RewardDistributor
