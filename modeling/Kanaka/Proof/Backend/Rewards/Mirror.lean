import Kanaka.Async.Sequence
import Kanaka.Backend.RewardDistributorService
import Kanaka.Proof.RewardDistributor.Conservation
import Mathlib.Algebra.BigOperators.Group.Finset.Piecewise

/-! # The rewards table next to the contract -/

namespace Kanaka.Backend.RewardDistributorService
open Finset Async Contracts

/-! ## Sums of the table -/

def Reward.unclaimed (user : ContractAddress) (reward : Reward) : Int :=
  if reward.user = user ∧ reward.claimed = false then reward.amount else 0

def Reward.collected (user : ContractAddress) (reward : Reward) : Int :=
  if reward.user = user ∧ reward.claimed = true then reward.amount else 0

def unclaimedSum (rewards : Table Reward.id) (user : ContractAddress) : Int :=
  rewards.sum (Reward.unclaimed user)

def claimedSum (rewards : Table Reward.id) (user : ContractAddress) : Int :=
  rewards.sum (Reward.collected user)

section Sums
variable (rewards : Table Reward.id)

theorem Reward.sum_users (reward : Reward) :
    ∑ user, (reward.unclaimed user + reward.collected user) = reward.amount := by
  have own : ∀ user, reward.unclaimed user + reward.collected user =
      if reward.user = user then reward.amount else 0 := by
    intro user
    unfold Reward.unclaimed Reward.collected
    cases reward.claimed <;> simp
  rw [sum_congr rfl fun user _ => own user, sum_ite_eq, if_pos (mem_univ _)]

theorem sum_users : ∑ user, (unclaimedSum rewards user + claimedSum rewards user) =
    rewards.sum (·.amount) := by
  unfold unclaimedSum claimedSum Table.sum
  induction rewards.rows with
  | nil => exact sum_const_zero
  | cons reward rest ih =>
      simp only [List.map_cons, List.sum_cons]
      rw [← ih, ← reward.sum_users, ← sum_add_distrib]
      exact sum_congr rfl fun _ _ => by omega

theorem foldl_amount (rows : List Reward) (start : Int) :
    rows.foldl (fun sum reward => sum + reward.amount) start = start + (rows.map (·.amount)).sum := by
  induction rows generalizing start with
  | nil => simp
  | cons reward rest ih => simp [ih, Int.add_assoc]

theorem totalUnclaimed_filter (user : ContractAddress) (includeHistory : Bool) :
    totalUnclaimed (rewards.rows.filter fun reward =>
      reward.user = user && (includeHistory || !reward.claimed)).reverse =
      unclaimedSum rewards user := by
  rw [totalUnclaimed, foldl_amount, Int.zero_add, List.filter_reverse, List.map_reverse,
    List.sum_reverse, List.filter_filter, unclaimedSum, Table.sum]
  induction rewards.rows with
  | nil => rfl
  | cons reward rest ih =>
      rw [List.map_cons, List.sum_cons, ← ih, List.filter_cons]
      cases includeHistory <;> cases marked : reward.claimed <;>
        by_cases same : reward.user = user <;> simp [Reward.unclaimed, marked, same]

end Sums

/-! ## What a handler does to the table -/

theorem sum_updateClaimed (rewards : Table Reward.id) (user : ContractAddress) (f : Reward → Int) :
    (Service.updateClaimed rewards user).sum f =
      rewards.sum (fun reward => if reward.user = user ∧ reward.claimed = false then
        f { reward with claimed := true } else f reward) := by
  simp only [Table.sum, Service.updateClaimed, Table.change, List.map_map]
  congr 1
  apply List.map_congr_left
  intro reward _
  simp only [Function.comp_apply]
  split <;> rfl

theorem complete_distributed (store : Store) (user : ContractAddress) (amount : U256)
    (reason : Felt252) : service.complete store (.rewardDistributed user amount reason) =
      { store with rewards :=
        Service.saveReward store.rewards ⟨0, user, amount.toNat, idText reason, false⟩ } := rfl

theorem complete_claimed (store : Store) (user : ContractAddress) :
    service.complete store (.rewardClaimed user) =
      { store with rewards := Service.updateClaimed store.rewards user } := rfl

theorem run_getUserRewards (store : Store) (user : ContractAddress) (includeHistory : Bool) :
    ∃ answer, (getUserRewards user includeHistory).run service.answer store = (.ok answer, store) ∧
      answer.totalUnclaimed = unclaimedSum store.rewards user :=
  ⟨_, rfl, totalUnclaimed_filter store.rewards user includeHistory⟩

/-! ## The events of the contract -/

def delivered : RewardDistributor.Event → Call
  | .rewardDistributed user amount reason => .rewardDistributed user amount reason
  | .rewardClaimed user _ => .rewardClaimed user

def mirror (onChain : ContractAddress → Int) (events : List RewardDistributor.Event) : Store :=
  service.completeAll ⟨.empty, onChain⟩ (events.map delivered)

def distributed (user : ContractAddress) : RewardDistributor.Event → Nat
  | .rewardDistributed u amount _ => if u = user then amount.toNat else 0
  | .rewardClaimed _ _ => 0

def withdrawn (user : ContractAddress) : RewardDistributor.Event → Nat
  | .rewardDistributed _ _ _ => 0
  | .rewardClaimed u amount => if u = user then amount.toNat else 0

def given (s : RewardDistributor.State) (user : ContractAddress) : Nat :=
  (s.events.map (distributed user)).sum

def taken (s : RewardDistributor.State) (user : ContractAddress) : Nat :=
  (s.events.map (withdrawn user)).sum

@[simp] theorem given_emit (s : RewardDistributor.State) (event : RewardDistributor.Event)
    (user : ContractAddress) : given (s.emit event) user = given s user + distributed user event := by
  simp [given]

@[simp] theorem taken_emit (s : RewardDistributor.State) (event : RewardDistributor.Event)
    (user : ContractAddress) : taken (s.emit event) user = taken s user + withdrawn user event := by
  simp [taken]

@[simp] theorem given_writeRewards (s : RewardDistributor.State) (user someone : ContractAddress)
    (value : U256) : given (s.writeRewards user value) someone = given s someone := rfl

@[simp] theorem taken_writeRewards (s : RewardDistributor.State) (user someone : ContractAddress)
    (value : U256) : taken (s.writeRewards user value) someone = taken s someone := rfl

section Mirror
variable (onChain : ContractAddress → Int) (past : List RewardDistributor.Event)

theorem mirror_concat (event : RewardDistributor.Event) : mirror onChain (past ++ [event]) =
    service.complete (mirror onChain past) (delivered event) := by
  simp [mirror]

theorem mirror_claimed (user : ContractAddress) (amount : U256) :
    (mirror onChain (past ++ [.rewardClaimed user amount])).rewards =
      Service.updateClaimed (mirror onChain past).rewards user := by
  rw [mirror_concat, delivered, complete_claimed]

theorem saveReward_new {rewards : Table Reward.id} (numbered : ∀ row ∈ rewards.rows, 0 < row.id)
    (user : ContractAddress) (amount : Int) (reason : String) :
    (Service.saveReward rewards ⟨0, user, amount, reason, false⟩).rows =
      rewards.rows ++ [⟨rewards.serial, user, amount, reason, false⟩] := by
  have absent : rewards.find 0 = none := by
    rw [Table.find_eq_none_iff]
    intro member
    obtain ⟨row, stands, zero⟩ := List.mem_map.mp member
    exact absurd (numbered row stands) (by omega)
  simp only [Service.saveReward, absent, Table.insert_rows]

theorem mirror_numbered : ∀ row ∈ (mirror onChain past).rewards.rows, 0 < row.id := by
  induction past using List.reverseRecOn with
  | nil => simp [mirror]
  | append_singleton past event ih =>
      intro row member
      cases event with
      | rewardDistributed user amount reason =>
          rw [mirror_concat, delivered, complete_distributed, saveReward_new ih] at member
          rcases List.mem_append.mp member with member | last
          · exact ih row member
          · rw [List.mem_singleton.mp last]
            exact Nat.succ_pos _
      | rewardClaimed user amount =>
          rw [mirror_claimed] at member
          obtain ⟨before, stands, rfl⟩ := List.mem_map.mp member
          split <;> exact ih before stands

theorem mirror_distributed (user : ContractAddress) (amount : U256) (reason : Felt252)
    (f : Reward → Int) : (mirror onChain (past ++ [.rewardDistributed user amount reason])).rewards.sum f =
      (mirror onChain past).rewards.sum f +
        f ⟨(mirror onChain past).rewards.serial, user, amount.toNat, idText reason, false⟩ := by
  rw [mirror_concat, delivered, complete_distributed, Table.sum,
    saveReward_new (mirror_numbered onChain past)]
  simp [Table.sum]

theorem unclaimedSum_distributed (user someone : ContractAddress) (amount : U256) (reason : Felt252) :
    unclaimedSum (mirror onChain (past ++ [.rewardDistributed user amount reason])).rewards someone =
      unclaimedSum (mirror onChain past).rewards someone + if user = someone then amount.toNat else 0 := by
  rw [unclaimedSum, mirror_distributed]
  simp [unclaimedSum, Reward.unclaimed]

theorem claimedSum_distributed (user someone : ContractAddress) (amount : U256) (reason : Felt252) :
    claimedSum (mirror onChain (past ++ [.rewardDistributed user amount reason])).rewards someone =
      claimedSum (mirror onChain past).rewards someone := by
  rw [claimedSum, mirror_distributed]
  simp [claimedSum, Reward.collected]

end Mirror

section Claimed
variable (rewards : Table Reward.id) (user someone : ContractAddress)

theorem unclaimedSum_claimed : unclaimedSum (Service.updateClaimed rewards user) someone =
    if user = someone then 0 else unclaimedSum rewards someone := by
  rw [unclaimedSum, sum_updateClaimed]
  split
  · rename_i same
    subst same
    have none : ∀ reward ∈ rewards.rows, (if reward.user = user ∧ reward.claimed = false then
        Reward.unclaimed user { reward with claimed := true } else reward.unclaimed user) = 0 := by
      intro reward _
      unfold Reward.unclaimed
      split <;> simp_all
    rw [Table.sum, List.map_congr_left none]
    simp
  · rename_i other
    rw [unclaimedSum, Table.sum, Table.sum]
    congr 1
    apply List.map_congr_left
    intro reward _
    unfold Reward.unclaimed
    split <;> simp_all

theorem claimedSum_claimed : claimedSum (Service.updateClaimed rewards user) someone =
    claimedSum rewards someone + if user = someone then unclaimedSum rewards someone else 0 := by
  have own : ∀ reward : Reward, (if reward.user = user ∧ reward.claimed = false then
      Reward.collected someone { reward with claimed := true } else reward.collected someone) =
        reward.collected someone + if user = someone then reward.unclaimed someone else 0 := by
    intro reward
    unfold Reward.collected Reward.unclaimed
    cases reward.claimed with
    | true => simp
    | false =>
        by_cases same : user = someone
        · subst same
          by_cases mine : reward.user = user <;> simp [mine]
        · by_cases mine : reward.user = user <;> simp [mine, same]
  rw [claimedSum, sum_updateClaimed]
  unfold claimedSum unclaimedSum Table.sum
  rw [List.map_congr_left fun reward _ => own reward]
  induction rewards.rows with
  | nil => simp
  | cons reward rest ih =>
      simp only [List.map_cons, List.sum_cons, ih]
      split <;> omega

end Claimed

/-! ## Next to the contract -/

section Contract
open Machine Proof.RewardDistributor

/-- Nothing has left the user's reward without being announced: no claim of the user waits for the
token. -/
def Settled (s : RewardDistributor.State) (user : ContractAddress) : Prop :=
  given s user = taken s user + (s.rewards user).toNat

/-- No reward is distributed to a user whose claim waits. -/
def Undisturbed (self : ContractAddress) (call : Contracts.Call) (s : RewardDistributor.State) : Prop :=
  call.target = self → s.authorizedDistributors call.sender = true →
    ∀ user amount, call.message = .rewardDistributor (.distributeReward user amount) → Settled s user

abbrev undisturbed (self : ContractAddress) :
    System RewardDistributor.State Contracts.Call Contracts.Reply :=
  { rewardDistributorAlone self with enters := fun _ => Undisturbed self }

theorem undisturbed_below (self : ContractAddress) :
    (undisturbed self).Below (rewardDistributorAlone self) :=
  ⟨rfl, fun _ => trivial, id, id⟩

structure Mirrored (now : Snapshot RewardDistributor.State Contracts.Call Contracts.Reply) : Prop where
  unclaimed : ∀ onChain user, unclaimedSum (mirror onChain now.state.events).rewards user =
    given now.state user - taken now.state user
  claimed : ∀ onChain user,
    claimedSum (mirror onChain now.state.events).rewards user = taken now.state user
  waiting : ∀ user, ¬ Settled now.state user → now.state.rewards user = 0
  credited : ∀ user, given now.state user = credited now.history user

/-- While a claim of the user waits, others leave the user alone. -/
structure Settles (before after : RewardDistributor.State) : Prop where
  still : ∀ user, ¬ Settled before user → given after user = given before user ∧
    taken after user = taken before user ∧ after.rewards user = before.rewards user
  settled : ∀ user, Settled before user → Settled after user

theorem Settles.refl (s : RewardDistributor.State) : Settles s s :=
  ⟨fun _ _ => ⟨rfl, rfl, rfl⟩, fun _ settled => settled⟩

theorem Settles.unsettled {a b : RewardDistributor.State} (settles : Settles a b)
    {user : ContractAddress} (waits : ¬ Settled a user) : ¬ Settled b user := by
  obtain ⟨same, same', same''⟩ := settles.still user waits
  rw [Settled, same, same', same'']
  exact waits

theorem Settles.trans {a b c : RewardDistributor.State} (first : Settles a b) (second : Settles b c) :
    Settles a c := by
  constructor
  · intro user waits
    obtain ⟨same, same', same''⟩ := first.still user waits
    obtain ⟨next, next', next''⟩ := second.still user (first.unsettled waits)
    exact ⟨next.trans same, next'.trans same', next''.trans same''⟩
  · intro user settled
    exact second.settled user (first.settled user settled)

theorem Settles.congr {a b : RewardDistributor.State} (events : b.events = a.events)
    (rewards : b.rewards = a.rewards) : Settles a b := by
  have same : ∀ user, given b user = given a user ∧ taken b user = taken a user ∧
      b.rewards user = a.rewards user := by simp [given, taken, events, rewards]
  refine ⟨fun user _ => same user, fun user settled => ?_⟩
  obtain ⟨givenSame, takenSame, rewardSame⟩ := same user
  rw [Settled, givenSame, takenSame, rewardSame]
  exact settled

theorem writeRewards_apply (s : RewardDistributor.State) (user someone : ContractAddress)
    (value : U256) : (s.writeRewards user value).rewards someone =
      if user = someone then value else s.rewards someone := by
  simp [Function.update_apply, eq_comm]

section Distribution
variable {s after : RewardDistributor.State} {user : ContractAddress} {amount newReward newTotal : U256}
  (after_eq : ((s.writeRewards user newReward).writeTotalDistributed newTotal).emit
    (.rewardDistributed user amount 0) = after) (someone : ContractAddress)
include after_eq

theorem given_distribution :
    given after someone = given s someone + if user = someone then amount.toNat else 0 := by
  rw [← after_eq, given_emit]
  rfl

theorem taken_distribution : taken after someone = taken s someone := by
  rw [← after_eq, taken_emit]
  rfl

theorem rewards_distribution :
    after.rewards someone = if user = someone then newReward else s.rewards someone := by
  rw [← after_eq, ← writeRewards_apply]
  rfl

theorem settled_distribution (reward_eq : newReward.toNat = (s.rewards user).toNat + amount.toNat) :
    Settled after someone ↔ Settled s someone := by
  rw [Settled, Settled, given_distribution after_eq, taken_distribution after_eq,
    rewards_distribution after_eq]
  split
  · rename_i same
    rw [← same, reward_eq]
    omega
  · rfl

end Distribution

theorem settled_announce {s : RewardDistributor.State} {user someone : ContractAddress} {amount : U256}
    (owed : given s user = taken s user + amount.toNat) (none : s.rewards user = 0) :
    Settled (s.emit (.rewardClaimed user amount)) someone ↔ user = someone ∨ Settled s someone := by
  simp only [Settled, given_emit, taken_emit, distributed, withdrawn, RewardDistributor.State.emit_rewards]
  by_cases same : user = someone
  · subst same
    simp [owed, none]
  · simp [same]

section Mirrored
variable {now : Snapshot RewardDistributor.State Contracts.Call Contracts.Reply}
  (mirrored : Mirrored now)
include mirrored

theorem Mirrored.append (crossing : Crossing RewardDistributor.State Contracts.Call Contracts.Reply)
    (credit : ∀ user, credits user crossing = 0) : Mirrored ⟨now.state, now.history ++ [crossing]⟩ :=
  { mirrored with
    credited := fun user => by rw [credited_append, credit, mirrored.credited user, Nat.add_zero] }

theorem Mirrored.congr {state : RewardDistributor.State} (events : state.events = now.state.events)
    (rewards : state.rewards = now.state.rewards) : Mirrored ⟨state, now.history⟩ := by
  constructor
  · simpa [events, given, taken] using mirrored.unclaimed
  · simpa [events, taken] using mirrored.claimed
  · simpa [events, rewards, Settled, given, taken] using mirrored.waiting
  · simpa [events, given] using mirrored.credited

theorem Mirrored.announce {user : ContractAddress} {amount : U256}
    (owed : given now.state user = taken now.state user + amount.toNat)
    (none : now.state.rewards user = 0) :
    Mirrored ⟨now.state.emit (.rewardClaimed user amount), now.history⟩ := by
  refine ⟨?_, ?_, ?_, fun someone => (given_emit ..).trans (mirrored.credited someone)⟩
  · intro onChain someone
    simp only [given_emit, taken_emit, distributed, withdrawn, RewardDistributor.State.emit_events, mirror_claimed,
      unclaimedSum_claimed, mirrored.unclaimed]
    split
    · rename_i same
      subst same
      omega
    · omega
  · intro onChain someone
    simp only [taken_emit, withdrawn, RewardDistributor.State.emit_events, mirror_claimed, claimedSum_claimed,
      mirrored.claimed, mirrored.unclaimed]
    split
    · rename_i same
      subst same
      omega
    · omega
  · intro someone waits
    rw [settled_announce owed none, not_or] at waits
    exact mirrored.waiting someone waits.2

end Mirrored

variable (self caller : ContractAddress)

abbrev KeepsMirror {α : Type} (s : RewardDistributor.State) (code : Entry RewardDistributor.State α)
    (history : List (Crossing RewardDistributor.State Contracts.Call Contracts.Reply)) : Prop :=
  Safe (undisturbed self) Mirrored Settles (fun _ next => Mirrored next ∧ Settles s next.state)
    (code.run s) history

theorem setDistributor_keepsMirror (authorized : Bool) (distributor : ContractAddress)
    (now : Snapshot RewardDistributor.State Contracts.Call Contracts.Reply) (mirrored : Mirrored now) :
    KeepsMirror self now.state (RewardDistributor.setDistributor caller authorized distributor)
      now.history := by
  apply RewardDistributor.safe_setDistributor
  intro _
  exact ⟨mirrored.congr rfl rfl, .congr rfl rfl⟩

theorem distributeReward_keepsMirror (target user : ContractAddress) (amount : U256)
    (now : Snapshot RewardDistributor.State Contracts.Call Contracts.Reply) (mirrored : Mirrored now)
    (undisturbed : now.state.authorizedDistributors caller = true → Settled now.state user) :
    KeepsMirror self now.state (RewardDistributor.distributeReward caller user amount) (now.history ++
      [.received ⟨caller, target, .rewardDistributor (.distributeReward user amount)⟩ now.state]) := by
  apply RewardDistributor.safe_distributeReward
  intro authorized newReward newTotal reward_eq _
  simp only [Has.get_self, Has.set_self] at authorized reward_eq ⊢
  have settled := undisturbed authorized
  generalize after_eq : ((now.state.writeRewards user newReward).writeTotalDistributed newTotal).emit
    (.rewardDistributed user amount 0) = after
  have givenAfter := given_distribution after_eq
  have takenAfter := taken_distribution after_eq
  have rewardAfter := rewards_distribution after_eq
  have settles := fun someone => settled_distribution after_eq someone reward_eq
  have others : ∀ someone, ¬ Settled now.state someone → user ≠ someone := by
    rintro someone waits rfl
    exact waits settled
  have eventsAfter : after.events = now.state.events ++ [.rewardDistributed user amount 0] := by
    rw [← after_eq]
    rfl
  refine ⟨⟨?_, ?_, ?_, ?_⟩, ⟨?_, ?_⟩⟩
  · intro onChain someone
    rw [eventsAfter, unclaimedSum_distributed, mirrored.unclaimed, givenAfter, takenAfter]
    split <;> omega
  · intro onChain someone
    rw [eventsAfter, claimedSum_distributed, mirrored.claimed, takenAfter]
  · intro someone waits
    rw [settles] at waits
    rw [rewardAfter, if_neg (others someone waits)]
    exact mirrored.waiting someone waits
  · intro someone
    rw [givenAfter, credited_append, mirrored.credited]
    simp [credits, authorized]
  · intro someone waits
    rw [givenAfter, takenAfter, rewardAfter, if_neg (others someone waits),
      if_neg (others someone waits)]
    exact ⟨rfl, rfl, rfl⟩
  · intro someone
    exact (settles someone).mpr

theorem claimRewards_keepsMirror
    (now : Snapshot RewardDistributor.State Contracts.Call Contracts.Reply) (mirrored : Mirrored now) :
    KeepsMirror self now.state (RewardDistributor.claimRewards self caller) now.history := by
  apply RewardDistributor.safe_claimRewards
  intro positive
  simp only [Has.get_self, Has.set_self] at positive ⊢
  -- a reward that can be claimed is all there is to announce
  have settled : Settled now.state caller := by
    by_contra waits
    rw [mirrored.waiting caller waits] at positive
    exact absurd positive (by decide)
  generalize reward_eq : now.state.rewards caller = amount at *
  have leaving : Mirrored ⟨now.state.writeRewards caller 0, now.history ++
      [.sent ⟨self, now.state.token, .erc20 (.transfer caller amount)⟩
        (now.state.writeRewards caller 0)]⟩ := by
    refine ⟨mirrored.unclaimed, mirrored.claimed, ?_, ?_⟩
    · intro user waits
      rw [writeRewards_apply]
      split
      · rfl
      · rename_i other
        apply mirrored.waiting
        rw [Settled, writeRewards_apply, if_neg other] at waits
        exact waits
    · intro user
      rw [credited_append]
      exact mirrored.credited user
  apply Safe.send (deployed_foreign (RewardDistributor.entry_foreign _ _ (by simp))) leaving
  intro _ next nextMirrored settles
  have waits : ¬ Settled (now.state.writeRewards caller 0) caller := by
    have some : 0 < amount.toNat := positive
    rw [Settled, reward_eq] at settled
    rw [Settled, writeRewards_apply, if_pos rfl, U256.toNat_zero, given_writeRewards,
      taken_writeRewards]
    omega
  obtain ⟨sameGiven, sameTaken, sameReward⟩ := settles.still caller waits
  have none : next.state.rewards caller = 0 := by
    rw [sameReward, writeRewards_apply, if_pos rfl]
  have owed : given next.state caller = taken next.state caller + amount.toNat := by
    rw [Settled, reward_eq] at settled
    rw [sameGiven, sameTaken]
    exact settled
  refine ⟨nextMirrored.announce owed none, ⟨?_, ?_⟩⟩
  · intro user unsettled
    have other : caller ≠ user := by
      rintro rfl
      exact unsettled settled
    have still := settles.still user
    rw [Settled, writeRewards_apply, if_neg other] at still
    simpa [other, withdrawn, distributed] using still unsettled
  · intro user before
    apply (settled_announce owed none).mpr
    by_cases same : caller = user
    · exact .inl same
    · right
      apply settles.settled
      rw [Settled, writeRewards_apply, if_neg same]
      exact before

theorem rewardDistributor_keepsMirror :
    Certified (undisturbed self) Mirrored Settles Settles where
  rely_refl := Settles.refl
  rely_trans := Settles.trans
  guarantee_trans := Settles.trans
  resumed _ mirrored := mirrored.append _ fun _ => rfl
  enter {depth request body now} allowed found mirrored := by
    simp only [alone, deployed_cons, deployed_nil, Option.ite_none_right_eq_some,
      Option.some.injEq] at found
    rw [← found.2]
    have received := fun other => mirrored.append (.received request now.state)
      fun user => credits_received user other
    apply RewardDistributor.safe_entry self request.sender request.message
      (fun other => ⟨received other, Settles.refl _⟩)
    · intro authorized distributor other
      exact setDistributor_keepsMirror self _ authorized distributor _ (received other)
    · intro user amount eq
      have settled := fun authorized => allowed found.1 authorized user amount eq
      obtain ⟨sender, target, message⟩ := request
      subst eq
      exact distributeReward_keepsMirror self sender target user amount now mirrored settled
    · intro other
      exact claimRewards_keepsMirror self _ _ (received other)
  nested _ settles := settles
  drift _ impossible := impossible.elim
  tick _ impossible := impossible.elim

theorem constructor_mirrored (token governance : ContractAddress) :
    Mirrored ⟨RewardDistributor.constructor token governance, []⟩ := by
  refine ⟨fun _ _ => rfl, fun _ _ => rfl, fun _ _ => rfl, fun _ => rfl⟩

/-- As long as nobody is rewarded while a claim of his waits for the token, the table tells what
each user without a waiting claim can claim and has been paid. -/
theorem rewards_mirrored (self token governance : ContractAddress)
    {config : Config RewardDistributor.State Contracts.Call Contracts.Reply}
    (reaches : (undisturbed self).Reaches
      (.initial (RewardDistributor.constructor token governance)) config)
    (onChain : ContractAddress → Int) :
    (∀ user, Settled config.now.state user →
      (∀ includeHistory, ∃ answer, (getUserRewards user includeHistory).run service.answer
          (mirror onChain config.now.state.events) =
            (.ok answer, mirror onChain config.now.state.events) ∧
        answer.totalUnclaimed = (config.now.state.rewards user).toNat) ∧
      claimedSum (mirror onChain config.now.state.events).rewards user =
        paid config.now.history user) ∧
    (mirror onChain config.now.state.events).rewards.sum (·.amount) =
      config.now.state.totalDistributed.toNat ∧
    (config.stack = [] → ∀ user, Settled config.now.state user) := by
  have certified := rewardDistributor_keepsMirror self
  have start := constructor_mirrored token governance
  have mirrored := certified.invariant rfl start reaches
  have conserved := (rewardDistributor_keepsRewards self).invariant rfl
    (constructor_conserved token governance) ((undisturbed_below self).reaches reaches)
  refine ⟨?_, ?_, ?_⟩
  · intro user settled
    have unclaimed := mirrored.unclaimed onChain user
    have balance := conserved.user user
    have credited := mirrored.credited user
    have claimed := mirrored.claimed onChain user
    rw [Settled] at settled
    constructor
    · intro includeHistory
      obtain ⟨answer, ran, total⟩ := run_getUserRewards (mirror onChain config.now.state.events)
        user includeHistory
      exact ⟨answer, ran, by omega⟩
    · omega
  · rw [← sum_users, conserved.total, Nat.cast_sum]
    apply sum_congr rfl
    intro user _
    rw [mirrored.unclaimed, mirrored.claimed, ← mirrored.credited]
    omega
  · intro idle user
    have settles := certified.guarantee rfl start (.refl _) reaches idle
    exact settles.settled user rfl

theorem rewards_mirrored_paid : ∃ config : Config RewardDistributor.State Contracts.Call Contracts.Reply,
    config.stack = [] ∧ paid config.now.history 7 = 5 ∧
    claimedSum (mirror (fun _ => 0) config.now.state.events).rewards 7 = paid config.now.history 7 ∧
    (mirror (fun _ => 0) config.now.state.events).rewards.sum (·.amount) =
      config.now.state.totalDistributed.toNat := by
  -- governance 3 rewards user 7, who claims
  have run := ((((undisturbed 1).start (RewardDistributor.constructor 2 3)).enter
    ⟨3, 1, .rewardDistributor (.distributeReward 7 5)⟩
    (by intro _ _ user amount eq; cases eq; rfl) rfl 1 rfl).enter
    ⟨7, 1, .rewardDistributor .claimRewards⟩ (by intro _ _ user amount eq; cases eq) rfl 1 rfl).reply
    .unit 1 rfl
  have agrees := rewards_mirrored 1 2 3 run fun _ => 0
  exact ⟨_, rfl, rfl, (agrees.1 7 (agrees.2.2 rfl 7)).2, agrees.2.1⟩

/-- The token lets governance reward the user once more before the claim is announced: the table
takes the new reward for claimed, too. -/
theorem rewarded_while_claiming : ∃ config : Config RewardDistributor.State Contracts.Call
    Contracts.Reply, (rewardDistributorAlone 1).Reaches
      (.initial (RewardDistributor.constructor 2 3)) config ∧ config.stack = [] ∧
    config.now.state.rewards 7 = 3 ∧ ∀ onChain,
    unclaimedSum (mirror onChain config.now.state.events).rewards 7 = 0 ∧
    paid config.now.history 7 = 5 ∧
    claimedSum (mirror onChain config.now.state.events).rewards 7 = 8 := by
  have run := (((((rewardDistributorAlone 1).start (RewardDistributor.constructor 2 3)).enter
    ⟨3, 1, .rewardDistributor (.distributeReward 7 5)⟩ trivial rfl 1 rfl).enter
    ⟨7, 1, .rewardDistributor .claimRewards⟩ trivial rfl 1 rfl).enter
    ⟨3, 1, .rewardDistributor (.distributeReward 7 3)⟩ trivial rfl 1 rfl).reply .unit 1 rfl
  exact ⟨_, run, rfl, rfl, fun onChain => ⟨rfl, rfl, rfl⟩⟩

end Contract

end Kanaka.Backend.RewardDistributorService
