import Kanaka.Proof.Backend.Governance.Turns

/-! # One vote per wallet -/

namespace Kanaka.Backend.GovernanceService
open Kanaka.Async

def SamePair (first second : Vote) : Prop :=
  first.proposalId = second.proposalId ∧ first.voterAddress = second.voterAddress

def OneVotePerWallet (store : Store) : Prop :=
  store.votes.Pairwise fun first second => ¬ SamePair first second

def Call.Casts (proposalId : Nat) (walletAddress : String) : Call → Prop
  | .vote _ voted dto => voted = proposalId ∧ dto.walletAddress = walletAddress
  | _ => False

/-- The stage is a vote of the wallet between its duplicate check and its insert. -/
def Checked (proposalId : Nat) (walletAddress : String) (stage : Stage) : Prop :=
  stage.call.Casts proposalId walletAddress ∧ (notesOf stage).unvoted = true ∧
  ¬ stage.rest.Finished

instance (proposalId : Nat) (walletAddress : String) (call : Call) :
    Decidable (call.Casts proposalId walletAddress) := by
  cases call <;> unfold Call.Casts <;> infer_instance

instance (proposalId : Nat) (walletAddress : String) (stage : Stage) :
    Decidable (Checked proposalId walletAddress stage) :=
  inferInstanceAs (Decidable (_ ∧ _ ∧ ¬ _))

/-- A duplicate check finds nothing only while no other call is between its own and its insert. -/
def checksAlone (pool : Calls) : Async.Action Call Op Reply JsError Store → Bool
  | .serve task ⟨.findVote proposalId walletAddress, .ok none⟩ =>
      (pool.tasks.eraseIdx task).all fun stage => ¬ Checked proposalId walletAddress stage
  | _ => true

structure Guarded (pool : Calls) : Prop where
  once : OneVotePerWallet pool.state
  absent : ∀ {task : Nat} {stage : Stage} {proposalId walletAddress}, pool.tasks[task]? = some stage →
    Checked proposalId walletAddress stage →
    ∀ vote ∈ pool.state.votes, vote.proposalId = proposalId → vote.voterAddress ≠ walletAddress
  alone : ∀ {task other : Nat} {first second : Stage} {proposalId walletAddress},
    pool.tasks[task]? = some first → pool.tasks[other]? = some second →
    Checked proposalId walletAddress first → Checked proposalId walletAddress second → task = other

variable {config : Config} {pool : Calls} {task : Nat} {stage next : Stage} {after : Store}

theorem not_checked_start (call : Call) (proposalId : Nat) (walletAddress : String) :
    ¬ Checked proposalId walletAddress ⟨call, [], body config call⟩ := nofun

theorem Guarded.start (guarded : Guarded pool) (call : Call) :
    Guarded ⟨pool.state, pool.tasks ++ [⟨call, [], body config call⟩]⟩ := by
  refine ⟨guarded.once, ?_, ?_⟩
  · intro task stage proposalId walletAddress found checked
    rcases getElem?_start found with old | ⟨-, rfl⟩
    · exact guarded.absent old checked
    · exact absurd checked (not_checked_start call _ _)
  · intro task other first second proposalId walletAddress found found' checked checked'
    rcases getElem?_start found with old | ⟨-, rfl⟩
    · rcases getElem?_start found' with old' | ⟨-, rfl⟩
      · exact guarded.alone old old' checked checked'
      · exact absurd checked' (not_checked_start call _ _)
    · exact absurd checked (not_checked_start call _ _)

theorem Guarded.serve (guarded : Guarded pool) (found : pool.tasks[task]? = some stage)
    (votes : after.votes = pool.state.votes)
    (less : ∀ proposalId walletAddress, Checked proposalId walletAddress next →
      Checked proposalId walletAddress stage) :
    Guarded ⟨after, pool.tasks.set task next⟩ := by
  have before : ∀ {place : Nat} {running : Stage} {proposalId walletAddress},
      (pool.tasks.set task next)[place]? = some running →
      Checked proposalId walletAddress running →
      ∃ stage, pool.tasks[place]? = some stage ∧ Checked proposalId walletAddress stage := by
    intro place running proposalId walletAddress served checked
    rcases getElem?_serve served with ⟨-, old⟩ | ⟨rfl, rfl⟩
    · exact ⟨running, old, checked⟩
    · exact ⟨stage, found, less _ _ checked⟩
  refine ⟨?_, ?_, ?_⟩
  · unfold OneVotePerWallet
    rw [votes]
    exact guarded.once
  · intro place running proposalId walletAddress served checked
    obtain ⟨stage, old, checked⟩ := before served checked
    rw [votes]
    exact guarded.absent old checked
  · intro place other first second proposalId walletAddress served served' checked checked'
    obtain ⟨stage, old, checked⟩ := before served checked
    obtain ⟨stage', old', checked'⟩ := before served' checked'
    exact guarded.alone old old' checked checked'

theorem Checked.of_notes {proposalId : Nat} {walletAddress : String} (call : next.call = stage.call)
    (running : ¬ stage.rest.Finished) (unvoted : (notesOf next).unvoted = (notesOf stage).unvoted)
    (checked : Checked proposalId walletAddress next) : Checked proposalId walletAddress stage :=
  ⟨call ▸ checked.1, unvoted ▸ checked.2.1, running⟩

theorem Guarded.unvoted {userId proposalId : Nat} {dto : VoteDto} (guarded : Guarded pool)
    (found : pool.tasks[task]? = some stage) (call : next.call = .vote userId proposalId dto)
    (absent : ∀ vote ∈ pool.state.votes, vote.proposalId = proposalId →
      vote.voterAddress ≠ dto.walletAddress)
    (alone : ∀ other ∈ pool.tasks.eraseIdx task, ¬ Checked proposalId dto.walletAddress other) :
    Guarded ⟨pool.state, pool.tasks.set task next⟩ := by
  have only : ∀ {place : Nat} {running : Stage}, place ≠ task →
      pool.tasks[place]? = some running → ¬ Checked proposalId dto.walletAddress running := by
    intro place running other old
    exact alone running (List.mem_eraseIdx_iff_getElem?.mpr ⟨place, other, old⟩)
  have pair : ∀ {otherId walletAddress}, Checked otherId walletAddress next →
      otherId = proposalId ∧ walletAddress = dto.walletAddress := by
    rintro otherId walletAddress ⟨casts, -⟩
    rw [call] at casts
    exact ⟨casts.1.symm, casts.2.symm⟩
  refine ⟨guarded.once, ?_, ?_⟩
  · intro place running otherId walletAddress served checked
    rcases getElem?_serve served with ⟨-, old⟩ | ⟨-, rfl⟩
    · exact guarded.absent old checked
    · obtain ⟨rfl, rfl⟩ := pair checked
      exact absent
  · intro place other first second otherId walletAddress served served' checked checked'
    rcases getElem?_serve served with ⟨apart, old⟩ | ⟨rfl, rfl⟩
    · rcases getElem?_serve served' with ⟨-, old'⟩ | ⟨rfl, rfl⟩
      · exact guarded.alone old old' checked checked'
      · obtain ⟨rfl, rfl⟩ := pair checked'
        exact absurd checked (only apart old)
    · rcases getElem?_serve served' with ⟨apart, old'⟩ | ⟨rfl, -⟩
      · obtain ⟨rfl, rfl⟩ := pair checked
        exact absurd checked' (only apart old')
      · rfl

theorem Guarded.insertVote {vote : Vote} {row : Vote} {nextVote : Nat} (guarded : Guarded pool)
    (found : pool.tasks[task]? = some stage)
    (checked : Checked vote.proposalId vote.voterAddress stage)
    (same : SamePair row vote) (voted : (notesOf next).unvoted = false) :
    Guarded ⟨{ pool.state with votes := pool.state.votes ++ [row], nextVote },
      pool.tasks.set task next⟩ := by
  have others : ∀ {place : Nat} {running : Stage} {proposalId walletAddress},
      (pool.tasks.set task next)[place]? = some running →
      Checked proposalId walletAddress running →
      place ≠ task ∧ pool.tasks[place]? = some running := by
    intro place running proposalId walletAddress served checked
    rcases getElem?_serve served with old | ⟨-, rfl⟩
    · exact old
    · rw [checked.2.1] at voted
      contradiction
  refine ⟨?_, ?_, ?_⟩
  · refine List.pairwise_append.mpr ⟨guarded.once, List.pairwise_singleton _ _, ?_⟩
    intro earlier member last new
    rw [List.mem_singleton] at new
    subst new
    intro pair
    exact guarded.absent found checked earlier member (pair.1.trans same.1) (pair.2.trans same.2)
  · intro place running proposalId walletAddress served checked' earlier member proposal
    obtain ⟨apart, old⟩ := others served checked'
    rcases List.mem_append.mp member with member | new
    · exact guarded.absent old checked' earlier member proposal
    · rw [List.mem_singleton] at new
      subst new
      intro wallet
      rw [← proposal, ← wallet, same.1, same.2] at checked'
      exact apart (guarded.alone old found checked' checked)
  · intro place other first second proposalId walletAddress served served' checked checked'
    exact guarded.alone (others served checked).2 (others served' checked').2 checked checked'

theorem Guarded.turn {event : Event Op Reply JsError} (guarded : Guarded pool)
    (found : pool.tasks[task]? = some stage) (call : next.call = stage.call)
    (running : ¬ stage.rest.Finished) (permitted : checksAlone pool (.serve task event) = true)
    (turn : Turn config stage.call (notesOf stage) pool.state event (notesOf next) after) :
    Guarded ⟨after, pool.tasks.set task next⟩ := by
  generalize noted : notesOf next = notes at turn
  have before : notes.unvoted = (notesOf stage).unvoted → ∀ proposalId walletAddress,
      Checked proposalId walletAddress next → Checked proposalId walletAddress stage := by
    intro unvoted proposalId walletAddress
    exact Checked.of_notes call running (noted ▸ unvoted)
  cases turn with
  | quiet quiet => exact guarded.serve found quiet.votes (before rfl)
  | unvoted voting _ _ absent =>
      apply guarded.unvoted found (call.trans voting) absent
      intro other member
      exact of_decide_eq_true (List.all_eq_true.mp permitted other member)
  | @insertVote vote userId dto copy voting wallet unvoted =>
      have casts : stage.call.Casts vote.proposalId vote.voterAddress := by
        rw [voting]
        exact ⟨rfl, wallet⟩
      refine guarded.insertVote found ⟨casts, unvoted, running⟩ ⟨rfl, rfl⟩ ?_
      rw [noted]
  | _ => exact guarded.serve found rfl (before rfl)

theorem Guarded.drift (guarded : Guarded pool) (quiet : Quiet pool.state after) :
    Guarded ⟨after, pool.tasks⟩ := by
  refine ⟨?_, ?_, guarded.alone⟩
  · unfold OneVotePerWallet
    rw [quiet.votes]
    exact guarded.once
  · intro task stage proposalId walletAddress found checked
    rw [quiet.votes]
    exact guarded.absent found checked

/-- A wallet votes once when no check is made between the check and the insert of another call. -/
theorem oneVotePerWallet_of_checksAlone {store : Store} (initially : OneVotePerWallet store)
    (reaches : (service config).Reaches (checksAlone · ·) ⟨store, []⟩ pool) :
    OneVotePerWallet pool.state := by
  have guarded : Guarded pool := by
    apply invariant reaches nofun
    · exact ⟨initially, nofun, nofun⟩
    · exact fun _ call guarded _ => guarded.start call
    · exact fun _ _ _ _ _ _ guarded found call running permitted _ turn =>
        guarded.turn found call running permitted turn
    · exact fun _ _ guarded quiet => guarded.drift quiet
  exact guarded.once

/-! ## Overlapping votes -/

instance (first second : Vote) : Decidable (SamePair first second) :=
  inferInstanceAs (Decidable (_ ∧ _))

instance (store : Store) : Decidable (OneVotePerWallet store) :=
  inferInstanceAs (Decidable (List.Pairwise _ _))

def yesVote (walletAddress : String) : Call := .vote 7 1 ⟨.yes, walletAddress⟩

theorem oneVotePerWallet_of_turns : ∃ pool,
    (service defaultConfig).Reaches (checksAlone · ·) ⟨storeOf openProposal 10, []⟩ pool ∧
    pool.state.votes.length = 2 ∧ OneVotePerWallet pool.state := by
  have run : ∃ pool,
      (service defaultConfig).Reaches (checksAlone · ·) ⟨storeOf openProposal 10, []⟩ pool ∧
      pool.state.votes.length = 2 := by
    apply (service defaultConfig).exists_of_play checksAlone (fun _ _ passed => passed)
      ([.start (yesVote "0xa"), .start (yesVote "0xb"), .start (yesVote "0xa")] ++ steps 0 5 ++
        steps 1 3 ++ steps 0 2 ++ steps 1 2 ++ steps 2 3)
    decide
  obtain ⟨pool, reaches, two⟩ := run
  exact ⟨pool, reaches, two, oneVotePerWallet_of_checksAlone (by decide) reaches⟩

/-- Both checks of a wallet come before both inserts. -/
theorem vote_twice : ∃ pool,
    (service defaultConfig).Reaches (fun _ _ => True) ⟨storeOf openProposal 10, []⟩ pool ∧
    pool.tasks.map (·.call) = [yesVote "0xa", yesVote "0xa"] ∧ ¬ OneVotePerWallet pool.state := by
  apply (service defaultConfig).exists_of_play (fun _ _ => true) (fun _ _ _ => trivial)
    ([.start (yesVote "0xa"), .start (yesVote "0xa")] ++ steps 0 5 ++ steps 1 3 ++ steps 0 2 ++
      steps 1 2)
  decide

end Kanaka.Backend.GovernanceService
