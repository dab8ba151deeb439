import Kanaka.Proof.Backend.Governance.Rows
import Mathlib.Algebra.Ring.Int.Defs

/-! # The tallies of a proposal and its vote rows -/

namespace Kanaka.Backend.GovernanceService
open Kanaka.Async

def Proposal.tally (proposal : Proposal) : Support → Int
  | .yes => proposal.yesVotes
  | .no => proposal.noVotes
  | .abstain => proposal.abstainVotes

def countedPower (votes : List Vote) (counted : Nat → Bool) (proposalId : Nat) (support : Support) :
    Int :=
  ((votes.filter fun vote =>
    decide (vote.proposalId = proposalId ∧ vote.support = support) && counted vote.id).map
      (·.power)).sum

def Store.power (store : Store) (proposalId : Nat) (support : Support) : Int :=
  countedPower store.votes (fun _ => true) proposalId support

def Tallied (store : Store) : Prop :=
  ∀ id row, store.proposals id = some row → ∀ support, row.tally support = store.power id support

structure Settled (store : Store) : Prop where
  consistent : store.Consistent
  keyed : (store.votes.map (·.id)).Nodup
  below : ∀ vote ∈ store.votes, vote.id < store.nextVote
  referenced : ∀ vote ∈ store.votes, ∃ row, store.proposals vote.proposalId = some row
  tallied : Tallied store

def Call.IsVote : Call → Prop
  | .vote _ _ _ => True
  | _ => False

instance : (call : Call) → Decidable call.IsVote
  | .vote _ _ _ => isTrue trivial
  | .createProposal _ _ => isFalse id
  | .getProposals _ _ _ => isFalse id
  | .getProposal _ => isFalse id
  | .executeProposal _ => isFalse id
  | .processEndedProposals => isFalse id
  | .getVotes _ _ => isFalse id
  | .cancelProposal _ => isFalse id

/-- The row of a saved object has the tallies that the object was read with. -/
def UnchangedSince (store : Store) (proposal : Proposal) (stage : Stage) : Prop :=
  ∀ copy ∈ (notesOf stage).copies, copy.id = proposal.id →
    ∀ row ∈ store.proposals proposal.id, SameTallies row copy

instance (store : Store) (proposal : Proposal) (stage : Stage) :
    Decidable (UnchangedSince store proposal stage) :=
  inferInstanceAs (Decidable (∀ _ ∈ _, _ → _))

/-- No save overwrites a tally that changed since the object was read, and the save of a vote's
proposal goes through. -/
def savesUnchanged (pool : Calls) : Async.Action Call Op Reply JsError Store → Bool
  | .serve task ⟨.saveProposal proposal, .ok _⟩ =>
      pool.tasks[task]?.all fun stage => UnchangedSince pool.state proposal stage
  | .serve task ⟨.saveProposal _, .error _⟩ => pool.tasks[task]?.all fun stage => ¬ stage.call.IsVote
  | _ => true

/-! ## Sums over rows -/

section Sums
variable {votes : List Vote} {counted : Nat → Bool} {proposalId : Nat} {support : Support}

theorem countedPower_cons (vote : Vote) :
    countedPower (vote :: votes) counted proposalId support =
      (if vote.proposalId = proposalId ∧ vote.support = support ∧ counted vote.id then vote.power
        else 0) + countedPower votes counted proposalId support := by
  unfold countedPower
  rw [List.filter_cons]
  by_cases here : vote.proposalId = proposalId ∧ vote.support = support
  · cases counted vote.id <;> simp [here]
  · have rest : ¬ (vote.proposalId = proposalId ∧ vote.support = support ∧ counted vote.id) :=
      fun all => here ⟨all.1, all.2.1⟩
    simp [here, rest]

theorem countedPower_append_uncounted {vote : Vote} (uncounted : counted vote.id = false) :
    countedPower (votes ++ [vote]) counted proposalId support =
      countedPower votes counted proposalId support := by
  unfold countedPower
  rw [List.filter_append]
  simp [uncounted]

theorem countedPower_unreferenced (absent : ∀ vote ∈ votes, vote.proposalId ≠ proposalId) :
    countedPower votes counted proposalId support = 0 := by
  unfold countedPower
  rw [List.filter_eq_nil_iff.mpr]
  · rfl
  · intro vote member
    simp [absent vote member]

theorem countedPower_congr {counted' : Nat → Bool}
    (same : ∀ vote ∈ votes, counted vote.id = counted' vote.id) :
    countedPower votes counted proposalId support =
      countedPower votes counted' proposalId support := by
  induction votes with
  | nil => rfl
  | cons vote votes ih =>
      rw [countedPower_cons, countedPower_cons, same vote List.mem_cons_self,
        ih fun other member => same other (List.mem_cons_of_mem _ member)]

theorem countedPower_count {row : Vote} (keyed : (votes.map (·.id)).Nodup) (member : row ∈ votes)
    (uncounted : counted row.id = false) :
    countedPower votes (Function.update counted row.id true) proposalId support =
      countedPower votes counted proposalId support +
        (if row.proposalId = proposalId ∧ row.support = support then row.power else 0) := by
  induction votes with
  | nil => contradiction
  | cons vote votes ih =>
      rw [List.map_cons, List.nodup_cons] at keyed
      rw [countedPower_cons, countedPower_cons]
      rcases List.mem_cons.mp member with rfl | later
      · have rest : countedPower votes (Function.update counted row.id true) proposalId support =
            countedPower votes counted proposalId support := by
          apply countedPower_congr
          intro other member
          apply Function.update_of_ne
          intro same
          exact keyed.1 (same ▸ List.mem_map_of_mem member)
        rw [rest, Function.update_self, uncounted]
        simp only [and_true, Bool.false_eq_true, and_false, if_false]
        omega
      · have apart : vote.id ≠ row.id := by
          intro same
          exact keyed.1 (same ▸ List.mem_map_of_mem later)
        rw [ih keyed.2 later, Function.update_of_ne apart]
        omega

end Sums

theorem tally_withVote (proposal : Proposal) (support other : Support) (votingPower : Int) :
    (proposal.withVote support votingPower).tally other =
      proposal.tally other + if support = other then votingPower else 0 := by
  cases support <;> cases other <;> simp [Proposal.withVote, Proposal.tally]

theorem SameTallies.tally {first second : Proposal} (same : SameTallies first second)
    (support : Support) : first.tally support = second.tally support := by
  obtain ⟨yes, no, abstain⟩ := same
  cases support with
  | yes => exact yes
  | no => exact no
  | abstain => exact abstain

theorem Written.tally {config : Config} {notes : Notes} {copy proposal : Proposal} {call : Call}
    (written : Written config notes copy proposal call) (other : ¬ call.IsVote) (support : Support) :
    proposal.tally support = copy.tally support := by
  cases call with
  | vote userId proposalId dto => exact absurd trivial other
  | executeProposal proposalId =>
      obtain ⟨status, now, -, -, rfl⟩ := written
      cases support <;> rfl
  | processEndedProposals =>
      rw [show proposal = copy.decided config from written]
      cases support <;> rfl
  | cancelProposal proposalId =>
      obtain ⟨-, rfl⟩ := written
      cases support <;> rfl
  | _ => exact written.elim

/-! ## Counted rows -/

structure Stored (votes : List Vote) (vote row : Vote) : Prop where
  member : row ∈ votes
  id : row.id = vote.id
  proposal : row.proposalId = vote.proposalId
  support : row.support = vote.support
  power : row.power = vote.power

def Inserted (stage : Stage) (vote : Vote) : Prop := (notesOf stage).inserted = some vote

/-- A row is counted once its call has saved the proposal. -/
structure Balanced (counted : Nat → Bool) (pool : Calls) : Prop where
  keyed : (pool.state.votes.map (·.id)).Nodup
  below : ∀ vote ∈ pool.state.votes, vote.id < pool.state.nextVote
  later : ∀ id, pool.state.nextVote ≤ id → counted id = false
  referenced : ∀ vote ∈ pool.state.votes, ∃ row, pool.state.proposals vote.proposalId = some row
  tallied : ∀ {id row}, pool.state.proposals id = some row → ∀ support,
    row.tally support = countedPower pool.state.votes counted id support
  pending : ∀ {task : Nat} {stage vote}, pool.tasks[task]? = some stage → Inserted stage vote →
    stage.call.IsVote ∧ counted vote.id = false ∧ ∃ row, Stored pool.state.votes vote row
  alone : ∀ {task other : Nat} {first second vote vote'}, pool.tasks[task]? = some first →
    pool.tasks[other]? = some second → Inserted first vote → Inserted second vote' →
    vote.id = vote'.id → task = other
  covered : ∀ row ∈ pool.state.votes, counted row.id = false → ∃ (task : Nat) (stage : Stage) (vote : Vote),
    pool.tasks[task]? = some stage ∧ Inserted stage vote ∧ vote.id = row.id
  untried : ∀ {task : Nat} {stage}, pool.tasks[task]? = some stage → stage.call.IsVote →
    (notesOf stage).tried = true → (notesOf stage).inserted = none

variable {config : Config} {pool : Calls} {task : Nat} {stage next : Stage} {after : Store}
  {counted : Nat → Bool}

theorem Balanced.start (balanced : Balanced counted pool) (call : Call) :
    Balanced counted ⟨pool.state, pool.tasks ++ [⟨call, [], body config call⟩]⟩ := by
  have before : ∀ {place : Nat} {running vote},
      (pool.tasks ++ [⟨call, [], body config call⟩])[place]? = some running →
      Inserted running vote → pool.tasks[place]? = some running := by
    intro place running vote found inserted
    rcases getElem?_start found with old | ⟨-, rfl⟩
    · exact old
    · contradiction
  refine ⟨balanced.keyed, balanced.below, balanced.later, balanced.referenced, balanced.tallied,
    ?_, ?_, ?_, ?_⟩
  · intro task stage vote found inserted
    exact balanced.pending (before found inserted) inserted
  · intro task other first second vote vote' found found' inserted inserted'
    exact balanced.alone (before found inserted) (before found' inserted') inserted inserted'
  · intro row member uncounted
    obtain ⟨task, stage, vote, found, inserted, same⟩ := balanced.covered row member uncounted
    have inside := (List.getElem?_eq_some_iff.mp found).1
    exact ⟨task, stage, vote, (List.getElem?_append_left inside).trans found, inserted, same⟩
  · intro task stage found isVote tried
    rcases getElem?_start found with old | ⟨-, rfl⟩
    · exact balanced.untried old isVote tried
    · rfl

theorem Balanced.serve (balanced : Balanced counted pool) (found : pool.tasks[task]? = some stage)
    (votes : after.votes = pool.state.votes) (nextVote : after.nextVote = pool.state.nextVote)
    (grows : pool.state.Grows after) (call : next.call = stage.call)
    (inserted : (notesOf next).inserted = (notesOf stage).inserted)
    (tried : stage.call.IsVote → (notesOf next).tried = (notesOf stage).tried)
    (tallied : ∀ {id row}, after.proposals id = some row → ∀ support,
      row.tally support = countedPower pool.state.votes counted id support) :
    Balanced counted ⟨after, pool.tasks.set task next⟩ := by
  have before : ∀ {place : Nat} {running vote}, (pool.tasks.set task next)[place]? = some running →
      Inserted running vote → ∃ stage, pool.tasks[place]? = some stage ∧
        stage.call = running.call ∧ Inserted stage vote := by
    intro place running vote served pending
    rcases getElem?_serve served with ⟨-, old⟩ | ⟨rfl, rfl⟩
    · exact ⟨running, old, rfl, pending⟩
    · exact ⟨stage, found, call.symm, inserted.symm.trans pending⟩
  refine ⟨?_, ?_, ?_, ?_, ?_, ?_, ?_, ?_, ?_⟩
  · rw [votes]
    exact balanced.keyed
  · rw [votes, nextVote]
    exact balanced.below
  · rw [nextVote]
    exact balanced.later
  · rw [votes]
    intro vote member
    obtain ⟨row, stored⟩ := balanced.referenced vote member
    exact grows _ row stored
  · rw [votes]
    exact tallied
  · intro place running vote served pending
    obtain ⟨stage, old, call, pending⟩ := before served pending
    obtain ⟨isVote, uncounted, row, stored⟩ := balanced.pending old pending
    exact ⟨call ▸ isVote, uncounted, row, votes.symm ▸ stored.member, stored.id, stored.proposal,
      stored.support, stored.power⟩
  · intro place other first second vote vote' served served' pending pending'
    obtain ⟨stage, old, -, pending⟩ := before served pending
    obtain ⟨stage', old', -, pending'⟩ := before served' pending'
    exact balanced.alone old old' pending pending'
  · rw [votes]
    intro row member uncounted
    obtain ⟨place, running, vote, old, pending, same⟩ := balanced.covered row member uncounted
    by_cases here : place = task
    · subst here
      rw [found, Option.some.injEq] at old
      subst old
      exact ⟨place, next, vote, getElem?_served found, inserted.trans pending, same⟩
    · exact ⟨place, running, vote, getElem?_other here old, pending, same⟩
  · intro place running served isVote done
    rcases getElem?_serve served with ⟨-, old⟩ | ⟨rfl, rfl⟩
    · exact balanced.untried old isVote done
    · rw [inserted]
      rw [call] at isVote
      exact balanced.untried found isVote ((tried isVote).symm.trans done)

theorem nodup_append_fresh {votes : List Vote} {row : Vote} {nextVote : Nat}
    (keyed : (votes.map (·.id)).Nodup) (below : ∀ vote ∈ votes, vote.id < nextVote)
    (fresh : row.id = nextVote) : ((votes ++ [row]).map (·.id)).Nodup := by
  rw [List.map_append, List.nodup_append]
  refine ⟨keyed, List.nodup_singleton _, ?_⟩
  intro old member new last
  obtain ⟨vote, voted, rfl⟩ := List.mem_map.mp member
  rw [List.map_singleton, List.mem_singleton, fresh] at last
  exact last ▸ (below vote voted).ne

theorem Balanced.insertVote {vote row : Vote} (balanced : Balanced counted pool)
    (found : pool.tasks[task]? = some stage) (isVote : next.call.IsVote)
    (idle : (notesOf stage).inserted = none) (untried : (notesOf next).tried = false)
    (inserted : Inserted next vote) (id : vote.id = pool.state.nextVote)
    (reference : ∃ row, pool.state.proposals vote.proposalId = some row)
    (stored : Stored (pool.state.votes ++ [row]) vote row) :
    Balanced counted
      ⟨{ pool.state with votes := pool.state.votes ++ [row], nextVote := pool.state.nextVote + 1 },
        pool.tasks.set task next⟩ := by
  have rowId : row.id = pool.state.nextVote := stored.id.trans id
  have uncounted : counted row.id = false := balanced.later _ rowId.ge
  have holders : ∀ {place : Nat} {running vote'},
      (pool.tasks.set task next)[place]? = some running → Inserted running vote' →
      place ≠ task ∧ pool.tasks[place]? = some running ∧ vote'.id < pool.state.nextVote ∨
      place = task ∧ running = next ∧ vote' = vote := by
    intro place running vote' served pending
    rcases getElem?_serve served with ⟨apart, old⟩ | ⟨here, rfl⟩
    · obtain ⟨-, -, row, stored⟩ := balanced.pending old pending
      exact .inl ⟨apart, old, stored.id ▸ balanced.below row stored.member⟩
    · exact .inr ⟨here, rfl, Option.some.inj (pending.symm.trans inserted)⟩
  refine ⟨?_, ?_, ?_, ?_, ?_, ?_, ?_, ?_, ?_⟩
  · exact nodup_append_fresh balanced.keyed balanced.below rowId
  · refine List.forall_mem_append.mpr ⟨?_, List.forall_mem_singleton.mpr ?_⟩
    · exact fun vote member => (balanced.below vote member).trans (Nat.lt_succ_self _)
    · exact rowId ▸ Nat.lt_succ_self _
  · exact fun id above => balanced.later id (Nat.le_of_succ_le above)
  · refine List.forall_mem_append.mpr ⟨balanced.referenced, List.forall_mem_singleton.mpr ?_⟩
    exact stored.proposal.symm ▸ reference
  · intro id proposal stored support
    rw [countedPower_append_uncounted uncounted]
    exact balanced.tallied stored support
  · intro place running vote' served pending
    rcases holders served pending with ⟨-, old, -⟩ | ⟨-, rfl, rfl⟩
    · obtain ⟨isVote, uncounted, row, known⟩ := balanced.pending old pending
      exact ⟨isVote, uncounted, row, List.mem_append_left _ known.member, known.id, known.proposal,
        known.support, known.power⟩
    · exact ⟨isVote, stored.id ▸ uncounted, row, stored⟩
  · intro place other first second vote' vote'' served served' pending pending' same
    rcases holders served pending with ⟨-, old, below⟩ | ⟨here, -, rfl⟩
    · rcases holders served' pending' with ⟨-, old', -⟩ | ⟨-, -, rfl⟩
      · exact balanced.alone old old' pending pending' same
      · exact absurd (same.trans id) below.ne
    · rcases holders served' pending' with ⟨-, -, below⟩ | ⟨here', -, -⟩
      · exact absurd (same.symm.trans id) below.ne
      · exact here.trans here'.symm
  · intro other member uncounted
    rcases List.mem_append.mp member with old | new
    · obtain ⟨place, running, vote, running', pending, same⟩ := balanced.covered other old uncounted
      have apart : place ≠ task := by
        intro here
        subst here
        rw [found, Option.some.injEq] at running'
        subst running'
        rw [Inserted, idle] at pending
        contradiction
      exact ⟨place, running, vote, getElem?_other apart running', pending, same⟩
    · rw [List.mem_singleton] at new
      subst new
      exact ⟨task, next, vote, getElem?_served found, inserted, stored.id.symm⟩
  · intro place running served isVote done
    rcases getElem?_serve served with ⟨-, old⟩ | ⟨-, rfl⟩
    · exact balanced.untried old isVote done
    · rw [untried] at done
      contradiction

theorem Balanced.count {vote : Vote} {proposal row : Proposal} (balanced : Balanced counted pool)
    (found : pool.tasks[task]? = some stage) (inserted : Inserted stage vote)
    (here : vote.proposalId = proposal.id) (stored : pool.state.proposals proposal.id = some row)
    (tally : ∀ support, proposal.tally support =
      row.tally support + if vote.support = support then vote.power else 0)
    (idle : (notesOf next).inserted = none) :
    Balanced (Function.update counted vote.id true)
      ⟨{ pool.state with
          proposals := Function.update pool.state.proposals proposal.id (some proposal.columns) },
        pool.tasks.set task next⟩ := by
  obtain ⟨isVote, uncounted, voteRow, voted⟩ := balanced.pending found inserted
  have others : ∀ {place : Nat} {running vote'}, (pool.tasks.set task next)[place]? = some running →
      Inserted running vote' → pool.tasks[place]? = some running ∧ vote'.id ≠ vote.id := by
    intro place running vote' served pending
    rcases getElem?_serve served with ⟨apart, old⟩ | ⟨-, rfl⟩
    · exact ⟨old, fun same => apart (balanced.alone old found pending inserted same)⟩
    · rw [Inserted, idle] at pending
      contradiction
  have power : ∀ id support,
      countedPower pool.state.votes (Function.update counted vote.id true) id support =
        countedPower pool.state.votes counted id support +
          if vote.proposalId = id ∧ vote.support = support then vote.power else 0 := by
    intro id support
    rw [← voted.id, ← voted.proposal, ← voted.support, ← voted.power]
    exact countedPower_count balanced.keyed voted.member (voted.id ▸ uncounted)
  refine ⟨balanced.keyed, balanced.below, ?_, ?_, ?_, ?_, ?_, ?_, ?_⟩
  · intro id above
    have below := balanced.below voteRow voted.member
    rw [voted.id] at below
    rw [Function.update_of_ne (below.trans_le above).ne']
    exact balanced.later id above
  · intro other member
    obtain ⟨row, stored⟩ := balanced.referenced other member
    exact Store.Grows.update rfl _ row stored
  · intro id other written support
    rw [power id support]
    rcases update_eq_some written with ⟨rfl, rfl⟩ | ⟨apart, old⟩
    · have columns : proposal.columns.tally support = proposal.tally support := by
        cases support <;> rfl
      simp only [here, true_and]
      rw [columns, tally support, balanced.tallied stored support]
    · rw [if_neg fun both => apart (both.1.symm.trans here), Int.add_zero]
      exact balanced.tallied old support
  · intro place running vote' served pending
    have ⟨old, apart⟩ := others served pending
    rw [Function.update_of_ne apart]
    exact balanced.pending old pending
  · intro place other first second vote' vote'' served served' pending pending'
    exact balanced.alone (others served pending).1 (others served' pending').1 pending pending'
  · intro other member counted'
    have apart : other.id ≠ vote.id := by
      intro same
      rw [same, Function.update_self] at counted'
      contradiction
    rw [Function.update_of_ne apart] at counted'
    obtain ⟨place, running, vote', old, pending, same⟩ := balanced.covered other member counted'
    have elsewhere : place ≠ task := by
      intro here
      subst here
      rw [found, Option.some.injEq] at old
      subst old
      exact apart (same.symm.trans (congrArg Vote.id (Option.some.inj (pending.symm.trans inserted))))
    exact ⟨place, running, vote', getElem?_other elsewhere old, pending, same⟩
  · intro place running served isVote done
    rcases getElem?_serve served with ⟨-, old⟩ | ⟨-, rfl⟩
    · exact balanced.untried old isVote done
    · exact idle

theorem Balanced.power_fresh (balanced : Balanced counted pool) (linked : Linked pool)
    (support : Support) :
    countedPower pool.state.votes counted pool.state.nextProposal support = 0 := by
  apply countedPower_unreferenced
  intro vote member reference
  obtain ⟨row, stored⟩ := balanced.referenced vote member
  exact (linked.store.fresh stored).ne reference

theorem Balanced.save_other {proposal copy row : Proposal} (balanced : Balanced counted pool)
    (found : pool.tasks[task]? = some stage) (call : next.call = stage.call)
    (isVote : ¬ stage.call.IsVote) (written : Written config (notesOf stage) copy proposal stage.call)
    (stored : pool.state.proposals proposal.id = some row) (tallies : SameTallies row copy)
    (noted : (notesOf next).inserted = none) :
    Balanced counted ⟨{ pool.state with
      proposals := Function.update pool.state.proposals proposal.id (some proposal.columns) },
      pool.tasks.set task next⟩ := by
  have idle : (notesOf stage).inserted = none := by
    cases inserted : (notesOf stage).inserted with
    | none => rfl
    | some vote => exact absurd (balanced.pending found inserted).1 isVote
  refine balanced.serve found rfl rfl (.update rfl) call (noted.trans idle.symm) (absurd · isVote) ?_
  intro id other written' support
  rcases update_eq_some written' with ⟨rfl, rfl⟩ | ⟨-, old⟩
  · rw [← balanced.tallied stored, tallies.tally, ← written.tally isVote]
    cases support <;> rfl
  · exact balanced.tallied old support

theorem Balanced.turn {event : Event Op Reply JsError} (balanced : Balanced counted pool)
    (linked : Linked pool) (found : pool.tasks[task]? = some stage) (call : next.call = stage.call)
    (permitted : savesUnchanged pool (.serve task event) = true)
    (turn : Turn config stage.call (notesOf stage) pool.state event (notesOf next) after) :
    ∃ counted, Balanced counted ⟨after, pool.tasks.set task next⟩ := by
  have reads := linked.reads stage (List.mem_of_getElem? found)
  generalize noted : notesOf next = notes at turn
  have same : ∀ after : Store, after.votes = pool.state.votes →
      after.nextVote = pool.state.nextVote → after.proposals = pool.state.proposals →
      notes.inserted = (notesOf stage).inserted →
      (stage.call.IsVote → notes.tried = (notesOf stage).tried) →
      ∃ counted, Balanced counted ⟨after, pool.tasks.set task next⟩ := by
    intro after votes nextVote proposals inserted tried
    refine ⟨counted, balanced.serve found votes nextVote ?_ call (noted ▸ inserted)
      (noted ▸ tried) ?_⟩
    · intro id row stored
      exact ⟨row, proposals ▸ stored⟩
    · intro id row stored
      exact balanced.tallied (proposals ▸ stored)
  cases turn with
  | quiet quiet =>
      exact same _ quiet.votes quiet.nextVote quiet.proposals rfl fun _ => rfl
  | fetch | remember | load | ended | unvoted | pass => exact same _ rfl rfl rfl rfl fun _ => rfl
  | @insertVote vote userId dto copy voting wallet unvoted idle untried copies =>
      have isVote : next.call.IsVote := by
        rw [call, voting]
        trivial
      have target : stage.call.target = some vote.proposalId := by rw [voting]; rfl
      have read := copies ▸ List.mem_singleton_self copy
      have reference := reads.stored copy read
      rw [reads.target target copy read] at reference
      refine ⟨counted, balanced.insertVote found isVote idle ?_
        (congrArg Notes.inserted noted) rfl reference ?_⟩
      · rw [noted]
        exact untried
      · exact ⟨List.mem_append_right _ List.mem_cons_self, rfl, rfl, rfl, rfl⟩
  | insertProposal active yes no abstain made =>
      refine ⟨counted, balanced.serve found rfl rfl (.update rfl) call (congrArg Notes.inserted noted)
        (fun _ => congrArg Notes.tried noted) ?_⟩
      intro id other stored support
      rcases update_eq_some stored with ⟨rfl, rfl⟩ | ⟨-, old⟩
      · subst made
        rw [balanced.power_fresh linked]
        cases support with
        | yes => exact yes
        | no => exact no
        | abstain => exact abstain
      · exact balanced.tallied old support
  | @save proposal copy read here written =>
      have unchanged : UnchangedSince pool.state proposal stage := by
        simpa only [savesUnchanged, found, Option.all_some, decide_eq_true_eq] using permitted
      obtain ⟨row, stored⟩ := reads.stored copy read
      rw [here] at stored
      have tallies := unchanged copy read here row stored
      by_cases isVote : stage.call.IsVote
      · cases voting : stage.call with
        | vote userId proposalId dto =>
            rw [voting] at written
            obtain ⟨vote, inserted, voted, -, rfl⟩ := written
            have target : stage.call.target = some proposalId := by rw [voting]; rfl
            have voted : vote.proposalId = (copy.withVote vote.support vote.power).id := by
              rw [voted, ← here, reads.target target copy read]
            refine ⟨_, balanced.count found inserted voted stored ?_ (congrArg Notes.inserted noted)⟩
            intro support
            rw [tally_withVote, tallies.tally]
        | _ =>
            rw [voting] at isVote
            exact isVote.elim
      · exact ⟨counted, balanced.save_other found call isVote written stored tallies
          (congrArg Notes.inserted noted)⟩
  | saveFailed =>
      have other : ¬ stage.call.IsVote := by
        simpa only [savesUnchanged, found, Option.all_some, decide_eq_true_eq] using permitted
      exact same _ rfl rfl rfl rfl (absurd · other)

theorem Balanced.drift (balanced : Balanced counted pool) (quiet : Quiet pool.state after) :
    Balanced counted ⟨after, pool.tasks⟩ := by
  refine ⟨?_, ?_, ?_, ?_, ?_, ?_, balanced.alone, ?_, balanced.untried⟩
  · rw [quiet.votes]
    exact balanced.keyed
  · rw [quiet.votes, quiet.nextVote]
    exact balanced.below
  · rw [quiet.nextVote]
    exact balanced.later
  · rw [quiet.votes, quiet.proposals]
    exact balanced.referenced
  · rw [quiet.proposals, quiet.votes]
    exact balanced.tallied
  · rw [quiet.votes]
    exact balanced.pending
  · rw [quiet.votes]
    exact balanced.covered

/-! ## Runs -/

theorem Settled.balanced {store : Store} (settled : Settled store) :
    Balanced (fun id => decide (id < store.nextVote)) ⟨store, []⟩ := by
  refine ⟨settled.keyed, settled.below, ?_, settled.referenced, ?_, nofun, nofun, ?_, nofun⟩
  · exact fun id above => decide_eq_false (Nat.not_lt.mpr above)
  · intro id row stored support
    rw [settled.tallied id row stored support]
    apply countedPower_congr
    intro vote member
    exact (decide_eq_true (settled.below vote member)).symm
  · intro row member uncounted
    exact absurd (settled.below row member) (of_decide_eq_false uncounted)

theorem Balanced.settles (balanced : Balanced counted pool)
    (kept : ∀ stage ∈ pool.tasks, (discipline config).Keeps stage)
    (quiescent : ∀ stage ∈ pool.tasks, stage.call.IsVote → stage.rest.Finished) :
    Tallied pool.state := by
  intro id row stored support
  rw [balanced.tallied stored]
  apply countedPower_congr
  intro vote member
  cases uncounted : counted vote.id with
  | true => rfl
  | false =>
      obtain ⟨task, stage, inserted, found, pending, -⟩ := balanced.covered vote member uncounted
      have known := List.mem_of_getElem? found
      have isVote := (balanced.pending found pending).1
      have ended := ended_of_finished (kept stage known) (quiescent stage known isVote)
      have tried := ended.1 (Option.isSome_of_eq_some pending)
      rw [Inserted, balanced.untried found isVote tried] at pending
      contradiction

/-- The tallies are the sums over the vote rows when no save overwrites a tally that changed since
the object was read and every vote that is stored saves its proposal. -/
theorem tallied_of_savesUnchanged {store : Store} (settled : Settled store)
    (reaches : (service config).Reaches (savesUnchanged · ·) ⟨store, []⟩ pool)
    (quiescent : ∀ stage ∈ pool.tasks, stage.call.IsVote → stage.rest.Finished) :
    Tallied pool.state := by
  have holds : (Linked pool ∧ ∃ counted, Balanced counted pool) ∧
      ∀ stage ∈ pool.tasks, (discipline config).Keeps stage := by
    apply invariant_keeps reaches nofun
    · exact ⟨⟨settled.consistent, nofun⟩, _, settled.balanced⟩
    · rintro pool call ⟨linked, counted, balanced⟩ -
      exact ⟨linked.start call, counted, balanced.start call⟩
    · rintro pool task stage next event after ⟨linked, counted, balanced⟩ found call - permitted - turn
      exact ⟨linked.turn found call turn, balanced.turn linked found call permitted turn⟩
    · rintro pool after ⟨linked, counted, balanced⟩ quiet
      exact ⟨linked.drift quiet, counted, balanced.drift quiet⟩
  obtain ⟨⟨-, counted, balanced⟩, kept⟩ := holds
  exact balanced.settles kept quiescent

/-! ## Overlapping votes -/

theorem settled_storeOf (clock : Int) : Settled (storeOf openProposal clock) := by
  refine ⟨consistent_storeOf rfl, List.nodup_nil, ?_, ?_, ?_⟩
  · exact fun vote member => absurd member List.not_mem_nil
  · exact fun vote member => absurd member List.not_mem_nil
  · intro id row stored support
    simp only [storeOf] at stored
    split at stored
    · cases stored
      cases support <;> rfl
    · contradiction

/-- Two votes one after the other, and both are counted. -/
theorem tallied_of_turns : ∃ pool,
    (service defaultConfig).Reaches (savesUnchanged · ·) ⟨storeOf openProposal 10, []⟩ pool ∧
    pool.state.votes.length = 2 ∧ Tallied pool.state := by
  have run : ∃ pool,
      (service defaultConfig).Reaches (savesUnchanged · ·) ⟨storeOf openProposal 10, []⟩ pool ∧
      (pool.state.votes.length = 2 ∧
        ∀ stage ∈ pool.tasks, stage.call.IsVote → stage.rest.Finished) := by
    apply (service defaultConfig).exists_of_play savesUnchanged (fun _ _ passed => passed)
      (.start (.vote 7 1 ⟨.yes, "0xa"⟩) :: steps 0 10 ++
        .start (.vote 8 1 ⟨.no, "0xb"⟩) :: steps 1 10)
    decide
  obtain ⟨pool, reaches, two, quiescent⟩ := run
  exact ⟨pool, reaches, two, tallied_of_savesUnchanged (settled_storeOf 10) reaches quiescent⟩

/-- The second vote saves the proposal as it was before the first. -/
theorem vote_loses_tally : ∃ pool,
    (service defaultConfig).Reaches (fun _ _ => True) ⟨storeOf openProposal 10, []⟩ pool ∧
    (∀ stage ∈ pool.tasks, stage.call.IsVote ∧ stage.rest.Finished) ∧ ¬ Tallied pool.state := by
  have run : ∃ pool,
      (service defaultConfig).Reaches (fun _ _ => True) ⟨storeOf openProposal 10, []⟩ pool ∧
      ((∀ stage ∈ pool.tasks, stage.call.IsVote ∧ stage.rest.Finished) ∧
        (pool.state.proposals 1).map (·.yesVotes) = some 100 ∧ pool.state.power 1 .yes = 200) := by
    apply (service defaultConfig).exists_of_play (fun _ _ => true) (fun _ _ _ => trivial)
      ([.start (.vote 7 1 ⟨.yes, "0xa"⟩), .start (.vote 8 1 ⟨.yes, "0xb"⟩)] ++ steps 0 3 ++
        steps 1 8 ++ steps 0 7)
    decide
  obtain ⟨pool, reaches, finished, stored, power⟩ := run
  refine ⟨pool, reaches, finished, ?_⟩
  intro tallied
  obtain ⟨row, found, yes⟩ := Option.map_eq_some_iff.mp stored
  have same := tallied 1 row found .yes
  rw [power] at same
  exact absurd (yes.symm.trans same) (by decide)

end Kanaka.Backend.GovernanceService
