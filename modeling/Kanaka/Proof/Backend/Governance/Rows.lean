import Kanaka.Proof.Backend.Governance.Turns

/-! # Rows, cached objects and objects that calls have read -/

namespace Kanaka.Backend.GovernanceService
open Kanaka.Async

def SameTallies (first second : Proposal) : Prop :=
  first.yesVotes = second.yesVotes ∧ first.noVotes = second.noVotes ∧
  first.abstainVotes = second.abstainVotes

instance (first second : Proposal) : Decidable (SameTallies first second) :=
  inferInstanceAs (Decidable (_ ∧ _ ∧ _))

structure Store.Consistent (store : Store) : Prop where
  id : ∀ {id row}, store.proposals id = some row → row.id = id
  fresh : ∀ {id row}, store.proposals id = some row → id < store.nextProposal
  cached : ∀ {id proposal}, store.cache (.proposal id) = some proposal →
    proposal.id = id ∧ ∃ row, store.proposals id = some row

structure Reads (store : Store) (stage : Stage) : Prop where
  target : ∀ {id}, stage.call.target = some id → ∀ copy ∈ (notesOf stage).copies, copy.id = id
  stored : ∀ copy ∈ (notesOf stage).copies, ∃ row, store.proposals copy.id = some row

structure Linked (pool : Calls) : Prop where
  store : pool.state.Consistent
  reads : ∀ stage ∈ pool.tasks, Reads pool.state stage

structure Rows (store : Store) : Prop where
  id : ∀ {id row}, store.proposals id = some row → row.id = id
  below : ∀ {id row}, store.proposals id = some row → id < store.nextProposal

theorem Store.Consistent.rows {store : Store} (consistent : store.Consistent) : Rows store :=
  ⟨consistent.id, consistent.fresh⟩

theorem update_eq_some {α : Type} {rows : Nat → Option α} {id other : Nat} {row found : α}
    (stored : Function.update rows id (some row) other = some found) :
    other = id ∧ found = row ∨ other ≠ id ∧ rows other = some found := by
  by_cases same : other = id
  · subst same
    rw [Function.update_self, Option.some.injEq] at stored
    exact .inl ⟨rfl, stored.symm⟩
  · rw [Function.update_of_ne same] at stored
    exact .inr ⟨same, stored⟩

variable {config : Config} {pool : Calls} {task : Nat} {stage next : Stage} {store after : Store}

def Store.Grows (before after : Store) : Prop :=
  ∀ id row, before.proposals id = some row → ∃ row, after.proposals id = some row

theorem Store.Grows.update {id : Nat} {row : Proposal}
    (updated : after.proposals = Function.update store.proposals id (some row)) :
    store.Grows after := by
  intro other old found
  rw [updated]
  by_cases same : other = id
  · subst same
    exact ⟨row, Function.update_self ..⟩
  · rw [Function.update_of_ne same]
    exact ⟨old, found⟩

/-- The rows stay, and cached proposals are at most dropped. -/
structure SameRows (before after : Store) : Prop where
  proposals : after.proposals = before.proposals
  nextProposal : after.nextProposal = before.nextProposal
  cache : ∀ id proposal, after.cache (.proposal id) = some proposal →
    before.cache (.proposal id) = some proposal

theorem Quiet.sameRows (quiet : Quiet store after) : SameRows store after :=
  ⟨quiet.proposals, quiet.nextProposal, quiet.cache⟩

theorem SameRows.grows (same : SameRows store after) : store.Grows after := by
  intro id row found
  rw [same.proposals]
  exact ⟨row, found⟩

theorem Store.Consistent.same (consistent : store.Consistent) (same : SameRows store after) :
    after.Consistent := by
  refine ⟨?_, ?_, ?_⟩
  · rw [same.proposals]
    exact consistent.id
  · rw [same.proposals, same.nextProposal]
    exact consistent.fresh
  · intro id proposal cached
    rw [same.proposals]
    exact consistent.cached (same.cache id proposal cached)

theorem Reads.grow (reads : Reads store stage) (grows : store.Grows after) : Reads after stage :=
  ⟨reads.target, fun copy member => (reads.stored copy member).elim fun _ found => grows _ _ found⟩

theorem Linked.start (linked : Linked pool) (call : Call) :
    Linked ⟨pool.state, pool.tasks ++ [⟨call, [], body config call⟩]⟩ := by
  refine ⟨linked.store, forall_start linked.reads ⟨?_, ?_⟩⟩
  · exact fun _ _ member => absurd member List.not_mem_nil
  · exact fun _ member => absurd member List.not_mem_nil

theorem Linked.serve (linked : Linked pool) (consistent : after.Consistent)
    (grows : pool.state.Grows after) (reads : Reads after next) :
    Linked ⟨after, pool.tasks.set task next⟩ := by
  refine ⟨consistent, forall_serve ?_ reads⟩
  intro stage member
  exact (linked.reads stage member).grow grows

theorem Linked.drift (linked : Linked pool) (quiet : Quiet pool.state after) :
    Linked ⟨after, pool.tasks⟩ :=
  ⟨linked.store.same quiet.sameRows,
    fun stage member => (linked.reads stage member).grow quiet.sameRows.grows⟩

theorem Reads.of_copies (reads : Reads store stage) (call : next.call = stage.call)
    (copies : (notesOf next).copies = (notesOf stage).copies) : Reads store next := by
  refine ⟨?_, ?_⟩
  · rw [call, copies]
    exact reads.target
  · rw [copies]
    exact reads.stored

theorem Reads.single {proposal : Proposal} {id : Nat}
    (call : ∀ {other}, stage.call.target = some other → other = id)
    (copies : (notesOf stage).copies = [proposal]) (here : proposal.id = id)
    (stored : ∃ row, store.proposals id = some row) : Reads store stage := by
  refine ⟨?_, ?_⟩
  · intro other target copy member
    rw [copies, List.mem_singleton] at member
    rw [member, here, call target]
  · intro copy member
    rw [copies, List.mem_singleton] at member
    rw [member, here]
    exact stored

theorem Store.Consistent.cache (consistent : store.Consistent) {id : Nat} {proposal : Proposal}
    (here : proposal.id = id) (stored : ∃ row, store.proposals id = some row) :
    ({ store with
      cache := Function.update store.cache (.proposal id) (some proposal) } : Store).Consistent := by
  refine ⟨consistent.id, consistent.fresh, ?_⟩
  intro other cached found
  by_cases same : other = id
  · subst same
    simp only [Function.update_self, Option.some.injEq] at found
    subst found
    exact ⟨here, stored⟩
  · simp only [ne_eq, Key.proposal.injEq, same, not_false_eq_true, Function.update_of_ne] at found
    exact consistent.cached found

theorem Rows.write (rows : Rows store) (written : Proposal) {id nextProposal : Nat}
    (here : written.id = id) (below : id < nextProposal) (more : store.nextProposal ≤ nextProposal)
    (proposals : after.proposals = Function.update store.proposals id (some written))
    (next : after.nextProposal = nextProposal) : Rows after := by
  refine ⟨fun found => ?_, fun found => ?_⟩
  · rw [proposals] at found
    rcases update_eq_some found with ⟨rfl, rfl⟩ | ⟨-, stored⟩
    · exact here
    · exact rows.id stored
  · rw [proposals] at found
    rw [next]
    rcases update_eq_some found with ⟨rfl, -⟩ | ⟨-, stored⟩
    · exact below
    · exact (rows.below stored).trans_le more

theorem Store.Consistent.write (consistent : store.Consistent) {id nextProposal : Nat}
    {row : Proposal} (here : row.id = id) (below : id < nextProposal)
    (more : store.nextProposal ≤ nextProposal) :
    ({ store with
      proposals := Function.update store.proposals id (some row)
      nextProposal } : Store).Consistent := by
  have rows : Rows { store with
      proposals := Function.update store.proposals id (some row)
      nextProposal } := consistent.rows.write row here below more rfl rfl
  refine ⟨rows.id, rows.below, ?_⟩
  intro other cached found
  have ⟨here, row, stored⟩ := consistent.cached found
  exact ⟨here, Store.Grows.update rfl _ _ stored⟩

theorem Linked.turn {event : Event Op Reply JsError} (linked : Linked pool)
    (found : pool.tasks[task]? = some stage) (call : next.call = stage.call)
    (turn : Turn config stage.call (notesOf stage) pool.state event (notesOf next) after) :
    Linked ⟨after, pool.tasks.set task next⟩ := by
  have reads := linked.reads stage (List.mem_of_getElem? found)
  have grows : pool.state.Grows pool.state := fun _ row found => ⟨row, found⟩
  generalize noted : notesOf next = notes at turn
  have keeping : notes.copies = (notesOf stage).copies → Reads pool.state next :=
    fun copies => reads.of_copies call (noted ▸ copies)
  have aims : ∀ {id other}, stage.call.target = some id → next.call.target = some other →
      other = id := by
    intro id other target target'
    rw [call, target, Option.some.injEq] at target'
    exact target'.symm
  cases turn with
  | quiet quiet =>
      exact linked.serve (linked.store.same quiet.sameRows) quiet.sameRows.grows
        ((keeping rfl).grow quiet.sameRows.grows)
  | fetch target cached =>
      have ⟨here, row⟩ := linked.store.cached cached
      exact linked.serve linked.store grows (.single (aims target) (congrArg Notes.copies noted) here row)
  | remember target copies =>
      have member := copies ▸ List.mem_singleton_self _
      have here := reads.target target _ member
      have stored := here ▸ reads.stored _ member
      exact linked.serve (linked.store.cache here stored) grows ((keeping rfl).grow grows)
  | load target found =>
      have here := linked.store.id found
      exact linked.serve linked.store grows
        (.single (aims target) (congrArg Notes.copies noted) here ⟨_, found⟩)
  | ended processing listed =>
      apply linked.serve linked.store grows
      refine ⟨?_, ?_⟩
      · intro id target
        rw [call, processing] at target
        contradiction
      · intro copy member
        rw [noted] at member
        obtain ⟨id, row, found, rfl, -⟩ := listed copy member
        exact ⟨row, (linked.store.id found).symm ▸ found⟩
  | insertProposal active yes no abstain made =>
      subst made
      exact linked.serve (linked.store.write rfl (Nat.lt_succ_self _) (Nat.le_succ _)) (.update rfl)
        ((keeping rfl).grow (.update rfl))
  | save member here written =>
      have ⟨row, stored⟩ := reads.stored _ member
      exact linked.serve (linked.store.write rfl (linked.store.fresh (here ▸ stored)) le_rfl)
        (.update rfl) ((keeping rfl).grow (.update rfl))
  | insertVote | pass =>
      exact linked.serve (linked.store.same ⟨rfl, rfl, fun _ _ cached => cached⟩) grows
        ((keeping rfl).grow grows)
  | unvoted | saveFailed => exact linked.serve linked.store grows (keeping rfl)

theorem consistent_storeOf {proposal : Proposal} {clock : Int} (here : proposal.id = 1) :
    (storeOf proposal clock).Consistent := by
  refine ⟨?_, ?_, nofun⟩
  · intro id row stored
    simp only [storeOf] at stored
    split at stored
    · cases stored
      exact here.trans ‹id = 1›.symm
    · contradiction
  · intro id row stored
    simp only [storeOf] at stored
    split at stored
    · exact ‹id = 1› ▸ Nat.one_lt_two
    · contradiction

end Kanaka.Backend.GovernanceService
