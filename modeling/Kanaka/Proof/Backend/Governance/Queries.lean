import Kanaka.Proof.Backend.Governance.Rows
import Kanaka.Store.Pages

/-! # What the tables answer, before and after a write -/

namespace Kanaka.Backend.GovernanceService
open Kanaka.Async

def Store.query (store : Store) : (key : Key) → Option key.Value
  | .proposal id => (Store.perform (.findProposal id) store).1
  | .proposals => some ()
  | .proposalList active limit offset =>
      some (Store.perform (.findProposals active limit offset) store).1
  | .votes proposalId support => some (Store.perform (.findVotes proposalId support) store).1

/-- The value is what the database returns, but for the dates that JSON makes strings of. -/
def Fresh (store : Store) (key : Key) (value : key.Value) : Prop :=
  (store.query key).map key.json = some (key.json value)

def Selects (support : Option Bool) (vote : Support) : Prop :=
  match support with
  | none => True
  | some true => vote = .yes
  | some false => vote = .no

instance : (support : Option Bool) → (vote : Support) → Decidable (Selects support vote)
  | none, _ => isTrue trivial
  | some true, vote => inferInstanceAs (Decidable (vote = .yes))
  | some false, vote => inferInstanceAs (Decidable (vote = .no))

def Listed (active : Bool) (proposal : Proposal) : Prop := active → proposal.status = .active

instance (active : Bool) (proposal : Proposal) : Decidable (Listed active proposal) :=
  inferInstanceAs (Decidable (_ → _))

/-- The rows that the pages of a list are cut from. -/
def Store.ranked (store : Store) (active : Bool) : List Proposal :=
  (Store.latestFirst (·.createdAt) store.proposalRows).filter fun proposal => Listed active proposal

theorem query_proposalList (store : Store) (active : Bool) (limit offset : Nat) :
    store.query (.proposalList active limit offset) = some (page limit offset (store.ranked active)) :=
  congrArg some Page.eq_ite.symm

theorem query_proposal (store : Store) (id : Nat) :
    store.query (.proposal id) = (store.proposals id).map fun proposal =>
      { proposal.columns with votes := some (store.votesOf id) } := rfl

theorem query_votes (store : Store) (proposalId : Nat) (support : Option Bool) :
    store.query (.votes proposalId support) = some (Store.latestFirst (·.createdAt)
      ((store.votesOf proposalId).filter fun vote => Selects support vote.support)) := by
  rcases support with _ | _ | _ <;> rfl

/-! ## JSON -/

theorem json_json (key : Key) (value : key.Value) : key.json (key.json value) = key.json value := by
  have vote (vote : Vote) : vote.json.json = vote.json := rfl
  have proposal (proposal : Proposal) : proposal.json.json = proposal.json := by
    obtain ⟨_, _, _, _, _, _, _, _, _, _, _, _, executedAt, votes, _⟩ := proposal
    cases executedAt <;> cases votes <;> simp [Proposal.json, Timestamp.json, Timestamp.ms, vote]
  cases key with
  | proposal id => exact proposal value
  | proposals => rfl
  | proposalList active limit offset => simp [Key.json, proposal]
  | votes proposalId support => simp [Key.json, vote]

theorem columns_columns (proposal : Proposal) : proposal.columns.columns = proposal.columns := by
  obtain ⟨_, _, _, _, _, _, _, _, _, _, _, _, executedAt, votes, _⟩ := proposal
  cases executedAt <;> rfl

theorem Fresh.json {store : Store} {key : Key} {value : key.Value} (fresh : Fresh store key value) :
    Fresh store key (key.json value) := fresh.trans (congrArg some (json_json key value).symm)

theorem fresh_query {store : Store} {key : Key} {value : key.Value}
    (found : store.query key = some value) : Fresh store key value := by
  rw [Fresh, found, Option.map_some]

/-! ## The same tables -/

/-- The tables stay, and cached values are at most dropped. -/
structure Fades (before after : Store) : Prop where
  proposals : after.proposals = before.proposals
  nextProposal : after.nextProposal = before.nextProposal
  votes : after.votes = before.votes
  cache : ∀ key, after.cache key = before.cache key ∨ after.cache key = none

theorem Store.Drift.fades {before after : Store} (drift : Drift before after) : Fades before after :=
  ⟨drift.proposals, drift.nextProposal, drift.votes, drift.cache⟩

section Tables
variable {store after : Store}

theorem Fades.refl (store : Store) : Fades store store := ⟨rfl, rfl, rfl, fun _ => .inl rfl⟩

theorem Fades.cached (fades : Fades store after) {key : Key} {value : key.Value}
    (cached : after.cache key = some value) : store.cache key = some value := by
  rcases fades.cache key with same | dropped
  · exact same ▸ cached
  · rw [dropped] at cached
    contradiction

theorem query_congr (proposals : after.proposals = store.proposals)
    (nextProposal : after.nextProposal = store.nextProposal) (votes : after.votes = store.votes)
    (key : Key) : after.query key = store.query key := by
  obtain ⟨_, _, _, _, _, _, _, _⟩ := store
  obtain ⟨_, _, _, _, _, _, _, _⟩ := after
  cases proposals
  cases nextProposal
  cases votes
  cases key <;> rfl

theorem Fades.query (fades : Fades store after) (key : Key) : after.query key = store.query key :=
  query_congr fades.proposals fades.nextProposal fades.votes key

/-! ## A row that is written again -/

def overwrite (proposal row : Proposal) : Proposal :=
  if row.id = proposal.id then proposal.columns else row

theorem overwrite_of_ne {proposal row : Proposal} (away : row.id ≠ proposal.id) :
    overwrite proposal row = row := if_neg away

theorem Rows.mem (rows : Rows store) {row : Proposal} (member : row ∈ store.proposalRows) :
    ∃ stored, store.proposals row.id = some stored ∧ row = stored.columns := by
  obtain ⟨id, -, found⟩ := List.mem_filterMap.mp member
  obtain ⟨stored, there, rfl⟩ := Option.map_eq_some_iff.mp found
  have here : stored.id = id := rows.id there
  subst here
  exact ⟨stored, there, rfl⟩

variable {proposal row : Proposal}

theorem Rows.proposalRows_save (rows : Rows store) (stored : store.proposals proposal.id = some row) :
    (Store.perform (.saveProposal proposal) store).2.proposalRows =
      store.proposalRows.map (overwrite proposal) := by
  simp only [Store.proposalRows, Store.perform, List.map_filterMap]
  refine List.filterMap_congr fun id _ => ?_
  by_cases here : id = proposal.id
  · subst here
    have same : row.columns.id = proposal.id := (rows.id stored : row.id = proposal.id)
    simp [stored, overwrite, same, columns_columns]
  · rw [Function.update_of_ne here]
    cases found : store.proposals id with
    | none => rfl
    | some other =>
        have away : other.columns.id ≠ proposal.id := rows.id found ▸ here
        simp [overwrite_of_ne away]

/-- The ranks are those of the dates, which stay. -/
theorem Rows.latestFirst_save (rows : Rows store) (stored : store.proposals proposal.id = some row)
    (createdAt : proposal.createdAt.ms = row.createdAt.ms) :
    Store.latestFirst (·.createdAt) (store.proposalRows.map (overwrite proposal)) =
      (Store.latestFirst (·.createdAt) store.proposalRows).map (overwrite proposal) := by
  have date (other : Proposal) (member : other ∈ store.proposalRows) :
      (overwrite proposal other).createdAt.ms = other.createdAt.ms := by
    unfold overwrite
    split
    · rename_i here
      obtain ⟨old, there, rfl⟩ := rows.mem member
      rw [here, stored] at there
      cases there
      exact createdAt
    · rfl
  refine (List.map_mergeSort fun first first' second second' => ?_).symm
  rw [date first first', date second second']

theorem mem_latestFirst {α : Type} {date : α → Timestamp} {rows : List α} {row : α} :
    row ∈ Store.latestFirst date rows ↔ row ∈ rows := List.mem_mergeSort

theorem Rows.ranked_save_of_listed (rows : Rows store) {active : Bool}
    (stored : store.proposals proposal.id = some row)
    (createdAt : proposal.createdAt.ms = row.createdAt.ms)
    (listed : Listed active proposal ↔ Listed active row) :
    (Store.perform (.saveProposal proposal) store).2.ranked active =
      (store.ranked active).map (overwrite proposal) := by
  rw [Store.ranked, rows.proposalRows_save stored, rows.latestFirst_save stored createdAt,
    List.filter_map, Store.ranked]
  refine congrArg (List.map _) (List.filter_congr fun other member => ?_)
  obtain ⟨old, there, rfl⟩ := rows.mem (mem_latestFirst.mp member)
  simp only [Function.comp_apply, overwrite]
  split
  · rename_i here
    rw [here, stored] at there
    cases there
    exact decide_eq_decide.mpr listed
  · rfl

theorem Rows.ranked_save_of_left (rows : Rows store)
    (stored : store.proposals proposal.id = some row)
    (createdAt : proposal.createdAt.ms = row.createdAt.ms) (left : proposal.status ≠ .active) :
    (Store.perform (.saveProposal proposal) store).2.ranked true =
      (store.ranked true).filter fun other => other.id ≠ proposal.id := by
  rw [Store.ranked, rows.proposalRows_save stored, rows.latestFirst_save stored createdAt,
    List.filter_map, Store.ranked, List.filter_filter]
  have kept : (Store.latestFirst (·.createdAt) store.proposalRows).filter
        ((fun other => decide (Listed true other)) ∘ overwrite proposal) =
      (Store.latestFirst (·.createdAt) store.proposalRows).filter
        fun other => decide (other.id ≠ proposal.id) && decide (Listed true other) := by
    refine List.filter_congr fun other _ => ?_
    simp only [Function.comp_apply, overwrite]
    by_cases here : other.id = proposal.id
    · simp [here, Listed, Proposal.columns, left]
    · simp [here]
  rw [kept]
  refine (List.map_congr_left fun other member => ?_).trans (List.map_id' _)
  have away := (List.mem_filter.mp member).2
  simp only [Bool.and_eq_true, decide_eq_true_eq] at away
  exact overwrite_of_ne away.1

theorem Rows.page_save (rows : Rows store) {active : Bool} {limit offset : Nat}
    (stored : store.proposals proposal.id = some row)
    (createdAt : proposal.createdAt.ms = row.createdAt.ms)
    (opened : proposal.status = .active → row.status = .active)
    (unshown : ∀ other ∈ page limit offset (store.ranked active), other.id ≠ proposal.id)
    (behind : active = true → proposal.status ≠ .active → page limit offset (store.ranked active) ≠ [] →
      ∀ other ∈ (store.ranked active).take offset, other.id ≠ proposal.id) :
    page limit offset ((Store.perform (.saveProposal proposal) store).2.ranked active) =
      page limit offset (store.ranked active) := by
  by_cases left : active = true ∧ proposal.status ≠ .active
  · obtain ⟨rfl, left⟩ := left
    rw [rows.ranked_save_of_left stored createdAt left]
    by_cases empty : page limit offset (store.ranked true) = []
    · rw [Page.filter_of_nil empty, empty]
    · refine Page.filter_of_upTo fun other early => decide_eq_true ?_
      rcases Page.mem_upTo_cases early with before | shown
      · exact behind rfl left empty other before
      · exact unshown other shown
  · have listed : Listed active proposal ↔ Listed active row := by
      cases active with
      | false => simp [Listed]
      | true =>
          have stays : proposal.status = .active := by simpa using left
          simp [Listed, stays, opened stays]
    rw [rows.ranked_save_of_listed stored createdAt listed]
    exact Page.map_of_unshown fun other shown => overwrite_of_ne (unshown other shown)

/-! ## A new row -/

theorem proposalRows_insert (store : Store) (proposal : Proposal) :
    (Store.perform (.insertProposal proposal) store).2.proposalRows =
      store.proposalRows ++ [(Store.perform (.insertProposal proposal) store).1.columns] := by
  simp only [Store.proposalRows, Store.perform, List.range_succ, List.filterMap_append]
  congr 1
  · refine List.filterMap_congr fun id member => ?_
    rw [Function.update_of_ne (Nat.ne_of_lt (List.mem_range.mp member))]
  · simp only [List.filterMap_cons, Function.update_self, Option.map_some, List.filterMap_nil,
      columns_columns]

theorem length_ranked (store : Store) (active : Bool) : (store.ranked active).length =
    (store.proposalRows.filter fun proposal => Listed active proposal).length :=
  ((List.mergeSort_perm ..).filter _).length_eq

theorem length_ranked_insert (store : Store) (proposal : Proposal) (active : Bool) :
    ((Store.perform (.insertProposal proposal) store).2.ranked active).length ≤
      (store.ranked active).length + 1 := by
  rw [length_ranked, length_ranked, proposalRows_insert, List.filter_append, List.length_append]
  exact Nat.add_le_add_left (List.length_filter_le ..) _

theorem latestFirst_concat {α : Type} (date : α → Timestamp) (rows : List α) (new : α) :
    ∃ before after, Store.latestFirst date rows = before ++ after ∧
      Store.latestFirst date (rows ++ [new]) = before ++ new :: after ∧
      before = (Store.latestFirst date rows).filter fun row => (date new).ms ≤ (date row).ms := by
  have trans : ∀ first second third : α, decide ((date second).ms ≤ (date first).ms) = true →
      decide ((date third).ms ≤ (date second).ms) = true →
      decide ((date third).ms ≤ (date first).ms) = true := by
    simp only [decide_eq_true_eq]
    exact fun _ _ _ later later' => later'.trans later
  have total : ∀ first second : α, (decide ((date second).ms ≤ (date first).ms) ||
      decide ((date first).ms ≤ (date second).ms)) = true := by
    simp only [Bool.or_eq_true, decide_eq_true_eq]
    exact fun _ _ => Int.le_total _ _
  have sorted := List.pairwise_mergeSort trans total rows
  exact ⟨_, _, (Sorted.filter_append_filter sorted fun first second => trans first second new).symm,
    Sorted.mergeSort_concat trans total rows new, rfl⟩

theorem page_insert {active : Bool} {limit offset : Nat}
    (away : (store.ranked active).length < offset ∨ limit ≠ 0 ∧
      offset + limit ≤
        ((store.ranked active).filter fun other => store.clock ≤ other.createdAt.ms).length) :
    page limit offset ((Store.perform (.insertProposal proposal) store).2.ranked active) =
      page limit offset (store.ranked active) := by
  rcases away with short | ⟨limited, older⟩
  · rw [Page.eq_nil_of_short (Nat.le_of_lt short),
      Page.eq_nil_of_short ((length_ranked_insert store proposal active).trans short)]
  · obtain ⟨before, after, sorted, inserted, first⟩ := latestFirst_concat (·.createdAt)
      store.proposalRows (Store.perform (.insertProposal proposal) store).1.columns
    have enough : offset + limit ≤ (before.filter fun proposal => Listed active proposal).length := by
      rw [first, List.filter_comm]
      exact older
    rw [Store.ranked, Store.ranked, proposalRows_insert, inserted, sorted, List.filter_append,
      List.filter_append, List.filter_cons]
    split
    · exact Page.insert_of_le limited enough
    · rfl

theorem votesOf_saveVote (store : Store) (vote : Vote) (proposalId : Nat) :
    (Store.perform (.saveVote vote) store).2.votesOf proposalId = store.votesOf proposalId ++
      if vote.proposalId = proposalId then [(Store.perform (.saveVote vote) store).1] else [] := by
  simp only [Store.votesOf, Store.perform, List.filter_append, List.filter_cons, List.filter_nil,
    decide_eq_true_eq]

end Tables

end Kanaka.Backend.GovernanceService
