import Kanaka.Proof.Backend.Governance.Outcome

/-! # Proposals out of the cache -/

namespace Kanaka.Backend.GovernanceService
open Kanaka.Async

def answer (op : Op) (store : Store) : Except JsError (Reply op) × Store :=
  (.ok (Store.perform op store).1, (Store.perform op store).2)

/-- The operations that read a proposal through `getProposal`. -/
inductive Operation where
  | vote (userId : Nat) (dto : VoteDto)
  | executeProposal
  | cancelProposal

def outcome {α : Type} (ran : Except JsError α × Store) :
    Bool × (Nat → Option Proposal) × List Vote × List ActionCall :=
  (ran.1.isOk, ran.2.proposals, ran.2.votes, ran.2.actions)

def Operation.outcome (config : Config) (id : Nat) (store : Store) :
    Operation → Bool × (Nat → Option Proposal) × List Vote × List ActionCall
  | .vote userId dto => GovernanceService.outcome ((GovernanceService.vote userId id dto).run answer store)
  | .executeProposal => GovernanceService.outcome ((GovernanceService.executeProposal config id).run answer store)
  | .cancelProposal => GovernanceService.outcome ((GovernanceService.cancelProposal id).run answer store)

/-- What the check of the end lets through only where the end is a string, or what only works where
it is a date. -/
def Operation.Reveals (config : Config) (store : Store) (row : Proposal) : Operation → Prop
  | .vote _ dto => row.status = .active ∧ row.endTime.ms < store.clock ∧
      (∀ vote ∈ store.votes, vote.proposalId = row.id → vote.voterAddress ≠ dto.walletAddress) ∧
      0 < store.balances dto.walletAddress
  | .executeProposal => row.status = .passed ∧
      row.endTime.ms + config.executionDelay * 1000 ≤ store.clock
  | .cancelProposal => False

def Store.unprimed (store : Store) (row : Proposal) : Store := store.dropped (.proposal row.id)

section Runs
variable {config : Config} {store : Store} {row copy : Proposal} {id : Nat} {after : Store}

theorem run_answer {α : Type} {op : Op} {next : Reply op → Async α} {reply : Reply op}
    (served : Store.perform op store = (reply, after)) :
    (perform op >>= next).run answer store = (next reply).run answer after := by
  apply Task.run_bind_ok
  rw [perform, Task.run_perform, answer, served]

theorem perform_now : Store.perform .now store = (store.clock, store) := rfl

theorem perform_balance (walletAddress : String) :
    Store.perform (.getGovernanceTokenBalance walletAddress) store =
      (store.balances walletAddress, store) := rfl

theorem perform_findVote (walletAddress : String) :
    Store.perform (.findVote id walletAddress) store =
      ((store.votesOf id).find? fun vote => vote.voterAddress = walletAddress, store) := rfl

theorem run_attempt_none {α : Type} {error : JsError} (task : Async α) :
    task.run (attempt error) (store, none) =
      ((task.run answer store).1, ((task.run answer store).2, none)) :=
  Task.run_simulates (fun store => (store, none)) (fun _ _ => rfl) task store

variable (store row) in
theorem run_getProposal_primed :
    (getProposal row.id).run answer (store.primed row) =
      (.ok (store.loaded row.id row).json, store.primed row) := by
  have get : (getJson (.proposal row.id)).run answer (store.primed row) =
      (.ok (some (store.loaded row.id row).json), store.primed row) := by
    have cached : Store.perform (.redisGet (.proposal row.id)) (store.primed row) =
        (some (store.loaded row.id row), store.primed row) :=
      Prod.ext (Function.update_self ..) rfl
    rw [getJson, Task.run_tryCatch, run_answer cached]
    rfl
  rw [getProposal, Task.run_bind_ok get]
  rfl

theorem run_getProposal_unprimed (stored : store.proposals row.id = some row) :
    (getProposal row.id).run answer (store.unprimed row) =
      (.ok (store.loaded row.id row), store.primed row) := by
  have uncached : (store.unprimed row).cache (.proposal row.id) = none := Function.update_self ..
  have run := run_getProposal_loaded (.ofMessage "") none uncached stored
  have primed : ({ store.unprimed row with
      cache := Function.update (store.unprimed row).cache (.proposal row.id)
        (some ((store.unprimed row).loaded row.id row)) } : Store) = store.primed row := by
    show ({ store with cache := Function.update (Function.update store.cache _ none) _ _ } : Store) = _
    rw [Function.update_idem]
    rfl
  rw [run_attempt_none, primed] at run
  have ⟨value, rest⟩ := Prod.mk.inj run
  exact Prod.ext value (Prod.mk.inj rest).1

theorem columns_json (proposal : Proposal) : proposal.json.columns = proposal.columns := by
  unfold Proposal.json Proposal.columns
  cases proposal.executedAt <;> rfl

/-! ## Votes -/

def Accepts (store : Store) (id : Nat) (copy : Proposal) (walletAddress : String) : Prop :=
  copy.status = .active ∧ ¬ copy.endTime.past store.clock ∧
  (∀ vote ∈ store.votes, vote.proposalId = id → vote.voterAddress ≠ walletAddress) ∧
  0 < store.balances walletAddress

def Store.cast (store : Store) (userId id : Nat) (dto : VoteDto) : Vote where
  id := store.nextVote
  proposalId := id
  voterId := userId
  voterAddress := dto.walletAddress
  power := store.balances dto.walletAddress
  support := dto.support
  createdAt := .date store.clock

def Store.voted (store : Store) (userId id : Nat) (dto : VoteDto) (copy : Proposal) : Store :=
  { store.saved (copy.withVote dto.support (store.balances dto.walletAddress)) with
    votes := store.votes ++ [store.cast userId id dto]
    nextVote := store.nextVote + 1
    cache := Function.update store.cache (.proposal id) none }

variable {start : Store} {userId : Nat} {dto : VoteDto}

theorem run_vote_accepted (got : (getProposal id).run answer start = (.ok copy, store))
    (accepts : Accepts store id copy dto.walletAddress) :
    (vote userId id dto).run answer start =
      (.ok (store.cast userId id dto), store.voted userId id dto copy) := by
  obtain ⟨active, running, unvoted, power⟩ := accepts
  have find : ((store.votesOf id).find? fun vote => vote.voterAddress = dto.walletAddress) = none := by
    rw [List.find?_eq_none]
    intro vote member
    obtain ⟨stored, here⟩ := List.mem_filter.mp member
    simpa only [decide_eq_true_eq] using unvoted vote stored (of_decide_eq_true here)
  have unseen : ¬ (none : Option Vote).isSome = true := Bool.false_ne_true
  rw [vote, Task.run_bind_ok got, Task.run_throwIf_neg (not_not.mpr active), run_answer perform_now,
    Task.run_throwIf_neg running, run_answer (perform_findVote _), find, Task.run_throwIf_neg unseen,
    run_answer (perform_balance _), Task.run_throwIf_neg (Int.not_le.mpr power)]
  rfl

variable (userId) in
theorem run_vote_refused (got : (getProposal id).run answer start = (.ok copy, store))
    (refuses : ¬ Accepts store id copy dto.walletAddress) :
    ∃ error, (vote userId id dto).run answer start = (.error error, store) := by
  rw [vote, Task.run_bind_ok got]
  by_cases active : copy.status = .active
  · rw [Task.run_throwIf_neg (not_not.mpr active), run_answer perform_now]
    by_cases past : copy.endTime.past store.clock
    · rw [Task.run_throwIf_pos past]
      exact ⟨_, rfl⟩
    · rw [Task.run_throwIf_neg past, run_answer (perform_findVote _)]
      cases found : (store.votesOf id).find? fun vote => vote.voterAddress = dto.walletAddress with
      | some existing =>
          rw [Task.run_throwIf_pos (Option.isSome_some ..)]
          exact ⟨_, rfl⟩
      | none =>
          have unvoted : ∀ vote ∈ store.votes, vote.proposalId = id →
              vote.voterAddress ≠ dto.walletAddress := by
            intro vote member here wallet
            have known : vote ∈ store.votesOf id := List.mem_filter.mpr ⟨member, decide_eq_true here⟩
            exact List.find?_eq_none.mp found vote known (decide_eq_true wallet)
          have powerless : store.balances dto.walletAddress ≤ 0 :=
            Int.not_lt.mp fun power => refuses ⟨active, past, unvoted, power⟩
          have unseen : ¬ (none : Option Vote).isSome = true := Bool.false_ne_true
          rw [Task.run_throwIf_neg unseen, run_answer (perform_balance _),
            Task.run_throwIf_pos powerless]
          exact ⟨_, rfl⟩
  · rw [Task.run_throwIf_pos active]
    exact ⟨_, rfl⟩

theorem saved_json (store : Store) (proposal : Proposal) :
    store.saved proposal.json = store.saved proposal := by
  unfold Store.saved
  rw [columns_json]
  rfl

theorem withVote_json (proposal : Proposal) (support : Support) (power : Int) :
    proposal.json.withVote support power = (proposal.withVote support power).json := by
  cases support <;> rfl

theorem voted_json (store : Store) (userId id : Nat) (dto : VoteDto) (copy : Proposal) :
    store.voted userId id dto copy.json = store.voted userId id dto copy := by
  unfold Store.voted
  rw [withVote_json, saved_json]

theorem accepts_json (store : Store) (id : Nat) (copy : Proposal) (walletAddress : String) :
    Accepts store id copy.json walletAddress ↔ copy.status = .active ∧
      (∀ vote ∈ store.votes, vote.proposalId = id → vote.voterAddress ≠ walletAddress) ∧
      0 < store.balances walletAddress :=
  ⟨fun ⟨active, _, rest⟩ => ⟨active, rest⟩, fun ⟨active, rest⟩ => ⟨active, fun past => past, rest⟩⟩

/-! ## Cancellations -/

theorem run_cancelProposal (got : (getProposal id).run answer start = (.ok copy, store)) :
    outcome ((cancelProposal id).run answer start) =
      if copy.status = .active ∨ copy.status = .pending then
        (true, (store.saved { copy with status := .cancelled }).proposals, store.votes, store.actions)
      else (false, store.proposals, store.votes, store.actions) := by
  rw [cancelProposal, Task.run_bind_ok got]
  by_cases cancellable : copy.status = .active ∨ copy.status = .pending
  · rw [if_pos cancellable, Task.run_throwIf_neg (by tauto)]
    rfl
  · rw [if_neg cancellable, Task.run_throwIf_pos (by tauto)]
    rfl

/-! ## Executions -/

variable (config store row) in
theorem run_executeProposal_primed : ∃ error, (executeProposal config row.id).run answer
    (store.primed row) = (.error error, store.primed row) := by
  rw [executeProposal, Task.run_bind_ok (run_getProposal_primed store row)]
  by_cases passed : (store.loaded row.id row).json.status = .passed
  · rw [Task.run_throwIf_neg (not_not.mpr passed)]
    exact ⟨_, rfl⟩
  · rw [Task.run_throwIf_pos passed]
    exact ⟨_, rfl⟩

theorem run_executeProposal_refused (stored : store.proposals row.id = some row)
    (refuses : ¬ Operation.executeProposal.Reveals config store row) :
    ∃ error, (executeProposal config row.id).run answer (store.unprimed row) =
      (.error error, store.primed row) := by
  rw [executeProposal, Task.run_bind_ok (run_getProposal_unprimed stored)]
  by_cases passed : (store.loaded row.id row).status = .passed
  · have waiting : (store.primed row).clock < row.endTime.ms + config.executionDelay * 1000 :=
      Int.not_le.mp fun delayed => refuses ⟨passed, delayed⟩
    have ends : (store.loaded row.id row).endTime = .date row.endTime.ms := rfl
    rw [Task.run_throwIf_neg (not_not.mpr passed), ends]
    simp only
    rw [run_answer perform_now, Task.run_throwIf_pos waiting]
    exact ⟨_, rfl⟩
  · rw [Task.run_throwIf_pos passed]
    exact ⟨_, rfl⟩

theorem statusOf_executeProposal (stored : store.proposals row.id = some row)
    (reveals : Operation.executeProposal.Reveals config store row) :
    ((executeProposal config row.id).run answer (store.unprimed row)).2.statusOf row.id ≠
      some .passed := by
  have ready : Ready config (store.unprimed row) row :=
    ⟨stored, Function.update_self .., reveals.1, reveals.2⟩
  have settled : ∃ status log after, (status = .executed ∨ status = .rejected) ∧
      Leaves (.ofMessage "") ((store.unprimed row).primed row) none
        ((store.unprimed row).loaded row.id row) status log after := leaves_of_faultless
  obtain ⟨status, log, after, final, leaves⟩ := settled
  have run := ready.run (.ofMessage "") none ▸ leaves.run
  rw [run_attempt_none] at run
  rw [show ((executeProposal config row.id).run answer (store.unprimed row)).2 = after from run,
    show after.statusOf row.id = some status from leaves.status]
  rcases final with rfl | rfl <;> nofun

/-! ## Both ways -/

theorem outcome_vote_iff (stored : store.proposals row.id = some row) :
    (Operation.vote userId dto).outcome config row.id (store.primed row) =
        (Operation.vote userId dto).outcome config row.id (store.unprimed row) ↔
      ¬ (Operation.vote userId dto).Reveals config store row := by
  have got := run_getProposal_primed store row
  have got' := run_getProposal_unprimed stored
  have reveals : (Operation.vote userId dto).Reveals config store row ↔
      Accepts (store.primed row) row.id (store.loaded row.id row).json dto.walletAddress ∧
      ¬ Accepts (store.primed row) row.id (store.loaded row.id row) dto.walletAddress := by
    rw [accepts_json]
    refine ⟨fun ⟨active, past, rest⟩ => ⟨⟨active, rest⟩, fun accepts => accepts.2.1 past⟩, ?_⟩
    rintro ⟨⟨active, rest⟩, refuses⟩
    refine ⟨active, ?_, rest⟩
    by_contra running
    exact refuses ⟨active, running, rest⟩
  rw [reveals]
  simp only [Operation.outcome]
  by_cases accepts : Accepts (store.primed row) row.id (store.loaded row.id row).json dto.walletAddress
  · rw [run_vote_accepted got accepts]
    by_cases accepts' : Accepts (store.primed row) row.id (store.loaded row.id row) dto.walletAddress
    · rw [run_vote_accepted got' accepts', voted_json]
      exact ⟨fun _ reveals => reveals.2 accepts', fun _ => rfl⟩
    · obtain ⟨error, refused⟩ := run_vote_refused userId got' accepts'
      rw [refused]
      refine ⟨fun same => absurd (congrArg (·.1) same) nofun, fun hidden => absurd ⟨accepts, accepts'⟩ hidden⟩
  · have refuses : ¬ Accepts (store.primed row) row.id (store.loaded row.id row) dto.walletAddress :=
      fun ⟨active, _, rest⟩ => accepts ((accepts_json ..).mpr ⟨active, rest⟩)
    obtain ⟨error, refused⟩ := run_vote_refused userId got accepts
    obtain ⟨error', refused'⟩ := run_vote_refused userId got' refuses
    rw [refused, refused']
    exact ⟨fun _ reveals => accepts reveals.1, fun _ => rfl⟩

theorem outcome_executeProposal_iff (stored : store.proposals row.id = some row) :
    Operation.executeProposal.outcome config row.id (store.primed row) =
        Operation.executeProposal.outcome config row.id (store.unprimed row) ↔
      ¬ Operation.executeProposal.Reveals config store row := by
  obtain ⟨error, primed⟩ := run_executeProposal_primed config store row
  simp only [Operation.outcome]
  rw [primed]
  refine ⟨fun same reveals => ?_, fun refuses => ?_⟩
  · apply statusOf_executeProposal stored reveals
    have proposals := congrArg (·.2.1) same
    have proposals : store.proposals =
        ((executeProposal config row.id).run answer (store.unprimed row)).2.proposals := proposals
    rw [Store.statusOf, ← proposals, stored, Option.map_some, reveals.1]
  · obtain ⟨error', refused⟩ := run_executeProposal_refused stored refuses
    rw [refused]
    rfl

/-- Through the cache every operation does the same as from the database, but for a vote after the
end, which the cache lets through, and an execution that is due, which the cache prevents. -/
theorem sameOutcome_iff (stored : store.proposals row.id = some row) (operation : Operation) :
    operation.outcome config row.id (store.primed row) =
        operation.outcome config row.id (store.unprimed row) ↔
      ¬ operation.Reveals config store row := by
  cases operation with
  | vote userId dto => exact outcome_vote_iff stored
  | executeProposal => exact outcome_executeProposal_iff stored
  | cancelProposal =>
      refine ⟨fun _ reveals => reveals, fun _ => ?_⟩
      simp only [Operation.outcome]
      rw [run_cancelProposal (run_getProposal_primed store row),
        run_cancelProposal (run_getProposal_unprimed stored)]
      have cancelled : ({ (store.loaded row.id row).json with status := .cancelled } : Proposal) =
          ({ store.loaded row.id row with status := .cancelled } : Proposal).json := rfl
      rw [cancelled, saved_json]
      rfl

end Runs

theorem sameOutcome_of_running_vote :
    (Operation.vote 7 ⟨.yes, "0xa"⟩).outcome defaultConfig 1
        ((storeOf openProposal 10).primed openProposal) =
      (Operation.vote 7 ⟨.yes, "0xa"⟩).outcome defaultConfig 1
        ((storeOf openProposal 10).unprimed openProposal) := by
  have stored : (storeOf openProposal 10).proposals openProposal.id = some openProposal := rfl
  refine (sameOutcome_iff stored (.vote 7 ⟨.yes, "0xa"⟩)).mpr ?_
  intro reveals
  exact absurd reveals.2.1 (by decide)

/-- A vote 19 seconds after the end is refused without the cache, and counted with it. -/
theorem late_vote_through_cache :
    ((Operation.vote 7 ⟨.yes, "0xa"⟩).outcome defaultConfig 1
      ((storeOf openProposal 20000).unprimed openProposal)).1 = false ∧
    ((Operation.vote 7 ⟨.yes, "0xa"⟩).outcome defaultConfig 1
      ((storeOf openProposal 20000).primed openProposal)).1 = true := by
  decide

end Kanaka.Backend.GovernanceService
