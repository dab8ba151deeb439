import Kanaka.Proof.Backend.Governance.Rows

/-! # Actions run once -/

namespace Kanaka.Backend.GovernanceService
open Kanaka.Async

def ActionCall.place (entry : ActionCall) : Nat × Nat := (entry.proposalId, entry.position)

/-- No action of a proposal was passed on twice. -/
def ActionsOnce (store : Store) : Prop := (store.actions.map (·.place)).Nodup

instance (store : Store) : Decidable (ActionsOnce store) :=
  inferInstanceAs (Decidable (List.Nodup _))

def Underway (proposalId : Nat) (stage : Stage) : Prop :=
  stage.call = .executeProposal proposalId ∧ 0 < (notesOf stage).passedOn ∧ ¬ stage.rest.Finished

instance (proposalId : Nat) (stage : Stage) : Decidable (Underway proposalId stage) :=
  inferInstanceAs (Decidable (_ ∧ _ ∧ ¬ _))

/-- Only executions run. One passes on its first action only while the proposal is stored as passed
and no other execution of it is under way, and the save of a failed outcome fails only in one that
passed on nothing. -/
def claimsAlone (pool : Calls) : Async.Action Call Op Reply JsError Store → Bool
  | .start (.executeProposal _) => true
  | .start _ => false
  | .serve task ⟨.executeGovernanceAction proposalId 0 _, _⟩ =>
      (pool.state.proposals proposalId).all (fun row => row.status = .passed) &&
        (pool.tasks.eraseIdx task).all fun stage => ¬ Underway proposalId stage
  | .serve task ⟨.saveProposal proposal, .error _⟩ =>
      proposal.status ≠ .rejected || pool.tasks[task]?.all fun stage => (notesOf stage).passedOn = 0
  | _ => true

def Store.Passed (store : Store) (id : Nat) : Prop :=
  ∃ row, store.proposals id = some row ∧ row.status = .passed

structure Once (pool : Calls) : Prop where
  linked : Linked pool
  only : ∀ stage ∈ pool.tasks, ∃ proposalId, stage.call = .executeProposal proposalId
  once : ActionsOnce pool.state
  behind : ∀ {id : Nat}, ∀ stage ∈ pool.tasks, Underway id stage →
    ∀ entry ∈ pool.state.actions, entry.proposalId = id → entry.position < (notesOf stage).passedOn
  alone : ∀ {task other id : Nat} {first second : Stage}, pool.tasks[task]? = some first →
    pool.tasks[other]? = some second → Underway id first → Underway id second → task = other
  claimed : ∀ entry ∈ pool.state.actions, pool.state.Passed entry.proposalId →
    ∃ stage ∈ pool.tasks, Underway entry.proposalId stage
  recorded : ∀ {id : Nat}, ∀ stage ∈ pool.tasks, stage.call = .executeProposal id →
    (notesOf stage).saved = true → ¬ pool.state.Passed id
  gaveUp : ∀ stage ∈ pool.tasks, (notesOf stage).gaveUp = true →
    (notesOf stage).tried = true ∧ (notesOf stage).passedOn = 0

variable {config : Config} {pool : Calls} {task : Nat} {stage next : Stage} {after : Store}

theorem Store.Passed.of_update {store : Store} {id other : Nat} {proposal : Proposal}
    (passed : after.Passed other)
    (updated : after.proposals = Function.update store.proposals id (some proposal))
    (status : proposal.status ≠ .passed) : other ≠ id ∧ store.Passed other := by
  obtain ⟨row, stored, still⟩ := passed
  rw [updated] at stored
  rcases update_eq_some stored with ⟨-, rfl⟩ | ⟨apart, old⟩
  · exact absurd still status
  · exact ⟨apart, row, old, still⟩

theorem not_underway_start (call : Call) (id : Nat) : ¬ Underway id ⟨call, [], body config call⟩ :=
  fun underway => absurd underway.2.1 (Nat.lt_irrefl 0)

theorem Once.start (once : Once pool) {call : Call} (permitted : claimsAlone pool (.start call) = true) :
    Once ⟨pool.state, pool.tasks ++ [⟨call, [], body config call⟩]⟩ := by
  have execution : ∃ proposalId, call = .executeProposal proposalId := by
    cases call with
    | executeProposal proposalId => exact ⟨proposalId, rfl⟩
    | _ => contradiction
  refine ⟨once.linked.start call, forall_start once.only execution, once.once, ?_, ?_, ?_, ?_,
    forall_start once.gaveUp nofun⟩
  · intro id
    exact forall_start once.behind fun underway => absurd underway (not_underway_start call id)
  · intro task other id first second found found' underway underway'
    rcases getElem?_start found with old | ⟨-, rfl⟩
    · rcases getElem?_start found' with old' | ⟨-, rfl⟩
      · exact once.alone old old' underway underway'
      · exact absurd underway' (not_underway_start call id)
    · exact absurd underway (not_underway_start call id)
  · intro entry member passed
    obtain ⟨stage, known, underway⟩ := once.claimed entry member passed
    exact ⟨stage, List.mem_append_left _ known, underway⟩
  · intro id
    exact forall_start once.recorded fun _ => nofun

theorem underway_of_passed {id : Nat} {store : Store} (keeps : (discipline config).Keeps stage)
    (call : stage.call = .executeProposal id) (began : 0 < (notesOf stage).passedOn)
    (recorded : (notesOf stage).saved = true → ¬ store.Passed id)
    (gaveUp : (notesOf stage).gaveUp = true → (notesOf stage).passedOn = 0)
    (passed : store.Passed id) : Underway id stage := by
  refine ⟨call, began, ?_⟩
  intro finished
  rcases (ended_of_finished keeps finished).2 with unused | saved | given
  · exact began.ne' unused
  · exact recorded saved passed
  · exact began.ne' (gaveUp given)

structure Noted (stage next : Stage) (after : Store) : Prop where
  call : next.call = stage.call
  running : ¬ stage.rest.Finished
  recorded : ∀ {id : Nat}, next.call = .executeProposal id → (notesOf next).saved = true →
    ¬ after.Passed id
  gaveUp : (notesOf next).gaveUp = true → (notesOf next).tried = true ∧ (notesOf next).passedOn = 0

theorem Once.serve (once : Once pool) (linked : Linked ⟨after, pool.tasks.set task next⟩)
    (found : pool.tasks[task]? = some stage) (keeps : (discipline config).Keeps next)
    (noted : Noted stage next after) (actions : after.actions = pool.state.actions)
    (passed : ∀ id, after.Passed id → pool.state.Passed id)
    (passedOn : (notesOf next).passedOn = (notesOf stage).passedOn) :
    Once ⟨after, pool.tasks.set task next⟩ := by
  have member := List.mem_of_getElem? found
  have before : ∀ {id : Nat}, Underway id next → Underway id stage :=
    fun underway => ⟨noted.call ▸ underway.1, passedOn ▸ underway.2.1, noted.running⟩
  have execution : ∃ proposalId, next.call = .executeProposal proposalId :=
    noted.call ▸ once.only stage member
  refine ⟨linked, forall_serve once.only execution, ?_, ?_, ?_, ?_, ?_,
    forall_serve once.gaveUp noted.gaveUp⟩
  · unfold ActionsOnce
    rw [actions]
    exact once.once
  · rw [actions]
    intro id
    refine forall_serve once.behind ?_
    rw [passedOn]
    exact fun underway => once.behind stage member (before underway)
  · intro place other id first second served served' underway underway'
    rcases getElem?_serve served with ⟨-, old⟩ | ⟨rfl, rfl⟩
    · rcases getElem?_serve served' with ⟨-, old'⟩ | ⟨rfl, rfl⟩
      · exact once.alone old old' underway underway'
      · exact once.alone old found underway (before underway')
    · rcases getElem?_serve served' with ⟨-, old'⟩ | ⟨rfl, -⟩
      · exact once.alone found old' (before underway) underway'
      · rfl
  · rw [actions]
    intro entry taken still
    obtain ⟨running, known, underway⟩ := once.claimed entry taken (passed _ still)
    obtain ⟨place, old⟩ := List.getElem?_of_mem known
    by_cases here : place = task
    · subst here
      rw [found, Option.some.injEq] at old
      subst old
      have call := noted.call.trans underway.1
      have began : 0 < (notesOf next).passedOn := passedOn ▸ underway.2.1
      exact ⟨next, List.mem_of_getElem? (getElem?_served found),
        underway_of_passed keeps call began (noted.recorded call) (fun given => (noted.gaveUp given).2)
          still⟩
    · exact ⟨running, List.mem_of_getElem? (getElem?_other here old), underway⟩
  · intro id
    refine forall_serve ?_ noted.recorded
    exact fun running old call saved still => once.recorded running old call saved (passed id still)

section Pass
variable {proposalId : Nat} (once : Once pool) (found : pool.tasks[task]? = some stage)
  (call : stage.call = .executeProposal proposalId) (running : ¬ stage.rest.Finished)
  (first : (notesOf stage).passedOn = 0 → pool.state.Passed proposalId ∧
    ∀ other ∈ pool.tasks.eraseIdx task, ¬ Underway proposalId other)
include once found call running first

theorem Once.only_passing {place : Nat} {other : Stage} (apart : place ≠ task)
    (old : pool.tasks[place]? = some other) : ¬ Underway proposalId other := by
  intro underway
  by_cases start : (notesOf stage).passedOn = 0
  · exact (first start).2 other (List.mem_eraseIdx_iff_getElem?.mpr ⟨place, apart, old⟩) underway
  · exact apart (once.alone old found underway ⟨call, Nat.pos_of_ne_zero start, running⟩)

theorem Once.behind_passing : ∀ entry ∈ pool.state.actions, entry.proposalId = proposalId →
    entry.position < (notesOf stage).passedOn := by
  intro entry taken here
  by_cases start : (notesOf stage).passedOn = 0
  · obtain ⟨other, known, underway⟩ := once.claimed entry taken (here ▸ (first start).1)
    rw [here] at underway
    obtain ⟨place, old⟩ := List.getElem?_of_mem known
    by_cases apart : place = task
    · subst apart
      rw [found, Option.some.injEq] at old
      subst old
      exact absurd start underway.2.1.ne'
    · exact absurd underway (once.only_passing found call running first apart old)
  · exact once.behind stage (List.mem_of_getElem? found)
      ⟨call, Nat.pos_of_ne_zero start, running⟩ entry taken here

section Passed
variable {entry : ActionCall} (its : ∀ {id : Nat}, Underway id next → id = proposalId)
  (proposed : entry.proposalId = proposalId)
include its

omit found call running first in
theorem Once.underway_next (only : ∀ {place : Nat} {other : Stage}, place ≠ task →
    pool.tasks[place]? = some other → ¬ Underway proposalId other) {place other id : Nat}
    {one another : Stage} (served : (pool.tasks.set task next)[place]? = some one)
    (served' : (pool.tasks.set task next)[other]? = some another) (underway : Underway id one)
    (underway' : Underway id another) : place = other := by
  rcases getElem?_serve served with ⟨apart, old⟩ | ⟨rfl, rfl⟩
  · rcases getElem?_serve served' with ⟨-, old'⟩ | ⟨rfl, rfl⟩
    · exact once.alone old old' underway underway'
    · exact absurd (its underway' ▸ underway) (only apart old)
  · rcases getElem?_serve served' with ⟨apart, old'⟩ | ⟨rfl, -⟩
    · exact absurd (its underway ▸ underway') (only apart old')
    · rfl

include proposed

theorem Once.behind_next (position : entry.position = (notesOf stage).passedOn)
    (passedOn : (notesOf next).passedOn = (notesOf stage).passedOn + 1) {id : Nat} :
    ∀ other ∈ pool.tasks.set task next, Underway id other →
      ∀ old ∈ pool.state.actions ++ [entry], old.proposalId = id →
        old.position < (notesOf other).passedOn := by
  intro other known underway old taken here
  obtain ⟨place, served⟩ := List.getElem?_of_mem known
  rcases getElem?_serve served with ⟨apart, found'⟩ | ⟨-, rfl⟩
  · rcases List.mem_append.mp taken with taken | new
    · exact once.behind other (List.mem_of_getElem? found') underway old taken here
    · rw [List.mem_singleton] at new
      subst new
      rw [← here, proposed] at underway
      exact absurd underway (once.only_passing found call running first apart found')
  · rw [passedOn]
    rcases List.mem_append.mp taken with taken | new
    · exact Nat.lt_succ_of_lt (once.behind_passing found call running first old taken
        (here.trans (its underway)))
    · rw [List.mem_singleton] at new
      subst new
      exact position ▸ Nat.lt_succ_self _

omit its first running in
theorem Once.claimed_next (same : ∀ id, after.Passed id → pool.state.Passed id)
    (goesOn : after.Passed proposalId → Underway proposalId next) :
    ∀ old ∈ pool.state.actions ++ [entry], after.Passed old.proposalId →
      ∃ other ∈ pool.tasks.set task next, Underway old.proposalId other := by
  intro old taken still
  have here : next ∈ pool.tasks.set task next := List.mem_of_getElem? (getElem?_served found)
  rcases List.mem_append.mp taken with taken | new
  · obtain ⟨other, known, underway⟩ := once.claimed old taken (same _ still)
    obtain ⟨place, found'⟩ := List.getElem?_of_mem known
    by_cases apart : place = task
    · subst apart
      rw [found, Option.some.injEq] at found'
      subst found'
      have aim := Call.executeProposal.inj (underway.1.symm.trans call)
      exact ⟨next, here, aim ▸ goesOn (aim ▸ still)⟩
    · exact ⟨other, List.mem_of_getElem? (getElem?_other apart found'), underway⟩
  · rw [List.mem_singleton] at new
    subst new
    exact ⟨next, here, proposed ▸ goesOn (proposed ▸ still)⟩

end Passed

end Pass

theorem ActionsOnce.concat {store : Store} {entry : ActionCall} (once : ActionsOnce store)
    (earlier : ∀ old ∈ store.actions, old.proposalId = entry.proposalId → old.position < entry.position)
    (actions : after.actions = store.actions ++ [entry]) : ActionsOnce after := by
  unfold ActionsOnce
  rw [actions, List.map_append, List.nodup_append]
  refine ⟨once, List.nodup_singleton _, ?_⟩
  intro place old new last
  obtain ⟨before, taken, rfl⟩ := List.mem_map.mp old
  rw [List.map_singleton, List.mem_singleton] at last
  rintro rfl
  have behind := earlier before taken (congrArg Prod.fst last)
  exact behind.ne (congrArg Prod.snd last)

theorem Once.pass {proposalId : Nat} {action : Action} {succeeded : Bool} (once : Once pool)
    (linked : Linked ⟨after, pool.tasks.set task next⟩) (found : pool.tasks[task]? = some stage)
    (keeps : (discipline config).Keeps next) (noted : Noted stage next after)
    (call : stage.call = .executeProposal proposalId)
    (proposals : after.proposals = pool.state.proposals)
    (actions : after.actions =
      pool.state.actions ++ [⟨proposalId, (notesOf stage).passedOn, action, succeeded⟩])
    (passedOn : (notesOf next).passedOn = (notesOf stage).passedOn + 1)
    (first : (notesOf stage).passedOn = 0 → pool.state.Passed proposalId ∧
      ∀ other ∈ pool.tasks.eraseIdx task, ¬ Underway proposalId other) :
    Once ⟨after, pool.tasks.set task next⟩ := by
  have executes := noted.call.trans call
  have same : ∀ id, after.Passed id → pool.state.Passed id := by
    rintro id ⟨row, stored, status⟩
    exact ⟨row, proposals ▸ stored, status⟩
  have its : ∀ {id : Nat}, Underway id next → id = proposalId :=
    fun underway => (Call.executeProposal.inj (executes.symm.trans underway.1)).symm
  have goesOn : after.Passed proposalId → Underway proposalId next :=
    underway_of_passed keeps executes (passedOn ▸ Nat.succ_pos _) (noted.recorded executes)
      fun given => (noted.gaveUp given).2
  refine ⟨linked, forall_serve once.only ⟨proposalId, executes⟩, ?_, ?_, ?_, ?_, ?_,
    forall_serve once.gaveUp noted.gaveUp⟩
  · exact once.once.concat (once.behind_passing found call noted.running first) actions
  · rw [actions]
    exact once.behind_next found call noted.running first its rfl rfl passedOn
  · exact once.underway_next its (once.only_passing found call noted.running first)
  · rw [actions]
    exact once.claimed_next found call rfl same goesOn
  · intro id
    refine forall_serve ?_ noted.recorded
    exact fun running old call saved still => once.recorded running old call saved (same id still)

theorem first_of_claimsAlone {proposalId : Nat} {action : Action} {answer : Except JsError Unit}
    (permitted : claimsAlone pool
      (.serve task ⟨.executeGovernanceAction proposalId 0 action, answer⟩) = true)
    (known : ∃ row, pool.state.proposals proposalId = some row) : pool.state.Passed proposalId ∧
      ∀ other ∈ pool.tasks.eraseIdx task, ¬ Underway proposalId other := by
  obtain ⟨row, stored⟩ := known
  have alone := Bool.and_eq_true_iff.mp permitted
  rw [stored] at alone
  refine ⟨⟨row, stored, of_decide_eq_true alone.1⟩, ?_⟩
  intro other elsewhere
  exact of_decide_eq_true (List.all_eq_true.mp alone.2 other elsewhere)

section Turn
variable (once : Once pool) (found : pool.tasks[task]? = some stage) (call : next.call = stage.call)
  (running : ¬ stage.rest.Finished)
include once found call running

theorem Once.keep (linked : Linked ⟨after, pool.tasks.set task next⟩)
    (keeps : (discipline config).Keeps next) (actions : after.actions = pool.state.actions)
    (proposals : after.proposals = pool.state.proposals)
    (passedOn : (notesOf next).passedOn = (notesOf stage).passedOn)
    (saved : (notesOf next).saved = (notesOf stage).saved)
    (tried : (notesOf next).tried = (notesOf stage).tried)
    (gaveUp : (notesOf next).gaveUp = (notesOf stage).gaveUp) :
    Once ⟨after, pool.tasks.set task next⟩ := by
  have member := List.mem_of_getElem? found
  have same : ∀ id, after.Passed id → pool.state.Passed id := by
    rintro id ⟨row, stored, status⟩
    exact ⟨row, proposals ▸ stored, status⟩
  refine once.serve linked found keeps ⟨call, running, ?_, ?_⟩ actions same passedOn
  · rw [call, saved]
    exact fun call saved still => once.recorded stage member call saved (same _ still)
  · rw [gaveUp, tried, passedOn]
    exact once.gaveUp stage member

theorem Once.save {proposalId id : Nat} {proposal : Proposal}
    (linked : Linked ⟨after, pool.tasks.set task next⟩) (keeps : (discipline config).Keeps next)
    (execution : stage.call = .executeProposal proposalId) (here : id = proposalId)
    (updated : after.proposals = Function.update pool.state.proposals id (some proposal))
    (settled : proposal.status ≠ .passed) (actions : after.actions = pool.state.actions)
    (passedOn : (notesOf next).passedOn = (notesOf stage).passedOn)
    (tried : (notesOf next).tried = true)
    (gaveUp : (notesOf next).gaveUp = (notesOf stage).gaveUp) :
    Once ⟨after, pool.tasks.set task next⟩ := by
  refine once.serve linked found keeps ⟨call, running, ?_, ?_⟩ actions
    (fun _ passed => (passed.of_update updated settled).2) passedOn
  · intro other executing _ still
    rw [call, execution, Call.executeProposal.injEq] at executing
    exact (still.of_update updated settled).1 (executing.symm.trans here.symm)
  · rw [gaveUp, tried, passedOn]
    exact fun given => ⟨rfl, (once.gaveUp stage (List.mem_of_getElem? found) given).2⟩

end Turn

theorem Once.turn {event : Event Op Reply JsError} (once : Once pool)
    (found : pool.tasks[task]? = some stage) (call : next.call = stage.call)
    (running : ¬ stage.rest.Finished) (permitted : claimsAlone pool (.serve task event) = true)
    (keeps : (discipline config).Keeps next)
    (turn : Turn config stage.call (notesOf stage) pool.state event (notesOf next) after) :
    Once ⟨after, pool.tasks.set task next⟩ := by
  have member := List.mem_of_getElem? found
  have linked := once.linked.turn found call turn
  obtain ⟨proposalId, execution⟩ := once.only stage member
  have reads := once.linked.reads stage member
  have target : stage.call.target = some proposalId := by rw [execution]; rfl
  generalize noted : notesOf next = notes at turn
  have keeping : after.actions = pool.state.actions → after.proposals = pool.state.proposals →
      notes.passedOn = (notesOf stage).passedOn → notes.saved = (notesOf stage).saved →
      notes.tried = (notesOf stage).tried → notes.gaveUp = (notesOf stage).gaveUp →
      Once ⟨after, pool.tasks.set task next⟩ := by
    subst noted
    exact once.keep found call running linked keeps
  cases turn with
  | quiet quiet => exact keeping quiet.actions quiet.proposals rfl rfl rfl rfl
  | fetch | remember | load => exact keeping rfl rfl rfl rfl rfl rfl
  | ended processing =>
      rw [execution] at processing
      contradiction
  | unvoted voting | insertVote voting =>
      rw [execution] at voting
      contradiction
  | @insertProposal proposal reply row active yes no abstain made =>
      have unpassed : row.status ≠ .passed := by
        subst made
        intro passed
        exact absurd (active.symm.trans passed) nofun
      refine once.serve linked found keeps ⟨call, running, ?_, ?_⟩ rfl
        (fun _ passed => (passed.of_update rfl unpassed).2) (congrArg Notes.passedOn noted)
      · rw [call, noted]
        exact fun call saved still =>
          once.recorded stage member call saved (still.of_update rfl unpassed).2
      · rw [noted]
        exact once.gaveUp stage member
  | @save proposal copy read here written =>
      rw [execution] at written
      obtain ⟨status, now, final, -, rfl⟩ := written
      have settled : status ≠ .passed := by rcases final with rfl | rfl <;> nofun
      exact once.save found call running linked keeps execution (reads.target target copy read) rfl
        settled rfl (by rw [noted]) (by rw [noted]) (by rw [noted])
  | @saveFailed proposal copy error read here written =>
      have unused : proposal.status = .rejected → (notesOf stage).passedOn = 0 := by
        intro rejected
        simpa only [claimsAlone, rejected, ne_eq, not_true_eq_false, decide_false, Bool.false_or,
          found, Option.all_some, decide_eq_true_eq] using permitted
      refine once.serve linked found keeps ⟨call, running, ?_, ?_⟩ rfl (fun _ passed => passed)
        (by rw [noted])
      · rw [call, noted]
        exact once.recorded stage member
      · rw [noted]
        intro given
        rcases Bool.or_eq_true_iff.mp given with before | rejected
        · exact ⟨rfl, (once.gaveUp stage member before).2⟩
        · exact ⟨rfl, unused (of_decide_eq_true rejected)⟩
  | @pass executed action copy answer succeeded executing untried loaded copies passed =>
      have known := reads.stored copy (copies ▸ List.mem_singleton_self copy)
      have aim := reads.target target copy (copies ▸ List.mem_singleton_self copy)
      rw [execution, Call.executeProposal.injEq] at executing
      subst executing
      refine once.pass linked found keeps ⟨call, running, ?_, ?_⟩ execution rfl rfl
        (congrArg Notes.passedOn noted) ?_
      · rw [call, noted]
        exact once.recorded stage member
      · rw [noted]
        intro given
        have tried := (once.gaveUp stage member given).1
        rw [untried] at tried
        contradiction
      · intro start
        rw [start] at permitted
        exact first_of_claimsAlone permitted (aim ▸ known)

theorem Once.drift (once : Once pool) (quiet : Quiet pool.state after) : Once ⟨after, pool.tasks⟩ := by
  have same : ∀ {id : Nat}, after.Passed id → pool.state.Passed id := by
    rintro id ⟨row, stored, status⟩
    exact ⟨row, quiet.proposals ▸ stored, status⟩
  refine ⟨once.linked.drift quiet, once.only, ?_, ?_, once.alone, ?_, ?_, once.gaveUp⟩
  · unfold ActionsOnce
    rw [quiet.actions]
    exact once.once
  · rw [quiet.actions]
    exact once.behind
  · rw [quiet.actions]
    exact fun entry taken still => once.claimed entry taken (same still)
  · exact fun stage member call saved still => once.recorded stage member call saved (same still)

/-- Actions are passed on once when each execution starts them alone, on a proposal that is still
stored as passed, and no outcome of actions that were passed on is lost. -/
theorem actionsOnce_of_claimsAlone {store : Store} (consistent : store.Consistent)
    (unused : store.actions = [])
    (reaches : (service config).Reaches (claimsAlone · ·) ⟨store, []⟩ pool) :
    ActionsOnce pool.state := by
  have once : Once pool := by
    apply invariant reaches nofun
    · refine ⟨⟨consistent, nofun⟩, nofun, ?_, nofun, nofun, ?_, nofun, nofun⟩
      · unfold ActionsOnce
        rw [unused]
        exact List.nodup_nil
      · rw [unused]
        exact fun _ taken => absurd taken List.not_mem_nil
    · exact fun _ _ once permitted => once.start permitted
    · exact fun _ _ _ _ _ _ once found call running permitted keeps turn =>
        once.turn found call running permitted keeps turn
    · exact fun _ _ once quiet => once.drift quiet
  exact once.once

/-! ## Overlapping executions -/

theorem actionsOnce_of_turns : ∃ pool,
    (service defaultConfig).Reaches (claimsAlone · ·) ⟨storeOf passedProposal 100000000, []⟩ pool ∧
    pool.state.actions.length = 2 ∧ ActionsOnce pool.state := by
  have run : ∃ pool,
      (service defaultConfig).Reaches (claimsAlone · ·) ⟨storeOf passedProposal 100000000, []⟩ pool ∧
      pool.state.actions.length = 2 := by
    apply (service defaultConfig).exists_of_play claimsAlone (fun _ _ passed => passed)
      ([.start (.executeProposal 1), .start (.executeProposal 1)] ++ steps 0 11 ++ steps 1 3)
    decide
  obtain ⟨pool, reaches, two⟩ := run
  have consistent : (storeOf passedProposal 100000000).Consistent := consistent_storeOf rfl
  exact ⟨pool, reaches, two, actionsOnce_of_claimsAlone consistent rfl reaches⟩

/-- Both executions load the proposal before either saves its outcome. -/
theorem execute_twice : ∃ pool,
    (service defaultConfig).Reaches (fun _ _ => True) ⟨storeOf passedProposal 100000000, []⟩ pool ∧
    pool.tasks.map (·.call) = [.executeProposal 1, .executeProposal 1] ∧
    ¬ ActionsOnce pool.state := by
  apply (service defaultConfig).exists_of_play (fun _ _ => true) (fun _ _ _ => trivial)
    ([.start (.executeProposal 1), .start (.executeProposal 1)] ++ steps 0 1 ++ steps 1 5 ++ steps 0 4)
  decide

end Kanaka.Backend.GovernanceService
