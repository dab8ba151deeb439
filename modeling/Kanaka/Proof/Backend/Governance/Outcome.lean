import Kanaka.Proof.Backend.Governance.Rows

/-! # The outcome that an execution records -/

namespace Kanaka.Backend.GovernanceService
open Kanaka.Async

/-- The step of the try block that fails. -/
inductive Fault where
  | action (position : Nat)
  | save
  | delProposal
  | delProposals
  | broadcast
deriving DecidableEq

def Fault.hits : Fault → Op → Bool
  | .action position, .executeGovernanceAction _ place _ => position = place
  | .save, .saveProposal _ => true
  | .delProposal, .redisDel (.proposal _) => true
  | .delProposals, .redisDel .proposals => true
  | .broadcast, .broadcastProposalUpdate _ => true
  | _, _ => false

def attempt (error : JsError) (op : Op) :
    Store × Option Fault → Except JsError (Reply op) × (Store × Option Fault)
  | (store, fault) =>
      if fault.any (·.hits op) then (.error error, ((Store.failed op store).getD store, none))
      else (.ok (Store.perform op store).1, ((Store.perform op store).2, fault))

def Store.statusOf (store : Store) (id : Nat) : Option Status :=
  (store.proposals id).map (·.status)

def effects (before after : Store) : List Action :=
  ((after.actions.drop before.actions.length).filter (·.succeeded)).map (·.action)

/-- The stored status of a proposal tells what was executed of it. -/
def Faithful (row : Proposal) (before after : Store) : Prop :=
  (after.statusOf row.id = some .executed ↔ row.actions = some (effects before after)) ∧
  (after.statusOf row.id = some .rejected → effects before after = [])

instance (row : Proposal) (before after : Store) : Decidable (Faithful row before after) :=
  inferInstanceAs (Decidable (_ ∧ _))

/-- No step fails, or one before anything took effect. -/
def Harmless (row : Proposal) (fault : Option Fault) : Prop :=
  ∀ actions ∈ row.actions, ∀ failing ∈ fault,
    ∃ position, failing = .action position ∧ (position = 0 ∨ actions.length ≤ position)

section Runs
variable {error : JsError} {fault : Option Fault} {store : Store}

theorem run_perform_missed {op : Op} (missed : fault.any (·.hits op) = false) :
    (perform op).run (attempt error) (store, fault) =
      (.ok (Store.perform op store).1, ((Store.perform op store).2, fault)) := by
  rw [perform, Task.run_perform]
  simp only [attempt, missed, Bool.false_eq_true, if_false]

theorem run_perform_hit {op : Op} {after : Store} (hit : fault.any (·.hits op) = true)
    (failed : Store.failed op store = some after) :
    (perform op).run (attempt error) (store, fault) = (.error error, (after, none)) := by
  rw [perform, Task.run_perform]
  simp only [attempt, hit, if_true, failed, Option.getD_some]

theorem run_missed {α : Type} {op : Op} {next : Reply op → Async α}
    (missed : fault.any (·.hits op) = false) :
    (perform op >>= next).run (attempt error) (store, fault) =
      (next (Store.perform op store).1).run (attempt error) ((Store.perform op store).2, fault) :=
  Task.run_bind_ok (run_perform_missed missed)

theorem run_hit {α : Type} {op : Op} {next : Reply op → Async α} {after : Store}
    (hit : fault.any (·.hits op) = true) (failed : Store.failed op store = some after) :
    (perform op >>= next).run (attempt error) (store, fault) = (.error error, (after, none)) :=
  Task.run_bind_error (run_perform_hit hit failed)

theorem missed_of_never {op : Op} (never : ∀ failing : Fault, failing.hits op = false) :
    fault.any (·.hits op) = false := by
  cases fault with
  | none => rfl
  | some failing => exact never failing

variable (error fault) in
theorem run_getProposal_loaded {id : Nat} {row : Proposal}
    (uncached : store.cache (.proposal id) = none) (stored : store.proposals id = some row) :
    (getProposal id).run (attempt error) (store, fault) =
      (.ok (store.loaded id row), ({ store with
        cache := Function.update store.cache (.proposal id) (some (store.loaded id row)) }, fault)) := by
  have get : (getJson (.proposal id)).run (attempt error) (store, fault) =
      (.ok none, (store, fault)) := by
    rw [getJson, Task.run_tryCatch, run_missed (missed_of_never (by rintro (_ | _) <;> rfl))]
    show (Except.ok ((store.cache (.proposal id)).map _), (store, fault)) = _
    rw [uncached]
    rfl
  have find : Store.perform (.findProposal id) store = (some (store.loaded id row), store) := by
    show ((store.proposals id).map (store.loaded id), store) = _
    rw [stored]
    rfl
  rw [getProposal, Task.run_bind_ok get]
  simp only
  rw [run_missed (missed_of_never (by rintro (_ | _) <;> rfl)), find]
  simp only
  rw [setJson, run_missed (missed_of_never (by rintro (_ | _) <;> rfl))]
  rfl

def passedOn (proposalId : Nat) : Nat → List Action → List ActionCall
  | _, [] => []
  | position, action :: actions =>
      ⟨proposalId, position, action, true⟩ :: passedOn proposalId (position + 1) actions

theorem run_executeActions (proposalId position : Nat) (actions : List Action)
    (missed : ∀ place, fault = some (.action place) →
      place < position ∨ position + actions.length ≤ place) :
    (executeActions proposalId position actions).run (attempt error) (store, fault) =
      (.ok (), ({ store with
        actions := store.actions ++ passedOn proposalId position actions }, fault)) := by
  induction actions generalizing store position with
  | nil =>
      rw [passedOn, List.append_nil]
      rfl
  | cons action actions ih =>
      have here : fault.any (·.hits (.executeGovernanceAction proposalId position action)) = false := by
        cases fault with
        | none => rfl
        | some failing =>
            cases failing with
            | action place =>
                have apart := missed place rfl
                rw [List.length_cons] at apart
                exact decide_eq_false (by omega)
            | _ => rfl
      rw [executeActions, run_missed here, ih]
      · rw [passedOn]
        show (Except.ok (), ({ store with
          actions := store.actions ++ [_] ++ passedOn proposalId (position + 1) actions }, fault)) = _
        rw [List.append_assoc]
        rfl
      · intro place failing
        have apart := missed place failing
        rw [List.length_cons] at apart
        omega

variable (error store) in
theorem run_executeActions_failed (proposalId position place : Nat) (actions : List Action)
    (inside : place < actions.length) :
    ∃ log, (executeActions proposalId position actions).run (attempt error)
        (store, some (.action (position + place))) =
      (.error error, ({ store with actions := store.actions ++ log }, none)) ∧
      (log.filter (·.succeeded)).map (·.action) = actions.take place := by
  induction actions generalizing store position place with
  | nil => exact absurd inside (Nat.not_lt_zero place)
  | cons action actions ih =>
      cases place with
      | zero =>
          have hit : (some (Fault.action (position + 0))).any
              (·.hits (.executeGovernanceAction proposalId position action)) = true :=
            decide_eq_true rfl
          refine ⟨[⟨proposalId, position, action, false⟩], ?_, rfl⟩
          rw [executeActions, run_hit hit rfl]
      | succ place =>
          have missed : (some (Fault.action (position + (place + 1)))).any
              (·.hits (.executeGovernanceAction proposalId position action)) = false :=
            decide_eq_false (by omega)
          rw [List.length_cons] at inside
          obtain ⟨log, run, succeeded⟩ := ih _ (position + 1) place (Nat.lt_of_succ_lt_succ inside)
          refine ⟨⟨proposalId, position, action, true⟩ :: log, ?_, ?_⟩
          · rw [executeActions, run_missed missed,
              show position + (place + 1) = position + 1 + place by omega, run]
            show (Except.error error, ({ store with actions := store.actions ++ [_] ++ log }, none)) = _
            rw [List.append_assoc]
            rfl
          · rw [List.filter_cons, if_pos rfl, List.map_cons, succeeded, List.take_succ_cons]

def Proposal.concluded (proposal : Proposal) (status : Status) (now : Int) : Proposal :=
  { proposal with status, executedAt := some (.date now) }

def Store.saved (store : Store) (proposal : Proposal) : Store :=
  { store with proposals := Function.update store.proposals proposal.id (some proposal.columns) }

def Store.dropped (store : Store) (key : Key) : Store :=
  { store with cache := Function.update store.cache key none }

def Store.recorded (store : Store) (proposalId : Nat) (proposal : Proposal) : Store :=
  ((store.saved proposal).dropped (.proposal proposalId)).dropped .proposals

theorem run_recordOutcome (proposalId : Nat) (proposal : Proposal) (status : Status) (text : String)
    (calm : ∀ failing ∈ fault, ∃ place, failing = .action place) :
    (recordOutcome proposalId proposal status text).run (attempt error) (store, fault) =
      (.ok (proposal.concluded status store.clock),
        (store.recorded proposalId (proposal.concluded status store.clock), fault)) := by
  have missed : ∀ {op : Op}, (∀ place, Fault.hits (.action place) op = false) →
      fault.any (·.hits op) = false := by
    intro op never
    cases fault with
    | none => rfl
    | some failing =>
        obtain ⟨place, rfl⟩ := calm failing rfl
        exact never place
  rw [recordOutcome, run_missed (missed fun _ => rfl), run_missed (missed fun _ => rfl),
    run_missed (missed fun _ => rfl), run_missed (missed fun _ => rfl), broadcast,
    run_missed (missed fun _ => rfl)]
  rfl

theorem statusOf_concluded {after : Store} {proposal : Proposal} {status : Status} {now : Int}
    (updated : after.proposals =
      Function.update store.proposals proposal.id (some (proposal.concluded status now).columns)) :
    after.statusOf proposal.id = some status := by
  rw [Store.statusOf, updated, Function.update_self]
  rfl

variable (error store) in
theorem run_recordOutcome_failed (proposalId : Nat) (proposal : Proposal) (status : Status)
    (text : String) {failing : Fault} (later : ∀ place, failing ≠ .action place) :
    ∃ after, (recordOutcome proposalId proposal status text).run (attempt error)
        (store, some failing) = (.error error, (after, none)) ∧
      after.actions = store.actions ∧ after.clock = store.clock ∧
      (after.statusOf proposal.id = store.statusOf proposal.id ∨
        after.statusOf proposal.id = some status) := by
  have now : (some failing).any (·.hits .now) = false := missed_of_never (by rintro (_ | _) <;> rfl)
  cases failing with
  | action place => exact absurd rfl (later place)
  | save =>
      refine ⟨store, ?_, rfl, rfl, .inl rfl⟩
      rw [recordOutcome, run_missed now, run_hit rfl rfl]
      rfl
  | delProposal =>
      refine ⟨store.saved (proposal.concluded status store.clock), ?_, rfl, rfl,
        .inr (statusOf_concluded rfl)⟩
      rw [recordOutcome, run_missed now, run_missed rfl, run_hit rfl rfl]
      rfl
  | delProposals =>
      refine ⟨(store.saved (proposal.concluded status store.clock)).dropped (.proposal proposalId),
        ?_, rfl, rfl, .inr (statusOf_concluded rfl)⟩
      rw [recordOutcome, run_missed now, run_missed rfl, run_missed rfl, run_hit rfl rfl]
      rfl
  | broadcast =>
      refine ⟨store.recorded proposalId (proposal.concluded status store.clock), ?_, rfl, rfl,
        .inr (statusOf_concluded rfl)⟩
      rw [recordOutcome, run_missed now, run_missed rfl, run_missed rfl, run_missed rfl, broadcast,
        run_hit rfl rfl]
      rfl

theorem effects_of_log {after : Store} {log : List ActionCall}
    (actions : after.actions = store.actions ++ log) :
    effects store after = (log.filter (·.succeeded)).map (·.action) := by
  rw [effects, actions, List.drop_left]

theorem effects_passedOn (proposalId position : Nat) (actions : List Action) :
    ((passedOn proposalId position actions).filter (·.succeeded)).map (·.action) = actions := by
  induction actions generalizing position with
  | nil => rfl
  | cons action actions ih => rw [passedOn, List.filter_cons, if_pos rfl, List.map_cons, ih]

def concluding (proposalId : Nat) (proposal : Proposal) : Async Proposal :=
  (carryOut proposalId proposal).tryCatch fun error => do
    let _ ← recordOutcome proposalId proposal .rejected "failed"
    .fail error

structure Leaves (error : JsError) (store : Store) (fault : Option Fault) (proposal : Proposal)
    (status : Status) (log : List ActionCall) (after : Store) : Prop where
  run : ((concluding proposal.id proposal).run (attempt error) (store, fault)).2.1 = after
  status : after.statusOf proposal.id = some status
  actions : after.actions = store.actions ++ log

variable {proposal : Proposal} {actions : List Action}

theorem leaves_of_caught {middle : Store} {fault' : Option Fault} {log : List ActionCall}
    {thrown : JsError} (failed : (carryOut proposal.id proposal).run (attempt error) (store, fault) =
      (.error thrown, (middle, fault')))
    (acted : middle.actions = store.actions ++ log)
    (calm : ∀ failing ∈ fault', ∃ place, failing = .action place) :
    ∃ after, Leaves error store fault proposal .rejected log after := by
  refine ⟨middle.recorded proposal.id (proposal.concluded .rejected middle.clock), ?_,
    statusOf_concluded rfl, acted⟩
  rw [concluding, Task.run_caught failed, Task.run_bind_ok (run_recordOutcome _ _ _ _ calm)]
  rfl

variable (error fault store) in
theorem carryOut_unparsed (unparsed : proposal.actions = none) :
    (carryOut proposal.id proposal).run (attempt error) (store, fault) =
      (.error (.ofMessage "Unexpected token in JSON"), (store, fault)) := by
  rw [carryOut, unparsed]
  rfl

theorem leaves_of_unparsed (unparsed : proposal.actions = none)
    (passed : store.statusOf proposal.id = some .passed) :
    ∃ status after, status ≠ .executed ∧ Leaves error store fault proposal status [] after := by
  have failed := carryOut_unparsed error fault store unparsed
  by_cases calm : ∀ failing ∈ fault, ∃ place, failing = .action place
  · obtain ⟨after, leaves⟩ := leaves_of_caught failed (List.append_nil _).symm calm
    exact ⟨.rejected, after, nofun, leaves⟩
  · cases fault with
    | none => exact absurd nofun calm
    | some failing =>
        have later : ∀ place, failing ≠ .action place := by
          rintro place rfl
          apply calm
          rintro other ⟨⟩
          exact ⟨place, rfl⟩
        obtain ⟨after, run, acted, -, status⟩ := run_recordOutcome_failed error store
          proposal.id proposal .rejected "failed" later
        have caught : ((concluding proposal.id proposal).run (attempt error)
            (store, some failing)).2.1 = after := by
          rw [concluding, Task.run_caught failed, Task.run_bind_error run]
        rw [← List.append_nil store.actions] at acted
        rcases status with before | now
        · exact ⟨.passed, after, nofun, caught, before.trans passed, acted⟩
        · exact ⟨.rejected, after, nofun, caught, now, acted⟩

theorem leaves_of_executed (parsed : proposal.actions = some actions)
    (missed : ∀ failing ∈ fault, ∃ place, failing = .action place ∧ actions.length ≤ place) :
    ∃ after, Leaves error store fault proposal .executed (passedOn proposal.id 0 actions) after := by
  have beyond : ∀ place, fault = some (.action place) → place < 0 ∨ 0 + actions.length ≤ place := by
    intro place failing
    obtain ⟨other, same, beyond⟩ := missed _ failing
    cases same
    exact .inr ((Nat.zero_add _).symm ▸ beyond)
  have calm : ∀ failing ∈ fault, ∃ place, failing = .action place :=
    fun failing hit => (missed failing hit).elim fun place missed => ⟨place, missed.1⟩
  refine ⟨Store.recorded { store with actions := store.actions ++ passedOn proposal.id 0 actions }
    proposal.id (proposal.concluded .executed store.clock), ?_, statusOf_concluded rfl, rfl⟩
  rw [concluding, Task.run_tryCatch, carryOut, parsed]
  simp only
  rw [Task.run_bind_ok (run_executeActions _ _ _ beyond), run_recordOutcome _ _ _ _ calm]

theorem leaves_of_faultless : ∃ status log after, (status = .executed ∨ status = .rejected) ∧
    Leaves error store none proposal status log after := by
  cases parsed : proposal.actions with
  | none =>
      have failed := carryOut_unparsed error none store parsed
      obtain ⟨after, leaves⟩ := leaves_of_caught failed (List.append_nil _).symm nofun
      exact ⟨.rejected, [], after, .inr rfl, leaves⟩
  | some actions =>
      have executed : ∃ after, Leaves error store none proposal .executed
          (passedOn proposal.id 0 actions) after := leaves_of_executed parsed nofun
      obtain ⟨after, leaves⟩ := executed
      exact ⟨.executed, _, after, .inl rfl, leaves⟩

theorem leaves_of_partial {place : Nat} (parsed : proposal.actions = some actions)
    (inside : place < actions.length) :
    ∃ log after, Leaves error store (some (.action place)) proposal .rejected log after ∧
      (log.filter (·.succeeded)).map (·.action) = actions.take place := by
  obtain ⟨log, run, succeeded⟩ := run_executeActions_failed error store
    proposal.id 0 place actions inside
  rw [Nat.zero_add] at run
  have failed : (carryOut proposal.id proposal).run (attempt error) (store, some (.action place)) =
      (.error error, ({ store with actions := store.actions ++ log }, none)) := by
    rw [carryOut, parsed]
    exact Task.run_bind_error run
  obtain ⟨after, leaves⟩ := leaves_of_caught failed rfl nofun
  exact ⟨log, after, leaves, succeeded⟩

theorem leaves_of_late {failing : Fault} (parsed : proposal.actions = some actions)
    (later : ∀ place, failing ≠ .action place) :
    ∃ after, Leaves error store (some failing) proposal .rejected (passedOn proposal.id 0 actions)
      after := by
  have missed : ∀ place, some failing = some (.action place) →
      place < 0 ∨ 0 + actions.length ≤ place :=
    fun place same => absurd (Option.some.inj same) (later place)
  obtain ⟨middle, run, acted, -⟩ := run_recordOutcome_failed error
    { store with actions := store.actions ++ passedOn proposal.id 0 actions } proposal.id
    proposal .executed "completed" later
  have failed : (carryOut proposal.id proposal).run (attempt error) (store, some failing) =
      (.error error, (middle, none)) := by
    rw [carryOut, parsed]
    exact (Task.run_bind_ok (run_executeActions _ _ _ missed)).trans run
  exact leaves_of_caught failed acted nofun

variable {config : Config} {row : Proposal}

def Store.primed (store : Store) (row : Proposal) : Store :=
  { store with
    cache := Function.update store.cache (.proposal row.id) (some (store.loaded row.id row)) }

structure Ready (config : Config) (store : Store) (row : Proposal) : Prop where
  stored : store.proposals row.id = some row
  uncached : store.cache (.proposal row.id) = none
  passed : row.status = .passed
  delayed : row.endTime.ms + config.executionDelay * 1000 ≤ store.clock

variable (error fault) in
theorem Ready.run (ready : Ready config store row) :
    (executeProposal config row.id).run (attempt error) (store, fault) =
      (concluding row.id (store.loaded row.id row)).run (attempt error) (store.primed row, fault) := by
  have status : ¬ (store.loaded row.id row).status ≠ .passed := not_not.mpr ready.passed
  have ends : (store.loaded row.id row).endTime = .date row.endTime.ms := rfl
  have now : fault.any (·.hits .now) = false := missed_of_never (by rintro (_ | _) <;> rfl)
  rw [executeProposal, Task.run_bind_ok (run_getProposal_loaded _ _ ready.uncached ready.stored),
    Task.run_throwIf_neg status, ends]
  simp only
  rw [run_missed now, Task.run_throwIf_neg]
  · rfl
  · exact Int.not_lt.mpr ready.delayed

theorem Ready.statusOf (ready : Ready config store row) :
    (store.primed row).statusOf (store.loaded row.id row).id = some .passed := by
  show (store.proposals row.id).map (·.status) = _
  rw [ready.stored, Option.map_some, ready.passed]

theorem Ready.faithful_iff {status : Status} {log : List ActionCall} {after : Store}
    (ready : Ready config store row)
    (leaves : Leaves error (store.primed row) fault (store.loaded row.id row) status log after) :
    Faithful row store ((executeProposal config row.id).run (attempt error) (store, fault)).2.1 ↔
      (status = .executed ↔ row.actions = some ((log.filter (·.succeeded)).map (·.action))) ∧
      (status = .rejected → (log.filter (·.succeeded)).map (·.action) = []) := by
  have run := ready.run error fault ▸ leaves.run
  have stored : after.statusOf row.id = some status := leaves.status
  have actions : after.actions = store.actions ++ log := leaves.actions
  rw [run, Faithful, stored, effects_of_log actions, Option.some.injEq, Option.some.injEq]

theorem harmless_iff (parsed : row.actions = some actions) : Harmless row fault ↔
    ∀ failing ∈ fault, ∃ place, failing = .action place ∧ (place = 0 ∨ actions.length ≤ place) := by
  unfold Harmless
  rw [parsed]
  exact ⟨fun harmless => harmless actions rfl, fun harmless _ same => Option.some.inj same ▸ harmless⟩

theorem Ready.faithful_of_executed (ready : Ready config store row)
    (parsed : row.actions = some actions)
    (missed : ∀ failing ∈ fault, ∃ place, failing = .action place ∧ actions.length ≤ place) :
    Faithful row store ((executeProposal config row.id).run (attempt error) (store, fault)).2.1 := by
  have executed : ∃ after, Leaves error (store.primed row) fault (store.loaded row.id row) .executed
      (passedOn row.id 0 actions) after := leaves_of_executed parsed missed
  obtain ⟨after, leaves⟩ := executed
  rw [ready.faithful_iff leaves, effects_passedOn]
  exact ⟨⟨fun _ => parsed, fun _ => rfl⟩, nofun⟩

theorem Ready.faithful_iff_of_partial {place : Nat} (ready : Ready config store row)
    (parsed : row.actions = some actions) (inside : place < actions.length) :
    Faithful row store
      ((executeProposal config row.id).run (attempt error) (store, some (.action place))).2.1 ↔
      place = 0 := by
  have stopped : ∃ log after, Leaves error (store.primed row) (some (.action place))
      (store.loaded row.id row) .rejected log after ∧
      (log.filter (·.succeeded)).map (·.action) = actions.take place := leaves_of_partial parsed inside
  obtain ⟨log, after, leaves, succeeded⟩ := stopped
  rw [ready.faithful_iff leaves, succeeded, parsed, Option.some.injEq]
  refine ⟨fun faithful => ?_, ?_⟩
  · have nothing := congrArg List.length (faithful.2 rfl)
    rw [List.length_take, List.length_nil] at nothing
    omega
  · rintro rfl
    refine ⟨⟨nofun, fun all => ?_⟩, fun _ => List.take_zero⟩
    rw [all, List.take_zero] at inside
    contradiction

theorem Ready.unfaithful_of_late {failing : Fault} (ready : Ready config store row)
    (parsed : row.actions = some actions) (later : ∀ place, failing ≠ .action place) :
    ¬ Faithful row store
      ((executeProposal config row.id).run (attempt error) (store, some failing)).2.1 := by
  have rejected : ∃ after, Leaves error (store.primed row) (some failing) (store.loaded row.id row)
      .rejected (passedOn row.id 0 actions) after := leaves_of_late parsed later
  obtain ⟨after, leaves⟩ := rejected
  rw [ready.faithful_iff leaves, effects_passedOn]
  intro faithful
  exact absurd (faithful.1.mpr parsed) nofun

/-- The recorded outcome matches what was executed unless a step fails after an action took
effect or after the actions. -/
theorem executeProposal_faithful_iff (ready : Ready config store row) :
    Faithful row store ((executeProposal config row.id).run (attempt error) (store, fault)).2.1 ↔
      Harmless row fault := by
  cases parsed : row.actions with
  | none =>
      have unparsed : ∃ status after, status ≠ .executed ∧ Leaves error (store.primed row) fault
          (store.loaded row.id row) status [] after := leaves_of_unparsed parsed ready.statusOf
      obtain ⟨status, after, unexecuted, leaves⟩ := unparsed
      have faithful := (ready.faithful_iff leaves).mpr
        ⟨⟨fun executed => absurd executed unexecuted, fun same => by rw [parsed] at same; contradiction⟩,
          fun _ => rfl⟩
      exact ⟨fun _ _ same => by rw [parsed] at same; contradiction, fun _ => faithful⟩
  | some actions =>
      rw [harmless_iff parsed]
      cases fault with
      | none => exact ⟨fun _ => nofun, fun _ => ready.faithful_of_executed parsed nofun⟩
      | some failing =>
          by_cases early : ∃ place, failing = .action place
          · obtain ⟨place, rfl⟩ := early
            by_cases inside : place < actions.length
            · rw [ready.faithful_iff_of_partial parsed inside]
              refine ⟨?_, fun harmless => ?_⟩
              · rintro start _ ⟨⟩
                exact ⟨place, rfl, .inl start⟩
              · obtain ⟨other, same, early⟩ := harmless _ rfl
                cases same
                exact early.resolve_right (Nat.not_le.mpr inside)
            · have beyond : ∀ failing ∈ some (Fault.action place),
                  ∃ place, failing = .action place ∧ actions.length ≤ place := by
                rintro _ ⟨⟩
                exact ⟨place, rfl, Nat.not_lt.mp inside⟩
              refine ⟨fun _ failing hit => ?_, fun _ => ready.faithful_of_executed parsed beyond⟩
              obtain ⟨other, same, past⟩ := beyond failing hit
              exact ⟨other, same, .inr past⟩
          · have later : ∀ place, failing ≠ .action place := fun place same => early ⟨place, same⟩
            refine ⟨fun faithful => absurd faithful (ready.unfaithful_of_late parsed later), ?_⟩
            intro harmless
            obtain ⟨place, same, -⟩ := harmless failing rfl
            exact absurd same (later place)

end Runs

theorem ready_passedProposal : Ready defaultConfig (storeOf passedProposal 100000000) passedProposal :=
  ⟨rfl, rfl, rfl, by decide⟩

theorem faithful_of_first_action_failed : Faithful passedProposal (storeOf passedProposal 100000000)
    ((executeProposal defaultConfig 1).run (attempt (.ofMessage "reverted"))
      (storeOf passedProposal 100000000, some (.action 0))).2.1 := by
  refine (executeProposal_faithful_iff ready_passedProposal).mpr ?_
  rintro actions - failing ⟨⟩
  exact ⟨0, rfl, .inl rfl⟩

/-- All actions were executed and saved as executed, and then the cache cannot be cleared. -/
theorem unfaithful_of_delProposal : ¬ Faithful passedProposal (storeOf passedProposal 100000000)
    ((executeProposal defaultConfig 1).run (attempt (.ofMessage "Redis is not connected"))
      (storeOf passedProposal 100000000, some .delProposal)).2.1 := by
  decide

end Kanaka.Backend.GovernanceService
