import Kanaka.Proof.Backend.Governance.Rows

/-! # Decided proposals stay as they are -/

namespace Kanaka.Backend.GovernanceService
open Kanaka.Async

def Leads (first second : Status) : Prop :=
  first = second ∨ first = .active ∧ second ≠ .pending ∨ first = .pending ∧ second = .cancelled ∨
  first = .passed ∧ (second = .executed ∨ second = .rejected)

instance (first second : Status) : Decidable (Leads first second) :=
  inferInstanceAs (Decidable (_ ∨ _ ∨ _ ∨ _))

theorem Leads.refl (status : Status) : Leads status status := .inl rfl

theorem Leads.trans {first second third : Status} (ahead : Leads first second)
    (behind : Leads second third) : Leads first third := by
  revert ahead behind
  cases first <;> cases second <;> cases third <;> decide

theorem Leads.antisymm {first second : Status} (ahead : Leads first second)
    (behind : Leads second first) : first = second := by
  revert ahead behind
  cases first <;> cases second <;> decide

/-- `later` may come after `earlier`, whose tallies it has once the vote is over. -/
structure Advances (earlier later : Proposal) : Prop where
  leads : Leads earlier.status later.status
  tallies : earlier.status ≠ .active → SameTallies earlier later

def Proposal.Decisive (config : Config) (proposal : Proposal) : Prop :=
  proposal.status = .passed →
    proposal.noVotes < proposal.yesVotes ∧ config.quorum ≤ proposal.totalVotes

instance (config : Config) (proposal : Proposal) : Decidable (proposal.Decisive config) :=
  inferInstanceAs (Decidable (_ → _))

def Final (config : Config) (before after : Store) : Prop :=
  ∀ id row, before.proposals id = some row → ∃ later, after.proposals id = some later ∧
    (row.status = .cancelled ∨ row.status = .rejected ∨ row.status = .executed →
      later.status = row.status) ∧
    (row.status = .passed →
      later.status = .passed ∨ later.status = .executed ∨ later.status = .rejected) ∧
    (row.status ≠ .active → SameTallies row later) ∧ row.Decisive config ∧ later.Decisive config

/-- The stored status is the one that a saved object was read with, or the save changes neither
status nor tallies. -/
def UpToDate (store : Store) (proposal : Proposal) (stage : Stage) : Prop :=
  ∀ row ∈ store.proposals proposal.id,
    (∀ copy ∈ (notesOf stage).copies, copy.id = proposal.id → copy.status = row.status) ∨
    proposal.status = row.status ∧ SameTallies row proposal

instance (store : Store) (proposal : Proposal) (stage : Stage) :
    Decidable (UpToDate store proposal stage) :=
  inferInstanceAs (Decidable (∀ _ ∈ _, _ ∨ _))

/-- No save overwrites a status that changed since the object was read. -/
def savesUpToDate (pool : Calls) : Async.Action Call Op Reply JsError Store → Bool
  | .serve task ⟨.saveProposal proposal, .ok _⟩ =>
      pool.tasks[task]?.all fun stage => UpToDate pool.state proposal stage
  | _ => true

theorem SameTallies.refl (proposal : Proposal) : SameTallies proposal proposal := ⟨rfl, rfl, rfl⟩

theorem SameTallies.symm {first second : Proposal} (same : SameTallies first second) :
    SameTallies second first :=
  ⟨same.1.symm, same.2.1.symm, same.2.2.symm⟩

theorem SameTallies.trans {first second third : Proposal} (same : SameTallies first second)
    (same' : SameTallies second third) : SameTallies first third :=
  ⟨same.1.trans same'.1, same.2.1.trans same'.2.1, same.2.2.trans same'.2.2⟩

theorem Advances.refl (proposal : Proposal) : Advances proposal proposal :=
  ⟨.refl _, fun _ => .refl _⟩

theorem Advances.trans {first second third : Proposal} (ahead : Advances first second)
    (behind : Advances second third) : Advances first third := by
  refine ⟨ahead.leads.trans behind.leads, ?_⟩
  intro closed
  have still : second.status ≠ .active := by
    have leads := ahead.leads
    intro active
    rw [active] at leads
    revert closed leads
    cases first.status <;> decide
  exact (ahead.tallies closed).trans (behind.tallies still)

/-! ## Copies and rows -/

structure Precedes (copy row : Proposal) : Prop where
  leads : Leads copy.status row.status
  tallies : copy.status = row.status → row.status ≠ .active → SameTallies copy row

theorem Precedes.advance {copy row later : Proposal} (precedes : Precedes copy row)
    (advances : Advances row later) : Precedes copy later := by
  refine ⟨precedes.leads.trans advances.leads, ?_⟩
  intro same closed
  have still : copy.status = row.status := by
    apply precedes.leads.antisymm
    rw [same]
    exact advances.leads
  have ended : row.status ≠ .active := by
    rw [← still, same]
    exact closed
  exact (precedes.tallies still ended).trans (advances.tallies ended)

structure Store.Sound (config : Config) (store : Store) : Prop where
  cached : ∀ {id proposal row}, store.cache (.proposal id) = some proposal →
    store.proposals id = some row → Precedes proposal row
  decisive : ∀ {id row}, store.proposals id = some row → row.Decisive config

structure Ordered (config : Config) (pool : Calls) : Prop where
  linked : Linked pool
  sound : pool.state.Sound config
  read : ∀ stage ∈ pool.tasks, ∀ copy ∈ (notesOf stage).copies, ∀ row,
    pool.state.proposals copy.id = some row → Precedes copy row
  active : ∀ stage ∈ pool.tasks, stage.call = .processEndedProposals →
    ∀ copy ∈ (notesOf stage).copies, copy.status = .active

variable {config : Config} {pool : Calls} {task : Nat} {stage next : Stage} {after : Store}

theorem Written.advances {notes : Notes} {copy proposal : Proposal} {call : Call}
    (written : Written config notes copy proposal call)
    (active : call = .processEndedProposals → copy.status = .active) :
    Advances copy proposal ∧ proposal.Decisive config := by
  cases call with
  | vote userId proposalId dto =>
      obtain ⟨vote, -, -, running, rfl⟩ := written
      have status : (copy.withVote vote.support vote.power).status = copy.status := by
        cases vote.support <;> rfl
      refine ⟨⟨status ▸ .refl _, absurd running⟩, ?_⟩
      intro passed
      rw [status, running] at passed
      contradiction
  | executeProposal proposalId =>
      obtain ⟨status, now, final, passed, rfl⟩ := written
      refine ⟨⟨.inr (.inr (.inr ⟨passed, final⟩)), fun _ => ⟨rfl, rfl, rfl⟩⟩, ?_⟩
      intro passed
      rcases final with rfl | rfl <;> contradiction
  | processEndedProposals =>
      rw [show proposal = copy.decided config from written]
      have running := active rfl
      refine ⟨⟨.inr (.inl ⟨running, ?_⟩), absurd running⟩, ?_⟩
      · unfold Proposal.decided
        split
        · split <;> nofun
        · nofun
      · intro passed
        unfold Proposal.decided at passed
        split at passed
        · split at passed
          · exact ⟨‹_›, ‹_›⟩
          · contradiction
        · contradiction
  | cancelProposal proposalId =>
      obtain ⟨status, rfl⟩ := written
      refine ⟨⟨?_, fun _ => ⟨rfl, rfl, rfl⟩⟩, nofun⟩
      rcases status with active | pending
      · exact .inr (.inl ⟨active, nofun⟩)
      · exact .inr (.inr (.inl ⟨pending, rfl⟩))
  | _ => exact written.elim

theorem Ordered.start (ordered : Ordered config pool) (call : Call) :
    Ordered config ⟨pool.state, pool.tasks ++ [⟨call, [], body config call⟩]⟩ := by
  refine ⟨ordered.linked.start call, ordered.sound, forall_start ordered.read ?_,
    forall_start ordered.active ?_⟩
  · exact fun _ member => absurd member List.not_mem_nil
  · exact fun _ _ member => absurd member List.not_mem_nil

def Store.Advances (before after : Store) : Prop :=
  ∀ id row, before.proposals id = some row →
    ∃ later, after.proposals id = some later ∧ GovernanceService.Advances row later

theorem Store.Advances.refl (store : Store) : store.Advances store :=
  fun _ row stored => ⟨row, stored, .refl row⟩

theorem Store.Advances.trans {first second third : Store} (ahead : first.Advances second)
    (behind : second.Advances third) : first.Advances third := by
  intro id row stored
  obtain ⟨middle, found, advances⟩ := ahead id row stored
  obtain ⟨last, found', advances'⟩ := behind id middle found
  exact ⟨last, found', advances.trans advances'⟩

theorem SameRows.advances {store after : Store} (same : SameRows store after) :
    store.Advances after := by
  intro id row stored
  rw [same.proposals]
  exact ⟨row, stored, .refl row⟩

theorem Store.Advances.write {store : Store} {id : Nat} {proposal : Proposal}
    (updated : after.proposals = Function.update store.proposals id (some proposal))
    (advances : ∀ row, store.proposals id = some row → GovernanceService.Advances row proposal) :
    store.Advances after := by
  intro other row stored
  rw [updated]
  by_cases same : other = id
  · subst same
    exact ⟨proposal, Function.update_self .., advances row stored⟩
  · exact ⟨row, (Function.update_of_ne same ..).trans stored, .refl row⟩

theorem Store.Sound.advance {store : Store} (sound : store.Sound config)
    (consistent : store.Consistent) (advances : store.Advances after)
    (cache : ∀ id proposal, after.cache (.proposal id) = some proposal →
      store.cache (.proposal id) = some proposal)
    (decisive : ∀ {id row}, after.proposals id = some row → row.Decisive config) :
    after.Sound config := by
  refine ⟨?_, decisive⟩
  intro id proposal row cached stored
  have known := cache id proposal cached
  obtain ⟨-, earlier, found⟩ := consistent.cached known
  obtain ⟨later, stored', advance⟩ := advances id earlier found
  rw [stored, Option.some.injEq] at stored'
  subst stored'
  exact (sound.cached known found).advance advance

theorem Store.Sound.same {store : Store} (sound : store.Sound config) (consistent : store.Consistent)
    (same : SameRows store after) : after.Sound config := by
  apply sound.advance consistent same.advances same.cache
  rw [same.proposals]
  exact sound.decisive

theorem Store.Sound.cache {store : Store} {id : Nat} {proposal : Proposal}
    (sound : store.Sound config)
    (precedes : ∀ row, store.proposals id = some row → Precedes proposal row) :
    ({ store with
      cache := Function.update store.cache (.proposal id) (some proposal) } : Store).Sound config := by
  refine ⟨?_, sound.decisive⟩
  intro other cached row found stored
  by_cases same : other = id
  · subst same
    simp only [Function.update_self, Option.some.injEq] at found
    subst found
    exact precedes row stored
  · simp only [ne_eq, Key.proposal.injEq, same, not_false_eq_true, Function.update_of_ne] at found
    exact sound.cached found stored

theorem Store.Sound.write {store : Store} {id : Nat} {proposal : Proposal}
    (sound : store.Sound config) (consistent : store.Consistent)
    (updated : after.proposals = Function.update store.proposals id (some proposal))
    (cache : after.cache = store.cache)
    (advances : ∀ row, store.proposals id = some row → GovernanceService.Advances row proposal)
    (decisive : proposal.Decisive config) : after.Sound config := by
  apply sound.advance consistent (.write updated advances)
  · intro id proposal cached
    exact cache ▸ cached
  · intro other row stored
    rw [updated] at stored
    rcases update_eq_some stored with ⟨-, rfl⟩ | ⟨-, old⟩
    · exact decisive
    · exact sound.decisive old

theorem Ordered.reads (ordered : Ordered config pool) (member : stage ∈ pool.tasks)
    (advances : pool.state.Advances after) :
    ∀ copy ∈ (notesOf stage).copies, ∀ row, after.proposals copy.id = some row →
      Precedes copy row := by
  intro copy known row stored
  obtain ⟨earlier, found⟩ := (ordered.linked.reads stage member).stored copy known
  obtain ⟨later, stored', advance⟩ := advances _ _ found
  rw [stored, Option.some.injEq] at stored'
  subst stored'
  exact (ordered.read stage member copy known earlier found).advance advance

theorem Ordered.serve (ordered : Ordered config pool) (linked : Linked ⟨after, pool.tasks.set task next⟩)
    (sound : after.Sound config) (advances : pool.state.Advances after)
    (read : ∀ copy ∈ (notesOf next).copies, ∀ row, after.proposals copy.id = some row →
      Precedes copy row)
    (active : next.call = .processEndedProposals →
      ∀ copy ∈ (notesOf next).copies, copy.status = .active) :
    Ordered config ⟨after, pool.tasks.set task next⟩ := by
  refine ⟨linked, sound, forall_serve ?_ read, forall_serve ordered.active active⟩
  exact fun stage member => ordered.reads member advances

theorem Ordered.drift (ordered : Ordered config pool) (quiet : Quiet pool.state after) :
    Ordered config ⟨after, pool.tasks⟩ :=
  ⟨ordered.linked.drift quiet, ordered.sound.same ordered.linked.store quiet.sameRows,
    fun _ member => ordered.reads member quiet.sameRows.advances, ordered.active⟩

theorem Ordered.written {proposal copy : Proposal} (ordered : Ordered config pool)
    (member : stage ∈ pool.tasks) (read : copy ∈ (notesOf stage).copies) (here : copy.id = proposal.id)
    (written : Written config (notesOf stage) copy proposal stage.call)
    (upToDate : UpToDate pool.state proposal stage) :
    (∀ row, pool.state.proposals proposal.id = some row →
      GovernanceService.Advances row proposal.columns) ∧ proposal.columns.Decisive config := by
  have ⟨ahead, decisive⟩ := written.advances fun processing =>
    ordered.active stage member processing copy read
  refine ⟨?_, decisive⟩
  intro row stored
  rcases upToDate row stored with current | ⟨status, tallies⟩
  · have status := current copy read here
    have precedes := ordered.read stage member copy read row (here.symm ▸ stored)
    refine Advances.trans ⟨status ▸ .refl _, ?_⟩ ⟨ahead.leads, ahead.tallies⟩
    exact fun closed => (precedes.tallies status closed).symm
  · exact ⟨status ▸ .refl _, fun _ => tallies⟩

section Steps
variable (ordered : Ordered config pool) (linked : Linked ⟨after, pool.tasks.set task next⟩)
include ordered linked

theorem Ordered.keep (member : stage ∈ pool.tasks) (call : next.call = stage.call)
    (sound : after.Sound config) (advances : pool.state.Advances after)
    (copies : (notesOf next).copies = (notesOf stage).copies) :
    Ordered config ⟨after, pool.tasks.set task next⟩ := by
  refine ordered.serve linked sound advances ?_ ?_
  · rw [copies]
    exact ordered.reads member advances
  · rw [copies, call]
    exact ordered.active stage member

theorem Ordered.take {id : Nat} {copy : Proposal} (same : after = pool.state)
    (target : next.call.target = some id) (copies : (notesOf next).copies = [copy])
    (here : copy.id = id)
    (precedes : ∀ row, pool.state.proposals id = some row → Precedes copy row) :
    Ordered config ⟨after, pool.tasks.set task next⟩ := by
  subst same here
  refine ordered.serve linked ordered.sound (.refl _) ?_ ?_
  · intro other known
    rw [copies, List.mem_singleton] at known
    subst known
    exact precedes
  · intro processing
    rw [processing] at target
    contradiction

theorem Ordered.list (same : after = pool.state)
    (listed : ∀ copy ∈ (notesOf next).copies, ∃ id row, pool.state.proposals id = some row ∧
      copy = row.columns ∧ row.status = .active) :
    Ordered config ⟨after, pool.tasks.set task next⟩ := by
  subst same
  refine ordered.serve linked ordered.sound (.refl _) ?_ ?_
  · intro copy known row stored
    obtain ⟨id, row', found, rfl, -⟩ := listed copy known
    have here : row'.id = id := ordered.linked.store.id found
    rw [show row'.columns.id = id from here, found, Option.some.injEq] at stored
    subst stored
    exact ⟨.refl _, fun _ _ => ⟨rfl, rfl, rfl⟩⟩
  · intro _ copy known
    obtain ⟨id, row, -, rfl, active⟩ := listed copy known
    exact active

end Steps

theorem Ordered.turn {event : Event Op Reply JsError} (ordered : Ordered config pool)
    (found : pool.tasks[task]? = some stage) (call : next.call = stage.call)
    (permitted : savesUpToDate pool (.serve task event) = true)
    (turn : Turn config stage.call (notesOf stage) pool.state event (notesOf next) after) :
    Ordered config ⟨after, pool.tasks.set task next⟩ ∧ pool.state.Advances after := by
  have member := List.mem_of_getElem? found
  have linked := ordered.linked.turn found call turn
  have consistent := ordered.linked.store
  have unchanged := Store.Advances.refl pool.state
  generalize noted : notesOf next = notes at turn
  have keeping : after.Sound config → pool.state.Advances after →
      notes.copies = (notesOf stage).copies →
      Ordered config ⟨after, pool.tasks.set task next⟩ ∧ pool.state.Advances after := by
    subst noted
    exact fun sound advances copies =>
      ⟨ordered.keep linked member call sound advances copies, advances⟩
  cases turn with
  | quiet quiet =>
      exact keeping (ordered.sound.same consistent quiet.sameRows) quiet.sameRows.advances rfl
  | fetch target cached =>
      refine ⟨ordered.take linked rfl (call ▸ target) (congrArg Notes.copies noted)
        (consistent.cached cached).1 fun row stored => ?_, unchanged⟩
      have precedes := ordered.sound.cached cached stored
      exact ⟨precedes.leads, precedes.tallies⟩
  | @remember id proposal seconds target copies =>
      have read : proposal ∈ (notesOf stage).copies := copies ▸ List.mem_singleton_self proposal
      have here := (ordered.linked.reads stage member).target target proposal read
      refine keeping (ordered.sound.cache ?_) unchanged rfl
      exact here ▸ ordered.read stage member proposal read
  | @load id row target stored =>
      have here : row.id = id := consistent.id stored
      refine ⟨ordered.take linked rfl (call ▸ target) (congrArg Notes.copies noted) here
        fun row' stored' => ?_, unchanged⟩
      rw [stored, Option.some.injEq] at stored'
      subst stored'
      exact ⟨.refl _, fun _ _ => ⟨rfl, rfl, rfl⟩⟩
  | ended processing listed =>
      refine ⟨ordered.list linked rfl ?_, unchanged⟩
      rw [noted]
      exact listed
  | @insertProposal proposal reply row active yes no abstain made =>
      have new : ∀ earlier, pool.state.proposals pool.state.nextProposal = some earlier →
          GovernanceService.Advances earlier row :=
        fun earlier stored => absurd (consistent.fresh stored) (Nat.lt_irrefl _)
      have undecided : row.Decisive config := by
        intro passed
        subst made
        exact absurd (active.symm.trans passed) nofun
      exact keeping (ordered.sound.write consistent rfl rfl new undecided) (.write rfl new) rfl
  | @save proposal copy read here written =>
      have upToDate : UpToDate pool.state proposal stage := by
        simpa only [savesUpToDate, found, Option.all_some, decide_eq_true_eq] using permitted
      obtain ⟨advance, decisive⟩ := ordered.written member read here written upToDate
      exact keeping (ordered.sound.write consistent rfl rfl advance decisive) (.write rfl advance) rfl
  | insertVote | pass | unvoted | saveFailed =>
      exact keeping ⟨ordered.sound.cached, ordered.sound.decisive⟩ unchanged rfl

/-! ## Runs -/

theorem Store.Advances.final {before after : Store} (advances : before.Advances after)
    (decisive : ∀ {id row}, before.proposals id = some row → row.Decisive config)
    (decisive' : ∀ {id row}, after.proposals id = some row → row.Decisive config) :
    Final config before after := by
  intro id row stored
  obtain ⟨later, stored', leads, tallies⟩ := advances id row stored
  refine ⟨later, stored', ?_, ?_, tallies, decisive stored, decisive' stored'⟩
  · revert leads
    cases row.status <;> cases later.status <;> decide
  · revert leads
    cases row.status <;> cases later.status <;> decide

/-- Decided proposals stay as they are when no save overwrites a status that changed since the object
was read. -/
theorem final_of_savesUpToDate {store : Store} {later : Calls} (consistent : store.Consistent)
    (sound : store.Sound config)
    (reaches : (service config).Reaches (savesUpToDate · ·) ⟨store, []⟩ pool)
    (continues : (service config).Reaches (savesUpToDate · ·) pool later) :
    Final config pool.state later.state := by
  have ordered : Ordered config pool := by
    apply invariant reaches nofun
    · exact ⟨⟨consistent, nofun⟩, sound, nofun, nofun⟩
    · exact fun _ call ordered _ => ordered.start call
    · exact fun _ _ _ _ _ _ ordered found call _ permitted _ turn =>
        (ordered.turn found call permitted turn).1
    · exact fun _ _ ordered quiet => ordered.drift quiet
  have kept := keeps_of_reaches reaches nofun
  have final : Ordered config later ∧ pool.state.Advances later.state := by
    apply invariant continues kept
    · exact ⟨ordered, .refl _⟩
    · exact fun _ call ⟨ordered, advances⟩ _ => ⟨ordered.start call, advances⟩
    · rintro middle task stage next event after ⟨ordered, advances⟩ found call - permitted - turn
      obtain ⟨ordered, step⟩ := ordered.turn found call permitted turn
      exact ⟨ordered, advances.trans step⟩
    · rintro middle after ⟨ordered, advances⟩ quiet
      exact ⟨ordered.drift quiet, advances.trans quiet.sameRows.advances⟩
  exact final.2.final ordered.sound.decisive final.1.sound.decisive

/-! ## A slow vote -/

def endedProposal : Proposal := { openProposal with yesVotes := 200, noVotes := 50 }

theorem sound_storeOf {proposal : Proposal} {clock : Int} (decisive : proposal.Decisive config) :
    (storeOf proposal clock).Sound config := by
  refine ⟨nofun, ?_⟩
  intro id row stored
  simp only [storeOf] at stored
  split at stored
  · exact Option.some.inj stored ▸ decisive
  · contradiction

/-- The proposal passes, and then it is executed. -/
theorem final_of_execution : ∃ pool later,
    (service defaultConfig).Reaches (savesUpToDate · ·) ⟨storeOf endedProposal 100000000, []⟩ pool ∧
    (service defaultConfig).Reaches (savesUpToDate · ·) pool later ∧
    (later.state.proposals 1).map (·.status) = some .executed ∧
    Final defaultConfig pool.state later.state := by
  have run : ∃ pool,
      (service defaultConfig).Reaches (savesUpToDate · ·) ⟨storeOf endedProposal 100000000, []⟩ pool ∧
      ((pool.state.proposals 1).map (·.status) = some .passed ∧
        ((service defaultConfig).play savesUpToDate (.start (.executeProposal 1) :: steps 1 11)
          pool).any (fun last => decide ((last.state.proposals 1).map (·.status) = some .executed))) := by
    apply (service defaultConfig).exists_of_play savesUpToDate (fun _ _ passed => passed)
      (.start .processEndedProposals :: steps 0 5)
    decide
  obtain ⟨pool, reaches, -, rest⟩ := run
  obtain ⟨later, continues, executed⟩ := (service defaultConfig).exists_of_play savesUpToDate
    (fun _ _ passed => passed) _ rest
  exact ⟨pool, later, reaches, continues, executed,
    final_of_savesUpToDate (consistent_storeOf rfl) (sound_storeOf (by decide)) reaches continues⟩

/-- A vote that read the proposal before it was cancelled saves it as active. -/
theorem vote_revives_proposal : ∃ pool later,
    (service defaultConfig).Reaches (fun _ _ => True) ⟨storeOf openProposal 10, []⟩ pool ∧
    (service defaultConfig).Reaches (fun _ _ => True) pool later ∧
    later.tasks.map (·.call) = [.vote 7 1 ⟨.yes, "0xa"⟩, .cancelProposal 1] ∧
    ¬ Final defaultConfig pool.state later.state := by
  have run : ∃ pool,
      (service defaultConfig).Reaches (fun _ _ => True) ⟨storeOf openProposal 10, []⟩ pool ∧
      ((pool.state.proposals 1).map (·.status) = some .cancelled ∧
        ((service defaultConfig).play (fun _ _ => true) (steps 0 5) pool).any
          (fun last => decide ((last.state.proposals 1).map (·.status) = some .active ∧
            last.tasks.map (·.call) = [.vote 7 1 ⟨.yes, "0xa"⟩, .cancelProposal 1]))) := by
    apply (service defaultConfig).exists_of_play (fun _ _ => true) (fun _ _ _ => trivial)
      ([.start (.vote 7 1 ⟨.yes, "0xa"⟩), .start (.cancelProposal 1)] ++ steps 0 3 ++ steps 1 5)
    decide
  obtain ⟨pool, reaches, cancelled, rest⟩ := run
  obtain ⟨later, continues, active, calls⟩ := (service defaultConfig).exists_of_play
    (fun _ _ => true) (fun _ _ _ => trivial) _ rest
  refine ⟨pool, later, reaches, continues, calls, ?_⟩
  intro final
  obtain ⟨row, stored, status⟩ := Option.map_eq_some_iff.mp cancelled
  obtain ⟨last, stored', closed, -⟩ := final 1 row stored
  rw [stored', Option.map_some, closed (.inl status), status] at active
  contradiction

end Kanaka.Backend.GovernanceService
