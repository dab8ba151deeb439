import Kanaka.Backend.GovernanceService

/-! # What the calls of the governance service ask for, and when -/

namespace Kanaka.Backend.GovernanceService
open Kanaka.Async

/-- What a call knows. `inserted` is its vote as long as the proposal is not saved; `gaveUp` says
that the outcome of a failed execution could not be saved. -/
structure Notes where
  copies : List Proposal
  loaded : Bool
  unvoted : Bool
  inserted : Option Vote
  passedOn : Nat
  tried : Bool
  saved : Bool
  gaveUp : Bool
deriving DecidableEq

def Notes.begun : Notes := ⟨[], false, false, none, 0, false, false, false⟩

def Notes.note (notes : Notes) (event : Event Op Reply JsError) : Notes :=
  match event with
  | ⟨.redisGet (.proposal _), .ok (some proposal)⟩ => { notes with copies := [proposal.json] }
  | ⟨.findProposal _, .ok (some proposal)⟩ => { notes with copies := [proposal], loaded := true }
  | ⟨.findEnded _, .ok proposals⟩ => { notes with copies := proposals }
  | ⟨.findVote _ _, .ok none⟩ => { notes with unvoted := true }
  | ⟨.saveVote vote, .ok saved⟩ =>
      { notes with inserted := some { vote with id := saved.id }, unvoted := false }
  | ⟨.executeGovernanceAction _ _ _, _⟩ => { notes with passedOn := notes.passedOn + 1 }
  | ⟨.saveProposal _, .ok _⟩ => { notes with inserted := none, tried := true, saved := true }
  | ⟨.saveProposal proposal, .error _⟩ =>
      { notes with tried := true, gaveUp := notes.gaveUp || proposal.status = .rejected }
  | ⟨.now, .error _⟩ => { notes with gaveUp := true }
  | _ => notes

def Call.target : Call → Option Nat
  | .getProposal id => some id
  | .vote _ proposalId _ => some proposalId
  | .executeProposal proposalId => some proposalId
  | .cancelProposal proposalId => some proposalId
  | _ => none

variable (config : Config)

/-- What a call saves in place of a proposal that it read. -/
def Written (notes : Notes) (copy proposal : Proposal) : Call → Prop
  | .vote _ proposalId _ => ∃ vote, notes.inserted = some vote ∧ vote.proposalId = proposalId ∧
      copy.status = .active ∧ proposal = copy.withVote vote.support vote.power
  | .executeProposal _ => ∃ status now, (status = .executed ∨ status = .rejected) ∧
      copy.status = .passed ∧ proposal = { copy with status, executedAt := some (.date now) }
  | .processEndedProposals => proposal = copy.decided config
  | .cancelProposal _ => (copy.status = .active ∨ copy.status = .pending) ∧
      proposal = { copy with status := .cancelled }
  | _ => False

def Asks (call : Call) (notes : Notes) : Op → Prop
  | .redisGet (.proposal id) => call.target = some id
  | .redisSet (.proposal id) proposal _ => call.target = some id ∧ notes.copies = [proposal]
  | .findProposal id => call.target = some id
  | .findEnded _ => call = .processEndedProposals
  | .findVote proposalId voterAddress => ∃ userId dto, call = .vote userId proposalId dto ∧
      dto.walletAddress = voterAddress ∧ notes.inserted = none ∧ notes.tried = false
  | .saveVote vote => ∃ userId dto, call = .vote userId vote.proposalId dto ∧
      dto.walletAddress = vote.voterAddress ∧ notes.unvoted = true ∧ notes.inserted = none ∧
      notes.tried = false ∧ ∃ copy, notes.copies = [copy]
  | .executeGovernanceAction proposalId position _ => call = .executeProposal proposalId ∧
      position = notes.passedOn ∧ notes.tried = false ∧ notes.loaded = true ∧
      ∃ copy, notes.copies = [copy] ∧ copy.status = .passed
  | .insertProposal proposal => (∃ userId dto, call = .createProposal userId dto) ∧
      proposal.status = .active ∧ proposal.yesVotes = 0 ∧ proposal.noVotes = 0 ∧
      proposal.abstainVotes = 0
  | .saveProposal proposal =>
      ∃ copy ∈ notes.copies, copy.id = proposal.id ∧ Written config notes copy proposal call
  | _ => True

/-- A vote is left without its tally only by a save that failed, and actions are passed on without
an outcome only where the outcome could not be saved. -/
def Ended (notes : Notes) : Prop :=
  (notes.inserted.isSome → notes.tried) ∧ (notes.passedOn = 0 ∨ notes.saved ∨ notes.gaveUp)

/-! ## Following the code -/

def Lawful (call : Call) {α : Type} (R : Notes → α → Prop) (E : Notes → Prop) :
    Notes → Async α → Prop :=
  Task.Follows Notes.note (Asks config call) R fun notes _ => E notes

namespace Lawful
variable {config : Config} {call : Call} {notes : Notes} {α β : Type} {R : Notes → β → Prop}
  {E : Notes → Prop}

theorem bind {first : Async α} {next : α → Async β}
    (lawful : Lawful config call (fun notes value => Lawful config call R E notes (next value)) E
      notes first) : Lawful config call R E notes (first >>= next) :=
  Task.Follows.bind lawful

theorem perform {op : Op} {next : Reply op → Async β} (asks : Asks config call notes op)
    (failed : ∀ error, E (notes.note ⟨op, .error error⟩))
    (rest : ∀ reply, Lawful config call R E (notes.note ⟨op, .ok reply⟩) (next reply)) :
    Lawful config call R E notes (GovernanceService.perform op >>= next) :=
  Task.Follows.bind (Task.Follows.perform asks rest failed)

theorem throwIf {condition : Prop} [Decidable condition] {error : JsError}
    {next : Unit → Async β} (thrown : E notes)
    (rest : ¬ condition → Lawful config call R E notes (next ())) :
    Lawful config call R E notes (Task.throwIf condition error >>= next) :=
  Task.Follows.bind (Task.Follows.throwIf (fun _ => thrown) rest)

theorem getJson {key : Key} {next : Option key.Value → Async β}
    (asks : Asks config call notes (.redisGet key))
    (missing : Lawful config call R E notes (next none))
    (cached : ∀ value, Lawful config call R E (notes.note ⟨.redisGet key, .ok (some value)⟩)
      (next (some (key.json value)))) :
    Lawful config call R E notes (GovernanceService.getJson key >>= next) := by
  apply Task.Follows.bind
  apply Task.Follows.tryCatch
  apply Task.Follows.bind
  apply Task.Follows.perform asks
  · intro value
    apply Task.Follows.done
    cases value with
    | none =>
        have same : notes.note ⟨.redisGet key, .ok none⟩ = notes := by cases key <;> rfl
        rw [same]
        exact missing
    | some value => exact cached value
  · intro error
    apply Task.Follows.done
    have same : notes.note ⟨.redisGet key, .error error⟩ = notes := by cases key <;> rfl
    rw [same]
    exact missing

theorem gets {id : Nat} (target : call.target = some id)
    (thrown : ∀ copies loaded, E { notes with copies, loaded }) :
    Lawful config call (fun after proposal => ∃ loaded,
      (loaded = true ∨ ∃ ms, proposal.endTime = .iso ms) ∧
      after = { notes with copies := [proposal], loaded }) E notes
      (GovernanceService.getProposal id) := by
  refine getJson target ?_ ?_
  · refine perform target (fun _ => thrown notes.copies notes.loaded) ?_
    intro found
    cases found with
    | none => exact .fail (thrown notes.copies notes.loaded)
    | some proposal =>
        refine perform ⟨target, rfl⟩ (fun _ => thrown [proposal] true) ?_
        intro _
        exact .done ⟨true, .inl rfl, rfl⟩
  · intro proposal
    exact .done ⟨notes.loaded, .inr ⟨_, rfl⟩, rfl⟩

theorem getProposal {id : Nat} {next : Proposal → Async β} (target : call.target = some id)
    (thrown : ∀ copies loaded, E { notes with copies, loaded })
    (rest : ∀ proposal loaded, loaded = true ∨ (∃ ms, proposal.endTime = .iso ms) →
      Lawful config call R E { notes with copies := [proposal], loaded } (next proposal)) :
    Lawful config call R E notes (GovernanceService.getProposal id >>= next) := by
  apply bind
  apply Task.Follows.weaken (gets target thrown)
  · rintro after proposal ⟨loaded, origin, rfl⟩
    exact rest proposal loaded origin
  · exact fun _ _ thrown => thrown

end Lawful

section Calls
variable {config : Config} {call : Call}

theorem Lawful.result {α : Type} {notes : Notes} {task : Async α} {make : α → Result}
    (lawful : Lawful config call (fun notes _ => Ended notes) Ended notes task) :
    Lawful config call (fun notes _ => Ended notes) Ended notes (make <$> task) := by
  apply Task.Follows.bind
  apply Task.Follows.weaken lawful
  · intro notes value ended
    exact .done ended
  · exact fun _ _ ended => ended

theorem ended_begun : Ended .begun := ⟨nofun, .inl rfl⟩

theorem lawful_createProposal (userId : Nat) (dto : CreateProposalDto) :
    Lawful config (.createProposal userId dto) (fun notes _ => Ended notes) Ended .begun
      (createProposal config userId dto) := by
  refine Lawful.perform trivial (fun _ => ended_begun) ?_
  intro balance
  refine Lawful.throwIf ended_begun ?_
  intro _
  refine Lawful.perform trivial (fun _ => ⟨nofun, .inl rfl⟩) ?_
  intro startTime
  refine Lawful.perform trivial (fun _ => ⟨nofun, .inl rfl⟩) ?_
  intro now
  refine Lawful.perform ⟨⟨userId, dto, rfl⟩, rfl, rfl, rfl, rfl⟩ (fun _ => ended_begun) ?_
  intro savedProposal
  refine Lawful.perform trivial (fun _ => ended_begun) ?_
  intro _
  exact .done ended_begun

theorem lawful_getProposals (active : Bool) (limit offset : Nat) :
    Lawful config (.getProposals active limit offset) (fun notes _ => Ended notes) Ended .begun
      (getProposals active limit offset) := by
  refine Lawful.getJson trivial ?_ ?_
  · refine Lawful.perform trivial (fun _ => ended_begun) ?_
    intro proposals
    refine Lawful.perform trivial (fun _ => ended_begun) ?_
    intro _
    exact .done ended_begun
  · intro cachedProposals
    exact .done ended_begun

theorem lawful_getProposal (id : Nat) :
    Lawful config (.getProposal id) (fun notes _ => Ended notes) Ended .begun (getProposal id) := by
  have gets : Lawful config (.getProposal id) _ Ended .begun (getProposal id) :=
    Lawful.gets rfl (fun _ _ => ended_begun)
  apply Task.Follows.weaken gets
  · rintro after proposal ⟨loaded, -, rfl⟩
    exact ended_begun
  · exact fun _ _ ended => ended

theorem lawful_getVotes (proposalId : Nat) (support : Option Bool) :
    Lawful config (.getVotes proposalId support) (fun notes _ => Ended notes) Ended .begun
      (getVotes proposalId support) := by
  refine Lawful.getJson trivial ?_ ?_
  · refine Lawful.perform trivial (fun _ => ended_begun) ?_
    intro votes
    refine Lawful.perform trivial (fun _ => ended_begun) ?_
    intro _
    exact .done ended_begun
  · intro cachedVotes
    exact .done ended_begun

theorem lawful_vote (userId proposalId : Nat) (dto : VoteDto) :
    Lawful config (.vote userId proposalId dto) (fun notes _ => Ended notes) Ended .begun
      (vote userId proposalId dto) := by
  refine Lawful.getProposal rfl (fun _ _ => ended_begun) ?_
  intro proposal loaded _
  refine Lawful.throwIf ended_begun ?_
  intro active
  refine Lawful.perform trivial (fun _ => ⟨nofun, .inl rfl⟩) ?_
  intro now
  refine Lawful.throwIf ended_begun ?_
  intro _
  refine Lawful.perform ⟨userId, dto, rfl, rfl, rfl, rfl⟩ (fun _ => ended_begun) ?_
  intro existingVote
  apply Lawful.throwIf
  · cases existingVote <;> exact ended_begun
  intro unvoted
  cases existingVote with
  | some vote => exact absurd rfl unvoted
  | none =>
  refine Lawful.perform trivial (fun _ => ended_begun) ?_
  intro votingPower
  refine Lawful.throwIf ended_begun ?_
  intro _
  refine Lawful.perform ⟨userId, dto, rfl, rfl, rfl, rfl, rfl, proposal, rfl⟩
    (fun _ => ended_begun) ?_
  intro savedVote
  apply Lawful.perform
  · refine ⟨proposal, List.mem_singleton.mpr rfl, ?_, _, rfl, rfl, not_not.mp active, rfl⟩
    cases dto.support <;> rfl
  · exact fun _ => ⟨fun _ => rfl, .inl rfl⟩
  intro _
  refine Lawful.perform trivial (fun _ => ⟨fun _ => rfl, .inl rfl⟩) ?_
  intro _
  refine Lawful.perform trivial (fun _ => ⟨fun _ => rfl, .inl rfl⟩) ?_
  intro _
  exact .done ⟨fun _ => rfl, .inl rfl⟩

theorem lawful_cancelProposal (proposalId : Nat) :
    Lawful config (.cancelProposal proposalId) (fun notes _ => Ended notes) Ended .begun
      (cancelProposal proposalId) := by
  refine Lawful.getProposal rfl (fun _ _ => ended_begun) ?_
  intro proposal loaded _
  refine Lawful.throwIf ended_begun ?_
  intro cancellable
  have status : proposal.status = .active ∨ proposal.status = .pending := by
    rw [← not_and_or.trans (or_congr not_not not_not)]
    exact cancellable
  refine Lawful.perform ⟨proposal, List.mem_singleton.mpr rfl, rfl, status, rfl⟩
    (fun _ => ⟨nofun, .inl rfl⟩) ?_
  intro updatedProposal
  refine Lawful.perform trivial (fun _ => ⟨nofun, .inl rfl⟩) ?_
  intro _
  refine Lawful.perform trivial (fun _ => ⟨nofun, .inl rfl⟩) ?_
  intro _
  refine Lawful.perform trivial (fun _ => ⟨nofun, .inl rfl⟩) ?_
  intro _
  exact .done ⟨nofun, .inl rfl⟩

theorem lawful_decideProposals {notes : Notes} (proposals : List Proposal)
    (known : ∀ proposal ∈ proposals, proposal ∈ notes.copies) (idle : notes.inserted = none)
    (unused : notes.passedOn = 0) :
    Lawful config .processEndedProposals
      (fun notes _ => notes.inserted = none ∧ notes.passedOn = 0) Ended notes
      (decideProposals config proposals) := by
  induction proposals generalizing notes with
  | nil => exact .done ⟨idle, unused⟩
  | cons proposal rest ih =>
      have ended : ∀ notes : Notes, notes.inserted = none → notes.passedOn = 0 →
          Ended notes := by
        intro notes idle unused
        exact ⟨fun inserted => by rw [idle] at inserted; contradiction, .inl unused⟩
      refine Lawful.perform ⟨proposal, known proposal List.mem_cons_self, rfl, rfl⟩
        (fun _ => ended _ idle unused) ?_
      intro _
      refine Lawful.perform trivial (fun _ => ended _ rfl unused) ?_
      intro _
      refine Lawful.perform trivial (fun _ => ended _ rfl unused) ?_
      intro _
      exact ih (fun other member => known other (List.mem_cons_of_mem _ member)) rfl unused

theorem lawful_processEndedProposals :
    Lawful config .processEndedProposals (fun notes _ => Ended notes) Ended .begun
      (processEndedProposals config) := by
  refine Lawful.perform trivial (fun _ => ⟨nofun, .inl rfl⟩) ?_
  intro now
  refine Lawful.perform rfl (fun _ => ended_begun) ?_
  intro endedProposals
  apply Lawful.bind
  apply Task.Follows.weaken (lawful_decideProposals endedProposals (fun _ member => member) rfl rfl)
  · intro notes _ ⟨idle, unused⟩
    have ended : Ended notes :=
      ⟨fun inserted => by rw [idle] at inserted; contradiction, .inl unused⟩
    show Lawful config .processEndedProposals (fun notes _ => Ended notes) Ended notes
      (if 0 < endedProposals.length then perform (.redisDel .proposals) else pure ())
    split
    · exact Task.Follows.perform trivial (fun _ => ended) (fun _ => ended)
    · exact .done ended
  · exact fun _ _ ended => ended

structure Executing (notes : Notes) (proposal : Proposal) (position : Nat) : Prop where
  copies : notes.copies = [proposal]
  loaded : notes.loaded = true
  passed : proposal.status = .passed
  position : notes.passedOn = position
  untried : notes.tried = false
  idle : notes.inserted = none

theorem lawful_executeActions {notes : Notes} {proposal : Proposal} {E : Notes → Prop}
    (proposalId position : Nat) (actions : List Action)
    (executing : Executing notes proposal position)
    (thrown : ∀ notes position, Executing notes proposal position → E notes) :
    Lawful config (.executeProposal proposalId)
      (fun notes _ => ∃ position, Executing notes proposal position) E notes
      (executeActions proposalId position actions) := by
  induction actions generalizing notes position with
  | nil => exact .done ⟨position, executing⟩
  | cons action actions ih =>
      have next : Executing { notes with passedOn := notes.passedOn + 1 } proposal
          (position + 1) :=
        ⟨executing.copies, executing.loaded, executing.passed,
          congrArg (· + 1) executing.position, executing.untried, executing.idle⟩
      refine Lawful.perform ⟨rfl, executing.position.symm, executing.untried, executing.loaded,
        proposal, executing.copies, executing.passed⟩ (fun _ => thrown _ _ next) ?_
      intro _
      exact ih (position + 1) next

structure Concluding (notes : Notes) (proposal : Proposal) : Prop where
  copies : notes.copies = [proposal]
  passed : proposal.status = .passed
  idle : notes.inserted = none

theorem Concluding.ended {notes : Notes} {proposal : Proposal} (concluding : Concluding notes proposal)
    (settled : notes.saved = true ∨ notes.gaveUp = true) : Ended notes := by
  refine ⟨fun inserted => ?_, .inr settled⟩
  rw [concluding.idle] at inserted
  contradiction

theorem lawful_recordOutcome {notes : Notes} {proposal : Proposal} {status : Status}
    {E : Notes → Prop} (proposalId : Nat) (executionStatus : String)
    (concluding : Concluding notes proposal) (final : status = .executed ∨ status = .rejected)
    (thrown : ∀ notes, Concluding notes proposal →
      (status = .rejected → notes.saved = true ∨ notes.gaveUp = true) → E notes) :
    Lawful config (.executeProposal proposalId)
      (fun notes _ => Concluding notes proposal ∧ notes.saved = true) E notes
      (recordOutcome proposalId proposal status executionStatus) := by
  have after : Concluding { notes with inserted := none, tried := true, saved := true } proposal :=
    ⟨concluding.copies, concluding.passed, rfl⟩
  refine Lawful.perform trivial (fun _ => thrown _ ⟨concluding.copies, concluding.passed,
    concluding.idle⟩ (fun _ => .inr rfl)) ?_
  intro now
  have asks : Asks config (.executeProposal proposalId) notes
      (.saveProposal { proposal with status, executedAt := some (.date now) }) := by
    refine ⟨proposal, ?_, rfl, status, now, final, concluding.passed, rfl⟩
    rw [concluding.copies]
    exact List.mem_singleton.mpr rfl
  refine Lawful.perform asks (fun _ => thrown _ ⟨concluding.copies, concluding.passed,
    concluding.idle⟩ ?_) ?_
  · intro rejected
    right
    show (notes.gaveUp || decide (status = .rejected)) = true
    rw [rejected]
    exact Bool.or_true _
  intro updatedProposal
  refine Lawful.perform trivial (fun _ => thrown _ after (fun _ => .inl rfl)) ?_
  intro _
  refine Lawful.perform trivial (fun _ => thrown _ after (fun _ => .inl rfl)) ?_
  intro _
  refine Lawful.perform trivial (fun _ => thrown _ after (fun _ => .inl rfl)) ?_
  intro _
  exact .done ⟨after, rfl⟩

theorem lawful_executeProposal (proposalId : Nat) :
    Lawful config (.executeProposal proposalId) (fun notes _ => Ended notes) Ended .begun
      (executeProposal config proposalId) := by
  refine Lawful.getProposal rfl (fun _ _ => ended_begun) ?_
  intro proposal loaded origin
  refine Lawful.throwIf ended_begun ?_
  intro passed
  cases ends : proposal.endTime with
  | iso ms => exact .fail ended_begun
  | date endTime =>
  have loaded : loaded = true := by
    rcases origin with fresh | ⟨ms, iso⟩
    · exact fresh
    · rw [ends] at iso
      contradiction
  subst loaded
  refine Lawful.perform trivial (fun _ => ⟨nofun, .inl rfl⟩) ?_
  intro now
  refine Lawful.throwIf ended_begun ?_
  intro _
  apply Task.Follows.tryCatch
  have tried : Lawful config (.executeProposal proposalId)
      (fun notes _ => Concluding notes proposal ∧ notes.saved = true)
      (fun notes => Concluding notes proposal)
      { Notes.begun with copies := [proposal], loaded := true } (carryOut proposalId proposal) := by
    have executing : Executing { Notes.begun with copies := [proposal], loaded := true } proposal 0 :=
      ⟨rfl, rfl, not_not.mp passed, rfl, rfl, rfl⟩
    unfold carryOut
    cases proposal.actions with
    | none => exact .fail ⟨rfl, not_not.mp passed, rfl⟩
    | some actions =>
        apply Lawful.bind
        apply Task.Follows.weaken (lawful_executeActions (E := fun notes => Concluding notes proposal)
          proposalId 0 actions executing (fun notes position executing => ⟨executing.copies, executing.passed, executing.idle⟩))
        · intro notes _ ⟨position, executing⟩
          exact lawful_recordOutcome proposalId "completed"
            ⟨executing.copies, executing.passed, executing.idle⟩ (.inl rfl)
            (fun _ concluding _ => concluding)
        · exact fun _ _ concluding => concluding
  apply Task.Follows.weaken tried
  · intro notes _ ⟨concluding, saved⟩
    exact concluding.ended (.inl saved)
  · intro notes error concluding
    apply Lawful.bind
    apply Task.Follows.weaken (lawful_recordOutcome proposalId "failed" concluding (.inr rfl)
      (fun _ concluding settled => concluding.ended (settled rfl)))
    · intro notes _ ⟨concluding, saved⟩
      exact .fail (concluding.ended (.inl saved))
    · exact fun _ _ ended => ended

end Calls

def discipline : (service config).Discipline Notes where
  note := Notes.note
  begun := .begun
  asks := Asks config
  returns := fun _ notes _ => Ended notes
  throws := fun _ notes _ => Ended notes
  follows := by
    intro call
    cases call with
    | createProposal userId dto => exact (lawful_createProposal userId dto).result
    | getProposals active limit offset => exact (lawful_getProposals active limit offset).result
    | getProposal id => exact (lawful_getProposal id).result
    | vote userId proposalId dto => exact (lawful_vote userId proposalId dto).result
    | executeProposal proposalId => exact (lawful_executeProposal proposalId).result
    | processEndedProposals => exact lawful_processEndedProposals.result
    | getVotes proposalId support => exact (lawful_getVotes proposalId support).result
    | cancelProposal proposalId => exact (lawful_cancelProposal proposalId).result

end Kanaka.Backend.GovernanceService
