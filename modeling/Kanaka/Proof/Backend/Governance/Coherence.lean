import Kanaka.Async.Alone
import Kanaka.Proof.Backend.Governance.Queries

/-! # Reads through the cache and from the database -/

namespace Kanaka.Backend.GovernanceService
open Kanaka.Async

/-- A write changes nothing that a cached list shows: no page has the saved proposal on it, none of
active proposals comes after one that is active no more, and a new one ranks behind all pages; no
votes are those that a new one is among. -/
def Clear : Op → Store → Prop
  | .insertProposal _, store => ∀ active limit offset proposals,
      store.cache (.proposalList active limit offset) = some proposals →
      (store.ranked active).length < offset ∨ limit ≠ 0 ∧ offset + limit ≤
        ((store.ranked active).filter fun other => store.clock ≤ other.createdAt.ms).length
  | .saveProposal proposal, store => ∀ active limit offset proposals,
      store.cache (.proposalList active limit offset) = some proposals →
      (∀ other ∈ proposals, other.id ≠ proposal.id) ∧
      (active = true → proposal.status ≠ .active → proposals ≠ [] →
        ∀ other ∈ (store.ranked active).take offset, other.id ≠ proposal.id)
  | .saveVote vote, store => ∀ support votes,
      store.cache (.votes vote.proposalId support) = some votes → ¬ Selects support vote.support
  | _, _ => True

/-- Calls one after the other without failures, and no write is seen in a cached list. -/
def unseen (pool : Calls) : Async.Action Call Op Reply JsError Store → Prop :=
  Service.Alone Clear pool

def Answered (store : Store) : Call → Except JsError Result → Prop
  | .getProposal id, result =>
      (∃ proposal, result = .ok (.proposal proposal) ∧ Fresh store (.proposal id) proposal) ∨
      (∃ error, result = .error error) ∧ store.query (.proposal id) = none
  | .getProposals active limit offset, result => ∃ proposals, result = .ok (.proposals proposals) ∧
      Fresh store (.proposalList active limit offset) proposals
  | .getVotes proposalId support, result => ∃ votes, result = .ok (.votes votes) ∧
      Fresh store (.votes proposalId support) votes
  | _, _ => True

/-- The call that has just ended, if it is a read, has returned what the database returns. -/
def ReadsFresh (pool : Calls) : Prop :=
  ∀ last ∈ pool.tasks.getLast?, ∀ result ∈ last.rest.result, Answered pool.state last.call result

/-- Cached values are fresh, but for a proposal whose key is about to be deleted. -/
structure Coherent (stale : Option Nat) (store : Store) : Prop where
  rows : Rows store
  cached : ∀ {key value}, store.cache key = some value → (∀ id ∈ stale, key ≠ .proposal id) →
    Fresh store key value

section Writes
variable {stale : Option Nat} {store after : Store} {id : Nat} {proposal row : Proposal} {vote : Vote}

theorem Fades.fresh (fades : Fades store after) {key : Key} {value : key.Value} :
    Fresh after key value ↔ Fresh store key value := by
  rw [Fresh, fades.query, Fresh]

theorem Rows.fades (rows : Rows store) (fades : Fades store after) : Rows after := by
  refine ⟨fun found => ?_, fun found => ?_⟩
  · exact rows.id (fades.proposals ▸ found)
  · exact fades.nextProposal ▸ rows.below (fades.proposals ▸ found)

theorem Coherent.fades (coherent : Coherent stale store) (fades : Fades store after) :
    Coherent stale after :=
  ⟨coherent.rows.fades fades,
    fun cached fine => fades.fresh.mpr (coherent.cached (fades.cached cached) fine)⟩

theorem Coherent.but (coherent : Coherent none store) : Coherent (some id) store :=
  ⟨coherent.rows, fun cached _ => coherent.cached cached nofun⟩

theorem Coherent.write (coherent : Coherent stale store) (rows : Rows after)
    (cache : after.cache = store.cache)
    (same : ∀ key value, store.cache key = some value → (∀ id ∈ stale, key ≠ .proposal id) →
      Fresh store key value → after.query key = store.query key) : Coherent stale after := by
  refine ⟨rows, fun {key value} cached fine => ?_⟩
  rw [cache] at cached
  have fresh := coherent.cached cached fine
  rw [Fresh, same key value cached fine fresh]
  exact fresh

theorem Fresh.json_page {active : Bool} {limit offset : Nat} {proposals : List Proposal}
    (fresh : Fresh store (.proposalList active limit offset) proposals) :
    (page limit offset (store.ranked active)).map (·.json) = proposals.map (·.json) := by
  rw [Fresh, query_proposalList] at fresh
  exact Option.some.inj fresh

theorem Fresh.shown {active : Bool} {limit offset : Nat} {proposals : List Proposal}
    (fresh : Fresh store (.proposalList active limit offset) proposals) {P : Nat → Prop}
    (all : ∀ other ∈ proposals, P other.id) :
    ∀ other ∈ page limit offset (store.ranked active), P other.id := by
  intro other member
  have there : other.json ∈ proposals.map (·.json) := fresh.json_page ▸ List.mem_map_of_mem member
  obtain ⟨cached, known, json⟩ := List.mem_map.mp there
  have here : cached.json.id = other.json.id := congrArg Proposal.id json
  exact (here : cached.id = other.id) ▸ all cached known

theorem Fresh.nonempty {active : Bool} {limit offset : Nat} {proposals : List Proposal}
    (fresh : Fresh store (.proposalList active limit offset) proposals)
    (some : page limit offset (store.ranked active) ≠ []) : proposals ≠ [] := by
  rintro rfl
  exact some (List.map_eq_nil_iff.mp fresh.json_page)

theorem Coherent.saveProposal (coherent : Coherent (some proposal.id) store)
    (stored : store.proposals proposal.id = some row)
    (createdAt : proposal.createdAt.ms = row.createdAt.ms)
    (opened : proposal.status = .active → row.status = .active)
    (clear : Clear (.saveProposal proposal) store) :
    Coherent (some proposal.id) (Store.perform (.saveProposal proposal) store).2 := by
  have rows : Rows (Store.perform (.saveProposal proposal) store).2 :=
    coherent.rows.write proposal.columns rfl (coherent.rows.below stored) le_rfl rfl rfl
  refine coherent.write rows rfl fun key value cached fine fresh => ?_
  cases key with
  | proposal id =>
      have away : id ≠ proposal.id := fun same => fine proposal.id rfl (congrArg Key.proposal same)
      simp only [query_proposal, Store.perform, Function.update_of_ne away]
      rfl
  | proposals => rfl
  | proposalList active limit offset =>
      obtain ⟨unshown, behind⟩ := clear active limit offset value cached
      rw [query_proposalList, query_proposalList, coherent.rows.page_save stored createdAt opened
        (fresh.shown (P := (· ≠ proposal.id)) unshown)
        fun listed left some => behind listed left (fresh.nonempty some)]
  | votes proposalId support => rfl

theorem Coherent.insertProposal (coherent : Coherent none store)
    (clear : Clear (.insertProposal proposal) store) :
    Coherent none (Store.perform (.insertProposal proposal) store).2 := by
  have rows : Rows (Store.perform (.insertProposal proposal) store).2 :=
    coherent.rows.write (Store.perform (.insertProposal proposal) store).1.columns rfl
      (Nat.lt_succ_self _) (Nat.le_succ _) rfl rfl
  refine coherent.write rows rfl fun key value cached _ fresh => ?_
  cases key with
  | proposal id =>
      have away : id ≠ store.nextProposal := by
        rintro rfl
        rw [Fresh, query_proposal] at fresh
        cases found : store.proposals store.nextProposal with
        | none =>
            rw [found] at fresh
            contradiction
        | some row => exact absurd (coherent.rows.below found) (Nat.lt_irrefl _)
      simp only [query_proposal, Store.perform, Function.update_of_ne away]
      rfl
  | proposals => rfl
  | proposalList active limit offset =>
      rw [query_proposalList, query_proposalList, page_insert (clear active limit offset value cached)]
  | votes proposalId support => rfl

theorem Coherent.saveVote (coherent : Coherent (some vote.proposalId) store)
    (clear : Clear (.saveVote vote) store) :
    Coherent (some vote.proposalId) (Store.perform (.saveVote vote) store).2 := by
  refine coherent.write ⟨coherent.rows.id, coherent.rows.below⟩ rfl fun key value cached fine _ => ?_
  cases key with
  | proposal id =>
      have away : vote.proposalId ≠ id := fun same =>
        fine vote.proposalId rfl (congrArg Key.proposal same.symm)
      rw [query_proposal, query_proposal, votesOf_saveVote, if_neg away, List.append_nil]
      rfl
  | proposals => rfl
  | proposalList active limit offset => rfl
  | votes proposalId support =>
      rw [query_votes, query_votes, votesOf_saveVote]
      split
      · rename_i here
        subst here
        have unselected := clear support value cached
        rw [List.filter_append, List.filter_singleton]
        simp [Store.perform, unselected]
      · rw [List.append_nil]

theorem Coherent.redisDel (coherent : Coherent (some id) store) :
    Coherent none (Store.perform (.redisDel (.proposal id)) store).2 := by
  refine ⟨⟨coherent.rows.id, coherent.rows.below⟩, fun {key value} cached _ => ?_⟩
  have same : (Store.perform (.redisDel (.proposal id)) store).2.query key = store.query key :=
    query_congr rfl rfl rfl key
  by_cases here : key = .proposal id
  · subst here
    simp [Store.perform] at cached
  · simp only [Store.perform, Function.update_of_ne here] at cached
    rw [Fresh, same]
    refine coherent.cached cached ?_
    rintro _ ⟨⟩
    exact here

theorem Coherent.redisSet (coherent : Coherent none store) {key : Key} {value : key.Value}
    (fresh : Fresh store key value) (seconds : Nat) :
    Coherent none (Store.perform (.redisSet key value seconds) store).2 := by
  refine ⟨⟨coherent.rows.id, coherent.rows.below⟩, fun {other found} cached fine => ?_⟩
  have same : (Store.perform (.redisSet key value seconds) store).2.query other = store.query other :=
    query_congr rfl rfl rfl other
  rw [Fresh, same]
  by_cases here : other = key
  · subst here
    simp only [Store.perform, Function.update_self, Option.some.injEq] at cached
    exact cached ▸ fresh
  · simp only [Store.perform, Function.update_of_ne here] at cached
    exact coherent.cached cached fine

end Writes

/-! ## Calls -/

abbrev Ends {β : Type} (config : Config) (Q : Except JsError β → Store → Prop) (task : Async β)
    (store : Store) : Prop := (service config).Ensures Clear Q task store

def Steady (P : Store → Prop) : Prop := ∀ {before after}, Fades before after → P before → P after

theorem Fades.redisDel (store : Store) (key : Key) :
    Fades store (Store.perform (.redisDel key) store).2 := by
  refine ⟨rfl, rfl, rfl, fun other => ?_⟩
  by_cases here : other = key
  · subst here
    exact .inr (Function.update_self ..)
  · exact .inl (Function.update_of_ne here ..)

structure Copies (store : Store) (id : Nat) (copy : Proposal) : Prop where
  here : copy.id = id
  stored : ∃ row, store.proposals id = some row ∧ copy.createdAt.ms = row.createdAt.ms ∧
    copy.status = row.status

section Calls
variable {β : Type} {config : Config} {Q : Except JsError β → Store → Prop} {store : Store} {id : Nat}
  {copy : Proposal}

theorem Copies.fades {after : Store} (copies : Copies store id copy) (fades : Fades store after) :
    Copies after id copy :=
  ⟨copies.here, fades.proposals ▸ copies.stored⟩

theorem Fresh.copies (rows : Rows store) (fresh : Fresh store (.proposal id) copy) :
    Copies store id copy := by
  rw [Fresh, query_proposal] at fresh
  cases found : store.proposals id with
  | none =>
      rw [found] at fresh
      contradiction
  | some row =>
      rw [found] at fresh
      have json : ({ row.columns with votes := some (store.votesOf id) } : Proposal).json = copy.json :=
        Option.some.inj fresh
      have here : row.id = copy.id := by
        have := congrArg Proposal.id json
        exact this
      have createdAt := congrArg Proposal.createdAt json
      have status := congrArg Proposal.status json
      exact ⟨here.symm.trans (rows.id found), row, found, (Timestamp.iso.inj createdAt).symm,
        status.symm⟩

namespace Ends

theorem perform {op : Op} {next : Reply op → Async β}
    (rest : ∀ after, Fades store after → Clear op after →
      Ends config Q (next (Store.perform op after).1) (Store.perform op after).2) :
    Ends config Q (GovernanceService.perform op >>= next) store :=
  Service.Ensures.perform fun after drifted => rest after drifted.fades

theorem ask {op : Op} {next : Reply op → Async β} {P : Store → Prop} (steady : Steady P)
    (holds : P store) (effect : ∀ before, Fades before (Store.perform op before).2)
    (rest : ∀ reply after, P after → Ends config Q (next reply) after) :
    Ends config Q (GovernanceService.perform op >>= next) store :=
  perform fun after fades _ => rest _ _ (steady (effect after) (steady fades holds))

theorem getJson {key : Key} {next : Option key.Value → Async β} (coherent : Coherent none store)
    (missed : ∀ after, Coherent none after → Ends config Q (next none) after)
    (hit : ∀ after value, Coherent none after → Fresh after key value →
      Ends config Q (next (some value)) after) :
    Ends config Q (GovernanceService.getJson key >>= next) store := by
  intro after drifted _
  have coherent := coherent.fades drifted.fades
  show Ends config Q (next ((after.cache key).map key.json)) after
  cases cached : after.cache key with
  | none => exact missed after coherent
  | some value => exact hit after _ coherent (coherent.cached cached nofun).json

theorem setJson {key : Key} {value : key.Value} {seconds : Nat} {next : Unit → Async β}
    (coherent : Coherent none store) (fresh : Fresh store key value)
    (rest : ∀ after, Coherent none after → Fresh after key value → Ends config Q (next ()) after) :
    Ends config Q (GovernanceService.setJson key value seconds >>= next) store := by
  refine perform fun after fades _ => ?_
  have fresh := fades.fresh.mpr fresh
  have same : (Store.perform (.redisSet key value seconds) after).2.query key = after.query key :=
    query_congr rfl rfl rfl key
  refine rest _ ((coherent.fades fades).redisSet fresh seconds) ?_
  rw [Fresh, same]
  exact fresh

end Ends

theorem ends_getProposals (coherent : Coherent none store) (active : Bool) (limit offset : Nat) :
    Ends config (fun result after => Coherent none after ∧ ∃ proposals, result = .ok proposals ∧
      Fresh after (.proposalList active limit offset) proposals)
      (getProposals active limit offset) store := by
  refine Ends.getJson coherent ?_ ?_
  · intro after coherent
    refine Ends.perform fun after fades _ => ?_
    refine Ends.setJson (coherent.fades fades) (fresh_query rfl) ?_
    exact fun after coherent fresh => ⟨coherent, _, rfl, fresh⟩
  · exact fun after proposals coherent fresh => ⟨coherent, proposals, rfl, fresh⟩

theorem ends_getVotes (coherent : Coherent none store) (proposalId : Nat) (support : Option Bool) :
    Ends config (fun result after => Coherent none after ∧ ∃ votes, result = .ok votes ∧
      Fresh after (.votes proposalId support) votes) (getVotes proposalId support) store := by
  refine Ends.getJson coherent ?_ ?_
  · intro after coherent
    refine Ends.perform fun after fades _ => ?_
    refine Ends.setJson (coherent.fades fades) (fresh_query rfl) ?_
    exact fun after coherent fresh => ⟨coherent, _, rfl, fresh⟩
  · exact fun after votes coherent fresh => ⟨coherent, votes, rfl, fresh⟩

def Got (id : Nat) (result : Except JsError Proposal) (after : Store) : Prop :=
  (∃ proposal, result = .ok proposal ∧ Fresh after (.proposal id) proposal) ∨
  (∃ error, result = .error error) ∧ after.query (.proposal id) = none

theorem ends_getProposal (coherent : Coherent none store) (id : Nat) :
    Ends config (fun result after => Coherent none after ∧ Got id result after) (getProposal id)
      store := by
  refine Ends.getJson coherent ?_ ?_
  · intro after coherent
    refine Ends.perform fun after fades _ => ?_
    have coherent := coherent.fades fades
    cases found : (Store.perform (.findProposal id) after).1 with
    | none => exact ⟨coherent, .inr ⟨⟨_, rfl⟩, found⟩⟩
    | some proposal =>
        refine Ends.setJson coherent (fresh_query found) ?_
        exact fun after coherent fresh => ⟨coherent, .inl ⟨_, rfl, fresh⟩⟩
  · exact fun after proposal coherent fresh => ⟨coherent, .inl ⟨_, rfl, fresh⟩⟩

theorem Ends.getProposal {next : Proposal → Async β} (coherent : Coherent none store)
    (missing : ∀ after error, Coherent none after → Q (.error error) after)
    (found : ∀ after copy, Coherent none after → Copies after id copy → Ends config Q (next copy) after) :
    Ends config Q (GovernanceService.getProposal id >>= next) store := by
  apply Service.Ensures.bind
  apply Service.Ensures.weaken (ends_getProposal coherent id)
  rintro result after ⟨coherent, got⟩
  rcases got with ⟨proposal, rfl, fresh⟩ | ⟨⟨error, rfl⟩, -⟩
  · exact found after proposal coherent (fresh.copies coherent.rows)
  · exact missing after error coherent

namespace Ends

theorem saveProposal {proposal : Proposal} {next : Proposal → Async β}
    (coherent : Coherent (some id) store) (copies : Copies store id copy)
    (here : proposal.id = copy.id) (createdAt : proposal.createdAt = copy.createdAt)
    (opened : proposal.status = .active → copy.status = .active)
    (rest : ∀ after, Coherent (some id) after →
      (∀ other ≠ id, ∀ copy, Copies store other copy → Copies after other copy) →
      Ends config Q (next proposal) after) :
    Ends config Q (GovernanceService.perform (.saveProposal proposal) >>= next) store := by
  refine perform fun after fades clear => ?_
  have coherent := coherent.fades fades
  obtain ⟨same, row, stored, date, status⟩ := copies.fades fades
  have here : proposal.id = id := here.trans same
  subst here
  refine rest _ (coherent.saveProposal stored (createdAt ▸ date) (fun active => status ▸ opened active)
    clear) fun other away copy copies => ?_
  obtain ⟨same, stored⟩ := copies.fades fades
  refine ⟨same, ?_⟩
  simp only [Store.perform, Function.update_of_ne away]
  exact stored

theorem redisDel {next : Unit → Async β} (coherent : Coherent (some id) store)
    (rest : ∀ after, Coherent none after →
      (∀ other copy, Copies store other copy → Copies after other copy) → Ends config Q (next ()) after) :
    Ends config Q (GovernanceService.perform (.redisDel (.proposal id)) >>= next) store :=
  perform fun _ fades _ => rest _ (coherent.fades fades).redisDel fun _ _ copies =>
    (copies.fades fades).fades (Fades.redisDel ..)

end Ends

theorem steady_coherent {stale : Option Nat} : Steady (Coherent stale) :=
  fun fades coherent => coherent.fades fades

def Reading (id : Nat) (copy : Proposal) (store : Store) : Prop :=
  Coherent none store ∧ Copies store id copy

theorem steady_reading : Steady (Reading id copy) :=
  fun fades reading => ⟨reading.1.fades fades, reading.2.fades fades⟩

theorem ends_createProposal (coherent : Coherent none store) (userId : Nat) (dto : CreateProposalDto) :
    Ends config (fun _ after => Coherent none after) (createProposal config userId dto) store := by
  refine Ends.ask steady_coherent coherent Fades.refl ?_
  intro balance after coherent
  refine Service.Ensures.throwIf (fun _ => coherent) fun _ => ?_
  refine Ends.ask steady_coherent coherent Fades.refl ?_
  intro startTime after coherent
  refine Ends.ask steady_coherent coherent Fades.refl ?_
  intro now after coherent
  refine Ends.perform fun after fades clear => ?_
  refine Ends.ask steady_coherent ((coherent.fades fades).insertProposal clear) Fades.refl ?_
  exact fun _ _ coherent => coherent

theorem ends_vote (coherent : Coherent none store) (userId proposalId : Nat) (dto : VoteDto) :
    Ends config (fun _ after => Coherent none after) (vote userId proposalId dto) store := by
  refine Ends.getProposal coherent (fun _ _ coherent => coherent) ?_
  intro after copy coherent copies
  refine Service.Ensures.throwIf (fun _ => coherent) fun active => ?_
  refine Ends.ask steady_reading ⟨coherent, copies⟩ Fades.refl ?_
  intro now after reading
  refine Service.Ensures.throwIf (fun _ => reading.1) fun _ => ?_
  refine Ends.ask steady_reading reading Fades.refl ?_
  intro existingVote after reading
  refine Service.Ensures.throwIf (fun _ => reading.1) fun _ => ?_
  refine Ends.ask steady_reading reading Fades.refl ?_
  intro votingPower after reading
  refine Service.Ensures.throwIf (fun _ => reading.1) fun _ => ?_
  refine Ends.perform fun after fades clear => ?_
  have coherent := (reading.1.fades fades).but.saveVote clear
  have copies := reading.2.fades fades
  have same : (copy.withVote dto.support votingPower).id = copy.id ∧
      (copy.withVote dto.support votingPower).createdAt = copy.createdAt ∧
      (copy.withVote dto.support votingPower).status = copy.status := by
    cases dto.support <;> exact ⟨rfl, rfl, rfl⟩
  refine Ends.saveProposal coherent ⟨copies.here, copies.stored⟩ same.1 same.2.1
    (fun active => same.2.2 ▸ active) ?_
  intro after coherent _
  refine Ends.redisDel coherent ?_
  intro after coherent _
  refine Ends.ask steady_coherent coherent Fades.refl ?_
  exact fun _ _ coherent => coherent

theorem ends_cancelProposal (coherent : Coherent none store) (proposalId : Nat) :
    Ends config (fun _ after => Coherent none after) (cancelProposal proposalId) store := by
  refine Ends.getProposal coherent (fun _ _ coherent => coherent) ?_
  intro after copy coherent copies
  refine Service.Ensures.throwIf (fun _ => coherent) fun _ => ?_
  refine Ends.saveProposal coherent.but copies rfl rfl nofun ?_
  intro after coherent _
  refine Ends.redisDel coherent ?_
  intro after coherent _
  refine Ends.ask steady_coherent coherent (fun before => Fades.redisDel before _) ?_
  intro _ after coherent
  refine Ends.ask steady_coherent coherent Fades.refl ?_
  exact fun _ _ coherent => coherent

theorem ends_recordOutcome {proposalId : Nat} (status : Status) (executionStatus : String)
    (reading : Reading proposalId copy store) (ended : status ≠ .active) :
    Ends config (fun result after => Coherent none after ∧ result.isOk)
      (recordOutcome proposalId copy status executionStatus) store := by
  refine Ends.ask steady_reading reading Fades.refl ?_
  intro now after reading
  refine Ends.saveProposal reading.1.but reading.2 rfl rfl (fun active => absurd active ended) ?_
  intro after coherent _
  refine Ends.redisDel coherent ?_
  intro after coherent _
  refine Ends.ask steady_coherent coherent (fun before => Fades.redisDel before _) ?_
  intro _ after coherent
  refine Ends.ask steady_coherent coherent Fades.refl ?_
  exact fun _ _ coherent => ⟨coherent, rfl⟩

theorem ends_executeActions {proposalId position : Nat} (reading : Reading proposalId copy store)
    (actions : List Action) :
    Ends config (fun result after => Reading proposalId copy after ∧ result.isOk)
      (executeActions proposalId position actions) store := by
  induction actions generalizing position store with
  | nil => exact ⟨reading, rfl⟩
  | cons action actions ih =>
      refine Ends.ask steady_reading reading (fun _ => ⟨rfl, rfl, rfl, fun _ => .inl rfl⟩) ?_
      exact fun _ after reading => ih reading

theorem ends_carryOut {proposalId : Nat} (reading : Reading proposalId copy store) :
    Ends config (fun result after => if result.isOk then Coherent none after
      else Reading proposalId copy after) (carryOut proposalId copy) store := by
  unfold carryOut
  cases copy.actions with
  | none => exact reading
  | some actions =>
      apply Service.Ensures.bind
      apply Service.Ensures.weaken (ends_executeActions reading actions)
      rintro result after ⟨reading, ok⟩
      cases result with
      | error error => contradiction
      | ok _ =>
          apply Service.Ensures.weaken (ends_recordOutcome .executed "completed" reading (by decide))
          rintro result after ⟨coherent, ok⟩
          rw [if_pos ok]
          exact coherent

theorem ends_executeProposal (coherent : Coherent none store) (proposalId : Nat) :
    Ends config (fun _ after => Coherent none after) (executeProposal config proposalId) store := by
  refine Ends.getProposal coherent (fun _ _ coherent => coherent) ?_
  intro after copy coherent copies
  refine Service.Ensures.throwIf (fun _ => coherent) fun _ => ?_
  cases copy.endTime with
  | iso ms => exact coherent
  | date endTime =>
      refine Ends.ask steady_reading ⟨coherent, copies⟩ Fades.refl ?_
      intro now after reading
      refine Service.Ensures.throwIf (fun _ => reading.1) fun _ => ?_
      apply Service.Ensures.tryCatch
      apply Service.Ensures.weaken (ends_carryOut reading)
      intro result after ended
      cases result with
      | ok proposal => exact ended
      | error error =>
          apply Service.Ensures.bind
          apply Service.Ensures.weaken (ends_recordOutcome .rejected "failed" ended (by decide))
          rintro result after ⟨coherent, ok⟩
          cases result <;> exact coherent

theorem findEnded_copies (rows : Rows store) (now : Int) {proposal : Proposal}
    (member : proposal ∈ (Store.perform (.findEnded now) store).1) :
    Copies store proposal.id proposal := by
  obtain ⟨stored, there, rfl⟩ := rows.mem (List.mem_filter.mp member).1
  exact ⟨rfl, stored, there, rfl, rfl⟩

theorem findEnded_nodup (rows : Rows store) (now : Int) :
    ((Store.perform (.findEnded now) store).1.map (·.id)).Nodup := by
  have ids : store.proposalRows.map (·.id) =
      (List.range store.nextProposal).filter fun id => (store.proposals id).isSome := by
    rw [Store.proposalRows, List.map_filterMap, ← List.filterMap_eq_filter]
    refine List.filterMap_congr fun id _ => ?_
    cases found : store.proposals id with
    | none => simp [Option.guard, found]
    | some row =>
        have here : row.columns.id = id := (rows.id found : row.id = id)
        simp [Option.guard, found, here]
  have nodup : (store.proposalRows.map (·.id)).Nodup := ids ▸ List.nodup_range.filter _
  exact nodup.sublist (List.filter_sublist.map _)

theorem ends_decideProposals {proposals : List Proposal} (coherent : Coherent none store)
    (copies : ∀ proposal ∈ proposals, Copies store proposal.id proposal)
    (apart : (proposals.map (·.id)).Nodup) :
    Ends config (fun result after => Coherent none after ∧ result.isOk)
      (decideProposals config proposals) store := by
  induction proposals generalizing store with
  | nil => exact ⟨coherent, rfl⟩
  | cons proposal rest ih =>
      obtain ⟨alone, apart⟩ := List.nodup_cons.mp apart
      have decided : (proposal.decided config).status ≠ .active := by
        unfold Proposal.decided
        split
        · split <;> nofun
        · nofun
      refine Ends.saveProposal coherent.but (copies proposal List.mem_cons_self) rfl rfl
        (fun active => absurd active decided) ?_
      intro after coherent others
      refine Ends.redisDel coherent ?_
      intro after coherent others'
      have known : ∀ other ∈ rest, Copies after other.id other := by
        intro other member
        have away : other.id ≠ proposal.id := fun same =>
          alone (List.mem_map.mpr ⟨other, member, same⟩)
        exact others' _ _ (others _ away _ (copies other (List.mem_cons_of_mem _ member)))
      have steady : Steady fun store => Coherent none store ∧
          ∀ other ∈ rest, Copies store other.id other :=
        fun fades ⟨coherent, known⟩ => ⟨coherent.fades fades,
          fun other member => (known other member).fades fades⟩
      refine Ends.ask steady ⟨coherent, known⟩ Fades.refl ?_
      exact fun _ after ⟨coherent, known⟩ => ih coherent known apart

theorem ends_processEndedProposals (coherent : Coherent none store) :
    Ends config (fun _ after => Coherent none after) (processEndedProposals config) store := by
  refine Ends.ask steady_coherent coherent Fades.refl ?_
  intro now after coherent
  refine Ends.perform fun after fades _ => ?_
  have coherent := coherent.fades fades
  apply Service.Ensures.bind
  apply Service.Ensures.weaken (ends_decideProposals coherent
    (fun _ member => findEnded_copies coherent.rows now member) (findEnded_nodup coherent.rows now))
  rintro result after ⟨coherent, ok⟩
  cases result with
  | error error => contradiction
  | ok _ =>
      simp only
      split
      · exact fun after drifted _ => (coherent.fades drifted.fades).fades (Fades.redisDel ..)
      · exact coherent

theorem ends_body (coherent : Coherent none store) (call : Call) :
    Ends config (fun result after => Coherent none after ∧ Answered after call result)
      (body config call) store := by
  cases call with
  | createProposal userId dto =>
      apply Service.Ensures.bind
      apply Service.Ensures.weaken (ends_createProposal coherent userId dto)
      rintro (error | proposal) after coherent <;> exact ⟨coherent, trivial⟩
  | getProposals active limit offset =>
      apply Service.Ensures.bind
      apply Service.Ensures.weaken (ends_getProposals coherent active limit offset)
      rintro _ after ⟨coherent, proposals, rfl, fresh⟩
      exact ⟨coherent, _, rfl, fresh⟩
  | getProposal id =>
      apply Service.Ensures.bind
      apply Service.Ensures.weaken (ends_getProposal coherent id)
      rintro result after ⟨coherent, got⟩
      rcases got with ⟨proposal, rfl, fresh⟩ | ⟨⟨error, rfl⟩, none⟩
      · exact ⟨coherent, .inl ⟨_, rfl, fresh⟩⟩
      · exact ⟨coherent, .inr ⟨⟨_, rfl⟩, none⟩⟩
  | vote userId proposalId dto =>
      apply Service.Ensures.bind
      apply Service.Ensures.weaken (ends_vote coherent userId proposalId dto)
      rintro (error | vote) after coherent <;> exact ⟨coherent, trivial⟩
  | executeProposal proposalId =>
      apply Service.Ensures.bind
      apply Service.Ensures.weaken (ends_executeProposal coherent proposalId)
      rintro (error | proposal) after coherent <;> exact ⟨coherent, trivial⟩
  | processEndedProposals =>
      apply Service.Ensures.bind
      apply Service.Ensures.weaken (ends_processEndedProposals coherent)
      rintro (error | _) after coherent <;> exact ⟨coherent, trivial⟩
  | getVotes proposalId support =>
      apply Service.Ensures.bind
      apply Service.Ensures.weaken (ends_getVotes coherent proposalId support)
      rintro _ after ⟨coherent, votes, rfl, fresh⟩
      exact ⟨coherent, _, rfl, fresh⟩
  | cancelProposal proposalId =>
      apply Service.Ensures.bind
      apply Service.Ensures.weaken (ends_cancelProposal coherent proposalId)
      rintro (error | proposal) after coherent <;> exact ⟨coherent, trivial⟩

end Calls

/-! ## Runs -/

theorem Store.Drift.refl (store : Store) : Drift store store :=
  ⟨rfl, rfl, rfl, rfl, rfl, fun _ => .inl rfl⟩

theorem Store.Drift.trans {first second third : Store} (drift : Drift first second)
    (drift' : Drift second third) : Drift first third := by
  refine ⟨drift'.proposals.trans drift.proposals, drift'.nextProposal.trans drift.nextProposal,
    drift'.votes.trans drift.votes, drift'.nextVote.trans drift.nextVote,
    drift'.actions.trans drift.actions, fun key => ?_⟩
  rcases drift'.cache key with same | dropped
  · rw [same]
    exact drift.cache key
  · exact .inr dropped

theorem Answered.fades {store after : Store} {call : Call} {result : Except JsError Result}
    (answered : Answered store call result) (fades : Fades store after) : Answered after call result := by
  cases call with
  | getProposal id =>
      rcases answered with ⟨proposal, rfl, fresh⟩ | ⟨error, none⟩
      · exact .inl ⟨proposal, rfl, fades.fresh.mpr fresh⟩
      · exact .inr ⟨error, (fades.query _).trans none⟩
  | getProposals active limit offset =>
      obtain ⟨proposals, rfl, fresh⟩ := answered
      exact ⟨proposals, rfl, fades.fresh.mpr fresh⟩
  | getVotes proposalId support =>
      obtain ⟨votes, rfl, fresh⟩ := answered
      exact ⟨votes, rfl, fades.fresh.mpr fresh⟩
  | _ => trivial

/-- Reads are as good as the database as long as no write is one that a cached list shows. -/
theorem readsFresh_of_unseen {config : Config} {store : Store} {pool : Calls}
    (coherent : Coherent none store)
    (reaches : (service config).Reaches unseen ⟨store, []⟩ pool) : ReadsFresh pool :=
  reaches.alone (I := Coherent none) (R := fun call result store => Answered store call result)
    Store.Drift.refl Store.Drift.trans (fun drift coherent => coherent.fades (Store.Drift.fades drift))
    (fun _ _ _ _ drift answered => answered.fades (Store.Drift.fades drift))
    (fun call _ coherent => ends_body coherent call) (fun _ _ alone => alone) coherent

/-! ## Schedules -/

def inTurn (clear : Op → Bool) (pool : Calls) : Async.Action Call Op Reply JsError Store → Bool
  | .start _ => pool.tasks.all fun running => running.rest.Finished
  | .serve _ ⟨op, .ok _⟩ => clear op
  | .serve _ ⟨_, .error _⟩ => false
  | .drift _ => true

theorem alone_of_inTurn {clear : Op → Bool} {C : Op → Store → Prop}
    (sound : ∀ op store, clear op = true → C op store) (pool : Calls)
    (action : Async.Action Call Op Reply JsError Store) (passed : inTurn clear pool action = true) :
    Service.Alone C pool action := by
  cases action with
  | start call =>
      refine ⟨fun _ running member => ?_, nofun, nofun⟩
      exact of_decide_eq_true (List.all_eq_true.mp passed running member)
  | drift after => exact ⟨nofun, nofun, nofun⟩
  | serve task event =>
      obtain ⟨op, error | reply⟩ := event
      · contradiction
      · refine ⟨nofun, ?_, ?_⟩
        · rintro _ _ ⟨⟩
          exact ⟨reply, rfl⟩
        · rintro _ _ ⟨⟩
          exact sound op _ passed

def Op.isRead : Op → Bool
  | .insertProposal _ => false
  | .saveProposal _ => false
  | .saveVote _ => false
  | _ => true

theorem clear_of_isRead (op : Op) (store : Store) (read : op.isRead = true) : Clear op store := by
  cases op <;> trivial

theorem coherent_storeOf {proposal : Proposal} {clock : Int} (here : proposal.id = 1) :
    Coherent none (storeOf proposal clock) := ⟨(consistent_storeOf here).rows, nofun⟩

structure Unlisted (store : Store) : Prop where
  pages : ∀ active limit offset, store.cache (.proposalList active limit offset) = none
  votes : ∀ proposalId support, store.cache (.votes proposalId support) = none

def Op.cachesNoList : Op → Bool
  | .redisSet (.proposalList _ _ _) _ _ => false
  | .redisSet (.votes _ _) _ _ => false
  | _ => true

namespace Unlisted
variable {store after : Store}

theorem clear (unlisted : Unlisted store) (op : Op) : Clear op store := by
  cases op with
  | insertProposal proposal =>
      intro active limit offset proposals cached
      rw [unlisted.pages] at cached
      contradiction
  | saveProposal proposal =>
      intro active limit offset proposals cached
      rw [unlisted.pages] at cached
      contradiction
  | saveVote vote =>
      intro support votes cached
      rw [unlisted.votes] at cached
      contradiction
  | _ => trivial

theorem drift (unlisted : Unlisted store) (drift : Store.Drift store after) : Unlisted after where
  pages active limit offset := (drift.cache _).elim (·.trans (unlisted.pages active limit offset)) id
  votes proposalId support := (drift.cache _).elim (·.trans (unlisted.votes proposalId support)) id

theorem perform (unlisted : Unlisted store) {op : Op} (kept : op.cachesNoList = true) :
    Unlisted (Store.perform op store).2 := by
  cases op with
  | redisSet key value expireSeconds =>
      cases key with
      | proposalList | votes => contradiction
      | proposal | proposals => exact ⟨unlisted.pages, unlisted.votes⟩
  | redisDel key =>
      have cleared (other : Key) (uncached : store.cache other = none) :
          Function.update store.cache key none other = none := by
        by_cases same : other = key
        · subst same
          exact Function.update_self ..
        · exact (Function.update_of_ne same ..).trans uncached
      exact ⟨fun active limit offset => cleared _ (unlisted.pages active limit offset),
        fun proposalId support => cleared _ (unlisted.votes proposalId support)⟩
  | _ => exact ⟨unlisted.pages, unlisted.votes⟩

theorem unseen {config : Config} {pool : Calls} (unlisted : Unlisted store)
    (reaches : (service config).Reaches (Service.Alone fun op _ => op.cachesNoList = true)
      ⟨store, []⟩ pool) :
    (service config).Reaches unseen ⟨store, []⟩ pool ∧ Unlisted pool.state := by
  induction reaches with
  | refl => exact ⟨.refl, unlisted⟩
  | @step pool action next _ alone step ih =>
      obtain ⟨reaches, before⟩ := ih
      refine ⟨reaches.step ⟨alone.start, alone.serve, fun _ => before.clear _⟩ step, ?_⟩
      cases step with
      | start => exact before
      | drift drifts => exact before.drift drifts
      | serve _ serves =>
          have kept := alone.clear rfl
          obtain ⟨reply, ok⟩ := alone.serve rfl
          cases serves with
          | ok => exact before.perform kept
          | error => cases ok

end Unlisted

/-- A vote while no list is cached; the second read of the votes is out of the cache. -/
theorem readsFresh_of_reads : ∃ pool,
    (service defaultConfig).Reaches unseen ⟨storeOf openProposal 10, []⟩ pool ∧
    pool.tasks.map (·.call) = [.vote 7 1 ⟨.yes, "0xa"⟩, .getVotes 1 none, .getVotes 1 none] ∧
    (pool.state.votesOf 1).length = 1 ∧ ReadsFresh pool := by
  have run : ∃ pool, (service defaultConfig).Reaches
      (Service.Alone fun op _ => op.cachesNoList = true) ⟨storeOf openProposal 10, []⟩ pool ∧
      ((service defaultConfig).play (inTurn Op.isRead)
        ([.start (.getVotes 1 none)] ++ steps 1 3 ++ [.start (.getVotes 1 none)] ++ steps 2 1) pool).any
          (fun last => decide (last.tasks.map (·.call) =
            [.vote 7 1 ⟨.yes, "0xa"⟩, .getVotes 1 none, .getVotes 1 none] ∧
            (last.state.votesOf 1).length = 1)) := by
    apply (service defaultConfig).exists_of_play (inTurn Op.cachesNoList)
      (alone_of_inTurn fun _ _ passed => passed) ([.start (.vote 7 1 ⟨.yes, "0xa"⟩)] ++ steps 0 10)
    decide +kernel
  obtain ⟨voted, reaches, rest⟩ := run
  have unlisted : Unlisted (storeOf openProposal 10) := ⟨fun _ _ _ => rfl, fun _ _ => rfl⟩
  obtain ⟨pool, continues, calls, stored⟩ := (service defaultConfig).exists_of_play
    (inTurn Op.isRead) (alone_of_inTurn clear_of_isRead) _ rest
  have whole := (unlisted.unseen reaches).1.trans continues
  exact ⟨pool, whole, calls, stored, readsFresh_of_unseen (coherent_storeOf rfl) whole⟩

def noVotes : Option (Except JsError Result) → Bool
  | some (.ok (.votes [])) => true
  | _ => false

theorem not_readsFresh_of_noVotes {pool : Calls}
    (call : pool.tasks.getLast?.map (·.call) = some (.getVotes 1 none))
    (read : noVotes (pool.tasks.getLast?.bind (·.rest.result)) = true)
    (stored : (pool.state.votesOf 1).length = 1) : ¬ ReadsFresh pool := by
  intro fresh
  obtain ⟨last, found, same⟩ := Option.map_eq_some_iff.mp call
  rw [found, Option.bind_some] at read
  unfold noVotes at read
  split at read
  · rename_i ended
    have answered := fresh last found _ ended
    rw [same] at answered
    obtain ⟨votes, returned, fresh⟩ := answered
    cases returned
    obtain ⟨vote, stored⟩ := List.length_eq_one_iff.mp stored
    have selected : [vote].filter (fun vote => decide (Selects none vote.support)) = [vote] := rfl
    rw [Fresh, query_votes, stored, selected] at fresh
    simp [Key.json, Store.latestFirst] at fresh
  · contradiction

/-- The votes are read before and after a vote, which does not delete their key. -/
theorem stale_votes : Coherent none (storeOf openProposal 10) ∧ ∃ pool,
    (service defaultConfig).Reaches (Service.Alone fun _ _ => True) ⟨storeOf openProposal 10, []⟩ pool ∧
    ¬ ReadsFresh pool := by
  refine ⟨coherent_storeOf rfl, ?_⟩
  have run : ∃ pool, (service defaultConfig).Reaches (Service.Alone fun _ _ => True)
      ⟨storeOf openProposal 10, []⟩ pool ∧
      pool.tasks.getLast?.map (·.call) = some (.getVotes 1 none) ∧
      noVotes (pool.tasks.getLast?.bind (·.rest.result)) = true ∧
      (pool.state.votesOf 1).length = 1 := by
    apply (service defaultConfig).exists_of_play (inTurn fun _ => true)
      (alone_of_inTurn fun _ _ _ => trivial)
      ([.start (.getVotes 1 none)] ++ steps 0 3 ++ [.start (.vote 7 1 ⟨.yes, "0xa"⟩)] ++ steps 1 10 ++
        [.start (.getVotes 1 none)] ++ steps 2 1)
    decide +kernel
  obtain ⟨pool, reaches, call, read, stored⟩ := run
  exact ⟨pool, reaches, not_readsFresh_of_noVotes call read stored⟩

end Kanaka.Backend.GovernanceService
