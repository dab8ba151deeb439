import Kanaka.Async.Sequence
import Kanaka.Backend.CDROracleService
import Kanaka.Contracts.Network
import Kanaka.Machine.Transactions

/-! # The rows of correlations next to the oracle -/

namespace Kanaka.Backend.CDROracleService
open Async Contracts

structure World where
  oracle : CDROracle.State
  block : Block

instance : Machine.Has CDROracle.State World where
  get := World.oracle
  set oracle w := { w with oracle }
  get_set _ _ := rfl
  set_set _ _ _ := rfl

instance : Machine.Has Block World where
  get := World.block
  set block w := { w with block }
  get_set _ _ := rfl
  set_set _ _ _ := rfl

/-! ## The table after a list of events -/

def isCorrelation : CDROracle.Event → Bool
  | .correlationUpdated _ _ _ => true
  | .metricsUpdated _ _ _ _ => false

def World.announced (w : World) : List CDROracle.Event := w.oracle.events.filter isCorrelation

def mirror (events : List CDROracle.Event) : Table PoolCorrelation.key :=
  (service.completeAll ⟨.empty, .empty, 0⟩ events).poolCorrelations

theorem complete_correlationUpdated (store : Store) (a b : Felt252) (c : U256) :
    (service.complete store (.correlationUpdated a b c)).poolCorrelations =
      store.poolCorrelations.save ⟨idText a, idText b, c.toNat⟩ := by
  unfold Service.complete
  show ((onCorrelationUpdated a b c).run service.answer store).2.poolCorrelations = _
  unfold onCorrelationUpdated perform
  rw [Task.run_tryCatch, Service.run_answer_perform]
  cases found : store.poolCorrelations.find (idText a, idText b) with
  | none => simp [service, Service.perform, Service.answer, found]
  | some row =>
      have named := (Table.find_eq_some_iff.mp found).2
      simp only [PoolCorrelation.key, Prod.mk.injEq] at named
      simp [service, Service.perform, Service.answer, found, named]

theorem mirror_concat (past : List CDROracle.Event) (a b : Felt252) (c : U256) :
    mirror (past ++ [.correlationUpdated a b c]) =
      (mirror past).save ⟨idText a, idText b, c.toNat⟩ := by
  rw [mirror, Service.completeAll_concat, complete_correlationUpdated, mirror]

theorem mem_mirror_concat {past : List CDROracle.Event} {a b : Felt252} {c : U256}
    {row : PoolCorrelation} : row ∈ (mirror (past ++ [.correlationUpdated a b c])).rows ↔
      row = ⟨idText a, idText b, c.toNat⟩ ∨
        row ∈ (mirror past).rows ∧ (row.poolA, row.poolB) ≠ (idText a, idText b) := by
  rw [mirror_concat, Table.mem_save]
  rfl

theorem row_iff {events : List CDROracle.Event} (only : ∀ event ∈ events, isCorrelation event = true)
    {a b : Felt252} : (∃ row ∈ (mirror events).rows, (row.poolA, row.poolB) = (idText a, idText b)) ↔
      ∃ c, .correlationUpdated a b c ∈ events := by
  induction events using List.reverseRecOn with
  | nil => simp [mirror]
  | append_singleton past event ih =>
      have earlier := ih fun other member => only other (List.mem_append_left _ member)
      cases event with
      | metricsUpdated =>
          have impossible := only _ List.mem_concat_self
          contradiction
      | correlationUpdated x y c =>
          simp only [mem_mirror_concat, List.mem_append, List.mem_singleton]
          constructor
          · rintro ⟨row, rfl | ⟨member, _⟩, named⟩
            · simp only [Prod.mk.injEq, idText_inj] at named
              exact ⟨c, .inr (by rw [named.1, named.2])⟩
            · obtain ⟨c', there⟩ := earlier.mp ⟨row, member, named⟩
              exact ⟨c', .inl there⟩
          · rintro ⟨c', there | here⟩
            · obtain ⟨row, member, named⟩ := earlier.mpr ⟨c', there⟩
              by_cases same : (row.poolA, row.poolB) = (idText x, idText y)
              · exact ⟨_, .inl rfl, same.symm.trans named⟩
              · exact ⟨row, .inr ⟨member, same⟩, named⟩
            · cases here
              exact ⟨_, .inl rfl, rfl⟩

/-! ## Updates one after the other -/

structure Others (before after : World) : Prop where
  correlations : after.oracle.correlations = before.oracle.correlations
  announced : after.announced = before.announced

def IsUpdate (call : Contracts.Call) : Prop :=
  ∃ a b c, call.message = .cdrOracle (.updateCorrelation a b c)

structure Agrees (w : World) : Prop where
  rows : ∀ row ∈ (mirror w.announced).rows,
    ∃ a b, row = ⟨idText a, idText b, (w.oracle.correlations (a, b)).toNat⟩
  mutual_rows : ∀ row ∈ (mirror w.announced).rows, ∀ other ∈ (mirror w.announced).rows,
    other.poolA = row.poolB → other.poolB = row.poolA → other.correlation = row.correlation

/-- The update keeps the value of a pair that has been updated in the other order. -/
def Harmless (w : World) (call : Contracts.Call) : Prop :=
  ∀ a b c, call.message = .cdrOracle (.updateCorrelation a b c) → a ≠ b →
    (∃ earlier, .correlationUpdated b a earlier ∈ w.oracle.events) → w.oracle.correlations (b, a) = c

def Symmetric (w : World) : Prop :=
  ∀ a b, w.oracle.correlations (a, b) = w.oracle.correlations (b, a)

section Updates
open Machine

abbrev oracleAlone (self : ContractAddress) : System World Contracts.Call Contracts.Reply :=
  alone self CDROracle.entry fun _ _ => True

variable {self : ContractAddress} {env : Contracts.Call → World → Option (Contracts.Reply × World) → Prop}

theorem update_ends {caller : ContractAddress} {a b : Felt252} {c : U256} {w : World}
    {sent : List Contracts.Call} {result : Contracts.Reply × World}
    (ends : Ends (oracleAlone self) env
      ((CDROracle.entry caller (.cdrOracle (.updateCorrelation a b c))).run w) sent (some result)) :
    result.2.oracle.correlations =
      Function.update (Function.update w.oracle.correlations (a, b) c) (b, a) c ∧
    result.2.announced = w.announced ++ [.correlationUpdated a b c] := by
  obtain ⟨_, ends⟩ := ends.of_assoc.of_load.of_assoc.of_require
  obtain ⟨_, ends⟩ := ends.of_assoc.of_require
  obtain ⟨_, ends⟩ := Ends.done_iff.mp ends.of_assoc.of_update.of_assoc.of_update.of_update
  cases ends
  simp [World.announced, isCorrelation, Has.get, Has.set]

theorem only_announced (w : World) : ∀ event ∈ w.announced, isCorrelation event = true :=
  fun _ member => (List.mem_filter.mp member).2

theorem mem_announced {w : World} {a b : Felt252} {c : U256} :
    .correlationUpdated a b c ∈ w.announced ↔ .correlationUpdated a b c ∈ w.oracle.events := by
  simp [World.announced, isCorrelation]

def RowsAgree (w : World) : Prop := ∀ row ∈ (mirror w.announced).rows,
  ∃ a b, row = ⟨idText a, idText b, (w.oracle.correlations (a, b)).toNat⟩

section Step
variable {w after : World} {a b : Felt252} {c : U256}
  (written : after.oracle.correlations =
    Function.update (Function.update w.oracle.correlations (a, b) c) (b, a) c)
include written

theorem correlations_written {x y : Felt252} : after.oracle.correlations (x, y) =
    if (x, y) = (a, b) ∨ (x, y) = (b, a) then c else w.oracle.correlations (x, y) := by
  rw [written, Function.update_apply, Function.update_apply]
  by_cases here : (x, y) = (a, b)
  · simp [here]
  · simp [here]

theorem rowsAgree_step (announced : after.announced = w.announced ++ [.correlationUpdated a b c])
    (agree : RowsAgree w) : RowsAgree after ↔ (a ≠ b →
      (∃ earlier, .correlationUpdated b a earlier ∈ w.oracle.events) → w.oracle.correlations (b, a) = c) := by
  have values := @correlations_written w after a b c written
  rw [RowsAgree, announced]
  simp only [mem_mirror_concat]
  constructor
  · intro agreeAfter apart earlier
    simp only [← mem_announced] at earlier
    obtain ⟨row, member, named⟩ := (row_iff (only_announced w)).mpr earlier
    have other : (row.poolA, row.poolB) ≠ (idText a, idText b) := by
      rw [named, ne_eq, Prod.mk.injEq, idText_inj, idText_inj]
      exact fun same => apart same.2
    obtain ⟨x, y, before⟩ := agree row member
    obtain ⟨x', y', now⟩ := agreeAfter row (.inr ⟨member, other⟩)
    rw [before] at named now
    simp only [Prod.mk.injEq, idText_inj, PoolCorrelation.mk.injEq, Int.natCast_inj,
      BitVec.toNat_inj] at named now
    obtain ⟨rfl, rfl⟩ := named
    obtain ⟨rfl, rfl, value⟩ := now
    rw [value, values, if_pos (.inr rfl)]
  · intro harmless row member
    rcases member with rfl | ⟨member, other⟩
    · refine ⟨a, b, ?_⟩
      rw [values, if_pos (.inl rfl)]
    · obtain ⟨x, y, rfl⟩ := agree row member
      refine ⟨x, y, ?_⟩
      simp only [ne_eq, Prod.mk.injEq, idText_inj] at other
      rw [values]
      split
      · rename_i pair
        simp only [Prod.mk.injEq, other, false_or] at pair
        obtain ⟨rfl, rfl⟩ := pair
        have apart : y ≠ x := fun same => other ⟨same.symm, same⟩
        obtain ⟨earlier, there⟩ := (row_iff (only_announced w)).mp ⟨_, member, rfl⟩
        rw [harmless apart ⟨earlier, mem_announced.mp there⟩]
      · rfl

theorem symmetric_step (symmetric : Symmetric w) : Symmetric after := by
  intro x y
  rw [correlations_written written, correlations_written written, symmetric x y]
  simp only [Prod.mk.injEq, and_comm, or_comm]

end Step

theorem agrees_iff {w : World} (symmetric : Symmetric w) : Agrees w ↔ RowsAgree w := by
  constructor
  · exact Agrees.rows
  · intro agree
    refine ⟨agree, ?_⟩
    intro row member other member' swapped swapped'
    obtain ⟨a, b, rfl⟩ := agree row member
    obtain ⟨x, y, rfl⟩ := agree other member'
    simp only [idText_inj] at swapped swapped'
    subst swapped swapped'
    rw [symmetric]

variable {yieldEngine governance : ContractAddress} {block : Block}
  {past : List (Contracts.Call × World)}

theorem latest_symmetric (succession : Succession (oracleAlone self) Others IsUpdate
    ⟨CDROracle.constructor yieldEngine governance, block⟩ past) :
    Symmetric (latest ⟨CDROracle.constructor yieldEngine governance, block⟩ past) := by
  induction succession with
  | nil => exact fun _ _ => rfl
  | @snoc past request before body sent reply after _ met known found ends ih =>
      rw [latest_concat]
      obtain ⟨a, b, c, message⟩ := known
      simp only [alone, deployed_cons, deployed_nil, Option.ite_none_right_eq_some,
        Option.some.injEq, message] at found
      rw [← found.2] at ends
      have written := (update_ends ends).1
      rw [met.correlations] at written
      exact symmetric_step written ih

/-- The rows agree with the contract after every update exactly when no update of a pair changes
the value of a row of the pair in the other order. -/
theorem correlations_mirrored_iff (self yieldEngine governance : ContractAddress) (block : Block)
    {past : List (Contracts.Call × World)}
    (succession : Succession (oracleAlone self) Others IsUpdate
      ⟨CDROracle.constructor yieldEngine governance, block⟩ past) :
    (∀ early, early <+: past →
      Agrees (latest ⟨CDROracle.constructor yieldEngine governance, block⟩ early)) ↔
    ∀ early call, early ++ [call] <+: past →
      Harmless (latest ⟨CDROracle.constructor yieldEngine governance, block⟩ early) call.1 := by
  have agrees : ∀ early, early <+: past →
      (Agrees (latest ⟨CDROracle.constructor yieldEngine governance, block⟩ early) ↔
        RowsAgree (latest ⟨CDROracle.constructor yieldEngine governance, block⟩ early)) :=
    fun early reached => agrees_iff (latest_symmetric (succession.of_prefix reached))
  rw [forall₂_congr agrees]
  apply succession.always_iff
  · exact fun row member => absurd member List.not_mem_nil
  · intro past request before body sent reply after _ met known found ends agree
    obtain ⟨a, b, c, message⟩ := known
    simp only [alone, deployed_cons, deployed_nil, Option.ite_none_right_eq_some,
      Option.some.injEq, message] at found
    rw [← found.2] at ends
    obtain ⟨written, announced⟩ := update_ends ends
    rw [met.correlations] at written
    rw [met.announced] at announced
    rw [rowsAgree_step written announced agree]
    constructor
    · intro harmless x y z same
      rw [message] at same
      cases same
      exact harmless
    · exact fun harmless => harmless a b c message

theorem Others.refl (w : World) : Others w w := ⟨rfl, rfl⟩

theorem correlations_mirrored_both : ∃ past : List (Contracts.Call × World), past.length = 2 ∧
    ∀ early, early <+: past → Agrees (latest ⟨CDROracle.constructor 3 4, ⟨0⟩⟩ early) := by
  have none : Succession (oracleAlone 1) Others IsUpdate ⟨CDROracle.constructor 3 4, ⟨0⟩⟩ [] := .nil
  have run := (none.call .refl ⟨4, 1, .cdrOracle (.updateCorrelation 5 6 7)⟩ ⟨_, _, _, rfl⟩ rfl
    (fun _ => .none) 0 rfl).call .refl ⟨4, 1, .cdrOracle (.updateCorrelation 6 5 7)⟩ ⟨_, _, _, rfl⟩
    rfl (fun _ => .none) 0 rfl
  refine ⟨_, rfl, (correlations_mirrored_iff 1 3 4 ⟨0⟩ run).mpr ?_⟩
  intro early call reached
  rcases List.prefix_concat_iff.mp reached with last | reached
  · obtain ⟨rfl, same⟩ := List.append_inj' last rfl
    cases same
    intro a b c message _ _
    cases message
    rfl
  · rcases List.prefix_concat_iff.mp reached with last | reached
    · obtain ⟨rfl, same⟩ := List.append_inj' last rfl
      cases same
      rintro a b c message _ ⟨earlier, there⟩
      exact absurd there List.not_mem_nil
    · simp at reached

/-- Governance 4 corrects the correlation of a pair in the other order: the first row stays. -/
theorem correlation_stale : ∃ past : List (Contracts.Call × World),
    Succession (oracleAlone 1) Others IsUpdate ⟨CDROracle.constructor 3 4, ⟨0⟩⟩ past ∧
    (latest ⟨CDROracle.constructor 3 4, ⟨0⟩⟩ past).oracle.correlations (5, 6) = 9 ∧
    ⟨idText 5, idText 6, 7⟩ ∈ (mirror (latest ⟨CDROracle.constructor 3 4, ⟨0⟩⟩ past).announced).rows := by
  have none : Succession (oracleAlone 1) Others IsUpdate ⟨CDROracle.constructor 3 4, ⟨0⟩⟩ [] := .nil
  have run := (none.call .refl ⟨4, 1, .cdrOracle (.updateCorrelation 5 6 7)⟩ ⟨_, _, _, rfl⟩ rfl
    (fun _ => .none) 0 rfl).call .refl ⟨4, 1, .cdrOracle (.updateCorrelation 6 5 9)⟩ ⟨_, _, _, rfl⟩
    rfl (fun _ => .none) 0 rfl
  refine ⟨_, run, rfl, ?_⟩
  decide +kernel

end Updates

end Kanaka.Backend.CDROracleService
