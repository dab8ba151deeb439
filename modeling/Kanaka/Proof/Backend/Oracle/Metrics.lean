import Kanaka.Backend.CDROracleService
import Kanaka.Machine.Local
import Kanaka.Proof.Pools.Liquidity

/-! # The rows of pool metrics next to the oracle and the vault -/

namespace Kanaka.Backend.CDROracleService
open Async Contracts Machine Proof.Pools Proof.Pools.Liquidity

/-! ## What the oracle has announced -/

/-- The total value locked, the volatility and the yield rate of a pool. -/
abbrev Figures := U256 × U256 × U256

def figures (metrics : Contracts.PoolMetrics) : Figures :=
  (metrics.tvl, metrics.volatility, metrics.yieldRate)

def announced (poolId : Felt252) : CDROracle.Event → Option Figures
  | .metricsUpdated id tvl volatility yieldRate =>
      if id = poolId then some (tvl, volatility, yieldRate) else none
  | .correlationUpdated _ _ _ => none

def lastAnnounced (events : List CDROracle.Event) (poolId : Felt252) : Option Figures :=
  (events.filterMap (announced poolId)).getLast?

/-- The metrics of every pool are those announced last. -/
def Told (oracle : CDROracle.State) : Prop :=
  ∀ poolId, figures (oracle.poolMetrics poolId) =
    (lastAnnounced oracle.events poolId).getD (0, 0, 0)

theorem lastAnnounced_concat (events : List CDROracle.Event) (event : CDROracle.Event)
    (poolId : Felt252) : lastAnnounced (events ++ [event]) poolId =
      (announced poolId event).or (lastAnnounced events poolId) := by
  unfold lastAnnounced
  rw [List.filterMap_append]
  cases here : announced poolId event with
  | none => simp [here]
  | some figures => simp [here]

theorem Told.storeMetrics {oracle : CDROracle.State} (told : Told oracle) (poolId : Felt252)
    (metrics : Contracts.PoolMetrics) (timestamp : U64) :
    Told ((oracle.writePoolMetrics poolId { metrics with lastUpdate := timestamp }).emit
      (.metricsUpdated poolId metrics.tvl metrics.volatility metrics.yieldRate)) := by
  intro other
  simp only [CDROracle.State.emit_poolMetrics, CDROracle.State.writePoolMetrics_poolMetrics,
    CDROracle.State.emit_events, CDROracle.State.writePoolMetrics_events, lastAnnounced_concat,
    announced]
  by_cases same : poolId = other
  · rw [← same, Function.update_self, if_pos rfl]
    rfl
  · rw [Function.update_of_ne (Ne.symm same), if_neg same]
    exact told other

theorem Told.updateCorrelation {oracle : CDROracle.State} (told : Told oracle)
    (first second : Felt252 × Felt252) (a b : Felt252) (c : U256) :
    Told (((oracle.writeCorrelations first c).writeCorrelations second c).emit
      (.correlationUpdated a b c)) := by
  intro poolId
  simp only [CDROracle.State.emit_events, lastAnnounced_concat, announced, Option.none_or]
  exact told poolId

/-! ### It stays so, whatever the contracts do -/

abbrev ToldIn (w : Liquidity.World) : Prop := Told w.oracle

section Contracts
variable (self caller : ContractAddress) (message : Contracts.Message) {w : Liquidity.World}
  (told : ToldIn w)
include told

theorem local_vaultManager :
    Local ToldIn ((VaultManager.entry self caller message : Entry _ Contracts.Reply).run w) := by
  intro history
  apply VaultManager.safe_entry self caller message told
  · intro poolId amount _
    apply VaultManager.safe_deposit
    intro _ _ _
    apply Local.send (P := ToldIn) told
    intro _ paid paidTold newBalance newTotal _ _
    exact Local.send (P := ToldIn) paidTold fun _ _ kept => kept
  · intro poolId amount _
    apply VaultManager.safe_withdraw
    intro newBalance newTotal _ _ _ _
    refine Local.send (P := ToldIn) told ?_
    intro _ notified notifiedTold
    exact Local.send (P := ToldIn) notifiedTold fun _ _ kept => kept
  · intro poolId token _
    apply VaultManager.safe_addPool
    exact fun _ _ => told

theorem local_yieldEngine :
    Local ToldIn ((YieldEngine.entry self caller message : Entry _ Contracts.Reply).run w) := by
  intro history
  apply YieldEngine.safe_entry self caller message told
  · intro newWeights _
    apply YieldEngine.safe_rebalance self caller newWeights (fun _ _ _ now => ToldIn now)
    · exact fun _ => told
    · exact fun _ _ _ _ now _ _ filling _ _ => filling
    · intro _ i filled filling
      exact Local.send (P := ToldIn) filling fun _ _ kept => kept
  · intro poolId _
    apply YieldEngine.safe_harvestYield
    intro _
    apply Local.send (P := ToldIn) told
    intro _ asked askedTold yieldAmount lastUpdate _
    exact ⟨fun _ => askedTold, fun _ => Local.send (P := ToldIn) askedTold fun _ _ kept => kept⟩
  · intro isDeposit poolId amount
    apply YieldEngine.safe_notifyOracle
    exact fun _ => Local.send (P := ToldIn) told fun _ _ kept => kept

theorem local_cdrOracle :
    Local ToldIn ((CDROracle.entry caller message : Entry _ Contracts.Reply).run w) := by
  intro history
  apply CDROracle.safe_entry caller message told
  · intro poolId amount isDeposit
    apply CDROracle.safe_updatePoolMetrics
    intro _ tvl _
    exact told.storeMetrics poolId { w.oracle.poolMetrics poolId with tvl } w.block.timestamp
  · intro replace poolId _
    apply CDROracle.safe_updateMetric
    intro _
    apply CDROracle.safe_storeMetrics
    exact told.storeMetrics poolId (replace (w.oracle.poolMetrics poolId)) w.block.timestamp
  · intro poolA poolB correlation
    apply CDROracle.safe_updateCorrelation
    exact fun _ _ => told.updateCorrelation _ _ poolA poolB correlation

end Contracts

theorem localised_pooling (d : Deployment) : Localised (pooling d) ToldIn where
  code {request body} found w told := by
    simp only [deployed_cons, deployed_nil] at found
    split at found
    · cases found
      exact local_vaultManager d.vault request.sender request.message told
    · split at found
      · cases found
        exact local_yieldEngine d.engine request.sender request.message told
      · split at found
        · cases found
          exact local_cdrOracle request.sender request.message told
        · contradiction
  drift impossible _ := impossible.elim
  tick moves told := by
    unfold ToldIn
    rw [moves.2.2]
    exact told

/-! ## The rows -/

def rowOf (poolId : Felt252) (shown : Figures) (lastUpdate : Int) : PoolMetrics :=
  ⟨idText poolId, shown.1.toNat, shown.2.1.toNat, shown.2.2.toNat, lastUpdate⟩

@[simp] theorem rowOf_poolId (poolId : Felt252) (shown : Figures) (lastUpdate : Int) :
    (rowOf poolId shown lastUpdate).poolId = idText poolId := rfl

section Deliveries

theorem run_onMetricsUpdated {serve : (op : Op) → Store → Except JsError (Reply op) × Store}
    {store : Store} {now : Int} (timed : serve .now store = (.ok now, store))
    (finds : ∀ id, serve (.findMetrics id) store = (.ok (store.poolMetrics.find id), store))
    (poolId : Felt252) (tvl volatility yieldRate : U256) :
    (onMetricsUpdated poolId tvl volatility yieldRate).run serve store =
      (Task.tryCatch
        (perform (.saveMetrics (rowOf poolId (tvl, volatility, yieldRate) (now / 1000))))
        fun _ => pure () : Async Unit).run serve store := by
  have timed : (perform .now).run serve store = (.ok now, store) :=
    (Task.run_perform _ _ _).trans timed
  have finds : (perform (.findMetrics (idText poolId))).run serve store =
      (.ok (store.poolMetrics.find (idText poolId)), store) :=
    (Task.run_perform _ _ _).trans (finds _)
  unfold onMetricsUpdated
  rw [Task.run_tryCatch, Task.run_bind_ok finds]
  cases found : store.poolMetrics.find (idText poolId) with
  | none =>
      dsimp only
      rw [Task.run_bind_ok timed, ← Task.run_tryCatch]
      rfl
  | some metrics =>
      dsimp only
      rw [(Table.find_eq_some_iff.mp found).2, Task.run_bind_ok timed, ← Task.run_tryCatch]
      rfl

variable (store : Store) (moment : Moment)

theorem run_saveMetrics (row : PoolMetrics) :
    ((Task.tryCatch (perform (.saveMetrics row)) fun _ => pure () : Async Unit).run (serve moment)
      store).2.poolMetrics =
      if storable moment row then store.poolMetrics.save row else store.poolMetrics := by
  unfold perform
  rw [Task.run_tryCatch, Task.run_perform]
  by_cases fits : storable moment row
  · have saved : serve moment (.saveMetrics row) store =
        (.ok (), { store with poolMetrics := store.poolMetrics.save row }) := if_pos fits
    rw [saved, if_pos fits]
  · have refused : serve moment (.saveMetrics row) store =
        (.error (.ofMessage "QueryFailedError"), store) := if_neg fits
    rw [refused, if_neg fits]
    rfl

theorem deliver_metricsUpdated (poolId : Felt252) (tvl volatility yieldRate : U256) :
    (deliver store (.metricsUpdated poolId tvl volatility yieldRate, moment)).poolMetrics =
      if storable moment (rowOf poolId (tvl, volatility, yieldRate) (moment.now / 1000)) then
        store.poolMetrics.save (rowOf poolId (tvl, volatility, yieldRate) (moment.now / 1000))
      else store.poolMetrics := by
  rw [← run_saveMetrics, deliver, body, run_onMetricsUpdated rfl fun _ => rfl]

theorem deliver_correlationUpdated (poolA poolB : Felt252) (correlation : U256) :
    (deliver store (.correlationUpdated poolA poolB correlation, moment)).poolMetrics =
      store.poolMetrics := by
  show ((onCorrelationUpdated poolA poolB correlation).run (serve moment) store).2.poolMetrics = _
  unfold onCorrelationUpdated
  rw [Task.run_tryCatch, Task.run_bind_ok (Task.run_perform _ _ _)]
  cases store.poolCorrelations.find (idText poolA, idText poolB) with
  | none => rfl
  | some row => rfl

end Deliveries

/-! ## The row of a pool is what was announced last -/

/-- The figures of a pool that were delivered last, with what their handler met. -/
def lastDelivered (deliveries : List (CDROracle.Event × Moment)) (poolId : Felt252) :
    Option (Figures × Moment) :=
  (deliveries.filterMap fun delivery =>
    (announced poolId delivery.1).map fun shown => (shown, delivery.2)).getLast?

def rowFor (poolId : Felt252) (shown : Figures × Moment) : PoolMetrics :=
  rowOf poolId shown.1 (shown.2.now / 1000)

section Rows
variable {deliveries : List (CDROracle.Event × Moment)} {poolId : Felt252}

theorem lastDelivered_concat (delivery : CDROracle.Event × Moment) :
    lastDelivered (deliveries ++ [delivery]) poolId =
      ((announced poolId delivery.1).map fun shown => (shown, delivery.2)).or
        (lastDelivered deliveries poolId) := by
  unfold lastDelivered
  rw [List.filterMap_append]
  cases here : announced poolId delivery.1 with
  | none => simp [here]
  | some shown => simp [here]

theorem lastDelivered_fst : (lastDelivered deliveries poolId).map Prod.fst =
    lastAnnounced (deliveries.map Prod.fst) poolId := by
  induction deliveries using List.reverseRecOn with
  | nil => rfl
  | append_singleton deliveries delivery ih =>
      rw [lastDelivered_concat, List.map_append, List.map_singleton, lastAnnounced_concat, ← ih]
      cases announced poolId delivery.1 with
      | none => rfl
      | some shown => rfl

theorem find_deliverAll
    (fits : ∀ shown, lastDelivered deliveries poolId = some shown →
      storable shown.2 (rowFor poolId shown)) :
    (deliverAll deliveries).poolMetrics.find (idText poolId) =
      (lastDelivered deliveries poolId).map (rowFor poolId) := by
  induction deliveries using List.reverseRecOn with
  | nil => rfl
  | append_singleton deliveries delivery ih =>
      rw [lastDelivered_concat] at fits ⊢
      rw [deliverAll, List.foldl_concat, ← deliverAll]
      obtain ⟨event, moment⟩ := delivery
      cases event with
      | correlationUpdated poolA poolB correlation =>
          rw [deliver_correlationUpdated]
          exact ih fits
      | metricsUpdated id tvl volatility yieldRate =>
          rw [deliver_metricsUpdated]
          by_cases same : id = poolId
          · subst same
            simp only [announced, if_true, Option.map_some, Option.some_or] at fits ⊢
            have stored := fits _ rfl
            unfold rowFor at stored ⊢
            rw [if_pos stored, Table.find_save]
            exact if_pos rfl
          · simp only [announced, if_neg same, Option.map_none, Option.none_or] at fits ⊢
            split
            · rw [Table.find_save, rowOf_poolId, if_neg fun named => same (idText_inj.mp named)]
              exact ih fits
            · exact ih fits

theorem Told.mirrored {oracle : CDROracle.State} (told : Told oracle)
    (inOrder : deliveries.map Prod.fst = oracle.events)
    (fits : ∀ shown, lastDelivered deliveries poolId = some shown →
      storable shown.2 (rowFor poolId shown)) :
    (∀ row, (deliverAll deliveries).poolMetrics.find (idText poolId) = some row →
      row.tvl = (oracle.poolMetrics poolId).tvl.toNat ∧
      row.volatility = (oracle.poolMetrics poolId).volatility.toNat ∧
      row.yieldRate = (oracle.poolMetrics poolId).yieldRate.toNat) ∧
    ((deliverAll deliveries).poolMetrics.find (idText poolId) = none →
      (oracle.poolMetrics poolId).tvl = 0 ∧ (oracle.poolMetrics poolId).volatility = 0 ∧
      (oracle.poolMetrics poolId).yieldRate = 0) := by
  have shows := told poolId
  rw [← inOrder, ← lastDelivered_fst] at shows
  rw [find_deliverAll fits]
  cases last : lastDelivered deliveries poolId with
  | none =>
      simp only [last, figures, Option.map_none, Option.getD_none, Prod.mk.injEq] at shows
      simpa using shows
  | some shown =>
      simp only [last, Option.map_some, Option.getD_some] at shows
      simp [rowFor, rowOf, ← shows, figures]

end Rows

/-- However the vault, the engine and the oracle are used, and whatever is around them: once the
oracle's events are handled, the row of a pool whose last event could be stored has the vault's
supply and the oracle's other figures of this moment, and a pool without a row has none of them. -/
theorem metrics_mirrored (d : Deployment)
    (strategyRegistry strategyRegistry' governance governance' : ContractAddress) (block : Block)
    {config : Config Liquidity.World Call Contracts.Reply}
    (reaches : (pooling d).Reaches
      (.initial ⟨VaultManager.constructor strategyRegistry d.engine,
        YieldEngine.constructor d.vault d.oracle strategyRegistry' governance,
        CDROracle.constructor d.engine governance', block⟩) config)
    (deliveries : List (CDROracle.Event × Moment))
    (inOrder : deliveries.map Prod.fst = config.now.state.oracle.events) (poolId : Felt252)
    (fits : ∀ shown, lastDelivered deliveries poolId = some shown →
      storable shown.2 (rowFor poolId shown)) :
    (∀ row, (deliverAll deliveries).poolMetrics.find (idText poolId) = some row →
      row.tvl = (config.now.state.vault.totalSupply poolId).toNat ∧
      row.volatility = (config.now.state.oracle.poolMetrics poolId).volatility.toNat ∧
      row.yieldRate = (config.now.state.oracle.poolMetrics poolId).yieldRate.toNat) ∧
    ((deliverAll deliveries).poolMetrics.find (idText poolId) = none →
      config.now.state.vault.totalSupply poolId = 0 ∧
      (config.now.state.oracle.poolMetrics poolId).volatility = 0 ∧
      (config.now.state.oracle.poolMetrics poolId).yieldRate = 0) := by
  have supplied := ((pooling_keepsAgreed d).invariant rfl
    (constructor_agreed d strategyRegistry strategyRegistry' governance governance' block)
    reaches).tvl poolId
  have told : ToldIn config.now.state :=
    (localised_pooling d).invariant (P := ToldIn) (fun _ => rfl) reaches
  have mirrored := told.mirrored inOrder fits
  rwa [supplied] at mirrored

theorem metrics_mirrored_deposited : ∃ config : Config Liquidity.World Call Contracts.Reply,
    config.now.state.vault.totalSupply 0 = 5 ∧
    ∀ row, (deliverAll [(.metricsUpdated 0 5 0 0, ⟨5000, [idText 0]⟩)]).poolMetrics.find
      (idText 0) = some row → row.tvl = (config.now.state.vault.totalSupply 0).toNat := by
  -- user 7 has deposited 5 of token 8
  let d : Deployment := ⟨1, 2, 3, by decide, by decide, by decide⟩
  obtain ⟨config, run, supply, events⟩ : ∃ config : Config Liquidity.World Call Contracts.Reply,
      (pooling d).Reaches (.initial ⟨VaultManager.constructor 9 2, YieldEngine.constructor 1 3 4 5,
        CDROracle.constructor 2 6, ⟨1⟩⟩) config ∧ config.now.state.vault.totalSupply 0 = 5 ∧
      config.now.state.oracle.events = [.metricsUpdated 0 5 0 0] := by
    have run := ((((pooling d).start ⟨VaultManager.constructor 9 2, YieldEngine.constructor 1 3 4 5,
      CDROracle.constructor 2 6, ⟨1⟩⟩).enter ⟨9, 1, .vaultManager (.addPool 0 8)⟩ (by decide) rfl
        1 rfl).enter ⟨7, 1, .vaultManager (.deposit 0 5)⟩ (by decide) rfl 1 rfl).reply .unit 3 rfl
    exact ⟨_, run, rfl, rfl⟩
  refine ⟨config, supply, fun row found => ?_⟩
  refine ((metrics_mirrored d 9 4 5 6 ⟨1⟩ run [(_, _)] events.symm 0 ?_).1 row found).1
  intro shown last
  cases last
  rfl

end Kanaka.Backend.CDROracleService
