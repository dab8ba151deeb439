import Kanaka.Proof.Backend.Oracle.Metrics
import Kanaka.Proof.Backend.Vault.Mirror
import Kanaka.Proof.Protocol.Agreement

/-! # Two services that follow two contracts -/

namespace Kanaka.Proof.Protocol
open Machine Contracts Backend
open Backend.VaultManagerService (Accepted)
open Backend.CDROracleService (Moment deliverAll lastDelivered rowFor storable)

theorem vaultAlone_isPart (d : Deployment) :
    Part (protocol d) (VaultManager.vaultManagerAlone d.vault) World.vault := by
  have among : Among World.vault (Welcome (VaultManager.vaultManagerAlone d.vault)) (servers d)
      [(d.vault, Contracts.VaultManager.entry d.vault)] :=
    vault_among d fun _ _ _ _ _ _ _ _ _ => trivial
  refine among.isPart d.apart rfl rfl ?_ ?_ ?_
  · exact fun _ _ _ => trivial
  · exact fun impossible => impossible.elim
  · exact fun ticks => .inl ticks.2.1

section Reached
variable {d : Deployment} {authority token rewardToken : ContractAddress} {quorum : U256}
  {votingPeriod : U64} {block : Block} {config : Config World Call Reply}
  (reaches : (protocol d).Reaches
    (.initial (d.deploy authority token rewardToken quorum votingPeriod block)) config)
include reaches

theorem told : Backend.CDROracleService.Told config.now.state.oracle := by
  obtain ⟨seen, run, same, -⟩ := (pools_isPart d).follows reaches
  have told := (Backend.CDROracleService.localised_pooling d.pools).invariant
    (P := Backend.CDROracleService.ToldIn) (fun _ => rfl) run
  rw [same] at told
  exact told

theorem supplied_announced (idle : config.stack = []) (poolId : Felt252) :
    ((config.now.state.vault.totalSupply poolId).toNat : Int) = (config.now.state.vault.events.map
      (Backend.VaultManagerService.poolMovement (idText poolId))).sum := by
  obtain ⟨seen, run, same, settled⟩ := (vaultAlone_isPart d).follows reaches
  rw [← same]
  exact Backend.VaultManagerService.totalSupply_announced run (settled idle) poolId

end Reached

end Kanaka.Proof.Protocol
