import Kanaka.Contracts.Network
import Kanaka.Contracts.Views
import Kanaka.Machine.Part

/-!
# The protocol

All six contracts, wired as their constructors wire them, with the tokens, the strategies and the
users in the environment.
-/

namespace Kanaka.Proof.Protocol
open Machine Contracts

structure World where
  registry : StrategyRegistry.State
  vault : VaultManager.State
  engine : YieldEngine.State
  oracle : CDROracle.State
  governance : Governance.State
  distributor : RewardDistributor.State
  block : Block

instance : Has StrategyRegistry.State World where
  get := World.registry
  set registry w := { w with registry }
  get_set _ _ := rfl
  set_set _ _ _ := rfl

instance : Has VaultManager.State World where
  get := World.vault
  set vault w := { w with vault }
  get_set _ _ := rfl
  set_set _ _ _ := rfl

instance : Has YieldEngine.State World where
  get := World.engine
  set engine w := { w with engine }
  get_set _ _ := rfl
  set_set _ _ _ := rfl

instance : Has CDROracle.State World where
  get := World.oracle
  set oracle w := { w with oracle }
  get_set _ _ := rfl
  set_set _ _ _ := rfl

instance : Has Governance.State World where
  get := World.governance
  set governance w := { w with governance }
  get_set _ _ := rfl
  set_set _ _ _ := rfl

instance : Has RewardDistributor.State World where
  get := World.distributor
  set distributor w := { w with distributor }
  get_set _ _ := rfl
  set_set _ _ _ := rfl

instance : Has Block World where
  get := World.block
  set block w := { w with block }
  get_set _ _ := rfl
  set_set _ _ _ := rfl

structure Deployment where
  registry : ContractAddress
  vault : ContractAddress
  engine : ContractAddress
  oracle : ContractAddress
  governance : ContractAddress
  distributor : ContractAddress
  apart : [registry, vault, engine, oracle, governance, distributor].Nodup

namespace Deployment
variable (d : Deployment)

def addresses : List ContractAddress :=
  [d.registry, d.vault, d.engine, d.oracle, d.governance, d.distributor]

/-- The state after the constructors. `authority` governs the pools, the weights and the oracle. -/
def deploy (authority token rewardToken : ContractAddress) (quorum : U256) (votingPeriod : U64)
    (block : Block) : World where
  registry := StrategyRegistry.constructor d.vault d.engine authority
  vault := VaultManager.constructor d.registry d.engine
  engine := YieldEngine.constructor d.vault d.oracle d.registry authority
  oracle := CDROracle.constructor d.engine authority
  governance := Governance.constructor token d.distributor quorum votingPeriod
  distributor := RewardDistributor.constructor rewardToken d.governance
  block := block

end Deployment

section Servers
variable {σ : Type} [Has StrategyRegistry.State σ] [Has VaultManager.State σ]
  [Has YieldEngine.State σ] [Has CDROracle.State σ] [Has Governance.State σ]
  [Has RewardDistributor.State σ] [Has Block σ]

def servers (d : Deployment) : List (ContractAddress × Server σ) :=
  [(d.registry, StrategyRegistry.entry d.registry), (d.vault, VaultManager.entry d.vault),
    (d.engine, YieldEngine.entry d.engine), (d.oracle, CDROracle.entry),
    (d.governance, Governance.entry d.governance),
    (d.distributor, RewardDistributor.entry d.distributor)]

end Servers

abbrev protocol (d : Deployment) : System World Call Reply where
  code := deployed (servers d)
  enters _ request _ := request.sender ∉ d.addresses
  drift _ _ := False
  tick w w' := w'.registry = w.registry ∧ w'.vault = w.vault ∧ w'.engine = w.engine ∧
    w'.oracle = w.oracle ∧ w'.governance = w.governance ∧ w'.distributor = w.distributor ∧
    0 < w'.block.timestamp.toNat

/-! ## The contracts beside a part of the protocol -/

section Beside
variable {σ τ : Type} {view : σ → τ} {welcome : Call → Prop} {self : ContractAddress}
  (free : ∀ target message, welcome ⟨self, target, message⟩) (sender : ContractAddress)
  (message : Message)
include free

theorem registry_beside [Has StrategyRegistry.State σ]
    (aside : ∀ (s : StrategyRegistry.State) w, view (Has.set s w) = view w) :
    Code.Seen id (Aside view) welcome (StrategyRegistry.entry self sender message)
      (StrategyRegistry.entry self sender message) :=
  StrategyRegistry.seen_entry self sender ⟨⟨fun _ => rfl⟩, fun _ _ => rfl, aside⟩
    (fun _ _ _ => free _ _) (fun _ _ => free _ _) message

theorem vault_beside [Has VaultManager.State σ]
    (aside : ∀ (s : VaultManager.State) w, view (Has.set s w) = view w) :
    Code.Seen id (Aside view) welcome (VaultManager.entry self sender message)
      (VaultManager.entry self sender message) :=
  VaultManager.seen_entry self sender ⟨⟨fun _ => rfl⟩, fun _ _ => rfl, aside⟩
    (fun _ _ => free _ _) (fun _ _ _ => ⟨free _ _, free _ _⟩) message

theorem engine_beside [Has YieldEngine.State σ]
    (aside : ∀ (s : YieldEngine.State) w, view (Has.set s w) = view w) :
    Code.Seen id (Aside view) welcome (YieldEngine.entry self sender message)
      (YieldEngine.entry self sender message) :=
  YieldEngine.seen_entry self sender ⟨⟨fun _ => rfl⟩, fun _ _ => rfl, aside⟩
    (fun _ _ => free _ _) (fun _ _ _ => free _ _) (fun _ _ => free _ _) message

theorem governance_beside [Has Governance.State σ] [Has Block σ]
    (aside : ∀ (s : Governance.State) w, view (Has.set s w) = view w) :
    Code.Seen id (Aside view) welcome (Governance.entry self sender message)
      (Governance.entry self sender message) :=
  Governance.seen_entry self sender ⟨⟨fun _ => rfl⟩, fun _ _ => rfl, aside⟩ ⟨fun _ => rfl⟩
    (fun _ _ => free _ _) (fun _ _ _ => free _ _) message

theorem distributor_beside [Has RewardDistributor.State σ]
    (aside : ∀ (s : RewardDistributor.State) w, view (Has.set s w) = view w) :
    Code.Seen id (Aside view) welcome (RewardDistributor.entry self sender message)
      (RewardDistributor.entry self sender message) :=
  RewardDistributor.seen_entry self sender ⟨⟨fun _ => rfl⟩, fun _ _ => rfl, aside⟩
    (fun _ _ => free _ _) message

omit free in
theorem oracle_beside [Has CDROracle.State σ] [Has Block σ]
    (aside : ∀ (s : CDROracle.State) w, view (Has.set s w) = view w) :
    Code.Seen id (Aside view) welcome (CDROracle.entry sender message)
      (CDROracle.entry sender message) :=
  CDROracle.seen_entry sender ⟨⟨fun _ => rfl⟩, fun _ _ => rfl, aside⟩ ⟨fun _ => rfl⟩ message

end Beside

/-! ## The contracts of a part of the protocol -/

section Inside
variable {σ τ : Type} {view : σ → τ} (self sender : ContractAddress) (message : Message)

theorem registry_inside [Has StrategyRegistry.State σ] [Has StrategyRegistry.State τ]
    (writes : Writes view (fun _ _ => True) StrategyRegistry.State) :
    Code.Seen view (fun _ _ => True) (fun _ => True)
      (StrategyRegistry.entry self sender message) (StrategyRegistry.entry self sender message) :=
  StrategyRegistry.seen_entry self sender writes (fun _ _ _ => trivial) (fun _ _ => trivial) message

theorem vault_inside [Has VaultManager.State σ] [Has VaultManager.State τ]
    (writes : Writes view (fun _ _ => True) VaultManager.State) :
    Code.Seen view (fun _ _ => True) (fun _ => True)
      (VaultManager.entry self sender message) (VaultManager.entry self sender message) :=
  VaultManager.seen_entry self sender writes (fun _ _ => trivial)
    (fun _ _ _ => ⟨trivial, trivial⟩) message

theorem engine_inside [Has YieldEngine.State σ] [Has YieldEngine.State τ]
    (writes : Writes view (fun _ _ => True) YieldEngine.State) :
    Code.Seen view (fun _ _ => True) (fun _ => True)
      (YieldEngine.entry self sender message) (YieldEngine.entry self sender message) :=
  YieldEngine.seen_entry self sender writes (fun _ _ => trivial) (fun _ _ _ => trivial)
    (fun _ _ => trivial) message

theorem oracle_inside [Has CDROracle.State σ] [Has CDROracle.State τ] [Has Block σ]
    [Has Block τ] (writes : Writes view (fun _ _ => True) CDROracle.State)
    (clock : Reads view Block) :
    Code.Seen view (fun _ _ => True) (fun _ => True)
      (CDROracle.entry sender message) (CDROracle.entry sender message) :=
  CDROracle.seen_entry sender writes clock message

theorem governance_inside [Has Governance.State σ] [Has Governance.State τ] [Has Block σ]
    [Has Block τ] (writes : Writes view (fun _ _ => True) Governance.State)
    (clock : Reads view Block) :
    Code.Seen view (fun _ _ => True) (fun _ => True)
      (Governance.entry self sender message) (Governance.entry self sender message) :=
  Governance.seen_entry self sender writes clock (fun _ _ => trivial) (fun _ _ _ => trivial) message

theorem distributor_inside [Has RewardDistributor.State σ] [Has RewardDistributor.State τ]
    (writes : Writes view (fun _ _ => True) RewardDistributor.State) :
    Code.Seen view (fun _ _ => True) (fun _ => True)
      (RewardDistributor.entry self sender message) (RewardDistributor.entry self sender message) :=
  RewardDistributor.seen_entry self sender writes (fun _ _ => trivial) message

end Inside

end Kanaka.Proof.Protocol
