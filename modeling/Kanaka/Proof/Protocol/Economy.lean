import Kanaka.Proof.Pools.Custody
import Kanaka.Proof.Protocol.Ownership

/-!
# The protocol and its tokens

The six contracts with tokens that move exactly what they are asked to, or nothing, and that may
call anyone while they do.
-/

namespace Kanaka.Proof.Protocol
open Machine Contracts
open Pools.Custody (Ledgers)

namespace Economy

structure World where
  protocol : Protocol.World
  tokens : Ledgers

instance {κ : Type} [Has κ Protocol.World] : Has κ World where
  get w := Has.get w.protocol
  set value w := { w with protocol := Has.set value w.protocol }
  get_set value w := Has.get_set value w.protocol
  set_set value value' w := by simp

instance : Has Ledgers World where
  get := World.tokens
  set tokens w := { w with tokens }
  get_set _ _ := rfl
  set_set _ _ _ := rfl

section Tokens
variable {σ : Type} [Has Ledgers σ]

/-- A transfer of `token`, which may call anyone before and after it moves the amount. -/
def transfer (token source target : ContractAddress) (amount : U256) : Entry σ Reply := do
  let _ ← Code.send ⟨token, token, .other 0 []⟩
  let ledger := (← Code.load Ledgers) token
  let moved ← Code.orPanic "INSUFFICIENT_BALANCE" (ledger.move source target amount)
  Code.update fun ledgers : Ledgers => Function.update ledgers token moved
  let _ ← Code.send ⟨token, token, .other 0 []⟩
  return .bool true

/-- A token at every address that is not the protocol's. Nobody has an allowance from the vault. -/
def token (d : Deployment) (call : Call) : Option (Entry σ Reply) :=
  match call.message with
  | .erc20 (.transfer recipient amount) =>
      some (if call.target ∈ d.addresses then Code.revert "ENTRYPOINT_NOT_FOUND"
        else transfer call.target call.sender recipient amount)
  | .erc20 (.transferFrom owner recipient amount) =>
      some (if call.target ∈ d.addresses then Code.revert "ENTRYPOINT_NOT_FOUND"
        else if owner = d.vault then Code.revert "INSUFFICIENT_ALLOWANCE"
        else transfer call.target owner recipient amount)
  | _ => none

end Tokens

structure Sound (d : Deployment) (tokens : Ledgers) : Prop where
  fits : ∀ token, (tokens token).supply < 2 ^ 256
  absent : ∀ token ∈ d.addresses, (tokens token).supply = 0

end Economy

open Economy in
/-- Tokens are also minted, burned and spent by others, without taking from the vault. -/
abbrev economy (d : Deployment) : System Economy.World Call Reply where
  code call := deployed (servers d) call <|> token d call
  enters _ request _ := request.sender ∉ d.addresses
  drift w w' := w'.protocol = w.protocol ∧ Sound d w'.tokens ∧
    ∀ token, (w.tokens token d.vault).toNat ≤ (w'.tokens token d.vault).toNat
  tick w w' := w'.tokens = w.tokens ∧ (protocol d).tick w.protocol w'.protocol

namespace Economy

/-! ## What a token does over parts of the storage -/

section Seen
variable {σ τ : Type} [Has Ledgers σ] [Has Ledgers τ] {view : σ → τ} {frame : σ → σ → Prop}
  {sends : Call → Prop} [IsPreorder σ frame] {d : Deployment} {call : Call}

theorem seen_transfer (writes : Writes view frame Ledgers) {token : ContractAddress}
    (sent : sends ⟨token, token, .other 0 []⟩) (source target : ContractAddress) (amount : U256) :
    Code.Seen view frame sends (transfer token source target amount : Entry σ Reply)
      (transfer token source target amount) := by
  refine .bind (.send sent) fun _ => .bind (.load writes.toReads) fun _ => ?_
  refine .bind (.orPanic _) fun _ => .bind (.update writes _) fun _ => ?_
  exact .bind (.send sent) fun _ => .pure _

theorem seen_token (writes : Writes view frame Ledgers)
    (sent : call.target ∉ d.addresses → sends ⟨call.target, call.target, .other 0 []⟩)
    {body' : Entry τ Reply} (found : token d call = some body') :
    ∃ body : Entry σ Reply, token d call = some body ∧ body.Seen view frame sends body' := by
  unfold token at found ⊢
  split at found
  · cases found
    refine ⟨_, rfl, ?_⟩
    split
    · exact .revert _
    · exact seen_transfer writes (sent ‹_›) _ _ _
  · cases found
    refine ⟨_, rfl, ?_⟩
    split
    · exact .revert _
    · split
      · exact .revert _
      · exact seen_transfer writes (sent ‹_›) _ _ _
  · contradiction

omit [Has Ledgers τ] in
theorem token_at {body : Entry σ Reply} (found : token d call = some body)
    (here : call.target ∈ d.addresses) :
    (∃ m, call.message = .erc20 m) ∧ body = Code.revert "ENTRYPOINT_NOT_FOUND" := by
  unfold token at found
  split at found
  · rw [if_pos here] at found
    exact ⟨⟨_, ‹_›⟩, (Option.some.inj found).symm⟩
  · rw [if_pos here] at found
    exact ⟨⟨_, ‹_›⟩, (Option.some.inj found).symm⟩
  · contradiction

theorem token_none (missing : (token d call : Option (Entry τ Reply)) = none) :
    (token d call : Option (Entry σ Reply)) = none := by
  unfold token at missing ⊢
  split at missing
  · contradiction
  · contradiction
  · rfl

end Seen

section Cases
variable {σ : Type} [Has Ledgers σ] {d : Deployment} {call : Call} {body : Entry σ Reply}

/-- The tokens revert, or transfer from somebody who is not the vault or has called them. -/
theorem token_cases (found : token d call = some body) :
    (∃ reason, body = Code.revert reason) ∨
    (call.target ∉ d.addresses ∧ ∃ source target amount,
      body = transfer call.target source target amount ∧ (d.vault = source → call.sender = d.vault)) := by
  unfold token at found
  split at found
  · rename_i recipient amount _
    cases found
    split
    · exact .inl ⟨_, rfl⟩
    · exact .inr ⟨‹_›, _, recipient, amount, rfl, fun same => same.symm⟩
  · rename_i owner recipient amount _
    cases found
    split
    · exact .inl ⟨_, rfl⟩
    split
    · exact .inl ⟨_, rfl⟩
    · rename_i outside other
      exact .inr ⟨outside, owner, recipient, amount, rfl, fun same => absurd same.symm other⟩
  · contradiction

end Cases

section Code
variable {σ : Type} [Has StrategyRegistry.State σ] [Has VaultManager.State σ]
  [Has YieldEngine.State σ] [Has CDROracle.State σ] [Has Governance.State σ]
  [Has RewardDistributor.State σ] [Has Block σ] {d : Deployment} {call : Call}

theorem servers_missing (outside : call.target ∉ d.addresses) :
    deployed (servers d : List (ContractAddress × Server σ)) call = none := by
  simp only [Deployment.addresses, List.mem_cons, List.not_mem_nil, or_false, not_or] at outside
  simp [servers, outside]

theorem servers_erc20 (here : call.target ∈ d.addresses) {m : IERC20}
    (message : call.message = .erc20 m) :
    ∃ body : Entry σ Reply, deployed (servers d) call = some body ∧
      ∀ state, body.run state = .panic "ENTRYPOINT_NOT_FOUND" := by
  simp only [servers, deployed_cons, deployed_nil]
  split
  · exact ⟨_, rfl, fun _ => StrategyRegistry.entry_foreign _ _ (by simp [message])⟩
  split
  · exact ⟨_, rfl, fun _ => VaultManager.entry_foreign _ _ (by simp [message])⟩
  split
  · exact ⟨_, rfl, fun _ => YieldEngine.entry_foreign _ _ (by simp [message])⟩
  split
  · exact ⟨_, rfl, fun _ => CDROracle.entry_foreign _ (by simp [message])⟩
  split
  · exact ⟨_, rfl, fun _ => Contracts.Governance.entry_foreign _ _ (by simp [message])⟩
  split
  · exact ⟨_, rfl, fun _ => RewardDistributor.entry_foreign _ _ (by simp [message])⟩
  simp only [Deployment.addresses, List.mem_cons, List.not_mem_nil, or_false] at here
  tauto

end Code

theorem token_outside {σ : Type} [Has Ledgers σ] {d : Deployment} {call : Call} {body : Entry σ Reply}
    (found : token d call = some body)
    (missing : deployed (servers d : List (ContractAddress × Server World)) call = none) :
    call.target ∉ d.addresses := by
  intro here
  obtain ⟨⟨m, message⟩, -⟩ := token_at found here
  obtain ⟨body, served, -⟩ := servers_erc20 (σ := World) here message
  rw [missing] at served
  contradiction

theorem token_served {τ : Type} [Has Ledgers τ] {view : World → τ} {d : Deployment} {call : Call}
    (writes : Writes view (fun _ _ => True) Ledgers) {body' : Entry τ Reply}
    (found : token d call = some body') :
    ∃ body, (economy d).code call = some body ∧
      body.Seen view (fun _ _ => True) (fun _ => True) body' := by
  by_cases here : call.target ∈ d.addresses
  · obtain ⟨⟨m, message⟩, rfl⟩ := token_at found here
    obtain ⟨body, served, panics⟩ := servers_erc20 (σ := World) here message
    refine ⟨body, by simp [served], fun state => ?_⟩
    rw [panics]
    exact .panic
  · obtain ⟨body, served, seen⟩ : ∃ body : Entry World Reply, token d call = some body ∧
        body.Seen view (fun _ _ => True) (fun _ => True) body' :=
      seen_token writes (fun _ => trivial) found
    exact ⟨body, by simp [servers_missing here, served], seen⟩

/-! ## Parts of the economy -/

def custodyOf (w : World) : Pools.Custody.World :=
  ⟨w.protocol.registry, w.protocol.vault, w.tokens⟩

/-- The registry, the vault and the tokens, called by the other contracts as well. -/
abbrev holding (d : Deployment) : System Pools.Custody.World Call Reply where
  code call := deployed [(d.registry, StrategyRegistry.entry d.registry),
    (d.vault, VaultManager.entry d.vault)] call <|> token d call
  enters _ request _ := request.sender ≠ d.registry ∧ request.sender ≠ d.vault
  drift := (Pools.Custody.custody d.registration).drift
  tick _ _ := False

abbrev ledgers (d : Deployment) : System Ledgers Call Reply where
  code := token d
  enters _ _ _ := True
  drift _ after := Sound d after
  tick _ _ := False

section Parts
variable (d : Deployment)

theorem protocol_isPart : Part (economy d) (protocol d) World.protocol := by
  have among : Among World.protocol (Welcome (protocol d)) (servers d) (servers d) := by
    refine .part (fun sender message => registry_inside d.registry sender message
      ⟨⟨fun _ => rfl⟩, fun _ _ => rfl, fun _ _ => trivial⟩) ?_
    refine .part (fun sender message => vault_inside d.vault sender message
      ⟨⟨fun _ => rfl⟩, fun _ _ => rfl, fun _ _ => trivial⟩) ?_
    refine .part (fun sender message => engine_inside d.engine sender message
      ⟨⟨fun _ => rfl⟩, fun _ _ => rfl, fun _ _ => trivial⟩) ?_
    refine .part (fun sender message => oracle_inside sender message
      ⟨⟨fun _ => rfl⟩, fun _ _ => rfl, fun _ _ => trivial⟩ ⟨fun _ => rfl⟩) ?_
    refine .part (fun sender message => governance_inside d.governance sender message
      ⟨⟨fun _ => rfl⟩, fun _ _ => rfl, fun _ _ => trivial⟩ ⟨fun _ => rfl⟩) ?_
    refine .part (fun sender message => distributor_inside d.distributor sender message
      ⟨⟨fun _ => rfl⟩, fun _ _ => rfl, fun _ _ => trivial⟩) ?_
    exact .nil
  refine among.isPartBeyond (token d) (fun _ => none) d.apart (fun _ => rfl) ?_ ?_ ?_ ?_ ?_ ?_
  · simp
  · exact fun impossible => absurd impossible (by simp)
  · intro call body _ found missing
    have outside := token_outside found missing
    obtain ⟨body', found', seen⟩ : ∃ body' : Entry World Reply, token d call = some body' ∧
        body'.Seen id (Aside World.protocol) (Welcome (protocol d)) body :=
      seen_token ⟨⟨fun _ => rfl⟩, fun _ _ => rfl, fun _ _ => rfl⟩ (fun _ _ _ _ => outside) found
    cases found.symm.trans found'
    exact seen
  · exact fun outside _ _ => outside
  · exact fun moves => .inl moves.1
  · exact fun ticks => .inr ticks.2

theorem holding_isPart : Part (economy d) (holding d) custodyOf := by
  have apart := d.apart
  simp only [List.nodup_cons, List.mem_cons, List.not_mem_nil, not_or, or_false] at apart
  have free : ∀ self, self ≠ d.registry → self ≠ d.vault → ∀ target message,
      Welcome (holding d) ⟨self, target, message⟩ :=
    fun _ registry vault _ _ _ _ _ => ⟨registry, vault⟩
  have among : Among custodyOf (Welcome (holding d)) (servers d)
      [(d.registry, StrategyRegistry.entry d.registry),
        (d.vault, VaultManager.entry d.vault)] := by
    refine .part (fun sender message => registry_inside d.registry sender message
      ⟨⟨fun _ => rfl⟩, fun _ _ => rfl, fun _ _ => trivial⟩) ?_
    refine .part (fun sender message => vault_inside d.vault sender message
      ⟨⟨fun _ => rfl⟩, fun _ _ => rfl, fun _ _ => trivial⟩) ?_
    refine .beside (fun sender message =>
      engine_beside (free _ (by tauto) (by tauto)) sender message fun _ _ => rfl) ?_
    refine .beside (fun sender message => oracle_beside sender message fun _ _ => rfl) ?_
    refine .beside (fun sender message =>
      governance_beside (free _ (by tauto) (by tauto)) sender message fun _ _ => rfl) ?_
    refine .beside (fun sender message =>
      distributor_beside (free _ (by tauto) (by tauto)) sender message fun _ _ => rfl) ?_
    exact .nil
  have writes : Writes custodyOf (fun _ _ => True) Ledgers :=
    ⟨⟨fun _ => rfl⟩, fun _ _ => rfl, fun _ _ => trivial⟩
  refine among.isPartBeyond (token d) (token d) d.apart (fun _ => rfl) (fun _ => rfl) ?_ ?_ ?_ ?_ ?_
  · exact token_served writes
  · intro call body unserved found _
    rw [token_none unserved] at found
    contradiction
  · intro depth request state outside _ _
    simp only [Deployment.addresses, List.mem_cons, not_or] at outside
    exact ⟨outside.1, outside.2.1⟩
  · intro before after moves
    obtain ⟨same, -, tokens⟩ := moves
    exact .inr ⟨congrArg Protocol.World.registry same, congrArg Protocol.World.vault same, tokens⟩
  · intro before after ticks
    left
    rw [Aside, custodyOf, custodyOf, ticks.1, ticks.2.1, ticks.2.2.1]

theorem ledgers_isPart : Part (economy d) (ledgers d) World.tokens := by
  have free : ∀ self target message, Welcome (ledgers d) ⟨self, target, message⟩ :=
    fun _ _ _ _ _ _ => trivial
  have among : Among World.tokens (Welcome (ledgers d)) (servers d) [] := by
    refine .beside (fun sender message => registry_beside (free _) sender message fun _ _ => rfl) ?_
    refine .beside (fun sender message => vault_beside (free _) sender message fun _ _ => rfl) ?_
    refine .beside (fun sender message => engine_beside (free _) sender message fun _ _ => rfl) ?_
    refine .beside (fun sender message => oracle_beside sender message fun _ _ => rfl) ?_
    refine .beside (fun sender message => governance_beside (free _) sender message fun _ _ => rfl) ?_
    refine .beside (fun sender message =>
      distributor_beside (free _) sender message fun _ _ => rfl) ?_
    exact .nil
  have writes : Writes World.tokens (fun _ _ => True) Ledgers :=
    ⟨⟨fun _ => rfl⟩, fun _ _ => rfl, fun _ _ => trivial⟩
  refine among.isPartBeyond (token d) (token d) d.apart (fun _ => rfl) (fun _ => rfl) ?_ ?_ ?_ ?_ ?_
  · exact token_served writes
  · intro call body unserved found _
    rw [token_none unserved] at found
    contradiction
  · exact fun _ _ _ => trivial
  · exact fun moves => .inr moves.2.1
  · exact fun ticks => .inl ticks.1

end Parts

/-! ## What the parts keep -/

open Pools.Custody (Solvent Keeps custody)

section Invariants
variable (d : Deployment)

theorem holding_restricts (request : Call) :
    (holding d).code request = (custody d.registration).code request ∨
      ∃ body, (holding d).code request = some body ∧ ∀ w, ∃ reason, body.run w = .panic reason := by
  obtain ⟨sender, target, message⟩ := request
  by_cases registry : target = d.registry
  · left
    simp [registry, Deployment.registration]
  by_cases vault : target = d.vault
  · left
    simp [vault, d.distinct.1, Deployment.registration]
  cases message with
  | erc20 m =>
      cases m with
      | balanceOf account =>
          left
          simp [registry, vault, Deployment.registration, token, Pools.Custody.erc20]
      | transfer recipient amount =>
          by_cases here : target ∈ d.addresses
          · right
            exact ⟨Code.revert "ENTRYPOINT_NOT_FOUND", by simp [registry, vault, token, here],
              fun _ => ⟨_, rfl⟩⟩
          · left
            simp [registry, vault, Deployment.registration, token, Pools.Custody.erc20, here]
            rfl
      | transferFrom owner recipient amount =>
          by_cases here : target ∈ d.addresses
          · right
            exact ⟨Code.revert "ENTRYPOINT_NOT_FOUND", by simp [registry, vault, token, here],
              fun _ => ⟨_, rfl⟩⟩
          by_cases own : owner = d.vault
          · right
            exact ⟨Code.revert "INSUFFICIENT_ALLOWANCE", by simp [registry, vault, token, here, own],
              fun _ => ⟨_, rfl⟩⟩
          · left
            simp [registry, vault, Deployment.registration, token, Pools.Custody.erc20, here, own]
            rfl
  | _ =>
      left
      simp [registry, vault, Deployment.registration, token, Pools.Custody.erc20]

/-- What a token does for others, it also does when the vault asks for it. -/
theorem transfer_keepsSolvent {w : Pools.Custody.World} {token source target : ContractAddress}
    {amount : U256} {history : List (Crossing Pools.Custody.World Call Reply)}
    (outside : token ∉ d.addresses) (other : d.vault ≠ source) (solvent : Solvent d.registration w) :
    Safe (custody d.registration) (fun now => Solvent d.registration now.state)
      (Keeps d.registration)
      (fun _ next => Solvent d.registration next.state ∧ Keeps d.registration w next.state)
      ((transfer token source target amount : Entry Pools.Custody.World Reply).run w) history := by
  simp only [Deployment.addresses, List.mem_cons, not_or] at outside
  have received : ∀ token', 0 ≤ Pools.Custody.received d.registration token source target amount
      token' := by
    intro token'
    have apart : d.registration.vault ≠ source := other
    rw [Pools.Custody.received, if_neg apart]
    split
    · split <;> omega
    · exact le_rfl
  have found : (custody d.registration).code
      ⟨d.vault, token, .erc20 (.transferFrom source target amount)⟩ =
        some (transfer token source target amount) :=
    Pools.Custody.code_token d.registration outside.1 outside.2.1 d.vault _
  have asked : Safe (custody d.registration) (fun now => Solvent d.registration now.state)
      (Keeps d.registration)
      (fun _ next => Solvent d.registration next.state ∧ Keeps d.registration w next.state)
      ((Code.send ⟨d.vault, token, .erc20 (.transferFrom source target amount)⟩ :
        Entry Pools.Custody.World Reply).run w) history := by
    apply Pools.Custody.keepsSolvent_transfer d.registration rfl solvent
    · intro few other
      exact add_nonneg (solvent.covered few other) (received other)
    · intro _ now kept gains
      exact ⟨kept, gains.weaken fun _ token' => received token'⟩
  cases asked with
  | outside missing =>
      rw [found] at missing
      contradiction
  | inside found' safe =>
      cases found.symm.trans found'
      rwa [Program.bind_done] at safe

theorem holding_keepsSolvent :
    Certified (holding d) (fun now => Solvent d.registration now.state) (Keeps d.registration)
      (Keeps d.registration) where
  rely_refl := (Pools.Custody.custody_keepsSolvent d.registration).rely_refl
  rely_trans := (Pools.Custody.custody_keepsSolvent d.registration).rely_trans
  guarantee_trans := (Pools.Custody.custody_keepsSolvent d.registration).guarantee_trans
  resumed := (Pools.Custody.custody_keepsSolvent d.registration).resumed
  nested _ keeps := keeps
  drift := (Pools.Custody.custody_keepsSolvent d.registration).drift
  tick _ impossible := impossible.elim
  enter {depth request body now} enters found solvent := by
    obtain ⟨registry, vault⟩ := enters
    refine Safe.restrict ?_ (holding_restricts d)
    by_cases here : request.target = d.registry ∨ request.target = d.vault
    · have entered : (custody d.registration).enters depth request now.state :=
        ⟨registry, vault, here⟩
      refine (Pools.Custody.custody_keepsSolvent d.registration).enter entered ?_ solvent
      rw [← found]
      obtain here | here := here <;> simp [here, d.distinct.1, Deployment.registration]
    · rw [not_or] at here
      simp only [deployed_cons, deployed_nil, if_neg here.1, if_neg here.2, Option.orElse_eq_orElse,
        Option.orElse_none] at found
      obtain ⟨reason, rfl⟩ | ⟨outside, source, target, amount, rfl, mine⟩ := token_cases found
      · exact .panic
      · exact transfer_keepsSolvent d outside (fun same => vault (mine same)) solvent

theorem Sound.move {d : Deployment} {tokens : Ledgers} (sound : Sound d tokens)
    {token source target : ContractAddress} {amount : U256} {moved : Ledger}
    (move : (tokens token).move source target amount = some moved) :
    Sound d (Function.update tokens token moved) := by
  have same : ∀ other, (Function.update tokens token moved other).supply = (tokens other).supply := by
    intro other
    by_cases here : other = token
    · rw [here, Function.update_self, Ledger.supply_move move]
    · rw [Function.update_of_ne here]
  constructor
  · intro other
    rw [same]
    exact sound.fits other
  · intro other here
    rw [same]
    exact sound.absent other here

theorem ledgers_sound : Certified (ledgers d) (fun now => Sound d now.state) (fun _ _ => True)
    (fun _ _ => True) where
  rely_refl _ := trivial
  rely_trans _ _ := trivial
  guarantee_trans _ _ := trivial
  resumed _ sound := sound
  nested _ _ := trivial
  drift _ sound := ⟨sound, trivial, trivial⟩
  tick _ impossible := impossible.elim
  enter {depth request body now} _ found sound := by
    obtain ⟨reason, rfl⟩ | ⟨-, source, target, amount, rfl, -⟩ := token_cases found
    · exact .panic
    have unserved : ∀ (w : Ledgers) (body : Entry Ledgers Reply), (ledgers d).code
        ⟨request.target, request.target, .other 0 []⟩ = some body →
          ∃ reason, body.run w = .panic reason :=
      fun _ _ impossible => absurd impossible (by simp [token])
    apply Safe.bind
    apply Safe.send (unserved _) sound
    intro _ called calledSound _
    apply Safe.load
    apply Safe.orPanic
    intro ledger moved
    apply Safe.update
    have movedSound := calledSound.move moved
    apply Safe.bind
    apply Safe.send (unserved _) movedSound
    exact fun _ done doneSound _ => .done ⟨doneSound, trivial⟩

end Invariants
section Reached
variable {d : Deployment} {authority governanceToken rewardToken : ContractAddress} {quorum : U256}
  {votingPeriod : U64} {block : Block} {tokens : Ledgers} {config : Config World Call Reply}
  (reaches : (economy d).Reaches (.initial
    ⟨d.deploy authority governanceToken rewardToken quorum votingPeriod block, tokens⟩) config)
include reaches

theorem solvent : Solvent d.registration (custodyOf config.now.state) := by
  obtain ⟨seen, run, same, -⟩ := (holding_isPart d).follows reaches
  rw [← same]
  exact (holding_keepsSolvent d).invariant rfl
    (Pools.Custody.constructor_solvent d.registration _ _ _ _) run

theorem sound (start : Sound d tokens) : Sound d config.now.state.tokens := by
  obtain ⟨seen, run, same, -⟩ := (ledgers_isPart d).follows reaches
  rw [← same]
  exact (ledgers_sound d).invariant rfl start run

theorem pooled : Pools.Liquidity.Agreed d.pools (poolsOf config.now.state.protocol) := by
  obtain ⟨seen, run, same, -⟩ := (protocol_isPart d).follows reaches
  rw [← same]
  exact agreed run

theorem unowned {user : ContractAddress} (contract : user ≠ 0 → user ∈ d.addresses)
    (poolId : Felt252) : config.now.state.protocol.vault.balances (user, poolId) = 0 := by
  obtain ⟨seen, run, same, -⟩ := (protocol_isPart d).follows reaches
  obtain ⟨last, lastRun, lastSame, -⟩ := (contracts_isPart d contract).follows run
  rw [← same, ← lastSame]
  exact (vault_holds d.vault user fun _ => 0).invariant rfl (fun _ => rfl) lastRun poolId

end Reached

end Economy

end Kanaka.Proof.Protocol
