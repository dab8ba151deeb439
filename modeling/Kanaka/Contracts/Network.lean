import Kanaka.Contracts.Interface

/-! # Contracts at their addresses -/

namespace Kanaka.Contracts
open Machine

variable {σ : Type}

abbrev Server (σ : Type) := ContractAddress → Message → Entry σ Reply

def deployed : List (ContractAddress × Server σ) → Call → Option (Entry σ Reply)
  | [], _ => none
  | (address, server) :: rest, call =>
      if call.target = address then some (server call.sender call.message)
      else deployed rest call

@[simp] theorem deployed_nil (call : Call) : deployed ([] : List (ContractAddress × Server σ)) call =
    none := rfl

@[simp] theorem deployed_cons (address : ContractAddress) (server : Server σ)
    (rest : List (ContractAddress × Server σ)) (call : Call) :
    deployed ((address, server) :: rest) call =
      if call.target = address then some (server call.sender call.message)
      else deployed rest call := rfl

/-- One contract in an arbitrary environment, called by anyone at any depth. -/
def alone (self : ContractAddress) (server : Server σ) (blocks : σ → σ → Prop) :
    System σ Call Reply where
  code := deployed [(self, server)]
  enters _ _ _ := True
  drift _ _ := False
  tick := blocks

theorem deployed_unserved {servers : List (ContractAddress × Server σ)} {call : Call} {state : σ}
    (foreign : ∀ server ∈ servers,
      ∃ reason, (server.2 call.sender call.message).run state = .panic reason)
    (body : Entry σ Reply) (found : deployed servers call = some body) :
    ∃ reason, body.run state = .panic reason := by
  induction servers with
  | nil => contradiction
  | cons server rest ih =>
      obtain ⟨address, serve⟩ := server
      rw [deployed_cons] at found
      split at found
      · cases found
        exact foreign _ List.mem_cons_self
      · exact ih (fun other member => foreign other (List.mem_cons_of_mem _ member)) found

theorem deployed_foreign {self : ContractAddress} {server : Server σ} {call : Call} {state : σ}
    {reason : String} (foreign : (server call.sender call.message).run state = .panic reason)
    (body : Entry σ Reply) (found : deployed [(self, server)] call = some body) :
    ∃ reason, body.run state = .panic reason := by
  apply deployed_unserved _ body found
  intro other member
  rw [List.mem_singleton.mp member]
  exact ⟨reason, foreign⟩

end Kanaka.Contracts
