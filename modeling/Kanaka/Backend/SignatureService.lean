import Mathlib.Logic.Function.Basic

/-! # `signature.service.ts` -/

namespace Kanaka.Backend

/-- `verifyMessage` of `ethers` recovers the address that signed a message, or throws; addresses are
compared in lower case. -/
structure SignatureService where
  verifyMessage : String → String → Option String
  toLowerCase : String → String

namespace SignatureService
variable (service : SignatureService)

def verifyEthereumSignature (message signature address : String) : Bool :=
  match service.verifyMessage message signature with
  | some recoveredAddress => service.toLowerCase recoveredAddress = service.toLowerCase address
  | none => false

def verifySignature (message signature address : String) : Bool :=
  service.verifyEthereumSignature message signature address

def generateAuthMessage (nonce : String) : String :=
  "Sign this message to authenticate with Kanaka Protocol: nonce=" ++ nonce

end SignatureService

end Kanaka.Backend
