import Kanaka.Backend.JsValue

/-! # `user.entity.ts` -/

namespace Kanaka.Backend

inductive WalletType where
  | ethereum
  | starknet
deriving DecidableEq

def WalletType.text : WalletType → String
  | .ethereum => "ethereum"
  | .starknet => "starknet"

def WalletType.ofText (text : String) : Option WalletType :=
  if text = "ethereum" then some .ethereum
  else if text = "starknet" then some .starknet
  else none

structure User where
  id : Nat
  walletAddress : String
  walletType : WalletType
  nonce : String
  roles : List String
deriving DecidableEq

/-- The entity as code with other fields in mind sees it. -/
def User.object (user : User) : JsValue :=
  .object [("id", .number user.id), ("walletAddress", .string user.walletAddress),
    ("walletType", .string user.walletType.text), ("nonce", .string user.nonce),
    ("roles", .strings user.roles)]

end Kanaka.Backend
