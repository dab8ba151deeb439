import Kanaka.Backend.ErrorHandler
import Kanaka.Backend.JsText
import Kanaka.Store.Table

/-! # The configured keys of `api-key.strategy.ts` -/

namespace Kanaka.Backend.ApiKeyStrategy

structure ApiKeyEntry where
  key : String
  name : String
  roles : List String
deriving DecidableEq

abbrev ApiKeys := Table ApiKeyEntry.key

/-- `none` where the loop goes on with the next entry. -/
def parseEntry (entry : String) : Option ApiKeyEntry :=
  let parts := split ':' entry
  let (key, name, rolesStr) := (parts[0]?, parts[1]?, parts[2]?)
  if ¬ truthy key ∨ ¬ truthy name then none
  else
    let roles := if truthy rolesStr then (split ',' (rolesStr.getD "")).map trim else []
    some ⟨key.getD "", name.getD "", roles⟩

def loadEntry (apiKeys : ApiKeys) (entry : String) : ApiKeys :=
  match parseEntry entry with
  | none => apiKeys
  | some entry => apiKeys.save entry

def loadApiKeys (apiKeysStr : String) : ApiKeys :=
  if apiKeysStr = "" then .empty
  else
    -- Format: key1:name1:role1,role2;key2:name2:role1,role3
    (split ';' apiKeysStr).foldl loadEntry .empty

def static (apiKeys : ApiKeys) : List (String × String × List String) :=
  apiKeys.rows.map fun entry => (entry.key, entry.name, entry.roles)

example : (loadApiKeys "k1:Bot:admin, user;:x:y;k2:Reader;k1:Late:").rows =
    [⟨"k1", "Late", []⟩, ⟨"k2", "Reader", []⟩] := by decide +kernel

end Kanaka.Backend.ApiKeyStrategy
