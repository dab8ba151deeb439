import Kanaka.Backend.ApiKeyStrategy
import Kanaka.Backend.AuthService

/-! # Printing and loading the configured API keys -/

namespace Kanaka.Backend.ApiKeyStrategy

/-- `key:name:role1,role2` -/
def ApiKeyEntry.print (entry : ApiKeyEntry) : String :=
  join ':' [entry.key, entry.name, join ',' entry.roles]

def print (entries : List ApiKeyEntry) : String := join ';' (entries.map ApiKeyEntry.print)

structure ApiKeyEntry.WellFormed (entry : ApiKeyEntry) : Prop where
  key : entry.key ≠ "" ∧ ':' ∉ entry.key.toList ∧ ';' ∉ entry.key.toList
  name : entry.name ≠ "" ∧ ':' ∉ entry.name.toList ∧ ';' ∉ entry.name.toList
  separated : ∀ role ∈ entry.roles, ':' ∉ role.toList ∧ ';' ∉ role.toList ∧ ',' ∉ role.toList
  trimmed : ∀ role ∈ entry.roles, Trimmed role

/-- A single empty role looks like no roles at all. -/
def ApiKeyEntry.reloaded (entry : ApiKeyEntry) : ApiKeyEntry :=
  if entry.roles = [""] then { entry with roles := [] } else entry

theorem ApiKeyEntry.key_reloaded (entry : ApiKeyEntry) : entry.reloaded.key = entry.key := by
  unfold reloaded
  split <;> rfl

theorem ApiKeyEntry.name_reloaded (entry : ApiKeyEntry) : entry.reloaded.name = entry.name := by
  unfold reloaded
  split <;> rfl

theorem ApiKeyEntry.reloaded_eq_iff {entry : ApiKeyEntry} :
    entry.reloaded = entry ↔ entry.roles ≠ [""] := by
  unfold reloaded
  split
  · rename_i single
    rw [← single]
    constructor
    · intro same
      have none : [] = entry.roles := congrArg ApiKeyEntry.roles same
      rw [single] at none
      cases none
    · intro other
      exact absurd rfl other
  · rename_i other
    exact iff_of_true rfl other

/-! ## One entry -/

section Entry
variable {text : String} {entry : ApiKeyEntry} {roles : List String}

theorem parseEntry_of_parts {key name rolesStr : String} (parts : split ':' text = [key, name, rolesStr])
    (named : key ≠ "" ∧ name ≠ "") : parseEntry text =
      some ⟨key, name, if rolesStr = "" then [] else (split ',' rolesStr).map trim⟩ := by
  have key_truthy : truthy (some key) = true := decide_eq_true named.1
  have name_truthy : truthy (some name) = true := decide_eq_true named.2
  unfold parseEntry
  rw [parts]
  dsimp only [List.getElem?_cons_zero, List.getElem?_cons_succ, Option.getD_some]
  rw [if_neg (by simp [key_truthy, name_truthy])]
  by_cases none : rolesStr = ""
  · simp [none, truthy]
  · simp [none, truthy]

theorem parts_of_parseEntry (parsed : parseEntry text = some entry) :
    (entry.key ≠ "" ∧ entry.key ∈ split ':' text) ∧ (entry.name ≠ "" ∧ entry.name ∈ split ':' text) ∧
      ∀ role ∈ entry.roles, ∃ rolesStr ∈ split ':' text, role ∈ (split ',' rolesStr).map trim := by
  have filled {part : Option String} (holds : truthy part = true) :
      ∃ text, part = some text ∧ text ≠ "" := by
    cases part with
    | none => cases holds
    | some text => exact ⟨text, rfl, of_decide_eq_true holds⟩
  unfold parseEntry at parsed
  dsimp only at parsed
  split at parsed
  · cases parsed
  · rename_i present
    rw [not_or, not_not, not_not] at present
    obtain ⟨key, foundKey, keyed⟩ := filled present.1
    obtain ⟨name, foundName, named⟩ := filled present.2
    rw [foundKey, foundName] at parsed
    cases parsed
    refine ⟨⟨keyed, List.mem_of_getElem? foundKey⟩, ⟨named, List.mem_of_getElem? foundName⟩, ?_⟩
    intro role member
    dsimp only at member
    split at member
    · rename_i some
      obtain ⟨rolesStr, found, _⟩ := filled some
      rw [found, Option.getD_some] at member
      exact ⟨rolesStr, List.mem_of_getElem? found, member⟩
    · cases member

theorem wellFormed_of_parseEntry (free : ';' ∉ text.toList) (parsed : parseEntry text = some entry) :
    entry.WellFormed := by
  obtain ⟨⟨keyed, key⟩, ⟨named, name⟩, roles⟩ := parts_of_parseEntry parsed
  have part {part : String} (member : part ∈ split ':' text) : ':' ∉ part.toList ∧ ';' ∉ part.toList :=
    ⟨notMem_of_mem_split member, fun inside => free (subset_of_mem_split member inside)⟩
  refine ⟨⟨keyed, part key⟩, ⟨named, part name⟩, ?_, ?_⟩
  · intro role member
    obtain ⟨rolesStr, read, found⟩ := roles role member
    obtain ⟨piece, cut, rfl⟩ := List.mem_map.mp found
    obtain ⟨colon, semicolon⟩ := part read
    exact ⟨fun inside => colon (subset_of_mem_split cut (trim_subset piece inside)),
      fun inside => semicolon (subset_of_mem_split cut (trim_subset piece inside)),
      fun inside => notMem_of_mem_split cut (trim_subset piece inside)⟩
  · intro role member
    obtain ⟨rolesStr, _, found⟩ := roles role member
    obtain ⟨piece, _, rfl⟩ := List.mem_map.mp found
    exact trimmed_trim piece

theorem join_eq_empty_iff (free : ∀ role ∈ roles, ',' ∉ role.toList) :
    join ',' roles = "" ↔ roles = [] ∨ roles = [""] := by
  constructor
  · intro none
    by_cases filled : roles = []
    · exact .inl filled
    · right
      rw [← split_join filled free, none]
      rfl
  · rintro (rfl | rfl) <;> rfl

theorem parts_print (wellFormed : entry.WellFormed) :
    split ':' entry.print = [entry.key, entry.name, join ',' entry.roles] := by
  refine split_join (List.cons_ne_nil _ _) ?_
  rw [List.forall_mem_cons, List.forall_mem_cons, List.forall_mem_singleton]
  refine ⟨wellFormed.key.2.1, wellFormed.name.2.1, ?_⟩
  intro found
  rcases mem_join found with same | ⟨role, member, inside⟩
  · cases same
  · exact (wellFormed.separated role member).1 inside

theorem parseEntry_print (wellFormed : entry.WellFormed) :
    parseEntry entry.print = some entry.reloaded := by
  have commas : ∀ role ∈ entry.roles, ',' ∉ role.toList :=
    fun role member => (wellFormed.separated role member).2.2
  rw [parseEntry_of_parts (parts_print wellFormed) ⟨wellFormed.key.1, wellFormed.name.1⟩]
  congr 1
  by_cases none : join ',' entry.roles = ""
  · rw [if_pos none]
    unfold ApiKeyEntry.reloaded
    rcases (join_eq_empty_iff commas).mp none with no | single
    · rw [if_neg (by simp [no]), ← no]
    · rw [if_pos single]
  · have filled : entry.roles ≠ [] := fun no => none ((join_eq_empty_iff commas).mpr (.inl no))
    have several : entry.roles ≠ [""] := fun single => none ((join_eq_empty_iff commas).mpr (.inr single))
    have untouched : entry.roles.map trim = entry.roles := by
      rw [List.map_congr_left fun role member => trim_eq (wellFormed.trimmed role member), List.map_id']
    rw [if_neg none, split_join filled commas, untouched, ApiKeyEntry.reloaded_eq_iff.mpr several]

theorem semicolon_notMem_print (wellFormed : entry.WellFormed) : ';' ∉ entry.print.toList := by
  intro found
  rcases mem_join found with same | ⟨part, member, inside⟩
  · cases same
  · rw [List.mem_cons, List.mem_cons, List.mem_singleton] at member
    rcases member with rfl | rfl | rfl
    · exact wellFormed.key.2.2 inside
    · exact wellFormed.name.2.2 inside
    · rcases mem_join inside with same | ⟨role, member, inside⟩
      · cases same
      · exact (wellFormed.separated role member).2.1 inside

end Entry

/-! ## All entries -/

theorem foldl_loadEntry (apiKeys : ApiKeys) (texts : List String) :
    texts.foldl loadEntry apiKeys = apiKeys.saveAll (texts.filterMap parseEntry) := by
  induction texts generalizing apiKeys with
  | nil => rfl
  | cons text texts ih =>
      rw [List.foldl_cons, ih, loadEntry]
      cases parsed : parseEntry text with
      | none => rw [List.filterMap_cons_none parsed]
      | some entry => rw [List.filterMap_cons_some parsed, Table.saveAll_cons]

theorem loadApiKeys_eq (text : String) :
    loadApiKeys text = Table.empty.saveAll ((split ';' text).filterMap parseEntry) := by
  unfold loadApiKeys
  split
  · rename_i none
    rw [none]
    rfl
  · exact foldl_loadEntry .empty _

theorem wellFormed_of_mem {text : String} {entry : ApiKeyEntry}
    (loaded : entry ∈ (loadApiKeys text).rows) : entry.WellFormed := by
  rw [loadApiKeys_eq] at loaded
  rcases Table.mem_saveAll loaded with absent | read
  · cases absent
  · obtain ⟨part, member, parsed⟩ := List.mem_filterMap.mp read
    exact wellFormed_of_parseEntry (notMem_of_mem_split member) parsed

theorem find_loadApiKeys (text key : String) : (loadApiKeys text).find key =
    ((split ';' text).filterMap parseEntry).reverse.find? fun entry => entry.key = key := by
  rw [loadApiKeys_eq, Table.find_saveAll]
  exact Option.or_none

section Entries
variable {entries : List ApiKeyEntry}

theorem parse_print (wellFormed : ∀ entry ∈ entries, entry.WellFormed) :
    (split ';' (print entries)).filterMap parseEntry = entries.map ApiKeyEntry.reloaded := by
  by_cases none : entries = []
  · rw [none]
    rfl
  · have free : ∀ text ∈ entries.map ApiKeyEntry.print, ';' ∉ text.toList :=
      List.forall_mem_map.mpr fun entry member => semicolon_notMem_print (wellFormed entry member)
    have read : ∀ entry ∈ entries, parseEntry entry.print = some entry.reloaded :=
      fun entry member => parseEntry_print (wellFormed entry member)
    rw [print, split_join (by simpa using none) free, List.filterMap_map, ← List.filterMap_eq_map]
    exact List.filterMap_congr read

theorem rows_loadApiKeys_print (distinct : (entries.map ApiKeyEntry.key).Nodup)
    (wellFormed : ∀ entry ∈ entries, entry.WellFormed) :
    (loadApiKeys (print entries)).rows = entries.map ApiKeyEntry.reloaded := by
  have keys : (entries.map ApiKeyEntry.reloaded).map ApiKeyEntry.key = entries.map ApiKeyEntry.key := by
    rw [List.map_map]
    exact List.map_congr_left fun entry _ => entry.key_reloaded
  rw [loadApiKeys_eq, parse_print wellFormed]
  exact Table.rows_saveAll (keys.symm ▸ distinct)

theorem rows_loadApiKeys_print_iff (distinct : (entries.map ApiKeyEntry.key).Nodup)
    (wellFormed : ∀ entry ∈ entries, entry.WellFormed) :
    (loadApiKeys (print entries)).rows = entries ↔ ∀ entry ∈ entries, entry.roles ≠ [""] := by
  have unchanged : entries.map ApiKeyEntry.reloaded = entries ↔ ∀ entry ∈ entries, entry.reloaded = entry := by
    simpa using List.map_inj_left (f := ApiKeyEntry.reloaded) (g := id) (l := entries)
  rw [rows_loadApiKeys_print distinct wellFormed, unchanged]
  exact forall₂_congr fun entry _ => ApiKeyEntry.reloaded_eq_iff

end Entries

/-- Loading any text, printing the keys and loading them again loses nothing but a single empty role. -/
theorem reload_iff (text : String) :
    (loadApiKeys (print (loadApiKeys text).rows)).rows = (loadApiKeys text).rows ↔
      ∀ entry ∈ (loadApiKeys text).rows, entry.roles ≠ [""] :=
  rows_loadApiKeys_print_iff (loadApiKeys text).distinct fun _ loaded => wellFormed_of_mem loaded

/-- Printed entries are loaded as what they were, and nothing else is. -/
theorem loadApiKeys_print (entries : List ApiKeyEntry) (distinct : (entries.map (·.key)).Nodup)
    (wellFormed : ∀ entry ∈ entries, entry.WellFormed)
    (filled : ∀ entry ∈ entries, ∀ role ∈ entry.roles, role ≠ "") :
    (∀ entry ∈ entries, (loadApiKeys (print entries)).find entry.key = some entry) ∧
      ∀ key ∉ entries.map (·.key), (loadApiKeys (print entries)).find key = none := by
  have several : ∀ entry ∈ entries, entry.roles ≠ [""] := by
    intro entry member single
    exact filled entry member "" (single ▸ List.mem_singleton_self "") rfl
  have rows := (rows_loadApiKeys_print_iff distinct wellFormed).mpr several
  constructor
  · intro entry member
    exact Table.find_eq_some_iff.mpr ⟨rows.symm ▸ member, rfl⟩
  · intro key absent
    exact Table.find_eq_none_iff.mpr (rows.symm ▸ absent)

def bot : ApiKeyEntry := ⟨"k1", "Bot", ["admin", "user"]⟩

def reader : ApiKeyEntry := ⟨"k2", "Reader", []⟩

theorem bot_wellFormed : bot.WellFormed := ⟨by decide, by decide, by decide, by decide⟩

theorem reader_wellFormed : reader.WellFormed := ⟨by decide, by decide, by decide, by decide⟩

theorem loadApiKeys_bot_reader : print [bot, reader] = "k1:Bot:admin,user;k2:Reader:" ∧
    (∀ entry ∈ [bot, reader], (loadApiKeys (print [bot, reader])).find entry.key = some entry) ∧
      ∀ key ∉ [bot, reader].map (·.key), (loadApiKeys (print [bot, reader])).find key = none :=
  ⟨by decide, loadApiKeys_print [bot, reader] (by decide)
    (by simp [bot_wellFormed, reader_wellFormed]) (by decide)⟩

/-! ## The keys that are accepted -/

theorem lookup_static (apiKeys : ApiKeys) (key : String) :
    (static apiKeys).lookup key = (apiKeys.find key).map fun entry => (entry.name, entry.roles) := by
  unfold static Table.find
  induction apiKeys.rows with
  | nil => rfl
  | cons entry rows ih =>
      rw [List.map_cons, List.lookup_cons, List.find?_cons]
      by_cases same : entry.key = key
      · simp [same]
      · rw [beq_false_of_ne (Ne.symm same), decide_eq_false same]
        exact ih

section Validate
variable (config : AuthService.Config) {text key : String}

def configure (text : String) : AuthService.Config :=
  { config with apiKeys := static (loadApiKeys text) }

theorem validate_loaded {entry : ApiKeyEntry} (found : (loadApiKeys text).find key = some entry) :
    AuthService.validate (configure config text) key =
      return ⟨.string entry.name, .strings entry.roles, .undefined⟩ := by
  unfold AuthService.validate AuthService.lookUp configure
  simp only [lookup_static, found, Option.map_some]
  rfl

theorem validate_absent (absent : (loadApiKeys text).find key = none) :
    AuthService.validate (configure config text) key =
      AuthService.validate { config with apiKeys := [] } key := by
  unfold AuthService.validate AuthService.lookUp configure
  simp only [lookup_static, absent, Option.map_none, List.lookup_nil]

/-- The keys of printed entries are accepted with their own roles. -/
theorem validate_print {entries : List ApiKeyEntry} (distinct : (entries.map ApiKeyEntry.key).Nodup)
    (wellFormed : ∀ entry ∈ entries, entry.WellFormed) {entry : ApiKeyEntry} (member : entry ∈ entries) :
    AuthService.validate (configure config (print entries)) entry.key =
      return ⟨.string entry.name, .strings entry.reloaded.roles, .undefined⟩ := by
  have found : (loadApiKeys (print entries)).find entry.key = some entry.reloaded :=
    Table.find_eq_some_iff.mpr ⟨rows_loadApiKeys_print distinct wellFormed ▸ List.mem_map_of_mem member,
      entry.key_reloaded⟩
  rw [validate_loaded config found, ApiKeyEntry.name_reloaded]

end Validate

end Kanaka.Backend.ApiKeyStrategy
