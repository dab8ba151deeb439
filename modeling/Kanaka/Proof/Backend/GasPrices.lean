import Kanaka.Backend.GasOptimizerService
import Mathlib.Data.List.Nodup

/-! # Gas prices of one fetch -/

namespace Kanaka.Backend.GasOptimizerService
open TransactionService (GasPriceStrategy)

/-! ## Prices as text -/

theorem digitsValue_toDigits (n : Nat) : digitsValue (Nat.toDigits 10 n) = .ok (n : Int) := by
  have digits : (Nat.toDigits 10 n).all Char.isDigit = true := by
    rw [List.all_eq_true]
    exact fun c member => Nat.isDigit_of_mem_toDigits (by decide) (by decide) member
  unfold digitsValue
  rw [if_pos ⟨Nat.toDigits_ne_nil, digits⟩, Nat.ofDigitChars_ten_toDigits]

theorem toList_toString (n : Nat) : (toString n).toList = Nat.toDigits 10 n := by
  rw [Nat.toString_eq_repr, Nat.toList_repr]

theorem bigNumber_toString (n : Int) : bigNumber (toString n) = .ok n := by
  cases n with
  | ofNat n =>
      have text : (toString (Int.ofNat n)).toList = Nat.toDigits 10 n := toList_toString n
      unfold bigNumber
      rw [text]
      split
      · rename_i digits same
        have first : '-' ∈ Nat.toDigits 10 n := same ▸ List.mem_cons_self
        exact absurd (Nat.isDigit_of_mem_toDigits (by decide) (by decide) first) (by decide)
      · exact digitsValue_toDigits n
  | negSucc n =>
      have text : (toString (Int.negSucc n)).toList = '-' :: Nat.toDigits 10 (n + 1) := by
        show ("-" ++ toString (n + 1)).toList = _
        rw [String.toList_append, toList_toString]
        rfl
      unfold bigNumber
      rw [text]
      simp only [digitsValue_toDigits]
      rfl

structure IsPrice (text : String) : Prop where
  read : ∃ price, bigNumber text = .ok price
  filled : text ≠ ""

theorem isPrice_toString (n : Int) : IsPrice (toString n) := by
  refine ⟨⟨n, bigNumber_toString n⟩, ?_⟩
  intro empty
  have value := bigNumber_toString n
  rw [empty] at value
  contradiction

/-! ## Records as they are fetched -/

inductive Priced : GasPriceData → Prop where
  | fees {strategy maxFee priorityFee baseFee seconds} : IsPrice maxFee → IsPrice priorityFee →
      Priced ⟨strategy, none, some maxFee, some priorityFee, baseFee, seconds, 2⟩
  | legacy {strategy gasPrice baseFee seconds} : IsPrice gasPrice →
      Priced ⟨strategy, some gasPrice, none, none, baseFee, seconds, 0⟩

def strategies : List GasPriceStrategy := [.fastest, .fast, .average, .slow]

structure Fetched (data : List GasPriceData) : Prop where
  priced : ∀ record ∈ data, Priced record
  listed : data.map (·.strategy) = strategies

theorem fetched_feeRecords (baseFee priorityFee : Int) : Fetched (feeRecords baseFee priorityFee) := by
  constructor
  · have priced : ∀ fee strategy seconds, Priced (feeRecord baseFee fee strategy seconds) :=
      fun _ _ _ => .fees (isPrice_toString _) (isPrice_toString _)
    simp [feeRecords, priced]
  · rfl

theorem fetched_legacyRecords (gasPrice : Int) : Fetched (legacyRecords gasPrice) := by
  constructor
  · have priced : ∀ price strategy seconds, Priced (legacyRecord price strategy seconds) :=
      fun _ _ _ => .legacy (isPrice_toString _)
    simp [legacyRecords, priced]
  · rfl

theorem fetched_of_fetchFeeData {provider : Provider} {data : List GasPriceData}
    (found : fetchFeeData provider = .ok (some data)) : Fetched data := by
  unfold fetchFeeData at found
  obtain ⟨feeData, -, found⟩ := bind_eq_ok found
  split at found
  · obtain ⟨baseFee, -, found⟩ := bind_eq_ok found
    cases found
    exact fetched_feeRecords _ _
  · cases found

theorem fetched_of_fetch {provider : Provider} {data : List GasPriceData}
    (found : fetch provider = .ok data) : Fetched data := by
  unfold fetch at found
  obtain ⟨_, -, found⟩ := bind_eq_ok found
  split at found
  · rename_i records fees
    cases found
    exact fetched_of_fetchFeeData fees
  · obtain ⟨gasPrice, -, found⟩ := bind_eq_ok found
    cases found
    exact fetched_legacyRecords _

/-! ## What a request does to its record -/

def GasPriceData.prices (record : GasPriceData) : List String :=
  [record.gasPrice, record.maxFeePerGas, record.maxPriorityFeePerGas].filterMap id

def Fixes (multiplier : JsNumber) (record : GasPriceData) : Prop :=
  multiplier = .finite 1 ∨ ∀ price ∈ record.prices, applyMultiplier multiplier price = .ok price

def Converts (request : Request) (record : GasPriceData) : Prop :=
  record.type = 0 ∧ request.options.forceEIP1559 ∧ (getBaseFeePerGas request.converting).isOk ∨
    record.type = 2 ∧ request.options.forceLegacy

section Records
variable {config : Config} {request : Request} {record : GasPriceData}

theorem applyMultiplier_ok (multiplier : JsNumber) {text : String} (price : IsPrice text) :
    ∃ multiplied, applyMultiplier multiplier text = .ok multiplied := by
  obtain ⟨value, read⟩ := price.read
  unfold applyMultiplier
  rw [read]
  exact ⟨_, rfl⟩

theorem multiply_priced (multiplier : JsNumber) (priced : Priced record) :
    ∃ multiplied, multiply multiplier record = (.ok (), multiplied) ∧
      multiplied.type = record.type ∧ multiplied.strategy = record.strategy ∧
      (multiplied = record ↔ Fixes multiplier record) := by
  by_cases one : multiplier = .finite 1
  · exact ⟨record, if_pos one, rfl, rfl, iff_of_true rfl (.inl one)⟩
  · cases priced with
    | @fees strategy maxFee priorityFee baseFee seconds fee priority =>
        obtain ⟨fee', multiplied⟩ := applyMultiplier_ok multiplier fee
        obtain ⟨priority', multiplied'⟩ := applyMultiplier_ok multiplier priority
        refine ⟨⟨strategy, none, some fee', some priority', baseFee, seconds, 2⟩, ?_, rfl, rfl, ?_⟩
        · simp [multiply, one, multiplyFees, fee.filled, priority.filled, multiplied, multiplied']
        · simp [Fixes, one, GasPriceData.prices, multiplied, multiplied']
    | @legacy strategy gasPrice baseFee seconds price =>
        obtain ⟨price', multiplied⟩ := applyMultiplier_ok multiplier price
        refine ⟨⟨strategy, some price', none, none, baseFee, seconds, 0⟩, ?_, rfl, rfl, ?_⟩
        · simp [multiply, one, multiplyGasPrice, price.filled, multiplied]
        · simp [Fixes, one, GasPriceData.prices, multiplied]

theorem convert_ok {converted : GasPriceData} (ok : convert request record = .ok converted) :
    converted.strategy = record.strategy ∧ (converted = record ∨ converted.type ≠ record.type) := by
  unfold convert at ok
  split at ok
  · rename_i forced
    unfold toEIP1559 at ok
    split at ok
    · split at ok
      · obtain ⟨price, -, ok⟩ := bind_eq_ok ok
        obtain ⟨baseFee, -, ok⟩ := bind_eq_ok ok
        cases ok
        exact ⟨rfl, .inr (by simp [forced.2])⟩
      · cases ok
    · cases ok
  · split at ok
    · rename_i forced
      unfold toLegacy at ok
      split at ok
      · split at ok
        · obtain ⟨price, -, ok⟩ := bind_eq_ok ok
          cases ok
          exact ⟨rfl, .inr (by simp [forced.2])⟩
        · cases ok
      · cases ok
    · cases ok
      exact ⟨rfl, .inl rfl⟩

theorem converts_iff (priced : Priced record) : Converts request record ↔
    ∃ converted, convert request record = .ok converted ∧ converted.type ≠ record.type := by
  cases priced with
  | fees fee priority =>
      obtain ⟨price, read⟩ := fee.read
      by_cases forced : request.options.forceLegacy = true
      · simp [Converts, convert, toLegacy, forced, fee.filled, read, pure, Except.pure, bind, Except.bind]
      · simp [Converts, convert, forced]
  | legacy price =>
      obtain ⟨value, read⟩ := price.read
      by_cases forced : request.options.forceEIP1559 = true
      · cases answered : getBaseFeePerGas request.converting with
        | error error =>
            simp [Converts, convert, toEIP1559, forced, price.filled, read, answered, Except.isOk,
              Except.toBool, bind, Except.bind]
        | ok baseFee =>
            simp [Converts, convert, toEIP1559, forced, price.filled, read, answered, Except.isOk,
              Except.toBool, pure, Except.pure, bind, Except.bind]
      · simp [Converts, convert, forced]

theorem adjust_eq_iff (priced : Priced record) : (adjust config request record).2 = record ↔
    Fixes (multiplier config request) record ∧ ¬ Converts request record := by
  obtain ⟨multiplied, ran, type, -, same⟩ := multiply_priced (multiplier config request) priced
  unfold adjust
  rw [ran, converts_iff priced, ← same]
  dsimp only
  cases conversion : convert request multiplied with
  | error error =>
      dsimp only
      constructor
      · rintro rfl
        exact ⟨rfl, by simp [conversion]⟩
      · exact And.left
  | ok converted =>
      dsimp only
      constructor
      · rintro rfl
        rcases (convert_ok conversion).2 with kept | changed
        · subst kept
          exact ⟨rfl, by simp [conversion]⟩
        · exact absurd type.symm changed
      · rintro ⟨rfl, none⟩
        rcases (convert_ok conversion).2 with kept | changed
        · exact kept
        · exact absurd ⟨converted, conversion, changed⟩ none

theorem adjust_strategy (priced : Priced record) :
    (adjust config request record).2.strategy = record.strategy := by
  obtain ⟨multiplied, ran, -, strategy, -⟩ := multiply_priced (multiplier config request) priced
  unfold adjust
  rw [ran]
  dsimp only
  cases conversion : convert request multiplied with
  | error error => exact strategy
  | ok converted => exact (convert_ok conversion).1.trans strategy

end Records

/-! ## What a request does to the cache -/

def Leaves (config : Config) (data : List GasPriceData) (request : Request) : Prop :=
  (custom config request).isSome ∨ ∀ place ∈ selected (strategy config request) data,
    Fixes (multiplier config request) (data.get place) ∧ ¬ Converts request (data.get place)

section Requests
variable {config : Config} {request : Request} {cache : GasPriceCache} {data : List GasPriceData}

theorem exists_selected (listed : data.map (·.strategy) = strategies) (strategy : GasPriceStrategy) :
    ∃ place, selected strategy data = some place := by
  have fast : (.fast : GasPriceStrategy) ∈ data.map (·.strategy) := by
    rw [listed]
    decide
  obtain ⟨record, member, named⟩ := List.mem_map.mp fast
  have found : (data.findFinIdx? (·.strategy = .fast)).isSome := by
    rw [List.isSome_findFinIdx?]
    exact List.any_eq_true.mpr ⟨record, member, by simp [named]⟩
  obtain ⟨place, fallback⟩ := Option.isSome_iff_exists.mp found
  unfold selected
  cases data.findFinIdx? (·.strategy = strategy) with
  | some first => exact ⟨first, rfl⟩
  | none => exact ⟨place, fallback⟩

theorem selectRecord_of_selected {place : Fin data.length}
    (chosen : selected (strategy config request) data = some place) :
    selectRecord config request data = ((adjust config request (data.get place)).1,
      data.set place (adjust config request (data.get place)).2) := by
  unfold selectRecord
  rw [chosen]

theorem set_eq_iff {place : Fin data.length} {record : GasPriceData} :
    data.set place record = data ↔ record = data.get place := by
  constructor
  · intro same
    have here := congrArg (fun list : List GasPriceData => list[(place : Nat)]?) same
    simpa using here
  · rintro rfl
    exact List.set_getElem_self _

theorem getOptimalGasPrice_custom {price : GasPriceData} (usual : custom config request = some price) :
    getOptimalGasPrice config request cache = (.ok price, cache) := by
  unfold getOptimalGasPrice
  rw [usual]

theorem getOptimalGasPrice_valid (valid : cache.Valid config request.now)
    (ordinary : custom config request = none) : getOptimalGasPrice config request cache =
      ((selectRecord config request cache.data).1,
        { cache with data := (selectRecord config request cache.data).2 }) := by
  unfold getOptimalGasPrice getGasPriceData
  rw [ordinary, if_pos valid]

theorem getOptimalGasPrice_fetch (stale : ¬ cache.Valid config request.now)
    (fetched : fetch request.fetching = .ok data) (dated : 0 < request.now)
    (lasting : 0 < config.cacheTTL) (ordinary : custom config request = none) :
    getOptimalGasPrice config request cache =
      getOptimalGasPrice config request ⟨request.now, data⟩ := by
  have valid : GasPriceCache.Valid config request.now ⟨request.now, data⟩ :=
    ⟨dated, by rw [Int.sub_self]; exact lasting⟩
  rw [getOptimalGasPrice_valid valid ordinary]
  unfold getOptimalGasPrice getGasPriceData
  rw [ordinary, if_neg stale, fetched]

theorem leaves_iff (fetched : Fetched cache.data) (valid : cache.Valid config request.now) :
    (getOptimalGasPrice config request cache).2 = cache ↔ Leaves config cache.data request := by
  cases usual : custom config request with
  | some price =>
      rw [getOptimalGasPrice_custom usual]
      exact iff_of_true rfl (.inl (by rw [usual]; rfl))
  | none =>
      obtain ⟨place, chosen⟩ := exists_selected fetched.listed (strategy config request)
      have priced := fetched.priced _ (List.get_mem cache.data place)
      rw [getOptimalGasPrice_valid valid usual, selectRecord_of_selected chosen]
      have cached : ∀ data, ({ cache with data } : GasPriceCache) = cache ↔ data = cache.data := by
        intro data
        constructor
        · exact congrArg GasPriceCache.data
        · intro same
          rw [same]
      rw [cached, set_eq_iff, adjust_eq_iff priced]
      simp [Leaves, usual, chosen]

def plain (strategy : GasPriceStrategy) (request : Request) : Request :=
  { request with options := ⟨some strategy, none, none, none, some (.finite 1), false, false⟩ }

theorem custom_plain (strategy : GasPriceStrategy) (request : Request) :
    custom config (plain strategy request) = none := by
  unfold custom
  split <;> rfl

theorem selected_of_mem (listed : data.map (·.strategy) = strategies) {record : GasPriceData}
    (member : record ∈ data) :
    ∃ place, selected record.strategy data = some place ∧ data.get place = record := by
  have found : (data.findFinIdx? (·.strategy = record.strategy)).isSome := by
    rw [List.isSome_findFinIdx?]
    exact List.any_eq_true.mpr ⟨record, member, by simp⟩
  obtain ⟨place, first⟩ := Option.isSome_iff_exists.mp found
  have same : (data.get place).strategy = record.strategy := by
    simpa using (List.findFinIdx?_eq_some_iff.mp first).1
  have distinct : (data.map (·.strategy)).Nodup := by
    rw [listed]
    decide
  refine ⟨place, ?_, List.inj_on_of_nodup_map distinct (List.get_mem data place) member same⟩
  unfold selected
  rw [first]
  rfl

theorem selectRecord_plain (listed : data.map (·.strategy) = strategies) {record : GasPriceData}
    (member : record ∈ data) (request : Request) :
    (selectRecord config (plain record.strategy request) data).1 = .ok record := by
  obtain ⟨place, chosen, own⟩ := selected_of_mem listed member
  unfold selectRecord
  rw [show strategy config (plain record.strategy request) = record.strategy from rfl, chosen]
  exact congrArg Except.ok own

theorem getOptimalGasPrice_plain (listed : cache.data.map (·.strategy) = strategies)
    (valid : cache.Valid config request.now) {record : GasPriceData} (member : record ∈ cache.data) :
    (getOptimalGasPrice config (plain record.strategy request) cache).1 = .ok record := by
  have lasting : cache.Valid config (plain record.strategy request).now := valid
  rw [getOptimalGasPrice_valid lasting (custom_plain record.strategy request)]
  exact selectRecord_plain listed member request

/-- A request that changes nothing a later one reads leaves its record as it is: the later one asks
for that record. -/
theorem leaves_of_same (fetched : Fetched cache.data) (valid : cache.Valid config request.now)
    (same : ∀ next : Request, cache.Valid config next.now →
      (getOptimalGasPrice config next (getOptimalGasPrice config request cache).2).1 =
        (getOptimalGasPrice config next cache).1) : Leaves config cache.data request := by
  rw [← leaves_iff fetched valid]
  cases usual : custom config request with
  | some price => rw [getOptimalGasPrice_custom usual]
  | none =>
      obtain ⟨place, chosen⟩ := exists_selected fetched.listed (strategy config request)
      have member := List.get_mem cache.data place
      have named : (adjust config request (cache.data.get place)).2.strategy =
          (cache.data.get place).strategy := adjust_strategy (fetched.priced _ member)
      rw [getOptimalGasPrice_valid valid usual, selectRecord_of_selected chosen] at same ⊢
      dsimp only at same ⊢
      generalize (adjust config request (cache.data.get place)).2 = record at named same ⊢
      have listed : (cache.data.set place record).map (·.strategy) = strategies := by
        rw [List.map_set, named, ← List.map_set, set_eq_iff.mpr rfl]
        exact fetched.listed
      have changed : record ∈ cache.data.set place record := List.mem_set place.isLt record
      have lasting : GasPriceCache.Valid config request.now
        ⟨cache.timestamp, cache.data.set place record⟩ := valid
      have later := getOptimalGasPrice_plain listed lasting changed
      rw [same (plain record.strategy request) valid, named,
        getOptimalGasPrice_plain fetched.listed valid member] at later
      cases later
      rw [set_eq_iff.mpr rfl]

end Requests

/-! ## Sequences of requests -/

def after (config : Config) (cache : GasPriceCache) (requests : List Request) : GasPriceCache :=
  requests.foldl (fun cache request => (getOptimalGasPrice config request cache).2) cache

/-- After any part of the sequence, a call returns what it would return as the first. -/
def Independent (config : Config) (cache : GasPriceCache) (requests : List Request) : Prop :=
  ∀ past, past <+: requests → ∀ next : Request, cache.Valid config next.now →
    (getOptimalGasPrice config next (after config cache past)).1 =
      (getOptimalGasPrice config next cache).1

section Sequences
variable {config : Config} {cache : GasPriceCache} {requests : List Request}

theorem independent_nil : Independent config cache [] := by
  intro past part next _
  rw [List.prefix_nil.mp part]
  rfl

theorem independent_cons {request : Request} (fetched : Fetched cache.data)
    (valid : cache.Valid config request.now) : Independent config cache (request :: requests) ↔
      Leaves config cache.data request ∧ Independent config cache requests := by
  constructor
  · intro independent
    have leaves : Leaves config cache.data request :=
      leaves_of_same fetched valid (independent [request] ⟨requests, rfl⟩)
    refine ⟨leaves, ?_⟩
    intro past part next
    have later := independent (request :: past) (List.prefix_cons_inj request |>.mpr part) next
    unfold after at later
    rw [List.foldl_cons, (leaves_iff fetched valid).mpr leaves] at later
    exact later
  · rintro ⟨leaves, independent⟩ past part next lasting
    cases past with
    | nil => rfl
    | cons first past =>
        obtain ⟨rfl, shorter⟩ := List.cons_prefix_cons.mp part
        have later := independent past shorter next lasting
        unfold after
        rw [List.foldl_cons, (leaves_iff fetched valid).mpr leaves]
        exact later

/-- Requests on one fetch are independent if and only if each leaves its record as it is. -/
theorem independent_iff {provider : Provider} (fetched : fetch provider = .ok cache.data)
    (valid : ∀ request ∈ requests, cache.Valid config request.now) :
    Independent config cache requests ↔ ∀ request ∈ requests, Leaves config cache.data request := by
  have records := fetched_of_fetch fetched
  induction requests with
  | nil => exact iff_of_true independent_nil (by simp)
  | cons request requests ih =>
      rw [List.forall_mem_cons] at valid ⊢
      rw [independent_cons records valid.1]
      exact and_congr Iff.rfl (ih valid.2)

def results (config : Config) : GasPriceCache → List Request → List (Except JsError GasPriceData)
  | _, [] => []
  | cache, request :: requests =>
      (getOptimalGasPrice config request cache).1 ::
        results config (getOptimalGasPrice config request cache).2 requests

/-- The calls of an independent sequence return what each would return as the first. -/
theorem results_of_independent (independent : Independent config cache requests)
    (valid : ∀ request ∈ requests, cache.Valid config request.now) :
    results config cache requests =
      requests.map fun request => (getOptimalGasPrice config request cache).1 := by
  have each : ∀ past rest, past ++ rest = requests →
      results config (after config cache past) rest =
        rest.map fun request => (getOptimalGasPrice config request cache).1 := by
    intro past rest
    induction rest generalizing past with
    | nil => exact fun _ => rfl
    | cons next rest ih =>
        intro split
        have part : past <+: requests := ⟨next :: rest, split⟩
        have lasting := valid next (split ▸ List.mem_append_right past List.mem_cons_self)
        have further := ih (past ++ [next]) (by rw [← split, List.append_assoc]; rfl)
        have step : after config cache (past ++ [next]) =
            (getOptimalGasPrice config next (after config cache past)).2 := List.foldl_concat ..
        rw [step] at further
        rw [results, List.map_cons, independent past part next lasting, further]
  exact each [] requests rfl

end Sequences

/-! ## A network without EIP-1559 -/

def network : Provider where
  getProvider := .ok ()
  getFeeData := .ok ⟨none, none, none⟩
  getBlock := .ok none
  getGasPrice := .ok 100

def defaults : Config := ⟨.fast, JsNumber.round (11 / 10), 30000⟩

def fetchedPrices : GasPriceCache := ⟨1000, legacyRecords 100⟩

def doubled : Request :=
  ⟨⟨some .fast, none, none, none, some (.finite 2), false, false⟩, 1001, network, network⟩

theorem independent_plain : Independent defaults fetchedPrices
    [plain .average doubled, plain .fast doubled, plain .average doubled] := by
  have fetched : fetch network = .ok fetchedPrices.data := by rfl
  have leaves (strategy : GasPriceStrategy) : Leaves defaults fetchedPrices.data (plain strategy doubled) := by
    right
    intro place _
    exact ⟨.inl rfl, by simp [Converts, plain]⟩
  refine (independent_iff fetched ?_).mpr ?_
  · decide
  · simp only [List.forall_mem_cons, leaves, true_and]
    exact fun _ => nofun

/-- The same call returns 200, and then 400. -/
theorem prices_compound : fetch network = .ok fetchedPrices.data ∧
    (∀ request ∈ [doubled, doubled], fetchedPrices.Valid defaults request.now) ∧
    (getOptimalGasPrice defaults doubled fetchedPrices).1 =
      .ok (legacyRecord 200 .fast 30) ∧
    (getOptimalGasPrice defaults doubled (after defaults fetchedPrices [doubled])).1 =
      .ok (legacyRecord 400 .fast 30) ∧
    ¬ Independent defaults fetchedPrices [doubled, doubled] := by
  have first : (getOptimalGasPrice defaults doubled fetchedPrices).1 =
      .ok (legacyRecord 200 .fast 30) := by decide +kernel
  have second : (getOptimalGasPrice defaults doubled (after defaults fetchedPrices [doubled])).1 =
      .ok (legacyRecord 400 .fast 30) := by decide +kernel
  refine ⟨rfl, by decide, first, second, ?_⟩
  intro independent
  have same := independent [doubled] (by simp) doubled (by decide)
  rw [first, second] at same
  revert same
  decide

end Kanaka.Backend.GasOptimizerService
