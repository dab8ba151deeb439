import Kanaka.Proof.Backend.GasPrices

/-! # Gas prices of a fresh fetch: their signs and their order -/

namespace Kanaka.Backend.GasOptimizerService
open TransactionService (GasPriceStrategy)

structure Provider.NonNegative (provider : Provider) : Prop where
  priorityFee : ∀ feeData, provider.getFeeData = .ok feeData →
    ∀ fee, feeData.maxPriorityFeePerGas = some fee → 0 ≤ fee
  lastBaseFee : ∀ feeData, provider.getFeeData = .ok feeData →
    ∀ fee, feeData.lastBaseFeePerGas = some fee → 0 ≤ fee
  block : ∀ fee, provider.getBlock = .ok (some fee) → 0 ≤ fee
  gasPrice : ∀ price, provider.getGasPrice = .ok price → 0 ≤ price

/-! ## Percentages -/

section Percentages
variable {percent value : Int}

theorem percentOf_le_percentOf {other : Int} (le : percent ≤ other) (positive : 0 ≤ value) :
    percentOf percent value ≤ percentOf other value :=
  Int.tdiv_le_tdiv (by decide) (Int.mul_le_mul_of_nonneg_left le positive)

theorem percentOf_hundred : percentOf 100 value = value := Int.mul_tdiv_cancel value (by decide)

theorem percentOf_nonneg (percents : 0 ≤ percent) (positive : 0 ≤ value) :
    0 ≤ percentOf percent value :=
  Int.tdiv_nonneg (Int.mul_nonneg positive percents) (by decide)

end Percentages

def percent : GasPriceStrategy → Int
  | .slow => 50
  | .average => 80
  | .fast => 100
  | .fastest => 150
  | .custom => 100

def share (strategy : GasPriceStrategy) (value : Int) : Int := percentOf (percent strategy) value

theorem percent_nonneg (strategy : GasPriceStrategy) : 0 ≤ percent strategy := by
  cases strategy <;> decide

theorem share_nonneg (strategy : GasPriceStrategy) {value : Int} (positive : 0 ≤ value) :
    0 ≤ share strategy value := percentOf_nonneg (percent_nonneg strategy) positive

theorem share_le_share {strategy other : GasPriceStrategy} {value : Int}
    (le : percent strategy ≤ percent other) (positive : 0 ≤ value) :
    share strategy value ≤ share other value := percentOf_le_percentOf le positive

/-! ## What is fetched -/

inductive Market where
  | fees (baseFee priorityFee : Int)
  | legacy (gasPrice : Int)

def Market.records : Market → List GasPriceData
  | .fees baseFee priorityFee => feeRecords baseFee priorityFee
  | .legacy gasPrice => legacyRecords gasPrice

def Market.NonNegative : Market → Prop
  | .fees baseFee priorityFee => 0 ≤ baseFee ∧ 0 ≤ priorityFee
  | .legacy gasPrice => 0 ≤ gasPrice

section Fetching
variable {provider : Provider}

theorem getBaseFeePerGas_nonneg (answers : provider.NonNegative) {baseFee : Int}
    (ok : getBaseFeePerGas provider = .ok baseFee) : 0 ≤ baseFee := by
  unfold getBaseFeePerGas at ok
  obtain ⟨-, -, ok⟩ := bind_eq_ok ok
  obtain ⟨block, found, ok⟩ := bind_eq_ok ok
  cases block with
  | some fee =>
      cases ok
      exact answers.block _ found
  | none =>
      obtain ⟨gasPrice, priced, ok⟩ := bind_eq_ok ok
      cases ok
      exact Int.tdiv_nonneg (answers.gasPrice gasPrice priced) (by decide)

theorem fetchFeeData_market (answers : provider.NonNegative) {data : List GasPriceData}
    (found : fetchFeeData provider = .ok (some data)) :
    ∃ market : Market, market.NonNegative ∧ data = market.records := by
  unfold fetchFeeData at found
  obtain ⟨feeData, told, found⟩ := bind_eq_ok found
  split at found
  · rename_i maxFee priorityFee _ offered
    obtain ⟨baseFee, based, found⟩ := bind_eq_ok found
    cases found
    refine ⟨.fees baseFee priorityFee, ⟨?_, answers.priorityFee _ told _ offered⟩, rfl⟩
    cases last : feeData.lastBaseFeePerGas with
    | some fee =>
        rw [last] at based
        cases based
        exact answers.lastBaseFee _ told _ last
    | none =>
        rw [last] at based
        exact getBaseFeePerGas_nonneg answers based
  · cases found

theorem fetch_market (answers : provider.NonNegative) {data : List GasPriceData}
    (fetched : fetch provider = .ok data) :
    ∃ market : Market, market.NonNegative ∧ data = market.records := by
  unfold fetch at fetched
  obtain ⟨-, -, fetched⟩ := bind_eq_ok fetched
  split at fetched
  · rename_i records found
    cases fetched
    exact fetchFeeData_market answers found
  · obtain ⟨gasPrice, priced, fetched⟩ := bind_eq_ok fetched
    cases fetched
    exact ⟨.legacy gasPrice, answers.gasPrice gasPrice priced, rfl⟩

end Fetching

/-! ## What is returned -/

def amount (field : Option String) : Option Int := field.bind fun text => (bigNumber text).toOption

theorem amount_toString (value : Int) : amount (some (toString value)) = some value := by
  unfold amount
  rw [Option.bind_some, bigNumber_toString]
  rfl

inductive Quote where
  | fees (maxFee priorityFee : Int)
  | legacy (gasPrice : Int)

def Quote.Told (record : GasPriceData) : Quote → Prop
  | .fees maxFee priorityFee => record.type = 2 ∧ amount record.maxFeePerGas = some maxFee ∧
      amount record.maxPriorityFeePerGas = some priorityFee ∧ record.gasPrice = none
  | .legacy gasPrice => record.type = 0 ∧ amount record.gasPrice = some gasPrice ∧
      record.maxFeePerGas = none ∧ record.maxPriorityFeePerGas = none ∧ record.baseFeePerGas = none

/-- What a strategy is quoted, by the flags and the base fee of the conversion. -/
inductive Quoted (request : Request) (strategy : GasPriceStrategy) : Market → Quote → Prop where
  | fees {baseFee priorityFee} : request.options.forceLegacy = false →
      Quoted request strategy (.fees baseFee priorityFee)
        (.fees (baseFee + share strategy priorityFee) (share strategy priorityFee))
  | toLegacy {baseFee priorityFee} : request.options.forceLegacy = true →
      Quoted request strategy (.fees baseFee priorityFee)
        (.legacy (baseFee + share strategy priorityFee))
  | legacy {gasPrice} : request.options.forceEIP1559 = false →
      Quoted request strategy (.legacy gasPrice) (.legacy (share strategy gasPrice))
  | toEIP1559 {gasPrice baseFee} : request.options.forceEIP1559 = true →
      getBaseFeePerGas request.converting = .ok baseFee →
      Quoted request strategy (.legacy gasPrice)
        (.fees (share strategy gasPrice) (share strategy gasPrice - baseFee))

def seconds : GasPriceStrategy → Nat
  | .slow => 180
  | .average => 60
  | .fast => 30
  | .fastest => 15
  | .custom => 30

def Market.record (strategy : GasPriceStrategy) : Market → GasPriceData
  | .fees baseFee priorityFee =>
      feeRecord baseFee (share strategy priorityFee) strategy (seconds strategy)
  | .legacy gasPrice => legacyRecord (share strategy gasPrice) strategy (seconds strategy)

theorem records_eq (market : Market) :
    market.records = strategies.map (fun strategy => market.record strategy) := by
  have fast (value : Int) : share .fast value = value := percentOf_hundred
  cases market <;> simp only [strategies, List.map_cons, List.map_nil, Market.record, fast] <;> rfl

theorem selected_market (market : Market) {strategy : GasPriceStrategy} (ordinary : strategy ≠ .custom) :
    ∃ place, selected strategy market.records = some place ∧
      market.records.get place = market.record strategy := by
  have named (strategy : GasPriceStrategy) : (market.record strategy).strategy = strategy := by
    cases market <;> rfl
  have listed : market.records.map (·.strategy) = strategies := by
    rw [records_eq, List.map_map]
    exact List.map_id'' named strategies
  have member : market.record strategy ∈ market.records := by
    rw [records_eq]
    refine List.mem_map_of_mem ?_
    cases strategy <;> first | decide | contradiction
  obtain ⟨place, chosen, same⟩ := selected_of_mem listed member
  rw [named] at chosen
  exact ⟨place, chosen, same⟩

section Converting
variable {request : Request} {strategy : GasPriceStrategy} {market : Market}

theorem filled_toString (value : Int) : toString value ≠ "" := (isPrice_toString value).filled

theorem convert_of_quoted {quote : Quote} (quoted : Quoted request strategy market quote) :
    ∃ record, convert request (market.record strategy) = .ok record ∧ quote.Told record := by
  cases quoted with
  | @fees baseFee priorityFee free =>
      refine ⟨feeRecord baseFee (share strategy priorityFee) strategy (seconds strategy), ?_, rfl,
        amount_toString _, amount_toString _, rfl⟩
      simp [convert, Market.record, feeRecord, free]
  | @toLegacy baseFee priorityFee forced =>
      refine ⟨legacyRecord (baseFee + share strategy priorityFee) strategy (seconds strategy), ?_, rfl,
        amount_toString _, rfl, rfl, rfl⟩
      simp [convert, Market.record, feeRecord, legacyRecord, toLegacy, forced, filled_toString,
        bigNumber_toString, bind, Except.bind, pure, Except.pure, -Int.toString_eq_repr]
  | @legacy gasPrice free =>
      refine ⟨legacyRecord (share strategy gasPrice) strategy (seconds strategy), ?_, rfl,
        amount_toString _, rfl, rfl, rfl⟩
      simp [convert, Market.record, legacyRecord, free]
  | @toEIP1559 gasPrice baseFee forced answered =>
      refine ⟨⟨strategy, none, some (toString (share strategy gasPrice)),
        some (toString (share strategy gasPrice - baseFee)), some (toString baseFee),
        some (seconds strategy), 2⟩, ?_, rfl, amount_toString _, amount_toString _, rfl⟩
      simp [convert, Market.record, legacyRecord, toEIP1559, forced, filled_toString,
        bigNumber_toString, answered, bind, Except.bind, pure, Except.pure, -Int.toString_eq_repr]

theorem exists_quoted {record : GasPriceData}
    (ok : convert request (market.record strategy) = .ok record) :
    ∃ quote, Quoted request strategy market quote := by
  cases market with
  | fees baseFee priorityFee =>
      cases forced : request.options.forceLegacy with
      | true => exact ⟨_, .toLegacy forced⟩
      | false => exact ⟨_, .fees forced⟩
  | legacy gasPrice =>
      cases forced : request.options.forceEIP1559 with
      | true =>
          cases answered : getBaseFeePerGas request.converting with
          | ok baseFee => exact ⟨_, .toEIP1559 forced answered⟩
          | error error =>
              simp [convert, Market.record, legacyRecord, toEIP1559, forced, filled_toString,
                bigNumber_toString, answered, bind, Except.bind, -Int.toString_eq_repr] at ok
      | false => exact ⟨_, .legacy forced⟩

end Converting

/-! ## Calls that fetch -/

/-- A call that has to fetch, with the multiplier one, not for a custom price. -/
structure Fresh (config : Config) (request : Request) (cache : GasPriceCache) : Prop where
  stale : ¬ cache.Valid config request.now
  multiplier : multiplier config request = .finite 1
  ordinary : strategy config request ≠ .custom
  fetching : request.fetching.NonNegative
  converting : request.converting.NonNegative

section Calls
variable {config : Config} {request : Request} {cache : GasPriceCache}

theorem getOptimalGasPrice_fresh (fresh : Fresh config request cache) {market : Market}
    (fetched : fetch request.fetching = .ok market.records) :
    (getOptimalGasPrice config request cache).1 =
      convert request (market.record (strategy config request)) := by
  obtain ⟨place, chosen, record⟩ := selected_market market fresh.ordinary
  have ordinary : custom config request = none := if_neg fresh.ordinary
  unfold getOptimalGasPrice getGasPriceData
  rw [ordinary, if_neg fresh.stale, fetched]
  dsimp only
  rw [selectRecord_of_selected chosen, record]
  unfold adjust multiply
  rw [if_pos fresh.multiplier]
  dsimp only
  cases convert request (market.record (strategy config request)) <;> rfl

theorem getOptimalGasPrice_quoted (fresh : Fresh config request cache) {market : Market}
    (fetched : fetch request.fetching = .ok market.records) {record : GasPriceData}
    (ok : (getOptimalGasPrice config request cache).1 = .ok record) :
    ∃ quote : Quote, Quoted request (strategy config request) market quote ∧ quote.Told record := by
  rw [getOptimalGasPrice_fresh fresh fetched] at ok
  obtain ⟨quote, quoted⟩ := exists_quoted ok
  obtain ⟨same, converted, told⟩ := convert_of_quoted quoted
  rw [ok, Except.ok.injEq] at converted
  exact ⟨quote, quoted, converted ▸ told⟩

theorem getOptimalGasPrice_market (fresh : Fresh config request cache) {record : GasPriceData}
    (ok : (getOptimalGasPrice config request cache).1 = .ok record) :
    ∃ market : Market, market.NonNegative ∧ fetch request.fetching = .ok market.records := by
  cases fetched : fetch request.fetching with
  | error error =>
      have ordinary : custom config request = none := if_neg fresh.ordinary
      unfold getOptimalGasPrice getGasPriceData at ok
      rw [ordinary, if_neg fresh.stale, fetched] at ok
      cases ok
  | ok data =>
      obtain ⟨market, positive, rfl⟩ := fetch_market fresh.fetching fetched
      exact ⟨market, positive, rfl⟩

end Calls

/-! ## Well-formed and ordered prices -/

structure WellFormed (record : GasPriceData) : Prop where
  type : record.type = 2 ∨ record.type = 0
  fees : record.type = 2 → ∃ maxFee priorityFee, amount record.maxFeePerGas = some maxFee ∧
    amount record.maxPriorityFeePerGas = some priorityFee ∧ 0 ≤ priorityFee ∧ priorityFee ≤ maxFee
  legacy : record.type = 0 → ∃ gasPrice, amount record.gasPrice = some gasPrice ∧ 0 ≤ gasPrice ∧
    record.maxFeePerGas = none ∧ record.maxPriorityFeePerGas = none ∧ record.baseFeePerGas = none

def Quote.WellFormed : Quote → Prop
  | .fees maxFee priorityFee => 0 ≤ priorityFee ∧ priorityFee ≤ maxFee
  | .legacy gasPrice => 0 ≤ gasPrice

theorem wellFormed_iff {quote : Quote} {record : GasPriceData} (told : quote.Told record) :
    WellFormed record ↔ quote.WellFormed := by
  cases quote with
  | fees maxFee priorityFee =>
      obtain ⟨type, cap, tip, -⟩ := told
      constructor
      · intro formed
        obtain ⟨fee, priority, readCap, readTip, positive, le⟩ := formed.fees type
        rw [cap, Option.some.injEq] at readCap
        rw [tip, Option.some.injEq] at readTip
        subst readCap readTip
        exact ⟨positive, le⟩
      · rintro ⟨positive, le⟩
        exact ⟨.inl type, fun _ => ⟨maxFee, priorityFee, cap, tip, positive, le⟩, by simp [type]⟩
  | legacy gasPrice =>
      obtain ⟨type, price, others⟩ := told
      constructor
      · intro formed
        obtain ⟨same, read, positive, -⟩ := formed.legacy type
        rw [price, Option.some.injEq] at read
        exact read ▸ positive
      · intro positive
        exact ⟨.inr type, by simp [type], fun _ => ⟨gasPrice, price, positive, others⟩⟩

def AtMost (field other : Option String) : Prop :=
  ∀ low high, amount field = some low → amount other = some high → low ≤ high

theorem atMost_of_amount {field other : Option String} {low high : Int} (lower : amount field = some low)
    (upper : amount other = some high) (le : low ≤ high) : AtMost field other := by
  intro first second readFirst readSecond
  rw [lower, Option.some.injEq] at readFirst
  rw [upper, Option.some.injEq] at readSecond
  exact readFirst ▸ readSecond ▸ le

theorem atMost_none {field other : Option String} (absent : field = none) : AtMost field other := by
  intro low high read
  rw [absent] at read
  cases read

def rank : GasPriceStrategy → Nat
  | .slow => 0
  | .average => 1
  | .fast => 2
  | .fastest => 3
  | .custom => 2

theorem percent_le_percent {strategy other : GasPriceStrategy} (le : rank strategy ≤ rank other) :
    percent strategy ≤ percent other := by
  cases strategy <;> cases other <;> first | decide | exact absurd le (by decide)

structure Alike (request other : Request) : Prop where
  fetching : request.fetching = other.fetching
  forceEIP1559 : request.options.forceEIP1559 = other.options.forceEIP1559
  forceLegacy : request.options.forceLegacy = other.options.forceLegacy

structure Ordered (request other : Request) (record dearer : GasPriceData) : Prop where
  type : record.type = dearer.type
  gasPrice : AtMost record.gasPrice dearer.gasPrice
  maxFee : AtMost record.maxFeePerGas dearer.maxFeePerGas
  -- the base fee that a conversion subtracts is fetched by each call
  priorityFee : request.converting = other.converting →
    AtMost record.maxPriorityFeePerGas dearer.maxPriorityFeePerGas

theorem ordered_of_quoted {request other : Request} {low high : GasPriceStrategy} {market : Market}
    {quote dearerQuote : Quote} {record dearer : GasPriceData} (alike : Alike request other)
    (le : percent low ≤ percent high) (positive : market.NonNegative)
    (quoted : Quoted request low market quote) (told : quote.Told record)
    (dearerQuoted : Quoted other high market dearerQuote) (dearerTold : dearerQuote.Told dearer) :
    Ordered request other record dearer := by
  cases quoted with
  | @fees baseFee priorityFee free =>
      have shares := share_le_share le positive.2
      cases dearerQuoted with
      | fees free =>
          exact ⟨told.1.trans dearerTold.1.symm, atMost_none told.2.2.2,
            atMost_of_amount told.2.1 dearerTold.2.1 (Int.add_le_add_left shares baseFee),
            fun _ => atMost_of_amount told.2.2.1 dearerTold.2.2.1 shares⟩
      | toLegacy forced =>
          rw [alike.forceLegacy, forced] at free
          cases free
  | @toLegacy baseFee priorityFee forced =>
      have shares := share_le_share le positive.2
      cases dearerQuoted with
      | fees free =>
          rw [alike.forceLegacy, free] at forced
          cases forced
      | toLegacy forced =>
          exact ⟨told.1.trans dearerTold.1.symm,
            atMost_of_amount told.2.1 dearerTold.2.1 (Int.add_le_add_left shares baseFee),
            atMost_none told.2.2.1, fun _ => atMost_none told.2.2.2.1⟩
  | legacy free =>
      have shares := share_le_share le positive
      cases dearerQuoted with
      | legacy free =>
          exact ⟨told.1.trans dearerTold.1.symm, atMost_of_amount told.2.1 dearerTold.2.1 shares,
            atMost_none told.2.2.1, fun _ => atMost_none told.2.2.2.1⟩
      | toEIP1559 forced answered =>
          rw [alike.forceEIP1559, forced] at free
          cases free
  | @toEIP1559 gasPrice baseFee forced answered =>
      have shares := share_le_share le positive
      cases dearerQuoted with
      | legacy free =>
          rw [alike.forceEIP1559, free] at forced
          cases forced
      | toEIP1559 forced answeredAgain =>
          refine ⟨told.1.trans dearerTold.1.symm, atMost_none told.2.2.2,
            atMost_of_amount told.2.1 dearerTold.2.1 shares, fun same => ?_⟩
          rw [← same, answered, Except.ok.injEq] at answeredAgain
          subst answeredAgain
          exact atMost_of_amount told.2.2.1 dearerTold.2.2.1 (Int.sub_le_sub_right shares baseFee)

structure Sound (config : Config) (request : Request) (cache : GasPriceCache) : Prop where
  wellFormed : ∀ record, (getOptimalGasPrice config request cache).1 = .ok record → WellFormed record
  ordered : ∀ other otherCache, Fresh config other otherCache → Alike request other →
    rank (strategy config request) ≤ rank (strategy config other) → ∀ record dearer,
      (getOptimalGasPrice config request cache).1 = .ok record →
        (getOptimalGasPrice config other otherCache).1 = .ok dearer →
          Ordered request other record dearer

/-- The strategy's price covers the base fee that a forced conversion subtracts from it. -/
def Covered (config : Config) (request : Request) : Prop :=
  request.options.forceEIP1559 = true → ∀ gasPrice baseFee,
    fetch request.fetching = .ok (legacyRecords gasPrice) →
      getBaseFeePerGas request.converting = .ok baseFee →
        baseFee ≤ share (strategy config request) gasPrice

section Prices
variable {config : Config} {request : Request} {cache : GasPriceCache}

theorem ordered_of_fresh (fresh : Fresh config request cache) {other : Request}
    {otherCache : GasPriceCache} (otherFresh : Fresh config other otherCache) (alike : Alike request other)
    (le : rank (strategy config request) ≤ rank (strategy config other)) {record dearer : GasPriceData}
    (ok : (getOptimalGasPrice config request cache).1 = .ok record)
    (otherOk : (getOptimalGasPrice config other otherCache).1 = .ok dearer) :
    Ordered request other record dearer := by
  obtain ⟨market, positive, fetched⟩ := getOptimalGasPrice_market fresh ok
  obtain ⟨quote, quoted, told⟩ := getOptimalGasPrice_quoted fresh fetched ok
  rw [alike.fetching] at fetched
  obtain ⟨dearerQuote, dearerQuoted, dearerTold⟩ := getOptimalGasPrice_quoted otherFresh fetched otherOk
  exact ordered_of_quoted alike (percent_le_percent le) positive quoted told dearerQuoted dearerTold

theorem wellFormed_of_covered (fresh : Fresh config request cache) (covered : Covered config request)
    {record : GasPriceData} (ok : (getOptimalGasPrice config request cache).1 = .ok record) :
    WellFormed record := by
  obtain ⟨market, positive, fetched⟩ := getOptimalGasPrice_market fresh ok
  obtain ⟨quote, quoted, told⟩ := getOptimalGasPrice_quoted fresh fetched ok
  rw [wellFormed_iff told]
  cases quoted with
  | fees free =>
      exact ⟨share_nonneg _ positive.2, Int.le_add_of_nonneg_left positive.1⟩
  | toLegacy forced => exact Int.add_nonneg positive.1 (share_nonneg _ positive.2)
  | legacy free => exact share_nonneg _ positive
  | toEIP1559 forced answered =>
      have based := getBaseFeePerGas_nonneg fresh.converting answered
      have covers := covered forced _ _ fetched answered
      exact ⟨Int.sub_nonneg_of_le covers, Int.sub_le_self _ based⟩

theorem covered_of_wellFormed (fresh : Fresh config request cache)
    (wellFormed : ∀ record, (getOptimalGasPrice config request cache).1 = .ok record →
      WellFormed record) : Covered config request := by
  intro forced gasPrice baseFee fetched answered
  have quoted : Quoted request (strategy config request) (.legacy gasPrice) _ :=
    .toEIP1559 forced answered
  obtain ⟨record, converted, told⟩ := convert_of_quoted quoted
  have market : fetch request.fetching = .ok (Market.legacy gasPrice).records := fetched
  rw [← getOptimalGasPrice_fresh fresh market] at converted
  exact Int.le_of_sub_nonneg ((wellFormed_iff told).mp (wellFormed record converted)).1

/-- Prices are sound unless a forced conversion subtracts a base fee above the strategy's price. -/
theorem sound_iff (fresh : Fresh config request cache) :
    Sound config request cache ↔ Covered config request := by
  constructor
  · intro sound
    exact covered_of_wellFormed fresh sound.wellFormed
  · intro covered
    exact ⟨fun _ => wellFormed_of_covered fresh covered,
      fun _ _ otherFresh alike le _ _ => ordered_of_fresh fresh otherFresh alike le⟩

end Prices

/-! ## A slow price below the base fee -/

def troubledNetwork : Provider where
  getProvider := .ok ()
  getFeeData := .error (.ofMessage "timeout")
  getBlock := .ok (some 60)
  getGasPrice := .ok 100

theorem troubledNetwork_nonNegative : troubledNetwork.NonNegative := by
  constructor
  · intro feeData told
    cases told
  · intro feeData told
    cases told
  · intro fee told
    cases told
    decide
  · intro price told
    cases told
    decide

def emptyCache : GasPriceCache := ⟨0, []⟩

def slowFees : Request :=
  ⟨⟨some .slow, none, none, none, some (.finite 1), true, false⟩, 1001, troubledNetwork, troubledNetwork⟩

theorem fresh_slowFees : Fresh defaults slowFees emptyCache :=
  ⟨by decide, rfl, by decide, troubledNetwork_nonNegative, troubledNetwork_nonNegative⟩

theorem sound_slowFees : Sound defaults slowFees emptyCache ↔ Covered defaults slowFees :=
  sound_iff fresh_slowFees

/-- Half of the gas price is below the base fee. -/
theorem negative_priorityFee : (getOptimalGasPrice defaults slowFees emptyCache).1 =
      .ok ⟨.slow, none, some "50", some "-10", some "60", some 180, 2⟩ ∧
    ¬ Sound defaults slowFees emptyCache := by
  have returned : (getOptimalGasPrice defaults slowFees emptyCache).1 =
      .ok ⟨.slow, none, some "50", some "-10", some "60", some 180, 2⟩ := by decide +kernel
  refine ⟨returned, ?_⟩
  intro sound
  obtain ⟨maxFee, priorityFee, -, read, positive, -⟩ := (sound.wellFormed _ returned).fees rfl
  rw [show amount (some "-10") = some (-10) by decide +kernel, Option.some.injEq] at read
  subst read
  revert positive
  decide

end Kanaka.Backend.GasOptimizerService
