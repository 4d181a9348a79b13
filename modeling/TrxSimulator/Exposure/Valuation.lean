import TrxSimulator.Exposure.Limits

/-! The margin and the notionals that the broker's exposure and the equity snapshots take of open positions, beside
those of the trading engine. -/

namespace TrxSimulator.Exposure.Valuation

open Foundations.Tables Foundations.Decimals
open Market.Symbols Market.Pnl Trading.Writers Aggregation Limits

section Snapshots

variable (r : Arithmetic)

structure PositionData where
  total : ℚ := 0
  long : ℚ := 0
  short : ℚ := 0
  marginUsed : ℚ := 0
  count : ℕ := 0
deriving DecidableEq

abbrev LeverageByAccount := ℕ → Option ℕ

def leverageByAccount (b : Book) (accountIds : List ℕ) : LeverageByAccount := fun i =>
  if i ∈ accountIds then (b.accounts.get i).map fun holder => accountLeverage holder.leverage else none

def snapshotNotional (o : OpenPosition) : ℚ :=
  r.decimal (r.decimal (o.qty.value * contractSize o.symbol) * o.avgPrice.value)

/-- A symbol without a registered instrument caps nothing. -/
def snapshotLeverage (leverages : LeverageByAccount) (o : OpenPosition) : ℕ :=
  let leverage := accountLeverage ((leverages o.account).getD 0)
  max 1 (min leverage ((getSpec o.symbol).elim leverage SymbolSpec.maxLeverage))

def snapshotMargin (leverages : LeverageByAccount) (o : OpenPosition) : ℚ :=
  r.decimal (snapshotNotional r o / snapshotLeverage leverages o)

def PositionData.add (leverages : LeverageByAccount) (d : PositionData) (o : OpenPosition) : PositionData :=
  let d : PositionData :=
    { d with
      total := r.decimal (d.total + snapshotNotional r o)
      marginUsed := r.decimal (d.marginUsed + snapshotMargin r leverages o)
      count := d.count + 1 }
  match o.side with
  | .buy => { d with long := r.decimal (d.long + snapshotNotional r o) }
  | .sell => { d with short := r.decimal (d.short + snapshotNotional r o) }

def addToData (leverages : LeverageByAccount) (data : ℕ → Option PositionData) (o : OpenPosition) :
    ℕ → Option PositionData := fun i =>
  if i = o.account then some (((data i).getD {}).add r leverages o) else data i

def positionData (b : Book) (accountIds : List ℕ) (leverages : LeverageByAccount) : ℕ → Option PositionData :=
  (b.openPositions.filter fun o => o.account ∈ accountIds).foldl (addToData r leverages) fun _ => none

variable {r} {leverages : LeverageByAccount} {positions : List OpenPosition}

lemma margin_add (d : PositionData) (o : OpenPosition) :
    (d.add r leverages o).marginUsed = r.decimal (d.marginUsed + snapshotMargin r leverages o) := by
  rw [PositionData.add]
  cases o.side <;> rfl

lemma foldl_margin (positions : List OpenPosition) (i : ℕ) :
    ((positions.foldl (addToData r leverages) (fun _ => none) i).getD {}).marginUsed =
      running r (snapshotMargin r leverages) (positions.filter fun o => o.account = i) := by
  induction positions using List.reverseRecOn with
  | nil => rfl
  | append_singleton positions o ih =>
    rw [List.foldl_append, List.foldl_cons, List.foldl_nil, addToData, List.filter_append, List.filter_singleton]
    by_cases h : o.account = i
    · rw [if_pos h.symm, Option.getD_some, margin_add, ih, decide_eq_true h, cond_true, running_append]
    · rw [if_neg (Ne.symm h), ih, decide_eq_false h, cond_false, List.append_nil]

end Snapshots

section Engine

variable (holder : Holder)

def engineLeverage (spec : SymbolSpec) : ℕ := max 1 (min (max 1 holder.leverage) spec.maxLeverage)

def engineNotional (symbol : String) (price quantity : ℚ) : Option ℚ :=
  (calculateMarginNotionalAccountCurrency exact symbol price quantity (accountCurrency holder)).pnlAccount

/-- A position whose margin cannot be converted is left out of the engine's total. -/
def engineMargin (o : OpenPosition) : ℚ :=
  ((getSpec o.symbol).bind fun spec => calculateRequiredMargin exact o.symbol o.avgPrice.value o.qty.value
    (engineLeverage holder spec) (accountCurrency holder)).getD 0

def Convertible (symbol : String) : Prop :=
  ∃ spec, getSpec symbol = some spec ∧
    (spec.quoteCurrency = accountCurrency holder ∨ spec.baseCurrency = (accountCurrency holder).toList)

def InCurrency (symbol : String) : Prop :=
  ∃ spec, getSpec symbol = some spec ∧ spec.quoteCurrency = accountCurrency holder

end Engine

def own (b : Book) (i : ℕ) : List OpenPosition := b.openPositions.filter fun o => o.account = i

structure NewOrder where
  symbol : String
  side : Side
  qty : ℚ
  price : ℚ
  spec : SymbolSpec
  registered : getSpec symbol = some spec
  sized : 0 < qty
  quoted : 0 < price

def NewOrder.notional (o : NewOrder) : Option ℚ :=
  requestedNotional exact o.qty (some (.float o.price)) (some (.float o.spec.contractSize))

/-- What the exposure and the snapshots report of an account's positions, and what its new order adds, is what the
trading engine makes of them. -/
structure Agreement (b : Book) (feed : Feed) (i : ℕ) (holder : Holder) (order : NewOrder) : Prop where
  exposureMargin : (brokerExposureForAccount exact b feed i none).marginUsed = ((own b i).map (engineMargin holder)).sum
  entryMargin : (((brokerExposureSnapshot exact b feed none).byAccount i).getD {}).marginUsed =
    ((own b i).map (engineMargin holder)).sum
  dataMargin : ∀ accountIds, i ∈ accountIds →
    ((positionData exact b accountIds (leverageByAccount b accountIds) i).getD {}).marginUsed =
      ((own b i).map (engineMargin holder)).sum
  exposureNotional : ∀ o ∈ own b i, ∀ p, price exact feed o = some p →
    engineNotional holder o.symbol p o.qty.value = some (notional exact o p)
  dataNotional : ∀ o ∈ own b i,
    engineNotional holder o.symbol o.avgPrice.value o.qty.value = some (snapshotNotional exact o)
  orderNotional : engineNotional holder order.symbol order.price order.qty = order.notional

section Values

variable {holder : Holder} {symbol : String} {spec : SymbolSpec} {p q : ℚ}

lemma normalize_registered (h : getSpec symbol = some spec) : normalizeSymbol symbol = symbol := by
  have hall : ∀ spec ∈ registry, normalizeSymbol spec.symbol = spec.symbol := by decide +kernel
  rw [← symbol_of_getSpec h]
  exact hall spec (mem_of_getSpec h)

lemma contractSize_pos (h : getSpec symbol = some spec) : 0 < spec.contractSize :=
  (registry_bounds (mem_of_getSpec h)).1

lemma engineNotional_eq (hspec : getSpec symbol = some spec) (hconvertible : Convertible holder symbol) (hp : 0 < p)
    (hq : 0 < q) : engineNotional holder symbol p q =
      some (if spec.quoteCurrency = accountCurrency holder then q * p * spec.contractSize else q * spec.contractSize) := by
  obtain ⟨spec', hspec', hcurrency⟩ := hconvertible
  obtain rfl : spec = spec' := Option.some.inj (hspec.symm.trans hspec')
  have hsize := contractSize_pos hspec
  have habs : |p * q * spec.contractSize| = q * p * spec.contractSize := by
    rw [abs_of_pos (by positivity)]
    ring
  rw [engineNotional, calculateMarginNotionalAccountCurrency, normalize_registered hspec, hspec]
  change (convertPnlToAccountCurrency exact |p * q * spec.contractSize| spec _ p).pnlAccount = _
  rw [convertPnlToAccountCurrency, habs]
  by_cases hquote : spec.quoteCurrency = accountCurrency holder
  · rw [if_pos hquote, if_pos hquote]
  · rw [if_neg hquote, if_neg hquote, if_pos ⟨hcurrency.resolve_left hquote, hp.ne'⟩]
    change some (q * p * spec.contractSize / p) = _
    rw [mul_right_comm, mul_div_assoc, div_self hp.ne', mul_one]

lemma engineNotional_iff (hspec : getSpec symbol = some spec) (hconvertible : Convertible holder symbol) (hp : 0 < p)
    (hq : 0 < q) :
    engineNotional holder symbol p q = some (q * p * spec.contractSize) ↔ InCurrency holder symbol ∨ p = 1 := by
  have hsize := contractSize_pos hspec
  have hcurrency : InCurrency holder symbol ↔ spec.quoteCurrency = accountCurrency holder := by
    simp [InCurrency, hspec]
  rw [engineNotional_eq hspec hconvertible hp hq, hcurrency, Option.some.injEq]
  by_cases hquote : spec.quoteCurrency = accountCurrency holder
  · simp [hquote]
  · have hpositive : 0 < q * spec.contractSize := by positivity
    rw [if_neg hquote, or_iff_right hquote, mul_right_comm]
    constructor
    · intro h
      exact (mul_right_eq_self₀.mp h.symm).resolve_right hpositive.ne'
    · rintro rfl
      ring

end Values

section Margins

variable {b : Book} {feed : Feed} {i : ℕ} {holder : Holder} {o : OpenPosition} {spec : SymbolSpec}

lemma value_pos {digits scale : ℕ} {n : Numeric digits scale} (h : 0 < n.units) : 0 < n.value :=
  div_pos (by exact_mod_cast h) (by positivity)

lemma price_pos {p : ℚ} (h : price exact feed o = some p) : 0 < p := by
  rw [price, resolveSymbolPrice] at h
  split at h
  · rw [← Option.some.inj h]
    exact feed.live o.symbol
  · split at h
    · split at h
      · next row hrow =>
        split at h
        · rw [← Option.some.inj h]
          exact value_pos (feed.recorded o.symbol row hrow)
        · cases h
      · cases h
    · cases h

lemma own_facts (hholder : b.accounts.get i = some holder) (h : o ∈ own b i) :
    o.holder = holder ∧ o.account = i ∧ 0 < o.qty.value ∧ 0 < o.avgPrice.value := by
  rw [own, List.mem_filter, decide_eq_true_eq] at h
  obtain ⟨hrow, haccount⟩ := mem_openPositions h.1
  rw [h.2, hholder] at haccount
  obtain ⟨hqty, hprice⟩ := b.opened _ _ hrow
  exact ⟨(Option.some.inj haccount).symm, h.2, value_pos hqty, value_pos hprice⟩

lemma running_exact (f : OpenPosition → ℚ) (positions : List OpenPosition) :
    running exact f positions = (positions.map f).sum := by
  induction positions using List.reverseRecOn with
  | nil => rfl
  | append_singleton positions o ih =>
    rw [running_append, ih, List.map_append, List.sum_append, List.map_singleton, List.sum_singleton]
    rfl

lemma exposureMargin_eq : (brokerExposureForAccount exact b feed i none).marginUsed =
    ((own b i).map (positionMargin exact)).sum := by
  have hpositions : ({ accountId := some i } : Query).positions b = own b i :=
    List.filter_congr fun o _ => by simp [Query.admits]
  rw [brokerExposureForAccount, calculateBrokerExposure, totals_eq, hpositions]
  exact running_exact _ _

lemma entryMargin_eq : (((brokerExposureSnapshot exact b feed none).byAccount i).getD {}).marginUsed =
    ((own b i).map (positionMargin exact)).sum := by
  have hpositions : ({} : Query).positions b = b.openPositions :=
    List.filter_eq_self.mpr fun o _ => by simp [Query.admits]
  rw [brokerExposureSnapshot, calculateBrokerExposure]
  dsimp only
  rw [byAccount_totals, totals_eq, hpositions]
  exact running_exact _ _

lemma dataMargin_eq {accountIds : List ℕ} {leverages : LeverageByAccount} (h : i ∈ accountIds) :
    ((positionData exact b accountIds leverages i).getD {}).marginUsed =
      ((own b i).map (snapshotMargin exact leverages)).sum := by
  have hpositions : (b.openPositions.filter fun o => o.account ∈ accountIds).filter (fun o => o.account = i) =
      own b i := by
    rw [List.filter_filter, own]
    refine List.filter_congr fun o _ => ?_
    by_cases haccount : o.account = i <;> simp [haccount, h]
  rw [positionData, foldl_margin, hpositions]
  exact running_exact _ _

lemma contractSize_eq (hspec : getSpec o.symbol = some spec) : contractSize o.symbol = spec.contractSize := by
  rw [contractSize, hspec]
  rfl

lemma exposureLeverage_eq {leverage : ℕ} {symbol : String} (hspec : getSpec symbol = some spec) :
    positionLeverage leverage symbol = max 1 (min (accountLeverage leverage) spec.maxLeverage) := by
  have hpos : 1 ≤ accountLeverage leverage := by
    rw [accountLeverage]
    split <;> omega
  rw [positionLeverage, hspec]
  dsimp only
  rw [max_eq_right hpos]

lemma snapshotLeverage_eq {accountIds : List ℕ} (hspec : getSpec o.symbol = some spec) (hi : o.account ∈ accountIds)
    (hholder : b.accounts.get o.account = some holder) :
    snapshotLeverage (leverageByAccount b accountIds) o =
      max 1 (min (accountLeverage holder.leverage) spec.maxLeverage) := by
  have htwice : accountLeverage (accountLeverage holder.leverage) = accountLeverage holder.leverage := by
    simp only [accountLeverage]
    split <;> simp_all
  rw [snapshotLeverage, hspec, leverageByAccount, if_pos hi, hholder]
  dsimp only [Option.map_some, Option.getD_some, Option.elim_some]
  rw [htwice]

def positionValue (o : OpenPosition) : ℚ := o.qty.value * o.avgPrice.value * contractSize o.symbol

def reportedLeverage (holder : Holder) (spec : SymbolSpec) : ℕ :=
  max 1 (min (accountLeverage holder.leverage) spec.maxLeverage)

lemma positionValue_pos (hholder : b.accounts.get i = some holder) (h : o ∈ own b i)
    (hspec : getSpec o.symbol = some spec) : 0 < positionValue o := by
  obtain ⟨-, -, hqty, hprice⟩ := own_facts hholder h
  have hsize := contractSize_pos hspec
  rw [positionValue, contractSize_eq hspec]
  positivity

lemma positionMargin_eq (hholder : b.accounts.get i = some holder) (h : o ∈ own b i)
    (hspec : getSpec o.symbol = some spec) :
    positionMargin exact o = positionValue o / reportedLeverage holder spec := by
  have hpos := positionValue_pos hholder h hspec
  rw [positionMargin, (own_facts hholder h).1, exposureLeverage_eq hspec, reportedLeverage]
  change |o.avgPrice.value * o.qty.value * contractSize o.symbol| / _ = _
  rw [mul_comm o.avgPrice.value, ← positionValue, abs_of_pos hpos]

lemma snapshotMargin_eq {accountIds : List ℕ} (hi : i ∈ accountIds) (hholder : b.accounts.get i = some holder)
    (h : o ∈ own b i) (hspec : getSpec o.symbol = some spec) :
    snapshotMargin exact (leverageByAccount b accountIds) o = positionValue o / reportedLeverage holder spec := by
  obtain ⟨-, haccount, -, -⟩ := own_facts hholder h
  rw [← haccount] at hi hholder
  rw [snapshotMargin, snapshotLeverage_eq hspec hi hholder, reportedLeverage, positionValue, mul_right_comm]
  rfl

lemma engineMargin_eq (hholder : b.accounts.get i = some holder) (h : o ∈ own b i)
    (hspec : getSpec o.symbol = some spec)
    (hvalue : engineNotional holder o.symbol o.avgPrice.value o.qty.value = some (positionValue o)) :
    engineMargin holder o = positionValue o / engineLeverage holder spec := by
  have hpos := positionValue_pos hholder h hspec
  have hfloor : max 1 (engineLeverage holder spec) = engineLeverage holder spec := max_eq_right (le_max_left 1 _)
  rw [engineNotional] at hvalue
  rw [engineMargin, hspec, Option.bind_some, calculateRequiredMargin, hvalue, Option.map_some, Option.getD_some,
    abs_of_pos hpos, hfloor]
  rfl

end Margins

/-- The symbol is quoted in the account's currency, or it stands at par. -/
def AtPar (holder : Holder) (symbol : String) (price : ℚ) : Prop := InCurrency holder symbol ∨ price = 1

section Agreement

variable {b : Book} {feed : Feed} {i : ℕ} {holder : Holder} {o : OpenPosition}

lemma exposureNotional_iff {p : ℚ} (hholder : b.accounts.get i = some holder) (h : o ∈ own b i)
    (hconvertible : Convertible holder o.symbol) (hp : 0 < p) :
    engineNotional holder o.symbol p o.qty.value = some (notional exact o p) ↔ AtPar holder o.symbol p := by
  obtain ⟨spec, hspec, -⟩ := id hconvertible
  obtain ⟨-, -, hqty, -⟩ := own_facts hholder h
  have hnotional : notional exact o p = o.qty.value * p * spec.contractSize := by
    rw [notional, contractSize_eq hspec]
    rfl
  rw [hnotional, engineNotional_iff hspec hconvertible hp hqty, AtPar]

lemma dataNotional_iff (hholder : b.accounts.get i = some holder) (h : o ∈ own b i)
    (hconvertible : Convertible holder o.symbol) :
    engineNotional holder o.symbol o.avgPrice.value o.qty.value = some (snapshotNotional exact o) ↔
      AtPar holder o.symbol o.avgPrice.value := by
  have hnotional : snapshotNotional exact o = notional exact o o.avgPrice.value := mul_right_comm _ _ _
  rw [hnotional, exposureNotional_iff hholder h hconvertible (own_facts hholder h).2.2.2]

lemma orderNotional_iff {order : NewOrder} (hconvertible : Convertible holder order.symbol) :
    engineNotional holder order.symbol order.price order.qty = order.notional ↔
      AtPar holder order.symbol order.price :=
  engineNotional_iff order.registered hconvertible order.quoted order.sized

lemma margins_agree_iff (hholder : b.accounts.get i = some holder)
    (hvalue : ∀ o ∈ own b i, ∃ spec, getSpec o.symbol = some spec ∧
      engineNotional holder o.symbol o.avgPrice.value o.qty.value = some (positionValue o)) :
    ((own b i).map (positionMargin exact)).sum = ((own b i).map (engineMargin holder)).sum ↔
      (holder.leverage = 0 → own b i = []) := by
  constructor
  · intro hsum hzero
    by_contra hne
    refine hsum.not_lt (List.sum_lt_sum_of_ne_nil hne _ _ fun o ho => ?_)
    obtain ⟨spec, hspec, hnotional⟩ := hvalue o ho
    have hcap : 10 ≤ spec.maxLeverage := by
      have hall : ∀ spec ∈ registry, 10 ≤ spec.maxLeverage := by decide +kernel
      exact hall spec (mem_of_getSpec hspec)
    have hreported : 10 ≤ reportedLeverage holder spec := by
      rw [reportedLeverage, hzero, accountLeverage, if_pos rfl]
      omega
    have hengine : engineLeverage holder spec = 1 := by
      rw [engineLeverage, hzero]
      omega
    rw [positionMargin_eq hholder ho hspec, engineMargin_eq hholder ho hspec hnotional, hengine, Nat.cast_one, div_one]
    apply div_lt_self (positionValue_pos hholder ho hspec)
    exact_mod_cast (by omega : 1 < reportedLeverage holder spec)
  · intro hleverage
    congr 1
    refine List.map_congr_left fun o ho => ?_
    obtain ⟨spec, hspec, hnotional⟩ := hvalue o ho
    have hnonzero : holder.leverage ≠ 0 := fun hzero => by simp [hleverage hzero] at ho
    have hsame : reportedLeverage holder spec = engineLeverage holder spec := by
      rw [reportedLeverage, engineLeverage, accountLeverage, if_neg hnonzero]
      omega
    rw [positionMargin_eq hholder ho hspec, engineMargin_eq hholder ho hspec hnotional, hsame]

end Agreement

/-- Exposure and snapshots agree with the trading engine on an account exactly if all it holds and orders is quoted
in its currency or stands at par, and its leverage is not the zero that they read as fifty. -/
theorem valuations_agree_iff (b : Book) (feed : Feed) (i : ℕ) (holder : Holder) (order : NewOrder)
    (hholder : b.accounts.get i = some holder) (hconvertible : ∀ o ∈ own b i, Convertible holder o.symbol)
    (horder : Convertible holder order.symbol) :
    Agreement b feed i holder order ↔
      (holder.leverage = 0 → own b i = []) ∧
        (∀ o ∈ own b i, AtPar holder o.symbol o.avgPrice.value ∧
          ∀ p, price exact feed o = some p → AtPar holder o.symbol p) ∧
        AtPar holder order.symbol order.price := by
  have hvalue (hdata : ∀ o ∈ own b i,
      engineNotional holder o.symbol o.avgPrice.value o.qty.value = some (snapshotNotional exact o)) :
      ∀ o ∈ own b i, ∃ spec, getSpec o.symbol = some spec ∧
        engineNotional holder o.symbol o.avgPrice.value o.qty.value = some (positionValue o) := by
    intro o ho
    obtain ⟨spec, hspec, -⟩ := hconvertible o ho
    refine ⟨spec, hspec, (hdata o ho).trans (congrArg some ?_)⟩
    exact mul_right_comm _ _ _
  constructor
  · intro h
    refine ⟨(margins_agree_iff hholder (hvalue h.dataNotional)).mp (exposureMargin_eq.symm.trans h.exposureMargin),
      fun o ho => ⟨(dataNotional_iff hholder ho (hconvertible o ho)).mp (h.dataNotional o ho), fun p hp => ?_⟩,
      (orderNotional_iff horder).mp h.orderNotional⟩
    exact (exposureNotional_iff hholder ho (hconvertible o ho) (price_pos hp)).mp (h.exposureNotional o ho p hp)
  · rintro ⟨hleverage, hpar, hpar'⟩
    have hdata : ∀ o ∈ own b i,
        engineNotional holder o.symbol o.avgPrice.value o.qty.value = some (snapshotNotional exact o) :=
      fun o ho => (dataNotional_iff hholder ho (hconvertible o ho)).mpr (hpar o ho).1
    have hmargins := (margins_agree_iff hholder (hvalue hdata)).mpr hleverage
    refine ⟨exposureMargin_eq.trans hmargins, entryMargin_eq.trans hmargins, fun accountIds hi => ?_,
      fun o ho p hp => ?_, hdata, (orderNotional_iff horder).mpr hpar'⟩
    · rw [dataMargin_eq hi, ← hmargins]
      congr 1
      refine List.map_congr_left fun o ho => ?_
      obtain ⟨spec, hspec, -⟩ := hconvertible o ho
      rw [snapshotMargin_eq hi hholder ho hspec, positionMargin_eq hholder ho hspec]
    · exact (exposureNotional_iff hholder ho (hconvertible o ho) (price_pos hp)).mpr ((hpar o ho).2 p hp)

section Example

def dollars : Holder := ⟨.retail, 100, "USD"⟩

def oneLot (symbol : String) : Position where
  account := 0
  symbol := symbol
  side := .buy
  qty := ⟨1000000, by decide⟩
  avgPrice := ⟨150000000, by decide⟩

def single (symbol : String) : Book where
  accounts := Table.ofList [dollars]
  positions := Table.ofList [some (oneLot symbol)]
  decisions := []
  keys := by norm_num [Table.ofList]
  owned i p h := by
    obtain rfl : p = oneLot symbol := by simpa using Table.mem_of_ofList h
    rfl
  opened i p h := by
    obtain rfl : p = oneLot symbol := by simpa using Table.mem_of_ofList h
    exact ⟨(by decide : (0 : ℤ) < 1000000), (by decide : (0 : ℤ) < 150000000)⟩

lemma quote_positive (_ : String) : (0 : ℚ) < 150 := by norm_num

lemma nothing_recorded (_ : String) (row : LastKnownMarketPrice) (h : none = some row) : 0 < row.mid.units := by
  cases h

def silent : Feed where
  hasPrice _ := false
  lastPrice _ := 150
  orderPolicy _ := .openNormal
  lastKnown _ := none
  live := quote_positive
  recorded := nothing_recorded

lemma symbol_single {symbol : String} {o : OpenPosition} (h : o ∈ own (single symbol) 0) : o.symbol = symbol := by
  obtain ⟨hrow, -⟩ := mem_openPositions (List.mem_filter.mp h).1
  have hposition : o.toPosition = oneLot symbol := by simpa using Table.mem_of_ofList hrow
  rw [hposition]
  rfl

def orderAt (price : ℚ) (quoted : 0 < price) : NewOrder where
  symbol := "EUR/USD"
  side := .buy
  qty := 1
  price := price
  spec := forex "EUR/USD" "USD" (1 / 10000) 5 true
  registered := by decide +kernel
  sized := by norm_num
  quoted := quoted

theorem valuations_agree_iff_euro :
    Agreement (single "EUR/USD") silent 0 dollars (orderAt (11 / 10) (by norm_num)) := by
  have hcurrency : InCurrency dollars "EUR/USD" := ⟨forex "EUR/USD" "USD" (1 / 10000) 5 true, by decide +kernel, rfl⟩
  have hconvertible : Convertible dollars "EUR/USD" := hcurrency.imp fun spec => And.imp_right Or.inl
  refine (valuations_agree_iff (single "EUR/USD") silent 0 dollars (orderAt (11 / 10) (by norm_num)) rfl
    (fun o ho => ?_) hconvertible).mpr
    ⟨fun h => (nomatch h), fun o ho => ⟨Or.inl ?_, fun p hp => Or.inl ?_⟩, Or.inl hcurrency⟩
  · rw [symbol_single ho]
    exact hconvertible
  · rw [symbol_single ho]
    exact hcurrency
  · rw [symbol_single ho]
    exact hcurrency

/-- One lot at 150 yen to the dollar, at leverage 100: a margin of 150000 is reported where 1000 dollars are held. -/
theorem yen_margin_unconverted :
    (brokerExposureForAccount exact (single "USD/JPY") silent 0 none).marginUsed = 150000 ∧
      ((own (single "USD/JPY") 0).map (engineMargin dollars)).sum = 1000 ∧
      ¬ Agreement (single "USD/JPY") silent 0 dollars (orderAt (11 / 10) (by norm_num)) := by
  have hreported : (brokerExposureForAccount exact (single "USD/JPY") silent 0 none).marginUsed = 150000 := by
    decide +kernel
  have hengine : ((own (single "USD/JPY") 0).map (engineMargin dollars)).sum = 1000 := by decide +kernel
  refine ⟨hreported, hengine, fun h => ?_⟩
  have hsame := h.exposureMargin
  rw [hreported, hengine] at hsame
  norm_num at hsame

end Example

end TrxSimulator.Exposure.Valuation
