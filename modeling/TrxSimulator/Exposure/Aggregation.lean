import TrxSimulator.Market.Pnl

/-! The book of open positions of the whole broker, and the one aggregation that reads exposure, margin and pricing
coverage off it. -/

namespace TrxSimulator.Exposure.Aggregation

open Foundations.Tables Foundations.Decimals Accounts
open Market.Symbols Market.Pnl Trading.Writers

structure Holder where
  accountType : AccountType
  leverage : ℕ
  currency : String
deriving DecidableEq

structure DealingDeskDecision where
  isSimulatedHedge : Bool
  routedAccount : Option ℕ
  position : Option ℕ
deriving DecidableEq

/-- Keys are 64-bit, a position has an account, and what is open has a size and a price. -/
structure Book where
  accounts : Table Holder
  positions : Table (Option Position)
  decisions : List DealingDeskDecision
  keys : positions.next ≤ 2 ^ 63
  owned : ∀ i p, positions.get i = some (some p) → (accounts.get p.account).isSome
  opened : ∀ i p, positions.get i = some (some p) → 0 < p.qty.units ∧ 0 < p.avgPrice.units

structure OpenPosition extends Position where
  id : ℕ
  holder : Holder
deriving DecidableEq

def Book.openPositions (b : Book) : List OpenPosition :=
  b.positions.rows.filterMap fun (id, row) => do
    let p ← row
    let holder ← b.accounts.get p.account
    pure { toPosition := p, id, holder }

section Prices

inductive OrderPolicy
  | openNormal | closeOnly | haltNewOrders | marketClosed
deriving DecidableEq

structure LastKnownMarketPrice where
  mid : Numeric 18 6
  source : String
deriving DecidableEq

def validSources : List String := ["massive", "binance", "kraken", "finnhub"]

/-- What the feed manager, the market sessions and the durable rows say of each symbol at one moment. -/
structure Feed where
  hasPrice : String → Bool
  lastPrice : String → ℚ
  orderPolicy : String → OrderPolicy
  lastKnown : String → Option LastKnownMarketPrice
  live : ∀ symbol, 0 < lastPrice symbol
  recorded : ∀ symbol row, lastKnown symbol = some row → 0 < row.mid.units

inductive PriceStatus
  | fresh | marketClosedFrozen | stale | unavailable
deriving DecidableEq

variable (r : Arithmetic)

def resolveSymbolPrice (feed : Feed) (symbol : String) : Option ℚ × PriceStatus :=
  if feed.hasPrice symbol then (some (r.str (feed.lastPrice symbol)), .fresh)
  else if feed.orderPolicy symbol = .marketClosed then
    match feed.lastKnown symbol with
    | some row =>
      if row.source ∈ validSources then (some row.mid.value, .marketClosedFrozen) else (none, .unavailable)
    | none => (none, .unavailable)
  else (none, .stale)

def price (feed : Feed) (o : OpenPosition) : Option ℚ := (resolveSymbolPrice r feed o.symbol).1

end Prices

section Positions

variable (r : Arithmetic)

/-- A symbol without a registered instrument counts one unit to the lot. -/
def contractSize (symbol : String) : ℚ := (getSpec symbol).elim 1 SymbolSpec.contractSize

def accountLeverage (leverage : ℕ) : ℕ := if leverage = 0 then 50 else leverage

def positionLeverage (leverage : ℕ) (symbol : String) : ℕ :=
  match getSpec symbol with
  | some spec => max 1 (min (max 1 (accountLeverage leverage)) spec.maxLeverage)
  | none => max 1 (accountLeverage leverage)

def positionMargin (o : OpenPosition) : ℚ :=
  r.decimal (|r.decimal (r.decimal (o.avgPrice.value * o.qty.value) * contractSize o.symbol)| /
    positionLeverage o.holder.leverage o.symbol)

def notional (o : OpenPosition) (price : ℚ) : ℚ := r.decimal (r.decimal (o.qty.value * price) * contractSize o.symbol)

def accountCurrency (holder : Holder) : String := if holder.currency = "" then "USD" else holder.currency

def unrealizedPnl (o : OpenPosition) (price : ℚ) : ℚ :=
  (calculatePositionPnl r o.side o.avgPrice.value price o.qty.value o.symbol (accountCurrency o.holder)).pnlAccount.getD 0

def signedQuantity (side : Side) (qty : ℚ) : ℚ :=
  match side with
  | .buy => qty
  | .sell => r.decimal (-qty)

end Positions

section Aggregation

variable (r : Arithmetic)

structure Totals where
  longQuantity : ℚ := 0
  shortQuantity : ℚ := 0
  longNotional : ℚ := 0
  shortNotional : ℚ := 0
  traderUnrealizedPnl : ℚ := 0
  marginUsed : ℚ := 0
  pricedPositionCount : ℕ := 0
  unpricedPositionCount : ℕ := 0
deriving DecidableEq

def Totals.addQuantity (t : Totals) (o : OpenPosition) : Totals :=
  match o.side with
  | .buy => { t with longQuantity := r.decimal (t.longQuantity + o.qty.value) }
  | .sell => { t with shortQuantity := r.decimal (t.shortQuantity + o.qty.value) }

def Totals.addNotional (t : Totals) (o : OpenPosition) (price : ℚ) : Totals :=
  match o.side with
  | .buy => { t with longNotional := r.decimal (t.longNotional + notional r o price) }
  | .sell => { t with shortNotional := r.decimal (t.shortNotional + notional r o price) }

/-- A position that has no price adds its quantity and its margin only. -/
def Totals.add (feed : Feed) (t : Totals) (o : OpenPosition) : Totals :=
  let t := t.addQuantity r o
  let t := { t with marginUsed := r.decimal (t.marginUsed + positionMargin r o) }
  match price r feed o with
  | none => { t with unpricedPositionCount := t.unpricedPositionCount + 1 }
  | some price =>
    let t := { t with pricedPositionCount := t.pricedPositionCount + 1 }
    let t := t.addNotional r o price
    { t with traderUnrealizedPnl := r.decimal (t.traderUnrealizedPnl + unrealizedPnl r o price) }

structure AccountExposureBreakdown extends Totals where
  positionCount : ℕ := 0
  grossQuantity : ℚ := 0
  netQuantity : ℚ := 0
  grossNotional : ℚ := 0
  netNotional : ℚ := 0
deriving DecidableEq

def AccountExposureBreakdown.add (feed : Feed) (ab : AccountExposureBreakdown) (o : OpenPosition) :
    AccountExposureBreakdown where
  toTotals := ab.toTotals.add r feed o
  positionCount := ab.positionCount + 1
  grossQuantity := r.decimal (ab.grossQuantity + o.qty.value)
  netQuantity := r.decimal (ab.netQuantity + signedQuantity r o.side o.qty.value)
  grossNotional := (price r feed o).elim ab.grossNotional fun price => r.decimal (ab.grossNotional + notional r o price)
  netNotional := (price r feed o).elim ab.netNotional fun price =>
    r.decimal (ab.netNotional + signedQuantity r o.side (notional r o price))

abbrev ByAccount := ℕ → Option AccountExposureBreakdown

def addToAccount (feed : Feed) (byAccount : ByAccount) (o : OpenPosition) : ByAccount := fun i =>
  if i = o.account then some (((byAccount i).getD {}).add r feed o) else byAccount i

def pricingCoveragePct (priced positions : ℕ) : ℚ :=
  if positions = 0 then 100 else scaled 2 (quantize 2 (r.decimal (r.decimal (priced / positions) * 100)))

inductive RiskScope
  | real
deriving DecidableEq

def realMoneyAccountTypes : List AccountType := [.retail, .ecn, .standard, .crypto]

structure Query where
  accountId : Option ℕ := none
  symbol : Option String := none
  excludePositionIds : List ℕ := []
  riskScope : Option RiskScope := none
deriving DecidableEq

def Query.admits (q : Query) (o : OpenPosition) : Bool :=
  decide (∀ i ∈ q.accountId, o.account = i) && decide (∀ s ∈ q.symbol, o.symbol = s) &&
    decide (q.riskScope = some .real → o.holder.accountType ∈ realMoneyAccountTypes) &&
    decide (o.id ∉ q.excludePositionIds)

def Query.positions (q : Query) (b : Book) : List OpenPosition := b.openPositions.filter q.admits

structure BrokerExposureBreakdown where
  openPositionCount : ℕ
  longQuantity : ℚ
  shortQuantity : ℚ
  grossQuantity : ℚ
  netQuantity : ℚ
  longNotional : ℚ
  shortNotional : ℚ
  grossNotional : ℚ
  netNotional : ℚ
  traderUnrealizedPnl : ℚ
  brokerUnrealizedCounterpartyPnl : ℚ
  marginUsed : ℚ
  pricedPositionCount : ℕ
  unpricedPositionCount : ℕ
  pricingCoveragePct : ℚ
  byAccount : ByAccount

def totals (feed : Feed) (positions : List OpenPosition) : Totals := positions.foldl (Totals.add r feed) {}

def calculateBrokerExposure (b : Book) (feed : Feed) (q : Query) : BrokerExposureBreakdown :=
  let positions := q.positions b
  let t := totals r feed positions
  { openPositionCount := positions.length
    longQuantity := t.longQuantity
    shortQuantity := t.shortQuantity
    grossQuantity := r.decimal (t.longQuantity + t.shortQuantity)
    netQuantity := r.decimal (t.longQuantity - t.shortQuantity)
    longNotional := t.longNotional
    shortNotional := t.shortNotional
    grossNotional := r.decimal (t.longNotional + t.shortNotional)
    netNotional := r.decimal (t.longNotional - t.shortNotional)
    traderUnrealizedPnl := t.traderUnrealizedPnl
    brokerUnrealizedCounterpartyPnl := r.decimal (-t.traderUnrealizedPnl)
    marginUsed := t.marginUsed
    pricedPositionCount := t.pricedPositionCount
    unpricedPositionCount := t.unpricedPositionCount
    pricingCoveragePct := pricingCoveragePct r t.pricedPositionCount positions.length
    byAccount := positions.foldl (addToAccount r feed) fun _ => none }

def brokerExposureForSymbol (b : Book) (feed : Feed) (symbol : String) (riskScope : Option RiskScope) :
    BrokerExposureBreakdown :=
  calculateBrokerExposure r b feed { symbol := some symbol, riskScope }

def brokerExposureForAccount (b : Book) (feed : Feed) (accountId : ℕ) (riskScope : Option RiskScope) :
    BrokerExposureBreakdown :=
  calculateBrokerExposure r b feed { accountId := some accountId, riskScope }

def brokerExposureSnapshot (b : Book) (feed : Feed) (riskScope : Option RiskScope) : BrokerExposureBreakdown :=
  calculateBrokerExposure r b feed { riskScope }

end Aggregation

section Sums

variable (r : Arithmetic)

/-- A sum taken from the left, rounded at each step. -/
def running (f : OpenPosition → ℚ) (positions : List OpenPosition) : ℚ :=
  positions.foldl (fun total o => r.decimal (total + f o)) 0

def lots (side : Side) (positions : List OpenPosition) : ℚ :=
  running r (fun o => o.qty.value) (positions.filter fun o => o.side = side)

def pricedNotional (feed : Feed) (o : OpenPosition) : ℚ := (price r feed o).elim 0 (notional r o)

def notionals (feed : Feed) (side : Side) (positions : List OpenPosition) : ℚ :=
  running r (pricedNotional r feed) (positions.filter fun o => o.side = side ∧ (price r feed o).isSome)

def pricedPnl (feed : Feed) (o : OpenPosition) : ℚ := (price r feed o).elim 0 (unrealizedPnl r o)

variable {r} {feed : Feed} {positions : List OpenPosition} {o : OpenPosition}

@[simp] lemma running_nil (f : OpenPosition → ℚ) : running r f [] = 0 := rfl

@[simp] lemma running_append (f : OpenPosition → ℚ) :
    running r f (positions ++ [o]) = r.decimal (running r f positions + f o) := by
  simp [running]

lemma lots_append (side : Side) :
    lots r side (positions ++ [o]) =
      if o.side = side then r.decimal (lots r side positions + o.qty.value) else lots r side positions := by
  by_cases h : o.side = side <;> simp [lots, h]

lemma notionals_append (side : Side) :
    notionals r feed side (positions ++ [o]) =
      if o.side = side ∧ (price r feed o).isSome then
        r.decimal (notionals r feed side positions + pricedNotional r feed o)
      else notionals r feed side positions := by
  by_cases h : o.side = side ∧ (price r feed o).isSome
  · simp [notionals, h]
  · rw [if_neg h, notionals, List.filter_append, List.filter_singleton]
    simp [notionals, h]

lemma totals_append : totals r feed (positions ++ [o]) = (totals r feed positions).add r feed o := by
  simp [totals]

lemma totals_eq (r : Arithmetic) (feed : Feed) (positions : List OpenPosition) :
    totals r feed positions =
      { longQuantity := lots r .buy positions
        shortQuantity := lots r .sell positions
        longNotional := notionals r feed .buy positions
        shortNotional := notionals r feed .sell positions
        traderUnrealizedPnl := running r (pricedPnl r feed) (positions.filter fun o => (price r feed o).isSome)
        marginUsed := running r (positionMargin r) positions
        pricedPositionCount := positions.countP fun o => (price r feed o).isSome
        unpricedPositionCount := positions.countP fun o => (price r feed o).isNone } := by
  induction positions using List.reverseRecOn with
  | nil => rfl
  | append_singleton positions o ih =>
    rw [totals_append, ih, Totals.add, Totals.addQuantity]
    cases hside : o.side <;> cases hprice : price r feed o <;>
      simp [Totals.addNotional, lots_append, notionals_append, pricedNotional, pricedPnl, hside, hprice]

lemma byAccount_append (i : ℕ) :
    (positions ++ [o]).foldl (addToAccount r feed) (fun _ => none) i =
      if i = o.account then
        some (((positions.foldl (addToAccount r feed) (fun _ => none) i).getD {}).add r feed o)
      else positions.foldl (addToAccount r feed) (fun _ => none) i := by
  simp only [List.foldl_append, List.foldl_cons, List.foldl_nil]
  rfl

lemma byAccount_totals (positions : List OpenPosition) (i : ℕ) :
    ((positions.foldl (addToAccount r feed) (fun _ => none) i).getD {}).toTotals =
      totals r feed (positions.filter fun o => o.account = i) := by
  induction positions using List.reverseRecOn with
  | nil => rfl
  | append_singleton positions o ih =>
    rw [byAccount_append, List.filter_append, List.filter_singleton]
    by_cases h : o.account = i
    · rw [if_pos h.symm, decide_eq_true h, cond_true, totals_append, ← ih]
      rfl
    · rw [if_neg (Ne.symm h), decide_eq_false h, cond_false, List.append_nil, ih]

end Sums

section Rows

variable {b : Book}

lemma openPositions_map (b : Book) :
    b.openPositions.map OpenPosition.toPosition = b.positions.rows.filterMap Prod.snd := by
  rw [Book.openPositions, List.map_filterMap]
  apply List.filterMap_congr
  rintro ⟨i, row⟩ hrow
  cases row with
  | none => rfl
  | some p =>
    obtain ⟨holder, hholder⟩ := Option.isSome_iff_exists.mp (b.owned i p (Table.mem_rows.mp hrow))
    simp [hholder]

lemma mem_openPositions {o : OpenPosition} (h : o ∈ b.openPositions) :
    b.positions.get o.id = some (some o.toPosition) ∧ b.accounts.get o.account = some o.holder := by
  obtain ⟨⟨i, row⟩, hrow, ho⟩ := List.mem_filterMap.mp h
  cases row with
  | none => simp at ho
  | some p =>
    simp only [Option.bind_eq_bind, Option.bind_some, Option.bind_eq_some_iff, Option.pure_def, Option.some.injEq] at ho
    obtain ⟨holder, hholder, rfl⟩ := ho
    exact ⟨Table.mem_rows.mp hrow, hholder⟩

lemma length_openPositions (b : Book) : b.openPositions.length ≤ 2 ^ 63 := by
  calc b.openPositions.length ≤ b.positions.rows.length := List.length_filterMap_le _ _
    _ ≤ (List.range b.positions.next).length := List.length_filterMap_le _ _
    _ ≤ 2 ^ 63 := by
      rw [List.length_range]
      exact b.keys

end Rows

end TrxSimulator.Exposure.Aggregation
