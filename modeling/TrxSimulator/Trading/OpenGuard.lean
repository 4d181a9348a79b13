import TrxSimulator.Exposure.Admission
import TrxSimulator.Risk.Sweeps

/-! The guard that decides an order under the locks: the margin and the equity taken afresh from the locked rows, the
limits of the account's product, and the reasons for a refusal. -/

namespace TrxSimulator.Trading.OpenGuard

open Foundations.Outcomes Foundations.Decimals Accounts Challenges.Evaluation
open Market.Symbols Market.Pnl Exposure.Aggregation Exposure.Limits Exposure.Admission
open Writers (Side Position TradeError)
open Risk.Sweeps (blocked)
open Risk.Liquidation (unrealizedPnl)

/-- The columns of an account's row that only the opening of orders reads. -/
structure AccountTerms where
  tier : Option Tier
  status : AccountStatus
  leverage : ℕ
  currency : String
  nettingMode : Bool
  allowedSymbols : Option (List String)
  maxLotSize : Option (Numeric 10 2)
  marginCallLevel : Option (Numeric 5 2)
  maxMarginPerTradePct : Option (Numeric 5 2)
  maxTotalMarginPct : Option (Numeric 5 2)
deriving DecidableEq

structure AccountSnap where
  leverage : ℕ
  allowedSymbols : Option (List String)
  maxLotSize : Option ℚ
  marginCallLevel : Option ℚ
  maxMarginPerTradePct : ℚ
  maxTotalMarginPct : ℚ
deriving DecidableEq

inductive GuardCode
  | accountBlocked
  | lotSize (e : LotError)
  | maxPositions
  | marginCurrencyConversionUnavailable
  | symbolNotAllowed
  | lotSizeExceedsProductLimit
  | marginPerTradeExceeded
  | totalMarginExceeded
  | marginCallLevelBreach
deriving DecidableEq

inductive RejectCode
  | accountNotFound
  | goldNotAllowed
  | marketPriceUnavailable
  | guard (code : GuardCode)
  | limits (reason : Option ReasonCode)
deriving DecidableEq

def GuardCode.text : GuardCode → String
  | .accountBlocked => "account_blocked"
  | .lotSize .minQtyViolation => "min_qty_violation"
  | .lotSize .lotStepViolation => "lot_step_violation"
  | .maxPositions => "max_positions"
  | .marginCurrencyConversionUnavailable => "margin_currency_conversion_unavailable"
  | .symbolNotAllowed => "symbol_not_allowed"
  | .lotSizeExceedsProductLimit => "lot_size_exceeds_product_limit"
  | .marginPerTradeExceeded => "margin_per_trade_exceeded"
  | .totalMarginExceeded => "total_margin_exceeded"
  | .marginCallLevelBreach => "margin_call_level_breach"

def ruleName : Rule → String
  | .maxSymbolExposure => "MAX_SYMBOL_EXPOSURE"
  | .maxAccountExposure => "MAX_ACCOUNT_EXPOSURE"
  | .maxTotalBrokerExposure => "MAX_TOTAL_BROKER_EXPOSURE"
  | .maxLongExposure => "MAX_LONG_EXPOSURE"
  | .maxShortExposure => "MAX_SHORT_EXPOSURE"
  | .maxGrossNotional => "MAX_GROSS_NOTIONAL"
  | .maxNetNotional => "MAX_NET_NOTIONAL"
  | .maxPositionSize => "MAX_POSITION_SIZE"
  | .maxOpenPositionsBrokerWide => "MAX_OPEN_POSITIONS_BROKER_WIDE"

def reasonText : Option ReasonCode → String
  | some (.limit rule) => ruleName rule
  | some .riskPricingIncomplete => "RISK_PRICING_INCOMPLETE"
  | none => ""

def RejectCode.text : RejectCode → String
  | .accountNotFound => "account_not_found"
  | .goldNotAllowed => "symbol_not_allowed"
  | .marketPriceUnavailable => "market_price_unavailable"
  | .guard code => code.text
  | .limits reason => reasonText reason

variable (r : Arithmetic)

section Snapshots

/-- A connection's copy takes a zero for a missing value. -/
def orDefault (default : ℚ) : Option (Numeric 5 2) → ℚ
  | some x => if x.units = 0 then default else r.float x.value
  | none => default

def AccountTerms.hydrated (t : AccountTerms) : AccountSnap where
  leverage := t.leverage
  allowedSymbols := t.allowedSymbols
  maxLotSize := t.maxLotSize.map fun x => r.float x.value
  marginCallLevel := some (orDefault r 100 t.marginCallLevel)
  maxMarginPerTradePct := orDefault r 10 t.maxMarginPerTradePct
  maxTotalMarginPct := orDefault r 50 t.maxTotalMarginPct

def AccountTerms.snap (t : AccountTerms) : AccountSnap where
  leverage := max 1 t.leverage
  allowedSymbols := t.allowedSymbols
  maxLotSize := t.maxLotSize.map fun x => r.float x.value
  marginCallLevel := t.marginCallLevel.map fun x => r.float x.value
  maxMarginPerTradePct := t.maxMarginPerTradePct.elim 10 fun x => r.float x.value
  maxTotalMarginPct := t.maxTotalMarginPct.elim 50 fun x => r.float x.value

end Snapshots

section Guard

def rounded (digits : ℕ) (x : ℚ) : ℚ := r.float (scaled digits (quantize digits x))

structure MarginDetails where
  requiredMargin : ℚ
  requiredMarginPct : ℚ
  projectedTotalMargin : ℚ
  projectedTotalMarginPct : ℚ
  maxTotalMarginPct : ℚ
deriving DecidableEq

def effectiveLeverage (leverage : ℕ) (spec : SymbolSpec) : ℕ := max 1 (min (max 1 leverage) spec.maxLeverage)

def equitySafe (equity : ℚ) : ℚ := max equity (r.float (1 / 100))

def percentOf (x equity : ℚ) : ℚ := r.float (r.float (x / equitySafe r equity) * 100)

def marginCallLevel (snap : AccountSnap) : ℚ :=
  match snap.marginCallLevel with
  | some level => if level = 0 then 100 else level
  | none => 100

def marginCode (snap : AccountSnap) (symbol : String) (qty equity requiredMargin totalMarginAfter : ℚ) :
    Option GuardCode :=
  if ¬ ∀ allowed ∈ snap.allowedSymbols, symbol ∈ allowed then some .symbolNotAllowed
  else if ¬ ∀ maxLot ∈ snap.maxLotSize, qty ≤ maxLot then some .lotSizeExceedsProductLimit
  else if snap.maxMarginPerTradePct < percentOf r requiredMargin equity then some .marginPerTradeExceeded
  else if snap.maxTotalMarginPct < percentOf r totalMarginAfter equity then some .totalMarginExceeded
  else if 0 < totalMarginAfter ∧
      r.float (r.float (equitySafe r equity / totalMarginAfter) * 100) < marginCallLevel snap then
    some .marginCallLevelBreach
  else none

def computePretradeMarginGuard (symbol : String) (qty entryPx equity marginUsedNow : ℚ) (snap : AccountSnap)
    (specMaxLeverage : ℕ) (accountCurrency : String) : Option GuardCode × MarginDetails :=
  let effectiveLev := max 1 (min (max 1 snap.leverage) specMaxLeverage)
  match calculateRequiredMargin r symbol (r.str entryPx) (r.str qty) effectiveLev accountCurrency with
  | none =>
    (some .marginCurrencyConversionUnavailable,
      { requiredMargin := 0
        requiredMarginPct := 0
        projectedTotalMargin := rounded r 4 marginUsedNow
        projectedTotalMarginPct := rounded r 2 (percentOf r marginUsedNow equity)
        maxTotalMarginPct := snap.maxTotalMarginPct })
  | some requiredMargin =>
    let totalMarginAfter := r.float (marginUsedNow + requiredMargin)
    (marginCode r snap symbol qty equity requiredMargin totalMarginAfter,
      { requiredMargin := rounded r 4 requiredMargin
        requiredMarginPct := rounded r 2 (percentOf r requiredMargin equity)
        projectedTotalMargin := rounded r 4 totalMarginAfter
        projectedTotalMarginPct := rounded r 2 (percentOf r totalMarginAfter equity)
        maxTotalMarginPct := snap.maxTotalMarginPct })

structure GuardDecision where
  errorCode : Option GuardCode
  details : MarginDetails
  currentOpenPositions : ℕ
  maxOpenPositions : ℕ
deriving DecidableEq

/-- What the guard knows of the account once its row, its rule and its positions are locked. -/
structure Fresh where
  status : AccountStatus
  currency : String
  equity : ℚ
  marginUsed : ℚ
  isNewPosition : Bool
  openCount : ℕ
  maxOpenPositions : ℕ
deriving DecidableEq

def Fresh.refused (f : Fresh) (snap : AccountSnap) (code : GuardCode) : GuardDecision where
  errorCode := some code
  details :=
    { requiredMargin := 0
      requiredMarginPct := 0
      projectedTotalMargin := rounded r 4 f.marginUsed
      projectedTotalMarginPct := 0
      maxTotalMarginPct := snap.maxTotalMarginPct }
  currentOpenPositions := f.openCount
  maxOpenPositions := f.maxOpenPositions

def computeAtomicOpenGuard (symbol : String) (qty entryPx : ℚ) (f : Fresh) (snap : AccountSnap) (spec : SymbolSpec) :
    GuardDecision :=
  if blocked f.status then f.refused r snap .accountBlocked
  else match checkLotSize (r.str qty) spec with
  | .error e => f.refused r snap (.lotSize e)
  | .ok () =>
    if f.isNewPosition ∧ f.maxOpenPositions < f.openCount + 1 then f.refused r snap .maxPositions
    else
      let (errorCode, details) :=
        computePretradeMarginGuard r symbol qty entryPx f.equity f.marginUsed snap spec.maxLeverage f.currency
      { errorCode, details, currentOpenPositions := f.openCount, maxOpenPositions := f.maxOpenPositions }

def riskOrder (k : ℕ) (accountType : AccountType) (symbol : String) (side : Side) (qty price : ℚ) (spec : SymbolSpec) :
    Order where
  accountId := k
  symbol := symbol
  side := side
  qty := .float qty
  price := some (.float price)
  contractSize := some (.float spec.contractSize)
  accountType := some accountType

def refusal (settings : Settings) (h : Holdings) (feed : Feed) (g : GuardDecision) (o : Order) : Option RejectCode :=
  match g.errorCode with
  | some code => some (.guard code)
  | none =>
    let risk02 := validateNewOrder r settings h feed o
    if risk02.allowed then none else some (.limits risk02.reasonCode)

end Guard

section Rows

inductive OpenError
  | unknownConnection (connection : ℕ)
  | unknownSymbol (symbol : String)
  | numericOverflow (column : String) (value : ℚ)
  | trade (e : TradeError)
deriving DecidableEq

/-- The margin of a position at the price it is stored at. -/
def rowMargin (leverage : ℕ) (currency : String) (p : Position) (spec : SymbolSpec) : Option ℚ :=
  calculateRequiredMargin r p.symbol (r.str (r.float p.avgPrice.value)) (r.str (r.float p.qty.value))
    (effectiveLeverage leverage spec) currency

/-- A position whose margin cannot be converted adds nothing. -/
def addMargin (leverage : ℕ) (currency : String) (total : ℚ) (p : Position) : Except OpenError ℚ := do
  let spec ← require (getSpec p.symbol) (.unknownSymbol p.symbol)
  match rowMargin r leverage currency p spec with
  | none => pure total
  | some margin => pure (r.float (total + margin))

def freshMarginUsed (leverage : ℕ) (currency : String) (positions : List Position) : Except OpenError ℚ :=
  positions.foldlM (addMargin r leverage currency) 0

def addFloating (currency : String) (closePx : Position → Option ℚ) (total : ℚ) (p : Position) : Option ℚ :=
  (closePx p).map fun px => r.float (total + unrealizedPnl r currency p px)

/-- Without a price for every position there is no equity. -/
def freshEquity (balance : ℚ) (currency : String) (closePx : Position → Option ℚ) (positions : List Position) :
    Option ℚ :=
  (positions.foldlM (addFloating r currency closePx) 0).map fun floating => r.float (r.float balance + floating)

end Rows

section Admitted

variable {r} {symbol : String} {qty entryPx : ℚ} {f : Fresh} {snap : AccountSnap} {spec : SymbolSpec}

/-- What the guard has found of an order that it lets through. -/
structure Passed (r : Arithmetic) (symbol : String) (qty entryPx : ℚ) (f : Fresh) (snap : AccountSnap)
    (spec : SymbolSpec) (requiredMargin : ℚ) : Prop where
  active : blocked f.status = false
  sized : checkLotSize (r.str qty) spec = .ok ()
  counted : f.isNewPosition = true → f.openCount + 1 ≤ f.maxOpenPositions
  required : calculateRequiredMargin r symbol (r.str entryPx) (r.str qty) (effectiveLeverage snap.leverage spec)
    f.currency = some requiredMargin
  total : percentOf r (r.float (f.marginUsed + requiredMargin)) f.equity ≤ snap.maxTotalMarginPct

lemma marginCode_total {equity requiredMargin totalMarginAfter : ℚ}
    (h : marginCode r snap symbol qty equity requiredMargin totalMarginAfter = none) :
    percentOf r totalMarginAfter equity ≤ snap.maxTotalMarginPct := by
  by_contra htotal
  rw [not_le] at htotal
  rw [marginCode, if_pos htotal] at h
  split at h
  · cases h
  · split at h
    · cases h
    · split at h <;> cases h

lemma guard_passed (h : (computeAtomicOpenGuard r symbol qty entryPx f snap spec).errorCode = none) :
    ∃ requiredMargin, Passed r symbol qty entryPx f snap spec requiredMargin := by
  rw [computeAtomicOpenGuard] at h
  split at h
  · cases h
  · next hactive =>
    split at h
    · cases h
    · next hsized =>
      split at h
      · cases h
      · next hcounted =>
        change (computePretradeMarginGuard r symbol qty entryPx f.equity f.marginUsed snap spec.maxLeverage
          f.currency).1 = none at h
        rw [computePretradeMarginGuard] at h
        split at h
        · cases h
        · next requiredMargin hrequired =>
          refine ⟨requiredMargin, by simpa using hactive, hsized, fun hnew => ?_, hrequired, marginCode_total h⟩
          by_contra hmany
          exact hcounted ⟨hnew, not_le.mp hmany⟩

lemma refusal_none {settings : Settings} {h : Holdings} {feed : Feed} {g : GuardDecision} {o : Order}
    (hnone : refusal r settings h feed g o = none) : g.errorCode = none ∧ WithinLimits r settings h feed o := by
  rw [refusal] at hnone
  split at hnone
  · cases hnone
  · next hcode =>
    refine ⟨hcode, ?_⟩
    dsimp only at hnone
    split at hnone
    · next hallowed => exact withinLimits_of_allowed hallowed
    · cases hnone

end Admitted

end TrxSimulator.Trading.OpenGuard
