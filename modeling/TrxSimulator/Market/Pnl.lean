import TrxSimulator.Foundations.Floats
import TrxSimulator.Market.Symbols
import TrxSimulator.Trading.Writers

/-! Profit and notional of a position in its account's currency, over the arithmetic in which they are taken. -/

namespace TrxSimulator.Market.Pnl

open Foundations.Decimals Money Symbols
open Trading.Writers (Side)

/-- How a decimal operation rounds, how a value becomes a float, and how a float is written as a decimal. -/
structure Arithmetic where
  decimal : ℚ → ℚ
  float : ℚ → ℚ
  str : ℚ → ℚ

def python : Arithmetic where
  decimal := context precision
  float := Foundations.Floats.float
  str := Foundations.Floats.str

def exact : Arithmetic := ⟨id, id, id⟩

inductive ConversionMode
  | noConversion | baseAccountInverse | unsupported
deriving DecidableEq

inductive ConversionError
  | noConversionRateAvailable | invalidPnlInput
deriving DecidableEq

structure PositionPnlResult where
  pnlQuote : ℚ
  pnlAccount : Option ℚ
  conversionMode : ConversionMode
  errorCode : Option ConversionError
deriving DecidableEq

variable (r : Arithmetic)

def calculateQuotePnl (side : Side) (entryPrice closePrice quantity contractSize : ℚ) : ℚ :=
  let diff := match side with
    | .buy => r.decimal (closePrice - entryPrice)
    | .sell => r.decimal (entryPrice - closePrice)
  r.decimal (r.decimal (diff * quantity) * contractSize)

/-- The one rate at hand is the instrument's own price. -/
def convertPnlToAccountCurrency (pnlQuote : ℚ) (spec : SymbolSpec) (accountCurrency : String) (rate : ℚ) :
    PositionPnlResult :=
  if spec.quoteCurrency = accountCurrency then
    { pnlQuote, pnlAccount := some pnlQuote, conversionMode := .noConversion, errorCode := none }
  else if spec.baseCurrency = accountCurrency.toList ∧ rate ≠ 0 then
    { pnlQuote, pnlAccount := some (r.decimal (pnlQuote / rate)), conversionMode := .baseAccountInverse,
      errorCode := none }
  else
    { pnlQuote, pnlAccount := none, conversionMode := .unsupported, errorCode := some .noConversionRateAvailable }

def invalidInput : PositionPnlResult where
  pnlQuote := 0
  pnlAccount := none
  conversionMode := .unsupported
  errorCode := some .invalidPnlInput

def calculatePositionPnl (side : Side) (entryPrice closePrice quantity : ℚ) (symbol accountCurrency : String) :
    PositionPnlResult :=
  match getSpec (normalizeSymbol symbol) with
  | none => invalidInput
  | some spec =>
    let pnlQuote := calculateQuotePnl r side entryPrice closePrice quantity spec.contractSize
    convertPnlToAccountCurrency r pnlQuote spec accountCurrency closePrice

def positionPnlFloat (side : Side) (entryPrice closePrice quantity : ℚ) (symbol accountCurrency : String) : ℚ :=
  ((calculatePositionPnl r side (r.str entryPrice) (r.str closePrice) (r.str quantity) symbol
    accountCurrency).pnlAccount).elim 0 r.float

def calculateMarginNotionalAccountCurrency (symbol : String) (price quantity : ℚ) (accountCurrency : String) :
    PositionPnlResult :=
  match getSpec (normalizeSymbol symbol) with
  | none => invalidInput
  | some spec =>
    let notionalQuote := |r.decimal (r.decimal (price * quantity) * spec.contractSize)|
    convertPnlToAccountCurrency r notionalQuote spec accountCurrency price

def calculateRequiredMargin (symbol : String) (price quantity : ℚ) (effectiveLeverage : ℕ) (accountCurrency : String) :
    Option ℚ :=
  (calculateMarginNotionalAccountCurrency r symbol price quantity accountCurrency).pnlAccount.map fun notional =>
    r.float (r.decimal (|notional| / max 1 effectiveLeverage))

end TrxSimulator.Market.Pnl
