import Mathlib.Algebra.Order.Round
import Mathlib.Data.Rat.Floor
import TrxSimulator.Money

/-! The registry of instruments, and the check of an order's size against its instrument. -/

namespace TrxSimulator.Market.Symbols

open Foundations.Decimals

inductive AssetClass
  | forex | crypto | metal | index
deriving DecidableEq

structure SymbolSpec where
  symbol : String
  assetClass : AssetClass
  contractSize : ℚ
  minLot : ℚ
  lotStep : ℚ
  pipSize : ℚ
  priceDecimals : ℕ
  maxLeverage : ℕ
  quoteCurrency : String := "USD"
  enabled : Bool := true
deriving DecidableEq

def forex (symbol quoteCurrency : String) (pipSize : ℚ) (priceDecimals : ℕ) (enabled : Bool) : SymbolSpec where
  symbol := symbol
  assetClass := .forex
  contractSize := 100000
  minLot := 1 / 100
  lotStep := 1 / 100
  pipSize := pipSize
  priceDecimals := priceDecimals
  maxLeverage := 500
  quoteCurrency := quoteCurrency
  enabled := enabled

def registry : List SymbolSpec :=
  [forex "EUR/USD" "USD" (1 / 10000) 5 true,
   forex "GBP/USD" "USD" (1 / 10000) 5 true,
   forex "USD/JPY" "JPY" (1 / 100) 3 true,
   forex "AUD/USD" "USD" (1 / 10000) 5 true,
   forex "USD/CAD" "CAD" (1 / 10000) 5 false,
   forex "USD/CHF" "CHF" (1 / 10000) 5 false,
   forex "NZD/USD" "USD" (1 / 10000) 5 false,
   { symbol := "BTCUSD", assetClass := .crypto, contractSize := 1, minLot := 1 / 1000, lotStep := 1 / 1000,
     pipSize := 1, priceDecimals := 2, maxLeverage := 20 },
   { symbol := "ETHUSD", assetClass := .crypto, contractSize := 1, minLot := 1 / 100, lotStep := 1 / 100,
     pipSize := 1, priceDecimals := 2, maxLeverage := 20 },
   { symbol := "SOLUSD", assetClass := .crypto, contractSize := 1, minLot := 1 / 10, lotStep := 1 / 10,
     pipSize := 1 / 100, priceDecimals := 2, maxLeverage := 10, enabled := false },
   { symbol := "XAU/USD", assetClass := .metal, contractSize := 100, minLot := 1 / 100, lotStep := 1 / 100,
     pipSize := 1 / 100, priceDecimals := 2, maxLeverage := 100, enabled := false },
   { symbol := "XAG/USD", assetClass := .metal, contractSize := 5000, minLot := 1 / 100, lotStep := 1 / 100,
     pipSize := 1 / 1000, priceDecimals := 3, maxLeverage := 100, enabled := false },
   { symbol := "US30", assetClass := .index, contractSize := 1, minLot := 1 / 10, lotStep := 1 / 10,
     pipSize := 1, priceDecimals := 0, maxLeverage := 20, enabled := false },
   { symbol := "US500", assetClass := .index, contractSize := 10, minLot := 1 / 10, lotStep := 1 / 10,
     pipSize := 1 / 4, priceDecimals := 2, maxLeverage := 20, enabled := false },
   { symbol := "NAS100", assetClass := .index, contractSize := 1, minLot := 1 / 10, lotStep := 1 / 10,
     pipSize := 1 / 4, priceDecimals := 2, maxLeverage := 20, enabled := false }]

def getSpec (symbol : String) : Option SymbolSpec := registry.find? fun spec => spec.symbol = symbol

def stripped (symbol : String) : List Char := (symbol.toList.filter (· ≠ '/')).map Char.toUpper

def normalizeSymbol (symbol : String) : String :=
  ((registry.find? fun spec => stripped spec.symbol = stripped symbol).map SymbolSpec.symbol).getD symbol

def deriveBaseCurrency (symbol quoteCurrency : String) : List Char :=
  if '/' ∈ symbol.toList then symbol.toList.takeWhile (· ≠ '/')
  else if quoteCurrency ≠ "" ∧ quoteCurrency.toList <:+ symbol.toList ∧ quoteCurrency.length < symbol.length then
    symbol.toList.take (symbol.length - quoteCurrency.length)
  else symbol.toList

def SymbolSpec.baseCurrency (spec : SymbolSpec) : List Char := deriveBaseCurrency spec.symbol spec.quoteCurrency

inductive LotError
  | minQtyViolation | lotStepViolation
deriving DecidableEq

def checkLotSize (qty : ℚ) (spec : SymbolSpec) : Except LotError Unit :=
  if qty < spec.minLot then .error .minQtyViolation
  else if 1 / 1000 < |qty / spec.lotStep - roundHalfEven (qty / spec.lotStep)| then .error .lotStepViolation
  else .ok ()

lemma mem_of_getSpec {symbol : String} {spec : SymbolSpec} (h : getSpec symbol = some spec) : spec ∈ registry :=
  List.mem_of_find?_eq_some h

lemma symbol_of_getSpec {symbol : String} {spec : SymbolSpec} (h : getSpec symbol = some spec) :
    spec.symbol = symbol := by
  simpa using List.find?_some h

lemma registry_bounds {spec : SymbolSpec} (h : spec ∈ registry) :
    0 < spec.contractSize ∧ 1 / 1000 ≤ spec.minLot ∧ 0 < spec.lotStep ∧ 1 ≤ spec.maxLeverage := by
  revert h spec
  decide +kernel

lemma lot_positive {qty : ℚ} {spec : SymbolSpec} (hspec : spec ∈ registry) (h : checkLotSize qty spec = .ok ()) :
    1 / 1000 ≤ qty := by
  obtain ⟨-, hmin, -, -⟩ := registry_bounds hspec
  rw [checkLotSize] at h
  split at h
  · cases h
  · next hqty => exact hmin.trans (not_lt.mp hqty)

end TrxSimulator.Market.Symbols
