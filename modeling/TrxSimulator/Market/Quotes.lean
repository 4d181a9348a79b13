import TrxSimulator.Foundations.Floats
import TrxSimulator.Market.Symbols

/-! The check that every quote passes before money is decided on it. -/

namespace TrxSimulator.Market.Quotes

open Foundations.Decimals Foundations.Floats

/-- A number as the feed or a client gives it: a float, which may be no number at all. -/
inductive Number
  | finite (x : ℚ)
  | infinite (negative : Bool)
  | nan
deriving DecidableEq

def Number.toRat? : Number → Option ℚ
  | .finite x => some x
  | .infinite _ | .nan => none

def Number.map (f : ℚ → ℚ) : Number → Number
  | .finite x => .finite (f x)
  | .infinite negative => .infinite negative
  | .nan => .nan

def Number.round (digits : ℕ) (n : Number) : Number := n.map fun x => float (scaled digits (quantize digits x))

def Number.shift (d : ℚ) (n : Number) : Number := n.map fun x => float (x + d)

def Number.positive : Number → Bool
  | .finite x => decide (0 < x)
  | .infinite negative => !negative
  | .nan => false

def basePrices : List (String × ℚ) :=
  [("EUR/USD", 117 / 100), ("GBP/USD", 13 / 10), ("USD/JPY", 155), ("AUD/USD", 68 / 100), ("USD/CAD", 137 / 100),
   ("USD/CHF", 9 / 10), ("NZD/USD", 62 / 100), ("BTCUSD", 82000), ("ETHUSD", 3400), ("SOLUSD", 170),
   ("XAU/USD", 2400), ("XAG/USD", 30), ("US30", 40000), ("US500", 5200), ("NAS100", 18000)]

def fallbackPrice (symbol : String) : Option ℚ := (basePrices.find? fun b => b.1 = symbol).map Prod.snd

/-- The logarithm of the ratio lies between -1 and 1; the rounding of the logarithm at the two ends is left out. -/
def withinTen (mid base : ℚ) : Bool := decide (base ≤ 10 * mid) && decide (mid ≤ 10 * base)

def middle (bid ask : ℚ) : ℚ := float (float (bid + ask) / 2)

def midpoint : Number → Number → Number
  | .finite bid, .finite ask => .finite (middle bid ask)
  | .infinite negative, .finite _ | .finite _, .infinite negative => .infinite negative
  | .infinite negative, .infinite negative' => if negative = negative' then .infinite negative else .nan
  | .nan, _ | _, .nan => .nan

def validateQuoteValues (symbol : String) (bid ask : Option Number) : Bool :=
  match bid.bind Number.toRat?, ask.bind Number.toRat?, fallbackPrice symbol with
  | some bid, some ask, some base =>
    decide (0 < bid) && decide (0 < ask) && decide (bid ≤ ask) && withinTen (middle bid ask) base
  | _, _, _ => false

end TrxSimulator.Market.Quotes
