import TrxSimulator.Market.Quotes

/-! What `int` and `float` read in a field of a provider's message. -/

namespace TrxSimulator.Feeds.Fields

open Foundations.Floats Market.Quotes

/-- `KeyError`, `TypeError` and `ValueError`, which a caller may catch as one, and `OverflowError`. -/
inductive ReadError
  | malformed
  | overflow
deriving DecidableEq

/-- A field: missing; null or an empty text, list or object; another value that is no number; a truth value, which
counts as zero or one; a number; or a text, with what `int` and `float` read in it. -/
inductive Field
  | absent
  | empty
  | unusable
  | flag (value : Bool)
  | whole (n : ℤ)
  | real (x : Number)
  | text (int : Option ℤ) (real : Option Number)
deriving DecidableEq

def truncate : Number → Except ReadError ℤ
  | .finite x => .ok (if 0 ≤ x then ⌊x⌋ else ⌈x⌉)
  | .infinite _ => .error .overflow
  | .nan => .error .malformed

def Field.toInt : Field → Except ReadError ℤ
  | .absent | .empty | .unusable | .text none _ => .error .malformed
  | .flag value => .ok value.toNat
  | .whole n | .text (some n) _ => .ok n
  | .real x => truncate x

def Field.toFloat : Field → Except ReadError Number
  | .absent | .empty | .unusable | .text _ none => .error .malformed
  | .flag value => .ok (.finite value.toNat)
  | .whole n => if 2 ^ 1024 ≤ |float n| then .error .overflow else .ok (.finite (float n))
  | .real x | .text _ (some x) => .ok x

/-- Python's `field or 0`. -/
def Field.orZero : Field → Field
  | .absent | .empty => .whole 0
  | field => field

end TrxSimulator.Feeds.Fields
