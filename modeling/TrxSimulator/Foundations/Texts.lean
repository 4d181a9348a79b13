import Mathlib.Data.String.Basic

/-! Text as the program reads it: white space, and what is left of a text without it. -/

namespace TrxSimulator.Foundations.Texts

/-- The code points that `str.strip` removes. -/
def isSpace (c : Char) : Bool :=
  let n := c.toNat
  (9 ≤ n && n ≤ 13) || (28 ≤ n && n ≤ 32) || n = 0x85 || n = 0xa0 || n = 0x1680 ||
    (0x2000 ≤ n && n ≤ 0x200a) || n = 0x2028 || n = 0x2029 || n = 0x202f || n = 0x205f || n = 0x3000

def strip (s : String) : String :=
  String.ofList ((s.toList.dropWhile isSpace).reverse.dropWhile isSpace).reverse

lemma toString_injective {m n : ℕ} (h : toString m = toString n) : m = n := by
  have hdigits : m.repr.toList = n.repr.toList := congrArg String.toList h
  rw [Nat.toList_repr, Nat.toList_repr] at hdigits
  have hback := congrArg (fun ds => Nat.ofDigitChars 10 ds 0) hdigits
  simpa using hback

end TrxSimulator.Foundations.Texts
