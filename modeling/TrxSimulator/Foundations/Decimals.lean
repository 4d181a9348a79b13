import Mathlib.Data.Int.Log
import Mathlib.Data.Rat.Floor
import Mathlib.Algebra.Order.Floor.Ring
import Mathlib.Algebra.Order.Round
import Mathlib.Tactic.Linarith
import Mathlib.Tactic.Positivity
import Mathlib.Tactic.Push
import Mathlib.Tactic.FieldSimp

/-! Decimal arithmetic. `context` rounds to a number of significant digits, ties to even; `store`
puts a value in a column of fixed precision and scale, ties away from zero. A column value is a bounded
count of the column's smallest unit. -/

namespace TrxSimulator.Foundations.Decimals

def roundHalfAway (x : ℚ) : ℤ := if 0 ≤ x then ⌊x + 1 / 2⌋ else -⌊-x + 1 / 2⌋

def roundHalfEven (x : ℚ) : ℤ :=
  if x - ⌊x⌋ < 1 / 2 then ⌊x⌋
  else if 1 / 2 < x - ⌊x⌋ then ⌊x⌋ + 1
  else if Even ⌊x⌋ then ⌊x⌋ else ⌊x⌋ + 1

def exponent (precision : ℕ) (x : ℚ) : ℤ := Int.log 10 |x| - precision + 1

def context (precision : ℕ) (x : ℚ) : ℚ :=
  if x = 0 then 0
  else roundHalfEven (x / 10 ^ exponent precision x) * 10 ^ exponent precision x

def quantize (scale : ℕ) (x : ℚ) : ℤ := roundHalfEven (x * 10 ^ scale)

def scaled (scale : ℕ) (n : ℤ) : ℚ := n / 10 ^ scale

structure Numeric (digits scale : ℕ) where
  units : ℤ
  fits : |units| < 10 ^ digits
deriving DecidableEq

def Numeric.value {digits scale : ℕ} (n : Numeric digits scale) : ℚ := scaled scale n.units

def Numeric.widen {digits digits' scale : ℕ} (h : digits ≤ digits') (n : Numeric digits scale) :
    Numeric digits' scale :=
  ⟨n.units, n.fits.trans_le (pow_le_pow_right₀ (by norm_num) h)⟩

/-- A column value written as the count of its smallest unit, of which the column keeps its digits. -/
def Numeric.ofUnits {digits scale : ℕ} (n : ℕ) : Numeric digits scale :=
  ⟨(n % 10 ^ digits : ℕ), by rw [Nat.abs_cast]; exact_mod_cast Nat.mod_lt n (by positivity)⟩

def Numeric.negate {digits scale : ℕ} (n : Numeric digits scale) : Numeric digits scale :=
  ⟨-n.units, by rw [abs_neg]; exact n.fits⟩

def store (digits scale : ℕ) (x : ℚ) : Option (Numeric digits scale) :=
  if h : |roundHalfAway (x * 10 ^ scale)| < 10 ^ digits then
    some ⟨roundHalfAway (x * 10 ^ scale), h⟩
  else none

section Rounding

@[simp] lemma roundHalfEven_intCast (n : ℤ) : roundHalfEven n = n := by
  rw [roundHalfEven, Int.floor_intCast, if_pos (by norm_num)]

lemma roundHalfEven_le {x : ℚ} {n : ℤ} (h : x ≤ n) : roundHalfEven x ≤ n := by
  have hfloor : ⌊x⌋ ≤ n := by
    have := (Int.floor_le x).trans h
    exact_mod_cast this
  have hnext : 1 / 2 ≤ x - ⌊x⌋ → ⌊x⌋ + 1 ≤ n := by
    intro hx
    by_contra hlt
    have hn : (n : ℚ) ≤ ⌊x⌋ := by exact_mod_cast (by omega : n ≤ ⌊x⌋)
    linarith
  unfold roundHalfEven
  split
  · exact hfloor
  · next hx =>
    split
    · exact hnext (not_lt.mp hx)
    · split
      · exact hfloor
      · exact hnext (not_lt.mp hx)

lemma le_roundHalfEven {x : ℚ} {n : ℤ} (h : n ≤ x) : n ≤ roundHalfEven x := by
  have hfloor : n ≤ ⌊x⌋ := Int.le_floor.mpr h
  unfold roundHalfEven
  split
  · exact hfloor
  · split
    · omega
    · split <;> omega

lemma abs_roundHalfEven_sub_le (x : ℚ) : |roundHalfEven x - x| ≤ 1 / 2 := by
  have hlow := Int.floor_le x
  have hhigh := Int.lt_floor_add_one x
  rw [abs_le]
  unfold roundHalfEven
  split
  · next h => constructor <;> linarith
  · next h =>
    split
    · push_cast
      constructor <;> linarith
    · split
      · constructor <;> linarith
      · push_cast
        constructor <;> linarith

lemma roundHalfEven_mono {x y : ℚ} (h : x ≤ y) : roundHalfEven x ≤ roundHalfEven y := by
  rcases (Int.floor_le_floor h).lt_or_eq with hlt | heq
  · have hx : roundHalfEven x ≤ ⌊x⌋ + 1 := by
      refine roundHalfEven_le ?_
      push_cast
      exact (Int.lt_floor_add_one x).le
    have hy : ⌊y⌋ ≤ roundHalfEven y := le_roundHalfEven (Int.floor_le y)
    omega
  · have hfract : x - ⌊x⌋ ≤ y - ⌊y⌋ := by
      rw [heq]
      linarith
    simp only [roundHalfEven, heq] at hfract ⊢
    grind

lemma le_roundHalfEven_iff {x : ℚ} {n : ℤ} :
    n ≤ roundHalfEven x ↔ n - 1 / 2 < x ∨ (x = n - 1 / 2 ∧ Even n) := by
  have hlo := Int.floor_le x
  have hhi := Int.lt_floor_add_one x
  have hcast : (n ≤ ⌊x⌋ ↔ (n : ℚ) ≤ x) := Int.le_floor
  rcases lt_trichotomy n (⌊x⌋ + 1) with hn | hn | hn
  · have hx : (n : ℚ) ≤ x := hcast.mp (by omega)
    have hround : n ≤ roundHalfEven x := le_roundHalfEven hx
    exact ⟨fun _ => Or.inl (by linarith), fun _ => hround⟩
  · have hfloor : (⌊x⌋ : ℚ) = n - 1 := by rw [hn]; push_cast; ring
    have heven : Even n ↔ ¬ Even ⌊x⌋ := by rw [hn, Int.even_add_one]
    rw [roundHalfEven, hfloor, heven]
    rcases lt_trichotomy (x - (n - 1)) (1 / 2) with h | h | h
    · rw [if_pos h]
      exact ⟨fun hle => by omega, fun hor => by rcases hor with hlt | ⟨heq, -⟩ <;> linarith⟩
    · rw [if_neg h.not_lt, if_neg h.not_gt]
      by_cases he : Even ⌊x⌋
      · rw [if_pos he]
        exact ⟨fun hle => by omega, fun hor => by rcases hor with hlt | ⟨-, hodd⟩; linarith; exact (hodd he).elim⟩
      · rw [if_neg he]
        exact ⟨fun _ => Or.inr ⟨by linarith, he⟩, fun _ => by omega⟩
    · rw [if_neg (by linarith), if_pos h]
      exact ⟨fun _ => Or.inl (by linarith), fun _ => by omega⟩
  · have hx : x + 1 < n := by
      have hstep : (⌊x⌋ + 1 : ℤ) + 1 ≤ n := hn
      have : ((⌊x⌋ + 1 : ℤ) + 1 : ℚ) ≤ n := by exact_mod_cast hstep
      push_cast at this
      linarith
    have hround : roundHalfEven x ≤ n - 1 := by
      refine roundHalfEven_le ?_
      push_cast
      linarith
    exact ⟨fun hle => by omega, fun hor => by rcases hor with hlt | ⟨heq, -⟩ <;> linarith⟩

lemma roundHalfAway_of_nonneg {x : ℚ} (h : 0 ≤ x) : roundHalfAway x = ⌊x + 1 / 2⌋ := if_pos h

lemma roundHalfAway_neg (x : ℚ) : roundHalfAway (-x) = -roundHalfAway x := by
  rcases lt_trichotomy x 0 with h | rfl | h
  · rw [roundHalfAway, if_pos (by linarith), roundHalfAway, if_neg (by linarith), neg_neg]
  · norm_num [roundHalfAway]
  · rw [roundHalfAway, if_neg (by linarith), neg_neg, roundHalfAway, if_pos h.le]

@[simp] lemma roundHalfAway_intCast (n : ℤ) : roundHalfAway n = n := by
  rw [roundHalfAway]
  split
  · rw [Int.floor_intCast_add]
    norm_num
  · rw [← Int.cast_neg, Int.floor_intCast_add]
    norm_num

lemma roundHalfAway_eq_iff_of_nonneg {x : ℚ} {n : ℤ} (h : 0 ≤ x) :
    roundHalfAway x = n ↔ (n : ℚ) - 1 / 2 ≤ x ∧ x < n + 1 / 2 := by
  rw [roundHalfAway_of_nonneg h, Int.floor_eq_iff]
  constructor <;> rintro ⟨h1, h2⟩ <;> constructor <;> linarith

lemma roundHalfAway_eq_iff_of_nonpos {x : ℚ} {n : ℤ} (h : x ≤ 0) :
    roundHalfAway x = n ↔ (n : ℚ) - 1 / 2 < x ∧ x ≤ n + 1 / 2 := by
  have hneg := roundHalfAway_eq_iff_of_nonneg (n := -n) (neg_nonneg.mpr h)
  rw [roundHalfAway_neg, neg_inj] at hneg
  rw [hneg]
  push_cast
  constructor <;> rintro ⟨h1, h2⟩ <;> constructor <;> linarith

lemma abs_roundHalfAway_sub_le (x : ℚ) : |roundHalfAway x - x| ≤ 1 / 2 := by
  have hnonneg : ∀ y : ℚ, 0 ≤ y → |roundHalfAway y - y| ≤ 1 / 2 := by
    intro y hy
    have hlow := Int.floor_le (y + 1 / 2)
    have hhigh := Int.lt_floor_add_one (y + 1 / 2)
    rw [roundHalfAway_of_nonneg hy, abs_le]
    constructor <;> linarith
  obtain h | h := le_total 0 x
  · exact hnonneg x h
  · have hneg := hnonneg (-x) (by linarith)
    rw [roundHalfAway_neg, abs_sub_comm] at hneg
    push_cast at hneg
    rwa [sub_neg_eq_add, neg_add_eq_sub] at hneg

lemma roundHalfAway_add_iff {r : ℚ} {n : ℤ} : roundHalfAway (n + r) = n ↔
    |r| < 1 / 2 ∨ (r = 1 / 2 ∧ n + r < 0) ∨ (r = -1 / 2 ∧ 0 < n + r) := by
  have hodd : (n : ℚ) ≠ 1 / 2 ∧ (n : ℚ) ≠ -1 / 2 := by
    constructor <;> intro h
    · have htwo : 2 * n = 1 := by exact_mod_cast (by linarith : (2 * n : ℚ) = 1)
      omega
    · have htwo : 2 * n = -1 := by exact_mod_cast (by linarith : (2 * n : ℚ) = -1)
      omega
  rw [abs_lt]
  rcases le_or_gt 0 (n + r) with hsum | hsum
  · rw [roundHalfAway_eq_iff_of_nonneg hsum]
    constructor
    · rintro ⟨hlow, hhigh⟩
      rcases (by linarith : -1 / 2 ≤ r).eq_or_lt with heq | hlt
      · refine Or.inr (Or.inr ⟨heq.symm, hsum.lt_of_ne fun hzero => hodd.1 ?_⟩)
        linarith
      · exact Or.inl ⟨by linarith, by linarith⟩
    · rintro (⟨hlow, hhigh⟩ | ⟨-, hneg⟩ | ⟨heq, -⟩)
      · exact ⟨by linarith, by linarith⟩
      · exact absurd hneg (not_lt.mpr hsum)
      · exact ⟨by linarith, by linarith⟩
  · rw [roundHalfAway_eq_iff_of_nonpos hsum.le]
    constructor
    · rintro ⟨hlow, hhigh⟩
      rcases (by linarith : r ≤ 1 / 2).eq_or_lt with heq | hlt
      · exact Or.inr (Or.inl ⟨heq, hsum⟩)
      · exact Or.inl ⟨by linarith, hlt⟩
    · rintro (⟨hlow, hhigh⟩ | ⟨heq, -⟩ | ⟨-, hpos⟩)
      · exact ⟨by linarith, by linarith⟩
      · exact ⟨by linarith, by linarith⟩
      · exact absurd hpos (not_lt.mpr hsum.le)

end Rounding

section Context

variable {p : ℕ} {x : ℚ}

lemma exponent_le {k : ℕ} (h0 : x ≠ 0) (h : |x| < 10 ^ (p - k : ℤ)) : exponent p x ≤ -k := by
  have hlog := (Int.lt_zpow_iff_log_lt (by norm_num : 1 < 10) (abs_pos.mpr h0)).mp h
  rw [exponent]
  omega

lemma grid_div {k : ℕ} {e : ℤ} (he : e ≤ -k) (m : ℤ) :
    ∃ n : ℤ, (m : ℚ) / 10 ^ k / 10 ^ e = n := by
  obtain ⟨j, hj⟩ := Int.eq_ofNat_of_zero_le (by omega : 0 ≤ -k - e)
  refine ⟨m * 10 ^ j, ?_⟩
  have he' : e = -(k + j : ℕ) := by push_cast; omega
  rw [he', zpow_neg, zpow_natCast, pow_add]
  push_cast
  field_simp

lemma context_le {k : ℕ} {m : ℤ} (hx : |x| < 10 ^ (p - k : ℤ)) (h : x ≤ m / 10 ^ k) :
    context p x ≤ m / 10 ^ k := by
  by_cases h0 : x = 0
  · rw [context, if_pos h0, ← h0]
    exact h
  · obtain ⟨n, hn⟩ := grid_div (exponent_le h0 hx) m
    have hpos : (0 : ℚ) < 10 ^ exponent p x := zpow_pos (by norm_num) _
    have hround : roundHalfEven (x / 10 ^ exponent p x) ≤ n := by
      refine roundHalfEven_le ?_
      rw [← hn]
      exact div_le_div_of_nonneg_right h hpos.le
    rw [context, if_neg h0, ← le_div_iff₀ hpos, hn]
    exact_mod_cast hround

lemma le_context {k : ℕ} {m : ℤ} (hx : |x| < 10 ^ (p - k : ℤ)) (h : m / 10 ^ k ≤ x) :
    m / 10 ^ k ≤ context p x := by
  by_cases h0 : x = 0
  · rw [context, if_pos h0, ← h0]
    exact h
  · obtain ⟨n, hn⟩ := grid_div (exponent_le h0 hx) m
    have hpos : (0 : ℚ) < 10 ^ exponent p x := zpow_pos (by norm_num) _
    have hround : n ≤ roundHalfEven (x / 10 ^ exponent p x) := by
      refine le_roundHalfEven ?_
      rw [← hn]
      exact div_le_div_of_nonneg_right h hpos.le
    rw [context, if_neg h0, ← div_le_iff₀ hpos, hn]
    exact_mod_cast hround

lemma context_grid {k : ℕ} {m : ℤ} (h : |m| < 10 ^ p) : context p (m / 10 ^ k) = m / 10 ^ k := by
  have hx : |(m : ℚ) / 10 ^ k| < 10 ^ (p - k : ℤ) := by
    have hm : |(m : ℚ)| < 10 ^ p := by exact_mod_cast h
    rw [abs_div, abs_of_pos (by positivity : (0 : ℚ) < 10 ^ k), zpow_sub₀ (by norm_num),
      zpow_natCast, zpow_natCast]
    gcongr
  exact le_antisymm (context_le hx le_rfl) (le_context hx le_rfl)

lemma context_nonneg (h : 0 ≤ x) : 0 ≤ context p x := by
  rw [context]
  split
  · exact le_rfl
  · have hpos : (0 : ℚ) < 10 ^ exponent p x := zpow_pos (by norm_num) _
    have hround : (0 : ℤ) ≤ roundHalfEven (x / 10 ^ exponent p x) := by
      refine le_roundHalfEven ?_
      rw [Int.cast_zero]
      exact div_nonneg h hpos.le
    exact mul_nonneg (by exact_mod_cast hround) hpos.le

lemma roundHalfEven_neg (y : ℚ) : roundHalfEven (-y) = -roundHalfEven y := by
  by_cases hi : (⌊y⌋ : ℚ) = y
  · rw [← hi, ← Int.cast_neg, roundHalfEven_intCast, roundHalfEven_intCast]
  · have hlt : (⌊y⌋ : ℚ) < y := lt_of_le_of_ne (Int.floor_le y) hi
    have hfloor : ⌊-y⌋ = -⌊y⌋ - 1 := by
      rw [Int.floor_eq_iff]
      push_cast
      exact ⟨by linarith [Int.lt_floor_add_one y], by linarith⟩
    have hcast : (⌊-y⌋ : ℚ) = -⌊y⌋ - 1 := by rw [hfloor]; push_cast; rfl
    have heven : Even (-⌊y⌋ - 1) ↔ ¬ Even ⌊y⌋ := by
      rw [Int.even_sub, even_neg]
      simp
    rw [roundHalfEven, roundHalfEven, hcast, hfloor]
    rcases lt_trichotomy (y - ⌊y⌋) (1 / 2) with h | h | h
    · rw [if_neg (by linarith), if_pos (by linarith), if_pos h]
      ring
    · rw [if_neg (by linarith), if_neg (by linarith), if_neg h.not_lt, if_neg h.not_gt]
      by_cases he : Even ⌊y⌋
      · rw [if_neg (by rw [heven]; simpa using he), if_pos he]
        ring
      · rw [if_pos (heven.mpr he), if_neg he]
        ring
    · rw [if_pos (by linarith), if_neg (by linarith), if_pos h]
      ring

lemma context_neg (x : ℚ) : context p (-x) = -context p x := by
  by_cases h0 : x = 0
  · subst h0
    simp [context]
  · rw [context, if_neg (neg_ne_zero.mpr h0), context, if_neg h0, exponent, exponent, abs_neg, neg_div,
      roundHalfEven_neg]
    push_cast
    ring

lemma context_mul_zpow {m e : ℤ} (h : |m| < 10 ^ p) : context p (m * 10 ^ e) = m * 10 ^ e := by
  by_cases h0 : m = 0
  · simp [h0, context]
  have hne : (m : ℚ) * 10 ^ e ≠ 0 := mul_ne_zero (by exact_mod_cast h0) (zpow_ne_zero _ (by norm_num))
  have habs : |(m : ℚ) * 10 ^ e| < 10 ^ (p + e : ℤ) := by
    have hm : |(m : ℚ)| < 10 ^ p := by exact_mod_cast h
    rw [abs_mul, abs_of_pos (zpow_pos (by norm_num) e : (0 : ℚ) < 10 ^ e), zpow_add₀ (by norm_num), zpow_natCast]
    exact mul_lt_mul_of_pos_right hm (zpow_pos (by norm_num) e)
  have hlog : Int.log 10 |(m : ℚ) * 10 ^ e| < p + e :=
    (Int.lt_zpow_iff_log_lt (by norm_num) (abs_pos.mpr hne)).mp (by exact_mod_cast habs)
  obtain ⟨k, hk⟩ := Int.eq_ofNat_of_zero_le (show 0 ≤ e - exponent p ((m : ℚ) * 10 ^ e) by rw [exponent]; omega)
  have hunits : (m : ℚ) * 10 ^ e / 10 ^ exponent p ((m : ℚ) * 10 ^ e) = (m * 10 ^ k : ℤ) := by
    rw [mul_div_assoc, ← zpow_sub₀ (by norm_num), hk]
    push_cast
    rfl
  have hback : ((m * 10 ^ k : ℤ) : ℚ) * 10 ^ exponent p ((m : ℚ) * 10 ^ e) = m * 10 ^ e := by
    rw [← hunits, div_mul_cancel₀ _ (zpow_ne_zero _ (by norm_num))]
  rw [context, if_neg hne, hunits, roundHalfEven_intCast, hback]

lemma context_context (hp : 1 ≤ p) (x : ℚ) : context p (context p x) = context p x := by
  by_cases h0 : x = 0
  · simp [h0, context]
  have hpos : (0 : ℚ) < 10 ^ exponent p x := zpow_pos (by norm_num) _
  have hscaled : |x / 10 ^ exponent p x| < 10 ^ p := by
    have hexp : Int.log 10 |x| + 1 = p + exponent p x := by
      rw [exponent]
      omega
    have hlog := Int.lt_zpow_succ_log_self (b := 10) (by norm_num) |x|
    rw [hexp, zpow_add₀ (by norm_num), zpow_natCast] at hlog
    rw [abs_div, abs_of_pos hpos, div_lt_iff₀ hpos]
    exact_mod_cast hlog
  obtain ⟨hlow, hhigh⟩ := abs_lt.mp hscaled
  have hle : roundHalfEven (x / 10 ^ exponent p x) ≤ 10 ^ p := roundHalfEven_le (by exact_mod_cast hhigh.le)
  have hge : -10 ^ p ≤ roundHalfEven (x / 10 ^ exponent p x) := le_roundHalfEven (by exact_mod_cast hlow.le)
  have hone : |(1 : ℤ)| < 10 ^ p := by
    rw [abs_one]
    exact one_lt_pow₀ (by norm_num) (by omega)
  have hcarry : context p (10 ^ p * 10 ^ exponent p x) = 10 ^ p * 10 ^ exponent p x := by
    have hgrid := context_mul_zpow (e := p + exponent p x) hone
    rwa [Int.cast_one, one_mul, zpow_add₀ (by norm_num), zpow_natCast] at hgrid
  have hx : context p x = roundHalfEven (x / 10 ^ exponent p x) * 10 ^ exponent p x := if_neg h0
  rw [hx]
  rcases hle.eq_or_lt with heq | hlt
  · rw [heq]
    push_cast
    exact hcarry
  rcases hge.eq_or_lt with heq | hgt
  · rw [← heq]
    push_cast
    rw [neg_mul, context_neg, hcarry]
  · exact context_mul_zpow (abs_lt.mpr ⟨hgt, hlt⟩)

lemma context_le_zpow (h : 0 < x) : context p x ≤ 10 ^ (Int.log 10 x + 1) := by
  have hpos : (0 : ℚ) < 10 ^ exponent p x := zpow_pos (by norm_num) _
  have hexp : Int.log 10 x + 1 = p + exponent p x := by
    rw [exponent, abs_of_pos h]
    omega
  have hsplit : (10 : ℚ) ^ (Int.log 10 x + 1) = 10 ^ p * 10 ^ exponent p x := by
    rw [hexp, zpow_add₀ (by norm_num), zpow_natCast]
  have hround : roundHalfEven (x / 10 ^ exponent p x) ≤ 10 ^ p := by
    refine roundHalfEven_le ?_
    push_cast
    rw [div_le_iff₀ hpos, ← hsplit]
    exact (Int.lt_zpow_succ_log_self (by norm_num) x).le
  rw [context, if_neg h.ne', hsplit]
  gcongr
  exact_mod_cast hround

lemma zpow_le_context (hp : 1 ≤ p) (h : 0 < x) : 10 ^ Int.log 10 x ≤ context p x := by
  have hpos : (0 : ℚ) < 10 ^ exponent p x := zpow_pos (by norm_num) _
  have hexp : Int.log 10 x = ((p - 1 : ℕ) : ℤ) + exponent p x := by
    rw [exponent, abs_of_pos h]
    omega
  have hsplit : (10 : ℚ) ^ Int.log 10 x = 10 ^ (p - 1) * 10 ^ exponent p x := by
    rw [hexp, zpow_add₀ (by norm_num), zpow_natCast]
  have hround : 10 ^ (p - 1) ≤ roundHalfEven (x / 10 ^ exponent p x) := by
    refine le_roundHalfEven ?_
    push_cast
    rw [le_div_iff₀ hpos, ← hsplit]
    exact Int.zpow_log_le_self (by norm_num) h
  rw [context, if_neg h.ne', hsplit]
  gcongr
  exact_mod_cast hround

lemma context_mono_of_pos {y : ℚ} (hp : 1 ≤ p) (h0 : 0 < x) (h : x ≤ y) : context p x ≤ context p y := by
  have hy := h0.trans_le h
  rcases (Int.log_mono_right h0 h : Int.log 10 x ≤ Int.log 10 y).lt_or_eq with hlt | heq
  · calc context p x ≤ 10 ^ (Int.log 10 x + 1) := context_le_zpow h0
      _ ≤ 10 ^ Int.log 10 y := zpow_le_zpow_right₀ (by norm_num) hlt
      _ ≤ context p y := zpow_le_context hp hy
  · have hexp : exponent p x = exponent p y := by
      rw [exponent, exponent, abs_of_pos h0, abs_of_pos hy, heq]
    have hpos : (0 : ℚ) < 10 ^ exponent p y := zpow_pos (by norm_num) _
    have hround : roundHalfEven (x / 10 ^ exponent p y) ≤ roundHalfEven (y / 10 ^ exponent p y) :=
      roundHalfEven_mono (div_le_div_of_nonneg_right h hpos.le)
    rw [context, if_neg h0.ne', context, if_neg hy.ne', hexp]
    exact mul_le_mul_of_nonneg_right (by exact_mod_cast hround) hpos.le

lemma context_mono {y : ℚ} (hp : 1 ≤ p) (h : x ≤ y) : context p x ≤ context p y := by
  have hneg : ∀ {z : ℚ}, z ≤ 0 → context p z ≤ 0 := by
    intro z hz
    have := context_nonneg (p := p) (neg_nonneg.mpr hz)
    rw [context_neg] at this
    linarith
  rcases lt_or_ge 0 x with hx | hx
  · exact context_mono_of_pos hp hx h
  · rcases lt_or_ge y 0 with hy | hy
    · have hflip := context_mono_of_pos hp (neg_pos.mpr hy) (neg_le_neg h)
      rw [context_neg, context_neg] at hflip
      linarith
    · exact (hneg hx).trans (context_nonneg hy)

lemma abs_context_sub_le_unit (h0 : x ≠ 0) : |context p x - x| ≤ 1 / 2 * 10 ^ exponent p x := by
  have hpos : (0 : ℚ) < 10 ^ exponent p x := zpow_pos (by norm_num) _
  have hround := abs_roundHalfEven_sub_le (x / 10 ^ exponent p x)
  have hscale : context p x - x =
      (roundHalfEven (x / 10 ^ exponent p x) - x / 10 ^ exponent p x) * 10 ^ exponent p x := by
    rw [context, if_neg h0, sub_mul, div_mul_cancel₀ _ hpos.ne']
  rw [hscale, abs_mul, abs_of_pos hpos]
  exact mul_le_mul_of_nonneg_right hround hpos.le

lemma abs_context_sub_le {k : ℕ} (hx : |x| < 10 ^ (p - k : ℤ)) : |context p x - x| ≤ 1 / 2 / 10 ^ k := by
  by_cases h0 : x = 0
  · rw [context, if_pos h0, h0, sub_self, abs_zero]
    positivity
  · have hfine : (10 : ℚ) ^ exponent p x ≤ 1 / 10 ^ k := by
      rw [one_div, ← zpow_natCast, ← zpow_neg]
      exact zpow_le_zpow_right₀ (by norm_num) (exponent_le h0 hx)
    calc |context p x - x| ≤ 1 / 2 * 10 ^ exponent p x := abs_context_sub_le_unit h0
      _ ≤ 1 / 2 * (1 / 10 ^ k) := mul_le_mul_of_nonneg_left hfine (by norm_num)
      _ = 1 / 2 / 10 ^ k := by ring

lemma abs_context_sub_le_mul (p : ℕ) (x : ℚ) : |context p x - x| ≤ 1 / 2 * 10 ^ (1 - p : ℤ) * |x| := by
  by_cases h0 : x = 0
  · rw [context, if_pos h0, h0, sub_self, abs_zero, mul_zero]
  · have hpos : (0 : ℚ) < 10 ^ (1 - p : ℤ) := zpow_pos (by norm_num) _
    have hlog : (10 : ℚ) ^ Int.log 10 |x| ≤ |x| := Int.zpow_log_le_self (by norm_num) (abs_pos.mpr h0)
    have hexponent : exponent p x = (1 - p : ℤ) + Int.log 10 |x| := by
      rw [exponent]
      omega
    calc |context p x - x| ≤ 1 / 2 * 10 ^ exponent p x := abs_context_sub_le_unit h0
      _ = 1 / 2 * 10 ^ (1 - p : ℤ) * 10 ^ Int.log 10 |x| := by
          rw [hexponent, zpow_add₀ (by norm_num)]
          ring
      _ ≤ 1 / 2 * 10 ^ (1 - p : ℤ) * |x| := mul_le_mul_of_nonneg_left hlog (mul_pos (by norm_num) hpos).le

lemma lt_of_context_lt {k : ℕ} {m : ℤ} (hp : 1 ≤ p) (hm : |m| < 10 ^ p) (h : context p x < m / 10 ^ k) :
    x < m / 10 ^ k := by
  by_contra hle
  have hmono := context_mono hp (not_lt.mp hle)
  rw [context_grid hm] at hmono
  exact absurd h (not_lt.mpr hmono)

lemma abs_lt_of_context {n : ℕ} (hn : n < p) (h : |context p x| < 10 ^ n) : |x| < 10 ^ n := by
  have hgrid : (10 : ℚ) ^ n = (10 ^ n : ℤ) / 10 ^ 0 := by norm_num
  have hsmall : |(10 : ℤ) ^ n| < 10 ^ p := by
    rw [abs_of_pos (by positivity)]
    exact pow_lt_pow_right₀ (by norm_num) hn
  have hp : 1 ≤ p := by omega
  have hneg := (abs_lt.mp h).1
  have hpos := (abs_lt.mp h).2
  rw [neg_lt, ← context_neg] at hneg
  rw [hgrid] at hneg hpos ⊢
  rw [abs_lt, neg_lt]
  exact ⟨lt_of_context_lt hp hsmall hneg, lt_of_context_lt hp hsmall hpos⟩

end Context

section Columns

variable {d k : ℕ} {x : ℚ} {n : Numeric d k} {m m' : ℤ}

lemma units_injective {a b : Numeric d k} (h : a.units = b.units) : a = b := by
  cases a
  cases b
  cases h
  rfl

lemma scaled_mul (k : ℕ) (m : ℤ) : scaled k m * 10 ^ k = m :=
  div_mul_cancel₀ _ (by positivity)

@[simp] lemma scaled_add (k : ℕ) (m m' : ℤ) : scaled k m + scaled k m' = scaled k (m + m') := by
  simp only [scaled, Int.cast_add, add_div]

@[simp] lemma scaled_sub (k : ℕ) (m m' : ℤ) : scaled k m - scaled k m' = scaled k (m - m') := by
  simp only [scaled, Int.cast_sub, sub_div]

@[simp] lemma scaled_neg (k : ℕ) (m : ℤ) : -scaled k m = scaled k (-m) := by
  simp only [scaled, Int.cast_neg, neg_div]

@[simp] lemma scaled_le : scaled k m ≤ scaled k m' ↔ m ≤ m' := by
  rw [scaled, scaled, div_le_div_iff_of_pos_right (by positivity), Int.cast_le]

@[simp] lemma scaled_lt : scaled k m < scaled k m' ↔ m < m' := by
  rw [scaled, scaled, div_lt_div_iff_of_pos_right (by positivity), Int.cast_lt]

@[simp] lemma scaled_nonpos : scaled k m ≤ 0 ↔ m ≤ 0 := by
  have h0 : scaled k 0 = 0 := by rw [scaled, Int.cast_zero, zero_div]
  rw [← h0, scaled_le]

lemma abs_scaled_quantize_sub_le (k : ℕ) (x : ℚ) : |scaled k (quantize k x) - x| ≤ 1 / 2 / 10 ^ k := by
  have hpos : (0 : ℚ) < 10 ^ k := by positivity
  have hscale : scaled k (quantize k x) - x = (roundHalfEven (x * 10 ^ k) - x * 10 ^ k) / 10 ^ k := by
    rw [sub_div, mul_div_cancel_right₀ _ hpos.ne']
    rfl
  rw [hscale, abs_div, abs_of_pos hpos]
  exact div_le_div_of_nonneg_right (abs_roundHalfEven_sub_le _) hpos.le

lemma store_eq_some : store d k x = some n ↔ roundHalfAway (x * 10 ^ k) = n.units := by
  rw [store]
  split
  · rw [Option.some.injEq]
    exact ⟨fun e => e ▸ rfl, fun e => units_injective e⟩
  · next h =>
    refine ⟨fun e => (nomatch e), fun e => ?_⟩
    rw [e] at h
    exact (h n.fits).elim

lemma store_isSome : (store d k x).isSome ↔ |roundHalfAway (x * 10 ^ k)| < 10 ^ d := by
  rw [store]
  split
  · next h => simp [h]
  · next h => simp [h]

lemma abs_store_sub_le (h : store d k x = some n) : |n.value - x| ≤ 1 / 2 / 10 ^ k := by
  have hpos : (0 : ℚ) < 10 ^ k := by positivity
  have hround := abs_roundHalfAway_sub_le (x * 10 ^ k)
  rw [store_eq_some.mp h] at hround
  have hscale : n.value - x = (n.units - x * 10 ^ k) / 10 ^ k := by
    rw [Numeric.value, scaled]
    field_simp
  rw [hscale, abs_div, abs_of_pos hpos]
  exact div_le_div_of_nonneg_right hround hpos.le

lemma store_scaled : store d k (scaled k m) = some n ↔ m = n.units := by
  rw [store_eq_some, scaled_mul, roundHalfAway_intCast]

lemma store_scaled_isSome : (store d k (scaled k m)).isSome ↔ |m| < 10 ^ d := by
  rw [store_isSome, scaled_mul, roundHalfAway_intCast]

lemma store_value (n : Numeric d k) : store d k n.value = some n :=
  store_scaled.mpr rfl

lemma context_scaled {p : ℕ} (h : |m| < 10 ^ p) : context p (scaled k m) = scaled k m :=
  context_grid h

end Columns

section Ties

def Tie (x : ℚ) : Prop := Int.fract x = 1 / 2

instance (x : ℚ) : Decidable (Tie x) := inferInstanceAs (Decidable (_ = _))

/-- Rounding `x` to `y` crosses no half integer, and moves no half integer. -/
def Faithful (x y : ℚ) : Prop :=
  ∀ n : ℤ, ((x : ℚ) ≤ n + 1 / 2 → y ≤ n + 1 / 2) ∧ ((n + 1 / 2 : ℚ) ≤ x → n + 1 / 2 ≤ y)

variable {x y : ℚ}

lemma tie_iff : Tie x ↔ x = ⌊x⌋ + 1 / 2 := by
  rw [Tie, Int.fract, sub_eq_iff_eq_add']

lemma tie_add_half (n : ℤ) : Tie (n + 1 / 2) := by
  rw [tie_iff, Int.floor_intCast_add]
  norm_num

/-- Rounding twice differs from rounding once exactly when the first rounding lifts the value onto
a tie. -/
lemma floor_add_half (h : Faithful x y) :
    ⌊y + 1 / 2⌋ = ⌊x + 1 / 2⌋ + if Tie y ∧ x < y then 1 else 0 := by
  have hlo := Int.floor_le (x + 1 / 2)
  have hhi := Int.lt_floor_add_one (x + 1 / 2)
  have hbelow : (⌊x + 1 / 2⌋ : ℚ) ≤ y + 1 / 2 := by
    have := (h (⌊x + 1 / 2⌋ - 1)).2 (by push_cast; linarith)
    push_cast at this
    linarith
  have habove : y ≤ ⌊x + 1 / 2⌋ + 1 / 2 := (h ⌊x + 1 / 2⌋).1 (by linarith)
  split
  · next ht =>
    have hy : y = ⌊x + 1 / 2⌋ + 1 / 2 := by
      refine le_antisymm habove ?_
      by_contra hlt
      have hfloor : ⌊y⌋ = ⌊x + 1 / 2⌋ - 1 := by
        have heq := tie_iff.mp ht.1
        have h1 : ((⌊x + 1 / 2⌋ - 1 : ℤ) : ℚ) ≤ ⌊y⌋ := by push_cast; linarith
        have h2 : (⌊y⌋ : ℚ) < ⌊x + 1 / 2⌋ := by linarith
        have h1' : ⌊x + 1 / 2⌋ - 1 ≤ ⌊y⌋ := by exact_mod_cast h1
        have h2' : ⌊y⌋ < ⌊x + 1 / 2⌋ := by exact_mod_cast h2
        omega
      have heq := tie_iff.mp ht.1
      rw [hfloor] at heq
      push_cast at heq
      linarith [ht.2]
    rw [Int.floor_eq_iff]
    push_cast
    exact ⟨by linarith, by linarith⟩
  · next ht =>
    rw [Int.floor_eq_iff]
    push_cast
    refine ⟨by linarith, ?_⟩
    rcases habove.lt_or_eq with hlt | heq
    · linarith
    · refine absurd ⟨?_, ?_⟩ ht
      · rw [heq]
        exact tie_add_half _
      · linarith

/-- Rounding the complement up and rounding the value twice differ exactly when the first rounding
ends on a tie without lowering the value. -/
lemma floor_add_half_eq_ceil (h : Faithful x y) :
    ⌊y + 1 / 2⌋ = ⌈x - 1 / 2⌉ + if Tie y ∧ x ≤ y then 1 else 0 := by
  have hlo := Int.ceil_lt_add_one (x - 1 / 2)
  have hhi := Int.le_ceil (x - 1 / 2)
  have habove : y ≤ ⌈x - 1 / 2⌉ + 1 / 2 := (h ⌈x - 1 / 2⌉).1 (by linarith)
  have hbelow : (⌈x - 1 / 2⌉ : ℚ) - 1 / 2 ≤ y := by
    have := (h (⌈x - 1 / 2⌉ - 1)).2 (by push_cast; linarith)
    push_cast at this
    linarith
  split
  · next ht =>
    have heq := tie_iff.mp ht.1
    have hfloor : ⌊y⌋ = ⌈x - 1 / 2⌉ := by
      have h1 : (⌈x - 1 / 2⌉ : ℚ) - 1 < ⌊y⌋ := by linarith [ht.2]
      have h2 : (⌊y⌋ : ℚ) ≤ ⌈x - 1 / 2⌉ := by linarith
      have h1' : ⌈x - 1 / 2⌉ - 1 < ⌊y⌋ := by exact_mod_cast h1
      have h2' : ⌊y⌋ ≤ ⌈x - 1 / 2⌉ := by exact_mod_cast h2
      omega
    rw [hfloor] at heq
    rw [Int.floor_eq_iff]
    push_cast
    exact ⟨by linarith, by linarith⟩
  · next ht =>
    rw [Int.floor_eq_iff]
    push_cast
    refine ⟨by linarith, ?_⟩
    rcases habove.lt_or_eq with hlt | heq
    · linarith
    · refine absurd ⟨?_, ?_⟩ ht
      · rw [heq]
        exact tie_add_half _
      · linarith

end Ties

end TrxSimulator.Foundations.Decimals
