import TrxSimulator.Foundations.Decimals

/-! Amounts of money: the cent columns, and the sums the program takes of them in its decimal context. -/

namespace TrxSimulator.Money

open Foundations.Decimals

abbrev Amount := Numeric 18 2

instance : Inhabited Amount := ⟨⟨0, by decide⟩⟩

def precision : ℕ := 28

def plus (x y : ℚ) : ℚ := context precision (x + y)

def minus (x y : ℚ) : ℚ := context precision (x - y)

def negate (x : ℚ) : ℚ := context precision (-x)

def times (x y : ℚ) : ℚ := context precision (x * y)

def divide (x y : ℚ) : ℚ := context precision (x / y)

def percent (x y : ℚ) : ℚ := times (divide x y) 100

lemma plus_scaled {a b : ℤ} (h : |a + b| < 10 ^ precision) :
    plus (scaled 2 a) (scaled 2 b) = scaled 2 (a + b) := by
  rw [plus, scaled_add, context_scaled h]

lemma minus_scaled {a b : ℤ} (h : |a - b| < 10 ^ precision) :
    minus (scaled 2 a) (scaled 2 b) = scaled 2 (a - b) := by
  rw [minus, scaled_sub, context_scaled h]

lemma negate_scaled {a : ℤ} (h : |a| < 10 ^ precision) : negate (scaled 2 a) = scaled 2 (-a) := by
  rw [negate, scaled_neg, context_scaled (by rwa [abs_neg])]

section Percentages

variable {a b c : ℤ}

lemma percent_neg (x y : ℚ) : percent (-x) y = -percent x y := by
  rw [percent, percent, times, times, divide, divide, neg_div, context_neg, neg_mul, context_neg]

lemma scaled_div_scaled (k : ℕ) (a b : ℤ) : scaled k a / scaled k b = a / b :=
  div_div_div_cancel_right₀ (by positivity) _ _

lemma percent_le_grid {x y : ℚ} {k : ℕ} {m : ℤ} (hm : |m| < (10 : ℤ) ^ precision) (h : x / y ≤ m / 10 ^ (k + 2)) :
    percent x y ≤ m / 10 ^ k := by
  have hdivide : divide x y ≤ m / 10 ^ (k + 2) := by
    rw [divide, ← context_grid hm]
    exact context_mono (by norm_num [precision]) h
  have hhundred : divide x y * 100 ≤ m / 10 ^ k := by
    refine (mul_le_mul_of_nonneg_right hdivide (by norm_num)).trans (le_of_eq ?_)
    rw [pow_add]
    field_simp
    norm_num
  rw [percent, times, ← context_grid hm]
  exact context_mono (by norm_num [precision]) hhundred

lemma grid_le_percent {x y : ℚ} {k : ℕ} {m : ℤ} (hm : |m| < (10 : ℤ) ^ precision) (h : m / 10 ^ (k + 2) ≤ x / y) :
    m / 10 ^ k ≤ percent x y := by
  have hneg : -x / y ≤ (-m : ℤ) / 10 ^ (k + 2) := by
    push_cast
    rw [neg_div, neg_div]
    exact neg_le_neg h
  have hle := percent_le_grid (by rwa [abs_neg]) hneg
  rw [percent_neg] at hle
  push_cast at hle
  rw [neg_div, neg_le_neg_iff] at hle
  exact hle

lemma percent_le (hb : 0 < b) (hc : |c| < 10 ^ 9) (h : 20000 * a ≤ c * b) :
    percent (scaled 2 a) (scaled 2 b) ≤ c / 200 := by
  have hb' : (0 : ℚ) < b := by exact_mod_cast hb
  have hratio : scaled 2 a / scaled 2 b ≤ (5 * c : ℤ) / 10 ^ (3 + 2) := by
    have hcast : (20000 * a : ℚ) ≤ c * b := by exact_mod_cast h
    rw [scaled_div_scaled, div_le_div_iff₀ hb' (by norm_num)]
    push_cast
    linarith
  have hfit : |5 * c| < (10 : ℤ) ^ precision := by
    rw [precision, abs_mul]
    norm_num at hc ⊢
    omega
  calc percent (scaled 2 a) (scaled 2 b) ≤ (5 * c : ℤ) / 10 ^ 3 := percent_le_grid hfit hratio
    _ = c / 200 := by push_cast; ring

lemma lt_percent (hb : 0 < b) (hbound : b < 10 ^ 13) (hc : |c| < 10 ^ 9) (h : c * b < 20000 * a) :
    c / 200 < percent (scaled 2 a) (scaled 2 b) := by
  have hb' : (0 : ℚ) < b := by exact_mod_cast hb
  have hratio : ((5 * c * 10 ^ 13 + 1 : ℤ) : ℚ) / 10 ^ (16 + 2) ≤ scaled 2 a / scaled 2 b := by
    have hstep : c * b + 1 ≤ 20000 * a := h
    have hcast : (c * b + 1 : ℚ) ≤ 20000 * a := by exact_mod_cast hstep
    have hsmall : (b : ℚ) ≤ 10 ^ 13 := by exact_mod_cast hbound.le
    rw [scaled_div_scaled, div_le_div_iff₀ (by norm_num) hb']
    push_cast
    linarith
  have hfit : |5 * c * 10 ^ 13 + 1| < (10 : ℤ) ^ precision := by
    have hbounds := abs_lt.mp hc
    rw [precision, abs_lt]
    norm_num at hbounds ⊢
    omega
  calc (c / 200 : ℚ) < ((5 * c * 10 ^ 13 + 1 : ℤ) : ℚ) / 10 ^ 16 := by
        push_cast
        linarith
    _ ≤ percent (scaled 2 a) (scaled 2 b) := grid_le_percent hfit hratio

lemma lt_percent_iff (hb : 0 < b) (hbound : b < 10 ^ 13) (hc : |c| < 10 ^ 9) :
    c / 200 < percent (scaled 2 a) (scaled 2 b) ↔ c * b < 20000 * a := by
  refine ⟨fun h => ?_, lt_percent hb hbound hc⟩
  by_contra hle
  exact absurd h (not_lt.mpr (percent_le hb hc (not_lt.mp hle)))

lemma percent_lt_iff (hb : 0 < b) (hbound : b < 10 ^ 13) (hc : |c| < 10 ^ 9) :
    percent (scaled 2 a) (scaled 2 b) < c / 200 ↔ 20000 * a < c * b := by
  have hneg := lt_percent_iff (a := -a) hb hbound (by rwa [abs_neg] : |(-c)| < 10 ^ 9)
  rw [← scaled_neg, percent_neg] at hneg
  push_cast at hneg
  rw [neg_div, neg_lt_neg_iff] at hneg
  rw [hneg]
  constructor <;> intro h <;> linarith

lemma percent_eq_iff (hb : 0 < b) (hbound : b < 10 ^ 13) (hc : |c| < 10 ^ 9) :
    percent (scaled 2 a) (scaled 2 b) = c / 200 ↔ 20000 * a = c * b := by
  have hlt := percent_lt_iff (a := a) hb hbound hc
  have hgt := lt_percent_iff (a := a) hb hbound hc
  constructor
  · intro h
    rw [h] at hlt hgt
    have h1 : ¬ 20000 * a < c * b := fun hx => absurd (hlt.mpr hx) (lt_irrefl _)
    have h2 : ¬ c * b < 20000 * a := fun hx => absurd (hgt.mpr hx) (lt_irrefl _)
    omega
  · intro h
    have h1 : ¬ percent (scaled 2 a) (scaled 2 b) < c / 200 := fun hx => absurd (hlt.mp hx) (by omega)
    have h2 : ¬ c / 200 < percent (scaled 2 a) (scaled 2 b) := fun hx => absurd (hgt.mp hx) (by omega)
    exact le_antisymm (not_lt.mp h2) (not_lt.mp h1)

end Percentages

end TrxSimulator.Money
