import TrxSimulator.Foundations.Decimals

/-! Binary floating point of 53 bits, in the range where no value overflows or is subnormal, and the shortest
decimal that reads back as a float. -/

namespace TrxSimulator.Foundations.Floats

open Decimals

def float (x : ℚ) : ℚ :=
  if x = 0 then 0
  else roundHalfEven (x / 2 ^ (Int.log 2 |x| - 52)) * 2 ^ (Int.log 2 |x| - 52)

/-- The decimal of so many digits nearest to a value, and the one on the value's other side. -/
def neighbours (digits : ℕ) (x : ℚ) : List ℚ :=
  let unit := 10 ^ exponent digits x
  let nearest := roundHalfEven (x / unit)
  [nearest * unit, (if nearest * unit ≤ x then nearest + 1 else nearest - 1 : ℤ) * unit]

def str (x : ℚ) : ℚ :=
  if x = 0 then 0
  else (((List.range 17).flatMap fun digits => neighbours (digits + 1) x).find? fun y => float y = x).getD
    (context 17 x)

section Digits

variable {p : ℕ} {x y : ℚ}

lemma context_zpow {m e : ℤ} (h : |m| < 10 ^ p) : context p (m * 10 ^ e) = m * 10 ^ e := by
  by_cases h0 : (m : ℚ) * 10 ^ e = 0
  · rw [context, if_pos h0, h0]
  · have hsize : |(m : ℚ) * 10 ^ e| < 10 ^ (p + e : ℤ) := by
      have hm : |(m : ℚ)| < 10 ^ p := by exact_mod_cast h
      rw [abs_mul, abs_of_pos (zpow_pos (by norm_num : (0 : ℚ) < 10) e), zpow_add₀ (by norm_num), zpow_natCast]
      exact mul_lt_mul_of_pos_right hm (zpow_pos (by norm_num) e)
    have hexponent : exponent p (m * 10 ^ e) ≤ e := by
      have hlog := (Int.lt_zpow_iff_log_lt (by norm_num : 1 < 10) (abs_pos.mpr h0)).mp hsize
      rw [exponent]
      omega
    obtain ⟨j, hj⟩ := Int.eq_ofNat_of_zero_le (sub_nonneg.mpr hexponent)
    have hwhole : (m : ℚ) * 10 ^ e / 10 ^ exponent p (m * 10 ^ e) = (m * 10 ^ j : ℤ) := by
      rw [mul_div_assoc, ← zpow_sub₀ (by norm_num), hj, zpow_natCast]
      push_cast
      rfl
    rw [context, if_neg h0, hwhole, roundHalfEven_intCast, ← hwhole]
    exact div_mul_cancel₀ _ (zpow_pos (by norm_num) _).ne'

lemma abs_roundHalfEven_le {n : ℤ} (h : |x| ≤ n) : |roundHalfEven x| ≤ n := by
  obtain ⟨hlow, hhigh⟩ := abs_le.mp h
  rw [abs_le]
  exact ⟨le_roundHalfEven (by push_cast; exact hlow), roundHalfEven_le hhigh⟩

lemma significand_le (p : ℕ) (x : ℚ) : |roundHalfEven (x / 10 ^ exponent p x)| ≤ 10 ^ p := by
  apply abs_roundHalfEven_le
  have hpos : (0 : ℚ) < 10 ^ exponent p x := zpow_pos (by norm_num) _
  rw [abs_div, abs_of_pos hpos, div_le_iff₀ hpos]
  push_cast
  rw [← zpow_natCast (10 : ℚ) p, ← zpow_add₀ (by norm_num)]
  have hlog := Int.lt_zpow_succ_log_self (by norm_num : 1 < 10) |x|
  have hexponent : (p : ℤ) + exponent p x = Int.log 10 |x| + 1 := by
    rw [exponent]
    omega
  rw [hexponent]
  exact hlog.le

lemma context_neighbours {digits : ℕ} (hd : digits + 1 < p) (h : y ∈ neighbours digits x) : context p y = y := by
  have hbound := significand_le digits x
  have hp : (10 : ℤ) ^ digits + 1 < 10 ^ p := by
    have hdigits : (0 : ℤ) < 10 ^ digits := by positivity
    calc (10 : ℤ) ^ digits + 1 < 10 ^ (digits + 1) := by
          rw [pow_succ]
          omega
      _ ≤ 10 ^ p := pow_le_pow_right₀ (by norm_num) hd.le
  rw [abs_le] at hbound
  simp only [neighbours, List.mem_cons, List.not_mem_nil, or_false] at h
  obtain rfl | rfl := h
  · apply context_zpow
    rw [abs_lt]
    omega
  · apply context_zpow
    rw [abs_lt]
    split <;> omega

/-- What is written for a float has at most 17 digits, and loses none in a wider context. -/
lemma context_str (hp : 18 < p) (x : ℚ) : context p (str x) = str x := by
  rw [str]
  split
  · simp [context]
  · next h0 =>
    cases hfind : ((List.range 17).flatMap fun digits => neighbours (digits + 1) x).find? fun y => float y = x with
    | none =>
      have hcontext : context 17 x ∈ neighbours 17 x := by simp [context, h0, neighbours]
      exact context_neighbours (by omega) hcontext
    | some y =>
      obtain ⟨digits, hdigits, hy⟩ := List.mem_flatMap.mp (List.mem_of_find?_eq_some hfind)
      have hrange := List.mem_range.mp hdigits
      exact context_neighbours (by omega) hy

lemma float_nonpos (h : x ≤ 0) : float x ≤ 0 := by
  rw [float]
  split
  · exact le_rfl
  · have hpos : (0 : ℚ) < 2 ^ (Int.log 2 |x| - 52) := zpow_pos (by norm_num) _
    have hround : roundHalfEven (x / 2 ^ (Int.log 2 |x| - 52)) ≤ 0 := by
      apply roundHalfEven_le
      exact_mod_cast div_nonpos_of_nonpos_of_nonneg h hpos.le
    exact mul_nonpos_of_nonpos_of_nonneg (by exact_mod_cast hround) hpos.le

lemma float_nonneg (h : 0 ≤ x) : 0 ≤ float x := by
  rw [float]
  split
  · exact le_rfl
  · have hpos : (0 : ℚ) < 2 ^ (Int.log 2 |x| - 52) := zpow_pos (by norm_num) _
    have hround : 0 ≤ roundHalfEven (x / 2 ^ (Int.log 2 |x| - 52)) := by
      apply le_roundHalfEven
      exact_mod_cast div_nonneg h hpos.le
    exact mul_nonneg (by exact_mod_cast hround) hpos.le

lemma str_pos (h : 0 < x) : 0 < str x := by
  rw [str, if_neg h.ne']
  cases hfind : ((List.range 17).flatMap fun digits => neighbours (digits + 1) x).find? fun y => float y = x with
  | none =>
    have hcontext : 10 ^ Int.log 10 x ≤ context 17 x := zpow_le_context (by norm_num) h
    exact (zpow_pos (by norm_num) _).trans_le hcontext
  | some y =>
    have hfloat : float y = x := by simpa using List.find?_some hfind
    rw [Option.getD_some]
    by_contra hy
    exact absurd (float_nonpos (not_lt.mp hy)) (by rw [hfloat]; exact not_le.mpr h)

lemma str_neg_of_neg (h : x < 0) : str x < 0 := by
  rw [str, if_neg h.ne]
  cases hfind : ((List.range 17).flatMap fun digits => neighbours (digits + 1) x).find? fun y => float y = x with
  | none =>
    have hcontext : 10 ^ Int.log 10 (-x) ≤ context 17 (-x) := zpow_le_context (by norm_num) (neg_pos.mpr h)
    have hpos : 0 < context 17 (-x) := (zpow_pos (by norm_num) _).trans_le hcontext
    rw [context_neg] at hpos
    exact neg_pos.mp hpos
  | some y =>
    have hfloat : float y = x := by simpa using List.find?_some hfind
    rw [Option.getD_some]
    by_contra hy
    exact absurd (float_nonneg (not_lt.mp hy)) (by rw [hfloat]; exact not_le.mpr h)

lemma float_zero : float 0 = 0 := if_pos rfl

lemma str_zero : str 0 = 0 := if_pos rfl

lemma str_nonneg_iff : 0 ≤ str x ↔ 0 ≤ x := by
  constructor
  · intro h
    by_contra hneg
    exact absurd (str_neg_of_neg (not_le.mp hneg)) (not_lt.mpr h)
  · intro h
    obtain hpos | rfl := h.lt_or_eq
    · exact (str_pos hpos).le
    · exact str_zero.ge

end Digits

section Relative

variable {p : ℕ}

/-- The part of a value that its rounding to a float takes at most. -/
def ulp : ℚ := 1 / 2 ^ 53

lemma abs_float_sub_le (x : ℚ) : |float x - x| ≤ ulp * |x| := by
  by_cases h0 : x = 0
  · rw [float, if_pos h0, h0, sub_self, abs_zero, mul_zero]
  · have hpos : (0 : ℚ) < 2 ^ (Int.log 2 |x| - 52) := zpow_pos (by norm_num) _
    have hlog : (2 : ℚ) ^ Int.log 2 |x| ≤ |x| := Int.zpow_log_le_self (by norm_num) (abs_pos.mpr h0)
    have hround := abs_roundHalfEven_sub_le (x / 2 ^ (Int.log 2 |x| - 52))
    have hscale : float x - x = (roundHalfEven (x / 2 ^ (Int.log 2 |x| - 52)) - x / 2 ^ (Int.log 2 |x| - 52)) *
        2 ^ (Int.log 2 |x| - 52) := by
      rw [float, if_neg h0, sub_mul, div_mul_cancel₀ _ hpos.ne']
    have hunit : (2 : ℚ) ^ (Int.log 2 |x| - 52) = 2 ^ Int.log 2 |x| / 2 ^ 52 := by
      rw [zpow_sub₀ (by norm_num)]
      norm_num
    calc |float x - x| ≤ 1 / 2 * 2 ^ (Int.log 2 |x| - 52) := by
          rw [hscale, abs_mul, abs_of_pos hpos]
          exact mul_le_mul_of_nonneg_right hround hpos.le
      _ = ulp * 2 ^ Int.log 2 |x| := by
          rw [hunit, ulp]
          ring
      _ ≤ ulp * |x| := mul_le_mul_of_nonneg_left hlog (by norm_num [ulp])

lemma abs_float_ge (x : ℚ) : (1 - ulp) * |x| ≤ |float x| := by
  have hclose := (abs_sub_abs_le_abs_sub x (float x)).trans_eq (abs_sub_comm x (float x))
  linarith [abs_float_sub_le x]

lemma abs_context_ge (hp : 17 ≤ p) (x : ℚ) : (1 - ulp) * |x| ≤ |context p x| := by
  have hclose := (abs_sub_abs_le_abs_sub x (context p x)).trans_eq (abs_sub_comm x (context p x))
  have hdigits : (10 : ℚ) ^ (1 - p : ℤ) ≤ 10 ^ (-16 : ℤ) := zpow_le_zpow_right₀ (by norm_num) (by omega)
  have hpart : 1 / 2 * (10 : ℚ) ^ (1 - p : ℤ) ≤ ulp := by
    norm_num [ulp] at hdigits ⊢
    linarith
  linarith [abs_context_sub_le_mul p x, mul_le_mul_of_nonneg_right hpart (abs_nonneg x)]

lemma abs_str_ge (x : ℚ) : (1 - ulp) * |x| ≤ |str x| := by
  rw [str]
  split
  · next h0 => simp [h0]
  · cases hfind : ((List.range 17).flatMap fun digits => neighbours (digits + 1) x).find? fun y => float y = x with
    | none => exact abs_context_ge le_rfl x
    | some y =>
      have hfloat : float y = x := by simpa using List.find?_some hfind
      have hclose := (abs_sub_abs_le_abs_sub (float y) y).trans (abs_float_sub_le y)
      rw [hfloat] at hclose
      rw [Option.getD_some]
      norm_num [ulp] at hclose ⊢
      linarith [abs_nonneg x]

end Relative

end TrxSimulator.Foundations.Floats
