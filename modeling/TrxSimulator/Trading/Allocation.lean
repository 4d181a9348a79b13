import TrxSimulator.Trading.Charges

/-! Opening charges as they are posted: exactly what the rounded balance loses, in cents, and close to the charges
themselves as long as the difference of 28 digits is rounded to the cent that the exact difference is rounded to. -/

namespace TrxSimulator.Trading.Allocation

open Foundations.Decimals Money Charges

/-- What the two subtractions of the decimal context leave of a balance. -/
def remaining (balance commission spread : ℚ) : ℚ := minus (minus balance commission) spread

/-- A half between two integers on one side of `x` is on that side of `y` too, or `y` is the half itself and is
rounded back to the side of `x`. -/
def KeepsSides (x y : ℚ) : Prop :=
  ∀ n : ℤ, (x < n - 1 / 2 → y < n - 1 / 2 ∨ (y = n - 1 / 2 ∧ ¬ Even n)) ∧
    (n - 1 / 2 < x → n - 1 / 2 < y ∨ (y = n - 1 / 2 ∧ Even n))

structure Allocated (balance : ℤ) (commission spread posted commissionPosted spreadPosted : ℚ) : Prop where
  cents : ∃ p m n : ℤ, posted = scaled 2 p ∧ commissionPosted = scaled 2 m ∧ spreadPosted = scaled 2 n
  balance : posted = scaled 2 balance - commissionPosted - spreadPosted
  noCommission : commission = 0 → commissionPosted = 0
  noSpread : spread = 0 → spreadPosted = 0

structure Close (commission spread commissionPosted spreadPosted : ℚ) : Prop where
  commission_nonneg : 0 ≤ commissionPosted
  spread_nonneg : 0 ≤ spreadPosted
  total : |commissionPosted + spreadPosted - (commission + spread)| ≤ 1 / 200
  commission : |commissionPosted - commission| ≤ 1 / 100
  spread : |spreadPosted - spread| ≤ 1 / 100

section Rounding

variable {x y : ℚ}

lemma keepsSides_iff : KeepsSides x y ↔ |roundHalfEven y - x| ≤ 1 / 2 := by
  rw [abs_le]
  constructor
  · intro h
    constructor
    · by_contra hlow
      have hup := le_roundHalfEven_iff.mpr ((h (roundHalfEven y + 1)).2 (by push_cast; linarith))
      omega
    · by_contra hhigh
      have hround := le_roundHalfEven_iff.mp (le_refl (roundHalfEven y))
      rcases (h (roundHalfEven y)).1 (by linarith) with hlt | ⟨heq, hodd⟩
      · rcases hround with hgt | ⟨heq, -⟩ <;> linarith
      · rcases hround with hgt | ⟨-, heven⟩
        · linarith
        · exact hodd heven
  · rintro ⟨hlow, hhigh⟩ n
    constructor
    · intro hx
      have hlt : ¬ n ≤ roundHalfEven y := by
        intro hle
        have hcast : (n : ℚ) ≤ roundHalfEven y := by exact_mod_cast hle
        linarith
      rw [le_roundHalfEven_iff, not_or, not_and] at hlt
      rcases (not_lt.mp hlt.1).lt_or_eq with hy | hy
      · exact .inl hy
      · exact .inr ⟨hy, hlt.2 hy⟩
    · intro hx
      apply le_roundHalfEven_iff.mp
      have hcast : (n : ℚ) - 1 < roundHalfEven y := by linarith
      have hlt : n - 1 < roundHalfEven y := by exact_mod_cast hcast
      omega

lemma keepsSides_refl (x : ℚ) : KeepsSides x x := keepsSides_iff.mpr (abs_roundHalfEven_sub_le x)

end Rounding

section Sizes

variable {x y : ℚ}

lemma minus_bounds (low high : ℤ) (hsize : |x - y| < 10 ^ 28) (hlow : low ≤ x - y) (hhigh : x - y ≤ high) :
    low ≤ minus x y ∧ minus x y ≤ high := by
  have hsize' : |x - y| < 10 ^ ((precision : ℤ) - ((0 : ℕ) : ℤ)) := by
    rw [precision]
    exact_mod_cast hsize
  rw [minus]
  constructor
  · simpa using le_context (k := 0) (m := low) hsize' (by simpa using hlow)
  · simpa using context_le (k := 0) (m := high) hsize' (by simpa using hhigh)

lemma scaled_cents (m : ℤ) : scaled 2 m = m / 100 := by
  rw [scaled]
  norm_num

lemma quantize_bounds (low high : ℤ) (hlow : low ≤ x * 10 ^ 2) (hhigh : x * 10 ^ 2 ≤ high) :
    low ≤ quantize 2 x ∧ quantize 2 x ≤ high :=
  ⟨le_roundHalfEven hlow, roundHalfEven_le hhigh⟩

/-- Neither subtraction, nor the rounding to cents, leaves the digits of the context. -/
lemma remaining_bounds {balance : ℤ} {commission spread : ℚ} (hbalance : |balance| < 10 ^ 27) (hc : 0 ≤ commission)
    (hs : 0 ≤ spread) (hc' : commission < 10 ^ 25) (hs' : spread < 10 ^ 25) :
    |quantize 2 (remaining (scaled 2 balance) commission spread)| ≤ 3 * 10 ^ 27 := by
  have hb : |(balance : ℚ)| < 10 ^ 27 := by exact_mod_cast hbalance
  rw [abs_lt] at hb
  obtain ⟨hlow1, hhigh1⟩ := minus_bounds (x := scaled 2 balance) (y := commission) (-(2 * 10 ^ 25))
    (10 ^ 25) (by
      rw [scaled_cents, abs_lt]
      norm_num at hb hc' ⊢
      constructor <;> linarith) (by
      rw [scaled_cents]
      push_cast
      linarith) (by
      rw [scaled_cents]
      push_cast
      linarith)
  push_cast at hlow1 hhigh1
  obtain ⟨hlow2, hhigh2⟩ := minus_bounds (x := minus (scaled 2 balance) commission) (y := spread)
    (-(3 * 10 ^ 25)) (10 ^ 25) (by
      rw [abs_lt]
      norm_num at hlow1 hhigh1 hs' ⊢
      constructor <;> linarith) (by
      push_cast
      linarith) (by
      push_cast
      linarith)
  push_cast at hlow2 hhigh2
  rw [abs_le]
  apply quantize_bounds
  · push_cast
    rw [remaining]
    linarith
  · push_cast
    rw [remaining]
    linarith

end Sizes

section Posted

variable {balance q m : ℤ} {commission spread : ℚ}

/-- With both charges the residual is the spread's: it is not negative, because the spread is positive. -/
lemma close_both (hc : 0 ≤ commission) (hs : 0 < spread) (hm : m = quantize 2 commission) :
    Close commission spread (scaled 2 m) (scaled 2 (balance - q - m)) ↔
      |q - (scaled 2 balance - commission - spread) * 10 ^ 2| ≤ 1 / 2 := by
  have hround : |m - commission * 10 ^ 2| ≤ 1 / 2 := hm ▸ abs_roundHalfEven_sub_le _
  have hm0 : 0 ≤ m := hm ▸ le_roundHalfEven (by push_cast; positivity)
  have hcast : (0 : ℚ) ≤ m := by exact_mod_cast hm0
  rw [abs_le] at hround
  simp only [scaled_cents]
  push_cast
  constructor
  · intro h
    have htotal := abs_le.mp h.total
    rw [abs_le]
    constructor <;> linarith
  · intro h
    rw [abs_le] at h
    have hresidual : (0 : ℤ) ≤ balance - q - m := by
      have hlt : ((q + m : ℤ) : ℚ) < (balance + 1 : ℤ) := by
        push_cast
        linarith
      have hle : q + m < balance + 1 := by exact_mod_cast hlt
      omega
    have hresidual' : (0 : ℚ) ≤ balance - q - m := by exact_mod_cast hresidual
    refine ⟨by positivity, by linarith, abs_le.mpr ⟨by linarith, by linarith⟩, abs_le.mpr ⟨by linarith, by linarith⟩,
      abs_le.mpr ⟨by linarith, by linarith⟩⟩

lemma residual_nonneg (h : |q - (scaled 2 balance - commission) * 10 ^ 2| ≤ 1 / 2) (hc : 0 < commission) :
    (0 : ℚ) ≤ balance - q := by
  rw [abs_le, scaled_cents] at h
  have hlt : (q : ℚ) < (balance + 1 : ℤ) := by
    push_cast
    linarith
  have hle : q < balance + 1 := by exact_mod_cast hlt
  have hnonneg : (0 : ℤ) ≤ balance - q := by omega
  exact_mod_cast hnonneg

lemma close_commission (hc : 0 < commission) :
    Close commission 0 (scaled 2 (balance - q)) 0 ↔ |q - (scaled 2 balance - commission - 0) * 10 ^ 2| ≤ 1 / 2 := by
  constructor
  · intro h
    have htotal := abs_le.mp h.total
    simp only [scaled_cents] at htotal ⊢
    push_cast at htotal
    rw [abs_le]
    constructor <;> linarith
  · intro h
    rw [sub_zero] at h
    have hresidual := residual_nonneg h hc
    simp only [scaled_cents, abs_le] at h
    simp only [scaled_cents]
    push_cast
    refine ⟨by linarith, le_rfl, abs_le.mpr ⟨by linarith, by linarith⟩, abs_le.mpr ⟨by linarith, by linarith⟩, by simp⟩

lemma close_spread (hs : 0 < spread) :
    Close 0 spread 0 (scaled 2 (balance - q)) ↔ |q - (scaled 2 balance - 0 - spread) * 10 ^ 2| ≤ 1 / 2 := by
  constructor
  · intro h
    have htotal := abs_le.mp h.total
    simp only [scaled_cents] at htotal ⊢
    push_cast at htotal
    rw [abs_le]
    constructor <;> linarith
  · intro h
    rw [sub_zero] at h
    have hresidual := residual_nonneg h hs
    simp only [scaled_cents, abs_le] at h
    simp only [scaled_cents]
    push_cast
    refine ⟨le_rfl, by linarith, abs_le.mpr ⟨by linarith, by linarith⟩, by simp, abs_le.mpr ⟨by linarith, by linarith⟩⟩

end Posted

/-- Every allocation is exact in cents; and its charges are close to the exact ones if and only if the difference in
the context rounds to the cents as the exact difference does. -/
theorem opening_charges_allocated {balance : ℤ} {commission spread : ℚ} (hbalance : |balance| < 10 ^ 27)
    (hc : 0 ≤ commission) (hs : 0 ≤ spread) (hc' : commission < 10 ^ 25) (hs' : spread < 10 ^ 25) :
    ∃ posted commissionPosted spreadPosted,
      allocateOpeningCharges (scaled 2 balance) commission spread = .ok (posted, commissionPosted, spreadPosted) ∧
      Allocated balance commission spread posted commissionPosted spreadPosted ∧
      (Close commission spread commissionPosted spreadPosted ↔
        KeepsSides ((scaled 2 balance - commission - spread) * 10 ^ 2)
          (remaining (scaled 2 balance) commission spread * 10 ^ 2)) := by
  have hbounds := remaining_bounds hbalance hc hs hc' hs'
  simp only [keepsSides_iff]
  rw [← quantize, allocateOpeningCharges, if_neg (by simp [hc, hs])]
  dsimp only
  rw [← remaining]
  generalize hq : quantize 2 (remaining (scaled 2 balance) commission spread) = q at hbounds ⊢
  rw [abs_le] at hbounds
  have hb := abs_lt.mp hbalance
  have hm := quantize_bounds (x := commission) 0 (10 ^ 27) (by push_cast; positivity)
    (by push_cast; linarith)
  have htotal : minus (scaled 2 balance) (scaled 2 q) = scaled 2 (balance - q) :=
    minus_scaled (abs_lt.mpr (by rw [precision]; omega))
  have hresidual : minus (scaled 2 (balance - q)) (scaled 2 (quantize 2 commission)) =
      scaled 2 (balance - q - quantize 2 commission) :=
    minus_scaled (abs_lt.mpr (by rw [precision]; omega))
  rw [htotal]
  by_cases hcpos : 0 < commission
  · by_cases hspos : 0 < spread
    · rw [if_pos ⟨hcpos, hspos⟩, hresidual]
      refine ⟨_, _, _, rfl, ⟨⟨_, _, _, rfl, rfl, rfl⟩, ?_, fun h => ?_, fun h => ?_⟩, close_both hc hspos rfl⟩
      · rw [scaled_sub, scaled_sub]
        congr 1
        ring
      · exact absurd h hcpos.ne'
      · exact absurd h hspos.ne'
    · obtain rfl : spread = 0 := le_antisymm (not_lt.mp hspos) hs
      rw [if_neg (by simp), if_pos hcpos]
      refine ⟨_, _, _, rfl, ⟨⟨_, _, 0, rfl, rfl, by simp [scaled]⟩, ?_, fun h => ?_, fun _ => rfl⟩,
        close_commission hcpos⟩
      · rw [sub_zero, scaled_sub]
        congr 1
        ring
      · exact absurd h hcpos.ne'
  · obtain rfl : commission = 0 := le_antisymm (not_lt.mp hcpos) hc
    by_cases hspos : 0 < spread
    · rw [if_neg (by simp), if_neg (by simp), if_pos hspos]
      refine ⟨_, _, _, rfl, ⟨⟨_, 0, _, rfl, by simp [scaled], rfl⟩, ?_, fun _ => rfl, fun h => ?_⟩, close_spread hspos⟩
      · rw [sub_zero, scaled_sub]
        congr 1
        ring
      · exact absurd h hspos.ne'
    · obtain rfl : spread = 0 := le_antisymm (not_lt.mp hspos) hs
      have hunchanged : q = balance := by
        have hcontext : ∀ z : ℚ, minus z 0 = context precision z := fun z => by rw [minus, sub_zero]
        rw [← hq, remaining, hcontext, hcontext, context_scaled (abs_lt.mpr (by rw [precision]; omega)),
          context_scaled (abs_lt.mpr (by rw [precision]; omega)), quantize, scaled_mul, roundHalfEven_intCast]
      rw [if_neg (by simp), if_neg (by simp), if_neg (by simp), hunchanged]
      refine ⟨_, _, _, rfl, ⟨⟨_, 0, 0, rfl, by simp [scaled], by simp [scaled]⟩, by simp, fun _ => rfl, fun _ => rfl⟩, ?_⟩
      rw [sub_zero, sub_zero, scaled_mul]
      exact iff_of_true ⟨le_rfl, le_rfl, by simp, by simp, by simp⟩ (by simp)

lemma keepsSides_exact {balance commission spread : ℚ}
    (h : remaining balance commission spread = balance - commission - spread) :
    KeepsSides ((balance - commission - spread) * 10 ^ 2) (remaining balance commission spread * 10 ^ 2) := by
  rw [h]
  exact keepsSides_refl _

theorem opening_charges_half_cents :
    ∃ posted commissionPosted spreadPosted,
      allocateOpeningCharges (scaled 2 104955) (31 / 1000) (3 / 125) = .ok (posted, commissionPosted, spreadPosted) ∧
      Allocated 104955 (31 / 1000) (3 / 125) posted commissionPosted spreadPosted ∧
      (Close (31 / 1000) (3 / 125) commissionPosted spreadPosted ↔
        KeepsSides ((scaled 2 104955 - 31 / 1000 - 3 / 125) * 10 ^ 2)
          (remaining (scaled 2 104955) (31 / 1000) (3 / 125) * 10 ^ 2)) :=
  opening_charges_allocated (by decide) (by norm_num) (by norm_num) (by norm_num) (by norm_num)

/-- A spread of less than the last digit is lost, and the tie it broke is rounded the other way. -/
theorem tiny_spread_posted_negative :
    allocateOpeningCharges (scaled 2 100001) (3 / 200) (1 / 10 ^ 30) =
        .ok (scaled 2 100000, scaled 2 2, scaled 2 (-1)) ∧
      ¬ Close (3 / 200) (1 / 10 ^ 30) (scaled 2 2) (scaled 2 (-1)) := by
  refine ⟨by decide +kernel, fun h => ?_⟩
  have hnegative := h.spread_nonneg
  rw [scaled_cents] at hnegative
  norm_num at hnegative

end TrxSimulator.Trading.Allocation
