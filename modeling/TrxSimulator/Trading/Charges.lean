import TrxSimulator.Wallets.Drift

/-! Rounding of a balance beside the rounding of the amounts that move it: for charges that are allocated from
the rounded balance, for one amount that is rounded apart, and for a batch of them. -/

namespace TrxSimulator.Trading.Charges

open Foundations.Decimals Foundations.Outcomes Money Wallets.Drift

inductive ChargeError
  | negativeOpeningCharge (commission spread : ℚ)
deriving DecidableEq

/-- The rounded balance, and what is posted as commission and as spread; the residual is the spread's. -/
def allocateOpeningCharges (balance commission spread : ℚ) : Except ChargeError (ℚ × ℚ × ℚ) :=
  if commission < 0 ∨ spread < 0 then .error (.negativeOpeningCharge commission spread)
  else
    let exact := minus (minus balance commission) spread
    let postedBalance := scaled 2 (quantize 2 exact)
    let postedTotal := minus balance postedBalance
    if 0 < commission ∧ 0 < spread then
      let commissionPosted := scaled 2 (quantize 2 commission)
      .ok (postedBalance, commissionPosted, minus postedTotal commissionPosted)
    else if 0 < commission then .ok (postedBalance, postedTotal, 0)
    else if 0 < spread then .ok (postedBalance, 0, postedTotal)
    else .ok (postedBalance, 0, 0)

/-- The 28-digit sum ends on a half cent that it and the amount round to different sides. -/
def Broken (balance amount : ℚ) : Prop :=
  if 0 ≤ balance + amount then
    if 0 ≤ amount then Lifted (balance + amount) else Landed (balance + amount)
  else if amount ≤ 0 then Lifted (-(balance + amount)) else Landed (-(balance + amount))

instance (balance amount : ℚ) : Decidable (Broken balance amount) := by
  unfold Broken
  infer_instance

def cents (x : ℚ) : ℤ := roundHalfAway (x * 10 ^ 2)

def residual (amounts : List ℚ) : ℚ := (amounts.map fun x => x * 10 ^ 2 - cents x).sum

def roundedSum (amounts : List ℚ) : ℤ := (amounts.map cents).sum

/-- The residuals are less than half a cent, or half a cent that is rounded away with the balance. -/
def BatchExact (balance : ℤ) (amounts : List ℚ) : Prop :=
  |residual amounts| < 1 / 2 ∨
    (residual amounts = 1 / 2 ∧ balance + (amounts.sum) * 10 ^ 2 < 0) ∨
    (residual amounts = -1 / 2 ∧ 0 < balance + (amounts.sum) * 10 ^ 2)

instance (balance : ℤ) (amounts : List ℚ) : Decidable (BatchExact balance amounts) := by
  unfold BatchExact
  infer_instance

section Rounding

variable {x : ℚ} {n : ℤ}

lemma cents_neg (x : ℚ) : cents (-x) = -cents x := by
  rw [cents, neg_mul, roundHalfAway_neg, cents]

@[simp] lemma cents_scaled (m : ℤ) : cents (scaled 2 m) = m := by
  rw [cents, scaled_mul, roundHalfAway_intCast]

@[simp] lemma cents_zero : cents 0 = 0 := by
  rw [cents, zero_mul, ← Int.cast_zero, roundHalfAway_intCast]

lemma value_mul_cents {d : ℕ} (b : Numeric d 2) : b.value * 10 ^ 2 = b.units := scaled_mul _ _

lemma store_cents {d : ℕ} {stored : Numeric d 2} : store d 2 x = some stored ↔ cents x = stored.units :=
  store_eq_some

lemma cents_shift {u : ℚ} (h0 : 0 ≤ u) (habs : |u| < 10 ^ 25) (hu : u * 10 ^ 2 = n + x * 10 ^ 2) :
    cents (context precision u) = n + cents x ↔ ¬ if 0 ≤ x then Lifted u else Landed u := by
  rw [cents, cents]
  split
  · next hx =>
    rw [roundHalfAway_context h0 habs, hu, add_assoc, Int.floor_intCast_add,
      roundHalfAway_of_nonneg (mul_nonneg hx (by norm_num))]
    by_cases hlifted : Lifted u <;> simp [hlifted]
  · next hx =>
    have hneg : x * 10 ^ 2 < 0 := mul_neg_of_neg_of_pos (not_le.mp hx) (by norm_num)
    have hround : roundHalfAway (x * 10 ^ 2) = ⌈x * 10 ^ 2 - 1 / 2⌉ := by
      rw [roundHalfAway, if_neg (not_le.mpr hneg), ← Int.ceil_neg, neg_add, neg_neg, sub_eq_add_neg]
    rw [roundHalfAway_context_ceil h0 habs, hu, add_sub_assoc, add_comm (n : ℚ), Int.ceil_add_intCast, hround,
      add_comm n]
    by_cases hlanded : Landed u <;> simp [hlanded]

/-- A balance is rounded with the amount that moves it unless the two roundings part at a half cent. -/
lemma cents_plus_iff {b : Numeric 12 2} (habs : |b.value + x| < 10 ^ 25) :
    cents (plus b.value x) = b.units + cents x ↔ ¬ Broken b.value x := by
  rw [Broken, plus]
  split
  · next hsum => exact cents_shift hsum habs (by rw [add_mul, value_mul_cents])
  · next hsum =>
    have hshift := cents_shift (u := -(b.value + x)) (x := -x) (n := -b.units)
      (neg_nonneg.mpr (not_le.mp hsum).le) (by rwa [abs_neg]) (by
        push_cast
        rw [neg_mul, add_mul, value_mul_cents]
        ring)
    simp only [neg_nonneg] at hshift
    rw [← hshift, context_neg, cents_neg, cents_neg]
    constructor <;> intro h <;> omega

lemma sum_eq_rounded_add (amounts : List ℚ) : amounts.sum * 10 ^ 2 = roundedSum amounts + residual amounts := by
  induction amounts with
  | nil => simp [roundedSum, residual]
  | cons x amounts ih =>
    simp only [roundedSum, residual, List.map_cons, List.sum_cons] at ih ⊢
    push_cast at ih ⊢
    rw [add_mul, ih]
    ring

lemma cents_batch_iff (b : Numeric 12 2) (amounts : List ℚ) :
    cents (b.value + amounts.sum) = b.units + roundedSum amounts ↔ BatchExact b.units amounts := by
  have hsum := roundHalfAway_add_iff (n := b.units + roundedSum amounts) (r := residual amounts)
  push_cast at hsum
  rw [add_assoc, ← sum_eq_rounded_add] at hsum
  rw [cents, add_mul, value_mul_cents]
  exact hsum

end Rounding

section Allocation

variable {x : ℚ} {b : Numeric 12 2} {commission spread posted commissionPosted spreadPosted : ℚ}

lemma cents_bounds (x : ℚ) : (cents x : ℚ) - 1 / 2 ≤ x * 10 ^ 2 ∧ x * 10 ^ 2 ≤ cents x + 1 / 2 := by
  rcases le_total 0 (x * 10 ^ 2) with h | h
  · obtain ⟨hlow, hhigh⟩ := (roundHalfAway_eq_iff_of_nonneg h).mp (rfl : roundHalfAway (x * 10 ^ 2) = cents x)
    exact ⟨hlow, hhigh.le⟩
  · obtain ⟨hlow, hhigh⟩ := (roundHalfAway_eq_iff_of_nonpos h).mp (rfl : roundHalfAway (x * 10 ^ 2) = cents x)
    exact ⟨hlow.le, hhigh⟩

lemma abs_lt_of_cents (h : |cents x| < 10 ^ 18) : |x| < 10 ^ 17 := by
  obtain ⟨hlow, hhigh⟩ := cents_bounds x
  have hcents : |(cents x : ℚ)| < 10 ^ 18 := by exact_mod_cast h
  rw [abs_lt] at hcents ⊢
  norm_num at hcents hlow hhigh ⊢
  constructor <;> linarith

lemma abs_balance_add_lt (h : |cents x| < 10 ^ 18) : |b.value + x| < 10 ^ 25 := by
  have hb : |cents b.value| < 10 ^ 18 := by
    rw [Numeric.value, cents_scaled]
    exact b.fits.trans (by norm_num)
  have hbalance := abs_lt.mp (abs_lt_of_cents hb)
  have hamount := abs_lt.mp (abs_lt_of_cents h)
  norm_num at hbalance hamount
  rw [abs_lt]
  norm_num
  constructor <;> linarith

/-- What fits in a column after the context has rounded it was itself far inside the context. -/
lemma abs_lt_of_cents_context (h : |cents (context precision x)| < 10 ^ 18) : |x| < 10 ^ 25 := by
  have hfit : |context precision x| < 10 ^ 25 := (abs_lt_of_cents h).trans (by norm_num)
  exact abs_lt_of_context (by norm_num [precision]) hfit

lemma cents_negate (h0 : 0 ≤ x) (h : |cents (negate x)| < 10 ^ 18) (hlifted : ¬ Lifted x) :
    cents (negate x) = cents (-x) := by
  have habs := abs_lt_of_cents_context h
  rw [abs_neg] at habs
  rw [negate, context_neg, cents_neg, cents_neg, cents, roundHalfAway_context h0 habs, if_neg hlifted, add_zero,
    cents, roundHalfAway_of_nonneg (mul_nonneg h0 (by norm_num))]

lemma cents_negate_scaled {m : ℤ} (h : |cents (negate (scaled 2 m))| < 10 ^ 18) :
    cents (negate (scaled 2 m)) = -m ∧ |m| < 10 ^ 27 := by
  have habs := abs_lt_of_cents_context h
  rw [abs_neg, scaled, abs_div, abs_of_pos (by norm_num : (0 : ℚ) < 10 ^ 2), div_lt_iff₀ (by norm_num)] at habs
  have hm : |m| < 10 ^ 27 := by
    have hcast : |(m : ℚ)| < 10 ^ 27 := habs.trans_le (by norm_num)
    exact_mod_cast hcast
  refine ⟨?_, hm⟩
  rw [negate_scaled (hm.trans (by norm_num [precision])), cents_scaled]

/-- What the stored balance leaves of the total, and of it a commission of so many cents: no context rounds them. -/
lemma minus_posted {q : ℤ} (hq : |q| < 10 ^ 12) : minus b.value (scaled 2 q) = scaled 2 (b.units - q) := by
  have hbounds := And.intro (abs_lt.mp b.fits) (abs_lt.mp hq)
  refine minus_scaled (abs_lt.mpr ?_)
  rw [precision]
  omega

lemma minus_residual {q m : ℤ} (hq : |q| < 10 ^ 12) (hm : |m| < 10 ^ 27) :
    minus (minus b.value (scaled 2 q)) (scaled 2 m) = scaled 2 (b.units - q - m) := by
  have hbounds := And.intro (abs_lt.mp b.fits) (And.intro (abs_lt.mp hq) (abs_lt.mp hm))
  rw [minus_posted hq]
  refine minus_scaled (abs_lt.mpr ?_)
  rw [precision]
  omega

lemma cents_allocated (h : allocateOpeningCharges b.value commission spread =
      .ok (posted, commissionPosted, spreadPosted)) (hcharged : 0 < commission ∨ 0 < spread)
    (hposted : |cents posted| < 10 ^ 12)
    (hcommission : 0 < commission → |cents (negate commissionPosted)| < 10 ^ 18)
    (hspread : 0 < spread → |cents (negate spreadPosted)| < 10 ^ 18) :
    cents posted = b.units + ((if 0 < commission then cents (negate commissionPosted) else 0) +
      if 0 < spread then cents (negate spreadPosted) else 0) := by
  rw [allocateOpeningCharges, guard_eq_ok] at h
  obtain ⟨-, h⟩ := h
  dsimp only at h
  generalize hq : quantize 2 (minus (minus b.value commission) spread) = q at h
  by_cases hc : 0 < commission
  · by_cases hs : 0 < spread
    · simp only [hc, hs, and_self, if_true, Except.ok.injEq, Prod.mk.injEq] at h ⊢
      obtain ⟨rfl, rfl, rfl⟩ := h
      rw [cents_scaled] at hposted ⊢
      obtain ⟨hrow, hsmall⟩ := cents_negate_scaled (hcommission hc)
      rw [minus_residual hposted hsmall] at hspread ⊢
      rw [hrow, (cents_negate_scaled (hspread hs)).1]
      ring
    · simp only [hc, hs, and_false, if_true, if_false, Except.ok.injEq, Prod.mk.injEq] at h ⊢
      obtain ⟨rfl, rfl, -⟩ := h
      rw [cents_scaled] at hposted ⊢
      rw [minus_posted hposted] at hcommission ⊢
      rw [(cents_negate_scaled (hcommission hc)).1]
      ring
  · have hs : 0 < spread := hcharged.resolve_left hc
    simp only [hc, hs, false_and, if_true, if_false, Except.ok.injEq, Prod.mk.injEq] at h ⊢
    obtain ⟨rfl, -, rfl⟩ := h
    rw [cents_scaled] at hposted ⊢
    rw [minus_posted hposted] at hspread ⊢
    rw [(cents_negate_scaled (hspread hs)).1]
    ring

lemma abs_scaled_lt {m : ℤ} {n : ℕ} (h : |m| < 10 ^ (n + 2)) : |scaled 2 m| < 10 ^ n := by
  have hcast : |(m : ℚ)| < 10 ^ (n + 2) := by exact_mod_cast h
  rw [scaled, abs_div, abs_of_pos (by norm_num : (0 : ℚ) < 10 ^ 2), div_lt_iff₀ (by norm_num), ← pow_add]
  exact hcast

/-- The stored balance is the balance less the charges but for its own rounding, and bounds what can be charged. -/
lemma charged_balance (hcommission : 0 ≤ commission) (hspread : 0 ≤ spread)
    (hfits : |quantize 2 (minus (minus b.value commission) spread)| < 10 ^ 12) :
    |scaled 2 (quantize 2 (minus (minus b.value commission) spread)) - (b.value - commission - spread)| ≤ 51 / 10000 ∧
      commission < 10 ^ 12 ∧ spread < 10 ^ 12 := by
  have hbalance : |b.value| < 10 ^ 10 := abs_scaled_lt b.fits
  have hb := abs_lt.mp hbalance
  have hquantized := abs_lt.mp (abs_scaled_lt hfits)
  have hround := abs_le.mp (abs_scaled_quantize_sub_le 2 (minus (minus b.value commission) spread))
  have hx : |minus (minus b.value commission) spread| < 10 ^ 11 := by
    rw [abs_lt]
    norm_num at hquantized hround ⊢
    constructor <;> linarith
  have hrest := abs_lt.mp (abs_lt_of_context (by norm_num [precision]) hx)
  have hless : minus b.value commission ≤ b.value := by
    have hmono := context_mono (p := precision) (by norm_num [precision]) (by linarith : b.value - commission ≤ b.value)
    rwa [Numeric.value, context_scaled (b.fits.trans (by norm_num [precision])), ← Numeric.value] at hmono
  have hfirst : |minus b.value commission| < 10 ^ 11 := by
    rw [abs_lt]
    norm_num at hrest hb ⊢
    constructor <;> linarith
  have hcharged := abs_lt.mp (abs_lt_of_context (by norm_num [precision]) hfirst)
  have herror : ∀ y : ℚ, |y| < 10 ^ 11 → |context precision y - y| ≤ 1 / 2 / 10 ^ 4 := by
    intro y hy
    exact abs_context_sub_le (hy.trans (by norm_num [precision]))
  have herror1 := abs_le.mp (herror _ (abs_lt.mpr hcharged))
  have herror2 := abs_le.mp (herror _ (abs_lt.mpr hrest))
  rw [← minus] at herror1 herror2
  refine ⟨abs_le.mpr ?_, ?_, ?_⟩
  · norm_num at hround herror1 herror2 ⊢
    constructor <;> linarith
  · norm_num at hcharged hb ⊢
    linarith
  · norm_num at hrest hfirst hb ⊢
    linarith

/-- What is posted as spread is in cents, and differs from the spread by the roundings of the balance and of the
commission. -/
lemma allocated_spread (h : allocateOpeningCharges b.value commission spread =
      .ok (posted, commissionPosted, spreadPosted)) (hspread : 0 < spread) (hposted : |cents posted| < 10 ^ 12) :
    ∃ m : ℤ, spreadPosted = scaled 2 m ∧ |scaled 2 m - spread| < 11 / 1000 := by
  rw [allocateOpeningCharges, guard_eq_ok, not_or, not_lt, not_lt] at h
  obtain ⟨⟨hcommission, -⟩, h⟩ := h
  dsimp only at h
  generalize hq : quantize 2 (minus (minus b.value commission) spread) = q at h
  have hfacts (hfits : |q| < 10 ^ 12) := charged_balance hcommission hspread.le (hq ▸ hfits)
  rw [hq] at hfacts
  by_cases hc : 0 < commission
  · rw [if_pos ⟨hc, hspread⟩, Except.ok.injEq, Prod.mk.injEq, Prod.mk.injEq] at h
    obtain ⟨rfl, -, rfl⟩ := h
    rw [cents_scaled] at hposted
    obtain ⟨hbalance, hcommission', -⟩ := hfacts hposted
    have hround := abs_le.mp (abs_scaled_quantize_sub_le 2 commission)
    have hsize : |quantize 2 commission| < 10 ^ 27 := by
      have hcast : |(quantize 2 commission : ℚ)| < 10 ^ 27 := by
        rw [scaled] at hround
        rw [abs_lt]
        norm_num at hround ⊢
        constructor <;> linarith
      exact_mod_cast hcast
    refine ⟨b.units - q - quantize 2 commission, minus_residual hposted hsize, ?_⟩
    rw [← scaled_sub, ← scaled_sub, ← Numeric.value]
    rw [abs_le] at hbalance
    rw [abs_lt]
    norm_num at hround hbalance ⊢
    constructor <;> linarith
  · rw [if_neg (fun hboth => hc hboth.1), if_neg hc, if_pos hspread, Except.ok.injEq, Prod.mk.injEq,
      Prod.mk.injEq] at h
    obtain ⟨rfl, -, rfl⟩ := h
    rw [cents_scaled] at hposted
    obtain ⟨hbalance, -, -⟩ := hfacts hposted
    refine ⟨b.units - q, minus_posted hposted, ?_⟩
    obtain rfl : commission = 0 := le_antisymm (not_lt.mp hc) hcommission
    rw [← scaled_sub, ← Numeric.value]
    rw [abs_le] at hbalance
    rw [abs_lt]
    norm_num at hbalance ⊢
    constructor <;> linarith

end Allocation

end TrxSimulator.Trading.Charges
