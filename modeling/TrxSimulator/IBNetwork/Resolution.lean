import TrxSimulator.IBNetwork.Triggers

/-! The rule under which a commission is earned, and its amount. A rule of the introducer comes before a rule for
everybody, and where several are in force none is chosen. -/

namespace TrxSimulator.IBNetwork.Resolution

open Foundations.Tables Foundations.Decimals Money Accounts Accruals Triggers

section Rules

variable {α : Type} (b : Books) (referral : ℕ) (ruleType : RuleType) (atTime : ℤ)

def Sole (P : α → Prop) (a : α) : Prop := P a ∧ ∀ x, P x → x = a

def Several (P : α → Prop) : Prop := ∃ a x, P a ∧ P x ∧ a ≠ x

/-- A rule of the introducer, or of everybody, that is switched on and in force. -/
def ActiveRule (scope : Option ℕ) (r : ℕ × Rule) : Prop :=
  b.rules.get r.1 = some r.2 ∧ r.2.ruleType = ruleType ∧ r.2.referral = scope ∧ r.2.enabled = true ∧
    r.2.effectiveFrom ≤ atTime ∧ ∀ t, r.2.effectiveUntil = some t → atTime < t

/-- The rules for everybody count only where the introducer has none. -/
inductive Decided : Except AccrualError (Option (ℕ × Rule)) → Prop
  | own {r : ℕ × Rule} (h : Sole (ActiveRule b ruleType atTime (some referral)) r) : Decided (.ok (some r))
  | ownAmbiguous (h : Several (ActiveRule b ruleType atTime (some referral))) :
      Decided (.error (.ambiguousRule ruleType (some referral)))
  | general {r : ℕ × Rule} (hown : ∀ x, ¬ ActiveRule b ruleType atTime (some referral) x)
      (h : Sole (ActiveRule b ruleType atTime none) r) : Decided (.ok (some r))
  | generalAmbiguous (hown : ∀ x, ¬ ActiveRule b ruleType atTime (some referral) x)
      (h : Several (ActiveRule b ruleType atTime none)) : Decided (.error (.ambiguousRule ruleType none))
  | nothing (hown : ∀ x, ¬ ActiveRule b ruleType atTime (some referral) x)
      (h : ∀ x, ¬ ActiveRule b ruleType atTime none x) : Decided (.ok none)

lemma Sole.unique {P : α → Prop} {a x : α} (ha : Sole P a) (hx : Sole P x) : a = x := hx.2 a ha.1

lemma Sole.not_several {P : α → Prop} {a : α} (ha : Sole P a) : ¬ Several P := by
  rintro ⟨x, y, hx, hy, hne⟩
  exact hne ((ha.2 x hx).trans (ha.2 y hy).symm)

lemma Several.not_none {P : α → Prop} (h : Several P) : ¬ ∀ x, ¬ P x := by
  obtain ⟨a, -, ha, -⟩ := h
  exact fun hnone => hnone a ha

variable {b referral ruleType atTime}

lemma mem_activeCandidates {scope : Option ℕ} {r : ℕ × Rule} :
    r ∈ activeCandidates b ruleType scope atTime ↔ ActiveRule b ruleType atTime scope r := by
  simp only [activeCandidates, List.mem_filter, Rule.activeAt, decide_eq_true_eq, ActiveRule]
  exact and_congr_left' Table.mem_rows

lemma none_of_nil {scope : Option ℕ} (h : activeCandidates b ruleType scope atTime = []) (x : ℕ × Rule) :
    ¬ ActiveRule b ruleType atTime scope x := by
  rw [← mem_activeCandidates, h]
  exact List.not_mem_nil

lemma sole_of_singleton {scope : Option ℕ} {r : ℕ × Rule} (h : activeCandidates b ruleType scope atTime = [r]) :
    Sole (ActiveRule b ruleType atTime scope) r := by
  simp [Sole, ← mem_activeCandidates, h]

lemma several_of_cons {scope : Option ℕ} {r x : ℕ × Rule} {rest : List (ℕ × Rule)}
    (h : activeCandidates b ruleType scope atTime = r :: x :: rest) :
    Several (ActiveRule b ruleType atTime scope) := by
  have hnodup : (activeCandidates b ruleType scope atTime).Nodup := Table.rows_nodup.filter _
  refine ⟨r, x, ?_, ?_, ?_⟩
  · apply mem_activeCandidates.mp
    simp [h]
  · apply mem_activeCandidates.mp
    simp [h]
  · rintro rfl
    simp [h] at hnodup

lemma resolve_decided : Decided b referral ruleType atTime (resolveApplicableRule b referral ruleType atTime) := by
  rw [resolveApplicableRule]
  split
  · next r hown => exact .own (sole_of_singleton hown)
  · next hown => exact .ownAmbiguous (several_of_cons hown)
  · next hown =>
    split
    · next r hgeneral => exact .general (none_of_nil hown) (sole_of_singleton hgeneral)
    · next hgeneral => exact .generalAmbiguous (none_of_nil hown) (several_of_cons hgeneral)
    · next hgeneral => exact .nothing (none_of_nil hown) (none_of_nil hgeneral)

lemma Decided.unique {x y : Except AccrualError (Option (ℕ × Rule))} (hx : Decided b referral ruleType atTime x)
    (hy : Decided b referral ruleType atTime y) : x = y := by
  cases hx with
  | own h =>
    cases hy with
    | own h' => rw [h.unique h']
    | ownAmbiguous h' => exact absurd h' h.not_several
    | general hown | generalAmbiguous hown | nothing hown => exact absurd h.1 (hown _)
  | ownAmbiguous h =>
    cases hy with
    | own h' => exact absurd h h'.not_several
    | ownAmbiguous => rfl
    | general hown | generalAmbiguous hown | nothing hown => exact absurd hown h.not_none
  | general hown h =>
    cases hy with
    | own h' => exact absurd h'.1 (hown _)
    | ownAmbiguous h' => exact absurd hown h'.not_none
    | general _ h' => rw [h.unique h']
    | generalAmbiguous _ h' => exact absurd h' h.not_several
    | nothing _ h' => exact absurd h.1 (h' _)
  | generalAmbiguous hown h =>
    cases hy with
    | own h' => exact absurd h'.1 (hown _)
    | ownAmbiguous h' => exact absurd hown h'.not_none
    | general _ h' => exact absurd h h'.not_several
    | generalAmbiguous => rfl
    | nothing _ h' => exact absurd h' h.not_none
  | nothing hown h =>
    cases hy with
    | own h' => exact absurd h'.1 (hown _)
    | ownAmbiguous h' => exact absurd hown h'.not_none
    | general _ h' => exact absurd h'.1 (h _)
    | generalAmbiguous _ h' => exact absurd h h'.not_none
    | nothing => rfl

lemma resolve_eq_iff {x : Except AccrualError (Option (ℕ × Rule))} :
    resolveApplicableRule b referral ruleType atTime = x ↔ Decided b referral ruleType atTime x :=
  ⟨fun h => h ▸ resolve_decided, resolve_decided.unique⟩

end Rules

section Amounts

lemma lot_exact {qty : Numeric 18 6} {rate calculated : Balance}
    (h : store 12 2 (scaled 2 (quantize 2 (times qty.value rate.value))) = some calculated) :
    calculated.units = quantize 2 (qty.value * rate.value) := by
  rw [store_scaled] at h
  have hproduct : qty.value * rate.value = (qty.units * rate.units : ℤ) / 10 ^ 8 := by
    rw [Numeric.value, Numeric.value, scaled, scaled]
    push_cast
    ring
  have hround := abs_roundHalfEven_sub_le (times qty.value rate.value * 10 ^ 2)
  have hfits : |(calculated.units : ℚ)| < 10 ^ 12 := by exact_mod_cast calculated.fits
  rw [← h, quantize] at hfits
  -- What can be stored is far below the twenty-eight digits of the context.
  have hsmall : |times qty.value rate.value| < 10 ^ 12 := by
    rw [abs_lt] at hfits ⊢
    rw [abs_le] at hround
    norm_num at hfits hround ⊢
    constructor <;> linarith
  have hexact : times qty.value rate.value = qty.value * rate.value := by
    have hbound : |qty.value * rate.value| < 10 ^ 12 := abs_lt_of_context (by decide) hsmall
    rw [hproduct, abs_div, abs_of_pos (by norm_num : (0 : ℚ) < 10 ^ 8), div_lt_iff₀ (by norm_num)] at hbound
    rw [times, hproduct]
    apply context_grid
    have hunits : |((qty.units * rate.units : ℤ) : ℚ)| < 10 ^ 28 := hbound.trans (by norm_num)
    exact_mod_cast hunits
  rw [← h, hexact]

lemma percent_exact {n : ℤ} (hn : |n| < 10 ^ 18) {rate : Percentage} {calculated : Balance}
    (h : store 12 2 (scaled 2 (quantize 2 (divide (times (scaled 2 n) rate.value) 100))) = some calculated) :
    calculated.units = quantize 2 (scaled 2 n * rate.value / 100) := by
  rw [store_scaled] at h
  have hproduct : |n * rate.units| < 10 ^ 28 := by
    have hrate := rate.fits
    rw [abs_mul]
    nlinarith [abs_nonneg n, abs_nonneg rate.units]
  have htimes : times (scaled 2 n) rate.value = scaled 2 n * rate.value := by
    have hgrid : scaled 2 n * rate.value = (n * rate.units : ℤ) / 10 ^ 5 := by
      rw [Numeric.value, scaled, scaled]
      push_cast
      ring
    rw [times, hgrid]
    exact context_grid hproduct
  have hdivide : divide (scaled 2 n * rate.value) 100 = scaled 2 n * rate.value / 100 := by
    have hgrid : scaled 2 n * rate.value / 100 = (n * rate.units : ℤ) / 10 ^ 7 := by
      rw [Numeric.value, scaled, scaled]
      push_cast
      ring
    rw [divide, hgrid]
    exact context_grid hproduct
  rw [← h, htimes, hdivide]

end Amounts

end TrxSimulator.IBNetwork.Resolution
