import TrxSimulator.ProviderCosts.Posting

/-! Chains of corrections. Each correction books its value less the amount of its predecessor's row
alone, so the rows of a chain add up to every second value counted from the last. -/

namespace TrxSimulator.ProviderCosts.Corrections

open Foundations.Tables Foundations.Outcomes Foundations.Decimals Money Posting

section Postings

def postings (prior : ℤ) : List ℤ → List ℤ
  | [] => []
  | u :: us => (-u - prior) :: postings (-u - prior) us

def everyOther : List ℤ → ℤ
  | [] => 0
  | [u] => u
  | u :: _ :: us => u + everyOther us

lemma postings_append (prior : ℤ) (us vs : List ℤ) :
    postings prior (us ++ vs) =
      postings prior us ++ postings ((postings prior us).getLastD prior) vs := by
  induction us generalizing prior with
  | nil => rfl
  | cons u us ih =>
    rw [List.cons_append, postings, postings, ih, List.getLastD_cons]
    rfl

lemma postings_sum_snoc (us : List ℤ) (v u : ℤ) :
    (postings 0 (us ++ [v, u])).sum = (postings 0 us).sum - u := by
  rw [postings_append, List.sum_append]
  simp only [postings, List.sum_cons, List.sum_nil]
  ring

lemma postings_sum_reverse (us : List ℤ) : (postings 0 us.reverse).sum = -everyOther us := by
  induction us using everyOther.induct with
  | case1 => rfl
  | case2 u => simp [postings, everyOther]
  | case3 u v us ih =>
    rw [List.reverse_cons, List.reverse_cons, List.append_assoc]
    simp only [List.cons_append, List.nil_append]
    rw [postings_sum_snoc, ih, everyOther]
    ring

lemma everyOther_eq_zero_iff (us : List ℤ) (h : ∀ u ∈ us, 0 ≤ u) :
    everyOther us = 0 ↔ ∀ k u, us[2 * k]? = some u → u = 0 := by
  have hnonneg : ∀ us : List ℤ, (∀ u ∈ us, 0 ≤ u) → 0 ≤ everyOther us := by
    intro us
    induction us using everyOther.induct with
    | case1 => simp [everyOther]
    | case2 u => simp [everyOther]
    | case3 u v us ih =>
      intro h
      have h0 := h u (by simp)
      have h1 := ih fun w hw => h w (by simp [hw])
      rw [everyOther]
      omega
  induction us using everyOther.induct with
  | case1 => simp [everyOther]
  | case2 u =>
    refine ⟨fun he k w hw => ?_, fun hall => hall 0 u rfl⟩
    cases k with
    | zero =>
      simp only [Nat.mul_zero, List.getElem?_cons_zero, Option.some.injEq] at hw
      rw [← hw]
      exact he
    | succ k => simp [Nat.mul_succ] at hw
  | case3 u v us ih =>
    have hrest : ∀ w ∈ us, 0 ≤ w := fun w hw => h w (by simp [hw])
    have h0 := h u (by simp)
    have h1 := hnonneg us hrest
    rw [everyOther]
    constructor
    · intro he k w hw
      cases k with
      | zero =>
        simp only [Nat.mul_zero, List.getElem?_cons_zero, Option.some.injEq] at hw
        omega
      | succ k =>
        simp only [Nat.mul_succ, List.getElem?_cons_succ] at hw
        exact (ih hrest).mp (by omega) k w hw
    · intro hall
      have hu := hall 0 u rfl
      have hzero := (ih hrest).mpr fun k w hw => hall (k + 1) w (by simpa [Nat.mul_succ] using hw)
      omega

end Postings

section Chains

abbrev Chain := List (ℕ × ProviderCostRecord)

/-- Distinct final actual records, each correcting the one before it. -/
def Correcting : Option ℕ → Chain → Prop
  | _, [] => True
  | prior, (pk, record) :: chain =>
    record.corrects = prior ∧ record.quality = .actual ∧ record.isFinal = true ∧
      (∃ u, record.usdValue = some u ∧ 0 ≤ u.units) ∧ (∀ p ∈ chain, p.1 ≠ pk) ∧
      Correcting (some pk) chain

def usd (record : ProviderCostRecord) : ℤ := record.usdValue.elim 0 fun u => u.units

def values (chain : Chain) : List ℤ := chain.map fun p => usd p.2

def postChain (l : BrokerLedger) : Chain → Except CostError BrokerLedger
  | [] => .ok l
  | (pk, record) :: chain => do
    let l ← recordProviderCostRevenue l pk record
    postChain l chain

def inChain (chain : Chain) (row : BrokerLedgerRow) : Bool := chain.any fun p => bookedFor p.1 row

def chainSum (l : BrokerLedger) (chain : Chain) : ℤ :=
  l.total fun _ row => if inChain chain row then row.amount.units else 0

def Unbooked (l : BrokerLedger) (chain : Chain) : Prop := ∀ p ∈ chain, bookedRow l p.1 = none

variable {l l' : BrokerLedger} {chain whole : Chain}

lemma chainSum_insert {row : BrokerLedgerRow} (h : inChain whole row = true) :
    chainSum (l.insert row) whole = chainSum l whole + row.amount.units := by
  rw [chainSum, Table.total_insert, if_pos h, chainSum]

lemma values_nonneg {prior : Option ℕ} (h : Correcting prior chain) : ∀ u ∈ values chain, 0 ≤ u := by
  induction chain generalizing prior with
  | nil => simp [values]
  | cons p chain ih =>
    obtain ⟨-, -, -, ⟨v, hv, h0⟩, -, hrest⟩ := h
    simp only [values, List.map_cons, List.mem_cons, forall_eq_or_imp]
    refine ⟨?_, ih hrest⟩
    rw [usd, hv]
    exact h0

lemma postChain_sum {prior : Option ℕ} (hc : Correcting prior chain) (hsub : ∀ p ∈ chain, p ∈ whole)
    (hfree : Unbooked l chain) (h : postChain l chain = .ok l') :
    chainSum l' whole = chainSum l whole +
      (postings ((prior.bind (bookedRow l)).elim 0 fun row => row.amount.units) (values chain)).sum := by
  induction chain generalizing l prior with
  | nil =>
    cases h
    simp [values, postings]
  | cons p chain ih =>
    obtain ⟨pk, record⟩ := p
    obtain ⟨hprior, hq, hf, ⟨u, hu, -⟩, hfresh, hrest⟩ := hc
    simp only [postChain, bind_eq_ok] at h
    obtain ⟨l₁, h₁, h⟩ := h
    have hsub' : ∀ p ∈ chain, p ∈ whole := fun p hp => hsub p (List.mem_cons_of_mem _ hp)
    have hpk : bookedRow l pk = none := hfree _ (List.mem_cons_self ..)
    have husd : usd record = u.units := by rw [usd, hu, Option.elim_some]
    simp only [values, List.map_cons, postings, List.sum_cons, husd]
    rcases recordProviderCostRevenue_final hq hf hu h₁ with ⟨h0, rfl⟩ | ⟨-, -, row, ha, hsrc, htype, rfl⟩
    · -- no row: the next record finds nothing to correct, as after a zero amount
      rw [originalRow, hprior] at h0
      have hih := ih hrest hsub' (fun p hp => hfree p (List.mem_cons_of_mem _ hp)) h
      rw [Option.bind_some, hpk, Option.elim_none] at hih
      rw [h0, hih, values, zero_add]
    · rw [originalRow, hprior] at ha
      have hself : bookedFor pk row = true := by simp [bookedFor, hsrc, htype]
      have hfree' : Unbooked (l.insert row) chain := by
        intro p hp
        have hne : bookedFor p.1 row = false := by
          simp [bookedFor, hsrc, (hfresh p hp).symm]
        rw [bookedRow_insert, hne, if_neg (by simp)]
        exact hfree p (List.mem_cons_of_mem _ hp)
      have hmem : inChain whole row = true := by
        rw [inChain, List.any_eq_true]
        exact ⟨_, hsub _ (List.mem_cons_self ..), hself⟩
      have hih := ih hrest hsub' hfree' h
      rw [Option.bind_some, bookedRow_insert, if_pos hself, Option.elim_some, chainSum_insert hmem, ha] at hih
      rw [hih, values, add_assoc]

/-- The rows of a posted chain cancel every other value, counted back from the last. -/
lemma chainSum_eq (hc : Correcting none chain) (hfree : Unbooked l chain) (h : postChain l chain = .ok l') :
    chainSum l' chain = -everyOther (values chain).reverse := by
  have hzero : chainSum l chain = 0 := by
    refine Table.total_eq_zero fun i row hi => if_neg ?_
    rw [inChain, List.any_eq_true]
    rintro ⟨p, hp, hrow⟩
    have hfalse := Table.exists?_false (bookedRow_none_iff.mp (hfree p hp)) hi
    rw [hrow] at hfalse
    cases hfalse
  rw [postChain_sum hc (fun _ hp => hp) hfree h, hzero, zero_add, Option.bind_none, Option.elim_none]
  conv_lhs => rw [← List.reverse_reverse (values chain)]
  exact postings_sum_reverse _

/-- The rows add up to the last value exactly when the values two, four, six places before it are
zero. -/
theorem chainSum_eq_last_iff (chain : Chain) (last : ℕ × ProviderCostRecord) (hc : Correcting none (chain ++ [last]))
    (hfree : Unbooked l (chain ++ [last])) (h : postChain l (chain ++ [last]) = .ok l') :
    chainSum l' (chain ++ [last]) = -usd last.2 ↔
      ∀ k u, (values chain).reverse[2 * k + 1]? = some u → u = 0 := by
  have hv : (values (chain ++ [last])).reverse = usd last.2 :: (values chain).reverse := by
    simp [values]
  have hnonneg : ∀ u ∈ (values chain).reverse, 0 ≤ u := by
    intro u hu
    refine values_nonneg hc u ?_
    rw [← List.mem_reverse, hv]
    exact List.mem_cons_of_mem _ hu
  rw [chainSum_eq hc hfree h, hv]
  cases hrev : (values chain).reverse with
  | nil => simp [everyOther]
  | cons v us =>
    have hzero := everyOther_eq_zero_iff us fun u hu => hnonneg u (by simp [hrev, hu])
    simp only [everyOther, List.getElem?_cons_succ]
    rw [← hzero]
    omega

def networkFee (corrects : Option ℕ) (usdValue : Usd) : ProviderCostRecord where
  provider := "nowpayments"
  operationType := "WITHDRAWAL"
  costType := "NETWORK"
  providerReference := "1"
  amount := ⟨0, by decide⟩
  currency := "usd"
  usdValue := some usdValue
  quality := .actual
  isFinal := true
  occurredAt := 0
  corrects := corrects

def correctedFee (first second third : Usd) : Chain :=
  [(0, networkFee none first), (1, networkFee (some 0) second)] ++ [(2, networkFee (some 1) third)]

theorem chainSum_eq_last_example :
    ∃ l', postChain Table.empty (correctedFee ⟨0, by decide⟩ ⟨700, by decide⟩ ⟨1000, by decide⟩) = .ok l' ∧
      chainSum l' (correctedFee ⟨0, by decide⟩ ⟨700, by decide⟩ ⟨1000, by decide⟩) = -1000 := by
  have hok : (postChain Table.empty
      (correctedFee ⟨0, by decide⟩ ⟨700, by decide⟩ ⟨1000, by decide⟩)).isOk = true := by decide +kernel
  cases h : postChain Table.empty (correctedFee ⟨0, by decide⟩ ⟨700, by decide⟩ ⟨1000, by decide⟩) with
  | error e =>
    rw [h] at hok
    cases hok
  | ok l' =>
    refine ⟨l', rfl, (chainSum_eq_last_iff _ _ ?_ ?_ h).mpr ?_⟩
    · exact ⟨rfl, rfl, rfl, ⟨_, rfl, by decide⟩, by simp, rfl, rfl, rfl, ⟨_, rfl, by decide⟩, by simp,
        rfl, rfl, rfl, ⟨_, rfl, by decide⟩, by simp, trivial⟩
    · exact fun p _ => rfl
    · intro k u hu
      cases k with
      | zero => simpa [values, usd, networkFee] using hu.symm
      | succ k => simp [values, Nat.mul_succ] at hu

/-- Five dollars, corrected to seven and then to ten, books fifteen. -/
theorem second_correction_overbooks :
    (postChain Table.empty (correctedFee ⟨500, by decide⟩ ⟨700, by decide⟩ ⟨1000, by decide⟩)).map
        (fun l => chainSum l (correctedFee ⟨500, by decide⟩ ⟨700, by decide⟩ ⟨1000, by decide⟩)) =
      .ok (-1500) := by
  decide +kernel

end Chains

end TrxSimulator.ProviderCosts.Corrections
