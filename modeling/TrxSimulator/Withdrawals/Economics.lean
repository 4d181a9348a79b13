import TrxSimulator.Payouts.Fees
import TrxSimulator.Withdrawals.ReviewEffects

/-! The economics of a withdrawal: its fee is calculated and frozen when the request is made, the net amount goes to
the provider, and the fee is booked when the payout completes. -/

namespace TrxSimulator.Withdrawals.Economics

open Foundations.Tables Foundations.Outcomes Foundations.Decimals Foundations.Runs Money Accounts Wallets.Ledger
open Payouts.Records (Platform WithdrawalRequest WithdrawalStatus PayoutNote Enrollment RevenueSource lockWithdrawal)
open Payouts.Safety (Mirrored Calls Agrees Retail TargetSound)
open Payouts.Fees (Ordered Unpriced HasAttempt)
open Otp (Challenge FeeConfig calculateWithdrawalFee)
open Reviews (Desk finalizeWithdrawal)

section Fees

/-- What `calculate_withdrawal_fee` reads of the configuration. -/
def feeRate (config : FeeConfig) : Numeric 5 2 := if config.enabled then config.percent else .ofUnits 0

def feeUnits (rate : Numeric 5 2) (gross : Balance) : ℤ := roundHalfEven ((gross.units * rate.units : ℤ) / 10000)

/-- The rate takes between nothing and the whole of the amount, up to the rounding of a cent. -/
def WithinGross (rate : Numeric 5 2) (gross : Balance) : Prop :=
  -5000 ≤ gross.units * rate.units ∧ (gross.units * rate.units < 10000 * gross.units + 5000 ∨
    gross.units * rate.units = 10000 * gross.units + 5000 ∧ Even gross.units)

instance (rate : Numeric 5 2) (gross : Balance) : Decidable (WithinGross rate gross) :=
  inferInstanceAs (Decidable (_ ∧ _))

variable {rate : Numeric 5 2} {gross : Balance}

lemma feeUnits_nonneg_iff : 0 ≤ feeUnits rate gross ↔ -5000 ≤ gross.units * rate.units := by
  rw [feeUnits, le_roundHalfEven_iff, Int.cast_zero, zero_sub, lt_div_iff₀ (by norm_num), div_eq_iff (by norm_num)]
  norm_num
  norm_cast
  omega

lemma lt_feeUnits_iff : gross.units < feeUnits rate gross ↔ 10000 * gross.units + 5000 < gross.units * rate.units ∨
    gross.units * rate.units = 10000 * gross.units + 5000 ∧ ¬ Even gross.units := by
  rw [← Int.add_one_le_iff, feeUnits, le_roundHalfEven_iff, lt_div_iff₀ (by norm_num), div_eq_iff (by norm_num),
    Int.even_add_one]
  have hhalf : (((gross.units + 1 : ℤ) : ℚ) - 1 / 2) * 10000 = (10000 * gross.units + 5000 : ℤ) := by
    push_cast
    ring
  rw [hhalf, Int.cast_lt, Int.cast_inj]

lemma feeUnits_within : 0 ≤ feeUnits rate gross ∧ feeUnits rate gross ≤ gross.units ↔ WithinGross rate gross := by
  have hle : feeUnits rate gross ≤ gross.units ↔ ¬ gross.units < feeUnits rate gross := not_lt.symm
  rw [WithinGross, feeUnits_nonneg_iff, hle, lt_feeUnits_iff]
  generalize gross.units * rate.units = x
  by_cases heven : Even gross.units
  · simp only [heven, not_true_eq_false, and_false, or_false, and_true]
    omega
  · simp only [heven, not_false_eq_true, and_true, and_false, or_false]
    omega

lemma abs_mul_rate (rate : Numeric 5 2) (gross : Balance) : |gross.units * rate.units| < 10 ^ 17 := by
  rw [abs_mul]
  calc |gross.units| * |rate.units| ≤ 10 ^ 12 * |rate.units| :=
        mul_le_mul_of_nonneg_right gross.fits.le (abs_nonneg _)
    _ < 10 ^ 12 * 10 ^ 5 := mul_lt_mul_of_pos_left rate.fits (by norm_num)
    _ = 10 ^ 17 := by norm_num

lemma abs_feeUnits_le (rate : Numeric 5 2) (gross : Balance) : |feeUnits rate gross| ≤ 10 ^ 17 := by
  have hbounds := abs_lt.mp (abs_mul_rate rate gross)
  rw [abs_le, feeUnits]
  constructor
  · apply le_roundHalfEven
    rw [le_div_iff₀ (by norm_num)]
    norm_cast
    omega
  · apply roundHalfEven_le
    rw [div_le_iff₀ (by norm_num)]
    norm_cast
    omega

/-- The calculation is exact but for the rounding of the fee. -/
lemma calculateWithdrawalFee_eq (config : FeeConfig) (gross : Balance) :
    calculateWithdrawalFee config gross.value = ((feeRate config).value, scaled 2 (feeUnits (feeRate config) gross),
      scaled 2 (gross.units - feeUnits (feeRate config) gross)) := by
  have hproduct := abs_mul_rate (feeRate config) gross
  have hfits : |gross.units * (feeRate config).units| < 10 ^ precision := hproduct.trans (by norm_num [precision])
  have hfee : (if config.enabled then scaled 2 (quantize 2 (divide (times gross.value config.percent.value) 100))
      else 0) = scaled 2 (feeUnits (feeRate config) gross) := by
    unfold feeRate at hfits ⊢
    split
    · next henabled =>
      rw [if_pos henabled] at hfits
      have htimes : times gross.value config.percent.value = scaled 4 (gross.units * config.percent.units) := by
        rw [times, Numeric.value, Numeric.value,
          show scaled 2 gross.units * scaled 2 config.percent.units = scaled 4 (gross.units * config.percent.units) by
            rw [scaled, scaled, scaled]; push_cast; ring,
          context_scaled hfits]
      have hdivide : divide (scaled 4 (gross.units * config.percent.units)) 100 =
          scaled 6 (gross.units * config.percent.units) := by
        rw [divide, show scaled 4 (gross.units * config.percent.units) / 100 =
            scaled 6 (gross.units * config.percent.units) by rw [scaled, scaled]; ring,
          context_scaled hfits]
      rw [htimes, hdivide, quantize, feeUnits]
      congr 2
      rw [scaled]
      ring
    · have hzero : feeUnits (.ofUnits 0) gross = 0 := by
        rw [feeUnits, show (gross.units * (Numeric.ofUnits 0 : Numeric 5 2).units : ℤ) = 0 from mul_zero _]
        exact_mod_cast roundHalfEven_intCast 0
      rw [hzero, scaled, Int.cast_zero, zero_div]
  have hrate : (if config.enabled then config.percent.value else 0) = (feeRate config).value := by
    unfold feeRate
    split
    · rfl
    · simp [Numeric.value, Numeric.ofUnits, scaled]
  have hdifference : |gross.units - feeUnits (feeRate config) gross| < 10 ^ precision := by
    have hround := abs_feeUnits_le (feeRate config) gross
    have hgross := abs_lt.mp gross.fits
    rw [abs_le] at hround
    rw [abs_lt, precision]
    omega
  simp only [calculateWithdrawalFee, hfee, hrate]
  rw [Numeric.value, Numeric.value, minus_scaled hdifference]

end Fees

section Model

/-- The reviews with the column `fee_rate` of the requests. -/
structure Office where
  desk : Desk
  feeRate : ℕ → Numeric 5 2

inductive Action
  | review (action : Reviews.Action)
  | payout (action : Payouts.Machine.Action)

def setPlatform (s : Desk) (platform : Platform) : Desk := { s with platform := platform }

/-- The rate of the moment goes into the request that a finalization inserts. -/
def finalize (s : Office) (seen : Challenge) : Office :=
  let desk := Reviews.finalize s.desk seen
  let request := s.desk.platform.withdrawals.next
  { desk := desk
    feeRate := if desk.platform.withdrawals.next = request then s.feeRate
      else Function.update s.feeRate request (feeRate s.desk.feeConfig) }

def step (s : Office) : Action → Office
  | .review (.finalize seen) => finalize s seen
  | .review action => { s with desk := Reviews.step s.desk action }
  | .payout action => { s with desk := setPlatform s.desk (Payouts.Machine.step s.desk.platform action) }

def opened (wallets : Table Wallet) (accounts : Table TradingAccount) (enrollments : Table Enrollment)
    (feeConfig : FeeConfig) (superusers : List ℕ) : Office where
  desk :=
    let s := Reviews.opened wallets feeConfig superusers
    setPlatform s { s.platform with accounts := accounts, enrollments := enrollments }
  feeRate _ := .ofUnits 0

/-- What is promised of a request with a fee in one state. -/
structure Kept (s : Platform) (w : ℕ) (wr : WithdrawalRequest) (fee net : Balance) : Prop where
  fee_nonneg : 0 ≤ fee.units
  net_nonneg : 0 ≤ net.units
  sum : fee.units + net.units = wr.amountUsd.units
  estimated : ∀ x actor basis, s.submissions.get x = some ⟨actor, .previewed w basis⟩ → basis = net
  sent : ∀ k a, s.attempts.get k = some a → a.withdrawalRequest = w → a.requestedAmountUsd = net
  once : ∀ i j row row', s.revenue.get i = some row → s.revenue.get j = some row' →
    row.source = .withdrawFee w → row'.source = .withdrawFee w → i = j
  amount : ∀ i row, s.revenue.get i = some row → row.source = .withdrawFee w → row.amount = fee
  booked : (∃ i row, s.revenue.get i = some row ∧ row.source = .withdrawFee w) ↔
    wr.status = .completed ∧ fee.units ≠ 0

end Model

section Reviews

variable {s : Desk}

/-- What one step of a review does to the platform. -/
inductive Reviewed (s : Desk) : Platform → Prop
  | wallets (l : WalletLedger PayoutNote) : Reviewed s { s.platform with ledger := l }
  | payout (action : Payouts.Machine.Action) : Reviewed s (Payouts.Machine.step s.platform action)
  | rejected (w : ℕ) (wr : WithdrawalRequest) (admin : ℕ) (l : WalletLedger PayoutNote)
      (found : s.platform.withdrawals.get w = some wr) (pending : wr.status = .pending) :
      Reviewed s { s.platform with
        withdrawals := s.platform.withdrawals.update w fun wr =>
          { wr with status := .rejected, reviewedBy := some admin }
        ledger := l }

/-- A new request, with the fee of the configuration. -/
structure Priced (config : FeeConfig) (wr : WithdrawalRequest) (fee net : Balance) : Prop where
  pending : wr.status = .pending
  payoutId : wr.npPayoutId = ""
  batchId : wr.npBatchId = ""
  feeAmount : wr.feeAmount = some fee
  netAmount : wr.netAmount = some net
  fee_eq : fee.units = feeUnits (feeRate config) wr.amountUsd
  net_eq : net.units = wr.amountUsd.units - fee.units

lemma finalizeWithdrawal_priced {s' : Desk} {walletId : ℕ} {seen : Challenge}
    (hok : finalizeWithdrawal s walletId seen = .ok s') : ∃ wr fee net l, Priced s.feeConfig wr fee net ∧
      s'.platform = { s.platform with ledger := l, withdrawals := s.platform.withdrawals.insert wr } := by
  simp only [finalizeWithdrawal, WalletLedger.wallet, bind_eq_ok, mapError_eq_ok, require_eq_ok, guard_eq_ok,
    pure_eq_ok] at hok
  obtain ⟨wallet, -, -, amount, hamount, -, -, currency, -, ⟨l, row⟩, -, amountUsd, husd, feeAmount, hfee, netAmount,
    hnet, -, rfl⟩ := hok
  obtain ⟨n, rfl⟩ := Effects.finalAmount_scaled hamount
  obtain rfl := Effects.columnOf_scaled husd
  have heq := calculateWithdrawalFee_eq s.feeConfig amountUsd
  rw [Numeric.value] at heq
  rw [heq] at hfee hnet
  have hfee' := Effects.columnOf_scaled hfee
  have hnet' := Effects.columnOf_scaled hnet
  refine ⟨_, feeAmount, netAmount, l, ?_, rfl⟩
  exact ⟨rfl, rfl, rfl, rfl, rfl, hfee', by rw [hnet', hfee']⟩

lemma finalize_cases (s : Desk) (seen : Challenge) :
    (∃ l, (Reviews.finalize s seen).platform = { s.platform with ledger := l }) ∨
      ∃ wr fee net l, Priced s.feeConfig wr fee net ∧ (Reviews.finalize s seen).platform =
        { s.platform with ledger := l, withdrawals := s.platform.withdrawals.insert wr } := by
  rw [Reviews.finalize]
  refine commit_rule (motive := fun s' : Desk => (∃ l, s'.platform = { s.platform with ledger := l }) ∨
    ∃ wr fee net l, Priced s.feeConfig wr fee net ∧ s'.platform =
      { s.platform with ledger := l, withdrawals := s.platform.withdrawals.insert wr }) _ _ ?_ fun s' hok => ?_
  · exact .inl ⟨_, rfl⟩
  · obtain ⟨wr, fee, net, l, hpriced, hplatform⟩ := finalizeWithdrawal_priced hok
    exact .inr ⟨wr, fee, net, l, hpriced, hplatform⟩

lemma applySecondApproval_platform {s' : Desk} {w actor : ℕ} (hok : Reviews.applySecondApproval s w actor = .ok s') :
    s'.platform = s.platform := by
  simp only [Reviews.applySecondApproval, bind_eq_ok, require_eq_ok, guard_eq_ok] at hok
  obtain ⟨wr, -, -, hok⟩ := hok
  split at hok
  · rw [← pure_eq_ok.mp hok]
  · simp only [bind_eq_ok, require_eq_ok, guard_eq_ok] at hok
    obtain ⟨first, -, -, hok⟩ := hok
    split at hok
    · rw [← pure_eq_ok.mp hok]
      rfl
    · rw [← pure_eq_ok.mp hok]

lemma reviewed_same {s' : Desk} (h : s'.platform = s.platform) : Reviewed s s'.platform := by
  rw [h]
  exact .wallets s.platform.ledger

lemma commit_platform {ε : Type} {s' : Desk} {x : Except ε Platform} :
    (commit s' (x.map fun platform => { s' with platform })).platform = commit s'.platform x := by
  cases x <;> rfl

lemma step_reviewed (s : Desk) (action : Reviews.Action) (hother : ∀ seen, action ≠ .finalize seen) :
    Reviewed s (Reviews.step s action).platform := by
  cases action with
  | finalize seen => exact absurd rfl (hother seen)
  | select kind admin w =>
    simp only [Reviews.step, Reviews.select]
    split <;> exact reviewed_same rfl
  | firstApprove click =>
    simp only [Reviews.step, Reviews.recordFirst]
    split
    · simp only [Reviews.firstApprove, Reviews.setClick]
      split <;> exact reviewed_same rfl
    · exact reviewed_same rfl
  | secondApproval click =>
    simp only [Reviews.step, Reviews.secondApproval]
    split
    · split
      · next hok =>
        have hsame := applySecondApproval_platform hok
        exact reviewed_same hsame
      · exact reviewed_same rfl
    · exact reviewed_same rfl
  | preview click =>
    simp only [Reviews.step, Reviews.preview]
    split
    · exact reviewed_same rfl
    · next c _ =>
      split
      · rw [commit_platform]
        exact .payout (.previewWithdrawal c.withdrawal c.actor)
      · exact reviewed_same rfl
  | claimSubmission submission estimate => exact .payout (.claimSubmission submission estimate)
  | finishSubmission submission result => exact .payout (.finishSubmission submission result)
  | previewRefund click =>
    simp only [Reviews.step, Reviews.previewRefund]
    split
    · split
      · exact reviewed_same rfl
      · exact .wallets _
    · exact reviewed_same rfl
  | reject click =>
    simp only [Reviews.step, Reviews.reject]
    split
    · next admin w walletId _ =>
      refine commit_rule (motive := fun s' : Desk => Reviewed s s'.platform) _ _ (reviewed_same rfl) fun s' hok => ?_
      obtain ⟨wr, hwr, ⟨-, rfl⟩ | ⟨hpending, r, -, rfl⟩⟩ := Reviews.rejectWithdrawal_ok hok
      · exact reviewed_same rfl
      · exact .rejected w wr admin r.1 hwr hpending
    · exact reviewed_same rfl
  | otherCredit walletId amount txType text | otherDebit walletId amount txType text =>
    simp only [Reviews.step]
    split
    · refine commit_rule (motive := fun s' : Desk => Reviewed s s'.platform) _ _ (reviewed_same rfl) fun s' hok => ?_
      obtain ⟨r, -, rfl⟩ := map_eq_ok.mp hok
      exact .wallets r.1
    · exact reviewed_same rfl
  | setFee feeConfig => exact reviewed_same rfl

end Reviews

section Invariant

def Frozen (rate : ℕ → Numeric 5 2) (w : ℕ) (gross fee net : Balance) : Prop :=
  fee.units = feeUnits (rate w) gross ∧ net.units = gross.units - fee.units

structure Inv (rate : ℕ → Numeric 5 2) (p : Platform) : Prop where
  mirrored : Mirrored p
  calls : Calls p
  ordered : Ordered (Frozen rate) p

variable {rate : ℕ → Numeric 5 2} {p p' : Platform} {w : ℕ} {wr : WithdrawalRequest}

lemma inv_wallets (h : Inv rate p) (l : WalletLedger PayoutNote) : Inv rate { p with ledger := l } where
  mirrored := { h.mirrored with }
  calls :=
    { providers := h.calls.providers
      targets := fun i e t hi => by
        have ht := h.calls.targets i e t hi
        cases t <;> exact ht
      internals := h.calls.internals }
  ordered := { h.ordered with }

lemma inv_payout (h : Inv rate p) (action : Payouts.Machine.Action) : Inv rate (Payouts.Machine.step p action) := by
  obtain ⟨hmirrored, hcalls, -⟩ := Payouts.Safety.mirrored_effect h.mirrored h.calls
    (Payouts.Effects.step_effect (p := fun _ => True) p action trivial)
  exact ⟨hmirrored, hcalls, Payouts.Fees.ordered_step h.mirrored h.calls h.ordered action⟩

lemma attempt_ne (h : Mirrored p) (hwr : p.withdrawals.get w = some wr) (hpending : wr.status = .pending) {k : ℕ}
    {a : Payouts.Records.PayoutAttempt} (ha : p.attempts.get k = some a) : a.withdrawalRequest ≠ w := by
  rintro rfl
  obtain ⟨u, hu, hagrees⟩ := h.agrees k a ha
  obtain rfl : wr = u := Option.some.inj (hwr.symm.trans hu)
  exact Payouts.Safety.derive_ne_pending hagrees.status hpending

/-- Fewer requests are the engine's own: what stood outside of it still does. -/
lemma calls_of_retail (h : Calls p) (hevents : p'.events = p.events) (hhandlers : p'.handlers = p.handlers)
    (hinternals : p'.internals = p.internals) (hattempts : p'.attempts = p.attempts)
    (hnext : p.withdrawals.next ≤ p'.withdrawals.next)
    (hretail : ∀ v, v < p.withdrawals.next → Retail p' v → Retail p v)
    (hbound : ∀ i x, p.internals.get i = some x → x.withdrawal < p.withdrawals.next) : Calls p' where
  providers := by rw [hevents]; exact h.providers
  targets i e t hi := by
    rw [hhandlers] at hi
    have ht := h.targets i e t hi
    cases t with
    | attempt k =>
      rw [TargetSound, hattempts]
      exact ht
    | funded v | legacy v => exact ⟨ht.1.trans_le hnext, mt (hretail v ht.1) ht.2⟩
    | ambiguous | integrityViolation | orphan => trivial
  internals i x hx := by
    rw [hinternals] at hx
    exact mt (hretail _ (hbound i x hx)) (h.internals i x hx)

lemma Inv.internals_lt (h : Inv rate p) {i : ℕ} {x : Payouts.Records.Internal} (hx : p.internals.get i = some x) :
    x.withdrawal < p.withdrawals.next := by
  obtain ⟨wr, hwr, -⟩ := h.ordered.internals i x hx
  exact Table.lt_of_get hwr

lemma inv_rejected (h : Inv rate p) (hwr : p.withdrawals.get w = some wr) (hpending : wr.status = .pending)
    (wr' : WithdrawalRequest) (hrejected : wr'.status = .rejected)
    (hids : wr'.npPayoutId = wr.npPayoutId ∧ wr'.npBatchId = wr.npBatchId) (hamounts : Payouts.Fees.SameAmounts wr wr')
    (l : WalletLedger PayoutNote) :
    Inv rate { p with withdrawals := p.withdrawals.update w fun _ => wr', ledger := l } := by
  have hother : ∀ {k a}, p.attempts.get k = some a →
      (p.withdrawals.update w fun _ => wr').get a.withdrawalRequest = p.withdrawals.get a.withdrawalRequest := fun ha =>
    Table.get_update_ne _ (attempt_ne h.mirrored hwr hpending ha) _
  have hunpriced : ∀ v, Unpriced p v → Unpriced { p with
      withdrawals := p.withdrawals.update w fun _ => wr', ledger := l } v := by
    rintro v ⟨u₀, hu₀, hnone⟩
    obtain ⟨u, hu, -, hfee, -⟩ := Payouts.Fees.update_forth hwr hamounts hu₀
    exact ⟨u, hu, hfee.trans hnone⟩
  refine ⟨?_, ?_, ?_⟩
  · refine ⟨fun k a ha => ?_, h.mirrored.single, fun v u hu hstatus => ?_⟩
    · obtain ⟨u, hu, hagrees⟩ := h.mirrored.agrees k a ha
      exact ⟨u, (hother ha).trans hu, hagrees⟩
    · obtain ⟨u₀, hu₀, -, ⟨-, rfl⟩ | ⟨-, rfl⟩⟩ := Payouts.Fees.update_back hwr hamounts hu
      · rw [hrejected] at hstatus
        cases hstatus
      · exact h.mirrored.untouched v u hu₀ hstatus
  · refine calls_of_retail h.calls rfl rfl rfl rfl le_rfl (fun v _ hretail => ?_) fun i x hx => h.internals_lt hx
    obtain ⟨u, hu, hcase⟩ := hretail
    obtain ⟨u₀, hu₀, -, ⟨rfl, -⟩ | ⟨-, rfl⟩⟩ := Payouts.Fees.update_back hwr hamounts hu
    · exact ⟨wr, hwr, .inl hpending⟩
    · exact ⟨u, hu₀, hcase⟩
  · exact
      { terms := fun v u fee hu hfee => by
          obtain ⟨u₀, hu₀, ⟨hgross, hsame, hnet⟩, -⟩ := Payouts.Fees.update_back hwr hamounts hu
          rw [hgross, hnet]
          exact h.ordered.terms v u₀ fee hu₀ (hsame.symm.trans hfee)
        live := fun v u fee hu hfee => by
          obtain ⟨u₀, hu₀, ⟨-, hsame, -⟩, ⟨-, rfl⟩ | ⟨-, rfl⟩⟩ := Payouts.Fees.update_back hwr hamounts hu
          · obtain ⟨hpayout, hbatch⟩ := h.mirrored.untouched w wr hwr hpending
            exact .inr (.inl ⟨hrejected, hids.1.trans hpayout, hids.2.trans hbatch⟩)
          · exact h.ordered.live v u fee hu₀ hfee
        asked := fun x actor v basis hx => by
          obtain ⟨u₀, hu₀, hbasis⟩ := h.ordered.asked x actor v basis hx
          obtain ⟨u, hu, -, hfee, hnet⟩ := Payouts.Fees.update_forth hwr hamounts hu₀
          exact ⟨u, hu, fun fee heq => hnet.trans (hbasis fee (hfee.symm.trans heq))⟩
        sent := fun k a u fee ha hu hfee => h.ordered.sent k a u fee ha ((hother ha).symm.trans hu) hfee
        targets := fun i e v t hi ht => hunpriced v (h.ordered.targets i e v t hi ht)
        internals := fun i x hx => hunpriced _ (h.ordered.internals i x hx)
        fees := fun i row v hi hsource => by
          obtain ⟨k, a, u, ha, rfl, hcompleted, hu, hfee, hne⟩ := h.ordered.fees i row v hi hsource
          exact ⟨k, a, u, ha, rfl, hcompleted, (hother ha).trans hu, hfee, hne⟩
        booked := fun k a u fee ha hcompleted hu hfee hne =>
          h.ordered.booked k a u fee ha hcompleted ((hother ha).symm.trans hu) hfee hne
        once := h.ordered.once }

lemma inv_created (h : Inv rate p) {config : FeeConfig} {fee net : Balance} (hpriced : Priced config wr fee net)
    (l : WalletLedger PayoutNote) : Inv (Function.update rate p.withdrawals.next (feeRate config))
      { p with ledger := l, withdrawals := p.withdrawals.insert wr } := by
  have hold : ∀ {v u}, p.withdrawals.get v = some u → (p.withdrawals.insert wr).get v = some u := fun hu =>
    Table.get_insert_of_get hu _
  have hsame : ∀ {k a u}, p.attempts.get k = some a → (p.withdrawals.insert wr).get a.withdrawalRequest = some u →
      p.withdrawals.get a.withdrawalRequest = some u := by
    intro k a u ha hu
    obtain ⟨u₀, hu₀, -⟩ := h.mirrored.agrees k a ha
    rwa [hold hu₀, ← hu₀] at hu
  refine ⟨?_, ?_, ?_⟩
  · refine ⟨fun k a ha => ?_, h.mirrored.single, fun v u hu hstatus => ?_⟩
    · obtain ⟨u, hu, hagrees⟩ := h.mirrored.agrees k a ha
      exact ⟨u, hold hu, hagrees⟩
    · rcases Table.get_insert_some hu with hu | ⟨-, rfl⟩
      · exact h.mirrored.untouched v u hu hstatus
      · exact ⟨hpriced.payoutId, hpriced.batchId⟩
  · refine calls_of_retail h.calls rfl rfl rfl rfl (by simp) (fun v hv hretail => ?_) fun i x hx => h.internals_lt hx
    obtain ⟨u, hu, hcase⟩ := hretail
    rcases Table.get_insert_some hu with hu | ⟨hnext, -⟩
    · exact ⟨u, hu, hcase⟩
    · omega
  · exact
      { terms := fun v u fee' hu hfee => by
          rcases Table.get_insert_some hu with hu | ⟨rfl, rfl⟩
          · simp only [Frozen, Function.update_of_ne (Table.ne_next_of_get hu)]
            exact h.ordered.terms v u fee' hu hfee
          · obtain rfl : fee = fee' := Option.some.inj (hpriced.feeAmount.symm.trans hfee)
            refine ⟨net, hpriced.netAmount, ?_, hpriced.net_eq⟩
            rw [Function.update_self]
            exact hpriced.fee_eq
        live := fun v u fee' hu hfee => by
          rcases Table.get_insert_some hu with hu | ⟨-, rfl⟩
          · exact h.ordered.live v u fee' hu hfee
          · exact .inl hpriced.pending
        asked := fun x actor v basis hx => by
          obtain ⟨u, hu, hbasis⟩ := h.ordered.asked x actor v basis hx
          exact ⟨u, hold hu, hbasis⟩
        sent := fun k a u fee' ha hu hfee => h.ordered.sent k a u fee' ha (hsame ha hu) hfee
        targets := fun i e v t hi ht => by
          obtain ⟨u, hu, hnone⟩ := h.ordered.targets i e v t hi ht
          exact ⟨u, hold hu, hnone⟩
        internals := fun i x hx => by
          obtain ⟨u, hu, hnone⟩ := h.ordered.internals i x hx
          exact ⟨u, hold hu, hnone⟩
        fees := fun i row v hi hsource => by
          obtain ⟨k, a, u, ha, haw, hcompleted, hu, hfee, hne⟩ := h.ordered.fees i row v hi hsource
          exact ⟨k, a, u, ha, haw, hcompleted, hold hu, hfee, hne⟩
        booked := fun k a u fee' ha hcompleted hu hfee hne =>
          h.ordered.booked k a u fee' ha hcompleted (hsame ha hu) hfee hne
        once := h.ordered.once }

lemma inv_reviewed (h : Inv rate p) {s : Desk} (hs : s.platform = p) (hreviewed : Reviewed s p') : Inv rate p' := by
  subst hs
  cases hreviewed with
  | wallets l => exact inv_wallets h l
  | payout action => exact inv_payout h action
  | rejected w wr admin l found pending =>
    rw [Table.update_const found]
    exact inv_rejected h found pending { wr with status := .rejected, reviewedBy := some admin } rfl ⟨rfl, rfl⟩
      ⟨rfl, rfl, rfl⟩ l

lemma step_inv {s : Office} (h : Inv s.feeRate s.desk.platform) (action : Action) :
    Inv (step s action).feeRate (step s action).desk.platform := by
  cases action with
  | payout action => exact inv_payout h action
  | review action =>
    cases action with
    | finalize seen =>
      rw [step, finalize]
      rcases finalize_cases s.desk seen with ⟨l, hplatform⟩ | ⟨wr, fee, net, l, hpriced, hplatform⟩
      · simp only [hplatform, if_true]
        exact inv_wallets h l
      · simp only [hplatform, Table.next_insert, Nat.succ_ne_self, if_false]
        exact inv_created h hpriced l
    | select | firstApprove | secondApproval | preview | claimSubmission | finishSubmission | previewRefund | reject
    | otherCredit | otherDebit | setFee =>
      exact inv_reviewed h rfl (step_reviewed s.desk _ fun _ => by simp)

lemma opened_inv (wallets : Table Wallet) (accounts : Table TradingAccount) (enrollments : Table Enrollment)
    (feeConfig : FeeConfig) (superusers : List ℕ) :
    Inv (opened wallets accounts enrollments feeConfig superusers).feeRate
      (opened wallets accounts enrollments feeConfig superusers).desk.platform where
  mirrored :=
    { agrees := fun k a ha => by cases ha
      single := fun j k a b ha => by cases ha
      untouched := fun w wr hwr => by cases hwr }
  calls :=
    { providers := fun e row hrow => by cases hrow
      targets := fun i e t hi => by cases hi
      internals := fun i x hx => by cases hx }
  ordered :=
    { terms := fun w wr fee hwr => by cases hwr
      live := fun w wr fee hwr => by cases hwr
      asked := fun x actor w basis hx => by cases hx
      sent := fun k a wr fee ha => by cases ha
      targets := fun i e w t hi => by cases hi
      internals := fun i x hx => by cases hx
      fees := fun i row w hi => by cases hi
      booked := fun k a wr fee ha => by cases ha
      once := fun i j row row' w hi => by cases hi }

lemma run_inv {s : Office} (h : Inv s.feeRate s.desk.platform) (actions : List Action) :
    Inv (run step s actions).feeRate (run step s actions).desk.platform := by
  induction actions generalizing s with
  | nil => exact h
  | cons action actions ih => exact ih (step_inv h action)

end Invariant

section Kept

variable {rate : ℕ → Numeric 5 2} {p : Platform} {w : ℕ} {wr : WithdrawalRequest} {fee : Balance}

lemma completed_of_derive {n : Payouts.Records.AttemptStatus}
    (h : Payouts.StateMachine.deriveWithdrawalStatus n = .ok .completed) : n = .completed := by
  cases n <;> simp_all [Payouts.StateMachine.deriveWithdrawalStatus]

lemma booked_iff (h : Inv rate p) (hwr : p.withdrawals.get w = some wr) (hfee : wr.feeAmount = some fee) :
    (∃ i row, p.revenue.get i = some row ∧ row.source = .withdrawFee w) ↔
      wr.status = .completed ∧ fee.units ≠ 0 := by
  constructor
  · rintro ⟨i, row, hi, hsource⟩
    obtain ⟨k, a, u, ha, rfl, hcompleted, hu, hamount, hne⟩ := h.ordered.fees i row w hi hsource
    obtain rfl : wr = u := Option.some.inj (hwr.symm.trans hu)
    obtain rfl : fee = row.amount := Option.some.inj (hfee.symm.trans hamount)
    obtain ⟨v, hv, hagrees⟩ := h.mirrored.agrees k a ha
    obtain rfl : wr = v := Option.some.inj (hwr.symm.trans hv)
    have hstatus := hagrees.status
    rw [hcompleted] at hstatus
    exact ⟨(Except.ok.inj hstatus).symm, hne⟩
  · rintro ⟨hcompleted, hne⟩
    rcases h.ordered.live w wr fee hwr hfee with hpending | ⟨hrejected, -⟩ | ⟨k, a, ha, rfl⟩
    · rw [hcompleted] at hpending
      cases hpending
    · rw [hcompleted] at hrejected
      cases hrejected
    · obtain ⟨v, hv, hagrees⟩ := h.mirrored.agrees k a ha
      obtain rfl : wr = v := Option.some.inj (hwr.symm.trans hv)
      exact h.ordered.booked k a wr fee ha (completed_of_derive (hcompleted ▸ hagrees.status)) hwr hfee hne

lemma kept_iff (h : Inv rate p) (hwr : p.withdrawals.get w = some wr) (hfee : wr.feeAmount = some fee) :
    ∃ net, wr.netAmount = some net ∧ fee.units = feeUnits (rate w) wr.amountUsd ∧
      (Kept p w wr fee net ↔ WithinGross (rate w) wr.amountUsd) := by
  obtain ⟨net, hnet, hfee_eq, hnet_eq⟩ := h.ordered.terms w wr fee hwr hfee
  refine ⟨net, hnet, hfee_eq, ?_⟩
  rw [← feeUnits_within, ← hfee_eq]
  constructor
  · intro hkept
    have hnonneg := hkept.net_nonneg
    exact ⟨hkept.fee_nonneg, by omega⟩
  · rintro ⟨hlow, hhigh⟩
    exact
      { fee_nonneg := hlow
        net_nonneg := by omega
        sum := by omega
        estimated := fun x actor basis hx => by
          obtain ⟨u, hu, hbasis⟩ := h.ordered.asked x actor w basis hx
          obtain rfl : wr = u := Option.some.inj (hwr.symm.trans hu)
          exact Option.some.inj ((hbasis fee hfee).symm.trans hnet)
        sent := fun k a ha haw => by
          subst haw
          exact Option.some.inj ((h.ordered.sent k a wr fee ha hwr hfee).symm.trans hnet)
        once := fun i j row row' => h.ordered.once i j row row' w
        amount := fun i row hi hsource => by
          obtain ⟨k, a, u, -, -, -, hu, hamount, -⟩ := h.ordered.fees i row w hi hsource
          obtain rfl : wr = u := Option.some.inj (hwr.symm.trans hu)
          exact Option.some.inj (hamount.symm.trans hfee)
        booked := booked_iff h hwr hfee }

/-- Whatever the order of configurations, reviews, submissions and notices: a request with a fee keeps what is
promised of it if and only if its rate takes between nothing and the whole of its amount. -/
theorem withdrawal_fees_kept (wallets : Table Wallet) (accounts : Table TradingAccount)
    (enrollments : Table Enrollment) (feeConfig : FeeConfig) (superusers : List ℕ) (actions : List Action) :
    (∀ (config : FeeConfig) (gross : Balance), ∃ fee net : ℤ,
      calculateWithdrawalFee config gross.value = ((feeRate config).value, scaled 2 fee, scaled 2 net) ∧
      fee + net = gross.units ∧ (0 ≤ fee ∧ 0 ≤ net ↔ WithinGross (feeRate config) gross)) ∧
    ∀ s, s = run step (opened wallets accounts enrollments feeConfig superusers) actions →
      ∀ w wr fee, s.desk.platform.withdrawals.get w = some wr → wr.feeAmount = some fee →
        ∃ net, wr.netAmount = some net ∧ fee.units = feeUnits (s.feeRate w) wr.amountUsd ∧
          (Kept s.desk.platform w wr fee net ↔ WithinGross (s.feeRate w) wr.amountUsd) := by
  constructor
  · intro config gross
    refine ⟨feeUnits (feeRate config) gross, gross.units - feeUnits (feeRate config) gross,
      calculateWithdrawalFee_eq config gross, by ring, ?_⟩
    rw [← feeUnits_within, sub_nonneg]
  · rintro s rfl w wr fee hwr hfee
    exact kept_iff (run_inv (opened_inv wallets accounts enrollments feeConfig superusers) actions) hwr hfee

def hundred : Table Wallet :=
  .ofList [{ user := 1, currency := "USD", availableBalance := .ofUnits 10000, pendingBalance := .ofUnits 0 }]

def whole : Challenge where
  user := 1
  purpose := .withdrawal
  amountUsd := none
  withdrawAll := true
  asset := "USDT"
  network := "TRC20"
  walletAddress := "TXYZ"
  codeHash := ""
  expiresAt := 600
  attempts := 0
  maxAttempts := 5
  lastSentAt := 0
  status := .verified

/-- A withdrawal of everything in the wallet, whose completion two deliveries of an event report. -/
def reportedTwice : List Action :=
  [.review (.finalize whole), .review (.preview 0), .review (.claimSubmission 0 (some 98)),
    .review (.finishSubmission 0 (.accepted "5000" "77" "CREATED")),
    .payout (.receiveEvent "5000" "77" "FINISHED" ⟨none, ""⟩), .payout (.resolveEvent 0), .payout (.resolveEvent 0),
    .payout (.processWebhookEvent 0), .payout (.processWebhookEvent 1)]

def afterwards (percent : Numeric 5 2) : Office :=
  run step (opened hundred .empty .empty ⟨percent, true⟩ [1]) reportedTwice

def amounts (wr : WithdrawalRequest) : WithdrawalStatus × ℤ × Option ℤ × Option ℤ :=
  (wr.status, wr.amountUsd.units, wr.feeAmount.map Numeric.units, wr.netAmount.map Numeric.units)

lemma afterwards_amounts :
    ((afterwards (.ofUnits 150)).desk.platform.withdrawals.get 0).map amounts =
        some (.completed, 10000, some 150, some 9850) ∧
      WithinGross ((afterwards (.ofUnits 150)).feeRate 0) (.ofUnits 10000) ∧
      ((afterwards (Numeric.ofUnits 100).negate).desk.platform.withdrawals.get 0).map amounts =
        some (.completed, 10000, some (-100), some 10100) ∧
      ((afterwards (Numeric.ofUnits 100).negate).desk.platform.attempts.get 0).map
        (fun a => a.requestedAmountUsd.units) = some 10100 := by
  decide +kernel

/-- At the default of 1.50 percent, one row of 1.50 is booked for the hundred dollars. -/
theorem withdrawal_fees_kept_default : ∃ wr fee net,
    (afterwards (.ofUnits 150)).desk.platform.withdrawals.get 0 = some wr ∧
      Kept (afterwards (.ofUnits 150)).desk.platform 0 wr fee net ∧ wr.status = .completed ∧ fee.units = 150 := by
  obtain ⟨hamounts, hwithin, -⟩ := afterwards_amounts
  obtain ⟨wr, hwr, heq⟩ := Option.map_eq_some_iff.mp hamounts
  simp only [amounts, Prod.mk.injEq, Option.map_eq_some_iff] at heq
  obtain ⟨hcompleted, hgross, ⟨fee, hfee, hunits⟩, -⟩ := heq
  have hsame : wr.amountUsd = .ofUnits 10000 := units_injective hgross
  obtain ⟨-, hrun⟩ := withdrawal_fees_kept hundred .empty .empty ⟨.ofUnits 150, true⟩ [1] reportedTwice
  obtain ⟨net, -, -, hiff⟩ := hrun _ rfl 0 wr fee hwr hfee
  refine ⟨wr, fee, net, hwr, hiff.mpr ?_, hcompleted, hunits⟩
  rw [hsame]
  exact hwithin

/-- At minus one percent the provider is asked for 101.00 of the hundred dollars. -/
theorem negative_rate_overpays : ∃ wr fee net a,
    (afterwards (Numeric.ofUnits 100).negate).desk.platform.withdrawals.get 0 = some wr ∧
      wr.feeAmount = some fee ∧ wr.netAmount = some net ∧ wr.amountUsd.units = 10000 ∧ fee.units = -100 ∧
      (afterwards (Numeric.ofUnits 100).negate).desk.platform.attempts.get 0 = some a ∧
      a.requestedAmountUsd.units = 10100 ∧
      ¬ Kept (afterwards (Numeric.ofUnits 100).negate).desk.platform 0 wr fee net := by
  obtain ⟨-, -, hamounts, hsent⟩ := afterwards_amounts
  obtain ⟨wr, hwr, heq⟩ := Option.map_eq_some_iff.mp hamounts
  simp only [amounts, Prod.mk.injEq, Option.map_eq_some_iff] at heq
  obtain ⟨-, hgross, ⟨fee, hfee, hunits⟩, net, hnet, -⟩ := heq
  obtain ⟨a, ha, hasked⟩ := Option.map_eq_some_iff.mp hsent
  refine ⟨wr, fee, net, a, hwr, hfee, hnet, hgross, hunits, ha, hasked, fun hkept => ?_⟩
  have hnonneg := hkept.fee_nonneg
  omega

end Kept

end TrxSimulator.Withdrawals.Economics
