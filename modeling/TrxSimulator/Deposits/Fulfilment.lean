import TrxSimulator.Deposits.Pending
import TrxSimulator.Deposits.Purchases
import TrxSimulator.Challenges.Phases

/-! When the callback of a paid deposit opens its challenge: the stored amount against the amount asked, and the active
purchases of the same product. -/

namespace TrxSimulator.Deposits.Fulfilment

open Foundations.Tables Foundations.Outcomes Foundations.Decimals Foundations.Runs Money Wallets.Ledger
open Callbacks hiding depositCallback step Action
open Challenges.Evaluation Purchases
open Challenges.Progress hiding step Action

section Openings

variable {s s' : Shop} {user product : ℕ} {source : EnrollmentSource} {deposit : Option ℕ}
  {pay : WalletLedger String → Callbacks.ChallengeProduct → Except LedgerError (WalletLedger String)}

lemma any_rows_insert {α : Type*} {t : Table α} {a : α} {p : ℕ × α → Bool} (h : p (t.next, a) = false) :
    (t.insert a).rows.any p = t.rows.any p := by
  rw [Table.rows_insert, List.any_append, List.any_cons, h]
  simp

lemma duplicateActive_insert {t t' : Challenges.Evaluation.Desk} {e e' : ChallengeEnrollment}
    (henrollments : t'.enrollments = t.enrollments.insert e) (huser : e'.user = e.user)
    (hproduct : e'.product = e.product) (hstatus : e'.status = e.status) (hsource : e'.source = e.source) :
    duplicateActive t' t.enrollments.next e' = duplicateActive t t.enrollments.next e := by
  rw [duplicateActive, duplicateActive, henrollments, huser, hproduct, hstatus, hsource, any_rows_insert]
  simp

def activation (t : Challenges.Evaluation.Desk) (user : ℕ) (terms : Challenges.Evaluation.ChallengeProduct)
    (e : ChallengeEnrollment) (target maxDrawdown : Accounts.Balance) : Challenges.Evaluation.Desk :=
  { t with
    accounts := t.accounts.insert (newAccount t user .challenge terms .phase1 (some target) maxDrawdown)
    riskRules := t.riskRules.insert (newRiskRule t.accounts.next terms terms.p1)
    enrollments := t.enrollments.insert { e with phase1Account := some t.accounts.next, status := .phase1 } }

lemma enroll_activate_iff {t t₂ : Challenges.Evaluation.Desk} :
    (∃ t₁, enroll t user product source = .ok t₁ ∧ activateChallengeEnrollment t₁ t.enrollments.next = .ok t₂) ↔
    duplicateActive t t.enrollments.next (newEnrollment user product source) = false ∧
    ∃ terms target maxDrawdown, t.products.get product = some terms ∧
      shareOfSize terms.accountSize terms.p1.profitTargetPct = .ok target ∧
      shareOfSize terms.accountSize terms.p1.maxDrawdownPct = .ok maxDrawdown ∧
      activation t user terms (newEnrollment user product source) target maxDrawdown = t₂ := by
  simp only [enroll, guard_eq_ok, Except.ok.injEq, Bool.not_eq_true, and_assoc, exists_and_left, exists_eq_left']
  refine and_congr_right fun hsingle => ?_
  simp only [activateChallengeEnrollment, bind_eq_ok, lockEnrollment, require_eq_ok, Table.get_insert_next,
    Option.some.injEq, exists_eq_left']
  rw [if_neg (by simp [newEnrollment])]
  simp only [bind_eq_ok, productOf, require_eq_ok, saveEnrollment, guard_eq_ok, Except.ok.injEq, Bool.not_eq_true]
  refine exists_congr fun terms => and_congr_right fun _ => exists_congr fun target => and_congr_right fun _ =>
    exists_congr fun maxDrawdown => and_congr_right fun _ => ?_
  rw [Table.update_insert_next]
  apply and_iff_right
  exact (duplicateActive_insert (e := newEnrollment user product source) rfl rfl rfl rfl rfl).trans hsingle

def opened (s : Shop) (ledger : WalletLedger String) (price : Callbacks.ChallengeProduct)
    (challenges : Challenges.Evaluation.Desk) (deposit : Option ℕ) : Shop :=
  { s with
    payments := { s.payments with ledger := ledger }
    challenges := challenges
    deposit := Function.update s.deposit s.challenges.enrollments.next deposit
    revenue := recordChallengeFeeRevenue s.revenue s.challenges.enrollments.next price }

lemma openChallenge_eq_ok : openChallenge s user product source deposit pay = .ok s' ↔
    ∃ price ledger terms target maxDrawdown, s.payments.products.get product = some price ∧
      pay s.payments.ledger price = .ok ledger ∧
      duplicateActive s.challenges s.challenges.enrollments.next (newEnrollment user product source) = false ∧
      s.challenges.products.get product = some terms ∧
      shareOfSize terms.accountSize terms.p1.profitTargetPct = .ok target ∧
      shareOfSize terms.accountSize terms.p1.maxDrawdownPct = .ok maxDrawdown ∧
      opened s ledger price (activation s.challenges user terms (newEnrollment user product source) target maxDrawdown)
        deposit = s' := by
  simp only [openChallenge, bind_eq_ok, require_eq_ok, mapError_eq_ok, pure_eq_ok]
  constructor
  · rintro ⟨price, hprice, enrolled, henrolled, ledger, hledger, activated, hactivated, rfl⟩
    obtain ⟨hsingle, terms, target, maxDrawdown, hterms, htarget, hmaxDrawdown, rfl⟩ :=
      enroll_activate_iff.mp ⟨enrolled, henrolled, hactivated⟩
    exact ⟨price, ledger, terms, target, maxDrawdown, hprice, hledger, hsingle, hterms, htarget, hmaxDrawdown, rfl⟩
  · rintro ⟨price, ledger, terms, target, maxDrawdown, hprice, hledger, hsingle, hterms, htarget, hmaxDrawdown, rfl⟩
    obtain ⟨enrolled, henrolled, hactivated⟩ := enroll_activate_iff.mpr
      ⟨hsingle, terms, target, maxDrawdown, hterms, htarget, hmaxDrawdown, rfl⟩
    exact ⟨price, hprice, enrolled, henrolled, ledger, hledger, _, hactivated, rfl⟩

end Openings

section Deliveries

variable {s s' : Shop} {user product deposit : ℕ} {d : Deposit} {n : Notice} {ipn : Ipn} {queued : Bool} {paid : ℚ}

lemma fulfill_eq_ok : fulfillChallengePurchase s deposit user product queued = .ok s' ↔
    s.linked deposit = false ∧ queued = true ∧
      openChallenge s user product .deposit (some deposit) (fun ledger _ => .ok ledger) = .ok s' := by
  simp only [fulfillChallengePurchase, guard_eq_ok, bind_eq_ok, Bool.not_eq_true, Bool.not_eq_false,
    Except.ok.injEq]
  constructor
  · rintro ⟨hlinked, fulfilled, hopen, hqueued, rfl⟩
    exact ⟨hlinked, hqueued, hopen⟩
  · rintro ⟨hlinked, hqueued, hopen⟩
    exact ⟨hlinked, s', hopen, hqueued, rfl⟩

lemma fulfill_returns : Returns (fulfillChallengePurchase s deposit user product queued) ↔
    s.linked deposit = false ∧ Opens s user product ∧ queued = true := by
  simp only [Returns, fulfill_eq_ok, openChallenge_eq_ok, Except.ok.injEq]
  constructor
  · rintro ⟨_, hlinked, hqueued, price, ledger, terms, target, maxDrawdown, hprice, -, hsingle, hterms, htarget,
      hmaxDrawdown, -⟩
    refine ⟨hlinked, ⟨hsingle, ?_, terms, hterms, ⟨target, htarget⟩, maxDrawdown, hmaxDrawdown⟩, hqueued⟩
    rw [hprice]
    rfl
  · rintro ⟨hlinked, ⟨hsingle, hprice, terms, hterms, ⟨target, htarget⟩, maxDrawdown, hmaxDrawdown⟩, hqueued⟩
    obtain ⟨price, hprice⟩ := Option.isSome_iff_exists.mp hprice
    exact ⟨_, hlinked, hqueued, price, _, terms, target, maxDrawdown, hprice, rfl, hsingle, hterms, htarget,
      hmaxDrawdown, rfl⟩

lemma sufficient_iff :
    sufficient d n.ipn = true ↔ ∃ paid, n.actuallyPaid = some paid ∧ n.InCurrency d ∧ Covered d paid := by
  rw [sufficient, Notice.ipn]
  cases hstored : d.payAmount with
  | none => simp [Covered, hstored]
  | some r =>
    cases n.actuallyPaid with
    | none => simp
    | some paid => simp [Covered, Notice.InCurrency, hstored]

lemma due_eq_some : due d ipn = some product ↔ d.credited = false ∧ ipn.status.creditedStatus = true ∧
    sufficient d ipn = true ∧ d.challengeProduct = some product := by
  rw [due]
  split
  · next h => exact (and_iff_right h.1).symm.trans (by tauto)
  · next h => exact iff_of_false (by simp) fun hdue => h ⟨hdue.1, hdue.2.1, hdue.2.2.1⟩

/-- The callback of a deposit that is due credits it whenever its challenge is open. -/
lemma payments_of_due (hd : s.payments.deposits.get deposit = some d) (hdue : due d ipn = some product) :
    Callbacks.depositCallback s.payments deposit ipn true = .ok { s.payments with
      deposits := s.payments.deposits.update deposit (applyIpn ipn true) } := by
  obtain ⟨huncredited, hstatus, hsufficient, hproduct⟩ := due_eq_some.mp hdue
  have hsettle : settleIpn s.payments deposit d ipn true = .ok (s.payments.ledger, true) := by
    rw [settleIpn, if_pos (show ipn.status.creditedStatus = true from hstatus), hproduct]
    simp only [hsufficient, if_true]
  have hfits : ipn.status.fits = true := by
    cases hs : ipn.status <;> simp_all [Status.fits, Status.creditedStatus]
  rw [Callbacks.depositCallback, bind_eq_ok]
  refine ⟨d, require_eq_ok.mpr hd, ?_⟩
  rw [if_neg (by simp [huncredited]), bind_eq_ok]
  refine ⟨_, hsettle, ?_⟩
  rw [if_pos hfits]
  rfl

lemma depositCallback_of_due (hd : s.payments.deposits.get deposit = some d) (hdue : due d ipn = some product) :
    depositCallback s deposit ipn queued = .ok s' ↔
      ∃ t, fulfillChallengePurchase s deposit d.user product queued = .ok t ∧ s' = { t with payments := { s.payments with
        deposits := s.payments.deposits.update deposit (applyIpn ipn true) } } := by
  simp only [depositCallback, bind_eq_ok, require_eq_ok, hd, Option.some.injEq, exists_eq_left', settleDue, hdue,
    mapError_eq_ok, payments_of_due hd hdue, Except.ok.injEq, pure_eq_ok]
  exact exists_congr fun t => and_congr_right fun _ => eq_comm

lemma depositCallback_of_not_due (hdue : ∀ d, s.payments.deposits.get deposit = some d → due d ipn = none)
    (h : depositCallback s deposit ipn queued = .ok s') :
    ∃ payments, Callbacks.depositCallback s.payments deposit ipn true = .ok payments ∧
      s' = { s with payments := payments } := by
  simp only [depositCallback, bind_eq_ok, require_eq_ok, mapError_eq_ok, pure_eq_ok] at h
  obtain ⟨d, hd, settled, hsettled, payments, hpayments, rfl⟩ := h
  rw [settleDue, hdue d hd, Except.ok.injEq] at hsettled
  exact ⟨payments, hpayments, by rw [hsettled]⟩

lemma deliver_opened (hd : s.payments.deposits.get deposit = some d) (hdue : due d n.ipn = some product)
    (hlinked : s.linked deposit = false) (hopens : Opens s d.user product) : ∃ price terms target maxDrawdown,
    deliver s deposit n true =
      { opened s s.payments.ledger price
          (activation s.challenges d.user terms (newEnrollment d.user product .deposit) target maxDrawdown)
          (some deposit) with
        payments := { s.payments with deposits := s.payments.deposits.update deposit (applyIpn n.ipn true) } } := by
  obtain ⟨t, ht⟩ := fulfill_returns.mpr ⟨hlinked, hopens, rfl⟩
  obtain ⟨-, -, hopen⟩ := fulfill_eq_ok.mp ht
  obtain ⟨price, ledger, terms, target, maxDrawdown, -, hledger, -, -, -, -, rfl⟩ := openChallenge_eq_ok.mp hopen
  obtain rfl := Except.ok.inj hledger
  refine ⟨price, terms, target, maxDrawdown, ?_⟩
  rw [deliver, (depositCallback_of_due hd hdue).mpr ⟨_, ht, rfl⟩, commit_ok]

lemma deliver_refused (hd : s.payments.deposits.get deposit = some d) (hdue : due d n.ipn = some product)
    (h : ¬ Returns (fulfillChallengePurchase s deposit d.user product queued)) : deliver s deposit n queued = s := by
  rw [deliver]
  refine commit_rule _ _ rfl fun s' hok => ?_
  obtain ⟨t, ht, -⟩ := (depositCallback_of_due hd hdue).mp hok
  exact absurd ⟨t, ht⟩ h

/-- A deposit that waits for its challenge, whatever its status. -/
def Waits (s : Shop) (deposit : ℕ) (d : Deposit) : Prop :=
  ∃ d', s.payments.deposits.get deposit = some d' ∧ d'.credited = false ∧ d'.user = d.user ∧
    d'.cryptoCurrency = d.cryptoCurrency ∧ d'.payAmount = d.payAmount ∧ d'.challengeProduct = d.challengeProduct

lemma settleIpn_of_not_due {r : WalletLedger String × Bool} (huncredited : d.credited = false)
    (hproduct : d.challengeProduct = some product) (hdue : due d ipn = none)
    (h : settleIpn s.payments deposit d ipn true = .ok r) : r.2 = false := by
  rw [settleIpn, hproduct] at h
  split at h
  · next hcredited =>
    dsimp only at h
    split at h
    · next hsufficient =>
      rw [due, if_pos ⟨huncredited, hcredited, hsufficient⟩, hproduct] at hdue
      cases hdue
    · cases h
      rfl
  · split at h
    · obtain ⟨l, -, rfl⟩ := map_eq_ok.mp h
      rfl
    · cases h
      rfl

lemma deliver_challenges (hdue : ∀ d, s.payments.deposits.get deposit = some d → due d n.ipn = none) :
    (deliver s deposit n queued).challenges = s.challenges := by
  rw [deliver]
  refine commit_rule _ _ rfl fun s' hok => ?_
  obtain ⟨payments, -, rfl⟩ := depositCallback_of_not_due hdue hok
  rfl

lemma deliver_idle (howed : Owed s deposit d product) (hdue : due d n.ipn = none) :
    (deliver s deposit n queued).challenges = s.challenges ∧ (deliver s deposit n queued).deposit = s.deposit ∧
      (deliver s deposit n queued).payments.products = s.payments.products ∧
      Waits (deliver s deposit n queued) deposit d := by
  rw [deliver]
  refine commit_rule _ _ ?_ fun s' hok => ?_
  · exact ⟨rfl, rfl, rfl, d, howed.found, howed.uncredited, rfl, rfl, rfl, rfl⟩
  · have hnone : ∀ d', s.payments.deposits.get deposit = some d' → due d' n.ipn = none := by
      intro d' hd'
      obtain rfl : d = d' := Option.some.inj (howed.found.symm.trans hd')
      exact hdue
    obtain ⟨payments, hpayments, rfl⟩ := depositCallback_of_not_due hnone hok
    obtain ⟨d', hd', ⟨-, rfl⟩ | ⟨-, r, hr, rfl⟩⟩ := Pending.depositCallback_eq_ok hpayments
    · exact ⟨rfl, rfl, rfl, d, howed.found, howed.uncredited, rfl, rfl, rfl, rfl⟩
    · obtain rfl : d = d' := Option.some.inj (howed.found.symm.trans hd')
      have hr2 := settleIpn_of_not_due howed.uncredited howed.product hdue hr
      exact ⟨rfl, rfl, rfl, applyIpn n.ipn r.2 d, Table.get_update_self hd' _, hr2, rfl, rfl, rfl, rfl⟩

end Deliveries

/-- Each enrollment of a deposit is the only one and its deposit is credited, and a stored amount is the column's of the
amount asked. -/
structure Books (s : Shop) : Prop where
  linked : ∀ i deposit, s.deposit i = some deposit → i < s.challenges.enrollments.next ∧ Credited s deposit
  once : ∀ i j deposit, s.deposit i = some deposit → s.deposit j = some deposit → i = j
  amounts : ∀ deposit d r, s.payments.deposits.get deposit = some d → d.payAmount = some r →
    ∃ x, s.asked deposit = some x ∧ payColumn x = some r

section Promised

variable {s : Shop} {product deposit : ℕ} {d : Deposit} {n : Notice} {queued : Bool} {paid : ℚ}

lemma not_credited_of_owed (howed : Owed s deposit d product) : ¬ Credited s deposit := by
  rintro ⟨d', hd', hcredited⟩
  obtain rfl : d = d' := Option.some.inj (howed.found.symm.trans hd')
  rw [howed.uncredited] at hcredited
  cases hcredited

lemma linked_eq_false (h : Books s) (howed : Owed s deposit d product) : s.linked deposit = false := by
  rw [Shop.linked, List.any_eq_false]
  intro i _ hi
  exact not_credited_of_owed howed (h.linked i deposit (of_decide_eq_true hi)).2

lemma due_iff (howed : Owed s deposit d product) (hreports : Reports n d paid) :
    due d n.ipn = some product ↔ Covered d paid := by
  rw [due_eq_some, sufficient_iff]
  constructor
  · rintro ⟨-, -, ⟨paid', hpaid', -, hcovered⟩, -⟩
    obtain rfl : paid = paid' := Option.some.inj (hreports.amount.symm.trans hpaid')
    exact hcovered
  · intro hcovered
    exact ⟨howed.uncredited, hreports.credited, ⟨paid, hreports.amount, hreports.currency, hcovered⟩, howed.product⟩

lemma due_eq_none (howed : Owed s deposit d product) (hdue : due d n.ipn ≠ some product) : due d n.ipn = none := by
  cases h : due d n.ipn with
  | none => rfl
  | some p =>
    obtain ⟨-, -, -, hproduct⟩ := due_eq_some.mp h
    rw [h, ← hproduct, howed.product] at hdue
    exact absurd rfl hdue

lemma deliver_fulfilled (h : Books s) (howed : Owed s deposit d product) (hdue : due d n.ipn = some product)
    (hopens : Opens s d.user product) : Fulfilled (deliver s deposit n true) deposit d product ∧
      (deliver s deposit n true).challenges.enrollments ≠ s.challenges.enrollments := by
  obtain ⟨price, terms, target, maxDrawdown, heq⟩ := deliver_opened howed.found hdue (linked_eq_false h howed) hopens
  rw [heq]
  refine ⟨⟨⟨applyIpn n.ipn true d, Table.get_update_self howed.found _, rfl⟩,
    s.challenges.enrollments.next, ?_, ?_, ?_⟩, ?_⟩
  · exact Function.update_self ..
  · exact ⟨_, s.challenges.accounts.next, Table.get_insert_next _ _, rfl, rfl, rfl,
      Option.isSome_iff_exists.mpr ⟨_, Table.get_insert_next _ _⟩⟩
  · intro j hj
    by_contra hne
    change Function.update s.deposit s.challenges.enrollments.next (some deposit) j = some deposit at hj
    rw [Function.update_of_ne hne] at hj
    exact not_credited_of_owed howed (h.linked j deposit hj).2
  · intro hsame
    have hnext := congrArg Table.next hsame
    simp [activation, opened] at hnext

lemma deliver_waits (howed : Owed s deposit d product)
    (h : ¬ (due d n.ipn = some product ∧ Opens s d.user product ∧ queued = true)) :
    (deliver s deposit n queued).challenges = s.challenges ∧ (deliver s deposit n queued).deposit = s.deposit ∧
      (deliver s deposit n queued).payments.products = s.payments.products ∧
      Waits (deliver s deposit n queued) deposit d := by
  by_cases hdue : due d n.ipn = some product
  · have hrefused : ¬ Returns (fulfillChallengePurchase s deposit d.user product queued) := by
      rw [fulfill_returns]
      tauto
    rw [deliver_refused howed.found hdue hrefused]
    exact ⟨rfl, rfl, rfl, d, howed.found, howed.uncredited, rfl, rfl, rfl, rfl⟩
  · exact deliver_idle howed (due_eq_none howed hdue)

lemma Waits.not_credited (h : Waits s deposit d) : ¬ Credited s deposit := by
  rintro ⟨d₁, hd₁, hcredited⟩
  obtain ⟨d₂, hd₂, huncredited, -⟩ := h
  obtain rfl : d₁ = d₂ := Option.some.inj (hd₁.symm.trans hd₂)
  rw [huncredited] at hcredited
  cases hcredited

lemma deliver_credited_iff (h : Books s) (howed : Owed s deposit d product) (hreports : Reports n d paid) :
    Credited (deliver s deposit n queued) deposit ↔ Covered d paid ∧ Opens s d.user product ∧ queued = true := by
  rw [← due_iff howed hreports]
  constructor
  · intro hcredited
    by_contra hnot
    exact (deliver_waits howed hnot).2.2.2.not_credited hcredited
  · rintro ⟨hdue, hopens, rfl⟩
    exact (deliver_fulfilled h howed hdue hopens).1.credited

lemma kept_iff_clear (h : Books s) : Kept s deposit n queued ↔ Clear s deposit n queued := by
  constructor
  · intro hkept d product asked paid howed hasked hreports
    rw [← due_iff howed hreports]
    constructor
    · intro hle
      rw [due_iff howed hreports, ← deliver_credited_iff h howed hreports]
      exact (hkept.paid d product asked paid howed hasked hreports hle).credited
    · rintro ⟨hdue, hopens, rfl⟩
      by_contra hlt
      exact (deliver_fulfilled h howed hdue hopens).2
        (hkept.below asked paid hasked hreports.amount (not_le.mp hlt))
  · intro hclear
    constructor
    · intro d product asked paid howed hasked hreports hle
      have hopen := (hclear d product asked paid howed hasked hreports).mp hle
      rw [← due_iff howed hreports] at hopen
      obtain ⟨hdue, hopens, rfl⟩ := hopen
      exact (deliver_fulfilled h howed hdue hopens).1
    · intro asked paid hasked hpaid hlt
      by_cases hdue : ∃ d product, s.payments.deposits.get deposit = some d ∧ due d n.ipn = some product
      · obtain ⟨d, product, hd, hdue⟩ := hdue
        obtain ⟨huncredited, hstatus, hsufficient, hproduct⟩ := due_eq_some.mp hdue
        obtain ⟨paid', hpaid', hcurrency, -⟩ := sufficient_iff.mp hsufficient
        obtain rfl : paid = paid' := Option.some.inj (hpaid.symm.trans hpaid')
        have howed : Owed s deposit d product := ⟨hd, huncredited, hproduct⟩
        have hreports : Reports n d paid := ⟨hstatus, hpaid, hcurrency⟩
        have hnot := (not_congr (hclear d product asked paid howed hasked hreports)).mp (not_le.mpr hlt)
        rw [← due_iff howed hreports] at hnot
        rw [(deliver_waits howed hnot).1]
      · rw [deliver_challenges fun d hd => ?_]
        push Not at hdue
        exact Option.eq_none_iff_forall_ne_some.mpr fun product => hdue d product hd

end Promised

section Payments

variable {t t' : Callbacks.Desk}

/-- A credited deposit stays credited, and a stored amount is not a new one. -/
structure Carries (t t' : Callbacks.Desk) : Prop where
  credited : ∀ i d, t.deposits.get i = some d → d.credited = true →
    ∃ d', t'.deposits.get i = some d' ∧ d'.credited = true
  amounts : ∀ i d' r, t'.deposits.get i = some d' → d'.payAmount = some r →
    ∃ d, t.deposits.get i = some d ∧ d.payAmount = some r

lemma carries_of_eq (h : t'.deposits = t.deposits) : Carries t t' where
  credited i d hd hcredited := ⟨d, by rw [h, hd], hcredited⟩
  amounts i d' r hd' hr := ⟨d', by rw [← h, hd'], hr⟩

lemma carries_update {k : ℕ} {f : Deposit → Deposit} (h : t'.deposits = t.deposits.update k f)
    (hcredited : ∀ d, t.deposits.get k = some d → d.credited = true → (f d).credited = true)
    (hamount : ∀ d, (f d).payAmount = d.payAmount) : Carries t t' where
  credited i d hd hc := by
    rw [h]
    by_cases hik : i = k
    · subst hik
      exact ⟨f d, Table.get_update_self hd f, hcredited d hd hc⟩
    · exact ⟨d, (Table.get_update_ne _ hik f).trans hd, hc⟩
  amounts i d' r hd' hr := by
    rw [h] at hd'
    obtain ⟨d, hd, rfl⟩ := Table.get_update_some hd'
    refine ⟨d, hd, ?_⟩
    split at hr
    · rwa [hamount] at hr
    · exact hr

lemma carries_create (user : ℕ) (amountUsd : Numeric 12 2) (cryptoCurrency : String) (product : Option ℕ) :
    Carries t (t.create user amountUsd cryptoCurrency product) where
  credited i d hd hc := ⟨d, Table.get_insert_of_get hd _, hc⟩
  amounts i d' r hd' hr := by
    obtain hold | ⟨-, rfl⟩ := Table.get_insert_some hd'
    · exact ⟨d', hold, hr⟩
    · cases hr

lemma carries_callback {deposit : ℕ} {ipn : Ipn} {fulfilled : Bool}
    (h : Callbacks.depositCallback t deposit ipn fulfilled = .ok t') : Carries t t' := by
  obtain ⟨d, hd, ⟨-, rfl⟩ | ⟨huncredited, r, -, rfl⟩⟩ := Pending.depositCallback_eq_ok h
  · exact carries_of_eq rfl
  · refine carries_update rfl (fun d' hd' hcredited => ?_) fun _ => rfl
    obtain rfl : d = d' := Option.some.inj (hd.symm.trans hd')
    rw [huncredited] at hcredited
    cases hcredited

lemma carries_poll (poll : ℕ) (reported : Option Status) : Carries t (Callbacks.pollWrite t poll reported) := by
  rw [Callbacks.pollWrite]
  split
  · exact carries_of_eq rfl
  · dsimp only
    split
    · exact carries_of_eq rfl
    · split
      · exact carries_of_eq rfl
      · exact carries_update rfl (fun _ _ hc => hc) fun _ => rfl

end Payments

section Steps

variable {s s' : Shop}

lemma credited_of_carries (h : Carries s.payments s'.payments) {deposit : ℕ} (hc : Credited s deposit) :
    Credited s' deposit := by
  obtain ⟨d, hd, hcredited⟩ := hc
  exact h.credited deposit d hd hcredited

lemma Books.carry (h : Books s) (hpayments : Carries s.payments s'.payments)
    (hnext : s.challenges.enrollments.next ≤ s'.challenges.enrollments.next) (hdeposit : s'.deposit = s.deposit)
    (hasked : ∀ i x, s.asked i = some x → s'.asked i = some x) : Books s' where
  linked i deposit hi := by
    obtain ⟨hlt, hcredited⟩ := h.linked i deposit (by rw [← hdeposit, hi])
    exact ⟨hlt.trans_le hnext, credited_of_carries hpayments hcredited⟩
  once := by
    rw [hdeposit]
    exact h.once
  amounts i d' r hd' hr := by
    obtain ⟨d, hd, hr⟩ := hpayments.amounts i d' r hd' hr
    obtain ⟨x, hx, hcolumn⟩ := h.amounts i d r hd hr
    exact ⟨x, hasked i x hx, hcolumn⟩

lemma Books.insert (h : Books s) {deposit : Option ℕ} (hpayments : Carries s.payments s'.payments)
    (hnew : ∀ k, deposit = some k → (∀ i, s.deposit i ≠ some k) ∧ Credited s' k)
    (hnext : s'.challenges.enrollments.next = s.challenges.enrollments.next + 1)
    (hdeposit : s'.deposit = Function.update s.deposit s.challenges.enrollments.next deposit)
    (hquotes : s'.quotes = s.quotes) : Books s' := by
  have hcases : ∀ i k, s'.deposit i = some k →
      s.deposit i = some k ∨ (i = s.challenges.enrollments.next ∧ deposit = some k) := by
    intro i k hi
    rw [hdeposit, Function.update_apply] at hi
    split at hi
    · next heq => exact Or.inr ⟨heq, hi⟩
    · exact Or.inl hi
  constructor
  · intro i k hi
    rw [hnext]
    obtain hold | ⟨rfl, hk⟩ := hcases i k hi
    · obtain ⟨hlt, hcredited⟩ := h.linked i k hold
      exact ⟨by omega, credited_of_carries hpayments hcredited⟩
    · exact ⟨by omega, (hnew k hk).2⟩
  · intro i j k hi hj
    obtain hold | ⟨hi, hk⟩ := hcases i k hi <;> obtain hold' | ⟨hj, hk'⟩ := hcases j k hj
    · exact h.once i j k hold hold'
    · exact absurd hold ((hnew k hk').1 i)
    · exact absurd hold' ((hnew k hk).1 j)
    · rw [hi, hj]
  · intro i d' r hd' hr
    obtain ⟨d, hd, hr⟩ := hpayments.amounts i d' r hd' hr
    rw [Shop.asked, hquotes]
    exact h.amounts i d r hd hr

lemma linked_eq_false_iff (h : Books s) {deposit : ℕ} : s.linked deposit = false ↔ ∀ i, s.deposit i ≠ some deposit := by
  rw [Shop.linked, List.any_eq_false]
  constructor
  · intro hnone i hi
    exact hnone i (List.mem_range.mpr (h.linked i deposit hi).1) (decide_eq_true hi)
  · intro hnone i _ hi
    exact hnone i (of_decide_eq_true hi)

lemma books_open {user product : ℕ} {source : EnrollmentSource}
    {pay : WalletLedger String → Callbacks.ChallengeProduct → Except LedgerError (WalletLedger String)} (h : Books s)
    (hok : openChallenge s user product source none pay = .ok s') : Books s' := by
  obtain ⟨price, ledger, terms, target, maxDrawdown, -, -, -, -, -, -, rfl⟩ := openChallenge_eq_ok.mp hok
  exact h.insert (carries_of_eq rfl) (fun _ hk => by cases hk) rfl rfl rfl

lemma books_callback {deposit : ℕ} {ipn : Ipn} {queued : Bool} (h : Books s)
    (hok : depositCallback s deposit ipn queued = .ok s') : Books s' := by
  obtain ⟨d, hd⟩ : ∃ d, s.payments.deposits.get deposit = some d := by
    rw [depositCallback, bind_eq_ok] at hok
    obtain ⟨d, hd, -⟩ := hok
    exact ⟨d, require_eq_ok.mp hd⟩
  cases hdue : due d ipn with
  | none =>
    have hnone : ∀ d', s.payments.deposits.get deposit = some d' → due d' ipn = none := by
      intro d' hd'
      obtain rfl : d = d' := Option.some.inj (hd.symm.trans hd')
      exact hdue
    obtain ⟨payments, hpayments, rfl⟩ := depositCallback_of_not_due hnone hok
    exact h.carry (carries_callback hpayments) le_rfl rfl fun _ _ hx => hx
  | some product =>
    obtain ⟨t, ht, rfl⟩ := (depositCallback_of_due hd hdue).mp hok
    obtain ⟨hlinked, -, hopen⟩ := fulfill_eq_ok.mp ht
    obtain ⟨price, ledger, terms, target, maxDrawdown, -, -, -, -, -, -, rfl⟩ := openChallenge_eq_ok.mp hopen
    refine h.insert (carries_callback (payments_of_due hd hdue)) (fun k hk => ?_) rfl rfl rfl
    obtain rfl := Option.some.inj hk
    exact ⟨(linked_eq_false_iff h).mp hlinked, applyIpn ipn true d, Table.get_update_self hd _, rfl⟩

lemma challenges_next (t : Challenges.Evaluation.Desk) (action : Challenges.Progress.Action) :
    t.enrollments.next ≤ (Challenges.Progress.step t action).enrollments.next := by
  cases Challenges.Phases.step_effect (p := fun _ => True) t action trivial with
  | quiet henrollments => rw [henrollments]
  | enrolled user product source henrollments =>
    rw [henrollments]
    exact Nat.le_succ _
  | turned i e e' hfound hturn henrollments => rw [henrollments, Table.next_update]

lemma amount_of_answer {q : Quote} {a : Answer} {r : Numeric 24 10} (ha : q.answer = some a)
    (hr : a.payAmount = some r) : ∃ x, q.payAmount = some x ∧ payColumn x = some r := by
  rw [Quote.answer] at ha
  split at ha
  · obtain rfl := Option.some.inj ha
    cases hr
  · next x hx =>
    obtain ⟨r', hr', rfl⟩ := Option.map_eq_some_iff.mp ha
    obtain rfl := Option.some.inj hr
    exact ⟨x, hx, hr'⟩

lemma applyAnswer_amount {a : Option Answer} {d : Deposit} {r : Numeric 24 10}
    (h : (applyAnswer a d).payAmount = some r) :
    d.payAmount = some r ∨ ∃ b, a = some b ∧ b.payAmount = some r := by
  unfold applyAnswer at h
  split at h
  · next b =>
    split at h
    · exact Or.inr ⟨b, rfl, h⟩
    · exact Or.inl h
  · exact Or.inl h

lemma books_answer (h : Books s) (creation : ℕ) (received : Bool) : Books (answer s creation received) := by
  cases hcreation : (s.payments.creations.get creation).join with
  | none =>
    refine h.carry (carries_of_eq ?_) le_rfl rfl fun _ _ hx => hx
    simp only [answer, storeAnswer, hcreation]
  | some deposit =>
    have hdeposits : (answer s creation received).payments.deposits = s.payments.deposits.update deposit
        (applyAnswer (((s.quotes deposit).filter fun _ => received).bind Quote.answer)) := by
      simp only [answer, storeAnswer, hcreation, Option.bind_some]
    constructor
    · intro i k hi
      obtain ⟨hlt, d, hd, hcredited⟩ := h.linked i k hi
      refine ⟨hlt, ?_⟩
      rw [Credited, hdeposits]
      by_cases hk : k = deposit
      · subst hk
        exact ⟨_, Table.get_update_self hd _, (Pending.applyAnswer_keeps _ d).2.2.trans hcredited⟩
      · exact ⟨d, (Table.get_update_ne _ hk _).trans hd, hcredited⟩
    · exact h.once
    · intro k d' r hd' hr
      rw [hdeposits] at hd'
      obtain ⟨d, hd, rfl⟩ := Table.get_update_some hd'
      split at hr
      · next hk =>
        subst hk
        obtain hold | ⟨a, ha, hr⟩ := applyAnswer_amount hr
        · exact h.amounts k d r hd hold
        · obtain ⟨q, hq, ha⟩ := Option.bind_eq_some_iff.mp ha
          obtain ⟨x, hx, hcolumn⟩ := amount_of_answer ha hr
          exact ⟨x, Option.bind_eq_some_iff.mpr ⟨q, (Option.filter_eq_some_iff.mp hq).1, hx⟩, hcolumn⟩
      · exact h.amounts k d r hd hr

lemma books_step (s : Shop) (action : Action) (h : Books s) : Books (step s action) := by
  cases action with
  | deposit user amountUsd cryptoCurrency =>
    refine h.carry ?_ le_rfl rfl fun _ _ hx => hx
    rw [step, depositView]
    split
    · exact carries_of_eq rfl
    · exact carries_create user amountUsd cryptoCurrency none
  | challengePurchase user productId cryptoCurrency =>
    refine h.carry ?_ le_rfl rfl fun _ _ hx => hx
    rw [step, challengePurchaseView]
    split
    · exact carries_of_eq rfl
    · exact carries_create user _ cryptoCurrency (some productId)
  | quote creation q =>
    rw [step, quote]
    split
    · exact h
    · next deposit _ =>
      split
      · exact h
      · next hnone =>
        refine h.carry (carries_of_eq rfl) le_rfl rfl fun i x hx => ?_
        have hne : i ≠ deposit := by
          rintro rfl
          obtain ⟨q, hq, -⟩ := Option.bind_eq_some_iff.mp hx
          rw [hq] at hnone
          exact hnone rfl
        simpa only [Shop.asked, Function.update_of_ne hne] using hx
  | answer creation received => exact books_answer h creation received
  | callback n =>
    refine h.carry ?_ le_rfl rfl fun _ _ hx => hx
    rw [step, receiveCallback]
    split <;> exact carries_of_eq rfl
  | handle callback queued =>
    rw [step, handle]
    split
    · exact h
    · next deposit ipn _ =>
      have hbase : Books { s with payments := { s.payments with
          callbacks := s.payments.callbacks.update callback fun _ => none } } :=
        h.carry (carries_of_eq rfl) le_rfl rfl fun _ _ hx => hx
      exact commit_rule _ _ hbase fun s' hok => books_callback hbase hok
  | pollRead deposit =>
    refine h.carry ?_ le_rfl rfl fun _ _ hx => hx
    rw [step, Callbacks.pollRead]
    split
    · exact carries_of_eq rfl
    · split <;> exact carries_of_eq rfl
  | pollWrite poll reported => exact h.carry (carries_poll poll reported) le_rfl rfl fun _ _ hx => hx
  | walletPurchase user product =>
    rw [step, challengeWalletPurchase]
    split
    · exact h
    · have hbase :
          Books { s with payments := { s.payments with ledger := (getOrCreateWallet s.payments.ledger user).1 } } :=
        h.carry (carries_of_eq rfl) le_rfl rfl fun _ _ hx => hx
      exact commit_rule _ _ hbase fun s' hok => books_open hbase hok
  | externalActivate user product =>
    rw [step, externalChallengeActivate]
    exact commit_rule _ _ h fun s' hok => books_open h hok
  | challenge action => exact h.carry (carries_of_eq rfl) (challenges_next s.challenges action) rfl fun _ _ hx => hx

lemma books_start (products : List Product) : Books (start products) where
  linked := fun _ _ hi => nomatch hi
  once := fun _ _ _ hi => nomatch hi
  amounts := fun _ _ _ hd => nomatch hd

end Steps

section Repetitions

variable {s : Shop} {product deposit : ℕ} {d : Deposit} {n : Notice} {queued : Bool} {paid : ℚ}

lemma books_deliver (h : Books s) : Books (deliver s deposit n queued) := by
  rw [deliver]
  exact commit_rule _ _ h fun s' hok => books_callback h hok

lemma credited_deliver (hc : Credited s deposit) : Credited (deliver s deposit n queued) deposit := by
  rw [deliver]
  refine commit_rule _ _ hc fun s' hok => ?_
  obtain ⟨d, hd, hcredited⟩ := hc
  have hnone : ∀ d', s.payments.deposits.get deposit = some d' → due d' n.ipn = none := by
    intro d' hd'
    obtain rfl : d = d' := Option.some.inj (hd.symm.trans hd')
    exact if_neg fun h => by rw [hcredited] at h; exact Bool.noConfusion h.1
  obtain ⟨payments, hpayments, rfl⟩ := depositCallback_of_not_due hnone hok
  exact (carries_callback hpayments).credited deposit d hd hcredited

def repeated (s : Shop) (deposit : ℕ) (n : Notice) (queues : List Bool) : Shop :=
  run (fun t queued => deliver t deposit n queued) s queues

lemma opens_congr {s' : Shop} {user : ℕ} (hchallenges : s'.challenges = s.challenges)
    (hproducts : s'.payments.products = s.payments.products) : Opens s' user product ↔ Opens s user product := by
  constructor
  · rintro ⟨hsingle, hprice, hterms⟩
    exact ⟨hchallenges ▸ hsingle, hproducts ▸ hprice, hchallenges ▸ hterms⟩
  · rintro ⟨hsingle, hprice, hterms⟩
    exact ⟨hchallenges.symm ▸ hsingle, hproducts.symm ▸ hprice, hchallenges.symm ▸ hterms⟩

/-- A paid deposit is credited by some repetition or by none, and which it is, is settled before the first. -/
lemma repeated_credited_iff (h : Books s) (howed : Owed s deposit d product) (hreports : Reports n d paid)
    (queues : List Bool) : Credited (repeated s deposit n queues) deposit ↔
      Covered d paid ∧ Opens s d.user product ∧ true ∈ queues := by
  induction queues generalizing s d with
  | nil => exact iff_of_false (not_credited_of_owed howed) fun hopen => nomatch hopen.2.2
  | cons queued queues ih =>
    by_cases hopen : Covered d paid ∧ Opens s d.user product ∧ queued = true
    · obtain ⟨hcovered, hopens, rfl⟩ := hopen
      refine iff_of_true ?_ ⟨hcovered, hopens, List.mem_cons_self⟩
      exact run_invariant (I := fun t => Credited t deposit) (fun t queued ht => credited_deliver ht)
        ((deliver_credited_iff h howed hreports).mpr ⟨hcovered, hopens, rfl⟩) queues
    · rw [← due_iff howed hreports] at hopen
      obtain ⟨hchallenges, -, hproducts, d', hd', huncredited, huser, hcurrency, hamount, hproduct⟩ :=
        deliver_waits howed hopen
      have howed' : Owed (deliver s deposit n queued) deposit d' product :=
        ⟨hd', huncredited, hproduct.trans howed.product⟩
      have hreports' : Reports n d' paid := by
        refine ⟨hreports.credited, hreports.amount, ?_⟩
        rw [Notice.InCurrency, hcurrency]
        exact hreports.currency
      have hrest := ih (books_deliver h) howed' hreports'
      rw [opens_congr hchallenges hproducts, huser, Covered, hamount] at hrest
      refine hrest.trans (and_congr_right fun hcovered => and_congr_right fun hopens => ?_)
      rw [List.mem_cons, eq_comm, or_iff_right]
      intro hqueued
      exact hopen ⟨(due_iff howed hreports).mpr hcovered, hopens, hqueued⟩

end Repetitions

/-- In every reachable state a delivery keeps its promise exactly if the stored amount compares with the payment as the
amount asked does and nothing hinders the opening, and repetitions credit a paid deposit exactly if the first could. -/
theorem paid_challenges_fulfilled (products : List Product) (acts : List Action) (deposit : ℕ) (n : Notice) :
    (∀ queued, Kept (run step (start products) acts) deposit n queued ↔
      Clear (run step (start products) acts) deposit n queued) ∧
    (∀ d product paid queues, Owed (run step (start products) acts) deposit d product → Reports n d paid →
      (Credited (repeated (run step (start products) acts) deposit n queues) deposit ↔
        Covered d paid ∧ Opens (run step (start products) acts) d.user product ∧ true ∈ queues)) ∧
    ∀ d r, (run step (start products) acts).payments.deposits.get deposit = some d → d.payAmount = some r →
      ∃ x, (run step (start products) acts).asked deposit = some x ∧ payColumn x = some r := by
  have hbooks : Books (run step (start products) acts) := run_invariant books_step (books_start products) acts
  refine ⟨fun queued => kept_iff_clear hbooks, ?_, hbooks.amounts deposit⟩
  intro d product paid queues howed hreports
  exact repeated_credited_iff hbooks howed hreports queues

def challenge10k : Product where
  price := { priceUsd := .ofUnits 10000 }
  terms :=
    { tier := .k10
      accountSize := .ofUnits 1000000
      p1 :=
        { profitTargetPct := .ofUnits 800, maxDrawdownPct := .ofUnits 1000, maxDailyLossPct := .ofUnits 500
          minTradingDays := 5, maxDurationDays := 30 }
      p2 :=
        { profitTargetPct := .ofUnits 500, maxDrawdownPct := .ofUnits 1000, maxDailyLossPct := .ofUnits 500
          minTradingDays := 5, maxDurationDays := 60 }
      profitSplitPct := .ofUnits 8000
      maxLotSize := .ofUnits 500
      maxOpenPositions := 30 }

def paidInFull (paymentId : String) : Notice where
  paymentId := paymentId
  orderId := none
  status := .finished
  actuallyPaid := some 100
  payCurrency := "usdttrc20"

def boughtTwice : List Action :=
  [.challengePurchase 0 0 "usdttrc20", .quote 0 ⟨"1", some 100, some .waiting⟩, .answer 0 true,
   .challengePurchase 0 0 "usdttrc20", .quote 1 ⟨"2", some 100, some .waiting⟩, .answer 1 true]

def firstPaid : List Action := boughtTwice ++ [.callback (paidInFull "1"), .handle 0 true]

lemma owed_of_run (acts : List Action) (deposit : ℕ)
    (h : ((run step (start [challenge10k]) acts).payments.deposits.get deposit).map (fun d =>
      (d.credited, d.challengeProduct, d.user, d.cryptoCurrency, d.payAmount)) =
        some (false, some 0, 0, "usdttrc20", some (.ofUnits 1000000000000))) :
    ∃ d, Owed (run step (start [challenge10k]) acts) deposit d 0 ∧ d.user = 0 ∧ d.cryptoCurrency = "usdttrc20" ∧
      d.payAmount = some (.ofUnits 1000000000000) := by
  obtain ⟨d, hd, hfields⟩ := Option.map_eq_some_iff.mp h
  simp only [Prod.mk.injEq] at hfields
  obtain ⟨huncredited, hproduct, huser, hcurrency, hamount⟩ := hfields
  exact ⟨d, ⟨hd, huncredited, hproduct⟩, huser, hcurrency, hamount⟩

lemma reports_paidInFull {d : Deposit} {paymentId : String} (hcurrency : d.cryptoCurrency = "usdttrc20") :
    Reports (paidInFull paymentId) d 100 :=
  ⟨rfl, rfl, Or.inr (by rw [hcurrency]; rfl)⟩

theorem paid_challenges_fulfilled_first :
    Credited (repeated (run step (start [challenge10k]) boughtTwice) 0 (paidInFull "1") [false, true]) 0 := by
  obtain ⟨d, howed, huser, hcurrency, hamount⟩ := owed_of_run boughtTwice 0 (by decide +kernel)
  refine ((paid_challenges_fulfilled [challenge10k] boughtTwice 0 (paidInFull "1")).2.1 d 0 100 [false, true] howed
    (reports_paidInFull hcurrency)).mpr ⟨⟨_, hamount, by decide +kernel⟩, ?_, by decide⟩
  rw [huser]
  exact ⟨by decide +kernel, by decide +kernel, challenge10k.terms, rfl, returns_require.mpr (by decide +kernel),
    returns_require.mpr (by decide +kernel)⟩

/-- The second of two paid deposits for one product is never credited; and an amount that its column stores above
itself is not covered by a payment in full. -/
theorem second_challenge_unfulfilled :
    (¬ ∀ products acts deposit n queued, Kept (run step (start products) acts) deposit n queued) ∧
    (∀ queues, ¬ Credited (repeated (run step (start [challenge10k]) firstPaid) 1 (paidInFull "2") queues) 1) ∧
    ∃ r, payColumn (8000000123456 / 1000000) = some r ∧ reading (8000000123456 / 1000000) < r.value := by
  obtain ⟨d, howed, huser, hcurrency, hamount⟩ := owed_of_run firstPaid 1 (by decide +kernel)
  have hbooks : Books (run step (start [challenge10k]) firstPaid) := run_invariant books_step (books_start _) firstPaid
  have hblocked : ¬ Opens (run step (start [challenge10k]) firstPaid) d.user 0 := by
    intro hopens
    have hsingle := hopens.single
    rw [huser] at hsingle
    revert hsingle
    decide +kernel
  refine ⟨fun hall => ?_, fun queues hcredited => ?_, ?_⟩
  · have hasked : (run step (start [challenge10k]) firstPaid).asked 1 = some 100 := by decide +kernel
    have hkept := hall [challenge10k] firstPaid 1 (paidInFull "2") true
    have hfulfilled := hkept.paid d 0 100 100 howed hasked (reports_paidInFull hcurrency) le_rfl
    exact hblocked ((deliver_credited_iff hbooks howed (reports_paidInFull hcurrency)).mp hfulfilled.credited).2.1
  · exact hblocked ((repeated_credited_iff hbooks howed (reports_paidInFull hcurrency) queues).mp hcredited).2.1
  · exact ⟨.ofUnits 80000001234560004, by decide +kernel, by decide +kernel⟩

end TrxSimulator.Deposits.Fulfilment
