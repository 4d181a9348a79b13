import TrxSimulator.Commissions.Settlement
import TrxSimulator.Foundations.Windows
import TrxSimulator.ProviderCosts.Posting

/-! The broker's economics over a window of time: the direct result out of the broker ledger, what was paid to
introducers, and what is retained. Amounts are whole cents; the decimal context keeps more digits than they have. -/

namespace TrxSimulator.Economics.Summary

open Foundations.Windows Money Accounts
open ProviderCosts.Posting (RevenueType)
open Commissions.Settlement (ObligationStatus AdjustmentStatus)

structure BrokerLedger where
  revenueType : RevenueType
  amount : Amount
  createdAt : ℤ
  sourceAccount : Option ℕ
  symbol : String

structure IBCommissionObligation where
  referral : ℕ
  ruleType : String
  calculatedAmount : Balance
  status : ObligationStatus
  createdAt : ℤ
  creditedAt : Option ℤ

structure IBCommissionAdjustment where
  referral : ℕ
  amount : Balance
  status : AdjustmentStatus
  executedAt : Option ℤ

structure Books where
  ledger : List BrokerLedger
  obligations : List IBCommissionObligation
  adjustments : List IBCommissionAdjustment

/-- The bounds of a period; a custom one has those of its caller. -/
structure Window where
  start : Option ℤ
  stop : Option ℤ

def Window.custom (start stop : ℤ) : Window := ⟨some start, some stop⟩

def Window.holds (w : Window) (t : Option ℤ) : Bool := within w.start w.stop t

section Ledger

/-- The filters on the account and on the symbol. -/
structure Scope where
  accountId : Option ℕ
  symbol : Option String

def everything : Scope := ⟨none, none⟩

def ofAccount (k : ℕ) : Scope := ⟨some k, none⟩

def Scope.selects (c : Scope) (r : BrokerLedger) : Bool :=
  (c.accountId.all fun k => r.sourceAccount = some k) && c.symbol.all fun symbol => r.symbol = symbol

structure BrokerPnLBreakdown where
  commission : ℤ
  spread : ℤ
  challengeFee : ℤ
  withdrawFee : ℤ
  fundedProfitShare : ℤ
  feeRevenue : ℤ
  counterpartyPnl : ℤ
  adjustments : ℤ
  providerCost : ℤ
  brokerNetPnl : ℤ

def ledgerSum (b : Books) (w : Window) (c : Scope) (types : RevenueType → Bool) : ℤ :=
  amount (fun r => r.amount.units) (fun r => (types r.revenueType && c.selects r) && w.holds (some r.createdAt)) b.ledger

def sumOf (b : Books) (w : Window) (c : Scope) (t : RevenueType) : ℤ := ledgerSum b w c fun u => u = t

def calculateBrokerPnl (b : Books) (w : Window) (c : Scope) : BrokerPnLBreakdown :=
  let commission := sumOf b w c .commission
  let spread := sumOf b w c .spread
  let challengeFee := sumOf b w c .challengeFee
  let withdrawFee := sumOf b w c .withdrawFee
  let fundedProfitShare := sumOf b w c .fundedProfitShare
  let feeRevenue := commission + spread + challengeFee + withdrawFee + fundedProfitShare
  let counterpartyPnl := sumOf b w c .counterpartyPnl
  let adjustments := sumOf b w c .adjustment
  let providerCost := sumOf b w c .providerCost
  { commission, spread, challengeFee, withdrawFee, fundedProfitShare, feeRevenue, counterpartyPnl, adjustments,
    providerCost, brokerNetPnl := feeRevenue + counterpartyPnl + adjustments }

end Ledger

section Expense

structure IBExpenseSummary where
  pending : ℤ
  approved : ℤ
  credited : ℤ
  reversedOrAdjusted : ℤ
  netPaid : ℤ

def obligationSum (b : Books) (w : Window) (referralId : Option ℕ) (ruleType : Option String)
    (status : ObligationStatus) : ℤ :=
  amount (fun o => o.calculatedAmount.units)
    (fun o => (decide (o.status = status) && (referralId.all fun k => o.referral = k) &&
      ruleType.all fun t => o.ruleType = t) && w.holds (some o.createdAt)) b.obligations

def executedSum (b : Books) (w : Window) (referralId : Option ℕ) : ℤ :=
  amount (fun a => a.amount.units)
    (fun a => (decide (a.status = .executed) && referralId.all fun k => a.referral = k) && w.holds a.executedAt)
    b.adjustments

def ibExpenseSummary (b : Books) (w : Window) (referralId : Option ℕ) (ruleType : Option String) :
    IBExpenseSummary :=
  let credited := obligationSum b w referralId ruleType .credited
  let reversedOrAdjusted := executedSum b w referralId
  { pending := obligationSum b w referralId ruleType .pending
    approved := obligationSum b w referralId ruleType .approved
    credited
    reversedOrAdjusted
    netPaid := credited - reversedOrAdjusted }

end Expense

section Retained

structure RetainedEconomicsSummary where
  grossBrokerEconomicResult : ℤ
  netPaidIbExpense : ℤ
  knownExecutionLiquidityCosts : ℤ
  knownPaymentTransactionCosts : ℤ
  otherCapturedVariableCosts : ℤ
  retainedEconomics : ℤ

/-- The expense of the introducers is that of the window, whatever account or symbol is asked for. -/
def brokerEconomicsSummary (b : Books) (w : Window) (c : Scope) : RetainedEconomicsSummary :=
  let breakdown := calculateBrokerPnl b w c
  let ibExpense := ibExpenseSummary b w none none
  let knownPaymentTransactionCosts := -breakdown.providerCost
  { grossBrokerEconomicResult := breakdown.brokerNetPnl
    netPaidIbExpense := ibExpense.netPaid
    knownExecutionLiquidityCosts := 0
    knownPaymentTransactionCosts
    otherCapturedVariableCosts := 0
    retainedEconomics := breakdown.brokerNetPnl - ibExpense.netPaid - 0 - knownPaymentTransactionCosts - 0 }

end Retained

section Sums

variable (b : Books) (w : Window) (c : Scope)

def direct (t : RevenueType) : Bool := t ≠ .providerCost

lemma brokerNetPnl_eq : (calculateBrokerPnl b w c).brokerNetPnl = ledgerSum b w c direct := by
  simp only [calculateBrokerPnl, sumOf, ledgerSum]
  induction b.ledger with
  | nil => rfl
  | cons r rows ih =>
    simp only [amount_cons]
    rw [← ih]
    cases hselects : c.selects r
    · simp
    · cases hholds : w.holds (some r.createdAt)
      · simp
      · cases r.revenueType <;> simp [direct] <;> ring

lemma retained_eq : (brokerEconomicsSummary b w c).retainedEconomics =
    ledgerSum b w c direct + ledgerSum b w c (fun u => u = .providerCost) -
      (ibExpenseSummary b w none none).netPaid := by
  have hnet := brokerNetPnl_eq b w c
  simp only [brokerEconomicsSummary]
  rw [hnet]
  simp only [calculateBrokerPnl, sumOf]
  ring

lemma overlapping_ledgerSum (types : RevenueType → Bool) :
    Overlapping fun start stop => ledgerSum b (.custom start stop) c types :=
  overlapping_amount _ _ _ b.ledger

lemma overlapping_netPaid :
    Overlapping fun start stop => (ibExpenseSummary b (.custom start stop) none none).netPaid :=
  (overlapping_amount _ _ _ b.obligations).sub (overlapping_amount _ _ _ b.adjustments)

end Sums

section Splits

/-- A custom period and the times at which it is split. -/
structure Split where
  first : ℤ
  inner : List ℤ
  last : ℤ
  sorted : (first :: (inner ++ [last])).Pairwise (· < ·)

def Split.windows (p : Split) : List (ℤ × ℤ) := consecutive (p.first :: (p.inner ++ [p.last]))

def Split.whole (p : Split) : Window := .custom p.first p.last

/-- A row lies exactly at one of the times at which the period is split. -/
def Split.cuts (p : Split) (t : Option ℤ) : Bool := t.any fun t => t ∈ p.inner

def Additive (b : Books) (c : Scope) (p : Split) (q : RetainedEconomicsSummary → ℤ) : Prop :=
  (p.windows.map fun w => q (brokerEconomicsSummary b (.custom w.1 w.2) c)).sum = q (brokerEconomicsSummary b p.whole c)

def ledgerAtCuts (b : Books) (c : Scope) (p : Split) (types : RevenueType → Bool) : ℤ :=
  amount (fun r => r.amount.units) (fun r => (types r.revenueType && c.selects r) && p.cuts (some r.createdAt)) b.ledger

def creditedAtCuts (b : Books) (p : Split) : ℤ :=
  amount (fun o => o.calculatedAmount.units) (fun o => decide (o.status = .credited) && p.cuts (some o.createdAt))
    b.obligations

def executedAtCuts (b : Books) (p : Split) : ℤ :=
  amount (fun a => a.amount.units) (fun a => decide (a.status = .executed) && p.cuts a.executedAt) b.adjustments

variable {b : Books} {c : Scope} {p : Split}

lemma Split.nodup (p : Split) : p.inner.Nodup :=
  (((List.pairwise_cons.mp p.sorted).2.sublist (List.sublist_append_left _ _))).imp fun h => h.ne

lemma Split.sum_windows (p : Split) {q : ℤ → ℤ → ℤ} (hq : Overlapping q) :
    (p.windows.map fun w => q w.1 w.2).sum = q p.first p.last + (p.inner.map fun t => q t t).sum :=
  sum_consecutive hq (p.sorted.imp le_of_lt)

lemma Split.sum_points {α : Type} (p : Split) (f : α → ℤ) (select : α → Bool) (time : α → Option ℤ) (xs : List α) :
    (p.inner.map fun t => amount f (fun x => select x && within (some t) (some t) (time x)) xs).sum =
      amount f (fun x => select x && p.cuts (time x)) xs := by
  simp only [amount_point]
  exact sum_amount_keys f select time p.nodup xs

lemma ledger_points (types : RevenueType → Bool) :
    (p.inner.map fun t => ledgerSum b (.custom t t) c types).sum = ledgerAtCuts b c p types :=
  p.sum_points _ _ _ b.ledger

lemma netPaid_points :
    (p.inner.map fun t => (ibExpenseSummary b (.custom t t) none none).netPaid).sum =
      creditedAtCuts b p - executedAtCuts b p := by
  have hcredited := p.sum_points (fun o => o.calculatedAmount.units)
    (fun o : IBCommissionObligation => decide (o.status = .credited)) (fun o => some o.createdAt) b.obligations
  have hexecuted := p.sum_points (fun a => a.amount.units)
    (fun a : IBCommissionAdjustment => decide (a.status = .executed)) (fun a => a.executedAt) b.adjustments
  rw [creditedAtCuts, executedAtCuts, ← hcredited, ← hexecuted, ← sum_map_sub]
  simp [ibExpenseSummary, obligationSum, executedSum, Window.custom, Window.holds]

lemma gross_additive_iff :
    Additive b c p RetainedEconomicsSummary.grossBrokerEconomicResult ↔ ledgerAtCuts b c p direct = 0 := by
  have hgross : ∀ w, (brokerEconomicsSummary b w c).grossBrokerEconomicResult = ledgerSum b w c direct :=
    fun w => brokerNetPnl_eq b w c
  have hsum := p.sum_windows (overlapping_ledgerSum b c direct)
  rw [ledger_points] at hsum
  simp only [Additive, hgross, Split.whole]
  omega

lemma netPaid_additive_iff :
    Additive b c p RetainedEconomicsSummary.netPaidIbExpense ↔ creditedAtCuts b p = executedAtCuts b p := by
  have hsum := p.sum_windows (overlapping_netPaid b)
  rw [netPaid_points] at hsum
  change (p.windows.map fun w => (ibExpenseSummary b (.custom w.1 w.2) none none).netPaid).sum =
    (ibExpenseSummary b (.custom p.first p.last) none none).netPaid ↔ _
  omega

lemma retained_additive_iff :
    Additive b c p RetainedEconomicsSummary.retainedEconomics ↔
      ledgerAtCuts b c p direct + ledgerAtCuts b c p (fun u => u = .providerCost) =
        creditedAtCuts b p - executedAtCuts b p := by
  have hsum := p.sum_windows (((overlapping_ledgerSum b c direct).add
    (overlapping_ledgerSum b c fun u => u = .providerCost)).sub (overlapping_netPaid b))
  have hpoints : (p.inner.map fun t => ledgerSum b (.custom t t) c direct +
      ledgerSum b (.custom t t) c (fun u => u = .providerCost) -
        (ibExpenseSummary b (.custom t t) none none).netPaid).sum =
      ledgerAtCuts b c p direct + ledgerAtCuts b c p (fun u => u = .providerCost) -
        (creditedAtCuts b p - executedAtCuts b p) := by
    rw [sum_map_sub, List.sum_map_add, ledger_points, ledger_points, netPaid_points]
  rw [hpoints] at hsum
  simp only [Additive, retained_eq, Split.whole]
  omega

end Splits

section Accounts

/-- The accounts, one of which every row of the ledger belongs to. -/
structure AccountList (b : Books) where
  ids : List ℕ
  nodup : ids.Nodup
  covers : ∀ r ∈ b.ledger, ∃ k ∈ ids, r.sourceAccount = some k

def SumsUp (b : Books) (accounts : AccountList b) (w : Window) : Prop :=
  (accounts.ids.map fun k => (brokerEconomicsSummary b w (ofAccount k)).retainedEconomics).sum =
    (brokerEconomicsSummary b w everything).retainedEconomics

variable {b : Books} (accounts : AccountList b) (w : Window)

lemma ledger_accounts (types : RevenueType → Bool) :
    (accounts.ids.map fun k => ledgerSum b w (ofAccount k) types).sum = ledgerSum b w everything types := by
  have hone : ∀ k, ledgerSum b w (ofAccount k) types = amount (fun r => r.amount.units)
      (fun r => (types r.revenueType && w.holds (some r.createdAt)) && r.sourceAccount = some k) b.ledger := by
    intro k
    apply amount_congr
    intro r _
    simp only [ofAccount, Scope.selects, Option.all_some, Option.all_none, Bool.and_true]
    rw [Bool.and_assoc, Bool.and_assoc, Bool.and_comm (decide _)]
  simp only [hone]
  rw [sum_amount_keys _ _ _ accounts.nodup]
  apply amount_congr
  intro r hr
  obtain ⟨k, hk, hsource⟩ := accounts.covers r hr
  simp [hsource, hk, everything, Scope.selects]

/-- What the credited obligations generated in the window amount to, the adjustments executed in it do too. -/
def PaidBack (b : Books) (w : Window) : Prop :=
  amount (fun o => o.calculatedAmount.units) (fun o => decide (o.status = .credited) && w.holds (some o.createdAt))
    b.obligations =
  amount (fun a => a.amount.units) (fun a => decide (a.status = .executed) && w.holds a.executedAt) b.adjustments

lemma paidBack_iff : PaidBack b w ↔ obligationSum b w none none .credited = executedSum b w none := by
  simp [PaidBack, obligationSum, executedSum]

lemma sumsUp_iff : SumsUp b accounts w ↔ accounts.ids.length = 1 ∨ PaidBack b w := by
  have hsum : (accounts.ids.map fun k => (brokerEconomicsSummary b w (ofAccount k)).retainedEconomics).sum =
      ledgerSum b w everything direct + ledgerSum b w everything (fun u => u = .providerCost) -
        accounts.ids.length * (ibExpenseSummary b w none none).netPaid := by
    simp only [retained_eq]
    rw [sum_map_sub, List.sum_map_add, ledger_accounts, ledger_accounts]
    simp
  have hnet : (ibExpenseSummary b w none none).netPaid =
      obligationSum b w none none .credited - executedSum b w none := rfl
  rw [SumsUp, hsum, retained_eq, sub_right_inj, hnet, paidBack_iff]
  constructor
  · intro heq
    by_cases hpaid : obligationSum b w none none .credited - executedSum b w none = 0
    · exact Or.inr (sub_eq_zero.mp hpaid)
    · exact Or.inl (by exact_mod_cast (mul_eq_right₀ hpaid).mp heq)
  · rintro (hone | hpaid)
    · simp [hone]
    · simp [hpaid]

end Accounts

section Periods

/-- What was credited in the window, by the time at which it was. -/
def creditedDuring (b : Books) (w : Window) : ℤ :=
  amount (fun o => o.calculatedAmount.units) (fun o => decide (o.status = .credited) && w.holds o.creditedAt)
    b.obligations

def NetOfPeriod (b : Books) (w : Window) : Prop :=
  (ibExpenseSummary b w none none).netPaid = creditedDuring b w - executedSum b w none

def early (w : Window) (o : IBCommissionObligation) : Bool :=
  decide (o.status = .credited) && w.holds (some o.createdAt) && !w.holds o.creditedAt

def late (w : Window) (o : IBCommissionObligation) : Bool :=
  decide (o.status = .credited) && w.holds o.creditedAt && !w.holds (some o.createdAt)

lemma netOfPeriod_iff (b : Books) (w : Window) : NetOfPeriod b w ↔
    amount (fun o => o.calculatedAmount.units) (early w) b.obligations =
      amount (fun o => o.calculatedAmount.units) (late w) b.obligations := by
  have hboth : obligationSum b w none none .credited +
      amount (fun o => o.calculatedAmount.units) (late w) b.obligations =
        creditedDuring b w + amount (fun o => o.calculatedAmount.units) (early w) b.obligations := by
    apply amount_add_amount
    intro o
    cases hcredited : decide (o.status = .credited) <;> cases hcreated : w.holds (some o.createdAt) <;>
      cases hpaid : w.holds o.creditedAt <;> simp [early, late, hcredited, hcreated, hpaid]
  have hnet : (ibExpenseSummary b w none none).netPaid =
      obligationSum b w none none .credited - executedSum b w none := rfl
  rw [NetOfPeriod, hnet]
  omega

end Periods

/-- Additive over a split exactly if what lies at its inner times cancels; over the accounts exactly if there is one
or the expense of the window is nothing; and the expense is that of the window exactly if what was credited before or
after it makes up for what was generated before or after it. -/
theorem summary_additive_iff (b : Books) :
    (∀ (c : Scope) (p : Split),
      (∀ q ∈ [RetainedEconomicsSummary.grossBrokerEconomicResult, RetainedEconomicsSummary.netPaidIbExpense,
          RetainedEconomicsSummary.retainedEconomics], Additive b c p q) ↔
        ledgerAtCuts b c p direct = 0 ∧ ledgerAtCuts b c p (fun u => u = .providerCost) = 0 ∧
          creditedAtCuts b p = executedAtCuts b p) ∧
      (∀ (accounts : AccountList b) (w : Window), SumsUp b accounts w ↔
        accounts.ids.length = 1 ∨ PaidBack b w) ∧
      ∀ w : Window, NetOfPeriod b w ↔
        amount (fun o => o.calculatedAmount.units) (early w) b.obligations =
          amount (fun o => o.calculatedAmount.units) (late w) b.obligations := by
  refine ⟨fun c p => ?_, fun accounts w => sumsUp_iff accounts w, netOfPeriod_iff b⟩
  simp only [List.forall_mem_cons, List.not_mem_nil, false_imp_iff, implies_true, and_true]
  rw [gross_additive_iff, netPaid_additive_iff, retained_additive_iff]
  omega

section Example

def fiveDollars : Books where
  ledger := [⟨.commission, .ofUnits 1000, 1, some 0, "EUR/USD"⟩]
  obligations := [⟨0, "per_lot", .ofUnits 500, .credited, 1, some 5⟩]
  adjustments := []

def oneCut : Split := ⟨0, [1], 2, by decide⟩

def twoAccounts : AccountList fiveDollars := ⟨[0, 1], by decide, by decide⟩

/-- Ten dollars of commission at the time of the cut, and five of the period credited to an introducer after it. -/
theorem summary_not_additive :
    ¬ Additive fiveDollars everything oneCut RetainedEconomicsSummary.grossBrokerEconomicResult ∧
      ¬ SumsUp fiveDollars twoAccounts (.custom 0 2) ∧ ¬ NetOfPeriod fiveDollars (.custom 0 2) := by
  simp only [Additive, SumsUp, NetOfPeriod]
  decide +kernel

end Example

end TrxSimulator.Economics.Summary
