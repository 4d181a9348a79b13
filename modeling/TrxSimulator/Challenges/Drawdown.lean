import TrxSimulator.Foundations.Outcomes
import TrxSimulator.Challenges.Evaluation

/-! The drawdown test after a trade, which rounds the drawdown to hundredths of a percent, beside the one of
the phase evaluation, which does not. -/

namespace TrxSimulator.Challenges.Drawdown

open Foundations.Tables Foundations.Outcomes Foundations.Decimals Money Accounts Evaluation

inductive ViolationType
  | maxDrawdown | maxDailyLoss
deriving DecidableEq

structure TradingViolation where
  account : ℕ
  violationType : ViolationType
  valueAtViolation : ℚ
  limitValue : Numeric 5 2
deriving DecidableEq

inductive RiskError
  | numericOverflow (column : String) (value : ℚ)
deriving DecidableEq

def marginEngine : AccountType → Bool
  | .retail | .ecn | .standard | .demo | .crypto => true
  | .challenge | .funded => false

/-- A percentage to two decimals, ties up. -/
def pct (numerator denominator : ℚ) : ℚ :=
  if denominator = 0 then 0 else scaled 2 (roundHalfAway (percent numerator denominator * 10 ^ 2))

section RiskRules

structure RiskDefaults where
  maxDailyLossPct : Numeric 5 2
  maxDrawdownPct : Numeric 5 2
  maxLotSize : ℚ
  maxOpenPositions : ℕ

def clamp (value lo hi : ℚ) : ℚ := max lo (min hi value)

def retailRiskDefaults (balance : ℚ) : RiskDefaults :=
  ⟨.ofUnits 500, .ofUnits 1000, clamp (divide balance 1000) (1 / 100) 5, 20⟩

def tierDefaults : Option Tier → RiskDefaults
  | some .k50 => ⟨.ofUnits 400, .ofUnits 800, 20, 40⟩
  | some .k100 => ⟨.ofUnits 300, .ofUnits 600, 40, 50⟩
  | some .k10 | some .k25 | none => ⟨.ofUnits 500, .ofUnits 1000, 5, 30⟩

def accountDefaults (a : ChallengeAccount) : RiskDefaults :=
  if marginEngine a.accountType then
    retailRiskDefaults
      (match a.initialBalance with
        | some initial =>
          if initial.units ≠ 0 then initial.value else if a.balance.units ≠ 0 then a.balance.value else 1000
        | none => if a.balance.units ≠ 0 then a.balance.value else 1000)
  else tierDefaults a.tier

def getOrCreateRiskRule (s : Desk) (k : ℕ) (a : ChallengeAccount) : Except RiskError (Desk × RiskRule) :=
  match s.riskRules.latest fun r => r.account = k with
  | some (_, rule) => .ok (s, rule)
  | none => do
    let defaults := accountDefaults a
    let maxLotSize ← require (store 8 2 defaults.maxLotSize) (.numericOverflow "max_lot_size" defaults.maxLotSize)
    let exposure := times a.balance.value (1 / 2)
    let maxExposureUsd ← require (store 12 2 exposure) (.numericOverflow "max_exposure_usd" exposure)
    let rule : RiskRule :=
      { account := k, maxDrawdownPct := defaults.maxDrawdownPct, maxDailyLossPct := defaults.maxDailyLossPct,
        maxLotSize := maxLotSize, maxOpenPositions := defaults.maxOpenPositions, maxExposureUsd := maxExposureUsd }
    pure ({ s with riskRules := s.riskRules.insert rule }, rule)

end RiskRules

def raisedPeak (a : TradingAccount) : Balance :=
  if a.peakBalance.units < a.balance.units then a.balance else a.peakBalance

def drawdownPct (a : TradingAccount) : ℚ :=
  pct (minus (raisedPeak a).value a.balance.value) (raisedPeak a).value

def violations (s : Desk) (k : ℕ) (a : ChallengeAccount) (rule : RiskRule) : List TradingViolation :=
  let retail := marginEngine a.accountType
  let peak := raisedPeak a.toTradingAccount
  let dailyLossPct := pct |todayPnl s k| peak.value
  (if 0 < peak.units ∧ rule.maxDrawdownPct.value ≤ drawdownPct a.toTradingAccount ∧ retail = false then
    [⟨k, .maxDrawdown, drawdownPct a.toTradingAccount, rule.maxDrawdownPct⟩] else []) ++
  (if 0 < peak.units ∧ todayPnl s k < 0 ∧ retail = false ∧ rule.maxDailyLossPct.value ≤ dailyLossPct then
    [⟨k, .maxDailyLoss, dailyLossPct, rule.maxDailyLossPct⟩] else [])

def checkAndEnforceRisk (s : Desk) (k : ℕ) (a : ChallengeAccount) :
    Except RiskError (Desk × List TradingViolation) := do
  let (s, rule) ← getOrCreateRiskRule s k a
  let found := violations s k a rule
  let s := { s with accounts := s.accounts.update k fun a => { a with peakBalance := raisedPeak a.toTradingAccount } }
  if found.isEmpty then pure (s, found)
  else pure ({ s with
    accounts := s.accounts.update k fun a => { a with status := .suspended }
    entries := s.entries.insert
      { account := k, eventType := .adjustment, amount := ⟨0, by norm_num⟩,
        balanceAfter := a.balance.widen balance_digits, info := none, createdOn := s.today } }, found)

def ReportsDrawdown (result : Except RiskError (Desk × List TradingViolation)) : Prop :=
  ∃ t found, result = .ok (t, found) ∧ ∃ v ∈ found, v.violationType = .maxDrawdown

def FailsDrawdown (result : EvalResult) : Prop :=
  result.status = .failed ∧ ∃ realized limit, result.failReason = some (.maxDrawdown realized limit)

/-- The drawdown in cents lies in the half of a hundredth of a percent below the limit. -/
def InBand (a : TradingAccount) (limit : Numeric 5 2) : Prop :=
  (2 * limit.units - 1) * (raisedPeak a).units ≤ 20000 * ((raisedPeak a).units - a.balance.units) ∧
    20000 * ((raisedPeak a).units - a.balance.units) < 2 * limit.units * (raisedPeak a).units

def Agree (a : TradingAccount) (limit : Numeric 5 2) : Prop :=
  if 0 < (raisedPeak a).units then ¬ InBand a limit
  else if a.peakBalance.units = 0 ∧ a.balance.units = 0 then 10000 < limit.units
  else 0 < limit.units

section Comparison

variable {s t : Desk} {k : ℕ} {a : ChallengeAccount} {rule : RiskRule} {limit : Numeric 5 2}

lemma le_roundHalfAway_iff {x : ℚ} (h : 0 ≤ x) {n : ℤ} : n ≤ roundHalfAway x ↔ (n : ℚ) ≤ x + 1 / 2 := by
  rw [roundHalfAway_of_nonneg h, Int.le_floor]

lemma percent_nonneg {x y : ℚ} (hx : 0 ≤ x) (hy : 0 ≤ y) : 0 ≤ percent x y := by
  have hdivide : 0 ≤ divide x y := context_nonneg (div_nonneg hx hy)
  exact context_nonneg (mul_nonneg hdivide (by norm_num))

lemma raisedPeak_le (a : TradingAccount) : a.balance.units ≤ (raisedPeak a).units := by
  rw [raisedPeak]
  split <;> omega

lemma minus_value (n m : Balance) : minus n.value m.value = scaled 2 (n.units - m.units) := by
  have hn := abs_lt.mp n.fits
  have hm := abs_lt.mp m.fits
  rw [Numeric.value, Numeric.value, minus_scaled]
  rw [precision, abs_lt]
  omega

lemma drawdownPct_iff {a : TradingAccount} (hpositive : 0 < (raisedPeak a).units) :
    limit.value ≤ drawdownPct a ↔
      (2 * limit.units - 1) * (raisedPeak a).units ≤ 20000 * ((raisedPeak a).units - a.balance.units) := by
  have hfits := (abs_lt.mp (raisedPeak a).fits).2
  have hlimit := abs_lt.mp limit.fits
  have hbound : |2 * limit.units - 1| < 10 ^ 9 := by
    rw [abs_lt]
    omega
  have hnonzero : (raisedPeak a).value ≠ 0 := by
    have hcast : (0 : ℚ) < (raisedPeak a).units := by exact_mod_cast hpositive
    exact (div_pos hcast (by norm_num)).ne'
  have hdrawdown : (0 : ℚ) ≤ scaled 2 ((raisedPeak a).units - a.balance.units) := by
    have hcast : (0 : ℚ) ≤ ((raisedPeak a).units - a.balance.units : ℤ) := by
      exact_mod_cast sub_nonneg.mpr (raisedPeak_le a)
    exact div_nonneg hcast (by norm_num)
  have hpeak : (0 : ℚ) ≤ (raisedPeak a).value := div_nonneg (by exact_mod_cast hpositive.le) (by norm_num)
  have hlt := percent_lt_iff (a := (raisedPeak a).units - a.balance.units) hpositive (by omega) hbound
  rw [drawdownPct, pct, if_neg hnonzero, minus_value]
  rw [Numeric.value, scaled_le,
    le_roundHalfAway_iff (mul_nonneg (percent_nonneg hdrawdown hpeak) (by norm_num)), ← not_lt (b := (2 * _ - 1) * _),
    ← hlt, not_lt, Numeric.value]
  push_cast
  constructor <;> intro h <;> linarith

lemma peakOrBalance_of_ne {a : TradingAccount} (h : a.peakBalance.units ≠ 0) : peakOrBalance a = a.peakBalance.value :=
  if_pos h

lemma value_nonpos {digits : ℕ} {n : Numeric digits 2} : n.value ≤ 0 ↔ n.units ≤ 0 := scaled_nonpos

lemma percent_nonpos {x y : ℚ} (hx : x ≤ 0) (hy : 0 ≤ y) : percent x y ≤ 0 := by
  have h := percent_nonneg (neg_nonneg.mpr hx) hy
  rw [percent_neg] at h
  linarith

lemma realizedDdPct_above {a : TradingAccount} (h : a.peakBalance.units < a.balance.units) : realizedDdPct a = 0 := by
  rw [realizedDdPct]
  split
  · rfl
  · next hpositive =>
    rw [not_le] at hpositive
    refine max_eq_left (percent_nonpos ?_ hpositive.le)
    by_cases hzero : a.peakBalance.units = 0
    · have hbalance : peakOrBalance a = a.balance.value := by
        rw [peakOrBalance, if_neg (not_not.mpr hzero), if_pos (by omega)]
      rw [hbalance, minus_value, sub_self]
      exact scaled_nonpos.mpr le_rfl
    · rw [peakOrBalance_of_ne hzero, minus_value]
      exact scaled_nonpos.mpr (by omega)

lemma realizedDdPct_iff {a : TradingAccount} (hpositive : 0 < (raisedPeak a).units) :
    limit.value ≤ realizedDdPct a ↔
      2 * limit.units * (raisedPeak a).units ≤ 20000 * ((raisedPeak a).units - a.balance.units) := by
  by_cases habove : a.peakBalance.units < a.balance.units
  · have hraised : raisedPeak a = a.balance := if_pos habove
    rw [realizedDdPct_above habove, value_nonpos, hraised, sub_self, mul_zero]
    rw [hraised] at hpositive
    constructor
    · intro h
      nlinarith
    · intro h
      by_contra hlimit
      nlinarith
  · have hraised : raisedPeak a = a.peakBalance := if_neg habove
    have hdrawdown := sub_nonneg.mpr (raisedPeak_le a)
    have hfits := (abs_lt.mp (raisedPeak a).fits).2
    have hlimit := abs_lt.mp limit.fits
    have hbound : |2 * limit.units| < 10 ^ 9 := by
      rw [abs_lt]
      omega
    have hlt := percent_lt_iff (a := (raisedPeak a).units - a.balance.units) hpositive (by omega) hbound
    have hvalue : (0 : ℚ) < (raisedPeak a).value := by
      have hcast : (0 : ℚ) < (raisedPeak a).units := by exact_mod_cast hpositive
      exact div_pos hcast (by norm_num)
    have hpeak : peakOrBalance a = (raisedPeak a).value := by
      rw [peakOrBalance_of_ne (by rw [← hraised]; omega), hraised]
    have hscaled : (0 : ℚ) ≤ scaled 2 ((raisedPeak a).units - a.balance.units) :=
      div_nonneg (by exact_mod_cast hdrawdown) (by norm_num)
    rw [realizedDdPct, hpeak, if_neg (not_le.mpr hvalue), minus_value, max_eq_right (percent_nonneg hscaled hvalue.le),
      ← not_lt (b := 2 * limit.units * _), ← hlt, not_lt, Numeric.value, Numeric.value, scaled]
    push_cast
    rw [show (2 * (limit.units : ℚ) / 200) = limit.units / 10 ^ 2 by ring]

/-- Without a positive peak only the account that has nothing, and had nothing, has a drawdown. -/
lemma realizedDdPct_of_nonpos {a : TradingAccount} (h : ¬ 0 < (raisedPeak a).units) :
    realizedDdPct a = if a.peakBalance.units = 0 ∧ a.balance.units = 0 then 100 else 0 := by
  have hbalance : a.balance.units ≤ 0 := (raisedPeak_le a).trans (not_lt.mp h)
  have hpeak : a.peakBalance.units ≤ 0 := by
    by_contra hpositive
    rw [raisedPeak, if_neg (by omega)] at h
    exact h (by omega)
  split
  · next hzero =>
    rw [realizedDdPct, peakOrBalance, if_neg (not_not.mpr hzero.1), if_neg (not_not.mpr hzero.2), Numeric.value,
      hzero.2]
    decide +kernel
  · next hzero =>
    refine if_pos ?_
    rw [peakOrBalance]
    split
    · exact value_nonpos.mpr hpeak
    · next hpeakzero =>
      rw [if_pos fun hb => hzero ⟨not_not.mp hpeakzero, hb⟩]
      exact value_nonpos.mpr hbalance

lemma violations_drawdown (htype : marginEngine a.accountType = false) :
    (∃ v ∈ violations s k a rule, v.violationType = .maxDrawdown) ↔
      0 < (raisedPeak a.toTradingAccount).units ∧ rule.maxDrawdownPct.value ≤ drawdownPct a.toTradingAccount := by
  rw [violations, htype]
  constructor
  · rintro ⟨v, hv, hkind⟩
    rcases List.mem_append.mp hv with hdrawdown | hdaily
    · split at hdrawdown
      · next h => exact ⟨h.1, h.2.1⟩
      · cases hdrawdown
    · split at hdaily
      · rw [List.mem_singleton.mp hdaily] at hkind
        cases hkind
      · cases hdaily
  · rintro ⟨hpositive, hlimit⟩
    refine ⟨⟨k, .maxDrawdown, drawdownPct a.toTradingAccount, rule.maxDrawdownPct⟩, List.mem_append_left _ ?_, rfl⟩
    rw [if_pos ⟨hpositive, hlimit, rfl⟩]
    exact List.mem_singleton.mpr rfl

lemma checkAndEnforceRisk_eq (hrule : getOrCreateRiskRule s k a = .ok (t, rule)) :
    ∃ u, checkAndEnforceRisk s k a = .ok (u, violations t k a rule) := by
  rw [checkAndEnforceRisk, hrule]
  by_cases hempty : (violations t k a rule).isEmpty = true
  · exact ⟨_, if_pos hempty⟩
  · exact ⟨_, if_neg hempty⟩

lemma reportsDrawdown_iff (hrule : getOrCreateRiskRule s k a = .ok (t, rule))
    (htype : marginEngine a.accountType = false) : ReportsDrawdown (checkAndEnforceRisk s k a) ↔
      0 < (raisedPeak a.toTradingAccount).units ∧ rule.maxDrawdownPct.value ≤ drawdownPct a.toTradingAccount := by
  obtain ⟨u, hu⟩ := checkAndEnforceRisk_eq hrule
  rw [ReportsDrawdown, hu, ← violations_drawdown (s := t) (k := k) htype]
  constructor
  · rintro ⟨_, _, heq, h⟩
    cases heq
    exact h
  · exact fun h => ⟨u, _, rfl, h⟩

lemma failsDrawdown_iff {rules : PhaseRules} {m : Metrics} :
    FailsDrawdown (assess rules m) ↔ rules.maxDrawdownPct.value ≤ m.realizedDdPct := by
  rw [assess]
  constructor
  · rintro ⟨-, _, _, hreason⟩
    by_contra hbelow
    rw [if_neg hbelow] at hreason
    split at hreason
    · cases hreason
    · split at hreason
      · cases hreason
      · split at hreason <;> cases hreason
  · intro h
    rw [if_pos h]
    exact ⟨rfl, _, _, rfl⟩

lemma tests_agree_iff {a : TradingAccount} :
    ((0 < (raisedPeak a).units ∧ limit.value ≤ drawdownPct a) ↔ limit.value ≤ realizedDdPct a) ↔ Agree a limit := by
  rw [Agree]
  split
  · next hpositive =>
    rw [drawdownPct_iff hpositive, realizedDdPct_iff hpositive, InBand, and_iff_right hpositive, not_and, not_lt]
    have hwider : (2 * limit.units - 1) * (raisedPeak a).units ≤ 2 * limit.units * (raisedPeak a).units :=
      mul_le_mul_of_nonneg_right (by omega) hpositive.le
    exact ⟨fun h => h.mp, fun h => ⟨h, fun hreached => hwider.trans hreached⟩⟩
  · next hnone =>
    have hquiet : ¬ (0 < (raisedPeak a).units ∧ limit.value ≤ drawdownPct a) := fun h => hnone h.1
    rw [iff_false_left hquiet, not_le, realizedDdPct_of_nonpos hnone]
    split
    · rw [Numeric.value, show (100 : ℚ) = scaled 2 10000 by norm_num [scaled], scaled_lt]
    · rw [← not_le, value_nonpos, not_le]

end Comparison

/-- The two tests agree on an account exactly where its drawdown is outside the band below the limit. -/
theorem drawdown_tests_agree_iff (s t : Desk) (e : ChallengeEnrollment) (product : ChallengeProduct)
    (rules : PhaseRules) (k : ℕ) (a : ChallengeAccount) (rule : RiskRule) (hphase : phaseRules product e.status = some rules)
    (hactive : e.activeAccount = some k) (ha : s.accounts.get k = some a)
    (htype : marginEngine a.accountType = false) (hrule : getOrCreateRiskRule s k a = .ok (t, rule))
    (hlimit : rule.maxDrawdownPct = rules.maxDrawdownPct) :
    (ReportsDrawdown (checkAndEnforceRisk s k a) ↔ FailsDrawdown (evaluatePhase s e product)) ↔
      Agree a.toTradingAccount rules.maxDrawdownPct := by
  rw [reportsDrawdown_iff hrule htype, evaluatePhase_eq hphase hactive ha, failsDrawdown_iff, hlimit]
  exact tests_agree_iff

def lossAccount (balance : Balance) : ChallengeAccount :=
  { phaseAccount balance with peakBalance := .ofUnits 1000000 }

def lossRule : RiskRule where
  account := 0
  maxDrawdownPct := .ofUnits 1000
  maxDailyLossPct := .ofUnits 500
  maxLotSize := .ofUnits 500
  maxOpenPositions := 30
  maxExposureUsd := .ofUnits 1000000

def lossDesk (balance : Balance) : Desk :=
  { phaseDesk balance with
    accounts := Table.ofList [lossAccount balance]
    riskRules := Table.ofList [lossRule] }

lemma lossDesk_rule (balance : Balance) :
    getOrCreateRiskRule (lossDesk balance) 0 (lossAccount balance) = .ok (lossDesk balance, lossRule) := rfl

def atLimit : Balance := .ofUnits 900000

def underLimit : Balance := .ofUnits 900050

theorem drawdown_tests_agree_iff_example :
    ReportsDrawdown (checkAndEnforceRisk (lossDesk atLimit) 0 (lossAccount atLimit)) ↔
      FailsDrawdown (evaluatePhase (lossDesk atLimit) phaseEnrollment tenThousand) := by
  refine (drawdown_tests_agree_iff (lossDesk atLimit) (lossDesk atLimit) phaseEnrollment tenThousand tenThousand.p1 0
    (lossAccount atLimit) lossRule rfl rfl rfl rfl (lossDesk_rule atLimit) rfl).mpr ?_
  rw [Agree, if_pos (by decide)]
  exact fun h => absurd h.2 (by decide)

/-- A drawdown of 9.995 percent suspends the account, and passes the evaluation of its phase. -/
theorem rounded_drawdown_suspends :
    ReportsDrawdown (checkAndEnforceRisk (lossDesk underLimit) 0 (lossAccount underLimit)) ∧
      ¬ FailsDrawdown (evaluatePhase (lossDesk underLimit) phaseEnrollment tenThousand) := by
  constructor
  · rw [reportsDrawdown_iff (lossDesk_rule underLimit) rfl]
    decide +kernel
  · have hpassed : (evaluatePhase (lossDesk underLimit) phaseEnrollment tenThousand).status = .inProgress := by
      decide +kernel
    rintro ⟨hfailed, -⟩
    rw [hpassed] at hfailed
    cases hfailed

end TrxSimulator.Challenges.Drawdown
