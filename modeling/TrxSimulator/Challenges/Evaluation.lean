import TrxSimulator.Accounts

/-! Evaluation of a challenge phase. The progress towards the profit target is a percentage of the target
itself, and is compared with the target percentage of the account size. -/

namespace TrxSimulator.Challenges.Evaluation

open Foundations.Tables Foundations.Decimals Money Accounts

inductive Tier
  | k10 | k25 | k50 | k100
deriving DecidableEq

inductive AccountStatus
  | active | suspended | violated | closed | funded
deriving DecidableEq

inductive AccountPhase
  | phase1 | phase2 | funded
deriving DecidableEq

structure ChallengeAccount extends TradingAccount where
  tier : Option Tier
  phase : AccountPhase
  profitTarget : Option Balance
  maxDrawdown : Balance
  leverage : ℕ
  status : AccountStatus
  createdOn : ℤ
deriving DecidableEq

structure PhaseRules where
  profitTargetPct : Numeric 5 2
  maxDrawdownPct : Numeric 5 2
  maxDailyLossPct : Numeric 5 2
  minTradingDays : ℕ
  maxDurationDays : ℕ
deriving DecidableEq

structure ChallengeProduct where
  tier : Tier
  accountSize : Balance
  p1 : PhaseRules
  p2 : PhaseRules
  profitSplitPct : Numeric 5 2
  maxLotSize : Numeric 8 2
  maxOpenPositions : ℕ
deriving DecidableEq

inductive EnrollmentStatus
  | phase1 | phase2 | funded | failed | withdrawn
deriving DecidableEq

def EnrollmentStatus.terminal : EnrollmentStatus → Bool
  | .failed | .withdrawn => true
  | .phase1 | .phase2 | .funded => false

inductive EnrollmentSource
  | deposit | wallet | external | adminGrant
deriving DecidableEq

inductive FailReason
  | nothingToEvaluate (status : EnrollmentStatus)
  | noActiveAccount
  | notEvaluable
  | maxDrawdown (realized limit : ℚ)
  | dailyLoss (realized limit : ℚ)
  | maxDuration (elapsed : ℤ) (limit : ℕ)
deriving DecidableEq

structure ChallengeEnrollment where
  user : ℕ
  product : ℕ
  phase1Account : Option ℕ
  phase2Account : Option ℕ
  fundedAccount : Option ℕ
  status : EnrollmentStatus
  source : EnrollmentSource
  failedAtPhase : Option AccountPhase
  failureReason : Option FailReason
deriving DecidableEq

structure Trade where
  account : ℕ
  closedOn : Option ℤ
deriving DecidableEq

structure DatedEntry extends LedgerEntry where
  createdOn : ℤ
deriving DecidableEq

structure RiskRule where
  account : ℕ
  maxDrawdownPct : Numeric 5 2
  maxDailyLossPct : Numeric 5 2
  maxLotSize : Numeric 8 2
  maxOpenPositions : ℕ
  maxExposureUsd : Balance
deriving DecidableEq

structure FundedTerms where
  enrollment : ℕ
  simulated : Bool
  profitSplitPct : Numeric 5 2
deriving DecidableEq

structure Desk where
  products : Table ChallengeProduct
  enrollments : Table ChallengeEnrollment
  accounts : Table ChallengeAccount
  riskRules : Table RiskRule
  fundedConfigs : Table FundedTerms
  trades : Table Trade
  entries : Table DatedEntry
  today : ℤ

inductive EvalStatus
  | inProgress | passed | failed
deriving DecidableEq

structure Metrics where
  profitPct : ℚ
  realizedDdPct : ℚ
  dailyRealizedDdPct : ℚ
  tradingDays : ℕ
  daysElapsed : ℤ
  balance : Balance
  initialBalance : Balance
  profitTargetUsd : ℚ
deriving DecidableEq

structure EvalResult where
  status : EvalStatus
  failReason : Option FailReason
  metrics : Option Metrics
deriving DecidableEq

def ChallengeEnrollment.activeAccount (e : ChallengeEnrollment) : Option ℕ :=
  match e.status with
  | .phase1 => e.phase1Account
  | .phase2 => e.phase2Account
  | .funded => e.fundedAccount
  | .failed | .withdrawn => none

def tradingDays (s : Desk) (account : ℕ) : ℕ :=
  (s.trades.rows.filterMap fun r => if r.2.account = account then r.2.closedOn else none).dedup.length

def peakOrBalance (a : TradingAccount) : ℚ :=
  if a.peakBalance.units ≠ 0 then a.peakBalance.value
  else if a.balance.units ≠ 0 then a.balance.value else 1

def realizedDdPct (a : TradingAccount) : ℚ :=
  if peakOrBalance a ≤ 0 then 0
  else max 0 (percent (minus (peakOrBalance a) a.balance.value) (peakOrBalance a))

def todayPnl (s : Desk) (account : ℕ) : ℚ :=
  s.entries.total fun _ e =>
    if e.account = account ∧ e.eventType = .realizedPnl ∧ e.createdOn = s.today then e.amount.value else 0

def dailyRealizedDdPct (s : Desk) (account : ℕ) (a : TradingAccount) : ℚ :=
  if 0 ≤ todayPnl s account then 0
  else if peakOrBalance a ≤ 0 then 0
  else scaled 2 (quantize 2 (percent |todayPnl s account| (peakOrBalance a)))

def daysElapsed (s : Desk) (a : ChallengeAccount) : ℤ := s.today - a.createdOn

def startingBalance (a : TradingAccount) : Balance :=
  match a.initialBalance with
  | some initial => if initial.units = 0 then a.balance else initial
  | none => a.balance

def profitPct (a : ChallengeAccount) : ℚ :=
  match a.profitTarget with
  | none => 0
  | some target =>
    if target.units ≤ 0 then 0
    else scaled 2 (quantize 2
      (percent (minus a.balance.value (startingBalance a.toTradingAccount).value) target.value))

def phaseRules (product : ChallengeProduct) : EnrollmentStatus → Option PhaseRules
  | .phase1 => some product.p1
  | .phase2 => some product.p2
  | .funded | .failed | .withdrawn => none

def metrics (s : Desk) (account : ℕ) (a : ChallengeAccount) (product : ChallengeProduct) : Metrics where
  profitPct := profitPct a
  realizedDdPct := realizedDdPct a.toTradingAccount
  dailyRealizedDdPct := dailyRealizedDdPct s account a.toTradingAccount
  tradingDays := tradingDays s account
  daysElapsed := daysElapsed s a
  balance := a.balance
  initialBalance := match a.initialBalance with
    | some initial => if initial.units = 0 then product.accountSize else initial
    | none => product.accountSize
  profitTargetUsd := a.profitTarget.elim 0 Numeric.value

/-- The checks of a phase, the most critical first. -/
def assess (rules : PhaseRules) (m : Metrics) : EvalResult :=
  if rules.maxDrawdownPct.value ≤ m.realizedDdPct then
    ⟨.failed, some (.maxDrawdown m.realizedDdPct rules.maxDrawdownPct.value), some m⟩
  else if rules.maxDailyLossPct.value ≤ m.dailyRealizedDdPct then
    ⟨.failed, some (.dailyLoss m.dailyRealizedDdPct rules.maxDailyLossPct.value), some m⟩
  else if rules.maxDurationDays < m.daysElapsed then
    ⟨.failed, some (.maxDuration m.daysElapsed rules.maxDurationDays), some m⟩
  else if rules.profitTargetPct.value ≤ m.profitPct ∧ rules.minTradingDays ≤ m.tradingDays then
    ⟨.passed, none, some m⟩
  else ⟨.inProgress, none, some m⟩

def evaluatePhase (s : Desk) (e : ChallengeEnrollment) (product : ChallengeProduct) : EvalResult :=
  match e.activeAccount.bind fun k => (s.accounts.get k).map fun a => (k, a) with
  | none => ⟨.failed, some .noActiveAccount, none⟩
  | some (k, a) => match phaseRules product e.status with
    | none => ⟨.failed, some .notEvaluable, none⟩
    | some rules => assess rules (metrics s k a product)

variable {s : Desk} {e : ChallengeEnrollment} {product : ChallengeProduct} {rules : PhaseRules} {k : ℕ}
  {a : ChallengeAccount}

lemma evaluatePhase_eq (hphase : phaseRules product e.status = some rules) (hactive : e.activeAccount = some k)
    (ha : s.accounts.get k = some a) : evaluatePhase s e product = assess rules (metrics s k a product) := by
  simp only [evaluatePhase, hactive, Option.bind_some, ha, Option.map_some, hphase]

lemma assess_passed {m : Metrics} (hdrawdown : m.realizedDdPct < rules.maxDrawdownPct.value)
    (hdaily : m.dailyRealizedDdPct < rules.maxDailyLossPct.value) :
    (assess rules m).status = .passed ↔ m.daysElapsed ≤ rules.maxDurationDays ∧
      rules.profitTargetPct.value ≤ m.profitPct ∧ rules.minTradingDays ≤ m.tradingDays := by
  rw [assess, if_neg (not_le.mpr hdrawdown), if_neg (not_le.mpr hdaily)]
  split
  · next hlate =>
    simp only [reduceCtorEq, false_iff]
    exact fun h => absurd h.1 (not_le.mpr hlate)
  · next hlate =>
    split
    · next hpass => exact ⟨fun _ => ⟨not_lt.mp hlate, hpass⟩, fun _ => rfl⟩
    · next hpass =>
      simp only [reduceCtorEq, false_iff]
      exact fun h => hpass h.2

def TargetMet (product : ChallengeProduct) (rules : PhaseRules) (a : ChallengeAccount) : Prop :=
  product.accountSize.units * rules.profitTargetPct.units ≤
    10 ^ 4 * (a.balance.units - (a.initialBalance.getD a.balance).units)

def Reached (rules : PhaseRules) (a : ChallengeAccount) : Prop :=
  match a.profitTarget with
  | none => rules.profitTargetPct.units ≤ 0
  | some target =>
    if target.units ≤ 0 then rules.profitTargetPct.units ≤ 0
    else
      let bound := (2 * rules.profitTargetPct.units - 1) * target.units
      let gained := 20000 * (a.balance.units - (startingBalance a.toTradingAccount).units)
      bound < gained ∨ (gained = bound ∧ Even rules.profitTargetPct.units)

def Aligned (s : Desk) (k : ℕ) (a : ChallengeAccount) (product : ChallengeProduct) (rules : PhaseRules) : Prop :=
  if daysElapsed s a ≤ rules.maxDurationDays then
    rules.minTradingDays ≤ tradingDays s k → (Reached rules a ↔ TargetMet product rules a)
  else rules.minTradingDays ≤ tradingDays s k → ¬ TargetMet product rules a

lemma reached_iff : rules.profitTargetPct.value ≤ profitPct a ↔ Reached rules a := by
  rw [profitPct, Reached]
  cases a.profitTarget with
  | none => exact scaled_nonpos
  | some target =>
    simp only
    split
    · exact scaled_nonpos
    · next hpositive =>
      have hpositive' : 0 < target.units := not_le.mp hpositive
      have hbound : target.units < 10 ^ 13 := by
        have := (abs_lt.mp target.fits).2
        omega
      have hpct : |2 * rules.profitTargetPct.units - 1| < 10 ^ 9 := by
        have := abs_lt.mp rules.profitTargetPct.fits
        rw [abs_lt]
        omega
      have hexact : |a.balance.units - (startingBalance a.toTradingAccount).units| < 10 ^ precision := by
        have h1 := abs_lt.mp a.balance.fits
        have h2 := abs_lt.mp (startingBalance a.toTradingAccount).fits
        rw [precision, abs_lt]
        omega
      rw [Numeric.value, Numeric.value, Numeric.value, Numeric.value, minus_scaled hexact, scaled_le, quantize,
        le_roundHalfEven_iff]
      have hlt := lt_percent_iff (a := a.balance.units - (startingBalance a.toTradingAccount).units) hpositive'
        hbound hpct
      have heq := percent_eq_iff (a := a.balance.units - (startingBalance a.toTradingAccount).units) hpositive'
        hbound hpct
      push_cast at hlt heq
      rw [← hlt, ← heq]
      constructor
      · rintro (h | ⟨h, heven⟩)
        · exact Or.inl (by linarith)
        · exact Or.inr ⟨by linarith, heven⟩
      · rintro (h | ⟨h, heven⟩)
        · exact Or.inl (by linarith)
        · exact Or.inr ⟨by linarith, heven⟩

/-- An account inside its loss limits passes by the product's rule exactly when the two thresholds agree. -/
theorem pass_rule_iff (s : Desk) (e : ChallengeEnrollment) (product : ChallengeProduct) (rules : PhaseRules)
    (k : ℕ) (a : ChallengeAccount) (hphase : phaseRules product e.status = some rules)
    (hactive : e.activeAccount = some k) (ha : s.accounts.get k = some a)
    (hdrawdown : realizedDdPct a.toTradingAccount < rules.maxDrawdownPct.value)
    (hdaily : dailyRealizedDdPct s k a.toTradingAccount < rules.maxDailyLossPct.value) :
    ((evaluatePhase s e product).status = .passed ↔
      rules.minTradingDays ≤ tradingDays s k ∧ TargetMet product rules a) ↔ Aligned s k a product rules := by
  rw [evaluatePhase_eq hphase hactive ha, assess_passed (m := metrics s k a product) hdrawdown hdaily]
  simp only [metrics, reached_iff, Aligned]
  split <;> tauto

instance decidableTargetMet : Decidable (TargetMet product rules a) := inferInstanceAs (Decidable (_ ≤ _))

def tenThousand : ChallengeProduct where
  tier := .k10
  accountSize := .ofUnits 1000000
  p1 := ⟨.ofUnits 800, .ofUnits 1000, .ofUnits 500, 2, 30⟩
  p2 := ⟨.ofUnits 500, .ofUnits 1000, .ofUnits 500, 2, 60⟩
  profitSplitPct := .ofUnits 8000
  maxLotSize := .ofUnits 500
  maxOpenPositions := 30

def phaseAccount (balance : Balance) : ChallengeAccount where
  user := some 3
  accountType := .challenge
  balance := balance
  equity := balance
  peakBalance := balance
  initialBalance := some (.ofUnits 1000000)
  tier := some .k10
  phase := .phase1
  profitTarget := some (.ofUnits 80000)
  maxDrawdown := .ofUnits 100000
  leverage := 50
  status := .active
  createdOn := 0

def phaseEnrollment : ChallengeEnrollment where
  user := 3
  product := 0
  phase1Account := some 0
  phase2Account := none
  fundedAccount := none
  status := .phase1
  source := .deposit
  failedAtPhase := none
  failureReason := none

def phaseDesk (balance : Balance) : Desk where
  products := Table.ofList [tenThousand]
  enrollments := Table.ofList [phaseEnrollment]
  accounts := Table.ofList [phaseAccount balance]
  riskRules := Table.empty
  fundedConfigs := Table.empty
  trades := Table.ofList [⟨0, some 1⟩, ⟨0, some 4⟩]
  entries := Table.empty
  today := 10

theorem pass_rule_iff_example :
    ((evaluatePhase (phaseDesk ⟨1080000, by decide⟩) phaseEnrollment tenThousand).status = .passed ↔
      2 ≤ tradingDays (phaseDesk ⟨1080000, by decide⟩) 0 ∧
        TargetMet tenThousand tenThousand.p1 (phaseAccount ⟨1080000, by decide⟩)) := by
  refine (pass_rule_iff (phaseDesk ⟨1080000, by decide⟩) phaseEnrollment tenThousand tenThousand.p1 0
    (phaseAccount ⟨1080000, by decide⟩) rfl rfl rfl (by decide +kernel) (by decide +kernel)).mpr ?_
  rw [Aligned, if_pos (by decide)]
  refine fun _ => ⟨fun _ => by decide, fun _ => Or.inl (by decide)⟩

/-- A gain of eight percent of the target passes the phase. -/
theorem eight_percent_of_target_passes :
    (evaluatePhase (phaseDesk ⟨1006400, by decide⟩) phaseEnrollment tenThousand).status = .passed ∧
      realizedDdPct (phaseAccount ⟨1006400, by decide⟩).toTradingAccount = 0 ∧
      dailyRealizedDdPct (phaseDesk ⟨1006400, by decide⟩) 0 (phaseAccount ⟨1006400, by decide⟩).toTradingAccount = 0 ∧
      ¬ TargetMet tenThousand tenThousand.p1 (phaseAccount ⟨1006400, by decide⟩) := by
  decide +kernel

end TrxSimulator.Challenges.Evaluation
