import TrxSimulator.Foundations.Outcomes
import TrxSimulator.Foundations.Runs
import TrxSimulator.Challenges.Evaluation

/-! Progress of an enrollment through its phases: activation, evaluation and the two promotions, over any
trading of the accounts. -/

namespace TrxSimulator.Challenges.Progress

open Foundations.Runs Foundations.Tables Foundations.Outcomes Foundations.Decimals Money Accounts Evaluation

inductive ChallengeError
  | enrollmentMissing (enrollment : ℕ)
  | productMissing (product : ℕ)
  | cannotAdvanceToPhase2 (enrollment : ℕ) (status : EnrollmentStatus)
  | cannotAdvanceToFunded (enrollment : ℕ) (status : EnrollmentStatus)
  | duplicateActive (enrollment : ℕ)
  | numericOverflow (amount : ℚ)
deriving DecidableEq

def shareOfSize (size : Balance) (pct : Numeric 5 2) : Except ChallengeError Balance :=
  let amount := scaled 2 (quantize 2 (divide (times size.value pct.value) 100))
  require (store 12 2 amount) (.numericOverflow amount)

def taTierForProduct (product : ChallengeProduct) : Option Tier :=
  if product.tier = .k25 then none else some product.tier

def newAccount (s : Desk) (user : ℕ) (accountType : AccountType) (product : ChallengeProduct)
    (phase : AccountPhase) (profitTarget : Option Balance) (maxDrawdown : Balance) : ChallengeAccount where
  user := some user
  accountType := accountType
  balance := product.accountSize
  equity := product.accountSize
  peakBalance := product.accountSize
  initialBalance := some product.accountSize
  tier := taTierForProduct product
  phase := phase
  profitTarget := profitTarget
  maxDrawdown := maxDrawdown
  leverage := 50
  status := .active
  createdOn := s.today

def newRiskRule (account : ℕ) (product : ChallengeProduct) (rules : PhaseRules) : RiskRule where
  account := account
  maxDrawdownPct := rules.maxDrawdownPct
  maxDailyLossPct := rules.maxDailyLossPct
  maxLotSize := product.maxLotSize
  maxOpenPositions := product.maxOpenPositions
  maxExposureUsd := product.accountSize

/-- The unique constraint: one active purchased enrollment for a user and product. -/
def duplicateActive (s : Desk) (enrollment : ℕ) (e : ChallengeEnrollment) : Bool :=
  e.status.terminal = false && e.source ≠ .adminGrant && s.enrollments.rows.any fun r =>
    r.1 ≠ enrollment ∧ r.2.user = e.user ∧ r.2.product = e.product ∧ r.2.status.terminal = false ∧
      r.2.source ≠ .adminGrant

def lockEnrollment (s : Desk) (enrollment : ℕ) : Except ChallengeError ChallengeEnrollment :=
  require (s.enrollments.get enrollment) (.enrollmentMissing enrollment)

def productOf (s : Desk) (e : ChallengeEnrollment) : Except ChallengeError ChallengeProduct :=
  require (s.products.get e.product) (.productMissing e.product)

def saveEnrollment (s : Desk) (enrollment : ℕ) (e : ChallengeEnrollment) : Except ChallengeError Desk :=
  if duplicateActive s enrollment e = true then .error (.duplicateActive enrollment)
  else .ok { s with enrollments := s.enrollments.update enrollment fun _ => e }

def activateChallengeEnrollment (s : Desk) (enrollment : ℕ) : Except ChallengeError Desk := do
  let e ← lockEnrollment s enrollment
  if e.phase1Account ≠ none then .ok s
  else do
    let product ← productOf s e
    let target ← shareOfSize product.accountSize product.p1.profitTargetPct
    let maxDrawdown ← shareOfSize product.accountSize product.p1.maxDrawdownPct
    saveEnrollment
      { s with
        accounts := s.accounts.insert (newAccount s e.user .challenge product .phase1 (some target) maxDrawdown)
        riskRules := s.riskRules.insert (newRiskRule s.accounts.next product product.p1) }
      enrollment { e with phase1Account := some s.accounts.next, status := .phase1 }

def complete (a : ChallengeAccount) : ChallengeAccount := { a with status := .funded }

def completePhase (accounts : Table ChallengeAccount) (account : Option ℕ) : Table ChallengeAccount :=
  account.elim accounts fun k => accounts.update k complete

def advanceToPhase2 (s : Desk) (enrollment : ℕ) : Except ChallengeError Desk := do
  let e ← lockEnrollment s enrollment
  if e.phase2Account ≠ none then .ok s
  else if e.status ≠ .phase1 then .error (.cannotAdvanceToPhase2 enrollment e.status)
  else do
    let product ← productOf s e
    let target ← shareOfSize product.accountSize product.p2.profitTargetPct
    let maxDrawdown ← shareOfSize product.accountSize product.p2.maxDrawdownPct
    saveEnrollment
      { s with
        accounts := completePhase
          (s.accounts.insert (newAccount s e.user .challenge product .phase2 (some target) maxDrawdown))
          e.phase1Account
        riskRules := s.riskRules.insert (newRiskRule s.accounts.next product product.p2) }
      enrollment { e with phase2Account := some s.accounts.next, status := .phase2 }

def advanceToFunded (s : Desk) (enrollment : ℕ) : Except ChallengeError Desk := do
  let e ← lockEnrollment s enrollment
  if e.fundedAccount ≠ none then .ok s
  else if e.status ≠ .phase2 then .error (.cannotAdvanceToFunded enrollment e.status)
  else do
    let product ← productOf s e
    let maxDrawdown ← shareOfSize product.accountSize product.p2.maxDrawdownPct
    saveEnrollment
      { s with
        accounts := completePhase
          (s.accounts.insert (newAccount s e.user .funded product .funded none maxDrawdown)) e.phase2Account
        riskRules := s.riskRules.insert (newRiskRule s.accounts.next product product.p2)
        fundedConfigs := s.fundedConfigs.insert ⟨enrollment, true, product.profitSplitPct⟩ }
      enrollment { e with fundedAccount := some s.accounts.next, status := .funded }

def suspend (a : ChallengeAccount) : ChallengeAccount := { a with status := .suspended }

def markFailed (s : Desk) (enrollment : ℕ) (e : ChallengeEnrollment) (reason : Option FailReason)
    (failedAt : AccountPhase) : Except ChallengeError Desk :=
  saveEnrollment
    { s with accounts := e.activeAccount.elim s.accounts fun k => s.accounts.update k suspend }
    enrollment { e with status := .failed, failedAtPhase := some failedAt, failureReason := reason }

def evaluateEnrollmentNow (s : Desk) (enrollment : ℕ) : Except ChallengeError (Desk × EvalResult) := do
  let e ← lockEnrollment s enrollment
  if e.status ≠ .phase1 ∧ e.status ≠ .phase2 then
    .ok (s, ⟨.inProgress, some (.nothingToEvaluate e.status), none⟩)
  else do
    let product ← productOf s e
    let result := evaluatePhase s e product
    let s' ← match result.status with
      | .passed => if e.status = .phase1 then advanceToPhase2 s enrollment else advanceToFunded s enrollment
      | .failed => markFailed s enrollment e result.failReason (if e.status = .phase1 then .phase1 else .phase2)
      | .inProgress => .ok s
    pure (s', result)

inductive Action
  | enroll (user product : ℕ) (source : EnrollmentSource)
  | activate (enrollment : ℕ)
  | evaluateNow (enrollment : ℕ)
  | advanceToPhase2 (enrollment : ℕ)
  | advanceToFunded (enrollment : ℕ)
  | trade (account : ℕ) (balance equity peakBalance : Balance) (status : AccountStatus)
  | closeTrade (trade : Trade)
  | post (entry : DatedEntry)
  | wait (days : ℕ)

def newEnrollment (user product : ℕ) (source : EnrollmentSource) : ChallengeEnrollment where
  user := user
  product := product
  phase1Account := none
  phase2Account := none
  fundedAccount := none
  status := .phase1
  source := source
  failedAtPhase := none
  failureReason := none

def enroll (s : Desk) (user product : ℕ) (source : EnrollmentSource) : Except ChallengeError Desk :=
  if duplicateActive s s.enrollments.next (newEnrollment user product source) = true then
    .error (.duplicateActive s.enrollments.next)
  else .ok { s with enrollments := s.enrollments.insert (newEnrollment user product source) }

def step (s : Desk) : Action → Desk
  | .enroll user product source => commit s (enroll s user product source)
  | .activate enrollment => commit s (activateChallengeEnrollment s enrollment)
  | .evaluateNow enrollment => commit s ((evaluateEnrollmentNow s enrollment).map Prod.fst)
  | .advanceToPhase2 enrollment => commit s (advanceToPhase2 s enrollment)
  | .advanceToFunded enrollment => commit s (advanceToFunded s enrollment)
  | .trade account balance equity peakBalance status =>
    { s with accounts := s.accounts.update account fun a =>
        { a with balance := balance, equity := equity, peakBalance := peakBalance, status := status } }
  | .closeTrade trade => { s with trades := s.trades.insert trade }
  | .post entry => { s with entries := s.entries.insert entry }
  | .wait days => { s with today := s.today + days }

end TrxSimulator.Challenges.Progress
