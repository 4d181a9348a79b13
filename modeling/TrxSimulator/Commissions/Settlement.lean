import TrxSimulator.Accounts
import TrxSimulator.Treasury.Requests

/-! Settlement of commission obligations through the treasury: an obligation is approved, linked to one
request of its amount, and marked credited once that request is executed. -/

namespace TrxSimulator.Commissions.Settlement

open Foundations.Tables Foundations.Outcomes Foundations.Decimals Money Accounts Wallets.Ledger
open Treasury.Requests

inductive RiskStatus
  | active | frozen
deriving DecidableEq

structure Referral where
  user : ℕ
  riskStatus : RiskStatus
deriving DecidableEq

inductive ObligationStatus
  | pending | approved | credited | cancelled | reversed
deriving DecidableEq

/-- The rates and bases an amount is generated from are not negative. -/
structure Obligation where
  referral : ℕ
  ruleType : String
  calculatedAmount : Balance
  nonneg : 0 ≤ calculatedAmount.units
  status : ObligationStatus
  approvedBy : Option ℕ
  treasuryOperation : Option ℕ
  isHeld : Bool
deriving DecidableEq

inductive AdjustmentType
  | reversal | adjustment
deriving DecidableEq

inductive AdjustmentStatus
  | pending | approved | executed | rejected
deriving DecidableEq

structure Adjustment where
  obligation : ℕ
  referral : ℕ
  adjustmentType : AdjustmentType
  amount : Balance
  positive : 0 < amount.units
  reason : String
  status : AdjustmentStatus
  createdBy : ℕ
  approvedBy : Option ℕ
  rejectedBy : Option ℕ
  rejectionReason : String
  treasuryOperation : Option ℕ
deriving DecidableEq

inductive CommissionError
  | treasury (e : TreasuryError)
  | doesNotExist (model : String) (pk : ℕ)
  | obligationNotPending (obligation : ℕ) (status : ObligationStatus)
  | obligationNotApproved (obligation : ℕ) (status : ObligationStatus)
  | obligationInvalidAmount (obligation : ℕ) (amount : Balance)
  | referralNotActive (referral obligation : ℕ)
  | obligationHeld (obligation : ℕ)
  | amountNotPositive (amount : ℚ)
  | reasonRequired
  | adjustmentNotEligible (obligation : ℕ) (status : ObligationStatus)
  | adjustmentExceedsRemaining (obligation : ℕ) (amount : ℚ) (remaining : ℤ)
  | adjustmentNotPending (adjustment : ℕ) (status : AdjustmentStatus)
  | adjustmentNotApproved (adjustment : ℕ) (status : AdjustmentStatus)
  | numericOverflow (amount : ℚ)
  | checkViolation (constraint : String)
deriving DecidableEq

inductive Outcome
  | credited | alreadyCredited | executed | alreadyExecuted | notApproved | notLinked
  | treasuryPendingExecution | treasuryTerminalNonSuccess
deriving DecidableEq

structure Program where
  office : Office
  referrals : Table Referral
  obligations : Table Obligation
  adjustments : Table Adjustment

def terminalNonSuccess : Status → Bool
  | .rejected | .cancelled | .failed => true
  | _ => false

def Program.authorize (s : Program) (user : ℕ) (p : Permission) : Except CommissionError Unit :=
  (Treasury.Requests.authorize s.office user p).mapError .treasury

def lockReferral (s : Program) (referral : ℕ) : Except CommissionError Referral :=
  require (s.referrals.get referral) (.doesNotExist "Referral" referral)

def lockObligation (s : Program) (obligation : ℕ) : Except CommissionError Obligation :=
  require (s.obligations.get obligation) (.doesNotExist "IBCommissionObligation" obligation)

def treasuryRequest (s : Program) (request : ℕ) : Except CommissionError TreasuryRequest :=
  require (s.office.requests.get request) (.doesNotExist "TreasuryOperationRequest" request)

def Program.setObligation (s : Program) (obligation : ℕ) (f : Obligation → Obligation) : Program :=
  { s with obligations := s.obligations.update obligation f }

def approveObligation (s : Program) (user obligation : ℕ) : Except CommissionError Program := do
  let _ ← s.authorize user .review
  let locked ← lockObligation s obligation
  let referral ← lockReferral s locked.referral
  if locked.status ≠ .pending then .error (.obligationNotPending obligation locked.status)
  else if referral.riskStatus ≠ .active then .error (.referralNotActive locked.referral obligation)
  else if locked.isHeld = true then .error (.obligationHeld obligation)
  else if locked.calculatedAmount.units ≤ 0 then
    .error (.obligationInvalidAmount obligation locked.calculatedAmount)
  else pure (s.setObligation obligation fun o =>
    { o with status := .approved, approvedBy := some user })

def Program.submit (s : Program) (user owner : ℕ) (form : ℕ → Form) :
    Except CommissionError (Program × ℕ) := do
  let opened := getOrCreateWallet s.office.ledger owner
  let submitted ← (submitTreasuryRequest { s.office with ledger := opened.1 } user
    (form opened.2)).mapError .treasury
  pure ({ s with office := submitted.1 }, submitted.2)

def Obligation.form (pk : ℕ) (o : Obligation) (wallet : ℕ) : Form where
  wallet := wallet
  operationType := .ibCommission
  amount := o.calculatedAmount.widen balance_digits
  reason := "IB commission settlement — obligation #" ++ toString pk ++ " (" ++ o.ruleType ++ ")"
  reference := "IBCommissionObligation #" ++ toString pk
  category := none
  comment := ""

def linkTreasuryRequest (s : Program) (user obligation : ℕ) : Except CommissionError (Program × ℕ) := do
  let _ ← s.authorize user .submit
  let locked ← lockObligation s obligation
  let referral ← lockReferral s locked.referral
  match locked.treasuryOperation with
  | some request => pure (s, request)
  | none =>
    if locked.status ≠ .approved then .error (.obligationNotApproved obligation locked.status)
    else if referral.riskStatus ≠ .active then .error (.referralNotActive locked.referral obligation)
    else if locked.isHeld = true then .error (.obligationHeld obligation)
    else if locked.calculatedAmount.units ≤ 0 then
      .error (.obligationInvalidAmount obligation locked.calculatedAmount)
    else do
      let submitted ← s.submit user referral.user (locked.form obligation)
      pure (submitted.1.setObligation obligation fun o =>
        { o with treasuryOperation := some submitted.2 }, submitted.2)

def syncObligationFromTreasury (s : Program) (obligation : ℕ) :
    Except CommissionError (Program × Outcome × Option Status) := do
  let locked ← lockObligation s obligation
  if locked.status = .credited then pure (s, .alreadyCredited, none)
  else if locked.status ≠ .approved then pure (s, .notApproved, none)
  else match locked.treasuryOperation with
    | none => pure (s, .notLinked, none)
    | some pk => do
      let request ← treasuryRequest s pk
      if terminalNonSuccess request.status = true then
        pure (s, .treasuryTerminalNonSuccess, some request.status)
      else if request.status ≠ .executed then
        pure (s, .treasuryPendingExecution, some request.status)
      else pure (s.setObligation obligation fun o => { o with status := .credited }, .credited,
        some request.status)

end TrxSimulator.Commissions.Settlement
