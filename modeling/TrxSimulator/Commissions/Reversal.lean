import TrxSimulator.Commissions.Settlement

/-! Reversals of credited commissions: adjustments reserve a part of the obligation's amount until they
are rejected, and are debited through a treasury request of their own. -/

namespace TrxSimulator.Commissions.Reversal

open Foundations.Tables Foundations.Outcomes Foundations.Decimals Accounts Treasury.Requests Settlement

def AdjustmentType.value : AdjustmentType → String
  | .reversal => "reversal"
  | .adjustment => "adjustment"

def reservedStatus : AdjustmentStatus → Bool
  | .pending | .approved | .executed => true
  | .rejected => false

def reservation (obligation : ℕ) (a : Adjustment) : ℤ :=
  if a.obligation = obligation ∧ reservedStatus a.status = true then a.amount.units else 0

def reserved (s : Program) (obligation : ℕ) (excluded : Option ℕ) : ℤ :=
  s.adjustments.total fun i a => if excluded = some i then 0 else reservation obligation a

def remainingReversible (s : Program) (obligation : ℕ) (o : Obligation) (excluded : Option ℕ) : ℤ :=
  o.calculatedAmount.units - reserved s obligation excluded

def lockAdjustment (s : Program) (adjustment : ℕ) : Except CommissionError Adjustment :=
  require (s.adjustments.get adjustment) (.doesNotExist "IBCommissionAdjustment" adjustment)

def Program.setAdjustment (s : Program) (adjustment : ℕ) (f : Adjustment → Adjustment) : Program :=
  { s with adjustments := s.adjustments.update adjustment f }

/-- The amount is compared as given and rounded by the column when it is stored. -/
def submitAdjustment (s : Program) (user obligation : ℕ) (amount : ℚ) (reason : String)
    (adjustmentType : AdjustmentType) : Except CommissionError (Program × ℕ) := do
  let _ ← s.authorize user .submit
  if amount ≤ 0 then .error (.amountNotPositive amount)
  else if reason = "" then .error .reasonRequired
  else do
    let locked ← lockObligation s obligation
    if locked.status ≠ .credited then .error (.adjustmentNotEligible obligation locked.status)
    else if scaled 2 (remainingReversible s obligation locked none) < amount then
      .error (.adjustmentExceedsRemaining obligation amount (remainingReversible s obligation locked none))
    else do
      let stored ← require (store 12 2 amount) (.numericOverflow amount)
      if h : 0 < stored.units then
        pure ({ s with
          adjustments := s.adjustments.insert
            { obligation := obligation, referral := locked.referral, adjustmentType := adjustmentType,
              amount := stored, positive := h, reason := reason, status := .pending, createdBy := user,
              approvedBy := none, rejectedBy := none, rejectionReason := "",
              treasuryOperation := none } }, s.adjustments.next)
      else .error (.checkViolation "ib_adjustment_amount_positive")

def approveAdjustment (s : Program) (user adjustment : ℕ) : Except CommissionError Program := do
  let _ ← s.authorize user .review
  let locked ← lockAdjustment s adjustment
  if locked.status ≠ .pending then .error (.adjustmentNotPending adjustment locked.status)
  else do
    let obligation ← lockObligation s locked.obligation
    let remaining := remainingReversible s locked.obligation obligation (some adjustment)
    if remaining < locked.amount.units then
      .error (.adjustmentExceedsRemaining locked.obligation locked.amount.value remaining)
    else pure (Program.setAdjustment s adjustment fun a =>
      { a with status := .approved, approvedBy := some user })

def rejectAdjustment (s : Program) (user adjustment : ℕ) (rejectionReason : String) :
    Except CommissionError Program := do
  let _ ← s.authorize user .review
  if rejectionReason = "" then .error .reasonRequired
  else do
    let locked ← lockAdjustment s adjustment
    if locked.status ≠ .pending then .error (.adjustmentNotPending adjustment locked.status)
    else pure (Program.setAdjustment s adjustment fun a =>
      { a with status := .rejected, rejectedBy := some user, rejectionReason := rejectionReason })

def Adjustment.form (pk : ℕ) (a : Adjustment) (wallet : ℕ) : Form where
  wallet := wallet
  operationType := .manualDebit
  amount := a.amount.widen balance_digits
  reason := "IB commission " ++ AdjustmentType.value a.adjustmentType ++ " — obligation #" ++
    toString a.obligation ++ ": " ++ a.reason
  reference := "IBCommissionAdjustment #" ++ toString pk
  category := some .other
  comment := a.reason

def linkAdjustmentToTreasury (s : Program) (user adjustment : ℕ) :
    Except CommissionError (Program × ℕ) := do
  let _ ← s.authorize user .submit
  let locked ← lockAdjustment s adjustment
  match locked.treasuryOperation with
  | some request => pure (s, request)
  | none =>
    if locked.status ≠ .approved then .error (.adjustmentNotApproved adjustment locked.status)
    else do
      let referral ← lockReferral s locked.referral
      let submitted ← s.submit user referral.user (Adjustment.form adjustment locked)
      pure (Program.setAdjustment submitted.1 adjustment fun a =>
        { a with treasuryOperation := some submitted.2 }, submitted.2)

def syncAdjustmentFromTreasury (s : Program) (adjustment : ℕ) :
    Except CommissionError (Program × Outcome × Option Status) := do
  let locked ← lockAdjustment s adjustment
  if locked.status = .executed then pure (s, .alreadyExecuted, none)
  else if locked.status ≠ .approved then pure (s, .notApproved, none)
  else match locked.treasuryOperation with
    | none => pure (s, .notLinked, none)
    | some pk => do
      let request ← treasuryRequest s pk
      if terminalNonSuccess request.status = true then
        pure (s, .treasuryTerminalNonSuccess, some request.status)
      else if request.status ≠ .executed then
        pure (s, .treasuryPendingExecution, some request.status)
      else pure (Program.setAdjustment s adjustment fun a => { a with status := .executed }, .executed,
        some request.status)

end TrxSimulator.Commissions.Reversal
