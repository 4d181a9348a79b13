import TrxSimulator.Wallets.Ledger

/-! Treasury requests: submission, review, cancellation, and execution in two transactions with a
durable claim between them. -/

namespace TrxSimulator.Treasury.Requests

open Foundations.Tables Foundations.Outcomes Foundations.Decimals Money Wallets.Ledger

inductive OperationType
  | creditFunds | debitFunds | refund | bonusCredit | ibCommission | manualCredit | manualDebit
deriving DecidableEq

def OperationType.display : OperationType → String
  | .creditFunds => "Credit Funds"
  | .debitFunds => "Debit Funds"
  | .refund => "Refund"
  | .bonusCredit => "Bonus Credit"
  | .ibCommission => "IB / Referral Commission"
  | .manualCredit => "Manual Credit Adjustment"
  | .manualDebit => "Manual Debit Adjustment"

inductive Direction
  | credit | debit
deriving DecidableEq

def executionMapping : OperationType → Direction × TxType
  | .creditFunds => (.credit, .correction)
  | .debitFunds => (.debit, .correction)
  | .refund => (.credit, .correction)
  | .bonusCredit => (.credit, .bonus)
  | .ibCommission => (.credit, .rebate)
  | .manualCredit => (.credit, .correction)
  | .manualDebit => (.debit, .correction)

inductive Status
  | pending | approved | rejected | executing | executed | failed | cancelled
deriving DecidableEq

def Status.terminal : Status → Bool
  | .rejected | .executed | .failed | .cancelled => true
  | .pending | .approved | .executing => false

inductive Category
  | systemError | providerDuplicate | incidentCompensation | other
deriving DecidableEq

inductive Permission
  | submit | review | execute | recover
deriving DecidableEq

structure User where
  isActive : Bool
  permissions : List Permission
deriving DecidableEq

def User.hasPerm (u : User) (p : Permission) : Bool := u.isActive && u.permissions.contains p

inductive TreasuryError
  | authenticationRequired
  | missingPermission (permission : Permission)
  | invalidForm
  | reasonRequired
  | requestDoesNotExist (request : ℕ)
  | notPending (request : ℕ) (status : Status)
  | selfReviewDenied (user request : ℕ)
  | notApproved (request : ℕ) (status : Status)
  | selfExecutionDenied (user request : ℕ)
  | unexpectedStatus (request : ℕ) (found : Status)
  | unexpectedExecutor (request : ℕ) (found : Option ℕ)
  | alreadyLinked (request transaction : ℕ)
  | ledger (e : LedgerError)
deriving DecidableEq

inductive FailureReason
  | execution (e : TreasuryError)
  | manualRecovery (reason : String)
deriving DecidableEq

structure TreasuryRequest where
  operationType : OperationType
  wallet : ℕ
  amount : Amount
  positive : 0 < amount.units
  currency : String
  status : Status
  reason : String
  reference : String
  category : Option Category
  comment : String
  walletTransaction : Option ℕ
  requestedBy : ℕ
  approvedBy : Option ℕ
  rejectedBy : Option ℕ
  rejectionReason : String
  executedBy : Option ℕ
  failureReason : Option FailureReason
deriving DecidableEq

inductive Note
  | treasuryRequest (request : ℕ) (operationType : OperationType) (detail : String)
  | other (text : String)
deriving DecidableEq

def Note.text : Note → String
  | .treasuryRequest request operationType detail =>
    "Treasury Request #" ++ toString request ++ " — " ++ operationType.display ++ " — " ++ detail
  | .other text => text

def TreasuryRequest.note (pk : ℕ) (r : TreasuryRequest) : Note :=
  .treasuryRequest pk r.operationType (if r.reference = "" then r.reason else r.reference)

def TreasuryRequest.signedAmount (r : TreasuryRequest) : ℤ :=
  match (executionMapping r.operationType).1 with
  | .credit => r.amount.units
  | .debit => -r.amount.units

structure Form where
  wallet : ℕ
  operationType : OperationType
  amount : Amount
  reason : String
  reference : String
  category : Option Category
  comment : String

def categoryRequired : OperationType → Bool
  | .creditFunds | .debitFunds | .manualCredit | .manualDebit => true
  | .refund | .bonusCredit | .ibCommission => false

def referenceRequired (o : OperationType) (c : Option Category) : Bool :=
  match o with
  | .refund | .ibCommission | .manualCredit | .manualDebit => true
  | .creditFunds | .debitFunds => c = some .systemError ∨ c = some .providerDuplicate
  | .bonusCredit => false

def commentRequired : OperationType → Bool
  | .manualCredit | .manualDebit => true
  | _ => false

def Form.valid (f : Form) : Prop :=
  0 < f.amount.units ∧ f.reason ≠ "" ∧ (categoryRequired f.operationType = true → f.category.isSome) ∧
    (referenceRequired f.operationType f.category = true → f.reference ≠ "") ∧
    (commentRequired f.operationType = true → f.comment ≠ "")

instance (f : Form) : Decidable f.valid := inferInstanceAs (Decidable (_ ∧ _))

inductive EventType
  | executionStarted | executed | executionFailed
deriving DecidableEq

structure AuditEvent where
  eventType : EventType
  request : ℕ
  time : ℕ
deriving DecidableEq

/-- How far one call of the execution service has come. -/
inductive Stage
  | started
  | announced
  | executed
  | raised (e : TreasuryError)
  | failed
  | finished
deriving DecidableEq

structure Execution where
  request : ℕ
  user : ℕ
  stage : Stage
deriving DecidableEq

structure Recovery where
  request : ℕ
  user : ℕ
  capturedExecutor : Option ℕ
  reason : String
  finished : Bool
deriving DecidableEq

structure Office where
  users : Table User
  ledger : WalletLedger Note
  requests : Table TreasuryRequest
  auditLog : Table AuditEvent
  brokerLog : Table AuditEvent
  executions : Table Execution
  recoveries : Table Recovery
  now : ℕ

def authorize (s : Office) (user : ℕ) (p : Permission) : Except TreasuryError Unit :=
  match s.users.get user with
  | none => .error .authenticationRequired
  | some u => if u.hasPerm p then .ok () else .error (.missingPermission p)

def submitTreasuryRequest (s : Office) (user : ℕ) (form : Form) : Except TreasuryError (Office × ℕ) := do
  let _ ← authorize s user .submit
  if h : form.valid then do
    let wallet ← (s.ledger.wallet form.wallet).mapError .ledger
    pure ({ s with
      requests := s.requests.insert
        { operationType := form.operationType, wallet := form.wallet, amount := form.amount,
          positive := h.1, currency := wallet.currency, status := .pending, reason := form.reason,
          reference := form.reference, category := form.category, comment := form.comment,
          walletTransaction := none, requestedBy := user, approvedBy := none, rejectedBy := none,
          rejectionReason := "", executedBy := none, failureReason := none } }, s.requests.next)
  else .error .invalidForm

def lockRequest (s : Office) (request : ℕ) : Except TreasuryError TreasuryRequest :=
  require (s.requests.get request) (.requestDoesNotExist request)

def Office.setRequest (s : Office) (request : ℕ) (f : TreasuryRequest → TreasuryRequest) : Office :=
  { s with requests := s.requests.update request f }

def approveTreasuryRequest (s : Office) (user request : ℕ) : Except TreasuryError Office := do
  let _ ← authorize s user .review
  let locked ← lockRequest s request
  if locked.status ≠ .pending then .error (.notPending request locked.status)
  else if locked.requestedBy = user then .error (.selfReviewDenied user request)
  else pure (s.setRequest request fun r => { r with status := .approved, approvedBy := some user })

def rejectTreasuryRequest (s : Office) (user request : ℕ) (rejectionReason : String) :
    Except TreasuryError Office := do
  let _ ← authorize s user .review
  if rejectionReason = "" then .error .reasonRequired
  else do
    let locked ← lockRequest s request
    if locked.status ≠ .pending then .error (.notPending request locked.status)
    else if locked.requestedBy = user then .error (.selfReviewDenied user request)
    else pure (s.setRequest request fun r =>
      { r with status := .rejected, rejectedBy := some user, rejectionReason := rejectionReason })

def cancelTreasuryRequest (s : Office) (user request : ℕ) : Except TreasuryError Office := do
  let _ ← require (s.users.get user) .authenticationRequired
  let locked ← lockRequest s request
  if locked.status ≠ .pending then .error (.notPending request locked.status)
  else do
    let _ ← authorize s user (if locked.requestedBy = user then .submit else .review)
    pure (s.setRequest request fun r => { r with status := .cancelled })

/-- Step A: the claim, which commits alone. -/
def claimExecution (s : Office) (user request : ℕ) : Except TreasuryError Office := do
  let _ ← authorize s user .execute
  let locked ← lockRequest s request
  if locked.status ≠ .approved then .error (.notApproved request locked.status)
  else if locked.requestedBy = user ∨ locked.approvedBy = some user then
    .error (.selfExecutionDenied user request)
  else pure { s.setRequest request (fun r =>
      { r with status := .executing, executedBy := some user, walletTransaction := none }) with
    executions := s.executions.insert { request := request, user := user, stage := .started } }

def Office.setStage (s : Office) (execution : ℕ) (stage : Stage) : Office :=
  { s with executions := s.executions.update execution fun x => { x with stage := stage } }

/-- Writes one event to the two logs; each write may be lost. -/
def Office.logEvent (s : Office) (eventType : EventType) (request : ℕ) (audited brokered : Bool) :
    Office :=
  { s with
    auditLog := if audited then s.auditLog.insert ⟨eventType, request, s.now⟩ else s.auditLog
    brokerLog := if brokered then s.brokerLog.insert ⟨eventType, request, s.now⟩ else s.brokerLog }

def announceExecution (s : Office) (execution : ℕ) (audited brokered : Bool) : Office :=
  match s.executions.get execution with
  | some ⟨request, _, .started⟩ =>
    (s.logEvent .executionStarted request audited brokered).setStage execution .announced
  | _ => s

def walletOperation (r : TreasuryRequest) (l : WalletLedger Note) (refs : References Note) :
    Except LedgerError (WalletLedger Note × ℕ) :=
  match executionMapping r.operationType with
  | (.credit, txType) => creditWallet l r.wallet r.amount.value txType refs
  | (.debit, txType) => debitWallet l r.wallet r.amount.value txType refs

/-- Step B: rechecks the claim, moves the money and links it, all in one transaction. -/
def moveMoney (s : Office) (user request : ℕ) : Except TreasuryError Office := do
  let locked ← lockRequest s request
  if locked.status ≠ .executing then .error (.unexpectedStatus request locked.status)
  else if locked.executedBy ≠ some user then .error (.unexpectedExecutor request locked.executedBy)
  else match locked.walletTransaction with
    | some t => .error (.alreadyLinked request t)
    | none => do
      let moved ← (walletOperation locked s.ledger
        { note := some (locked.note request), initiatedBy := some user }).mapError .ledger
      pure ({ s with ledger := moved.1 }.setRequest request fun r =>
        { r with status := .executed, walletTransaction := some moved.2 })

def stepB (s : Office) (execution : ℕ) : Office :=
  match s.executions.get execution with
  | some ⟨request, user, .announced⟩ =>
    match moveMoney s user request with
    | .ok s' => s'.setStage execution .executed
    | .error e => s.setStage execution (.raised e)
  | _ => s

def ownsClaim (r : TreasuryRequest) (executor : Option ℕ) : Bool :=
  r.status = .executing ∧ r.walletTransaction = none ∧ r.executedBy = executor

/-- The conditional update to `failed`; a row the condition misses stays as it is. -/
def markFailed (executor : Option ℕ) (reason : FailureReason) (r : TreasuryRequest) : TreasuryRequest :=
  if ownsClaim r executor then { r with status := .failed, failureReason := some reason } else r

def abortExecution (s : Office) (execution : ℕ) : Office :=
  match s.executions.get execution with
  | some ⟨request, user, .raised e⟩ =>
    let matched := (s.requests.get request).any fun r => ownsClaim r (some user)
    (s.setRequest request (markFailed (some user) (.execution e))).setStage execution
      (if matched then .failed else .finished)
  | _ => s

def reportExecution (s : Office) (execution : ℕ) (audited brokered : Bool) : Office :=
  match s.executions.get execution with
  | some ⟨request, _, .executed⟩ =>
    (s.logEvent .executed request audited brokered).setStage execution .finished
  | some ⟨request, _, .failed⟩ =>
    (s.logEvent .executionFailed request audited brokered).setStage execution .finished
  | _ => s

end TrxSimulator.Treasury.Requests
