import TrxSimulator.Foundations.Sweeps
import TrxSimulator.IBNetwork.Conservation

/-! The sweeps that look for rows without a commission: five of them over a look-back window, and the one of the
network, which leaves a receipt for every execution it has dealt with. -/

namespace TrxSimulator.IBNetwork.Triggers

open Foundations.Tables Foundations.Decimals Foundations.Outcomes Foundations.Runs Foundations.Sweeps
open Money Accounts Links Accruals

abbrev Percentage := Numeric 6 3

inductive PercentKind
  | challengePercent | depositPercent | tradingCommissionRevenueShare | spreadRevenueShare
deriving DecidableEq

inductive Kind
  | perLot
  | percent (kind : PercentKind)
deriving DecidableEq

def PercentKind.ruleType : PercentKind → RuleType
  | .challengePercent => .challengePercent
  | .depositPercent => .depositPercent
  | .tradingCommissionRevenueShare => .tradingCommissionRevenueShare
  | .spreadRevenueShare => .spreadRevenueShare

structure ChallengeEnrollment where
  user : Option ℕ
  deposit : Option ℕ
  priceUsd : Numeric 10 2
  enrolledAt : ℤ

structure Deposit where
  user : Option ℕ
  amountUsd : Balance
  challengeProduct : Option ℕ
  credited : Bool
  creditedAt : Option ℤ
  createdAt : ℤ

inductive RevenueType
  | commission | spread | other
deriving DecidableEq

structure BrokerLedgerRow where
  revenueType : RevenueType
  amount : Amount
  sourceAccount : Option ℕ
  createdAt : ℤ
  economicDate : Option ℤ

/-- The kind stands for the rule type and for the type of the source event. -/
structure PercentObligation where
  attribution : ℕ
  referral : ℕ
  rule : ℕ
  kind : PercentKind
  sourceEventId : ℕ
  basisAmount : Numeric 14 2
  appliedPercentageRate : Percentage
  calculatedAmount : Balance

/-- `books` has the executions with their obligations; the percentages are a column of its rules. -/
structure Sources where
  now : ℤ
  books : Books
  percentages : ℕ → Option Percentage
  enrollments : Table ChallengeEnrollment
  deposits : Table Deposit
  brokerLedger : Table BrokerLedgerRow
  obligations : Table PercentObligation

inductive TriggerError
  | accrual (e : AccrualError)
  | percentageMissing (rule : ℕ)
  | numericOverflow (column : String) (value : ℚ)
  | doesNotExist (model : String) (pk : ℕ)

/-- The user whose introducer earns the commission, the time at which the rules apply, and what they apply to. -/
structure Basis where
  user : ℕ
  atTime : ℤ
  amount : ℚ

section Generators

variable (s : Sources)

structure Terms where
  attribution : ℕ
  referral : ℕ
  rule : ℕ
  basis : Basis

/-- Nothing without an introducer, under a hold, or without exactly one rule. -/
def commissionTerms (kind : PercentKind) (basis : Option Basis) : Option Terms :=
  match basis with
  | none => none
  | some basis =>
    match s.books.network.attributions.first fun a => a.referredUser = basis.user with
    | none => none
    | some (attribution, a) =>
      if isActive s.books a.referral = false then none
      else match resolveApplicableRule s.books a.referral kind.ruleType basis.atTime with
      | .error _ | .ok none => none
      | .ok (some (rule, _)) => some ⟨attribution, a.referral, rule, basis⟩

def percentObligation (kind : PercentKind) (pk : ℕ) (terms : Terms) (rate : Percentage) :
    Except TriggerError PercentObligation := do
  let amount := divide (times terms.basis.amount rate.value) 100
  let basisAmount ← require (store 14 2 terms.basis.amount) (.numericOverflow "basis_amount" terms.basis.amount)
  let calculated ← require (store 12 2 (scaled 2 (quantize 2 amount))) (.numericOverflow "calculated_amount" amount)
  pure { attribution := terms.attribution, referral := terms.referral, rule := terms.rule, kind, sourceEventId := pk,
         basisAmount, appliedPercentageRate := rate, calculatedAmount := calculated }

def generatePercentObligation (kind : PercentKind) (pk : ℕ) (basis : Option Basis) :
    Except TriggerError (Sources × Option ℕ) :=
  match commissionTerms s kind basis with
  | none => .ok (s, none)
  | some terms => do
    let rate ← require (s.percentages terms.rule) (.percentageMissing terms.rule)
    match s.obligations.first fun o => o.referral = terms.referral ∧ o.kind = kind ∧ o.sourceEventId = pk with
    | some (existing, _) => pure (s, some existing)
    | none =>
      let obligation ← percentObligation kind pk terms rate
      pure ({ s with obligations := s.obligations.insert obligation }, some s.obligations.next)

def accountUser (account : ℕ) : Option ℕ := (s.books.accounts.get account).bind TradingAccount.user

def enrollmentBasis (e : ChallengeEnrollment) : Option Basis :=
  if e.deposit.isNone then none else e.user.map fun user => ⟨user, e.enrolledAt, e.priceUsd.value⟩

def depositBasis (d : Deposit) : Option Basis :=
  if d.credited = false ∨ d.challengeProduct.isSome then none
  else d.user.map fun user => ⟨user, d.creditedAt.getD d.createdAt, d.amountUsd.value⟩

/-- Both revenue shares refuse rows of another type, without an economic date, or without a positive amount. -/
def revenueBasis (revenueType : RevenueType) (row : BrokerLedgerRow) : Option Basis :=
  if row.revenueType ≠ revenueType ∨ row.economicDate.isNone ∨ row.amount.units ≤ 0 then none
  else (row.sourceAccount.bind (accountUser s)).map fun user => ⟨user, row.createdAt, row.amount.value⟩

def generatePerLotObligation (pk : ℕ) : Except TriggerError (Sources × Option ℕ) := do
  let event ← require (s.books.events.get pk) (.doesNotExist "LotExecutionEvent" pk)
  let generated ← (Accruals.generatePerLotObligation s.books pk event).mapError .accrual
  pure ({ s with books := generated.1 }, generated.2)

def generateChallengePercentObligation (pk : ℕ) : Except TriggerError (Sources × Option ℕ) := do
  let enrollment ← require (s.enrollments.get pk) (.doesNotExist "ChallengeEnrollment" pk)
  generatePercentObligation s .challengePercent pk (enrollmentBasis enrollment)

def generateDepositPercentObligation (pk : ℕ) : Except TriggerError (Sources × Option ℕ) := do
  let deposit ← require (s.deposits.get pk) (.doesNotExist "Deposit" pk)
  generatePercentObligation s .depositPercent pk (depositBasis deposit)

def generateTradingCommissionRevenueShareObligation (pk : ℕ) : Except TriggerError (Sources × Option ℕ) := do
  let row ← require (s.brokerLedger.get pk) (.doesNotExist "BrokerLedger" pk)
  generatePercentObligation s .tradingCommissionRevenueShare pk (revenueBasis s .commission row)

def generateSpreadRevenueShareObligation (pk : ℕ) : Except TriggerError (Sources × Option ℕ) := do
  let row ← require (s.brokerLedger.get pk) (.doesNotExist "BrokerLedger" pk)
  generatePercentObligation s .spreadRevenueShare pk (revenueBasis s .spread row)

def generate : Kind → ℕ → Except TriggerError (Sources × Option ℕ)
  | .perLot => generatePerLotObligation s
  | .percent .challengePercent => generateChallengePercentObligation s
  | .percent .depositPercent => generateDepositPercentObligation s
  | .percent .tradingCommissionRevenueShare => generateTradingCommissionRevenueShareObligation s
  | .percent .spreadRevenueShare => generateSpreadRevenueShareObligation s

end Generators

section Windows

def secondsPerDay : ℤ := 86400

def alreadyObligated (s : Sources) : Kind → ℕ → Bool
  | .perLot, pk => s.books.obligations.exists? fun o => o.sourceEventType = .perLotExecution ∧ o.sourceEventId = pk
  | .percent kind, pk => s.obligations.exists? fun o => o.kind = kind ∧ o.sourceEventId = pk

/-- A row without an economic date is never in the window. -/
def inRevenueWindow (cutoff : ℤ) (revenueType : RevenueType) (row : BrokerLedgerRow) : Bool :=
  row.revenueType = revenueType ∧ cutoff ≤ row.createdAt ∧
    ∃ date ∈ row.economicDate, cutoff / secondsPerDay ≤ date

def selectKeys {α : Type} (t : Table α) (p : α → Bool) : List ℕ := (t.rows.filter fun r => p r.2).map Prod.fst

def window (s : Sources) (cutoff : ℤ) : Kind → List ℕ
  | .perLot => selectKeys s.books.events fun e => cutoff ≤ e.createdAt
  | .percent .challengePercent => selectKeys s.enrollments fun e => cutoff ≤ e.enrolledAt
  | .percent .depositPercent => selectKeys s.deposits fun d =>
    d.credited = true ∧ d.challengeProduct = none ∧ ∃ t ∈ d.creditedAt, cutoff ≤ t
  | .percent .tradingCommissionRevenueShare => selectKeys s.brokerLedger (inRevenueWindow cutoff .commission)
  | .percent .spreadRevenueShare => selectKeys s.brokerLedger (inRevenueWindow cutoff .spread)

def trigger (kind : Kind) (s : Sources) (pk : ℕ) : Except TriggerError Sources :=
  if alreadyObligated s kind pk then .ok s else (generate s kind pk).map Prod.fst

def batch (s : Sources) (kind : Kind) (cutoff : ℤ) (batchSize : ℕ) : List ℕ := (window s cutoff kind).take batchSize

def sweepTriggers (s : Sources) (kind : Kind) (cutoff : ℤ) (batchSize : ℕ) : Sources :=
  sweep (trigger kind) s (batch s kind cutoff batchSize)

def hasReceipt (s : Sources) (pk : ℕ) : Bool := s.books.executions.exists? fun x => x.event = pk

def firstBudget (s : Sources) : Option ℤ :=
  ((s.books.rules.rows.filter fun r => r.2.ruleType = .subIbBudget).map fun r => r.2.effectiveFrom).min?

/-- `reached` is how many executions the run comes to before its deadline. -/
def networkBatch (s : Sources) (batchSize reached : ℕ) : List ℕ :=
  match firstBudget s with
  | none => []
  | some first =>
    (((selectKeys s.books.events fun e => first ≤ e.createdAt).filter fun pk => hasReceipt s pk = false).take
      batchSize).take reached

def processExecution (s : Sources) (pk : ℕ) : Except TriggerError Sources :=
  match Accruals.processExecution s.books pk with
  | .ok (books, _) => .ok { s with books }
  | .error e => .error (.accrual e)

def sweepNetwork (s : Sources) (batchSize reached : ℕ) : Sources :=
  sweep processExecution s (networkBatch s batchSize reached)

end Windows

inductive Act
  | wait (seconds : ℕ)
  | network (action : Links.Action)
  | addRule (rule : Rule) (percentage : Option Percentage)
  | changeRule (rule : ℕ) (changed : Rule) (percentage : Option Percentage)
  | openAccount (account : TradingAccount)
  | execute (event : LotExecutionEvent)
  | enroll (enrollment : ChallengeEnrollment)
  | requestDeposit (deposit : Deposit)
  | creditDeposit (deposit : ℕ)
  | bookRevenue (row : BrokerLedgerRow)
  | sweep (kind : Kind) (cutoff : ℤ) (batchSize : ℕ)
  | sweepNetwork (batchSize reached : ℕ)

def creditDeposit (now : ℤ) (d : Deposit) : Deposit :=
  if d.credited then d else { d with credited := true, creditedAt := some now }

def requestDeposit (s : Sources) (d : Deposit) : Sources :=
  let requested : Deposit := { d with credited := false, creditedAt := none, createdAt := s.now }
  { s with deposits := s.deposits.insert requested }

def step (s : Sources) : Act → Sources
  | .wait seconds => { s with now := s.now + seconds }
  | .network action => { s with books := { s.books with network := Links.step s.books.network action } }
  | .addRule rule percentage =>
    { s with
      books := { s.books with rules := s.books.rules.insert rule }
      percentages := Function.update s.percentages s.books.rules.next percentage }
  | .changeRule rule changed percentage =>
    { s with
      books := { s.books with rules := s.books.rules.update rule fun _ => changed }
      percentages := Function.update s.percentages rule percentage }
  | .openAccount account => { s with books := { s.books with accounts := s.books.accounts.insert account } }
  | .execute event =>
    let stamped : LotExecutionEvent := { event with createdAt := s.now }
    { s with books := { s.books with events := s.books.events.insert stamped } }
  | .enroll enrollment =>
    let stamped : ChallengeEnrollment := { enrollment with enrolledAt := s.now }
    { s with enrollments := s.enrollments.insert stamped }
  | .requestDeposit deposit => requestDeposit s deposit
  | .creditDeposit deposit => { s with deposits := s.deposits.update deposit (creditDeposit s.now) }
  | .bookRevenue row =>
    let stamped : BrokerLedgerRow := { row with createdAt := s.now }
    { s with brokerLedger := s.brokerLedger.insert stamped }
  | .sweep kind cutoff batchSize => sweepTriggers s kind cutoff batchSize
  | .sweepNetwork batchSize reached => sweepNetwork s batchSize reached

/-- Nobody has traded yet; the introducers, the rules and the accounts are as they may be. -/
def opened (now : ℤ) (network : Network) (rules : Table Rule) (percentages : ℕ → Option Percentage)
    (accounts : Table TradingAccount) : Sources where
  now := now
  books := fresh network rules accounts Table.empty
  percentages := percentages
  enrollments := Table.empty
  deposits := Table.empty
  brokerLedger := Table.empty
  obligations := Table.empty

end TrxSimulator.IBNetwork.Triggers
