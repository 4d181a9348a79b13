import TrxSimulator.Foundations.Texts
import TrxSimulator.ProviderCosts.Posting

/-! Economic adjustments of the broker: each call appends one row to the broker ledger and the adjustment
that explains it, or finds that its key was used before. -/

namespace TrxSimulator.Adjustments.Posting

open Foundations.Tables Foundations.Outcomes Foundations.Decimals Foundations.Texts Money
open ProviderCosts.Posting (RevenueType)

structure AdjustmentMeta where
  adjustmentReference : String
  sourceLedgerId : Option ℕ
  reversesReference : Option String
deriving DecidableEq

structure BrokerLedgerRow where
  revenueType : RevenueType
  amount : Amount
  sourceAccount : Option ℕ
  symbol : Option String
  info : Option AdjustmentMeta
deriving DecidableEq

structure BrokerEconomicAdjustment where
  reference : String
  amount : Amount
  reason : String
  actor : ℕ
  idempotencyKey : String
  sourceLedger : Option ℕ
  sourceAccount : Option ℕ
  symbol : Option String
  reverses : Option ℕ
  createdLedgerEntry : ℕ
  info : String
deriving DecidableEq

structure AuditDetail where
  reference : String
  actorId : ℕ
  amount : Amount
  reason : String
  sourceLedgerId : Option ℕ
  sourceAccountId : Option ℕ
  reversesId : Option ℕ
  createdLedgerEntryId : ℕ
deriving DecidableEq

structure Book where
  ledger : Table BrokerLedgerRow
  adjustments : Table BrokerEconomicAdjustment
  audits : Table AuditDetail

inductive AdjustmentError
  | invalidAmount | zeroAmount | amountRequired | reasonRequired | actorNotPersisted | idempotencyKeyRequired
  | sourceLedgerDoesNotExist (pk : ℕ)
  | sourceAccountDoesNotExist (pk : ℕ)
  | reversesDoesNotExist
  | isReversal (reference : String)
  | alreadyReversed (reference : String)
  | notExactNegative (reference : String) (target : Amount) (amount : ℚ)
  | numericOverflow (column : String) (value : ℚ)
  | integrityError (constraint : String)
  | permissionDenied | invalidTotp
deriving DecidableEq

/-- An amount as it is given; a text that `Decimal` cannot read is unreadable. -/
inductive GivenAmount
  | missing | unreadable
  | value (x : ℚ)

def GivenAmount.read : GivenAmount → Option ℚ
  | .value x => some x
  | _ => none

structure Request where
  amount : GivenAmount
  reason : String
  actor : Option ℕ
  idempotencyKey : String
  sourceLedger : Option ℕ
  sourceAccount : Option ℕ
  symbol : Option String
  reverses : Option ℕ
  info : String

section Service

def blank (s : String) : Bool := strip s = ""

def byKey (key : String) (a : BrokerEconomicAdjustment) : Bool := a.idempotencyKey = key

def reversedBy (pk : ℕ) (a : BrokerEconomicAdjustment) : Bool := a.reverses = some pk

def validate (r : Request) : Except AdjustmentError (ℚ × ℕ) := do
  let amount ← require r.amount.read .invalidAmount
  if amount = 0 then .error .zeroAmount
  else if blank r.reason then .error .reasonRequired
  else do
    let actor ← require r.actor .actorNotPersisted
    if blank r.idempotencyKey then .error .idempotencyKeyRequired
    else pure (amount, actor)

def checkSource (s : Book) : Option ℕ → Except AdjustmentError Unit
  | none => .ok ()
  | some pk => if (s.ledger.get pk).isNone then .error (.sourceLedgerDoesNotExist pk) else .ok ()

def checkReverses (s : Book) (amount : ℚ) : Option ℕ → Except AdjustmentError (Option String)
  | none => .ok none
  | some pk => do
    let target ← require (s.adjustments.get pk) .reversesDoesNotExist
    if target.reverses.isSome then .error (.isReversal target.reference)
    else if s.adjustments.exists? (reversedBy pk) then .error (.alreadyReversed target.reference)
    else if amount ≠ negate target.amount.value then
      .error (.notExactNegative target.reference target.amount amount)
    else pure (some target.reference)

def insertAdjustment (s : Book) (a : BrokerEconomicAdjustment) : Except AdjustmentError Book :=
  if a.amount.units = 0 then .error (.integrityError "broker_economic_adjustment_amount_nonzero")
  else if a.reverses = some s.adjustments.next then
    .error (.integrityError "broker_economic_adjustment_no_self_reversal")
  else if s.adjustments.exists? fun b => b.reference = a.reference then .error (.integrityError "reference")
  else if s.adjustments.exists? (byKey a.idempotencyKey) then .error (.integrityError "idempotency_key")
  else if a.reverses.any fun pk => s.adjustments.exists? (reversedBy pk) then .error (.integrityError "reverses_id")
  else if s.adjustments.exists? fun b => b.createdLedgerEntry = a.createdLedgerEntry then
    .error (.integrityError "created_ledger_entry_id")
  else .ok { s with adjustments := s.adjustments.insert a }

/-- The call, with the reference it draws: the book after it and the adjustment that it returns. -/
def createBrokerEconomicAdjustment (s : Book) (reference : String) (r : Request) :
    Except AdjustmentError (Book × ℕ) := do
  let valid ← validate r
  match s.adjustments.latest (byKey r.idempotencyKey) with
  | some (existing, _) => pure (s, existing)
  | none => do
    checkSource s r.sourceLedger
    let reversesReference ← checkReverses s valid.1 r.reverses
    let amount ← require (store 18 2 valid.1) (.numericOverflow "amount" valid.1)
    let ledger := s.ledger.insert
      { revenueType := .adjustment, amount := amount, sourceAccount := r.sourceAccount, symbol := r.symbol,
        info := some ⟨reference, r.sourceLedger, reversesReference⟩ }
    let created ← insertAdjustment { s with ledger := ledger }
      { reference := reference, amount := amount, reason := r.reason, actor := valid.2,
        idempotencyKey := r.idempotencyKey, sourceLedger := r.sourceLedger, sourceAccount := r.sourceAccount,
        symbol := r.symbol, reverses := r.reverses, createdLedgerEntry := s.ledger.next, info := r.info }
    pure (created, s.adjustments.next)

end Service

section Owner

/-- Who may call, and which trading accounts there are. -/
structure Gate where
  isOwnerRoot : ℕ → Bool
  verifyTotp : ℕ → String → Bool
  tradingAccount : ℕ → Bool

def ownerAmount (s : Book) (r : Request) : Except AdjustmentError ℚ :=
  match r.reverses with
  | some pk => do
    let target ← require (s.adjustments.get pk) .reversesDoesNotExist
    pure (negate target.amount.value)
  | none =>
    match r.amount with
    | .missing => .error .amountRequired
    | .unreadable => .error .invalidAmount
    | .value amount => if amount = 0 then .error .zeroAmount else .ok amount

def auditDetail (adjustment : BrokerEconomicAdjustment) (actor : ℕ) (r : Request) : AuditDetail where
  reference := adjustment.reference
  actorId := actor
  amount := adjustment.amount
  reason := r.reason
  sourceLedgerId := r.sourceLedger
  sourceAccountId := r.sourceAccount
  reversesId := r.reverses
  createdLedgerEntryId := adjustment.createdLedgerEntry

def ownerBrokerEconomicAdjustment (gate : Gate) (s : Book) (reference : String) (actor : ℕ) (totpCode : String)
    (r : Request) : Except AdjustmentError (Book × ℕ) :=
  if gate.isOwnerRoot actor = false then .error .permissionDenied
  else if blank r.reason then .error .reasonRequired
  else if blank r.idempotencyKey then .error .idempotencyKeyRequired
  else do
    let amount ← ownerAmount s r
    checkSource s r.sourceLedger
    if r.sourceAccount.any fun pk => gate.tradingAccount pk = false then
      .error (.sourceAccountDoesNotExist (r.sourceAccount.getD 0))
    else if gate.verifyTotp actor totpCode = false then .error .invalidTotp
    else do
      let wasAlreadyRecorded := s.adjustments.exists? (byKey r.idempotencyKey)
      let created ← createBrokerEconomicAdjustment s reference { r with amount := .value amount, actor := some actor }
      let adjustment ← require (created.1.adjustments.get created.2) .reversesDoesNotExist
      if wasAlreadyRecorded then pure created
      else pure ({ created.1 with audits := created.1.audits.insert (auditDetail adjustment actor r) }, created.2)

end Owner

/-- The other writers of the broker ledger, none of which writes a row of type `adjustment`. -/
def otherRow (s : Book) (row : BrokerLedgerRow) : Book :=
  if row.revenueType = .adjustment then s else { s with ledger := s.ledger.insert row }

inductive Action
  | create (reference : String) (r : Request)
  | ownerCreate (reference : String) (actor : ℕ) (totpCode : String) (r : Request)
  | otherRow (row : BrokerLedgerRow)

def step (gate : Gate) (s : Book) : Action → Book
  | .create reference r => commit s ((createBrokerEconomicAdjustment s reference r).map Prod.fst)
  | .ownerCreate reference actor totpCode r =>
    commit s ((ownerBrokerEconomicAdjustment gate s reference actor totpCode r).map Prod.fst)
  | .otherRow row => otherRow s row

def opened : Book where
  ledger := .empty
  adjustments := .empty
  audits := .empty

def ledgerTotal (s : Book) : ℤ :=
  s.ledger.total fun _ row => if row.revenueType = .adjustment then row.amount.units else 0

/-- An adjustment in force: no reversal, and not reversed. -/
def inForce (s : Book) (pk : ℕ) (a : BrokerEconomicAdjustment) : Bool :=
  a.reverses = none ∧ s.adjustments.exists? (reversedBy pk) = false

def inForceTotal (s : Book) : ℤ := s.adjustments.total fun pk a => if inForce s pk a then a.amount.units else 0

end TrxSimulator.Adjustments.Posting
