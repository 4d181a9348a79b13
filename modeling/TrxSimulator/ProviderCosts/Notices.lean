import TrxSimulator.Foundations.Runs
import TrxSimulator.Foundations.Texts
import TrxSimulator.ProviderCosts.Posting

/-! From a signed notice to the broker ledger: the notice is kept in the inbox, the fields of its fee object
become cost records under a fingerprint of their content, and the final ones are posted. -/

namespace TrxSimulator.ProviderCosts.Notices

open Foundations.Tables Foundations.Outcomes Foundations.Decimals Foundations.Runs Foundations.Texts Money Posting

/-- A Python `Decimal`. Its text is a function of these parts and gives them back. -/
inductive Decimal
  | finite (negative : Bool) (digits : ℕ) (exponent : ℤ)
  | special (text : String)
deriving DecidableEq

def Decimal.value? : Decimal → Option ℚ
  | .finite negative digits exponent => some ((if negative then -1 else 1) * digits * 10 ^ exponent)
  | .special _ => none

/-- A field of a fee object, as `Decimal(str(raw_value))` finds it. -/
inductive RawFee
  | missing
  | unreadable
  | decimal (amount : Decimal)
deriving DecidableEq

def parseDecimal : RawFee → Option Decimal
  | .decimal amount => some amount
  | _ => none

structure FeeObject where
  currency : String
  serviceFee : RawFee
  depositFee : RawFee
  withdrawalFee : RawFee
deriving DecidableEq

inductive OperationType
  | deposit | withdrawal
deriving DecidableEq

def OperationType.text : OperationType → String
  | .deposit => "DEPOSIT"
  | .withdrawal => "WITHDRAWAL"

inductive CostType
  | providerService | network
deriving DecidableEq

def CostType.text : CostType → String
  | .providerService => "PROVIDER_SERVICE"
  | .network => "NETWORK"

inductive RawFeeField
  | serviceFee | depositFee | withdrawalFee
deriving DecidableEq

def FeeObject.get (fee : FeeObject) : RawFeeField → RawFee
  | .serviceFee => fee.serviceFee
  | .depositFee => fee.depositFee
  | .withdrawalFee => fee.withdrawalFee

def feeFieldMap : List (RawFeeField × CostType) :=
  [(.serviceFee, .providerService), (.depositFee, .network), (.withdrawalFee, .network)]

/-- A notice of a payment or a payout. Two notices are equal exactly when their fingerprints are; `rest` is
what the payload holds beside the fee object. -/
structure Notice where
  operationType : OperationType
  reference : String
  status : String
  fee : Option FeeObject
  rest : String
deriving DecidableEq

def terminalPaymentStatuses : List String := ["finished", "confirmed", "failed", "expired", "refunded"]

def terminalPayoutStatuses : List String := ["FINISHED", "FAILED"]

def Notice.isFinal (n : Notice) : Bool :=
  match n.operationType with
  | .deposit => (strip n.status).toLower ∈ terminalPaymentStatuses
  | .withdrawal => (strip n.status).toUpper ∈ terminalPayoutStatuses

structure WebhookEvent where
  notice : Notice
  receivedAt : ℕ

structure ProviderCostCandidate where
  operationType : OperationType
  costType : CostType
  providerReference : String
  amount : Decimal
  currency : String
  usdValue : Option Decimal
  quality : Quality
  isFinal : Bool
  occurredAt : ℕ
  rawFeeField : RawFeeField

def feeCurrency (fee : FeeObject) : String := (strip fee.currency).toLower

def normalizeField (e : WebhookEvent) (fee : FeeObject) (p : RawFeeField × CostType) :
    Option ProviderCostCandidate :=
  (parseDecimal (fee.get p.1)).map fun amount =>
    { operationType := e.notice.operationType, costType := p.2, providerReference := e.notice.reference,
      amount := amount, currency := feeCurrency fee,
      usdValue := if feeCurrency fee = "usd" then some amount else none,
      quality := .actual, isFinal := e.notice.isFinal, occurredAt := e.receivedAt, rawFeeField := p.1 }

def normalizeCost (e : WebhookEvent) : List ProviderCostCandidate :=
  match e.notice.fee with
  | none => []
  | some fee => feeFieldMap.filterMap (normalizeField e fee)

structure CostFingerprint where
  provider : String
  operationType : OperationType
  costType : CostType
  providerReference : String
  amount : Decimal
  currency : String
  usdValue : Option Decimal
  quality : Quality
  isFinal : Bool
  occurredAt : ℕ
  corrects : Option ℕ
deriving DecidableEq

def computeFingerprint (c : ProviderCostCandidate) : CostFingerprint where
  provider := "nowpayments"
  operationType := c.operationType
  costType := c.costType
  providerReference := c.providerReference
  amount := c.amount
  currency := c.currency
  usdValue := c.usdValue
  quality := c.quality
  isFinal := c.isFinal
  occurredAt := c.occurredAt
  corrects := none

structure CostRow where
  record : ProviderCostRecord
  fingerprint : CostFingerprint

def storedUsd : Option Decimal → Option (Option Usd)
  | none => some none
  | some amount => (amount.value?.bind (store 14 2)).map some

/-- The row of a candidate, when its amounts fit their columns. -/
def recordOf (c : ProviderCostCandidate) : Option ProviderCostRecord := do
  let amount ← c.amount.value?.bind (store 24 10)
  let usdValue ← storedUsd c.usdValue
  pure { provider := "nowpayments", operationType := c.operationType.text, costType := c.costType.text,
         providerReference := c.providerReference, amount := amount, currency := c.currency,
         usdValue := usdValue, quality := c.quality, isFinal := c.isFinal, occurredAt := c.occurredAt,
         corrects := none }

/-- A cost record in memory: one just created still holds the value it was created with. -/
structure Captured where
  pk : ℕ
  record : ProviderCostRecord
  usdValue : Option ℚ

def sameEvidence (c : ProviderCostCandidate) (row : CostRow) : Bool := row.fingerprint = computeFingerprint c

def captureProviderCostCandidate (costs : Table CostRow) (c : ProviderCostCandidate) :
    Option (Table CostRow × Captured) :=
  match costs.first (sameEvidence c) with
  | some (pk, row) => some (costs, ⟨pk, row.record, row.record.usdValue.map Numeric.value⟩)
  | none => (recordOf c).map fun record =>
      (costs.insert ⟨record, computeFingerprint c⟩, ⟨costs.next, record, c.usdValue.bind Decimal.value?⟩)

/-- `record_provider_cost_revenue` on a record in memory that corrects no other. -/
def recordRevenue (l : BrokerLedger) (x : Captured) : Except CostError BrokerLedger :=
  if x.record.quality ≠ .actual then .ok l
  else if x.record.isFinal = false then .ok l
  else match x.usdValue with
    | none => .ok l
    | some usdValue =>
      if negate usdValue = 0 then .ok l
      else bookCost l x.pk (negate usdValue) (costMeta x.pk x.record none)

lemma recordRevenue_loaded (l : BrokerLedger) (pk : ℕ) (record : ProviderCostRecord) (h : record.corrects = none) :
    recordRevenue l ⟨pk, record, record.usdValue.map Numeric.value⟩ = recordProviderCostRevenue l pk record := by
  rw [recordRevenue, recordProviderCostRevenue, originalRow, h, Option.bind_none]
  cases record.usdValue <;> rfl

structure State where
  events : Table WebhookEvent
  costs : Table CostRow
  ledger : BrokerLedger

def State.initial : State := ⟨Table.empty, Table.empty, Table.empty⟩

/-- What fails in one delivery. A process that dies fails at everything after the point it dies at. -/
structure Faults where
  event : Bool
  capture : RawFeeField → Bool
  post : RawFeeField → Bool

def Faults.none : Faults := ⟨false, fun _ => false, fun _ => false⟩

def Faults.clear (f : Faults) : Bool :=
  f.event = false ∧ feeFieldMap.all fun field => f.capture field.1 = false ∧ f.post field.1 = false

/-- One round of the loop over the candidates, and whether the loop goes on. A capture that fails gives no
record and is passed over; an error of the posting leaves the loop. -/
def processCandidate (f : Faults) (s : State) (c : ProviderCostCandidate) : State × Bool :=
  if f.capture c.rawFeeField then (s, true)
  else match captureProviderCostCandidate s.costs c with
    | none => (s, true)
    | some (costs, x) =>
      if f.post c.rawFeeField then ({ s with costs := costs }, false)
      else match recordRevenue s.ledger x with
        | .ok ledger => ({ s with costs := costs, ledger := ledger }, true)
        | .error _ => ({ s with costs := costs }, false)

def processCandidates (f : Faults) : State → List ProviderCostCandidate → State
  | s, [] => s
  | s, c :: cs =>
    if (processCandidate f s c).2 then processCandidates f (processCandidate f s c).1 cs
    else (processCandidate f s c).1

def sameNotice (n : Notice) (e : WebhookEvent) : Bool := e.notice = n

def captureEvent (events : Table WebhookEvent) (n : Notice) (now : ℕ) : Table WebhookEvent × WebhookEvent :=
  match events.first (sameNotice n) with
  | some (_, e) => (events, e)
  | none => (events.insert ⟨n, now⟩, ⟨n, now⟩)

structure Delivery where
  notice : Notice
  now : ℕ
  faults : Faults

def deliver (s : State) (d : Delivery) : State :=
  if d.faults.event then s
  else processCandidates d.faults { s with events := (captureEvent s.events d.notice d.now).1 }
    (normalizeCost (captureEvent s.events d.notice d.now).2)

end TrxSimulator.ProviderCosts.Notices
