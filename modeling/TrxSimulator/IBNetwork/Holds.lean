import TrxSimulator.Treasury.Machine
import TrxSimulator.IBNetwork.Generated

/-! Freezes of introducers and holds of obligations, beside everything that they are to stop: the generators, which
read the introducer and insert later, the network, the approval and the link to the treasury. -/

namespace TrxSimulator.IBNetwork.Holds

open Foundations.Tables Foundations.Outcomes Foundations.Runs Foundations.Texts Accounts
open Commissions.Settlement (Program Referral RiskStatus CommissionError)
open Links (Network)
open Accruals (RuleType)
open Triggers (Sources Kind TriggerError)
open Treasury.Requests (Office TreasuryError)

inductive EventType
  | frozen | unfrozen | obligationHeld | obligationReleased
deriving DecidableEq

structure RiskEvent where
  eventType : EventType
  referral : ℕ
  obligation : Option ℕ
  actor : ℕ
  reason : String
deriving DecidableEq

/-- `frozen_at`, `frozen_by` and `frozen_reason`, or the same of a hold. -/
structure Episode where
  startedAt : ℤ
  actor : ℕ
  reason : String
deriving DecidableEq

/-- A generator that has read the referral, with the introducers as they then were. -/
structure Call where
  kind : Kind
  source : ℕ
  seen : Network

/-- An obligation has two sides: `sources` has the columns that its generator writes, `obligations` the columns of
its settlement. -/
structure Desk where
  sources : Sources
  office : Office
  obligations : Table Commissions.Settlement.Obligation
  adjustments : Table Commissions.Settlement.Adjustment
  frozen : ℕ → Option Episode
  held : ℕ → Option Episode
  riskEvents : Table RiskEvent
  calls : Table (Option Call)

inductive RiskError
  | treasury (e : TreasuryError)
  | reasonRequired
  | doesNotExist (model : String) (pk : ℕ)
  | referralAlreadyFrozen (referral : ℕ)
  | referralNotFrozen (referral : ℕ)
  | obligationAlreadyHeld (obligation : ℕ)
  | obligationNotHeld (obligation : ℕ)
deriving DecidableEq

def network (s : Desk) : Network := s.sources.books.network

def withNetwork (s : Sources) (n : Network) : Sources := { s with books := { s.books with network := n } }

section Staff

variable (s : Desk)

def requireReviewPermission (user : ℕ) : Except RiskError Unit :=
  (Treasury.Requests.authorize s.office user .review).mapError .treasury

def requireReason (reason : String) : Except RiskError String :=
  if strip reason = "" then .error .reasonRequired else .ok (strip reason)

def setRisk (referral : ℕ) (riskStatus : RiskStatus) (episode : Option Episode) : Desk :=
  { s with
    sources := withNetwork s.sources (Links.setRisk (network s) referral riskStatus)
    frozen := Function.update s.frozen referral episode }

def setHeld (obligation : ℕ) (isHeld : Bool) (episode : Option Episode) : Desk :=
  { s with
    obligations := s.obligations.update obligation fun o => { o with isHeld := isHeld }
    held := Function.update s.held obligation episode }

def record (event : RiskEvent) : Desk := { s with riskEvents := s.riskEvents.insert event }

def freezeReferral (user referral : ℕ) (reason : String) (now : ℤ) : Except RiskError Desk := do
  let _ ← requireReviewPermission s user
  let reason ← requireReason reason
  let locked ← require ((network s).referrals.get referral) (.doesNotExist "Referral" referral)
  if locked.riskStatus = .frozen then .error (.referralAlreadyFrozen referral)
  else pure (record (setRisk s referral .frozen (some ⟨now, user, reason⟩)) ⟨.frozen, referral, none, user, reason⟩)

def unfreezeReferral (user referral : ℕ) (reason : String) : Except RiskError Desk := do
  let _ ← requireReviewPermission s user
  let reason ← requireReason reason
  let locked ← require ((network s).referrals.get referral) (.doesNotExist "Referral" referral)
  if locked.riskStatus ≠ .frozen then .error (.referralNotFrozen referral)
  else pure (record (setRisk s referral .active none) ⟨.unfrozen, referral, none, user, reason⟩)

def holdObligation (user obligation : ℕ) (reason : String) (now : ℤ) : Except RiskError Desk := do
  let _ ← requireReviewPermission s user
  let reason ← requireReason reason
  let locked ← require (s.obligations.get obligation) (.doesNotExist "IBCommissionObligation" obligation)
  if locked.isHeld = true then .error (.obligationAlreadyHeld obligation)
  else pure (record (setHeld s obligation true (some ⟨now, user, reason⟩))
    ⟨.obligationHeld, locked.referral, some obligation, user, reason⟩)

def releaseObligation (user obligation : ℕ) (reason : String) : Except RiskError Desk := do
  let _ ← requireReviewPermission s user
  let reason ← requireReason reason
  let locked ← require (s.obligations.get obligation) (.doesNotExist "IBCommissionObligation" obligation)
  if locked.isHeld = false then .error (.obligationNotHeld obligation)
  else pure (record (setHeld s obligation false none)
    ⟨.obligationReleased, locked.referral, some obligation, user, reason⟩)

end Staff

section Rows

def RuleType.value : RuleType → String
  | .subIbPerLot => "SUB_IB_PER_LOT"
  | .subIbBudget => "SUB_IB_BUDGET"
  | .perLot => "PER_LOT"
  | .challengePercent => "CHALLENGE_PERCENT"
  | .depositPercent => "DEPOSIT_PERCENT"
  | .spreadRevenueShare => "SPREAD_REVENUE_SHARE"
  | .tradingCommissionRevenueShare => "TRADING_COMMISSION_REVENUE_SHARE"
  | .cpaBonus => "CPA_BONUS"

/-- The rates have a check constraint and the bases are amounts paid, so that no amount is negative. -/
def pendingRow (referral : ℕ) (ruleType : RuleType) (amount : Balance) : Option Commissions.Settlement.Obligation :=
  if h : 0 ≤ amount.units then
    some { referral := referral, ruleType := RuleType.value ruleType, calculatedAmount := amount, nonneg := h,
           status := .pending, approvedBy := none, treasuryOperation := none, isHeld := false }
  else none

def posted (s s' : Sources) : List Commissions.Settlement.Obligation :=
  ((Table.since s.books.obligations s'.books.obligations).filterMap fun o =>
    pendingRow o.referral o.ruleType o.calculatedAmount) ++
  (Table.since s.obligations s'.obligations).filterMap fun o =>
    pendingRow o.referral o.kind.ruleType o.calculatedAmount

def book (s : Desk) (after : Sources) : Desk :=
  { s with sources := after, obligations := s.obligations.insertAll (posted s.sources after) }

end Rows

def sourceUser (s : Sources) : Kind → ℕ → Option ℕ
  | .perLot, pk => (s.books.events.get pk).bind fun e => Triggers.accountUser s e.account
  | .percent .challengePercent, pk => (s.enrollments.get pk).bind Triggers.ChallengeEnrollment.user
  | .percent .depositPercent, pk => (s.deposits.get pk).bind Triggers.Deposit.user
  | .percent .tradingCommissionRevenueShare, pk | .percent .spreadRevenueShare, pk =>
    (s.brokerLedger.get pk).bind fun row => row.sourceAccount.bind (Triggers.accountUser s)

/-- The introducer of the user behind the source. -/
def introducer (s : Sources) (kind : Kind) (pk : ℕ) : Option ℕ :=
  (sourceUser s kind pk).bind fun user =>
    (s.books.network.attributions.first fun a => a.referredUser = user).map fun r => r.2.referral

/-- The rest of a generator: everything is read as it is now, but for the introducers. -/
def generate (s : Desk) (call : ℕ) : Desk :=
  match (s.calls.get call).join with
  | none => s
  | some c =>
    let s := { s with calls := s.calls.update call fun _ => none }
    commit s ((Triggers.generate (withNetwork s.sources c.seen) c.kind c.source).map fun r =>
      book s (withNetwork r.1 (network s)))

def program (s : Desk) : Program where
  office := s.office
  referrals := (network s).referrals
  obligations := s.obligations
  adjustments := s.adjustments

def settle (s : Desk) (p : Program) : Desk :=
  { s with office := p.office, obligations := p.obligations, adjustments := p.adjustments }

inductive Action
  | freezeReferral (user referral : ℕ) (reason : String) (now : ℤ)
  | unfreezeReferral (user referral : ℕ) (reason : String)
  | holdObligation (user obligation : ℕ) (reason : String) (now : ℤ)
  | releaseObligation (user obligation : ℕ) (reason : String)
  | readReferral (kind : Kind) (source : ℕ)
  | generate (call : ℕ)
  | processExecution (event : ℕ)
  | approveObligation (user obligation : ℕ)
  | linkTreasuryRequest (user obligation : ℕ)
  | syncObligationFromTreasury (obligation : ℕ)
  | treasury (action : Treasury.Machine.Action)
  | sources (act : Triggers.Act)

/-- What the rest of the program does to the sources: it runs no generator and freezes nobody. -/
def elsewhere : Triggers.Act → Bool
  | .sweep _ _ _ | .sweepNetwork _ _ | .network (.setRisk _ _) => false
  | _ => true

def step (s : Desk) : Action → Desk
  | .freezeReferral user referral reason now => commit s (freezeReferral s user referral reason now)
  | .unfreezeReferral user referral reason => commit s (unfreezeReferral s user referral reason)
  | .holdObligation user obligation reason now => commit s (holdObligation s user obligation reason now)
  | .releaseObligation user obligation reason => commit s (releaseObligation s user obligation reason)
  | .readReferral kind source => { s with calls := s.calls.insert (some ⟨kind, source, network s⟩) }
  | .generate call => generate s call
  | .processExecution event => commit s ((Triggers.processExecution s.sources event).map (book s))
  | .approveObligation user obligation =>
    commit s ((Commissions.Settlement.approveObligation (program s) user obligation).map (settle s))
  | .linkTreasuryRequest user obligation =>
    commit s ((Commissions.Settlement.linkTreasuryRequest (program s) user obligation).map fun r => settle s r.1)
  | .syncObligationFromTreasury obligation =>
    commit s ((Commissions.Settlement.syncObligationFromTreasury (program s) obligation).map fun r => settle s r.1)
  | .treasury action => { s with office := Treasury.Machine.step s.office action }
  | .sources act => if elsewhere act = true then { s with sources := Triggers.step s.sources act } else s

def isFrozen (n : Network) (referral : ℕ) : Bool := (n.referrals.get referral).any fun r => r.riskStatus = .frozen

def isHeld (s : Desk) (obligation : ℕ) : Bool :=
  (s.obligations.get obligation).any Commissions.Settlement.Obligation.isHeld

def isActive (n : Network) (referral : ℕ) : Bool := (n.referrals.get referral).any fun r => r.riskStatus = .active

/-- The introducer that a generator has found active is active when it inserts. -/
def Undisturbed (s : Desk) : Action → Prop
  | .generate call => ∀ c ∈ (s.calls.get call).join, ∀ r ∈ introducer (withNetwork s.sources c.seen) c.kind c.source,
      isActive c.seen r = true → isActive (network s) r = true
  | _ => True

/-- Nobody is frozen and nothing is held. -/
def opened (sources : Sources) (office : Office) (obligations : Table Commissions.Settlement.Obligation)
    (adjustments : Table Commissions.Settlement.Adjustment) : Desk where
  sources := withNetwork sources { sources.books.network with
    referrals := sources.books.network.referrals.updateWhere (fun _ => true) fun r => { r with riskStatus := .active } }
  office := office
  obligations := obligations.updateWhere (fun _ => true) fun o => { o with isHeld := false }
  adjustments := adjustments
  frozen _ := none
  held _ := none
  riskEvents := .empty
  calls := .empty

end TrxSimulator.IBNetwork.Holds
