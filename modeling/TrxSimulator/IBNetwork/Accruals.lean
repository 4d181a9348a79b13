import TrxSimulator.Accounts
import TrxSimulator.IBNetwork.Links

/-! Commissions of the introducers above the direct one. An execution is accrued once, level by level, out
of one budget; whole cents are posted as obligations and the rest of a cent is carried on. -/

namespace TrxSimulator.IBNetwork.Accruals

open Foundations.Tables Foundations.Decimals Foundations.Outcomes Foundations.Runs Money Accounts Links

inductive RuleType
  | subIbPerLot | subIbBudget | perLot | challengePercent | depositPercent | spreadRevenueShare
  | tradingCommissionRevenueShare | cpaBonus
deriving DecidableEq

structure Rule where
  ruleType : RuleType
  referral : Option ℕ
  enabled : Bool
  fixedAmount : Option Balance
  nonneg : ∀ amount, fixedAmount = some amount → 0 ≤ amount.units
  effectiveFrom : ℤ
  effectiveUntil : Option ℤ

/-- Orders below the smallest lot are refused before they are executed. -/
structure LotExecutionEvent where
  account : ℕ
  qty : Numeric 18 6
  nonneg : 0 ≤ qty.units
  createdAt : ℤ
deriving DecidableEq

inductive SourceEventType
  | perLotExecution | subIbAccrual
deriving DecidableEq

structure Obligation where
  attribution : ℕ
  referral : ℕ
  rule : ℕ
  ruleType : RuleType
  sourceEventType : SourceEventType
  sourceEventId : ℕ
  basisQuantity : Numeric 18 6
  appliedFixedRate : Option Balance
  calculatedAmount : Balance
deriving DecidableEq

structure Execution where
  event : ℕ
deriving DecidableEq

structure Accrual where
  execution : ℕ
  referral : ℕ
  rule : ℕ
  level : ℕ
  exactAmount : ℚ
  carryBefore : ℚ
  carryAfter : ℚ
  obligation : Option ℕ
deriving DecidableEq

structure Books where
  network : Network
  rules : Table Rule
  accounts : Table TradingAccount
  events : Table LotExecutionEvent
  executions : Table Execution
  carries : ℕ → Option ℚ
  accruals : Table Accrual
  obligations : Table Obligation

inductive AccrualError
  | network (e : NetworkError)
  | ambiguousRule (ruleType : RuleType) (referral : Option ℕ)
  | doesNotExist (model : String) (pk : ℕ)
  | fixedAmountMissing (rule : ℕ)
  | numericOverflow (amount : ℚ)
  | uniqueViolation (constraint : String)
deriving DecidableEq

section Rules

def Rule.activeAt (rule : Rule) (ruleType : RuleType) (referral : Option ℕ) (atTime : ℤ) : Bool :=
  rule.ruleType = ruleType ∧ rule.referral = referral ∧ rule.enabled = true ∧ rule.effectiveFrom ≤ atTime ∧
    ∀ t, rule.effectiveUntil = some t → atTime < t

def activeCandidates (s : Books) (ruleType : RuleType) (referral : Option ℕ) (atTime : ℤ) : List (ℕ × Rule) :=
  s.rules.rows.filter fun r => r.2.activeAt ruleType referral atTime

def resolveApplicableRule (s : Books) (referral : ℕ) (ruleType : RuleType) (atTime : ℤ) :
    Except AccrualError (Option (ℕ × Rule)) :=
  match activeCandidates s ruleType (some referral) atTime with
  | [rule] => .ok (some rule)
  | _ :: _ :: _ => .error (.ambiguousRule ruleType (some referral))
  | [] =>
    match activeCandidates s ruleType none atTime with
    | [rule] => .ok (some rule)
    | _ :: _ :: _ => .error (.ambiguousRule ruleType none)
    | [] => .ok none

def rateAt (s : Books) (referral : ℕ) (ruleType : RuleType) (atTime : ℤ) : ℚ :=
  match resolveApplicableRule s referral ruleType atTime with
  | .ok (some (_, rule)) => rule.fixedAmount.elim 0 Numeric.value
  | _ => 0

end Rules

def isActive (s : Books) (referral : ℕ) : Bool :=
  (s.network.referrals.get referral).any fun r => r.riskStatus = .active

def attributionOf (s : Books) (event : LotExecutionEvent) : Option (ℕ × Attribution) :=
  match (s.accounts.get event.account).bind TradingAccount.user with
  | none => none
  | some user => s.network.attributions.first fun a => a.referredUser = user

def createObligation (s : Books) (obligation : Obligation) : Except AccrualError (Books × ℕ) :=
  if s.obligations.exists? fun o => o.referral = obligation.referral ∧ o.ruleType = obligation.ruleType ∧
      o.sourceEventType = obligation.sourceEventType ∧ o.sourceEventId = obligation.sourceEventId then
    .error (.uniqueViolation "ib_commission_one_obligation_per_event")
  else .ok ({ s with obligations := s.obligations.insert obligation }, s.obligations.next)

def generatePerLotObligation (s : Books) (pk : ℕ) (event : LotExecutionEvent) :
    Except AccrualError (Books × Option ℕ) := do
  let account ← require (s.accounts.get event.account) (.doesNotExist "TradingAccount" event.account)
  if account.accountType.withdrawable = false then pure (s, none)
  else match attributionOf s event with
  | none => pure (s, none)
  | some (attribution, a) =>
    if isActive s a.referral = false then pure (s, none)
    else match resolveApplicableRule s a.referral .perLot event.createdAt with
    | .error _ | .ok none => pure (s, none)
    | .ok (some (rule, r)) =>
      let rate ← require r.fixedAmount (.fixedAmountMissing rule)
      let amount := times event.qty.value rate.value
      let calculated ← require (store 12 2 (scaled 2 (quantize 2 amount))) (.numericOverflow amount)
      match s.obligations.first fun o => o.referral = a.referral ∧ o.ruleType = .perLot ∧
          o.sourceEventType = .perLotExecution ∧ o.sourceEventId = pk with
      | some (existing, _) => pure (s, some existing)
      | none =>
        let created ← createObligation s
          { attribution := attribution, referral := a.referral, rule := rule, ruleType := .perLot,
            sourceEventType := .perLotExecution, sourceEventId := pk, basisQuantity := event.qty,
            appliedFixedRate := some rate, calculatedAmount := calculated }
        pure (created.1, some created.2)

section Levels

variable (event : LotExecutionEvent) (attribution execution : ℕ)

def postCents (s : Books) (ancestor rule : ℕ) (cents : ℤ) : Except AccrualError (Books × Option ℕ) :=
  if cents = 0 then .ok (s, none)
  else do
    let calculated ← require (store 12 2 (divide cents 100)) (.numericOverflow cents)
    let created ← createObligation s
      { attribution := attribution, referral := ancestor, rule := rule, ruleType := .subIbPerLot,
        sourceEventType := .subIbAccrual, sourceEventId := execution, basisQuantity := event.qty,
        appliedFixedRate := none, calculatedAmount := calculated }
    pure (created.1, some created.2)

def createAccrual (s : Books) (accrual : Accrual) : Except AccrualError Books :=
  if s.accruals.exists? fun a => a.execution = accrual.execution ∧ a.referral = accrual.referral then
    .error (.uniqueViolation "ib_network_once_per_beneficiary")
  else .ok { s with accruals := s.accruals.insert accrual }

def carryOf (s : Books) (referral : ℕ) : ℚ := (s.carries referral).getD 0

def accrueAmount (s : Books) (ancestor level rule : ℕ) (amount : ℚ) : Except AccrualError Books := do
  let before := carryOf s ancestor
  let total := before + amount
  let cents := ⌊total * 100⌋
  let after := total - cents / 100
  let posted ← postCents event attribution execution s ancestor rule cents
  let accrued ← createAccrual posted.1 ⟨execution, ancestor, rule, level, amount, before, after, posted.2⟩
  pure { accrued with carries := Function.update accrued.carries ancestor (some after) }

def accrueLevel (s : Books) (remaining : ℚ) (ancestor level : ℕ) : Except AccrualError (Books × ℚ) :=
  if isActive s ancestor = false then .ok (s, remaining)
  else do
    match ← resolveApplicableRule s ancestor .subIbPerLot event.createdAt with
    | none => pure (s, remaining)
    | some (rule, r) =>
      match r.fixedAmount with
      | none => pure (s, remaining)
      | some rate =>
        let amount := min remaining (rate.value * event.qty.value / 2 ^ (level - 1))
        if amount ≤ 0 then pure (s, remaining)
        else
          let accrued ← accrueAmount event attribution execution s ancestor level rule amount
          pure (accrued, remaining - amount)

def accrueLevels (s : Books) (remaining : ℚ) : List (ℕ × ℕ) → Except AccrualError Books
  | [] => .ok s
  | (ancestor, level) :: rest => do
    let next ← accrueLevel event attribution execution s remaining ancestor level
    accrueLevels next.1 next.2 rest

end Levels

def processExecution (s : Books) (pk : ℕ) : Except AccrualError (Books × ℕ) := do
  let event ← require (s.events.get pk) (.doesNotExist "LotExecutionEvent" pk)
  match s.executions.first fun x => x.event = pk with
  | some (done, _) => pure (s, done)
  | none =>
    let account ← require (s.accounts.get event.account) (.doesNotExist "TradingAccount" event.account)
    let done := s.executions.next
    match attributionOf s event with
    | none => pure ({ s with executions := s.executions.insert ⟨pk⟩ }, done)
    | some (attribution, a) =>
      let chain ← (ancestors s.network a.referral (some event.createdAt)).mapError .network
      let s := { s with executions := s.executions.insert ⟨pk⟩ }
      if account.accountType.withdrawable = false then pure (s, done)
      else if isActive s a.referral = false then pure (s, done)
      else do
        let _ ← resolveApplicableRule s a.referral .perLot event.createdAt
        let direct ← generatePerLotObligation s pk event
        match direct.2 with
        | none => pure (direct.1, done)
        | some _ =>
          match ← resolveApplicableRule direct.1 a.referral .subIbBudget event.createdAt with
          | none => pure (direct.1, done)
          | some (_, budgetRule) =>
            match budgetRule.fixedAmount with
            | none => pure (direct.1, done)
            | some budget =>
              let accrued ← accrueLevels event attribution done direct.1 (budget.value * event.qty.value)
                (chain.zipIdx 1)
              pure (accrued, done)

inductive Action
  | network (action : Links.Action)
  | addRule (rule : Rule)
  | changeRule (rule : ℕ) (changed : Rule)
  | openAccount (account : TradingAccount)
  | changeAccount (account : ℕ) (changed : TradingAccount)
  | execute (event : LotExecutionEvent)
  | generatePerLotObligation (event : ℕ)
  | processExecution (event : ℕ)

def sweepPerLot (s : Books) (pk : ℕ) : Except AccrualError Books := do
  let event ← require (s.events.get pk) (.doesNotExist "LotExecutionEvent" pk)
  (generatePerLotObligation s pk event).map Prod.fst

def step (s : Books) : Action → Books
  | .network action => { s with network := Links.step s.network action }
  | .addRule rule => { s with rules := s.rules.insert rule }
  | .changeRule rule changed => { s with rules := s.rules.update rule fun _ => changed }
  | .openAccount account => { s with accounts := s.accounts.insert account }
  | .changeAccount account changed => { s with accounts := s.accounts.update account fun _ => changed }
  | .execute event => { s with events := s.events.insert event }
  | .generatePerLotObligation event => commit s (sweepPerLot s event)
  | .processExecution event => commit s ((processExecution s event).map Prod.fst)

def fresh (network : Network) (rules : Table Rule) (accounts : Table TradingAccount)
    (events : Table LotExecutionEvent) : Books where
  network := network
  rules := rules
  accounts := accounts
  events := events
  executions := .empty
  carries _ := none
  accruals := .empty
  obligations := .empty

end TrxSimulator.IBNetwork.Accruals
