import TrxSimulator.Foundations.Runs
import TrxSimulator.Risk.Liquidation
import TrxSimulator.Trading.Executions

/-! Scans of the positions by the daemon, and live connections that stop an account out: what each of them sets out
to close, its closes one by one, and the suspensions of accounts on the way. -/

namespace TrxSimulator.Risk.Sweeps

open Foundations.Tables Foundations.Outcomes Foundations.Decimals Money Accounts
open Challenges.Evaluation Challenges.Drawdown Market.Symbols Market.Pnl
open Trading.Writers (Side TradeError column)
open Trading.Levels Liquidation

section PreTrade

def blocked : AccountStatus → Bool
  | .suspended | .violated | .closed => true
  | .active | .funded => false

inductive OrderError
  | accountBlocked (status : AccountStatus)
  | lotWarning (lotSize effectiveMax : ℚ)
  | maxLotSize (lotSize effectiveMax : ℚ) (symbol : String)
  | maxPositions (limit : ℕ)
  | dailyLossWarning (dailyLossPct : ℚ)
  | dailyLossLimit (dailyLossPct : ℚ) (limit : Numeric 5 2)
  | drawdownWarning (ddPct : ℚ)
  | maxDrawdown (ddPct : ℚ) (limit : Numeric 5 2)
deriving DecidableEq

def OrderError.hard : OrderError → Bool
  | .dailyLossLimit _ _ | .maxDrawdown _ _ => true
  | _ => false

def isCrypto (symbol : String) : Bool := (getSpec symbol).any fun spec => spec.assetClass = .crypto

def cryptoMaxLot (a : ChallengeAccount) : ℚ :=
  if marginEngine a.accountType then
    let balance := match a.initialBalance with
      | some initial => if initial.units ≠ 0 then initial.value else if a.balance.units ≠ 0 then a.balance.value else 1000
      | none => if a.balance.units ≠ 0 then a.balance.value else 1000
    clamp (divide balance 100000) (1 / 1000) 2
  else match a.tier with
    | some .k50 => 1
    | some .k100 => 2
    | some .k10 | some .k25 | none => 1 / 4

def effectiveMax (a : ChallengeAccount) (rule : RiskRule) (symbol : String) : ℚ :=
  if isCrypto symbol then cryptoMaxLot a else rule.maxLotSize.value

def lotErrors (a : ChallengeAccount) (rule : RiskRule) (lotSize : ℚ) (symbol : String) : List OrderError :=
  if lotSize ≤ effectiveMax a rule symbol then []
  else if marginEngine a.accountType then [.lotWarning lotSize (effectiveMax a rule symbol)]
  else [.maxLotSize lotSize (effectiveMax a rule symbol) symbol]

def positionsErrors (rule : RiskRule) (openPositionsCount : ℕ) : List OrderError :=
  if rule.maxOpenPositions ≤ openPositionsCount then [.maxPositions rule.maxOpenPositions] else []

def dailyLossErrors (s : Desk) (k : ℕ) (a : ChallengeAccount) (rule : RiskRule) : List OrderError :=
  let dailyLossPct := pct |todayPnl s k| a.peakBalance.value
  if 0 < a.peakBalance.units ∧ todayPnl s k < 0 ∧ rule.maxDailyLossPct.value ≤ dailyLossPct then
    if marginEngine a.accountType then [.dailyLossWarning dailyLossPct]
    else [.dailyLossLimit dailyLossPct rule.maxDailyLossPct]
  else []

def drawdownErrors (a : ChallengeAccount) (rule : RiskRule) : List OrderError :=
  let ddPct := pct (minus a.peakBalance.value a.balance.value) a.peakBalance.value
  if 0 < a.peakBalance.units ∧ rule.maxDrawdownPct.value ≤ ddPct then
    if marginEngine a.accountType then [.drawdownWarning ddPct] else [.maxDrawdown ddPct rule.maxDrawdownPct]
  else []

def noticeEntry (s : Desk) (k : ℕ) (a : ChallengeAccount) : DatedEntry where
  account := k
  eventType := .adjustment
  amount := .ofUnits 0
  balanceAfter := a.balance.widen balance_digits
  info := none
  createdOn := s.today

def validateOrderRisk (s : Desk) (k : ℕ) (a : ChallengeAccount) (lotSize : ℚ) (openPositionsCount : ℕ)
    (symbol : String) : Except RiskError (Desk × List OrderError) :=
  if blocked a.status then .ok (s, [.accountBlocked a.status])
  else do
    let (s, rule) ← getOrCreateRiskRule s k a
    let errors := lotErrors a rule lotSize symbol ++ positionsErrors rule openPositionsCount ++
      dailyLossErrors s k a rule ++ drawdownErrors a rule
    if errors.any OrderError.hard then
      pure ({ s with accounts := s.accounts.update k fun a => { a with status := .violated }
                     entries := s.entries.insert (noticeEntry s k a) }, errors)
    else pure (s, errors)

end PreTrade

section Closing

inductive CloseReason
  | daemonTp | daemonSl | daemonStopout | daemonMarginCall | stopout | retailLiquidation
deriving DecidableEq

structure Job where
  position : ℕ
  row : Row
  closePx : ℚ
  reason : CloseReason
deriving DecidableEq

/-- The closes that a scan or a connection has still to make on one account. -/
structure Batch where
  account : ℕ
  live : Bool
  suspends : Bool
  positions : List ℕ
  jobs : List Job
  failed : List ℕ
  lastStatus : Option AccountStatus
deriving DecidableEq

/-- What a connection holds in memory of its account and its positions. -/
structure Panel where
  account : ℕ
  memory : ChallengeAccount
  positions : List (ℕ × Row)

structure Book where
  desk : Desk
  terms : ℕ → Terms
  positions : Table (Option Row)
  panels : Table Panel
  sweeps : Table (List Batch)

inductive CloseError
  | accountNotFound (account : ℕ)
  | trade (e : TradeError)
  | risk (e : RiskError)

inductive CloseResult
  | alreadyClosed | refused
  | closed (newStatus : AccountStatus)
deriving DecidableEq

variable (r : Arithmetic)

def lockedRow (b : Book) (account position : ℕ) : Option Row :=
  ((b.positions.get position).bind id).filter fun row => row.account = account

def realizedPnl (side : Side) (avgPrice closePx closeQty : ℚ) (symbol currency : String) : Option ℚ :=
  (calculatePositionPnl r side avgPrice closePx closeQty symbol currency).pnlAccount.map fun pnl => r.str (r.float pnl)

def realizedEntry (s : Desk) (k : ℕ) (amount balanceAfter : Amount) : DatedEntry where
  account := k
  eventType := .realizedPnl
  amount := amount
  balanceAfter := balanceAfter
  info := none
  createdOn := s.today

def realize (s : Desk) (k : ℕ) (a : ChallengeAccount) (pnl : ℚ) : Except TradeError (Desk × ChallengeAccount) := do
  let freshBalanceAfter := plus a.balance.value pnl
  let safeBalance := max freshBalanceAfter 0
  let amount ← column 18 2 "amount" pnl
  let balanceAfter ← column 18 2 "balance_after" safeBalance
  let balance ← column 12 2 "balance" safeBalance
  let entries := s.entries.insert (realizedEntry s k amount balanceAfter)
  let entries := if freshBalanceAfter < 0 then entries.insert (noticeEntry s k { a with balance }) else entries
  pure ({ s with entries, accounts := s.accounts.update k fun a => { a with balance } }, { a with balance })

def closePosition (b : Book) (account position : ℕ) (mem : Row) (closeQty : Option ℚ) (closePx : ℚ) :
    Except CloseError (Book × CloseResult) :=
  match lockedRow b account position with
  | none => .ok (b, .alreadyClosed)
  | some p =>
    let q := closeQty.getD p.qty.value
    if q ≤ 0 ∨ p.qty.value < q then .ok (b, .refused)
    else match realizedPnl r mem.side p.avgPrice.value closePx q mem.symbol (b.terms account).currency with
    | none => .ok (b, .refused)
    | some pnl => do
      let a ← require (b.desk.accounts.get account) (.accountNotFound account)
      let (desk, a) ← (realize b.desk account a pnl).mapError .trade
      let row ← (closeRow p closeQty).mapError .trade
      let (desk, violations) ← (checkAndEnforceRisk desk account a).mapError .risk
      pure ({ b with desk, positions := b.positions.update position fun _ => row },
        .closed (if violations.isEmpty then a.status else .suspended))

end Closing

section Planning

variable (r : Arithmetic)

def openRows (b : Book) (account : ℕ) : List (ℕ × Row) :=
  b.positions.rows.filterMap fun row => row.2.bind fun p => if p.account = account then some (row.1, p) else none

def roundedClosePx (p : Row) (bid ask : ℚ) : Option ℚ :=
  (getSpec p.symbol).map fun spec => r.float (roundTo spec.priceDecimals (closingPrice p.side bid ask))

def closeJob (prices : Quotes) (reason : CloseReason) (p : ℕ × Row) : Option (List Job) :=
  match prices p.2.symbol with
  | none => some []
  | some (bid, ask) => (roundedClosePx r p.2 bid ask).map fun closePx => [⟨p.1, p.2, closePx, reason⟩]

def levelHit (l : Level) (p : Row) (bid ask : ℚ) : Bool :=
  (l.of p.sl p.tp).any fun x => l.reached p.side (r.float x.value) (closingPrice p.side bid ask)

def levelJob (prices : Quotes) (p : ℕ × Row) : Option (List Job) :=
  match prices p.2.symbol with
  | none => some []
  | some (bid, ask) =>
    if levelHit r .tp p.2 bid ask then closeJob r prices .daemonTp p
    else if levelHit r .sl p.2 bid ask then closeJob r prices .daemonSl p
    else some []

def batch (account : ℕ) (live suspends : Bool) (rows : List (ℕ × Row)) (jobs : List (List Job)) : Batch where
  account := account
  live := live
  suspends := suspends
  positions := rows.map Prod.fst
  jobs := jobs.flatten
  failed := []
  lastStatus := none

/-- All positions of an account that is stopped out or called, else those that have reached a level. -/
def scanJob (prices : Quotes) : Option Reason → ℕ × Row → Option (List Job)
  | some .daemonStopout => closeJob r prices .daemonStopout
  | some .daemonMarginCall => closeJob r prices .daemonMarginCall
  | none => levelJob r prices

def scanAccount (b : Book) (k : ℕ) (a : ChallengeAccount) (prices : Quotes) : Option Batch := do
  let rows := openRows b k
  let decision ← preCheck r a (b.terms k) rows prices
  let jobs ← rows.mapM (scanJob r prices decision)
  pure (batch k false (decision = some .daemonStopout) rows jobs)

/-- One account after the other; an error ends the scan. -/
def scanAccounts (b : Book) (prices : ℕ → Quotes) : List (ℕ × ChallengeAccount) → List Batch
  | [] => []
  | (k, a) :: accounts =>
    if a.status = .active ∧ openRows b k ≠ [] then
      match scanAccount r b k a (prices k) with
      | none => []
      | some work => work :: scanAccounts b prices accounts
    else scanAccounts b prices accounts

def scanPositions (b : Book) (prices : ℕ → Quotes) : List Batch := scanAccounts r b prices b.desk.accounts.rows

def recalculate (b : Book) (panel : Panel) (prices : Quotes) : Option Batch :=
  if liveLiquidates r panel.memory (b.terms panel.account) panel.positions prices then
    let reason := if marginEngine panel.memory.accountType then .retailLiquidation else .stopout
    (panel.positions.mapM (closeJob r prices reason)).map
      (batch panel.account true (!marginEngine panel.memory.accountType) panel.positions)
  else none

end Planning

section Machine

variable (r : Arithmetic)

inductive Act
  | openPosition (row : Row)
  | merge (position : ℕ) (m : Merge)
  | edit (position : ℕ) (sl tp : Option ℚ)
  | validateOrder (account : ℕ) (lotSize : ℚ) (openPositionsCount : ℕ) (symbol : String)
  | close (account position : ℕ) (mem : Row) (closeQty : Option ℚ) (closePx : ℚ)
  | connect (account : ℕ)
  | tick (panel : ℕ) (prices : Quotes)
  | scan (prices : ℕ → Quotes)
  | next (sweep : ℕ) (fails : Bool)
  | wait (days : ℕ)

def setStatus (b : Book) (account : ℕ) (status : AccountStatus) : Book :=
  { b with desk := { b.desk with accounts := b.desk.accounts.update account fun a => { a with status } } }

/-- A connection suspends once nothing is left open, the scan whatever is left. -/
def finish (b : Book) (work : Batch) (fails : Bool) : Book :=
  if work.suspends = false ∨ fails then b
  else if work.live then if work.failed = [] then setStatus b work.account .suspended else b
  else if work.lastStatus = some .suspended then b
  else setStatus b work.account .suspended

/-- A refused close has no balance to read, which raises. -/
def attempt (b : Book) (work : Batch) (job : Job) (fails : Bool) : Option (Book × Batch) :=
  if fails then some (b, { work with failed := work.failed ++ [job.position] })
  else match closePosition r b work.account job.position job.row none job.closePx with
  | .error _ => some (b, { work with failed := work.failed ++ [job.position] })
  | .ok (_, .refused) => none
  | .ok (b, .alreadyClosed) => some (b, work)
  | .ok (b, .closed status) => some (b, { work with lastStatus := some status })

def setSweep (b : Book) (sweep : ℕ) (rest : List Batch) : Book :=
  { b with sweeps := b.sweeps.update sweep fun _ => rest }

def next (b : Book) (sweep : ℕ) (fails : Bool) : Book :=
  match b.sweeps.get sweep with
  | some (work :: rest) =>
    match work.jobs with
    | [] => setSweep (finish b work fails) sweep rest
    | job :: jobs =>
      match attempt r b { work with jobs } job fails with
      | none => setSweep b sweep []
      | some (b, work) => setSweep b sweep (work :: rest)
  | _ => b

def openPosition (b : Book) (row : Row) : Book :=
  match b.desk.accounts.get row.account with
  | none => b
  | some a =>
    if blocked a.status = false ∧ Trading.Executions.lotSizeOk row.symbol row.qty.value then
      { b with positions := b.positions.insert (some row) }
    else b

def saveRow (b : Book) (position : ℕ) (f : Row → Except TradeError Row) : Book :=
  match (b.positions.get position).bind id with
  | none => b
  | some row => commit b ((f row).map fun row => { b with positions := b.positions.update position fun _ => some row })

def validateOrder (b : Book) (account : ℕ) (lotSize : ℚ) (openPositionsCount : ℕ) (symbol : String) : Book :=
  match b.desk.accounts.get account with
  | none => b
  | some a => commit b ((validateOrderRisk b.desk account a lotSize openPositionsCount symbol).map fun result =>
      { b with desk := result.1 })

def connect (b : Book) (account : ℕ) : Book :=
  match b.desk.accounts.get account with
  | none => b
  | some a => { b with panels := b.panels.insert ⟨account, a, openRows b account⟩ }

def tick (b : Book) (panel : ℕ) (prices : Quotes) : Book :=
  match (b.panels.get panel).bind fun p => recalculate r b p prices with
  | none => b
  | some work => { b with sweeps := b.sweeps.insert [work] }

def step (b : Book) : Act → Book
  | .openPosition row => openPosition b row
  | .merge position m => saveRow b position fun row => mergeRow row m
  | .edit position sl tp => saveRow b position fun row => editRow row sl tp
  | .validateOrder account lotSize openPositionsCount symbol => validateOrder b account lotSize openPositionsCount symbol
  | .close account position mem closeQty closePx =>
    commit b ((closePosition r b account position mem closeQty closePx).map Prod.fst)
  | .connect account => connect b account
  | .tick panel prices => tick r b panel prices
  | .scan prices => { b with sweeps := b.sweeps.insert (scanPositions r b prices) }
  | .next sweep fails => next r b sweep fails
  | .wait days => { b with desk := { b.desk with today := b.desk.today + days } }

end Machine

end TrxSimulator.Risk.Sweeps
