import TrxSimulator.Trading.OpenGuard

/-! Orders that open positions: by a connection that holds a copy of its account's terms, and by pending orders that
trigger. Each is one transaction under the lock of the whole broker. -/

namespace TrxSimulator.Trading.Openings

open Foundations.Tables Foundations.Outcomes Foundations.Decimals Money Accounts
open Challenges.Evaluation (Tier AccountStatus RiskRule)
open Challenges.Drawdown (RiskDefaults marginEngine retailRiskDefaults tierDefaults accountDefaults)
open Market.Symbols Market.Pnl Exposure.Aggregation Exposure.Limits Exposure.Admission
open Risk.Liquidation (Quotes)
open Levels (closingPrice)
open Writers (Side Position PendingOrder OrderStatus TradeError Fill OpeningCharges Trigger TriggerResult execute allocated
  postCharges mergesWith setStatus)
open Executions (Desk recordExecution CloseRequest ForceRequest)
open OpenGuard

/-- What a connection keeps of its account since it was opened; a guest has none. -/
structure Connection where
  account : Option ℕ
  snap : AccountSnap
  nettingMode : Bool
deriving DecidableEq

inductive AuditEvent
  | riskOrderRejected | pendingOrderRejected
deriving DecidableEq

structure AuditRow where
  event : AuditEvent
  account : ℕ
  symbol : String
  code : String
deriving DecidableEq

structure Broker extends Desk where
  terms : ℕ → AccountTerms
  riskRules : Table RiskRule
  decisions : List DealingDeskDecision
  connections : Table Connection
  audits : Table AuditRow
  riskLock : Bool

/-- The prices and the settings of one moment: the feed's own and those that the cache gives to other processes. -/
structure Moment where
  feed : Feed
  lastBid : String → ℚ
  lastAsk : String → ℚ
  cached : Quotes
  settings : Settings

def Broker.holdings (s : Broker) : Holdings where
  holder k := (s.accounts.get k).map fun a => ⟨a.accountType, (s.terms k).leverage, (s.terms k).currency⟩
  positions := s.positions
  decisions := s.decisions

def ownRow (k : ℕ) (row : Option Position) : Option Position := row.filter fun p => p.account = k

def held (t : Table (Option Position)) (k : ℕ) : List Position := t.rows.filterMap fun r => ownRow k r.2

def gold : String := "XAU/USD"

variable (r : Arithmetic)

section Rules

def riskDefaults (a : TradingAccount) (tier : Option Tier) : RiskDefaults :=
  if marginEngine a.accountType then
    retailRiskDefaults
      (match a.initialBalance with
        | some initial =>
          if initial.units ≠ 0 then initial.value else if a.balance.units ≠ 0 then a.balance.value else 1000
        | none => if a.balance.units ≠ 0 then a.balance.value else 1000)
  else tierDefaults tier

def getOrCreateRiskRule (s : Broker) (k : ℕ) (a : TradingAccount) : Except OpenError (Broker × RiskRule) :=
  match s.riskRules.latest fun rule => rule.account = k with
  | some (_, rule) => .ok (s, rule)
  | none => do
    let defaults := riskDefaults a (s.terms k).tier
    let maxLotSize ← require (store 8 2 defaults.maxLotSize) (.numericOverflow "max_lot_size" defaults.maxLotSize)
    let exposure := times a.balance.value (1 / 2)
    let maxExposureUsd ← require (store 12 2 exposure) (.numericOverflow "max_exposure_usd" exposure)
    let rule : RiskRule :=
      { account := k, maxDrawdownPct := defaults.maxDrawdownPct, maxDailyLossPct := defaults.maxDailyLossPct,
        maxLotSize := maxLotSize, maxOpenPositions := defaults.maxOpenPositions, maxExposureUsd := maxExposureUsd }
    pure ({ s with riskRules := s.riskRules.insert rule }, rule)

end Rules

def audited (s : Broker) (row : AuditRow) : Broker := { s with audits := s.audits.insert row }

section Deciding

structure Candidate where
  account : ℕ
  nettingMode : Bool
  symbol : String
  side : Side
  qty : ℚ
  price : ℚ

def Candidate.merges (x : Candidate) (rows : List Position) : Bool :=
  x.nettingMode && rows.any fun p => p.symbol = x.symbol ∧ p.side = x.side

def Candidate.fresh (x : Candidate) (t : AccountTerms) (rows : List Position) (equity marginUsed : ℚ) (rule : RiskRule) :
    Fresh where
  status := t.status
  currency := t.currency
  equity := equity
  marginUsed := marginUsed
  isNewPosition := !x.merges rows
  openCount := rows.length
  maxOpenPositions := rule.maxOpenPositions

/-- The guard over the account's locked rows, and after it the limits of the whole broker. -/
def decision (s : Broker) (m : Moment) (a : TradingAccount) (x : Candidate) (snap : AccountSnap) (spec : SymbolSpec)
    (equity marginUsed : ℚ) (rule : RiskRule) : Option RejectCode :=
  let f := x.fresh (s.terms x.account) (held s.positions x.account) equity marginUsed rule
  refusal r m.settings s.holdings m.feed (computeAtomicOpenGuard r x.symbol x.qty x.price f snap spec)
    (riskOrder x.account a.accountType x.symbol x.side x.qty x.price spec)

end Deciding

section Market

structure MarketOpen where
  connection : ℕ
  symbol : String
  side : Side
  qty : ℚ
  price : ℚ
  commission : ℚ
  spreadRevenue : ℚ
  goldTrading : Bool

inductive OpenReply
  | unrecorded
  | rejected (code : RejectCode)
  | opened (position : ℕ) (merged : Bool)
deriving DecidableEq

def MarketOpen.candidate (o : MarketOpen) (k : ℕ) (nettingMode : Bool) : Candidate :=
  ⟨k, nettingMode, o.symbol, o.side, o.qty, o.price⟩

def Candidate.fill (x : Candidate) : Fill where
  symbol := x.symbol
  side := x.side
  qty := r.str x.qty
  price := r.str x.price
  nettingMode := x.nettingMode

/-- A live price has two sides, the last one of a closed market only its middle. -/
def feedPx (m : Moment) (p : Position) : Option ℚ :=
  match resolveSymbolPrice r m.feed p.symbol with
  | (some _, .fresh) => some (closingPrice p.side (m.lastBid p.symbol) (m.lastAsk p.symbol))
  | (some value, _) => some (r.float value)
  | (none, _) => none

def execution (s : Desk) (k : ℕ) (a : TradingAccount) (f : Fill) (commission spreadRevenue : ℚ) :
    Except TradeError (Desk × ℕ × Bool) := do
  let (floor, position, merged) ← execute s.toFloor k f
  let charges ← allocated a.balance.value (max commission 0) (max spreadRevenue 0)
  let floor ← postCharges floor k charges (.opening f.symbol f.side position none)
  let s ← recordExecution { s with toFloor := floor } k position f merged none
  pure (s, position, merged)

/-- The order is decided with the connection's copy of the terms, over the rows of the moment. -/
def openLocked (s : Broker) (m : Moment) (a : TradingAccount) (x : Candidate) (snap : AccountSnap)
    (commission spreadRevenue : ℚ) : Except OpenError (Broker × OpenReply) := do
  let t := s.terms x.account
  let rows := held s.positions x.account
  let marginUsed ← freshMarginUsed r snap.leverage t.currency rows
  let (s, rule) ← getOrCreateRiskRule s x.account a
  match freshEquity r a.balance.value t.currency (feedPx r m) rows with
  | none => pure (s, .rejected .marketPriceUnavailable)
  | some equity => do
    let spec ← require (getSpec x.symbol) (.unknownSymbol x.symbol)
    match decision r s m a x snap spec equity marginUsed rule with
    | some (.limits reason) =>
      pure (audited s ⟨.riskOrderRejected, x.account, x.symbol, reasonText reason⟩, .rejected (.limits reason))
    | some code => pure (s, .rejected code)
    | none => do
      let (desk, position, merged) ←
        (execution s.toDesk x.account a (x.fill r) commission spreadRevenue).mapError .trade
      pure ({ s with toDesk := desk }, .opened position merged)

def dbOpenPositionAtomic (s : Broker) (m : Moment) (o : MarketOpen) : Except OpenError (Broker × OpenReply) := do
  let c ← require (s.connections.get o.connection) (.unknownConnection o.connection)
  match c.account with
  | none => pure (s, if o.symbol = gold then .rejected .goldNotAllowed else .unrecorded)
  | some k =>
    let s := { s with riskLock := true }
    match s.accounts.get k with
    | none => pure (s, .rejected .accountNotFound)
    | some a =>
      if o.symbol = gold ∧ o.goldTrading = false then pure (s, .rejected .goldNotAllowed)
      else openLocked r s m a (o.candidate k c.nettingMode) c.snap o.commission o.spreadRevenue

end Market

section Pending

structure PendingTrigger where
  order : ℕ
  due : Bool
  executionPrice : ℚ
  refusedAtPrice : Option String
  spreadFeeEnabled : Bool
  spreadCharge : Option ℚ
  commission : ℚ

def cachedPx (m : Moment) (p : Position) : Option ℚ :=
  (m.cached p.symbol).map fun quote => closingPrice p.side quote.1 quote.2

def PendingTrigger.candidate (t : PendingTrigger) (po : PendingOrder) (nettingMode : Bool) : Candidate :=
  ⟨po.account, nettingMode, po.symbol, po.side, r.float po.qty.value, t.executionPrice⟩

/-- Gold is for market orders only, and the stops of the order are checked against the price it fills at. -/
def PendingTrigger.refusal (t : PendingTrigger) (po : PendingOrder) : Option String :=
  if po.symbol = gold then some "gold_pilot_market_only" else t.refusedAtPrice

def PendingTrigger.onFloor (t : PendingTrigger) (refusedAtPrice : Option String) (refusedByLimits : Option RejectCode)
    (nettingMode : Bool) : Trigger where
  order := t.order
  due := t.due
  executionPrice := r.str t.executionPrice
  refusedAtPrice := refusedAtPrice
  spreadFeeEnabled := t.spreadFeeEnabled
  spreadCharge := t.spreadCharge
  refusedByLimits := refusedByLimits.map RejectCode.text
  nettingMode := nettingMode
  commission := t.commission

def executeTrigger (s : Desk) (t : Trigger) : Except TradeError (Desk × TriggerResult) := do
  let (floor, result) ← Writers.triggerPendingOrderCore s.toFloor t
  match result, s.orders.get t.order with
  | .triggered position merged, some po => do
    let s ← recordExecution { s with toFloor := floor } po.account position (t.fill po) merged (some t.order)
    pure (s, result)
  | _, _ => pure ({ s with toFloor := floor }, result)

/-- The decision is made with the account's own terms. -/
def examine (s : Broker) (m : Moment) (a : TradingAccount) (x : Candidate) :
    Except OpenError (Broker × Option RejectCode) := do
  let t := s.terms x.account
  let rows := held s.positions x.account
  let marginUsed ← freshMarginUsed r t.leverage t.currency rows
  match freshEquity r a.balance.value t.currency (cachedPx m) rows with
  | none => pure (s, some .marketPriceUnavailable)
  | some equity => do
    let spec ← require (getSpec x.symbol) (.unknownSymbol x.symbol)
    let (s, rule) ← getOrCreateRiskRule s x.account a
    pure (s, decision r s m a x (t.snap r) spec equity marginUsed rule)

def settleTrigger (s : Broker) (po : PendingOrder) (t : Trigger) : Except OpenError (Broker × TriggerResult) := do
  let (desk, result) ← (executeTrigger s.toDesk t).mapError .trade
  let s := { s with toDesk := desk }
  match result with
  | .rejected code => pure (audited s ⟨.pendingOrderRejected, po.account, po.symbol, code⟩, result)
  | _ => pure (s, result)

def triggerPendingOrderCore (s : Broker) (m : Moment) (t : PendingTrigger) : Except OpenError (Broker × TriggerResult) :=
  match s.orders.get t.order with
  | none => .ok (s, .notPending)
  | some po =>
    let terms := s.terms po.account
    let refused := t.refusal po
    if po.status ≠ .pending ∨ t.due = true ∨ refused.isSome then
      settleTrigger s po (t.onFloor r refused none terms.nettingMode)
    else
      let s := { s with riskLock := true }
      match s.accounts.get po.account with
      | none => settleTrigger s po (t.onFloor r none none terms.nettingMode)
      | some a => do
        let _ ← ((t.onFloor r none none terms.nettingMode).spread).mapError .trade
        let (s, code) ← examine r s m a (t.candidate r po terms.nettingMode)
        settleTrigger s po (t.onFloor r none code terms.nettingMode)

end Pending

section Steps

inductive Call
  | openPosition (m : Moment) (o : MarketOpen)
  | triggerPendingOrder (m : Moment) (t : PendingTrigger)
  | connect (account : Option ℕ)
  | orderMode (connection : ℕ) (nettingMode : Bool)
  | placeOrder (account : ℕ) (symbol : String) (side : Side) (qty : Numeric 18 6)
  | read (position : ℕ)
  | closeWs (c : CloseRequest)
  | closeDaemon (c : CloseRequest)
  | forceClose (f : ForceRequest)
  | setTerms (account : ℕ) (terms : AccountTerms)
  | setRule (rule : ℕ) (maxOpenPositions : ℕ)
  | route (decision : DealingDeskDecision)

def guestSnap : AccountSnap where
  leverage := 50
  allowedSymbols := none
  maxLotSize := none
  marginCallLevel := some 100
  maxMarginPerTradePct := 10
  maxTotalMarginPct := 50

def hydrated (s : Broker) (account : Option ℕ) : Connection :=
  match account.filter fun k => (s.accounts.get k).isSome with
  | some k => { account, snap := (s.terms k).hydrated r, nettingMode := (s.terms k).nettingMode }
  | none => { account, snap := guestSnap, nettingMode := false }

def deskCall (s : Broker) (c : Executions.Call) : Broker := { s with toDesk := Executions.call s.toDesk c }

def call (s : Broker) : Call → Broker
  | .openPosition m o => commit s ((dbOpenPositionAtomic r s m o).map Prod.fst)
  | .triggerPendingOrder m t => commit s ((triggerPendingOrderCore r s m t).map Prod.fst)
  | .connect account => { s with connections := s.connections.insert (hydrated r s account) }
  | .orderMode connection nettingMode =>
    { s with connections := s.connections.update connection fun c => { c with nettingMode } }
  | .placeOrder account symbol side qty => deskCall s (.placeOrder account symbol side qty)
  | .read position => deskCall s (.read position)
  | .closeWs c => deskCall s (.closeWs c)
  | .closeDaemon c => deskCall s (.closeDaemon c)
  | .forceClose f => deskCall s (.forceClose f)
  | .setTerms account terms => { s with terms := Function.update s.terms account terms }
  | .setRule rule maxOpenPositions =>
    { s with riskRules := s.riskRules.update rule fun row => { row with maxOpenPositions } }
  | .route decision => { s with decisions := s.decisions ++ [decision] }

end Steps

end TrxSimulator.Trading.Openings
