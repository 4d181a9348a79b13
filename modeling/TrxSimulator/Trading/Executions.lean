import TrxSimulator.Foundations.Runs
import TrxSimulator.Market.Pnl

/-! The trading desk: the floor with the executions, the trades and the broker's counterparty rows that its
writers leave, and the copies of positions that connections and scans have read. -/

namespace TrxSimulator.Trading.Executions

open Foundations.Tables Foundations.Outcomes Foundations.Decimals Money Writers
open Market.Symbols Market.Pnl
open Accounts (EventType)

structure LotExecutionEvent where
  account : ℕ
  position : ℕ
  symbol : String
  side : Side
  qty : Numeric 18 6
  executionPrice : Numeric 18 6
  merged : Bool
  sourceOrder : Option ℕ
deriving DecidableEq

structure Trade where
  account : ℕ
  symbol : String
  tradeType : Side
  lotSize : Numeric 10 6
  entryPrice : Numeric 18 6
  exitPrice : Numeric 18 6
  profitLoss : Amount
deriving DecidableEq

structure CounterpartyEntry where
  sourceTrade : ℕ
  sourceAccount : ℕ
  symbol : String
  amount : Amount
deriving DecidableEq

structure Desk extends Floor where
  events : Table LotExecutionEvent
  trades : Table Trade
  counterparties : Table CounterpartyEntry
  copies : Table (ℕ × Position)

section Opening

def lotSizeOk (symbol : String) (qty : ℚ) : Bool :=
  match getSpec symbol with
  | none => false
  | some spec => (checkLotSize qty spec).isOk

def recordExecution (s : Desk) (account position : ℕ) (f : Fill) (merged : Bool) (sourceOrder : Option ℕ) :
    Except TradeError Desk := do
  let qty ← column 18 6 "qty" f.qty
  let executionPrice ← column 18 6 "execution_price" f.price
  let event : LotExecutionEvent :=
    { account, position, symbol := f.symbol, side := f.side, qty, executionPrice, merged, sourceOrder }
  pure { s with events := s.events.insert event }

/-- The size of the order is checked again under the locks, with everything else that admits it. -/
def guarded (o : Open) : Open := { o with admitted := o.admitted && lotSizeOk o.fill.symbol o.fill.qty }

def dbOpenPositionAtomic (s : Desk) (o : Open) : Except TradeError (Desk × OpenResult) := do
  let (floor, result) ← Writers.dbOpenPositionAtomic s.toFloor (guarded o)
  match result with
  | .rejected => pure ({ s with toFloor := floor }, result)
  | .opened position merged => do
    let s ← recordExecution { s with toFloor := floor } o.account position o.fill merged none
    pure (s, result)

def refused (s : Desk) (t : Trigger) : Option String :=
  match s.orders.get t.order with
  | none => t.refusedByLimits
  | some po => if lotSizeOk po.symbol po.qty.value then t.refusedByLimits else some "lot_size_violation"

def triggerPendingOrderCore (s : Desk) (t : Trigger) : Except TradeError (Desk × TriggerResult) := do
  let (floor, result) ← Writers.triggerPendingOrderCore s.toFloor { t with refusedByLimits := refused s t }
  match result, s.orders.get t.order with
  | .triggered position merged, some po => do
    let s ← recordExecution { s with toFloor := floor } po.account position (t.fill po) merged (some t.order)
    pure (s, result)
  | _, _ => pure ({ s with toFloor := floor }, result)

end Opening

section Closing

def createBrokerCounterpartyEntry (s : Desk) (sourceTrade : ℕ) (trade : Trade) (traderPnl : ℚ) :
    Except TradeError Desk :=
  match s.counterparties.first fun e => e.sourceTrade = sourceTrade with
  | some _ => .ok s
  | none => do
    let amount ← column 18 2 "amount" (if traderPnl = 0 then 0 else negate traderPnl)
    let entry : CounterpartyEntry := { sourceTrade, sourceAccount := trade.account, symbol := trade.symbol, amount }
    pure { s with counterparties := s.counterparties.insert entry }

structure Booking where
  account : ℕ
  symbol : String
  tradeType : Side
  lotSize : ℚ
  entryPrice : Numeric 18 6
  exitPrice : ℚ
  profitLoss : ℚ

def recordTrade (s : Desk) (b : Booking) : Except TradeError Desk := do
  let lotSize ← column 10 6 "lot_size" b.lotSize
  let exitPrice ← column 18 6 "exit_price" b.exitPrice
  let profitLoss ← column 18 2 "profit_loss" b.profitLoss
  let trade : Trade :=
    { account := b.account, symbol := b.symbol, tradeType := b.tradeType, lotSize, entryPrice := b.entryPrice,
      exitPrice, profitLoss }
  createBrokerCounterpartyEntry { s with trades := s.trades.insert trade } s.trades.next trade b.profitLoss

structure CloseRequest where
  account : ℕ
  copy : ℕ
  closeQty : Option ℚ
  closePx : ℚ
  newBalance : ℚ
  newEquity : ℚ
  accountCurrency : String
  reason : String

/-- What is posted as realized passes through a float. -/
def realizedPnl (side : Side) (avgPrice closePx closeQty : ℚ) (symbol accountCurrency : String) : Option ℚ :=
  (calculatePositionPnl python side avgPrice closePx closeQty symbol accountCurrency).pnlAccount.map fun pnl =>
    python.str (python.float pnl)

def CloseRequest.pnl (c : CloseRequest) (mem p : Position) : Option ℚ :=
  realizedPnl mem.side p.avgPrice.value c.closePx (c.closeQty.getD p.qty.value) mem.symbol c.accountCurrency

def CloseRequest.booking (c : CloseRequest) (mem p : Position) (pnl : ℚ) : Booking where
  account := c.account
  symbol := mem.symbol
  tradeType := mem.side
  lotSize := c.closeQty.getD p.qty.value
  entryPrice := p.avgPrice
  exitPrice := c.closePx
  profitLoss := pnl

def CloseRequest.onFloor (c : CloseRequest) (position : ℕ) (pnlAccount : Option ℚ) : Close where
  account := c.account
  position := position
  closeQty := c.closeQty
  pnlAccount := pnlAccount
  newBalance := c.newBalance
  newEquity := c.newEquity
  reason := c.reason

def lockedRow (s : Desk) (account position : ℕ) : Option Position :=
  ((s.positions.get position).bind id).filter fun p => p.account = account

def closePosition (s : Desk) (c : CloseRequest) (position : ℕ) (mem : Position) :
    Except TradeError (Desk × CloseResult) := do
  let locked := lockedRow s c.account position
  let pnl := locked.bind (c.pnl mem)
  let (floor, result) ← Writers.closePosition s.toFloor (c.onFloor position pnl)
  match result, locked, pnl with
  | .closed _ _ _, some p, some pnl => do
    let s ← recordTrade { s with toFloor := floor } (c.booking mem p pnl)
    pure (s, result)
  | _, _, _ => pure ({ s with toFloor := floor }, result)

def closeByCopy (s : Desk) (c : CloseRequest) : Except TradeError (Desk × CloseResult) :=
  match s.copies.get c.copy with
  | none => .ok (s, .alreadyClosed)
  | some (position, mem) => closePosition s c position mem

def dbClosePositionAtomic (s : Desk) (c : CloseRequest) : Except TradeError (Desk × CloseResult) := closeByCopy s c

def closePositionSync (s : Desk) (c : CloseRequest) : Except TradeError (Desk × CloseResult) := closeByCopy s c

structure ForceRequest where
  account : ℕ
  symbol : Option String
  px : Option ℚ
  accountCurrency : String

def ForceRequest.exitPx (f : ForceRequest) (p : Position) : ℚ := f.px.getD (python.float p.avgPrice.value)

def forcedPnl (side : Side) (avgPrice exitPx qty : ℚ) (symbol accountCurrency : String) : ℚ :=
  python.str (positionPnlFloat python side (python.float avgPrice) exitPx (python.float qty) symbol accountCurrency)

def ForceRequest.pnl (f : ForceRequest) (p : Position) : ℚ :=
  forcedPnl p.side p.avgPrice.value (f.exitPx p) p.qty.value p.symbol f.accountCurrency

def ForceRequest.onFloor (f : ForceRequest) (s : Desk) : ForceClose where
  account := f.account
  symbol := f.symbol
  pnl i := ((s.positions.get i).bind id).elim 0 f.pnl

def ForceRequest.rows (s : Desk) (f : ForceRequest) : List (ℕ × Position) :=
  s.positions.rows.filterMap fun r => if (f.onFloor s).matches r.2 then r.2.map fun p => (r.1, p) else none

def ForceRequest.booking (f : ForceRequest) (p : Position) : Booking where
  account := f.account
  symbol := p.symbol
  tradeType := p.side
  lotSize := p.qty.value
  entryPrice := p.avgPrice
  exitPrice := python.str (f.exitPx p)
  profitLoss := f.pnl p

def forceClose (s : Desk) (f : ForceRequest) : Except TradeError Desk := do
  let floor ← Writers.forceClose s.toFloor (f.onFloor s)
  ((f.rows s).map fun r => f.booking r.2).foldlM recordTrade { s with toFloor := floor }

end Closing

section Steps

inductive Call
  | read (position : ℕ)
  | openPosition (o : Open)
  | placeOrder (account : ℕ) (symbol : String) (side : Side) (qty : Numeric 18 6)
  | triggerPendingOrder (t : Trigger)
  | closeWs (c : CloseRequest)
  | closeDaemon (c : CloseRequest)
  | forceClose (f : ForceRequest)

def readPosition (s : Desk) (position : ℕ) : Desk :=
  match (s.positions.get position).bind id with
  | none => s
  | some p => { s with copies := s.copies.insert (position, p) }

def placeOrder (s : Desk) (account : ℕ) (symbol : String) (side : Side) (qty : Numeric 18 6) : Desk :=
  { s with toFloor := Writers.call s.toFloor (.placeOrder account symbol side qty) }

def call (s : Desk) : Call → Desk
  | .read position => readPosition s position
  | .openPosition o => commit s ((dbOpenPositionAtomic s o).map Prod.fst)
  | .placeOrder account symbol side qty => placeOrder s account symbol side qty
  | .triggerPendingOrder t => commit s ((triggerPendingOrderCore s t).map Prod.fst)
  | .closeWs c => commit s ((dbClosePositionAtomic s c).map Prod.fst)
  | .closeDaemon c => commit s ((closePositionSync s c).map Prod.fst)
  | .forceClose f => commit s (forceClose s f)

end Steps

end TrxSimulator.Trading.Executions
