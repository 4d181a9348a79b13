import TrxSimulator.Accounts
import TrxSimulator.Trading.Charges

/-! The writers of a trading account's balance: market opens, pending orders that trigger, closes by the socket
and by the daemon, and the closing of all its positions from the dealing desk. -/

namespace TrxSimulator.Trading.Writers

open Foundations.Tables Foundations.Outcomes Foundations.Decimals Money Charges
open Accounts (TradingAccount EventType)

inductive Side
  | buy | sell
deriving DecidableEq

structure Position where
  account : ℕ
  symbol : String
  side : Side
  qty : Numeric 18 6
  avgPrice : Numeric 18 6
deriving DecidableEq

inductive OrderStatus
  | pending | triggered (position : ℕ) | expired | rejected
deriving DecidableEq

structure PendingOrder where
  account : ℕ
  symbol : String
  side : Side
  qty : Numeric 18 6
  status : OrderStatus
deriving DecidableEq

inductive EntryMeta
  | opening (symbol : String) (side : Side) (position : ℕ) (pendingOrder : Option ℕ)
  | realized (symbol : String) (side : Side) (reason : String)
  | negativeBalanceGuard (shortfall originalComputedBalance realizedPnl : ℚ)
  | adminForceClose (symbol : String)
  | rule (message : String)
deriving DecidableEq

structure LedgerEntry where
  account : ℕ
  eventType : EventType
  amount : Amount
  balanceAfter : Amount
  info : EntryMeta
deriving DecidableEq

/-- A position that is deleted leaves an empty row behind. -/
structure Floor where
  accounts : Table TradingAccount
  entries : Table LedgerEntry
  positions : Table (Option Position)
  orders : Table PendingOrder

inductive TradeError
  | accountNotFound (account : ℕ)
  | numericOverflow (column : String) (value : ℚ)
  | divisionByZero
  | charge (e : ChargeError)
  | pendingSpreadUnavailable
deriving DecidableEq

section Rows

def column (digits scale : ℕ) (name : String) (x : ℚ) : Except TradeError (Numeric digits scale) :=
  require (store digits scale x) (.numericOverflow name x)

def postEntry (s : Floor) (account : ℕ) (eventType : EventType) (amount balanceAfter : ℚ) (info : EntryMeta) :
    Except TradeError Floor := do
  let amount ← column 18 2 "amount" amount
  let balanceAfter ← column 18 2 "balance_after" balanceAfter
  pure { s with entries := s.entries.insert { account, eventType, amount, balanceAfter, info } }

def postEntryIf (p : Prop) [Decidable p] (s : Floor) (account : ℕ) (eventType : EventType)
    (amount balanceAfter : ℚ) (info : EntryMeta) : Except TradeError Floor :=
  if p then postEntry s account eventType amount balanceAfter info else .ok s

def saveBalance (s : Floor) (account : ℕ) (balance : ℚ) : Except TradeError Floor := do
  let balance ← column 12 2 "balance" balance
  pure { s with accounts := s.accounts.update account fun a => { a with balance } }

def saveBalanceEquity (s : Floor) (account : ℕ) (balance equity : ℚ) : Except TradeError Floor := do
  let balance ← column 12 2 "balance" balance
  let equity ← column 12 2 "equity" equity
  pure { s with accounts := s.accounts.update account fun a => { a with balance, equity } }

def deletePosition (s : Floor) (position : ℕ) : Floor :=
  { s with positions := s.positions.update position fun _ => none }

def setStatus (s : Floor) (order : ℕ) (status : OrderStatus) : Floor :=
  { s with orders := s.orders.update order fun po => { po with status } }

end Rows

section Opening

structure Fill where
  symbol : String
  side : Side
  qty : ℚ
  price : ℚ
  nettingMode : Bool

def mergesWith (account : ℕ) (f : Fill) : Option Position → Bool
  | some p => p.account = account ∧ p.symbol = f.symbol ∧ p.side = f.side
  | none => false

def execute (s : Floor) (account : ℕ) (f : Fill) : Except TradeError (Floor × ℕ × Bool) :=
  match if f.nettingMode then s.positions.first (mergesWith account f) else none with
  | some (id, some existing) => do
    let newQty := plus existing.qty.value f.qty
    if newQty = 0 then .error .divisionByZero
    else do
      let newAvg := divide (plus (times existing.avgPrice.value existing.qty.value) (times f.price f.qty)) newQty
      let avgPrice ← column 18 6 "avg_price" (scaled 6 (quantize 6 newAvg))
      let qty ← column 18 6 "qty" newQty
      pure ({ s with positions := s.positions.update id fun _ => some { existing with qty, avgPrice } }, id, true)
  | _ => do
    let qty ← column 18 6 "qty" f.qty
    let avgPrice ← column 18 6 "avg_price" f.price
    pure ({ s with positions := s.positions.insert (some
      { account, symbol := f.symbol, side := f.side, qty, avgPrice }) }, s.positions.next, false)

structure OpeningCharges where
  commission : ℚ
  spread : ℚ
  balance : ℚ
  commissionPosted : ℚ
  spreadPosted : ℚ

def postCharges (s : Floor) (account : ℕ) (c : OpeningCharges) (info : EntryMeta) : Except TradeError Floor := do
  let s ← postEntryIf (0 < c.commission) s account .commission (negate c.commissionPosted) c.balance info
  let s ← postEntryIf (0 < c.spread) s account .fee (negate c.spreadPosted) c.balance info
  if 0 < c.commission ∨ 0 < c.spread then saveBalance s account c.balance else pure s

def allocated (balance commission spread : ℚ) : Except TradeError OpeningCharges := do
  let (posted, commissionPosted, spreadPosted) ←
    (allocateOpeningCharges balance commission spread).mapError .charge
  pure { commission, spread, balance := posted, commissionPosted, spreadPosted }

inductive OpenResult
  | rejected
  | opened (position : ℕ) (merged : Bool)
deriving DecidableEq

structure Open where
  account : ℕ
  fill : Fill
  commission : ℚ
  spreadRevenue : ℚ
  admitted : Bool

/-- Whether an order is admitted rests on prices and limits of the moment. -/
def dbOpenPositionAtomic (s : Floor) (o : Open) : Except TradeError (Floor × OpenResult) := do
  let a ← require (s.accounts.get o.account) (.accountNotFound o.account)
  if ¬ o.admitted then pure (s, .rejected)
  else do
    let (s, position, merged) ← execute s o.account o.fill
    let charges ← allocated a.balance.value (max o.commission 0) (max o.spreadRevenue 0)
    let s ← postCharges s o.account charges (.opening o.fill.symbol o.fill.side position none)
    pure (s, .opened position merged)

inductive TriggerResult
  | notPending | expired
  | rejected (code : String)
  | triggered (position : ℕ) (merged : Bool)
deriving DecidableEq

/-- What a trigger reads beside its order: the refusals by the price and by the limits, and the charges of the
moment. The spread charge is absent where its configuration does not give one. -/
structure Trigger where
  order : ℕ
  due : Bool
  executionPrice : ℚ
  refusedAtPrice : Option String
  spreadFeeEnabled : Bool
  spreadCharge : Option ℚ
  refusedByLimits : Option String
  nettingMode : Bool
  commission : ℚ

def Trigger.fill (t : Trigger) (po : PendingOrder) : Fill where
  symbol := po.symbol
  side := po.side
  qty := po.qty.value
  price := t.executionPrice
  nettingMode := t.nettingMode

def Trigger.charges (t : Trigger) (balance spread : ℚ) : Except TradeError OpeningCharges :=
  let commission := max t.commission 0
  if t.spreadFeeEnabled then allocated balance commission spread
  else pure { commission, spread, balance := minus balance commission,
              commissionPosted := commission, spreadPosted := 0 }

def Trigger.spread (t : Trigger) : Except TradeError ℚ :=
  if t.spreadFeeEnabled then require t.spreadCharge .pendingSpreadUnavailable else pure 0

def triggerPendingOrderCore (s : Floor) (t : Trigger) : Except TradeError (Floor × TriggerResult) :=
  match s.orders.get t.order with
  | none => .ok (s, .notPending)
  | some po =>
    let reject := fun code => (setStatus s t.order .rejected, TriggerResult.rejected code)
    if po.status ≠ .pending then .ok (s, .notPending)
    else if t.due then .ok (setStatus s t.order .expired, .expired)
    else match t.refusedAtPrice, s.accounts.get po.account with
    | some code, _ => .ok (reject code)
    | none, none => .ok (reject "account_not_found")
    | none, some a => do
      let spread ← t.spread
      match t.refusedByLimits with
      | some code => pure (reject code)
      | none => do
        let (s, position, merged) ← execute s po.account (t.fill po)
        let charges ← t.charges a.balance.value spread
        let s ← postCharges s po.account charges (.opening po.symbol po.side position (some t.order))
        pure (setStatus s t.order (.triggered position), .triggered position merged)

end Opening

section Closing

/-- The PnL is absent where the account's currency has no conversion. -/
structure Close where
  account : ℕ
  position : ℕ
  closeQty : Option ℚ
  pnlAccount : Option ℚ
  newBalance : ℚ
  newEquity : ℚ
  reason : String

inductive CloseResult
  | alreadyClosed | invalidQty | qtyExceedsPosition | pnlConversionUnsupported
  | closed (isPartial : Bool) (newBalance newEquity : ℚ)
deriving DecidableEq

def realize (s : Floor) (a : TradingAccount) (c : Close) (p : Position) (pnl : ℚ) :
    Except TradeError (Floor × ℚ × ℚ) := do
  let remainingFloating := minus c.newEquity c.newBalance
  let freshBalanceAfter := plus a.balance.value pnl
  let safeBalance := max freshBalanceAfter 0
  let safeEquity := max (plus safeBalance remainingFloating) 0
  let shortfall := |min freshBalanceAfter 0|
  let s ← postEntry s c.account .realizedPnl pnl safeBalance (.realized p.symbol p.side c.reason)
  let s ← postEntryIf (0 < shortfall) s c.account .adjustment 0 safeBalance
    (.negativeBalanceGuard shortfall freshBalanceAfter pnl)
  pure (s, safeBalance, safeEquity)

def reducePosition (s : Floor) (position : ℕ) (p : Position) (closeQty : ℚ) : Except TradeError Floor :=
  if closeQty = p.qty.value then .ok (deletePosition s position)
  else do
    let qty ← column 18 6 "qty" (minus p.qty.value closeQty)
    pure { s with positions := s.positions.update position fun _ => some { p with qty } }

def lockedPosition (s : Floor) (c : Close) : Option Position :=
  ((s.positions.get c.position).bind id).filter fun p => p.account = c.account

def closePosition (s : Floor) (c : Close) : Except TradeError (Floor × CloseResult) :=
  match lockedPosition s c with
  | none => .ok (s, .alreadyClosed)
  | some p =>
    let freshQty := p.qty.value
    let closeQty := c.closeQty.getD freshQty
    if closeQty ≤ 0 then .ok (s, .invalidQty)
    else if freshQty < closeQty then .ok (s, .qtyExceedsPosition)
    else match c.pnlAccount with
    | none => .ok (s, .pnlConversionUnsupported)
    | some pnl => do
      let a ← require (s.accounts.get c.account) (.accountNotFound c.account)
      let (s, safeBalance, safeEquity) ← realize s a c p pnl
      let s ← reducePosition s c.position p closeQty
      let s ← saveBalanceEquity s c.account safeBalance safeEquity
      pure (s, .closed (decide (closeQty ≠ freshQty)) safeBalance safeEquity)

def dbClosePositionAtomic (s : Floor) (c : Close) : Except TradeError (Floor × CloseResult) := closePosition s c

def closePositionSync (s : Floor) (c : Close) : Except TradeError (Floor × CloseResult) := closePosition s c

structure ForceClose where
  account : ℕ
  symbol : Option String
  pnl : ℕ → ℚ

def ForceClose.matches (f : ForceClose) : Option Position → Bool
  | some p => p.account = f.account ∧ ∀ symbol ∈ f.symbol, p.symbol = symbol
  | none => false

def ForceClose.batch (s : Floor) (f : ForceClose) : List (ℕ × String) :=
  s.positions.rows.filterMap fun r => if f.matches r.2 then r.2.map fun p => (r.1, p.symbol) else none

/-- One turn of the loop, with the running balance as an exact sum. -/
def closeNext (f : ForceClose) (acc : Floor × ℚ) (r : ℕ × String) : Except TradeError (Floor × ℚ) := do
  let runningBalance := acc.2 + f.pnl r.1
  let s ← postEntry acc.1 f.account .realizedPnl (f.pnl r.1) runningBalance (.adminForceClose r.2)
  pure (deletePosition s r.1, runningBalance)

def forceClose (s : Floor) (f : ForceClose) : Except TradeError Floor := do
  let a ← require (s.accounts.get f.account) (.accountNotFound f.account)
  let (s, runningBalance) ← (f.batch s).foldlM (closeNext f) (s, a.balance.value)
  saveBalanceEquity s f.account runningBalance runningBalance

end Closing

section Steps

inductive Call
  | openPosition (o : Open)
  | placeOrder (account : ℕ) (symbol : String) (side : Side) (qty : Numeric 18 6)
  | triggerPendingOrder (t : Trigger)
  | closeWs (c : Close)
  | closeDaemon (c : Close)
  | forceClose (f : ForceClose)
  | ruleEntry (account : ℕ) (message : String)

/-- The rules of an account add rows of no amount after its closes. -/
def ruleEntry (s : Floor) (account : ℕ) (message : String) : Except TradeError Floor := do
  let a ← require (s.accounts.get account) (.accountNotFound account)
  postEntry s account .adjustment 0 a.balance.value (.rule message)

def call (s : Floor) : Call → Floor
  | .openPosition o => commit s ((dbOpenPositionAtomic s o).map Prod.fst)
  | .placeOrder account symbol side qty =>
    { s with orders := s.orders.insert { account, symbol, side, qty, status := .pending } }
  | .triggerPendingOrder t => commit s ((triggerPendingOrderCore s t).map Prod.fst)
  | .closeWs c => commit s ((dbClosePositionAtomic s c).map Prod.fst)
  | .closeDaemon c => commit s ((closePositionSync s c).map Prod.fst)
  | .forceClose f => commit s (forceClose s f)
  | .ruleEntry account message => commit s (ruleEntry s account message)

end Steps

end TrxSimulator.Trading.Writers
