import TrxSimulator.Foundations.Tallies
import TrxSimulator.Foundations.Windows
import TrxSimulator.Risk.Sweeps

/-! The daily PnL that every connection keeps of its account: found in the books at hydration, then tallied from the
group's events and from the closes of its own. -/

namespace TrxSimulator.Risk.DailyPnl

open Foundations.Outcomes Foundations.Tallies Foundations.Windows Foundations.Decimals
open Challenges.Evaluation Market.Pnl Trading.Levels Liquidation Sweeps

section Events

inductive ChangeAction
  | open | update | close
deriving DecidableEq

/-- Only a close carries a realized PnL. -/
structure PositionChanged where
  action : ChangeAction
  position : ℕ
  realizedPnl : Option ℚ
deriving DecidableEq

/-- The handler does not read the day on which the change was committed. -/
structure Message where
  account : ℕ
  event : PositionChanged
  committedOn : ℤ
deriving DecidableEq

def Message.pnl (m : Message) : ℚ := m.event.realizedPnl.getD 0

structure Close where
  account : ℕ
  position : ℕ
  realizedPnl : ℚ
  closedOn : ℤ
deriving DecidableEq

/-- What a connection has found in the books, when, and how many closes had been committed by then. -/
structure Hydration where
  value : ℚ
  day : ℤ
  closes : ℕ
deriving DecidableEq

/-- `closed` is what the connection has closed itself and not tallied yet. -/
structure Connection where
  account : ℕ
  daily : Tally ℤ ℚ
  hydration : Option Hydration
  closed : List ℚ
  inbox : List Message
deriving DecidableEq

structure Hub where
  book : Book
  closes : List Close
  outbox : List Message
  conns : ℕ → Option Connection

def Hub.today (s : Hub) : ℤ := s.book.desk.today

def Hub.onConn (s : Hub) (c : ℕ) (f : Connection → Connection) : Hub :=
  { s with conns := fun i => if i = c then (s.conns i).map f else s.conns i }

def Hub.announce (s : Hub) (account : ℕ) (event : PositionChanged) : Hub :=
  { s with outbox := s.outbox ++ [⟨account, event, s.today⟩] }

def trackDailyPnl (conn : Connection) (today : ℤ) (amount : ℚ) : Connection :=
  { conn with daily := conn.daily.track today amount }

def positionChanged (conn : Connection) (today : ℤ) (event : PositionChanged) : Connection :=
  match event.realizedPnl with
  | none => conn
  | some realized => trackDailyPnl conn today realized

end Events

section Closing

variable (r : Arithmetic)

/-- A copy of the position from before the lock, the price, and the part to close. -/
structure Request where
  position : ℕ
  mem : Row
  closeQty : Option ℚ
  closePx : ℚ

def estimate (b : Book) (account : ℕ) (k : Request) : ℚ :=
  unrealizedPnl r (b.terms account).currency k.mem.toPosition k.closePx

def closed (b : Book) (account : ℕ) (k : Request) : Except CloseError (Book × CloseResult) :=
  closePosition r b account k.position k.mem k.closeQty k.closePx

/-- The PnL of the locked row, where the close is committed. -/
def committedPnl (b : Book) (account : ℕ) (k : Request) : Option ℚ :=
  match closed r b account k, lockedRow b account k.position with
  | .ok (_, .closed _), some p =>
    (calculatePositionPnl r k.mem.side p.avgPrice.value k.closePx (k.closeQty.getD p.qty.value) k.mem.symbol
      (b.terms account).currency).pnlAccount.map r.float
  | _, _ => none

def closeAction (b : Book) (account : ℕ) (k : Request) : ChangeAction :=
  if (lockedRow b account k.position).any fun p => k.closeQty.getD p.qty.value = p.qty.value then .close else .update

/-- The commit, and the event that follows it with `published` as its realized PnL. -/
def commitClose (s : Hub) (account : ℕ) (k : Request) (published : ℚ → ℚ) : Hub :=
  let book := commit s.book ((closed r s.book account k).map Prod.fst)
  match committedPnl r s.book account k with
  | none => { s with book }
  | some pnl =>
    { s with book
             closes := s.closes ++ [⟨account, k.position, pnl, s.today⟩]
             outbox := s.outbox ++
               [⟨account, ⟨closeAction s.book account k, k.position, some (published pnl)⟩, s.today⟩] }

inductive ClosePath
  | orderClose | checkTpSl | doStopout | doRetailLiquidation
deriving DecidableEq

/-- Only an order of the trader closes a part, and only the stops are tallied as one sum when all of them are done. -/
def ClosePath.Ready (path : ClosePath) (conn : Connection) (k : Request) : Prop :=
  conn.hydration.isSome ∧ (path = .orderClose ∨ k.closeQty = none) ∧ (path = .checkTpSl ∨ conn.closed = [])

instance (path : ClosePath) (conn : Connection) (k : Request) : Decidable (path.Ready conn k) :=
  inferInstanceAs (Decidable (_ ∧ _ ∧ _))

/-- The liquidations tally what they had reckoned with before the lock. -/
def ClosePath.tallies (path : ClosePath) (b : Book) (account : ℕ) (k : Request) (pnl : ℚ) : ℚ :=
  match path with
  | .orderClose | .checkTpSl => pnl
  | .doStopout | .doRetailLiquidation => estimate r b account k

def closeBy (s : Hub) (c : ℕ) (path : ClosePath) (k : Request) : Hub :=
  match s.conns c with
  | none => s
  | some conn =>
    if path.Ready conn k then
      let t := commitClose r s conn.account k id
      match committedPnl r s.book conn.account k with
      | none => t
      | some pnl =>
        t.onConn c fun conn => { conn with closed := conn.closed ++ [path.tallies r s.book conn.account k pnl] }
    else s

def trackClosed (today : ℤ) (conn : Connection) : Connection :=
  if conn.closed = [] then conn else { trackDailyPnl conn today conn.closed.sum with closed := [] }

/-- The daemon closes whole positions and publishes its estimate. -/
def daemonClose (s : Hub) (account : ℕ) (k : Request) : Hub :=
  commitClose r s account { k with closeQty := none } fun _ => r.float (roundTo 8 (estimate r s.book account k))

end Closing

section Machine

variable (r : Arithmetic)

/-- The group is joined before the books are read. -/
def join (s : Hub) (c account : ℕ) : Hub :=
  match s.conns c, s.book.desk.accounts.get account with
  | none, some _ =>
    { s with conns := fun i => if i = c then some ⟨account, ⟨0, none⟩, none, [], []⟩ else s.conns i }
  | _, _ => s

def hydration (s : Hub) (account : ℕ) : Hydration where
  value := r.float (todayPnl s.book.desk account)
  day := s.today
  closes := s.closes.length

def maybeHydrateFromDb (s : Hub) (conn : Connection) : Connection :=
  let h := hydration r s conn.account
  if conn.hydration.isSome then conn else { conn with daily := ⟨h.value, some h.day⟩, hydration := some h }

/-- Events wait until the connection is hydrated and while it is closing positions. -/
def receive (today : ℤ) (conn : Connection) : Connection :=
  match conn.inbox with
  | [] => conn
  | m :: rest =>
    if conn.hydration.isSome ∧ conn.closed = [] then positionChanged { conn with inbox := rest } today m.event else conn

def Message.deliver (m : Message) (conn : Connection) : Connection :=
  if conn.account = m.account then { conn with inbox := conn.inbox ++ [m] } else conn

def groupSend (s : Hub) (i : ℕ) : Hub :=
  match s.outbox[i]? with
  | none => s
  | some m => { s with outbox := s.outbox.eraseIdx i, conns := fun c => (s.conns c).map m.deliver }

def openRow (s : Hub) (row : Row) : Hub :=
  let book := openPosition s.book row
  if book.positions.next = s.book.positions.next then { s with book }
  else Hub.announce { s with book } row.account ⟨.open, s.book.positions.next, none⟩

def mergeInto (s : Hub) (position : ℕ) (m : Merge) : Hub :=
  let t := { s with book := saveRow s.book position fun row => mergeRow row m }
  match (s.book.positions.get position).bind id with
  | none => t
  | some row => t.announce row.account ⟨.update, position, none⟩

inductive Action
  | wait (days : ℕ)
  | openPosition (row : Row)
  | merge (position : ℕ) (m : Merge)
  | connect (c account : ℕ)
  | hydrate (c : ℕ)
  | disconnect (c : ℕ)
  | close (c : ℕ) (path : ClosePath) (k : Request)
  | track (c : ℕ)
  | daemonClose (account : ℕ) (k : Request)
  | publish (i : ℕ)
  | receive (c : ℕ)

def step (s : Hub) : Action → Hub
  | .wait days => { s with book := { s.book with desk := { s.book.desk with today := s.today + days } } }
  | .openPosition row => openRow s row
  | .merge position m => mergeInto s position m
  | .connect c account => join s c account
  | .hydrate c => s.onConn c (maybeHydrateFromDb r s)
  | .disconnect c => { s with conns := fun i => if i = c then none else s.conns i }
  | .close c path k => closeBy r s c path k
  | .track c => s.onConn c (trackClosed s.today)
  | .daemonClose account k => daemonClose r s account k
  | .publish i => groupSend s i
  | .receive c => s.onConn c (receive s.today)

end Machine

end TrxSimulator.Risk.DailyPnl
