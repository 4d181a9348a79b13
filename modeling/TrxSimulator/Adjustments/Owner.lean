import TrxSimulator.Foundations.Runs
import TrxSimulator.Adjustments.Posting
import TrxSimulator.Trading.Writers

/-! Adjustments of a trading account and of a wallet by the owner. A call looks its key up and later, in one
transaction under the lock of the account or wallet, moves the balance and records the adjustment; transfers
and opened positions come in between. -/

namespace TrxSimulator.Adjustments.Owner

open Foundations.Tables Foundations.Outcomes Foundations.Decimals Foundations.Runs Money
open Accounts (Balance TradingAccount LedgerEntry EntryMeta)
open Wallets.Ledger (LedgerError creditWallet debitWallet WalletLedger)
open Wallets.Transfers (Books)
open Trading.Writers (OpeningCharges TradeError allocated)

structure ManualBalanceAdjustment where
  tradingAccount : ℕ
  amount : Balance
  reason : String
  idempotencyKey : String
  actor : ℕ
  balanceBefore : Balance
  balanceAfter : Balance
  equityBefore : Balance
  equityAfter : Balance
  reference : String

structure OwnerWalletAdjustment where
  wallet : ℕ
  amount : Amount
  reason : String
  idempotencyKey : String
  actor : ℕ
  balanceBefore : Amount
  balanceAfter : Amount
  walletTransaction : ℕ
  reference : String

inductive OwnerError
  | permissionDenied | zeroAmount | reasonRequired | invalidTotp
  | accountDoesNotExist (account : ℕ)
  | openPositionsExist (account count : ℕ)
  | negativeBalance (before amount after : ℚ)
  | insufficientFunds (wallet : ℕ) (amount : ℚ)
  | ledger (e : LedgerError)
  | numericOverflow (column : String) (value : ℚ)
  | integrityError (constraint : String)
deriving DecidableEq

/-- An adjustment as it is asked for; the target is an account or a wallet. -/
structure Request where
  target : ℕ
  amount : ℚ
  actor : ℕ
  reason : String
  totpCode : String
  idempotencyKey : String

inductive Call
  | trading (r : Request)
  | wallet (r : Request)

def Call.request : Call → Request
  | .trading r => r
  | .wallet r => r

structure State where
  books : Books String
  manual : Table ManualBalanceAdjustment
  owner : Table OwnerWalletAdjustment
  calls : List Call

structure Gate where
  isOwnerRoot : ℕ → Bool
  verifyTotp : ℕ → String → Bool

def column (digits scale : ℕ) (name : String) (x : ℚ) : Except OwnerError (Numeric digits scale) :=
  require (store digits scale x) (.numericOverflow name x)

def validate (gate : Gate) (r : Request) : Except OwnerError Unit :=
  if gate.isOwnerRoot r.actor = false then .error .permissionDenied
  else if r.amount = 0 then .error .zeroAmount
  else if Posting.blank r.reason then .error .reasonRequired
  else if gate.verifyTotp r.actor r.totpCode = false then .error .invalidTotp
  else .ok ()

def manualKey (key : String) (a : ManualBalanceAdjustment) : Bool := a.idempotencyKey = key

def ownerKey (key : String) (a : OwnerWalletAdjustment) : Bool := a.idempotencyKey = key

def existing (s : State) : Call → Option ℕ
  | .trading r => (s.manual.first (manualKey r.idempotencyKey)).map Prod.fst
  | .wallet r => (s.owner.first (ownerKey r.idempotencyKey)).map Prod.fst

/-- The checks of a call and its look at the key. It raises, returns the adjustment there is, or goes on. -/
def lookup (gate : Gate) (s : State) (c : Call) : Except OwnerError (State × Option ℕ) := do
  validate gate c.request
  match existing s c with
  | some pk => pure (s, some pk)
  | none => pure ({ s with calls := s.calls ++ [c] }, none)

def insertManual (s : State) (a : ManualBalanceAdjustment) : Except OwnerError State :=
  if s.manual.exists? (manualKey a.idempotencyKey) then .error (.integrityError "idempotency_key")
  else if s.manual.exists? fun b => b.reference = a.reference then .error (.integrityError "reference")
  else .ok { s with manual := s.manual.insert a }

def insertOwner (s : State) (a : OwnerWalletAdjustment) : Except OwnerError State :=
  if s.owner.exists? (ownerKey a.idempotencyKey) then .error (.integrityError "idempotency_key")
  else if s.owner.exists? fun b => b.reference = a.reference then .error (.integrityError "reference")
  else if s.owner.exists? fun b => b.walletTransaction = a.walletTransaction then
    .error (.integrityError "wallet_transaction_id")
  else .ok { s with owner := s.owner.insert a }

def ownerTradingAccountAdjustment (s : State) (reference : String) (r : Request) : Except OwnerError State := do
  let account ← require (s.books.accounts.get r.target) (.accountDoesNotExist r.target)
  if 0 < s.books.openPositions r.target then .error (.openPositionsExist r.target (s.books.openPositions r.target))
  else do
    let balanceAfter := plus account.balance.value r.amount
    if balanceAfter < 0 then .error (.negativeBalance account.balance.value r.amount balanceAfter)
    else do
      let balance ← column 12 2 "balance" balanceAfter
      let entryAmount ← column 18 2 "amount" r.amount
      let entryAfter ← column 18 2 "balance_after" balanceAfter
      let amount ← column 12 2 "amount" r.amount
      let books := { s.books with
        accounts := s.books.accounts.update r.target fun a => { a with balance := balance, equity := balance }
        entries := s.books.entries.insert
          { account := r.target, eventType := .ownerCorrection, amount := entryAmount, balanceAfter := entryAfter,
            info := some (.ownerCorrection r.actor r.reason r.idempotencyKey) } }
      insertManual { s with books := books }
        { tradingAccount := r.target, amount := amount, reason := r.reason, idempotencyKey := r.idempotencyKey,
          actor := r.actor, balanceBefore := account.balance, balanceAfter := balance,
          equityBefore := account.equity, equityAfter := balance, reference := reference }

def ownerDebit (l : WalletLedger String) (r : Request) (refs : Wallets.Ledger.References String) :
    Except OwnerError (WalletLedger String × ℕ) :=
  match debitWallet l r.target (negate r.amount) .correction refs with
  | .ok moved => .ok moved
  | .error (.insufficientFunds _ _ _) => .error (.insufficientFunds r.target (negate r.amount))
  | .error e => .error (.ledger e)

def ownerMove (l : WalletLedger String) (r : Request) : Except OwnerError (WalletLedger String × ℕ) :=
  let refs := { note := some ("Owner wallet adjustment — " ++ r.reason), initiatedBy := some r.actor }
  if 0 < r.amount then (creditWallet l r.target r.amount .correction refs).mapError .ledger
  else ownerDebit l r refs

def ownerWalletAdjustment (s : State) (reference : String) (r : Request) : Except OwnerError State := do
  let wallet ← require (s.books.ledger.wallets.get r.target) (.ledger (.walletDoesNotExist r.target))
  let moved ← ownerMove s.books.ledger r
  let refreshed ← require (moved.1.wallets.get r.target) (.ledger (.walletDoesNotExist r.target))
  let amount ← column 18 2 "amount" r.amount
  insertOwner { s with books := { s.books with ledger := moved.1 } }
    { wallet := r.target, amount := amount, reason := r.reason, idempotencyKey := r.idempotencyKey,
      actor := r.actor, balanceBefore := wallet.availableBalance, balanceAfter := refreshed.availableBalance,
      walletTransaction := moved.2, reference := reference }

/-- The transaction of a call after its look at the key. -/
def transact (s : State) (reference : String) : Call → Except OwnerError State
  | .trading r => ownerTradingAccountAdjustment s reference r
  | .wallet r => ownerWalletAdjustment s reference r

/-- An order that is admitted, by a market order or a pending one; a pending order without the spread fee has
its commission taken off unrounded. -/
structure Open where
  account : ℕ
  merges : Bool
  allocates : Bool
  commission : ℚ
  spread : ℚ

def Open.charges (o : Open) (balance : ℚ) : Except TradeError OpeningCharges :=
  let commission := max o.commission 0
  if o.allocates then allocated balance commission (max o.spread 0)
  else pure { commission, spread := 0, balance := minus balance commission,
              commissionPosted := commission, spreadPosted := 0 }

def chargeEntry (s : Books String) (p : Prop) [Decidable p] (account : ℕ) (eventType : Accounts.EventType)
    (amount balanceAfter : ℚ) : Except OwnerError (Books String) :=
  if p then do
    let amount ← column 18 2 "amount" amount
    let balanceAfter ← column 18 2 "balance_after" balanceAfter
    pure { s with entries := s.entries.insert { account, eventType, amount, balanceAfter, info := none } }
  else .ok s

def openPosition (s : Books String) (o : Open) : Except OwnerError (Books String) := do
  let account ← require (s.accounts.get o.account) (.accountDoesNotExist o.account)
  let charges ← (o.charges account.balance.value).mapError fun _ => .integrityError "opening_charges"
  let positions := if o.merges ∧ 0 < s.openPositions o.account then s.positions
    else s.positions.insert { account := o.account }
  let s ← chargeEntry { s with positions := positions } (0 < charges.commission) o.account .commission
    (negate charges.commissionPosted) charges.balance
  let s ← chargeEntry s (0 < charges.spread) o.account .fee (negate charges.spreadPosted) charges.balance
  if 0 < charges.commission ∨ 0 < charges.spread then do
    let balance ← column 12 2 "balance" charges.balance
    pure { s with accounts := s.accounts.update o.account fun a => { a with balance := balance } }
  else pure s

inductive Action
  | lookup (c : Call)
  | transact (call : ℕ) (reference : String)
  | transferToAccount (q : Wallets.Transfers.Request String)
  | transferToWallet (q : Wallets.Transfers.Request String)
  | openPosition (o : Open)

/-- A transaction that raises is rolled back; either way its call is over. -/
def step (gate : Gate) (s : State) : Action → State
  | .lookup c => commit s ((lookup gate s c).map Prod.fst)
  | .transact i reference =>
    match s.calls[i]? with
    | none => s
    | some c => { commit s (transact s reference c) with calls := s.calls.eraseIdx i }
  | .transferToAccount q => { s with books := (Wallets.Transfers.transferToAccount s.books q).1 }
  | .transferToWallet q => { s with books := (Wallets.Transfers.transferToWallet s.books q).1 }
  | .openPosition o => { s with books := commit s.books (openPosition s.books o) }

end TrxSimulator.Adjustments.Owner
