import TrxSimulator.Wallets.Ledger

/-! Crypto deposits: a row is inserted, the provider's answer updates it later, payment callbacks credit
the wallet or open a challenge, and status polls copy the provider's status. -/

namespace TrxSimulator.Deposits.Callbacks

open Foundations.Tables Foundations.Outcomes Foundations.Decimals Money Wallets.Ledger

/-- `other` stands for a provider status that is none of the named ones. -/
inductive Status
  | pending | waiting | confirming | confirmed | sending | partiallyPaid | finished | failed | refunded
  | expired
  | other (text : String)
deriving DecidableEq

def Status.creditedStatus : Status → Bool
  | .finished | .confirmed => true
  | _ => false

def Status.stopsPolling : Status → Bool
  | .expired | .failed | .refunded => true
  | _ => false

def Status.fits : Status → Bool
  | .other text => text.length ≤ 20
  | _ => true

structure ChallengeProduct where
  priceUsd : Numeric 10 2
deriving DecidableEq

structure Deposit where
  user : ℕ
  amountUsd : Numeric 12 2
  cryptoCurrency : String
  paymentId : Option String
  status : Status
  payAmount : Option (Numeric 24 10)
  credited : Bool
  challengeProduct : Option ℕ
deriving DecidableEq

structure Answer where
  paymentId : String
  payAmount : Option (Numeric 24 10)
  status : Option Status

structure Ipn where
  paymentId : String
  orderId : Option ℕ
  status : Status
  actuallyPaid : Option ℚ
  payCurrency : String

inductive DepositError
  | depositDoesNotExist (deposit : ℕ)
  | statusTooLong (status : Status)
  | challengeFulfilment (deposit : ℕ)
  | ledger (e : LedgerError)
  | numericOverflow (column : String) (value : ℚ)
deriving DecidableEq

/-- The tables, and the requests under way: creations that await the provider's answer, callbacks
that have found their deposit, polls that have read it. -/
structure Desk where
  products : Table ChallengeProduct
  deposits : Table Deposit
  ledger : WalletLedger String
  creations : Table (Option ℕ)
  callbacks : Table (Option (ℕ × Ipn))
  polls : Table (Option (ℕ × Status))

def minimumDeposit : ℤ := 2000

def Desk.create (s : Desk) (user : ℕ) (amountUsd : Numeric 12 2) (cryptoCurrency : String)
    (challengeProduct : Option ℕ) : Desk :=
  { s with
    ledger := (getOrCreateWallet s.ledger user).1
    creations := s.creations.insert (some s.deposits.next)
    deposits := s.deposits.insert
      { user := user, amountUsd := amountUsd, cryptoCurrency := cryptoCurrency, paymentId := none,
        status := .pending, payAmount := none, credited := false, challengeProduct := challengeProduct } }

def depositView (s : Desk) (user : ℕ) (amountUsd : Numeric 12 2) (cryptoCurrency : String) : Desk :=
  if amountUsd.units < minimumDeposit then s else s.create user amountUsd cryptoCurrency none

def challengePurchaseView (s : Desk) (user productId : ℕ) (cryptoCurrency : String) : Desk :=
  match s.products.get productId with
  | none => s
  | some product => s.create user (product.priceUsd.widen (by decide)) cryptoCurrency (some productId)

def applyAnswer (answer : Option Answer) (d : Deposit) : Deposit :=
  match answer with
  | some a =>
    if (a.status.getD .waiting).fits then
      { d with paymentId := some a.paymentId, payAmount := a.payAmount, status := a.status.getD .waiting }
    else { d with status := .failed }
  | none => { d with status := .failed }

/-- The update after the provider answered, or `failed` when the call or the update raised. -/
def storeAnswer (s : Desk) (creation : ℕ) (answer : Option Answer) : Desk :=
  match (s.creations.get creation).join with
  | none => s
  | some deposit => { s with
      creations := s.creations.update creation fun _ => none
      deposits := s.deposits.update deposit (applyAnswer answer) }

def findDeposit (s : Desk) (ipn : Ipn) : Option ℕ :=
  match s.deposits.latest fun d => d.paymentId = some ipn.paymentId with
  | some (deposit, _) => some deposit
  | none => ipn.orderId.bind fun deposit => (s.deposits.get deposit).map fun _ => deposit

def receiveCallback (s : Desk) (ipn : Ipn) : Desk :=
  match findDeposit s ipn with
  | none => s
  | some deposit => { s with callbacks := s.callbacks.insert (some (deposit, ipn)) }

def sufficient (d : Deposit) (ipn : Ipn) : Bool :=
  match d.payAmount, ipn.actuallyPaid with
  | some required, some paid =>
    (ipn.payCurrency = "" ∨ ipn.payCurrency.toLower = d.cryptoCurrency.toLower) ∧ required.value ≤ paid
  | _, _ => false

def addPending (l : WalletLedger String) (walletId : ℕ) (amount : ℤ) :
    Except DepositError (WalletLedger String) := do
  let wallet ← (l.wallet walletId).mapError .ledger
  let balance ← require (store 18 2 (scaled 2 (wallet.pendingBalance.units + amount)))
    (.numericOverflow "pending_balance" (scaled 2 (wallet.pendingBalance.units + amount)))
  pure { l with wallets := l.wallets.update walletId fun w => { w with pendingBalance := balance } }

def creditDeposit (s : Desk) (deposit : ℕ) (d : Deposit) (ipn : Ipn) :
    Except DepositError (WalletLedger String) := do
  let found := getOrCreateWallet s.ledger d.user
  let credit ← (creditWallet found.1 found.2 d.amountUsd.value .deposit
    { deposit := some deposit,
      note := some ("NowPayments #" ++ ipn.paymentId ++ " " ++ d.cryptoCurrency.toUpper) }).mapError .ledger
  if d.status = .confirming then addPending credit.1 found.2 (-d.amountUsd.units)
  else pure credit.1

def settleIpn (s : Desk) (deposit : ℕ) (d : Deposit) (ipn : Ipn) (fulfilled : Bool) :
    Except DepositError (WalletLedger String × Bool) :=
  if ipn.status.creditedStatus then
    match d.challengeProduct with
    | some _ =>
      if sufficient d ipn then
        if fulfilled then .ok (s.ledger, true) else .error (.challengeFulfilment deposit)
      else .ok (s.ledger, false)
    | none => (creditDeposit s deposit d ipn).map fun l => (l, true)
  else if ipn.status = .confirming ∧ d.status ≠ .confirming then
    (addPending (getOrCreateWallet s.ledger d.user).1 (getOrCreateWallet s.ledger d.user).2
      d.amountUsd.units).map fun l => (l, false)
  else .ok (s.ledger, false)

def applyIpn (ipn : Ipn) (credited : Bool) (d : Deposit) : Deposit :=
  { d with
    status := ipn.status
    paymentId := if d.paymentId.getD "" = "" ∧ ipn.paymentId ≠ "" then some ipn.paymentId else d.paymentId
    credited := credited }

/-- The locked transaction of a callback; `fulfilled` is whether the challenge could be opened. -/
def depositCallback (s : Desk) (deposit : ℕ) (ipn : Ipn) (fulfilled : Bool) : Except DepositError Desk := do
  let d ← require (s.deposits.get deposit) (.depositDoesNotExist deposit)
  if d.credited then pure s
  else do
    let settled ← settleIpn s deposit d ipn fulfilled
    if ipn.status.fits then
      pure { s with
        ledger := settled.1
        deposits := s.deposits.update deposit (applyIpn ipn settled.2) }
    else .error (.statusTooLong ipn.status)

def handleCallback (s : Desk) (callback : ℕ) (fulfilled : Bool) : Desk :=
  match (s.callbacks.get callback).join with
  | none => s
  | some (deposit, ipn) =>
    let s := { s with callbacks := s.callbacks.update callback fun _ => none }
    commit s (depositCallback s deposit ipn fulfilled)

def pollRead (s : Desk) (deposit : ℕ) : Desk :=
  match s.deposits.get deposit with
  | none => s
  | some d =>
    if d.credited = false ∧ d.paymentId.getD "" ≠ "" ∧ d.status.stopsPolling = false then
      { s with polls := s.polls.insert (some (deposit, d.status)) }
    else s

/-- The write of a poll, unless the provider failed or reported the status that was read. -/
def pollWrite (s : Desk) (poll : ℕ) (reported : Option Status) : Desk :=
  match (s.polls.get poll).join with
  | none => s
  | some (deposit, seen) =>
    let s := { s with polls := s.polls.update poll fun _ => none }
    match reported with
    | none => s
    | some status =>
      if status = seen ∨ status.fits = false then s
      else { s with deposits := s.deposits.update deposit fun d => { d with status := status } }

inductive Action
  | deposit (user : ℕ) (amountUsd : Numeric 12 2) (cryptoCurrency : String)
  | challengePurchase (user productId : ℕ) (cryptoCurrency : String)
  | answer (creation : ℕ) (answer : Option Answer)
  | callback (ipn : Ipn)
  | handle (callback : ℕ) (fulfilled : Bool)
  | pollRead (deposit : ℕ)
  | pollWrite (poll : ℕ) (reported : Option Status)

def step (s : Desk) : Action → Desk
  | .deposit user amountUsd cryptoCurrency => depositView s user amountUsd cryptoCurrency
  | .challengePurchase user productId cryptoCurrency => challengePurchaseView s user productId cryptoCurrency
  | .answer creation answer => storeAnswer s creation answer
  | .callback ipn => receiveCallback s ipn
  | .handle callback fulfilled => handleCallback s callback fulfilled
  | .pollRead deposit => pollRead s deposit
  | .pollWrite poll reported => pollWrite s poll reported

end TrxSimulator.Deposits.Callbacks
