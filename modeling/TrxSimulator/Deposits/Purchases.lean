import TrxSimulator.Foundations.Floats
import TrxSimulator.Deposits.Callbacks
import TrxSimulator.Challenges.Progress

/-! Challenge purchases: the callback of a paid deposit opens an enrollment in its transaction, among the enrollments
that wallets, the external platform and the staff open. -/

namespace TrxSimulator.Deposits.Purchases

open Foundations.Tables Foundations.Outcomes Foundations.Decimals Foundations.Floats Foundations.Runs Money
open Wallets.Ledger Callbacks Challenges.Evaluation Challenges.Progress

/-- The provider's answer to a purchase; its amount is the number that its JSON writes. -/
structure Quote where
  paymentId : String
  payAmount : Option ℚ
  status : Option Status

/-- A callback's payload; its amount is the number that its JSON writes. -/
structure Notice where
  paymentId : String
  orderId : Option ℕ
  status : Status
  actuallyPaid : Option ℚ
  payCurrency : String

structure Product where
  price : Callbacks.ChallengeProduct
  terms : Challenges.Evaluation.ChallengeProduct

structure ChallengeFee where
  enrollment : ℕ
  amount : Numeric 10 2

inductive FulfilmentError
  | deposit (e : DepositError)
  | challenge (e : ChallengeError)
  | ledger (e : LedgerError)
  | productMissing (product : ℕ)
  | enrollmentPerDeposit (deposit : ℕ)
  | queueDown

/-- `deposit` is a column of the enrollments; `quotes` is what the provider has asked for a deposit. -/
structure Shop where
  payments : Callbacks.Desk
  challenges : Challenges.Evaluation.Desk
  deposit : ℕ → Option ℕ
  revenue : Table ChallengeFee
  quotes : ℕ → Option Quote

/-- A JSON number in the column `pay_amount`: a float, in the context of the field, in the column's scale. -/
def payColumn (x : ℚ) : Option (Numeric 24 10) := store 24 10 (context 24 (float x))

/-- `Decimal(str(x))` of a JSON number. -/
def reading (x : ℚ) : ℚ := str (float x)

def Quote.answer (q : Quote) : Option Answer :=
  match q.payAmount with
  | none => some { paymentId := q.paymentId, payAmount := none, status := q.status }
  | some x => (payColumn x).map fun r => { paymentId := q.paymentId, payAmount := some r, status := q.status }

def Notice.ipn (n : Notice) : Ipn where
  paymentId := n.paymentId
  orderId := n.orderId
  status := n.status
  actuallyPaid := n.actuallyPaid.map reading
  payCurrency := n.payCurrency

def recordChallengeFeeRevenue (revenue : Table ChallengeFee) (enrollment : ℕ) (product : Callbacks.ChallengeProduct) :
    Table ChallengeFee :=
  if revenue.exists? fun r => r.enrollment = enrollment then revenue else revenue.insert ⟨enrollment, product.priceUsd⟩

/-- The unique constraint of an enrollment's deposit. -/
def Shop.linked (s : Shop) (deposit : ℕ) : Bool :=
  (List.range s.challenges.enrollments.next).any fun i => decide (s.deposit i = some deposit)

/-- The transaction that three flows share: the enrollment, the payment where one is made here, the revenue and the
account of the first phase. -/
def openChallenge (s : Shop) (user product : ℕ) (source : EnrollmentSource) (deposit : Option ℕ)
    (pay : WalletLedger String → Callbacks.ChallengeProduct → Except LedgerError (WalletLedger String)) :
    Except FulfilmentError Shop := do
  let price ← require (s.payments.products.get product) (.productMissing product)
  let enrolled ← (enroll s.challenges user product source).mapError .challenge
  let paid ← (pay s.payments.ledger price).mapError .ledger
  let activated ← (activateChallengeEnrollment enrolled s.challenges.enrollments.next).mapError .challenge
  pure { s with
    payments := { s.payments with ledger := paid }
    challenges := activated
    deposit := Function.update s.deposit s.challenges.enrollments.next deposit
    revenue := recordChallengeFeeRevenue s.revenue s.challenges.enrollments.next price }

/-- `queued` is whether the email is queued, or none is due. -/
def fulfillChallengePurchase (s : Shop) (deposit user product : ℕ) (queued : Bool) : Except FulfilmentError Shop :=
  if s.linked deposit = true then .error (.enrollmentPerDeposit deposit)
  else do
    let fulfilled ← openChallenge s user product .deposit (some deposit) fun ledger _ => .ok ledger
    if queued = false then .error .queueDown else .ok fulfilled

/-- The product that a callback opens a challenge of. -/
def due (d : Deposit) (ipn : Ipn) : Option ℕ :=
  if d.credited = false ∧ ipn.status.creditedStatus = true ∧ sufficient d ipn = true then d.challengeProduct else none

def settleDue (s : Shop) (deposit : ℕ) (d : Deposit) (ipn : Ipn) (queued : Bool) : Except FulfilmentError Shop :=
  match due d ipn with
  | none => .ok s
  | some product => fulfillChallengePurchase s deposit d.user product queued

def depositCallback (s : Shop) (deposit : ℕ) (ipn : Ipn) (queued : Bool) : Except FulfilmentError Shop := do
  let d ← require (s.payments.deposits.get deposit) (.deposit (.depositDoesNotExist deposit))
  let settled ← settleDue s deposit d ipn queued
  let payments ← (Callbacks.depositCallback s.payments deposit ipn true).mapError .deposit
  pure { settled with payments := payments }

def challengeWalletPurchase (s : Shop) (user product : ℕ) : Shop :=
  match s.payments.products.get product with
  | none => s
  | some _ =>
    let found := getOrCreateWallet s.payments.ledger user
    let s := { s with payments := { s.payments with ledger := found.1 } }
    commit s (openChallenge s user product .wallet none fun ledger price => do
      let debit ← debitWallet ledger found.2 price.priceUsd.value .challengeFee { initiatedBy := some user }
      pure debit.1)

def externalChallengeActivate (s : Shop) (user product : ℕ) : Except FulfilmentError Shop :=
  openChallenge s user product .external none fun ledger _ => .ok ledger

def quote (s : Shop) (creation : ℕ) (q : Quote) : Shop :=
  match (s.payments.creations.get creation).join with
  | none => s
  | some deposit =>
    if (s.quotes deposit).isSome then s else { s with quotes := Function.update s.quotes deposit (some q) }

/-- The purchase stores the answer that it has received, or fails. -/
def answer (s : Shop) (creation : ℕ) (received : Bool) : Shop :=
  let q := ((s.payments.creations.get creation).join.bind s.quotes).filter fun _ => received
  { s with payments := storeAnswer s.payments creation (q.bind Quote.answer) }

def handle (s : Shop) (callback : ℕ) (queued : Bool) : Shop :=
  match (s.payments.callbacks.get callback).join with
  | none => s
  | some (deposit, ipn) =>
    let s := { s with payments := { s.payments with callbacks := s.payments.callbacks.update callback fun _ => none } }
    commit s (depositCallback s deposit ipn queued)

inductive Action
  | deposit (user : ℕ) (amountUsd : Numeric 12 2) (cryptoCurrency : String)
  | challengePurchase (user productId : ℕ) (cryptoCurrency : String)
  | quote (creation : ℕ) (q : Quote)
  | answer (creation : ℕ) (received : Bool)
  | callback (n : Notice)
  | handle (callback : ℕ) (queued : Bool)
  | pollRead (deposit : ℕ)
  | pollWrite (poll : ℕ) (reported : Option Status)
  | walletPurchase (user product : ℕ)
  | externalActivate (user product : ℕ)
  | challenge (action : Challenges.Progress.Action)

def step (s : Shop) : Action → Shop
  | .deposit user amountUsd cryptoCurrency =>
    { s with payments := depositView s.payments user amountUsd cryptoCurrency }
  | .challengePurchase user productId cryptoCurrency =>
    { s with payments := challengePurchaseView s.payments user productId cryptoCurrency }
  | .quote creation q => quote s creation q
  | .answer creation received => answer s creation received
  | .callback n => { s with payments := receiveCallback s.payments n.ipn }
  | .handle callback queued => handle s callback queued
  | .pollRead deposit => { s with payments := Callbacks.pollRead s.payments deposit }
  | .pollWrite poll reported => { s with payments := Callbacks.pollWrite s.payments poll reported }
  | .walletPurchase user product => challengeWalletPurchase s user product
  | .externalActivate user product => commit s (externalChallengeActivate s user product)
  | .challenge action => { s with challenges := Challenges.Progress.step s.challenges action }

def start (products : List Product) : Shop where
  payments :=
    { products := .ofList (products.map Product.price)
      deposits := .empty
      ledger := { wallets := .empty, transactions := .empty }
      creations := .empty
      callbacks := .empty
      polls := .empty }
  challenges :=
    { products := .ofList (products.map Product.terms)
      enrollments := .empty
      accounts := .empty
      riskRules := .empty
      fundedConfigs := .empty
      trades := .empty
      entries := .empty
      today := 0 }
  deposit := fun _ => none
  revenue := .empty
  quotes := fun _ => none

section Promises

def Shop.asked (s : Shop) (deposit : ℕ) : Option ℚ := (s.quotes deposit).bind Quote.payAmount

def Notice.InCurrency (n : Notice) (d : Deposit) : Prop :=
  n.payCurrency = "" ∨ n.payCurrency.toLower = d.cryptoCurrency.toLower

def deliver (s : Shop) (deposit : ℕ) (n : Notice) (queued : Bool) : Shop :=
  commit s (depositCallback s deposit n.ipn queued)

structure Owed (s : Shop) (deposit : ℕ) (d : Deposit) (product : ℕ) : Prop where
  found : s.payments.deposits.get deposit = some d
  uncredited : d.credited = false
  product : d.challengeProduct = some product

structure Reports (n : Notice) (d : Deposit) (paid : ℚ) : Prop where
  credited : n.status.creditedStatus = true
  amount : n.actuallyPaid = some paid
  currency : n.InCurrency d

def Credited (s : Shop) (deposit : ℕ) : Prop := ∃ d, s.payments.deposits.get deposit = some d ∧ d.credited = true

/-- An enrollment of the deposit's user in its product, with an account for the first phase. -/
def Activated (s : Shop) (d : Deposit) (product enrollment : ℕ) : Prop :=
  ∃ e k, s.challenges.enrollments.get enrollment = some e ∧ e.user = d.user ∧ e.product = product ∧
    e.phase1Account = some k ∧ (s.challenges.accounts.get k).isSome = true

structure Fulfilled (s : Shop) (deposit : ℕ) (d : Deposit) (product : ℕ) : Prop where
  credited : Credited s deposit
  enrollment : ∃ i, s.deposit i = some deposit ∧ Activated s d product i ∧ ∀ j, s.deposit j = some deposit → j = i

/-- What a delivery promises: a paid deposit is fulfilled, and a payment below what was asked opens nothing. -/
structure Kept (s : Shop) (deposit : ℕ) (n : Notice) (queued : Bool) : Prop where
  paid : ∀ d product asked paid, Owed s deposit d product → s.asked deposit = some asked → Reports n d paid →
    asked ≤ paid → Fulfilled (deliver s deposit n queued) deposit d product
  below : ∀ asked paid, s.asked deposit = some asked → n.actuallyPaid = some paid → paid < asked →
    (deliver s deposit n queued).challenges.enrollments = s.challenges.enrollments

/-- The stored amount is not above the payment as it is read. -/
def Covered (d : Deposit) (paid : ℚ) : Prop := ∃ r, d.payAmount = some r ∧ r.value ≤ reading paid

/-- The user has no other active purchase of the product, whose target and drawdown fit their columns. -/
structure Opens (s : Shop) (user product : ℕ) : Prop where
  single : duplicateActive s.challenges s.challenges.enrollments.next (newEnrollment user product .deposit) = false
  price : (s.payments.products.get product).isSome = true
  terms : ∃ t, s.challenges.products.get product = some t ∧
    Returns (shareOfSize t.accountSize t.p1.profitTargetPct) ∧ Returns (shareOfSize t.accountSize t.p1.maxDrawdownPct)

def Clear (s : Shop) (deposit : ℕ) (n : Notice) (queued : Bool) : Prop :=
  ∀ d product asked paid, Owed s deposit d product → s.asked deposit = some asked → Reports n d paid →
    (asked ≤ paid ↔ Covered d paid ∧ Opens s d.user product ∧ queued = true)

end Promises

end TrxSimulator.Deposits.Purchases
