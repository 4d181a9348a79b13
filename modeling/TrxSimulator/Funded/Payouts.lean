import TrxSimulator.Payouts.Records

/-! Payouts of funded accounts: the request, its approval with virtual or with internal capital, and the
provider's answer to an internal payout. -/

namespace TrxSimulator.Funded.Payouts

open Foundations.Tables Foundations.Outcomes Foundations.Decimals Money Accounts Wallets.Ledger
open Payouts.Records

def cents (name : String) (n : ℤ) : Except PayoutError Balance :=
  require (store 12 2 (scaled 2 n)) (.ledger (.numericOverflow name (scaled 2 n)))

lemma cents_eq_ok {name : String} {n : ℤ} {b : Balance} : cents name n = .ok b ↔ n = b.units := by
  rw [cents, require_eq_ok, store_scaled]

/-- The unique constraint: another active request of the enrollment. -/
def otherActive (s : Platform) (enrollment request : ℕ) : Bool :=
  s.fundedPayouts.rows.any fun r =>
    r.1 ≠ request ∧ r.2.enrollment = enrollment ∧ r.2.status.terminal = false

def setBalance (balance : Balance) (account : TradingAccount) : TradingAccount :=
  { account with balance := balance, equity := balance }

def payoutEntry (request : ℕ) (f : FundedPayoutRequest) (newBalance : Balance) (internal : Bool) :
    LedgerEntry where
  account := f.fundedAccount
  eventType := .fundedPayout
  amount := (f.traderCut.widen balance_digits).negate
  balanceAfter := newBalance.widen balance_digits
  info := some (.fundedPayout request f.brokerCut.units f.cycleProfit.units internal)

def reversalEntry (request account : ℕ) (traderCut restored : Balance) (payoutId : Option String)
    (reason : String) : LedgerEntry where
  account := account
  eventType := .adjustment
  amount := traderCut.widen balance_digits
  balanceAfter := restored.widen balance_digits
  info := some (.fundedReversal request payoutId reason)

/-- The account with the trader's cut taken out, as both approvals check and compute it. -/
def debitFunded (s : Platform) (f : FundedPayoutRequest) : Except PayoutError Balance := do
  let account ← lockAccount s f.fundedAccount
  if account.balance.units < f.traderCut.units then
    .error (.insufficientFundedBalance f.fundedAccount account.balance.units f.traderCut.units)
  else cents "balance" (account.balance.units - f.traderCut.units)

def approveSimPayout (s : Platform) (request adminUser : ℕ) : Except PayoutError Platform := do
  let f ← lockFunded s request
  if f.status ≠ .pending then .error (.fundedAlreadyProcessed request f.status)
  else if f.fundedType ≠ .sim then .error (.wrongFundedType request f.fundedType)
  else do
    let newBalance ← debitFunded s f
    let opened := getOrCreateWallet s.ledger f.user
    let credited ← (creditWallet opened.1 opened.2 f.traderCut.value .fundedPayout
      { note := some (.fundedSim request), initiatedBy := some adminUser }).mapError .ledger
    pure { s with
      accounts := s.accounts.update f.fundedAccount fun a =>
        { setBalance newBalance a with initialBalance := some newBalance }
      entries := s.entries.insert (payoutEntry request f newBalance false)
      ledger := credited.1
      fundedPayouts := s.fundedPayouts.update request fun f =>
        { f with status := .completed, ledgerEntry := some s.entries.next,
                 walletCreditTx := some credited.2, reviewedBy := some adminUser }
      revenue := bookRevenue s.revenue (.fundedProfitShare request) f.brokerCut }

def internalWithdrawal (f : FundedPayoutRequest) (adminUser : ℕ) : WithdrawalRequest where
  user := f.user
  amountUsd := f.traderCut
  netAmount := none
  feeAmount := none
  cryptoCurrency := f.cryptoCurrency
  walletAddress := f.walletAddress
  status := .approved
  npBatchId := ""
  npPayoutId := ""
  npPayoutStatus := ""
  cryptoAmount := none
  reviewedBy := some adminUser

def approveInternalPayout (s : Platform) (request adminUser : ℕ) : Except PayoutError Platform := do
  let f ← lockFunded s request
  if f.status ≠ .pending then .error (.fundedAlreadyProcessed request f.status)
  else if f.fundedType ≠ .internal then .error (.wrongFundedType request f.fundedType)
  else if f.cryptoCurrency = "" ∨ f.walletAddress = "" then .error (.missingDestination request)
  else do
    let newBalance ← debitFunded s f
    pure { s with
      accounts := s.accounts.update f.fundedAccount (setBalance newBalance)
      entries := s.entries.insert (payoutEntry request f newBalance true)
      withdrawals := s.withdrawals.insert (internalWithdrawal f adminUser)
      fundedPayouts := s.fundedPayouts.update request fun f =>
        { f with status := .approved, withdrawalRequest := some s.withdrawals.next,
                 ledgerEntry := some s.entries.next, reviewedBy := some adminUser }
      internals := s.internals.insert
        { request := request, withdrawal := s.withdrawals.next, fundedAccount := f.fundedAccount,
          traderCut := f.traderCut, stage := .claimed } }

def Platform.setInternal (s : Platform) (internal : ℕ) (stage : InternalStage) : Platform :=
  { s with internals := s.internals.update internal fun x => { x with stage := stage } }

def reverseAndFail (s : Platform) (x : Internal) (reason : String) : Except PayoutError Platform := do
  let account ← lockAccount s x.fundedAccount
  let restored ← cents "balance" (account.balance.units + x.traderCut.units)
  pure { s with
    accounts := s.accounts.update x.fundedAccount (setBalance restored)
    entries := s.entries.insert (reversalEntry x.request x.fundedAccount x.traderCut restored none reason)
    fundedPayouts := s.fundedPayouts.update x.request fun f => { f with status := .failed }
    withdrawals := s.withdrawals.update x.withdrawal fun wr => { wr with status := .failed } }

def markAmbiguous (s : Platform) (request : ℕ) (reason batchId payoutId : String) : Platform :=
  s.setFunded request fun f =>
    { f with adminNote := "AMBIGUOUS_SUBMIT_FAILURE @ " ++ toString s.now ++ " — " ++ reason ++
        (if batchId = "" ∧ payoutId = "" then ""
         else " [batch_id='" ++ batchId ++ "' payout_id='" ++ payoutId ++ "']") }

/-- What the calls of phase 2 to the provider came to. -/
inductive InternalAnswer
  | estimateFailed (reason : String)
  | authFailed (reason : String)
  | postFailed (reason : String)
  | unparseable (reason : String)
  | accepted (batchId payoutId rawStatus : String) (cryptoAmount : ℚ)

def submitInternal (s : Platform) (internal : ℕ) (answer : InternalAnswer) : Platform :=
  match s.internals.get internal with
  | some ⟨request, withdrawal, account, traderCut, .claimed⟩ =>
    let reverse (reason : String) : Platform :=
      Platform.setInternal
        (commit s (reverseAndFail s ⟨request, withdrawal, account, traderCut, .claimed⟩ reason)) internal .finished
    match answer with
    | .estimateFailed reason =>
      reverse ("estimate_price failed — nothing was sent to NowPayments: " ++ reason)
    | .authFailed reason =>
      reverse ("NowPayments auth failed — /v1/payout was never attempted: " ++ reason)
    | .postFailed reason =>
      Platform.setInternal (markAmbiguous s request
        ("payout POST failed after auth succeeded — provider outcome unknown: " ++ reason) "" "")
        internal .finished
    | .unparseable reason =>
      Platform.setInternal (markAmbiguous s request
        ("payout POST returned an unparseable body: " ++ reason) "" "") internal .finished
    | .accepted batchId payoutId rawStatus cryptoAmount =>
      Platform.setInternal s internal (.accepted batchId payoutId rawStatus cryptoAmount)
  | _ => s

def recordWithdrawal (s : Platform) (internal : ℕ) : Platform :=
  match s.internals.get internal with
  | some ⟨_, withdrawal, _, _, .accepted batchId payoutId rawStatus cryptoAmount⟩ =>
    Platform.setInternal (s.setWithdrawal withdrawal fun wr =>
      { wr with status := .processing, npBatchId := batchId, npPayoutId := payoutId,
                npPayoutStatus := rawStatus, cryptoAmount := some cryptoAmount })
      internal (.recorded batchId payoutId)
  | _ => s

/-- The second update, by key alone; the unique constraint can refuse it. -/
def recordRequest (s : Platform) (internal : ℕ) : Platform :=
  match s.internals.get internal with
  | some ⟨request, _, _, _, .recorded batchId payoutId⟩ =>
    match s.fundedPayouts.get request with
    | none => Platform.setInternal s internal .finished
    | some f =>
      if otherActive s f.enrollment request then
        Platform.setInternal (markAmbiguous s request
          "payout succeeded at provider but local persistence failed: fpr_one_active_request_per_enrollment"
          batchId payoutId) internal .finished
      else Platform.setInternal (s.setFunded request fun f => { f with status := .processing })
        internal .finished
  | _ => s

def handleInternalPayoutWebhook (s : Platform) (request : ℕ) (newStatus : Normalized)
    (payoutId : String) : Except PayoutError Platform := do
  let f ← lockFunded s request
  if f.status.terminal = true then pure s
  else match newStatus with
    | .completed => do
      let account ← lockAccount s f.fundedAccount
      pure { s with
        accounts := s.accounts.update f.fundedAccount fun a => { a with initialBalance := some account.balance }
        fundedPayouts := s.fundedPayouts.update request fun f => { f with status := .completed }
        revenue := bookRevenue s.revenue (.fundedProfitShare request) f.brokerCut }
    | .failed => do
      let account ← lockAccount s f.fundedAccount
      let restored ← cents "balance" (account.balance.units + f.traderCut.units)
      pure { s with
        accounts := s.accounts.update f.fundedAccount (setBalance restored)
        entries := s.entries.insert (reversalEntry request f.fundedAccount f.traderCut restored
          (some payoutId) "NowPayments payout FAILED")
        fundedPayouts := s.fundedPayouts.update request fun f => { f with status := .failed } }
    | .processing => pure s

structure Visit where
  emailVerified : Bool
  termsAccepted : Bool
  otpVerified : Bool
  kycApproved : Bool
  accountActive : Bool
  tradingDays : ℕ
  cryptoCurrency : String
  walletAddress : String

def withdrawalChoices : List String :=
  ["btc", "eth", "usdttrc20", "sol", "bnbbsc"]

def gate (name : String) (open_ : Bool) : Except PayoutError Unit :=
  if open_ = true then .ok () else .error (.gate name)

/-- The base of the profit cycle: a missing or zero initial balance falls back to the balance. -/
def cycleBase (account : TradingAccount) : Balance :=
  match account.initialBalance with
  | some initial => if initial.units = 0 then account.balance else initial
  | none => account.balance

def traderCut (cycleProfit : ℤ) (splitPct : Numeric 5 2) : ℤ :=
  quantize 2 (scaled 2 cycleProfit * splitPct.value / 100)

def cycleProfit (account : TradingAccount) : ℤ := max 0 (account.balance.units - (cycleBase account).units)

def newDraft (user enrollment pk : ℕ) (account : TradingAccount) (config : FundedConfig) (visit : Visit) :
    Draft where
  enrollment := enrollment
  fundedAccount := pk
  user := user
  balance := account.balance
  initial := cycleBase account
  cycleProfit := cycleProfit account
  traderCut := traderCut (cycleProfit account) config.profitSplitPct
  brokerCut := cycleProfit account - traderCut (cycleProfit account) config.profitSplitPct
  fundedConfig := config
  cryptoCurrency := if config.fundedType = .internal then visit.cryptoCurrency else ""
  walletAddress := if config.fundedType = .internal then visit.walletAddress else ""

/-- The part of the view before its transaction: it reads the account without a lock. -/
def readFundedPayout (s : Platform) (user enrollment : ℕ) (visit : Visit) : Except PayoutError Draft := do
  let e ← require (s.enrollments.get enrollment) (.doesNotExist "ChallengeEnrollment" enrollment)
  if e.user ≠ user then .error (.doesNotExist "ChallengeEnrollment" enrollment)
  else do
    let _ ← gate "status" e.funded
    let pk ← require e.fundedAccount (.gate "funded_account")
    let config ← require e.fundedConfig (.gate "funded_config")
    let _ ← gate "email" visit.emailVerified
    let _ ← gate "terms" visit.termsAccepted
    let _ ← gate "2fa" visit.otpVerified
    let _ ← gate "kyc" visit.kycApproved
    let account ← lockAccount s pk
    let _ ← gate "account_status" visit.accountActive
    if cycleProfit account < config.minPayoutUsd.units then .error (.gate "min_payout_usd")
    else if visit.tradingDays < config.minTradingDays then .error (.gate "min_trading_days")
    else if config.fundedType = .internal ∧
        (visit.cryptoCurrency ∉ withdrawalChoices ∨ visit.walletAddress = "") then
      .error (.gate "destination")
    else pure (newDraft user enrollment pk account config visit)

/-- The transaction of the view: it locks the account but writes what was read before. -/
def createFundedPayout (s : Platform) (d : Draft) : Except PayoutError Platform := do
  let _ ← lockAccount s d.fundedAccount
  if s.fundedPayouts.exists? (fun f => f.enrollment = d.enrollment ∧
      (f.status = .pending ∨ f.status = .approved)) = true then
    .error (.activeFundedRequestExists d.enrollment)
  else do
    let profit ← cents "cycle_profit" d.cycleProfit
    let trader ← cents "trader_cut" d.traderCut
    let broker ← cents "broker_cut" d.brokerCut
    if otherActive s d.enrollment s.fundedPayouts.next = true then
      .error (.activeFundedRequestExists d.enrollment)
    else pure { s with
      fundedPayouts := s.fundedPayouts.insert
        { enrollment := d.enrollment, fundedAccount := d.fundedAccount, user := d.user,
          cycleProfit := profit, traderCut := trader, brokerCut := broker,
          profitSplitPct := d.fundedConfig.profitSplitPct, balanceSnapshot := d.balance,
          initialBalanceSnapshot := d.initial, fundedType := d.fundedConfig.fundedType,
          cryptoCurrency := d.cryptoCurrency, walletAddress := d.walletAddress, ledgerEntry := none,
          walletCreditTx := none, withdrawalRequest := none, status := .pending, reviewedBy := none,
          adminNote := "" } }

end TrxSimulator.Funded.Payouts
