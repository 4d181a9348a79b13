import TrxSimulator.Foundations.Texts
import TrxSimulator.Payouts.Records
import TrxSimulator.Withdrawals.Addresses

/-! Withdrawals that a code sent by mail authorises. A request reads its challenge, and then locks it to
check a code, overwrites its code, or opens the withdrawal the challenge was created for. -/

namespace TrxSimulator.Withdrawals.Otp

open Foundations.Tables Foundations.Outcomes Foundations.Decimals Foundations.Texts Money Accounts Wallets.Ledger
open Payouts.Records (WithdrawalStatus WithdrawalRequest)
open Addresses (Registry Route pendingWallet createPendingWallet)

inductive Purpose
  | withdrawal | addressChange
deriving DecidableEq

def Purpose.text : Purpose → String
  | .withdrawal => "WITHDRAWAL"
  | .addressChange => "ADDRESS_CHANGE"

inductive ChallengeStatus
  | pending | verified | used | expired | locked
deriving DecidableEq

def ChallengeStatus.nonTerminal : ChallengeStatus → Bool
  | .pending | .verified => true
  | .used | .expired | .locked => false

/-- What a challenge freezes when it is created. -/
structure Payload where
  user : ℕ
  purpose : Purpose
  amountUsd : Option Balance
  withdrawAll : Bool
  asset : String
  network : String
  walletAddress : String
deriving DecidableEq

structure Challenge extends Payload where
  codeHash : String
  expiresAt : ℤ
  attempts : ℕ
  maxAttempts : ℕ
  lastSentAt : ℤ
  status : ChallengeStatus
deriving DecidableEq

structure Withdrawal extends WithdrawalRequest where
  feeRate : Option (Numeric 5 2)
  debitTx : Option ℕ
  otpChallenge : Option ℕ
  requiredApprovals : ℕ
deriving DecidableEq

structure Settings where
  expiry : ℤ
  maxAttempts : ℕ
  resendCooldown : ℤ
  addressCooldown : ℤ
  digest : String → String

structure FeeConfig where
  percent : Numeric 5 2
  enabled : Bool
deriving DecidableEq

/-- How far a request has come with the challenge as it saw it. -/
inductive Stage
  | opened | resending | finalizing
deriving DecidableEq

structure Call where
  challenge : ℕ
  seen : Challenge
  stage : Stage
deriving DecidableEq

structure Teller where
  ledger : WalletLedger String
  challenges : Table Challenge
  withdrawals : Table Withdrawal
  registry : Registry
  calls : Table (Option Call)
  feeConfig : FeeConfig

inductive OtpError
  | activeChallengeExists (user : ℕ)
  | challengeNotVerifiable (challenge : ℕ) (status : ChallengeStatus)
  | pendingWithdrawalExists
  | nothingToWithdraw (wallet : ℕ)
  | belowMinimumWithdrawal
  | unknownRoute (asset network : String)
  | ledger (e : LedgerError)
  | numericOverflow (column : String) (value : ℚ)
  | uniqueViolation (constraint : String)
  | address (e : Addresses.WalletError)
deriving DecidableEq

def currencyByAssetNetwork (asset network : String) : Option String :=
  if asset = "USDT" ∧ network = "TRC20" then some "usdttrc20"
  else if asset = "BTC" ∧ network = "BTC_MAINNET" then some "btc"
  else none

section Challenges

variable (cfg : Settings)

def hashCode (code : String) (challenge user : ℕ) (purpose : Purpose) : String :=
  cfg.digest (toString challenge ++ ":" ++ toString user ++ ":" ++ purpose.text ++ ":" ++ strip code)

def stale (now : ℤ) (c : Challenge) : Bool := c.status = .pending ∧ c.expiresAt ≤ now

def expire (c : Challenge) : Challenge := { c with status := .expired }

def createChallenge (s : Teller) (payload : Payload) (code : String) (now : ℤ) : Except OtpError Teller :=
  let challenges := s.challenges.updateWhere (fun c => c.user = payload.user ∧ stale now c = true) expire
  if challenges.exists? fun c => c.user = payload.user ∧ c.status.nonTerminal = true then
    .error (.activeChallengeExists payload.user)
  else
    let challenge : Challenge :=
      { toPayload := payload,
        codeHash := hashCode cfg code challenges.next payload.user payload.purpose,
        expiresAt := now + cfg.expiry, attempts := 0, maxAttempts := cfg.maxAttempts, lastSentAt := now,
        status := .pending }
    .ok { s with challenges := challenges.insert challenge }

inductive Verification
  | verified (c : Challenge)
  | notFound | notVerifiable | expired | locked | invalidCode
deriving DecidableEq

def checks (now : ℤ) (c : Challenge) : Bool :=
  c.status = .pending ∧ now < c.expiresAt ∧ c.attempts < c.maxAttempts

def verifyRow (challenge : ℕ) (code : String) (now : ℤ) (c : Challenge) : Challenge :=
  if c.status ≠ .pending then c
  else if c.expiresAt ≤ now then expire c
  else if c.maxAttempts ≤ c.attempts then { c with status := .locked }
  else if hashCode cfg code challenge c.user c.purpose ≠ c.codeHash then
    { c with
      attempts := c.attempts + 1
      status := if c.maxAttempts ≤ c.attempts + 1 then .locked else .pending }
  else { c with status := .verified }

def verification (challenge : ℕ) (code : String) (now : ℤ) (c : Challenge) : Verification :=
  if c.status ≠ .pending then .notVerifiable
  else if c.expiresAt ≤ now then .expired
  else if c.maxAttempts ≤ c.attempts then .locked
  else if hashCode cfg code challenge c.user c.purpose ≠ c.codeHash then
    if c.maxAttempts ≤ c.attempts + 1 then .locked else .invalidCode
  else .verified { c with status := .verified }

/-- The locked transaction of `verify_challenge`: what it writes stays, whatever it raises afterwards. -/
def verifyChallenge (t : Table Challenge) (challenge user : ℕ) (code : String) (now : ℤ) :
    Table Challenge × Verification :=
  match t.get challenge with
  | none => (t, .notFound)
  | some c =>
    if c.user ≠ user then (t, .notFound)
    else (t.update challenge (verifyRow cfg challenge code now), verification cfg challenge code now c)

def markChallengeUsed (s : Teller) (challenge : ℕ) (seen : Challenge) : Except OtpError Teller :=
  if seen.status ≠ .verified then .error (.challengeNotVerifiable challenge seen.status)
  else .ok { s with challenges := s.challenges.update challenge fun c => { c with status := .used } }

end Challenges

section Finalization

def calculateWithdrawalFee (config : FeeConfig) (gross : ℚ) : ℚ × ℚ × ℚ :=
  let feeRate := if config.enabled then config.percent.value else 0
  let feeAmount := if config.enabled then scaled 2 (quantize 2 (divide (times gross config.percent.value) 100)) else 0
  (feeRate, feeAmount, minus gross feeAmount)

def columnOf (digits : ℕ) (name : String) (x : ℚ) : Except OtpError (Numeric digits 2) :=
  require (store digits 2 x) (.numericOverflow name x)

def finalAmount (wallet : Wallet) (seen : Challenge) : Option ℚ :=
  if seen.withdrawAll then some wallet.availableBalance.value else seen.amountUsd.map Numeric.value

def createWithdrawal (s : Teller) (w : Withdrawal) : Except OtpError Teller :=
  if s.withdrawals.exists? fun v => v.otpChallenge = w.otpChallenge then
    .error (.uniqueViolation "simulator_withdrawalrequest_otp_challenge_id_key")
  else .ok { s with withdrawals := s.withdrawals.insert w }

def finalizeWithdrawal (s : Teller) (walletId challenge : ℕ) (seen : Challenge) : Except OtpError Teller := do
  let wallet ← (s.ledger.wallet walletId).mapError .ledger
  if s.withdrawals.exists? fun v => v.user = seen.user ∧ v.status = .pending then .error .pendingWithdrawalExists
  else do
    let amount ← require (finalAmount wallet seen) (.nothingToWithdraw walletId)
    if amount ≤ 0 then .error (.nothingToWithdraw walletId)
    else if amount < 20 then .error .belowMinimumWithdrawal
    else do
      let currency ← require (currencyByAssetNetwork seen.asset seen.network) (.unknownRoute seen.asset seen.network)
      let fee := calculateWithdrawalFee s.feeConfig amount
      let debit ← (debitWallet s.ledger walletId amount .withdraw
        { note := some ("Retiro #" ++ currency.toUpper ++ " → " ++ seen.walletAddress.take 16 ++ "… (pendiente)"),
          initiatedBy := some seen.user }).mapError .ledger
      let amountUsd ← columnOf 12 "amount_usd" amount
      let feeRate ← columnOf 5 "fee_rate" fee.1
      let feeAmount ← columnOf 12 "fee_amount" fee.2.1
      let netAmount ← columnOf 12 "net_amount" fee.2.2
      let created ← createWithdrawal { s with ledger := debit.1 }
        { user := seen.user, amountUsd := amountUsd, netAmount := some netAmount, feeAmount := some feeAmount,
          cryptoCurrency := currency, walletAddress := seen.walletAddress, status := .pending, npBatchId := "",
          npPayoutId := "", npPayoutStatus := "", cryptoAmount := none, reviewedBy := none,
          feeRate := some feeRate, debitTx := some debit.2, otpChallenge := some challenge,
          requiredApprovals := if 1000 < amount then 2 else 1 }
      markChallengeUsed created challenge seen

def finalizeAddress (cfg : Settings) (s : Teller) (challenge : ℕ) (seen : Challenge) (now : ℤ) :
    Except OtpError Teller := do
  let registry ← (createPendingWallet s.registry
    (pendingWallet cfg.addressCooldown ⟨seen.user, seen.asset, seen.network⟩ seen.walletAddress (some challenge)
      now)).mapError .address
  markChallengeUsed { s with registry := registry } challenge seen

end Finalization

section Requests

variable (cfg : Settings)

def Teller.call (s : Teller) (call : ℕ) : Option Call := (s.calls.get call).join

def Teller.setCall (s : Teller) (call : ℕ) (c : Option Call) : Teller :=
  { s with calls := s.calls.update call fun _ => c }

def create (s : Teller) (payload : Payload) (code : String) (now : ℤ) : Teller :=
  let s := { s with ledger := (getOrCreateWallet s.ledger payload.user).1 }
  commit s (createChallenge cfg s payload code now)

def openChallenge (s : Teller) (user challenge : ℕ) (purpose : Purpose) : Teller :=
  match s.challenges.get challenge with
  | none => s
  | some c =>
    if c.user = user ∧ c.purpose = purpose then
      { s with calls := s.calls.insert (some ⟨challenge, c, .opened⟩) }
    else s

/-- `expire_if_stale` on a challenge that was read before: the row decides, and both change. -/
def expireIfStale (s : Teller) (call : ℕ) (now : ℤ) : Teller :=
  match s.call call with
  | none => s
  | some c =>
    if (s.challenges.get c.challenge).any (stale now) then
      { s.setCall call (some { c with seen := expire c.seen }) with
        challenges := s.challenges.update c.challenge expire }
    else s

def resendChallenge (s : Teller) (call : ℕ) (now : ℤ) : Teller :=
  match s.call call with
  | none => s
  | some c =>
    if c.stage ≠ .opened ∨ c.seen.status ≠ .pending then s
    else
      let s := expireIfStale s call now
      match s.call call with
      | none => s
      | some c =>
        if c.seen.status ≠ .pending ∨ now - c.seen.lastSentAt < cfg.resendCooldown then s
        else s.setCall call (some { c with stage := .resending })

/-- The write of `resend_challenge`: code, expiry and time of sending, and nothing else of the row. -/
def storeResend (s : Teller) (call : ℕ) (code : String) (now : ℤ) : Teller :=
  match s.call call with
  | none => s
  | some c =>
    if c.stage ≠ .resending then s
    else { s.setCall call none with
      challenges := s.challenges.update c.challenge fun row =>
        { row with
          codeHash := hashCode cfg code c.challenge c.seen.user c.seen.purpose
          expiresAt := now + cfg.expiry
          lastSentAt := now } }

def verify (s : Teller) (call : ℕ) (code : String) (now : ℤ) : Teller :=
  match s.call call with
  | none => s
  | some c =>
    if c.stage ≠ .opened ∨ c.seen.status ≠ .pending then s
    else
      let result := verifyChallenge cfg s.challenges c.challenge c.seen.user code now
      let next := match result.2 with
        | .verified row => some ⟨c.challenge, row, .finalizing⟩
        | _ => none
      { s.setCall call next with challenges := result.1 }

def finalize (s : Teller) (call : ℕ) (now : ℤ) : Teller :=
  match s.call call with
  | none => s
  | some c =>
    if c.stage = .resending ∨ c.seen.status ≠ .verified then s
    else
      let s := s.setCall call none
      match c.seen.purpose with
      | .addressChange => commit s (finalizeAddress cfg s c.challenge c.seen now)
      | .withdrawal =>
        let wallet := getOrCreateWallet s.ledger c.seen.user
        let s := { s with ledger := wallet.1 }
        commit s (finalizeWithdrawal s wallet.2 c.challenge c.seen)

/-- The other services of the wallet, none of which writes a row of type `withdraw`. -/
def otherDebit (s : Teller) (walletId : ℕ) (amount : ℚ) (txType : TxType) : Teller :=
  if txType = .withdraw then s
  else commit s ((debitWallet s.ledger walletId amount txType {}).map fun r => { s with ledger := r.1 })

def otherCredit (s : Teller) (walletId : ℕ) (amount : ℚ) (txType : TxType) : Teller :=
  if txType = .withdraw then s
  else commit s ((creditWallet s.ledger walletId amount txType {}).map fun r => { s with ledger := r.1 })

def review (s : Teller) (withdrawal : ℕ) (status : WithdrawalStatus) : Teller :=
  { s with withdrawals := s.withdrawals.update withdrawal fun w => { w with status := status } }

inductive Action
  | create (payload : Payload) (code : String) (now : ℤ)
  | openChallenge (user challenge : ℕ) (purpose : Purpose)
  | expireIfStale (call : ℕ) (now : ℤ)
  | resendChallenge (call : ℕ) (now : ℤ)
  | storeResend (call : ℕ) (code : String) (now : ℤ)
  | verify (call : ℕ) (code : String) (now : ℤ)
  | finalize (call : ℕ) (now : ℤ)
  | review (withdrawal : ℕ) (status : WithdrawalStatus)
  | otherCredit (walletId : ℕ) (amount : ℚ) (txType : TxType)
  | otherDebit (walletId : ℕ) (amount : ℚ) (txType : TxType)
  | setFee (feeConfig : FeeConfig)
  | addresses (action : Addresses.Action)

def step (s : Teller) : Action → Teller
  | .create payload code now => create cfg s payload code now
  | .openChallenge user challenge purpose => openChallenge s user challenge purpose
  | .expireIfStale call now => expireIfStale s call now
  | .resendChallenge call now => resendChallenge cfg s call now
  | .storeResend call code now => storeResend cfg s call code now
  | .verify call code now => verify cfg s call code now
  | .finalize call now => finalize cfg s call now
  | .review withdrawal status => review s withdrawal status
  | .otherCredit walletId amount txType => otherCredit s walletId amount txType
  | .otherDebit walletId amount txType => otherDebit s walletId amount txType
  | .setFee feeConfig => { s with feeConfig := feeConfig }
  | .addresses action => { s with registry := Addresses.step cfg.addressCooldown s.registry action }

end Requests

end TrxSimulator.Withdrawals.Otp
