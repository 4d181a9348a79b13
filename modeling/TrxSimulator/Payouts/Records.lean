import TrxSimulator.Accounts

/-! The rows the payout engine works on, and the calls that are under way: a call that spans several
transactions is an entry of its own, which says how far it has come. -/

namespace TrxSimulator.Payouts.Records

open Foundations.Tables Foundations.Outcomes Foundations.Decimals Money Accounts Wallets.Ledger

inductive WithdrawalStatus
  | pending | approved | rejected | processing | completed | failed
deriving DecidableEq

def WithdrawalStatus.terminal : WithdrawalStatus → Bool
  | .completed | .rejected | .failed => true
  | .pending | .approved | .processing => false

inductive AttemptStatus
  | created | submitted | processing | completed | failed | unknown
deriving DecidableEq

def AttemptStatus.terminal : AttemptStatus → Bool
  | .completed | .failed => true
  | .created | .submitted | .processing | .unknown => false

inductive Normalized
  | processing | completed | failed
deriving DecidableEq

def Normalized.attempt : Normalized → AttemptStatus
  | .processing => .processing
  | .completed => .completed
  | .failed => .failed

def Normalized.withdrawal : Normalized → WithdrawalStatus
  | .processing => .processing
  | .completed => .completed
  | .failed => .failed

structure WithdrawalRequest where
  user : ℕ
  amountUsd : Balance
  netAmount : Option Balance
  feeAmount : Option Balance
  cryptoCurrency : String
  walletAddress : String
  status : WithdrawalStatus
  npBatchId : String
  npPayoutId : String
  npPayoutStatus : String
  cryptoAmount : Option ℚ
  reviewedBy : Option ℕ
deriving DecidableEq

structure PayoutAttempt where
  withdrawalRequest : ℕ
  provider : String
  attemptNumber : ℕ
  idempotencyKey : String
  providerRequestId : String
  providerReference : String
  providerBatchId : String
  requestedAmountUsd : Balance
  requestedAsset : String
  destinationAddress : String
  providerAmount : Option ℚ
  confirmedAmount : Option ℚ
  txHash : String
  status : AttemptStatus
  lastError : String
  rawProviderStatus : String
  submittedAt : Option ℕ
  updatedAt : ℕ
  submittedBy : Option ℕ
deriving DecidableEq

structure Payload where
  amount : Option ℚ
  hash : String
deriving DecidableEq

structure ProviderPayoutEvent where
  provider : String
  providerReference : String
  providerBatchId : String
  normalizedStatus : Option Normalized
  rawStatus : String
  payload : Payload
deriving DecidableEq

inductive CorrelationStatus
  | pending | resolved | manualReview
deriving DecidableEq

structure PayoutWebhookEvent where
  event : ProviderPayoutEvent
  correlationStatus : CorrelationStatus
  correlatedAttempt : Option ℕ
  retryCount : ℕ
  nextRetryAt : Option ℕ
  lastError : String
deriving DecidableEq

inductive FundedType
  | sim | internal
deriving DecidableEq

inductive FundedStatus
  | pending | approved | processing | completed | rejected | failed | cancelled
deriving DecidableEq

def FundedStatus.terminal : FundedStatus → Bool
  | .completed | .failed | .rejected | .cancelled => true
  | .pending | .approved | .processing => false

structure FundedPayoutRequest where
  enrollment : ℕ
  fundedAccount : ℕ
  user : ℕ
  cycleProfit : Balance
  traderCut : Balance
  brokerCut : Balance
  profitSplitPct : Numeric 5 2
  balanceSnapshot : Balance
  initialBalanceSnapshot : Balance
  fundedType : FundedType
  cryptoCurrency : String
  walletAddress : String
  ledgerEntry : Option ℕ
  walletCreditTx : Option ℕ
  withdrawalRequest : Option ℕ
  status : FundedStatus
  reviewedBy : Option ℕ
  adminNote : String
deriving DecidableEq

structure FundedConfig where
  fundedType : FundedType
  profitSplitPct : Numeric 5 2
  minPayoutUsd : Numeric 10 2
  minTradingDays : ℕ
deriving DecidableEq

structure Enrollment where
  user : ℕ
  funded : Bool
  fundedAccount : Option ℕ
  fundedConfig : Option FundedConfig
deriving DecidableEq

inductive RevenueSource
  | withdrawFee (withdrawal : ℕ)
  | fundedProfitShare (request : ℕ)
deriving DecidableEq

structure BrokerLedger where
  source : RevenueSource
  amount : Balance
deriving DecidableEq

inductive PayoutNote
  | refund (attempt : ℕ) (reason : String)
  | legacyRefund (withdrawal : ℕ) (reference : String)
  | fundedSim (request : ℕ)
  | other (text : String)
deriving DecidableEq

def PayoutNote.text : PayoutNote → String
  | .refund attempt reason =>
    "Refund — payout attempt #" ++ toString attempt ++ " failed (" ++ (reason.take 80).toString ++ ")"
  | .legacyRefund _ reference => "Refund — payout #" ++ reference ++ " failed"
  | .fundedSim request => "Funded SIM payout #" ++ toString request
  | .other text => text

inductive PayoutError
  | doesNotExist (model : String) (pk : ℕ)
  | withdrawalAlreadyClaimed (withdrawal : ℕ) (status : WithdrawalStatus)
  | estimateFailed (withdrawal : ℕ)
  | activePayoutAttemptExists (withdrawal : ℕ)
  | invalidTransition (attempt : ℕ) (current new : AttemptStatus)
  | preSendRejectionRequired (attempt : ℕ)
  | noStatusMapping (status : AttemptStatus)
  | ledger (e : LedgerError)
  | fundedAlreadyProcessed (request : ℕ) (status : FundedStatus)
  | wrongFundedType (request : ℕ) (fundedType : FundedType)
  | missingDestination (request : ℕ)
  | insufficientFundedBalance (account : ℕ) (balance traderCut : ℤ)
  | activeFundedRequestExists (enrollment : ℕ)
  | gate (name : String)
deriving DecidableEq

inductive Target
  | attempt (pk : ℕ)
  | funded (withdrawal : ℕ)
  | legacy (withdrawal : ℕ)
  | ambiguous (reason : String)
  | integrityViolation (reason : String)
  | orphan (reason : String)
deriving DecidableEq

inductive SubmissionStage
  | previewed (withdrawal : ℕ) (estimateBasis : Balance)
  | sent (attempt : ℕ)
  | finished
  | raised (e : PayoutError)
deriving DecidableEq

structure Submission where
  actor : Option ℕ
  stage : SubmissionStage
deriving DecidableEq

inductive HandlerStage
  | unresolved (error : String) (bumpRetry : Bool)
  | matched (target : Target)
  | applied (attempt : Option ℕ)
  | finished
  | raised (e : PayoutError)
deriving DecidableEq

structure Handler where
  event : ℕ
  stage : HandlerStage
deriving DecidableEq

inductive Scan
  | aged | unknown | processing
deriving DecidableEq

structure Reconciliation where
  attempt : ℕ
  scan : Scan
deriving DecidableEq

inductive InternalStage
  | claimed
  | accepted (batchId payoutId rawStatus : String) (cryptoAmount : ℚ)
  | recorded (batchId payoutId : String)
  | finished
deriving DecidableEq

def InternalStage.unrecorded : InternalStage → Bool
  | .claimed | .accepted _ _ _ _ => true
  | .recorded _ _ | .finished => false

def InternalStage.isRecorded : InternalStage → Bool
  | .recorded _ _ => true
  | .claimed | .accepted _ _ _ _ | .finished => false

structure Internal where
  request : ℕ
  withdrawal : ℕ
  fundedAccount : ℕ
  traderCut : Balance
  stage : InternalStage
deriving DecidableEq

structure Draft where
  enrollment : ℕ
  fundedAccount : ℕ
  user : ℕ
  balance : Balance
  initial : Balance
  cycleProfit : ℤ
  traderCut : ℤ
  brokerCut : ℤ
  fundedConfig : FundedConfig
  cryptoCurrency : String
  walletAddress : String
deriving DecidableEq

structure Platform where
  ledger : WalletLedger PayoutNote
  accounts : Table TradingAccount
  entries : Table LedgerEntry
  revenue : Table BrokerLedger
  withdrawals : Table WithdrawalRequest
  attempts : Table PayoutAttempt
  events : Table PayoutWebhookEvent
  enrollments : Table Enrollment
  fundedPayouts : Table FundedPayoutRequest
  submissions : Table Submission
  handlers : Table Handler
  reconciliations : Table (Option Reconciliation)
  internals : Table Internal
  drafts : Table (Option Draft)
  now : ℕ

def lockWithdrawal (s : Platform) (pk : ℕ) : Except PayoutError WithdrawalRequest :=
  require (s.withdrawals.get pk) (.doesNotExist "WithdrawalRequest" pk)

def lockAttempt (s : Platform) (pk : ℕ) : Except PayoutError PayoutAttempt :=
  require (s.attempts.get pk) (.doesNotExist "PayoutAttempt" pk)

def lockFunded (s : Platform) (pk : ℕ) : Except PayoutError FundedPayoutRequest :=
  require (s.fundedPayouts.get pk) (.doesNotExist "FundedPayoutRequest" pk)

def lockAccount (s : Platform) (pk : ℕ) : Except PayoutError TradingAccount :=
  require (s.accounts.get pk) (.doesNotExist "TradingAccount" pk)

def lockWallet (s : Platform) (user : ℕ) : Except PayoutError ℕ :=
  require ((s.ledger.ofUser user).map Prod.fst) (.doesNotExist "Wallet" user)

def Platform.setWithdrawal (s : Platform) (pk : ℕ) (f : WithdrawalRequest → WithdrawalRequest) : Platform :=
  { s with withdrawals := s.withdrawals.update pk f }

def Platform.setAttempt (s : Platform) (pk : ℕ) (f : PayoutAttempt → PayoutAttempt) : Platform :=
  { s with attempts := s.attempts.update pk f }

def Platform.setFunded (s : Platform) (pk : ℕ) (f : FundedPayoutRequest → FundedPayoutRequest) : Platform :=
  { s with fundedPayouts := s.fundedPayouts.update pk f }

/-- Books revenue once for each source: the unique constraint makes a second booking a logged no-op. -/
def bookRevenue (revenue : Table BrokerLedger) (source : RevenueSource) (amount : Balance) :
    Table BrokerLedger :=
  if amount.units = 0 ∨ revenue.exists? (fun row => row.source = source) = true then revenue
  else revenue.insert ⟨source, amount⟩

end TrxSimulator.Payouts.Records
