import TrxSimulator.Wallets.Ledger

/-! Trading accounts with their own append-only ledger. -/

namespace TrxSimulator.Accounts

open Foundations.Tables Foundations.Decimals Money

abbrev Balance := Numeric 12 2

lemma balance_digits : 12 ≤ 18 := by norm_num

inductive AccountType
  | retail | ecn | standard | demo | crypto | challenge | funded
deriving DecidableEq

def AccountType.withdrawable : AccountType → Bool
  | .retail | .ecn | .standard | .crypto => true
  | .demo | .challenge | .funded => false

structure TradingAccount where
  user : Option ℕ
  accountType : AccountType
  balance : Balance
  equity : Balance
  peakBalance : Balance
  initialBalance : Option Balance
deriving DecidableEq

inductive EventType
  | deposit | withdraw | commission | realizedPnl | fee | adjustment | fundedPayout | ownerCorrection
deriving DecidableEq

inductive EntryMeta
  | walletSource (walletId internalTransferId : ℕ)
  | walletDestination (walletId internalTransferId : ℕ)
  | fundedPayout (requestId : ℕ) (brokerCut cycleProfit : ℤ) (internal : Bool)
  | fundedReversal (requestId : ℕ) (payoutId : Option String) (reason : String)
  | ownerCorrection (actorId : ℕ) (reason idempotencyKey : String)
deriving DecidableEq

structure LedgerEntry where
  account : ℕ
  eventType : EventType
  amount : Amount
  balanceAfter : Amount
  info : Option EntryMeta
deriving DecidableEq

end TrxSimulator.Accounts
