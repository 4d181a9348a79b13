import TrxSimulator.Accounts

/-! Transfers between a wallet and a trading account. The transfer's row is created first; the two
balances, both ledgers and the row's completion then move in one atomic block. -/

namespace TrxSimulator.Wallets.Transfers

open Foundations.Tables Foundations.Outcomes Foundations.Decimals Money Accounts Ledger

inductive Direction
  | toAccount | toWallet
deriving DecidableEq

inductive TransferStatus
  | pending | processing | completed | failed | reversed
deriving DecidableEq

inductive TransferError
  | ledger (e : LedgerError)
  | notPositive (function : String) (amount : ℚ)
  | accountDoesNotExist (account : ℕ)
  | notWithdrawable (account : ℕ) (accountType : AccountType)
  | openPositions (account count : ℕ)
  | insufficientFunds (account : ℕ) (balance requested : ℚ)
  | numericOverflow (column : String) (value : ℚ)
  | foreignKey (column : String) (key : ℕ)
deriving DecidableEq

structure InternalTransfer (ν : Type) where
  wallet : ℕ
  tradingAccount : ℕ
  direction : Direction
  amount : Amount
  status : TransferStatus
  note : Option ν
  initiatedBy : Option ℕ
  failureReason : Option TransferError

structure Position where
  account : ℕ

structure Books (ν : Type) where
  ledger : WalletLedger ν
  accounts : Table TradingAccount
  entries : Table LedgerEntry
  positions : Table Position
  transfers : Table (InternalTransfer ν)

structure Request (ν : Type) where
  walletId : ℕ
  tradingAccountId : ℕ
  amount : ℚ
  note : Option ν
  initiatedBy : Option ℕ

variable {ν : Type}

def Books.openPositions (s : Books ν) (accountId : ℕ) : ℕ :=
  s.positions.total fun _ p => if p.account = accountId then 1 else 0

def Books.setStatus (s : Books ν) (transferId : ℕ) (status : TransferStatus) : Books ν :=
  { s with transfers := s.transfers.update transferId fun x => { x with status := status } }

def Books.fail (s : Books ν) (transferId : ℕ) (e : TransferError) : Books ν :=
  { s with transfers := s.transfers.update transferId fun x =>
      { x with status := .failed, failureReason := some e } }

def createTransfer (s : Books ν) (direction : Direction) (q : Request ν) :
    Except TransferError (Books ν) := do
  let amount ← require (store 18 2 q.amount) (.numericOverflow "amount" q.amount)
  let _ ← require (s.ledger.wallets.get q.walletId) (.foreignKey "wallet_id" q.walletId)
  let _ ← require (s.accounts.get q.tradingAccountId)
    (.foreignKey "trading_account_id" q.tradingAccountId)
  pure { s with
    transfers := s.transfers.insert
      { wallet := q.walletId, tradingAccount := q.tradingAccountId, direction := direction,
        amount := amount, status := .pending, note := q.note, initiatedBy := q.initiatedBy,
        failureReason := none } }

def Books.moveAccount (s : Books ν) (accountId : ℕ) (account : TradingAccount) (eventType : EventType)
    (amount newBalance : ℚ) (info : EntryMeta) : Except TransferError (Books ν) := do
  let balance ← require (store 12 2 newBalance) (.numericOverflow "balance" newBalance)
  let entryAmount ← require (store 18 2 amount) (.numericOverflow "amount" amount)
  let balanceAfter ← require (store 18 2 newBalance) (.numericOverflow "balance_after" newBalance)
  pure { s with
    accounts := s.accounts.update accountId fun _ => { account with balance := balance, equity := balance }
    entries := s.entries.insert
      { account := accountId, eventType := eventType, amount := entryAmount,
        balanceAfter := balanceAfter, info := some info } }

def toAccountBlock (s : Books ν) (transferId : ℕ) (q : Request ν) : Except TransferError (Books ν) := do
  let s := s.setStatus transferId .processing
  let account ← require (s.accounts.get q.tradingAccountId) (.accountDoesNotExist q.tradingAccountId)
  let debit ← (debitWallet s.ledger q.walletId q.amount .transferOut
    { internalTransfer := some transferId, note := q.note, initiatedBy := q.initiatedBy }).mapError .ledger
  let newBalance := plus account.balance.value q.amount
  let peak ← require (store 12 2 (if account.peakBalance.value < newBalance then newBalance
    else account.peakBalance.value)) (.numericOverflow "peak_balance" newBalance)
  let s ← { s with ledger := debit.1 }.moveAccount q.tradingAccountId { account with peakBalance := peak }
    .deposit q.amount newBalance (.walletSource q.walletId transferId)
  pure (s.setStatus transferId .completed)

def toWalletBlock (s : Books ν) (transferId : ℕ) (q : Request ν) : Except TransferError (Books ν) := do
  let s := s.setStatus transferId .processing
  let account ← require (s.accounts.get q.tradingAccountId) (.accountDoesNotExist q.tradingAccountId)
  if 0 < s.openPositions q.tradingAccountId then
    .error (.openPositions q.tradingAccountId (s.openPositions q.tradingAccountId))
  else if account.balance.value < q.amount then
    .error (.insufficientFunds q.tradingAccountId account.balance.value q.amount)
  else do
    let s ← s.moveAccount q.tradingAccountId account .withdraw (negate q.amount)
      (minus account.balance.value q.amount) (.walletDestination q.walletId transferId)
    let credit ← (creditWallet s.ledger q.walletId q.amount .transferIn
      { internalTransfer := some transferId, note := q.note, initiatedBy := q.initiatedBy }).mapError .ledger
    pure ({ s with ledger := credit.1 }.setStatus transferId .completed)

/-- Runs the atomic block on a fresh transfer; an error rolls the block back and marks the row. -/
def settle (s : Books ν) (direction : Direction) (q : Request ν)
    (block : Books ν → ℕ → Request ν → Except TransferError (Books ν)) :
    Books ν × Except TransferError ℕ :=
  match createTransfer s direction q with
  | .error e => (s, .error e)
  | .ok created =>
    match block created s.transfers.next q with
    | .ok settled => (settled, .ok s.transfers.next)
    | .error e => (created.fail s.transfers.next e, .error e)

def transferToAccount (s : Books ν) (q : Request ν) : Books ν × Except TransferError ℕ :=
  if q.amount ≤ 0 then (s, .error (.notPositive "transfer_to_account" q.amount))
  else settle s .toAccount q toAccountBlock

def transferToWallet (s : Books ν) (q : Request ν) : Books ν × Except TransferError ℕ :=
  if q.amount ≤ 0 then (s, .error (.notPositive "transfer_to_wallet" q.amount))
  else match s.accounts.get q.tradingAccountId with
    | none => (s, .error (.accountDoesNotExist q.tradingAccountId))
    | some account =>
      if account.accountType.withdrawable then settle s .toWallet q toWalletBlock
      else (s, .error (.notWithdrawable q.tradingAccountId account.accountType))

section Inversion

variable {s s' : Books ν} {q : Request ν} {d : Direction} {pk : ℕ} {n : ℤ}

lemma createTransfer_eq_ok :
    createTransfer s d q = .ok s' ↔
      ∃ amount wallet account, store 18 2 q.amount = some amount ∧
        s.ledger.wallets.get q.walletId = some wallet ∧
        s.accounts.get q.tradingAccountId = some account ∧
        s' = { s with
          transfers := s.transfers.insert
            { wallet := q.walletId, tradingAccount := q.tradingAccountId, direction := d,
              amount := amount, status := .pending, note := q.note, initiatedBy := q.initiatedBy,
              failureReason := none } } := by
  simp only [createTransfer, bind_eq_ok, require_eq_ok, pure_eq_ok]
  constructor
  · rintro ⟨amount, ha, wallet, hw, account, hacc, rfl⟩
    exact ⟨amount, wallet, account, ha, hw, hacc, rfl⟩
  · rintro ⟨amount, wallet, account, ha, hw, hacc, rfl⟩
    exact ⟨amount, ha, wallet, hw, account, hacc, rfl⟩

lemma moveAccount_cents {a : ℕ} {account : TradingAccount} {e : EventType} {m b : ℤ} {info : EntryMeta} :
    s.moveAccount a account e (scaled 2 m) (scaled 2 b) info = .ok s' ↔
      ∃ balance : Balance, ∃ entry after : Amount, balance.units = b ∧ entry.units = m ∧
        after.units = b ∧ s' = { s with
          accounts := s.accounts.update a fun _ => { account with balance := balance, equity := balance }
          entries := s.entries.insert
            { account := a, eventType := e, amount := entry, balanceAfter := after,
              info := some info } } := by
  simp only [Books.moveAccount, bind_eq_ok, require_eq_ok, pure_eq_ok, store_scaled]
  constructor
  · rintro ⟨balance, hb, entry, he, after, ha, rfl⟩
    exact ⟨balance, entry, after, hb.symm, he.symm, ha.symm, rfl⟩
  · rintro ⟨balance, entry, after, hb, he, ha, rfl⟩
    exact ⟨balance, hb.symm, entry, he.symm, after, ha.symm, rfl⟩

variable {block : Books ν → ℕ → Request ν → Except TransferError (Books ν)} {created settled : Books ν}
  {e : TransferError}

lemma settle_uncreated (hc : createTransfer s d q = .error e) : settle s d q block = (s, .error e) := by
  unfold settle
  rw [hc]

lemma settle_failed (hc : createTransfer s d q = .ok created)
    (hb : block created s.transfers.next q = .error e) :
    settle s d q block = (created.fail s.transfers.next e, .error e) := by
  unfold settle
  simp only [hc]
  rw [hb]

lemma settle_settled (hc : createTransfer s d q = .ok created)
    (hb : block created s.transfers.next q = .ok settled) :
    settle s d q block = (settled, .ok s.transfers.next) := by
  unfold settle
  simp only [hc]
  rw [hb]

lemma settle_cases (s : Books ν) (d : Direction) (q : Request ν)
    (block : Books ν → ℕ → Request ν → Except TransferError (Books ν)) :
    (∃ e, settle s d q block = (s, .error e)) ∨
      ∃ created, createTransfer s d q = .ok created ∧
        ((∃ e, settle s d q block = (created.fail s.transfers.next e, .error e)) ∨
          ∃ settled, block created s.transfers.next q = .ok settled ∧
            settle s d q block = (settled, .ok s.transfers.next)) := by
  cases hc : createTransfer s d q with
  | error e => exact Or.inl ⟨e, settle_uncreated hc⟩
  | ok created =>
    refine Or.inr ⟨created, rfl, ?_⟩
    cases hb : block created s.transfers.next q with
    | error e => exact Or.inl ⟨e, settle_failed hc hb⟩
    | ok settled => exact Or.inr ⟨settled, rfl, settle_settled hc hb⟩

end Inversion

section Cents

variable {s s' : Books ν} {q : Request ν} {pk : ℕ} {n : ℤ}

def Books.settled (s : Books ν) (pk accountId : ℕ) (ledger : WalletLedger ν) (account : TradingAccount)
    (entry : LedgerEntry) : Books ν :=
  { s with
    ledger := ledger
    accounts := s.accounts.update accountId fun _ => account
    entries := s.entries.insert entry
    transfers := (s.transfers.update pk fun x => { x with status := .processing }).update pk
      fun x => { x with status := .completed } }

lemma toAccountBlock_cents (hq : q.amount = scaled 2 n) (h : toAccountBlock s pk q = .ok s') :
    ∃ wallet account, ∃ balance amount : Amount, ∃ account' : TradingAccount, ∃ entry : LedgerEntry,
      s.ledger.wallets.get q.walletId = some wallet ∧
      s.accounts.get q.tradingAccountId = some account ∧ amount.units = -n ∧
      balance.units = wallet.availableBalance.units - n ∧
      account'.balance.units = account.balance.units + n ∧ entry.account = q.tradingAccountId ∧
      entry.amount.units = n ∧ entry.info = some (.walletSource q.walletId pk) ∧
      s' = s.settled pk q.tradingAccountId
        (s.ledger.post q.walletId .transferOut amount balance
          { internalTransfer := some pk, note := q.note, initiatedBy := q.initiatedBy }) account' entry := by
  simp only [toAccountBlock, bind_eq_ok, require_eq_ok, pure_eq_ok, mapError_eq_ok, hq] at h
  obtain ⟨account, hacc, r, hr, peak, -, moved, hmoved, rfl⟩ := h
  obtain ⟨wallet, balance, amount, -, hw, -, ha, hb, rfl⟩ := debitWallet_cents.mp hr
  have hn : n = -amount.units := by omega
  have hsum : |account.balance.units + n| < 10 ^ precision := by
    have h1 := abs_lt.mp account.balance.fits
    have h2 := abs_lt.mp amount.fits
    rw [precision, abs_lt]
    omega
  rw [Numeric.value, plus_scaled hsum, moveAccount_cents] at hmoved
  obtain ⟨accBalance, entry, after, hab, he, -, rfl⟩ := hmoved
  exact ⟨wallet, account, balance, amount, _, _, hw, hacc, ha, hb, hab, rfl, he, rfl, rfl⟩

lemma toWalletBlock_cents (hq : q.amount = scaled 2 n) (h : toWalletBlock s pk q = .ok s') :
    ∃ wallet account, ∃ balance amount : Amount, ∃ account' : TradingAccount, ∃ entry : LedgerEntry,
      s.ledger.wallets.get q.walletId = some wallet ∧
      s.accounts.get q.tradingAccountId = some account ∧ amount.units = n ∧
      balance.units = wallet.availableBalance.units + n ∧
      account'.balance.units = account.balance.units - n ∧ entry.account = q.tradingAccountId ∧
      entry.amount.units = -n ∧ entry.info = some (.walletDestination q.walletId pk) ∧
      s' = s.settled pk q.tradingAccountId
        (s.ledger.post q.walletId .transferIn amount balance
          { internalTransfer := some pk, note := q.note, initiatedBy := q.initiatedBy }) account' entry := by
  simp only [toWalletBlock, bind_eq_ok, require_eq_ok, pure_eq_ok, mapError_eq_ok, guard_eq_ok, hq] at h
  obtain ⟨account, hacc, -, hle, moved, hmoved, r, hr, rfl⟩ := h
  rw [Numeric.value, scaled_lt, not_lt] at hle
  have hledger : moved.ledger = s.ledger := by
    simp only [Books.moveAccount, bind_eq_ok, pure_eq_ok] at hmoved
    obtain ⟨_, -, _, -, _, -, rfl⟩ := hmoved
    rfl
  rw [hledger] at hr
  obtain ⟨wallet, balance, amount, h0, hw, ha, hb, rfl⟩ := creditWallet_cents.mp hr
  have hneg : |n| < 10 ^ precision := by
    have h2 := abs_lt.mp amount.fits
    rw [precision, abs_lt]
    omega
  have hsum : |account.balance.units - n| < 10 ^ precision := by
    have h1 := abs_lt.mp account.balance.fits
    rw [precision, abs_lt]
    omega
  rw [Numeric.value, minus_scaled hsum, negate_scaled hneg, moveAccount_cents] at hmoved
  obtain ⟨accBalance, entry, after, hab, he, -, rfl⟩ := hmoved
  exact ⟨wallet, account, balance, amount, _, _, hw, hacc, ha, hb, hab, rfl, he, rfl, rfl⟩

end Cents

section Ledger

variable {s s' : Books ν} {q : Request ν} {pk : ℕ}

lemma toAccountBlock_ledger (h : toAccountBlock s pk q = .ok s') :
    ∃ refs r, debitWallet s.ledger q.walletId q.amount .transferOut refs = .ok r ∧ s'.ledger = r.1 := by
  simp only [toAccountBlock, bind_eq_ok, require_eq_ok, pure_eq_ok, mapError_eq_ok,
    Books.moveAccount] at h
  obtain ⟨account, -, r, hr, _, -, moved, ⟨_, -, _, -, _, -, rfl⟩, rfl⟩ := h
  exact ⟨_, r, hr, rfl⟩

lemma toWalletBlock_ledger (h : toWalletBlock s pk q = .ok s') :
    ∃ refs r, creditWallet s.ledger q.walletId q.amount .transferIn refs = .ok r ∧ s'.ledger = r.1 := by
  simp only [toWalletBlock, bind_eq_ok, require_eq_ok, pure_eq_ok, mapError_eq_ok, guard_eq_ok,
    Books.moveAccount] at h
  obtain ⟨account, -, -, -, moved, ⟨_, -, _, -, _, -, rfl⟩, r, hr, rfl⟩ := h
  exact ⟨_, r, hr, rfl⟩

lemma transferToAccount_ledger (s : Books ν) (q : Request ν) :
    (transferToAccount s q).1.ledger = s.ledger ∨
      ∃ refs r, debitWallet s.ledger q.walletId q.amount .transferOut refs = .ok r ∧
        (transferToAccount s q).1.ledger = r.1 := by
  unfold transferToAccount
  split
  · exact Or.inl rfl
  · rcases settle_cases s .toAccount q toAccountBlock with ⟨e, h⟩ | ⟨created, hc, h⟩
    · exact Or.inl (by rw [h])
    · obtain ⟨_, _, _, -, -, -, rfl⟩ := createTransfer_eq_ok.mp hc
      rcases h with ⟨e, h⟩ | ⟨settled, hb, h⟩
      · exact Or.inl (by rw [h]; rfl)
      · obtain ⟨refs, r, hr, hl⟩ := toAccountBlock_ledger hb
        exact Or.inr ⟨refs, r, hr, by rw [h, hl]⟩

lemma transferToWallet_ledger (s : Books ν) (q : Request ν) :
    (transferToWallet s q).1.ledger = s.ledger ∨
      ∃ refs r, creditWallet s.ledger q.walletId q.amount .transferIn refs = .ok r ∧
        (transferToWallet s q).1.ledger = r.1 := by
  unfold transferToWallet
  split
  · exact Or.inl rfl
  · split
    · exact Or.inl rfl
    · split
      · rcases settle_cases s .toWallet q toWalletBlock with ⟨e, h⟩ | ⟨created, hc, h⟩
        · exact Or.inl (by rw [h])
        · obtain ⟨_, _, _, -, -, -, rfl⟩ := createTransfer_eq_ok.mp hc
          rcases h with ⟨e, h⟩ | ⟨settled, hb, h⟩
          · exact Or.inl (by rw [h]; rfl)
          · obtain ⟨refs, r, hr, hl⟩ := toWalletBlock_ledger hb
            exact Or.inr ⟨refs, r, hr, by rw [h, hl]⟩
      · exact Or.inl rfl

end Ledger

end TrxSimulator.Wallets.Transfers
