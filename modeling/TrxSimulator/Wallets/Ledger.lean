import TrxSimulator.Foundations.Outcomes
import TrxSimulator.Money

/-! The wallet ledger: the only writer of available balances, with one appended row for every change.
A row's note is kept as a value of `ν`, from which its text is rendered. -/

namespace TrxSimulator.Wallets.Ledger

open Foundations.Tables Foundations.Outcomes Foundations.Decimals Money

structure Wallet where
  user : ℕ
  currency : String
  availableBalance : Amount
  pendingBalance : Amount
deriving DecidableEq

inductive TxType
  | deposit | withdraw | transferOut | transferIn | bonus | rebate | commission | correction
  | fundedPayout | challengeFee
deriving DecidableEq

structure WalletTransaction (ν : Type) where
  wallet : ℕ
  txType : TxType
  amount : Amount
  balanceAfter : Amount
  deposit : Option ℕ
  internalTransfer : Option ℕ
  initiatedBy : Option ℕ
  note : Option ν

structure WalletLedger (ν : Type) where
  wallets : Table Wallet
  transactions : Table (WalletTransaction ν)

structure References (ν : Type) where
  deposit : Option ℕ := none
  internalTransfer : Option ℕ := none
  note : Option ν := none
  initiatedBy : Option ℕ := none

inductive LedgerError
  | notPositive (function : String) (amount : ℚ)
  | walletDoesNotExist (wallet : ℕ)
  | insufficientFunds (wallet : ℕ) (available requested : ℚ)
  | numericOverflow (column : String) (value : ℚ)
deriving DecidableEq

variable {ν : Type}

def WalletLedger.wallet (l : WalletLedger ν) (walletId : ℕ) : Except LedgerError Wallet :=
  require (l.wallets.get walletId) (.walletDoesNotExist walletId)

def column (name : String) (x : ℚ) : Except LedgerError Amount :=
  require (store 18 2 x) (.numericOverflow name x)

/-- The balance update and the appended row, which commit together. -/
def WalletLedger.post (l : WalletLedger ν) (walletId : ℕ) (txType : TxType) (amount balance : Amount)
    (refs : References ν) : WalletLedger ν where
  wallets := l.wallets.update walletId fun w => { w with availableBalance := balance }
  transactions := l.transactions.insert
    { wallet := walletId, txType := txType, amount := amount, balanceAfter := balance,
      deposit := refs.deposit, internalTransfer := refs.internalTransfer,
      initiatedBy := refs.initiatedBy, note := refs.note }

def creditWallet (l : WalletLedger ν) (walletId : ℕ) (amount : ℚ) (txType : TxType)
    (refs : References ν) : Except LedgerError (WalletLedger ν × ℕ) :=
  if amount ≤ 0 then .error (.notPositive "credit_wallet" amount)
  else do
    let wallet ← l.wallet walletId
    let newBalance := plus wallet.availableBalance.value amount
    let balance ← column "available_balance" newBalance
    let row ← column "amount" amount
    pure (l.post walletId txType row balance refs, l.transactions.next)

def debitWallet (l : WalletLedger ν) (walletId : ℕ) (amount : ℚ) (txType : TxType)
    (refs : References ν) : Except LedgerError (WalletLedger ν × ℕ) :=
  if amount ≤ 0 then .error (.notPositive "debit_wallet" amount)
  else do
    let wallet ← l.wallet walletId
    if wallet.availableBalance.value < amount then
      .error (.insufficientFunds walletId wallet.availableBalance.value amount)
    else do
      let newBalance := minus wallet.availableBalance.value amount
      let balance ← column "available_balance" newBalance
      let row ← column "amount" (negate amount)
      pure (l.post walletId txType row balance { refs with deposit := none }, l.transactions.next)

def newWallet (user : ℕ) : Wallet where
  user := user
  currency := "USD"
  availableBalance := default
  pendingBalance := default

def WalletLedger.ofUser (l : WalletLedger ν) (user : ℕ) : Option (ℕ × Wallet) :=
  l.wallets.latest fun w => w.user = user

def getOrCreateWallet (l : WalletLedger ν) (user : ℕ) : WalletLedger ν × ℕ :=
  match l.ofUser user with
  | some (walletId, _) => (l, walletId)
  | none => ({ l with wallets := l.wallets.insert (newWallet user) }, l.wallets.next)

def UniqueUsers (l : WalletLedger ν) : Prop :=
  ∀ i j v w, l.wallets.get i = some v → l.wallets.get j = some w → v.user = w.user → i = j

section Post

variable (l : WalletLedger ν) (w : ℕ) (t : TxType) (amount balance : Amount) (refs : References ν)

@[simp] lemma post_next_transaction :
    (l.post w t amount balance refs).transactions.next = l.transactions.next + 1 := rfl

lemma post_wallets_ne {v : ℕ} (h : v ≠ w) :
    (l.post w t amount balance refs).wallets.get v = l.wallets.get v :=
  Table.get_update_ne _ h _

lemma post_wallets_self {wallet : Wallet} (h : l.wallets.get w = some wallet) :
    (l.post w t amount balance refs).wallets.get w =
      some { wallet with availableBalance := balance } :=
  Table.get_update_self h _

lemma post_transactions_of_get {i : ℕ} {row : WalletTransaction ν}
    (h : l.transactions.get i = some row) :
    (l.post w t amount balance refs).transactions.get i = some row :=
  Table.get_insert_of_get h _

lemma post_total {M : Type*} [AddCommMonoid M] (f : ℕ → WalletTransaction ν → M) :
    (l.post w t amount balance refs).transactions.total f =
      l.transactions.total f + f l.transactions.next
        { wallet := w, txType := t, amount := amount, balanceAfter := balance,
          deposit := refs.deposit, internalTransfer := refs.internalTransfer,
          initiatedBy := refs.initiatedBy, note := refs.note } :=
  Table.total_insert _ _ _

end Post

section Users

variable {l : WalletLedger ν} {u w : ℕ}

lemma ofUser_some {v : Wallet} (h : l.ofUser u = some (w, v)) :
    l.wallets.get w = some v ∧ v.user = u := by
  obtain ⟨hw, hu⟩ := Table.latest_some h
  exact ⟨hw, of_decide_eq_true hu⟩

lemma ofUser_none (h : l.ofUser u = none) {v : Wallet} (hv : l.wallets.get w = some v) : v.user ≠ u :=
  of_decide_eq_false (Table.latest_none h hv)

lemma getOrCreateWallet_cases (l : WalletLedger ν) (u : ℕ) :
    (∃ w v, l.wallets.get w = some v ∧ v.user = u ∧ getOrCreateWallet l u = (l, w)) ∨
      ((∀ w v, l.wallets.get w = some v → v.user ≠ u) ∧ getOrCreateWallet l u =
        ({ l with wallets := l.wallets.insert (newWallet u) }, l.wallets.next)) := by
  unfold getOrCreateWallet
  cases h : l.ofUser u with
  | none => exact Or.inr ⟨fun w v hv => ofUser_none h hv, rfl⟩
  | some r => exact Or.inl ⟨r.1, r.2, (ofUser_some h).1, (ofUser_some h).2, rfl⟩

lemma getOrCreateWallet_transactions (l : WalletLedger ν) (u : ℕ) :
    (getOrCreateWallet l u).1.transactions = l.transactions := by
  rcases getOrCreateWallet_cases l u with ⟨_, _, -, -, h⟩ | ⟨-, h⟩ <;> rw [h]

lemma getOrCreateWallet_get (l : WalletLedger ν) (u : ℕ) :
    ∃ v, (getOrCreateWallet l u).1.wallets.get (getOrCreateWallet l u).2 = some v ∧ v.user = u := by
  rcases getOrCreateWallet_cases l u with ⟨w, v, hv, hu, h⟩ | ⟨-, h⟩
  · rw [h]
    exact ⟨v, hv, hu⟩
  · rw [h]
    exact ⟨newWallet u, Table.get_insert_next _ _, rfl⟩

lemma uniqueUsers_insert (h : UniqueUsers l) (hu : ∀ w v, l.wallets.get w = some v → v.user ≠ u) :
    UniqueUsers { l with wallets := l.wallets.insert (newWallet u) } := by
  intro i j v w hv hw huser
  rcases Table.get_insert_some hv with hv | ⟨hi, rfl⟩
  · rcases Table.get_insert_some hw with hw | ⟨-, rfl⟩
    · exact h i j v w hv hw huser
    · exact (hu i v hv huser).elim
  · rcases Table.get_insert_some hw with hw | ⟨hj, -⟩
    · exact (hu j w hw huser.symm).elim
    · rw [hi, hj]

lemma uniqueUsers_getOrCreate (h : UniqueUsers l) (u : ℕ) : UniqueUsers (getOrCreateWallet l u).1 := by
  rcases getOrCreateWallet_cases l u with ⟨w, v, -, -, hr⟩ | ⟨hu, hr⟩
  · rwa [hr]
  · rw [hr]
    exact uniqueUsers_insert h hu

lemma uniqueUsers_update (h : UniqueUsers l) {f : Wallet → Wallet} (hf : ∀ v, (f v).user = v.user)
    {transactions : Table (WalletTransaction ν)} :
    UniqueUsers { wallets := l.wallets.update w f, transactions := transactions } := by
  intro i j v v' hv hv' huser
  obtain ⟨a, ha, rfl⟩ := Table.get_update_some hv
  obtain ⟨b, hb, rfl⟩ := Table.get_update_some hv'
  have hkeep : ∀ (k : ℕ) (c : Wallet), (if k = w then f c else c).user = c.user := by
    intro k c
    split
    · exact hf c
    · rfl
  rw [hkeep, hkeep] at huser
  exact h i j a b ha hb huser

end Users

section Outcomes

variable {l : WalletLedger ν} {w : ℕ} {a : ℚ} {t : TxType} {refs : References ν}
  {r : WalletLedger ν × ℕ}

lemma creditWallet_eq_ok :
    creditWallet l w a t refs = .ok r ↔
      ∃ wallet balance row, 0 < a ∧ l.wallets.get w = some wallet ∧
        store 18 2 (plus wallet.availableBalance.value a) = some balance ∧ store 18 2 a = some row ∧
        r = (l.post w t row balance refs, l.transactions.next) := by
  simp only [creditWallet, WalletLedger.wallet, column, guard_eq_ok, bind_eq_ok, require_eq_ok,
    pure_eq_ok, not_le]
  constructor
  · rintro ⟨h0, wallet, hw, balance, hb, row, hr, rfl⟩
    exact ⟨wallet, balance, row, h0, hw, hb, hr, rfl⟩
  · rintro ⟨wallet, balance, row, h0, hw, hb, hr, rfl⟩
    exact ⟨h0, wallet, hw, balance, hb, row, hr, rfl⟩

lemma debitWallet_eq_ok :
    debitWallet l w a t refs = .ok r ↔
      ∃ wallet balance row, 0 < a ∧ l.wallets.get w = some wallet ∧
        a ≤ wallet.availableBalance.value ∧
        store 18 2 (minus wallet.availableBalance.value a) = some balance ∧
        store 18 2 (negate a) = some row ∧
        r = (l.post w t row balance { refs with deposit := none }, l.transactions.next) := by
  simp only [debitWallet, WalletLedger.wallet, column, guard_eq_ok, bind_eq_ok, require_eq_ok,
    pure_eq_ok, not_le, not_lt]
  constructor
  · rintro ⟨h0, wallet, hw, hle, balance, hb, row, hr, rfl⟩
    exact ⟨wallet, balance, row, h0, hw, hle, hb, hr, rfl⟩
  · rintro ⟨wallet, balance, row, h0, hw, hle, hb, hr, rfl⟩
    exact ⟨h0, wallet, hw, hle, balance, hb, row, hr, rfl⟩

end Outcomes

section Cents

variable {l : WalletLedger ν} {w : ℕ} {n : ℤ} {t : TxType} {refs : References ν}
  {r : WalletLedger ν × ℕ}

lemma abs_add_lt (a b : Amount) : |a.units + b.units| < 10 ^ precision := by
  have ha := abs_lt.mp a.fits
  have hb := abs_lt.mp b.fits
  rw [precision, abs_lt]
  omega

lemma creditWallet_cents :
    creditWallet l w (scaled 2 n) t refs = .ok r ↔
      ∃ wallet balance amount, 0 < n ∧ l.wallets.get w = some wallet ∧ amount.units = n ∧
        balance.units = wallet.availableBalance.units + n ∧
        r = (l.post w t amount balance refs, l.transactions.next) := by
  rw [creditWallet_eq_ok]
  refine exists_congr fun wallet => exists_congr fun balance => exists_congr fun amount => ?_
  have hpos : 0 < scaled 2 n ↔ 0 < n := by
    rw [← not_le, scaled_nonpos, not_le]
  rw [hpos, store_scaled (n := amount)]
  constructor
  · rintro ⟨h0, hw, hb, rfl, hr⟩
    rw [Numeric.value, plus_scaled (abs_add_lt _ _), store_scaled] at hb
    exact ⟨h0, hw, rfl, hb.symm, hr⟩
  · rintro ⟨h0, hw, rfl, hb, hr⟩
    rw [Numeric.value, plus_scaled (abs_add_lt _ _), store_scaled]
    exact ⟨h0, hw, hb.symm, rfl, hr⟩

lemma debitWallet_cents :
    debitWallet l w (scaled 2 n) t refs = .ok r ↔
      ∃ wallet balance amount, 0 < n ∧ l.wallets.get w = some wallet ∧
        n ≤ wallet.availableBalance.units ∧ amount.units = -n ∧
        balance.units = wallet.availableBalance.units - n ∧
        r = (l.post w t amount balance { refs with deposit := none }, l.transactions.next) := by
  rw [debitWallet_eq_ok]
  refine exists_congr fun wallet => exists_congr fun balance => exists_congr fun amount => ?_
  have hpos : 0 < scaled 2 n ↔ 0 < n := by
    rw [← not_le, scaled_nonpos, not_le]
  rw [hpos, Numeric.value, scaled_le]
  have hbound : 0 < n → n ≤ wallet.availableBalance.units →
      |n| < 10 ^ precision ∧ |wallet.availableBalance.units - n| < 10 ^ precision := by
    intro h0 hle
    have ha := abs_lt.mp wallet.availableBalance.fits
    rw [precision, abs_lt, abs_lt]
    omega
  constructor
  · rintro ⟨h0, hw, hle, hb, hr, hres⟩
    obtain ⟨hn, hs⟩ := hbound h0 hle
    rw [minus_scaled hs, store_scaled] at hb
    rw [negate_scaled hn, store_scaled] at hr
    exact ⟨h0, hw, hle, hr.symm, hb.symm, hres⟩
  · rintro ⟨h0, hw, hle, hr, hb, hres⟩
    obtain ⟨hn, hs⟩ := hbound h0 hle
    rw [minus_scaled hs, store_scaled, negate_scaled hn, store_scaled]
    exact ⟨h0, hw, hle, hb.symm, hr.symm, hres⟩

end Cents

section Reconciliation

def WalletLedger.ledgerSum (l : WalletLedger ν) (walletId : ℕ) : ℤ :=
  l.transactions.total fun _ row => if row.wallet = walletId then row.amount.units else 0

structure Reconciliation where
  walletId : ℕ
  stored : ℤ
  computed : ℤ
  drift : ℤ
  ok : Bool
deriving DecidableEq

def reconcileWallet (l : WalletLedger ν) (walletId : ℕ) : Except LedgerError Reconciliation := do
  let wallet ← l.wallet walletId
  let computed := l.ledgerSum walletId
  let drift := computed - wallet.availableBalance.units
  pure { walletId := walletId, stored := wallet.availableBalance.units, computed := computed,
         drift := drift, ok := drift = 0 }

lemma ledgerSum_post (l : WalletLedger ν) (w v : ℕ) (t : TxType) (amount balance : Amount)
    (refs : References ν) :
    (l.post w t amount balance refs).ledgerSum v =
      l.ledgerSum v + if w = v then amount.units else 0 :=
  post_total _ _ _ _ _ _ _

end Reconciliation

end TrxSimulator.Wallets.Ledger
