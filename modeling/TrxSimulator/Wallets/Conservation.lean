import TrxSimulator.Foundations.Runs
import TrxSimulator.Wallets.Transfers

/-! Transfers of whole cents conserve money: every call moves both balances and both ledgers together,
or none of them. -/

namespace TrxSimulator.Wallets.Conservation

open Foundations.Runs Foundations.Tables Foundations.Outcomes Foundations.Decimals Money Accounts Ledger
open Transfers

variable {ν : Type}

structure Transfer (ν : Type) where
  direction : Direction
  walletId : ℕ
  tradingAccountId : ℕ
  cents : ℤ
  note : Option ν
  initiatedBy : Option ℕ

def Transfer.request (t : Transfer ν) : Request ν where
  walletId := t.walletId
  tradingAccountId := t.tradingAccountId
  amount := scaled 2 t.cents
  note := t.note
  initiatedBy := t.initiatedBy

def transfer (s : Books ν) (t : Transfer ν) : Books ν × Except TransferError ℕ :=
  match t.direction with
  | .toAccount => transferToAccount s t.request
  | .toWallet => transferToWallet s t.request

def step (s : Books ν) (t : Transfer ν) : Books ν := (transfer s t).1

def walletChange : Direction → ℤ → ℤ
  | .toAccount, n => -n
  | .toWallet, n => n

def entryTransfer (e : LedgerEntry) : Option ℕ :=
  match e.info with
  | some (.walletSource _ pk) => some pk
  | some (.walletDestination _ pk) => some pk
  | _ => none

def Books.transactionsOf (s : Books ν) (pk : ℕ) : ℕ :=
  s.ledger.transactions.total fun _ r => if r.internalTransfer = some pk then 1 else 0

def Books.entriesOf (s : Books ν) (pk : ℕ) : ℕ :=
  s.entries.total fun _ e => if entryTransfer e = some pk then 1 else 0

def Books.transactionSum (s : Books ν) (pk : ℕ) : ℤ :=
  s.ledger.transactions.total fun _ r => if r.internalTransfer = some pk then r.amount.units else 0

def Books.entrySum (s : Books ν) (pk : ℕ) : ℤ :=
  s.entries.total fun _ e => if entryTransfer e = some pk then e.amount.units else 0

/-- The call ended with the transfer completed: the wallet and the account moved by opposite amounts,
and one row was appended to each of the two ledgers. -/
structure Completed (s s' : Books ν) (t : Transfer ν) (pk : ℕ) : Prop where
  row : ∃ x, s'.transfers.get pk = some x ∧ x.status = .completed ∧ x.direction = t.direction ∧
    x.wallet = t.walletId ∧ x.tradingAccount = t.tradingAccountId ∧ x.amount.units = t.cents
  fresh : pk = s.transfers.next ∧ s'.transfers.next = s.transfers.next + 1
  otherRows : ∀ i, i ≠ pk → s'.transfers.get i = s.transfers.get i
  balances : ∃ w w' a a', s.ledger.wallets.get t.walletId = some w ∧
    s'.ledger.wallets.get t.walletId = some w' ∧ s.accounts.get t.tradingAccountId = some a ∧
    s'.accounts.get t.tradingAccountId = some a' ∧
    w'.availableBalance.units = w.availableBalance.units + walletChange t.direction t.cents ∧
    w'.availableBalance.units + a'.balance.units = w.availableBalance.units + a.balance.units
  otherWallets : ∀ i, i ≠ t.walletId → s'.ledger.wallets.get i = s.ledger.wallets.get i
  otherAccounts : ∀ i, i ≠ t.tradingAccountId → s'.accounts.get i = s.accounts.get i
  transaction : ∃ r, s'.ledger.transactions = s.ledger.transactions.insert r ∧
    r.wallet = t.walletId ∧ r.internalTransfer = some pk ∧
    r.amount.units = walletChange t.direction t.cents
  entry : ∃ e, s'.entries = s.entries.insert e ∧ e.account = t.tradingAccountId ∧
    entryTransfer e = some pk ∧ e.amount.units = -walletChange t.direction t.cents

/-- The call moved nothing; at most it left a failed transfer behind. -/
structure Failed (s s' : Books ν) : Prop where
  ledger : s'.ledger = s.ledger
  accounts : s'.accounts = s.accounts
  entries : s'.entries = s.entries
  transfers : s'.transfers = s.transfers ∨
    (s'.transfers.next = s.transfers.next + 1 ∧
      (∀ i, i ≠ s.transfers.next → s'.transfers.get i = s.transfers.get i) ∧
      ∃ x, s'.transfers.get s.transfers.next = some x ∧ x.status = .failed)

def Outcome (s : Books ν) (t : Transfer ν) (result : Books ν × Except TransferError ℕ) : Prop :=
  match result.2 with
  | .ok pk => Completed s result.1 t pk
  | .error _ => Failed s result.1

/-- Completed transfers have one row in each ledger, of opposite amounts; failed transfers have none. -/
structure Consistent (s : Books ν) : Prop where
  transactionKeys : ∀ i r pk, s.ledger.transactions.get i = some r → r.internalTransfer = some pk →
    pk < s.transfers.next
  entryKeys : ∀ i e pk, s.entries.get i = some e → entryTransfer e = some pk → pk < s.transfers.next
  completed : ∀ pk x, s.transfers.get pk = some x → x.status = .completed →
    Books.transactionsOf s pk = 1 ∧ Books.entriesOf s pk = 1 ∧
    Books.transactionSum s pk = walletChange x.direction x.amount.units ∧
    Books.entrySum s pk = -walletChange x.direction x.amount.units
  failed : ∀ pk x, s.transfers.get pk = some x → x.status = .failed →
    Books.transactionsOf s pk = 0 ∧ Books.entriesOf s pk = 0

section Outcomes

variable {s s' created : Books ν} {t : Transfer ν}

lemma failed_refl (s : Books ν) : Failed s s := ⟨rfl, rfl, rfl, Or.inl rfl⟩

lemma failed_fail {d : Direction} {q : Request ν} {e : TransferError}
    (hc : createTransfer s d q = .ok created) : Failed s (created.fail s.transfers.next e) := by
  obtain ⟨amount, wallet, account, -, -, -, rfl⟩ := createTransfer_eq_ok.mp hc
  refine ⟨rfl, rfl, rfl, Or.inr ⟨rfl, fun i hi => ?_, ?_⟩⟩
  · simp only [Books.fail]
    rw [Table.get_update_ne _ hi, Table.get_insert, if_neg hi]
  · exact ⟨_, Table.get_update_self (Table.get_insert_next _ _) _, rfl⟩

lemma completed_settled {ledger : WalletLedger ν} {w : Wallet} {a a' : TradingAccount}
    {amount balance : Amount} {tx : TxType} {refs : References ν} {e : LedgerEntry}
    (hc : createTransfer s t.direction t.request = .ok created)
    (hs : s' = created.settled s.transfers.next t.tradingAccountId ledger a' e)
    (hl : ledger = s.ledger.post t.walletId tx amount balance refs)
    (hw : s.ledger.wallets.get t.walletId = some w) (ha : s.accounts.get t.tradingAccountId = some a)
    (hamount : amount.units = walletChange t.direction t.cents)
    (hbalance : balance.units = w.availableBalance.units + walletChange t.direction t.cents)
    (haccount : a'.balance.units = a.balance.units - walletChange t.direction t.cents)
    (hrefs : refs.internalTransfer = some s.transfers.next)
    (he : e.account = t.tradingAccountId ∧ entryTransfer e = some s.transfers.next ∧
      e.amount.units = -walletChange t.direction t.cents) :
    Completed s s' t s.transfers.next := by
  obtain ⟨stored, wallet, account, hstored, -, -, rfl⟩ := createTransfer_eq_ok.mp hc
  subst hs hl
  exact
    { row := ⟨_, Table.get_update_self (Table.get_update_self (Table.get_insert_next _ _) _) _, rfl, rfl,
        rfl, rfl, (store_scaled.mp hstored).symm⟩
      fresh := ⟨rfl, rfl⟩
      otherRows := fun i hi => by
        simp only [Books.settled]
        rw [Table.get_update_ne _ hi, Table.get_update_ne _ hi, Table.get_insert, if_neg hi]
      balances := ⟨w, _, a, a', hw, post_wallets_self _ _ _ _ _ _ hw, ha, Table.get_update_self ha _,
        hbalance, by simp only; omega⟩
      otherWallets := fun i hi => post_wallets_ne _ _ _ _ _ _ hi
      otherAccounts := fun i hi => Table.get_update_ne _ hi _
      transaction := ⟨_, rfl, rfl, hrefs, hamount⟩
      entry := ⟨e, rfl, he⟩ }

lemma outcome_settle_toAccount (hd : t.direction = .toAccount) :
    Outcome s t (settle s .toAccount t.request toAccountBlock) := by
  rcases settle_cases s .toAccount t.request toAccountBlock with ⟨e, h⟩ | ⟨created, hc, h⟩
  · rw [h]
    exact failed_refl s
  · rcases h with ⟨e, h⟩ | ⟨settled, hb, h⟩
    · rw [h]
      exact failed_fail hc
    · rw [h]
      obtain ⟨w, a, balance, amount, a', e, hw, ha, hamount, hbalance, haccount, he1, he2, he3, hs⟩ :=
        toAccountBlock_cents rfl hb
      rw [← hd] at hc
      obtain ⟨_, _, _, -, -, -, rfl⟩ := createTransfer_eq_ok.mp hc
      refine completed_settled hc hs rfl hw ha ?_ ?_ ?_ rfl ⟨he1, ?_, ?_⟩
      all_goals simp only [hd, walletChange, entryTransfer, he3]
      all_goals omega

lemma outcome_settle_toWallet (hd : t.direction = .toWallet) :
    Outcome s t (settle s .toWallet t.request toWalletBlock) := by
  rcases settle_cases s .toWallet t.request toWalletBlock with ⟨e, h⟩ | ⟨created, hc, h⟩
  · rw [h]
    exact failed_refl s
  · rcases h with ⟨e, h⟩ | ⟨settled, hb, h⟩
    · rw [h]
      exact failed_fail hc
    · rw [h]
      obtain ⟨w, a, balance, amount, a', e, hw, ha, hamount, hbalance, haccount, he1, he2, he3, hs⟩ :=
        toWalletBlock_cents rfl hb
      rw [← hd] at hc
      obtain ⟨_, _, _, -, -, -, rfl⟩ := createTransfer_eq_ok.mp hc
      refine completed_settled hc hs rfl hw ha ?_ ?_ ?_ rfl ⟨he1, ?_, ?_⟩
      all_goals simp only [hd, walletChange, entryTransfer, he3]
      all_goals omega

lemma outcome (s : Books ν) (t : Transfer ν) : Outcome s t (transfer s t) := by
  unfold transfer
  cases hd : t.direction with
  | toAccount =>
    simp only [transferToAccount]
    split
    · exact failed_refl s
    · exact outcome_settle_toAccount hd
  | toWallet =>
    simp only [transferToWallet]
    split
    · exact failed_refl s
    · split
      · exact failed_refl s
      · split
        · exact outcome_settle_toWallet hd
        · exact failed_refl s

lemma toWallet_denied {a : TradingAccount} (hd : t.direction = .toWallet)
    (ha : s.accounts.get t.tradingAccountId = some a) (hdenied : a.accountType.withdrawable = false) :
    step s t = s := by
  have ha' : s.accounts.get t.request.tradingAccountId = some a := ha
  simp only [step, transfer, hd, transferToWallet, ha', hdenied]
  split <;> rfl

end Outcomes

section Runs

variable {s s' : Books ν} {t : Transfer ν} {pk : ℕ}

lemma consistent_of_failed (h : Consistent s) (hf : Failed s s') : Consistent s' := by
  obtain ⟨hl, -, he, htransfers⟩ := hf
  rcases htransfers with ht | ⟨hnext, hother, x, hx, hstatus⟩
  · refine ⟨?_, ?_, ?_, ?_⟩
    · rw [hl, ht]
      exact h.transactionKeys
    · rw [he, ht]
      exact h.entryKeys
    · simp only [Books.transactionsOf, Books.entriesOf, Books.transactionSum, Books.entrySum, hl, he, ht]
      exact h.completed
    · simp only [Books.transactionsOf, Books.entriesOf, hl, he, ht]
      exact h.failed
  · refine ⟨?_, ?_, ?_, ?_⟩
    · rw [hl, hnext]
      exact fun i r pk hr hpk => Nat.lt_succ_of_lt (h.transactionKeys i r pk hr hpk)
    · rw [he, hnext]
      exact fun i e pk he' hpk => Nat.lt_succ_of_lt (h.entryKeys i e pk he' hpk)
    · intro i y hy hcompleted
      by_cases hi : i = s.transfers.next
      · rw [hi, hx, Option.some.injEq] at hy
        rw [← hy, hstatus] at hcompleted
        cases hcompleted
      · rw [hother i hi] at hy
        simp only [Books.transactionsOf, Books.entriesOf, Books.transactionSum, Books.entrySum, hl, he]
        exact h.completed i y hy hcompleted
    · intro i y hy hfailed
      simp only [Books.transactionsOf, Books.entriesOf, hl, he]
      by_cases hi : i = s.transfers.next
      · subst hi
        refine ⟨Table.total_eq_zero fun j r hr => if_neg fun hk => ?_,
          Table.total_eq_zero fun j e he => if_neg fun hk => ?_⟩
        · exact (h.transactionKeys j r _ hr hk).false
        · exact (h.entryKeys j e _ he hk).false
      · rw [hother i hi] at hy
        exact h.failed i y hy hfailed

lemma consistent_of_completed (h : Consistent s) (hc : Completed s s' t pk) : Consistent s' := by
  obtain ⟨x, hx, hstatus, hdirection, -, -, hcents⟩ := hc.row
  obtain ⟨rfl, hnext⟩ := hc.fresh
  obtain ⟨r, hr, -, hrkey, hramount⟩ := hc.transaction
  obtain ⟨e, he, -, hekey, heamount⟩ := hc.entry
  have hold : ∀ i, i ≠ s.transfers.next →
      Books.transactionsOf s' i = Books.transactionsOf s i ∧ Books.entriesOf s' i = Books.entriesOf s i ∧
      Books.transactionSum s' i = Books.transactionSum s i ∧ Books.entrySum s' i = Books.entrySum s i := by
    intro i hi
    have hi' : ¬ s.transfers.next = i := Ne.symm hi
    simp only [Books.transactionsOf, Books.entriesOf, Books.transactionSum, Books.entrySum, hr, he,
      Table.total_insert, hrkey, hekey, Option.some.injEq, if_neg hi', add_zero, and_self]
  have hnew : Books.transactionsOf s' s.transfers.next = 1 ∧ Books.entriesOf s' s.transfers.next = 1 ∧
      Books.transactionSum s' s.transfers.next = walletChange t.direction t.cents ∧
      Books.entrySum s' s.transfers.next = -walletChange t.direction t.cents := by
    have hrzero : ∀ i r, s.ledger.transactions.get i = some r →
        ¬ r.internalTransfer = some s.transfers.next :=
      fun i r hi hk => (h.transactionKeys i r _ hi hk).false
    have hezero : ∀ i e, s.entries.get i = some e → ¬ entryTransfer e = some s.transfers.next :=
      fun i e hi hk => (h.entryKeys i e _ hi hk).false
    simp only [Books.transactionsOf, Books.entriesOf, Books.transactionSum, Books.entrySum, hr, he,
      Table.total_insert, hrkey, hekey, if_true, hramount, heamount]
    rw [Table.total_eq_zero fun i r hi => if_neg (hrzero i r hi),
      Table.total_eq_zero fun i e hi => if_neg (hezero i e hi),
      Table.total_eq_zero fun i r hi => if_neg (hrzero i r hi),
      Table.total_eq_zero fun i e hi => if_neg (hezero i e hi)]
    simp only [zero_add, and_self]
  refine ⟨?_, ?_, ?_, ?_⟩
  · intro i row k hi hk
    rw [hnext]
    rw [hr] at hi
    rcases Table.get_insert_some hi with hi | ⟨-, rfl⟩
    · exact Nat.lt_succ_of_lt (h.transactionKeys i row k hi hk)
    · rw [hrkey, Option.some.injEq] at hk
      omega
  · intro i entry k hi hk
    rw [hnext]
    rw [he] at hi
    rcases Table.get_insert_some hi with hi | ⟨-, rfl⟩
    · exact Nat.lt_succ_of_lt (h.entryKeys i entry k hi hk)
    · rw [hekey, Option.some.injEq] at hk
      omega
  · intro i y hy hcompleted
    by_cases hi : i = s.transfers.next
    · subst hi
      rw [hx, Option.some.injEq] at hy
      rw [← hy, hdirection, hcents]
      exact hnew
    · rw [hc.otherRows i hi] at hy
      obtain ⟨h1, h2, h3, h4⟩ := hold i hi
      rw [h1, h2, h3, h4]
      exact h.completed i y hy hcompleted
  · intro i y hy hfailed
    by_cases hi : i = s.transfers.next
    · subst hi
      rw [hx, Option.some.injEq] at hy
      rw [← hy, hstatus] at hfailed
      cases hfailed
    · rw [hc.otherRows i hi] at hy
      obtain ⟨h1, h2, -, -⟩ := hold i hi
      rw [h1, h2]
      exact h.failed i y hy hfailed

lemma consistent_step (s : Books ν) (t : Transfer ν) (h : Consistent s) : Consistent (step s t) := by
  have ho := outcome s t
  rw [Outcome] at ho
  rw [step]
  split at ho
  · exact consistent_of_completed h ho
  · exact consistent_of_failed h ho

theorem transfers_conserve (s : Books ν) (h : Consistent s) (ts : List (Transfer ν)) :
    Consistent (run step s ts) ∧
    (∀ t, Outcome (run step s ts) t (transfer (run step s ts) t)) ∧
    ∀ t a, t.direction = .toWallet → (run step s ts).accounts.get t.tradingAccountId = some a →
      a.accountType.withdrawable = false → step (run step s ts) t = run step s ts :=
  ⟨run_invariant consistent_step h ts, fun t => outcome _ t,
    fun _ _ hd ha hdenied => toWallet_denied hd ha hdenied⟩

def openBooks : Books String where
  ledger := { wallets := Table.empty.insert { user := 0, currency := "USD", availableBalance := ⟨10000, by decide⟩,
                                              pendingBalance := default }
              transactions := Table.empty }
  accounts := Table.empty.insert { user := some 0, accountType := .standard, balance := ⟨0, by decide⟩,
                                   equity := ⟨0, by decide⟩, peakBalance := ⟨0, by decide⟩,
                                   initialBalance := none }
  entries := Table.empty
  positions := Table.empty
  transfers := Table.empty

lemma openBooks_consistent : Consistent openBooks := by
  refine ⟨?_, ?_, ?_, ?_⟩
  all_goals
    intros
    simp_all [openBooks]

theorem transfers_conserve_example :
    Consistent (run step openBooks
      [⟨.toAccount, 0, 0, 2500, none, none⟩, ⟨.toWallet, 0, 0, 1000, none, none⟩,
        ⟨.toWallet, 0, 0, 9999, none, none⟩]) :=
  (transfers_conserve openBooks openBooks_consistent _).1

end Runs

end TrxSimulator.Wallets.Conservation
