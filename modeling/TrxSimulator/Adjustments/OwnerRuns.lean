import TrxSimulator.Adjustments.Owner

/-! What the owner's adjustments do among transfers and opened positions: a key takes effect once, a call that
raises changes nothing, and what is stored adds up unless an amount is rounded apart from the balance. -/

namespace TrxSimulator.Adjustments.OwnerRuns

open Foundations.Tables Foundations.Outcomes Foundations.Decimals Foundations.Runs Money Owner
open Accounts (Balance TradingAccount LedgerEntry)
open Wallets.Ledger (LedgerError creditWallet debitWallet WalletLedger creditWallet_eq_ok debitWallet_eq_ok)
open Wallets.Transfers (Books transferToAccount transferToWallet)
open Wallets.Drift (Lifted Landed credit_drift debit_drift debit_nonneg store_amount)
open Trading.Charges (Broken cents store_cents cents_plus_iff abs_balance_add_lt)

section Statement

/-- The owner's adjustment of a wallet rounds the balance and the amount to the same cent. -/
def WalletExact (balance amount : ℚ) : Prop :=
  if 0 < amount then ¬ Lifted (balance + amount)
  else ¬ Landed (balance - negate amount) ∧ ¬ Lifted (-amount)

instance (balance amount : ℚ) : Decidable (WalletExact balance amount) := by
  unfold WalletExact
  infer_instance

/-- The balance and the amount of an adjustment are rounded to the same cent, and no opened position is charged
more than the account's balance. -/
def Meets (s : State) : Action → Prop
  | .transact i _ => match s.calls[i]? with
    | some (.trading r) => ∀ a ∈ s.books.accounts.get r.target,
        0 ≤ plus a.balance.value r.amount → ¬ Broken a.balance.value r.amount
    | some (.wallet r) => ∀ w ∈ s.books.ledger.wallets.get r.target, WalletExact w.availableBalance.value r.amount
    | none => True
  | .openPosition o => ∀ a ∈ s.books.accounts.get o.account, ∀ charges ∈ (o.charges a.balance.value).toOption,
      0 ≤ cents charges.balance
  | _ => True

def Unchanged (s s' : State) : Prop := s'.books = s.books ∧ s'.manual = s.manual ∧ s'.owner = s.owner

structure Adjusted (r : Request) (s s' : State) : Prop where
  closed : s.books.openPositions r.target = 0
  fresh : ∀ i b, s.manual.get i = some b → b.idempotencyKey ≠ r.idempotencyKey
  recorded : ∃ a account entry, s'.manual = s.manual.insert a ∧ a.idempotencyKey = r.idempotencyKey ∧
    a.tradingAccount = r.target ∧ s.books.accounts.get r.target = some account ∧ a.balanceBefore = account.balance ∧
    a.balanceAfter.units = a.balanceBefore.units + a.amount.units ∧
    s'.books.accounts.get r.target = some { account with balance := a.balanceAfter, equity := a.balanceAfter } ∧
    s'.books.entries = s.books.entries.insert entry ∧ entry.account = r.target ∧
    entry.amount.units = a.amount.units ∧ entry.balanceAfter.units = a.balanceAfter.units
  others : ∀ k, k ≠ r.target → s'.books.accounts.get k = s.books.accounts.get k
  rest : s'.owner = s.owner ∧ s'.books.ledger = s.books.ledger

structure WalletAdjusted (r : Request) (s s' : State) : Prop where
  fresh : ∀ i b, s.owner.get i = some b → b.idempotencyKey ≠ r.idempotencyKey
  recorded : ∃ a wallet row, s'.owner = s.owner.insert a ∧ a.idempotencyKey = r.idempotencyKey ∧
    a.wallet = r.target ∧ s.books.ledger.wallets.get r.target = some wallet ∧
    a.balanceBefore = wallet.availableBalance ∧ a.balanceAfter.units = a.balanceBefore.units + a.amount.units ∧
    s'.books.ledger.wallets.get r.target = some { wallet with availableBalance := a.balanceAfter } ∧
    s'.books.ledger.transactions = s.books.ledger.transactions.insert row ∧ row.wallet = r.target ∧
    row.amount = a.amount ∧ row.balanceAfter = a.balanceAfter
  others : ∀ k, k ≠ r.target → s'.books.ledger.wallets.get k = s.books.ledger.wallets.get k
  rest : s'.manual = s.manual ∧ s'.books.accounts = s.books.accounts ∧ s'.books.entries = s.books.entries

/-- What one step does: an adjustment has its effect or raises and changes nothing. -/
def Effect (s s' : State) : Action → Prop
  | .lookup _ => Unchanged s s'
  | .transact i reference => match s.calls[i]? with
    | none => Unchanged s s'
    | some c => match transact s reference c, c with
      | .error _, _ => Unchanged s s'
      | .ok _, .trading r => Adjusted r s s'
      | .ok _, .wallet r => WalletAdjusted r s s'
  | _ => s'.manual = s.manual ∧ s'.owner = s.owner

structure Sound (s : State) : Prop where
  manualKeys : ∀ i j a b, s.manual.get i = some a → s.manual.get j = some b →
    a.idempotencyKey = b.idempotencyKey → i = j
  ownerKeys : ∀ i j a b, s.owner.get i = some a → s.owner.get j = some b →
    a.idempotencyKey = b.idempotencyKey → i = j
  manualExact : ∀ i a, s.manual.get i = some a → a.balanceAfter.units = a.balanceBefore.units + a.amount.units
  ownerExact : ∀ i a, s.owner.get i = some a → a.balanceAfter.units = a.balanceBefore.units + a.amount.units
  accounts : ∀ k a, s.books.accounts.get k = some a → 0 ≤ a.balance.units
  wallets : ∀ k w, s.books.ledger.wallets.get k = some w → 0 ≤ w.availableBalance.units

end Statement

section Rounding

variable {x : ℚ} {d k : ℕ} {n : Numeric d k}

lemma store_nonneg (h0 : 0 ≤ x) (h : store d k x = some n) : 0 ≤ n.units := by
  rw [store_eq_some, roundHalfAway_of_nonneg (by positivity)] at h
  rw [← h]
  exact Int.floor_nonneg.mpr (by positivity)

lemma value_nonneg (h : 0 ≤ n.units) : 0 ≤ n.value := by
  rw [Numeric.value, scaled]
  have hcast : (0 : ℚ) ≤ n.units := by exact_mod_cast h
  positivity

end Rounding

section Trading

variable {s s' : State} {r : Request} {reference : String}

lemma insertManual_eq_ok {a : ManualBalanceAdjustment} (h : insertManual s a = .ok s') :
    (∀ i b, s.manual.get i = some b → b.idempotencyKey ≠ a.idempotencyKey) ∧
      s' = { s with manual := s.manual.insert a } := by
  simp only [insertManual, guard_eq_ok, Bool.not_eq_true, Except.ok.injEq] at h
  obtain ⟨hkey, -, rfl⟩ := h
  refine ⟨fun i b hb heq => ?_, rfl⟩
  have hno := Table.exists?_false hkey hb
  rw [manualKey, decide_eq_false_iff_not] at hno
  exact hno heq

lemma trading_adjusted (h : ownerTradingAccountAdjustment s reference r = .ok s')
    (hexact : ∀ a ∈ s.books.accounts.get r.target, 0 ≤ plus a.balance.value r.amount → ¬ Broken a.balance.value r.amount) :
    Adjusted r s s' ∧ ∀ a, s'.books.accounts.get r.target = some a → 0 ≤ a.balance.units := by
  simp only [ownerTradingAccountAdjustment, bind_eq_ok, require_eq_ok, guard_eq_ok, Owner.column, not_lt,
    Nat.le_zero] at h
  obtain ⟨account, hacc, hclosed, hnonneg, balance, hb, entryAmount, hentry, entryAfter, hafter, amount, ha, h⟩ := h
  obtain ⟨hfresh, rfl⟩ := insertManual_eq_ok h
  have hcents : cents r.amount = entryAmount.units := store_cents.mp hentry
  have hfit : |account.balance.value + r.amount| < 10 ^ 25 := by
    refine abs_balance_add_lt ?_
    rw [hcents]
    exact entryAmount.fits
  have hsum := (cents_plus_iff hfit).mpr (hexact account hacc hnonneg)
  have hb' : cents (plus account.balance.value r.amount) = balance.units := store_cents.mp hb
  have hafter' : cents (plus account.balance.value r.amount) = entryAfter.units := store_cents.mp hafter
  have ha' : cents r.amount = amount.units := store_cents.mp ha
  refine ⟨⟨hclosed, hfresh, ?_, fun k hk => Table.get_update_ne _ hk _, rfl, rfl⟩, fun a hget => ?_⟩
  · refine ⟨_, account, _, rfl, rfl, rfl, hacc, rfl, ?_, Table.get_update_self hacc _, rfl, rfl, ?_, ?_⟩
    · rw [← hb', hsum, ha']
    · exact hcents.symm.trans ha'
    · exact hafter'.symm.trans hb'
  · have hself := Table.get_update_self hacc fun a => { a with balance := balance, equity := balance }
    obtain rfl := Option.some.inj (hself.symm.trans hget)
    exact store_nonneg hnonneg hb

end Trading

section Wallets

variable {s s' : State} {r : Request} {reference : String} {l : WalletLedger String} {moved : WalletLedger String × ℕ}
  {refs : Wallets.Ledger.References String}

lemma insertOwner_eq_ok {a : OwnerWalletAdjustment} (h : insertOwner s a = .ok s') :
    (∀ i b, s.owner.get i = some b → b.idempotencyKey ≠ a.idempotencyKey) ∧
      s' = { s with owner := s.owner.insert a } := by
  simp only [insertOwner, guard_eq_ok, Bool.not_eq_true, Except.ok.injEq] at h
  obtain ⟨hkey, -, -, rfl⟩ := h
  refine ⟨fun i b hb heq => ?_, rfl⟩
  have hno := Table.exists?_false hkey hb
  rw [ownerKey, decide_eq_false_iff_not] at hno
  exact hno heq

lemma ownerDebit_eq_ok (h : ownerDebit l r refs = .ok moved) :
    debitWallet l r.target (negate r.amount) .correction refs = .ok moved := by
  rw [ownerDebit] at h
  split at h
  · next hd => rw [hd, Except.ok.inj h]
  · cases h
  · cases h

lemma cents_negate_negate {x : ℚ} (h0 : x ≤ 0) (h : |cents (negate (negate x))| < 10 ^ 18) (hlifted : ¬ Lifted (-x)) :
    cents (negate (negate x)) = cents x := by
  have hcontext : negate (negate x) = negate (-x) := by
    rw [negate, negate, negate, ← context_neg, context_context (by norm_num [precision]), context_neg]
  rw [hcontext] at h ⊢
  rw [Trading.Charges.cents_negate (neg_nonneg.mpr h0) h hlifted, neg_neg]

lemma ownerMove_exact (h : ownerMove l r = .ok moved) (hnonneg : ∀ w ∈ l.wallets.get r.target, 0 ≤ w.availableBalance.units)
    (hexact : ∀ w ∈ l.wallets.get r.target, WalletExact w.availableBalance.value r.amount) {amount : Amount}
    (hamount : store 18 2 r.amount = some amount) : ∃ wallet balance refs, l.wallets.get r.target = some wallet ∧
      balance.units = wallet.availableBalance.units + amount.units ∧ 0 ≤ balance.units ∧
      moved.1 = l.post r.target .correction amount balance refs := by
  rw [ownerMove] at h
  split at h
  · next hpos =>
    rw [mapError_eq_ok] at h
    obtain ⟨wallet, balance, row, -, hw, hb, hrow, rfl⟩ := creditWallet_eq_ok.mp h
    obtain rfl : row = amount := Option.some.inj (hrow.symm.trans hamount)
    have hw0 := hnonneg wallet hw
    have hlifted := hexact wallet hw
    rw [WalletExact, if_pos hpos] at hlifted
    have hdrift := credit_drift hw0 hpos hb hrow
    rw [if_neg hlifted, add_zero] at hdrift
    have hrow0 : 0 ≤ row.units := store_nonneg hpos.le hrow
    exact ⟨wallet, balance, _, hw, hdrift, by omega, rfl⟩
  · next hneg =>
    obtain ⟨wallet, balance, row, h0, hw, hle, hb, hrow, rfl⟩ := debitWallet_eq_ok.mp (ownerDebit_eq_ok h)
    have hlanded := hexact wallet hw
    rw [WalletExact, if_neg hneg] at hlanded
    have hself : ¬ Lifted (negate r.amount) := by
      rintro ⟨-, hlt⟩
      rw [negate, context_context (by norm_num [precision])] at hlt
      exact lt_irrefl _ hlt
    have hdrift := debit_drift h0 hle hb hrow
    rw [if_neg hlanded.1, if_neg hself, add_zero, add_zero] at hdrift
    have hcents : cents (negate (negate r.amount)) = row.units := store_cents.mp hrow
    have hrow' : row = amount := by
      refine units_injective ?_
      rw [← hcents, cents_negate_negate (not_lt.mp hneg) (by rw [hcents]; exact row.fits) hlanded.2]
      exact store_cents.mp hamount
    exact ⟨wallet, balance, _, hw, by rw [hdrift, hrow'], debit_nonneg hle hb, by rw [hrow']⟩

lemma wallet_adjusted (h : ownerWalletAdjustment s reference r = .ok s')
    (hnonneg : ∀ w ∈ s.books.ledger.wallets.get r.target, 0 ≤ w.availableBalance.units)
    (hexact : ∀ w ∈ s.books.ledger.wallets.get r.target, WalletExact w.availableBalance.value r.amount) :
    WalletAdjusted r s s' ∧ ∀ w, s'.books.ledger.wallets.get r.target = some w → 0 ≤ w.availableBalance.units := by
  simp only [ownerWalletAdjustment, bind_eq_ok, require_eq_ok, Owner.column] at h
  obtain ⟨before, hbefore, moved, hmoved, refreshed, hrefreshed, amount, hamount, h⟩ := h
  obtain ⟨hfresh, rfl⟩ := insertOwner_eq_ok h
  obtain ⟨wallet, balance, refs, hw, hbalance, h0, hpost⟩ := ownerMove_exact hmoved hnonneg hexact hamount
  obtain rfl : before = wallet := Option.some.inj (hbefore.symm.trans hw)
  have hself := Wallets.Ledger.post_wallets_self s.books.ledger r.target .correction amount balance refs hw
  rw [hpost] at hrefreshed
  obtain rfl := Option.some.inj (hrefreshed.symm.trans hself)
  refine ⟨⟨hfresh, ?_, fun k hk => ?_, rfl, rfl, rfl⟩, fun w hget => ?_⟩
  · simp only [hpost]
    exact ⟨_, before, _, rfl, rfl, rfl, hw, rfl, hbalance, hself, rfl, rfl, rfl, rfl⟩
  · simp only [hpost]
    exact Wallets.Ledger.post_wallets_ne _ _ _ _ _ _ hk
  · simp only [hpost] at hget
    obtain rfl := Option.some.inj (hself.symm.trans hget)
    exact h0

end Wallets

section Others

variable {b b' : Books String} {q : Wallets.Transfers.Request String} {o : Open}

def AccountsNonneg (b : Books String) : Prop := ∀ k a, b.accounts.get k = some a → 0 ≤ a.balance.units

def WalletsNonneg (l : WalletLedger String) : Prop := ∀ k w, l.wallets.get k = some w → 0 ≤ w.availableBalance.units

lemma plus_nonneg {x y : ℚ} (hx : 0 ≤ x) (hy : 0 ≤ y) : 0 ≤ plus x y := context_nonneg (add_nonneg hx hy)

lemma minus_nonneg {x y : ℚ} (h : y ≤ x) : 0 ≤ minus x y := context_nonneg (sub_nonneg.mpr h)

lemma update_nonneg {t : Table TradingAccount} {k : ℕ} {a : TradingAccount}
    (h : ∀ k a, t.get k = some a → 0 ≤ a.balance.units) (ha : 0 ≤ a.balance.units) :
    ∀ j c, (t.update k fun _ => a).get j = some c → 0 ≤ c.balance.units := by
  intro j c hc
  obtain ⟨c₀, hc₀, rfl⟩ := Table.get_update_some hc
  split
  · exact ha
  · exact h j c₀ hc₀

lemma moveAccount_nonneg {k : ℕ} {a : TradingAccount} {e : Accounts.EventType} {x y : ℚ} {info : Accounts.EntryMeta}
    (h : b.moveAccount k a e x y info = .ok b') (hb : AccountsNonneg b) (hy : 0 ≤ y) : AccountsNonneg b' := by
  simp only [Books.moveAccount, bind_eq_ok, require_eq_ok, pure_eq_ok] at h
  obtain ⟨balance, hbalance, entry, -, after, -, rfl⟩ := h
  exact update_nonneg hb (store_nonneg hy hbalance)

lemma credit_nonneg {l : WalletLedger String} {w : ℕ} {x : ℚ} {t : Wallets.Ledger.TxType}
    {refs : Wallets.Ledger.References String} {r : WalletLedger String × ℕ} (h : creditWallet l w x t refs = .ok r)
    (hl : WalletsNonneg l) : WalletsNonneg r.1 := by
  obtain ⟨wallet, balance, row, h0, hw, hb, -, rfl⟩ := creditWallet_eq_ok.mp h
  have hbalance : 0 ≤ balance.units := store_nonneg (plus_nonneg (value_nonneg (hl w wallet hw)) h0.le) hb
  intro k v hv
  obtain ⟨v₀, hv₀, rfl⟩ := Table.get_update_some hv
  split
  · exact hbalance
  · exact hl k v₀ hv₀

lemma debit_wallets_nonneg {l : WalletLedger String} {w : ℕ} {x : ℚ} {t : Wallets.Ledger.TxType}
    {refs : Wallets.Ledger.References String} {r : WalletLedger String × ℕ} (h : debitWallet l w x t refs = .ok r)
    (hl : WalletsNonneg l) : WalletsNonneg r.1 := by
  obtain ⟨wallet, balance, row, -, hw, hle, hb, -, rfl⟩ := debitWallet_eq_ok.mp h
  have hbalance : 0 ≤ balance.units := store_nonneg (minus_nonneg hle) hb
  intro k v hv
  obtain ⟨v₀, hv₀, rfl⟩ := Table.get_update_some hv
  split
  · exact hbalance
  · exact hl k v₀ hv₀

lemma toAccountBlock_nonneg {pk : ℕ} (h : Wallets.Transfers.toAccountBlock b pk q = .ok b') (h0 : 0 < q.amount)
    (hb : AccountsNonneg b) : AccountsNonneg b' := by
  simp only [Wallets.Transfers.toAccountBlock, bind_eq_ok, require_eq_ok, pure_eq_ok, mapError_eq_ok] at h
  obtain ⟨account, hacc, r, -, peak, -, moved, hmoved, rfl⟩ := h
  have hnonneg : AccountsNonneg moved :=
    moveAccount_nonneg hmoved hb (plus_nonneg (value_nonneg (hb _ account hacc)) h0.le)
  exact hnonneg

lemma toWalletBlock_nonneg {pk : ℕ} (h : Wallets.Transfers.toWalletBlock b pk q = .ok b')
    (hb : AccountsNonneg b) : AccountsNonneg b' := by
  simp only [Wallets.Transfers.toWalletBlock, bind_eq_ok, require_eq_ok, pure_eq_ok, mapError_eq_ok, guard_eq_ok,
    not_lt] at h
  obtain ⟨account, hacc, -, hle, moved, hmoved, r, -, rfl⟩ := h
  have hnonneg : AccountsNonneg moved := moveAccount_nonneg hmoved hb (minus_nonneg hle)
  exact hnonneg

lemma settle_nonneg {d : Wallets.Transfers.Direction}
    {block : Books String → ℕ → Wallets.Transfers.Request String → Except Wallets.Transfers.TransferError (Books String)}
    (hblock : ∀ c c' pk, block c pk q = .ok c' → AccountsNonneg c → AccountsNonneg c') (hb : AccountsNonneg b) :
    AccountsNonneg (Wallets.Transfers.settle b d q block).1 := by
  rcases Wallets.Transfers.settle_cases b d q block with ⟨e, h⟩ | ⟨created, hc, h⟩
  · rw [h]
    exact hb
  obtain ⟨_, _, _, -, -, -, rfl⟩ := Wallets.Transfers.createTransfer_eq_ok.mp hc
  rcases h with ⟨e, h⟩ | ⟨settled, hs, h⟩
  · rw [h]
    exact hb
  · rw [h]
    exact hblock _ _ _ hs hb

lemma transferToAccount_nonneg (hb : AccountsNonneg b) : AccountsNonneg (transferToAccount b q).1 := by
  rw [transferToAccount]
  split
  · exact hb
  · next h0 => exact settle_nonneg (fun c c' pk h hc => toAccountBlock_nonneg h (not_le.mp h0) hc) hb

lemma transferToWallet_nonneg (hb : AccountsNonneg b) : AccountsNonneg (transferToWallet b q).1 := by
  rw [transferToWallet]
  split
  · exact hb
  split
  · exact hb
  split
  · exact settle_nonneg (fun c c' pk h hc => toWalletBlock_nonneg h hc) hb
  · exact hb

lemma chargeEntry_frame {p : Prop} [Decidable p] {k : ℕ} {e : Accounts.EventType} {x y : ℚ}
    (h : chargeEntry b p k e x y = .ok b') : b'.accounts = b.accounts ∧ b'.ledger = b.ledger := by
  rw [chargeEntry] at h
  split at h
  · simp only [bind_eq_ok, pure_eq_ok] at h
    obtain ⟨_, -, _, -, rfl⟩ := h
    exact ⟨rfl, rfl⟩
  · cases h
    exact ⟨rfl, rfl⟩

/-- An opened position moves the balance of its account alone, to what its charges leave. -/
lemma openPosition_nonneg (h : openPosition b o = .ok b') (hb : AccountsNonneg b)
    (hcharges : ∀ a ∈ b.accounts.get o.account, ∀ charges ∈ (o.charges a.balance.value).toOption,
      0 ≤ cents charges.balance) : AccountsNonneg b' ∧ b'.ledger = b.ledger := by
  simp only [openPosition, bind_eq_ok, require_eq_ok, mapError_eq_ok] at h
  obtain ⟨account, hacc, charges, hc, s₁, h₁, s₂, h₂, h⟩ := h
  obtain ⟨ha₁, hl₁⟩ := chargeEntry_frame h₁
  obtain ⟨ha₂, hl₂⟩ := chargeEntry_frame h₂
  have hleft := hcharges account hacc charges (by rw [hc]; rfl)
  have haccounts : s₂.accounts = b.accounts := ha₂.trans ha₁
  split at h
  · simp only [bind_eq_ok, Owner.column, require_eq_ok, pure_eq_ok] at h
    obtain ⟨balance, hbalance, rfl⟩ := h
    refine ⟨fun k a ha => ?_, hl₂.trans hl₁⟩
    obtain ⟨a₀, ha₀, rfl⟩ := Table.get_update_some ha
    split
    · rw [store_cents] at hbalance
      rw [hbalance] at hleft
      exact hleft
    · exact hb k a₀ (haccounts ▸ ha₀)
  · rw [pure_eq_ok] at h
    subst h
    exact ⟨fun k a ha => hb k a (haccounts ▸ ha), hl₂.trans hl₁⟩

end Others

section Steps

variable {gate : Gate} {s s' : State} {a : Action} {i : ℕ} {reference : String} {c : Call} {r : Request}

lemma Sound.unchanged (h : Sound s) (hu : Unchanged s s') : Sound s' := by
  obtain ⟨hb, hm, ho⟩ := hu
  constructor
  · exact hm ▸ h.manualKeys
  · exact ho ▸ h.ownerKeys
  · exact hm ▸ h.manualExact
  · exact ho ▸ h.ownerExact
  · exact hb ▸ h.accounts
  · exact hb ▸ h.wallets

lemma keys_insert {α : Type} {t : Table α} {key : α → String} {x : α}
    (h : ∀ i j a b, t.get i = some a → t.get j = some b → key a = key b → i = j)
    (hfresh : ∀ i b, t.get i = some b → key b ≠ key x) :
    ∀ i j a b, (t.insert x).get i = some a → (t.insert x).get j = some b → key a = key b → i = j := by
  intro i j a b ha hb heq
  rcases Table.get_insert_some ha with hold | ⟨rfl, rfl⟩
  · rcases Table.get_insert_some hb with hold' | ⟨rfl, rfl⟩
    · exact h i j a b hold hold' heq
    · exact (hfresh i a hold heq).elim
  · rcases Table.get_insert_some hb with hold' | ⟨rfl, rfl⟩
    · exact (hfresh j b hold' heq.symm).elim
    · rfl

lemma Sound.adjusted (h : Sound s) (ha : Adjusted r s s')
    (hnew : ∀ a, s'.books.accounts.get r.target = some a → 0 ≤ a.balance.units) : Sound s' := by
  obtain ⟨-, hfresh, ⟨a, account, entry, hm, hkey, -, -, -, hexact, -⟩, hothers, ho, hl⟩ := ha
  constructor
  · rw [hm]
    exact keys_insert h.manualKeys (hkey ▸ hfresh)
  · exact ho ▸ h.ownerKeys
  · intro i b hb
    rw [hm] at hb
    rcases Table.get_insert_some hb with hold | ⟨-, rfl⟩
    · exact h.manualExact i b hold
    · exact hexact
  · exact ho ▸ h.ownerExact
  · intro k b hb
    by_cases hk : k = r.target
    · exact hnew b (hk ▸ hb)
    · exact h.accounts k b (hothers k hk ▸ hb)
  · exact hl ▸ h.wallets

lemma Sound.walletAdjusted (h : Sound s) (ha : WalletAdjusted r s s')
    (hnew : ∀ w, s'.books.ledger.wallets.get r.target = some w → 0 ≤ w.availableBalance.units) : Sound s' := by
  obtain ⟨hfresh, ⟨a, wallet, row, ho, hkey, -, -, -, hexact, -⟩, hothers, hm, hacc, -⟩ := ha
  constructor
  · exact hm ▸ h.manualKeys
  · rw [ho]
    exact keys_insert h.ownerKeys (hkey ▸ hfresh)
  · exact hm ▸ h.manualExact
  · intro i b hb
    rw [ho] at hb
    rcases Table.get_insert_some hb with hold | ⟨-, rfl⟩
    · exact h.ownerExact i b hold
    · exact hexact
  · exact hacc ▸ h.accounts
  · intro k w hw
    by_cases hk : k = r.target
    · exact hnew w (hk ▸ hw)
    · exact h.wallets k w (hothers k hk ▸ hw)

lemma lookup_unchanged (gate : Gate) (s : State) (c : Call) :
    Unchanged s (commit s ((lookup gate s c).map Prod.fst)) := by
  refine commit_rule s _ ⟨rfl, rfl, rfl⟩ fun s' h => ?_
  obtain ⟨p, hp, rfl⟩ := map_eq_ok.mp h
  simp only [lookup, bind_eq_ok] at hp
  obtain ⟨_, -, hp⟩ := hp
  split at hp
  · cases hp
    exact ⟨rfl, rfl, rfl⟩
  · cases hp
    exact ⟨rfl, rfl, rfl⟩

lemma transact_effect (h : Sound s) (hc : s.calls[i]? = some c) (hm : Meets s (.transact i reference)) :
    Sound (step gate s (.transact i reference)) ∧
      Effect s (step gate s (.transact i reference)) (.transact i reference) := by
  simp only [step, Effect, Meets, hc] at hm ⊢
  cases ht : transact s reference c with
  | error e => exact ⟨h.unchanged ⟨rfl, rfl, rfl⟩, rfl, rfl, rfl⟩
  | ok s₁ =>
    cases c with
    | trading r =>
      obtain ⟨hadjusted, hnew⟩ := trading_adjusted ht hm
      have hsame : Adjusted r s { s₁ with calls := s.calls.eraseIdx i } :=
        ⟨hadjusted.closed, hadjusted.fresh, hadjusted.recorded, hadjusted.others, hadjusted.rest⟩
      exact ⟨h.adjusted hsame hnew, hsame⟩
    | wallet r =>
      obtain ⟨hadjusted, hnew⟩ := wallet_adjusted ht (fun w hw => h.wallets _ w hw) hm
      have hsame : WalletAdjusted r s { s₁ with calls := s.calls.eraseIdx i } :=
        ⟨hadjusted.fresh, hadjusted.recorded, hadjusted.others, hadjusted.rest⟩
      exact ⟨h.walletAdjusted hsame hnew, hsame⟩

lemma Sound.books (h : Sound s) {b : Books String} (ha : AccountsNonneg b) (hw : WalletsNonneg b.ledger) :
    Sound { s with books := b } :=
  ⟨h.manualKeys, h.ownerKeys, h.manualExact, h.ownerExact, ha, hw⟩

lemma step_effect (h : Sound s) (hm : Meets s a) : Sound (step gate s a) ∧ Effect s (step gate s a) a := by
  cases a with
  | lookup c => exact ⟨h.unchanged (lookup_unchanged gate s c), lookup_unchanged gate s c⟩
  | transact i reference =>
    cases hc : s.calls[i]? with
    | none =>
      have hstep : step gate s (.transact i reference) = s := by simp only [step, hc]
      rw [hstep]
      refine ⟨h, ?_⟩
      simp only [Effect, hc]
      exact ⟨rfl, rfl, rfl⟩
    | some c => exact transact_effect h hc hm
  | transferToAccount q =>
    refine ⟨h.books (transferToAccount_nonneg h.accounts) ?_, rfl, rfl⟩
    rcases Wallets.Transfers.transferToAccount_ledger s.books q with hl | ⟨refs, r, hr, hl⟩
    · rw [hl]
      exact h.wallets
    · rw [hl]
      exact debit_wallets_nonneg hr h.wallets
  | transferToWallet q =>
    refine ⟨h.books (transferToWallet_nonneg h.accounts) ?_, rfl, rfl⟩
    rcases Wallets.Transfers.transferToWallet_ledger s.books q with hl | ⟨refs, r, hr, hl⟩
    · rw [hl]
      exact h.wallets
    · rw [hl]
      exact credit_nonneg hr h.wallets
  | openPosition o =>
    refine ⟨?_, rfl, rfl⟩
    rw [step]
    cases ho : openPosition s.books o with
    | error e => exact h
    | ok b =>
      obtain ⟨ha, hl⟩ := openPosition_nonneg ho h.accounts hm
      have hwallets : WalletsNonneg b.ledger := hl ▸ h.wallets
      exact h.books ha hwallets

end Steps

section Runs

variable {gate : Gate}

/-- Every state of a run is sound and every step has its effect, where the steps meet the condition. -/
theorem adjustments_sound (gate : Gate) (s : State) (h : Sound s) (acts : List Action)
    (hmeets : Guarded (step gate) Meets s acts) : Sound (run (step gate) s acts) ∧
      ∀ before a after, acts = before ++ a :: after →
        Effect (run (step gate) s before) (run (step gate) s (before ++ [a])) a := by
  have hinv : ∀ s a, Sound s → Meets s a → Sound (step gate s a) := fun s a hs hm => (step_effect hs hm).1
  refine ⟨guarded_invariant hinv h hmeets, ?_⟩
  rintro before a after rfl
  rw [guarded_append, guarded_cons] at hmeets
  obtain ⟨hbefore, ha, -⟩ := hmeets
  rw [run_append, run_cons, run_nil]
  exact (step_effect (guarded_invariant hinv h hbefore) ha).2

def desk : Gate := ⟨fun actor => actor = 1, fun _ code => code = "000000"⟩

def ten : Balance := .ofUnits 1000

def deskState : State where
  books :=
    { ledger := ⟨Table.ofList [{ user := 7, currency := "USD", availableBalance := .ofUnits 1000, pendingBalance := default }],
        Table.empty⟩
      accounts := Table.ofList [⟨some 7, .standard, ten, ten, ten, none⟩]
      entries := Table.empty
      positions := Table.empty
      transfers := Table.empty }
  manual := Table.empty
  owner := Table.empty
  calls := []

lemma deskState_sound : Sound deskState := by
  constructor
  · simp [deskState]
  · simp [deskState]
  · simp [deskState]
  · simp [deskState]
  · intro k a ha
    have hmem := Table.mem_of_ofList ha
    simp only [List.mem_singleton] at hmem
    subst hmem
    decide
  · intro k w hw
    have hmem := Table.mem_of_ofList hw
    simp only [List.mem_singleton] at hmem
    subst hmem
    decide

def correction (amount : ℚ) (key : String) : Request := ⟨0, amount, 1, "correction", "000000", key⟩

/-- Two calls look the same key up before either has it. -/
def racing : List Action :=
  [.lookup (.trading (correction (-3 / 2) "k")), .lookup (.trading (correction (-3 / 2) "k")),
   .lookup (.wallet (correction (1 / 300) "k")), .transact 0 "OWN-TA-1", .transact 0 "OWN-TA-2", .transact 0 "OWN-WA-1",
   .openPosition ⟨0, false, true, 7 / 1000, 1 / 1000⟩, .lookup (.trading (correction 1 "late")), .transact 0 "OWN-TA-3"]

instance (s : State) (a : Action) : Decidable (Meets s a) := by
  unfold Meets
  split
  · split <;> infer_instance
  · infer_instance
  · infer_instance

theorem adjustments_sound_racing : Sound (run (step desk) deskState racing) ∧
    ∀ before a after, racing = before ++ a :: after →
      Effect (run (step desk) deskState before) (run (step desk) deskState (before ++ [a])) a :=
  adjustments_sound desk deskState deskState_sound racing (by decide +kernel)

/-- Ten dollars less half a cent are stored as ten dollars, and the adjustment as one cent. -/
theorem half_cent_adjustment :
    let s := run (step desk) deskState [.lookup (.trading (correction (-5 / 1000) "k")), .transact 0 "OWN-TA-1"]
    (s.manual.get 0).map (fun a => (a.balanceBefore.units, a.amount.units, a.balanceAfter.units)) =
      some (1000, -1, 1000) := by
  decide +kernel

/-- A commission of twelve dollars takes an account of ten dollars below zero. -/
example : ((run (step desk) deskState [.openPosition ⟨0, false, true, 12, 0⟩]).books.accounts.get 0).map
    (fun a => a.balance.units) = some (-200) := by
  decide +kernel

end Runs

end TrxSimulator.Adjustments.OwnerRuns
