import TrxSimulator.Foundations.Runs
import TrxSimulator.Wallets.Transfers

/-! Reconciliation of stored balances with stored rows. Balance and row are rounded to cents apart, so
the two agree after a call exactly when the rounded sum or remainder did not land on a half cent from
below. -/

namespace TrxSimulator.Wallets.Drift

open Foundations.Runs Foundations.Tables Foundations.Outcomes Foundations.Decimals Money Ledger Transfers

/-- The decimal context rounds the value up to a half cent. -/
def Lifted (x : ℚ) : Prop := Tie (context precision x * 10 ^ 2) ∧ x < context precision x

/-- The decimal context keeps the value on a half cent, or rounds it up to one. -/
def Landed (x : ℚ) : Prop := Tie (context precision x * 10 ^ 2) ∧ x ≤ context precision x

instance (x : ℚ) : Decidable (Lifted x) := inferInstanceAs (Decidable (_ ∧ _))

instance (x : ℚ) : Decidable (Landed x) := inferInstanceAs (Decidable (_ ∧ _))

section Rounding

variable {x : ℚ}

lemma faithful_context (h : |x| < 10 ^ 25) : Faithful (x * 10 ^ 2) (context precision x * 10 ^ 2) := by
  intro n
  have hx : |x| < 10 ^ ((precision : ℤ) - (3 : ℕ)) := by
    rw [precision]
    norm_num
    norm_num at h
    exact h
  have hhalf : ((10 * n + 5 : ℤ) : ℚ) / 10 ^ 3 * 10 ^ 2 = n + 1 / 2 := by
    push_cast
    ring
  refine ⟨fun hle => ?_, fun hle => ?_⟩
  · rw [← hhalf] at hle ⊢
    exact mul_le_mul_of_nonneg_right (context_le hx (le_of_mul_le_mul_right hle (by norm_num)))
      (by norm_num)
  · rw [← hhalf] at hle ⊢
    exact mul_le_mul_of_nonneg_right (le_context hx (le_of_mul_le_mul_right hle (by norm_num)))
      (by norm_num)

lemma lifted_iff : Lifted x ↔ Tie (context precision x * 10 ^ 2) ∧
    x * 10 ^ 2 < context precision x * 10 ^ 2 := by
  rw [Lifted, mul_lt_mul_iff_of_pos_right (by norm_num)]

lemma landed_iff : Landed x ↔ Tie (context precision x * 10 ^ 2) ∧
    x * 10 ^ 2 ≤ context precision x * 10 ^ 2 := by
  rw [Landed, mul_le_mul_iff_of_pos_right (by norm_num)]

lemma roundHalfAway_context (h0 : 0 ≤ x) (h : |x| < 10 ^ 25) :
    roundHalfAway (context precision x * 10 ^ 2) =
      ⌊x * 10 ^ 2 + 1 / 2⌋ + if Lifted x then 1 else 0 := by
  rw [roundHalfAway_of_nonneg (mul_nonneg (context_nonneg h0) (by norm_num)),
    floor_add_half (faithful_context h)]
  simp only [lifted_iff]

lemma roundHalfAway_context_ceil (h0 : 0 ≤ x) (h : |x| < 10 ^ 25) :
    roundHalfAway (context precision x * 10 ^ 2) =
      ⌈x * 10 ^ 2 - 1 / 2⌉ + if Landed x then 1 else 0 := by
  rw [roundHalfAway_of_nonneg (mul_nonneg (context_nonneg h0) (by norm_num)),
    floor_add_half_eq_ceil (faithful_context h)]
  simp only [landed_iff]

lemma value_lt (b : Amount) : |b.value| < 10 ^ 16 := by
  have hb : |(b.units : ℚ)| < 10 ^ 18 := by exact_mod_cast b.fits
  rw [Numeric.value, scaled, abs_div, abs_of_pos (by norm_num : (0 : ℚ) < 10 ^ 2), div_lt_iff₀ (by norm_num)]
  norm_num at hb ⊢
  exact hb

lemma value_mul (b : Amount) : b.value * 10 ^ 2 = b.units := scaled_mul _ _

lemma store_amount {a : ℚ} {row : Amount} (h0 : 0 < a) (h : store 18 2 a = some row) :
    row.units = ⌊a * 10 ^ 2 + 1 / 2⌋ ∧ a < 10 ^ 24 := by
  rw [store_eq_some, roundHalfAway_of_nonneg (by positivity)] at h
  refine ⟨h.symm, ?_⟩
  have hrow : (row.units : ℚ) < 10 ^ 18 := by exact_mod_cast (abs_lt.mp row.fits).2
  have hfloor := Int.lt_floor_add_one (a * 10 ^ 2 + 1 / 2)
  rw [h] at hfloor
  norm_num at hrow ⊢
  linarith

end Rounding

section Drift

variable {b row balance : Amount} {a : ℚ}

/-- A credit moves the balance by its row, and by one more cent when the sum was lifted. -/
lemma credit_drift (hb : 0 ≤ b.units) (h0 : 0 < a) (hbal : store 18 2 (plus b.value a) = some balance)
    (hrow : store 18 2 a = some row) :
    balance.units = b.units + row.units + if Lifted (b.value + a) then 1 else 0 := by
  obtain ⟨hr, hlt⟩ := store_amount h0 hrow
  have hv : 0 ≤ b.value := by
    have := value_mul b
    have hb' : (0 : ℚ) ≤ b.units := by exact_mod_cast hb
    linarith
  have hb16 := abs_lt.mp (value_lt b)
  have habs : |b.value + a| < 10 ^ 25 := by
    rw [abs_of_nonneg (by linarith)]
    norm_num at hlt hb16 ⊢
    linarith
  rw [store_eq_some, plus, roundHalfAway_context (by linarith) habs, add_mul, value_mul, add_assoc,
    Int.floor_intCast_add, ← hr] at hbal
  exact hbal.symm

/-- A debit moves the balance by its row, and by one more cent for each of the two roundings that
landed on a half cent. -/
lemma debit_drift (h0 : 0 < a) (hle : a ≤ b.value)
    (hbal : store 18 2 (minus b.value a) = some balance) (hrow : store 18 2 (negate a) = some row) :
    balance.units = b.units + row.units + (if Landed (b.value - a) then 1 else 0) +
      if Lifted a then 1 else 0 := by
  have hb16 := abs_lt.mp (value_lt b)
  have habs : |b.value - a| < 10 ^ 25 := by
    rw [abs_of_nonneg (by linarith)]
    norm_num at hb16 ⊢
    linarith
  have habs' : |a| < 10 ^ 25 := by
    rw [abs_of_pos h0]
    norm_num at hb16 ⊢
    linarith
  have hremainder : (b.value - a) * 10 ^ 2 - 1 / 2 = b.units - (a * 10 ^ 2 + 1 / 2) := by
    rw [sub_mul, value_mul]
    ring
  have hceil : ⌈(b.units : ℚ) - (a * 10 ^ 2 + 1 / 2)⌉ = b.units - ⌊a * 10 ^ 2 + 1 / 2⌋ := by
    rw [sub_eq_add_neg, add_comm, Int.ceil_add_intCast, Int.ceil_neg]
    ring
  rw [store_eq_some, minus, roundHalfAway_context_ceil (by linarith) habs, hremainder, hceil] at hbal
  rw [store_eq_some, negate, context_neg, neg_mul, roundHalfAway_neg,
    roundHalfAway_context h0.le habs'] at hrow
  omega

lemma debit_nonneg (hle : a ≤ b.value) (hbal : store 18 2 (minus b.value a) = some balance) :
    0 ≤ balance.units := by
  have hmul : 0 ≤ context precision (b.value - a) * 10 ^ 2 :=
    mul_nonneg (context_nonneg (by linarith)) (by norm_num)
  rw [store_eq_some, minus, roundHalfAway_of_nonneg hmul] at hbal
  rw [← hbal]
  exact Int.floor_nonneg.mpr (by linarith)

end Drift

section Runs

variable {ν : Type}

inductive Call (ν : Type)
  | credit (walletId : ℕ) (amount : ℚ) (txType : TxType) (refs : References ν)
  | debit (walletId : ℕ) (amount : ℚ) (txType : TxType) (refs : References ν)
  | transferToAccount (q : Request ν)
  | transferToWallet (q : Request ν)

def call (s : Books ν) : Call ν → Books ν
  | .credit w a t refs => commit s ((creditWallet s.ledger w a t refs).map fun r => { s with ledger := r.1 })
  | .debit w a t refs => commit s ((debitWallet s.ledger w a t refs).map fun r => { s with ledger := r.1 })
  | .transferToAccount q => (transferToAccount s q).1
  | .transferToWallet q => (transferToWallet s q).1

def CreditExact (l : WalletLedger ν) (w : ℕ) (a : ℚ) : Prop :=
  ∀ v ∈ l.wallets.get w, 0 < a → ¬ Lifted (v.availableBalance.value + a)

def DebitExact (l : WalletLedger ν) (w : ℕ) (a : ℚ) : Prop :=
  ∀ v ∈ l.wallets.get w, 0 < a → a ≤ v.availableBalance.value →
    ¬ Landed (v.availableBalance.value - a) ∧ ¬ Lifted a

def Exact (s : Books ν) : Call ν → Prop
  | .credit w a _ _ => CreditExact s.ledger w a
  | .debit w a _ _ => DebitExact s.ledger w a
  | .transferToAccount q => DebitExact s.ledger q.walletId q.amount
  | .transferToWallet q => CreditExact s.ledger q.walletId q.amount

instance (l : WalletLedger ν) (w : ℕ) (a : ℚ) : Decidable (CreditExact l w a) :=
  inferInstanceAs (Decidable (∀ _ ∈ _, _))

instance (l : WalletLedger ν) (w : ℕ) (a : ℚ) : Decidable (DebitExact l w a) :=
  inferInstanceAs (Decidable (∀ _ ∈ _, _))

instance decidableExact (s : Books ν) : ∀ c : Call ν, Decidable (Exact s c)
  | .credit w a _ _ => inferInstanceAs (Decidable (CreditExact s.ledger w a))
  | .debit w a _ _ => inferInstanceAs (Decidable (DebitExact s.ledger w a))
  | .transferToAccount q => inferInstanceAs (Decidable (DebitExact s.ledger q.walletId q.amount))
  | .transferToWallet q => inferInstanceAs (Decidable (CreditExact s.ledger q.walletId q.amount))

structure Reconciled (l : WalletLedger ν) (w : ℕ) (v : Wallet) : Prop where
  sum : v.availableBalance.units = l.ledgerSum w
  last : ∀ i row, l.transactions.latest (fun r => r.wallet = w) = some (i, row) →
    row.balanceAfter = v.availableBalance
  nonneg : 0 ≤ v.availableBalance.units

def AllReconciled (l : WalletLedger ν) : Prop := ∀ w v, l.wallets.get w = some v → Reconciled l w v

lemma reconcileWallet_ok {l : WalletLedger ν} {w : ℕ} {v : Wallet} (hv : l.wallets.get w = some v)
    (h : Reconciled l w v) :
    reconcileWallet l w = .ok
      { walletId := w, stored := v.availableBalance.units, computed := v.availableBalance.units,
        drift := 0, ok := true } := by
  simp only [reconcileWallet, WalletLedger.wallet, hv, require, bind, Except.bind, pure, Except.pure,
    ← h.sum, sub_self, decide_true]

lemma allReconciled_post {l : WalletLedger ν} {w : ℕ} {v : Wallet} {t : TxType} {row balance : Amount}
    {refs : References ν} (h : AllReconciled l) (hv : l.wallets.get w = some v)
    (hmove : balance.units = v.availableBalance.units + row.units) (hnonneg : 0 ≤ balance.units) :
    AllReconciled (l.post w t row balance refs) := by
  intro u v' hu
  by_cases huw : u = w
  · subst huw
    rw [post_wallets_self _ _ _ _ _ _ hv, Option.some.injEq] at hu
    subst hu
    refine ⟨?_, ?_, hnonneg⟩
    · rw [ledgerSum_post, if_pos rfl, hmove, (h u v hv).sum]
    · intro i r hr
      simp only [WalletLedger.post, Table.latest_insert, decide_true, if_true, Option.some.injEq,
        Prod.mk.injEq] at hr
      rw [← hr.2]
  · rw [post_wallets_ne _ _ _ _ _ _ huw] at hu
    obtain ⟨hsum, hlast, h0⟩ := h u v' hu
    refine ⟨?_, ?_, h0⟩
    · rw [ledgerSum_post, if_neg (Ne.symm huw), add_zero, hsum]
    · intro i r hr
      simp only [WalletLedger.post, Table.latest_insert, decide_eq_true_eq, if_neg (Ne.symm huw)] at hr
      exact hlast i r hr

lemma allReconciled_credit {l : WalletLedger ν} {w : ℕ} {a : ℚ} {t : TxType} {refs : References ν}
    {r : WalletLedger ν × ℕ} (h : AllReconciled l) (hexact : CreditExact l w a)
    (hr : creditWallet l w a t refs = .ok r) : AllReconciled r.1 := by
  obtain ⟨v, balance, row, h0, hv, hbal, hrow, rfl⟩ := creditWallet_eq_ok.mp hr
  have hdrift := credit_drift (h w v hv).nonneg h0 hbal hrow
  rw [if_neg (hexact v hv h0), add_zero] at hdrift
  have hrow0 : 0 ≤ row.units := by
    rw [(store_amount h0 hrow).1]
    exact Int.floor_nonneg.mpr (by positivity)
  exact allReconciled_post h hv hdrift (by have := (h w v hv).nonneg; omega)

lemma allReconciled_debit {l : WalletLedger ν} {w : ℕ} {a : ℚ} {t : TxType} {refs : References ν}
    {r : WalletLedger ν × ℕ} (h : AllReconciled l) (hexact : DebitExact l w a)
    (hr : debitWallet l w a t refs = .ok r) : AllReconciled r.1 := by
  obtain ⟨v, balance, row, h0, hv, hle, hbal, hrow, rfl⟩ := debitWallet_eq_ok.mp hr
  obtain ⟨hlanded, hlifted⟩ := hexact v hv h0 hle
  have hdrift := debit_drift h0 hle hbal hrow
  rw [if_neg hlanded, if_neg hlifted, add_zero, add_zero] at hdrift
  exact allReconciled_post h hv hdrift (debit_nonneg hle hbal)

lemma allReconciled_call (s : Books ν) (c : Call ν) (h : AllReconciled s.ledger) (hexact : Exact s c) :
    AllReconciled (call s c).ledger := by
  cases c with
  | credit w a t refs =>
    simp only [call]
    cases hr : creditWallet s.ledger w a t refs with
    | error e => exact h
    | ok r => exact allReconciled_credit h hexact hr
  | debit w a t refs =>
    simp only [call]
    cases hr : debitWallet s.ledger w a t refs with
    | error e => exact h
    | ok r => exact allReconciled_debit h hexact hr
  | transferToAccount q =>
    simp only [call]
    rcases transferToAccount_ledger s q with hl | ⟨refs, r, hr, hl⟩
    · rwa [hl]
    · rw [hl]
      exact allReconciled_debit h hexact hr
  | transferToWallet q =>
    simp only [call]
    rcases transferToWallet_ledger s q with hl | ⟨refs, r, hr, hl⟩
    · rwa [hl]
    · rw [hl]
      exact allReconciled_credit h hexact hr

theorem exact_run_reconciled (s : Books ν) (h : AllReconciled s.ledger) (calls : List (Call ν))
    (hexact : Guarded call Exact s calls) : AllReconciled (run call s calls).ledger :=
  guarded_invariant (I := fun s => AllReconciled s.ledger) allReconciled_call h hexact

def newBooks : Books String where
  ledger := { wallets := Table.empty.insert (newWallet 0), transactions := Table.empty }
  accounts := Table.empty
  entries := Table.empty
  positions := Table.empty
  transfers := Table.empty

lemma newBooks_reconciled : AllReconciled newBooks.ledger := by
  intro w v hv
  rcases Table.get_insert_some hv with h | ⟨rfl, rfl⟩
  · simp at h
  · exact ⟨rfl, fun i row h => by simp [newBooks, Table.latest, Table.rows] at h, le_rfl⟩

theorem exact_run_reconciled_example :
    AllReconciled (run call newBooks
      [.credit 0 1 .deposit {}, .debit 0 (1 / 4) .withdraw {}, .credit 0 (1 / 1000) .bonus {}]).ledger :=
  exact_run_reconciled newBooks newBooks_reconciled _ (by decide +kernel)

/-- A dollar less half a cent is a dollar again, but the row of the debit is a whole cent. -/
theorem half_cent_debit_drifts :
    ∃ v, (run call newBooks [.credit 0 1 .deposit {}, .debit 0 (5 / 1000) .withdraw {}]).ledger.wallets.get 0 =
        some v ∧ v.availableBalance.units = 100 ∧
      (run call newBooks [.credit 0 1 .deposit {}, .debit 0 (5 / 1000) .withdraw {}]).ledger.ledgerSum 0 = 99 := by
  decide +kernel

end Runs

end TrxSimulator.Wallets.Drift
