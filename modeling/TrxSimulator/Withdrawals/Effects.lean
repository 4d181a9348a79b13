import TrxSimulator.Withdrawals.Otp

/-! What one request may do to the challenges, the withdrawals and the wallet ledger. -/

namespace TrxSimulator.Withdrawals.Effects

open Foundations.Tables Foundations.Outcomes Foundations.Decimals Foundations.Runs Money Accounts Wallets.Ledger
open Payouts.Records (WithdrawalStatus)
open Otp

def wrongCode (cfg : Settings) (s : Teller) (action : Action) (challenge : ℕ) : Bool :=
  match action with
  | .verify call code now =>
    (s.call call).any fun c => c.stage = .opened ∧ c.seen.status = .pending ∧ c.challenge = challenge ∧
      ∃ row ∈ s.challenges.get challenge, row.user = c.seen.user ∧ checks now row = true ∧
        hashCode cfg code challenge row.user row.purpose ≠ row.codeHash
  | _ => false

section Challenges

structure Evolves (wrong : Bool) (c c' : Challenge) : Prop where
  payload : c'.toPayload = c.toPayload
  maxAttempts : c'.maxAttempts = c.maxAttempts
  attempts : c'.attempts = c.attempts + if wrong then 1 else 0
  within : wrong = true → c.attempts < c.maxAttempts
  status : c'.status = c.status ∨ c.status = .pending ∨ (c.status = .verified ∧ c'.status = .used)

lemma Evolves.refl (c : Challenge) : Evolves false c c := ⟨rfl, rfl, rfl, nofun, Or.inl rfl⟩

lemma evolves_expire {c : Challenge} (h : c.status = .pending) : Evolves false c (expire c) :=
  ⟨rfl, rfl, rfl, nofun, Or.inr (Or.inl h)⟩

lemma Evolves.nonTerminal {wrong : Bool} {c c' : Challenge} (h : Evolves wrong c c')
    (hc : c'.status.nonTerminal = true) : c.status.nonTerminal = true := by
  rcases h.status with heq | hpending | ⟨hverified, -⟩
  · rwa [← heq]
  · rw [hpending]
    rfl
  · rw [hverified]
    rfl

lemma stale_iff {now : ℤ} {c : Challenge} : stale now c = true ↔ c.status = .pending ∧ c.expiresAt ≤ now := by
  rw [stale, decide_eq_true_iff]

variable {cfg : Settings} {challenge : ℕ} {code : String} {now : ℤ} {c : Challenge}

lemma checks_iff : checks now c = true ↔ c.status = .pending ∧ now < c.expiresAt ∧ c.attempts < c.maxAttempts := by
  rw [checks, decide_eq_true_iff]

lemma verifyRow_evolves (wrong : Bool)
    (hwrong : wrong = true ↔ checks now c = true ∧ hashCode cfg code challenge c.user c.purpose ≠ c.codeHash) :
    Evolves wrong c (verifyRow cfg challenge code now c) := by
  have hfalse : ¬ (checks now c = true ∧ hashCode cfg code challenge c.user c.purpose ≠ c.codeHash) →
      wrong = false := fun h => by
    rw [← Bool.not_eq_true]
    exact fun hw => h (hwrong.mp hw)
  rw [verifyRow]
  split
  · next hstatus =>
    rw [hfalse fun h => hstatus (checks_iff.mp h.1).1]
    exact Evolves.refl c
  · next hpending =>
    rw [not_not] at hpending
    split
    · next hexpired =>
      rw [hfalse fun h => absurd (checks_iff.mp h.1).2.1 (not_lt.mpr hexpired)]
      exact evolves_expire hpending
    · next hfresh =>
      split
      · next hspent =>
        rw [hfalse fun h => absurd (checks_iff.mp h.1).2.2 (not_lt.mpr hspent)]
        exact ⟨rfl, rfl, rfl, nofun, Or.inr (Or.inl hpending)⟩
      · next hleft =>
        have hchecks : checks now c = true := checks_iff.mpr ⟨hpending, not_le.mp hfresh, not_le.mp hleft⟩
        split
        · next hbad =>
          rw [hwrong.mpr ⟨hchecks, hbad⟩]
          exact ⟨rfl, rfl, rfl, fun _ => not_le.mp hleft, Or.inr (Or.inl hpending)⟩
        · next hgood =>
          rw [hfalse fun h => hgood h.2]
          exact ⟨rfl, rfl, rfl, nofun, Or.inr (Or.inl hpending)⟩

lemma verification_verified {row : Challenge} (h : verification cfg challenge code now c = .verified row) :
    row = verifyRow cfg challenge code now c ∧ row.status = .verified := by
  rw [verification] at h
  rw [verifyRow]
  split at h
  · cases h
  · next hpending =>
    split at h
    · cases h
    · next hfresh =>
      split at h
      · cases h
      · next hleft =>
        split at h
        · split at h <;> cases h
        · next hgood =>
          cases h
          rw [if_neg hpending, if_neg hfresh, if_neg hleft, if_neg hgood]
          exact ⟨rfl, rfl⟩

end Challenges

/-- A request knows the payload of its challenge, and a verification that it saw is not lost. -/
def CallOk (t : Table Challenge) (c : Call) : Prop :=
  ∃ row, t.get c.challenge = some row ∧ row.toPayload = c.seen.toPayload ∧
    (c.seen.status = .verified → row.status = .verified ∨ row.status = .used)

def CallsOk (s : Teller) : Prop := ∀ i c, s.call i = some c → CallOk s.challenges c

structure LedgerGrows (l l' : WalletLedger String) : Prop where
  rows : ∀ t row, l.transactions.get t = some row → l'.transactions.get t = some row
  wallets : ∀ i v, l.wallets.get i = some v → ∃ v', l'.wallets.get i = some v' ∧ v'.user = v.user

/-- Only a finalized withdrawal writes a row of type `withdraw`. -/
structure LedgerKept (l l' : WalletLedger String) : Prop extends LedgerGrows l l' where
  added : ∀ t row, l'.transactions.get t = some row → l.transactions.get t = some row ∨ row.txType ≠ .withdraw

section Kept

variable {s : Teller} {t u : Table Challenge} {w : ℕ → Bool} {l l' : WalletLedger String}

lemma CallOk.evolve {c : Call} (h : CallOk t c) (hrel : Table.Related (fun i => Evolves (w i)) t u) :
    CallOk u c := by
  obtain ⟨row, hrow, hpayload, hverified⟩ := h
  obtain ⟨row', hrow', hevolves⟩ := hrel.get hrow
  refine ⟨row', hrow', hevolves.payload.trans hpayload, fun hseen => ?_⟩
  rcases hevolves.status with heq | hpending | ⟨-, hused⟩
  · rw [heq]
    exact hverified hseen
  · rcases hverified hseen with h | h <;> rw [hpending] at h <;> cases h
  · exact Or.inr hused

lemma CallOk.insert {c : Call} (h : CallOk t c) (row : Challenge) : CallOk (t.insert row) c := by
  obtain ⟨row', hrow', hrest⟩ := h
  exact ⟨row', Table.get_insert_of_get hrow' row, hrest⟩

lemma CallsOk.set (h : CallsOk s) (call : ℕ) {o : Option Call} (ho : ∀ c ∈ o, CallOk s.challenges c) :
    CallsOk (s.setCall call o) := by
  intro i c hc
  obtain ⟨x, hx, rfl⟩ : ∃ x, (s.calls.update call fun _ => o).get i = some x ∧ x = some c := by
    rw [Teller.call, Option.join_eq_some_iff] at hc
    exact ⟨_, hc, rfl⟩
  obtain ⟨x', hx', heq⟩ := Table.get_update_some hx
  split at heq
  · exact ho c heq.symm
  · refine h i c ?_
    rw [Teller.call, hx', heq, Option.join_some]

lemma CallsOk.clear (h : CallsOk s) (call : ℕ) : CallsOk (s.setCall call none) :=
  h.set call fun _ hc => by cases hc

lemma LedgerGrows.trans {l'' : WalletLedger String} (h : LedgerGrows l l') (h' : LedgerGrows l' l'') :
    LedgerGrows l l'' where
  rows t row ht := h'.rows t row (h.rows t row ht)
  wallets i v hv := by
    obtain ⟨v', hv', huser⟩ := h.wallets i v hv
    obtain ⟨v'', hv'', huser'⟩ := h'.wallets i v' hv'
    exact ⟨v'', hv'', huser'.trans huser⟩

lemma LedgerKept.refl (l : WalletLedger String) : LedgerKept l l :=
  ⟨⟨fun _ _ => id, fun _ v hv => ⟨v, hv, rfl⟩⟩, fun _ _ => Or.inl⟩

lemma ledgerKept_getOrCreate (l : WalletLedger String) (u : ℕ) : LedgerKept l (getOrCreateWallet l u).1 := by
  rcases getOrCreateWallet_cases l u with ⟨_, _, -, -, h⟩ | ⟨-, h⟩
  · rw [h]
    exact LedgerKept.refl l
  · rw [h]
    exact ⟨⟨fun _ _ => id, fun i v hv => ⟨v, Table.get_insert_of_get hv _, rfl⟩⟩, fun _ _ => Or.inl⟩

lemma post_wallets {w : ℕ} {t : TxType} {amount balance : Amount} {refs : References String} {i : ℕ} {v : Wallet}
    (hv : l.wallets.get i = some v) :
    ∃ v', (l.post w t amount balance refs).wallets.get i = some v' ∧ v'.user = v.user := by
  by_cases hi : i = w
  · subst hi
    exact ⟨_, post_wallets_self _ _ _ _ _ _ hv, rfl⟩
  · exact ⟨v, (post_wallets_ne _ _ _ _ _ _ hi).trans hv, rfl⟩

lemma ledgerGrows_post (w : ℕ) (t : TxType) (amount balance : Amount) (refs : References String) :
    LedgerGrows l (l.post w t amount balance refs) where
  rows _ _ h := post_transactions_of_get _ _ _ _ _ _ h
  wallets _ _ hv := post_wallets hv

lemma ledgerKept_post {t : TxType} (ht : t ≠ .withdraw) (w : ℕ) (amount balance : Amount)
    (refs : References String) : LedgerKept l (l.post w t amount balance refs) where
  toLedgerGrows := ledgerGrows_post w t amount balance refs
  added i row h := by
    rcases Table.get_insert_some h with hold | ⟨-, rfl⟩
    · exact Or.inl hold
    · exact Or.inr ht

end Kept

structure Finalized (s s' : Teller) where
  challenge : ℕ
  seen : Challenge
  walletId : ℕ
  wallet : Wallet
  amount : Amount
  balance : Amount
  refs : References String
  withdrawal : Withdrawal
  verified : seen.status = .verified
  get : s.ledger.wallets.get walletId = some wallet
  amountUnits : amount.units = -withdrawal.amountUsd.units
  balanceUnits : balance.units = wallet.availableBalance.units - withdrawal.amountUsd.units
  final : finalAmount wallet seen = some withdrawal.amountUsd.value
  user : withdrawal.user = seen.user
  address : withdrawal.walletAddress = seen.walletAddress
  currency : currencyByAssetNetwork seen.asset seen.network = some withdrawal.cryptoCurrency
  debitTx : withdrawal.debitTx = some s.ledger.transactions.next
  otpChallenge : withdrawal.otpChallenge = some challenge
  unused : ∀ i w, s.withdrawals.get i = some w → w.otpChallenge ≠ some challenge
  ledger : s'.ledger = s.ledger.post walletId .withdraw amount balance refs
  withdrawals : s'.withdrawals = s.withdrawals.insert withdrawal
  challenges : s'.challenges = s.challenges.update challenge fun c => { c with status := .used }

structure Quiet (w : ℕ → Bool) (s s' : Teller) : Prop where
  challenges : Table.Related (fun i => Evolves (w i)) s.challenges s'.challenges
  withdrawals : Table.Related (fun _ v v' => v' = { v with status := v'.status }) s.withdrawals s'.withdrawals
  ledger : LedgerKept s.ledger s'.ledger

def requested : Action → Option Payload
  | .create payload _ _ => some payload
  | _ => none

inductive Effect (w : ℕ → Bool) (payload : Option Payload) (s s' : Teller) : Prop
  | quiet (h : Quiet w s s')
  | created (t : Table Challenge) (c : Challenge)
      (hchallenges : Table.Related (fun i => Evolves (w i)) s.challenges t)
      (hfree : ∀ i v, t.get i = some v → v.user = c.user → v.status.nonTerminal = false)
      (hpayload : payload = some c.toPayload) (hattempts : c.attempts = 0) (hinsert : s'.challenges = t.insert c)
      (hwithdrawals : s'.withdrawals = s.withdrawals) (hledger : LedgerKept s.ledger s'.ledger)
  | withdrawn (l : WalletLedger String) (hl : LedgerKept s.ledger l)
      (htransactions : l.transactions = s.ledger.transactions)
      (hquiet : ∀ i, w i = false) (f : Finalized { s with ledger := l } s') (howner : f.wallet.user = f.seen.user)
      (hpurpose : f.seen.purpose = .withdrawal) (hseen : CallOk s.challenges ⟨f.challenge, f.seen, .finalizing⟩)

section Services

variable {cfg : Settings} {s s' : Teller} {w : ℕ → Bool}

lemma Quiet.of_ledger (hchallenges : s'.challenges = s.challenges) (hwithdrawals : s'.withdrawals = s.withdrawals)
    (hledger : LedgerKept s.ledger s'.ledger) : Quiet (fun _ => false) s s' where
  challenges := hchallenges ▸ Table.related_refl fun _ c _ => Evolves.refl c
  withdrawals := hwithdrawals ▸ Table.related_refl fun _ _ _ => rfl
  ledger := hledger

lemma Quiet.of_eq (hchallenges : s'.challenges = s.challenges) (hwithdrawals : s'.withdrawals = s.withdrawals)
    (hledger : s'.ledger = s.ledger) : Quiet (fun _ => false) s s' :=
  .of_ledger hchallenges hwithdrawals (hledger ▸ LedgerKept.refl _)

lemma createChallenge_ok {payload : Payload} {code : String} {now : ℤ}
    (h : createChallenge cfg s payload code now = .ok s') :
    ∃ t c, Table.Related (fun _ => Evolves false) s.challenges t ∧
      (∀ i v, t.get i = some v → v.user = payload.user → v.status.nonTerminal = false) ∧
      c.toPayload = payload ∧ c.attempts = 0 ∧ c.maxAttempts = cfg.maxAttempts ∧
      s' = { s with challenges := t.insert c } := by
  rw [createChallenge, guard_eq_ok, Except.ok.injEq, Bool.not_eq_true] at h
  obtain ⟨hfree, rfl⟩ := h
  refine ⟨_, _, Table.related_updateWhere fun i c => ?_, fun i v hv huser => ?_, rfl, rfl, rfl, rfl⟩
  · split
    · next hstale =>
      exact evolves_expire (stale_iff.mp (of_decide_eq_true hstale).2).1
    · exact Evolves.refl c
  · have hbad := of_decide_eq_false (Table.exists?_false hfree hv)
    rw [← Bool.not_eq_true]
    exact fun hlive => hbad ⟨huser, hlive⟩

lemma finalAmount_scaled {wallet : Wallet} {seen : Challenge} {amount : ℚ}
    (h : finalAmount wallet seen = some amount) : ∃ n, amount = scaled 2 n := by
  rw [finalAmount] at h
  split at h
  · cases h
    exact ⟨_, rfl⟩
  · obtain ⟨frozen, -, rfl⟩ := Option.map_eq_some_iff.mp h
    exact ⟨_, rfl⟩

lemma columnOf_scaled {digits : ℕ} {name : String} {n : ℤ} {v : Numeric digits 2}
    (h : columnOf digits name (scaled 2 n) = .ok v) : v.units = n := by
  rw [columnOf, require_eq_ok, store_scaled] at h
  exact h.symm

lemma markChallengeUsed_eq_ok {challenge : ℕ} {seen : Challenge} :
    markChallengeUsed s challenge seen = .ok s' ↔ seen.status = .verified ∧
      s' = { s with challenges := s.challenges.update challenge fun c => { c with status := .used } } := by
  rw [markChallengeUsed, guard_eq_ok, not_not, Except.ok.injEq]
  exact and_congr_right fun _ => eq_comm

lemma finalizeWithdrawal_ok {walletId challenge : ℕ} {seen : Challenge}
    (h : finalizeWithdrawal s walletId challenge seen = .ok s') :
    (∃ f : Finalized s s', f.challenge = challenge ∧ f.seen = seen ∧ f.walletId = walletId) ∧ s'.calls = s.calls := by
  simp only [finalizeWithdrawal, WalletLedger.wallet, bind_eq_ok, mapError_eq_ok, require_eq_ok, guard_eq_ok,
    createWithdrawal, Except.ok.injEq, markChallengeUsed_eq_ok] at h
  obtain ⟨wallet, hwallet, -, amount, hamount, -, -, currency, hcurrency, ⟨l, row⟩, hdebit, amountUsd, husd, feeRate, -,
    feeAmount, -, netAmount, -, created, ⟨hunused, rfl⟩, hverified, rfl⟩ := h
  obtain ⟨n, rfl⟩ := finalAmount_scaled hamount
  obtain ⟨v, balance, debited, -, hv, -, hdebited, hbalance, heq⟩ := debitWallet_cents.mp hdebit
  rw [hwallet, Option.some.injEq] at hv
  subst hv
  obtain ⟨rfl, rfl⟩ := Prod.mk.inj heq
  have hn := columnOf_scaled husd
  refine ⟨⟨⟨challenge, seen, walletId, wallet, debited, balance, _, _, hverified, hwallet, ?_, ?_, ?_, rfl, rfl,
    hcurrency, rfl, rfl, ?_, rfl, rfl, rfl⟩, rfl, rfl, rfl⟩, rfl⟩
  · rw [hdebited, hn]
  · rw [hbalance, hn]
  · rw [hamount, Numeric.value, hn]
  · intro i w hw
    rw [Bool.not_eq_true] at hunused
    exact of_decide_eq_false (Table.exists?_false hunused hw)

lemma CallsOk.evolve (h : CallsOk s) (hcalls : s'.calls = s.calls)
    (hrel : Table.Related (fun i => Evolves (w i)) s.challenges s'.challenges) : CallsOk s' := fun i c hc =>
  (h i c (by rw [Teller.call, ← hcalls]; exact hc)).evolve hrel

lemma create_effect (h : CallsOk s) (payload : Payload) (code : String) (now : ℤ) :
    Effect (fun _ => false) (some payload) s (create cfg s payload code now) ∧
      CallsOk (create cfg s payload code now) := by
  have hledger := ledgerKept_getOrCreate s.ledger payload.user
  rw [create]
  refine commit_rule _ _ ?_ fun s' hok => ?_
  · exact ⟨.quiet (.of_ledger rfl rfl hledger), h⟩
  · obtain ⟨t, c, hrel, hfree, hpayload, hattempts, -, rfl⟩ := createChallenge_ok hok
    refine ⟨.created t c hrel (fun i v hv huser => hfree i v hv (huser.trans (congrArg _ hpayload)))
      (congrArg some hpayload.symm) hattempts rfl rfl
      hledger, fun i call hcall => ?_⟩
    exact ((h i call hcall).evolve (w := fun _ => false) hrel).insert c

lemma openChallenge_effect (h : CallsOk s) (user challenge : ℕ) (purpose : Purpose) :
    Effect (fun _ => false) none s (openChallenge s user challenge purpose) ∧
      CallsOk (openChallenge s user challenge purpose) := by
  rw [openChallenge]
  split
  · exact ⟨.quiet (.of_eq rfl rfl rfl), h⟩
  · next c hc =>
    split
    · refine ⟨.quiet (.of_eq rfl rfl rfl), fun i call hcall => ?_⟩
      rw [Teller.call, Option.join_eq_some_iff] at hcall
      rcases Table.get_insert_some hcall with hold | ⟨-, hnew⟩
      · exact h i call (Option.join_eq_some_iff.mpr hold)
      · cases hnew
        exact ⟨c, hc, rfl, Or.inl⟩
    · exact ⟨.quiet (.of_eq rfl rfl rfl), h⟩

lemma expireIfStale_effect (h : CallsOk s) (call : ℕ) (now : ℤ) :
    Quiet (fun _ => false) s (expireIfStale s call now) ∧ CallsOk (expireIfStale s call now) := by
  rw [expireIfStale]
  split
  · exact ⟨.of_eq rfl rfl rfl, h⟩
  · next c hc =>
    split
    · next hstale =>
      have hrel : Table.Related (fun _ => Evolves false) s.challenges (s.challenges.update c.challenge expire) := by
        refine Table.related_update (fun _ a _ => Evolves.refl a) fun a ha => evolves_expire ?_
        rw [ha, Option.any_some] at hstale
        exact (stale_iff.mp hstale).1
      refine ⟨⟨hrel, Table.related_refl fun _ _ _ => rfl, LedgerKept.refl _⟩, ?_⟩
      refine CallsOk.evolve (w := fun _ => false) (h.set call fun c' hc' => ?_) rfl hrel
      cases hc'
      obtain ⟨row, hrow, hpayload, -⟩ := h call c hc
      exact ⟨row, hrow, hpayload, nofun⟩
    · exact ⟨.of_eq rfl rfl rfl, h⟩

lemma resendChallenge_effect (h : CallsOk s) (call : ℕ) (now : ℤ) :
    Quiet (fun _ => false) s (resendChallenge cfg s call now) ∧ CallsOk (resendChallenge cfg s call now) := by
  obtain ⟨hquiet, hcalls⟩ := expireIfStale_effect h call now
  rw [resendChallenge]
  split
  · exact ⟨.of_eq rfl rfl rfl, h⟩
  · split
    · exact ⟨.of_eq rfl rfl rfl, h⟩
    · dsimp only
      split
      · exact ⟨hquiet, hcalls⟩
      · next c hc =>
        split
        · exact ⟨hquiet, hcalls⟩
        · refine ⟨⟨hquiet.challenges, hquiet.withdrawals, hquiet.ledger⟩, hcalls.set call fun c' hc' => ?_⟩
          cases hc'
          exact hcalls call c hc

lemma storeResend_effect (h : CallsOk s) (call : ℕ) (code : String) (now : ℤ) :
    Quiet (fun _ => false) s (storeResend cfg s call code now) ∧ CallsOk (storeResend cfg s call code now) := by
  rw [storeResend]
  split
  · exact ⟨.of_eq rfl rfl rfl, h⟩
  · next c hc =>
    split
    · exact ⟨.of_eq rfl rfl rfl, h⟩
    · have hrel : Table.Related (fun _ => Evolves false) s.challenges
          (s.challenges.update c.challenge fun row =>
            { row with
              codeHash := hashCode cfg code c.challenge c.seen.user c.seen.purpose
              expiresAt := now + cfg.expiry
              lastSentAt := now }) :=
        Table.related_update (fun _ a _ => Evolves.refl a) fun a _ => ⟨rfl, rfl, rfl, nofun, Or.inl rfl⟩
      exact ⟨⟨hrel, Table.related_refl fun _ _ _ => rfl, LedgerKept.refl _⟩,
        CallsOk.evolve (w := fun _ => false) (h.clear call) rfl hrel⟩

lemma wrongCode_verify (cfg : Settings) {call : ℕ} (code : String) (now : ℤ) {c : Call} (hcall : s.call call = some c)
    (hopened : c.stage = .opened) (hpending : c.seen.status = .pending) (i : ℕ) :
    wrongCode cfg s (.verify call code now) i = true ↔ c.challenge = i ∧ ∃ row, s.challenges.get i = some row ∧
      row.user = c.seen.user ∧ checks now row = true ∧ hashCode cfg code i row.user row.purpose ≠ row.codeHash := by
  rw [wrongCode, hcall, Option.any_some, decide_eq_true_iff]
  exact ⟨fun ⟨_, _, h⟩ => h, fun h => ⟨hopened, hpending, h⟩⟩

lemma wrongCode_eq_false {action : Action} (h : ∀ i, ¬ wrongCode cfg s action i = true) :
    wrongCode cfg s action = fun _ => false := funext fun i => Bool.eq_false_iff.mpr (h i)

lemma verify_challenges (cfg : Settings) {call : ℕ} (code : String) (now : ℤ) {c : Call} (hcall : s.call call = some c)
    (hopened : c.stage = .opened) (hpending : c.seen.status = .pending) :
    Table.Related (fun i => Evolves (wrongCode cfg s (.verify call code now) i)) s.challenges
      (verifyChallenge cfg s.challenges c.challenge c.seen.user code now).1 := by
  have hwrong := wrongCode_verify cfg code now hcall hopened hpending
  rw [verifyChallenge]
  split
  · next hnone =>
    rw [wrongCode_eq_false fun i hi => ?_]
    · exact Table.related_refl fun _ a _ => Evolves.refl a
    · obtain ⟨rfl, row, hrow, -⟩ := (hwrong i).mp hi
      rw [hnone] at hrow
      cases hrow
  · next row hrow =>
    split
    · next huser =>
      rw [wrongCode_eq_false fun i hi => ?_]
      · exact Table.related_refl fun _ a _ => Evolves.refl a
      · obtain ⟨rfl, row', hrow', hsame, -⟩ := (hwrong i).mp hi
        rw [hrow, Option.some.injEq] at hrow'
        exact huser (hrow' ▸ hsame)
    · next huser =>
      rw [not_not] at huser
      refine Table.related_update (fun i a hi => ?_) fun a ha => ?_
      · rw [Bool.eq_false_iff.mpr fun h => hi ((hwrong i).mp h).1.symm]
        exact Evolves.refl a
      · rw [hrow, Option.some.injEq] at ha
        subst ha
        refine verifyRow_evolves _ ((hwrong c.challenge).trans ⟨?_, fun h => ⟨rfl, row, hrow, huser, h⟩⟩)
        rintro ⟨-, row', hrow', -, h⟩
        rw [hrow, Option.some.injEq] at hrow'
        exact hrow' ▸ h

lemma verifyChallenge_verified {t : Table Challenge} {challenge user : ℕ} {code : String} {now : ℤ} {row : Challenge}
    (h : (verifyChallenge cfg t challenge user code now).2 = .verified row) :
    (verifyChallenge cfg t challenge user code now).1.get challenge = some row ∧ row.status = .verified := by
  rw [verifyChallenge] at h ⊢
  split at h
  · cases h
  · next c hc =>
    split at h
    · cases h
    · next huser =>
      obtain ⟨hrow, hstatus⟩ := verification_verified h
      rw [if_neg huser]
      exact ⟨hrow ▸ Table.get_update_self hc _, hstatus⟩

lemma verify_effect (h : CallsOk s) (call : ℕ) (code : String) (now : ℤ) :
    Quiet (wrongCode cfg s (.verify call code now)) s (verify cfg s call code now) ∧
      CallsOk (verify cfg s call code now) := by
  rw [verify]
  split
  · next hcall =>
    rw [wrongCode_eq_false fun i => by rw [wrongCode, hcall]; exact nofun]
    exact ⟨.of_eq rfl rfl rfl, h⟩
  · next c hcall =>
    split
    · next hclosed =>
      rw [wrongCode_eq_false fun i => ?_]
      · exact ⟨.of_eq rfl rfl rfl, h⟩
      · rw [wrongCode, hcall, Option.any_some, decide_eq_true_iff]
        exact fun hopen => hclosed.elim (fun hne => hne hopen.1) fun hne => hne hopen.2.1
    · next hopen =>
      rw [not_or, not_not, not_not] at hopen
      have hrel := verify_challenges cfg code now hcall hopen.1 hopen.2
      have hcalls : CallsOk { s with
          challenges := (verifyChallenge cfg s.challenges c.challenge c.seen.user code now).1 } := h.evolve rfl hrel
      refine ⟨⟨hrel, Table.related_refl fun _ _ _ => rfl, LedgerKept.refl _⟩, ?_⟩
      dsimp only
      split
      · next row hrow =>
        obtain ⟨hget, hstatus⟩ := verifyChallenge_verified hrow
        refine hcalls.set call fun c' hc' => ?_
        cases hc'
        exact ⟨row, hget, rfl, Or.inl⟩
      · exact hcalls.clear call

lemma used_evolves {c : Call} (h : CallOk s.challenges c) (hverified : c.seen.status = .verified) :
    Table.Related (fun _ => Evolves false) s.challenges
      (s.challenges.update c.challenge fun row => { row with status := .used }) := by
  obtain ⟨row, hrow, -, hstatus⟩ := h
  refine Table.related_update (fun _ a _ => Evolves.refl a) fun a ha => ⟨rfl, rfl, rfl, nofun, ?_⟩
  rw [hrow, Option.some.injEq] at ha
  subst ha
  rcases hstatus hverified with hv | hu
  · exact Or.inr (Or.inr ⟨hv, rfl⟩)
  · exact Or.inl hu.symm

lemma finalizeAddress_ok {challenge : ℕ} {seen : Challenge} {now : ℤ}
    (h : finalizeAddress cfg s challenge seen now = .ok s') :
    ∃ registry, seen.status = .verified ∧ s' = { s with
      registry := registry
      challenges := s.challenges.update challenge fun c => { c with status := .used } } := by
  simp only [finalizeAddress, bind_eq_ok, mapError_eq_ok, markChallengeUsed_eq_ok] at h
  obtain ⟨registry, -, hverified, rfl⟩ := h
  exact ⟨registry, hverified, rfl⟩

lemma finalizeWithdrawal_effect {t : Teller} {walletId : ℕ} {c : Call} (h : CallsOk t)
    (hchallenges : t.challenges = s.challenges) (hwithdrawals : t.withdrawals = s.withdrawals)
    (hledger : LedgerKept s.ledger t.ledger) (htransactions : t.ledger.transactions = s.ledger.transactions)
    (hrow : CallOk s.challenges c) (hpurpose : c.seen.purpose = .withdrawal)
    (howner : ∃ v, t.ledger.wallets.get walletId = some v ∧ v.user = c.seen.user) :
    Effect (fun _ => false) none s (commit t (finalizeWithdrawal t walletId c.challenge c.seen)) ∧
      CallsOk (commit t (finalizeWithdrawal t walletId c.challenge c.seen)) := by
  refine commit_rule _ _ ?_ fun s' hok => ?_
  · exact ⟨.quiet (.of_ledger hchallenges hwithdrawals hledger), h⟩
  · obtain ⟨⟨f, hchallenge, hseen, hwallet⟩, hsame⟩ := finalizeWithdrawal_ok hok
    have hrel := used_evolves (hchallenges ▸ hrow : CallOk t.challenges c) (hseen ▸ f.verified)
    rw [← hchallenge, ← f.challenges] at hrel
    have hseenRow : CallOk s.challenges ⟨f.challenge, f.seen, .finalizing⟩ := by
      rw [hchallenge, hseen]
      exact hrow
    obtain ⟨v, hv, huser⟩ := howner
    rw [← hwallet, f.get, Option.some.injEq] at hv
    refine ⟨.withdrawn t.ledger hledger htransactions (fun _ => rfl)
      { f with
        unused := hwithdrawals ▸ f.unused
        withdrawals := hwithdrawals ▸ f.withdrawals
        challenges := hchallenges ▸ f.challenges } (hv ▸ hseen ▸ huser) (hseen ▸ hpurpose) hseenRow,
      h.evolve (w := fun _ => false) hsame hrel⟩

lemma finalize_effect (h : CallsOk s) (call : ℕ) (now : ℤ) :
    Effect (fun _ => false) none s (finalize cfg s call now) ∧ CallsOk (finalize cfg s call now) := by
  rw [finalize]
  split
  · exact ⟨.quiet (.of_eq rfl rfl rfl), h⟩
  · next c hcall =>
    have hcalls := h.clear call
    split
    · exact ⟨.quiet (.of_eq rfl rfl rfl), h⟩
    · have hrow := h call c hcall
      dsimp only
      split
      · refine commit_rule _ _ ?_ fun s' hok => ?_
        · exact ⟨.quiet (.of_eq rfl rfl rfl), hcalls⟩
        · obtain ⟨registry, hverified, rfl⟩ := finalizeAddress_ok hok
          have hrel := used_evolves hrow hverified
          exact ⟨.quiet ⟨hrel, Table.related_refl fun _ _ _ => rfl, LedgerKept.refl _⟩,
            CallsOk.evolve (w := fun _ => false) hcalls rfl hrel⟩
      · next hpurpose =>
        exact finalizeWithdrawal_effect hcalls rfl rfl (ledgerKept_getOrCreate s.ledger c.seen.user)
          (getOrCreateWallet_transactions s.ledger c.seen.user) hrow hpurpose
          (getOrCreateWallet_get s.ledger c.seen.user)

lemma otherCredit_effect (h : CallsOk s) (walletId : ℕ) (amount : ℚ) (txType : TxType) :
    Quiet (fun _ => false) s (otherCredit s walletId amount txType) ∧
      CallsOk (otherCredit s walletId amount txType) := by
  rw [otherCredit]
  split
  · exact ⟨.of_eq rfl rfl rfl, h⟩
  · next htype =>
    refine commit_rule _ _ ?_ fun s' hok => ?_
    · exact ⟨.of_eq rfl rfl rfl, h⟩
    · obtain ⟨r, hr, rfl⟩ := map_eq_ok.mp hok
      obtain ⟨_, balance, row, -, -, -, -, rfl⟩ := creditWallet_eq_ok.mp hr
      exact ⟨.of_ledger rfl rfl (ledgerKept_post htype walletId row balance {}), h⟩

lemma otherDebit_effect (h : CallsOk s) (walletId : ℕ) (amount : ℚ) (txType : TxType) :
    Quiet (fun _ => false) s (otherDebit s walletId amount txType) ∧ CallsOk (otherDebit s walletId amount txType) := by
  rw [otherDebit]
  split
  · exact ⟨.of_eq rfl rfl rfl, h⟩
  · next htype =>
    refine commit_rule _ _ ?_ fun s' hok => ?_
    · exact ⟨.of_eq rfl rfl rfl, h⟩
    · obtain ⟨r, hr, rfl⟩ := map_eq_ok.mp hok
      obtain ⟨_, balance, row, -, -, -, -, -, rfl⟩ := debitWallet_eq_ok.mp hr
      exact ⟨.of_ledger rfl rfl (ledgerKept_post htype walletId row balance _), h⟩

lemma step_effect (cfg : Settings) (h : CallsOk s) (action : Action) :
    Effect (wrongCode cfg s action) (requested action) s (step cfg s action) ∧ CallsOk (step cfg s action) := by
  cases action with
  | create payload code now => exact create_effect h payload code now
  | openChallenge user challenge purpose => exact openChallenge_effect h user challenge purpose
  | expireIfStale call now => exact (expireIfStale_effect h call now).imp_left .quiet
  | resendChallenge call now => exact (resendChallenge_effect h call now).imp_left .quiet
  | storeResend call code now => exact (storeResend_effect h call code now).imp_left .quiet
  | verify call code now => exact (verify_effect h call code now).imp_left .quiet
  | finalize call now => exact finalize_effect h call now
  | review withdrawal status =>
    have hrel : Table.Related (fun _ v v' => v' = { v with status := v'.status }) s.withdrawals
        (s.withdrawals.update withdrawal fun w => { w with status := status }) :=
      Table.related_update (fun _ _ _ => rfl) fun _ _ => rfl
    exact ⟨.quiet ⟨Table.related_refl fun _ c _ => Evolves.refl c, hrel, LedgerKept.refl _⟩, h⟩
  | otherCredit walletId amount txType => exact (otherCredit_effect h walletId amount txType).imp_left .quiet
  | otherDebit walletId amount txType => exact (otherDebit_effect h walletId amount txType).imp_left .quiet
  | setFee feeConfig => exact ⟨.quiet (.of_eq rfl rfl rfl), h⟩
  | addresses action => exact ⟨.quiet (.of_eq rfl rfl rfl), h⟩

end Services

end TrxSimulator.Withdrawals.Effects
