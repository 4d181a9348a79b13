import TrxSimulator.Withdrawals.Effects

/-! What a challenge authorises: so many wrong codes, one withdrawal, and one debit, whatever the order of
the requests. -/

namespace TrxSimulator.Withdrawals.Authorized

open Foundations.Tables Foundations.Decimals Foundations.Runs Money Accounts Wallets.Ledger Otp Effects

def wrongCodes (cfg : Settings) (challenge : ℕ) : Teller → List Action → ℕ
  | _, [] => 0
  | s, action :: acts =>
    (if wrongCode cfg s action challenge then 1 else 0) + wrongCodes cfg challenge (step cfg s action) acts

/-- What a withdrawal takes from the wallet, and where it sends it, its challenge has frozen. -/
structure Authorizes (c : Challenge) (w : Withdrawal) (row : WalletTransaction String) (v : Wallet) : Prop where
  used : c.status = .used
  purpose : c.purpose = .withdrawal
  user : w.user = c.user
  owner : v.user = c.user
  address : w.walletAddress = c.walletAddress
  currency : currencyByAssetNetwork c.asset c.network = some w.cryptoCurrency
  txType : row.txType = .withdraw
  debited : row.amount.units = -w.amountUsd.units
  amount : if c.withdrawAll then row.balanceAfter.units = 0 else c.amountUsd = some w.amountUsd

def Paid (s : Teller) (w : Withdrawal) : Prop :=
  ∃ k c t row v, w.otpChallenge = some k ∧ s.challenges.get k = some c ∧ w.debitTx = some t ∧
    s.ledger.transactions.get t = some row ∧ s.ledger.wallets.get row.wallet = some v ∧ Authorizes c w row v

structure Sound (s : Teller) : Prop where
  attempts : ∀ i c, s.challenges.get i = some c → c.attempts ≤ c.maxAttempts
  oneActive : ∀ i j c c', s.challenges.get i = some c → s.challenges.get j = some c' → c.user = c'.user →
    c.status.nonTerminal = true → c'.status.nonTerminal = true → i = j
  paid : ∀ i w, s.withdrawals.get i = some w → Paid s w
  once : ∀ i j w w', s.withdrawals.get i = some w → s.withdrawals.get j = some w' →
    w.otpChallenge = w'.otpChallenge ∨ w.debitTx = w'.debitTx → i = j
  debits : ∀ t row, s.ledger.transactions.get t = some row → row.txType = .withdraw →
    ∃ i w, s.withdrawals.get i = some w ∧ w.debitTx = some t

section Steps

variable {cfg : Settings} {s s' : Teller} {wrong : ℕ → Bool} {payload : Option Payload}

lemma Paid.grow {w w' : Withdrawal} (h : Paid s w) (hw : w' = { w with status := w'.status })
    (hchallenges : Table.Related (fun i => Evolves (wrong i)) s.challenges s'.challenges)
    (hledger : LedgerGrows s.ledger s'.ledger) : Paid s' w' := by
  obtain ⟨k, c, t, row, v, hk, hc, ht, hrow, hv, ha⟩ := h
  obtain ⟨c', hc', he⟩ := hchallenges.get hc
  obtain ⟨v', hv', huser⟩ := hledger.wallets _ v hv
  have hstatus : c'.status = .used := by
    rcases he.status with hsame | hpending | ⟨-, hused⟩
    · exact hsame.trans ha.used
    · rw [ha.used] at hpending
      cases hpending
    · exact hused
  have hfrozen := he.payload
  rw [hw]
  refine ⟨k, c', t, row, v', hk, hc', ht, hledger.rows t row hrow, hv', hstatus, ?_, ?_, ?_, ?_, ?_, ha.txType,
    ha.debited, ?_⟩
  · exact (congrArg Payload.purpose hfrozen).trans ha.purpose
  · exact ha.user.trans (congrArg Payload.user hfrozen).symm
  · exact (huser.trans ha.owner).trans (congrArg Payload.user hfrozen).symm
  · exact ha.address.trans (congrArg Payload.walletAddress hfrozen).symm
  · rw [show c'.asset = c.asset from congrArg Payload.asset hfrozen,
      show c'.network = c.network from congrArg Payload.network hfrozen]
    exact ha.currency
  · rw [show c'.withdrawAll = c.withdrawAll from congrArg Payload.withdrawAll hfrozen,
      show c'.amountUsd = c.amountUsd from congrArg Payload.amountUsd hfrozen]
    exact ha.amount

lemma finalized_paid (f : Finalized s s') (howner : f.wallet.user = f.seen.user)
    (hpurpose : f.seen.purpose = .withdrawal) (hseen : CallOk s.challenges ⟨f.challenge, f.seen, .finalizing⟩) :
    Paid s' f.withdrawal := by
  obtain ⟨row, hrow, hfrozen, -⟩ := hseen
  have hrow' := Table.get_update_self hrow fun c => { c with status := .used }
  rw [← f.challenges] at hrow'
  have hdebit : s'.ledger.transactions.get s.ledger.transactions.next = some
      { wallet := f.walletId, txType := .withdraw, amount := f.amount, balanceAfter := f.balance,
        deposit := f.refs.deposit, internalTransfer := f.refs.internalTransfer, initiatedBy := f.refs.initiatedBy,
        note := f.refs.note } := by
    rw [f.ledger]
    exact Table.get_insert_next _ _
  have hwallet := post_wallets_self s.ledger f.walletId .withdraw f.amount f.balance f.refs f.get
  rw [← f.ledger] at hwallet
  refine ⟨f.challenge, _, s.ledger.transactions.next, _, _, f.otpChallenge, hrow', f.debitTx, hdebit, hwallet, rfl, ?_,
    ?_, ?_, ?_, ?_, rfl, f.amountUnits, ?_⟩
  · exact (congrArg Payload.purpose hfrozen).trans hpurpose
  · exact f.user.trans (congrArg Payload.user hfrozen).symm
  · exact howner.trans (congrArg Payload.user hfrozen).symm
  · exact f.address.trans (congrArg Payload.walletAddress hfrozen).symm
  · rw [show row.asset = f.seen.asset from congrArg Payload.asset hfrozen,
      show row.network = f.seen.network from congrArg Payload.network hfrozen]
    exact f.currency
  · rw [show row.withdrawAll = f.seen.withdrawAll from congrArg Payload.withdrawAll hfrozen,
      show row.amountUsd = f.seen.amountUsd from congrArg Payload.amountUsd hfrozen]
    have hfinal := f.final
    rw [finalAmount] at hfinal
    split at hfinal
    · next hall =>
      have hamount := store_value f.withdrawal.amountUsd
      rw [← Option.some.inj hfinal, Numeric.value, store_scaled] at hamount
      rw [if_pos hall, f.balanceUnits]
      omega
    · next hsome =>
      rw [if_neg hsome]
      obtain ⟨frozen, hamount, hvalue⟩ := Option.map_eq_some_iff.mp hfinal
      rw [hamount, ← store_value frozen, hvalue, store_value]

lemma oneActive_evolve {t u : Table Challenge} (hrel : Table.Related (fun i => Evolves (wrong i)) t u)
    (h : ∀ i j c c', t.get i = some c → t.get j = some c' → c.user = c'.user →
      c.status.nonTerminal = true → c'.status.nonTerminal = true → i = j) :
    ∀ i j c c', u.get i = some c → u.get j = some c' → c.user = c'.user →
      c.status.nonTerminal = true → c'.status.nonTerminal = true → i = j := by
  intro i j c c' hc hc' huser hlive hlive'
  obtain ⟨a, ha, he⟩ := hrel.back hc
  obtain ⟨a', ha', he'⟩ := hrel.back hc'
  have hsame : a.user = a'.user :=
    (congrArg Payload.user he.payload).symm.trans (huser.trans (congrArg Payload.user he'.payload))
  exact h i j a a' ha ha' hsame (he.nonTerminal hlive) (he'.nonTerminal hlive')

lemma evolves_attempts_le {b : Bool} {c c' : Challenge} (h : Evolves b c c') (hc : c.attempts ≤ c.maxAttempts) :
    c'.attempts ≤ c'.maxAttempts := by
  rw [h.attempts, h.maxAttempts]
  split
  · next hb => exact h.within hb
  · exact hc

lemma quiet_sound (h : Quiet wrong s s') (hs : Sound s) : Sound s' where
  attempts i c hc := by
    obtain ⟨a, ha, he⟩ := h.challenges.back hc
    exact evolves_attempts_le he (hs.attempts i a ha)
  oneActive := oneActive_evolve h.challenges hs.oneActive
  paid i w hw := by
    obtain ⟨w₀, hw₀, hsame⟩ := h.withdrawals.back hw
    exact (hs.paid i w₀ hw₀).grow hsame h.challenges h.ledger.toLedgerGrows
  once i j w w' hw hw' heq := by
    obtain ⟨w₀, hw₀, hsame⟩ := h.withdrawals.back hw
    obtain ⟨w₁, hw₁, hsame'⟩ := h.withdrawals.back hw'
    rw [hsame, hsame'] at heq
    exact hs.once i j w₀ w₁ hw₀ hw₁ heq
  debits t row hrow htype := by
    rcases h.ledger.added t row hrow with hold | hother
    · obtain ⟨i, w, hw, ht⟩ := hs.debits t row hold htype
      obtain ⟨w', hw', hsame⟩ := h.withdrawals.get hw
      exact ⟨i, w', hw', by rw [hsame]; exact ht⟩
    · exact (hother htype).elim

lemma Sound.insert {c : Challenge} (hs : Sound s) (hattempts : c.attempts = 0)
    (hfree : ∀ i v, s.challenges.get i = some v → v.user = c.user → v.status.nonTerminal = false)
    (hchallenges : s'.challenges = s.challenges.insert c) (hwithdrawals : s'.withdrawals = s.withdrawals)
    (hledger : s'.ledger = s.ledger) : Sound s' where
  attempts i v hv := by
    rw [hchallenges] at hv
    rcases Table.get_insert_some hv with hold | ⟨-, rfl⟩
    · exact hs.attempts i v hold
    · rw [hattempts]
      exact Nat.zero_le _
  oneActive i j v v' hv hv' huser hlive hlive' := by
    rw [hchallenges] at hv hv'
    rcases Table.get_insert_some hv with hold | ⟨hi, hnew⟩
    · rcases Table.get_insert_some hv' with hold' | ⟨-, hnew'⟩
      · exact hs.oneActive i j v v' hold hold' huser hlive hlive'
      · rw [hfree i v hold (hnew' ▸ huser)] at hlive
        cases hlive
    · rcases Table.get_insert_some hv' with hold' | ⟨hj, -⟩
      · rw [hfree j v' hold' (hnew ▸ huser.symm)] at hlive'
        cases hlive'
      · rw [hi, hj]
  paid i w hw := by
    obtain ⟨k, a, t, row, v, hk, ha, ht, hrow, hv, hauth⟩ := hs.paid i w (hwithdrawals ▸ hw)
    exact ⟨k, a, t, row, v, hk, hchallenges ▸ Table.get_insert_of_get ha c, ht, hledger ▸ hrow, hledger ▸ hv, hauth⟩
  once := hwithdrawals ▸ hs.once
  debits := by
    rw [hwithdrawals, hledger]
    exact hs.debits

lemma finalized_sound (f : Finalized s s') (howner : f.wallet.user = f.seen.user)
    (hpurpose : f.seen.purpose = .withdrawal) (hseen : CallOk s.challenges ⟨f.challenge, f.seen, .finalizing⟩)
    (hs : Sound s) : Sound s' := by
  have hrel : Table.Related (fun _ => Evolves false) s.challenges s'.challenges :=
    f.challenges ▸ used_evolves hseen f.verified
  have hledger : LedgerGrows s.ledger s'.ledger := f.ledger ▸ ledgerGrows_post _ _ _ _ _
  refine ⟨fun i c hc => ?_, oneActive_evolve hrel hs.oneActive, fun i w hw => ?_, fun i j w w' hw hw' heq => ?_,
    fun t row hrow htype => ?_⟩
  · obtain ⟨a, ha, he⟩ := hrel.back hc
    exact evolves_attempts_le he (hs.attempts i a ha)
  · rw [f.withdrawals] at hw
    rcases Table.get_insert_some hw with hold | ⟨-, rfl⟩
    · exact (hs.paid i w hold).grow rfl hrel hledger
    · exact finalized_paid f howner hpurpose hseen
  · have hfresh : ∀ k v, s.withdrawals.get k = some v →
        ¬ (v.otpChallenge = f.withdrawal.otpChallenge ∨ v.debitTx = f.withdrawal.debitTx) := by
      rintro k v hv (hotp | hdebit)
      · exact f.unused k v hv (hotp.trans f.otpChallenge)
      · obtain ⟨-, -, t, row, -, -, -, ht, hrow, -⟩ := hs.paid k v hv
        rw [ht, f.debitTx, Option.some.injEq] at hdebit
        exact Table.ne_next_of_get hrow hdebit
    rw [f.withdrawals] at hw hw'
    rcases Table.get_insert_some hw with hold | ⟨hi, rfl⟩
    · rcases Table.get_insert_some hw' with hold' | ⟨-, rfl⟩
      · exact hs.once i j w w' hold hold' heq
      · exact (hfresh i w hold heq).elim
    · rcases Table.get_insert_some hw' with hold' | ⟨hj, -⟩
      · exact (hfresh j w' hold' (heq.imp Eq.symm Eq.symm)).elim
      · rw [hi, hj]
  · rw [f.ledger] at hrow
    rw [f.withdrawals]
    rcases Table.get_insert_some hrow with hold | ⟨ht, -⟩
    · obtain ⟨i, w, hw, hdebit⟩ := hs.debits t row hold htype
      exact ⟨i, w, Table.get_insert_of_get hw _, hdebit⟩
    · exact ⟨_, _, Table.get_insert_next _ _, ht ▸ f.debitTx⟩

lemma effect_sound (h : Effect wrong payload s s') (hs : Sound s) : Sound s' := by
  cases h with
  | quiet h => exact quiet_sound h hs
  | created t c hchallenges hfree hpayload hattempts hinsert hwithdrawals hledger =>
    have hquiet : Quiet wrong s { s with challenges := t, ledger := s'.ledger } :=
      ⟨hchallenges, Table.related_refl fun _ _ _ => rfl, hledger⟩
    exact (quiet_sound hquiet hs).insert hattempts hfree hinsert hwithdrawals rfl
  | withdrawn l hl htransactions hquiet f howner hpurpose hseen =>
    have hledger : Quiet (fun _ => false) s { s with ledger := l } := .of_ledger rfl rfl hl
    exact finalized_sound f howner hpurpose hseen (quiet_sound hledger hs)

def attemptsOf (s : Teller) (challenge : ℕ) : ℕ := (s.challenges.get challenge).elim 0 Challenge.attempts

lemma attemptsOf_related {t : Teller} {i : ℕ} (h : Table.Related (fun i => Evolves (wrong i)) s.challenges t.challenges)
    (hrow : wrong i = true → ∃ c, s.challenges.get i = some c) :
    attemptsOf t i = (if wrong i then 1 else 0) + attemptsOf s i := by
  rw [attemptsOf, attemptsOf]
  cases hs : s.challenges.get i with
  | none =>
    have hnone : wrong i = false := by
      by_contra hw
      obtain ⟨c, hc⟩ := hrow (Bool.not_eq_false _ ▸ hw)
      rw [hs] at hc
      cases hc
    rw [hnone]
    cases ht : t.challenges.get i with
    | none => rfl
    | some c' =>
      obtain ⟨c, hc, -⟩ := h.back ht
      rw [hs] at hc
      cases hc
  | some c =>
    obtain ⟨c', hc', he⟩ := h.get hs
    rw [hc', Option.elim_some, Option.elim_some, he.attempts, add_comm]

lemma wrongCode_row {action : Action} {i : ℕ} (h : wrongCode cfg s action i = true) :
    ∃ c, s.challenges.get i = some c := by
  cases action with
  | verify call code now =>
    rw [wrongCode, Option.any_eq_true] at h
    obtain ⟨c, -, hc⟩ := h
    obtain ⟨-, -, rfl, row, hrow, -⟩ := of_decide_eq_true hc
    exact ⟨row, hrow⟩
  | _ => cases h

lemma step_attempts (hcalls : CallsOk s) (action : Action) (i : ℕ) :
    attemptsOf (step cfg s action) i = (if wrongCode cfg s action i then 1 else 0) + attemptsOf s i := by
  have hrow : wrongCode cfg s action i = true → ∃ c, s.challenges.get i = some c := wrongCode_row
  cases (step_effect cfg hcalls action).1 with
  | quiet h => exact attemptsOf_related h.challenges hrow
  | created t c hchallenges hfree hpayload hattempts hinsert =>
    have hsame := attemptsOf_related (t := { s with challenges := t }) hchallenges hrow
    rw [← hsame, attemptsOf, attemptsOf, hinsert, Table.get_insert]
    split
    · next hi => rw [hi, Table.get_next, Option.elim_some, Option.elim_none, hattempts]
    · rfl
  | withdrawn l hl htransactions hquiet f howner hpurpose hseen =>
    have hrel : Table.Related (fun _ => Evolves false) s.challenges (step cfg s action).challenges :=
      f.challenges ▸ used_evolves hseen f.verified
    rw [hquiet i]
    exact attemptsOf_related hrel nofun

lemma step_sound (hs : CallsOk s ∧ Sound s) (action : Action) :
    CallsOk (step cfg s action) ∧ Sound (step cfg s action) := by
  obtain ⟨heffect, hcalls⟩ := step_effect cfg hs.1 action
  exact ⟨hcalls, effect_sound heffect hs.2⟩

lemma run_sound (cfg : Settings) (hs : CallsOk s ∧ Sound s) (acts : List Action) :
    CallsOk (run (step cfg) s acts) ∧ Sound (run (step cfg) s acts) :=
  run_invariant (I := fun s => CallsOk s ∧ Sound s) (fun _ action h => step_sound h action) hs acts

lemma run_attempts (cfg : Settings) (hs : CallsOk s ∧ Sound s) (acts : List Action) (i : ℕ) :
    attemptsOf (run (step cfg) s acts) i = wrongCodes cfg i s acts + attemptsOf s i := by
  induction acts generalizing s with
  | nil => rw [run_nil, wrongCodes, zero_add]
  | cons action acts ih =>
    rw [run_cons, ih (step_sound hs action), step_attempts hs.1 action i, wrongCodes, ← add_assoc,
      add_comm (wrongCodes cfg i (step cfg s action) acts)]

lemma step_frozen (cfg : Settings) (hcalls : CallsOk s) (action : Action) {i : ℕ} {c : Challenge}
    (hc : s.challenges.get i = some c) :
    ∃ c', (step cfg s action).challenges.get i = some c' ∧ c'.toPayload = c.toPayload ∧
      c'.maxAttempts = c.maxAttempts := by
  cases (step_effect cfg hcalls action).1 with
  | quiet h =>
    obtain ⟨c', hc', he⟩ := h.challenges.get hc
    exact ⟨c', hc', he.payload, he.maxAttempts⟩
  | created t new hchallenges _ _ _ hinsert =>
    obtain ⟨c', hc', he⟩ := hchallenges.get hc
    exact ⟨c', hinsert ▸ Table.get_insert_of_get hc' new, he.payload, he.maxAttempts⟩
  | withdrawn l hl htransactions hquiet f howner hpurpose hseen =>
    obtain ⟨c', hc', he⟩ := (f.challenges ▸ used_evolves hseen f.verified : Table.Related (fun _ => Evolves false)
      s.challenges (step cfg s action).challenges).get hc
    exact ⟨c', hc', he.payload, he.maxAttempts⟩

lemma run_frozen (hs : CallsOk s ∧ Sound s) (acts : List Action) {i : ℕ} {c : Challenge}
    (hc : s.challenges.get i = some c) : ∃ c', (run (step cfg) s acts).challenges.get i = some c' ∧
      c'.toPayload = c.toPayload ∧ c'.maxAttempts = c.maxAttempts := by
  induction acts generalizing s c with
  | nil => exact ⟨c, hc, rfl, rfl⟩
  | cons action acts ih =>
    obtain ⟨c', hc', hpayload, hmax⟩ := step_frozen cfg hs.1 action hc
    obtain ⟨c'', hc'', hpayload', hmax'⟩ := ih (step_sound hs action) hc'
    exact ⟨c'', hc'', hpayload'.trans hpayload, hmax'.trans hmax⟩

lemma step_created (hcalls : CallsOk s) (action : Action) {i : ℕ} {c : Challenge} (hnone : s.challenges.get i = none)
    (hc : (step cfg s action).challenges.get i = some c) : requested action = some c.toPayload := by
  cases (step_effect cfg hcalls action).1 with
  | quiet h =>
    obtain ⟨a, ha, -⟩ := h.challenges.back hc
    rw [hnone] at ha
    cases ha
  | created t new hchallenges _ hpayload _ hinsert =>
    rw [hinsert] at hc
    rcases Table.get_insert_some hc with hold | ⟨-, rfl⟩
    · obtain ⟨a, ha, -⟩ := hchallenges.back hold
      rw [hnone] at ha
      cases ha
    · exact hpayload
  | withdrawn l hl htransactions hquiet f =>
    rw [f.challenges] at hc
    obtain ⟨a, ha, -⟩ := Table.get_update_some hc
    rw [hnone] at ha
    cases ha

end Steps

def opened (wallets : Table Wallet) (registry : Addresses.Registry) (feeConfig : FeeConfig) : Teller where
  ledger := { wallets := wallets, transactions := .empty }
  challenges := .empty
  withdrawals := .empty
  registry := registry
  calls := .empty
  feeConfig := feeConfig

lemma opened_sound (wallets : Table Wallet) (registry : Addresses.Registry) (feeConfig : FeeConfig) :
    CallsOk (opened wallets registry feeConfig) ∧ Sound (opened wallets registry feeConfig) where
  left i c hc := by cases hc
  right :=
    { attempts := fun i c hc => by cases hc
      oneActive := fun i j c c' hc => by cases hc
      paid := fun i w hw => by cases hw
      once := fun i j w w' hw => by cases hw
      debits := fun t row hrow => by cases hrow }

/-- For a challenge to withdraw all, the amount of `Paid` is what the wallet holds when it is debited. -/
theorem withdrawals_authorized (cfg : Settings) (wallets : Table Wallet) (registry : Addresses.Registry)
    (feeConfig : FeeConfig) (acts : List Action) :
    (∀ i c, (run (step cfg) (opened wallets registry feeConfig) acts).challenges.get i = some c →
      wrongCodes cfg i (opened wallets registry feeConfig) acts ≤ c.maxAttempts) ∧
    (∀ i w, (run (step cfg) (opened wallets registry feeConfig) acts).withdrawals.get i = some w →
      Paid (run (step cfg) (opened wallets registry feeConfig) acts) w) ∧
    (∀ i j w w', (run (step cfg) (opened wallets registry feeConfig) acts).withdrawals.get i = some w →
      (run (step cfg) (opened wallets registry feeConfig) acts).withdrawals.get j = some w' →
      w.otpChallenge = w'.otpChallenge → i = j) ∧
    (∀ t row, (run (step cfg) (opened wallets registry feeConfig) acts).ledger.transactions.get t = some row →
      row.txType = .withdraw → ∃! i, ∃ w,
        (run (step cfg) (opened wallets registry feeConfig) acts).withdrawals.get i = some w ∧ w.debitTx = some t) ∧
    (∀ i j c c', (run (step cfg) (opened wallets registry feeConfig) acts).challenges.get i = some c →
      (run (step cfg) (opened wallets registry feeConfig) acts).challenges.get j = some c' → c.user = c'.user →
      c.status.nonTerminal = true → c'.status.nonTerminal = true → i = j) ∧
    (∀ later i c, (run (step cfg) (opened wallets registry feeConfig) acts).challenges.get i = some c →
      ∃ c', (run (step cfg) (opened wallets registry feeConfig) (acts ++ later)).challenges.get i = some c' ∧
        c'.toPayload = c.toPayload ∧ c'.maxAttempts = c.maxAttempts) ∧
    ∀ action i c, (run (step cfg) (opened wallets registry feeConfig) acts).challenges.get i = none →
      (run (step cfg) (opened wallets registry feeConfig) (acts ++ [action])).challenges.get i = some c →
      requested action = some c.toPayload := by
  have hopened := opened_sound wallets registry feeConfig
  obtain ⟨hcalls, hs⟩ := run_sound cfg hopened acts
  refine ⟨fun i c hc => ?_, hs.paid, fun i j w w' hw hw' heq => hs.once i j w w' hw hw' (Or.inl heq),
    fun t row hrow htype => ?_, hs.oneActive, fun later i c hc => ?_, fun action i c hnone hc => ?_⟩
  · have hattempts := run_attempts cfg hopened acts i
    rw [attemptsOf, hc] at hattempts
    exact (Nat.le_add_right _ _).trans (hattempts.symm.le.trans (hs.attempts i c hc))
  · obtain ⟨i, w, hw, ht⟩ := hs.debits t row hrow htype
    refine ⟨i, ⟨w, hw, ht⟩, ?_⟩
    rintro j ⟨w', hw', ht'⟩
    exact hs.once j i w' w hw' hw (Or.inr (ht'.trans ht.symm))
  · rw [run_append]
    exact run_frozen ⟨hcalls, hs⟩ later hc
  · rw [run_append] at hc
    exact step_created hcalls action hnone hc

def authorizedSettings : Settings where
  expiry := 900
  maxAttempts := 5
  resendCooldown := 60
  addressCooldown := 86400
  digest := id

def withdrawAllChallenge : Teller :=
  create authorizedSettings
    (opened (Table.empty.insert { newWallet 7 with availableBalance := ⟨10000, by norm_num⟩ }) (Addresses.opened 0)
      ⟨⟨0, by norm_num⟩, false⟩)
    { user := 7, purpose := .withdrawal, amountUsd := none, withdrawAll := true, asset := "USDT", network := "TRC20",
      walletAddress := "TXYZopYRdj2D9XRtbG411XZZ3kM5VkAeBf" } "123456" 0

/-- What is credited between the challenge and its code is withdrawn too. -/
theorem withdraw_all_takes_later_balance :
    (withdrawAllChallenge.ledger.wallets.get 0).map (fun v => v.availableBalance.units) = some 10000 ∧
    (withdrawAllChallenge.challenges.get 0).map Challenge.status = some .pending ∧
    ((run (step authorizedSettings) withdrawAllChallenge
      [.otherCredit 0 50 .deposit, .openChallenge 7 0 .withdrawal, .verify 0 "123456" 60, .finalize 0 61]).withdrawals.get
        0).map (fun w => (w.otpChallenge, w.amountUsd.units)) = some (some 0, 15000) := by
  decide +kernel

end TrxSimulator.Withdrawals.Authorized
