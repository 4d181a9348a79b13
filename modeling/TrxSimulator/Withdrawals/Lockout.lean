import TrxSimulator.Withdrawals.Authorized

/-! New challenges once every code has run out: a pending challenge is then stale and expires, and only one that was
verified still stands in the way. -/

namespace TrxSimulator.Withdrawals.Lockout

open Foundations.Tables Foundations.Runs Foundations.Outcomes Wallets.Ledger Otp Authorized

def moment : Action → Option ℤ
  | .create _ _ now => some now
  | .expireIfStale _ now => some now
  | .resendChallenge _ now => some now
  | .storeResend _ _ now => some now
  | .verify _ _ now => some now
  | .finalize _ now => some now
  | .openChallenge _ _ _ => none
  | .review _ _ => none
  | .otherCredit _ _ _ => none
  | .otherDebit _ _ _ => none
  | .setFee _ => none
  | .addresses _ => none

def Until (last : ℤ) (acts : List Action) : Prop := ∀ action ∈ acts, ∀ now ∈ moment action, now ≤ last

def AllRows {ρ : Type} (p : ρ → Prop) (t : Table ρ) : Prop := ∀ i r, t.get i = some r → p r

/-- A verified challenge of the user, whose withdrawal was not opened. -/
def HasVerified (s : Teller) (user : ℕ) : Prop :=
  ∃ i c, s.challenges.get i = some c ∧ c.user = user ∧ c.status = .verified

section Rows

variable {ρ : Type} {p : ρ → Prop} {t : Table ρ} {f : ρ → ρ}

lemma AllRows.update (h : AllRows p t) (hf : ∀ r, p r → p (f r)) (k : ℕ) : AllRows p (t.update k f) := by
  intro i r hr
  obtain ⟨a, ha, hcase⟩ := Table.get_update_some hr
  split at hcase
  · exact hcase ▸ hf a (h i a ha)
  · exact hcase ▸ h i a ha

lemma AllRows.updateWhere (h : AllRows p t) (hf : ∀ r, p r → p (f r)) (q : ρ → Bool) :
    AllRows p (t.updateWhere q f) := by
  intro i r hr
  rw [Table.get_updateWhere, Option.map_eq_some_iff] at hr
  obtain ⟨a, ha, rfl⟩ := hr
  split
  · exact hf a (h i a ha)
  · exact h i a ha

lemma AllRows.insert (h : AllRows p t) {r : ρ} (hr : p r) : AllRows p (t.insert r) := by
  intro i a ha
  rcases Table.get_insert_some ha with hold | ⟨-, rfl⟩
  · exact h i a hold
  · exact hr

end Rows

section Steps

variable {cfg : Settings} {s s' : Teller} {bound now : ℤ}

/-- No challenge runs longer than the expiry from the last moment at which one was created or sent again. -/
def Dated (bound : ℤ) (s : Teller) : Prop := AllRows (fun c : Challenge => c.expiresAt ≤ bound) s.challenges

lemma create_dated (h : Dated bound s) (hnow : now + cfg.expiry ≤ bound) (payload : Payload) (code : String) :
    Dated bound (create cfg s payload code now) := by
  rw [create]
  refine commit_rule (motive := Dated bound) _ _ h fun s' hs' => ?_
  rw [createChallenge, guard_eq_ok, Except.ok.injEq] at hs'
  obtain ⟨-, rfl⟩ := hs'
  exact (h.updateWhere (fun _ hc => by exact hc) _).insert (by exact hnow)

lemma openChallenge_challenges (s : Teller) (user challenge : ℕ) (purpose : Purpose) :
    (openChallenge s user challenge purpose).challenges = s.challenges := by
  rw [openChallenge]
  split
  · rfl
  · split <;> rfl

lemma expireIfStale_dated (h : Dated bound s) (call : ℕ) : Dated bound (expireIfStale s call now) := by
  rw [expireIfStale]
  split
  · exact h
  · split
    · exact h.update (fun _ hc => by exact hc) _
    · exact h

lemma resendChallenge_dated (h : Dated bound s) (call : ℕ) : Dated bound (resendChallenge cfg s call now) := by
  have hexpired : Dated bound (expireIfStale s call now) := expireIfStale_dated h call
  rw [resendChallenge]
  split
  · exact h
  · split
    · exact h
    · dsimp only
      split
      · exact hexpired
      · split <;> exact hexpired

lemma storeResend_dated (h : Dated bound s) (hnow : now + cfg.expiry ≤ bound) (call : ℕ) (code : String) :
    Dated bound (storeResend cfg s call code now) := by
  rw [storeResend]
  split
  · exact h
  · split
    · exact h
    · exact h.update (fun _ _ => hnow) _

lemma verifyRow_expiresAt (challenge : ℕ) (code : String) (now : ℤ) (c : Challenge) :
    (verifyRow cfg challenge code now c).expiresAt = c.expiresAt := by
  simp only [verifyRow]
  repeat' split
  all_goals rfl

lemma verify_dated (h : Dated bound s) (call : ℕ) (code : String) : Dated bound (verify cfg s call code now) := by
  have hrows : ∀ challenge user, AllRows (fun c : Challenge => c.expiresAt ≤ bound)
      (verifyChallenge cfg s.challenges challenge user code now).1 := by
    intro challenge user
    rw [verifyChallenge]
    split
    · exact h
    · split
      · exact h
      · exact h.update (fun c hc => by rw [verifyRow_expiresAt]; exact hc) _
  rw [verify]
  split
  · exact h
  · split
    · exact h
    · exact hrows _ _

lemma finalize_dated (h : Dated bound s) (call : ℕ) : Dated bound (finalize cfg s call now) := by
  have hused : ∀ challenge, AllRows (fun c : Challenge => c.expiresAt ≤ bound)
      (s.challenges.update challenge fun c => { c with status := .used }) :=
    fun challenge => h.update (fun _ hc => by exact hc) challenge
  rw [finalize]
  split
  · exact h
  · split
    · exact h
    · dsimp only
      split
      · refine commit_rule (motive := Dated bound) _ _ h fun s' hs' => ?_
        obtain ⟨_, -, rfl⟩ := Effects.finalizeAddress_ok hs'
        exact hused _
      · refine commit_rule (motive := Dated bound) _ _ h fun s' hs' => ?_
        obtain ⟨⟨f, -⟩, -⟩ := Effects.finalizeWithdrawal_ok hs'
        rw [Dated, f.challenges]
        exact hused _

lemma otherCredit_challenges (s : Teller) (walletId : ℕ) (amount : ℚ) (txType : TxType) :
    (otherCredit s walletId amount txType).challenges = s.challenges := by
  rw [otherCredit]
  split
  · rfl
  · refine commit_rule (motive := fun s' : Teller => s'.challenges = s.challenges) _ _ rfl fun s' hs' => ?_
    obtain ⟨_, -, rfl⟩ := map_eq_ok.mp hs'
    rfl

lemma otherDebit_challenges (s : Teller) (walletId : ℕ) (amount : ℚ) (txType : TxType) :
    (otherDebit s walletId amount txType).challenges = s.challenges := by
  rw [otherDebit]
  split
  · rfl
  · refine commit_rule (motive := fun s' : Teller => s'.challenges = s.challenges) _ _ rfl fun s' hs' => ?_
    obtain ⟨_, -, rfl⟩ := map_eq_ok.mp hs'
    rfl

lemma step_dated {last : ℤ} (h : Dated (last + cfg.expiry) s) {action : Action}
    (hlast : ∀ now ∈ moment action, now ≤ last) : Dated (last + cfg.expiry) (step cfg s action) := by
  have hnow : ∀ now ∈ moment action, now + cfg.expiry ≤ last + cfg.expiry := fun now hmem =>
    (Int.add_le_add_iff_right _).mpr (hlast now hmem)
  cases action with
  | create payload code now => exact create_dated h (hnow now rfl) payload code
  | openChallenge user challenge purpose =>
    rw [Dated, step, openChallenge_challenges]
    exact h
  | expireIfStale call now => exact expireIfStale_dated h call
  | resendChallenge call now => exact resendChallenge_dated h call
  | storeResend call code now => exact storeResend_dated h (hnow now rfl) call code
  | verify call code now => exact verify_dated h call code
  | finalize call now => exact finalize_dated h call
  | review withdrawal status => exact h
  | otherCredit walletId amount txType =>
    rw [Dated, step, otherCredit_challenges]
    exact h
  | otherDebit walletId amount txType =>
    rw [Dated, step, otherDebit_challenges]
    exact h
  | setFee feeConfig => exact h
  | addresses action => exact h

lemma run_dated {last : ℤ} (h : Dated (last + cfg.expiry) s) {acts : List Action} (huntil : Until last acts) :
    Dated (last + cfg.expiry) (run (step cfg) s acts) := by
  induction acts generalizing s with
  | nil => exact h
  | cons action acts ih =>
    exact ih (step_dated h (huntil action List.mem_cons_self)) fun a ha => huntil a (List.mem_cons_of_mem _ ha)

lemma verified_blocks {payload : Payload} (h : HasVerified s payload.user) (code : String) (now : ℤ) :
    createChallenge cfg s payload code now = .error (.activeChallengeExists payload.user) := by
  obtain ⟨i, c, hc, huser, hverified⟩ := h
  have hfresh : stale now c = false := by simp [stale, hverified]
  rw [createChallenge, if_pos]
  rw [Table.exists?_iff]
  refine ⟨i, c, ?_, by simp [huser, hverified, ChallengeStatus.nonTerminal]⟩
  rw [Table.get_updateWhere, hc, Option.map_some, if_neg (by simp [hfresh])]

/-- Past every expiry, a challenge that is still pending gives way, and a verified one does not. -/
lemma createChallenge_iff (h : Dated now s) (payload : Payload) (code : String) :
    (∃ s', createChallenge cfg s payload code now = .ok s') ↔ ¬ HasVerified s payload.user := by
  constructor
  · rintro ⟨s', hs'⟩ hverified
    rw [verified_blocks hverified] at hs'
    cases hs'
  · intro hfree
    simp only [createChallenge]
    split
    · next hexists =>
      obtain ⟨i, c', hc', hlive⟩ := Table.exists?_iff.mp hexists
      rw [Table.get_updateWhere, Option.map_eq_some_iff] at hc'
      obtain ⟨c, hc, rfl⟩ := hc'
      obtain ⟨huser, hlive⟩ := of_decide_eq_true hlive
      split at huser
      · next hstale =>
        rw [if_pos hstale] at hlive
        cases hlive
      · next hfresh =>
        rw [if_neg hfresh] at hlive
        cases hstatus : c.status with
        | verified => exact (hfree ⟨i, c, hc, huser, hstatus⟩).elim
        | pending => exact absurd (decide_eq_true ⟨huser, Effects.stale_iff.mpr ⟨hstatus, h i c hc⟩⟩) hfresh
        | used | expired | locked => simp [hstatus, ChallengeStatus.nonTerminal] at hlive
    · exact ⟨_, rfl⟩

end Steps

lemma opened_dated (bound : ℤ) (wallets : Table Wallet) (registry : Addresses.Registry) (feeConfig : FeeConfig) :
    Dated bound (opened wallets registry feeConfig) := by
  intro i c hc
  cases hc

lemma Dated.later {s : Teller} {bound now : ℤ} (h : Dated bound s) (hle : bound ≤ now) : Dated now s :=
  fun i c hc => (h i c hc).trans hle

/-- After every run, once the expiry has passed since its last moment, a user gets a new challenge unless one of theirs
is left verified. -/
theorem new_challenge_iff (cfg : Settings) (wallets : Table Wallet) (registry : Addresses.Registry)
    (feeConfig : FeeConfig) (acts : List Action) (last now : ℤ) (huntil : Until last acts)
    (hpassed : last + cfg.expiry ≤ now) (payload : Payload) (code : String) :
    (∃ s', createChallenge cfg (run (step cfg) (opened wallets registry feeConfig) acts) payload code now = .ok s') ↔
      ¬ HasVerified (run (step cfg) (opened wallets registry feeConfig) acts) payload.user :=
  createChallenge_iff ((run_dated (opened_dated _ wallets registry feeConfig) huntil).later hpassed) payload code

def lockedOutWallets : Table Wallet :=
  Table.empty.insert { newWallet 7 with availableBalance := .ofUnits 10000 }

def withdrawAllPayload : Payload where
  user := 7
  purpose := .withdrawal
  amountUsd := none
  withdrawAll := true
  asset := "USDT"
  network := "TRC20"
  walletAddress := "TXYZopYRdj2D9XRtbG411XZZ3kM5VkAeBf"

lemma until_created : Until 0 [.create withdrawAllPayload "123456" 0] := by
  simp [Until, moment]

theorem new_challenge_at_expiry :
    (∃ s', createChallenge authorizedSettings
        (run (step authorizedSettings) (opened lockedOutWallets (Addresses.opened 0) ⟨.ofUnits 0, false⟩)
          [.create withdrawAllPayload "123456" 0]) withdrawAllPayload "654321" 900 = .ok s') ↔
      ¬ HasVerified (run (step authorizedSettings) (opened lockedOutWallets (Addresses.opened 0) ⟨.ofUnits 0, false⟩)
        [.create withdrawAllPayload "123456" 0]) 7 :=
  new_challenge_iff authorizedSettings lockedOutWallets (Addresses.opened 0) ⟨.ofUnits 0, false⟩
    [.create withdrawAllPayload "123456" 0] 0 900 until_created le_rfl withdrawAllPayload "654321"

/-- The wallet is emptied before the code is entered, and filled again after the withdrawal has failed. -/
def failedFinalization : Teller :=
  run (step authorizedSettings) (opened lockedOutWallets (Addresses.opened 0) ⟨.ofUnits 0, false⟩)
    [.create withdrawAllPayload "123456" 0, .otherDebit 0 100 .transferOut, .openChallenge 7 0 .withdrawal,
      .verify 0 "123456" 60, .finalize 0 61, .otherCredit 0 100 .transferIn]

/-- The user has the funds, and at no time a new challenge. -/
theorem verified_locks_out :
    (failedFinalization.ledger.wallets.get 0).map (fun v => v.availableBalance.units) = some 10000 ∧
      ∀ code now, createChallenge authorizedSettings failedFinalization withdrawAllPayload code now =
        .error (.activeChallengeExists 7) := by
  have hrow : (failedFinalization.challenges.get 0).map (fun c => (c.user, c.status)) = some (7, .verified) := by
    decide +kernel
  refine ⟨by decide +kernel, fun code now => verified_blocks ?_ code now⟩
  obtain ⟨c, hc, heq⟩ := Option.map_eq_some_iff.mp hrow
  obtain ⟨huser, hstatus⟩ := Prod.mk.inj heq
  exact ⟨0, c, hc, huser, hstatus⟩

end TrxSimulator.Withdrawals.Lockout
