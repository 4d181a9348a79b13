import TrxSimulator.Payouts.Safety

/-! Which events a correlated attempt can take, and which ones raise instead. -/

namespace TrxSimulator.Payouts.Webhooks

open Foundations.Runs Foundations.Tables Foundations.Outcomes Foundations.Decimals Money Accounts
open Wallets.Ledger Records StateMachine Orchestrator Funded.Payouts Machine Effects Safety

def Bookable (l : WalletLedger PayoutNote) (wr : WithdrawalRequest) : Prop :=
  0 < wr.amountUsd.units ∧
    ∀ w v, l.ofUser wr.user = some (w, v) → |v.availableBalance.units + wr.amountUsd.units| < 10 ^ 18

/-- The event that raises: progress reported again, or a failure whose refund does not fit. -/
def Refused (l : WalletLedger PayoutNote) (a : PayoutAttempt) (wr : WithdrawalRequest) (n : Normalized) : Prop :=
  a.status = .processing ∧ (n = .processing ∨ (n = .failed ∧ ¬ Bookable l wr))

variable {s s' : Platform} {k : ℕ} {a : PayoutAttempt} {wr : WithdrawalRequest} {n : AttemptStatus}
  {reason raw : String} {payload : Payload}

section Totality

lemma applyResultWithoutRefund_ok_iff (ha : s.attempts.get k = some a)
    (hwr : s.withdrawals.get a.withdrawalRequest = some wr) (hn : n ≠ .failed) :
    (∃ s', applyResultWithoutRefund s k n reason raw payload = .ok s') ↔
      (a.status.terminal = true ∨ n ∈ allowedTransitions a.status) := by
  simp only [applyResultWithoutRefund, lockAttempt, lockWithdrawal, bind_eq_ok, require_eq_ok, ha, hwr,
    Option.some.injEq, exists_eq_left']
  by_cases hterminal : a.status.terminal = true
  · simp [hterminal, pure, Except.pure]
  · simp only [hterminal, if_false, bind_eq_ok, pure_eq_ok, transition_eq_ok, sync_eq_ok, false_or, Bool.false_eq_true]
    constructor
    · rintro ⟨_, _, ⟨hallowed, -, -⟩, -⟩
      exact hallowed
    · intro hallowed
      obtain ⟨st, hst, -⟩ := derive_of_allowed hallowed
      exact ⟨_, _, ⟨hallowed, fun h => hn h.2.1, rfl⟩, _, ⟨st, hst, ⟨wr, hwr⟩, rfl⟩, rfl⟩

lemma applyConfirmedFailureWithRefund_ok_iff (ha : s.attempts.get k = some a)
    (hwr : s.withdrawals.get a.withdrawalRequest = some wr) {w : ℕ} {v : Wallet}
    (hv : s.ledger.ofUser wr.user = some (w, v)) (hsubmitted : a.status ≠ .submitted) :
    (∃ s', applyConfirmedFailureWithRefund s k reason false raw none = .ok s') ↔
      (a.status.terminal = true ∨ (.failed ∈ allowedTransitions a.status ∧ Bookable s.ledger wr)) := by
  have hget := (ofUser_some hv).1
  simp only [applyConfirmedFailureWithRefund, lockAttempt, lockWithdrawal, lockWallet, bind_eq_ok,
    require_eq_ok, ha, hwr, hv, Option.map_some, Option.some.injEq, exists_eq_left']
  by_cases hterminal : a.status.terminal = true
  · simp [hterminal, pure, Except.pure]
  · simp only [hterminal, if_false, bind_eq_ok, pure_eq_ok, transition_eq_ok, sync_eq_ok, mapError_eq_ok,
      false_or, Bool.false_eq_true]
    constructor
    · rintro ⟨_, _, ⟨hallowed, -, -⟩, _, ⟨_, -, -, rfl⟩, credited, hc, -⟩
      obtain ⟨v', balance, amount, hpos, hv', -, hbalance, -⟩ := creditWallet_cents.mp hc
      obtain rfl : v = v' := Option.some.inj (hget.symm.trans hv')
      refine ⟨hallowed, hpos, fun w' v' hv' => ?_⟩
      rw [hv, Option.some.injEq, Prod.mk.injEq] at hv'
      rw [← hv'.2, ← hbalance]
      exact balance.fits
    · rintro ⟨hallowed, hpos, hfits⟩
      obtain ⟨credited, hc⟩ : ∃ r, creditWallet s.ledger w wr.amountUsd.value .correction
          { note := some (.refund k reason), initiatedBy := none } = .ok r :=
        ⟨_, creditWallet_cents.mpr ⟨v, ⟨_, hfits w v hv⟩, wr.amountUsd.widen balance_digits, hpos, hget, rfl, rfl, rfl⟩⟩
      obtain ⟨st, hst, -⟩ := derive_of_allowed hallowed
      exact ⟨_, _, ⟨hallowed, fun h => hsubmitted h.1, rfl⟩, _, ⟨st, hst, ⟨wr, hwr⟩, rfl⟩, credited, hc, rfl⟩

lemma applyAttemptWebhook_ok_iff (ha : s.attempts.get k = some a)
    (hwr : s.withdrawals.get a.withdrawalRequest = some wr) (hwallet : s.ledger.ofUser wr.user ≠ none)
    (hanswered : a.status = .processing ∨ a.status.terminal = true) {event : ProviderPayoutEvent}
    {m : Normalized} :
    (∃ s', applyAttemptWebhook s k event m = .ok s') ↔ ¬ Refused s.ledger a wr m := by
  obtain ⟨⟨w, v⟩, hv⟩ := Option.ne_none_iff_exists'.mp hwallet
  have hsubmitted : a.status ≠ .submitted := by
    rintro h
    rcases hanswered with h' | h' <;> rw [h] at h' <;> cases h'
  have hresult : ∀ {n reason raw payload}, n ≠ .failed →
      ((∃ s', applyResultWithoutRefund s k n reason raw payload = .ok s') ↔
        (a.status.terminal = true ∨ n ∈ allowedTransitions a.status)) :=
    fun hn => applyResultWithoutRefund_ok_iff ha hwr hn
  have hrefund : ∀ {reason raw}, ((∃ s', applyConfirmedFailureWithRefund s k reason false raw none = .ok s') ↔
      (a.status.terminal = true ∨ (.failed ∈ allowedTransitions a.status ∧ Bookable s.ledger wr))) :=
    applyConfirmedFailureWithRefund_ok_iff ha hwr hv hsubmitted
  rw [Refused]
  cases m with
  | processing =>
    rw [applyAttemptWebhook, hresult (by decide)]
    rcases hanswered with h | h
    · simp [h, AttemptStatus.terminal, allowedTransitions]
    · have hne : a.status ≠ .processing := by rintro h'; rw [h'] at h; cases h
      simp [h, hne]
  | completed =>
    rw [applyAttemptWebhook, hresult (by decide)]
    rcases hanswered with h | h
    · simp [h, allowedTransitions]
    · simp [h]
  | failed =>
    rw [applyAttemptWebhook, hrefund]
    rcases hanswered with h | h
    · simp [h, AttemptStatus.terminal, allowedTransitions]
    · have hne : a.status ≠ .processing := by rintro h'; rw [h'] at h; cases h
      simp [h, hne]

end Totality

section Handling

def handled (s : Platform) (i : ℕ) : Platform := processWebhookEvent (processWebhookEvent s i) i

structure Settles (s : Platform) (i e : ℕ) : Prop where
  returned : (handled s i).handlers.get i = some ⟨e, .finished⟩
  resolved : ∃ row, (handled s i).events.get e = some row ∧ row.correlationStatus = .resolved
  moved : ∃ s', Applied s s' ∧ (handled s i).attempts = s'.attempts ∧
    (handled s i).withdrawals = s'.withdrawals ∧ (handled s i).ledger = s'.ledger

variable {i e : ℕ} {row : PayoutWebhookEvent} {m : Normalized} {target : Target}

lemma processWebhookEvent_matched (hi : s.handlers.get i = some ⟨e, .matched target⟩)
    (hrow : s.events.get e = some row) (hm : row.event.normalizedStatus = some m) :
    processWebhookEvent s i = match applyTarget s row.event m target with
      | .ok (s', attempt) => Orchestrator.Platform.setHandler s' i (.applied attempt)
      | .error error => Orchestrator.Platform.setHandler s i (.raised error) := by
  cases happly : applyTarget s row.event m target with
  | ok r => simp only [processWebhookEvent, hi, hrow, hm, Option.bind_some, Option.map_some, happly]
  | error error => simp only [processWebhookEvent, hi, hrow, hm, Option.bind_some, Option.map_some, happly]

lemma processWebhookEvent_applied {attempt : Option ℕ} (hi : s.handlers.get i = some ⟨e, .applied attempt⟩) :
    processWebhookEvent s i =
      Orchestrator.Platform.setHandler (Orchestrator.Platform.setEvent s e (resolvedEvent attempt)) i .finished := by
  unfold processWebhookEvent
  simp only [hi]

lemma processWebhookEvent_raised {error : PayoutError} (hi : s.handlers.get i = some ⟨e, .raised error⟩) :
    processWebhookEvent s i = s := by
  unfold processWebhookEvent
  simp only [hi]

lemma resolvedEvent_status (attempt : Option ℕ) (row : PayoutWebhookEvent) :
    (resolvedEvent attempt row).correlationStatus = .resolved := by
  unfold resolvedEvent
  split
  · assumption
  · rfl

lemma settles_iff (hi : s.handlers.get i = some ⟨e, .matched (.attempt k)⟩) (hrow : s.events.get e = some row)
    (hm : row.event.normalizedStatus = some m) :
    Settles s i e ↔ ∃ s', applyAttemptWebhook s k row.event m = .ok s' := by
  have hfirst := processWebhookEvent_matched hi hrow hm
  rw [applyTarget] at hfirst
  cases happly : applyAttemptWebhook s k row.event m with
  | error error =>
    simp only [happly, Except.map] at hfirst
    have hraised : (processWebhookEvent s i).handlers.get i = some ⟨e, .raised error⟩ := by
      rw [hfirst]
      exact Table.get_update_self hi _
    constructor
    · intro h
      have hreturned := h.returned
      rw [handled, processWebhookEvent_raised hraised, hraised] at hreturned
      cases hreturned
    · rintro ⟨s', h⟩
      cases h
  | ok s' =>
    simp only [happly, Except.map] at hfirst
    have happlied := applyAttemptWebhook_applied happly
    obtain ⟨hhandlers, -, hevents, -⟩ := happlied.frame
    have hstage : (processWebhookEvent s i).handlers.get i = some ⟨e, .applied (some k)⟩ := by
      rw [← hhandlers] at hi
      rw [hfirst]
      exact Table.get_update_self hi _
    have hsecond : handled s i = Orchestrator.Platform.setHandler (Orchestrator.Platform.setEvent
        (processWebhookEvent s i) e (resolvedEvent (some k))) i .finished :=
      processWebhookEvent_applied hstage
    refine ⟨fun _ => ⟨s', rfl⟩, fun _ => ⟨?_, ?_, s', happlied, ?_, ?_, ?_⟩⟩
    · rw [hsecond]
      exact Table.get_update_self hstage _
    · rw [hsecond]
      refine ⟨resolvedEvent (some k) row, ?_, resolvedEvent_status _ _⟩
      rw [← hevents] at hrow
      rw [hfirst]
      exact Table.get_update_self hrow _
    · rw [hsecond, hfirst]
      rfl
    · rw [hsecond, hfirst]
      rfl
    · rw [hsecond, hfirst]
      rfl

lemma derive_answered {n : AttemptStatus} {st : WithdrawalStatus} (h : deriveWithdrawalStatus n = .ok st)
    (hsubmitted : n ≠ .submitted) (hunknown : n ≠ .unknown) : n = .processing ∨ n.terminal = true := by
  cases n <;> simp_all [deriveWithdrawalStatus, AttemptStatus.terminal]

def Repayable (s : Platform) : Prop :=
  ∀ w wr, s.withdrawals.get w = some wr → Retail s w → ∃ x v, s.ledger.wallets.get x = some v ∧ v.user = wr.user

lemma repayable_later (h : Repayable s) (hlater : Later s s') : Repayable s' := by
  intro w wr' hwr' hretail
  obtain ⟨wr, hwr, hcase⟩ := (hlater.retail w).mp hretail
  obtain ⟨v', hv', hu, -⟩ := hlater.withdrawals w wr hwr
  obtain rfl : v' = wr' := Option.some.inj (hv'.symm.trans hwr')
  obtain ⟨x, v, hv, huser⟩ := h w wr hwr ⟨wr, hwr, hcase⟩
  obtain ⟨y, hy, hkept, -⟩ := hlater.carried.wallets x v hv
  exact ⟨x, y, hy, by rw [hkept, huser, hu]⟩

lemma oneWithdrawal_repayable : Repayable oneWithdrawal := by
  intro w wr hwr _
  obtain ⟨-, rfl⟩ := oneWithdrawal_get hwr
  exact ⟨0, newWallet 7, rfl, rfl⟩

def notified (first second : String) : List Action :=
  [.previewWithdrawal 0 none, .claimSubmission 0 (some 1), .finishSubmission 0 (.accepted "P1" "B1" "CREATING"),
    .receiveEvent "P1" "B1" first ⟨none, ""⟩, .resolveEvent 0, .processWebhookEvent 0, .processWebhookEvent 0,
    .receiveEvent "P1" "B1" second ⟨none, ""⟩, .resolveEvent 1]

end Handling

end TrxSimulator.Payouts.Webhooks
