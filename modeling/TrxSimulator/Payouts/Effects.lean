import TrxSimulator.Payouts.Machine

/-! Every step of the payout engine has one of the listed effects. -/

namespace TrxSimulator.Payouts.Effects

open Foundations.Tables Foundations.Outcomes Foundations.Decimals Money Accounts Wallets.Ledger
open Records StateMachine Orchestrator Funded.Payouts Machine

variable {p : Action → Prop} {s s' : Platform}

section Attempts

variable {k : ℕ} {a a' : PayoutAttempt} {wr : WithdrawalRequest} {n : AttemptStatus} {reason raw : String}
  {preSend : Bool} {payload : Payload}

lemma transition_sync {s₁ : Platform} (hwr : s.withdrawals.get a.withdrawalRequest = some wr)
    (hm : transitionPayoutAttempt k a n reason raw preSend s.now = .ok a')
    (hs : syncWithdrawalRequestStatus (s.setAttempt k fun _ => a') a.withdrawalRequest n = .ok s₁) :
    ∃ st, n ∈ allowedTransitions a.status ∧ a' = PayoutAttempt.enter a n reason raw s.now ∧
      deriveWithdrawalStatus n = .ok st ∧
      s₁ = { s with attempts := s.attempts.update k fun _ => a'
                    withdrawals := s.withdrawals.update a.withdrawalRequest fun _ => { wr with status := st } } := by
  obtain ⟨hallowed, -, rfl⟩ := transition_eq_ok.mp hm
  obtain ⟨st, hst, -, rfl⟩ := sync_eq_ok.mp hs
  refine ⟨st, hallowed, rfl, hst, ?_⟩
  simp only [Platform.setWithdrawal, Platform.setAttempt, Table.update_const hwr]

lemma synced_enter {st : WithdrawalStatus} {f : PayoutAttempt → PayoutAttempt}
    {g : WithdrawalRequest → WithdrawalRequest} (hallowed : n ∈ allowedTransitions a.status)
    (hst : deriveWithdrawalStatus n = .ok st)
    (hf : ∀ x, (f x).status = x.status ∧ (f x).withdrawalRequest = x.withdrawalRequest ∧
      (f x).provider = x.provider ∧ (f x).providerReference = x.providerReference ∧
      (f x).providerBatchId = x.providerBatchId)
    (hg : ∀ x, (g x).status = x.status ∧ (g x).user = x.user ∧ (g x).amountUsd = x.amountUsd ∧
      (g x).npPayoutId = x.npPayoutId ∧ (g x).npBatchId = x.npBatchId) (now : ℕ) :
    Synced a (f (PayoutAttempt.enter a n reason raw now)) wr (g { wr with status := st }) := by
  obtain ⟨h₁, h₂, h₃, h₄, h₅⟩ := hf (PayoutAttempt.enter a n reason raw now)
  obtain ⟨g₁, g₂, g₃, g₄, g₅⟩ := hg { wr with status := st }
  exact
    { allowed := by rwa [h₁]
      request := h₂
      provider := h₃
      status := by rwa [h₁, g₁]
      user := g₂
      amountUsd := g₃
      mirror := Or.inl ⟨h₄, h₅, g₄, g₅⟩ }

lemma applyResultWithoutRefund_ok (h : applyResultWithoutRefund s k n reason raw payload = .ok s') :
    s' = s ∨ ∃ a wr st, s.attempts.get k = some a ∧ a.status.terminal = false ∧
      s.withdrawals.get a.withdrawalRequest = some wr ∧ n ∈ allowedTransitions a.status ∧
      deriveWithdrawalStatus n = .ok st ∧ ∃ s₁, s₁ = { s with
        attempts := s.attempts.update k fun _ => PayoutAttempt.enter a n reason raw s.now
        withdrawals := s.withdrawals.update a.withdrawalRequest fun _ => { wr with status := st } } ∧
        s' = if n = .completed then completeAttempt s₁ k a.withdrawalRequest wr payload else s₁ := by
  simp only [applyResultWithoutRefund, bind_eq_ok, lockAttempt, lockWithdrawal, require_eq_ok] at h
  obtain ⟨a, ha, wr, hwr, h⟩ := h
  split at h
  · exact Or.inl (pure_eq_ok.mp h).symm
  · next hopen =>
    simp only [bind_eq_ok, pure_eq_ok] at h
    obtain ⟨a', hm, s₁, hs, rfl⟩ := h
    obtain ⟨st, hallowed, rfl, hst, rfl⟩ := transition_sync hwr hm hs
    exact Or.inr ⟨a, wr, st, ha, by simpa using hopen, hwr, hallowed, hst, _, rfl, rfl⟩

lemma applyResultWithoutRefund_applied (hn : n ≠ .failed)
    (h : applyResultWithoutRefund s k n reason raw payload = .ok s') : Applied s s' := by
  obtain rfl | ⟨a, wr, st, ha, -, hwr, hallowed, hst, s₁, rfl, rfl⟩ := applyResultWithoutRefund_ok h
  · exact .same
  · have hfees : ∀ s : Platform, (completeAttempt s k a.withdrawalRequest wr payload).revenue = s.revenue ∨
        ∃ w amount, (completeAttempt s k a.withdrawalRequest wr payload).revenue =
          bookRevenue s.revenue (.withdrawFee w) amount := by
      intro s
      unfold completeAttempt
      cases wr.feeAmount with
      | none => exact Or.inl rfl
      | some fee => exact Or.inr ⟨_, fee, rfl⟩
    have hkeep : Synced a (PayoutAttempt.enter a n reason raw s.now) wr { wr with status := st } :=
      synced_enter (f := id) (g := id) hallowed hst (fun _ => ⟨rfl, rfl, rfl, rfl, rfl⟩)
        (fun _ => ⟨rfl, rfl, rfl, rfl, rfl⟩) s.now
    split
    · by_cases hempty : payload.amount = none ∧ payload.hash = ""
      · simp only [completeAttempt, if_pos hempty]
        exact .moved k a _ wr _ _ ha hwr hkeep hn (hfees _)
      · simp only [completeAttempt, if_neg hempty, Table.update_update]
        refine .moved k a _ wr _ _ ha hwr (synced_enter
          (f := fun a => { a with confirmedAmount := payload.amount, txHash := payload.hash }) (g := id)
          hallowed hst (fun _ => ⟨rfl, rfl, rfl, rfl, rfl⟩) (fun _ => ⟨rfl, rfl, rfl, rfl, rfl⟩) s.now) hn (hfees _)
    · exact .moved k a _ wr _ _ ha hwr hkeep hn (Or.inl rfl)

lemma applySubmissionSuccess_ok {reference batchId : String}
    (h : applySubmissionSuccess s k reference batchId raw = .ok s') :
    s' = s ∨ ∃ a wr st, s.attempts.get k = some a ∧ a.status.terminal = false ∧
      s.withdrawals.get a.withdrawalRequest = some wr ∧ .processing ∈ allowedTransitions a.status ∧
      deriveWithdrawalStatus .processing = .ok st ∧ s' = { s with
        attempts := s.attempts.update k fun _ => PayoutAttempt.enter
          { a with providerReference := reference, providerBatchId := batchId } .processing "" raw s.now
        withdrawals := s.withdrawals.update a.withdrawalRequest fun _ =>
          { wr with status := st, npBatchId := batchId, npPayoutId := reference, npPayoutStatus := raw,
                    cryptoAmount := a.providerAmount } } := by
  simp only [applySubmissionSuccess, bind_eq_ok, lockAttempt, lockWithdrawal, require_eq_ok] at h
  obtain ⟨a, ha, wr, hwr, h⟩ := h
  split at h
  · exact Or.inl (pure_eq_ok.mp h).symm
  · next hopen =>
    simp only [bind_eq_ok, pure_eq_ok] at h
    obtain ⟨a', hm, s₁, hs, rfl⟩ := h
    obtain ⟨hallowed, -, rfl⟩ := transition_eq_ok.mp hm
    obtain ⟨st, hst, -, rfl⟩ := sync_eq_ok.mp hs
    simp only [Platform.setWithdrawal, Platform.setAttempt, Table.update_update]
    rw [Table.update_const hwr]
    exact Or.inr ⟨a, wr, st, ha, by simpa using hopen, hwr, hallowed, hst, rfl⟩

lemma applySubmissionSuccess_applied {reference batchId : String}
    (h : applySubmissionSuccess s k reference batchId raw = .ok s') : Applied s s' := by
  obtain rfl | ⟨a, wr, st, ha, -, hwr, hallowed, hst, rfl⟩ := applySubmissionSuccess_ok h
  · exact .same
  · refine .moved k a _ wr _ _ ha hwr ?_ (by simp [PayoutAttempt.enter]) (Or.inl rfl)
    exact
      { allowed := hallowed
        request := rfl
        provider := rfl
        status := hst
        user := rfl
        amountUsd := rfl
        mirror := Or.inr ⟨rfl, rfl, rfl⟩ }

lemma applyConfirmedFailureWithRefund_ok {actor : Option ℕ}
    (h : applyConfirmedFailureWithRefund s k reason preSend raw actor = .ok s') :
    s' = s ∨ ∃ a wr st l, s.attempts.get k = some a ∧ a.status.terminal = false ∧
      s.withdrawals.get a.withdrawalRequest = some wr ∧ .failed ∈ allowedTransitions a.status ∧
      deriveWithdrawalStatus .failed = .ok st ∧
      Posted s.ledger l .correction wr.amountUsd.units wr.user (some (.refund k reason)) ∧ s' = { s with
        attempts := s.attempts.update k fun _ => PayoutAttempt.enter a .failed reason raw s.now
        withdrawals := s.withdrawals.update a.withdrawalRequest fun _ =>
          { wr with status := st, npPayoutStatus := if raw = "" then "FAILED" else raw }
        ledger := l } := by
  simp only [applyConfirmedFailureWithRefund, bind_eq_ok, lockAttempt, lockWithdrawal, lockWallet,
    require_eq_ok, Option.map_eq_some_iff] at h
  obtain ⟨a, ha, wr, hwr, w, ⟨⟨i, v⟩, hv, rfl⟩, h⟩ := h
  obtain ⟨hv, huser⟩ := ofUser_some hv
  split at h
  · exact Or.inl (pure_eq_ok.mp h).symm
  · next hopen =>
    simp only [bind_eq_ok, mapError_eq_ok, pure_eq_ok] at h
    obtain ⟨a', hm, s₁, hs, credited, hc, rfl⟩ := h
    obtain ⟨st, hallowed, rfl, hst, rfl⟩ := transition_sync hwr hm hs
    have hposted := posted_credit hv hc
    rw [huser] at hposted
    simp only [Platform.setWithdrawal, Table.update_update]
    exact Or.inr ⟨a, wr, st, credited.1, ha, by simpa using hopen, hwr, hallowed, hst, hposted, rfl⟩

lemma applyConfirmedFailureWithRefund_applied {actor : Option ℕ}
    (h : applyConfirmedFailureWithRefund s k reason preSend raw actor = .ok s') : Applied s s' := by
  obtain rfl | ⟨a, wr, st, l, ha, -, hwr, hallowed, hst, hposted, rfl⟩ := applyConfirmedFailureWithRefund_ok h
  · exact .same
  · refine .refunded k a _ wr _ l reason ha hwr ?_ rfl hposted
    exact synced_enter (f := id)
      (g := fun wr => { wr with npPayoutStatus := if raw = "" then "FAILED" else raw })
      hallowed hst (fun _ => ⟨rfl, rfl, rfl, rfl, rfl⟩) (fun _ => ⟨rfl, rfl, rfl, rfl, rfl⟩) s.now

lemma applySubmission_applied {actor : Option ℕ} {result : SubmissionResult}
    (h : applySubmission s k actor result = .ok s') : Applied s s' := by
  cases result with
  | accepted reference batchId raw => exact applySubmissionSuccess_applied h
  | authError reason => exact applyConfirmedFailureWithRefund_applied h
  | providerError reason => exact applyResultWithoutRefund_applied (by decide) h

lemma applyAttemptWebhook_applied {event : ProviderPayoutEvent} {n : Normalized}
    (h : applyAttemptWebhook s k event n = .ok s') : Applied s s' := by
  cases n with
  | processing => exact applyResultWithoutRefund_applied (by decide) h
  | completed => exact applyResultWithoutRefund_applied (by decide) h
  | failed => exact applyConfirmedFailureWithRefund_applied h

lemma applyLookupOutcome_applied {outcome : LookupOutcome × String × Payload}
    (h : applyLookupOutcome s k a outcome = .ok s') : Applied s s' := by
  obtain ⟨outcome, raw, payload⟩ := outcome
  cases outcome with
  | foundProcessing =>
    simp only [applyLookupOutcome] at h
    split at h
    · cases h
      exact .same
    · exact applyResultWithoutRefund_applied (by decide) h
  | foundCompleted => exact applyResultWithoutRefund_applied (by decide) h
  | foundFailed => exact applyConfirmedFailureWithRefund_applied h
  | notFound | unavailable | ambiguous | unsupported =>
    cases h
    exact .same

lemma reconcileAttempt_applied {answer : LookupAnswer} {scan : Scan}
    (h : reconcileAttempt s k answer scan = .ok s') : Applied s s' := by
  cases scan with
  | aged => exact applyResultWithoutRefund_applied (by decide) h
  | unknown | processing =>
    simp only [reconcileAttempt, bind_eq_ok] at h
    obtain ⟨a, -, h⟩ := h
    exact applyLookupOutcome_applied h

end Attempts

section Submissions

variable {submission : ℕ}

lemma effect_setSubmission (stage : SubmissionStage) :
    Effect p s (Orchestrator.Platform.setSubmission s submission stage) :=
  effect_submissions _

/-- A claim moves a pending withdrawal to its first attempt. -/
structure Claim (w : ℕ) (wr wr' : WithdrawalRequest) (a : PayoutAttempt) : Prop where
  pending : wr.status = .pending
  user : wr'.user = wr.user
  amountUsd : wr'.amountUsd = wr.amountUsd
  processing : wr'.status = .processing
  ids : wr'.npPayoutId = wr.npPayoutId ∧ wr'.npBatchId = wr.npBatchId
  request : a.withdrawalRequest = w
  provider : a.provider = providerName
  submitted : a.status = .submitted
  references : a.providerReference = "" ∧ a.providerBatchId = ""

lemma claimWithdrawal_eq_ok {w k : ℕ} {basis : Balance} {actor : Option ℕ} {amount : ℚ}
    (h : claimWithdrawal s w basis actor amount = .ok (s', k)) :
    ∃ wr wr' a, s.withdrawals.get w = some wr ∧ wr.status = .pending ∧
      wr' = { wr with reviewedBy := actor, status := .processing } ∧
      a = { newAttempt s w { wr with reviewedBy := actor } providerName basis actor with
            providerAmount := some amount } ∧
      s' = { s with attempts := s.attempts.insert a, withdrawals := s.withdrawals.update w fun _ => wr' } := by
  simp only [claimWithdrawal, bind_eq_ok, lockWithdrawal, require_eq_ok, guard_eq_ok, ne_eq, not_not] at h
  obtain ⟨wr, hwr, hpending, ⟨s₁, k₁⟩, hcreated, h⟩ := h
  simp only [createAndSubmitPayoutAttempt, bind_eq_ok, lockWithdrawal, require_eq_ok] at hcreated
  obtain ⟨wr₁, hwr₁, hcreated⟩ := hcreated
  split at hcreated
  · cases hcreated
  · simp only [bind_eq_ok, pure_eq_ok, Prod.mk.injEq] at hcreated h
    obtain ⟨s₂, hs₂, rfl, rfl⟩ := hcreated
    obtain ⟨st, hst, -, rfl⟩ := sync_eq_ok.mp hs₂
    cases hst
    obtain ⟨rfl, rfl⟩ := h
    obtain rfl : { wr with reviewedBy := actor } = wr₁ :=
      Option.some.inj ((Table.get_update_self hwr _).symm.trans hwr₁)
    simp only [Platform.setWithdrawal, Platform.setAttempt, Table.update_update, Table.update_insert_next]
    rw [Table.update_const hwr]
    exact ⟨wr, _, _, hwr, hpending, rfl, rfl, rfl⟩

lemma claimWithdrawal_ok {w k : ℕ} {basis : Balance} {actor : Option ℕ} {amount : ℚ}
    (h : claimWithdrawal s w basis actor amount = .ok (s', k)) :
    ∃ wr wr' a, s.withdrawals.get w = some wr ∧ Claim w wr wr' a ∧
      s' = { s with attempts := s.attempts.insert a, withdrawals := s.withdrawals.update w fun _ => wr' } := by
  obtain ⟨wr, wr', a, hwr, hpending, rfl, rfl, rfl⟩ := claimWithdrawal_eq_ok h
  refine ⟨wr, _, _, hwr, ?_, rfl⟩
  exact ⟨hpending, rfl, rfl, rfl, ⟨rfl, rfl⟩, rfl, rfl, rfl, ⟨rfl, rfl⟩⟩

lemma claimWithdrawal_effect {w k : ℕ} {basis : Balance} {actor : Option ℕ} {amount : ℚ}
    {submissions : Table Submission} (h : claimWithdrawal s w basis actor amount = .ok (s', k)) :
    Effect p s { s' with submissions := submissions } := by
  obtain ⟨wr, wr', a, hwr, hclaim, rfl⟩ := claimWithdrawal_ok h
  exact .claimed w wr wr' a submissions hwr hclaim.pending hclaim.user hclaim.amountUsd hclaim.processing
    hclaim.ids hclaim.request hclaim.provider hclaim.submitted hclaim.references

lemma claimSubmission_effect (estimate : Option ℚ) : Effect p s (claimSubmission s submission estimate) := by
  unfold claimSubmission
  split
  · split
    · exact effect_setSubmission _
    · split
      · next r hok =>
          obtain ⟨s', k⟩ := r
          exact claimWithdrawal_effect hok
      · exact effect_setSubmission _
  · exact effect_refl s

lemma finishSubmission_effect (result : SubmissionResult) : Effect p s (finishSubmission s submission result) := by
  unfold finishSubmission
  split
  · split
    · next s' hok =>
      have happlied := applySubmission_applied hok
      exact .applied _ s'.handlers s'.reconciliations happlied (happlied.frame.1 ▸ Advances.refl _)
    · exact effect_setSubmission _
  · exact effect_refl s

lemma previewWithdrawal_effect {w : ℕ} {actor : Option ℕ} (h : previewWithdrawal s w actor = .ok s') :
    Effect p s s' := by
  simp only [previewWithdrawal, bind_eq_ok, lockWithdrawal, require_eq_ok, guard_eq_ok, pure_eq_ok] at h
  obtain ⟨wr, -, -, rfl⟩ := h
  exact effect_submissions _

end Submissions

section Events

variable {event : ProviderPayoutEvent} {n : Normalized} {w : ℕ} {handlers : Table Handler}

lemma receiveEvent_effect (reference batchId raw : String) (payload : Payload) :
    Effect p s (receiveEvent s reference batchId raw payload) := by
  unfold receiveEvent
  simp only
  split
  · exact effect_refl s
  · refine .quiet s.submissions _ s.handlers s.reconciliations s.drafts s.now ?_ (Advances.refl _)
      fun _ _ h => h
    intro e row hrow
    rcases Table.get_insert_some hrow with hrow | ⟨-, rfl⟩
    · exact Or.inr ⟨row, hrow, rfl⟩
    · exact Or.inl rfl

lemma resolveEvent_effect (e : ℕ) : Effect p s (resolveEvent s e) := by
  unfold resolveEvent
  split
  · exact effect_refl s
  · next row hrow =>
    split
    · exact effect_refl s
    · have hunmatched : ∀ error bump, Effect p s
          { s with handlers := s.handlers.insert ⟨e, .unresolved error bump⟩ } := fun error bump =>
        effect_handlers _ (advances_insert fun _ h => nomatch h)
      have hmatched : ∀ target, resolvePayoutTarget s row.event = target → Effect p s
          { s with handlers := s.handlers.insert ⟨e, .matched target⟩ } := by
        rintro _ rfl
        exact .resolved e row hrow
      cases htarget : resolvePayoutTarget s row.event with
      | ambiguous reason | integrityViolation reason | orphan reason => exact hunmatched _ _
      | attempt pk | funded withdrawal | legacy withdrawal =>
        simp only [stageOf]
        split
        · exact hunmatched _ _
        · exact hmatched _ htarget

lemma unresolvedEvent_event (now : ℕ) (error : String) (bump : Bool) (row : PayoutWebhookEvent) :
    (unresolvedEvent now error bump row).event = row.event := by
  unfold unresolvedEvent
  split
  · rfl
  · split <;> rfl

lemma resolvedEvent_event (attempt : Option ℕ) (row : PayoutWebhookEvent) :
    (resolvedEvent attempt row).event = row.event := by
  unfold resolvedEvent
  split <;> rfl

lemma effect_setEvent {e h : ℕ} {f : PayoutWebhookEvent → PayoutWebhookEvent} (hf : ∀ row, (f row).event = row.event) :
    Effect p s (Orchestrator.Platform.setHandler (Orchestrator.Platform.setEvent s e f) h .finished) := by
  refine .quiet s.submissions _ _ s.reconciliations s.drafts s.now ?_
    (advances_update h fun _ h => nomatch h) fun _ _ h => h
  intro i row hrow
  obtain ⟨row₀, hrow₀, rfl⟩ := Table.get_update_some hrow
  refine Or.inr ⟨row₀, hrow₀, ?_⟩
  split
  · exact hf row₀
  · rfl

lemma handleInternalPayoutWebhook_eq_ok {r : ℕ} {payoutId : String} {f : FundedPayoutRequest}
    (hf : s.fundedPayouts.get r = some f) (h : handleInternalPayoutWebhook s r n payoutId = .ok s') :
    (s' = s ∧ (f.status.terminal = true ∨ n = .processing)) ∨
    (f.status.terminal = false ∧ ∃ account, s.accounts.get f.fundedAccount = some account ∧
      ((n = .completed ∧ s' = { s with
          accounts := s.accounts.update f.fundedAccount fun a => { a with initialBalance := some account.balance }
          fundedPayouts := s.fundedPayouts.update r completeFunded
          revenue := bookRevenue s.revenue (.fundedProfitShare r) f.brokerCut }) ∨
       (n = .failed ∧ ∃ restored : Balance,
          restored.units = account.balance.units + f.traderCut.units ∧ s' = { s with
          accounts := s.accounts.update f.fundedAccount (setBalance restored)
          entries := s.entries.insert (reversalEntry r f.fundedAccount f.traderCut restored
            (some payoutId) "NowPayments payout FAILED")
          fundedPayouts := s.fundedPayouts.update r failFunded }))) := by
  simp only [handleInternalPayoutWebhook, bind_eq_ok, lockFunded, require_eq_ok, hf, Option.some.injEq,
    exists_eq_left'] at h
  split at h
  · next hterminal => exact Or.inl ⟨(pure_eq_ok.mp h).symm, Or.inl hterminal⟩
  · next hactive =>
    rw [Bool.not_eq_true] at hactive
    cases n with
    | processing => exact Or.inl ⟨(pure_eq_ok.mp h).symm, Or.inr rfl⟩
    | completed =>
      simp only [bind_eq_ok, lockAccount, require_eq_ok, pure_eq_ok] at h
      obtain ⟨account, haccount, rfl⟩ := h
      exact Or.inr ⟨hactive, account, haccount, Or.inl ⟨rfl, rfl⟩⟩
    | failed =>
      simp only [bind_eq_ok, lockAccount, require_eq_ok, pure_eq_ok, cents_eq_ok] at h
      obtain ⟨account, haccount, restored, hrestored, rfl⟩ := h
      exact Or.inr ⟨hactive, account, haccount, Or.inr ⟨rfl, restored, hrestored.symm, rfl⟩⟩

lemma applyFundedInternalWebhook_effect (hmatched : ∃ h e, s.handlers.get h = some ⟨e, .matched (.funded w)⟩)
    (h : applyFundedInternalWebhook s w event n = .ok s') : s'.handlers = s.handlers ∧
      ∀ handlers, Advances s.handlers handlers → Effect p s { s' with handlers := handlers } := by
  simp only [applyFundedInternalWebhook, bind_eq_ok, lockWithdrawal, require_eq_ok] at h
  obtain ⟨wr, hwr, h⟩ := h
  split at h
  · rw [← pure_eq_ok.mp h]
    exact ⟨rfl, fun handlers hadvances => effect_handlers handlers hadvances⟩
  · next hrunning =>
    rw [Bool.not_eq_true] at hrunning
    simp only [bind_eq_ok, require_eq_ok, Option.map_eq_some_iff, pure_eq_ok] at h
    obtain ⟨_, ⟨⟨r, f⟩, hlatest, rfl⟩, s₁, hwebhook, rfl⟩ := h
    obtain ⟨hf, hlink⟩ := Table.latest_some hlatest
    have hcalled : Called s w r wr f := ⟨hmatched, hwr, hrunning, hf, of_decide_eq_true hlink⟩
    rcases handleInternalPayoutWebhook_eq_ok hf hwebhook with ⟨rfl, hidle⟩ |
      ⟨hactive, account, haccount, ⟨rfl, rfl⟩ | ⟨rfl, restored, hrestored, rfl⟩⟩
    · exact ⟨rfl, fun handlers hadvances => .fundedMarked w r wr f event n handlers hcalled hidle hadvances⟩
    · exact ⟨rfl, fun handlers hadvances =>
        .fundedCompleted w r wr f account event _ handlers hcalled hactive haccount hadvances rfl⟩
    · exact ⟨rfl, fun handlers hadvances =>
        .fundedFailed w r wr f account restored event _ handlers hcalled hactive haccount hrestored hadvances
          ⟨_, _, rfl⟩⟩

lemma applyLegacyWithdrawalWebhook_effect {i e : ℕ} (hmatched : s.handlers.get i = some ⟨e, .matched (.legacy w)⟩)
    (h : applyLegacyWithdrawalWebhook s w event n = .ok s') : s'.handlers = s.handlers ∧
      ∀ handlers, Advances s.handlers handlers → Effect p s { s' with handlers := handlers } := by
  simp only [applyLegacyWithdrawalWebhook, bind_eq_ok, lockWithdrawal, require_eq_ok] at h
  obtain ⟨wr, hwr, h⟩ := h
  split at h
  · rw [← pure_eq_ok.mp h]
    exact ⟨rfl, fun handlers hadvances => effect_handlers handlers hadvances⟩
  · split at h
    · simp only [bind_eq_ok, lockWallet, require_eq_ok, Option.map_eq_some_iff, mapError_eq_ok, pure_eq_ok] at h
      obtain ⟨_, ⟨⟨walletId, v⟩, hv, rfl⟩, credited, hc, rfl⟩ := h
      obtain ⟨hv, huser⟩ := ofUser_some hv
      have hposted := posted_credit hv hc
      rw [huser] at hposted
      exact ⟨rfl, fun handlers hadvances =>
        .legacy i e w wr event n credited.1 handlers hmatched hwr (Or.inr ⟨_, hposted⟩) hadvances⟩
    · rw [← pure_eq_ok.mp h]
      exact ⟨rfl, fun handlers hadvances =>
        .legacy i e w wr event n s.ledger handlers hmatched hwr (Or.inl rfl) hadvances⟩

lemma processWebhookEvent_effect (i : ℕ) : Effect p s (processWebhookEvent s i) := by
  unfold processWebhookEvent
  have hraised : ∀ error, Effect p s (Orchestrator.Platform.setHandler s i (.raised error)) := fun error =>
    effect_handlers _ (advances_update i fun _ h => nomatch h)
  split
  · exact effect_setEvent fun row => unresolvedEvent_event _ _ _ row
  · next e target hget =>
    split
    · exact effect_refl s
    · next event n _ =>
      split
      · next s' attempt hok =>
        have happlied : ∀ s', s'.handlers = s.handlers →
            (∀ handlers, Advances s.handlers handlers → Effect p s { s' with handlers := handlers }) →
            Effect p s (Orchestrator.Platform.setHandler s' i (.applied attempt)) := by
          intro s' hframe heffect
          refine heffect _ ?_
          rw [hframe]
          exact advances_update i fun _ h => nomatch h
        cases target with
        | attempt pk =>
          obtain ⟨s₁, happly, hpair⟩ := map_eq_ok.mp hok
          cases hpair
          have hattempt := applyAttemptWebhook_applied happly
          exact happlied s' hattempt.frame.1 fun handlers hadvances =>
            .applied s'.submissions handlers s'.reconciliations hattempt hadvances
        | funded withdrawal =>
          obtain ⟨s₁, happly, hpair⟩ := map_eq_ok.mp hok
          cases hpair
          obtain ⟨hframe, heffect⟩ := applyFundedInternalWebhook_effect ⟨i, e, hget⟩ happly
          exact happlied s' hframe heffect
        | legacy withdrawal =>
          obtain ⟨s₁, happly, hpair⟩ := map_eq_ok.mp hok
          cases hpair
          obtain ⟨hframe, heffect⟩ := applyLegacyWithdrawalWebhook_effect hget happly
          exact happlied s' hframe heffect
        | ambiguous reason | integrityViolation reason | orphan reason =>
          cases hok
          exact happlied s rfl fun handlers hadvances => effect_handlers handlers hadvances
      · exact hraised _
  · exact effect_setEvent fun row => resolvedEvent_event _ row
  · exact effect_refl s

lemma effect_reconciliations (reconciliations : Table (Option Records.Reconciliation)) :
    Effect p s { s with reconciliations := reconciliations } :=
  .quiet s.submissions s.events s.handlers reconciliations s.drafts s.now
    (fun _ row h => Or.inr ⟨row, h, rfl⟩) (Advances.refl _) fun _ _ h => h

lemma scanAttempt_effect (k : ℕ) (scan : Scan) : Effect p s (scanAttempt s k scan) := by
  unfold scanAttempt
  split
  · split
    · exact effect_reconciliations _
    · exact effect_refl s
  · exact effect_refl s

lemma finishReconciliation_effect (i : ℕ) (answer : LookupAnswer) :
    Effect p s (finishReconciliation s i answer) := by
  unfold finishReconciliation
  split
  · exact effect_refl s
  · next x _ =>
    simp only
    refine commit_rule _ _ ?_ fun s' hok => ?_
    · exact effect_reconciliations _
    · obtain ⟨happlied, hhandlers, -, -⟩ := (reconcileAttempt_applied hok).reconciliations
      have hadvances : Advances s.handlers s'.handlers := hhandlers ▸ Advances.refl _
      have happly : Effect p s _ := .applied s'.submissions s'.handlers s'.reconciliations happlied hadvances
      exact happly

end Events

section Funded

variable {r i : ℕ}

lemma debitFunded_eq_ok {f : FundedPayoutRequest} {balance : Balance} (h : debitFunded s f = .ok balance) :
    ∃ account, s.accounts.get f.fundedAccount = some account ∧
      balance.units = account.balance.units - f.traderCut.units := by
  simp only [debitFunded, bind_eq_ok, lockAccount, require_eq_ok, guard_eq_ok, cents_eq_ok] at h
  obtain ⟨account, haccount, -, hbalance⟩ := h
  exact ⟨account, haccount, hbalance.symm⟩

lemma approveSimPayout_effect {adminUser : ℕ} (h : approveSimPayout s r adminUser = .ok s') : Effect p s s' := by
  simp only [approveSimPayout, bind_eq_ok, lockFunded, require_eq_ok, guard_eq_ok, ne_eq, not_not,
    mapError_eq_ok, pure_eq_ok] at h
  obtain ⟨f, hf, hpending, hkind, balance, hbalance, credited, hc, rfl⟩ := h
  obtain ⟨account, haccount, hamount⟩ := debitFunded_eq_ok hbalance
  obtain ⟨v, hv, huser⟩ := getOrCreateWallet_get s.ledger f.user
  have hopened := carried_openWallet s.ledger f.user
  have hposted := posted_credit hv hc
  rw [huser] at hposted
  rw [Table.update_const hf]
  refine .simApproved r f _ account balance credited.1 _ _ hf hpending haccount hamount rfl ?_ hkind rfl rfl
  obtain ⟨row, hrow⟩ := hposted.row
  rw [openWallet_transactions] at hrow
  exact ⟨hopened.trans hposted.carried, row, hrow⟩

lemma approveInternalPayout_effect {adminUser : ℕ} (h : approveInternalPayout s r adminUser = .ok s') :
    Effect p s s' := by
  simp only [approveInternalPayout, bind_eq_ok, lockFunded, require_eq_ok, guard_eq_ok, ne_eq, not_not,
    pure_eq_ok] at h
  obtain ⟨f, hf, hpending, hkind, -, balance, hbalance, rfl⟩ := h
  obtain ⟨account, haccount, hamount⟩ := debitFunded_eq_ok hbalance
  rw [Table.update_const hf]
  exact .internalApproved r adminUser f _ account balance _ hf hpending haccount hamount rfl hkind rfl

lemma effect_setInternal {x : Internal} {stage : InternalStage} (hx : s.internals.get i = some x)
    (hprogress : stage = .finished ∨
      (x.stage = .claimed ∧ ∃ batchId payoutId raw amount, stage = .accepted batchId payoutId raw amount)) :
    Effect p s (Funded.Payouts.Platform.setInternal s i stage) := by
  have hnote := Effect.noted i x stage FundedPayoutRequest.adminNote hx hprogress (p := p)
  have hsame : s.fundedPayouts.update x.request (fun f => { f with adminNote := f.adminNote }) = s.fundedPayouts :=
    Table.update_id _ _
  rw [hsame] at hnote
  exact hnote

lemma effect_markAmbiguous {x : Internal} (hx : s.internals.get i = some x) (reason batchId payoutId : String) :
    Effect p s (Funded.Payouts.Platform.setInternal (markAmbiguous s x.request reason batchId payoutId) i .finished) :=
  .noted i x .finished _ hx (Or.inl rfl)

lemma reverseAndFail_effect {x : Internal} (reason : String) (hx : s.internals.get i = some x)
    (hclaimed : x.stage = .claimed) :
    Effect p s (Funded.Payouts.Platform.setInternal (commit s (reverseAndFail s x reason)) i .finished) := by
  refine commit_rule _ _ ?_ fun s' hok => ?_
  · exact effect_setInternal hx (Or.inl rfl)
  · simp only [reverseAndFail, bind_eq_ok, lockAccount, require_eq_ok, cents_eq_ok, pure_eq_ok] at hok
    obtain ⟨account, haccount, restored, hrestored, rfl⟩ := hok
    exact .reversed i x account restored _ hx hclaimed haccount hrestored.symm ⟨_, _, rfl⟩

lemma submitInternal_effect (answer : InternalAnswer) : Effect p s (submitInternal s i answer) := by
  unfold submitInternal
  split
  · next r w account cut hx =>
    cases answer with
    | estimateFailed reason | authFailed reason => exact reverseAndFail_effect _ hx rfl
    | postFailed reason | unparseable reason => exact effect_markAmbiguous hx _ _ _
    | accepted batchId payoutId raw amount =>
      exact effect_setInternal hx (Or.inr ⟨rfl, batchId, payoutId, raw, amount, rfl⟩)
  · exact effect_refl s

lemma recordWithdrawal_effect : Effect p s (recordWithdrawal s i) := by
  unfold recordWithdrawal
  split
  · next r w account cut batchId payoutId raw amount hx => exact .recorded i _ batchId payoutId raw amount hx rfl
  · exact effect_refl s

lemma recordRequest_effect (hp : p (.recordRequest i)) : Effect p s (recordRequest s i) := by
  unfold recordRequest
  split
  · next r w account cut batchId payoutId hx =>
    split
    · exact effect_setInternal hx (Or.inl rfl)
    · next f hf =>
      split
      · exact effect_markAmbiguous hx _ _ _
      · next hsingle => exact .requested i _ f batchId payoutId hx rfl hf (by simpa using hsingle) hp
  · exact effect_refl s

lemma readFundedPayout_eq_ok {user enrollment : ℕ} {visit : Visit} {d : Draft}
    (h : readFundedPayout s user enrollment visit = .ok d) :
    ∃ e k account config, s.enrollments.get enrollment = some e ∧ e.fundedAccount = some k ∧
      e.fundedConfig = some config ∧ s.accounts.get k = some account ∧
      d = newDraft user enrollment k account config visit := by
  simp only [readFundedPayout, bind_eq_ok, require_eq_ok, guard_eq_ok, lockAccount, pure_eq_ok] at h
  obtain ⟨e, he, -, -, -, k, hk, config, hconfig, -, -, -, -, -, -, -, -, account, haccount, -, -, -, -, -, rfl⟩ := h
  exact ⟨e, k, account, config, he, hk, hconfig, haccount, rfl⟩

lemma insertFundedPayout_effect (d : ℕ) (hp : p (.createFundedPayout d)) : Effect p s (insertFundedPayout s d) := by
  unfold insertFundedPayout
  have hdropped : Effect p s { s with drafts := s.drafts.update d fun _ => none } := by
    refine effect_drafts _ fun j draft hj => ?_
    obtain ⟨x, hx, heq⟩ := Table.get_update_some hj
    split at heq
    · cases heq
    · rw [hx, heq]
  split
  · exact effect_refl s
  · next draft hdraft =>
    have hfound : s.drafts.get d = some (some draft) := by
      cases hget : s.drafts.get d with
      | none => simp [hget] at hdraft
      | some x => simpa [hget] using hdraft
    simp only
    refine commit_rule _ _ ?_ fun s' hok => ?_
    · exact hdropped
    · simp only [createFundedPayout, bind_eq_ok, guard_eq_ok, cents_eq_ok, pure_eq_ok] at hok
      obtain ⟨-, -, -, profit, hprofit, trader, htrader, broker, -, hsingle, rfl⟩ := hok
      rw [Bool.not_eq_true] at hsingle
      exact .created d draft _ hfound hsingle hp rfl rfl hprofit.symm htrader.symm rfl rfl rfl

end Funded

section Steps

lemma realizePnl_effect {k : ℕ} {profit : ℤ} (hp : p (.trade k profit)) (h : realizePnl s k profit = .ok s') :
    Effect p s s' := by
  simp only [realizePnl, bind_eq_ok, lockAccount, require_eq_ok, cents_eq_ok, pure_eq_ok] at h
  obtain ⟨account, haccount, balance, hbalance, amount, rfl, rfl⟩ := h
  exact .traded k account balance _ haccount ⟨_, hp⟩ ⟨_, rfl, rfl, rfl, hbalance.symm⟩

lemma credit_effect {w : ℕ} {n : ℤ} {t : TxType} {text : String} {r : WalletLedger PayoutNote × ℕ}
    (h : creditWallet s.ledger w (scaled 2 n) t { note := some (.other text) } = .ok r) :
    Effect p s (setLedger s r.1) := by
  obtain ⟨wallet, balance, amount, -, hw, hamount, hbalance, rfl⟩ := creditWallet_cents.mp h
  refine .wallet _ (carried_post hw (by rw [hbalance, hamount])) fun i row hrow => ?_
  rcases Table.get_insert_some hrow with hrow | ⟨-, rfl⟩
  · exact Or.inl hrow
  · exact Or.inr ⟨text, rfl⟩

lemma debit_effect {w : ℕ} {n : ℤ} {t : TxType} {text : String} {r : WalletLedger PayoutNote × ℕ}
    (h : debitWallet s.ledger w (scaled 2 n) t { note := some (.other text) } = .ok r) :
    Effect p s (setLedger s r.1) := by
  obtain ⟨wallet, balance, amount, -, hw, -, hamount, hbalance, rfl⟩ := debitWallet_cents.mp h
  refine .wallet _ (carried_post hw (by rw [hbalance, hamount]; ring)) fun i row hrow => ?_
  rcases Table.get_insert_some hrow with hrow | ⟨-, rfl⟩
  · exact Or.inl hrow
  · exact Or.inr ⟨text, rfl⟩

lemma step_effect (s : Platform) (action : Action) (hp : p action) :
    Effect p s (step s action) := by
  cases action with
  | previewWithdrawal w actor => exact effect_commit fun s' h => previewWithdrawal_effect h
  | claimSubmission submission estimate => exact claimSubmission_effect estimate
  | finishSubmission submission result => exact finishSubmission_effect result
  | receiveEvent reference batchId raw payload => exact receiveEvent_effect reference batchId raw payload
  | resolveEvent e => exact resolveEvent_effect e
  | processWebhookEvent i => exact processWebhookEvent_effect i
  | scanAttempt k scan => exact scanAttempt_effect k scan
  | finishReconciliation i answer => exact finishReconciliation_effect i answer
  | approveSimPayout r adminUser => exact effect_commit fun s' h => approveSimPayout_effect h
  | approveInternalPayout r adminUser => exact effect_commit fun s' h => approveInternalPayout_effect h
  | submitInternal i answer => exact submitInternal_effect answer
  | recordWithdrawal i => exact recordWithdrawal_effect
  | recordRequest i => exact recordRequest_effect hp
  | readFundedPayout user enrollment visit =>
    refine effect_commit fun s' h => ?_
    obtain ⟨d, hd, rfl⟩ := map_eq_ok.mp h
    obtain ⟨e, k, account, config, he, hk, hconfig, haccount, rfl⟩ := readFundedPayout_eq_ok hd
    exact .read user enrollment k e account config visit he hk hconfig haccount
  | createFundedPayout d => exact insertFundedPayout_effect d hp
  | trade k profit => exact effect_commit fun s' h => realizePnl_effect hp h
  | credit w n t text =>
    refine effect_commit fun s' h => ?_
    obtain ⟨r, hr, rfl⟩ := map_eq_ok.mp h
    exact credit_effect hr
  | debit w n t text =>
    refine effect_commit fun s' h => ?_
    obtain ⟨r, hr, rfl⟩ := map_eq_ok.mp h
    exact debit_effect hr
  | openWallet user =>
    refine .wallet _ (carried_openWallet s.ledger user) fun i row hrow => Or.inl ?_
    rwa [openWallet_transactions] at hrow
  | wait seconds =>
    exact .quiet s.submissions s.events s.handlers s.reconciliations s.drafts _
      (fun _ row h => Or.inr ⟨row, h, rfl⟩) (Advances.refl _) fun _ _ h => h

end Steps

end TrxSimulator.Payouts.Effects
