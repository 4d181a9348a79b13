import TrxSimulator.Payouts.Records

/-! The state machine of payout attempts, and the only way an attempt is created. -/

namespace TrxSimulator.Payouts.StateMachine

open Foundations.Tables Foundations.Outcomes Accounts Records

def allowedTransitions : AttemptStatus → List AttemptStatus
  | .created => [.submitted]
  | .submitted => [.processing, .unknown, .failed]
  | .processing => [.completed, .failed]
  | .unknown => [.processing, .completed, .failed]
  | .completed => []
  | .failed => []

def PayoutAttempt.enter (attempt : PayoutAttempt) (newStatus : AttemptStatus)
    (reason rawProviderStatus : String) (now : ℕ) : PayoutAttempt :=
  { attempt with
    status := newStatus
    lastError := if reason = "" then attempt.lastError else reason
    rawProviderStatus := if rawProviderStatus = "" then attempt.rawProviderStatus else rawProviderStatus
    updatedAt := now }

def transitionPayoutAttempt (pk : ℕ) (attempt : PayoutAttempt) (newStatus : AttemptStatus)
    (reason rawProviderStatus : String) (preSendRejection : Bool) (now : ℕ) :
    Except PayoutError PayoutAttempt :=
  if newStatus ∉ allowedTransitions attempt.status then
    .error (.invalidTransition pk attempt.status newStatus)
  else if attempt.status = .submitted ∧ newStatus = .failed ∧ preSendRejection = false then
    .error (.preSendRejectionRequired pk)
  else .ok (PayoutAttempt.enter attempt newStatus reason rawProviderStatus now)

def isSubmittedAged (attempt : PayoutAttempt) (thresholdSeconds now : ℕ) : Bool :=
  attempt.status = .submitted ∧ (attempt.submittedAt.any fun t => t + thresholdSeconds ≤ now) = true

def deriveWithdrawalStatus : AttemptStatus → Except PayoutError WithdrawalStatus
  | .submitted => .ok .processing
  | .processing => .ok .processing
  | .unknown => .ok .processing
  | .completed => .ok .completed
  | .failed => .ok .failed
  | .created => .error (.noStatusMapping .created)

def syncWithdrawalRequestStatus (s : Platform) (withdrawal : ℕ) (attemptStatus : AttemptStatus) :
    Except PayoutError Platform := do
  let newStatus ← deriveWithdrawalStatus attemptStatus
  let _ ← lockWithdrawal s withdrawal
  pure (s.setWithdrawal withdrawal fun wr => { wr with status := newStatus })

def nextAttemptNumber (s : Platform) (withdrawal : ℕ) : ℕ :=
  match (s.attempts.rows.filter fun r => r.2.withdrawalRequest = withdrawal).map
      (fun r => r.2.attemptNumber) |>.max? with
  | some n => n + 1
  | none => 1

def makeIdempotencyKey (withdrawal attemptNumber : ℕ) : String :=
  "moneybroker-wr" ++ toString withdrawal ++ "-attempt" ++ toString attemptNumber

def newAttempt (s : Platform) (withdrawal : ℕ) (wr : WithdrawalRequest) (provider : String)
    (requestedAmountUsd : Balance) (actor : Option ℕ) : PayoutAttempt where
  withdrawalRequest := withdrawal
  provider := provider
  attemptNumber := nextAttemptNumber s withdrawal
  idempotencyKey := makeIdempotencyKey withdrawal (nextAttemptNumber s withdrawal)
  providerRequestId := makeIdempotencyKey withdrawal (nextAttemptNumber s withdrawal)
  providerReference := ""
  providerBatchId := ""
  requestedAmountUsd := requestedAmountUsd
  requestedAsset := wr.cryptoCurrency
  destinationAddress := wr.walletAddress
  providerAmount := none
  confirmedAmount := none
  txHash := ""
  status := .submitted
  lastError := ""
  rawProviderStatus := ""
  submittedAt := some s.now
  updatedAt := s.now
  submittedBy := actor

def createAndSubmitPayoutAttempt (s : Platform) (withdrawal : ℕ) (provider : String)
    (requestedAmountUsd : Balance) (actor : Option ℕ) : Except PayoutError (Platform × ℕ) := do
  let wr ← lockWithdrawal s withdrawal
  if s.attempts.exists? (fun a => a.withdrawalRequest = withdrawal ∧ a.status.terminal = false) = true then
    .error (.activePayoutAttemptExists withdrawal)
  else do
    let s' ← syncWithdrawalRequestStatus
      { s with attempts := s.attempts.insert (newAttempt s withdrawal wr provider requestedAmountUsd actor) }
      withdrawal .submitted
    pure (s', s.attempts.next)

section Transitions

variable {pk now : ℕ} {attempt attempt' : PayoutAttempt} {newStatus : AttemptStatus}
  {reason raw : String} {preSend : Bool}

lemma transition_eq_ok :
    transitionPayoutAttempt pk attempt newStatus reason raw preSend now = .ok attempt' ↔
      newStatus ∈ allowedTransitions attempt.status ∧
      ¬ (attempt.status = .submitted ∧ newStatus = .failed ∧ preSend = false) ∧
      PayoutAttempt.enter attempt newStatus reason raw now = attempt' := by
  simp only [transitionPayoutAttempt, guard_eq_ok, not_not, Except.ok.injEq]

lemma not_allowed_of_terminal {a b : AttemptStatus} (h : a.terminal = true) : b ∉ allowedTransitions a := by
  cases a <;> simp_all [AttemptStatus.terminal, allowedTransitions]

/-- No attempt ever goes back to its creation, so the derived status of a new one is defined. -/
lemma derive_of_allowed {a b : AttemptStatus} (h : b ∈ allowedTransitions a) :
    ∃ w, deriveWithdrawalStatus b = .ok w ∧ w ≠ .pending := by
  cases a <;> cases b <;> simp_all [allowedTransitions, deriveWithdrawalStatus]

lemma sync_eq_ok {s s' : Platform} {withdrawal : ℕ} {status : AttemptStatus} :
    syncWithdrawalRequestStatus s withdrawal status = .ok s' ↔
      ∃ w, deriveWithdrawalStatus status = .ok w ∧ (∃ wr, s.withdrawals.get withdrawal = some wr) ∧
        s.setWithdrawal withdrawal (fun wr => { wr with status := w }) = s' := by
  simp only [syncWithdrawalRequestStatus, bind_eq_ok, lockWithdrawal, require_eq_ok, pure_eq_ok,
    exists_and_right]

end Transitions

end TrxSimulator.Payouts.StateMachine
