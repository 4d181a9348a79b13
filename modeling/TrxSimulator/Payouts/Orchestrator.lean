import TrxSimulator.Payouts.StateMachine
import TrxSimulator.Funded.Payouts

/-! The payout orchestrator: submission of a withdrawal in two transactions around the provider's call,
the refund, correlation and processing of webhook events, and reconciliation by lookup. -/

namespace TrxSimulator.Payouts.Orchestrator

open Foundations.Tables Foundations.Outcomes Foundations.Decimals Money Accounts Wallets.Ledger
open Records StateMachine Funded.Payouts

def providerName : String := "nowpayments"

def rawStatusToNormalized : String → Option Normalized
  | "FINISHED" => some .completed
  | "FAILED" => some .failed
  | "REJECTED" => some .failed
  | "ROLLING" => some .processing
  | "CREATED" => some .processing
  | _ => none

inductive LookupOutcome
  | foundProcessing | foundCompleted | foundFailed | notFound | unavailable | ambiguous | unsupported
deriving DecidableEq

def rawStatusToLookupOutcome : String → LookupOutcome
  | "FINISHED" => .foundCompleted
  | "FAILED" | "REJECTED" => .foundFailed
  | "CREATING" | "SENDING" | "ROLLING" | "CREATED" | "NEW" | "WAITING" | "PROCESSING" => .foundProcessing
  | _ => .ambiguous

def submittedAgedThresholdSeconds : ℕ := 300
def processingAgedReconcileSeconds : ℕ := 600
def replayBaseSeconds : ℕ := 300
def replayMaxSeconds : ℕ := 21600
def maxAutoRetries : ℕ := 10

section Appliers

def completeAttempt (s : Platform) (attempt withdrawal : ℕ) (wr : WithdrawalRequest) (payload : Payload) :
    Platform :=
  { s with
    attempts := if payload.amount = none ∧ payload.hash = "" then s.attempts
      else s.attempts.update attempt fun a =>
        { a with confirmedAmount := payload.amount, txHash := payload.hash }
    revenue := match wr.feeAmount with
      | none => s.revenue
      | some fee => bookRevenue s.revenue (.withdrawFee withdrawal) fee }

def applyResultWithoutRefund (s : Platform) (attempt : ℕ) (newStatus : AttemptStatus)
    (reason raw : String) (payload : Payload) : Except PayoutError Platform := do
  let a ← lockAttempt s attempt
  let wr ← lockWithdrawal s a.withdrawalRequest
  if a.status.terminal = true then pure s
  else do
    let moved ← transitionPayoutAttempt attempt a newStatus reason raw false s.now
    let s' ← syncWithdrawalRequestStatus (s.setAttempt attempt fun _ => moved) a.withdrawalRequest newStatus
    pure (if newStatus = .completed then completeAttempt s' attempt a.withdrawalRequest wr payload else s')

def applySubmissionSuccess (s : Platform) (attempt : ℕ) (reference batchId raw : String) :
    Except PayoutError Platform := do
  let a ← lockAttempt s attempt
  let _ ← lockWithdrawal s a.withdrawalRequest
  if a.status.terminal = true then pure s
  else do
    let moved ← transitionPayoutAttempt attempt
      { a with providerReference := reference, providerBatchId := batchId } .processing "" raw false s.now
    let s' ← syncWithdrawalRequestStatus (s.setAttempt attempt fun _ => moved) a.withdrawalRequest .processing
    pure (s'.setWithdrawal a.withdrawalRequest fun wr =>
      { wr with npBatchId := batchId, npPayoutId := reference, npPayoutStatus := raw,
                cryptoAmount := a.providerAmount })

def applyConfirmedFailureWithRefund (s : Platform) (attempt : ℕ) (reason : String)
    (preSendRejection : Bool) (raw : String) (actor : Option ℕ) : Except PayoutError Platform := do
  let a ← lockAttempt s attempt
  let wr ← lockWithdrawal s a.withdrawalRequest
  let wallet ← lockWallet s wr.user
  if a.status.terminal = true then pure s
  else do
    let moved ← transitionPayoutAttempt attempt a .failed reason raw preSendRejection s.now
    let s' ← syncWithdrawalRequestStatus (s.setAttempt attempt fun _ => moved) a.withdrawalRequest .failed
    let credited ← (creditWallet s'.ledger wallet wr.amountUsd.value .correction
      { note := some (.refund attempt reason), initiatedBy := actor }).mapError .ledger
    pure ({ s' with ledger := credited.1 }.setWithdrawal a.withdrawalRequest fun wr =>
      { wr with npPayoutStatus := if raw = "" then "FAILED" else raw })

end Appliers

section Submission

def Platform.setSubmission (s : Platform) (submission : ℕ) (stage : SubmissionStage) : Platform :=
  { s with submissions := s.submissions.update submission fun x => { x with stage := stage } }

def previewWithdrawal (s : Platform) (withdrawal : ℕ) (actor : Option ℕ) : Except PayoutError Platform := do
  let wr ← lockWithdrawal s withdrawal
  if wr.status ≠ .pending then .error (.withdrawalAlreadyClaimed withdrawal wr.status)
  else pure { s with
    submissions := s.submissions.insert ⟨actor, .previewed withdrawal (wr.netAmount.getD wr.amountUsd)⟩ }

def claimWithdrawal (s : Platform) (withdrawal : ℕ) (estimateBasis : Balance) (actor : Option ℕ)
    (providerAmount : ℚ) : Except PayoutError (Platform × ℕ) := do
  let wr ← lockWithdrawal s withdrawal
  if wr.status ≠ .pending then .error (.withdrawalAlreadyClaimed withdrawal wr.status)
  else do
    let created ← createAndSubmitPayoutAttempt (s.setWithdrawal withdrawal fun wr => { wr with reviewedBy := actor })
      withdrawal providerName estimateBasis actor
    pure (created.1.setAttempt created.2 fun a => { a with providerAmount := some providerAmount }, created.2)

def claimSubmission (s : Platform) (submission : ℕ) (estimate : Option ℚ) : Platform :=
  match s.submissions.get submission with
  | some ⟨actor, .previewed withdrawal basis⟩ =>
    match estimate with
    | none => Platform.setSubmission s submission (.raised (.estimateFailed withdrawal))
    | some providerAmount =>
      match claimWithdrawal s withdrawal basis actor providerAmount with
      | .ok r => Platform.setSubmission r.1 submission (.sent r.2)
      | .error e => Platform.setSubmission s submission (.raised e)
  | _ => s

/-- What the provider's call came to: only a failed authentication is known to have sent nothing. -/
inductive SubmissionResult
  | accepted (reference batchId rawStatus : String)
  | authError (reason : String)
  | providerError (reason : String)

def applySubmission (s : Platform) (attempt : ℕ) (actor : Option ℕ) :
    SubmissionResult → Except PayoutError Platform
  | .accepted reference batchId raw => applySubmissionSuccess s attempt reference batchId raw
  | .authError reason => applyConfirmedFailureWithRefund s attempt reason true "" actor
  | .providerError reason => applyResultWithoutRefund s attempt .unknown reason "" ⟨none, ""⟩

def finishSubmission (s : Platform) (submission : ℕ) (result : SubmissionResult) : Platform :=
  match s.submissions.get submission with
  | some ⟨actor, .sent attempt⟩ =>
    match applySubmission s attempt actor result with
    | .ok s' => Platform.setSubmission s' submission .finished
    | .error e => Platform.setSubmission s submission (.raised e)
  | _ => s

end Submission

section Webhooks

def attemptMatches (s : Platform) (p : PayoutAttempt → Bool) : List ℕ :=
  (s.attempts.rows.filter fun r => p r.2).map Prod.fst

def withdrawalMatches (s : Platform) (p : WithdrawalRequest → Bool) : List ℕ :=
  (s.withdrawals.rows.filter fun r => p r.2).map Prod.fst

def classifyLegacy (s : Platform) (withdrawal : ℕ) : Target :=
  if s.fundedPayouts.exists? (fun f => f.withdrawalRequest = some withdrawal) = true then .funded withdrawal
  else .legacy withdrawal

def correlate (s : Platform) (attempts withdrawals : List ℕ) (missing : String) : Target :=
  match attempts, withdrawals with
  | _ :: _ :: _, _ => .ambiguous "PayoutAttempt"
  | _, _ :: _ :: _ => .ambiguous "WithdrawalRequest"
  | [attempt], [withdrawal] =>
    if (s.attempts.get attempt).any (fun a => a.withdrawalRequest = withdrawal) = true then .attempt attempt
    else .integrityViolation "PayoutAttempt"
  | [attempt], [] => .attempt attempt
  | [], [withdrawal] => classifyLegacy s withdrawal
  | [], [] => .orphan missing

def resolvePayoutTarget (s : Platform) (event : ProviderPayoutEvent) : Target :=
  if event.providerReference ≠ "" then
    correlate s
      (attemptMatches s fun a => a.provider = event.provider ∧ a.providerReference = event.providerReference)
      (withdrawalMatches s fun wr => wr.npPayoutId = event.providerReference)
      "provider_reference presente, 0 matches tras reintentos acotados"
  else if event.providerBatchId ≠ "" then
    correlate s
      (attemptMatches s fun a => a.provider = event.provider ∧ a.providerBatchId = event.providerBatchId)
      (withdrawalMatches s fun wr => wr.npBatchId = event.providerBatchId)
      "ninguna capa resolvió"
  else .orphan "evento sin ninguna referencia utilizable"

def applyAttemptWebhook (s : Platform) (attempt : ℕ) (event : ProviderPayoutEvent) (n : Normalized) :
    Except PayoutError Platform :=
  match n with
  | .failed => applyConfirmedFailureWithRefund s attempt ("provider callback: " ++ event.rawStatus) false
      event.rawStatus none
  | .completed => applyResultWithoutRefund s attempt .completed "" event.rawStatus event.payload
  | .processing => applyResultWithoutRefund s attempt .processing "" event.rawStatus ⟨none, ""⟩

def markWebhook (event : ProviderPayoutEvent) (n : Normalized) (wr : WithdrawalRequest) : WithdrawalRequest :=
  { wr with
    status := n.withdrawal
    npPayoutStatus := event.rawStatus
    npPayoutId := if wr.npPayoutId = "" then event.providerReference else wr.npPayoutId }

def applyFundedInternalWebhook (s : Platform) (withdrawal : ℕ) (event : ProviderPayoutEvent)
    (n : Normalized) : Except PayoutError Platform := do
  let wr ← lockWithdrawal s withdrawal
  if wr.status.terminal = true then pure s
  else do
    let request ← require ((s.fundedPayouts.latest fun f => f.withdrawalRequest = some withdrawal).map Prod.fst)
      (.doesNotExist "FundedPayoutRequest" withdrawal)
    let s' ← handleInternalPayoutWebhook s request n event.providerReference
    pure (s'.setWithdrawal withdrawal (markWebhook event n))

def applyLegacyWithdrawalWebhook (s : Platform) (withdrawal : ℕ) (event : ProviderPayoutEvent)
    (n : Normalized) : Except PayoutError Platform := do
  let wr ← lockWithdrawal s withdrawal
  if wr.status.terminal = true then pure s
  else if n = .failed then do
    let wallet ← lockWallet s wr.user
    let credited ← (creditWallet s.ledger wallet wr.amountUsd.value .correction
      { note := some (.legacyRefund withdrawal event.providerReference) }).mapError .ledger
    pure ({ s with ledger := credited.1 }.setWithdrawal withdrawal (markWebhook event n))
  else pure (s.setWithdrawal withdrawal (markWebhook event n))

/-- The durable inbox: a second delivery of the same event finds the first row. -/
def receiveEvent (s : Platform) (reference batchId rawStatus : String) (payload : Payload) : Platform :=
  let event : ProviderPayoutEvent :=
    { provider := providerName, providerReference := reference, providerBatchId := batchId,
      normalizedStatus := rawStatusToNormalized rawStatus, rawStatus := rawStatus, payload := payload }
  if s.events.exists? (fun row => row.event = event) = true then s
  else { s with events := s.events.insert ⟨event, .pending, none, 0, none, ""⟩ }

def stageOf (event : ProviderPayoutEvent) : Target → HandlerStage
  | .ambiguous reason => .unresolved ("Ambiguous: " ++ reason) false
  | .integrityViolation reason => .unresolved ("DataIntegrityViolation: " ++ reason) false
  | .orphan reason => .unresolved reason true
  | target =>
    if event.normalizedStatus = none then
      .unresolved ("unrecognized provider status: '" ++ event.rawStatus ++ "'") false
    else .matched target

def resolveEvent (s : Platform) (event : ℕ) : Platform :=
  match s.events.get event with
  | none => s
  | some row =>
    if row.correlationStatus = .resolved then s
    else { s with
      handlers := s.handlers.insert ⟨event, stageOf row.event (resolvePayoutTarget s row.event)⟩ }

def unresolvedEvent (now : ℕ) (error : String) (bumpRetry : Bool) (row : PayoutWebhookEvent) :
    PayoutWebhookEvent :=
  if row.correlationStatus = .resolved then row
  else if bumpRetry then
    { row with
      lastError := error
      retryCount := row.retryCount + 1
      nextRetryAt := some (now + min (replayBaseSeconds * 2 ^ row.retryCount) replayMaxSeconds)
      correlationStatus := if maxAutoRetries ≤ row.retryCount + 1 then .manualReview
        else row.correlationStatus }
  else { row with lastError := error, correlationStatus := .manualReview }

def resolvedEvent (attempt : Option ℕ) (row : PayoutWebhookEvent) : PayoutWebhookEvent :=
  if row.correlationStatus = .resolved then row
  else { row with correlationStatus := .resolved, correlatedAttempt := attempt }

def applyTarget (s : Platform) (event : ProviderPayoutEvent) (n : Normalized) :
    Target → Except PayoutError (Platform × Option ℕ)
  | .attempt pk => (applyAttemptWebhook s pk event n).map fun s' => (s', some pk)
  | .funded withdrawal => (applyFundedInternalWebhook s withdrawal event n).map fun s' => (s', none)
  | .legacy withdrawal => (applyLegacyWithdrawalWebhook s withdrawal event n).map fun s' => (s', none)
  | _ => .ok (s, none)

def Platform.setHandler (s : Platform) (handler : ℕ) (stage : HandlerStage) : Platform :=
  { s with handlers := s.handlers.update handler fun x => { x with stage := stage } }

def Platform.setEvent (s : Platform) (event : ℕ) (f : PayoutWebhookEvent → PayoutWebhookEvent) : Platform :=
  { s with events := s.events.update event f }

/-- The next transaction of an event's processing: the effect on its target, or the mark on the event. -/
def processWebhookEvent (s : Platform) (handler : ℕ) : Platform :=
  match s.handlers.get handler with
  | some ⟨event, .unresolved error bumpRetry⟩ =>
    Platform.setHandler (Platform.setEvent s event (unresolvedEvent s.now error bumpRetry)) handler .finished
  | some ⟨event, .matched target⟩ =>
    match (s.events.get event).bind fun row => row.event.normalizedStatus.map fun n => (row.event, n) with
    | none => s
    | some (row, n) =>
      match applyTarget s row n target with
      | .ok (s', attempt) => Platform.setHandler s' handler (.applied attempt)
      | .error e => Platform.setHandler s handler (.raised e)
  | some ⟨event, .applied attempt⟩ =>
    Platform.setHandler (Platform.setEvent s event (resolvedEvent attempt)) handler .finished
  | _ => s

end Webhooks

section Reconciliation

inductive LookupAnswer
  | unavailable
  | notFound
  | unreadable
  | payout (rawStatus : String) (payload : Payload)

def lookupPayout (a : PayoutAttempt) : LookupAnswer → LookupOutcome × String × Payload
  | answer =>
    if a.providerReference = "" then (.unsupported, "", ⟨none, ""⟩)
    else match answer with
      | .unavailable => (.unavailable, "", ⟨none, ""⟩)
      | .notFound => (.notFound, "", ⟨none, ""⟩)
      | .unreadable => (.ambiguous, "", ⟨none, ""⟩)
      | .payout raw payload => (rawStatusToLookupOutcome raw, raw, payload)

def applyLookupOutcome (s : Platform) (attempt : ℕ) (a : PayoutAttempt) :
    LookupOutcome × String × Payload → Except PayoutError Platform
  | (.foundProcessing, raw, _) =>
    if a.status = .processing then .ok s
    else applyResultWithoutRefund s attempt .processing "" raw ⟨none, ""⟩
  | (.foundCompleted, raw, payload) => applyResultWithoutRefund s attempt .completed "" raw payload
  | (.foundFailed, raw, _) =>
    applyConfirmedFailureWithRefund s attempt "reconciliation: provider confirms FAILED" false raw none
  | _ => .ok s

def eligible (s : Platform) (a : PayoutAttempt) : Scan → Bool
  | .aged => isSubmittedAged a submittedAgedThresholdSeconds s.now
  | .unknown => a.status = .unknown
  | .processing =>
    a.status = .processing ∧ a.providerReference ≠ "" ∧ a.updatedAt + processingAgedReconcileSeconds ≤ s.now

/-- The query of a reconciliation loop picks an attempt without locking it. -/
def scanAttempt (s : Platform) (attempt : ℕ) (scan : Scan) : Platform :=
  match s.attempts.get attempt with
  | some a =>
    if eligible s a scan = true then
      { s with reconciliations := s.reconciliations.insert (some ⟨attempt, scan⟩) }
    else s
  | none => s

def reconcileAttempt (s : Platform) (attempt : ℕ) (answer : LookupAnswer) :
    Scan → Except PayoutError Platform
  | .aged => applyResultWithoutRefund s attempt .unknown
      "aged SUBMITTED — no response observed within 300s" "" ⟨none, ""⟩
  | _ => do
    let a ← lockAttempt s attempt
    applyLookupOutcome s attempt a (lookupPayout a answer)

def finishReconciliation (s : Platform) (reconciliation : ℕ) (answer : LookupAnswer) : Platform :=
  match (s.reconciliations.get reconciliation).join with
  | none => s
  | some x =>
    let s := { s with reconciliations := s.reconciliations.update reconciliation fun _ => none }
    commit s (reconcileAttempt s x.attempt answer x.scan)

end Reconciliation

end TrxSimulator.Payouts.Orchestrator
