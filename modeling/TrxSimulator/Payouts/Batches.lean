import TrxSimulator.Payouts.Webhooks

/-! The loops of the payout reconcilers over the attempts of a batch. Other requests act between the selection of an
attempt and its lock, and nothing in a loop catches what the processing of one attempt raises. -/

namespace TrxSimulator.Payouts.Batches

open Foundations.Runs Foundations.Tables Foundations.Outcomes Accounts Wallets.Ledger
open Records StateMachine Orchestrator Machine Webhooks

/-- One attempt of a batch, with what others do before it is read, while the provider answers, and after its status is
read and before it is locked. -/
structure Visit where
  attempt : ℕ
  before : List Action
  answer : LookupAnswer
  during : List Action
  between : List Action

def Visit.read (v : Visit) (s : Platform) : Platform := run step s v.before

def Visit.answered (v : Visit) (s : Platform) : Platform := run step (v.read s) v.during

def Visit.locked (v : Visit) (s : Platform) : Platform := run step (v.answered s) v.between

abbrev Process := Platform → Visit → Except PayoutError (Platform × Bool)

def hasStatus (s : Platform) (attempt : ℕ) (status : AttemptStatus) : Bool :=
  (s.attempts.get attempt).any fun a => a.status = status

def processAged (s : Platform) (v : Visit) : Except PayoutError (Platform × Bool) :=
  (applyResultWithoutRefund (v.locked s) v.attempt .unknown "aged SUBMITTED — no response observed within 300s" ""
    ⟨none, ""⟩).map fun s' => (s', hasStatus s' v.attempt .unknown)

def processLookup (s : Platform) (v : Visit) : Except PayoutError (Platform × Bool) := do
  let a ← lockAttempt (v.read s) v.attempt
  match lookupPayout a v.answer with
  | (.foundProcessing, raw, _) =>
    if hasStatus (v.answered s) v.attempt .processing then pure (v.locked s, false)
    else (applyResultWithoutRefund (v.locked s) v.attempt .processing "" raw ⟨none, ""⟩).map fun s' => (s', true)
  | (.foundCompleted, raw, payload) =>
    (applyResultWithoutRefund (v.locked s) v.attempt .completed "" raw payload).map fun s' => (s', true)
  | (.foundFailed, raw, _) =>
    (applyConfirmedFailureWithRefund (v.locked s) v.attempt "reconciliation: provider confirms FAILED" false raw
      none).map fun s' => (s', true)
  | _ => pure (v.locked s, false)

structure Batch where
  platform : Platform
  checked : ℕ
  resolved : ℕ
  raised : Option PayoutError

def visitAll (process : Process) : Platform → List Visit → Batch
  | s, [] => ⟨s, 0, 0, none⟩
  | s, v :: vs =>
    match process s v with
    | .error e => ⟨v.locked s, 1, 0, some e⟩
    | .ok (s', moved) =>
      let rest := visitAll process s' vs
      { rest with
        checked := rest.checked + 1
        resolved := rest.resolved + if moved then 1 else 0 }

structure UnknownBatch where
  platform : Platform
  agedToUnknown : ℕ
  checked : ℕ
  resolved : ℕ
  stillUnknown : ℕ
  raised : Option PayoutError

def reconcileUnknownPayoutAttempts (s : Platform) (aged lookups : List Visit) : UnknownBatch :=
  let first := visitAll processAged s aged
  match first.raised with
  | some e => ⟨first.platform, first.resolved, 0, 0, 0, some e⟩
  | none =>
    let second := visitAll processLookup first.platform lookups
    ⟨second.platform, first.resolved, second.checked, second.resolved, second.checked - second.resolved,
      second.raised⟩

def reconcileProcessingPayoutAttempts (s : Platform) (visits : List Visit) : Batch := visitAll processLookup s visits

/-- One attempt on its own: what it raises leaves all as it is under the lock. -/
def alone (process : Process) (s : Platform) (v : Visit) : Platform :=
  match process s v with
  | .ok (s', _) => s'
  | .error _ => v.locked s

/-- No exception escapes, and each attempt is processed at its turn as it is alone. -/
def Isolated (process : Process) (s : Platform) (visits : List Visit) : Prop :=
  (visitAll process s visits).raised = none ∧ (visitAll process s visits).platform = run (alone process) s visits

def UnknownIsolated (s : Platform) (aged lookups : List Visit) : Prop :=
  (reconcileUnknownPayoutAttempts s aged lookups).raised = none ∧
    (reconcileUnknownPayoutAttempts s aged lookups).platform =
      run (alone processLookup) (run (alone processAged) s aged) lookups

def ProcessingIsolated (s : Platform) (visits : List Visit) : Prop :=
  (reconcileProcessingPayoutAttempts s visits).raised = none ∧
    (reconcileProcessingPayoutAttempts s visits).platform = run (alone processLookup) s visits

/-- The attempt is terminal, or its status allows the new one. -/
def Takes (s : Platform) (k : ℕ) (n : AttemptStatus) : Prop :=
  ∃ a wr, s.attempts.get k = some a ∧ s.withdrawals.get a.withdrawalRequest = some wr ∧
    (a.status.terminal = true ∨ n ∈ allowedTransitions a.status)

def TakesFailure (s : Platform) (k : ℕ) : Prop :=
  ∃ a wr w v, s.attempts.get k = some a ∧ s.withdrawals.get a.withdrawalRequest = some wr ∧
    s.ledger.ofUser wr.user = some (w, v) ∧
    (a.status.terminal = true ∨ ((a.status = .processing ∨ a.status = .unknown) ∧ Bookable s.ledger wr))

def TakesAged (s : Platform) (v : Visit) : Prop := Takes (v.locked s) v.attempt .unknown

def TakesLookup (s : Platform) (v : Visit) : Prop :=
  ∃ a, (v.read s).attempts.get v.attempt = some a ∧
    match (lookupPayout a v.answer).1 with
    | .foundProcessing =>
      hasStatus (v.answered s) v.attempt .processing = true ∨ Takes (v.locked s) v.attempt .processing
    | .foundCompleted => Takes (v.locked s) v.attempt .completed
    | .foundFailed => TakesFailure (v.locked s) v.attempt
    | .notFound => True
    | .unavailable => True
    | .ambiguous => True
    | .unsupported => True

section Visits

variable {process : Process} {s : Platform} {v : Visit} {k : ℕ} {n : AttemptStatus} {reason raw : String}
  {payload : Payload}

lemma map_ok_iff {α β : Type} {x : Except PayoutError α} {f : α → β} : (∃ b, x.map f = .ok b) ↔ ∃ a, x = .ok a := by
  cases x with
  | error e => simp [Except.map]
  | ok a => simp [Except.map]

lemma takes_iff (hn : n ≠ .failed) :
    (∃ s', applyResultWithoutRefund s k n reason raw payload = .ok s') ↔ Takes s k n := by
  constructor
  · rintro ⟨s', h⟩
    have hrows := h
    simp only [applyResultWithoutRefund, lockAttempt, lockWithdrawal, bind_eq_ok, require_eq_ok] at hrows
    obtain ⟨a, ha, wr, hwr, -⟩ := hrows
    exact ⟨a, wr, ha, hwr, (applyResultWithoutRefund_ok_iff ha hwr hn).mp ⟨s', h⟩⟩
  · rintro ⟨a, wr, ha, hwr, h⟩
    exact (applyResultWithoutRefund_ok_iff ha hwr hn).mpr h

lemma failed_allowed (a : AttemptStatus) (h : a ≠ .submitted) :
    .failed ∈ allowedTransitions a ↔ a = .processing ∨ a = .unknown := by
  cases a <;> simp_all [allowedTransitions]

/-- A failure found by a lookup is not one before the sending, so a submitted attempt does not take it. -/
lemma takesFailure_iff :
    (∃ s', applyConfirmedFailureWithRefund s k reason false raw none = .ok s') ↔ TakesFailure s k := by
  constructor
  · rintro ⟨s', h⟩
    have hrows := h
    simp only [applyConfirmedFailureWithRefund, lockAttempt, lockWithdrawal, lockWallet, bind_eq_ok,
      require_eq_ok, Option.map_eq_some_iff] at hrows
    obtain ⟨a, ha, wr, hwr, w, ⟨⟨w', v⟩, hv, -⟩, hrest⟩ := hrows
    have hsubmitted : a.status ≠ .submitted := by
      intro hsubmitted
      simp only [hsubmitted, AttemptStatus.terminal, Bool.false_eq_true, if_false, bind_eq_ok, transition_eq_ok] at hrest
      obtain ⟨_, ⟨-, hpre, -⟩, -⟩ := hrest
      exact hpre (by simp)
    have haccepted := (applyConfirmedFailureWithRefund_ok_iff ha hwr hv hsubmitted).mp ⟨s', h⟩
    rw [failed_allowed _ hsubmitted] at haccepted
    exact ⟨a, wr, w', v, ha, hwr, hv, haccepted⟩
  · rintro ⟨a, wr, w, v, ha, hwr, hv, h⟩
    have hsubmitted : a.status ≠ .submitted := by
      rintro hsubmitted
      rw [hsubmitted] at h
      rcases h with h | ⟨h | h, -⟩ <;> cases h
    rw [← failed_allowed _ hsubmitted] at h
    exact (applyConfirmedFailureWithRefund_ok_iff ha hwr hv hsubmitted).mpr h

lemma processAged_ok_iff : (∃ r, processAged s v = .ok r) ↔ TakesAged s v := by
  rw [processAged, map_ok_iff, TakesAged]
  exact takes_iff (by decide)

lemma processLookup_ok_iff : (∃ r, processLookup s v = .ok r) ↔ TakesLookup s v := by
  simp only [processLookup, lockAttempt, TakesLookup, bind_eq_ok, require_eq_ok]
  rw [exists_comm]
  simp only [exists_and_left]
  refine exists_congr fun a => and_congr_right fun _ => ?_
  rcases lookupPayout a v.answer with ⟨outcome, raw, payload⟩
  cases outcome with
  | foundProcessing =>
    by_cases hstatus : hasStatus (v.answered s) v.attempt .processing = true
    · simp [hstatus, pure, Except.pure]
    · simp only [hstatus, Bool.false_eq_true, if_false, map_ok_iff, false_or]
      exact takes_iff (by decide)
  | foundCompleted =>
    simp only [map_ok_iff]
    exact takes_iff (by decide)
  | foundFailed =>
    simp only [map_ok_iff]
    exact takesFailure_iff
  | notFound | unavailable | ambiguous | unsupported => simp [pure, Except.pure]

lemma isolated_iff (s : Platform) (visits : List Visit) :
    Isolated process s visits ↔ Guarded (alone process) (fun s v => ∃ r, process s v = .ok r) s visits := by
  induction visits generalizing s with
  | nil => simp [Isolated, visitAll]
  | cons v visits ih =>
    cases hprocess : process s v with
    | error e => simp [Isolated, visitAll, hprocess]
    | ok r =>
      have hnext : alone process s v = r.1 := by rw [alone, hprocess]
      rw [guarded_cons, and_iff_right ⟨r, hprocess⟩, hnext, ← ih]
      simp only [Isolated, visitAll, hprocess, run_cons, hnext]

lemma visitAll_platform {visits : List Visit} (h : (visitAll process s visits).raised = none) :
    (visitAll process s visits).platform = run (alone process) s visits := by
  induction visits generalizing s with
  | nil => rfl
  | cons v visits ih =>
    cases hprocess : process s v with
    | error e => simp [visitAll, hprocess] at h
    | ok r =>
      simp only [visitAll, hprocess] at h ⊢
      rw [run_cons, alone, hprocess]
      exact ih h

lemma unknownIsolated_iff (s : Platform) (aged lookups : List Visit) :
    UnknownIsolated s aged lookups ↔
      Isolated processAged s aged ∧ Isolated processLookup (run (alone processAged) s aged) lookups := by
  rw [UnknownIsolated, reconcileUnknownPayoutAttempts]
  cases hraised : (visitAll processAged s aged).raised with
  | some e => simp [Isolated, hraised]
  | none =>
    have hplatform := visitAll_platform hraised
    simp [Isolated, hraised, hplatform]

end Visits

def twoWithdrawals : Platform :=
  { Safety.oneWithdrawal with
    withdrawals := Table.ofList [Safety.pendingWithdrawal, { Safety.pendingWithdrawal with user := 8 }] }

/-- Two attempts have been submitted for longer than the threshold. -/
def twoAged : Platform :=
  run step twoWithdrawals
    [.previewWithdrawal 0 none, .claimSubmission 0 (some 1), .previewWithdrawal 1 none, .claimSubmission 1 (some 1),
      .wait 300]

/-- The provider's answer to the first submission is recorded after the batch is selected. -/
def answeredMeanwhile : List Visit :=
  [⟨0, [.finishSubmission 0 (.accepted "P1" "B1" "CREATING")], .unavailable, [], []⟩, ⟨1, [], .unavailable, [], []⟩]

end TrxSimulator.Payouts.Batches
