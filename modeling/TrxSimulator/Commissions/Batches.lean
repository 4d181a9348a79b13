import TrxSimulator.Commissions.Reversal
import TrxSimulator.Foundations.Queues

/-! Reconciliation in batches: each call looks at the first rows, by id, that are approved and linked to a treasury
request, and settles those whose request is executed. -/

namespace TrxSimulator.Commissions.Batches

open Foundations.Tables Foundations.Outcomes Foundations.Queues Treasury.Requests Settlement Reversal

structure Counts where
  scanned : ℕ
  done : ℕ
  skipped : ℕ
  failed : ℕ
deriving DecidableEq

def Counts.record (c : Counts) (success outcome : Outcome) : Counts :=
  if outcome = success then { c with done := c.done + 1 }
  else if outcome = .treasuryTerminalNonSuccess then { c with failed := c.failed + 1 }
  else { c with skipped := c.skipped + 1 }

abbrev Sync := Program → ℕ → Except CommissionError (Program × Outcome × Option Status)

/-- A row that cannot be synced is skipped, and its transaction is rolled back. -/
def reconcileRow (sync : Sync) (success : Outcome) (p : Program × Counts) (pk : ℕ) : Program × Counts :=
  match sync p.1 pk with
  | .error _ => (p.1, { p.2 with skipped := p.2.skipped + 1 })
  | .ok (s, outcome, _) => (s, p.2.record success outcome)

def reconcileRows (sync : Sync) (success : Outcome) (s : Program) (keys : List ℕ) : Program × Counts :=
  keys.foldl (reconcileRow sync success) (s, ⟨keys.length, 0, 0, 0⟩)

def approvedObligation (o : Obligation) : Bool := o.status = .approved && o.treasuryOperation.isSome

def approvedAdjustment (a : Adjustment) : Bool := a.status = .approved && a.treasuryOperation.isSome

def scannedObligations (s : Program) : List ℕ := queue Program.obligations approvedObligation s

def scannedAdjustments (s : Program) : List ℕ := queue Program.adjustments approvedAdjustment s

def reconcileApprovedObligations (batchSize : ℕ) (s : Program) : Program × Counts :=
  reconcileRows syncObligationFromTreasury .credited s ((scannedObligations s).take batchSize)

def reconcilePendingAdjustments (batchSize : ℕ) (s : Program) : Program × Counts :=
  reconcileRows syncAdjustmentFromTreasury .executed s ((scannedAdjustments s).take batchSize)

def requestExecuted (s : Program) (link : Option ℕ) : Bool :=
  link.any fun pk => (s.office.requests.get pk).any fun request => request.status = .executed

def calls (n batchSize : ℕ) : ℕ := (n + batchSize - 1) / batchSize

/-- The approved obligations of executed requests are credited after as many calls as the batches that hold all. -/
def ObligationsCredited (batchSize : ℕ) (s : Program) : Prop :=
  ∀ pk o, s.obligations.get pk = some o → approvedObligation o = true →
    requestExecuted s o.treasuryOperation = true →
    ∃ o', (((fun s => (reconcileApprovedObligations batchSize s).1)^[calls (scannedObligations s).length batchSize]
      s).obligations.get pk) = some o' ∧ o'.status = .credited

def AdjustmentsExecuted (batchSize : ℕ) (s : Program) : Prop :=
  ∀ pk a, s.adjustments.get pk = some a → approvedAdjustment a = true →
    requestExecuted s a.treasuryOperation = true →
    ∃ a', (((fun s => (reconcilePendingAdjustments batchSize s).1)^[calls (scannedAdjustments s).length batchSize]
      s).adjustments.get pk) = some a' ∧ a'.status = .executed

/-- No row of an executed request lies beyond the part of the queue that so many calls reach, each of them looking
first at the rows not executed that the earlier ones have left. -/
def AllReached (executed : ℕ → Bool) (batchSize : ℕ) (keys : List ℕ) : Prop :=
  ∀ pk ∈ keys.drop (reached executed batchSize keys (calls keys.length batchSize)), executed pk = false

instance (executed : ℕ → Bool) (batchSize : ℕ) (keys : List ℕ) : Decidable (AllReached executed batchSize keys) :=
  inferInstanceAs (Decidable (∀ pk ∈ keys.drop _, executed pk = false))

def obligationExecuted (s : Program) (pk : ℕ) : Bool :=
  (s.obligations.get pk).any fun o => requestExecuted s o.treasuryOperation

def adjustmentExecuted (s : Program) (pk : ℕ) : Bool :=
  (s.adjustments.get pk).any fun a => requestExecuted s a.treasuryOperation

section Rows

variable {sync : Sync} {success : Outcome} {s : Program}

def attempt (sync : Sync) (s : Program) (pk : ℕ) : Program := commit s ((sync s pk).map Prod.fst)

lemma reconcileRow_program (p : Program × Counts) (pk : ℕ) :
    (reconcileRow sync success p pk).1 = attempt sync p.1 pk := by
  rw [reconcileRow, attempt]
  cases sync p.1 pk with
  | error e => rfl
  | ok r => rfl

lemma reconcileRows_program (s : Program) (keys : List ℕ) :
    (reconcileRows sync success s keys).1 = keys.foldl (attempt sync) s := by
  rw [reconcileRows]
  generalize Counts.mk keys.length 0 0 0 = c
  induction keys generalizing s c with
  | nil => rfl
  | cons pk keys ih =>
    have hrow : (reconcileRow sync success (s, c) pk).1 = attempt sync s pk := reconcileRow_program (s, c) pk
    rw [List.foldl_cons, List.foldl_cons, ← hrow]
    exact ih _ _

lemma requestExecuted_iff {link : Option ℕ} : requestExecuted s link = true ↔
    ∃ pk, link = some pk ∧ ∃ request, s.office.requests.get pk = some request ∧ request.status = .executed := by
  simp [requestExecuted, Option.any_eq_true]

lemma attempt_eq {ρ : Type*} {row : Option ρ} {due : ρ → Bool} {settled : Program} {pk : ℕ}
    (hdue : ∀ x, row = some x → due x = true → ∃ outcome, sync s pk = .ok (settled, outcome))
    (hkept : ∀ r, sync s pk = .ok r → r.1 = s ∨ ∃ x, row = some x ∧ due x = true) :
    attempt sync s pk = if row.any due then settled else s := by
  by_cases hany : row.any due = true
  · obtain ⟨x, hx, hxdue⟩ := (Option.any_eq_true _ _).mp hany
    obtain ⟨outcome, hok⟩ := hdue x hx hxdue
    rw [attempt, hok, if_pos hany]
    rfl
  · rw [attempt, if_neg hany]
    refine commit_rule (motive := fun s' : Program => s' = s) s _ rfl fun s' hs' => ?_
    obtain ⟨r, hr, rfl⟩ := map_eq_ok.mp hs'
    exact (hkept r hr).resolve_right fun hfound => hany ((Option.any_eq_true _ _).mpr hfound)

lemma syncObligation_due {pk link : ℕ} {o : Obligation} {request : TreasuryRequest}
    (h : s.obligations.get pk = some o) (hstatus : o.status = .approved) (hlink : o.treasuryOperation = some link)
    (hrequest : s.office.requests.get link = some request) (hexecuted : request.status = .executed) :
    syncObligationFromTreasury s pk =
      .ok (Program.setObligation s pk fun o => { o with status := .credited }, .credited, some .executed) := by
  simp [syncObligationFromTreasury, lockObligation, treasuryRequest, require, bind, Except.bind, pure, Except.pure, h,
    hstatus, hlink, hrequest, hexecuted, terminalNonSuccess]

lemma syncObligation_kept {pk : ℕ} {r : Program × Outcome × Option Status}
    (hr : syncObligationFromTreasury s pk = .ok r) : r.1 = s ∨ ∃ o, s.obligations.get pk = some o ∧
      (approvedObligation o && requestExecuted s o.treasuryOperation) = true := by
  simp only [syncObligationFromTreasury, bind_eq_ok, lockObligation, require_eq_ok] at hr
  obtain ⟨o, h, hr⟩ := hr
  split at hr
  · exact .inl (congrArg Prod.fst (pure_eq_ok.mp hr)).symm
  · split at hr
    · exact .inl (congrArg Prod.fst (pure_eq_ok.mp hr)).symm
    · next happroved =>
      cases hlink : o.treasuryOperation with
      | none =>
        rw [hlink] at hr
        exact .inl (congrArg Prod.fst (pure_eq_ok.mp hr)).symm
      | some link =>
        rw [hlink] at hr
        simp only [bind_eq_ok, treasuryRequest, require_eq_ok] at hr
        obtain ⟨request, hrequest, hr⟩ := hr
        split at hr
        · exact .inl (congrArg Prod.fst (pure_eq_ok.mp hr)).symm
        · split at hr
          · exact .inl (congrArg Prod.fst (pure_eq_ok.mp hr)).symm
          · next hexecuted =>
            exact .inr ⟨o, h, by simp_all [approvedObligation, requestExecuted]⟩

/-- Only an executed request settles a row; a missing one, or one of another status, leaves the program as it is. -/
lemma attempt_obligation (s : Program) (pk : ℕ) :
    attempt syncObligationFromTreasury s pk = Program.setObligation s pk fun o =>
      if approvedObligation o && requestExecuted s o.treasuryOperation then { o with status := .credited }
      else o := by
  have hattempt : attempt syncObligationFromTreasury s pk =
      if (s.obligations.get pk).any fun o => approvedObligation o && requestExecuted s o.treasuryOperation then
        Program.setObligation s pk fun o => { o with status := .credited }
      else s := by
    refine attempt_eq (fun o h hboth => ?_) fun _ => syncObligation_kept
    obtain ⟨⟨hstatus, -⟩, hexecuted⟩ : (o.status = .approved ∧ o.treasuryOperation.isSome = true) ∧
        requestExecuted s o.treasuryOperation = true := by
      simpa [approvedObligation] using hboth
    obtain ⟨link, hlink, request, hrequest, hrow⟩ := requestExecuted_iff.mp hexecuted
    exact ⟨_, syncObligation_due h hstatus hlink hrequest hrow⟩
  rw [hattempt, Program.setObligation, Program.setObligation, Table.update_ite]
  split <;> rfl

lemma syncAdjustment_due {pk link : ℕ} {a : Adjustment} {request : TreasuryRequest}
    (h : s.adjustments.get pk = some a) (hstatus : a.status = .approved) (hlink : a.treasuryOperation = some link)
    (hrequest : s.office.requests.get link = some request) (hexecuted : request.status = .executed) :
    syncAdjustmentFromTreasury s pk =
      .ok (Program.setAdjustment s pk fun a => { a with status := .executed }, .executed, some .executed) := by
  simp [syncAdjustmentFromTreasury, lockAdjustment, treasuryRequest, require, bind, Except.bind, pure, Except.pure, h,
    hstatus, hlink, hrequest, hexecuted, terminalNonSuccess]

lemma syncAdjustment_kept {pk : ℕ} {r : Program × Outcome × Option Status}
    (hr : syncAdjustmentFromTreasury s pk = .ok r) : r.1 = s ∨ ∃ a, s.adjustments.get pk = some a ∧
      (approvedAdjustment a && requestExecuted s a.treasuryOperation) = true := by
  simp only [syncAdjustmentFromTreasury, bind_eq_ok, lockAdjustment, require_eq_ok] at hr
  obtain ⟨a, h, hr⟩ := hr
  split at hr
  · exact .inl (congrArg Prod.fst (pure_eq_ok.mp hr)).symm
  · split at hr
    · exact .inl (congrArg Prod.fst (pure_eq_ok.mp hr)).symm
    · next happroved =>
      cases hlink : a.treasuryOperation with
      | none =>
        rw [hlink] at hr
        exact .inl (congrArg Prod.fst (pure_eq_ok.mp hr)).symm
      | some link =>
        rw [hlink] at hr
        simp only [bind_eq_ok, treasuryRequest, require_eq_ok] at hr
        obtain ⟨request, hrequest, hr⟩ := hr
        split at hr
        · exact .inl (congrArg Prod.fst (pure_eq_ok.mp hr)).symm
        · split at hr
          · exact .inl (congrArg Prod.fst (pure_eq_ok.mp hr)).symm
          · next hexecuted =>
            exact .inr ⟨a, h, by simp_all [approvedAdjustment, requestExecuted]⟩

lemma attempt_adjustment (s : Program) (pk : ℕ) :
    attempt syncAdjustmentFromTreasury s pk = Program.setAdjustment s pk fun a =>
      if approvedAdjustment a && requestExecuted s a.treasuryOperation then { a with status := .executed }
      else a := by
  have hattempt : attempt syncAdjustmentFromTreasury s pk =
      if (s.adjustments.get pk).any fun a => approvedAdjustment a && requestExecuted s a.treasuryOperation then
        Program.setAdjustment s pk fun a => { a with status := .executed }
      else s := by
    refine attempt_eq (fun a h hboth => ?_) fun _ => syncAdjustment_kept
    obtain ⟨⟨hstatus, -⟩, hexecuted⟩ : (a.status = .approved ∧ a.treasuryOperation.isSome = true) ∧
        requestExecuted s a.treasuryOperation = true := by
      simpa [approvedAdjustment] using hboth
    obtain ⟨link, hlink, request, hrequest, hrow⟩ := requestExecuted_iff.mp hexecuted
    exact ⟨_, syncAdjustment_due h hstatus hlink hrequest hrow⟩
  rw [hattempt, Program.setAdjustment, Program.setAdjustment, Table.update_ite]
  split <;> rfl

lemma settles_obligations :
    Settles Program.obligations approvedObligation (fun s o => requestExecuted s o.treasuryOperation)
      (fun o => { o with status := .credited }) (attempt syncObligationFromTreasury) where
  rows_attempt s pk := by rw [attempt_obligation]; rfl
  ripe_attempt s pk o := by rw [attempt_obligation]; rfl
  ripe_settle _ _ := rfl
  waiting_settle _ := rfl

lemma settles_adjustments :
    Settles Program.adjustments approvedAdjustment (fun s a => requestExecuted s a.treasuryOperation)
      (fun a => { a with status := .executed }) (attempt syncAdjustmentFromTreasury) where
  rows_attempt s pk := by rw [attempt_adjustment]; rfl
  ripe_attempt s pk a := by rw [attempt_adjustment]; rfl
  ripe_settle _ _ := rfl
  waiting_settle _ := rfl

lemma reconcile_obligations (batchSize : ℕ) :
    (fun s => (reconcileApprovedObligations batchSize s).1) =
      front Program.obligations approvedObligation (attempt syncObligationFromTreasury) batchSize :=
  funext fun s => reconcileRows_program s _

lemma reconcile_adjustments (batchSize : ℕ) :
    (fun s => (reconcilePendingAdjustments batchSize s).1) =
      front Program.adjustments approvedAdjustment (attempt syncAdjustmentFromTreasury) batchSize :=
  funext fun s => reconcileRows_program s _

lemma obligationsCredited_iff (batchSize : ℕ) (s : Program) :
    ObligationsCredited batchSize s ↔ AllReached (obligationExecuted s) batchSize (scannedObligations s) := by
  have hsettled := settled_iff settles_obligations (fun o => o.status = .credited)
    (fun o ho hdone => by simp [approvedObligation, hdone] at ho) (fun _ => rfl) batchSize
    (calls (scannedObligations s).length batchSize) s
  rw [ObligationsCredited, reconcile_obligations]
  exact hsettled

lemma adjustmentsExecuted_iff (batchSize : ℕ) (s : Program) :
    AdjustmentsExecuted batchSize s ↔ AllReached (adjustmentExecuted s) batchSize (scannedAdjustments s) := by
  have hsettled := settled_iff settles_adjustments (fun a => a.status = .executed)
    (fun a ha hdone => by simp [approvedAdjustment, hdone] at ha) (fun _ => rfl) batchSize
    (calls (scannedAdjustments s).length batchSize) s
  rw [AdjustmentsExecuted, reconcile_adjustments]
  exact hsettled

end Rows

theorem reconciled_iff (batchSize : ℕ) (s : Program) :
    (ObligationsCredited batchSize s ↔ AllReached (obligationExecuted s) batchSize (scannedObligations s)) ∧
      (AdjustmentsExecuted batchSize s ↔ AllReached (adjustmentExecuted s) batchSize (scannedAdjustments s)) :=
  ⟨obligationsCredited_iff batchSize s, adjustmentsExecuted_iff batchSize s⟩

def linkedRequest (status : Status) : TreasuryRequest where
  operationType := .ibCommission
  wallet := 0
  amount := .ofUnits 1000
  positive := by decide
  currency := "USD"
  status := status
  reason := ""
  reference := ""
  category := none
  comment := ""
  walletTransaction := none
  requestedBy := 0
  approvedBy := some 1
  rejectedBy := none
  rejectionReason := ""
  executedBy := none
  failureReason := none

def linkedObligation (request : ℕ) : Obligation where
  referral := 0
  ruleType := "PER_LOT"
  calculatedAmount := .ofUnits 1000
  nonneg := by decide
  status := .approved
  approvedBy := some 1
  treasuryOperation := some request
  isHeld := false

def failedFirst : Program where
  office :=
    { users := Table.empty
      ledger := ⟨Table.empty, Table.empty⟩
      requests := Table.ofList [linkedRequest .failed, linkedRequest .executed]
      auditLog := Table.empty
      brokerLog := Table.empty
      executions := Table.empty
      recoveries := Table.empty
      now := 0 }
  referrals := Table.empty
  obligations := Table.ofList [linkedObligation 0, linkedObligation 1]
  adjustments := Table.empty

/-- Behind one failed request, with a batch of one, an executed request's obligation stays approved for ever. -/
theorem failed_first_starves :
    ¬ ObligationsCredited 1 failedFirst ∧
      ∀ calls, (((fun s => (reconcileApprovedObligations 1 s).1)^[calls] failedFirst).obligations.get 1) =
        some (linkedObligation 1) := by
  constructor
  · rw [obligationsCredited_iff]
    decide +kernel
  · intro calls
    rw [reconcile_obligations]
    apply starved settles_obligations (n := 1)
    · decide +kernel
    · decide +kernel
    · rfl

end TrxSimulator.Commissions.Batches
