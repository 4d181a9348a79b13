import TrxSimulator.Treasury.Requests

/-! Recovery of a request stuck in its execution: a read-only classification from the two event logs,
and the one action that marks such a request failed. -/

namespace TrxSimulator.Treasury.Recovery

open Foundations.Tables Foundations.Outcomes Requests

def minAgeSeconds : ℕ := 600

structure Signal where
  started : Option ℕ
  executed : Bool
  failed : Bool
deriving DecidableEq

def Signal.observe (sig : Signal) (e : AuditEvent) : Signal :=
  match e.eventType with
  | .executionStarted => match sig.started with
    | none => { sig with started := some e.time }
    | some t => if e.time < t then { sig with started := some e.time } else sig
  | .executed => { sig with executed := true }
  | .executionFailed => { sig with failed := true }

def collectSignals (log : Table AuditEvent) (request : ℕ) : Signal :=
  ((log.rows.map Prod.snd).filter fun e => e.request = request).foldl Signal.observe ⟨none, false, false⟩

inductive Case
  | caseA | caseB | caseC | caseD | caseE | caseF
deriving DecidableEq

inductive AgeConfidence
  | auditLog | brokerAuditEvent | unknown
deriving DecidableEq

inductive BlockReason
  | walletTransactionLinked
  | executedEventExists
  | failedEventExists
  | ageUnknown
  | belowMinAge (age minAge : ℕ)
deriving DecidableEq

def BlockReason.text : BlockReason → String
  | .walletTransactionLinked =>
    "wallet_transaction is already linked — this should be structurally impossible; requires manual " ++
      "investigation, never automatic recovery"
  | .executedEventExists =>
    "an EXECUTED audit event already exists for this request while its status is still EXECUTING — " ++
      "audit trail inconsistency"
  | .failedEventExists =>
    "a FAILED audit event already exists for this request while its status is still EXECUTING — " ++
      "audit trail inconsistency"
  | .ageUnknown =>
    "no treasury.request_execution_started audit event found in AuditLog or BrokerAuditEvent — age " ++
      "cannot be confirmed; requires manual review, recovery is never auto-authorized with unknown age"
  | .belowMinAge age minAge =>
    "only " ++ toString age ++ "s elapsed since EXECUTION_STARTED — below the " ++ toString minAge ++
      "s minimum age threshold"

structure StuckExecutionCandidate where
  request : ℕ
  instance_ : TreasuryRequest
  case : Case
  ageSeconds : Option ℕ
  ageConfidence : AgeConfidence
  eligible : Bool
  blockReasons : List BlockReason
  hasWalletTransaction : Bool
  executedByIsActive : Option Bool
  hasStartedEvent : Bool
  hasExecutedEvent : Bool
  hasFailedEvent : Bool
deriving DecidableEq

def startedAt (auditSignal brokerSignal : Signal) : AgeConfidence × Option ℕ :=
  match auditSignal.started, brokerSignal.started with
  | some t, _ => (.auditLog, some t)
  | none, some t => (.brokerAuditEvent, some t)
  | none, none => (.unknown, none)

def ageBlock (ageSeconds : Option ℕ) (minAge : ℕ) : List BlockReason :=
  match ageSeconds with
  | none => [.ageUnknown]
  | some age => if age < minAge then [.belowMinAge age minAge] else []

def blockReasons (linked executed failed : Bool) (ageSeconds : Option ℕ) (minAge : ℕ) :
    List BlockReason :=
  let structural := (if linked then [.walletTransactionLinked] else []) ++
    (if executed then [.executedEventExists] else []) ++ (if failed then [.failedEventExists] else [])
  if structural = [] then ageBlock ageSeconds minAge else structural

def caseLabel (linked audited executorMissing : Bool) (ageSeconds : Option ℕ) (minAge : ℕ) : Case :=
  if linked then .caseB
  else if audited then .caseE
  else if executorMissing then .caseF
  else match ageSeconds with
    | none => .caseD
    | some age => if age < minAge then .caseC else .caseA

def classify (users : Table User) (request : ℕ) (r : TreasuryRequest) (auditSignal brokerSignal : Signal)
    (minAge now : ℕ) : StuckExecutionCandidate :=
  let linked := r.walletTransaction.isSome
  let executedByIsActive := (r.executedBy.bind users.get).map User.isActive
  let executed := auditSignal.executed || brokerSignal.executed
  let failed := auditSignal.failed || brokerSignal.failed
  let (ageConfidence, started) := startedAt auditSignal brokerSignal
  let ageSeconds := started.map (now - ·)
  let reasons := blockReasons linked executed failed ageSeconds minAge
  { request := request, instance_ := r,
    case := caseLabel linked (executed || failed) (executedByIsActive ≠ some true) ageSeconds minAge,
    ageSeconds := ageSeconds, ageConfidence := ageConfidence, eligible := reasons = [],
    blockReasons := reasons, hasWalletTransaction := linked, executedByIsActive := executedByIsActive,
    hasStartedEvent := started.isSome, hasExecutedEvent := executed, hasFailedEvent := failed }

def inspectStuckTreasuryExecution (s : Office) (minAge : ℕ) : List StuckExecutionCandidate :=
  (s.requests.rows.filter fun r => r.2.status = .executing).map fun r =>
    classify s.users r.1 r.2 (collectSignals s.auditLog r.1) (collectSignals s.brokerLog r.1) minAge s.now

def candidate (s : Office) (request : ℕ) : Option StuckExecutionCandidate :=
  (inspectStuckTreasuryExecution s minAgeSeconds).find? fun c => c.request = request

inductive RecoveryError
  | denied (e : TreasuryError)
  | reasonRequired
  | nothingToRecover (request : ℕ)
  | selfRecoveryDenied (user request : ℕ)
  | notEligible (request : ℕ) (reasons : List BlockReason)
  | lockBusy
  | stateChanged (e : TreasuryError)
  | noLongerEligible (request : ℕ) (reasons : Option (List BlockReason))
  | matchedZeroRows (request : ℕ)
deriving DecidableEq

/-- The gate before any lock: it keeps the executor it saw. -/
def startRecovery (s : Office) (user request : ℕ) (reason : String) : Except RecoveryError Office := do
  let _ ← (authorize s user .recover).mapError .denied
  if reason = "" then .error .reasonRequired
  else do
    let c ← require (candidate s request) (.nothingToRecover request)
    if c.instance_.requestedBy = user ∨ c.instance_.approvedBy = some user then
      .error (.selfRecoveryDenied user request)
    else if c.eligible = false then .error (.notEligible request c.blockReasons)
    else pure { s with
      recoveries := s.recoveries.insert
        { request := request, user := user, capturedExecutor := c.instance_.executedBy,
          reason := reason, finished := false } }

def markTreasuryExecutionFailed (s : Office) (x : Recovery) (lockBusy : Bool) :
    Except RecoveryError Office := do
  if lockBusy = true then .error .lockBusy
  else do
    let locked ← (lockRequest s x.request).mapError .stateChanged
    if locked.status ≠ .executing then
      .error (.stateChanged (.unexpectedStatus x.request locked.status))
    else match locked.walletTransaction with
      | some t => .error (.stateChanged (.alreadyLinked x.request t))
      | none =>
        if locked.executedBy ≠ x.capturedExecutor then
          .error (.stateChanged (.unexpectedExecutor x.request locked.executedBy))
        else if ((candidate s x.request).any fun c => c.eligible) = false then
          .error (.noLongerEligible x.request ((candidate s x.request).map fun c => c.blockReasons))
        else if ownsClaim locked x.capturedExecutor = false then .error (.matchedZeroRows x.request)
        else pure (s.setRequest x.request
          (markFailed x.capturedExecutor (.manualRecovery x.reason)))

def Office.endRecovery (s : Office) (recovery : ℕ) : Office :=
  { s with recoveries := s.recoveries.update recovery fun x => { x with finished := true } }

def finishRecovery (s : Office) (recovery : ℕ) (lockBusy : Bool) : Office :=
  match s.recoveries.get recovery with
  | none => s
  | some x =>
    if x.finished then s
    else commit (Office.endRecovery s recovery)
      (markTreasuryExecutionFailed (Office.endRecovery s recovery) x lockBusy)

section Eligibility

lemma candidate_some {s : Office} {request : ℕ} {c : StuckExecutionCandidate}
    (h : candidate s request = some c) :
    ∃ r, s.requests.get request = some r ∧ r.status = .executing ∧ c.instance_ = r ∧
      c = classify s.users request r (collectSignals s.auditLog request)
        (collectSignals s.brokerLog request) minAgeSeconds s.now := by
  have hp := List.find?_some h
  have hm := List.mem_of_find?_eq_some h
  simp only [inspectStuckTreasuryExecution, List.mem_map, List.mem_filter, decide_eq_true_eq,
    Prod.exists, Table.mem_rows] at hm hp
  obtain ⟨i, r, ⟨hr, hstatus⟩, rfl⟩ := hm
  obtain rfl : i = request := hp
  exact ⟨r, hr, hstatus, rfl, rfl⟩

end Eligibility

section Outcomes

variable {s s' : Office} {user request : ℕ} {reason : String} {x : Recovery} {busy : Bool}

lemma startRecovery_eq_ok (h : startRecovery s user request reason = .ok s') :
    ∃ r, s.requests.get request = some r ∧ r.status = .executing ∧ r.requestedBy ≠ user ∧
      r.approvedBy ≠ some user ∧
      s' = { s with recoveries := s.recoveries.insert ⟨request, user, r.executedBy, reason, false⟩ } := by
  simp only [startRecovery, bind_eq_ok, guard_eq_ok, mapError_eq_ok, require_eq_ok, pure_eq_ok,
    not_or] at h
  obtain ⟨-, -, -, c, hc, ⟨hrequester, happrover⟩, -, rfl⟩ := h
  obtain ⟨r, hr, hstatus, hinstance, -⟩ := candidate_some hc
  rw [hinstance] at hrequester happrover ⊢
  exact ⟨r, hr, hstatus, hrequester, happrover, rfl⟩

lemma markTreasuryExecutionFailed_eq_ok (h : markTreasuryExecutionFailed s x busy = .ok s') :
    ∃ r, s.requests.get x.request = some r ∧ r.status = .executing ∧ r.walletTransaction = none ∧
      s' = s.setRequest x.request (markFailed x.capturedExecutor (.manualRecovery x.reason)) := by
  simp only [markTreasuryExecutionFailed, guard_eq_ok, bind_eq_ok, mapError_eq_ok, lockRequest,
    require_eq_ok, ne_eq, not_not] at h
  obtain ⟨-, r, hr, hstatus, h⟩ := h
  cases hlinked : r.walletTransaction with
  | some t => rw [hlinked] at h; cases h
  | none =>
    rw [hlinked] at h
    simp only [guard_eq_ok, pure_eq_ok] at h
    exact ⟨r, hr, hstatus, hlinked, h.2.2.2.symm⟩

end Outcomes

end TrxSimulator.Treasury.Recovery
