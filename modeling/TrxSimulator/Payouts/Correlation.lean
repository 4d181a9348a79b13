import TrxSimulator.Payouts.Safety

/-! Which row a provider's event is about: the candidates that carry its identifier, among the attempts and among the
mirrors of the withdrawals, and what becomes of an event with no match. -/

namespace TrxSimulator.Payouts.Correlation

open Foundations.Tables Accounts Wallets.Ledger Records Orchestrator

inductive Key
  | reference (value : String)
  | batch (value : String)
deriving DecidableEq

/-- The batch identifies an event only where it has no reference of its own. -/
def key (event : ProviderPayoutEvent) : Option Key :=
  if event.providerReference ≠ "" then some (.reference event.providerReference)
  else if event.providerBatchId ≠ "" then some (.batch event.providerBatchId)
  else none

def Carries (event : ProviderPayoutEvent) (a : PayoutAttempt) : Prop :=
  a.provider = event.provider ∧
    match key event with
    | some (.reference value) => a.providerReference = value
    | some (.batch value) => a.providerBatchId = value
    | none => False

def Mirrors (event : ProviderPayoutEvent) (wr : WithdrawalRequest) : Prop :=
  match key event with
  | some (.reference value) => wr.npPayoutId = value
  | some (.batch value) => wr.npBatchId = value
  | none => False

def unmatched : Target → Bool
  | .ambiguous _ | .integrityViolation _ | .orphan _ => true
  | .attempt _ | .funded _ | .legacy _ => false

/-- No attempt, withdrawal, funded payout or wallet is different. -/
structure Untouched (s s' : Platform) : Prop where
  attempts : s'.attempts = s.attempts
  withdrawals : s'.withdrawals = s.withdrawals
  fundedPayouts : s'.fundedPayouts = s.fundedPayouts
  ledger : s'.ledger = s.ledger

/-- The only attempt that carries the identifier, and no other withdrawal mirrors it. -/
structure OnlyAttempt (s : Platform) (event : ProviderPayoutEvent) (k : ℕ) : Prop where
  carries : ∃ a, s.attempts.get k = some a ∧ Carries event a
  only : ∀ j a, s.attempts.get j = some a → Carries event a → j = k
  mirror : ∀ w wr a, s.withdrawals.get w = some wr → Mirrors event wr → s.attempts.get k = some a →
    w = a.withdrawalRequest

/-- The only withdrawal that mirrors the identifier, which no attempt carries. -/
structure OnlyWithdrawal (s : Platform) (event : ProviderPayoutEvent) (w : ℕ) : Prop where
  mirrors : ∃ wr, s.withdrawals.get w = some wr ∧ Mirrors event wr
  only : ∀ v wr, s.withdrawals.get v = some wr → Mirrors event wr → v = w
  noAttempt : ∀ j a, s.attempts.get j = some a → ¬ Carries event a

def FundedLink (s : Platform) (w : ℕ) : Prop := ∃ i f, s.fundedPayouts.get i = some f ∧ f.withdrawalRequest = some w

def SeveralCandidates (s : Platform) (event : ProviderPayoutEvent) : Prop :=
  (∃ j k a b, j ≠ k ∧ s.attempts.get j = some a ∧ s.attempts.get k = some b ∧ Carries event a ∧ Carries event b) ∨
    ∃ v w wr wr', v ≠ w ∧ s.withdrawals.get v = some wr ∧ s.withdrawals.get w = some wr' ∧ Mirrors event wr ∧
      Mirrors event wr'

structure Exact (s : Platform) (event : ProviderPayoutEvent) : Prop where
  attempt : ∀ k, resolvePayoutTarget s event = .attempt k → OnlyAttempt s event k
  funded : ∀ w, resolvePayoutTarget s event = .funded w → OnlyWithdrawal s event w ∧ FundedLink s w
  legacy : ∀ w, resolvePayoutTarget s event = .legacy w → OnlyWithdrawal s event w ∧ ¬ FundedLink s w
  reference : event.providerReference ≠ "" → ∀ batchId,
    resolvePayoutTarget s { event with providerBatchId := batchId } = resolvePayoutTarget s event
  several : SeveralCandidates s event → ∃ reason, resolvePayoutTarget s event = .ambiguous reason

/-- An event with no match is only marked: its processing changes nothing else, whatever happens in between. -/
def LeftAlone (s : Platform) (e : ℕ) : Prop :=
  ∀ row, s.events.get e = some row → unmatched (resolvePayoutTarget s row.event) = true →
    Untouched s (resolveEvent s e) ∧
    (row.correlationStatus ≠ .resolved →
      ∃ error bumpRetry, (resolveEvent s e).handlers.get s.handlers.next = some ⟨e, .unresolved error bumpRetry⟩ ∧
        ∀ t : Platform, t.handlers.get s.handlers.next = some ⟨e, .unresolved error bumpRetry⟩ →
          Untouched t (processWebhookEvent t s.handlers.next) ∧
            (processWebhookEvent t s.handlers.next).handlers.get s.handlers.next = some ⟨e, .finished⟩)

section Matches

variable {s : Platform} {event : ProviderPayoutEvent} {k w : ℕ} {attempts withdrawals : List ℕ} {missing : String}

lemma mem_matches {ρ : Type} {t : Table ρ} {p : ρ → Bool} {k : ℕ} :
    k ∈ (t.rows.filter fun r => p r.2).map Prod.fst ↔ ∃ a, t.get k = some a ∧ p a = true := by
  rw [List.mem_map]
  constructor
  · rintro ⟨⟨j, a⟩, hmem, rfl⟩
    obtain ⟨hrow, hp⟩ := List.mem_filter.mp hmem
    exact ⟨a, Table.mem_rows.mp hrow, hp⟩
  · rintro ⟨a, ha, hp⟩
    exact ⟨(k, a), List.mem_filter.mpr ⟨Table.mem_rows.mpr ha, hp⟩, rfl⟩

lemma mem_attemptMatches {p : PayoutAttempt → Bool} :
    k ∈ attemptMatches s p ↔ ∃ a, s.attempts.get k = some a ∧ p a = true := mem_matches

lemma mem_withdrawalMatches {p : WithdrawalRequest → Bool} :
    w ∈ withdrawalMatches s p ↔ ∃ wr, s.withdrawals.get w = some wr ∧ p wr = true := mem_matches

lemma classifyLegacy_eq (s : Platform) (w : ℕ) :
    (classifyLegacy s w = .funded w ∧ FundedLink s w) ∨ (classifyLegacy s w = .legacy w ∧ ¬ FundedLink s w) := by
  rw [classifyLegacy]
  split
  · next hlink =>
    obtain ⟨i, f, hf, hw⟩ := Table.exists?_iff.mp hlink
    exact .inl ⟨rfl, i, f, hf, of_decide_eq_true hw⟩
  · next hlink =>
    refine .inr ⟨rfl, ?_⟩
    rintro ⟨i, f, hf, hw⟩
    exact hlink (Table.exists?_iff.mpr ⟨i, f, hf, decide_eq_true hw⟩)

lemma correlate_cases (s : Platform) (attempts withdrawals : List ℕ) (missing : String) :
    (∃ reason, correlate s attempts withdrawals missing = .ambiguous reason) ∨
      (∃ k, attempts = [k] ∧ correlate s attempts withdrawals missing = .attempt k ∧
        ∀ w ∈ withdrawals, (s.attempts.get k).any (fun a => a.withdrawalRequest = w) = true) ∨
      (∃ k w reason, attempts = [k] ∧ withdrawals = [w] ∧
        correlate s attempts withdrawals missing = .integrityViolation reason) ∨
      (∃ w, attempts = [] ∧ withdrawals = [w] ∧ correlate s attempts withdrawals missing = classifyLegacy s w) ∨
      (attempts = [] ∧ withdrawals = [] ∧ correlate s attempts withdrawals missing = .orphan missing) := by
  rcases attempts with _ | ⟨k, _ | ⟨j, attempts⟩⟩
  · rcases withdrawals with _ | ⟨w, _ | ⟨v, withdrawals⟩⟩
    · exact .inr (.inr (.inr (.inr ⟨rfl, rfl, rfl⟩)))
    · exact .inr (.inr (.inr (.inl ⟨w, rfl, rfl, rfl⟩)))
    · exact .inl ⟨_, rfl⟩
  · rcases withdrawals with _ | ⟨w, _ | ⟨v, withdrawals⟩⟩
    · exact .inr (.inl ⟨k, rfl, rfl, by simp⟩)
    · by_cases hown : (s.attempts.get k).any (fun a => a.withdrawalRequest = w) = true
      · refine .inr (.inl ⟨k, rfl, ?_, by simpa using hown⟩)
        rw [correlate, if_pos hown]
      · refine .inr (.inr (.inl ⟨k, w, "PayoutAttempt", rfl, rfl, ?_⟩))
        rw [correlate, if_neg hown]
    · exact .inl ⟨_, rfl⟩
  · exact .inl ⟨_, rfl⟩

lemma two_of_mem {xs : List ℕ} {i j : ℕ} (hi : i ∈ xs) (hj : j ∈ xs) (hne : i ≠ j) : 2 ≤ xs.length := by
  rcases xs with _ | ⟨x, _ | ⟨y, xs⟩⟩
  · cases hi
  · rw [List.mem_singleton] at hi hj
    exact (hne (hi.trans hj.symm)).elim
  · simp

lemma correlate_several (h : 2 ≤ attempts.length ∨ 2 ≤ withdrawals.length) :
    ∃ reason, correlate s attempts withdrawals missing = .ambiguous reason := by
  rcases correlate_cases s attempts withdrawals missing with h' | ⟨k, rfl, hk, -⟩ | ⟨k, w, reason, rfl, rfl, -⟩ |
    ⟨w, rfl, rfl, -⟩ | ⟨rfl, rfl, -⟩
  · exact h'
  · rcases withdrawals with _ | ⟨w, _ | ⟨v, withdrawals⟩⟩
    · simp at h
    · simp at h
    · exact ⟨_, rfl⟩
  all_goals simp at h

/-- The candidates are the rows that carry the event's identifier; an event without one has none. -/
lemma resolve_candidates (s : Platform) (event : ProviderPayoutEvent) :
    ∃ attempts withdrawals missing, resolvePayoutTarget s event = correlate s attempts withdrawals missing ∧
      (∀ k, k ∈ attempts ↔ ∃ a, s.attempts.get k = some a ∧ Carries event a) ∧
      ∀ w, w ∈ withdrawals ↔ ∃ wr, s.withdrawals.get w = some wr ∧ Mirrors event wr := by
  by_cases href : event.providerReference ≠ ""
  · have hkey : key event = some (.reference event.providerReference) := if_pos href
    rw [resolvePayoutTarget, if_pos href]
    refine ⟨_, _, _, rfl, fun k => mem_attemptMatches.trans ?_, fun w => mem_withdrawalMatches.trans ?_⟩
    · simp [Carries, hkey]
    · simp [Mirrors, hkey]
  · by_cases hbatch : event.providerBatchId ≠ ""
    · have hkey : key event = some (.batch event.providerBatchId) := by rw [key, if_neg href, if_pos hbatch]
      rw [resolvePayoutTarget, if_neg href, if_pos hbatch]
      refine ⟨_, _, _, rfl, fun k => mem_attemptMatches.trans ?_, fun w => mem_withdrawalMatches.trans ?_⟩
      · simp [Carries, hkey]
      · simp [Mirrors, hkey]
    · have hkey : key event = none := by rw [key, if_neg href, if_neg hbatch]
      rw [resolvePayoutTarget, if_neg href, if_neg hbatch]
      exact ⟨[], [], _, rfl, by simp [Carries, hkey], by simp [Mirrors, hkey]⟩

lemma exact_target (s : Platform) (event : ProviderPayoutEvent) : Exact s event := by
  obtain ⟨attempts, withdrawals, missing, hresolve, hattempts, hwithdrawals⟩ := resolve_candidates s event
  have htargets : (∀ k, resolvePayoutTarget s event = .attempt k → OnlyAttempt s event k) ∧
      (∀ w, resolvePayoutTarget s event = .funded w → OnlyWithdrawal s event w ∧ FundedLink s w) ∧
      ∀ w, resolvePayoutTarget s event = .legacy w → OnlyWithdrawal s event w ∧ ¬ FundedLink s w := by
    rcases correlate_cases s attempts withdrawals missing with ⟨reason, h⟩ | ⟨k, rfl, h, hown⟩ |
      ⟨k, w, reason, -, -, h⟩ | ⟨w, rfl, rfl, h⟩ | ⟨-, -, h⟩
    · simp [hresolve, h]
    · -- the attempt is the only candidate of its kind, and the withdrawal there may be is its own
      rw [hresolve, h]
      refine ⟨fun j hj => ?_, by simp, by simp⟩
      obtain rfl : k = j := Target.attempt.inj hj
      refine ⟨(hattempts k).mp (List.mem_singleton_self k), fun i a ha hcarries => ?_, fun w wr a hw hmirrors ha => ?_⟩
      · exact List.mem_singleton.mp ((hattempts i).mpr ⟨a, ha, hcarries⟩)
      · have hmine := hown w ((hwithdrawals w).mpr ⟨wr, hw, hmirrors⟩)
        rw [ha, Option.any_some, decide_eq_true_iff] at hmine
        exact hmine.symm
    · simp [hresolve, h]
    · -- a withdrawal from before there were attempts, or of a funded payout
      have honly : OnlyWithdrawal s event w := by
        refine ⟨(hwithdrawals w).mp (List.mem_singleton_self w), fun v wr hv hwr => ?_, fun j a ha hcarries => ?_⟩
        · exact List.mem_singleton.mp ((hwithdrawals v).mpr ⟨wr, hv, hwr⟩)
        · exact List.not_mem_nil ((hattempts j).mpr ⟨a, ha, hcarries⟩)
      rw [hresolve, h]
      rcases classifyLegacy_eq s w with ⟨heq, hlink⟩ | ⟨heq, hlink⟩
      · rw [heq]
        refine ⟨by simp, fun v hv => ?_, by simp⟩
        obtain rfl : w = v := Target.funded.inj hv
        exact ⟨honly, hlink⟩
      · rw [heq]
        refine ⟨by simp, by simp, fun v hv => ?_⟩
        obtain rfl : w = v := Target.legacy.inj hv
        exact ⟨honly, hlink⟩
    · simp [hresolve, h]
  refine ⟨htargets.1, htargets.2.1, htargets.2.2, fun href batchId => ?_, fun hseveral => ?_⟩
  · simp only [resolvePayoutTarget, href, ne_eq, not_false_eq_true, if_true]
  · rw [hresolve]
    apply correlate_several
    rcases hseveral with ⟨j, k, a, b, hne, ha, hb, hca, hcb⟩ | ⟨v, w, wr, wr', hne, hv, hw, hmv, hmw⟩
    · exact .inl (two_of_mem ((hattempts j).mpr ⟨a, ha, hca⟩) ((hattempts k).mpr ⟨b, hb, hcb⟩) hne)
    · exact .inr (two_of_mem ((hwithdrawals v).mpr ⟨wr, hv, hmv⟩) ((hwithdrawals w).mpr ⟨wr', hw, hmw⟩) hne)

lemma stageOf_unmatched (event : ProviderPayoutEvent) {target : Target} (h : unmatched target = true) :
    ∃ error bumpRetry, stageOf event target = .unresolved error bumpRetry := by
  cases target with
  | attempt k => cases h
  | funded w => cases h
  | legacy w => cases h
  | ambiguous reason => exact ⟨_, _, rfl⟩
  | integrityViolation reason => exact ⟨_, _, rfl⟩
  | orphan reason => exact ⟨_, _, rfl⟩

lemma resolveEvent_untouched (s : Platform) (e : ℕ) : Untouched s (resolveEvent s e) := by
  rw [resolveEvent]
  split
  · exact ⟨rfl, rfl, rfl, rfl⟩
  · split <;> exact ⟨rfl, rfl, rfl, rfl⟩

lemma processWebhookEvent_unresolved {t : Platform} {i e : ℕ} {error : String} {bumpRetry : Bool}
    (h : t.handlers.get i = some ⟨e, .unresolved error bumpRetry⟩) :
    Untouched t (processWebhookEvent t i) ∧ (processWebhookEvent t i).handlers.get i = some ⟨e, .finished⟩ := by
  have hstep : processWebhookEvent t i = Orchestrator.Platform.setHandler
      (Orchestrator.Platform.setEvent t e (unresolvedEvent t.now error bumpRetry)) i .finished := by
    unfold processWebhookEvent
    simp only [h]
  rw [hstep]
  exact ⟨⟨rfl, rfl, rfl, rfl⟩, Table.get_update_self h _⟩

lemma leftAlone (s : Platform) (e : ℕ) : LeftAlone s e := by
  intro row hrow hunmatched
  refine ⟨resolveEvent_untouched s e, fun hopen => ?_⟩
  obtain ⟨error, bumpRetry, hstage⟩ := stageOf_unmatched row.event hunmatched
  refine ⟨error, bumpRetry, ?_, fun t ht => processWebhookEvent_unresolved ht⟩
  simp [resolveEvent, hrow, hopen, hstage]

end Matches

/-- For every database and every event: what is matched is the only candidate of its kind, and an event that is not
matched leaves the payouts and the money as they are. -/
theorem correlation_exact (s : Platform) :
    (∀ event, Exact s event) ∧ (∀ e, LeftAlone s e) ∧ ∀ e row, s.events.get e = some row →
      row.correlationStatus = .resolved → resolveEvent s e = s := by
  refine ⟨exact_target s, leftAlone s, fun e row hrow hresolved => ?_⟩
  simp [resolveEvent, hrow, hresolved]

def finishedEvent : ProviderPayoutEvent where
  provider := providerName
  providerReference := "P1"
  providerBatchId := ""
  normalizedStatus := some .completed
  rawStatus := "FINISHED"
  payload := ⟨none, ""⟩

/-- A withdrawal from before there were payout attempts. -/
def legacyWithdrawal : Platform :=
  { Safety.oneWithdrawal with
    withdrawals := Table.ofList [{ Safety.pendingWithdrawal with npPayoutId := "P1" }] }

theorem matched_without_attempt :
    resolvePayoutTarget legacyWithdrawal finishedEvent = .legacy 0 ∧
      ¬ ∃ k a, legacyWithdrawal.attempts.get k = some a ∧ Carries finishedEvent a := by
  refine ⟨by decide +kernel, ?_⟩
  rintro ⟨k, a, ha, -⟩
  cases ha

end TrxSimulator.Payouts.Correlation
