import TrxSimulator.Payouts.Safety

/-! The withdrawal fee in the payout engine: the provider is asked for the net amount, and the completion of a
request books its fee, however often and by whom it is reported. -/

namespace TrxSimulator.Payouts.Fees

open Foundations.Tables Foundations.Outcomes Money Accounts Wallets.Ledger
open Records StateMachine Orchestrator Funded.Payouts Machine Effects Safety

variable {p : Action → Prop} {s s' : Platform} {terms : ℕ → Balance → Balance → Balance → Prop}

/-- A request that no fee policy was evaluated for. -/
def Unpriced (s : Platform) (w : ℕ) : Prop := ∃ wr, s.withdrawals.get w = some wr ∧ wr.feeAmount = none

def HasAttempt (s : Platform) (w : ℕ) : Prop := ∃ k a, s.attempts.get k = some a ∧ a.withdrawalRequest = w

/-- The requests with a fee: `terms` relates the gross amount of a request to its fee and its net amount. -/
structure Ordered (terms : ℕ → Balance → Balance → Balance → Prop) (s : Platform) : Prop where
  terms : ∀ w wr fee, s.withdrawals.get w = some wr → wr.feeAmount = some fee →
    ∃ net, wr.netAmount = some net ∧ terms w wr.amountUsd fee net
  live : ∀ w wr fee, s.withdrawals.get w = some wr → wr.feeAmount = some fee →
    wr.status = .pending ∨ (wr.status = .rejected ∧ wr.npPayoutId = "" ∧ wr.npBatchId = "") ∨ HasAttempt s w
  asked : ∀ x actor w basis, s.submissions.get x = some ⟨actor, .previewed w basis⟩ →
    ∃ wr, s.withdrawals.get w = some wr ∧ ∀ fee, wr.feeAmount = some fee → wr.netAmount = some basis
  sent : ∀ k a wr fee, s.attempts.get k = some a → s.withdrawals.get a.withdrawalRequest = some wr →
    wr.feeAmount = some fee → wr.netAmount = some a.requestedAmountUsd
  targets : ∀ i e w t, s.handlers.get i = some ⟨e, .matched t⟩ → t = .funded w ∨ t = .legacy w → Unpriced s w
  internals : ∀ i x, s.internals.get i = some x → Unpriced s x.withdrawal
  fees : ∀ i row w, s.revenue.get i = some row → row.source = .withdrawFee w → ∃ k a wr, s.attempts.get k = some a ∧
    a.withdrawalRequest = w ∧ a.status = .completed ∧ s.withdrawals.get w = some wr ∧
    wr.feeAmount = some row.amount ∧ row.amount.units ≠ 0
  booked : ∀ k a wr fee, s.attempts.get k = some a → a.status = .completed →
    s.withdrawals.get a.withdrawalRequest = some wr → wr.feeAmount = some fee → fee.units ≠ 0 →
    ∃ i row, s.revenue.get i = some row ∧ row.source = .withdrawFee a.withdrawalRequest
  once : ∀ i j row row' w, s.revenue.get i = some row → s.revenue.get j = some row' →
    row.source = .withdrawFee w → row'.source = .withdrawFee w → i = j

section Aside

/-- Requests with a fee stay as they are, and the others get none. -/
structure PricesKept (t t' : Table WithdrawalRequest) : Prop where
  kept : ∀ w wr, t.get w = some wr →
    ∃ wr', t'.get w = some wr' ∧ (wr' = wr ∨ wr.feeAmount = none ∧ wr'.feeAmount = none)
  back : ∀ w wr' fee, t'.get w = some wr' → wr'.feeAmount = some fee → t.get w = some wr'

def FeesKept (t t' : Table BrokerLedger) : Prop :=
  ∀ i row w, row.source = .withdrawFee w → (t'.get i = some row ↔ t.get i = some row)

lemma PricesKept.refl (t : Table WithdrawalRequest) : PricesKept t t where
  kept _ wr h := ⟨wr, h, .inl rfl⟩
  back _ _ _ h _ := h

lemma FeesKept.refl (t : Table BrokerLedger) : FeesKept t t := fun _ _ _ _ => Iff.rfl

lemma pricesKept_update {w : ℕ} {f : WithdrawalRequest → WithdrawalRequest} (hw : Unpriced s w)
    (hf : ∀ wr, (f wr).feeAmount = wr.feeAmount) : PricesKept s.withdrawals (s.withdrawals.update w f) := by
  obtain ⟨v, hv, hnone⟩ := hw
  constructor
  · intro u wr hwr
    by_cases hu : u = w
    · subst hu
      obtain rfl : v = wr := Option.some.inj (hv.symm.trans hwr)
      exact ⟨f v, Table.get_update_self hv f, .inr ⟨hnone, (hf v).trans hnone⟩⟩
    · exact ⟨wr, by rwa [Table.get_update_ne _ hu], .inl rfl⟩
  · intro u wr' fee hwr' hfee
    by_cases hu : u = w
    · subst hu
      rw [Table.get_update_self hv, Option.some.injEq] at hwr'
      rw [← hwr', hf, hnone] at hfee
      cases hfee
    · rwa [Table.get_update_ne _ hu] at hwr'

lemma pricesKept_insert {t : Table WithdrawalRequest} {wr : WithdrawalRequest} (h : wr.feeAmount = none) :
    PricesKept t (t.insert wr) where
  kept _ v hv := ⟨v, Table.get_insert_of_get hv _, .inl rfl⟩
  back _ v fee hv hfee := by
    rcases Table.get_insert_some hv with hv | ⟨-, rfl⟩
    · exact hv
    · rw [h] at hfee
      cases hfee

lemma feesKept_book (t : Table BrokerLedger) (r : ℕ) (amount : Balance) :
    FeesKept t (bookRevenue t (.fundedProfitShare r) amount) := by
  intro i row w hsource
  unfold bookRevenue
  split
  · rfl
  · refine ⟨fun hi => ?_, fun hi => Table.get_insert_of_get hi _⟩
    rcases Table.get_insert_some hi with hi | ⟨-, rfl⟩
    · exact hi
    · cases hsource

lemma not_allowed_self (a : AttemptStatus) : a ∉ allowedTransitions a := by
  cases a <;> simp [allowedTransitions]

lemma effect_aside (h : Ordered terms s) (e : Effect p s s') (hattempts : s'.attempts = s.attempts) :
    PricesKept s.withdrawals s'.withdrawals ∧ FeesKept s.revenue s'.revenue := by
  have hmoved : ∀ {k : ℕ} {a a' : PayoutAttempt} {wr wr' : WithdrawalRequest}, s.attempts.get k = some a →
      Synced a a' wr wr' → s.attempts.update k (fun _ => a') ≠ s.attempts := by
    intro k a a' wr wr' ha hsynced heq
    have hsame : some a' = some a := by rw [← ha, ← Table.get_update_self ha fun _ => a', heq]
    rw [Option.some.injEq] at hsame
    exact not_allowed_self a.status (hsame ▸ hsynced.allowed)
  cases e with
  | claimed w wr wr' a =>
    have hnext := congrArg Table.next hattempts
    rw [Table.next_insert] at hnext
    omega
  | applied submissions handlers reconciliations happlied =>
    cases happlied with
    | same => exact ⟨.refl _, .refl _⟩
    | moved k a a' wr wr' revenue found request synced => exact absurd hattempts (hmoved found synced)
    | refunded k a a' wr wr' l reason found request synced => exact absurd hattempts (hmoved found synced)
  | legacy i e w wr event n l handlers matched =>
    exact ⟨pricesKept_update (h.targets i e w _ matched (.inr rfl)) fun _ => rfl, .refl _⟩
  | fundedMarked w r wr f event n handlers called =>
    obtain ⟨i, e, hmatched⟩ := called.matched
    exact ⟨pricesKept_update (h.targets i e w _ hmatched (.inl rfl)) fun _ => rfl, .refl _⟩
  | fundedCompleted w r wr f account event revenue handlers called active owner advances share =>
    obtain ⟨i, e, hmatched⟩ := called.matched
    subst share
    exact ⟨pricesKept_update (h.targets i e w _ hmatched (.inl rfl)) fun _ => rfl, feesKept_book _ _ _⟩
  | fundedFailed w r wr f account restored event entries handlers called =>
    obtain ⟨i, e, hmatched⟩ := called.matched
    exact ⟨pricesKept_update (h.targets i e w _ hmatched (.inl rfl)) fun _ => rfl, .refl _⟩
  | simApproved r f f' account balance l entries revenue request pending owner amount terms posted kind entry share =>
    subst share
    exact ⟨.refl _, feesKept_book _ _ _⟩
  | internalApproved r adminUser f => exact ⟨pricesKept_insert rfl, .refl _⟩
  | reversed i x account restored entries found =>
    exact ⟨pricesKept_update (f := fun wr => { wr with status := .failed }) (h.internals i x found) fun _ => rfl,
      .refl _⟩
  | recorded i x batchId payoutId raw cryptoAmount found =>
    exact ⟨pricesKept_update
      (f := fun wr => { wr with status := .processing, npBatchId := batchId, npPayoutId := payoutId,
                                npPayoutStatus := raw, cryptoAmount := some cryptoAmount })
      (h.internals i x found) fun _ => rfl, .refl _⟩
  | _ => exact ⟨.refl _, .refl _⟩

end Aside

section Resolution

lemma correlate_withdrawal {attempts withdrawals : List ℕ} {missing : String} {w : ℕ}
    (h : correlate s attempts withdrawals missing = .funded w ∨ correlate s attempts withdrawals missing = .legacy w) :
    w ∈ withdrawals := by
  unfold correlate at h
  split at h
  · simp at h
  · simp at h
  · split at h <;> simp at h
  · simp at h
  · unfold classifyLegacy at h
    split at h <;> simp_all
  · simp at h

/-- An event leads to a request through a reference that the request carries. -/
lemma resolve_referenced {event : ProviderPayoutEvent} {w : ℕ}
    (h : resolvePayoutTarget s event = .funded w ∨ resolvePayoutTarget s event = .legacy w) :
    ∃ wr, s.withdrawals.get w = some wr ∧ (wr.npPayoutId ≠ "" ∨ wr.npBatchId ≠ "") := by
  have hmatch : ∀ p : WithdrawalRequest → Bool, w ∈ withdrawalMatches s p →
      ∃ wr, s.withdrawals.get w = some wr ∧ p wr = true := by
    intro p hw
    obtain ⟨⟨j, wr⟩, hmem, rfl⟩ := List.mem_map.mp hw
    obtain ⟨hwr, hp⟩ := List.mem_filter.mp hmem
    exact ⟨wr, Table.mem_rows.mp hwr, hp⟩
  unfold resolvePayoutTarget at h
  split at h
  · next href =>
    obtain ⟨wr, hwr, hp⟩ := hmatch _ (correlate_withdrawal h)
    refine ⟨wr, hwr, .inl ?_⟩
    rw [of_decide_eq_true hp]
    exact href
  · split at h
    · next hbatch =>
      obtain ⟨wr, hwr, hp⟩ := hmatch _ (correlate_withdrawal h)
      refine ⟨wr, hwr, .inr ?_⟩
      rw [of_decide_eq_true hp]
      exact hbatch
    · simp at h

lemma resolved_unpriced (hm : Mirrored s) (h : Ordered terms s) {event : ProviderPayoutEvent}
    (hprovider : event.provider = providerName) {w : ℕ}
    (heq : resolvePayoutTarget s event = .funded w ∨ resolvePayoutTarget s event = .legacy w) : Unpriced s w := by
  obtain ⟨wr, hwr, href⟩ := resolve_referenced heq
  have hsound := resolvePayoutTarget_sound hm hprovider
  have hretail : ¬ Retail s w := by
    rcases heq with heq | heq <;> rw [heq] at hsound <;> exact hsound.2
  refine ⟨wr, hwr, ?_⟩
  cases hfee : wr.feeAmount with
  | none => rfl
  | some fee =>
    exfalso
    rcases h.live w wr fee hwr hfee with hpending | ⟨-, hpayout, hbatch⟩ | hattempt
    · exact hretail ⟨wr, hwr, .inl hpending⟩
    · exact href.elim (· hpayout) (· hbatch)
    · exact hretail ⟨wr, hwr, .inr hattempt⟩

end Resolution

section Calls

lemma PricesKept.unpriced (h : PricesKept s.withdrawals s'.withdrawals) {w : ℕ} (hw : Unpriced s w) :
    Unpriced s' w := by
  obtain ⟨wr, hwr, hnone⟩ := hw
  obtain ⟨wr', hwr', rfl | ⟨-, hnone'⟩⟩ := h.kept w wr hwr
  · exact ⟨wr', hwr', hnone⟩
  · exact ⟨wr', hwr', hnone'⟩

lemma effect_unpriced (hm : Mirrored s) (hc : Calls s) (h : Ordered terms s) (e : Effect p s s')
    (hkept : ∀ w, Unpriced s w → Unpriced s' w) :
    (∀ i e w t, s'.handlers.get i = some ⟨e, .matched t⟩ → t = .funded w ∨ t = .legacy w → Unpriced s' w) ∧
      ∀ i x, s'.internals.get i = some x → Unpriced s' x.withdrawal := by
  refine ⟨fun i j w t hi ht => hkept w ?_, fun i x hx => ?_⟩
  · rcases effect_targets e hi with hi | ⟨row, hrow, rfl⟩
    · exact h.targets i j w t hi ht
    · exact resolved_unpriced hm h (hc.providers j row hrow) ht
  · rcases effect_internals e hx with ⟨x₀, hx₀, heq, -⟩ | ⟨hw, f, adminUser, hinsert⟩
    · rw [heq]
      exact hkept _ (h.internals i x₀ hx₀)
    · refine ⟨internalWithdrawal f adminUser, ?_, rfl⟩
      rw [hinsert, hw, Table.get_insert_next]

lemma ordered_aside (hm : Mirrored s) (hc : Calls s) (h : Ordered terms s) (e : Effect p s s')
    (hattempts : s'.attempts = s.attempts) (hsubmissions : s'.submissions = s.submissions) : Ordered terms s' := by
  obtain ⟨hprices, hfees⟩ := effect_aside h e hattempts
  obtain ⟨htargets, hinternals⟩ := effect_unpriced hm hc h e fun _ => hprices.unpriced
  exact
    { terms := fun w wr fee hwr hfee => h.terms w wr fee (hprices.back w wr fee hwr hfee) hfee
      live := fun w wr fee hwr hfee => by
        simp only [HasAttempt, hattempts]
        exact h.live w wr fee (hprices.back w wr fee hwr hfee) hfee
      asked := fun x actor w basis hx => by
        rw [hsubmissions] at hx
        obtain ⟨wr, hwr, hnet⟩ := h.asked x actor w basis hx
        obtain ⟨wr', hwr', rfl | ⟨-, hnone⟩⟩ := hprices.kept w wr hwr
        · exact ⟨wr', hwr', hnet⟩
        · exact ⟨wr', hwr', fun fee hfee => by rw [hnone] at hfee; cases hfee⟩
      sent := fun k a wr fee ha hwr hfee => by
        rw [hattempts] at ha
        exact h.sent k a wr fee ha (hprices.back _ wr fee hwr hfee) hfee
      targets := htargets
      internals := hinternals
      fees := fun i row w hi hsource => by
        obtain ⟨k, a, wr, ha, haw, hcompleted, hwr, hfee, hne⟩ := h.fees i row w ((hfees i row w hsource).mp hi) hsource
        obtain ⟨wr', hwr', rfl | ⟨hnone, -⟩⟩ := hprices.kept w wr hwr
        · exact ⟨k, a, wr', by rwa [hattempts], haw, hcompleted, hwr', hfee, hne⟩
        · rw [hnone] at hfee
          cases hfee
      booked := fun k a wr fee ha hcompleted hwr hfee hne => by
        rw [hattempts] at ha
        obtain ⟨i, row, hi, hsource⟩ := h.booked k a wr fee ha hcompleted (hprices.back _ wr fee hwr hfee) hfee hne
        exact ⟨i, row, (hfees i row _ hsource).mpr hi, hsource⟩
      once := fun i j row row' w hi hj hsource hsource' =>
        h.once i j row row' w ((hfees i row w hsource).mp hi) ((hfees j row' w hsource').mp hj) hsource hsource' }

end Calls

section Engine

def bookFee (revenue : Table BrokerLedger) (w : ℕ) (feeAmount : Option Balance) : Table BrokerLedger :=
  feeAmount.elim revenue (bookRevenue revenue (.withdrawFee w))

def SameAmounts (wr wr' : WithdrawalRequest) : Prop :=
  wr'.amountUsd = wr.amountUsd ∧ wr'.feeAmount = wr.feeAmount ∧ wr'.netAmount = wr.netAmount

/-- The engine writes one attempt with its request, and books the fee of a completion. -/
structure Writes (s s' : Platform) (k : ℕ) (a' : PayoutAttempt) (wr wr' : WithdrawalRequest) : Prop where
  found : s.withdrawals.get a'.withdrawalRequest = some wr
  withdrawals : s'.withdrawals = s.withdrawals.update a'.withdrawalRequest fun _ => wr'
  written : s'.attempts.get k = some a'
  others : ∀ j, j ≠ k → s'.attempts.get j = s.attempts.get j
  before : ∀ a, s.attempts.get k = some a → a.status.terminal = false ∧ a'.withdrawalRequest = a.withdrawalRequest
  amounts : SameAmounts wr wr'
  sent : ∀ fee, wr.feeAmount = some fee → wr.netAmount = some a'.requestedAmountUsd
  revenue : s'.revenue =
    if a'.status = .completed then bookFee s.revenue a'.withdrawalRequest wr.feeAmount else s.revenue

/-- No preview, no matched event and no internal payout comes in. -/
structure Quiet (s s' : Platform) : Prop where
  previews : ∀ x actor w basis, s'.submissions.get x = some ⟨actor, .previewed w basis⟩ →
    s.submissions.get x = some ⟨actor, .previewed w basis⟩
  handlers : Advances s.handlers s'.handlers
  internals : s'.internals = s.internals

variable {k : ℕ} {a' : PayoutAttempt} {wr wr' : WithdrawalRequest}

lemma bookRevenue_cases (t : Table BrokerLedger) (source : RevenueSource) (amount : Balance) :
    (bookRevenue t source amount = t ∧ (amount.units ≠ 0 → ∃ i row, t.get i = some row ∧ row.source = source)) ∨
      (bookRevenue t source amount = t.insert ⟨source, amount⟩ ∧ amount.units ≠ 0 ∧
        ∀ i row, t.get i = some row → row.source ≠ source) := by
  unfold bookRevenue
  split
  · next h =>
    refine .inl ⟨rfl, fun hne => ?_⟩
    obtain ⟨i, row, hi, hsource⟩ := Table.exists?_iff.mp (h.resolve_left hne)
    exact ⟨i, row, hi, of_decide_eq_true hsource⟩
  · next h =>
    rw [not_or, Bool.not_eq_true] at h
    exact .inr ⟨rfl, h.1, fun i row hi => of_decide_eq_false (Table.exists?_false h.2 hi)⟩

lemma writes_revenue (hw : Writes s s' k a' wr wr') :
    (s'.revenue = s.revenue ∧ ∀ fee, a'.status = .completed → wr.feeAmount = some fee → fee.units ≠ 0 →
      ∃ i row, s.revenue.get i = some row ∧ row.source = .withdrawFee a'.withdrawalRequest) ∨
    ∃ fee, a'.status = .completed ∧ wr.feeAmount = some fee ∧ fee.units ≠ 0 ∧
      s'.revenue = s.revenue.insert ⟨.withdrawFee a'.withdrawalRequest, fee⟩ ∧
      ∀ i row, s.revenue.get i = some row → row.source ≠ .withdrawFee a'.withdrawalRequest := by
  rw [hw.revenue]
  split
  · next hcompleted =>
    cases hfee : wr.feeAmount with
    | none => exact .inl ⟨rfl, fun fee _ h => nomatch h⟩
    | some fee =>
      rcases bookRevenue_cases s.revenue (.withdrawFee a'.withdrawalRequest) fee with ⟨hsame, hrow⟩ | ⟨hnew, hne, hno⟩
      · refine .inl ⟨hsame, fun fee' _ heq hne => hrow ?_⟩
        obtain rfl := Option.some.inj heq
        exact hne
      · exact .inr ⟨fee, hcompleted, rfl, hne, hnew, hno⟩
  · next hopen => exact .inl ⟨rfl, fun _ hcompleted => absurd hcompleted hopen⟩

lemma update_back {t : Table WithdrawalRequest} {w v : ℕ} {u : WithdrawalRequest} (found : t.get w = some wr)
    (hamounts : SameAmounts wr wr') (hu : (t.update w fun _ => wr').get v = some u) :
    ∃ u₀, t.get v = some u₀ ∧ SameAmounts u₀ u ∧ (v = w ∧ u = wr' ∨ v ≠ w ∧ u = u₀) := by
  by_cases hself : v = w
  · subst hself
    rw [Table.get_update_self found, Option.some.injEq] at hu
    subst hu
    exact ⟨wr, found, hamounts, .inl ⟨rfl, rfl⟩⟩
  · rw [Table.get_update_ne _ hself] at hu
    exact ⟨u, hu, ⟨rfl, rfl, rfl⟩, .inr ⟨hself, rfl⟩⟩

lemma update_forth {t : Table WithdrawalRequest} {w v : ℕ} {u₀ : WithdrawalRequest} (found : t.get w = some wr)
    (hamounts : SameAmounts wr wr') (hu : t.get v = some u₀) :
    ∃ u, (t.update w fun _ => wr').get v = some u ∧ SameAmounts u₀ u := by
  by_cases hself : v = w
  · subst hself
    obtain rfl : wr = u₀ := Option.some.inj (found.symm.trans hu)
    exact ⟨wr', Table.get_update_self hu _, hamounts⟩
  · exact ⟨u₀, by rwa [Table.get_update_ne _ hself], ⟨rfl, rfl, rfl⟩⟩

lemma writes_back (hw : Writes s s' k a' wr wr') {w : ℕ} {u : WithdrawalRequest} (hu : s'.withdrawals.get w = some u) :
    ∃ u₀, s.withdrawals.get w = some u₀ ∧ SameAmounts u₀ u ∧
      (w = a'.withdrawalRequest ∧ u = wr' ∨ w ≠ a'.withdrawalRequest ∧ u = u₀) := by
  rw [hw.withdrawals] at hu
  exact update_back hw.found hw.amounts hu

lemma writes_forth (hw : Writes s s' k a' wr wr') {w : ℕ} {u₀ : WithdrawalRequest}
    (hu : s.withdrawals.get w = some u₀) : ∃ u, s'.withdrawals.get w = some u ∧ SameAmounts u₀ u := by
  rw [hw.withdrawals]
  exact update_forth hw.found hw.amounts hu

lemma writes_attempt (hw : Writes s s' k a' wr wr') {w : ℕ} (h : HasAttempt s w) : HasAttempt s' w := by
  obtain ⟨j, b, hb, hbw⟩ := h
  by_cases hj : j = k
  · subst hj
    exact ⟨j, a', hw.written, (hw.before b hb).2.trans hbw⟩
  · exact ⟨j, b, by rwa [hw.others j hj], hbw⟩

lemma writes_completed (hw : Writes s s' k a' wr wr') {j : ℕ} {b : PayoutAttempt} (hb : s.attempts.get j = some b)
    (hcompleted : b.status = .completed) : s'.attempts.get j = some b := by
  have hj : j ≠ k := by
    rintro rfl
    have hopen := (hw.before b hb).1
    rw [hcompleted] at hopen
    cases hopen
  rwa [hw.others j hj]

lemma writes_unpriced (hw : Writes s s' k a' wr wr') {w : ℕ} (h : Unpriced s w) : Unpriced s' w := by
  obtain ⟨u₀, hu₀, hnone⟩ := h
  obtain ⟨u, hu, -, hfee, -⟩ := writes_forth hw hu₀
  exact ⟨u, hu, hfee.trans hnone⟩

lemma ordered_writes (h : Ordered terms s) (hw : Writes s s' k a' wr wr') (hq : Quiet s s') : Ordered terms s' where
  terms w u fee hu hfee := by
    obtain ⟨u₀, hu₀, ⟨hgross, hsame, hnet⟩, -⟩ := writes_back hw hu
    rw [hgross, hnet]
    exact h.terms w u₀ fee hu₀ (hsame.symm.trans hfee)
  live w u fee hu hfee := by
    obtain ⟨u₀, hu₀, ⟨-, hsame, -⟩, ⟨rfl, -⟩ | ⟨-, rfl⟩⟩ := writes_back hw hu
    · exact .inr (.inr ⟨k, a', hw.written, rfl⟩)
    · exact (h.live w u fee hu₀ hfee).imp_right (Or.imp_right (writes_attempt hw))
  asked x actor w basis hx := by
    obtain ⟨u₀, hu₀, hbasis⟩ := h.asked x actor w basis (hq.previews x actor w basis hx)
    obtain ⟨u, hu, -, hfee, hnet⟩ := writes_forth hw hu₀
    exact ⟨u, hu, fun fee heq => hnet.trans (hbasis fee (hfee.symm.trans heq))⟩
  sent j b u fee hb hu hfee := by
    obtain ⟨u₀, hu₀, ⟨-, hsame, hnet⟩, -⟩ := writes_back hw hu
    rw [hnet]
    rw [hsame] at hfee
    by_cases hj : j = k
    · subst hj
      obtain rfl : a' = b := Option.some.inj (hw.written.symm.trans hb)
      obtain rfl : wr = u₀ := Option.some.inj (hw.found.symm.trans hu₀)
      exact hw.sent fee hfee
    · rw [hw.others j hj] at hb
      exact h.sent j b u₀ fee hb hu₀ hfee
  targets i e w t hi ht := writes_unpriced hw (h.targets i e w t (hq.handlers i e t hi) ht)
  internals i x hx := writes_unpriced hw (h.internals i x (by rwa [hq.internals] at hx))
  fees i row w hi hsource := by
    have hold : s.revenue.get i = some row → ∃ k a wr, s'.attempts.get k = some a ∧ a.withdrawalRequest = w ∧
        a.status = .completed ∧ s'.withdrawals.get w = some wr ∧ wr.feeAmount = some row.amount ∧
        row.amount.units ≠ 0 := by
      intro hi
      obtain ⟨j, b, u₀, hb, hbw, hcompleted, hu₀, hfee, hne⟩ := h.fees i row w hi hsource
      obtain ⟨u, hu, -, hsame, -⟩ := writes_forth hw hu₀
      exact ⟨j, b, u, writes_completed hw hb hcompleted, hbw, hcompleted, hu, hsame.trans hfee, hne⟩
    rcases writes_revenue hw with ⟨hsame, -⟩ | ⟨fee, hcompleted, hfee, hne, hnew, -⟩
    · rw [hsame] at hi
      exact hold hi
    · rw [hnew] at hi
      rcases Table.get_insert_some hi with hi | ⟨-, rfl⟩
      · exact hold hi
      · cases hsource
        obtain ⟨u, hu, -, hsame, -⟩ := writes_forth hw hw.found
        exact ⟨k, a', u, hw.written, rfl, hcompleted, hu, hsame.trans hfee, hne⟩
  booked j b u fee hb hcompleted hu hfee hne := by
    obtain ⟨u₀, hu₀, ⟨-, hsame, -⟩, -⟩ := writes_back hw hu
    rw [hsame] at hfee
    have hkept : ∀ i row, s.revenue.get i = some row → s'.revenue.get i = some row := by
      intro i row hi
      rcases writes_revenue hw with ⟨hsame, -⟩ | ⟨fee', -, -, -, hnew, -⟩
      · rwa [hsame]
      · rw [hnew]
        exact Table.get_insert_of_get hi _
    by_cases hj : j = k
    · subst hj
      obtain rfl : a' = b := Option.some.inj (hw.written.symm.trans hb)
      obtain rfl : wr = u₀ := Option.some.inj (hw.found.symm.trans hu₀)
      rcases writes_revenue hw with ⟨-, hrow⟩ | ⟨fee', -, -, -, hnew, -⟩
      · obtain ⟨i, row, hi, hsource⟩ := hrow fee hcompleted hfee hne
        exact ⟨i, row, hkept i row hi, hsource⟩
      · refine ⟨s.revenue.next, ⟨.withdrawFee a'.withdrawalRequest, fee'⟩, ?_, rfl⟩
        rw [hnew, Table.get_insert_next]
    · rw [hw.others j hj] at hb
      obtain ⟨i, row, hi, hsource⟩ := h.booked j b u₀ fee hb hcompleted hu₀ hfee hne
      exact ⟨i, row, hkept i row hi, hsource⟩
  once i j row row' w hi hj hsource hsource' := by
    rcases writes_revenue hw with ⟨hsame, -⟩ | ⟨fee, -, -, -, hnew, hno⟩
    · rw [hsame] at hi hj
      exact h.once i j row row' w hi hj hsource hsource'
    · rw [hnew] at hi hj
      rcases Table.get_insert_some hi with hi | ⟨hi', rfl⟩ <;> rcases Table.get_insert_some hj with hj | ⟨hj', rfl⟩
      · exact h.once i j row row' w hi hj hsource hsource'
      · cases hsource'
        exact absurd hsource (hno i row hi)
      · cases hsource
        exact absurd hsource' (hno j row' hj)
      · rw [hi', hj']

lemma ordered_same (h : Ordered terms s) (hwithdrawals : s'.withdrawals = s.withdrawals)
    (hattempts : s'.attempts = s.attempts) (hrevenue : s'.revenue = s.revenue) (hq : Quiet s s') :
    Ordered terms s' where
  terms := by rw [hwithdrawals]; exact h.terms
  live := by simp only [HasAttempt, hwithdrawals, hattempts]; exact h.live
  asked x actor w basis hx := by
    rw [hwithdrawals]
    exact h.asked x actor w basis (hq.previews x actor w basis hx)
  sent := by rw [hwithdrawals, hattempts]; exact h.sent
  targets i e w t hi ht := by
    rw [Unpriced, hwithdrawals]
    exact h.targets i e w t (hq.handlers i e t hi) ht
  internals i x hx := by
    rw [hq.internals] at hx
    rw [Unpriced, hwithdrawals]
    exact h.internals i x hx
  fees := by rw [hwithdrawals, hattempts, hrevenue]; exact h.fees
  booked := by rw [hwithdrawals, hattempts, hrevenue]; exact h.booked
  once := by rw [hrevenue]; exact h.once

end Engine

section Appliers

/-- The engine settles an attempt or leaves it, and none of the calls under way. -/
structure Settled (s s' : Platform) : Prop where
  attempts : (s'.withdrawals = s.withdrawals ∧ s'.attempts = s.attempts ∧ s'.revenue = s.revenue) ∨
    ∃ k a' wr wr', Writes s s' k a' wr wr'
  submissions : s'.submissions = s.submissions
  handlers : s'.handlers = s.handlers
  internals : s'.internals = s.internals

lemma Settled.refl (s : Platform) : Settled s s := ⟨.inl ⟨rfl, rfl, rfl⟩, rfl, rfl, rfl⟩

lemma ordered_settled (h : Ordered terms s) (hs : Settled s s') : Ordered terms s' := by
  have hq : Quiet s s' :=
    { previews := fun x actor w basis hx => by rwa [hs.submissions] at hx
      handlers := by rw [hs.handlers]; exact Advances.refl _
      internals := hs.internals }
  rcases hs.attempts with ⟨hwithdrawals, hattempts, hrevenue⟩ | ⟨k, a', wr, wr', hw⟩
  · exact ordered_same h hwithdrawals hattempts hrevenue hq
  · exact ordered_writes h hw hq

variable {k : ℕ} {a a' : PayoutAttempt} {wr wr' : WithdrawalRequest} {n : AttemptStatus} {reason raw : String}
  {preSend : Bool} {payload : Payload}

lemma settled_update (h : Ordered terms s) (ha : s.attempts.get k = some a) (hopen : a.status.terminal = false)
    (hwr : s.withdrawals.get a.withdrawalRequest = some wr) (a' : PayoutAttempt) (wr' : WithdrawalRequest)
    (hattempts : s'.attempts = s.attempts.update k fun _ => a')
    (hwithdrawals : s'.withdrawals = s.withdrawals.update a.withdrawalRequest fun _ => wr')
    (hrevenue : s'.revenue =
      if a'.status = .completed then bookFee s.revenue a.withdrawalRequest wr.feeAmount else s.revenue)
    (hattempt : a'.withdrawalRequest = a.withdrawalRequest ∧ a'.requestedAmountUsd = a.requestedAmountUsd)
    (hamounts : SameAmounts wr wr')
    (hcalls : s'.submissions = s.submissions ∧ s'.handlers = s.handlers ∧ s'.internals = s.internals) :
    Settled s s' := by
  refine ⟨.inr ⟨k, a', wr, wr', ?_⟩, hcalls.1, hcalls.2.1, hcalls.2.2⟩
  exact
    { found := by rwa [hattempt.1]
      withdrawals := by rw [hwithdrawals, hattempt.1]
      written := by rw [hattempts, Table.get_update_self ha]
      others := fun j hj => by rw [hattempts, Table.get_update_ne _ hj]
      before := fun b hb => by
        obtain rfl : a = b := Option.some.inj (ha.symm.trans hb)
        exact ⟨hopen, hattempt.1⟩
      amounts := hamounts
      sent := fun fee hfee => by
        rw [hattempt.2]
        exact h.sent k a wr fee ha hwr hfee
      revenue := by rw [hrevenue, hattempt.1] }

lemma completeAttempt_revenue (s : Platform) (k w : ℕ) (wr : WithdrawalRequest) (payload : Payload) :
    (completeAttempt s k w wr payload).revenue = bookFee s.revenue w wr.feeAmount := by
  unfold completeAttempt bookFee
  cases wr.feeAmount <;> rfl

lemma applyResultWithoutRefund_settled (h : Ordered terms s)
    (hok : applyResultWithoutRefund s k n reason raw payload = .ok s') : Settled s s' := by
  obtain rfl | ⟨a, wr, st, ha, hopen, hwr, -, -, s₁, rfl, rfl⟩ := applyResultWithoutRefund_ok hok
  · exact .refl s'
  · split
    · next hcompleted =>
      subst hcompleted
      by_cases hempty : payload.amount = none ∧ payload.hash = ""
      · exact settled_update h ha hopen hwr (PayoutAttempt.enter a .completed reason raw s.now) { wr with status := st }
          (if_pos hempty) rfl (completeAttempt_revenue _ _ _ _ _) ⟨rfl, rfl⟩ ⟨rfl, rfl, rfl⟩ ⟨rfl, rfl, rfl⟩
      · refine settled_update h ha hopen hwr
          { PayoutAttempt.enter a .completed reason raw s.now with
            confirmedAmount := payload.amount, txHash := payload.hash }
          { wr with status := st } ?_ rfl (completeAttempt_revenue _ _ _ _ _) ⟨rfl, rfl⟩ ⟨rfl, rfl, rfl⟩ ⟨rfl, rfl, rfl⟩
        simp only [completeAttempt, if_neg hempty, Table.update_update]
        rfl
    · next hn =>
      exact settled_update h ha hopen hwr (PayoutAttempt.enter a n reason raw s.now) { wr with status := st } rfl rfl
        (if_neg hn).symm ⟨rfl, rfl⟩ ⟨rfl, rfl, rfl⟩ ⟨rfl, rfl, rfl⟩

lemma applyConfirmedFailureWithRefund_settled (h : Ordered terms s) {actor : Option ℕ}
    (hok : applyConfirmedFailureWithRefund s k reason preSend raw actor = .ok s') : Settled s s' := by
  obtain rfl | ⟨a, wr, st, l, ha, hopen, hwr, -, -, -, rfl⟩ := applyConfirmedFailureWithRefund_ok hok
  · exact .refl s'
  · exact settled_update h ha hopen hwr (PayoutAttempt.enter a .failed reason raw s.now)
      { wr with status := st, npPayoutStatus := if raw = "" then "FAILED" else raw }
      rfl rfl rfl ⟨rfl, rfl⟩ ⟨rfl, rfl, rfl⟩ ⟨rfl, rfl, rfl⟩

lemma applySubmission_settled (h : Ordered terms s) {actor : Option ℕ} {result : SubmissionResult}
    (hok : applySubmission s k actor result = .ok s') : Settled s s' := by
  cases result with
  | accepted reference batchId raw =>
    obtain rfl | ⟨a, wr, st, ha, hopen, hwr, -, -, rfl⟩ := applySubmissionSuccess_ok hok
    · exact .refl s'
    · exact settled_update h ha hopen hwr
        (PayoutAttempt.enter { a with providerReference := reference, providerBatchId := batchId } .processing "" raw
          s.now)
        { wr with status := st, npBatchId := batchId, npPayoutId := reference, npPayoutStatus := raw,
                  cryptoAmount := a.providerAmount }
        rfl rfl rfl ⟨rfl, rfl⟩ ⟨rfl, rfl, rfl⟩ ⟨rfl, rfl, rfl⟩
  | authError reason => exact applyConfirmedFailureWithRefund_settled h hok
  | providerError reason => exact applyResultWithoutRefund_settled h hok

lemma applyAttemptWebhook_settled (h : Ordered terms s) {event : ProviderPayoutEvent} {n : Normalized}
    (hok : applyAttemptWebhook s k event n = .ok s') : Settled s s' := by
  cases n with
  | processing => exact applyResultWithoutRefund_settled h hok
  | completed => exact applyResultWithoutRefund_settled h hok
  | failed => exact applyConfirmedFailureWithRefund_settled h hok

lemma applyLookupOutcome_settled (h : Ordered terms s) {outcome : LookupOutcome × String × Payload}
    (hok : applyLookupOutcome s k a outcome = .ok s') : Settled s s' := by
  obtain ⟨outcome, raw, payload⟩ := outcome
  cases outcome with
  | foundProcessing =>
    simp only [applyLookupOutcome] at hok
    split at hok
    · cases hok
      exact .refl s
    · exact applyResultWithoutRefund_settled h hok
  | foundCompleted => exact applyResultWithoutRefund_settled h hok
  | foundFailed => exact applyConfirmedFailureWithRefund_settled h hok
  | notFound | unavailable | ambiguous | unsupported =>
    cases hok
    exact .refl s

lemma reconcileAttempt_settled (h : Ordered terms s) {answer : LookupAnswer} {scan : Scan}
    (hok : reconcileAttempt s k answer scan = .ok s') : Settled s s' := by
  cases scan with
  | aged => exact applyResultWithoutRefund_settled h hok
  | unknown | processing =>
    simp only [reconcileAttempt, bind_eq_ok] at hok
    obtain ⟨a, -, hok⟩ := hok
    exact applyLookupOutcome_settled h hok

end Appliers

section Steps

variable {submission : ℕ}

lemma ordered_preview (h : Ordered terms s) {w : ℕ} {actor : Option ℕ} (hok : previewWithdrawal s w actor = .ok s') :
    Ordered terms s' := by
  simp only [previewWithdrawal, bind_eq_ok, lockWithdrawal, require_eq_ok, guard_eq_ok, pure_eq_ok] at hok
  obtain ⟨wr, hwr, -, rfl⟩ := hok
  refine { h with asked := fun x actor' v basis hx => ?_ }
  rcases Table.get_insert_some hx with hx | ⟨-, heq⟩
  · exact h.asked x actor' v basis hx
  · cases heq
    refine ⟨wr, hwr, fun fee hfee => ?_⟩
    obtain ⟨net, hnet, -⟩ := h.terms w wr fee hwr hfee
    rw [hnet, Option.getD_some]

lemma quiet_setSubmission {stage : SubmissionStage} (hstage : ∀ w basis, stage ≠ .previewed w basis) :
    Quiet s (Orchestrator.Platform.setSubmission s submission stage) where
  previews x actor w basis hx := by
    obtain ⟨y, hy, heq⟩ := Table.get_update_some hx
    split at heq
    · cases heq
      exact absurd rfl (hstage w basis)
    · rw [hy, heq]
  handlers := Advances.refl _
  internals := rfl

lemma ordered_setSubmission (h : Ordered terms s) {stage : SubmissionStage}
    (hstage : ∀ w basis, stage ≠ .previewed w basis) :
    Ordered terms (Orchestrator.Platform.setSubmission s submission stage) :=
  ordered_same h rfl rfl rfl (quiet_setSubmission hstage)

lemma ordered_claimWithdrawal (h : Ordered terms s) {w k : ℕ} {basis : Balance} {actor : Option ℕ} {amount : ℚ}
    (hasked : ∃ wr, s.withdrawals.get w = some wr ∧ ∀ fee, wr.feeAmount = some fee → wr.netAmount = some basis)
    (hok : claimWithdrawal s w basis actor amount = .ok (s', k)) : Ordered terms s' := by
  obtain ⟨wr, wr', a, hwr, -, hwr', ha, rfl⟩ := claimWithdrawal_eq_ok hok
  obtain ⟨found, hfound, hbasis⟩ := hasked
  obtain rfl : wr = found := Option.some.inj (hwr.symm.trans hfound)
  obtain ⟨hrequest, hrequested, hsubmitted⟩ :
      a.withdrawalRequest = w ∧ a.requestedAmountUsd = basis ∧ a.status = .submitted := by
    rw [ha]
    exact ⟨rfl, rfl, rfl⟩
  have hwrites : Writes s { s with attempts := s.attempts.insert a, withdrawals := s.withdrawals.update w fun _ => wr' }
      s.attempts.next a wr wr' :=
    { found := by rwa [hrequest]
      withdrawals := by rw [hrequest]
      written := Table.get_insert_next _ _
      others := fun j hj => by rw [Table.get_insert, if_neg hj]
      before := fun b hb => by rw [Table.get_next] at hb; cases hb
      amounts := by rw [hwr']; exact ⟨rfl, rfl, rfl⟩
      sent := by rwa [hrequested]
      revenue := by rw [hsubmitted, if_neg (by decide)] }
  exact ordered_writes h hwrites ⟨fun _ _ _ _ hx => hx, Advances.refl _, rfl⟩

lemma ordered_claim (h : Ordered terms s) (estimate : Option ℚ) :
    Ordered terms (claimSubmission s submission estimate) := by
  unfold claimSubmission
  split
  · next actor w basis hx =>
    split
    · exact ordered_setSubmission h fun _ _ => by simp
    · split
      · next r hok =>
        exact ordered_setSubmission (ordered_claimWithdrawal h (h.asked _ actor w basis hx) hok) fun _ _ => by simp
      · exact ordered_setSubmission h fun _ _ => by simp
  · exact h

lemma ordered_finish (h : Ordered terms s) (result : SubmissionResult) :
    Ordered terms (finishSubmission s submission result) := by
  unfold finishSubmission
  split
  · split
    · next hok =>
      exact ordered_setSubmission (ordered_settled h (applySubmission_settled h hok)) fun _ _ => by simp
    · exact ordered_setSubmission h fun _ _ => by simp
  · exact h

lemma ordered_reconcile (h : Ordered terms s) (reconciliation : ℕ) (answer : LookupAnswer) :
    Ordered terms (finishReconciliation s reconciliation answer) := by
  unfold finishReconciliation
  split
  · exact h
  · next x _ =>
    have hdropped : Ordered terms { s with
        reconciliations := s.reconciliations.update reconciliation fun _ => none } :=
      ordered_same h rfl rfl rfl ⟨fun _ _ _ _ hx => hx, Advances.refl _, rfl⟩
    refine commit_rule (motive := Ordered terms) _ _ hdropped fun s' hok => ?_
    exact ordered_settled hdropped (reconcileAttempt_settled hdropped hok)

lemma applyFundedInternalWebhook_aside {w : ℕ} {event : ProviderPayoutEvent} {n : Normalized}
    (hok : applyFundedInternalWebhook s w event n = .ok s') :
    s'.attempts = s.attempts ∧ s'.submissions = s.submissions := by
  simp only [applyFundedInternalWebhook, bind_eq_ok, lockWithdrawal, require_eq_ok] at hok
  obtain ⟨wr, -, hok⟩ := hok
  split at hok
  · rw [← pure_eq_ok.mp hok]
    exact ⟨rfl, rfl⟩
  · simp only [bind_eq_ok, require_eq_ok, Option.map_eq_some_iff, pure_eq_ok] at hok
    obtain ⟨_, ⟨⟨r, f⟩, hlatest, rfl⟩, s₁, hwebhook, rfl⟩ := hok
    rcases handleInternalPayoutWebhook_eq_ok (Table.latest_some hlatest).1 hwebhook with ⟨rfl, -⟩ |
      ⟨-, account, -, ⟨-, rfl⟩ | ⟨-, restored, -, rfl⟩⟩ <;> exact ⟨rfl, rfl⟩

lemma applyLegacyWithdrawalWebhook_aside {w : ℕ} {event : ProviderPayoutEvent} {n : Normalized}
    (hok : applyLegacyWithdrawalWebhook s w event n = .ok s') :
    s'.attempts = s.attempts ∧ s'.submissions = s.submissions := by
  simp only [applyLegacyWithdrawalWebhook, bind_eq_ok, lockWithdrawal, require_eq_ok] at hok
  obtain ⟨wr, -, hok⟩ := hok
  split at hok
  · rw [← pure_eq_ok.mp hok]
    exact ⟨rfl, rfl⟩
  · split at hok
    · simp only [bind_eq_ok, lockWallet, require_eq_ok, Option.map_eq_some_iff, mapError_eq_ok, pure_eq_ok] at hok
      obtain ⟨_, -, credited, -, rfl⟩ := hok
      exact ⟨rfl, rfl⟩
    · rw [← pure_eq_ok.mp hok]
      exact ⟨rfl, rfl⟩

/-- The processing of an event settles an attempt, or leaves the attempts alone. -/
lemma processWebhookEvent_cases (h : Ordered terms s) (i : ℕ) : Ordered terms (processWebhookEvent s i) ∨
    ((processWebhookEvent s i).attempts = s.attempts ∧ (processWebhookEvent s i).submissions = s.submissions) := by
  unfold processWebhookEvent
  split
  · exact .inr ⟨rfl, rfl⟩
  · next e target hget =>
    split
    · exact .inr ⟨rfl, rfl⟩
    · split
      · next s' attempt hok =>
        cases target with
        | attempt pk =>
          obtain ⟨s₁, happly, hpair⟩ := map_eq_ok.mp hok
          cases hpair
          have hsettled := ordered_settled h (applyAttemptWebhook_settled h happly)
          refine .inl (ordered_same hsettled rfl rfl rfl ⟨fun _ _ _ _ hx => hx, ?_, rfl⟩)
          exact advances_update i fun _ => by simp
        | funded w =>
          obtain ⟨s₁, happly, hpair⟩ := map_eq_ok.mp hok
          cases hpair
          obtain ⟨hattempts, hsubmissions⟩ := applyFundedInternalWebhook_aside happly
          exact .inr ⟨hattempts, hsubmissions⟩
        | legacy w =>
          obtain ⟨s₁, happly, hpair⟩ := map_eq_ok.mp hok
          cases hpair
          obtain ⟨hattempts, hsubmissions⟩ := applyLegacyWithdrawalWebhook_aside happly
          exact .inr ⟨hattempts, hsubmissions⟩
        | ambiguous reason | integrityViolation reason | orphan reason =>
          cases hok
          exact .inr ⟨rfl, rfl⟩
      · exact .inr ⟨rfl, rfl⟩
  · exact .inr ⟨rfl, rfl⟩
  · exact .inr ⟨rfl, rfl⟩

lemma commit_aside {ε : Type} {x : Except ε Platform}
    (hx : ∀ s', x = .ok s' → s'.attempts = s.attempts ∧ s'.submissions = s.submissions) :
    (commit s x).attempts = s.attempts ∧ (commit s x).submissions = s.submissions :=
  commit_rule (motive := fun s' : Platform => s'.attempts = s.attempts ∧ s'.submissions = s.submissions) s x
    ⟨rfl, rfl⟩ hx

lemma submitInternal_aside (i : ℕ) (answer : InternalAnswer) :
    (submitInternal s i answer).attempts = s.attempts ∧ (submitInternal s i answer).submissions = s.submissions := by
  have hreverse : ∀ x reason, (commit s (reverseAndFail s x reason)).attempts = s.attempts ∧
      (commit s (reverseAndFail s x reason)).submissions = s.submissions := by
    intro x reason
    refine commit_aside fun s' hok => ?_
    simp only [reverseAndFail, bind_eq_ok, lockAccount, require_eq_ok, cents_eq_ok, pure_eq_ok] at hok
    obtain ⟨account, -, restored, -, rfl⟩ := hok
    exact ⟨rfl, rfl⟩
  unfold submitInternal
  split
  · cases answer with
    | estimateFailed reason | authFailed reason => exact hreverse _ _
    | postFailed reason | unparseable reason => exact ⟨rfl, rfl⟩
    | accepted batchId payoutId raw amount => exact ⟨rfl, rfl⟩
  · exact ⟨rfl, rfl⟩

lemma ordered_step (hm : Mirrored s) (hc : Calls s) (h : Ordered terms s) (action : Action) :
    Ordered terms (step s action) := by
  have haside : (step s action).attempts = s.attempts ∧ (step s action).submissions = s.submissions →
      Ordered terms (step s action) := fun ⟨hattempts, hsubmissions⟩ =>
    ordered_aside hm hc h (step_effect (p := fun _ => True) s action trivial) hattempts hsubmissions
  cases action with
  | previewWithdrawal w actor =>
    exact commit_rule (motive := Ordered terms) _ _ h fun s' hok => ordered_preview h hok
  | claimSubmission submission estimate => exact ordered_claim h estimate
  | finishSubmission submission result => exact ordered_finish h result
  | processWebhookEvent i => exact (processWebhookEvent_cases h i).elim id haside
  | finishReconciliation i answer => exact ordered_reconcile h i answer
  | receiveEvent reference batchId raw payload =>
    apply haside
    simp only [step, receiveEvent]
    split <;> exact ⟨rfl, rfl⟩
  | resolveEvent e =>
    apply haside
    simp only [step, resolveEvent]
    split
    · exact ⟨rfl, rfl⟩
    · split <;> exact ⟨rfl, rfl⟩
  | scanAttempt k scan =>
    apply haside
    simp only [step, scanAttempt]
    split
    · split <;> exact ⟨rfl, rfl⟩
    · exact ⟨rfl, rfl⟩
  | approveSimPayout r adminUser =>
    refine haside (commit_aside fun s' hok => ?_)
    simp only [approveSimPayout, bind_eq_ok, lockFunded, require_eq_ok, guard_eq_ok, mapError_eq_ok, pure_eq_ok] at hok
    obtain ⟨f, -, -, -, balance, -, credited, -, rfl⟩ := hok
    exact ⟨rfl, rfl⟩
  | approveInternalPayout r adminUser =>
    refine haside (commit_aside fun s' hok => ?_)
    simp only [approveInternalPayout, bind_eq_ok, lockFunded, require_eq_ok, guard_eq_ok, pure_eq_ok] at hok
    obtain ⟨f, -, -, -, -, balance, -, rfl⟩ := hok
    exact ⟨rfl, rfl⟩
  | submitInternal i answer => exact haside (submitInternal_aside i answer)
  | recordWithdrawal i =>
    apply haside
    simp only [step, recordWithdrawal]
    split <;> exact ⟨rfl, rfl⟩
  | recordRequest i =>
    apply haside
    simp only [step, recordRequest]
    split
    · split
      · exact ⟨rfl, rfl⟩
      · split <;> exact ⟨rfl, rfl⟩
    · exact ⟨rfl, rfl⟩
  | readFundedPayout user enrollment visit =>
    refine haside (commit_aside fun s' hok => ?_)
    obtain ⟨d, -, rfl⟩ := map_eq_ok.mp hok
    exact ⟨rfl, rfl⟩
  | createFundedPayout d =>
    apply haside
    simp only [step, insertFundedPayout]
    split
    · exact ⟨rfl, rfl⟩
    · refine commit_rule (motive := fun s' : Platform => s'.attempts = s.attempts ∧ s'.submissions = s.submissions)
        _ _ ⟨rfl, rfl⟩ fun s' hok => ?_
      simp only [createFundedPayout, bind_eq_ok, guard_eq_ok, cents_eq_ok, pure_eq_ok] at hok
      obtain ⟨-, -, -, profit, -, trader, -, broker, -, -, rfl⟩ := hok
      exact ⟨rfl, rfl⟩
  | trade k profit =>
    refine haside (commit_aside fun s' hok => ?_)
    simp only [realizePnl, bind_eq_ok, lockAccount, require_eq_ok, cents_eq_ok, pure_eq_ok] at hok
    obtain ⟨account, -, balance, -, amount, -, rfl⟩ := hok
    exact ⟨rfl, rfl⟩
  | credit w n t text | debit w n t text =>
    refine haside (commit_aside fun s' hok => ?_)
    obtain ⟨r, -, rfl⟩ := map_eq_ok.mp hok
    exact ⟨rfl, rfl⟩
  | openWallet user | wait seconds => exact haside ⟨rfl, rfl⟩

end Steps

end TrxSimulator.Payouts.Fees
