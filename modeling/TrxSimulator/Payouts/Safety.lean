import TrxSimulator.Payouts.Effects

/-! Money safety of the payout engine: a withdrawal is credited back once if its attempt failed and never
otherwise, whatever the order of submissions, events and lookups. -/

namespace TrxSimulator.Payouts.Safety

open Foundations.Runs Foundations.Tables Foundations.Outcomes Foundations.Decimals Money Accounts
open Wallets.Ledger Records StateMachine Orchestrator Funded.Payouts Machine Effects

/-- A withdrawal of the attempt engine: still pending, or with an attempt. -/
def Retail (s : Platform) (w : ℕ) : Prop :=
  ∃ wr, s.withdrawals.get w = some wr ∧
    (wr.status = .pending ∨ ∃ k a, s.attempts.get k = some a ∧ a.withdrawalRequest = w)

/-- The request mirrors its attempt, and an attempt without an answer carries no reference. -/
structure Agrees (a : PayoutAttempt) (wr : WithdrawalRequest) : Prop where
  status : deriveWithdrawalStatus a.status = .ok wr.status
  payoutId : wr.npPayoutId = a.providerReference
  batchId : wr.npBatchId = a.providerBatchId
  provider : a.provider = providerName
  unsent : a.status = .submitted ∨ a.status = .unknown → a.providerReference = "" ∧ a.providerBatchId = ""

structure Mirrored (s : Platform) : Prop where
  agrees : ∀ k a, s.attempts.get k = some a →
    ∃ wr, s.withdrawals.get a.withdrawalRequest = some wr ∧ Agrees a wr
  single : ∀ j k a b, s.attempts.get j = some a → s.attempts.get k = some b →
    a.withdrawalRequest = b.withdrawalRequest → j = k
  untouched : ∀ w wr, s.withdrawals.get w = some wr → wr.status = .pending →
    wr.npPayoutId = "" ∧ wr.npBatchId = ""

def refundOf (k : ℕ) (row : WalletTransaction PayoutNote) : Prop := ∃ reason, row.note = some (.refund k reason)

structure Repays (l : WalletLedger PayoutNote) (row : WalletTransaction PayoutNote) (user : ℕ)
    (amountUsd : Balance) : Prop where
  txType : row.txType = .correction
  amount : row.amount.units = amountUsd.units
  owner : ∃ v, l.wallets.get row.wallet = some v ∧ v.user = user

structure Repaid (s : Platform) : Prop where
  refunds : ∀ i row k, s.ledger.transactions.get i = some row → refundOf k row →
    ∃ a wr, s.attempts.get k = some a ∧ a.status = .failed ∧
      s.withdrawals.get a.withdrawalRequest = some wr ∧ Repays s.ledger row wr.user wr.amountUsd
  once : ∀ i j row row' k, s.ledger.transactions.get i = some row → s.ledger.transactions.get j = some row' →
    refundOf k row → refundOf k row' → i = j
  paid : ∀ k a, s.attempts.get k = some a → a.status = .failed →
    ∃ i row, s.ledger.transactions.get i = some row ∧ refundOf k row
  legacy : ∀ i row w reference, s.ledger.transactions.get i = some row →
    row.note = some (.legacyRefund w reference) → ¬ Retail s w

def TargetSound (s : Platform) : Target → Prop
  | .attempt k => ∃ a, s.attempts.get k = some a ∧ a.status ≠ .submitted ∧ a.status ≠ .unknown
  | .funded w | .legacy w => w < s.withdrawals.next ∧ ¬ Retail s w
  | _ => True

structure Calls (s : Platform) : Prop where
  providers : ∀ e row, s.events.get e = some row → row.event.provider = providerName
  targets : ∀ h e t, s.handlers.get h = some ⟨e, .matched t⟩ → TargetSound s t
  internals : ∀ i x, s.internals.get i = some x → ¬ Retail s x.withdrawal

structure Sound (s : Platform) : Prop where
  mirrored : Mirrored s
  repaid : Repaid s
  calls : Calls s

/-- What no step takes back. -/
structure Later (s s' : Platform) : Prop where
  withdrawals : ∀ w wr, s.withdrawals.get w = some wr → ∃ wr', s'.withdrawals.get w = some wr' ∧
    wr'.user = wr.user ∧ wr'.amountUsd = wr.amountUsd
  next : s.withdrawals.next ≤ s'.withdrawals.next
  attempts : ∀ k a, s.attempts.get k = some a → ∃ a', s'.attempts.get k = some a' ∧
    a'.withdrawalRequest = a.withdrawalRequest ∧ (a.status.terminal = true → a'.status = a.status) ∧
    (a'.status = .submitted ∨ a'.status = .unknown → a.status = .submitted ∨ a.status = .unknown)
  retail : ∀ w, Retail s' w ↔ Retail s w
  carried : Carried s.ledger s'.ledger

variable {p : Action → Prop} {s s' s'' : Platform}

lemma Later.trans (h : Later s s') (h' : Later s' s'') : Later s s'' where
  withdrawals w wr hwr := by
    obtain ⟨wr', hwr', hu, ha⟩ := h.withdrawals w wr hwr
    obtain ⟨wr'', hwr'', hu', ha'⟩ := h'.withdrawals w wr' hwr'
    exact ⟨wr'', hwr'', hu'.trans hu, ha'.trans ha⟩
  next := h.next.trans h'.next
  attempts k a ha := by
    obtain ⟨a', ha', hr, ht, hs⟩ := h.attempts k a ha
    obtain ⟨a'', ha'', hr', ht', hs'⟩ := h'.attempts k a' ha'
    refine ⟨a'', ha'', hr'.trans hr, fun hterminal => ?_, fun hopen => hs (hs' hopen)⟩
    rw [ht' (by rwa [ht hterminal]), ht hterminal]
  retail w := (h'.retail w).trans (h.retail w)
  carried := h.carried.trans h'.carried

lemma Later.refl (s : Platform) : Later s s where
  withdrawals _ wr h := ⟨wr, h, rfl, rfl⟩
  next := le_rfl
  attempts _ a h := ⟨a, h, rfl, fun _ => rfl, id⟩
  retail _ := Iff.rfl
  carried := Carried.refl _

section Aside

structure Spares (s s' : Platform) : Prop where
  kept : ∀ w wr, s.withdrawals.get w = some wr → ∃ wr', s'.withdrawals.get w = some wr' ∧
    wr'.user = wr.user ∧ wr'.amountUsd = wr.amountUsd ∧ (wr' = wr ∨ (¬ Retail s w ∧ wr'.status ≠ .pending))
  fresh : ∀ w wr', s'.withdrawals.get w = some wr' →
    (∃ wr, s.withdrawals.get w = some wr) ∨ (s.withdrawals.next ≤ w ∧ wr'.status ≠ .pending)
  next : s.withdrawals.next ≤ s'.withdrawals.next

structure Aside (s s' : Platform) : Prop extends Spares s s' where
  attempts : s'.attempts = s.attempts
  carried : Carried s.ledger s'.ledger
  rows : ∀ i row, s'.ledger.transactions.get i = some row → s.ledger.transactions.get i = some row ∨
    ((∀ k, ¬ refundOf k row) ∧ ∀ w reference, row.note = some (.legacyRefund w reference) → ¬ Retail s w)

lemma aside_attempted (h : Aside s s') {k : ℕ} {a : PayoutAttempt} (ha : s.attempts.get k = some a)
    {wr : WithdrawalRequest} (hwr : s.withdrawals.get a.withdrawalRequest = some wr) :
    s'.withdrawals.get a.withdrawalRequest = some wr := by
  obtain ⟨wr', hwr', -, -, rfl | ⟨hretail, -⟩⟩ := h.kept _ wr hwr
  · exact hwr'
  · exact (hretail ⟨wr, hwr, Or.inr ⟨k, a, ha, rfl⟩⟩).elim

lemma aside_pending (h : Aside s s') {w : ℕ} {wr' : WithdrawalRequest} (hwr' : s'.withdrawals.get w = some wr')
    (hpending : wr'.status = .pending) : s.withdrawals.get w = some wr' := by
  rcases h.fresh w wr' hwr' with ⟨wr, hwr⟩ | ⟨-, hnot⟩
  · obtain ⟨wr₁, hwr₁, -, -, hsame⟩ := h.kept w wr hwr
    have heq : wr' = wr₁ := Option.some.inj (hwr'.symm.trans hwr₁)
    rcases hsame with rfl | ⟨-, hnot⟩
    · exact heq ▸ hwr
    · exact (hnot (heq ▸ hpending)).elim
  · exact (hnot hpending).elim

lemma aside_later (h : Aside s s') (hm : Mirrored s) : Later s s' where
  withdrawals w wr hwr := by
    obtain ⟨wr', hwr', hu, ha, -⟩ := h.kept w wr hwr
    exact ⟨wr', hwr', hu, ha⟩
  next := h.next
  attempts k a ha := ⟨a, by rwa [h.attempts], rfl, fun _ => rfl, id⟩
  retail w := by
    constructor
    · rintro ⟨wr', hwr', hpending | ⟨k, a, ha, rfl⟩⟩
      · exact ⟨wr', aside_pending h hwr' hpending, Or.inl hpending⟩
      · rw [h.attempts] at ha
        obtain ⟨wr, hwr, -⟩ := hm.agrees k a ha
        exact ⟨wr, hwr, Or.inr ⟨k, a, ha, rfl⟩⟩
    · rintro ⟨wr, hwr, hcase⟩
      obtain ⟨wr', hwr', -, -, rfl | ⟨hretail, -⟩⟩ := h.kept w wr hwr
      · exact ⟨wr', hwr', by rwa [h.attempts]⟩
      · exact (hretail ⟨wr, hwr, hcase⟩).elim
  carried := h.carried

lemma aside_mirrored (h : Aside s s') (hm : Mirrored s) : Mirrored s' where
  agrees k a ha := by
    rw [h.attempts] at ha
    obtain ⟨wr, hwr, hagrees⟩ := hm.agrees k a ha
    exact ⟨wr, aside_attempted h ha hwr, hagrees⟩
  single := by
    rw [h.attempts]
    exact hm.single
  untouched w wr hwr hpending := hm.untouched w wr (aside_pending h hwr hpending) hpending

lemma Repays.carried {l l' : WalletLedger PayoutNote} {row : WalletTransaction PayoutNote} {user : ℕ}
    {amountUsd : Balance} (h : Repays l row user amountUsd) (hc : Carried l l') : Repays l' row user amountUsd := by
  obtain ⟨v, hv, hu⟩ := h.owner
  obtain ⟨v', hv', hu', -⟩ := hc.wallets _ v hv
  exact ⟨h.txType, h.amount, v', hv', hu'.trans hu⟩

lemma aside_repaid (h : Aside s s') (hm : Mirrored s) (hr : Repaid s) : Repaid s' where
  refunds i row k hrow hof := by
    rcases h.rows i row hrow with hrow | ⟨hnot, -⟩
    · obtain ⟨a, wr, ha, hfailed, hwr, hrepays⟩ := hr.refunds i row k hrow hof
      exact ⟨a, wr, by rwa [h.attempts], hfailed, aside_attempted h ha hwr, hrepays.carried h.carried⟩
    · exact (hnot k hof).elim
  once i j row row' k hrow hrow' hof hof' := by
    rcases h.rows i row hrow with hrow | ⟨hnot, -⟩
    · rcases h.rows j row' hrow' with hrow' | ⟨hnot, -⟩
      · exact hr.once i j row row' k hrow hrow' hof hof'
      · exact (hnot k hof').elim
    · exact (hnot k hof).elim
  paid k a ha hfailed := by
    rw [h.attempts] at ha
    obtain ⟨i, row, hrow, hof⟩ := hr.paid k a ha hfailed
    exact ⟨i, row, h.carried.rows i row hrow, hof⟩
  legacy i row w reference hrow hnote := by
    rw [(aside_later h hm).retail]
    rcases h.rows i row hrow with hrow | ⟨-, hnot⟩
    · exact hr.legacy i row w reference hrow hnote
    · exact hnot w reference hnote

end Aside

section Engine

/-- A step of the attempt engine: it writes the attempt `k` with its request, and posts the refund when
the attempt fails. -/
structure Engine (s s' : Platform) (k : ℕ) (a' : PayoutAttempt) (wr wr' : WithdrawalRequest) : Prop where
  found : s.withdrawals.get a'.withdrawalRequest = some wr
  withdrawals : s'.withdrawals = s.withdrawals.update a'.withdrawalRequest fun _ => wr'
  written : s'.attempts.get k = some a'
  others : ∀ j, j ≠ k → s'.attempts.get j = s.attempts.get j
  owner : ∀ j b, s.attempts.get j = some b → b.withdrawalRequest = a'.withdrawalRequest → j = k
  advance : ∀ a, s.attempts.get k = some a → a'.withdrawalRequest = a.withdrawalRequest ∧
    a.status.terminal = false ∧
    (a'.status = .submitted ∨ a'.status = .unknown → a.status = .submitted ∨ a.status = .unknown)
  agrees : Agrees a' wr'
  user : wr'.user = wr.user
  amountUsd : wr'.amountUsd = wr.amountUsd
  retail : Retail s a'.withdrawalRequest
  carried : Carried s.ledger s'.ledger
  rows : ∀ i row, s'.ledger.transactions.get i = some row → s.ledger.transactions.get i = some row ∨
    (a'.status = .failed ∧ i = s.ledger.transactions.next ∧ (∃ reason, row.note = some (.refund k reason)) ∧
      Repays s'.ledger row wr.user wr.amountUsd)
  paid : a'.status = .failed → ∃ i row, s'.ledger.transactions.get i = some row ∧ refundOf k row

variable {k : ℕ} {a' : PayoutAttempt} {wr wr' : WithdrawalRequest}

lemma derive_ne_pending {n : AttemptStatus} {st : WithdrawalStatus} (h : deriveWithdrawalStatus n = .ok st) :
    st ≠ .pending := by
  cases n <;> simp only [deriveWithdrawalStatus, Except.ok.injEq, reduceCtorEq] at h <;> subst h <;> decide

lemma engine_withdrawal (h : Engine s s' k a' wr wr') : s'.withdrawals.get a'.withdrawalRequest = some wr' := by
  rw [h.withdrawals]
  exact Table.get_update_self h.found _

lemma engine_other_withdrawal (h : Engine s s' k a' wr wr') {w : ℕ} (hw : w ≠ a'.withdrawalRequest) :
    s'.withdrawals.get w = s.withdrawals.get w := by
  rw [h.withdrawals]
  exact Table.get_update_ne _ hw _

lemma engine_other_attempt (h : Engine s s' k a' wr wr') {j : ℕ} {b : PayoutAttempt} (hj : j ≠ k)
    (hb : s'.attempts.get j = some b) : s.attempts.get j = some b ∧ b.withdrawalRequest ≠ a'.withdrawalRequest := by
  rw [h.others j hj] at hb
  exact ⟨hb, fun hsame => hj (h.owner j b hb hsame)⟩

lemma engine_retail (h : Engine s s' k a' wr wr') (w : ℕ) : Retail s' w ↔ Retail s w := by
  by_cases hw : w = a'.withdrawalRequest
  · subst hw
    exact ⟨fun _ => h.retail, fun _ => ⟨wr', engine_withdrawal h, Or.inr ⟨k, a', h.written, rfl⟩⟩⟩
  · rw [Retail, Retail, engine_other_withdrawal h hw]
    refine exists_congr fun v => and_congr_right fun _ => or_congr_right ?_
    constructor
    · rintro ⟨j, b, hb, hbw⟩
      have hj : j ≠ k := by
        rintro rfl
        rw [h.written, Option.some.injEq] at hb
        exact hw (hb ▸ hbw.symm)
      exact ⟨j, b, (engine_other_attempt h hj hb).1, hbw⟩
    · rintro ⟨j, b, hb, hbw⟩
      have hj : j ≠ k := by
        rintro rfl
        exact hw (hbw.symm.trans (h.advance b hb).1.symm)
      exact ⟨j, b, by rwa [h.others j hj], hbw⟩

lemma engine_later (h : Engine s s' k a' wr wr') : Later s s' where
  withdrawals w v hv := by
    by_cases hw : w = a'.withdrawalRequest
    · subst hw
      rw [h.found, Option.some.injEq] at hv
      subst hv
      exact ⟨wr', engine_withdrawal h, h.user, h.amountUsd⟩
    · exact ⟨v, by rwa [engine_other_withdrawal h hw], rfl, rfl⟩
  next := by rw [h.withdrawals, Table.next_update]
  attempts j b hb := by
    by_cases hj : j = k
    · subst hj
      obtain ⟨hrequest, hopen, hunsent⟩ := h.advance b hb
      refine ⟨a', h.written, hrequest, fun hterminal => ?_, hunsent⟩
      rw [hopen] at hterminal
      cases hterminal
    · exact ⟨b, by rwa [h.others j hj], rfl, fun _ => rfl, id⟩
  retail w := engine_retail h w
  carried := h.carried

lemma engine_mirrored (h : Engine s s' k a' wr wr') (hm : Mirrored s) : Mirrored s' where
  agrees j b hb := by
    by_cases hj : j = k
    · subst hj
      rw [h.written, Option.some.injEq] at hb
      subst hb
      exact ⟨wr', engine_withdrawal h, h.agrees⟩
    · obtain ⟨hb, hbw⟩ := engine_other_attempt h hj hb
      obtain ⟨v, hv, hagrees⟩ := hm.agrees j b hb
      exact ⟨v, by rwa [engine_other_withdrawal h hbw], hagrees⟩
  single i j b c hb hc hsame := by
    by_cases hi : i = k
    · by_cases hj : j = k
      · rw [hi, hj]
      · subst hi
        rw [h.written, Option.some.injEq] at hb
        subst hb
        exact ((engine_other_attempt h hj hc).2 hsame.symm).elim
    · obtain ⟨hb, hbw⟩ := engine_other_attempt h hi hb
      by_cases hj : j = k
      · subst hj
        rw [h.written, Option.some.injEq] at hc
        subst hc
        exact (hbw hsame).elim
      · exact hm.single i j b c hb (engine_other_attempt h hj hc).1 hsame
  untouched w v hv hpending := by
    by_cases hw : w = a'.withdrawalRequest
    · subst hw
      rw [engine_withdrawal h, Option.some.injEq] at hv
      subst hv
      exact (derive_ne_pending h.agrees.status hpending).elim
    · rw [engine_other_withdrawal h hw] at hv
      exact hm.untouched w v hv hpending

lemma engine_old_refund (h : Engine s s' k a' wr wr') (hr : Repaid s) {i j : ℕ}
    {row : WalletTransaction PayoutNote} (hrow : s.ledger.transactions.get i = some row)
    (hof : refundOf j row) : j ≠ k := by
  rintro rfl
  obtain ⟨a, _, ha, hfailed, -⟩ := hr.refunds i row j hrow hof
  have hopen := (h.advance a ha).2.1
  rw [hfailed] at hopen
  cases hopen

lemma refundOf_inj {i j : ℕ} {row : WalletTransaction PayoutNote} {reason : String}
    (hnote : row.note = some (.refund i reason)) (hof : refundOf j row) : j = i := by
  obtain ⟨reason', hnote'⟩ := hof
  rw [hnote] at hnote'
  cases hnote'
  rfl

lemma engine_repaid (h : Engine s s' k a' wr wr') (hr : Repaid s) : Repaid s' where
  refunds i row j hrow hof := by
    rcases h.rows i row hrow with hrow | ⟨hfailed, -, ⟨reason, hnote⟩, hrepays⟩
    · obtain ⟨a, v, ha, hfailed, hv, hrepays⟩ := hr.refunds i row j hrow hof
      have hj := engine_old_refund h hr hrow hof
      have ha' : s'.attempts.get j = some a := by rwa [h.others j hj]
      refine ⟨a, v, ha', hfailed, ?_, hrepays.carried h.carried⟩
      rwa [engine_other_withdrawal h (engine_other_attempt h hj ha').2]
    · obtain rfl := refundOf_inj hnote hof
      refine ⟨a', wr', h.written, hfailed, engine_withdrawal h, ?_⟩
      rwa [h.user, h.amountUsd]
  once i j row row' n hrow hrow' hof hof' := by
    rcases h.rows i row hrow with hrow | ⟨-, hi, ⟨reason, hnote⟩, -⟩
    · rcases h.rows j row' hrow' with hrow' | ⟨-, -, ⟨reason, hnote⟩, -⟩
      · exact hr.once i j row row' n hrow hrow' hof hof'
      · exact (engine_old_refund h hr hrow hof (refundOf_inj hnote hof')).elim
    · rcases h.rows j row' hrow' with hrow' | ⟨-, hj, -, -⟩
      · exact (engine_old_refund h hr hrow' hof' (refundOf_inj hnote hof)).elim
      · rw [hi, hj]
  paid j b hb hfailed := by
    by_cases hj : j = k
    · subst hj
      rw [h.written, Option.some.injEq] at hb
      subst hb
      exact h.paid hfailed
    · obtain ⟨i, row, hrow, hof⟩ := hr.paid j b (engine_other_attempt h hj hb).1 hfailed
      exact ⟨i, row, h.carried.rows i row hrow, hof⟩
  legacy i row w reference hrow hnote := by
    rw [engine_retail h]
    rcases h.rows i row hrow with hrow | ⟨-, -, ⟨reason, hrefund⟩, -⟩
    · exact hr.legacy i row w reference hrow hnote
    · rw [hrefund] at hnote
      cases hnote

end Engine

section Steps

lemma unsent_of_allowed {a b : AttemptStatus} {st : WithdrawalStatus} (h : b ∈ allowedTransitions a)
    (hunsent : b = .submitted ∨ b = .unknown) (hderive : deriveWithdrawalStatus a = .ok st) :
    a = .submitted ∨ a = .unknown := by
  cases a <;> cases b <;> simp_all [allowedTransitions, deriveWithdrawalStatus]

lemma synced_agrees {a a' : PayoutAttempt} {wr wr' : WithdrawalRequest} (h : Synced a a' wr wr')
    (hagrees : Agrees a wr) : Agrees a' wr' := by
  refine ⟨h.status, ?_, ?_, h.provider.trans hagrees.provider, fun hunsent => ?_⟩
  · rcases h.mirror with ⟨hr, -, hid, -⟩ | ⟨-, hid, -⟩
    · rw [hid, hr, hagrees.payoutId]
    · exact hid
  · rcases h.mirror with ⟨-, hb, -, hid⟩ | ⟨-, -, hid⟩
    · rw [hid, hb, hagrees.batchId]
    · exact hid
  · rcases h.mirror with ⟨hr, hb, -, -⟩ | ⟨hprocessing, -, -⟩
    · rw [hr, hb]
      exact hagrees.unsent (unsent_of_allowed h.allowed hunsent hagrees.status)
    · rw [hprocessing] at hunsent
      rcases hunsent with h | h <;> cases h

lemma spares_same (h : s'.withdrawals = s.withdrawals) : Spares s s' where
  kept w wr hwr := ⟨wr, by rwa [h], rfl, rfl, Or.inl rfl⟩
  fresh w wr hwr := Or.inl ⟨wr, by rwa [h] at hwr⟩
  next := by rw [h]

lemma spares_update {w : ℕ} {f : WithdrawalRequest → WithdrawalRequest} (hw : ¬ Retail s w)
    (hf : ∀ wr, (f wr).user = wr.user ∧ (f wr).amountUsd = wr.amountUsd ∧ (f wr).status ≠ .pending)
    (h : s'.withdrawals = s.withdrawals.update w f) : Spares s s' where
  kept v wr hwr := by
    obtain ⟨hu, ha, hs⟩ := hf wr
    by_cases hv : v = w
    · subst hv
      exact ⟨f wr, by rw [h, Table.get_update_self hwr], hu, ha, Or.inr ⟨hw, hs⟩⟩
    · exact ⟨wr, by rwa [h, Table.get_update_ne _ hv], rfl, rfl, Or.inl rfl⟩
  fresh v wr hwr := by
    rw [h] at hwr
    obtain ⟨wr₀, hwr₀, -⟩ := Table.get_update_some hwr
    exact Or.inl ⟨wr₀, hwr₀⟩
  next := by rw [h, Table.next_update]

lemma spares_insert {wr : WithdrawalRequest} (hs : wr.status ≠ .pending)
    (h : s'.withdrawals = s.withdrawals.insert wr) : Spares s s' where
  kept w v hv := ⟨v, by rw [h, Table.get_insert_of_get hv], rfl, rfl, Or.inl rfl⟩
  fresh w v hv := by
    rw [h] at hv
    rcases Table.get_insert_some hv with hv | ⟨rfl, rfl⟩
    · exact Or.inl ⟨v, hv⟩
    · exact Or.inr ⟨le_rfl, hs⟩
  next := by rw [h, Table.next_insert]; omega

lemma aside_quiet (h : Spares s s') (hattempts : s'.attempts = s.attempts) (hledger : s'.ledger = s.ledger) :
    Aside s s' :=
  { h with
    attempts := hattempts
    carried := hledger ▸ Carried.refl _
    rows := fun _ _ hrow => Or.inl (hledger ▸ hrow) }

lemma aside_posted {t : TxType} {n : ℤ} {u : ℕ} {note : PayoutNote} (h : Spares s s')
    (hattempts : s'.attempts = s.attempts) (hposted : Posted s.ledger s'.ledger t n u (some note))
    (hrefund : ∀ k reason, note ≠ .refund k reason)
    (hlegacy : ∀ w reference, note = .legacyRefund w reference → ¬ Retail s w) :
    Aside s s' :=
  { h with
    attempts := hattempts
    carried := hposted.carried
    rows := by
      intro i row hrow
      rcases posted_cases hposted hrow with hrow | ⟨-, -, -, hnote, -⟩
      · exact Or.inl hrow
      · refine Or.inr ⟨?_, fun w reference h => ?_⟩
        · rintro k ⟨reason, h⟩
          rw [hnote, Option.some.injEq] at h
          exact hrefund k reason h
        · rw [hnote, Option.some.injEq] at h
          exact hlegacy w reference h }

lemma markWebhook_keeps (event : ProviderPayoutEvent) (n : Normalized) (wr : WithdrawalRequest) :
    (markWebhook event n wr).user = wr.user ∧ (markWebhook event n wr).amountUsd = wr.amountUsd ∧
      (markWebhook event n wr).status ≠ .pending := by
  refine ⟨rfl, rfl, ?_⟩
  cases n <;> simp [markWebhook, Normalized.withdrawal]

lemma applied_engine (h : Mirrored s) (ha : Applied s s') :
    s' = s ∨ ∃ k a' wr wr', Engine s s' k a' wr wr' := by
  have hadvance : ∀ {k : ℕ} {a a' : PayoutAttempt} {wr wr' : WithdrawalRequest}, s.attempts.get k = some a →
      s.withdrawals.get a.withdrawalRequest = some wr → Synced a a' wr wr' →
      Agrees a' wr' ∧ Retail s a'.withdrawalRequest ∧
      (∀ j b, s.attempts.get j = some b → b.withdrawalRequest = a'.withdrawalRequest → j = k) ∧
      ∀ b, s.attempts.get k = some b → a'.withdrawalRequest = b.withdrawalRequest ∧ b.status.terminal = false ∧
        (a'.status = .submitted ∨ a'.status = .unknown → b.status = .submitted ∨ b.status = .unknown) := by
    intro k a a' wr wr' ha hwr hsynced
    obtain ⟨v, hv, hagrees⟩ := h.agrees k a ha
    obtain rfl : wr = v := Option.some.inj (hwr.symm.trans hv)
    refine ⟨synced_agrees hsynced hagrees, ⟨wr, hsynced.request ▸ hwr, Or.inr ⟨k, a, ha, hsynced.request.symm⟩⟩,
      fun j b hb hsame => h.single j k b a hb ha (hsame.trans hsynced.request), fun b hb => ?_⟩
    obtain rfl : a = b := Option.some.inj (ha.symm.trans hb)
    refine ⟨hsynced.request, ?_, fun hunsent => unsent_of_allowed hsynced.allowed hunsent hagrees.status⟩
    rw [← Bool.not_eq_true]
    exact fun hterminal => not_allowed_of_terminal hterminal hsynced.allowed
  cases ha with
  | same => exact Or.inl rfl
  | moved k a a' wr wr' revenue found request synced unpaid =>
    obtain ⟨hagrees, hretail, howner, hadv⟩ := hadvance found request synced
    exact Or.inr ⟨k, a', wr, wr',
      { found := synced.request ▸ request
        withdrawals := by rw [synced.request]
        written := Table.get_update_self found _
        others := fun j hj => Table.get_update_ne _ hj _
        owner := howner
        advance := hadv
        agrees := hagrees
        user := synced.user
        amountUsd := synced.amountUsd
        retail := hretail
        carried := Carried.refl _
        rows := fun i row hrow => Or.inl hrow
        paid := fun hfailed => (unpaid hfailed).elim }⟩
  | refunded k a a' wr wr' l reason found request synced failed posted =>
    obtain ⟨hagrees, hretail, howner, hadv⟩ := hadvance found request synced
    exact Or.inr ⟨k, a', wr, wr',
      { found := synced.request ▸ request
        withdrawals := by rw [synced.request]
        written := Table.get_update_self found _
        others := fun j hj => Table.get_update_ne _ hj _
        owner := howner
        advance := hadv
        agrees := hagrees
        user := synced.user
        amountUsd := synced.amountUsd
        retail := hretail
        carried := posted.carried
        rows := by
          intro i row hrow
          rcases posted_cases posted hrow with hrow | ⟨hi, ht, hn, hnote, howner⟩
          · exact Or.inl hrow
          · exact Or.inr ⟨failed, hi, ⟨reason, hnote⟩, ht, hn, howner⟩
        paid := by
          intro _
          obtain ⟨i, row, hrow, hnote⟩ := posted_noted posted
          exact ⟨i, row, hrow, reason, hnote⟩ }⟩

lemma Engine.congr {k : ℕ} {a' : PayoutAttempt} {wr wr' : WithdrawalRequest} (h : Engine s s' k a' wr wr')
    (hattempts : s''.attempts = s'.attempts) (hwithdrawals : s''.withdrawals = s'.withdrawals)
    (hledger : s''.ledger = s'.ledger) : Engine s s'' k a' wr wr' :=
  { h with
    withdrawals := hwithdrawals.trans h.withdrawals
    written := hattempts ▸ h.written
    others := hattempts ▸ h.others
    carried := hledger ▸ h.carried
    rows := hledger ▸ h.rows
    paid := hledger ▸ h.paid }

lemma effect_split (hm : Mirrored s) (hc : Calls s) (e : Effect p s s') :
    Aside s s' ∨ ∃ k a' wr wr', Engine s s' k a' wr wr' := by
  cases e with
  | quiet | resolved | noted | requested | read | created | traded =>
    exact Or.inl (aside_quiet (spares_same rfl) rfl rfl)
  | claimed w wr wr' a submissions found pending user amountUsd processing ids request provider submitted
      references =>
    subst request
    have hunpaid : a.status ≠ .failed := by rw [submitted]; decide
    obtain ⟨hpayout, hbatch⟩ := hm.untouched _ wr found pending
    refine Or.inr ⟨s.attempts.next, a, wr, wr',
      { found := found
        withdrawals := rfl
        written := Table.get_insert_next _ _
        others := fun j hj => by rw [Table.get_insert, if_neg hj]
        owner := ?_
        advance := fun b hb => by rw [Table.get_next] at hb; cases hb
        agrees := ?_
        user := user
        amountUsd := amountUsd
        retail := ⟨wr, found, Or.inl pending⟩
        carried := Carried.refl _
        rows := fun i row hrow => Or.inl hrow
        paid := fun hfailed => (hunpaid hfailed).elim }⟩
    · intro j b hb hsame
      obtain ⟨v, hv, hagrees⟩ := hm.agrees j b hb
      rw [hsame, found, Option.some.injEq] at hv
      subst hv
      exact (derive_ne_pending hagrees.status pending).elim
    · refine ⟨?_, ?_, ?_, provider, fun _ => references⟩
      · rw [submitted, processing]
        rfl
      · rw [ids.1, hpayout, references.1]
      · rw [ids.2, hbatch, references.2]
  | applied submissions handlers reconciliations happlied advances =>
    rcases applied_engine hm happlied with rfl | ⟨k, a', wr, wr', hengine⟩
    · exact Or.inl (aside_quiet (spares_same rfl) rfl rfl)
    · exact Or.inr ⟨k, a', wr, wr', hengine.congr rfl rfl rfl⟩
  | legacy i e w wr event n l handlers matched found posted advances =>
    obtain ⟨-, hretail⟩ := hc.targets i e _ matched
    have hspares : Spares s { s with withdrawals := s.withdrawals.update w (markWebhook event n), ledger := l,
                                     handlers := handlers } :=
      spares_update hretail (markWebhook_keeps event n) rfl
    rcases posted with rfl | ⟨reference, hposted⟩
    · exact Or.inl (aside_quiet hspares rfl rfl)
    · refine Or.inl (aside_posted hspares rfl hposted (fun k reason h => nomatch h) fun v r heq => ?_)
      cases heq
      exact hretail
  | fundedMarked w r wr f event n handlers called idle advances =>
    obtain ⟨i, e, hmatched⟩ := called.matched
    exact Or.inl (aside_quiet (spares_update (hc.targets i e _ hmatched).2 (markWebhook_keeps event n) rfl)
      rfl rfl)
  | fundedCompleted w r wr f account event revenue handlers called active owner advances =>
    obtain ⟨i, e, hmatched⟩ := called.matched
    exact Or.inl (aside_quiet (spares_update (hc.targets i e _ hmatched).2
      (markWebhook_keeps event .completed) rfl) rfl rfl)
  | fundedFailed w r wr f account restored event entries handlers called active owner amount advances =>
    obtain ⟨i, e, hmatched⟩ := called.matched
    exact Or.inl (aside_quiet (spares_update (hc.targets i e _ hmatched).2
      (markWebhook_keeps event .failed) rfl) rfl rfl)
  | simApproved r f f' account balance l entries revenue request pending owner amount terms posted =>
    exact Or.inl (aside_posted (spares_same rfl) rfl posted (fun k reason h => nomatch h) fun v r h => nomatch h)
  | internalApproved r adminUser f f' account balance entries request pending owner amount terms =>
    have hstatus : (internalWithdrawal f adminUser).status ≠ .pending := by simp [internalWithdrawal]
    exact Or.inl (aside_quiet (spares_insert hstatus rfl) rfl rfl)
  | reversed i x account restored entries found claimed owner amount =>
    exact Or.inl (aside_quiet (spares_update (f := fun wr => { wr with status := .failed })
      (hc.internals i x found) (fun wr => ⟨rfl, rfl, nofun⟩) rfl) rfl rfl)
  | recorded i x batchId payoutId raw cryptoAmount found accepted =>
    exact Or.inl (aside_quiet (spares_update
      (f := fun wr => { wr with status := .processing, npBatchId := batchId, npPayoutId := payoutId,
                                npPayoutStatus := raw, cryptoAmount := some cryptoAmount })
      (hc.internals i x found) (fun wr => ⟨rfl, rfl, nofun⟩) rfl) rfl rfl)
  | wallet l carried rows =>
    refine Or.inl { spares_same rfl with attempts := rfl, carried := carried, rows := fun i row hrow => ?_ }
    rcases rows i row hrow with hrow | ⟨text, hnote⟩
    · exact Or.inl hrow
    · refine Or.inr ⟨?_, fun w reference h => ?_⟩
      · rintro k ⟨reason, h⟩
        rw [hnote] at h
        cases h
      · rw [hnote] at h
        cases h

end Steps

section Calls

/-- An event with a nonempty key leads to an attempt that has been answered, or to a withdrawal outside
the attempt engine. -/
lemma correlate_sound {attempts withdrawals : List ℕ} {missing : String}
    (hattempts : ∀ k ∈ attempts, TargetSound s (.attempt k))
    (hwithdrawals : ∀ w ∈ withdrawals, attempts = [] → w < s.withdrawals.next ∧ ¬ Retail s w) :
    TargetSound s (correlate s attempts withdrawals missing) := by
  unfold correlate
  split
  · trivial
  · trivial
  · split
    · exact hattempts _ (List.mem_singleton.mpr rfl)
    · trivial
  · exact hattempts _ (List.mem_singleton.mpr rfl)
  · have hw := hwithdrawals _ (List.mem_singleton.mpr rfl) rfl
    unfold classifyLegacy
    split <;> exact hw
  · trivial

lemma resolvePayoutTarget_sound (h : Mirrored s) {event : ProviderPayoutEvent}
    (hprovider : event.provider = providerName) : TargetSound s (resolvePayoutTarget s event) := by
  have hsent : ∀ k a, s.attempts.get k = some a → a.providerReference ≠ "" ∨ a.providerBatchId ≠ "" →
      TargetSound s (.attempt k) := by
    intro k a ha hne
    obtain ⟨wr, -, hagrees⟩ := h.agrees k a ha
    have hnot : ¬ (a.status = .submitted ∨ a.status = .unknown) := by
      intro hunsent
      obtain ⟨hr, hb⟩ := hagrees.unsent hunsent
      exact hne.elim (· hr) (· hb)
    exact ⟨a, ha, fun h => hnot (Or.inl h), fun h => hnot (Or.inr h)⟩
  have houtside : ∀ w wr (p : PayoutAttempt → Bool), s.withdrawals.get w = some wr →
      (wr.npPayoutId ≠ "" ∨ wr.npBatchId ≠ "") → attemptMatches s p = [] →
      (∀ a, Agrees a wr → p a = true) → w < s.withdrawals.next ∧ ¬ Retail s w := by
    intro w wr p hwr hne hempty hp
    refine ⟨Table.lt_of_get hwr, ?_⟩
    rintro ⟨v, hv, hpending | ⟨k, a, ha, rfl⟩⟩
    · obtain ⟨hpayout, hbatch⟩ := h.untouched w v hv hpending
      obtain rfl : wr = v := Option.some.inj (hwr.symm.trans hv)
      exact hne.elim (· hpayout) (· hbatch)
    · obtain ⟨v, hv, hagrees⟩ := h.agrees k a ha
      obtain rfl : wr = v := Option.some.inj (hwr.symm.trans hv)
      have hmem : k ∈ attemptMatches s p :=
        List.mem_map.mpr ⟨(k, a), List.mem_filter.mpr ⟨Table.mem_rows.mpr ha, hp a hagrees⟩, rfl⟩
      rw [hempty] at hmem
      cases hmem
  unfold resolvePayoutTarget
  split
  · next href =>
    refine correlate_sound (fun k hk => ?_) fun w hw hempty => ?_
    · obtain ⟨⟨j, a⟩, hmem, rfl⟩ := List.mem_map.mp hk
      obtain ⟨ha, hp⟩ := List.mem_filter.mp hmem
      refine hsent j a (Table.mem_rows.mp ha) (Or.inl ?_)
      rw [(of_decide_eq_true hp).2]
      exact href
    · obtain ⟨⟨j, wr⟩, hmem, rfl⟩ := List.mem_map.mp hw
      obtain ⟨hwr, hp⟩ := List.mem_filter.mp hmem
      have hid := of_decide_eq_true hp
      refine houtside j wr _ (Table.mem_rows.mp hwr) (Or.inl (by rwa [hid])) hempty fun a hagrees => ?_
      exact decide_eq_true ⟨hagrees.provider.trans hprovider.symm, hagrees.payoutId.symm.trans hid⟩
  · split
    · next hbatch =>
      refine correlate_sound (fun k hk => ?_) fun w hw hempty => ?_
      · obtain ⟨⟨j, a⟩, hmem, rfl⟩ := List.mem_map.mp hk
        obtain ⟨ha, hp⟩ := List.mem_filter.mp hmem
        refine hsent j a (Table.mem_rows.mp ha) (Or.inr ?_)
        rw [(of_decide_eq_true hp).2]
        exact hbatch
      · obtain ⟨⟨j, wr⟩, hmem, rfl⟩ := List.mem_map.mp hw
        obtain ⟨hwr, hp⟩ := List.mem_filter.mp hmem
        have hid := of_decide_eq_true hp
        refine houtside j wr _ (Table.mem_rows.mp hwr) (Or.inr (by rwa [hid])) hempty fun a hagrees => ?_
        exact decide_eq_true ⟨hagrees.provider.trans hprovider.symm, hagrees.batchId.symm.trans hid⟩
    · trivial

lemma effect_events (e : Effect p s s') {i : ℕ} {row : PayoutWebhookEvent} (hrow : s'.events.get i = some row) :
    row.event.provider = providerName ∨ ∃ row₀, s.events.get i = some row₀ ∧ row.event = row₀.event := by
  cases e with
  | quiet _ _ _ _ _ _ providers _ _ => exact providers i row hrow
  | applied _ _ _ happlied _ =>
    rw [show _ = s.events from happlied.frame.2.2.1] at hrow
    exact Or.inr ⟨row, hrow, rfl⟩
  | _ => exact Or.inr ⟨row, hrow, rfl⟩

lemma effect_targets (e : Effect p s s') {i j : ℕ} {t : Target} (hi : s'.handlers.get i = some ⟨j, .matched t⟩) :
    s.handlers.get i = some ⟨j, .matched t⟩ ∨
      ∃ row, s.events.get j = some row ∧ t = resolvePayoutTarget s row.event := by
  cases e with
  | resolved e row found =>
    rcases Table.get_insert_some hi with hi | ⟨-, heq⟩
    · exact Or.inl hi
    · cases heq
      exact Or.inr ⟨row, found, rfl⟩
  | quiet _ _ _ _ _ _ _ advances _ => exact Or.inl (advances i j t hi)
  | applied _ _ _ _ advances => exact Or.inl (advances i j t hi)
  | legacy _ _ _ _ _ _ _ _ _ _ _ advances => exact Or.inl (advances i j t hi)
  | fundedMarked _ _ _ _ _ _ _ _ _ advances => exact Or.inl (advances i j t hi)
  | fundedCompleted _ _ _ _ _ _ _ _ _ _ _ advances => exact Or.inl (advances i j t hi)
  | fundedFailed _ _ _ _ _ _ _ _ _ _ _ _ _ advances => exact Or.inl (advances i j t hi)
  | _ => exact Or.inl hi

lemma internals_update {j : ℕ} {y : Internal} {stage : InternalStage} (hy : s.internals.get j = some y)
    (hstage : stage.unrecorded = true → y.stage.unrecorded = true) (i : ℕ) (x : Internal)
    (hx : (s.internals.update j fun x => { x with stage := stage }).get i = some x) :
    ∃ x₀, s.internals.get i = some x₀ ∧ x = { x₀ with stage := x.stage } ∧
      (x.stage.unrecorded = true → x₀.stage.unrecorded = true) := by
  obtain ⟨x₀, hx₀, rfl⟩ := Table.get_update_some hx
  by_cases hi : i = j
  · subst hi
    obtain rfl : x₀ = y := Option.some.inj (hx₀.symm.trans hy)
    simp only [if_pos]
    exact ⟨x₀, hx₀, rfl, hstage⟩
  · simp only [if_neg hi]
    exact ⟨x₀, hx₀, rfl, id⟩

lemma effect_internals (e : Effect p s s') {i : ℕ} {x : Internal} (hx : s'.internals.get i = some x) :
    (∃ x₀, s.internals.get i = some x₀ ∧ x = { x₀ with stage := x.stage } ∧
      (x.stage.unrecorded = true → x₀.stage.unrecorded = true)) ∨
      x.withdrawal = s.withdrawals.next ∧
        ∃ f adminUser, s'.withdrawals = s.withdrawals.insert (internalWithdrawal f adminUser) := by
  cases e with
  | internalApproved r adminUser f f' account balance entries request pending owner amount terms =>
    rcases Table.get_insert_some hx with hx | ⟨-, rfl⟩
    · exact Or.inl ⟨x, hx, rfl, id⟩
    · exact Or.inr ⟨rfl, f, adminUser, rfl⟩
  | reversed j x₁ account restored entries found claimed owner amount =>
    exact Or.inl (internals_update found (fun h => by cases h) i x hx)
  | noted j x₁ stage note found progress =>
    refine Or.inl (internals_update found (fun h => ?_) i x hx)
    rcases progress with rfl | ⟨hclaimed, -⟩
    · cases h
    · rw [hclaimed]
      rfl
  | recorded j x₁ batchId payoutId raw cryptoAmount found accepted =>
    exact Or.inl (internals_update found (fun h => by cases h) i x hx)
  | requested j x₁ f batchId payoutId found recorded request single recorder =>
    exact Or.inl (internals_update found (fun h => by cases h) i x hx)
  | applied _ _ _ happlied _ =>
    cases happlied <;> exact Or.inl ⟨x, hx, rfl, id⟩
  | _ => exact Or.inl ⟨x, hx, rfl, id⟩

lemma targetSound_later (h : Later s s') {t : Target} (ht : TargetSound s t) : TargetSound s' t := by
  cases t with
  | attempt k =>
    obtain ⟨a, ha, hsubmitted, hunknown⟩ := ht
    obtain ⟨a', ha', -, -, hunsent⟩ := h.attempts k a ha
    exact ⟨a', ha', fun hs => (hunsent (Or.inl hs)).elim hsubmitted hunknown,
      fun hs => (hunsent (Or.inr hs)).elim hsubmitted hunknown⟩
  | funded w | legacy w =>
    obtain ⟨hnext, hretail⟩ := ht
    exact ⟨hnext.trans_le h.next, mt (h.retail w).mp hretail⟩
  | ambiguous | integrityViolation | orphan => trivial

lemma effect_calls (hm : Mirrored s) (hc : Calls s) (e : Effect p s s') (hlater : Later s s') : Calls s' where
  providers i row hrow := by
    rcases effect_events e hrow with hprovider | ⟨row₀, hrow₀, hevent⟩
    · exact hprovider
    · rw [hevent]
      exact hc.providers i row₀ hrow₀
  targets i j t hi := by
    refine targetSound_later hlater ?_
    rcases effect_targets e hi with hi | ⟨row, hrow, rfl⟩
    · exact hc.targets i j t hi
    · exact resolvePayoutTarget_sound hm (hc.providers j row hrow)
  internals i x hx := by
    rw [hlater.retail]
    rcases effect_internals e hx with ⟨x₀, hx₀, heq, -⟩ | ⟨hw, -⟩
    · rw [heq]
      exact hc.internals i x₀ hx₀
    · rintro ⟨wr, hwr, -⟩
      rw [hw, Table.get_next] at hwr
      cases hwr

end Calls

section Runs

/-- The attempts and the events stay in order whatever the wallets hold. -/
lemma mirrored_effect (hm : Mirrored s) (hc : Calls s) (e : Effect p s s') : Mirrored s' ∧ Calls s' ∧ Later s s' := by
  rcases effect_split hm hc e with haside | ⟨k, a', wr, wr', hengine⟩
  · have hlater := aside_later haside hm
    exact ⟨aside_mirrored haside hm, effect_calls hm hc e hlater, hlater⟩
  · have hlater := engine_later hengine
    exact ⟨engine_mirrored hengine hm, effect_calls hm hc e hlater, hlater⟩

lemma sound_effect (h : Sound s) (e : Effect p s s') : Sound s' ∧ Later s s' := by
  obtain ⟨hmirrored, hcalls, hlater⟩ := mirrored_effect h.mirrored h.calls e
  rcases effect_split h.mirrored h.calls e with haside | ⟨k, a', wr, wr', hengine⟩
  · exact ⟨⟨hmirrored, aside_repaid haside h.mirrored h.repaid, hcalls⟩, hlater⟩
  · exact ⟨⟨hmirrored, engine_repaid hengine h.repaid, hcalls⟩, hlater⟩

lemma sound_run (h : Sound s) (acts : List Action) : Sound (run step s acts) ∧ Later s (run step s acts) := by
  induction acts generalizing s with
  | nil => exact ⟨h, Later.refl s⟩
  | cons act acts ih =>
    obtain ⟨hsound, hlater⟩ := sound_effect h (step_effect (p := fun _ => True) s act trivial)
    obtain ⟨hrun, hrest⟩ := ih hsound
    exact ⟨hrun, hlater.trans hrest⟩

/-- The engine before its first attempt: pending withdrawals carry no provider key, and nothing is under
way. -/
structure Opening (s : Platform) : Prop where
  attempts : ∀ k, s.attempts.get k = none
  handlers : ∀ i, s.handlers.get i = none
  internals : ∀ i, s.internals.get i = none
  events : ∀ e row, s.events.get e = some row → row.event.provider = providerName
  untouched : ∀ w wr, s.withdrawals.get w = some wr → wr.status = .pending →
    wr.npPayoutId = "" ∧ wr.npBatchId = ""
  refunds : ∀ i row k, s.ledger.transactions.get i = some row → ¬ refundOf k row
  legacy : ∀ i row w reference, s.ledger.transactions.get i = some row →
    row.note = some (.legacyRefund w reference) →
      ∀ wr, s.withdrawals.get w = some wr → wr.status ≠ .pending

lemma opening_sound (h : Opening s) : Sound s where
  mirrored :=
    { agrees := fun k a ha => by rw [h.attempts] at ha; cases ha
      single := fun j k a b ha => by rw [h.attempts] at ha; cases ha
      untouched := h.untouched }
  repaid :=
    { refunds := fun i row k hrow hof => (h.refunds i row k hrow hof).elim
      once := fun i j row row' k hrow _ hof => (h.refunds i row k hrow hof).elim
      paid := fun k a ha => by rw [h.attempts] at ha; cases ha
      legacy := fun i row w reference hrow hnote => by
        rintro ⟨wr, hwr, hstatus | ⟨k, a, ha, -⟩⟩
        · exact h.legacy i row w reference hrow hnote wr hwr hstatus
        · rw [h.attempts] at ha
          cases ha }
  calls :=
    { providers := h.events
      targets := fun i e t hi => by rw [h.handlers] at hi; cases hi
      internals := fun i x hx => by rw [h.internals] at hx; cases hx }

def CreditsBack (s : Platform) (w i : ℕ) (row : WalletTransaction PayoutNote) : Prop :=
  s.ledger.transactions.get i = some row ∧
    ((∃ k a, refundOf k row ∧ s.attempts.get k = some a ∧ a.withdrawalRequest = w) ∨
      ∃ reference, row.note = some (.legacyRefund w reference))

/-- The money of one withdrawal, and its attempts. -/
structure MoneySafe (s : Platform) (w user : ℕ) (amountUsd : Balance) : Prop where
  once : ∀ i j row row', CreditsBack s w i row → CreditsBack s w j row' → i = j
  exact_ : ∀ i row, CreditsBack s w i row → Repays s.ledger row user amountUsd
  credited_iff : (∃ i row, CreditsBack s w i row) ↔
    ∃ k a, s.attempts.get k = some a ∧ a.withdrawalRequest = w ∧ a.status = .failed
  failed_iff : (∃ k a, s.attempts.get k = some a ∧ a.withdrawalRequest = w ∧ a.status = .failed) ↔
    ∃ wr, s.withdrawals.get w = some wr ∧ wr.status = .failed

lemma failed_of_derive {n : AttemptStatus} (h : deriveWithdrawalStatus n = .ok .failed) : n = .failed := by
  cases n <;> simp_all [deriveWithdrawalStatus]

lemma moneySafe_of_sound (h : Sound s) {w : ℕ} {wr : WithdrawalRequest}
    (hwr : s.withdrawals.get w = some wr) (hretail : Retail s w) : MoneySafe s w wr.user wr.amountUsd := by
  have hrefund : ∀ i row, CreditsBack s w i row →
      ∃ k a, refundOf k row ∧ s.attempts.get k = some a ∧ a.withdrawalRequest = w := by
    rintro i row ⟨hrow, hattempt | ⟨reference, hnote⟩⟩
    · exact hattempt
    · exact (h.repaid.legacy i row w reference hrow hnote hretail).elim
  refine ⟨fun i j row row' hi hj => ?_, fun i row hi => ?_, ?_, ?_⟩
  · obtain ⟨k, a, hof, ha, haw⟩ := hrefund i row hi
    obtain ⟨n, b, hof', hb, hbw⟩ := hrefund j row' hj
    obtain rfl := h.mirrored.single k n a b ha hb (haw.trans hbw.symm)
    exact h.repaid.once i j row row' k hi.1 hj.1 hof hof'
  · obtain ⟨k, a, hof, ha, haw⟩ := hrefund i row hi
    obtain ⟨b, v, hb, -, hv, hrepays⟩ := h.repaid.refunds i row k hi.1 hof
    obtain rfl : a = b := Option.some.inj (ha.symm.trans hb)
    rw [haw, hwr, Option.some.injEq] at hv
    rwa [hv]
  · constructor
    · rintro ⟨i, row, hi⟩
      obtain ⟨k, a, hof, ha, haw⟩ := hrefund i row hi
      obtain ⟨b, -, hb, hfailed, -⟩ := h.repaid.refunds i row k hi.1 hof
      obtain rfl : a = b := Option.some.inj (ha.symm.trans hb)
      exact ⟨k, a, ha, haw, hfailed⟩
    · rintro ⟨k, a, ha, haw, hfailed⟩
      obtain ⟨i, row, hrow, hof⟩ := h.repaid.paid k a ha hfailed
      exact ⟨i, row, hrow, Or.inl ⟨k, a, hof, ha, haw⟩⟩
  · constructor
    · rintro ⟨k, a, ha, rfl, hfailed⟩
      obtain ⟨v, hv, hagrees⟩ := h.mirrored.agrees k a ha
      have hderive := hagrees.status
      rw [hfailed] at hderive
      exact ⟨v, hv, (Except.ok.inj hderive).symm⟩
    · rintro ⟨v, hv, hfailed⟩
      obtain ⟨v', hv', hpending | ⟨k, a, ha, rfl⟩⟩ := hretail
      · rw [hv, Option.some.injEq] at hv'
        subst hv'
        rw [hfailed] at hpending
        cases hpending
      · obtain ⟨v'', hv'', hagrees⟩ := h.mirrored.agrees k a ha
        rw [hv, Option.some.injEq] at hv''
        subst hv''
        exact ⟨k, a, ha, rfl, failed_of_derive (hfailed ▸ hagrees.status)⟩

/-- Every run keeps the money of every pending withdrawal safe, moves a wallet's balance only by its rows,
never moves a terminal attempt, and never gives a withdrawal a second attempt. -/
theorem payout_run_safe (s : Platform) (h : Opening s) (acts bcts : List Action) :
    (∀ w wr, s.withdrawals.get w = some wr → wr.status = .pending →
      MoneySafe (run step s acts) w wr.user wr.amountUsd) ∧
    Carried s.ledger (run step s acts).ledger ∧
    (∀ k a, (run step s acts).attempts.get k = some a → a.status.terminal = true →
      ∃ a', (run step s (acts ++ bcts)).attempts.get k = some a' ∧ a'.status = a.status) ∧
    ∀ j k a b, (run step s acts).attempts.get j = some a → (run step s acts).attempts.get k = some b →
      a.withdrawalRequest = b.withdrawalRequest → j = k := by
  obtain ⟨hsound, hlater⟩ := sound_run (opening_sound h) acts
  refine ⟨fun w wr hwr hpending => ?_, hlater.carried, fun k a ha hterminal => ?_, hsound.mirrored.single⟩
  · obtain ⟨wr', hwr', hu, hamount⟩ := hlater.withdrawals w wr hwr
    have hretail := (hlater.retail w).mpr ⟨wr, hwr, Or.inl hpending⟩
    have hsafe := moneySafe_of_sound hsound hwr' hretail
    rwa [hu, hamount] at hsafe
  · rw [run_append]
    obtain ⟨a', ha', -, hstatus, -⟩ := (sound_run hsound bcts).2.attempts k a ha
    exact ⟨a', ha', hstatus hterminal⟩

def pendingWithdrawal : WithdrawalRequest where
  user := 7
  amountUsd := ⟨7500, by decide⟩
  netAmount := none
  feeAmount := none
  cryptoCurrency := "btc"
  walletAddress := "bc1q"
  status := .pending
  npBatchId := ""
  npPayoutId := ""
  npPayoutStatus := ""
  cryptoAmount := none
  reviewedBy := none

def oneWithdrawal : Platform where
  ledger := { wallets := Table.ofList [newWallet 7], transactions := Table.empty }
  accounts := Table.empty
  entries := Table.empty
  revenue := Table.empty
  withdrawals := Table.ofList [pendingWithdrawal]
  attempts := Table.empty
  events := Table.empty
  enrollments := Table.empty
  fundedPayouts := Table.empty
  submissions := Table.empty
  handlers := Table.empty
  reconciliations := Table.empty
  internals := Table.empty
  drafts := Table.empty
  now := 0

lemma oneWithdrawal_get {w : ℕ} {wr : WithdrawalRequest} (h : oneWithdrawal.withdrawals.get w = some wr) :
    w = 0 ∧ wr = pendingWithdrawal := by
  cases w with
  | zero => exact ⟨rfl, (Option.some.inj h).symm⟩
  | succ w => cases h

lemma oneWithdrawal_opening : Opening oneWithdrawal where
  attempts k := rfl
  handlers i := rfl
  internals i := rfl
  events e row h := by cases h
  untouched w wr h _ := by
    obtain ⟨-, rfl⟩ := oneWithdrawal_get h
    exact ⟨rfl, rfl⟩
  refunds i row k h := by cases h
  legacy i row w reference h := by cases h

def lateRefusal : List Action :=
  [.previewWithdrawal 0 none, .claimSubmission 0 (some 1), .wait 300, .scanAttempt 0 .aged,
    .finishReconciliation 0 .unavailable, .finishSubmission 0 (.authError "invalid credentials")]

theorem payout_run_safe_example :
    MoneySafe (run step oneWithdrawal lateRefusal) 0 7 pendingWithdrawal.amountUsd ∧
    ((run step oneWithdrawal lateRefusal).withdrawals.get 0).map (fun wr => wr.status) = some .failed := by
  refine ⟨?_, by decide +kernel⟩
  exact (payout_run_safe oneWithdrawal oneWithdrawal_opening lateRefusal []).1 0 pendingWithdrawal rfl rfl

end Runs

end TrxSimulator.Payouts.Safety
