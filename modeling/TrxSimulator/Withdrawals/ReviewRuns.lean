import TrxSimulator.Withdrawals.ReviewEffects

/-! What holds of every review. An attempt is only ever made of a withdrawal that is cleared, and a pending withdrawal
leaves that status once: to its first attempt, or to a rejection with its refund. -/

namespace TrxSimulator.Withdrawals.Reviews

open Foundations.Tables Foundations.Outcomes Foundations.Decimals Foundations.Runs Money Accounts Wallets.Ledger
open Payouts.Records (PayoutAttempt WithdrawalRequest WithdrawalStatus PayoutNote)
open Payouts.StateMachine (deriveWithdrawalStatus)
open Payouts.Machine (Synced Posted)
open Otp (Challenge)

variable {s s' : Desk} {w : ℕ}

section Growth

variable {t : Table WithdrawalRequest} {wr wr' : WithdrawalRequest}

lemma signed_record {a a' : Approval} (h : Record a a') : Signed a a' := by
  cases h with
  | first admin blank => exact ⟨rfl, fun _ h => absurd h (by simp [blank]), fun _ => id⟩
  | second first admin recorded other blank => exact ⟨rfl, fun _ => id, fun _ h => absurd h (by simp [blank])⟩

lemma kept_update (h : t.get w = some wr) (huser : wr'.user = wr.user) (hamount : wr'.amountUsd = wr.amountUsd)
    (v : ℕ) (found : WithdrawalRequest) (hfound : t.get v = some found) :
    ∃ found', (t.update w fun _ => wr').get v = some found' ∧ found'.user = found.user ∧
      found'.amountUsd = found.amountUsd := by
  by_cases hv : v = w
  · subst hv
    rw [h, Option.some.injEq] at hfound
    subst hfound
    exact ⟨wr', Table.get_update_self h _, huser, hamount⟩
  · exact ⟨found, (Table.get_update_ne _ hv _).trans hfound, rfl, rfl⟩

lemma effect_grown (h : Effect s s') : Grown s s' := by
  have hsame : s'.platform.withdrawals = s.platform.withdrawals → ∀ w wr, s.platform.withdrawals.get w = some wr →
      ∃ wr', s'.platform.withdrawals.get w = some wr' ∧ wr'.user = wr.user ∧ wr'.amountUsd = wr.amountUsd :=
    fun heq w wr hwr => ⟨wr, heq ▸ hwr, rfl, rfl⟩
  have hattempts : s'.platform.attempts = s.platform.attempts → ∀ k a, s.platform.attempts.get k = some a →
      ∃ a', s'.platform.attempts.get k = some a' ∧ a'.withdrawalRequest = a.withdrawalRequest :=
    fun heq k a ha => ⟨a, heq ▸ ha, rfl⟩
  have happrovals : s'.approvals = s.approvals → ∀ w wr, s.platform.withdrawals.get w = some wr →
      Signed (s.approvals w) (s'.approvals w) := fun heq w wr _ => heq ▸ .refl _
  cases h with
  | quiet withdrawals attempts approvals silent follows =>
    exact ⟨hsame withdrawals, happrovals approvals, hattempts attempts, silent.toExtends⟩
  | created wr required pending positive dual owned withdrawals attempts approvals silent follows =>
    refine ⟨fun v found hfound => ⟨found, ?_, rfl, rfl⟩, fun v found hfound => ?_, hattempts attempts,
      silent.toExtends⟩
    · exact withdrawals ▸ Table.get_insert_of_get hfound _
    · rw [approvals, Function.update_of_ne (Table.ne_next_of_get hfound)]
      exact .refl _
  | recorded w wr a found record withdrawals attempts approvals silent follows =>
    refine ⟨hsame withdrawals, fun v found hfound => ?_, hattempts attempts, silent.toExtends⟩
    rw [approvals]
    by_cases hv : v = w
    · subst hv
      rw [Function.update_self]
      exact signed_record record
    · rw [Function.update_of_ne hv]
      exact .refl _
  | claimed w wr wr' a found cleared claim withdrawals attempts approvals silent follows =>
    refine ⟨?_, happrovals approvals, fun k b hb => ⟨b, ?_, rfl⟩, silent.toExtends⟩
    · exact withdrawals ▸ kept_update found claim.user claim.amountUsd
    · exact attempts ▸ Table.get_insert_of_get hb _
  | settled k a a' wr wr' attempt found synced withdrawals attempts approvals silent follows =>
    refine ⟨?_, happrovals approvals, fun j b hb => ?_, silent.toExtends⟩
    · exact withdrawals ▸ kept_update found synced.user synced.amountUsd
    · rw [attempts]
      by_cases hj : j = k
      · subst hj
        rw [attempt, Option.some.injEq] at hb
        subst hb
        exact ⟨a', Table.get_update_self attempt _, synced.request⟩
      · exact ⟨b, (Table.get_update_ne _ hj _).trans hb, rfl⟩
  | rejected w wr wr' found pending user amountUsd status withdrawals attempts approvals posted follows =>
    refine ⟨?_, happrovals approvals, hattempts attempts, extends_carried posted.carried⟩
    exact withdrawals ▸ kept_update found user amountUsd

end Growth

section Invariants

lemma Sound.followed (h : Sound s) (hgrown : Grown s s') (hfollows : Follows s s') :
    (∀ c click, s'.clicks.get c = some click → Tracked s' click) ∧
      ∀ x actor w basis, s'.platform.submissions.get x = some ⟨actor, .previewed w basis⟩ → Cleared s' w := by
  constructor
  · intro c click hclick
    obtain hold | hnew := hfollows.clicks c click hclick
    · exact (h.clicks c click hold).grown hgrown
    · exact hnew
  · intro x actor w basis hx
    obtain hold | hnew := hfollows.submissions x actor w basis hx
    · exact (h.submissions x actor w basis hold).grown hgrown
    · exact hnew

lemma Sound.size (h : Sound s) (hgrown : Grown s s') {wr wr' : WithdrawalRequest}
    (hwr : s.platform.withdrawals.get w = some wr) (hwr' : s'.platform.withdrawals.get w = some wr') :
    0 < wr'.amountUsd.units ∧ (100000 < wr'.amountUsd.units → (s'.approvals w).requiredApprovals = 2) ∧
      ∃ i, Owned s' wr' i := by
  obtain ⟨hpositive, hdual, i, howned⟩ := h.sized w wr hwr
  obtain ⟨found, hfound, huser, hamount⟩ := hgrown.withdrawals w wr hwr
  rw [hwr', Option.some.injEq] at hfound
  subst hfound
  rw [hamount, (hgrown.approvals w wr hwr).required]
  exact ⟨hpositive, hdual, i, howned.grown hgrown huser⟩

lemma Refunds.silent (h : Refunds s) (hgrown : Grown s s') (hsilent : Silent s.platform.ledger s'.platform.ledger)
    (hkeep : ∀ w wr wr', s.platform.withdrawals.get w = some wr → s'.platform.withdrawals.get w = some wr' →
      (wr'.status = .rejected ↔ wr.status = .rejected))
    (hback : ∀ w wr', s'.platform.withdrawals.get w = some wr' → wr'.status = .rejected →
      ∃ wr, s.platform.withdrawals.get w = some wr) : Refunds s' := by
  have hold : ∀ w i row, Refund s' w i row → Refund s w i row := fun w i row hrow =>
    ⟨hsilent.new i row w hrow.found hrow.note, hrow.note⟩
  refine ⟨fun w i row hrow => ?_, fun w wr' hwr' hrejected => ?_, fun w i j row row' hrow hrow' => ?_⟩
  · obtain ⟨htype, wr, hwr, hrejected, hamount, howned⟩ := h.rows w i row (hold w i row hrow)
    obtain ⟨wr', hwr', huser, hsame⟩ := hgrown.withdrawals w wr hwr
    exact ⟨htype, wr', hwr', (hkeep w wr wr' hwr hwr').mpr hrejected, hsame ▸ hamount, howned.grown hgrown huser⟩
  · obtain ⟨wr, hwr⟩ := hback w wr' hwr' hrejected
    obtain ⟨i, row, hrow⟩ := h.rejected w wr hwr ((hkeep w wr wr' hwr hwr').mp hrejected)
    exact ⟨i, row, hsilent.rows i row hrow.found, hrow.note⟩
  · exact h.once w i j row row' (hold w i row hrow) (hold w j row' hrow')

/-- A withdrawal under submission is neither pending nor rejected. -/
def Submitted (s : Desk) (a : PayoutAttempt) : Prop :=
  Cleared s a.withdrawalRequest ∧ ∀ wr, s.platform.withdrawals.get a.withdrawalRequest = some wr →
    wr.status ≠ .pending ∧ wr.status ≠ .rejected

lemma Sound.unattempted (h : Sound s) {wr : WithdrawalRequest} (hwr : s.platform.withdrawals.get w = some wr)
    (hstatus : wr.status = .pending ∨ wr.status = .rejected) {k : ℕ} {a : PayoutAttempt}
    (ha : s.platform.attempts.get k = some a) : a.withdrawalRequest ≠ w := by
  rintro rfl
  obtain ⟨hpending, hrejected⟩ := (h.attempts k a ha).2 wr hwr
  exact hstatus.elim hpending hrejected

lemma submitted_other (h : Sound s) (hgrown : Grown s s') {wr : WithdrawalRequest}
    (hwithdrawals : s'.platform.withdrawals = s.platform.withdrawals.update w fun _ => wr) {k : ℕ} {a : PayoutAttempt}
    (ha : s.platform.attempts.get k = some a) (hother : a.withdrawalRequest ≠ w) : Submitted s' a := by
  obtain ⟨hcleared, hstatus⟩ := h.attempts k a ha
  refine ⟨hcleared.grown hgrown, fun found hfound => hstatus found ?_⟩
  rwa [hwithdrawals, Table.get_update_ne _ hother] at hfound

lemma derived_status {status : Payouts.Records.AttemptStatus} {next : WithdrawalStatus}
    (h : deriveWithdrawalStatus status = .ok next) : next ≠ .pending ∧ next ≠ .rejected := by
  cases status <;> cases h <;> simp

lemma get_updated {t : Table WithdrawalRequest} {wr found' : WithdrawalRequest} {v : ℕ}
    (h : (t.update w fun _ => wr).get v = some found') : ∃ found, t.get v = some found := by
  obtain ⟨found, hfound, -⟩ := Table.get_update_some h
  exact ⟨found, hfound⟩

lemma status_updated {t : Table WithdrawalRequest} {wr wr' : WithdrawalRequest} (hwr : t.get w = some wr)
    (hstatus : wr.status ≠ .rejected) (hstatus' : wr'.status ≠ .rejected) (v : ℕ) (found found' : WithdrawalRequest)
    (hfound : t.get v = some found) (hfound' : (t.update w fun _ => wr').get v = some found') :
    found'.status = .rejected ↔ found.status = .rejected := by
  obtain ⟨old, hold, rfl⟩ := Table.get_update_some hfound'
  rw [hfound, Option.some.injEq] at hold
  subst hold
  split
  · next hv =>
    subst hv
    rw [hwr, Option.some.injEq] at hfound
    subst hfound
    exact iff_of_false hstatus' hstatus
  · rfl

/-- Where no approval is recorded and no withdrawal opened, only the attempts and the refunds are left to show. -/
lemma Sound.next (h : Sound s) (hgrown : Grown s s') (hfollows : Follows s s') (happrovals : s'.approvals = s.approvals)
    (hback : ∀ v found', s'.platform.withdrawals.get v = some found' → ∃ found,
      s.platform.withdrawals.get v = some found)
    (hattempts : ∀ k a, s'.platform.attempts.get k = some a → Submitted s' a) (hrefunds : Refunds s') : Sound s' where
  sized v wr' hwr' := by
    obtain ⟨wr, hwr⟩ := hback v wr' hwr'
    exact h.size hgrown hwr hwr'
  blank v hv := by
    rw [happrovals]
    refine h.blank v (Option.eq_none_iff_forall_ne_some.mpr fun wr hwr => ?_)
    obtain ⟨wr', hwr', -⟩ := hgrown.withdrawals v wr hwr
    rw [hv] at hwr'
    cases hwr'
  distinct := by
    rw [happrovals]
    exact h.distinct
  clicks := (h.followed hgrown hfollows).1
  submissions := (h.followed hgrown hfollows).2
  attempts := hattempts
  refunds := hrefunds

lemma refunds_rejected (h : Sound s) (hgrown : Grown s s') {wr wr' : WithdrawalRequest}
    (hwr : s.platform.withdrawals.get w = some wr) (hpending : wr.status = .pending) (huser : wr'.user = wr.user)
    (hamount : wr'.amountUsd = wr.amountUsd) (hstatus : wr'.status = .rejected)
    (hwithdrawals : s'.platform.withdrawals = s.platform.withdrawals.update w fun _ => wr')
    (hposted : Posted s.platform.ledger s'.platform.ledger .correction wr.amountUsd.units wr.user
      (some (rejectionNote w))) : Refunds s' := by
  have hself : s'.platform.withdrawals.get w = some wr' := hwithdrawals ▸ Table.get_update_self hwr _
  have hnone : ∀ i row, ¬ Refund s w i row := by
    intro i row hrow
    obtain ⟨-, found, hfound, hrejected, -⟩ := h.refunds.rows w i row hrow
    rw [hwr, Option.some.injEq] at hfound
    rw [← hfound, hpending] at hrejected
    cases hrejected
  have hcases : ∀ v i row, Refund s' v i row → Refund s v i row ∨ v = w ∧ i = s.platform.ledger.transactions.next := by
    intro v i row hrow
    obtain hold | ⟨hi, -, -, hnote, -⟩ := Payouts.Machine.posted_cases hposted hrow.found
    · exact Or.inl ⟨hold, hrow.note⟩
    · rw [hrow.note, Option.some.injEq] at hnote
      exact Or.inr ⟨rejectionNote_injective hnote, hi⟩
  refine ⟨fun v i row hrow => ?_, fun v found hfound hrejected => ?_, fun v i j row row' hrow hrow' => ?_⟩
  · obtain hold | ⟨htype, hn, hnote, u, hu, hown⟩ :=
      (Payouts.Machine.posted_cases hposted hrow.found).imp_right And.right
    · obtain ⟨htype, found, hfound, hrejected, hn, howned⟩ := h.refunds.rows v i row ⟨hold, hrow.note⟩
      obtain ⟨found', hfound', huser', hamount'⟩ := hgrown.withdrawals v found hfound
      refine ⟨htype, found', hfound', ?_, hamount' ▸ hn, howned.grown hgrown huser'⟩
      have hv : v ≠ w := by
        rintro rfl
        exact hnone i row ⟨hold, hrow.note⟩
      rw [hwithdrawals, Table.get_update_ne _ hv, hfound, Option.some.injEq] at hfound'
      exact hfound' ▸ hrejected
    · rw [hrow.note, Option.some.injEq] at hnote
      obtain rfl := rejectionNote_injective hnote
      exact ⟨htype, wr', hself, hstatus, hamount ▸ hn, u, hu, hown.trans huser.symm⟩
  · by_cases hv : v = w
    · subst hv
      obtain ⟨i, row, hrow, hnote⟩ := Payouts.Machine.posted_noted hposted
      exact ⟨i, row, hrow, hnote⟩
    · rw [hwithdrawals, Table.get_update_ne _ hv] at hfound
      obtain ⟨i, row, hrow⟩ := h.refunds.rejected v found hfound hrejected
      exact ⟨i, row, hposted.carried.rows i row hrow.found, hrow.note⟩
  · obtain hold | ⟨rfl, hi⟩ := hcases v i row hrow
    · obtain hold' | ⟨rfl, -⟩ := hcases v j row' hrow'
      · exact h.refunds.once v i j row row' hold hold'
      · exact absurd hold (hnone i row)
    · obtain hold' | ⟨-, hj⟩ := hcases v j row' hrow'
      · exact absurd hold' (hnone j row')
      · rw [hi, hj]

lemma effect_sound (h : Sound s) (he : Effect s s') : Sound s' := by
  have hgrown := effect_grown he
  cases he with
  | quiet withdrawals attempts approvals silent follows =>
    refine h.next hgrown follows approvals (fun v found hfound => ⟨found, withdrawals ▸ hfound⟩) (fun k a ha => ?_)
      (h.refunds.silent hgrown silent (fun v wr wr' hwr hwr' => ?_) fun v wr' hwr' _ => ⟨wr', withdrawals ▸ hwr'⟩)
    · obtain ⟨hcleared, hstatus⟩ := h.attempts k a (attempts ▸ ha)
      exact ⟨hcleared.grown hgrown, fun wr hwr => hstatus wr (withdrawals ▸ hwr)⟩
    · rw [withdrawals, hwr, Option.some.injEq] at hwr'
      rw [hwr']
  | created wr required pending positive dual owned withdrawals attempts approvals silent follows =>
    have hcases : ∀ v found, s'.platform.withdrawals.get v = some found →
        s.platform.withdrawals.get v = some found ∨ v = s.platform.withdrawals.next ∧ found = wr := fun v found hfound =>
      Table.get_insert_some (withdrawals ▸ hfound)
    have hrefunds : Refunds s' := by
      refine h.refunds.silent hgrown silent (fun v wr₁ wr₂ hwr₁ hwr₂ => ?_) fun v found hfound hrejected => ?_
      · rw [withdrawals, Table.get_insert_of_get hwr₁, Option.some.injEq] at hwr₂
        rw [hwr₂]
      · obtain hold | ⟨-, rfl⟩ := hcases v found hfound
        · exact ⟨found, hold⟩
        · rw [pending] at hrejected
          cases hrejected
    refine ⟨fun v found hfound => ?_, fun v hv => ?_, fun v second hsecond => ?_, (h.followed hgrown follows).1,
      (h.followed hgrown follows).2, fun k a ha => ?_, hrefunds⟩
    · obtain hold | ⟨rfl, rfl⟩ := hcases v found hfound
      · exact h.size hgrown hold hfound
      · refine ⟨positive, fun hlarge => ?_, owned⟩
        rw [approvals, Function.update_self]
        exact dual hlarge
    · rw [withdrawals] at hv
      by_cases hnext : v = s.platform.withdrawals.next
      · rw [hnext, Table.get_insert_next] at hv
        cases hv
      · rw [Table.get_insert, if_neg hnext] at hv
        rw [approvals, Function.update_of_ne hnext]
        exact h.blank v hv
    · rw [approvals] at hsecond ⊢
      by_cases hnext : v = s.platform.withdrawals.next
      · rw [hnext, Function.update_self] at hsecond
        cases hsecond
      · rw [Function.update_of_ne hnext] at hsecond ⊢
        exact h.distinct v second hsecond
    · obtain ⟨hcleared, hstatus⟩ := h.attempts k a (attempts ▸ ha)
      refine ⟨hcleared.grown hgrown, fun found hfound => ?_⟩
      obtain ⟨old, hold⟩ := hcleared.found
      rw [withdrawals, Table.get_insert_of_get hold, Option.some.injEq] at hfound
      exact hfound ▸ hstatus old hold
  | recorded w wr a found record withdrawals attempts approvals silent follows =>
    have hrefunds : Refunds s' := by
      refine h.refunds.silent hgrown silent (fun v wr₁ wr₂ hwr₁ hwr₂ => ?_) fun v wr₂ hwr₂ _ => ⟨wr₂, withdrawals ▸ hwr₂⟩
      rw [withdrawals, hwr₁, Option.some.injEq] at hwr₂
      rw [hwr₂]
    refine ⟨fun v found' hfound => h.size hgrown (withdrawals ▸ hfound) hfound, fun v hv => ?_,
      fun v second hsecond => ?_, (h.followed hgrown follows).1, (h.followed hgrown follows).2, fun k b hb => ?_, hrefunds⟩
    · have hne : v ≠ w := by
        rintro rfl
        rw [withdrawals, found] at hv
        cases hv
      rw [approvals, Function.update_of_ne hne]
      exact h.blank v (withdrawals ▸ hv)
    · rw [approvals] at hsecond ⊢
      by_cases hv : v = w
      · subst hv
        rw [Function.update_self] at hsecond ⊢
        cases record with
        | first admin blank =>
          obtain ⟨first, hfirst, -⟩ := h.distinct v second hsecond
          rw [blank] at hfirst
          cases hfirst
        | second first admin recorded other blank =>
          cases hsecond
          exact ⟨first, recorded, other⟩
      · rw [Function.update_of_ne hv] at hsecond ⊢
        exact h.distinct v second hsecond
    · obtain ⟨hcleared, hstatus⟩ := h.attempts k b (attempts ▸ hb)
      exact ⟨hcleared.grown hgrown, fun wr hwr => hstatus wr (withdrawals ▸ hwr)⟩
  | claimed w wr wr' a found cleared claim withdrawals attempts approvals silent follows =>
    refine h.next hgrown follows approvals (fun v found' hfound' => get_updated (withdrawals ▸ hfound'))
      (fun k b hb => ?_) (h.refunds.silent hgrown silent
        (withdrawals ▸ status_updated found (by simp [claim.pending]) (by simp [claim.processing]))
        fun v found' hfound' _ => get_updated (withdrawals ▸ hfound'))
    rw [attempts] at hb
    obtain hold | ⟨-, rfl⟩ := Table.get_insert_some hb
    · exact submitted_other h hgrown withdrawals hold (h.unattempted found (Or.inl claim.pending) hold)
    · refine ⟨claim.request ▸ cleared.grown hgrown, fun wr₁ hwr₁ => ?_⟩
      rw [claim.request, withdrawals, Table.get_update_self found, Option.some.injEq] at hwr₁
      rw [← hwr₁, claim.processing]
      simp
  | settled k a a' wr wr' attempt found synced withdrawals attempts approvals silent follows =>
    obtain ⟨hcleared, hstatus⟩ := h.attempts k a attempt
    have hderived := derived_status synced.status
    have hself : ∀ b : PayoutAttempt, b.withdrawalRequest = a.withdrawalRequest → Submitted s' b := by
      intro b hb
      refine ⟨hb ▸ hcleared.grown hgrown, fun wr₁ hwr₁ => ?_⟩
      rw [hb, withdrawals, Table.get_update_self found, Option.some.injEq] at hwr₁
      exact hwr₁ ▸ hderived
    refine h.next hgrown follows approvals (fun v found' hfound' => get_updated (withdrawals ▸ hfound'))
      (fun j b hb => ?_) (h.refunds.silent hgrown silent
        (withdrawals ▸ status_updated found (hstatus wr found).2 hderived.2)
        fun v found' hfound' _ => get_updated (withdrawals ▸ hfound'))
    rw [attempts] at hb
    obtain ⟨old, hold, rfl⟩ := Table.get_update_some hb
    split
    · exact hself a' synced.request
    · by_cases hrequest : old.withdrawalRequest = a.withdrawalRequest
      · exact hself old hrequest
      · exact submitted_other h hgrown withdrawals hold hrequest
  | rejected w wr wr' found pending user amountUsd status withdrawals attempts approvals posted follows =>
    refine h.next hgrown follows approvals (fun v found' hfound' => get_updated (withdrawals ▸ hfound'))
      (fun k a ha => ?_) (refunds_rejected h hgrown found pending user amountUsd status withdrawals posted)
    rw [attempts] at ha
    exact submitted_other h hgrown withdrawals ha (h.unattempted found (Or.inl pending) ha)

lemma opened_sound (wallets : Table Wallet) (feeConfig : Otp.FeeConfig) (superusers : List ℕ) :
    Sound (opened wallets feeConfig superusers) where
  sized _ _ h := nomatch h
  blank _ _ := ⟨rfl, rfl⟩
  distinct _ _ h := nomatch h
  clicks _ _ h := nomatch h
  submissions _ _ _ _ h := nomatch h
  attempts _ _ h := nomatch h
  refunds := ⟨(fun _ _ _ h => nomatch h.found), (fun _ _ h => nomatch h), fun _ _ _ _ _ h => nomatch h.found⟩

lemma run_sound (h : Sound s) (acts : List Action) : Sound (run step s acts) :=
  run_invariant (fun _ a hs => effect_sound hs (step_effect hs a)) h acts

lemma run_grown (h : Sound s) (acts : List Action) : Grown s (run step s acts) := by
  induction acts generalizing s with
  | nil => exact .refl s
  | cons a acts ih =>
    have heffect := step_effect h a
    exact (effect_grown heffect).trans (ih (effect_sound h heffect))

end Invariants

section Races

/-- The withdrawal that an action of a click, or of a submission without an attempt, is about. -/
def subject (s : Desk) : Action → Option ℕ
  | .firstApprove click | .secondApproval click | .preview click | .previewRefund click | .reject click =>
    (s.clicks.get click).map Click.withdrawal
  | .claimSubmission submission _ =>
    match s.platform.submissions.get submission with
    | some ⟨_, .previewed withdrawal _⟩ => some withdrawal
    | _ => none
  | _ => none

/-- Another step was faster: the withdrawal is not pending any more. -/
def Lost (s : Desk) (a : Action) : Prop :=
  ∃ w wr, subject s a = some w ∧ s.platform.withdrawals.get w = some wr ∧ wr.status ≠ .pending

structure Untouched (s s' : Desk) : Prop where
  withdrawals : s'.platform.withdrawals = s.platform.withdrawals
  approvals : s'.approvals = s.approvals
  attempts : s'.platform.attempts = s.platform.attempts
  ledger : s'.platform.ledger = s.platform.ledger

lemma untouched_refl (s : Desk) : Untouched s s := ⟨rfl, rfl, rfl, rfl⟩

lemma untouched_setClick (click : ℕ) (stage : Stage) : Untouched s (setClick s click stage) := ⟨rfl, rfl, rfl, rfl⟩

lemma untouched_submissions (submissions : Table Payouts.Records.Submission) :
    Untouched s { s with platform := { s.platform with submissions := submissions } } := ⟨rfl, rfl, rfl, rfl⟩

lemma estimate_untouched (s : Desk) (submission : ℕ) : Untouched s (step s (.claimSubmission submission none)) := by
  simp only [step, Payouts.Orchestrator.claimSubmission]
  split
  · exact untouched_submissions _
  · exact untouched_refl s

variable {wr : WithdrawalRequest} {click : ℕ}

lemma recordFirst_lost (hsubject : (s.clicks.get click).map Click.withdrawal = some w)
    (hwr : s.platform.withdrawals.get w = some wr) (hlost : wr.status ≠ .pending) :
    Untouched s (recordFirst s click) := by
  unfold recordFirst
  split
  · next admin v hclick =>
    rw [hclick, Option.map_some, Option.some.injEq] at hsubject
    subst hsubject
    have hskip : firstApprove s v admin = s := by
      rw [firstApprove]
      simp [hwr, hlost]
    rw [hskip]
    exact untouched_setClick _ _
  · exact untouched_refl s

lemma secondApproval_lost (hsubject : (s.clicks.get click).map Click.withdrawal = some w)
    (hwr : s.platform.withdrawals.get w = some wr) (hlost : wr.status ≠ .pending) :
    Untouched s (secondApproval s click) := by
  unfold secondApproval
  split
  · next admin v hclick =>
    rw [hclick, Option.map_some, Option.some.injEq] at hsubject
    subst hsubject
    split
    · next s₁ hok =>
      simp only [applySecondApproval, bind_eq_ok, require_eq_ok, guard_eq_ok] at hok
      obtain ⟨found, hfound, hpending, -⟩ := hok
      rw [hwr, Option.some.injEq] at hfound
      exact absurd (hfound ▸ hlost) hpending
    · exact untouched_setClick _ _
  · exact untouched_refl s

lemma preview_lost (hsubject : (s.clicks.get click).map Click.withdrawal = some w)
    (hwr : s.platform.withdrawals.get w = some wr) (hlost : wr.status ≠ .pending) :
    Untouched s (preview s click) := by
  unfold preview
  split
  · exact untouched_refl s
  · next c hclick =>
    rw [hclick, Option.map_some, Option.some.injEq] at hsubject
    subst hsubject
    split
    · refine commit_rule (motive := fun s' : Desk => Untouched s s') _ _ (untouched_setClick _ _) fun s' hok => ?_
      simp only [Payouts.Orchestrator.previewWithdrawal, map_eq_ok, bind_eq_ok, Payouts.Records.lockWithdrawal,
        require_eq_ok, guard_eq_ok] at hok
      obtain ⟨platform, ⟨found, hfound, hpending, -⟩, -⟩ := hok
      have hsame : wr = found := Option.some.inj (hwr.symm.trans hfound)
      exact absurd (hsame ▸ hlost) hpending
    · exact untouched_refl s

lemma previewRefund_untouched (h : Sound s) (click : ℕ) : Untouched s (previewRefund s click) := by
  unfold previewRefund
  split
  · next admin v hclick =>
    split
    · exact untouched_refl s
    · next wr hwr =>
      -- The user's wallet was opened before the withdrawal was.
      obtain ⟨-, -, i, v, hv, huser⟩ := h.sized _ wr hwr
      obtain ⟨i', v', -, -, hfound⟩ | ⟨hnone, -⟩ := getOrCreateWallet_cases s.platform.ledger wr.user
      · simp only [hfound]
        exact ⟨rfl, rfl, rfl, rfl⟩
      · exact absurd huser (hnone i v hv)
  · exact untouched_refl s

lemma reject_lost (hsubject : (s.clicks.get click).map Click.withdrawal = some w)
    (hwr : s.platform.withdrawals.get w = some wr) (hlost : wr.status ≠ .pending) : Untouched s (reject s click) := by
  unfold reject
  split
  · next admin v i hclick =>
    rw [hclick, Option.map_some, Option.some.injEq] at hsubject
    subst hsubject
    refine commit_rule (motive := fun s' : Desk => Untouched s s') _ _ (untouched_setClick _ _) fun s' hok => ?_
    obtain ⟨found, hfound, ⟨-, rfl⟩ | ⟨hpending, -⟩⟩ := rejectWithdrawal_ok hok
    · exact untouched_setClick _ _
    · have hsame : wr = found := Option.some.inj (hwr.symm.trans hfound)
      exact absurd (hsame ▸ hpending) hlost
  · exact untouched_refl s

lemma claimSubmission_lost {submission : ℕ} {estimate : Option ℚ}
    (hsubject : subject s (.claimSubmission submission estimate) = some w)
    (hwr : s.platform.withdrawals.get w = some wr) (hlost : wr.status ≠ .pending) :
    Untouched s (step s (.claimSubmission submission estimate)) := by
  simp only [step, Payouts.Orchestrator.claimSubmission]
  split
  · next actor v basis hx =>
    simp only [subject, hx, Option.some.injEq] at hsubject
    subst hsubject
    split
    · exact untouched_submissions _
    · split
      · next r hok =>
        obtain ⟨p, k⟩ := r
        obtain ⟨found, wr', a, hfound, hclaim, -⟩ := Payouts.Effects.claimWithdrawal_ok hok
        have hsame : wr = found := Option.some.inj (hwr.symm.trans hfound)
        exact absurd (hsame ▸ hclaim.pending) hlost
      · exact untouched_submissions _
  · exact untouched_refl s

lemma lost_untouched (h : Sound s) {a : Action} (hlost : Lost s a) : Untouched s (step s a) := by
  obtain ⟨w, wr, hsubject, hwr, hpending⟩ := hlost
  cases a with
  | firstApprove click => exact recordFirst_lost hsubject hwr hpending
  | secondApproval click => exact secondApproval_lost hsubject hwr hpending
  | preview click => exact preview_lost hsubject hwr hpending
  | previewRefund click => exact previewRefund_untouched h click
  | reject click => exact reject_lost hsubject hwr hpending
  | claimSubmission submission estimate => exact claimSubmission_lost hsubject hwr hpending
  | finalize seen | select kind admin v | finishSubmission submission result | otherCredit i amount txType text
    | otherDebit i amount txType text | setFee feeConfig => cases hsubject

end Races

section Again

/-- What an admin can still do with a pending withdrawal, by clicks of which nothing comes in between. -/
structure Reviewable (s : Desk) (w : ℕ) (wr : WithdrawalRequest) : Prop where
  rejectable : ∀ admin ∈ s.superusers, (∀ i v, s.platform.ledger.wallets.get i = some v → v.user = wr.user →
      v.availableBalance.units + wr.amountUsd.units < 10 ^ 18) →
    ∃ wr', (run step s [.select .reject admin w, .previewRefund s.clicks.next,
      .reject s.clicks.next]).platform.withdrawals.get w = some wr' ∧ wr'.status = .rejected
  approvable : ∀ admin ∈ s.superusers, ∀ estimate, ((s.approvals w).requiredApprovals ≤ 1 ∨
      ∃ first, (s.approvals w).firstApprovedBy = some first ∧ first ≠ admin) →
    ∃ k a, (run step s [.select .approve admin w, .secondApproval s.clicks.next, .preview s.clicks.next,
      .claimSubmission s.platform.submissions.next (some estimate)]).platform.attempts.get k = some a ∧
        a.withdrawalRequest = w
  signable : ∀ admin ∈ s.superusers, 1 < (s.approvals w).requiredApprovals → (s.approvals w).firstApprovedBy = none →
    ((run step s [.select .firstApprove admin w, .firstApprove s.clicks.next]).approvals w).firstApprovedBy = some admin

variable {wr : WithdrawalRequest} {admin : ℕ}

lemma select_pending {kind : Kind} (hadmin : admin ∈ s.superusers) (hwr : s.platform.withdrawals.get w = some wr)
    (hpending : wr.status = .pending) (hkind : kind ≠ .automatic) (hretry : kind ≠ .retry) :
    step s (.select kind admin w) = { s with clicks := s.clicks.insert ⟨kind, some admin, w, .selected⟩ } := by
  have hselectable : selectable s kind w = true := by
    unfold selectable
    cases kind <;> simp_all
  rw [step, select, if_pos ⟨hadmin, hselectable⟩, if_neg hretry]

lemma credit_fits {l : WalletLedger PayoutNote} {i : ℕ} {v : Wallet} {amount : Balance} (refs : References PayoutNote)
    (hv : l.wallets.get i = some v) (hpositive : 0 < amount.units)
    (hfits : v.availableBalance.units + amount.units < 10 ^ 18) :
    ∃ r, creditWallet l i amount.value .correction refs = .ok r := by
  have hbalance : |v.availableBalance.units + amount.units| < 10 ^ 18 := by
    have hlow := (abs_lt.mp v.availableBalance.fits).1
    rw [abs_lt]
    omega
  exact ⟨_, creditWallet_cents.mpr
    ⟨v, ⟨_, hbalance⟩, amount.widen (by decide), hpositive, hv, rfl, rfl, rfl⟩⟩

lemma reject_read {click i : ℕ} {r : WalletLedger PayoutNote × ℕ}
    (hclick : s.clicks.get click = some ⟨.reject, some admin, w, .walletRead i⟩)
    (hwr : s.platform.withdrawals.get w = some wr) (hpending : wr.status = .pending)
    (hcredit : creditWallet s.platform.ledger i wr.amountUsd.value .correction
      { note := some (rejectionNote w), initiatedBy := some admin } = .ok r) :
    ∃ wr', (reject s click).platform.withdrawals.get w = some wr' ∧ wr'.status = .rejected := by
  unfold reject
  simp only [hclick]
  have hok : rejectWithdrawal (setClick s click .done) w i admin = .ok { setClick s click .done with
      platform := { s.platform with
        withdrawals := s.platform.withdrawals.update w fun wr =>
          { wr with status := .rejected, reviewedBy := some admin }
        ledger := r.1 } } := by
    refine bind_eq_ok.mpr ⟨wr, require_eq_ok.mpr hwr, ?_⟩
    rw [if_neg (not_not.mpr hpending)]
    exact bind_eq_ok.mpr ⟨r, mapError_eq_ok.mpr hcredit, rfl⟩
  rw [hok, commit_ok]
  exact ⟨_, Table.get_update_self hwr _, rfl⟩

lemma secondApproval_passes {click : ℕ} (hclick : s.clicks.get click = some ⟨.approve, some admin, w, .selected⟩)
    (hwr : s.platform.withdrawals.get w = some wr) (hpending : wr.status = .pending)
    (happroval : (s.approvals w).requiredApprovals ≤ 1 ∨
      ∃ first, (s.approvals w).firstApprovedBy = some first ∧ first ≠ admin) :
    ∃ s₁ : Desk, secondApproval s click = setClick s₁ click .authorized ∧ s₁.platform = s.platform ∧
      s₁.clicks = s.clicks := by
  have hok : ∃ s₁, applySecondApproval s w admin = .ok s₁ ∧ s₁.platform = s.platform ∧ s₁.clicks = s.clicks := by
    simp only [applySecondApproval, bind_eq_ok, require_eq_ok, guard_eq_ok, hwr, Option.some.injEq, exists_eq_left',
      ne_eq, hpending, not_true_eq_false, not_false_eq_true, true_and]
    split
    · exact ⟨s, rfl, rfl, rfl⟩
    · next hdual =>
      obtain hone | ⟨first, hfirst, hother⟩ := happroval
      · exact absurd hone hdual
      · simp only [bind_eq_ok, require_eq_ok, guard_eq_ok, hfirst, Option.some.injEq, exists_eq_left', hother,
          not_false_eq_true, true_and]
        split
        · exact ⟨_, rfl, rfl, rfl⟩
        · exact ⟨s, rfl, rfl, rfl⟩
  obtain ⟨s₁, hs₁, hplatform, hclicks⟩ := hok
  refine ⟨s₁, ?_, hplatform, hclicks⟩
  unfold secondApproval
  simp only [hclick, hs₁]

lemma preview_passes {click : ℕ} {c : Click} (hclick : s.clicks.get click = some c) (hstage : c.stage = .authorized)
    (hwr : s.platform.withdrawals.get c.withdrawal = some wr) (hpending : wr.status = .pending) :
    preview s click = { setClick s click .done with
      platform := { s.platform with
        submissions := s.platform.submissions.insert
          ⟨c.actor, .previewed c.withdrawal (wr.netAmount.getD wr.amountUsd)⟩ } } := by
  have hok : Payouts.Orchestrator.previewWithdrawal s.platform c.withdrawal c.actor = .ok { s.platform with
      submissions := s.platform.submissions.insert
        ⟨c.actor, .previewed c.withdrawal (wr.netAmount.getD wr.amountUsd)⟩ } := by
    refine bind_eq_ok.mpr ⟨wr, require_eq_ok.mpr hwr, ?_⟩
    rw [if_neg (not_not.mpr hpending)]
    rfl
  unfold preview
  simp only [hclick, hstage, if_true]
  have hsame : (setClick s click .done).platform = s.platform := rfl
  rw [hsame, hok]
  rfl

lemma create_passes {p : Payouts.Records.Platform} (provider : String) (basis : Balance) (actor : Option ℕ)
    (hwr : p.withdrawals.get w = some wr) (hfree : ∀ k a, p.attempts.get k = some a → a.withdrawalRequest ≠ w) :
    ∃ r, Payouts.StateMachine.createAndSubmitPayoutAttempt p w provider basis actor = .ok r := by
  have hnone : ¬ p.attempts.exists? (fun a => a.withdrawalRequest = w ∧ a.status.terminal = false) = true := by
    rw [Table.exists?_iff]
    rintro ⟨k, a, ha, hactive⟩
    exact hfree k a ha (of_decide_eq_true hactive).1
  have hlock : Payouts.Records.lockWithdrawal p w = .ok wr := require_eq_ok.mpr hwr
  have hsync : Payouts.StateMachine.syncWithdrawalRequestStatus { p with
      attempts := p.attempts.insert (Payouts.StateMachine.newAttempt p w wr provider basis actor) } w .submitted = .ok _ :=
    Payouts.StateMachine.sync_eq_ok.mpr ⟨_, rfl, ⟨wr, hwr⟩, rfl⟩
  simp only [Payouts.StateMachine.createAndSubmitPayoutAttempt, hlock, bind, Except.bind, if_neg hnone, hsync]
  exact ⟨_, rfl⟩

lemma claim_passes {p : Payouts.Records.Platform} {x : ℕ} {actor : Option ℕ} {basis : Balance} {estimate : ℚ}
    (hx : p.submissions.get x = some ⟨actor, .previewed w basis⟩) (hwr : p.withdrawals.get w = some wr)
    (hpending : wr.status = .pending) (hfree : ∀ k a, p.attempts.get k = some a → a.withdrawalRequest ≠ w) :
    ∃ k a, (Payouts.Orchestrator.claimSubmission p x (some estimate)).attempts.get k = some a ∧
      a.withdrawalRequest = w := by
  have hok : ∃ r, Payouts.Orchestrator.claimWithdrawal p w basis actor estimate = .ok r := by
    have hreviewed : (p.setWithdrawal w fun wr => { wr with reviewedBy := actor }).withdrawals.get w = _ :=
      Table.get_update_self hwr _
    obtain ⟨created, hcreated⟩ := create_passes Payouts.Orchestrator.providerName basis actor hreviewed hfree
    have hlock : Payouts.Records.lockWithdrawal p w = .ok wr := require_eq_ok.mpr hwr
    simp only [Payouts.Orchestrator.claimWithdrawal, hlock, bind, Except.bind, hpending, ne_eq, not_true_eq_false,
      if_false, hcreated]
    exact ⟨_, rfl⟩
  obtain ⟨⟨p', k⟩, hok⟩ := hok
  obtain ⟨found, wr', a, -, hclaim, rfl⟩ := Payouts.Effects.claimWithdrawal_ok hok
  simp only [Payouts.Orchestrator.claimSubmission, hx, hok]
  exact ⟨p.attempts.next, a, Table.get_insert_next _ _, hclaim.request⟩

lemma pending_rejectable (h : Sound s) (hwr : s.platform.withdrawals.get w = some wr) (hpending : wr.status = .pending)
    (hadmin : admin ∈ s.superusers) (hfits : ∀ i v, s.platform.ledger.wallets.get i = some v → v.user = wr.user →
      v.availableBalance.units + wr.amountUsd.units < 10 ^ 18) :
    ∃ wr', (run step s [.select .reject admin w, .previewRefund s.clicks.next,
      .reject s.clicks.next]).platform.withdrawals.get w = some wr' ∧ wr'.status = .rejected := by
  obtain ⟨hpositive, -, i, v, hv, huser⟩ := h.sized w wr hwr
  obtain ⟨j, u, hu, hown, hfound⟩ | ⟨hnone, -⟩ := getOrCreateWallet_cases s.platform.ledger wr.user
  · obtain ⟨r, hr⟩ := credit_fits { note := some (rejectionNote w), initiatedBy := some admin } hu hpositive
      (hfits j u hu hown)
    have hopened : step { s with clicks := s.clicks.insert ⟨.reject, some admin, w, .selected⟩ }
        (.previewRefund s.clicks.next) =
        { s with clicks := s.clicks.insert ⟨.reject, some admin, w, .walletRead j⟩ } := by
      simp only [step, previewRefund, Table.get_insert_next, hwr, hfound, setLedger, setClick, Table.update_insert_next]
    rw [run_cons, select_pending hadmin hwr hpending (by simp) (by simp), run_cons, hopened, run_cons, run_nil]
    exact reject_read (Table.get_insert_next _ _) hwr hpending hr
  · exact absurd huser (hnone i v hv)

lemma pending_approvable (h : Sound s) (hwr : s.platform.withdrawals.get w = some wr) (hpending : wr.status = .pending)
    (hadmin : admin ∈ s.superusers) (estimate : ℚ) (happroval : (s.approvals w).requiredApprovals ≤ 1 ∨
      ∃ first, (s.approvals w).firstApprovedBy = some first ∧ first ≠ admin) :
    ∃ k a, (run step s [.select .approve admin w, .secondApproval s.clicks.next, .preview s.clicks.next,
      .claimSubmission s.platform.submissions.next (some estimate)]).platform.attempts.get k = some a ∧
        a.withdrawalRequest = w := by
  rw [run_cons, select_pending hadmin hwr hpending (by simp) (by simp), run_cons]
  obtain ⟨s₁, hs₁, hplatform, hclicks⟩ := secondApproval_passes
    (s := { s with clicks := s.clicks.insert ⟨.approve, some admin, w, .selected⟩ }) (Table.get_insert_next _ _) hwr
    hpending happroval
  have hauthorized : (setClick s₁ s.clicks.next .authorized).clicks.get s.clicks.next =
      some ⟨.approve, some admin, w, .authorized⟩ := by
    rw [setClick, hclicks, Table.update_insert_next, Table.get_insert_next]
  have hfound : (setClick s₁ s.clicks.next .authorized).platform.withdrawals.get w = some wr := by
    rw [← hwr, setClick, hplatform]
  have hsubmissions : (setClick s₁ s.clicks.next .authorized).platform = s.platform := hplatform
  rw [step, hs₁, run_cons, step, preview_passes hauthorized rfl hfound hpending, run_cons, run_nil, hsubmissions]
  refine claim_passes (Table.get_insert_next _ _) hwr hpending fun k a ha => ?_
  exact h.unattempted hwr (Or.inl hpending) ha

lemma pending_signable (hwr : s.platform.withdrawals.get w = some wr) (hpending : wr.status = .pending)
    (hadmin : admin ∈ s.superusers) (hdual : 1 < (s.approvals w).requiredApprovals)
    (hblank : (s.approvals w).firstApprovedBy = none) :
    ((run step s [.select .firstApprove admin w, .firstApprove s.clicks.next]).approvals w).firstApprovedBy =
      some admin := by
  rw [run_cons, select_pending hadmin hwr hpending (by simp) (by simp), run_cons, run_nil]
  have hpass : (s.platform.withdrawals.get w).any (fun wr => wr.status = .pending) = true := by
    simp [hwr, hpending]
  simp only [step, recordFirst, Table.get_insert_next, firstApprove, setClick, setApproval]
  rw [if_pos ⟨hpass, hdual, hblank⟩]
  simp

lemma sound_reviewable (h : Sound s) (hwr : s.platform.withdrawals.get w = some wr) (hpending : wr.status = .pending) :
    Reviewable s w wr where
  rejectable _ hadmin hfits := pending_rejectable h hwr hpending hadmin hfits
  approvable _ hadmin estimate happroval := pending_approvable h hwr hpending hadmin estimate happroval
  signable _ hadmin hdual hblank := pending_signable hwr hpending hadmin hdual hblank

end Again

section Reviewed

/-- What holds in a state `s` of a review, and of every run from there. -/
structure Reviewed (s : Desk) : Prop where
  dual : ∀ a k attempt wr, s.platform.attempts.get k = none → (step s a).platform.attempts.get k = some attempt →
    (step s a).platform.withdrawals.get attempt.withdrawalRequest = some wr → 100000 < wr.amountUsd.units →
    TwoApproved (s.approvals attempt.withdrawalRequest)
  recorded : ∀ acts w wr, s.platform.withdrawals.get w = some wr → Signed (s.approvals w) ((run step s acts).approvals w)
  unsubmitted : ∀ acts w wr k a, s.platform.withdrawals.get w = some wr → wr.status = .rejected →
    (run step s acts).platform.attempts.get k = some a → a.withdrawalRequest ≠ w
  unrejected : ∀ acts k a wr, s.platform.attempts.get k = some a →
    (run step s acts).platform.withdrawals.get a.withdrawalRequest = some wr → wr.status ≠ .rejected
  refunded : ∀ w wr, s.platform.withdrawals.get w = some wr → wr.status = .rejected → ∃ i row, Refund s w i row ∧
    row.txType = .correction ∧ row.amount.units = wr.amountUsd.units ∧ Owned s wr row.wallet ∧
      ∀ j row', Refund s w j row' → j = i
  unrefunded : ∀ w wr i row, s.platform.withdrawals.get w = some wr → wr.status ≠ .rejected → ¬ Refund s w i row
  untouched : ∀ a, (∃ submission, a = .claimSubmission submission none) ∨ Lost s a → Untouched s (step s a)
  reviewable : ∀ w wr, s.platform.withdrawals.get w = some wr → wr.status = .pending → Reviewable s w wr

lemma attempt_cleared (he : Effect s s') {k : ℕ} {a : PayoutAttempt} (hnone : s.platform.attempts.get k = none)
    (ha : s'.platform.attempts.get k = some a) : Cleared s a.withdrawalRequest := by
  have hsame : s'.platform.attempts = s.platform.attempts → Cleared s a.withdrawalRequest := by
    intro heq
    rw [heq, hnone] at ha
    cases ha
  cases he with
  | quiet withdrawals attempts approvals silent follows => exact hsame attempts
  | created wr required pending positive dual owned withdrawals attempts approvals silent follows => exact hsame attempts
  | recorded w wr b found record withdrawals attempts approvals silent follows => exact hsame attempts
  | claimed w wr wr' b found cleared claim withdrawals attempts approvals silent follows =>
    rw [attempts] at ha
    obtain hold | ⟨-, rfl⟩ := Table.get_insert_some ha
    · rw [hnone] at hold
      cases hold
    · exact claim.request ▸ cleared
  | settled j b b' wr wr' attempt found synced withdrawals attempts approvals silent follows =>
    rw [attempts] at ha
    obtain ⟨old, hold, -⟩ := Table.get_update_some ha
    rw [hnone] at hold
    cases hold
  | rejected w wr wr' found pending user amountUsd status withdrawals attempts approvals posted follows =>
    exact hsame attempts

lemma Sound.twoApproved (h : Sound s) (hcleared : Cleared s w) {wr : WithdrawalRequest}
    (hwr : s.platform.withdrawals.get w = some wr) (hlarge : 100000 < wr.amountUsd.units) :
    TwoApproved (s.approvals w) := by
  obtain hone | htwo := hcleared.approved
  · have hdual := (h.sized w wr hwr).2.1 hlarge
    omega
  · exact htwo

lemma run_rejected (h : Sound s) {wr : WithdrawalRequest} (hwr : s.platform.withdrawals.get w = some wr)
    (hrejected : wr.status = .rejected) (acts : List Action) :
    ∃ wr', (run step s acts).platform.withdrawals.get w = some wr' ∧ wr'.status = .rejected := by
  -- The refund is still there, and it is that of a rejected withdrawal.
  obtain ⟨i, row, hrow⟩ := h.refunds.rejected w wr hwr hrejected
  have hkept : Refund (run step s acts) w i row := ⟨(run_grown h acts).ledger.rows i row hrow.found, hrow.note⟩
  obtain ⟨-, wr', hwr', hrejected', -⟩ := (run_sound h acts).refunds.rows w i row hkept
  exact ⟨wr', hwr', hrejected'⟩

lemma sound_reviewed (h : Sound s) : Reviewed s where
  dual a k attempt wr hnone hattempt hwr hlarge := by
    have heffect := step_effect h a
    have hcleared := attempt_cleared heffect hnone hattempt
    obtain ⟨old, hold⟩ := hcleared.found
    obtain ⟨new, hnew, -, hamount⟩ := (effect_grown heffect).withdrawals _ old hold
    rw [hwr, Option.some.injEq] at hnew
    subst hnew
    exact h.twoApproved hcleared hold (hamount ▸ hlarge)
  recorded acts w wr hwr := (run_grown h acts).approvals w wr hwr
  unsubmitted acts w wr k a hwr hrejected ha := by
    obtain ⟨wr', hwr', hrejected'⟩ := run_rejected h hwr hrejected acts
    exact (run_sound h acts).unattempted hwr' (Or.inr hrejected') ha
  unrejected acts k a wr ha hwr hrejected := by
    obtain ⟨a', ha', hrequest⟩ := (run_grown h acts).attempts k a ha
    exact (run_sound h acts).unattempted hwr (Or.inr hrejected) ha' hrequest
  refunded w wr hwr hrejected := by
    obtain ⟨i, row, hrow⟩ := h.refunds.rejected w wr hwr hrejected
    obtain ⟨htype, found, hfound, -, hamount, howned⟩ := h.refunds.rows w i row hrow
    rw [hwr, Option.some.injEq] at hfound
    subst hfound
    exact ⟨i, row, hrow, htype, hamount, howned, fun j row' hrow' => h.refunds.once w j i row' row hrow' hrow⟩
  unrefunded w wr i row hwr hstatus hrow := by
    obtain ⟨-, found, hfound, hrejected, -⟩ := h.refunds.rows w i row hrow
    rw [hwr, Option.some.injEq] at hfound
    exact hstatus (hfound ▸ hrejected)
  untouched a ha := by
    obtain ⟨submission, rfl⟩ | hlost := ha
    · exact estimate_untouched s submission
    · exact lost_untouched h hlost
  reviewable _ _ hwr hpending := sound_reviewable h hwr hpending

/-- In every state that clicks of any admins and submissions reach, an attempt above a thousand dollars needs two of
them on record, and a rejection and a submission exclude each other. -/
theorem withdrawals_reviewed (wallets : Table Wallet) (feeConfig : Otp.FeeConfig) (superusers : List ℕ)
    (acts : List Action) : Reviewed (run step (opened wallets feeConfig superusers) acts) :=
  sound_reviewed (run_sound (opened_sound wallets feeConfig superusers) acts)

def hundred : Table Wallet :=
  .ofList [{ user := 1, currency := "USD", availableBalance := .ofUnits 10000, pendingBalance := .ofUnits 0 }]

def confirmed : Challenge where
  user := 1
  purpose := .withdrawal
  amountUsd := some (.ofUnits 5000)
  withdrawAll := false
  asset := "USDT"
  network := "TRC20"
  walletAddress := "TXYZ"
  codeHash := ""
  expiresAt := 600
  attempts := 0
  maxAttempts := 5
  lastSentAt := 0
  status := .verified

/-- The automatic submission and a retry both read the withdrawal as pending; the second to claim it finds it claimed,
and it is not pending. -/
def twoSubmissions : Desk :=
  run step (opened hundred ⟨.ofUnits 0, false⟩ [1])
    [.finalize confirmed, .select .retry 1 0, .preview 0, .preview 1, .claimSubmission 0 (some 50),
      .claimSubmission 1 (some 50)]

theorem lost_claim_finds_processing :
    twoSubmissions.platform.submissions.get 1 = some ⟨none, .raised (.withdrawalAlreadyClaimed 0 .processing)⟩ ∧
      (twoSubmissions.platform.withdrawals.get 0).map WithdrawalRequest.status = some .processing := by
  decide +kernel

end Reviewed

end TrxSimulator.Withdrawals.Reviews
