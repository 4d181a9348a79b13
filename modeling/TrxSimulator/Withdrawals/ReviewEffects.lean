import TrxSimulator.Withdrawals.Effects
import TrxSimulator.Withdrawals.Reviews

/-! What one step of a review can do to the withdrawals, the approvals, the attempts and the wallet ledger. -/

namespace TrxSimulator.Withdrawals.Reviews

open Foundations.Tables Foundations.Outcomes Foundations.Decimals Foundations.Runs Foundations.Texts Money Accounts Wallets.Ledger
open Payouts.Records (Platform PayoutAttempt WithdrawalRequest WithdrawalStatus PayoutNote lockWithdrawal Submission)
open Payouts.Machine (Synced Applied Posted Carried)
open Payouts.Effects (Claim)
open Otp (Challenge)

variable {s s' : Desk} {w : ℕ}

section Notes

variable {l l' : WalletLedger PayoutNote} {text : String}

lemma rejectionNote_injective {v : ℕ} (h : rejectionNote v = rejectionNote w) : v = w := by
  have htext : "Refund — retiro #" ++ (toString v ++ " rechazado por admin") =
      "Refund — retiro #" ++ (toString w ++ " rechazado por admin") := PayoutNote.other.inj h
  have hlist := congrArg String.toList htext
  simp only [String.toList_append] at hlist
  exact toString_injective (String.toList_injective (List.append_cancel_right (List.append_cancel_left hlist)))

lemma ne_rejectionNote (h : ownNote text = true) (w : ℕ) : PayoutNote.other text ≠ rejectionNote w := by
  intro heq
  rw [PayoutNote.other.inj heq, ownNote, decide_eq_true_eq] at h
  apply h
  rw [String.toList_append, List.isPrefixOf_iff_prefix]
  exact List.prefix_append _ _

lemma ownNote_debit (text : String) : ownNote ("Retiro #" ++ text) = true := by
  rw [ownNote, decide_eq_true_eq, String.toList_append]
  simp [List.isPrefixOf]

/-- Every wallet stays with its user, and no row goes. -/
structure Extends (l l' : WalletLedger PayoutNote) : Prop where
  wallets : ∀ i v, l.wallets.get i = some v → ∃ v', l'.wallets.get i = some v' ∧ v'.user = v.user
  rows : ∀ i row, l.transactions.get i = some row → l'.transactions.get i = some row

lemma Extends.refl (l : WalletLedger PayoutNote) : Extends l l := ⟨fun _ v h => ⟨v, h, rfl⟩, fun _ _ => id⟩

lemma Extends.trans {l'' : WalletLedger PayoutNote} (h : Extends l l') (h' : Extends l' l'') : Extends l l'' := by
  refine ⟨fun i v hv => ?_, fun i row hrow => h'.rows i row (h.rows i row hrow)⟩
  obtain ⟨v', hv', huser⟩ := h.wallets i v hv
  obtain ⟨v'', hv'', huser'⟩ := h'.wallets i v' hv'
  exact ⟨v'', hv'', huser'.trans huser⟩

lemma extends_carried (h : Carried l l') : Extends l l' := by
  refine ⟨fun i v hv => ?_, h.rows⟩
  obtain ⟨v', hv', huser, -⟩ := h.wallets i v hv
  exact ⟨v', hv', huser⟩

lemma extends_post (l : WalletLedger PayoutNote) (i : ℕ) (txType : TxType) (amount balance : Amount)
    (refs : References PayoutNote) : Extends l (l.post i txType amount balance refs) := by
  refine ⟨fun j v hv => ?_, fun _ _ => post_transactions_of_get _ _ _ _ _ _⟩
  by_cases hj : j = i
  · subst hj
    exact ⟨_, post_wallets_self _ _ _ _ _ _ hv, rfl⟩
  · exact ⟨v, (post_wallets_ne _ _ _ _ _ _ hj).trans hv, rfl⟩

/-- Nothing of the change is the refund of a rejection. -/
structure Silent (l l' : WalletLedger PayoutNote) : Prop extends Extends l l' where
  new : ∀ i row w, l'.transactions.get i = some row → row.note = some (rejectionNote w) →
    l.transactions.get i = some row

lemma Silent.refl (l : WalletLedger PayoutNote) : Silent l l := ⟨.refl l, fun _ _ _ h _ => h⟩

lemma Silent.trans {l'' : WalletLedger PayoutNote} (h : Silent l l') (h' : Silent l' l'') : Silent l l'' :=
  ⟨h.toExtends.trans h'.toExtends, fun i row w hrow hnote => h.new i row w (h'.new i row w hrow hnote) hnote⟩

lemma silent_openWallet (l : WalletLedger PayoutNote) (user : ℕ) : Silent l (getOrCreateWallet l user).1 := by
  refine ⟨extends_carried (Payouts.Machine.carried_openWallet l user), fun i row w hrow _ => ?_⟩
  rwa [Payouts.Machine.openWallet_transactions] at hrow

lemma silent_post {refs : References PayoutNote} (h : ∀ w, refs.note ≠ some (rejectionNote w))
    (l : WalletLedger PayoutNote) (i : ℕ) (txType : TxType) (amount balance : Amount) :
    Silent l (l.post i txType amount balance refs) := by
  refine ⟨extends_post _ _ _ _ _ _, fun j row w hrow hnote => ?_⟩
  obtain hold | ⟨-, rfl⟩ := Table.get_insert_some hrow
  · exact hold
  · exact absurd hnote (h w)

lemma silent_credit {refs : References PayoutNote} {i : ℕ} {amount : ℚ} {txType : TxType}
    {r : WalletLedger PayoutNote × ℕ} (h : ∀ w, refs.note ≠ some (rejectionNote w))
    (hok : creditWallet l i amount txType refs = .ok r) : Silent l r.1 := by
  obtain ⟨wallet, balance, row, -, -, -, -, rfl⟩ := creditWallet_eq_ok.mp hok
  exact silent_post h _ _ _ _ _

lemma silent_debit {refs : References PayoutNote} {i : ℕ} {amount : ℚ} {txType : TxType}
    {r : WalletLedger PayoutNote × ℕ} (h : ∀ w, refs.note ≠ some (rejectionNote w))
    (hok : debitWallet l i amount txType refs = .ok r) : Silent l r.1 := by
  obtain ⟨wallet, balance, row, -, -, -, -, -, rfl⟩ := debitWallet_eq_ok.mp hok
  have hnote : ∀ w, ({ refs with deposit := none } : References PayoutNote).note ≠ some (rejectionNote w) := h
  exact silent_post hnote _ _ _ _ _

lemma silent_refunded {txType : TxType} {n : ℤ} {user attempt : ℕ} {reason : String}
    (h : Posted l l' txType n user (some (.refund attempt reason))) : Silent l l' := by
  refine ⟨extends_carried h.carried, fun i row w hrow hnote => ?_⟩
  obtain hold | ⟨-, -, -, hrefund, -⟩ := Payouts.Machine.posted_cases h hrow
  · exact hold
  · rw [hrefund] at hnote
    cases hnote

end Notes

section Approvals

/-- Two different admins are recorded. -/
def TwoApproved (a : Approval) : Prop :=
  ∃ first second, a.firstApprovedBy = some first ∧ a.secondApprovedBy = some second ∧ first ≠ second

def Approved (a : Approval) : Prop := a.requiredApprovals ≤ 1 ∨ TwoApproved a

structure Cleared (s : Desk) (w : ℕ) : Prop where
  found : ∃ wr, s.platform.withdrawals.get w = some wr
  approved : Approved (s.approvals w)

structure Owned (s : Desk) (wr : WithdrawalRequest) (i : ℕ) : Prop where
  wallet : ∃ v, s.platform.ledger.wallets.get i = some v ∧ v.user = wr.user

structure Tracked (s : Desk) (c : Click) : Prop where
  found : ∃ wr, s.platform.withdrawals.get c.withdrawal = some wr
  authorized : c.stage = .authorized → Approved (s.approvals c.withdrawal)
  wallet : ∀ i wr, c.stage = .walletRead i → s.platform.withdrawals.get c.withdrawal = some wr → Owned s wr i

/-- A record that has been made stays as it is. -/
structure Signed (a a' : Approval) : Prop where
  required : a'.requiredApprovals = a.requiredApprovals
  first : ∀ admin, a.firstApprovedBy = some admin → a'.firstApprovedBy = some admin
  second : ∀ admin, a.secondApprovedBy = some admin → a'.secondApprovedBy = some admin

lemma Signed.refl (a : Approval) : Signed a a := ⟨rfl, fun _ => id, fun _ => id⟩

lemma Signed.trans {a a' a'' : Approval} (h : Signed a a') (h' : Signed a' a'') : Signed a a'' :=
  ⟨h'.required.trans h.required, fun admin ha => h'.first admin (h.first admin ha),
    fun admin ha => h'.second admin (h.second admin ha)⟩

lemma Signed.approved {a a' : Approval} (h : Signed a a') (ha : Approved a) : Approved a' := by
  obtain hone | ⟨first, second, hfirst, hsecond, hne⟩ := ha
  · exact Or.inl (h.required.trans_le hone)
  · exact Or.inr ⟨first, second, h.first _ hfirst, h.second _ hsecond, hne⟩

/-- What no step takes back. -/
structure Grown (s s' : Desk) : Prop where
  withdrawals : ∀ w wr, s.platform.withdrawals.get w = some wr → ∃ wr', s'.platform.withdrawals.get w = some wr' ∧
    wr'.user = wr.user ∧ wr'.amountUsd = wr.amountUsd
  approvals : ∀ w wr, s.platform.withdrawals.get w = some wr → Signed (s.approvals w) (s'.approvals w)
  attempts : ∀ k a, s.platform.attempts.get k = some a → ∃ a', s'.platform.attempts.get k = some a' ∧
    a'.withdrawalRequest = a.withdrawalRequest
  ledger : Extends s.platform.ledger s'.platform.ledger

lemma Grown.refl (s : Desk) : Grown s s :=
  ⟨fun _ wr h => ⟨wr, h, rfl, rfl⟩, fun _ _ _ => .refl _, fun _ a h => ⟨a, h, rfl⟩, .refl _⟩

lemma Grown.trans {s'' : Desk} (h : Grown s s') (h' : Grown s' s'') : Grown s s'' where
  withdrawals w wr hwr := by
    obtain ⟨wr', hwr', huser, hamount⟩ := h.withdrawals w wr hwr
    obtain ⟨wr'', hwr'', huser', hamount'⟩ := h'.withdrawals w wr' hwr'
    exact ⟨wr'', hwr'', huser'.trans huser, hamount'.trans hamount⟩
  approvals w wr hwr := by
    obtain ⟨wr', hwr', -⟩ := h.withdrawals w wr hwr
    exact (h.approvals w wr hwr).trans (h'.approvals w wr' hwr')
  attempts k a ha := by
    obtain ⟨a', ha', hrequest⟩ := h.attempts k a ha
    obtain ⟨a'', ha'', hrequest'⟩ := h'.attempts k a' ha'
    exact ⟨a'', ha'', hrequest'.trans hrequest⟩
  ledger := h.ledger.trans h'.ledger

lemma Cleared.grown (h : Cleared s w) (hgrown : Grown s s') : Cleared s' w := by
  obtain ⟨wr, hwr⟩ := h.found
  obtain ⟨wr', hwr', -⟩ := hgrown.withdrawals w wr hwr
  exact ⟨⟨wr', hwr'⟩, (hgrown.approvals w wr hwr).approved h.approved⟩

lemma Owned.grown {wr wr' : WithdrawalRequest} {i : ℕ} (h : Owned s wr i) (hgrown : Grown s s')
    (huser : wr'.user = wr.user) : Owned s' wr' i := by
  obtain ⟨v, hv, hown⟩ := h.wallet
  obtain ⟨v', hv', hsame⟩ := hgrown.ledger.wallets i v hv
  exact ⟨v', hv', hsame.trans (hown.trans huser.symm)⟩

lemma Tracked.grown {c : Click} (h : Tracked s c) (hgrown : Grown s s') : Tracked s' c := by
  obtain ⟨wr, hwr⟩ := h.found
  obtain ⟨wr', hwr', huser, -⟩ := hgrown.withdrawals _ wr hwr
  refine ⟨⟨wr', hwr'⟩, fun hstage => (hgrown.approvals _ wr hwr).approved (h.authorized hstage), ?_⟩
  intro i wr₁ hstage hwr₁
  rw [hwr', Option.some.injEq] at hwr₁
  subst hwr₁
  exact (h.wallet i wr hstage hwr).grown hgrown huser

end Approvals

section Effects

/-- A refund of a rejected withdrawal, as one row of the ledger. -/
structure Refund (s : Desk) (w i : ℕ) (row : WalletTransaction PayoutNote) : Prop where
  found : s.platform.ledger.transactions.get i = some row
  note : row.note = some (rejectionNote w)

structure Refunds (s : Desk) : Prop where
  rows : ∀ w i row, Refund s w i row → row.txType = .correction ∧ ∃ wr,
    s.platform.withdrawals.get w = some wr ∧ wr.status = .rejected ∧ row.amount.units = wr.amountUsd.units ∧
      Owned s wr row.wallet
  rejected : ∀ w wr, s.platform.withdrawals.get w = some wr → wr.status = .rejected → ∃ i row, Refund s w i row
  once : ∀ w i j row row', Refund s w i row → Refund s w j row' → i = j

structure Sound (s : Desk) : Prop where
  sized : ∀ w wr, s.platform.withdrawals.get w = some wr → 0 < wr.amountUsd.units ∧
    (100000 < wr.amountUsd.units → (s.approvals w).requiredApprovals = 2) ∧ ∃ i, Owned s wr i
  blank : ∀ w, s.platform.withdrawals.get w = none →
    (s.approvals w).firstApprovedBy = none ∧ (s.approvals w).secondApprovedBy = none
  distinct : ∀ w second, (s.approvals w).secondApprovedBy = some second →
    ∃ first, (s.approvals w).firstApprovedBy = some first ∧ first ≠ second
  clicks : ∀ c click, s.clicks.get c = some click → Tracked s click
  submissions : ∀ x actor w basis, s.platform.submissions.get x = some ⟨actor, .previewed w basis⟩ → Cleared s w
  attempts : ∀ k a, s.platform.attempts.get k = some a → Cleared s a.withdrawalRequest ∧
    ∀ wr, s.platform.withdrawals.get a.withdrawalRequest = some wr → wr.status ≠ .pending ∧ wr.status ≠ .rejected
  refunds : Refunds s

/-- One more admin on the record. -/
inductive Record (a : Approval) : Approval → Prop
  | first (admin : ℕ) (blank : a.firstApprovedBy = none) : Record a { a with firstApprovedBy := some admin }
  | second (first admin : ℕ) (recorded : a.firstApprovedBy = some first) (other : first ≠ admin)
      (blank : a.secondApprovedBy = none) : Record a { a with secondApprovedBy := some admin }

structure Follows (s s' : Desk) : Prop where
  clicks : ∀ c click, s'.clicks.get c = some click → s.clicks.get c = some click ∨ Tracked s' click
  submissions : ∀ x actor w basis, s'.platform.submissions.get x = some ⟨actor, .previewed w basis⟩ →
    s.platform.submissions.get x = some ⟨actor, .previewed w basis⟩ ∨ Cleared s' w

inductive Effect (s s' : Desk) : Prop
  | quiet (withdrawals : s'.platform.withdrawals = s.platform.withdrawals)
      (attempts : s'.platform.attempts = s.platform.attempts) (approvals : s'.approvals = s.approvals)
      (silent : Silent s.platform.ledger s'.platform.ledger) (follows : Follows s s')
  | created (wr : WithdrawalRequest) (required : ℕ) (pending : wr.status = .pending) (positive : 0 < wr.amountUsd.units)
      (dual : 100000 < wr.amountUsd.units → required = 2) (owned : ∃ i, Owned s' wr i)
      (withdrawals : s'.platform.withdrawals = s.platform.withdrawals.insert wr)
      (attempts : s'.platform.attempts = s.platform.attempts)
      (approvals : s'.approvals = Function.update s.approvals s.platform.withdrawals.next ⟨required, none, none⟩)
      (silent : Silent s.platform.ledger s'.platform.ledger) (follows : Follows s s')
  | recorded (w : ℕ) (wr : WithdrawalRequest) (a : Approval) (found : s.platform.withdrawals.get w = some wr)
      (record : Record (s.approvals w) a) (withdrawals : s'.platform.withdrawals = s.platform.withdrawals)
      (attempts : s'.platform.attempts = s.platform.attempts) (approvals : s'.approvals = Function.update s.approvals w a)
      (silent : Silent s.platform.ledger s'.platform.ledger) (follows : Follows s s')
  | claimed (w : ℕ) (wr wr' : WithdrawalRequest) (a : PayoutAttempt) (found : s.platform.withdrawals.get w = some wr)
      (cleared : Cleared s w) (claim : Claim w wr wr' a)
      (withdrawals : s'.platform.withdrawals = s.platform.withdrawals.update w fun _ => wr')
      (attempts : s'.platform.attempts = s.platform.attempts.insert a) (approvals : s'.approvals = s.approvals)
      (silent : Silent s.platform.ledger s'.platform.ledger) (follows : Follows s s')
  | settled (k : ℕ) (a a' : PayoutAttempt) (wr wr' : WithdrawalRequest) (attempt : s.platform.attempts.get k = some a)
      (found : s.platform.withdrawals.get a.withdrawalRequest = some wr) (synced : Synced a a' wr wr')
      (withdrawals : s'.platform.withdrawals = s.platform.withdrawals.update a.withdrawalRequest fun _ => wr')
      (attempts : s'.platform.attempts = s.platform.attempts.update k fun _ => a')
      (approvals : s'.approvals = s.approvals)
      (silent : Silent s.platform.ledger s'.platform.ledger) (follows : Follows s s')
  | rejected (w : ℕ) (wr wr' : WithdrawalRequest) (found : s.platform.withdrawals.get w = some wr)
      (pending : wr.status = .pending) (user : wr'.user = wr.user) (amountUsd : wr'.amountUsd = wr.amountUsd)
      (status : wr'.status = .rejected)
      (withdrawals : s'.platform.withdrawals = s.platform.withdrawals.update w fun _ => wr')
      (attempts : s'.platform.attempts = s.platform.attempts) (approvals : s'.approvals = s.approvals)
      (posted : Posted s.platform.ledger s'.platform.ledger .correction wr.amountUsd.units wr.user
        (some (rejectionNote w))) (follows : Follows s s')

lemma follows_same (hclicks : s'.clicks = s.clicks) (hsubmissions : s'.platform.submissions = s.platform.submissions) :
    Follows s s' :=
  ⟨fun _ _ h => Or.inl (hclicks ▸ h), fun _ _ _ _ h => Or.inl (hsubmissions ▸ h)⟩

lemma effect_refl (s : Desk) : Effect s s := .quiet rfl rfl rfl (.refl _) (follows_same rfl rfl)

lemma clicks_insert {click : Click} (hclicks : s'.clicks = s.clicks.insert click) (hclick : Tracked s' click)
    (c : ℕ) (found : Click) (h : s'.clicks.get c = some found) : s.clicks.get c = some found ∨ Tracked s' found := by
  rw [hclicks] at h
  exact (Table.get_insert_some h).imp_right fun ⟨_, hfound⟩ => hfound ▸ hclick

lemma clicks_update {k : ℕ} {stage : Stage} (hclicks : s'.clicks = s.clicks.update k fun c => { c with stage := stage })
    (hclick : ∀ c, s.clicks.get k = some c → Tracked s' { c with stage := stage })
    (c : ℕ) (found : Click) (h : s'.clicks.get c = some found) : s.clicks.get c = some found ∨ Tracked s' found := by
  rw [hclicks] at h
  obtain ⟨old, hold, rfl⟩ := Table.get_update_some h
  split
  · next hc =>
    subst hc
    exact Or.inr (hclick old hold)
  · exact Or.inl hold

lemma submissions_update {k : ℕ} {stage : Payouts.Records.SubmissionStage} {submissions : Table Submission}
    (hstage : ∀ w basis, stage ≠ .previewed w basis) (hs : submissions = s.platform.submissions)
    (h : s'.platform.submissions = submissions.update k fun x => { x with stage := stage })
    (x : ℕ) (actor : Option ℕ) (w : ℕ) (basis : Balance)
    (hx : s'.platform.submissions.get x = some ⟨actor, .previewed w basis⟩) :
    s.platform.submissions.get x = some ⟨actor, .previewed w basis⟩ ∨ Cleared s' w := by
  rw [h, hs] at hx
  obtain ⟨old, hold, heq⟩ := Table.get_update_some hx
  split at heq
  · exact absurd (Submission.mk.inj heq).2.symm (hstage w basis)
  · exact Or.inl (heq ▸ hold)

lemma tracked_idle {c : Click} (h : ∃ wr, s.platform.withdrawals.get c.withdrawal = some wr)
    (hstage : c.stage ≠ .authorized) (hwallet : ∀ i, c.stage ≠ .walletRead i) : Tracked s c :=
  ⟨h, fun hc => absurd hc hstage, fun i _ hc => absurd hc (hwallet i)⟩

end Effects

section Steps

variable {click : ℕ}

lemma finalizeWithdrawal_created {walletId : ℕ} {seen : Challenge} (h : finalizeWithdrawal s walletId seen = .ok s') :
    ∃ wr required, wr.status = .pending ∧ wr.user = seen.user ∧ 0 < wr.amountUsd.units ∧
      (100000 < wr.amountUsd.units → required = 2) ∧ ∃ l, Silent s.platform.ledger l ∧
      s' = createWithdrawal (setLedger s l) wr required := by
  simp only [finalizeWithdrawal, WalletLedger.wallet, bind_eq_ok, mapError_eq_ok, require_eq_ok, guard_eq_ok,
    pure_eq_ok] at h
  obtain ⟨wallet, hwallet, -, amount, hamount, hpositive, -, currency, -, ⟨l, row⟩, hdebit, amountUsd, husd, feeAmount,
    -, netAmount, -, -, rfl⟩ := h
  obtain ⟨n, rfl⟩ := Effects.finalAmount_scaled hamount
  have hn := Effects.columnOf_scaled husd
  rw [scaled_nonpos, not_le] at hpositive
  have hlimit : (1000 : ℚ) = scaled 2 100000 := by norm_num [scaled]
  refine ⟨_, _, rfl, rfl, hn ▸ hpositive, fun hlarge => ?_, l, ?_, rfl⟩
  · refine if_pos ?_
    rw [hlimit, scaled_lt, ← hn]
    exact hlarge
  · refine silent_debit (fun w hnote => ?_) hdebit
    exact ne_rejectionNote (ownNote_debit _) w (Option.some.inj hnote)

lemma finalize_effect (seen : Challenge) : Effect s (finalize s seen) := by
  rw [finalize]
  have hopened := silent_openWallet s.platform.ledger seen.user
  refine commit_rule (motive := fun s' : Desk => Effect s s') _ _ ?_ fun s' hok => ?_
  · exact .quiet rfl rfl rfl hopened (follows_same rfl rfl)
  · obtain ⟨v, hv, huser⟩ := getOrCreateWallet_get s.platform.ledger seen.user
    obtain ⟨wr, required, hpending, hwr, hpositive, hdual, l, hsilent, rfl⟩ :=
      finalizeWithdrawal_created hok
    obtain ⟨v', hv', huser'⟩ := hsilent.wallets _ v hv
    have hclear : ∃ found, (createWithdrawal (setLedger (setLedger s (getOrCreateWallet s.platform.ledger seen.user).1) l)
        wr required).platform.withdrawals.get s.platform.withdrawals.next = some found :=
      ⟨wr, Table.get_insert_next _ _⟩
    refine .created wr required hpending hpositive hdual ⟨_, v', hv', huser'.trans (huser.trans hwr.symm)⟩ rfl rfl rfl
      (hopened.trans hsilent) ⟨fun c found hfound => ?_, fun _ _ _ _ => Or.inl⟩
    simp only [createWithdrawal] at hfound
    split at hfound
    · next hone =>
      refine (Table.get_insert_some hfound).imp_right fun ⟨_, heq⟩ => ?_
      subst heq
      refine ⟨hclear, fun _ => Or.inl ?_, fun i _ hstage => nomatch hstage⟩
      simp [createWithdrawal, setLedger, hone]
    · exact Or.inl hfound

lemma selectable_found {kind : Kind} (h : selectable s kind w = true) :
    ∃ wr, s.platform.withdrawals.get w = some wr ∧ wr.status = .pending := by
  unfold selectable at h
  rw [Bool.and_eq_true, Option.any_eq_true] at h
  obtain ⟨wr, hwr, hpending⟩ := h.1
  exact ⟨wr, hwr, of_decide_eq_true hpending⟩

lemma select_effect (kind : Kind) (admin w : ℕ) : Effect s (select s kind admin w) := by
  rw [select]
  split
  · next h =>
    obtain ⟨wr, hwr, -⟩ := selectable_found h.2
    refine .quiet rfl rfl rfl (.refl _) ⟨clicks_insert rfl ⟨⟨wr, hwr⟩, fun hstage => ?_, fun i _ hstage => ?_⟩,
      fun _ _ _ _ => Or.inl⟩
    · by_cases hretry : kind = .retry
      · subst hretry
        have hboth := h.2
        unfold selectable at hboth
        rw [Bool.and_eq_true] at hboth
        exact Or.inl (of_decide_eq_true hboth.2).le
      · simp [hretry] at hstage
    · dsimp only at hstage
      split at hstage <;> cases hstage
  · exact effect_refl s

lemma recordFirst_effect (h : Sound s) (click : ℕ) : Effect s (recordFirst s click) := by
  unfold recordFirst
  split
  · next admin w hclick =>
    obtain ⟨found, hfound⟩ := (h.clicks _ _ hclick).found
    have hfollows : ∀ s₁ : Desk, s₁.platform = s.platform → s₁.clicks = s.clicks → Follows s (setClick s₁ click .done) := by
      intro s₁ hplatform hclicks
      have hdone : (setClick s₁ click .done).clicks = s.clicks.update click fun c => { c with stage := .done } := by
        rw [← hclicks]
        rfl
      refine ⟨clicks_update hdone fun c hc => ?_, fun x actor w basis hx => ?_⟩
      · rw [hclick, Option.some.injEq] at hc
        subst hc
        refine tracked_idle ⟨found, ?_⟩ (by simp) (by simp)
        exact hplatform ▸ hfound
      · exact Or.inl (hplatform ▸ hx)
    rw [firstApprove]
    split
    · next hfirst =>
      exact .recorded w found _ hfound (.first admin hfirst.2.2) rfl rfl rfl (.refl _) (hfollows _ rfl rfl)
    · exact .quiet rfl rfl rfl (.refl _) (hfollows _ rfl rfl)
  · exact effect_refl s

lemma follows_setClick {stage : Stage} (hclicks : s'.clicks = s.clicks.update click fun c => { c with stage := stage })
    (hsubmissions : s'.platform.submissions = s.platform.submissions)
    (hclick : ∀ c, s.clicks.get click = some c → Tracked s' { c with stage := stage }) : Follows s s' :=
  ⟨clicks_update hclicks hclick, fun _ _ _ _ hx => Or.inl (hsubmissions ▸ hx)⟩

lemma applySecondApproval_ok (h : Sound s) {actor : ℕ} (hok : applySecondApproval s w actor = .ok s') :
    ∃ wr, s.platform.withdrawals.get w = some wr ∧ Approved (s'.approvals w) ∧
      (s' = s ∨ ∃ a, Record (s.approvals w) a ∧ s' = setApproval s w a) := by
  simp only [applySecondApproval, bind_eq_ok, require_eq_ok, guard_eq_ok] at hok
  obtain ⟨wr, hwr, -, hok⟩ := hok
  refine ⟨wr, hwr, ?_⟩
  split at hok
  · next hone =>
    rw [← pure_eq_ok.mp hok]
    exact ⟨Or.inl hone, Or.inl rfl⟩
  · simp only [bind_eq_ok, require_eq_ok, guard_eq_ok] at hok
    obtain ⟨first, hfirst, hother, hok⟩ := hok
    split at hok
    · next hblank =>
      rw [← pure_eq_ok.mp hok]
      refine ⟨Or.inr ⟨first, actor, ?_, ?_, hother⟩, Or.inr ⟨_, .second first actor hfirst hother hblank, rfl⟩⟩
      · simp [setApproval, hfirst]
      · simp [setApproval]
    · next hblank =>
      obtain ⟨second, hsecond⟩ := Option.ne_none_iff_exists'.mp hblank
      obtain ⟨first', hfirst', hne⟩ := h.distinct w second hsecond
      rw [← pure_eq_ok.mp hok]
      exact ⟨Or.inr ⟨first', second, hfirst', hsecond, hne⟩, Or.inl rfl⟩

lemma secondApproval_effect (h : Sound s) (click : ℕ) : Effect s (secondApproval s click) := by
  unfold secondApproval
  split
  · next admin w hclick =>
    obtain ⟨found, hfound⟩ := (h.clicks _ _ hclick).found
    have hstages : ∀ c, s.clicks.get click = some c → c = ⟨.approve, some admin, w, .selected⟩ := fun c hc =>
      Option.some.inj (hc.symm.trans hclick)
    split
    · next s₁ hok =>
      obtain ⟨wr, hwr, happroved, rfl | ⟨a, hrecord, rfl⟩⟩ := applySecondApproval_ok h hok
      · refine .quiet rfl rfl rfl (.refl _) (follows_setClick rfl rfl fun c hc => ?_)
        rw [hstages c hc]
        exact ⟨⟨wr, hwr⟩, fun _ => happroved, fun i _ hstage => nomatch hstage⟩
      · refine .recorded w wr a hwr hrecord rfl rfl rfl (.refl _) (follows_setClick rfl rfl fun c hc => ?_)
        rw [hstages c hc]
        exact ⟨⟨wr, hwr⟩, fun _ => happroved, fun i _ hstage => nomatch hstage⟩
    · refine .quiet rfl rfl rfl (.refl _) (follows_setClick rfl rfl fun c hc => ?_)
      rw [hstages c hc]
      exact tracked_idle ⟨found, hfound⟩ (by simp) (by simp)
  · exact effect_refl s

lemma preview_effect (h : Sound s) (click : ℕ) : Effect s (preview s click) := by
  unfold preview
  split
  · exact effect_refl s
  · next c hclick =>
    have htracked := h.clicks _ _ hclick
    split
    · next hstage =>
      have hdone : ∀ s' : Desk, s'.platform.withdrawals = s.platform.withdrawals → ∀ c', s.clicks.get click = some c' →
          Tracked s' { c' with stage := .done } := by
        intro s' hsame c' hc'
        rw [hclick, Option.some.injEq] at hc'
        subst hc'
        refine tracked_idle ?_ (by simp) (by simp)
        rw [hsame]
        exact htracked.found
      refine commit_rule (motive := fun s' : Desk => Effect s s') _ _ ?_ fun s' hok => ?_
      · exact .quiet rfl rfl rfl (.refl _) (follows_setClick rfl rfl (hdone _ rfl))
      · simp only [Payouts.Orchestrator.previewWithdrawal, map_eq_ok, bind_eq_ok, lockWithdrawal, require_eq_ok,
          guard_eq_ok, pure_eq_ok] at hok
        obtain ⟨platform, ⟨wr, hwr, -, rfl⟩, rfl⟩ := hok
        refine .quiet rfl rfl rfl (.refl _) ⟨clicks_update rfl (hdone _ rfl), fun x actor w basis hx => ?_⟩
        refine (Table.get_insert_some hx).imp_right fun hnew => ?_
        cases hnew.2
        exact ⟨htracked.found, htracked.authorized hstage⟩
    · exact effect_refl s

lemma claimSubmission_effect (h : Sound s) (x : ℕ) (estimate : Option ℚ) :
    Effect s { s with platform := Payouts.Orchestrator.claimSubmission s.platform x estimate } := by
  unfold Payouts.Orchestrator.claimSubmission
  split
  · next actor w basis hx =>
    have hfollows : ∀ s' : Desk, ∀ stage, (∀ v b, stage ≠ .previewed v b) → s'.clicks = s.clicks →
        s'.platform.submissions = s.platform.submissions.update x (fun y => { y with stage := stage }) →
        Follows s s' := fun s' stage hstage hclicks hsubmissions =>
      ⟨fun _ _ hc => Or.inl (hclicks ▸ hc), submissions_update hstage rfl hsubmissions⟩
    split
    · exact .quiet rfl rfl rfl (.refl _) (hfollows _ _ (by simp) rfl rfl)
    · split
      · next r hok =>
        obtain ⟨p, k⟩ := r
        obtain ⟨wr, wr', a, hwr, hclaim, rfl⟩ := Payouts.Effects.claimWithdrawal_ok hok
        exact .claimed w wr wr' a hwr (h.submissions x actor w basis hx) hclaim rfl rfl rfl (.refl _)
          (hfollows _ _ (by simp) rfl rfl)
      · exact .quiet rfl rfl rfl (.refl _) (hfollows _ _ (by simp) rfl rfl)
  · exact effect_refl s

lemma applied_effect {p : Platform} (happlied : Applied s.platform p)
    (hwithdrawals : s'.platform.withdrawals = p.withdrawals) (hattempts : s'.platform.attempts = p.attempts)
    (hledger : s'.platform.ledger = p.ledger) (happrovals : s'.approvals = s.approvals) (hfollows : Follows s s') :
    Effect s s' := by
  cases happlied with
  | same => exact .quiet hwithdrawals hattempts happrovals (hledger ▸ .refl _) hfollows
  | moved k a a' wr wr' revenue found request synced unpaid fees =>
    exact .settled k a a' wr wr' found request synced hwithdrawals hattempts happrovals (hledger ▸ .refl _) hfollows
  | refunded k a a' wr wr' l reason found request synced failed posted =>
    exact .settled k a a' wr wr' found request synced hwithdrawals hattempts happrovals
      (hledger ▸ silent_refunded posted) hfollows

lemma finishSubmission_effect (x : ℕ) (result : Payouts.Orchestrator.SubmissionResult) :
    Effect s { s with platform := Payouts.Orchestrator.finishSubmission s.platform x result } := by
  unfold Payouts.Orchestrator.finishSubmission
  split
  · split
    · next p hok =>
      have happlied := Payouts.Effects.applySubmission_applied hok
      exact applied_effect happlied rfl rfl rfl rfl
        ⟨fun _ _ => Or.inl, submissions_update (by simp) happlied.frame.2.1 rfl⟩
    · next e _ =>
      exact .quiet rfl rfl rfl (.refl _) ⟨fun _ _ => Or.inl, submissions_update (by simp) rfl rfl⟩
  · exact effect_refl s

lemma previewRefund_effect (click : ℕ) : Effect s (previewRefund s click) := by
  unfold previewRefund
  split
  · next admin w hclick =>
    split
    · exact effect_refl s
    · next wr hwr =>
      obtain ⟨v, hv, huser⟩ := getOrCreateWallet_get s.platform.ledger wr.user
      refine .quiet rfl rfl rfl (silent_openWallet _ _) (follows_setClick rfl rfl fun c hc => ?_)
      rw [hclick, Option.some.injEq] at hc
      subst hc
      refine ⟨⟨wr, hwr⟩, (fun hstage => nomatch hstage), fun i wr' hstage hwr' => ?_⟩
      cases hstage
      have hsame : wr = wr' := Option.some.inj (hwr.symm.trans hwr')
      exact ⟨⟨v, hv, hsame ▸ huser⟩⟩
  · exact effect_refl s

lemma rejectWithdrawal_ok {i admin : ℕ} (hok : rejectWithdrawal s w i admin = .ok s') :
    ∃ wr, s.platform.withdrawals.get w = some wr ∧ (wr.status ≠ .pending ∧ s' = s ∨ wr.status = .pending ∧
      ∃ r, creditWallet s.platform.ledger i wr.amountUsd.value .correction
        { note := some (rejectionNote w), initiatedBy := some admin } = .ok r ∧
      s' = { s with platform := { s.platform with
        withdrawals := s.platform.withdrawals.update w fun wr =>
          { wr with status := .rejected, reviewedBy := some admin }
        ledger := r.1 } }) := by
  simp only [rejectWithdrawal, bind_eq_ok, lockWithdrawal, require_eq_ok] at hok
  obtain ⟨wr, hwr, hok⟩ := hok
  refine ⟨wr, hwr, ?_⟩
  split at hok
  · next hpending => exact Or.inl ⟨hpending, (pure_eq_ok.mp hok).symm⟩
  · next hpending =>
    simp only [bind_eq_ok, mapError_eq_ok, pure_eq_ok] at hok
    obtain ⟨r, hr, rfl⟩ := hok
    exact Or.inr ⟨not_not.mp hpending, r, hr, rfl⟩

lemma reject_effect (h : Sound s) (click : ℕ) : Effect s (reject s click) := by
  unfold reject
  split
  · next admin w i hclick =>
    have htracked := h.clicks _ _ hclick
    obtain ⟨wr, hwr⟩ := htracked.found
    have hdone : ∀ s' : Desk, (∃ wr', s'.platform.withdrawals.get w = some wr') →
        ∀ c, s.clicks.get click = some c → Tracked s' { c with stage := .done } := by
      intro s' hfound c hc
      rw [hclick, Option.some.injEq] at hc
      subst hc
      exact tracked_idle hfound (by simp) (by simp)
    refine commit_rule (motive := fun s' : Desk => Effect s s') _ _ ?_ fun s' hok => ?_
    · exact .quiet rfl rfl rfl (.refl _) (follows_setClick rfl rfl (hdone _ ⟨wr, hwr⟩))
    · obtain ⟨wr', hwr', ⟨-, rfl⟩ | ⟨hpending, r, hr, rfl⟩⟩ := rejectWithdrawal_ok hok
      · exact .quiet rfl rfl rfl (.refl _) (follows_setClick rfl rfl (hdone _ ⟨wr, hwr⟩))
      · obtain ⟨v, hv, huser⟩ := (htracked.wallet i wr' rfl hwr').wallet
        have hposted := Payouts.Machine.posted_credit hv hr
        rw [huser] at hposted
        refine .rejected w wr' { wr' with status := .rejected, reviewedBy := some admin } hwr' hpending rfl rfl rfl
          (Table.update_const hwr' _) rfl rfl hposted (follows_setClick rfl rfl (hdone _ ⟨_, Table.get_update_self hwr' _⟩))
  · exact effect_refl s

lemma step_effect (h : Sound s) (a : Action) : Effect s (step s a) := by
  cases a with
  | finalize seen => exact finalize_effect seen
  | select kind admin w => exact select_effect kind admin w
  | firstApprove click => exact recordFirst_effect h click
  | secondApproval click => exact secondApproval_effect h click
  | preview click => exact preview_effect h click
  | claimSubmission x estimate => exact claimSubmission_effect h x estimate
  | finishSubmission x result => exact finishSubmission_effect x result
  | previewRefund click => exact previewRefund_effect click
  | reject click => exact reject_effect h click
  | setFee feeConfig => exact .quiet rfl rfl rfl (.refl _) (follows_same rfl rfl)
  | otherCredit i amount txType text =>
    rw [step]
    split
    · next hown =>
      refine commit_rule (motive := fun s' : Desk => Effect s s') _ _ (effect_refl s) fun s' hok => ?_
      obtain ⟨r, hr, rfl⟩ := map_eq_ok.mp hok
      refine .quiet rfl rfl rfl (silent_credit (fun w hnote => ?_) hr) (follows_same rfl rfl)
      exact ne_rejectionNote hown w (Option.some.inj hnote)
    · exact effect_refl s
  | otherDebit i amount txType text =>
    rw [step]
    split
    · next hown =>
      refine commit_rule (motive := fun s' : Desk => Effect s s') _ _ (effect_refl s) fun s' hok => ?_
      obtain ⟨r, hr, rfl⟩ := map_eq_ok.mp hok
      refine .quiet rfl rfl rfl (silent_debit (fun w hnote => ?_) hr) (follows_same rfl rfl)
      exact ne_rejectionNote hown w (Option.some.inj hnote)
    · exact effect_refl s

end Steps

end TrxSimulator.Withdrawals.Reviews
