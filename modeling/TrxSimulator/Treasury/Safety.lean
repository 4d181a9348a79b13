import TrxSimulator.Treasury.Machine

/-! Safety of the treasury: in every run the rows that carry a request's key are exactly the one its
status accounts for, and no one acts twice on a request. -/

namespace TrxSimulator.Treasury.Safety

open Foundations.Runs Foundations.Tables Wallets.Ledger Requests Recovery Machine

structure Moves (pk : ℕ) (r : TreasuryRequest) (row : WalletTransaction Note) : Prop where
  wallet : row.wallet = r.wallet
  txType : row.txType = (executionMapping r.operationType).2
  amount : row.amount.units = r.signedAmount
  note : row.note = some (r.note pk)

def Unkeyed (l : WalletLedger Note) (pk : ℕ) : Prop :=
  ∀ i row, l.transactions.get i = some row → keyed pk row = false

structure InOrder (l : WalletLedger Note) (pk : ℕ) (r : TreasuryRequest) : Prop where
  executed : r.status = .executed → ∃ i row, r.walletTransaction = some i ∧
    l.transactions.get i = some row ∧ Moves pk r row ∧
    ∀ j row', l.transactions.get j = some row' → keyed pk row' = true → j = i
  unlinked : r.status ≠ .executed → r.walletTransaction = none ∧ Unkeyed l pk
  approver : ∀ u, r.approvedBy = some u → r.requestedBy ≠ u
  executor : ∀ u, r.executedBy = some u → r.requestedBy ≠ u ∧ r.approvedBy ≠ some u
  reviewed : r.approvedBy = none ↔ r.status = .pending ∨ r.status = .rejected ∨ r.status = .cancelled
  claimed : r.executedBy = none ↔ r.status = .approved ∨ r.approvedBy = none

structure Consistent (s : Office) : Prop where
  requests : ∀ pk r, s.requests.get pk = some r → InOrder s.ledger pk r
  unused : ∀ pk, s.requests.next ≤ pk → Unkeyed s.ledger pk

section Invariant

variable {s s' : Office} {l l' : WalletLedger Note} {pk : ℕ} {r r' : TreasuryRequest}

lemma move_open (h : Move r r') : r.status.terminal = false := by
  cases h <;> simp_all [Status.terminal]

lemma InOrder.extend (h : InOrder l pk r)
    (kept : ∀ i row, l.transactions.get i = some row → l'.transactions.get i = some row)
    (rows : ∀ i row, l'.transactions.get i = some row →
      l.transactions.get i = some row ∨ keyed pk row = false) : InOrder l' pk r where
  executed hstatus := by
    obtain ⟨i, row, hlink, hrow, hmoves, honly⟩ := h.executed hstatus
    refine ⟨i, row, hlink, kept i row hrow, hmoves, fun j row' hj hkey => ?_⟩
    rcases rows j row' hj with hj | hj
    · exact honly j row' hj hkey
    · rw [hj] at hkey
      cases hkey
  unlinked hstatus := by
    obtain ⟨hlink, hunkeyed⟩ := h.unlinked hstatus
    refine ⟨hlink, fun i row hi => ?_⟩
    rcases rows i row hi with hi | hi
    · exact hunkeyed i row hi
    · exact hi
  approver := h.approver
  executor := h.executor
  reviewed := h.reviewed
  claimed := h.claimed

lemma Unkeyed.extend (h : Unkeyed l pk)
    (rows : ∀ i row, l'.transactions.get i = some row →
      l.transactions.get i = some row ∨ keyed pk row = false) : Unkeyed l' pk := by
  intro i row hi
  rcases rows i row hi with hi | hi
  · exact h i row hi
  · exact hi

lemma InOrder.move (h : InOrder l pk r) (hmove : Move r r') : InOrder l pk r' := by
  have hunlinked := h.unlinked fun hexecuted => by
    have := move_open hmove
    rw [hexecuted] at this
    cases this
  have hreviewed := h.reviewed
  have hclaimed := h.claimed
  cases hmove with
  | approved user status requester =>
    rw [status] at hreviewed hclaimed
    refine ⟨(nomatch ·), fun _ => hunlinked, ?_, ?_, by simp, ?_⟩
    · rintro u ⟨⟩
      exact requester
    · simp_all
    · simp_all
  | rejected user reason status =>
    refine ⟨(nomatch ·), fun _ => hunlinked, h.approver, h.executor, ?_, ?_⟩ <;> simp_all
  | cancelled status =>
    refine ⟨(nomatch ·), fun _ => hunlinked, h.approver, h.executor, ?_, ?_⟩ <;> simp_all
  | claimed user status requester approver =>
    refine ⟨(nomatch ·), fun _ => ⟨rfl, hunlinked.2⟩, h.approver, ?_, ?_, ?_⟩
    · rintro u ⟨⟩
      exact ⟨requester, approver⟩
    · simp_all
    · simp_all
  | failed reason status =>
    refine ⟨(nomatch ·), fun _ => hunlinked, h.approver, h.executor, ?_, ?_⟩ <;> simp_all

lemma keyed_note (r : TreasuryRequest) {row : WalletTransaction Note} (h : row.note = some (r.note pk))
    (k : ℕ) : keyed k row = decide (pk = k) := by
  rw [keyed, h]
  rfl

lemma InOrder.execute (h : InOrder l pk r) (hstatus : r.status = .executing)
    {amount balance : Money.Amount} {refs : References Note} (hsigned : amount.units = r.signedAmount)
    (hnote : refs.note = some (r.note pk)) :
    InOrder (l.post r.wallet (executionMapping r.operationType).2 amount balance refs) pk
      { r with status := .executed, walletTransaction := some l.transactions.next } where
  executed _ := by
    have hunkeyed := (h.unlinked (by rw [hstatus]; exact nofun)).2
    refine ⟨l.transactions.next, _, rfl, Table.get_insert_next _ _, ⟨rfl, rfl, hsigned, hnote⟩, ?_⟩
    intro j row hj hkey
    rcases Table.get_insert_some hj with hj | ⟨hj, -⟩
    · rw [hunkeyed j row hj] at hkey
      cases hkey
    · exact hj
  unlinked hne := (hne rfl).elim
  approver := h.approver
  executor := h.executor
  reviewed := by have := h.reviewed; simp_all
  claimed := by have := h.claimed; have := h.reviewed; simp_all

lemma post_rows {w : ℕ} {t : TxType} {amount balance : Money.Amount} {refs : References Note}
    (hnote : refs.note = some (r.note pk)) {k : ℕ} (hk : k ≠ pk) (i : ℕ) (row : WalletTransaction Note)
    (hi : (l.post w t amount balance refs).transactions.get i = some row) :
    l.transactions.get i = some row ∨ keyed k row = false := by
  rcases Table.get_insert_some hi with hi | ⟨-, rfl⟩
  · exact Or.inl hi
  · exact Or.inr (by rw [keyed_note r hnote, decide_eq_false hk.symm])

lemma consistent_effect (h : Consistent s) (heffect : Effect s s') : Consistent s' := by
  cases heffect with
  | quiet requests next kept rows =>
    refine ⟨fun k q hq => ?_, fun k hk => ?_⟩
    · rw [requests] at hq
      exact (h.requests k q hq).extend kept fun i row hi => (rows i row hi).imp_right (· k)
    · exact (h.unused k (next ▸ hk)).extend fun i row hi => (rows i row hi).imp_right (· k)
  | submitted r requests ledger status walletTransaction approvedBy executedBy =>
    refine ⟨fun k q hq => ?_, fun k hk => ?_⟩
    · rw [requests] at hq
      rw [ledger]
      rcases Table.get_insert_some hq with hq | ⟨rfl, rfl⟩
      · exact h.requests k q hq
      · refine ⟨?_, fun _ => ⟨walletTransaction, h.unused _ le_rfl⟩, ?_, ?_, ?_, ?_⟩ <;> simp_all
    · rw [requests, Table.next_insert] at hk
      rw [ledger]
      exact h.unused k (by omega)
  | moved pk r f found requests ledger move =>
    refine ⟨fun k q hq => ?_, fun k hk => ?_⟩
    · rw [requests] at hq
      rw [ledger]
      obtain ⟨q, hold, rfl⟩ := Table.get_update_some hq
      split
      · next hk =>
        rw [hk, found] at hold
        cases hold
        exact hk ▸ (h.requests pk r found).move move
      · exact h.requests k q hold
    · rw [requests, Table.next_update] at hk
      rw [ledger]
      exact h.unused k hk
  | executed pk r amount balance refs found status walletTransaction signed note ledger requests =>
    refine ⟨fun k q hq => ?_, fun k hk => ?_⟩
    · rw [requests] at hq
      rw [ledger]
      obtain ⟨q, hold, rfl⟩ := Table.get_update_some hq
      split
      · next hk =>
        rw [hk, found] at hold
        cases hold
        exact hk ▸ (h.requests pk r found).execute status signed note
      · next hk =>
        exact (h.requests k q hold).extend (fun i row hi => post_transactions_of_get _ _ _ _ _ _ hi)
          (post_rows note hk)
    · rw [requests, Table.next_update] at hk
      rw [ledger]
      have hne : k ≠ pk := by
        have := Table.lt_of_get found
        omega
      exact (h.unused k hk).extend (post_rows note hne)

lemma consistent_step (s : Office) (a : Action) (h : Consistent s) : Consistent (step s a) :=
  consistent_effect h (step_effect s a)

structure Carried (r r' : TreasuryRequest) : Prop where
  operationType : r'.operationType = r.operationType
  wallet : r'.wallet = r.wallet
  amount : r'.amount = r.amount
  terminal : r.status.terminal = true → r' = r

lemma Carried.refl (r : TreasuryRequest) : Carried r r := ⟨rfl, rfl, rfl, fun _ => rfl⟩

lemma Carried.trans {r'' : TreasuryRequest} (h : Carried r r') (h' : Carried r' r'') : Carried r r'' where
  operationType := h'.operationType.trans h.operationType
  wallet := h'.wallet.trans h.wallet
  amount := h'.amount.trans h.amount
  terminal ht := by
    have hr := h.terminal ht
    rw [hr] at h'
    exact h'.terminal ht

lemma move_carried (h : Move r r') : Carried r r' := by
  have hopen := move_open h
  have hterminal : r.status.terminal = true → r' = r := fun ht => by rw [hopen] at ht; cases ht
  cases h <;> exact ⟨rfl, rfl, rfl, hterminal⟩

lemma effect_carries (heffect : Effect s s') (hr : s.requests.get pk = some r) :
    ∃ r', s'.requests.get pk = some r' ∧ Carried r r' := by
  cases heffect with
  | quiet requests next kept rows => exact ⟨r, by rw [requests, hr], Carried.refl r⟩
  | submitted q requests ledger status walletTransaction approvedBy executedBy =>
    exact ⟨r, by rw [requests, Table.get_insert_of_get hr], Carried.refl r⟩
  | moved k q f found requests ledger move =>
    by_cases hk : pk = k
    · subst hk
      rw [found] at hr
      cases hr
      exact ⟨f r, by rw [requests, Table.get_update_self found], move_carried move⟩
    · exact ⟨r, by rw [requests, Table.get_update_ne _ hk, hr], Carried.refl r⟩
  | executed k q amount balance refs found status walletTransaction signed note ledger requests =>
    by_cases hk : pk = k
    · subst hk
      rw [found] at hr
      cases hr
      refine ⟨{ r with status := .executed, walletTransaction := some s.ledger.transactions.next },
        by rw [requests, Table.get_update_self found], rfl, rfl, rfl, fun ht => ?_⟩
      rw [status] at ht
      cases ht
    · exact ⟨r, by rw [requests, Table.get_update_ne _ hk, hr], Carried.refl r⟩

lemma run_carries (acts : List Action) (hr : s.requests.get pk = some r) :
    ∃ r', (run step s acts).requests.get pk = some r' ∧ Carried r r' := by
  induction acts generalizing s r with
  | nil => exact ⟨r, hr, Carried.refl r⟩
  | cons a acts ih =>
    obtain ⟨q, hq, hcarried⟩ := effect_carries (step_effect s a) hr
    obtain ⟨r', hr', hcarried'⟩ := ih hq
    exact ⟨r', hr', hcarried.trans hcarried'⟩

/-- The money step of an execution touches the ledger only while its request is executing. -/
lemma stepB_ledger {execution : ℕ} {x : Execution} (hx : s.executions.get execution = some x)
    (hr : s.requests.get x.request = some r) (hstatus : r.status ≠ .executing) :
    (stepB s execution).ledger = s.ledger := by
  have hmove (user : ℕ) : moveMoney s user x.request = .error (.unexpectedStatus x.request r.status) := by
    simp only [moveMoney, lockRequest, hr, Foundations.Outcomes.require, bind, Except.bind, if_pos hstatus]
  unfold stepB
  rw [hx]
  obtain ⟨request, user, stage⟩ := x
  cases stage with
  | announced => simp only [hmove]; rfl
  | _ => rfl

end Invariant

section Runs

structure Opening (s : Office) : Prop where
  requests : s.requests.next = 0
  rows : ∀ pk, Unkeyed s.ledger pk

lemma Opening.consistent {s : Office} (h : Opening s) : Consistent s where
  requests pk r hr := by
    have := Table.lt_of_get hr
    rw [h.requests] at this
    omega
  unused pk _ := h.rows pk

structure Settled (s : Office) (pk : ℕ) (r : TreasuryRequest) : Prop where
  once : ∀ i j row row', s.ledger.transactions.get i = some row →
    s.ledger.transactions.get j = some row' → keyed pk row = true → keyed pk row' = true → i = j
  executed : r.status = .executed ↔ ∃ i row, r.walletTransaction = some i ∧
    s.ledger.transactions.get i = some row ∧ row.wallet = r.wallet ∧ row.amount.units = r.signedAmount
  unmoved : r.status = .failed ∨ r.status = .rejected ∨ r.status = .cancelled →
    r.walletTransaction = none ∧ Unkeyed s.ledger pk
  approver : ∀ u, r.approvedBy = some u → u ≠ r.requestedBy
  executor : ∀ u, r.executedBy = some u → u ≠ r.requestedBy ∧ r.approvedBy ≠ some u
  reviewed : r.status = .approved ∨ r.status = .executing ∨ r.status = .executed ∨ r.status = .failed →
    ∃ u, r.approvedBy = some u
  claimed : r.status = .executing ∨ r.status = .executed ∨ r.status = .failed → ∃ u, r.executedBy = some u

variable {s : Office} {pk : ℕ} {r : TreasuryRequest}

lemma InOrder.linked_iff {l : WalletLedger Note} (h : InOrder l pk r) :
    r.status = .executed ↔ ∃ i row, r.walletTransaction = some i ∧ l.transactions.get i = some row ∧
      row.wallet = r.wallet ∧ row.amount.units = r.signedAmount := by
  constructor
  · intro hexecuted
    obtain ⟨i, row, hlink, hrow, hmoves, -⟩ := h.executed hexecuted
    exact ⟨i, row, hlink, hrow, hmoves.wallet, hmoves.amount⟩
  · rintro ⟨i, row, hlink, -⟩
    by_contra hne
    rw [(h.unlinked hne).1] at hlink
    cases hlink

lemma InOrder.once {l : WalletLedger Note} (h : InOrder l pk r) {i j : ℕ}
    {row row' : WalletTransaction Note} (hi : l.transactions.get i = some row)
    (hj : l.transactions.get j = some row') (hkey : keyed pk row = true) (hkey' : keyed pk row' = true) :
    i = j := by
  by_cases hexecuted : r.status = .executed
  · obtain ⟨k, -, -, -, -, honly⟩ := h.executed hexecuted
    rw [honly i row hi hkey, honly j row' hj hkey']
  · rw [(h.unlinked hexecuted).2 i row hi] at hkey
    cases hkey

lemma Consistent.settled (h : Consistent s) (hr : s.requests.get pk = some r) : Settled s pk r := by
  have horder := h.requests pk r hr
  have hreviewed := horder.reviewed
  have hclaimed := horder.claimed
  refine ⟨fun i j row row' => horder.once, horder.linked_iff, fun hstatus => ?_,
    fun u hu => (horder.approver u hu).symm,
    fun u hu => ⟨(horder.executor u hu).1.symm, (horder.executor u hu).2⟩, fun hstatus => ?_,
    fun hstatus => ?_⟩
  · refine horder.unlinked ?_
    rcases hstatus with hs | hs | hs <;> rw [hs] <;> exact nofun
  · rw [← Option.ne_none_iff_exists', Ne, hreviewed]
    rcases hstatus with hs | hs | hs | hs <;> simp [hs]
  · rw [← Option.ne_none_iff_exists', Ne, hclaimed, hreviewed]
    rcases hstatus with hs | hs | hs <;> simp [hs]

/-- In every state of every run each request is settled, a terminal request stays as it is however
the run goes on, and the delayed money step of a failed one leaves the ledger alone. -/
theorem treasury_run_settled (s : Office) (h : Opening s) (acts : List Action) (pk : ℕ)
    (r : TreasuryRequest) (hr : (run step s acts).requests.get pk = some r) :
    Settled (run step s acts) pk r ∧
      (r.status.terminal = true → ∀ more, (run step s (acts ++ more)).requests.get pk = some r) ∧
      (r.status = .failed → ∀ more execution x,
        (run step s (acts ++ more)).executions.get execution = some x → x.request = pk →
        (step (run step s (acts ++ more)) (.move execution)).ledger =
          (run step s (acts ++ more)).ledger) := by
  have hconsistent : Consistent (run step s acts) := run_invariant consistent_step h.consistent acts
  have hstays (hterminal : r.status.terminal = true) (more : List Action) :
      (run step s (acts ++ more)).requests.get pk = some r := by
    obtain ⟨r', hr', hcarried⟩ := run_carries more hr
    rw [run_append, hr', hcarried.terminal hterminal]
  refine ⟨hconsistent.settled hr, hstays, fun hfailed more execution x hx hpk => ?_⟩
  have hrow := hstays (by rw [hfailed]; rfl) more
  exact stepB_ledger hx (hpk ▸ hrow) (by rw [hfailed]; exact nofun)

def staff : Table User :=
  Table.ofList [⟨true, [.submit]⟩, ⟨true, [.review]⟩, ⟨true, [.execute]⟩, ⟨true, [.recover]⟩]

def openOffice : Office where
  users := staff
  ledger := { wallets := Table.ofList [newWallet 9], transactions := Table.empty }
  requests := Table.empty
  auditLog := Table.empty
  brokerLog := Table.empty
  executions := Table.empty
  recoveries := Table.empty
  now := 0

def refundForm : Form where
  wallet := 0
  operationType := .refund
  amount := ⟨2500, by decide⟩
  reason := "duplicate charge"
  reference := "T-17"
  category := none
  comment := ""

def stalledRefund : List Action :=
  [.submit 0 refundForm, .approve 1 0, .claim 2 0, .announce 0 true true, .wait 600,
    .startRecovery 3 0 "worker died", .finishRecovery 0 false]

lemma openOffice_opening : Opening openOffice where
  requests := rfl
  rows pk i row h := by cases h

theorem treasury_run_settled_example :
    ∃ r, (run step openOffice stalledRefund).requests.get 0 = some r ∧ r.status = .failed ∧
      Settled (run step openOffice stalledRefund) 0 r ∧
      (step (run step openOffice stalledRefund) (.move 0)).ledger =
        (run step openOffice stalledRefund).ledger := by
  obtain ⟨r, hr, hstatus⟩ : ∃ r, (run step openOffice stalledRefund).requests.get 0 = some r ∧
      r.status = .failed := by decide +kernel
  obtain ⟨x, hx, hpk⟩ : ∃ x, (run step openOffice (stalledRefund ++ [])).executions.get 0 = some x ∧
      x.request = 0 := by decide +kernel
  obtain ⟨hsettled, -, hdelayed⟩ := treasury_run_settled openOffice openOffice_opening stalledRefund 0 r hr
  exact ⟨r, hr, hstatus, hsettled, hdelayed hstatus [] 0 x hx hpk⟩

end Runs

end TrxSimulator.Treasury.Safety
