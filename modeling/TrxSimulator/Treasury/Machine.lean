import TrxSimulator.Foundations.Runs
import TrxSimulator.Treasury.Recovery

/-! The treasury as a machine: every service, every transaction of an execution or a recovery on its
own, and what the rest of the platform does to users, wallets and the clock. -/

namespace TrxSimulator.Treasury.Machine

open Foundations.Runs Foundations.Tables Foundations.Outcomes Wallets.Ledger Requests Recovery

inductive Action
  | submit (user : ℕ) (form : Form)
  | approve (user request : ℕ)
  | reject (user request : ℕ) (reason : String)
  | cancel (user request : ℕ)
  | claim (user request : ℕ)
  | announce (execution : ℕ) (audited brokered : Bool)
  | move (execution : ℕ)
  | abort (execution : ℕ)
  | report (execution : ℕ) (audited brokered : Bool)
  | startRecovery (user request : ℕ) (reason : String)
  | finishRecovery (recovery : ℕ) (lockBusy : Bool)
  | addUser (user : User)
  | setUser (user : ℕ) (value : User)
  | openWallet (user : ℕ)
  | credit (wallet : ℕ) (amount : ℚ) (txType : TxType) (text : String)
  | debit (wallet : ℕ) (amount : ℚ) (txType : TxType) (text : String)
  | wait (seconds : ℕ)

def step (s : Office) : Action → Office
  | .submit user form => commit s ((submitTreasuryRequest s user form).map Prod.fst)
  | .approve user request => commit s (approveTreasuryRequest s user request)
  | .reject user request reason => commit s (rejectTreasuryRequest s user request reason)
  | .cancel user request => commit s (cancelTreasuryRequest s user request)
  | .claim user request => commit s (claimExecution s user request)
  | .announce execution audited brokered => announceExecution s execution audited brokered
  | .move execution => stepB s execution
  | .abort execution => abortExecution s execution
  | .report execution audited brokered => reportExecution s execution audited brokered
  | .startRecovery user request reason => commit s (startRecovery s user request reason)
  | .finishRecovery recovery lockBusy => finishRecovery s recovery lockBusy
  | .addUser user => { s with users := s.users.insert user }
  | .setUser user value => { s with users := s.users.update user fun _ => value }
  | .openWallet user => { s with ledger := (getOrCreateWallet s.ledger user).1 }
  | .credit wallet amount txType text =>
    commit s ((creditWallet s.ledger wallet amount txType { note := some (.other text) }).map
      fun r => { s with ledger := r.1 })
  | .debit wallet amount txType text =>
    commit s ((debitWallet s.ledger wallet amount txType { note := some (.other text) }).map
      fun r => { s with ledger := r.1 })
  | .wait seconds => { s with now := s.now + seconds }

def keyed (request : ℕ) (row : WalletTransaction Note) : Bool :=
  match row.note with
  | some (.treasuryRequest pk _ _) => pk = request
  | _ => false

inductive Move : TreasuryRequest → TreasuryRequest → Prop
  | approved (r : TreasuryRequest) (user : ℕ) (status : r.status = .pending)
      (requester : r.requestedBy ≠ user) :
      Move r { r with status := .approved, approvedBy := some user }
  | rejected (r : TreasuryRequest) (user : ℕ) (reason : String) (status : r.status = .pending) :
      Move r { r with status := .rejected, rejectedBy := some user, rejectionReason := reason }
  | cancelled (r : TreasuryRequest) (status : r.status = .pending) :
      Move r { r with status := .cancelled }
  | claimed (r : TreasuryRequest) (user : ℕ) (status : r.status = .approved)
      (requester : r.requestedBy ≠ user) (approver : r.approvedBy ≠ some user) :
      Move r { r with status := .executing, executedBy := some user, walletTransaction := none }
  | failed (r : TreasuryRequest) (reason : FailureReason) (status : r.status = .executing) :
      Move r { r with status := .failed, failureReason := some reason }

inductive Effect (s s' : Office) : Prop
  | quiet (requests : s'.requests.get = s.requests.get) (next : s'.requests.next = s.requests.next)
      (kept : ∀ i row, s.ledger.transactions.get i = some row → s'.ledger.transactions.get i = some row)
      (rows : ∀ i row, s'.ledger.transactions.get i = some row →
        s.ledger.transactions.get i = some row ∨ ∀ pk, keyed pk row = false)
  | submitted (r : TreasuryRequest) (requests : s'.requests = s.requests.insert r)
      (ledger : s'.ledger = s.ledger) (status : r.status = .pending)
      (walletTransaction : r.walletTransaction = none) (approvedBy : r.approvedBy = none)
      (executedBy : r.executedBy = none)
  | moved (pk : ℕ) (r : TreasuryRequest) (f : TreasuryRequest → TreasuryRequest)
      (found : s.requests.get pk = some r) (requests : s'.requests = s.requests.update pk f)
      (ledger : s'.ledger = s.ledger) (move : Move r (f r))
  | executed (pk : ℕ) (r : TreasuryRequest) (amount balance : Money.Amount) (refs : References Note)
      (found : s.requests.get pk = some r) (status : r.status = .executing)
      (walletTransaction : r.walletTransaction = none) (signed : amount.units = r.signedAmount)
      (note : refs.note = some (r.note pk))
      (ledger : s'.ledger = s.ledger.post r.wallet (executionMapping r.operationType).2 amount balance refs)
      (requests : s'.requests = s.requests.update pk fun r =>
        { r with status := .executed, walletTransaction := some s.ledger.transactions.next })

section Effects

variable {s s' : Office}

lemma effect_of_eq (hrequests : s'.requests = s.requests)
    (hrows : s'.ledger.transactions = s.ledger.transactions) : Effect s s' :=
  .quiet (by rw [hrequests]) (by rw [hrequests]) (fun i row h => by rwa [hrows])
    fun i row h => Or.inl (by rwa [hrows] at h)

lemma effect_refl (s : Office) : Effect s s := effect_of_eq rfl rfl

lemma Effect.congr {s'' : Office} (h : Effect s s') (hrequests : s''.requests = s'.requests)
    (hledger : s''.ledger = s'.ledger) : Effect s s'' := by
  cases h with
  | quiet requests next kept rows =>
    rw [← hrequests] at requests next
    rw [← hledger] at kept rows
    exact .quiet requests next kept rows
  | submitted r requests ledger status walletTransaction approvedBy executedBy =>
    exact .submitted r (hrequests.trans requests) (hledger.trans ledger) status walletTransaction
      approvedBy executedBy
  | moved pk r f found requests ledger move =>
    exact .moved pk r f found (hrequests.trans requests) (hledger.trans ledger) move
  | executed pk r amount balance refs found status walletTransaction signed note ledger requests =>
    exact .executed pk r amount balance refs found status walletTransaction signed note
      (hledger.trans ledger) (hrequests.trans requests)

lemma effect_commit {ε : Type} {x : Except ε Office} (h : ∀ s', x = .ok s' → Effect s s') :
    Effect s (commit s x) := by
  refine commit_rule _ _ ?_ fun s' hok => ?_
  · exact effect_refl s
  · exact h s' hok

lemma submitTreasuryRequest_effect {user : ℕ} {form : Form} {r : Office × ℕ}
    (h : submitTreasuryRequest s user form = .ok r) : Effect s r.1 := by
  simp only [submitTreasuryRequest, bind_eq_ok] at h
  obtain ⟨-, -, h⟩ := h
  split at h
  · simp only [bind_eq_ok, pure_eq_ok] at h
    obtain ⟨wallet, -, rfl⟩ := h
    exact .submitted _ rfl rfl rfl rfl rfl rfl
  · cases h

lemma approveTreasuryRequest_effect {user request : ℕ}
    (h : approveTreasuryRequest s user request = .ok s') : Effect s s' := by
  simp only [approveTreasuryRequest, bind_eq_ok, lockRequest, require_eq_ok, guard_eq_ok, pure_eq_ok,
    ne_eq, not_not] at h
  obtain ⟨-, -, r, hr, hstatus, hrequester, rfl⟩ := h
  exact .moved request r _ hr rfl rfl (.approved r user hstatus hrequester)

lemma rejectTreasuryRequest_effect {user request : ℕ} {reason : String}
    (h : rejectTreasuryRequest s user request reason = .ok s') : Effect s s' := by
  simp only [rejectTreasuryRequest, bind_eq_ok, lockRequest, require_eq_ok, guard_eq_ok, pure_eq_ok,
    ne_eq, not_not] at h
  obtain ⟨-, -, -, r, hr, hstatus, -, rfl⟩ := h
  exact .moved request r _ hr rfl rfl (.rejected r user reason hstatus)

lemma cancelTreasuryRequest_effect {user request : ℕ}
    (h : cancelTreasuryRequest s user request = .ok s') : Effect s s' := by
  simp only [cancelTreasuryRequest, bind_eq_ok, lockRequest, require_eq_ok, guard_eq_ok, pure_eq_ok,
    ne_eq, not_not] at h
  obtain ⟨-, -, r, hr, hstatus, -, -, rfl⟩ := h
  exact .moved request r _ hr rfl rfl (.cancelled r hstatus)

lemma claimExecution_effect {user request : ℕ} (h : claimExecution s user request = .ok s') :
    Effect s s' := by
  simp only [claimExecution, bind_eq_ok, lockRequest, require_eq_ok, guard_eq_ok, pure_eq_ok,
    ne_eq, not_not, not_or] at h
  obtain ⟨-, -, r, hr, hstatus, ⟨hrequester, happrover⟩, rfl⟩ := h
  exact .moved request r _ hr rfl rfl (.claimed r user hstatus hrequester happrover)

lemma announceExecution_effect (s : Office) (execution : ℕ) (audited brokered : Bool) :
    Effect s (announceExecution s execution audited brokered) := by
  unfold announceExecution
  split
  · exact effect_of_eq rfl rfl
  · exact effect_refl s

lemma reportExecution_effect (s : Office) (execution : ℕ) (audited brokered : Bool) :
    Effect s (reportExecution s execution audited brokered) := by
  unfold reportExecution
  split
  · exact effect_of_eq rfl rfl
  · exact effect_of_eq rfl rfl
  · exact effect_refl s

lemma walletOperation_eq_ok {r : TreasuryRequest} {l : WalletLedger Note} {refs : References Note}
    {moved : WalletLedger Note × ℕ} (h : walletOperation r l refs = .ok moved) :
    ∃ amount balance refs', amount.units = r.signedAmount ∧ refs'.note = refs.note ∧
      moved = (l.post r.wallet (executionMapping r.operationType).2 amount balance refs',
        l.transactions.next) := by
  unfold walletOperation at h
  rcases hm : executionMapping r.operationType with ⟨direction, txType⟩
  rw [hm] at h
  cases direction with
  | credit =>
    obtain ⟨-, balance, amount, -, -, hamount, -, rfl⟩ := creditWallet_cents.mp h
    exact ⟨amount, balance, refs, by rw [hamount, TreasuryRequest.signedAmount, hm], rfl, rfl⟩
  | debit =>
    obtain ⟨-, balance, amount, -, -, -, hamount, -, rfl⟩ := debitWallet_cents.mp h
    exact ⟨amount, balance, { refs with deposit := none },
      by rw [hamount, TreasuryRequest.signedAmount, hm], rfl, rfl⟩

lemma moveMoney_effect {user request : ℕ} (h : moveMoney s user request = .ok s') : Effect s s' := by
  simp only [moveMoney, bind_eq_ok, lockRequest, require_eq_ok, guard_eq_ok, ne_eq, not_not] at h
  obtain ⟨r, hr, hstatus, -, h⟩ := h
  cases hlinked : r.walletTransaction with
  | some t => rw [hlinked] at h; cases h
  | none =>
    rw [hlinked] at h
    simp only [bind_eq_ok, mapError_eq_ok, pure_eq_ok] at h
    obtain ⟨moved, hmoved, rfl⟩ := h
    obtain ⟨amount, balance, refs, hsigned, hnote, rfl⟩ := walletOperation_eq_ok hmoved
    exact .executed request r amount balance refs hr hstatus hlinked hsigned hnote rfl rfl

lemma stepB_effect (s : Office) (execution : ℕ) : Effect s (stepB s execution) := by
  unfold stepB
  split
  · next request user _ =>
    cases hmove : moveMoney s user request with
    | ok s' => exact (moveMoney_effect hmove).congr rfl rfl
    | error e => exact effect_of_eq rfl rfl
  · exact effect_refl s

lemma markFailed_effect (s : Office) (request : ℕ) (executor : Option ℕ) (reason : FailureReason)
    (hrequests : s'.requests = s.requests.update request (markFailed executor reason))
    (hledger : s'.ledger = s.ledger) : Effect s s' := by
  have hquiet (hget : s'.requests.get = s.requests.get) : Effect s s' :=
    .quiet hget (by rw [hrequests, Table.next_update]) (fun i row h => by rwa [hledger])
      fun i row h => Or.inl (by rwa [hledger] at h)
  cases hr : s.requests.get request with
  | none => exact hquiet (by rw [hrequests, Table.update_of_get_none hr])
  | some r =>
    by_cases howns : ownsClaim r executor = true
    · have hmark : markFailed executor reason r = { r with status := .failed, failureReason := some reason } := by
        rw [markFailed, if_pos howns]
      simp only [ownsClaim, decide_eq_true_eq] at howns
      exact .moved request r _ hr hrequests hledger (hmark ▸ .failed r reason howns.1)
    · refine hquiet ?_
      funext i
      rw [hrequests, Table.get_update]
      split
      · next hi => rw [hi, hr, Option.map_some, markFailed, if_neg howns]
      · rfl

lemma abortExecution_effect (s : Office) (execution : ℕ) : Effect s (abortExecution s execution) := by
  unfold abortExecution
  split
  · next request user e _ => exact markFailed_effect s request (some user) (.execution e) rfl rfl
  · exact effect_refl s

lemma finishRecovery_effect (s : Office) (recovery : ℕ) (busy : Bool) :
    Effect s (finishRecovery s recovery busy) := by
  unfold finishRecovery
  cases hx : s.recoveries.get recovery with
  | none => exact effect_refl s
  | some x =>
    simp only
    split
    · exact effect_refl s
    · refine commit_rule _ _ ?_ fun s' hok => ?_
      · exact effect_of_eq rfl rfl
      · obtain ⟨r, -, -, -, rfl⟩ := markTreasuryExecutionFailed_eq_ok hok
        exact markFailed_effect s x.request x.capturedExecutor (.manualRecovery x.reason) rfl rfl

lemma effect_post {w : ℕ} {t : TxType} {amount balance : Money.Amount} {refs : References Note}
    {text : String} (hnote : refs.note = some (.other text)) :
    Effect s { s with ledger := s.ledger.post w t amount balance refs } := by
  refine .quiet rfl rfl (fun i row h => post_transactions_of_get _ _ _ _ _ _ h) fun i row h => ?_
  rcases Table.get_insert_some h with h | ⟨-, rfl⟩
  · exact Or.inl h
  · exact Or.inr fun pk => by rw [keyed, hnote]

theorem step_effect (s : Office) (a : Action) : Effect s (step s a) := by
  cases a with
  | submit user form =>
    refine effect_commit fun s' h => ?_
    cases hr : submitTreasuryRequest s user form with
    | error e => rw [hr] at h; cases h
    | ok r =>
      rw [hr] at h
      cases h
      exact submitTreasuryRequest_effect hr
  | approve user request => exact effect_commit fun s' => approveTreasuryRequest_effect
  | reject user request reason => exact effect_commit fun s' => rejectTreasuryRequest_effect
  | cancel user request => exact effect_commit fun s' => cancelTreasuryRequest_effect
  | claim user request => exact effect_commit fun s' => claimExecution_effect
  | announce execution audited brokered => exact announceExecution_effect s execution audited brokered
  | move execution => exact stepB_effect s execution
  | abort execution => exact abortExecution_effect s execution
  | report execution audited brokered => exact reportExecution_effect s execution audited brokered
  | startRecovery user request reason =>
    refine effect_commit fun s' h => ?_
    obtain ⟨r, -, -, -, -, rfl⟩ := startRecovery_eq_ok h
    exact effect_of_eq rfl rfl
  | finishRecovery recovery busy => exact finishRecovery_effect s recovery busy
  | addUser user => exact effect_of_eq rfl rfl
  | setUser user value => exact effect_of_eq rfl rfl
  | openWallet user =>
    rcases getOrCreateWallet_cases s.ledger user with ⟨_, _, -, -, h⟩ | ⟨-, h⟩
    · exact effect_of_eq rfl (by rw [step, h])
    · exact effect_of_eq rfl (by rw [step, h])
  | credit wallet amount txType text =>
    refine effect_commit fun s' h => ?_
    cases hr : creditWallet s.ledger wallet amount txType { note := some (.other text) } with
    | error e => rw [hr] at h; cases h
    | ok r =>
      rw [hr] at h
      cases h
      obtain ⟨-, balance, row, -, -, -, -, rfl⟩ := creditWallet_eq_ok.mp hr
      exact effect_post rfl
  | debit wallet amount txType text =>
    refine effect_commit fun s' h => ?_
    cases hr : debitWallet s.ledger wallet amount txType { note := some (.other text) } with
    | error e => rw [hr] at h; cases h
    | ok r =>
      rw [hr] at h
      cases h
      obtain ⟨-, balance, row, -, -, -, -, -, rfl⟩ := debitWallet_eq_ok.mp hr
      exact effect_post rfl
  | wait seconds => exact effect_of_eq rfl rfl

end Effects

end TrxSimulator.Treasury.Machine
