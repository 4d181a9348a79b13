import TrxSimulator.Foundations.Runs
import TrxSimulator.Payouts.Orchestrator

/-! The payout engine as a machine: every transaction of a submission, of an event's processing, of a
reconciliation and of a funded payout is a step of its own, and so are the movements of accounts and
wallets around them. `Effect` says what any step can do to the rows that carry money. -/

namespace TrxSimulator.Payouts.Machine

open Foundations.Tables Foundations.Outcomes Foundations.Decimals Money Accounts Wallets.Ledger
open Records StateMachine Orchestrator Funded.Payouts

inductive Action
  | previewWithdrawal (withdrawal : ℕ) (actor : Option ℕ)
  | claimSubmission (submission : ℕ) (estimate : Option ℚ)
  | finishSubmission (submission : ℕ) (result : SubmissionResult)
  | receiveEvent (reference batchId rawStatus : String) (payload : Payload)
  | resolveEvent (event : ℕ)
  | processWebhookEvent (handler : ℕ)
  | scanAttempt (attempt : ℕ) (scan : Scan)
  | finishReconciliation (reconciliation : ℕ) (answer : LookupAnswer)
  | approveSimPayout (request adminUser : ℕ)
  | approveInternalPayout (request adminUser : ℕ)
  | submitInternal (internal : ℕ) (answer : InternalAnswer)
  | recordWithdrawal (internal : ℕ)
  | recordRequest (internal : ℕ)
  | readFundedPayout (user enrollment : ℕ) (visit : Visit)
  | createFundedPayout (draft : ℕ)
  | trade (account : ℕ) (profit : ℤ)
  | credit (wallet : ℕ) (cents : ℤ) (txType : TxType) (text : String)
  | debit (wallet : ℕ) (cents : ℤ) (txType : TxType) (text : String)
  | openWallet (user : ℕ)
  | wait (seconds : ℕ)

def realizePnl (s : Platform) (account : ℕ) (profit : ℤ) : Except PayoutError Platform := do
  let a ← lockAccount s account
  let balance ← cents "balance" (a.balance.units + profit)
  let amount ← cents "amount" profit
  pure { s with
    accounts := s.accounts.update account (setBalance balance)
    entries := s.entries.insert
      { account := account, eventType := .realizedPnl, amount := amount.widen balance_digits,
        balanceAfter := balance.widen balance_digits, info := none } }

def insertDraft (s : Platform) (draft : Draft) : Platform :=
  { s with drafts := s.drafts.insert (some draft) }

def insertFundedPayout (s : Platform) (draft : ℕ) : Platform :=
  match (s.drafts.get draft).join with
  | none => s
  | some d =>
    let s := { s with drafts := s.drafts.update draft fun _ => none }
    commit s (createFundedPayout s d)

def setLedger (s : Platform) (ledger : WalletLedger PayoutNote) : Platform := { s with ledger := ledger }

def step (s : Platform) : Action → Platform
  | .previewWithdrawal withdrawal actor => commit s (previewWithdrawal s withdrawal actor)
  | .claimSubmission submission estimate => claimSubmission s submission estimate
  | .finishSubmission submission result => finishSubmission s submission result
  | .receiveEvent reference batchId rawStatus payload => receiveEvent s reference batchId rawStatus payload
  | .resolveEvent event => resolveEvent s event
  | .processWebhookEvent handler => processWebhookEvent s handler
  | .scanAttempt attempt scan => scanAttempt s attempt scan
  | .finishReconciliation reconciliation answer => finishReconciliation s reconciliation answer
  | .approveSimPayout request adminUser => commit s (approveSimPayout s request adminUser)
  | .approveInternalPayout request adminUser => commit s (approveInternalPayout s request adminUser)
  | .submitInternal internal answer => submitInternal s internal answer
  | .recordWithdrawal internal => recordWithdrawal s internal
  | .recordRequest internal => recordRequest s internal
  | .readFundedPayout user enrollment visit =>
    commit s ((readFundedPayout s user enrollment visit).map (insertDraft s))
  | .createFundedPayout draft => insertFundedPayout s draft
  | .trade account profit => commit s (realizePnl s account profit)
  | .credit wallet n txType text =>
    commit s ((creditWallet s.ledger wallet (scaled 2 n) txType { note := some (.other text) }).map
      fun r => setLedger s r.1)
  | .debit wallet n txType text =>
    commit s ((debitWallet s.ledger wallet (scaled 2 n) txType { note := some (.other text) }).map
      fun r => setLedger s r.1)
  | .openWallet user => setLedger s (getOrCreateWallet s.ledger user).1
  | .wait seconds => { s with now := s.now + seconds }

section Ledgers

/-- Every wallet keeps its user and the difference between its balance and its rows, and no row goes. -/
structure Carried (l l' : WalletLedger PayoutNote) : Prop where
  wallets : ∀ i v, l.wallets.get i = some v → ∃ v', l'.wallets.get i = some v' ∧ v'.user = v.user ∧
    v'.availableBalance.units - l'.ledgerSum i = v.availableBalance.units - l.ledgerSum i
  rows : ∀ i row, l.transactions.get i = some row → l'.transactions.get i = some row

structure Posted (l l' : WalletLedger PayoutNote) (txType : TxType) (n : ℤ) (user : ℕ)
    (note : Option PayoutNote) : Prop where
  carried : Carried l l'
  row : ∃ row, l'.transactions = l.transactions.insert row ∧ row.txType = txType ∧ row.amount.units = n ∧
    row.note = note ∧ ∃ v, l'.wallets.get row.wallet = some v ∧ v.user = user

variable {l l' l'' : WalletLedger PayoutNote} {w u : ℕ} {n : ℤ} {t : TxType} {refs : References PayoutNote}
  {r : WalletLedger PayoutNote × ℕ}

lemma Carried.refl (l : WalletLedger PayoutNote) : Carried l l :=
  ⟨fun _ v h => ⟨v, h, rfl, rfl⟩, fun _ _ h => h⟩

lemma Carried.trans (h : Carried l l') (h' : Carried l' l'') : Carried l l'' := by
  refine ⟨fun i v hv => ?_, fun i row hrow => h'.rows i row (h.rows i row hrow)⟩
  obtain ⟨v', hv', hu, hsum⟩ := h.wallets i v hv
  obtain ⟨v'', hv'', hu', hsum'⟩ := h'.wallets i v' hv'
  exact ⟨v'', hv'', hu'.trans hu, hsum'.trans hsum⟩

lemma carried_post {wallet : Wallet} {amount balance : Amount} (hw : l.wallets.get w = some wallet)
    (hb : balance.units = wallet.availableBalance.units + amount.units) :
    Carried l (l.post w t amount balance refs) := by
  refine ⟨fun i v hv => ?_, fun i row hrow => post_transactions_of_get _ _ _ _ _ _ hrow⟩
  by_cases hi : i = w
  · subst hi
    rw [hw, Option.some.injEq] at hv
    subst hv
    refine ⟨_, post_wallets_self _ _ _ _ _ _ hw, rfl, ?_⟩
    rw [ledgerSum_post, if_pos rfl, hb]
    ring
  · refine ⟨v, (post_wallets_ne _ _ _ _ _ _ hi).trans hv, rfl, ?_⟩
    rw [ledgerSum_post, if_neg (Ne.symm hi), add_zero]

lemma posted_credit {v : Wallet} (hv : l.wallets.get w = some v)
    (h : creditWallet l w (scaled 2 n) t refs = .ok r) : Posted l r.1 t n v.user refs.note := by
  obtain ⟨wallet, balance, amount, -, hw, hamount, hbalance, rfl⟩ := creditWallet_cents.mp h
  have hsame : wallet = v := Option.some.inj (hw.symm.trans hv)
  subst hsame
  refine ⟨carried_post hw (by rw [hbalance, hamount]), _, rfl, rfl, hamount, rfl, ?_⟩
  exact ⟨_, post_wallets_self _ _ _ _ _ _ hw, rfl⟩

lemma carried_openWallet (l : WalletLedger PayoutNote) (u : ℕ) : Carried l (getOrCreateWallet l u).1 := by
  rcases getOrCreateWallet_cases l u with ⟨_, _, -, -, h⟩ | ⟨-, h⟩
  · rw [h]
    exact Carried.refl l
  · rw [h]
    exact ⟨fun i v hv => ⟨v, Table.get_insert_of_get hv _, rfl, rfl⟩, fun _ _ h => h⟩

lemma openWallet_transactions (l : WalletLedger PayoutNote) (u : ℕ) :
    (getOrCreateWallet l u).1.transactions = l.transactions := by
  rcases getOrCreateWallet_cases l u with ⟨_, _, -, -, h⟩ | ⟨-, h⟩ <;> rw [h]

variable {txType : TxType} {note : Option PayoutNote}

lemma posted_cases (h : Posted l l' txType n u note) {i : ℕ} {row : WalletTransaction PayoutNote}
    (hrow : l'.transactions.get i = some row) : l.transactions.get i = some row ∨
      (i = l.transactions.next ∧ row.txType = txType ∧ row.amount.units = n ∧ row.note = note ∧
        ∃ v, l'.wallets.get row.wallet = some v ∧ v.user = u) := by
  obtain ⟨new, hrows, ht, hn, hnote, howner⟩ := h.row
  rw [hrows] at hrow
  rcases Table.get_insert_some hrow with hrow | ⟨hi, rfl⟩
  · exact Or.inl hrow
  · exact Or.inr ⟨hi, ht, hn, hnote, howner⟩

lemma posted_noted (h : Posted l l' txType n u note) :
    ∃ i row, l'.transactions.get i = some row ∧ row.note = note := by
  obtain ⟨new, hrows, -, -, hnote, -⟩ := h.row
  refine ⟨l.transactions.next, new, ?_, hnote⟩
  rw [hrows, Table.get_insert_next]

end Ledgers

section Effects

def Advances (handlers handlers' : Table Handler) : Prop :=
  ∀ h e t, handlers'.get h = some ⟨e, .matched t⟩ → handlers.get h = some ⟨e, .matched t⟩

structure Synced (a a' : PayoutAttempt) (wr wr' : WithdrawalRequest) : Prop where
  allowed : a'.status ∈ allowedTransitions a.status
  request : a'.withdrawalRequest = a.withdrawalRequest
  provider : a'.provider = a.provider
  status : deriveWithdrawalStatus a'.status = .ok wr'.status
  user : wr'.user = wr.user
  amountUsd : wr'.amountUsd = wr.amountUsd
  mirror : (a'.providerReference = a.providerReference ∧ a'.providerBatchId = a.providerBatchId ∧
      wr'.npPayoutId = wr.npPayoutId ∧ wr'.npBatchId = wr.npBatchId) ∨
    (a'.status = .processing ∧ wr'.npPayoutId = a'.providerReference ∧ wr'.npBatchId = a'.providerBatchId)

def completeFunded (f : FundedPayoutRequest) : FundedPayoutRequest := { f with status := .completed }
def failFunded (f : FundedPayoutRequest) : FundedPayoutRequest := { f with status := .failed }

inductive Applied (s : Platform) : Platform → Prop
  | same : Applied s s
  | moved (k : ℕ) (a a' : PayoutAttempt) (wr wr' : WithdrawalRequest) (revenue : Table BrokerLedger)
      (found : s.attempts.get k = some a) (request : s.withdrawals.get a.withdrawalRequest = some wr)
      (synced : Synced a a' wr wr') (unpaid : a'.status ≠ .failed)
      (fees : revenue = s.revenue ∨ ∃ w amount, revenue = bookRevenue s.revenue (.withdrawFee w) amount) :
      Applied s { s with attempts := s.attempts.update k fun _ => a'
                         withdrawals := s.withdrawals.update a.withdrawalRequest fun _ => wr'
                         revenue := revenue }
  | refunded (k : ℕ) (a a' : PayoutAttempt) (wr wr' : WithdrawalRequest) (l : WalletLedger PayoutNote)
      (reason : String) (found : s.attempts.get k = some a)
      (request : s.withdrawals.get a.withdrawalRequest = some wr) (synced : Synced a a' wr wr')
      (failed : a'.status = .failed)
      (posted : Posted s.ledger l .correction wr.amountUsd.units wr.user (some (.refund k reason))) :
      Applied s { s with attempts := s.attempts.update k fun _ => a'
                         withdrawals := s.withdrawals.update a.withdrawalRequest fun _ => wr'
                         ledger := l }

structure Called (s : Platform) (w r : ℕ) (wr : WithdrawalRequest) (f : FundedPayoutRequest) : Prop where
  matched : ∃ h e, s.handlers.get h = some ⟨e, .matched (.funded w)⟩
  found : s.withdrawals.get w = some wr
  running : wr.status.terminal = false
  request : s.fundedPayouts.get r = some f
  link : f.withdrawalRequest = some w

/-- What a step can do. The tables nobody reads back for money are left free, and `p`
holds of the action where it matters. -/
inductive Effect (p : Action → Prop) (s : Platform) : Platform → Prop
  | quiet (submissions : Table Submission) (events : Table PayoutWebhookEvent) (handlers : Table Handler)
      (reconciliations : Table (Option Records.Reconciliation)) (drafts : Table (Option Draft)) (now : ℕ)
      (providers : ∀ e row, events.get e = some row → row.event.provider = providerName ∨
        ∃ row₀, s.events.get e = some row₀ ∧ row.event = row₀.event)
      (advances : Advances s.handlers handlers)
      (kept : ∀ d draft, drafts.get d = some (some draft) → s.drafts.get d = some (some draft)) :
      Effect p s { s with submissions := submissions, events := events, handlers := handlers,
                          reconciliations := reconciliations, drafts := drafts, now := now }
  | resolved (e : ℕ) (row : PayoutWebhookEvent) (found : s.events.get e = some row) :
      Effect p s { s with handlers := s.handlers.insert ⟨e, .matched (resolvePayoutTarget s row.event)⟩ }
  | claimed (w : ℕ) (wr wr' : WithdrawalRequest) (a : PayoutAttempt) (submissions : Table Submission)
      (found : s.withdrawals.get w = some wr) (pending : wr.status = .pending)
      (user : wr'.user = wr.user) (amountUsd : wr'.amountUsd = wr.amountUsd)
      (processing : wr'.status = .processing) (ids : wr'.npPayoutId = wr.npPayoutId ∧ wr'.npBatchId = wr.npBatchId)
      (request : a.withdrawalRequest = w) (provider : a.provider = providerName)
      (submitted : a.status = .submitted) (references : a.providerReference = "" ∧ a.providerBatchId = "") :
      Effect p s { s with attempts := s.attempts.insert a, withdrawals := s.withdrawals.update w fun _ => wr',
                          submissions := submissions }
  | applied {s' : Platform} (submissions : Table Submission) (handlers : Table Handler)
      (reconciliations : Table (Option Records.Reconciliation)) (applied : Applied s s')
      (advances : Advances s.handlers handlers) :
      Effect p s { s' with submissions := submissions, handlers := handlers, reconciliations := reconciliations }
  | legacy (h e w : ℕ) (wr : WithdrawalRequest) (event : ProviderPayoutEvent) (n : Normalized)
      (l : WalletLedger PayoutNote) (handlers : Table Handler)
      (matched : s.handlers.get h = some ⟨e, .matched (.legacy w)⟩) (found : s.withdrawals.get w = some wr)
      (posted : l = s.ledger ∨ ∃ reference,
        Posted s.ledger l .correction wr.amountUsd.units wr.user (some (.legacyRefund w reference)))
      (advances : Advances s.handlers handlers) :
      Effect p s { s with withdrawals := s.withdrawals.update w (markWebhook event n), ledger := l,
                          handlers := handlers }
  | fundedMarked (w r : ℕ) (wr : WithdrawalRequest) (f : FundedPayoutRequest) (event : ProviderPayoutEvent)
      (n : Normalized) (handlers : Table Handler) (called : Called s w r wr f)
      (idle : f.status.terminal = true ∨ n = .processing) (advances : Advances s.handlers handlers) :
      Effect p s { s with withdrawals := s.withdrawals.update w (markWebhook event n), handlers := handlers }
  | fundedCompleted (w r : ℕ) (wr : WithdrawalRequest) (f : FundedPayoutRequest) (account : TradingAccount)
      (event : ProviderPayoutEvent) (revenue : Table BrokerLedger) (handlers : Table Handler)
      (called : Called s w r wr f) (active : f.status.terminal = false)
      (owner : s.accounts.get f.fundedAccount = some account) (advances : Advances s.handlers handlers)
      (share : revenue = bookRevenue s.revenue (.fundedProfitShare r) f.brokerCut) :
      Effect p s { s with
        accounts := s.accounts.update f.fundedAccount fun a => { a with initialBalance := some account.balance }
        fundedPayouts := s.fundedPayouts.update r completeFunded
        revenue := revenue, withdrawals := s.withdrawals.update w (markWebhook event .completed),
        handlers := handlers }
  | fundedFailed (w r : ℕ) (wr : WithdrawalRequest) (f : FundedPayoutRequest) (account : TradingAccount)
      (restored : Balance) (event : ProviderPayoutEvent) (entries : Table LedgerEntry)
      (handlers : Table Handler) (called : Called s w r wr f) (active : f.status.terminal = false)
      (owner : s.accounts.get f.fundedAccount = some account)
      (amount : restored.units = account.balance.units + f.traderCut.units)
      (advances : Advances s.handlers handlers)
      (entry : ∃ payoutId reason,
        entries = s.entries.insert (reversalEntry r f.fundedAccount f.traderCut restored payoutId reason)) :
      Effect p s { s with
        accounts := s.accounts.update f.fundedAccount (setBalance restored)
        entries := entries, fundedPayouts := s.fundedPayouts.update r failFunded
        withdrawals := s.withdrawals.update w (markWebhook event .failed), handlers := handlers }
  | simApproved (r : ℕ) (f f' : FundedPayoutRequest) (account : TradingAccount) (balance : Balance)
      (l : WalletLedger PayoutNote) (entries : Table LedgerEntry) (revenue : Table BrokerLedger)
      (request : s.fundedPayouts.get r = some f) (pending : f.status = .pending)
      (owner : s.accounts.get f.fundedAccount = some account)
      (amount : balance.units = account.balance.units - f.traderCut.units)
      (terms : f' = { f with status := .completed, ledgerEntry := f'.ledgerEntry,
                             walletCreditTx := f'.walletCreditTx, reviewedBy := f'.reviewedBy })
      (posted : Posted s.ledger l .fundedPayout f.traderCut.units f.user (some (.fundedSim r)))
      (kind : f.fundedType = .sim) (entry : entries = s.entries.insert (payoutEntry r f balance false))
      (share : revenue = bookRevenue s.revenue (.fundedProfitShare r) f.brokerCut) :
      Effect p s { s with
        accounts := s.accounts.update f.fundedAccount fun a =>
          { setBalance balance a with initialBalance := some balance }
        entries := entries, ledger := l, fundedPayouts := s.fundedPayouts.update r fun _ => f'
        revenue := revenue }
  | internalApproved (r adminUser : ℕ) (f f' : FundedPayoutRequest) (account : TradingAccount)
      (balance : Balance) (entries : Table LedgerEntry) (request : s.fundedPayouts.get r = some f)
      (pending : f.status = .pending) (owner : s.accounts.get f.fundedAccount = some account)
      (amount : balance.units = account.balance.units - f.traderCut.units)
      (terms : f' = { f with status := .approved, withdrawalRequest := some s.withdrawals.next,
                             ledgerEntry := f'.ledgerEntry, reviewedBy := f'.reviewedBy })
      (kind : f.fundedType = .internal) (entry : entries = s.entries.insert (payoutEntry r f balance true)) :
      Effect p s { s with
        accounts := s.accounts.update f.fundedAccount (setBalance balance)
        entries := entries, withdrawals := s.withdrawals.insert (internalWithdrawal f adminUser)
        fundedPayouts := s.fundedPayouts.update r fun _ => f'
        internals := s.internals.insert
          { request := r, withdrawal := s.withdrawals.next, fundedAccount := f.fundedAccount,
            traderCut := f.traderCut, stage := .claimed } }
  | reversed (i : ℕ) (x : Internal) (account : TradingAccount) (restored : Balance)
      (entries : Table LedgerEntry) (found : s.internals.get i = some x) (claimed : x.stage = .claimed)
      (owner : s.accounts.get x.fundedAccount = some account)
      (amount : restored.units = account.balance.units + x.traderCut.units)
      (entry : ∃ payoutId reason, entries = s.entries.insert
        (reversalEntry x.request x.fundedAccount x.traderCut restored payoutId reason)) :
      Effect p s { s with
        accounts := s.accounts.update x.fundedAccount (setBalance restored)
        entries := entries, fundedPayouts := s.fundedPayouts.update x.request failFunded
        withdrawals := s.withdrawals.update x.withdrawal fun wr => { wr with status := .failed }
        internals := s.internals.update i fun x => { x with stage := .finished } }
  | noted (i : ℕ) (x : Internal) (stage : InternalStage) (note : FundedPayoutRequest → String)
      (found : s.internals.get i = some x)
      (progress : stage = .finished ∨
        (x.stage = .claimed ∧ ∃ batchId payoutId raw amount, stage = .accepted batchId payoutId raw amount)) :
      Effect p s { s with
        fundedPayouts := s.fundedPayouts.update x.request fun f => { f with adminNote := note f }
        internals := s.internals.update i fun x => { x with stage := stage } }
  | recorded (i : ℕ) (x : Internal) (batchId payoutId raw : String) (cryptoAmount : ℚ)
      (found : s.internals.get i = some x) (accepted : x.stage = .accepted batchId payoutId raw cryptoAmount) :
      Effect p s { s with
        withdrawals := s.withdrawals.update x.withdrawal fun wr =>
          { wr with status := .processing, npBatchId := batchId, npPayoutId := payoutId,
                    npPayoutStatus := raw, cryptoAmount := some cryptoAmount }
        internals := s.internals.update i fun x => { x with stage := .recorded batchId payoutId } }
  | requested (i : ℕ) (x : Internal) (f : FundedPayoutRequest) (batchId payoutId : String)
      (found : s.internals.get i = some x) (recorded : x.stage = .recorded batchId payoutId)
      (request : s.fundedPayouts.get x.request = some f)
      (single : otherActive s f.enrollment x.request = false) (recorder : p (.recordRequest i)) :
      Effect p s { s with
        fundedPayouts := s.fundedPayouts.update x.request fun f => { f with status := .processing }
        internals := s.internals.update i fun x => { x with stage := .finished } }
  | read (user enrollment k : ℕ) (e : Enrollment) (account : TradingAccount) (config : FundedConfig)
      (visit : Visit) (enrolled : s.enrollments.get enrollment = some e) (owns : e.fundedAccount = some k)
      (configured : e.fundedConfig = some config) (owner : s.accounts.get k = some account) :
      Effect p s { s with drafts := s.drafts.insert (some (newDraft user enrollment k account config visit)) }
  | created (d : ℕ) (draft : Draft) (f : FundedPayoutRequest) (found : s.drafts.get d = some (some draft))
      (single : otherActive s draft.enrollment s.fundedPayouts.next = false) (creator : p (.createFundedPayout d))
      (enrollment : f.enrollment = draft.enrollment) (account : f.fundedAccount = draft.fundedAccount)
      (profit : f.cycleProfit.units = draft.cycleProfit) (cut : f.traderCut.units = draft.traderCut)
      (split : f.profitSplitPct = draft.fundedConfig.profitSplitPct) (link : f.withdrawalRequest = none)
      (pending : f.status = .pending) :
      Effect p s { s with drafts := s.drafts.update d fun _ => none, fundedPayouts := s.fundedPayouts.insert f }
  | traded (k : ℕ) (account : TradingAccount) (balance : Balance) (entries : Table LedgerEntry)
      (owner : s.accounts.get k = some account) (trader : ∃ profit, p (.trade k profit))
      (entry : ∃ e : LedgerEntry, entries = s.entries.insert e ∧ e.account = k ∧ e.info = none ∧
        balance.units = account.balance.units + e.amount.units) :
      Effect p s { s with accounts := s.accounts.update k (setBalance balance), entries := entries }
  | wallet (l : WalletLedger PayoutNote) (carried : Carried s.ledger l)
      (rows : ∀ i row, l.transactions.get i = some row →
        s.ledger.transactions.get i = some row ∨ ∃ text, row.note = some (.other text)) :
      Effect p s (setLedger s l)

variable {p : Action → Prop} {s s' : Platform}

lemma Advances.refl (handlers : Table Handler) : Advances handlers handlers := fun _ _ _ h => h

lemma advances_insert {handlers : Table Handler} {e : ℕ} {stage : HandlerStage}
    (h : ∀ t, stage ≠ .matched t) : Advances handlers (handlers.insert ⟨e, stage⟩) := by
  intro i e' t hi
  rcases Table.get_insert_some hi with hi | ⟨-, hi⟩
  · exact hi
  · cases hi
    exact (h t rfl).elim

lemma advances_update {handlers : Table Handler} (i : ℕ) {stage : HandlerStage} (h : ∀ t, stage ≠ .matched t) :
    Advances handlers (handlers.update i fun x => { x with stage := stage }) := by
  intro j e t hj
  obtain ⟨x, hx, heq⟩ := Table.get_update_some hj
  split at heq
  · cases heq
    exact (h t rfl).elim
  · rw [hx, heq]

lemma effect_refl (s : Platform) : Effect p s s :=
  .quiet s.submissions s.events s.handlers s.reconciliations s.drafts s.now
    (fun _ row h => Or.inr ⟨row, h, rfl⟩) (Advances.refl _) fun _ _ h => h

lemma effect_commit {ε : Type} {x : Except ε Platform} (h : ∀ s', x = .ok s' → Effect p s s') :
    Effect p s (commit s x) := by
  refine commit_rule _ _ ?_ fun s' hok => ?_
  · exact effect_refl s
  · exact h s' hok

lemma effect_submissions (submissions : Table Submission) : Effect p s { s with submissions := submissions } :=
  .quiet submissions s.events s.handlers s.reconciliations s.drafts s.now
    (fun _ row h => Or.inr ⟨row, h, rfl⟩) (Advances.refl _) fun _ _ h => h

lemma effect_handlers (handlers : Table Handler) (h : Advances s.handlers handlers) :
    Effect p s { s with handlers := handlers } :=
  .quiet s.submissions s.events handlers s.reconciliations s.drafts s.now
    (fun _ row h => Or.inr ⟨row, h, rfl⟩) h fun _ _ h => h

lemma effect_drafts (drafts : Table (Option Draft))
    (h : ∀ d draft, drafts.get d = some (some draft) → s.drafts.get d = some (some draft)) :
    Effect p s { s with drafts := drafts } :=
  .quiet s.submissions s.events s.handlers s.reconciliations drafts s.now
    (fun _ row h => Or.inr ⟨row, h, rfl⟩) (Advances.refl _) h

lemma Applied.reconciliations {reconciliations : Table (Option Records.Reconciliation)}
    (h : Applied { s with reconciliations := reconciliations } s') :
    Applied s { s' with reconciliations := s.reconciliations } ∧ s'.handlers = s.handlers ∧
      s'.submissions = s.submissions ∧ s'.reconciliations = reconciliations := by
  cases h with
  | same => exact ⟨.same, rfl, rfl, rfl⟩
  | moved k a a' wr wr' revenue found request synced unpaid fees =>
    exact ⟨.moved k a a' wr wr' revenue found request synced unpaid fees, rfl, rfl, rfl⟩
  | refunded k a a' wr wr' l reason found request synced failed posted =>
    exact ⟨.refunded k a a' wr wr' l reason found request synced failed posted, rfl, rfl, rfl⟩

lemma Applied.frame (h : Applied s s') : s'.handlers = s.handlers ∧ s'.submissions = s.submissions ∧
    s'.events = s.events ∧ s'.reconciliations = s.reconciliations := by
  cases h <;> exact ⟨rfl, rfl, rfl, rfl⟩

end Effects

end TrxSimulator.Payouts.Machine
