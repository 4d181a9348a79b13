import TrxSimulator.Funded.Agreement

/-! The books of a funded payout: the entries, the revenue and the wallet row that name its request. -/

namespace TrxSimulator.Funded.Conservation

open Foundations.Runs Foundations.Tables Foundations.Outcomes Foundations.Decimals Money Accounts
open Wallets.Ledger Payouts.Records Payouts.StateMachine Payouts.Orchestrator Funded.Payouts Payouts.Machine
open Payouts.Effects Payouts.Safety Links Agreement

def requestOf (e : LedgerEntry) : Option ℕ :=
  match e.info with
  | some (.fundedPayout r _ _ _) | some (.fundedReversal r _ _) => some r
  | _ => none

def movement (r : ℕ) (e : LedgerEntry) : Option (ℕ × ℤ) :=
  if requestOf e = some r then some (e.account, e.amount.units) else none

/-- The accounts and the cents of the entries that name the request, in their order. -/
def movements (s : Platform) (r : ℕ) : List (ℕ × ℤ) := s.entries.rows.filterMap fun e => movement r e.2

def shareIn (r : ℕ) (row : BrokerLedger) : Option Balance :=
  if row.source = .fundedProfitShare r then some row.amount else none

def shares (s : Platform) (r : ℕ) : List Balance := s.revenue.rows.filterMap fun row => shareIn r row.2

def share (brokerCut : Balance) : List Balance := if brokerCut.units = 0 then [] else [brokerCut]

def debit (f : FundedPayoutRequest) : ℕ × ℤ := (f.fundedAccount, -f.traderCut.units)

def restoration (f : FundedPayoutRequest) : ℕ × ℤ := (f.fundedAccount, f.traderCut.units)

def Credits (s : Platform) (r i : ℕ) (row : WalletTransaction PayoutNote) : Prop :=
  s.ledger.transactions.get i = some row ∧ row.note = some (.fundedSim r)

def Uncredited (s : Platform) (r : ℕ) : Prop := ∀ i row, ¬ Credits s r i row

def Credited (s : Platform) (r : ℕ) (f : FundedPayoutRequest) : Prop :=
  ∃ i row v, Credits s r i row ∧ row.txType = .fundedPayout ∧ row.amount.units = f.traderCut.units ∧
    s.ledger.wallets.get row.wallet = some v ∧ v.user = f.user ∧ ∀ j row', Credits s r j row' → j = i

/-- The withdrawal of an internal payout and how far it has come. -/
def Carries (s : Platform) (f : FundedPayoutRequest) (p : WithdrawalStatus → Prop) : Prop :=
  ∃ w wr, f.withdrawalRequest = some w ∧ s.withdrawals.get w = some wr ∧ wr.amountUsd = f.traderCut ∧ p wr.status

structure Books (s : Platform) (r : ℕ) (entries : List (ℕ × ℤ)) (revenue : List Balance) : Prop where
  entries : movements s r = entries
  revenue : shares s r = revenue

inductive Booked (s : Platform) (r : ℕ) : Prop
  | pending (waits : ∀ f, s.fundedPayouts.get r = some f → f.status = .pending) (books : Books s r [] [])
      (uncredited : Uncredited s r)
  | underway (f : FundedPayoutRequest) (found : s.fundedPayouts.get r = some f) (kind : f.fundedType = .internal)
      (carries : Carries s f fun status => status.terminal = false) (books : Books s r [debit f] [])
      (uncredited : Uncredited s r)
  | returned (f : FundedPayoutRequest) (found : s.fundedPayouts.get r = some f) (kind : f.fundedType = .internal)
      (carries : Carries s f fun status => status = .failed) (books : Books s r [debit f, restoration f] [])
      (uncredited : Uncredited s r)
  | sent (f : FundedPayoutRequest) (found : s.fundedPayouts.get r = some f) (kind : f.fundedType = .internal)
      (carries : Carries s f fun status => status = .completed) (books : Books s r [debit f] (share f.brokerCut))
      (uncredited : Uncredited s r)
  | credited (f : FundedPayoutRequest) (found : s.fundedPayouts.get r = some f) (kind : f.fundedType = .sim)
      (unlinked : f.withdrawalRequest = none) (completed : f.status = .completed)
      (books : Books s r [debit f] (share f.brokerCut)) (credited : Credited s r f)

/-- A request and its withdrawal end the same way, though the request may be reopened. -/
def Mirrored (f : FundedStatus) (w : WithdrawalStatus) : Prop :=
  (w.terminal = false → f.terminal = false) ∧ (f = .completed → w = .completed) ∧ (f = .failed → w = .failed)

lemma compatible_mirrored : Compatible Mirrored where
  approved := ⟨fun _ => rfl, nofun, nofun⟩
  recorded := ⟨fun _ => rfl, nofun, nofun⟩
  completed := ⟨nofun, fun _ => rfl, nofun⟩
  failed := ⟨nofun, nofun, fun _ => rfl⟩
  running _ _ h := h.1
  marked f w _ hf := by
    refine ⟨fun _ => hf, ?_, ?_⟩ <;>
    · rintro rfl
      cases hf

lemma mirrored_processing {f : FundedStatus} {w : WithdrawalStatus} (_ : Mirrored f w) : Mirrored .processing w :=
  ⟨fun _ => rfl, nofun, nofun⟩

variable {p : Action → Prop} {s s' : Platform} {r : ℕ} {f f' : FundedPayoutRequest}

section Rows

lemma movements_insert {e : LedgerEntry} (h : s'.entries = s.entries.insert e) (r : ℕ) :
    movements s' r = movements s r ++ (movement r e).toList := by
  rw [movements, h, Table.rows_insert, List.filterMap_append, movements]
  rfl

lemma movements_payout {balance : Balance} {internal : Bool}
    (h : s'.entries = s.entries.insert (payoutEntry r f balance internal)) (r' : ℕ) :
    movements s' r' = movements s r' ++ if r = r' then [debit f] else [] := by
  rw [movements_insert h]
  by_cases hr : r = r'
  · simp [movement, requestOf, payoutEntry, debit, hr, Numeric.widen, Numeric.negate]
  · simp [movement, requestOf, payoutEntry, hr]

lemma movements_reversal {account : ℕ} {cut restored : Balance} {payoutId : Option String} {reason : String}
    (h : s'.entries = s.entries.insert (reversalEntry r account cut restored payoutId reason)) (r' : ℕ) :
    movements s' r' = movements s r' ++ if r = r' then [(account, cut.units)] else [] := by
  rw [movements_insert h]
  by_cases hr : r = r'
  · simp [movement, requestOf, reversalEntry, hr, Numeric.widen]
  · simp [movement, requestOf, reversalEntry, hr]

lemma movements_other {e : LedgerEntry} (h : s'.entries = s.entries.insert e) (he : e.info = none) (r : ℕ) :
    movements s' r = movements s r := by
  rw [movements_insert h, movement, requestOf, he]
  simp

lemma shares_fee {w : ℕ} {amount : Balance} (h : s'.revenue = bookRevenue s.revenue (.withdrawFee w) amount) (r : ℕ) :
    shares s' r = shares s r := by
  rw [shares, h, bookRevenue]
  split
  · rfl
  · rw [Table.rows_insert, List.filterMap_append, shares]
    simp [shareIn]

lemma shares_none (h : shares s r = []) : s.revenue.exists? (fun row => row.source = .fundedProfitShare r) = false := by
  rw [Bool.eq_false_iff]
  intro hexists
  obtain ⟨i, row, hrow, hsource⟩ := Table.exists?_iff.mp hexists
  have hmem := List.filterMap_eq_nil_iff.mp h (i, row) (Table.mem_rows.mpr hrow)
  simp [shareIn, of_decide_eq_true hsource] at hmem

lemma shares_book {amount : Balance} (h : s'.revenue = bookRevenue s.revenue (.fundedProfitShare r) amount)
    (hnone : shares s r = []) : shares s' r = share amount := by
  rw [shares, h, bookRevenue, share, shares_none hnone]
  by_cases hzero : amount.units = 0
  · rw [if_pos (Or.inl hzero), if_pos hzero]
    exact hnone
  · rw [if_neg (by simpa using hzero), if_neg hzero, Table.rows_insert, List.filterMap_append]
    refine (congrArg (· ++ _) hnone).trans ?_
    simp [shareIn]

lemma shares_book_other {amount : Balance} {r' : ℕ} (hr : r ≠ r')
    (h : s'.revenue = bookRevenue s.revenue (.fundedProfitShare r) amount) : shares s' r' = shares s r' := by
  rw [shares, h, bookRevenue]
  split
  · rfl
  · rw [Table.rows_insert, List.filterMap_append, shares]
    simp [shareIn, hr]

end Rows

section Beside

/-- A step that leaves the books of a request alone; its withdrawal may go on, but does not end. -/
structure Beside (s s' : Platform) (r : ℕ) : Prop where
  request : ∀ f, s.fundedPayouts.get r = some f → ∃ f', s'.fundedPayouts.get r = some f' ∧ terms f' = terms f ∧
    (f.withdrawalRequest = none → f'.status = f.status)
  absent : s.fundedPayouts.get r = none → ∀ f', s'.fundedPayouts.get r = some f' → f'.status = .pending
  withdrawal : ∀ f w wr, s.fundedPayouts.get r = some f → f.withdrawalRequest = some w →
    s.withdrawals.get w = some wr → ∃ wr', s'.withdrawals.get w = some wr' ∧ wr'.amountUsd = wr.amountUsd ∧
      (wr'.status = wr.status ∨ (wr.status.terminal = false ∧ wr'.status.terminal = false))
  movements : movements s' r = movements s r
  shares : shares s' r = shares s r
  carried : Carried s.ledger s'.ledger
  credits : ∀ i row, Credits s' r i row → Credits s r i row

structure SameBooks (f f' : FundedPayoutRequest) : Prop where
  withdrawalRequest : f'.withdrawalRequest = f.withdrawalRequest
  fundedType : f'.fundedType = f.fundedType
  user : f'.user = f.user
  traderCut : f'.traderCut = f.traderCut
  debit : debit f' = debit f
  restoration : restoration f' = restoration f
  share : share f'.brokerCut = share f.brokerCut

lemma sameBooks_of_terms (h : terms f' = terms f) : SameBooks f f' := by
  obtain ⟨hlink, haccount, hcut, -⟩ := terms_inj h
  refine ⟨hlink, congrArg (·.fundedType) h, congrArg (·.user) h, hcut, ?_, ?_, congrArg (fun f => share f.brokerCut) h⟩
  · rw [debit, debit, haccount, hcut]
  · rw [restoration, restoration, haccount, hcut]

lemma Beside.books (h : Beside s s' r) {entries : List (ℕ × ℤ)} {revenue : List Balance}
    (hb : Books s r entries revenue) : Books s' r entries revenue :=
  ⟨h.movements.trans hb.entries, h.shares.trans hb.revenue⟩

lemma Beside.uncredited (h : Beside s s' r) (hu : Uncredited s r) : Uncredited s' r := fun i row hrow =>
  hu i row (h.credits i row hrow)

lemma Beside.carries {q : WithdrawalStatus → Prop} (h : Beside s s' r) (hf : s.fundedPayouts.get r = some f)
    (hsame : SameBooks f f') (hq : ∀ st st', st.terminal = false → st'.terminal = false → q st → q st')
    (hc : Carries s f q) : Carries s' f' q := by
  obtain ⟨w, wr, hlink, hwr, hamount, hstatus⟩ := hc
  obtain ⟨wr', hwr', hamount', hsteps⟩ := h.withdrawal f w wr hf hlink hwr
  refine ⟨w, wr', hsame.withdrawalRequest.trans hlink, hwr', ?_, ?_⟩
  · rw [hamount', hamount, hsame.traderCut]
  · rcases hsteps with heq | ⟨hopen, hopen'⟩
    · rwa [heq]
    · exact hq _ _ hopen hopen' hstatus

lemma Beside.credited (h : Beside s s' r) (hsame : SameBooks f f') (hc : Credited s r f) : Credited s' r f' := by
  obtain ⟨i, row, v, ⟨hrow, hnote⟩, htype, hamount, hv, huser, hunique⟩ := hc
  obtain ⟨v', hv', huser', -⟩ := h.carried.wallets row.wallet v hv
  refine ⟨i, row, v', ⟨h.carried.rows i row hrow, hnote⟩, htype, ?_, hv', ?_, fun j row' hrow' => ?_⟩
  · rw [hamount, hsame.traderCut]
  · rw [huser', huser, hsame.user]
  · exact hunique j row' (h.credits j row' hrow')

lemma booked_beside (hl : Linked Mirrored s) (h : Beside s s' r) (hb : Booked s r) : Booked s' r := by
  have hgo : ∀ {q : WithdrawalStatus → Prop} {f}, s.fundedPayouts.get r = some f → Carries s f q →
      (∀ st st', st.terminal = false → st'.terminal = false → q st → q st') →
      ∃ f', s'.fundedPayouts.get r = some f' ∧ SameBooks f f' ∧ Carries s' f' q := by
    intro q f hf hc hq
    obtain ⟨f', hf', hterms, -⟩ := h.request f hf
    exact ⟨f', hf', sameBooks_of_terms hterms, h.carries hf (sameBooks_of_terms hterms) hq hc⟩
  cases hb with
  | pending waits books uncredited =>
    refine .pending (fun f' hf' => ?_) (h.books books) (h.uncredited uncredited)
    cases hf : s.fundedPayouts.get r with
    | none => exact h.absent hf f' hf'
    | some f =>
      obtain ⟨g, hg, -, hstatus⟩ := h.request f hf
      obtain rfl : f' = g := Option.some.inj (hf'.symm.trans hg)
      rw [hstatus (unlinked_of_pending hl hf (waits f hf)), waits f hf]
  | underway f found kind carries books uncredited =>
    obtain ⟨f', hf', hsame, hcarries⟩ := hgo found carries fun _ _ _ hopen _ => hopen
    refine .underway f' hf' (hsame.fundedType.trans kind) hcarries ?_ (h.uncredited uncredited)
    rw [hsame.debit]
    exact h.books books
  | returned f found kind carries books uncredited =>
    obtain ⟨f', hf', hsame, hcarries⟩ := hgo found carries (by rintro _ _ hopen - rfl; cases hopen)
    refine .returned f' hf' (hsame.fundedType.trans kind) hcarries ?_ (h.uncredited uncredited)
    rw [hsame.debit, hsame.restoration]
    exact h.books books
  | sent f found kind carries books uncredited =>
    obtain ⟨f', hf', hsame, hcarries⟩ := hgo found carries (by rintro _ _ hopen - rfl; cases hopen)
    refine .sent f' hf' (hsame.fundedType.trans kind) hcarries ?_ (h.uncredited uncredited)
    rw [hsame.debit, hsame.share]
    exact h.books books
  | credited f found kind unlinked completed books credited =>
    obtain ⟨f', hf', hterms, hstatus⟩ := h.request f found
    have hsame := sameBooks_of_terms hterms
    refine .credited f' hf' (hsame.fundedType.trans kind) (hsame.withdrawalRequest.trans unlinked)
      ((hstatus unlinked).trans completed) ?_ (h.credited hsame credited)
    rw [hsame.debit, hsame.share]
    exact h.books books

lemma beside_still (hget : s'.fundedPayouts.get r = s.fundedPayouts.get r)
    (hwithdrawals : ∀ f w, s.fundedPayouts.get r = some f → f.withdrawalRequest = some w →
      s'.withdrawals.get w = s.withdrawals.get w)
    (hmovements : movements s' r = movements s r) (hshares : shares s' r = shares s r)
    (hcarried : Carried s.ledger s'.ledger) (hcredits : ∀ i row, Credits s' r i row → Credits s r i row) :
    Beside s s' r where
  request f hf := ⟨f, hget.trans hf, rfl, fun _ => rfl⟩
  absent hnone f' hf' := by
    rw [hget, hnone] at hf'
    cases hf'
  withdrawal f w wr hf hlink hwr := ⟨wr, (hwithdrawals f w hf hlink).trans hwr, rfl, Or.inl rfl⟩
  movements := hmovements
  shares := hshares
  carried := hcarried
  credits := hcredits

lemma credits_posted {l : WalletLedger PayoutNote} {t : TxType} {n : ℤ} {user : ℕ} {note : Option PayoutNote}
    (hledger : s'.ledger = l) (h : Posted s.ledger l t n user note) (hnote : note ≠ some (.fundedSim r)) (i : ℕ)
    (row : WalletTransaction PayoutNote) (hrow : Credits s' r i row) : Credits s r i row := by
  obtain ⟨hget, hsim⟩ := hrow
  obtain ⟨row', hinsert, -, -, hnote', -⟩ := h.row
  rw [hledger, hinsert] at hget
  rcases Table.get_insert_some hget with hget | ⟨-, rfl⟩
  · exact ⟨hget, hsim⟩
  · rw [hsim] at hnote'
    exact (hnote hnote'.symm).elim

lemma withdrawal_stepped {w : ℕ} {wr : WithdrawalRequest} {G : WithdrawalRequest → WithdrawalRequest}
    (hwithdrawals : s'.withdrawals = s.withdrawals.update w G) (hwr : s.withdrawals.get w = some wr)
    (hamount : (G wr).amountUsd = wr.amountUsd) (hopen : wr.status.terminal = false)
    (hopen' : (G wr).status.terminal = false) (v : ℕ) (vr : WithdrawalRequest) (hvr : s.withdrawals.get v = some vr) :
    ∃ vr', s'.withdrawals.get v = some vr' ∧ vr'.amountUsd = vr.amountUsd ∧
      (vr'.status = vr.status ∨ (vr.status.terminal = false ∧ vr'.status.terminal = false)) := by
  by_cases hv : v = w
  · subst hv
    obtain rfl : wr = vr := Option.some.inj (hwr.symm.trans hvr)
    exact ⟨G wr, by rw [hwithdrawals, Table.get_update_self hwr], hamount, Or.inr ⟨hopen, hopen'⟩⟩
  · exact ⟨vr, by rw [hwithdrawals, Table.get_update_ne _ hv, hvr], rfl, Or.inl rfl⟩

lemma request_updated {F : FundedPayoutRequest → FundedPayoutRequest} {j : ℕ}
    (hfunded : s'.fundedPayouts = s.fundedPayouts.update j F) (hterms : ∀ f, terms (F f) = terms f)
    (hstatus : ∀ f, s.fundedPayouts.get j = some f → f.withdrawalRequest = none → (F f).status = f.status)
    (hf : s.fundedPayouts.get r = some f) : ∃ f', s'.fundedPayouts.get r = some f' ∧ terms f' = terms f ∧
      (f.withdrawalRequest = none → f'.status = f.status) := by
  by_cases hr : r = j
  · subst hr
    exact ⟨F f, by rw [hfunded, Table.get_update_self hf], hterms f, hstatus f hf⟩
  · exact ⟨f, by rw [hfunded, Table.get_update_ne _ hr, hf], rfl, fun _ => rfl⟩

lemma beside_updated {F : FundedPayoutRequest → FundedPayoutRequest} {j : ℕ}
    (hfunded : s'.fundedPayouts = s.fundedPayouts.update j F) (hterms : ∀ f, terms (F f) = terms f)
    (hstatus : ∀ f, s.fundedPayouts.get j = some f → f.withdrawalRequest = none → (F f).status = f.status)
    (hwithdrawal : ∀ v vr, s.withdrawals.get v = some vr → ∃ vr', s'.withdrawals.get v = some vr' ∧
      vr'.amountUsd = vr.amountUsd ∧
      (vr'.status = vr.status ∨ (vr.status.terminal = false ∧ vr'.status.terminal = false)))
    (hentries : s'.entries = s.entries) (hrevenue : s'.revenue = s.revenue) (hledger : s'.ledger = s.ledger) :
    Beside s s' r where
  request f hf := request_updated hfunded hterms hstatus hf
  absent hnone f' hf' := by
    rw [hfunded, Table.get_update] at hf'
    split at hf'
    · rw [hnone] at hf'
      cases hf'
    · rw [hnone] at hf'
      cases hf'
  withdrawal f w wr _ _ hwr := hwithdrawal w wr hwr
  movements := by rw [movements, hentries, movements]
  shares := by rw [shares, hrevenue, shares]
  carried := hledger ▸ Carried.refl _
  credits i row h := by rwa [Credits, hledger] at h

end Beside

section Actors

variable {w : ℕ} {wr : WithdrawalRequest}

lemma books_of_pending (hl : Linked Mirrored s) (hf : s.fundedPayouts.get r = some f) (hpending : f.status = .pending)
    (hb : Booked s r) : Books s r [] [] ∧ Uncredited s r := by
  have hlinked : ∀ g, s.fundedPayouts.get r = some g → ∀ q, ¬ Carries s g q := by
    rintro g hg q ⟨v, vr, hlink, -⟩
    obtain rfl : f = g := Option.some.inj (hf.symm.trans hg)
    rw [unlinked_of_pending hl hf hpending] at hlink
    cases hlink
  cases hb with
  | pending waits books uncredited => exact ⟨books, uncredited⟩
  | underway g found kind carries | returned g found kind carries | sent g found kind carries =>
    exact (hlinked g found _ carries).elim
  | credited g found kind unlinked completed =>
    obtain rfl : f = g := Option.some.inj (hf.symm.trans found)
    rw [hpending] at completed
    cases completed

lemma books_of_running (hl : Linked Mirrored s) (hf : s.fundedPayouts.get r = some f)
    (hlink : f.withdrawalRequest = some w) (hwr : s.withdrawals.get w = some wr) (hopen : wr.status.terminal = false)
    (hb : Booked s r) :
    f.fundedType = .internal ∧ wr.amountUsd = f.traderCut ∧ Books s r [debit f] [] ∧ Uncredited s r := by
  have hcarried : ∀ g, s.fundedPayouts.get r = some g → ∀ q, Carries s g q → f = g ∧ wr.amountUsd = f.traderCut ∧
      q wr.status := by
    rintro g hg q ⟨v, vr, hlink', hvr, hamount, hq⟩
    obtain rfl : f = g := Option.some.inj (hf.symm.trans hg)
    obtain rfl : w = v := Option.some.inj (hlink.symm.trans hlink')
    obtain rfl : wr = vr := Option.some.inj (hwr.symm.trans hvr)
    exact ⟨rfl, hamount, hq⟩
  cases hb with
  | pending waits books uncredited =>
    rw [unlinked_of_pending hl hf (waits f hf)] at hlink
    cases hlink
  | underway g found kind carries books uncredited =>
    obtain ⟨rfl, hamount, -⟩ := hcarried g found _ carries
    exact ⟨kind, hamount, books, uncredited⟩
  | returned g found kind carries =>
    obtain ⟨-, -, hfailed⟩ := hcarried g found _ carries
    rw [hfailed] at hopen
    cases hopen
  | sent g found kind carries =>
    obtain ⟨-, -, hcompleted⟩ := hcarried g found _ carries
    rw [hcompleted] at hopen
    cases hopen
  | credited g found kind unlinked =>
    obtain rfl : f = g := Option.some.inj (hf.symm.trans found)
    rw [unlinked] at hlink
    cases hlink

lemma booked_completed {account : TradingAccount} {event : ProviderPayoutEvent}
    (hl : Linked Mirrored s) (called : Called s w r wr f) (hb : Booked s r)
    (hfunded : s'.fundedPayouts = s.fundedPayouts.update r completeFunded) (hentries : s'.entries = s.entries)
    (hrevenue : s'.revenue = bookRevenue s.revenue (.fundedProfitShare r) f.brokerCut)
    (hwithdrawals : s'.withdrawals = s.withdrawals.update w (markWebhook event .completed))
    (hledger : s'.ledger = s.ledger) (_ : s.accounts.get f.fundedAccount = some account) : Booked s' r := by
  obtain ⟨hkind, hamount, hbooks, huncredited⟩ := books_of_running hl called.request called.link called.found
    called.running hb
  refine .sent (completeFunded f) (by rw [hfunded, Table.get_update_self called.request]) hkind
    ⟨w, markWebhook event .completed wr, called.link, by rw [hwithdrawals, Table.get_update_self called.found],
      hamount, rfl⟩ ⟨?_, shares_book hrevenue hbooks.revenue⟩ fun i row h => ?_
  · rw [movements, hentries]
    exact hbooks.entries
  · rw [Credits, hledger] at h
    exact huncredited i row h

lemma booked_returned {G : WithdrawalRequest → WithdrawalRequest} {restored : Balance} {payoutId : Option String}
    {reason : String} (hl : Linked Mirrored s) (hf : s.fundedPayouts.get r = some f)
    (hlink : f.withdrawalRequest = some w) (hwr : s.withdrawals.get w = some wr) (hopen : wr.status.terminal = false)
    (hb : Booked s r) (hfunded : s'.fundedPayouts = s.fundedPayouts.update r failFunded)
    (hentries : s'.entries = s.entries.insert (reversalEntry r f.fundedAccount f.traderCut restored payoutId reason))
    (hrevenue : s'.revenue = s.revenue) (hwithdrawals : s'.withdrawals = s.withdrawals.update w G)
    (hfailed : (G wr).status = .failed) (hamount : (G wr).amountUsd = wr.amountUsd) (hledger : s'.ledger = s.ledger) :
    Booked s' r := by
  obtain ⟨hkind, hcut, hbooks, huncredited⟩ := books_of_running hl hf hlink hwr hopen hb
  refine .returned (failFunded f) (by rw [hfunded, Table.get_update_self hf]) hkind
    ⟨w, G wr, hlink, by rw [hwithdrawals, Table.get_update_self hwr], hamount.trans hcut, hfailed⟩ ⟨?_, ?_⟩
    fun i row h => ?_
  · rw [movements_reversal hentries, hbooks.entries, if_pos rfl]
    rfl
  · rw [shares, hrevenue]
    exact hbooks.revenue
  · rw [Credits, hledger] at h
    exact huncredited i row h

lemma credited_posted {l : WalletLedger PayoutNote} (hledger : s'.ledger = l) (huncredited : Uncredited s r)
    (h : Posted s.ledger l .fundedPayout f.traderCut.units f.user (some (.fundedSim r))) : Credited s' r f := by
  obtain ⟨row, hinsert, htype, hamount, hnote, v, hv, huser⟩ := h.row
  refine ⟨s.ledger.transactions.next, row, v, ⟨?_, hnote⟩, htype, hamount, hledger ▸ hv, huser, fun j row' hrow' => ?_⟩
  · rw [hledger, hinsert, Table.get_insert_next]
  · obtain ⟨hget, hsim⟩ := hrow'
    rw [hledger, hinsert] at hget
    rcases Table.get_insert_some hget with hget | ⟨hj, -⟩
    · exact (huncredited j row' ⟨hget, hsim⟩).elim
    · exact hj

end Actors

section Steps

lemma shares_fees {revenue : Table BrokerLedger} (hrevenue : s'.revenue = revenue)
    (h : revenue = s.revenue ∨ ∃ w amount, revenue = bookRevenue s.revenue (.withdrawFee w) amount) :
    shares s' r = shares s r := by
  rcases h with rfl | ⟨w, amount, rfl⟩
  · rw [shares, hrevenue, shares]
  · exact shares_fee hrevenue r

lemma booked_effect (hl : Linked Mirrored s) (e : Effect p s s') (hb : Booked s r) : Booked s' r := by
  have hbeside : Beside s s' r → Booked s' r := fun h => booked_beside hl h hb
  have hkeep : Carried s.ledger s.ledger := Carried.refl _
  cases e with
  | quiet | resolved | read =>
    exact hbeside (beside_still rfl (fun _ _ _ _ => rfl) rfl rfl hkeep fun _ _ h => h)
  | wallet l carried rows =>
    refine hbeside (beside_still rfl (fun _ _ _ _ => rfl) rfl rfl carried fun i row h => ?_)
    obtain ⟨hget, hnote⟩ := h
    rcases rows i row hget with hold | ⟨text, htext⟩
    · exact ⟨hold, hnote⟩
    · rw [htext] at hnote
      cases hnote
  | claimed w wr wr' a submissions found pending =>
    exact hbeside (beside_still rfl (fun f w' hf hlink => Table.get_update_ne _
      (not_linked_of_retail hl ⟨wr, found, Or.inl pending⟩ r f w' hf hlink) _) rfl rfl hkeep fun _ _ h => h)
  | applied submissions handlers reconciliations happlied advances =>
    cases happlied with
    | same => exact hbeside (beside_still rfl (fun _ _ _ _ => rfl) rfl rfl hkeep fun _ _ h => h)
    | moved k a a' wr wr' revenue found request synced unpaid fees =>
      exact hbeside (beside_still rfl (fun f w' hf hlink => Table.get_update_ne _
        (not_linked_of_retail hl ⟨wr, request, Or.inr ⟨k, a, found, rfl⟩⟩ r f w' hf hlink) _) rfl
        (shares_fees rfl fees) hkeep fun _ _ h => h)
    | refunded k a a' wr wr' l reason found request synced failed posted =>
      exact hbeside (beside_still rfl (fun f w' hf hlink => Table.get_update_ne _
        (not_linked_of_retail hl ⟨wr, request, Or.inr ⟨k, a, found, rfl⟩⟩ r f w' hf hlink) _) rfl rfl
        posted.carried (credits_posted rfl posted nofun))
  | legacy i e' w wr event n l handlers matched found posted advances =>
    have hsame : ∀ f w', s.fundedPayouts.get r = some f → f.withdrawalRequest = some w' → w' ≠ w := by
      rintro f w' hf hlink rfl
      exact hl.legacy i e' w' r f matched hf hlink
    refine hbeside (beside_still rfl (fun f w' hf hlink => Table.get_update_ne _ (hsame f w' hf hlink) _) rfl rfl ?_ ?_)
    · rcases posted with rfl | ⟨reference, posted⟩
      · exact hkeep
      · exact posted.carried
    · rcases posted with rfl | ⟨reference, posted⟩
      · exact fun _ _ h => h
      · exact credits_posted rfl posted nofun
  | fundedMarked w j wr f event n handlers called idle advances =>
    obtain ⟨wr', hwr', -, -, hmirrored⟩ := hl.links j f w called.request called.link
    obtain rfl : wr = wr' := Option.some.inj (called.found.symm.trans hwr')
    have hactive := hmirrored.1 called.running
    rcases idle with hterminal | rfl
    · rw [hactive] at hterminal
      cases hterminal
    · exact hbeside (beside_updated (F := fun f => f) (j := j) (Table.update_id _ _).symm (fun _ => rfl) (fun _ _ _ => rfl)
        (withdrawal_stepped rfl called.found rfl called.running rfl) rfl rfl rfl)
  | fundedCompleted w j wr f account event revenue handlers called active owner advances share =>
    by_cases hr : j = r
    · subst hr
      exact booked_completed hl called hb rfl rfl share rfl rfl owner
    · exact hbeside (beside_still (Table.get_update_ne _ (Ne.symm hr) _)
        (fun g w' hg hlink => withdrawals_update hl called.request called.link _ r g w' (Ne.symm hr) hg hlink)
        rfl (shares_book_other hr share) hkeep fun _ _ h => h)
  | fundedFailed w j wr f account restored event entries handlers called active owner amount advances entry =>
    obtain ⟨payoutId, reason, hentry⟩ := entry
    by_cases hr : j = r
    · subst hr
      exact booked_returned hl called.request called.link called.found called.running hb rfl hentry rfl rfl rfl rfl rfl
    · refine hbeside (beside_still (Table.get_update_ne _ (Ne.symm hr) _)
        (fun g w' hg hlink => withdrawals_update hl called.request called.link _ r g w' (Ne.symm hr) hg hlink)
        ?_ rfl hkeep fun _ _ h => h)
      rw [movements_reversal hentry, if_neg hr, List.append_nil]
  | simApproved j f f' account balance l entries revenue request pending owner amount terms posted kind entry share =>
    by_cases hr : j = r
    · subst hr
      obtain ⟨hbooks, huncredited⟩ := books_of_pending hl request pending hb
      have hcredited : Credited { s with ledger := l } j f := credited_posted rfl huncredited posted
      have hunlinked := unlinked_of_pending hl request pending
      refine .credited f' (Table.get_update_self request _) ?_ ?_ (by rw [terms]) ⟨?_, ?_⟩ ?_
      · rw [terms]
        exact kind
      · rw [terms]
        exact hunlinked
      · refine (movements_payout entry j).trans ?_
        rw [if_pos rfl, hbooks.entries, terms]
        rfl
      · refine (shares_book share hbooks.revenue).trans ?_
        rw [terms]
      · obtain ⟨i, row, v, hrow, htype, hcut, hv, huser, hunique⟩ := hcredited
        refine ⟨i, row, v, hrow, htype, ?_, hv, ?_, hunique⟩
        · rw [terms]
          exact hcut
        · rw [terms]
          exact huser
    · refine hbeside (beside_still (Table.get_update_ne _ (Ne.symm hr) _) (fun _ _ _ _ => rfl) ?_
        (shares_book_other hr share) posted.carried (credits_posted rfl posted ?_))
      · rw [movements_payout entry, if_neg hr, List.append_nil]
      · rintro ⟨⟩
        exact hr rfl
  | internalApproved j adminUser f f' account balance entries request pending owner amount terms kind entry =>
    by_cases hr : j = r
    · subst hr
      obtain ⟨hbooks, huncredited⟩ := books_of_pending hl request pending hb
      refine .underway f' (Table.get_update_self request _) ?_ ?_ ⟨?_, hbooks.revenue⟩ huncredited
      · rw [terms]
        exact kind
      · rw [terms]
        exact ⟨s.withdrawals.next, internalWithdrawal f adminUser, rfl, Table.get_insert_next _ _, rfl, rfl⟩
      · refine (movements_payout entry j).trans ?_
        rw [if_pos rfl, hbooks.entries, terms]
        rfl
    · refine hbeside (beside_still (Table.get_update_ne _ (Ne.symm hr) _) (fun g w hg hlink => ?_) ?_ rfl hkeep
        fun _ _ h => h)
      · obtain ⟨wr, hwr, -⟩ := hl.links r g w hg hlink
        rw [hwr]
        exact Table.get_insert_of_get hwr _
      · rw [movements_payout entry, if_neg hr, List.append_nil]
  | reversed i x account restored entries found claimed owner amount entry =>
    obtain ⟨⟨wr, hwr, happroved, -⟩, -⟩ := hl.unrecorded i x found (by rw [claimed]; rfl)
    obtain ⟨f, hf, hlink, haccount, hcut⟩ := hl.opened i x found
    obtain ⟨payoutId, reason, hentry⟩ := entry
    by_cases hr : x.request = r
    · subst hr
      rw [← haccount, ← hcut] at hentry
      exact booked_returned (G := fun wr => { wr with status := .failed }) hl hf hlink hwr (by rw [happroved]; rfl) hb
        rfl hentry rfl rfl rfl rfl rfl
    · refine hbeside (beside_still (Table.get_update_ne _ (Ne.symm hr) _)
        (fun g w' hg hlink' => withdrawals_update hl hf hlink _ r g w' (Ne.symm hr) hg hlink')
        ?_ rfl hkeep fun _ _ h => h)
      rw [movements_reversal hentry, if_neg hr, List.append_nil]
  | noted i x stage note found progress =>
    exact hbeside (beside_updated (F := fun f => { f with adminNote := note f }) (j := x.request) rfl (fun _ => rfl)
      (fun _ _ _ => rfl) (fun v vr hvr => ⟨vr, hvr, rfl, Or.inl rfl⟩) rfl rfl rfl)
  | recorded i x batchId payoutId raw cryptoAmount found accepted =>
    obtain ⟨⟨wr, hwr, happroved, -⟩, -⟩ := hl.unrecorded i x found (by rw [accepted]; rfl)
    exact hbeside (beside_updated (F := fun f => f) (j := x.request) (Table.update_id _ _).symm (fun _ => rfl)
      (fun _ _ _ => rfl) (withdrawal_stepped rfl hwr rfl (by rw [happroved]; rfl) rfl) rfl rfl rfl)
  | requested i x f batchId payoutId found recorded request single recorder =>
    obtain ⟨g, hg, hlink, -⟩ := hl.opened i x found
    refine hbeside (beside_updated (F := fun f => { f with status := .processing }) (j := x.request) rfl (fun _ => rfl)
      (fun f hf hnone => ?_) (fun v vr hvr => ⟨vr, hvr, rfl, Or.inl rfl⟩) rfl rfl rfl)
    obtain rfl : g = f := Option.some.inj (hg.symm.trans hf)
    rw [hlink] at hnone
    cases hnone
  | created d draft f found single creator enrollment account profit cut split link pending =>
    by_cases hr : r = s.fundedPayouts.next
    · subst hr
      refine hbeside
        { request := fun g hg => by rw [Table.get_next] at hg; cases hg
          absent := fun _ f' hf' => ?_
          withdrawal := fun g w wr hg => by rw [Table.get_next] at hg; cases hg
          movements := rfl
          shares := rfl
          carried := hkeep
          credits := fun _ _ h => h }
      obtain rfl : f = f' := Option.some.inj ((Table.get_insert_next _ _).symm.trans hf')
      exact pending
    · exact hbeside (beside_still (by rw [Table.get_insert, if_neg hr]) (fun _ _ _ _ => rfl) rfl rfl hkeep
        fun _ _ h => h)
  | traded k account balance entries owner trader entry =>
    obtain ⟨e, hentry, -, hinfo, -⟩ := entry
    exact hbeside (beside_still rfl (fun _ _ _ _ => rfl) (movements_other hentry hinfo r) rfl hkeep fun _ _ h => h)

end Steps

section Balances

def isFunded (e : LedgerEntry) : Bool := (requestOf e).isSome

def accountTotal (s : Platform) (k : ℕ) (counts : LedgerEntry → Bool) : ℤ :=
  s.entries.total fun _ e => if e.account = k ∧ counts e = true then e.amount.units else 0

def fundedTotal (s : Platform) (k : ℕ) : ℤ := accountTotal s k isFunded

def tradedTotal (s : Platform) (k : ℕ) : ℤ := accountTotal s k fun e => !isFunded e

/-- The balance has moved by what the entries say, and only trades of the account add to the second sum. -/
structure Accounted (trades : Prop) (s s' : Platform) (k : ℕ) : Prop where
  balance : ∀ account, s.accounts.get k = some account → ∃ account', s'.accounts.get k = some account' ∧
    account'.balance.units - account.balance.units =
      (fundedTotal s' k - fundedTotal s k) + (tradedTotal s' k - tradedTotal s k)
  traded : ¬ trades → tradedTotal s' k = tradedTotal s k

variable {trades trades' : Prop} {s'' : Platform} {k : ℕ}

lemma Accounted.trans (h : Accounted trades s s' k) (h' : Accounted trades' s' s'' k) :
    Accounted (trades ∨ trades') s s'' k := by
  constructor
  · intro account haccount
    obtain ⟨account', haccount', hmoved⟩ := h.balance account haccount
    obtain ⟨account'', haccount'', hmoved'⟩ := h'.balance account' haccount'
    exact ⟨account'', haccount'', by linarith⟩
  · intro hnone
    rw [not_or] at hnone
    rw [h'.traded hnone.2, h.traded hnone.1]

lemma accounted_same (hentries : s'.entries = s.entries)
    (hbalance : ∀ account, s.accounts.get k = some account →
      ∃ account', s'.accounts.get k = some account' ∧ account'.balance = account.balance) :
    Accounted trades s s' k := by
  have hsums : fundedTotal s' k = fundedTotal s k ∧ tradedTotal s' k = tradedTotal s k := by
    simp only [fundedTotal, tradedTotal, accountTotal, hentries, and_self]
  constructor
  · intro account haccount
    obtain ⟨account', haccount', heq⟩ := hbalance account haccount
    refine ⟨account', haccount', ?_⟩
    rw [heq, hsums.1, hsums.2]
    ring
  · exact fun _ => hsums.2

lemma accountTotal_insert {e : LedgerEntry} (h : s'.entries = s.entries.insert e) (counts : LedgerEntry → Bool) :
    accountTotal s' k counts =
      accountTotal s k counts + if e.account = k ∧ counts e = true then e.amount.units else 0 := by
  rw [accountTotal, h, Table.total_insert, accountTotal]

lemma accounted_entry {e : LedgerEntry} {account : TradingAccount} {G : TradingAccount → TradingAccount}
    (hentries : s'.entries = s.entries.insert e) (howner : s.accounts.get e.account = some account)
    (haccounts : s'.accounts = s.accounts.update e.account G)
    (hamount : (G account).balance.units = account.balance.units + e.amount.units)
    (htrades : isFunded e = false → e.account = k → trades) : Accounted trades s s' k := by
  have hfunded := accountTotal_insert (k := k) hentries isFunded
  have htraded := accountTotal_insert (k := k) hentries fun e => !isFunded e
  by_cases hk : e.account = k
  · subst hk
    constructor
    · intro account' haccount'
      obtain rfl : account = account' := Option.some.inj (howner.symm.trans haccount')
      refine ⟨G account, by rw [haccounts, Table.get_update_self howner], ?_⟩
      rw [fundedTotal, fundedTotal, tradedTotal, tradedTotal, hfunded, htraded, hamount]
      cases isFunded e <;> simp
    · intro hnone
      have hcounts : isFunded e = true := by
        by_contra hnot
        exact hnone (htrades (by simpa using hnot) rfl)
      rw [tradedTotal, htraded, hcounts]
      simp [tradedTotal]
  · rw [if_neg (fun h => hk h.1), add_zero] at hfunded htraded
    constructor
    · intro account' haccount'
      refine ⟨account', by rw [haccounts, Table.get_update_ne _ (Ne.symm hk), haccount'], ?_⟩
      rw [fundedTotal, fundedTotal, tradedTotal, tradedTotal, hfunded, htraded]
      ring
    · exact fun _ => htraded

lemma isFunded_payout {balance : Balance} {internal : Bool} : isFunded (payoutEntry r f balance internal) = true := rfl

lemma isFunded_reversal {account : ℕ} {cut restored : Balance} {payoutId : Option String} {reason : String} :
    isFunded (reversalEntry r account cut restored payoutId reason) = true := rfl

lemma accounted_effect (e : Effect p s s') (k : ℕ) : Accounted (∃ n, p (.trade k n)) s s' k := by
  have hstill : ∀ {t : Platform}, t.entries = s.entries → t.accounts = s.accounts →
      Accounted (∃ n, p (.trade k n)) s t k := fun hentries haccounts =>
    accounted_same hentries fun account haccount => ⟨account, by rw [haccounts, haccount], rfl⟩
  cases e with
  | applied submissions handlers reconciliations happlied advances =>
    cases happlied <;> exact hstill rfl rfl
  | fundedCompleted w r wr f account event revenue handlers called active owner advances share =>
    refine accounted_same rfl fun account' haccount' => ?_
    by_cases hk : k = f.fundedAccount
    · subst hk
      obtain rfl : account = account' := Option.some.inj (owner.symm.trans haccount')
      exact ⟨_, Table.get_update_self owner _, rfl⟩
    · exact ⟨account', (Table.get_update_ne _ hk _).trans haccount', rfl⟩
  | fundedFailed w r wr f account restored event entries handlers called active owner amount advances entry =>
    obtain ⟨payoutId, reason, hentry⟩ := entry
    exact accounted_entry hentry owner rfl amount fun h => (Bool.noConfusion (isFunded_reversal.symm.trans h))
  | simApproved r f f' account balance l entries revenue request pending owner amount terms posted kind entry share =>
    exact accounted_entry entry owner rfl (amount.trans (sub_eq_add_neg _ _)) fun h =>
      (Bool.noConfusion (isFunded_payout.symm.trans h))
  | internalApproved r adminUser f f' account balance entries request pending owner amount terms kind entry =>
    exact accounted_entry entry owner rfl (amount.trans (sub_eq_add_neg _ _)) fun h =>
      (Bool.noConfusion (isFunded_payout.symm.trans h))
  | reversed i x account restored entries found claimed owner amount entry =>
    obtain ⟨payoutId, reason, hentry⟩ := entry
    exact accounted_entry hentry owner rfl amount fun h => (Bool.noConfusion (isFunded_reversal.symm.trans h))
  | traded j account balance entries owner trader entry =>
    obtain ⟨e, hentry, rfl, -, hamount⟩ := entry
    refine accounted_entry hentry owner rfl hamount fun _ hk => ?_
    rw [← hk]
    exact trader
  | _ => exact hstill rfl rfl

lemma accounted_run (s : Platform) (acts : List Action) (k : ℕ) :
    Accounted (∃ n, .trade k n ∈ acts) s (run step s acts) k := by
  induction acts generalizing s with
  | nil => exact accounted_same rfl fun account haccount => ⟨account, haccount, rfl⟩
  | cons a acts ih =>
    have hstep : Accounted (∃ n, Action.trade k n = a) s (step s a) k :=
      accounted_effect (step_effect (p := fun b => b = a) s a rfl) k
    obtain ⟨hbalance, htraded⟩ := hstep.trans (ih (step s a))
    refine ⟨hbalance, fun hnone => htraded ?_⟩
    rintro (⟨n, rfl⟩ | ⟨n, hn⟩)
    · exact hnone ⟨n, List.mem_cons_self⟩
    · exact hnone ⟨n, List.mem_cons_of_mem _ hn⟩

end Balances

section Runs

/-- Nothing in the books names the request yet. -/
structure Unbooked (s : Platform) (r : ℕ) : Prop where
  pending : ∀ f, s.fundedPayouts.get r = some f → f.status = .pending
  entries : movements s r = []
  revenue : shares s r = []
  wallet : Uncredited s r

/-- What the trader was paid: the wallet row of a simulated payout, the withdrawal of an internal one. -/
def Paid (s : Platform) (r : ℕ) (f : FundedPayoutRequest) : Prop :=
  match f.fundedType with
  | .sim => Credited s r f
  | .internal => Carries s f (fun status => status = .completed) ∧ Uncredited s r

structure Balanced (s : Platform) (r : ℕ) (f : FundedPayoutRequest) : Prop where
  completed : f.status = .completed →
    movements s r = [debit f] ∧ shares s r = share f.brokerCut ∧ Paid s r f
  failed : f.status = .failed →
    movements s r = [debit f, restoration f] ∧ shares s r = [] ∧ Uncredited s r

lemma mirrored_of_carries {q : WithdrawalStatus → Prop} (hl : Linked Mirrored s) (hf : s.fundedPayouts.get r = some f)
    (hc : Carries s f q) : ∃ st, q st ∧ Mirrored f.status st := by
  obtain ⟨w, wr, hlink, hwr, -, hq⟩ := hc
  obtain ⟨wr', hwr', -, -, hmirrored⟩ := hl.links r f w hf hlink
  obtain rfl : wr = wr' := Option.some.inj (hwr.symm.trans hwr')
  exact ⟨wr.status, hq, hmirrored⟩

lemma balanced_of_booked (hl : Linked Mirrored s) (hb : Booked s r) (hf : s.fundedPayouts.get r = some f) :
    Balanced s r f := by
  cases hb with
  | pending waits books uncredited =>
    have hpending := waits f hf
    refine ⟨fun h => ?_, fun h => ?_⟩ <;>
    · rw [hpending] at h
      cases h
  | underway g found kind carries books uncredited =>
    obtain rfl : f = g := Option.some.inj (hf.symm.trans found)
    obtain ⟨st, hopen, hopens, -⟩ := mirrored_of_carries hl hf carries
    have hactive := hopens hopen
    refine ⟨fun h => ?_, fun h => ?_⟩ <;>
    · rw [h] at hactive
      cases hactive
  | returned g found kind carries books uncredited =>
    obtain rfl : f = g := Option.some.inj (hf.symm.trans found)
    obtain ⟨st, rfl, -, hcompleted, -⟩ := mirrored_of_carries hl hf carries
    refine ⟨fun h => ?_, fun _ => ⟨books.entries, books.revenue, uncredited⟩⟩
    cases hcompleted h
  | sent g found kind carries books uncredited =>
    obtain rfl : f = g := Option.some.inj (hf.symm.trans found)
    obtain ⟨st, rfl, -, -, hfailed⟩ := mirrored_of_carries hl hf carries
    refine ⟨fun _ => ⟨books.entries, books.revenue, ?_⟩, fun h => ?_⟩
    · rw [Paid, kind]
      exact ⟨carries, uncredited⟩
    · cases hfailed h
  | credited g found kind unlinked completed books credited =>
    obtain rfl : f = g := Option.some.inj (hf.symm.trans found)
    refine ⟨fun _ => ⟨books.entries, books.revenue, ?_⟩, fun h => ?_⟩
    · rw [Paid, kind]
      exact credited
    · rw [completed] at h
      cases h

lemma booked_step (s : Platform) (action : Action) (h : Sound s ∧ Linked Mirrored s ∧ Booked s r) :
    Sound (step s action) ∧ Linked Mirrored (step s action) ∧ Booked (step s action) r := by
  have e : Effect (fun _ => True) s (step s action) := step_effect s action trivial
  obtain ⟨hsound, hlater⟩ := sound_effect h.1 e
  exact ⟨hsound, linked_effect compatible_mirrored h.1 h.2.1 e hlater
    fun _ _ _ _ _ _ _ _ _ _ _ hst => mirrored_processing hst, booked_effect h.2.1 e h.2.2⟩

/-- Whatever order the steps come in, a completed payout has taken the trader's cut once from the account and
the broker's cut has been booked once; a failed one has put the cut back. The account moves by its entries. -/
theorem funded_books_balance (s : Platform) (h : Opening s)
    (hfunded : ∀ r f, s.fundedPayouts.get r = some f → f.withdrawalRequest = none) (acts : List Action) :
    (∀ r f, Unbooked s r → (run step s acts).fundedPayouts.get r = some f → Balanced (run step s acts) r f) ∧
    ∀ k, Accounted (∃ n, .trade k n ∈ acts) s (run step s acts) k := by
  refine ⟨fun r f hopen hf => ?_, accounted_run s acts⟩
  have hstart : Booked s r := .pending hopen.pending ⟨hopen.entries, hopen.revenue⟩ hopen.wallet
  obtain ⟨-, hl, hb⟩ := run_invariant (fun s a h => booked_step s a h)
    ⟨opening_sound h, linked_opening h hfunded, hstart⟩ acts
  exact balanced_of_booked hl hb hf

def finishedPayout : Platform :=
  run step (fundedDesk .internal) (accepted ++ .recordRequest 0 :: finishedEvent)

def simulatedPayout : Platform :=
  run step (fundedDesk .sim) [.readFundedPayout 3 0 visit, .createFundedPayout 0, .approveSimPayout 0 1]

theorem funded_books_balance_finished : ∃ f, finishedPayout.fundedPayouts.get 0 = some f ∧ f.status = .completed ∧
    movements finishedPayout 0 = [debit f] ∧ shares finishedPayout 0 = share f.brokerCut := by
  obtain ⟨f, hf, hstatus⟩ : ∃ f, finishedPayout.fundedPayouts.get 0 = some f ∧ f.status = .completed := by
    decide +kernel
  have hunbooked : Unbooked (fundedDesk .internal) 0 :=
    { pending := by rintro f ⟨⟩
      entries := rfl
      revenue := rfl
      wallet := by rintro i row ⟨⟨⟩, -⟩ }
  obtain ⟨hmovements, hshares, -⟩ := ((funded_books_balance (fundedDesk .internal) (fundedDesk_opening .internal)
    (fun r f h => by cases h) (accepted ++ .recordRequest 0 :: finishedEvent)).1 0 f hunbooked hf).completed hstatus
  exact ⟨f, hf, hstatus, hmovements, hshares⟩

/-- The broker's cut never leaves the account: 800.00 are debited where the two cuts are 1000.00. -/
theorem broker_cut_stays :
    (simulatedPayout.fundedPayouts.get 0).map (fun f => (f.status, f.traderCut.units + f.brokerCut.units)) =
      some (.completed, 100000) ∧
    (simulatedPayout.accounts.get 0).map (fun account => fundedAccount.balance.units - account.balance.units) =
      some 80000 := by
  decide +kernel

end Runs

end TrxSimulator.Funded.Conservation
