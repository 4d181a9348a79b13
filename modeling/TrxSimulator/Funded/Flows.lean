import TrxSimulator.Funded.Links

/-! What a step does to the balance of a funded account and to the payouts that are under way for it. -/

namespace TrxSimulator.Funded.Flows

open Foundations.Runs Foundations.Tables Foundations.Outcomes Foundations.Decimals Money Accounts
open Wallets.Ledger Payouts.Records Payouts.StateMachine Payouts.Orchestrator Funded.Payouts Payouts.Machine
open Payouts.Effects Payouts.Safety Links

def running (s : Platform) (w : ℕ) : Bool := (s.withdrawals.get w).any fun wr => !wr.status.terminal

/-- The cut has left the account and the provider has not decided. -/
def inFlight (s : Platform) (f : FundedPayoutRequest) : Bool := f.withdrawalRequest.any (running s)

def Payable (s : Platform) (f : FundedPayoutRequest) : Prop := f.status = .pending ∨ inFlight s f = true

structure SameTerms (f f' : FundedPayoutRequest) : Prop where
  enrollment : f'.enrollment = f.enrollment
  account : f'.fundedAccount = f.fundedAccount
  traderCut : f'.traderCut = f.traderCut
  cycleProfit : f'.cycleProfit = f.cycleProfit
  split : f'.profitSplitPct = f.profitSplitPct

structure Follows (s s' : Platform) (f f' : FundedPayoutRequest) : Prop where
  terms : SameTerms f f'
  flight : inFlight s' f' = inFlight s f
  pending : f'.status = .pending → f.status = .pending
  completed : f'.status = .completed → f.status = .completed

def Stays (s s' : Platform) (r : ℕ) : Prop :=
  (s.fundedPayouts.get r = none ∧ s'.fundedPayouts.get r = none) ∨
    ∃ f f', s.fundedPayouts.get r = some f ∧ s'.fundedPayouts.get r = some f' ∧ Follows s s' f f'

def outstanding (s : Platform) (f : FundedPayoutRequest) : ℤ := if inFlight s f then f.traderCut.units else 0

inductive Flow (p : Action → Prop) (s s' : Platform) : Prop
  | level (accounts : s'.accounts = s.accounts) (next : s'.fundedPayouts.next = s.fundedPayouts.next)
      (stays : ∀ r, Stays s s' r)
  | traded (j : ℕ) (account : TradingAccount) (balance : Balance) (owner : s.accounts.get j = some account)
      (accounts : s'.accounts = s.accounts.update j (setBalance balance))
      (next : s'.fundedPayouts.next = s.fundedPayouts.next) (stays : ∀ r, Stays s s' r)
      (trader : ∃ profit, p (.trade j profit))
  | moved (r : ℕ) (f f' : FundedPayoutRequest) (account : TradingAccount) (balance : Balance)
      (found : s.fundedPayouts.get r = some f) (found' : s'.fundedPayouts.get r = some f')
      (terms : SameTerms f f') (owner : s.accounts.get f.fundedAccount = some account)
      (accounts : s'.accounts = s.accounts.update f.fundedAccount (setBalance balance))
      (amount : balance.units + outstanding s' f' = account.balance.units + outstanding s f)
      (payable : Payable s f) (pending : f'.status ≠ .pending) (completed : f'.status ≠ .completed)
      (next : s'.fundedPayouts.next = s.fundedPayouts.next) (stays : ∀ j, j ≠ r → Stays s s' j)
  | closed (r : ℕ) (f f' : FundedPayoutRequest) (account' : TradingAccount)
      (found : s.fundedPayouts.get r = some f) (found' : s'.fundedPayouts.get r = some f')
      (terms : SameTerms f f') (payable : Payable s f) (active : f.status.terminal = false)
      (flight : inFlight s' f' = false) (completed : f'.status = .completed)
      (others : ∀ k, k ≠ f.fundedAccount → s'.accounts.get k = s.accounts.get k)
      (reset : s'.accounts.get f.fundedAccount = some account')
      (base : account'.initialBalance = some account'.balance)
      (next : s'.fundedPayouts.next = s.fundedPayouts.next) (stays : ∀ j, j ≠ r → Stays s s' j)
  | created (d : ℕ) (draft : Draft) (f : FundedPayoutRequest) (found : s.drafts.get d = some (some draft))
      (single : otherActive s draft.enrollment s.fundedPayouts.next = false) (creator : p (.createFundedPayout d))
      (enrollment : f.enrollment = draft.enrollment) (account : f.fundedAccount = draft.fundedAccount)
      (profit : f.cycleProfit.units = draft.cycleProfit) (cut : f.traderCut.units = draft.traderCut)
      (split : f.profitSplitPct = draft.fundedConfig.profitSplitPct) (link : f.withdrawalRequest = none)
      (pending : f.status = .pending) (accounts : s'.accounts = s.accounts)
      (fundedPayouts : s'.fundedPayouts = s.fundedPayouts.insert f) (withdrawals : s'.withdrawals = s.withdrawals)

def Weakly (f : FundedStatus) (w : WithdrawalStatus) : Prop := w.terminal = false → f.terminal = false

lemma compatible_weakly : Compatible Weakly where
  approved _ := rfl
  recorded _ := rfl
  completed h := by cases h
  failed h := by cases h
  running _ _ h hw := h hw
  marked _ _ _ hf _ := hf

variable {p : Action → Prop} {s s' : Platform} {r w : ℕ} {f f' : FundedPayoutRequest}

lemma SameTerms.refl (f : FundedPayoutRequest) : SameTerms f f := ⟨rfl, rfl, rfl, rfl, rfl⟩

lemma running_update {G : WithdrawalRequest → WithdrawalRequest} {v : ℕ}
    (hwithdrawals : s'.withdrawals = s.withdrawals.update v G)
    (hG : ∀ wr, s.withdrawals.get v = some wr → (G wr).status.terminal = wr.status.terminal) (w : ℕ) :
    running s' w = running s w := by
  rw [running, running, hwithdrawals, Table.get_update]
  split
  · next hw =>
    subst hw
    cases hwr : s.withdrawals.get w with
    | none => rfl
    | some wr => simp [hG wr hwr]
  · rfl

lemma running_update_ne {G : WithdrawalRequest → WithdrawalRequest} {v : ℕ}
    (hwithdrawals : s'.withdrawals = s.withdrawals.update v G) (hw : w ≠ v) : running s' w = running s w := by
  rw [running, running, hwithdrawals, Table.get_update_ne _ hw]

lemma running_self {wr : WithdrawalRequest} (hwr : s.withdrawals.get w = some wr) :
    running s w = !wr.status.terminal := by
  rw [running, hwr, Option.any_some]

lemma inFlight_of_link (hlink : f.withdrawalRequest = some w) : inFlight s f = running s w := by
  rw [inFlight, hlink, Option.any_some]

lemma inFlight_of_none (hlink : f.withdrawalRequest = none) : inFlight s f = false := by
  rw [inFlight, hlink, Option.any_none]

lemma inFlight_congr (hlink : f'.withdrawalRequest = f.withdrawalRequest)
    (h : ∀ w, f.withdrawalRequest = some w → running s' w = running s w) : inFlight s' f' = inFlight s f := by
  rw [inFlight, inFlight, hlink]
  cases hf : f.withdrawalRequest with
  | none => rfl
  | some w => exact h w hf

lemma stays_of_get (hget : s'.fundedPayouts.get r = s.fundedPayouts.get r)
    (h : ∀ f w, s.fundedPayouts.get r = some f → f.withdrawalRequest = some w → running s' w = running s w) :
    Stays s s' r := by
  cases hf : s.fundedPayouts.get r with
  | none => exact Or.inl ⟨hf, hget.trans hf⟩
  | some f =>
    exact Or.inr ⟨f, f, hf, hget.trans hf,
      ⟨SameTerms.refl f, inFlight_congr rfl fun w hw => h f w hf hw, id, id⟩⟩

lemma stays_of_update {F : FundedPayoutRequest → FundedPayoutRequest} (j : ℕ)
    (hfunded : s'.fundedPayouts = s.fundedPayouts.update j F) (hF : ∀ f, terms (F f) = terms f)
    (hstatus : ∀ f, s.fundedPayouts.get j = some f →
      ((F f).status = .pending → f.status = .pending) ∧ ((F f).status = .completed → f.status = .completed))
    (hrunning : ∀ w, running s' w = running s w) (r : ℕ) : Stays s s' r := by
  by_cases hr : r = j
  · subst hr
    cases hf : s.fundedPayouts.get r with
    | none => exact Or.inl ⟨hf, by rw [hfunded, Table.get_update, if_pos rfl, hf, Option.map_none]⟩
    | some f =>
      obtain ⟨hlink, haccount, hcut, henrollment, hprofit, hsplit⟩ := terms_inj (hF f)
      obtain ⟨hpending, hcompleted⟩ := hstatus f hf
      exact Or.inr ⟨f, F f, hf, by rw [hfunded, Table.get_update_self hf],
        ⟨⟨henrollment, haccount, hcut, hprofit, hsplit⟩, inFlight_congr hlink fun w _ => hrunning w,
          hpending, hcompleted⟩⟩
  · refine stays_of_get ?_ fun _ w _ _ => hrunning w
    rw [hfunded, Table.get_update_ne _ hr]

section Effects

lemma stays_others {R : FundedStatus → WithdrawalStatus → Prop} {F : FundedPayoutRequest → FundedPayoutRequest}
    {G : WithdrawalRequest → WithdrawalRequest} (h : Linked R s)
    (hf : s.fundedPayouts.get r = some f) (hlink : f.withdrawalRequest = some w)
    (hfunded : s'.fundedPayouts = s.fundedPayouts.update r F)
    (hwithdrawals : s'.withdrawals = s.withdrawals.update w G) (j : ℕ) (hj : j ≠ r) : Stays s s' j := by
  refine stays_of_get (by rw [hfunded, Table.get_update_ne _ hj]) fun g w' hg hw => ?_
  refine running_update_ne hwithdrawals ?_
  rintro rfl
  exact hj (h.single j r g f w' hg hf hw hlink)

lemma running_beside {R : FundedStatus → WithdrawalStatus → Prop} {wr : WithdrawalRequest}
    (h : Linked R s) (hretail : Retail s w) (hwithdrawals : s'.withdrawals = s.withdrawals.update w fun _ => wr)
    (r : ℕ) (f : FundedPayoutRequest) (w' : ℕ) (hf : s.fundedPayouts.get r = some f)
    (hlink : f.withdrawalRequest = some w') : running s' w' = running s w' :=
  running_update_ne hwithdrawals (not_linked_of_retail h hretail r f w' hf hlink)

lemma returned_flow {wr : WithdrawalRequest} {G : WithdrawalRequest → WithdrawalRequest} {account : TradingAccount}
    {restored : Balance} (h : Linked Weakly s) (hf : s.fundedPayouts.get r = some f)
    (hlink : f.withdrawalRequest = some w) (hwr : s.withdrawals.get w = some wr)
    (hopen : wr.status.terminal = false) (hG : (G wr).status.terminal = true)
    (howner : s.accounts.get f.fundedAccount = some account)
    (hamount : restored.units = account.balance.units + f.traderCut.units)
    (hfunded : s'.fundedPayouts = s.fundedPayouts.update r failFunded)
    (hwithdrawals : s'.withdrawals = s.withdrawals.update w G)
    (haccounts : s'.accounts = s.accounts.update f.fundedAccount (setBalance restored)) : Flow p s s' := by
  have hbefore : inFlight s f = true := by rw [inFlight_of_link hlink, running_self hwr, hopen]; rfl
  have hfailed : s'.withdrawals.get w = some (G wr) := by rw [hwithdrawals, Table.get_update_self hwr]
  have hafter : inFlight s' (failFunded f) = false := by
    rw [inFlight_of_link (f := failFunded f) hlink, running_self hfailed, hG]
    rfl
  refine .moved r f (failFunded f) account restored hf (by rw [hfunded, Table.get_update_self hf])
    ⟨rfl, rfl, rfl, rfl, rfl⟩ howner haccounts ?_ (Or.inr hbefore) nofun nofun
    (by rw [hfunded, Table.next_update]) (stays_others h hf hlink hfunded hwithdrawals)
  rw [outstanding, outstanding, hbefore, hafter, if_pos rfl, if_neg (by decide), hamount, add_zero]

lemma effect_flow (h : Linked Weakly s) (e : Effect p s s') : Flow p s s' := by
  cases e with
  | quiet | resolved | read | wallet =>
    exact .level rfl rfl fun r => stays_of_get rfl fun _ _ _ _ => rfl
  | claimed w wr wr' a submissions found pending =>
    exact .level rfl rfl fun r => stays_of_get rfl
      (running_beside h ⟨wr, found, Or.inl pending⟩ rfl r)
  | applied submissions handlers reconciliations happlied advances =>
    cases happlied with
    | same => exact .level rfl rfl fun r => stays_of_get rfl fun _ _ _ _ => rfl
    | moved k a a' wr wr' revenue found request synced unpaid =>
      exact .level rfl rfl fun r => stays_of_get rfl
        (running_beside h ⟨wr, request, Or.inr ⟨k, a, found, rfl⟩⟩ rfl r)
    | refunded k a a' wr wr' l reason found request synced failed posted =>
      exact .level rfl rfl fun r => stays_of_get rfl
        (running_beside h ⟨wr, request, Or.inr ⟨k, a, found, rfl⟩⟩ rfl r)
  | legacy i e' w wr event n l handlers matched found posted advances =>
    refine .level rfl rfl fun r => stays_of_get rfl fun f w' hf hlink => running_update_ne rfl ?_
    rintro rfl
    exact h.legacy i e' w' r f matched hf hlink
  | fundedMarked w r wr f event n handlers called idle advances =>
    obtain ⟨wr', hwr', -, -, hweak⟩ := h.links r f w called.request called.link
    obtain rfl : wr = wr' := Option.some.inj (called.found.symm.trans hwr')
    have hactive := hweak called.running
    rcases idle with hterminal | rfl
    · rw [hactive] at hterminal
      cases hterminal
    · refine .level rfl rfl fun j => stays_of_get rfl fun _ w' _ _ => running_update rfl (fun v hv => ?_) w'
      obtain rfl : wr = v := Option.some.inj (called.found.symm.trans hv)
      rw [called.running]
      rfl
  | fundedCompleted w r wr f account event revenue handlers called active owner advances =>
    have hbefore : inFlight s f = true := by
      rw [inFlight_of_link called.link, running_self called.found, called.running]
      rfl
    refine .closed r f (completeFunded f) { account with initialBalance := some account.balance } called.request
      (Table.get_update_self called.request _) ⟨rfl, rfl, rfl, rfl, rfl⟩ (Or.inr hbefore) active ?_ rfl
      (fun k hk => Table.get_update_ne _ hk _) (Table.get_update_self owner _) rfl rfl
      (stays_others h called.request called.link rfl rfl)
    rw [inFlight_of_link (f := completeFunded f) called.link,
      running_self (Table.get_update_self called.found (markWebhook event .completed))]
    rfl
  | fundedFailed w r wr f account restored event entries handlers called active owner amount advances =>
    exact returned_flow h called.request called.link called.found called.running rfl owner amount rfl rfl rfl
  | simApproved r f f' account balance l entries revenue request pending owner amount terms posted =>
    have hlink := unlinked_of_pending h request pending
    refine .closed r f f' { setBalance balance account with initialBalance := some balance } request
      (Table.get_update_self request _) ?_ (Or.inl pending) (by rw [pending]; rfl)
      (inFlight_of_none (by rw [terms]; exact hlink)) (by rw [terms])
      (fun k hk => Table.get_update_ne _ hk _) (Table.get_update_self owner _) rfl rfl fun j hj =>
        stays_of_get (Table.get_update_ne _ hj _) fun _ _ _ _ => rfl
    rw [terms]
    exact ⟨rfl, rfl, rfl, rfl, rfl⟩
  | internalApproved r adminUser f f' account balance entries request pending owner amount terms =>
    have hbefore : inFlight s f = false := inFlight_of_none (unlinked_of_pending h request pending)
    have hlink : f'.withdrawalRequest = some s.withdrawals.next := by rw [terms]
    refine .moved r f f' account balance request (Table.get_update_self request _) ?_ owner rfl ?_ (Or.inl pending)
      (by rw [terms]; nofun) (by rw [terms]; nofun) rfl fun j hj =>
        stays_of_get (Table.get_update_ne _ hj _) fun g w hg hw => ?_
    · rw [terms]
      exact ⟨rfl, rfl, rfl, rfl, rfl⟩
    · have hcut : f'.traderCut = f.traderCut := by rw [terms]
      rw [outstanding, outstanding, hbefore, if_neg Bool.false_ne_true, inFlight_of_link hlink,
        running_self (Table.get_insert_next _ _),
        show (!(internalWithdrawal f adminUser).status.terminal) = true from rfl, if_pos rfl, hcut, amount]
      omega
    · obtain ⟨wr, hwr, -⟩ := h.links j g w hg hw
      rw [running, running, Table.get_insert_of_get hwr, hwr]
  | reversed i x account restored entries found claimed owner amount =>
    obtain ⟨⟨wr, hwr, happroved, -⟩, -⟩ := h.unrecorded i x found (by rw [claimed]; rfl)
    obtain ⟨f, hf, hlink, haccount, hcut⟩ := h.opened i x found
    rw [← haccount] at owner
    rw [← hcut] at amount
    exact returned_flow (G := fun wr => { wr with status := .failed }) h hf hlink hwr (by rw [happroved]; rfl) rfl
      owner amount rfl rfl (by rw [haccount])
  | noted i x stage note found progress =>
    exact .level rfl rfl (stays_of_update x.request rfl (fun _ => rfl) (fun _ _ => ⟨id, id⟩) fun _ => rfl)
  | recorded i x batchId payoutId raw cryptoAmount found accepted =>
    obtain ⟨⟨wr, hwr, happroved, -⟩, -⟩ := h.unrecorded i x found (by rw [accepted]; rfl)
    refine .level rfl rfl fun j => stays_of_get rfl fun _ w' _ _ => running_update rfl (fun v hv => ?_) w'
    obtain rfl : wr = v := Option.some.inj (hwr.symm.trans hv)
    rw [happroved]
    rfl
  | requested i x f batchId payoutId found recorded request single recorder =>
    exact .level rfl rfl (stays_of_update (F := fun f => { f with status := .processing }) x.request rfl
      (fun _ => rfl) (fun _ _ => ⟨nofun, nofun⟩) fun _ => rfl)
  | created d draft f found single creator enrollment account profit cut split link pending =>
    exact .created d draft f found single creator enrollment account profit cut split link pending rfl rfl rfl
  | traded k account balance entries owner trader =>
    exact .traded k account balance owner rfl rfl (fun r => stays_of_get rfl fun _ _ _ _ => rfl) trader

end Effects

end TrxSimulator.Funded.Flows
