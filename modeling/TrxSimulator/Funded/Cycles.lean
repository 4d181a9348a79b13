import TrxSimulator.Funded.Flows
import TrxSimulator.Funded.Agreement

/-! Profit cycles of funded accounts. A watch runs beside the platform and notes, for each account, the
profit realised since its last paid payout and the highest it has been, and for each paid payout what its
cycle had earned. -/

namespace TrxSimulator.Funded.Cycles

open Foundations.Runs Foundations.Tables Foundations.Outcomes Foundations.Decimals Money Accounts
open Wallets.Ledger Payouts.Records Payouts.StateMachine Payouts.Orchestrator Funded.Payouts Payouts.Machine
open Payouts.Effects Payouts.Safety Links Flows Agreement

structure Paid where
  request : ℕ
  account : ℕ
  cycle : ℕ
  traderCut : ℤ
  splitPct : Numeric 5 2
  earned : ℤ
deriving DecidableEq

structure Watch where
  platform : Platform
  gain : ℕ → ℤ
  high : ℕ → ℤ
  cycle : ℕ → ℕ
  readIn : ℕ → ℕ
  paid : List Paid

def balanceOf (s : Platform) (k : ℕ) : ℤ := (s.accounts.get k).elim 0 fun a => a.balance.units

def completions (s s' : Platform) : List (ℕ × FundedPayoutRequest) :=
  s'.fundedPayouts.rows.filter fun r =>
    r.2.status = .completed ∧ (s.fundedPayouts.get r.1).any (fun f => f.status = .completed) = false

def closes (s s' : Platform) (k : ℕ) : Bool := (completions s s').any fun r => r.2.fundedAccount = k

def realized (s s' : Platform) (k : ℕ) : Action → ℤ
  | .trade j _ => if j = k then balanceOf s' k - balanceOf s k else 0
  | _ => 0

def payment (o : Watch) (r : ℕ × FundedPayoutRequest) : Paid where
  request := r.1
  account := r.2.fundedAccount
  cycle := o.cycle r.2.fundedAccount
  traderCut := r.2.traderCut.units
  splitPct := r.2.profitSplitPct
  earned := o.high r.2.fundedAccount

def readCycle (o : Watch) (s' : Platform) (d : ℕ) : ℕ :=
  match o.platform.drafts.get d, s'.drafts.get d with
  | none, some (some draft) => o.cycle draft.fundedAccount
  | _, _ => o.readIn d

def observe (o : Watch) (s' : Platform) (action : Action) : Watch where
  platform := s'
  gain k := if closes o.platform s' k then 0 else o.gain k + realized o.platform s' k action
  high k := if closes o.platform s' k then 0
    else max (o.high k) (o.gain k + realized o.platform s' k action)
  cycle k := if closes o.platform s' k then o.cycle k + 1 else o.cycle k
  readIn := readCycle o s'
  paid := o.paid ++ (completions o.platform s').map (payment o)

def watch (o : Watch) (action : Action) : Watch := observe o (step o.platform action) action

def start (s : Platform) : Watch where
  platform := s
  gain k := (s.accounts.get k).elim 0 fun a => a.balance.units - (cycleBase a).units
  high k := (s.accounts.get k).elim 0 fun a => cycleProfit a
  cycle _ := 0
  readIn _ := 0
  paid := []

def paidIn (o : Watch) (k n : ℕ) : List Paid := o.paid.filter fun c => c.account = k ∧ c.cycle = n

/-- A request is inserted in the cycle in which its profit was read, or for no more than the running
cycle has reached, or is refused. -/
def Current (o : Watch) : Action → Prop
  | .createFundedPayout d => ∀ draft ∈ (o.platform.drafts.get d).join,
      o.readIn d = o.cycle draft.fundedAccount ∨ draft.cycleProfit ≤ o.high draft.fundedAccount ∨
        otherActive o.platform draft.enrollment o.platform.fundedPayouts.next = true
  | _ => True

instance decidableCurrent (o : Watch) : ∀ a, Decidable (Current o a)
  | .createFundedPayout _ => inferInstanceAs (Decidable (∀ _ ∈ _, _))
  | .previewWithdrawal _ _ | .claimSubmission _ _ | .finishSubmission _ _ | .receiveEvent _ _ _ _
  | .resolveEvent _ | .processWebhookEvent _ | .scanAttempt _ _ | .finishReconciliation _ _
  | .approveSimPayout _ _ | .approveInternalPayout _ _ | .submitInternal _ _ | .recordWithdrawal _
  | .recordRequest _ | .readFundedPayout _ _ _ | .trade _ _ | .credit _ _ _ _ | .debit _ _ _ _
  | .openWallet _ | .wait _ => inferInstanceAs (Decidable True)

section Splits

lemma traderCut_mono {profit profit' : ℤ} {split : Numeric 5 2} (hsplit : 0 ≤ split.units)
    (h : profit ≤ profit') : traderCut profit split ≤ traderCut profit' split := by
  have hvalue : 0 ≤ split.value := by
    rw [Numeric.value, scaled]
    positivity
  refine roundHalfEven_mono ?_
  have hscaled : scaled 2 profit ≤ scaled 2 profit' := scaled_le.mpr h
  gcongr

lemma traderCut_nonneg {profit : ℤ} {split : Numeric 5 2} (hsplit : 0 ≤ split.units) (h : 0 ≤ profit) :
    0 ≤ traderCut profit split := by
  have hzero : traderCut 0 split = 0 := by
    rw [traderCut, quantize, scaled]
    norm_num
    exact roundHalfEven_intCast 0
  exact hzero ▸ traderCut_mono hsplit h

end Splits

section Debits

/-- What the payouts under way have taken out of the account. -/
def debit (s : Platform) (k : ℕ) : ℤ :=
  s.fundedPayouts.total fun _ f => if f.fundedAccount = k then outstanding s f else 0

variable {p : Action → Prop} {s s' : Platform} {r k : ℕ} {f f' : FundedPayoutRequest}

lemma outstanding_follows (h : Follows s s' f f') : outstanding s' f' = outstanding s f := by
  rw [outstanding, outstanding, h.flight, h.terms.traderCut]

lemma due_stays (h : Stays s s' r) (k : ℕ) :
    (s'.fundedPayouts.get r).elim 0 (fun f => if f.fundedAccount = k then outstanding s' f else 0) =
      (s.fundedPayouts.get r).elim 0 (fun f => if f.fundedAccount = k then outstanding s f else 0) := by
  rcases h with ⟨hf, hf'⟩ | ⟨f, f', hf, hf', hfollows⟩
  · rw [hf, hf']
    rfl
  · rw [hf, hf', Option.elim_some, Option.elim_some, outstanding_follows hfollows, hfollows.terms.account]

lemma debit_level (h : ∀ r, Stays s s' r) (k : ℕ) :
    debit s' k = debit s k :=
  Table.total_ext fun r => due_stays (h r) k

lemma debit_move (hf : s.fundedPayouts.get r = some f) (hf' : s'.fundedPayouts.get r = some f')
    (hterms : SameTerms f f') (hnext : s'.fundedPayouts.next = s.fundedPayouts.next)
    (h : ∀ j, j ≠ r → Stays s s' j) (k : ℕ) :
    debit s' k + (if f.fundedAccount = k then outstanding s f else 0) =
      debit s k + if f.fundedAccount = k then outstanding s' f' else 0 := by
  have hmove := Table.total_move (i := r) hnext fun j hj => due_stays (h j hj) k
  rw [hf, hf', Option.elim_some, Option.elim_some, hterms.account] at hmove
  exact hmove

lemma outstanding_nonneg (h : 0 ≤ f.traderCut.units) : 0 ≤ outstanding s f := by
  rw [outstanding]
  split
  · exact h
  · exact le_rfl

end Debits

section Completions

variable {p : Action → Prop} {s s' : Platform} {r k : ℕ} {f f' : FundedPayoutRequest}

lemma mem_completions : (r, f') ∈ completions s s' ↔ s'.fundedPayouts.get r = some f' ∧
    f'.status = .completed ∧ ∀ f, s.fundedPayouts.get r = some f → f.status ≠ .completed := by
  simp only [completions, List.mem_filter, Table.mem_rows, decide_eq_true_eq]
  refine and_congr_right fun _ => and_congr_right fun _ => ?_
  cases hf : s.fundedPayouts.get r with
  | none => simp
  | some f => simp

lemma mem_completions_of_active (hf : s.fundedPayouts.get r = some f) (hactive : f.status.terminal = false)
    (hf' : s'.fundedPayouts.get r = some f') (hcompleted : f'.status = .completed) : (r, f') ∈ completions s s' := by
  refine mem_completions.mpr ⟨hf', hcompleted, fun g hg hstatus => ?_⟩
  obtain rfl : f = g := Option.some.inj (hf.symm.trans hg)
  rw [hstatus] at hactive
  cases hactive

lemma closes_iff : closes s s' k = true ↔ ∃ r f', (r, f') ∈ completions s s' ∧ f'.fundedAccount = k := by
  simp only [closes, List.any_eq_true, Prod.exists, decide_eq_true_eq]

lemma not_completed_stays (h : Stays s s' r) : (r, f') ∉ completions s s' := by
  rw [mem_completions]
  rintro ⟨hf', hcompleted, hnot⟩
  rcases h with ⟨-, hnone⟩ | ⟨f, g, hf, hg, hfollows⟩
  · rw [hnone] at hf'
    cases hf'
  · obtain rfl : g = f' := Option.some.inj (hg.symm.trans hf')
    exact hnot f hf (hfollows.completed hcompleted)

lemma closes_false (h : completions s s' = []) (k : ℕ) : closes s s' k = false := by
  rw [closes, h, List.any_nil]

lemma completions_eq_nil (h : ∀ r f', (r, f') ∉ completions s s') : completions s s' = [] :=
  List.eq_nil_iff_forall_not_mem.mpr fun x => h x.1 x.2

lemma completions_eq_single (hmem : (r, f') ∈ completions s s') (honly : ∀ j g, (j, g) ∈ completions s s' → j = r) :
    completions s s' = [(r, f')] := by
  have hall : ∀ x ∈ completions s s', x = (r, f') := by
    rintro ⟨j, g⟩ hx
    obtain rfl := honly j g hx
    rw [Option.some.inj ((mem_completions.mp hx).1.symm.trans (mem_completions.mp hmem).1)]
  have hnodup : (completions s s').Nodup := Table.rows_nodup.filter _
  rw [List.eq_replicate_of_mem hall] at hnodup hmem ⊢
  have hle := List.nodup_replicate.mp hnodup
  have hpos := (List.mem_replicate.mp hmem).1
  obtain hone : (completions s s').length = 1 := by omega
  rw [hone, List.replicate_one]

structure Closing (s s' : Platform) (r : ℕ) (f f' : FundedPayoutRequest) : Prop where
  only : completions s s' = [(r, f')]
  found : s.fundedPayouts.get r = some f
  found' : s'.fundedPayouts.get r = some f'
  terms : SameTerms f f'
  payable : Payable s f
  settled : ¬ Payable s' f'
  reset : ∃ account', s'.accounts.get f.fundedAccount = some account' ∧ account'.initialBalance = some account'.balance
  stays : ∀ j, j ≠ r → Stays s s' j

lemma flow_completions (fl : Flow p s s') :
    completions s s' = [] ∨ ∃ r f f', Closing s s' r f f' := by
  cases fl with
  | level accounts next stays => exact Or.inl (completions_eq_nil fun r f' => not_completed_stays (stays r))
  | traded j account balance owner accounts next stays trader =>
    exact Or.inl (completions_eq_nil fun r f' => not_completed_stays (stays r))
  | moved r f f' account balance found found' terms owner accounts amount payable pending completed next stays =>
    refine Or.inl (completions_eq_nil fun j g hmem => ?_)
    by_cases hj : j = r
    · subst hj
      obtain ⟨hg, hcompleted, -⟩ := mem_completions.mp hmem
      obtain rfl : f' = g := Option.some.inj (found'.symm.trans hg)
      exact completed hcompleted
    · exact not_completed_stays (stays j hj) hmem
  | created d draft f found single creator enrollment account profit cut split link pending accounts
      fundedPayouts withdrawals =>
    refine Or.inl (completions_eq_nil fun j g hmem => ?_)
    obtain ⟨hg, hcompleted, hnot⟩ := mem_completions.mp hmem
    rw [fundedPayouts] at hg
    rcases Table.get_insert_some hg with hg | ⟨-, rfl⟩
    · exact hnot g hg hcompleted
    · rw [pending] at hcompleted
      cases hcompleted
  | closed r f f' account' found found' terms payable active flight completed others reset base next stays =>
    have hmem := mem_completions_of_active found active found' completed
    have honly : ∀ j g, (j, g) ∈ completions s s' → j = r := by
      intro j g hg
      by_contra hj
      exact not_completed_stays (stays j hj) hg
    have hsettled : ¬ Payable s' f' := by
      rintro (hpending | hflight)
      · rw [completed] at hpending
        cases hpending
      · rw [flight] at hflight
        cases hflight
    exact Or.inr ⟨r, f, f', completions_eq_single hmem honly, found, found', terms, payable, hsettled,
      ⟨account', reset, base⟩, stays⟩

end Completions

section Requests

variable {p : Action → Prop} {s s' : Platform} {r : ℕ} {f' : FundedPayoutRequest}

lemma payable_follows {f : FundedPayoutRequest} (h : Follows s s' f f') (hp : Payable s' f') : Payable s f := by
  rcases hp with hpending | hflight
  · exact Or.inl (h.pending hpending)
  · exact Or.inr (h.flight ▸ hflight)

lemma flow_requests (fl : Flow p s s') (hf' : s'.fundedPayouts.get r = some f') :
    (∃ f, s.fundedPayouts.get r = some f ∧ SameTerms f f' ∧ (Payable s' f' → Payable s f)) ∨
    s.fundedPayouts.get r = none ∧ ∃ d draft, s.drafts.get d = some (some draft) ∧ p (.createFundedPayout d) ∧
      otherActive s draft.enrollment s.fundedPayouts.next = false ∧
      f'.enrollment = draft.enrollment ∧ f'.fundedAccount = draft.fundedAccount ∧
      f'.cycleProfit.units = draft.cycleProfit ∧ f'.traderCut.units = draft.traderCut ∧
      f'.profitSplitPct = draft.fundedConfig.profitSplitPct := by
  have hstays : Stays s s' r → ∃ f, s.fundedPayouts.get r = some f ∧ SameTerms f f' ∧
      (Payable s' f' → Payable s f) := by
    rintro (⟨-, hnone⟩ | ⟨f, g, hf, hg, hfollows⟩)
    · rw [hnone] at hf'
      cases hf'
    · obtain rfl : g = f' := Option.some.inj (hg.symm.trans hf')
      exact ⟨f, hf, hfollows.terms, payable_follows hfollows⟩
  cases fl with
  | level accounts next stays => exact Or.inl (hstays (stays r))
  | traded j account balance owner accounts next stays trader => exact Or.inl (hstays (stays r))
  | moved j f g account balance found found' terms owner accounts amount payable pending completed next stays =>
    by_cases hr : r = j
    · subst hr
      obtain rfl : g = f' := Option.some.inj (found'.symm.trans hf')
      exact Or.inl ⟨f, found, terms, fun _ => payable⟩
    · exact Or.inl (hstays (stays r hr))
  | closed j f g account' found found' terms payable active flight completed others reset base next stays =>
    by_cases hr : r = j
    · subst hr
      obtain rfl : g = f' := Option.some.inj (found'.symm.trans hf')
      exact Or.inl ⟨f, found, terms, fun _ => payable⟩
    · exact Or.inl (hstays (stays r hr))
  | created d draft f found single creator enrollment account profit cut split link pending accounts
      fundedPayouts withdrawals =>
    rw [fundedPayouts] at hf'
    rcases Table.get_insert_some hf' with hf' | ⟨rfl, rfl⟩
    · refine Or.inl ⟨f', hf', SameTerms.refl f', fun hp => hp.imp id fun hflight => ?_⟩
      rw [inFlight_congr rfl] at hflight
      · exact hflight
      · intro w _
        rw [running, running, withdrawals]
    · exact Or.inr ⟨Table.get_next _, d, draft, found, creator, single, enrollment, account, profit, cut, split⟩

def SingleActive (s : Platform) : Prop :=
  ∀ r r' f g, s.fundedPayouts.get r = some f → s.fundedPayouts.get r' = some g → f.status.terminal = false →
    g.status.terminal = false → f.enrollment = g.enrollment → r = r'

lemma otherActive_false {enrollment request : ℕ} (h : otherActive s enrollment request = false)
    {f : FundedPayoutRequest} (hf : s.fundedPayouts.get r = some f) (hr : r ≠ request)
    (henrollment : f.enrollment = enrollment) :
    f.status.terminal = true := by
  rw [otherActive, List.any_eq_false] at h
  have hrow := h (r, f) (Table.mem_rows.mpr hf)
  simp only [decide_eq_true_eq] at hrow
  by_contra hterminal
  exact hrow ⟨hr, henrollment, by simpa using hterminal⟩

lemma singleActive_update {j : ℕ} {F : FundedPayoutRequest → FundedPayoutRequest} (h : SingleActive s)
    (hfunded : s'.fundedPayouts = s.fundedPayouts.update j F)
    (hF : ∀ f, s.fundedPayouts.get j = some f → (F f).enrollment = f.enrollment ∧
      ((F f).status.terminal = false → f.status.terminal = false ∨ otherActive s f.enrollment j = false)) :
    SingleActive s' := by
  have hcase : ∀ r f', s'.fundedPayouts.get r = some f' → f'.status.terminal = false →
      ∃ f, s.fundedPayouts.get r = some f ∧ f'.enrollment = f.enrollment ∧
        (f.status.terminal = false ∨ (r = j ∧ otherActive s f.enrollment j = false)) := by
    intro r f' hf' hactive
    rw [hfunded] at hf'
    obtain ⟨f, hf, rfl⟩ := Table.get_update_some hf'
    by_cases hr : r = j
    · subst hr
      rw [if_pos rfl] at hactive ⊢
      obtain ⟨henrollment, hopen⟩ := hF f hf
      exact ⟨f, hf, henrollment, (hopen hactive).imp id fun h => ⟨rfl, h⟩⟩
    · rw [if_neg hr] at hactive ⊢
      exact ⟨f, hf, rfl, Or.inl hactive⟩
  intro r r' f' g' hf' hg' hf hg henrollment
  obtain ⟨f, hfget, hfe, hfopen⟩ := hcase r f' hf' hf
  obtain ⟨g, hgget, hge, hgopen⟩ := hcase r' g' hg' hg
  have hsame : f.enrollment = g.enrollment := by rw [← hfe, ← hge, henrollment]
  by_contra hne
  rcases hfopen with hfopen | ⟨rfl, hother⟩
  · rcases hgopen with hgopen | ⟨rfl, hother⟩
    · exact hne (h r r' f g hfget hgget hfopen hgopen hsame)
    · rw [otherActive_false hother hfget hne hsame] at hfopen
      cases hfopen
  · rcases hgopen with hgopen | ⟨rfl, -⟩
    · rw [otherActive_false hother hgget (Ne.symm hne) hsame.symm] at hgopen
      cases hgopen
    · exact hne rfl

lemma singleActive_effect (h : SingleActive s) (e : Effect p s s') : SingleActive s' := by
  cases e with
  | fundedCompleted w r wr f account event revenue handlers called active owner advances =>
    exact singleActive_update (F := completeFunded) h rfl fun f _ => ⟨rfl, nofun⟩
  | fundedFailed w r wr f account restored event entries handlers called active owner amount advances =>
    exact singleActive_update (F := failFunded) h rfl fun f _ => ⟨rfl, nofun⟩
  | simApproved r f f' account balance l entries revenue request pending owner amount terms posted =>
    refine singleActive_update h rfl fun g hg => ?_
    obtain rfl : f = g := Option.some.inj (request.symm.trans hg)
    exact ⟨by rw [terms], fun _ => Or.inl (by rw [pending]; rfl)⟩
  | internalApproved r adminUser f f' account balance entries request pending owner amount terms =>
    refine singleActive_update h rfl fun g hg => ?_
    obtain rfl : f = g := Option.some.inj (request.symm.trans hg)
    exact ⟨by rw [terms], fun _ => Or.inl (by rw [pending]; rfl)⟩
  | reversed i x account restored entries found claimed owner amount =>
    exact singleActive_update (F := failFunded) h rfl fun f _ => ⟨rfl, nofun⟩
  | noted i x stage note found progress =>
    exact singleActive_update (F := fun f => { f with adminNote := note f }) h rfl fun f _ => ⟨rfl, Or.inl⟩
  | requested i x f batchId payoutId found recorded request single recorder =>
    refine singleActive_update (F := fun f => { f with status := .processing }) h rfl fun g hg => ⟨rfl, fun _ => ?_⟩
    obtain rfl : f = g := Option.some.inj (request.symm.trans hg)
    exact Or.inr single
  | created d draft f found single creator enrollment account profit cut split link pending =>
    intro r r' g g' hg hg' hopen hopen' hsame
    rcases Table.get_insert_some hg with hold | ⟨hr, rfl⟩
    · rcases Table.get_insert_some hg' with hold' | ⟨-, rfl⟩
      · exact h r r' g g' hold hold' hopen hopen' hsame
      · rw [otherActive_false single hold (Table.ne_next_of_get hold) (hsame.trans enrollment)] at hopen
        cases hopen
    · rcases Table.get_insert_some hg' with hold' | ⟨hr', -⟩
      · rw [otherActive_false single hold' (Table.ne_next_of_get hold') (hsame.symm.trans enrollment)] at hopen'
        cases hopen'
      · rw [hr, hr']
  | applied submissions handlers reconciliations happlied advances => cases happlied <;> exact h
  | _ => exact h

end Requests

section Books

structure Terms (s : Platform) (enrollment account : ℕ) (profit cut : ℤ) (split : Numeric 5 2) : Prop where
  enrolled : ∃ e, s.enrollments.get enrollment = some e ∧ e.fundedAccount = some account
  profit_nonneg : 0 ≤ profit
  split_nonneg : 0 ≤ split.units
  cut_eq : cut = traderCut profit split

structure Books (s : Platform) : Prop where
  sound : Sound s
  linked : Linked Weakly s
  single : SingleActive s
  distinct : ∀ i j e e' k, s.enrollments.get i = some e → s.enrollments.get j = some e' →
    e.fundedAccount = some k → e'.fundedAccount = some k → i = j
  splits : ∀ i e config, s.enrollments.get i = some e → e.fundedConfig = some config → 0 ≤ config.profitSplitPct.units
  drafts : ∀ d draft, s.drafts.get d = some (some draft) → Terms s draft.enrollment draft.fundedAccount
    draft.cycleProfit draft.traderCut draft.fundedConfig.profitSplitPct
  requests : ∀ r f, s.fundedPayouts.get r = some f → Terms s f.enrollment f.fundedAccount
    f.cycleProfit.units f.traderCut.units f.profitSplitPct

variable {p : Action → Prop} {s s' : Platform} {r k : ℕ} {f f' : FundedPayoutRequest}

lemma effect_enrollments (e : Effect p s s') : s'.enrollments = s.enrollments := by
  cases e with
  | applied _ _ _ happlied _ => cases happlied <;> rfl
  | _ => rfl

lemma effect_drafts_cases (e : Effect p s s') {d : ℕ} {draft : Draft} (hd : s'.drafts.get d = some (some draft)) :
    s.drafts.get d = some (some draft) ∨ (s.drafts.get d = none ∧ s'.fundedPayouts = s.fundedPayouts ∧
      ∃ user enrollment k x account config visit, s.enrollments.get enrollment = some x ∧
        x.fundedAccount = some k ∧ x.fundedConfig = some config ∧ s.accounts.get k = some account ∧
        draft = newDraft user enrollment k account config visit) := by
  cases e with
  | quiet submissions events handlers reconciliations drafts now providers advances kept =>
    exact Or.inl (kept d draft hd)
  | read user enrollment k x account config visit enrolled owns configured owner =>
    rcases Table.get_insert_some hd with hd | ⟨rfl, heq⟩
    · exact Or.inl hd
    · cases heq
      exact Or.inr ⟨Table.get_next _, rfl, user, enrollment, k, x, account, config, visit, enrolled, owns,
        configured, owner, rfl⟩
  | created j draft' f found =>
    obtain ⟨x, hx, heq⟩ := Table.get_update_some hd
    split at heq
    · cases heq
    · exact Or.inl (heq ▸ hx)
  | applied _ _ _ happlied _ => cases happlied <;> exact Or.inl hd
  | _ => exact Or.inl hd

lemma Terms.congr {enrollment account : ℕ} {profit cut : ℤ} {split : Numeric 5 2}
    (h : Terms s enrollment account profit cut split) (henrollments : s'.enrollments = s.enrollments) :
    Terms s' enrollment account profit cut split :=
  { h with enrolled := henrollments ▸ h.enrolled }

lemma cycleProfit_nonneg (account : TradingAccount) : 0 ≤ cycleProfit account := le_max_left _ _

lemma books_effect (h : Books s) (e : Effect p s s') : Books s' := by
  obtain ⟨hsound, hlater⟩ := sound_effect h.sound e
  have henrollments := effect_enrollments e
  refine
    { sound := hsound
      linked := linked_effect compatible_weakly h.sound h.linked e hlater fun _ _ _ _ _ _ _ _ _ _ _ _ _ => rfl
      single := singleActive_effect h.single e
      distinct := by rw [henrollments]; exact h.distinct
      splits := by rw [henrollments]; exact h.splits
      drafts := fun d draft hd => ?_
      requests := fun r f' hf' => ?_ }
  · rcases effect_drafts_cases e hd with hd | ⟨-, -, user, enrollment, k, x, account, config, visit, hx, hk,
      hconfig, -, rfl⟩
    · exact (h.drafts d draft hd).congr henrollments
    · exact ⟨henrollments ▸ ⟨x, hx, hk⟩, cycleProfit_nonneg account, h.splits _ x config hx hconfig, rfl⟩
  · rcases flow_requests (effect_flow h.linked e) hf' with ⟨f, hf, hterms, -⟩ |
      ⟨-, d, draft, hd, -, -, henrollment, haccount, hprofit, hcut, hsplit⟩
    · rw [hterms.enrollment, hterms.account, hterms.cycleProfit, hterms.traderCut, hterms.split]
      exact (h.requests r f hf).congr henrollments
    · rw [henrollment, haccount, hprofit, hcut, hsplit]
      exact (h.drafts d draft hd).congr henrollments

lemma active_of_payable (h : Books s) (hf : s.fundedPayouts.get r = some f) (hpayable : Payable s f) :
    f.status.terminal = false := by
  rcases hpayable with hpending | hflight
  · rw [hpending]
    rfl
  · cases hlink : f.withdrawalRequest with
    | none =>
      rw [inFlight_of_none hlink] at hflight
      cases hflight
    | some w =>
      obtain ⟨wr, hwr, -, -, hweak⟩ := h.linked.links r f w hf hlink
      rw [inFlight_of_link hlink, running_self hwr, Bool.not_eq_true'] at hflight
      exact hweak hflight

lemma payable_single (h : Books s) {j : ℕ} {g : FundedPayoutRequest} (hf : s.fundedPayouts.get r = some f)
    (hg : s.fundedPayouts.get j = some g) (hpayable : Payable s f) (hpayable' : Payable s g)
    (haccount : f.fundedAccount = g.fundedAccount) : r = j := by
  obtain ⟨x, hx, hxk⟩ := (h.requests r f hf).enrolled
  obtain ⟨y, hy, hyk⟩ := (h.requests j g hg).enrolled
  exact h.single r j f g hf hg (active_of_payable h hf hpayable) (active_of_payable h hg hpayable')
    (h.distinct _ _ x y _ hx hy hxk (haccount ▸ hyk))

lemma cut_nonneg (h : Books s) (hf : s.fundedPayouts.get r = some f) : 0 ≤ f.traderCut.units := by
  have hterms := h.requests r f hf
  rw [hterms.cut_eq]
  exact traderCut_nonneg hterms.split_nonneg hterms.profit_nonneg

lemma debit_nonneg (h : Books s) (k : ℕ) : 0 ≤ debit s k := by
  refine Table.total_nonneg fun r f hf => ?_
  split
  · exact outstanding_nonneg (cut_nonneg h hf)
  · exact le_rfl

lemma flow_closed (h : Books s) (fl : Flow p s s') (hk : closes s s' k = true) :
    (∃ a', s'.accounts.get k = some a' ∧ a'.initialBalance = some a'.balance) ∧
    (∀ r f', s'.fundedPayouts.get r = some f' → f'.fundedAccount = k → ¬ Payable s' f') ∧
    ∀ r f', (r, f') ∈ completions s s' → ∃ f, s.fundedPayouts.get r = some f ∧ SameTerms f f' ∧ Payable s f := by
  rcases flow_completions fl with hnil | ⟨j, f, g, hclosing⟩
  · rw [closes_false hnil] at hk
    cases hk
  obtain ⟨r, f', hmem, hfk⟩ := closes_iff.mp hk
  have honly : ∀ i q, (i, q) ∈ completions s s' → i = j ∧ q = g := by
    intro i q hq
    rw [hclosing.only, List.mem_singleton, Prod.mk.injEq] at hq
    exact hq
  obtain ⟨rfl, rfl⟩ := honly r f' hmem
  rw [hclosing.terms.account] at hfk
  subst hfk
  refine ⟨hclosing.reset, fun i q hq haccount hpayable => ?_, fun i q hq => ?_⟩
  · by_cases hi : i = r
    · subst hi
      obtain rfl : f' = q := Option.some.inj (hclosing.found'.symm.trans hq)
      exact hclosing.settled hpayable
    · rcases hclosing.stays i hi with ⟨-, hnone⟩ | ⟨q₀, q₁, hq₀, hq₁, hfollows⟩
      · rw [hnone] at hq
        cases hq
      · obtain rfl : q₁ = q := Option.some.inj (hq₁.symm.trans hq)
        exact hi (payable_single h hq₀ hclosing.found (payable_follows hfollows hpayable) hclosing.payable
          (hfollows.terms.account ▸ haccount))
  · obtain ⟨rfl, rfl⟩ := honly i q hq
    exact ⟨f, hclosing.found, hclosing.terms, hclosing.payable⟩

end Books

section Steps

variable {p : Action → Prop} {s s' : Platform} {k : ℕ} {o : Watch} {action : Action}

def Steady (s s' : Platform) (k : ℕ) (earned : ℤ) : Prop :=
  ∀ account', s'.accounts.get k = some account' → ∃ account, s.accounts.get k = some account ∧
    account'.initialBalance = account.initialBalance ∧
    account'.balance.units + debit s' k = account.balance.units + debit s k + earned

lemma steady_of_same (haccounts : s'.accounts.get k = s.accounts.get k) (hdebit : debit s' k = debit s k) :
    Steady s s' k 0 := by
  intro account h
  exact ⟨account, haccounts ▸ h, rfl, by rw [hdebit, add_zero]⟩

lemma flow_steady (fl : Flow p s s') (hno : ∀ j profit, ¬ p (.trade j profit)) (hk : closes s s' k = false) :
    Steady s s' k 0 := by
  cases fl with
  | level accounts _ stays => exact steady_of_same (by rw [accounts]) (debit_level stays k)
  | traded j account balance owner accounts next stays trader =>
    obtain ⟨profit, htrade⟩ := trader
    exact (hno j profit htrade).elim
  | moved r f f' account balance found found' terms owner accounts amount payable pending completed next stays =>
    have hdebit := debit_move found found' terms next stays k
    by_cases hj : f.fundedAccount = k
    · subst hj
      rw [if_pos rfl, if_pos rfl] at hdebit
      intro a ha
      rw [accounts, Table.get_update_self owner, Option.some.injEq] at ha
      subst ha
      refine ⟨account, owner, rfl, ?_⟩
      simp only [setBalance]
      omega
    · rw [if_neg hj, if_neg hj, add_zero, add_zero] at hdebit
      exact steady_of_same (by rw [accounts, Table.get_update_ne _ (Ne.symm hj)]) hdebit
  | closed r f f' account' found found' terms payable active flight completed others reset base next stays =>
    have hmem := mem_completions_of_active found active found' completed
    have hne : f.fundedAccount ≠ k := by
      rintro rfl
      rw [closes_iff.mpr ⟨r, f', hmem, terms.account⟩] at hk
      cases hk
    have hdebit := debit_move found found' terms next stays k
    rw [if_neg hne, if_neg hne, add_zero, add_zero] at hdebit
    exact steady_of_same (others k (Ne.symm hne)) hdebit
  | created d draft f found single creator enrollment account profit cut split link pending accounts
      fundedPayouts withdrawals =>
    refine steady_of_same (by rw [accounts]) ?_
    rw [debit, fundedPayouts, Table.total_insert, debit]
    have hnew : outstanding s' f = 0 := by rw [outstanding, inFlight_of_none link, if_neg Bool.false_ne_true]
    rw [hnew, ite_self, add_zero]
    refine Table.total_ext fun r => ?_
    cases s.fundedPayouts.get r with
    | none => rfl
    | some g =>
      have hflight : inFlight s' g = inFlight s g := inFlight_congr rfl fun w _ => by rw [running, running, withdrawals]
      simp only [Option.elim_some, outstanding, hflight]

lemma trade_steady (s : Platform) (j : ℕ) (profit : ℤ) (k : ℕ) :
    closes s (step s (.trade j profit)) k = false ∧
      Steady s (step s (.trade j profit)) k (realized s (step s (.trade j profit)) k (.trade j profit)) := by
  have hsame : ∀ s' : Platform, s'.fundedPayouts = s.fundedPayouts → s'.withdrawals = s.withdrawals →
      closes s s' k = false ∧ debit s' k = debit s k := by
    intro s' hfunded hwithdrawals
    have hstays : ∀ r, Stays s s' r := fun r =>
      stays_of_get (by rw [hfunded]) fun _ w _ _ => by rw [running, running, hwithdrawals]
    exact ⟨closes_false (completions_eq_nil fun r f' => not_completed_stays (hstays r)) k,
      debit_level hstays k⟩
  rw [step]
  refine commit_rule _ _ ?_ fun s' hok => ?_
  · refine ⟨(hsame s rfl rfl).1, ?_⟩
    rw [realized, sub_self, ite_self]
    exact steady_of_same rfl rfl
  · simp only [realizePnl, bind_eq_ok, lockAccount, require_eq_ok, pure_eq_ok] at hok
    obtain ⟨account, haccount, balance, -, amount, -, heq⟩ := hok
    have haccounts : s'.accounts = s.accounts.update j (setBalance balance) := by rw [← heq]
    obtain ⟨hcloses, hdebit⟩ := hsame s' (by rw [← heq]) (by rw [← heq])
    refine ⟨hcloses, fun a ha => ?_⟩
    rw [realized, hdebit]
    by_cases hk : j = k
    · subst hk
      rw [haccounts, Table.get_update_self haccount, Option.some.injEq] at ha
      subst ha
      refine ⟨account, haccount, rfl, ?_⟩
      rw [if_pos rfl, balanceOf, balanceOf, haccount, haccounts, Table.get_update_self haccount]
      simp only [setBalance, Option.elim_some]
      omega
    · rw [haccounts, Table.get_update_ne _ (Ne.symm hk)] at ha
      exact ⟨a, ha, rfl, by rw [if_neg hk, add_zero]⟩

structure Tracked (o : Watch) : Prop where
  books : Books o.platform
  reads : ∀ d draft, o.platform.drafts.get d = some (some draft) → o.readIn d ≤ o.cycle draft.fundedAccount ∧
    (o.readIn d = o.cycle draft.fundedAccount → draft.cycleProfit ≤ o.high draft.fundedAccount)
  high : ∀ k, 0 ≤ o.high k ∧ o.gain k ≤ o.high k
  base : ∀ k account i, o.platform.accounts.get k = some account → account.initialBalance = some i →
    i.units ≠ 0 → account.balance.units = i.units + o.gain k - debit o.platform k
  payable : ∀ r f, o.platform.fundedPayouts.get r = some f → Payable o.platform f →
    f.cycleProfit.units ≤ o.high f.fundedAccount
  paid : ∀ c ∈ o.paid, c.traderCut ≤ traderCut c.earned c.splitPct
  past : ∀ c ∈ o.paid, c.cycle < o.cycle c.account
  once : (o.paid.map fun c => (c.account, c.cycle)).Nodup
  listed : ∀ r f, o.platform.fundedPayouts.get r = some f → f.status = .completed →
    ∃ c ∈ o.paid, c.request = r ∧ c.account = f.fundedAccount ∧ c.traderCut = f.traderCut.units ∧
      c.splitPct = f.profitSplitPct

lemma cycleProfit_le_high (h : Tracked o) {account : TradingAccount}
    (haccount : o.platform.accounts.get k = some account) : cycleProfit account ≤ o.high k := by
  obtain ⟨hzero, hgain⟩ := h.high k
  rw [cycleProfit, cycleBase]
  refine max_le hzero ?_
  cases hinitial : account.initialBalance with
  | none => simpa using hzero
  | some i =>
    simp only
    split
    · simpa using hzero
    · next hi =>
      have hbase := h.base k account i haccount hinitial hi
      have hdebit := debit_nonneg h.books k
      omega

lemma high_le_observe (hk : closes o.platform s' k = false) : o.high k ≤ (observe o s' action).high k := by
  simp only [observe, hk, Bool.false_eq_true, if_false]
  exact le_max_left _ _

lemma observe_reads (h : Tracked o) (e : Effect p o.platform s') {d : ℕ} {draft : Draft}
    (hd : s'.drafts.get d = some (some draft)) :
    (observe o s' action).readIn d ≤ (observe o s' action).cycle draft.fundedAccount ∧
      ((observe o s' action).readIn d = (observe o s' action).cycle draft.fundedAccount →
        draft.cycleProfit ≤ (observe o s' action).high draft.fundedAccount) := by
  rcases effect_drafts_cases e hd with hold | ⟨hnone, hfunded, user, enrollment, k, x, account, config, visit, -,
    -, -, haccount, rfl⟩
  · have hread : (observe o s' action).readIn d = o.readIn d := by
      simp only [observe, readCycle, hold]
    obtain ⟨hle, hprofit⟩ := h.reads d draft hold
    rw [hread]
    cases hk : closes o.platform s' draft.fundedAccount with
    | true =>
      simp only [observe, hk, if_true]
      exact ⟨by omega, fun heq => by omega⟩
    | false =>
      refine ⟨by simpa only [observe, hk, Bool.false_eq_true, if_false] using hle, fun heq => ?_⟩
      simp only [observe, hk, Bool.false_eq_true, if_false] at heq
      exact (hprofit heq).trans (high_le_observe hk)
  · have hk : closes o.platform s' k = false := by
      refine closes_false (completions_eq_nil fun r f' hmem => ?_) k
      obtain ⟨hf', hcompleted, hnot⟩ := mem_completions.mp hmem
      rw [hfunded] at hf'
      exact hnot f' hf' hcompleted
    have hread : (observe o s' action).readIn d = o.cycle k := by
      simp only [observe, readCycle, hnone, hd, newDraft]
    rw [hread]
    simp only [newDraft]
    refine ⟨by simp only [observe, hk, Bool.false_eq_true, if_false, le_refl], fun _ => ?_⟩
    exact (cycleProfit_le_high h haccount).trans (high_le_observe hk)

lemma observe_base (h : Tracked o) (fl : Flow p o.platform s')
    (hsteady : ∀ k, closes o.platform s' k = false → Steady o.platform s' k (realized o.platform s' k action))
    {account' : TradingAccount} {i : Balance} (ha : s'.accounts.get k = some account')
    (hi : account'.initialBalance = some i) (hne : i.units ≠ 0) :
    account'.balance.units = i.units + (observe o s' action).gain k - debit s' k := by
  cases hk : closes o.platform s' k with
  | true =>
    obtain ⟨⟨a, haccount, hreset⟩, hfree, -⟩ := flow_closed h.books fl hk
    obtain rfl : a = account' := Option.some.inj (haccount.symm.trans ha)
    obtain rfl : a.balance = i := Option.some.inj (hreset.symm.trans hi)
    have hdebit : debit s' k = 0 := by
      refine Table.total_eq_zero fun r f hf => ?_
      split
      · next haccount =>
        have hflight : ¬ inFlight s' f = true := fun hflight => hfree r f hf haccount (Or.inr hflight)
        rw [outstanding, if_neg hflight]
      · rfl
    simp only [observe, hk, if_true, hdebit, add_zero, sub_zero]
  | false =>
    obtain ⟨account, haccount, hinitial, hamount⟩ := hsteady k hk account' ha
    have hbase := h.base k account i haccount (hinitial ▸ hi) hne
    simp only [observe, hk, Bool.false_eq_true, if_false]
    omega

lemma observe_payable (h : Tracked o) (fl : Flow p o.platform s')
    (hcurrent : ∀ d, p (.createFundedPayout d) → Current o (.createFundedPayout d)) {r : ℕ} {f' : FundedPayoutRequest}
    (hf' : s'.fundedPayouts.get r = some f') (hpayable : Payable s' f') :
    f'.cycleProfit.units ≤ (observe o s' action).high f'.fundedAccount := by
  have hopen : closes o.platform s' f'.fundedAccount = false := by
    rw [← Bool.not_eq_true]
    exact fun hk => (flow_closed h.books fl hk).2.1 r f' hf' rfl hpayable
  refine le_trans ?_ (high_le_observe hopen)
  rcases flow_requests fl hf' with ⟨f, hf, hterms, hback⟩ |
    ⟨-, d, draft, hd, hcreator, hsingle, -, haccount, hprofit, -⟩
  · rw [hterms.cycleProfit, hterms.account]
    exact h.payable r f hf (hback hpayable)
  · rw [haccount, hprofit]
    rcases hcurrent d hcreator draft (by rw [hd]; rfl) with hread | hle | hother
    · exact (h.reads d draft hd).2 hread
    · exact hle
    · rw [hsingle] at hother
      cases hother

/-- What a completion pays is at most the trader's part of what the cycle has earned. -/
lemma payment_le (h : Tracked o) (fl : Flow p o.platform s') {r : ℕ} {f' : FundedPayoutRequest}
    (hmem : (r, f') ∈ completions o.platform s') :
    (payment o (r, f')).traderCut ≤ traderCut (payment o (r, f')).earned (payment o (r, f')).splitPct := by
  have hk : closes o.platform s' f'.fundedAccount = true := closes_iff.mpr ⟨r, f', hmem, rfl⟩
  obtain ⟨f, hf, hterms, hpayable⟩ := (flow_closed h.books fl hk).2.2 r f' hmem
  have hterms' := h.books.requests r f hf
  simp only [payment, hterms.traderCut, hterms.split, hterms.account, hterms'.cut_eq]
  exact traderCut_mono hterms'.split_nonneg (h.payable r f hf hpayable)

lemma observe_past (h : Tracked o) {c : Paid} (hc : c ∈ (observe o s' action).paid) :
    c.cycle < (observe o s' action).cycle c.account := by
  rcases List.mem_append.mp hc with hold | hnew
  · have hlt := h.past c hold
    simp only [observe]
    split <;> omega
  · obtain ⟨⟨r, f'⟩, hmem, rfl⟩ := List.mem_map.mp hnew
    have hk : closes o.platform s' f'.fundedAccount = true := closes_iff.mpr ⟨r, f', hmem, rfl⟩
    simp only [payment, observe, hk, if_true]
    exact Nat.lt_succ_self _

lemma observe_once (h : Tracked o) (fl : Flow p o.platform s') :
    ((observe o s' action).paid.map fun c => (c.account, c.cycle)).Nodup := by
  have hnew : (((completions o.platform s').map (payment o)).map fun c => (c.account, c.cycle)).Nodup := by
    rcases flow_completions fl with hnil | ⟨r, f, f', hclosing⟩
    · simp [hnil]
    · simp [hclosing.only]
  simp only [observe, List.map_append]
  refine List.nodup_append.mpr ⟨h.once, hnew, ?_⟩
  rintro _ hold _ hfresh rfl
  obtain ⟨c, hc, hkey⟩ := List.mem_map.mp hold
  obtain ⟨_, hpayment, hkey'⟩ := List.mem_map.mp hfresh
  obtain ⟨⟨r, f'⟩, -, rfl⟩ := List.mem_map.mp hpayment
  have hlt := h.past c hc
  rw [← hkey', Prod.mk.injEq] at hkey
  obtain ⟨haccount, hcycle⟩ := hkey
  simp only [payment] at haccount hcycle
  rw [haccount, hcycle] at hlt
  exact Nat.lt_irrefl _ hlt

lemma observe_listed (h : Tracked o) (fl : Flow p o.platform s') {r : ℕ} {f' : FundedPayoutRequest}
    (hf' : s'.fundedPayouts.get r = some f') (hcompleted : f'.status = .completed) :
    ∃ c ∈ (observe o s' action).paid, c.request = r ∧ c.account = f'.fundedAccount ∧
      c.traderCut = f'.traderCut.units ∧ c.splitPct = f'.profitSplitPct := by
  by_cases hmem : (r, f') ∈ completions o.platform s'
  · exact ⟨payment o (r, f'), List.mem_append_right _ (List.mem_map_of_mem hmem), rfl, rfl, rfl, rfl⟩
  · have hbefore : ∃ f, o.platform.fundedPayouts.get r = some f ∧ f.status = .completed := by
      by_contra hnot
      exact hmem (mem_completions.mpr ⟨hf', hcompleted, fun f hf hc => hnot ⟨f, hf, hc⟩⟩)
    obtain ⟨f, hf, hfcompleted⟩ := hbefore
    obtain ⟨c, hc, hrequest, haccount, hcut, hsplit⟩ := h.listed r f hf hfcompleted
    refine ⟨c, List.mem_append_left _ hc, hrequest, ?_⟩
    rcases flow_requests fl hf' with ⟨g, hg, hterms, -⟩ | ⟨hnone, -⟩
    · obtain rfl : f = g := Option.some.inj (hf.symm.trans hg)
      rw [hterms.account, hterms.traderCut, hterms.split]
      exact ⟨haccount, hcut, hsplit⟩
    · rw [hf] at hnone
      cases hnone

lemma tracked_observe (h : Tracked o) (e : Effect p o.platform s')
    (hcurrent : ∀ d, p (.createFundedPayout d) → Current o (.createFundedPayout d))
    (hsteady : ∀ k, closes o.platform s' k = false → Steady o.platform s' k (realized o.platform s' k action)) :
    Tracked (observe o s' action) := by
  have fl := effect_flow h.books.linked e
  refine
    { books := books_effect h.books e
      reads := fun d draft => observe_reads h e
      high := fun k => ?_
      base := fun k account' i => observe_base h fl hsteady
      payable := fun r f' => observe_payable h fl hcurrent
      paid := fun c hc => ?_
      past := fun c => observe_past h
      once := observe_once h fl
      listed := fun r f' => observe_listed h fl }
  · obtain ⟨hzero, hgain⟩ := h.high k
    simp only [observe]
    split
    · exact ⟨le_rfl, le_rfl⟩
    · exact ⟨hzero.trans (le_max_left _ _), le_max_right _ _⟩
  · rcases List.mem_append.mp hc with hold | hnew
    · exact h.paid c hold
    · obtain ⟨⟨r, f'⟩, hmem, rfl⟩ := List.mem_map.mp hnew
      exact payment_le h fl hmem

lemma tracked_watch (o : Watch) (action : Action) (h : Tracked o) (hcurrent : Current o action) :
    Tracked (watch o action) := by
  have e : Effect (fun b => b = action) o.platform (step o.platform action) := step_effect o.platform action rfl
  refine tracked_observe h e (fun d hd => hd ▸ hcurrent) fun k hk => ?_
  by_cases htrade : ∃ j profit, action = .trade j profit
  · obtain ⟨j, profit, rfl⟩ := htrade
    exact (trade_steady o.platform j profit k).2
  · have hzero : realized o.platform (step o.platform action) k action = 0 := by
      cases action with
      | trade j profit => exact (htrade ⟨j, profit, rfl⟩).elim
      | _ => rfl
    rw [hzero]
    exact flow_steady (effect_flow h.books.linked e) (fun j profit heq => htrade ⟨j, profit, heq.symm⟩) hk

end Steps

/-- Before the first visit there are no requests, and every enrollment has an account of its own and a split
that is no negative percentage. -/
structure Funding (s : Platform) : Prop where
  requests : ∀ r, s.fundedPayouts.get r = none
  drafts : ∀ d, s.drafts.get d = none
  distinct : ∀ i j e e' k, s.enrollments.get i = some e → s.enrollments.get j = some e' →
    e.fundedAccount = some k → e'.fundedAccount = some k → i = j
  splits : ∀ i e config, s.enrollments.get i = some e → e.fundedConfig = some config → 0 ≤ config.profitSplitPct.units

lemma opening_books {s : Platform} (h : Opening s) (hfunding : Funding s) : Books s where
  sound := opening_sound h
  linked := linked_opening h fun r f hf => by rw [hfunding.requests] at hf; cases hf
  single r r' f g hf := by
    rw [hfunding.requests] at hf
    cases hf
  distinct := hfunding.distinct
  splits := hfunding.splits
  drafts d draft hd := by
    rw [hfunding.drafts] at hd
    cases hd
  requests r f hf := by
    rw [hfunding.requests] at hf
    cases hf

lemma tracked_start {s : Platform} (h : Opening s) (hfunding : Funding s) : Tracked (start s) where
  books := opening_books h hfunding
  reads d draft hd := by
    rw [start, hfunding.drafts] at hd
    cases hd
  high k := by
    simp only [start]
    cases s.accounts.get k with
    | none => exact ⟨le_rfl, le_rfl⟩
    | some account => exact ⟨cycleProfit_nonneg account, le_max_right _ _⟩
  base k account i haccount hinitial hi := by
    have hdebit : debit s k = 0 := Table.total_eq_zero fun r f hf => by rw [hfunding.requests] at hf; cases hf
    have haccount' : s.accounts.get k = some account := haccount
    simp only [start, haccount', Option.elim_some, cycleBase, hinitial, if_neg hi, hdebit]
    omega
  payable r f hf := by
    rw [start, hfunding.requests] at hf
    cases hf
  paid c hc := by cases hc
  past c hc := by cases hc
  once := List.nodup_nil
  listed r f hf := by
    rw [start, hfunding.requests] at hf
    cases hf

lemma paidIn_length {o : Watch} (h : (o.paid.map fun c => (c.account, c.cycle)).Nodup) (k n : ℕ) :
    (paidIn o k n).length ≤ 1 := by
  have hsub : ((paidIn o k n).map fun c => (c.account, c.cycle)).Nodup := h.sublist (List.filter_sublist.map _)
  have hall : ∀ x ∈ (paidIn o k n).map (fun c => (c.account, c.cycle)), x = (k, n) := by
    intro x hx
    obtain ⟨c, hc, rfl⟩ := List.mem_map.mp hx
    have hkey := (List.mem_filter.mp hc).2
    rw [decide_eq_true_eq] at hkey
    rw [hkey.1, hkey.2]
  rw [List.eq_replicate_of_mem hall, List.nodup_replicate, List.length_map] at hsub
  exact hsub

/-- In every run whose requests are inserted in the cycle in which they were read, a cycle pays at most one
request, and that one at most the trader's share of what the cycle has earned. -/
theorem cycles_paid_once (s : Platform) (h : Opening s) (hfunding : Funding s) (acts : List Action)
    (hg : Guarded watch Current (start s) acts) :
    (run watch (start s) acts).platform = run step s acts ∧
    (∀ r f, (run step s acts).fundedPayouts.get r = some f → f.status = .completed →
      ∃ c ∈ (run watch (start s) acts).paid, c.request = r ∧ c.account = f.fundedAccount ∧
        c.traderCut = f.traderCut.units ∧ c.splitPct = f.profitSplitPct) ∧
    (∀ k n, (paidIn (run watch (start s) acts) k n).length ≤ 1) ∧
    ∀ c ∈ (run watch (start s) acts).paid, c.traderCut ≤ traderCut c.earned c.splitPct := by
  have hrun : Tracked (run watch (start s) acts) := guarded_invariant tracked_watch (tracked_start h hfunding) hg
  have hplatform : (run watch (start s) acts).platform = run step s acts :=
    run_project (f := Watch.platform) (fun _ _ => rfl) (start s) acts
  refine ⟨hplatform, fun r f hf hcompleted => ?_, paidIn_length hrun.once, hrun.paid⟩
  rw [← hplatform] at hf
  exact hrun.listed r f hf hcompleted

def simPayout (draft : ℕ) : List Action := [.createFundedPayout draft, .approveSimPayout draft 1]

theorem cycles_paid_once_example :
    ∃ c ∈ (run watch (start (fundedDesk .sim)) (.readFundedPayout 3 0 visit :: simPayout 0)).paid,
      c.traderCut = 80000 ∧ c.traderCut ≤ traderCut c.earned c.splitPct := by
  have hfunding : Funding (fundedDesk .sim) :=
    { requests := fun r => rfl
      drafts := fun d => rfl
      distinct := by
        intro i j e e' k hi hj _ _
        have hi' := Table.lt_of_get hi
        have hj' := Table.lt_of_get hj
        have hone : (fundedDesk .sim).enrollments.next = 1 := rfl
        omega
      splits := by
        intro i e config hi hconfig
        have hzero : i = 0 := Nat.lt_one_iff.mp (Table.lt_of_get hi)
        subst hzero
        obtain rfl := Option.some.inj hi
        obtain rfl := Option.some.inj hconfig
        decide }
  obtain ⟨hplatform, hlisted, -, hpaid⟩ := cycles_paid_once (fundedDesk .sim) (fundedDesk_opening .sim) hfunding
    (.readFundedPayout 3 0 visit :: simPayout 0) (by decide +kernel)
  obtain ⟨f, hf, hcompleted, hcut⟩ : ∃ f,
      (run step (fundedDesk .sim) (.readFundedPayout 3 0 visit :: simPayout 0)).fundedPayouts.get 0 = some f ∧
      f.status = .completed ∧ f.traderCut.units = 80000 := by decide +kernel
  obtain ⟨c, hc, -, -, hcut', -⟩ := hlisted 0 f hf hcompleted
  exact ⟨c, hc, hcut'.trans hcut, hpaid c hc⟩

/-- Two visits that read the same profit are both paid, the second in a cycle that has earned nothing. -/
theorem stale_read_paid_twice :
    ((run watch (start (fundedDesk .sim))
      (.readFundedPayout 3 0 visit :: .readFundedPayout 3 0 visit :: simPayout 0 ++ simPayout 1)).paid.map
        fun c => (c.account, c.cycle, c.traderCut, c.earned)) = [(0, 0, 80000, 100000), (0, 1, 80000, 0)] := by
  decide +kernel

end TrxSimulator.Funded.Cycles
