import TrxSimulator.Payouts.Safety

/-! The two rows of an internal payout, its request and its withdrawal, and the call that opened them.
The invariant is stated for any relation between the two statuses that the steps respect. -/

namespace TrxSimulator.Funded.Links

open Foundations.Runs Foundations.Tables Foundations.Outcomes Foundations.Decimals Money Accounts
open Wallets.Ledger Payouts.Records Payouts.StateMachine Payouts.Orchestrator Funded.Payouts Payouts.Machine
open Payouts.Effects Payouts.Safety

def terms (f : FundedPayoutRequest) : FundedPayoutRequest :=
  { f with status := .pending, ledgerEntry := none, walletCreditTx := none, reviewedBy := none, adminNote := "" }

lemma terms_inj {f g : FundedPayoutRequest} (h : terms f = terms g) :
    f.withdrawalRequest = g.withdrawalRequest ∧ f.fundedAccount = g.fundedAccount ∧
      f.traderCut = g.traderCut ∧ f.enrollment = g.enrollment ∧ f.cycleProfit = g.cycleProfit ∧
      f.profitSplitPct = g.profitSplitPct :=
  ⟨congrArg (·.withdrawalRequest) h, congrArg (·.fundedAccount) h, congrArg (·.traderCut) h,
    congrArg (·.enrollment) h, congrArg (·.cycleProfit) h, congrArg (·.profitSplitPct) h⟩

structure Unrecorded (s : Platform) (x : Internal) : Prop where
  withdrawal : ∃ wr, s.withdrawals.get x.withdrawal = some wr ∧ wr.status = .approved ∧
    wr.npPayoutId = "" ∧ wr.npBatchId = ""
  request : ∃ f, s.fundedPayouts.get x.request = some f ∧ f.status = .approved

structure Linked (R : FundedStatus → WithdrawalStatus → Prop) (s : Platform) : Prop where
  links : ∀ r f w, s.fundedPayouts.get r = some f → f.withdrawalRequest = some w →
    ∃ wr, s.withdrawals.get w = some wr ∧ ¬ Retail s w ∧ f.status ≠ .pending ∧ R f.status wr.status
  single : ∀ r r' f g w, s.fundedPayouts.get r = some f → s.fundedPayouts.get r' = some g →
    f.withdrawalRequest = some w → g.withdrawalRequest = some w → r = r'
  opened : ∀ i x, s.internals.get i = some x → ∃ f, s.fundedPayouts.get x.request = some f ∧
    f.withdrawalRequest = some x.withdrawal ∧ f.fundedAccount = x.fundedAccount ∧ f.traderCut = x.traderCut
  once : ∀ i j x y, s.internals.get i = some x → s.internals.get j = some y → x.request = y.request → i = j
  unrecorded : ∀ i x, s.internals.get i = some x → x.stage.unrecorded = true → Unrecorded s x
  unmatched : ∀ i x h e, s.internals.get i = some x → x.stage.unrecorded = true →
    s.handlers.get h ≠ some ⟨e, .matched (.funded x.withdrawal)⟩
  legacy : ∀ h e w r f, s.handlers.get h = some ⟨e, .matched (.legacy w)⟩ → s.fundedPayouts.get r = some f →
    f.withdrawalRequest ≠ some w

/-- What the steps ask of the relation between the two statuses. -/
structure Compatible (R : FundedStatus → WithdrawalStatus → Prop) : Prop where
  approved : R .approved .approved
  recorded : R .approved .processing
  completed : R .completed .completed
  failed : R .failed .failed
  running : ∀ f w, R f w → w.terminal = false → f.terminal = false
  marked : ∀ f w, R f w → f.terminal = false → R f .processing

variable {R : FundedStatus → WithdrawalStatus → Prop} {p : Action → Prop} {s s' : Platform} {r w : ℕ}
  {f : FundedPayoutRequest}

section Correlation

lemma correlate_funded {attempts withdrawals : List ℕ} {missing : String}
    (h : correlate s attempts withdrawals missing = .funded w) : w ∈ withdrawals := by
  unfold correlate at h
  split at h
  · cases h
  · cases h
  · split at h <;> cases h
  · cases h
  · unfold classifyLegacy at h
    split at h
    · cases h
      exact List.mem_singleton.mpr rfl
    · cases h
  · cases h

lemma correlate_legacy {attempts withdrawals : List ℕ} {missing : String}
    (h : correlate s attempts withdrawals missing = .legacy w) (hf : s.fundedPayouts.get r = some f) :
    f.withdrawalRequest ≠ some w := by
  unfold correlate at h
  split at h
  · cases h
  · cases h
  · split at h <;> cases h
  · cases h
  · unfold classifyLegacy at h
    split at h
    · cases h
    · next hnone =>
      cases h
      rw [Bool.not_eq_true] at hnone
      exact of_decide_eq_false (Table.exists?_false hnone hf)
  · cases h

lemma resolve_funded {event : ProviderPayoutEvent} (h : resolvePayoutTarget s event = .funded w) :
    ∃ wr, s.withdrawals.get w = some wr ∧ (wr.npPayoutId ≠ "" ∨ wr.npBatchId ≠ "") := by
  unfold resolvePayoutTarget at h
  split at h
  · next hne =>
    obtain ⟨⟨j, wr⟩, hmem, rfl⟩ := List.mem_map.mp (correlate_funded h)
    obtain ⟨hwr, hp⟩ := List.mem_filter.mp hmem
    exact ⟨wr, Table.mem_rows.mp hwr, Or.inl (by rwa [of_decide_eq_true hp])⟩
  · split at h
    · next hne =>
      obtain ⟨⟨j, wr⟩, hmem, rfl⟩ := List.mem_map.mp (correlate_funded h)
      obtain ⟨hwr, hp⟩ := List.mem_filter.mp hmem
      exact ⟨wr, Table.mem_rows.mp hwr, Or.inr (by rwa [of_decide_eq_true hp])⟩
    · cases h

lemma resolve_legacy {event : ProviderPayoutEvent} (h : resolvePayoutTarget s event = .legacy w)
    (hf : s.fundedPayouts.get r = some f) : f.withdrawalRequest ≠ some w := by
  unfold resolvePayoutTarget at h
  split at h
  · exact correlate_legacy h hf
  · split at h
    · exact correlate_legacy h hf
    · cases h

end Correlation

section Touch

/-- A step that writes at most one funded request, and of all linked withdrawals only its own. -/
structure Touch (R : FundedStatus → WithdrawalStatus → Prop) (s s' : Platform) (r₀ : ℕ) : Prop where
  kept : ∀ r, (s'.fundedPayouts.get r).map terms = (s.fundedPayouts.get r).map terms
  others : ∀ r, r ≠ r₀ → s'.fundedPayouts.get r = s.fundedPayouts.get r
  withdrawals : ∀ r f w, r ≠ r₀ → s.fundedPayouts.get r = some f → f.withdrawalRequest = some w →
    s'.withdrawals.get w = s.withdrawals.get w
  internals : ∀ i x, s'.internals.get i = some x → ∃ x₀, s.internals.get i = some x₀ ∧
    x = { x₀ with stage := x.stage } ∧ (x.stage.unrecorded = true → x₀.stage.unrecorded = true)
  touched : ∀ f w, s'.fundedPayouts.get r₀ = some f → f.withdrawalRequest = some w →
    ∃ wr, s'.withdrawals.get w = some wr ∧ f.status ≠ .pending ∧ R f.status wr.status
  unrecorded : ∀ i x, s'.internals.get i = some x → x.request = r₀ → x.stage.unrecorded = true → Unrecorded s' x

lemma kept_back (h : (s'.fundedPayouts.get r).map terms = (s.fundedPayouts.get r).map terms)
    (hf : s'.fundedPayouts.get r = some f) : ∃ g, s.fundedPayouts.get r = some g ∧ terms f = terms g := by
  rw [hf, Option.map_some] at h
  obtain ⟨g, hg, hterms⟩ := Option.map_eq_some_iff.mp h.symm
  exact ⟨g, hg, hterms.symm⟩

lemma kept_forth (h : (s'.fundedPayouts.get r).map terms = (s.fundedPayouts.get r).map terms)
    (hf : s.fundedPayouts.get r = some f) : ∃ g, s'.fundedPayouts.get r = some g ∧ terms g = terms f := by
  rw [hf, Option.map_some] at h
  obtain ⟨g, hg, hterms⟩ := Option.map_eq_some_iff.mp h
  exact ⟨g, hg, hterms⟩

lemma linked_touch {r₀ : ℕ} (h : Linked R s) (e : Effect p s s') (hlater : Later s s') (ht : Touch R s s' r₀) :
    Linked R s' where
  links r f w hf hlink := by
    obtain ⟨g, hg, hterms⟩ := kept_back (ht.kept r) hf
    obtain ⟨hsame, -⟩ := terms_inj hterms
    obtain ⟨wr, hwr, hretail, hpending, hR⟩ := h.links r g w hg (hsame ▸ hlink)
    rw [← hlater.retail] at hretail
    by_cases hr : r = r₀
    · subst hr
      obtain ⟨wr', hwr', hpending', hR'⟩ := ht.touched f w hf hlink
      exact ⟨wr', hwr', hretail, hpending', hR'⟩
    · rw [ht.others r hr, hg, Option.some.injEq] at hf
      subst hf
      exact ⟨wr, (ht.withdrawals r g w hr hg hlink).trans hwr, hretail, hpending, hR⟩
  single r r' f g w hf hg hlink hlink' := by
    obtain ⟨f₀, hf₀, hterms⟩ := kept_back (ht.kept r) hf
    obtain ⟨g₀, hg₀, hterms'⟩ := kept_back (ht.kept r') hg
    exact h.single r r' f₀ g₀ w hf₀ hg₀ ((terms_inj hterms).1 ▸ hlink) ((terms_inj hterms').1 ▸ hlink')
  opened i x hx := by
    obtain ⟨x₀, hx₀, heq, -⟩ := ht.internals i x hx
    obtain ⟨f, hf, hlink, haccount, hcut⟩ := h.opened i x₀ hx₀
    obtain ⟨g, hg, hterms⟩ := kept_forth (ht.kept _) hf
    obtain ⟨hl, ha, hc, -⟩ := terms_inj hterms
    rw [heq]
    exact ⟨g, hg, hl.trans hlink, ha.trans haccount, hc.trans hcut⟩
  once i j x y hx hy hsame := by
    obtain ⟨x₀, hx₀, heq, -⟩ := ht.internals i x hx
    obtain ⟨y₀, hy₀, heq', -⟩ := ht.internals j y hy
    rw [heq, heq'] at hsame
    exact h.once i j x₀ y₀ hx₀ hy₀ hsame
  unrecorded i x hx hstage := by
    by_cases hr : x.request = r₀
    · exact ht.unrecorded i x hx hr hstage
    · obtain ⟨x₀, hx₀, heq, hstage₀⟩ := ht.internals i x hx
      obtain ⟨⟨wr, hwr, hwr'⟩, f, hf, hf'⟩ := h.unrecorded i x₀ hx₀ (hstage₀ hstage)
      obtain ⟨g, hg, hlink, -⟩ := h.opened i x₀ hx₀
      rw [heq] at hr ⊢
      exact ⟨⟨wr, (ht.withdrawals _ g _ hr hg hlink).trans hwr, hwr'⟩, f, (ht.others _ hr).trans hf, hf'⟩
  unmatched i x n e' hx hstage hn := by
    obtain ⟨x₀, hx₀, heq, hstage₀⟩ := ht.internals i x hx
    rw [heq] at hn
    rcases effect_targets e hn with hn | ⟨row, -, hresolve⟩
    · exact h.unmatched i x₀ n e' hx₀ (hstage₀ hstage) hn
    · obtain ⟨wr, hwr, -, hpayout, hbatch⟩ := (h.unrecorded i x₀ hx₀ (hstage₀ hstage)).withdrawal
      obtain ⟨wr', hwr', hne⟩ := resolve_funded hresolve.symm
      obtain rfl : wr = wr' := Option.some.inj (hwr.symm.trans hwr')
      exact hne.elim (· hpayout) (· hbatch)
  legacy n e' w r f hn hf := by
    obtain ⟨g, hg, hterms⟩ := kept_back (ht.kept r) hf
    rw [(terms_inj hterms).1]
    rcases effect_targets e hn with hn | ⟨row, -, hresolve⟩
    · exact h.legacy n e' w r g hn hg
    · exact resolve_legacy hresolve.symm hg

lemma kept_update {t : Table FundedPayoutRequest} {F : FundedPayoutRequest → FundedPayoutRequest} (r : ℕ)
    (hF : ∀ f, t.get r = some f → terms (F f) = terms f) (r' : ℕ) :
    ((t.update r F).get r').map terms = (t.get r').map terms := by
  rw [Table.get_update]
  split
  · next hr =>
    subst hr
    cases hf : t.get r' with
    | none => rfl
    | some f => exact congrArg some (hF f hf)
  · rfl

lemma withdrawals_update (h : Linked R s) (hf : s.fundedPayouts.get r = some f)
    (hlink : f.withdrawalRequest = some w) (G : WithdrawalRequest → WithdrawalRequest) (r' : ℕ)
    (g : FundedPayoutRequest) (w' : ℕ) (hr : r' ≠ r) (hg : s.fundedPayouts.get r' = some g)
    (hlink' : g.withdrawalRequest = some w') : (s.withdrawals.update w G).get w' = s.withdrawals.get w' := by
  refine Table.get_update_ne _ ?_ _
  rintro rfl
  exact hr (h.single r' r g f w' hg hf hlink' hlink)

lemma touch_beside (h : Linked R s) (hfunded : s'.fundedPayouts = s.fundedPayouts)
    (hinternals : s'.internals = s.internals)
    (hwithdrawals : ∀ r f w, s.fundedPayouts.get r = some f → f.withdrawalRequest = some w →
      s'.withdrawals.get w = s.withdrawals.get w) : Touch R s s' s.fundedPayouts.next where
  kept r := by rw [hfunded]
  others r _ := by rw [hfunded]
  withdrawals r f w _ hf hlink := hwithdrawals r f w hf hlink
  internals i x hx := ⟨x, hinternals ▸ hx, rfl, id⟩
  touched f w hf := by
    rw [hfunded, Table.get_next] at hf
    cases hf
  unrecorded i x hx hr := by
    rw [hinternals] at hx
    obtain ⟨f, hf, -⟩ := h.opened i x hx
    rw [hr, Table.get_next] at hf
    cases hf

lemma not_linked_of_retail (h : Linked R s) (hw : Retail s w) :
    ∀ r f w', s.fundedPayouts.get r = some f → f.withdrawalRequest = some w' → w' ≠ w := by
  rintro r f w' hf hlink rfl
  obtain ⟨wr, -, hretail, -⟩ := h.links r f w' hf hlink
  exact hretail hw

lemma recorded_of_called {wr : WithdrawalRequest} (h : Linked R s) (hcalled : Called s w r wr f) {i : ℕ}
    {x : Internal} (hx : s.internals.get i = some x) (hr : x.request = r) : x.stage.unrecorded = false := by
  obtain ⟨g, hg, hlink, -⟩ := h.opened i x hx
  rw [hr, hcalled.request, Option.some.injEq] at hg
  subst hg
  obtain rfl : w = x.withdrawal := Option.some.inj (hcalled.link.symm.trans hlink)
  obtain ⟨n, e, hmatched⟩ := hcalled.matched
  by_contra hstage
  exact h.unmatched i x n e hx (by simpa using hstage) hmatched

lemma touch_called {wr : WithdrawalRequest} {F : FundedPayoutRequest → FundedPayoutRequest}
    {G : WithdrawalRequest → WithdrawalRequest} (h : Linked R s) (hcalled : Called s w r wr f)
    (hF : ∀ f, terms (F f) = terms f) (hpending : (F f).status ≠ .pending) (hstatus : R (F f).status (G wr).status)
    (hfunded : s'.fundedPayouts = s.fundedPayouts.update r F)
    (hwithdrawals : s'.withdrawals = s.withdrawals.update w G) (hinternals : s'.internals = s.internals) :
    Touch R s s' r where
  kept r' := by
    rw [hfunded]
    exact kept_update r (fun f _ => hF f) r'
  others r' hr := by
    rw [hfunded]
    exact Table.get_update_ne _ hr _
  withdrawals r' g w' hr hg hlink := by
    rw [hwithdrawals]
    exact withdrawals_update h hcalled.request hcalled.link G r' g w' hr hg hlink
  internals i x hx := ⟨x, hinternals ▸ hx, rfl, id⟩
  touched g w' hg hlink := by
    rw [hfunded, Table.get_update_self hcalled.request, Option.some.injEq] at hg
    subst hg
    rw [(terms_inj (hF f)).1, hcalled.link, Option.some.injEq] at hlink
    subst hlink
    refine ⟨G wr, ?_, hpending, hstatus⟩
    rw [hwithdrawals]
    exact Table.get_update_self hcalled.found G
  unrecorded i x hx hr hstage := by
    rw [hinternals] at hx
    rw [recorded_of_called h hcalled hx hr] at hstage
    cases hstage

lemma touch_internal {j : ℕ} {y : Internal} {stage : InternalStage} {wr : WithdrawalRequest}
    {F : FundedPayoutRequest → FundedPayoutRequest} {G : WithdrawalRequest → WithdrawalRequest}
    (h : Linked R s) (hy : s.internals.get j = some y)
    (hstage : stage.unrecorded = true → y.stage.unrecorded = true) (hF : ∀ f, terms (F f) = terms f)
    (hwr : s.withdrawals.get y.withdrawal = some wr)
    (hstatus : ∀ f, s.fundedPayouts.get y.request = some f → (F f).status ≠ .pending ∧ R (F f).status (G wr).status)
    (hunrecorded : stage.unrecorded = true → ∀ f, (F f).status = f.status ∧ G wr = wr)
    (hfunded : s'.fundedPayouts = s.fundedPayouts.update y.request F)
    (hwithdrawals : s'.withdrawals = s.withdrawals.update y.withdrawal G)
    (hinternals : s'.internals = s.internals.update j fun x => { x with stage := stage }) :
    Touch R s s' y.request := by
  obtain ⟨f, hf, hlink, -⟩ := h.opened j y hy
  obtain ⟨hpending, hR⟩ := hstatus f hf
  refine
    { kept := fun r' => ?_
      others := fun r' hr => ?_
      withdrawals := fun r' g w' hr hg hlink' => ?_
      internals := fun i x hx => internals_update hy hstage i x (hinternals ▸ hx)
      touched := fun g w' hg hlink' => ?_
      unrecorded := fun i x hx hr hx' => ?_ }
  · rw [hfunded]
    exact kept_update y.request (fun f _ => hF f) r'
  · rw [hfunded]
    exact Table.get_update_ne _ hr _
  · rw [hwithdrawals]
    exact withdrawals_update h hf hlink G r' g w' hr hg hlink'
  · rw [hfunded, Table.get_update_self hf, Option.some.injEq] at hg
    subst hg
    rw [(terms_inj (hF f)).1, hlink, Option.some.injEq] at hlink'
    subst hlink'
    refine ⟨G wr, ?_, hpending, hR⟩
    rw [hwithdrawals]
    exact Table.get_update_self hwr G
  · rw [hinternals] at hx
    obtain ⟨x₀, hx₀, heq⟩ := Table.get_update_some hx
    have hreq : x₀.request = y.request := by
      rw [← hr, heq]
      split <;> rfl
    obtain rfl := h.once i j x₀ y hx₀ hy hreq
    obtain rfl : x₀ = y := Option.some.inj (hx₀.symm.trans hy)
    rw [if_pos rfl] at heq
    subst heq
    obtain ⟨hFf, hG⟩ := hunrecorded hx' f
    obtain ⟨⟨wr', hwr', happroved⟩, f', hf', hstatus'⟩ := h.unrecorded i x₀ hy (hstage hx')
    obtain rfl : wr = wr' := Option.some.inj (hwr.symm.trans hwr')
    obtain rfl : f = f' := Option.some.inj (hf.symm.trans hf')
    refine ⟨⟨wr, ?_, happroved⟩, F f, ?_, hFf.trans hstatus'⟩
    · rw [hwithdrawals, Table.get_update_self hwr, hG]
    · rw [hfunded, Table.get_update_self hf]

end Touch

section Steps

lemma unlinked_of_pending (h : Linked R s) (hf : s.fundedPayouts.get r = some f) (hpending : f.status = .pending) :
    f.withdrawalRequest = none := by
  rw [← Option.not_isSome_iff_eq_none, Option.isSome_iff_exists]
  rintro ⟨w, hlink⟩
  obtain ⟨wr, -, -, hstatus, -⟩ := h.links r f w hf hlink
  exact hstatus hpending

lemma linked_created (h : Linked R s) (hlater : Later s s') (hlink : f.withdrawalRequest = none)
    (hfunded : s'.fundedPayouts = s.fundedPayouts.insert f) (hinternals : s'.internals = s.internals)
    (hwithdrawals : s'.withdrawals = s.withdrawals) (hhandlers : s'.handlers = s.handlers) : Linked R s' := by
  have hold : ∀ r g w, s'.fundedPayouts.get r = some g → g.withdrawalRequest = some w →
      s.fundedPayouts.get r = some g := by
    intro r g w hg hw
    rw [hfunded] at hg
    rcases Table.get_insert_some hg with hg | ⟨-, rfl⟩
    · exact hg
    · rw [hlink] at hw
      cases hw
  have hnew : ∀ r g, s.fundedPayouts.get r = some g → s'.fundedPayouts.get r = some g := by
    intro r g hg
    rw [hfunded]
    exact Table.get_insert_of_get hg f
  refine
    { links := fun r g w hg hw => ?_
      single := fun r r' g g' w hg hg' hw hw' => h.single r r' g g' w (hold r g w hg hw) (hold r' g' w hg' hw') hw hw'
      opened := fun i x hx => ?_
      once := by rw [hinternals]; exact h.once
      unrecorded := fun i x hx hstage => ?_
      unmatched := by rw [hinternals, hhandlers]; exact h.unmatched
      legacy := fun i e w r g hi hg hw => ?_ }
  · rw [hwithdrawals, hlater.retail]
    exact h.links r g w (hold r g w hg hw) hw
  · obtain ⟨g, hg, hrest⟩ := h.opened i x (hinternals ▸ hx)
    exact ⟨g, hnew _ g hg, hrest⟩
  · obtain ⟨hwr, g, hg, hstatus⟩ := h.unrecorded i x (hinternals ▸ hx) hstage
    exact ⟨hwithdrawals ▸ hwr, g, hnew _ g hg, hstatus⟩
  · exact h.legacy i e w r g (hhandlers ▸ hi) (hold r g w hg hw) hw

lemma linked_approved {f f' : FundedPayoutRequest} {wr : WithdrawalRequest} {x : Internal} (hR : Compatible R)
    (h : Linked R s) (hcalls : Calls s) (hlater : Later s s') (hf : s.fundedPayouts.get r = some f)
    (hpending : f.status = .pending) (hstatus : f'.status = .approved)
    (hlink : f'.withdrawalRequest = some s.withdrawals.next)
    (hterms : f'.fundedAccount = f.fundedAccount ∧ f'.traderCut = f.traderCut)
    (hwr : wr.status = .approved ∧ wr.npPayoutId = "" ∧ wr.npBatchId = "")
    (hx : x = { request := r, withdrawal := s.withdrawals.next, fundedAccount := f.fundedAccount,
                traderCut := f.traderCut, stage := .claimed })
    (hfunded : s'.fundedPayouts = s.fundedPayouts.update r fun _ => f')
    (hwithdrawals : s'.withdrawals = s.withdrawals.insert wr) (hinternals : s'.internals = s.internals.insert x)
    (hhandlers : s'.handlers = s.handlers) : Linked R s' := by
  have hnone := unlinked_of_pending h hf hpending
  have hfresh : ¬ Retail s s.withdrawals.next := by
    rintro ⟨v, hv, -⟩
    rw [Table.get_next] at hv
    cases hv
  have hself : s'.fundedPayouts.get r = some f' := by
    rw [hfunded]
    exact Table.get_update_self hf _
  have hother : ∀ r', r' ≠ r → s'.fundedPayouts.get r' = s.fundedPayouts.get r' := by
    intro r' hr
    rw [hfunded]
    exact Table.get_update_ne _ hr _
  have hkept : ∀ w v, s.withdrawals.get w = some v → s'.withdrawals.get w = some v := by
    intro w v hv
    rw [hwithdrawals]
    exact Table.get_insert_of_get hv wr
  have hbelow : ∀ r' g w, s.fundedPayouts.get r' = some g → g.withdrawalRequest = some w →
      w ≠ s.withdrawals.next := by
    intro r' g w hg hw
    obtain ⟨v, hv, -⟩ := h.links r' g w hg hw
    exact Table.ne_next_of_get hv
  have hcaller : ∀ i y, s.internals.get i = some y → y.request ≠ r := by
    rintro i y hy rfl
    obtain ⟨g, hg, hw, -⟩ := h.opened i y hy
    rw [hf, Option.some.injEq] at hg
    rw [← hg, hnone] at hw
    cases hw
  have hinternal : ∀ {i y}, s'.internals.get i = some y →
      s.internals.get i = some y ∨ (i = s.internals.next ∧ y = x) := by
    intro i y hy
    rw [hinternals] at hy
    exact Table.get_insert_some hy
  refine
    { links := fun r' g w hg hw => ?_
      single := fun r₁ r₂ g₁ g₂ w hg₁ hg₂ hw₁ hw₂ => ?_
      opened := fun i y hy => ?_
      once := fun i j y z hy hz hsame => ?_
      unrecorded := fun i y hy hstage => ?_
      unmatched := fun i y n e hy hstage hn => ?_
      legacy := fun i e w r' g hi hg hw => ?_ }
  · rw [hlater.retail]
    by_cases hr : r' = r
    · subst hr
      rw [hself, Option.some.injEq] at hg
      subst hg
      obtain rfl : s.withdrawals.next = w := Option.some.inj (hlink.symm.trans hw)
      refine ⟨wr, by rw [hwithdrawals, Table.get_insert_next], hfresh, by rw [hstatus]; nofun, ?_⟩
      rw [hstatus, hwr.1]
      exact hR.approved
    · rw [hother r' hr] at hg
      obtain ⟨v, hv, hrest⟩ := h.links r' g w hg hw
      exact ⟨v, hkept w v hv, hrest⟩
  · by_cases hr₁ : r₁ = r
    · by_cases hr₂ : r₂ = r
      · rw [hr₁, hr₂]
      · rw [hother r₂ hr₂] at hg₂
        rw [hr₁, hself, Option.some.injEq] at hg₁
        rw [← hg₁, hlink, Option.some.injEq] at hw₁
        exact (hbelow r₂ g₂ w hg₂ hw₂ hw₁.symm).elim
    · rw [hother r₁ hr₁] at hg₁
      by_cases hr₂ : r₂ = r
      · rw [hr₂, hself, Option.some.injEq] at hg₂
        rw [← hg₂, hlink, Option.some.injEq] at hw₂
        exact (hbelow r₁ g₁ w hg₁ hw₁ hw₂.symm).elim
      · rw [hother r₂ hr₂] at hg₂
        exact h.single r₁ r₂ g₁ g₂ w hg₁ hg₂ hw₁ hw₂
  · rcases hinternal hy with hy | ⟨-, rfl⟩
    · obtain ⟨g, hg, hrest⟩ := h.opened i y hy
      exact ⟨g, (hother _ (hcaller i y hy)).trans hg, hrest⟩
    · subst hx
      exact ⟨f', hself, hlink, hterms⟩
  · rcases hinternal hy with hy | ⟨hi, rfl⟩
    · rcases hinternal hz with hz | ⟨hj, rfl⟩
      · exact h.once i j y z hy hz hsame
      · subst hx
        exact (hcaller i y hy hsame).elim
    · rcases hinternal hz with hz | ⟨hj, -⟩
      · subst hx
        exact (hcaller j z hz hsame.symm).elim
      · rw [hi, hj]
  · rcases hinternal hy with hy | ⟨-, rfl⟩
    · obtain ⟨⟨v, hv, hrest⟩, g, hg, happroved⟩ := h.unrecorded i y hy hstage
      exact ⟨⟨v, hkept _ v hv, hrest⟩, g, (hother _ (hcaller i y hy)).trans hg, happroved⟩
    · subst hx
      exact ⟨⟨wr, by rw [hwithdrawals, Table.get_insert_next], hwr⟩, f', hself, hstatus⟩
  · rw [hhandlers] at hn
    rcases hinternal hy with hy | ⟨-, rfl⟩
    · exact h.unmatched i y n e hy hstage hn
    · subst hx
      have hlt := (hcalls.targets n e _ hn).1
      exact lt_irrefl _ hlt
  · rw [hhandlers] at hi
    by_cases hr : r' = r
    · subst hr
      rw [hself, Option.some.injEq] at hg
      rw [← hg, hlink, Option.some.injEq] at hw
      have hlt := (hcalls.targets i e _ hi).1
      omega
    · rw [hother r' hr] at hg
      exact h.legacy i e w r' g hi hg hw

lemma linked_effect (hR : Compatible R) (hs : Sound s) (h : Linked R s) (e : Effect p s s') (hlater : Later s s')
    (hrequested : ∀ i x f batchId payoutId, p (.recordRequest i) → s.internals.get i = some x →
      x.stage = .recorded batchId payoutId → s.fundedPayouts.get x.request = some f →
      Payouts.otherActive s f.enrollment x.request = false → ∀ st, R f.status st → R .processing st) :
    Linked R s' := by
  have hbeside : s'.fundedPayouts = s.fundedPayouts → s'.internals = s.internals →
      (∀ r f w, s.fundedPayouts.get r = some f → f.withdrawalRequest = some w →
        s'.withdrawals.get w = s.withdrawals.get w) → Linked R s' :=
    fun hfunded hinternals hw => linked_touch h e hlater (touch_beside h hfunded hinternals hw)
  have htouch : ∀ r₀, Touch R s s' r₀ → Linked R s' := fun r₀ ht => linked_touch h e hlater ht
  cases e with
  | quiet | resolved | read | traded | wallet => exact hbeside rfl rfl fun _ _ _ _ _ => rfl
  | claimed w wr wr' a submissions found pending =>
    refine hbeside rfl rfl fun r f w' hf hlink => Table.get_update_ne _ ?_ _
    exact not_linked_of_retail h ⟨wr, found, Or.inl pending⟩ r f w' hf hlink
  | applied submissions handlers reconciliations happlied advances =>
    cases happlied with
    | same => exact hbeside rfl rfl fun _ _ _ _ _ => rfl
    | moved k a a' wr wr' revenue found request synced unpaid =>
      refine hbeside rfl rfl fun r f w' hf hlink => Table.get_update_ne _ ?_ _
      exact not_linked_of_retail h ⟨wr, request, Or.inr ⟨k, a, found, rfl⟩⟩ r f w' hf hlink
    | refunded k a a' wr wr' l reason found request synced failed posted =>
      refine hbeside rfl rfl fun r f w' hf hlink => Table.get_update_ne _ ?_ _
      exact not_linked_of_retail h ⟨wr, request, Or.inr ⟨k, a, found, rfl⟩⟩ r f w' hf hlink
  | legacy i e' w wr event n l handlers matched found posted advances =>
    refine hbeside rfl rfl fun r f w' hf hlink => Table.get_update_ne _ ?_ _
    rintro rfl
    exact h.legacy i e' w' r f matched hf hlink
  | fundedMarked w r wr f event n handlers called idle advances =>
    obtain ⟨wr', hwr', -, hpending, hstatus⟩ := h.links r f w called.request called.link
    obtain rfl : wr = wr' := Option.some.inj (called.found.symm.trans hwr')
    have hactive := hR.running _ _ hstatus called.running
    rcases idle with hterminal | rfl
    · rw [hactive] at hterminal
      cases hterminal
    · exact htouch r (touch_called (F := fun f => f) h called (fun _ => rfl) hpending
        (hR.marked _ _ hstatus hactive) (Table.update_id _ _).symm rfl rfl)
  | fundedCompleted w r wr f account event revenue handlers called active owner advances =>
    exact htouch r (touch_called (F := completeFunded) (G := markWebhook event .completed) h called
      (fun _ => rfl) nofun hR.completed rfl rfl rfl)
  | fundedFailed w r wr f account restored event entries handlers called active owner amount advances =>
    exact htouch r (touch_called (F := failFunded) (G := markWebhook event .failed) h called
      (fun _ => rfl) nofun hR.failed rfl rfl rfl)
  | simApproved r f f' account balance l entries revenue request pending owner amount terms posted =>
    have hlink : f.withdrawalRequest = none := unlinked_of_pending h request pending
    refine htouch r
      { kept := kept_update r fun g hg => ?_
        others := fun r' hr => Table.get_update_ne _ hr _
        withdrawals := fun _ _ _ _ _ _ => rfl
        internals := fun i x hx => ⟨x, hx, rfl, id⟩
        touched := fun g w hg hlink' => ?_
        unrecorded := fun i x hx hr hstage => ?_ }
    · rw [request, Option.some.injEq] at hg
      rw [← hg, terms]
      rfl
    · rw [Table.get_update_self request, Option.some.injEq] at hg
      rw [← hg, terms, hlink] at hlink'
      cases hlink'
    · obtain ⟨g, hg, hlink', -⟩ := h.opened i x hx
      rw [hr, request, Option.some.injEq] at hg
      rw [← hg, hlink] at hlink'
      cases hlink'
  | internalApproved r adminUser f f' account balance entries request pending owner amount terms =>
    refine linked_approved hR h hs.calls hlater request pending ?_ ?_ ?_ ⟨rfl, rfl, rfl⟩ rfl rfl rfl rfl rfl
    · rw [terms]
    · rw [terms]
    · rw [terms]
      exact ⟨rfl, rfl⟩
  | reversed i x account restored entries found claimed owner amount =>
    obtain ⟨⟨wr, hwr, -⟩, -⟩ := h.unrecorded i x found (by rw [claimed]; rfl)
    exact htouch x.request (touch_internal (F := failFunded) (G := fun wr => { wr with status := .failed }) h found
      (fun h => by cases h) (fun _ => rfl) hwr (fun _ _ => ⟨nofun, hR.failed⟩) (fun h => by cases h) rfl rfl rfl)
  | noted i x stage note found progress =>
    obtain ⟨f, hf, hlink, -⟩ := h.opened i x found
    obtain ⟨wr, hwr, -, hpending, hstatus⟩ := h.links x.request f x.withdrawal hf hlink
    refine htouch x.request (touch_internal (F := fun f => { f with adminNote := note f }) (G := fun wr => wr) h found
      (fun hstage => ?_) (fun _ => rfl) hwr (fun g hg => ?_) (fun _ _ => ⟨rfl, rfl⟩) rfl (Table.update_id _ _).symm rfl)
    · rcases progress with rfl | ⟨hclaimed, -⟩
      · cases hstage
      · rw [hclaimed]
        rfl
    · obtain rfl : f = g := Option.some.inj (hf.symm.trans hg)
      exact ⟨hpending, hstatus⟩
  | recorded i x batchId payoutId raw cryptoAmount found accepted =>
    obtain ⟨⟨wr, hwr, -⟩, f, hf, happroved⟩ := h.unrecorded i x found (by rw [accepted]; rfl)
    refine htouch x.request (touch_internal (F := fun f => f)
      (G := fun wr => { wr with status := .processing, npBatchId := batchId, npPayoutId := payoutId,
                                npPayoutStatus := raw, cryptoAmount := some cryptoAmount })
      h found (fun h => by cases h) (fun _ => rfl) hwr (fun g hg => ?_) (fun h => by cases h)
      (Table.update_id _ _).symm rfl rfl)
    obtain rfl : f = g := Option.some.inj (hf.symm.trans hg)
    rw [happroved]
    exact ⟨nofun, hR.recorded⟩
  | requested i x f batchId payoutId found recorded request single recorder =>
    obtain ⟨g, hg, hlink, -⟩ := h.opened i x found
    obtain rfl : f = g := Option.some.inj (request.symm.trans hg)
    obtain ⟨wr, hwr, -, -, hstatus⟩ := h.links x.request f x.withdrawal hg hlink
    exact htouch x.request (touch_internal (F := fun f => { f with status := .processing }) (G := fun wr => wr)
      h found (fun h => by cases h) (fun _ => rfl) hwr
      (fun _ _ => ⟨nofun, hrequested i x f batchId payoutId recorder found recorded request single _ hstatus⟩)
      (fun h => by cases h) rfl (Table.update_id _ _).symm rfl)
  | created d draft f found single creator enrollment account profit cut split link pending =>
    exact linked_created h hlater link rfl rfl rfl rfl

end Steps

end TrxSimulator.Funded.Links
