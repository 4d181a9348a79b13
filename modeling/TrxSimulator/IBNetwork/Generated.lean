import TrxSimulator.IBNetwork.Triggers

/-! What the generators leave behind: nothing, the obligation that was there, or one new obligation for the event. -/

namespace TrxSimulator.IBNetwork.Generated

open Foundations.Tables Foundations.Decimals Foundations.Outcomes
open Money Accounts Accruals Conservation Triggers

section Executions

variable {b b' b'' : Books} {event : LotExecutionEvent} {pk : ℕ}

def lotCount (b : Books) (pk : ℕ) : ℕ :=
  b.obligations.count fun o => o.sourceEventType = .perLotExecution ∧ o.sourceEventId = pk

def Earns (b : Books) (event : LotExecutionEvent) : Prop :=
  ∃ account attribution a rule r rate calculated, b.accounts.get event.account = some account ∧
    account.accountType.withdrawable = true ∧ attributionOf b event = some (attribution, a) ∧
    isActive b a.referral = true ∧
    resolveApplicableRule b a.referral .perLot event.createdAt = .ok (some (rule, r)) ∧
    r.fixedAmount = some rate ∧
    store 12 2 (scaled 2 (quantize 2 (times event.qty.value rate.value))) = some calculated

/-- Nothing but what the network posts and records of itself has changed. -/
structure Lots (b b' : Books) : Prop where
  network : b'.network = b.network
  rules : b'.rules = b.rules
  accounts : b'.accounts = b.accounts
  events : b'.events = b.events
  executions : b'.executions = b.executions
  kept : ∀ i o, b'.obligations.get i = some o → o.sourceEventType = .perLotExecution → b.obligations.get i = some o
  count : ∀ pk, lotCount b' pk = lotCount b pk

lemma lots_refl (b : Books) : Lots b b := ⟨rfl, rfl, rfl, rfl, rfl, fun _ _ h _ => h, fun _ => rfl⟩

lemma Lots.trans (h : Lots b b') (h' : Lots b' b'') : Lots b b'' where
  network := h'.network.trans h.network
  rules := h'.rules.trans h.rules
  accounts := h'.accounts.trans h.accounts
  events := h'.events.trans h.events
  executions := h'.executions.trans h.executions
  kept i o ho hsource := h.kept i o (h'.kept i o ho hsource) hsource
  count pk := (h'.count pk).trans (h.count pk)

lemma earns_congr (hnetwork : b'.network = b.network) (hrules : b'.rules = b.rules)
    (haccounts : b'.accounts = b.accounts) : Earns b' event ↔ Earns b event := by
  simp only [Earns, attributionOf, isActive, resolve_congr hrules, hnetwork, haccounts]

lemma Earns.conditions (h : Earns b event) {account : TradingAccount} {attribution : ℕ} {a : Links.Attribution}
    (haccount : b.accounts.get event.account = some account)
    (hattribution : attributionOf b event = some (attribution, a)) :
    account.accountType.withdrawable = true ∧ isActive b a.referral = true ∧
      ∃ rule, resolveApplicableRule b a.referral .perLot event.createdAt = .ok (some rule) := by
  obtain ⟨account', attribution', a', rule, r, _, _, haccount', hwithdrawable, hattribution', hactive, hresolved,
    -⟩ := h
  obtain rfl := Option.some.inj (haccount'.symm.trans haccount)
  obtain ⟨rfl, rfl⟩ := Prod.mk.inj (Option.some.inj (hattribution'.symm.trans hattribution))
  exact ⟨hwithdrawable, hactive, _, hresolved⟩

lemma Earns.attributed (h : Earns b event) : attributionOf b event ≠ none := by
  obtain ⟨_, _, _, _, _, _, _, -, -, hattribution, -⟩ := h
  simp [hattribution]

lemma postCents_lots {attribution execution ancestor rule : ℕ} {cents : ℤ} {obligation : Option ℕ}
    (h : postCents event attribution execution b ancestor rule cents = .ok (b', obligation)) : Lots b b' := by
  rw [postCents] at h
  split at h
  · cases h
    exact lots_refl b
  · simp only [bind_eq_ok, require_eq_ok, pure_eq_ok, createObligation, guard_eq_ok, Except.ok.injEq] at h
    obtain ⟨amount, -, -, ⟨-, rfl⟩, h⟩ := h
    cases h
    refine ⟨rfl, rfl, rfl, rfl, rfl, fun i o ho hsource => ?_, fun pk => ?_⟩
    · obtain hold | ⟨-, rfl⟩ := Table.get_insert_some ho
      · exact hold
      · cases hsource
    · rw [lotCount, Table.count_insert]
      simp [lotCount]

lemma accrueAmount_lots {attribution execution ancestor level rule : ℕ} {amount : ℚ}
    (h : accrueAmount event attribution execution b ancestor level rule amount = .ok b') : Lots b b' := by
  simp only [accrueAmount, bind_eq_ok, pure_eq_ok, createAccrual, guard_eq_ok, Except.ok.injEq] at h
  obtain ⟨⟨posted, obligation⟩, hposted, _, ⟨-, rfl⟩, rfl⟩ := h
  obtain ⟨hnetwork, hrules, haccounts, hevents, hexecutions, hkept, hcount⟩ := postCents_lots hposted
  exact ⟨hnetwork, hrules, haccounts, hevents, hexecutions, hkept, hcount⟩

lemma accrueLevel_lots {attribution execution ancestor level : ℕ} {remaining left : ℚ}
    (h : accrueLevel event attribution execution b remaining ancestor level = .ok (b', left)) : Lots b b' := by
  rw [accrueLevel] at h
  split at h
  · cases h
    exact lots_refl b
  · obtain ⟨resolved, -, h⟩ := bind_eq_ok.mp h
    cases resolved with
    | none => cases h; exact lots_refl b
    | some r =>
      obtain ⟨rule, r⟩ := r
      cases hrate : r.fixedAmount with
      | none => simp only [hrate] at h; cases h; exact lots_refl b
      | some rate =>
        simp only [hrate] at h
        split at h
        · cases h
          exact lots_refl b
        · simp only [bind_eq_ok, pure_eq_ok, Prod.mk.injEq] at h
          obtain ⟨_, hamount, rfl, -⟩ := h
          exact accrueAmount_lots hamount

lemma accrueLevels_lots {attribution execution : ℕ} {remaining : ℚ} {pairs : List (ℕ × ℕ)}
    (h : accrueLevels event attribution execution b remaining pairs = .ok b') : Lots b b' := by
  induction pairs generalizing b remaining with
  | nil =>
    cases h
    exact lots_refl _
  | cons pair pairs ih =>
    obtain ⟨next, hnext, h⟩ := bind_eq_ok.mp h
    exact (accrueLevel_lots hnext).trans (ih h)

inductive LotGenerated (b : Books) (pk : ℕ) (event : LotExecutionEvent) : Books → Option ℕ → Prop
  | refused (h : ¬ Earns b event) : LotGenerated b pk event b none
  | existing {i : ℕ} {o : Obligation} (h : Earns b event) (hget : b.obligations.get i = some o)
      (hsource : o.sourceEventType = .perLotExecution ∧ o.sourceEventId = pk) : LotGenerated b pk event b (some i)
  | created {o : Obligation} (h : Earns b event)
      (hsource : o.sourceEventType = .perLotExecution ∧ o.sourceEventId = pk) (hrule : o.ruleType = .perLot)
      (hreferral : (attributionOf b event).map (fun r => r.2.referral) = some o.referral)
      (hnew : ∀ i x, b.obligations.get i = some x → ¬ (x.referral = o.referral ∧ x.ruleType = .perLot ∧
        x.sourceEventType = .perLotExecution ∧ x.sourceEventId = pk)) :
      LotGenerated b pk event { b with obligations := b.obligations.insert o } (some b.obligations.next)

lemma lot_generated {direct : Option ℕ}
    (h : Accruals.generatePerLotObligation b pk event = .ok (b', direct)) : LotGenerated b pk event b' direct := by
  obtain ⟨account, haccount, h⟩ := bind_eq_ok.mp h
  rw [require_eq_ok] at haccount
  split at h
  · next hfrozen =>
    cases h
    refine .refused fun hearns => ?_
    obtain ⟨account', _, _, _, _, _, _, haccount', hwithdrawable, -⟩ := hearns
    obtain rfl := Option.some.inj (haccount'.symm.trans haccount)
    simp [hfrozen] at hwithdrawable
  · next hwithdrawable =>
    split at h
    · next hnobody =>
      cases h
      exact .refused fun hearns => hearns.attributed hnobody
    · next attribution a hattribution =>
      split at h
      · next hheld =>
        cases h
        refine .refused fun hearns => ?_
        simpa [hheld] using hearns.conditions haccount hattribution
      · next hactive =>
        split at h
        · next e herror =>
          cases h
          refine .refused fun hearns => ?_
          simpa [herror] using hearns.conditions haccount hattribution
        · next hnone =>
          cases h
          refine .refused fun hearns => ?_
          simpa [hnone] using hearns.conditions haccount hattribution
        · next rule r hresolved =>
          simp only [bind_eq_ok, require_eq_ok] at h
          obtain ⟨rate, hrate, calculated, hcalculated, h⟩ := h
          have hearns : Earns b event := ⟨account, attribution, a, rule, r, rate, calculated, haccount,
            by simpa using hwithdrawable, hattribution, by simpa using hactive, hresolved, hrate, hcalculated⟩
          split at h
          · next i o hfirst =>
            cases h
            obtain ⟨hget, hkey⟩ := Table.first_some hfirst
            have hsame := of_decide_eq_true hkey
            exact .existing hearns hget ⟨hsame.2.2.1, hsame.2.2.2⟩
          · next hfirst =>
            simp only [bind_eq_ok, pure_eq_ok, createObligation, guard_eq_ok, Except.ok.injEq] at h
            obtain ⟨_, ⟨-, rfl⟩, h⟩ := h
            cases h
            refine .created hearns ⟨rfl, rfl⟩ rfl (by rw [hattribution]; rfl) fun i x hx => ?_
            exact of_decide_eq_false (Table.first_none hfirst hx)

lemma earns_generates (h : Earns b event) (pk : ℕ) :
    ∃ b' o, Accruals.generatePerLotObligation b pk event = .ok (b', some o) := by
  obtain ⟨account, attribution, a, rule, r, rate, calculated, haccount, hwithdrawable, hattribution, hactive, hresolved,
    hrate, hcalculated⟩ := h
  cases hfirst : b.obligations.first fun o => o.referral = a.referral ∧ o.ruleType = .perLot ∧
      o.sourceEventType = .perLotExecution ∧ o.sourceEventId = pk with
  | some existing =>
    refine ⟨b, existing.1, ?_⟩
    rw [Accruals.generatePerLotObligation, bind_eq_ok]
    refine ⟨account, require_eq_ok.mpr haccount, ?_⟩
    simp only [hwithdrawable, hattribution, hactive, hresolved, Bool.true_eq_false, if_false, bind_eq_ok, require_eq_ok]
    exact ⟨rate, hrate, calculated, hcalculated, by simp only [hfirst]; rfl⟩
  | none =>
    have hfree : (b.obligations.exists? fun o => o.referral = a.referral ∧ o.ruleType = .perLot ∧
        o.sourceEventType = .perLotExecution ∧ o.sourceEventId = pk) = false := Table.exists?_of_first_none hfirst
    let o : Obligation :=
      ⟨attribution, a.referral, rule, .perLot, .perLotExecution, pk, event.qty, some rate, calculated⟩
    refine ⟨{ b with obligations := b.obligations.insert o }, b.obligations.next, ?_⟩
    rw [Accruals.generatePerLotObligation, bind_eq_ok]
    refine ⟨account, require_eq_ok.mpr haccount, ?_⟩
    simp only [hwithdrawable, hattribution, hactive, hresolved, Bool.true_eq_false, if_false, bind_eq_ok, require_eq_ok]
    refine ⟨rate, hrate, calculated, hcalculated, ?_⟩
    simp only [hfirst, createObligation, hfree, Bool.false_eq_true, if_false]
    rfl

end Executions

section Owners

variable {b b' : Books} {event : LotExecutionEvent} {pk : ℕ} {direct : Option ℕ}

def ownerOf (b : Books) (event : LotExecutionEvent) : Option ℕ := (attributionOf b event).map fun r => r.2.referral

/-- Every direct commission is its event's, and belongs to the introducer of whoever has traded. -/
def Owned (b : Books) : Prop := ∀ i o, b.obligations.get i = some o → o.sourceEventType = .perLotExecution →
  o.ruleType = .perLot ∧ ∃ event, b.events.get o.sourceEventId = some event ∧ ownerOf b event = some o.referral

lemma Owned.of_kept (h : Owned b)
    (hkept : ∀ i o, b'.obligations.get i = some o → o.sourceEventType = .perLotExecution → b.obligations.get i = some o)
    (hevents : ∀ i e, b.events.get i = some e → b'.events.get i = some e)
    (howner : ∀ e referral, ownerOf b e = some referral → ownerOf b' e = some referral) : Owned b' := by
  intro i o ho hsource
  obtain ⟨hrule, event, hevent, howned⟩ := h i o (hkept i o ho hsource) hsource
  exact ⟨hrule, event, hevents _ _ hevent, howner _ _ howned⟩

lemma Owned.lots (h : Owned b) (hlots : Lots b b') : Owned b' :=
  h.of_kept hlots.kept (fun i e he => hlots.events ▸ he) fun e referral he => by
    rw [ownerOf, attributionOf, hlots.network, hlots.accounts]
    exact he

/-- The event has its direct commission exactly if it had it or it earns it. -/
structure Paid (b : Books) (pk : ℕ) (event : LotExecutionEvent) (b' : Books) : Prop where
  network : b'.network = b.network
  rules : b'.rules = b.rules
  accounts : b'.accounts = b.accounts
  events : b'.events = b.events
  owned : Owned b'
  once : lotCount b' pk ≤ 1
  own : lotCount b' pk = 1 ↔ lotCount b pk = 1 ∨ Earns b event
  apart : ∀ j, j ≠ pk → lotCount b' j = lotCount b j

lemma paid_of_settled (howned : Owned b) (hone : lotCount b pk ≤ 1) (h : 0 < lotCount b pk ∨ ¬ Earns b event) :
    Paid b pk event b := by
  refine ⟨rfl, rfl, rfl, rfl, howned, hone, ⟨.inl, fun hor => hor.elim id fun hearns => ?_⟩, fun _ _ => rfl⟩
  have hpos := h.resolve_right (not_not_intro hearns)
  omega

lemma Paid.lots (h : Paid b pk event b') {b'' : Books} (hlots : Lots b' b'') : Paid b pk event b'' where
  network := hlots.network.trans h.network
  rules := hlots.rules.trans h.rules
  accounts := hlots.accounts.trans h.accounts
  events := hlots.events.trans h.events
  owned := h.owned.lots hlots
  once := hlots.count pk ▸ h.once
  own := hlots.count pk ▸ h.own
  apart j hj := (hlots.count j).trans (h.apart j hj)

lemma LotGenerated.executions (h : LotGenerated b pk event b' direct) : b'.executions = b.executions := by
  cases h <;> rfl

lemma LotGenerated.paid (h : LotGenerated b pk event b' direct) (howned : Owned b)
    (hevent : b.events.get pk = some event) (hone : lotCount b pk ≤ 1) : Paid b pk event b' := by
  cases h with
  | refused hnot => exact paid_of_settled howned hone (.inr hnot)
  | existing hearns hget hsource =>
    exact paid_of_settled howned hone (.inl (Table.count_pos hget (decide_eq_true hsource)))
  | @created o hearns hsource hrule hreferral hnew =>
    have hnone : lotCount b pk = 0 := by
      rw [lotCount, Table.count_eq_zero_iff]
      intro i x hx
      rw [decide_eq_false_iff_not]
      rintro ⟨hxsource, hxid⟩
      obtain ⟨hxrule, xevent, hxevent, hxowner⟩ := howned i x hx hxsource
      rw [hxid, hevent, Option.some.injEq] at hxevent
      subst hxevent
      have hsame : x.referral = o.referral := Option.some.inj (hxowner.symm.trans hreferral)
      exact hnew i x hx ⟨hsame, hxrule, hxsource, hxid⟩
    have hinsert : lotCount { b with obligations := b.obligations.insert o } pk = 1 := by
      rw [lotCount, Table.count_insert, if_pos (decide_eq_true hsource)]
      simpa [lotCount] using hnone
    refine ⟨rfl, rfl, rfl, rfl, ?_, hinsert.le, by simp [hinsert, hearns], fun j hj => ?_⟩
    · intro i x hx hxsource
      obtain hold | ⟨-, rfl⟩ := Table.get_insert_some hx
      · exact howned i x hold hxsource
      · exact ⟨hrule, event, by rw [hsource.2]; exact hevent, hreferral⟩
    · rw [lotCount, Table.count_insert, if_neg]
      · rfl
      · simp [hsource.2, Ne.symm hj]

def received (b : Books) (pk : ℕ) : Books := { b with executions := b.executions.insert ⟨pk⟩ }

lemma processExecution_direct {done : ℕ} (h : Accruals.processExecution b pk = .ok (b', done)) :
    ∃ event, b.events.get pk = some event ∧
      ((b.executions.exists? fun x => x.event = pk) = true ∧ b' = b ∨
        (b.executions.exists? fun x => x.event = pk) = false ∧ (¬ Earns b event ∧ b' = received b pk ∨
          ∃ mid direct, Accruals.generatePerLotObligation (received b pk) pk event = .ok (mid, direct) ∧
            Lots mid b')) := by
  obtain ⟨event, hevent, h⟩ := bind_eq_ok.mp h
  rw [require_eq_ok] at hevent
  refine ⟨event, hevent, ?_⟩
  split at h
  · next x done' hfirst =>
    cases h
    exact .inl ⟨Table.exists?_of_first hfirst, rfl⟩
  · next hfirst =>
    refine .inr ⟨Table.exists?_of_first_none hfirst, ?_⟩
    obtain ⟨account, haccount, h⟩ := bind_eq_ok.mp h
    rw [require_eq_ok] at haccount
    split at h
    · next hnobody =>
      cases h
      exact .inl ⟨fun hearns => hearns.attributed hnobody, rfl⟩
    · next attribution a hattribution =>
      obtain ⟨chain, -, h⟩ := bind_eq_ok.mp h
      simp only at h
      split at h
      · next hfrozen =>
        cases h
        refine .inl ⟨fun hearns => ?_, rfl⟩
        simpa [hfrozen] using hearns.conditions haccount hattribution
      · split at h
        · next hheld =>
          cases h
          refine .inl ⟨fun hearns => ?_, rfl⟩
          have hactive := (hearns.conditions haccount hattribution).2.1
          exact absurd (hheld.symm.trans hactive) (by simp)
        · simp only [bind_eq_ok] at h
          obtain ⟨_, -, ⟨mid, direct⟩, hgenerated, h⟩ := h
          refine .inr ⟨mid, direct, hgenerated, ?_⟩
          cases direct with
          | none => cases h; exact lots_refl _
          | some direct =>
            obtain ⟨resolved, -, h⟩ := bind_eq_ok.mp h
            cases resolved with
            | none => cases h; exact lots_refl _
            | some r =>
              obtain ⟨budgetRule, r⟩ := r
              cases hbudget : r.fixedAmount with
              | none => simp only [hbudget] at h; cases h; exact lots_refl _
              | some budget =>
                simp only [hbudget] at h
                obtain ⟨accrued, haccrued, h⟩ := bind_eq_ok.mp h
                cases h
                exact accrueLevels_lots haccrued

lemma processExecution_paid {done : ℕ} (howned : Owned b) (hone : lotCount b pk ≤ 1)
    (h : Accruals.processExecution b pk = .ok (b', done)) : ∃ event, b.events.get pk = some event ∧
      ((b.executions.exists? fun x => x.event = pk) = true ∧ b' = b ∨
        (b.executions.exists? fun x => x.event = pk) = false ∧ Paid b pk event b' ∧
          b'.executions = b.executions.insert ⟨pk⟩) := by
  obtain ⟨event, hevent, hdone | ⟨hno, ⟨hnot, rfl⟩ | ⟨mid, direct, hgenerated, hlots⟩⟩⟩ := processExecution_direct h
  · exact ⟨event, hevent, .inl hdone⟩
  · have h := paid_of_settled howned hone (.inr hnot)
    exact ⟨event, hevent, .inr ⟨hno, ⟨rfl, rfl, rfl, rfl, h.owned, h.once, h.own, h.apart⟩, rfl⟩⟩
  · have hlot := lot_generated hgenerated
    have h := hlot.paid howned hevent hone
    have hpaid : Paid b pk event mid := ⟨h.network, h.rules, h.accounts, h.events, h.owned, h.once, h.own, h.apart⟩
    exact ⟨event, hevent, .inr ⟨hno, hpaid.lots hlots, hlots.executions.trans hlot.executions⟩⟩

end Owners

section Percentages

variable {s s' : Sources} {kind : PercentKind} {pk : ℕ} {basis : Option Basis}

def sourceBasis (s : Sources) : PercentKind → ℕ → Option (Option Basis)
  | .challengePercent, pk => (s.enrollments.get pk).map enrollmentBasis
  | .depositPercent, pk => (s.deposits.get pk).map depositBasis
  | .tradingCommissionRevenueShare, pk => (s.brokerLedger.get pk).map (revenueBasis s .commission)
  | .spreadRevenueShare, pk => (s.brokerLedger.get pk).map (revenueBasis s .spread)

lemma generate_percent {r : Sources × Option ℕ} : generate s (.percent kind) pk = .ok r ↔
    ∃ basis, sourceBasis s kind pk = some basis ∧ generatePercentObligation s kind pk basis = .ok r := by
  cases kind <;>
    simp [generate, generateChallengePercentObligation, generateDepositPercentObligation,
      generateTradingCommissionRevenueShareObligation, generateSpreadRevenueShareObligation, sourceBasis, bind_eq_ok,
      require_eq_ok]

def percentCount (s : Sources) (kind : PercentKind) (pk : ℕ) : ℕ :=
  s.obligations.count fun o => o.kind = kind ∧ o.sourceEventId = pk

def PercentEarns (s : Sources) (kind : PercentKind) (pk : ℕ) (basis : Option Basis) : Prop :=
  ∃ terms rate obligation, commissionTerms s kind basis = some terms ∧ s.percentages terms.rule = some rate ∧
    percentObligation kind pk terms rate = .ok obligation

inductive PercentGenerated (s : Sources) (kind : PercentKind) (pk : ℕ) (basis : Option Basis) :
    Sources → Option ℕ → Prop
  | refused (h : ¬ PercentEarns s kind pk basis) : PercentGenerated s kind pk basis s none
  | existing {i : ℕ} (h : 0 < percentCount s kind pk) : PercentGenerated s kind pk basis s (some i)
  | created {o : PercentObligation} (h : PercentEarns s kind pk basis) (hkind : o.kind = kind)
      (hsource : o.sourceEventId = pk) :
      PercentGenerated s kind pk basis { s with obligations := s.obligations.insert o } (some s.obligations.next)

lemma percentObligation_key {terms : Terms} {rate : Percentage} {o : PercentObligation}
    (h : percentObligation kind pk terms rate = .ok o) :
    o.referral = terms.referral ∧ o.kind = kind ∧ o.sourceEventId = pk := by
  simp only [percentObligation, bind_eq_ok, require_eq_ok, pure_eq_ok] at h
  obtain ⟨_, -, _, -, rfl⟩ := h
  exact ⟨rfl, rfl, rfl⟩

lemma percent_generated {direct : Option ℕ}
    (h : generatePercentObligation s kind pk basis = .ok (s', direct)) :
    PercentGenerated s kind pk basis s' direct := by
  rw [generatePercentObligation] at h
  split at h
  · next hnone =>
    cases h
    refine .refused ?_
    rintro ⟨_, _, _, hterms, -⟩
    rw [hnone] at hterms
    cases hterms
  · next terms hterms =>
    obtain ⟨rate, hrate, h⟩ := bind_eq_ok.mp h
    split at h
    · next i o hfirst =>
      cases h
      obtain ⟨hget, hkey⟩ := Table.first_some hfirst
      exact .existing (Table.count_pos hget (by simpa using (of_decide_eq_true hkey).2))
    · obtain ⟨o, ho, h⟩ := bind_eq_ok.mp h
      cases h
      obtain ⟨-, hkind, hsource⟩ := percentObligation_key ho
      exact .created ⟨terms, rate, o, hterms, require_eq_ok.mp hrate, ho⟩ hkind hsource

lemma percentEarns_generates (h : PercentEarns s kind pk basis) :
    ∃ s' o, generatePercentObligation s kind pk basis = .ok (s', some o) := by
  obtain ⟨terms, rate, o, hterms, hrate, ho⟩ := h
  rw [generatePercentObligation, hterms]
  cases hfirst : s.obligations.first fun o => o.referral = terms.referral ∧ o.kind = kind ∧ o.sourceEventId = pk with
  | some existing => exact ⟨s, existing.1, bind_eq_ok.mpr ⟨rate, require_eq_ok.mpr hrate, by rw [hfirst]; rfl⟩⟩
  | none =>
    refine ⟨{ s with obligations := s.obligations.insert o }, s.obligations.next, ?_⟩
    refine bind_eq_ok.mpr ⟨rate, require_eq_ok.mpr hrate, ?_⟩
    rw [hfirst]
    exact bind_eq_ok.mpr ⟨o, ho, rfl⟩

lemma PercentGenerated.counted {direct : Option ℕ} (h : PercentGenerated s kind pk basis s' direct)
    (hnone : percentCount s kind pk = 0) : percentCount s' kind pk ≤ 1 ∧
      (percentCount s' kind pk = 1 ↔ PercentEarns s kind pk basis) := by
  cases h with
  | refused hnot => simp [hnot, hnone]
  | existing hpos => omega
  | @created o hearns hkind hsource =>
    have hinsert : percentCount { s with obligations := s.obligations.insert o } kind pk =
        percentCount s kind pk + 1 := by
      rw [percentCount, Table.count_insert, if_pos (decide_eq_true ⟨hkind, hsource⟩)]
      rfl
    simp [hinsert, hnone, hearns]

lemma PercentGenerated.apart {direct : Option ℕ} (h : PercentGenerated s kind pk basis s' direct)
    {kind' : PercentKind} {j : ℕ} (hne : kind' ≠ kind ∨ j ≠ pk) : percentCount s' kind' j = percentCount s kind' j := by
  cases h with
  | refused | existing => rfl
  | @created o hearns hkind hsource =>
    rw [percentCount, Table.count_insert, if_neg]
    · rfl
    · rw [decide_eq_true_iff, hkind, hsource]
      rintro ⟨rfl, rfl⟩
      simp at hne

end Percentages

end TrxSimulator.IBNetwork.Generated
