import TrxSimulator.IBNetwork.Accruals

/-! What a network accrues is posted in whole cents or carried, and no event accrues more than its budget
or more than once. -/

namespace TrxSimulator.IBNetwork.Conservation

open Foundations.Tables Foundations.Decimals Foundations.Outcomes Foundations.Runs Money Accounts Accruals
open Links (Network Attribution ancestors)

def posted (s : Books) (referral : ℕ) : ℚ := s.obligations.total fun _ o =>
  if o.ruleType = .subIbPerLot ∧ o.sourceEventType = .subIbAccrual ∧ o.referral = referral then
    o.calculatedAmount.value
  else 0

def accrued (s : Books) (referral : ℕ) : ℚ := s.accruals.total fun _ a =>
  if a.referral = referral then a.exactAmount else 0

def eventTotal (s : Books) (execution : ℕ) : ℚ := s.accruals.total fun _ a =>
  if a.execution = execution then a.exactAmount else 0

def budgetAt (s : Books) (event : LotExecutionEvent) : ℚ :=
  match attributionOf s event with
  | none => 0
  | some (_, a) => rateAt s a.referral .subIbBudget event.createdAt

structure Conserved (s : Books) : Prop where
  oneExecution : ∀ i j x y, s.executions.get i = some x → s.executions.get j = some y → x.event = y.event → i = j
  executed : ∀ i a, s.accruals.get i = some a → a.execution < s.executions.next
  balance : ∀ referral, posted s referral + carryOf s referral = accrued s referral
  carry : ∀ referral, 0 ≤ carryOf s referral ∧ carryOf s referral < 1 / 100

section Rules

variable {s : Books} {referral : ℕ} {ruleType : RuleType} {atTime : ℤ}

lemma rateAt_of_ok {rule : ℕ} {r : Rule} {rate : Balance}
    (h : resolveApplicableRule s referral ruleType atTime = .ok (some (rule, r)))
    (hr : r.fixedAmount = some rate) : rateAt s referral ruleType atTime = rate.value := by
  rw [rateAt, h]
  simp only [hr, Option.elim_some]

lemma rateAt_nonneg : 0 ≤ rateAt s referral ruleType atTime := by
  rw [rateAt]
  split
  · next rule _ =>
    cases hr : rule.fixedAmount with
    | none => exact le_rfl
    | some rate =>
      have hnonneg := rule.nonneg rate hr
      exact div_nonneg (by exact_mod_cast hnonneg) (by positivity)
  · exact le_rfl

lemma resolve_congr {s' : Books} (h : s'.rules = s.rules) :
    resolveApplicableRule s' referral ruleType atTime = resolveApplicableRule s referral ruleType atTime := by
  simp only [resolveApplicableRule, activeCandidates, h]

lemma rateAt_congr {s' : Books} (h : s'.rules = s.rules) :
    rateAt s' referral ruleType atTime = rateAt s referral ruleType atTime := by
  rw [rateAt, rateAt, resolve_congr h]

lemma budgetAt_nonneg (event : LotExecutionEvent) : 0 ≤ budgetAt s event := by
  rw [budgetAt]
  split
  · exact le_rfl
  · exact rateAt_nonneg

lemma budgetAt_of_attribution {event : LotExecutionEvent} {attribution : ℕ} {a : Attribution}
    (h : attributionOf s event = some (attribution, a)) :
    budgetAt s event = rateAt s a.referral .subIbBudget event.createdAt := by
  rw [budgetAt, h]

lemma qty_nonneg (event : LotExecutionEvent) : 0 ≤ event.qty.value :=
  div_nonneg (by exact_mod_cast event.nonneg) (by positivity)

end Rules

section Levels

variable {s s' : Books} {event : LotExecutionEvent} {attribution execution : ℕ}

lemma units_of_store {cents : ℤ} {amount : Balance} (h0 : 0 ≤ cents)
    (h : store 12 2 (divide cents 100) = some amount) : amount.units = cents := by
  have hround := store_eq_some.mp h
  have hfits := amount.fits
  by_cases hlarge : cents < 10 ^ 27
  · have hexact : divide cents 100 = scaled 2 cents := by
      rw [divide, scaled, show (cents / 100 : ℚ) = cents / 10 ^ 2 by norm_num]
      exact context_grid (by rw [abs_of_nonneg h0, precision]; omega)
    rw [hexact] at h
    exact (store_scaled.mp h).symm
  · have hle : ((10 ^ 27 : ℤ) : ℚ) / 10 ^ 2 ≤ divide cents 100 := by
      have hcast : ((10 ^ 27 : ℤ) : ℚ) ≤ cents := by exact_mod_cast not_lt.mp hlarge
      rw [divide, ← context_grid (p := precision) (k := 2) (m := 10 ^ 27) (by norm_num [precision])]
      refine context_mono (by norm_num [precision]) ?_
      rw [div_le_div_iff₀ (by norm_num) (by norm_num)]
      linarith
    have hbig : (10 ^ 12 : ℤ) ≤ roundHalfAway (divide cents 100 * 10 ^ 2) := by
      have hx : ((10 ^ 12 : ℤ) : ℚ) ≤ divide cents 100 * 10 ^ 2 := by
        push_cast at hle ⊢
        linarith
      rw [roundHalfAway_of_nonneg (le_trans (by norm_num) hx), Int.le_floor]
      linarith
    rw [hround] at hbig
    exact absurd hfits (not_lt.mpr (hbig.trans (le_abs_self _)))

structure LevelWrite (s s' : Books) (accrual : Accrual) : Prop where
  network : s'.network = s.network
  rules : s'.rules = s.rules
  executions : s'.executions = s.executions
  accruals : s'.accruals = s.accruals.insert accrual
  balance : ∀ referral, posted s' referral + carryOf s' referral =
    posted s referral + carryOf s referral + if referral = accrual.referral then accrual.exactAmount else 0
  carry : ∀ referral, (carryOf s' referral = carryOf s referral) ∨
    (0 ≤ carryOf s' referral ∧ carryOf s' referral < 1 / 100)

lemma posted_insert (s : Books) (o : Obligation) (referral : ℕ) :
    posted { s with obligations := s.obligations.insert o } referral = posted s referral +
      if o.ruleType = .subIbPerLot ∧ o.sourceEventType = .subIbAccrual ∧ o.referral = referral then
        o.calculatedAmount.value
      else 0 := Table.total_insert _ _ _

lemma postCents_posted {ancestor rule : ℕ} {cents : ℤ} {obligation : Option ℕ} (h0 : 0 ≤ cents)
    (h : postCents event attribution execution s ancestor rule cents = .ok (s', obligation)) :
    s' = { s with obligations := s'.obligations } ∧
      ∀ referral, posted s' referral = posted s referral + if referral = ancestor then (cents : ℚ) / 100 else 0 := by
  rw [postCents] at h
  split at h
  · next hzero =>
    cases h
    refine ⟨rfl, fun referral => ?_⟩
    simp [hzero]
  · simp only [bind_eq_ok, require_eq_ok, pure_eq_ok, createObligation, guard_eq_ok, Except.ok.injEq] at h
    obtain ⟨amount, hstore, -, ⟨-, rfl⟩, h⟩ := h
    cases h
    refine ⟨rfl, fun referral => ?_⟩
    have hunits := units_of_store h0 hstore
    rw [posted_insert]
    simp only [true_and, eq_comm (a := ancestor), Numeric.value, scaled, hunits]
    norm_num

lemma accrueAmount_write {ancestor level rule : ℕ} {amount : ℚ} (hcarry : 0 ≤ carryOf s ancestor)
    (hpos : 0 < amount) (h : accrueAmount event attribution execution s ancestor level rule amount = .ok s') :
    ∃ accrual : Accrual, accrual.execution = execution ∧ accrual.referral = ancestor ∧ accrual.level = level ∧
      accrual.exactAmount = amount ∧ LevelWrite s s' accrual := by
  simp only [accrueAmount, bind_eq_ok, pure_eq_ok, createAccrual, guard_eq_ok, Except.ok.injEq] at h
  obtain ⟨⟨s₁, obligation⟩, hposted, _, ⟨-, rfl⟩, rfl⟩ := h
  have htotal : 0 ≤ (carryOf s ancestor + amount) * 100 := by positivity
  obtain ⟨hframe, hsum⟩ := postCents_posted (Int.floor_nonneg.mpr htotal) hposted
  refine ⟨⟨execution, ancestor, rule, level, amount, carryOf s ancestor, carryOf s ancestor + amount -
    ⌊(carryOf s ancestor + amount) * 100⌋ / 100, obligation⟩, rfl, rfl, rfl, rfl, ?_, ?_, ?_, ?_, ?_, ?_⟩
  · rw [hframe]
  · rw [hframe]
  · rw [hframe]
  · rw [hframe]
  · intro referral
    have hcarries : s₁.carries = s.carries := by rw [hframe]
    change posted s₁ referral + (Function.update s₁.carries ancestor _ referral).getD 0 = _
    rw [hsum, hcarries]
    by_cases hr : referral = ancestor
    · subst hr
      rw [Function.update_self, if_pos rfl, if_pos rfl, Option.getD_some]
      ring
    · rw [Function.update_of_ne hr, if_neg hr, if_neg hr, carryOf]
      ring
  · intro referral
    have hcarries : s₁.carries = s.carries := by rw [hframe]
    change (Function.update s₁.carries ancestor _ referral).getD 0 = _ ∨ _ ≤
      (Function.update s₁.carries ancestor _ referral).getD 0 ∧
      (Function.update s₁.carries ancestor _ referral).getD 0 < _
    rw [hcarries]
    by_cases hr : referral = ancestor
    · subst hr
      rw [Function.update_self, Option.getD_some]
      have hlo := Int.floor_le ((carryOf s referral + amount) * 100)
      have hhi := Int.lt_floor_add_one ((carryOf s referral + amount) * 100)
      exact Or.inr ⟨by linarith, by linarith⟩
    · rw [Function.update_of_ne hr]
      exact Or.inl rfl

lemma accrueLevel_cases {remaining left : ℚ} {ancestor level : ℕ} (hcarry : 0 ≤ carryOf s ancestor)
    (h : accrueLevel event attribution execution s remaining ancestor level = .ok (s', left)) :
    (s' = s ∧ left = remaining) ∨ ∃ accrual : Accrual, accrual.execution = execution ∧
      accrual.referral = ancestor ∧ accrual.level = level ∧ 0 < accrual.exactAmount ∧
      accrual.exactAmount ≤ remaining ∧
      accrual.exactAmount ≤
        rateAt s ancestor .subIbPerLot event.createdAt * event.qty.value / 2 ^ (level - 1) ∧
      left = remaining - accrual.exactAmount ∧ LevelWrite s s' accrual := by
  rw [accrueLevel] at h
  split at h
  · cases h
    exact Or.inl ⟨rfl, rfl⟩
  · obtain ⟨resolved, hresolved, h⟩ := bind_eq_ok.mp h
    cases resolved with
    | none => cases h; exact Or.inl ⟨rfl, rfl⟩
    | some r =>
      obtain ⟨rule, r⟩ := r
      cases hrate : r.fixedAmount with
      | none => simp only [hrate] at h; cases h; exact Or.inl ⟨rfl, rfl⟩
      | some rate =>
        simp only [hrate] at h
        split at h
        · cases h
          exact Or.inl ⟨rfl, rfl⟩
        · next hpos =>
          simp only [bind_eq_ok, pure_eq_ok, Prod.mk.injEq] at h
          obtain ⟨_, hamount, rfl, rfl⟩ := h
          obtain ⟨accrual, hexec, hreferral, hlevel, hexact, hwrite⟩ :=
            accrueAmount_write hcarry (not_le.mp hpos) hamount
          refine Or.inr ⟨accrual, hexec, hreferral, hlevel, ?_, ?_, ?_, ?_, hwrite⟩
          · rw [hexact]
            exact not_le.mp hpos
          · rw [hexact]
            exact min_le_left _ _
          · rw [hexact, rateAt_of_ok hresolved hrate]
            exact min_le_right _ _
          · rw [hexact]

structure AccrualWithin (s : Books) (event : LotExecutionEvent) (chain : List ℕ) (a : Accrual) : Prop where
  level : 1 ≤ a.level ∧ chain[a.level - 1]? = some a.referral
  positive : 0 < a.exactAmount
  rate : a.exactAmount ≤
    rateAt s a.referral .subIbPerLot event.createdAt * event.qty.value / 2 ^ (a.level - 1)

structure Between (start s : Books) (event : LotExecutionEvent) (execution : ℕ) (chain : List ℕ)
    (budget remaining : ℚ) : Prop where
  network : s.network = start.network
  rules : s.rules = start.rules
  executions : s.executions = start.executions
  balance : ∀ referral, posted s referral + carryOf s referral = accrued s referral
  carry : ∀ referral, 0 ≤ carryOf s referral ∧ carryOf s referral < 1 / 100
  kept : ∀ i a, start.accruals.get i = some a → s.accruals.get i = some a
  new : ∀ i a, s.accruals.get i = some a →
    start.accruals.get i = some a ∨ (a.execution = execution ∧ AccrualWithin start event chain a)
  spent : eventTotal s execution + remaining = budget
  left : 0 ≤ remaining

lemma Between.write {start : Books} {chain : List ℕ} {budget remaining : ℚ} {accrual : Accrual}
    (h : Between start s event execution chain budget remaining) (hexec : accrual.execution = execution)
    (hwithin : AccrualWithin start event chain accrual) (hle : accrual.exactAmount ≤ remaining)
    (hw : LevelWrite s s' accrual) :
    Between start s' event execution chain budget (remaining - accrual.exactAmount) where
  network := hw.network.trans h.network
  rules := hw.rules.trans h.rules
  executions := hw.executions.trans h.executions
  balance referral := by
    rw [hw.balance, h.balance, accrued, accrued, hw.accruals, Table.total_insert]
    simp only [eq_comm (a := referral)]
  carry referral := by
    rcases hw.carry referral with heq | hnew
    · rw [heq]
      exact h.carry referral
    · exact hnew
  kept i a ha := by
    rw [hw.accruals]
    exact Table.get_insert_of_get (h.kept i a ha) _
  new i a ha := by
    rw [hw.accruals] at ha
    rcases Table.get_insert_some ha with hold | ⟨-, rfl⟩
    · exact h.new i a hold
    · exact Or.inr ⟨hexec, hwithin⟩
  spent := by
    rw [eventTotal, hw.accruals, Table.total_insert, if_pos hexec, ← h.spent, eventTotal]
    ring
  left := sub_nonneg.mpr hle

lemma accrueLevels_between {start : Books} {chain : List ℕ} {budget remaining : ℚ} {pairs : List (ℕ × ℕ)}
    (h : Between start s event execution chain budget remaining)
    (hpairs : ∀ p ∈ pairs, 1 ≤ p.2 ∧ chain[p.2 - 1]? = some p.1)
    (hok : accrueLevels event attribution execution s remaining pairs = .ok s') :
    ∃ left, Between start s' event execution chain budget left := by
  induction pairs generalizing s remaining with
  | nil =>
    cases hok
    exact ⟨remaining, h⟩
  | cons p rest ih =>
    obtain ⟨ancestor, level⟩ := p
    obtain ⟨⟨s₁, left⟩, hlevel, hnext⟩ := bind_eq_ok.mp hok
    have hrest := fun p hp => hpairs p (List.mem_cons_of_mem _ hp)
    rcases accrueLevel_cases (h.carry ancestor).1 hlevel with ⟨rfl, rfl⟩ |
      ⟨accrual, hexec, rfl, rfl, hpos, hle, hrate, rfl, hwrite⟩
    · exact ih h hrest hnext
    · refine ih (h.write hexec ⟨hpairs _ List.mem_cons_self, hpos, ?_⟩ hle hwrite) hrest hnext
      rwa [rateAt_congr h.rules] at hrate

end Levels

section Calls

variable {s s' : Books} {event : LotExecutionEvent} {pk done : ℕ}

lemma generatePerLot_cases {direct : Option ℕ} (h : generatePerLotObligation s pk event = .ok (s', direct)) :
    s' = s ∨ ∃ o : Obligation, o.ruleType = .perLot ∧ s' = { s with obligations := s.obligations.insert o } := by
  obtain ⟨account, -, h⟩ := bind_eq_ok.mp h
  split at h
  · cases h
    exact Or.inl rfl
  · split at h
    · cases h
      exact Or.inl rfl
    · split at h
      · cases h
        exact Or.inl rfl
      · split at h
        · cases h
          exact Or.inl rfl
        · cases h
          exact Or.inl rfl
        · simp only [bind_eq_ok] at h
          obtain ⟨rate, -, amount, -, h⟩ := h
          split at h
          · cases h
            exact Or.inl rfl
          · simp only [bind_eq_ok, pure_eq_ok, createObligation, guard_eq_ok, Except.ok.injEq] at h
            obtain ⟨_, ⟨-, rfl⟩, h⟩ := h
            cases h
            exact Or.inr ⟨_, rfl, rfl⟩

structure Within (s s' : Books) (event : LotExecutionEvent) (done : ℕ) : Prop where
  budget : eventTotal s' done ≤ budgetAt s event * event.qty.value
  levels : ∀ i a, s'.accruals.get i = some a → a.execution = done →
    ∃ introducer chain, (attributionOf s event).map (fun r => r.2.referral) = some introducer ∧
      ancestors s.network introducer (some event.createdAt) = .ok chain ∧ AccrualWithin s event chain a

inductive Processed (s : Books) (pk : ℕ) : Books → ℕ → Prop
  | again {done : ℕ} {x : Execution} (h : s.executions.get done = some x) (hx : x.event = pk) :
      Processed s pk s done
  | first {s' : Books} {event : LotExecutionEvent} (hevent : s.events.get pk = some event)
      (hnew : ∀ i x, s.executions.get i = some x → x.event ≠ pk)
      (hexecutions : s'.executions = s.executions.insert ⟨pk⟩)
      (hwithin : Within s s' event s.executions.next)
      (hbalance : ∀ referral, posted s' referral + carryOf s' referral = accrued s' referral)
      (hcarry : ∀ referral, 0 ≤ carryOf s' referral ∧ carryOf s' referral < 1 / 100)
      (hkept : ∀ i a, s.accruals.get i = some a → s'.accruals.get i = some a)
      (hadded : ∀ i a, s'.accruals.get i = some a →
        s.accruals.get i = some a ∨ a.execution = s.executions.next) :
      Processed s pk s' s.executions.next

structure Started (s t : Books) (pk : ℕ) : Prop where
  network : t.network = s.network
  rules : t.rules = s.rules
  executions : t.executions = s.executions.insert ⟨pk⟩
  carries : t.carries = s.carries
  accruals : t.accruals = s.accruals
  posted : ∀ referral, Conservation.posted t referral = Conservation.posted s referral

lemma started_insert (s : Books) (pk : ℕ) :
    Started s { s with executions := s.executions.insert ⟨pk⟩ } pk :=
  ⟨rfl, rfl, rfl, rfl, rfl, fun _ => rfl⟩

lemma Started.generate {t : Books} {direct : Option ℕ} (h : Started s t pk)
    (hok : generatePerLotObligation t pk event = .ok (s', direct)) : Started s s' pk := by
  rcases generatePerLot_cases hok with rfl | ⟨o, hkind, rfl⟩
  · exact h
  · refine ⟨h.network, h.rules, h.executions, h.carries, h.accruals, fun referral => ?_⟩
    rw [posted_insert, h.posted, if_neg (by simp [hkind]), add_zero]

lemma eventTotal_new (hs : Conserved s) : eventTotal s s.executions.next = 0 := by
  refine Table.total_eq_zero fun i a ha => if_neg ?_
  exact (hs.executed i a ha).ne

lemma Started.between {t : Books} (hs : Conserved s) (h : Started s t pk) (event : LotExecutionEvent)
    (chain : List ℕ) {budget : ℚ} (hbudget : 0 ≤ budget) :
    Between t t event s.executions.next chain budget budget where
  network := rfl
  rules := rfl
  executions := rfl
  balance referral := by
    have haccrued : accrued t referral = accrued s referral := by rw [accrued, accrued, h.accruals]
    have hcarry : carryOf t referral = carryOf s referral := by rw [carryOf, carryOf, h.carries]
    rw [h.posted, hcarry, haccrued, hs.balance]
  carry referral := by
    rw [carryOf, h.carries]
    exact hs.carry referral
  kept i a ha := ha
  new i a ha := Or.inl ha
  spent := by
    rw [eventTotal, h.accruals]
    exact (congrArg (· + budget) (eventTotal_new hs)).trans (zero_add budget)
  left := hbudget

lemma Between.processed {t : Books} {chain : List ℕ} {budget left : ℚ} (hs : Conserved s)
    (hevent : s.events.get pk = some event) (hnew : ∀ i x, s.executions.get i = some x → x.event ≠ pk)
    (ht : Started s t pk) (h : Between t s' event s.executions.next chain budget left)
    (hbudget : budget ≤ budgetAt s event * event.qty.value)
    (hchain : chain = [] ∨ ∃ introducer, (attributionOf s event).map (fun r => r.2.referral) = some introducer ∧
      ancestors s.network introducer (some event.createdAt) = .ok chain) :
    Processed s pk s' s.executions.next := by
  refine .first hevent hnew (h.executions.trans ht.executions) ⟨?_, ?_⟩ h.balance h.carry ?_ ?_
  · have hspent := h.spent
    have hleft := h.left
    linarith
  · intro i a ha hdone
    rcases h.new i a ha with hold | ⟨-, hwithin⟩
    · rw [ht.accruals] at hold
      exact absurd hdone (hs.executed i a hold).ne
    · rcases hchain with rfl | ⟨introducer, hintroducer, hok⟩
      · have hlevel := hwithin.level.2
        rw [List.getElem?_nil] at hlevel
        cases hlevel
      · refine ⟨introducer, chain, hintroducer, hok, hwithin.level, hwithin.positive, ?_⟩
        rw [← rateAt_congr ht.rules]
        exact hwithin.rate
  · intro i a ha
    exact h.kept i a (ht.accruals ▸ ha)
  · intro i a ha
    rcases h.new i a ha with hold | ⟨hdone, -⟩
    · exact Or.inl (ht.accruals ▸ hold)
    · exact Or.inr hdone

lemma Started.processed {t : Books} (hs : Conserved s) (hevent : s.events.get pk = some event)
    (hnew : ∀ i x, s.executions.get i = some x → x.event ≠ pk) (ht : Started s t pk) :
    Processed s pk t s.executions.next :=
  (ht.between hs event [] le_rfl).processed hs hevent hnew ht
    (mul_nonneg (budgetAt_nonneg event) (qty_nonneg event)) (Or.inl rfl)

lemma processExecution_processed (hs : Conserved s) (h : processExecution s pk = .ok (s', done)) :
    Processed s pk s' done := by
  obtain ⟨event, hevent, h⟩ := bind_eq_ok.mp h
  rw [require_eq_ok] at hevent
  split at h
  · next x hfirst =>
    cases h
    obtain ⟨hget, hx⟩ := Table.first_some hfirst
    exact .again hget (of_decide_eq_true hx)
  · next hfirst =>
    have hnew : ∀ i x, s.executions.get i = some x → x.event ≠ pk := fun i x hx =>
      of_decide_eq_false (Table.first_none hfirst hx)
    obtain ⟨account, -, h⟩ := bind_eq_ok.mp h
    split at h
    · cases h
      exact (started_insert s pk).processed hs hevent hnew
    · next attribution a hattribution =>
      obtain ⟨chain, hchain, h⟩ := bind_eq_ok.mp h
      rw [mapError_eq_ok] at hchain
      split at h
      · cases h
        exact (started_insert s pk).processed hs hevent hnew
      · dsimp only at h
        split at h
        · cases h
          exact (started_insert s pk).processed hs hevent hnew
        · obtain ⟨-, -, h⟩ := bind_eq_ok.mp h
          obtain ⟨⟨t, direct⟩, hdirect, h⟩ := bind_eq_ok.mp h
          have ht : Started s t pk := (started_insert s pk).generate hdirect
          cases direct with
          | none => cases h; exact ht.processed hs hevent hnew
          | some obligation =>
            obtain ⟨resolved, hresolved, h⟩ := bind_eq_ok.mp h
            cases resolved with
            | none => cases h; exact ht.processed hs hevent hnew
            | some r =>
              obtain ⟨rule, budgetRule⟩ := r
              cases hbudget : budgetRule.fixedAmount with
              | none => simp only [hbudget] at h; cases h; exact ht.processed hs hevent hnew
              | some budget =>
                simp only [hbudget] at h
                obtain ⟨accruedBooks, haccrue, h⟩ := bind_eq_ok.mp h
                cases h
                have hrate : budgetAt s event = budget.value := by
                  rw [budgetAt_of_attribution hattribution, ← rateAt_congr ht.rules]
                  exact rateAt_of_ok hresolved hbudget
                have hnonneg : 0 ≤ budget.value * event.qty.value := by
                  rw [← hrate]
                  exact mul_nonneg (budgetAt_nonneg event) (qty_nonneg event)
                obtain ⟨left, hbetween⟩ := accrueLevels_between (ht.between hs event chain hnonneg)
                  (fun p hp => List.mem_zipIdx_iff_le_and_getElem?_sub.mp hp) haccrue
                refine hbetween.processed hs hevent hnew ht (by rw [hrate]) (Or.inr ⟨a.referral, ?_, hchain⟩)
                rw [hattribution]
                rfl

end Calls

section Runs

variable {s s' t : Books} {pk done : ℕ}

lemma Processed.conserved (hs : Conserved s) (h : Processed s pk s' done) : Conserved s' := by
  cases h with
  | again => exact hs
  | @first s' event _ hnew hexecutions _ hbalance hcarry _ hadded =>
    refine ⟨?_, ?_, hbalance, hcarry⟩
    · intro i j x y hx hy heq
      rw [hexecutions] at hx hy
      rcases Table.get_insert_some hx with hold | ⟨hi, rfl⟩ <;>
        rcases Table.get_insert_some hy with hold' | ⟨hj, rfl⟩
      · exact hs.oneExecution i j x y hold hold' heq
      · exact (hnew i x hold heq).elim
      · exact (hnew j y hold' heq.symm).elim
      · exact hi.trans hj.symm
    · intro i a ha
      rw [hexecutions, Table.next_insert]
      rcases hadded i a ha with hold | hnext
      · exact (hs.executed i a hold).trans (Nat.lt_succ_self _)
      · omega

lemma Conserved.of_books (hs : Conserved s) (hexecutions : s'.executions = s.executions)
    (hcarries : s'.carries = s.carries) (haccruals : s'.accruals = s.accruals)
    (hposted : ∀ referral, posted s' referral = posted s referral) : Conserved s' where
  oneExecution := hexecutions ▸ hs.oneExecution
  executed := by
    rw [haccruals, hexecutions]
    exact hs.executed
  balance referral := by
    rw [hposted, carryOf, hcarries, accrued, haccruals]
    exact hs.balance referral
  carry referral := by
    rw [carryOf, hcarries]
    exact hs.carry referral

structure Grows (s s' : Books) : Prop where
  next : s.executions.next ≤ s'.executions.next
  executions : ∀ i x, s.executions.get i = some x → s'.executions.get i = some x
  kept : ∀ i a, s.accruals.get i = some a → s'.accruals.get i = some a
  added : ∀ i a, s'.accruals.get i = some a → s.accruals.get i = some a ∨ s.executions.next ≤ a.execution

lemma Grows.of_books (hexecutions : s'.executions = s.executions) (haccruals : s'.accruals = s.accruals) :
    Grows s s' where
  next := by rw [hexecutions]
  executions i x h := hexecutions ▸ h
  kept i a h := haccruals ▸ h
  added i a h := Or.inl (haccruals ▸ h)

lemma Grows.trans (h : Grows s t) (h' : Grows t s') : Grows s s' where
  next := h.next.trans h'.next
  executions i x hx := h'.executions i x (h.executions i x hx)
  kept i a ha := h'.kept i a (h.kept i a ha)
  added i a ha := by
    rcases h'.added i a ha with hold | hnew
    · exact h.added i a hold
    · exact Or.inr (h.next.trans hnew)

lemma Processed.grows (h : Processed s pk s' done) : Grows s s' := by
  cases h with
  | again => exact .of_books rfl rfl
  | first _ _ hexecutions _ _ _ hkept hadded =>
    refine ⟨?_, fun i x hx => ?_, hkept, fun i a ha => (hadded i a ha).imp_right (·.ge)⟩
    · rw [hexecutions, Table.next_insert]
      omega
    · rw [hexecutions]
      exact Table.get_insert_of_get hx _

lemma step_conserved_grows (hs : Conserved s) (action : Action) :
    Conserved (step s action) ∧ Grows s (step s action) := by
  cases action with
  | generatePerLotObligation event =>
    rw [step]
    refine commit_rule _ _ ?_ fun s' h => ?_
    · exact ⟨hs, .of_books rfl rfl⟩
    · obtain ⟨e, -, h⟩ := bind_eq_ok.mp h
      obtain ⟨⟨s₁, direct⟩, hdirect, rfl⟩ := map_eq_ok.mp h
      rcases generatePerLot_cases hdirect with rfl | ⟨o, hkind, rfl⟩
      · exact ⟨hs, .of_books rfl rfl⟩
      · refine ⟨hs.of_books rfl rfl rfl fun referral => ?_, .of_books rfl rfl⟩
        rw [posted_insert, if_neg (by simp [hkind]), add_zero]
  | processExecution event =>
    rw [step]
    refine commit_rule _ _ ?_ fun s' h => ?_
    · exact ⟨hs, .of_books rfl rfl⟩
    · obtain ⟨⟨s₁, done⟩, hcall, rfl⟩ := map_eq_ok.mp h
      have hprocessed := processExecution_processed hs hcall
      exact ⟨hprocessed.conserved hs, hprocessed.grows⟩
  | _ => exact ⟨hs.of_books rfl rfl rfl fun _ => rfl, .of_books rfl rfl⟩

lemma fresh_conserved (network : Network) (rules : Table Rule) (accounts : Table TradingAccount)
    (events : Table LotExecutionEvent) : Conserved (fresh network rules accounts events) where
  oneExecution i j x y hx := by cases hx
  executed i a ha := by cases ha
  balance referral := by simp [posted, carryOf, accrued, fresh]
  carry referral := ⟨le_rfl, by norm_num [carryOf, fresh]⟩

lemma run_conserved (hs : Conserved s) (acts : List Action) : Conserved (run step s acts) :=
  run_invariant (I := Conserved) (fun _ action hs => (step_conserved_grows hs action).1) hs acts

lemma run_grows (hs : Conserved s) (acts : List Action) : Grows s (run step s acts) := by
  have hrun : Conserved (run step s acts) ∧ Grows s (run step s acts) := by
    refine run_invariant (I := fun t => Conserved t ∧ Grows s t) (fun t action ht => ?_)
      ⟨hs, .of_books rfl rfl⟩ acts
    obtain ⟨hnext, hgrows⟩ := step_conserved_grows ht.1 action
    exact ⟨hnext, ht.2.trans hgrows⟩
  exact hrun.2

structure Settled (s : Books) (pk done : ℕ) : Prop where
  executed : ∃ x, s.executions.get done = some x ∧ x.event = pk
  final : ∀ later i a, a.execution = done →
    ((run step s later).accruals.get i = some a ↔ s.accruals.get i = some a)

lemma settled_of_executed (hs : Conserved s) {x : Execution} (h : s.executions.get done = some x)
    (hx : x.event = pk) : Settled s pk done where
  executed := ⟨x, h, hx⟩
  final later i a ha := by
    have hgrows := run_grows hs later
    refine ⟨fun hi => ?_, hgrows.kept i a⟩
    rcases hgrows.added i a hi with hold | hnew
    · exact hold
    · exact absurd (Table.lt_of_get h) (not_lt.mpr (ha ▸ hnew))

end Runs

end TrxSimulator.IBNetwork.Conservation
