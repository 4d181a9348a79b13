import TrxSimulator.IBNetwork.HoldEffects
import TrxSimulator.IBNetwork.Reach
import TrxSimulator.IBNetwork.Resolution

/-! Generators side by side. Each reads its source, the introducer and the rules and works its obligation out; only
then does it come to the table, where one of them inserts and the others find the row or meet the constraint. -/

namespace TrxSimulator.IBNetwork.Retries

open Foundations.Tables Foundations.Decimals Foundations.Outcomes Foundations.Runs Foundations.Sweeps
open Money Accounts Generated Reach
open Accruals hiding step processExecution generatePerLotObligation isActive
open Triggers hiding step opened
open Holds (introducer sourceUser perLot_user percent_user attributed_introducer)
open Resolution
open Links (Network Attribution)

section Halves

variable (s : Sources)

/-- An obligation as its generator has worked it out, before or after it is inserted. -/
inductive Row
  | lot (obligation : Obligation)
  | percent (obligation : PercentObligation)

def Row.kind : Row → Kind
  | .lot _ => .perLot
  | .percent o => .percent o.kind

def Row.source : Row → ℕ
  | .lot o => o.sourceEventId
  | .percent o => o.sourceEventId

def Row.referral : Row → ℕ
  | .lot o => o.referral
  | .percent o => o.referral

/-- To refuse and to raise both leave nothing to insert. -/
def lotDraft (b : Books) (pk : ℕ) (event : LotExecutionEvent) : Option Obligation := do
  let account ← b.accounts.get event.account
  if account.accountType.withdrawable = false then none
  else match attributionOf b event with
  | none => none
  | some (attribution, a) =>
    if Accruals.isActive b a.referral = false then none
    else match resolveApplicableRule b a.referral .perLot event.createdAt with
    | .error _ | .ok none => none
    | .ok (some (rule, r)) => do
      let rate ← r.fixedAmount
      let calculated ← store 12 2 (scaled 2 (quantize 2 (times event.qty.value rate.value)))
      some { attribution := attribution, referral := a.referral, rule := rule, ruleType := .perLot,
             sourceEventType := .perLotExecution, sourceEventId := pk, basisQuantity := event.qty,
             appliedFixedRate := some rate, calculatedAmount := calculated }

def percentDraft (kind : PercentKind) (pk : ℕ) (basis : Option Basis) : Option PercentObligation := do
  let terms ← commissionTerms s kind basis
  let rate ← s.percentages terms.rule
  (percentObligation kind pk terms rate).toOption

def draft : Kind → ℕ → Option Row
  | .perLot, pk => ((s.books.events.get pk).bind (lotDraft s.books pk)).map .lot
  | .percent kind, pk => ((sourceBasis s kind pk).bind (percentDraft s kind pk)).map .percent

def sameKey (o x : Obligation) : Bool :=
  x.referral = o.referral ∧ x.ruleType = o.ruleType ∧ x.sourceEventType = o.sourceEventType ∧
    x.sourceEventId = o.sourceEventId

def samePercentKey (o x : PercentObligation) : Bool :=
  x.referral = o.referral ∧ x.kind = o.kind ∧ x.sourceEventId = o.sourceEventId

def isThere : Row → Bool
  | .lot o => s.books.obligations.exists? (sameKey o)
  | .percent o => s.obligations.exists? (samePercentKey o)

/-- The insert under the constraint; whoever meets it reads the row that is there. -/
def insertLot (b : Books) (o : Obligation) : Books :=
  if b.obligations.exists? (sameKey o) = true then b else { b with obligations := b.obligations.insert o }

def insertPercent (o : PercentObligation) : Sources :=
  if s.obligations.exists? (samePercentKey o) = true then s else { s with obligations := s.obligations.insert o }

def insertRow : Row → Sources
  | .lot o => { s with books := insertLot s.books o }
  | .percent o => insertPercent s o

end Halves

/-- The generators that have worked an obligation out and not yet done with it. -/
structure Workers where
  sources : Sources
  drafts : Table (Option Row)

inductive Action
  | read (kind : Kind) (source : ℕ)
  | look (draft : ℕ)
  | insert (draft : ℕ)
  | sources (act : Triggers.Act)

def drop (s : Workers) (d : ℕ) : Workers := { s with drafts := s.drafts.update d fun _ => none }

def read (s : Workers) (kind : Kind) (source : ℕ) : Workers :=
  match draft s.sources kind source with
  | none => s
  | some row => { s with drafts := s.drafts.insert (some row) }

/-- A generator that finds its row returns it and is done. -/
def look (s : Workers) (d : ℕ) : Workers :=
  match (s.drafts.get d).join with
  | none => s
  | some row => if isThere s.sources row = true then drop s d else s

def insert (s : Workers) (d : ℕ) : Workers :=
  match (s.drafts.get d).join with
  | none => s
  | some row => { drop s d with sources := insertRow s.sources row }

def step (s : Workers) : Action → Workers
  | .read kind source => read s kind source
  | .look d => look s d
  | .insert d => insert s d
  | .sources act => { s with sources := Triggers.step s.sources act }

def opened (sources : Sources) : Workers := ⟨sources, .empty⟩

section Generators

variable {s s' : Sources} {kind : Kind} {pk : ℕ} {row x : Row}

lemma lot_halves (b : Books) (event : LotExecutionEvent) :
    commit b ((Accruals.generatePerLotObligation b pk event).map Prod.fst) =
      (lotDraft b pk event).elim b (insertLot b) := by
  rw [Accruals.generatePerLotObligation, lotDraft]
  cases haccount : b.accounts.get event.account with
  | none => rfl
  | some account =>
    simp only [require, Option.bind_some, bind, Except.bind]
    split
    · rfl
    · cases hattribution : attributionOf b event with
      | none => rfl
      | some r =>
        simp only
        split
        · rfl
        · rcases resolveApplicableRule b r.2.referral .perLot event.createdAt with e | _ | ⟨rule, r'⟩
          · rfl
          · rfl
          · simp only
            cases r'.fixedAmount with
            | none => rfl
            | some rate =>
              simp only [Option.bind_some]
              cases store 12 2 (scaled 2 (quantize 2 (times event.qty.value rate.value))) with
              | none => rfl
              | some calculated =>
                simp only [Option.bind_some, Option.elim_some, insertLot]
                cases hfirst : b.obligations.first fun o => o.referral = r.2.referral ∧ o.ruleType = .perLot ∧
                    o.sourceEventType = .perLotExecution ∧ o.sourceEventId = pk with
                | some existing => exact (if_pos (Table.exists?_of_first hfirst)).symm
                | none =>
                  have hfree := Table.exists?_of_first_none hfirst
                  refine Eq.trans ?_ (if_neg (by rw [Bool.not_eq_true]; exact hfree)).symm
                  simp only [Accruals.createObligation, hfree, Bool.false_eq_true, if_false]
                  rfl

lemma percent_halves (kind : PercentKind) (basis : Option Basis) :
    commit s ((generatePercentObligation s kind pk basis).map Prod.fst) =
      (percentDraft s kind pk basis).elim s (insertPercent s) := by
  rw [generatePercentObligation, percentDraft]
  cases commissionTerms s kind basis with
  | none => rfl
  | some terms =>
    simp only [Option.bind_some, bind, Except.bind]
    cases s.percentages terms.rule with
    | none => rfl
    | some rate =>
      simp only [require, Option.bind_some]
      cases hobligation : percentObligation kind pk terms rate with
      | error e =>
        split <;> rfl
      | ok o =>
        obtain ⟨hreferral, hkind, hsource⟩ := percentObligation_key hobligation
        have hkey : samePercentKey o = fun x => decide (x.referral = terms.referral ∧ x.kind = kind ∧
            x.sourceEventId = pk) := by
          funext x
          rw [samePercentKey, hreferral, hkind, hsource]
        simp only [Except.toOption, Option.elim_some, insertPercent, hkey]
        split
        · next existing hfirst => exact (if_pos (Table.exists?_of_first hfirst)).symm
        · next hfirst => exact (if_neg (by rw [Table.exists?_of_first_none hfirst]; exact Bool.false_ne_true)).symm

lemma insert_lots (o : Option Obligation) :
    (o.map Row.lot).elim s (insertRow s) = { s with books := o.elim s.books (insertLot s.books) } := by
  cases o <;> rfl

lemma insert_percents (o : Option PercentObligation) :
    (o.map Row.percent).elim s (insertRow s) = o.elim s (insertPercent s) := by
  cases o <;> rfl

lemma generate_halves : commit s ((generate s kind pk).map Prod.fst) = (draft s kind pk).elim s (insertRow s) := by
  cases kind with
  | perLot =>
    rw [draft, insert_lots]
    cases hevent : s.books.events.get pk with
    | none =>
      rw [generate, Triggers.generatePerLotObligation, hevent]
      rfl
    | some event =>
      rw [Option.bind_some, ← lot_halves, generate, Triggers.generatePerLotObligation, hevent]
      cases hgenerated : Accruals.generatePerLotObligation s.books pk event with
      | error e => simp only [require, bind, Except.bind, hgenerated]; rfl
      | ok r => simp only [require, bind, Except.bind, hgenerated]; rfl
  | percent kind =>
    rw [draft, insert_percents]
    cases hbasis : sourceBasis s kind pk with
    | none =>
      cases hgenerated : generate s (.percent kind) pk with
      | error e => rfl
      | ok r =>
        obtain ⟨basis, hsource, -⟩ := generate_percent.mp hgenerated
        rw [hbasis] at hsource
        cases hsource
    | some basis =>
      rw [Option.bind_some, ← percent_halves]
      cases hgenerated : generatePercentObligation s kind pk basis with
      | error e =>
        cases hboth : generate s (.percent kind) pk with
        | error e' => rfl
        | ok r =>
          obtain ⟨basis', hsource, hok⟩ := generate_percent.mp hboth
          obtain rfl := Option.some.inj (hbasis.symm.trans hsource)
          rw [hgenerated] at hok
          cases hok
      | ok r =>
        rw [generate_percent.mpr ⟨basis, hbasis, hgenerated⟩]

section Rows

/-- The direct obligations; those of the network have sources of their own. -/
def Stored (s : Sources) : Row → Prop
  | .lot o => o.sourceEventType = .perLotExecution ∧ ∃ i, s.books.obligations.get i = some o
  | .percent o => ∃ i, s.obligations.get i = some o

lemma stored_insertRow (h : Stored (insertRow s row) x) : Stored s x ∨ x = row := by
  cases row with
  | lot o =>
    cases x with
    | percent x => exact .inl h
    | lot x =>
      simp only [insertRow, insertLot, Stored] at h
      split at h
      · exact .inl h
      · obtain ⟨hsource, i, hi⟩ := h
        obtain hold | ⟨-, rfl⟩ := Table.get_insert_some hi
        · exact .inl ⟨hsource, i, hold⟩
        · exact .inr rfl
  | percent o =>
    simp only [insertRow, insertPercent] at h
    split at h
    · exact .inl h
    · cases x with
      | lot x => exact .inl h
      | percent x =>
        obtain ⟨i, hi⟩ := h
        obtain hold | ⟨-, rfl⟩ := Table.get_insert_some hi
        · exact .inl ⟨i, hold⟩
        · exact .inr rfl

lemma stored_generate {o : Option ℕ} (h : generate s kind pk = .ok (s', o)) (hx : Stored s' x) :
    Stored s x ∨ draft s kind pk = some x := by
  have hhalves : commit s ((generate s kind pk).map Prod.fst) = (draft s kind pk).elim s (insertRow s) :=
    generate_halves
  rw [h] at hhalves
  obtain rfl : s' = (draft s kind pk).elim s (insertRow s) := hhalves
  cases hdraft : draft s kind pk with
  | none =>
    rw [hdraft] at hx
    exact .inl hx
  | some row =>
    rw [hdraft] at hx
    exact (stored_insertRow hx).imp_right fun (heq : x = row) => heq ▸ rfl

lemma draft_same (h : Same s s') : draft s' kind pk = draft s kind pk := by
  cases kind with
  | perLot =>
    have hattribution : attributionOf s'.books = attributionOf s.books := by
      funext event
      rw [attributionOf, attributionOf, h.network, h.accounts]
    have hactive : Accruals.isActive s'.books = Accruals.isActive s.books := by
      funext referral
      rw [Accruals.isActive, Accruals.isActive, h.network]
    have hlot : lotDraft s'.books pk = lotDraft s.books pk := by
      funext event
      simp only [lotDraft, hattribution, hactive, Conservation.resolve_congr h.rules, h.accounts]
    rw [draft, draft, h.events, hlot]
  | percent kind =>
    have hpercent : percentDraft s' kind pk = percentDraft s kind pk := by
      funext basis
      rw [percentDraft, percentDraft, h.commissionTerms, h.percentages]
    rw [draft, draft, h.sourceBasis, hpercent]

lemma stored_processExecution (h : Triggers.processExecution s pk = .ok s') (hx : Stored s' x) :
    Stored s x ∨ draft s .perLot pk = some x := by
  rw [Triggers.processExecution] at h
  split at h
  · next books done hprocessed =>
    cases h
    cases x with
    | percent x => exact .inl hx
    | lot x =>
      obtain ⟨hsource, i, hi⟩ := hx
      obtain ⟨event, hevent, ⟨-, rfl⟩ | ⟨-, ⟨-, rfl⟩ | ⟨mid, direct, hgenerated, hlots⟩⟩⟩ :=
        processExecution_direct hprocessed
      · exact .inl ⟨hsource, i, hi⟩
      · exact .inl ⟨hsource, i, hi⟩
      · let t : Sources := { s with books := received s.books pk }
        have hgenerate : generate t .perLot pk = .ok ({ t with books := mid }, direct) :=
          generate_perLot.mpr ⟨event, mid, direct, hevent, hgenerated, rfl⟩
        exact stored_generate (s := t) (x := .lot x) hgenerate ⟨hsource, i, hlots.kept i x hi hsource⟩
  · cases h

/-- Whatever a step of the rest of the program brings is the draft of some source as it was before. -/
lemma stored_step (hs : Kept s) (act : Act) (hx : Stored (Triggers.step s act) x) :
    Stored s x ∨ ∃ kind pk, draft s kind pk = some x := by
  cases act with
  | sweep kind cutoff batchSize =>
    have hsweep : Unmoved s (sweepTriggers s kind cutoff batchSize) ∧ ∀ x,
        Stored (sweepTriggers s kind cutoff batchSize) x → Stored s x ∨ ∃ kind pk, draft s kind pk = some x := by
      refine sweep_invariant (I := fun t => Unmoved s t ∧ ∀ x, Stored t x → Stored s x ∨
        ∃ kind pk, draft s kind pk = some x) (fun t pk t' ht h => ⟨trigger_unmoved ht.1 h, fun x hx => ?_⟩)
        ⟨⟨hs, same_refl s, rfl⟩, fun _ => .inl⟩ _
      rw [trigger] at h
      split at h
      · cases h
        exact ht.2 x hx
      · obtain ⟨⟨t'', o⟩, hgenerated, rfl⟩ := map_eq_ok.mp h
        obtain hold | hnew := stored_generate hgenerated hx
        · exact ht.2 x hold
        · exact .inr ⟨kind, pk, (draft_same ht.1.2.1).symm.trans hnew⟩
    exact hsweep.2 x hx
  | sweepNetwork batchSize reached =>
    have hsweep : Settling s (sweepNetwork s batchSize reached) ∧ ∀ x,
        Stored (sweepNetwork s batchSize reached) x → Stored s x ∨ ∃ kind pk, draft s kind pk = some x := by
      refine sweep_invariant (I := fun t => Settling s t ∧ ∀ x, Stored t x → Stored s x ∨
        ∃ kind pk, draft s kind pk = some x) (fun t pk t' ht h => ⟨processExecution_settling ht.1 h, fun x hx => ?_⟩)
        ⟨⟨hs, same_refl s⟩, fun _ => .inl⟩ _
      obtain hold | hnew := stored_processExecution h hx
      · exact ht.2 x hold
      · exact .inr ⟨.perLot, pk, (draft_same ht.1.2).symm.trans hnew⟩
    exact hsweep.2 x hx
  | requestDeposit deposit => cases x <;> exact .inl hx
  | _ => cases x <;> exact .inl hx

end Rows

section Applied

/-- The commission of a source: for an active introducer, under the rule in force at its time, and half-even to the
cent. -/
def Applied (s : Sources) : Row → Prop
  | .lot o => ∃ event account a r rate, s.books.events.get o.sourceEventId = some event ∧
      s.books.accounts.get event.account = some account ∧ account.accountType.withdrawable = true ∧
      attributionOf s.books event = some (o.attribution, a) ∧ a.referral = o.referral ∧
      Accruals.isActive s.books o.referral = true ∧
      Decided s.books o.referral .perLot event.createdAt (.ok (some (o.rule, r))) ∧ r.fixedAmount = some rate ∧
      o.ruleType = .perLot ∧ o.sourceEventType = .perLotExecution ∧ o.appliedFixedRate = some rate ∧
      o.basisQuantity = event.qty ∧ o.calculatedAmount.units = quantize 2 (event.qty.value * rate.value)
  | .percent o => ∃ basis a r, sourceBasis s o.kind o.sourceEventId = some (some basis) ∧
      s.books.network.attributions.first (fun a => a.referredUser = basis.user) = some (o.attribution, a) ∧
      a.referral = o.referral ∧ Accruals.isActive s.books o.referral = true ∧
      Decided s.books o.referral o.kind.ruleType basis.atTime (.ok (some (o.rule, r))) ∧
      s.percentages o.rule = some o.appliedPercentageRate ∧ o.basisAmount.value = basis.amount ∧
      o.calculatedAmount.units = quantize 2 (basis.amount * o.appliedPercentageRate.value / 100)

lemma lotDraft_some {b : Books} {event : LotExecutionEvent} {o : Obligation} (h : lotDraft b pk event = some o) :
    ∃ account a r rate, b.accounts.get event.account = some account ∧ account.accountType.withdrawable = true ∧
      attributionOf b event = some (o.attribution, a) ∧ a.referral = o.referral ∧
      Accruals.isActive b o.referral = true ∧
      Decided b o.referral .perLot event.createdAt (.ok (some (o.rule, r))) ∧ r.fixedAmount = some rate ∧
      o.ruleType = .perLot ∧ o.sourceEventType = .perLotExecution ∧ o.sourceEventId = pk ∧
      o.appliedFixedRate = some rate ∧ o.basisQuantity = event.qty ∧
      o.calculatedAmount.units = quantize 2 (event.qty.value * rate.value) := by
  obtain ⟨account, haccount, h⟩ := Option.bind_eq_some_iff.mp h
  split at h
  · cases h
  · next hwithdrawable =>
    split at h
    · cases h
    · next attribution a hattribution =>
      split at h
      · cases h
      · next hactive =>
        split at h
        · cases h
        · cases h
        · next rule r hresolved =>
          obtain ⟨rate, hrate, h⟩ := Option.bind_eq_some_iff.mp h
          obtain ⟨calculated, hcalculated, h⟩ := Option.bind_eq_some_iff.mp h
          cases h
          exact ⟨account, a, r, rate, haccount, by simpa using hwithdrawable, hattribution, rfl, by simpa using hactive,
            resolve_eq_iff.mp hresolved, hrate, rfl, rfl, rfl, rfl, rfl, lot_exact hcalculated⟩

lemma basis_scaled {kind : PercentKind} {basis : Basis} (h : sourceBasis s kind pk = some (some basis)) :
    ∃ n : ℤ, |n| < 10 ^ 18 ∧ basis.amount = scaled 2 n := by
  cases kind with
  | challengePercent =>
    obtain ⟨e, -, he⟩ := Option.map_eq_some_iff.mp h
    rw [enrollmentBasis] at he
    split at he
    · cases he
    · obtain ⟨user, -, rfl⟩ := Option.map_eq_some_iff.mp he
      exact ⟨e.priceUsd.units, e.priceUsd.fits.trans (by norm_num), rfl⟩
  | depositPercent =>
    obtain ⟨d, -, hd⟩ := Option.map_eq_some_iff.mp h
    rw [depositBasis] at hd
    split at hd
    · cases hd
    · obtain ⟨user, -, rfl⟩ := Option.map_eq_some_iff.mp hd
      exact ⟨d.amountUsd.units, d.amountUsd.fits.trans (by norm_num), rfl⟩
  | tradingCommissionRevenueShare | spreadRevenueShare =>
    obtain ⟨row, -, hrow⟩ := Option.map_eq_some_iff.mp h
    rw [revenueBasis] at hrow
    split at hrow
    · cases hrow
    · obtain ⟨user, -, rfl⟩ := Option.map_eq_some_iff.mp hrow
      exact ⟨row.amount.units, row.amount.fits, rfl⟩

lemma percentObligation_some {kind : PercentKind} {terms : Terms} {rate : Percentage} {o : PercentObligation} {n : ℤ}
    (hn : |n| < 10 ^ 18) (hamount : terms.basis.amount = scaled 2 n)
    (h : (percentObligation kind pk terms rate).toOption = some o) :
    o.attribution = terms.attribution ∧ o.referral = terms.referral ∧ o.rule = terms.rule ∧ o.kind = kind ∧
      o.sourceEventId = pk ∧ o.appliedPercentageRate = rate ∧ o.basisAmount.value = terms.basis.amount ∧
      o.calculatedAmount.units = quantize 2 (terms.basis.amount * rate.value / 100) := by
  cases hok : percentObligation kind pk terms rate with
  | error e =>
    rw [hok] at h
    cases h
  | ok o' =>
    rw [hok] at h
    cases h
    simp only [percentObligation, bind_eq_ok, require_eq_ok, pure_eq_ok] at hok
    obtain ⟨basisAmount, hbasis, calculated, hcalculated, rfl⟩ := hok
    rw [hamount] at hbasis hcalculated ⊢
    refine ⟨rfl, rfl, rfl, rfl, rfl, rfl, ?_, percent_exact hn hcalculated⟩
    rw [store_scaled] at hbasis
    rw [Numeric.value, hbasis]

lemma draft_applied (h : draft s kind pk = some row) : row.kind = kind ∧ row.source = pk ∧ Applied s row := by
  cases kind with
  | perLot =>
    obtain ⟨o, ho, rfl⟩ := Option.map_eq_some_iff.mp h
    obtain ⟨event, hevent, ho⟩ := Option.bind_eq_some_iff.mp ho
    obtain ⟨account, a, r, rate, haccount, hwithdrawable, hattribution, hreferral, hactive, hdecided, hrate, htype,
      hsource, hid, hrest⟩ := lotDraft_some ho
    refine ⟨rfl, hid, event, account, a, r, rate, ?_, haccount, hwithdrawable, hattribution, hreferral, hactive,
      hdecided, hrate, htype, hsource, hrest⟩
    rw [hid, hevent]
  | percent kind =>
    obtain ⟨o, ho, rfl⟩ := Option.map_eq_some_iff.mp h
    obtain ⟨basis, hbasis, ho⟩ := Option.bind_eq_some_iff.mp ho
    obtain ⟨terms, hterms, ho⟩ := Option.bind_eq_some_iff.mp ho
    obtain ⟨rate, hrate, ho⟩ := Option.bind_eq_some_iff.mp ho
    cases basis with
    | none => cases hterms
    | some basis =>
      simp only [commissionTerms] at hterms
      split at hterms
      · cases hterms
      · next attribution a hfirst =>
        split at hterms
        · cases hterms
        · next hactive =>
          split at hterms
          · cases hterms
          · cases hterms
          · next rule r hresolved =>
            cases hterms
            obtain ⟨n, hn, hamount⟩ := basis_scaled hbasis
            obtain ⟨hattribution, hreferral, hrule, rfl, rfl, happlied, hexact⟩ := percentObligation_some hn hamount ho
            refine ⟨rfl, rfl, basis, a, r, hbasis, ?_, hreferral.symm, ?_, ?_, ?_, ?_⟩
            · rw [hattribution, hfirst]
            · simpa [hreferral] using hactive
            · rw [hreferral, hrule]
              exact resolve_eq_iff.mp hresolved
            · rw [hrule, happlied]
              exact hrate
            · rw [happlied]
              exact hexact

end Applied

end Generators

end TrxSimulator.IBNetwork.Retries
