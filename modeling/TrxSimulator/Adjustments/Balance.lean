import TrxSimulator.Foundations.Runs
import TrxSimulator.Adjustments.Posting

/-! The broker ledger and its adjustments agree: one row for each, each reversed at most once, and a total of
what is in force. -/

namespace TrxSimulator.Adjustments.Balance

open Foundations.Tables Foundations.Outcomes Foundations.Decimals Foundations.Runs Money Posting
open ProviderCosts.Posting (RevenueType)

structure Posted (s s' : Book) where
  row : BrokerLedgerRow
  adjustment : BrokerEconomicAdjustment
  revenueType : row.revenueType = .adjustment
  amount : row.amount = adjustment.amount
  entry : adjustment.createdLedgerEntry = s.ledger.next
  fresh : ∀ i a, s.adjustments.get i = some a → a.idempotencyKey ≠ adjustment.idempotencyKey
  target : ∀ k, adjustment.reverses = some k → ∃ b, s.adjustments.get k = some b ∧ b.reverses = none ∧
    s.adjustments.exists? (reversedBy k) = false ∧ adjustment.amount.units = -b.amount.units
  ledger : s'.ledger = s.ledger.insert row
  adjustments : s'.adjustments = s.adjustments.insert adjustment

inductive Effect (s s' : Book) : Prop
  | quiet (hledger : s'.ledger = s.ledger) (hadjustments : s'.adjustments = s.adjustments)
  | other (row : BrokerLedgerRow) (htype : row.revenueType ≠ .adjustment) (hledger : s'.ledger = s.ledger.insert row)
      (hadjustments : s'.adjustments = s.adjustments)
  | posted (p : Posted s s')

section Calls

variable {s s' : Book} {reference : String} {r : Request}

lemma negate_value (a : Amount) : negate a.value = scaled 2 (-a.units) := by
  have hfits := abs_lt.mp a.fits
  rw [Numeric.value, negate_scaled]
  rw [precision, abs_lt]
  omega

lemma checkReverses_ok {amount : ℚ} {text : Option String} {k : ℕ} (h : checkReverses s amount (some k) = .ok text) :
    ∃ b, s.adjustments.get k = some b ∧ b.reverses = none ∧ s.adjustments.exists? (reversedBy k) = false ∧
      amount = scaled 2 (-b.amount.units) := by
  simp only [checkReverses, bind_eq_ok, require_eq_ok, guard_eq_ok] at h
  obtain ⟨b, hb, hreversal, hfree, hamount, -⟩ := h
  rw [Option.not_isSome_iff_eq_none] at hreversal
  rw [not_not, negate_value] at hamount
  exact ⟨b, hb, hreversal, Bool.not_eq_true _ ▸ hfree, hamount⟩

lemma insertAdjustment_ok {a : BrokerEconomicAdjustment} (h : insertAdjustment s a = .ok s') :
    (∀ i b, s.adjustments.get i = some b → b.idempotencyKey ≠ a.idempotencyKey) ∧
      s' = { s with adjustments := s.adjustments.insert a } := by
  simp only [insertAdjustment, guard_eq_ok, Except.ok.injEq, Bool.not_eq_true] at h
  obtain ⟨-, -, -, hkey, -, -, rfl⟩ := h
  exact ⟨fun i b hb => of_decide_eq_false (Table.exists?_false hkey hb), rfl⟩

lemma createBrokerEconomicAdjustment_ok {result : Book × ℕ}
    (h : createBrokerEconomicAdjustment s reference r = .ok result) :
    (result.1 = s ∧ ∃ a, s.adjustments.get result.2 = some a ∧ a.idempotencyKey = r.idempotencyKey) ∨
      (∃ p : Posted s result.1, result.2 = s.adjustments.next ∧ p.adjustment.idempotencyKey = r.idempotencyKey) ∧
        result.1.audits = s.audits := by
  simp only [createBrokerEconomicAdjustment, bind_eq_ok] at h
  obtain ⟨valid, -, h⟩ := h
  split at h
  · next existing a hfound =>
    rw [pure_eq_ok] at h
    obtain ⟨hget, hkey⟩ := Table.latest_some hfound
    exact Or.inl ⟨by rw [← h], a, by rw [← h]; exact hget, of_decide_eq_true hkey⟩
  · simp only [bind_eq_ok, require_eq_ok, pure_eq_ok] at h
    obtain ⟨-, -, text, hreverses, amount, hamount, created, hinsert, rfl⟩ := h
    obtain ⟨hfresh, rfl⟩ := insertAdjustment_ok hinsert
    refine Or.inr ⟨⟨⟨_, _, rfl, rfl, rfl, hfresh, fun k hk => ?_, rfl, rfl⟩, rfl, rfl⟩, rfl⟩
    rw [show r.reverses = some k from hk] at hreverses
    obtain ⟨b, hb, hnone, hfree, hexact⟩ := checkReverses_ok hreverses
    rw [hexact, store_scaled] at hamount
    exact ⟨b, hb, hnone, hfree, hamount.symm⟩

lemma create_effect {result : Book × ℕ} (h : createBrokerEconomicAdjustment s reference r = .ok result) :
    Effect s result.1 := by
  rcases createBrokerEconomicAdjustment_ok h with ⟨hsame, -⟩ | ⟨⟨p, -⟩, -⟩
  · exact .quiet (congrArg _ hsame) (congrArg _ hsame)
  · exact .posted p

lemma owner_effect {gate : Gate} {actor : ℕ} {totpCode : String} {result : Book × ℕ}
    (h : ownerBrokerEconomicAdjustment gate s reference actor totpCode r = .ok result) : Effect s result.1 := by
  simp only [ownerBrokerEconomicAdjustment, guard_eq_ok, bind_eq_ok] at h
  obtain ⟨-, -, -, amount, -, -, -, -, -, created, hcreated, adjustment, -, h⟩ := h
  have heffect := create_effect hcreated
  split at h
  · rw [pure_eq_ok] at h
    exact h ▸ heffect
  · rw [pure_eq_ok] at h
    rw [← h]
    cases heffect with
    | quiet hledger hadjustments => exact .quiet hledger hadjustments
    | other row htype hledger hadjustments => exact .other row htype hledger hadjustments
    | posted p => exact .posted { p with ledger := p.ledger, adjustments := p.adjustments }

lemma step_effect (gate : Gate) (s : Book) (action : Action) : Effect s (step gate s action) := by
  cases action with
  | create reference r =>
    rw [step]
    refine commit_rule _ _ ?_ fun s' hok => ?_
    · exact .quiet rfl rfl
    · obtain ⟨result, hresult, rfl⟩ := map_eq_ok.mp hok
      exact create_effect hresult
  | ownerCreate reference actor totpCode r =>
    rw [step]
    refine commit_rule _ _ ?_ fun s' hok => ?_
    · exact .quiet rfl rfl
    · obtain ⟨result, hresult, rfl⟩ := map_eq_ok.mp hok
      exact owner_effect hresult
  | otherRow row =>
    rw [step, otherRow]
    split
    · exact .quiet rfl rfl
    · next htype => exact .other row htype rfl rfl

end Calls

structure Sound (s : Book) : Prop where
  entries : ∀ i a, s.adjustments.get i = some a →
    ∃ row, s.ledger.get a.createdLedgerEntry = some row ∧ row.revenueType = .adjustment ∧ row.amount = a.amount
  explained : ∀ k row, s.ledger.get k = some row → row.revenueType = .adjustment →
    ∃ i a, s.adjustments.get i = some a ∧ a.createdLedgerEntry = k
  unique : ∀ i j a b, s.adjustments.get i = some a → s.adjustments.get j = some b →
    a.idempotencyKey = b.idempotencyKey ∨ a.createdLedgerEntry = b.createdLedgerEntry → i = j
  reversals : ∀ i a k, s.adjustments.get i = some a → a.reverses = some k →
    ∃ b, s.adjustments.get k = some b ∧ b.reverses = none ∧ a.amount.units = -b.amount.units
  once : ∀ i j a b k, s.adjustments.get i = some a → s.adjustments.get j = some b → a.reverses = some k →
    b.reverses = some k → i = j
  total : ledgerTotal s = inForceTotal s

section Totals

variable {s s' : Book}

lemma exists_reversedBy_iff {k : ℕ} :
    s.adjustments.exists? (reversedBy k) = true ↔ ∃ i a, s.adjustments.get i = some a ∧ a.reverses = some k := by
  rw [Table.exists?_iff]
  exact exists_congr fun i => exists_congr fun a => and_congr_right fun _ => decide_eq_true_iff

lemma exists_reversedBy_insert {a : BrokerEconomicAdjustment} (h : s'.adjustments = s.adjustments.insert a) (k : ℕ) :
    s'.adjustments.exists? (reversedBy k) = true ↔
      s.adjustments.exists? (reversedBy k) = true ∨ a.reverses = some k := by
  rw [exists_reversedBy_iff, exists_reversedBy_iff, h]
  constructor
  · rintro ⟨i, b, hb, hk⟩
    rcases Table.get_insert_some hb with hold | ⟨-, rfl⟩
    · exact Or.inl ⟨i, b, hold, hk⟩
    · exact Or.inr hk
  · rintro (⟨i, b, hb, hk⟩ | hk)
    · exact ⟨i, b, Table.get_insert_of_get hb a, hk⟩
    · exact ⟨_, a, Table.get_insert_next _ _, hk⟩

lemma next_not_reversed (hs : Sound s) : ¬ s.adjustments.exists? (reversedBy s.adjustments.next) = true := by
  rw [exists_reversedBy_iff]
  rintro ⟨i, a, ha, hk⟩
  obtain ⟨b, hb, -⟩ := hs.reversals i a _ ha hk
  rw [Table.get_next] at hb
  cases hb

lemma inForce_iff {k : ℕ} {a : BrokerEconomicAdjustment} :
    inForce s k a = true ↔ a.reverses = none ∧ ¬ s.adjustments.exists? (reversedBy k) = true := by
  rw [inForce, decide_eq_true_iff, Bool.not_eq_true]

lemma inForceTotal_posted (hs : Sound s) (p : Posted s s') :
    inForceTotal s' = inForceTotal s + p.adjustment.amount.units := by
  have hnext : ¬ s'.adjustments.exists? (reversedBy s.adjustments.next) = true := by
    rw [exists_reversedBy_insert p.adjustments]
    rintro (hold | hself)
    · exact next_not_reversed hs hold
    · obtain ⟨b, hb, -⟩ := p.target _ hself
      rw [Table.get_next] at hb
      cases hb
  rw [inForceTotal, p.adjustments, Table.total_insert]
  cases hr : p.adjustment.reverses with
  | none =>
    have hnew : inForce s' s.adjustments.next p.adjustment = true := inForce_iff.mpr ⟨hr, hnext⟩
    rw [if_pos hnew]
    congr 1
    refine Table.total_ext fun i => ?_
    cases hi : s.adjustments.get i with
    | none => rfl
    | some a =>
      rw [Option.elim_some, Option.elim_some]
      congr 1
      rw [inForce_iff, inForce_iff, exists_reversedBy_insert p.adjustments, hr, or_iff_left nofun]
  | some k =>
    obtain ⟨b, hb, hnone, hfree, hamount⟩ := p.target k hr
    have hnew : ¬ inForce s' s.adjustments.next p.adjustment = true := by
      rw [inForce_iff, hr]
      exact fun h => nomatch h.1
    rw [if_neg hnew, add_zero]
    have hmove := Table.total_move (t := s.adjustments) (u := s.adjustments)
      (f := fun i a => if inForce s i a then a.amount.units else 0)
      (g := fun i a => if inForce s' i a then a.amount.units else 0) (i := k) rfl fun j hj => by
        cases hget : s.adjustments.get j with
        | none => rfl
        | some a =>
          rw [Option.elim_some, Option.elim_some]
          congr 1
          rw [inForce_iff, inForce_iff, exists_reversedBy_insert p.adjustments, hr, Option.some.injEq,
            or_iff_left (Ne.symm hj)]
    have hbefore : inForce s k b = true := inForce_iff.mpr ⟨hnone, Bool.not_eq_true _ ▸ hfree⟩
    have hafter : ¬ inForce s' k b = true := by
      rw [inForce_iff, exists_reversedBy_insert p.adjustments, hr]
      exact fun h => h.2 (Or.inr rfl)
    rw [hb, Option.elim_some, Option.elim_some, if_pos hbefore, if_neg hafter, add_zero] at hmove
    rw [hamount, inForceTotal, ← hmove]
    omega

lemma ledgerTotal_insert {row : BrokerLedgerRow} (h : s'.ledger = s.ledger.insert row) :
    ledgerTotal s' = ledgerTotal s + if row.revenueType = .adjustment then row.amount.units else 0 := by
  rw [ledgerTotal, h, Table.total_insert]
  rfl

end Totals

section Steps

variable {gate : Gate} {s s' : Book}

lemma Sound.of_adjustments (hs : Sound s) (hadjustments : s'.adjustments = s.adjustments)
    (hkept : ∀ k row, s.ledger.get k = some row → s'.ledger.get k = some row)
    (hnew : ∀ k row, s'.ledger.get k = some row → row.revenueType = .adjustment → s.ledger.get k = some row)
    (htotal : ledgerTotal s' = ledgerTotal s) : Sound s' where
  entries i a ha := by
    obtain ⟨row, hrow, hrest⟩ := hs.entries i a (hadjustments ▸ ha)
    exact ⟨row, hkept _ row hrow, hrest⟩
  explained k row hrow htype := by
    rw [hadjustments]
    exact hs.explained k row (hnew k row hrow htype) htype
  unique := hadjustments ▸ hs.unique
  reversals := hadjustments ▸ hs.reversals
  once := hadjustments ▸ hs.once
  total := by
    have hforce : inForce s' = inForce s := by
      unfold inForce
      rw [hadjustments]
    rw [htotal, inForceTotal, hadjustments, hforce]
    exact hs.total

lemma Sound.post (hs : Sound s) (p : Posted s s') : Sound s' := by
  refine ⟨fun i a ha => ?_, fun k row hrow htype => ?_, fun i j a b ha hb heq => ?_, fun i a k ha hk => ?_,
    fun i j a b k ha hb hak hbk => ?_, ?_⟩
  · rw [p.adjustments] at ha
    rw [p.ledger]
    rcases Table.get_insert_some ha with hold | ⟨-, rfl⟩
    · obtain ⟨row, hrow, hrest⟩ := hs.entries i a hold
      exact ⟨row, Table.get_insert_of_get hrow _, hrest⟩
    · rw [p.entry]
      exact ⟨p.row, Table.get_insert_next _ _, p.revenueType, p.amount⟩
  · rw [p.ledger] at hrow
    rw [p.adjustments]
    rcases Table.get_insert_some hrow with hold | ⟨rfl, -⟩
    · obtain ⟨i, a, ha, hentry⟩ := hs.explained k row hold htype
      exact ⟨i, a, Table.get_insert_of_get ha _, hentry⟩
    · exact ⟨_, p.adjustment, Table.get_insert_next _ _, p.entry⟩
  · have hfresh : ∀ k c, s.adjustments.get k = some c → ¬ (c.idempotencyKey = p.adjustment.idempotencyKey ∨
        c.createdLedgerEntry = p.adjustment.createdLedgerEntry) := by
      rintro k c hc (hkey | hentry)
      · exact p.fresh k c hc hkey
      · obtain ⟨row, hrow, -⟩ := hs.entries k c hc
        exact Table.ne_next_of_get hrow (hentry.trans p.entry)
    rw [p.adjustments] at ha hb
    rcases Table.get_insert_some ha with hold | ⟨hi, rfl⟩
    · rcases Table.get_insert_some hb with hold' | ⟨-, rfl⟩
      · exact hs.unique i j a b hold hold' heq
      · exact (hfresh i a hold heq).elim
    · rcases Table.get_insert_some hb with hold' | ⟨hj, -⟩
      · exact (hfresh j b hold' (heq.imp Eq.symm Eq.symm)).elim
      · rw [hi, hj]
  · rw [p.adjustments] at ha ⊢
    rcases Table.get_insert_some ha with hold | ⟨-, rfl⟩
    · obtain ⟨b, hb, hrest⟩ := hs.reversals i a k hold hk
      exact ⟨b, Table.get_insert_of_get hb _, hrest⟩
    · obtain ⟨b, hb, hnone, -, hamount⟩ := p.target k hk
      exact ⟨b, Table.get_insert_of_get hb _, hnone, hamount⟩
  · have hfree : ∀ l c, s.adjustments.get l = some c → c.reverses = some k → p.adjustment.reverses ≠ some k := by
      intro l c hc hck hpk
      obtain ⟨-, -, -, hnone, -⟩ := p.target k hpk
      rw [exists_reversedBy_iff.mpr ⟨l, c, hc, hck⟩] at hnone
      cases hnone
    rw [p.adjustments] at ha hb
    rcases Table.get_insert_some ha with hold | ⟨hi, rfl⟩
    · rcases Table.get_insert_some hb with hold' | ⟨-, rfl⟩
      · exact hs.once i j a b k hold hold' hak hbk
      · exact (hfree i a hold hak hbk).elim
    · rcases Table.get_insert_some hb with hold' | ⟨hj, -⟩
      · exact (hfree j b hold' hbk hak).elim
      · rw [hi, hj]
  · rw [ledgerTotal_insert p.ledger, if_pos p.revenueType, p.amount, inForceTotal_posted hs p, hs.total]

lemma step_sound (hs : Sound s) (action : Action) : Sound (step gate s action) := by
  cases step_effect gate s action with
  | quiet hledger hadjustments =>
    refine hs.of_adjustments hadjustments (fun k row h => hledger ▸ h) (fun k row h _ => hledger ▸ h) ?_
    rw [ledgerTotal, hledger]
    rfl
  | other row htype hledger hadjustments =>
    refine hs.of_adjustments hadjustments (fun k v h => hledger ▸ Table.get_insert_of_get h row) (fun k v h hv => ?_) ?_
    · rw [hledger] at h
      rcases Table.get_insert_some h with hold | ⟨-, rfl⟩
      · exact hold
      · exact (htype hv).elim
    · rw [ledgerTotal_insert hledger, if_neg htype, add_zero]
  | posted p => exact hs.post p

lemma opened_sound : Sound opened where
  entries i a ha := by cases ha
  explained k row hrow := by cases hrow
  unique i j a b ha := by cases ha
  reversals i a k ha := by cases ha
  once i j a b k ha := by cases ha
  total := rfl

lemma run_sound (gate : Gate) (acts : List Action) : Sound (run (step gate) opened acts) :=
  run_invariant (I := Sound) (fun _ action hs => step_sound hs action) opened_sound acts

lemma step_kept (gate : Gate) (s : Book) (action : Action) {i : ℕ} {a : BrokerEconomicAdjustment}
    (h : s.adjustments.get i = some a) : (step gate s action).adjustments.get i = some a := by
  cases step_effect gate s action with
  | quiet _ hadjustments => rwa [hadjustments]
  | other _ _ _ hadjustments => rwa [hadjustments]
  | posted p => exact p.adjustments ▸ Table.get_insert_of_get h _

lemma create_repeated (hs : Sound s) {i : ℕ} {a : BrokerEconomicAdjustment} (h : s.adjustments.get i = some a)
    (reference : String) {r : Request} (hkey : r.idempotencyKey = a.idempotencyKey) :
    createBrokerEconomicAdjustment s reference r = (validate r).map fun _ => (s, i) := by
  have hfound : ∃ b, s.adjustments.latest (byKey r.idempotencyKey) = some (i, b) := by
    cases hl : s.adjustments.latest (byKey r.idempotencyKey) with
    | none =>
      have hnone := Table.latest_none hl h
      rw [hkey, byKey, decide_eq_false_iff_not] at hnone
      exact (hnone rfl).elim
    | some found =>
      obtain ⟨hget, hbyKey⟩ := Table.latest_some (i := found.1) (a := found.2) hl
      have hi := hs.unique found.1 i found.2 a hget h (Or.inl ((of_decide_eq_true hbyKey).trans hkey))
      exact ⟨found.2, by rw [← hi]⟩
  obtain ⟨b, hb⟩ := hfound
  rw [createBrokerEconomicAdjustment, hb]
  cases validate r with
  | error e => rfl
  | ok valid => rfl

end Steps

/-- A repeated key returns the adjustment that has it, whatever the other arguments are. -/
theorem adjustments_agree (gate : Gate) (acts : List Action) :
    (∀ i a, (run (step gate) opened acts).adjustments.get i = some a →
      ∃ row, (run (step gate) opened acts).ledger.get a.createdLedgerEntry = some row ∧
        row.revenueType = .adjustment ∧ row.amount = a.amount) ∧
    (∀ k row, (run (step gate) opened acts).ledger.get k = some row → row.revenueType = .adjustment →
      ∃! i, ∃ a, (run (step gate) opened acts).adjustments.get i = some a ∧ a.createdLedgerEntry = k) ∧
    (∀ i a reference r, (run (step gate) opened acts).adjustments.get i = some a →
      r.idempotencyKey = a.idempotencyKey →
      createBrokerEconomicAdjustment (run (step gate) opened acts) reference r =
        (validate r).map fun _ => (run (step gate) opened acts, i)) ∧
    (∀ i a k, (run (step gate) opened acts).adjustments.get i = some a → a.reverses = some k →
      ∃ b, (run (step gate) opened acts).adjustments.get k = some b ∧ b.reverses = none ∧
        a.amount.units = -b.amount.units) ∧
    (∀ i j a b k, (run (step gate) opened acts).adjustments.get i = some a →
      (run (step gate) opened acts).adjustments.get j = some b → a.reverses = some k → b.reverses = some k → i = j) ∧
    ledgerTotal (run (step gate) opened acts) = inForceTotal (run (step gate) opened acts) ∧
    ∀ later i a, (run (step gate) opened acts).adjustments.get i = some a →
      (run (step gate) opened (acts ++ later)).adjustments.get i = some a := by
  have hs := run_sound gate acts
  refine ⟨hs.entries, fun k row hrow htype => ?_, fun i a reference r ha hkey => create_repeated hs ha reference hkey,
    hs.reversals, hs.once, hs.total, fun later i a ha => ?_⟩
  · obtain ⟨i, a, ha, hentry⟩ := hs.explained k row hrow htype
    refine ⟨i, ⟨a, ha, hentry⟩, ?_⟩
    rintro j ⟨b, hb, hentry'⟩
    exact hs.unique j i b a hb ha (Or.inr (hentry'.trans hentry.symm))
  · rw [run_append]
    exact run_invariant (I := fun s => s.adjustments.get i = some a)
      (fun s action h => step_kept gate s action h) ha later

def correction (key : String) (amount : ℚ) : Request where
  amount := .value amount
  reason := "missing fee"
  actor := some 1
  idempotencyKey := key
  sourceLedger := none
  sourceAccount := none
  symbol := none
  reverses := none
  info := ""

def oneAdjustment : Book :=
  commit opened ((createBrokerEconomicAdjustment opened "BEA-1" (correction "k1" 40)).map Prod.fst)

theorem other_payload_returns_first :
    (createBrokerEconomicAdjustment oneAdjustment "BEA-2" (correction "k1" 999)).toOption.map Prod.snd = some 0 ∧
    (oneAdjustment.adjustments.get 0).map (fun a => (a.idempotencyKey, a.amount.units)) = some ("k1", 4000) := by
  decide +kernel

end TrxSimulator.Adjustments.Balance
