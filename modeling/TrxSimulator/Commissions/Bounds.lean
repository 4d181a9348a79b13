import TrxSimulator.Commissions.Linking

/-! The money bound of a commission obligation, over every run of the obligation, its adjustments and
the treasury that executes their requests. -/

namespace TrxSimulator.Commissions.Bounds

open Foundations.Runs Foundations.Tables Foundations.Outcomes Foundations.Decimals Wallets.Ledger
open Treasury.Requests Treasury.Safety Settlement Reversal Linking
open Treasury.Machine (keyed)

def movedBy (l : WalletLedger Note) (request : ℕ) : ℤ :=
  l.transactions.total fun _ row => if keyed request row = true then row.amount.units else 0

def linkedMoney (l : WalletLedger Note) (link : Option ℕ) : ℤ := link.elim 0 (movedBy l)

def netEffect (s : Program) (obligation : ℕ) (o : Obligation) : ℤ :=
  linkedMoney s.office.ledger o.treasuryOperation + s.adjustments.total fun _ a =>
    if a.obligation = obligation then linkedMoney s.office.ledger a.treasuryOperation else 0

section Money

variable {l : WalletLedger Note} {k : ℕ} {q : TreasuryRequest}

lemma movedBy_eq (h : InOrder l k q) :
    movedBy l k = if q.status = .executed then q.signedAmount else 0 := by
  split
  · next hexecuted =>
    obtain ⟨i, row, -, hrow, hmoves, honly⟩ := h.executed hexecuted
    have hkeyed : keyed k row = true := by rw [keyed_note q hmoves.note, decide_eq_true rfl]
    rw [movedBy, Table.total_eq_single hrow, if_pos hkeyed, hmoves.amount]
    intro j row' hj hne
    exact if_neg fun hkey => hne (honly j row' hj hkey)
  · next hopen =>
    refine Table.total_eq_zero fun i row hi => if_neg ?_
    rw [(h.unlinked hopen).2 i row hi]
    exact Bool.false_ne_true

lemma linkedMoney_of_executed {s : Program} (h : Consistent s.office) {link : Option ℕ} {kind : OperationType}
    {amount : ℤ} (hbacked : Backed s.office.requests kind amount link)
    (hexecuted : Executed s.office.requests link) :
    linkedMoney s.office.ledger link = match (executionMapping kind).1 with
      | .credit => amount
      | .debit => -amount := by
  obtain ⟨k, q, rfl, hq, hstatus⟩ := hexecuted
  obtain ⟨q', hq', hkind, hamount⟩ := hbacked k rfl
  rw [hq] at hq'
  cases hq'
  have hsigned : q.signedAmount = match (executionMapping kind).1 with
      | .credit => amount
      | .debit => -amount := by
    subst hkind hamount
    rfl
  rw [linkedMoney, Option.elim_some, movedBy_eq (h.requests k q hq), if_pos hstatus, hsigned]

lemma linkedMoney_cases {s : Program} (h : Consistent s.office) {link : Option ℕ} {kind : OperationType}
    {amount : ℤ} (hbacked : Backed s.office.requests kind amount link) :
    linkedMoney s.office.ledger link = 0 ∨ (link ≠ none ∧ Executed s.office.requests link) := by
  cases link with
  | none => exact Or.inl rfl
  | some k =>
    obtain ⟨q, hq, -, -⟩ := hbacked k rfl
    by_cases hstatus : q.status = .executed
    · exact Or.inr ⟨Option.some_ne_none k, k, q, rfl, hq, hstatus⟩
    · exact Or.inl (by rw [linkedMoney, Option.elim_some, movedBy_eq (h.requests k q hq), if_neg hstatus])

variable {s : Program} {i : ℕ} {o : Obligation}

lemma adjustment_money (h : Sound s) {j : ℕ} {a : Adjustment} (ha : s.adjustments.get j = some a) :
    -a.amount.units ≤ linkedMoney s.office.ledger a.treasuryOperation ∧
      linkedMoney s.office.ledger a.treasuryOperation ≤ 0 ∧
      (linkedMoney s.office.ledger a.treasuryOperation ≠ 0 → reservedStatus a.status = true) := by
  have hok := h.adjustments j a ha
  have hpositive := a.positive
  rcases linkedMoney_cases h.office hok.backed with hzero | ⟨hlinked, hexecuted⟩
  · rw [hzero]
    exact ⟨by omega, le_rfl, fun hne => (hne rfl).elim⟩
  · rw [linkedMoney_of_executed h.office hok.backed hexecuted]
    have hdebit : -a.amount.units ≤ 0 := by omega
    refine ⟨le_rfl, hdebit, fun _ => ?_⟩
    rcases hok.linked hlinked with hs | hs <;> rw [hs] <;> rfl

lemma adjustments_money (h : Sound s) (i : ℕ) :
    -reserved s i none ≤ (s.adjustments.total fun _ a =>
        if a.obligation = i then linkedMoney s.office.ledger a.treasuryOperation else 0) ∧
      (s.adjustments.total fun _ a =>
        if a.obligation = i then linkedMoney s.office.ledger a.treasuryOperation else 0) ≤ 0 := by
  constructor
  · have hsum : 0 ≤ s.adjustments.total fun _ a =>
        (if a.obligation = i then linkedMoney s.office.ledger a.treasuryOperation else 0) +
          reservation i a := by
      refine Table.total_nonneg fun j a ha => ?_
      obtain ⟨hlow, -, hreserved⟩ := adjustment_money h ha
      have hpositive := a.positive
      rw [reservation]
      split
      · next hi =>
        by_cases hzero : linkedMoney s.office.ledger a.treasuryOperation = 0
        · rw [hzero]
          split <;> omega
        · rw [if_pos ⟨hi, hreserved hzero⟩]
          omega
      · next hi => rw [if_neg fun hr => hi hr.1, add_zero]
    rw [Table.total_add] at hsum
    have hreserved : reserved s i none = s.adjustments.total fun _ a => reservation i a := by
      simp only [reserved, reduceCtorEq, if_false]
    rw [hreserved]
    linarith
  · have hsum : 0 ≤ s.adjustments.total fun _ a =>
        -(if a.obligation = i then linkedMoney s.office.ledger a.treasuryOperation else 0) := by
      refine Table.total_nonneg fun j a ha => ?_
      have := (adjustment_money h ha).2.1
      split <;> omega
    rw [Table.total_neg] at hsum
    omega

lemma netEffect_bounds (h : Sound s) (ho : s.obligations.get i = some o) :
    0 ≤ netEffect s i o ∧ netEffect s i o ≤ o.calculatedAmount.units := by
  have hok := h.obligations i o ho
  have hnonneg := o.nonneg
  rw [netEffect]
  by_cases hcredited : o.status = .credited
  · rw [linkedMoney_of_executed h.office hok.backed (hok.credited hcredited)]
    have hcapacity := h.capacity i o ho
    obtain ⟨hlow, hhigh⟩ := adjustments_money h i
    simp only [executionMapping]
    omega
  · have hnone : (s.adjustments.total fun _ a =>
        if a.obligation = i then linkedMoney s.office.ledger a.treasuryOperation else 0) = 0 := by
      refine Table.total_eq_zero fun j a ha => if_neg fun hi => ?_
      obtain ⟨o', ho', hcredited'⟩ := (h.adjustments j a ha).obligation
      rw [hi, ho] at ho'
      cases ho'
      exact hcredited hcredited'
    rw [hnone, add_zero]
    rcases linkedMoney_cases h.office hok.backed with hzero | ⟨-, hexecuted⟩
    · rw [hzero]
      omega
    · rw [linkedMoney_of_executed h.office hok.backed hexecuted]
      simp only [executionMapping]
      omega

end Money

section Runs

structure Opening (s : Program) : Prop where
  office : Treasury.Safety.Opening s.office
  obligations : ∀ i o, s.obligations.get i = some o → o.status ≠ .credited ∧ o.treasuryOperation = none
  adjustments : s.adjustments.next = 0

lemma Opening.sound {s : Program} (h : Opening s) : Sound s := by
  have hempty (i : ℕ) : s.adjustments.get i = none := s.adjustments.bound i (by rw [h.adjustments]; omega)
  refine ⟨h.office.consistent, fun i o ho => ?_, fun i a ha => ?_, fun i o ho => ?_,
    fun i j o o' k ho ho' hk => ?_, fun i j a a' k ha => ?_⟩
  · obtain ⟨hstatus, hlink⟩ := h.obligations i o ho
    refine ⟨fun k hk => ?_, fun hc => (hstatus hc).elim⟩
    rw [hlink] at hk
    cases hk
  · rw [hempty] at ha
    cases ha
  · have hzero : reserved s i none = 0 := Table.total_eq_zero fun j a ha => by
      rw [hempty] at ha
      cases ha
    rw [hzero]
    exact o.nonneg
  · rw [(h.obligations i o ho).2] at hk
    cases hk
  · rw [hempty] at ha
    cases ha

structure Bounded (s : Program) (obligation : ℕ) (o : Obligation) : Prop where
  capacity : (s.adjustments.total fun _ a => if a.obligation = obligation ∧
    (a.status = .pending ∨ a.status = .approved ∨ a.status = .executed) then a.amount.units else 0) ≤
      o.calculatedAmount.units
  credit : Backed s.office.requests .ibCommission o.calculatedAmount.units o.treasuryOperation
  debits : ∀ i a, s.adjustments.get i = some a → a.obligation = obligation →
    Backed s.office.requests .manualDebit a.amount.units a.treasuryOperation
  credited : o.status = .credited → Executed s.office.requests o.treasuryOperation
  net : 0 ≤ netEffect s obligation o ∧ netEffect s obligation o ≤ o.calculatedAmount.units

variable {s : Program} {obligation : ℕ} {o : Obligation}

lemma Sound.bounded (h : Sound s) (ho : s.obligations.get obligation = some o) : Bounded s obligation o := by
  have hok := h.obligations obligation o ho
  refine ⟨?_, hok.backed, fun i a ha _ => (h.adjustments i a ha).backed, hok.credited, netEffect_bounds h ho⟩
  refine le_of_eq_of_le (Table.total_ext fun i => ?_) (h.capacity obligation o ho)
  cases s.adjustments.get i with
  | none => rfl
  | some a =>
    simp only [Option.elim_some, reduceCtorEq, if_false, reservation]
    refine if_congr (and_congr_right' ?_) rfl rfl
    cases a.status <;> simp [reservedStatus]

/-- In every state of every run the obligation is bounded, no two adjustments share a request, and a
link that is set stays with its amount however the run goes on. -/
theorem commission_run_bounded (s : Program) (h : Opening s) (acts : List Action) (obligation : ℕ)
    (o : Obligation) (ho : (run step s acts).obligations.get obligation = some o) :
    Bounded (run step s acts) obligation o ∧
      (∀ i j a b k, (run step s acts).adjustments.get i = some a → (run step s acts).adjustments.get j = some b →
        a.treasuryOperation = some k → b.treasuryOperation = some k → i = j) ∧
      ∀ more, Keeps (run step s acts) (run step s (acts ++ more)) := by
  have hsound := sound_run h.sound acts
  refine ⟨Sound.bounded hsound ho, hsound.adjustmentLinks, fun more => ?_⟩
  rw [run_append]
  exact run_keeps hsound more

def openProgram : Program where
  office := openOffice
  referrals := Table.ofList [⟨9, .active⟩]
  obligations := Table.ofList
    [⟨0, "PER_LOT", ⟨10000, by decide⟩, by decide, .pending, none, none, false⟩]
  adjustments := Table.empty

def execute (request : ℕ) : List Action :=
  [.treasury (.approve 1 request), .treasury (.claim 2 request), .treasury (.announce request true true),
    .treasury (.move request)]

def creditAndReverse : List Action :=
  [.approveObligation 1 0, .linkObligation 0 0] ++ execute 0 ++
    [.syncObligation 0, .submitAdjustment 0 0 40 "chargeback" .reversal, .approveAdjustment 1 0,
      .linkAdjustment 0 0] ++ execute 1 ++ [.syncAdjustment 0]

lemma openProgram_opening : Opening openProgram where
  office := openOffice_opening
  obligations i o ho := by
    match i with
    | 0 => cases ho; exact ⟨nofun, rfl⟩
    | _ + 1 => cases ho
  adjustments := rfl

theorem commission_run_bounded_example :
    ∃ o, (run step openProgram creditAndReverse).obligations.get 0 = some o ∧ o.status = .credited ∧
      netEffect (run step openProgram creditAndReverse) 0 o = 6000 ∧
      Bounded (run step openProgram creditAndReverse) 0 o := by
  obtain ⟨o, ho, hstatus, hnet⟩ : ∃ o, (run step openProgram creditAndReverse).obligations.get 0 = some o ∧
      o.status = .credited ∧ netEffect (run step openProgram creditAndReverse) 0 o = 6000 := by
    decide +kernel
  exact ⟨o, ho, hstatus, hnet,
    (commission_run_bounded openProgram openProgram_opening creditAndReverse 0 o ho).1⟩

end Runs

end TrxSimulator.Commissions.Bounds
