import TrxSimulator.Revenue.Snapshots

/-! A snapshot holds the sums over the rows created by its own time, as long as no row falls on the wrong side of
the time at which a snapshot is stored. -/

namespace TrxSimulator.Revenue.Totals

open Foundations.Runs Foundations.Tables Foundations.Outcomes Foundations.Decimals Money Snapshots
open ProviderCosts.Posting (RevenueType)

def recorded (l : Ledger) (c : Column) : ℤ :=
  l.total fun _ e => if e.stage = .committed ∧ c.sums e.revenueType = true then e.amount.units else 0

def upTo (l : Ledger) (c : Column) (t : ℕ) : ℤ :=
  l.total fun _ e =>
    if e.stage = .committed ∧ c.sums e.revenueType = true ∧ e.createdAt ≤ t then e.amount.units else 0

def Counted (e : Entry) : Prop := e.revenueType ≠ .counterpartyPnl

instance (e : Entry) : Decidable (Counted e) := inferInstanceAs (Decidable (_ ≠ _))

/-- The row is created after every snapshot stored by the time it commits. -/
def AfterSnapshots (s : Book) (e : Entry) : Prop :=
  e.stage = .pending → Counted e → ∀ p ∈ s.snapshots.rows, p.2.takenAt < e.createdAt

/-- Nothing that counts has been committed since the ledger was read. -/
def Unchanged (read now : Ledger) : Prop :=
  ∀ x ∈ now.rows, x.2.stage = .committed → Counted x.2 →
    (read.get x.1).any (fun e => decide (e.stage = .committed)) = true

def Uncut (s : Book) : Act → Prop
  | .commit k => ∀ e ∈ s.ledger.get k, AfterSnapshots s e
  | .store k => ∀ r ∈ (s.runs.get k).bind id, Unchanged r.ledger s.ledger
  | _ => True

instance (s : Book) (e : Entry) : Decidable (AfterSnapshots s e) := by
  unfold AfterSnapshots
  infer_instance

instance (read now : Ledger) : Decidable (Unchanged read now) := by
  unfold Unchanged
  infer_instance

instance decidableUncut (s : Book) : ∀ a, Decidable (Uncut s a)
  | .commit k => inferInstanceAs (Decidable (∀ e ∈ s.ledger.get k, AfterSnapshots s e))
  | .store k => inferInstanceAs (Decidable (∀ r ∈ (s.runs.get k).bind id, Unchanged r.ledger s.ledger))
  | .wait _ | .insert _ _ | .rollback _ | .read _ => inferInstanceAs (Decidable True)

/-- The sums of a run that reads now fit the columns of a snapshot. -/
def Fits (s : Book) (prev : Option ℕ) : Prop :=
  (∀ c ∈ Column.all, |recorded s.ledger c| < 10 ^ 18) ∧
    ∀ c ∈ [Column.revenue, Column.commission, Column.spread],
      |aggregate s.ledger c ((prev.bind s.snapshots.get).map Snapshot.takenAt)| < 10 ^ 18

instance (s : Book) (prev : Option ℕ) : Decidable (Fits s prev) := by
  unfold Fits
  infer_instance

def start (clock : ℕ) : Book := ⟨clock, Table.empty, Table.empty, Table.empty⟩

structure Reads (r : Reading) (l : Ledger) : Prop where
  whole : ∀ c, r.prev.elim 0 (fun p => (p.total c).units) + aggregate r.ledger c r.since = recorded r.ledger c
  kept : ∀ k e, r.ledger.get k = some e → e.stage = .committed → l.get k = some e

structure Exact (s : Book) : Prop where
  created : ∀ k e, s.ledger.get k = some e → e.createdAt ≤ s.clock
  taken : ∀ k p, s.snapshots.get k = some p → ∀ c, (p.total c).units = upTo s.ledger c p.takenAt
  reads : ∀ k r, s.runs.get k = some (some r) → Reads r s.ledger

section Sums

variable {s : Book} {l : Ledger} {e : Entry} {r : Reading} {p : Snapshot} {c : Column} {t k : ℕ}

lemma counted_of_sums (h : c.sums e.revenueType = true) : Counted e := by
  intro hpnl
  rw [hpnl] at h
  cases c <;> simp [Column.sums] at h

lemma aggregate_none (l : Ledger) (c : Column) : aggregate l c none = recorded l c := by
  refine Table.total_ext fun i => ?_
  cases l.get i <;> simp [selected]

lemma upTo_add_aggregate (l : Ledger) (c : Column) (t : ℕ) : upTo l c t + aggregate l c (some t) = recorded l c := by
  rw [upTo, aggregate, ← Table.total_add]
  refine Table.total_ext fun i => ?_
  cases l.get i with
  | none => rfl
  | some e =>
    simp only [Option.elim_some, selected, Option.all_some, Bool.and_eq_true, decide_eq_true_eq]
    by_cases hcut : e.createdAt ≤ t
    · simp [hcut]
    · simp [hcut, not_le.mp hcut]

lemma upTo_clock (h : ∀ k e, l.get k = some e → e.createdAt ≤ t) (c : Column) : upTo l c t = recorded l c := by
  refine Table.total_ext fun i => ?_
  cases hi : l.get i with
  | none => rfl
  | some e => simp [h i e hi]

lemma upTo_pending (hpending : e.stage = .pending) : upTo (l.insert e) c t = upTo l c t := by
  rw [upTo, Table.total_insert]
  simp [hpending, upTo]

lemma upTo_resolve {stage : Stage} (h : ∀ e, l.get k = some e → e.stage = .pending →
    stage = .committed → c.sums e.revenueType = true → t < e.createdAt) :
    upTo (l.update k (resolve stage)) c t = upTo l c t := by
  refine Table.total_update_of_eq fun e he => ?_
  by_cases hpending : e.stage = .pending
  · have hlate := h e he hpending
    simp only [resolve, hpending]
    grind
  · simp only [resolve, if_neg hpending]

/-- The rows of two ledgers that have committed alike have the same sums. -/
lemma recorded_unchanged {read : Ledger}
    (hkept : ∀ k e, read.get k = some e → e.stage = .committed → l.get k = some e) (h : Unchanged read l) :
    recorded read c = recorded l c := by
  refine Table.total_ext fun i => ?_
  have hback : ∀ e, l.get i = some e → e.stage = .committed → c.sums e.revenueType = true → read.get i = some e := by
    intro e he hstage hsums
    obtain ⟨e', he', hstage'⟩ := (Option.any_eq_true _ _).mp
      (h (i, e) (Table.mem_rows.mpr he) hstage (counted_of_sums hsums))
    rw [he', ← he]
    exact (hkept i e' he' (of_decide_eq_true hstage')).symm
  cases hl : l.get i <;> cases hr : read.get i <;> grind

lemma base_eq (r : Reading) (c : Column) : r.base c = scaled 2 (r.prev.elim 0 fun p => (p.total c).units) := by
  cases hp : r.prev with
  | none => simp [Reading.base, hp, scaled]
  | some p => simp [Reading.base, hp, Numeric.value]

lemma create_total (h : r.create t = .ok p) (hwhole : Reads r l) (c : Column) :
    p.takenAt = t ∧ (p.total c).units = recorded r.ledger c := by
  simp only [Reading.create, bind_eq_ok, pure_eq_ok] at h
  obtain ⟨total, htotal, _, -, _, -, _, -, rfl⟩ := h
  have hstored := totals_eq_ok htotal c
  rw [base_eq, Reading.delta] at hstored
  exact ⟨rfl, (store_plus hstored).trans (hwhole.whole c)⟩

end Sums

section Steps

variable {s : Book} {a : Act} {l : Ledger} {r : Reading} {k : ℕ}

lemma exact_start (clock : ℕ) : Exact (start clock) :=
  ⟨fun _ _ h => (by cases h), fun _ _ h => (by cases h), fun _ _ h => (by cases h)⟩

lemma exact_insert (h : Exact s) (revenueType : RevenueType) (amount : Amount) :
    Exact (insert s revenueType amount) := by
  refine ⟨fun k e he => ?_, fun k p hp c => ?_, fun k r hr => ?_⟩
  · obtain hold | ⟨-, rfl⟩ := Table.get_insert_some he
    · exact h.created k e hold
    · exact le_rfl
  · rw [h.taken k p hp c]
    exact (upTo_pending rfl).symm
  · refine ⟨(h.reads k r hr).whole, fun j e he hstage => ?_⟩
    exact Table.get_insert_of_get ((h.reads k r hr).kept j e he hstage) _

lemma kept_resolve {stage : Stage} {e : Entry} (h : l.get k = some e) (hstage : e.stage = .committed) (j : ℕ) :
    (l.update j (resolve stage)).get k = some e := by
  by_cases hj : k = j
  · rw [← hj, Table.get_update_self h]
    simp [resolve, hstage]
  · rw [Table.get_update_ne l hj, h]

lemma exact_resolve (h : Exact s) {stage : Stage}
    (hcut : stage = .committed → ∀ e ∈ s.ledger.get k, AfterSnapshots s e) :
    Exact { s with ledger := s.ledger.update k (resolve stage) } := by
  refine ⟨fun j e he => ?_, fun j p hp c => ?_, fun j r hr => ?_⟩
  · obtain ⟨old, hold, hnew⟩ := Table.get_update_some he
    have hcreated : e.createdAt = old.createdAt := by
      rw [hnew]
      split
      · rw [resolve]
        split <;> rfl
      · rfl
    rw [hcreated]
    exact h.created j old hold
  · rw [h.taken j p hp c]
    refine (upTo_resolve fun e he hpending hcommit hsums => ?_).symm
    exact hcut hcommit e he hpending (counted_of_sums hsums) (j, p) (Table.mem_rows.mpr hp)
  · refine ⟨(h.reads j r hr).whole, fun i e he hstage => ?_⟩
    exact kept_resolve ((h.reads j r hr).kept i e he hstage) hstage k

lemma exact_read (h : Exact s) (prev : Option ℕ) : Exact (Snapshots.read s prev) := by
  rw [Snapshots.read]
  split
  · next hlatest =>
    refine ⟨h.created, h.taken, fun k r hr => ?_⟩
    obtain hold | ⟨-, hnew⟩ := Table.get_insert_some hr
    · exact h.reads k r hold
    · rw [Option.some.inj hnew]
      refine ⟨fun c => ?_, fun _ _ he _ => he⟩
      cases hp : prev.bind s.snapshots.get with
      | none => simp [Reading.since, aggregate_none]
      | some p =>
        obtain ⟨i, -, hi⟩ := Option.bind_eq_some_iff.mp hp
        simp only [Reading.since, Option.elim_some, Option.map_some]
        rw [h.taken i p hi c]
        exact upTo_add_aggregate s.ledger c p.takenAt
  · exact h

lemma exact_store (h : Exact s) (hcut : ∀ r ∈ (s.runs.get k).bind id, Unchanged r.ledger s.ledger) :
    Exact (storeRun s k) := by
  rw [storeRun]
  split
  · exact h
  · next r hr =>
    obtain ⟨_, hget, rfl⟩ := Option.bind_eq_some_iff.mp hr
    have hreads := h.reads k r hget
    have hdone : Exact { s with runs := s.runs.update k fun _ => none } := by
      refine ⟨h.created, h.taken, fun j r' hr' => ?_⟩
      obtain ⟨old, hold, hnew⟩ := Table.get_update_some hr'
      split at hnew
      · cases hnew
      · exact h.reads j r' (hnew ▸ hold)
    refine commit_rule _ _ hdone fun s' hs' => ?_
    obtain ⟨snap, hsnap, rfl⟩ := map_eq_ok.mp hs'
    refine ⟨h.created, fun j p hp c => ?_, hdone.reads⟩
    obtain hold | ⟨-, rfl⟩ := Table.get_insert_some hp
    · exact h.taken j p hold c
    · obtain ⟨htaken, htotal⟩ := create_total hsnap hreads c
      rw [htotal, htaken, recorded_unchanged hreads.kept (hcut r (by rw [hr]; rfl))]
      exact (upTo_clock h.created c).symm

lemma exact_step (h : Exact s) (ha : Uncut s a) : Exact (step s a) := by
  cases a with
  | wait ticks => exact ⟨fun k e he => (h.created k e he).trans (Nat.le_add_right _ _), h.taken, h.reads⟩
  | insert revenueType amount => exact exact_insert h revenueType amount
  | commit entry => exact exact_resolve h fun _ => ha
  | rollback entry => exact exact_resolve h fun hne => by cases hne
  | read prev => exact exact_read h prev
  | store run => exact exact_store h ha

end Steps

section Completion

variable {s : Book} {l : Ledger} {r : Reading} {prev : Option ℕ}

lemma column_scaled {m : ℤ} (name : String) (h : |m| < 10 ^ 18) : ∃ n, column name (scaled 2 m) = .ok n :=
  ⟨⟨m, h⟩, column_eq_ok.mpr (store_scaled.mpr rfl)⟩

lemma column_total (h : Reads r l) (name : String) {c : Column} (hfits : |recorded r.ledger c| < 10 ^ 18) :
    ∃ n, column name (plus (r.base c) (r.delta c)) = .ok n := by
  rw [base_eq, Reading.delta, plus_scaled, h.whole c]
  · exact column_scaled name hfits
  · rw [h.whole c]
    exact hfits.trans (by norm_num [precision])

lemma create_fits (h : Reads r l) (hfits : ∀ c ∈ Column.all, |recorded r.ledger c| < 10 ^ 18)
    (hperiod : ∀ c ∈ [Column.revenue, Column.commission, Column.spread], |aggregate r.ledger c r.since| < 10 ^ 18)
    (now : ℕ) : ∃ p, r.create now = .ok p := by
  have hcolumn : ∀ c, |recorded r.ledger c| < 10 ^ 18 := fun c => hfits c (by cases c <;> simp [Column.all])
  obtain ⟨n1, h1⟩ := column_total h "total_revenue" (hcolumn .revenue)
  obtain ⟨n2, h2⟩ := column_total h "total_commission" (hcolumn .commission)
  obtain ⟨n3, h3⟩ := column_total h "total_spread" (hcolumn .spread)
  obtain ⟨n4, h4⟩ := column_total h "total_challenge" (hcolumn .challenge)
  obtain ⟨n5, h5⟩ := column_total h "total_withdraw" (hcolumn .withdraw)
  obtain ⟨n6, h6⟩ := column_total h "total_adjustment" (hcolumn .adjustment)
  obtain ⟨p1, h7⟩ := column_scaled "period_revenue" (hperiod .revenue (by simp))
  obtain ⟨p2, h8⟩ := column_scaled "period_commission" (hperiod .commission (by simp))
  obtain ⟨p3, h9⟩ := column_scaled "period_spread" (hperiod .spread (by simp))
  have htotals : ∃ total, r.totals = .ok total := by
    rw [Reading.totals, h1, h2, h3, h4, h5, h6]
    exact ⟨_, rfl⟩
  obtain ⟨total, htotal⟩ := htotals
  rw [Reading.create, htotal, Reading.delta, h7, Reading.delta, h8, Reading.delta, h9]
  exact ⟨_, rfl⟩

lemma completed_run (h : Exact s) (hlatest : isLatest s.snapshots prev = true) (hfits : Fits s prev) :
    ∃ p, (run step s [.read prev, .store s.runs.next]).snapshots.get s.snapshots.next = some p ∧
      ∀ c, (p.total c).units = recorded s.ledger c := by
  have hread := exact_read h prev
  rw [Snapshots.read, if_pos hlatest] at hread
  have hreads := hread.reads s.runs.next _ (Table.get_insert_next _ _)
  obtain ⟨p, hp⟩ := create_fits hreads hfits.1 hfits.2 s.clock
  refine ⟨p, ?_, fun c => (create_total hp hreads c).2⟩
  simp only [run_cons, run_nil, step, Snapshots.read, if_pos hlatest, storeRun, Table.get_insert_next,
    Option.bind_some, id_eq, hp, Except.map, commit_ok]

end Completion

/-- As long as every row that counts commits with a creation time after the snapshots stored by then, and no such row
commits between the read and the store of a run, each snapshot holds the sums over the rows created by its time; and
one further run stores the sums over all rows. -/
theorem snapshots_exact (clock : ℕ) (acts : List Act) (hg : Guarded step Uncut (start clock) acts) :
    let s := run step (start clock) acts
    (∀ k p, s.snapshots.get k = some p → ∀ c, (p.total c).units = upTo s.ledger c p.takenAt) ∧
      ∀ prev, isLatest s.snapshots prev = true → Fits s prev →
        ∃ p, (run step s [.read prev, .store s.runs.next]).snapshots.get s.snapshots.next = some p ∧
          ∀ c, (p.total c).units = recorded s.ledger c := by
  have h : Exact (run step (start clock) acts) := guarded_invariant (fun _ _ => exact_step) (exact_start clock) hg
  exact ⟨h.taken, fun prev => completed_run h⟩

def twoRuns : List Act :=
  [.insert .commission (.ofUnits 1000), .commit 0, .read none, .store 0, .wait 1, .insert .spread (.ofUnits 250),
    .insert .counterpartyPnl (.ofUnits 9000), .commit 2, .wait 1, .commit 1]

theorem snapshots_exact_example :
    let s := run step (start 5) twoRuns
    ∃ p, (run step s [.read (some 0), .store s.runs.next]).snapshots.get s.snapshots.next = some p ∧
      (p.total .revenue).units = 1250 := by
  obtain ⟨p, hp, htotal⟩ := (snapshots_exact 5 twoRuns (by decide +kernel)).2 (some 0) (by decide +kernel)
    (by decide +kernel)
  exact ⟨p, hp, (htotal .revenue).trans (by decide +kernel)⟩

def betweenReadAndStore : List Act :=
  [.insert .commission (.ofUnits 1000), .read none, .commit 0, .wait 1, .store 0, .wait 1]

def committedAfterStore : List Act :=
  [.insert .commission (.ofUnits 1000), .wait 1, .read none, .store 0, .commit 0, .wait 1]

/-- The one row of the ledger is committed, and the next run leaves it out. -/
def Loses (acts : List Act) : Prop :=
  let s := run step (start 0) acts
  (∀ x ∈ s.ledger.rows, x.2.stage = .committed) ∧ isLatest s.snapshots (some 0) = true ∧ Fits s (some 0) ∧
    recorded s.ledger .revenue = 1000 ∧
    ((run step s [.read (some 0), .store 1]).snapshots.get 1).map (fun p => (p.total .revenue).units) = some 0

/-- A row that commits between the read and the store, and one that commits after the store but was created before
it: no later run counts either. -/
theorem snapshots_lose_rows : Loses betweenReadAndStore ∧ Loses committedAfterStore := by
  constructor
  · simp only [Loses]
    decide +kernel
  · simp only [Loses]
    decide +kernel

end TrxSimulator.Revenue.Totals
