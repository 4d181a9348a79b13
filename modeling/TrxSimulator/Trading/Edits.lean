import TrxSimulator.Foundations.Runs
import TrxSimulator.Trading.Levels

/-! Edits of a position's levels beside its other writers: an edit ought to write, on the row as it stands at the
save, the levels that it names and nothing else. -/

namespace TrxSimulator.Trading.Edits

open Foundations.Runs Foundations.Tables Foundations.Outcomes Foundations.Decimals Writers Levels

def Storable (level : Option ℚ) : Prop := ∀ x ∈ level, (store 18 6 x).isSome

instance (level : Option ℚ) : Decidable (Storable level) := by
  unfold Storable
  infer_instance

def Writes (e : Edit) : Prop :=
  ((e.passed .sl).isSome ∨ (e.passed .tp).isSome) ∧ Storable (e.passed .sl) ∧ Storable (e.passed .tp)

instance (e : Edit) : Decidable (Writes e) := inferInstanceAs (Decidable (_ ∧ _ ∧ _))

def written (level : Option ℚ) (stored : Option (Numeric 18 6)) : Option (Numeric 18 6) :=
  match level with
  | none => stored
  | some x => store 18 6 x

/-- The edit as one atomic write of the levels that it names. -/
def idealEdit (e : Edit) (row : Option Row) : Option Row :=
  match e.stage with
  | .read _ => if Writes e then row.map fun r =>
      { r with sl := written (e.named .sl) r.sl, tp := written (e.named .tp) r.tp } else row
  | _ => row

def idealWrite (row : Option Row) (f : Row → Except TradeError (Option Row)) : Option Row :=
  row.bind fun r => commit (some r) (f r)

def idealStep (s : Sheet) (row : Option Row) : Act → Option Row
  | .save edit => (s.edits.get edit).elim row fun e => idealEdit e row
  | .close closeQty => idealWrite row fun r => closeRow r closeQty
  | .merge m => idealWrite row fun r => (mergeRow r m).map some
  | .fire attempt => if ((s.attempts.get attempt).bind id).isSome then none else row
  | _ => row

def idealRun : Sheet → Option Row → List Act → Option Row
  | _, row, [] => row
  | s, row, a :: acts => idealRun (step s a) (idealStep s row a) acts

/-- In a level that the edit does not name, what its panel held, or else what it read, is what is stored. -/
def Keeps (e : Edit) (read r : Row) (l : Level) : Prop :=
  e.named l = none → written (e.held l) (l.of read.sl read.tp) = l.of r.sl r.tp

def UpToDate (s : Sheet) (e : Edit) (read : Row) : Prop :=
  ∃ r ∈ s.row, read.toPosition = r.toPosition ∧ Keeps e read r .sl ∧ Keeps e read r .tp

def readRow : Stage → Option Row
  | .read r => some r
  | _ => none

def Current (s : Sheet) : Act → Prop
  | .save edit => ∀ e ∈ s.edits.get edit, ∀ read ∈ readRow e.stage, Writes e → UpToDate s e read
  | _ => True

instance (e : Edit) (read r : Row) (l : Level) : Decidable (Keeps e read r l) := by
  unfold Keeps
  infer_instance

instance (s : Sheet) (e : Edit) (read : Row) : Decidable (UpToDate s e read) := by
  unfold UpToDate
  infer_instance

instance (s : Sheet) (a : Act) : Decidable (Current s a) := by
  cases a <;> unfold Current <;> infer_instance

/-- The save brings no position back, leaves its lots and its price, and every level that the edit does not name. -/
def Harmless (s : Sheet) (edit : ℕ) : Prop :=
  (s.row = none → (saveEdit s edit).row = none) ∧
    ∀ r, s.row = some r → ∃ r', (saveEdit s edit).row = some r' ∧ r'.toPosition = r.toPosition ∧
      ∀ e ∈ s.edits.get edit, ∀ l, e.named l = none → l.of r'.sl r'.tp = l.of r.sl r.tp

section Saves

variable {s : Sheet} {k : ℕ} {e : Edit} {read r : Row}

lemma levelColumn_eq {level : Option ℚ} {name : String} {stored : Option (Numeric 18 6)} (h : Storable level) :
    levelColumn name level stored = .ok (written level stored) := by
  cases level with
  | none => rfl
  | some x =>
    obtain ⟨v, hv⟩ := Option.isSome_iff_exists.mp (h x rfl)
    rw [levelColumn, column, written, hv]
    rfl

lemma levelColumn_error (name : String) (stored : Option (Numeric 18 6)) {level : Option ℚ} (h : ¬ Storable level) :
    ∃ err, levelColumn name level stored = .error err := by
  cases level with
  | none => exact absurd (fun x hx => by cases hx) h
  | some x =>
    have hnone : store 18 6 x = none := by
      rw [← Option.not_isSome_iff_eq_none]
      intro hsome
      exact h fun y hy => Option.some.inj hy ▸ hsome
    rw [levelColumn, column, hnone]
    exact ⟨_, rfl⟩

lemma editRow_eq {sl tp : Option ℚ} (hsl : Storable sl) (htp : Storable tp) :
    editRow read sl tp = .ok { read with sl := written sl read.sl, tp := written tp read.tp } := by
  rw [editRow, levelColumn_eq hsl, levelColumn_eq htp]
  rfl

lemma editRow_error (read : Row) {sl tp : Option ℚ} (h : ¬ (Storable sl ∧ Storable tp)) :
    ∃ err, editRow read sl tp = .error err := by
  rw [editRow]
  by_cases hsl : Storable sl
  · obtain ⟨err, herr⟩ := levelColumn_error "tp" read.tp fun htp => h ⟨hsl, htp⟩
    rw [levelColumn_eq hsl, herr]
    exact ⟨err, rfl⟩
  · obtain ⟨err, herr⟩ := levelColumn_error "sl" read.sl hsl
    rw [herr]
    exact ⟨err, rfl⟩

lemma both_isNone {a b : Option ℚ} : (a.isNone && b.isNone) = false ↔ a.isSome ∨ b.isSome := by
  cases a <;> cases b <;> simp

lemma saveEdit_writes (he : s.edits.get k = some e) (hstage : e.stage = .read read) (hw : Writes e) :
    (saveEdit s k).row = some
      { read with sl := written (e.passed .sl) read.sl, tp := written (e.passed .tp) read.tp } := by
  have hsome := both_isNone.mpr hw.1
  rw [saveEdit, he]
  dsimp only
  rw [hstage]
  dsimp only
  rw [hsome, editRow_eq hw.2.1 hw.2.2]
  rfl

lemma saveEdit_idle (h : ∀ e ∈ s.edits.get k, ∀ read, e.stage = .read read → ¬ Writes e) :
    (saveEdit s k).row = s.row := by
  rw [saveEdit]
  split
  · next e he =>
    split
    · next read hstage =>
      split
      · rfl
      · next hsome =>
        have hlevels := both_isNone.mp (Bool.eq_false_iff.mpr hsome)
        obtain ⟨err, herr⟩ := editRow_error read fun hstorable => h e he read hstage ⟨hlevels, hstorable⟩
        rw [herr]
        rfl
    · rfl
  · rfl

lemma written_passed (e : Edit) (l : Level) (stored stored' : Option (Numeric 18 6))
    (h : e.named l = none → written (e.held l) stored = stored') :
    written (e.passed l) stored = written (e.named l) stored' := by
  rw [Edit.passed]
  cases hnamed : e.named l with
  | none => exact h hnamed
  | some x => rfl

lemma saveEdit_ideal (h : Current s (.save k)) :
    (saveEdit s k).row = (s.edits.get k).elim s.row fun e => idealEdit e s.row := by
  by_cases hw : ∃ e ∈ s.edits.get k, ∃ read, e.stage = .read read ∧ Writes e
  · obtain ⟨e, he, read, hstage, hwrites⟩ := hw
    obtain ⟨r, hr, hposition, hkeepsSl, hkeepsTp⟩ := h e he read (by rw [hstage]; rfl) hwrites
    have hsl := written_passed e .sl read.sl r.sl hkeepsSl
    have htp := written_passed e .tp read.tp r.tp hkeepsTp
    rw [saveEdit_writes he hstage hwrites, he, Option.elim_some, idealEdit, hstage, hr, hsl, htp]
    dsimp only
    rw [if_pos hwrites, Option.map_some, hposition]
  · push Not at hw
    rw [saveEdit_idle hw]
    cases he : s.edits.get k with
    | none => rfl
    | some e =>
      rw [Option.elim_some, idealEdit]
      split
      · next read hstage => rw [if_neg (hw e he read hstage)]
      · rfl

lemma harmless_iff : Harmless s k ↔ Current s (.save k) := by
  constructor
  · rintro ⟨hgone, hkept⟩ e he read hread hw
    have hstage : e.stage = .read read := by
      cases hs : e.stage with
      | read row => rw [hs, readRow, Option.mem_some_iff] at hread; rw [hread]
      | queued => rw [hs] at hread; cases hread
      | done => rw [hs] at hread; cases hread
    have hsaved := saveEdit_writes he hstage hw
    cases hrow : s.row with
    | none => rw [hgone hrow] at hsaved; cases hsaved
    | some r =>
      obtain ⟨r', hr', hposition, hlevels⟩ := hkept r hrow
      rw [hr', Option.some.injEq] at hsaved
      subst hsaved
      refine ⟨r, hrow, hposition, fun hl => ?_, fun hl => ?_⟩
      · rw [← hlevels e he .sl hl]
        simp only [Level.of, Edit.passed, hl, Option.none_or]
      · rw [← hlevels e he .tp hl]
        simp only [Level.of, Edit.passed, hl, Option.none_or]
  · intro h
    have hideal := saveEdit_ideal h
    refine ⟨fun hrow => ?_, fun r hrow => ?_⟩
    · rw [hideal, hrow]
      cases s.edits.get k with
      | none => rfl
      | some e =>
        rw [Option.elim_some, idealEdit]
        split <;> simp
    · rw [hideal, hrow]
      cases he : s.edits.get k with
      | none => exact ⟨r, rfl, rfl, fun e he' => by cases he'⟩
      | some e =>
        rw [Option.elim_some, idealEdit]
        split
        · split
          · refine ⟨_, rfl, rfl, fun e' he' l hl => ?_⟩
            obtain rfl := Option.some.inj he'
            cases l <;> simp only [Level.of, hl, written]
          · exact ⟨r, rfl, rfl, fun _ _ _ _ => rfl⟩
        · exact ⟨r, rfl, rfl, fun _ _ _ _ => rfl⟩

end Saves

section Runs

variable {s : Sheet} {a : Act}

lemma writeRow_ideal (s : Sheet) (f : Row → Except TradeError (Option Row)) :
    (writeRow s f).row = idealWrite s.row f := by
  rw [writeRow, idealWrite]
  split
  · next hrow => rw [hrow, Option.bind_none]
  · next r hrow =>
    rw [hrow, Option.bind_some]
    cases f r with
    | error err => exact hrow
    | ok row => rfl

lemma step_ideal (h : Current s a) : (step s a).row = idealStep s s.row a := by
  cases a with
  | refresh reader => rfl
  | edit reader sl tp refPrice =>
    rw [step, orderUpdate]
    split
    · rfl
    · split <;> rfl
  | read edit =>
    rw [step, readForEdit]
    split
    · split <;> rfl
    · rfl
  | save edit => exact saveEdit_ideal h
  | close closeQty => exact writeRow_ideal s _
  | merge m => exact writeRow_ideal s _
  | evaluate reader bid ask =>
    rw [step, checkTpSl]
    split
    · rfl
    · split <;> rfl
  | fire attempt =>
    rw [step, fireAttempt, idealStep]
    split
    · next x r hattempt hrow => simp [hattempt]
    · next hnone =>
      split
      · next hsome =>
        obtain ⟨x, hx⟩ := Option.isSome_iff_exists.mp hsome
        obtain ⟨y, hy, rfl⟩ := Option.bind_eq_some_iff.mp hx
        cases hrow : s.row with
        | none => rfl
        | some r => exact (hnone x r hy hrow).elim
      · rfl

lemma idealStep_none (s : Sheet) (a : Act) : idealStep s none a = none := by
  cases a with
  | save edit =>
    rw [idealStep]
    cases s.edits.get edit with
    | none => rfl
    | some e =>
      rw [Option.elim_some, idealEdit]
      split <;> simp
  | fire attempt => exact ite_self none
  | _ => rfl

lemma idealRun_none (s : Sheet) (acts : List Act) : idealRun s none acts = none := by
  induction acts generalizing s with
  | nil => rfl
  | cons a acts ih => rw [idealRun, idealStep_none, ih]

lemma run_ideal {acts : List Act} (hg : Guarded step Current s acts) :
    (run step s acts).row = idealRun s s.row acts := by
  induction acts generalizing s with
  | nil => rfl
  | cons a acts ih => rw [run_cons, ih hg.2, step_ideal hg.1, idealRun]

end Runs

/-- As long as every edit that saves is up to date outside of the levels that it names, the stored row is what the
closes, the merges and the named levels make of it, and a closed position stays closed; at every single save the
condition is exact. -/
theorem edits_undo_nothing (s : Sheet) (acts : List Act) (hg : Guarded step Current s acts) :
    (run step s acts).row = idealRun s s.row acts ∧
      (s.row = none → (run step s acts).row = none) ∧
      ∀ k, Harmless (run step s acts) k ↔ Current (run step s acts) (.save k) := by
  refine ⟨run_ideal hg, fun hrow => ?_, fun k => harmless_iff⟩
  rw [run_ideal hg, hrow, idealRun_none]

def oneLot : Row where
  account := 0
  symbol := "EUR/USD"
  side := .buy
  qty := .ofUnits 1000000
  avgPrice := .ofUnits 1100000
  sl := none
  tp := some (.ofUnits 1300000)

def twoPanels : Sheet where
  decimals := 5
  row := some oneLot
  copies := fun _ => some oneLot.copy
  edits := Table.empty
  attempts := Table.empty
  fired := Table.empty

def setStop (reader : ℕ) : Act := .edit reader (some (105 / 100)) none (some (11 / 10))

def setTarget (reader : ℕ) : Act := .edit reader none (some (12 / 10)) (some (11 / 10))

def editThenMerge : List Act :=
  [setStop 0, .read 0, .save 0, .refresh 1, setTarget 1, .read 1, .save 1, .merge ⟨1 / 2, 12 / 10, none, none⟩,
    .close (some (7 / 10)), .close none]

theorem edits_undo_nothing_example :
    (run step twoPanels editThenMerge).row = idealRun twoPanels twoPanels.row editThenMerge ∧
      (run step twoPanels editThenMerge).row = none := by
  have hrun := edits_undo_nothing twoPanels editThenMerge (by decide +kernel)
  exact ⟨hrun.1, by decide +kernel⟩

/-- An edit that reads before a close and saves after it brings back the position, or the lots that were closed;
a panel that does not know of another's target puts the old one back. -/
theorem edits_overwrite :
    (run step twoPanels [setStop 0, .read 0, .close none]).row = none ∧
      ((run step twoPanels [setStop 0, .read 0, .close none, .save 0]).row).map (fun r => r.qty.units) = some 1000000 ∧
      ((run step twoPanels [setStop 0, .read 0, .close (some (7 / 10)), .save 0]).row).map (fun r => r.qty.units) =
        some 1000000 ∧
      ((run step twoPanels [setTarget 1, .read 0, .save 0, setStop 0, .read 1, .save 1]).row).map (fun r => r.tp) =
        some (some (.ofUnits 1300000)) := by
  decide +kernel

end TrxSimulator.Trading.Edits
