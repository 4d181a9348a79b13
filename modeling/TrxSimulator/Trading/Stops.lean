import TrxSimulator.Trading.Edits

/-! Closes at a stop or a target, evaluated on a copy of the position and made on the row as it then stands. -/

namespace TrxSimulator.Trading.Stops

open Foundations.Runs Foundations.Tables Foundations.Outcomes Foundations.Decimals Writers Levels Edits

def Meets (f : Fired) : Prop :=
  ∃ x ∈ f.level.of f.row.sl f.row.tp, f.level.reached f.row.side x.value f.closePx = true

instance (f : Fired) : Decidable (Meets f) := by
  unfold Meets
  infer_instance

/-- The level lies between a price and the price as it is rounded. -/
def Crossed (decimals : ℕ) (level px : ℚ) : Prop :=
  (px ≤ level ∧ level < roundTo decimals px) ∨ (roundTo decimals px < level ∧ level ≤ px)

instance (decimals : ℕ) (level px : ℚ) : Decidable (Crossed decimals level px) := by
  unfold Crossed
  infer_instance

def Confirmed (s : Sheet) (a : Attempt) : Prop :=
  ∀ r ∈ s.row, (a.level.of r.sl r.tp).map Numeric.value = some a.evaluated ∧ ¬ Crossed s.decimals a.evaluated a.price

def AsEvaluated (s : Sheet) : Act → Prop
  | .fire attempt => ∀ a ∈ (s.attempts.get attempt).bind id, Confirmed s a
  | _ => True

instance (s : Sheet) (a : Attempt) : Decidable (Confirmed s a) := by
  unfold Confirmed
  infer_instance

instance decidableAsEvaluated (s : Sheet) : ∀ a, Decidable (AsEvaluated s a)
  | .fire attempt => inferInstanceAs (Decidable (∀ a ∈ (s.attempts.get attempt).bind id, Confirmed s a))
  | .refresh _ | .edit _ _ _ _ | .read _ | .save _ | .close _ | .merge _ | .evaluate _ _ _ =>
    inferInstanceAs (Decidable True)

/-- Everyone who holds the position knows its side; a close in flight was evaluated on a level that its price had
reached; and what was closed had reached its own. -/
structure Watched (side : Side) (s : Sheet) : Prop where
  row : ∀ r ∈ s.row, r.side = side
  copies : ∀ reader, ∀ c ∈ s.copies reader, c.side = side
  reads : ∀ k e, s.edits.get k = some e → ∀ r ∈ readRow e.stage, r.side = side
  attempts : ∀ k a, s.attempts.get k = some (some a) → a.side = side ∧ a.level.reached side a.evaluated a.price = true
  fired : ∀ k f, s.fired.get k = some f → Meets f

structure Started (side : Side) (s : Sheet) : Prop where
  row : ∀ r ∈ s.row, r.side = side
  copies : ∀ reader, ∀ c ∈ s.copies reader, c.side = side
  edits : s.edits = Table.empty
  attempts : s.attempts = Table.empty
  fired : s.fired = Table.empty

section Steps

variable {s : Sheet} {side : Side} {a : Act} {r : Row}

lemma reached_rounded {decimals : ℕ} {l : Level} {level px : ℚ} (h : l.reached side level px = true)
    (hcrossed : ¬ Crossed decimals level px) : l.reached side level (roundTo decimals px) = true := by
  rw [Crossed, not_or, not_and, not_and, not_lt, not_le] at hcrossed
  obtain ⟨hbelow, habove⟩ := hcrossed
  cases l <;> cases side <;> simp only [Level.reached, decide_eq_true_eq] at h ⊢
  · exact hbelow h
  · by_contra hlt
    exact absurd h (not_le.mpr (habove (not_le.mp hlt)))
  · by_contra hlt
    exact absurd h (not_le.mpr (habove (not_le.mp hlt)))
  · exact hbelow h

lemma evaluated_reached {c : Copy} {px : ℚ} {x : Attempt} (h : evaluated c px = some x) :
    x.side = c.side ∧ x.level.reached c.side x.evaluated x.price = true := by
  rw [evaluated] at h
  split at h
  · next htp =>
    obtain ⟨y, hy, rfl⟩ := Option.map_eq_some_iff.mp h
    rw [hy] at htp
    exact ⟨rfl, htp⟩
  · split at h
    · next hsl =>
      obtain ⟨y, hy, rfl⟩ := Option.map_eq_some_iff.mp h
      rw [hy] at hsl
      exact ⟨rfl, hsl⟩
    · cases h

lemma watched_row (h : Watched side s) (row : Option Row) (hrow : ∀ r ∈ row, r.side = side) :
    Watched side { s with row } :=
  ⟨hrow, h.copies, h.reads, h.attempts, h.fired⟩

lemma watched_copy (h : Watched side s) (reader : ℕ) (copy : Option Copy) (hcopy : ∀ c ∈ copy, c.side = side) :
    Watched side (setCopy s reader copy) := by
  refine ⟨h.row, fun j c hc => ?_, h.reads, h.attempts, h.fired⟩
  rw [setCopy] at hc
  dsimp only at hc
  split at hc
  · exact hcopy c hc
  · exact h.copies j c hc

lemma watched_stage (h : Watched side s) (k : ℕ) (stage : Stage) (hstage : ∀ r ∈ readRow stage, r.side = side) :
    Watched side (setStage s k stage) := by
  refine ⟨h.row, h.copies, fun j e he r hr => ?_, h.attempts, h.fired⟩
  obtain ⟨old, hold, rfl⟩ := Table.get_update_some he
  split at hr
  · exact hstage r hr
  · exact h.reads j old hold r hr

lemma closeRow_side {row : Option Row} {q : Option ℚ} (h : closeRow r q = .ok row) : ∀ r' ∈ row, r'.side = r.side := by
  rw [closeRow] at h
  split at h
  · rw [Except.ok.injEq] at h
    exact fun r' hr' => by rw [← h] at hr'; rw [← Option.some.inj hr']
  · split at h
    · rw [Except.ok.injEq] at h
      exact fun r' hr' => by rw [← h] at hr'; cases hr'
    · simp only [bind_eq_ok, pure_eq_ok] at h
      obtain ⟨qty, -, rfl⟩ := h
      exact fun r' hr' => by rw [← Option.some.inj hr']

lemma mergeRow_side {r' : Row} {m : Merge} (h : mergeRow r m = .ok r') : r'.side = r.side := by
  rw [mergeRow, guard_eq_ok] at h
  simp only [bind_eq_ok, pure_eq_ok] at h
  obtain ⟨-, avgPrice, -, qty, -, sl, -, tp, -, rfl⟩ := h
  rfl

lemma editRow_side {r' : Row} {sl tp : Option ℚ} (h : editRow r sl tp = .ok r') : r'.side = r.side := by
  simp only [editRow, bind_eq_ok, pure_eq_ok] at h
  obtain ⟨sl', -, tp', -, rfl⟩ := h
  rfl

lemma watched_writeRow (h : Watched side s) {f : Row → Except TradeError (Option Row)}
    (hf : ∀ r row, f r = .ok row → ∀ r' ∈ row, r'.side = r.side) : Watched side (writeRow s f) := by
  rw [writeRow]
  split
  · exact h
  · next r hrow =>
    refine commit_rule s _ h fun s' hs' => ?_
    obtain ⟨row, hfr, rfl⟩ := map_eq_ok.mp hs'
    exact watched_row h row fun r' hr' => (hf r row hfr r' hr').trans (h.row r hrow)

lemma watched_edit (h : Watched side s) (reader : ℕ) (sl tp refPrice : Option ℚ) :
    Watched side (orderUpdate s reader sl tp refPrice) := by
  rw [orderUpdate]
  split
  · exact h
  · next c hc =>
    split
    · have hcopied := watched_copy h reader (some { c with sl := sl.or c.sl, tp := tp.or c.tp }) fun c' hc' => by
        rw [← Option.some.inj hc']
        exact h.copies reader c hc
      refine ⟨hcopied.row, hcopied.copies, fun k e he r hr => ?_, hcopied.attempts, hcopied.fired⟩
      obtain hold | ⟨-, rfl⟩ := Table.get_insert_some he
      · exact h.reads k e hold r hr
      · cases hr
    · exact h

lemma watched_read (h : Watched side s) (edit : ℕ) : Watched side (readForEdit s edit) := by
  rw [readForEdit]
  split
  · split
    · next r _ hr => exact watched_stage h edit _ fun r' hr' => by rw [← Option.some.inj hr']; exact h.row r hr
    · exact watched_stage h edit _ fun r' hr' => by cases hr'
    · exact h
  · exact h

lemma watched_save (h : Watched side s) (edit : ℕ) : Watched side (saveEdit s edit) := by
  have hdone := watched_stage h edit .done fun r' hr' => by cases hr'
  rw [saveEdit]
  split
  · next e he =>
    split
    · next r hstage =>
      split
      · exact hdone
      · refine commit_rule _ _ hdone fun s' hs' => ?_
        obtain ⟨r', hr', rfl⟩ := map_eq_ok.mp hs'
        refine watched_row hdone (some r') fun r'' hr'' => ?_
        rw [← Option.some.inj hr'', editRow_side hr']
        exact h.reads edit e he r (by rw [hstage]; rfl)
    · exact h
  · exact h

lemma watched_evaluate (h : Watched side s) (reader : ℕ) (bid ask : ℚ) :
    Watched side (checkTpSl s reader bid ask) := by
  rw [checkTpSl]
  split
  · exact h
  · next c hc =>
    split
    · exact h
    · next x hx =>
      refine ⟨h.row, h.copies, h.reads, fun k y hy => ?_, h.fired⟩
      obtain hold | ⟨-, hnew⟩ := Table.get_insert_some hy
      · exact h.attempts k y hold
      · obtain ⟨hside, hreached⟩ := evaluated_reached hx
        rw [h.copies reader c hc] at hside hreached
        rw [Option.some.inj hnew]
        exact And.intro hside hreached

lemma watched_fire (h : Watched side s) {attempt : ℕ}
    (hconfirmed : ∀ x ∈ (s.attempts.get attempt).bind id, Confirmed s x) : Watched side (fireAttempt s attempt) := by
  rw [fireAttempt]
  split
  · next x r hx hr =>
    obtain ⟨hside, hreached⟩ := h.attempts attempt x hx
    obtain ⟨hstored, hcrossed⟩ := hconfirmed x (by rw [hx]; rfl) r hr
    refine ⟨fun r' hr' => (by cases hr'), h.copies, h.reads, fun k y hy => ?_, fun k f hf => ?_⟩
    · obtain ⟨old, hold, hnew⟩ := Table.get_update_some hy
      split at hnew
      · cases hnew
      · exact h.attempts k y (hnew ▸ hold)
    · obtain hold | ⟨-, rfl⟩ := Table.get_insert_some hf
      · exact h.fired k f hold
      · obtain ⟨level, hlevel, hvalue⟩ := Option.map_eq_some_iff.mp hstored
        refine ⟨level, hlevel, ?_⟩
        rw [hvalue, h.row r hr]
        exact reached_rounded hreached hcrossed
  · exact h

lemma watched_step (h : Watched side s) (ha : AsEvaluated s a) : Watched side (step s a) := by
  cases a with
  | refresh reader =>
    refine watched_copy h reader _ fun c hc => ?_
    obtain ⟨r, hr, rfl⟩ := Option.map_eq_some_iff.mp hc
    exact h.row r hr
  | edit reader sl tp refPrice => exact watched_edit h reader sl tp refPrice
  | read edit => exact watched_read h edit
  | save edit => exact watched_save h edit
  | close closeQty => exact watched_writeRow h fun r row => closeRow_side
  | merge m =>
    refine watched_writeRow h fun r row hrow r' hr' => ?_
    obtain ⟨r1, hmerge, rfl⟩ := map_eq_ok.mp hrow
    rw [← Option.some.inj hr']
    exact mergeRow_side hmerge
  | evaluate reader bid ask => exact watched_evaluate h reader bid ask
  | fire attempt => exact watched_fire h ha

lemma watched_started (h : Started side s) : Watched side s := by
  refine ⟨h.row, h.copies, ?_, ?_, ?_⟩
  · rw [h.edits]
    exact fun k e he => by cases he
  · rw [h.attempts]
    exact fun k a ha => by cases ha
  · rw [h.fired]
    exact fun k f hf => by cases hf

end Steps

/-- As long as every close finds the level that was evaluated still stored, and rounding does not carry its price
across that level, positions are closed at a stop or a target only at a price that has reached it. -/
theorem fired_at_stored_level (side : Side) (s : Sheet) (h : Started side s) (acts : List Act)
    (hg : Guarded step AsEvaluated s acts) : ∀ k f, (run step s acts).fired.get k = some f → Meets f :=
  (guarded_invariant (fun _ _ => watched_step) (watched_started h) hg).fired

def stopThenFire : List Act :=
  [setStop 0, .read 0, .save 0, .refresh 1, .evaluate 1 (104 / 100) (1041 / 1000), .merge ⟨1, 104 / 100, none, none⟩,
    .fire 0]

lemma twoPanels_started : Started .buy twoPanels :=
  ⟨fun r hr => by rw [← Option.some.inj hr]; rfl, fun _ c hc => by rw [← Option.some.inj hc]; rfl, rfl, rfl, rfl⟩

theorem fired_at_stored_level_example : ∃ f, (run step twoPanels stopThenFire).fired.get 0 = some f ∧ Meets f := by
  have hfired : ((run step twoPanels stopThenFire).fired.get 0).isSome := by decide +kernel
  obtain ⟨f, hf⟩ := Option.isSome_iff_exists.mp hfired
  exact ⟨f, hf, fired_at_stored_level .buy twoPanels twoPanels_started stopThenFire (by decide +kernel) 0 f hf⟩

def moveStop (reader : ℕ) (sl : ℚ) : Act := .edit reader (some sl) none (some (11 / 10))

/-- A stop that is lowered between a scan's reading and its close; and a price that is rounded across its stop. -/
theorem stops_fire_off_the_stored_level :
    ((run step twoPanels
      [setStop 0, .read 0, .save 0, .refresh 1, .evaluate 1 (104 / 100) (1041 / 1000), moveStop 0 1, .read 1, .save 1,
        .fire 0]).fired.get 0).any (fun f => decide (¬ Meets f)) = true ∧
      ((run step twoPanels
        [moveStop 0 (1049996 / 1000000), .read 0, .save 0, .refresh 1, .evaluate 1 (1049996 / 1000000) (105 / 100),
          .fire 0]).fired.get 0).any (fun f => decide (¬ Meets f)) = true := by
  decide +kernel

end TrxSimulator.Trading.Stops
