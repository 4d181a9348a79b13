import TrxSimulator.Foundations.Decimals
import TrxSimulator.Foundations.Runs
import TrxSimulator.Foundations.Tables

/-! The last known price of a symbol, kept in the database. Processes write it side by side: an update of a row that
is not newer, and where that finds none, the lookup and the insertion of `get_or_create`, each a step of its own. -/

namespace TrxSimulator.Feeds.DurablePrice

open Foundations.Decimals Foundations.Runs Foundations.Tables

structure Quote where
  bid : ℚ
  ask : ℚ
  mid : ℚ
  source : String
  observedAt : ℤ
deriving DecidableEq

structure LastKnownMarketPrice where
  bid : Numeric 18 6
  ask : Numeric 18 6
  mid : Numeric 18 6
  source : String
  observedAt : ℤ
deriving DecidableEq

def validSources : List String := ["massive", "binance", "kraken", "finnhub"]

/-- The row that a quote makes; a number that its column does not hold raises, which is swallowed. -/
def Quote.row (q : Quote) : Option LastKnownMarketPrice := do
  guard (q.source ∈ validSources)
  let bid ← store 18 6 q.bid
  let ask ← store 18 6 q.ask
  let mid ← store 18 6 q.mid
  pure { bid, ask, mid, source := q.source, observedAt := q.observedAt }

inductive Stage
  | update | lookup | insert | retry | finished
deriving DecidableEq

structure Write where
  price : LastKnownMarketPrice
  stage : Stage
deriving DecidableEq

structure Market where
  row : Option LastKnownMarketPrice
  writes : Table Write

/-- The next command of a write: the row afterwards, and what the write does next. -/
def writeDurablePriceSync (row : Option LastKnownMarketPrice) (w : Write) : Option LastKnownMarketPrice × Write :=
  match w.stage, row with
  | .update, some r =>
    if r.observedAt ≤ w.price.observedAt then (some w.price, { w with stage := .finished })
    else (some r, { w with stage := .lookup })
  | .update, none => (none, { w with stage := .lookup })
  | .lookup, some r => (some r, { w with stage := .finished })
  | .lookup, none => (none, { w with stage := .insert })
  | .insert, some r => (some r, { w with stage := .retry })
  | .insert, none => (some w.price, { w with stage := .finished })
  | .retry, row => (row, { w with stage := .finished })
  | .finished, row => (row, w)

def persist (s : Market) (q : Quote) : Market :=
  match q.row with
  | none => s
  | some price => { s with writes := s.writes.insert ⟨price, .update⟩ }

def advance (s : Market) (write : ℕ) : Market :=
  match s.writes.get write with
  | none => s
  | some w =>
    { row := (writeDurablePriceSync s.row w).1
      writes := s.writes.update write fun _ => (writeDurablePriceSync s.row w).2 }

inductive Act
  | persist (quote : Quote)
  | advance (write : ℕ)

def step (s : Market) : Act → Market
  | .persist quote => persist s quote
  | .advance write => advance s write

def start (row : Option LastKnownMarketPrice) : Market := ⟨row, Table.empty⟩

def Covers (row : Option LastKnownMarketPrice) (price : LastKnownMarketPrice) : Prop :=
  ∃ r, row = some r ∧ price.observedAt ≤ r.observedAt

def Finished (s : Market) : Prop := ∀ i w, s.writes.get i = some w → w.stage = .finished

/-- The stored price is the newest of those that have been persisted, the one stored at the start included. -/
def Newest (row : Option LastKnownMarketPrice) (s : Market) : Prop :=
  (s.row = row ∨ ∃ i w, s.writes.get i = some w ∧ s.row = some w.price) ∧
    (∀ price, row = some price → Covers s.row price) ∧ ∀ i w, s.writes.get i = some w → Covers s.row w.price

/-- No write ends with a row that is older than the price that it was to store. -/
def Settled (s : Market) : Prop := ∀ i w, s.writes.get i = some w → w.stage = .finished → Covers s.row w.price

/-- A write that has found nothing to update does not then find an older row than its own. -/
def FindsNewer (s : Market) : Act → Prop
  | .persist _ => True
  | .advance write => ∀ w, s.writes.get write = some w → w.stage = .lookup ∨ w.stage = .retry →
    ∀ r, s.row = some r → w.price.observedAt ≤ r.observedAt

/-! One command. -/

lemma row_le (row : Option LastKnownMarketPrice) (w : Write) {r : LastKnownMarketPrice} (hr : row = some r) :
    Covers (writeDurablePriceSync row w).1 r := by
  subst hr
  cases hstage : w.stage with
  | update =>
    by_cases hle : r.observedAt ≤ w.price.observedAt
    · exact ⟨w.price, by simp [writeDurablePriceSync, hstage, hle], hle⟩
    · exact ⟨r, by simp [writeDurablePriceSync, hstage, hle], le_rfl⟩
  | lookup | insert | retry | finished => exact ⟨r, by simp [writeDurablePriceSync, hstage], le_rfl⟩

lemma covers_trans {row row' : Option LastKnownMarketPrice} {price : LastKnownMarketPrice} (h : Covers row price)
    (hrow : ∀ r, row = some r → Covers row' r) : Covers row' price := by
  obtain ⟨r, hr, hle⟩ := h
  obtain ⟨r', hr', hle'⟩ := hrow r hr
  exact ⟨r', hr', hle.trans hle'⟩

lemma price_written (row : Option LastKnownMarketPrice) (w : Write) :
    (writeDurablePriceSync row w).2.price = w.price := by
  cases hstage : w.stage <;> cases row <;> simp [writeDurablePriceSync, hstage]
  split <;> rfl

lemma row_written (row : Option LastKnownMarketPrice) (w : Write) :
    (writeDurablePriceSync row w).1 = row ∨ (writeDurablePriceSync row w).1 = some w.price := by
  cases hstage : w.stage <;> cases row <;> simp [writeDurablePriceSync, hstage]
  split <;> simp

/-- What a write that is over, or that has lost the insertion, knows: there is a row. -/
def Sound (row : Option LastKnownMarketPrice) (w : Write) : Prop :=
  (w.stage = .retry → row.isSome = true) ∧ (w.stage = .finished → Covers row w.price)

lemma covers_isSome {row row' : Option LastKnownMarketPrice} (hrow : ∀ r, row = some r → Covers row' r)
    (h : row.isSome = true) : row'.isSome = true := by
  obtain ⟨r, hr⟩ := Option.isSome_iff_exists.mp h
  obtain ⟨r', hr', -⟩ := hrow r hr
  rw [hr']
  rfl

lemma sound_of_covers {row row' : Option LastKnownMarketPrice} {w : Write} (h : Sound row w)
    (hrow : ∀ r, row = some r → Covers row' r) : Sound row' w :=
  ⟨fun hs => covers_isSome hrow (h.1 hs), fun hs => covers_trans (h.2 hs) hrow⟩

/-- A write stays sound exactly if it does not give up on finding an older row. -/
lemma sound_written_iff {row : Option LastKnownMarketPrice} {w : Write} (h : Sound row w) :
    Sound (writeDurablePriceSync row w).1 (writeDurablePriceSync row w).2 ↔
      (w.stage = .lookup ∨ w.stage = .retry → ∀ r, row = some r → w.price.observedAt ≤ r.observedAt) := by
  cases hstage : w.stage with
  | update =>
    cases row with
    | none => simp [writeDurablePriceSync, hstage, Sound]
    | some r =>
      by_cases hle : r.observedAt ≤ w.price.observedAt <;> simp [writeDurablePriceSync, hstage, hle, Sound, Covers]
  | lookup => cases row <;> simp [writeDurablePriceSync, hstage, Sound, Covers]
  | insert => cases row <;> simp [writeDurablePriceSync, hstage, Sound, Covers]
  | retry =>
    have hsome := h.1 hstage
    cases row with
    | none => simp at hsome
    | some r => simp [writeDurablePriceSync, hstage, Sound, Covers]
  | finished =>
    have hcovers := h.2 hstage
    simpa [writeDurablePriceSync, hstage, Sound] using hcovers

/-! Runs. -/

def AllSound (s : Market) : Prop := ∀ i w, s.writes.get i = some w → Sound s.row w

lemma get_advance {s : Market} {write i : ℕ} {w v : Write} (hw : s.writes.get write = some w)
    (hv : (advance s write).writes.get i = some v) :
    (i = write ∧ v = (writeDurablePriceSync s.row w).2) ∨ s.writes.get i = some v := by
  simp only [advance, hw] at hv
  obtain ⟨u, hu, rfl⟩ := Table.get_update_some hv
  by_cases hi : i = write
  · exact .inl ⟨hi, by simp [hi]⟩
  · exact .inr (by simpa [hi] using hu)

lemma row_step_le (s : Market) (a : Act) {r : LastKnownMarketPrice} (hr : s.row = some r) :
    Covers (step s a).row r := by
  have hsame : Covers s.row r := ⟨r, hr, le_rfl⟩
  cases a with
  | persist quote =>
    simp only [step, persist]
    split
    · exact hsame
    · exact hsame
  | advance write =>
    simp only [step, advance]
    split
    · exact hsame
    next w _ => exact row_le s.row w hr

lemma allSound_step_iff {s : Market} (h : AllSound s) (a : Act) : AllSound (step s a) ↔ FindsNewer s a := by
  cases a with
  | persist quote =>
    refine iff_of_true ?_ trivial
    simp only [step, persist]
    split
    · exact h
    next price _ =>
      intro i w hw
      obtain hold | ⟨-, rfl⟩ := Table.get_insert_some hw
      · exact h i w hold
      · exact ⟨by simp, by simp⟩
  | advance write =>
    cases hw : s.writes.get write with
    | none =>
      have hsame : step s (.advance write) = s := by simp [step, advance, hw]
      rw [hsame]
      exact iff_of_true h (by simp [FindsNewer, hw])
    | some w =>
      have hone : FindsNewer s (.advance write) ↔
          Sound (writeDurablePriceSync s.row w).1 (writeDurablePriceSync s.row w).2 := by
        rw [sound_written_iff (h write w hw)]
        simp [FindsNewer, hw]
      rw [hone]
      constructor
      · intro hall
        have hget : (advance s write).writes.get write = some (writeDurablePriceSync s.row w).2 := by
          simp only [advance, hw]
          exact Table.get_update_self hw _
        have hsound := hall write _ hget
        simpa only [step, advance, hw] using hsound
      · intro hsound i v hv
        obtain ⟨-, rfl⟩ | hold := get_advance hw hv
        · simpa only [step, advance, hw] using hsound
        · exact sound_of_covers (h i v hold) fun r hr => row_step_le s (.advance write) hr

def Kept (s : Market) : Prop := ∀ i w, s.writes.get i = some w → w.stage = .retry → s.row.isSome = true

lemma retry_written {row : Option LastKnownMarketPrice} {w : Write}
    (h : (writeDurablePriceSync row w).2.stage = .retry) :
    (writeDurablePriceSync row w).1.isSome = true := by
  cases hstage : w.stage <;> cases row <;> simp_all [writeDurablePriceSync]
  split at h <;> simp_all

lemma kept_step {s : Market} (h : Kept s) (a : Act) : Kept (step s a) := by
  intro i w hw hretry
  cases a with
  | persist quote =>
    simp only [step, persist] at hw ⊢
    split at hw
    · exact h i w hw hretry
    · obtain hold | ⟨-, rfl⟩ := Table.get_insert_some hw
      · exact h i w hold hretry
      · simp at hretry
  | advance write =>
    cases hget : s.writes.get write with
    | none =>
      have hsame : step s (.advance write) = s := by simp [step, advance, hget]
      rw [hsame] at hw ⊢
      exact h i w hw hretry
    | some v =>
      obtain ⟨-, rfl⟩ | hold := get_advance hget hw
      · simpa only [step, advance, hget] using retry_written hretry
      · exact covers_isSome (fun r hr => row_step_le s (.advance write) hr) (h i w hold hretry)

lemma settled_iff {s : Market} (h : Kept s) : Settled s ↔ AllSound s :=
  ⟨fun hs i w hw => ⟨h i w hw, hs i w hw⟩, fun hs i w hw => (hs i w hw).2⟩

/-- The row is the one of the start or a price that has been persisted, and no older than the one of the start. -/
def Stems (row : Option LastKnownMarketPrice) (s : Market) : Prop :=
  (s.row = row ∨ ∃ i w, s.writes.get i = some w ∧ s.row = some w.price) ∧
    ∀ price, row = some price → Covers s.row price

lemma stems_step {row : Option LastKnownMarketPrice} {s : Market} (h : Stems row s) (a : Act) :
    Stems row (step s a) := by
  refine ⟨?_, fun price hp => covers_trans (h.2 price hp) fun r hr => row_step_le s a hr⟩
  cases a with
  | persist quote =>
    simp only [step, persist]
    split
    · exact h.1
    next price _ =>
      obtain hsame | ⟨i, w, hw, hrow⟩ := h.1
      · exact .inl hsame
      · exact .inr ⟨i, w, Table.get_insert_of_get hw _, hrow⟩
  | advance write =>
    cases hget : s.writes.get write with
    | none =>
      have hsame : step s (.advance write) = s := by simp [step, advance, hget]
      rw [hsame]
      exact h.1
    | some v =>
      have hnext : (advance s write).writes.get write = some (writeDurablePriceSync s.row v).2 := by
        simp only [advance, hget]
        exact Table.get_update_self hget _
      have hrow : (advance s write).row = (writeDurablePriceSync s.row v).1 := by simp only [advance, hget]
      simp only [step, hrow]
      obtain hsame | hnew := row_written s.row v
      · rw [hsame]
        obtain hstart | ⟨i, w, hw, heq⟩ := h.1
        · exact .inl hstart
        · by_cases hi : i = write
          · subst hi
            obtain rfl := Option.some.inj (hget.symm.trans hw)
            exact .inr ⟨i, _, hnext, by rw [price_written]; exact heq⟩
          · refine .inr ⟨i, w, ?_, heq⟩
            simp only [advance, hget]
            rw [Table.get_update_ne _ hi]
            exact hw
      · exact .inr ⟨write, _, hnext, by rw [price_written]; exact hnew⟩

/-- No row is ever replaced by an older one. Every finished write leaves a row as new as its price exactly if no write
that found nothing to update goes on to find an older row; then the stored price is the newest once all have finished.
-/
theorem durable_price_newest (row : Option LastKnownMarketPrice) (acts : List Act) :
    (∀ before a after r, acts = before ++ a :: after → (run step (start row) before).row = some r →
      Covers (step (run step (start row) before) a).row r) ∧
    ((∀ before after, acts = before ++ after → Settled (run step (start row) before)) ↔
      Guarded step FindsNewer (start row) acts) ∧
    (Guarded step FindsNewer (start row) acts → ∀ before after, acts = before ++ after →
      Finished (run step (start row) before) → Newest row (run step (start row) before)) := by
  have hkept : ∀ before, Kept (run step (start row) before) := by
    have hstart : Kept (start row) := by simp [Kept, start, Table.empty]
    exact run_invariant (I := Kept) (fun s a h => kept_step h a) hstart
  have hstems : ∀ before, Stems row (run step (start row) before) := by
    have hstart : Stems row (start row) := ⟨.inl rfl, fun price hp => ⟨price, hp, le_rfl⟩⟩
    exact run_invariant (I := Stems row) (fun s a h => stems_step h a) hstart
  have hstart : AllSound (start row) := by simp [AllSound, start, Table.empty]
  have hstep : ∀ s a, AllSound s → (AllSound (step s a) ↔ FindsNewer s a) := fun s a h => allSound_step_iff h a
  have hiff := invariant_iff_guarded hstep hstart acts
  have hsettled : (∀ before after, acts = before ++ after → Settled (run step (start row) before)) ↔
      Guarded step FindsNewer (start row) acts := by
    rw [← hiff]
    exact forall_congr' fun before => forall_congr' fun after => imp_congr_right fun _ => settled_iff (hkept before)
  refine ⟨fun before a after r _ hr => row_step_le _ a hr, hsettled, ?_⟩
  intro hguarded before after heq hfinished
  have hdone := hsettled.mpr hguarded before after heq
  exact ⟨(hstems before).1, (hstems before).2, fun i w hw => hdone i w hw (hfinished i w hw)⟩

def older : Quote := ⟨11 / 10, 11 / 10, 11 / 10, "massive", 1⟩

def newer : Quote := ⟨12 / 10, 12 / 10, 12 / 10, "massive", 2⟩

/-- Two first writers: the newer one finds nothing to update, the older one inserts, and the newer one then finds that
row and leaves it. -/
def race : List Act :=
  [.persist newer, .persist older, .advance 0, .advance 1, .advance 1, .advance 1, .advance 0]

theorem race_keeps_older : Finished (run step (start none) race) ∧
    (run step (start none) race).row.map LastKnownMarketPrice.observedAt = some 1 ∧
    ¬ Newest none (run step (start none) race) := by
  have hrow : (run step (start none) race).row.map LastKnownMarketPrice.observedAt = some 1 := by decide +kernel
  have hnewer : ((run step (start none) race).writes.get 0).map (fun w => w.price.observedAt) = some 2 := by
    decide +kernel
  refine ⟨?_, hrow, fun h => ?_⟩
  · intro i w hw
    have hnext : (run step (start none) race).writes.next = 2 := by decide +kernel
    have hlt : i < 2 := hnext ▸ Table.lt_of_get hw
    have hstages : ∀ i < 2, ((run step (start none) race).writes.get i).map Write.stage = some .finished := by
      decide +kernel
    have hstage := hstages i hlt
    rw [hw] at hstage
    exact Option.some.inj hstage
  · obtain ⟨w, hw, hobserved⟩ := Option.map_eq_some_iff.mp hnewer
    obtain ⟨r, hr, hle⟩ := h.2.2 0 w hw
    rw [hr] at hrow
    have hold : r.observedAt = 1 := Option.some.inj hrow
    omega

end TrxSimulator.Feeds.DurablePrice
