import TrxSimulator.Trading.Moves

/-! Lots that were opened, that are held and that were closed, by account and symbol. -/

namespace TrxSimulator.Trading.Quantities

open Foundations.Runs Foundations.Tables Foundations.Outcomes Foundations.Decimals Money
open Executions Rows Moves
open Writers hiding Call call dbOpenPositionAtomic triggerPendingOrderCore closePosition dbClosePositionAtomic
  closePositionSync forceClose

def micro (q : ℚ) : ℤ := roundHalfAway (q * 10 ^ 6)

def lots (k : ℕ) (sym : String) (account : ℕ) (symbol : String) (n : ℤ) : ℤ :=
  if account = k ∧ symbol = sym then n else 0

def opened (s : Desk) (k : ℕ) (sym : String) : ℤ :=
  s.events.total fun _ e => lots k sym e.account e.symbol e.qty.units

def rowLots (k : ℕ) (sym : String) (row : Option Position) : ℤ :=
  row.elim 0 fun p => lots k sym p.account p.symbol p.qty.units

def held (t : Table (Option Position)) (k : ℕ) (sym : String) : ℤ := t.total fun _ row => rowLots k sym row

def closed (s : Desk) (k : ℕ) (sym : String) : ℤ :=
  s.trades.total fun _ t => lots k sym t.account t.symbol t.lotSize.units

def Conserved (s : Desk) : Prop := ∀ k sym, opened s k sym = held s.positions k sym + closed s k sym

def Positive (t : Table (Option Position)) : Prop := ∀ i p, t.get i = some (some p) → 0 < p.qty.units

def qtyAt (s : Desk) (position : ℕ) : ℚ := ((s.positions.get position).bind id).elim 0 fun p => p.qty.value

/-- A close of so many lots that commits takes as many off its position. -/
def ClosesExactly (s : Desk) (c : CloseRequest) : Prop :=
  ∀ s' isPartial balance equity, closeByCopy s c = .ok (s', .closed isPartial balance equity) →
    ∃ position mem, s.copies.get c.copy = some (position, mem) ∧
      qtyAt s' position = qtyAt s position - c.closeQty.getD (qtyAt s position)

/-- The context of 28 digits stores no other sum than the exact one. -/
def SumsKept (s : Desk) (o : Open) : Prop :=
  ∀ r ∈ s.positions.rows, ∀ existing ∈ r.2, mergesWith o.account o.fill (some existing) = true →
    micro (plus existing.qty.value o.fill.qty) = micro (existing.qty.value + o.fill.qty)

instance (s : Desk) (o : Open) : Decidable (SumsKept s o) := by
  unfold SumsKept
  infer_instance

def Allowed (s : Desk) : Call → Prop
  | .openPosition o => SumsKept s o
  | .closeWs c | .closeDaemon c => GridClose c
  | _ => True

instance (s : Desk) (a : Call) : Decidable (Allowed s a) := by
  cases a <;> unfold Allowed <;> infer_instance

structure Empty (s : Desk) : Prop where
  positions : s.positions = Table.empty
  events : s.events = Table.empty
  trades : s.trades = Table.empty
  copies : s.copies = Table.empty

section Arithmetic

variable {k n : ℕ} {m : ℤ} {q : ℚ} {sym : String}

lemma lots_add (k account : ℕ) (sym symbol : String) (m n : ℤ) :
    lots k sym account symbol (m + n) = lots k sym account symbol m + lots k sym account symbol n := by
  rw [lots, lots, lots]
  split <;> simp

lemma micro_add {n : ℤ} (hn : 0 ≤ n) (hq : 0 ≤ q) : micro (scaled 6 n + q) = n + micro q := by
  have hq' : 0 ≤ q * 10 ^ 6 := mul_nonneg hq (by norm_num)
  have hn' : (0 : ℚ) ≤ n := by exact_mod_cast hn
  rw [micro, micro, add_mul, scaled_mul, roundHalfAway_of_nonneg (add_nonneg hn' hq'),
    roundHalfAway_of_nonneg hq', add_assoc, Int.floor_intCast_add]

lemma store_micro {stored : Numeric 18 6} : store 18 6 q = some stored ↔ micro q = stored.units := store_eq_some

lemma onGrid_iff : OnGrid q ↔ ∃ n : ℤ, q = scaled 6 n := by
  refine ⟨fun h => ⟨_, h.symm⟩, ?_⟩
  rintro ⟨n, rfl⟩
  rw [OnGrid, scaled_mul, Int.floor_intCast]

lemma value_onGrid (x : Numeric 18 6) : OnGrid x.value := onGrid_iff.mpr ⟨x.units, rfl⟩

lemma onGrid_getD {closeQty : Option ℚ} (h : ∀ q ∈ closeQty, OnGrid q) (x : Numeric 18 6) :
    OnGrid (closeQty.getD x.value) := by
  cases closeQty with
  | none => exact value_onGrid x
  | some q => exact h q rfl

@[simp] lemma micro_scaled (m : ℤ) : micro (scaled 6 m) = m := by
  rw [micro, scaled_mul, roundHalfAway_intCast]

lemma micro_of_onGrid (h : OnGrid q) : scaled 6 (micro q) = q := by
  obtain ⟨n, rfl⟩ := onGrid_iff.mp h
  rw [micro_scaled]

lemma plus_value (x y : Numeric 18 6) : plus x.value y.value = x.value + y.value := by
  have hx := abs_lt.mp x.fits
  have hy := abs_lt.mp y.fits
  rw [plus, Numeric.value, Numeric.value, scaled_add]
  refine context_scaled (abs_lt.mpr ?_)
  rw [precision]
  omega

lemma minus_onGrid {x stored : Numeric 18 6} (hgrid : OnGrid q) (h0 : 0 < q) (hle : q ≤ x.value)
    (h : store 18 6 (minus x.value q) = some stored) : stored.units = x.units - micro q := by
  obtain ⟨n, rfl⟩ := onGrid_iff.mp hgrid
  have hpositive : 0 < n := by
    by_contra hn
    exact absurd h0 (not_lt.mpr (scaled_nonpos.mpr (not_lt.mp hn)))
  have hle' : n ≤ x.units := scaled_le.mp hle
  have hx := abs_lt.mp x.fits
  have hminus : minus x.value (scaled 6 n) = scaled 6 (x.units - n) := by
    rw [minus, Numeric.value, scaled_sub]
    refine context_scaled (abs_lt.mpr ?_)
    rw [precision]
    omega
  rw [hminus, store_scaled] at h
  rw [← h, micro_scaled]

lemma lotSizeOk_le {symbol : String} (h : lotSizeOk symbol q = true) : 1 / 1000 ≤ q := by
  rw [lotSizeOk] at h
  split at h
  · cases h
  · next spec hspec =>
    refine Market.Symbols.lot_positive (Market.Symbols.mem_of_getSpec hspec) ?_
    cases hcheck : Market.Symbols.checkLotSize q spec with
    | error e =>
      rw [hcheck] at h
      cases h
    | ok u => rfl

lemma micro_positive (h : 1 / 1000 ≤ q) : 0 < micro q := by
  have hq : 0 ≤ q * 10 ^ 6 := mul_nonneg (le_trans (by norm_num) h) (by norm_num)
  rw [micro, roundHalfAway_of_nonneg hq, Int.lt_iff_add_one_le, Int.le_floor]
  push_cast
  linarith

end Arithmetic

section Steps

variable {s s' : Desk} {t t' : Table (Option Position)} {a : Call} {q : ℚ}

lemma held_update (k : ℕ) (sym : String) {position : ℕ} {p : Position} (hrow : t.get position = some (some p))
    (row : Option Position) :
    held (t.update position fun _ => row) k sym + lots k sym p.account p.symbol p.qty.units =
      held t k sym + rowLots k sym row :=
  Table.total_update hrow (fun _ => row) fun _ row => rowLots k sym row

lemma positive_update {position : ℕ} {row : Option Position} (h : Positive t) (hrow : ∀ p ∈ row, 0 < p.qty.units) :
    Positive (t.update position fun _ => row) := by
  intro i p hp
  obtain ⟨old, hold, hnew⟩ := Table.get_update_some hp
  split at hnew
  · exact hrow p hnew.symm
  · exact h i p (hnew ▸ hold)

lemma merged_le {existing qty : Numeric 18 6} (h0 : 0 < existing.units) (hq : 0 ≤ q)
    (h : store 18 6 (plus existing.value q) = some qty) : existing.units ≤ qty.units := by
  have hgrown : existing.value ≤ plus existing.value q := by
    have hself : plus existing.value 0 = existing.value := by
      rw [plus, add_zero, Numeric.value]
      exact context_scaled (existing.fits.trans (by norm_num [precision]))
    calc existing.value = plus existing.value 0 := hself.symm
      _ ≤ plus existing.value q := context_mono (by norm_num [precision]) (by linarith)
  have hscaled : (existing.units : ℚ) ≤ plus existing.value q * 10 ^ 6 := by
    rw [← scaled_mul 6 existing.units]
    exact mul_le_mul_of_nonneg_right hgrown (by norm_num)
  have hpositive : (0 : ℚ) ≤ existing.units := by exact_mod_cast h0.le
  rw [← store_micro.mp h, micro, roundHalfAway_of_nonneg (hpositive.trans hscaled), Int.le_floor]
  linarith

lemma executes_grows {floor : Floor} {account id : ℕ} {f : Fill} {merged : Bool}
    (h : Executes floor account f t' id merged) (hpositive : Positive floor.positions) (hq : 1 / 1000 ≤ f.qty) :
    Positive t' ∧ ∀ i p, floor.positions.get i = some (some p) →
      ∃ p', t'.get i = some (some p') ∧ p.qty.units ≤ p'.qty.units := by
  cases h with
  | @merged _ existing avgPrice qty hrow hmatch hqty =>
    have hexisting := hpositive id existing hrow
    have hle := merged_le hexisting (le_trans (by norm_num) hq) hqty
    refine ⟨positive_update hpositive fun p hp => ?_, fun i p hp => ?_⟩
    · rw [← Option.some.inj hp]
      exact hexisting.trans_le hle
    · by_cases hi : i = id
      · subst hi
        rw [hrow, Option.some.injEq, Option.some.injEq] at hp
        exact ⟨_, Table.get_update_self hrow _, hp ▸ hle⟩
      · exact ⟨p, (Table.get_update_ne _ hi _).trans hp, le_rfl⟩
  | new hqty =>
    refine ⟨fun i p hp => ?_, fun i p hp => ⟨p, Table.get_insert_of_get hp _, le_rfl⟩⟩
    obtain hold | ⟨-, hnew⟩ := Table.get_insert_some hp
    · exact hpositive i p hold
    · rw [Option.some.inj hnew, ← store_micro.mp hqty]
      exact micro_positive hq

lemma executes_held (k : ℕ) (sym : String) {floor : Floor} {account id : ℕ} {f : Fill} {merged : Bool}
    (h : Executes floor account f t' id merged) (hpositive : Positive floor.positions) (hq : 1 / 1000 ≤ f.qty)
    (hkept : ∀ i existing, floor.positions.get i = some (some existing) → mergesWith account f (some existing) = true →
      micro (plus existing.qty.value f.qty) = micro (existing.qty.value + f.qty)) :
    held t' k sym = held floor.positions k sym + lots k sym account f.symbol (micro f.qty) := by
  cases h with
  | @merged _ existing avgPrice qty hrow hmatch hqty =>
    have hsum : qty.units = existing.qty.units + micro f.qty := by
      rw [← store_micro.mp hqty, hkept id existing hrow hmatch]
      exact micro_add (hpositive id existing hrow).le (le_trans (by norm_num) hq)
    simp only [mergesWith, decide_eq_true_eq] at hmatch
    have hheld := held_update k sym hrow (some { existing with qty, avgPrice })
    have hrowLots : rowLots k sym (some { existing with qty, avgPrice }) =
        lots k sym existing.account existing.symbol existing.qty.units + lots k sym account f.symbol (micro f.qty) := by
      rw [← hmatch.1, ← hmatch.2.1, ← lots_add, ← hsum]
      rfl
    rw [hrowLots] at hheld
    linarith
  | new hqty =>
    rw [held, Table.total_insert, rowLots, Option.elim_some, store_micro.mp hqty]
    rfl

lemma reduces_qty {position : ℕ} {p : Position} {q : ℚ} (h : Reduces t position p q t') (hgrid : OnGrid q)
    (h0 : 0 < q) (hle : q ≤ p.qty.value) :
    ∃ row : Option Position, t' = t.update position (fun _ => row) ∧
      (∀ p' ∈ row, p'.account = p.account ∧ p'.symbol = p.symbol ∧ p'.avgPrice = p.avgPrice ∧ 0 < p'.qty.units) ∧
      row.elim 0 (fun p' => p'.qty.units) = p.qty.units - micro q := by
  cases h with
  | full hfull =>
    refine ⟨none, rfl, fun _ hnone => (nomatch hnone), ?_⟩
    rw [hfull, Numeric.value, micro_scaled, sub_self]
    rfl
  | @rest qty hpart hqty =>
    have hunits := minus_onGrid hgrid h0 hle hqty
    refine ⟨some { p with qty }, rfl, fun p' hp' => ?_, hunits⟩
    rw [← Option.some.inj hp']
    refine ⟨rfl, rfl, rfl, ?_⟩
    have hlt : micro q < p.qty.units := by
      have hq := micro_of_onGrid hgrid
      refine lt_of_le_of_ne ?_ fun heq => hpart ?_
      · rw [← scaled_le, hq]
        exact hle
      · rw [← hq, heq, Numeric.value]
    rw [hunits]
    omega

lemma reduces_held (k : ℕ) (sym : String) {position : ℕ} {p : Position} {q : ℚ} (h : Reduces t position p q t')
    (hrow : t.get position = some (some p)) (hgrid : OnGrid q) (h0 : 0 < q) (hle : q ≤ p.qty.value)
    (hpositive : Positive t) :
    held t' k sym + lots k sym p.account p.symbol (micro q) = held t k sym ∧ Positive t' := by
  obtain ⟨row, rfl, hsame, hunits⟩ := reduces_qty h hgrid h0 hle
  refine ⟨?_, positive_update hpositive fun p' hp' => (hsame p' hp').2.2.2⟩
  have hheld := held_update k sym hrow row
  have hrest : rowLots k sym row + lots k sym p.account p.symbol (micro q) =
      lots k sym p.account p.symbol p.qty.units := by
    have hsplit : p.qty.units = row.elim 0 (fun p' => p'.qty.units) + micro q := by omega
    rw [hsplit, lots_add]
    cases row with
    | none => simp [rowLots, lots]
    | some p' =>
      obtain ⟨haccount, hsymbol, -⟩ := hsame p' rfl
      rw [rowLots, Option.elim_some, Option.elim_some, haccount, hsymbol]
  linarith

lemma held_deleted (k : ℕ) (sym : String) {rows : List (ℕ × Position)} (hrows : ∀ r ∈ rows, t.get r.1 = some (some r.2))
    (hnodup : (rows.map Prod.fst).Nodup) :
    held (deleted t (rows.map Prod.fst)) k sym +
      (rows.map fun r => lots k sym r.2.account r.2.symbol r.2.qty.units).sum = held t k sym := by
  induction rows generalizing t with
  | nil => simp [deleted]
  | cons r rows ih =>
    rw [List.map_cons, List.nodup_cons] at hnodup
    have hheld := held_update k sym (hrows r List.mem_cons_self) none
    have hrest := ih (t := t.update r.1 fun _ => none) (fun r' hr' => by
      have hne : r'.1 ≠ r.1 := fun heq => hnodup.1 (heq ▸ List.mem_map_of_mem hr')
      rw [Table.get_update_ne _ hne]
      exact hrows r' (List.mem_cons_of_mem _ hr')) hnodup.2
    have hstep : deleted t ((r :: rows).map Prod.fst) =
        deleted (t.update r.1 fun _ => none) (rows.map Prod.fst) := rfl
    rw [hstep, List.map_cons, List.sum_cons]
    rw [rowLots, Option.elim_none, add_zero] at hheld
    linarith

lemma removes_held (k : ℕ) (sym : String) {bs : List Booking} (h : Removes s t bs) (htruthful : Truthful s)
    (hpositive : Positive s.positions) :
    held t k sym + (bs.map fun b => lots k sym b.account b.symbol (micro b.lotSize)).sum = held s.positions k sym ∧
      Positive t := by
  cases h with
  | @one c position mem p pnl hcopy hrow haccount h0 hle hpnl hgrid hreduces =>
    obtain ⟨hheld, hkept⟩ := reduces_held k sym hreduces hrow (onGrid_getD hgrid p.qty) h0 hle hpositive
    obtain ⟨-, hsymbol, -⟩ := (htruthful c.copy position mem hcopy).2 p hrow
    refine ⟨?_, hkept⟩
    rw [List.map_singleton, List.sum_singleton]
    simpa only [CloseRequest.booking, ← haccount, ← hsymbol] using hheld
  | all f h =>
    subst h
    have hheld := held_deleted k sym (fun r hr => (mem_rows (s := s) (f := f) hr).1)
      (Moves.rows_nodup s f)
    refine ⟨?_, fun i p hp => ?_⟩
    · rw [← hheld, List.map_map]
      congr 2
      refine List.map_congr_left fun r hr => ?_
      rw [Function.comp_apply, ForceRequest.booking, (mem_rows hr).2, Numeric.value, micro_scaled]
    · rw [get_deleted] at hp
      split at hp
      · obtain ⟨_, _, hnone⟩ := Option.map_eq_some_iff.mp hp
        cases hnone
      · exact hpositive i p hp

lemma settles_closed (k : ℕ) (sym : String) {bs : List Booking} (h : bs.foldlM recordTrade s = .ok s') :
    closed s' k sym = closed s k sym + (bs.map fun b => lots k sym b.account b.symbol (micro b.lotSize)).sum := by
  generalize htotal : closed s k sym + (bs.map fun b => lots k sym b.account b.symbol (micro b.lotSize)).sum = total
  have hsum := settle_rule (I := fun u bs => closed u k sym +
    (bs.map fun b => lots k sym b.account b.symbol (micro b.lotSize)).sum = total) h htotal ?_
  · simpa using hsum
  · intro u u' b t rest ht hu
    have hlots : micro b.lotSize = t.lotSize.units := store_eq_some.mp ht.fits.lotSize
    rw [List.map_cons, List.sum_cons] at hu
    rw [closed, ht.trades, Table.total_insert, ← hlots, ht.fits.account, ht.fits.symbol, ← hu, closed]
    ring

end Steps

section Runs

variable {s s' : Desk} {a : Call}

structure Sound (s : Desk) : Prop where
  conserved : Conserved s
  positive : Positive s.positions
  truthful : Truthful s

lemma gridCloses_of_allowed (h : Allowed s a) : GridCloses a := by
  cases a with
  | openPosition o => exact trivial
  | closeWs c => exact h
  | closeDaemon c => exact h
  | _ => exact trivial

lemma sums_kept {account : ℕ} {f : Fill} (ha : Allowed s a) (hfills : Fills s a account f) (i : ℕ) (existing : Position)
    (hrow : s.positions.get i = some (some existing)) (hmatch : mergesWith account f (some existing) = true) :
    micro (plus existing.qty.value f.qty) = micro (existing.qty.value + f.qty) := by
  cases hfills with
  | market o => exact ha (i, some existing) (Table.mem_rows.mpr hrow) existing rfl hmatch
  | @pending t po _ => exact congrArg micro (plus_value existing.qty po.qty)

lemma positive_move (h : Positive s.positions) (htruthful : Truthful s) (hmove : Move s a s') :
    Positive s'.positions := by
  cases hmove with
  | idle positions _ _ _ _ _ => rwa [positions]
  | opened _ executes lotSize _ _ _ _ _ _ _ _ => exact (executes_grows executes h (lotSizeOk_le lotSize)).1
  | closed removes settles _ =>
    rw [(settles_frame settles).1]
    exact (removes_held 0 "" removes htruthful h).2

lemma sound_move (h : Sound s) (hmove : Move s a s') (ha : Allowed s a) : Sound s' := by
  refine ⟨fun k sym => ?_, positive_move h.positive h.truthful hmove, truthful_move h.truthful hmove⟩
  have hsums := h.conserved k sym
  cases hmove with
  | idle positions events trades _ _ _ => rwa [opened, closed, events, positions, trades]
  | opened fills executes lotSize events account_eq symbol_eq qty trades _ _ _ =>
    have hheld := executes_held k sym executes h.positive (lotSizeOk_le lotSize) (sums_kept ha fills)
    rw [hheld, opened, events, Table.total_insert, closed, trades, account_eq, symbol_eq, ← store_micro.mp qty]
    rw [opened, closed] at hsums
    linarith
  | @closed bs floor removes settles _ =>
    obtain ⟨hheld, -⟩ := removes_held k sym removes h.truthful h.positive
    obtain ⟨hfloor, hevents, -⟩ := settles_frame settles
    have hclosed := settles_closed k sym settles
    have hbefore : closed { s with toFloor := floor } k sym = closed s k sym := rfl
    rw [hclosed, opened, hevents, hfloor, hbefore]
    rw [opened] at hsums
    linarith

lemma sound_empty (h : Empty s) : Sound s := by
  refine ⟨fun k sym => ?_, ?_, ?_⟩
  · rw [opened, held, closed, h.events, h.positions, h.trades]
    rfl
  · rw [Positive, h.positions]
    exact fun i p hp => nomatch hp
  · rw [Truthful, h.copies]
    exact fun c position mem hcopy => nomatch hcopy

lemma sound_run (h : Empty s) {calls : List Call} (hg : Guarded call Allowed s calls) : Sound (run call s calls) :=
  guarded_invariant (fun _ _ hs ha => sound_move hs (call_moves (gridCloses_of_allowed ha)) ha) (sound_empty h) hg

lemma qtyAt_of_row {position : ℕ} {p : Position} (hrow : s.positions.get position = some (some p)) :
    qtyAt s position = p.qty.value := by
  rw [qtyAt, hrow]
  rfl

lemma qtyAt_reduced {position : ℕ} {p : Position} {q : ℚ} (hrow : s.positions.get position = some (some p))
    (h : Reduces s.positions position p q s'.positions) (hgrid : OnGrid q) (h0 : 0 < q) (hle : q ≤ p.qty.value) :
    qtyAt s' position = qtyAt s position - q := by
  obtain ⟨row, hupdate, -, hunits⟩ := reduces_qty h hgrid h0 hle
  have hafter : qtyAt s' position = scaled 6 (row.elim 0 fun p' => p'.qty.units) := by
    rw [qtyAt, hupdate, Table.get_update_self hrow]
    cases row with
    | none => norm_num [scaled]
    | some p' => rfl
  rw [hafter, qtyAt_of_row hrow, hunits, ← scaled_sub, micro_of_onGrid hgrid, Numeric.value]

lemma closesExactly {c : CloseRequest} (hgrid : GridClose c) : ClosesExactly s c := by
  intro s' isPartial balance equity hclose
  rw [closeByCopy] at hclose
  split at hclose
  · rw [Except.ok.injEq, Prod.mk.injEq] at hclose
    cases hclose.2
  · next position mem hcopy =>
    refine ⟨position, mem, hcopy, ?_⟩
    rcases closePosition_closed hclose with
      ⟨hresult, -⟩ | ⟨p, pnl, floor, hrow, -, h0, hle, -, hreduces, hrecord, -⟩
    · exact absurd rfl (hresult isPartial balance equity)
    · obtain ⟨t, ht⟩ := recordTrade_settles hrecord
      rw [qtyAt_reduced (q := c.closeQty.getD p.qty.value) hrow (by rw [ht.floor]; exact hreduces)
        (onGrid_getD hgrid p.qty) h0 hle, qtyAt_of_row hrow]

end Runs

/-- As long as the quantities that callers ask to close are on the grid of the columns, lots are conserved, no
stored position is empty, and a close takes off its position what it realizes. -/
theorem quantities_conserved (s : Desk) (h : Empty s) (calls : List Call) (hg : Guarded call Allowed s calls) :
    Conserved (run call s calls) ∧ Positive (run call s calls).positions ∧
      ∀ c, GridClose c → ClosesExactly (run call s calls) c :=
  ⟨(sound_run h hg).conserved, (sound_run h hg).positive, fun _ => closesExactly⟩

def openingDesk : Desk where
  accounts := Table.ofList
    [{ user := none, accountType := .retail, balance := .ofUnits 1000000, equity := .ofUnits 1000000,
       peakBalance := .ofUnits 1000000, initialBalance := none }]
  entries := Table.empty
  positions := Table.empty
  orders := Table.empty
  events := Table.empty
  trades := Table.empty
  counterparties := Table.empty
  copies := Table.empty

def buyLots (qty : ℚ) : Call :=
  .openPosition
    { account := 0, fill := ⟨"EUR/USD", .buy, qty, 11 / 10, true⟩, commission := 0, spreadRevenue := 0,
      admitted := true }

def closeLots (copy : ℕ) (closeQty : Option ℚ) : CloseRequest where
  account := 0
  copy := copy
  closeQty := closeQty
  closePx := 12 / 10
  newBalance := 0
  newEquity := 0
  accountCurrency := "USD"
  reason := "manual"

def nettedDay : List Call :=
  [buyLots 1, .read 0, buyLots (1 / 2), .placeOrder 0 "EUR/USD" .buy (.ofUnits 20000),
    .triggerPendingOrder
      { order := 0, due := false, executionPrice := 1, refusedAtPrice := none, spreadFeeEnabled := false,
        spreadCharge := none, refusedByLimits := none, nettingMode := true, commission := 0 },
    .closeWs (closeLots 0 (some (7 / 10))), .closeDaemon (closeLots 0 none)]

theorem quantities_conserved_example :
    Conserved (run call openingDesk nettedDay) ∧ Positive (run call openingDesk nettedDay).positions ∧
      ∀ c, GridClose c → ClosesExactly (run call openingDesk nettedDay) c :=
  quantities_conserved openingDesk ⟨rfl, rfl, rfl, rfl⟩ nettedDay (by decide +kernel)

/-- A close of half a millionth of a lot is a trade of a millionth and takes nothing off; what is left of a close
of all but a ten-millionth is stored as a position of nothing. -/
theorem fine_closes_are_rounded_apart :
    (fun s => (opened s 0 "EUR/USD", held s.positions 0 "EUR/USD", closed s 0 "EUR/USD"))
        (run call openingDesk [buyLots 1, .read 0, .closeWs (closeLots 0 (some (5 / 10000000)))]) =
        (1000000, 1000000, 1) ∧
      (((run call openingDesk [buyLots 1, .read 0, .closeWs (closeLots 0 (some (9999999 / 10000000)))]).positions.get
        0).bind id).map (fun p => p.qty.units) = some 0 := by
  decide +kernel

end TrxSimulator.Trading.Quantities
