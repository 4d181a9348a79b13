import TrxSimulator.Trading.Quantities

/-! Each close is one trade, one realized entry and one counterparty row, of the lots that it takes off. -/

namespace TrxSimulator.Trading.Realization

open Foundations.Runs Foundations.Tables Foundations.Outcomes Foundations.Decimals Foundations.Floats Money Charges
open Executions Rows Moves Quantities
open Writers hiding Call call dbOpenPositionAtomic triggerPendingOrderCore closePosition dbClosePositionAtomic
  closePositionSync forceClose

/-- The i-th counterparty row is that of the i-th trade, and offsets it. -/
structure Offset (i : ℕ) (t : Trade) (e : CounterpartyEntry) : Prop where
  sourceTrade : e.sourceTrade = i
  sourceAccount : e.sourceAccount = t.account
  symbol : e.symbol = t.symbol
  zeroSum : t.profitLoss.units + e.amount.units = 0

structure Ledgered (s : Desk) : Prop where
  rows : s.counterparties.next = s.trades.next
  offset : ∀ i t, s.trades.get i = some t → ∃ e, s.counterparties.get i = some e ∧ Offset i t e
  source : ∀ j e, s.counterparties.get j = some e → e.sourceTrade = j
  realized : realizedRows s.toFloor = s.trades.rows.map fun r => (r.2.account, r.2.profitLoss.units)

/-- What a close takes off a position is what it books, at the position's own price. -/
structure ClosesRow (s s' : Desk) (position : ℕ) (p : Position) (b : Booking) : Prop where
  row : s.positions.get position = some (some p)
  account : b.account = p.account
  symbol : b.symbol = p.symbol
  tradeType : b.tradeType = p.side
  entryPrice : b.entryPrice = p.avgPrice
  lots : b.lotSize = qtyAt s position - qtyAt s' position
  positive : 0 < b.lotSize
  pnl : ∃ exitPx currency,
    realizedPnl p.side p.avgPrice.value exitPx b.lotSize p.symbol currency = some b.profitLoss ∨
      forcedPnl p.side p.avgPrice.value exitPx b.lotSize p.symbol currency = b.profitLoss

structure Realized (s s' : Desk) (closes : List (ℕ × Position × Booking)) (ts : List Trade) : Prop where
  nodup : (closes.map Prod.fst).Nodup
  closed : ∀ x ∈ closes, ClosesRow s s' x.1 x.2.1 x.2.2
  kept : ∀ i, i ∉ closes.map Prod.fst → qtyAt s i ≤ qtyAt s' i
  fits : List.Forall₂ (fun x t => Fits x.2.2 t) closes ts
  trades : s'.trades.rows.map Prod.snd = s.trades.rows.map Prod.snd ++ ts

structure Fresh (s : Desk) : Prop extends Empty s where
  counterparties : s.counterparties = Table.empty
  entries : s.entries = Table.empty

instance decidableGridCloses : ∀ a, Decidable (GridCloses a)
  | .closeWs c => inferInstanceAs (Decidable (GridClose c))
  | .closeDaemon c => inferInstanceAs (Decidable (GridClose c))
  | .read _ | .openPosition _ | .placeOrder _ _ _ _ | .triggerPendingOrder _ | .forceClose _ =>
    inferInstanceAs (Decidable True)

section Amounts

lemma context_through_float (x : ℚ) :
    context precision (Market.Pnl.python.str (Market.Pnl.python.float x)) =
      Market.Pnl.python.str (Market.Pnl.python.float x) :=
  context_str (by norm_num [precision]) _

lemma cents_counterparty {x : ℚ} (hx : context precision x = x) :
    cents (if x = 0 then 0 else negate x) = -cents x := by
  split
  · next h => rw [h, cents_zero, neg_zero]
  · rw [negate, context_neg, hx, cents_neg]

lemma realizedPnl_context {side : Side} {avg px q pnl : ℚ} {symbol currency : String}
    (h : realizedPnl side avg px q symbol currency = some pnl) : context precision pnl = pnl := by
  rw [realizedPnl, Option.map_eq_some_iff] at h
  obtain ⟨x, -, rfl⟩ := h
  exact context_through_float x

lemma forcedPnl_context (side : Side) (avg px q : ℚ) (symbol currency : String) :
    context precision (forcedPnl side avg px q symbol currency) = forcedPnl side avg px q symbol currency :=
  context_str (by norm_num [precision]) _

end Amounts

section Settling

variable {s s' u u' : Desk} {b : Booking} {t : Trade}

/-- The rows of the bookings that are still to settle are posted already. -/
structure Settling (u : Desk) (bs : List Booking) : Prop where
  rows : u.counterparties.next = u.trades.next
  offset : ∀ i t, u.trades.get i = some t → ∃ e, u.counterparties.get i = some e ∧ Offset i t e
  source : ∀ j e, u.counterparties.get j = some e → e.sourceTrade = j
  realized : realizedRows u.toFloor =
    (u.trades.rows.map fun r => (r.2.account, r.2.profitLoss.units)) ++ bs.map fun b => (b.account, cents b.profitLoss)
  exactly : ∀ b ∈ bs, context precision b.profitLoss = b.profitLoss

lemma settling_step {bs : List Booking} (ht : Settles u u' b t) (h : Settling u (b :: bs)) : Settling u' bs := by
  have hprofit : cents b.profitLoss = t.profitLoss.units := store_cents.mp ht.fits.profitLoss
  have hnew : u.counterparties.first (fun e => e.sourceTrade = u.trades.next) = none := by
    cases hfirst : u.counterparties.first fun e => e.sourceTrade = u.trades.next with
    | none => rfl
    | some r =>
      obtain ⟨hrow, hsource⟩ := Table.first_some (i := r.1) (a := r.2) hfirst
      have hindex := h.source r.1 r.2 hrow
      rw [of_decide_eq_true hsource, ← h.rows] at hindex
      exact absurd (Table.lt_of_get hrow) (by omega)
  obtain ⟨r, hold⟩ | ⟨e, hcounterparties, hsource, haccount, hsymbol, hamount⟩ := ht.counterparties
  · rw [hnew] at hold
    cases hold
  · have hoffset : Offset u.trades.next t e := by
      refine ⟨hsource, haccount.trans ht.fits.account.symm, hsymbol.trans ht.fits.symbol.symm, ?_⟩
      rw [← store_cents.mp hamount, cents_counterparty (h.exactly b List.mem_cons_self), hprofit]
      ring
    refine ⟨?_, fun i t' hi => ?_, fun j e' hj => ?_, ?_, fun b' hb' => h.exactly b' (List.mem_cons_of_mem _ hb')⟩
    · rw [hcounterparties, ht.trades, Table.next_insert, Table.next_insert, h.rows]
    · rw [hcounterparties]
      rw [ht.trades] at hi
      obtain hi | ⟨rfl, rfl⟩ := Table.get_insert_some hi
      · obtain ⟨e', he', hoff⟩ := h.offset i t' hi
        exact ⟨e', Table.get_insert_of_get he' e, hoff⟩
      · refine ⟨e, ?_, hoffset⟩
        rw [← h.rows, Table.get_insert_next]
    · rw [hcounterparties] at hj
      obtain hj | ⟨rfl, rfl⟩ := Table.get_insert_some hj
      · exact h.source j e' hj
      · rw [hsource, h.rows]
    · rw [ht.floor, h.realized, ht.trades, Table.rows_insert, List.map_append, List.map_singleton, List.map_cons,
        hprofit, ht.fits.account, List.append_assoc, List.singleton_append]

lemma settles_trades {bs : List Booking} (h : bs.foldlM recordTrade s = .ok s') :
    ∃ ts, List.Forall₂ Fits bs ts ∧ s'.trades.rows.map Prod.snd = s.trades.rows.map Prod.snd ++ ts := by
  induction bs generalizing s with
  | nil =>
    rw [List.foldlM_nil, pure_eq_ok] at h
    exact ⟨[], .nil, by rw [h, List.append_nil]⟩
  | cons b bs ih =>
    rw [List.foldlM_cons, bind_eq_ok] at h
    obtain ⟨s1, hrecord, hrest⟩ := h
    obtain ⟨t, ht⟩ := recordTrade_settles hrecord
    obtain ⟨ts, hfits, htrades⟩ := ih hrest
    refine ⟨t :: ts, .cons ht.fits hfits, ?_⟩
    rw [htrades, ht.trades, Table.rows_insert, List.map_append, List.append_assoc]
    rfl

lemma removes_context {bs : List Booking} {table : Table (Option Position)} (h : Removes s table bs) (hb : b ∈ bs) :
    context precision b.profitLoss = b.profitLoss := by
  cases h with
  | one hcopy hrow haccount h0 hle hpnl hgrid hreduces =>
    rw [List.mem_singleton.mp hb]
    exact realizedPnl_context hpnl
  | all f h =>
    obtain ⟨r, -, rfl⟩ := List.mem_map.mp hb
    exact forcedPnl_context _ _ _ _ _ _

lemma ledgered_move {a : Call} (h : Ledgered s) (hmove : Move s a s') : Ledgered s' := by
  cases hmove with
  | idle _ _ trades counterparties realized _ =>
    refine ⟨?_, ?_, ?_, ?_⟩
    · rw [trades, counterparties, h.rows]
    · rw [trades, counterparties]
      exact h.offset
    · rw [counterparties]
      exact h.source
    · rw [realized, trades, h.realized]
  | opened _ _ _ _ _ _ _ trades counterparties realized _ =>
    refine ⟨?_, ?_, ?_, ?_⟩
    · rw [trades, counterparties, h.rows]
    · rw [trades, counterparties]
      exact h.offset
    · rw [counterparties]
      exact h.source
    · rw [realized, trades, h.realized]
  | @closed bs floor removes settles realized =>
    have hstart : Settling { s with toFloor := floor } bs :=
      ⟨h.rows, h.offset, h.source, by rw [realized, h.realized], fun b hb => removes_context removes hb⟩
    have hend := settle_rule (I := Settling) settles hstart settling_step
    exact ⟨hend.rows, hend.offset, hend.source, by rw [hend.realized, List.map_nil, List.append_nil]⟩

end Settling

section Steps

variable {s s' : Desk} {a : Call}

lemma qtyAt_nonneg (h : Positive s.positions) (i : ℕ) : 0 ≤ qtyAt s i := by
  rw [qtyAt]
  cases hrow : (s.positions.get i).bind id with
  | none => exact le_rfl
  | some p =>
    obtain ⟨row, hget, rfl⟩ := Option.bind_eq_some_iff.mp hrow
    have hpositive : (0 : ℚ) < p.qty.units := by exact_mod_cast h i p hget
    exact (div_pos hpositive (by norm_num)).le

lemma qtyAt_le {i : ℕ} (hpositive : Positive s'.positions) (h : ∀ p, s.positions.get i = some (some p) →
    ∃ p', s'.positions.get i = some (some p') ∧ p.qty.units ≤ p'.qty.units) : qtyAt s i ≤ qtyAt s' i := by
  cases hrow : (s.positions.get i).bind id with
  | none =>
    rw [qtyAt, hrow]
    exact qtyAt_nonneg hpositive i
  | some p =>
    obtain ⟨row, hget, rfl⟩ := Option.bind_eq_some_iff.mp hrow
    obtain ⟨p', hp', hle⟩ := h p hget
    rw [qtyAt_of_row hget, qtyAt_of_row hp', Numeric.value, Numeric.value, scaled_le]
    exact hle

lemma realized_none (h : ∀ i, qtyAt s i ≤ qtyAt s' i) (ht : s'.trades = s.trades) : Realized s s' [] [] :=
  ⟨List.nodup_nil, by simp, fun i _ => h i, .nil, by rw [ht, List.append_nil]⟩

lemma realized_one {c : CloseRequest} {position : ℕ} {mem p : Position} {pnl : ℚ} {floor : Floor}
    (htruthful : Truthful s) (hcopy : s.copies.get c.copy = some (position, mem))
    (hrow : s.positions.get position = some (some p)) (haccount : p.account = c.account)
    (h0 : 0 < c.closeQty.getD p.qty.value) (hle : c.closeQty.getD p.qty.value ≤ p.qty.value)
    (hpnl : c.pnl mem p = some pnl) (hgrid : GridClose c)
    (hreduces : Reduces s.positions position p (c.closeQty.getD p.qty.value) floor.positions)
    (hrecord : recordTrade { s with toFloor := floor } (c.booking mem p pnl) = .ok s') :
    ∃ t, Realized s s' [(position, p, c.booking mem p pnl)] [t] := by
  obtain ⟨t, ht⟩ := recordTrade_settles hrecord
  obtain ⟨-, hsymbol, hside⟩ := (htruthful c.copy position mem hcopy).2 p hrow
  have hpositions : s'.positions = floor.positions := by rw [ht.floor]
  have honGrid := onGrid_getD hgrid p.qty
  have hclosed : ClosesRow s s' position p (c.booking mem p pnl) := by
    refine ⟨hrow, haccount.symm, hsymbol.symm, hside.symm, rfl, ?_, h0, c.closePx, c.accountCurrency, Or.inl ?_⟩
    · have hreduced : qtyAt s' position = qtyAt s position - c.closeQty.getD p.qty.value :=
        qtyAt_reduced hrow (by rw [hpositions]; exact hreduces) honGrid h0 hle
      rw [hreduced, sub_sub_cancel]
      rfl
    · rw [hside, hsymbol]
      exact hpnl
  refine ⟨t, List.nodup_singleton _, fun x hx => ?_, fun i hi => ?_, .cons ht.fits .nil, ?_⟩
  · rw [List.mem_singleton.mp hx]
    exact hclosed
  · have hne : i ≠ position := by simpa using hi
    obtain ⟨row, hupdate, -⟩ := reduces_qty hreduces honGrid h0 hle
    rw [qtyAt, qtyAt, hpositions, hupdate, Table.get_update_ne _ hne]
  · rw [ht.trades, Table.rows_insert, List.map_append]
    rfl

lemma realized_all {f : ForceRequest} {floor : Floor} (hpositive : Positive s.positions)
    (h : floor.positions = deleted s.positions ((f.rows s).map Prod.fst))
    (hsettles : ((f.rows s).map fun r => f.booking r.2).foldlM recordTrade { s with toFloor := floor } = .ok s') :
    ∃ ts, Realized s s' ((f.rows s).map fun r => (r.1, r.2, f.booking r.2)) ts := by
  obtain ⟨ts, hfits, htrades⟩ := settles_trades hsettles
  have hpositions : s'.positions = floor.positions := by rw [(settles_frame hsettles).1]
  have hids : ((f.rows s).map fun r => (r.1, r.2, f.booking r.2)).map Prod.fst = (f.rows s).map Prod.fst := by
    rw [List.map_map]
    rfl
  refine ⟨ts, ?_, fun x hx => ?_, fun i hi => ?_, ?_, htrades⟩
  · rw [hids]
    exact Moves.rows_nodup s f
  · obtain ⟨r, hr, rfl⟩ := List.mem_map.mp hx
    obtain ⟨hrow, haccount⟩ := mem_rows hr
    have hgone : qtyAt s' r.1 = 0 := by
      rw [qtyAt, hpositions, h, get_deleted, if_pos (List.mem_map_of_mem hr), hrow]
      rfl
    have hvalue : (0 : ℚ) < r.2.qty.value := by
      have hunits : (0 : ℚ) < r.2.qty.units := by exact_mod_cast hpositive r.1 r.2 hrow
      exact div_pos hunits (by norm_num)
    refine ⟨hrow, haccount.symm, rfl, rfl, rfl, ?_, hvalue, f.exitPx r.2, f.accountCurrency, Or.inr rfl⟩
    rw [hgone, sub_zero, qtyAt_of_row hrow]
    rfl
  · rw [hids] at hi
    rw [qtyAt, qtyAt, hpositions, h, get_deleted, if_neg hi]
  · rw [List.forall₂_map_left_iff] at hfits ⊢
    exact hfits

lemma realized_move (hpositive : Positive s.positions) (htruthful : Truthful s) (hmove : Move s a s') :
    ∃ closes ts, Realized s s' closes ts := by
  cases hmove with
  | idle positions _ trades _ _ _ =>
    exact ⟨[], [], realized_none (fun i => by rw [qtyAt, qtyAt, positions]) trades⟩
  | opened _ executes lotSize _ _ _ _ trades _ _ _ =>
    obtain ⟨hafter, hgrows⟩ := executes_grows executes hpositive (lotSizeOk_le lotSize)
    exact ⟨[], [], realized_none (fun i => qtyAt_le hafter (hgrows i)) trades⟩
  | closed removes settles _ =>
    cases removes with
    | one hcopy hrow haccount h0 hle hpnl hgrid hreduces =>
      rw [List.foldlM_cons, bind_eq_ok] at settles
      obtain ⟨s1, hrecord, hdone⟩ := settles
      rw [List.foldlM_nil, pure_eq_ok] at hdone
      subst hdone
      obtain ⟨t, ht⟩ := realized_one htruthful hcopy hrow haccount h0 hle hpnl hgrid hreduces hrecord
      exact ⟨_, _, ht⟩
    | all f h =>
      obtain ⟨ts, hts⟩ := realized_all hpositive h settles
      exact ⟨_, _, hts⟩

lemma closeByCopy_realized {c : CloseRequest} {isPartial : Bool} {balance equity : ℚ} (htruthful : Truthful s)
    (hgrid : GridClose c) (h : closeByCopy s c = .ok (s', .closed isPartial balance equity)) :
    ∃ x t, Realized s s' [x] [t] := by
  rw [closeByCopy] at h
  split at h
  · rw [Except.ok.injEq, Prod.mk.injEq] at h
    cases h.2
  · next position mem hcopy =>
    rcases closePosition_closed h with
      ⟨hresult, -⟩ | ⟨p, pnl, floor, hrow, haccount, h0, hle, hpnl, hreduces, hrecord, -⟩
    · exact absurd rfl (hresult isPartial balance equity)
    · obtain ⟨t, ht⟩ := realized_one htruthful hcopy hrow haccount h0 hle hpnl hgrid hreduces hrecord
      exact ⟨_, t, ht⟩

lemma forceClose_realized {f : ForceRequest} (hpositive : Positive s.positions) (h : forceClose s f = .ok s') :
    ∃ ts, Realized s s' ((f.rows s).map fun r => (r.1, r.2, f.booking r.2)) ts := by
  simp only [forceClose, bind_eq_ok] at h
  obtain ⟨floor, hfloor, hsettles⟩ := h
  have hpositions := (forceClose_rows hfloor).1
  rw [batch_eq, List.map_map] at hpositions
  exact realized_all hpositive hpositions hsettles

lemma closeByCopy_gone {c : CloseRequest} {position : ℕ} {mem : Position}
    (hcopy : s.copies.get c.copy = some (position, mem)) (h : lockedRow s c.account position = none) :
    closeByCopy s c = .ok (s, .alreadyClosed) := by
  have hfloor : Writers.closePosition s.toFloor (c.onFloor position none) = .ok (s.toFloor, .alreadyClosed) := by
    have hlocked : lockedPosition s.toFloor (c.onFloor position none) = none := h
    rw [Writers.closePosition, hlocked]
  rw [closeByCopy, hcopy]
  dsimp only
  rw [closePosition, h, Option.bind_none, hfloor]
  rfl

end Steps

section Runs

structure Sure (s : Desk) : Prop where
  positive : Positive s.positions
  truthful : Truthful s
  ledgered : Ledgered s

variable {s : Desk}

lemma sure_fresh (h : Fresh s) : Sure s := by
  refine ⟨(sound_empty h.toEmpty).positive, (sound_empty h.toEmpty).truthful, ?_, ?_, ?_, ?_⟩
  · rw [h.counterparties, h.trades]
    rfl
  · rw [h.trades]
    exact fun i t ht => nomatch ht
  · rw [h.counterparties]
    exact fun j e he => nomatch he
  · rw [realizedRows, h.entries, h.trades]
    rfl

lemma sure_run (h : Fresh s) {calls : List Call} (hg : Guarded call (fun _ => GridCloses) s calls) :
    Sure (run call s calls) := by
  refine guarded_invariant (fun u a hu ha => ?_) (sure_fresh h) hg
  have hmove : Move u a (call u a) := call_moves ha
  exact ⟨positive_move hu.positive hu.truthful hmove, truthful_move hu.truthful hmove, ledgered_move hu.ledgered hmove⟩

end Runs

/-- In any order of opens, triggers, closes on stale copies and closes from the dealing desk: the trades, the
realized entries and the counterparty rows correspond one to one and sum to zero, every step writes the trades of
exactly the lots that it takes off, and a caller that finds its position gone writes nothing. -/
theorem closes_realized_once (s : Desk) (h : Fresh s) (calls : List Call)
    (hg : Guarded call (fun _ => GridCloses) s calls) :
    Ledgered (run call s calls) ∧
      (∀ a, GridCloses a → ∃ closes ts, Realized (run call s calls) (call (run call s calls) a) closes ts) ∧
      (∀ c, GridClose c → ∀ s' isPartial balance equity,
        closeByCopy (run call s calls) c = .ok (s', .closed isPartial balance equity) →
        ∃ x t, Realized (run call s calls) s' [x] [t]) ∧
      (∀ f s', forceClose (run call s calls) f = .ok s' → ∃ ts, Realized (run call s calls) s'
        ((f.rows (run call s calls)).map fun r => (r.1, r.2, f.booking r.2)) ts) ∧
      ∀ c position mem, (run call s calls).copies.get c.copy = some (position, mem) →
        lockedRow (run call s calls) c.account position = none →
        call (run call s calls) (.closeWs c) = run call s calls ∧
          call (run call s calls) (.closeDaemon c) = run call s calls := by
  have hsure := sure_run h hg
  refine ⟨hsure.ledgered, fun a ha => realized_move hsure.positive hsure.truthful (call_moves ha),
    fun c hgrid s' isPartial balance equity => closeByCopy_realized hsure.truthful hgrid,
    fun f s' => forceClose_realized hsure.positive, fun c position mem hcopy hgone => ?_⟩
  simp only [call, dbClosePositionAtomic, closePositionSync, closeByCopy_gone hcopy hgone]
  exact ⟨rfl, rfl⟩

theorem closes_realized_once_example :
    Ledgered (run call openingDesk nettedDay) ∧
      lockedRow (run call openingDesk nettedDay) 0 0 = none ∧
      call (run call openingDesk nettedDay) (.closeWs (closeLots 0 none)) = run call openingDesk nettedDay := by
  have hrun := closes_realized_once openingDesk ⟨⟨rfl, rfl, rfl, rfl⟩, rfl, rfl⟩ nettedDay (by decide +kernel)
  have hgone : lockedRow (run call openingDesk nettedDay) 0 0 = none := by decide +kernel
  obtain ⟨mem, hmem⟩ : ∃ mem, (run call openingDesk nettedDay).copies.get (closeLots 0 none).copy = some (0, mem) :=
    ⟨⟨0, "EUR/USD", .buy, .ofUnits 1000000, .ofUnits 1100000⟩, by decide +kernel⟩
  exact ⟨hrun.1, hgone, (hrun.2.2.2.2 (closeLots 0 none) 0 mem hmem hgone).1⟩

end TrxSimulator.Trading.Realization
