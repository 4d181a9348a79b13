import TrxSimulator.Trading.Executions
import TrxSimulator.Trading.Rows

/-! What one call does to the positions, the executions and the trades of a desk, and the copies that callers
hold of positions. -/

namespace TrxSimulator.Trading.Moves

open Foundations.Runs Foundations.Tables Foundations.Outcomes Foundations.Decimals Money Charges
open Executions Rows
open Writers hiding Call call dbOpenPositionAtomic triggerPendingOrderCore closePosition dbClosePositionAtomic
  closePositionSync forceClose
open Reconciliation (column_ok)

/-- A quantity of which the columns keep every digit. -/
def OnGrid (q : ℚ) : Prop := scaled 6 ⌊q * 10 ^ 6⌋ = q

instance (q : ℚ) : Decidable (OnGrid q) := inferInstanceAs (Decidable (_ = _))

def GridClose (c : CloseRequest) : Prop := ∀ q ∈ c.closeQty, OnGrid q

instance (c : CloseRequest) : Decidable (GridClose c) := by
  unfold GridClose
  infer_instance

def GridCloses : Call → Prop
  | .closeWs c | .closeDaemon c => GridClose c
  | _ => True

/-- A copy names a row of the table, and what it says of the row's account, symbol and side stays true. -/
def Truthful (s : Desk) : Prop :=
  ∀ c position mem, s.copies.get c = some (position, mem) → position < s.positions.next ∧
    ∀ p, s.positions.get position = some (some p) → p.account = mem.account ∧ p.symbol = mem.symbol ∧ p.side = mem.side

inductive Removes (s : Desk) (t : Table (Option Position)) : List Booking → Prop
  | one {c : CloseRequest} {position : ℕ} {mem p : Position} {pnl : ℚ}
      (hcopy : s.copies.get c.copy = some (position, mem)) (hrow : s.positions.get position = some (some p))
      (haccount : p.account = c.account) (hpositive : 0 < c.closeQty.getD p.qty.value)
      (hle : c.closeQty.getD p.qty.value ≤ p.qty.value) (hpnl : c.pnl mem p = some pnl) (hgrid : GridClose c)
      (hreduces : Reduces s.positions position p (c.closeQty.getD p.qty.value) t) : Removes s t [c.booking mem p pnl]
  | all (f : ForceRequest) (h : t = deleted s.positions ((f.rows s).map Prod.fst)) :
      Removes s t ((f.rows s).map fun r => f.booking r.2)

inductive Fills (s : Desk) : Call → ℕ → Fill → Prop
  | market (o : Open) : Fills s (.openPosition o) o.account o.fill
  | pending {t : Trigger} {po : PendingOrder} (h : s.orders.get t.order = some po) :
      Fills s (.triggerPendingOrder t) po.account (t.fill po)

inductive Move (s : Desk) (a : Call) (s' : Desk) : Prop
  | idle (positions : s'.positions = s.positions) (events : s'.events = s.events) (trades : s'.trades = s.trades)
      (counterparties : s'.counterparties = s.counterparties)
      (realized : realizedRows s'.toFloor = realizedRows s.toFloor)
      (copies : s'.copies = s.copies ∨
        ∃ i p, s.positions.get i = some (some p) ∧ s'.copies = s.copies.insert (i, p))
  | opened {account id : ℕ} {f : Fill} {merged : Bool} {e : LotExecutionEvent} (fills : Fills s a account f)
      (executes : Executes s.toFloor account f s'.positions id merged) (lotSize : lotSizeOk f.symbol f.qty = true)
      (events : s'.events = s.events.insert e) (account_eq : e.account = account) (symbol_eq : e.symbol = f.symbol)
      (qty : store 18 6 f.qty = some e.qty) (trades : s'.trades = s.trades)
      (counterparties : s'.counterparties = s.counterparties)
      (realized : realizedRows s'.toFloor = realizedRows s.toFloor) (copies : s'.copies = s.copies)
  | closed {bs : List Booking} {floor : Floor} (removes : Removes s floor.positions bs)
      (settles : bs.foldlM recordTrade { s with toFloor := floor } = .ok s')
      (realized : realizedRows floor = realizedRows s.toFloor ++ bs.map fun b => (b.account, cents b.profitLoss))

section Inversion

variable {s s' : Desk} {a : Call}

lemma moves_same (s : Desk) : Move s a s := .idle rfl rfl rfl rfl rfl (Or.inl rfl)

lemma moves_floor {floor : Floor} (hp : floor.positions = s.positions)
    (hr : realizedRows floor = realizedRows s.toFloor) : Move s a { s with toFloor := floor } :=
  .idle hp rfl rfl rfl hr (Or.inl rfl)

lemma recordExecution_moves {floor : Floor} {account id : ℕ} {f : Fill} {merged : Bool} {order : Option ℕ}
    (h : recordExecution { s with toFloor := floor } account id f merged order = .ok s')
    (hfills : Fills s a account f) (hexecutes : Executes s.toFloor account f floor.positions id merged)
    (hlot : lotSizeOk f.symbol f.qty = true) (hrealized : realizedRows floor = realizedRows s.toFloor) :
    Move s a s' := by
  simp only [recordExecution, bind_eq_ok, pure_eq_ok] at h
  obtain ⟨qty, hqty, price, -, rfl⟩ := h
  exact .opened hfills hexecutes hlot rfl rfl rfl (column_ok hqty) rfl rfl hrealized rfl

lemma dbOpenPositionAtomic_moves {o : Open} {r : OpenResult} (h : dbOpenPositionAtomic s o = .ok (s', r)) :
    Move s (.openPosition o) s' := by
  simp only [dbOpenPositionAtomic, bind_eq_ok, Prod.exists] at h
  obtain ⟨floor, result, hfloor, h⟩ := h
  rcases dbOpenPositionAtomic_rows hfloor with ⟨rfl, rfl⟩ | ⟨id, merged, rfl, hadmitted, hexecutes, hrealized⟩
  · simp only [pure_eq_ok, Prod.mk.injEq] at h
    obtain ⟨rfl, -⟩ := h
    exact moves_same s
  · simp only [bind_eq_ok, pure_eq_ok, Prod.mk.injEq] at h
    obtain ⟨s1, hrecord, rfl, -⟩ := h
    rw [guarded, Bool.and_eq_true] at hadmitted
    exact recordExecution_moves hrecord (.market o) hexecutes hadmitted.2 hrealized

lemma lotSizeOk_of_refused {t : Trigger} {po : PendingOrder} (hpo : s.orders.get t.order = some po)
    (h : refused s t = none) : lotSizeOk po.symbol po.qty.value = true := by
  rw [refused, hpo] at h
  dsimp only at h
  split at h
  · next hlot => exact hlot
  · cases h

lemma triggerPendingOrderCore_moves {t : Trigger} {r : TriggerResult}
    (h : triggerPendingOrderCore s t = .ok (s', r)) : Move s (.triggerPendingOrder t) s' := by
  simp only [triggerPendingOrderCore, bind_eq_ok, Prod.exists] at h
  obtain ⟨floor, result, hfloor, h⟩ := h
  rcases triggerPendingOrderCore_rows hfloor with
    ⟨hresult, hpositions, hrealized⟩ | ⟨po, id, merged, rfl, hpo, hlimits, hexecutes, hrealized⟩
  · split at h
    · next id merged po _ => exact absurd rfl (hresult id merged)
    · rw [pure_eq_ok, Prod.mk.injEq] at h
      obtain ⟨rfl, -⟩ := h
      exact moves_floor hpositions hrealized
  · have hpo' : s.orders.get t.order = some po := hpo
    simp only [hpo', bind_eq_ok, pure_eq_ok, Prod.mk.injEq] at h
    obtain ⟨s1, hrecord, rfl, -⟩ := h
    exact recordExecution_moves hrecord (.pending hpo') hexecutes (lotSizeOk_of_refused (t := t) hpo hlimits) hrealized

lemma lockedRow_some {account position : ℕ} {p : Position} (h : lockedRow s account position = some p) :
    s.positions.get position = some (some p) ∧ p.account = account := by
  rw [lockedRow, Option.filter_eq_some_iff, Option.bind_eq_some_iff] at h
  obtain ⟨⟨row, hrow, hid⟩, haccount⟩ := h
  rw [id] at hid
  exact ⟨hid ▸ hrow, of_decide_eq_true haccount⟩

lemma closePosition_closed {c : CloseRequest} {position : ℕ} {mem : Position} {r : CloseResult}
    (h : closePosition s c position mem = .ok (s', r)) :
    ((∀ isPartial balance equity, r ≠ .closed isPartial balance equity) ∧ s' = s) ∨
      ∃ p pnl floor, s.positions.get position = some (some p) ∧ p.account = c.account ∧
        0 < c.closeQty.getD p.qty.value ∧ c.closeQty.getD p.qty.value ≤ p.qty.value ∧ c.pnl mem p = some pnl ∧
        Reduces s.positions position p (c.closeQty.getD p.qty.value) floor.positions ∧
        recordTrade { s with toFloor := floor } (c.booking mem p pnl) = .ok s' ∧
        realizedRows floor = realizedRows s.toFloor ++ [(c.account, cents pnl)] := by
  simp only [closePosition, bind_eq_ok, Prod.exists] at h
  obtain ⟨floor, result, hfloor, h⟩ := h
  rcases closePosition_rows hfloor with
    ⟨hresult, rfl⟩ | ⟨p, pnl, isPartial, balance, equity, rfl, hlocked, hpnl, hpositive, hle, hreduces, hrealized⟩
  · split at h
    · next p pnl _ _ _ _ => exact absurd rfl (hresult _ _ _)
    · rw [pure_eq_ok, Prod.mk.injEq] at h
      obtain ⟨rfl, rfl⟩ := h
      exact Or.inl ⟨hresult, rfl⟩
  · have hlocked' : lockedRow s c.account position = some p := hlocked
    have hpnl' : c.pnl mem p = some pnl := by
      simpa only [CloseRequest.onFloor, hlocked', Option.bind_some] using hpnl
    simp only [hlocked', Option.bind_some, hpnl', bind_eq_ok, pure_eq_ok, Prod.mk.injEq] at h
    obtain ⟨s1, hrecord, rfl, -⟩ := h
    obtain ⟨hrow, haccount⟩ := lockedRow_some hlocked'
    exact Or.inr ⟨p, pnl, floor, hrow, haccount, hpositive, hle, hpnl', hreduces, hrecord, hrealized⟩

lemma closePosition_moves {c : CloseRequest} {position : ℕ} {mem : Position} {r : CloseResult}
    (h : closePosition s c position mem = .ok (s', r)) (hcopy : s.copies.get c.copy = some (position, mem))
    (hgrid : GridClose c) : Move s a s' := by
  rcases closePosition_closed h with
    ⟨-, rfl⟩ | ⟨p, pnl, floor, hrow, haccount, hpositive, hle, hpnl, hreduces, hrecord, hrealized⟩
  · exact moves_same s'
  · refine .closed (.one hcopy hrow haccount hpositive hle hpnl hgrid hreduces) ?_ hrealized
    rw [List.foldlM_cons, hrecord]
    rfl

lemma batch_eq (s : Desk) (f : ForceRequest) :
    (f.onFloor s).batch s.toFloor = (f.rows s).map fun r => (r.1, r.2.symbol) := by
  rw [ForceClose.batch, ForceRequest.rows, List.map_filterMap]
  refine List.filterMap_congr fun r _ => ?_
  split
  · cases r.2 <;> rfl
  · rfl

lemma mem_rows {f : ForceRequest} {r : ℕ × Position} (h : r ∈ f.rows s) :
    s.positions.get r.1 = some (some r.2) ∧ r.2.account = f.account := by
  rw [ForceRequest.rows, List.mem_filterMap] at h
  obtain ⟨⟨i, row⟩, hrow, h⟩ := h
  split at h
  · next hmatch =>
    obtain ⟨p, hp, rfl⟩ := Option.map_eq_some_iff.mp h
    dsimp only at hp
    rw [hp] at hrow hmatch
    simp only [ForceClose.matches, decide_eq_true_eq] at hmatch
    exact ⟨Table.mem_rows.mp hrow, hmatch.1⟩
  · cases h

lemma rows_nodup (s : Desk) (f : ForceRequest) : ((f.rows s).map Prod.fst).Nodup := by
  refine (Table.rows_nodup.filterMap fun r r' a ha ha' => ?_).map_on fun r hr r' hr' heq => ?_
  · split at ha <;> split at ha' <;> first | cases ha | cases ha' | skip
    obtain ⟨p, hp, rfl⟩ := Option.map_eq_some_iff.mp ha
    obtain ⟨p', hp', heq⟩ := Option.map_eq_some_iff.mp ha'
    rw [Prod.mk.injEq] at heq
    exact Prod.ext heq.1.symm (hp.trans (heq.2 ▸ hp'.symm))
  · have hrow := (mem_rows hr).1
    have hrow' := (mem_rows hr').1
    rw [heq, hrow', Option.some.injEq, Option.some.injEq] at hrow
    exact Prod.ext heq hrow.symm

lemma forceClose_moves {f : ForceRequest} (h : forceClose s f = .ok s') : Move s a s' := by
  simp only [forceClose, bind_eq_ok] at h
  obtain ⟨floor, hfloor, hsettles⟩ := h
  obtain ⟨hpositions, hrealized⟩ := forceClose_rows hfloor
  rw [batch_eq, List.map_map] at hpositions hrealized
  refine .closed (.all f hpositions) hsettles ?_
  rw [hrealized, List.map_map]
  congr 1
  refine List.map_congr_left fun r hr => ?_
  simp [ForceRequest.onFloor, ForceRequest.booking, (mem_rows hr).1]

lemma call_moves {a : Call} (h : GridCloses a) : Move s a (call s a) := by
  have hcommit : ∀ {β : Type} {x : Except TradeError (Desk × β)}, (∀ s' r, x = .ok (s', r) → Move s a s') →
      Move s a (commit s (x.map Prod.fst)) := by
    intro β x hx
    refine commit_rule s _ (moves_same s) fun s' hs' => ?_
    obtain ⟨⟨s1, r⟩, hr, rfl⟩ := map_eq_ok.mp hs'
    exact hx s1 r hr
  have hclose : ∀ {c : CloseRequest}, GridClose c → ∀ s' r, closeByCopy s c = .ok (s', r) → Move s a s' := by
    intro c hgrid s' r hclose
    rw [closeByCopy] at hclose
    split at hclose
    · rw [Except.ok.injEq, Prod.mk.injEq] at hclose
      exact hclose.1 ▸ moves_same s
    · next position mem hcopy => exact closePosition_moves hclose hcopy hgrid
  cases a with
  | read position =>
    rw [call, readPosition]
    split
    · exact moves_same s
    · next p hp =>
      obtain ⟨row, hrow, rfl⟩ := Option.bind_eq_some_iff.mp hp
      exact .idle rfl rfl rfl rfl rfl (Or.inr ⟨position, p, hrow, rfl⟩)
  | openPosition o => exact hcommit fun s' r => dbOpenPositionAtomic_moves
  | placeOrder account symbol side qty => exact moves_floor rfl rfl
  | triggerPendingOrder t => exact hcommit fun s' r => triggerPendingOrderCore_moves
  | closeWs c => exact hcommit (hclose h)
  | closeDaemon c => exact hcommit (hclose h)
  | forceClose f =>
    rw [call]
    exact commit_rule s _ (moves_same s) fun s' => forceClose_moves

end Inversion

section Settling

variable {s s' : Desk} {b : Booking}

structure Fits (b : Booking) (t : Trade) : Prop where
  account : t.account = b.account
  symbol : t.symbol = b.symbol
  tradeType : t.tradeType = b.tradeType
  lotSize : store 10 6 b.lotSize = some t.lotSize
  entryPrice : t.entryPrice = b.entryPrice
  exitPrice : store 18 6 b.exitPrice = some t.exitPrice
  profitLoss : store 18 2 b.profitLoss = some t.profitLoss

structure Settles (s s' : Desk) (b : Booking) (t : Trade) : Prop where
  floor : s'.toFloor = s.toFloor
  events : s'.events = s.events
  copies : s'.copies = s.copies
  fits : Fits b t
  trades : s'.trades = s.trades.insert t
  counterparties : (∃ r, s.counterparties.first (fun e => e.sourceTrade = s.trades.next) = some r) ∨
    ∃ e : CounterpartyEntry, s'.counterparties = s.counterparties.insert e ∧ e.sourceTrade = s.trades.next ∧
      e.sourceAccount = b.account ∧ e.symbol = b.symbol ∧
      store 18 2 (if b.profitLoss = 0 then 0 else negate b.profitLoss) = some e.amount

lemma recordTrade_settles (h : recordTrade s b = .ok s') : ∃ t, Settles s s' b t := by
  simp only [recordTrade, bind_eq_ok] at h
  obtain ⟨lotSize, hlot, exitPrice, hexit, profitLoss, hprofit, h⟩ := h
  have hfits : Fits b
      { account := b.account, symbol := b.symbol, tradeType := b.tradeType, lotSize, entryPrice := b.entryPrice,
        exitPrice, profitLoss } :=
    ⟨rfl, rfl, rfl, column_ok hlot, rfl, column_ok hexit, column_ok hprofit⟩
  rw [createBrokerCounterpartyEntry] at h
  split at h
  · next r hfirst =>
    rw [Except.ok.injEq] at h
    subst h
    exact ⟨_, rfl, rfl, rfl, hfits, rfl, Or.inl ⟨r, hfirst⟩⟩
  · simp only [bind_eq_ok, pure_eq_ok] at h
    obtain ⟨amount, hamount, rfl⟩ := h
    exact ⟨_, rfl, rfl, rfl, hfits, rfl, Or.inr ⟨_, rfl, rfl, rfl, rfl, column_ok hamount⟩⟩

lemma settle_rule {I : Desk → List Booking → Prop} {bs : List Booking} (hsettles : bs.foldlM recordTrade s = .ok s')
    (h : I s bs) (hstep : ∀ {u u' : Desk} {b : Booking} {t : Trade} {bs : List Booking},
      Settles u u' b t → I u (b :: bs) → I u' bs) : I s' [] := by
  induction bs generalizing s with
  | nil =>
    rw [List.foldlM_nil, pure_eq_ok] at hsettles
    exact hsettles ▸ h
  | cons b bs ih =>
    rw [List.foldlM_cons, bind_eq_ok] at hsettles
    obtain ⟨s1, hrecord, hrest⟩ := hsettles
    obtain ⟨t, ht⟩ := recordTrade_settles hrecord
    exact ih hrest (hstep ht h)

lemma settles_frame {bs : List Booking} (h : bs.foldlM recordTrade s = .ok s') :
    s'.toFloor = s.toFloor ∧ s'.events = s.events ∧ s'.copies = s.copies :=
  settle_rule (I := fun u _ => u.toFloor = s.toFloor ∧ u.events = s.events ∧ u.copies = s.copies) h ⟨rfl, rfl, rfl⟩
    fun ht ⟨hf, he, hc⟩ => ⟨ht.floor.trans hf, ht.events.trans he, ht.copies.trans hc⟩

end Settling

section Copies

variable {s s' : Desk} {t t' : Table (Option Position)} {position : ℕ} {p : Position}

/-- The rows of a table that were there before belong to the same account, symbol and side. -/
structure Traces (t t' : Table (Option Position)) : Prop where
  next : t.next ≤ t'.next
  row : ∀ i p', i < t.next → t'.get i = some (some p') →
    ∃ p, t.get i = some (some p) ∧ p'.account = p.account ∧ p'.symbol = p.symbol ∧ p'.side = p.side

lemma traces_refl (t : Table (Option Position)) : Traces t t :=
  ⟨le_rfl, fun _ p _ hp => ⟨p, hp, rfl, rfl, rfl⟩⟩

lemma traces_update (hrow : t.get position = some (some p)) (row : Option Position)
    (h : ∀ p' ∈ row, p'.account = p.account ∧ p'.symbol = p.symbol ∧ p'.side = p.side) :
    Traces t (t.update position fun _ => row) := by
  refine ⟨le_rfl, fun i p' _ hp' => ?_⟩
  obtain ⟨old, hold, hnew⟩ := Table.get_update_some hp'
  split at hnew
  · next hi => exact ⟨p, hi ▸ hrow, h p' hnew.symm⟩
  · exact ⟨p', hnew ▸ hold, rfl, rfl, rfl⟩

lemma executes_traces {floor : Floor} {k id : ℕ} {f : Fill} {merged : Bool} (h : Executes floor k f t' id merged) :
    Traces floor.positions t' := by
  cases h with
  | merged hrow hmatch hqty =>
    refine traces_update hrow _ fun p' hp' => ?_
    rw [← Option.some.inj hp']
    exact ⟨rfl, rfl, rfl⟩
  | new hqty =>
    refine ⟨Nat.le_succ _, fun i p' hi hp' => ?_⟩
    obtain hold | ⟨hnew, -⟩ := Table.get_insert_some hp'
    · exact ⟨p', hold, rfl, rfl, rfl⟩
    · omega

lemma reduces_traces {q : ℚ} (hrow : t.get position = some (some p)) (h : Reduces t position p q t') : Traces t t' := by
  cases h with
  | full => exact traces_update hrow none fun _ hnone => (nomatch hnone)
  | rest =>
    refine traces_update hrow _ fun p' hp' => ?_
    rw [← Option.some.inj hp']
    exact ⟨rfl, rfl, rfl⟩

lemma removes_traces {bs : List Booking} (h : Removes s t bs) : Traces s.positions t := by
  cases h with
  | one _ hrow _ _ _ _ _ hreduces => exact reduces_traces hrow hreduces
  | all f h =>
    subst h
    refine ⟨(next_deleted _ _).ge, fun i p' _ hp' => ?_⟩
    rw [get_deleted] at hp'
    split at hp'
    · obtain ⟨_, _, hnone⟩ := Option.map_eq_some_iff.mp hp'
      cases hnone
    · exact ⟨p', hp', rfl, rfl, rfl⟩

lemma truthful_of_traces (h : Truthful s) (ht : Traces s.positions s'.positions) (hc : s'.copies = s.copies) :
    Truthful s' := by
  intro c position mem hcopy
  rw [hc] at hcopy
  obtain ⟨hlt, hsame⟩ := h c position mem hcopy
  refine ⟨hlt.trans_le ht.next, fun p hp => ?_⟩
  obtain ⟨old, hold, haccount, hsymbol, hside⟩ := ht.row position p hlt hp
  obtain ⟨h1, h2, h3⟩ := hsame old hold
  exact ⟨haccount.trans h1, hsymbol.trans h2, hside.trans h3⟩

lemma truthful_move {a : Call} (h : Truthful s) (hmove : Move s a s') : Truthful s' := by
  cases hmove with
  | idle positions events trades counterparties realized copies =>
    rcases copies with hsame | ⟨i, p, hp, hcopies⟩
    · exact truthful_of_traces h (positions ▸ traces_refl _) hsame
    · intro c position mem hcopy
      rw [hcopies] at hcopy
      rw [positions]
      obtain hold | ⟨-, hnew⟩ := Table.get_insert_some hcopy
      · exact h c position mem hold
      · rw [Prod.mk.injEq] at hnew
        obtain ⟨rfl, rfl⟩ := hnew
        refine ⟨Table.lt_of_get hp, fun p' hp' => ?_⟩
        rw [hp, Option.some.injEq, Option.some.injEq] at hp'
        rw [hp']
        exact ⟨rfl, rfl, rfl⟩
  | opened _ executes _ _ _ _ _ _ _ _ copies => exact truthful_of_traces h (executes_traces executes) copies
  | closed removes settles _ =>
    obtain ⟨hfloor, -, hcopies⟩ := settles_frame settles
    refine truthful_of_traces h ?_ hcopies
    rw [hfloor]
    exact removes_traces removes

end Copies

end TrxSimulator.Trading.Moves
