import TrxSimulator.Trading.Reconciliation

/-! What the writers of the floor do to the rows of positions, and the realized results that they post. -/

namespace TrxSimulator.Trading.Rows

open Foundations.Tables Foundations.Outcomes Foundations.Decimals Money Charges Writers Reconciliation
open Accounts (TradingAccount EventType)

def realizedRow (e : LedgerEntry) : Option (ℕ × ℤ) :=
  if e.eventType = .realizedPnl then some (e.account, e.amount.units) else none

def realizedRows (s : Floor) : List (ℕ × ℤ) := s.entries.rows.filterMap fun r => realizedRow r.2

inductive Executes (s : Floor) (k : ℕ) (f : Fill) : Table (Option Position) → ℕ → Bool → Prop
  | merged {id : ℕ} {existing : Position} {avgPrice qty : Numeric 18 6}
      (hrow : s.positions.get id = some (some existing)) (hmatch : mergesWith k f (some existing) = true)
      (hqty : store 18 6 (plus existing.qty.value f.qty) = some qty) :
      Executes s k f (s.positions.update id fun _ => some { existing with qty, avgPrice }) id true
  | new {avgPrice qty : Numeric 18 6} (hqty : store 18 6 f.qty = some qty) :
      Executes s k f (s.positions.insert (some { account := k, symbol := f.symbol, side := f.side, qty, avgPrice }))
        s.positions.next false

inductive Reduces (t : Table (Option Position)) (position : ℕ) (p : Position) (closeQty : ℚ) :
    Table (Option Position) → Prop
  | full (h : closeQty = p.qty.value) : Reduces t position p closeQty (t.update position fun _ => none)
  | rest {qty : Numeric 18 6} (h : closeQty ≠ p.qty.value) (hqty : store 18 6 (minus p.qty.value closeQty) = some qty) :
      Reduces t position p closeQty (t.update position fun _ => some { p with qty })

/-- Rows that post so many realized results, with no position written. -/
structure Realizes (s s' : Floor) (rows : List (ℕ × ℤ)) : Prop where
  positions : s'.positions = s.positions
  realized : realizedRows s' = realizedRows s ++ rows

section Posting

variable {s s' s'' : Floor} {k : ℕ} {x y : ℚ} {rows rows' : List (ℕ × ℤ)} {t : EventType} {info : EntryMeta}

lemma realizes_of_eq (hp : s'.positions = s.positions) (he : s'.entries = s.entries) : Realizes s s' [] := by
  refine ⟨hp, ?_⟩
  rw [realizedRows, he, List.append_nil, realizedRows]

lemma Realizes.trans (h : Realizes s s' rows) (h' : Realizes s' s'' rows') : Realizes s s'' (rows ++ rows') := by
  refine ⟨h'.positions.trans h.positions, ?_⟩
  rw [h'.realized, h.realized, List.append_assoc]

lemma postEntry_realizes (h : postEntry s k t x y info = .ok s') :
    Realizes s s' (if t = .realizedPnl then [(k, cents x)] else []) := by
  simp only [postEntry, bind_eq_ok, pure_eq_ok] at h
  obtain ⟨amount, hamount, balanceAfter, -, rfl⟩ := h
  refine ⟨rfl, ?_⟩
  rw [store_cents.mp (column_ok hamount), realizedRows, Table.rows_insert, List.filterMap_append]
  congr 1
  by_cases ht : t = .realizedPnl <;> simp [realizedRow, ht]

lemma postEntryIf_realizes {p : Prop} [Decidable p] (h : postEntryIf p s k t x y info = .ok s')
    (ht : t ≠ .realizedPnl) : Realizes s s' [] := by
  rw [postEntryIf] at h
  split at h
  · have hposts := postEntry_realizes h
    rwa [if_neg ht] at hposts
  · rw [Except.ok.injEq] at h
    subst h
    exact realizes_of_eq rfl rfl

lemma saveBalance_realizes (h : saveBalance s k x = .ok s') : Realizes s s' [] := by
  simp only [saveBalance, bind_eq_ok, pure_eq_ok] at h
  obtain ⟨b, -, rfl⟩ := h
  exact realizes_of_eq rfl rfl

lemma saveBalanceEquity_realizes (h : saveBalanceEquity s k x y = .ok s') : Realizes s s' [] := by
  simp only [saveBalanceEquity, bind_eq_ok, pure_eq_ok] at h
  obtain ⟨b, -, e, -, rfl⟩ := h
  exact realizes_of_eq rfl rfl

lemma postCharges_realizes {c : OpeningCharges} (h : postCharges s k c info = .ok s') : Realizes s s' [] := by
  simp only [postCharges, bind_eq_ok] at h
  obtain ⟨s1, hcommission, s2, hspread, hsave⟩ := h
  have hrows := (postEntryIf_realizes hcommission (by decide)).trans (postEntryIf_realizes hspread (by decide))
  split at hsave
  · exact hrows.trans (saveBalance_realizes hsave)
  · rw [pure_eq_ok] at hsave
    exact hsave ▸ hrows

end Posting

section Opening

variable {s s' : Floor} {k id : ℕ} {f : Fill} {merged : Bool}

lemma execute_rows (h : execute s k f = .ok (s', id, merged)) :
    Executes s k f s'.positions id merged ∧ s'.entries = s.entries := by
  rw [execute] at h
  split at h
  · next i existing hfirst =>
    rw [guard_eq_ok] at h
    simp only [bind_eq_ok, pure_eq_ok, Prod.mk.injEq] at h
    obtain ⟨-, avgPrice, -, qty, hqty, rfl, rfl, rfl⟩ := h
    split at hfirst
    · obtain ⟨hrow, hmatch⟩ := Table.first_some hfirst
      exact ⟨.merged hrow hmatch (column_ok hqty), rfl⟩
    · cases hfirst
  · simp only [bind_eq_ok, pure_eq_ok, Prod.mk.injEq] at h
    obtain ⟨qty, hqty, avgPrice, -, rfl, rfl, rfl⟩ := h
    exact ⟨.new (column_ok hqty), rfl⟩

lemma executed_rows {c : OpeningCharges} {info : EntryMeta} {s'' : Floor} (h : execute s k f = .ok (s', id, merged))
    (hpost : postCharges s' k c info = .ok s'') :
    Executes s k f s''.positions id merged ∧ realizedRows s'' = realizedRows s := by
  obtain ⟨hexecutes, hentries⟩ := execute_rows h
  have hposts := postCharges_realizes hpost
  rw [hposts.positions, hposts.realized, List.append_nil, realizedRows, hentries]
  exact ⟨hexecutes, rfl⟩

lemma dbOpenPositionAtomic_rows {o : Open} {r : OpenResult} (h : dbOpenPositionAtomic s o = .ok (s', r)) :
    (r = .rejected ∧ s' = s) ∨ ∃ id merged, r = .opened id merged ∧ o.admitted = true ∧
      Executes s o.account o.fill s'.positions id merged ∧ realizedRows s' = realizedRows s := by
  simp only [dbOpenPositionAtomic, bind_eq_ok, require_eq_ok] at h
  obtain ⟨a, -, h⟩ := h
  split at h
  · rw [pure_eq_ok, Prod.mk.injEq] at h
    exact Or.inl ⟨h.2.symm, h.1.symm⟩
  · next hadmitted =>
    simp only [bind_eq_ok, pure_eq_ok, Prod.exists, Prod.mk.injEq] at h
    obtain ⟨s1, position, merged, hexecute, charges, -, s2, hpost, rfl, rfl⟩ := h
    exact Or.inr ⟨position, merged, rfl, not_not.mp hadmitted, executed_rows hexecute hpost⟩

lemma triggerPendingOrderCore_rows {t : Trigger} {r : TriggerResult} (h : triggerPendingOrderCore s t = .ok (s', r)) :
    ((∀ id merged, r ≠ .triggered id merged) ∧ s'.positions = s.positions ∧ realizedRows s' = realizedRows s) ∨
      ∃ po id merged, r = .triggered id merged ∧ s.orders.get t.order = some po ∧ t.refusedByLimits = none ∧
        Executes s po.account (t.fill po) s'.positions id merged ∧ realizedRows s' = realizedRows s := by
  obtain ⟨rfl, rfl⟩ | ⟨rfl, rfl⟩ | ⟨code, rfl, rfl⟩ | ⟨po, a, id, merged, rfl, hopens⟩ := trigger_ok h
  · exact Or.inl ⟨by simp, rfl, rfl⟩
  · exact Or.inl ⟨by simp, rfl, rfl⟩
  · exact Or.inl ⟨by simp, rfl, rfl⟩
  · obtain ⟨spread, s1, charges, s2, -, hexecute, -, hpost, rfl⟩ := hopens.written
    obtain ⟨hexecutes, hrealized⟩ := executed_rows hexecute hpost
    exact Or.inr ⟨po, id, merged, rfl, hopens.row, hopens.byLimits, hexecutes, hrealized⟩

end Opening

section Closing

variable {s s' : Floor}

lemma realize_realizes {a : TradingAccount} {c : Close} {p : Position} {pnl safe equity : ℚ}
    (h : realize s a c p pnl = .ok (s', safe, equity)) : Realizes s s' [(c.account, cents pnl)] := by
  simp only [realize, bind_eq_ok, pure_eq_ok, Prod.mk.injEq] at h
  obtain ⟨s1, hrow, s2, hguard, rfl, -⟩ := h
  exact (postEntry_realizes hrow).trans (postEntryIf_realizes hguard (by decide))

lemma reducePosition_rows {position : ℕ} {p : Position} {qty : ℚ} (h : reducePosition s position p qty = .ok s') :
    Reduces s.positions position p qty s'.positions ∧ s'.entries = s.entries := by
  rw [reducePosition] at h
  split at h
  · next hfull =>
    rw [Except.ok.injEq] at h
    subst h
    exact ⟨.full hfull, rfl⟩
  · next hpart =>
    simp only [bind_eq_ok, pure_eq_ok] at h
    obtain ⟨rest, hrest, rfl⟩ := h
    exact ⟨.rest hpart (column_ok hrest), rfl⟩

lemma closePosition_rows {c : Close} {r : CloseResult} (h : closePosition s c = .ok (s', r)) :
    ((∀ isPartial balance equity, r ≠ .closed isPartial balance equity) ∧ s' = s) ∨
      ∃ p pnl isPartial balance equity, r = .closed isPartial balance equity ∧ lockedPosition s c = some p ∧
        c.pnlAccount = some pnl ∧ 0 < c.closeQty.getD p.qty.value ∧ c.closeQty.getD p.qty.value ≤ p.qty.value ∧
        Reduces s.positions c.position p (c.closeQty.getD p.qty.value) s'.positions ∧
        realizedRows s' = realizedRows s ++ [(c.account, cents pnl)] := by
  have hkept : ∀ {q : CloseResult}, (.ok (s, q) : Except TradeError _) = .ok (s', r) →
      (∀ isPartial balance equity, q ≠ .closed isPartial balance equity) →
      (∀ isPartial balance equity, r ≠ .closed isPartial balance equity) ∧ s' = s := by
    intro q heq hq
    rw [Except.ok.injEq, Prod.mk.injEq] at heq
    obtain ⟨rfl, rfl⟩ := heq
    exact ⟨hq, rfl⟩
  rw [closePosition] at h
  split at h
  · exact Or.inl (hkept h (by simp))
  · next p hp =>
    dsimp only at h
    split at h
    · exact Or.inl (hkept h (by simp))
    · next hpositive =>
      split at h
      · exact Or.inl (hkept h (by simp))
      · next hle =>
        split at h
        · exact Or.inl (hkept h (by simp))
        · next pnl hpnl =>
          simp only [bind_eq_ok, require_eq_ok, pure_eq_ok, Prod.exists, Prod.mk.injEq] at h
          obtain ⟨a, -, s1, safe, equity, hrealize, s2, hreduce, s3, hsave, rfl, rfl⟩ := h
          have hposts := realize_realizes hrealize
          obtain ⟨hreduces, hentries⟩ := reducePosition_rows hreduce
          have hsaved := saveBalanceEquity_realizes hsave
          refine Or.inr ⟨p, pnl, _, _, _, rfl, hp, hpnl, not_le.mp hpositive, not_lt.mp hle, ?_, ?_⟩
          · rw [hsaved.positions, ← hposts.positions]
            exact hreduces
          · rw [hsaved.realized, List.append_nil, ← hposts.realized, realizedRows, hentries, realizedRows]

def deleted (t : Table (Option Position)) (ids : List ℕ) : Table (Option Position) :=
  ids.foldl (fun t i => t.update i fun _ => none) t

lemma get_deleted (t : Table (Option Position)) (ids : List ℕ) (i : ℕ) :
    (deleted t ids).get i = if i ∈ ids then (t.get i).map fun _ => none else t.get i := by
  induction ids generalizing t with
  | nil => simp [deleted]
  | cons j ids ih =>
    have hstep : deleted t (j :: ids) = deleted (t.update j fun _ => none) ids := rfl
    rw [hstep, ih, Table.get_update]
    by_cases hij : i = j
    · simp only [hij, if_true, List.mem_cons, true_or, Option.map_map, Function.comp_def]
      exact ite_self _
    · simp only [hij, if_false, List.mem_cons, false_or]

lemma next_deleted (t : Table (Option Position)) (ids : List ℕ) : (deleted t ids).next = t.next := by
  induction ids generalizing t with
  | nil => rfl
  | cons j ids ih => exact ih _

lemma closeNext_rows {f : ForceClose} {rows : List (ℕ × String)} {running final : ℚ}
    (h : rows.foldlM (closeNext f) (s, running) = .ok (s', final)) :
    s'.positions = deleted s.positions (rows.map Prod.fst) ∧
      realizedRows s' = realizedRows s ++ rows.map fun r => (f.account, cents (f.pnl r.1)) := by
  induction rows generalizing s running with
  | nil =>
    rw [List.foldlM_nil, pure_eq_ok, Prod.mk.injEq] at h
    obtain ⟨rfl, -⟩ := h
    exact ⟨rfl, by simp⟩
  | cons r rows ih =>
    rw [List.foldlM_cons, bind_eq_ok] at h
    obtain ⟨⟨s1, next⟩, hnext, h⟩ := h
    simp only [closeNext, bind_eq_ok, pure_eq_ok, Prod.mk.injEq] at hnext
    obtain ⟨s2, hrow, rfl, rfl⟩ := hnext
    have hposts := postEntry_realizes hrow
    obtain ⟨hpositions, hrealized⟩ := ih h
    refine ⟨?_, ?_⟩
    · rw [hpositions, deletePosition, hposts.positions]
      rfl
    · have hdeleted : realizedRows (deletePosition s2 r.1) = realizedRows s2 := rfl
      rw [hrealized, hdeleted, hposts.realized, List.map_cons, List.append_assoc]
      rfl

lemma forceClose_rows {f : ForceClose} (h : forceClose s f = .ok s') :
    s'.positions = deleted s.positions ((f.batch s).map Prod.fst) ∧
      realizedRows s' = realizedRows s ++ (f.batch s).map fun r => (f.account, cents (f.pnl r.1)) := by
  simp only [forceClose, bind_eq_ok, require_eq_ok, Prod.exists] at h
  obtain ⟨a, -, s1, running, hbatch, hsave⟩ := h
  obtain ⟨hpositions, hrealized⟩ := closeNext_rows hbatch
  have hsaved := saveBalanceEquity_realizes hsave
  rw [hsaved.positions, hsaved.realized, List.append_nil]
  exact ⟨hpositions, hrealized⟩

end Closing

end TrxSimulator.Trading.Rows
