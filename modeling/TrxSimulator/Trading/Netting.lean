import Mathlib.Algebra.BigOperators.Ring.List
import TrxSimulator.Foundations.Averages
import TrxSimulator.Trading.Quantities

/-! Fills of one side merged into a single position, against the same fills held apart: what closing them realizes in
the currency of the quote. -/

namespace TrxSimulator.Trading.Netting

open Foundations.Tables Foundations.Outcomes Foundations.Decimals Foundations.Averages Money
open Market.Symbols Market.Pnl
open Executions Rows Moves Quantities
open Writers hiding Call call dbOpenPositionAtomic triggerPendingOrderCore closePosition dbClosePositionAtomic
  closePositionSync forceClose
open Reconciliation (column_ok)

structure Lot where
  qty : Numeric 18 6
  price : Numeric 18 6
  positive : 0 < qty.units

def Lot.fill (f : Lot) (symbol : String) (side : Side) : Fill where
  symbol := symbol
  side := side
  qty := f.qty.value
  price := f.price.value
  nettingMode := true

/-- A part of the position that a close took off it, with its result in the currency of the quote. -/
structure Closing where
  qty : ℚ
  closePx : ℚ
  pnlQuote : ℚ

def totalQty (lots : List Lot) : ℚ := (lots.map fun f => f.qty.value).sum

def closedQty (closings : List Closing) : ℚ := (closings.map Closing.qty).sum

def realizedQuote (closings : List Closing) : ℚ := (closings.map Closing.pnlQuote).sum

section Netted

def openNext (account : ℕ) (symbol : String) (side : Side) (s : Floor) (f : Lot) : Except TradeError Floor :=
  (execute s account (f.fill symbol side)).map Prod.fst

def openAll (s : Desk) (account : ℕ) (symbol : String) (side : Side) (lots : List Lot) : Except TradeError Desk :=
  (lots.foldlM (openNext account symbol side) s.toFloor).map fun floor => { s with toFloor := floor }

/-- The copy in memory gives the close its side and its symbol, the locked row everything else. -/
def closeNext (position : ℕ) (mem : Position) (acc : Desk × List Closing) (c : CloseRequest) :
    Except TradeError (Desk × List Closing) := do
  let (s, result) ← closePosition acc.1 c position mem
  match result, lockedRow acc.1 c.account position with
  | .closed _ _ _, some p =>
    let qty := c.closeQty.getD p.qty.value
    let pnl := calculatePositionPnl python mem.side p.avgPrice.value c.closePx qty mem.symbol c.accountCurrency
    pure (s, acc.2 ++ [⟨qty, c.closePx, pnl.pnlQuote⟩])
  | _, _ => pure (s, acc.2)

def closeAll (s : Desk) (position : ℕ) (mem : Position) (closes : List CloseRequest) :
    Except TradeError (Desk × List Closing) :=
  closes.foldlM (closeNext position mem) (s, [])

end Netted

/-- Every fill has a position of its own, and every close takes from each of them in proportion. -/
def heldApart (side : Side) (contractSize : ℚ) (lots : List Lot) (closings : List Closing) : ℚ :=
  (closings.map fun c => (lots.map fun f => calculateQuotePnl python side f.price.value c.closePx
    (f.qty.value * c.qty / totalQty lots) contractSize).sum).sum

section Errors

variable {a p Q q W : ℚ}

lemma context_error (x : ℚ) : |context precision x - x| ≤ 5 / 10 ^ 28 * |x| := by
  have h := abs_context_sub_le_mul precision x
  norm_num [precision] at h ⊢
  exact h

lemma abs_context_le (x : ℚ) : |context precision x| ≤ (1 + 5 / 10 ^ 28) * |x| := by
  have h := (abs_sub_abs_le_abs_sub (context precision x) x).trans (context_error x)
  linarith

/-- The four roundings of a new average, each with its own error. -/
lemma average_error {e₁ e₂ e₃ e₄ : ℚ} (hW : 0 < W) (h₁ : |times a Q - a * Q| ≤ e₁) (h₂ : |times p q - p * q| ≤ e₂)
    (h₃ : |plus (times a Q) (times p q) - (times a Q + times p q)| ≤ e₃)
    (h₄ : |divide (plus (times a Q) (times p q)) W - plus (times a Q) (times p q) / W| ≤ e₄) :
    |divide (plus (times a Q) (times p q)) W * W - (a * Q + p * q)| ≤ e₁ + e₂ + e₃ + e₄ * W := by
  have hdivision : |divide (plus (times a Q) (times p q)) W * W - plus (times a Q) (times p q)| ≤ e₄ * W := by
    have hscaled := mul_le_mul_of_nonneg_right h₄ hW.le
    rwa [← abs_of_pos hW, ← abs_mul, abs_of_pos hW, sub_mul, div_mul_cancel₀ _ hW.ne'] at hscaled
  rw [abs_le] at h₁ h₂ h₃ hdivision ⊢
  constructor <;> linarith

lemma average_error_mul (ha : |a| ≤ 10 ^ 12) (hp : |p| ≤ 10 ^ 12) (hQ : 0 < Q) (hq : 0 < q) :
    |divide (plus (times a Q) (times p q)) (Q + q) * (Q + q) - (a * Q + p * q)| ≤ 151 / 10 ^ 17 * (Q + q) := by
  have hW : 0 < Q + q := add_pos hQ hq
  have hworth : |a * Q| ≤ 10 ^ 12 * Q := by
    rw [abs_mul, abs_of_pos hQ]
    exact mul_le_mul_of_nonneg_right ha hQ.le
  have hfill : |p * q| ≤ 10 ^ 12 * q := by
    rw [abs_mul, abs_of_pos hq]
    exact mul_le_mul_of_nonneg_right hp hq.le
  have hsum : |times a Q + times p q| ≤ (1 + 5 / 10 ^ 28) * (10 ^ 12 * (Q + q)) := by
    have htimes := abs_add_le (times a Q) (times p q)
    have hfirst := abs_context_le (a * Q)
    have hsecond := abs_context_le (p * q)
    rw [times, times] at htimes ⊢
    linarith
  have hquotient : |plus (times a Q) (times p q) / (Q + q)| ≤ (1 + 5 / 10 ^ 28) ^ 2 * 10 ^ 12 := by
    have hplus := abs_context_le (times a Q + times p q)
    rw [abs_div, abs_of_pos hW, div_le_iff₀ hW, plus]
    linarith
  have herror := average_error hW (context_error (a * Q)) (context_error (p * q))
    (context_error (times a Q + times p q)) (context_error (plus (times a Q) (times p q) / (Q + q)))
  have hlast := mul_le_mul_of_nonneg_right hquotient hW.le
  refine herror.trans ?_
  linarith

lemma context_error_grid {x : ℚ} (k : ℕ) (hk : k ≤ 28) (hx : |x| < 10 ^ (28 - k)) :
    |context precision x - x| ≤ 1 / 2 / 10 ^ k := by
  apply abs_context_sub_le
  rwa [show ((precision : ℕ) : ℤ) - k = ((28 - k : ℕ) : ℤ) by rw [precision]; omega, zpow_natCast]

/-- At the far end of the columns the grid of the 28 digits is finer than their relative error. -/
lemma average_error_grid (ha : |a| ≤ 10 ^ 12 - 1 / 10 ^ 6) (hp : |p| ≤ 10 ^ 12 - 1 / 10 ^ 6) (hQ : 0 < Q) (hq : 0 < q)
    (hlow : 10 ^ 11 ≤ Q + q) (hhigh : Q + q ≤ 10 ^ 12) :
    |divide (plus (times a Q) (times p q)) (Q + q) * (Q + q) - (a * Q + p * q)| ≤ 2 / 10 ^ 4 := by
  have hW : 0 < Q + q := add_pos hQ hq
  have hworth : |a * Q| ≤ (10 ^ 12 - 1 / 10 ^ 6) * Q := by
    rw [abs_mul, abs_of_pos hQ]
    exact mul_le_mul_of_nonneg_right ha hQ.le
  have hfill : |p * q| ≤ (10 ^ 12 - 1 / 10 ^ 6) * q := by
    rw [abs_mul, abs_of_pos hq]
    exact mul_le_mul_of_nonneg_right hp hq.le
  have hfirst : |times a Q - a * Q| ≤ 1 / 2 / 10 ^ 4 :=
    context_error_grid 4 (by norm_num) (hworth.trans_lt (by norm_num; linarith))
  have hsecond : |times p q - p * q| ≤ 1 / 2 / 10 ^ 4 :=
    context_error_grid 4 (by norm_num) (hfill.trans_lt (by norm_num; linarith))
  have hsum : |times a Q + times p q| ≤ (10 ^ 12 - 1 / 10 ^ 6) * (Q + q) + 1 / 10 ^ 4 := by
    have htriangle := abs_add_le (times a Q) (times p q)
    have htimes := (abs_sub_abs_le_abs_sub (times a Q) (a * Q)).trans hfirst
    have htimes' := (abs_sub_abs_le_abs_sub (times p q) (p * q)).trans hsecond
    linarith
  have hplus : |plus (times a Q) (times p q) - (times a Q + times p q)| ≤ 1 / 2 / 10 ^ 4 :=
    context_error_grid 4 (by norm_num) (by norm_num; linarith)
  have hquotient : |plus (times a Q) (times p q) / (Q + q)| ≤ 10 ^ 12 - 1 / 10 ^ 7 := by
    have htotal := (abs_sub_abs_le_abs_sub _ _).trans hplus
    rw [abs_div, abs_of_pos hW, div_le_iff₀ hW]
    linarith
  have hdivide : |divide (plus (times a Q) (times p q)) (Q + q) - plus (times a Q) (times p q) / (Q + q)| ≤
      1 / 2 / 10 ^ 16 := context_error_grid 16 (by norm_num) (by norm_num; linarith)
  refine (average_error hW hfirst hsecond hplus hdivide).trans ?_
  linarith

/-- What the roundings of the arithmetic add to that of the average's own column. -/
def slip (total : ℚ) : ℚ := min (151 / 10 ^ 17 * total) (2 / 10 ^ 4)

lemma slip_mono (h : Q ≤ W) : slip Q ≤ slip W :=
  min_le_min_right _ (mul_le_mul_of_nonneg_left h (by norm_num))

lemma average_error_slip (ha : |a| ≤ 10 ^ 12 - 1 / 10 ^ 6) (hp : |p| ≤ 10 ^ 12 - 1 / 10 ^ 6) (hQ : 0 < Q) (hq : 0 < q)
    (hW : Q + q ≤ 10 ^ 12) :
    |divide (plus (times a Q) (times p q)) (Q + q) * (Q + q) - (a * Q + p * q)| ≤ slip (Q + q) := by
  have hmul := average_error_mul (ha.trans (by norm_num)) (hp.trans (by norm_num)) hQ hq
  apply le_min hmul
  obtain hlow | hhigh := le_total (Q + q) (10 ^ 11)
  · refine hmul.trans ?_
    linarith
  · exact average_error_grid ha hp hQ hq hhigh hW

/-- The slips of so many merges stay within what the first fill leaves unused of the bound, together with what each
merge leaves of it: at least a unit of the quantity's grid for every fill before it. -/
lemma slips_le {n : ℕ} (hQ : 0 ≤ Q) :
    n * slip Q ≤ 9 / 10 * (5 / 10 ^ 7 * Q) + 5 / 10 ^ 7 * (1 / 10 ^ 6 * (n * (n - 1) / 2)) := by
  have hn : (0 : ℚ) ≤ n := n.cast_nonneg
  obtain hlow | hhigh := le_total Q (10 ^ 11)
  · have hslip : n * slip Q ≤ n * (151 / 10 ^ 17 * Q) := mul_le_mul_of_nonneg_left (min_le_left _ _) hn
    refine hslip.trans ?_
    obtain hfew | hmany := le_total n (10 ^ 8)
    · have hpairs : (0 : ℚ) ≤ n * (n - 1) := by
        obtain rfl | hpos := n.eq_zero_or_pos
        · simp
        · exact mul_nonneg hn (sub_nonneg.mpr (by exact_mod_cast hpos))
      have hfew' : (n : ℚ) ≤ 10 ^ 8 := by exact_mod_cast hfew
      linarith [mul_le_mul_of_nonneg_right hfew' hQ]
    · have hmany' : (10 ^ 8 : ℚ) ≤ n := by exact_mod_cast hmany
      have hsquare : n * 10 ^ 8 ≤ n * (n : ℚ) := mul_le_mul_of_nonneg_left hmany' hn
      have hlow' : Q * Q ≤ Q * 10 ^ 11 := mul_le_mul_of_nonneg_left hlow hQ
      linarith [sq_nonneg ((n : ℚ) - 34 / 10 ^ 4 * Q), mul_nonneg hn hQ]
  · have hslip : n * slip Q ≤ n * (2 / 10 ^ 4) := mul_le_mul_of_nonneg_left (min_le_right _ _) hn
    refine hslip.trans ?_
    linarith [sq_nonneg ((n : ℚ) - (4 * 10 ^ 8 + 1 / 2))]

end Errors

section Products

variable {x q c px entry contractSize : ℚ} {side : Side}

def direction : Side → ℚ
  | .buy => 1
  | .sell => -1

lemma product_error (hq : 0 ≤ q) (hc : 0 ≤ c) :
    |context precision (context precision (context precision x * q) * c) - x * q * c| ≤
      16 / 10 ^ 28 * (|x| * q * c) := by
  have hdiff := context_error x
  have hdiff' := mul_le_mul_of_nonneg_right (mul_le_mul_of_nonneg_right hdiff hq) hc
  have hprod := context_error (context precision x * q)
  have hlast := context_error (context precision (context precision x * q) * c)
  have hsize := mul_le_mul_of_nonneg_right (mul_le_mul_of_nonneg_right (abs_context_le x) hq) hc
  have hsize' := mul_le_mul_of_nonneg_right (abs_context_le (context precision x * q)) hc
  have hprod' := mul_le_mul_of_nonneg_right hprod hc
  rw [abs_mul, abs_of_nonneg hq] at hprod' hsize'
  rw [abs_mul, abs_of_nonneg hc] at hlast
  have hscaled : |(context precision x - x) * q * c| = |context precision x - x| * q * c := by
    rw [abs_mul, abs_mul, abs_of_nonneg hq, abs_of_nonneg hc]
  have hscaled' : |(context precision (context precision x * q) - context precision x * q) * c| =
      |context precision (context precision x * q) - context precision x * q| * c := by
    rw [abs_mul, abs_of_nonneg hc]
  rw [← hscaled] at hdiff'
  rw [← hscaled'] at hprod'
  have hnonneg : 0 ≤ |x| * q * c := mul_nonneg (mul_nonneg (abs_nonneg x) hq) hc
  rw [abs_le] at hdiff' hprod' hlast ⊢
  constructor <;> linarith

lemma quotePnl_error (hentry : |entry| ≤ 10 ^ 12) (hpx : |px| ≤ 10 ^ 12 + 1) (hq : 0 ≤ q) (hc : 0 ≤ contractSize) :
    |calculateQuotePnl python side entry px q contractSize - direction side * contractSize * (px - entry) * q| ≤
      1 / 10 ^ 14 * contractSize * q := by
  have hdiff : |px - entry| ≤ 3 * 10 ^ 12 := (abs_sub px entry).trans (by linarith)
  have hbound := mul_le_mul_of_nonneg_right (mul_le_mul_of_nonneg_right hdiff hq) hc
  have hnonneg : 0 ≤ q * contractSize := mul_nonneg hq hc
  cases side with
  | buy =>
    have herror := product_error (x := px - entry) hq hc
    have hexact : direction .buy * contractSize * (px - entry) * q = (px - entry) * q * contractSize := by
      rw [direction]
      ring
    rw [hexact]
    refine herror.trans ?_
    linarith
  | sell =>
    have herror := product_error (x := entry - px) hq hc
    have hexact : direction .sell * contractSize * (px - entry) * q = (entry - px) * q * contractSize := by
      rw [direction]
      ring
    rw [hexact]
    rw [abs_sub_comm entry px] at herror
    refine herror.trans ?_
    linarith

end Products

section Merging

variable {s s' : Floor} {account id : ℕ} {symbol : String} {side : Side} {lots : List Lot} {f : Lot} {e : ℚ}

def Lot.entry (f : Lot) : Entry ℚ := ⟨f.qty.value, f.price.value⟩

@[simp] lemma weight_entries (lots : List Lot) : weight (lots.map Lot.entry) = totalQty lots := by
  rw [weight, totalQty, List.map_map]
  rfl

@[simp] lemma totalQty_append (lots : List Lot) (f : Lot) : totalQty (lots ++ [f]) = totalQty lots + f.qty.value := by
  simp [totalQty]

lemma abs_value_le (n : Numeric 18 6) : |n.value| ≤ 10 ^ 12 - 1 / 10 ^ 6 := by
  have hunits : |n.units| ≤ 10 ^ 18 - 1 := Int.le_sub_one_of_lt n.fits
  have hcast : |(n.units : ℚ)| ≤ 10 ^ 18 - 1 := by exact_mod_cast hunits
  rw [Numeric.value, scaled, abs_div, abs_of_pos (by norm_num : (0 : ℚ) < 10 ^ 6), div_le_iff₀ (by norm_num)]
  linarith

lemma unit_le_qty (f : Lot) : 1 / 10 ^ 6 ≤ f.qty.value := by
  have hunits : (1 : ℚ) ≤ f.qty.units := by exact_mod_cast f.positive
  rw [Numeric.value, scaled]
  exact div_le_div_of_nonneg_right hunits (by norm_num)

lemma qty_pos (f : Lot) : 0 < f.qty.value := lt_of_lt_of_le (by norm_num) (unit_le_qty f)

lemma totalQty_nonneg (lots : List Lot) : 0 ≤ totalQty lots := by
  apply List.sum_nonneg
  intro x hx
  obtain ⟨f, -, rfl⟩ := List.mem_map.mp hx
  exact (qty_pos f).le

lemma totalQty_pos (hlots : lots ≠ []) : 0 < totalQty lots := by
  obtain ⟨f, lots, rfl⟩ := List.exists_cons_of_ne_nil hlots
  have hrest := totalQty_nonneg lots
  simp only [totalQty, List.map_cons, List.sum_cons] at hrest ⊢
  exact add_pos_of_pos_of_nonneg (qty_pos f) hrest

def Matches (account : ℕ) (symbol : String) (side : Side) (p : Position) : Prop :=
  p.account = account ∧ p.symbol = symbol ∧ p.side = side

lemma mergesWith_iff {p : Position} :
    mergesWith account (f.fill symbol side) (some p) = true ↔ Matches account symbol side p := by
  rw [mergesWith]
  exact decide_eq_true_iff

lemma store_sum {x y z : Numeric 18 6} (h : store 18 6 (plus x.value y.value) = some z) :
    z.value = x.value + y.value := by
  rw [plus_value, Numeric.value, Numeric.value, scaled_add, store_scaled] at h
  rw [Numeric.value, ← h, ← scaled_add, ← Numeric.value, ← Numeric.value]

lemma merged_average {avg qty price q avg' : Numeric 18 6} (hqty : 0 < qty.value) (hq : 0 < q.value)
    (hfits : qty.value + q.value ≤ 10 ^ 12)
    (h : store 18 6 (scaled 6 (quantize 6 (divide (plus (times avg.value qty.value) (times price.value q.value))
      (plus qty.value q.value)))) = some avg') :
    |avg'.value * (qty.value + q.value) - (avg.value * qty.value + q.value * price.value)| ≤
      5 / 10 ^ 7 * (qty.value + q.value) + slip (qty.value + q.value) := by
  rw [plus_value, store_scaled] at h
  have hslip := average_error_slip (abs_value_le avg) (abs_value_le price) hqty hq hfits
  have hround := abs_scaled_quantize_sub_le 6
    (divide (plus (times avg.value qty.value) (times price.value q.value)) (qty.value + q.value))
  rw [h, ← Numeric.value] at hround
  have hscaled := mul_le_mul_of_nonneg_right hround (add_pos hqty hq).le
  rw [← abs_of_pos (add_pos hqty hq), ← abs_mul, abs_of_pos (add_pos hqty hq)] at hscaled
  rw [abs_le] at hslip hscaled ⊢
  constructor <;> linarith

/-- One row of the account on its symbol and side: the sum of the lots, at an average of theirs. -/
structure Merged (s : Floor) (account : ℕ) (symbol : String) (side : Side) (id : ℕ) (lots : List Lot) (e : ℚ)
    (p : Position) : Prop where
  row : s.positions.get id = some (some p)
  matched : Matches account symbol side p
  only : ∀ j p, s.positions.get j = some (some p) → Matches account symbol side p → j = id
  qty : p.qty.value = totalQty lots
  averaged : Averaged (5 / 10 ^ 7) e (lots.map Lot.entry) p.avgPrice.value

lemma openNext_first (hnone : ∀ i p, s.positions.get i = some (some p) → ¬ Matches account symbol side p)
    (h : openNext account symbol side s f = .ok s') :
    ∃ p, Merged s' account symbol side s.positions.next [f] e p := by
  have hfirst : s.positions.first (mergesWith account (f.fill symbol side)) = none := by
    cases hfirst : s.positions.first (mergesWith account (f.fill symbol side)) with
    | none => rfl
    | some r =>
      obtain ⟨hrow, hmatch⟩ := Table.first_some (i := r.1) (a := r.2) hfirst
      cases hp : r.2 with
      | none =>
        rw [hp] at hmatch
        cases hmatch
      | some p =>
        rw [hp] at hrow hmatch
        exact absurd (mergesWith_iff.mp hmatch) (hnone r.1 p hrow)
  rw [openNext, map_eq_ok] at h
  obtain ⟨a, h, rfl⟩ := h
  rw [execute, if_pos (show (f.fill symbol side).nettingMode = true from rfl), hfirst] at h
  simp only [bind_eq_ok, pure_eq_ok] at h
  obtain ⟨qty, hqty, avgPrice, havg, rfl⟩ := h
  obtain rfl : f.qty = qty := Option.some.inj ((store_value f.qty).symm.trans (column_ok hqty))
  obtain rfl : f.price = avgPrice := Option.some.inj ((store_value f.price).symm.trans (column_ok havg))
  refine ⟨_, Table.get_insert_next _ _, ⟨rfl, rfl, rfl⟩, fun j p hj hmatch => ?_, ?_, Averaged.first f.entry⟩
  · obtain hold | ⟨rfl, -⟩ := Table.get_insert_some hj
    · exact absurd hmatch (hnone j p hold)
    · rfl
  · simp [totalQty]

lemma openNext_merged {p : Position} (hm : Merged s account symbol side id lots e p) (hpos : 0 < totalQty lots)
    (he : slip (totalQty (lots ++ [f])) ≤ e) (h : openNext account symbol side s f = .ok s') :
    ∃ p', Merged s' account symbol side id (lots ++ [f]) e p' := by
  have hfirst : s.positions.first (mergesWith account (f.fill symbol side)) = some (id, some p) := by
    refine Table.first_of_unique hm.row (mergesWith_iff.mpr hm.matched) fun j row hj hrow => ?_
    cases row with
    | none => cases hrow
    | some p' => exact hm.only j p' hj (mergesWith_iff.mp hrow)
  rw [openNext, map_eq_ok] at h
  obtain ⟨a, h, rfl⟩ := h
  rw [execute, if_pos (show (f.fill symbol side).nettingMode = true from rfl), hfirst] at h
  simp only [guard_eq_ok, bind_eq_ok, pure_eq_ok] at h
  obtain ⟨-, avgPrice, havg, qty, hqty, rfl⟩ := h
  have hsum : qty.value = totalQty (lots ++ [f]) := by
    rw [totalQty_append, ← hm.qty]
    exact store_sum (column_ok hqty)
  refine ⟨{ p with qty, avgPrice }, Table.get_update_self hm.row _, hm.matched, fun j p' hj hmatch => ?_, hsum, ?_⟩
  · obtain rfl | hne := eq_or_ne j id
    · rfl
    · dsimp only at hj
      rw [Table.get_update_ne _ hne] at hj
      exact hm.only j p' hj hmatch
  · rw [List.map_append, List.map_singleton]
    apply hm.averaged.next
    have hfits := abs_value_le qty
    rw [hsum, totalQty_append, ← hm.qty] at hfits
    rw [← hm.qty] at hpos
    have herror := merged_average hpos (qty_pos f) ((le_abs_self _).trans (hfits.trans (by norm_num)))
      (column_ok havg)
    have hweight : weight (lots.map Lot.entry ++ [f.entry]) = p.qty.value + f.qty.value := by
      rw [← List.map_singleton, ← List.map_append, weight_entries, totalQty_append, hm.qty]
    rw [totalQty_append, ← hm.qty] at he
    rw [hweight, weight_entries, ← hm.qty]
    exact herror.trans (add_le_add_right he _)

lemma fills_merged (hnone : ∀ i p, s.positions.get i = some (some p) → ¬ Matches account symbol side p)
    (hlots : lots ≠ []) (he : slip (totalQty lots) ≤ e)
    (h : lots.foldlM (openNext account symbol side) s = .ok s') :
    ∃ p, Merged s' account symbol side s.positions.next lots e p := by
  induction lots using List.reverseRecOn generalizing s' with
  | nil => exact absurd rfl hlots
  | append_singleton lots f ih =>
    rw [List.foldlM_append, bind_eq_ok] at h
    obtain ⟨s1, hbefore, hlast⟩ := h
    simp only [List.foldlM_cons, List.foldlM_nil, bind_pure] at hlast
    cases lots with
    | nil =>
      rw [List.foldlM_nil, pure_eq_ok] at hbefore
      subst hbefore
      exact openNext_first hnone hlast
    | cons f' lots =>
      have hgrow : totalQty (f' :: lots) ≤ totalQty (f' :: lots ++ [f]) := by
        rw [totalQty_append]
        exact le_add_of_nonneg_right (qty_pos f).le
      have hpos : 0 < totalQty (f' :: lots) := totalQty_pos (List.cons_ne_nil _ _)
      obtain ⟨p, hm⟩ := ih (List.cons_ne_nil _ _) ((slip_mono hgrow).trans he) hbefore
      exact openNext_merged hm hpos he hlast

end Merging

section Closing

variable {s s' : Desk} {position : ℕ} {mem : Position} {avg : Numeric 18 6} {spec : SymbolSpec}
  {acc acc' : Desk × List Closing} {closes : List CloseRequest}

/-- Whatever is left of the position is at the price that it was merged to, and so is every part closed of it. -/
structure ClosedAt (position : ℕ) (side : Side) (avg : Numeric 18 6) (contractSize : ℚ) (acc : Desk × List Closing) :
    Prop where
  rest : ∀ p, acc.1.positions.get position = some (some p) → p.avgPrice = avg
  parts : ∀ c ∈ acc.2, 0 ≤ c.qty ∧ |c.closePx| ≤ 10 ^ 12 + 1 ∧
    c.pnlQuote = calculateQuotePnl python side avg.value c.closePx c.qty contractSize

lemma pnlQuote_eq {side : Side} {symbol currency : String} {entry px q : ℚ}
    (hspec : getSpec (normalizeSymbol symbol) = some spec) :
    (calculatePositionPnl python side entry px q symbol currency).pnlQuote =
      calculateQuotePnl python side entry px q spec.contractSize := by
  simp only [calculatePositionPnl, hspec, convertPnlToAccountCurrency]
  split
  · rfl
  · split <;> rfl

lemma closePx_bound {px : ℚ} {stored : Numeric 18 6} (h : store 18 6 px = some stored) : |px| ≤ 10 ^ 12 + 1 := by
  have hstored := abs_value_le stored
  have hnear := abs_store_sub_le h
  rw [abs_sub_comm] at hnear
  have htriangle := abs_sub_abs_le_abs_sub px stored.value
  linarith

lemma closeNext_closedAt {c : CloseRequest} (hspec : getSpec (normalizeSymbol mem.symbol) = some spec)
    (hacc : ClosedAt position mem.side avg spec.contractSize acc) (h : closeNext position mem acc c = .ok acc') :
    ClosedAt position mem.side avg spec.contractSize acc' := by
  simp only [closeNext, bind_eq_ok, Prod.exists] at h
  obtain ⟨s', result, hclose, h⟩ := h
  rcases closePosition_closed hclose with
    ⟨hresult, rfl⟩ | ⟨p, pnl, floor, hrow, haccount, hpositive, hle, hpnl, hreduces, hrecord, -⟩
  · split at h
    · next isPartial balance equity p hlocked => exact absurd rfl (hresult isPartial balance equity)
    · rw [pure_eq_ok] at h
      subst h
      exact hacc
  · obtain ⟨t, ht⟩ := recordTrade_settles hrecord
    have hpositions : s'.positions = floor.positions := by rw [ht.floor]
    have hrest : ∀ p', s'.positions.get position = some (some p') → p'.avgPrice = avg := by
      intro p' hp'
      rw [hpositions] at hp'
      generalize floor.positions = t at hreduces hp'
      cases hreduces with
      | full hwhole =>
        rw [Table.get_update_self hrow] at hp'
        cases hp'
      | rest hpart hqty =>
        rw [Table.get_update_self hrow, Option.some.injEq, Option.some.injEq] at hp'
        subst hp'
        exact hacc.rest p hrow
    split at h
    · next isPartial balance equity p' hlocked =>
      rw [pure_eq_ok] at h
      subst h
      obtain ⟨hrow', -⟩ := lockedRow_some hlocked
      obtain rfl : p = p' := Option.some.inj (Option.some.inj (hrow.symm.trans hrow'))
      refine ⟨hrest, fun x hx => ?_⟩
      obtain hx | hx := List.mem_append.mp hx
      · exact hacc.parts x hx
      · rw [List.mem_singleton] at hx
        subst hx
        refine ⟨hpositive.le, closePx_bound ht.fits.exitPrice, ?_⟩
        dsimp only
        rw [pnlQuote_eq hspec, hacc.rest p hrow]
    · rw [pure_eq_ok] at h
      subst h
      exact ⟨hrest, hacc.parts⟩

lemma closeAll_closedAt {closings : List Closing} (hspec : getSpec (normalizeSymbol mem.symbol) = some spec)
    (havg : ∀ p, s.positions.get position = some (some p) → p.avgPrice = avg)
    (h : closeAll s position mem closes = .ok (s', closings)) :
    ClosedAt position mem.side avg spec.contractSize (s', closings) := by
  have hrun : ∀ {acc : Desk × List Closing}, ClosedAt position mem.side avg spec.contractSize acc →
      closes.foldlM (closeNext position mem) acc = .ok (s', closings) →
      ClosedAt position mem.side avg spec.contractSize (s', closings) := by
    clear h
    induction closes with
    | nil =>
      intro acc hacc h
      rw [List.foldlM_nil, pure_eq_ok] at h
      exact h ▸ hacc
    | cons c closes ih =>
      intro acc hacc h
      rw [List.foldlM_cons, bind_eq_ok] at h
      obtain ⟨acc', hc, hrest⟩ := h
      exact ih (closeNext_closedAt hspec hacc hc) hrest
  exact hrun ⟨havg, fun c hc => by cases hc⟩ h

end Closing

section Gains

variable {lots : List Lot} {closings : List Closing} {side : Side} {contractSize : ℚ} {avg : Numeric 18 6}

def Closing.exit (c : Closing) : Exit ℚ := ⟨c.qty, c.closePx⟩

lemma amount_exits (closings : List Closing) : amount (closings.map Closing.exit) = closedQty closings := by
  rw [amount, closedQty, List.map_map]
  rfl

lemma realizedQuote_error (hc : 0 ≤ contractSize)
    (hparts : ∀ c ∈ closings, 0 ≤ c.qty ∧ |c.closePx| ≤ 10 ^ 12 + 1 ∧
      c.pnlQuote = calculateQuotePnl python side avg.value c.closePx c.qty contractSize) :
    |realizedQuote closings - gain (direction side * contractSize) avg.value (closings.map Closing.exit)| ≤
      1 / 10 ^ 14 * contractSize * closedQty closings := by
  rw [realizedQuote, gain, closedQty, ← List.sum_map_mul_left, List.map_map]
  apply abs_sum_map_sub_le
  intro c hmem
  obtain ⟨hqty, hpx, hpnl⟩ := hparts c hmem
  rw [hpnl]
  exact quotePnl_error ((abs_value_le avg).trans (by norm_num)) hpx hqty hc

lemma heldApart_error (side : Side) (hc : 0 ≤ contractSize) (hlots : totalQty lots ≠ 0)
    (hparts : ∀ c ∈ closings, 0 ≤ c.qty ∧ |c.closePx| ≤ 10 ^ 12 + 1) :
    |heldApart side contractSize lots closings -
        sharedGain (direction side * contractSize) (lots.map Lot.entry) (closings.map Closing.exit)| ≤
      1 / 10 ^ 14 * contractSize * closedQty closings := by
  rw [heldApart, sharedGain, closedQty, ← List.sum_map_mul_left, List.map_map]
  apply abs_sum_map_sub_le
  intro c hmem
  obtain ⟨hqty, hpx⟩ := hparts c hmem
  have hshares : (lots.map fun f => 1 / 10 ^ 14 * contractSize * (f.qty.value * c.qty / totalQty lots)).sum =
      1 / 10 ^ 14 * contractSize * c.qty := by
    have hterm : ∀ f : Lot, 1 / 10 ^ 14 * contractSize * (f.qty.value * c.qty / totalQty lots) =
        1 / 10 ^ 14 * contractSize * c.qty / totalQty lots * f.qty.value := by
      intro f
      ring
    simp only [hterm]
    rw [List.sum_map_mul_left, ← totalQty, div_mul_cancel₀ _ hlots]
  rw [← hshares, Function.comp_apply, List.map_map, weight_entries]
  apply abs_sum_map_sub_le
  intro f _
  have hshare : 0 ≤ f.qty.value * c.qty / totalQty lots :=
    div_nonneg (mul_nonneg (qty_pos f).le hqty) (totalQty_nonneg lots)
  exact quotePnl_error ((abs_value_le f.price).trans (by norm_num)) hpx hshare hc

end Gains

/-- The bound on the average leaves a tenth of one fill's rounding for the closes. -/
lemma average_within {lots : List Lot} {avg : ℚ} (hlots : lots ≠ [])
    (h : Averaged (5 / 10 ^ 7) (slip (totalQty lots)) (lots.map Lot.entry) avg) :
    |avg * totalQty lots - worth (lots.map Lot.entry)| ≤ (lots.length - 1 / 10) * (5 / 10 ^ 7) * totalQty lots := by
  have herror := averaged_error (g := 1 / 10 ^ 6) (by norm_num) h fun x hx => by
    obtain ⟨f, -, rfl⟩ := List.mem_map.mp hx
    exact unit_le_qty f
  obtain ⟨n, hn⟩ := Nat.exists_eq_add_one_of_ne_zero (List.length_pos_iff.mpr hlots).ne'
  have hslips := slips_le (n := n) (totalQty_nonneg lots)
  rw [weight_entries, List.length_map, hn] at herror
  rw [hn]
  push_cast at herror ⊢
  linarith

/-- Merged or apart, the same fills and the same closes realize the same, but for the rounding of the average. -/
theorem netting_error {s s₁ s₂ : Desk} {account : ℕ} {symbol : String} {side : Side} {spec : SymbolSpec}
    {lots : List Lot} {mem : Position} {closes : List CloseRequest} {closings : List Closing}
    (hspec : getSpec (normalizeSymbol symbol) = some spec)
    (hnone : ∀ i p, s.positions.get i = some (some p) → ¬ Matches account symbol side p)
    (hlots : lots ≠ []) (hopen : openAll s account symbol side lots = .ok s₁)
    (hside : mem.side = side) (hsymbol : mem.symbol = symbol)
    (hclose : closeAll s₁ s.positions.next mem closes = .ok (s₂, closings))
    (hwhole : closedQty closings = totalQty lots) :
    (∃ p, s₁.positions.get s.positions.next = some (some p) ∧ Matches account symbol side p ∧
      p.qty.value = totalQty lots) ∧
    |realizedQuote closings - heldApart side spec.contractSize lots closings| ≤
      totalQty lots * spec.contractSize * lots.length * (5 / 10 ^ 7) := by
  subst hside hsymbol
  rw [openAll, map_eq_ok] at hopen
  obtain ⟨floor, hfills, rfl⟩ := hopen
  obtain ⟨p, hm⟩ := fills_merged hnone hlots le_rfl hfills
  refine ⟨⟨p, hm.row, hm.matched, hm.qty⟩, ?_⟩
  have havg : ∀ p', floor.positions.get s.positions.next = some (some p') → p'.avgPrice = p.avgPrice := by
    intro p' hp'
    rw [hm.row, Option.some.injEq, Option.some.injEq] at hp'
    rw [hp']
  have hclosed := closeAll_closedAt hspec havg hclose
  have hpositive := totalQty_pos hlots
  obtain ⟨hsize, -, -, -⟩ := registry_bounds (mem_of_getSpec hspec)
  have haverage := average_within hlots hm.averaged
  have hweight : weight (lots.map Lot.entry) ≠ 0 := by
    rw [weight_entries]
    exact hpositive.ne'
  have hamount : amount (closings.map Closing.exit) = weight (lots.map Lot.entry) := by
    rw [amount_exits, weight_entries, hwhole]
  have hgain := gain_sub_sharedGain_whole (direction mem.side * spec.contractSize) p.avgPrice.value hweight hamount
  have hmerged := realizedQuote_error hsize.le hclosed.parts
  have hparts : ∀ c ∈ closings, 0 ≤ c.qty ∧ |c.closePx| ≤ 10 ^ 12 + 1 := by
    intro c hc
    obtain ⟨hqty, hpx, -⟩ := hclosed.parts c hc
    exact ⟨hqty, hpx⟩
  have hapart := heldApart_error mem.side hsize.le hpositive.ne' hparts
  rw [hwhole] at hmerged hapart
  have hdirection : |direction mem.side * spec.contractSize| = spec.contractSize := by
    cases mem.side <;> simp [direction, hsize.le]
  have hexact : |gain (direction mem.side * spec.contractSize) p.avgPrice.value (closings.map Closing.exit) -
      sharedGain (direction mem.side * spec.contractSize) (lots.map Lot.entry) (closings.map Closing.exit)| ≤
      spec.contractSize * ((lots.length - 1 / 10) * (5 / 10 ^ 7) * totalQty lots) := by
    rw [hgain, abs_mul, hdirection, weight_entries, abs_sub_comm]
    exact mul_le_mul_of_nonneg_left haverage hsize.le
  have hslack := mul_pos hsize hpositive
  rw [abs_sub_comm] at hapart
  calc |realizedQuote closings - heldApart mem.side spec.contractSize lots closings|
      ≤ 1 / 10 ^ 14 * spec.contractSize * totalQty lots +
          (spec.contractSize * ((lots.length - 1 / 10) * (5 / 10 ^ 7) * totalQty lots) +
            1 / 10 ^ 14 * spec.contractSize * totalQty lots) := by
        have hfirst := abs_sub_le (realizedQuote closings)
          (gain (direction mem.side * spec.contractSize) p.avgPrice.value (closings.map Closing.exit))
          (heldApart mem.side spec.contractSize lots closings)
        have hsecond := abs_sub_le
          (gain (direction mem.side * spec.contractSize) p.avgPrice.value (closings.map Closing.exit))
          (sharedGain (direction mem.side * spec.contractSize) (lots.map Lot.entry) (closings.map Closing.exit))
          (heldApart mem.side spec.contractSize lots closings)
        exact hfirst.trans (add_le_add hmerged (hsecond.trans (add_le_add hexact hapart)))
    _ ≤ totalQty lots * spec.contractSize * lots.length * (5 / 10 ^ 7) := by linarith

def twoLots : List Lot :=
  [⟨.ofUnits 100000, .ofUnits 1100000, by decide⟩, ⟨.ofUnits 200000, .ofUnits 1200000, by decide⟩]

def mergedCopy : Position := ⟨0, "EUR/USD", .buy, .ofUnits 300000, .ofUnits 1166667⟩

def twoCloses : List CloseRequest :=
  [{ Quantities.closeLots 0 (some (1 / 10)) with closePx := 23 / 20 }, Quantities.closeLots 0 none]

/-- The average of 1.1666… is stored a third of a unit too high, and a hundredth of a unit is lost to the trader. -/
theorem netting_error_two_lots :
    ∃ s₁ s₂ closings, openAll Quantities.openingDesk 0 "EUR/USD" .buy twoLots = .ok s₁ ∧
      closeAll s₁ 0 mergedCopy twoCloses = .ok (s₂, closings) ∧ realizedQuote closings = 49999 / 100 ∧
      |realizedQuote closings - heldApart .buy 100000 twoLots closings| ≤ 3 / 10 * 100000 * 2 * (5 / 10 ^ 7) := by
  have hrun : ((openAll Quantities.openingDesk 0 "EUR/USD" .buy twoLots).bind fun s₁ =>
      (closeAll s₁ 0 mergedCopy twoCloses).map fun x => (closedQty x.2, realizedQuote x.2)).toOption =
        some (3 / 10, 49999 / 100) := by decide +kernel
  cases hopen : openAll Quantities.openingDesk 0 "EUR/USD" .buy twoLots with
  | error e =>
    rw [hopen] at hrun
    cases hrun
  | ok s₁ =>
    cases hclose : closeAll s₁ 0 mergedCopy twoCloses with
    | error e =>
      simp only [hopen, Except.bind, hclose, Except.map, Except.toOption] at hrun
      cases hrun
    | ok x =>
      obtain ⟨s₂, closings⟩ := x
      simp only [hopen, Except.bind, hclose, Except.map, Except.toOption, Option.some.injEq, Prod.mk.injEq] at hrun
      obtain ⟨hqty, hpnl⟩ := hrun
      have htotal : totalQty twoLots = 3 / 10 := by decide +kernel
      have hspec : getSpec (normalizeSymbol "EUR/USD") = some (forex "EUR/USD" "USD" (1 / 10000) 5 true) := by
        decide +kernel
      have hnone : ∀ i p, Quantities.openingDesk.positions.get i = some (some p) → ¬ Matches 0 "EUR/USD" .buy p :=
        fun i p h => by cases h
      have hlots : twoLots ≠ [] := List.cons_ne_nil _ _
      have hbound := netting_error hspec hnone hlots hopen rfl rfl hclose (hqty.trans htotal.symm)
      rw [htotal] at hbound
      exact ⟨s₁, s₂, closings, rfl, hclose, hpnl, hbound.2⟩

end TrxSimulator.Trading.Netting
