import TrxSimulator.Foundations.Losses
import TrxSimulator.Trading.Netting

/-! The row that a fill leaves, new or grown out of one on its side, and what it can add to a total over the rows. -/

namespace TrxSimulator.Trading.Fills

open Foundations.Tables Foundations.Outcomes Foundations.Decimals Foundations.Floats Foundations.Losses Money
open Writers (Side Position TradeError Fill Floor execute mergesWith column)
open Reconciliation (column_ok)
open Netting (abs_context_le)

def newAverage (existing : Position) (f : Fill) : ℚ :=
  divide (plus (times existing.avgPrice.value existing.qty.value) (times f.price f.qty)) (plus existing.qty.value f.qty)

structure Opened (k : ℕ) (f : Fill) (row : Position) : Prop where
  account : row.account = k
  symbol : row.symbol = f.symbol
  side : row.side = f.side
  avgPrice : |row.avgPrice.value - f.price| ≤ 5 / 10 ^ 7
  qty : |row.qty.value - f.qty| ≤ 5 / 10 ^ 7

structure Grown (k : ℕ) (f : Fill) (existing row : Position) : Prop where
  matched : existing.account = k ∧ existing.symbol = f.symbol ∧ existing.side = f.side
  account : row.account = existing.account
  symbol : row.symbol = existing.symbol
  side : row.side = existing.side
  divides : plus existing.qty.value f.qty ≠ 0
  avgPrice : |row.avgPrice.value - newAverage existing f| ≤ 5 / 10 ^ 7
  qty : |row.qty.value - plus existing.qty.value f.qty| ≤ 5 / 10 ^ 7

inductive Filled (t : Table (Option Position)) (k : ℕ) (f : Fill) : Table (Option Position) → ℕ → Bool → Prop
  | merged {id : ℕ} {existing row : Position} (hrow : t.get id = some (some existing)) (hgrown : Grown k f existing row) :
      Filled t k f (t.update id fun _ => some row) id true
  | new {row : Position}
      (hnone : f.nettingMode = true → ∀ i p, t.get i = some (some p) → mergesWith k f (some p) = false)
      (hopened : Opened k f row) : Filled t k f (t.insert (some row)) t.next false

section Executing

variable {s s' : Floor} {k id : ℕ} {f : Fill} {merged : Bool}

lemma column_close {name : String} {x : ℚ} {n : Numeric 18 6} (h : column 18 6 name x = .ok n) :
    |n.value - x| ≤ 5 / 10 ^ 7 := by
  have hstore := abs_store_sub_le (column_ok h)
  norm_num at hstore ⊢
  exact hstore

lemma average_close {name : String} {x : ℚ} {n : Numeric 18 6}
    (h : column 18 6 name (scaled 6 (quantize 6 x)) = .ok n) : |n.value - x| ≤ 5 / 10 ^ 7 := by
  have hunits := store_scaled.mp (column_ok h)
  have hround := abs_scaled_quantize_sub_le 6 x
  rw [hunits] at hround
  norm_num at hround ⊢
  exact hround

lemma execute_filled (h : execute s k f = .ok (s', id, merged)) : Filled s.positions k f s'.positions id merged := by
  rw [execute] at h
  split at h
  · next i existing hfirst =>
    rw [guard_eq_ok] at h
    simp only [bind_eq_ok, pure_eq_ok, Prod.mk.injEq] at h
    obtain ⟨hdivides, avgPrice, havg, qty, hqty, rfl, rfl, rfl⟩ := h
    split at hfirst
    · obtain ⟨hrow, hmatch⟩ := Table.first_some hfirst
      simp only [mergesWith, decide_eq_true_eq] at hmatch
      exact .merged hrow ⟨hmatch, rfl, rfl, rfl, hdivides, average_close havg, column_close hqty⟩
    · cases hfirst
  · next hfirst =>
    simp only [bind_eq_ok, pure_eq_ok, Prod.mk.injEq] at h
    obtain ⟨qty, hqty, avgPrice, havg, rfl, rfl, rfl⟩ := h
    refine .new (fun hnetting i p hp => ?_) ⟨rfl, rfl, rfl, column_close havg, column_close hqty⟩
    rw [if_pos hnetting] at hfirst
    cases hfound : s.positions.first (mergesWith k f) with
    | none => exact Table.first_none hfound hp
    | some found =>
      obtain ⟨j, row⟩ := found
      obtain ⟨-, hmatch⟩ := Table.first_some hfound
      cases row with
      | none => cases hmatch
      | some existing => exact (hfirst j existing hfound).elim

end Executing

section Totals

variable {t t' : Table (Option Position)} {k id : ℕ} {f : Fill} {merged : Bool} {g : ℕ → Option Position → ℚ} {u : ℚ}

lemma total_insert_le (hu : Part u) (hg : ∀ i row, t.get i = some row → 0 ≤ g i row) {row : Option Position} {e : ℚ}
    (hrow : (1 - u) * g t.next row ≤ e) : (1 - u) * (t.insert row).total g ≤ t.total g + e := by
  have hrest : (1 - u) * t.total g ≤ t.total g := mul_le_of_le_one_left (Table.total_nonneg hg) hu.rest_le_one
  rw [Table.total_insert, mul_add]
  exact add_le_add hrest hrow

lemma total_update_le (hu : Part u) (hg : ∀ i row, t.get i = some row → 0 ≤ g i row) (hzero : g id none = 0)
    {old row : Option Position} {e : ℚ} (hold : t.get id = some old) (hrow : (1 - u) * g id row ≤ g id old + e) :
    (1 - u) * (t.update id fun _ => row).total g ≤ t.total g + e := by
  have hothers := Table.total_update hold (fun _ => none) g
  have hupdate := Table.total_update hold (fun _ => row) g
  have hnonneg : 0 ≤ (t.update id fun _ => none).total g := by
    apply Table.total_nonneg
    intro i row hi
    obtain ⟨old, hget, rfl⟩ := Table.get_update_some hi
    split
    · next hid => rw [hid, hzero]
    · exact hg i old hget
  have hrest := mul_le_of_le_one_left hnonneg hu.rest_le_one
  have hafter : (t.update id fun _ => row).total g = (t.update id fun _ => none).total g + g id row := by linarith
  rw [hafter, mul_add]
  linarith

/-- What the written row adds to a total is bounded by what it adds to its own term. -/
lemma filled_total (h : Filled t k f t' id merged) (hu : Part u) (hg : ∀ i row, t.get i = some row → 0 ≤ g i row)
    (hzero : ∀ i, g i none = 0) {e : Position → ℚ}
    (hnew : ∀ row, Opened k f row → (1 - u) * g t.next (some row) ≤ e row)
    (hmerged : ∀ existing row, t.get id = some (some existing) → Grown k f existing row →
      (1 - u) * g id (some row) ≤ g id (some existing) + e row) :
    ∃ row, t'.get id = some (some row) ∧ (1 - u) * t'.total g ≤ t.total g + e row := by
  cases h with
  | @merged id existing row hrow hgrown =>
    exact ⟨row, Table.get_update_self hrow _, total_update_le hu hg (hzero id) hrow (hmerged existing row hrow hgrown)⟩
  | @new row hnone hopened => exact ⟨row, Table.get_insert_next t _, total_insert_le hu hg (hnew row hopened)⟩

end Totals

section Sizes

variable {k : ℕ} {f : Fill} {existing row : Position} {P p Q q : ℚ}

/-- What the columns may add to the product of a row's price and size. -/
def slack (row : Position) : ℚ := 5 / 10 ^ 7 * (|row.avgPrice.value| + |row.qty.value| + 1)

lemma slack_nonneg (row : Position) : 0 ≤ slack row :=
  mul_nonneg (by norm_num) (add_nonneg (add_nonneg (abs_nonneg _) (abs_nonneg _)) zero_le_one)

lemma product_slack (hp : |P - p| ≤ 5 / 10 ^ 7) (hq : |Q - q| ≤ 5 / 10 ^ 7) :
    |P * Q| ≤ |p * q| + 5 / 10 ^ 7 * (|P| + |Q| + 1) := by
  have hP : |P| ≤ |p| + 5 / 10 ^ 7 := by linarith [abs_sub_abs_le_abs_sub P p]
  have hQ : |Q| ≤ |q| + 5 / 10 ^ 7 := by linarith [abs_sub_abs_le_abs_sub Q q]
  have hp' : |p| ≤ |P| + 5 / 10 ^ 7 := by
    linarith [abs_sub_abs_le_abs_sub p P, abs_sub_comm p P]
  have hq' : |q| ≤ |Q| + 5 / 10 ^ 7 := by
    linarith [abs_sub_abs_le_abs_sub q Q, abs_sub_comm q Q]
  have hproduct := mul_le_mul hP hQ (abs_nonneg Q) (add_nonneg (abs_nonneg p) (by norm_num))
  rw [abs_mul, abs_mul]
  linarith

lemma size_close (hq : |Q - q| ≤ 5 / 10 ^ 7) : |Q| ≤ |q| + 5 / 10 ^ 7 := by
  linarith [abs_sub_abs_le_abs_sub Q q]

lemma part_ulp : Part ulp := ⟨by norm_num [ulp], by norm_num [ulp]⟩

/-- Merging keeps the worth of the two parts, up to the digits of the arithmetic. -/
lemma average_worth (hdivides : plus existing.qty.value f.qty ≠ 0) :
    (1 - ulp) * |newAverage existing f * plus existing.qty.value f.qty| ≤
      |existing.avgPrice.value * existing.qty.value| + |f.price * f.qty| := by
  have hfirst : |times existing.avgPrice.value existing.qty.value| ≤
      (1 + 5 / 10 ^ 28) * |existing.avgPrice.value * existing.qty.value| := abs_context_le _
  have hsecond : |times f.price f.qty| ≤ (1 + 5 / 10 ^ 28) * |f.price * f.qty| := abs_context_le _
  have hsum : |plus (times existing.avgPrice.value existing.qty.value) (times f.price f.qty)| ≤
      (1 + 5 / 10 ^ 28) * |times existing.avgPrice.value existing.qty.value + times f.price f.qty| := abs_context_le _
  have htriangle := abs_add_le (times existing.avgPrice.value existing.qty.value) (times f.price f.qty)
  have hworth : |newAverage existing f * plus existing.qty.value f.qty| ≤
      (1 + 5 / 10 ^ 28) * |plus (times existing.avgPrice.value existing.qty.value) (times f.price f.qty)| := by
    have hquotient : |newAverage existing f| ≤ (1 + 5 / 10 ^ 28) *
        |plus (times existing.avgPrice.value existing.qty.value) (times f.price f.qty) /
          plus existing.qty.value f.qty| := abs_context_le _
    have hscaled := mul_le_mul_of_nonneg_right hquotient (abs_nonneg (plus existing.qty.value f.qty))
    rwa [mul_assoc, ← abs_mul, ← abs_mul, div_mul_cancel₀ _ hdivides] at hscaled
  rw [ulp]
  linarith [abs_nonneg (existing.avgPrice.value * existing.qty.value), abs_nonneg (f.price * f.qty)]

lemma sum_size : (1 - ulp) * |plus existing.qty.value f.qty| ≤ |existing.qty.value| + |f.qty| := by
  have hsum : |plus existing.qty.value f.qty| ≤ (1 + 5 / 10 ^ 28) * |existing.qty.value + f.qty| := abs_context_le _
  have htriangle := abs_add_le existing.qty.value f.qty
  rw [ulp]
  linarith [abs_nonneg existing.qty.value, abs_nonneg f.qty]

lemma rest_add_le {x y z e : ℚ} (he : 0 ≤ e) (hx : x ≤ y + e) (hy : (1 - ulp) * y ≤ z) : (1 - ulp) * x ≤ z + e := by
  have hscaled := mul_le_mul_of_nonneg_left hx part_ulp.rest_nonneg
  have hslack := mul_le_of_le_one_left he part_ulp.rest_le_one
  linarith

lemma Opened.worth (h : Opened k f row) :
    (1 - ulp) * |row.avgPrice.value * row.qty.value| ≤ |f.price * f.qty| + slack row :=
  rest_add_le (slack_nonneg row) (product_slack h.avgPrice h.qty)
    (mul_le_of_le_one_left (abs_nonneg _) part_ulp.rest_le_one)

lemma Opened.size (h : Opened k f row) : (1 - ulp) * |row.qty.value| ≤ |f.qty| + 5 / 10 ^ 7 :=
  rest_add_le (by norm_num) (size_close h.qty) (mul_le_of_le_one_left (abs_nonneg _) part_ulp.rest_le_one)

lemma Grown.worth (h : Grown k f existing row) : (1 - ulp) * |row.avgPrice.value * row.qty.value| ≤
    |existing.avgPrice.value * existing.qty.value| + |f.price * f.qty| + slack row :=
  rest_add_le (slack_nonneg row) (product_slack h.avgPrice h.qty) (average_worth h.divides)

lemma Grown.size (h : Grown k f existing row) :
    (1 - ulp) * |row.qty.value| ≤ |existing.qty.value| + |f.qty| + 5 / 10 ^ 7 :=
  rest_add_le (by norm_num) (size_close h.qty) sum_size

lemma unit_le_slack (row : Position) : 5 / 10 ^ 7 ≤ slack row := by
  rw [slack]
  linarith [abs_nonneg row.avgPrice.value, abs_nonneg row.qty.value]

end Sizes

end TrxSimulator.Trading.Fills
