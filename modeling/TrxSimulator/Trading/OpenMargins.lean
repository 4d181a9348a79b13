import TrxSimulator.Exposure.Valuation
import TrxSimulator.Trading.Fills
import TrxSimulator.Trading.Openings

/-! The margins that the guard of an open adds up, against the exact margins of the rows that the open leaves. -/

namespace TrxSimulator.Trading.OpenMargins

open Foundations.Tables Foundations.Outcomes Foundations.Decimals Foundations.Floats Foundations.Losses
open Money (precision)
open Market.Symbols Market.Pnl
open Exposure.Valuation (normalize_registered contractSize_pos)
open Writers (Position Fill)
open Fills OpenGuard Openings

section Margins

/-- The margin of a position by the exact arithmetic; what has no conversion counts nothing. -/
def exactMargin (leverage : ℕ) (currency : String) (p : Position) : ℚ :=
  ((getSpec p.symbol).bind (rowMargin exact leverage currency p)).getD 0

def totalMargin (leverage : ℕ) (currency : String) (rows : List Position) : ℚ :=
  (rows.map (exactMargin leverage currency)).sum

def fillMargin (leverage : ℕ) (currency : String) (f : Fill) : ℚ :=
  ((getSpec f.symbol).bind fun spec =>
    calculateRequiredMargin exact f.symbol f.price f.qty (effectiveLeverage leverage spec) currency).getD 0

/-- What the columns may add to the margin of the row that an order is written to. -/
def columnSlack (leverage : ℕ) (p : Position) : ℚ :=
  (getSpec p.symbol).elim 0 fun spec =>
    spec.contractSize / effectiveLeverage leverage spec * slack p

lemma float_ge {x : ℚ} (hx : 0 ≤ x) : (1 - ulp) * x ≤ float x := by
  have h := abs_float_ge x
  rwa [abs_of_nonneg hx, abs_of_nonneg (float_nonneg hx)] at h

lemma decimal_ge {x : ℚ} (hx : 0 ≤ x) : (1 - ulp) * x ≤ context precision x := by
  have h := abs_context_ge (by norm_num [precision] : 17 ≤ precision) x
  rwa [abs_of_nonneg hx, abs_of_nonneg (context_nonneg hx)] at h

variable {symbol currency : String} {spec : SymbolSpec} {leverage lev : ℕ} {p p' q q' : ℚ}

lemma written_left (x : ℚ) : Left ulp 2 |x| |str (float x)| := by
  have hfloat : Left ulp 1 |x| |float x| := (left_self (abs_nonneg x)).round part_ulp (abs_float_ge x)
  exact hfloat.round part_ulp (abs_str_ge (float x))

lemma required_exact (hspec : getSpec symbol = some spec) :
    calculateRequiredMargin exact symbol p q lev currency =
      if spec.quoteCurrency = currency then some (|p * q| * spec.contractSize / max 1 lev)
      else if spec.baseCurrency = currency.toList ∧ p ≠ 0 then some (|q| * spec.contractSize / max 1 lev)
      else none := by
  have hsize := contractSize_pos hspec
  have hnotional : |p * q * spec.contractSize| = |p * q| * spec.contractSize := by rw [abs_mul, abs_of_pos hsize]
  rw [calculateRequiredMargin, calculateMarginNotionalAccountCurrency, normalize_registered hspec, hspec]
  simp only [convertPnlToAccountCurrency, exact, id]
  split
  · rw [Option.map_some, abs_abs, hnotional]
  · split
    · next hbase =>
      have hratio : |(|p * q| * spec.contractSize / p)| = |q| * spec.contractSize := by
        rw [abs_div, abs_mul, abs_abs, abs_of_pos hsize, abs_mul]
        field_simp [abs_ne_zero.mpr hbase.2]
      rw [Option.map_some, hnotional, hratio]
    · rfl

lemma required_python (hspec : getSpec symbol = some spec) :
    calculateRequiredMargin python symbol p q lev currency =
      if spec.quoteCurrency = currency then
        some (float (context precision
          (|context precision (context precision (p * q) * spec.contractSize)| / max 1 lev)))
      else if spec.baseCurrency = currency.toList ∧ p ≠ 0 then
        some (float (context precision (|context precision
          (|context precision (context precision (p * q) * spec.contractSize)| / p)| / max 1 lev)))
      else none := by
  rw [calculateRequiredMargin, calculateMarginNotionalAccountCurrency, normalize_registered hspec, hspec]
  simp only [convertPnlToAccountCurrency, python]
  split
  · rw [Option.map_some, abs_abs]
  · split
    · rfl
    · rfl

lemma context_left {n : ℕ} {x y : ℚ} (h : Left ulp n x |y|) : Left ulp (n + 1) x |context precision y| :=
  h.round part_ulp (abs_context_ge (by norm_num [precision]) y)

/-- Eight roundings lie between the margin of a stored position and what the code makes of it. -/
lemma required_left (lev : ℕ) (currency : String) (hspec : getSpec symbol = some spec)
    (hp : Left ulp 2 |p| |p'|) (hq : Left ulp 2 |q| |q'|) :
    Left ulp 8 ((calculateRequiredMargin exact symbol p q lev currency).getD 0)
      ((calculateRequiredMargin python symbol p' q' lev currency).getD 0) := by
  have hsize := contractSize_pos hspec
  have hlev : (0 : ℚ) ≤ (max 1 lev : ℕ) := Nat.cast_nonneg _
  have hlot : Left ulp 5 (|p| * |q|) |context precision (p' * q')| := by
    apply context_left
    rw [abs_mul]
    exact hp.mul part_ulp hq
  have hnotional : Left ulp 6 (|p| * |q| * spec.contractSize)
      |context precision (context precision (p' * q') * spec.contractSize)| := by
    apply context_left
    rw [abs_mul, abs_of_pos hsize]
    exact hlot.scale hsize.le
  have hfinal : ∀ {n : ℕ} {x y : ℚ}, Left ulp n x y →
      Left ulp (n + 2) (x / (max 1 lev : ℕ)) (float (context precision (y / (max 1 lev : ℕ)))) := by
    intro n x y h
    have hshare := h.divide hlev
    have hrounded := hshare.round part_ulp (decimal_ge (hshare.value_nonneg part_ulp))
    exact hrounded.round part_ulp (float_ge (hrounded.value_nonneg part_ulp))
  rw [required_exact hspec, required_python hspec]
  split
  · rw [Option.getD_some, Option.getD_some, abs_mul]
    exact hfinal hnotional
  · by_cases hbase : spec.baseCurrency = currency.toList ∧ p ≠ 0
    · have hpos : 0 < |p'| := lt_of_lt_of_le
        (mul_pos (pow_pos (by norm_num [ulp]) 2) (abs_pos.mpr hbase.2)) hp.bound
      rw [if_pos hbase, if_pos ⟨hbase.1, abs_pos.mp hpos⟩, Option.getD_some, Option.getD_some]
      -- The price of the position cancels against itself as a rate.
      have hown : Left ulp 4 (|q| * spec.contractSize * |p'|)
          |context precision (context precision (p' * q') * spec.contractSize)| := by
        have hlots : Left ulp 3 (|p'| * |q|) |context precision (p' * q')| := by
          apply context_left
          rw [abs_mul]
          exact (left_self (abs_nonneg p')).mul part_ulp hq
        have hvalue : |q| * spec.contractSize * |p'| = |p'| * |q| * spec.contractSize := by ring
        rw [hvalue]
        apply context_left
        rw [abs_mul, abs_of_pos hsize]
        exact hlots.scale hsize.le
      have hconverted : Left ulp 5 (|q| * spec.contractSize)
          |context precision (|context precision (context precision (p' * q') * spec.contractSize)| / p')| := by
        apply context_left
        have hshare := hown.divide hpos.le
        rw [mul_div_cancel_right₀ _ hpos.ne'] at hshare
        rwa [abs_div, abs_abs]
      exact (hfinal hconverted).weaken part_ulp (by norm_num)
    · rw [if_neg hbase, Option.getD_none]
      refine ⟨le_rfl, ?_⟩
      rw [mul_zero]
      split
      · rw [Option.getD_some]
        apply float_nonneg
        apply context_nonneg
        exact div_nonneg (abs_nonneg _) hlev
      · exact le_rfl

end Margins

section Totals

variable {symbol currency : String} {spec : SymbolSpec} {leverage n : ℕ} {rows : List Position} {p : Position}

lemma row_left (leverage : ℕ) (currency : String) (hspec : getSpec p.symbol = some spec) :
    Left ulp 8 (exactMargin leverage currency p) ((rowMargin python leverage currency p spec).getD 0) := by
  rw [exactMargin, hspec, Option.bind_some]
  exact required_left _ _ hspec (written_left p.avgPrice.value) (written_left p.qty.value)

lemma addMargin_left {x total total' : ℚ} (h : Left ulp (8 + n) x total)
    (hadd : addMargin python leverage currency total p = .ok total') :
    Left ulp (8 + (n + 1)) (x + exactMargin leverage currency p) total' := by
  rw [addMargin, bind_eq_ok] at hadd
  obtain ⟨spec, hspec, hadd⟩ := hadd
  have hrow := (row_left leverage currency (require_eq_ok.mp hspec)).weaken part_ulp
    (Nat.le_add_right 8 n)
  have hsum := h.add hrow
  split at hadd
  · next hnone =>
    rw [pure_eq_ok] at hadd
    rw [hnone, Option.getD_none, add_zero, hadd] at hsum
    exact hsum.weaken part_ulp (Nat.le_succ _)
  · next margin hsome =>
    rw [pure_eq_ok] at hadd
    rw [hsome, Option.getD_some] at hsum
    rw [← hadd]
    exact hsum.round part_ulp (float_ge (hsum.value_nonneg part_ulp))

lemma addMargins_left {x start total : ℚ} (h : Left ulp (8 + n) x start)
    (hfold : rows.foldlM (addMargin python leverage currency) start = .ok total) :
    Left ulp (8 + (n + rows.length)) (x + totalMargin leverage currency rows) total := by
  induction rows generalizing n x start with
  | nil =>
    rw [List.foldlM_nil, pure_eq_ok] at hfold
    simpa [totalMargin, hfold] using h
  | cons p rows ih =>
    rw [List.foldlM_cons, bind_eq_ok] at hfold
    obtain ⟨next, hnext, hfold⟩ := hfold
    have hrest := ih (addMargin_left h hnext) hfold
    have hlength : n + 1 + rows.length = n + (rows.length + 1) := by omega
    rw [hlength, add_assoc x] at hrest
    exact hrest

lemma freshMarginUsed_left {total : ℚ} (h : freshMarginUsed python leverage currency rows = .ok total) :
    Left ulp (8 + rows.length) (totalMargin leverage currency rows) total := by
  have hzero : Left ulp (8 + 0) 0 0 := left_zero ulp 8
  have hfold := addMargins_left hzero h
  rwa [zero_add, zero_add] at hfold

lemma equitySafe_pos (equity : ℚ) : 0 < equitySafe python equity := by
  have hcent := abs_float_ge (1 / 100)
  have hnonneg : (0 : ℚ) ≤ float (1 / 100) := float_nonneg (by norm_num)
  rw [abs_of_nonneg hnonneg] at hcent
  exact lt_max_of_lt_right (lt_of_lt_of_le (by norm_num [ulp]) hcent)

/-- What an order that is let through keeps of the share of the equity, before its columns are written. -/
lemma passed_total {f : Fresh} {snap : AccountSnap} {qty price requiredMargin fillQty : ℚ}
    (hspec : getSpec symbol = some spec) (hpassed : Passed python symbol qty price f snap spec requiredMargin)
    (hqty : Left ulp 2 |fillQty| |str qty|)
    (hused : freshMarginUsed python snap.leverage f.currency rows = .ok f.marginUsed) :
    (1 - ulp) ^ (rows.length + 11) * (totalMargin snap.leverage f.currency rows +
        (calculateRequiredMargin exact symbol (str price) fillQty (effectiveLeverage snap.leverage spec)
          f.currency).getD 0) ≤
      snap.maxTotalMarginPct / 100 * equitySafe python f.equity := by
  have hprice : Left ulp 2 |str price| |str price| :=
    (left_self (abs_nonneg _)).weaken part_ulp (Nat.zero_le 2)
  have hfill := required_left (effectiveLeverage snap.leverage spec) f.currency hspec hprice hqty
  have hrequired : calculateRequiredMargin python symbol (str price) (str qty) (effectiveLeverage snap.leverage spec)
      f.currency = some requiredMargin := hpassed.required
  rw [hrequired, Option.getD_some] at hfill
  have hsum := (freshMarginUsed_left hused).add (hfill.weaken part_ulp (Nat.le_add_right 8 rows.length))
  have htotal := hsum.round part_ulp (float_ge (hsum.value_nonneg part_ulp))
  have hshare := htotal.divide (equitySafe_pos f.equity).le
  have hrounded := hshare.round part_ulp (float_ge (hshare.value_nonneg part_ulp))
  have hpercent := hrounded.scale (by norm_num : (0 : ℚ) ≤ 100)
  have hlast := hpercent.round part_ulp (float_ge (hpercent.value_nonneg part_ulp))
  have hbound := hlast.bound.trans hpassed.total
  have hexponent : 8 + rows.length + 1 + 1 + 1 = rows.length + 11 := by omega
  rw [hexponent, ← mul_assoc, ← mul_div_assoc, div_mul_eq_mul_div, div_le_iff₀ (equitySafe_pos f.equity)] at hbound
  linarith

end Totals

section Written

variable {symbol currency : String} {spec : SymbolSpec} {leverage lev : ℕ} {p q w z e : ℚ}

/-- The margin is a share of the worth where the account is kept in the quote, of the size where in the base. -/
def share (spec : SymbolSpec) (currency : String) (lev : ℕ) (worth size : ℚ) : ℚ :=
  (if spec.quoteCurrency = currency then worth else if spec.baseCurrency = currency.toList then size else 0) *
    (spec.contractSize / (max 1 lev : ℕ))

lemma required_share (hspec : getSpec symbol = some spec) (h : p ≠ 0 ∨ spec.quoteCurrency = currency) :
    (calculateRequiredMargin exact symbol p q lev currency).getD 0 = share spec currency lev |p * q| |q| := by
  rw [required_exact hspec, share]
  split
  · rw [Option.getD_some, mul_div_assoc]
  · next hquote =>
    have hp : p ≠ 0 := h.resolve_right hquote
    split
    · next hbase => rw [Option.getD_some, if_pos hbase.1, mul_div_assoc]
    · next hbase => rw [if_neg fun hb => hbase ⟨hb, hp⟩, Option.getD_none, zero_mul]

lemma required_le_share (hspec : getSpec symbol = some spec) :
    (calculateRequiredMargin exact symbol p q lev currency).getD 0 ≤ share spec currency lev |p * q| |q| := by
  by_cases h : p ≠ 0 ∨ spec.quoteCurrency = currency
  · exact (required_share hspec h).le
  · rw [not_or, not_not] at h
    rw [required_exact hspec, if_neg h.2, if_neg (by simp [h.1]), Option.getD_none, share, if_neg h.2]
    have hfactor : 0 ≤ spec.contractSize / (max 1 lev : ℕ) :=
      div_nonneg (contractSize_pos hspec).le (Nat.cast_nonneg _)
    split
    · exact mul_nonneg (abs_nonneg q) hfactor
    · rw [zero_mul]

lemma share_add (spec : SymbolSpec) (currency : String) (lev : ℕ) (w w' z z' : ℚ) :
    share spec currency lev (w + w') (z + z') = share spec currency lev w z + share spec currency lev w' z' := by
  rw [share, share, share, ← add_mul]
  split
  · rfl
  · split
    · rfl
    · rw [add_zero]

lemma share_le (currency : String) (lev : ℕ) (hspec : getSpec symbol = some spec) (he : 0 ≤ e)
    {u w' z' : ℚ} (hw : u * w ≤ w' + e) (hz : u * z ≤ z' + e) :
    u * share spec currency lev w z ≤ share spec currency lev w' z' + spec.contractSize / (max 1 lev : ℕ) * e := by
  have hfactor : 0 ≤ spec.contractSize / (max 1 lev : ℕ) :=
    div_nonneg (contractSize_pos hspec).le (Nat.cast_nonneg _)
  have hvalue : ∀ {x x' : ℚ}, u * x ≤ x' + e → u * (x * (spec.contractSize / (max 1 lev : ℕ))) ≤
      x' * (spec.contractSize / (max 1 lev : ℕ)) + spec.contractSize / (max 1 lev : ℕ) * e := by
    intro x x' hx
    have hscaled := mul_le_mul_of_nonneg_right hx hfactor
    linarith
  rw [share, share]
  split
  · exact hvalue hw
  · split
    · exact hvalue hz
    · rw [zero_mul, mul_zero, zero_add]
      exact mul_nonneg hfactor he

lemma fillMargin_eq {f : Fill} (leverage : ℕ) (hspec : getSpec f.symbol = some spec)
    (hprice : f.price ≠ 0 ∨ spec.quoteCurrency = currency) :
    fillMargin leverage currency f =
      share spec currency (effectiveLeverage leverage spec) |f.price * f.qty| |f.qty| := by
  rw [fillMargin, hspec, Option.bind_some]
  exact required_share hspec hprice

lemma exactMargin_eq {row : Position} (hspec : getSpec row.symbol = some spec) :
    exactMargin leverage currency row = (calculateRequiredMargin exact row.symbol row.avgPrice.value row.qty.value
      (effectiveLeverage leverage spec) currency).getD 0 := by
  rw [exactMargin, hspec]
  rfl

lemma effectiveLeverage_max (leverage : ℕ) (spec : SymbolSpec) :
    max 1 (effectiveLeverage leverage spec) = effectiveLeverage leverage spec :=
  max_eq_right (le_max_left _ _)

/-- The row that is written carries no more than the margin it is written for, up to its columns. -/
lemma written_le {row : Position} (leverage : ℕ) (currency : String) (hspec : getSpec row.symbol = some spec)
    (hw : (1 - ulp) * |row.avgPrice.value * row.qty.value| ≤ w + slack row)
    (hz : (1 - ulp) * |row.qty.value| ≤ z + 5 / 10 ^ 7) :
    (1 - ulp) * exactMargin leverage currency row ≤
      share spec currency (effectiveLeverage leverage spec) w z + columnSlack leverage row := by
  have hshare := share_le currency (effectiveLeverage leverage spec) hspec (slack_nonneg row) hw
    (hz.trans (add_le_add_right (unit_le_slack row) z))
  have hmargin : exactMargin leverage currency row ≤ share spec currency (effectiveLeverage leverage spec)
      |row.avgPrice.value * row.qty.value| |row.qty.value| := by
    rw [exactMargin_eq hspec]
    exact required_le_share hspec
  rw [effectiveLeverage_max] at hshare
  rw [columnSlack, hspec, Option.elim_some]
  exact (mul_le_mul_of_nonneg_left hmargin part_ulp.rest_nonneg).trans hshare

end Written

section Held

variable {t t' : Table (Option Position)} {k id leverage : ℕ} {currency : String} {spec : SymbolSpec} {f : Fill}
  {merged : Bool}

def marginTerm (k leverage : ℕ) (currency : String) (row : Option Position) : ℚ :=
  (ownRow k row).elim 0 (exactMargin leverage currency)

lemma ownRow_some {p : Position} (h : p.account = k) : ownRow k (some p) = some p := by
  simp [ownRow, h]

lemma marginTerm_own {p : Position} (h : p.account = k) :
    marginTerm k leverage currency (some p) = exactMargin leverage currency p := by
  rw [marginTerm, ownRow_some h, Option.elim_some]

lemma totalMargin_held (t : Table (Option Position)) (k leverage : ℕ) (currency : String) :
    totalMargin leverage currency (held t k) = t.total fun _ row => marginTerm k leverage currency row := by
  rw [totalMargin, held, Table.sum_map_filterMap, Table.total_eq_sum]
  rfl

lemma held_insert {p : Position} (h : p.account = k) : held (t.insert (some p)) k = held t k ++ [p] := by
  rw [held, Table.rows_insert, List.filterMap_append, List.filterMap_cons, ownRow_some h]
  rfl

lemma exactMargin_nonneg (p : Position) : 0 ≤ exactMargin leverage currency p := by
  cases hspec : getSpec p.symbol with
  | none =>
    rw [exactMargin, hspec]
    rfl
  | some spec => exact (row_left leverage currency hspec).nonneg

lemma marginTerm_nonneg (row : Option Position) : 0 ≤ marginTerm k leverage currency row := by
  rw [marginTerm]
  cases ownRow k row with
  | none => exact le_rfl
  | some p => exact exactMargin_nonneg p

/-- A fill adds its own margin to the total, unless the row that it grows was stored without a price. -/
lemma filled_margin (leverage : ℕ) (h : Filled t k f t' id merged) (hspec : getSpec f.symbol = some spec)
    (hprice : f.price ≠ 0 ∨ spec.quoteCurrency = currency)
    (hstored : ∀ p, t.get id = some (some p) → p.avgPrice.units ≠ 0) :
    ∃ row, t'.get id = some (some row) ∧ (1 - ulp) * totalMargin leverage currency (held t' k) ≤
      totalMargin leverage currency (held t k) + (fillMargin leverage currency f + columnSlack leverage row) := by
  have hfill := fillMargin_eq leverage hspec hprice
  rw [totalMargin_held, totalMargin_held]
  refine filled_total h part_ulp (fun _ row _ => marginTerm_nonneg row) (fun _ => rfl) ?_ ?_
  · intro row hopened
    have hsymbol : getSpec row.symbol = some spec := hopened.symbol ▸ hspec
    rw [marginTerm_own hopened.account, hfill]
    exact written_le leverage currency hsymbol hopened.worth hopened.size
  · intro existing row hrow hgrown
    have hold : getSpec existing.symbol = some spec := hgrown.matched.2.1 ▸ hspec
    have hsymbol : getSpec row.symbol = some spec := hgrown.symbol ▸ hold
    have hvalue : existing.avgPrice.value ≠ 0 := by
      have hunits : (existing.avgPrice.units : ℚ) ≠ 0 := by exact_mod_cast hstored existing hrow
      exact div_ne_zero hunits (by norm_num)
    have hwritten := written_le leverage currency hsymbol hgrown.worth hgrown.size
    rw [share_add, ← hfill, ← required_share hold (Or.inl hvalue), ← exactMargin_eq hold] at hwritten
    rw [marginTerm_own (hgrown.account.trans hgrown.matched.1), marginTerm_own hgrown.matched.1, ← add_assoc]
    exact hwritten

end Held

end TrxSimulator.Trading.OpenMargins
