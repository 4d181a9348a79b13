import TrxSimulator.Trading.Rows

/-! One position with its stop and its target: the panels that edit them, and the ticks and scans that close on
them. An edit reads the row and saves it in two steps, a tick or a scan evaluates a copy and closes later. -/

namespace TrxSimulator.Trading.Levels

open Foundations.Tables Foundations.Outcomes Foundations.Decimals Money Writers Rows

structure Row extends Position where
  sl : Option (Numeric 18 6)
  tp : Option (Numeric 18 6)
deriving DecidableEq

/-- What a panel or a scan holds of a position in memory. -/
structure Copy where
  side : Side
  sl : Option ℚ
  tp : Option ℚ
deriving DecidableEq

def Row.copy (r : Row) : Copy where
  side := r.side
  sl := r.sl.map Numeric.value
  tp := r.tp.map Numeric.value

inductive Level
  | sl | tp
deriving DecidableEq

def Level.of {α : Type} (l : Level) (sl tp : Option α) : Option α :=
  match l with
  | .sl => sl
  | .tp => tp

def Level.reached (l : Level) (side : Side) (level px : ℚ) : Bool :=
  match l, side with
  | .sl, .buy | .tp, .sell => decide (px ≤ level)
  | .sl, .sell | .tp, .buy => decide (level ≤ px)

inductive LevelError
  | invalidSlValue | invalidTpValue | invalidSlDirection | invalidTpDirection
deriving DecidableEq

def validateSlTp (side : Side) (sl tp : Option ℚ) (execPrice : ℚ) : Except LevelError Unit :=
  if sl.any fun x => x ≤ 0 then .error .invalidSlValue
  else if tp.any fun x => x ≤ 0 then .error .invalidTpValue
  else if sl.any fun x => Level.sl.reached side x execPrice then .error .invalidSlDirection
  else if tp.any fun x => Level.tp.reached side x execPrice then .error .invalidTpDirection
  else .ok ()

section Rows

def closeRow (r : Row) (closeQty : Option ℚ) : Except TradeError (Option Row) :=
  let q := closeQty.getD r.qty.value
  if q ≤ 0 ∨ r.qty.value < q then .ok (some r)
  else if q = r.qty.value then .ok none
  else do
    let qty ← column 18 6 "qty" (minus r.qty.value q)
    pure (some { r with qty })

structure Merge where
  qty : ℚ
  price : ℚ
  sl : Option ℚ
  tp : Option ℚ

def levelColumn (name : String) (level : Option ℚ) (stored : Option (Numeric 18 6)) :
    Except TradeError (Option (Numeric 18 6)) :=
  match level with
  | none => .ok stored
  | some x => (column 18 6 name x).map some

def mergeRow (r : Row) (m : Merge) : Except TradeError Row :=
  let newQty := plus r.qty.value m.qty
  if newQty = 0 then .error .divisionByZero
  else do
    let newAvg := divide (plus (times r.avgPrice.value r.qty.value) (times m.price m.qty)) newQty
    let avgPrice ← column 18 6 "avg_price" (scaled 6 (quantize 6 newAvg))
    let qty ← column 18 6 "qty" newQty
    let sl ← levelColumn "sl" m.sl r.sl
    let tp ← levelColumn "tp" m.tp r.tp
    pure { r with qty, avgPrice, sl, tp }

/-- The save of an edit writes every column of the row as it was read, under the levels that it was given. -/
def editRow (r : Row) (sl tp : Option ℚ) : Except TradeError Row := do
  let sl ← levelColumn "sl" sl r.sl
  let tp ← levelColumn "tp" tp r.tp
  pure { r with sl, tp }

end Rows

section Machine

inductive Stage
  | queued | read (row : Row) | done
deriving DecidableEq

/-- An edit in flight: the levels that the request named, and those that the panel's copy held before it. -/
structure Edit where
  named : Level → Option ℚ
  held : Level → Option ℚ
  stage : Stage

def Edit.passed (e : Edit) (l : Level) : Option ℚ := (e.named l).or (e.held l)

/-- A close in flight: the level that was evaluated, and the price that reached it. -/
structure Attempt where
  side : Side
  level : Level
  evaluated : ℚ
  price : ℚ
deriving DecidableEq

/-- The row as it was closed, the level's reason and the price of the close. -/
structure Fired where
  row : Row
  level : Level
  closePx : ℚ
deriving DecidableEq

structure Sheet where
  decimals : ℕ
  row : Option Row
  copies : ℕ → Option Copy
  edits : Table Edit
  attempts : Table (Option Attempt)
  fired : Table Fired

inductive Act
  | refresh (reader : ℕ)
  | edit (reader : ℕ) (sl tp refPrice : Option ℚ)
  | read (edit : ℕ)
  | save (edit : ℕ)
  | close (closeQty : Option ℚ)
  | merge (m : Merge)
  | evaluate (reader : ℕ) (bid ask : ℚ)
  | fire (attempt : ℕ)

def setCopy (s : Sheet) (reader : ℕ) (copy : Option Copy) : Sheet :=
  { s with copies := fun j => if j = reader then copy else s.copies j }

def acceptable (c : Copy) (sl tp refPrice : Option ℚ) : Bool :=
  if sl.isNone && tp.isNone then true
  else match refPrice with
  | none => false
  | some px => (validateSlTp c.side sl tp px).isOk

def orderUpdate (s : Sheet) (reader : ℕ) (sl tp refPrice : Option ℚ) : Sheet :=
  match s.copies reader with
  | none => s
  | some c =>
    if acceptable c sl tp refPrice then
      let edit : Edit := { named := fun l => l.of sl tp, held := fun l => l.of c.sl c.tp, stage := .queued }
      { setCopy s reader (some { c with sl := edit.passed .sl, tp := edit.passed .tp }) with
        edits := s.edits.insert edit }
    else s

def setStage (s : Sheet) (edit : ℕ) (stage : Stage) : Sheet :=
  { s with edits := s.edits.update edit fun e => { e with stage } }

def readForEdit (s : Sheet) (edit : ℕ) : Sheet :=
  match s.edits.get edit with
  | some e => match e.stage, s.row with
    | .queued, some r => setStage s edit (.read r)
    | .queued, none => setStage s edit .done
    | _, _ => s
  | none => s

def saveEdit (s : Sheet) (edit : ℕ) : Sheet :=
  match s.edits.get edit with
  | some e => match e.stage with
    | .read r =>
      if (e.passed .sl).isNone && (e.passed .tp).isNone then setStage s edit .done
      else commit (setStage s edit .done)
        ((editRow r (e.passed .sl) (e.passed .tp)).map fun r => { setStage s edit .done with row := some r })
    | _ => s
  | none => s

def writeRow (s : Sheet) (f : Row → Except TradeError (Option Row)) : Sheet :=
  match s.row with
  | none => s
  | some r => commit s ((f r).map fun row => { s with row })

def closingPrice (side : Side) (bid ask : ℚ) : ℚ :=
  match side with
  | .buy => bid
  | .sell => ask

/-- The target decides where both are reached. -/
def evaluated (c : Copy) (px : ℚ) : Option Attempt :=
  if c.tp.any fun x => Level.tp.reached c.side x px then
    c.tp.map fun x => { side := c.side, level := .tp, evaluated := x, price := px }
  else if c.sl.any fun x => Level.sl.reached c.side x px then
    c.sl.map fun x => { side := c.side, level := .sl, evaluated := x, price := px }
  else none

def checkTpSl (s : Sheet) (reader : ℕ) (bid ask : ℚ) : Sheet :=
  match s.copies reader with
  | none => s
  | some c => match evaluated c (closingPrice c.side bid ask) with
    | none => s
    | some a => { s with attempts := s.attempts.insert (some a) }

def roundTo (decimals : ℕ) (px : ℚ) : ℚ := scaled decimals (quantize decimals px)

def fireAttempt (s : Sheet) (attempt : ℕ) : Sheet :=
  match s.attempts.get attempt, s.row with
  | some (some a), some r =>
    { s with row := none
             attempts := s.attempts.update attempt fun _ => none
             fired := s.fired.insert { row := r, level := a.level, closePx := roundTo s.decimals a.price } }
  | _, _ => s

def step (s : Sheet) : Act → Sheet
  | .refresh reader => setCopy s reader (s.row.map Row.copy)
  | .edit reader sl tp refPrice => orderUpdate s reader sl tp refPrice
  | .read edit => readForEdit s edit
  | .save edit => saveEdit s edit
  | .close closeQty => writeRow s fun r => closeRow r closeQty
  | .merge m => writeRow s fun r => (mergeRow r m).map some
  | .evaluate reader bid ask => checkTpSl s reader bid ask
  | .fire attempt => fireAttempt s attempt

end Machine

section Floor

variable {t t' : Table (Option Position)} {s : Floor} {r r' : Row} {i k : ℕ} {f : Fill} {sl tp : Option ℚ}

lemma closeRow_reduces {q : ℚ} (h : Reduces t i r.toPosition q t') (hrow : t.get i = some (some r.toPosition))
    (h0 : 0 < q) (hle : q ≤ r.qty.value) :
    ∃ row, closeRow r (some q) = .ok row ∧ t'.get i = some (row.map Row.toPosition) := by
  have hbounds : ¬ (q ≤ 0 ∨ r.qty.value < q) := by
    rw [not_or, not_le, not_lt]
    exact ⟨h0, hle⟩
  cases h with
  | full h =>
    refine ⟨none, ?_, Table.get_update_self hrow _⟩
    simp only [closeRow, Option.getD_some, if_neg hbounds, if_pos h]
  | @rest qty h hqty =>
    refine ⟨some { r with qty }, ?_, Table.get_update_self hrow _⟩
    simp only [closeRow, Option.getD_some, if_neg hbounds, if_neg h, column, hqty]
    rfl

lemma mergeRow_execute (hnetting : f.nettingMode = true)
    (hfirst : s.positions.first (mergesWith k f) = some (i, some r.toPosition))
    (h : mergeRow r { qty := f.qty, price := f.price, sl, tp } = .ok r') :
    ∃ s', execute s k f = .ok (s', i, true) ∧ s'.positions = s.positions.update i fun _ => some r'.toPosition := by
  rw [mergeRow, guard_eq_ok] at h
  obtain ⟨hsum, h⟩ := h
  simp only [bind_eq_ok, pure_eq_ok] at h
  obtain ⟨avgPrice, havg, qty, hqty, sl', -, tp', -, rfl⟩ := h
  refine ⟨{ s with positions := s.positions.update i fun _ => some { r.toPosition with qty, avgPrice } }, ?_, rfl⟩
  simp only [execute, hnetting, if_true, hfirst, if_neg hsum, havg, hqty]
  rfl

end Floor

end TrxSimulator.Trading.Levels
