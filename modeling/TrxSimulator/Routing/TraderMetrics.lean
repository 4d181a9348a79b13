import Mathlib.Data.Rat.Defs
import Mathlib.Data.Nat.Notation
import TrxSimulator.Foundations.Floats

/-! What the trades of an account say about its trader. The arithmetic of floats is a parameter; times are in
microseconds. -/

namespace TrxSimulator.Routing.TraderMetrics

open Foundations.Decimals Foundations.Floats

structure FloatOps (F : Type*) where
  ofRat : ℚ → F
  add : F → F → F
  sub : F → F → F
  mul : F → F → F
  div : F → F → F
  abs : F → F
  sum : List F → F
  sqrt : F → F
  round : F → ℕ → F
  lt : F → F → Bool
  le : F → F → Bool

structure Trade where
  openedAt : Option ℤ
  closedAt : Option ℤ
  profitLoss : Option ℚ
  lotSize : ℚ
  entryPrice : ℚ
  stopLoss : Option ℚ
  takeProfit : Option ℚ

structure Metrics (F : Type*) where
  n : ℕ
  winRate : F
  profitFactor : F
  avgLotSize : F
  consistencyScore : F
  avgRr : F
  pnlVolatility : F
  martingaleRate : F
  lotGrowthRate : F
  scalpingRatio : F
  avgHoldTimeSeconds : F
  toxicityScore : F
  gamblerScore : F
  tradeFrequency : F
  maxConsecutiveWins : ℕ
  maxConsecutiveLosses : ℕ
  winRateShort : F

inductive TraderClass
  | normal | toxic | scalper | martingale | gambler | risky | elite | consistent
deriving DecidableEq

/-- The time that a trade was held; a comparison with whole seconds is the same on its float. -/
def holdTime (t : Trade) : Option ℤ :=
  match t.closedAt, t.openedAt with
  | some closedAt, some openedAt => if 0 ≤ closedAt - openedAt then some (closedAt - openedAt) else none
  | _, _ => none

def seconds (n : ℤ) : ℤ := n * 1000000

def pnl (t : Trade) : ℚ := t.profitLoss.getD 0

def isSet (price : Option ℚ) : Bool := price.any (· ≠ 0)

section Metrics

variable {F : Type*} (ops : FloatOps F)

def FloatOps.max (a b : F) : F := if ops.lt a b then b else a

def FloatOps.min (a b : F) : F := if ops.lt b a then b else a

def FloatOps.nat (n : ℕ) : F := ops.ofRat n

def calcToxicity (winRateShort avgHold : F) (n : ℕ) : F :=
  if n < 10 ∨ (ops.le winRateShort (ops.nat 0) ∧ ops.le (ops.nat 0) winRateShort) then ops.nat 0
  else
    let base := ops.mul (ops.max (ops.nat 0) (ops.sub winRateShort (ops.nat 50))) (ops.nat 2)
    let holdFactor := ops.max (ops.nat 0) (ops.sub (ops.nat 1) (ops.div avgHold (ops.nat 300)))
    ops.min (ops.nat 100) (ops.mul base (ops.add (ops.ofRat 0.6) (ops.mul (ops.ofRat 0.4) holdFactor)))

def calcGambler (noSlRatio tradeFreq pnlVol : F) : F :=
  let slComponent := ops.mul noSlRatio (ops.nat 40)
  let freqComponent := ops.mul (ops.min (ops.div tradeFreq (ops.nat 10)) (ops.nat 1)) (ops.nat 30)
  let volComponent := ops.mul (ops.min (ops.div pnlVol (ops.nat 5)) (ops.nat 1)) (ops.nat 30)
  ops.min (ops.nat 100) (ops.add (ops.add slComponent freqComponent) volComponent)

structure Streaks where
  maxW : ℕ
  maxL : ℕ
  curW : ℕ
  curL : ℕ

def consecutiveStreaks (pnls : List F) : Streaks :=
  pnls.foldl (fun s p =>
    let curW := if ops.lt (ops.nat 0) p then s.curW + 1 else 0
    let curL := if ops.lt p (ops.nat 0) then s.curL + 1 else 0
    ⟨Nat.max s.maxW curW, Nat.max s.maxL curL, curW, curL⟩) ⟨0, 0, 0, 0⟩

def linearSlopeNormalized (values : List F) : F :=
  let n := values.length
  if n < 3 then ops.nat 0
  else
    let meanX := ops.div (ops.nat (n - 1)) (ops.nat 2)
    let meanY := ops.div (ops.sum values) (ops.nat n)
    let num := ops.sum (values.zipIdx.map fun v => ops.mul (ops.sub (ops.nat v.2) meanX) (ops.sub v.1 meanY))
    let den := ops.sum ((List.range n).map fun i =>
      ops.mul (ops.sub (ops.nat i) meanX) (ops.sub (ops.nat i) meanX))
    let isZero (x : F) : Bool := ops.le x (ops.nat 0) && ops.le (ops.nat 0) x
    if isZero den ∨ isZero meanY then ops.nat 0
    else ops.div (ops.div num den) (ops.add (ops.abs meanY) (ops.ofRat 0.000000001))

def emptyMetrics : Metrics F where
  n := 0
  winRate := ops.nat 0
  profitFactor := ops.nat 0
  avgLotSize := ops.nat 0
  consistencyScore := ops.nat 0
  avgRr := ops.nat 0
  pnlVolatility := ops.nat 0
  martingaleRate := ops.nat 0
  lotGrowthRate := ops.nat 0
  scalpingRatio := ops.nat 0
  avgHoldTimeSeconds := ops.nat 0
  toxicityScore := ops.nat 0
  gamblerScore := ops.nat 0
  tradeFrequency := ops.nat 0
  maxConsecutiveWins := 0
  maxConsecutiveLosses := 0
  winRateShort := ops.nat 0

def winRateOf (shortPairs : List (ℤ × ℚ)) : F :=
  if 5 ≤ shortPairs.length then
    ops.mul (ops.div (ops.nat (shortPairs.countP fun x => 0 < x.2)) (ops.nat shortPairs.length)) (ops.nat 100)
  else ops.nat 0

def short (pairs : List (ℤ × ℚ)) : List (ℤ × ℚ) := pairs.filter fun x => x.1 < seconds 120

def ratios (trades : List Trade) : List F :=
  trades.filterMap fun t =>
    if isSet t.stopLoss ∧ isSet t.takeProfit ∧ t.entryPrice ≠ 0 then
      let entry := ops.ofRat t.entryPrice
      let risk := ops.abs (ops.sub entry (ops.ofRat (t.stopLoss.getD 0)))
      let reward := ops.abs (ops.sub (ops.ofRat (t.takeProfit.getD 0)) entry)
      if ops.lt (ops.nat 0) risk then some (ops.div reward risk) else none
    else none

/-- The metrics of trades, the latest first, with hold times and results paired as given. -/
def metricsOf (pairs : List (ℤ × ℚ)) (trades : List Trade) (now : ℤ) : Metrics F :=
  let n := trades.length
  if n = 0 then emptyMetrics ops
  else
    let zero := ops.nat 0
    let pnls := trades.map fun t => ops.ofRat (pnl t)
    let lotSizes := trades.map fun t => ops.ofRat t.lotSize
    let wins := pnls.countP (ops.lt zero ·)
    let winRate := ops.mul (ops.div (ops.nat wins) (ops.nat n)) (ops.nat 100)
    let grossProfit := ops.sum (pnls.filter (ops.lt zero ·))
    let grossLoss := ops.abs (ops.sum (pnls.filter (ops.lt · zero)))
    let profitFactor := if ops.lt zero grossLoss then ops.div grossProfit grossLoss else ops.nat 999
    let holdTimes := trades.filterMap holdTime
    let avgHoldTime :=
      if holdTimes = [] then zero
      else ops.div (ops.sum (holdTimes.map fun h => ops.ofRat (h / 1000000))) (ops.nat holdTimes.length)
    let scalpingCount := holdTimes.countP fun h => h < seconds 60
    let scalpingRatio := if holdTimes = [] then zero else ops.div (ops.nat scalpingCount) (ops.nat holdTimes.length)
    let winRateShort := winRateOf ops (short pairs)
    let toxicityScore := calcToxicity ops winRateShort avgHoldTime n
    let martingaleTriggers := (trades.zip trades.tail).countP fun x =>
      ops.lt (ops.ofRat (pnl x.2)) zero &&
        ops.lt (ops.mul (ops.ofRat x.2.lotSize) (ops.ofRat 1.5)) (ops.ofRat x.1.lotSize)
    let martingaleRate := ops.div (ops.nat martingaleTriggers) (ops.nat (Nat.max (n - 1) 1))
    let streaks := consecutiveStreaks ops pnls
    let weekCount := trades.countP fun t => t.openedAt.any (now - seconds 604800 ≤ ·)
    let tradeFrequency := ops.div (ops.nat weekCount) (ops.nat 7)
    let rrValues := ratios ops trades
    let avgRr := if rrValues.length = 0 then zero else ops.div (ops.sum rrValues) (ops.nat rrValues.length)
    let meanPnl := ops.div (ops.sum pnls) (ops.nat n)
    let variance := ops.div (ops.sum (pnls.map fun p => ops.mul (ops.sub p meanPnl) (ops.sub p meanPnl)))
      (ops.nat (Nat.max (n - 1) 1))
    let pnlVolatility := ops.div (ops.sqrt variance) (ops.add (ops.abs meanPnl) (ops.nat 1))
    let consistencyScore := ops.max zero (ops.sub (ops.nat 100) (ops.mul pnlVolatility (ops.nat 5)))
    let noSlRatio := ops.div (ops.nat (trades.countP fun t => !isSet t.stopLoss)) (ops.nat n)
    { n := n
      winRate := ops.round winRate 2
      profitFactor := ops.round (ops.min profitFactor (ops.nat 999)) 2
      avgLotSize := ops.round (ops.div (ops.sum lotSizes) (ops.nat n)) 4
      consistencyScore := ops.round consistencyScore 2
      avgRr := ops.round avgRr 3
      pnlVolatility := ops.round pnlVolatility 3
      martingaleRate := ops.round martingaleRate 3
      lotGrowthRate := ops.round (linearSlopeNormalized ops lotSizes.reverse) 4
      scalpingRatio := ops.round scalpingRatio 3
      avgHoldTimeSeconds := ops.round avgHoldTime 1
      toxicityScore := ops.round toxicityScore 2
      gamblerScore := ops.round (calcGambler ops noSlRatio tradeFrequency pnlVolatility) 2
      tradeFrequency := ops.round tradeFrequency 2
      maxConsecutiveWins := streaks.maxW
      maxConsecutiveLosses := streaks.maxL
      winRateShort := ops.round winRateShort 2 }

/-- The hold times that are usable, beside the results at the head of the list. -/
def zipped (trades : List Trade) : List (ℤ × ℚ) :=
  let holdTimes := trades.filterMap holdTime
  holdTimes.zip ((trades.map pnl).take holdTimes.length)

def computeMetrics (trades : List Trade) (now : ℤ) : Metrics F := metricsOf ops (zipped trades) trades now

/-- The first rule that matches decides; `maxLot` is the account's. -/
def classifyTrader (metrics : Metrics F) (maxLot : F) : TraderClass :=
  if metrics.n < 5 then .normal
  else if ops.le (ops.nat 70) metrics.toxicityScore ∧ ops.lt metrics.avgHoldTimeSeconds (ops.nat 120) then .toxic
  else if ops.le (ops.ofRat 0.6) metrics.scalpingRatio then .scalper
  else if ops.lt (ops.ofRat 0.25) metrics.martingaleRate ∧ ops.lt (ops.ofRat 0.3) metrics.lotGrowthRate then
    .martingale
  else if ops.le (ops.nat 60) metrics.gamblerScore then .gambler
  else if ops.lt (ops.mul maxLot (ops.ofRat 0.8)) metrics.avgLotSize then .risky
  else if ops.lt (ops.nat 65) metrics.winRate ∧ ops.lt (ops.nat 2) metrics.profitFactor ∧
      ops.lt (ops.nat 75) metrics.consistencyScore then .elite
  else if ops.lt (ops.nat 55) metrics.winRate ∧ ops.lt (ops.ofRat 1.5) metrics.profitFactor ∧
      ops.lt (ops.nat 60) metrics.consistencyScore then .consistent
  else .normal

/-! Which result a hold time is paired with. -/

def own (trades : List Trade) : List (ℤ × ℚ) := trades.filterMap fun t => (holdTime t).map (·, pnl t)

def share (pairs : List (ℤ × ℚ)) : ℚ := (pairs.countP fun x => 0 < x.2) / pairs.length

/-- The share of winners is the one among the ultra-short trades themselves, and so is the class. -/
def PairedWithItself (trades : List Trade) (now : ℤ) (maxLot : F) : Prop :=
  share (short (zipped trades)) = share (short (own trades)) ∧
    classifyTrader ops (computeMetrics ops trades now) maxLot =
      classifyTrader ops (metricsOf ops (own trades) trades now) maxLot

def usable (t : Trade) : Bool := (holdTime t).isSome

def ultraShort (t : Trade) : Bool := (holdTime t).any (· < seconds 120)

/-- Each ultra-short trade, with the trade that stands in the whole list where it stands among the usable ones. -/
def placed (trades : List Trade) : List (Trade × Trade) := ((trades.filter usable).zip trades).filter (ultraShort ·.1)

/-- As many winners stand at the places of the ultra-short trades as there are among them. -/
def Balanced (trades : List Trade) : Prop :=
  ((placed trades).countP fun x => 0 < pnl x.2) = (placed trades).countP fun x => 0 < pnl x.1

def hold (t : Trade) : ℤ := (holdTime t).getD 0

lemma holdTimes_eq (trades : List Trade) : trades.filterMap holdTime = (trades.filter usable).map hold := by
  induction trades with
  | nil => rfl
  | cons t trades ih =>
    cases h : holdTime t with
    | none => simp [h, usable, ih]
    | some dt => simp [h, usable, hold, ih]

lemma own_eq_map (trades : List Trade) : own trades = (trades.filter usable).map fun t => (hold t, pnl t) := by
  unfold own
  induction trades with
  | nil => rfl
  | cons t trades ih =>
    cases h : holdTime t with
    | none => simp [h, usable, ih]
    | some dt => simp [h, usable, hold, ih]

lemma usable_le (trades : List Trade) : (trades.filter usable).length ≤ trades.length := List.length_filter_le _ _

lemma zipped_eq (trades : List Trade) :
    zipped trades = ((trades.filter usable).zip trades).map fun x => (hold x.1, pnl x.2) := by
  have hle := usable_le trades
  unfold zipped
  dsimp only
  rw [holdTimes_eq]
  generalize trades.filter usable = some at *
  induction some generalizing trades with
  | nil => rfl
  | cons u some ih =>
    cases trades with
    | nil => simp at hle
    | cons t trades => simpa using ih trades (by simpa using hle)

lemma own_eq (trades : List Trade) :
    own trades = ((trades.filter usable).zip trades).map fun x => (hold x.1, pnl x.1) := by
  have hfst : ((trades.filter usable).zip trades).map Prod.fst = trades.filter usable :=
    List.map_fst_zip (usable_le trades)
  rw [own_eq_map, ← hfst, List.map_map]
  simp only [hfst]
  rfl

lemma short_map (trades : List Trade) (result : Trade × Trade → ℚ) :
    short (((trades.filter usable).zip trades).map fun x => (hold x.1, result x)) =
      (placed trades).map fun x => (hold x.1, result x) := by
  unfold short placed
  rw [List.filter_map]
  congr 1
  apply List.filter_congr
  intro x hx
  have husable : usable x.1 = true := (List.mem_filter.mp (List.of_mem_zip hx).1).2
  obtain ⟨dt, hdt⟩ := Option.isSome_iff_exists.mp husable
  simp [ultraShort, hold, hdt]

end Metrics

def doubles : FloatOps ℚ where
  ofRat := float
  add x y := float (x + y)
  sub x y := float (x - y)
  mul x y := float (x * y)
  div x y := float (x / y)
  abs x := |x|
  sum xs := xs.foldl (fun s x => float (s + x)) 0
  sqrt x := float (Nat.sqrt (x * 10 ^ 40).floor.toNat / 10 ^ 20)
  round x n := float (roundHalfEven (x * 10 ^ n) / 10 ^ n)
  lt x y := x < y
  le x y := x ≤ y

def held (profit : ℚ) : Trade := ⟨some 0, some (seconds 90), some profit, 1, 1, some 1, none⟩

/-- The latest trade has its times the wrong way round. -/
def invertedFirst : List Trade :=
  { held 1 with openedAt := some (seconds 180) } :: [1, 1, 1, 1, -1, 1, 1, 1, 1, -1].map held

end TrxSimulator.Routing.TraderMetrics
