import Mathlib.Data.List.Sort
import Mathlib.Data.Rat.Defs
import Mathlib.Algebra.Order.Ring.Rat
import TrxSimulator.Foundations.Groups

/-! The candles that a connection draws of the symbol it shows, from the ticks, the trades or the one-minute bars of its
feed. There is one accumulator, of the bucket that was last there. -/

namespace TrxSimulator.Market.Candles

open Foundations.Runs Foundations.Groups

inductive Timeframe
  | s1 | m1 | m5 | m15 | h1 | h4 | d1
deriving DecidableEq

def tfSeconds : Timeframe → ℤ
  | .s1 => 1
  | .m1 => 60
  | .m5 => 300
  | .m15 => 900
  | .h1 => 3600
  | .h4 => 14400
  | .d1 => 86400

/-- A tick, or a trade with its size. -/
structure Tick where
  price : ℚ
  volume : Option ℚ
  ts : ℤ
deriving DecidableEq

/-- What an exchange says of one minute, which it repeats while the minute lasts. -/
structure SubBar where
  time : ℤ
  o : ℚ
  h : ℚ
  l : ℚ
  c : ℚ
  v : ℚ
deriving DecidableEq

structure Bar where
  t0 : ℤ
  o : ℚ
  h : ℚ
  l : ℚ
  c : ℚ
  v : ℚ
deriving DecidableEq

/-- There is no bar after a reset, and there are minutes only where the feed sends minutes. -/
structure Aggregate where
  tfSec : ℤ
  bar : Option Bar
  minuteBars : Option (List SubBar)
deriving DecidableEq

structure Candle where
  time : ℤ
  o : ℚ
  h : ℚ
  l : ℚ
  c : ℚ
deriving DecidableEq

inductive Message
  | candleNew (data : Candle)
  | candleUpdate (data : Candle)
  | volumeUpdate (time : ℤ) (value : ℚ) (color : String)
deriving DecidableEq

structure Chart where
  timeframe : Timeframe
  agg : Option Aggregate
  tradeAgg : Option Aggregate
  lastBarTime : Option ℤ
  sent : List Message

def opened (timeframe : Timeframe) : Chart := ⟨timeframe, none, none, none, []⟩

def resetAgg (timeframe : Timeframe) : Aggregate := ⟨tfSeconds timeframe, none, none⟩

def candle (acc : Bar) : Candle := ⟨acc.t0, acc.o, acc.h, acc.l, acc.c⟩

def emitBar (s : Chart) (acc : Bar) : Chart :=
  let volume := .volumeUpdate acc.t0 acc.v (if acc.o ≤ acc.c then "#26a69a" else "#f44336")
  if ∀ t, s.lastBarTime = some t → t < acc.t0 then
    { s with lastBarTime := some acc.t0, sent := s.sent ++ [.candleNew (candle acc), volume] }
  else { s with sent := s.sent ++ [.candleUpdate (candle acc), volume] }

def emitTradeBar (s : Chart) (acc : Bar) : Chart := emitBar s acc

section Ticks

-- `add` is the sum of two floats.
variable (add : ℚ → ℚ → ℚ)

def size (tick : Tick) : ℚ := tick.volume.getD 0

def openBar (bucket : ℤ) (tick : Tick) : Bar := ⟨bucket, tick.price, tick.price, tick.price, tick.price, size tick⟩

def extendBar (bar : Bar) (tick : Tick) : Bar :=
  { bar with c := tick.price, h := max bar.h tick.price, l := min bar.l tick.price, v := add bar.v (size tick) }

def accumulator (timeframe : Timeframe) : Option Aggregate → Aggregate
  | none => resetAgg timeframe
  | some acc => if acc.tfSec = tfSeconds timeframe then acc else resetAgg timeframe

def nextBar (acc : Aggregate) (tick : Tick) : Bar :=
  let bucket := tick.ts / acc.tfSec * acc.tfSec
  match acc.bar with
  | none => openBar bucket tick
  | some bar => if bucket = bar.t0 then extendBar add bar tick else openBar bucket tick

def onTick (s : Chart) (tick : Tick) : Chart :=
  let acc := accumulator s.timeframe s.agg
  let bar := nextBar add acc tick
  emitBar { s with agg := some { acc with bar := some bar } } bar

def priceTrade (s : Chart) (trade : Tick) : Chart :=
  let acc := accumulator s.timeframe s.tradeAgg
  let bar := nextBar add acc trade
  emitTradeBar { s with tradeAgg := some { acc with bar := some bar } } bar

end Ticks

section Minutes

-- `sum` is the built-in one, of a list of floats.
variable (sum : List ℚ → ℚ)

/-- A minute that is there keeps its place. -/
def put : List SubBar → SubBar → List SubBar
  | [], bar => [bar]
  | m :: rest, bar => if m.time = bar.time then bar :: rest else m :: put rest bar

def minutesBar (bucket : ℤ) (mbs : List SubBar) : Bar :=
  let ordered := mbs.insertionSort fun a b => a.time ≤ b.time
  { t0 := bucket
    o := (ordered.head?.map SubBar.o).getD 0
    h := (mbs.map SubBar.h).max?.getD 0
    l := (mbs.map SubBar.l).min?.getD 0
    c := (ordered.getLast?.map SubBar.c).getD 0
    v := sum (mbs.map SubBar.v) }

def minutesAccumulator (tfSec bucket : ℤ) : Option Aggregate → Aggregate
  | none => ⟨tfSec, none, some []⟩
  | some acc => if acc.tfSec = tfSec ∧ acc.bar.map Bar.t0 = some bucket then acc else ⟨tfSec, none, some []⟩

/-- An accumulator of ticks has no minutes, and to look for them in it raises. -/
def candleKline (s : Chart) (bar : SubBar) : Chart :=
  let tfSec := tfSeconds s.timeframe
  let bucket := bar.time / tfSec * tfSec
  let acc := minutesAccumulator tfSec bucket s.agg
  match acc.minuteBars with
  | none => s
  | some minuteBars =>
    let mbs := put minuteBars bar
    let next := minutesBar sum bucket mbs
    emitBar { s with agg := some ⟨acc.tfSec, some next, some mbs⟩ } next

end Minutes

section Emitted

def candleAt (k : ℤ) : Message → Option Candle
  | .candleNew c | .candleUpdate c => if c.time = k then some c else none
  | .volumeUpdate .. => none

def volumeAt (k : ℤ) : Message → Option ℚ
  | .volumeUpdate time value _ => if time = k then some value else none
  | _ => none

/-- The last candle and the last volume of a bucket, which is what the client shows of it. -/
def lastBar (sent : List Message) (k : ℤ) : Option Candle × Option ℚ :=
  ((sent.filterMap (candleAt k)).getLast?, (sent.filterMap (volumeAt k)).getLast?)

def asSent (bar : Option Bar) : Option Candle × Option ℚ := (bar.map candle, bar.map Bar.v)

end Emitted

section Wanted

variable (timeframe : Timeframe) (k : ℤ)

def bucketOf (ts : ℤ) : ℤ := ts / tfSeconds timeframe * tfSeconds timeframe

/-- The bar of all the ticks of a bucket, in the order in which they came. -/
def tickBar (add : ℚ → ℚ → ℚ) (ticks : List Tick) : Option Bar :=
  match ticks.filter fun t => bucketOf timeframe t.ts = k with
  | [] => none
  | first :: rest => some
    { t0 := k
      o := first.price
      h := rest.foldl (fun h t => max h t.price) first.price
      l := rest.foldl (fun l t => min l t.price) first.price
      c := (rest.getLast?.getD first).price
      v := rest.foldl (fun v t => add v (size t)) (size first) }

/-- The last version of each minute, the minutes in the order in which they were first there. -/
def versions (bars : List SubBar) : List SubBar := bars.foldl put []

def klineBar (sum : List ℚ → ℚ) (bars : List SubBar) : Option Bar :=
  match bars.filter fun b => bucketOf timeframe b.time = k with
  | [] => none
  | first :: rest => some (minutesBar sum k (versions (first :: rest)))

end Wanted

section Emission

variable {s : Chart} {acc : Bar} {k : ℤ}

@[simp] lemma candleAt_candleNew (c : Candle) : candleAt k (.candleNew c) = if c.time = k then some c else none := rfl

@[simp] lemma candleAt_candleUpdate (c : Candle) :
    candleAt k (.candleUpdate c) = if c.time = k then some c else none := rfl

@[simp] lemma candleAt_volumeUpdate (time : ℤ) (value : ℚ) (color : String) :
    candleAt k (.volumeUpdate time value color) = none := rfl

@[simp] lemma volumeAt_candleNew (c : Candle) : volumeAt k (.candleNew c) = none := rfl

@[simp] lemma volumeAt_candleUpdate (c : Candle) : volumeAt k (.candleUpdate c) = none := rfl

@[simp] lemma volumeAt_volumeUpdate (time : ℤ) (value : ℚ) (color : String) :
    volumeAt k (.volumeUpdate time value color) = if time = k then some value else none := rfl

lemma lastBar_emitBar : lastBar (emitBar s acc).sent k = if acc.t0 = k then asSent (some acc) else lastBar s.sent k := by
  simp only [emitBar]
  by_cases hk : acc.t0 = k
  · split <;> simp [lastBar, asSent, candle, List.filterMap_cons, hk]
  · split <;> simp [lastBar, candle, List.filterMap_cons, hk]

lemma emitBar_timeframe : (emitBar s acc).timeframe = s.timeframe := by
  simp only [emitBar]
  split <;> rfl

lemma emitBar_agg : (emitBar s acc).agg = s.agg := by
  simp only [emitBar]
  split <;> rfl

end Emission

end TrxSimulator.Market.Candles
