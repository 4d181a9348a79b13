import TrxSimulator.Foundations.Runs
import TrxSimulator.Foundations.Tables
import TrxSimulator.Market.Quotes

/-! The prices of one symbol in Redis: the feed manager's writes, command by command, and the daemon's reads. -/

namespace TrxSimulator.Market.PriceCache

open Foundations.Runs Foundations.Tables Quotes

structure Tick where
  bid : Number
  ask : Number
  source : String
deriving DecidableEq

inductive Key
  | bid | ask | source
deriving DecidableEq

/-- A stored value, and which tick wrote it. -/
structure Cell (α : Type) where
  value : α
  tick : ℕ
deriving DecidableEq

/-- What a read returned, and how many commands the writer had executed when each key was read. -/
structure Quote where
  bid : Cell Number
  ask : Cell Number
  source : Cell String
  bidAt : ℕ
  askAt : ℕ
  sourceAt : ℕ
deriving DecidableEq

inductive Stage
  | begun
  | gotBid (bid : Option (Cell Number)) (bidAt : ℕ)
  | gotAsk (bid ask : Cell Number) (bidAt askAt : ℕ)
  | returned (quote : Option Quote)
deriving DecidableEq

/-- One thread executes the writes, so the commands of the ticks follow one another: bid, ask and source of each. -/
structure Cache where
  symbol : String
  ticks : Table Tick
  executed : ℕ
  bid : Option (Cell Number)
  ask : Option (Cell Number)
  source : Option (Cell String)
  reads : Table Stage

inductive Act
  | tick (tick : Tick)
  | setex
  | expire (key : Key)
  | begin
  | get (read : ℕ)
  | fail (read : ℕ)

def setex (s : Cache) : Cache :=
  let i := s.executed / 3
  match s.ticks.get i with
  | none => s
  | some t =>
    if s.executed % 3 = 0 then { s with executed := s.executed + 1, bid := some ⟨t.bid, i⟩ }
    else if s.executed % 3 = 1 then { s with executed := s.executed + 1, ask := some ⟨t.ask, i⟩ }
    else { s with executed := s.executed + 1, source := some ⟨t.source, i⟩ }

def expire (s : Cache) : Key → Cache
  | .bid => { s with bid := none }
  | .ask => { s with ask := none }
  | .source => { s with source := none }

/-- The next command of a read; `float` gives back the number that `str` wrote. -/
def readCachedPrice (s : Cache) : Stage → Stage
  | .begun => .gotBid s.bid s.executed
  | .gotBid bid bidAt =>
    match bid, s.ask with
    | some bid, some ask => .gotAsk bid ask bidAt s.executed
    | _, _ => .returned none
  | .gotAsk bid ask bidAt askAt =>
    match s.source with
    | none => .returned none
    | some source =>
      if source.value = "sim" then .returned none
      else if validateQuoteValues s.symbol (some bid.value) (some ask.value) = false then .returned none
      else .returned (some { bid, ask, source, bidAt, askAt, sourceAt := s.executed })
  | .returned quote => .returned quote

/-- A command that raises ends its read without a price. -/
def failRead : Stage → Stage
  | .returned quote => .returned quote
  | _ => .returned none

def step (s : Cache) : Act → Cache
  | .tick tick => { s with ticks := s.ticks.insert tick }
  | .setex => setex s
  | .expire key => expire s key
  | .begin => { s with reads := s.reads.insert .begun }
  | .get read => { s with reads := s.reads.update read (readCachedPrice s) }
  | .fail read => { s with reads := s.reads.update read failRead }

def start (symbol : String) : Cache := ⟨symbol, Table.empty, 0, none, none, none, Table.empty⟩

/-- How many ticks have their bid, their ask and their source among the first commands of the writer. -/
def bidsWritten (n : ℕ) : ℕ := (n + 2) / 3
def asksWritten (n : ℕ) : ℕ := (n + 1) / 3
def sourcesWritten (n : ℕ) : ℕ := n / 3

/-- Each key is read when the writer has written that key of the same number of ticks. -/
def InStep (q : Quote) : Prop :=
  bidsWritten q.bidAt = asksWritten q.askAt ∧ asksWritten q.askAt = sourcesWritten q.sourceAt

def OneTick (ticks : Table Tick) (q : Quote) : Prop :=
  q.bid.tick = q.ask.tick ∧ q.ask.tick = q.source.tick ∧
    ∃ t ∈ ticks.get q.source.tick, t = ⟨q.bid.value, q.ask.value, q.source.value⟩ ∧ t.source ≠ "sim"

instance (q : Quote) : Decidable (InStep q) := by
  unfold InStep
  infer_instance

instance (ticks : Table Tick) (q : Quote) : Decidable (OneTick ticks q) := by
  unfold OneTick
  infer_instance

/-- The cell holds what the last of the ticks counted so far wrote. -/
def WrittenAt {α : Type} (ticks : Table Tick) (field : Tick → α) (count : ℕ) (c : Cell α) : Prop :=
  c.tick + 1 = count ∧ (ticks.get c.tick).map field = some c.value

def Seen (ticks : Table Tick) : Stage → Prop
  | .begun => True
  | .gotBid bid bidAt => ∀ c ∈ bid, WrittenAt ticks Tick.bid (bidsWritten bidAt) c
  | .gotAsk bid ask bidAt askAt =>
    WrittenAt ticks Tick.bid (bidsWritten bidAt) bid ∧ WrittenAt ticks Tick.ask (asksWritten askAt) ask
  | .returned quote => ∀ q ∈ quote,
    WrittenAt ticks Tick.bid (bidsWritten q.bidAt) q.bid ∧ WrittenAt ticks Tick.ask (asksWritten q.askAt) q.ask ∧
      WrittenAt ticks Tick.source (sourcesWritten q.sourceAt) q.source ∧ q.source.value ≠ "sim"

structure Consistent (s : Cache) : Prop where
  bid : ∀ c ∈ s.bid, WrittenAt s.ticks Tick.bid (bidsWritten s.executed) c
  ask : ∀ c ∈ s.ask, WrittenAt s.ticks Tick.ask (asksWritten s.executed) c
  source : ∀ c ∈ s.source, WrittenAt s.ticks Tick.source (sourcesWritten s.executed) c
  reads : ∀ k stage, s.reads.get k = some stage → Seen s.ticks stage

section Steps

variable {α : Type} {s : Cache} {ticks : Table Tick} {field : Tick → α} {n m : ℕ} {c : Cell α} {t : Tick}

lemma written_tick (h : WrittenAt ticks field n c) (t : Tick) : WrittenAt (ticks.insert t) field n c := by
  obtain ⟨hcount, hvalue⟩ := h
  obtain ⟨old, hold, hfield⟩ := Option.map_eq_some_iff.mp hvalue
  refine ⟨hcount, ?_⟩
  rw [Table.get_insert_of_get hold, Option.map_some, hfield]

lemma seen_tick {stage : Stage} (h : Seen ticks stage) (t : Tick) : Seen (ticks.insert t) stage := by
  cases stage with
  | begun => trivial
  | gotBid bid bidAt => exact fun c hc => written_tick (h c hc) t
  | gotAsk bid ask bidAt askAt => exact ⟨written_tick h.1 t, written_tick h.2 t⟩
  | returned quote =>
    intro q hq
    obtain ⟨hbid, hask, hsource, hreal⟩ := h q hq
    exact ⟨written_tick hbid t, written_tick hask t, written_tick hsource t, hreal⟩

lemma consistent_tick (h : Consistent s) (t : Tick) : Consistent { s with ticks := s.ticks.insert t } :=
  ⟨fun c hc => written_tick (h.bid c hc) t, fun c hc => written_tick (h.ask c hc) t,
    fun c hc => written_tick (h.source c hc) t, fun k stage hk => seen_tick (h.reads k stage hk) t⟩

lemma written_count (h : WrittenAt ticks field n c) (hn : m = n) : WrittenAt ticks field m c := hn ▸ h

lemma consistent_setex (h : Consistent s) : Consistent (setex s) := by
  have hcount : s.executed = 3 * (s.executed / 3) + s.executed % 3 := (Nat.div_add_mod _ 3).symm
  have hrest : s.executed % 3 < 3 := Nat.mod_lt _ (by norm_num)
  rw [setex]
  split
  · exact h
  · next t ht =>
    split_ifs with hbidKey haskKey
    · refine ⟨fun c hc => ?_, fun c hc => ?_, fun c hc => ?_, h.reads⟩
      · obtain rfl := Option.some.inj hc
        refine ⟨?_, by rw [ht]; rfl⟩
        simp only [bidsWritten]
        omega
      · apply written_count (h.ask c hc)
        simp only [asksWritten]
        omega
      · apply written_count (h.source c hc)
        simp only [sourcesWritten]
        omega
    · refine ⟨fun c hc => ?_, fun c hc => ?_, fun c hc => ?_, h.reads⟩
      · apply written_count (h.bid c hc)
        simp only [bidsWritten]
        omega
      · obtain rfl := Option.some.inj hc
        refine ⟨?_, by rw [ht]; rfl⟩
        simp only [asksWritten]
        omega
      · apply written_count (h.source c hc)
        simp only [sourcesWritten]
        omega
    · refine ⟨fun c hc => ?_, fun c hc => ?_, fun c hc => ?_, h.reads⟩
      · apply written_count (h.bid c hc)
        simp only [bidsWritten]
        omega
      · apply written_count (h.ask c hc)
        simp only [asksWritten]
        omega
      · obtain rfl := Option.some.inj hc
        refine ⟨?_, by rw [ht]; rfl⟩
        simp only [sourcesWritten]
        omega

lemma consistent_expire (h : Consistent s) (key : Key) : Consistent (expire s key) := by
  cases key with
  | bid => exact ⟨fun c hc => (by cases hc), h.ask, h.source, h.reads⟩
  | ask => exact ⟨h.bid, fun c hc => (by cases hc), h.source, h.reads⟩
  | source => exact ⟨h.bid, h.ask, fun c hc => (by cases hc), h.reads⟩

lemma seen_get (h : Consistent s) {stage : Stage} (hstage : Seen s.ticks stage) :
    Seen s.ticks (readCachedPrice s stage) := by
  cases stage with
  | begun => exact h.bid
  | gotBid bid bidAt =>
    unfold readCachedPrice
    dsimp only
    split
    · next c ask hask => exact ⟨hstage c rfl, h.ask ask hask⟩
    · exact fun q hq => (by cases hq)
  | gotAsk bid ask bidAt askAt =>
    rw [readCachedPrice]
    split
    · exact fun q hq => (by cases hq)
    · next source hsource =>
      split
      · exact fun q hq => (by cases hq)
      · next hreal =>
        split
        · exact fun q hq => (by cases hq)
        · intro q hq
          obtain rfl := Option.some.inj hq
          exact ⟨hstage.1, hstage.2, h.source source hsource, hreal⟩
  | returned quote => exact hstage

lemma seen_fail {stage : Stage} (h : Seen s.ticks stage) : Seen s.ticks (failRead stage) := by
  cases stage with
  | returned quote => exact h
  | begun | gotBid _ _ | gotAsk _ _ _ _ => exact fun q hq => (by cases hq)

lemma consistent_read (h : Consistent s) {k : ℕ} {f : Stage → Stage}
    (hf : ∀ stage, Seen s.ticks stage → Seen s.ticks (f stage)) :
    Consistent { s with reads := s.reads.update k f } := by
  refine ⟨h.bid, h.ask, h.source, fun j stage hstage => ?_⟩
  obtain ⟨old, hold, rfl⟩ := Table.get_update_some hstage
  split
  · exact hf old (h.reads j old hold)
  · exact h.reads j old hold

lemma consistent_step (h : Consistent s) (a : Act) : Consistent (step s a) := by
  cases a with
  | tick tick => exact consistent_tick h tick
  | setex => exact consistent_setex h
  | expire key => exact consistent_expire h key
  | begin =>
    refine ⟨h.bid, h.ask, h.source, fun k stage hstage => ?_⟩
    obtain hold | ⟨-, rfl⟩ := Table.get_insert_some hstage
    · exact h.reads k stage hold
    · trivial
  | get read => exact consistent_read h fun _ => seen_get h
  | fail read => exact consistent_read h fun _ => seen_fail

lemma consistent_run (h : Consistent s) (acts : List Act) : Consistent (run step s acts) :=
  run_invariant (I := Consistent) (fun _ a hs => consistent_step hs a) h acts

lemma consistent_start (symbol : String) : Consistent (start symbol) :=
  ⟨fun _ h => (by cases h), fun _ h => (by cases h), fun _ h => (by cases h), fun _ _ h => (by cases h)⟩

lemma written_tick_eq (h : WrittenAt ticks field n c) (ht : ticks.get c.tick = some t) : field t = c.value := by
  have hvalue := h.2
  rw [ht] at hvalue
  exact Option.some.inj hvalue

end Steps

/-- A price that the daemon uses comes from one tick, which is not synthetic, exactly if each of its keys is read
when the writer has written that key of the same number of ticks. -/
theorem returned_of_one_tick_iff (symbol : String) (acts : List Act) (k : ℕ) (q : Quote)
    (h : (run step (start symbol) acts).reads.get k = some (.returned (some q))) :
    OneTick (run step (start symbol) acts).ticks q ↔ InStep q := by
  have hconsistent := consistent_run (consistent_start symbol) acts
  obtain ⟨hbid, hask, hsource, hreal⟩ := hconsistent.reads k _ h q rfl
  have hsame : q.bid.tick = q.ask.tick ∧ q.ask.tick = q.source.tick ↔ InStep q := by
    rw [InStep, ← hbid.1, ← hask.1, ← hsource.1]
    omega
  constructor
  · rintro ⟨hba, has, -⟩
    exact hsame.mp ⟨hba, has⟩
  · intro hstep
    obtain ⟨hba, has⟩ := hsame.mpr hstep
    obtain ⟨t, ht, htsource⟩ := Option.map_eq_some_iff.mp hsource.2
    have htask : t.ask = q.ask.value := written_tick_eq hask (by rw [has, ht])
    have htbid : t.bid = q.bid.value := written_tick_eq hbid (by rw [hba, has, ht])
    refine ⟨hba, has, t, ht, ?_, by rw [htsource]; exact hreal⟩
    cases t
    subst htask htbid htsource
    rfl

def quoted (bid ask : ℚ) (source : String) : Act := .tick ⟨.finite bid, .finite ask, source⟩

def tickWritten (bid ask : ℚ) (source : String) : List Act := [quoted bid ask source, .setex, .setex, .setex]

def onePriceThenNext : List Act :=
  tickWritten (117 / 100) (11701 / 10000) "massive" ++
    [.begin, .get 0, .get 0, quoted (118 / 100) (11801 / 10000) "massive", .setex, .get 0]

theorem returned_of_one_tick_iff_example :
    ∃ q, (run step (start "EUR/USD") onePriceThenNext).reads.get 0 = some (.returned (some q)) ∧
      OneTick (run step (start "EUR/USD") onePriceThenNext).ticks q := by
  let q : Quote := ⟨⟨.finite (117 / 100), 0⟩, ⟨.finite (11701 / 10000), 0⟩, ⟨"massive", 0⟩, 3, 3, 4⟩
  have hq : (run step (start "EUR/USD") onePriceThenNext).reads.get 0 = some (.returned (some q)) := by
    decide +kernel
  exact ⟨q, hq, (returned_of_one_tick_iff "EUR/USD" onePriceThenNext 0 q hq).mpr (by decide +kernel)⟩

/-- A tick between the read of the bid and that of the ask; and a synthetic bid and ask read while the source is
still that of the tick before. -/
def tornReads : List (List Act) :=
  [tickWritten (117 / 100) (11701 / 10000) "massive" ++ [.begin, .get 0] ++
      tickWritten (125 / 100) (12501 / 10000) "massive" ++ [.get 0, .get 0],
    tickWritten (117 / 100) (11701 / 10000) "massive" ++
      [quoted 1 (10002 / 10000) "sim", .setex, .setex, .begin, .get 0, .get 0, .get 0]]

theorem torn_reads_returned :
    (∀ acts ∈ tornReads, ((run step (start "EUR/USD") acts).reads.get 0).any (fun
      | .returned (some q) => decide (¬ OneTick (run step (start "EUR/USD") acts).ticks q)
      | _ => false) = true) ∧
      ∃ acts ∈ tornReads, ((run step (start "EUR/USD") acts).reads.get 0).any (fun
        | .returned (some q) =>
          ((run step (start "EUR/USD") acts).ticks.get q.bid.tick).any fun t => decide (t.source = "sim")
        | _ => false) = true := by
  decide +kernel

end TrxSimulator.Market.PriceCache
