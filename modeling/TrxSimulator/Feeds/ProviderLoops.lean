import TrxSimulator.Feeds.Fields
import TrxSimulator.Market.FeedState

/-! The loops that read a symbol's prices from Binance, Kraken and Finnhub: attempts to connect, the messages of each
connection, and the count of failures after which a loop gives up. -/

namespace TrxSimulator.Feeds.ProviderLoops

open Fields Foundations.Floats Market.Quotes Market.Symbols Market.FeedState

structure Tick where
  bid : Number
  ask : Number
deriving DecidableEq

/-- The ticks that a message broadcasts, and whether it ends in an exception. -/
structure Served where
  ticks : List Tick
  raised : Bool
deriving DecidableEq

def Served.ofExcept : Except ReadError (List Tick) → Served
  | .ok ticks => ⟨ticks, false⟩
  | .error _ => ⟨[], true⟩

def below : Number → Number → Bool
  | .nan, _ | _, .nan => false
  | .finite x, .finite y => decide (x < y)
  | .infinite negative, .finite _ => negative
  | .finite _, .infinite negative => !negative
  | .infinite negative, .infinite negative' => negative && !negative'

def valid (tick : Tick) : Bool := tick.bid.positive && below tick.bid tick.ask

structure Ohlc where
  time : Field
  opening : Field
  high : Field
  low : Field
  closing : Field
  volume : Field

def Ohlc.read (k : Ohlc) : Except ReadError Unit := do
  let _ ← k.opening.toFloat
  let _ ← k.high.toFloat
  let _ ← k.low.toFloat
  let _ ← k.closing.toFloat
  let _ ← k.volume.toFloat

inductive BinanceMessage
  | malformed
  | bookTicker (b a : Field)
  | kline (k : Ohlc)
  | other

def binanceMessage : BinanceMessage → Served
  | .malformed => ⟨[], true⟩
  | .bookTicker b a => .ofExcept do
    let b ← b.orZero.toFloat
    let a ← a.orZero.toFloat
    pure (if valid ⟨b, a⟩ then [⟨b, a⟩] else [])
  | .kline k => .ofExcept do
    let opened ← k.time.orZero.toInt
    if 0 < opened then k.read
    pure []
  | .other => ⟨[], false⟩

inductive KrakenMessage
  | malformed
  | event
  | ticker (b a : Field)
  | ohlc (k : Ohlc)
  | other

def krakenMessage : KrakenMessage → Served
  | .malformed => ⟨[], true⟩
  | .event | .other => ⟨[], false⟩
  | .ticker b a => .ofExcept do
    let bid ← b.toFloat
    let ask ← a.toFloat
    pure (if valid ⟨bid, ask⟩ then [⟨bid, ask⟩] else [])
  | .ohlc k => .ofExcept do
    let time ← k.time.toFloat
    let _ ← truncate time
    k.read
    pure []

structure Trade where
  p : Field
  t : Field

/-- `(t or now) / 1000` as a whole number of seconds; a text does not divide. -/
def Trade.time (trade : Trade) : Except ReadError Unit :=
  match trade.t with
  | .absent | .empty | .flag _ => pure ()
  | .unusable | .text _ _ => .error .malformed
  | .whole n => do let _ ← (Field.whole n).toFloat
  | .real x => do let _ ← truncate x

inductive FinnhubMessage
  | malformed
  | error
  | trade (data : List Trade)
  | other

def finnhubTrades (symbol : String) : List Trade → Served
  | [] => ⟨[], false⟩
  | trade :: data =>
    match trade.p.orZero.toFloat with
    | .error _ => ⟨[], true⟩
    | .ok price =>
      if price = .finite 0 then finnhubTrades symbol data
      else
        match trade.time with
        | .error _ => ⟨[], true⟩
        | .ok _ =>
          let half := float (spread symbol / 2)
          let decimals := ((getSpec symbol).map SymbolSpec.priceDecimals).getD 0
          let rest := finnhubTrades symbol data
          ⟨⟨(price.shift (-half)).round decimals, (price.shift half).round decimals⟩ :: rest.ticks, rest.raised⟩

def finnhubMessage (symbol : String) : FinnhubMessage → Served
  | .malformed | .error => ⟨[], true⟩
  | .trade data => finnhubTrades symbol data
  | .other => ⟨[], false⟩

/-- How a connection ends that none of its messages has ended: with an error, of the connection or of a broadcast;
closed by the provider; or not at all. -/
inductive Ending
  | lost
  | closed
  | lasting
deriving DecidableEq

inductive Attempt (μ : Type)
  | refused
  | opened (messages : List μ) (ending : Ending)

inductive Loop
  | trying (failures : ℕ) (tickReported : Bool)
  | parked (tickReported : Bool)
  | gaveUp (tickReported : Bool)
deriving DecidableEq

/-- Where a loop takes its failures back: on the connection, or on a tick. -/
inductive Reset
  | connection
  | tick
deriving DecidableEq

def maxFailures : ℕ := 3

section Family

variable {μ : Type} (reset : Reset) (message : μ → Served)

def serve : List μ → Served
  | [] => ⟨[], false⟩
  | m :: messages =>
    if (message m).raised then message m
    else ⟨(message m).ticks ++ (serve messages).ticks, (serve messages).raised⟩

/-- The failure that is one too many calls `on_terminal_failure` and is raised again. -/
def fail (failures : ℕ) (tickReported : Bool) : Loop :=
  if maxFailures ≤ failures + 1 then .gaveUp tickReported else .trying (failures + 1) tickReported

def resets : Attempt μ → Bool
  | .refused => false
  | .opened messages _ => reset = .connection || (serve message messages).ticks ≠ []

def raises : Attempt μ → Bool
  | .refused => true
  | .opened messages ending => (serve message messages).raised || ending = .lost

def broadcasts : Attempt μ → List Tick
  | .refused => []
  | .opened messages _ => (serve message messages).ticks

def attempt (failures : ℕ) (tickReported : Bool) (a : Attempt μ) : Loop :=
  let failures := if resets reset message a then 0 else failures
  let tickReported := tickReported || broadcasts message a ≠ []
  if raises message a then fail failures tickReported
  else
    match a with
    | .opened _ .lasting => .parked tickReported
    | _ => .trying failures tickReported

def providerLoop (attempts : ℕ → Attempt μ) : ℕ → Loop
  | 0 => .trying 0 false
  | n + 1 =>
    match providerLoop attempts n with
    | .trying failures tickReported => attempt reset message failures tickReported (attempts n)
    | ended => ended

end Family

def binanceLoop : (ℕ → Attempt BinanceMessage) → ℕ → Loop := providerLoop .connection binanceMessage

def krakenLoop : (ℕ → Attempt KrakenMessage) → ℕ → Loop := providerLoop .connection krakenMessage

def finnhubLoop (symbol : String) : (ℕ → Attempt FinnhubMessage) → ℕ → Loop :=
  providerLoop .tick (finnhubMessage symbol)

def GaveUp (loop : Loop) : Prop := ∃ tickReported, loop = .gaveUp tickReported

section Counting

variable {μ : Type} {reset : Reset} {message : μ → Served} {attempts : ℕ → Attempt μ}

/-- Every attempt raises, and none but the first takes the failures back. -/
def Failing (reset : Reset) (message : μ → Served) (attempts : ℕ → Attempt μ) (n : ℕ) : Prop :=
  ∀ i < n, raises message (attempts i) = true ∧ (0 < i → resets reset message (attempts i) = false)

lemma failing_succ (n : ℕ) : Failing reset message attempts (n + 1) ↔
    Failing reset message attempts n ∧ raises message (attempts n) = true ∧
      (0 < n → resets reset message (attempts n) = false) := by
  simp only [Failing, Nat.forall_lt_succ_right]

lemma attempt_quiet {a : Attempt μ} (h : raises message a = false) (failures : ℕ) (tickReported : Bool) :
    (∃ ticked, attempt reset message failures tickReported a = .parked ticked) ∨
    ∃ ticked, attempt reset message failures tickReported a =
      .trying (if resets reset message a then 0 else failures) ticked := by
  cases a with
  | refused => simp [raises] at h
  | opened messages ending =>
    cases ending with
    | lost => simp [raises] at h
    | lasting =>
      left
      exact ⟨_, by simp only [attempt, h, Bool.false_eq_true, if_false]; rfl⟩
    | closed =>
      right
      exact ⟨_, by simp only [attempt, h, Bool.false_eq_true, if_false]; rfl⟩

/-- Before the last failure that counts, there are as many failures as attempts just when none was taken back. -/
lemma trying_of_lt {n : ℕ} (hn : n < maxFailures) :
    (∃ tickReported, providerLoop reset message attempts n = .parked tickReported ∧
      ¬ Failing reset message attempts n) ∨
    ∃ failures tickReported, providerLoop reset message attempts n = .trying failures tickReported ∧ failures ≤ n ∧
      (failures = n ↔ Failing reset message attempts n) := by
  induction n with
  | zero => exact .inr ⟨0, false, rfl, le_rfl, by simp [Failing]⟩
  | succ n ih =>
    rcases ih (by omega) with ⟨tickReported, hloop, hnot⟩ | ⟨failures, tickReported, hloop, hle, hiff⟩
    · refine .inl ⟨tickReported, by rw [providerLoop, hloop], fun h => ?_⟩
      exact hnot ((failing_succ n).mp h).1
    · rw [providerLoop, hloop, failing_succ, ← hiff]
      cases hraises : raises message (attempts n) with
      | true =>
        right
        have hfew : ¬ maxFailures ≤ (if resets reset message (attempts n) then 0 else failures) + 1 := by
          split <;> omega
        refine ⟨_, _, by simp only [attempt, hraises, if_true, fail, hfew, if_false]; rfl, ?_, ?_⟩
        · split <;> omega
        · cases resets reset message (attempts n) with
          | true => simp; omega
          | false => simp
      | false =>
        rcases @attempt_quiet _ reset _ _ hraises failures tickReported with ⟨ticked, h⟩ | ⟨ticked, h⟩
        · exact .inl ⟨ticked, h, by simp⟩
        · refine .inr ⟨_, ticked, h, ?_, ?_⟩
          · split <;> omega
          · simp only [Bool.false_eq_true, false_and, and_false, iff_false]
            split <;> omega

/-- The last failure that counts is the last of as many attempts only if none of the failures was taken back. -/
lemma gaveUp_iff : GaveUp (providerLoop reset message attempts maxFailures) ↔
    Failing reset message attempts maxFailures := by
  have hlast : 2 < maxFailures := by decide
  change GaveUp (providerLoop reset message attempts (2 + 1)) ↔ Failing reset message attempts (2 + 1)
  rw [failing_succ, providerLoop]
  rcases @trying_of_lt _ reset message attempts _ hlast with
    ⟨tickReported, hloop, hnot⟩ | ⟨failures, tickReported, hloop, hle, hiff⟩
  · simp [hloop, GaveUp, hnot]
  · rw [hloop, ← hiff]
    cases hraises : raises message (attempts 2) with
    | true =>
      have hcount : maxFailures ≤ (if resets reset message (attempts 2) then 0 else failures) + 1 ↔
          failures = 2 ∧ resets reset message (attempts 2) = false := by
        rw [maxFailures]
        cases resets reset message (attempts 2) with
        | true => simp
        | false => simp; omega
      by_cases hlimit : maxFailures ≤ (if resets reset message (attempts 2) then 0 else failures) + 1
      · simpa [attempt, hraises, fail, hlimit, GaveUp] using hcount.mp hlimit
      · simpa [attempt, hraises, fail, hlimit, GaveUp] using mt hcount.mpr hlimit
    | false =>
      rcases @attempt_quiet _ reset _ _ hraises failures tickReported with ⟨ticked, h⟩ | ⟨ticked, h⟩ <;>
        simp [h, GaveUp]

lemma resets_connection (a : Attempt μ) : resets .connection message a = false ↔ a = .refused := by
  cases a <;> simp [resets]

lemma resets_tick (a : Attempt μ) : resets .tick message a = false ↔ broadcasts message a = [] := by
  cases a <;> simp [resets, broadcasts]

lemma connection_gaveUp_iff : GaveUp (providerLoop .connection message attempts maxFailures) ↔
    raises message (attempts 0) = true ∧ attempts 1 = .refused ∧ attempts 2 = .refused := by
  have hthree : ∀ P : ℕ → Prop, (∀ i < maxFailures, P i) ↔ P 0 ∧ P 1 ∧ P 2 := fun P =>
    ⟨fun h => ⟨h 0 (by decide), h 1 (by decide), h 2 (by decide)⟩, fun ⟨h0, h1, h2⟩ i hi => by
      have : i = 0 ∨ i = 1 ∨ i = 2 := by rw [maxFailures] at hi; omega
      rcases this with rfl | rfl | rfl <;> assumption⟩
  rw [gaveUp_iff, Failing, hthree]
  simp only [resets_connection, lt_self_iff_false, false_imp_iff, and_true, Nat.zero_lt_one, true_imp_iff, two_pos]
  refine and_congr_right fun _ => and_congr ?_ ?_ <;> exact ⟨fun h => h.2, fun h => ⟨by rw [h]; rfl, h⟩⟩

end Counting

/-- A loop gives up within its three attempts just when all of them fail and no failure after the first is taken back.
For Binance and Kraken a connection takes them back, for Finnhub a tick. -/
theorem provider_loops_give_up (binance : ℕ → Attempt BinanceMessage) (kraken : ℕ → Attempt KrakenMessage)
    (symbol : String) (finnhub : ℕ → Attempt FinnhubMessage) :
    (GaveUp (binanceLoop binance maxFailures) ↔
      raises binanceMessage (binance 0) = true ∧ binance 1 = .refused ∧ binance 2 = .refused) ∧
    (GaveUp (krakenLoop kraken maxFailures) ↔
      raises krakenMessage (kraken 0) = true ∧ kraken 1 = .refused ∧ kraken 2 = .refused) ∧
    (GaveUp (finnhubLoop symbol finnhub maxFailures) ↔
      ∀ i < maxFailures, raises (finnhubMessage symbol) (finnhub i) = true ∧
        (0 < i → broadcasts (finnhubMessage symbol) (finnhub i) = [])) := by
  refine ⟨connection_gaveUp_iff, connection_gaveUp_iff, ?_⟩
  rw [finnhubLoop, gaveUp_iff, Failing]
  simp only [resets_tick]

/-- A connection that opens every time and is lost before it sends anything is tried for ever. -/
theorem binance_never_gives_up : ¬ ∃ n, GaveUp (binanceLoop (fun _ => .opened [] .lost) n) := by
  have htrying : ∀ n, ∃ failures, binanceLoop (fun _ => .opened [] .lost) n = .trying failures false := by
    intro n
    induction n with
    | zero => exact ⟨0, rfl⟩
    | succ n ih =>
      obtain ⟨failures, hloop⟩ := ih
      rw [binanceLoop] at hloop
      exact ⟨1, by simp only [binanceLoop, providerLoop, hloop]; rfl⟩
  rintro ⟨n, tickReported, hgave⟩
  obtain ⟨failures, hloop⟩ := htrying n
  rw [hloop] at hgave
  exact Loop.noConfusion hgave

end TrxSimulator.Feeds.ProviderLoops
