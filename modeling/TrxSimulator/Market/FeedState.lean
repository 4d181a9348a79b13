import TrxSimulator.Market.Quotes

/-! The prices that the feed manager holds in memory, and the accessors through which they are read. A tick writes all
five tables of its symbol under one lock. -/

namespace TrxSimulator.Market.FeedState

open Foundations.Floats Symbols Quotes

def spreads : List (String × ℚ) :=
  [("EUR/USD", 15 / 100000), ("GBP/USD", 18 / 100000), ("USD/JPY", 18 / 1000), ("AUD/USD", 17 / 100000),
   ("USD/CAD", 20 / 100000), ("USD/CHF", 18 / 100000), ("NZD/USD", 20 / 100000), ("BTCUSD", 15), ("ETHUSD", 3),
   ("SOLUSD", 20 / 100), ("XAU/USD", 30 / 100), ("XAG/USD", 3 / 100), ("US30", 3), ("US500", 50 / 100),
   ("NAS100", 150 / 100)]

def spread (symbol : String) : ℚ := ((spreads.find? fun x => x.1 = symbol).map Prod.snd).getD 0

def priceCacheTtl : ℚ := 60

structure FeedManager where
  now : ℚ
  prices : String → Option Number
  bids : String → Option Number
  asks : String → Option Number
  priceTs : String → Option ℚ
  priceSource : String → Option String

structure Quote where
  bid : Number
  ask : Number
  timestamp : ℚ
  source : String
deriving DecidableEq

section Writers

variable (s : FeedManager) (symbol : String)

def write (bid ask mid : Number) (source : String) : FeedManager :=
  { s with
    bids := Function.update s.bids symbol (some bid)
    asks := Function.update s.asks symbol (some ask)
    prices := Function.update s.prices symbol (some mid)
    priceTs := Function.update s.priceTs symbol (some s.now)
    priceSource := Function.update s.priceSource symbol (some source) }

/-- A symbol that is not registered raises before anything is written. -/
def updatePriceState (bid ask : Number) (source : String) : FeedManager :=
  match getSpec symbol with
  | none => s
  | some spec => write s symbol bid ask ((midpoint bid ask).round spec.priceDecimals) source

/-- A fallback is seeded only where there is no price, and gets no timestamp. -/
def resyncPrice (price : Option Number) : FeedManager :=
  match getSpec symbol, fallbackPrice symbol with
  | some spec, some base =>
    match price with
    | some price =>
      if price.positive then
        let mid := price.round spec.priceDecimals
        let half := float (spread symbol / 2)
        write s symbol ((mid.shift (-half)).round spec.priceDecimals)
          ((mid.shift half).round spec.priceDecimals) mid "rest_resync"
      else { s with prices := Function.update s.prices symbol (some ((s.prices symbol).getD (.finite base))) }
    | none => { s with prices := Function.update s.prices symbol (some ((s.prices symbol).getD (.finite base))) }
  | _, _ => s

def stop : FeedManager :=
  { s with
    prices := Function.update s.prices symbol none
    bids := Function.update s.bids symbol none
    asks := Function.update s.asks symbol none
    priceTs := Function.update s.priceTs symbol none
    priceSource := Function.update s.priceSource symbol none }

end Writers

section Accessors

variable (s : FeedManager) (symbol : String)

def current (ts : ℚ) : Bool := float (s.now - ts) ≤ priceCacheTtl

def hasPrice : Bool := (s.prices symbol).isSome && (s.priceTs symbol).any (current s)

def lastPrice : Option Number := (fallbackPrice symbol).map fun base => (s.prices symbol).getD (.finite base)

def lastBid : Option Number :=
  (fallbackPrice symbol).map fun base => (s.bids symbol).getD (.finite (float (base - float (spread symbol / 2))))

def lastAsk : Option Number :=
  (fallbackPrice symbol).map fun base => (s.asks symbol).getD (.finite (float (base + float (spread symbol / 2))))

def getValidatedQuote : Option Quote :=
  match s.priceTs symbol with
  | none => none
  | some ts =>
    if current s ts = false then none
    else if validateQuoteValues symbol (s.bids symbol) (s.asks symbol) = false then none
    else match s.bids symbol, s.asks symbol with
    | some bid, some ask => some { bid, ask, timestamp := ts, source := (s.priceSource symbol).getD "unknown" }
    | _, _ => none

end Accessors

inductive Act
  | clock (now : ℚ)
  | tick (symbol : String) (bid ask : Number) (source : String)
  | resync (symbol : String) (price : Option Number)
  | stop (symbol : String)

def step (s : FeedManager) : Act → FeedManager
  | .clock now => { s with now }
  | .tick symbol bid ask source => updatePriceState s symbol bid ask source
  | .resync symbol price => resyncPrice s symbol price
  | .stop symbol => stop s symbol

def started (now : ℚ) : FeedManager where
  now := now
  prices _ := none
  bids _ := none
  asks _ := none
  priceTs _ := none
  priceSource _ := none

section Coherence

variable {s : FeedManager} {symbol : String}

/-- What has a timestamp has everything else, and only registered symbols have a price. -/
structure Coherent (s : FeedManager) : Prop where
  whole : ∀ symbol ts, s.priceTs symbol = some ts → (s.bids symbol).isSome = true ∧ (s.asks symbol).isSome = true ∧
    (s.prices symbol).isSome = true ∧ (s.priceSource symbol).isSome = true
  known : ∀ symbol, (s.prices symbol).isSome = true → (fallbackPrice symbol).isSome = true

lemma fallback_of_spec {spec : SymbolSpec} (h : getSpec symbol = some spec) : (fallbackPrice symbol).isSome = true := by
  have hall : ∀ spec ∈ registry, (fallbackPrice spec.symbol).isSome = true := by decide +kernel
  rw [← symbol_of_getSpec h]
  exact hall spec (mem_of_getSpec h)

lemma write_coherent (hs : Coherent s) (hknown : (fallbackPrice symbol).isSome = true) (bid ask mid : Number)
    (source : String) : Coherent (write s symbol bid ask mid source) := by
  constructor
  · intro other ts hts
    by_cases hother : other = symbol
    · subst hother
      simp [write]
    · simp only [write, Function.update_of_ne hother] at hts ⊢
      exact hs.whole other ts hts
  · intro other hprice
    by_cases hother : other = symbol
    · exact hother ▸ hknown
    · simp only [write, Function.update_of_ne hother] at hprice
      exact hs.known other hprice

lemma seed_coherent (hs : Coherent s) (hknown : (fallbackPrice symbol).isSome = true) (price : Number) :
    Coherent { s with prices := Function.update s.prices symbol (some price) } := by
  constructor
  · intro other ts hts
    obtain ⟨hbid, hask, hprice, hsource⟩ := hs.whole other ts hts
    refine ⟨hbid, hask, ?_, hsource⟩
    by_cases hother : other = symbol
    · simp [hother]
    · simpa [Function.update_of_ne hother] using hprice
  · intro other hprice
    by_cases hother : other = symbol
    · exact hother ▸ hknown
    · simp only [Function.update_of_ne hother] at hprice
      exact hs.known other hprice

lemma stop_coherent (hs : Coherent s) (symbol : String) : Coherent (stop s symbol) := by
  constructor
  · intro other ts hts
    by_cases hother : other = symbol
    · simp [stop, hother] at hts
    · simp only [stop, Function.update_of_ne hother] at hts ⊢
      exact hs.whole other ts hts
  · intro other hprice
    by_cases hother : other = symbol
    · simp [stop, hother] at hprice
    · simp only [stop, Function.update_of_ne hother] at hprice
      exact hs.known other hprice

lemma step_coherent (hs : Coherent s) (a : Act) : Coherent (step s a) := by
  cases a with
  | clock now => exact ⟨hs.whole, hs.known⟩
  | tick symbol bid ask source =>
    rw [step, updatePriceState]
    split
    · exact hs
    · next hspec => exact write_coherent hs (fallback_of_spec hspec) _ _ _ _
  | resync symbol price =>
    rw [step, resyncPrice]
    split
    · next hspec _ =>
      have hknown := fallback_of_spec hspec
      split
      · split
        · exact write_coherent hs hknown _ _ _ _
        · exact seed_coherent hs hknown _
      · exact seed_coherent hs hknown _
    · exact hs
  | stop symbol => exact stop_coherent hs symbol

lemma started_coherent (now : ℚ) : Coherent (started now) where
  whole _ _ h := by cases h
  known _ h := by cases h

end Coherence

end TrxSimulator.Market.FeedState
