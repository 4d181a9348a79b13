import TrxSimulator.Exposure.Aggregation
import TrxSimulator.Foundations.Outcomes
import TrxSimulator.Foundations.Runs
import TrxSimulator.Market.FeedState

/-! The prices on which an open and the broker's exposure decide: which of the feed manager's accessors they go
through, and whether what they are given is a quote that could have been validated. -/

namespace TrxSimulator.Exposure.Synthetic

open Foundations.Decimals Foundations.Floats Foundations.Runs Foundations.Outcomes
open Market.Symbols Market.Quotes Market.Pnl Trading.Writers Aggregation
open Market.FeedState hiding Act step

structure Market where
  feed : FeedManager
  orderPolicy : String → OrderPolicy
  lastKnown : String → Option LastKnownMarketPrice

inductive Act
  | feed (act : Market.FeedState.Act)
  | session (symbol : String) (policy : OrderPolicy)
  | record (symbol : String) (row : LastKnownMarketPrice)

/-- The durable row has its own writer, which takes valid sources only. -/
def step (s : Market) : Act → Market
  | .feed act => { s with feed := Market.FeedState.step s.feed act }
  | .session symbol policy => { s with orderPolicy := Function.update s.orderPolicy symbol policy }
  | .record symbol row =>
    if row.source ∈ validSources then { s with lastKnown := Function.update s.lastKnown symbol (some row) } else s

def opened (now : ℚ) (orderPolicy : String → OrderPolicy) (lastKnown : String → Option LastKnownMarketPrice) :
    Market := ⟨started now, orderPolicy, lastKnown⟩

section Resolution

variable (s : Market)

def resolveSymbolPrice (symbol : String) : Option Number × PriceStatus :=
  if hasPrice s.feed symbol then ((lastPrice s.feed symbol).map fun mid => mid.map str, .fresh)
  else if s.orderPolicy symbol = .marketClosed then
    match s.lastKnown symbol with
    | some row =>
      if row.source ∈ validSources then (some (.finite row.mid.value), .marketClosedFrozen) else (none, .unavailable)
    | none => (none, .unavailable)
  else (none, .stale)

def usable : PriceStatus → Bool
  | .fresh | .marketClosedFrozen => true
  | .stale | .unavailable => false

/-- A price that has gone into an account's equity or into the exposure, with its position. -/
structure Entered where
  position : OpenPosition
  price : Number
  status : PriceStatus

variable (positions : List OpenPosition)

def unpricedSymbols : List String :=
  (positions.filter fun p => usable (resolveSymbolPrice s p.symbol).2 = false).map fun p => p.symbol

def closePx (p : OpenPosition) : Option Number :=
  match (resolveSymbolPrice s p.symbol).2 with
  | .fresh =>
    match p.side with
    | .buy => lastBid s.feed p.symbol
    | .sell => lastAsk s.feed p.symbol
  | _ => (resolveSymbolPrice s p.symbol).1.map fun price => price.map float

/-- The prices of the fresh equity; none where the open is refused before. -/
def equityPrices : Option (List Entered) :=
  if unpricedSymbols s positions ≠ [] then none
  else positions.mapM fun p => (closePx s p).map fun price => ⟨p, price, (resolveSymbolPrice s p.symbol).2⟩

/-- No amount where the open is refused or a price is not a finite number. -/
def freshEquity (balance : ℚ) (currency : String) : Option ℚ := do
  let entered ← equityPrices s positions
  let pnls ← entered.mapM fun e : Entered => e.price.toRat?.map fun x =>
    positionPnlFloat python e.position.side (float e.position.avgPrice.value) x (float e.position.qty.value)
      e.position.symbol currency
  pure (float (float balance + pnls.foldl (fun total pnl => float (total + pnl)) 0))

def exposurePrices : List Entered :=
  positions.filterMap fun p =>
    (resolveSymbolPrice s p.symbol).1.map fun price => ⟨p, price, (resolveSymbolPrice s p.symbol).2⟩

end Resolution

section Genuine

variable (s : Market)

def Validated (symbol : String) (quote : Quote) : Prop :=
  getValidatedQuote s.feed symbol = some quote ∧ quote.source ≠ "sim"

def Frozen (symbol : String) (row : LastKnownMarketPrice) : Prop :=
  s.orderPolicy symbol = .marketClosed ∧ s.lastKnown symbol = some row ∧ row.source ∈ validSources

def closingSide (side : Side) (quote : Quote) : Number :=
  match side with
  | .buy => quote.bid
  | .sell => quote.ask

/-- A price that may decide an account's equity. -/
inductive EquityPrice : Entered → Prop
  | quoted {p : OpenPosition} {quote : Quote} (h : Validated s p.symbol quote) :
      EquityPrice ⟨p, closingSide p.side quote, .fresh⟩
  | frozen {p : OpenPosition} {row : LastKnownMarketPrice} (h : Frozen s p.symbol row) :
      EquityPrice ⟨p, .finite (float row.mid.value), .marketClosedFrozen⟩

/-- A price that may decide the exposure; the mid is the one stored with the bid and the ask of the quote. -/
inductive ExposurePrice : Entered → Prop
  | quoted {p : OpenPosition} {quote : Quote} {mid : Number} (h : Validated s p.symbol quote)
      (hmid : s.feed.prices p.symbol = some mid) : ExposurePrice ⟨p, mid.map str, .fresh⟩
  | frozen {p : OpenPosition} {row : LastKnownMarketPrice} (h : Frozen s p.symbol row) :
      ExposurePrice ⟨p, .finite row.mid.value, .marketClosedFrozen⟩

structure EquityDecided (positions : List OpenPosition) : Prop where
  genuine : ∀ entered, equityPrices s positions = some entered → ∀ e ∈ entered, EquityPrice s e
  unpriced : ∀ p ∈ positions, (∀ price status, ¬ EquityPrice s ⟨p, price, status⟩) → equityPrices s positions = none

structure ExposureDecided (positions : List OpenPosition) : Prop where
  genuine : ∀ e ∈ exposurePrices s positions, ExposurePrice s e
  unpriced : ∀ p ∈ positions, (∀ price status, ¬ ExposurePrice s ⟨p, price, status⟩) →
    (resolveSymbolPrice s p.symbol).1 = none

/-- The last tick of the symbol was not synthetic and its values are plausible. -/
def Real (symbol : String) : Prop :=
  s.feed.priceSource symbol ≠ some "sim" ∧ validateQuoteValues symbol (s.feed.bids symbol) (s.feed.asks symbol) = true

variable {s} {symbol : String} {p : OpenPosition} {positions : List OpenPosition}

lemma validated_iff (hs : Coherent s.feed) (hprice : hasPrice s.feed symbol = true) :
    (∃ quote, Validated s symbol quote) ↔ Real s symbol := by
  rw [hasPrice, Bool.and_eq_true, Option.any_eq_true] at hprice
  obtain ⟨-, ts, hts, hcurrent⟩ := hprice
  obtain ⟨hbid, hask, -, hsource⟩ := hs.whole symbol ts hts
  obtain ⟨bid, hbid⟩ := Option.isSome_iff_exists.mp hbid
  obtain ⟨ask, hask⟩ := Option.isSome_iff_exists.mp hask
  obtain ⟨source, hsource⟩ := Option.isSome_iff_exists.mp hsource
  simp only [Validated, Real, getValidatedQuote, hts, hcurrent, Bool.true_eq_false, if_false, hbid, hask, hsource,
    Option.getD_some]
  cases hvalid : validateQuoteValues symbol (some bid) (some ask) <;> simp

lemma quote_values {feed : FeedManager} {quote : Quote} (h : getValidatedQuote feed symbol = some quote) :
    feed.bids symbol = some quote.bid ∧ feed.asks symbol = some quote.ask := by
  rw [getValidatedQuote] at h
  split at h
  · cases h
  · split at h
    · cases h
    · split at h
      · cases h
      · split at h
        · next hbid hask =>
          cases h
          exact ⟨hbid, hask⟩
        · cases h

lemma resolve_fresh (h : hasPrice s.feed symbol = true) :
    resolveSymbolPrice s symbol = ((lastPrice s.feed symbol).map fun mid => mid.map str, .fresh) := by
  rw [resolveSymbolPrice, if_pos h]

lemma resolve_usable (h : hasPrice s.feed symbol = false) (husable : usable (resolveSymbolPrice s symbol).2 = true) :
    ∃ row, Frozen s symbol row ∧ resolveSymbolPrice s symbol = (some (.finite row.mid.value), .marketClosedFrozen) := by
  rw [resolveSymbolPrice, if_neg (by simp [h])] at husable ⊢
  split at husable
  · next hclosed =>
    split at husable
    · next row hrow =>
      split at husable
      · next hsource => exact ⟨row, ⟨hclosed, hrow, hsource⟩, by simp [hclosed, hsource]⟩
      · cases husable
    · cases husable
  · cases husable

lemma stored_values (hs : Coherent s.feed) (h : hasPrice s.feed symbol = true) :
    ∃ bid ask mid base, s.feed.bids symbol = some bid ∧ s.feed.asks symbol = some ask ∧
      s.feed.prices symbol = some mid ∧ fallbackPrice symbol = some base := by
  have hpresent : (s.feed.prices symbol).isSome = true := (Bool.and_eq_true_iff.mp h).1
  obtain ⟨ts, hts, -⟩ := (Option.any_eq_true _ _).mp (Bool.and_eq_true_iff.mp h).2
  obtain ⟨hbid, hask, -, -⟩ := hs.whole symbol ts hts
  obtain ⟨bid, hbid⟩ := Option.isSome_iff_exists.mp hbid
  obtain ⟨ask, hask⟩ := Option.isSome_iff_exists.mp hask
  obtain ⟨mid, hmid⟩ := Option.isSome_iff_exists.mp hpresent
  obtain ⟨base, hbase⟩ := Option.isSome_iff_exists.mp (hs.known symbol hpresent)
  exact ⟨bid, ask, mid, base, hbid, hask, hmid, hbase⟩

lemma resolve_isSome (hs : Coherent s.feed) :
    (resolveSymbolPrice s symbol).1.isSome = usable (resolveSymbolPrice s symbol).2 := by
  cases h : hasPrice s.feed symbol with
  | true =>
    obtain ⟨_, _, _, base, -, -, -, hbase⟩ := stored_values hs h
    rw [resolve_fresh h, lastPrice, hbase]
    rfl
  | false =>
    rw [resolveSymbolPrice, if_neg (by simp [h])]
    split
    · split
      · split <;> rfl
      · rfl
    · rfl

lemma EquityPrice.validated {e : Entered} (h : EquityPrice s e) (hfresh : e.status = .fresh) :
    ∃ quote, Validated s e.position.symbol quote := by
  cases h with
  | quoted hvalid => exact ⟨_, hvalid⟩
  | frozen => cases hfresh

lemma ExposurePrice.validated {e : Entered} (h : ExposurePrice s e) (hfresh : e.status = .fresh) :
    ∃ quote, Validated s e.position.symbol quote := by
  cases h with
  | quoted hvalid => exact ⟨_, hvalid⟩
  | frozen => cases hfresh

lemma equityPrice_iff (hs : Coherent s.feed) (h : usable (resolveSymbolPrice s p.symbol).2 = true) :
    ∃ price, closePx s p = some price ∧
      (EquityPrice s ⟨p, price, (resolveSymbolPrice s p.symbol).2⟩ ↔
        (hasPrice s.feed p.symbol = true → Real s p.symbol)) := by
  cases hprice : hasPrice s.feed p.symbol with
  | true =>
    obtain ⟨bid, ask, mid, base, hbid, hask, hmid, hbase⟩ := stored_values hs hprice
    have hreal := validated_iff hs hprice
    rw [closePx, resolve_fresh hprice]
    refine ⟨match p.side with | .buy => bid | .sell => ask, ?_, ?_⟩
    · cases p.side <;> simp [lastBid, lastAsk, hbid, hask, hbase]
    · refine Iff.trans ⟨fun hquoted => hquoted.validated rfl, ?_⟩ (hreal.trans ⟨fun h _ => h, fun h => h rfl⟩)
      · rintro ⟨quote, hvalid⟩
        obtain ⟨hbid', hask'⟩ := quote_values hvalid.1
        obtain rfl : bid = quote.bid := Option.some.inj (hbid.symm.trans hbid')
        obtain rfl : ask = quote.ask := Option.some.inj (hask.symm.trans hask')
        exact .quoted hvalid
  | false =>
    obtain ⟨row, hfrozen, hresolved⟩ := resolve_usable hprice h
    rw [closePx, hresolved]
    exact ⟨_, rfl, iff_of_true (.frozen hfrozen) (fun h => by cases h)⟩

lemma exposurePrice_iff (hs : Coherent s.feed) {price : Number} (h : (resolveSymbolPrice s p.symbol).1 = some price) :
    ExposurePrice s ⟨p, price, (resolveSymbolPrice s p.symbol).2⟩ ↔
      (hasPrice s.feed p.symbol = true → Real s p.symbol) := by
  cases hprice : hasPrice s.feed p.symbol with
  | true =>
    obtain ⟨bid, ask, mid, base, hbid, hask, hmid, hbase⟩ := stored_values hs hprice
    have hreal := validated_iff hs hprice
    rw [resolve_fresh hprice] at h ⊢
    obtain rfl : mid.map str = price := by simpa [lastPrice, hbase, hmid] using h
    refine Iff.trans ⟨fun hquoted => hquoted.validated rfl, ?_⟩ (hreal.trans ⟨fun h _ => h, fun h => h rfl⟩)
    · rintro ⟨quote, hvalid⟩
      exact .quoted hvalid hmid
  | false =>
    have husable : usable (resolveSymbolPrice s p.symbol).2 = true := by rw [← resolve_isSome hs, h, Option.isSome_some]
    obtain ⟨row, hfrozen, hresolved⟩ := resolve_usable hprice husable
    rw [hresolved] at h ⊢
    cases h
    exact iff_of_true (.frozen hfrozen) (fun h => by cases h)

/-- The open is refused: some position has no price. -/
def Refused (s : Market) (positions : List OpenPosition) : Prop :=
  ∃ p ∈ positions, usable (resolveSymbolPrice s p.symbol).2 = false

lemma refused_iff : unpricedSymbols s positions ≠ [] ↔ Refused s positions := by
  simp [unpricedSymbols, Refused]

lemma equityPrices_refused (h : Refused s positions) : equityPrices s positions = none := by
  rw [equityPrices, if_pos (refused_iff.mpr h)]

/-- Where the open is not refused every position has entered, and with a price that may decide exactly if the last
tick of its symbol is real. -/
lemma equityPrices_usable (hs : Coherent s.feed) (h : ¬ Refused s positions) :
    ∃ entered, equityPrices s positions = some entered ∧
      (∀ p ∈ positions, ∃ e ∈ entered, e.position = p) ∧
      ((∀ e ∈ entered, EquityPrice s e) ↔ ∀ p ∈ positions, hasPrice s.feed p.symbol = true → Real s p.symbol) := by
  rw [equityPrices, if_neg (mt refused_iff.mp h)]
  have hone (p : OpenPosition) (hp : p ∈ positions) : ∃ price, closePx s p = some price ∧
      (EquityPrice s ⟨p, price, (resolveSymbolPrice s p.symbol).2⟩ ↔
        (hasPrice s.feed p.symbol = true → Real s p.symbol)) := by
    refine equityPrice_iff hs ?_
    by_contra hno
    exact h ⟨p, hp, by simpa using hno⟩
  have hsome : (positions.mapM fun p => (closePx s p).map fun price =>
      (⟨p, price, (resolveSymbolPrice s p.symbol).2⟩ : Entered)).isSome := by
    refine mapM_isSome fun p hp => ?_
    obtain ⟨price, hprice, -⟩ := hone p hp
    rw [hprice]
    rfl
  obtain ⟨entered, hentered⟩ := Option.isSome_iff_exists.mp hsome
  refine ⟨entered, hentered, fun p hp => ?_, ?_⟩
  · obtain ⟨e, he, hmap⟩ := get_of_mapM hentered p hp
    obtain ⟨price, -, rfl⟩ := Option.map_eq_some_iff.mp hmap
    exact ⟨_, he, rfl⟩
  · constructor
    · intro hall p hp
      obtain ⟨price, hprice, hiff⟩ := hone p hp
      refine hiff.mp (hall _ ((mem_of_mapM hentered _).mpr ⟨p, hp, ?_⟩))
      rw [hprice, Option.map_some]
    · intro hall e he
      obtain ⟨p, hp, hmap⟩ := (mem_of_mapM hentered e).mp he
      obtain ⟨price, hprice, hiff⟩ := hone p hp
      rw [hprice, Option.map_some, Option.some.injEq] at hmap
      exact hmap ▸ hiff.mpr (hall p hp)

lemma equityDecided_iff (hs : Coherent s.feed) : EquityDecided s positions ↔
    Refused s positions ∨ ∀ p ∈ positions, hasPrice s.feed p.symbol = true → Real s p.symbol := by
  by_cases h : Refused s positions
  · refine iff_of_true ⟨fun entered hentered => ?_, fun _ _ _ => equityPrices_refused h⟩ (.inl h)
    rw [equityPrices_refused h] at hentered
    cases hentered
  · obtain ⟨entered, hentered, hcovered, hiff⟩ := equityPrices_usable hs h
    rw [or_iff_right h]
    constructor
    · exact fun hdecided => hiff.mp (hdecided.genuine entered hentered)
    · intro hall
      refine ⟨fun entered' hentered' => ?_, fun p hp hnone => ?_⟩
      · obtain rfl := Option.some.inj (hentered.symm.trans hentered')
        exact hiff.mpr hall
      · obtain ⟨e, he, rfl⟩ := hcovered p hp
        exact absurd (hiff.mpr hall e he) (hnone e.price e.status)

lemma exposureDecided_iff (hs : Coherent s.feed) : ExposureDecided s positions ↔
    ∀ p ∈ positions, hasPrice s.feed p.symbol = true → Real s p.symbol := by
  constructor
  · intro hdecided p hp hprice
    obtain ⟨_, _, mid, base, -, -, hmid, hbase⟩ := stored_values hs hprice
    have hresolved : (resolveSymbolPrice s p.symbol).1 = some (mid.map str) := by
      rw [resolve_fresh hprice, lastPrice, hbase, hmid]
      rfl
    refine (exposurePrice_iff hs hresolved).mp (hdecided.genuine _ ?_) hprice
    exact List.mem_filterMap.mpr ⟨p, hp, by rw [hresolved, Option.map_some]⟩
  · intro hall
    have hgenuine : ∀ p ∈ positions, ∀ price, (resolveSymbolPrice s p.symbol).1 = some price →
        ExposurePrice s ⟨p, price, (resolveSymbolPrice s p.symbol).2⟩ :=
      fun p hp price hprice => (exposurePrice_iff hs hprice).mpr (hall p hp)
    refine ⟨fun e he => ?_, fun p hp hnone => ?_⟩
    · obtain ⟨p, hp, hmap⟩ := List.mem_filterMap.mp he
      obtain ⟨price, hprice, rfl⟩ := Option.map_eq_some_iff.mp hmap
      exact hgenuine p hp price hprice
    · rw [Option.eq_none_iff_forall_ne_some]
      exact fun price hprice => hnone _ _ (hgenuine p hp price hprice)

end Genuine

section Runs

variable (now : ℚ) (orderPolicy : String → OrderPolicy) (lastKnown : String → Option LastKnownMarketPrice)
  (acts : List Act) (positions : List OpenPosition)

lemma run_coherent : Coherent (run step (opened now orderPolicy lastKnown) acts).feed := by
  refine run_invariant (I := fun s : Market => Coherent s.feed) (fun s a hs => ?_) (started_coherent now) acts
  cases a with
  | feed act => exact step_coherent hs act
  | session symbol policy => exact hs
  | record symbol row =>
    rw [step]
    split <;> exact hs

/-- After any history of ticks an open decides on validated quotes, and on durable prices of closed markets, exactly if
it is refused or no position's fresh price comes from a synthetic or implausible last tick; the exposure exactly in
the second case. -/
theorem decided_iff_last_ticks_real :
    (EquityDecided (run step (opened now orderPolicy lastKnown) acts) positions ↔
      Refused (run step (opened now orderPolicy lastKnown) acts) positions ∨
        ∀ p ∈ positions, hasPrice (run step (opened now orderPolicy lastKnown) acts).feed p.symbol = true →
          Real (run step (opened now orderPolicy lastKnown) acts) p.symbol) ∧
    (ExposureDecided (run step (opened now orderPolicy lastKnown) acts) positions ↔
      ∀ p ∈ positions, hasPrice (run step (opened now orderPolicy lastKnown) acts).feed p.symbol = true →
        Real (run step (opened now orderPolicy lastKnown) acts) p.symbol) :=
  have hs := run_coherent now orderPolicy lastKnown acts
  ⟨equityDecided_iff hs, exposureDecided_iff hs⟩

end Runs

section Synthetic

def euroLong : OpenPosition where
  account := 0
  symbol := "EUR/USD"
  side := .buy
  qty := .ofUnits 1000000
  avgPrice := .ofUnits 1170000
  id := 0
  holder := ⟨.retail, 50, "USD"⟩

def simulated : List Act := [.feed (.tick "EUR/USD" (.finite (float (6 / 5))) (.finite (float (6 / 5))) "sim")]

/-- One synthetic tick, and the position's equity and its exposure are taken at the synthetic price. -/
theorem synthetic_tick_decides :
    ¬ EquityDecided (run step (opened 0 (fun _ => .openNormal) (fun _ => none)) simulated) [euroLong] ∧
    ¬ ExposureDecided (run step (opened 0 (fun _ => .openNormal) (fun _ => none)) simulated) [euroLong] := by
  have hs := run_coherent 0 (fun _ => .openNormal) (fun _ => none) simulated
  have hfresh : hasPrice (run step (opened 0 (fun _ => .openNormal) (fun _ => none)) simulated).feed "EUR/USD" =
      true := by decide +kernel
  have hsim : ¬ Real (run step (opened 0 (fun _ => .openNormal) (fun _ => none)) simulated) "EUR/USD" :=
    fun hreal => hreal.1 rfl
  rw [equityDecided_iff hs, exposureDecided_iff hs]
  refine ⟨?_, fun hall => hsim (hall euroLong (by simp) hfresh)⟩
  rintro (⟨p, hp, hunusable⟩ | hall)
  · obtain rfl := List.mem_singleton.mp hp
    exact absurd hunusable (by decide +kernel)
  · exact hsim (hall euroLong (by simp) hfresh)

end Synthetic

end TrxSimulator.Exposure.Synthetic
