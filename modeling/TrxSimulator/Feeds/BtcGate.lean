import TrxSimulator.Feeds.Fields
import TrxSimulator.Foundations.Runs
import TrxSimulator.Market.FeedState

/-! The events of the shared crypto connection, and the gate that takes those of Bitcoin from one venue and in the
order of their stamps, for quotes and trades apart. The stamps last taken outlive the connection. -/

namespace TrxSimulator.Feeds.BtcGate

open Fields Foundations.Runs Market.Quotes Market.FeedState

structure Event where
  ev : String
  status : String
  pair : String
  x : Field
  t : Field
  bp : Field
  ap : Field
  p : Field
  s : Field
deriving DecidableEq

inductive Broadcast
  | tick (symbol : String) (bid ask : Number) (time : ℤ)
  | trade (symbol : String) (price size : Number) (time : ℤ)
deriving DecidableEq

/-- `now` is in milliseconds; `eventMs` is the stamp last taken of each kind of event. -/
structure Feed where
  now : ℕ
  connected : Bool
  authed : Bool
  active : Finset String
  lastQuoteAt : String → Option ℕ
  staleAttempts : String → ℕ
  lastBroadcastQuote : String → Option (Number × Number)
  eventMs : String → Option ℤ
  cache : FeedManager
  sent : List Broadcast

def btcExchange : ℤ := 1

/-- The stamps last taken after an event that passes. -/
def acceptBtcMarketEvent (eventMs : String → Option ℤ) (symbol : String) (event : Event) : Option (String → Option ℤ) :=
  if symbol ≠ "BTCUSD" then some eventMs
  else
    match event.x, event.t with
    | .whole exchange, .whole stamp =>
      if exchange ≠ btcExchange ∨ stamp ≤ 0 ∨ event.ev ∉ ["XQ", "XT"] then none
      else if stamp < (eventMs event.ev).getD 0 then none
      else some (Function.update eventMs event.ev (some stamp))
    | _, _ => none

def cryptoSymbolFromPair (pair : String) : Option String :=
  if pair = "BTC-USD" then some "BTCUSD" else if pair = "ETH-USD" then some "ETHUSD" else none

def readQuote (event : Event) : Except ReadError (Number × Number × ℤ) := do
  let bid ← event.bp.toFloat
  let ask ← event.ap.toFloat
  let ts ← event.t.toInt
  pure (bid, ask, ts.fdiv 1000)

def readTrade (event : Event) : Except ReadError (Number × Number × ℤ) := do
  let price ← event.p.toFloat
  let size ← if event.s = .absent then pure (.finite 0) else event.s.toFloat
  let ts ← event.t.toInt
  pure (price, size, ts.fdiv 1000)

inductive Admission
  | ignored
  | raised
  | admitted (symbol : String) (values : Number × Number × ℤ) (eventMs : String → Option ℤ)

/-- What has been read of a quote or a trade, with the bid and the ask under which it is plausible. -/
def gate (s : Feed) (event : Event) (read : Except ReadError (Number × Number × ℤ))
    (bidAsk : Number × Number × ℤ → Number × Number) : Admission :=
  match cryptoSymbolFromPair event.pair with
  | none => .ignored
  | some symbol =>
    if symbol ∉ s.active then .ignored
    else
      match read with
      | .error .malformed => .ignored
      | .error .overflow => .raised
      | .ok values =>
        if validateQuoteValues symbol (some (bidAsk values).1) (some (bidAsk values).2) then
          match acceptBtcMarketEvent s.eventMs symbol event with
          | none => .ignored
          | some eventMs => .admitted symbol values eventMs
        else .ignored

def admission (s : Feed) (event : Event) : Admission :=
  if s.authed = false then .ignored
  else if event.ev = "XQ" then gate s event (readQuote event) fun values => (values.1, values.2.1)
  else if event.ev = "XT" then gate s event (readTrade event) fun values => (values.1, values.1)
  else .ignored

def takeQuote (s : Feed) (symbol : String) (values : Number × Number × ℤ) : Feed :=
  let (bid, ask, ts) := values
  { s with
    lastQuoteAt := Function.update s.lastQuoteAt symbol (some s.now)
    staleAttempts := Function.update s.staleAttempts symbol 0
    lastBroadcastQuote := Function.update s.lastBroadcastQuote symbol (some (bid, ask))
    cache := updatePriceState { s.cache with now := s.now / 1000 } symbol bid ask "massive"
    sent := if s.lastBroadcastQuote symbol = some (bid, ask) then s.sent else s.sent ++ [.tick symbol bid ask ts] }

def takeTrade (s : Feed) (symbol : String) (values : Number × Number × ℤ) : Feed :=
  { s with sent := s.sent ++ [.trade symbol values.1 values.2.1 values.2.2] }

def endConnection (s : Feed) : Feed := { s with connected := false, authed := false }

def receive (s : Feed) (event : Event) : Feed :=
  if s.connected = false then s
  else if event.ev = "status" then
    if event.status = "auth_success" then { s with authed := true }
    else if event.status = "error" then endConnection s
    else s
  else
    match admission s event with
    | .ignored => s
    | .raised => endConnection s
    | .admitted symbol values eventMs =>
      if event.ev = "XQ" then takeQuote { s with eventMs } symbol values else takeTrade { s with eventMs } symbol values

def connect (s : Feed) : Feed :=
  { s with
    connected := true
    authed := false
    lastQuoteAt := fun symbol => if symbol ∈ s.active then some s.now else s.lastQuoteAt symbol
    staleAttempts := fun symbol => if symbol ∈ s.active then 0 else s.staleAttempts symbol
    lastBroadcastQuote := fun symbol => if symbol ∈ s.active then none else s.lastBroadcastQuote symbol }

def registerSymbol (s : Feed) (symbol : String) : Feed :=
  { s with
    staleAttempts := Function.update s.staleAttempts symbol 0
    active := insert symbol s.active
    lastQuoteAt := Function.update s.lastQuoteAt symbol (some ((s.lastQuoteAt symbol).getD s.now)) }

def unregisterSymbol (s : Feed) (symbol : String) : Feed :=
  let left : Feed :=
    { s with
      active := s.active.erase symbol
      staleAttempts := Function.update s.staleAttempts symbol 0
      lastQuoteAt := Function.update s.lastQuoteAt symbol none
      lastBroadcastQuote := Function.update s.lastBroadcastQuote symbol none }
  if left.active = ∅ then endConnection left else left

inductive Act
  | wait (milliseconds : ℕ)
  | connect
  | endConnection
  | register (symbol : String)
  | unregister (symbol : String)
  | event (event : Event)

def step (s : Feed) : Act → Feed
  | .wait milliseconds => { s with now := s.now + milliseconds }
  | .connect => connect s
  | .endConnection => endConnection s
  | .register symbol => registerSymbol s symbol
  | .unregister symbol => unregisterSymbol s symbol
  | .event event => receive s event

def start (now : ℕ) (cache : FeedManager) : Feed where
  now := now
  connected := false
  authed := false
  active := ∅
  lastQuoteAt _ := none
  staleAttempts _ := 0
  lastBroadcastQuote _ := none
  eventMs _ := none
  cache := cache
  sent := []

def stampOf (event : Event) : ℤ :=
  match event.t with
  | .whole stamp => stamp
  | _ => 0

def watermark (s : Feed) (kind : String) : ℤ := (s.eventMs kind).getD 0

def accepts (s : Feed) (symbol : String) (event : Event) : Bool :=
  match admission s event with
  | .admitted other _ _ => s.connected && decide (other = symbol)
  | .ignored | .raised => false

def accepted : Feed → List Act → List Event
  | _, [] => []
  | s, a :: acts =>
    (match a with
      | .event event => if accepts s "BTCUSD" event then [event] else []
      | _ => []) ++ accepted (step s a) acts

/-- The quote cache, the freshness timestamps and the stamps last taken stay as they are, and nothing is sent. -/
structure Unchanged (s t : Feed) : Prop where
  cache : t.cache = s.cache
  lastQuoteAt : t.lastQuoteAt = s.lastQuoteAt
  staleAttempts : t.staleAttempts = s.staleAttempts
  lastBroadcastQuote : t.lastBroadcastQuote = s.lastBroadcastQuote
  eventMs : t.eventMs = s.eventMs
  sent : t.sent = s.sent

/-- A quote or a trade of the venue, whose stamp is within the skew of its arrival. -/
def Genuine (skew arrival : ℕ) (event : Event) : Prop :=
  event.ev ∈ ["XQ", "XT"] ∧ event.x = .whole btcExchange ∧
    ∃ stamp : ℤ, event.t = .whole stamp ∧ 0 < stamp ∧ |stamp - arrival| ≤ skew

/-- No event so far keeps out a genuine one that arrives twice the skew from now or later. -/
def Recovers (skew : ℕ) (s : Feed) : Prop :=
  ∀ arrival event, s.now + 2 * skew ≤ arrival → Genuine skew arrival event →
    (acceptBtcMarketEvent s.eventMs "BTCUSD" event).isSome = true

/-- An event that is accepted is stamped no more than the skew ahead of its arrival. -/
def OnTime (skew : ℕ) (s : Feed) : Act → Prop
  | .event event => accepts s "BTCUSD" event = true → stampOf event ≤ s.now + skew
  | .wait _ | .connect | .endConnection | .register _ | .unregister _ => True

section Gate

variable {s : Feed} {event : Event} {symbol : String} {values : Number × Number × ℤ} {eventMs : String → Option ℤ}

lemma accept_some (h : acceptBtcMarketEvent s.eventMs "BTCUSD" event = some eventMs) :
    event.x = .whole btcExchange ∧ event.ev ∈ ["XQ", "XT"] ∧ (s.eventMs event.ev).getD 0 ≤ stampOf event ∧
      eventMs = Function.update s.eventMs event.ev (some (stampOf event)) := by
  simp only [acceptBtcMarketEvent, ne_eq, not_true_eq_false, if_false] at h
  split at h
  · next exchange stamp hx ht =>
    split at h
    · cases h
    · next hvenue =>
      split at h
      · cases h
      · next horder =>
        simp only [not_or, not_not, not_le] at hvenue
        have hstamp : stampOf event = stamp := by simp only [stampOf, ht]
        rw [hstamp]
        exact ⟨by rw [hx, hvenue.1], hvenue.2.2, not_lt.mp horder, (Option.some.inj h).symm⟩
  · cases h

lemma accept_other (h : symbol ≠ "BTCUSD") : acceptBtcMarketEvent s.eventMs symbol event = some s.eventMs :=
  if_pos h

lemma gate_admitted {read : Except ReadError (Number × Number × ℤ)} {bidAsk : Number × Number × ℤ → Number × Number}
    (h : gate s event read bidAsk = .admitted symbol values eventMs) :
    acceptBtcMarketEvent s.eventMs symbol event = some eventMs := by
  rw [gate] at h
  split at h
  · cases h
  · split at h
    · cases h
    · split at h
      · cases h
      · cases h
      · split at h
        · split at h
          · cases h
          · next haccept =>
            cases h
            exact haccept
        · cases h

lemma admission_admitted (h : admission s event = .admitted symbol values eventMs) :
    acceptBtcMarketEvent s.eventMs symbol event = some eventMs := by
  rw [admission] at h
  split at h
  · cases h
  · split at h
    · exact gate_admitted h
    · split at h
      · exact gate_admitted h
      · cases h

lemma admission_status (h : event.ev = "status") : admission s event = .ignored := by
  simp [admission, h]

lemma receive_admitted (hconnected : s.connected = true) (h : admission s event = .admitted symbol values eventMs) :
    (receive s event).eventMs = eventMs := by
  have hstatus : event.ev ≠ "status" := fun he => by simp [admission_status he] at h
  simp only [receive, hconnected, hstatus, h, Bool.true_eq_false, if_false]
  split <;> rfl

lemma endConnection_unchanged (s : Feed) : Unchanged s (endConnection s) := ⟨rfl, rfl, rfl, rfl, rfl, rfl⟩

/-- An event that is not accepted changes at most whether the connection lives. -/
lemma receive_rejected (h : ∀ symbol, accepts s symbol event = false) : Unchanged s (receive s event) := by
  have hsame : Unchanged s s := ⟨rfl, rfl, rfl, rfl, rfl, rfl⟩
  rw [receive]
  split
  · exact hsame
  · next hconnected =>
    split
    · split
      · exact ⟨rfl, rfl, rfl, rfl, rfl, rfl⟩
      · split
        · exact endConnection_unchanged s
        · exact hsame
    · cases hadmission : admission s event with
      | ignored => exact hsame
      | raised => exact endConnection_unchanged s
      | admitted symbol values eventMs =>
        have hnot := h symbol
        simp [accepts, hadmission] at hnot
        exact absurd hnot hconnected

lemma receive_now (s : Feed) (event : Event) : (receive s event).now = s.now := by
  rw [receive]
  split
  · rfl
  · split
    · split
      · rfl
      · split <;> rfl
    · split
      · rfl
      · rfl
      · split <;> rfl

lemma accepts_btc (h : accepts s "BTCUSD" event = true) : event.x = .whole btcExchange ∧ event.ev ∈ ["XQ", "XT"] ∧
    watermark s event.ev ≤ stampOf event ∧
    (receive s event).eventMs = Function.update s.eventMs event.ev (some (stampOf event)) := by
  rw [accepts] at h
  split at h
  · next symbol values eventMs hadmission =>
    simp only [Bool.and_eq_true, decide_eq_true_eq] at h
    obtain ⟨hconnected, rfl⟩ := h
    obtain ⟨hx, hkind, hmark, rfl⟩ := accept_some (admission_admitted hadmission)
    exact ⟨hx, hkind, hmark, receive_admitted hconnected hadmission⟩
  · cases h
  · cases h

lemma eventMs_of_not_accepts (h : accepts s "BTCUSD" event = false) : (receive s event).eventMs = s.eventMs := by
  by_cases hrejected : ∀ symbol, accepts s symbol event = false
  · exact (receive_rejected hrejected).eventMs
  · obtain ⟨symbol, hsymbol⟩ := not_forall.mp hrejected
    rw [accepts] at hsymbol
    split at hsymbol
    · next other values eventMs hadmission =>
      simp only [Bool.not_eq_false, Bool.and_eq_true, decide_eq_true_eq] at hsymbol
      obtain ⟨hconnected, rfl⟩ := hsymbol
      have hother : other ≠ "BTCUSD" := by
        rintro rfl
        simp [accepts, hadmission, hconnected] at h
      have hsame := (@accept_other s event _ hother).symm.trans (admission_admitted hadmission)
      rw [receive_admitted hconnected hadmission]
      exact (Option.some.inj hsame).symm
    · simp at hsymbol
    · simp at hsymbol

end Gate

section Runs

variable {s : Feed} {acts : List Act} {skew : ℕ}

lemma step_eventMs (s : Feed) (a : Act) (h : ∀ event, a ≠ .event event) : (step s a).eventMs = s.eventMs := by
  cases a with
  | wait | connect | endConnection | register => rfl
  | unregister symbol =>
    simp only [step, unregisterSymbol]
    split <;> rfl
  | event event => exact absurd rfl (h event)

lemma watermark_step (s : Feed) (a : Act) (kind : String) : watermark s kind ≤ watermark (step s a) kind := by
  cases a with
  | event event =>
    cases haccepts : accepts s "BTCUSD" event with
    | false => rw [watermark, watermark, step, eventMs_of_not_accepts haccepts]
    | true =>
      obtain ⟨-, -, hmark, hnext⟩ := accepts_btc haccepts
      rw [watermark, watermark, step, hnext, Function.update_apply]
      split
      · next hkind => exact hkind ▸ hmark
      · exact le_rfl
  | wait | connect | endConnection | register | unregister =>
    rw [watermark, watermark, step_eventMs s _ (by simp)]

/-- Everything that a run accepts is at or past the watermarks at its start. -/
lemma watermark_le_accepted (s : Feed) (acts : List Act) :
    ∀ event ∈ accepted s acts, watermark s event.ev ≤ stampOf event := by
  induction acts generalizing s with
  | nil => simp [accepted]
  | cons a acts ih =>
    intro event hevent
    rcases List.mem_append.mp hevent with hfirst | hrest
    · cases a with
      | event other =>
        cases haccepts : accepts s "BTCUSD" other with
        | false => simp [haccepts] at hfirst
        | true =>
          obtain rfl : event = other := by simpa [haccepts] using hfirst
          exact (accepts_btc haccepts).2.2.1
      | wait | connect | endConnection | register | unregister => simp at hfirst
    · exact (watermark_step s a event.ev).trans (ih (step s a) event hrest)

lemma accepted_ordered (s : Feed) (acts : List Act) :
    (accepted s acts).Pairwise fun event later => event.ev = later.ev → stampOf event ≤ stampOf later := by
  induction acts generalizing s with
  | nil => simp [accepted]
  | cons a acts ih =>
    refine List.pairwise_append.mpr ⟨?_, ih (step s a), ?_⟩
    · cases a with
      | event event => simp only; split <;> simp
      | wait | connect | endConnection | register | unregister => simp
    · intro event hevent later hlater hkind
      cases a with
      | event other =>
        cases haccepts : accepts s "BTCUSD" other with
        | false => simp [haccepts] at hevent
        | true =>
          obtain rfl : event = other := by simpa [haccepts] using hevent
          have hmark := watermark_le_accepted (step s (.event event)) acts later hlater
          rwa [watermark, step, (accepts_btc haccepts).2.2.2, ← hkind, Function.update_self, Option.getD_some] at hmark
      | wait | connect | endConnection | register | unregister => simp at hevent

lemma accepted_venue (s : Feed) (acts : List Act) : ∀ event ∈ accepted s acts, event.x = .whole btcExchange := by
  induction acts generalizing s with
  | nil => simp [accepted]
  | cons a acts ih =>
    intro event hevent
    rcases List.mem_append.mp hevent with hfirst | hrest
    · cases a with
      | event other =>
        cases haccepts : accepts s "BTCUSD" other with
        | false => simp [haccepts] at hfirst
        | true =>
          obtain rfl : event = other := by simpa [haccepts] using hfirst
          exact (accepts_btc haccepts).1
      | wait | connect | endConnection | register | unregister => simp at hfirst
    · exact ih (step s a) event hrest

/-- The latest stamp that keeps out no genuine event from twice the skew on is the skew ahead of now. -/
lemma recovers_iff (hnow : 0 < s.now) :
    Recovers skew s ↔ ∀ kind ∈ ["XQ", "XT"], watermark s kind ≤ s.now + skew := by
  constructor
  · intro h kind hkind
    by_contra hlate
    have hgenuine : Genuine skew (s.now + 2 * skew)
        ⟨kind, "", "BTC-USD", .whole btcExchange, .whole (s.now + skew), .absent, .absent, .absent, .absent⟩ := by
      refine ⟨hkind, rfl, s.now + skew, rfl, by omega, ?_⟩
      rw [abs_le]
      push_cast
      constructor <;> omega
    have hsome := h (s.now + 2 * skew) _ le_rfl hgenuine
    obtain ⟨eventMs, haccept⟩ := Option.isSome_iff_exists.mp hsome
    exact hlate (accept_some haccept).2.2.1
  · rintro h arrival event harrival ⟨hkind, hx, stamp, ht, hpos, hskew⟩
    have hlow := (abs_le.mp hskew).1
    have hmark := h event.ev hkind
    have hvenue : ¬ (btcExchange ≠ btcExchange ∨ stamp ≤ 0 ∨ event.ev ∉ ["XQ", "XT"]) := by
      simp only [ne_eq, not_true_eq_false, false_or, not_or, not_le, not_not]
      exact ⟨hpos, hkind⟩
    have horder : ¬ stamp < (s.eventMs event.ev).getD 0 := by
      rw [watermark] at hmark
      omega
    rw [acceptBtcMarketEvent, if_neg (by simp)]
    simp only [hx, ht]
    rw [if_neg hvenue, if_neg horder, Option.isSome_some]

lemma now_step (s : Feed) (a : Act) : s.now ≤ (step s a).now := by
  cases a with
  | wait milliseconds => exact Nat.le_add_right s.now milliseconds
  | connect | endConnection | register => exact le_rfl
  | unregister symbol =>
    simp only [step, unregisterSymbol]
    split <;> exact le_rfl
  | event event => exact (receive_now s event).ge

lemma recovers_step (hnow : 0 < s.now) (h : Recovers skew s) (a : Act) :
    Recovers skew (step s a) ↔ OnTime skew s a := by
  have hmarks := (recovers_iff hnow).mp h
  have hlater := now_step s a
  rw [recovers_iff (hnow.trans_le hlater)]
  cases a with
  | event event =>
    rw [show (step s (.event event)).now = s.now from receive_now s event]
    cases haccepts : accepts s "BTCUSD" event with
    | false =>
      refine iff_of_true (fun kind hkind => ?_) (fun htrue => absurd htrue (by simp [haccepts]))
      rw [watermark, step, eventMs_of_not_accepts haccepts]
      exact hmarks kind hkind
    | true =>
      obtain ⟨-, hevent, -, hnext⟩ := accepts_btc haccepts
      constructor
      · intro hall _
        have hmark := hall event.ev hevent
        rwa [watermark, step, hnext, Function.update_self, Option.getD_some] at hmark
      · intro hontime kind hkind
        rw [watermark, step, hnext, Function.update_apply]
        split
        · exact hontime haccepts
        · exact hmarks kind hkind
  | wait | connect | endConnection | register | unregister =>
    refine iff_of_true (fun kind hkind => ?_) trivial
    have hmark := hmarks kind hkind
    rw [watermark, step_eventMs s _ (by simp)]
    rw [watermark] at hmark
    omega

lemma recovers_start {now : ℕ} (hnow : 0 < now) (cache : FeedManager) (skew : ℕ) : Recovers skew (start now cache) := by
  rw [recovers_iff (s := start now cache) hnow]
  intro kind _
  exact Int.natCast_nonneg (now + skew)

end Runs

/-- The stamps that the gate accepts do not decrease, all are of the one venue, and what it rejects leaves nothing
behind. Genuine events come through from twice the skew on, in every state of a run, just when nothing is accepted
that is stamped more than the skew ahead of its arrival. -/
theorem btc_gate_recovers_iff {now : ℕ} (hnow : 0 < now) (cache : FeedManager) (skew : ℕ) (acts : List Act) :
    ((accepted (start now cache) acts).Pairwise fun event later =>
      event.ev = later.ev → stampOf event ≤ stampOf later) ∧
    (∀ event ∈ accepted (start now cache) acts, event.x = .whole btcExchange) ∧
    (∀ s event, (∀ symbol, accepts s symbol event = false) → Unchanged s (receive s event)) ∧
    ((∀ before after, acts = before ++ after → Recovers skew (run step (start now cache) before)) ↔
      Guarded step (OnTime skew) (start now cache) acts) := by
  refine ⟨accepted_ordered _ acts, accepted_venue _ acts, fun s event h => receive_rejected h, ?_⟩
  have hstep : ∀ s a, (0 < s.now ∧ Recovers skew s) →
      ((0 < (step s a).now ∧ Recovers skew (step s a)) ↔ OnTime skew s a) := fun s a h =>
    ⟨fun h' => (recovers_step h.1 h.2 a).mp h'.2,
      fun hontime => ⟨h.1.trans_le (now_step s a), (recovers_step h.1 h.2 a).mpr hontime⟩⟩
  rw [← invariant_iff_guarded hstep ⟨hnow, recovers_start hnow cache skew⟩ acts]
  refine forall₃_congr fun before after _ => ⟨fun h => ⟨?_, h⟩, fun h => h.2⟩
  have hstart : 0 < (start now cache).now := hnow
  exact run_invariant (I := fun s : Feed => 0 < s.now) (fun s a h => h.trans_le (now_step s a)) hstart before

def emptyCache : FeedManager := ⟨0, fun _ => none, fun _ => none, fun _ => none, fun _ => none, fun _ => none⟩

def quoteAt (stamp : ℤ) : Event :=
  ⟨"XQ", "", "BTC-USD", .whole btcExchange, .whole stamp, .whole 80738, .whole 80739, .absent, .absent⟩

def authSuccess : Event := ⟨"status", "auth_success", "", .absent, .absent, .absent, .absent, .absent, .absent⟩

def quoted (stamp : ℤ) : List Act := [.register "BTCUSD", .connect, .event authSuccess, .event (quoteAt stamp)]

theorem btc_gate_recovers_quoted :
    (∀ before after, quoted 1760000000000 = before ++ after →
        Recovers 1000 (run step (start 1760000000000 emptyCache) before)) ↔
      Guarded step (OnTime 1000) (start 1760000000000 emptyCache) (quoted 1760000000000) :=
  (btc_gate_recovers_iff (by decide) emptyCache 1000 (quoted 1760000000000)).2.2.2

/-- A stamp in microseconds passes, and for thousands of years no genuine quote does. -/
theorem microseconds_block : ¬ ∃ arrival event, arrival + 1000 < 1760000000000000 ∧ Genuine 1000 arrival event ∧
    event.ev = "XQ" ∧
    acceptBtcMarketEvent (run step (start 1760000000000 emptyCache) (quoted 1760000000000000)).eventMs "BTCUSD" event ≠
      none := by
  have hmark : watermark (run step (start 1760000000000 emptyCache) (quoted 1760000000000000)) "XQ" =
      1760000000000000 := by
    decide +kernel
  rintro ⟨arrival, event, harrival, ⟨-, -, stamp, ht, -, hskew⟩, hkind, haccept⟩
  have hhigh := (abs_le.mp hskew).2
  obtain ⟨eventMs, hsome⟩ := Option.ne_none_iff_exists'.mp haccept
  have horder := (accept_some hsome).2.2.1
  rw [hkind, ← watermark, hmark] at horder
  simp only [stampOf, ht] at horder
  omega

end TrxSimulator.Feeds.BtcGate
