import TrxSimulator.Feeds.Subscriptions
import TrxSimulator.Foundations.Timers

/-! The watchdog of a shared connection on which no quote arrives any more: it closes the connection at a poll that
finds every active symbol stale, and at any other gives the symbols that are stale a new stamp with their
resubscription. -/

namespace TrxSimulator.Feeds.Staleness

open Foundations.Runs Foundations.Timers Subscriptions

/-- A turn of the watchdog's loop: the sleep before a poll, and the resubscriptions after it in their order, each with
the time it takes. -/
structure Round where
  pause : ℕ
  pass : List (ℕ × String)

def passActs (pass : List (ℕ × String)) : List Act := pass.flatMap fun x => [.wait x.1, .resubscribe x.2]

def Round.acts (r : Round) : List Act := .wait r.pause :: .poll :: passActs r.pass

def Round.length (r : Round) : ℕ := r.pause + (r.pass.map Prod.fst).sum

def after (s : Manager) (rounds : ℕ → Round) : ℕ → Manager
  | 0 => s
  | n + 1 => run step (after s rounds n) (rounds n).acts

def begins (clock : ℕ) (rounds : ℕ → Round) : ℕ → ℕ
  | 0 => clock
  | n + 1 => begins clock rounds n + (rounds n).length

def pollAt (clock : ℕ) (rounds : ℕ → Round) (n : ℕ) : ℕ := begins clock rounds n + (rounds n).pause

def delayIn (symbol : String) : List (ℕ × String) → ℕ
  | [] => 0
  | x :: pass => x.1 + if x.2 = symbol then 0 else delayIn symbol pass

def delay (rounds : ℕ → Round) (symbol : String) (n : ℕ) : ℕ := delayIn symbol (rounds n).pass

def stamp (s : Manager) (symbol : String) : ℕ := (s.lastQuoteAt symbol).getD s.clock

def IsClosed (s : Manager) : Prop := ∃ ws, s.ws = some ws ∧ ws.isOpen = false

def IsOpen (s : Manager) : Prop := ∃ ws, s.ws = some ws ∧ ws.isOpen = true

/-- An open connection with active symbols, between two polls; every symbol has a stamp, the last quote's or the one
that it joined with. -/
structure Watching (s : Manager) : Prop where
  isOpen : IsOpen s
  stale : s.stale = ∅
  active : s.active.Nonempty
  stamped : ∀ symbol ∈ s.active, ∃ t ≤ s.clock, s.lastQuoteAt symbol = some t

/-- The symbols' first stale polls are whole cycles apart. -/
def InPhase (s : Manager) (period start : ℕ) : Prop :=
  ∀ symbol ∈ s.active, ∀ other ∈ s.active, first dataStaleTimeout (stamp s symbol) period start ≡
    first dataStaleTimeout (stamp s other) period start [MOD cycle dataStaleTimeout period]

section Rounds

variable {s t : Manager} {rounds : ℕ → Round} {pass : List (ℕ × String)} {symbol : String}

lemma resubscribe_isOpen (h : IsOpen t) (symbol : String) : IsOpen (resubscribe t symbol) := by
  obtain ⟨ws, hws, hopen⟩ := h
  rw [resubscribe]
  split
  · simp only [hws, Socket.send, hopen, if_true, Option.bind_some]
    split
    · exact ⟨_, rfl, rfl⟩
    · exact ⟨ws, rfl, hopen⟩
  · exact ⟨ws, hws, hopen⟩

lemma resubscribe_fields (h : IsOpen t) (symbol : String) : (resubscribe t symbol).clock = t.clock ∧
    (resubscribe t symbol).active = t.active ∧ (resubscribe t symbol).stale = t.stale.erase symbol := by
  obtain ⟨ws, hws, hopen⟩ := h
  rw [resubscribe]
  split
  · simp only [hws, Socket.send, hopen, if_true, Option.bind_some]
    split <;> exact ⟨rfl, rfl, rfl⟩
  · next hnot => exact ⟨rfl, rfl, (Finset.erase_eq_of_notMem hnot).symm⟩

lemma resubscribe_stamp (h : IsOpen t) (symbol other : String) : (resubscribe t symbol).lastQuoteAt other =
    if other ∈ t.stale ∧ other = symbol then some t.clock else t.lastQuoteAt other := by
  obtain ⟨ws, hws, hopen⟩ := h
  by_cases hstale : symbol ∈ t.stale
  · have hnote : (resubscribe t symbol).lastQuoteAt = noteQuote t symbol := by
      simp only [resubscribe, hstale, if_true, hws, Socket.send, hopen, Option.bind_some]
      split <;> rfl
    by_cases hother : other = symbol <;> simp [hnote, noteQuote, hother, hstale]
  · have hsame : ¬ (other ∈ t.stale ∧ other = symbol) := fun hboth => hstale (hboth.2 ▸ hboth.1)
    rw [if_neg hsame, resubscribe, if_neg hstale]

/-- The resubscriptions of a pass: each symbol that was stale gets the time of its own. -/
lemma run_pass (h : IsOpen t) (pass : List (ℕ × String)) : IsOpen (run step t (passActs pass)) ∧
    (run step t (passActs pass)).clock = t.clock + (pass.map Prod.fst).sum ∧
    (run step t (passActs pass)).active = t.active ∧
    (∀ symbol, symbol ∈ (run step t (passActs pass)).stale ↔ symbol ∈ t.stale ∧ symbol ∉ pass.map Prod.snd) ∧
    ∀ symbol, (run step t (passActs pass)).lastQuoteAt symbol =
      if symbol ∈ t.stale ∧ symbol ∈ pass.map Prod.snd then some (t.clock + delayIn symbol pass)
      else t.lastQuoteAt symbol := by
  induction pass generalizing t with
  | nil => simp [passActs, h]
  | cons x pass ih =>
    obtain ⟨d, name⟩ := x
    have hwait : IsOpen { t with clock := t.clock + d } := h
    have hrun : run step t (passActs ((d, name) :: pass)) =
        run step (resubscribe { t with clock := t.clock + d } name) (passActs pass) := rfl
    obtain ⟨hclock, hactive, hstale⟩ := resubscribe_fields hwait name
    obtain ⟨hopen', hclock', hactive', hstale', hstamp'⟩ := ih (resubscribe_isOpen hwait name)
    rw [hrun]
    refine ⟨hopen', by rw [hclock', hclock]; simp [add_assoc], by rw [hactive', hactive], fun symbol => ?_,
      fun symbol => ?_⟩
    · rw [hstale', hstale]
      simp only [Finset.mem_erase, List.map_cons, List.mem_cons, not_or]
      tauto
    · rw [hstamp', hclock, hstale, resubscribe_stamp hwait]
      by_cases hname : symbol = name
      · subst hname
        by_cases hmem : symbol ∈ t.stale <;> simp [hmem, delayIn]
      · have hne : name ≠ symbol := fun he => hname he.symm
        by_cases hmem : symbol ∈ t.stale <;> by_cases hpass : symbol ∈ pass.map Prod.snd <;>
          simp [hname, hne, hmem, hpass, delayIn, add_assoc]

lemma closed_pass (h : IsClosed t) (pass : List (ℕ × String)) : IsClosed (run step t (passActs pass)) := by
  induction pass generalizing t with
  | nil => exact h
  | cons x pass ih =>
    obtain ⟨ws, hws, hclosed⟩ := h
    apply ih
    change IsClosed (resubscribe { t with clock := t.clock + x.1 } x.2)
    rw [resubscribe]
    split
    · simp only [hws, Socket.send, hclosed, Bool.false_eq_true, if_false, Option.bind_none]
      split <;> exact ⟨ws, rfl, hclosed⟩
    · exact ⟨ws, hws, hclosed⟩

lemma closed_round (h : IsClosed t) (r : Round) : IsClosed (run step t r.acts) := by
  obtain ⟨ws, hws, hclosed⟩ := h
  apply closed_pass (t := pollWatchdog { t with clock := t.clock + r.pause })
  rw [pollWatchdog]
  split
  · exact ⟨ws, hws, hclosed⟩
  · split
    · exact ⟨{ ws with isOpen := false }, by simp [hws], rfl⟩
    · exact ⟨ws, hws, hclosed⟩

/-- Nothing but the clock and the stamps of the active symbols has changed, and each symbol's stamp is that of a timer
on its own. -/
structure Kept (s : Manager) (rounds : ℕ → Round) (n : ℕ) (t : Manager) : Prop where
  isOpen : IsOpen t
  stale : t.stale = ∅
  active : t.active = s.active
  clock : t.clock = begins s.clock rounds n
  stamps : ∀ symbol ∈ s.active, t.lastQuoteAt symbol =
    some (stampAt dataStaleTimeout (pollAt s.clock rounds) (delay rounds symbol) (stamp s symbol) n)

def AllDue (s : Manager) (rounds : ℕ → Round) (n : ℕ) : Prop :=
  ∀ symbol ∈ s.active, Due dataStaleTimeout (pollAt s.clock rounds) (delay rounds symbol) (stamp s symbol) n

lemma Watching.kept (h : Watching s) (rounds : ℕ → Round) : Kept s rounds 0 s where
  isOpen := h.isOpen
  stale := h.stale
  active := rfl
  clock := rfl
  stamps symbol hsymbol := by
    obtain ⟨t, -, ht⟩ := h.stamped symbol hsymbol
    rw [stampAt, stamp, ht, Option.getD_some]

lemma Kept.mem_stale {n : ℕ} (h : Kept s rounds n t) (symbol : String) :
    symbol ∈ staleSymbols { t with clock := t.clock + (rounds n).pause } ↔ symbol ∈ s.active ∧
      Due dataStaleTimeout (pollAt s.clock rounds) (delay rounds symbol) (stamp s symbol) n := by
  simp only [staleSymbols, Finset.mem_filter, h.active, h.clock]
  refine and_congr_right fun hsymbol => ?_
  rw [h.stamps symbol hsymbol, Option.getD_some, Due, pollAt]

lemma Kept.allDue_iff {n : ℕ} (h : Kept s rounds n t) :
    staleSymbols { t with clock := t.clock + (rounds n).pause } = s.active ↔ AllDue s rounds n := by
  constructor
  · intro heq symbol hsymbol
    exact ((h.mem_stale symbol).mp (heq ▸ hsymbol)).2
  · intro hdue
    ext symbol
    exact ⟨fun hstale => ((h.mem_stale symbol).mp hstale).1,
      fun hsymbol => (h.mem_stale symbol).mpr ⟨hsymbol, hdue symbol hsymbol⟩⟩

variable (hactive : s.active.Nonempty) (hcovers : ∀ n, ∀ symbol ∈ s.active, symbol ∈ (rounds n).pass.map Prod.snd)

include hactive in
lemma Kept.closes {n : ℕ} (h : Kept s rounds n t) (hdue : AllDue s rounds n) :
    IsClosed (run step t (rounds n).acts) := by
  obtain ⟨ws, hws, -⟩ := h.isOpen
  have hpoll : pollWatchdog { t with clock := t.clock + (rounds n).pause } =
      { t with clock := t.clock + (rounds n).pause, ws := some { ws with isOpen := false } } := by
    rw [pollWatchdog, if_neg (by simp [hws, h.stale, h.active, hactive.ne_empty]),
      if_pos (by rw [h.allDue_iff.mpr hdue, h.active])]
    simp [hws]
  apply closed_pass (t := pollWatchdog { t with clock := t.clock + (rounds n).pause })
  rw [hpoll]
  exact ⟨{ ws with isOpen := false }, rfl, rfl⟩

include hactive hcovers in
lemma Kept.next {n : ℕ} (h : Kept s rounds n t) (hdue : ¬ AllDue s rounds n) :
    Kept s rounds (n + 1) (run step t (rounds n).acts) := by
  obtain ⟨ws, hws, hopen⟩ := h.isOpen
  have hpoll : pollWatchdog { t with clock := t.clock + (rounds n).pause } =
      { t with
        clock := t.clock + (rounds n).pause
        stale := staleSymbols { t with clock := t.clock + (rounds n).pause } } := by
    rw [pollWatchdog, if_neg (by simp [hws, h.stale, h.active, hactive.ne_empty]),
      if_neg (fun heq => hdue (h.allDue_iff.mp (by rw [heq, h.active])))]
  have hacts : run step t (rounds n).acts =
      run step (pollWatchdog { t with clock := t.clock + (rounds n).pause }) (passActs (rounds n).pass) := rfl
  rw [hacts, hpoll]
  obtain ⟨hopen', hclock', hactive', hstale', hstamp'⟩ := run_pass
    (t := { t with
      clock := t.clock + (rounds n).pause
      stale := staleSymbols { t with clock := t.clock + (rounds n).pause } })
    ⟨ws, hws, hopen⟩ (rounds n).pass
  refine ⟨hopen', ?_, ?_, ?_, fun symbol hsymbol => ?_⟩
  · apply Finset.eq_empty_of_forall_notMem
    intro symbol hstale
    obtain ⟨hmem, hnot⟩ := (hstale' symbol).mp hstale
    exact hnot (hcovers n symbol ((h.mem_stale symbol).mp hmem).1)
  · rw [hactive', h.active]
  · rw [hclock', h.clock, begins, Round.length, add_assoc]
  · rw [hstamp' symbol]
    by_cases hsymboldue : Due dataStaleTimeout (pollAt s.clock rounds) (delay rounds symbol) (stamp s symbol) n
    · rw [if_pos ⟨(h.mem_stale symbol).mpr ⟨hsymbol, hsymboldue⟩, hcovers n symbol hsymbol⟩, stampAt_due hsymboldue,
        h.clock]
      rfl
    · rw [if_neg fun hstale => hsymboldue ((h.mem_stale symbol).mp hstale.1).2, stampAt_not_due hsymboldue]
      exact h.stamps symbol hsymbol

include hcovers in
/-- The connection is closed by the first poll at which all symbols are due together. -/
lemma after_cases (h : Watching s) (n : ℕ) : (IsClosed (after s rounds n) ∧ ∃ k < n, AllDue s rounds k) ∨
    (Kept s rounds n (after s rounds n) ∧ ¬ ∃ k < n, AllDue s rounds k) := by
  induction n with
  | zero => exact .inr ⟨h.kept rounds, by simp⟩
  | succ n ih =>
    rcases ih with ⟨hclosed, k, hk, hdue⟩ | ⟨hkept, hnone⟩
    · exact .inl ⟨closed_round hclosed (rounds n), k, by omega, hdue⟩
    · by_cases hdue : AllDue s rounds n
      · exact .inl ⟨hkept.closes h.active hdue, n, by omega, hdue⟩
      · refine .inr ⟨hkept.next h.active hcovers hdue, ?_⟩
        rintro ⟨k, hk, hkdue⟩
        rcases Nat.lt_succ_iff_lt_or_eq.mp hk with hlt | rfl
        · exact hnone ⟨k, hlt, hkdue⟩
        · exact hdue hkdue

include hcovers in
lemma closed_iff (h : Watching s) (n : ℕ) : IsClosed (after s rounds n) ↔ ∃ k < n, AllDue s rounds k := by
  rcases after_cases hcovers h n with ⟨hclosed, hdue⟩ | ⟨hkept, hnone⟩
  · exact ⟨fun _ => hdue, fun _ => hclosed⟩
  · constructor
    · rintro ⟨ws, hws, hclosed⟩
      obtain ⟨ws', hws', hopen⟩ := hkept.isOpen
      obtain rfl : ws = ws' := Option.some.inj (hws.symm.trans hws')
      exact absurd (hclosed.symm.trans hopen) (by simp)
    · exact fun hdue => absurd hdue hnone

/-- At polls of a constant period the symbols come due together within a cycle, or never. -/
lemma allDue_iff (h : Watching s) {period : ℕ}
    (hregular : ∀ symbol ∈ s.active,
      Regular dataStaleTimeout (pollAt s.clock rounds) (delay rounds symbol) period) :
    ((∃ k, AllDue s rounds k) ↔ InPhase s period (pollAt s.clock rounds 0)) ∧
    ((∃ k, AllDue s rounds k) ↔ ∃ k ≤ cycle dataStaleTimeout period, AllDue s rounds k) := by
  apply meet_iff hregular h.active
  intro symbol hsymbol
  obtain ⟨t, hle, ht⟩ := h.stamped symbol hsymbol
  rw [stamp, ht, Option.getD_some]
  exact hle.trans (Nat.le_add_right s.clock (rounds 0).pause)

end Rounds

/-- In the silence the connection is closed by the first poll at which the symbols are stale together. At polls of a
constant period that is within a cycle if their first stale polls are whole cycles apart, and otherwise no poll at
all. -/
theorem silence_closes {s : Manager} {rounds : ℕ → Round} (hwatching : Watching s)
    (hcovers : ∀ n, ∀ symbol ∈ s.active, symbol ∈ (rounds n).pass.map Prod.snd) :
    (∀ n, IsClosed (after s rounds n) ↔ ∃ k < n, AllDue s rounds k) ∧
    ∀ period, (∀ symbol ∈ s.active,
        Regular dataStaleTimeout (pollAt s.clock rounds) (delay rounds symbol) period) →
      (IsClosed (after s rounds (cycle dataStaleTimeout period + 1)) ↔
        InPhase s period (pollAt s.clock rounds 0)) ∧
      ((∃ n, IsClosed (after s rounds n)) ↔ InPhase s period (pollAt s.clock rounds 0)) := by
  refine ⟨fun n => closed_iff hcovers hwatching n, fun period hregular => ?_⟩
  obtain ⟨hphase, hsoon⟩ := allDue_iff hwatching hregular
  constructor
  · rw [closed_iff hcovers hwatching, ← hphase, hsoon]
    simp only [Nat.lt_succ_iff]
  · rw [← hphase]
    constructor
    · rintro ⟨n, hclosed⟩
      obtain ⟨k, -, hk⟩ := (closed_iff hcovers hwatching n).mp hclosed
      exact ⟨k, hk⟩
    · rintro ⟨k, hk⟩
      exact ⟨k + 1, (closed_iff hcovers hwatching (k + 1)).mpr ⟨k, Nat.lt_succ_self k, hk⟩⟩

def apart : Manager :=
  run step (start 0) [.register "EUR/USD", .connect, .authenticate, .register "GBP/USD", .quote "EUR/USD", .wait 5000,
    .quote "GBP/USD"]

def everyFiveSeconds (_ : ℕ) : Round := ⟨5000, [(0, "EUR/USD"), (0, "GBP/USD")]⟩

lemma apart_active {symbol : String} (h : symbol ∈ apart.active) : symbol = "EUR/USD" ∨ symbol = "GBP/USD" := by
  have hactive : apart.active = {"EUR/USD", "GBP/USD"} := by decide +kernel
  simpa [hactive] using h

lemma apart_watching : Watching apart where
  isOpen := ⟨_, rfl, rfl⟩
  stale := by decide +kernel
  active := by decide +kernel
  stamped symbol hsymbol := by
    rcases apart_active hsymbol with rfl | rfl
    · exact ⟨0, by decide +kernel, by decide +kernel⟩
    · exact ⟨5000, by decide +kernel, by decide +kernel⟩

lemma everyFiveSeconds_regular {symbol : String} (h : symbol ∈ apart.active) : Regular dataStaleTimeout
    (pollAt apart.clock everyFiveSeconds) (delay everyFiveSeconds symbol) 5000 where
  pos := by decide
  polls n := by
    have hbegins : begins apart.clock everyFiveSeconds n = apart.clock + n * 5000 := by
      induction n with
      | zero => rfl
      | succ n ih =>
        rw [begins, ih]
        simp only [everyFiveSeconds, Round.length, List.map_cons, List.map_nil, List.sum_cons, List.sum_nil]
        omega
    rw [pollAt, pollAt, hbegins, begins, everyFiveSeconds, everyFiveSeconds]
    omega
  delays n := by
    have hdelay : delay everyFiveSeconds symbol n = 0 := by
      rcases apart_active h with rfl | rfl <;> simp [delay, delayIn, everyFiveSeconds]
    rw [hdelay]
    decide

lemma everyFiveSeconds_covers (n : ℕ) {symbol : String} (h : symbol ∈ apart.active) :
    symbol ∈ (everyFiveSeconds n).pass.map Prod.snd := by
  rcases apart_active h with rfl | rfl <;> simp [everyFiveSeconds]

theorem silence_closes_apart : (∃ n, IsClosed (after apart everyFiveSeconds n)) ↔
    InPhase apart 5000 (pollAt apart.clock everyFiveSeconds 0) :=
  ((silence_closes apart_watching fun n _ h => everyFiveSeconds_covers n h).2 5000 fun _ h =>
    everyFiveSeconds_regular h).2

/-- The first symbol is stale at every fifth poll from the fourth on, the second from the fifth on, and the connection
stays open through a silence that does not end. -/
theorem silence_unnoticed : ¬ ∃ n, IsClosed (after apart everyFiveSeconds n) := by
  rintro ⟨n, hclosed⟩
  obtain ⟨k, -, hk⟩ := (closed_iff (fun n _ h => everyFiveSeconds_covers n h) apart_watching n).mp hclosed
  have hphase := (allDue_iff apart_watching fun _ h => everyFiveSeconds_regular h).1.mp ⟨k, hk⟩
  have hmeet := hphase "EUR/USD" (by decide +kernel) "GBP/USD" (by decide +kernel)
  exact absurd hmeet (by decide +kernel)

end TrxSimulator.Feeds.Staleness
