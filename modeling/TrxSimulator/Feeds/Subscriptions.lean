import Mathlib.Data.Finset.Filter
import Mathlib.Data.Finset.Lattice.Basic
import Mathlib.Data.Finset.Union
import TrxSimulator.Foundations.Runs

/-! The one upstream connection that all active symbols share: symbols that join and leave, the watchdog that
resubscribes what has gone quiet, and the reader that authenticates and reconnects. -/

namespace TrxSimulator.Feeds.Subscriptions

open Foundations.Runs

inductive Message
  | subscribe (symbols : Finset String)
  | unsubscribe (symbol : String)

def hear (subscribed : Finset String) : Message → Finset String
  | .subscribe symbols => subscribed ∪ symbols
  | .unsubscribe symbol => subscribed.erase symbol

/-- What the provider takes to be subscribed after the messages of a connection. -/
def believed (sent : List Message) : Finset String := sent.foldl hear ∅

structure Socket where
  isOpen : Bool
  sent : List Message

/-- `stale` is what the watchdog still holds of the list that it computed before taking the lock. -/
structure Manager where
  clock : ℕ
  sharedTask : Bool
  ws : Option Socket
  authed : Bool
  subscribed : Finset String
  active : Finset String
  lastQuoteAt : String → Option ℕ
  stale : Finset String

def dataStaleTimeout : ℕ := 20000

/-- A send raises on a connection that has closed. -/
def Socket.send (ws : Socket) (m : Message) : Option Socket :=
  if ws.isOpen then some { ws with sent := ws.sent ++ [m] } else none

def noteQuote (s : Manager) (symbol : String) : String → Option ℕ :=
  fun other => if other = symbol then some s.clock else s.lastQuoteAt other

def endConnection (s : Manager) : Manager := { s with ws := none, authed := false, subscribed := ∅, stale := ∅ }

def registerSymbol (s : Manager) (symbol : String) : Manager :=
  let lastQuoteAt := if (s.lastQuoteAt symbol).isSome then s.lastQuoteAt else noteQuote s symbol
  let joined : Manager := { s with active := insert symbol s.active, lastQuoteAt }
  if s.sharedTask = false then { joined with sharedTask := true }
  else
    match s.ws with
    | none => joined
    | some ws =>
      if s.authed = true ∧ symbol ∉ s.subscribed then
        match ws.send (.subscribe {symbol}) with
        | some ws => { joined with ws := some ws, subscribed := insert symbol s.subscribed }
        | none => joined
      else joined

def leave (s : Manager) (symbol : String) : Manager :=
  let lastQuoteAt := fun other => if other = symbol then none else s.lastQuoteAt other
  let left : Manager :=
    { s with active := s.active.erase symbol, lastQuoteAt, subscribed := s.subscribed.erase symbol }
  if symbol ∈ s.subscribed ∧ s.authed = true then
    { left with ws := s.ws.map fun ws => (ws.send (.unsubscribe symbol)).getD ws }
  else left

/-- The last symbol to leave takes the shared task down with it. -/
def unregisterSymbol (s : Manager) (symbol : String) : Manager :=
  if (leave s symbol).active = ∅ ∧ s.sharedTask = true then
    { endConnection (leave s symbol) with sharedTask := false }
  else leave s symbol

def staleSymbols (s : Manager) : Finset String :=
  s.active.filter fun symbol => dataStaleTimeout < s.clock - (s.lastQuoteAt symbol).getD s.clock

def pollWatchdog (s : Manager) : Manager :=
  if s.ws.isNone = true ∨ s.stale ≠ ∅ ∨ s.active = ∅ then s
  else if staleSymbols s = s.active then { s with ws := s.ws.map fun ws => { ws with isOpen := false } }
  else { s with stale := staleSymbols s }

def resubscribe (s : Manager) (symbol : String) : Manager :=
  if symbol ∈ s.stale then
    let rest : Manager := { s with stale := s.stale.erase symbol }
    match s.ws with
    | none => { rest with lastQuoteAt := noteQuote s symbol }
    | some ws =>
      if s.authed = true then
        match (ws.send (.unsubscribe symbol)).bind fun ws => ws.send (.subscribe {symbol}) with
        | some ws => { rest with ws := some ws, lastQuoteAt := noteQuote s symbol }
        | none => rest
      else { rest with lastQuoteAt := noteQuote s symbol }
  else s

def connect (s : Manager) : Manager :=
  if s.sharedTask = true ∧ s.ws.isNone = true then
    { s with
      ws := some ⟨true, []⟩, authed := false,
      lastQuoteAt := fun symbol => if symbol ∈ s.active then some s.clock else s.lastQuoteAt symbol }
  else s

def authenticate (s : Manager) : Manager :=
  match s.ws with
  | none => s
  | some ws =>
    if s.active = ∅ then { s with authed := true }
    else
      match ws.send (.subscribe s.active) with
      | some ws => { s with ws := some ws, authed := true, subscribed := s.subscribed ∪ s.active }
      | none => endConnection s

def quote (s : Manager) (symbol : String) : Manager :=
  if s.authed = true ∧ symbol ∈ s.active then { s with lastQuoteAt := noteQuote s symbol } else s

inductive Act
  | wait (milliseconds : ℕ)
  | register (symbol : String)
  | unregister (symbol : String)
  | poll
  | resubscribe (symbol : String)
  | connect
  | authenticate
  | quote (symbol : String)
  | drop
  | endConnection

def step (s : Manager) : Act → Manager
  | .wait milliseconds => { s with clock := s.clock + milliseconds }
  | .register symbol => registerSymbol s symbol
  | .unregister symbol => unregisterSymbol s symbol
  | .poll => pollWatchdog s
  | .resubscribe symbol => resubscribe s symbol
  | .connect => connect s
  | .authenticate => authenticate s
  | .quote symbol => quote s symbol
  | .drop => { s with ws := s.ws.map fun ws => { ws with isOpen := false } }
  | .endConnection => endConnection s

def start (clock : ℕ) : Manager := ⟨clock, false, none, false, ∅, ∅, fun _ => none, ∅⟩

/-- A symbol that is resubscribed has not left since the list was computed. -/
def StillActive (s : Manager) : Act → Prop
  | .resubscribe symbol => symbol ∈ s.stale → symbol ∈ s.active
  | _ => True

instance decidableStillActive (s : Manager) : ∀ a, Decidable (StillActive s a)
  | .resubscribe symbol => inferInstanceAs (Decidable (symbol ∈ s.stale → symbol ∈ s.active))
  | .wait _ | .register _ | .unregister _ | .poll | .connect | .authenticate | .quote _ | .drop | .endConnection =>
    inferInstanceAs (Decidable True)

def Tracked (s : Manager) : Prop := ∀ symbol, (s.lastQuoteAt symbol).isSome = true → symbol ∈ s.active

def Running (s : Manager) : Prop := s.sharedTask = false → s.ws = none

structure Matched (s : Manager) : Prop where
  tracked : Tracked s
  member : s.subscribed ⊆ s.active
  closed : s.ws = none → s.authed = false ∧ s.subscribed = ∅
  joining : ∀ ws ∈ s.ws, s.authed = false → believed ws.sent = ∅ ∧ s.subscribed = ∅
  live : ∀ ws ∈ s.ws, ws.isOpen = true → s.authed = true → believed ws.sent = s.subscribed ∧ s.subscribed = s.active

section Steps

variable {s : Manager} {ws ws' : Socket} {m : Message} {symbol : String} {a : Act}

@[simp] lemma believed_append (sent : List Message) (m : Message) :
    believed (sent ++ [m]) = hear (believed sent) m := by
  simp [believed]

lemma send_some (h : ws.send m = some ws') :
    ws.isOpen = true ∧ ws'.isOpen = true ∧ believed ws'.sent = hear (believed ws.sent) m := by
  rw [Socket.send] at h
  split at h
  · next hopen =>
    obtain rfl := Option.some.inj h
    exact ⟨hopen, hopen, believed_append ws.sent m⟩
  · cases h

lemma send_none (h : ws.send m = none) : ws.isOpen = false := by
  rw [Socket.send] at h
  split at h
  · cases h
  · next hopen => simpa using hopen

lemma tracked_note (h : Tracked s) (hactive : symbol ∈ s.active) :
    Tracked { s with lastQuoteAt := noteQuote s symbol } := by
  intro other hother
  simp only [noteQuote] at hother
  split at hother
  · next heq => exact heq ▸ hactive
  · exact h other hother

lemma matched_same {t : Manager} (h : Matched s) (hws : t.ws = s.ws) (hauthed : t.authed = s.authed)
    (hsubscribed : t.subscribed = s.subscribed) (hactive : t.active = s.active) (htracked : Tracked t) : Matched t := by
  refine ⟨htracked, ?_, ?_, ?_, ?_⟩
  · rw [hsubscribed, hactive]
    exact h.member
  · rw [hws, hauthed, hsubscribed]
    exact h.closed
  · rw [hws, hauthed, hsubscribed]
    exact h.joining
  · rw [hws, hauthed, hsubscribed, hactive]
    exact h.live

lemma matched_end (h : Tracked s) (sharedTask : Bool) : Matched { endConnection s with sharedTask } :=
  ⟨h, Finset.empty_subset _, fun _ => ⟨rfl, rfl⟩, fun _ hws => (by cases hws), fun _ hws => (by cases hws)⟩

lemma tracked_register (h : Tracked s) (symbol : String) :
    Tracked { s with
      active := insert symbol s.active,
      lastQuoteAt := if (s.lastQuoteAt symbol).isSome then s.lastQuoteAt else noteQuote s symbol } := by
  intro other hother
  dsimp only at hother ⊢
  split at hother
  · exact Finset.mem_insert_of_mem (h other hother)
  · simp only [noteQuote] at hother
    split at hother
    · next heq => exact heq ▸ Finset.mem_insert_self _ _
    · exact Finset.mem_insert_of_mem (h other hother)

lemma matched_register (h : Matched s) (symbol : String) (hrunning : Running s) :
    Matched (registerSymbol s symbol) := by
  have htracked := tracked_register h.tracked symbol
  have hmember : s.subscribed ⊆ insert symbol s.active := h.member.trans (Finset.subset_insert _ _)
  rw [registerSymbol]
  split
  · next htask =>
    have hws := hrunning htask
    refine ⟨htracked, hmember, h.closed, h.joining, ?_⟩
    dsimp only
    rw [hws]
    exact fun _ hnone => (by cases hnone)
  · split
    · next hws =>
      refine ⟨htracked, hmember, h.closed, h.joining, ?_⟩
      dsimp only
      rw [hws]
      exact fun _ hnone => (by cases hnone)
    · next ws hws =>
      split
      · next hjoin =>
        obtain ⟨hauthed, hnew⟩ := hjoin
        split
        · next ws' hsend =>
          obtain ⟨hopen, -, hbelieved⟩ := send_some hsend
          obtain ⟨hheard, hactive⟩ := h.live ws hws hopen hauthed
          refine ⟨htracked, Finset.insert_subset_insert _ h.member, fun hnone => (by cases hnone), ?_, ?_⟩
          · exact fun _ _ hfalse => absurd hauthed (by rw [hfalse]; decide)
          · intro ws'' hws'' _ _
            obtain rfl := Option.some.inj hws''
            refine ⟨?_, congrArg (insert symbol) hactive⟩
            rw [hbelieved, hheard, hear]
            exact (Finset.union_comm _ _).trans (Finset.insert_eq _ _).symm
        · next hsend =>
          refine ⟨htracked, hmember, h.closed, h.joining, fun ws'' hws'' hopen => ?_⟩
          obtain rfl := Option.some.inj (hws.symm.trans hws'')
          rw [send_none hsend] at hopen
          cases hopen
      · next hjoin =>
        refine ⟨htracked, hmember, h.closed, h.joining, fun ws'' hws'' hopen hauthed => ?_⟩
        obtain ⟨hheard, hactive⟩ := h.live ws'' hws'' hopen hauthed
        refine ⟨hheard, ?_⟩
        have hin : symbol ∈ s.subscribed := by
          by_contra hout
          exact hjoin ⟨hauthed, hout⟩
        dsimp only
        rw [Finset.insert_eq_of_mem (h.member hin), hactive]

lemma matched_leave (h : Matched s) (symbol : String) : Matched (leave s symbol) := by
  have htracked : Tracked { s with
      active := s.active.erase symbol,
      lastQuoteAt := fun other => if other = symbol then none else s.lastQuoteAt other } := by
    intro other hother
    dsimp only at hother ⊢
    split at hother
    · cases hother
    · next hne => exact Finset.mem_erase.mpr ⟨hne, h.tracked other hother⟩
  have hempty : s.subscribed = ∅ → s.subscribed.erase symbol = ∅ := fun he => by simp [he]
  rw [leave]
  split
  · next htold =>
    obtain ⟨hin, hauthed⟩ := htold
    refine ⟨htracked, Finset.erase_subset_erase _ h.member, fun hnone => ?_, ?_, ?_⟩
    · obtain ⟨hclosed, hnot⟩ := h.closed (by simpa using hnone)
      exact ⟨hclosed, hempty hnot⟩
    · exact fun _ _ hfalse => absurd hauthed (by rw [hfalse]; decide)
    · intro ws' hws' hopen _
      obtain ⟨ws, hws, rfl⟩ := Option.map_eq_some_iff.mp hws'
      cases hsend : ws.send (.unsubscribe symbol) with
      | none =>
        rw [hsend, Option.getD_none, send_none hsend] at hopen
        cases hopen
      | some told =>
        obtain ⟨hwas, -, hbelieved⟩ := send_some hsend
        obtain ⟨hheard, hactive⟩ := h.live ws hws hwas hauthed
        refine ⟨?_, congrArg (Finset.erase · symbol) hactive⟩
        rw [Option.getD_some, hbelieved, hheard, hear]
  · next htold =>
    refine ⟨htracked, Finset.erase_subset_erase _ h.member, fun hnone => ?_, fun ws hws hfalse => ?_, ?_⟩
    · obtain ⟨hclosed, hnot⟩ := h.closed hnone
      exact ⟨hclosed, hempty hnot⟩
    · obtain ⟨hheard, hnot⟩ := h.joining ws hws hfalse
      exact ⟨hheard, hempty hnot⟩
    · intro ws hws hopen hauthed
      obtain ⟨hheard, hactive⟩ := h.live ws hws hopen hauthed
      have hout : symbol ∉ s.subscribed := fun hin => htold ⟨hin, hauthed⟩
      refine ⟨?_, congrArg (Finset.erase · symbol) hactive⟩
      dsimp only
      rw [hheard, Finset.erase_eq_of_notMem hout]

lemma matched_unregister (h : Matched s) (symbol : String) : Matched (unregisterSymbol s symbol) := by
  have hleave := matched_leave h symbol
  rw [unregisterSymbol]
  split
  · exact matched_end hleave.tracked false
  · exact hleave

lemma matched_drop (h : Matched s) : Matched { s with ws := s.ws.map fun ws => { ws with isOpen := false } } := by
  refine ⟨h.tracked, h.member, fun hnone => h.closed (by simpa using hnone), fun ws hws hfalse => ?_, ?_⟩
  · obtain ⟨old, hold, rfl⟩ := Option.map_eq_some_iff.mp hws
    exact h.joining old hold hfalse
  · intro ws hws hopen
    obtain ⟨old, -, rfl⟩ := Option.map_eq_some_iff.mp hws
    cases hopen

lemma matched_poll (h : Matched s) : Matched (pollWatchdog s) := by
  rw [pollWatchdog]
  split
  · exact h
  · split
    · exact matched_drop h
    · exact matched_same h rfl rfl rfl rfl h.tracked

lemma matched_resubscribe (h : Matched s) (hactive : symbol ∈ s.stale → symbol ∈ s.active) :
    Matched (resubscribe s symbol) := by
  rw [resubscribe]
  split
  · next hstale =>
    have htracked := tracked_note h.tracked (hactive hstale)
    split
    · exact matched_same h rfl rfl rfl rfl htracked
    · next ws hws =>
      split
      · next hauthed =>
        split
        · next ws' hsend =>
          obtain ⟨told, hfirst, hsecond⟩ := Option.bind_eq_some_iff.mp hsend
          obtain ⟨hopen, -, hunsubscribed⟩ := send_some hfirst
          obtain ⟨-, -, hsubscribed⟩ := send_some hsecond
          obtain ⟨hheard, hall⟩ := h.live ws hws hopen hauthed
          have hin : symbol ∈ s.subscribed := hall ▸ hactive hstale
          refine ⟨htracked, h.member, fun hnone => (by cases hnone), ?_, ?_⟩
          · exact fun _ _ hfalse => absurd hauthed (by rw [hfalse]; decide)
          · intro ws'' hws'' _ _
            obtain rfl := Option.some.inj hws''
            refine ⟨?_, hall⟩
            rw [hsubscribed, hunsubscribed, hheard, hear, hear, Finset.union_comm, ← Finset.insert_eq,
              Finset.insert_erase hin]
        · exact matched_same h rfl rfl rfl rfl h.tracked
      · exact matched_same h rfl rfl rfl rfl htracked
  · exact h

lemma matched_connect (h : Matched s) : Matched (connect s) := by
  rw [connect]
  split
  · next hfree =>
    obtain ⟨-, hnot⟩ := h.closed (by simpa using hfree.2)
    refine ⟨fun other hother => ?_, h.member, fun hnone => (by cases hnone), fun ws hws _ => ?_, ?_⟩
    · dsimp only at hother
      split at hother
      · next hin => exact hin
      · exact h.tracked other hother
    · obtain rfl := Option.some.inj hws
      exact ⟨rfl, hnot⟩
    · exact fun _ _ _ hauthed => (by cases hauthed)
  · exact h

lemma matched_authenticate (h : Matched s) : Matched (authenticate s) := by
  rw [authenticate]
  split
  · exact h
  · next ws hws =>
    split
    · next hnobody =>
      refine ⟨h.tracked, h.member, fun hnone => absurd (hws.symm.trans hnone) (by simp), ?_, ?_⟩
      · exact fun _ _ hfalse => (by cases hfalse)
      · intro ws' hws' hopen _
        cases hauthed : s.authed with
        | true => exact h.live ws' hws' hopen hauthed
        | false =>
          obtain ⟨hheard, hnot⟩ := h.joining ws' hws' hauthed
          exact ⟨hheard.trans hnot.symm, hnot.trans hnobody.symm⟩
    · split
      · next ws' hsend =>
        obtain ⟨hopen, -, hbelieved⟩ := send_some hsend
        have hall : s.subscribed ∪ s.active = s.active := Finset.union_eq_right.mpr h.member
        refine ⟨h.tracked, Finset.union_subset h.member subset_rfl, fun hnone => (by cases hnone), ?_, ?_⟩
        · exact fun _ _ hfalse => (by cases hfalse)
        · intro ws'' hws'' _ _
          obtain rfl := Option.some.inj hws''
          refine ⟨?_, hall⟩
          rw [hbelieved, hear, hall]
          cases hauthed : s.authed with
          | true =>
            obtain ⟨hheard, hactive⟩ := h.live ws hws hopen hauthed
            rw [hheard, hactive, Finset.union_self]
          | false => rw [(h.joining ws hws hauthed).1, Finset.empty_union]
      · exact matched_end h.tracked s.sharedTask

lemma running_step (h : Running s) (a : Act) : Running (step s a) := by
  cases a with
  | wait milliseconds => exact h
  | register symbol =>
    rw [step, registerSymbol]
    grind [Running]
  | unregister symbol =>
    have hleave : Running (leave s symbol) := by
      rw [leave]
      split
      · exact fun htask => by simp [h htask]
      · exact h
    rw [step, unregisterSymbol]
    split
    · exact fun _ => rfl
    · exact hleave
  | poll =>
    rw [step, pollWatchdog]
    split
    · exact h
    · split
      · exact fun htask => by simp [h htask]
      · exact h
  | resubscribe symbol =>
    rw [step, resubscribe]
    grind [Running]
  | connect =>
    rw [step, connect]
    grind [Running]
  | authenticate =>
    rw [step, authenticate]
    grind [Running, endConnection]
  | quote symbol =>
    rw [step, quote]
    split <;> exact h
  | drop => exact fun htask => by simp [step, h htask]
  | endConnection => exact fun _ => rfl

lemma matched_step (h : Matched s) (hrunning : Running s) (ha : StillActive s a) : Matched (step s a) := by
  cases a with
  | wait milliseconds => exact matched_same h rfl rfl rfl rfl h.tracked
  | register symbol => exact matched_register h symbol hrunning
  | unregister symbol => exact matched_unregister h symbol
  | poll => exact matched_poll h
  | resubscribe symbol => exact matched_resubscribe h ha
  | connect => exact matched_connect h
  | authenticate => exact matched_authenticate h
  | quote symbol =>
    rw [step, quote]
    split
    · next hquoted => exact matched_same h rfl rfl rfl rfl (tracked_note h.tracked hquoted.2)
    · exact h
  | drop => exact matched_drop h
  | endConnection => exact matched_end h.tracked s.sharedTask

lemma matched_start (clock : ℕ) : Matched (start clock) ∧ Running (start clock) :=
  ⟨⟨fun _ h => (by cases h), Finset.empty_subset _, fun _ => ⟨rfl, rfl⟩, fun _ h => (by cases h),
    fun _ h => (by cases h)⟩, fun _ => rfl⟩

end Steps

/-- As long as every symbol is still active when the watchdog resubscribes it, an authenticated connection has told
the provider of the active symbols and of no others, and only active symbols have a last quote. -/
theorem subscriptions_match (clock : ℕ) (acts : List Act) (hg : Guarded step StillActive (start clock) acts) :
    let s := run step (start clock) acts
    (∀ ws, s.ws = some ws → ws.isOpen = true → s.authed = true →
      believed ws.sent = s.subscribed ∧ s.subscribed = s.active) ∧
      ∀ symbol, (s.lastQuoteAt symbol).isSome = true → symbol ∈ s.active := by
  have hboth : Matched (run step (start clock) acts) ∧ Running (run step (start clock) acts) :=
    guarded_invariant (I := fun s => Matched s ∧ Running s)
      (fun _ a h ha => ⟨matched_step h.1 h.2 ha, running_step h.2 a⟩) (matched_start clock) hg
  exact ⟨hboth.1.live, hboth.1.tracked⟩

def quietPair : List Act :=
  [.register "EUR/USD", .register "GBP/USD", .connect, .authenticate, .wait 15000, .quote "GBP/USD", .wait 10000, .poll]

theorem subscriptions_match_example :
    ∃ ws, (run step (start 0) (quietPair ++ [.resubscribe "EUR/USD"])).ws = some ws ∧
      believed ws.sent = {"EUR/USD", "GBP/USD"} := by
  have hws : (run step (start 0) (quietPair ++ [.resubscribe "EUR/USD"])).ws.isSome = true := by decide +kernel
  obtain ⟨ws, hws⟩ := Option.isSome_iff_exists.mp hws
  obtain ⟨hheard, hactive⟩ :=
    (subscriptions_match 0 (quietPair ++ [.resubscribe "EUR/USD"]) (by decide +kernel)).1 ws hws
    (by
      have hopen : (run step (start 0) (quietPair ++ [.resubscribe "EUR/USD"])).ws.all Socket.isOpen = true := by
        decide +kernel
      rw [hws] at hopen
      exact hopen)
    (by decide +kernel)
  exact ⟨ws, hws, (hheard.trans hactive).trans (by decide +kernel)⟩

/-- A symbol that leaves between the watchdog's list and its turn under the lock stays subscribed upstream, and keeps
a last quote. -/
theorem departed_symbol_resubscribed :
    let s := run step (start 0) (quietPair ++ [.unregister "EUR/USD", .resubscribe "EUR/USD"])
    s.stale = ∅ ∧ s.authed = true ∧ s.active = {"GBP/USD"} ∧ s.subscribed = {"GBP/USD"} ∧
      (s.ws.any fun ws => ws.isOpen && decide (believed ws.sent = {"EUR/USD", "GBP/USD"})) = true ∧
      (s.lastQuoteAt "EUR/USD").isSome = true := by
  decide +kernel

end TrxSimulator.Feeds.Subscriptions
