import Mathlib.Data.Finset.Filter
import Mathlib.Data.Finset.SDiff
import Mathlib.Data.Finset.Dedup
import TrxSimulator.Foundations.Runs
import TrxSimulator.Foundations.Tables

/-! Which symbols have a feed task: the viewers' counts, the symbols marked as having an open position, and the
reconciliation of the marks with the database. -/

namespace TrxSimulator.Feeds.Coverage

open Foundations.Runs Foundations.Tables

inductive Task
  | running | done
deriving DecidableEq

/-- What follows a commit or an unsubscription, one step at a time. A resync reads the database and then sets the
mark; at the end of an unsubscription it is followed by the release of the symbol. -/
inductive Operation
  | mark (symbol : String)
  | readDatabase (symbol : String) (unsubscribing : Bool)
  | setMark (symbol : String) (stillOpen unsubscribing : Bool)
  | release (symbol : String)
  | finished
deriving DecidableEq

/-- `positions` holds the symbol of each open position, `reading` what a reconcile pass has read of it. -/
structure FeedManager where
  positions : List String
  positionSymbols : Finset String
  counts : String → Option ℕ
  tasks : String → Option Task
  operations : Table Operation
  reading : Option (Finset String)

def FeedManager.count (s : FeedManager) (symbol : String) : ℕ := (s.counts symbol).getD 0

def ensureRunning (s : FeedManager) (symbol : String) : FeedManager :=
  { s with tasks := fun other => if other = symbol then some .running else s.tasks other }

def stop (s : FeedManager) (symbol : String) : FeedManager :=
  { s with
    tasks := fun other => if other = symbol then none else s.tasks other
    counts := fun other => if other = symbol then none else s.counts other }

def openPosition (s : FeedManager) (symbol : String) (merged : Bool) : FeedManager :=
  if merged = true ∧ symbol ∉ s.positions then s
  else
    { s with
      positions := if merged then s.positions else symbol :: s.positions
      operations := s.operations.insert (.mark symbol) }

def closePosition (s : FeedManager) (symbol : String) (isPartial : Bool) : FeedManager :=
  if symbol ∈ s.positions then
    { s with
      positions := if isPartial then s.positions else s.positions.erase symbol
      operations := s.operations.insert (.readDatabase symbol false) }
  else s

def subscribe (s : FeedManager) (symbol : String) : FeedManager :=
  let counted : FeedManager :=
    { s with counts := fun other => if other = symbol then some (s.count symbol + 1) else s.counts other }
  ensureRunning counted symbol

def unsubscribe (s : FeedManager) (symbol : String) : FeedManager :=
  let count := (s.counts symbol).getD 1 - 1
  let counted : FeedManager := { s with counts := fun other => if other = symbol then some count else s.counts other }
  if count = 0 ∧ symbol ∉ s.positionSymbols then
    { counted with operations := s.operations.insert (.readDatabase symbol true) }
  else counted

def setMark (s : FeedManager) (symbol : String) (stillOpen : Bool) : FeedManager :=
  { s with
    positionSymbols := if stillOpen then insert symbol s.positionSymbols else s.positionSymbols.erase symbol }

def release (s : FeedManager) (symbol : String) : FeedManager :=
  if s.count symbol = 0 ∧ symbol ∉ s.positionSymbols then stop s symbol else s

def perform (s : FeedManager) : Operation → FeedManager
  | .mark symbol => setMark s symbol true
  | .readDatabase _ _ => s
  | .setMark symbol stillOpen _ => setMark s symbol stillOpen
  | .release symbol => release s symbol
  | .finished => s

def following (s : FeedManager) : Operation → Operation
  | .readDatabase symbol unsubscribing => .setMark symbol (decide (symbol ∈ s.positions)) unsubscribing
  | .setMark symbol _ true => .release symbol
  | .mark _ | .setMark _ _ false | .release _ | .finished => .finished

def advance (s : FeedManager) (k : ℕ) : FeedManager :=
  match s.operations.get k with
  | none => s
  | some o => { perform s o with operations := s.operations.update k (following s) }

/-- The actions of a pass, on the event loop without interruption. -/
def reconcile (s : FeedManager) (dbSymbols : Finset String) : FeedManager :=
  let toAdd := dbSymbols \ s.positionSymbols
  let toRemove := s.positionSymbols \ dbSymbols
  { s with
    positionSymbols := (s.positionSymbols ∪ toAdd) \ toRemove
    tasks := fun symbol =>
      if symbol ∈ toAdd then some .running
      else if symbol ∈ toRemove ∧ s.count symbol = 0 then none
      else s.tasks symbol
    counts := fun symbol => if symbol ∈ toRemove ∧ s.count symbol = 0 then none else s.counts symbol
    reading := none }

inductive Act
  | openPosition (symbol : String) (merged : Bool)
  | closePosition (symbol : String) (isPartial : Bool)
  | subscribe (symbol : String)
  | unsubscribe (symbol : String)
  | advance (operation : ℕ)
  | taskEnds (symbol : String)
  | readPositions
  | reconcile

def step (s : FeedManager) : Act → FeedManager
  | .openPosition symbol merged => openPosition s symbol merged
  | .closePosition symbol isPartial => closePosition s symbol isPartial
  | .subscribe symbol => subscribe s symbol
  | .unsubscribe symbol => unsubscribe s symbol
  | .advance k => advance s k
  | .taskEnds symbol =>
    { s with tasks := fun other => if other = symbol then (s.tasks other).map fun _ => .done else s.tasks other }
  | .readPositions => if s.reading.isNone then { s with reading := some s.positions.toFinset } else s
  | .reconcile => s.reading.elim s (reconcile s)

def start : FeedManager := ⟨[], ∅, fun _ => none, fun _ => none, Table.empty, none⟩

def Running (s : FeedManager) (symbol : String) : Prop := s.tasks symbol = some .running

instance (s : FeedManager) (symbol : String) : Decidable (Running s symbol) := inferInstanceAs (Decidable (_ = _))

def Quiet (s : FeedManager) : Prop := s.reading = none ∧ ∀ x ∈ s.operations.rows, x.2 = .finished

instance (s : FeedManager) : Decidable (Quiet s) := by
  unfold Quiet
  infer_instance

/-- A mark that is set finds the task of an open symbol running. -/
def MarksRunning (s : FeedManager) : Operation → Prop
  | .mark symbol | .setMark symbol true _ => symbol ∈ s.positions → Running s symbol
  | .setMark _ false _ | .readDatabase _ _ | .release _ | .finished => True

/-- Every open symbol that a pass has not read is unmarked or watched. -/
def ReadInTime (s : FeedManager) (dbSymbols : Finset String) : Prop :=
  ∀ symbol ∈ s.positions, symbol ∈ s.positionSymbols → symbol ∈ dbSymbols ∨ 0 < s.count symbol

def Kept (s : FeedManager) : Act → Prop
  | .advance k => ∀ o ∈ s.operations.get k, MarksRunning s o
  | .taskEnds symbol => ¬ (symbol ∈ s.positionSymbols ∧ symbol ∈ s.positions)
  | .reconcile => ∀ dbSymbols ∈ s.reading, ReadInTime s dbSymbols
  | _ => True

instance decidableMarksRunning (s : FeedManager) : ∀ o, Decidable (MarksRunning s o)
  | .mark symbol => inferInstanceAs (Decidable (symbol ∈ s.positions → Running s symbol))
  | .setMark symbol true _ => inferInstanceAs (Decidable (symbol ∈ s.positions → Running s symbol))
  | .setMark _ false _ | .readDatabase _ _ | .release _ | .finished => inferInstanceAs (Decidable True)

instance (s : FeedManager) (dbSymbols : Finset String) : Decidable (ReadInTime s dbSymbols) := by
  unfold ReadInTime
  infer_instance

instance decidableKept (s : FeedManager) : ∀ a, Decidable (Kept s a)
  | .advance k => inferInstanceAs (Decidable (∀ o ∈ s.operations.get k, MarksRunning s o))
  | .taskEnds symbol => inferInstanceAs (Decidable (¬ (symbol ∈ s.positionSymbols ∧ symbol ∈ s.positions)))
  | .reconcile => inferInstanceAs (Decidable (∀ dbSymbols ∈ s.reading, ReadInTime s dbSymbols))
  | .openPosition _ _ | .closePosition _ _ | .subscribe _ | .unsubscribe _ | .readPositions =>
    inferInstanceAs (Decidable True)

/-- The task of a marked symbol with an open position runs, or a mark that will find it running is pending. -/
def Covered (s : FeedManager) : Prop :=
  ∀ symbol ∈ s.positions, symbol ∈ s.positionSymbols →
    Running s symbol ∨ ∃ k, s.operations.get k = some (.mark symbol)

section Steps

variable {s : FeedManager} {symbol : String} {dbSymbols : Finset String}

lemma covered_open (h : Covered s) (symbol : String) (merged : Bool) : Covered (openPosition s symbol merged) := by
  rw [openPosition]
  split
  · exact h
  · intro other hopen hmarked
    by_cases heq : other = symbol
    · subst heq
      exact .inr ⟨s.operations.next, Table.get_insert_next _ _⟩
    · have hold : other ∈ s.positions := by
        dsimp only at hopen
        split at hopen
        · exact hopen
        · exact (List.mem_cons.mp hopen).resolve_left heq
      obtain hrunning | ⟨k, hk⟩ := h other hold hmarked
      · exact .inl hrunning
      · exact .inr ⟨k, Table.get_insert_of_get hk _⟩

lemma covered_close (h : Covered s) (symbol : String) (isPartial : Bool) :
    Covered (closePosition s symbol isPartial) := by
  rw [closePosition]
  split
  · intro other hopen hmarked
    have hold : other ∈ s.positions := by
      dsimp only at hopen
      split at hopen
      · exact hopen
      · exact List.mem_of_mem_erase hopen
    obtain hrunning | ⟨k, hk⟩ := h other hold hmarked
    · exact .inl hrunning
    · exact .inr ⟨k, Table.get_insert_of_get hk _⟩
  · exact h

lemma covered_subscribe (h : Covered s) (symbol : String) : Covered (subscribe s symbol) := by
  intro other hopen hmarked
  obtain hrunning | hpending := h other hopen hmarked
  · refine .inl ?_
    simp only [Running, subscribe, ensureRunning]
    split
    · rfl
    · exact hrunning
  · exact .inr hpending

lemma covered_unsubscribe (h : Covered s) (symbol : String) : Covered (unsubscribe s symbol) := by
  rw [unsubscribe]
  dsimp only
  split
  · intro other hopen hmarked
    obtain hrunning | ⟨k, hk⟩ := h other hopen hmarked
    · exact .inl hrunning
    · exact .inr ⟨k, Table.get_insert_of_get hk _⟩
  · exact h

lemma perform_marks {o : Operation} (ho : MarksRunning s o) (hopen : symbol ∈ (perform s o).positions)
    (hmarked : symbol ∈ (perform s o).positionSymbols) :
    symbol ∈ s.positions ∧ (Running (perform s o) symbol ∨
      symbol ∈ s.positionSymbols ∧ (perform s o).tasks symbol = s.tasks symbol ∧ o ≠ .mark symbol) := by
  cases o with
  | mark other =>
    simp only [perform, setMark] at hopen hmarked ⊢
    refine ⟨hopen, ?_⟩
    by_cases heq : symbol = other
    · subst heq
      exact .inl (ho hopen)
    · have hold : symbol ∈ s.positionSymbols := by simpa [heq] using hmarked
      exact .inr ⟨hold, trivial, by simp [Ne.symm heq]⟩
  | readDatabase _ _ => exact ⟨hopen, .inr ⟨hmarked, rfl, by simp⟩⟩
  | setMark other stillOpen unsubscribing =>
    simp only [perform, setMark] at hopen hmarked ⊢
    refine ⟨hopen, ?_⟩
    cases stillOpen with
    | false => exact .inr ⟨Finset.mem_of_mem_erase hmarked, trivial, by simp⟩
    | true =>
      by_cases heq : symbol = other
      · subst heq
        exact .inl (ho hopen)
      · have hold : symbol ∈ s.positionSymbols := by simpa [heq] using hmarked
        exact .inr ⟨hold, trivial, by simp⟩
  | release other =>
    simp only [perform, release] at hopen hmarked ⊢
    split at hmarked
    · next hidle =>
      rw [if_pos hidle] at hopen ⊢
      have hne : symbol ≠ other := fun heq => hidle.2 (heq ▸ hmarked)
      exact ⟨hopen, .inr ⟨hmarked, by simp [stop, hne], by simp⟩⟩
    · next hidle =>
      rw [if_neg hidle] at hopen ⊢
      exact ⟨hopen, .inr ⟨hmarked, rfl, by simp⟩⟩
  | finished => exact ⟨hopen, .inr ⟨hmarked, rfl, by simp⟩⟩

lemma covered_advance (h : Covered s) {k : ℕ} (hk : ∀ o ∈ s.operations.get k, MarksRunning s o) :
    Covered (advance s k) := by
  rw [advance]
  split
  · exact h
  · next o ho =>
    intro symbol hopen hmarked
    obtain ⟨hold, hrunning | ⟨hwas, htask, hother⟩⟩ := perform_marks (hk o ho) hopen hmarked
    · exact .inl hrunning
    · obtain hrunning | ⟨j, hj⟩ := h symbol hold hwas
      · exact .inl (htask.trans hrunning)
      · refine .inr ⟨j, ?_⟩
        have hne : j ≠ k := by
          rintro rfl
          exact hother (Option.some.inj (ho.symm.trans hj))
        exact (Table.get_update_ne _ hne _).trans hj

lemma covered_taskEnds (h : Covered s) (hends : ¬ (symbol ∈ s.positionSymbols ∧ symbol ∈ s.positions)) :
    Covered (step s (.taskEnds symbol)) := by
  intro other hopen hmarked
  have hne : other ≠ symbol := by
    rintro rfl
    exact hends ⟨hmarked, hopen⟩
  obtain hrunning | hpending := h other hopen hmarked
  · refine .inl ?_
    simpa only [Running, step, if_neg hne] using hrunning
  · exact .inr hpending

/-- A pass marks what it has read, starts the tasks of what it marks anew, and stops what it unmarks. -/
lemma reconcile_tasks (hopen : symbol ∈ s.positions) (hintime : ReadInTime s dbSymbols) :
    Running (reconcile s dbSymbols) symbol ∨
      symbol ∈ dbSymbols ∧ symbol ∈ s.positionSymbols ∧ (reconcile s dbSymbols).tasks symbol = s.tasks symbol ∨
      symbol ∉ (reconcile s dbSymbols).positionSymbols ∧ (reconcile s dbSymbols).tasks symbol = s.tasks symbol := by
  by_cases hread : symbol ∈ dbSymbols
  · by_cases hmarked : symbol ∈ s.positionSymbols
    · exact .inr (.inl ⟨hread, hmarked, by simp [reconcile, hread, hmarked]⟩)
    · exact .inl (by simp [Running, reconcile, hread, hmarked])
  · by_cases hmarked : symbol ∈ s.positionSymbols
    · have hwatched := (hintime symbol hopen hmarked).resolve_left hread
      exact .inr (.inr ⟨by simp [reconcile, hread, hmarked], by simp [reconcile, hread, hmarked, hwatched.ne']⟩)
    · exact .inr (.inr ⟨by simp [reconcile, hread, hmarked], by simp [reconcile, hread, hmarked]⟩)

lemma covered_reconcile (h : Covered s) (hintime : ReadInTime s dbSymbols) : Covered (reconcile s dbSymbols) := by
  intro symbol hopen hmarked
  obtain hrunning | ⟨-, hwas, htask⟩ | ⟨hnot, -⟩ := reconcile_tasks (s := s) hopen hintime
  · exact .inl hrunning
  · obtain hrunning | hpending := h symbol hopen hwas
    · exact .inl (htask.trans hrunning)
    · exact .inr hpending
  · exact absurd hmarked hnot

lemma covered_step (h : Covered s) {a : Act} (ha : Kept s a) : Covered (step s a) := by
  cases a with
  | openPosition symbol merged => exact covered_open h symbol merged
  | closePosition symbol isPartial => exact covered_close h symbol isPartial
  | subscribe symbol => exact covered_subscribe h symbol
  | unsubscribe symbol => exact covered_unsubscribe h symbol
  | advance operation => exact covered_advance h ha
  | taskEnds symbol => exact covered_taskEnds h ha
  | readPositions =>
    rw [step]
    split <;> exact h
  | reconcile =>
    rw [step]
    cases hreading : s.reading with
    | none => exact h
    | some dbSymbols => exact covered_reconcile h (ha dbSymbols hreading)

/-- Nothing but its marked symbols without a task keeps a whole pass from covering the open positions. -/
lemma further_pass_iff (hquiet : Quiet s) :
    (∀ symbol ∈ s.positions, Running (run step s [.readPositions, .reconcile]) symbol) ↔
      ∀ symbol ∈ s.positions, symbol ∈ s.positionSymbols → Running s symbol := by
  have hpass : run step s [.readPositions, .reconcile] =
      reconcile { s with reading := some s.positions.toFinset } s.positions.toFinset := by
    simp only [run_cons, run_nil, step, hquiet.1, Option.isNone_none, if_true, Option.elim_some]
  rw [hpass]
  refine forall₂_congr fun symbol hopen => ?_
  have hread : symbol ∈ s.positions.toFinset := List.mem_toFinset.mpr hopen
  by_cases hmarked : symbol ∈ s.positionSymbols
  · simp [Running, reconcile, hopen, hmarked]
  · simp [Running, reconcile, hopen, hmarked]

end Steps

lemma covered_run {s : FeedManager} (h : Covered s) {acts : List Act} (hg : Guarded step Kept s acts) :
    Covered (run step s acts) :=
  guarded_invariant (I := Covered) (fun _ _ hs ha => covered_step hs ha) h hg

/-- As long as marks find the tasks of open symbols running, no task of a marked open symbol ends by itself, and each
pass acts on a read in which no marked and unwatched open symbol is missing: a pass stops no feed of an open symbol,
and after the last step one further pass leaves a running feed for every open symbol. -/
theorem feeds_covered (acts : List Act) (hg : Guarded step Kept start acts) :
    let s := run step start acts
    (Quiet s → ∀ symbol ∈ s.positions, Running (run step s [.readPositions, .reconcile]) symbol) ∧
      (Kept s .reconcile → ∀ symbol ∈ s.positions, Running s symbol → Running (step s .reconcile) symbol) := by
  have h : Covered (run step start acts) := covered_run (fun _ hopen => by cases hopen) hg
  refine ⟨fun hquiet => ?_, fun hintime symbol hopen hrunning => ?_⟩
  · apply (further_pass_iff hquiet).mpr
    intro symbol hopen hmarked
    obtain hrunning | ⟨k, hk⟩ := h symbol hopen hmarked
    · exact hrunning
    · have hfinished := hquiet.2 (k, .mark symbol) (Table.mem_rows.mpr hk)
      cases hfinished
  · rw [step]
    cases hreading : (run step start acts).reading with
    | none => exact hrunning
    | some dbSymbols =>
      obtain hstarted | ⟨-, -, htask⟩ | ⟨-, htask⟩ := reconcile_tasks hopen (hintime dbSymbols hreading)
      · exact hstarted
      · exact htask.trans hrunning
      · exact htask.trans hrunning

def watchedOpen : List Act := [.subscribe "EUR/USD", .openPosition "EUR/USD" false, .advance 0]

theorem feeds_covered_example :
    let s := run step start (watchedOpen ++ [.unsubscribe "EUR/USD", .readPositions])
    Running (step s .reconcile) "EUR/USD" ∧
      Running (run step (step s .reconcile) [.readPositions, .reconcile]) "EUR/USD" := by
  let acts := watchedOpen ++ [.unsubscribe "EUR/USD", .readPositions]
  have hlast := feeds_covered acts (by decide +kernel)
  have hnext := feeds_covered (acts ++ [.reconcile]) (by decide +kernel)
  exact ⟨hlast.2 (by decide +kernel) "EUR/USD" (by decide +kernel) (by decide +kernel),
    hnext.1 (by decide +kernel) "EUR/USD" (by decide +kernel)⟩

/-- A task that ends under a marked symbol is never started again; and a pass that has read before a position was
opened stops its feed. -/
theorem feeds_uncovered :
    (let s := run step start (watchedOpen ++ [.unsubscribe "EUR/USD", .taskEnds "EUR/USD"]);
      Quiet s ∧ "EUR/USD" ∈ s.positions ∧ ¬ Running (run step s [.readPositions, .reconcile]) "EUR/USD" ∧
        ¬ Running (run step s [.readPositions, .reconcile, .readPositions, .reconcile]) "EUR/USD") ∧
      let s := run step start ([.readPositions] ++ watchedOpen ++ [.unsubscribe "EUR/USD"])
      "EUR/USD" ∈ s.positions ∧ Running s "EUR/USD" ∧ ¬ Running (step s .reconcile) "EUR/USD" := by
  decide +kernel

end TrxSimulator.Feeds.Coverage
