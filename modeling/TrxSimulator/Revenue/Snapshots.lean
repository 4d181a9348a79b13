import TrxSimulator.Foundations.Runs
import TrxSimulator.ProviderCosts.Posting

/-! The five-minute revenue snapshot: the totals of the previous snapshot plus the broker ledger rows created after
it. A ledger row has its creation time before it is committed, and a snapshot has its own when it is stored. -/

namespace TrxSimulator.Revenue.Snapshots

open Foundations.Runs Foundations.Tables Foundations.Outcomes Foundations.Decimals Money
open ProviderCosts.Posting (RevenueType)

inductive Stage
  | pending | committed | rolledBack
deriving DecidableEq

structure Entry where
  revenueType : RevenueType
  amount : Amount
  createdAt : ℕ
  stage : Stage

abbrev Ledger := Table Entry

/-- The cumulative columns of a snapshot. -/
inductive Column
  | revenue | commission | spread | challenge | withdraw | adjustment
deriving DecidableEq

def Column.all : List Column := [.revenue, .commission, .spread, .challenge, .withdraw, .adjustment]

def Column.sums : Column → RevenueType → Bool
  | .revenue, t => t ≠ .counterpartyPnl
  | .commission, t => t = .commission
  | .spread, t => t = .spread
  | .challenge, t => t = .challengeFee
  | .withdraw, t => t = .withdrawFee
  | .adjustment, t => t = .adjustment

structure Snapshot where
  takenAt : ℕ
  total : Column → Amount
  periodRevenue : Amount
  periodCommission : Amount
  periodSpread : Amount

/-- What a run has read: the previous snapshot, and the ledger that its aggregate is taken over. -/
structure Reading where
  prev : Option Snapshot
  ledger : Ledger

structure Book where
  clock : ℕ
  ledger : Ledger
  snapshots : Table Snapshot
  runs : Table (Option Reading)

inductive TaskError
  | numericOverflow (column : String) (value : ℚ)

def column (name : String) (x : ℚ) : Except TaskError Amount := require (store 18 2 x) (.numericOverflow name x)

def selected (c : Column) (since : Option ℕ) (e : Entry) : Bool :=
  e.stage = .committed && c.sums e.revenueType && since.all fun t => decide (t < e.createdAt)

def aggregate (l : Ledger) (c : Column) (since : Option ℕ) : ℤ :=
  l.total fun _ e => if selected c since e then e.amount.units else 0

namespace Reading

def since (r : Reading) : Option ℕ := r.prev.map Snapshot.takenAt

def base (r : Reading) (c : Column) : ℚ := r.prev.elim 0 fun p => (p.total c).value

def delta (r : Reading) (c : Column) : ℚ := scaled 2 (aggregate r.ledger c r.since)

def totals (r : Reading) : Except TaskError (Column → Amount) := do
  let revenue ← column "total_revenue" (plus (r.base .revenue) (r.delta .revenue))
  let commission ← column "total_commission" (plus (r.base .commission) (r.delta .commission))
  let spread ← column "total_spread" (plus (r.base .spread) (r.delta .spread))
  let challenge ← column "total_challenge" (plus (r.base .challenge) (r.delta .challenge))
  let withdraw ← column "total_withdraw" (plus (r.base .withdraw) (r.delta .withdraw))
  let adjustment ← column "total_adjustment" (plus (r.base .adjustment) (r.delta .adjustment))
  pure fun
    | .revenue => revenue
    | .commission => commission
    | .spread => spread
    | .challenge => challenge
    | .withdraw => withdraw
    | .adjustment => adjustment

def create (r : Reading) (now : ℕ) : Except TaskError Snapshot := do
  let total ← r.totals
  let periodRevenue ← column "period_revenue" (r.delta .revenue)
  let periodCommission ← column "period_commission" (r.delta .commission)
  let periodSpread ← column "period_spread" (r.delta .spread)
  pure { takenAt := now, total, periodRevenue, periodCommission, periodSpread }

end Reading

/-- Of equal times the database may return either row, so the choice is part of the step. -/
def isLatest (snapshots : Table Snapshot) : Option ℕ → Bool
  | none => snapshots.next = 0
  | some k => (snapshots.get k).any fun p => snapshots.rows.all fun q => q.2.takenAt ≤ p.takenAt

inductive Act
  | wait (ticks : ℕ)
  | insert (revenueType : RevenueType) (amount : Amount)
  | commit (entry : ℕ)
  | rollback (entry : ℕ)
  | read (prev : Option ℕ)
  | store (run : ℕ)

def resolve (stage : Stage) (e : Entry) : Entry := if e.stage = .pending then { e with stage } else e

def insert (s : Book) (revenueType : RevenueType) (amount : Amount) : Book :=
  let entry : Entry := { revenueType, amount, createdAt := s.clock, stage := .pending }
  { s with ledger := s.ledger.insert entry }

def read (s : Book) (prev : Option ℕ) : Book :=
  if isLatest s.snapshots prev then
    let reading : Reading := { prev := prev.bind s.snapshots.get, ledger := s.ledger }
    { s with runs := s.runs.insert (some reading) }
  else s

/-- A run ends with its store, also where a column overflows and nothing is stored. -/
def storeRun (s : Book) (k : ℕ) : Book :=
  match (s.runs.get k).bind id with
  | none => s
  | some r =>
    let done := { s with runs := s.runs.update k fun _ => none }
    commit done ((r.create s.clock).map fun snap => { done with snapshots := s.snapshots.insert snap })

def step (s : Book) : Act → Book
  | .wait ticks => { s with clock := s.clock + ticks }
  | .insert revenueType amount => insert s revenueType amount
  | .commit k => { s with ledger := s.ledger.update k (resolve .committed) }
  | .rollback k => { s with ledger := s.ledger.update k (resolve .rolledBack) }
  | .read prev => read s prev
  | .store k => storeRun s k

section Columns

variable {r : Reading} {a b : ℤ} {n : Amount}

lemma column_eq_ok {name : String} {x : ℚ} : column name x = .ok n ↔ store 18 2 x = some n := require_eq_ok

/-- A sum that does not fit the decimal context fits no column either. -/
lemma store_plus (h : store 18 2 (plus (scaled 2 a) (scaled 2 b)) = some n) : n.units = a + b := by
  by_cases hfit : |a + b| < 10 ^ precision
  · rw [plus_scaled hfit, store_scaled] at h
    exact h.symm
  · exfalso
    have hlarge : ¬ |scaled 2 (a + b)| < 10 ^ 26 := by
      intro hlt
      apply hfit
      rw [scaled, abs_div, abs_of_pos (by positivity : (0 : ℚ) < 10 ^ 2), div_lt_iff₀ (by positivity)] at hlt
      have hcast : ((|a + b| : ℤ) : ℚ) < (10 ^ precision : ℤ) := by
        rw [Int.cast_abs]
        refine hlt.trans_le (le_of_eq ?_)
        norm_num [precision]
      exact_mod_cast hcast
    have hcontext : ¬ |plus (scaled 2 a) (scaled 2 b)| < 10 ^ 26 := by
      rw [plus, scaled_add]
      exact fun hlt => hlarge (abs_lt_of_context (by decide) hlt)
    rw [store_eq_some] at h
    have hround := abs_roundHalfAway_sub_le (plus (scaled 2 a) (scaled 2 b) * 10 ^ 2)
    rw [h] at hround
    have hn : |(n.units : ℚ)| < 10 ^ 18 := by exact_mod_cast n.fits
    rw [abs_lt] at hn hcontext
    rw [abs_le] at hround
    apply hcontext
    constructor <;> norm_num at hn hround ⊢ <;> linarith

lemma totals_eq_ok {f : Column → Amount} (h : r.totals = .ok f) (c : Column) :
    store 18 2 (plus (r.base c) (r.delta c)) = some (f c) := by
  simp only [Reading.totals, bind_eq_ok, pure_eq_ok, column_eq_ok] at h
  obtain ⟨_, h1, _, h2, _, h3, _, h4, _, h5, _, h6, rfl⟩ := h
  cases c <;> assumption

end Columns

end TrxSimulator.Revenue.Snapshots
