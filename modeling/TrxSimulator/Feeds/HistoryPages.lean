import TrxSimulator.Feeds.Fields
import TrxSimulator.Foundations.Merges

/-! The provider's history of a symbol, fetched page by page and newest bar first. -/

namespace TrxSimulator.Feeds.HistoryPages

open Fields Foundations.Merges Market.Quotes

structure Row where
  t : Field
  o : Field
  h : Field
  l : Field
  c : Field
  v : Field
deriving DecidableEq

structure Bar where
  time : ℤ
  opening : Number
  high : Number
  low : Number
  closing : Number
  volume : Number
deriving DecidableEq

def Row.bar (row : Row) : Except ReadError Bar := do
  let t ← row.t.toInt
  let opening ← row.o.toFloat
  let high ← row.h.toFloat
  let low ← row.l.toFloat
  let closing ← row.c.toFloat
  let volume ← if row.v = .absent then pure (.finite 0) else row.v.toFloat
  pure { time := t.fdiv 1000, opening, high, low, closing, volume }

def wellFormed (row : Row) : Option Bar := row.bar.toOption

def overflows (rows : List Row) : Bool := rows.any fun row => row.bar = .error .overflow

/-- What a request is answered with: nothing that is JSON, another status than `OK`, or rows, with a `next_url` or
without. -/
inductive Page
  | failed
  | notOk
  | ok (results : List Row) (nextUrl : Bool)

/-- The bars of a page, unless a row raises what is not caught. -/
def parseRows : List Row → Option (List Bar)
  | [] => some []
  | row :: rows =>
    match row.bar with
    | .ok bar => (parseRows rows).map (bar :: ·)
    | .error .malformed => parseRows rows
    | .error .overflow => none

def finalizeMassiveBars (bars : List Bar) (limit : ℕ) : List Bar := latest Bar.time limit bars

structure MassiveHistoryCursor where
  limit : ℕ
  barsSoFar : List Bar
  pagesSoFar : ℕ

variable (massive : ℕ → Page) (maxPages limit : ℕ)

/-- The first page, and the cursor to go on from; the `n`-th request of the history is answered with `massive n`. -/
def fetchMassiveHistoryFirstPage : Option (List Bar × Option MassiveHistoryCursor) :=
  match massive 0 with
  | .failed | .notOk => some ([], none)
  | .ok results nextUrl => do
    let bars ← parseRows results
    let cursor := if bars.length < limit ∧ nextUrl then some ⟨limit, bars, 1⟩ else none
    pure (finalizeMassiveBars bars limit, cursor)

/-- The loop over the further pages, for as many requests as are left under the cap. -/
def readPages (limit : ℕ) : ℕ → ℕ → List Bar → Option (List Bar)
  | 0, _, bars => some bars
  | left + 1, pages, bars =>
    match massive pages with
    | .failed | .notOk => some bars
    | .ok results nextUrl => do
      let more ← parseRows results
      if limit ≤ (bars ++ more).length ∨ nextUrl = false then pure (bars ++ more)
      else readPages limit left (pages + 1) (bars ++ more)

def fetchMassiveHistoryRemaining (cursor : MassiveHistoryCursor) : Option (List Bar) := do
  let bars ← readPages massive cursor.limit (maxPages - cursor.pagesSoFar) cursor.pagesSoFar cursor.barsSoFar
  pure (finalizeMassiveBars bars cursor.limit)

/-- The history of a symbol; none if the call raises. -/
def fetchMassiveHistory : Option (List Bar) := do
  let (first, cursor) ← fetchMassiveHistoryFirstPage massive limit
  match cursor with
  | none => pure first
  | some cursor => fetchMassiveHistoryRemaining massive maxPages cursor

/-- The rows of the pages up to the cap, from one `next_url` to the next. -/
def pagesFrom : ℕ → ℕ → List (List Row)
  | 0, _ => []
  | left + 1, page =>
    match massive page with
    | .failed | .notOk => []
    | .ok results nextUrl => results :: if nextUrl then pagesFrom left (page + 1) else []

def barsOf (pages : List (List Row)) : List Bar := pages.flatten.filterMap wellFormed

def found : List Bar := barsOf (pagesFrom massive maxPages 0)

/-- Wherever the bars read and the first of the pages are rows enough, their times are enough too, or no later page
brings a new one; and a row that overflows stands behind such pages. -/
structure Complete (read : List Bar) (pages : List (List Row)) : Prop where
  enough : ∀ before later, pages = before ++ later → before ≠ [] → limit ≤ (read ++ barsOf before).length →
    Enough Bar.time limit (read ++ barsOf before) (read ++ barsOf pages)
  behind : ∀ before rows later, pages = before ++ rows :: later → overflows rows = true →
    before ≠ [] ∧ limit ≤ (read ++ barsOf before).length

variable {massive maxPages limit} {rows : List Row} {pages : List (List Row)} {read bars : List Bar}

@[simp] lemma barsOf_nil : barsOf [] = [] := rfl

@[simp] lemma barsOf_cons (rows : List Row) (pages : List (List Row)) :
    barsOf (rows :: pages) = rows.filterMap wellFormed ++ barsOf pages := by
  simp [barsOf]

@[simp] lemma barsOf_append (pages pages' : List (List Row)) :
    barsOf (pages ++ pages') = barsOf pages ++ barsOf pages' := by
  simp [barsOf]

lemma parseRows_eq (rows : List Row) :
    parseRows rows = if overflows rows then none else some (rows.filterMap wellFormed) := by
  induction rows with
  | nil => rfl
  | cons row rows ih =>
    cases hrow : row.bar with
    | ok bar =>
      have hbar : wellFormed row = some bar := by simp [wellFormed, hrow, Except.toOption]
      have hfine : overflows (row :: rows) = overflows rows := by simp [overflows, hrow]
      simp only [parseRows, hrow, ih, List.filterMap_cons, hbar, hfine]
      cases overflows rows <;> rfl
    | error e =>
      have hbar : wellFormed row = none := by simp [wellFormed, hrow, Except.toOption]
      cases e with
      | malformed => simp [parseRows, hrow, ih, overflows, hbar]
      | overflow => simp [parseRows, hrow, overflows]

/-- The reading of the pages on their own: it stops where the rows are enough. -/
def gather (limit : ℕ) (bars : List Bar) : List (List Row) → Option (List Bar)
  | [] => some bars
  | rows :: later => do
    let more ← parseRows rows
    if limit ≤ (bars ++ more).length then pure (bars ++ more) else gather limit (bars ++ more) later

lemma readPages_eq (left page : ℕ) (bars : List Bar) :
    readPages massive limit left page bars = gather limit bars (pagesFrom massive left page) := by
  induction left generalizing page bars with
  | zero => rfl
  | succ left ih =>
    cases hpage : massive page with
    | failed | notOk => simp [readPages, pagesFrom, hpage, gather]
    | ok results nextUrl =>
      cases hparse : parseRows results with
      | none => simp [readPages, pagesFrom, hpage, gather, hparse]
      | some more =>
        cases nextUrl with
        | false =>
          simp only [readPages, pagesFrom, hpage, gather, hparse, Option.bind_eq_bind, Option.bind_some]
          simp [gather]
        | true => simp [readPages, pagesFrom, hpage, gather, hparse, ih]

/-- The first page and the rest of them are read as the pages are in one go. -/
lemma fetchMassiveHistory_eq (hcap : 0 < maxPages) :
    fetchMassiveHistory massive maxPages limit =
      (gather limit [] (pagesFrom massive maxPages 0)).map fun bars => finalizeMassiveBars bars limit := by
  obtain ⟨left, rfl⟩ : ∃ left, maxPages = left + 1 := ⟨maxPages - 1, by omega⟩
  cases hpage : massive 0 with
  | failed | notOk =>
    simp [fetchMassiveHistory, fetchMassiveHistoryFirstPage, hpage, pagesFrom, gather, finalizeMassiveBars, latest,
      distinct]
  | ok results nextUrl =>
    cases hparse : parseRows results with
    | none => simp [fetchMassiveHistory, fetchMassiveHistoryFirstPage, hpage, pagesFrom, gather, hparse]
    | some bars =>
      by_cases hlimit : limit ≤ bars.length
      · have hnot : ¬ bars.length < limit := by omega
        simp [fetchMassiveHistory, fetchMassiveHistoryFirstPage, hpage, pagesFrom, gather, hparse, hlimit, hnot]
      · have hshort : bars.length < limit := by omega
        cases nextUrl with
        | false =>
          simp [fetchMassiveHistory, fetchMassiveHistoryFirstPage, hpage, pagesFrom, gather, hparse]
        | true =>
          simp [fetchMassiveHistory, fetchMassiveHistoryFirstPage, hpage, pagesFrom, gather, hparse, hlimit, hshort,
            fetchMassiveHistoryRemaining, readPages_eq]
          cases gather limit bars (pagesFrom massive left 1) <;> rfl

lemma gather_front (h : gather limit read pages = some bars) : bars <+: read ++ barsOf pages := by
  induction pages generalizing read with
  | nil =>
    obtain rfl := Option.some.inj h
    simp
  | cons rows later ih =>
    rw [gather, parseRows_eq] at h
    by_cases hover : overflows rows
    · simp [hover] at h
    · by_cases hlimit : limit ≤ (read ++ rows.filterMap wellFormed).length
      · simp only [hover, hlimit, if_true, Option.bind_eq_bind, Bool.false_eq_true, if_false, Option.bind_some] at h
        obtain rfl := Option.some.inj h
        exact ⟨barsOf later, by simp⟩
      · simp only [hover, hlimit, Option.bind_eq_bind, Bool.false_eq_true, if_false, Option.bind_some] at h
        simpa using ih h

lemma barsOf_read (read : List Bar) (rows : List Row) (pages : List (List Row)) :
    read ++ barsOf (rows :: pages) = (read ++ rows.filterMap wellFormed) ++ barsOf pages := by
  simp

lemma complete_cons (hover : overflows rows = false) (hshort : (read ++ rows.filterMap wellFormed).length < limit) :
    Complete limit read (rows :: pages) ↔ Complete limit (read ++ rows.filterMap wellFormed) pages := by
  constructor
  · intro h
    refine ⟨fun before later hsplit _ hlimit => ?_, fun before rows' later hsplit hrows => ?_⟩
    · have := h.enough (rows :: before) later (by simp [hsplit]) (by simp) (by rwa [barsOf_read])
      rwa [barsOf_read, barsOf_read] at this
    · have := (h.behind (rows :: before) rows' later (by simp [hsplit]) hrows).2
      rw [barsOf_read] at this
      refine ⟨fun hnil => ?_, this⟩
      simp only [hnil, barsOf_nil, List.append_nil] at this
      omega
  · intro h
    refine ⟨fun before later hsplit hne hlimit => ?_, fun before rows' later hsplit hrows => ?_⟩
    · obtain ⟨before, rfl⟩ : ∃ before', before = rows :: before' := by
        cases before with
        | nil => exact absurd rfl hne
        | cons b before => exact ⟨before, by simp_all⟩
      rw [barsOf_read] at hlimit ⊢
      rw [barsOf_read]
      refine h.enough before later (by simpa using hsplit) (fun hnil => ?_) hlimit
      simp only [hnil, barsOf_nil, List.append_nil] at hlimit
      omega
    · cases before with
      | nil =>
        obtain ⟨rfl, -⟩ : rows = rows' ∧ pages = later := by simpa using hsplit
        simp [hover] at hrows
      | cons b before =>
        obtain ⟨rfl, hrest⟩ : rows = b ∧ pages = before ++ rows' :: later := by simpa using hsplit
        rw [barsOf_read]
        exact ⟨by simp, (h.behind before rows' later hrest hrows).2⟩

lemma complete_stop (hover : overflows rows = false) (hlimit : limit ≤ (read ++ rows.filterMap wellFormed).length) :
    Complete limit read (rows :: pages) ↔
      Enough Bar.time limit (read ++ rows.filterMap wellFormed) (read ++ barsOf (rows :: pages)) := by
  constructor
  · intro h
    simpa using h.enough [rows] pages rfl (by simp) (by simpa using hlimit)
  · intro h
    refine ⟨fun before later hsplit hne _ => ?_, fun before rows' later hsplit hrows => ?_⟩
    · cases before with
      | nil => exact absurd rfl hne
      | cons b before =>
        obtain ⟨rfl, -⟩ : rows = b ∧ pages = before ++ later := by simpa using hsplit
        rw [barsOf_read read rows before]
        exact h.mono (List.prefix_append _ _)
    · cases before with
      | nil =>
        obtain ⟨rfl, -⟩ : rows = rows' ∧ pages = later := by simpa using hsplit
        simp [hover] at hrows
      | cons b before =>
        obtain ⟨rfl, -⟩ : rows = b ∧ pages = before ++ rows' :: later := by simpa using hsplit
        rw [barsOf_read, List.length_append]
        exact ⟨by simp, by omega⟩

lemma gather_enough_iff (read : List Bar) (pages : List (List Row)) :
    (∃ bars, gather limit read pages = some bars ∧ Enough Bar.time limit bars (read ++ barsOf pages)) ↔
      Complete limit read pages := by
  induction pages generalizing read with
  | nil =>
    constructor
    · intro _
      exact ⟨by simp, by simp⟩
    · intro _
      exact ⟨read, rfl, .inr (by simp)⟩
  | cons rows pages ih =>
    cases hover : overflows rows with
    | true =>
      constructor
      · rintro ⟨bars, hbars, -⟩
        simp [gather, parseRows_eq, hover] at hbars
      · intro h
        exact absurd rfl (h.behind [] rows pages rfl hover).1
    | false =>
      by_cases hlimit : limit ≤ (read ++ rows.filterMap wellFormed).length
      · have hgather : gather limit read (rows :: pages) = some (read ++ rows.filterMap wellFormed) := by
          simp only [gather, parseRows_eq, hover, Bool.false_eq_true, if_false, Option.bind_eq_bind, Option.bind_some,
            hlimit, if_true, Option.pure_def]
        rw [complete_stop hover hlimit, hgather]
        simp
      · have hgather : gather limit read (rows :: pages) = gather limit (read ++ rows.filterMap wellFormed) pages := by
          simp only [gather, parseRows_eq, hover, Bool.false_eq_true, if_false, Option.bind_eq_bind, Option.bind_some,
            hlimit]
        rw [complete_cons hover (by omega), hgather, barsOf_read, ih]

/-- The history is in ascending order, and is the same when the first page is fetched apart; it is the newest bars of
all pages up to the cap just when rows enough are times enough. -/
theorem history_newest (hcap : 0 < maxPages) (hdescending : Descending Bar.time ∅ (found massive maxPages)) :
    (∀ history, fetchMassiveHistory massive maxPages limit = some history →
      history.Pairwise fun a b => a.time < b.time) ∧
    (∀ first cursor, fetchMassiveHistoryFirstPage massive limit = some (first, cursor) →
      fetchMassiveHistory massive maxPages limit =
        cursor.elim (some first) (fetchMassiveHistoryRemaining massive maxPages)) ∧
    ((∃ history, fetchMassiveHistory massive maxPages limit = some history ∧
        Newest Bar.time limit (found massive maxPages) history) ↔
      Complete limit [] (pagesFrom massive maxPages 0)) := by
  refine ⟨fun history hhistory => ?_, fun first cursor hfirst => ?_, ?_⟩
  · rw [fetchMassiveHistory_eq hcap] at hhistory
    obtain ⟨bars, -, rfl⟩ := Option.map_eq_some_iff.mp hhistory
    exact latest_ascending limit bars
  · rw [fetchMassiveHistory, hfirst]
    cases cursor <;> rfl
  · rw [← gather_enough_iff, fetchMassiveHistory_eq hcap]
    constructor
    · rintro ⟨history, hhistory, hnewest⟩
      obtain ⟨bars, hbars, rfl⟩ := Option.map_eq_some_iff.mp hhistory
      exact ⟨bars, hbars, (newest_latest_iff hdescending (gather_front hbars)).mp hnewest⟩
    · rintro ⟨bars, hbars, henough⟩
      refine ⟨finalizeMassiveBars bars limit, by rw [hbars]; rfl, ?_⟩
      exact (newest_latest_iff hdescending (gather_front hbars)).mpr henough

def flat (seconds : ℤ) (price : ℚ) : Row :=
  let number := Field.real (.finite price)
  ⟨.whole (1000 * seconds), number, number, number, number, .absent⟩

def overlapping : ℕ → Page
  | 0 => .ok [flat 10 1, flat 9 1] true
  | 1 => .ok [flat 9 1] true
  | 2 => .ok [flat 8 1] false
  | _ => .failed

theorem history_newest_two :
    (∃ history, fetchMassiveHistory overlapping 20 2 = some history ∧
        Newest Bar.time 2 (found overlapping 20) history) ↔
      Complete 2 [] (pagesFrom overlapping 20 0) :=
  (history_newest (by decide) (by decide +kernel)).2.2

/-- Three rows are there after two pages, and two bars; the third bar is on the third page. -/
theorem overlap_counts : Descending Bar.time ∅ (found overlapping 20) ∧
    ¬ ∃ history, fetchMassiveHistory overlapping 20 3 = some history ∧
      Newest Bar.time 3 (found overlapping 20) history := by
  refine ⟨by decide +kernel, ?_⟩
  rintro ⟨history, hhistory, hnewest⟩
  have hlength : ((fetchMassiveHistory overlapping 20 3).map List.length) = some 2 := by decide +kernel
  have hcard : (keys Bar.time (found overlapping 20)).card = 3 := by decide +kernel
  have hsize := hnewest.size
  rw [hhistory, Option.map_some, Option.some.injEq] at hlength
  omega

end TrxSimulator.Feeds.HistoryPages
