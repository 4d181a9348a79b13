import Mathlib.Logic.Function.Basic
import TrxSimulator.Market.Spreads
import TrxSimulator.Trading.Reconciliation
import TrxSimulator.Trading.Executions
import TrxSimulator.Trading.Rows
import TrxSimulator.Trading.Quantities

/-! The spread fee of a market open, read off what the connection has kept of the last tick of the symbol. -/

namespace TrxSimulator.Trading.SpreadFees

open Foundations.Runs Foundations.Tables Foundations.Outcomes Foundations.Decimals Foundations.Floats
open Money Charges Writers Executions
open Market.Symbols Market.Pnl Market.Spreads
open Reconciliation (column_ok)
open Rows (execute_rows)
open Accounts (EventType)

inductive RevenueType
  | commission | spread
deriving DecidableEq

structure BrokerEntry where
  revenueType : RevenueType
  amount : Amount
  sourceAccount : ℕ
  sourceLedger : ℕ
  symbol : String
deriving DecidableEq

structure Connection where
  account : ℕ
  goldAllowed : Bool
  symbol : String
  configs : SpreadConfigCache
  fields : CommercialPricingFields
  snapshots : String → Option PricingSnapshot
  desk : Desk
  brokerLedger : Table BrokerEntry

structure Tick where
  symbol : String
  valid : Bool
  multipliers : List ℚ
deriving DecidableEq

/-- Whether an order is admitted rests on prices and limits of the moment; a row of the broker's may fail to be
written without the trade. -/
structure Order where
  symbol : String
  side : Side
  qty : ℚ
  price : ℚ
  commission : ℚ
  nettingMode : Bool
  admitted : Bool
  commissionRowFails : Bool
  spreadRowFails : Bool
deriving DecidableEq

variable (r : Arithmetic)

def symbolAllowed (c : Connection) (symbol : String) : Bool :=
  (registry.any fun spec => spec.enabled && decide (spec.symbol = symbol)) ||
    (decide (symbol = "XAU/USD") && c.goldAllowed)

section Ticks

def Accepts (c : Connection) (t : Tick) : Prop := t.symbol = c.symbol ∧ t.valid = true

instance (c : Connection) (t : Tick) : Decidable (Accepts c t) := inferInstanceAs (Decidable (_ ∧ _))

/-- A tick of another symbol is not the connection's, and an invalid one is skipped. -/
def priceTick (c : Connection) (t : Tick) : Connection :=
  if Accepts c t then
    let profile := buildCommercialPricingProfile c.configs c.fields t.symbol
    let inputs := buildDynamicInputs c.configs t.symbol profile t.multipliers
    let snapshot := tickPricingSnapshot r c.configs t.symbol profile inputs
    { c with snapshots := Function.update c.snapshots t.symbol (some snapshot) }
  else c

def changeSymbol (c : Connection) (symbol : String) : Connection :=
  if symbolAllowed c symbol then { c with symbol } else c

end Ticks

section Orders

/-- Without a tick of the symbol there is no snapshot, and the spread is taken to be nothing. -/
def effectiveSpreadPips (c : Connection) (symbol : String) : ℚ :=
  (c.snapshots symbol).elim 0 PricingSnapshot.effectiveAfterBounds

def spreadFee (symbol : String) (qty pips : ℚ) : ℚ :=
  let revenue := if 0 < pips then calculateSpreadRevenue r symbol qty pips else 0
  if 0 < revenue then r.str revenue else 0

def Order.toOpen (c : Connection) (o : Order) : Open where
  account := c.account
  fill := ⟨o.symbol, o.side, r.str o.qty, r.str o.price, o.nettingMode⟩
  commission := if 0 < o.commission then r.str o.commission else 0
  spreadRevenue := spreadFee r o.symbol o.qty (effectiveSpreadPips c o.symbol)
  admitted := o.admitted && symbolAllowed c o.symbol

def recordRevenue (fails : Bool) (ledger : Table BrokerEntry) (revenueType : RevenueType) (amount : ℚ)
    (sourceAccount sourceLedger : ℕ) (symbol : String) : Table BrokerEntry :=
  match if fails then none else store 18 2 amount with
  | none => ledger
  | some amount => ledger.insert { revenueType, amount, sourceAccount, sourceLedger, symbol }

/-- The broker's rows take the amounts that the trader's rows were posted with, and name them as their source. -/
def bookRevenue (c : Connection) (o : Order) (charges : OpeningCharges) : Table BrokerEntry :=
  let first := c.desk.entries.next
  let ledger :=
    if 0 < charges.commission then
      recordRevenue o.commissionRowFails c.brokerLedger .commission charges.commissionPosted c.account first o.symbol
    else c.brokerLedger
  if 0 < charges.spread then
    recordRevenue o.spreadRowFails ledger .spread charges.spreadPosted c.account
      (if 0 < charges.commission then first + 1 else first) o.symbol
  else ledger

def openCharges (s : Desk) (o : Open) : Except TradeError OpeningCharges := do
  let a ← require (s.accounts.get o.account) (.accountNotFound o.account)
  allocated a.balance.value (max o.commission 0) (max o.spreadRevenue 0)

def orderNew (c : Connection) (o : Order) : Except TradeError (Connection × OpenResult) := do
  let (desk, result) ← Executions.dbOpenPositionAtomic c.desk (o.toOpen r c)
  match result with
  | .rejected => pure ({ c with desk }, result)
  | .opened _ _ => do
    let charges ← openCharges c.desk (o.toOpen r c)
    pure ({ c with desk, brokerLedger := bookRevenue c o charges }, result)

end Orders

/-- Whatever else writes to the account and to the broker's ledger is a step with any outcome. -/
inductive Act
  | refreshConfigs (configs : SpreadConfigCache)
  | hydrate (fields : CommercialPricingFields) (goldAllowed : Bool)
  | changeSymbol (symbol : String)
  | tick (t : Tick)
  | order (o : Order)
  | elsewhere (desk : Desk) (brokerLedger : Table BrokerEntry)

def step (c : Connection) : Act → Connection
  | .refreshConfigs configs => { c with configs }
  | .hydrate fields goldAllowed => { c with fields, goldAllowed }
  | .changeSymbol symbol => changeSymbol c symbol
  | .tick t => priceTick r c t
  | .order o => commit c ((orderNew r c o).map Prod.fst)
  | .elsewhere desk brokerLedger => { c with desk, brokerLedger }

def Quiet (symbol : String) (c : Connection) (a : Act) : Prop := ∀ t, a = .tick t → Accepts c t → t.symbol ≠ symbol

section Snapshots

variable {r} {c c' : Connection} {symbol : String}

lemma orderNew_snapshots {o : Order} {result : OpenResult} (h : orderNew r c o = .ok (c', result)) :
    c'.snapshots = c.snapshots := by
  simp only [orderNew, bind_eq_ok, Prod.exists] at h
  obtain ⟨desk, result', -, h⟩ := h
  cases result' with
  | rejected =>
    rw [pure_eq_ok, Prod.mk.injEq] at h
    rw [← h.1]
  | opened position merged =>
    simp only [bind_eq_ok, pure_eq_ok, Prod.mk.injEq] at h
    obtain ⟨charges, -, rfl, -⟩ := h
    rfl

lemma step_snapshot {a : Act} (h : Quiet symbol c a) : (step r c a).snapshots symbol = c.snapshots symbol := by
  cases a with
  | refreshConfigs configs => rfl
  | hydrate fields goldAllowed => rfl
  | changeSymbol symbol' =>
    rw [step, changeSymbol]
    split <;> rfl
  | tick t =>
    rw [step, priceTick]
    split
    · next haccepts => exact Function.update_of_ne (h t rfl haccepts).symm _ _
    · rfl
  | order o =>
    rw [step]
    cases horder : orderNew r c o with
    | error e => rfl
    | ok x => exact congrFun (orderNew_snapshots horder) symbol
  | elsewhere desk brokerLedger => rfl

lemma run_spread {pre post : List Act} {t : Tick} {cfg : SpreadConfig} (haccepts : Accepts (run (step r) c pre) t)
    (hlast : Guarded (step r) (Quiet t.symbol) (run (step r) c (pre ++ [.tick t])) post)
    (hcfg : getCachedConfig (run (step r) c pre).configs t.symbol = some cfg) (hstatic : cfg.isDynamic = false) :
    effectiveSpreadPips (run (step r) c (pre ++ .tick t :: post)) t.symbol =
      effectiveSpread r (run (step r) c pre).configs (run (step r) c pre).fields t.symbol cfg := by
  have hframe := guarded_frame (I := fun _ => True) (f := fun c => c.snapshots t.symbol) (fun _ _ _ _ => trivial)
    (fun _ _ _ hq => step_snapshot hq) trivial hlast
  rw [List.append_cons, run_append, effectiveSpreadPips, hframe, run_append, run_cons, run_nil, step, priceTick,
    if_pos haccepts]
  dsimp only
  rw [Function.update_self, Option.elim_some]
  exact snapshot_static hcfg hstatic t.multipliers

end Snapshots

section Posting

variable {s s' : Floor} {k : ℕ} {x y : ℚ} {t : EventType} {info : EntryMeta} {charges : OpeningCharges}

lemma postEntry_inserts (h : postEntry s k t x y info = .ok s') :
    ∃ row : LedgerEntry, s'.entries = s.entries.insert row ∧ row.account = k ∧ row.eventType = t ∧
      cents x = row.amount.units := by
  simp only [postEntry, bind_eq_ok, pure_eq_ok] at h
  obtain ⟨amount, hamount, balanceAfter, -, rfl⟩ := h
  exact ⟨_, rfl, rfl, rfl, store_cents.mp (column_ok hamount)⟩

lemma postEntryIf_inserts {p : Prop} [Decidable p] (h : postEntryIf p s k t x y info = .ok s') :
    s'.entries.next = (if p then s.entries.next + 1 else s.entries.next) ∧
      ∀ i e, s.entries.next ≤ i → s'.entries.get i = some e → e.eventType = t := by
  rw [postEntryIf] at h
  by_cases hp : p
  · rw [if_pos hp] at h ⊢
    obtain ⟨row, hrow, -, htype, -⟩ := postEntry_inserts h
    refine ⟨by rw [hrow, Table.next_insert], fun i e hi he => ?_⟩
    rw [hrow] at he
    obtain hold | ⟨-, rfl⟩ := Table.get_insert_some he
    · exact absurd (Table.lt_of_get hold) (not_lt.mpr hi)
    · exact htype
  · rw [if_neg hp, Except.ok.injEq] at h
    subst h
    rw [if_neg hp]
    exact ⟨rfl, fun i e hi he => absurd (Table.lt_of_get he) (not_lt.mpr hi)⟩

lemma postCharges_inserts (h : postCharges s k charges info = .ok s') :
    ∃ first : Table LedgerEntry,
      first.next = (if 0 < charges.commission then s.entries.next + 1 else s.entries.next) ∧
      (∀ i e, s.entries.next ≤ i → first.get i = some e → e.eventType = .commission) ∧
      if 0 < charges.spread then
        |cents charges.balance| < 10 ^ 12 ∧ ∃ row : LedgerEntry, s'.entries = first.insert row ∧ row.account = k ∧
          row.eventType = .fee ∧ cents (negate charges.spreadPosted) = row.amount.units
      else s'.entries = first := by
  simp only [postCharges, bind_eq_ok] at h
  obtain ⟨s1, hcommission, s2, hfee, hsave⟩ := h
  obtain ⟨hnext, htypes⟩ := postEntryIf_inserts hcommission
  refine ⟨s1.entries, hnext, htypes, ?_⟩
  have hentries : s'.entries = s2.entries := by
    split at hsave
    · simp only [saveBalance, bind_eq_ok, pure_eq_ok] at hsave
      obtain ⟨stored, -, rfl⟩ := hsave
      rfl
    · rw [pure_eq_ok] at hsave
      rw [hsave]
  rw [postEntryIf] at hfee
  by_cases hspread : 0 < charges.spread
  · rw [if_pos hspread] at hfee ⊢
    rw [if_pos (Or.inr hspread)] at hsave
    simp only [saveBalance, bind_eq_ok] at hsave
    obtain ⟨stored, hstored, -⟩ := hsave
    refine ⟨?_, ?_⟩
    · rw [store_cents.mp (column_ok hstored)]
      exact stored.fits
    · rw [hentries]
      exact postEntry_inserts hfee
  · rw [if_neg hspread, Except.ok.injEq] at hfee
    rw [if_neg hspread, hentries, hfee]

lemma allocated_ok {balance commission spread : ℚ} (h : allocated balance commission spread = .ok charges) :
    charges.spread = spread ∧ allocateOpeningCharges balance commission spread =
      .ok (charges.balance, charges.commissionPosted, charges.spreadPosted) := by
  simp only [allocated, bind_eq_ok, pure_eq_ok, mapError_eq_ok, Prod.exists] at h
  obtain ⟨posted, commissionPosted, spreadPosted, hallocated, rfl⟩ := h
  exact ⟨rfl, hallocated⟩

lemma dbOpenPositionAtomic_charges {o : Open} {position : ℕ} {merged : Bool}
    (h : Writers.dbOpenPositionAtomic s o = .ok (s', .opened position merged)) :
    ∃ a charges s1 info, s.accounts.get o.account = some a ∧
      allocated a.balance.value (max o.commission 0) (max o.spreadRevenue 0) = .ok charges ∧
      s1.entries = s.entries ∧ postCharges s1 o.account charges info = .ok s' := by
  simp only [Writers.dbOpenPositionAtomic, bind_eq_ok, require_eq_ok] at h
  obtain ⟨a, ha, h⟩ := h
  split at h
  · rw [pure_eq_ok, Prod.mk.injEq] at h
    cases h.2
  · simp only [bind_eq_ok, pure_eq_ok, Prod.exists, Prod.mk.injEq] at h
    obtain ⟨s1, position', merged', hexecute, charges, hcharges, s2, hpost, rfl, -⟩ := h
    exact ⟨a, charges, s1, _, ha, hcharges, (execute_rows hexecute).2, hpost⟩

end Posting

section Fees

/-- So many cents are charged to the trader in one row, and are the broker's in a row that names it unless that row
could not be written. -/
structure FeePosted (c c' : Connection) (o : Order) (m : ℤ) (i : ℕ) : Prop where
  row : ∃ row, c'.desk.entries.get i = some row ∧ row.account = c.account ∧ row.eventType = .fee ∧ row.amount.units = -m
  new : c.desk.entries.next ≤ i
  only : ∀ j row, c.desk.entries.next ≤ j → c'.desk.entries.get j = some row → row.eventType = .fee → j = i
  broker : o.spreadRowFails = false → ∃ j entry, c.brokerLedger.next ≤ j ∧ c'.brokerLedger.get j = some entry ∧
    entry.revenueType = .spread ∧ entry.amount.units = m ∧ entry.sourceAccount = c.account ∧
    entry.sourceLedger = i ∧ entry.symbol = o.symbol

def NoFee (c c' : Connection) : Prop :=
  ∀ j row, c.desk.entries.next ≤ j → c'.desk.entries.get j = some row → row.eventType ≠ .fee

variable {c c' : Connection} {o : Order} {position : ℕ} {merged : Bool}

lemma le_recordRevenue (fails : Bool) (ledger : Table BrokerEntry) (revenueType : RevenueType) (amount : ℚ)
    (account row : ℕ) (symbol : String) :
    ledger.next ≤ (recordRevenue fails ledger revenueType amount account row symbol).next := by
  rw [recordRevenue]
  split
  · exact le_rfl
  · exact Nat.le_succ _

lemma bookRevenue_spread {charges : OpeningCharges} {amount : Amount} (hspread : 0 < charges.spread)
    (hamount : store 18 2 charges.spreadPosted = some amount) (hwritten : o.spreadRowFails = false) :
    ∃ j, c.brokerLedger.next ≤ j ∧ (bookRevenue c o charges).get j = some
      { revenueType := .spread, amount, sourceAccount := c.account,
        sourceLedger := if 0 < charges.commission then c.desk.entries.next + 1 else c.desk.entries.next,
        symbol := o.symbol } := by
  rw [bookRevenue, if_pos hspread, recordRevenue, hwritten, if_neg Bool.false_ne_true, hamount]
  refine ⟨_, ?_, Table.get_insert_next _ _⟩
  split
  · exact le_recordRevenue _ _ _ _ _ _ _
  · exact le_rfl

variable {r : Arithmetic}

lemma orderNew_charges (h : orderNew r c o = .ok (c', .opened position merged)) :
    ∃ a charges s1 info, c.desk.accounts.get c.account = some a ∧
      allocated a.balance.value (max (o.toOpen r c).commission 0) (max (o.toOpen r c).spreadRevenue 0) = .ok charges ∧
      s1.entries = c.desk.entries ∧ postCharges s1 c.account charges info = .ok c'.desk.toFloor ∧
      c'.brokerLedger = bookRevenue c o charges := by
  simp only [orderNew, bind_eq_ok, Prod.exists] at h
  obtain ⟨desk, result, hdesk, h⟩ := h
  cases result with
  | rejected =>
    rw [pure_eq_ok, Prod.mk.injEq] at h
    cases h.2
  | opened position' merged' =>
    simp only [bind_eq_ok, pure_eq_ok, Prod.mk.injEq] at h
    obtain ⟨charges', hcharges', rfl, -⟩ := h
    simp only [Executions.dbOpenPositionAtomic, bind_eq_ok, Prod.exists] at hdesk
    obtain ⟨floor, opened, hfloor, hdesk⟩ := hdesk
    cases opened with
    | rejected =>
      rw [pure_eq_ok, Prod.mk.injEq] at hdesk
      cases hdesk.2
    | opened position'' merged'' =>
      simp only [bind_eq_ok, pure_eq_ok, Prod.mk.injEq, recordExecution] at hdesk
      obtain ⟨recorded, ⟨qty, -, price, -, rfl⟩, rfl, -⟩ := hdesk
      obtain ⟨a, charges, s1, info, ha, hcharges, hentries, hpost⟩ := dbOpenPositionAtomic_charges hfloor
      simp only [openCharges, bind_eq_ok, require_eq_ok] at hcharges'
      obtain ⟨a', ha', hcharges'⟩ := hcharges'
      obtain rfl : a = a' := Option.some.inj (ha.symm.trans ha')
      obtain rfl : charges' = charges := Except.ok.inj (hcharges'.symm.trans hcharges)
      exact ⟨a, charges', s1, info, ha, hcharges, hentries, hpost, rfl⟩

lemma orderNew_fee (h : orderNew r c o = .ok (c', .opened position merged)) (hfee : 0 < (o.toOpen r c).spreadRevenue) :
    ∃ a posted commissionPosted m i, c.desk.accounts.get c.account = some a ∧
      allocateOpeningCharges a.balance.value (max (o.toOpen r c).commission 0) (o.toOpen r c).spreadRevenue =
        .ok (posted, commissionPosted, scaled 2 m) ∧
      |scaled 2 m - (o.toOpen r c).spreadRevenue| < 11 / 1000 ∧ FeePosted c c' o m i := by
  obtain ⟨a, charges, s1, info, ha, hcharges, hentries, hpost, hbroker⟩ := orderNew_charges h
  rw [max_eq_left hfee.le] at hcharges
  obtain ⟨hspread, hallocated⟩ := allocated_ok hcharges
  rw [← hspread] at hfee hallocated ⊢
  obtain ⟨first, hnext, hcommissions, hlast⟩ := postCharges_inserts hpost
  rw [if_pos hfee] at hlast
  obtain ⟨hfits, row, hrows, haccount, htype, hamount⟩ := hlast
  obtain ⟨m, hm, hnear⟩ := allocated_spread hallocated hfee hfits
  rw [hm] at hallocated hamount
  obtain ⟨hunits, -⟩ := cents_negate_scaled (hamount ▸ row.amount.fits)
  have hrowUnits : row.amount.units = -m := hamount.symm.trans hunits
  have hbound : |m| < 10 ^ 18 := by
    have hrow := row.amount.fits
    rwa [hrowUnits, abs_neg] at hrow
  have hstored : store 18 2 charges.spreadPosted = some (⟨m, hbound⟩ : Amount) := by rw [hm, store_scaled]
  rw [hentries] at hnext hcommissions
  refine ⟨a, charges.balance, charges.commissionPosted, m, first.next, ha, hallocated, hnear, ?_, ?_, ?_, ?_⟩
  · exact ⟨row, by rw [hrows, Table.get_insert_next], haccount, htype, hrowUnits⟩
  · rw [hnext]
    split <;> omega
  · intro j e hj he hfeeRow
    rw [hrows] at he
    obtain hold | ⟨rfl, -⟩ := Table.get_insert_some he
    · have hcommission := hcommissions j e hj hold
      rw [hfeeRow] at hcommission
      cases hcommission
    · rfl
  · intro hwritten
    obtain ⟨j, hj, hentry⟩ := bookRevenue_spread (c := c) hfee hstored hwritten
    rw [← hbroker] at hentry
    exact ⟨j, _, hj, hentry, rfl, rfl, rfl, hnext.symm, rfl⟩

lemma orderNew_free (h : orderNew r c o = .ok (c', .opened position merged))
    (hfree : (o.toOpen r c).spreadRevenue = 0) : NoFee c c' := by
  obtain ⟨a, charges, s1, info, -, hcharges, hentries, hpost, -⟩ := orderNew_charges h
  rw [hfree, max_self] at hcharges
  obtain ⟨hspread, -⟩ := allocated_ok hcharges
  obtain ⟨first, -, hcommissions, hlast⟩ := postCharges_inserts hpost
  rw [if_neg (by rw [hspread]; exact lt_irrefl _)] at hlast
  intro j row hj hrow hfeeRow
  rw [hlast] at hrow
  have hcommission := hcommissions j row (by rwa [hentries]) hrow
  rw [hfeeRow] at hcommission
  cases hcommission

end Fees

/-- On a symbol with a static configuration an open is charged what the broker earns of it at the effective spread
of the last tick that the connection accepted, allocated to cents with the balance and the commission. -/
theorem spread_fee_posted {c c' : Connection} {pre post : List Act} {t : Tick} {cfg : SpreadConfig} {o : Order}
    {position : ℕ} {merged : Bool} (haccepts : Accepts (run (step python) c pre) t)
    (hlast : Guarded (step python) (Quiet t.symbol) (run (step python) c (pre ++ [.tick t])) post)
    (hcfg : getCachedConfig (run (step python) c pre).configs t.symbol = some cfg) (hstatic : cfg.isDynamic = false)
    (hsymbol : o.symbol = t.symbol) {pips revenue : ℚ}
    (hpips : pips = effectiveSpread python (run (step python) c pre).configs (run (step python) c pre).fields
      t.symbol cfg) (hpositive : 0 < pips) (hrevenue : revenue = calculateSpreadRevenue python o.symbol o.qty pips)
    (hopen : orderNew python (run (step python) c (pre ++ .tick t :: post)) o = .ok (c', .opened position merged)) :
    (revenue ≤ 0 → NoFee (run (step python) c (pre ++ .tick t :: post)) c') ∧
      (0 < revenue → ∃ a posted commissionPosted m i,
        (run (step python) c (pre ++ .tick t :: post)).desk.accounts.get
          (run (step python) c (pre ++ .tick t :: post)).account = some a ∧
        allocateOpeningCharges a.balance.value (if 0 < o.commission then python.str o.commission else 0)
          (python.str revenue) = .ok (posted, commissionPosted, scaled 2 m) ∧
        |scaled 2 m - python.str revenue| < 11 / 1000 ∧
        FeePosted (run (step python) c (pre ++ .tick t :: post)) c' o m i) := by
  have hspread := run_spread haccepts hlast hcfg hstatic
  rw [← hpips] at hspread
  generalize run (step python) c (pre ++ .tick t :: post) = c₀ at hspread hopen ⊢
  have hfee : (o.toOpen python c₀).spreadRevenue = if 0 < revenue then python.str revenue else 0 := by
    rw [Order.toOpen, hsymbol, hspread, spreadFee, if_pos hpositive, ← hsymbol, ← hrevenue]
  have hcommission : max (o.toOpen python c₀).commission 0 =
      if 0 < o.commission then python.str o.commission else 0 := by
    rw [Order.toOpen]
    dsimp only
    split
    · next h => exact max_eq_left (str_pos h).le
    · exact max_self 0
  refine ⟨fun hnone => ?_, fun hsome => ?_⟩
  · rw [if_neg (not_lt.mpr hnone)] at hfee
    exact orderNew_free hopen hfee
  · rw [if_pos hsome] at hfee
    have hposted := orderNew_fee hopen (by rw [hfee]; exact str_pos hsome)
    rwa [hfee, hcommission] at hposted

def openingConnection : Connection where
  account := 0
  goldAllowed := false
  symbol := "BTCUSD"
  configs := fun symbol => if symbol = "EUR/USD" then some ⟨1 / 2, none, none, false⟩ else none
  fields := {}
  snapshots := fun _ => none
  desk := Quantities.openingDesk
  brokerLedger := Table.empty

def euroTick : Tick := ⟨"EUR/USD", true, []⟩

def quarterLot : Order where
  symbol := "EUR/USD"
  side := .buy
  qty := 1 / 4
  price := 9 / 8
  commission := 0
  nettingMode := false
  admitted := true
  commissionRowFails := false
  spreadRowFails := false

def feesPosted (s : Except TradeError (Connection × OpenResult)) : Option (OpenResult × List ℤ × List ℤ) :=
  s.toOption.map fun (c, result) => (result,
    c.desk.entries.rows.filterMap fun e => if e.2.eventType = .fee then some e.2.amount.units else none,
    c.brokerLedger.rows.filterMap fun e => if e.2.revenueType = .spread then some e.2.amount.units else none)

def tickedConnection : Connection := run (step python) openingConnection [.changeSymbol "EUR/USD", .tick euroTick]

theorem spread_fee_posted_quarter_lot :
    ∃ c', orderNew python tickedConnection quarterLot = .ok (c', .opened 0 false) ∧
      ∃ m i, |scaled 2 m - python.str (5 / 8)| < 11 / 1000 ∧ FeePosted tickedConnection c' quarterLot m i := by
  have hresult : (orderNew python tickedConnection quarterLot).toOption.map Prod.snd = some (.opened 0 false) := by
    decide +kernel
  cases hopen : orderNew python tickedConnection quarterLot with
  | error e =>
    rw [hopen] at hresult
    cases hresult
  | ok x =>
    obtain ⟨c', result⟩ := x
    rw [hopen] at hresult
    obtain rfl : result = .opened 0 false := Option.some.inj hresult
    have haccepts : Accepts (run (step python) openingConnection [.changeSymbol "EUR/USD"]) euroTick := by
      decide +kernel
    have hlast : Guarded (step python) (Quiet euroTick.symbol)
        (run (step python) openingConnection ([.changeSymbol "EUR/USD"] ++ [.tick euroTick])) [] := trivial
    have hcfg : getCachedConfig (run (step python) openingConnection [.changeSymbol "EUR/USD"]).configs
        euroTick.symbol = some ⟨1 / 2, none, none, false⟩ := by decide +kernel
    have hpips : 1 / 2 = effectiveSpread python
        (run (step python) openingConnection [.changeSymbol "EUR/USD"]).configs
        (run (step python) openingConnection [.changeSymbol "EUR/USD"]).fields euroTick.symbol
        ⟨1 / 2, none, none, false⟩ := by decide +kernel
    have hrevenue : 5 / 8 = calculateSpreadRevenue python quarterLot.symbol quarterLot.qty (1 / 2) := by decide +kernel
    have hposted := spread_fee_posted haccepts hlast hcfg rfl rfl hpips (by norm_num) hrevenue hopen
    obtain ⟨a, posted, commissionPosted, m, i, -, -, hnear, hfee⟩ := hposted.2 (by norm_num)
    exact ⟨c', rfl, m, i, hnear, hfee⟩

/-- A fee of 62.5 cents is rounded to even with the balance; before the first tick of its symbol the same order is
opened free of any. -/
theorem fee_rounded_and_absent :
    calculateSpreadRevenue python quarterLot.symbol quarterLot.qty
        (effectiveSpread python openingConnection.configs openingConnection.fields "EUR/USD"
          ⟨1 / 2, none, none, false⟩) = 5 / 8 ∧
      feesPosted (orderNew python tickedConnection quarterLot) = some (.opened 0 false, [-62], [62]) ∧
      feesPosted (orderNew python openingConnection quarterLot) = some (.opened 0 false, [], []) := by
  decide +kernel

end TrxSimulator.Trading.SpreadFees
