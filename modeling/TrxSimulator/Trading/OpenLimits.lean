import TrxSimulator.Foundations.Runs
import TrxSimulator.Trading.OpenMargins

/-! What holds of an account and of the broker after an order has been opened, in any order of the transactions and
whatever copies the connections hold, and what an order that is refused leaves behind. -/

namespace TrxSimulator.Trading.OpenLimits

open Foundations.Tables Foundations.Outcomes Foundations.Decimals Foundations.Floats Foundations.Losses Foundations.Runs
open Money
open Accounts (TradingAccount AccountType)
open Market.Symbols Market.Pnl Exposure.Aggregation Exposure.Limits Exposure.Admission
open Risk.Sweeps (blocked)
open Writers (Side Position PendingOrder OrderStatus TradeError Fill Floor OpeningCharges EntryMeta Trigger TriggerResult
  execute allocated postCharges saveBalance mergesWith setStatus)
open Executions (Desk recordExecution)
open Fills OpenGuard Openings OpenMargins

section Lots

def sided (c : Option Side) (o : OpenPosition) : Bool := decide (∀ side ∈ c, o.side = side)

/-- The lots of the rows that a query counts, of one side or of both, by the exact arithmetic. -/
def storedLots (h : Holdings) (q : Query) (c : Option Side) : ℚ :=
  (((h.counted q).filter (sided c)).map fun o => o.qty.value).sum

/-- What the limits of lots count, and on which side. -/
def counts (settings : Settings) (h : Holdings) (o : Order) : Rule → Option (Query × Option Side)
  | .maxSymbolExposure => some (Exposure.Admission.ofSymbol o, none)
  | .maxAccountExposure => some (Exposure.Admission.ofAccount o, none)
  | .maxTotalBrokerExposure => some (evaluatedQuery settings h o, none)
  | .maxLongExposure => some (evaluatedQuery settings h o, some .buy)
  | .maxShortExposure => some (evaluatedQuery settings h o, some .sell)
  | .maxGrossNotional | .maxNetNotional | .maxPositionSize | .maxOpenPositionsBrokerWide => none

def addedLots (side : Side) (c : Option Side) (qty : ℚ) : ℚ := c.elim qty fun counted => onSide side counted qty

def openAt (holder : ℕ → Option Holder) (id : ℕ) (row : Option Position) : Option OpenPosition := do
  let p ← row
  let holder ← holder p.account
  pure { toPosition := p, id, holder }

def lotTerm (holder : ℕ → Option Holder) (q : Query) (c : Option Side) (id : ℕ) (row : Option Position) : ℚ :=
  (openAt holder id row).elim 0 fun o => if q.admits o && sided c o then o.qty.value else 0

variable {h : Holdings} {q : Query} {c : Option Side} {positions : List OpenPosition}

lemma sum_filter {α : Type} (p : α → Bool) (f : α → ℚ) (xs : List α) :
    ((xs.filter p).map f).sum = (xs.map fun x => if p x then f x else 0).sum := by
  induction xs with
  | nil => rfl
  | cons x xs ih =>
    cases hx : p x <;> simp [hx, ih]

lemma storedLots_total (h : Holdings) (q : Query) (c : Option Side) :
    storedLots h q c = h.positions.total (lotTerm h.holder q c) := by
  have hopen : h.openPositions = h.positions.rows.filterMap fun r => openAt h.holder r.1 r.2 := rfl
  rw [storedLots, Holdings.counted, List.filter_filter, sum_filter, hopen, Table.sum_map_filterMap,
    Table.total_eq_sum]
  congr 1
  apply List.map_congr_left
  intro r _
  rw [lotTerm]
  cases openAt h.holder r.1 r.2 with
  | none => rfl
  | some o => rw [Option.elim_some, Option.elim_some, Bool.and_comm]

lemma running_left (f : OpenPosition → ℚ) (positions : List OpenPosition) (hf : ∀ o ∈ positions, 0 ≤ f o) :
    Left ulp positions.length ((positions.map f).sum) (running python f positions) := by
  induction positions using List.reverseRecOn with
  | nil => exact left_zero ulp 0
  | append_singleton positions o ih =>
    have hbefore := ih fun o' ho' => hf o' (List.mem_append_left _ ho')
    have hlast : Left ulp 0 (f o) (f o) := left_self (hf o (List.mem_append_right _ (List.mem_singleton_self o)))
    have hsum := hbefore.add (hlast.weaken part_ulp (Nat.zero_le _))
    rw [running_append, List.length_append, List.length_singleton, List.map_append, List.sum_append, List.map_singleton,
      List.sum_singleton]
    exact hsum.round part_ulp (decimal_ge (hsum.value_nonneg part_ulp))

lemma lots_left (hq : ∀ o ∈ positions, 0 ≤ o.qty.value) (side : Side) :
    Left ulp positions.length (((positions.filter (sided (some side))).map fun o => o.qty.value).sum)
      (lots python side positions) := by
  have hsided : sided (some side) = fun o : OpenPosition => decide (o.side = side) := by
    funext o
    simp [sided]
  have hrunning := running_left (fun o => o.qty.value) (positions.filter fun o => o.side = side)
    fun o ho => hq o (List.mem_of_mem_filter ho)
  rw [lots, hsided]
  exact hrunning.weaken part_ulp (List.length_filter_le _ _)

lemma sum_sides (positions : List OpenPosition) :
    ((positions.filter (sided none)).map fun o => o.qty.value).sum =
      ((positions.filter (sided (some .buy))).map fun o => o.qty.value).sum +
        ((positions.filter (sided (some .sell))).map fun o => o.qty.value).sum := by
  induction positions with
  | nil => simp
  | cons o positions ih =>
    cases hside : o.side <;> simp [sided, hside] at ih ⊢ <;> linarith

lemma gross_left (hq : ∀ o ∈ positions, 0 ≤ o.qty.value) :
    Left ulp (positions.length + 1) (((positions.filter (sided none)).map fun o => o.qty.value).sum)
      (grossLots python positions) := by
  have hsum := (lots_left hq .buy).add (lots_left hq .sell)
  rw [sum_sides]
  exact hsum.round part_ulp (decimal_ge (hsum.value_nonneg part_ulp))

lemma onSide_left {n : ℕ} {x y : ℚ} (h : Left ulp n x y) (side counted : Side) :
    Left ulp n (onSide side counted x) (onSide side counted y) := by
  rw [onSide, onSide]
  split
  · exact h
  · exact left_zero ulp n

/-- The lots that are within a limit in the decision, with the order added to them. -/
lemma limit_left {settings : Settings} {feed : Feed} {o : Order} {rule : Rule} {qty : ℚ}
    (hlimits : WithinLimits python settings h feed o) (hcounts : counts settings h o rule = some (q, c))
    (hnonneg : ∀ p ∈ h.counted q, 0 ≤ p.qty.value) (hqty : Left ulp 2 qty (o.qty.toDecimal python)) :
    (1 - ulp) ^ ((h.counted q).length + 4) * (storedLots h q c + addedLots o.side c qty) ≤ settings.limit rule := by
  obtain ⟨total, htotal, hle⟩ := hlimits rule
  have hsum : ∀ {x y z w : ℚ}, Left ulp ((h.counted q).length + 1) x y → Left ulp 2 z w →
      context precision (y + w) ≤ settings.limit rule →
      (1 - ulp) ^ ((h.counted q).length + 4) * (x + z) ≤ settings.limit rule := by
    intro x y z w hx hz hbound
    have hadd := (hx.weaken part_ulp (by omega : _ ≤ (h.counted q).length + 3)).add
      (hz.weaken part_ulp (by omega))
    exact (hadd.round part_ulp (decimal_ge (hadd.value_nonneg part_ulp))).bound.trans hbound
  have hside : ∀ side, Left ulp ((h.counted q).length + 1) (storedLots h q (some side))
      (lots python side (h.counted q)) := fun side => (lots_left hnonneg side).weaken part_ulp (Nat.le_succ _)
  cases rule with
  | maxSymbolExposure | maxAccountExposure | maxTotalBrokerExposure =>
    cases hcounts
    cases htotal
    exact hsum (gross_left hnonneg) hqty hle
  | maxLongExposure | maxShortExposure =>
    cases hcounts
    cases htotal
    exact hsum (hside _) (onSide_left hqty o.side _) hle
  | maxGrossNotional | maxNetNotional | maxPositionSize | maxOpenPositionsBrokerWide => cases hcounts

section Filling

variable {t t' : Table (Option Position)} {k id : ℕ} {f : Fill} {merged : Bool} {holder : ℕ → Option Holder}

lemma lotTerm_unheld {p : Position} (h : holder p.account = none) (i : ℕ) : lotTerm holder q c i (some p) = 0 := by
  simp [lotTerm, openAt, h]

lemma lotTerm_held {p : Position} {g : Holder} (h : holder p.account = some g) (i : ℕ) :
    lotTerm holder q c i (some p) = if q.admits ⟨p, i, g⟩ && sided c ⟨p, i, g⟩ then p.qty.value else 0 := by
  simp [lotTerm, openAt, h]

lemma addedLots_nonneg {side : Side} {x : ℚ} (hx : 0 ≤ x) : 0 ≤ addedLots side c x := by
  cases c with
  | none => exact hx
  | some counted =>
    rw [addedLots, Option.elim_some, onSide]
    split
    · exact hx
    · exact le_rfl

lemma addedLots_sided {o : OpenPosition} (h : sided c o = true) (x : ℚ) : addedLots o.side c x = x := by
  cases c with
  | none => rfl
  | some counted =>
    have hside : o.side = counted := by simpa [sided] using h
    rw [addedLots, Option.elim_some, onSide, if_pos hside]

lemma lotTerm_nonneg (holder : ℕ → Option Holder) (q : Query) (c : Option Side)
    (hnonneg : ∀ i p, t.get i = some (some p) → 0 ≤ p.qty.units) {i : ℕ} {row : Option Position} (hrow : t.get i = some row) : 0 ≤ lotTerm holder q c i row := by
  cases row with
  | none => exact le_rfl
  | some p =>
    have hqty : 0 ≤ p.qty.value := div_nonneg (by exact_mod_cast hnonneg i p hrow) (by norm_num)
    cases hholder : holder p.account with
    | none => rw [lotTerm_unheld hholder]
    | some g =>
      rw [lotTerm_held hholder]
      split
      · exact hqty
      · exact le_rfl

lemma filled_lots (holder : ℕ → Option Holder) (q : Query) (c : Option Side) (hfilled : Filled t k f t' id merged)
    (hnonneg : ∀ i p, t.get i = some (some p) → 0 ≤ p.qty.units) :
    (1 - ulp) * t'.total (lotTerm holder q c) ≤
      t.total (lotTerm holder q c) + (addedLots f.side c |f.qty| + 5 / 10 ^ 7) := by
  have hadded : 0 ≤ addedLots f.side c |f.qty| := addedLots_nonneg (abs_nonneg _)
  have htotal := filled_total hfilled part_ulp (g := lotTerm holder q c)
    (e := fun _ => addedLots f.side c |f.qty| + 5 / 10 ^ 7) (fun _ _ => lotTerm_nonneg holder q c hnonneg)
    (fun _ => rfl) ?_ ?_
  · obtain ⟨row, -, hle⟩ := htotal
    exact hle
  · intro row hopened
    cases hholder : holder row.account with
    | none =>
      rw [lotTerm_unheld hholder, mul_zero]
      linarith
    | some g =>
      rw [lotTerm_held hholder]
      split
      · next hcounted =>
        have hside := addedLots_sided (Bool.and_eq_true_iff.mp hcounted).2 |f.qty|
        have hself := mul_le_mul_of_nonneg_left (le_abs_self row.qty.value) part_ulp.rest_nonneg
        rw [← hopened.side, hside]
        exact hself.trans hopened.size
      · linarith
  · intro existing row hrow hgrown
    have hold : 0 ≤ existing.qty.value := div_nonneg (by exact_mod_cast hnonneg id existing hrow) (by norm_num)
    cases hholder : holder row.account with
    | none =>
      rw [lotTerm_unheld hholder, mul_zero]
      have hterm := lotTerm_nonneg holder q c hnonneg hrow
      linarith
    | some g =>
      have hsame : (q.admits ⟨existing, id, g⟩ && sided c ⟨existing, id, g⟩) =
          (q.admits ⟨row, id, g⟩ && sided c ⟨row, id, g⟩) := by
        simp only [Query.admits, sided, hgrown.account, hgrown.symbol, hgrown.side]
      rw [lotTerm_held hholder, lotTerm_held (hgrown.account ▸ hholder), hsame]
      split
      · next hcounted =>
        have hside := addedLots_sided (Bool.and_eq_true_iff.mp hcounted).2 |f.qty|
        have hself := mul_le_mul_of_nonneg_left (le_abs_self row.qty.value) part_ulp.rest_nonneg
        have hsize := hgrown.size
        have hfill : row.side = f.side := hgrown.side.trans hgrown.matched.2.2
        rw [abs_of_nonneg hold] at hsize
        rw [← hfill, hside]
        linarith
      · linarith

end Filling

end Lots

section Transactions

/-- Nothing but the lock, a missing rule and a row of the audit, beside what becomes of the desk. -/
structure Kept (s s' : Broker) (desk : Desk) : Prop where
  desk : s'.toDesk = desk
  terms : s'.terms = s.terms
  decisions : s'.decisions = s.decisions
  connections : s'.connections = s.connections
  rules : ∀ i rule, s.riskRules.get i = some rule → s'.riskRules.get i = some rule

structure Executed (s s' : Desk) (k : ℕ) (f : Fill) (id : ℕ) (merged : Bool) : Prop where
  filled : Filled s.positions k f s'.positions id merged
  types : ∀ i, (s'.accounts.get i).map TradingAccount.accountType = (s.accounts.get i).map TradingAccount.accountType

lemma kept_self (s : Broker) : Kept s s s.toDesk := ⟨rfl, rfl, rfl, rfl, fun _ _ h => h⟩

section Floors

variable {s s' : Floor} {k id : ℕ} {f : Fill} {merged : Bool} {charges : OpeningCharges} {info : EntryMeta}

lemma postCharges_types (h : postCharges s k charges info = .ok s') (i : ℕ) :
    (s'.accounts.get i).map TradingAccount.accountType = (s.accounts.get i).map TradingAccount.accountType := by
  simp only [postCharges, bind_eq_ok] at h
  obtain ⟨s1, hcommission, s2, hspread, hsave⟩ := h
  have hposts := (Reconciliation.postEntryIf_posts hcommission).1.trans (Reconciliation.postEntryIf_posts hspread).1
  rw [← hposts.accounts]
  split at hsave
  · simp only [saveBalance, bind_eq_ok, pure_eq_ok] at hsave
    obtain ⟨balance, -, rfl⟩ := hsave
    dsimp only
    rw [Table.get_update]
    split
    · rw [Option.map_map]
      rfl
    · rfl
  · rw [pure_eq_ok] at hsave
    rw [hsave]

lemma executed_floor {s1 : Floor} (hexecute : execute s k f = .ok (s1, id, merged))
    (hpost : postCharges s1 k charges info = .ok s') :
    Filled s.positions k f s'.positions id merged ∧ ∀ i, (s'.accounts.get i).map TradingAccount.accountType =
      (s.accounts.get i).map TradingAccount.accountType := by
  have haccounts := (Reconciliation.execute_posts hexecute).accounts
  refine ⟨?_, fun i => ?_⟩
  · rw [(Rows.postCharges_realizes hpost).positions]
    exact execute_filled hexecute
  · rw [postCharges_types hpost, haccounts]

/-- A pending order opens only where it is still pending, not due, and refused by nothing. -/
structure Triggers (s : Floor) (t : Trigger) (po : PendingOrder) : Prop where
  row : s.orders.get t.order = some po
  pending : po.status = .pending
  early : t.due = false
  atPrice : t.refusedAtPrice = none
  account : (s.accounts.get po.account).isSome
  byLimits : t.refusedByLimits = none

lemma trigger_cases {t : Trigger} {r : TriggerResult} (h : Writers.triggerPendingOrderCore s t = .ok (s', r)) :
    (r = .notPending ∧ s' = s) ∨ (r = .expired ∧ s' = setStatus s t.order .expired) ∨
      (∃ code, r = .rejected code ∧ s' = setStatus s t.order .rejected) ∨
      ∃ po id merged, r = .triggered id merged ∧ Triggers s t po ∧
        Filled s.positions po.account (t.fill po) s'.positions id merged ∧
        ∀ i, (s'.accounts.get i).map TradingAccount.accountType =
          (s.accounts.get i).map TradingAccount.accountType := by
  apply (Reconciliation.trigger_ok h).imp_right
  apply Or.imp_right
  apply Or.imp_right
  rintro ⟨po, a, id, merged, rfl, hopens⟩
  obtain ⟨spread, s1, charges, s2, -, hexecute, -, hpost, rfl⟩ := hopens.written
  obtain ⟨hfilled, htypes⟩ := executed_floor hexecute hpost
  have htriggers : Triggers s t po :=
    ⟨hopens.row, hopens.pending, hopens.early, hopens.atPrice, by rw [hopens.account]; rfl, hopens.byLimits⟩
  exact ⟨po, id, merged, rfl, htriggers, hfilled, htypes⟩

end Floors

section Desks

variable {s s' : Desk} {k id : ℕ} {merged : Bool}

lemma recordExecution_floor {position : ℕ} {f : Fill} {sourceOrder : Option ℕ}
    (h : recordExecution s k position f merged sourceOrder = .ok s') : s'.toFloor = s.toFloor := by
  simp only [recordExecution, bind_eq_ok, pure_eq_ok] at h
  obtain ⟨qty, -, price, -, rfl⟩ := h
  rfl

lemma execution_executed {a : TradingAccount} {f : Fill} {commission spreadRevenue : ℚ}
    (h : execution s k a f commission spreadRevenue = .ok (s', id, merged)) : Executed s s' k f id merged := by
  simp only [execution, bind_eq_ok, pure_eq_ok, Prod.exists, Prod.mk.injEq] at h
  obtain ⟨s1, position, grown, hexecute, charges, -, s2, hpost, s3, hrecord, rfl, rfl, rfl⟩ := h
  obtain ⟨hfilled, htypes⟩ := executed_floor hexecute hpost
  have hfloor := recordExecution_floor hrecord
  have hpositions : s3.positions = s2.positions := congrArg Floor.positions hfloor
  have haccounts : s3.accounts = s2.accounts := congrArg Floor.accounts hfloor
  exact ⟨hpositions ▸ hfilled, haccounts ▸ htypes⟩

def withStatus (s : Desk) (order : ℕ) (status : OrderStatus) : Desk :=
  { s with toFloor := setStatus s.toFloor order status }

lemma executeTrigger_cases {t : Trigger} {r : TriggerResult} (h : executeTrigger s t = .ok (s', r)) :
    (r = .notPending ∧ s' = s) ∨ (r = .expired ∧ s' = withStatus s t.order .expired) ∨
      (∃ code, r = .rejected code ∧ s' = withStatus s t.order .rejected) ∨
      ∃ po id merged, r = .triggered id merged ∧ Triggers s.toFloor t po ∧
        Executed s s' po.account (t.fill po) id merged := by
  simp only [executeTrigger, bind_eq_ok, Prod.exists] at h
  obtain ⟨floor, result, htrigger, h⟩ := h
  obtain ⟨rfl, rfl⟩ | ⟨rfl, rfl⟩ | ⟨code, rfl, rfl⟩ | ⟨po, id, merged, rfl, htriggers, hfilled, htypes⟩ :=
    trigger_cases htrigger
  · cases h
    exact Or.inl ⟨rfl, rfl⟩
  · cases h
    exact Or.inr (Or.inl ⟨rfl, rfl⟩)
  · cases h
    exact Or.inr (Or.inr (Or.inl ⟨code, rfl, rfl⟩))
  · rw [htriggers.row] at h
    simp only [bind_eq_ok, pure_eq_ok, Prod.mk.injEq] at h
    obtain ⟨s2, hrecord, rfl, rfl⟩ := h
    have hfloor := recordExecution_floor hrecord
    have hpositions : s2.positions = floor.positions := congrArg Floor.positions hfloor
    have haccounts : s2.accounts = floor.accounts := congrArg Floor.accounts hfloor
    exact Or.inr (Or.inr (Or.inr ⟨po, id, merged, rfl, htriggers, hpositions ▸ hfilled, haccounts ▸ htypes⟩))

end Desks

end Transactions

/-- What holds once an order has been opened at `position`: of the account whose row was locked, with the terms and the
equity of the decision, and of the limits of the whole broker. -/
structure Within (s s' : Broker) (m : Moment) (x : Candidate) (accountType : AccountType) (snap : AccountSnap)
    (equity : ℚ) (position : ℕ) (merged : Bool) : Prop where
  active : blocked (s'.terms x.account).status = false
  counted : merged = false → ∃ i rule, s'.riskRules.latest (fun rule => rule.account = x.account) = some (i, rule) ∧
    (held s'.positions x.account).length ≤ rule.maxOpenPositions
  margined : (∀ p, s.positions.get position = some (some p) → p.avgPrice.units ≠ 0) →
    ∃ row, s'.positions.get position = some (some row) ∧
      (1 - ulp) ^ ((held s.positions x.account).length + 12) *
          totalMargin snap.leverage (s.terms x.account).currency (held s'.positions x.account) ≤
        snap.maxTotalMarginPct / 100 * equitySafe python equity + columnSlack snap.leverage row
  limited : ∃ spec, getSpec x.symbol = some spec ∧ WithinLimits python m.settings s.holdings m.feed
    (riskOrder x.account accountType x.symbol x.side x.qty x.price spec)
  lots : (∀ i p, s.positions.get i = some (some p) → 0 ≤ p.qty.units) → ∀ spec, getSpec x.symbol = some spec →
    ∀ rule q c, counts m.settings s.holdings (riskOrder x.account accountType x.symbol x.side x.qty x.price spec) rule =
        some (q, c) →
      (1 - ulp) ^ ((s.holdings.counted q).length + 5) * storedLots s'.holdings q c ≤
        m.settings.limit rule + 5 / 10 ^ 7

/-- The fill that an order is executed with. -/
structure Fits (x : Candidate) (f : Fill) : Prop where
  symbol : f.symbol = x.symbol
  side : f.side = x.side
  nettingMode : f.nettingMode = x.nettingMode
  price : f.price = str x.price
  qty : Left ulp 2 |f.qty| |str x.qty|

section Decided

variable {s s1 s' : Broker} {m : Moment} {a : TradingAccount} {x : Candidate} {snap : AccountSnap} {spec : SymbolSpec}
  {equity used : ℚ} {rule : Challenges.Evaluation.RiskRule} {f : Fill} {id : ℕ} {merged : Bool}

lemma getOrCreateRiskRule_kept {k : ℕ} (h : getOrCreateRiskRule s k a = .ok (s', rule)) :
    Kept s s' s.toDesk ∧ ∃ i, s'.riskRules.latest (fun rule => rule.account = k) = some (i, rule) := by
  rw [getOrCreateRiskRule] at h
  split at h
  · next i found hfound =>
    cases h
    exact ⟨kept_self s, i, hfound⟩
  · simp only [bind_eq_ok, pure_eq_ok, Prod.mk.injEq] at h
    obtain ⟨maxLotSize, -, exposure, -, rfl, rfl⟩ := h
    refine ⟨⟨rfl, rfl, rfl, rfl, fun i found hfound => Table.get_insert_of_get hfound _⟩, s.riskRules.next, ?_⟩
    rw [Table.latest_insert]
    simp

lemma Kept.holdings (h : Kept s s1 s.toDesk) : s1.holdings = s.holdings := by
  have haccounts : s1.accounts = s.accounts := congrArg (fun d => d.accounts) h.desk
  have hpositions : s1.positions = s.positions := congrArg (fun d => d.positions) h.desk
  rw [Broker.holdings, Broker.holdings, haccounts, hpositions, h.terms, h.decisions]

lemma mem_held {t : Table (Option Position)} {k : ℕ} {p : Position} (h : p ∈ held t k) :
    p.account = k ∧ ∃ i, t.get i = some (some p) := by
  obtain ⟨⟨i, row⟩, hrow, hown⟩ := List.mem_filterMap.mp h
  cases row with
  | none => cases hown
  | some p' =>
    simp only [ownRow, Option.filter_eq_some_iff, Option.some.injEq, decide_eq_true_eq] at hown
    obtain ⟨rfl, haccount⟩ := hown
    exact ⟨haccount, i, Table.mem_rows.mp hrow⟩

lemma merges_of_new (hfits : Fits x f) {t : Table (Option Position)}
    (hnone : f.nettingMode = true → ∀ i p, t.get i = some (some p) → mergesWith x.account f (some p) = false) :
    x.merges (held t x.account) = false := by
  by_contra hmerges
  rw [Bool.not_eq_false, Candidate.merges, Bool.and_eq_true, List.any_eq_true] at hmerges
  obtain ⟨hnetting, p, hp, hsame⟩ := hmerges
  obtain ⟨haccount, i, hrow⟩ := mem_held hp
  rw [decide_eq_true_eq] at hsame
  have hmatch := hnone (hfits.nettingMode.trans hnetting) i p hrow
  simp [mergesWith, haccount, hfits.symbol, hfits.side, hsame] at hmatch

lemma holder_executed (h : Executed s.toDesk s'.toDesk x.account f id merged) (hterms : s'.terms = s.terms) :
    s'.holdings.holder = s.holdings.holder := by
  funext k
  have htypes := h.types k
  simp only [Broker.holdings, hterms]
  cases ha : s'.accounts.get k with
  | none =>
    rw [ha, Option.map_none, eq_comm, Option.map_eq_none_iff] at htypes
    rw [htypes]
  | some a' =>
    rw [ha, Option.map_some, eq_comm, Option.map_eq_some_iff] at htypes
    obtain ⟨a, ha', htype⟩ := htypes
    rw [ha', Option.map_some, Option.map_some, htype]

lemma price_of_required {qty price requiredMargin : ℚ} {symbol currency : String} {lev : ℕ}
    (hspec : getSpec symbol = some spec)
    (h : calculateRequiredMargin python symbol price qty lev currency = some requiredMargin) :
    price ≠ 0 ∨ spec.quoteCurrency = currency := by
  rw [required_python hspec] at h
  split at h
  · next hquote => exact Or.inr hquote
  · split at h
    · next hbase => exact Or.inl hbase.2
    · cases h

variable {requiredMargin : ℚ}

lemma counted_executed (hfits : Fits x f) (hfilled : Filled s.positions x.account f s'.positions id false)
    (hpassed : Passed python x.symbol x.qty x.price
      (x.fresh (s.terms x.account) (held s.positions x.account) equity used rule) snap spec requiredMargin) :
    (held s'.positions x.account).length ≤ rule.maxOpenPositions := by
  generalize hafter : s'.positions = t' at hfilled
  cases hfilled with
  | @new row hnone hopened =>
    have hmerges := merges_of_new hfits hnone
    have hcounted := hpassed.counted (by rw [Candidate.fresh, hmerges]; rfl)
    rw [held_insert hopened.account, List.length_append, List.length_singleton]
    exact hcounted

lemma margined_executed (hfits : Fits x f) (hspec : getSpec x.symbol = some spec)
    (hfilled : Filled s.positions x.account f s'.positions id merged)
    (hused : freshMarginUsed python snap.leverage (s.terms x.account).currency (held s.positions x.account) = .ok used)
    (hpassed : Passed python x.symbol x.qty x.price
      (x.fresh (s.terms x.account) (held s.positions x.account) equity used rule) snap spec requiredMargin)
    (hstored : ∀ p, s.positions.get id = some (some p) → p.avgPrice.units ≠ 0) :
    ∃ row, s'.positions.get id = some (some row) ∧
      (1 - ulp) ^ ((held s.positions x.account).length + 12) *
          totalMargin snap.leverage (s.terms x.account).currency (held s'.positions x.account) ≤
        snap.maxTotalMarginPct / 100 * equitySafe python equity + columnSlack snap.leverage row := by
  have hfill : getSpec f.symbol = some spec := hfits.symbol ▸ hspec
  have hprice : f.price ≠ 0 ∨ spec.quoteCurrency = (s.terms x.account).currency :=
    hfits.price ▸ price_of_required hspec hpassed.required
  obtain ⟨row, hrow, hadded⟩ := filled_margin snap.leverage hfilled hfill hprice hstored
  have hbefore := passed_total hspec hpassed hfits.qty hused
  have hmargin : fillMargin snap.leverage (s.terms x.account).currency f = (calculateRequiredMargin exact x.symbol
      (str x.price) f.qty (effectiveLeverage snap.leverage spec) (s.terms x.account).currency).getD 0 := by
    rw [fillMargin, hfill, Option.bind_some, hfits.symbol, hfits.price]
  refine ⟨row, hrow, ?_⟩
  have hslack : 0 ≤ columnSlack snap.leverage row := by
    rw [columnSlack]
    cases hsymbol : getSpec row.symbol with
    | none => exact le_rfl
    | some spec' =>
      have hsize := (registry_bounds (mem_of_getSpec hsymbol)).1
      exact mul_nonneg (div_nonneg hsize.le (Nat.cast_nonneg _)) (slack_nonneg row)
  have hpower := part_ulp.rest_pow_nonneg ((held s.positions x.account).length + 11)
  have hscaled := mul_le_mul_of_nonneg_left hadded hpower
  have hsmall := mul_le_of_le_one_left hslack
    (pow_le_one₀ (n := (held s.positions x.account).length + 11) part_ulp.rest_nonneg part_ulp.rest_le_one)
  rw [hmargin, ← add_assoc, mul_add, ← mul_assoc, ← pow_succ] at hscaled
  have hbefore' : (1 - ulp) ^ ((held s.positions x.account).length + 11) *
      (totalMargin snap.leverage (s.terms x.account).currency (held s.positions x.account) +
        (calculateRequiredMargin exact x.symbol (str x.price) f.qty (effectiveLeverage snap.leverage spec)
          (s.terms x.account).currency).getD 0) ≤ snap.maxTotalMarginPct / 100 * equitySafe python equity := hbefore
  exact hscaled.trans (add_le_add hbefore' hsmall)

lemma lots_executed {accountType : AccountType} (hfits : Fits x f) (hspec : getSpec x.symbol = some spec)
    (hexecuted : Executed s.toDesk s'.toDesk x.account f id merged) (hterms : s'.terms = s.terms)
    (hsized : checkLotSize (str x.qty) spec = .ok ())
    (hlimits : WithinLimits python m.settings s.holdings m.feed
      (riskOrder x.account accountType x.symbol x.side x.qty x.price spec))
    (hnonneg : ∀ i p, s.positions.get i = some (some p) → 0 ≤ p.qty.units) {limit : Rule} {q : Query}
    {c : Option Side} (hcounts : counts m.settings s.holdings
      (riskOrder x.account accountType x.symbol x.side x.qty x.price spec) limit = some (q, c)) :
    (1 - ulp) ^ ((s.holdings.counted q).length + 5) * storedLots s'.holdings q c ≤
      m.settings.limit limit + 5 / 10 ^ 7 := by
  have hqty : Left ulp 2 |f.qty| (str x.qty) := by
    have hpositive : 0 ≤ str x.qty := le_trans (by norm_num) (lot_positive (mem_of_getSpec hspec) hsized)
    have hleft := hfits.qty
    rwa [abs_of_nonneg hpositive] at hleft
  have hcounted : ∀ p ∈ s.holdings.counted q, 0 ≤ p.qty.value := by
    intro p hp
    obtain ⟨⟨i, row⟩, hrow, hopen⟩ := List.mem_filterMap.mp (List.mem_of_mem_filter hp)
    cases row with
    | none => simp at hopen
    | some p' =>
      simp only [Option.bind_eq_bind, Option.bind_some, Option.bind_eq_some_iff, Option.pure_def,
        Option.some.injEq] at hopen
      obtain ⟨holder, -, rfl⟩ := hopen
      have hunits : (0 : ℚ) ≤ p'.qty.units := by exact_mod_cast hnonneg i p' (Table.mem_rows.mp hrow)
      exact div_nonneg hunits (by norm_num)
  have hlimit := limit_left hlimits hcounts hcounted hqty
  have hadded := filled_lots s.holdings.holder q c hexecuted.filled hnonneg
  have hafter : storedLots s'.holdings q c = s'.positions.total (lotTerm s.holdings.holder q c) := by
    rw [storedLots_total, holder_executed hexecuted hterms]
    rfl
  have hstored : storedLots s.holdings q c = s.positions.total (lotTerm s.holdings.holder q c) := storedLots_total _ _ _
  have hpower := part_ulp.rest_pow_nonneg ((s.holdings.counted q).length + 4)
  have hscaled := mul_le_mul_of_nonneg_left hadded hpower
  have hsmall := mul_le_of_le_one_left (by norm_num : (0 : ℚ) ≤ 5 / 10 ^ 7)
    (pow_le_one₀ (n := (s.holdings.counted q).length + 4) part_ulp.rest_nonneg part_ulp.rest_le_one)
  rw [← hafter, ← hstored, hfits.side, ← add_assoc, mul_add, ← mul_assoc, ← pow_succ] at hscaled
  exact hscaled.trans (add_le_add hlimit hsmall)

lemma within (hkept : Kept s s1 s.toDesk)
    (hrule : ∃ i, s1.riskRules.latest (fun rule => rule.account = x.account) = some (i, rule))
    (hspec : getSpec x.symbol = some spec)
    (hused : freshMarginUsed python snap.leverage (s.terms x.account).currency (held s.positions x.account) = .ok used)
    (hdecision : decision python s1 m a x snap spec equity used rule = none) (hfits : Fits x f)
    (hexecuted : Executed s.toDesk s'.toDesk x.account f id merged) (hterms : s'.terms = s.terms)
    (hrules : s'.riskRules = s1.riskRules) : Within s s' m x a.accountType snap equity id merged := by
  have hpositions : s1.positions = s.positions := congrArg (fun d => d.positions) hkept.desk
  rw [decision, hkept.terms, hpositions, hkept.holdings] at hdecision
  obtain ⟨hguard, hlimits⟩ := refusal_none hdecision
  obtain ⟨requiredMargin, hpassed⟩ := guard_passed hguard
  refine ⟨?_, ?_, margined_executed hfits hspec hexecuted.filled hused hpassed, ⟨spec, hspec, hlimits⟩, ?_⟩
  · rw [hterms]
    exact hpassed.active
  · rintro rfl
    obtain ⟨i, hlatest⟩ := hrule
    exact ⟨i, rule, hrules ▸ hlatest, counted_executed hfits hexecuted.filled hpassed⟩
  · intro hnonneg spec' hspec' limit q c hcounts
    cases hspec.symm.trans hspec'
    exact lots_executed hfits hspec hexecuted hterms hpassed.sized hlimits hnonneg hcounts

end Decided

section Market

variable {s s' : Broker} {m : Moment} {a : TradingAccount} {x : Candidate} {snap : AccountSnap}
  {commission spreadRevenue : ℚ} {reply : OpenReply}

def locked (s : Broker) : Broker := { s with riskLock := true }

lemma Kept.unlocked {desk : Desk} (h : Kept (locked s) s' desk) : Kept s s' desk :=
  ⟨h.desk, h.terms, h.decisions, h.connections, h.rules⟩

lemma Kept.trans {s1 : Broker} (h : Kept s s1 s.toDesk) (f : Desk → Desk) (h' : Kept s1 s' (f s1.toDesk)) :
    Kept s s' (f s.toDesk) :=
  ⟨h'.desk.trans (congrArg f h.desk), h'.terms.trans h.terms, h'.decisions.trans h.decisions,
    h'.connections.trans h.connections, fun i rule hrow => h'.rules i rule (h.rules i rule hrow)⟩

lemma Within.unlocked {accountType : AccountType} {equity : ℚ} {id : ℕ} {merged : Bool}
    (h : Within (locked s) s' m x accountType snap equity id merged) :
    Within s s' m x accountType snap equity id merged :=
  ⟨h.active, h.counted, h.margined, h.limited, h.lots⟩

lemma candidate_fits (x : Candidate) : Fits x (x.fill python) :=
  ⟨rfl, rfl, rfl, rfl, (left_self (abs_nonneg _)).weaken part_ulp (Nat.zero_le 2)⟩

lemma openLocked_cases (h : openLocked python s m a x snap commission spreadRevenue = .ok (s', reply)) :
    (∃ code, reply = .rejected code ∧ Kept s s' s.toDesk) ∨ ∃ id merged equity, reply = .opened id merged ∧
      freshEquity python a.balance.value (s.terms x.account).currency (feedPx python m) (held s.positions x.account) =
        some equity ∧ Within s s' m x a.accountType snap equity id merged := by
  simp only [openLocked, bind_eq_ok, Prod.exists] at h
  obtain ⟨used, hused, s1, rule, hrule, h⟩ := h
  obtain ⟨hkept, hlatest⟩ := getOrCreateRiskRule_kept hrule
  split at h
  · cases h
    exact Or.inl ⟨_, rfl, hkept⟩
  · next equity hequity =>
    simp only [bind_eq_ok] at h
    obtain ⟨spec, hspec, h⟩ := h
    split at h
    · cases h
      exact Or.inl ⟨_, rfl, ⟨hkept.desk, hkept.terms, hkept.decisions, hkept.connections, hkept.rules⟩⟩
    · cases h
      exact Or.inl ⟨_, rfl, hkept⟩
    · next hdecision =>
      simp only [bind_eq_ok, pure_eq_ok, Prod.exists, Prod.mk.injEq] at h
      obtain ⟨desk, id, merged, hexecution, rfl, rfl⟩ := h
      have hexecuted := execution_executed (mapError_eq_ok.mp hexecution)
      rw [hkept.desk] at hexecuted
      refine Or.inr ⟨id, merged, equity, rfl, hequity, ?_⟩
      exact within hkept hlatest (require_eq_ok.mp hspec) hused hdecision (candidate_fits x) hexecuted hkept.terms rfl

/-- What a market order leaves, by its reply. -/
def MarketLimited (s s' : Broker) (m : Moment) (o : MarketOpen) : OpenReply → Prop
  | .unrecorded => s' = s
  | .rejected _ => Kept s s' s.toDesk
  | .opened position merged => ∃ c k a equity, s.connections.get o.connection = some c ∧ c.account = some k ∧
    s.accounts.get k = some a ∧
    freshEquity python a.balance.value (s.terms k).currency (feedPx python m) (held s.positions k) = some equity ∧
    Within s s' m (o.candidate k c.nettingMode) a.accountType c.snap equity position merged

lemma market_limited {o : MarketOpen} (h : dbOpenPositionAtomic python s m o = .ok (s', reply)) :
    MarketLimited s s' m o reply := by
  rw [dbOpenPositionAtomic, bind_eq_ok] at h
  obtain ⟨c, hc, h⟩ := h
  split at h
  · split at h
    · cases h
      exact kept_self s
    · cases h
      rfl
  · next k hk =>
    dsimp only at h
    split at h
    · cases h
      exact (kept_self (locked s)).unlocked
    · next a ha =>
      split at h
      · cases h
        exact (kept_self (locked s)).unlocked
      · obtain ⟨code, rfl, hkept⟩ | ⟨id, merged, equity, rfl, hequity, hwithin⟩ := openLocked_cases h
        · exact Kept.unlocked hkept
        · exact ⟨c, k, a, equity, require_eq_ok.mp hc, hk, ha, hequity, Within.unlocked hwithin⟩

end Market

section Pending

variable {s s' : Broker} {m : Moment} {a : TradingAccount} {x : Candidate} {po : PendingOrder} {result : TriggerResult}

lemma settleTrigger_cases {t : Trigger} (h : settleTrigger s po t = .ok (s', result)) :
    (result = .notPending ∧ Kept s s' s.toDesk) ∨
      (result = .expired ∧ Kept s s' (withStatus s.toDesk t.order .expired)) ∨
      (∃ code, result = .rejected code ∧ Kept s s' (withStatus s.toDesk t.order .rejected)) ∨
      ∃ po id merged, result = .triggered id merged ∧ Triggers s.toFloor t po ∧
        Executed s.toDesk s'.toDesk po.account (t.fill po) id merged ∧ s'.terms = s.terms ∧
        s'.riskRules = s.riskRules := by
  simp only [settleTrigger, bind_eq_ok, mapError_eq_ok, Prod.exists] at h
  obtain ⟨desk, r, hexecute, h⟩ := h
  obtain ⟨rfl, rfl⟩ | ⟨rfl, rfl⟩ | ⟨code, rfl, rfl⟩ | ⟨po, id, merged, rfl, htriggers, hexecuted⟩ :=
    executeTrigger_cases hexecute
  · cases h
    exact Or.inl ⟨rfl, ⟨rfl, rfl, rfl, rfl, fun _ _ hrow => hrow⟩⟩
  · cases h
    exact Or.inr (Or.inl ⟨rfl, ⟨rfl, rfl, rfl, rfl, fun _ _ hrow => hrow⟩⟩)
  · cases h
    exact Or.inr (Or.inr (Or.inl ⟨code, rfl, ⟨rfl, rfl, rfl, rfl, fun _ _ hrow => hrow⟩⟩))
  · cases h
    exact Or.inr (Or.inr (Or.inr ⟨po, id, merged, rfl, htriggers, hexecuted, rfl, rfl⟩))

/-- What a pending order leaves, by the result of its trigger. -/
def TriggerLimited (s s' : Broker) (m : Moment) (t : PendingTrigger) : TriggerResult → Prop
  | .notPending => Kept s s' s.toDesk
  | .expired => Kept s s' (withStatus s.toDesk t.order .expired)
  | .rejected _ => Kept s s' (withStatus s.toDesk t.order .rejected)
  | .triggered position merged => ∃ po a equity, s.orders.get t.order = some po ∧ s.accounts.get po.account = some a ∧
    freshEquity python a.balance.value (s.terms po.account).currency (cachedPx m) (held s.positions po.account) =
      some equity ∧
    Within s s' m (t.candidate python po (s.terms po.account).nettingMode) a.accountType
      ((s.terms po.account).snap python) equity position merged

lemma TriggerLimited.unlocked {t : PendingTrigger} (h : TriggerLimited (locked s) s' m t result) :
    TriggerLimited s s' m t result := by
  cases result with
  | notPending | expired | rejected => exact Kept.unlocked h
  | triggered id merged =>
    obtain ⟨po, a, equity, hrow, ha, hequity, hwithin⟩ := h
    exact ⟨po, a, equity, hrow, ha, hequity, hwithin.unlocked⟩

lemma settled_limited {t : PendingTrigger} {refusedAtPrice : Option String} {code : Option RejectCode} {netting : Bool}
    (h : settleTrigger s po (t.onFloor python refusedAtPrice code netting) = .ok (s', result))
    (htriggered : ∀ id merged, result ≠ .triggered id merged) : TriggerLimited s s' m t result := by
  obtain ⟨rfl, hkept⟩ | ⟨rfl, hkept⟩ | ⟨code, rfl, hkept⟩ | ⟨po, id, merged, rfl, -⟩ := settleTrigger_cases h
  · exact hkept
  · exact hkept
  · exact hkept
  · exact (htriggered id merged rfl).elim

lemma examine_kept {code : Option RejectCode} (h : examine python s m a x = .ok (s', code)) : Kept s s' s.toDesk := by
  simp only [examine, bind_eq_ok] at h
  obtain ⟨used, -, h⟩ := h
  split at h
  · cases h
    exact kept_self s
  · simp only [bind_eq_ok, pure_eq_ok, Prod.exists, Prod.mk.injEq] at h
    obtain ⟨spec, -, s1, rule, hrule, rfl, -⟩ := h
    exact (getOrCreateRiskRule_kept hrule).1

lemma effectiveLeverage_snap (leverage : ℕ) (spec : SymbolSpec) :
    effectiveLeverage (max 1 leverage) spec = effectiveLeverage leverage spec := by
  simp [effectiveLeverage]

lemma freshMarginUsed_snap (leverage : ℕ) (currency : String) (rows : List Position) :
    freshMarginUsed python (max 1 leverage) currency rows = freshMarginUsed python leverage currency rows := by
  have hadd : addMargin python (max 1 leverage) currency = addMargin python leverage currency := by
    funext total p
    simp only [addMargin, rowMargin, effectiveLeverage_snap]
  rw [freshMarginUsed, hadd, freshMarginUsed]

lemma examined_within {f : Fill} {id : ℕ} {merged : Bool} {s1 : Broker} (h : examine python s m a x = .ok (s1, none))
    (hfits : Fits x f) (hexecuted : Executed s1.toDesk s'.toDesk x.account f id merged) (hterms : s'.terms = s1.terms)
    (hrules : s'.riskRules = s1.riskRules) :
    ∃ equity, freshEquity python a.balance.value (s.terms x.account).currency (cachedPx m)
        (held s.positions x.account) = some equity ∧
      Within s s' m x a.accountType ((s.terms x.account).snap python) equity id merged := by
  have hkept := examine_kept h
  simp only [examine, bind_eq_ok] at h
  obtain ⟨used, hused, h⟩ := h
  split at h
  · cases h
  · next equity hequity =>
    simp only [bind_eq_ok, pure_eq_ok, Prod.exists, Prod.mk.injEq] at h
    obtain ⟨spec, hspec, s2, rule, hrule, rfl, hdecision⟩ := h
    obtain ⟨-, hlatest⟩ := getOrCreateRiskRule_kept hrule
    rw [hkept.desk] at hexecuted
    have hused' : freshMarginUsed python ((s.terms x.account).snap python).leverage (s.terms x.account).currency
        (held s.positions x.account) = .ok used := (freshMarginUsed_snap _ _ _).trans hused
    exact ⟨equity, hequity, within hkept hlatest (require_eq_ok.mp hspec) hused' hdecision hfits hexecuted
      (hterms.trans hkept.terms) hrules⟩

lemma trigger_fits {t : PendingTrigger} {refusedAtPrice : Option String} {code : Option RejectCode} {netting : Bool} :
    Fits (t.candidate python po netting) ((t.onFloor python refusedAtPrice code netting).fill po) :=
  ⟨rfl, rfl, rfl, rfl, written_left po.qty.value⟩

lemma trigger_limited {t : PendingTrigger} (h : triggerPendingOrderCore python s m t = .ok (s', result)) :
    TriggerLimited s s' m t result := by
  rw [triggerPendingOrderCore] at h
  split at h
  · cases h
    exact kept_self s
  · next po hrow =>
    dsimp only at h
    split at h
    · next hrefused =>
      apply settled_limited h
      rintro id merged rfl
      obtain ⟨hnot, -⟩ | ⟨hnot, -⟩ | ⟨code, hnot, -⟩ | ⟨po', id', merged', -, htriggers, -⟩ := settleTrigger_cases h
      · cases hnot
      · cases hnot
      · cases hnot
      · cases hrow.symm.trans htriggers.row
        obtain hstatus | hdue | hprice := hrefused
        · exact hstatus htriggers.pending
        · exact Bool.false_ne_true (htriggers.early.symm.trans hdue)
        · have hnone : t.refusal po = none := htriggers.atPrice
          rw [hnone] at hprice
          cases hprice
    · split at h
      · next hmissing =>
        have hlimited : TriggerLimited (locked s) s' m t result := by
          apply settled_limited h
          rintro id merged rfl
          obtain ⟨hnot, -⟩ | ⟨hnot, -⟩ | ⟨code, hnot, -⟩ | ⟨po', id', merged', -, htriggers, -⟩ := settleTrigger_cases h
          · cases hnot
          · cases hnot
          · cases hnot
          · cases hrow.symm.trans htriggers.row
            have hsome := htriggers.account
            have hnone : (locked s).accounts.get po.account = none := hmissing
            change ((locked s).accounts.get po.account).isSome at hsome
            rw [hnone] at hsome
            cases hsome
        exact hlimited.unlocked
      · next a ha =>
        simp only [bind_eq_ok, Prod.exists] at h
        obtain ⟨-, -, s1, code, hexamine, hsettle⟩ := h
        have hkept : Kept s s1 s.toDesk := (examine_kept hexamine).unlocked
        obtain ⟨rfl, hafter⟩ | ⟨rfl, hafter⟩ | ⟨reason, rfl, hafter⟩ |
          ⟨po', id, merged, rfl, htriggers, hexecuted, hterms, hrules⟩ := settleTrigger_cases hsettle
        · exact hkept.trans id hafter
        · exact hkept.trans (fun desk => withStatus desk t.order .expired) hafter
        · exact hkept.trans (fun desk => withStatus desk t.order .rejected) hafter
        · have hopen : s1.orders.get t.order = some po' := htriggers.row
          have horders : s1.orders = s.orders := congrArg (fun d => d.orders) hkept.desk
          rw [horders] at hopen
          cases hrow.symm.trans hopen
          have hcode : code = none := Option.map_eq_none_iff.mp htriggers.byLimits
          subst hcode
          obtain ⟨equity, hequity, hwithin⟩ := examined_within hexamine trigger_fits hexecuted hterms hrules
          exact ⟨po, a, equity, hrow, ha, hequity, hwithin.unlocked⟩

end Pending

section Runs

/-- What the transaction of a call leaves, whatever its outcome. -/
def Limited (s : Broker) : Call → Prop
  | .openPosition m o => ∀ s' reply, dbOpenPositionAtomic python s m o = .ok (s', reply) → MarketLimited s s' m o reply
  | .triggerPendingOrder m t =>
    ∀ s' result, triggerPendingOrderCore python s m t = .ok (s', result) → TriggerLimited s s' m t result
  | _ => True

theorem openings_limited (s : Broker) (calls : List Call) (c : Call) : Limited (run (call python) s calls) c := by
  cases c with
  | openPosition m o => exact fun _ _ => market_limited
  | triggerPendingOrder m t => exact fun _ _ => trigger_limited
  | connect | orderMode | placeOrder | read | closeWs | closeDaemon | forceClose | setTerms | setRule | route =>
    exact True.intro

end Runs

section Counterexample

def dollars (leverage : ℕ) (maxTotalMarginPct : Option (Numeric 5 2)) : AccountTerms where
  tier := none
  status := .active
  leverage := leverage
  currency := "USD"
  nettingMode := true
  allowedSymbols := none
  maxLotSize := none
  marginCallLevel := none
  maxMarginPerTradePct := none
  maxTotalMarginPct := maxTotalMarginPct

def client (accountType : AccountType) (balance : ℕ) : TradingAccount where
  user := none
  accountType := accountType
  balance := .ofUnits balance
  equity := .ofUnits balance
  peakBalance := .ofUnits balance
  initialBalance := none

/-- A retail account with an order of two lots, a demo account that holds one, and a connection of the first. -/
def twoBooks (balance : ℕ) (terms : AccountTerms) : Broker where
  accounts := Table.ofList [client .retail balance, client .demo 1000000]
  entries := Table.empty
  positions := Table.ofList [some ⟨1, "EUR/USD", .buy, .ofUnits 1000000, .ofUnits 1100000⟩]
  orders := Table.ofList [⟨0, "EUR/USD", .buy, .ofUnits 2000000, .pending⟩]
  events := Table.empty
  trades := Table.empty
  counterparties := Table.empty
  copies := Table.empty
  terms _ := terms
  riskRules := Table.empty
  decisions := []
  connections := Table.ofList [⟨some 0, terms.hydrated python, true⟩]
  audits := Table.empty
  riskLock := false

lemma quote_pos : (0 : ℚ) < 11 / 10 := by norm_num

lemma unrecorded (_symbol : String) (row : LastKnownMarketPrice) (h : none = some row) : 0 < row.mid.units := by
  cases h

def oneLot : Moment where
  feed := ⟨fun _ => true, fun _ => 11 / 10, fun _ => .openNormal, fun _ => none, fun _ => quote_pos, unrecorded⟩
  lastBid _ := 11 / 10
  lastAsk _ := 11 / 10
  cached _ := none
  settings := { maxTotalBrokerExposureLots := 1 }

def buys (symbol : String) (qty price : ℚ) : MarketOpen where
  connection := 0
  symbol := symbol
  side := .buy
  qty := qty
  price := price
  commission := 0
  spreadRevenue := 0
  goldTrading := true

def twoLots : PendingTrigger where
  order := 0
  due := false
  executionPrice := 11 / 10
  refusedAtPrice := none
  spreadFeeEnabled := false
  spreadCharge := none
  commission := 0

/-- An order is opened although the account's margin is over its own share of the equity. -/
def overMargined (s : Broker) (o : MarketOpen) (k : ℕ) : Bool :=
  match dbOpenPositionAtomic python s oneLot o, s.accounts.get k with
  | .ok (s', .opened _ _), some a =>
    match freshEquity python a.balance.value (s.terms k).currency (feedPx python oneLot) (held s.positions k) with
    | some equity => ((s.terms k).snap python).maxTotalMarginPct / 100 * equity <
        totalMargin (s.terms k).leverage (s.terms k).currency (held s'.positions k)
    | none => false
  | _, _ => false

def overLots (s : Broker) (o : MarketOpen) : Bool :=
  match dbOpenPositionAtomic python s oneLot o with
  | .ok (s', .opened _ _) => oneLot.settings.maxTotalBrokerExposureLots < storedLots s'.holdings {} none
  | _ => false

def lowered : Broker := run (call python) (twoBooks 1000000 (dollars 100 none)) [.setTerms 0 (dollars 1 none)]

def refusedOrder : Broker :=
  run (call python) (twoBooks 1000000 (dollars 100 none)) [.triggerPendingOrder oneLot twoLots]

/-- A copy of the leverage from before it was lowered, a price that its column rounds up and an equity of nothing open
more than the share, the lots of the demo book are not counted for a retail order, and an order that is refused is
marked so and audited. -/
theorem openings_exceed_limits :
    overMargined lowered (buys "EUR/USD" (1 / 10) (11 / 10)) 0 = true ∧
      overMargined (twoBooks 1001003 (dollars 100 (some (.ofUnits 999)))) (buys "EUR/USD" 1 (10000016 / 10000000)) 0 =
        true ∧
      overMargined (twoBooks 0 (dollars 100 none)) (buys "ETHUSD" (1 / 100) 1) 0 = true ∧
      overLots (twoBooks 1000000 (dollars 100 none)) (buys "EUR/USD" (1 / 10) (11 / 10)) = true ∧
      (refusedOrder.orders.get 0).map PendingOrder.status = some .rejected ∧
      (refusedOrder.audits.get 0).map AuditRow.code = some "margin_per_trade_exceeded" := by
  decide +kernel

end Counterexample

end TrxSimulator.Trading.OpenLimits
