import TrxSimulator.Trading.Levels
import TrxSimulator.Trading.Moves

/-! Pending orders: panels and scans evaluate copies of them against a price, and a trigger runs later on the row
that it locks. -/

namespace TrxSimulator.Trading.PendingOrders

open Foundations.Runs Foundations.Tables Foundations.Outcomes Foundations.Decimals
open Executions Moves Levels
open Writers hiding Call call dbOpenPositionAtomic triggerPendingOrderCore closePosition dbClosePositionAtomic
  closePositionSync forceClose PendingOrder OrderStatus

inductive OrderType
  | limit | stop
deriving DecidableEq

inductive OrderStatus
  | pending | triggered (position : ℕ) | cancelled | expired | rejected
deriving DecidableEq

structure PendingOrder where
  account : ℕ
  symbol : String
  side : Side
  orderType : OrderType
  qty : Numeric 18 6
  triggerPrice : Numeric 18 6
  sl : Option (Numeric 18 6)
  tp : Option (Numeric 18 6)
  expiresAt : Option ℕ
  status : OrderStatus
deriving DecidableEq

def pendingTriggerConditionMet (orderType : OrderType) (side : Side) (triggerPrice bid ask : ℚ) : Bool :=
  match orderType, side with
  | .limit, .buy => decide (ask ≤ triggerPrice)
  | .limit, .sell => decide (triggerPrice ≤ bid)
  | .stop, .buy => decide (triggerPrice ≤ ask)
  | .stop, .sell => decide (bid ≤ triggerPrice)

def executionPrice (side : Side) (bid ask : ℚ) : ℚ :=
  match side with
  | .buy => ask
  | .sell => bid

/-- A trigger in flight: its order as the panel or the scan knew it, and the price at which it will execute. -/
structure Attempt where
  order : ℕ
  seen : PendingOrder
  price : ℚ
deriving DecidableEq

/-- An execution as it happened: the row that was locked, the price and the time. -/
structure Execution where
  order : ℕ
  row : PendingOrder
  price : ℚ
  time : ℕ
deriving DecidableEq

/-- The orders of the desk are those of the book. -/
structure Book where
  desk : Desk
  orders : Table PendingOrder
  copies : ℕ → ℕ → Option PendingOrder
  attempts : Table Attempt
  executions : Table Execution
  now : ℕ

def OrderStatus.onFloor : OrderStatus → Writers.OrderStatus
  | .pending => .pending
  | .triggered position => .triggered position
  | .expired => .expired
  | .cancelled | .rejected => .rejected

def PendingOrder.onFloor (po : PendingOrder) : Writers.PendingOrder where
  account := po.account
  symbol := po.symbol
  side := po.side
  qty := po.qty
  status := po.status.onFloor

def floorOrders (t : Table PendingOrder) : Table Writers.PendingOrder where
  next := t.next
  get i := (t.get i).map PendingOrder.onFloor
  bound i h := by rw [t.bound i h, Option.map_none]

def deskOf (s : Book) : Desk := { s.desk with orders := floorOrders s.orders }

section Trigger

def LevelError.code : LevelError → String
  | .invalidSlValue => "invalid_sl_value"
  | .invalidTpValue => "invalid_tp_value"
  | .invalidSlDirection => "invalid_sl_direction"
  | .invalidTpDirection => "invalid_tp_direction"

structure Moment where
  spreadFeeEnabled : Bool
  spreadCharge : Option ℚ
  refusedByLimits : Option String
  nettingMode : Bool
  commission : ℚ

def refusedAtPrice (po : PendingOrder) (price : ℚ) : Option String :=
  if po.symbol = "XAU/USD" then some "gold_pilot_market_only"
  else match validateSlTp po.side (po.sl.map Numeric.value) (po.tp.map Numeric.value) price with
  | .error e => some (LevelError.code e)
  | .ok _ => none

def PendingOrder.due (po : PendingOrder) (now : ℕ) : Bool := po.expiresAt.any fun e => e ≤ now

def triggerOn (po : PendingOrder) (now order : ℕ) (price : ℚ) (m : Moment) : Trigger where
  order := order
  due := po.due now
  executionPrice := price
  refusedAtPrice := refusedAtPrice po price
  spreadFeeEnabled := m.spreadFeeEnabled
  spreadCharge := m.spreadCharge
  refusedByLimits := m.refusedByLimits
  nettingMode := m.nettingMode
  commission := m.commission

def statusAfter (status : OrderStatus) : TriggerResult → OrderStatus
  | .notPending => status
  | .expired => .expired
  | .rejected _ => .rejected
  | .triggered position _ => .triggered position

def triggered : TriggerResult → Bool
  | .triggered _ _ => true
  | _ => false

def triggerPendingOrderCore (s : Book) (order : ℕ) (price : ℚ) (m : Moment) : Except TradeError (Book × TriggerResult) :=
  match s.orders.get order with
  | none => .ok (s, .notPending)
  | some po => do
    let (desk, result) ← Executions.triggerPendingOrderCore (deskOf s) (triggerOn po s.now order price m)
    let execution : Execution := { order, row := po, price, time := s.now }
    let orders := s.orders.update order fun po => { po with status := statusAfter po.status result }
    pure ({ s with desk, orders, executions := if triggered result then s.executions.insert execution else s.executions },
      result)

end Trigger

section Machine

structure Revision where
  triggerPrice : Option ℚ
  qty : Option ℚ
  sl : Option ℚ
  tp : Option ℚ

inductive Act
  | place (po : PendingOrder)
  | update (order : ℕ) (r : Revision)
  | cancel (order : ℕ)
  | refresh (reader order : ℕ)
  | evaluate (reader order : ℕ) (bid ask : ℚ)
  | expire (reader order : ℕ)
  | trigger (attempt : ℕ) (m : Moment)
  | openPosition (o : Open)
  | close (c : CloseRequest)
  | forceClose (f : ForceRequest)
  | advance (seconds : ℕ)

def revised (name : String) (value : Option ℚ) (stored : Numeric 18 6) : Except TradeError (Numeric 18 6) :=
  match value with
  | none => .ok stored
  | some x => column 18 6 name x

def reviseOrder (po : PendingOrder) (r : Revision) : Except TradeError PendingOrder := do
  let triggerPrice ← revised "trigger_price" r.triggerPrice po.triggerPrice
  let qty ← revised "qty" r.qty po.qty
  let sl ← levelColumn "sl" r.sl po.sl
  let tp ← levelColumn "tp" r.tp po.tp
  pure { po with triggerPrice, qty, sl, tp }

def dbUpdatePendingOrder (s : Book) (order : ℕ) (r : Revision) : Book :=
  match s.orders.get order with
  | none => s
  | some po =>
    if po.status ≠ .pending then s
    else commit s ((reviseOrder po r).map fun po => { s with orders := s.orders.update order fun _ => po })

def dbCancelPendingOrder (s : Book) (order : ℕ) : Book :=
  match s.orders.get order with
  | none => s
  | some po =>
    if po.status ≠ .pending then s
    else { s with orders := s.orders.update order fun po => { po with status := .cancelled } }

def attempt (s : Book) (a : Attempt) : Book := { s with attempts := s.attempts.insert a }

def checkPendingTriggers (s : Book) (reader order : ℕ) (bid ask : ℚ) : Book :=
  match s.copies reader order with
  | none => s
  | some po =>
    if pendingTriggerConditionMet po.orderType po.side po.triggerPrice.value bid ask then
      attempt s { order, seen := po, price := executionPrice po.side bid ask }
    else s

/-- The scan hands an order that it saw expire to the trigger, at no price. -/
def expirePending (s : Book) (reader order : ℕ) : Book :=
  match s.copies reader order with
  | none => s
  | some po => if po.due s.now then attempt s { order, seen := po, price := 0 } else s

def step (s : Book) : Act → Book
  | .place po => { s with orders := s.orders.insert { po with status := .pending } }
  | .update order r => dbUpdatePendingOrder s order r
  | .cancel order => dbCancelPendingOrder s order
  | .refresh reader order =>
    { s with copies := fun j i => if j = reader ∧ i = order then s.orders.get order else s.copies j i }
  | .evaluate reader order bid ask => checkPendingTriggers s reader order bid ask
  | .expire reader order => expirePending s reader order
  | .trigger a m =>
    match s.attempts.get a with
    | none => s
    | some a => commit s ((triggerPendingOrderCore s a.order a.price m).map Prod.fst)
  | .openPosition o =>
    { s with desk := commit (deskOf s) ((Executions.dbOpenPositionAtomic (deskOf s) o).map Prod.fst) }
  | .close c => { s with desk := commit (deskOf s) ((closeByCopy (deskOf s) c).map Prod.fst) }
  | .forceClose f => { s with desk := commit (deskOf s) (Executions.forceClose (deskOf s) f) }
  | .advance seconds => { s with now := s.now + seconds }

end Machine

section Results

variable {s s' : Desk} {t : Trigger} {r : TriggerResult}

lemma notPending_floor {u : Floor} {po : Writers.PendingOrder} (hpo : u.orders.get t.order = some po)
    (h : po.status ≠ .pending) : Writers.triggerPendingOrderCore u t = .ok (u, .notPending) := by
  rw [Writers.triggerPendingOrderCore, hpo]
  exact if_pos h

lemma triggered_floor {u u' : Floor} {id : ℕ} {merged : Bool}
    (h : Writers.triggerPendingOrderCore u t = .ok (u', .triggered id merged)) :
    ∃ po, u.orders.get t.order = some po ∧ po.status = .pending ∧ t.due = false := by
  obtain ⟨hidle, -⟩ | ⟨hexpired, -⟩ | ⟨code, hrejected, -⟩ | ⟨po, a, id, merged, -, hopens⟩ :=
    Reconciliation.trigger_ok h
  · cases hidle
  · cases hexpired
  · cases hrejected
  · exact ⟨po, hopens.row, hopens.pending, hopens.early⟩

lemma core_events (h : Executions.triggerPendingOrderCore s t = .ok (s', r)) :
    (triggered r = false ∧ s'.events = s.events) ∨ ∃ po id merged e, r = .triggered id merged ∧
      s.orders.get t.order = some po ∧ po.status = .pending ∧ t.due = false ∧ s'.events = s.events.insert e ∧
      e.sourceOrder = some t.order ∧ e.qty = po.qty ∧ store 18 6 t.executionPrice = some e.executionPrice := by
  simp only [Executions.triggerPendingOrderCore, bind_eq_ok, Prod.exists] at h
  obtain ⟨floor, result, hfloor, h⟩ := h
  have hidle : ∀ {q : TriggerResult}, triggered q = false →
      (pure ({ s with toFloor := floor }, q) : Except TradeError _) = .ok (s', r) →
      triggered r = false ∧ s'.events = s.events := by
    intro q hq heq
    rw [pure_eq_ok, Prod.mk.injEq] at heq
    obtain ⟨rfl, rfl⟩ := heq
    exact ⟨hq, rfl⟩
  cases result with
  | notPending => exact Or.inl (hidle rfl h)
  | expired => exact Or.inl (hidle rfl h)
  | rejected code => exact Or.inl (hidle rfl h)
  | triggered id merged =>
    obtain ⟨po, hpo, hpending, hdue⟩ := triggered_floor hfloor
    have hrow : s.orders.get t.order = some po := hpo
    rw [hrow] at h
    simp only [recordExecution, bind_eq_ok, pure_eq_ok, Prod.mk.injEq] at h
    obtain ⟨s1, ⟨qty, hqty, price, hprice, rfl⟩, rfl, rfl⟩ := h
    have hstored : store 18 6 po.qty.value = some qty := Reconciliation.column_ok hqty
    rw [store_value, Option.some.injEq] at hstored
    exact Or.inr ⟨po, id, merged, _, rfl, hrow, hpending, hdue, rfl, rfl, hstored.symm,
      Reconciliation.column_ok hprice⟩

lemma notPending_core {po : Writers.PendingOrder} (hpo : s.orders.get t.order = some po)
    (hstatus : po.status ≠ .pending) :
    Executions.triggerPendingOrderCore s t = .ok (s, .notPending) := by
  have hfloor : Writers.triggerPendingOrderCore s.toFloor { t with refusedByLimits := refused s t } =
      .ok (s.toFloor, .notPending) := notPending_floor hpo hstatus
  rw [Executions.triggerPendingOrderCore, hfloor]
  rfl

end Results

def PendingOrder.isTriggered (po : PendingOrder) : Bool :=
  match po.status with
  | .triggered _ => true
  | _ => false

def isTriggered (t : Table PendingOrder) (k : ℕ) : Bool := (t.get k).any PendingOrder.isTriggered

def executionsOf (t : Table LotExecutionEvent) (k : ℕ) : ℕ := t.total fun _ e => if e.sourceOrder = some k then 1 else 0

def Same (po seen : PendingOrder) : Prop :=
  po.orderType = seen.orderType ∧ po.side = seen.side ∧ po.expiresAt = seen.expiresAt

def Known (s : Book) (k : ℕ) (seen : PendingOrder) : Prop := ∃ po, s.orders.get k = some po ∧ Same po seen

def Evaluated (now : ℕ) (a : Attempt) : Prop :=
  pendingTriggerConditionMet a.seen.orderType a.seen.side a.seen.triggerPrice.value a.price a.price = true ∨
    a.seen.due now = true

/-- The order was pending and had not expired, and the market condition held for the trigger price of its row. -/
structure Rightly (x : Execution) : Prop where
  pending : x.row.status = .pending
  live : x.row.due x.time = false
  condition : pendingTriggerConditionMet x.row.orderType x.row.side x.row.triggerPrice.value x.price x.price = true

/-- The trigger price that the panel or the scan evaluated is still the stored one where it comes to execute. -/
def AsEvaluated (s : Book) : Act → Prop
  | .trigger a _ => ∀ x ∈ s.attempts.get a, ∀ po ∈ s.orders.get x.order, po.status = .pending →
      po.due s.now = false → po.triggerPrice = x.seen.triggerPrice
  | _ => True

instance (s : Book) (a : Act) : Decidable (AsEvaluated s a) := by
  cases a <;> unfold AsEvaluated <;> infer_instance

inductive Core (s : Book) (order : ℕ) (price : ℚ) : Book → Prop
  | idle {desk : Desk} (f : PendingOrder → PendingOrder) (hevents : desk.events = s.desk.events)
      (hf : ∀ po, s.orders.get order = some po → Same (f po) po ∧ (po.status ≠ .pending → (f po).status = po.status) ∧
        (f po).isTriggered = po.isTriggered) : Core s order price { s with desk, orders := s.orders.update order f }
  | executed {desk : Desk} {po : PendingOrder} {e : LotExecutionEvent} {position : ℕ}
      (hpo : s.orders.get order = some po) (hpending : po.status = .pending) (hdue : po.due s.now = false)
      (hevents : desk.events = s.desk.events.insert e) (hsource : e.sourceOrder = some order) (hqty : e.qty = po.qty)
      (hprice : store 18 6 price = some e.executionPrice) :
      Core s order price
        { s with desk, orders := s.orders.update order fun po => { po with status := .triggered position },
                 executions := s.executions.insert { order, row := po, price, time := s.now } }

section Steps

variable {s s' : Book} {order k : ℕ} {price : ℚ} {m : Moment} {t t' : Table PendingOrder} {a : Act}

lemma onFloor_pending {status : OrderStatus} : status.onFloor = .pending ↔ status = .pending := by
  cases status <;> simp [OrderStatus.onFloor]

lemma core_of_ok {r : TriggerResult} (h : triggerPendingOrderCore s order price m = .ok (s', r)) :
    Core s order price s' := by
  rw [triggerPendingOrderCore] at h
  split at h
  · next hnone =>
    rw [Except.ok.injEq, Prod.mk.injEq] at h
    obtain ⟨rfl, -⟩ := h
    have hidle : Core s order price { s with desk := s.desk, orders := s.orders.update order fun po => po } :=
      .idle _ rfl fun po hpo => ⟨⟨rfl, rfl, rfl⟩, fun _ => rfl, rfl⟩
    rwa [Table.update_id] at hidle
  · next po hpo =>
    have hfloor : (deskOf s).orders.get order = some po.onFloor := by
      have hmap : (deskOf s).orders.get order = (s.orders.get order).map PendingOrder.onFloor := rfl
      rw [hmap, hpo, Option.map_some]
    by_cases hpending : po.status = .pending
    · simp only [bind_eq_ok, pure_eq_ok, Prod.exists, Prod.mk.injEq] at h
      obtain ⟨desk, result, hcore, rfl, rfl⟩ := h
      rcases core_events hcore with
        ⟨hidle, hevents⟩ | ⟨po', id, merged, e, rfl, hpo', -, hdue, hevents, hsource, hqty, hprice⟩
      · rw [hidle]
        refine .idle _ hevents fun po' hpo' => ?_
        rw [hpo, Option.some.injEq] at hpo'
        subst hpo'
        refine ⟨⟨rfl, rfl, rfl⟩, fun hother => absurd hpending hother, ?_⟩
        cases result <;> simp_all [PendingOrder.isTriggered, statusAfter, triggered]
      · have hrow : po.onFloor = po' := Option.some.inj (hfloor.symm.trans hpo')
        exact .executed hpo hpending hdue hevents hsource (by rw [hqty, ← hrow]; rfl) hprice
    · rw [notPending_core hfloor (fun hfloored => hpending (onFloor_pending.mp hfloored))] at h
      rw [bind_eq_ok] at h
      obtain ⟨⟨desk, result⟩, heq, h⟩ := h
      rw [Except.ok.injEq, Prod.mk.injEq] at heq
      obtain ⟨rfl, rfl⟩ := heq
      rw [pure_eq_ok, Prod.mk.injEq] at h
      obtain ⟨rfl, -⟩ := h
      exact .idle _ rfl fun po _ => ⟨⟨rfl, rfl, rfl⟩, fun _ => rfl, rfl⟩

def Grows (t t' : Table PendingOrder) : Prop :=
  ∀ i po, t.get i = some po → ∃ po', t'.get i = some po' ∧ Same po' po ∧ (po.status ≠ .pending → po'.status = po.status)

lemma grows_refl (t : Table PendingOrder) : Grows t t :=
  fun _ po hpo => ⟨po, hpo, ⟨rfl, rfl, rfl⟩, fun _ => rfl⟩

lemma grows_insert (t : Table PendingOrder) (po : PendingOrder) : Grows t (t.insert po) :=
  fun _ old hold => ⟨old, Table.get_insert_of_get hold po, ⟨rfl, rfl, rfl⟩, fun _ => rfl⟩

lemma grows_update {f : PendingOrder → PendingOrder}
    (hf : ∀ po, t.get k = some po → Same (f po) po ∧ (po.status ≠ .pending → (f po).status = po.status)) :
    Grows t (t.update k f) := by
  intro i po hpo
  by_cases hi : i = k
  · subst hi
    obtain ⟨hsame, hstatus⟩ := hf po hpo
    exact ⟨f po, Table.get_update_self hpo f, hsame, hstatus⟩
  · exact ⟨po, (Table.get_update_ne t hi f).trans hpo, ⟨rfl, rfl, rfl⟩, fun _ => rfl⟩

lemma grows_core (h : Core s order price s') : Grows s.orders s'.orders := by
  cases h with
  | idle f hevents hf => exact grows_update fun po hpo => ⟨(hf po hpo).1, (hf po hpo).2.1⟩
  | @executed _ po _ _ hpo hpending _ _ _ _ _ =>
    refine grows_update fun po' hpo' => ⟨⟨rfl, rfl, rfl⟩, fun hother => ?_⟩
    rw [hpo, Option.some.injEq] at hpo'
    exact absurd (hpo' ▸ hpending) hother

lemma reviseOrder_same {po po' : PendingOrder} {r : Revision} (h : reviseOrder po r = .ok po') :
    Same po' po ∧ po'.status = po.status := by
  simp only [reviseOrder, bind_eq_ok, pure_eq_ok] at h
  obtain ⟨triggerPrice, -, qty, -, sl, -, tp, -, rfl⟩ := h
  exact ⟨⟨rfl, rfl, rfl⟩, rfl⟩

structure Rewrites (s s' : Book) : Prop where
  desk : s'.desk.events = s.desk.events
  orders : Grows s.orders s'.orders
  triggered : ∀ k, isTriggered s'.orders k = isTriggered s.orders k
  copies : s'.copies = s.copies
  attempts : s'.attempts = s.attempts
  executions : s'.executions = s.executions
  now : s.now ≤ s'.now

lemma rewrites_refl (s : Book) : Rewrites s s := ⟨rfl, grows_refl _, fun _ => rfl, rfl, rfl, rfl, le_rfl⟩

lemma isTriggered_update {f : PendingOrder → PendingOrder}
    (hf : ∀ po, t.get k = some po → (f po).isTriggered = po.isTriggered) (i : ℕ) :
    isTriggered (t.update k f) i = isTriggered t i := by
  rw [isTriggered, isTriggered, Table.get_update]
  by_cases hi : i = k
  · rw [if_pos hi, hi]
    cases hpo : t.get k with
    | none => rfl
    | some po => exact hf po hpo
  · rw [if_neg hi]

lemma isTriggered_insert {po : PendingOrder} (h : po.isTriggered = false) (i : ℕ) :
    isTriggered (t.insert po) i = isTriggered t i := by
  rw [isTriggered, isTriggered, Table.get_insert]
  by_cases hi : i = t.next
  · rw [if_pos hi, hi, Table.get_next]
    exact h
  · rw [if_neg hi]

lemma pending_not_triggered {po : PendingOrder} (h : po.status = .pending) : po.isTriggered = false := by
  rw [PendingOrder.isTriggered, h]

lemma rewrites_update {f : PendingOrder → PendingOrder} {po : PendingOrder} (hpo : s.orders.get k = some po)
    (hpending : po.status = .pending) (hsame : Same (f po) po) (hf : (f po).isTriggered = false) :
    Rewrites s { s with orders := s.orders.update k f } := by
  have hat : ∀ po', s.orders.get k = some po' → po' = po := fun po' hpo' => Option.some.inj (hpo'.symm.trans hpo)
  refine ⟨rfl, grows_update fun po' hpo' => ?_, isTriggered_update fun po' hpo' => ?_, rfl, rfl, rfl, le_rfl⟩
  · rw [hat po' hpo']
    exact ⟨hsame, fun hother => absurd hpending hother⟩
  · rw [hat po' hpo', hf, pending_not_triggered hpending]

lemma rewrites_cancel : Rewrites s (dbCancelPendingOrder s k) := by
  rw [dbCancelPendingOrder]
  split
  · exact rewrites_refl s
  · next po hpo =>
    split
    · exact rewrites_refl s
    · next hpending => exact rewrites_update hpo (not_not.mp hpending) ⟨rfl, rfl, rfl⟩ rfl

lemma rewrites_revise {r : Revision} : Rewrites s (dbUpdatePendingOrder s k r) := by
  rw [dbUpdatePendingOrder]
  split
  · exact rewrites_refl s
  · next po hpo =>
    split
    · exact rewrites_refl s
    · next hpending =>
      refine commit_rule s _ (rewrites_refl s) fun s' hs' => ?_
      obtain ⟨po', hrevise, rfl⟩ := map_eq_ok.mp hs'
      obtain ⟨hsame, hstatus⟩ := reviseOrder_same hrevise
      have hstill : po'.status = .pending := hstatus.trans (not_not.mp hpending)
      exact rewrites_update hpo (not_not.mp hpending) hsame (pending_not_triggered hstill)

end Steps

structure Consistent (s : Book) : Prop where
  counts : ∀ k, executionsOf s.desk.events k = if isTriggered s.orders k then 1 else 0
  logged : ∀ j e k, s.desk.events.get j = some e → e.sourceOrder = some k → ∃ i x, s.executions.get i = some x ∧
    x.order = k ∧ e.qty = x.row.qty ∧ store 18 6 x.price = some e.executionPrice
  copies : ∀ reader k seen, s.copies reader k = some seen → Known s k seen
  attempts : ∀ i a, s.attempts.get i = some a → Known s a.order a.seen ∧ Evaluated s.now a
  executions : ∀ i x, s.executions.get i = some x → Rightly x

structure Opening (s : Book) : Prop where
  events : s.desk.events = Table.empty
  orders : s.orders = Table.empty
  copies : ∀ reader k, s.copies reader k = none
  attempts : s.attempts = Table.empty
  executions : s.executions = Table.empty

section Invariant

variable {s s' : Book} {order k : ℕ} {price : ℚ} {seen : PendingOrder} {a : Act}

lemma same_trans {po po' : PendingOrder} (h : Same po' po) (h' : Same po seen) : Same po' seen :=
  ⟨h.1.trans h'.1, h.2.1.trans h'.2.1, h.2.2.trans h'.2.2⟩

lemma known_grows (hgrows : Grows s.orders s'.orders) (h : Known s k seen) : Known s' k seen := by
  obtain ⟨po, hpo, hsame⟩ := h
  obtain ⟨po', hpo', hsame', -⟩ := hgrows k po hpo
  exact ⟨po', hpo', same_trans hsame' hsame⟩

lemma due_mono {po : PendingOrder} {now now' : ℕ} (hle : now ≤ now') (h : po.due now = true) : po.due now' = true := by
  rw [PendingOrder.due, Option.any_eq_true] at h ⊢
  obtain ⟨e, he, hdue⟩ := h
  exact ⟨e, he, decide_eq_true ((of_decide_eq_true hdue).trans hle)⟩

lemma evaluated_mono {x : Attempt} {now now' : ℕ} (hle : now ≤ now') (h : Evaluated now x) : Evaluated now' x :=
  h.imp id (due_mono hle)

lemma consistent_rewrites (h : Consistent s) (hr : Rewrites s s') : Consistent s' := by
  refine ⟨fun k => ?_, fun j e k hj hsource => ?_, fun reader k seen hseen => ?_, fun i x hx => ?_, fun i x hx => ?_⟩
  · rw [hr.desk, h.counts, hr.triggered]
  · rw [hr.desk] at hj
    rw [hr.executions]
    exact h.logged j e k hj hsource
  · rw [hr.copies] at hseen
    exact known_grows hr.orders (h.copies reader k seen hseen)
  · rw [hr.attempts] at hx
    obtain ⟨hknown, hevaluated⟩ := h.attempts i x hx
    exact ⟨known_grows hr.orders hknown, evaluated_mono hr.now hevaluated⟩
  · rw [hr.executions] at hx
    exact h.executions i x hx

lemma consistent_attempt (h : Consistent s) {x : Attempt} (hknown : Known s x.order x.seen)
    (hevaluated : Evaluated s.now x) : Consistent (attempt s x) := by
  refine ⟨h.counts, h.logged, h.copies, fun i y hy => ?_, h.executions⟩
  obtain hold | ⟨-, rfl⟩ := Table.get_insert_some hy
  · exact h.attempts i y hold
  · exact ⟨hknown, hevaluated⟩

lemma condition_at_execution (orderType : OrderType) (side : Side) (triggerPrice bid ask : ℚ) :
    pendingTriggerConditionMet orderType side triggerPrice (executionPrice side bid ask) (executionPrice side bid ask) =
      pendingTriggerConditionMet orderType side triggerPrice bid ask := by
  cases orderType <;> cases side <;> rfl

lemma executionsOf_insert (t : Table LotExecutionEvent) (e : LotExecutionEvent) (k : ℕ) :
    executionsOf (t.insert e) k = executionsOf t k + if e.sourceOrder = some k then 1 else 0 :=
  Table.total_insert t e _

/-- The order that executes was known and evaluated, and had not expired: the market condition was what was
evaluated, and its trigger price is still the stored one. -/
lemma rightly_executed {x : Attempt} {po : PendingOrder} (hknown : Known s x.order x.seen)
    (hevaluated : Evaluated s.now x) (hpo : s.orders.get x.order = some po) (hpending : po.status = .pending)
    (hdue : po.due s.now = false) (hprice : po.triggerPrice = x.seen.triggerPrice) :
    Rightly { order := x.order, row := po, price := x.price, time := s.now } := by
  obtain ⟨po', hpo', htype, hside, hexpires⟩ := hknown
  rw [hpo, Option.some.injEq] at hpo'
  subst hpo'
  refine ⟨hpending, hdue, ?_⟩
  rcases hevaluated with hmet | hseenDue
  · rw [htype, hside, hprice]
    exact hmet
  · rw [PendingOrder.due, hexpires] at hdue
    rw [PendingOrder.due, hdue] at hseenDue
    cases hseenDue

lemma consistent_core (h : Consistent s) (hcore : Core s order price s')
    (hright : ∀ po, s.orders.get order = some po → po.status = .pending → po.due s.now = false →
      Rightly { order, row := po, price, time := s.now }) : Consistent s' := by
  have hgrows := grows_core hcore
  cases hcore with
  | @idle desk f hevents hf =>
    exact consistent_rewrites h ⟨hevents, hgrows, isTriggered_update fun po hpo => (hf po hpo).2.2, rfl, rfl, rfl, le_rfl⟩
  | @executed desk po e position hpo hpending hdue hevents hsource hqty hprice =>
    refine ⟨fun k => ?_, fun j e' k hj hsource' => ?_, fun reader k seen hseen => ?_, fun i x hx => ?_, fun i x hx => ?_⟩
    · rw [hevents, executionsOf_insert, hsource, h.counts]
      by_cases hk : order = k
      · subst hk
        have hbefore : isTriggered s.orders order = false := by
          rw [isTriggered, hpo]
          exact pending_not_triggered hpending
        have hafter : isTriggered (s.orders.update order fun po => { po with status := .triggered position }) order =
            true := by
          rw [isTriggered, Table.get_update_self hpo]
          rfl
        rw [hbefore, hafter]
        simp
      · have hother : isTriggered (s.orders.update order fun po => { po with status := .triggered position }) k =
            isTriggered s.orders k := by
          rw [isTriggered, isTriggered, Table.get_update_ne _ (Ne.symm hk)]
        rw [hother, if_neg (show ¬ some order = some k by simpa using hk), add_zero]
    · rw [hevents] at hj
      obtain hold | ⟨-, rfl⟩ := Table.get_insert_some hj
      · obtain ⟨i, x, hx, hrest⟩ := h.logged j e' k hold hsource'
        exact ⟨i, x, Table.get_insert_of_get hx _, hrest⟩
      · rw [hsource, Option.some.injEq] at hsource'
        exact ⟨_, _, Table.get_insert_next _ _, hsource', hqty, hprice⟩
    · exact known_grows hgrows (h.copies reader k seen hseen)
    · obtain ⟨hknown, hevaluated⟩ := h.attempts i x hx
      exact ⟨known_grows hgrows hknown, hevaluated⟩
    · obtain hold | ⟨-, rfl⟩ := Table.get_insert_some hx
      · exact h.executions i x hold
      · exact hright po hpo hpending hdue

lemma consistent_desk (h : Consistent s) {desk : Desk} (hevents : desk.events = s.desk.events ∨
    ∃ e : LotExecutionEvent, desk.events = s.desk.events.insert e ∧ e.sourceOrder = none) :
    Consistent { s with desk } := by
  rcases hevents with hsame | ⟨e, hinsert, hsource⟩
  · exact consistent_rewrites h ⟨hsame, grows_refl _, fun _ => rfl, rfl, rfl, rfl, le_rfl⟩
  · refine ⟨fun k => ?_, fun j e' k hj hsource' => ?_, h.copies, h.attempts, h.executions⟩
    · rw [hinsert, executionsOf_insert, hsource]
      simpa using h.counts k
    · rw [hinsert] at hj
      obtain hold | ⟨-, rfl⟩ := Table.get_insert_some hj
      · exact h.logged j e' k hold hsource'
      · rw [hsource] at hsource'
        cases hsource'

lemma open_events {u u' : Desk} {o : Open} {r : OpenResult} (h : Executions.dbOpenPositionAtomic u o = .ok (u', r)) :
    u'.events = u.events ∨ ∃ e : LotExecutionEvent, u'.events = u.events.insert e ∧ e.sourceOrder = none := by
  simp only [Executions.dbOpenPositionAtomic, bind_eq_ok, Prod.exists] at h
  obtain ⟨floor, result, -, h⟩ := h
  cases result with
  | rejected =>
    rw [pure_eq_ok, Prod.mk.injEq] at h
    exact Or.inl (by rw [← h.1])
  | opened position merged =>
    simp only [recordExecution, bind_eq_ok, pure_eq_ok, Prod.mk.injEq] at h
    obtain ⟨u1, ⟨qty, -, price, -, rfl⟩, rfl, -⟩ := h
    exact Or.inr ⟨_, rfl, rfl⟩

lemma close_events {u u' : Desk} {c : CloseRequest} {r : CloseResult} (h : closeByCopy u c = .ok (u', r)) :
    u'.events = u.events := by
  rw [closeByCopy] at h
  split at h
  · rw [Except.ok.injEq, Prod.mk.injEq] at h
    rw [← h.1]
  · rcases closePosition_closed h with ⟨-, rfl⟩ | ⟨p, pnl, floor, -, -, -, -, -, -, hrecord, -⟩
    · rfl
    · obtain ⟨t, ht⟩ := recordTrade_settles hrecord
      exact ht.events

lemma force_events {u u' : Desk} {f : ForceRequest} (h : Executions.forceClose u f = .ok u') :
    u'.events = u.events := by
  simp only [Executions.forceClose, bind_eq_ok] at h
  obtain ⟨floor, -, hsettles⟩ := h
  exact (settles_frame hsettles).2.1

lemma consistent_step (h : Consistent s) (ha : AsEvaluated s a) : Consistent (step s a) := by
  cases a with
  | place po =>
    exact consistent_rewrites h ⟨rfl, grows_insert _ _, isTriggered_insert rfl, rfl, rfl, rfl, le_rfl⟩
  | update order r => exact consistent_rewrites h rewrites_revise
  | cancel order => exact consistent_rewrites h rewrites_cancel
  | refresh reader order =>
    refine ⟨h.counts, h.logged, fun j i seen hseen => ?_, h.attempts, h.executions⟩
    rw [step] at hseen
    dsimp only at hseen
    split at hseen
    · next hi => exact ⟨seen, hi.2 ▸ hseen, rfl, rfl, rfl⟩
    · exact h.copies j i seen hseen
  | evaluate reader order bid ask =>
    rw [step, checkPendingTriggers]
    split
    · exact h
    · next seen hseen =>
      split
      · next hmet =>
        refine consistent_attempt h (h.copies reader order seen hseen) (Or.inl ?_)
        rw [condition_at_execution]
        exact hmet
      · exact h
  | expire reader order =>
    rw [step, expirePending]
    split
    · exact h
    · next seen hseen =>
      split
      · next hdue => exact consistent_attempt h (h.copies reader order seen hseen) (Or.inr hdue)
      · exact h
  | trigger i m =>
    rw [step]
    split
    · exact h
    · next x hx =>
      refine commit_rule s _ h fun s' hs' => ?_
      obtain ⟨⟨s1, r⟩, hcore, rfl⟩ := map_eq_ok.mp hs'
      obtain ⟨hknown, hevaluated⟩ := h.attempts i x hx
      exact consistent_core h (core_of_ok hcore) fun po hpo hpending hdue =>
        rightly_executed hknown hevaluated hpo hpending hdue (ha x hx po hpo hpending hdue)
  | openPosition o =>
    refine consistent_desk h ?_
    refine commit_rule (deskOf s) _ (Or.inl rfl) fun desk hdesk => ?_
    obtain ⟨⟨u, r⟩, hopen, rfl⟩ := map_eq_ok.mp hdesk
    exact open_events (u := deskOf s) hopen
  | close c =>
    refine consistent_desk h (Or.inl ?_)
    refine commit_rule (deskOf s) _ rfl fun desk hdesk => ?_
    obtain ⟨⟨u, r⟩, hclose, rfl⟩ := map_eq_ok.mp hdesk
    exact close_events (u := deskOf s) hclose
  | forceClose f => exact consistent_desk h (Or.inl (commit_rule (deskOf s) _ rfl fun desk => force_events))
  | advance seconds =>
    exact consistent_rewrites h ⟨rfl, grows_refl _, fun _ => rfl, rfl, rfl, rfl, Nat.le_add_right _ _⟩

lemma consistent_opening (h : Opening s) : Consistent s := by
  refine ⟨fun k => ?_, ?_, fun reader k seen hseen => ?_, ?_, ?_⟩
  · rw [h.events, h.orders]
    rfl
  · rw [h.events]
    exact fun j e k hj => nomatch hj
  · rw [h.copies] at hseen
    cases hseen
  · rw [h.attempts]
    exact fun i x hx => nomatch hx
  · rw [h.executions]
    exact fun i x hx => nomatch hx

end Invariant

section Runs

variable {s : Book} {k : ℕ} {po : PendingOrder}

lemma step_grows (s : Book) (a : Act) : Grows s.orders (step s a).orders := by
  cases a with
  | place po => exact grows_insert _ _
  | update order r => exact rewrites_revise.orders
  | cancel order => exact rewrites_cancel.orders
  | evaluate reader order bid ask =>
    rw [step, checkPendingTriggers]
    split
    · exact grows_refl _
    · split <;> exact grows_refl _
  | expire reader order =>
    rw [step, expirePending]
    split
    · exact grows_refl _
    · split <;> exact grows_refl _
  | trigger i m =>
    rw [step]
    split
    · exact grows_refl _
    · refine commit_rule s _ (grows_refl _) fun s' hs' => ?_
      obtain ⟨⟨s1, r⟩, hcore, rfl⟩ := map_eq_ok.mp hs'
      exact grows_core (core_of_ok hcore)
  | _ => exact grows_refl _

lemma terminal_run (hpo : s.orders.get k = some po) (hterminal : po.status ≠ .pending) (acts : List Act) :
    ∃ po', (run step s acts).orders.get k = some po' ∧ po'.status = po.status := by
  refine run_invariant (I := fun u : Book => ∃ po', u.orders.get k = some po' ∧ po'.status = po.status) (fun u a hu => ?_)
    ⟨po, hpo, rfl⟩ acts
  obtain ⟨po', hpo', hstatus⟩ := hu
  obtain ⟨po'', hpo'', -, hkept⟩ := step_grows u a k po' hpo'
  exact ⟨po'', hpo'', (hkept (by rwa [hstatus])).trans hstatus⟩

end Runs

/-- An order executes once if it is triggered and otherwise never; it executes only while it is pending, before it
expires and, as long as no trigger price is revised between evaluation and execution, where its market condition
holds; it executes with the quantity of its row; and its terminal status stays. -/
theorem orders_execute_once (s : Book) (h : Opening s) (acts : List Act) (hg : Guarded step AsEvaluated s acts) :
    (∀ k, executionsOf (run step s acts).desk.events k = if isTriggered (run step s acts).orders k then 1 else 0) ∧
      (∀ i x, (run step s acts).executions.get i = some x → Rightly x) ∧
      (∀ j e k, (run step s acts).desk.events.get j = some e → e.sourceOrder = some k →
        ∃ i x, (run step s acts).executions.get i = some x ∧ x.order = k ∧ e.qty = x.row.qty ∧
          store 18 6 x.price = some e.executionPrice) ∧
      ∀ k po, (run step s acts).orders.get k = some po → po.status ≠ .pending → ∀ later,
        ∃ po', (run step (run step s acts) later).orders.get k = some po' ∧ po'.status = po.status := by
  have hend := guarded_invariant (fun _ _ => consistent_step) (consistent_opening h) hg
  exact ⟨hend.counts, hend.executions, hend.logged, fun _ _ hpo hterminal later => terminal_run hpo hterminal later⟩

def openingDesk : Desk where
  accounts := Table.ofList
    [{ user := none, accountType := .retail, balance := .ofUnits 1000000, equity := .ofUnits 1000000,
       peakBalance := .ofUnits 1000000, initialBalance := none }]
  entries := Table.empty
  positions := Table.empty
  orders := Table.empty
  events := Table.empty
  trades := Table.empty
  counterparties := Table.empty
  copies := Table.empty

def openingBook : Book where
  desk := openingDesk
  orders := Table.empty
  copies _ _ := none
  attempts := Table.empty
  executions := Table.empty
  now := 0

def buyLimit (expiresAt : Option ℕ) : PendingOrder where
  account := 0
  symbol := "EUR/USD"
  side := .buy
  orderType := .limit
  qty := .ofUnits 1000000
  triggerPrice := .ofUnits 1100000
  sl := none
  tp := none
  expiresAt := expiresAt
  status := .pending

def quiet : Moment := ⟨false, none, none, true, 0⟩

def twoTriggers : List Act :=
  [.place (buyLimit (some 60)), .update 0 ⟨none, some 2, none, none⟩, .refresh 0 0, .refresh 1 0,
    .evaluate 0 0 (1099 / 1000) (1098 / 1000), .evaluate 1 0 (1097 / 1000) (1096 / 1000), .advance 10, .trigger 1 quiet,
    .trigger 0 quiet, .cancel 0, .place (buyLimit (some 5)), .refresh 2 1, .expire 2 1, .trigger 2 quiet]

theorem orders_execute_once_example :
    executionsOf (run step openingBook twoTriggers).desk.events 0 = 1 ∧
      executionsOf (run step openingBook twoTriggers).desk.events 1 = 0 := by
  have hrun := (orders_execute_once openingBook ⟨rfl, rfl, fun _ _ => rfl, rfl, rfl⟩ twoTriggers (by decide +kernel)).1
  rw [hrun, hrun]
  decide +kernel

/-- The trigger price of a limit to buy is lowered to 1.00 between the tick that reached it and the execution, at
1.098. -/
theorem revised_order_executes :
    ((run step openingBook
      [.place (buyLimit none), .refresh 0 0, .evaluate 0 0 (1097 / 1000) (1098 / 1000),
        .update 0 ⟨some 1, none, none, none⟩, .trigger 0 quiet]).executions.get 0).map
      (fun x => (x.row.triggerPrice.units, x.price,
        pendingTriggerConditionMet x.row.orderType x.row.side x.row.triggerPrice.value x.price x.price)) =
      some (1000000, 1098 / 1000, false) := by
  decide +kernel

end TrxSimulator.Trading.PendingOrders
