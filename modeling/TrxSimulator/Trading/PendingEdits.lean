import TrxSimulator.Exposure.Aggregation
import TrxSimulator.Market.FeedState
import TrxSimulator.Trading.PendingOrders

/-! Pending orders as their owner places and edits them. A new order is checked against its instrument, its levels
and the market; an edit writes what it is given. -/

namespace TrxSimulator.Trading.PendingEdits

open Foundations.Runs Foundations.Tables Foundations.Outcomes Foundations.Decimals
open Market.Symbols Market.Quotes Exposure.Aggregation
open Market.FeedState (FeedManager getValidatedQuote)
open Writers (Side)
open Levels (LevelError validateSlTp)
open PendingOrders (OrderType OrderStatus PendingOrder pendingTriggerConditionMet)

/-- A field of a message. A number is the decimal that the client has written; floats are taken as exact. -/
inductive Value
  | null
  | truth (b : Bool)
  | number (n : Number)
  | text (spelled : Option Number)
  | empty
  | other

/-- What `float` makes of a value; nothing where it raises. -/
def Value.float? : Value → Option Number
  | .truth b => some (.finite (if b then 1 else 0))
  | .number n => some n
  | .text spelled => spelled
  | .null | .empty | .other => none

def nonpositive : Number → Bool
  | .finite x => decide (x ≤ 0)
  | .infinite negative => negative
  | .nan => false

def Value.orZero : Value → Value
  | .null | .empty | .truth false => .number (.finite 0)
  | v => v

/-- What `Decimal` makes of the value's text, where it is a finite number. -/
def Value.decimal? : Value → Option ℚ
  | .number n => n.toRat?
  | .text spelled => spelled.bind Number.toRat?
  | .truth _ | .null | .empty | .other => none

structure Ticket where
  symbol : String
  side : String
  orderType : String
  qty : Value
  triggerPrice : Value
  sl : Value
  tp : Value
  expiresAt : Option ℕ

structure Edit where
  triggerPrice : Value
  qty : Value
  sl : Value
  tp : Value

inductive PendingError
  | invalidSymbol | invalidOrder | invalidTriggerPrice | demoNotSupported | marketClosed | closeOnly
  | lot (e : LotError)
  | priceUnavailable | triggerAlreadyMet
  | level (e : LevelError)
  | margin (code : String)
  | notFound | notPending
  | raised (field : String)

def PendingError.code : PendingError → String
  | .invalidSymbol => "invalid_symbol"
  | .invalidOrder => "invalid_order"
  | .invalidTriggerPrice => "invalid_trigger_price"
  | .demoNotSupported => "demo_not_supported"
  | .marketClosed => "market_closed"
  | .closeOnly => "close_only"
  | .lot .minQtyViolation => "min_qty_violation"
  | .lot .lotStepViolation => "lot_step_violation"
  | .priceUnavailable => "price_unavailable"
  | .triggerAlreadyMet => "trigger_already_met"
  | .level e => PendingOrders.LevelError.code e
  | .margin code => code
  | .notFound => "not_found"
  | .notPending => "not_pending"
  | .raised field => field

/-- An order, and the valid quote at the moment at which its trigger price was last set. -/
structure Entry where
  order : PendingOrder
  quoteWhenSet : Option (ℚ × ℚ)

structure Blotter where
  feed : FeedManager
  orderPolicy : String → OrderPolicy
  orders : Table Entry

section Checks

def sideOf (text : String) : Option Side :=
  if text.toLower = "buy" then some .buy else if text.toLower = "sell" then some .sell else none

def orderTypeOf (text : String) : Option PendingOrders.OrderType :=
  if text.toLower = "limit" then some .limit else if text.toLower = "stop" then some .stop else none

/-- The quote that may decide something: validated, and not the simulator's. -/
def validQuote (feed : FeedManager) (symbol : String) : Option (ℚ × ℚ) := do
  let quote ← getValidatedQuote feed symbol
  if quote.source = "sim" then none
  else do
    let bid ← quote.bid.toRat?
    let ask ← quote.ask.toRat?
    pure (bid, ask)

/-- A level that is not given is not checked; one that is not a positive number is refused. -/
def levelOf (v : Value) (e : LevelError) : Except PendingError (Option ℚ) :=
  match v with
  | .null => .ok none
  | v => (require ((v.float?.bind Number.toRat?).filter fun x => 0 < x) (.level e)).map some

/-- The size and the prices of an order beside its instrument and the market. -/
structure Terms where
  spec : SymbolSpec
  side : Side
  orderType : PendingOrders.OrderType
  qty : ℚ
  triggerPrice : ℚ
  sl : Option ℚ
  tp : Option ℚ

def checkSession (policy : OrderPolicy) : Except PendingError Unit :=
  match policy with
  | .marketClosed | .haltNewOrders => .error .marketClosed
  | .closeOnly => .error .closeOnly
  | .openNormal => .ok ()

/-- What a new order has to pass, in the source's order. -/
def checkTicket (s : Blotter) (account : Option ℕ) (ticket : Ticket) (refusedByMargin : Option String) :
    Except PendingError (ℕ × Terms) := do
  let qty ← require ticket.qty.orZero.float? (.raised "qty")
  let spec ← require ((getSpec ticket.symbol).filter SymbolSpec.enabled) .invalidSymbol
  let side ← require (sideOf ticket.side) .invalidOrder
  let orderType ← require (orderTypeOf ticket.orderType) .invalidOrder
  if nonpositive qty then .error .invalidOrder
  else do
    let triggerPrice ← require (ticket.triggerPrice.float?.bind Number.toRat?) .invalidTriggerPrice
    if triggerPrice ≤ 0 then .error .invalidTriggerPrice
    else do
      let account ← require account .demoNotSupported
      checkSession (s.orderPolicy ticket.symbol)
      let qty ← require qty.toRat? (.raised "qty")
      (checkLotSize qty spec).mapError .lot
      let (bid, ask) ← require (validQuote s.feed ticket.symbol) .priceUnavailable
      if pendingTriggerConditionMet orderType side triggerPrice bid ask then .error .triggerAlreadyMet
      else do
        let sl ← levelOf ticket.sl .invalidSlValue
        let tp ← levelOf ticket.tp .invalidTpValue
        (validateSlTp side sl tp triggerPrice).mapError .level
        match refusedByMargin with
        | some code => .error (.margin code)
        | none => pure (account, ⟨spec, side, orderType, qty, triggerPrice, sl, tp⟩)

/-- The numbers of an edit, where they are given. -/
structure Fields where
  triggerPrice : Option Number
  qty : Option Number
  sl : Option Number
  tp : Option Number

def fieldOf (v : Value) : Except PendingError (Option Number) :=
  match v with
  | .null => .ok none
  | v => (require v.float? .invalidOrder).map some

def checkEdit (edit : Edit) : Except PendingError Fields := do
  let triggerPrice ← fieldOf edit.triggerPrice
  let qty ← fieldOf edit.qty
  let sl ← fieldOf edit.sl
  let tp ← fieldOf edit.tp
  if triggerPrice.any fun n => n.toRat?.isNone || nonpositive n then .error .invalidTriggerPrice
  else if qty.any nonpositive then .error .invalidOrder
  else pure { triggerPrice, qty, sl, tp }

end Checks

section Writes

/-- A column takes finite numbers only. -/
def columnOf (field : String) (x : Option ℚ) : Except PendingError (Numeric 18 6) :=
  require (x.bind (store 18 6)) (.raised field)

def levelColumn (field : String) (v : Value) : Except PendingError (Option (Numeric 18 6)) :=
  match v with
  | .null => .ok none
  | v => (columnOf field v.decimal?).map some

def createPendingOrder (account : ℕ) (ticket : Ticket) (t : Terms) : Except PendingError PendingOrder := do
  let qty ← columnOf "qty" (some t.qty)
  let triggerPrice ← columnOf "trigger_price" (some t.triggerPrice)
  let sl ← levelColumn "sl" ticket.sl
  let tp ← levelColumn "tp" ticket.tp
  pure { account, symbol := ticket.symbol, side := t.side, orderType := t.orderType, qty, triggerPrice, sl, tp,
         expiresAt := ticket.expiresAt, status := .pending }

def orderPendingNew (s : Blotter) (account : Option ℕ) (ticket : Ticket) (refusedByMargin : Option String) :
    Except PendingError Blotter := do
  let (account, t) ← checkTicket s account ticket refusedByMargin
  let order ← createPendingOrder account ticket t
  pure { s with orders := s.orders.insert ⟨order, validQuote s.feed ticket.symbol⟩ }

def fieldColumn {α : Type} (field : String) (wrap : Numeric 18 6 → α) (old : α) (n : Option Number) :
    Except PendingError α :=
  match n with
  | none => .ok old
  | some n => (columnOf field n.toRat?).map wrap

/-- What an edit makes of an order: the fields that it does not give stay. -/
def editedOrder (order : PendingOrder) (f : Fields) : Except PendingError PendingOrder := do
  let triggerPrice ← fieldColumn "trigger_price" id order.triggerPrice f.triggerPrice
  let qty ← fieldColumn "qty" id order.qty f.qty
  let sl ← fieldColumn "sl" some order.sl f.sl
  let tp ← fieldColumn "tp" some order.tp f.tp
  pure { order with triggerPrice, qty, sl, tp }

def ownPending (s : Blotter) (account : Option ℕ) (pk : ℕ) : Except PendingError Entry := do
  let entry ← require ((s.orders.get pk).filter fun e => some e.order.account = account) .notFound
  if entry.order.status ≠ .pending then .error .notPending else pure entry

def orderPendingUpdate (s : Blotter) (account : Option ℕ) (pk : ℕ) (edit : Edit) : Except PendingError Blotter := do
  let f ← checkEdit edit
  let entry ← ownPending s account pk
  let order ← editedOrder entry.order f
  let quoteWhenSet := if f.triggerPrice.isSome then validQuote s.feed order.symbol else entry.quoteWhenSet
  pure { s with orders := s.orders.update pk fun _ => ⟨order, quoteWhenSet⟩ }

def withStatus (status : OrderStatus) (e : Entry) : Entry := { e with order := { e.order with status } }

def orderPendingCancel (s : Blotter) (account : Option ℕ) (pk : ℕ) : Except PendingError Blotter := do
  let _ ← ownPending s account pk
  pure { s with orders := s.orders.update pk (withStatus .cancelled) }

end Writes

inductive Act
  | feed (act : Market.FeedState.Act)
  | session (symbol : String) (policy : OrderPolicy)
  | new (account : Option ℕ) (ticket : Ticket) (refusedByMargin : Option String)
  | update (account : Option ℕ) (order : ℕ) (edit : Edit)
  | cancel (account : Option ℕ) (order : ℕ)
  | settle (order : ℕ) (status : OrderStatus)

/-- A trigger settles an order for good. -/
def step (s : Blotter) : Act → Blotter
  | .feed act => { s with feed := Market.FeedState.step s.feed act }
  | .session symbol policy => { s with orderPolicy := Function.update s.orderPolicy symbol policy }
  | .new account ticket refusedByMargin => commit s (orderPendingNew s account ticket refusedByMargin)
  | .update account order edit => commit s (orderPendingUpdate s account order edit)
  | .cancel account order => commit s (orderPendingCancel s account order)
  | .settle order status =>
    if status = .pending then s else { s with orders := s.orders.update order (withStatus status) }

def opened (feed : FeedManager) (orderPolicy : String → OrderPolicy) : Blotter := ⟨feed, orderPolicy, Table.empty⟩

section Invariant

def LotKept (order : PendingOrder) : Prop :=
  ∃ spec, getSpec order.symbol = some spec ∧ checkLotSize order.qty.value spec = .ok ()

def LevelsKept (order : PendingOrder) : Prop :=
  validateSlTp order.side (order.sl.map Numeric.value) (order.tp.map Numeric.value) order.triggerPrice.value = .ok ()

def NotMet (order : PendingOrder) (quote : Option (ℚ × ℚ)) : Prop := ∀ bid ask, quote = some (bid, ask) →
  pendingTriggerConditionMet order.orderType order.side order.triggerPrice.value bid ask = false

structure Well (e : Entry) : Prop where
  lot : LotKept e.order
  positive : 0 < e.order.triggerPrice.value
  levels : LevelsKept e.order
  notMet : NotMet e.order e.quoteWhenSet

def Kept (s : Blotter) : Prop := ∀ pk e, s.orders.get pk = some e → e.order.status = .pending → Well e

/-- What the checks say of a ticket they also say of it as the columns have rounded it. -/
structure Steady (t : Terms) (order : PendingOrder) (quote : Option (ℚ × ℚ)) : Prop where
  lot : checkLotSize order.qty.value t.spec = checkLotSize t.qty t.spec
  positive : 0 < order.triggerPrice.value ↔ 0 < t.triggerPrice
  levels : validateSlTp t.side (order.sl.map Numeric.value) (order.tp.map Numeric.value) order.triggerPrice.value =
    validateSlTp t.side t.sl t.tp t.triggerPrice
  met : ∀ bid ask, quote = some (bid, ask) →
    pendingTriggerConditionMet t.orderType t.side order.triggerPrice.value bid ask =
      pendingTriggerConditionMet t.orderType t.side t.triggerPrice bid ask

/-- Rounding changes nothing of what was checked of a new order, and an edit passes the checks of a new order in what
it gives. -/
def Checked (s : Blotter) : Act → Prop
  | .new account ticket refusedByMargin => ∀ owner t order,
    checkTicket s account ticket refusedByMargin = .ok (owner, t) → createPendingOrder owner ticket t = .ok order →
      Steady t order (validQuote s.feed ticket.symbol)
  | .update account pk edit => ∀ f entry order, checkEdit edit = .ok f → ownPending s account pk = .ok entry →
    editedOrder entry.order f = .ok order →
      (f.qty.isSome = true → LotKept order) ∧
      (f.triggerPrice.isSome = true → 0 < order.triggerPrice.value ∧ NotMet order (validQuote s.feed order.symbol)) ∧
      (f.triggerPrice.isSome = true ∨ f.sl.isSome = true ∨ f.tp.isSome = true → LevelsKept order)
  | _ => True

variable {s : Blotter} {account : Option ℕ} {owner pk : ℕ} {ticket : Ticket} {refusedByMargin : Option String}
  {t : Terms} {order order' : PendingOrder} {entry : Entry} {f : Fields}

/-- What an accepted ticket has passed. -/
structure Accepted (s : Blotter) (ticket : Ticket) (t : Terms) : Prop where
  spec : getSpec ticket.symbol = some t.spec
  lot : checkLotSize t.qty t.spec = .ok ()
  positive : 0 < t.triggerPrice
  levels : validateSlTp t.side t.sl t.tp t.triggerPrice = .ok ()
  notMet : ∀ bid ask, validQuote s.feed ticket.symbol = some (bid, ask) →
    pendingTriggerConditionMet t.orderType t.side t.triggerPrice bid ask = false

lemma checkTicket_accepted (h : checkTicket s account ticket refusedByMargin = .ok (owner, t)) :
    Accepted s ticket t := by
  simp only [checkTicket, bind_eq_ok, require_eq_ok, guard_eq_ok, mapError_eq_ok] at h
  obtain ⟨_, -, spec, hspec, side, -, orderType, -, -, trigger, -, hpositive, _, -, _, -, qty, -, _, hlot, ⟨bid, ask⟩,
    hquote, hmet, sl, -, tp, -, _, hlevels, h⟩ := h
  split at h
  · cases h
  · cases h
    refine ⟨(Option.filter_eq_some_iff.mp hspec).1, hlot, not_le.mp hpositive, hlevels, fun bid' ask' hquote' => ?_⟩
    obtain ⟨rfl, rfl⟩ := Prod.mk.inj (Option.some.inj (hquote.symm.trans hquote'))
    simpa using hmet

lemma createPendingOrder_ok (h : createPendingOrder owner ticket t = .ok order) :
    order.symbol = ticket.symbol ∧ order.side = t.side ∧ order.orderType = t.orderType ∧ order.status = .pending := by
  simp only [createPendingOrder, bind_eq_ok, pure_eq_ok] at h
  obtain ⟨_, -, _, -, _, -, _, -, rfl⟩ := h
  exact ⟨rfl, rfl, rfl, rfl⟩

lemma created_well_iff (haccepted : Accepted s ticket t) (h : createPendingOrder owner ticket t = .ok order) :
    Well ⟨order, validQuote s.feed ticket.symbol⟩ ↔ Steady t order (validQuote s.feed ticket.symbol) := by
  obtain ⟨hsymbol, hside, htype, -⟩ := createPendingOrder_ok h
  have hspec : getSpec order.symbol = some t.spec := by rw [hsymbol, haccepted.spec]
  constructor
  · rintro ⟨⟨spec, hspec', hlot⟩, hpositive, hlevels, hnotMet⟩
    obtain rfl := Option.some.inj (hspec.symm.trans hspec')
    refine ⟨hlot.trans haccepted.lot.symm, iff_of_true hpositive haccepted.positive, ?_, fun bid ask hquote => ?_⟩
    · rw [haccepted.levels, ← hside]
      exact hlevels
    · rw [haccepted.notMet bid ask hquote, ← htype, ← hside]
      exact hnotMet bid ask hquote
  · intro hsteady
    refine ⟨⟨t.spec, hspec, hsteady.lot.trans haccepted.lot⟩, hsteady.positive.mpr haccepted.positive, ?_, ?_⟩
    · rw [LevelsKept, hside, hsteady.levels, haccepted.levels]
    · intro bid ask hquote
      rw [htype, hside, hsteady.met bid ask hquote, haccepted.notMet bid ask hquote]

lemma fieldColumn_none {α : Type} {field : String} {wrap : Numeric 18 6 → α} {old new : α} {n : Option Number}
    (h : fieldColumn field wrap old n = .ok new) (hn : n.isSome = false) : new = old := by
  rw [Option.isSome_eq_false_iff, Option.isNone_iff_eq_none] at hn
  rw [hn, fieldColumn] at h
  exact (Except.ok.inj h).symm

structure Edited (order : PendingOrder) (f : Fields) (order' : PendingOrder) : Prop where
  symbol : order'.symbol = order.symbol
  side : order'.side = order.side
  orderType : order'.orderType = order.orderType
  status : order'.status = order.status
  triggerPrice : f.triggerPrice.isSome = false → order'.triggerPrice = order.triggerPrice
  qty : f.qty.isSome = false → order'.qty = order.qty
  sl : f.sl.isSome = false → order'.sl = order.sl
  tp : f.tp.isSome = false → order'.tp = order.tp

lemma editedOrder_edited (h : editedOrder order f = .ok order') : Edited order f order' := by
  simp only [editedOrder, bind_eq_ok, pure_eq_ok] at h
  obtain ⟨_, htrigger, _, hqty, _, hsl, _, htp, rfl⟩ := h
  exact ⟨rfl, rfl, rfl, rfl, fieldColumn_none htrigger, fieldColumn_none hqty, fieldColumn_none hsl, fieldColumn_none htp⟩

/-- An edit leaves an order well exactly if what it gives passes. -/
lemma edited_well_iff (hwell : Well entry) (h : Edited entry.order f order) :
    Well ⟨order, if f.triggerPrice.isSome then validQuote s.feed order.symbol else entry.quoteWhenSet⟩ ↔
      (f.qty.isSome = true → LotKept order) ∧
      (f.triggerPrice.isSome = true → 0 < order.triggerPrice.value ∧ NotMet order (validQuote s.feed order.symbol)) ∧
      (f.triggerPrice.isSome = true ∨ f.sl.isSome = true ∨ f.tp.isSome = true → LevelsKept order) := by
  constructor
  · rintro ⟨hlot, hpositive, hlevels, hnotMet⟩
    refine ⟨fun _ => hlot, fun hgiven => ⟨hpositive, ?_⟩, fun _ => hlevels⟩
    rwa [if_pos hgiven] at hnotMet
  · rintro ⟨hlot, htrigger, hlevels⟩
    refine ⟨?_, ?_, ?_, ?_⟩
    · cases hgiven : f.qty.isSome with
      | true => exact hlot hgiven
      | false =>
        rw [LotKept, h.symbol, h.qty hgiven]
        exact hwell.lot
    · cases hgiven : f.triggerPrice.isSome with
      | true => exact (htrigger hgiven).1
      | false => exact h.triggerPrice hgiven ▸ hwell.positive
    · cases hgiven : f.triggerPrice.isSome || (f.sl.isSome || f.tp.isSome) with
      | true => exact hlevels (by simpa using hgiven)
      | false =>
        obtain ⟨hnotrigger, hnosl, hnotp⟩ : f.triggerPrice.isSome = false ∧ f.sl.isSome = false ∧ f.tp.isSome = false := by
          simpa using hgiven
        rw [LevelsKept, h.side, h.sl hnosl, h.tp hnotp, h.triggerPrice hnotrigger]
        exact hwell.levels
    · cases hgiven : f.triggerPrice.isSome with
      | true => exact (htrigger hgiven).2
      | false =>
        rw [if_neg (by simp), NotMet, h.orderType, h.side, h.triggerPrice hgiven]
        exact hwell.notMet

lemma ownPending_ok (h : ownPending s account pk = .ok entry) :
    s.orders.get pk = some entry ∧ entry.order.status = .pending := by
  simp only [ownPending, bind_eq_ok, require_eq_ok, guard_eq_ok, pure_eq_ok] at h
  obtain ⟨e, he, hpending, rfl⟩ := h
  exact ⟨(Option.filter_eq_some_iff.mp he).1, not_not.mp hpending⟩

lemma kept_update (hs : Kept s) (hget : s.orders.get pk = some entry) {new : Entry} (hnew : new.order.status = .pending) :
    Kept { s with orders := s.orders.update pk fun _ => new } ↔ Well new := by
  constructor
  · intro hkept
    exact hkept pk new (Table.get_update_self hget _) hnew
  · intro hwell i e he hstatus
    by_cases hi : i = pk
    · subst hi
      obtain rfl := Option.some.inj ((Table.get_update_self hget fun _ => new).symm.trans he)
      exact hwell
    · exact hs i e (by rwa [Table.get_update_ne _ hi] at he) hstatus

lemma kept_settled (hs : Kept s) {status : OrderStatus} (h : status ≠ .pending) (pk : ℕ) :
    Kept { s with orders := s.orders.update pk (withStatus status) } := by
  intro i e he hstatus
  obtain ⟨old, hold, rfl⟩ := Table.get_update_some he
  by_cases hi : i = pk
  · rw [if_pos hi] at hstatus
    exact absurd hstatus h
  · rw [if_neg hi] at hstatus ⊢
    exact hs i old hold hstatus

lemma new_checked_iff (hs : Kept s) : Kept (commit s (orderPendingNew s account ticket refusedByMargin)) ↔
    Checked s (.new account ticket refusedByMargin) := by
  cases h : orderPendingNew s account ticket refusedByMargin with
  | error e =>
    refine iff_of_true hs fun owner t order hticket horder => ?_
    rw [orderPendingNew, hticket] at h
    simp [horder, bind, Except.bind, pure, Except.pure] at h
  | ok s' =>
    simp only [orderPendingNew, bind_eq_ok, pure_eq_ok] at h
    obtain ⟨⟨owner, t⟩, hticket, order, horder, rfl⟩ := h
    have hwell := created_well_iff (checkTicket_accepted hticket) horder
    have hpending := (createPendingOrder_ok horder).2.2.2
    rw [commit_ok]
    constructor
    · intro hkept owner' t' order' hticket' horder'
      obtain ⟨rfl, rfl⟩ := Prod.mk.inj (Except.ok.inj (hticket.symm.trans hticket'))
      obtain rfl := Except.ok.inj (horder.symm.trans horder')
      exact hwell.mp (hkept _ _ (Table.get_insert_next _ _) hpending)
    · intro hchecked i e he hstatus
      obtain hold | ⟨-, rfl⟩ := Table.get_insert_some he
      · exact hs i e hold hstatus
      · exact hwell.mpr (hchecked owner t order hticket horder)

lemma update_checked_iff (hs : Kept s) {edit : Edit} : Kept (commit s (orderPendingUpdate s account pk edit)) ↔
    Checked s (.update account pk edit) := by
  cases h : orderPendingUpdate s account pk edit with
  | error e =>
    refine iff_of_true hs fun f entry order hfields hentry horder => ?_
    rw [orderPendingUpdate, hfields] at h
    simp [hentry, horder, bind, Except.bind, pure, Except.pure] at h
  | ok s' =>
    simp only [orderPendingUpdate, bind_eq_ok, pure_eq_ok] at h
    obtain ⟨f, hfields, entry, hentry, order, horder, rfl⟩ := h
    obtain ⟨hget, hpending⟩ := ownPending_ok hentry
    have hedited := editedOrder_edited horder
    have hwell := edited_well_iff (s := s) (hs pk entry hget hpending) hedited
    rw [commit_ok, kept_update hs hget (hedited.status.trans hpending), hwell]
    constructor
    · intro hpassed f' entry' order' hfields' hentry' horder'
      obtain rfl := Except.ok.inj (hfields.symm.trans hfields')
      obtain rfl := Except.ok.inj (hentry.symm.trans hentry')
      obtain rfl := Except.ok.inj (horder.symm.trans horder')
      exact hpassed
    · exact fun hchecked => hchecked f entry order hfields hentry horder

lemma checked_iff (hs : Kept s) (a : Act) : Kept (step s a) ↔ Checked s a := by
  cases a with
  | feed | session => exact iff_of_true hs trivial
  | new account ticket refusedByMargin => exact new_checked_iff hs
  | update account pk edit => exact update_checked_iff hs
  | cancel account pk =>
    refine iff_of_true ?_ trivial
    rw [step]
    refine commit_rule s _ hs fun s' h => ?_
    simp only [orderPendingCancel, bind_eq_ok, pure_eq_ok] at h
    obtain ⟨_, -, rfl⟩ := h
    exact kept_settled hs (by simp) pk
  | settle pk status =>
    refine iff_of_true ?_ trivial
    rw [step]
    split
    · exact hs
    · next hstatus => exact kept_settled hs hstatus pk

variable (feed : FeedManager) (orderPolicy : String → OrderPolicy) (acts : List Act)

lemma opened_kept : Kept (opened feed orderPolicy) := fun _ _ h => by cases h

/-- The pending orders are well in every state of a run exactly if rounding changes nothing of what is checked of its
new orders and its edits pass, in what they give, the checks of a new order. -/
theorem pending_orders_kept_iff :
    (∀ before after, acts = before ++ after → Kept (run step (opened feed orderPolicy) before)) ↔
      Guarded step Checked (opened feed orderPolicy) acts :=
  invariant_iff_guarded (I := Kept) (fun _ a hs => checked_iff hs a) (opened_kept feed orderPolicy) acts

end Invariant

section Edits

def euroQuoted : List Act := [.feed (.tick "EUR/USD" (.finite (117 / 100)) (.finite (11702 / 10000)) "massive")]

def dip : Ticket where
  symbol := "EUR/USD"
  side := "buy"
  orderType := "limit"
  qty := .number (.finite 1)
  triggerPrice := .number (.finite (116 / 100))
  sl := .number (.finite (115 / 100))
  tp := .null
  expiresAt := none

def crossed : Edit where
  triggerPrice := .null
  qty := .number (.finite (1 / 1000))
  sl := .number (.finite (118 / 100))
  tp := .null

/-- A limit to buy at 1.16 is edited to a thousandth of a lot with its stop at 1.18. -/
theorem edited_unchecked : ¬ Kept (run step (opened (Market.FeedState.started 0) fun _ => .openNormal)
    (euroQuoted ++ [.new (some 1) dip none, .update (some 1) 0 crossed])) := by
  intro hkept
  have horder : ((run step (opened (Market.FeedState.started 0) fun _ => .openNormal)
      (euroQuoted ++ [.new (some 1) dip none, .update (some 1) 0 crossed])).orders.get 0).map
        (fun e => (e.order.symbol, e.order.status, e.order.qty)) = some ("EUR/USD", .pending, .ofUnits 1000) := by
    decide +kernel
  obtain ⟨e, he, hfields⟩ := Option.map_eq_some_iff.mp horder
  obtain ⟨hsymbol, hfields⟩ := Prod.mk.inj hfields
  obtain ⟨hstatus, hqty⟩ := Prod.mk.inj hfields
  obtain ⟨spec, hspec, hlot⟩ := (hkept 0 e he hstatus).lot
  have hmin : spec.minLot = 1 / 100 := by
    have hall : (getSpec "EUR/USD").map SymbolSpec.minLot = some (1 / 100) := by decide +kernel
    rw [hsymbol] at hspec
    simpa [hspec] using hall
  rw [checkLotSize, if_pos] at hlot
  · cases hlot
  · rw [hqty, hmin]
    decide +kernel

end Edits

end TrxSimulator.Trading.PendingEdits
