import TrxSimulator.Trading.OpenLimits
import TrxSimulator.Trading.Parity
import TrxSimulator.Trading.PendingOrders

/-! What a trigger makes of its pending order: the order is settled with all of its effects or with none, or the
trigger raises and the order is pending again at the next tick. -/

namespace TrxSimulator.Trading.Settlement

open Foundations.Tables Foundations.Outcomes Foundations.Decimals Foundations.Floats Money Charges
open Accounts (TradingAccount EventType)
open Market.Symbols Market.Pnl Market.Spreads
open Writers (Side Position PendingOrder OrderStatus TradeError Fill Floor LedgerEntry EntryMeta OpeningCharges Trigger
  TriggerResult execute allocated postCharges postEntry postEntryIf saveBalance mergesWith setStatus)
open Executions (Desk recordExecution)
open Levels (validateSlTp)
open Reconciliation (column_ok)
open Fills OpenGuard OpenLimits
open Openings hiding triggerPendingOrderCore
open Parity hiding ChargeError

/-- What a trigger reads beside the broker and the prices: the setting of the fee, the stored configurations of the
spreads and those that its process has cached, the terms of each account, and the clock with the columns of each order
that only a trigger compares with it or with the price. -/
structure Circumstances where
  spreadFeeEnabled : Bool
  configs : BrokerSpreadConfigs
  cache : SpreadConfigCache
  fields : ℕ → ResolvedFields
  now : ℕ
  expiresAt : ℕ → Option ℕ
  sl : ℕ → Option (Numeric 18 6)
  tp : ℕ → Option (Numeric 18 6)

section Triggering

variable (r : Arithmetic)

def Circumstances.due (c : Circumstances) (order : ℕ) : Bool := (c.expiresAt order).any fun expires => expires ≤ c.now

def Circumstances.refusedAtPrice (c : Circumstances) (po : PendingOrder) (order : ℕ) (price : ℚ) : Option String :=
  let sl := (c.sl order).map fun x => r.float x.value
  let tp := (c.tp order).map fun x => r.float x.value
  match validateSlTp po.side sl tp price with
  | .ok () => none
  | .error e => some (PendingOrders.LevelError.code e)

def Circumstances.spreadCharge (c : Circumstances) (po : PendingOrder) : Except Parity.ChargeError ℚ :=
  pendingStaticSpreadCharge r c.configs (c.fields po.account) po.symbol (r.float po.qty.value)

def Circumstances.commission (c : Circumstances) (po : PendingOrder) (price : ℚ) : ℚ :=
  let terms := (Parity.buildCommercialPricingProfile c.cache (c.fields po.account) po.symbol).terms
  (getSpec po.symbol).elim 0 fun spec => openingCommission r terms spec (r.float po.qty.value) price

def Circumstances.trigger (c : Circumstances) (po : PendingOrder) (order : ℕ) (price : ℚ) : PendingTrigger where
  order := order
  due := c.due order
  executionPrice := price
  refusedAtPrice := c.refusedAtPrice r po order price
  spreadFeeEnabled := c.spreadFeeEnabled
  spreadCharge := (c.spreadCharge r po).toOption
  commission := c.commission r po price

def triggerPendingOrderCore (c : Circumstances) (s : Broker) (m : Moment) (order : ℕ) (price : ℚ) :
    Except OpenError (Broker × TriggerResult) :=
  match s.orders.get order with
  | none => .ok (s, .notPending)
  | some po => Openings.triggerPendingOrderCore r s m (c.trigger r po order price)

/-- The callers log what a trigger raises and keep the order for the next tick. -/
def checkPendingTrigger (c : Circumstances) (s : Broker) (m : Moment) (order : ℕ) (price : ℚ) : Broker :=
  commit s ((triggerPendingOrderCore r c s m order price).map Prod.fst)

end Triggering

section Effects

def entryRow (k : ℕ) (eventType : EventType) (amount balanceAfter : ℚ) (info : EntryMeta) : Option LedgerEntry :=
  (store 18 2 amount).bind fun amount =>
    (store 18 2 balanceAfter).map fun balanceAfter => { account := k, eventType, amount, balanceAfter, info }

def chargeRows (c : OpeningCharges) (k : ℕ) (info : EntryMeta) : List (Option LedgerEntry) :=
  (if 0 < c.commission then [entryRow k .commission (negate c.commissionPosted) c.balance info] else []) ++
    if 0 < c.spread then [entryRow k .fee (negate c.spreadPosted) c.balance info] else []

/-- A row for each of the charges there are, and with any of them the balance that they leave. -/
structure Charged (s s' : Floor) (k : ℕ) (c : OpeningCharges) (info : EntryMeta) : Prop where
  entries : ∃ rows, chargeRows c k info = rows.map some ∧ s'.entries = s.entries.insertAll rows
  balance : if 0 < c.commission ∨ 0 < c.spread then ∃ balance, store 12 2 c.balance = some balance ∧
      s'.accounts = s.accounts.update k fun a => { a with balance }
    else s'.accounts = s.accounts

/-- An order that opens: its position, its execution, its charges and its status, and nothing else of the desk. -/
structure Effects (s s' : Desk) (t : Trigger) (po : PendingOrder) (a : TradingAccount) (position : ℕ)
    (merged : Bool) : Prop where
  filled : Filled s.positions po.account (t.fill po) s'.positions position merged
  event : ∃ executionPrice, store 18 6 t.executionPrice = some executionPrice ∧
    s'.events = s.events.insert
      { account := po.account, position, symbol := po.symbol, side := po.side, qty := po.qty, executionPrice, merged,
        sourceOrder := some t.order }
  charges : ∃ spread charges, t.spread = .ok spread ∧ t.charges a.balance.value spread = .ok charges ∧
    Charged s.toFloor s'.toFloor po.account charges (.opening po.symbol po.side position (some t.order))
  status : s'.orders = s.orders.update t.order fun po => { po with status := .triggered position }
  others : s'.trades = s.trades ∧ s'.counterparties = s.counterparties ∧ s'.copies = s.copies

/-- The order has ended, with all of its effects or with none beside the status: what else is written then is the lock,
the account's missing rule and a row of the audit. -/
inductive Settled (s s' : Broker) (t : Trigger) (po : PendingOrder) : TriggerResult → Prop
  | expired (h : Kept s s' (withStatus s.toDesk t.order .expired)) : Settled s s' t po .expired
  | rejected {code : String} (h : Kept s s' (withStatus s.toDesk t.order .rejected)) :
      Settled s s' t po (.rejected code)
  | triggered {a : TradingAccount} {desk : Desk} {position : ℕ} {merged : Bool}
      (ha : s.accounts.get po.account = some a) (heffects : Effects s.toDesk desk t po a position merged)
      (h : Kept s s' desk) : Settled s s' t po (.triggered position merged)

end Effects

section Conditions

def stored (rows : BrokerSpreadConfigs) (symbol : String) : Option BrokerSpreadConfig :=
  (rows (normalizeSymbol symbol)).filter BrokerSpreadConfig.enabled

def floorPips (fields : ResolvedFields) (row : Option BrokerSpreadConfig) : Option ℚ :=
  fields.minSpreadPips.or (row.bind (BrokerSpreadConfig.floor python))

def ceilingPips (fields : ResolvedFields) (row : Option BrokerSpreadConfig) : Option ℚ :=
  fields.maxSpreadPips.or (row.bind (BrokerSpreadConfig.ceiling python))

def effectivePips (fields : ResolvedFields) (row : Option BrokerSpreadConfig) : ℚ :=
  (computeEffectiveSpreadPips python (row.elim 0 fun row => python.float row.spreadPips.value)
    (fields.spreadMarkupPips.getD 0) (floorPips fields row) (ceilingPips fields row)).2

/-- The stored configuration is static or absent, the terms are resolved, and no number of either is out of order; the
size of an order matters only where it is negative. -/
structure Chargeable (fields : ResolvedFields) (row : Option BrokerSpreadConfig) (symbol : String) (qty : ℚ) :
    Prop where
  static : ∀ config ∈ row, config.isDynamic = false
  resolved : fields.source ≠ some .captureFailed
  base : ∀ config ∈ row, 0 ≤ python.float config.spreadPips.value
  markup : 0 ≤ fields.spreadMarkupPips.getD 0
  floor : ∀ lo ∈ floorPips fields row, 0 ≤ lo
  ceiling : ∀ hi ∈ ceilingPips fields row, 0 ≤ hi
  ordered : ∀ lo ∈ floorPips fields row, ∀ hi ∈ ceilingPips fields row, lo ≤ hi
  sized : qty < 0 → 0 ≤ calculateSpreadRevenue python (normalizeSymbol symbol) qty (effectivePips fields row)

/-- The balance that the charges of an order leave, before its column takes it. -/
def remaining (t : Trigger) (balance spread : ℚ) : ℚ :=
  let rest := minus balance (max t.commission 0)
  if t.spreadFeeEnabled then scaled 2 (quantize 2 (minus rest spread)) else rest

/-- Each number that the execution of an order writes fits its column, and the sizes that merge do not cancel out. -/
structure Writable (s : Floor) (t : Trigger) (po : PendingOrder) (a : TradingAccount) (spread : ℚ) : Prop where
  price : (store 18 6 t.executionPrice).isSome
  merges : t.nettingMode = true → ∀ id existing,
    s.positions.first (mergesWith po.account (t.fill po)) = some (id, some existing) →
      plus existing.qty.value po.qty.value ≠ 0 ∧ |quantize 6 (newAverage existing (t.fill po))| < 10 ^ 18 ∧
        (store 18 6 (plus existing.qty.value po.qty.value)).isSome
  balance : 0 < t.commission ∨ 0 < spread → (store 12 2 (remaining t a.balance.value spread)).isSome

def Admitted (s : Broker) (m : Moment) (a : TradingAccount) (x : Candidate) : Prop :=
  let t := s.terms x.account
  let rows := held s.positions x.account
  ∃ used equity spec rule, freshMarginUsed python t.leverage t.currency rows = .ok used ∧
    freshEquity python a.balance.value t.currency (cachedPx m) rows = some equity ∧
    getSpec x.symbol = some spec ∧ (getOrCreateRiskRule s x.account a).map Prod.snd = .ok rule ∧
    decision python s m a x (t.snap python) spec equity used rule = none

def Circumstances.onFloor (c : Circumstances) (s : Broker) (po : PendingOrder) (order : ℕ) (price : ℚ)
    (refusedAtPrice : Option String) (code : Option RejectCode) : Trigger :=
  (c.trigger python po order price).onFloor python refusedAtPrice code (s.terms po.account).nettingMode

/-- An order that nothing refuses, on the floor. -/
def Circumstances.opening (c : Circumstances) (s : Broker) (po : PendingOrder) (order : ℕ) (price : ℚ) : Trigger :=
  c.onFloor s po order price none none

/-- An order that is neither due nor refused at its price can be carried through for its account: its spread can be
charged, every symbol that is looked up is registered, and what its admission leads to can be written. -/
structure Executable (c : Circumstances) (s : Broker) (m : Moment) (order : ℕ) (po : PendingOrder) (price : ℚ)
    (a : TradingAccount) : Prop where
  charged : c.spreadFeeEnabled = true →
    Chargeable (c.fields po.account) (stored c.configs po.symbol) po.symbol (python.float po.qty.value)
  registered : ∀ p ∈ held s.positions po.account, (getSpec p.symbol).isSome
  listed : (∀ p ∈ held s.positions po.account, (m.cached p.symbol).isSome) → (getSpec po.symbol).isSome
  written : Admitted s m a ((c.trigger python po order price).candidate python po (s.terms po.account).nettingMode) →
    ∀ spread, (c.opening s po order price).spread = .ok spread →
      Writable s.toFloor (c.opening s po order price) po a spread

def Settles (c : Circumstances) (s : Broker) (m : Moment) (order : ℕ) (po : PendingOrder) (price : ℚ) : Prop :=
  c.due order = true ∨ ((c.trigger python po order price).refusal po).isSome ∨
    ∀ a, s.accounts.get po.account = some a → Executable c s m order po price a

end Conditions

section Charges

variable {rows : BrokerSpreadConfigs} {fields : ResolvedFields} {symbol : String} {qty pips charge : ℚ}

lemma printed_nonneg : 0 ≤ python.str pips ↔ 0 ≤ pips := str_nonneg_iff

lemma pipSize_nonneg {spec : SymbolSpec} (h : spec ∈ registry) : 0 ≤ spec.pipSize := by
  revert h spec
  decide +kernel

lemma revenue_nonneg (hqty : 0 ≤ qty) (hpips : 0 ≤ pips) : 0 ≤ calculateSpreadRevenue python symbol qty pips := by
  rw [calculateSpreadRevenue]
  split
  · exact le_rfl
  · next spec hspec =>
    have hmem := mem_of_getSpec hspec
    have hcontract := (registry_bounds hmem).1.le
    have hpip : 0 ≤ float spec.pipSize := float_nonneg (pipSize_nonneg hmem)
    have hhalf : 0 ≤ float (float (pips * float spec.pipSize) / 2) := by
      apply float_nonneg
      exact div_nonneg (float_nonneg (mul_nonneg hpips hpip)) (by norm_num)
    have hvalue : 0 ≤ float (float (float (float (pips * float spec.pipSize) / 2) * qty) * spec.contractSize) := by
      apply float_nonneg
      exact mul_nonneg (float_nonneg (mul_nonneg hhalf hqty)) hcontract
    have hquantized : 0 ≤ quantize 8 (float (float (float (float (pips * float spec.pipSize) / 2) * qty) *
        spec.contractSize)) := by
      apply le_roundHalfEven
      exact_mod_cast mul_nonneg hvalue (by norm_num)
    apply float_nonneg
    exact div_nonneg (by exact_mod_cast hquantized) (by norm_num)

lemma effectivePips_nonneg {row : Option BrokerSpreadConfig} (h : Chargeable fields row symbol qty) :
    0 ≤ effectivePips fields row := by
  have hbase : 0 ≤ row.elim 0 fun row => python.float row.spreadPips.value := by
    cases row with
    | none => exact le_rfl
    | some config => exact h.base config rfl
  apply clamp_nonneg
  · exact float_nonneg (add_nonneg hbase h.markup)
  · exact h.floor
  · exact h.ceiling

lemma spreadCharge_returns :
    Returns (pendingStaticSpreadCharge python rows fields symbol qty) ↔
      Chargeable fields (stored rows symbol) symbol qty := by
  rw [stored, pendingStaticSpreadCharge]
  generalize (rows (normalizeSymbol symbol)).filter BrokerSpreadConfig.enabled = row
  simp only [returns_guard, Option.any_eq_true, not_exists, not_and, not_not, not_lt, List.mem_cons, List.mem_append,
    Option.mem_toList]
  constructor
  · rintro ⟨hstatic, hresolved, hnonneg, hordered, hcharge, -⟩
    refine ⟨?_, hresolved, ?_, hnonneg _ (Or.inr (Or.inl rfl)), ?_, ?_, hordered, fun _ => printed_nonneg.mp hcharge⟩
    · intro config hconfig
      simpa using hstatic config hconfig
    · intro config hconfig
      have hbase := hnonneg _ (Or.inl rfl)
      rwa [Option.mem_def.mp hconfig] at hbase
    · exact fun lo hlo => hnonneg lo (Or.inr (Or.inr (Or.inl hlo)))
    · exact fun hi hhi => hnonneg hi (Or.inr (Or.inr (Or.inr hhi)))
  · intro h
    refine ⟨fun config hconfig => by simp [h.static config hconfig], h.resolved, ?_, h.ordered, ?_, returns_ok _⟩
    · rintro pips (rfl | rfl | hlo | hhi)
      · cases row with
        | none => exact le_rfl
        | some config => exact h.base config rfl
      · exact h.markup
      · exact h.floor pips hlo
      · exact h.ceiling pips hhi
    · apply printed_nonneg.mpr
      obtain hqty | hqty := lt_or_ge qty 0
      · exact h.sized hqty
      · exact revenue_nonneg hqty (effectivePips_nonneg h)

lemma spreadCharge_nonneg (h : pendingStaticSpreadCharge python rows fields symbol qty = .ok charge) : 0 ≤ charge := by
  simp only [pendingStaticSpreadCharge, guard_eq_ok, Except.ok.injEq] at h
  obtain ⟨-, -, -, -, hcharge, rfl⟩ := h
  exact not_lt.mp hcharge

end Charges

section Columns

variable {x : ℚ} {m : ℤ}

lemma negated_fits (h : |m| < 10 ^ 18) : (store 18 2 (negate (scaled 2 m))).isSome := by
  rw [negate_scaled (h.trans (by norm_num [precision])), store_scaled_isSome, abs_neg]
  exact h

lemma wider_fits (h : (store 12 2 x).isSome) : (store 18 2 x).isSome := by
  rw [store_isSome] at h ⊢
  exact h.trans (by norm_num)

lemma small_fits (h : |x| < 10 ^ 15) : (store 18 2 x).isSome := by
  obtain ⟨hlow, hhigh⟩ := cents_bounds x
  have hx := abs_lt.mp h
  have hcents : |(cents x : ℚ)| < 10 ^ 18 := by
    rw [abs_lt]
    norm_num at hlow hhigh hx ⊢
    constructor <;> linarith
  rw [store_isSome]
  exact_mod_cast hcents

end Columns

section Posted

variable {b : Numeric 12 2} {t : Trigger} {charges : OpeningCharges} {commission spread : ℚ}

lemma quantized_fits (h0 : 0 ≤ commission) (h : commission < 10 ^ 12) : |quantize 2 commission| < 10 ^ 15 := by
  have hround := abs_le.mp (abs_scaled_quantize_sub_le 2 commission)
  have hcast : |(quantize 2 commission : ℚ)| < 10 ^ 15 := by
    rw [scaled] at hround
    rw [abs_lt]
    norm_num at hround h ⊢
    constructor <;> linarith
  exact_mod_cast hcast

lemma allocate_ok {balance : ℚ} (hcommission : 0 ≤ commission) (hspread : 0 ≤ spread) :
    ∃ commissionPosted spreadPosted, allocateOpeningCharges balance commission spread =
      .ok (scaled 2 (quantize 2 (minus (minus balance commission) spread)), commissionPosted, spreadPosted) := by
  rw [allocateOpeningCharges, if_neg (by rintro (h | h) <;> linarith)]
  dsimp only
  split
  · exact ⟨_, _, rfl⟩
  · split
    · exact ⟨_, _, rfl⟩
    · split <;> exact ⟨_, _, rfl⟩

/-- What is posted of charges that leave a balance within its column is within its own. -/
lemma allocated_fits {commissionPosted spreadPosted : ℚ} {q : ℤ} (hcommission : 0 ≤ commission) (hspread : 0 ≤ spread)
    (h : allocateOpeningCharges b.value commission spread = .ok (scaled 2 q, commissionPosted, spreadPosted))
    (hq : |q| < 10 ^ 12) :
    (0 < commission → (store 18 2 (negate commissionPosted)).isSome) ∧
      (0 < spread → (store 18 2 (negate spreadPosted)).isSome) := by
  rw [allocateOpeningCharges, guard_eq_ok] at h
  obtain ⟨-, h⟩ := h
  dsimp only at h
  generalize hexact : quantize 2 (minus (minus b.value commission) spread) = q' at h
  have hsame : scaled 2 q' = scaled 2 q → q' = q := fun heq => le_antisymm (scaled_le.mp heq.le) (scaled_le.mp heq.ge)
  have hbalance := abs_lt.mp b.fits
  have hposted := abs_lt.mp hq
  have hrest : (store 18 2 (negate (minus b.value (scaled 2 q)))).isSome := by
    rw [minus_posted hq]
    apply negated_fits
    rw [abs_lt]
    omega
  by_cases hc : 0 < commission
  · by_cases hs : 0 < spread
    · simp only [hc, hs, and_self, if_true, Except.ok.injEq, Prod.mk.injEq] at h
      obtain ⟨heq, rfl, rfl⟩ := h
      obtain rfl := hsame heq
      obtain ⟨-, hbounded, -⟩ := charged_balance hcommission hspread (hexact ▸ hq)
      have hcents := quantized_fits hcommission hbounded
      have hsmall := abs_lt.mp hcents
      refine ⟨fun _ => negated_fits (hcents.trans (by norm_num)), fun _ => ?_⟩
      rw [minus_residual hq (hcents.trans (by norm_num))]
      apply negated_fits
      rw [abs_lt]
      omega
    · simp only [hc, hs, and_false, if_true, if_false, Except.ok.injEq, Prod.mk.injEq] at h
      obtain ⟨heq, rfl, -⟩ := h
      obtain rfl := hsame heq
      exact ⟨fun _ => hrest, fun h => absurd h hs⟩
  · refine ⟨fun h => absurd h hc, fun hs => ?_⟩
    simp only [hc, hs, false_and, if_true, if_false, Except.ok.injEq, Prod.mk.injEq] at h
    obtain ⟨heq, -, rfl⟩ := h
    obtain rfl := hsame heq
    exact hrest

lemma unrounded_fits (h : (store 12 2 (minus b.value commission)).isSome) :
    (store 18 2 (negate commission)).isSome := by
  have hstored : |b.value| < 10 ^ 10 := abs_scaled_lt b.fits
  have hbalance := abs_lt.mp hstored
  have hcents : |cents (context precision (b.value - commission))| < 10 ^ 12 := store_isSome.mp h
  have hleft : |b.value - commission| < 10 ^ 11 := by
    apply abs_lt_of_context (p := precision) (by norm_num [precision])
    obtain ⟨hlow, hhigh⟩ := cents_bounds (context precision (b.value - commission))
    have hcast : |(cents (context precision (b.value - commission)) : ℚ)| < 10 ^ 12 := by exact_mod_cast hcents
    rw [abs_lt] at hcast ⊢
    norm_num at hcast hlow hhigh ⊢
    constructor <;> linarith
  have hcommission : |-commission| < 10 ^ 12 := by
    rw [abs_lt] at hleft ⊢
    norm_num at hleft hbalance ⊢
    constructor <;> linarith
  have hround := abs_le.mp (abs_context_sub_le (hcommission.trans_le (by norm_num [precision]) :
    |-commission| < 10 ^ (precision - (4 : ℕ) : ℤ)))
  apply small_fits
  rw [negate, abs_lt]
  rw [abs_lt] at hcommission
  norm_num at hround hcommission ⊢
  constructor <;> linarith

lemma charges_worked (hspread : 0 ≤ spread) (hoff : t.spreadFeeEnabled = false → spread = 0) :
    ∃ charges, t.charges b.value spread = .ok charges ∧ charges.commission = max t.commission 0 ∧
      charges.spread = spread ∧ charges.balance = remaining t b.value spread ∧
      ((store 12 2 charges.balance).isSome →
        (0 < charges.commission → (store 18 2 (negate charges.commissionPosted)).isSome) ∧
        (0 < charges.spread → (store 18 2 (negate charges.spreadPosted)).isSome)) := by
  have hcommission : 0 ≤ max t.commission 0 := le_max_right _ _
  rw [Trigger.charges, remaining]
  cases henabled : t.spreadFeeEnabled with
  | true =>
    obtain ⟨commissionPosted, spreadPosted, hallocated⟩ :=
      @allocate_ok (max t.commission 0) spread b.value hcommission hspread
    refine ⟨⟨_, _, _, commissionPosted, spreadPosted⟩, ?_, rfl, rfl, rfl, fun hfits => ?_⟩
    · rw [if_pos rfl, allocated, hallocated]
      rfl
    · exact allocated_fits hcommission hspread hallocated (store_scaled_isSome.mp hfits)
  | false =>
    obtain rfl := hoff henabled
    exact ⟨_, rfl, rfl, rfl, rfl, fun hfits => ⟨fun _ => unrounded_fits hfits, fun h => absurd h (lt_irrefl 0)⟩⟩

end Posted

section Executing

variable {s : Floor} {t : Trigger} {po : PendingOrder} {a : TradingAccount} {k : ℕ} {f : Fill} {spread x y : ℚ}
  {charges : OpeningCharges} {info : EntryMeta}

lemma column_returns {d p : ℕ} {name : String} : Returns (Writers.column d p name x) ↔ (store d p x).isSome :=
  returns_require

lemma postEntryIf_returns {p : Prop} [Decidable p] {eventType : EventType} :
    Returns (postEntryIf p s k eventType x y info) ↔ (p → (store 18 2 x).isSome ∧ (store 18 2 y).isSome) := by
  rw [postEntryIf]
  split
  · next hp =>
    rw [postEntry, returns_bind_const fun amount => returns_bind_const fun balance => iff_true_intro (returns_pure _)]
    simp [column_returns, hp]
  · next hp => simp [returns_ok, hp]

lemma postCharges_returns : Returns (postCharges s k charges info) ↔
    (0 < charges.commission → (store 18 2 (negate charges.commissionPosted)).isSome ∧
      (store 18 2 charges.balance).isSome) ∧
    (0 < charges.spread → (store 18 2 (negate charges.spreadPosted)).isSome ∧ (store 18 2 charges.balance).isSome) ∧
    (0 < charges.commission ∨ 0 < charges.spread → (store 12 2 charges.balance).isSome) := by
  have hsave : ∀ s : Floor, Returns (if 0 < charges.commission ∨ 0 < charges.spread then
      saveBalance s k charges.balance else pure s) ↔
        (0 < charges.commission ∨ 0 < charges.spread → (store 12 2 charges.balance).isSome) := by
    intro s
    split
    · next h =>
      rw [saveBalance, returns_bind_const fun balance => iff_true_intro (returns_pure _)]
      simp [column_returns, h]
    · next h => simp [returns_pure, h]
  rw [postCharges, returns_bind_const fun s => (returns_bind_const hsave).trans (and_congr_left' postEntryIf_returns),
    postEntryIf_returns]

lemma execute_returns (hqty : (store 18 6 f.qty).isSome) (hprice : (store 18 6 f.price).isSome) :
    Returns (execute s k f) ↔ (f.nettingMode = true → ∀ id existing,
      s.positions.first (mergesWith k f) = some (id, some existing) → plus existing.qty.value f.qty ≠ 0 ∧
        |quantize 6 (newAverage existing f)| < 10 ^ 18 ∧ (store 18 6 (plus existing.qty.value f.qty)).isSome) := by
  rw [execute]
  split
  · next i existing hfirst =>
    split at hfirst
    · next hnetting =>
      rw [returns_guard, returns_bind_const fun _ => returns_bind_const fun _ => iff_true_intro (returns_pure _),
        column_returns, column_returns, store_scaled_isSome, and_true]
      simp [hnetting, hfirst, newAverage]
    · cases hfirst
  · next hfirst =>
    rw [returns_bind_const fun _ => returns_bind_const fun _ => iff_true_intro (returns_pure _), column_returns,
      column_returns]
    constructor
    · intro h hnetting i existing hfound
      rw [if_pos hnetting] at hfirst
      exact (hfirst i existing hfound).elim
    · exact fun _ => ⟨hqty, hprice, True.intro⟩

variable {d d' : Desk} {result : TriggerResult}

lemma executeTrigger_ok (h : Triggers d.toFloor t po) (ha : d.accounts.get po.account = some a) :
    executeTrigger d t = .ok (d', result) ↔ ∃ spread s1 id merged charges s2, t.spread = .ok spread ∧
      execute d.toFloor po.account (t.fill po) = .ok (s1, id, merged) ∧
      t.charges a.balance.value spread = .ok charges ∧
      postCharges s1 po.account charges (.opening po.symbol po.side id (some t.order)) = .ok s2 ∧
      recordExecution { d with toFloor := setStatus s2 t.order (.triggered id) } po.account id (t.fill po) merged
        (some t.order) = .ok d' ∧ result = .triggered id merged := by
  have hcore : Writers.triggerPendingOrderCore d.toFloor t = (do
      let spread ← t.spread
      let opened ← execute d.toFloor po.account (t.fill po)
      let charges ← t.charges a.balance.value spread
      let s2 ← postCharges opened.1 po.account charges (.opening po.symbol po.side opened.2.1 (some t.order))
      pure (setStatus s2 t.order (.triggered opened.2.1), TriggerResult.triggered opened.2.1 opened.2.2)) := by
    rw [Writers.triggerPendingOrderCore, h.row]
    dsimp only
    rw [if_neg (not_not.mpr h.pending), if_neg (by simp [h.early]), h.atPrice, ha, h.byLimits]
  rw [executeTrigger, hcore]
  simp only [bind_eq_ok, pure_eq_ok, Prod.exists, Prod.mk.injEq]
  constructor
  · rintro ⟨floor, r, ⟨spread, hspread, s1, id, merged, hexecute, charges, hcharges, s2, hpost, rfl, rfl⟩, hrecord⟩
    rw [h.row] at hrecord
    simp only [bind_eq_ok, pure_eq_ok, Prod.mk.injEq] at hrecord
    obtain ⟨d2, hrecord, rfl, rfl⟩ := hrecord
    exact ⟨spread, s1, id, merged, charges, s2, hspread, hexecute, hcharges, hpost, hrecord, rfl⟩
  · rintro ⟨spread, s1, id, merged, charges, s2, hspread, hexecute, hcharges, hpost, hrecord, rfl⟩
    refine ⟨_, _, ⟨spread, hspread, s1, id, merged, hexecute, charges, hcharges, s2, hpost, rfl, rfl⟩, ?_⟩
    rw [h.row]
    simp only [bind_eq_ok, pure_eq_ok]
    exact ⟨d', hrecord, rfl⟩

lemma recordExecution_returns {id : ℕ} {merged : Bool} {sourceOrder : Option ℕ} :
    Returns (recordExecution d k id f merged sourceOrder) ↔
      (store 18 6 f.qty).isSome ∧ (store 18 6 f.price).isSome := by
  rw [recordExecution, returns_bind_const fun _ => returns_bind_const fun _ => iff_true_intro (returns_pure _),
    column_returns, column_returns, and_true]

lemma executeTrigger_returns (h : Triggers d.toFloor t po) (ha : d.accounts.get po.account = some a)
    (hspread : t.spread = .ok spread) (hnonneg : 0 ≤ spread) :
    Returns (executeTrigger d t) ↔ Writable d.toFloor t po a spread := by
  have hqty : (store 18 6 (t.fill po).qty).isSome := by
    change (store 18 6 po.qty.value).isSome
    rw [store_value]
    rfl
  have hoff : t.spreadFeeEnabled = false → spread = 0 := by
    intro hfee
    rw [Trigger.spread, hfee] at hspread
    exact (pure_eq_ok.mp hspread).symm
  obtain ⟨charges, hcharges, hcommission, hspread', hbalance, hfits⟩ :=
    @charges_worked a.balance t spread hnonneg hoff
  have hsome : 0 < max t.commission 0 ↔ 0 < t.commission := by simp
  constructor
  · rintro ⟨⟨d', result⟩, hok⟩
    obtain ⟨spread', s1, id, merged, charges', s2, hs, hexecute, hc, hpost, hrecord, -⟩ :=
      (executeTrigger_ok h ha).mp hok
    cases hspread.symm.trans hs
    cases hcharges.symm.trans hc
    have hprice := (recordExecution_returns.mp ⟨_, hrecord⟩).2
    refine ⟨hprice, (execute_returns hqty hprice).mp ⟨_, hexecute⟩, fun hcharged => ?_⟩
    have hsaved := (postCharges_returns.mp ⟨_, hpost⟩).2.2
    rw [hcommission, hspread', hbalance, hsome] at hsaved
    exact hsaved hcharged
  · intro hwritable
    obtain ⟨⟨s1, id, merged⟩, hexecute⟩ := (execute_returns hqty hwritable.price).mpr hwritable.merges
    have hsaved : 0 < charges.commission ∨ 0 < charges.spread → (store 12 2 charges.balance).isSome := by
      rw [hcommission, hspread', hbalance, hsome]
      exact hwritable.balance
    have hposts : Returns (postCharges s1 po.account charges (.opening po.symbol po.side id (some t.order))) := by
      apply postCharges_returns.mpr
      refine ⟨fun hc => ?_, fun hs => ?_, hsaved⟩
      · exact ⟨(hfits (hsaved (Or.inl hc))).1 hc, wider_fits (hsaved (Or.inl hc))⟩
      · exact ⟨(hfits (hsaved (Or.inr hs))).2 hs, wider_fits (hsaved (Or.inr hs))⟩
    obtain ⟨s2, hpost⟩ := hposts
    obtain ⟨d', hrecord⟩ := (@recordExecution_returns po.account (t.fill po)
      { d with toFloor := setStatus s2 t.order (.triggered id) } id merged (some t.order)).mpr ⟨hqty, hwritable.price⟩
    exact ⟨_, (executeTrigger_ok h ha).mpr
      ⟨spread, s1, id, merged, charges, s2, hspread, hexecute, hcharges, hpost, hrecord, rfl⟩⟩

end Executing

section Outcomes

variable {s s' : Floor} {t : Trigger} {po : PendingOrder} {a : TradingAccount} {k id : ℕ} {f : Fill} {x y : ℚ}
  {merged : Bool} {charges : OpeningCharges} {info : EntryMeta} {d d' : Desk} {result : TriggerResult}

lemma execute_frame (h : execute s k f = .ok (s', id, merged)) :
    s'.accounts = s.accounts ∧ s'.entries = s.entries ∧ s'.orders = s.orders := by
  rw [execute] at h
  split at h
  · rw [guard_eq_ok] at h
    simp only [bind_eq_ok, pure_eq_ok, Prod.mk.injEq] at h
    obtain ⟨-, avgPrice, -, qty, -, rfl, -⟩ := h
    exact ⟨rfl, rfl, rfl⟩
  · simp only [bind_eq_ok, pure_eq_ok, Prod.mk.injEq] at h
    obtain ⟨qty, -, avgPrice, -, rfl, -⟩ := h
    exact ⟨rfl, rfl, rfl⟩

lemma postEntryIf_rows {p : Prop} [Decidable p] {eventType : EventType}
    (h : postEntryIf p s k eventType x y info = .ok s') :
    ∃ rows, (if p then [entryRow k eventType x y info] else []) = rows.map some ∧
      s' = { s with entries := s.entries.insertAll rows } := by
  rw [postEntryIf] at h
  split at h
  · next hp =>
    simp only [postEntry, bind_eq_ok, pure_eq_ok] at h
    obtain ⟨amount, hamount, balanceAfter, hbalance, rfl⟩ := h
    refine ⟨[{ account := k, eventType, amount, balanceAfter, info }], ?_, rfl⟩
    rw [if_pos hp, entryRow, column_ok hamount, column_ok hbalance]
    rfl
  · next hp =>
    cases h
    exact ⟨[], if_neg hp, rfl⟩

lemma postCharges_charged (h : postCharges s k charges info = .ok s') :
    Charged s s' k charges info ∧ s'.positions = s.positions ∧ s'.orders = s.orders := by
  simp only [postCharges, bind_eq_ok] at h
  obtain ⟨s1, hcommission, s2, hspread, hsave⟩ := h
  obtain ⟨commissions, hfirst, rfl⟩ := postEntryIf_rows hcommission
  obtain ⟨fees, hsecond, rfl⟩ := postEntryIf_rows hspread
  have hrows : chargeRows charges k info = (commissions ++ fees).map some := by
    rw [chargeRows, hfirst, hsecond, List.map_append]
  have hentries : (s.entries.insertAll commissions).insertAll fees = s.entries.insertAll (commissions ++ fees) := by
    rw [Table.insertAll, Table.insertAll, Table.insertAll, List.foldl_append]
  split at hsave
  · next hcharged =>
    simp only [saveBalance, bind_eq_ok, pure_eq_ok] at hsave
    obtain ⟨balance, hbalance, rfl⟩ := hsave
    refine ⟨⟨⟨_, hrows, hentries⟩, ?_⟩, rfl, rfl⟩
    rw [if_pos hcharged]
    exact ⟨balance, column_ok hbalance, rfl⟩
  · next hfree =>
    cases hsave
    refine ⟨⟨⟨_, hrows, hentries⟩, ?_⟩, rfl, rfl⟩
    rw [if_neg hfree]

lemma executeTrigger_effects (h : Triggers d.toFloor t po) (ha : d.accounts.get po.account = some a)
    (hok : executeTrigger d t = .ok (d', result)) :
    ∃ position merged, result = .triggered position merged ∧ Effects d d' t po a position merged := by
  obtain ⟨spread, s1, id, merged, charges, s2, hspread, hexecute, hcharges, hpost, hrecord, rfl⟩ :=
    (executeTrigger_ok h ha).mp hok
  obtain ⟨haccounts, hentries, hkeptOrders⟩ := execute_frame hexecute
  obtain ⟨hcharged, hpositions, horders⟩ := postCharges_charged hpost
  simp only [recordExecution, bind_eq_ok, pure_eq_ok] at hrecord
  obtain ⟨qty, hqty, executionPrice, hprice, rfl⟩ := hrecord
  have hqty' : qty = po.qty := Option.some.inj ((column_ok hqty).symm.trans (store_value po.qty))
  refine ⟨id, merged, rfl, ?_, ⟨executionPrice, column_ok hprice, ?_⟩, ⟨spread, charges, hspread, hcharges, ?_⟩, ?_,
    rfl, rfl, rfl⟩
  · change Filled d.positions po.account (t.fill po) s2.positions id merged
    rw [hpositions]
    exact execute_filled hexecute
  · rw [hqty']
    rfl
  · obtain ⟨⟨rows, hrows, hinserted⟩, hbalance⟩ := hcharged
    rw [hentries] at hinserted
    rw [haccounts] at hbalance
    exact ⟨⟨rows, hrows, hinserted⟩, hbalance⟩
  · change s2.orders.update t.order _ = d.orders.update t.order _
    rw [horders, hkeptOrders]

end Outcomes

section Examining

variable {s s' : Broker} {m : Moment} {a : TradingAccount} {x : Candidate} {k : ℕ}

lemma retail_fits (balance : ℚ) : (store 8 2 (Challenges.Drawdown.retailRiskDefaults balance).maxLotSize).isSome := by
  generalize hsize : (Challenges.Drawdown.retailRiskDefaults balance).maxLotSize = size
  have hlow : 1 / 100 ≤ size := hsize ▸ le_max_left _ _
  have hhigh : size ≤ 5 := by
    rw [← hsize]
    apply max_le
    · norm_num
    · exact min_le_left _ _
  have hround := abs_le.mp (abs_roundHalfAway_sub_le (size * 10 ^ 2))
  have hcast : |(roundHalfAway (size * 10 ^ 2) : ℚ)| < 10 ^ 8 := by
    rw [abs_lt]
    norm_num at hround ⊢
    constructor <;> linarith
  rw [store_isSome]
  exact_mod_cast hcast

lemma riskDefaults_fit (tier : Option Challenges.Evaluation.Tier) :
    (store 8 2 (riskDefaults a tier).maxLotSize).isSome := by
  rw [riskDefaults]
  split
  · exact retail_fits _
  · cases tier with
    | none => decide +kernel
    | some tier => cases tier <;> decide +kernel

/-- Half of a balance is exact in the context, and fits where the balance does. -/
lemma exposure_fits (b : Numeric 12 2) : (store 12 2 (times b.value (1 / 2))).isSome := by
  have hbounds := abs_lt.mp b.fits
  have hhalf : times b.value (1 / 2) = scaled 3 (5 * b.units) := by
    have hexact : b.value * (1 / 2) = scaled 3 (5 * b.units) := by
      rw [Numeric.value, scaled, scaled]
      push_cast
      ring
    rw [times, hexact]
    apply context_scaled
    rw [abs_lt, precision]
    omega
  have hround := abs_le.mp (abs_roundHalfAway_sub_le (scaled 3 (5 * b.units) * 10 ^ 2))
  have hvalue : scaled 3 (5 * b.units) * 10 ^ 2 = b.units / 2 := by
    rw [scaled]
    push_cast
    ring
  have hunits : (-10 ^ 12 : ℚ) < b.units ∧ (b.units : ℚ) < 10 ^ 12 := by exact_mod_cast hbounds
  have hcast : |(roundHalfAway (scaled 3 (5 * b.units) * 10 ^ 2) : ℚ)| < 10 ^ 12 := by
    rw [hvalue] at hround ⊢
    rw [abs_lt]
    norm_num at hround hunits ⊢
    constructor <;> linarith
  rw [hhalf, store_isSome]
  exact_mod_cast hcast

lemma riskRule_returns (s : Broker) (k : ℕ) (a : TradingAccount) : Returns (getOrCreateRiskRule s k a) := by
  rw [getOrCreateRiskRule]
  split
  · exact returns_ok _
  · rw [returns_bind_const fun _ => returns_bind_const fun _ => iff_true_intro (returns_pure _), returns_require,
      returns_require]
    exact ⟨riskDefaults_fit _, exposure_fits _, True.intro⟩

lemma marginUsed_returns {leverage : ℕ} {currency : String} {rows : List Position} :
    Returns (freshMarginUsed python leverage currency rows) ↔ ∀ p ∈ rows, (getSpec p.symbol).isSome := by
  apply returns_foldlM
  intro total p
  rw [addMargin, returns_bind_const (P := True), returns_require, and_true]
  intro spec
  split <;> simp [returns_pure]

lemma equity_isSome {balance : ℚ} {currency : String} {rows : List Position} :
    (freshEquity python balance currency (cachedPx m) rows).isSome ↔ ∀ p ∈ rows, (m.cached p.symbol).isSome := by
  rw [freshEquity, Option.isSome_map]
  apply isSome_foldlM
  intro total p
  simp [addFloating, cachedPx]

lemma examine_returns : Returns (examine python s m a x) ↔
    (∀ p ∈ held s.positions x.account, (getSpec p.symbol).isSome) ∧
      ((∀ p ∈ held s.positions x.account, (m.cached p.symbol).isSome) → (getSpec x.symbol).isSome) := by
  rw [examine, returns_bind_const, marginUsed_returns]
  intro used
  rw [← @equity_isSome m a.balance.value (s.terms x.account).currency]
  split
  · next hnone => simp [returns_pure, hnone]
  · next equity hequity =>
    rw [returns_bind_const fun spec => returns_bind_const fun _ => iff_true_intro (returns_pure _), returns_require,
      hequity]
    simp [riskRule_returns]

lemma decision_kept {s1 : Broker} (h : Kept s s1 s.toDesk) {snap : AccountSnap} {spec : SymbolSpec} {equity used : ℚ}
    {rule : Challenges.Evaluation.RiskRule} :
    decision python s1 m a x snap spec equity used rule = decision python s m a x snap spec equity used rule := by
  have hpositions : s1.positions = s.positions := congrArg (fun d => d.positions) h.desk
  rw [decision, decision, h.terms, hpositions, h.holdings]

lemma examine_admitted (h : examine python s m a x = .ok (s', none)) : Admitted s m a x := by
  simp only [examine, bind_eq_ok] at h
  obtain ⟨used, hused, h⟩ := h
  split at h
  · cases h
  · next equity hequity =>
    simp only [bind_eq_ok, pure_eq_ok, Prod.exists, Prod.mk.injEq] at h
    obtain ⟨spec, hspec, s1, rule, hrule, rfl, hdecision⟩ := h
    rw [decision_kept (getOrCreateRiskRule_kept hrule).1] at hdecision
    exact ⟨used, equity, spec, rule, hused, hequity, require_eq_ok.mp hspec, map_eq_ok.mpr ⟨_, hrule, rfl⟩, hdecision⟩

lemma admitted_examine (h : Admitted s m a x) : ∃ s', examine python s m a x = .ok (s', none) := by
  obtain ⟨used, equity, spec, rule, hused, hequity, hspec, hrule, hdecision⟩ := h
  obtain ⟨⟨s1, rule'⟩, hcreated, rfl⟩ := map_eq_ok.mp hrule
  refine ⟨s1, ?_⟩
  simp only [examine, bind_eq_ok]
  refine ⟨used, hused, ?_⟩
  rw [hequity]
  simp only [bind_eq_ok, pure_eq_ok, Prod.exists, Prod.mk.injEq]
  refine ⟨spec, require_eq_ok.mpr hspec, s1, rule', hcreated, rfl, ?_⟩
  rw [decision_kept (getOrCreateRiskRule_kept hcreated).1]
  exact hdecision

lemma riskRule_locked :
    (getOrCreateRiskRule (locked s) k a).map Prod.snd = (getOrCreateRiskRule s k a).map Prod.snd := by
  simp only [getOrCreateRiskRule, locked]
  cases s.riskRules.latest fun rule => rule.account = k with
  | some found => rfl
  | none =>
    obtain ⟨size, hsize⟩ := Option.isSome_iff_exists.mp (@riskDefaults_fit a (s.terms k).tier)
    obtain ⟨exposure, hexposure⟩ := Option.isSome_iff_exists.mp (exposure_fits a.balance)
    dsimp only
    rw [hsize, hexposure]
    rfl

lemma admitted_locked : Admitted (locked s) m a x ↔ Admitted s m a x := by
  simp only [Admitted, riskRule_locked]
  exact Iff.rfl

end Examining

section Settling

variable {c : Circumstances} {s s' : Broker} {m : Moment} {a : TradingAccount} {po : PendingOrder} {order : ℕ}
  {price spread : ℚ} {desk : Desk} {t : Trigger} {result : TriggerResult} {code : Option RejectCode}

lemma settleTrigger_ok (h : executeTrigger s.toDesk t = .ok (desk, result)) :
    ∃ s', settleTrigger s po t = .ok (s', result) ∧ Kept s s' desk := by
  rw [settleTrigger, h]
  cases result <;> exact ⟨_, rfl, rfl, rfl, rfl, rfl, fun _ _ hrow => hrow⟩

lemma settleTrigger_returns : Returns (settleTrigger s po t) ↔ Returns (executeTrigger s.toDesk t) := by
  constructor
  · intro h
    rw [settleTrigger, returns_bind] at h
    obtain ⟨executed, hok, -⟩ := h
    exact ⟨executed, mapError_eq_ok.mp hok⟩
  · rintro ⟨⟨desk, result⟩, hok⟩
    obtain ⟨s', hsettled, -⟩ := @settleTrigger_ok s po desk t result hok
    exact ⟨_, hsettled⟩

lemma executeTrigger_due {d : Desk} (hrow : d.orders.get t.order = some po) (hpending : po.status = .pending)
    (hdue : t.due = true) : executeTrigger d t = .ok (withStatus d t.order .expired, .expired) := by
  rw [executeTrigger, Writers.triggerPendingOrderCore, hrow]
  dsimp only
  rw [if_neg (not_not.mpr hpending), if_pos hdue]
  rfl

lemma executeTrigger_refused {d : Desk} (hrow : d.orders.get t.order = some po) (hpending : po.status = .pending)
    (hearly : t.due = false) (hrefused : t.refusedAtPrice.isSome ∨ d.accounts.get po.account = none) :
    ∃ code, executeTrigger d t = .ok (withStatus d t.order .rejected, .rejected code) := by
  rw [executeTrigger, Writers.triggerPendingOrderCore, hrow]
  dsimp only
  rw [if_neg (not_not.mpr hpending), if_neg (by simp [hearly])]
  cases hprice : t.refusedAtPrice with
  | some code => exact ⟨code, rfl⟩
  | none =>
    rw [hprice] at hrefused
    have hmissing := hrefused.resolve_left (by simp)
    exact ⟨"account_not_found", by rw [hmissing]; rfl⟩

lemma executeTrigger_limited {d : Desk} {text : String} (hrow : d.orders.get t.order = some po)
    (hpending : po.status = .pending) (hearly : t.due = false) (hprice : t.refusedAtPrice = none)
    (ha : d.accounts.get po.account = some a) (hspread : t.spread = .ok spread)
    (hlimits : t.refusedByLimits = some text) :
    executeTrigger d t = .ok (withStatus d t.order .rejected, .rejected text) := by
  rw [executeTrigger, Writers.triggerPendingOrderCore, hrow]
  dsimp only
  rw [if_neg (not_not.mpr hpending), if_neg (by simp [hearly]), hprice, ha, hlimits, hspread]
  rfl

lemma spread_returns : Returns (c.opening s po order price).spread ↔ (c.spreadFeeEnabled = true →
    Chargeable (c.fields po.account) (stored c.configs po.symbol) po.symbol (python.float po.qty.value)) := by
  rw [← spreadCharge_returns]
  change Returns (if c.spreadFeeEnabled then
    require (c.spreadCharge python po).toOption TradeError.pendingSpreadUnavailable else pure 0) ↔ _
  split
  · next henabled =>
    rw [returns_require]
    change ((c.spreadCharge python po).toOption).isSome ↔ (_ → Returns (c.spreadCharge python po))
    cases c.spreadCharge python po with
    | error e => simp [Returns, Except.toOption, henabled]
    | ok charge => simp [returns_ok, Except.toOption]
  · next hdisabled => simp [returns_pure, hdisabled]

lemma spread_nonneg (h : (c.opening s po order price).spread = .ok spread) : 0 ≤ spread := by
  change (if c.spreadFeeEnabled then
    require (c.spreadCharge python po).toOption TradeError.pendingSpreadUnavailable else pure 0) = .ok spread at h
  split at h
  · rw [require_eq_ok] at h
    cases hcharge : c.spreadCharge python po with
    | error e =>
      rw [hcharge] at h
      cases h
    | ok charge =>
      rw [hcharge] at h
      cases h
      exact spreadCharge_nonneg hcharge
  · exact (pure_eq_ok.mp h).le

lemma core_refused (hrow : s.orders.get order = some po)
    (h : c.due order = true ∨ ((c.trigger python po order price).refusal po).isSome) :
    triggerPendingOrderCore python c s m order price =
      settleTrigger s po (c.onFloor s po order price ((c.trigger python po order price).refusal po) none) := by
  rw [triggerPendingOrderCore, hrow]
  dsimp only
  rw [Openings.triggerPendingOrderCore]
  change (match s.orders.get order with | none => _ | some po => _) = _
  rw [hrow]
  exact if_pos (Or.inr h)

lemma core_accepted (hrow : s.orders.get order = some po) (hpending : po.status = .pending)
    (h : ¬ (c.due order = true ∨ ((c.trigger python po order price).refusal po).isSome)) :
    triggerPendingOrderCore python c s m order price = (match s.accounts.get po.account with
      | none => settleTrigger (locked s) po (c.opening s po order price)
      | some a => do
        let _ ← ((c.opening s po order price).spread).mapError .trade
        let (s1, code) ← examine python (locked s) m a
          ((c.trigger python po order price).candidate python po (s.terms po.account).nettingMode)
        settleTrigger s1 po (c.onFloor s po order price none code)) := by
  rw [triggerPendingOrderCore, hrow]
  dsimp only
  rw [Openings.triggerPendingOrderCore]
  change (match s.orders.get order with | none => _ | some po => _) = _
  rw [hrow]
  exact if_neg (fun hcase => h (hcase.resolve_left (not_not.mpr hpending)))

lemma refused_settles (hrow : s.orders.get order = some po) (hpending : po.status = .pending)
    (h : c.due order = true ∨ ((c.trigger python po order price).refusal po).isSome) :
    ∃ s' result, triggerPendingOrderCore python c s m order price = .ok (s', result) ∧
      Settled s s' (c.opening s po order price) po result := by
  rw [core_refused hrow h]
  generalize ht : c.onFloor s po order price ((c.trigger python po order price).refusal po) none = t
  have horder : t.order = order := ht ▸ rfl
  have hdue : t.due = c.due order := ht ▸ rfl
  have hprice : t.refusedAtPrice = (c.trigger python po order price).refusal po := ht ▸ rfl
  subst horder
  cases hexpired : t.due with
  | true =>
    obtain ⟨s', hok, hkept⟩ := @settleTrigger_ok s po _ _ _ (executeTrigger_due hrow hpending hexpired)
    exact ⟨s', _, hok, .expired hkept⟩
  | false =>
    rw [← hdue, hexpired, ← hprice] at h
    obtain ⟨code, hexecute⟩ :=
      executeTrigger_refused hrow hpending hexpired (Or.inl (h.resolve_left Bool.false_ne_true))
    obtain ⟨s', hok, hkept⟩ := @settleTrigger_ok s po _ _ _ hexecute
    exact ⟨s', _, hok, .rejected hkept⟩

lemma missing_settles (hrow : s.orders.get order = some po) (hpending : po.status = .pending)
    (h : ¬ (c.due order = true ∨ ((c.trigger python po order price).refusal po).isSome))
    (ha : s.accounts.get po.account = none) :
    ∃ s' result, triggerPendingOrderCore python c s m order price = .ok (s', result) ∧
      Settled s s' (c.opening s po order price) po result := by
  rw [core_accepted hrow hpending h, ha]
  have hearly : (c.opening s po order price).due = false :=
    Bool.eq_false_of_not_eq_true fun hdue => h (Or.inl hdue)
  obtain ⟨code, hexecute⟩ := executeTrigger_refused (d := (locked s).toDesk) (t := c.opening s po order price) hrow
    hpending hearly (Or.inr ha)
  obtain ⟨s', hok, hkept⟩ := @settleTrigger_ok (locked s) po _ _ _ hexecute
  exact ⟨s', _, hok, .rejected hkept.unlocked⟩

lemma triggers_of_accepted {s1 : Broker} (hrow : s.orders.get order = some po) (hpending : po.status = .pending)
    (h : ¬ (c.due order = true ∨ ((c.trigger python po order price).refusal po).isSome))
    (ha : s.accounts.get po.account = some a) (hkept : Kept s s1 s.toDesk) :
    Triggers s1.toFloor (c.opening s po order price) po ∧ s1.accounts.get po.account = some a := by
  have horders : s1.orders = s.orders := congrArg (fun d => d.orders) hkept.desk
  have haccounts : s1.accounts = s.accounts := congrArg (fun d => d.accounts) hkept.desk
  have hearly : (c.opening s po order price).due = false :=
    Bool.eq_false_of_not_eq_true fun hdue => h (Or.inl hdue)
  refine ⟨⟨?_, hpending, hearly, rfl, ?_, rfl⟩, haccounts ▸ ha⟩
  · rw [horders]
    exact hrow
  · rw [haccounts, ha]
    rfl

lemma executable_settles (hrow : s.orders.get order = some po) (hpending : po.status = .pending)
    (h : ¬ (c.due order = true ∨ ((c.trigger python po order price).refusal po).isSome))
    (ha : s.accounts.get po.account = some a) (hexecutable : Executable c s m order po price a) :
    ∃ s' result, triggerPendingOrderCore python c s m order price = .ok (s', result) ∧
      Settled s s' (c.opening s po order price) po result := by
  rw [core_accepted hrow hpending h, ha]
  obtain ⟨spread, hspread⟩ := spread_returns.mpr hexecutable.charged
  obtain ⟨⟨s1, code⟩, hexamine⟩ : Returns (examine python (locked s) m a
      ((c.trigger python po order price).candidate python po (s.terms po.account).nettingMode)) :=
    examine_returns.mpr ⟨hexecutable.registered, hexecutable.listed⟩
  have hkept : Kept s s1 s.toDesk := (examine_kept hexamine).unlocked
  obtain ⟨htriggers, ha1⟩ := @triggers_of_accepted c s a po order price s1 hrow hpending h ha hkept
  dsimp only
  rw [hspread, hexamine]
  cases code with
  | some code =>
    have hlimited := executeTrigger_limited (d := s1.toDesk) (t := c.onFloor s po order price none (some code))
      htriggers.row hpending htriggers.early rfl ha1 hspread rfl
    obtain ⟨s', hok, hafter⟩ := @settleTrigger_ok s1 po _ _ _ hlimited
    exact ⟨s', _, hok, .rejected (hkept.trans (fun desk => withStatus desk order .rejected) hafter)⟩
  | none =>
    have hadmitted := examine_admitted hexamine
    have hwritable := hexecutable.written (admitted_locked.mp hadmitted) spread hspread
    have hfloor : s1.toFloor = s.toFloor := congrArg Desk.toFloor hkept.desk
    obtain ⟨⟨desk, result⟩, hexecute⟩ :=
      (executeTrigger_returns htriggers ha1 hspread (spread_nonneg hspread)).mpr (hfloor ▸ hwritable)
    obtain ⟨s', hok, hafter⟩ := @settleTrigger_ok s1 po _ _ _ hexecute
    obtain ⟨position, merged, rfl, heffects⟩ := executeTrigger_effects htriggers ha1 hexecute
    refine ⟨s', _, hok, .triggered ha ?_ (hkept.trans (fun _ => desk) hafter)⟩
    rw [← hkept.desk]
    exact heffects

lemma settled_executable (hrow : s.orders.get order = some po) (hpending : po.status = .pending)
    (h : ¬ (c.due order = true ∨ ((c.trigger python po order price).refusal po).isSome))
    (ha : s.accounts.get po.account = some a) (hok : Returns (triggerPendingOrderCore python c s m order price)) :
    Executable c s m order po price a := by
  rw [core_accepted hrow hpending h, ha] at hok
  dsimp only at hok
  obtain ⟨spread, hspread, hok⟩ := returns_bind.mp hok
  obtain ⟨⟨s1, code⟩, hexamine, hok⟩ := returns_bind.mp hok
  have hspread' := mapError_eq_ok.mp hspread
  obtain ⟨hheld, hordered⟩ := examine_returns.mp ⟨_, hexamine⟩
  refine ⟨spread_returns.mp ⟨_, hspread'⟩, hheld, hordered, fun hadmitted spread1 hspread1 => ?_⟩
  cases hspread'.symm.trans hspread1
  obtain ⟨s2, hexamine2⟩ := admitted_examine (admitted_locked.mpr hadmitted)
  cases hexamine.symm.trans hexamine2
  have hkept : Kept s s1 s.toDesk := (examine_kept hexamine).unlocked
  obtain ⟨htriggers, ha1⟩ := @triggers_of_accepted c s a po order price s1 hrow hpending h ha hkept
  have hfloor : s1.toFloor = s.toFloor := congrArg Desk.toFloor hkept.desk
  have hwritable := (executeTrigger_returns htriggers ha1 hspread' (spread_nonneg hspread')).mp
    (settleTrigger_returns.mp hok)
  exact hfloor ▸ hwritable

lemma returned_settles (hrow : s.orders.get order = some po) (hpending : po.status = .pending)
    (hok : Returns (triggerPendingOrderCore python c s m order price)) : Settles c s m order po price := by
  by_cases h : c.due order = true ∨ ((c.trigger python po order price).refusal po).isSome
  · exact h.elim Or.inl fun hrefused => Or.inr (Or.inl hrefused)
  · exact Or.inr (Or.inr fun a ha => settled_executable hrow hpending h ha hok)

lemma settles_settled (hrow : s.orders.get order = some po) (hpending : po.status = .pending)
    (h : Settles c s m order po price) :
    ∃ s' result, triggerPendingOrderCore python c s m order price = .ok (s', result) ∧
      Settled s s' (c.opening s po order price) po result := by
  by_cases hrefused : c.due order = true ∨ ((c.trigger python po order price).refusal po).isSome
  · exact refused_settles hrow hpending hrefused
  · cases ha : s.accounts.get po.account with
    | none => exact missing_settles hrow hpending hrefused ha
    | some a =>
      obtain hdue | hprice | hexecutable := h
      · exact (hrefused (Or.inl hdue)).elim
      · exact (hrefused (Or.inr hprice)).elim
      · exact executable_settles hrow hpending hrefused ha (hexecutable a ha)

end Settling

/-- A trigger that settles its order does so whole, and one that does not raises and leaves the order as it was. -/
theorem trigger_settles_iff {s : Broker} {order : ℕ} {po : PendingOrder} (hrow : s.orders.get order = some po)
    (hpending : po.status = .pending) (c : Circumstances) (m : Moment) (price : ℚ) :
    ((∃ s' result, triggerPendingOrderCore python c s m order price = .ok (s', result) ∧
      Settled s s' (c.opening s po order price) po result) ↔ Settles c s m order po price) ∧
      (¬ Settles c s m order po price → ∃ e, triggerPendingOrderCore python c s m order price = .error e ∧
        checkPendingTrigger python c s m order price = s) := by
  refine ⟨⟨?_, settles_settled hrow hpending⟩, fun hraises => ?_⟩
  · rintro ⟨s', result, hok, -⟩
    exact returned_settles hrow hpending ⟨_, hok⟩
  · rw [checkPendingTrigger]
    cases hcore : triggerPendingOrderCore python c s m order price with
    | ok executed => exact (hraises (returned_settles hrow hpending ⟨executed, hcore⟩)).elim
    | error e => exact ⟨e, rfl, rfl⟩

section Counterexample

def raised {α : Type} : Except OpenError α → Option OpenError
  | .ok _ => none
  | .error e => some e

lemma error_of_raised {α : Type} {x : Except OpenError α} {e : OpenError} (h : raised x = some e) : x = .error e := by
  cases x with
  | ok a => cases h
  | error e' => exact congrArg Except.error (Option.some.inj h)

/-- The fee of pending orders is enabled, and the only configuration is one for euros. -/
def feeEnabled (config : BrokerSpreadConfig) : Circumstances where
  spreadFeeEnabled := true
  configs := fun symbol => if symbol = "EUR/USD" then some config else none
  cache := emptyCache
  fields _ := challengeFields none
  now := 0
  expiresAt _ := none
  sl _ := none
  tp _ := none

def unlimited : Moment := { oneLot with settings := {} }

/-- An order of two lots, of an account that can carry it. -/
def carried : Broker := twoBooks 10000000 (dollars 100 none)

def euroOrder : PendingOrder := ⟨0, "EUR/USD", .buy, .ofUnits 2000000, .pending⟩

theorem trigger_settles_static :
    (∃ s' result, triggerPendingOrderCore python (feeEnabled euroConfig) carried unlimited 0 (11 / 10) =
      .ok (s', result) ∧
      Settled carried s' ((feeEnabled euroConfig).opening carried euroOrder 0 (11 / 10)) euroOrder result) ∧
      (triggerPendingOrderCore python (feeEnabled euroConfig) carried unlimited 0 (11 / 10)).map Prod.snd =
        .ok (.triggered 1 false) := by
  refine ⟨(trigger_settles_iff rfl rfl _ _ _).1.mpr (Or.inr (Or.inr fun a ha => ?_)), by decide +kernel⟩
  have hspread : ((feeEnabled euroConfig).opening carried euroOrder 0 (11 / 10)).spread = .ok 30 := by decide +kernel
  cases ha
  refine ⟨fun _ => spreadCharge_returns.mp ⟨30, by decide +kernel⟩, by decide +kernel, by decide +kernel,
    fun _ spread hok => ?_⟩
  cases hspread.symm.trans hok
  refine ⟨by decide +kernel, fun _ id existing hfirst => ?_, by decide +kernel⟩
  have hnone : carried.positions.first (mergesWith euroOrder.account
      (((feeEnabled euroConfig).opening carried euroOrder 0 (11 / 10)).fill euroOrder)) = none := by decide +kernel
  cases hnone.symm.trans hfirst

/-- Where the configuration is dynamic the trigger raises, and the order is pending after any number of ticks. -/
theorem dynamic_stays_pending : carried.orders.get 0 = some euroOrder ∧
    triggerPendingOrderCore python (feeEnabled { euroConfig with isDynamic := true }) carried unlimited 0 (11 / 10) =
      .error (.trade .pendingSpreadUnavailable) ∧
    ∀ n, ((fun s => checkPendingTrigger python (feeEnabled { euroConfig with isDynamic := true }) s unlimited 0
      (11 / 10))^[n] carried).orders.get 0 = some euroOrder := by
  have hraised : triggerPendingOrderCore python (feeEnabled { euroConfig with isDynamic := true }) carried unlimited 0
      (11 / 10) = .error (.trade .pendingSpreadUnavailable) := error_of_raised (by decide +kernel)
  refine ⟨rfl, hraised, fun n => ?_⟩
  have hsame : checkPendingTrigger python (feeEnabled { euroConfig with isDynamic := true }) carried unlimited 0
      (11 / 10) = carried := by
    rw [checkPendingTrigger, hraised]
    rfl
  rw [Function.iterate_fixed hsame]
  rfl

end Counterexample

end TrxSimulator.Trading.Settlement
