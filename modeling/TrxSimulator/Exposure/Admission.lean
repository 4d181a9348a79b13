import TrxSimulator.Exposure.Limits

/-! The check of a new order against the limits of the whole broker, over the rows as they are stored at that moment,
whatever their sizes and prices. -/

namespace TrxSimulator.Exposure.Admission

open Foundations.Tables Foundations.Decimals
open Market.Pnl Trading.Writers Aggregation Limits

structure Holdings where
  holder : ℕ → Option Holder
  positions : Table (Option Position)
  decisions : List DealingDeskDecision

def Holdings.openPositions (h : Holdings) : List OpenPosition :=
  h.positions.rows.filterMap fun (id, row) => do
    let p ← row
    let holder ← h.holder p.account
    pure { toPosition := p, id, holder }

def Holdings.counted (h : Holdings) (q : Query) : List OpenPosition := h.openPositions.filter q.admits

def holdings (b : Book) : Holdings := ⟨b.accounts.get, b.positions, b.decisions⟩

variable (r : Arithmetic)

section Decision

def exposure (feed : Feed) (positions : List OpenPosition) : BrokerExposureBreakdown :=
  let t := totals r feed positions
  { openPositionCount := positions.length
    longQuantity := t.longQuantity
    shortQuantity := t.shortQuantity
    grossQuantity := r.decimal (t.longQuantity + t.shortQuantity)
    netQuantity := r.decimal (t.longQuantity - t.shortQuantity)
    longNotional := t.longNotional
    shortNotional := t.shortNotional
    grossNotional := r.decimal (t.longNotional + t.shortNotional)
    netNotional := r.decimal (t.longNotional - t.shortNotional)
    traderUnrealizedPnl := t.traderUnrealizedPnl
    brokerUnrealizedCounterpartyPnl := r.decimal (-t.traderUnrealizedPnl)
    marginUsed := t.marginUsed
    pricedPositionCount := t.pricedPositionCount
    unpricedPositionCount := t.unpricedPositionCount
    pricingCoveragePct := pricingCoveragePct r t.pricedPositionCount positions.length
    byAccount := positions.foldl (addToAccount r feed) fun _ => none }

def excludedIds (s : Settings) (h : Holdings) : List ℕ :=
  (h.decisions.filter fun d => d.isSimulatedHedge ∧ ∃ i ∈ d.routedAccount, i ∈ s.dealingDeskExposureAccountIds).filterMap
    DealingDeskDecision.position

def ofSymbol (o : Order) : Query := { symbol := some o.symbol, riskScope := riskScopeForAccountType o.accountType }

def ofAccount (o : Order) : Query := { accountId := some o.accountId, riskScope := riskScopeForAccountType o.accountType }

def evaluatedQuery (s : Settings) (h : Holdings) (o : Order) : Query :=
  if shouldUseDealingDeskAdjustedExposure s o.accountId then
    { excludePositionIds := excludedIds s h, riskScope := riskScopeForAccountType o.accountType }
  else { riskScope := riskScopeForAccountType o.accountType }

def evaluated (s : Settings) (h : Holdings) (o : Order) : List OpenPosition := h.counted (evaluatedQuery s h o)

/-- An account or an instrument that does not exist leaves the margin open. -/
def marginAfter (h : Holdings) (feed : Feed) (o : Order) : Option ℚ := do
  let price ← o.price
  let contractSize ← o.contractSize
  let holder ← h.holder o.accountId
  let spec ← Market.Symbols.getSpec o.symbol
  let lev := max 1 (min (accountLeverage holder.leverage) spec.maxLeverage)
  let value := r.decimal (r.decimal (price.toDecimal r * o.qty.toDecimal r) * contractSize.toDecimal r)
  pure (r.decimal ((exposure r feed (h.counted (ofAccount o))).marginUsed + r.decimal (|value| / lev)))

def riskChecks (s : Settings) (h : Holdings) (feed : Feed) (o : Order) : List RiskCheckResult :=
  let qty := o.qty.toDecimal r
  let symbolLots := (exposure r feed (h.counted (ofSymbol o))).grossQuantity
  let accountLots := (exposure r feed (h.counted (ofAccount o))).grossQuantity
  let book := exposure r feed (evaluated s h o)
  [check s .maxSymbolExposure (r.decimal (symbolLots + qty)) (some symbolLots) (some qty)] ++
    [check s .maxAccountExposure (r.decimal (accountLots + qty)) (some accountLots) (some qty)] ++
    validateTotalLimit r s o.side qty book o.price o.contractSize ++ validatePositionLimit s qty book

def validateNewOrder (s : Settings) (h : Holdings) (feed : Feed) (o : Order) : RiskLimitDecision :=
  let book := exposure r feed (evaluated s h o)
  concluded (riskChecks r s h feed o) (pricingIncomplete o.price o.contractSize book) (marginAfter r h feed o)
    (r.decimal (book.grossQuantity + o.qty.toDecimal r))

end Decision

section Books

variable (s : Settings) (b : Book) (feed : Feed) (o : Order)

lemma evaluated_holdings : exposure r feed (evaluated s (holdings b) o) =
    resolveBrokerExposureForValidation r s b feed o.accountId (riskScopeForAccountType o.accountType) := by
  rw [resolve_eq]
  rfl

/-- On a book whose rows all have a size and a price it is the check of the limits. -/
theorem validateNewOrder_holdings : validateNewOrder r s (holdings b) feed o = Limits.validateNewOrder r s b feed o := by
  rw [validateNewOrder, Limits.validateNewOrder, riskChecks, evaluated_holdings]
  rfl

end Books

/-- What each limit is about, once the order is added to the positions that the limit counts. -/
def projected (s : Settings) (h : Holdings) (feed : Feed) (o : Order) : Rule → Option ℚ
  | .maxSymbolExposure => some (r.decimal (grossLots r (h.counted (ofSymbol o)) + o.qty.toDecimal r))
  | .maxAccountExposure => some (r.decimal (grossLots r (h.counted (ofAccount o)) + o.qty.toDecimal r))
  | .maxTotalBrokerExposure => some (r.decimal (grossLots r (evaluated s h o) + o.qty.toDecimal r))
  | .maxLongExposure => some (r.decimal (lots r .buy (evaluated s h o) + onSide o.side .buy (o.qty.toDecimal r)))
  | .maxShortExposure => some (r.decimal (lots r .sell (evaluated s h o) + onSide o.side .sell (o.qty.toDecimal r)))
  | .maxGrossNotional => (orderNotional r o).map fun requested =>
    r.decimal (r.decimal (notionals r feed .buy (evaluated s h o) + notionals r feed .sell (evaluated s h o)) + requested)
  | .maxNetNotional => (orderNotional r o).map fun requested =>
    |r.decimal (r.decimal (notionals r feed .buy (evaluated s h o) - notionals r feed .sell (evaluated s h o)) +
      signedQuantity r o.side requested)|
  | .maxPositionSize => some (o.qty.toDecimal r)
  | .maxOpenPositionsBrokerWide => some ((evaluated s h o).length + 1 : ℕ)

def WithinLimits (s : Settings) (h : Holdings) (feed : Feed) (o : Order) : Prop :=
  ∀ rule, ∃ total, projected r s h feed o rule = some total ∧ total ≤ s.limit rule

section Allowed

variable {r} {s : Settings} {h : Holdings} {feed : Feed} {o : Order}

lemma complete_of_allowed (hallowed : (validateNewOrder r s h feed o).allowed = true) :
    pricingIncomplete o.price o.contractSize (exposure r feed (evaluated s h o)) = false := by
  rw [validateNewOrder, concluded_allowed] at hallowed
  by_contra hincomplete
  rw [Bool.not_eq_false] at hincomplete
  have hfails : ∃ c ∈ riskChecks r s h feed o, c.status = .fail := by
    rw [riskChecks, validateTotalLimit, if_pos hincomplete]
    exact ⟨_, List.mem_append_left _ (List.mem_append_right _ (List.mem_append_right _ List.mem_cons_self)), rfl⟩
  obtain ⟨c, hc, hfail⟩ := hfails
  exact hallowed c hc hfail

lemma withinLimits_of_allowed (hallowed : (validateNewOrder r s h feed o).allowed = true) :
    WithinLimits r s h feed o := by
  have hcomplete := complete_of_allowed hallowed
  obtain ⟨requested, hrequested⟩ : ∃ requested, orderNotional r o = some requested := by
    rw [pricingIncomplete] at hcomplete
    cases hprice : o.price with
    | none => simp [hprice] at hcomplete
    | some price =>
      cases hsize : o.contractSize with
      | none => simp [hsize] at hcomplete
      | some contractSize => exact ⟨_, by rw [orderNotional, requestedNotional, hprice, hsize]; rfl⟩
  rw [validateNewOrder, concluded_allowed, riskChecks, validateTotalLimit, if_neg (by simp [hcomplete]), ← orderNotional,
    hrequested] at hallowed
  rw [WithinLimits, forall_rule]
  simp only [quantityChecks, notionalChecks, validatePositionLimit, Option.elim_some, List.forall_mem_append,
    List.forall_mem_cons, List.not_mem_nil, false_imp_iff, implies_true, and_true, check_passes, exposure,
    totals_eq] at hallowed
  simp only [projected, hrequested, Option.map_some, Option.some.injEq, exists_eq_left', grossLots]
  exact ⟨⟨hallowed.1.1.1, hallowed.1.1.2⟩, hallowed.1.2, hallowed.2⟩

end Allowed

end TrxSimulator.Exposure.Admission
