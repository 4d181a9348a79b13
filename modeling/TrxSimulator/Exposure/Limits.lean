import TrxSimulator.Exposure.Aggregation

/-! The limits of the whole broker, and the check of a new order against them. -/

namespace TrxSimulator.Exposure.Limits

open Foundations.Tables Foundations.Decimals Money Accounts
open Market.Symbols Market.Pnl Trading.Writers Aggregation

inductive Rule
  | maxSymbolExposure | maxAccountExposure | maxTotalBrokerExposure | maxLongExposure | maxShortExposure
  | maxGrossNotional | maxNetNotional | maxPositionSize | maxOpenPositionsBrokerWide
deriving DecidableEq

structure Settings where
  maxSymbolExposureLots : ℚ := 100000
  maxAccountExposureLots : ℚ := 100000
  maxTotalBrokerExposureLots : ℚ := 1000000
  maxLongExposureLots : ℚ := 1000000
  maxShortExposureLots : ℚ := 1000000
  maxGrossNotional : ℚ := 1000000000000
  maxNetNotional : ℚ := 1000000000000
  maxPositionSizeLots : ℚ := 100000
  maxOpenPositionsBrokerWide : ℚ := 1000000
  dealingDeskExposureEnabled : Bool := false
  dealingDeskExposureAccountIds : List ℕ := []
deriving DecidableEq

def Settings.limit (s : Settings) : Rule → ℚ
  | .maxSymbolExposure => s.maxSymbolExposureLots
  | .maxAccountExposure => s.maxAccountExposureLots
  | .maxTotalBrokerExposure => s.maxTotalBrokerExposureLots
  | .maxLongExposure => s.maxLongExposureLots
  | .maxShortExposure => s.maxShortExposureLots
  | .maxGrossNotional => s.maxGrossNotional
  | .maxNetNotional => s.maxNetNotional
  | .maxPositionSize => s.maxPositionSizeLots
  | .maxOpenPositionsBrokerWide => s.maxOpenPositionsBrokerWide

inductive Status
  | pass | fail | warning
deriving DecidableEq

structure RiskCheckResult where
  rule : Rule
  status : Status
  currentValue : Option ℚ
  requestedValue : Option ℚ
  limitValue : ℚ
deriving DecidableEq

inductive ReasonCode
  | limit (rule : Rule)
  | riskPricingIncomplete
deriving DecidableEq

structure RiskLimitDecision where
  allowed : Bool
  reasonCode : Option ReasonCode
  riskChecks : List RiskCheckResult
  blockedLimit : Option Rule := none
  currentValue : Option ℚ := none
  requestedValue : Option ℚ := none
  limitValue : Option ℚ := none
  marginAfter : Option ℚ
  exposureAfter : ℚ
deriving DecidableEq

/-- A number that a caller hands over: a decimal stays itself, anything else is read as it is written. -/
inductive Number
  | decimal (x : ℚ)
  | float (x : ℚ)
deriving DecidableEq

structure Order where
  accountId : ℕ
  symbol : String
  side : Side
  qty : Number
  price : Option Number
  contractSize : Option Number
  accountType : Option AccountType
deriving DecidableEq

variable (r : Arithmetic)

def Number.toDecimal : Number → ℚ
  | .decimal x => x
  | .float x => r.str x

section Validators

def check (s : Settings) (rule : Rule) (projected : ℚ) (current requested : Option ℚ) : RiskCheckResult where
  rule := rule
  status := if s.limit rule < projected then .fail else .pass
  currentValue := current
  requestedValue := requested
  limitValue := s.limit rule

def validateSymbolLimit (s : Settings) (b : Book) (feed : Feed) (symbol : String) (requestedQty : ℚ)
    (riskScope : Option RiskScope) : List RiskCheckResult :=
  let current := (brokerExposureForSymbol r b feed symbol riskScope).grossQuantity
  [check s .maxSymbolExposure (r.decimal (current + requestedQty)) (some current) (some requestedQty)]

def validateAccountLimit (s : Settings) (b : Book) (feed : Feed) (accountId : ℕ) (requestedQty : ℚ)
    (riskScope : Option RiskScope) : List RiskCheckResult :=
  let current := (brokerExposureForAccount r b feed accountId riskScope).grossQuantity
  [check s .maxAccountExposure (r.decimal (current + requestedQty)) (some current) (some requestedQty)]

def pricingIncomplete (price contractSize : Option Number) (book : BrokerExposureBreakdown) : Bool :=
  price.isNone || contractSize.isNone || decide (book.pricingCoveragePct < 100)

def onSide (side counted : Side) (qty : ℚ) : ℚ := if side = counted then qty else 0

def quantityChecks (s : Settings) (side : Side) (requestedQty : ℚ) (book : BrokerExposureBreakdown) :
    List RiskCheckResult :=
  [check s .maxTotalBrokerExposure (r.decimal (book.grossQuantity + requestedQty)) (some book.grossQuantity)
      (some requestedQty),
    check s .maxLongExposure (r.decimal (book.longQuantity + onSide side .buy requestedQty)) (some book.longQuantity)
      (some requestedQty),
    check s .maxShortExposure (r.decimal (book.shortQuantity + onSide side .sell requestedQty))
      (some book.shortQuantity) (some requestedQty)]

/-- Without a complete pricing both checks of money fail. -/
def unverified (s : Settings) (book : BrokerExposureBreakdown) : List RiskCheckResult :=
  [{ rule := .maxGrossNotional, status := .fail, currentValue := some book.grossNotional, requestedValue := none
     limitValue := s.maxGrossNotional },
    { rule := .maxNetNotional, status := .fail, currentValue := some book.netNotional, requestedValue := none
      limitValue := s.maxNetNotional }]

def requestedNotional (requestedQty : ℚ) (price contractSize : Option Number) : Option ℚ := do
  let price ← price
  let contractSize ← contractSize
  pure (r.decimal (r.decimal (requestedQty * price.toDecimal r) * contractSize.toDecimal r))

def notionalChecks (s : Settings) (side : Side) (requestedNotional : ℚ) (book : BrokerExposureBreakdown) :
    List RiskCheckResult :=
  let signed := signedQuantity r side requestedNotional
  [check s .maxGrossNotional (r.decimal (book.grossNotional + requestedNotional)) (some book.grossNotional)
      (some requestedNotional),
    check s .maxNetNotional |r.decimal (book.netNotional + signed)| (some book.netNotional) (some signed)]

def validateTotalLimit (s : Settings) (side : Side) (requestedQty : ℚ) (book : BrokerExposureBreakdown)
    (price contractSize : Option Number) : List RiskCheckResult :=
  quantityChecks r s side requestedQty book ++
    if pricingIncomplete price contractSize book then unverified s book
    else
      (requestedNotional r requestedQty price contractSize).elim [] fun requested => notionalChecks r s side requested book

def validatePositionLimit (s : Settings) (requestedQty : ℚ) (book : BrokerExposureBreakdown) : List RiskCheckResult :=
  [check s .maxPositionSize requestedQty none (some requestedQty),
    check s .maxOpenPositionsBrokerWide (book.openPositionCount + 1 : ℕ) (some book.openPositionCount) (some 1)]

end Validators

section Decision

def shouldUseDealingDeskAdjustedExposure (s : Settings) (accountId : ℕ) : Bool :=
  s.dealingDeskExposureEnabled && decide (accountId ∈ s.dealingDeskExposureAccountIds)

def excludedIds (s : Settings) (b : Book) : List ℕ :=
  (b.decisions.filter fun d => d.isSimulatedHedge ∧ ∃ i ∈ d.routedAccount, i ∈ s.dealingDeskExposureAccountIds).filterMap
    DealingDeskDecision.position

def resolveBrokerExposureForValidation (s : Settings) (b : Book) (feed : Feed) (accountId : ℕ)
    (riskScope : Option RiskScope) : BrokerExposureBreakdown :=
  if shouldUseDealingDeskAdjustedExposure s accountId then
    calculateBrokerExposure r b feed { excludePositionIds := excludedIds s b, riskScope }
  else brokerExposureSnapshot r b feed riskScope

def riskScopeForAccountType : Option AccountType → Option RiskScope
  | some accountType => if accountType ∈ realMoneyAccountTypes then some .real else none
  | none => none

/-- An account or an instrument that does not exist leaves the margin open. -/
def marginAfter (b : Book) (feed : Feed) (o : Order) (riskScope : Option RiskScope) : Option ℚ := do
  let price ← o.price
  let contractSize ← o.contractSize
  let holder ← b.accounts.get o.accountId
  let spec ← getSpec o.symbol
  let lev := max 1 (min (accountLeverage holder.leverage) spec.maxLeverage)
  let value := r.decimal (r.decimal (price.toDecimal r * o.qty.toDecimal r) * contractSize.toDecimal r)
  pure (r.decimal ((brokerExposureForAccount r b feed o.accountId riskScope).marginUsed + r.decimal (|value| / lev)))

def concluded (checks : List RiskCheckResult) (incomplete : Bool) (marginAfter : Option ℚ) (exposureAfter : ℚ) :
    RiskLimitDecision :=
  match checks.filter fun c => c.status = .fail with
  | [] => { allowed := true, reasonCode := none, riskChecks := checks, marginAfter, exposureAfter }
  | failure :: failures =>
    let pricingFailure := (failure :: failures).find? fun c =>
      incomplete && decide (c.rule = .maxGrossNotional ∨ c.rule = .maxNetNotional)
    let first := pricingFailure.getD failure
    { allowed := false
      reasonCode := some (if pricingFailure.isSome then .riskPricingIncomplete else .limit first.rule)
      riskChecks := checks
      blockedLimit := some first.rule
      currentValue := first.currentValue
      requestedValue := first.requestedValue
      limitValue := some first.limitValue
      marginAfter
      exposureAfter }

def riskChecks (s : Settings) (b : Book) (feed : Feed) (o : Order) : List RiskCheckResult :=
  let qty := o.qty.toDecimal r
  let riskScope := riskScopeForAccountType o.accountType
  let book := resolveBrokerExposureForValidation r s b feed o.accountId riskScope
  validateSymbolLimit r s b feed o.symbol qty riskScope ++ validateAccountLimit r s b feed o.accountId qty riskScope ++
    validateTotalLimit r s o.side qty book o.price o.contractSize ++ validatePositionLimit s qty book

def validateNewOrder (s : Settings) (b : Book) (feed : Feed) (o : Order) : RiskLimitDecision :=
  let riskScope := riskScopeForAccountType o.accountType
  let book := resolveBrokerExposureForValidation r s b feed o.accountId riskScope
  concluded (riskChecks r s b feed o) (pricingIncomplete o.price o.contractSize book)
    (marginAfter r b feed o riskScope) (r.decimal (book.grossQuantity + o.qty.toDecimal r))

end Decision

section Scope

def evaluatedQuery (s : Settings) (b : Book) (o : Order) : Query :=
  if shouldUseDealingDeskAdjustedExposure s o.accountId then
    { excludePositionIds := excludedIds s b, riskScope := riskScopeForAccountType o.accountType }
  else { riskScope := riskScopeForAccountType o.accountType }

def evaluated (s : Settings) (b : Book) (o : Order) : List OpenPosition := (evaluatedQuery s b o).positions b

def unpriced (s : Settings) (b : Book) (feed : Feed) (o : Order) : ℕ :=
  (evaluated s b o).countP fun p => (price r feed p).isNone

def Incomplete (s : Settings) (b : Book) (feed : Feed) (o : Order) : Prop :=
  (∃ p ∈ evaluated s b o, price r feed p = none) ∨ o.price = none ∨ o.contractSize = none

def grossLots (positions : List OpenPosition) : ℚ := r.decimal (lots r .buy positions + lots r .sell positions)

def orderNotional (o : Order) : Option ℚ := requestedNotional r (o.qty.toDecimal r) o.price o.contractSize

/-- What each limit is about, once the order is added to the positions that the limit counts. -/
def projected (s : Settings) (b : Book) (feed : Feed) (o : Order) : Rule → Option ℚ
  | .maxSymbolExposure =>
    let counted : Query := { symbol := some o.symbol, riskScope := riskScopeForAccountType o.accountType }
    some (r.decimal (grossLots r (counted.positions b) + o.qty.toDecimal r))
  | .maxAccountExposure =>
    let counted : Query := { accountId := some o.accountId, riskScope := riskScopeForAccountType o.accountType }
    some (r.decimal (grossLots r (counted.positions b) + o.qty.toDecimal r))
  | .maxTotalBrokerExposure => some (r.decimal (grossLots r (evaluated s b o) + o.qty.toDecimal r))
  | .maxLongExposure => some (r.decimal (lots r .buy (evaluated s b o) + onSide o.side .buy (o.qty.toDecimal r)))
  | .maxShortExposure => some (r.decimal (lots r .sell (evaluated s b o) + onSide o.side .sell (o.qty.toDecimal r)))
  | .maxGrossNotional => (orderNotional r o).map fun requested =>
    r.decimal (r.decimal (notionals r feed .buy (evaluated s b o) + notionals r feed .sell (evaluated s b o)) + requested)
  | .maxNetNotional => (orderNotional r o).map fun requested =>
    |r.decimal (r.decimal (notionals r feed .buy (evaluated s b o) - notionals r feed .sell (evaluated s b o)) +
      signedQuantity r o.side requested)|
  | .maxPositionSize => some (o.qty.toDecimal r)
  | .maxOpenPositionsBrokerWide => some ((evaluated s b o).length + 1 : ℕ)

def WithinLimits (s : Settings) (b : Book) (feed : Feed) (o : Order) : Prop :=
  ∀ rule, ∃ total, projected r s b feed o rule = some total ∧ total ≤ s.limit rule

end Scope

section Coverage

lemma coverage_lt_iff {priced positions : ℕ} (h : priced ≤ positions) (hkeys : positions ≤ 2 ^ 63) :
    pricingCoveragePct python priced positions < 100 ↔ positions < 20000 * (positions - priced) := by
  rw [pricingCoveragePct]
  split
  · next hzero => simp [hzero]
  · next hzero =>
    have hpos : (0 : ℚ) < positions := by exact_mod_cast Nat.pos_of_ne_zero hzero
    change scaled 2 (quantize 2 (percent priced positions)) < 100 ↔ _
    have hhundred : (100 : ℚ) = scaled 2 10000 := by norm_num [scaled]
    have hround : 10000 ≤ quantize 2 (percent priced positions) ↔ (99995 : ℤ) / 10 ^ 3 ≤ percent priced positions := by
      rw [quantize, le_roundHalfEven_iff]
      constructor
      · rintro (hlt | ⟨heq, -⟩) <;> norm_num at * <;> linarith
      · intro hle
        rcases hle.lt_or_eq with hlt | heq
        · exact Or.inl (by norm_num at *; linarith)
        · exact Or.inr ⟨by rw [← heq]; norm_num, by decide⟩
    rw [hhundred, scaled_lt, ← not_le, hround, not_le]
    constructor
    · intro hlt
      by_contra hfew
      have hratio : ((99995 : ℤ) : ℚ) / 10 ^ (3 + 2) ≤ priced / positions := by
        have hcast : (19999 * positions : ℚ) ≤ 20000 * priced := by exact_mod_cast (by omega)
        rw [div_le_div_iff₀ (by norm_num) hpos]
        push_cast
        linarith
      exact absurd hlt (not_lt.mpr (grid_le_percent (by norm_num [precision]) hratio))
    · intro hmany
      have hratio : (priced : ℚ) / positions ≤ ((99995 * 10 ^ 19 - 5 : ℤ) : ℚ) / 10 ^ (22 + 2) := by
        have hcast : (20000 * priced + 1 : ℚ) ≤ 19999 * positions := by exact_mod_cast (by omega)
        have hsmall : (positions : ℚ) ≤ 10 ^ 19 := by
          have hbound : positions ≤ 10 ^ 19 := hkeys.trans (by norm_num)
          exact_mod_cast hbound
        rw [div_le_div_iff₀ hpos (by norm_num)]
        push_cast
        linarith
      exact (percent_le_grid (by norm_num [precision]) hratio).trans_lt (by norm_num)

end Coverage

section Decisions

variable {r} {s : Settings} {b : Book} {feed : Feed} {o : Order} {checks : List RiskCheckResult}

lemma check_passes {rule : Rule} {value : ℚ} {current requested : Option ℚ} :
    (check s rule value current requested).status ≠ .fail ↔ value ≤ s.limit rule := by
  by_cases h : s.limit rule < value <;> simp [check, h, not_lt.mp, not_le.mpr]

lemma concluded_allowed {incomplete : Bool} {marginAfter : Option ℚ} {exposureAfter : ℚ} :
    (concluded checks incomplete marginAfter exposureAfter).allowed = true ↔ ∀ c ∈ checks, c.status ≠ .fail := by
  have hnone : checks.filter (fun c => c.status = .fail) = [] ↔ ∀ c ∈ checks, c.status ≠ .fail := by
    simp [List.filter_eq_nil_iff]
  rw [← hnone, concluded]
  split
  · next h => simp [h]
  · next h => simp [h]

lemma concluded_reason {incomplete : Bool} {marginAfter : Option ℚ} {exposureAfter : ℚ} :
    (concluded checks incomplete marginAfter exposureAfter).reasonCode = some .riskPricingIncomplete ↔
      incomplete = true ∧
        ∃ c ∈ checks, c.status = .fail ∧ (c.rule = .maxGrossNotional ∨ c.rule = .maxNetNotional) := by
  have hfound : (∃ c ∈ checks, c.status = .fail ∧ (c.rule = .maxGrossNotional ∨ c.rule = .maxNetNotional)) ↔
      ∃ c ∈ checks.filter fun c => c.status = .fail, c.rule = .maxGrossNotional ∨ c.rule = .maxNetNotional := by
    simp [and_assoc]
  rw [hfound, concluded]
  split
  · next h => simp [h]
  · next failure failures h =>
    rw [h]
    cases incomplete with
    | false => simp
    | true =>
      simp only [Bool.true_and, Option.some.injEq, ite_eq_left_iff, reduceCtorEq, imp_false, not_not, true_and,
        List.find?_isSome, decide_eq_true_eq]

lemma resolve_eq : resolveBrokerExposureForValidation r s b feed o.accountId (riskScopeForAccountType o.accountType) =
    calculateBrokerExposure r b feed (evaluatedQuery s b o) := by
  rw [resolveBrokerExposureForValidation, evaluatedQuery]
  split <;> rfl

lemma unpriced_add : (evaluated s b o).countP (fun p => (price r feed p).isSome) + unpriced r s b feed o =
    (evaluated s b o).length := by
  have hnot : (fun p => (price r feed p).isNone) = fun p => decide ¬(price r feed p).isSome = true := by
    funext p
    cases price r feed p <;> rfl
  rw [unpriced, hnot, ← List.length_eq_countP_add_countP]

lemma pricingIncomplete_iff : pricingIncomplete o.price o.contractSize
    (calculateBrokerExposure python b feed (evaluatedQuery s b o)) = true ↔
      o.price = none ∨ o.contractSize = none ∨
        (evaluated s b o).length < 20000 * unpriced python s b feed o := by
  have hadd : (evaluated s b o).countP (fun p => (price python feed p).isSome) + unpriced python s b feed o =
      (evaluated s b o).length := unpriced_add
  have hkeys : (evaluated s b o).length ≤ 2 ^ 63 := (List.length_filter_le _ _).trans (length_openPositions b)
  have hcoverage := coverage_lt_iff (Nat.le.intro hadd) hkeys
  rw [← Nat.eq_sub_of_add_eq' hadd] at hcoverage
  rw [← hcoverage, pricingIncomplete, calculateBrokerExposure, totals_eq]
  simp only [Bool.or_eq_true, Option.isNone_iff_eq_none, decide_eq_true_eq, or_assoc]
  rfl

lemma unverified_fails (h : pricingIncomplete o.price o.contractSize
    (calculateBrokerExposure r b feed (evaluatedQuery s b o)) = true) :
    ∃ c ∈ riskChecks r s b feed o, c.status = .fail ∧ (c.rule = .maxGrossNotional ∨ c.rule = .maxNetNotional) := by
  have hfails : ∃ c ∈ unverified s (calculateBrokerExposure r b feed (evaluatedQuery s b o)),
      c.status = .fail ∧ (c.rule = .maxGrossNotional ∨ c.rule = .maxNetNotional) :=
    ⟨_, List.mem_cons_self, rfl, Or.inl rfl⟩
  obtain ⟨c, hc, hfail⟩ := hfails
  refine ⟨c, ?_, hfail⟩
  rw [riskChecks, resolve_eq, validateTotalLimit, if_pos h]
  simp [hc]

lemma reason_iff : (validateNewOrder r s b feed o).reasonCode = some .riskPricingIncomplete ↔
    pricingIncomplete o.price o.contractSize (calculateBrokerExposure r b feed (evaluatedQuery s b o)) = true := by
  rw [validateNewOrder, resolve_eq, concluded_reason, and_iff_left_iff_imp]
  exact unverified_fails

lemma forall_rule {p : Rule → Prop} : (∀ rule, p rule) ↔
    (p .maxSymbolExposure ∧ p .maxAccountExposure) ∧
      ((p .maxTotalBrokerExposure ∧ p .maxLongExposure ∧ p .maxShortExposure) ∧
        p .maxGrossNotional ∧ p .maxNetNotional) ∧
      p .maxPositionSize ∧ p .maxOpenPositionsBrokerWide := by
  constructor
  · intro h
    exact ⟨⟨h _, h _⟩, ⟨⟨h _, h _, h _⟩, h _, h _⟩, h _, h _⟩
  · rintro ⟨⟨h1, h2⟩, ⟨⟨h3, h4, h5⟩, h6, h7⟩, h8, h9⟩ rule
    cases rule <;> assumption

lemma orderNotional_isSome (h : pricingIncomplete o.price o.contractSize
    (calculateBrokerExposure r b feed (evaluatedQuery s b o)) = false) :
    ∃ requested, orderNotional r o = some requested := by
  rw [pricingIncomplete] at h
  rw [orderNotional, requestedNotional]
  cases hprice : o.price with
  | none => simp [hprice] at h
  | some price =>
    cases hsize : o.contractSize with
    | none => simp [hsize] at h
    | some contractSize => exact ⟨_, rfl⟩

lemma allowed_iff : (validateNewOrder r s b feed o).allowed = true ↔
    pricingIncomplete o.price o.contractSize (calculateBrokerExposure r b feed (evaluatedQuery s b o)) = false ∧
      WithinLimits r s b feed o := by
  rw [validateNewOrder, concluded_allowed]
  cases hincomplete : pricingIncomplete o.price o.contractSize
      (calculateBrokerExposure r b feed (evaluatedQuery s b o)) with
  | true =>
    obtain ⟨c, hc, hfail, -⟩ := unverified_fails hincomplete
    simp only [reduceCtorEq, false_and, iff_false, not_forall]
    exact ⟨c, hc, not_not.mpr hfail⟩
  | false =>
    obtain ⟨requested, hrequested⟩ := orderNotional_isSome hincomplete
    rw [riskChecks, resolve_eq, WithinLimits, forall_rule, validateTotalLimit, if_neg (by simp [hincomplete]),
      ← orderNotional, hrequested]
    simp only [validateSymbolLimit, validateAccountLimit, quantityChecks, notionalChecks, validatePositionLimit,
      Option.elim_some, List.forall_mem_append, List.forall_mem_cons, List.not_mem_nil, false_imp_iff, implies_true,
      and_true, check_passes, true_and, projected, hrequested, Option.map_some, Option.some.injEq, exists_eq_left',
      and_assoc, brokerExposureForSymbol, brokerExposureForAccount, calculateBrokerExposure, totals_eq]
    rfl

end Decisions

/-- The order is complete, and the positions without a price are some, but at most one in 20000. -/
def Hidden (s : Settings) (b : Book) (feed : Feed) (o : Order) : Prop :=
  o.price.isSome ∧ o.contractSize.isSome ∧ 0 < unpriced python s b feed o ∧
    20000 * unpriced python s b feed o ≤ (evaluated s b o).length

lemma incomplete_iff {s : Settings} {b : Book} {feed : Feed} {o : Order} :
    Incomplete r s b feed o ↔ 0 < unpriced r s b feed o ∨ o.price = none ∨ o.contractSize = none := by
  rw [Incomplete, unpriced, List.countP_pos_iff]
  simp only [Option.isNone_iff_eq_none]

/-- What cannot be priced is refused as such, and what is allowed is within every limit, unless the rounding of the
coverage hides the positions without a price. -/
theorem pricing_fails_closed_iff (s : Settings) (b : Book) (feed : Feed) (o : Order) :
    ((Incomplete python s b feed o →
        (validateNewOrder python s b feed o).allowed = false ∧
          (validateNewOrder python s b feed o).reasonCode = some .riskPricingIncomplete) ∧
      ((validateNewOrder python s b feed o).allowed = true → WithinLimits python s b feed o)) ↔
      ¬ Hidden s b feed o := by
  have hwithin : (validateNewOrder python s b feed o).allowed = true → WithinLimits python s b feed o :=
    fun h => (allowed_iff.mp h).2
  have hrefused : (validateNewOrder python s b feed o).reasonCode = some .riskPricingIncomplete →
      (validateNewOrder python s b feed o).allowed = false := by
    intro h
    by_contra hallowed
    rw [Bool.not_eq_false, allowed_iff, ← Bool.not_eq_true, ← reason_iff (s := s)] at hallowed
    exact hallowed.1 h
  rw [and_iff_left hwithin, and_iff_right_of_imp hrefused, reason_iff, pricingIncomplete_iff, incomplete_iff, Hidden]
  cases o.price with
  | none => simp
  | some price =>
    cases o.contractSize with
    | none => simp
    | some contractSize =>
      simp only [reduceCtorEq, or_false, false_or, Option.isSome_some, true_and]
      omega

section Example

def onePosition (symbol : String) : Position where
  account := 0
  symbol := symbol
  side := .buy
  qty := .ofUnits 10000
  avgPrice := .ofUnits 1100000

def listed (n : ℕ) : List (Option Position) :=
  List.replicate n (some (onePosition "EUR/USD")) ++ [some (onePosition "GBP/USD")]

lemma mem_listed {n : ℕ} {p : Position} (h : some p ∈ listed n) :
    p = onePosition "EUR/USD" ∨ p = onePosition "GBP/USD" := by
  rw [listed, List.mem_append, List.mem_replicate, List.mem_singleton] at h
  simpa using h.imp_left And.right

def crowded (n : ℕ) (h : n < 2 ^ 63) : Book where
  accounts := Table.ofList [⟨.retail, 100, "USD"⟩]
  positions := Table.ofList (listed n)
  decisions := []
  keys := by
    change (listed n).length ≤ 2 ^ 63
    rw [listed, List.length_append, List.length_replicate]
    exact h
  owned i p h := by rcases mem_listed (Table.mem_of_ofList h) with rfl | rfl <;> rfl
  opened i p h := by rcases mem_listed (Table.mem_of_ofList h) with rfl | rfl <;> decide

lemma crowd_keys : 19999 < 2 ^ 63 := by decide

def stalePound : Feed where
  hasPrice symbol := symbol = "EUR/USD"
  lastPrice _ := 11 / 10
  orderPolicy _ := .openNormal
  lastKnown _ := none
  live _ := by norm_num
  recorded _ _ h := nomatch h

def smallOrder : Order where
  accountId := 0
  symbol := "EUR/USD"
  side := .buy
  qty := .float (1 / 100)
  price := some (.float (11 / 10))
  contractSize := some (.float 100000)
  accountType := some .retail

lemma admits_crowded {n : ℕ} {h : n < 2 ^ 63} {p : OpenPosition} (hp : p ∈ (crowded n h).openPositions) :
    (evaluatedQuery {} (crowded n h) smallOrder).admits p = true := by
  obtain ⟨hrow, hholder⟩ := mem_openPositions hp
  have haccount : p.account = 0 := by
    rcases mem_listed (Table.mem_of_ofList hrow) with heq | heq <;> rw [heq] <;> rfl
  rw [haccount] at hholder
  have hretail : p.holder = ⟨.retail, 100, "USD"⟩ := (Option.some.inj hholder).symm
  have hquery : evaluatedQuery {} (crowded n h) smallOrder = { riskScope := some .real } := rfl
  rw [hquery, Query.admits, hretail]
  simp [realMoneyAccountTypes]

lemma evaluated_crowded {n : ℕ} {h : n < 2 ^ 63} :
    (evaluated {} (crowded n h) smallOrder).map OpenPosition.toPosition =
      List.replicate n (onePosition "EUR/USD") ++ [onePosition "GBP/USD"] := by
  rw [evaluated, Query.positions, List.filter_eq_self.mpr fun p => admits_crowded, openPositions_map]
  have hrows : (crowded n h).positions.rows.filterMap Prod.snd = (listed n).filterMap id := by
    rw [← Table.map_snd_rows (listed n), List.filterMap_map]
    rfl
  rw [hrows, listed]
  simp

lemma unpriced_crowded {n : ℕ} {h : n < 2 ^ 63} : unpriced python {} (crowded n h) stalePound smallOrder = 1 := by
  have hprice : (fun p => (price python stalePound p).isNone) =
      (fun p : Position => decide (p.symbol ≠ "EUR/USD")) ∘ OpenPosition.toPosition := by
    funext p
    by_cases hsymbol : p.symbol = "EUR/USD" <;> simp [price, resolveSymbolPrice, stalePound, hsymbol]
  rw [unpriced, hprice, ← List.countP_map, evaluated_crowded]
  simp [onePosition]

theorem stale_position_hidden : Incomplete python {} (crowded 19999 crowd_keys) stalePound smallOrder ∧
    (validateNewOrder python {} (crowded 19999 crowd_keys) stalePound smallOrder).reasonCode ≠
      some .riskPricingIncomplete := by
  have hlength : (evaluated {} (crowded 19999 crowd_keys) smallOrder).length = 20000 := by
    rw [← List.length_map OpenPosition.toPosition, evaluated_crowded, List.length_append, List.length_replicate]
    rfl
  rw [incomplete_iff, Ne, reason_iff, pricingIncomplete_iff, hlength, unpriced_crowded]
  simp [smallOrder]

end Example

end TrxSimulator.Exposure.Limits
