import TrxSimulator.Market.Pnl

/-! The broker's spread: the configuration of a symbol, the commercial terms of an account, the spread that they make
of a tick, and what the broker earns of it on an order. -/

namespace TrxSimulator.Market.Spreads

open Foundations.Decimals Symbols Pnl

structure SpreadConfig where
  spreadPips : ℚ
  minSpread : Option ℚ
  maxSpread : Option ℚ
  isDynamic : Bool
deriving DecidableEq

/-- Enabled configurations only, under the canonical names of their symbols. -/
abbrev SpreadConfigCache := String → Option SpreadConfig

def getCachedConfig (cache : SpreadConfigCache) (symbol : String) : Option SpreadConfig :=
  cache (normalizeSymbol symbol)

structure CommercialPricingFields where
  spreadMarkupPips : ℚ := 0
  minSpreadPips : Option ℚ := none
  maxSpreadPips : Option ℚ := none
deriving DecidableEq

structure CommercialPricingProfile where
  spreadMarkupPips : ℚ
  minSpreadPips : Option ℚ
  maxSpreadPips : Option ℚ
  ordered : ∀ lo ∈ minSpreadPips, ∀ hi ∈ maxSpreadPips, lo ≤ hi
deriving DecidableEq

def captureFailed : CommercialPricingProfile := ⟨0, none, none, fun _ h => nomatch h⟩

/-- The account's own bounds come before the symbol's; bounds that cross leave no terms at all. -/
def buildCommercialPricingProfile (cache : SpreadConfigCache) (fields : CommercialPricingFields) (symbol : String) :
    CommercialPricingProfile :=
  let cfg := getCachedConfig cache symbol
  let minPips := fields.minSpreadPips.or (cfg.bind SpreadConfig.minSpread)
  let maxPips := fields.maxSpreadPips.or (cfg.bind SpreadConfig.maxSpread)
  if h : ∀ lo ∈ minPips, ∀ hi ∈ maxPips, lo ≤ hi then ⟨fields.spreadMarkupPips, minPips, maxPips, h⟩ else captureFailed

variable (r : Arithmetic)

section Effective

def clamp (minPips maxPips : Option ℚ) (pips : ℚ) : ℚ :=
  let floored := minPips.elim pips fun lo => if pips < lo then lo else pips
  maxPips.elim floored fun hi => if hi < floored then hi else floored

def computeEffectiveSpreadPips (basePips markupPips : ℚ) (minPips maxPips : Option ℚ) : ℚ × ℚ :=
  let before := r.float (basePips + markupPips)
  (before, clamp minPips maxPips before)

/-- The multipliers are those of the session, the source, its staleness, volatility, liquidity and an operator. -/
structure DynamicSpreadInputs where
  baseSpreadPips : ℚ
  accountMarkupPips : ℚ
  isDynamic : Bool
  multipliers : List ℚ
  minSpreadPips : Option ℚ
  maxSpreadPips : Option ℚ
deriving DecidableEq

def evaluateDynamicSpread (inputs : DynamicSpreadInputs) : ℚ × ℚ :=
  let base := r.float (inputs.baseSpreadPips + inputs.accountMarkupPips)
  let before := if inputs.isDynamic then inputs.multipliers.foldl (fun pips m => r.float (pips * m)) base else base
  (before, clamp inputs.minSpreadPips inputs.maxSpreadPips before)

def buildDynamicInputs (cache : SpreadConfigCache) (symbol : String) (profile : CommercialPricingProfile)
    (multipliers : List ℚ) : DynamicSpreadInputs :=
  let cfg := getCachedConfig cache symbol
  { baseSpreadPips := cfg.elim 0 SpreadConfig.spreadPips
    accountMarkupPips := profile.spreadMarkupPips
    isDynamic := cfg.elim false SpreadConfig.isDynamic
    multipliers
    minSpreadPips := profile.minSpreadPips
    maxSpreadPips := profile.maxSpreadPips }

structure PricingSnapshot where
  baseSpreadPips : Option ℚ
  accountMarkupPips : ℚ
  minSpreadPips : Option ℚ
  maxSpreadPips : Option ℚ
  effectiveBeforeBounds : ℚ
  effectiveAfterBounds : ℚ
deriving DecidableEq

def tickPricingSnapshot (cache : SpreadConfigCache) (symbol : String) (profile : CommercialPricingProfile)
    (inputs : DynamicSpreadInputs) : PricingSnapshot :=
  let (before, after) := evaluateDynamicSpread r inputs
  { baseSpreadPips := (getCachedConfig cache symbol).map SpreadConfig.spreadPips
    accountMarkupPips := profile.spreadMarkupPips
    minSpreadPips := profile.minSpreadPips
    maxSpreadPips := profile.maxSpreadPips
    effectiveBeforeBounds := before
    effectiveAfterBounds := after }

/-- The configured base with the account's markup, within the bounds resolved for both. -/
def effectiveSpread (cache : SpreadConfigCache) (fields : CommercialPricingFields) (symbol : String)
    (cfg : SpreadConfig) : ℚ :=
  let profile := buildCommercialPricingProfile cache fields symbol
  (computeEffectiveSpreadPips r cfg.spreadPips profile.spreadMarkupPips profile.minSpreadPips profile.maxSpreadPips).2

end Effective

def calculateSpreadRevenue (symbol : String) (qty spreadPips : ℚ) : ℚ :=
  match getSpec (normalizeSymbol symbol) with
  | none => 0
  | some spec =>
    let halfSpread := r.float (r.float (spreadPips * r.float spec.pipSize) / 2)
    r.float (scaled 8 (quantize 8 (r.float (r.float (halfSpread * qty) * spec.contractSize))))

variable {r}

lemma snapshot_static {cache : SpreadConfigCache} {fields : CommercialPricingFields} {symbol : String}
    {cfg : SpreadConfig} (hcfg : getCachedConfig cache symbol = some cfg) (hstatic : cfg.isDynamic = false)
    (multipliers : List ℚ) :
    let profile := buildCommercialPricingProfile cache fields symbol
    (tickPricingSnapshot r cache symbol profile
      (buildDynamicInputs cache symbol profile multipliers)).effectiveAfterBounds =
        effectiveSpread r cache fields symbol cfg := by
  simp only [tickPricingSnapshot, evaluateDynamicSpread, buildDynamicInputs, effectiveSpread,
    computeEffectiveSpreadPips, hcfg, hstatic, Option.elim_some]
  rfl

end TrxSimulator.Market.Spreads
