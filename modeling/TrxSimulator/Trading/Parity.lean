import TrxSimulator.Trading.SpreadFees

/-! What an order is charged when it is opened: at the market, from the last tick and the cached configuration of its
process, and by the executor of pending orders, from the stored configuration. -/

namespace TrxSimulator.Trading.Parity

open Foundations.Decimals Foundations.Floats Foundations.Outcomes
open Market.Symbols Market.Pnl Market.Spreads
open SpreadFees (spreadFee)

inductive ProfileSource
  | accountSnapshot | accountSnapshotLegacy | accountProduct | challengeProduct | legacyFallback | captureFailed
deriving DecidableEq

/-- The terms resolved for an account; a frozen profile may lack any of the keys. -/
structure ResolvedFields where
  spreadMarkupPips : Option ℚ := none
  commissionPerLot : Option ℚ := none
  commissionPct : Option ℚ := none
  minSpreadPips : Option ℚ := none
  maxSpreadPips : Option ℚ := none
  source : Option ProfileSource := none
deriving DecidableEq

def ResolvedFields.pricing (fields : ResolvedFields) : CommercialPricingFields where
  spreadMarkupPips := fields.spreadMarkupPips.getD 0
  minSpreadPips := fields.minSpreadPips
  maxSpreadPips := fields.maxSpreadPips

/-- What a profile charges for, its bounds apart. -/
structure Terms where
  spreadMarkupPips : ℚ
  commissionPerLot : ℚ
  commissionPct : ℚ
  source : ProfileSource
deriving DecidableEq

def ResolvedFields.terms (fields : ResolvedFields) : Terms where
  spreadMarkupPips := fields.spreadMarkupPips.getD 0
  commissionPerLot := fields.commissionPerLot.getD 0
  commissionPct := fields.commissionPct.getD 0
  source := fields.source.getD .legacyFallback

structure OpeningProfile extends CommercialPricingProfile where
  commissionPerLot : ℚ
  commissionPct : ℚ
  source : ProfileSource
deriving DecidableEq

def OpeningProfile.terms (profile : OpeningProfile) : Terms where
  spreadMarkupPips := profile.spreadMarkupPips
  commissionPerLot := profile.commissionPerLot
  commissionPct := profile.commissionPct
  source := profile.source

def noTerms : Terms := ⟨0, 0, 0, .legacyFallback⟩

/-- The whole of the profile whose spread is `Spreads.buildCommercialPricingProfile`. -/
def buildCommercialPricingProfile (cache : SpreadConfigCache) (fields : ResolvedFields) (symbol : String) :
    OpeningProfile :=
  let cfg := getCachedConfig cache symbol
  let minPips := fields.minSpreadPips.or (cfg.bind SpreadConfig.minSpread)
  let maxPips := fields.maxSpreadPips.or (cfg.bind SpreadConfig.maxSpread)
  if h : ∀ lo ∈ minPips, ∀ hi ∈ maxPips, lo ≤ hi then
    { spreadMarkupPips := fields.spreadMarkupPips.getD 0
      minSpreadPips := minPips
      maxSpreadPips := maxPips
      ordered := h
      commissionPerLot := fields.commissionPerLot.getD 0
      commissionPct := fields.commissionPct.getD 0
      source := fields.source.getD .legacyFallback }
  else { captureFailed with commissionPerLot := 0, commissionPct := 0, source := .legacyFallback }

section Configurations

/-- A row is not saved with its bounds crossed. -/
structure BrokerSpreadConfig where
  spreadPips : Numeric 8 2
  isDynamic : Bool
  spreadBoundsEnabled : Bool
  minSpread : Option (Numeric 8 2)
  maxSpread : Option (Numeric 8 2)
  enabled : Bool
  ordered : ∀ lo ∈ minSpread, ∀ hi ∈ maxSpread, lo.units ≤ hi.units

/-- One row at most for the canonical name of a symbol. -/
abbrev BrokerSpreadConfigs := String → Option BrokerSpreadConfig

variable (r : Arithmetic)

def BrokerSpreadConfig.floor (row : BrokerSpreadConfig) : Option ℚ :=
  if row.spreadBoundsEnabled then row.minSpread.map fun pips => r.float pips.value else none

def BrokerSpreadConfig.ceiling (row : BrokerSpreadConfig) : Option ℚ :=
  if row.spreadBoundsEnabled then row.maxSpread.map fun pips => r.float pips.value else none

def BrokerSpreadConfig.snapshot (row : BrokerSpreadConfig) : SpreadConfig where
  spreadPips := r.float row.spreadPips.value
  minSpread := row.floor r
  maxSpread := row.ceiling r
  isDynamic := row.isDynamic

def refreshCache (rows : BrokerSpreadConfigs) : SpreadConfigCache := fun symbol =>
  ((rows symbol).filter BrokerSpreadConfig.enabled).map (BrokerSpreadConfig.snapshot r)

/-- Of a process that has not refreshed it, as the daemon never does. -/
def emptyCache : SpreadConfigCache := fun _ => none

end Configurations

section Charging

inductive ChargeError
  | goldPilotMarketOnly | unknownSymbol | dynamicSpread | profileUnavailable | invalidConfiguration
  | floorExceedsCeiling | invalidCharge
deriving DecidableEq

structure Charged where
  commission : ℚ
  spreadFee : ℚ
deriving DecidableEq

variable (r : Arithmetic)

/-- The crypto instruments are the ones with a commission of their own. -/
def commissionPct (spec : SymbolSpec) : ℚ := if spec.assetClass = .crypto then 1 / 10000 else 0

def commissionFor (terms : Terms) (spec : SymbolSpec) (qty price : ℚ) : ℚ :=
  let notional := r.float (r.float (qty * price) * spec.contractSize)
  if 0 < terms.commissionPerLot then r.float (scaled 2 (quantize 2 (r.float (qty * terms.commissionPerLot))))
  else if 0 < terms.commissionPct then max 0 (r.float (notional * terms.commissionPct))
  else if terms.source = .legacyFallback then max 0 (r.float (notional * r.float (commissionPct spec)))
  else 0

def openingCommission (terms : Terms) (spec : SymbolSpec) (qty price : ℚ) : ℚ :=
  let commission := commissionFor r terms spec qty price
  if 0 < commission then r.str commission else 0

def marketCharges (cache : SpreadConfigCache) (fields : ResolvedFields) (snapshot : PricingSnapshot)
    (symbol : String) (qty price : ℚ) : Except ChargeError Charged := do
  let spec ← require (getSpec symbol) .unknownSymbol
  let terms := (buildCommercialPricingProfile cache fields symbol).terms
  pure ⟨openingCommission r terms spec qty price, spreadFee r symbol qty snapshot.effectiveAfterBounds⟩

def pendingStaticSpreadCharge (rows : BrokerSpreadConfigs) (fields : ResolvedFields) (symbol : String) (qty : ℚ) :
    Except ChargeError ℚ :=
  let symbol := normalizeSymbol symbol
  let row := (rows symbol).filter BrokerSpreadConfig.enabled
  if row.any BrokerSpreadConfig.isDynamic then .error .dynamicSpread
  else if fields.source = some .captureFailed then .error .profileUnavailable
  else
    let base := row.elim 0 fun row => r.float row.spreadPips.value
    let markup := fields.spreadMarkupPips.getD 0
    let floor := fields.minSpreadPips.or (row.bind (BrokerSpreadConfig.floor r))
    let ceiling := fields.maxSpreadPips.or (row.bind (BrokerSpreadConfig.ceiling r))
    if ∃ pips ∈ base :: markup :: (floor.toList ++ ceiling.toList), pips < 0 then .error .invalidConfiguration
    else if ¬ ∀ lo ∈ floor, ∀ hi ∈ ceiling, lo ≤ hi then .error .floorExceedsCeiling
    else
      let charge := r.str (calculateSpreadRevenue r symbol qty (computeEffectiveSpreadPips r base markup floor ceiling).2)
      if charge < 0 then .error .invalidCharge else .ok charge

/-- The spread fee rests on the stored configuration, the commission on what the process has cached of it. -/
def triggerCharges (rows : BrokerSpreadConfigs) (cache : SpreadConfigCache) (fields : ResolvedFields)
    (symbol : String) (qty price : ℚ) : Except ChargeError Charged :=
  if symbol = "XAU/USD" then .error .goldPilotMarketOnly
  else do
    let fee ← pendingStaticSpreadCharge r rows fields symbol qty
    let spec ← require (getSpec symbol) .unknownSymbol
    let terms := (buildCommercialPricingProfile cache fields symbol).terms
    pure ⟨openingCommission r terms spec qty price, fee⟩

end Charging

section Terms

/-- Either bound is the account's own if it has one, and else the symbol's. -/
def BoundsOrdered (fields : ResolvedFields) (cfg : Option SpreadConfig) : Prop :=
  ∀ lo ∈ fields.minSpreadPips.or (cfg.bind SpreadConfig.minSpread),
    ∀ hi ∈ fields.maxSpreadPips.or (cfg.bind SpreadConfig.maxSpread), lo ≤ hi

instance (fields : ResolvedFields) (cfg : Option SpreadConfig) : Decidable (BoundsOrdered fields cfg) :=
  inferInstanceAs (Decidable (∀ lo ∈ fields.minSpreadPips.or (cfg.bind SpreadConfig.minSpread),
    ∀ hi ∈ fields.maxSpreadPips.or (cfg.bind SpreadConfig.maxSpread), lo ≤ hi))

variable {r : Arithmetic} {cache : SpreadConfigCache} {fields : ResolvedFields} {symbol : String}
  {cfg : Option SpreadConfig} {c : SpreadConfig}

lemma profile_terms : (buildCommercialPricingProfile cache fields symbol).terms =
    if BoundsOrdered fields (getCachedConfig cache symbol) then fields.terms else noTerms := by
  by_cases h : BoundsOrdered fields (getCachedConfig cache symbol)
  · rw [if_pos h, buildCommercialPricingProfile]
    exact congrArg OpeningProfile.terms (dif_pos h)
  · rw [if_neg h, buildCommercialPricingProfile]
    exact congrArg OpeningProfile.terms (dif_neg h)

lemma profile_spread : (buildCommercialPricingProfile cache fields symbol).toCommercialPricingProfile =
    Market.Spreads.buildCommercialPricingProfile cache fields.pricing symbol := by
  by_cases h : BoundsOrdered fields (getCachedConfig cache symbol)
  · exact (congrArg OpeningProfile.toCommercialPricingProfile (dif_pos h)).trans (dif_pos h).symm
  · have hfailed : Market.Spreads.buildCommercialPricingProfile cache fields.pricing symbol = captureFailed := dif_neg h
    rw [hfailed]
    exact congrArg OpeningProfile.toCommercialPricingProfile (dif_neg h)

lemma ordered_alone (h : BoundsOrdered fields cfg) : BoundsOrdered fields none := by
  intro lo hlo hi hhi
  simp only [Option.bind_none, Option.or_none, Option.mem_def] at hlo hhi
  apply h lo _ hi
  · simp [hhi]
  · simp [hlo]

lemma effectiveSpread_ordered (hcfg : getCachedConfig cache symbol = some c) (h : BoundsOrdered fields (some c)) :
    effectiveSpread r cache fields.pricing symbol c =
      (computeEffectiveSpreadPips r c.spreadPips (fields.spreadMarkupPips.getD 0)
        (fields.minSpreadPips.or c.minSpread) (fields.maxSpreadPips.or c.maxSpread)).2 := by
  have hprofile : Market.Spreads.buildCommercialPricingProfile cache fields.pricing symbol =
      ⟨fields.spreadMarkupPips.getD 0, fields.minSpreadPips.or c.minSpread, fields.maxSpreadPips.or c.maxSpread,
        h⟩ := by
    simp only [Market.Spreads.buildCommercialPricingProfile, ResolvedFields.pricing, hcfg, Option.bind_some]
    exact dif_pos h
  rw [effectiveSpread, hprofile]

end Terms

section Fees

variable {symbol : String} {qty pips : ℚ} {minPips maxPips : Option ℚ}

lemma clamp_nonneg (hpips : 0 ≤ pips) (hmin : ∀ lo ∈ minPips, 0 ≤ lo) (hmax : ∀ hi ∈ maxPips, 0 ≤ hi) :
    0 ≤ clamp minPips maxPips pips := by
  have hfloored : 0 ≤ minPips.elim pips fun lo => if pips < lo then lo else pips := by
    cases minPips with
    | none => exact hpips
    | some lo =>
      rw [Option.elim_some]
      split
      · exact hmin lo rfl
      · exact hpips
  rw [clamp]
  cases maxPips with
  | none => exact hfloored
  | some hi =>
    simp only [Option.elim_some]
    split
    · exact hmax hi rfl
    · exact hfloored

lemma revenue_zero : calculateSpreadRevenue python symbol qty 0 = 0 := by
  have hquantize : quantize 8 0 = 0 := by
    rw [quantize, zero_mul]
    exact_mod_cast roundHalfEven_intCast 0
  rw [calculateSpreadRevenue]
  split
  · rfl
  · simp [python, float_zero, hquantize, scaled]

/-- The two executors leave a fee out on different grounds, and it is then nothing for both. -/
lemma spreadFee_eq (hpips : 0 ≤ pips) (hcharge : 0 ≤ python.str (calculateSpreadRevenue python symbol qty pips)) :
    spreadFee python symbol qty pips = python.str (calculateSpreadRevenue python symbol qty pips) := by
  have hrevenue : 0 ≤ calculateSpreadRevenue python symbol qty pips := str_nonneg_iff.mp hcharge
  rw [spreadFee]
  obtain hpos | hzero := hpips.lt_or_eq
  · rw [if_pos hpos]
    split
    · rfl
    · next h =>
      rw [le_antisymm (not_lt.mp h) hrevenue]
      exact str_zero.symm
  · subst hzero
    rw [if_neg (lt_irrefl _), revenue_zero]
    exact (if_neg (lt_irrefl _)).trans str_zero.symm

lemma normalizeSymbol_spec {spec : SymbolSpec} (h : spec ∈ registry) : normalizeSymbol spec.symbol = spec.symbol := by
  revert h spec
  decide +kernel

end Fees

section Executors

variable {rows : BrokerSpreadConfigs} {fields : ResolvedFields} {symbol : String} {row : BrokerSpreadConfig}
  {cache : SpreadConfigCache} {qty price charge : ℚ} {charged : Charged}

lemma refreshed (hrow : rows (normalizeSymbol symbol) = some row) (henabled : row.enabled = true) :
    getCachedConfig (refreshCache python rows) symbol = some (row.snapshot python) := by
  simp [getCachedConfig, refreshCache, hrow, henabled]

lemma pending_charge (hrow : rows (normalizeSymbol symbol) = some row) (henabled : row.enabled = true)
    (hsymbol : normalizeSymbol symbol = symbol)
    (h : pendingStaticSpreadCharge python rows fields symbol qty = .ok charge) :
    BoundsOrdered fields (some (row.snapshot python)) ∧ charge = spreadFee python symbol qty
      (effectiveSpread python (refreshCache python rows) fields.pricing symbol (row.snapshot python)) := by
  have hcfg := refreshed hrow henabled
  rw [hsymbol] at hrow
  simp only [pendingStaticSpreadCharge, hsymbol, hrow, henabled, Option.filter_some, if_true, guard_eq_ok,
    Option.bind_some, Option.elim_some, not_not] at h
  obtain ⟨-, -, hsigns, hordered, hcharge, hok⟩ := h
  have hbounds : BoundsOrdered fields (some (row.snapshot python)) := hordered
  refine ⟨hbounds, ?_⟩
  rw [effectiveSpread_ordered hcfg hbounds, ← Except.ok.inj hok]
  symm
  apply spreadFee_eq
  · simp only [List.mem_cons, List.mem_append, Option.mem_toList, not_exists, not_and, not_lt] at hsigns
    apply clamp_nonneg
    · apply float_nonneg
      exact add_nonneg (hsigns _ (Or.inl rfl)) (hsigns _ (Or.inr (Or.inl rfl)))
    · exact fun lo hlo => hsigns lo (Or.inr (Or.inr (Or.inl hlo)))
    · exact fun hi hhi => hsigns hi (Or.inr (Or.inr (Or.inr hhi)))
  · exact not_lt.mp hcharge

lemma trigger_charged (hrow : rows (normalizeSymbol symbol) = some row) (henabled : row.enabled = true)
    (h : triggerCharges python rows cache fields symbol qty price = .ok charged) :
    ∃ spec, getSpec symbol = some spec ∧ BoundsOrdered fields (some (row.snapshot python)) ∧ charged =
      ⟨openingCommission python (buildCommercialPricingProfile cache fields symbol).terms spec qty price,
        spreadFee python symbol qty
          (effectiveSpread python (refreshCache python rows) fields.pricing symbol (row.snapshot python))⟩ := by
  simp only [triggerCharges, guard_eq_ok, bind_eq_ok, require_eq_ok, pure_eq_ok] at h
  obtain ⟨-, fee, hfee, spec, hspec, rfl⟩ := h
  have hsymbol : normalizeSymbol symbol = symbol := by
    rw [← symbol_of_getSpec hspec]
    exact normalizeSymbol_spec (mem_of_getSpec hspec)
  obtain ⟨hordered, rfl⟩ := pending_charge hrow henabled hsymbol hfee
  exact ⟨spec, hspec, hordered, rfl⟩

/-- What the last tick has left for the order, taken under the cached configuration. -/
def capturedSnapshot (cache : SpreadConfigCache) (fields : ResolvedFields) (symbol : String) (multipliers : List ℚ) :
    PricingSnapshot :=
  let profile := (buildCommercialPricingProfile cache fields symbol).toCommercialPricingProfile
  tickPricingSnapshot python cache symbol profile (buildDynamicInputs cache symbol profile multipliers)

/-- In either process: the terms are the account's own, and what the executor of pending orders charges when it opens
an order is what an open at the market is charged for it. -/
def ChargedAlike (rows : BrokerSpreadConfigs) (fields : ResolvedFields) (symbol : String) (qty price : ℚ)
    (multipliers : List ℚ) : Prop :=
  let warm := refreshCache python rows
  ∀ cache, cache = warm ∨ cache = emptyCache →
    (buildCommercialPricingProfile cache fields symbol).terms = fields.terms ∧
      ∀ charged, triggerCharges python rows cache fields symbol qty price = .ok charged →
        marketCharges python warm fields (capturedSnapshot warm fields symbol multipliers) symbol qty price =
          .ok charged

end Executors

/-- The terms are lost exactly where one side's floor is above the other's ceiling, unless the account has none. -/
theorem charged_alike_iff {rows : BrokerSpreadConfigs} {fields : ResolvedFields} {symbol : String}
    {row : BrokerSpreadConfig} (hrow : rows (normalizeSymbol symbol) = some row) (henabled : row.enabled = true)
    (hstatic : row.isDynamic = false) (qty price : ℚ) (multipliers : List ℚ) :
    ChargedAlike rows fields symbol qty price multipliers ↔
      BoundsOrdered fields (some (row.snapshot python)) ∨ fields.terms = noTerms := by
  have hcfg := refreshed hrow henabled
  have hwarm : (buildCommercialPricingProfile (refreshCache python rows) fields symbol).terms =
      if BoundsOrdered fields (some (row.snapshot python)) then fields.terms else noTerms := by
    rw [profile_terms, hcfg]
  constructor
  · intro halike
    obtain ⟨hkept, -⟩ := halike _ (Or.inl rfl)
    by_cases hordered : BoundsOrdered fields (some (row.snapshot python))
    · exact Or.inl hordered
    · rw [hwarm, if_neg hordered] at hkept
      exact Or.inr hkept.symm
  · intro h cache hcache
    have hkept : ∀ cache, cache = refreshCache python rows ∨ cache = emptyCache →
        (buildCommercialPricingProfile cache fields symbol).terms = fields.terms := by
      rintro cache (rfl | rfl)
      · rw [hwarm]
        split
        · rfl
        · next hcrossed => exact (h.resolve_left hcrossed).symm
      · rw [profile_terms]
        split
        · rfl
        · next hcrossed =>
          have hterms := h.resolve_left fun hordered => hcrossed (ordered_alone hordered)
          exact hterms.symm
    refine ⟨hkept cache hcache, fun charged hcharged => ?_⟩
    obtain ⟨spec, hspec, -, rfl⟩ := trigger_charged hrow henabled hcharged
    have hsnapshot := @snapshot_static python _ fields.pricing _ _ hcfg hstatic multipliers
    simp only [marketCharges, bind_eq_ok, require_eq_ok, pure_eq_ok]
    refine ⟨spec, hspec, ?_⟩
    rw [hkept cache hcache, hkept _ (Or.inl rfl), capturedSnapshot, profile_spread, hsnapshot]

/-- One pip, and five at most. -/
def euroConfig : BrokerSpreadConfig where
  spreadPips := .ofUnits 100
  isDynamic := false
  spreadBoundsEnabled := true
  minSpread := none
  maxSpread := some (.ofUnits 500)
  enabled := true
  ordered := fun _ h => by cases h

def euroConfigs : BrokerSpreadConfigs := fun symbol => if symbol = "EUR/USD" then some euroConfig else none

def challengeFields (floor : Option ℚ) : ResolvedFields where
  spreadMarkupPips := some 2
  commissionPerLot := some 7
  minSpreadPips := floor
  source := some .challengeProduct

theorem charged_alike_euro : ChargedAlike euroConfigs (challengeFields (some 4)) "EUR/USD" (1 / 2) (9 / 8) [] ∧
    triggerCharges python euroConfigs emptyCache (challengeFields (some 4)) "EUR/USD" (1 / 2) (9 / 8) =
      .ok ⟨7 / 2, 10⟩ :=
  ⟨(@charged_alike_iff _ _ _ euroConfig rfl rfl rfl _ _ _).mpr (Or.inl (by decide +kernel)), by decide +kernel⟩

/-- A floor of six pips meets the ceiling of five: at the market the account pays no commission and no markup, and a
pending order is not opened at all. -/
theorem terms_dropped : ¬ ChargedAlike euroConfigs (challengeFields (some 6)) "EUR/USD" (1 / 2) (9 / 8) [] ∧
    marketCharges python (refreshCache python euroConfigs) (challengeFields (some 6))
      (capturedSnapshot (refreshCache python euroConfigs) (challengeFields (some 6)) "EUR/USD" []) "EUR/USD" (1 / 2)
      (9 / 8) = .ok ⟨0, 5 / 2⟩ ∧
    triggerCharges python euroConfigs (refreshCache python euroConfigs) (challengeFields (some 6)) "EUR/USD" (1 / 2)
      (9 / 8) = .error .floorExceedsCeiling := by
  refine ⟨fun halike => ?_, by decide +kernel, by decide +kernel⟩
  obtain ⟨hkept, -⟩ := halike _ (Or.inl rfl)
  revert hkept
  decide +kernel

end TrxSimulator.Trading.Parity
