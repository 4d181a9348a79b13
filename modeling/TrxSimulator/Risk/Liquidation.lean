import TrxSimulator.Challenges.Drawdown
import TrxSimulator.Market.Pnl
import TrxSimulator.Trading.Levels

/-! Liquidation by margin level: the pre-check of the daemon's scan, and the recalculation of a live connection. -/

namespace TrxSimulator.Risk.Liquidation

open Foundations.Decimals Money Accounts Challenges.Evaluation Challenges.Drawdown
open Market.Symbols Market.Pnl Trading.Writers Trading.Levels

structure Terms where
  currency : String
  named : currency ≠ ""
  stopoutLevelSnapshot : Option (Numeric 5 2)
deriving DecidableEq

/-- The bid and the ask of the symbols that have a usable price. -/
abbrev Quotes := String → Option (ℚ × ℚ)

inductive Reason
  | daemonStopout | daemonMarginCall
deriving DecidableEq

variable (r : Arithmetic)

section Offline

def unrealizedPnl (currency : String) (p : Position) (closePx : ℚ) : ℚ :=
  positionPnlFloat r p.side (r.float p.avgPrice.value) closePx (r.float p.qty.value) p.symbol currency

def effectiveLeverage (a : ChallengeAccount) (spec : SymbolSpec) : ℕ := max 1 (min (max 1 a.leverage) spec.maxLeverage)

def positionMargin (a : ChallengeAccount) (currency : String) (p : Position) (spec : SymbolSpec) : Option ℚ :=
  calculateRequiredMargin r p.symbol (r.str (r.float p.avgPrice.value)) (r.str (r.float p.qty.value))
    (effectiveLeverage a spec) currency

structure Tally where
  totalFloating : ℚ
  marginUsed : ℚ
  floatingOf : List (ℕ × ℚ)
deriving DecidableEq

def tally (a : ChallengeAccount) (currency : String) (prices : Quotes) (t : Tally) (p : ℕ × Row) : Option Tally := do
  let (bid, ask) ← prices p.2.symbol
  let spec ← getSpec p.2.symbol
  let fp := unrealizedPnl r currency p.2.toPosition (closingPrice p.2.side bid ask)
  let margin := (positionMargin r a currency p.2.toPosition spec).getD 0
  pure ⟨r.float (t.totalFloating + fp), r.float (t.marginUsed + margin), t.floatingOf ++ [(p.1, fp)]⟩

/-- An unknown symbol raises. -/
def computeOfflineEquityMargin (a : ChallengeAccount) (terms : Terms) (positions : List (ℕ × Row)) (prices : Quotes) :
    Option (ℚ × Tally) := do
  let currency := if terms.currency = "" then "USD" else terms.currency
  let t ← positions.foldlM (tally r a currency prices) ⟨0, 0, []⟩
  pure (r.float (r.float a.balance.value + t.totalFloating), t)

def checkEquityStopout (equity peakBalance : ℚ) (tier : Option Tier) (accountType : AccountType)
    (marginUsed stopoutLevel : ℚ) : Bool :=
  if marginEngine accountType then
    if marginUsed ≤ 0 then false else decide (r.float (r.float (equity / marginUsed) * 100) < stopoutLevel)
  else
    let maxDdPct := r.float (tierDefaults tier).maxDrawdownPct.value
    decide (equity ≤ r.float (peakBalance * r.float (1 - r.float (maxDdPct / 100))))

def preCheck (a : ChallengeAccount) (terms : Terms) (positions : List (ℕ × Row)) (prices : Quotes) :
    Option (Option Reason) :=
  if positions.all fun p => (prices p.2.symbol).isSome then do
    let (equity, t) ← computeOfflineEquityMargin r a terms positions prices
    if marginEngine a.accountType then
      if 0 < t.marginUsed ∧ r.float (r.float (equity / t.marginUsed) * 100) < 50 then pure (some .daemonMarginCall)
      else pure none
    else if checkEquityStopout r equity (r.float a.peakBalance.value) a.tier a.accountType t.marginUsed 50 then
      pure (some .daemonStopout)
    else pure none
  else some none

/-- The scan reads the positions of active accounts. -/
def scanLiquidates (a : ChallengeAccount) (terms : Terms) (positions : List (ℕ × Row)) (prices : Quotes) : Bool :=
  decide (a.status = .active) && !positions.isEmpty && ((preCheck r a terms positions prices).bind id).isSome

end Offline

section Live

def round2 (x : ℚ) : ℚ := r.float (scaled 2 (quantize 2 x))

def addUnrealized (currency : String) (prices : Quotes) (t : ℚ × List String) (p : ℕ × Row) : ℚ × List String :=
  match prices p.2.symbol with
  | none => (t.1, t.2 ++ [p.2.symbol])
  | some (bid, ask) =>
    (r.float (t.1 + unrealizedPnl r currency p.2.toPosition (closingPrice p.2.side bid ask)), t.2)

/-- The total, and the symbols of the positions that have no price. -/
def unrealizedPnlTotal (currency : String) (positions : List (ℕ × Row)) (prices : Quotes) : ℚ × List String :=
  positions.foldl (addUnrealized r currency prices) (0, [])

def addMargin (a : ChallengeAccount) (currency : String) (total : ℚ) (p : ℕ × Row) : Option ℚ := do
  let spec ← getSpec p.2.symbol
  match positionMargin r a currency p.2.toPosition spec with
  | none => pure total
  | some margin => pure (r.float (total + margin))

def marginUsedTotal (a : ChallengeAccount) (currency : String) (positions : List (ℕ × Row)) : Option ℚ :=
  positions.foldlM (addMargin r a currency) 0

def stopoutLevel (terms : Terms) : ℚ :=
  match terms.stopoutLevelSnapshot with
  | some level => if level.units = 0 then 50 else r.float level.value
  | none => 50

def liveLiquidates (a : ChallengeAccount) (terms : Terms) (positions : List (ℕ × Row)) (prices : Quotes) : Bool :=
  let (total, unpriced) := unrealizedPnlTotal r terms.currency positions prices
  match marginUsedTotal r a terms.currency positions with
  | none => false
  | some margin =>
    let equity := round2 r (r.float (r.float a.balance.value + round2 r total))
    unpriced.isEmpty && decide (a.status = .active) && !positions.isEmpty &&
      checkEquityStopout r equity (r.float a.peakBalance.value) a.tier a.accountType (round2 r margin)
        (stopoutLevel r terms)

end Live

section Limits

def unrounded (decimal str : ℚ → ℚ) : Arithmetic := ⟨decimal, id, str⟩

def floating (currency : String) (positions : List (ℕ × Row)) (prices : Quotes) : ℚ :=
  (positions.map fun p => (prices p.2.symbol).elim 0 fun quote =>
    unrealizedPnl r currency p.2.toPosition (closingPrice p.2.side quote.1 quote.2)).sum

def margin (a : ChallengeAccount) (currency : String) (positions : List (ℕ × Row)) : ℚ :=
  (positions.map fun p => ((getSpec p.2.symbol).bind (positionMargin r a currency p.2.toPosition)).getD 0).sum

variable {r}

def Priced (positions : List (ℕ × Row)) (prices : Quotes) : Prop := ∀ p ∈ positions, (prices p.2.symbol).isSome

def Registered (positions : List (ℕ × Row)) : Prop := ∀ p ∈ positions, (getSpec p.2.symbol).isSome

def RoundsBelow (x : ℚ) (n : ℤ) : Prop := x < n - 1 / 2 ∨ (x = n - 1 / 2 ∧ ¬ Even n)

/-- The floating profit lies on the same side of the limit below which the scan liquidates, and of the one below
which a connection does, in cents. -/
def SameSide (balance : ℤ) (level floating margin : ℚ) : Prop :=
  0 < margin → (floating < margin / 2 - scaled 2 balance ↔
    0 < quantize 2 margin ∧ RoundsBelow (floating * 10 ^ 2) (⌈level / 100 * quantize 2 margin⌉ - balance))

instance (x : ℚ) (n : ℤ) : Decidable (RoundsBelow x n) := inferInstanceAs (Decidable (_ ∨ _))

instance (balance : ℤ) (level floating margin : ℚ) : Decidable (SameSide balance level floating margin) :=
  inferInstanceAs (Decidable (_ → _))

lemma roundsBelow_iff {x : ℚ} {n : ℤ} : RoundsBelow x n ↔ roundHalfEven x < n := by
  rw [← not_le, le_roundHalfEven_iff, RoundsBelow, not_or, not_and, not_lt]
  constructor
  · rintro (hlt | ⟨heq, hodd⟩)
    · exact ⟨hlt.le, fun heq => absurd heq hlt.ne⟩
    · exact ⟨heq.le, fun _ => hodd⟩
  · rintro ⟨hle, htie⟩
    rcases hle.lt_or_eq with hlt | heq
    · exact Or.inl hlt
    · exact Or.inr ⟨heq, htie heq⟩

variable {decimal str : ℚ → ℚ} {a : ChallengeAccount} {terms : Terms} {positions : List (ℕ × Row)} {prices : Quotes}

lemma tally_eq {currency : String} {p : ℕ × Row} {quote : ℚ × ℚ} {spec : SymbolSpec} (t : Tally)
    (hquote : prices p.2.symbol = some quote) (hspec : getSpec p.2.symbol = some spec) :
    tally (unrounded decimal str) a currency prices t p =
      let fp := unrealizedPnl (unrounded decimal str) currency p.2.toPosition
        (closingPrice p.2.side quote.1 quote.2)
      some ⟨t.totalFloating + fp,
        t.marginUsed + (positionMargin (unrounded decimal str) a currency p.2.toPosition spec).getD 0,
        t.floatingOf ++ [(p.1, fp)]⟩ := by
  rw [tally, hquote, hspec]
  rfl

lemma foldlM_tally {currency : String} (hpriced : Priced positions prices) (hregistered : Registered positions)
    (t : Tally) :
    ∃ floatingOf, positions.foldlM (tally (unrounded decimal str) a currency prices) t =
      some ⟨t.totalFloating + floating (unrounded decimal str) currency positions prices,
        t.marginUsed + margin (unrounded decimal str) a currency positions, floatingOf⟩ := by
  induction positions generalizing t with
  | nil => exact ⟨t.floatingOf, by simp [floating, margin]⟩
  | cons p positions ih =>
    rw [Priced, List.forall_mem_cons] at hpriced
    rw [Registered, List.forall_mem_cons] at hregistered
    obtain ⟨quote, hquote⟩ := Option.isSome_iff_exists.mp hpriced.1
    obtain ⟨spec, hspec⟩ := Option.isSome_iff_exists.mp hregistered.1
    simp only [List.foldlM_cons, tally_eq t hquote hspec]
    apply (ih hpriced.2 hregistered.2 _).imp
    intro floatingOf hrest
    refine hrest.trans ?_
    simp only [floating, margin, List.map_cons, List.sum_cons, hquote, hspec, Option.elim_some, Option.bind_some,
      add_assoc]

lemma foldlM_tally_none {currency : String} (h : ¬ Registered positions) (t : Tally) :
    positions.foldlM (tally (unrounded decimal str) a currency prices) t = none := by
  induction positions generalizing t with
  | nil => exact absurd (fun p hp => nomatch hp) h
  | cons p positions ih =>
    rw [List.foldlM_cons]
    cases hstep : tally (unrounded decimal str) a currency prices t p with
    | none => rfl
    | some t' =>
      refine ih (fun hrest => h ?_) t'
      rw [Registered, List.forall_mem_cons]
      refine ⟨?_, hrest⟩
      rw [tally] at hstep
      cases hspec : getSpec p.2.symbol with
      | none =>
        rw [hspec] at hstep
        simp at hstep
      | some spec => rfl

lemma addMargin_eq {currency : String} {p : ℕ × Row} {spec : SymbolSpec} (total : ℚ)
    (hspec : getSpec p.2.symbol = some spec) :
    addMargin (unrounded decimal str) a currency total p =
      some (total + (positionMargin (unrounded decimal str) a currency p.2.toPosition spec).getD 0) := by
  rw [addMargin, hspec]
  dsimp only [Option.bind_eq_bind, Option.bind_some]
  cases positionMargin (unrounded decimal str) a currency p.2.toPosition spec with
  | none => exact congrArg some (add_zero total).symm
  | some margin => rfl

lemma foldlM_addMargin {currency : String} (h : Registered positions) (total : ℚ) :
    positions.foldlM (addMargin (unrounded decimal str) a currency) total =
      some (total + margin (unrounded decimal str) a currency positions) := by
  induction positions generalizing total with
  | nil => simp [margin]
  | cons p positions ih =>
    rw [Registered, List.forall_mem_cons] at h
    obtain ⟨spec, hspec⟩ := Option.isSome_iff_exists.mp h.1
    rw [List.foldlM_cons, addMargin_eq total hspec]
    refine (ih h.2 _).trans ?_
    simp only [margin, List.map_cons, List.sum_cons, hspec, Option.bind_some, add_assoc]

lemma foldlM_addMargin_none {currency : String} (h : ¬ Registered positions) (total : ℚ) :
    positions.foldlM (addMargin (unrounded decimal str) a currency) total = none := by
  induction positions generalizing total with
  | nil => exact absurd (fun p hp => nomatch hp) h
  | cons p positions ih =>
    rw [List.foldlM_cons]
    cases hspec : getSpec p.2.symbol with
    | none =>
      rw [addMargin, hspec]
      rfl
    | some spec =>
      rw [addMargin_eq total hspec]
      refine ih (fun hrest => h ?_) _
      rw [Registered, List.forall_mem_cons, hspec]
      exact ⟨rfl, hrest⟩

lemma foldl_addUnrealized {currency : String} (t : ℚ × List String) :
    (positions.foldl (addUnrealized (unrounded decimal str) currency prices) t).1 =
      t.1 + floating (unrounded decimal str) currency positions prices := by
  induction positions generalizing t with
  | nil => simp [floating]
  | cons p positions ih =>
    rw [List.foldl_cons, ih, floating, floating, List.map_cons, List.sum_cons, addUnrealized]
    cases prices p.2.symbol with
    | none => simp
    | some quote => exact add_assoc _ _ _

lemma unpriced_iff {currency : String} (t : ℚ × List String) :
    (positions.foldl (addUnrealized r currency prices) t).2 = [] ↔ t.2 = [] ∧ Priced positions prices := by
  induction positions generalizing t with
  | nil => simp [Priced]
  | cons p positions ih =>
    rw [List.foldl_cons, ih, Priced, Priced, List.forall_mem_cons, addUnrealized]
    cases prices p.2.symbol with
    | none => simp
    | some quote => simp

lemma live_priced (h : liveLiquidates r a terms positions prices = true) : Priced positions prices := by
  rw [liveLiquidates] at h
  dsimp only at h
  split at h
  · cases h
  · simp only [Bool.and_eq_true, List.isEmpty_iff] at h
    exact ((unpriced_iff (0, [])).mp h.1.1.1).2

def Examined (a : ChallengeAccount) (positions : List (ℕ × Row)) (prices : Quotes) : Prop :=
  a.status = .active ∧ Priced positions prices ∧ Registered positions

lemma priced_all : (positions.all fun p => (prices p.2.symbol).isSome) = true ↔ Priced positions prices :=
  List.all_eq_true

lemma preCheck_eq (hmargin : marginEngine a.accountType = true) (hpriced : Priced positions prices)
    (hregistered : Registered positions) :
    preCheck (unrounded decimal str) a terms positions prices =
      some (if 0 < margin (unrounded decimal str) a terms.currency positions ∧
          (a.balance.value + floating (unrounded decimal str) terms.currency positions prices) /
            margin (unrounded decimal str) a terms.currency positions * 100 < 50
        then some .daemonMarginCall else none) := by
  obtain ⟨floatingOf, hfold⟩ : ∃ floatingOf,
      positions.foldlM (tally (unrounded decimal str) a terms.currency prices) ⟨0, 0, []⟩ = some ⟨_, _, floatingOf⟩ :=
    foldlM_tally hpriced hregistered _
  rw [preCheck, if_pos (priced_all.mpr hpriced), computeOfflineEquityMargin, if_neg terms.named, hfold]
  dsimp only [Option.bind_eq_bind, Option.bind_some, Option.pure_def]
  rw [if_pos hmargin, zero_add, zero_add, apply_ite some]
  rfl

lemma preCheck_raises (hpriced : Priced positions prices) (h : ¬ Registered positions) :
    preCheck (unrounded decimal str) a terms positions prices = none := by
  rw [preCheck, if_pos (priced_all.mpr hpriced), computeOfflineEquityMargin, foldlM_tally_none h]
  rfl

lemma preCheck_unpriced (h : ¬ Priced positions prices) : preCheck r a terms positions prices = some none :=
  if_neg fun hall => h (priced_all.mp hall)

lemma level_lt {balance total margin level : ℚ} (h : 0 < margin) :
    (balance + total) / margin * 100 < level ↔ total < level / 100 * margin - balance := by
  rw [← lt_div_iff₀ (by norm_num : (0 : ℚ) < 100), div_lt_iff₀ h, lt_sub_iff_add_lt']

lemma margin_nil : margin r a terms.currency [] = 0 := rfl

lemma quantize_nonpos {x : ℚ} (h : x ≤ 0) : quantize 2 x ≤ 0 :=
  roundHalfEven_le (by push_cast; linarith)

lemma scan_iff (hmargin : marginEngine a.accountType = true) :
    scanLiquidates (unrounded decimal str) a terms positions prices = true ↔
      Examined a positions prices ∧ 0 < margin (unrounded decimal str) a terms.currency positions ∧
        floating (unrounded decimal str) terms.currency positions prices <
          margin (unrounded decimal str) a terms.currency positions / 2 - a.balance.value := by
  rw [scanLiquidates, Examined]
  by_cases hpriced : Priced positions prices
  · by_cases hregistered : Registered positions
    · rw [preCheck_eq hmargin hpriced hregistered]
      by_cases hpositive : 0 < margin (unrounded decimal str) a terms.currency positions
      · have hne : positions ≠ [] := by
          rintro rfl
          exact absurd hpositive (lt_irrefl 0)
        have hhalf (m : ℚ) : (50 : ℚ) / 100 * m = m / 2 := by ring
        simp [level_lt hpositive, hhalf, hpositive, hpriced, hregistered, hne]
      · simp [hpositive]
    · rw [preCheck_raises hpriced hregistered]
      simp [hregistered]
  · rw [preCheck_unpriced hpriced]
    simp [hpriced]

lemma quantize_sum (balance : Balance) (total : ℚ) :
    round2 (unrounded decimal str) (balance.value + round2 (unrounded decimal str) total) =
      scaled 2 (balance.units + quantize 2 total) := by
  have hsum : balance.value + scaled 2 (quantize 2 total) = scaled 2 (balance.units + quantize 2 total) :=
    scaled_add 2 _ _
  change scaled 2 (quantize 2 (balance.value + scaled 2 (quantize 2 total))) = _
  rw [hsum, quantize, scaled_mul, roundHalfEven_intCast]

lemma liveLiquidates_eq (hmargin : marginEngine a.accountType = true) (hregistered : Registered positions) :
    liveLiquidates (unrounded decimal str) a terms positions prices = true ↔
      Priced positions prices ∧ a.status = .active ∧ positions ≠ [] ∧
        0 < quantize 2 (margin (unrounded decimal str) a terms.currency positions) ∧
          scaled 2 (a.balance.units + quantize 2 (floating (unrounded decimal str) terms.currency positions prices)) /
              scaled 2 (quantize 2 (margin (unrounded decimal str) a terms.currency positions)) * 100 <
            stopoutLevel (unrounded decimal str) terms := by
  have htotal : (unrealizedPnlTotal (unrounded decimal str) terms.currency positions prices).1 = 0 + _ :=
    foldl_addUnrealized (0, [])
  have hunpriced : (unrealizedPnlTotal (unrounded decimal str) terms.currency positions prices).2 = [] ↔
      [] = [] ∧ _ := unpriced_iff (0, [])
  rw [liveLiquidates, marginUsedTotal, foldlM_addMargin hregistered]
  dsimp only
  have hequity : round2 (unrounded decimal str) ((unrounded decimal str).float
      ((unrounded decimal str).float a.balance.value + round2 (unrounded decimal str)
        (floating (unrounded decimal str) terms.currency positions prices))) = scaled 2 _ := quantize_sum a.balance _
  have hused : round2 (unrounded decimal str) (margin (unrounded decimal str) a terms.currency positions) =
      scaled 2 (quantize 2 (margin (unrounded decimal str) a terms.currency positions)) := rfl
  rw [htotal, zero_add, zero_add, hequity, hused, checkEquityStopout, if_pos hmargin]
  by_cases hpositive : 0 < quantize 2 (margin (unrounded decimal str) a terms.currency positions)
  · rw [if_neg (by rwa [scaled_nonpos, not_le])]
    simp only [Bool.and_eq_true, List.isEmpty_iff, hunpriced, decide_eq_true_eq, true_and, hpositive, and_assoc,
      Bool.not_eq_true', List.isEmpty_eq_false_iff]
    rfl
  · rw [if_pos (scaled_nonpos.mpr (not_lt.mp hpositive))]
    simp [hpositive]

lemma live_iff (hmargin : marginEngine a.accountType = true) :
    liveLiquidates (unrounded decimal str) a terms positions prices = true ↔
      Examined a positions prices ∧
        0 < quantize 2 (margin (unrounded decimal str) a terms.currency positions) ∧
          RoundsBelow (floating (unrounded decimal str) terms.currency positions prices * 10 ^ 2)
            (⌈stopoutLevel (unrounded decimal str) terms / 100 *
              quantize 2 (margin (unrounded decimal str) a terms.currency positions)⌉ - a.balance.units) := by
  rw [Examined]
  by_cases hregistered : Registered positions
  · rw [liveLiquidates_eq hmargin hregistered, roundsBelow_iff]
    by_cases hpositive : 0 < quantize 2 (margin (unrounded decimal str) a terms.currency positions)
    · have hne : positions ≠ [] := by
        rintro rfl
        rw [margin_nil] at hpositive
        exact absurd (quantize_nonpos le_rfl) (not_le.mpr hpositive)
      have hpositive' : (0 : ℚ) < quantize 2 (margin (unrounded decimal str) a terms.currency positions) := by
        exact_mod_cast hpositive
      rw [scaled_div_scaled, Int.cast_add, level_lt hpositive', lt_sub_iff_add_lt, ← Int.cast_add, ← Int.lt_ceil,
        ← lt_sub_iff_add_lt]
      constructor
      · rintro ⟨hpriced, hactive, -, -, hbelow⟩
        exact ⟨⟨hactive, hpriced, hregistered⟩, hpositive, hbelow⟩
      · rintro ⟨⟨hactive, hpriced, -⟩, -, hbelow⟩
        exact ⟨hpriced, hactive, hne, hpositive, hbelow⟩
    · simp [hpositive]
  · rw [liveLiquidates, marginUsedTotal, foldlM_addMargin_none hregistered]
    simp [hregistered]

end Limits

def retailAccount : ChallengeAccount where
  user := none
  accountType := .retail
  balance := .ofUnits 100000
  equity := .ofUnits 100000
  peakBalance := .ofUnits 100000
  initialBalance := some (.ofUnits 100000)
  tier := none
  phase := .phase1
  profitTarget := none
  maxDrawdown := .ofUnits 120000
  leverage := 100
  status := .active
  createdOn := 0

def seventy : Terms where
  currency := "USD"
  named := by decide
  stopoutLevelSnapshot := some (.ofUnits 7000)

def oneLot : ℕ × Row :=
  (0, { account := 0, symbol := "EUR/USD", side := .buy, qty := .ofUnits 1000000, avgPrice := .ofUnits 1100000,
        sl := none, tp := none })

def quoted (bid ask : ℚ) : Quotes := fun symbol => if symbol = "EUR/USD" then some (bid, ask) else none

end TrxSimulator.Risk.Liquidation
