import TrxSimulator.Market.Pnl

/-! A profit in the account's currency, from the instrument's own price or from a rate the caller supplies under the
name of a pair of currencies. -/

namespace TrxSimulator.Market.Conversion

open Pnl (Arithmetic ConversionError python)

inductive ConversionMode
  | noConversion | baseAccountInverse | explicitRate | unsupported
deriving DecidableEq

/-- A value that a caller supplies as a number: `Decimal(str(value))` reads it or raises. -/
inductive Given
  | number (value : ℚ)
  | unreadable
deriving DecidableEq

def toDecimal : Given → Option ℚ
  | .number value => some value
  | .unreadable => none

structure PositionPnlResult where
  pnlQuote : ℚ
  quoteCurrency : String
  pnlAccount : Option ℚ
  accountCurrency : String
  conversionMode : ConversionMode
  conversionRate : Option ℚ
  conversionSymbol : Option String
  converted : Bool
  errorCode : Option ConversionError
deriving DecidableEq

def pair (first second : String) : String := first ++ "/" ++ second

def StartsWith (text start : String) : Prop := start.toList <+: text.toList

instance (text start : String) : Decidable (StartsWith text start) :=
  inferInstanceAs (Decidable (_ <+: _))

abbrev Prices := List (String × Given)

/-- A rate that cannot be read, or is zero, is none. -/
def usableRate (prices : Prices) (name : String) : Option ℚ :=
  (prices.lookup name).bind fun given => (toDecimal given).filter (· ≠ 0)

def explicitRate (prices : Prices) : List String → Option (String × ℚ)
  | [] => none
  | name :: names =>
    match usableRate prices name with
    | some rate => some (name, rate)
    | none => explicitRate prices names

def unsupported (pnlQuote : ℚ) (quoteCurrency accountCurrency : String) (conversionSymbol : Option String)
    (errorCode : ConversionError) : PositionPnlResult where
  pnlQuote := pnlQuote
  quoteCurrency := quoteCurrency
  pnlAccount := none
  accountCurrency := accountCurrency
  conversionMode := .unsupported
  conversionRate := none
  conversionSymbol := conversionSymbol
  converted := false
  errorCode := some errorCode

def convertedBy (pnlQuote : ℚ) (quoteCurrency accountCurrency : String) (pnlAccount : ℚ) (mode : ConversionMode)
    (rate : ℚ) (conversionSymbol : Option String) : PositionPnlResult where
  pnlQuote := pnlQuote
  quoteCurrency := quoteCurrency
  pnlAccount := some pnlAccount
  accountCurrency := accountCurrency
  conversionMode := mode
  conversionRate := some rate
  conversionSymbol := conversionSymbol
  converted := true
  errorCode := none

variable (r : Arithmetic)

def convertPnlToAccountCurrency (pnlQuote : Given) (baseCurrency quoteCurrency accountCurrency : String)
    (conversionPrices : Prices) (conversionSymbol : Option String) : PositionPnlResult :=
  match toDecimal pnlQuote with
  | none => unsupported 0 quoteCurrency accountCurrency conversionSymbol .invalidPnlInput
  | some pnl =>
    if quoteCurrency = accountCurrency then
      convertedBy pnl quoteCurrency accountCurrency pnl .noConversion 1 none
    else if baseCurrency = accountCurrency then
      match (conversionSymbol.filter (· ≠ "")).bind (usableRate conversionPrices) with
      | none => unsupported pnl quoteCurrency accountCurrency conversionSymbol .noConversionRateAvailable
      | some rate =>
        convertedBy pnl quoteCurrency accountCurrency (r.decimal (pnl / rate)) .baseAccountInverse rate conversionSymbol
    else
      match explicitRate conversionPrices
          [pair quoteCurrency accountCurrency, pair accountCurrency quoteCurrency] with
      | none => unsupported pnl quoteCurrency accountCurrency none .noConversionRateAvailable
      | some (name, rate) =>
        -- the direction is read off the name of the pair
        convertedBy pnl quoteCurrency accountCurrency
          (if StartsWith name quoteCurrency then r.decimal (pnl * rate) else r.decimal (pnl / rate)) .explicitRate rate
          (some name)

/-- The rate of one pair is supplied, and none under the name of the reverse pair. -/
def SuppliesOnly (prices : Prices) (name reverse : String) (rate : ℚ) : Prop :=
  prices.lookup name = some (.number rate) ∧ (reverse ≠ name → prices.lookup reverse = none)

def ConvertsByRate (baseCurrency quoteCurrency accountCurrency : String) (pnl rate : ℚ) : Prop :=
  ∀ (prices : Prices) (symbol : Option String),
    (SuppliesOnly prices (pair accountCurrency quoteCurrency) (pair quoteCurrency accountCurrency) rate →
      (convertPnlToAccountCurrency r (.number pnl) baseCurrency quoteCurrency accountCurrency prices symbol).pnlAccount =
        some (r.decimal (pnl / rate))) ∧
    (SuppliesOnly prices (pair quoteCurrency accountCurrency) (pair accountCurrency quoteCurrency) rate →
      (convertPnlToAccountCurrency r (.number pnl) baseCurrency quoteCurrency accountCurrency prices symbol).pnlAccount =
        some (r.decimal (pnl * rate)))

section Rates

variable {r} {prices : Prices} {name reverse base quote account : String} {rate pnl : ℚ} {symbol : Option String}

lemma startsWith_pair (first second : String) : StartsWith (pair first second) first := by
  simp [StartsWith, pair, List.append_assoc]

lemma usableRate_eq_some :
    usableRate prices name = some rate ↔ prices.lookup name = some (.number rate) ∧ rate ≠ 0 := by
  rw [usableRate, Option.bind_eq_some_iff]
  constructor
  · rintro ⟨given, hgiven, hrate⟩
    obtain ⟨hread, hne⟩ := Option.filter_eq_some_iff.mp hrate
    cases given with
    | unreadable => simp [toDecimal] at hread
    | number value =>
      obtain rfl : value = rate := by simpa [toDecimal] using hread
      exact ⟨hgiven, by simpa using hne⟩
  · rintro ⟨hgiven, hne⟩
    exact ⟨.number rate, hgiven, by simp [toDecimal, hne]⟩

lemma usableRate_none (h : prices.lookup name = none) : usableRate prices name = none := by
  simp [usableRate, h]

lemma explicitRate_supplied {names : List String} (hmem : name ∈ names) (hne : rate ≠ 0)
    (hgiven : prices.lookup name = some (.number rate))
    (hothers : ∀ other ∈ names, other ≠ name → prices.lookup other = none) :
    explicitRate prices names = some (name, rate) := by
  induction names with
  | nil => cases hmem
  | cons first rest ih =>
    by_cases hfirst : first = name
    · rw [explicitRate, hfirst, usableRate_eq_some.mpr ⟨hgiven, hne⟩]
    · rw [explicitRate, usableRate_none (hothers first List.mem_cons_self hfirst)]
      exact ih ((List.mem_cons.mp hmem).resolve_left (Ne.symm hfirst))
        (fun other hother => hothers other (List.mem_cons_of_mem _ hother))

lemma pnlAccount_explicit (hquote : quote ≠ account) (hbase : base ≠ account) (hne : rate ≠ 0)
    (hname : name = pair quote account ∨ name = pair account quote)
    (hgiven : prices.lookup name = some (.number rate))
    (hothers : ∀ other ∈ [pair quote account, pair account quote], other ≠ name → prices.lookup other = none) :
    (convertPnlToAccountCurrency r (.number pnl) base quote account prices symbol).pnlAccount =
      some (if StartsWith name quote then r.decimal (pnl * rate) else r.decimal (pnl / rate)) := by
  have hmem : name ∈ [pair quote account, pair account quote] := by simpa using hname
  simp [convertPnlToAccountCurrency, toDecimal, hquote, hbase, explicitRate_supplied hmem hne hgiven hothers, convertedBy]

lemma pnlAccount_multiplied (hquote : quote ≠ account) (hbase : base ≠ account) (hne : rate ≠ 0)
    (h : SuppliesOnly prices (pair quote account) (pair account quote) rate) :
    (convertPnlToAccountCurrency r (.number pnl) base quote account prices symbol).pnlAccount =
      some (r.decimal (pnl * rate)) := by
  rw [pnlAccount_explicit hquote hbase hne (.inl rfl) h.1, if_pos (startsWith_pair quote account)]
  simpa using h.2

lemma pnlAccount_reverse (hquote : quote ≠ account) (hbase : base ≠ account) (hne : rate ≠ 0)
    (h : SuppliesOnly prices (pair account quote) (pair quote account) rate) :
    (convertPnlToAccountCurrency r (.number pnl) base quote account prices symbol).pnlAccount =
      some (if StartsWith (pair account quote) quote then r.decimal (pnl * rate) else r.decimal (pnl / rate)) := by
  apply pnlAccount_explicit hquote hbase hne (.inr rfl) h.1
  simpa using h.2

end Rates

lemma convert_own_price {spec : Symbols.SymbolSpec} {base account symbol : String} {price pnl : ℚ}
    (hbase : spec.baseCurrency = base.toList) (hsymbol : symbol ≠ "")
    (hquoted : symbol ≠ pair spec.quoteCurrency account) (hreversed : symbol ≠ pair account spec.quoteCurrency) :
    let result := convertPnlToAccountCurrency r (.number pnl) base spec.quoteCurrency account
      [(symbol, .number price)] (some symbol)
    let position := Pnl.convertPnlToAccountCurrency r pnl spec account price
    result.pnlQuote = position.pnlQuote ∧ result.pnlAccount = position.pnlAccount ∧
      result.errorCode = position.errorCode := by
  have hcross : explicitRate [(symbol, .number price)]
      [pair spec.quoteCurrency account, pair account spec.quoteCurrency] = none := by
    simp [explicitRate, usableRate, List.lookup_cons, beq_false_of_ne (Ne.symm hquoted),
      beq_false_of_ne (Ne.symm hreversed)]
  have hown : ((some symbol).filter (· ≠ "")).bind (usableRate [(symbol, .number price)]) =
      if price = 0 then none else some price := by
    rw [Option.filter_some, if_pos (by simpa using hsymbol), Option.bind_some]
    split <;> simp_all [usableRate, toDecimal]
  simp only [convertPnlToAccountCurrency, Pnl.convertPnlToAccountCurrency, toDecimal, hbase, String.toList_inj]
  by_cases hquote : spec.quoteCurrency = account
  · simp [hquote, convertedBy]
  · by_cases haccount : base = account
    · rw [hown]
      by_cases hprice : price = 0 <;> simp [hquote, haccount, hprice, convertedBy, unsupported]
    · simp [hquote, haccount, hcross, unsupported]

theorem converts_by_rate_iff {base quote account : String} {pnl rate : ℚ} (hquote : quote ≠ account)
    (hbase : base ≠ account) (hrate : rate ≠ 0) :
    ConvertsByRate python base quote account pnl rate ↔
      ¬ StartsWith (pair account quote) quote ∨ python.decimal (pnl * rate) = python.decimal (pnl / rate) := by
  constructor
  · intro h
    by_cases hprefix : StartsWith (pair account quote) quote
    · right
      have honly : SuppliesOnly [(pair account quote, .number rate)] (pair account quote) (pair quote account) rate :=
        ⟨by simp, fun hne => by simp [List.lookup_cons, beq_false_of_ne hne]⟩
      have hdivided := (h _ none).1 honly
      rw [pnlAccount_reverse hquote hbase hrate honly, if_pos hprefix] at hdivided
      exact Option.some.inj hdivided
    · exact .inl hprefix
  · intro h prices symbol
    refine ⟨fun honly => ?_, pnlAccount_multiplied hquote hbase hrate⟩
    rw [pnlAccount_reverse hquote hbase hrate honly]
    rcases h with hprefix | hequal
    · rw [if_neg hprefix]
    · rw [hequal, ite_self]

theorem converts_by_rate_gbp :
    ConvertsByRate python "EUR" "GBP" "USD" 100 (5 / 4) ↔
      ¬ StartsWith (pair "USD" "GBP") "GBP" ∨ python.decimal (100 * (5 / 4)) = python.decimal (100 / (5 / 4)) :=
  converts_by_rate_iff (by decide) (by decide) (by norm_num)

/-- The profit of 10 USD at 2 USD a USDT is 5 USDT, and 20 are posted: `USDT/USD` starts with `USD`. -/
theorem prefix_multiplies :
    (convertPnlToAccountCurrency python (.number 10) "BTC" "USD" "USDT" [("USDT/USD", .number 2)] none).pnlAccount =
        some 20 ∧
      ¬ ConvertsByRate python "BTC" "USD" "USDT" 10 2 := by
  have hposted : (convertPnlToAccountCurrency python (.number 10) "BTC" "USD" "USDT" [("USDT/USD", .number 2)]
      none).pnlAccount = some 20 := by decide +kernel
  refine ⟨hposted, fun h => ?_⟩
  have hconverted := (h [("USDT/USD", .number 2)] none).1 ⟨by decide, fun _ => by decide⟩
  rw [hposted] at hconverted
  revert hconverted
  decide +kernel

end TrxSimulator.Market.Conversion
