import TrxSimulator.Foundations.Outcomes
import TrxSimulator.Money

/-! Booking of provider costs in the broker ledger. A correction books the difference between its own
signed value and the amount its predecessor booked. -/

namespace TrxSimulator.ProviderCosts.Posting

open Foundations.Tables Foundations.Outcomes Foundations.Decimals Money

abbrev Usd := Numeric 14 2

inductive Quality
  | actual | estimated | unknown
deriving DecidableEq

structure ProviderCostRecord where
  provider : String
  operationType : String
  costType : String
  providerReference : String
  amount : Numeric 24 10
  currency : String
  usdValue : Option Usd
  quality : Quality
  isFinal : Bool
  occurredAt : ℕ
  corrects : Option ℕ

inductive RevenueType
  | commission | spread | challengeFee | withdrawFee | adjustment | counterpartyPnl
  | fundedProfitShare | providerCost
deriving DecidableEq

structure CostMeta where
  providerCostRecordId : ℕ
  provider : String
  operationType : String
  costType : String
  providerReference : String
  originalAmount : Numeric 24 10
  originalCurrency : String
  occurredAt : ℕ
  correctsProviderCostRecordId : Option ℕ
  correctionDelta : Bool

structure BrokerLedgerRow where
  revenueType : RevenueType
  amount : Amount
  sourceProviderCost : Option ℕ
  info : Option CostMeta

abbrev BrokerLedger := Table BrokerLedgerRow

inductive CostError
  | duplicateProviderCostRevenue (record : ℕ)
  | numericOverflow (column : String) (value : ℚ)
deriving DecidableEq

def bookedFor (record : ℕ) (row : BrokerLedgerRow) : Bool :=
  row.sourceProviderCost = some record ∧ row.revenueType = .providerCost

def bookedRow (l : BrokerLedger) (record : ℕ) : Option BrokerLedgerRow :=
  (l.latest (bookedFor record)).map Prod.snd

def originalRow (l : BrokerLedger) (record : ProviderCostRecord) : Option BrokerLedgerRow :=
  record.corrects.bind (bookedRow l)

def amountToPost (original : Option BrokerLedgerRow) (usdValue : Usd) : ℚ :=
  match original with
  | some row => minus (negate usdValue.value) row.amount.value
  | none => negate usdValue.value

def costMeta (pk : ℕ) (record : ProviderCostRecord) (original : Option BrokerLedgerRow) : CostMeta where
  providerCostRecordId := pk
  provider := record.provider
  operationType := record.operationType
  costType := record.costType
  providerReference := record.providerReference
  originalAmount := record.amount
  originalCurrency := record.currency
  occurredAt := record.occurredAt
  correctsProviderCostRecordId := if original.isSome then record.corrects else none
  correctionDelta := original.isSome

/-- The insertion, with the unique constraint on source record and revenue type. -/
def bookCost (l : BrokerLedger) (pk : ℕ) (amount : ℚ) (info : CostMeta) : Except CostError BrokerLedger := do
  let stored ← require (store 18 2 amount) (.numericOverflow "amount" amount)
  if l.exists? (bookedFor pk) then .error (.duplicateProviderCostRevenue pk)
  else pure (l.insert { revenueType := .providerCost, amount := stored, sourceProviderCost := some pk,
                        info := some info })

/-- The new ledger; it is the old one when the booking gate is shut or the amount is zero. -/
def recordProviderCostRevenue (l : BrokerLedger) (pk : ℕ) (record : ProviderCostRecord) :
    Except CostError BrokerLedger :=
  if record.quality ≠ .actual then .ok l
  else if record.isFinal = false then .ok l
  else match record.usdValue with
    | none => .ok l
    | some usdValue =>
      if amountToPost (originalRow l record) usdValue = 0 then .ok l
      else bookCost l pk (amountToPost (originalRow l record) usdValue)
        (costMeta pk record (originalRow l record))

def booked (l : BrokerLedger) (record : ℕ) : ℤ := (bookedRow l record).elim 0 fun row => row.amount.units

section Booking

variable {l l' : BrokerLedger} {pk : ℕ} {record : ProviderCostRecord} {usdValue : Usd}

lemma amountToPost_cents (original : Option BrokerLedgerRow) (usdValue : Usd) :
    amountToPost original usdValue =
      scaled 2 (-usdValue.units - original.elim 0 fun row => row.amount.units) := by
  have hu := abs_lt.mp usdValue.fits
  have hneg : |usdValue.units| < 10 ^ precision := by
    rw [precision, abs_lt]
    omega
  cases original with
  | none => simp only [amountToPost, Numeric.value, negate_scaled hneg, Option.elim_none, sub_zero]
  | some row =>
    have hr := abs_lt.mp row.amount.fits
    have hsub : |-usdValue.units - row.amount.units| < 10 ^ precision := by
      rw [precision, abs_lt]
      omega
    simp only [amountToPost, Numeric.value, negate_scaled hneg, minus_scaled hsub, Option.elim_some]

lemma scaled_eq_zero {m : ℤ} : scaled 2 m = 0 ↔ m = 0 := by
  rw [scaled, div_eq_zero_iff, or_iff_left (by norm_num), Int.cast_eq_zero]

lemma bookedRow_insert (row : BrokerLedgerRow) :
    bookedRow (l.insert row) pk = if bookedFor pk row then some row else bookedRow l pk := by
  rw [bookedRow, Table.latest_insert]
  split <;> rfl

lemma bookedRow_none_iff : bookedRow l pk = none ↔ l.exists? (bookedFor pk) = false := by
  constructor
  · intro h
    rw [bookedRow, Option.map_eq_none_iff] at h
    rw [Bool.eq_false_iff, ne_eq, Table.exists?_iff]
    rintro ⟨i, row, hi, hp⟩
    rw [Table.latest_none h hi] at hp
    cases hp
  · intro h
    rw [bookedRow, Option.map_eq_none_iff]
    cases hl : l.latest (bookedFor pk) with
    | none => rfl
    | some r =>
      obtain ⟨hi, hp⟩ := Table.latest_some (i := r.1) (a := r.2) hl
      rw [Table.exists?_false h hi] at hp
      cases hp

lemma recordProviderCostRevenue_final (hq : record.quality = .actual) (hf : record.isFinal = true)
    (hu : record.usdValue = some usdValue)
    (h : recordProviderCostRevenue l pk record = .ok l') :
    let amount := -usdValue.units - (originalRow l record).elim 0 fun row => row.amount.units
    (amount = 0 ∧ l' = l) ∨
      (amount ≠ 0 ∧ bookedRow l pk = none ∧
        ∃ row, row.amount.units = amount ∧ row.sourceProviderCost = some pk ∧
          row.revenueType = .providerCost ∧ l' = l.insert row) := by
  intro amount
  simp only [recordProviderCostRevenue, hq, hf, hu, ne_eq, not_true_eq_false, if_false,
    Bool.true_eq_false, amountToPost_cents, scaled_eq_zero] at h
  split at h
  · next h0 =>
    cases h
    exact Or.inl ⟨h0, rfl⟩
  · next h0 =>
    simp only [bookCost, bind_eq_ok, require_eq_ok, store_scaled, guard_eq_ok, pure_eq_ok,
      Bool.not_eq_true] at h
    obtain ⟨stored, hs, hdup, rfl⟩ := h
    exact Or.inr ⟨h0, bookedRow_none_iff.mpr hdup, _, hs.symm, rfl, rfl, rfl⟩

end Booking

end TrxSimulator.ProviderCosts.Posting
