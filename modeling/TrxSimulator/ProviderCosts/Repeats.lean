import TrxSimulator.ProviderCosts.Notices

/-! What the notices of one payment leave in the broker ledger. A record is identified by the time its notice
came as well as by its amount, so a fee that a second final notice repeats is booked again; it is not
identified by the field it was read from, so two equal network fees are booked once. -/

namespace TrxSimulator.ProviderCosts.Repeats

open Foundations.Tables Foundations.Outcomes Foundations.Decimals Foundations.Runs Money Posting Notices

section Statement

structure Payment where
  operationType : OperationType
  reference : String
deriving DecidableEq

def isOf (p : Payment) (n : Notice) : Bool := n.operationType = p.operationType ∧ n.reference = p.reference

def finalOf (p : Payment) (e : WebhookEvent) : Bool := isOf p e.notice ∧ e.notice.isFinal

/-- The final notice of a payment that was received last, an exact replay not being a new one. -/
def lastFinal (s : State) (p : Payment) : Option WebhookEvent := (s.events.latest (finalOf p)).map Prod.snd

def cents (amount : Decimal) : ℤ := (amount.value?.bind (store 14 2)).elim 0 Numeric.units

def recognised (n : Notice) : List Decimal :=
  n.fee.elim [] fun fee => feeFieldMap.filterMap fun f => parseDecimal (fee.get f.1)

def feeTotal (n : Notice) : ℤ := ((recognised n).map cents).sum

def recordedFor (p : Payment) (costs : Table CostRow) (pk : ℕ) : Bool :=
  (costs.get pk).any fun r => r.record.operationType = p.operationType.text ∧ r.record.providerReference = p.reference

def bookedTo (p : Payment) (costs : Table CostRow) (row : BrokerLedgerRow) : Bool :=
  row.revenueType = .providerCost ∧ row.sourceProviderCost.any (recordedFor p costs)

def costTotal (s : State) (p : Payment) : ℤ :=
  s.ledger.total fun _ row => if bookedTo p s.costs row then row.amount.units else 0

def inUsd (n : Notice) : Bool := n.fee.all fun fee => feeCurrency fee = "usd"

def nonzero (amount : Decimal) : Bool := amount.value?.any fun v => v ≠ 0

def costless (n : Notice) : Bool := (recognised n).all fun amount => !nonzero amount

/-- Finite amounts fit the columns of the record, and the program's context keeps all their digits. -/
def storable (amount : Decimal) : Bool :=
  amount.value?.all fun v => (store 24 10 v).isSome ∧ (store 14 2 v).isSome ∧ context precision v = v

def repeatedNetworkFee (n : Notice) : Bool :=
  n.fee.any fun fee => fee.depositFee = fee.withdrawalFee ∧ (parseDecimal fee.depositFee).any nonzero

def booked (s : State) (c : ProviderCostCandidate) : Bool :=
  (s.costs.first (sameEvidence c)).any fun r => s.ledger.exists? (bookedFor r.1)

/-- Nothing that is booked already stands before a fee that is still to be booked. -/
def Resumable (s : State) (cs : List ProviderCostCandidate) : Prop :=
  cs.Pairwise fun c c' => booked s c = true → booked s c' = true ∨ cents c'.amount = 0

instance (s : State) (cs : List ProviderCostCandidate) : Decidable (Resumable s cs) :=
  inferInstanceAs (Decidable (List.Pairwise _ _))

/-- Of a final notice of the payment: when it is new, the final notices before it reported no fee other than
zero; its two network fees are not one amount; its fees fit their columns; and it does not resume a delivery
that failed between the booking of two of its fees. -/
def Meets (p : Payment) (s : State) (d : Delivery) : Prop :=
  isOf p d.notice = true → d.notice.isFinal = true →
    (s.events.first (sameNotice d.notice) = none →
      ∀ r ∈ s.events.rows, finalOf p r.2 = true → costless r.2.notice = true) ∧
    repeatedNetworkFee d.notice = false ∧ (recognised d.notice).all storable = true ∧
    (d.faults.clear = true → ∀ r ∈ s.events.first (sameNotice d.notice), Resumable s (normalizeCost r.2))

instance (p : Payment) (s : State) (d : Delivery) : Decidable (Meets p s d) :=
  inferInstanceAs (Decidable (isOf p d.notice = true → d.notice.isFinal = true →
    (s.events.first (sameNotice d.notice) = none →
      ∀ r ∈ s.events.rows, finalOf p r.2 = true → costless r.2.notice = true) ∧
    repeatedNetworkFee d.notice = false ∧ (recognised d.notice).all storable = true ∧
    (d.faults.clear = true → ∀ r ∈ s.events.first (sameNotice d.notice), Resumable s (normalizeCost r.2))))

end Statement

section Amounts

variable {c c' : ProviderCostCandidate} {costs costs' : Table CostRow} {x : Captured} {w : ℚ} {u : Usd}
  {l l' : BrokerLedger}

lemma store_negated (hw : context precision w = w) (hu : store 14 2 w = some u) :
    store 18 2 (negate w) = some (u.widen (by decide : 14 ≤ 18)).negate := by
  rw [store_eq_some] at hu ⊢
  rw [negate, context_neg, hw, neg_mul, roundHalfAway_neg, hu]
  rfl

lemma recordOf_congr (h : computeFingerprint c = computeFingerprint c') : recordOf c = recordOf c' := by
  simp only [computeFingerprint, CostFingerprint.mk.injEq, true_and, and_true] at h
  obtain ⟨hop, htype, href, hamount, hcurrency, husd, hquality, hfinal, hat⟩ := h
  simp only [recordOf, hop, htype, href, hamount, hcurrency, husd, hquality, hfinal, hat]

/-- Every record was made of a candidate with its fingerprint. -/
def Recorded (costs : Table CostRow) : Prop :=
  ∀ pk r, costs.get pk = some r → ∃ c, r.fingerprint = computeFingerprint c ∧ recordOf c = some r.record

lemma recordOf_of_same (hr : Recorded costs) {pk : ℕ} {r : CostRow} (h : costs.get pk = some r)
    (hc : sameEvidence c r = true) : recordOf c = some r.record := by
  obtain ⟨c', hfp, hrec⟩ := hr pk r h
  rw [sameEvidence, decide_eq_true_eq, hfp] at hc
  rw [← recordOf_congr hc, hrec]

lemma capture_cases (h : captureProviderCostCandidate costs c = some (costs', x)) :
    ∃ r, costs'.first (sameEvidence c) = some (x.pk, r) ∧ x.record = r.record ∧
      ((costs' = costs ∧ x.usdValue = r.record.usdValue.map Numeric.value) ∨
        (costs.first (sameEvidence c) = none ∧ recordOf c = some r.record ∧
          costs' = costs.insert ⟨r.record, computeFingerprint c⟩ ∧ x.usdValue = c.usdValue.bind Decimal.value?)) := by
  rw [captureProviderCostCandidate] at h
  split at h
  · next pk row hfirst =>
    cases h
    exact ⟨row, hfirst, rfl, Or.inl ⟨rfl, rfl⟩⟩
  · next hfirst =>
    obtain ⟨record, hrec, hpair⟩ := Option.map_eq_some_iff.mp h
    cases hpair
    refine ⟨⟨record, computeFingerprint c⟩, ?_, rfl, Or.inr ⟨hfirst, hrec, rfl, rfl⟩⟩
    rw [Table.first_insert, hfirst, Option.none_or, if_pos (by simp [sameEvidence])]

lemma recordRevenue_cases (h : recordRevenue l x = .ok l') :
    l' = l ∨ ∃ row, l.exists? (bookedFor x.pk) = false ∧ row.sourceProviderCost = some x.pk ∧
      row.revenueType = .providerCost ∧ x.record.isFinal = true ∧ l' = l.insert row := by
  rw [recordRevenue] at h
  split at h
  · cases h
    exact Or.inl rfl
  split at h
  · cases h
    exact Or.inl rfl
  next hfinal =>
  split at h
  · cases h
    exact Or.inl rfl
  split at h
  · cases h
    exact Or.inl rfl
  · simp only [bookCost, bind_eq_ok, require_eq_ok, guard_eq_ok, pure_eq_ok, Bool.not_eq_true] at h
    obtain ⟨stored, -, hdup, rfl⟩ := h
    exact Or.inr ⟨_, hdup, rfl, rfl, by simpa using hfinal, rfl⟩

lemma recordRevenue_worth (hq : x.record.quality = .actual) (hf : x.record.isFinal = true)
    (hx : x.usdValue = some w) (hw : context precision w = w) (hu : store 14 2 w = some u) :
    recordRevenue l x = if w = 0 then .ok l else if l.exists? (bookedFor x.pk) then
        .error (.duplicateProviderCostRevenue x.pk)
      else .ok (l.insert { revenueType := .providerCost, amount := (u.widen (by decide : 14 ≤ 18)).negate,
                           sourceProviderCost := some x.pk, info := some (costMeta x.pk x.record none) }) := by
  have hzero : negate w = 0 ↔ w = 0 := by rw [negate, context_neg, hw, neg_eq_zero]
  rw [recordRevenue, if_neg (by simp [hq]), if_neg (by simp [hf]), hx]
  simp only [hzero, bookCost, store_negated hw hu, require]
  rfl

end Amounts

section Candidates

variable {e : WebhookEvent} {c : ProviderCostCandidate} {p : Payment}

lemma mem_normalizeCost (h : c ∈ normalizeCost e) : c.operationType = e.notice.operationType ∧
    c.providerReference = e.notice.reference ∧ c.isFinal = e.notice.isFinal ∧ c.quality = .actual ∧
    c.amount ∈ recognised e.notice ∧ (inUsd e.notice = true → c.usdValue = some c.amount) := by
  rw [normalizeCost] at h
  split at h
  · cases h
  next fee hfee =>
  obtain ⟨f, hf, hc⟩ := List.mem_filterMap.mp h
  obtain ⟨amount, hamount, rfl⟩ := Option.map_eq_some_iff.mp hc
  refine ⟨rfl, rfl, rfl, rfl, ?_, fun husd => ?_⟩
  · rw [recognised, hfee]
    exact List.mem_filterMap.mpr ⟨f, hf, hamount⟩
  · rw [inUsd, hfee] at husd
    exact if_pos (of_decide_eq_true husd)

lemma map_amount_normalizeCost (e : WebhookEvent) :
    (normalizeCost e).map ProviderCostCandidate.amount = recognised e.notice := by
  rw [normalizeCost, recognised]
  cases e.notice.fee with
  | none => rfl
  | some fee =>
    simp only [Option.elim_some, List.map_filterMap]
    apply List.filterMap_congr
    intro f _
    simp only [normalizeField, Option.map_map]
    cases parseDecimal (fee.get f.1) <;> rfl

lemma parseDecimal_eq_some {raw : RawFee} {amount : Decimal} :
    parseDecimal raw = some amount ↔ raw = .decimal amount := by
  cases raw <;> simp [parseDecimal]

/-- Two candidates of one notice share a record only where they are the two network fees. -/
lemma distinct_fingerprints (h : repeatedNetworkFee e.notice = false) : (normalizeCost e).Pairwise fun c c' =>
    computeFingerprint c = computeFingerprint c' → nonzero c.amount = false := by
  rw [normalizeCost]
  cases hfee : e.notice.fee with
  | none => exact List.Pairwise.nil
  | some fee =>
    have hnetwork : ∀ amount, parseDecimal fee.depositFee = some amount →
        parseDecimal fee.withdrawalFee = some amount → nonzero amount = false := by
      intro amount hd hw
      rw [parseDecimal_eq_some] at hd hw
      simpa [repeatedNetworkFee, hfee, hd, hw, parseDecimal] using h
    simp only [feeFieldMap, List.filterMap_cons, List.filterMap_nil, normalizeField, FeeObject.get]
    cases hs : parseDecimal fee.serviceFee <;> cases hd : parseDecimal fee.depositFee <;>
      cases hw : parseDecimal fee.withdrawalFee <;> simp [computeFingerprint]
    all_goals
      rintro rfl
      exact fun _ => hnetwork _ hd hw

end Candidates

section Rounds

variable {s s' : State} {c c' : ProviderCostCandidate} {f : Faults} {costs costs' : Table CostRow} {x : Captured}

/-- The candidates of a final notice in dollars whose fees fit their columns. -/
structure Worth (c : ProviderCostCandidate) : Prop where
  actual : c.quality = .actual
  usd : c.usdValue = some c.amount
  fits : storable c.amount = true

lemma recordOf_worth (hc : Worth c) {record : ProviderCostRecord} (h : recordOf c = some record) :
    record.quality = .actual ∧ record.isFinal = c.isFinal ∧ ∃ v u, c.amount.value? = some v ∧
      context precision v = v ∧ store 14 2 v = some u ∧ u.units = cents c.amount ∧ record.usdValue = some u := by
  have hfits := hc.fits
  simp only [recordOf, storedUsd, hc.usd, Option.bind_eq_bind, Option.bind_eq_some_iff, Option.map_eq_some_iff,
    Option.pure_def, Option.some.injEq] at h
  obtain ⟨amount, ⟨v, hv, -⟩, usdValue, ⟨u, ⟨v', hv', hu⟩, rfl⟩, rfl⟩ := h
  rw [hv, Option.some.injEq] at hv'
  subst hv'
  simp only [storable, hv, Option.all_some, decide_eq_true_eq] at hfits
  refine ⟨hc.actual, rfl, v, u, hv, hfits.2.2, hu, ?_, rfl⟩
  rw [cents, hv, Option.bind_some, hu, Option.elim_some]

lemma recordOf_isSome (hc : Worth c) {v : ℚ} (hv : c.amount.value? = some v) : ∃ record, recordOf c = some record := by
  have hfits := hc.fits
  simp only [storable, hv, Option.all_some, decide_eq_true_eq] at hfits
  obtain ⟨amount, hamount⟩ := Option.isSome_iff_exists.mp hfits.1
  obtain ⟨u, hu⟩ := Option.isSome_iff_exists.mp hfits.2.1
  rw [recordOf, hc.usd, hv, Option.bind_some, hamount]
  simp [storedUsd, hv, hu]

lemma captured_worth (hr : Recorded costs) (hc : Worth c)
    (h : captureProviderCostCandidate costs c = some (costs', x)) :
    x.record.quality = .actual ∧ x.record.isFinal = c.isFinal ∧ ∃ w u, x.usdValue = some w ∧
      context precision w = w ∧ store 14 2 w = some u ∧ u.units = cents c.amount ∧ (w ≠ 0 → nonzero c.amount = true) := by
  obtain ⟨r, hfirst, hrecord, hfrom⟩ := capture_cases h
  rw [hrecord]
  rcases hfrom with ⟨rfl, husd⟩ | ⟨-, hrec, -, husd⟩
  · obtain ⟨hget, hsame⟩ := Table.first_some hfirst
    obtain ⟨hq, hf, v, u, hv, hexact, hu, hcents, hstored⟩ := recordOf_worth hc (recordOf_of_same hr hget hsame)
    refine ⟨hq, hf, u.value, u, by rw [husd, hstored, Option.map_some], ?_, store_value u, hcents, fun hne => ?_⟩
    · refine context_scaled (u.fits.trans_le ?_)
      norm_num [precision]
    · rw [nonzero, hv, Option.any_some, decide_eq_true_eq]
      rintro rfl
      apply hne
      rw [store_eq_some, zero_mul] at hu
      rw [Numeric.value, ← hu]
      norm_num [roundHalfAway, scaled]
  · obtain ⟨hq, hf, v, u, hv, hexact, hu, hcents, -⟩ := recordOf_worth hc hrec
    refine ⟨hq, hf, v, u, by rw [husd, hc.usd, Option.bind_some, hv], hexact, hu, hcents, fun hne => ?_⟩
    rw [nonzero, hv, Option.any_some, decide_eq_true_eq]
    exact hne

structure Round (c : ProviderCostCandidate) (s s' : State) : Prop where
  events : s'.events = s.events
  costs : s'.costs = s.costs ∨ ∃ record, s.costs.first (sameEvidence c) = none ∧ recordOf c = some record ∧
    s'.costs = s.costs.insert ⟨record, computeFingerprint c⟩
  ledger : s'.ledger = s.ledger ∨ ∃ pk r row, s'.costs.first (sameEvidence c) = some (pk, r) ∧
    s.ledger.exists? (bookedFor pk) = false ∧ row.sourceProviderCost = some pk ∧ row.revenueType = .providerCost ∧
    r.record.isFinal = true ∧ s'.ledger = s.ledger.insert row ∧
    (Worth c → row.amount.units = -cents c.amount ∧ nonzero c.amount = true)

lemma Round.refl (c : ProviderCostCandidate) (s : State) : Round c s s := ⟨rfl, Or.inl rfl, Or.inl rfl⟩

lemma processCandidate_round (hr : Recorded s.costs) (f : Faults) (c : ProviderCostCandidate) :
    Round c s (processCandidate f s c).1 := by
  rw [processCandidate]
  split
  · exact Round.refl c s
  split
  · exact Round.refl c s
  next costs x hcapture =>
  obtain ⟨r, hfirst, hrecord, hfrom⟩ := capture_cases hcapture
  have hcosts : costs = s.costs ∨ ∃ record, s.costs.first (sameEvidence c) = none ∧ recordOf c = some record ∧
      costs = s.costs.insert ⟨record, computeFingerprint c⟩ := by
    rcases hfrom with ⟨h, -⟩ | ⟨hnone, hrec, h, -⟩
    · exact Or.inl h
    · exact Or.inr ⟨_, hnone, hrec, h⟩
  split
  · exact ⟨rfl, hcosts, Or.inl rfl⟩
  split
  · next ledger hpost =>
    refine ⟨rfl, hcosts, ?_⟩
    rcases recordRevenue_cases hpost with h | ⟨row, hdup, hsource, htype, hfinal, h⟩
    · exact Or.inl h
    refine Or.inr ⟨x.pk, r, row, hfirst, hdup, hsource, htype, hrecord ▸ hfinal, h, fun hc => ?_⟩
    obtain ⟨hq, -, w, u, hw, hexact, hu, hcents, hne⟩ := captured_worth hr hc hcapture
    rw [recordRevenue_worth hq hfinal hw hexact hu, hdup] at hpost
    subst h
    by_cases h0 : w = 0
    · rw [if_pos h0] at hpost
      have hnext := congrArg Table.next (Except.ok.inj hpost)
      simp at hnext
    · rw [if_neg h0] at hpost
      have hrow := congrArg (fun l : BrokerLedger => l.get s.ledger.next) (Except.ok.inj hpost)
      simp only [Table.get_insert_next, Option.some.injEq] at hrow
      rw [← hrow, ← hcents]
      exact ⟨rfl, hne h0⟩
  · exact ⟨rfl, hcosts, Or.inl rfl⟩

/-- The rows of the ledger belong to final records. -/
def Sourced (s : State) : Prop := ∀ i row, s.ledger.get i = some row →
  ∃ pk r, row.sourceProviderCost = some pk ∧ s.costs.get pk = some r ∧ r.record.isFinal = true

def ofPayment (p : Payment) (c : ProviderCostCandidate) : Bool :=
  c.operationType = p.operationType ∧ c.providerReference = p.reference

lemma text_injective {a b : OperationType} (h : a.text = b.text) : a = b := by
  cases a <;> cases b <;> simp_all [OperationType.text]

lemma recordOf_key {record : ProviderCostRecord} (h : recordOf c = some record) :
    record.operationType = c.operationType.text ∧ record.providerReference = c.providerReference ∧
      record.isFinal = c.isFinal := by
  simp only [recordOf, Option.bind_eq_bind, Option.bind_eq_some_iff, Option.pure_def, Option.some.injEq] at h
  obtain ⟨amount, -, usdValue, -, rfl⟩ := h
  exact ⟨rfl, rfl, rfl⟩

lemma sameEvidence_congr (h : computeFingerprint c' = computeFingerprint c) : sameEvidence c' = sameEvidence c := by
  funext row
  rw [sameEvidence, sameEvidence, h]

lemma Round.get (h : Round c s s') {pk : ℕ} {r : CostRow} (hr : s.costs.get pk = some r) :
    s'.costs.get pk = some r := by
  rcases h.costs with hc | ⟨record, -, -, hc⟩
  · rw [hc, hr]
  · rw [hc, Table.get_insert_of_get hr]

lemma Round.recorded (h : Round c s s') (hr : Recorded s.costs) : Recorded s'.costs := by
  intro pk r hget
  rcases h.costs with hc | ⟨record, -, hrec, hc⟩
  · exact hr pk r (hc ▸ hget)
  · rw [hc] at hget
    rcases Table.get_insert_some hget with hold | ⟨-, rfl⟩
    · exact hr pk r hold
    · exact ⟨c, rfl, hrec⟩

lemma Round.sourced (h : Round c s s') (hr : Sourced s) : Sourced s' := by
  intro i row hrow
  have hold : ∀ i row, s.ledger.get i = some row →
      ∃ pk r, row.sourceProviderCost = some pk ∧ s'.costs.get pk = some r ∧ r.record.isFinal = true := by
    intro i row hi
    obtain ⟨pk, r, hsource, hget, hfinal⟩ := hr i row hi
    exact ⟨pk, r, hsource, h.get hget, hfinal⟩
  rcases h.ledger with hl | ⟨pk, r, new, hfirst, -, hsource, -, hfinal, hl, -⟩
  · exact hold i row (hl ▸ hrow)
  · rw [hl] at hrow
    rcases Table.get_insert_some hrow with hi | ⟨-, rfl⟩
    · exact hold i row hi
    · exact ⟨pk, r, hsource, (Table.first_some hfirst).1, hfinal⟩

lemma Sourced.unbooked (hs : Sourced s) : s.ledger.exists? (bookedFor s.costs.next) = false := by
  rw [Bool.eq_false_iff, ne_eq, Table.exists?_iff]
  rintro ⟨i, row, hi, hfor⟩
  obtain ⟨pk, r, hsource, hget, -⟩ := hs i row hi
  rw [bookedFor, decide_eq_true_eq, hsource, Option.some.injEq] at hfor
  rw [hfor.1, Table.get_next] at hget
  cases hget

/-- Before the ledger is written the booked candidates are those that were booked. -/
lemma Round.booked_costs (h : Round c s s') (hs : Sourced s) (c' : ProviderCostCandidate) :
    booked { s with costs := s'.costs } c' = booked s c' := by
  rcases h.costs with hc | ⟨record, hnone, -, hc⟩
  · rw [hc]
  · rw [booked, booked, hc, Table.first_insert]
    by_cases heq : computeFingerprint c' = computeFingerprint c
    · rw [sameEvidence_congr heq, hnone, Option.none_or, if_pos (by simp [sameEvidence])]
      exact hs.unbooked
    · rw [if_neg (by simpa [sameEvidence] using Ne.symm heq), Option.or_none]

lemma bookedFor_insert {l : BrokerLedger} {row : BrokerLedgerRow} {pk : ℕ} :
    (l.insert row).exists? (bookedFor pk) = (l.exists? (bookedFor pk) || bookedFor pk row) := by
  simp [Table.exists?, Table.rows_insert]

lemma costTotal_costs (h : Round c s s') (hs : Sourced s) (p : Payment) :
    costTotal { s with costs := s'.costs } p = costTotal s p := by
  refine Table.total_ext fun i => ?_
  cases hi : s.ledger.get i with
  | none => rfl
  | some row =>
    obtain ⟨pk, r, hsource, hget, -⟩ := hs i row hi
    simp [bookedTo, hsource, recordedFor, hget, h.get hget]

lemma Round.books (h : Round c s s') (hr : Recorded s.costs) (hs : Sourced s) (p : Payment) :
    ((∀ c', booked s' c' = booked s c') ∧ costTotal s' p = costTotal s p) ∨
      (booked s c = false ∧ c.isFinal = true ∧ (Worth c → nonzero c.amount = true) ∧
        (∀ c', booked s' c' = (booked s c' || decide (computeFingerprint c' = computeFingerprint c))) ∧
        (ofPayment p c = false → costTotal s' p = costTotal s p) ∧
        (ofPayment p c = true → Worth c → costTotal s' p = costTotal s p - cents c.amount)) := by
  have hbooked := h.booked_costs hs
  have htotal := costTotal_costs h hs p
  rcases h.ledger with hl | ⟨pk, r, row, hfirst, hdup, hsource, htype, hfinal, hl, hworth⟩
  · have hsame : s' = { s with costs := s'.costs } := by
      rw [← hl, ← h.events]
    refine Or.inl ⟨fun c' => ?_, ?_⟩
    · rw [hsame]
      exact hbooked c'
    · rw [hsame]
      exact htotal
  obtain ⟨hget, hsame⟩ := Table.first_some hfirst
  have hrec := recordOf_of_same (h.recorded hr) hget hsame
  obtain ⟨hop, href, hfin⟩ := recordOf_key hrec
  have hpay : recordedFor p s'.costs pk = ofPayment p c := by
    rw [recordedFor, hget, Option.any_some, hop, href, ofPayment, Bool.eq_iff_iff, decide_eq_true_eq, decide_eq_true_eq]
    exact and_congr_left fun _ => ⟨text_injective, congrArg _⟩
  have hrow : bookedTo p s'.costs row = ofPayment p c := by
    simp [bookedTo, htype, hsource, hpay]
  have hsum : costTotal s' p = costTotal s p + if ofPayment p c then row.amount.units else 0 := by
    rw [costTotal, hl, Table.total_insert, hrow, ← htotal]
    rfl
  refine Or.inr ⟨?_, hfin ▸ hfinal, fun hc => (hworth hc).2, fun c' => ?_, fun hp => ?_, fun hp hc => ?_⟩
  · rw [← hbooked, booked, hfirst, Option.any_some, hdup]
  · rw [← hbooked c', booked, booked, hl]
    by_cases heq : computeFingerprint c' = computeFingerprint c
    · rw [sameEvidence_congr heq, hfirst, Option.any_some, bookedFor_insert]
      simp [bookedFor, hsource, htype, heq]
    · cases hfirst' : s'.costs.first (sameEvidence c') with
      | none => simp [heq]
      | some r' =>
        have hne : pk ≠ r'.1 := by
          rintro rfl
          obtain ⟨hget', hsame'⟩ := Table.first_some (i := r'.1) (a := r'.2) hfirst'
          rw [hget, Option.some.injEq] at hget'
          rw [← hget', sameEvidence, decide_eq_true_eq] at hsame'
          rw [sameEvidence, decide_eq_true_eq] at hsame
          exact heq (hsame'.symm.trans hsame)
        simp [bookedFor_insert, bookedFor, hsource, hne, heq]
  · rw [hsum, hp, if_neg (by simp), add_zero]
  · rw [hsum, if_pos hp, (hworth hc).1, sub_eq_add_neg]

end Rounds

section Books

variable {s s' : State} {c : ProviderCostCandidate} {p : Payment} {f : Faults} {e : WebhookEvent} {i : ℕ}
  {cs : List ProviderCostCandidate}

def bookedSum (s : State) (cs : List ProviderCostCandidate) : ℤ :=
  (cs.map fun c => if booked s c then cents c.amount else 0).sum

/-- The books of a payment: only its last final notice reports fees, and the rows of the payment are those of
the booked candidates of that notice. -/
structure Books (p : Payment) (s : State) : Prop where
  evidence : ∀ pk r, s.costs.get pk = some r → ∃ i e c, s.events.get i = some e ∧ c ∈ normalizeCost e ∧
    r.fingerprint = computeFingerprint c ∧ recordOf c = some r.record
  sourced : Sourced s
  proper : ∀ i e, s.events.get i = some e → finalOf p e = true → inUsd e.notice = true ∧
    (recognised e.notice).all storable = true ∧ repeatedNetworkFee e.notice = false
  superseded : ∀ i e, s.events.get i = some e → finalOf p e = true →
    s.events.latest (finalOf p) = some (i, e) ∨ costless e.notice = true
  total : costTotal s p = -(lastFinal s p).elim 0 fun e => bookedSum s (normalizeCost e)
  unique : ∀ i j e e', s.events.get i = some e → s.events.get j = some e' → e.notice = e'.notice → i = j
  worthwhile : ∀ c, ofPayment p c = true → booked s c = true → nonzero c.amount = true

lemma Books.recorded (h : Books p s) : Recorded s.costs := by
  intro pk r hr
  obtain ⟨i, e, c, -, -, hfp, hrec⟩ := h.evidence pk r hr
  exact ⟨c, hfp, hrec⟩

lemma ofPayment_candidate (hc : c ∈ normalizeCost e) : ofPayment p c = isOf p e.notice := by
  obtain ⟨hop, href, -⟩ := mem_normalizeCost hc
  rw [ofPayment, isOf, hop, href]

lemma Books.worth (h : Books p s) (he : s.events.get i = some e) (hf : finalOf p e = true)
    (hc : c ∈ normalizeCost e) : Worth c := by
  obtain ⟨-, -, -, hq, hamount, husd⟩ := mem_normalizeCost hc
  obtain ⟨hin, hall, -⟩ := h.proper i e he hf
  exact ⟨hq, husd hin, List.all_eq_true.mp hall _ hamount⟩

lemma nonzero_of_cents {amount : Decimal} (h : cents amount ≠ 0) : nonzero amount = true := by
  rw [cents] at h
  rw [nonzero]
  cases hv : amount.value? with
  | none =>
    rw [hv] at h
    exact (h rfl).elim
  | some v =>
    rw [Option.any_some, decide_eq_true_eq]
    rintro rfl
    rw [hv, Option.bind_some] at h
    cases hu : store 14 2 0 with
    | none =>
      rw [hu] at h
      exact h rfl
    | some u =>
      rw [hu, Option.elim_some] at h
      rw [store_eq_some, zero_mul] at hu
      apply h
      rw [← hu]
      norm_num [roundHalfAway]

lemma bookedSum_round (hc : c ∈ cs) (hb : booked s c = false) (hne : nonzero c.amount = true)
    (hdistinct : cs.Pairwise fun c c' => computeFingerprint c = computeFingerprint c' → nonzero c.amount = false)
    (h : ∀ c', booked s' c' = (booked s c' || decide (computeFingerprint c' = computeFingerprint c))) :
    bookedSum s' cs = bookedSum s cs + cents c.amount := by
  induction cs with
  | nil => cases hc
  | cons c₀ cs ih =>
    obtain ⟨hhead, htail⟩ := List.pairwise_cons.mp hdistinct
    simp only [bookedSum, List.map_cons, List.sum_cons] at ih ⊢
    by_cases heq : computeFingerprint c₀ = computeFingerprint c
    · have hamount : c₀.amount = c.amount := congrArg CostFingerprint.amount heq
      have hrest : ∀ c' ∈ cs, booked s' c' = booked s c' := by
        intro c' hc'
        have hne' : computeFingerprint c' ≠ computeFingerprint c := by
          intro heq'
          have hzero := hhead c' hc' (heq.trans heq'.symm)
          rw [hamount, hne] at hzero
          cases hzero
        rw [h, decide_eq_false hne', Bool.or_false]
      have hb₀ : booked s c₀ = false := by
        rw [← hb, booked, booked, sameEvidence_congr heq]
      have hsum : (cs.map fun c => if booked s' c then cents c.amount else 0) =
          cs.map fun c => if booked s c then cents c.amount else 0 :=
        List.map_congr_left fun c' hc' => by rw [hrest c' hc']
      rw [h, hb₀, heq, hsum, hamount]
      simp only [decide_true, Bool.or_true, if_true, Bool.false_eq_true, if_false]
      ring
    · have hmem : c ∈ cs := (List.mem_cons.mp hc).resolve_left fun hcc => heq (by rw [hcc])
      rw [h, decide_eq_false heq, Bool.or_false, ih hmem htail, add_assoc]

lemma bookedSum_congr (h : ∀ c ∈ cs, booked s' c = booked s c) : bookedSum s' cs = bookedSum s cs := by
  rw [bookedSum, bookedSum, List.map_congr_left fun c hc => by rw [h c hc]]

lemma Books.round (h : Books p s) (hround : Round c s s') (he : s.events.get i = some e)
    (hc : c ∈ normalizeCost e) : Books p s' where
  evidence := by
    intro pk r hr
    rw [hround.events]
    rcases hround.costs with hcosts | ⟨record, -, hrec, hcosts⟩
    · exact h.evidence pk r (hcosts ▸ hr)
    · rw [hcosts] at hr
      rcases Table.get_insert_some hr with hold | ⟨-, rfl⟩
      · exact h.evidence pk r hold
      · exact ⟨i, e, c, he, hc, rfl, hrec⟩
  sourced := hround.sourced h.sourced
  proper := by
    rw [hround.events]
    exact h.proper
  superseded := by
    rw [hround.events]
    exact h.superseded
  total := by
    have hlast : lastFinal s' p = lastFinal s p := by rw [lastFinal, lastFinal, hround.events]
    rw [hlast]
    rcases hround.books h.recorded h.sourced p with ⟨hb, ht⟩ | ⟨hb, hfinal, hworth, hbooked, hother, hown⟩
    · rw [ht, h.total]
      cases lastFinal s p with
      | none => rfl
      | some e' => rw [Option.elim_some, Option.elim_some, bookedSum_congr fun c _ => hb c]
    cases hof : ofPayment p c with
    | false =>
      rw [hother hof, h.total]
      cases hl : lastFinal s p with
      | none => rfl
      | some e' =>
        obtain ⟨r, hr, rfl⟩ := Option.map_eq_some_iff.mp hl
        have hfinal' := (Table.latest_some (i := r.1) (a := r.2) hr).2
        rw [Option.elim_some, Option.elim_some, bookedSum_congr fun c' hc' => ?_]
        have hne : computeFingerprint c' ≠ computeFingerprint c := by
          intro heq
          have hop : c'.operationType = c.operationType := congrArg CostFingerprint.operationType heq
          have href : c'.providerReference = c.providerReference := congrArg CostFingerprint.providerReference heq
          have hof' := ofPayment_candidate (p := p) hc'
          rw [finalOf, decide_eq_true_eq] at hfinal'
          rw [ofPayment, hop, href, ← ofPayment, hof, hfinal'.1] at hof'
          cases hof'
        rw [hbooked, decide_eq_false hne, Bool.or_false]
    | true =>
      have hf : finalOf p e = true := by
        obtain ⟨-, -, hfin, -⟩ := mem_normalizeCost hc
        rw [finalOf, decide_eq_true_eq, ← ofPayment_candidate hc, ← hfin]
        exact ⟨hof, hfinal⟩
      have hw := h.worth he hf hc
      have hne := hworth hw
      obtain ⟨-, -, -, -, hamount, -⟩ := mem_normalizeCost hc
      rcases h.superseded i e he hf with hlatest | hcostless
      · have hl : lastFinal s p = some e := by rw [lastFinal, hlatest, Option.map_some]
        rw [hown hof hw, h.total, hl, Option.elim_some, Option.elim_some,
          bookedSum_round hc hb hne (distinct_fingerprints (h.proper i e he hf).2.2) hbooked]
        ring
      · have hzero := List.all_eq_true.mp hcostless _ hamount
        rw [hne] at hzero
        cases hzero
  unique := by
    rw [hround.events]
    exact h.unique
  worthwhile := by
    intro c' hp hb
    rcases hround.books h.recorded h.sourced p with ⟨hsame, -⟩ | ⟨-, hfinal, hworth, hbooked, -⟩
    · exact h.worthwhile c' hp (hsame c' ▸ hb)
    rw [hbooked, Bool.or_eq_true, decide_eq_true_eq] at hb
    rcases hb with hold | heq
    · exact h.worthwhile c' hp hold
    have hop : c'.operationType = c.operationType := congrArg CostFingerprint.operationType heq
    have href : c'.providerReference = c.providerReference := congrArg CostFingerprint.providerReference heq
    have hamount : c'.amount = c.amount := congrArg CostFingerprint.amount heq
    have hf : finalOf p e = true := by
      rw [finalOf, decide_eq_true_eq, ← ofPayment_candidate hc, ← (mem_normalizeCost hc).2.2.1, hfinal, ofPayment,
        ← hop, ← href, ← ofPayment, hp]
      exact ⟨rfl, rfl⟩
    rw [hamount]
    exact hworth (h.worth he hf hc)

lemma Round.booked_mono (h : Round c s s') (hr : Recorded s.costs) (hs : Sourced s) {c' : ProviderCostCandidate}
    (hb : booked s c' = true) : booked s' c' = true := by
  rcases h.books hr hs ⟨c.operationType, c.providerReference⟩ with ⟨hsame, -⟩ | ⟨-, -, -, hbooked, -⟩
  · rw [hsame, hb]
  · rw [hbooked, hb, Bool.true_or]

lemma processCandidates_books (h : Books p s) (he : s.events.get i = some e) (hcs : ∀ c ∈ cs, c ∈ normalizeCost e) :
    Books p (processCandidates f s cs) ∧ (processCandidates f s cs).events = s.events ∧
      ∀ c, booked s c = true → booked (processCandidates f s cs) c = true := by
  induction cs generalizing s with
  | nil => exact ⟨h, rfl, fun _ => id⟩
  | cons c cs ih =>
    have hround := processCandidate_round h.recorded f c
    have hbooks := h.round hround he (hcs c (List.mem_cons_self ..))
    have hmono : ∀ c', booked s c' = true → booked (processCandidate f s c).1 c' = true :=
      fun c' => hround.booked_mono h.recorded h.sourced
    rw [processCandidates]
    split
    · have he' : (processCandidate f s c).1.events.get i = some e := by rw [hround.events, he]
      obtain ⟨hb, hevents, hm⟩ := ih hbooks he' fun c' hc' => hcs c' (List.mem_cons_of_mem _ hc')
      exact ⟨hb, hevents.trans hround.events, fun c' hc' => hm c' (hmono c' hc')⟩
    · exact ⟨hbooks, hround.events, hmono⟩

lemma clear_field (hf : f.clear = true) (field : RawFeeField) :
    f.capture field = false ∧ f.post field = false := by
  rw [Faults.clear, decide_eq_true_eq, List.all_eq_true] at hf
  cases field with
  | serviceFee => exact of_decide_eq_true (hf.2 (.serviceFee, .providerService) (by simp [feeFieldMap]))
  | depositFee => exact of_decide_eq_true (hf.2 (.depositFee, .network) (by simp [feeFieldMap]))
  | withdrawalFee => exact of_decide_eq_true (hf.2 (.withdrawalFee, .network) (by simp [feeFieldMap]))

lemma processCandidate_clear (hf : f.clear = true) (hr : Recorded s.costs) (hs : Sourced s) (hc : Worth c)
    (hfinal : c.isFinal = true) :
    ((processCandidate f s c).2 = true ∧ (cents c.amount ≠ 0 → booked (processCandidate f s c).1 c = true)) ∨
      ((processCandidate f s c).2 = false ∧ booked s c = true) := by
  obtain ⟨hcapture, hpost⟩ := clear_field hf c.rawFeeField
  rw [processCandidate, if_neg (by simp [hcapture])]
  cases hcap : captureProviderCostCandidate s.costs c with
  | none =>
    refine Or.inl ⟨rfl, fun hne => ?_⟩
    rw [captureProviderCostCandidate] at hcap
    split at hcap
    · cases hcap
    · have hsome := nonzero_of_cents hne
      rw [nonzero, Option.any_eq_true] at hsome
      obtain ⟨v, hv, -⟩ := hsome
      obtain ⟨record, hrec⟩ := recordOf_isSome hc hv
      rw [hrec] at hcap
      cases hcap
  | some pair =>
    obtain ⟨costs, x⟩ := pair
    obtain ⟨hq, hfin, w, u, hw, hexact, hu, hcents, -⟩ := captured_worth hr hc hcap
    obtain ⟨r, hfirst, -⟩ := capture_cases hcap
    have hpaid : booked { s with costs := costs } c = s.ledger.exists? (bookedFor x.pk) := by
      rw [booked, hfirst, Option.any_some]
    have hround : Round c s { s with costs := costs } := by
      obtain ⟨r', -, -, hfrom⟩ := capture_cases hcap
      refine ⟨rfl, ?_, Or.inl rfl⟩
      rcases hfrom with ⟨h, -⟩ | ⟨hnone, hrec, h, -⟩
      · exact Or.inl h
      · exact Or.inr ⟨_, hnone, hrec, h⟩
    simp only [hpost, Bool.false_eq_true, if_false, recordRevenue_worth hq (hfin.trans hfinal) hw hexact hu]
    by_cases h0 : w = 0
    · refine Or.inl ⟨by simp [h0], fun hne => ?_⟩
      rw [h0, store_eq_some, zero_mul] at hu
      refine (hne ?_).elim
      rw [← hcents, ← hu]
      norm_num [roundHalfAway]
    cases hdup : s.ledger.exists? (bookedFor x.pk) with
    | true =>
      refine Or.inr ⟨by simp [h0], ?_⟩
      rw [← hround.booked_costs hs c, hpaid, hdup]
    | false =>
      simp only [h0, if_false, Bool.false_eq_true]
      refine Or.inl ⟨trivial, fun _ => ?_⟩
      rw [booked, hfirst, Option.any_some, bookedFor_insert]
      simp [bookedFor]

lemma processCandidates_clear (hf : f.clear = true) (h : Books p s) (he : s.events.get i = some e)
    (hfinal : finalOf p e = true) (hcs : ∀ c ∈ cs, c ∈ normalizeCost e) (hresume : Resumable s cs)
    (hdistinct : cs.Pairwise fun c c' => computeFingerprint c = computeFingerprint c' → nonzero c.amount = false) :
    ∀ c ∈ cs, cents c.amount ≠ 0 → booked (processCandidates f s cs) c = true := by
  induction cs generalizing s with
  | nil => exact fun c hc => nomatch hc
  | cons c cs ih =>
    have hmem := hcs c (List.mem_cons_self ..)
    have hrest : ∀ c' ∈ cs, c' ∈ normalizeCost e := fun c' hc' => hcs c' (List.mem_cons_of_mem _ hc')
    have hworth := h.worth he hfinal hmem
    have hfin : c.isFinal = true := by
      rw [finalOf, decide_eq_true_eq] at hfinal
      rw [(mem_normalizeCost hmem).2.2.1, hfinal.2]
    have hround := processCandidate_round h.recorded f c
    obtain ⟨hhead, htail⟩ := List.pairwise_cons.mp hdistinct
    obtain ⟨hfirst, hlater⟩ := List.pairwise_cons.mp hresume
    rw [processCandidates]
    rcases processCandidate_clear hf h.recorded h.sourced hworth hfin with ⟨hgo, hbooked⟩ | ⟨hstop, hbooked⟩
    · rw [if_pos hgo]
      have hbooks := h.round hround he hmem
      have he' : (processCandidate f s c).1.events.get i = some e := by rw [hround.events, he]
      have hresume' : Resumable (processCandidate f s c).1 cs := by
        refine (hlater.and (List.pairwise_of_forall_mem_list fun a ha b _ => ha)).imp ?_
        rintro a b ⟨hab, ha⟩ hba
        rcases hround.books h.recorded h.sourced p with ⟨hsame, -⟩ | ⟨-, -, hnonzero, hnew, -⟩
        · rw [hsame] at hba ⊢
          exact hab hba
        · rw [hnew, Bool.or_eq_true, decide_eq_true_eq] at hba
          rcases hba with hold | heq
          · exact (hab hold).imp_left (hround.booked_mono h.recorded h.sourced)
          · have hzero := hhead a ha heq.symm
            rw [hnonzero hworth] at hzero
            cases hzero
      intro c' hc' hne
      rcases List.mem_cons.mp hc' with rfl | hc'
      · exact (processCandidates_books hbooks he' hrest).2.2 _ (hbooked hne)
      · exact ih hbooks he' hrest hresume' htail c' hc' hne
    · rw [if_neg (by simp [hstop])]
      intro c' hc' hne
      refine hround.booked_mono h.recorded h.sourced ?_
      rcases List.mem_cons.mp hc' with rfl | hc'
      · exact hbooked
      · exact (hfirst c' hc' hbooked).resolve_right hne

end Books

section Deliveries

variable {s : State} {p : Payment} {d : Delivery} {n : Notice} {events : Table WebhookEvent} {now : ℕ}

lemma captureEvent_get (events : Table WebhookEvent) (n : Notice) (now : ℕ) :
    ∃ i, (captureEvent events n now).1.get i = some (captureEvent events n now).2 ∧
      (captureEvent events n now).2.notice = n := by
  rw [captureEvent]
  split
  · next i e hfirst =>
    obtain ⟨hget, hsame⟩ := Table.first_some hfirst
    exact ⟨i, hget, of_decide_eq_true hsame⟩
  · exact ⟨events.next, Table.get_insert_next .., rfl⟩

lemma captureEvent_mono {i : ℕ} {e : WebhookEvent} (h : events.get i = some e) :
    (captureEvent events n now).1.get i = some e := by
  rw [captureEvent]
  split
  · exact h
  · exact Table.get_insert_of_get h _

lemma cents_of_costless {e : WebhookEvent} {c : ProviderCostCandidate} (h : costless e.notice = true)
    (hc : c.amount ∈ recognised e.notice) : cents c.amount = 0 := by
  have hzero := List.all_eq_true.mp h _ hc
  by_contra hne
  rw [nonzero_of_cents hne] at hzero
  cases hzero

lemma bookedSum_eq_zero {cs : List ProviderCostCandidate}
    (h : ∀ c ∈ cs, booked s c = true → cents c.amount = 0) : bookedSum s cs = 0 := by
  rw [bookedSum]
  apply List.sum_eq_zero
  intro x hx
  obtain ⟨c, hc, rfl⟩ := List.mem_map.mp hx
  split
  · next hb => exact h c hc hb
  · rfl

lemma Books.of_booked (h : Books p s) {c : ProviderCostCandidate} (hp : ofPayment p c = true)
    (hb : booked s c = true) : ∃ i e, s.events.get i = some e ∧ finalOf p e = true ∧ c.amount ∈ recognised e.notice := by
  rw [booked, Option.any_eq_true] at hb
  obtain ⟨⟨pk, r⟩, hfirst, hexists⟩ := hb
  obtain ⟨hget, hsame⟩ := Table.first_some hfirst
  obtain ⟨i, e, c', he, hc', hfp, hrec⟩ := h.evidence pk r hget
  rw [sameEvidence, decide_eq_true_eq, hfp] at hsame
  obtain ⟨j, row, hrow, hfor⟩ := Table.exists?_iff.mp hexists
  obtain ⟨pk', r', hsource, hget', hfinal⟩ := h.sourced j row hrow
  rw [bookedFor, decide_eq_true_eq, hsource, Option.some.injEq] at hfor
  rw [hfor.1, hget, Option.some.injEq] at hget'
  obtain ⟨-, -, hfin, -, hamount, -⟩ := mem_normalizeCost hc'
  have hp' : ofPayment p c' = true := by
    have hop : c'.operationType = c.operationType := congrArg CostFingerprint.operationType hsame
    have href : c'.providerReference = c.providerReference := congrArg CostFingerprint.providerReference hsame
    rw [ofPayment, hop, href, ← ofPayment, hp]
  refine ⟨i, e, he, ?_, ?_⟩
  · rw [finalOf, decide_eq_true_eq, ← ofPayment_candidate hc', ← hfin, ← (recordOf_key hrec).2.2, hget', hfinal]
    exact ⟨hp', rfl⟩
  · have hsameAmount : c'.amount = c.amount := congrArg CostFingerprint.amount hsame
    rw [← hsameAmount]
    exact hamount

lemma Books.event (h : Books p s) (hm : Meets p s d) (husd : isOf p d.notice = true → inUsd d.notice = true) :
    Books p { s with events := (captureEvent s.events d.notice d.now).1 } := by
  cases hfirst : s.events.first (sameNotice d.notice) with
  | some r =>
    rw [captureEvent, hfirst]
    exact h
  | none =>
    have hcapture : (captureEvent s.events d.notice d.now).1 = s.events.insert ⟨d.notice, d.now⟩ := by
      rw [captureEvent, hfirst]
    rw [hcapture]
    have hearlier : finalOf p ⟨d.notice, d.now⟩ = true →
        ∀ i e, s.events.get i = some e → finalOf p e = true → costless e.notice = true := by
      intro hf i e he hfe
      rw [finalOf, decide_eq_true_eq] at hf
      exact (hm hf.1 hf.2).1 hfirst (i, e) (Table.mem_rows.mpr he) hfe
    constructor
    · intro pk r hr
      obtain ⟨i, e, c, he, hc⟩ := h.evidence pk r hr
      exact ⟨i, e, c, Table.get_insert_of_get he _, hc⟩
    · exact h.sourced
    · intro i e he hf
      rcases Table.get_insert_some he with hold | ⟨-, rfl⟩
      · exact h.proper i e hold hf
      · rw [finalOf, decide_eq_true_eq] at hf
        obtain ⟨-, hnetwork, hstorable, -⟩ := hm hf.1 hf.2
        exact ⟨husd hf.1, hstorable, hnetwork⟩
    · intro i e he hf
      rw [Table.latest_insert]
      rcases Table.get_insert_some he with hold | ⟨rfl, rfl⟩
      · split
        · next hnew => exact Or.inr (hearlier hnew i e hold hf)
        · exact h.superseded i e hold hf
      · rw [if_pos hf]
        exact Or.inl rfl
    · have htotal : costTotal { s with events := s.events.insert ⟨d.notice, d.now⟩ } p = costTotal s p := rfl
      rw [htotal, lastFinal, Table.latest_insert]
      split
      · next hnew =>
        have hold : costTotal s p = 0 := by
          rw [h.total]
          cases hl : lastFinal s p with
          | none => rfl
          | some e =>
            obtain ⟨r, hr, rfl⟩ := Option.map_eq_some_iff.mp hl
            obtain ⟨hget, hf⟩ := Table.latest_some (i := r.1) (a := r.2) hr
            have hcostless := hearlier hnew _ _ hget hf
            rw [Option.elim_some, bookedSum_eq_zero fun c hc _ =>
              cents_of_costless hcostless (mem_normalizeCost hc).2.2.2.2.1, neg_zero]
        rw [hold, Option.map_some, Option.elim_some]
        refine (neg_eq_zero.mpr (bookedSum_eq_zero fun c hc hb => ?_)).symm
        have hp : ofPayment p c = true := by
          rw [finalOf, decide_eq_true_eq] at hnew
          rw [ofPayment_candidate hc, hnew.1]
        obtain ⟨i, e, he, hf, hamount⟩ := h.of_booked hp hb
        exact cents_of_costless (hearlier hnew i e he hf) hamount
      · exact h.total
    · intro i j e e' he he' heq
      have hfresh : ∀ k (b : WebhookEvent), s.events.get k = some b → b.notice ≠ d.notice := by
        intro k b hb hbn
        have hno := Table.first_none hfirst hb
        rw [sameNotice, decide_eq_false_iff_not] at hno
        exact hno hbn
      rcases Table.get_insert_some he with hold | ⟨rfl, rfl⟩
      · rcases Table.get_insert_some he' with hold' | ⟨rfl, rfl⟩
        · exact h.unique i j e e' hold hold' heq
        · exact (hfresh i e hold heq).elim
      · rcases Table.get_insert_some he' with hold' | ⟨rfl, rfl⟩
        · exact (hfresh j e' hold' heq.symm).elim
        · rfl
    · exact h.worthwhile

lemma Books.deliver (h : Books p s) (hm : Meets p s d) (husd : isOf p d.notice = true → inUsd d.notice = true) :
    Books p (deliver s d) := by
  rw [Notices.deliver]
  split
  · exact h
  · obtain ⟨i, he, -⟩ := captureEvent_get s.events d.notice d.now
    exact (processCandidates_books (h.event hm husd) he fun _ => id).1

lemma Books.deliver_mono (h : Books p s) (hm : Meets p s d) (husd : isOf p d.notice = true → inUsd d.notice = true) :
    (∀ c, booked s c = true → booked (Notices.deliver s d) c = true) ∧
      ∀ i e, s.events.get i = some e → (Notices.deliver s d).events.get i = some e := by
  rw [Notices.deliver]
  split
  · exact ⟨fun _ => id, fun _ _ => id⟩
  · obtain ⟨i, he, -⟩ := captureEvent_get s.events d.notice d.now
    obtain ⟨-, hevents, hmono⟩ := processCandidates_books (f := d.faults) (h.event hm husd) he fun _ => id
    refine ⟨hmono, fun j e hj => ?_⟩
    rw [hevents]
    exact captureEvent_mono hj

end Deliveries

section Completion

variable {s : State} {p : Payment} {d : Delivery} {deliveries : List Delivery}

def UsdOnly (p : Payment) (d : Delivery) : Prop := isOf p d.notice = true → inUsd d.notice = true

/-- Every fee of a notice that was received is booked. -/
def Settled (p : Payment) (n : Notice) (s : State) : Prop :=
  ∃ i e, s.events.get i = some e ∧ e.notice = n ∧
    (finalOf p e = true → ∀ c ∈ normalizeCost e, cents c.amount ≠ 0 → booked s c = true)

lemma books_initial (p : Payment) : Books p State.initial := by
  constructor <;> simp [State.initial, Sourced, costTotal, lastFinal, Table.latest, Table.rows, booked, Table.first]

lemma books_run (h : Books p s) (hg : Guarded deliver (Meets p) s deliveries) (husd : ∀ d ∈ deliveries, UsdOnly p d) :
    Books p (run deliver s deliveries) := by
  induction deliveries generalizing s with
  | nil => exact h
  | cons d ds ih =>
    exact ih (h.deliver hg.1 (husd d (List.mem_cons_self ..))) hg.2 fun d' hd' => husd d' (List.mem_cons_of_mem _ hd')

lemma settled_run {n : Notice} (h : Books p s) (hn : Settled p n s) (hg : Guarded deliver (Meets p) s deliveries)
    (husd : ∀ d ∈ deliveries, UsdOnly p d) : Settled p n (run deliver s deliveries) := by
  induction deliveries generalizing s with
  | nil => exact hn
  | cons d ds ih =>
    have hd := husd d (List.mem_cons_self ..)
    obtain ⟨i, e, he, hen, hall⟩ := hn
    obtain ⟨hbooked, hevents⟩ := h.deliver_mono hg.1 hd
    refine ih (h.deliver hg.1 hd) ⟨i, e, hevents i e he, hen, fun hf c hc hne => hbooked c (hall hf c hc hne)⟩ hg.2
      fun d' hd' => husd d' (List.mem_cons_of_mem _ hd')

lemma settled_deliver (h : Books p s) (hm : Meets p s d) (husd : UsdOnly p d) (hclear : d.faults.clear = true) :
    Settled p d.notice (deliver s d) := by
  have hevent : d.faults.event = false := by
    rw [Faults.clear, decide_eq_true_eq] at hclear
    exact hclear.1
  obtain ⟨i, he, hen⟩ := captureEvent_get s.events d.notice d.now
  have hbooks := h.event hm husd
  rw [deliver, if_neg (by simp [hevent])]
  obtain ⟨-, hevents, -⟩ := processCandidates_books (f := d.faults) hbooks he fun _ => id
  refine ⟨i, _, hevents ▸ he, hen, fun hf c hc hne => ?_⟩
  have hfin := hf
  rw [finalOf, decide_eq_true_eq, hen] at hfin
  obtain ⟨-, -, -, hresume⟩ := hm hfin.1 hfin.2
  refine processCandidates_clear hclear hbooks he hf (fun _ => id) ?_
    (distinct_fingerprints (hbooks.proper i _ he hf).2.2) c hc hne
  cases hfirst : s.events.first (sameNotice d.notice) with
  | some r =>
    rw [captureEvent, hfirst]
    exact hresume hclear r hfirst
  | none =>
    have hunbooked : ∀ c ∈ normalizeCost (captureEvent s.events d.notice d.now).2, booked s c = true →
        nonzero c.amount = false := by
      intro c hc hb
      have hp : ofPayment p c = true := by rw [ofPayment_candidate hc, hen, hfin.1]
      obtain ⟨j, e, hj, hfe, hamount⟩ := h.of_booked hp hb
      have hcostless := (hm hfin.1 hfin.2).1 hfirst (j, e) (Table.mem_rows.mpr hj) hfe
      simpa using List.all_eq_true.mp hcostless _ hamount
    refine List.pairwise_of_forall_mem_list fun c hc c' _ hb => ?_
    have hp : ofPayment p c = true := by rw [ofPayment_candidate hc, hen, hfin.1]
    have hne := h.worthwhile c hp hb
    rw [hunbooked c hc hb] at hne
    cases hne

lemma received_run {P : Notice → Prop} (h : ∀ i e, s.events.get i = some e → P e.notice)
    (hds : ∀ d ∈ deliveries, P d.notice) (hb : Books p s) (hg : Guarded deliver (Meets p) s deliveries)
    (husd : ∀ d ∈ deliveries, UsdOnly p d) :
    ∀ i e, (run deliver s deliveries).events.get i = some e → P e.notice := by
  induction deliveries generalizing s with
  | nil => exact h
  | cons d ds ih =>
    have hd := husd d (List.mem_cons_self ..)
    refine ih (fun i e he => ?_) (fun d' hd' => hds d' (List.mem_cons_of_mem _ hd')) (hb.deliver hg.1 hd) hg.2
      fun d' hd' => husd d' (List.mem_cons_of_mem _ hd')
    rw [deliver] at he
    split at he
    · exact h i e he
    obtain ⟨j, hj, -⟩ := captureEvent_get s.events d.notice d.now
    rw [(processCandidates_books (f := d.faults) (hb.event hg.1 hd) hj fun _ => id).2.1] at he
    rw [captureEvent] at he
    split at he
    · exact h i e he
    · rcases Table.get_insert_some he with hold | ⟨-, rfl⟩
      · exact h i e hold
      · exact hds d (List.mem_cons_self ..)

/-- The rows of a payment add up to what its last final notice reports, in every run whose deliveries meet the
condition and in which every notice of the payment was delivered once without a failure. -/
theorem costs_complete (p : Payment) (deliveries : List Delivery)
    (hmeets : Guarded deliver (Meets p) State.initial deliveries) (husd : ∀ d ∈ deliveries, UsdOnly p d)
    (hdelivered : ∀ d ∈ deliveries, isOf p d.notice = true →
      ∃ d' ∈ deliveries, d'.notice = d.notice ∧ d'.faults.clear = true) :
    costTotal (run deliver State.initial deliveries) p =
      -(lastFinal (run deliver State.initial deliveries) p).elim 0 fun e => feeTotal e.notice := by
  have hbooks := books_run (books_initial p) hmeets husd
  rw [hbooks.total]
  cases hl : lastFinal (run deliver State.initial deliveries) p with
  | none => rfl
  | some e =>
    obtain ⟨r, hr, rfl⟩ := Option.map_eq_some_iff.mp hl
    obtain ⟨he, hf⟩ := Table.latest_some (i := r.1) (a := r.2) hr
    have hof : isOf p r.2.notice = true := by
      rw [finalOf, decide_eq_true_eq] at hf
      exact hf.1
    have hsettled : Settled p r.2.notice (run deliver State.initial deliveries) := by
      have hreceived := received_run (P := fun n => ∃ d ∈ deliveries, d.notice = n)
        (by simp [State.initial]) (fun d hd => ⟨d, hd, rfl⟩) (books_initial p) hmeets husd
      obtain ⟨d, hd, hdn⟩ := hreceived r.1 r.2 he
      obtain ⟨d', hd', hdn', hclear⟩ := hdelivered d hd (hdn ▸ hof)
      obtain ⟨before, after, rfl⟩ := List.append_of_mem hd'
      rw [guarded_append, guarded_cons] at hmeets
      obtain ⟨hbefore, hd'meets, hafter⟩ := hmeets
      have hb := books_run (books_initial p) hbefore fun x hx => husd x (by simp [hx])
      have hnow := settled_deliver hb hd'meets (husd d' hd') hclear
      rw [run_append, run_cons, ← hdn, ← hdn']
      exact settled_run (hb.deliver hd'meets (husd d' hd')) hnow hafter fun x hx => husd x (by simp [hx])
    obtain ⟨i, e, hi, hen, hall⟩ := hsettled
    obtain rfl : i = r.1 := hbooks.unique i r.1 e r.2 hi he hen
    obtain rfl : e = r.2 := Option.some.inj (hi.symm.trans he)
    rw [Option.elim_some, Option.elim_some, feeTotal, ← map_amount_normalizeCost, List.map_map, bookedSum]
    congr 2
    apply List.map_congr_left
    intro c hc
    by_cases h0 : cents c.amount = 0
    · simp [h0]
    · rw [hall hf c hc h0, if_pos rfl]
      rfl

def payment : Payment := ⟨.deposit, "5077125051"⟩

def dollars (n : ℕ) : RawFee := .decimal (.finite false n 0)

def reported (status : String) (service deposit withdrawal : RawFee) : Notice where
  operationType := .deposit
  reference := "5077125051"
  status := status
  fee := some ⟨"usd", service, deposit, withdrawal⟩
  rest := "{}"

/-- The process dies before the network fee is posted. -/
def diesAtDepositFee : Faults where
  event := false
  capture _ := false
  post field := field = .depositFee

def redelivered : List Delivery :=
  [⟨reported "waiting" (dollars 1) (dollars 2) .missing, 0, .none⟩,
   ⟨reported "finished" .missing (dollars 2) (dollars 3), 1, diesAtDepositFee⟩,
   ⟨reported "finished" .missing (dollars 2) (dollars 3), 2, .none⟩]

theorem costs_complete_redelivered : costTotal (run deliver State.initial redelivered) payment =
    -(lastFinal (run deliver State.initial redelivered) payment).elim 0 fun e => feeTotal e.notice := by
  refine costs_complete payment redelivered (by decide +kernel) ?_ ?_
  · simp only [UsdOnly]
    decide +kernel
  · decide +kernel

def twoFinals : List Delivery :=
  [⟨reported "confirmed" (dollars 1) .missing .missing, 0, .none⟩,
   ⟨reported "finished" (dollars 1) .missing .missing, 1, .none⟩]

/-- One dollar, reported as confirmed and again as finished, is booked as two. -/
theorem repeated_fee_booked_twice : (∀ d ∈ twoFinals, inUsd d.notice = true ∧ d.faults.clear = true) ∧
    costTotal (run deliver State.initial twoFinals) payment = -200 ∧
    (lastFinal (run deliver State.initial twoFinals) payment).map (fun e => feeTotal e.notice) = some 100 := by
  decide +kernel

/-- Two network fees of one dollar are booked as one. -/
example : costTotal (run deliver State.initial
    [⟨reported "finished" .missing (dollars 1) (dollars 1), 0, .none⟩]) payment = -100 := by
  decide +kernel

/-- A redelivery stops at the fee that the failed delivery had booked. -/
example : costTotal (run deliver State.initial
    [⟨reported "finished" (dollars 1) (dollars 2) .missing, 0, diesAtDepositFee⟩,
     ⟨reported "finished" (dollars 1) (dollars 2) .missing, 1, .none⟩]) payment = -100 := by
  decide +kernel

end Completion

end TrxSimulator.ProviderCosts.Repeats
