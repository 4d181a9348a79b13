import TrxSimulator.IBNetwork.Generated

/-! A source row has its commission exactly if some sweep has come to it: if it was among the first rows of its
window, or the network had it in a batch and processed it. -/

namespace TrxSimulator.IBNetwork.Reach

open Foundations.Tables Foundations.Outcomes Foundations.Runs Foundations.Sweeps
open Money Accounts Conservation Triggers Generated
open Accruals hiding step processExecution generatePerLotObligation
open Links (Network Attribution)

section Qualifying

variable {s s' t : Sources} {kind : Kind} {pk : ℕ}

def obligationCount (s : Sources) : Kind → ℕ → ℕ
  | .perLot, pk => lotCount s.books pk
  | .percent kind, pk => percentCount s kind pk

/-- An active introducer, one rule, and an amount that can be stored. -/
def Qualifies (s : Sources) : Kind → ℕ → Prop
  | .perLot, pk => ∃ event, s.books.events.get pk = some event ∧ Earns s.books event
  | .percent kind, pk => ∃ basis, sourceBasis s kind pk = some basis ∧ PercentEarns s kind pk basis

/-- Nothing that decides who earns what has changed. -/
structure Same (s t : Sources) : Prop where
  network : t.books.network = s.books.network
  rules : t.books.rules = s.books.rules
  accounts : t.books.accounts = s.books.accounts
  events : t.books.events = s.books.events
  percentages : t.percentages = s.percentages
  enrollments : t.enrollments = s.enrollments
  deposits : t.deposits = s.deposits
  brokerLedger : t.brokerLedger = s.brokerLedger

lemma same_refl (s : Sources) : Same s s := ⟨rfl, rfl, rfl, rfl, rfl, rfl, rfl, rfl⟩

lemma Same.trans (h : Same s s') (h' : Same s' t) : Same s t where
  network := h'.network.trans h.network
  rules := h'.rules.trans h.rules
  accounts := h'.accounts.trans h.accounts
  events := h'.events.trans h.events
  percentages := h'.percentages.trans h.percentages
  enrollments := h'.enrollments.trans h.enrollments
  deposits := h'.deposits.trans h.deposits
  brokerLedger := h'.brokerLedger.trans h.brokerLedger

lemma Same.sourceBasis (h : Same s t) : sourceBasis t = sourceBasis s := by
  have huser : accountUser t = accountUser s := by
    funext account
    rw [accountUser, accountUser, h.accounts]
  have hrevenue : revenueBasis t = revenueBasis s := by
    funext revenueType row
    simp only [revenueBasis, huser]
  funext kind pk
  cases kind <;> simp only [Generated.sourceBasis, hrevenue, h.enrollments, h.deposits, h.brokerLedger]

lemma Same.commissionTerms (h : Same s t) : commissionTerms t = commissionTerms s := by
  funext kind basis
  cases basis with
  | none => rfl
  | some basis =>
    rw [Triggers.commissionTerms, Triggers.commissionTerms]
    simp only [isActive, resolve_congr h.rules, h.network]
    rfl

lemma Same.qualifies_iff (h : Same s t) : Qualifies t kind pk ↔ Qualifies s kind pk := by
  cases kind with
  | perLot =>
    simp only [Qualifies, h.events]
    exact exists_congr fun event => and_congr_right fun _ => earns_congr h.network h.rules h.accounts
  | percent kind => simp only [Qualifies, PercentEarns, h.sourceBasis, h.commissionTerms, h.percentages]

lemma alreadyObligated_iff : alreadyObligated s kind pk = true ↔ 0 < obligationCount s kind pk := by
  cases kind with
  | perLot => rw [alreadyObligated, obligationCount, lotCount, Table.count_pos_iff]
  | percent kind => rw [alreadyObligated, obligationCount, percentCount, Table.count_pos_iff]

lemma generate_perLot {r : Sources × Option ℕ} : generate s .perLot pk = .ok r ↔
    ∃ event books direct, s.books.events.get pk = some event ∧
      Accruals.generatePerLotObligation s.books pk event = .ok (books, direct) ∧ ({ s with books }, direct) = r := by
  simp only [generate, Triggers.generatePerLotObligation, bind_eq_ok, require_eq_ok, mapError_eq_ok, pure_eq_ok,
    Prod.exists]
  exact exists_congr fun event => by simp

/-- The sweeps may skip a row that has its obligation; of the others the generator refuses those that do not
qualify. -/
lemma qualifies_generates (h : Qualifies s kind pk) : ∃ s' o, generate s kind pk = .ok (s', some o) := by
  cases kind with
  | perLot =>
    obtain ⟨event, hevent, hearns⟩ := h
    obtain ⟨books, o, hgenerated⟩ := earns_generates hearns pk
    exact ⟨_, o, generate_perLot.mpr ⟨event, books, some o, hevent, hgenerated, rfl⟩⟩
  | percent kind =>
    obtain ⟨basis, hbasis, hearns⟩ := h
    obtain ⟨s', o, hgenerated⟩ := percentEarns_generates hearns
    exact ⟨s', o, generate_percent.mpr ⟨basis, hbasis, hgenerated⟩⟩

end Qualifying

section Sweeps

variable {s s' t : Sources} {kind : Kind} {pk : ℕ}

structure Kept (s : Sources) : Prop where
  owned : Owned s.books
  once : ∀ kind pk, obligationCount s kind pk ≤ 1

structure Triggered (s : Sources) (kind : Kind) (pk : ℕ) (s' : Sources) : Prop where
  same : Same s s'
  kept : Kept s'
  own : obligationCount s' kind pk = 1 ↔ obligationCount s kind pk = 1 ∨ Qualifies s kind pk
  apart : ∀ kind' j, kind' ≠ kind ∨ j ≠ pk → obligationCount s' kind' j = obligationCount s kind' j
  receipts : s'.books.executions = s.books.executions

lemma once_of_apart (hs : Kept s) (hown : obligationCount s' kind pk ≤ 1)
    (hapart : ∀ kind' j, kind' ≠ kind ∨ j ≠ pk → obligationCount s' kind' j = obligationCount s kind' j) (kind' : Kind)
    (j : ℕ) : obligationCount s' kind' j ≤ 1 := by
  by_cases hkey : kind' ≠ kind ∨ j ≠ pk
  · exact hapart kind' j hkey ▸ hs.once kind' j
  · push Not at hkey
    obtain ⟨rfl, rfl⟩ := hkey
    exact hown

lemma paid_triggered (hs : Kept s) {books : Books} {event : LotExecutionEvent}
    (hevent : s.books.events.get pk = some event) (h : Paid s.books pk event books) :
    Same s { s with books } ∧ Kept { s with books } ∧
      (obligationCount { s with books } .perLot pk = 1 ↔
        obligationCount s .perLot pk = 1 ∨ Qualifies s .perLot pk) ∧
      ∀ kind' j, kind' ≠ .perLot ∨ j ≠ pk → obligationCount { s with books } kind' j = obligationCount s kind' j := by
  have hapart : ∀ kind' j, kind' ≠ .perLot ∨ j ≠ pk →
      obligationCount { s with books } kind' j = obligationCount s kind' j := by
    intro kind' j hkey
    cases kind' with
    | perLot => exact h.apart j (hkey.resolve_left (by simp))
    | percent kind' => rfl
  refine ⟨⟨h.network, h.rules, h.accounts, h.events, rfl, rfl, rfl, rfl⟩, ⟨h.owned, ?_⟩, ?_, hapart⟩
  · have hone : obligationCount { s with books } .perLot pk ≤ 1 := h.once
    exact once_of_apart hs hone hapart
  · have hqualifies : Qualifies s .perLot pk ↔ Earns s.books event := by simp [Qualifies, hevent]
    rw [hqualifies]
    exact h.own

lemma generated_triggered (hs : Kept s) (hnone : obligationCount s kind pk = 0) {o : Option ℕ}
    (h : generate s kind pk = .ok (s', o)) : Triggered s kind pk s' := by
  cases kind with
  | perLot =>
    obtain ⟨event, books, direct, hevent, hgenerated, hr⟩ := generate_perLot.mp h
    cases hr
    have hlot := lot_generated hgenerated
    obtain ⟨hsame, hkept, hown, hapart⟩ := paid_triggered hs hevent (hlot.paid hs.owned hevent (hs.once .perLot pk))
    exact ⟨hsame, hkept, hown, hapart, hlot.executions⟩
  | percent kind =>
    obtain ⟨basis, hbasis, hgenerated⟩ := generate_percent.mp h
    have hpercent := percent_generated hgenerated
    have hcounted := hpercent.counted hnone
    have hone : obligationCount s' (.percent kind) pk ≤ 1 := hcounted.1
    have hbooks : s'.books = s.books ∧ Same s s' := by
      cases hpercent <;> exact ⟨rfl, rfl, rfl, rfl, rfl, rfl, rfl, rfl, rfl⟩
    have hapart : ∀ kind' j, kind' ≠ .percent kind ∨ j ≠ pk →
        obligationCount s' kind' j = obligationCount s kind' j := by
      intro kind' j hkey
      cases kind' with
      | perLot => rw [obligationCount, hbooks.1, obligationCount]
      | percent kind' => exact hpercent.apart (by simpa using hkey)
    have hqualifies : Qualifies s (.percent kind) pk ↔ PercentEarns s kind pk basis := by simp [Qualifies, hbasis]
    refine ⟨hbooks.2, ⟨hbooks.1 ▸ hs.owned, once_of_apart hs hone hapart⟩, ?_, hapart, hbooks.1 ▸ rfl⟩
    rw [hqualifies, hnone]
    simpa [obligationCount] using hcounted.2

lemma trigger_triggered (hs : Kept s) (h : trigger kind s pk = .ok s') : Triggered s kind pk s' := by
  rw [trigger] at h
  split at h
  · next hdone =>
    cases h
    have hpos := alreadyObligated_iff.mp hdone
    have hone := hs.once kind pk
    exact ⟨same_refl s, hs, ⟨.inl, fun _ => by omega⟩, fun _ _ _ => rfl, rfl⟩
  · next hdone =>
    rw [alreadyObligated_iff, Nat.pos_iff_ne_zero, not_not] at hdone
    obtain ⟨⟨s'', o⟩, hgenerated, rfl⟩ := map_eq_ok.mp h
    exact generated_triggered hs hdone hgenerated

/-- A trigger that raises has not refused a row that qualifies. -/
lemma attempt_trigger_iff (hs : Kept s) :
    obligationCount (attempt (trigger kind) s pk) kind pk = 1 ↔
      obligationCount s kind pk = 1 ∨ Qualifies s kind pk := by
  rw [attempt]
  cases htrigger : trigger kind s pk with
  | ok s' => exact (trigger_triggered hs htrigger).own
  | error e =>
    refine ⟨.inl, fun hor => hor.elim id fun hqualifies => ?_⟩
    obtain ⟨s', o, hgenerated⟩ := qualifies_generates hqualifies
    rw [trigger, hgenerated] at htrigger
    split at htrigger <;> cases htrigger

lemma selectKeys_nodup {α : Type} (t : Table α) (p : α → Bool) : (selectKeys t p).Nodup := by
  refine List.Nodup.map_on ?_ (Table.rows_nodup.filter _)
  rintro ⟨i, a⟩ hi ⟨j, b⟩ hj heq
  have ha := Table.mem_rows.mp (List.mem_filter.mp hi).1
  have hb := Table.mem_rows.mp (List.mem_filter.mp hj).1
  obtain rfl : i = j := heq
  rw [Option.some.inj (ha.symm.trans hb)]

lemma batch_nodup (s : Sources) (kind : Kind) (cutoff : ℤ) (batchSize : ℕ) :
    (batch s kind cutoff batchSize).Nodup := by
  refine List.Nodup.sublist (List.take_sublist _ _) ?_
  cases kind with
  | perLot => rw [window]; apply selectKeys_nodup
  | percent kind => cases kind <;> (rw [window]; apply selectKeys_nodup)

def Unmoved (s t : Sources) : Prop := Kept t ∧ Same s t ∧ t.books.executions = s.books.executions

lemma trigger_unmoved (ht : Unmoved s t) (h : trigger kind t pk = .ok s') : Unmoved s s' :=
  have htriggered := trigger_triggered ht.1 h
  ⟨htriggered.kept, ht.2.1.trans htriggered.same, htriggered.receipts.trans ht.2.2⟩

lemma sweepTriggers_unmoved (hs : Kept s) (kind' : Kind) (cutoff : ℤ) (batchSize : ℕ) :
    Unmoved s (sweepTriggers s kind' cutoff batchSize) :=
  sweep_invariant (fun _ _ _ => trigger_unmoved) ⟨hs, same_refl s, rfl⟩ _

lemma sweepTriggers_iff (hs : Kept s) (kind' : Kind) (cutoff : ℤ) (batchSize : ℕ) :
    obligationCount (sweepTriggers s kind' cutoff batchSize) kind pk = 1 ↔
      obligationCount s kind pk = 1 ∨ kind' = kind ∧ pk ∈ batch s kind cutoff batchSize ∧ Qualifies s kind pk := by
  have hunmoved : Unmoved s s := ⟨hs, same_refl s, rfl⟩
  by_cases hkind : kind' = kind
  · subst hkind
    have hsweep := done_sweep_iff (fun t => obligationCount t kind' pk = 1) (fun t => Qualifies t kind' pk)
      (fun _ _ _ => trigger_unmoved)
      (fun t j t' ht hj h => by rw [(trigger_triggered ht.1 h).apart kind' pk (.inr (Ne.symm hj))])
      (fun t ht => attempt_trigger_iff ht.1) hunmoved (batch_nodup s kind' cutoff batchSize)
    refine hsweep.trans (or_congr_right ?_)
    have hturn : pk ∈ batch s kind' cutoff batchSize ↔
        ∃ t, turn (trigger kind') s (batch s kind' cutoff batchSize) pk = some t :=
      isSome_turn_iff.symm.trans Option.isSome_iff_exists
    rw [hturn]
    constructor
    · rintro ⟨t, ht, hqualifies⟩
      have hsame := (turn_invariant (fun _ _ _ ht _ => trigger_unmoved ht) hunmoved ht).2.1
      exact ⟨rfl, ⟨t, ht⟩, hsame.qualifies_iff.mp hqualifies⟩
    · rintro ⟨-, ⟨t, ht⟩, hqualifies⟩
      have hsame := (turn_invariant (fun _ _ _ ht _ => trigger_unmoved ht) hunmoved ht).2.1
      exact ⟨t, ht, hsame.qualifies_iff.mpr hqualifies⟩
  · have hapart : Unmoved s (sweepTriggers s kind' cutoff batchSize) ∧
        obligationCount (sweepTriggers s kind' cutoff batchSize) kind pk = obligationCount s kind pk := by
      refine sweep_invariant (I := fun t => Unmoved s t ∧ obligationCount t kind pk = obligationCount s kind pk)
        (fun t j t' ht h => ?_) ⟨hunmoved, rfl⟩ _
      have htriggered := trigger_triggered ht.1.1 h
      exact ⟨trigger_unmoved ht.1 h, (htriggered.apart kind pk (.inl (Ne.symm hkind))).trans ht.2⟩
    rw [hapart.2]
    simp [hkind]

end Sweeps

section Network

variable {s s' t : Sources} {kind : Kind} {pk : ℕ}

structure Settled (s : Sources) (pk : ℕ) (s' : Sources) : Prop where
  same : Same s s'
  kept : Kept s'
  own : obligationCount s' .perLot pk = 1 ↔
    obligationCount s .perLot pk = 1 ∨ hasReceipt s pk = false ∧ Qualifies s .perLot pk
  apart : ∀ kind' j, kind' ≠ .perLot ∨ j ≠ pk → obligationCount s' kind' j = obligationCount s kind' j
  receipt : ∀ j, hasReceipt s' j = true ↔ hasReceipt s j = true ∨ j = pk

lemma processExecution_settled (hs : Kept s) (h : processExecution s pk = .ok s') : Settled s pk s' := by
  rw [processExecution] at h
  split at h
  · next books done hprocessed =>
    cases h
    obtain ⟨event, hevent, ⟨hreceipt, rfl⟩ | ⟨hno, hpaid, hdone⟩⟩ :=
      processExecution_paid hs.owned (hs.once .perLot pk) hprocessed
    · have hreceipt : hasReceipt s pk = true := hreceipt
      refine ⟨same_refl s, hs, ?_, fun _ _ _ => rfl, fun j => ⟨.inl, fun hor => hor.elim id ?_⟩⟩
      · simp [hreceipt]
      · rintro rfl
        exact hreceipt
    · have hno : hasReceipt s pk = false := hno
      obtain ⟨hsame, hkept, hown, hapart⟩ := paid_triggered hs hevent hpaid
      refine ⟨hsame, hkept, by simpa [hno] using hown, hapart, fun j => ?_⟩
      rw [hasReceipt, hdone, Table.exists?, Table.rows_insert, List.any_append]
      simp only [List.any_cons, List.any_nil, Bool.or_false, Bool.or_eq_true, decide_eq_true_eq, hasReceipt,
        Table.exists?]
      exact or_congr_right eq_comm
  · cases h

def Settling (s t : Sources) : Prop := Kept t ∧ Same s t

lemma processExecution_settling (ht : Settling s t) (h : processExecution t pk = .ok s') : Settling s s' :=
  have hsettled := processExecution_settled ht.1 h
  ⟨hsettled.kept, ht.2.trans hsettled.same⟩

lemma settling_receipt {j : ℕ} (ht : Settling s t) (hj : j ≠ pk) (h : processExecution t j = .ok s') :
    hasReceipt s' pk = true ↔ hasReceipt t pk = true := by
  rw [(processExecution_settled ht.1 h).receipt pk]
  simp [Ne.symm hj]

lemma networkBatch_nodup (s : Sources) (batchSize reached : ℕ) : (networkBatch s batchSize reached).Nodup := by
  rw [networkBatch]
  split
  · exact List.nodup_nil
  · refine List.Nodup.sublist ((List.take_sublist _ _).trans (List.take_sublist _ _)) ?_
    exact (selectKeys_nodup _ _).filter _

lemma receipt_of_networkBatch {batchSize reached : ℕ} (h : pk ∈ networkBatch s batchSize reached) :
    hasReceipt s pk = false := by
  rw [networkBatch] at h
  split at h
  · cases h
  · have hfiltered := (List.mem_filter.mp (List.mem_of_mem_take (List.mem_of_mem_take h))).2
    exact of_decide_eq_true hfiltered

/-- The run comes to the execution and does not fail on it. -/
def Processed (s : Sources) (batchSize reached pk : ℕ) : Prop := ∃ t t',
  turn processExecution s (networkBatch s batchSize reached) pk = some t ∧ processExecution t pk = .ok t'

lemma sweepNetwork_settling (hs : Kept s) (batchSize reached : ℕ) : Settling s (sweepNetwork s batchSize reached) :=
  sweep_invariant (fun _ _ _ => processExecution_settling) ⟨hs, same_refl s⟩ _

lemma sweepNetwork_receipt_iff (hs : Kept s) (batchSize reached : ℕ) :
    hasReceipt (sweepNetwork s batchSize reached) pk = true ↔
      hasReceipt s pk = true ∨ Processed s batchSize reached pk := by
  have hown (t : Sources) (ht : Settling s t) : hasReceipt (attempt processExecution t pk) pk = true ↔
      hasReceipt t pk = true ∨ ∃ t', processExecution t pk = .ok t' := by
    rw [attempt]
    cases hprocessed : processExecution t pk with
    | ok t' => simp [(processExecution_settled ht.1 hprocessed).receipt pk]
    | error e => simp
  refine (done_sweep_iff _ _ (fun _ _ _ => processExecution_settling) (fun _ _ _ => settling_receipt) hown
    ⟨hs, same_refl s⟩ (networkBatch_nodup s batchSize reached)).trans (or_congr_right ?_)
  simp only [Processed, ← exists_and_left]

lemma sweepNetwork_iff (hs : Kept s) (batchSize reached : ℕ) :
    obligationCount (sweepNetwork s batchSize reached) kind pk = 1 ↔
      obligationCount s kind pk = 1 ∨ kind = .perLot ∧ Processed s batchSize reached pk ∧ Qualifies s kind pk := by
  by_cases hkind : kind = .perLot
  · subst hkind
    have hapart (t : Sources) (j : ℕ) (t' : Sources) (ht : Settling s t) (hj : j ≠ pk)
        (h : processExecution t j = .ok t') : obligationCount t' .perLot pk = 1 ↔ obligationCount t .perLot pk = 1 := by
      rw [(processExecution_settled ht.1 h).apart .perLot pk (.inr (Ne.symm hj))]
    have hown (t : Sources) (ht : Settling s t) :
        obligationCount (attempt processExecution t pk) .perLot pk = 1 ↔ obligationCount t .perLot pk = 1 ∨
          (∃ t', processExecution t pk = .ok t') ∧ hasReceipt t pk = false ∧ Qualifies t .perLot pk := by
      rw [attempt]
      cases hprocessed : processExecution t pk with
      | ok t' => simpa using (processExecution_settled ht.1 hprocessed).own
      | error e => simp
    refine (done_sweep_iff _ _ (fun _ _ _ => processExecution_settling) hapart hown ⟨hs, same_refl s⟩
      (networkBatch_nodup s batchSize reached)).trans (or_congr_right ?_)
    have hturn (t : Sources) (ht : turn processExecution s (networkBatch s batchSize reached) pk = some t) :
        Settling s t ∧ hasReceipt t pk = false := by
      have hmem := isSome_turn_iff.mp (Option.isSome_iff_exists.mpr ⟨t, ht⟩)
      refine turn_invariant (I := fun t => Settling s t ∧ hasReceipt t pk = false) (fun t j t' hi hj h => ?_)
        ⟨⟨hs, same_refl s⟩, receipt_of_networkBatch hmem⟩ ht
      refine ⟨processExecution_settling hi.1 h, ?_⟩
      rw [← Bool.not_eq_true, settling_receipt hi.1 hj h, hi.2]
      simp
    constructor
    · rintro ⟨t, ht, ⟨t', hprocessed⟩, -, hqualifies⟩
      exact ⟨rfl, ⟨t, t', ht, hprocessed⟩, (hturn t ht).1.2.qualifies_iff.mp hqualifies⟩
    · rintro ⟨-, ⟨t, t', ht, hprocessed⟩, hqualifies⟩
      obtain ⟨hsettling, hno⟩ := hturn t ht
      exact ⟨t, ht, ⟨t', hprocessed⟩, hno, hsettling.2.qualifies_iff.mpr hqualifies⟩
  · have hapart : Settling s (sweepNetwork s batchSize reached) ∧
        obligationCount (sweepNetwork s batchSize reached) kind pk = obligationCount s kind pk := by
      refine sweep_invariant (I := fun t => Settling s t ∧ obligationCount t kind pk = obligationCount s kind pk)
        (fun t j t' ht h => ?_) ⟨⟨hs, same_refl s⟩, rfl⟩ _
      have hsettled := processExecution_settled ht.1.1 h
      exact ⟨processExecution_settling ht.1 h, (hsettled.apart kind pk (.inl hkind)).trans ht.2⟩
    rw [hapart.2]
    simp [hkind]

end Network

section Runs

variable {s s' : Sources} {kind : Kind} {pk : ℕ} {a : Act}

/-- The sweep comes to the row and the row qualifies. -/
def Reached (s : Sources) (kind : Kind) (pk : ℕ) : Act → Prop
  | .sweep kind' cutoff batchSize => kind' = kind ∧ pk ∈ batch s kind cutoff batchSize ∧ Qualifies s kind pk
  | .sweepNetwork batchSize reached => kind = .perLot ∧ Processed s batchSize reached pk ∧ Qualifies s kind pk
  | _ => False

def Receipted (s : Sources) (pk : ℕ) : Act → Prop
  | .sweepNetwork batchSize reached => Processed s batchSize reached pk
  | _ => False

lemma linkSubIb_attributions {n n' : Network} {child parent pk : ℕ} {actor : Option ℕ} {reason : String} {now : ℤ}
    (h : Links.linkSubIb n child parent actor reason now = .ok (n', pk)) : n'.attributions = n.attributions := by
  rw [Links.linkSubIb, guard_eq_ok] at h
  obtain ⟨-, h⟩ := h
  split at h
  · split at h
    · cases h
      rfl
    · cases h
  · simp only [guard_eq_ok, bind_eq_ok, Links.createLink, Except.ok.injEq] at h
    obtain ⟨-, _, -, -, -, -, -, h⟩ := h
    cases h
    rfl

lemma network_attributions (n : Network) (action : Links.Action) :
    (Links.step n action).attributions = n.attributions ∨
      ∃ a, (Links.step n action).attributions = n.attributions.insert a := by
  have hlink (m : Network) (child parent : ℕ) (actor : Option ℕ) (reason : String) (now : ℤ) :
      (commit m ((Links.linkSubIb m child parent actor reason now).map Prod.fst)).attributions = m.attributions := by
    cases h : Links.linkSubIb m child parent actor reason now with
    | ok r => exact linkSubIb_attributions h
    | error e => rfl
  cases action with
  | register user =>
    rw [Links.step, Links.register]
    split <;> exact .inl rfl
  | attributeUser user referral =>
    rw [Links.step, Links.attributeUser]
    split
    · exact .inl rfl
    · exact .inr ⟨_, rfl⟩
  | setRisk referral riskStatus => exact .inl rfl
  | linkSubIb child parent actor reason now => exact .inl (hlink n child parent actor reason now)
  | readAttribution referral =>
    rw [Links.step, Links.readAttribution]
    split
    · exact .inl rfl
    · split <;> exact .inl rfl
  | attachFromAttribution attachment now =>
    rw [Links.step, Links.attachFromAttribution]
    split
    · exact .inl rfl
    · exact .inl (hlink _ _ _ _ _ _)

lemma ownerOf_eq_some {b : Books} {event : LotExecutionEvent} {referral : ℕ} : ownerOf b event = some referral ↔
    ∃ account user attribution a, b.accounts.get event.account = some account ∧ account.user = some user ∧
      (b.network.attributions.first fun a => a.referredUser = user) = some (attribution, a) ∧
        a.referral = referral := by
  rw [ownerOf, attributionOf]
  cases haccount : b.accounts.get event.account with
  | none => simp
  | some account => cases huser : account.user <;> simp [huser]

lemma ownerOf_grows {b b' : Books} {event : LotExecutionEvent} {referral : ℕ}
    (haccounts : ∀ i account, b.accounts.get i = some account → b'.accounts.get i = some account)
    (hattributions : b'.network.attributions = b.network.attributions ∨
      ∃ a, b'.network.attributions = b.network.attributions.insert a)
    (h : ownerOf b event = some referral) : ownerOf b' event = some referral := by
  rw [ownerOf_eq_some] at h ⊢
  obtain ⟨account, user, attribution, a, haccount, huser, hfirst, hreferral⟩ := h
  refine ⟨account, user, attribution, a, haccounts _ _ haccount, huser, ?_, hreferral⟩
  obtain heq | ⟨new, heq⟩ := hattributions
  · rw [heq, hfirst]
  · rw [heq, Table.first_insert, hfirst, Option.some_or]

def sweeping : Act → Bool
  | .sweep .. | .sweepNetwork .. => true
  | _ => false

lemma step_apart (hs : Kept s) (h : sweeping a = false) : Owned (step s a).books ∧
    (step s a).obligations = s.obligations ∧ (step s a).books.obligations = s.books.obligations ∧
      (step s a).books.executions = s.books.executions := by
  cases a with
  | sweep | sweepNetwork => cases h
  | network action =>
    refine ⟨hs.owned.of_kept (fun _ _ h _ => h) (fun _ _ h => h) fun _ _ => ?_, rfl, rfl, rfl⟩
    exact ownerOf_grows (fun _ _ h => h) (network_attributions _ action)
  | openAccount account =>
    refine ⟨hs.owned.of_kept (fun _ _ h _ => h) (fun _ _ h => h) fun _ _ => ?_, rfl, rfl, rfl⟩
    exact ownerOf_grows (fun _ _ h => Table.get_insert_of_get h account) (.inl rfl)
  | execute event =>
    exact ⟨hs.owned.of_kept (fun _ _ h _ => h) (fun _ _ h => Table.get_insert_of_get h _) fun _ _ h => h, rfl, rfl, rfl⟩
  | addRule | changeRule => exact ⟨hs.owned.of_kept (fun _ _ h _ => h) (fun _ _ h => h) fun _ _ h => h, rfl, rfl, rfl⟩
  | wait | enroll | requestDeposit | creditDeposit | bookRevenue => exact ⟨hs.owned, rfl, rfl, rfl⟩

lemma step_count (hs : Kept s) (h : sweeping a = false) (kind : Kind) (pk : ℕ) :
    obligationCount (step s a) kind pk = obligationCount s kind pk := by
  obtain ⟨-, hpercent, hlot, -⟩ := step_apart hs h
  cases kind with
  | perLot => rw [obligationCount, lotCount, hlot, obligationCount, lotCount]
  | percent kind => rw [obligationCount, percentCount, hpercent, obligationCount, percentCount]

lemma step_kept (hs : Kept s) (a : Act) : Kept (step s a) := by
  cases h : sweeping a with
  | false => exact ⟨(step_apart hs h).1, fun kind pk => step_count hs h kind pk ▸ hs.once kind pk⟩
  | true =>
    cases a with
    | sweep kind cutoff batchSize => exact (sweepTriggers_unmoved hs kind cutoff batchSize).1
    | sweepNetwork batchSize reached => exact (sweepNetwork_settling hs batchSize reached).1
    | _ => cases h

lemma step_obligation_iff (hs : Kept s) (a : Act) :
    obligationCount (step s a) kind pk = 1 ↔ obligationCount s kind pk = 1 ∨ Reached s kind pk a := by
  cases h : sweeping a with
  | false =>
    rw [step_count hs h]
    refine (or_iff_left fun hreached => ?_).symm
    cases a with
    | sweep | sweepNetwork => cases h
    | _ => cases hreached
  | true =>
    cases a with
    | sweep kind' cutoff batchSize => exact sweepTriggers_iff hs kind' cutoff batchSize
    | sweepNetwork batchSize reached => exact sweepNetwork_iff hs batchSize reached
    | _ => cases h

lemma step_receipt_iff (hs : Kept s) (a : Act) :
    hasReceipt (step s a) pk = true ↔ hasReceipt s pk = true ∨ Receipted s pk a := by
  cases h : sweeping a with
  | false =>
    rw [hasReceipt, (step_apart hs h).2.2.2, ← hasReceipt]
    refine (or_iff_left fun hreceipted => ?_).symm
    cases a with
    | sweep | sweepNetwork => cases h
    | _ => cases hreceipted
  | true =>
    cases a with
    | sweep kind' cutoff batchSize =>
      rw [hasReceipt, step, (sweepTriggers_unmoved hs kind' cutoff batchSize).2.2, ← hasReceipt]
      simp [Receipted]
    | sweepNetwork batchSize reached => exact sweepNetwork_receipt_iff hs batchSize reached
    | _ => cases h

lemma opened_kept (now : ℤ) (network : Network) (rules : Table Rule) (percentages : ℕ → Option Percentage)
    (accounts : Table TradingAccount) : Kept (opened now network rules percentages accounts) where
  owned _ _ h := by cases h
  once kind pk := by cases kind <;> exact Nat.zero_le 1

variable (now : ℤ) (network : Network) (rules : Table Rule) (percentages : ℕ → Option Percentage)
  (accounts : Table TradingAccount) (acts : List Act)

/-- No row has two commissions. It has one exactly if at some sweep at which it qualified it was among the first rows
of the window, or if the network processed it; and an execution has its receipt exactly if the network did. -/
theorem commissions_reached :
    (∀ kind pk, obligationCount (run step (opened now network rules percentages accounts) acts) kind pk ≤ 1 ∧
      (obligationCount (run step (opened now network rules percentages accounts) acts) kind pk = 1 ↔
        ∃ before a after, acts = before ++ a :: after ∧
          Reached (run step (opened now network rules percentages accounts) before) kind pk a)) ∧
    ∀ pk, hasReceipt (run step (opened now network rules percentages accounts) acts) pk = true ↔
      ∃ before a after, acts = before ++ a :: after ∧
        Receipted (run step (opened now network rules percentages accounts) before) pk a := by
  have hopened := opened_kept now network rules percentages accounts
  have hkept := fun s a (h : Kept s) => step_kept h a
  refine ⟨fun kind pk => ⟨(run_invariant hkept hopened acts).once kind pk, ?_⟩, fun pk => ?_⟩
  · refine (run_reached_iff (fun s => obligationCount s kind pk = 1) (fun s a => Reached s kind pk a) hkept
      (fun s a h => step_obligation_iff h a) hopened acts).trans (or_iff_right fun h => ?_)
    cases kind <;> cases h
  · refine (run_reached_iff (fun s => hasReceipt s pk = true) (fun s a => Receipted s pk a) hkept
      (fun s a h => step_receipt_iff h a) hopened acts).trans (or_iff_right fun h => ?_)
    cases h

end Runs

section Starved

def flatRule (ruleType : RuleType) (effectiveUntil : Option ℤ) : Rule where
  ruleType := ruleType
  referral := none
  enabled := true
  fixedAmount := some (.ofUnits 100)
  nonneg := by rintro _ ⟨⟩; decide
  effectiveFrom := 0
  effectiveUntil := effectiveUntil

/-- Two deposits of one user are credited in the same second. -/
def deposited : Sources :=
  run step (opened 0 (Links.opened (Table.ofList [⟨0, .active⟩]) (Table.ofList [⟨1, 0⟩]))
      (Table.ofList [flatRule .depositPercent none]) (fun _ => some (.ofUnits 10000)) Table.empty)
    [.requestDeposit ⟨some 1, .ofUnits 5000, none, false, none, 0⟩,
     .requestDeposit ⟨some 1, .ofUnits 5000, none, false, none, 0⟩, .creditDeposit 0, .creditDeposit 1]

/-- Two lot rules apply to the first execution and one to the second. -/
def executed : Sources :=
  run step (opened 0 (Links.opened (Table.ofList [⟨0, .active⟩]) (Table.ofList [⟨1, 0⟩]))
      (Table.ofList [flatRule .subIbBudget none, flatRule .perLot none, flatRule .perLot (some 100)]) (fun _ => none)
      (Table.ofList [⟨some 1, .retail, .ofUnits 0, .ofUnits 0, .ofUnits 0, none⟩]))
    [.execute ⟨0, .ofUnits 1000000, by decide, 0⟩, .wait 200, .execute ⟨0, .ofUnits 1000000, by decide, 0⟩]

lemma deposited_window (cutoff : ℤ) :
    window deposited cutoff (.percent .depositPercent) = if cutoff ≤ 0 then [0, 1] else [] := by
  have hrows : deposited.deposits.rows = [(0, ⟨some 1, .ofUnits 5000, none, true, some 0, 0⟩),
      (1, ⟨some 1, .ofUnits 5000, none, true, some 0, 0⟩)] := rfl
  rw [window, selectKeys, hrows]
  split <;> simp_all

lemma deposited_kept : Kept deposited :=
  run_invariant (I := Kept) (fun _ a h => step_kept h a) (opened_kept _ _ _ _ _) _

lemma executed_kept : Kept executed := run_invariant (I := Kept) (fun _ a h => step_kept h a) (opened_kept _ _ _ _ _) _

/-- With a batch of one the sweeps see the first deposit until it leaves the window, and the second leaves with it;
an execution that raises is first in every batch of the network. -/
theorem sweeps_starve :
    (Qualifies deposited (.percent .depositPercent) 1 ∧ ∀ cutoffs : List ℤ,
      obligationCount (run step deposited (cutoffs.map fun cutoff => .sweep (.percent .depositPercent) cutoff 1))
        (.percent .depositPercent) 1 = 0) ∧
    Qualifies executed .perLot 1 ∧
      ∀ n, hasReceipt (run step executed (List.replicate n (.sweepNetwork 1 1))) 1 = false := by
  refine ⟨⟨?_, fun cutoffs => ?_⟩, ?_, fun n => ?_⟩
  · have hone : obligationCount (attempt (trigger (.percent .depositPercent)) deposited 1)
        (.percent .depositPercent) 1 = 1 := by decide +kernel
    exact ((attempt_trigger_iff deposited_kept).mp hone).resolve_left (by decide +kernel)
  · have hstart : Unmoved deposited deposited ∧ obligationCount deposited (.percent .depositPercent) 1 = 0 :=
      ⟨⟨deposited_kept, same_refl _, rfl⟩, by decide +kernel⟩
    suffices h : ∀ s, Unmoved deposited s ∧ obligationCount s (.percent .depositPercent) 1 = 0 →
        obligationCount (run step s (cutoffs.map fun cutoff => .sweep (.percent .depositPercent) cutoff 1))
          (.percent .depositPercent) 1 = 0 from h _ hstart
    induction cutoffs with
    | nil => exact fun s hs => hs.2
    | cons cutoff cutoffs ih =>
      intro s ⟨hs, hnone⟩
      have hnext := sweepTriggers_unmoved hs.1 (.percent .depositPercent) cutoff 1
      refine ih _ ⟨⟨hnext.1, hs.2.1.trans hnext.2.1, hnext.2.2.trans hs.2.2⟩, ?_⟩
      have hfar : 1 ∉ batch s (.percent .depositPercent) cutoff 1 := by
        have hwindow : window s cutoff (.percent .depositPercent) =
            window deposited cutoff (.percent .depositPercent) := by
          rw [window, window, hs.2.1.deposits]
        rw [batch, hwindow, deposited_window]
        split <;> simp
      have honce := hnext.1.once (.percent .depositPercent) 1
      have hnot : ¬ obligationCount (sweepTriggers s (.percent .depositPercent) cutoff 1) (.percent .depositPercent) 1 =
          1 := by
        rw [sweepTriggers_iff hs.1]
        simp [hnone, hfar]
      change obligationCount (sweepTriggers s (.percent .depositPercent) cutoff 1) (.percent .depositPercent) 1 = 0
      omega
  · have hone : obligationCount (attempt (trigger .perLot) executed 1) .perLot 1 = 1 := by decide +kernel
    exact ((attempt_trigger_iff executed_kept).mp hone).resolve_left (by decide +kernel)
  · have hsame : step executed (.sweepNetwork 1 1) = executed := rfl
    induction n with
    | zero => decide +kernel
    | succ n ih => rw [List.replicate_succ, run_cons, hsame, ih]

end Starved

end TrxSimulator.IBNetwork.Reach
