import TrxSimulator.Treasury.Safety
import TrxSimulator.Commissions.Reversal

/-! The obligations, their adjustments and the treasury as one machine, and what ties them together:
each link is to one request of the linked amount, and the reservations fit the obligation. -/

namespace TrxSimulator.Commissions.Linking

open Foundations.Runs Foundations.Tables Foundations.Outcomes Foundations.Decimals Wallets.Ledger
open Treasury.Requests Treasury.Machine Treasury.Safety Settlement Reversal

inductive Action
  | treasury (a : Treasury.Machine.Action)
  | approveObligation (user obligation : ℕ)
  | linkObligation (user obligation : ℕ)
  | syncObligation (obligation : ℕ)
  | submitAdjustment (user obligation : ℕ) (amount : ℚ) (reason : String) (adjustmentType : AdjustmentType)
  | approveAdjustment (user adjustment : ℕ)
  | rejectAdjustment (user adjustment : ℕ) (reason : String)
  | linkAdjustment (user adjustment : ℕ)
  | syncAdjustment (adjustment : ℕ)
  | setRisk (referral : ℕ) (riskStatus : RiskStatus)
  | setHeld (obligation : ℕ) (isHeld : Bool)

def step (s : Program) : Action → Program
  | .treasury a => { s with office := Treasury.Machine.step s.office a }
  | .approveObligation user obligation => commit s (approveObligation s user obligation)
  | .linkObligation user obligation => commit s ((linkTreasuryRequest s user obligation).map Prod.fst)
  | .syncObligation obligation => commit s ((syncObligationFromTreasury s obligation).map Prod.fst)
  | .submitAdjustment user obligation amount reason adjustmentType =>
    commit s ((submitAdjustment s user obligation amount reason adjustmentType).map Prod.fst)
  | .approveAdjustment user adjustment => commit s (approveAdjustment s user adjustment)
  | .rejectAdjustment user adjustment reason => commit s (rejectAdjustment s user adjustment reason)
  | .linkAdjustment user adjustment => commit s ((linkAdjustmentToTreasury s user adjustment).map Prod.fst)
  | .syncAdjustment adjustment => commit s ((syncAdjustmentFromTreasury s adjustment).map Prod.fst)
  | .setRisk referral riskStatus =>
    { s with referrals := s.referrals.update referral fun r => { r with riskStatus := riskStatus } }
  | .setHeld obligation isHeld => s.setObligation obligation fun o => { o with isHeld := isHeld }

def Backed (requests : Table TreasuryRequest) (kind : OperationType) (amount : ℤ) (link : Option ℕ) :
    Prop :=
  ∀ k, link = some k →
    ∃ q, requests.get k = some q ∧ q.operationType = kind ∧ q.amount.units = amount

def Executed (requests : Table TreasuryRequest) (link : Option ℕ) : Prop :=
  ∃ k q, link = some k ∧ requests.get k = some q ∧ q.status = .executed

structure ObligationOk (requests : Table TreasuryRequest) (o : Obligation) : Prop where
  backed : Backed requests .ibCommission o.calculatedAmount.units o.treasuryOperation
  credited : o.status = .credited → Executed requests o.treasuryOperation

structure AdjustmentOk (requests : Table TreasuryRequest) (obligations : Table Obligation)
    (a : Adjustment) : Prop where
  obligation : ∃ o, obligations.get a.obligation = some o ∧ o.status = .credited
  backed : Backed requests .manualDebit a.amount.units a.treasuryOperation
  linked : a.treasuryOperation ≠ none → a.status = .approved ∨ a.status = .executed
  executed : a.status = .executed → Executed requests a.treasuryOperation

structure Sound (s : Program) : Prop where
  office : Consistent s.office
  obligations : ∀ i o, s.obligations.get i = some o → ObligationOk s.office.requests o
  adjustments : ∀ i a, s.adjustments.get i = some a → AdjustmentOk s.office.requests s.obligations a
  capacity : ∀ i o, s.obligations.get i = some o → reserved s i none ≤ o.calculatedAmount.units
  obligationLinks : ∀ i j o o' k, s.obligations.get i = some o → s.obligations.get j = some o' →
    o.treasuryOperation = some k → o'.treasuryOperation = some k → i = j
  adjustmentLinks : ∀ i j a a' k, s.adjustments.get i = some a → s.adjustments.get j = some a' →
    a.treasuryOperation = some k → a'.treasuryOperation = some k → i = j

section Links

/-- A link, once set, is there to stay, and amounts are never rewritten. -/
structure Keeps (s s' : Program) : Prop where
  obligations : ∀ i o, s.obligations.get i = some o → ∃ o', s'.obligations.get i = some o' ∧
    o'.calculatedAmount = o.calculatedAmount ∧ ∀ k, o.treasuryOperation = some k → o'.treasuryOperation = some k
  adjustments : ∀ i a, s.adjustments.get i = some a → ∃ a', s'.adjustments.get i = some a' ∧
    a'.obligation = a.obligation ∧ a'.amount = a.amount ∧
    ∀ k, a.treasuryOperation = some k → a'.treasuryOperation = some k

variable {s s' : Program}

lemma Keeps.refl (s : Program) : Keeps s s :=
  ⟨fun _ o ho => ⟨o, ho, rfl, fun _ => id⟩, fun _ a ha => ⟨a, ha, rfl, rfl, fun _ => id⟩⟩

lemma Keeps.trans {s'' : Program} (h : Keeps s s') (h' : Keeps s' s'') : Keeps s s'' := by
  refine ⟨fun i o ho => ?_, fun i a ha => ?_⟩
  · obtain ⟨p, hp, hamount, hlink⟩ := h.obligations i o ho
    obtain ⟨q, hq, hamount', hlink'⟩ := h'.obligations i p hp
    exact ⟨q, hq, hamount'.trans hamount, fun k hk => hlink' k (hlink k hk)⟩
  · obtain ⟨p, hp, hobligation, hamount, hlink⟩ := h.adjustments i a ha
    obtain ⟨q, hq, hobligation', hamount', hlink'⟩ := h'.adjustments i p hp
    exact ⟨q, hq, hobligation'.trans hobligation, hamount'.trans hamount, fun k hk => hlink' k (hlink k hk)⟩

lemma Keeps.of_eq (hobligations : s'.obligations = s.obligations)
    (hadjustments : s'.adjustments = s.adjustments) : Keeps s s' := by
  refine ⟨fun i o ho => ⟨o, by rw [hobligations, ho], rfl, fun _ => id⟩, fun i a ha => ?_⟩
  exact ⟨a, by rw [hadjustments, ha], rfl, rfl, fun _ => id⟩

structure Advances (s s' : Program) : Prop where
  sound : Sound s'
  keeps : Keeps s s'

lemma Advances.refl (h : Sound s) : Advances s s := ⟨h, Keeps.refl s⟩

end Links

section Invariant

lemma reservation_bounds (i : ℕ) (a : Adjustment) :
    0 ≤ reservation i a ∧ reservation i a ≤ a.amount.units := by
  have := a.positive
  rw [reservation]
  split <;> omega

variable {s s' : Program} {requests requests' : Table TreasuryRequest} {obligations obligations' : Table Obligation}
  {link : Option ℕ} {kind : OperationType} {amount : ℤ} {i : ℕ}

def CarriedAll (requests requests' : Table TreasuryRequest) : Prop :=
  ∀ k q, requests.get k = some q → ∃ q', requests'.get k = some q' ∧ Carried q q'

lemma CarriedAll.refl (requests : Table TreasuryRequest) : CarriedAll requests requests :=
  fun _ q hq => ⟨q, hq, Carried.refl q⟩

lemma CarriedAll.trans {requests'' : Table TreasuryRequest} (h : CarriedAll requests requests')
    (h' : CarriedAll requests' requests'') : CarriedAll requests requests'' := by
  intro k q hq
  obtain ⟨q', hq', hcarried⟩ := h k q hq
  obtain ⟨q'', hq'', hcarried'⟩ := h' k q' hq'
  exact ⟨q'', hq'', hcarried.trans hcarried'⟩

lemma Backed.carry (h : Backed requests kind amount link) (hcarried : CarriedAll requests requests') :
    Backed requests' kind amount link := by
  intro k hk
  obtain ⟨q, hq, hkind, hamount⟩ := h k hk
  obtain ⟨q', hq', hsame⟩ := hcarried k q hq
  exact ⟨q', hq', hsame.operationType.trans hkind, by rw [hsame.amount, hamount]⟩

lemma Executed.carry (h : Executed requests link) (hcarried : CarriedAll requests requests') :
    Executed requests' link := by
  obtain ⟨k, q, hk, hq, hstatus⟩ := h
  obtain ⟨q', hq', hsame⟩ := hcarried k q hq
  have hstays := hsame.terminal (by rw [hstatus]; rfl)
  exact ⟨k, q', hk, hq', by rw [hstays, hstatus]⟩

lemma ObligationOk.carry {o : Obligation} (h : ObligationOk requests o)
    (hcarried : CarriedAll requests requests') : ObligationOk requests' o :=
  ⟨h.backed.carry hcarried, fun hc => (h.credited hc).carry hcarried⟩

lemma AdjustmentOk.carry {a : Adjustment} (h : AdjustmentOk requests obligations a)
    (hcarried : CarriedAll requests requests') : AdjustmentOk requests' obligations a :=
  ⟨h.obligation, h.backed.carry hcarried, h.linked, fun he => (h.executed he).carry hcarried⟩

lemma Backed.ne_next (h : Backed requests kind amount link) : link ≠ some requests.next := by
  intro hlink
  obtain ⟨q, hq, -⟩ := h requests.next hlink
  rw [Table.get_next] at hq
  cases hq

lemma sound_office (h : Sound s) {office : Office} (hoffice : Consistent office)
    (hcarried : CarriedAll s.office.requests office.requests) : Sound { s with office := office } where
  office := hoffice
  obligations i o ho := (h.obligations i o ho).carry hcarried
  adjustments i a ha := (h.adjustments i a ha).carry hcarried
  capacity := h.capacity
  obligationLinks := h.obligationLinks
  adjustmentLinks := h.adjustmentLinks

lemma sound_referrals (h : Sound s) (referrals : Table Referral) :
    Sound { s with referrals := referrals } :=
  ⟨h.office, h.obligations, h.adjustments, h.capacity, h.obligationLinks, h.adjustmentLinks⟩

lemma AdjustmentOk.rewrite {a : Adjustment} {o : Obligation} (h : AdjustmentOk requests obligations a)
    (f : Obligation → Obligation) (ho : obligations.get i = some o)
    (hcredited : o.status = .credited → (f o).status = .credited) :
    AdjustmentOk requests (obligations.update i f) a := by
  refine ⟨?_, h.backed, h.linked, h.executed⟩
  obtain ⟨o', ho', hstatus⟩ := h.obligation
  by_cases hi : a.obligation = i
  · rw [hi, ho] at ho'
    cases ho'
    exact ⟨f o, by rw [hi, Table.get_update_self ho], hcredited hstatus⟩
  · exact ⟨o', by rw [Table.get_update_ne _ hi, ho'], hstatus⟩

lemma sound_obligation (h : Sound s) {o : Obligation} (f : Obligation → Obligation)
    (ho : s.obligations.get i = some o) (hok : ObligationOk s.office.requests (f o))
    (hamount : (f o).calculatedAmount = o.calculatedAmount)
    (hcredited : o.status = .credited → (f o).status = .credited)
    (hlink : ∀ j o' k, s.obligations.get j = some o' → j ≠ i → o'.treasuryOperation = some k →
      (f o).treasuryOperation ≠ some k) : Sound (s.setObligation i f) where
  office := h.office
  obligations j o' ho' := by
    obtain ⟨p, hp, rfl⟩ := Table.get_update_some ho'
    split
    · next hj =>
      rw [hj, ho] at hp
      cases hp
      exact hok
    · exact h.obligations j p hp
  adjustments j a ha := (h.adjustments j a ha).rewrite f ho hcredited
  capacity j o' ho' := by
    obtain ⟨p, hp, rfl⟩ := Table.get_update_some ho'
    have hcapacity := h.capacity j p hp
    split
    · next hj =>
      rw [hj, ho] at hp
      cases hp
      rw [hamount]
      exact hcapacity
    · exact hcapacity
  obligationLinks j j' p p' k hp hp' hk hk' := by
    obtain ⟨a, ha, rfl⟩ := Table.get_update_some hp
    obtain ⟨b, hb, rfl⟩ := Table.get_update_some hp'
    split at hk
    · next hj =>
      split at hk'
      · next hj' => rw [hj, hj']
      · next hj' =>
        rw [hj, ho] at ha
        cases ha
        exact (hlink j' b k hb hj' hk' hk).elim
    · next hj =>
      split at hk'
      · next hj' =>
        rw [hj', ho] at hb
        cases hb
        exact (hlink j a k ha hj hk hk').elim
      · exact h.obligationLinks j j' a b k ha hb hk hk'
  adjustmentLinks := h.adjustmentLinks

lemma sound_adjustment (h : Sound s) {a : Adjustment} (f : Adjustment → Adjustment)
    (ha : s.adjustments.get i = some a) (hok : AdjustmentOk s.office.requests s.obligations (f a))
    (hreserved : ∀ obligation, reservation obligation (f a) ≤ reservation obligation a)
    (hlink : ∀ j a' k, s.adjustments.get j = some a' → j ≠ i → a'.treasuryOperation = some k →
      (f a).treasuryOperation ≠ some k) : Sound (Program.setAdjustment s i f) where
  office := h.office
  obligations := h.obligations
  adjustments j a' ha' := by
    obtain ⟨p, hp, rfl⟩ := Table.get_update_some ha'
    split
    · next hj =>
      rw [hj, ha] at hp
      cases hp
      exact hok
    · exact h.adjustments j p hp
  capacity j o ho := by
    have hcapacity := h.capacity j o ho
    have hsum := Table.total_update ha f fun _ a => reservation j a
    have hle := hreserved j
    simp only [reserved, reduceCtorEq, if_false] at hcapacity ⊢
    have hnew : (Program.setAdjustment s i f).adjustments = s.adjustments.update i f := rfl
    rw [hnew]
    linarith
  obligationLinks := h.obligationLinks
  adjustmentLinks j j' p p' k hp hp' hk hk' := by
    obtain ⟨b, hb, rfl⟩ := Table.get_update_some hp
    obtain ⟨c, hc, rfl⟩ := Table.get_update_some hp'
    split at hk
    · next hj =>
      split at hk'
      · next hj' => rw [hj, hj']
      · next hj' =>
        rw [hj, ha] at hb
        cases hb
        exact (hlink j' c k hc hj' hk' hk).elim
    · next hj =>
      split at hk'
      · next hj' =>
        rw [hj', ha] at hc
        cases hc
        exact (hlink j b k hb hj hk hk').elim
      · exact h.adjustmentLinks j j' b c k hb hc hk hk'

lemma sound_insert (h : Sound s) {a : Adjustment} {o : Obligation}
    (ho : s.obligations.get a.obligation = some o) (hcredited : o.status = .credited)
    (hstatus : a.status = .pending) (hlink : a.treasuryOperation = none)
    (hfits : a.amount.units ≤ remainingReversible s a.obligation o none) :
    Sound { s with adjustments := s.adjustments.insert a } where
  office := h.office
  obligations := h.obligations
  adjustments j b hb := by
    rcases Table.get_insert_some hb with hb | ⟨-, rfl⟩
    · exact h.adjustments j b hb
    · refine ⟨⟨o, ho, hcredited⟩, fun k hk => ?_, fun hne => (hne hlink).elim, fun he => ?_⟩
      · rw [hlink] at hk
        cases hk
      · rw [hstatus] at he
        cases he
  capacity j p hp := by
    have hcapacity := h.capacity j p hp
    simp only [reserved, reduceCtorEq, if_false, remainingReversible] at hcapacity hfits ⊢
    rw [Table.total_insert]
    by_cases hj : a.obligation = j
    · subst hj
      rw [ho] at hp
      cases hp
      have hle := (reservation_bounds a.obligation a).2
      linarith
    · have hzero : reservation j a = 0 := if_neg fun hr => hj hr.1
      rw [hzero, add_zero]
      exact hcapacity
  obligationLinks := h.obligationLinks
  adjustmentLinks j j' b c k hb hc hk hk' := by
    rcases Table.get_insert_some hb with hb | ⟨-, rfl⟩
    · rcases Table.get_insert_some hc with hc | ⟨-, rfl⟩
      · exact h.adjustmentLinks j j' b c k hb hc hk hk'
      · rw [hlink] at hk'
        cases hk'
    · rw [hlink] at hk
      cases hk

end Invariant

section Steps

variable {s s' : Program}

lemma keeps_obligation {i : ℕ} {o : Obligation} (f : Obligation → Obligation)
    (ho : s.obligations.get i = some o) (hamount : (f o).calculatedAmount = o.calculatedAmount)
    (hlink : ∀ k, o.treasuryOperation = some k → (f o).treasuryOperation = some k) :
    Keeps s (s.setObligation i f) := by
  refine ⟨fun j p hp => ?_, fun j a ha => ⟨a, ha, rfl, rfl, fun _ => id⟩⟩
  by_cases hj : j = i
  · rw [hj, ho] at hp
    cases hp
    exact ⟨f o, by rw [hj]; exact Table.get_update_self ho f, hamount, hlink⟩
  · exact ⟨p, (Table.get_update_ne _ hj f).trans hp, rfl, fun _ => id⟩

lemma keeps_adjustment {i : ℕ} {a : Adjustment} (f : Adjustment → Adjustment)
    (ha : s.adjustments.get i = some a) (hobligation : (f a).obligation = a.obligation)
    (hamount : (f a).amount = a.amount)
    (hlink : ∀ k, a.treasuryOperation = some k → (f a).treasuryOperation = some k) :
    Keeps s (Program.setAdjustment s i f) := by
  refine ⟨fun j o ho => ⟨o, ho, rfl, fun _ => id⟩, fun j p hp => ?_⟩
  by_cases hj : j = i
  · rw [hj, ha] at hp
    cases hp
    exact ⟨f a, by rw [hj]; exact Table.get_update_self ha f, hobligation, hamount, hlink⟩
  · exact ⟨p, (Table.get_update_ne _ hj f).trans hp, rfl, rfl, fun _ => id⟩

lemma treasury_effect {office office' : Office} (h : Consistent office) (heffect : Effect office office') :
    Consistent office' ∧ CarriedAll office.requests office'.requests :=
  ⟨consistent_effect h heffect, fun _ _ hq => effect_carries heffect hq⟩

lemma submitTreasuryRequest_eq_ok {office : Office} {user : ℕ} {form : Form} {r : Office × ℕ}
    (h : submitTreasuryRequest office user form = .ok r) :
    r.2 = office.requests.next ∧ ∃ q, r.1.requests.get office.requests.next = some q ∧
      q.operationType = form.operationType ∧ q.amount = form.amount := by
  simp only [submitTreasuryRequest, bind_eq_ok] at h
  obtain ⟨-, -, h⟩ := h
  split at h
  · simp only [bind_eq_ok, pure_eq_ok] at h
    obtain ⟨wallet, -, rfl⟩ := h
    exact ⟨rfl, _, Table.get_insert_next _ _, rfl, rfl⟩
  · cases h

lemma submit_sound (h : Sound s) {user owner : ℕ} {form : ℕ → Form} {r : Program × ℕ}
    (hr : s.submit user owner form = .ok r) :
    Sound r.1 ∧ r.1.obligations = s.obligations ∧ r.1.adjustments = s.adjustments ∧
      r.2 = s.office.requests.next ∧ ∃ w q, r.1.office.requests.get s.office.requests.next = some q ∧
        q.operationType = (form w).operationType ∧ q.amount = (form w).amount := by
  simp only [Program.submit, bind_eq_ok, mapError_eq_ok, pure_eq_ok] at hr
  obtain ⟨submitted, hsubmitted, rfl⟩ := hr
  obtain ⟨hopened, hcarried⟩ := treasury_effect h.office (step_effect s.office (.openWallet owner))
  obtain ⟨hoffice, hcarried'⟩ := treasury_effect hopened (submitTreasuryRequest_effect hsubmitted)
  obtain ⟨hnext, q, hq, hkind, hamount⟩ := submitTreasuryRequest_eq_ok hsubmitted
  exact ⟨sound_office h hoffice (hcarried.trans hcarried'), rfl, rfl, hnext, _, q, hq, hkind, hamount⟩

lemma approveObligation_advances (h : Sound s) {user obligation : ℕ}
    (hs : approveObligation s user obligation = .ok s') : Advances s s' := by
  simp only [approveObligation, bind_eq_ok, lockObligation, require_eq_ok, guard_eq_ok, pure_eq_ok,
    ne_eq, not_not] at hs
  obtain ⟨-, -, o, ho, referral, -, hpending, -, -, -, rfl⟩ := hs
  refine ⟨sound_obligation h _ ho ⟨(h.obligations obligation o ho).backed, nofun⟩ rfl (fun hc => ?_) ?_,
    keeps_obligation _ ho rfl fun _ => id⟩
  · rw [hpending] at hc
    cases hc
  · intro j o' k hj hne hk hk'
    exact hne (h.obligationLinks j obligation o' o k hj ho hk hk')

lemma linkTreasuryRequest_advances (h : Sound s) {user obligation : ℕ} {r : Program × ℕ}
    (hr : linkTreasuryRequest s user obligation = .ok r) : Advances s r.1 := by
  simp only [linkTreasuryRequest, bind_eq_ok, lockObligation, require_eq_ok] at hr
  obtain ⟨-, -, o, ho, referral, -, hr⟩ := hr
  cases hlink : o.treasuryOperation with
  | some k =>
    rw [hlink] at hr
    simp only [pure_eq_ok] at hr
    exact hr ▸ Advances.refl h
  | none =>
    rw [hlink] at hr
    simp only [guard_eq_ok, bind_eq_ok, pure_eq_ok, ne_eq, not_not] at hr
    obtain ⟨happroved, -, -, -, submitted, hsubmitted, rfl⟩ := hr
    obtain ⟨hsound, hobligations, hadjustments, hnext, w, q, hq, hkind, hamount⟩ := submit_sound h hsubmitted
    have ho' : submitted.1.obligations.get obligation = some o := by rw [hobligations, ho]
    have hkeeps : Keeps submitted.1 (submitted.1.setObligation obligation fun o =>
        { o with treasuryOperation := some submitted.2 }) :=
      keeps_obligation _ ho' rfl fun k hk => by rw [hlink] at hk; cases hk
    refine ⟨sound_obligation hsound _ ho' ⟨fun k hk => ?_, fun hc => ?_⟩ rfl (fun hc => ?_) ?_,
      (Keeps.of_eq hobligations hadjustments).trans hkeeps⟩
    · rw [← Option.some.inj hk, hnext]
      exact ⟨q, hq, hkind, by rw [hamount]; rfl⟩
    · rw [happroved] at hc
      cases hc
    · rw [happroved] at hc
      cases hc
    · intro j o' k hj _ hk hk'
      rw [hobligations] at hj
      refine (h.obligations j o' hj).backed.ne_next ?_
      rw [hk, ← hnext]
      exact hk'.symm

lemma syncObligation_advances (h : Sound s) {obligation : ℕ} {r : Program × Outcome × Option Status}
    (hr : syncObligationFromTreasury s obligation = .ok r) : Advances s r.1 := by
  simp only [syncObligationFromTreasury, bind_eq_ok, lockObligation, require_eq_ok] at hr
  obtain ⟨o, ho, hr⟩ := hr
  split at hr
  · exact (pure_eq_ok.mp hr) ▸ Advances.refl h
  · split at hr
    · exact (pure_eq_ok.mp hr) ▸ Advances.refl h
    · cases hlink : o.treasuryOperation with
      | none =>
        rw [hlink] at hr
        exact (pure_eq_ok.mp hr) ▸ Advances.refl h
      | some k =>
        rw [hlink] at hr
        simp only [bind_eq_ok, treasuryRequest, require_eq_ok] at hr
        obtain ⟨q, hq, hr⟩ := hr
        split at hr
        · exact (pure_eq_ok.mp hr) ▸ Advances.refl h
        · split at hr
          · exact (pure_eq_ok.mp hr) ▸ Advances.refl h
          · next hexecuted =>
            rw [← pure_eq_ok.mp hr]
            have hcredited : Executed s.office.requests o.treasuryOperation :=
              ⟨k, q, hlink, hq, not_not.mp hexecuted⟩
            refine ⟨sound_obligation h _ ho ⟨(h.obligations obligation o ho).backed, fun _ => hcredited⟩ rfl
              (fun _ => rfl) ?_, keeps_obligation _ ho rfl fun _ => id⟩
            intro j o' l hj hne hl hl'
            exact hne (h.obligationLinks j obligation o' o l hj ho hl hl')

lemma roundHalfAway_le {x : ℚ} {n : ℤ} (hx : 0 ≤ x) (h : x ≤ n) : roundHalfAway x ≤ n := by
  rw [roundHalfAway_of_nonneg hx, ← Int.lt_add_one_iff, Int.floor_lt]
  push_cast
  linarith

lemma stored_le {x : ℚ} {n : ℤ} {a : Accounts.Balance} (hx : 0 < x) (h : x ≤ scaled 2 n)
    (hstored : store 12 2 x = some a) : a.units ≤ n := by
  rw [store_eq_some] at hstored
  rw [← hstored]
  refine roundHalfAway_le (by positivity) ?_
  rw [scaled, le_div_iff₀ (by norm_num)] at h
  exact h

lemma submitAdjustment_advances (h : Sound s) {user obligation : ℕ} {amount : ℚ} {reason : String}
    {adjustmentType : AdjustmentType} {r : Program × ℕ}
    (hr : submitAdjustment s user obligation amount reason adjustmentType = .ok r) : Advances s r.1 := by
  simp only [submitAdjustment, bind_eq_ok, guard_eq_ok, lockObligation, require_eq_ok, ne_eq, not_not,
    not_le, not_lt] at hr
  obtain ⟨-, -, hpositive, -, o, ho, hcredited, hfits, stored, hstored, hr⟩ := hr
  split at hr
  · rw [← pure_eq_ok.mp hr]
    refine ⟨sound_insert h ho hcredited rfl rfl (stored_le hpositive hfits hstored),
      fun i p hp => ⟨p, hp, rfl, fun _ => id⟩, fun i a ha => ?_⟩
    exact ⟨a, Table.get_insert_of_get ha _, rfl, rfl, fun _ => id⟩
  · cases hr

lemma approveAdjustment_advances (h : Sound s) {user adjustment : ℕ}
    (hs : approveAdjustment s user adjustment = .ok s') : Advances s s' := by
  simp only [approveAdjustment, bind_eq_ok, lockAdjustment, require_eq_ok, guard_eq_ok, pure_eq_ok,
    ne_eq, not_not] at hs
  obtain ⟨-, -, a, ha, hpending, o, -, -, rfl⟩ := hs
  have hok := h.adjustments adjustment a ha
  refine ⟨sound_adjustment h _ ha ⟨hok.obligation, hok.backed, fun _ => Or.inl rfl, nofun⟩
    (fun obligation => ?_) ?_, keeps_adjustment _ ha rfl rfl fun _ => id⟩
  · rw [reservation, reservation, hpending]
    exact le_rfl
  · intro j a' k hj hne hk hk'
    exact hne (h.adjustmentLinks j adjustment a' a k hj ha hk hk')

lemma rejectAdjustment_advances (h : Sound s) {user adjustment : ℕ} {reason : String}
    (hs : rejectAdjustment s user adjustment reason = .ok s') : Advances s s' := by
  simp only [rejectAdjustment, bind_eq_ok, lockAdjustment, require_eq_ok, guard_eq_ok, pure_eq_ok,
    ne_eq, not_not] at hs
  obtain ⟨-, -, -, a, ha, hpending, rfl⟩ := hs
  have hok := h.adjustments adjustment a ha
  have hunlinked : a.treasuryOperation = none := by
    by_contra hne
    rcases hok.linked hne with hstatus | hstatus <;> rw [hpending] at hstatus <;> cases hstatus
  refine ⟨sound_adjustment h _ ha ⟨hok.obligation, hok.backed, fun hne => (hne hunlinked).elim, nofun⟩
    (fun obligation => ?_) ?_, keeps_adjustment _ ha rfl rfl fun _ => id⟩
  · have hfreed : reservation obligation
        { a with status := .rejected, rejectedBy := some user, rejectionReason := reason } = 0 :=
      if_neg fun hr => Bool.false_ne_true hr.2
    rw [hfreed]
    exact (reservation_bounds obligation a).1
  · intro j a' k _ _ _ hk'
    rw [hunlinked] at hk'
    cases hk'

lemma linkAdjustment_advances (h : Sound s) {user adjustment : ℕ} {r : Program × ℕ}
    (hr : linkAdjustmentToTreasury s user adjustment = .ok r) : Advances s r.1 := by
  simp only [linkAdjustmentToTreasury, bind_eq_ok, lockAdjustment, require_eq_ok] at hr
  obtain ⟨-, -, a, ha, hr⟩ := hr
  cases hlink : a.treasuryOperation with
  | some k =>
    rw [hlink] at hr
    exact (pure_eq_ok.mp hr) ▸ Advances.refl h
  | none =>
    rw [hlink] at hr
    simp only [guard_eq_ok, bind_eq_ok, pure_eq_ok, ne_eq, not_not] at hr
    obtain ⟨happroved, referral, -, submitted, hsubmitted, rfl⟩ := hr
    obtain ⟨hsound, hobligations, hadjustments, hnext, w, q, hq, hkind, hamount⟩ := submit_sound h hsubmitted
    have ha' : submitted.1.adjustments.get adjustment = some a := by rw [hadjustments, ha]
    have hok := hsound.adjustments adjustment a ha'
    have hkeeps : Keeps submitted.1 (Program.setAdjustment submitted.1 adjustment fun a =>
        { a with treasuryOperation := some submitted.2 }) :=
      keeps_adjustment _ ha' rfl rfl fun k hk => by rw [hlink] at hk; cases hk
    refine ⟨sound_adjustment hsound _ ha' ⟨hok.obligation, fun k hk => ?_, fun _ => Or.inl happroved,
      fun he => ?_⟩ (fun _ => le_rfl) ?_, (Keeps.of_eq hobligations hadjustments).trans hkeeps⟩
    · rw [← Option.some.inj hk, hnext]
      exact ⟨q, hq, hkind, by rw [hamount]; rfl⟩
    · rw [happroved] at he
      cases he
    · intro j a' k hj _ hk hk'
      rw [hadjustments] at hj
      refine (h.adjustments j a' hj).backed.ne_next ?_
      rw [hk, ← hnext]
      exact hk'.symm

lemma syncAdjustment_advances (h : Sound s) {adjustment : ℕ} {r : Program × Outcome × Option Status}
    (hr : syncAdjustmentFromTreasury s adjustment = .ok r) : Advances s r.1 := by
  simp only [syncAdjustmentFromTreasury, bind_eq_ok, lockAdjustment, require_eq_ok] at hr
  obtain ⟨a, ha, hr⟩ := hr
  split at hr
  · exact (pure_eq_ok.mp hr) ▸ Advances.refl h
  · split at hr
    · exact (pure_eq_ok.mp hr) ▸ Advances.refl h
    · next happroved =>
      cases hlink : a.treasuryOperation with
      | none =>
        rw [hlink] at hr
        exact (pure_eq_ok.mp hr) ▸ Advances.refl h
      | some k =>
        rw [hlink] at hr
        simp only [bind_eq_ok, treasuryRequest, require_eq_ok] at hr
        obtain ⟨q, hq, hr⟩ := hr
        split at hr
        · exact (pure_eq_ok.mp hr) ▸ Advances.refl h
        · split at hr
          · exact (pure_eq_ok.mp hr) ▸ Advances.refl h
          · next hexecuted =>
            rw [← pure_eq_ok.mp hr]
            have hok := h.adjustments adjustment a ha
            have hdone : Executed s.office.requests a.treasuryOperation :=
              ⟨k, q, hlink, hq, not_not.mp hexecuted⟩
            refine ⟨sound_adjustment h _ ha ⟨hok.obligation, hok.backed, fun _ => Or.inr rfl, fun _ => hdone⟩
              (fun obligation => ?_) ?_, keeps_adjustment _ ha rfl rfl fun _ => id⟩
            · rw [reservation, reservation, not_not.mp happroved]
              exact le_rfl
            · intro j a' l hj hne hl hl'
              exact hne (h.adjustmentLinks j adjustment a' a l hj ha hl hl')

lemma advances_commit {ε : Type} {x : Except ε Program} (h : Sound s)
    (hx : ∀ s', x = .ok s' → Advances s s') : Advances s (commit s x) := by
  refine commit_rule _ _ ?_ fun s' hok => ?_
  · exact Advances.refl h
  · exact hx s' hok

lemma advances_commit_fst {ε α : Type} {x : Except ε (Program × α)} (h : Sound s)
    (hx : ∀ r, x = .ok r → Advances s r.1) : Advances s (commit s (x.map Prod.fst)) := by
  cases x with
  | error e => exact Advances.refl h
  | ok r => exact hx r rfl

lemma advances_step (s : Program) (a : Action) (h : Sound s) : Advances s (step s a) := by
  cases a with
  | treasury a =>
    obtain ⟨hoffice, hcarried⟩ := treasury_effect h.office (step_effect s.office a)
    exact ⟨sound_office h hoffice hcarried, Keeps.of_eq rfl rfl⟩
  | approveObligation user obligation => exact advances_commit h fun _ => approveObligation_advances h
  | linkObligation user obligation => exact advances_commit_fst h fun _ => linkTreasuryRequest_advances h
  | syncObligation obligation => exact advances_commit_fst h fun _ => syncObligation_advances h
  | submitAdjustment user obligation amount reason adjustmentType =>
    exact advances_commit_fst h fun _ => submitAdjustment_advances h
  | approveAdjustment user adjustment => exact advances_commit h fun _ => approveAdjustment_advances h
  | rejectAdjustment user adjustment reason => exact advances_commit h fun _ => rejectAdjustment_advances h
  | linkAdjustment user adjustment => exact advances_commit_fst h fun _ => linkAdjustment_advances h
  | syncAdjustment adjustment => exact advances_commit_fst h fun _ => syncAdjustment_advances h
  | setRisk referral riskStatus => exact ⟨sound_referrals h _, Keeps.of_eq rfl rfl⟩
  | setHeld obligation isHeld =>
    cases ho : s.obligations.get obligation with
    | none =>
      have hsame : step s (.setHeld obligation isHeld) = s := by
        rw [step, Program.setObligation, Table.update_missing ho]
      rw [hsame]
      exact Advances.refl h
    | some o =>
      have hok := h.obligations obligation o ho
      refine ⟨sound_obligation h _ ho ⟨hok.backed, hok.credited⟩ rfl id ?_,
        keeps_obligation _ ho rfl fun _ => id⟩
      intro j o' k hj hne hk hk'
      exact hne (h.obligationLinks j obligation o' o k hj ho hk hk')

lemma sound_run (h : Sound s) (acts : List Action) : Sound (run step s acts) :=
  run_invariant (fun s a h => (advances_step s a h).sound) h acts

lemma run_keeps (h : Sound s) (acts : List Action) : Keeps s (run step s acts) := by
  induction acts generalizing s with
  | nil => exact Keeps.refl s
  | cons a acts ih =>
    obtain ⟨hsound, hkeeps⟩ := advances_step s a h
    exact hkeeps.trans (ih hsound)

end Steps

end TrxSimulator.Commissions.Linking
