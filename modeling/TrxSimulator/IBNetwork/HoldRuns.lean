import TrxSimulator.Treasury.Safety
import TrxSimulator.IBNetwork.HoldEffects

/-! What a freeze and a hold stop. The approval and the link lock the introducer; a generator only reads it, so that
a freeze stops the obligations of an introducer unless one is on its way. -/

namespace TrxSimulator.IBNetwork.Holds

open Foundations.Tables Foundations.Outcomes Foundations.Runs Foundations.Decimals Accounts
open Commissions.Settlement (Obligation)
open Triggers (Sources)

variable {s : Desk} {a : Action} {i k : ℕ} {o o' : Obligation}

section Blocking

/-- Neither approved nor linked. -/
structure Stands (o o' : Obligation) : Prop where
  referral : o'.referral = o.referral
  approvedBy : o'.approvedBy = o.approvedBy
  link : o'.treasuryOperation = o.treasuryOperation
  status : o'.status = o.status ∨ o.status = .approved ∧ o'.status = .credited

lemma stands_refl (o : Obligation) : Stands o o := ⟨rfl, rfl, rfl, Or.inl rfl⟩

lemma Stands.trans {o'' : Obligation} (h : Stands o o') (h' : Stands o' o'') : Stands o o'' := by
  refine ⟨h'.referral.trans h.referral, h'.approvedBy.trans h.approvedBy, h'.link.trans h.link, ?_⟩
  rcases h'.status with hsame | ⟨happroved, hcredited⟩
  · exact h.status.imp hsame.trans fun ⟨happroved, hcredited⟩ => ⟨happroved, hsame.trans hcredited⟩
  · rcases h.status with hsame | ⟨-, hother⟩
    · exact Or.inr ⟨hsame ▸ happroved, hcredited⟩
    · rw [happroved] at hother
      cases hother

lemma update_stands {f : Obligation → Obligation} {j : ℕ} {x : Obligation} (hx : s.obligations.get j = some x)
    (ho : s.obligations.get i = some o) (hreferral : (f x).referral = x.referral)
    (h : isFrozen (network s) x.referral = true ∨ x.isHeld = true → Stands x (f x)) :
    ∃ o', (s.obligations.update j f).get i = some o' ∧ o'.referral = o.referral ∧
      (isFrozen (network s) o.referral = true ∨ o.isHeld = true → Stands o o') := by
  by_cases hi : i = j
  · subst hi
    obtain rfl := Option.some.inj (hx.symm.trans ho)
    exact ⟨f x, Table.get_update_self hx f, hreferral, h⟩
  · exact ⟨o, (Table.get_update_ne _ hi f).trans ho, rfl, fun _ => stands_refl o⟩

lemma step_stands (a : Action) (ho : s.obligations.get i = some o) :
    ∃ o', (step s a).obligations.get i = some o' ∧ o'.referral = o.referral ∧
      (isFrozen (network s) o.referral = true ∨ o.isHeld = true → Stands o o') := by
  have hsame (hobligations : (step s a).obligations = s.obligations) :
      ∃ o', (step s a).obligations.get i = some o' ∧ o'.referral = o.referral ∧
        (isFrozen (network s) o.referral = true ∨ o.isHeld = true → Stands o o') :=
    ⟨o, hobligations ▸ ho, rfl, fun _ => stands_refl o⟩
  cases step_effect s a with
  | quiet flags obligations => exact hsame obligations
  | created rows flags fresh obligations =>
    rw [obligations]
    exact ⟨o, Table.get_insertAll_of_get ho rows, rfl, fun _ => stands_refl o⟩
  | approved j user x flags found pending unheld unfrozen obligations =>
    rw [obligations]
    refine update_stands found ho rfl fun hblocked => ?_
    simp [unheld, unfrozen] at hblocked
  | linked j k x flags found unlinked unheld unfrozen obligations =>
    rw [obligations]
    refine update_stands found ho rfl fun hblocked => ?_
    simp [unheld, unfrozen] at hblocked
  | credited j k x r flags action found status link request executed obligations =>
    rw [obligations]
    exact update_stands found ho rfl fun _ => ⟨rfl, rfl, rfl, Or.inr ⟨status, rfl⟩⟩
  | switched r actor b reason was frozen events obligations => exact hsame obligations
  | flagged j actor b reason x found was frozen events obligations =>
    rw [obligations]
    exact update_stands found ho rfl fun _ => ⟨rfl, rfl, rfl, Or.inl rfl⟩

lemma step_created (hguard : Undisturbed s a) (hnone : s.obligations.get i = none)
    (h : (step s a).obligations.get i = some o') : isFrozen (network s) o'.referral = false := by
  have hupdate {j : ℕ} {f : Obligation → Obligation} (hobligations : (step s a).obligations = s.obligations.update j f) :
      isFrozen (network s) o'.referral = false := by
    obtain ⟨x, hx, -⟩ := Table.get_update_some (hobligations ▸ h)
    rw [hnone] at hx
    cases hx
  have hsame (hobligations : (step s a).obligations = s.obligations) : isFrozen (network s) o'.referral = false := by
    rw [hobligations, hnone] at h
    cases h
  cases step_effect s a with
  | quiet flags obligations => exact hsame obligations
  | created rows flags fresh obligations =>
    rw [obligations] at h
    rcases Table.get_insertAll_some h with hold | ⟨-, hmem⟩
    · rw [hnone] at hold
      cases hold
    · exact (fresh o' hmem).referral hguard
  | approved j user x flags found pending unheld unfrozen obligations => exact hupdate obligations
  | linked j k x flags found unlinked unheld unfrozen obligations => exact hupdate obligations
  | credited j k x r flags action found status link request executed obligations => exact hupdate obligations
  | switched r actor b reason was frozen events obligations => exact hsame obligations
  | flagged j actor b reason x found was frozen events obligations => exact hupdate obligations

lemma window_frozen {window : List Action} {r : ℕ} (hguard : Guarded step Undisturbed s window)
    (hfrozen : ∀ p q, window = p ++ q → isFrozen (network (run step s p)) r = true)
    (h : (run step s window).obligations.get i = some o') (hr : o'.referral = r) :
    ∃ o, s.obligations.get i = some o ∧ Stands o o' := by
  induction window generalizing s with
  | nil => exact ⟨o', h, stands_refl o'⟩
  | cons a window ih =>
    obtain ⟨hok, hrest⟩ := hguard
    have hnow : isFrozen (network s) r = true := hfrozen [] (a :: window) rfl
    obtain ⟨x, hx, hstands⟩ := ih hrest (fun p q heq => hfrozen (a :: p) q (by rw [heq]; rfl)) h
    have hxr : x.referral = r := hstands.referral.symm.trans hr
    cases ho : s.obligations.get i with
    | none =>
      have hunfrozen := step_created hok ho hx
      rw [hxr, hnow] at hunfrozen
      cases hunfrozen
    | some o =>
      obtain ⟨y, hy, hreferral, hblocked⟩ := step_stands a ho
      obtain rfl := Option.some.inj (hx.symm.trans hy)
      exact ⟨o, rfl, (hblocked (Or.inl (by rw [← hreferral, hxr, hnow]))).trans hstands⟩

lemma window_held {window : List Action} (hheld : ∀ p q, window = p ++ q → isHeld (run step s p) i = true)
    (ho : s.obligations.get i = some o) : ∃ o', (run step s window).obligations.get i = some o' ∧ Stands o o' := by
  induction window generalizing s o with
  | nil => exact ⟨o, ho, stands_refl o⟩
  | cons a window ih =>
    have hnow : o.isHeld = true := by
      have hflag := hheld [] (a :: window) rfl
      rwa [run_nil, isHeld, ho] at hflag
    obtain ⟨x, hx, -, hblocked⟩ := step_stands a ho
    obtain ⟨o', ho', hstands⟩ := ih (fun p q heq => hheld (a :: p) q (by rw [heq]; rfl)) hx
    exact ⟨o', ho', (hblocked (Or.inr hnow)).trans hstands⟩

end Blocking

section Credits

/-- The obligation is approved, and the request that it is linked to has been executed. -/
def Creditable (s : Desk) (i : ℕ) : Prop :=
  ∃ o k q, s.obligations.get i = some o ∧ o.status = .approved ∧ o.treasuryOperation = some k ∧
    s.office.requests.get k = some q ∧ q.status = .executed

def credit (s : Desk) (i : ℕ) : Desk :=
  { s with obligations := s.obligations.update i fun o => { o with status := .credited } }

lemma step_sync_of_creditable (h : Creditable s i) : step s (.syncObligationFromTreasury i) = credit s i := by
  obtain ⟨o, k, q, ho, hstatus, hlink, hq, hexecuted⟩ := h
  simp [step, Commissions.Settlement.syncObligationFromTreasury, Commissions.Settlement.lockObligation,
    Commissions.Settlement.treasuryRequest, program, ho, hstatus, hlink, hq, hexecuted, require, bind, Except.bind, pure,
    Except.pure, Except.map, Commissions.Settlement.terminalNonSuccess, settle, Commissions.Settlement.Program.setObligation,
    credit]

lemma step_sync_of_not (h : ¬ Creditable s i) : step s (.syncObligationFromTreasury i) = s := by
  rw [step]
  refine commit_rule (motive := fun s' => s' = s) _ _ rfl fun s' hok => ?_
  obtain ⟨r, hr, rfl⟩ := map_eq_ok.mp hok
  obtain hsame | ⟨o, k, q, ho, hstatus, hlink, hq, hexecuted, -⟩ := sync_ok hr
  · rw [hsame]
    rfl
  · exact (h ⟨o, k, q, ho, hstatus, hlink, hq, hexecuted⟩).elim

structure Linked (s : Desk) (i k : ℕ) (o : Obligation) : Prop where
  found : s.obligations.get i = some o
  link : o.treasuryOperation = some k
  status : o.status = .approved ∨ o.status = .credited

/-- The request is executed and the obligation is being looked at. -/
def Credits (s : Desk) (i k : ℕ) (a : Action) : Prop :=
  a = .syncObligationFromTreasury i ∧ ∃ q, s.office.requests.get k = some q ∧ q.status = .executed

lemma step_linked (a : Action) (h : Linked s i k o) : ∃ o', Linked (step s a) i k o' ∧
    (o'.status = .credited ↔ o.status = .credited ∨ Credits s i k a) := by
  obtain ⟨ho, hlink, hstatus⟩ := h
  by_cases hsync : ∃ j, a = .syncObligationFromTreasury j
  · obtain ⟨j, rfl⟩ := hsync
    by_cases hcredit : Creditable s j
    · rw [step_sync_of_creditable hcredit]
      obtain ⟨x, l, q, hx, hxstatus, hxlink, hq, hexecuted⟩ := hcredit
      by_cases hj : i = j
      · subst hj
        obtain rfl := Option.some.inj (hx.symm.trans ho)
        obtain rfl := Option.some.inj (hxlink.symm.trans hlink)
        exact ⟨_, ⟨Table.get_update_self ho _, hlink, Or.inr rfl⟩, iff_of_true rfl (Or.inr ⟨rfl, q, hq, hexecuted⟩)⟩
      · refine ⟨o, ⟨(Table.get_update_ne _ hj _).trans ho, hlink, hstatus⟩, ?_⟩
        refine (or_iff_left ?_).symm
        rintro ⟨hsame, -⟩
        cases hsame
        exact hj rfl
    · rw [step_sync_of_not hcredit]
      refine ⟨o, ⟨ho, hlink, hstatus⟩, ⟨Or.inl, fun hor => hor.elim id ?_⟩⟩
      rintro ⟨hsame, q, hq, hexecuted⟩
      cases hsame
      exact hstatus.resolve_left fun happroved => hcredit ⟨o, k, q, ho, happroved, hlink, hq, hexecuted⟩
  · have hother : ¬ Credits s i k a := fun hcredits => hsync ⟨i, hcredits.1⟩
    have hkeep {x : Obligation} (hx : (step s a).obligations.get i = some x) (hxlink : x.treasuryOperation = some k)
        (hxstatus : x.status = o.status) : ∃ o', Linked (step s a) i k o' ∧
          (o'.status = .credited ↔ o.status = .credited ∨ Credits s i k a) := by
      refine ⟨x, ⟨hx, hxlink, by rwa [hxstatus]⟩, ?_⟩
      rw [hxstatus, or_iff_left hother]
    have hupdate {j : ℕ} {f : Obligation → Obligation} {x : Obligation}
        (hobligations : (step s a).obligations = s.obligations.update j f) (hx : s.obligations.get j = some x)
        (hf : i = j → (f o).treasuryOperation = o.treasuryOperation ∧ (f o).status = o.status) :
        ∃ o', Linked (step s a) i k o' ∧ (o'.status = .credited ↔ o.status = .credited ∨ Credits s i k a) := by
      by_cases hj : i = j
      · subst hj
        exact hkeep (hobligations ▸ Table.get_update_self ho f) ((hf rfl).1.trans hlink) (hf rfl).2
      · exact hkeep (hobligations ▸ (Table.get_update_ne _ hj f).trans ho) hlink rfl
    cases step_effect s a with
    | quiet flags obligations => exact hkeep (obligations ▸ ho) hlink rfl
    | created rows flags fresh obligations => exact hkeep (obligations ▸ Table.get_insertAll_of_get ho rows) hlink rfl
    | approved j user x flags found pending unheld unfrozen obligations =>
      refine hupdate obligations found ?_
      rintro rfl
      obtain rfl := Option.some.inj (found.symm.trans ho)
      rw [pending] at hstatus
      simp at hstatus
    | linked j l x flags found unlinked unheld unfrozen obligations =>
      refine hupdate obligations found ?_
      rintro rfl
      obtain rfl := Option.some.inj (found.symm.trans ho)
      rw [unlinked] at hlink
      cases hlink
    | credited j l x r flags action found status link request executed obligations => exact (hsync ⟨j, action⟩).elim
    | switched r actor b reason was frozen events obligations => exact hkeep (obligations ▸ ho) hlink rfl
    | flagged j actor b reason x found was frozen events obligations =>
      exact hupdate obligations found fun _ => ⟨rfl, rfl⟩

/-- A linked obligation is credited when it is looked at after its request is executed, and never else. -/
lemma window_linked {window : List Action} (h : Linked s i k o) : ∃ o', Linked (run step s window) i k o' ∧
    (o'.status = .credited ↔ o.status = .credited ∨
      ∃ p b q, window = p ++ b :: q ∧ Credits (run step s p) i k b) := by
  induction window generalizing s o with
  | nil => exact ⟨o, h, by simp⟩
  | cons a window ih =>
    obtain ⟨x, hx, hstep⟩ := step_linked a h
    obtain ⟨o', ho', hrun⟩ := ih hx
    refine ⟨o', ho', hrun.trans ?_⟩
    rw [hstep, or_assoc]
    refine or_congr_right ⟨?_, ?_⟩
    · rintro (hnow | ⟨p, b, q, rfl, hlater⟩)
      · exact ⟨[], a, window, rfl, hnow⟩
      · exact ⟨a :: p, b, q, rfl, hlater⟩
    · rintro ⟨p, b, q, heq, hcredits⟩
      cases p with
      | nil =>
        obtain ⟨rfl, -⟩ := List.cons.inj heq
        exact Or.inl hcredits
      | cons c p =>
        obtain ⟨rfl, htail⟩ := List.cons.inj heq
        exact Or.inr ⟨p, b, q, htail, hcredits⟩

end Credits

section Erasure

/-- The desk as if nobody had ever been frozen and nothing held. -/
def erase (s : Desk) : Desk := { opened s.sources s.office s.obligations s.adjustments with calls := s.calls }

def flags : Action → Bool
  | .freezeReferral _ _ _ _ | .unfreezeReferral _ _ _ | .holdObligation _ _ _ _ | .releaseObligation _ _ _ => true
  | _ => false

def settles : Action → Bool
  | .syncObligationFromTreasury _ | .treasury _ => true
  | _ => false

variable {α : Type*} {t : Table α} {f g : α → α}

lemma get_updateAll (t : Table α) (f : α → α) (i : ℕ) :
    (t.updateWhere (fun _ => true) f).get i = (t.get i).map f := by
  simp [Table.get_updateWhere]

lemma updateAll_update (h : ∀ x, f (g x) = f x) (t : Table α) (i : ℕ) :
    (t.update i g).updateWhere (fun _ => true) f = t.updateWhere (fun _ => true) f := by
  refine Table.ext_get rfl fun j => ?_
  rw [get_updateAll, get_updateAll, Table.get_update]
  split
  · rw [Option.map_map]
    exact Option.map_congr fun x _ => h x
  · rfl

lemma updateAll_comm (h : ∀ x, f (g x) = g (f x)) (t : Table α) (i : ℕ) :
    (t.update i g).updateWhere (fun _ => true) f = (t.updateWhere (fun _ => true) f).update i g := by
  refine Table.ext_get rfl fun j => ?_
  rw [get_updateAll, Table.get_update, Table.get_update, get_updateAll]
  split
  · rw [Option.map_map, Option.map_map]
    exact Option.map_congr fun x _ => h x
  · rfl

lemma erase_setRisk (s : Desk) (referral : ℕ) (riskStatus : Commissions.Settlement.RiskStatus)
    (episode : Option Episode) (event : RiskEvent) :
    erase (record (setRisk s referral riskStatus episode) event) = erase s := by
  have hreferrals := updateAll_update (f := fun r : Commissions.Settlement.Referral => { r with riskStatus := .active })
    (g := fun r => { r with riskStatus := riskStatus }) (fun _ => rfl) (network s).referrals referral
  simp only [erase, opened, record, setRisk, withNetwork, Links.setRisk, network] at hreferrals ⊢
  rw [hreferrals]

lemma erase_setHeld (s : Desk) (obligation : ℕ) (isHeld : Bool) (episode : Option Episode) (event : RiskEvent) :
    erase (record (setHeld s obligation isHeld episode) event) = erase s := by
  have hobligations := updateAll_update (f := fun o : Obligation => { o with isHeld := false })
    (g := fun o => { o with isHeld := isHeld }) (fun _ => rfl) s.obligations obligation
  simp only [erase, opened, record, setHeld]
  rw [hobligations]

/-- A decision is refused, or sets one flag and records that it did. -/
inductive Decided (s : Desk) : Action → Desk → Prop
  | refused (a : Action) : Decided s a s
  | froze (user referral : ℕ) (reason : String) (now : ℤ) (episode : Option Episode) (event : RiskEvent) :
      Decided s (.freezeReferral user referral reason now) (record (setRisk s referral .frozen episode) event)
  | unfroze (user referral : ℕ) (reason : String) (episode : Option Episode) (event : RiskEvent) :
      Decided s (.unfreezeReferral user referral reason) (record (setRisk s referral .active episode) event)
  | held (user obligation : ℕ) (reason : String) (now : ℤ) (episode : Option Episode) (event : RiskEvent) :
      Decided s (.holdObligation user obligation reason now) (record (setHeld s obligation true episode) event)
  | released (user obligation : ℕ) (reason : String) (episode : Option Episode) (event : RiskEvent) :
      Decided s (.releaseObligation user obligation reason) (record (setHeld s obligation false episode) event)

lemma decided_commit {ε : Type} {x : Except ε Desk} (h : ∀ s', x = .ok s' → Decided s a s') :
    Decided s a (commit s x) := by
  refine commit_rule _ _ ?_ fun s' hok => ?_
  · exact .refused a
  · exact h s' hok

lemma step_decided (s : Desk) {a : Action} (h : flags a = true) : Decided s a (step s a) := by
  cases a with
  | freezeReferral user referral reason now =>
    refine decided_commit fun s' hok => ?_
    simp only [freezeReferral, bind_eq_ok, guard_eq_ok, pure_eq_ok] at hok
    obtain ⟨-, -, text, -, r, -, -, rfl⟩ := hok
    exact .froze user referral reason now _ _
  | unfreezeReferral user referral reason =>
    refine decided_commit fun s' hok => ?_
    simp only [unfreezeReferral, bind_eq_ok, guard_eq_ok, pure_eq_ok] at hok
    obtain ⟨-, -, text, -, r, -, -, rfl⟩ := hok
    exact .unfroze user referral reason _ _
  | holdObligation user obligation reason now =>
    refine decided_commit fun s' hok => ?_
    simp only [holdObligation, bind_eq_ok, guard_eq_ok, pure_eq_ok] at hok
    obtain ⟨-, -, text, -, o, -, -, rfl⟩ := hok
    exact .held user obligation reason now _ _
  | releaseObligation user obligation reason =>
    refine decided_commit fun s' hok => ?_
    simp only [releaseObligation, bind_eq_ok, guard_eq_ok, pure_eq_ok] at hok
    obtain ⟨-, -, text, -, o, -, -, rfl⟩ := hok
    exact .released user obligation reason _ _
  | readReferral | generate | processExecution | approveObligation | linkTreasuryRequest | syncObligationFromTreasury
    | treasury | sources => cases h

/-- A decision of the staff changes a flag, with its description and its history, and nothing else. -/
lemma Decided.erased {s' : Desk} (h : Decided s a s') : erase s' = erase s := by
  cases h with
  | refused => rfl
  | froze user referral reason now episode event => exact erase_setRisk s referral _ _ _
  | unfroze user referral reason episode event => exact erase_setRisk s referral _ _ _
  | held user obligation reason now episode event => exact erase_setHeld s obligation _ _ _
  | released user obligation reason episode event => exact erase_setHeld s obligation _ _ _

lemma creditable_erase (s : Desk) (i : ℕ) : Creditable (erase s) i ↔ Creditable s i := by
  have hget : (erase s).obligations.get i = (s.obligations.get i).map fun o => { o with isHeld := false } :=
    get_updateAll s.obligations _ i
  constructor
  · rintro ⟨o, k, q, ho, hstatus, hlink, hq, hexecuted⟩
    rw [hget, Option.map_eq_some_iff] at ho
    obtain ⟨x, hx, rfl⟩ := ho
    exact ⟨x, k, q, hx, hstatus, hlink, hq, hexecuted⟩
  · rintro ⟨o, k, q, ho, hstatus, hlink, hq, hexecuted⟩
    exact ⟨{ o with isHeld := false }, k, q, by rw [hget, ho, Option.map_some], hstatus, hlink, hq, hexecuted⟩

/-- The treasury and the reconciliation do not look at the flags. -/
lemma erase_settles (s : Desk) {a : Action} (h : settles a = true) : erase (step s a) = step (erase s) a := by
  cases a with
  | syncObligationFromTreasury obligation =>
    by_cases hcredit : Creditable s obligation
    · rw [step_sync_of_creditable hcredit, step_sync_of_creditable ((creditable_erase s obligation).mpr hcredit)]
      have hobligations := updateAll_comm (f := fun o : Obligation => { o with isHeld := false })
        (g := fun o => { o with status := .credited }) (fun _ => rfl) s.obligations obligation
      simp only [erase, opened, credit]
      rw [hobligations]
    · rw [step_sync_of_not hcredit, step_sync_of_not fun h => hcredit ((creditable_erase s obligation).mp h)]
  | treasury action => rfl
  | freezeReferral | unfreezeReferral | holdObligation | releaseObligation | readReferral | generate | processExecution
    | approveObligation | linkTreasuryRequest | sources => cases h

lemma window_erased {window : List Action} (h : ∀ a ∈ window, flags a = true ∨ settles a = true) :
    erase (run step s window) = run step (erase s) (window.filter settles) := by
  induction window generalizing s with
  | nil => rfl
  | cons a window ih =>
    obtain ⟨ha, hrest⟩ := List.forall_mem_cons.mp h
    rw [run_cons, ih hrest]
    cases hsettles : settles a with
    | true => rw [List.filter_cons_of_pos hsettles, run_cons, erase_settles s hsettles]
    | false =>
      rw [List.filter_cons_of_neg (by simp [hsettles]), (step_decided s (ha.resolve_right (by simp [hsettles]))).erased]

end Erasure

section History

def EventType.freezes : EventType → Option Bool
  | .frozen => some true
  | .unfrozen => some false
  | .obligationHeld | .obligationReleased => none

def EventType.holds : EventType → Option Bool
  | .obligationHeld => some true
  | .obligationReleased => some false
  | .frozen | .unfrozen => none

def freezes (events : Table RiskEvent) (referral : ℕ) : List Bool :=
  events.rows.filterMap fun r => if r.2.referral = referral then EventType.freezes r.2.eventType else none

def holds (events : Table RiskEvent) (obligation : ℕ) : List Bool :=
  events.rows.filterMap fun r => if r.2.obligation = some obligation then EventType.holds r.2.eventType else none

/-- The switch is turned on and off in turns, and is as it was last turned. -/
def Alternates (turns : List Bool) (now : Bool) : Prop :=
  (false :: turns).IsChain (· ≠ ·) ∧ turns.getLast?.getD false = now

lemma alternates_snoc {turns : List Bool} {now : Bool} (h : Alternates turns !now) : Alternates (turns ++ [now]) now := by
  obtain ⟨hchain, hlast⟩ := h
  refine ⟨?_, by simp⟩
  rw [← List.cons_append, List.isChain_append]
  refine ⟨hchain, List.isChain_singleton now, fun x hx y hy => ?_⟩
  rw [List.head?_singleton, Option.mem_some_iff] at hy
  rw [List.getLast?_cons, Option.mem_some_iff, hlast] at hx
  rw [← hx, ← hy]
  exact Bool.not_ne_self now

lemma freezes_insert (events : Table RiskEvent) (event : RiskEvent) (r : ℕ) :
    freezes (events.insert event) r = freezes events r ++
      (if event.referral = r then EventType.freezes event.eventType else none).toList := by
  rw [freezes, Table.rows_insert, List.filterMap_append]
  congr 1

lemma holds_insert (events : Table RiskEvent) (event : RiskEvent) (i : ℕ) :
    holds (events.insert event) i = holds events i ++
      (if event.obligation = some i then EventType.holds event.eventType else none).toList := by
  rw [holds, Table.rows_insert, List.filterMap_append]
  congr 1

/-- The flags are what the history says, and only obligations that there are have one. -/
structure Agrees (s : Desk) : Prop where
  freezes : ∀ r, Alternates (freezes s.riskEvents r) (isFrozen (network s) r)
  holds : ∀ i, Alternates (holds s.riskEvents i) (isHeld s i)
  known : ∀ i, s.obligations.get i = none → Holds.holds s.riskEvents i = []

lemma Agrees.unflagged {s' : Desk} (h : Agrees s) (hflags : Unflagged s s') (hheld : ∀ i, isHeld s' i = isHeld s i)
    (hknown : ∀ i, s'.obligations.get i = none → s.obligations.get i = none) : Agrees s' where
  freezes r := by
    rw [hflags.events, hflags.frozen]
    exact h.freezes r
  holds i := by
    rw [hflags.events, hheld]
    exact h.holds i
  known i hi := by
    rw [hflags.events]
    exact h.known i (hknown i hi)

lemma none_of_update {s' : Desk} {j : ℕ} {f : Obligation → Obligation}
    (h : s'.obligations = s.obligations.update j f) (i : ℕ) (hi : s'.obligations.get i = none) :
    s.obligations.get i = none := by
  rw [h] at hi
  rw [← Option.not_isSome_iff_eq_none, ← Table.isSome_update s.obligations j i f, hi]
  exact Bool.false_ne_true

lemma isHeld_update {s' : Desk} {j : ℕ} {f : Obligation → Obligation}
    (h : s'.obligations = s.obligations.update j f) (hf : ∀ o, (f o).isHeld = o.isHeld) (i : ℕ) :
    isHeld s' i = isHeld s i := by
  rw [isHeld, isHeld, h, Table.get_update]
  split
  · cases s.obligations.get i with
    | none => rfl
    | some o => exact hf o
  · rfl

lemma isHeld_of_eq {s' : Desk} (h : s'.obligations = s.obligations) (i : ℕ) : isHeld s' i = isHeld s i := by
  rw [isHeld, isHeld, h]

lemma isHeld_insertAll {s' : Desk} {rows : List Obligation} (hrows : ∀ o ∈ rows, o.isHeld = false)
    (h : s'.obligations = s.obligations.insertAll rows) (i : ℕ) : isHeld s' i = isHeld s i := by
  rw [isHeld, isHeld, h]
  cases ho : (s.obligations.insertAll rows).get i with
  | none =>
    cases hs : s.obligations.get i with
    | none => rfl
    | some o =>
      rw [Table.get_insertAll_of_get hs rows] at ho
      cases ho
  | some o =>
    rcases Table.get_insertAll_some ho with hold | ⟨hnone, hmem⟩
    · rw [hold]
    · rw [hnone]
      exact hrows o hmem

lemma switched_agrees {s' : Desk} {r actor : ℕ} {b : Bool} {reason : String} (h : Agrees s)
    (was : isFrozen (network s) r = !b)
    (frozen : ∀ x, isFrozen (network s') x = if x = r then b else isFrozen (network s) x)
    (events : s'.riskEvents = s.riskEvents.insert ⟨if b then .frozen else .unfrozen, r, none, actor, reason⟩)
    (obligations : s'.obligations = s.obligations) : Agrees s' where
  freezes x := by
    have hturns := h.freezes x
    rw [frozen, events, freezes_insert]
    by_cases hx : x = r
    · subst hx
      rw [was] at hturns
      cases b
      · simpa [EventType.freezes] using alternates_snoc hturns
      · simpa [EventType.freezes] using alternates_snoc hturns
    · simpa [hx, Ne.symm hx] using hturns
  holds i := by
    rw [events, holds_insert, isHeld_of_eq obligations]
    simpa using h.holds i
  known i hi := by
    rw [events, holds_insert]
    simpa using h.known i (obligations ▸ hi)

lemma flagged_agrees {s' : Desk} {j actor : ℕ} {b : Bool} {reason : String} (h : Agrees s)
    (found : s.obligations.get j = some o) (was : o.isHeld = !b)
    (frozen : ∀ r, isFrozen (network s') r = isFrozen (network s) r)
    (events : s'.riskEvents = s.riskEvents.insert
      ⟨if b then .obligationHeld else .obligationReleased, o.referral, some j, actor, reason⟩)
    (obligations : s'.obligations = s.obligations.update j fun o => { o with isHeld := b }) : Agrees s' where
  freezes r := by
    rw [frozen, events, freezes_insert]
    cases b
    · simpa [EventType.freezes] using h.freezes r
    · simpa [EventType.freezes] using h.freezes r
  holds i := by
    have hturns := h.holds i
    rw [events, holds_insert, isHeld, obligations, Table.get_update]
    by_cases hi : i = j
    · subst hi
      rw [isHeld, found, Option.any_some, was] at hturns
      cases b
      · simpa [EventType.holds, found] using alternates_snoc hturns
      · simpa [EventType.holds, found] using alternates_snoc hturns
    · simpa [hi, Ne.symm hi, isHeld] using hturns
  known i hi := by
    have hnone := none_of_update obligations i hi
    have hne : j ≠ i := by
      rintro rfl
      rw [found] at hnone
      cases hnone
    rw [events, holds_insert]
    simpa [hne] using h.known i hnone

lemma step_agrees (s : Desk) (a : Action) (h : Agrees s) : Agrees (step s a) := by
  cases step_effect s a with
  | quiet flags obligations => exact h.unflagged flags (isHeld_of_eq obligations) fun i hi => obligations ▸ hi
  | created rows flags fresh obligations =>
    refine h.unflagged flags (isHeld_insertAll (fun o ho => (fresh o ho).unheld) obligations) fun i hi => ?_
    by_contra hsome
    obtain ⟨o, ho⟩ := Option.ne_none_iff_exists'.mp hsome
    rw [obligations, Table.get_insertAll_of_get ho rows] at hi
    cases hi
  | approved j user x flags found pending unheld unfrozen obligations =>
    exact h.unflagged flags (isHeld_update obligations fun _ => rfl) (none_of_update obligations)
  | linked j k x flags found unlinked unheld unfrozen obligations =>
    exact h.unflagged flags (isHeld_update obligations fun _ => rfl) (none_of_update obligations)
  | credited j k x r flags action found status link request executed obligations =>
    exact h.unflagged flags (isHeld_update obligations fun _ => rfl) (none_of_update obligations)
  | switched r actor b reason was frozen events obligations => exact switched_agrees h was frozen events obligations
  | flagged j actor b reason x found was frozen events obligations =>
    exact flagged_agrees h found was frozen events obligations

lemma opened_agrees (sources : Sources) (office : Treasury.Requests.Office) (obligations : Table Obligation)
    (adjustments : Table Commissions.Settlement.Adjustment) :
    Agrees (opened sources office obligations adjustments) := by
  have hnever : Alternates [] false := ⟨List.isChain_singleton false, rfl⟩
  have hfrozen (r : ℕ) : isFrozen (network (opened sources office obligations adjustments)) r = false := by
    rw [isFrozen, network, opened, withNetwork, get_updateAll]
    cases sources.books.network.referrals.get r with
    | none => rfl
    | some x => rfl
  have hheld (i : ℕ) : isHeld (opened sources office obligations adjustments) i = false := by
    rw [isHeld, opened, get_updateAll]
    cases obligations.get i with
    | none => rfl
    | some x => rfl
  exact ⟨fun r => hfrozen r ▸ hnever, fun i => hheld i ▸ hnever, fun _ _ => rfl⟩

end History

section Runs

/-- What may be said of a desk and of any steps that follow, freezes and holds apart from each other. -/
structure Respected (s : Desk) (window : List Action) : Prop where
  frozen : ∀ r, (∀ p q, window = p ++ q → isFrozen (network (run step s p)) r = true) → ∀ i o',
    (run step s window).obligations.get i = some o' → o'.referral = r →
      ∃ o, s.obligations.get i = some o ∧ Stands o o'
  held : ∀ i o, s.obligations.get i = some o → (∀ p q, window = p ++ q → isHeld (run step s p) i = true) →
    ∃ o', (run step s window).obligations.get i = some o' ∧ Stands o o'
  linked : ∀ i k o, Linked s i k o → ∃ o', Linked (run step s window) i k o' ∧
    (o'.status = .credited ↔ o.status = .credited ∨ ∃ p b q, window = p ++ b :: q ∧ Credits (run step s p) i k b)
  erased : (∀ a ∈ window, flags a = true ∨ settles a = true) →
    erase (run step s window) = run step (erase s) (window.filter settles)

/-- A decision changes the flag that it is about, and its description and history. -/
structure OneFlag (s : Desk) (a : Action) : Prop where
  rest : erase (step s a) = erase s
  frozen : ∀ r, (∀ user reason, a ≠ .unfreezeReferral user r reason) →
    (∀ user reason now, a ≠ .freezeReferral user r reason now) →
      isFrozen (network (step s a)) r = isFrozen (network s) r
  held : ∀ i, (∀ user reason, a ≠ .releaseObligation user i reason) →
    (∀ user reason now, a ≠ .holdObligation user i reason now) → isHeld (step s a) i = isHeld s i

lemma frozen_setRisk_ne {r referral : ℕ} (h : r ≠ referral) (riskStatus : Commissions.Settlement.RiskStatus)
    (episode : Option Episode) (event : RiskEvent) :
    isFrozen (network (record (setRisk s referral riskStatus episode) event)) r = isFrozen (network s) r := by
  have hget : (network (record (setRisk s referral riskStatus episode) event)).referrals.get r =
      (network s).referrals.get r := Table.get_update_ne _ h _
  rw [isFrozen, hget, isFrozen]

lemma held_setHeld_ne {obligation : ℕ} (h : i ≠ obligation) (held : Bool) (episode : Option Episode)
    (event : RiskEvent) : isHeld (record (setHeld s obligation held episode) event) i = isHeld s i := by
  have hget : (record (setHeld s obligation held episode) event).obligations.get i = s.obligations.get i :=
    Table.get_update_ne _ h _
  rw [isHeld, hget, isHeld]

lemma Decided.frozen {s' : Desk} {r : ℕ} (h : Decided s a s')
    (hunfreeze : ∀ user reason, a ≠ .unfreezeReferral user r reason)
    (hfreeze : ∀ user reason now, a ≠ .freezeReferral user r reason now) :
    isFrozen (network s') r = isFrozen (network s) r := by
  cases h with
  | refused | held | released => rfl
  | froze user referral reason now episode event =>
    refine frozen_setRisk_ne ?_ _ _ _
    rintro rfl
    exact hfreeze user reason now rfl
  | unfroze user referral reason episode event =>
    refine frozen_setRisk_ne ?_ _ _ _
    rintro rfl
    exact hunfreeze user reason rfl

lemma Decided.held_same {s' : Desk} (h : Decided s a s') (hrelease : ∀ user reason, a ≠ .releaseObligation user i reason)
    (hhold : ∀ user reason now, a ≠ .holdObligation user i reason now) : isHeld s' i = isHeld s i := by
  cases h with
  | refused | froze | unfroze => rfl
  | held user obligation reason now episode event =>
    refine held_setHeld_ne ?_ _ _ _
    rintro rfl
    exact hhold user reason now rfl
  | released user obligation reason episode event =>
    refine held_setHeld_ne ?_ _ _ _
    rintro rfl
    exact hrelease user reason rfl

lemma oneFlag (s : Desk) {a : Action} (h : flags a = true) : OneFlag s a :=
  ⟨(step_decided s h).erased, fun _ => (step_decided s h).frozen, fun _ => (step_decided s h).held_same⟩

lemma respected {window : List Action} (h : Guarded step Undisturbed s window) : Respected s window where
  frozen _ hfrozen _ _ := window_frozen h hfrozen
  held _ _ ho hheld := window_held hheld ho
  linked _ _ _ hlinked := window_linked hlinked
  erased := window_erased

/-- The generator read an introducer who is not active any more, and posts for that one if it posts at all. -/
lemma disturbed_created {call : ℕ} (h : ¬ Undisturbed s (.generate call)) (hnone : s.obligations.get i = none)
    (hnew : (step s (.generate call)).obligations.get i = some o) : isActive (network s) o.referral = false := by
  simp only [Undisturbed, not_forall] at h
  obtain ⟨c, hc, r, hr, -, hnow⟩ := h
  rw [step, generate, hc] at hnew
  revert hnew
  refine commit_rule (motive := fun s' : Desk => s'.obligations.get i = some o → _) _ _ (fun hnew => ?_)
    fun s' hok hnew => ?_
  · rw [hnone] at hnew
    cases hnew
  · obtain ⟨⟨after, direct⟩, hgenerated, rfl⟩ := map_eq_ok.mp hok
    rcases Table.get_insertAll_some hnew with hold | ⟨-, hmem⟩
    · rw [hnone] at hold
      cases hold
    · obtain ⟨hintroducer, -⟩ := ((generate_generates hgenerated).posted o hmem).referral
      obtain rfl := Option.some.inj (hintroducer.symm.trans hr)
      exact Bool.eq_false_of_not_eq_true hnow

/-- In a run whose generators find their introducer as it was, nothing of a frozen introducer is created, approved or
linked, and nothing that is held; a generator that does not creates, if anything, an obligation of an introducer that
is not active. -/
theorem frozen_introducers_earn_nothing (sources : Sources) (office : Treasury.Requests.Office)
    (obligations : Table Obligation) (adjustments : Table Commissions.Settlement.Adjustment) (acts : List Action) :
    (Guarded step Undisturbed (opened sources office obligations adjustments) acts →
      ∀ before window after, acts = before ++ window ++ after →
        Respected (run step (opened sources office obligations adjustments) before) window) ∧
    Agrees (run step (opened sources office obligations adjustments) acts) ∧
    (∀ a, flags a = true → OneFlag (run step (opened sources office obligations adjustments) acts) a) ∧
    ∀ call, ¬ Undisturbed (run step (opened sources office obligations adjustments) acts) (.generate call) →
      ∀ i o, (run step (opened sources office obligations adjustments) acts).obligations.get i = none →
        (run step (opened sources office obligations adjustments) (acts ++ [.generate call])).obligations.get i =
          some o →
        isActive (network (run step (opened sources office obligations adjustments) acts)) o.referral = false := by
  refine ⟨?_, ?_, fun a => oneFlag _, fun call hdisturbed i o hnone hnew => ?_⟩
  · rintro hguard before window after rfl
    obtain ⟨hwindow, -⟩ := (guarded_append _ _ _ _ _).mp hguard
    exact respected ((guarded_append _ _ _ _ _).mp hwindow).2
  · exact run_invariant step_agrees (opened_agrees sources office obligations adjustments) acts
  · rw [run_append] at hnew
    exact disturbed_created hdisturbed hnone hnew

instance decidableUndisturbed (s : Desk) : ∀ a, Decidable (Undisturbed s a)
  | .generate call => inferInstanceAs (Decidable
      (∀ c ∈ (s.calls.get call).join, ∀ r ∈ introducer (withNetwork s.sources c.seen) c.kind c.source,
        isActive c.seen r = true → isActive (network s) r = true))
  | .freezeReferral _ _ _ _ | .unfreezeReferral _ _ _ | .holdObligation _ _ _ _ | .releaseObligation _ _ _
  | .readReferral _ _ | .processExecution _ | .approveObligation _ _ | .linkTreasuryRequest _ _
  | .syncObligationFromTreasury _ | .treasury _ | .sources _ => inferInstanceAs (Decidable True)

def lotRule : Accruals.Rule where
  ruleType := .perLot
  referral := none
  enabled := true
  fixedAmount := some (.ofUnits 700)
  nonneg := by rintro _ ⟨⟩; decide
  effectiveFrom := 0
  effectiveUntil := none

/-- One introducer, one referred customer, one rate for each lot. -/
def oneIntroducer : Desk :=
  opened
    (Triggers.opened 0 (Links.opened (Table.ofList [⟨0, .active⟩]) (Table.ofList [⟨1, 0⟩])) (Table.ofList [lotRule])
      (fun _ => none) (Table.ofList [⟨some 1, .retail, .ofUnits 0, .ofUnits 0, .ofUnits 0, none⟩]))
    Treasury.Safety.openOffice .empty .empty

lemma oneLot_nonneg : 0 ≤ (.ofUnits 1000000 : Numeric 18 6).units := by decide

def oneLot : Action := .sources (.execute ⟨0, .ofUnits 1000000, oneLot_nonneg, 0⟩)

def frozenAfter : List Action :=
  [oneLot, .readReferral .perLot 0, .generate 0, .freezeReferral 1 0 "abuse" 5]

def whileFrozen : List Action :=
  [.approveObligation 1 0, oneLot, .readReferral .perLot 1, .generate 1, .processExecution 1]

theorem frozen_introducers_earn_nothing_refused :
    ((run step oneIntroducer (frozenAfter ++ whileFrozen)).obligations.rows.map fun r => (r.1, r.2.status)) =
      [(0, .pending)] ∧
    Respected (run step oneIntroducer frozenAfter) whileFrozen :=
  ⟨by decide +kernel, (frozen_introducers_earn_nothing _ _ _ _ (frozenAfter ++ whileFrozen)).1 (by decide +kernel)
    frozenAfter whileFrozen [] rfl⟩

/-- The freeze commits between the generator's read and its insert. -/
theorem frozen_between_read_and_insert :
    isFrozen (network (run step oneIntroducer [oneLot, .readReferral .perLot 0, .freezeReferral 1 0 "abuse" 5])) 0 =
      true ∧
    (run step oneIntroducer [oneLot, .readReferral .perLot 0, .freezeReferral 1 0 "abuse" 5]).obligations.rows = [] ∧
    isFrozen (network (run step oneIntroducer
      [oneLot, .readReferral .perLot 0, .freezeReferral 1 0 "abuse" 5, .generate 0])) 0 = true ∧
    ((run step oneIntroducer
      [oneLot, .readReferral .perLot 0, .freezeReferral 1 0 "abuse" 5, .generate 0]).obligations.rows.map fun r =>
        (r.2.referral, r.2.status, r.2.calculatedAmount.units)) = [(0, .pending, 700)] := by
  decide +kernel

end Runs

end TrxSimulator.IBNetwork.Holds
