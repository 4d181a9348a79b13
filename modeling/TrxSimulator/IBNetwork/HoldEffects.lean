import TrxSimulator.IBNetwork.Holds

/-! What one step can do to the obligations, to the freezes and holds, and to their history: the generators and the
network post for introducers that they find active, and a settlement moves one obligation at a time. -/

namespace TrxSimulator.IBNetwork.Holds

open Foundations.Tables Foundations.Outcomes Foundations.Runs Foundations.Texts Accounts
open Commissions.Settlement (Program Referral RiskStatus CommissionError)
open Links (Network)
open Triggers (Sources Kind TriggerError)

section Generation

variable {s s' : Sources} {P : ℕ → Prop}

/-- New obligations, of introducers with `P`, and nothing else of what a settlement sees. -/
structure Generates (P : ℕ → Prop) (s s' : Sources) : Prop where
  network : s'.books.network = s.books.network
  lots : ∃ os, s'.books.obligations = s.books.obligations.insertAll os ∧ ∀ o ∈ os, P o.referral
  percents : ∃ os, s'.obligations = s.obligations.insertAll os ∧ ∀ o ∈ os, P o.referral

lemma generates_refl (P : ℕ → Prop) (s : Sources) : Generates P s s :=
  ⟨rfl, ⟨[], rfl, List.forall_mem_nil _⟩, ⟨[], rfl, List.forall_mem_nil _⟩⟩

lemma pendingRow_some {referral : ℕ} {ruleType : Accruals.RuleType} {amount : Balance}
    {o : Commissions.Settlement.Obligation} (h : pendingRow referral ruleType amount = some o) :
    o.referral = referral ∧ o.status = .pending ∧ o.treasuryOperation = none ∧ o.isHeld = false := by
  rw [pendingRow] at h
  split at h
  · cases h
    exact ⟨rfl, rfl, rfl, rfl⟩
  · cases h

structure Fresh (P : ℕ → Prop) (o : Commissions.Settlement.Obligation) : Prop where
  referral : P o.referral
  pending : o.status = .pending
  unlinked : o.treasuryOperation = none
  unheld : o.isHeld = false

lemma Generates.posted (h : Generates P s s') : ∀ o ∈ posted s s', Fresh P o := by
  obtain ⟨-, ⟨lots, hlots, hP⟩, ⟨percents, hpercents, hQ⟩⟩ := h
  intro o ho
  rw [Holds.posted, hlots, hpercents, Table.since_insertAll, Table.since_insertAll] at ho
  rcases List.mem_append.mp ho with ho | ho
  · obtain ⟨x, hx, hrow⟩ := List.mem_filterMap.mp ho
    obtain ⟨hreferral, hpending, hunlinked, hunheld⟩ := pendingRow_some hrow
    exact ⟨hreferral ▸ hP x hx, hpending, hunlinked, hunheld⟩
  · obtain ⟨x, hx, hrow⟩ := List.mem_filterMap.mp ho
    obtain ⟨hreferral, hpending, hunlinked, hunheld⟩ := pendingRow_some hrow
    exact ⟨hreferral ▸ hQ x hx, hpending, hunlinked, hunheld⟩

/-- The same of the executions, which are the books alone. -/
structure Extends (b b' : Accruals.Books) : Prop where
  network : b'.network = b.network
  lots : ∃ os, b'.obligations = b.obligations.insertAll os ∧ ∀ o ∈ os, isActive b.network o.referral = true

lemma extends_of_same {b b' : Accruals.Books} (hnetwork : b'.network = b.network)
    (hobligations : b'.obligations = b.obligations) : Extends b b' :=
  ⟨hnetwork, [], hobligations, List.forall_mem_nil _⟩

lemma extends_insert {b b' : Accruals.Books} {o : Accruals.Obligation} (hnetwork : b'.network = b.network)
    (hobligations : b'.obligations = b.obligations.insert o) (hactive : isActive b.network o.referral = true) :
    Extends b b' := by
  refine ⟨hnetwork, [o], hobligations, fun x hx => ?_⟩
  rw [List.mem_singleton.mp hx]
  exact hactive

lemma Extends.trans {b b' b'' : Accruals.Books} (h : Extends b b') (h' : Extends b' b'') : Extends b b'' := by
  obtain ⟨hnetwork, os, hos, hactive⟩ := h
  obtain ⟨hnetwork', ps, hps, hactive'⟩ := h'
  refine ⟨hnetwork'.trans hnetwork, os ++ ps, ?_, fun o ho => ?_⟩
  · rw [hps, hos, Table.insertAll, Table.insertAll, Table.insertAll, List.foldl_append]
  · rcases List.mem_append.mp ho with ho | ho
    · exact hactive o ho
    · exact hnetwork ▸ hactive' o ho

variable {b b' : Accruals.Books} {event : Accruals.LotExecutionEvent} {pk : ℕ}

lemma lotGenerated_extends {direct : Option ℕ} (h : Generated.LotGenerated b pk event b' direct) : Extends b b' := by
  cases h with
  | refused | existing => exact extends_of_same rfl rfl
  | created hearns hsource hrule hreferral hnew =>
    obtain ⟨account, attribution, a, rule, r, rate, calculated, -, -, hattribution, hactive, -⟩ := hearns
    rw [hattribution, Option.map_some, Option.some.injEq] at hreferral
    exact extends_insert rfl rfl (hreferral ▸ hactive)

lemma postCents_extends {attribution execution ancestor rule : ℕ} {cents : ℤ} {obligation : Option ℕ}
    (hactive : isActive b.network ancestor = true)
    (h : Accruals.postCents event attribution execution b ancestor rule cents = .ok (b', obligation)) :
    Extends b b' := by
  rw [Accruals.postCents] at h
  split at h
  · cases h
    exact extends_of_same rfl rfl
  · simp only [bind_eq_ok, require_eq_ok, pure_eq_ok, Accruals.createObligation, guard_eq_ok, Except.ok.injEq] at h
    obtain ⟨amount, -, -, ⟨-, rfl⟩, h⟩ := h
    cases h
    exact extends_insert rfl rfl hactive

lemma accrueLevel_extends {attribution execution ancestor level : ℕ} {remaining left : ℚ}
    (h : Accruals.accrueLevel event attribution execution b remaining ancestor level = .ok (b', left)) :
    Extends b b' := by
  rw [Accruals.accrueLevel] at h
  split at h
  · cases h
    exact extends_of_same rfl rfl
  · next hactive =>
    obtain ⟨resolved, -, h⟩ := bind_eq_ok.mp h
    cases resolved with
    | none => cases h; exact extends_of_same rfl rfl
    | some r =>
      obtain ⟨rule, r⟩ := r
      cases hrate : r.fixedAmount with
      | none => simp only [hrate] at h; cases h; exact extends_of_same rfl rfl
      | some rate =>
        simp only [hrate] at h
        split at h
        · cases h
          exact extends_of_same rfl rfl
        · simp only [bind_eq_ok, pure_eq_ok, Prod.mk.injEq, Accruals.accrueAmount, Accruals.createAccrual, guard_eq_ok,
            Except.ok.injEq] at h
          obtain ⟨_, ⟨⟨posted, obligation⟩, hposted, _, ⟨-, rfl⟩, rfl⟩, rfl, -⟩ := h
          obtain ⟨hnetwork, hlots⟩ := postCents_extends (Bool.eq_true_of_not_eq_false hactive) hposted
          exact ⟨hnetwork, hlots⟩

lemma accrueLevels_extends {attribution execution : ℕ} {remaining : ℚ} {pairs : List (ℕ × ℕ)}
    (h : Accruals.accrueLevels event attribution execution b remaining pairs = .ok b') : Extends b b' := by
  induction pairs generalizing b remaining with
  | nil =>
    cases h
    exact extends_of_same rfl rfl
  | cons pair pairs ih =>
    obtain ⟨next, hnext, h⟩ := bind_eq_ok.mp h
    exact (accrueLevel_extends hnext).trans (ih h)

/-- The network posts only for introducers that are active. -/
lemma processExecution_extends {done : ℕ} (h : Accruals.processExecution b pk = .ok (b', done)) : Extends b b' := by
  obtain ⟨event, -, h⟩ := bind_eq_ok.mp h
  split at h
  · cases h
    exact extends_of_same rfl rfl
  · obtain ⟨account, -, h⟩ := bind_eq_ok.mp h
    have hreceipt : Extends b { b with executions := b.executions.insert ⟨pk⟩ } := extends_of_same rfl rfl
    split at h
    · cases h
      exact hreceipt
    · obtain ⟨chain, -, h⟩ := bind_eq_ok.mp h
      simp only at h
      split at h
      · cases h
        exact hreceipt
      · split at h
        · cases h
          exact hreceipt
        · simp only [bind_eq_ok] at h
          obtain ⟨_, -, ⟨direct, obligation⟩, hgenerated, h⟩ := h
          have hdirect := hreceipt.trans (lotGenerated_extends (Generated.lot_generated hgenerated))
          cases obligation with
          | none => cases h; exact hdirect
          | some obligation =>
            obtain ⟨resolved, -, h⟩ := bind_eq_ok.mp h
            cases resolved with
            | none => cases h; exact hdirect
            | some r =>
              obtain ⟨budgetRule, r⟩ := r
              cases hbudget : r.fixedAmount with
              | none => simp only [hbudget] at h; cases h; exact hdirect
              | some budget =>
                simp only [hbudget] at h
                obtain ⟨accrued, haccrued, h⟩ := bind_eq_ok.mp h
                cases h
                exact hdirect.trans (accrueLevels_extends haccrued)

lemma process_generates {pk : ℕ} (h : Triggers.processExecution s pk = .ok s') :
    Generates (fun r => isActive s.books.network r = true) s s' := by
  rw [Triggers.processExecution] at h
  split at h
  · next books done hbooks =>
    cases h
    obtain ⟨hnetwork, hlots⟩ := processExecution_extends hbooks
    exact ⟨hnetwork, hlots, [], rfl, List.forall_mem_nil _⟩
  · cases h

lemma attributed_introducer {kind : Kind} {user attribution : ℕ} {a : Links.Attribution}
    (hfirst : s.books.network.attributions.first (fun a => a.referredUser = user) = some (attribution, a))
    (huser : sourceUser s kind pk = some user) : introducer s kind pk = some a.referral := by
  rw [introducer, huser, Option.bind_some, hfirst]
  rfl

lemma perLot_user {attribution : ℕ} {a : Links.Attribution} (hevent : s.books.events.get pk = some event)
    (hattribution : Accruals.attributionOf s.books event = some (attribution, a)) :
    introducer s .perLot pk = some a.referral := by
  rw [Accruals.attributionOf] at hattribution
  split at hattribution
  · cases hattribution
  · next user huser =>
    refine attributed_introducer hattribution ?_
    rw [sourceUser, hevent]
    exact huser

lemma percent_user {kind : Triggers.PercentKind} {basis : Triggers.Basis}
    (h : Generated.sourceBasis s kind pk = some (some basis)) : sourceUser s (.percent kind) pk = some basis.user := by
  cases kind with
  | challengePercent =>
    obtain ⟨e, he, hbasis⟩ := Option.map_eq_some_iff.mp h
    rw [Triggers.enrollmentBasis] at hbasis
    split at hbasis
    · cases hbasis
    · obtain ⟨user, huser, rfl⟩ := Option.map_eq_some_iff.mp hbasis
      rw [sourceUser, he]
      exact huser
  | depositPercent =>
    obtain ⟨d, hd, hbasis⟩ := Option.map_eq_some_iff.mp h
    rw [Triggers.depositBasis] at hbasis
    split at hbasis
    · cases hbasis
    · obtain ⟨user, huser, rfl⟩ := Option.map_eq_some_iff.mp hbasis
      rw [sourceUser, hd]
      exact huser
  | tradingCommissionRevenueShare | spreadRevenueShare =>
    obtain ⟨row, hrow, hbasis⟩ := Option.map_eq_some_iff.mp h
    rw [Triggers.revenueBasis] at hbasis
    split at hbasis
    · cases hbasis
    · obtain ⟨user, huser, rfl⟩ := Option.map_eq_some_iff.mp hbasis
      rw [sourceUser, hrow]
      exact huser

lemma commissionTerms_some {kind : Triggers.PercentKind} {basis : Option Triggers.Basis} {terms : Triggers.Terms}
    (hsource : Generated.sourceBasis s kind pk = some basis) (h : Triggers.commissionTerms s kind basis = some terms) :
    introducer s (.percent kind) pk = some terms.referral ∧ isActive s.books.network terms.referral = true := by
  cases basis with
  | none => cases h
  | some basis =>
    simp only [Triggers.commissionTerms] at h
    split at h
    · cases h
    · next attribution a hfirst =>
      split at h
      · cases h
      · next hactive =>
        split at h
        · cases h
        · cases h
        · cases h
          exact ⟨attributed_introducer hfirst (percent_user hsource), Bool.eq_true_of_not_eq_false hactive⟩

lemma generatePercent_ok {kind : Triggers.PercentKind} {basis : Option Triggers.Basis} {direct : Option ℕ}
    (h : Triggers.generatePercentObligation s kind pk basis = .ok (s', direct)) :
    s' = s ∨ ∃ terms o, Triggers.commissionTerms s kind basis = some terms ∧ o.referral = terms.referral ∧
      s' = { s with obligations := s.obligations.insert o } := by
  rw [Triggers.generatePercentObligation] at h
  split at h
  · cases h
    exact Or.inl rfl
  · next terms hterms =>
    obtain ⟨rate, -, h⟩ := bind_eq_ok.mp h
    split at h
    · cases h
      exact Or.inl rfl
    · obtain ⟨o, ho, h⟩ := bind_eq_ok.mp h
      cases h
      exact Or.inr ⟨terms, o, hterms, (Generated.percentObligation_key ho).1, rfl⟩

lemma generate_generates {kind : Kind} {pk : ℕ} {direct : Option ℕ}
    (h : Triggers.generate s kind pk = .ok (s', direct)) :
    Generates (fun r => introducer s kind pk = some r ∧ isActive s.books.network r = true) s s' := by
  cases kind with
  | perLot =>
    simp only [Triggers.generate, Triggers.generatePerLotObligation, bind_eq_ok, require_eq_ok, mapError_eq_ok,
      pure_eq_ok, Prod.mk.injEq] at h
    obtain ⟨event, hevent, ⟨b, direct⟩, hgenerated, rfl, -⟩ := h
    cases Generated.lot_generated hgenerated with
    | refused | existing => exact generates_refl _ s
    | @created o hearns hsource hrule hreferral hnew =>
      obtain ⟨account, attribution, a, rule, r, rate, calculated, haccount, -, hattribution, hactive, -⟩ := hearns
      rw [hattribution, Option.map_some, Option.some.injEq] at hreferral
      refine ⟨rfl, ⟨[o], rfl, fun x hx => ?_⟩, ⟨[], rfl, List.forall_mem_nil _⟩⟩
      rw [List.mem_singleton.mp hx]
      rw [← hreferral]
      exact ⟨perLot_user hevent hattribution, hactive⟩
  | percent kind =>
    obtain ⟨basis, hbasis, h⟩ := Generated.generate_percent.mp h
    obtain rfl | ⟨terms, o, hterms, hreferral, rfl⟩ := generatePercent_ok h
    · exact generates_refl _ _
    · refine ⟨rfl, ⟨[], rfl, List.forall_mem_nil _⟩, ⟨[o], rfl, fun x hx => ?_⟩⟩
      rw [List.mem_singleton.mp hx, hreferral]
      exact commissionTerms_some hbasis hterms

end Generation

section Effects

variable {s s' : Desk} {a : Action}

structure Unflagged (s s' : Desk) : Prop where
  frozen : ∀ r, isFrozen (network s') r = isFrozen (network s) r
  events : s'.riskEvents = s.riskEvents

/-- What one step does to the obligations, to the freezes and to the history. -/
inductive Effect (s : Desk) (a : Action) (s' : Desk) : Prop
  | quiet (flags : Unflagged s s') (obligations : s'.obligations = s.obligations)
  | created (rows : List Commissions.Settlement.Obligation) (flags : Unflagged s s')
      (fresh : ∀ o ∈ rows, Fresh (fun r => Undisturbed s a → isFrozen (network s) r = false) o)
      (obligations : s'.obligations = s.obligations.insertAll rows)
  | approved (i user : ℕ) (o : Commissions.Settlement.Obligation) (flags : Unflagged s s')
      (found : s.obligations.get i = some o) (pending : o.status = .pending) (unheld : o.isHeld = false)
      (unfrozen : isFrozen (network s) o.referral = false)
      (obligations : s'.obligations =
        s.obligations.update i fun o => { o with status := .approved, approvedBy := some user })
  | linked (i k : ℕ) (o : Commissions.Settlement.Obligation) (flags : Unflagged s s')
      (found : s.obligations.get i = some o) (unlinked : o.treasuryOperation = none) (unheld : o.isHeld = false)
      (unfrozen : isFrozen (network s) o.referral = false)
      (obligations : s'.obligations = s.obligations.update i fun o => { o with treasuryOperation := some k })
  | credited (i k : ℕ) (o : Commissions.Settlement.Obligation) (r : Treasury.Requests.TreasuryRequest)
      (flags : Unflagged s s') (action : a = .syncObligationFromTreasury i) (found : s.obligations.get i = some o)
      (status : o.status = .approved) (link : o.treasuryOperation = some k)
      (request : s.office.requests.get k = some r) (executed : r.status = .executed)
      (obligations : s'.obligations = s.obligations.update i fun o => { o with status := .credited })
  | switched (r actor : ℕ) (b : Bool) (reason : String) (was : isFrozen (network s) r = !b)
      (frozen : ∀ x, isFrozen (network s') x = if x = r then b else isFrozen (network s) x)
      (events : s'.riskEvents =
        s.riskEvents.insert ⟨if b then .frozen else .unfrozen, r, none, actor, reason⟩)
      (obligations : s'.obligations = s.obligations)
  | flagged (i actor : ℕ) (b : Bool) (reason : String) (o : Commissions.Settlement.Obligation)
      (found : s.obligations.get i = some o) (was : o.isHeld = !b)
      (frozen : ∀ r, isFrozen (network s') r = isFrozen (network s) r)
      (events : s'.riskEvents = s.riskEvents.insert
        ⟨if b then .obligationHeld else .obligationReleased, o.referral, some i, actor, reason⟩)
      (obligations : s'.obligations = s.obligations.update i fun o => { o with isHeld := b })

lemma unflagged_refl (s : Desk) : Unflagged s s := ⟨fun _ => rfl, rfl⟩

lemma effect_refl (s : Desk) (a : Action) : Effect s a s := .quiet (unflagged_refl s) rfl

lemma effect_commit {ε : Type} {x : Except ε Desk} (h : ∀ s', x = .ok s' → Effect s a s') :
    Effect s a (commit s x) := by
  refine commit_rule _ _ ?_ fun s' hok => ?_
  · exact effect_refl s a
  · exact h s' hok

lemma isFrozen_setRisk {n : Network} {referral : ℕ} {r : Referral} (hr : n.referrals.get referral = some r)
    (riskStatus : RiskStatus) (x : ℕ) : isFrozen (Links.setRisk n referral riskStatus) x =
      if x = referral then decide (riskStatus = .frozen) else isFrozen n x := by
  rw [isFrozen, Links.setRisk, Table.get_update]
  split
  · next hx => rw [hx, hr]; rfl
  · rfl

lemma isFrozen_of_get {n : Network} {referral : ℕ} {r : Referral} (hr : n.referrals.get referral = some r) :
    isFrozen n referral = decide (r.riskStatus = .frozen) := by
  rw [isFrozen, hr]
  rfl

lemma unfrozen_of_active {n : Network} {referral : ℕ} (h : isActive n referral = true) :
    isFrozen n referral = false := by
  rw [isActive, Option.any_eq_true_iff_get] at h
  obtain ⟨hsome, hactive⟩ := h
  rw [isFrozen_of_get (Option.some_get hsome).symm, of_decide_eq_true hactive]
  rfl

lemma freeze_effect {user referral : ℕ} {reason : String} {now : ℤ}
    (h : freezeReferral s user referral reason now = .ok s') : Effect s a s' := by
  simp only [freezeReferral, bind_eq_ok, require_eq_ok, guard_eq_ok, pure_eq_ok] at h
  obtain ⟨-, -, text, -, r, hr, hstatus, rfl⟩ := h
  refine .switched referral user true text ?_ ?_ rfl rfl
  · rw [isFrozen_of_get hr, decide_eq_false hstatus]
    rfl
  · exact isFrozen_setRisk hr .frozen

lemma unfreeze_effect {user referral : ℕ} {reason : String}
    (h : unfreezeReferral s user referral reason = .ok s') : Effect s a s' := by
  simp only [unfreezeReferral, bind_eq_ok, require_eq_ok, guard_eq_ok, pure_eq_ok, ne_eq, not_not] at h
  obtain ⟨-, -, text, -, r, hr, hstatus, rfl⟩ := h
  refine .switched referral user false text ?_ ?_ rfl rfl
  · rw [isFrozen_of_get hr, decide_eq_true hstatus]
    rfl
  · exact isFrozen_setRisk hr .active

lemma hold_effect {user obligation : ℕ} {reason : String} {now : ℤ}
    (h : holdObligation s user obligation reason now = .ok s') : Effect s a s' := by
  simp only [holdObligation, bind_eq_ok, require_eq_ok, guard_eq_ok, pure_eq_ok, Bool.not_eq_true] at h
  obtain ⟨-, -, text, -, o, ho, hheld, rfl⟩ := h
  exact .flagged obligation user true text o ho hheld (fun _ => rfl) rfl rfl

lemma release_effect {user obligation : ℕ} {reason : String}
    (h : releaseObligation s user obligation reason = .ok s') : Effect s a s' := by
  simp only [releaseObligation, bind_eq_ok, require_eq_ok, guard_eq_ok, pure_eq_ok, Bool.not_eq_false] at h
  obtain ⟨-, -, text, -, o, ho, hheld, rfl⟩ := h
  exact .flagged obligation user false text o ho hheld (fun _ => rfl) rfl rfl

lemma generate_effect (s : Desk) (call : ℕ) : Effect s (.generate call) (generate s call) := by
  rw [generate]
  split
  · exact effect_refl _ _
  · next c hc =>
    refine commit_rule _ _ ?_ fun s' hok => ?_
    · exact .quiet ⟨fun _ => rfl, rfl⟩ rfl
    · obtain ⟨⟨after, direct⟩, hgenerated, rfl⟩ := map_eq_ok.mp hok
      have hposted := (generate_generates hgenerated).posted
      refine .created _ ⟨fun _ => rfl, rfl⟩ (fun o ho => ?_) rfl
      obtain ⟨⟨hintroducer, hactive⟩, hpending, hunlinked, hunheld⟩ := hposted o ho
      exact ⟨fun hguard => unfrozen_of_active (hguard c hc o.referral hintroducer hactive), hpending, hunlinked,
        hunheld⟩

lemma process_effect {pk : ℕ} {after : Sources} (h : Triggers.processExecution s.sources pk = .ok after) :
    Effect s a (book s after) := by
  have hgenerates := process_generates h
  refine .created _ ⟨fun r => ?_, rfl⟩ (fun o ho => ?_) rfl
  · exact congrArg (fun n => isFrozen n r) hgenerates.network
  · obtain ⟨hactive, hpending, hunlinked, hunheld⟩ := hgenerates.posted o ho
    exact ⟨fun _ => unfrozen_of_active hactive, hpending, hunlinked, hunheld⟩

lemma approve_effect {user obligation : ℕ} {p : Program}
    (h : Commissions.Settlement.approveObligation (program s) user obligation = .ok p) : Effect s a (settle s p) := by
  simp only [Commissions.Settlement.approveObligation, bind_eq_ok, Commissions.Settlement.lockObligation,
    Commissions.Settlement.lockReferral, require_eq_ok, guard_eq_ok, pure_eq_ok, ne_eq, not_not, Bool.not_eq_true] at h
  obtain ⟨-, -, o, ho, r, hr, hpending, hactive, hheld, -, rfl⟩ := h
  refine .approved obligation user o ⟨fun _ => rfl, rfl⟩ ho hpending hheld ?_ rfl
  rw [isFrozen_of_get hr, hactive]
  rfl

lemma link_effect {user obligation : ℕ} {r : Program × ℕ}
    (h : Commissions.Settlement.linkTreasuryRequest (program s) user obligation = .ok r) :
    Effect s a (settle s r.1) := by
  simp only [Commissions.Settlement.linkTreasuryRequest, bind_eq_ok, Commissions.Settlement.lockObligation,
    Commissions.Settlement.lockReferral, require_eq_ok] at h
  obtain ⟨-, -, o, ho, referral, hr, h⟩ := h
  cases hlink : o.treasuryOperation with
  | some k =>
    rw [hlink] at h
    cases h
    exact .quiet ⟨fun _ => rfl, rfl⟩ rfl
  | none =>
    rw [hlink] at h
    simp only [guard_eq_ok, bind_eq_ok, pure_eq_ok, ne_eq, not_not, Bool.not_eq_true] at h
    obtain ⟨-, hactive, hheld, -, submitted, hsubmitted, rfl⟩ := h
    simp only [Program.submit, bind_eq_ok, mapError_eq_ok, pure_eq_ok] at hsubmitted
    obtain ⟨office, -, rfl⟩ := hsubmitted
    refine .linked obligation _ o ⟨fun _ => rfl, rfl⟩ ho hlink hheld ?_ rfl
    rw [isFrozen_of_get hr, hactive]
    rfl

lemma sync_ok {p : Program} {obligation : ℕ}
    {r : Program × Commissions.Settlement.Outcome × Option Treasury.Requests.Status}
    (h : Commissions.Settlement.syncObligationFromTreasury p obligation = .ok r) :
    r.1 = p ∨ ∃ o k q, p.obligations.get obligation = some o ∧ o.status = .approved ∧ o.treasuryOperation = some k ∧
      p.office.requests.get k = some q ∧ q.status = .executed ∧
      r.1 = p.setObligation obligation fun o => { o with status := .credited } := by
  simp only [Commissions.Settlement.syncObligationFromTreasury, bind_eq_ok, Commissions.Settlement.lockObligation,
    require_eq_ok] at h
  obtain ⟨o, ho, h⟩ := h
  split at h
  · cases h
    exact Or.inl rfl
  · split at h
    · cases h
      exact Or.inl rfl
    · next happroved =>
      split at h
      · cases h
        exact Or.inl rfl
      · next k hlink =>
        simp only [bind_eq_ok, Commissions.Settlement.treasuryRequest, require_eq_ok] at h
        obtain ⟨q, hq, h⟩ := h
        split at h
        · cases h
          exact Or.inl rfl
        · split at h
          · cases h
            exact Or.inl rfl
          · next hexecuted =>
            cases h
            exact Or.inr ⟨o, k, q, ho, not_not.mp happroved, hlink, hq, not_not.mp hexecuted, rfl⟩

lemma sync_effect {obligation : ℕ} {r : Program × Commissions.Settlement.Outcome × Option Treasury.Requests.Status}
    (h : Commissions.Settlement.syncObligationFromTreasury (program s) obligation = .ok r) :
    Effect s (.syncObligationFromTreasury obligation) (settle s r.1) := by
  obtain hsame | ⟨o, k, q, ho, happroved, hlink, hq, hexecuted, hset⟩ := sync_ok h
  · rw [hsame]
    exact effect_refl s _
  · rw [hset]
    exact .credited obligation k o q ⟨fun _ => rfl, rfl⟩ rfl ho happroved hlink hq hexecuted rfl

lemma linkSubIb_referrals {n n' : Network} {child parent pk : ℕ} {actor : Option ℕ} {reason : String} {now : ℤ}
    (h : Links.linkSubIb n child parent actor reason now = .ok (n', pk)) : n'.referrals = n.referrals := by
  rw [Links.linkSubIb, guard_eq_ok] at h
  obtain ⟨-, h⟩ := h
  split at h
  · split at h
    · cases h
      rfl
    · cases h
  · simp only [guard_eq_ok, bind_eq_ok, Links.createLink, Except.ok.injEq, Prod.mk.injEq] at h
    obtain ⟨-, -, -, -, -, -, -, rfl, -⟩ := h
    rfl

lemma commit_link_referrals (n : Network) (child parent : ℕ) (actor : Option ℕ) (reason : String) (now : ℤ) :
    (commit n ((Links.linkSubIb n child parent actor reason now).map Prod.fst)).referrals = n.referrals := by
  refine commit_rule (motive := fun n' : Network => n'.referrals = n.referrals) _ _ rfl fun n' hok => ?_
  obtain ⟨⟨after, pk⟩, hlinked, rfl⟩ := map_eq_ok.mp hok
  exact linkSubIb_referrals hlinked

lemma links_frozen (n : Network) {act : Links.Action} (h : elsewhere (.network act) = true) (r : ℕ) :
    isFrozen (Links.step n act) r = isFrozen n r := by
  have hsame {n' : Network} (hreferrals : n'.referrals = n.referrals) : isFrozen n' r = isFrozen n r := by
    rw [isFrozen, hreferrals, isFrozen]
  cases act with
  | register user =>
    rw [Links.step, Links.register]
    split
    · rfl
    · rw [isFrozen, Table.get_insert]
      split
      · next hr =>
        rw [isFrozen, hr, Table.get_next]
        rfl
      · rfl
  | attributeUser user referral =>
    rw [Links.step, Links.attributeUser]
    split
    · rfl
    · exact hsame rfl
  | setRisk referral riskStatus => cases h
  | linkSubIb child parent actor reason now => exact hsame (commit_link_referrals n child parent actor reason now)
  | readAttribution referral =>
    rw [Links.step, Links.readAttribution]
    split
    · rfl
    · split
      · rfl
      · exact hsame rfl
  | attachFromAttribution attachment now =>
    rw [Links.step, Links.attachFromAttribution]
    split
    · rfl
    · exact hsame (commit_link_referrals _ _ _ _ _ _)

lemma sources_effect (s : Desk) (act : Triggers.Act) : Effect s (.sources act) (step s (.sources act)) := by
  rw [step]
  split
  · next helsewhere =>
    refine .quiet ⟨fun r => ?_, rfl⟩ rfl
    cases act with
    | network act => exact links_frozen (network s) helsewhere r
    | sweep kind cutoff batchSize => cases helsewhere
    | sweepNetwork batchSize reached => cases helsewhere
    | wait | addRule | changeRule | openAccount | execute | enroll | requestDeposit | creditDeposit | bookRevenue => rfl
  · exact effect_refl s _

theorem step_effect (s : Desk) (a : Action) : Effect s a (step s a) := by
  cases a with
  | freezeReferral user referral reason now => exact effect_commit fun _ => freeze_effect
  | unfreezeReferral user referral reason => exact effect_commit fun _ => unfreeze_effect
  | holdObligation user obligation reason now => exact effect_commit fun _ => hold_effect
  | releaseObligation user obligation reason => exact effect_commit fun _ => release_effect
  | readReferral kind source => exact .quiet ⟨fun _ => rfl, rfl⟩ rfl
  | generate call => exact generate_effect s call
  | processExecution event =>
    refine effect_commit fun s' hok => ?_
    obtain ⟨after, hafter, rfl⟩ := map_eq_ok.mp hok
    exact process_effect hafter
  | approveObligation user obligation =>
    refine effect_commit fun s' hok => ?_
    obtain ⟨p, hp, rfl⟩ := map_eq_ok.mp hok
    exact approve_effect hp
  | linkTreasuryRequest user obligation =>
    refine effect_commit fun s' hok => ?_
    obtain ⟨r, hr, rfl⟩ := map_eq_ok.mp hok
    exact link_effect hr
  | syncObligationFromTreasury obligation =>
    refine effect_commit fun s' hok => ?_
    obtain ⟨r, hr, rfl⟩ := map_eq_ok.mp hok
    exact sync_effect hr
  | treasury action => exact .quiet ⟨fun _ => rfl, rfl⟩ rfl
  | sources act => exact sources_effect s act

end Effects

end TrxSimulator.IBNetwork.Holds
