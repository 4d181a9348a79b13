import TrxSimulator.Challenges.Progress

/-! The phases of an enrollment in every run: an account for each phase passed through, links that are
never replaced, and terminal statuses that stay, as long as an activation or a promotion finds the first
phase as it must be. -/

namespace TrxSimulator.Challenges.Phases

open Foundations.Runs Foundations.Tables Foundations.Outcomes Foundations.Decimals Money Accounts Evaluation
open Progress

inductive Turn (p : Action → Prop) (accounts : Table ChallengeAccount) (i : ℕ) :
    ChallengeEnrollment → ChallengeEnrollment → Prop
  | activated (e : ChallengeEnrollment) (k : ℕ) (caller : p (.activate i)) (missing : e.phase1Account = none)
      (created : (accounts.get k).isSome = true) :
      Turn p accounts i e { e with phase1Account := some k, status := .phase1 }
  | toPhase2 (e : ChallengeEnrollment) (k : ℕ) (caller : p (.advanceToPhase2 i) ∨ e.phase1Account ≠ none)
      (missing : e.phase2Account = none) (status : e.status = .phase1)
      (created : (accounts.get k).isSome = true) :
      Turn p accounts i e { e with phase2Account := some k, status := .phase2 }
  | toFunded (e : ChallengeEnrollment) (k : ℕ) (missing : e.fundedAccount = none) (status : e.status = .phase2)
      (created : (accounts.get k).isSome = true) :
      Turn p accounts i e { e with fundedAccount := some k, status := .funded }
  | failed (e : ChallengeEnrollment) (reason : Option FailReason) (failedAt : AccountPhase)
      (status : e.status = .phase1 ∨ e.status = .phase2) :
      Turn p accounts i e { e with status := .failed, failedAtPhase := some failedAt, failureReason := reason }

def Kept (s s' : Desk) : Prop := ∀ k, (s.accounts.get k).isSome = true → (s'.accounts.get k).isSome = true

inductive Effect (p : Action → Prop) (s s' : Desk) : Prop
  | quiet (enrollments : s'.enrollments = s.enrollments) (kept : Kept s s')
  | enrolled (user product : ℕ) (source : EnrollmentSource)
      (enrollments : s'.enrollments = s.enrollments.insert (newEnrollment user product source)) (kept : Kept s s')
  | turned (i : ℕ) (e e' : ChallengeEnrollment) (found : s.enrollments.get i = some e)
      (turn : Turn p s'.accounts i e e') (enrollments : s'.enrollments = s.enrollments.update i fun _ => e')
      (kept : Kept s s')

section Effects

variable {p : Action → Prop} {s s' : Desk} {i : ℕ} {e : ChallengeEnrollment}

lemma Kept.refl (s : Desk) : Kept s s := fun _ h => h

lemma effect_refl (s : Desk) : Effect p s s := .quiet rfl (Kept.refl s)

lemma kept_insert {a : ChallengeAccount} (haccounts : s'.accounts = s.accounts.insert a) : Kept s s' := by
  intro k hk
  obtain ⟨b, hb⟩ := Option.isSome_iff_exists.mp hk
  rw [haccounts, Table.get_insert_of_get hb]
  rfl

lemma kept_update {k : ℕ} {f : ChallengeAccount → ChallengeAccount}
    (haccounts : s'.accounts = s.accounts.update k f) : Kept s s' := by
  intro j hj
  rw [haccounts, Table.isSome_update]
  exact hj

lemma isSome_completePhase (accounts : Table ChallengeAccount) (link : Option ℕ) (k : ℕ) :
    ((completePhase accounts link).get k).isSome = (accounts.get k).isSome := by
  cases link with
  | none => rfl
  | some j => exact Table.isSome_update _ _ _ _

lemma kept_completePhase {a : ChallengeAccount} {link : Option ℕ}
    (haccounts : s'.accounts = completePhase (s.accounts.insert a) link) : Kept s s' := by
  intro k hk
  obtain ⟨b, hb⟩ := Option.isSome_iff_exists.mp hk
  rw [haccounts, isSome_completePhase, Table.get_insert_of_get hb]
  rfl

lemma saveEnrollment_eq_ok {e' : ChallengeEnrollment} :
    saveEnrollment s i e' = .ok s' ↔ duplicateActive s i e' = false ∧
      { s with enrollments := s.enrollments.update i fun _ => e' } = s' := by
  rw [saveEnrollment, guard_eq_ok, Except.ok.injEq, Bool.not_eq_true]

lemma activate_effect (hp : p (.activate i)) (h : activateChallengeEnrollment s i = .ok s') : Effect p s s' := by
  simp only [activateChallengeEnrollment, bind_eq_ok, lockEnrollment, require_eq_ok] at h
  obtain ⟨e, he, h⟩ := h
  split at h
  · cases h
    exact effect_refl s
  · next hnone =>
    simp only [bind_eq_ok, saveEnrollment_eq_ok] at h
    obtain ⟨product, -, target, -, maxDrawdown, -, -, rfl⟩ := h
    refine .turned i e _ he (.activated e _ hp (not_not.mp hnone) ?_) rfl (kept_insert rfl)
    rw [Table.get_insert_next]
    rfl

lemma advanceToPhase2_effect (hp : ∀ e, s.enrollments.get i = some e →
    p (.advanceToPhase2 i) ∨ e.phase1Account ≠ none) (h : advanceToPhase2 s i = .ok s') : Effect p s s' := by
  simp only [advanceToPhase2, bind_eq_ok, lockEnrollment, require_eq_ok] at h
  obtain ⟨e, he, h⟩ := h
  split at h
  · cases h
    exact effect_refl s
  · next hnone =>
    rw [guard_eq_ok] at h
    obtain ⟨hstatus, h⟩ := h
    simp only [bind_eq_ok, saveEnrollment_eq_ok] at h
    obtain ⟨product, -, target, -, maxDrawdown, -, -, rfl⟩ := h
    refine .turned i e _ he (.toPhase2 e _ (hp e he) (not_not.mp hnone) (not_not.mp hstatus) ?_) rfl
      (kept_completePhase rfl)
    rw [isSome_completePhase, Table.get_insert_next]
    rfl

lemma advanceToFunded_effect (h : advanceToFunded s i = .ok s') : Effect p s s' := by
  simp only [advanceToFunded, bind_eq_ok, lockEnrollment, require_eq_ok] at h
  obtain ⟨e, he, h⟩ := h
  split at h
  · cases h
    exact effect_refl s
  · next hnone =>
    rw [guard_eq_ok] at h
    obtain ⟨hstatus, h⟩ := h
    simp only [bind_eq_ok, saveEnrollment_eq_ok] at h
    obtain ⟨product, -, maxDrawdown, -, -, rfl⟩ := h
    refine .turned i e _ he (.toFunded e _ (not_not.mp hnone) (not_not.mp hstatus) ?_) rfl
      (kept_completePhase rfl)
    rw [isSome_completePhase, Table.get_insert_next]
    rfl

lemma markFailed_effect {reason : Option FailReason} {failedAt : AccountPhase}
    (he : s.enrollments.get i = some e) (hstatus : e.status = .phase1 ∨ e.status = .phase2)
    (h : markFailed s i e reason failedAt = .ok s') : Effect p s s' := by
  rw [markFailed, saveEnrollment_eq_ok] at h
  obtain ⟨-, rfl⟩ := h
  refine .turned i e _ he (.failed e reason failedAt hstatus) rfl ?_
  cases hactive : e.activeAccount with
  | none => exact Kept.refl s
  | some k => exact kept_update rfl

lemma active_of_passed {product : ChallengeProduct} (h : (evaluatePhase s e product).status = .passed) :
    e.activeAccount ≠ none := by
  intro hnone
  rw [evaluatePhase, hnone] at h
  cases h

lemma evaluateNow_effect {result : EvalResult} (h : evaluateEnrollmentNow s i = .ok (s', result)) :
    Effect p s s' := by
  simp only [evaluateEnrollmentNow, bind_eq_ok, lockEnrollment, require_eq_ok] at h
  obtain ⟨e, he, h⟩ := h
  split at h
  · cases h
    exact effect_refl s
  · next hphase =>
    simp only [bind_eq_ok] at h
    obtain ⟨product, -, h⟩ := h
    split at h
    · next hpassed =>
      split at h
      · next hstatus =>
        simp only [bind_eq_ok, pure_eq_ok, Prod.mk.injEq] at h
        obtain ⟨s₁, hturn, rfl, -⟩ := h
        refine advanceToPhase2_effect (fun e' he' => Or.inr ?_) hturn
        obtain rfl : e = e' := Option.some.inj (he.symm.trans he')
        have hactive := active_of_passed hpassed
        rwa [ChallengeEnrollment.activeAccount, hstatus] at hactive
      · simp only [bind_eq_ok, pure_eq_ok, Prod.mk.injEq] at h
        obtain ⟨s₁, hturn, rfl, -⟩ := h
        exact advanceToFunded_effect hturn
    · simp only [bind_eq_ok, pure_eq_ok, Prod.mk.injEq] at h
      obtain ⟨s₁, hturn, rfl, -⟩ := h
      exact markFailed_effect he (by tauto) hturn
    · cases h
      exact effect_refl s

lemma effect_commit {x : Except ChallengeError Desk} (h : ∀ s', x = .ok s' → Effect p s s') :
    Effect p s (commit s x) := by
  refine commit_rule _ _ ?_ fun s' hok => ?_
  · exact effect_refl s
  · exact h s' hok

lemma step_effect (s : Desk) (action : Action) (hp : p action) : Effect p s (step s action) := by
  cases action with
  | enroll user product source =>
    refine effect_commit fun s' h => ?_
    rw [enroll, guard_eq_ok, Except.ok.injEq] at h
    obtain ⟨-, rfl⟩ := h
    exact .enrolled user product source rfl (Kept.refl s)
  | activate i => exact effect_commit fun s' h => activate_effect hp h
  | evaluateNow i =>
    refine effect_commit fun s' h => ?_
    obtain ⟨r, hr, rfl⟩ := map_eq_ok.mp h
    exact evaluateNow_effect hr
  | advanceToPhase2 i => exact effect_commit fun s' h => advanceToPhase2_effect (fun _ _ => Or.inl hp) h
  | advanceToFunded i => exact effect_commit fun s' h => advanceToFunded_effect h
  | trade k balance equity peakBalance status => exact .quiet rfl (kept_update rfl)
  | closeTrade trade => exact .quiet rfl (Kept.refl s)
  | post entry => exact .quiet rfl (Kept.refl s)
  | wait days => exact .quiet rfl (Kept.refl s)

end Effects

section Phases

variable {p : Action → Prop} {s s' : Desk} {i : ℕ} {e e' : ChallengeEnrollment}

def Fresh (e : ChallengeEnrollment) : Prop :=
  e.status = .phase1 ∧ e.phase1Account = none ∧ e.phase2Account = none ∧ e.fundedAccount = none

structure InPhase (s : Desk) (e : ChallengeEnrollment) : Prop where
  phase2 : e.phase2Account ≠ none → e.phase1Account ≠ none
  funded : e.fundedAccount ≠ none → e.phase2Account ≠ none
  phase1_exists : ∀ k, e.phase1Account = some k → (s.accounts.get k).isSome = true
  phase2_exists : ∀ k, e.phase2Account = some k → (s.accounts.get k).isSome = true
  funded_exists : ∀ k, e.fundedAccount = some k → (s.accounts.get k).isSome = true
  named : e.status.terminal = true ∨ e.activeAccount ≠ none

def AllInPhase (s : Desk) : Prop := ∀ i e, s.enrollments.get i = some e → Fresh e ∨ InPhase s e

/-- An activation that creates an account finds the first phase, and a promotion finds its account. -/
def Ready (s : Desk) : Action → Prop
  | .activate i => ∀ e ∈ s.enrollments.get i, e.phase1Account ≠ none ∨ e.status = .phase1
  | .advanceToPhase2 i => ∀ e ∈ s.enrollments.get i, e.phase1Account ≠ none ∨ e.status ≠ .phase1
  | _ => True

instance decidableReady (s : Desk) : ∀ a, Decidable (Ready s a)
  | .activate _ => inferInstanceAs (Decidable (∀ _ ∈ _, _ ∨ _))
  | .advanceToPhase2 _ => inferInstanceAs (Decidable (∀ _ ∈ _, _ ∨ _))
  | .enroll _ _ _ | .evaluateNow _ | .advanceToFunded _ | .trade _ _ _ _ _ | .closeTrade _ | .post _ | .wait _ =>
    inferInstanceAs (Decidable True)

lemma InPhase.kept (h : InPhase s e) (hkept : Kept s s') : InPhase s' e :=
  { h with
    phase1_exists := fun k hk => hkept k (h.phase1_exists k hk)
    phase2_exists := fun k hk => hkept k (h.phase2_exists k hk)
    funded_exists := fun k hk => hkept k (h.funded_exists k hk) }

structure Lasting (e e' : ChallengeEnrollment) : Prop where
  final : e.status.terminal = true ∨ e.status = .funded → e'.status = e.status
  phase1 : ∀ k, e.phase1Account = some k → e'.phase1Account = some k
  phase2 : ∀ k, e.phase2Account = some k → e'.phase2Account = some k
  funded : ∀ k, e.fundedAccount = some k → e'.fundedAccount = some k

lemma Lasting.refl (e : ChallengeEnrollment) : Lasting e e :=
  ⟨fun _ => rfl, fun _ h => h, fun _ h => h, fun _ h => h⟩

lemma Lasting.trans {e'' : ChallengeEnrollment} (h : Lasting e e') (h' : Lasting e' e'') : Lasting e e'' where
  final hfinal := by
    have hstatus := h.final hfinal
    rw [← hstatus] at hfinal
    exact (h'.final hfinal).trans hstatus
  phase1 k hk := h'.phase1 k (h.phase1 k hk)
  phase2 k hk := h'.phase2 k (h.phase2 k hk)
  funded k hk := h'.funded k (h.funded k hk)

lemma turn_inPhase (h : Fresh e ∨ InPhase s e) (he : s.enrollments.get i = some e)
    (t : Turn (Ready s) s'.accounts i e e') (hkept : Kept s s') : InPhase s' e' ∧ Lasting e e' := by
  cases t with
  | activated k caller missing created =>
    have hstatus : e.status = .phase1 := (caller e he).resolve_left (fun hne => hne missing)
    have hfresh : Fresh e := by
      refine h.resolve_right fun hin => ?_
      rcases hin.named with hterminal | hactive
      · rw [hstatus] at hterminal
        cases hterminal
      · rw [ChallengeEnrollment.activeAccount, hstatus] at hactive
        exact hactive missing
    obtain ⟨-, -, hphase2, hfunded⟩ := hfresh
    refine ⟨⟨fun _ => nofun, fun hne => (hne hfunded).elim, ?_, ?_, ?_, Or.inr nofun⟩, ?_⟩
    · rintro _ ⟨⟩
      exact created
    · intro j hj
      rw [show e.phase2Account = some j from hj] at hphase2
      cases hphase2
    · intro j hj
      rw [show e.fundedAccount = some j from hj] at hfunded
      cases hfunded
    · refine ⟨fun hfinal => ?_, fun j hj => ?_, fun _ hj => hj, fun _ hj => hj⟩
      · rw [hstatus] at hfinal
        rcases hfinal with hfinal | hfinal <;> cases hfinal
      · rw [missing] at hj
        cases hj
  | toPhase2 k caller missing status created =>
    have hphase1 : e.phase1Account ≠ none := by
      rcases caller with caller | hne
      · exact (caller e he).resolve_right fun hne => hne status
      · exact hne
    have hin : InPhase s e := h.resolve_left fun hfresh => hphase1 hfresh.2.1
    have hfunded : e.fundedAccount = none := by
      by_contra hne
      exact hin.funded hne missing
    refine ⟨⟨fun _ => hphase1, fun _ => nofun, (hin.kept hkept).phase1_exists, ?_, (hin.kept hkept).funded_exists,
      Or.inr nofun⟩, ?_⟩
    · rintro _ ⟨⟩
      exact created
    · refine ⟨fun hfinal => ?_, fun _ hj => hj, fun j hj => ?_, fun _ hj => hj⟩
      · rw [status] at hfinal
        rcases hfinal with hfinal | hfinal <;> cases hfinal
      · rw [missing] at hj
        cases hj
  | toFunded k missing status created =>
    have hin : InPhase s e := by
      refine h.resolve_left fun hfresh => ?_
      rw [hfresh.1] at status
      cases status
    have hphase2 : e.phase2Account ≠ none := by
      rcases hin.named with hterminal | hactive
      · rw [status] at hterminal
        cases hterminal
      · rwa [ChallengeEnrollment.activeAccount, status] at hactive
    refine ⟨⟨hin.phase2, fun _ => hphase2, (hin.kept hkept).phase1_exists, (hin.kept hkept).phase2_exists, ?_,
      Or.inr nofun⟩, ?_⟩
    · rintro _ ⟨⟩
      exact created
    · refine ⟨fun hfinal => ?_, fun _ hj => hj, fun _ hj => hj, fun j hj => ?_⟩
      · rw [status] at hfinal
        rcases hfinal with hfinal | hfinal <;> cases hfinal
      · rw [missing] at hj
        cases hj
  | failed reason failedAt status =>
    have hlasting : Lasting e
        { e with status := .failed, failedAtPhase := some failedAt, failureReason := reason } := by
      refine ⟨fun hfinal => ?_, fun _ hj => hj, fun _ hj => hj, fun _ hj => hj⟩
      rcases status with hs | hs <;> rw [hs] at hfinal <;> rcases hfinal with hfinal | hfinal <;> cases hfinal
    refine ⟨?_, hlasting⟩
    rcases h with ⟨-, hphase1, hphase2, hfunded⟩ | hin
    · refine ⟨fun hne => (hne hphase2).elim, fun hne => (hne hfunded).elim, fun j hj => ?_, fun j hj => ?_,
        fun j hj => ?_, Or.inl rfl⟩
      · rw [show e.phase1Account = some j from hj] at hphase1
        cases hphase1
      · rw [show e.phase2Account = some j from hj] at hphase2
        cases hphase2
      · rw [show e.fundedAccount = some j from hj] at hfunded
        cases hfunded
    · have hin' := hin.kept hkept
      exact ⟨hin.phase2, hin.funded, hin'.phase1_exists, hin'.phase2_exists, hin'.funded_exists, Or.inl rfl⟩

lemma step_phases (s : Desk) (action : Action) (h : AllInPhase s) (hready : Ready s action) :
    AllInPhase (step s action) ∧ ∀ i e, s.enrollments.get i = some e →
      ∃ e', (step s action).enrollments.get i = some e' ∧ Lasting e e' := by
  have hstep : Effect (Ready s) s (step s action) := step_effect s action hready
  cases hstep with
  | quiet enrollments kept =>
    rw [AllInPhase, enrollments]
    exact ⟨fun i e he => (h i e he).imp id fun hin => hin.kept kept, fun i e he => ⟨e, he, Lasting.refl e⟩⟩
  | enrolled user product source enrollments kept =>
    rw [AllInPhase, enrollments]
    refine ⟨fun i e he => ?_, fun i e he => ⟨e, Table.get_insert_of_get he _, Lasting.refl e⟩⟩
    rcases Table.get_insert_some he with he | ⟨-, rfl⟩
    · exact (h i e he).imp id fun hin => hin.kept kept
    · exact Or.inl ⟨rfl, rfl, rfl, rfl⟩
  | turned j e₀ e₁ found turn enrollments kept =>
    obtain ⟨hin, hlasting⟩ := turn_inPhase (h j e₀ found) found turn kept
    rw [AllInPhase, enrollments]
    refine ⟨fun i e he => ?_, fun i e he => ?_⟩
    · obtain ⟨b, hb, rfl⟩ := Table.get_update_some he
      split
      · exact Or.inr hin
      · exact (h i b hb).imp id fun hin => hin.kept kept
    · by_cases hi : i = j
      · subst hi
        obtain rfl : e₀ = e := Option.some.inj (found.symm.trans he)
        exact ⟨e₁, Table.get_update_self he _, hlasting⟩
      · exact ⟨e, (Table.get_update_ne _ hi _).trans he, Lasting.refl e⟩

lemma lasting_run (h : AllInPhase s) {acts : List Action} (hg : Guarded step Ready s acts)
    (he : s.enrollments.get i = some e) : ∃ e', (run step s acts).enrollments.get i = some e' ∧ Lasting e e' := by
  induction acts generalizing s e with
  | nil => exact ⟨e, he, Lasting.refl e⟩
  | cons action acts ih =>
    obtain ⟨hnext, hlasting⟩ := step_phases s action h hg.1
    obtain ⟨e₁, he₁, hl₁⟩ := hlasting i e he
    obtain ⟨e₂, he₂, hl₂⟩ := ih hnext hg.2 he₁
    exact ⟨e₂, he₂, hl₁.trans hl₂⟩

/-- In every run whose activations and promotions find the first phase as they must, an enrollment that has
been activated is in a phase whose account exists, and final statuses and links last. -/
theorem enrollment_run_in_phase (s : Desk) (h : AllInPhase s) (acts bcts : List Action)
    (hg : Guarded step Ready s (acts ++ bcts)) :
    (∀ i e, (run step s acts).enrollments.get i = some e → Fresh e ∨ InPhase (run step s acts) e) ∧
    ∀ i e, (run step s acts).enrollments.get i = some e →
      ∃ e', (run step s (acts ++ bcts)).enrollments.get i = some e' ∧ Lasting e e' := by
  obtain ⟨hacts, hbcts⟩ := (guarded_append step Ready s acts bcts).mp hg
  have hrun : AllInPhase (run step s acts) :=
    guarded_invariant (fun s action h hready => (step_phases s action h hready).1) h hacts
  refine ⟨hrun, fun i e he => ?_⟩
  rw [run_append]
  exact lasting_run hrun hbcts he

def catalogue : Desk where
  products := Table.ofList [tenThousand]
  enrollments := Table.empty
  accounts := Table.empty
  riskRules := Table.empty
  fundedConfigs := Table.empty
  trades := Table.empty
  entries := Table.empty
  today := 0

theorem enrollment_run_in_phase_example : ∃ e,
    (run step catalogue [.enroll 3 0 .deposit, .activate 0, .advanceToPhase2 0]).enrollments.get 0 = some e ∧
      e.status = .phase2 ∧
      InPhase (run step catalogue [.enroll 3 0 .deposit, .activate 0, .advanceToPhase2 0]) e := by
  obtain ⟨e, he, hstatus⟩ : ∃ e,
      (run step catalogue [.enroll 3 0 .deposit, .activate 0, .advanceToPhase2 0]).enrollments.get 0 = some e ∧
        e.status = .phase2 := by decide +kernel
  refine ⟨e, he, hstatus, ((enrollment_run_in_phase catalogue (fun i e h => by cases h)
    [.enroll 3 0 .deposit, .activate 0, .advanceToPhase2 0] [] (by decide +kernel)).1 0 e he).resolve_left ?_⟩
  rintro ⟨hfirst, -⟩
  rw [hstatus] at hfirst
  cases hfirst

/-- A failed enrollment goes back to the first phase, and an enrollment is promoted past a first phase that
never had an account. -/
theorem late_activation_reopens :
    ((run step catalogue [.enroll 3 0 .deposit, .evaluateNow 0]).enrollments.get 0).map (·.status) =
      some .failed ∧
    ((run step catalogue [.enroll 3 0 .deposit, .evaluateNow 0, .activate 0]).enrollments.get 0).map (·.status) =
      some .phase1 ∧
    ((run step catalogue [.enroll 3 0 .deposit, .advanceToPhase2 0]).enrollments.get 0).map
      (fun e => (e.status, e.phase1Account, e.phase2Account)) = some (.phase2, none, some 0) := by
  decide +kernel

end Phases

end TrxSimulator.Challenges.Phases
