import Mathlib.Data.List.Basic

/-! Runs of a total step function. A run is a list of labelled steps; a guarded run carries a condition
on every label at the state in which it is taken. -/

namespace TrxSimulator.Foundations.Runs

variable {σ α τ : Type*} (step : σ → α → σ)

def run (s : σ) (acts : List α) : σ := acts.foldl step s

@[simp] lemma run_nil (s : σ) : run step s [] = s := rfl

@[simp] lemma run_cons (s : σ) (a : α) (acts : List α) :
    run step s (a :: acts) = run step (step s a) acts := rfl

lemma run_append (s : σ) (acts bcts : List α) :
    run step s (acts ++ bcts) = run step (run step s acts) bcts := by
  simp only [run, List.foldl_append]

def Guarded (ok : σ → α → Prop) : σ → List α → Prop
  | _, [] => True
  | s, a :: acts => ok s a ∧ Guarded ok (step s a) acts

instance decidableGuarded (ok : σ → α → Prop) [∀ s a, Decidable (ok s a)] :
    ∀ (s : σ) (acts : List α), Decidable (Guarded step ok s acts)
  | _, [] => inferInstanceAs (Decidable True)
  | s, a :: acts =>
    have := decidableGuarded ok (step s a) acts
    inferInstanceAs (Decidable (ok s a ∧ Guarded step ok (step s a) acts))

@[simp] lemma guarded_nil (ok : σ → α → Prop) (s : σ) : Guarded step ok s [] := trivial

@[simp] lemma guarded_cons (ok : σ → α → Prop) (s : σ) (a : α) (acts : List α) :
    Guarded step ok s (a :: acts) ↔ ok s a ∧ Guarded step ok (step s a) acts := Iff.rfl

lemma guarded_append (ok : σ → α → Prop) (s : σ) (acts bcts : List α) :
    Guarded step ok s (acts ++ bcts) ↔
      Guarded step ok s acts ∧ Guarded step ok (run step s acts) bcts := by
  induction acts generalizing s with
  | nil => simp
  | cons a acts ih => simp [ih, and_assoc]

variable {step}

lemma guarded_congr {ok ok' : σ → α → Prop} (h : ∀ s a, ok s a ↔ ok' s a) (s : σ) (acts : List α) :
    Guarded step ok s acts ↔ Guarded step ok' s acts := by
  induction acts generalizing s with
  | nil => exact Iff.rfl
  | cons a acts ih => rw [guarded_cons, guarded_cons, h, ih]

lemma guarded_invariant {ok : σ → α → Prop} {I : σ → Prop}
    (hstep : ∀ s a, I s → ok s a → I (step s a)) {s : σ} (h : I s) {acts : List α}
    (hg : Guarded step ok s acts) : I (run step s acts) := by
  induction acts generalizing s with
  | nil => exact h
  | cons a acts ih => exact ih (hstep s a h hg.1) hg.2

/-- What an invariant and the condition of a step promise about the step, they promise along the run. -/
lemma guarded_promise {ok promise : σ → α → Prop} {I : σ → Prop} (hstep : ∀ s a, I s → ok s a → I (step s a))
    (hpromise : ∀ s a, I s → ok s a → promise s a) {s : σ} (h : I s) {acts : List α} (hg : Guarded step ok s acts) :
    Guarded step promise s acts := by
  induction acts generalizing s with
  | nil => trivial
  | cons a acts ih => exact ⟨hpromise s a h hg.1, ih (hstep s a h hg.1) hg.2⟩

/-- Where a condition says of each step whether it keeps an invariant, the invariant holds in all states of a run
exactly if the condition holds at all of its steps. -/
lemma invariant_iff_guarded {ok : σ → α → Prop} {I : σ → Prop} (hstep : ∀ s a, I s → (I (step s a) ↔ ok s a)) {s : σ}
    (h : I s) (acts : List α) :
    (∀ before after, acts = before ++ after → I (run step s before)) ↔ Guarded step ok s acts := by
  induction acts generalizing s with
  | nil =>
    refine iff_of_true (fun before after heq => ?_) trivial
    rw [(List.append_eq_nil_iff.mp heq.symm).1]
    exact h
  | cons a acts ih =>
    constructor
    · intro hall
      have hnext : I (step s a) := hall [a] acts rfl
      exact ⟨(hstep s a h).mp hnext, (ih hnext).mp fun before after heq => hall (a :: before) after (by rw [heq]; rfl)⟩
    · rintro ⟨hok, hrest⟩ before after heq
      cases before with
      | nil => exact h
      | cons b before =>
        obtain ⟨rfl, htail⟩ := List.cons.inj heq
        exact (ih ((hstep s a h).mpr hok)).mpr hrest before after htail

lemma not_guarded_iff {ok : σ → α → Prop} {s : σ} {acts : List α} : ¬ Guarded step ok s acts ↔
    ∃ before a after, acts = before ++ a :: after ∧ ¬ ok (run step s before) a := by
  induction acts generalizing s with
  | nil => simp
  | cons a acts ih =>
    constructor
    · intro hnot
      by_cases ha : ok s a
      · obtain ⟨before, b, after, rfl, hb⟩ := ih.mp fun hrest => hnot ⟨ha, hrest⟩
        exact ⟨a :: before, b, after, rfl, hb⟩
      · exact ⟨[], a, acts, rfl, ha⟩
    · rintro ⟨before, b, after, heq, hb⟩ ⟨ha, hrest⟩
      cases before with
      | nil =>
        obtain ⟨rfl, -⟩ := List.cons.inj heq
        exact hb ha
      | cons c before =>
        obtain ⟨rfl, htail⟩ := List.cons.inj heq
        exact ih.mpr ⟨before, b, after, htail, hb⟩ hrest

lemma run_invariant {I : σ → Prop} (hstep : ∀ s a, I s → I (step s a)) {s : σ} (h : I s)
    (acts : List α) : I (run step s acts) := by
  induction acts generalizing s with
  | nil => exact h
  | cons a acts ih => exact ih (hstep s a h)

/-- What is there after a run was there before it or has come with one of its steps. -/
lemma run_traced {ι : Type*} {I : σ → Prop} {P Q : σ → ι → Prop} (hinv : ∀ s a, I s → I (step s a))
    (hstep : ∀ s a x, I s → P (step s a) x → P s x ∨ Q s x) {s : σ} (h : I s) {acts : List α} {x : ι}
    (hx : P (run step s acts) x) :
    P s x ∨ ∃ before after, acts = before ++ after ∧ Q (run step s before) x := by
  induction acts generalizing s with
  | nil => exact .inl hx
  | cons a acts ih =>
    obtain hnext | ⟨before, after, rfl, hq⟩ := ih (hinv s a h) hx
    · exact (hstep s a x h hnext).imp_right fun hq => ⟨[], a :: acts, rfl, hq⟩
    · exact .inr ⟨a :: before, after, rfl, hq⟩

lemma run_project {ρ : Type*} {step' : ρ → α → ρ} {f : σ → ρ} (hf : ∀ s a, f (step s a) = step' (f s) a) (s : σ)
    (acts : List α) : f (run step s acts) = run step' (f s) acts := by
  induction acts generalizing s with
  | nil => rfl
  | cons a acts ih => rw [run_cons, run_cons, ih, hf]

lemma run_collect (seen items : List α) : run (fun seen x => seen ++ [x]) seen items = seen ++ items := by
  induction items generalizing seen with
  | nil => simp
  | cons x items ih => simp [ih]

/-- A condition on what the labels show holds along them exactly if it holds along what they show. -/
lemma guarded_map (f : α → τ) (ok : List τ → τ → Prop) (seen items : List α) :
    Guarded (fun seen x => seen ++ [x]) ok (seen.map f) (items.map f) ↔
      Guarded (fun seen x => seen ++ [x]) (fun seen x => ok (seen.map f) (f x)) seen items := by
  induction items generalizing seen with
  | nil => simp
  | cons x items ih =>
    have hnext := ih (seen ++ [x])
    rw [List.map_append] at hnext
    exact and_congr_right fun _ => hnext

lemma guarded_frame {ok : σ → α → Prop} {I : σ → Prop} {f : σ → τ}
    (hinv : ∀ s a, I s → ok s a → I (step s a)) (hf : ∀ s a, I s → ok s a → f (step s a) = f s)
    {s : σ} (h : I s) {acts : List α} (hg : Guarded step ok s acts) : f (run step s acts) = f s := by
  induction acts generalizing s with
  | nil => rfl
  | cons a acts ih => exact (ih (hinv s a h hg.1) hg.2).trans (hf s a h hg.1)

section Updates

variable {κ β : Type*} [DecidableEq κ] {k j : κ}

lemma update_cases {f : κ → β} {b : β} {P : β → Prop} (h : P (Function.update f k b j)) :
    (j = k ∧ P b) ∨ (j ≠ k ∧ P (f j)) := by
  by_cases hj : j = k
  · subst hj
    rw [Function.update_self] at h
    exact .inl ⟨rfl, h⟩
  · rw [Function.update_of_ne hj] at h
    exact .inr ⟨hj, h⟩

lemma update_eq_cases {f : κ → β} {b c : β} (h : Function.update f k b j = c) :
    (j = k ∧ b = c) ∨ (j ≠ k ∧ f j = c) :=
  update_cases (P := fun found => found = c) h

lemma update_some_cases {f : κ → Option β} {b c : β} (h : Function.update f k (some b) j = some c) :
    (j = k ∧ b = c) ∨ (j ≠ k ∧ f j = some c) := by
  obtain ⟨rfl, hsome⟩ | hother := update_eq_cases h
  · exact .inl ⟨rfl, Option.some.inj hsome⟩
  · exact .inr hother

end Updates

end TrxSimulator.Foundations.Runs
