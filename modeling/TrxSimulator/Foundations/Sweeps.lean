import TrxSimulator.Foundations.Outcomes
import TrxSimulator.Foundations.Runs

/-! Sweeps over a batch of keys: each key is tried in turn, and a key that raises changes nothing. -/

namespace TrxSimulator.Foundations.Sweeps

open Outcomes Runs

section Batches

variable {σ κ ε : Type} (process : σ → κ → Except ε σ)

def attempt (s : σ) (k : κ) : σ := commit s (process s k)

def sweep (s : σ) (keys : List κ) : σ := keys.foldl (attempt process) s

/-- The state in which a sweep comes to a key. -/
def turn [DecidableEq κ] : σ → List κ → κ → Option σ
  | _, [], _ => none
  | s, j :: keys, k => if j = k then some s else turn (attempt process s j) keys k

@[simp] lemma sweep_nil (s : σ) : sweep process s [] = s := rfl

@[simp] lemma sweep_cons (s : σ) (k : κ) (keys : List κ) :
    sweep process s (k :: keys) = sweep process (attempt process s k) keys := rfl

variable {process} {I : σ → Prop} {s t : σ} {k : κ} {keys : List κ}

lemma attempt_invariant (hstep : ∀ s k s', I s → process s k = .ok s' → I s') (h : I s) (k : κ) :
    I (attempt process s k) := by
  rw [attempt]
  exact commit_rule s _ h fun s' hs' => hstep s k s' h hs'

lemma sweep_invariant (hstep : ∀ s k s', I s → process s k = .ok s' → I s') (h : I s) (keys : List κ) :
    I (sweep process s keys) := by
  induction keys generalizing s with
  | nil => exact h
  | cons k keys ih => exact ih (attempt_invariant hstep h k)

variable [DecidableEq κ]

lemma isSome_turn_iff : (turn process s keys k).isSome = true ↔ k ∈ keys := by
  induction keys generalizing s with
  | nil => simp [turn]
  | cons j keys ih =>
    by_cases hj : j = k
    · simp [turn, hj]
    · simp [turn, hj, ih, Ne.symm hj]

lemma turn_invariant (hstep : ∀ s j s', I s → j ≠ k → process s j = .ok s' → I s') (h : I s)
    (ht : turn process s keys k = some t) : I t := by
  induction keys generalizing s with
  | nil => cases ht
  | cons j keys ih =>
    rw [turn] at ht
    split at ht
    · exact Option.some.inj ht ▸ h
    · next hj =>
      refine ih ?_ ht
      rw [attempt]
      exact commit_rule s _ h fun s' hs' => hstep s j s' h hj hs'

/-- What only the attempt of a key brings about is there after a sweep exactly if it was there before or the attempt
has brought it about. -/
lemma done_sweep_iff (done own : σ → Prop) (hstep : ∀ s k s', I s → process s k = .ok s' → I s')
    (hapart : ∀ s j s', I s → j ≠ k → process s j = .ok s' → (done s' ↔ done s))
    (hown : ∀ s, I s → (done (attempt process s k) ↔ done s ∨ own s)) (h : I s) (hnodup : keys.Nodup) :
    done (sweep process s keys) ↔ done s ∨ ∃ t, turn process s keys k = some t ∧ own t := by
  induction keys generalizing s with
  | nil => simp [turn]
  | cons j keys ih =>
    obtain ⟨hnotin, hrest⟩ := List.nodup_cons.mp hnodup
    have htail := ih (attempt_invariant hstep h j) hrest
    rw [sweep_cons, turn]
    refine htail.trans ?_
    by_cases hj : j = k
    · subst hj
      have hgone : turn process (attempt process s j) keys j = none := by
        rw [← Option.not_isSome_iff_eq_none, isSome_turn_iff]
        exact hnotin
      simp [hgone, hown s h]
    · have hother : done (attempt process s j) ↔ done s := by
        rw [attempt]
        exact commit_rule s _ Iff.rfl fun s' hs' => hapart s j s' h hj hs'
      rw [if_neg hj, hother]

end Batches

section Runs

variable {σ α : Type} {step : σ → α → σ} {I : σ → Prop} {s : σ}

lemma run_reached_iff (done : σ → Prop) (reach : σ → α → Prop) (hinv : ∀ s a, I s → I (step s a))
    (hstep : ∀ s a, I s → (done (step s a) ↔ done s ∨ reach s a)) (h : I s) (acts : List α) :
    done (run step s acts) ↔
      done s ∨ ∃ before a after, acts = before ++ a :: after ∧ reach (run step s before) a := by
  induction acts generalizing s with
  | nil => simp
  | cons a acts ih =>
    rw [run_cons, ih (hinv s a h), hstep s a h, or_assoc]
    refine or_congr_right ⟨?_, ?_⟩
    · rintro (hreach | ⟨before, b, after, rfl, hreach⟩)
      · exact ⟨[], a, acts, rfl, hreach⟩
      · exact ⟨a :: before, b, after, rfl, hreach⟩
    · rintro ⟨before, b, after, heq, hreach⟩
      cases before with
      | nil =>
        obtain ⟨rfl, rfl⟩ := List.cons.inj heq
        exact .inl hreach
      | cons c before =>
        obtain ⟨rfl, rfl⟩ := List.cons.inj heq
        exact .inr ⟨before, b, after, rfl, hreach⟩

end Runs

end TrxSimulator.Foundations.Sweeps
