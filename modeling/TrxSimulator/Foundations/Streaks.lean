import Mathlib.Data.List.Induction
import Mathlib.Data.Nat.Notation

/-! The maximal runs of equal items in a list, the latest of them first. -/

namespace TrxSimulator.Foundations.Streaks

variable {α : Type*} [DecidableEq α]

def extend : List (α × ℕ) → α → List (α × ℕ)
  | [], x => [(x, 1)]
  | r :: older, x => if x = r.1 then (r.1, r.2 + 1) :: older else (x, 1) :: r :: older

def streaks (items : List α) : List (α × ℕ) := items.foldl extend []

@[simp] lemma streaks_nil : streaks ([] : List α) = [] := rfl

@[simp] lemma streaks_concat (items : List α) (x : α) : streaks (items ++ [x]) = extend (streaks items) x := by
  simp [streaks]

def unfoldStreaks (runs : List (α × ℕ)) : List α := runs.reverse.flatMap fun r => List.replicate r.2 r.1

lemma unfold_extend (runs : List (α × ℕ)) (x : α) : unfoldStreaks (extend runs x) = unfoldStreaks runs ++ [x] := by
  cases runs with
  | nil => rfl
  | cons r older =>
    by_cases hx : x = r.1
    · simp [extend, unfoldStreaks, hx, List.replicate_succ']
    · simp [extend, unfoldStreaks, hx]

structure MaximalRuns (items : List α) (runs : List (α × ℕ)) : Prop where
  unfolds : unfoldStreaks runs = items
  nonempty : ∀ r ∈ runs, 0 < r.2
  distinct : runs.IsChain fun later earlier => later.1 ≠ earlier.1

lemma maximalRuns_extend {items : List α} {runs : List (α × ℕ)} (h : MaximalRuns items runs) (x : α) :
    MaximalRuns (items ++ [x]) (extend runs x) := by
  obtain ⟨hunfolds, hpos, hchain⟩ := h
  have hunfold : unfoldStreaks (extend runs x) = items ++ [x] := by rw [unfold_extend, hunfolds]
  cases runs with
  | nil => exact ⟨hunfold, by simp [extend], by simp [extend]⟩
  | cons r older =>
    have holder : ∀ r' ∈ older, 0 < r'.2 := fun r' hr' => hpos r' (List.mem_cons_of_mem _ hr')
    by_cases hx : x = r.1
    · rw [extend, if_pos hx] at hunfold ⊢
      refine ⟨hunfold, List.forall_mem_cons.mpr ⟨Nat.succ_pos _, holder⟩, ?_⟩
      cases older with
      | nil => simp
      | cons r' older => simpa using hchain
    · rw [extend, if_neg hx] at hunfold ⊢
      exact ⟨hunfold, List.forall_mem_cons.mpr ⟨Nat.one_pos, hpos⟩, List.isChain_cons_cons.mpr ⟨hx, hchain⟩⟩

lemma maximalRuns_streaks (items : List α) : MaximalRuns items (streaks items) := by
  induction items using List.reverseRecOn with
  | nil => exact ⟨rfl, by simp, by simp⟩
  | append_singleton items x ih =>
    rw [streaks_concat]
    exact maximalRuns_extend ih x

def currentLength (runs : List (α × ℕ)) : ℕ := runs.head?.elim 0 Prod.snd

def currentItem (runs : List (α × ℕ)) : Option α := runs.head?.map Prod.fst

/-- The item of the latest run that has come to a length. -/
def latest (reached : ℕ → Bool) (runs : List (α × ℕ)) : Option α := (runs.find? fun r => reached r.2).map Prod.fst

lemma currentItem_extend (runs : List (α × ℕ)) (x : α) : currentItem (extend runs x) = some x := by
  cases runs with
  | nil => rfl
  | cons r older => by_cases hx : x = r.1 <;> simp [extend, currentItem, hx]

lemma currentLength_extend (runs : List (α × ℕ)) (x : α) : currentLength (extend runs x) =
    if currentItem runs = some x then currentLength runs + 1 else 1 := by
  cases runs with
  | nil => simp [extend, currentLength, currentItem]
  | cons r older =>
    by_cases hx : x = r.1
    · simp [extend, currentLength, currentItem, hx]
    · simp [extend, currentLength, currentItem, hx, Ne.symm hx]

lemma latest_extend {reached : ℕ → Bool} (hmono : ∀ n, reached n = true → reached (n + 1) = true)
    (runs : List (α × ℕ)) (x : α) : latest reached (extend runs x) =
      if reached (currentLength (extend runs x)) = true then some x else latest reached runs := by
  cases runs with
  | nil => by_cases h : reached 1 = true <;> simp [extend, latest, currentLength, h]
  | cons r older =>
    by_cases hx : x = r.1
    · by_cases hnext : reached (r.2 + 1) = true
      · simp [extend, latest, currentLength, hx, hnext]
      · have hnow : ¬ reached r.2 = true := fun h => hnext (hmono _ h)
        simp [extend, latest, currentLength, hx, hnext, hnow]
    · by_cases hone : reached 1 = true <;> simp [extend, latest, currentLength, hx, hone]

end TrxSimulator.Foundations.Streaks
