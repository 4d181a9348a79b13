import Mathlib.Data.Nat.Basic

/-! Shift registers: a register takes in one word after another, and its step is linear in exclusive or. -/

namespace TrxSimulator.Foundations.Registers

variable (step : ℕ → ℕ → ℕ)

def feed (c : ℕ) (words : List ℕ) : ℕ := words.foldl step c

def Linear : Prop := ∀ c d v w, step (c ^^^ d) (v ^^^ w) = step c v ^^^ step d w

/-- What is left of a difference in the register after some more words. -/
def drift : ℕ → ℕ → ℕ
  | 0, c => c
  | k + 1, c => drift k (step c 0)

@[simp] lemma feed_nil (c : ℕ) : feed step c [] = c := rfl

@[simp] lemma feed_cons (c w : ℕ) (words : List ℕ) : feed step c (w :: words) = feed step (step c w) words := rfl

lemma feed_append (c : ℕ) (words rest : List ℕ) : feed step c (words ++ rest) = feed step (feed step c words) rest := by
  simp [feed]

variable {step}

lemma feed_xor (h : Linear step) (c d : ℕ) (words : List ℕ) :
    feed step (c ^^^ d) words = drift step words.length c ^^^ feed step d words := by
  induction words generalizing c d with
  | nil => rfl
  | cons w words ih =>
    have hstep : step (c ^^^ d) w = step c 0 ^^^ step d w := by simpa using h c d 0 w
    simp only [feed_cons, hstep, ih, List.length_cons, drift]

/-- Replacing one word by another changes the register by a drift that depends on their difference and on how many
words follow, and on nothing else. -/
theorem feed_replace (h : Linear step) (c v w : ℕ) (before after : List ℕ) :
    feed step c (before ++ v :: after) =
      drift step after.length (step 0 (v ^^^ w)) ^^^ feed step c (before ++ w :: after) := by
  have hword : v ^^^ w ^^^ w = v := by rw [Nat.xor_assoc, Nat.xor_self, Nat.xor_zero]
  have hstep : step (feed step c before) v = step 0 (v ^^^ w) ^^^ step (feed step c before) w := by
    have hlin := h 0 (feed step c before) (v ^^^ w) w
    simpa only [Nat.zero_xor, hword] using hlin
  simp only [feed_append, feed_cons, hstep]
  exact feed_xor h _ _ after

lemma feed_lt {bound : ℕ} {ok : ℕ → Prop} (hstep : ∀ c w, ok w → step c w < bound) {c : ℕ} (hc : c < bound)
    {words : List ℕ} (hok : ∀ w ∈ words, ok w) : feed step c words < bound := by
  induction words generalizing c with
  | nil => exact hc
  | cons w words ih =>
    apply ih (hstep c w (hok w List.mem_cons_self))
    exact fun v hv => hok v (List.mem_cons_of_mem w hv)

end TrxSimulator.Foundations.Registers
