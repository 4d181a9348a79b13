import Mathlib.Algebra.Group.Defs
import Mathlib.Order.Basic

/-! Tallies of the day: a sum that starts again with the first amount of a new day. -/

namespace TrxSimulator.Foundations.Tallies

variable {δ M : Type*}

structure Tally (δ M : Type*) where
  value : M
  day : Option δ
deriving DecidableEq

namespace Tally

variable [DecidableEq δ] [AddCommMonoid M]

def track (t : Tally δ M) (today : δ) (x : M) : Tally δ M where
  value := (if t.day = some today then t.value else 0) + x
  day := some today

def reads (t : Tally δ M) (d : δ) : M := if t.day = some d then t.value else 0

lemma reads_other {t : Tally δ M} {d : δ} (h : t.day ≠ some d) : t.reads d = 0 := if_neg h

lemma reads_track_self (t : Tally δ M) (today : δ) (x : M) : (t.track today x).reads today = t.reads today + x :=
  if_pos rfl

lemma reads_track [PartialOrder δ] {t : Tally δ M} {today d : δ} (h : ∀ y ∈ t.day, y ≤ today) (hd : today ≤ d) (x : M) :
    (t.track today x).reads d = t.reads d + if d = today then x else 0 := by
  by_cases heq : d = today
  · subst heq
    rw [reads_track_self, if_pos rfl]
  · have hlater : t.day ≠ some d := fun hday => heq ((h d hday).antisymm hd)
    have hnew : (t.track today x).day ≠ some d := fun hday => heq (Option.some.inj hday).symm
    rw [reads_other hnew, reads_other hlater, if_neg heq, add_zero]

end Tally

end TrxSimulator.Foundations.Tallies
