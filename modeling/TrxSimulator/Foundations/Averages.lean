import Mathlib.Algebra.Order.Field.Basic
import Mathlib.Algebra.BigOperators.Group.List.Basic
import Mathlib.Tactic.FieldSimp
import Mathlib.Tactic.Linarith
import Mathlib.Tactic.Ring

/-! A weighted average that is rounded whenever an entry joins it, and the gain made on it when its weight is taken
out again, against the gain made on the entries one by one. -/

namespace TrxSimulator.Foundations.Averages

variable {K : Type*}

structure Entry (K : Type*) where
  weight : K
  value : K

structure Exit (K : Type*) where
  amount : K
  price : K

section Sums

variable [Field K]

def weight (es : List (Entry K)) : K := (es.map Entry.weight).sum

def worth (es : List (Entry K)) : K := (es.map fun x => x.weight * x.value).sum

def amount (xs : List (Exit K)) : K := (xs.map Exit.amount).sum

/-- Of exits from a single value, at so much for each unit of the difference. -/
def gain (d a : K) (xs : List (Exit K)) : K := (xs.map fun x => d * (x.price - a) * x.amount).sum

/-- Of exits that take from every entry in proportion to its weight. -/
def sharedGain (d : K) (es : List (Entry K)) (xs : List (Exit K)) : K :=
  (xs.map fun x => (es.map fun y => d * (x.price - y.value) * (y.weight * x.amount / weight es)).sum).sum

lemma sum_shares (d price c : K) (es : List (Entry K)) :
    (es.map fun y => d * (price - y.value) * (y.weight * c)).sum = d * c * (price * weight es - worth es) := by
  induction es with
  | nil => simp [weight, worth]
  | cons y es ih =>
    simp only [weight, worth, List.map_cons, List.sum_cons] at ih ⊢
    rw [ih]
    ring

lemma gain_sub_sharedGain (d a : K) {es : List (Entry K)} (hes : weight es ≠ 0) (xs : List (Exit K)) :
    gain d a xs - sharedGain d es xs = d * (worth es / weight es - a) * amount xs := by
  induction xs with
  | nil => simp [gain, sharedGain, amount]
  | cons x xs ih =>
    have hshare := sum_shares d x.price (x.amount / weight es) es
    simp only [gain, sharedGain, amount, List.map_cons, List.sum_cons, mul_div_assoc] at ih ⊢
    rw [hshare, add_sub_add_comm, ih]
    field_simp
    ring

/-- Once the whole weight is out, the two gains differ by the error of the average alone. -/
theorem gain_sub_sharedGain_whole (d a : K) {es : List (Entry K)} (hes : weight es ≠ 0) {xs : List (Exit K)}
    (hxs : amount xs = weight es) : gain d a xs - sharedGain d es xs = d * (worth es - a * weight es) := by
  rw [gain_sub_sharedGain d a hes, hxs]
  field_simp

end Sums

section Rounding

variable [Field K] [LinearOrder K] [IsStrictOrderedRing K] {h e g a : K} {es : List (Entry K)}

/-- Each average misses the exact one by so much for every unit of weight, and by so much beside. -/
inductive Averaged (h e : K) : List (Entry K) → K → Prop
  | first (x : Entry K) : Averaged h e [x] x.value
  | next {es : List (Entry K)} {a a' : K} {x : Entry K} (ha : Averaged h e es a)
      (herror : |a' * weight (es ++ [x]) - (a * weight es + x.weight * x.value)| ≤ h * weight (es ++ [x]) + e) :
      Averaged h e (es ++ [x]) a'

/-- An entry that joins late finds less of the weight that the earlier errors are counted for. -/
theorem averaged_error (hh : 0 ≤ h) (ha : Averaged h e es a) (hg : ∀ x ∈ es, g ≤ x.weight) :
    |a * weight es - worth es| ≤
      h * ((es.length - 1) * weight es - g * ((es.length - 1) * (es.length - 2) / 2)) + (es.length - 1) * e := by
  induction ha with
  | first x => simp [weight, worth, mul_comm]
  | @next es a a' x ha herror ih =>
    have hbefore := ih fun y hy => hg y (List.mem_append_left _ hy)
    have hlast : g ≤ x.weight := hg x (List.mem_append_right _ (List.mem_singleton_self x))
    have hlength : (1 : K) ≤ es.length := by
      cases ha with
      | first y => simp
      | next _ _ => simp
    have hweight : weight (es ++ [x]) = weight es + x.weight := by simp [weight]
    have hworth : worth (es ++ [x]) = worth es + x.weight * x.value := by simp [worth]
    have hgrow : 0 ≤ h * ((es.length - 1) * (x.weight - g)) :=
      mul_nonneg hh (mul_nonneg (sub_nonneg.mpr hlength) (sub_nonneg.mpr hlast))
    have hsplit : a' * weight (es ++ [x]) - worth (es ++ [x]) =
        (a' * weight (es ++ [x]) - (a * weight es + x.weight * x.value)) + (a * weight es - worth es) := by
      rw [hworth]
      ring
    calc |a' * weight (es ++ [x]) - worth (es ++ [x])|
        ≤ |a' * weight (es ++ [x]) - (a * weight es + x.weight * x.value)| + |a * weight es - worth es| := by
          rw [hsplit]
          exact abs_add_le _ _
      _ ≤ h * weight (es ++ [x]) + e + (h * ((es.length - 1) * weight es -
            g * ((es.length - 1) * (es.length - 2) / 2)) + (es.length - 1) * e) := add_le_add herror hbefore
      _ ≤ _ := by
          rw [hweight, List.length_append, List.length_singleton]
          push_cast
          linarith

lemma abs_sum_map_sub_le {α : Type*} (xs : List α) (f f' b : α → K) (hb : ∀ x ∈ xs, |f x - f' x| ≤ b x) :
    |(xs.map f).sum - (xs.map f').sum| ≤ (xs.map b).sum := by
  induction xs with
  | nil => simp
  | cons x xs ih =>
    have hhead := hb x List.mem_cons_self
    have htail := ih fun y hy => hb y (List.mem_cons_of_mem _ hy)
    simp only [List.map_cons, List.sum_cons]
    rw [add_sub_add_comm]
    exact (abs_add_le _ _).trans (add_le_add hhead htail)

end Rounding

end TrxSimulator.Foundations.Averages
