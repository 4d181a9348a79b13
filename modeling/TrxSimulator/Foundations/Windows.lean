import Mathlib.Algebra.BigOperators.Group.List.Basic
import Mathlib.Order.Lattice
import Mathlib.Tactic.Abel

/-! Sums over the rows of a closed window of time, and what windows that share an end count twice. -/

namespace TrxSimulator.Foundations.Windows

variable {α T M : Type*}

section Sums

variable [AddCommMonoid M]

def amount (f : α → M) (p : α → Bool) (xs : List α) : M := ((xs.filter p).map f).sum

@[simp] lemma amount_nil (f : α → M) (p : α → Bool) : amount f p [] = 0 := rfl

@[simp] lemma amount_cons (f : α → M) (p : α → Bool) (x : α) (xs : List α) :
    amount f p (x :: xs) = (if p x then f x else 0) + amount f p xs := by
  cases h : p x <;> simp [amount, h]

@[simp] lemma amount_append (f : α → M) (p : α → Bool) (xs ys : List α) :
    amount f p (xs ++ ys) = amount f p xs + amount f p ys := by
  simp only [amount, List.filter_append, List.map_append, List.sum_append]

lemma amount_perm (f : α → M) (p : α → Bool) {xs ys : List α} (h : xs.Perm ys) : amount f p xs = amount f p ys :=
  ((h.filter p).map f).sum_eq

lemma amount_eq_zero {f : α → M} {p : α → Bool} {xs : List α} (h : ∀ x ∈ xs, p x = true → f x = 0) :
    amount f p xs = 0 := by
  refine List.sum_eq_zero fun y hy => ?_
  obtain ⟨x, hx, rfl⟩ := List.mem_map.mp hy
  obtain ⟨hmem, hp⟩ := List.mem_filter.mp hx
  exact h x hmem hp

lemma amount_congr {f : α → M} {p q : α → Bool} {xs : List α} (h : ∀ x ∈ xs, p x = q x) :
    amount f p xs = amount f q xs := by
  rw [amount, amount, List.filter_congr h]

lemma amount_add_amount {f : α → M} {p q r s : α → Bool}
    (h : ∀ x, (if p x then f x else 0) + (if q x then f x else 0) = (if r x then f x else 0) + if s x then f x else 0)
    (xs : List α) : amount f p xs + amount f q xs = amount f r xs + amount f s xs := by
  induction xs with
  | nil => rfl
  | cons x xs ih =>
    simp only [amount_cons]
    rw [add_add_add_comm, h, ih, add_add_add_comm]

lemma amount_add_of_disjoint {f : α → M} {p q r : α → Bool} (hr : ∀ x, r x = (p x || q x))
    (hpq : ∀ x, p x = true → q x = false) (xs : List α) : amount f p xs + amount f q xs = amount f r xs := by
  have hadd := amount_add_amount (f := f) (p := p) (q := q) (r := r) (s := fun _ => false) (fun x => ?_) xs
  · simpa [amount] using hadd
  · cases hp : p x
    · simp [hr, hp]
    · simp [hr, hp, hpq x hp]

lemma sum_amount_keys {κ : Type*} [DecidableEq κ] (f : α → M) (p : α → Bool) (key : α → Option κ) {keys : List κ}
    (hkeys : keys.Nodup) (xs : List α) :
    (keys.map fun k => amount f (fun x => p x && key x = some k) xs).sum =
      amount f (fun x => p x && (key x).any fun k => k ∈ keys) xs := by
  induction keys with
  | nil =>
    have hnone : ∀ x ∈ xs, (p x && (key x).any fun k => k ∈ ([] : List κ)) = false := by
      intro x _
      cases key x <;> simp
    rw [amount_congr hnone]
    simp [amount]
  | cons k keys ih =>
    obtain ⟨hk, hrest⟩ := List.nodup_cons.mp hkeys
    rw [List.map_cons, List.sum_cons, ih hrest]
    apply amount_add_of_disjoint
    · intro x
      cases hkey : key x with
      | none => simp
      | some k' => cases hp : p x <;> simp
    · intro x hx
      rw [Bool.and_eq_true, decide_eq_true_eq] at hx
      simp [hx.2, hk]

end Sums

lemma sum_map_sub [AddCommGroup M] (f g : α → M) (xs : List α) :
    (xs.map fun x => f x - g x).sum = (xs.map f).sum - (xs.map g).sum := by
  induction xs with
  | nil => simp
  | cons x xs ih =>
    simp only [List.map_cons, List.sum_cons]
    rw [ih, add_sub_add_comm]

section Consecutive

variable [LinearOrder T]

/-- The filter of a query by bounds that may be missing; a missing time meets none. -/
def within (start stop : Option T) (t : Option T) : Bool :=
  (start.all fun a => t.any fun t => a ≤ t) && stop.all fun b => t.any fun t => t ≤ b

def consecutive : List T → List (T × T)
  | a :: b :: ts => (a, b) :: consecutive (b :: ts)
  | _ => []

/-- What two windows with a common end count together, their union counts with the common end once more. -/
def Overlapping [AddCommMonoid M] (q : T → T → M) : Prop :=
  ∀ a b c, a ≤ b → b ≤ c → q a b + q b c = q a c + q b b

lemma Overlapping.add [AddCommMonoid M] {q q' : T → T → M} (h : Overlapping q) (h' : Overlapping q') :
    Overlapping fun a b => q a b + q' a b := by
  intro a b c hab hbc
  rw [add_add_add_comm, h a b c hab hbc, h' a b c hab hbc, add_add_add_comm]

lemma Overlapping.sub [AddCommGroup M] {q q' : T → T → M} (h : Overlapping q) (h' : Overlapping q') :
    Overlapping fun a b => q a b - q' a b := by
  intro a b c hab hbc
  rw [sub_add_sub_comm, h a b c hab hbc, h' a b c hab hbc, sub_add_sub_comm]

lemma overlapping_amount [AddCommMonoid M] (f : α → M) (p : α → Bool) (time : α → Option T) (xs : List α) :
    Overlapping fun a b => amount f (fun x => p x && within (some a) (some b) (time x)) xs := by
  intro a b c hab hbc
  apply amount_add_amount
  intro x
  cases hp : p x with
  | false => simp
  | true =>
    cases time x with
    | none => simp [within]
    | some t =>
      obtain hlt | rfl | hgt := lt_trichotomy t b
      · have hle : t ≤ c := hlt.le.trans hbc
        simp [within, hlt.le, hle, not_le.mpr hlt]
      · simp [within, hab, hbc]
      · have hle : a ≤ t := hab.trans hgt.le
        simp [within, hgt.le, hle, not_le.mpr hgt]

/-- Consecutive windows count what lies on their inner ends once more than the window that they split. -/
lemma sum_consecutive [AddCommMonoid M] {q : T → T → M} (hq : Overlapping q) {first last : T} {inner : List T}
    (hsorted : (first :: (inner ++ [last])).Pairwise (· ≤ ·)) :
    ((consecutive (first :: (inner ++ [last]))).map fun w => q w.1 w.2).sum =
      q first last + (inner.map fun t => q t t).sum := by
  induction inner generalizing first with
  | nil => simp [consecutive]
  | cons t inner ih =>
    obtain ⟨hfirst, hrest⟩ := List.pairwise_cons.mp hsorted
    have hlast : t ≤ last := (List.pairwise_cons.mp hrest).1 last (by simp)
    have hoverlap := hq first t last (hfirst t (by simp)) hlast
    have htail := ih hrest
    rw [List.cons_append, consecutive, List.map_cons, List.sum_cons, htail, List.map_cons, List.sum_cons, ← add_assoc,
      hoverlap, add_assoc]

lemma amount_point [AddCommMonoid M] (f : α → M) (p : α → Bool) (time : α → Option T) (xs : List α) (t : T) :
    amount f (fun x => p x && within (some t) (some t) (time x)) xs =
      amount f (fun x => p x && time x = some t) xs := by
  apply amount_congr
  intro x _
  cases hx : time x with
  | none => simp [within]
  | some u =>
    have hiff : t ≤ u ∧ u ≤ t ↔ u = t := by rw [and_comm, le_antisymm_iff]
    simp [within, ← Bool.decide_and, hiff]

end Consecutive

end TrxSimulator.Foundations.Windows
