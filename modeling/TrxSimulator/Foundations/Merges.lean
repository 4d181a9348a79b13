import Mathlib.Data.Finset.Card
import Mathlib.Data.List.Sort
import Mathlib.Order.Interval.Finset.Nat

/-! Rows that arrive newest first and more than once: the first row of every key, the newest of them, in ascending
order. -/

namespace TrxSimulator.Foundations.Merges

variable {α : Type*} {T : Type*} [LinearOrder T] (key : α → T)

def keys (xs : List α) : Finset T := (xs.map key).toFinset

/-- The rows whose key has not been seen, the first of each key. -/
def distinct (seen : Finset T) : List α → List α
  | [] => []
  | x :: xs => if key x ∈ seen then distinct seen xs else x :: distinct (insert (key x) seen) xs

def latest (limit : ℕ) (xs : List α) : List α :=
  ((distinct key ∅ xs).take limit).insertionSort fun a b => key a ≤ key b

/-- Every row has a key that has been seen before it, or one below all of these. -/
def Descending (seen : Finset T) : List α → Prop
  | [] => True
  | x :: xs => (key x ∈ seen ∨ ∀ t ∈ seen, key x < t) ∧ Descending (insert (key x) seen) xs

instance (seen : Finset T) (xs : List α) : Decidable (Descending key seen xs) :=
  match xs with
  | [] => .isTrue trivial
  | x :: xs =>
    have := instDecidableDescending (insert (key x) seen) xs
    inferInstanceAs (Decidable ((key x ∈ seen ∨ ∀ t ∈ seen, key x < t) ∧ Descending key (insert (key x) seen) xs))

/-- The greatest `limit` of the keys that have been found, all of them if they are fewer, each with the first row found
under it, in ascending order. -/
structure Newest (limit : ℕ) (found history : List α) : Prop where
  ascending : history.Pairwise fun a b => key a < key b
  first : ∀ a ∈ history, ∃ before after, found = before ++ a :: after ∧ key a ∉ keys key before
  size : history.length = min limit (keys key found).card
  newest : ∀ t ∈ keys key found, t ∉ keys key history → ∀ a ∈ history, t < key a

/-- These rows hold as many keys as are asked for, or every key that is found. -/
def Enough (limit : ℕ) (xs found : List α) : Prop :=
  limit ≤ (keys key xs).card ∨ keys key found ⊆ keys key xs

variable {key} {seen : Finset T} {limit : ℕ} {xs ys found : List α} {a : α}

@[simp] lemma keys_nil : keys key [] = ∅ := rfl

@[simp] lemma keys_cons (x : α) (xs : List α) : keys key (x :: xs) = insert (key x) (keys key xs) := by
  simp [keys]

@[simp] lemma keys_append (xs ys : List α) : keys key (xs ++ ys) = keys key xs ∪ keys key ys := by
  simp [keys]

lemma mem_keys {t : T} : t ∈ keys key xs ↔ ∃ a ∈ xs, key a = t := by
  simp [keys]

lemma keys_perm (h : xs.Perm ys) : keys key xs = keys key ys :=
  List.toFinset_eq_of_perm _ _ (h.map key)

/-! The first row of each key. -/

lemma distinct_append (seen : Finset T) (xs ys : List α) :
    distinct key seen (xs ++ ys) = distinct key seen xs ++ distinct key (seen ∪ keys key xs) ys := by
  induction xs generalizing seen with
  | nil => simp [distinct]
  | cons x xs ih =>
    by_cases hx : key x ∈ seen
    · have hseen : seen ∪ insert (key x) (keys key xs) = seen ∪ keys key xs := by
        rw [Finset.union_insert]
        exact Finset.insert_eq_of_mem (Finset.mem_union_left _ hx)
      simp [distinct, hx, ih, hseen]
    · simp [distinct, hx, ih, Finset.insert_union, Finset.union_insert]

lemma first_of_distinct (h : a ∈ distinct key seen xs) :
    ∃ before after, xs = before ++ a :: after ∧ key a ∉ seen ∧ key a ∉ keys key before := by
  induction xs generalizing seen with
  | nil => simp [distinct] at h
  | cons x xs ih =>
    by_cases hx : key x ∈ seen
    · obtain ⟨before, after, rfl, hseen, hbefore⟩ := ih (by simpa [distinct, hx] using h)
      refine ⟨x :: before, after, rfl, hseen, ?_⟩
      have hne : key a ≠ key x := fun he => hseen (he ▸ hx)
      simp [hne, hbefore]
    · rcases List.mem_cons.mp (by simpa [distinct, hx] using h : a ∈ x :: distinct key (insert (key x) seen) xs) with
        rfl | ha
      · exact ⟨[], xs, rfl, hx, by simp⟩
      · obtain ⟨before, after, rfl, hseen, hbefore⟩ := ih ha
        simp only [Finset.mem_insert, not_or] at hseen
        exact ⟨x :: before, after, rfl, hseen.2, by simp [hseen.1, hbefore]⟩

lemma distinct_unseen (h : a ∈ distinct key seen xs) : key a ∉ seen := by
  obtain ⟨-, -, -, hseen, -⟩ := first_of_distinct h
  exact hseen

lemma distinct_ne (seen : Finset T) (xs : List α) : (distinct key seen xs).Pairwise fun a b => key a ≠ key b := by
  induction xs generalizing seen with
  | nil => simp [distinct]
  | cons x xs ih =>
    by_cases hx : key x ∈ seen
    · simpa [distinct, hx] using ih seen
    · simp only [distinct, hx, if_false, List.pairwise_cons]
      refine ⟨fun b hb he => ?_, ih _⟩
      exact distinct_unseen hb (he ▸ Finset.mem_insert_self (key x) seen)

lemma keys_distinct (seen : Finset T) (xs : List α) : keys key (distinct key seen xs) = keys key xs \ seen := by
  induction xs generalizing seen with
  | nil => simp [distinct]
  | cons x xs ih =>
    by_cases hx : key x ∈ seen
    · simp [distinct, hx, ih, Finset.insert_sdiff_of_mem]
    · simp only [distinct, hx, if_false, keys_cons, ih, Finset.insert_sdiff_of_notMem _ hx]
      ext t
      by_cases ht : t = key x <;> simp [ht]

lemma length_distinct (xs : List α) : (distinct key ∅ xs).length = (keys key xs).card := by
  have hkeys : keys key (distinct key ∅ xs) = keys key xs := by simp [keys_distinct]
  have hnodup : ((distinct key ∅ xs).map key).Nodup := List.pairwise_map.mpr (distinct_ne ∅ xs)
  rw [← hkeys, keys, List.toFinset_card_of_nodup hnodup, List.length_map]

lemma distinct_below (h : Descending key seen xs) (hseen : seen.Nonempty) :
    ∀ a ∈ distinct key seen xs, ∀ t ∈ seen, key a < t := by
  induction xs generalizing seen with
  | nil => simp [distinct]
  | cons x xs ih =>
    intro a ha t ht
    by_cases hx : key x ∈ seen
    · have hrest : Descending key seen xs := by simpa [hx] using h.2
      exact ih hrest hseen a (by simpa [distinct, hx] using ha) t ht
    · rcases List.mem_cons.mp (by simpa [distinct, hx] using ha : a ∈ x :: distinct key (insert (key x) seen) xs) with
        rfl | ha
      · exact (h.1.resolve_left hx) t ht
      · exact ih h.2 (Finset.insert_nonempty _ _) a ha t (Finset.mem_insert_of_mem ht)

lemma distinct_descending (h : Descending key seen xs) :
    (distinct key seen xs).Pairwise fun a b => key b < key a := by
  induction xs generalizing seen with
  | nil => simp [distinct]
  | cons x xs ih =>
    by_cases hx : key x ∈ seen
    · have hrest : Descending key seen xs := by simpa [hx] using h.2
      simpa [distinct, hx] using ih hrest
    · simp only [distinct, hx, if_false, List.pairwise_cons]
      refine ⟨fun b hb => ?_, ih h.2⟩
      exact distinct_below h.2 (Finset.insert_nonempty _ _) b hb (key x) (Finset.mem_insert_self _ _)

/-! The newest of them. -/

lemma latest_perm (limit : ℕ) (xs : List α) : (latest key limit xs).Perm ((distinct key ∅ xs).take limit) :=
  List.perm_insertionSort _ _

lemma latest_ascending (limit : ℕ) (xs : List α) : (latest key limit xs).Pairwise fun a b => key a < key b := by
  have hle : (latest key limit xs).Pairwise fun a b => key a ≤ key b := List.pairwise_insertionSort _ _
  have hne : (latest key limit xs).Pairwise fun a b => key a ≠ key b :=
    ((distinct_ne ∅ xs).sublist (List.take_sublist _ _)).perm (latest_perm limit xs).symm fun h => h.symm
  exact (hle.and hne).imp fun h => lt_of_le_of_ne h.1 h.2

lemma length_latest (limit : ℕ) (xs : List α) : (latest key limit xs).length = min limit (keys key xs).card := by
  rw [(latest_perm limit xs).length_eq, List.length_take, length_distinct]

lemma latest_newest (h : Descending key ∅ found) (limit : ℕ) : Newest key limit found (latest key limit found) where
  ascending := latest_ascending limit found
  first a ha := by
    obtain ⟨before, after, hsplit, -, hbefore⟩ :=
      first_of_distinct (List.mem_of_mem_take ((latest_perm limit found).subset ha))
    exact ⟨before, after, hsplit, hbefore⟩
  size := length_latest limit found
  newest t ht hleft a ha := by
    have hkeys : t ∈ keys key (distinct key ∅ found) := by simpa [keys_distinct] using ht
    rw [← List.take_append_drop limit (distinct key ∅ found), keys_append, Finset.mem_union,
      ← keys_perm (latest_perm limit found)] at hkeys
    obtain ⟨b, hb, rfl⟩ := mem_keys.mp (hkeys.resolve_left hleft)
    have hpair := distinct_descending h
    rw [← List.take_append_drop limit (distinct key ∅ found), List.pairwise_append] at hpair
    exact hpair.2.2 a ((latest_perm limit found).subset ha) b hb

/-- What has been read is a part from the front of what is to be found. -/
lemma newest_latest_iff (h : Descending key ∅ found) (hfront : xs <+: found) :
    Newest key limit found (latest key limit xs) ↔ Enough key limit xs found := by
  obtain ⟨ys, rfl⟩ := hfront
  have hcard : (keys key xs).card ≤ (keys key (xs ++ ys)).card := Finset.card_le_card (by simp)
  constructor
  · intro hnewest
    have hsize := hnewest.size
    rw [length_latest] at hsize
    by_cases hlimit : limit ≤ (keys key xs).card
    · exact .inl hlimit
    · right
      have hsame : keys key xs = keys key (xs ++ ys) := Finset.eq_of_subset_of_card_le (by simp) (by omega)
      exact hsame.symm.subset
  · intro henough
    have htake : (distinct key ∅ (xs ++ ys)).take limit = (distinct key ∅ xs).take limit := by
      rw [distinct_append]
      rcases henough with hlimit | hall
      · rw [← length_distinct] at hlimit
        exact List.take_append_of_le_length hlimit
      · have hnone : distinct key (∅ ∪ keys key xs) ys = [] := by
          apply List.eq_nil_iff_forall_not_mem.mpr
          intro b hb
          apply distinct_unseen hb
          obtain ⟨before, after, rfl, -⟩ := first_of_distinct hb
          simpa using hall (by simp : key b ∈ keys key (xs ++ (before ++ b :: after)))
        rw [hnone, List.append_nil]
    have hlatest : latest key limit xs = latest key limit (xs ++ ys) := by rw [latest, latest, htake]
    exact hlatest ▸ latest_newest h limit

lemma Enough.mono (h : Enough key limit xs found) (hsub : xs <+: ys) : Enough key limit ys found := by
  have hkeys : keys key xs ⊆ keys key ys := by
    obtain ⟨zs, rfl⟩ := hsub
    simp
  rcases h with h | h
  · exact .inl (h.trans (Finset.card_le_card hkeys))
  · exact .inr (h.trans hkeys)

end TrxSimulator.Foundations.Merges
