import Mathlib.Algebra.BigOperators.Group.Finset.Basic
import Mathlib.Algebra.Order.BigOperators.Group.Finset

/-! Tables with serial primary keys: an insertion takes the next key, an update replaces the row at a
key and leaves every other row alone, and no row is ever deleted. -/

namespace TrxSimulator.Foundations.Tables

structure Table (α : Type*) where
  next : ℕ
  get : ℕ → Option α
  bound : ∀ i, next ≤ i → get i = none

namespace Table

variable {α : Type*} {M : Type*}

def empty : Table α where
  next := 0
  get _ := none
  bound _ _ := rfl

instance : Inhabited (Table α) := ⟨empty⟩

def insert (t : Table α) (a : α) : Table α where
  next := t.next + 1
  get i := if i = t.next then some a else t.get i
  bound i h := by
    rw [if_neg (by omega)]
    exact t.bound i (by omega)

def update (t : Table α) (i : ℕ) (f : α → α) : Table α where
  next := t.next
  get j := if j = i then (t.get j).map f else t.get j
  bound j h := by simp [t.bound j h]

def updateWhere (t : Table α) (p : α → Bool) (f : α → α) : Table α where
  next := t.next
  get i := (t.get i).map fun a => if p a then f a else a
  bound i h := by rw [t.bound i h, Option.map_none]

def ofList (as : List α) : Table α where
  next := as.length
  get i := as[i]?
  bound i h := by simp [h]

def rows (t : Table α) : List (ℕ × α) :=
  (List.range t.next).filterMap fun i => (t.get i).map (i, ·)

def latest (t : Table α) (p : α → Bool) : Option (ℕ × α) :=
  (t.rows.filter fun r => p r.2).getLast?

def first (t : Table α) (p : α → Bool) : Option (ℕ × α) := t.rows.find? fun r => p r.2

def exists? (t : Table α) (p : α → Bool) : Bool := t.rows.any fun r => p r.2

def count (t : Table α) (p : α → Bool) : ℕ := t.rows.countP fun r => p r.2

@[simp] lemma next_empty : (empty : Table α).next = 0 := rfl
@[simp] lemma get_empty (i : ℕ) : (empty : Table α).get i = none := rfl
@[simp] lemma next_insert (t : Table α) (a : α) : (t.insert a).next = t.next + 1 := rfl
@[simp] lemma next_update (t : Table α) (i : ℕ) (f : α → α) : (t.update i f).next = t.next := rfl

lemma get_insert (t : Table α) (a : α) (i : ℕ) :
    (t.insert a).get i = if i = t.next then some a else t.get i := rfl

lemma get_update (t : Table α) (i j : ℕ) (f : α → α) :
    (t.update i f).get j = if j = i then (t.get j).map f else t.get j := rfl

lemma get_updateWhere (t : Table α) (p : α → Bool) (f : α → α) (i : ℕ) :
    (t.updateWhere p f).get i = (t.get i).map fun a => if p a then f a else a := rfl

@[simp] lemma get_next (t : Table α) : t.get t.next = none := t.bound t.next le_rfl

@[simp] lemma get_insert_next (t : Table α) (a : α) : (t.insert a).get t.next = some a := by
  rw [get_insert, if_pos rfl]

lemma lt_of_get {t : Table α} {i : ℕ} {a : α} (h : t.get i = some a) : i < t.next := by
  by_contra hlt
  rw [t.bound i (by omega)] at h
  cases h

lemma ne_next_of_get {t : Table α} {i : ℕ} {a : α} (h : t.get i = some a) : i ≠ t.next :=
  (lt_of_get h).ne

lemma get_insert_of_get {t : Table α} {i : ℕ} {a : α} (h : t.get i = some a) (b : α) :
    (t.insert b).get i = some a := by
  rw [get_insert, if_neg (ne_next_of_get h), h]

lemma get_update_self {t : Table α} {i : ℕ} {a : α} (h : t.get i = some a) (f : α → α) :
    (t.update i f).get i = some (f a) := by
  rw [get_update, if_pos rfl, h, Option.map_some]

lemma get_update_ne (t : Table α) {i j : ℕ} (h : j ≠ i) (f : α → α) :
    (t.update i f).get j = t.get j := by
  rw [get_update, if_neg h]

lemma get_update_some {t : Table α} {i j : ℕ} {f : α → α} {b : α}
    (h : (t.update i f).get j = some b) :
    ∃ a, t.get j = some a ∧ b = if j = i then f a else a := by
  rw [get_update] at h
  by_cases hj : j = i
  · rw [if_pos hj, Option.map_eq_some_iff] at h
    obtain ⟨a, ha, rfl⟩ := h
    exact ⟨a, ha, (if_pos hj).symm⟩
  · rw [if_neg hj] at h
    exact ⟨b, h, (if_neg hj).symm⟩

lemma get_insert_some {t : Table α} {i : ℕ} {a b : α} (h : (t.insert a).get i = some b) :
    t.get i = some b ∨ (i = t.next ∧ b = a) := by
  rw [get_insert] at h
  by_cases hi : i = t.next
  · rw [if_pos hi, Option.some.injEq] at h
    exact Or.inr ⟨hi, h.symm⟩
  · rw [if_neg hi] at h
    exact Or.inl h

lemma isSome_update (t : Table α) (i j : ℕ) (f : α → α) :
    ((t.update i f).get j).isSome = (t.get j).isSome := by
  rw [get_update]
  split <;> simp

lemma update_of_get_none {t : Table α} {i : ℕ} (h : t.get i = none) (f : α → α) :
    (t.update i f).get = t.get := by
  funext j
  rw [get_update]
  by_cases hj : j = i
  · rw [if_pos hj, hj, h, Option.map_none]
  · rw [if_neg hj]

lemma update_missing {t : Table α} {i : ℕ} (h : t.get i = none) (f : α → α) : t.update i f = t := by
  have hget := update_of_get_none h f
  cases t
  simp only [update, mk.injEq, true_and]
  exact hget

lemma ext_get {t u : Table α} (hn : t.next = u.next) (h : ∀ i, t.get i = u.get i) : t = u := by
  cases t
  cases u
  simp only [mk.injEq]
  exact ⟨hn, funext h⟩

lemma update_update (t : Table α) (i : ℕ) (f g : α → α) :
    (t.update i f).update i g = t.update i (g ∘ f) := by
  refine ext_get rfl fun j => ?_
  simp only [get_update]
  split <;> simp

lemma update_id (t : Table α) (i : ℕ) : t.update i (fun a => a) = t := by
  refine ext_get rfl fun j => ?_
  simp [get_update]

lemma update_insert_next (t : Table α) (a : α) (f : α → α) :
    (t.insert a).update t.next f = t.insert (f a) := by
  refine ext_get rfl fun j => ?_
  simp only [get_update, get_insert]
  split <;> simp

lemma update_const {t : Table α} {i : ℕ} {a : α} (h : t.get i = some a) (f : α → α) :
    t.update i f = t.update i fun _ => f a := by
  refine ext_get rfl fun j => ?_
  simp only [get_update]
  by_cases hj : j = i
  · rw [if_pos hj, if_pos hj, hj, h, Option.map_some, Option.map_some]
  · rw [if_neg hj, if_neg hj]

lemma update_ite (t : Table α) (i : ℕ) (p : α → Bool) (f : α → α) :
    t.update i (fun a => if p a then f a else a) = if (t.get i).any p then t.update i f else t := by
  cases h : t.get i with
  | none => rw [update_missing h, Option.any_none, if_neg Bool.false_ne_true]
  | some a =>
    rw [Option.any_some, update_const h]
    split
    · exact (update_const h f).symm
    · rw [← update_const h fun a => a, update_id]

lemma mem_rows {t : Table α} {i : ℕ} {a : α} : (i, a) ∈ t.rows ↔ t.get i = some a := by
  simp only [rows, List.mem_filterMap, List.mem_range, Option.map_eq_some_iff, Prod.mk.injEq]
  constructor
  · rintro ⟨j, -, b, hb, rfl, rfl⟩
    exact hb
  · intro h
    exact ⟨i, lt_of_get h, a, h, rfl, rfl⟩

lemma rows_nodup {t : Table α} : t.rows.Nodup := by
  refine List.Nodup.filterMap (fun i j x hi hj => ?_) List.nodup_range
  obtain ⟨a, -, rfl⟩ := Option.map_eq_some_iff.mp hi
  obtain ⟨b, -, heq⟩ := Option.map_eq_some_iff.mp hj
  exact (congrArg Prod.fst heq).symm

lemma latest_some {t : Table α} {p : α → Bool} {i : ℕ} {a : α} (h : t.latest p = some (i, a)) :
    t.get i = some a ∧ p a = true := by
  have hm := List.mem_of_getLast? h
  rw [List.mem_filter] at hm
  exact ⟨mem_rows.mp hm.1, hm.2⟩

lemma latest_none {t : Table α} {p : α → Bool} (h : t.latest p = none) {i : ℕ} {a : α}
    (ha : t.get i = some a) : p a = false := by
  rw [latest, List.getLast?_eq_none_iff, List.filter_eq_nil_iff] at h
  simpa using h (i, a) (mem_rows.mpr ha)

lemma rows_insert (t : Table α) (a : α) : (t.insert a).rows = t.rows ++ [(t.next, a)] := by
  rw [rows, next_insert, List.range_succ, List.filterMap_append]
  congr 1
  · refine List.filterMap_congr fun i hi => ?_
    rw [get_insert, if_neg (List.mem_range.mp hi).ne]
  · simp

def insertAll (t : Table α) (as : List α) : Table α := as.foldl insert t

/-- What `u` has beyond the rows of `t`. -/
def since (t u : Table α) : List α := u.rows.filterMap fun r => if t.next ≤ r.1 then some r.2 else none

lemma insertAll_append (t : Table α) (as : List α) (a : α) : t.insertAll (as ++ [a]) = (t.insertAll as).insert a := by
  simp [insertAll]

lemma next_insertAll (t : Table α) (as : List α) : t.next ≤ (t.insertAll as).next := by
  induction as using List.reverseRecOn with
  | nil => exact le_rfl
  | append_singleton as a ih =>
    rw [insertAll_append, next_insert]
    omega

lemma get_insertAll_of_get {t : Table α} {i : ℕ} {a : α} (h : t.get i = some a) (as : List α) :
    (t.insertAll as).get i = some a := by
  induction as using List.reverseRecOn with
  | nil => exact h
  | append_singleton as b ih =>
    rw [insertAll_append]
    exact get_insert_of_get ih b

lemma get_insertAll_some {t : Table α} {as : List α} {i : ℕ} {a : α} (h : (t.insertAll as).get i = some a) :
    t.get i = some a ∨ t.get i = none ∧ a ∈ as := by
  induction as using List.reverseRecOn with
  | nil => exact Or.inl h
  | append_singleton as b ih =>
    rw [insertAll_append] at h
    obtain hold | ⟨rfl, rfl⟩ := get_insert_some h
    · exact (ih hold).imp_right fun ⟨hnone, hmem⟩ => ⟨hnone, List.mem_append_left _ hmem⟩
    · exact Or.inr ⟨t.bound _ (next_insertAll t as), by simp⟩

lemma since_self (t : Table α) : since t t = [] := by
  rw [since, List.filterMap_eq_nil_iff]
  intro r hr
  have := lt_of_get (mem_rows.mp hr)
  exact if_neg (by omega)

lemma since_insertAll (t : Table α) (as : List α) : since t (t.insertAll as) = as := by
  induction as using List.reverseRecOn with
  | nil => exact since_self t
  | append_singleton as a ih =>
    rw [since, insertAll_append, rows_insert, List.filterMap_append, ← since, ih]
    simp [next_insertAll t as]

lemma ofList_append (as : List α) (a : α) : ofList (as ++ [a]) = (ofList as).insert a := by
  refine ext_get (by simp [ofList]) fun i => ?_
  simp only [ofList, get_insert, List.getElem?_append]
  grind

lemma map_snd_rows (as : List α) : (ofList as).rows.map Prod.snd = as := by
  induction as using List.reverseRecOn with
  | nil => rfl
  | append_singleton as a ih => rw [ofList_append, rows_insert, List.map_append, ih, List.map_singleton]

lemma mem_of_ofList {as : List α} {i : ℕ} {a : α} (h : (ofList as).get i = some a) : a ∈ as :=
  List.mem_of_getElem? h

lemma latest_insert (t : Table α) (a : α) (p : α → Bool) :
    (t.insert a).latest p = if p a then some (t.next, a) else t.latest p := by
  rw [latest, rows_insert, List.filter_append]
  by_cases h : p a <;> simp [h, latest]

lemma first_some {t : Table α} {p : α → Bool} {i : ℕ} {a : α} (h : t.first p = some (i, a)) :
    t.get i = some a ∧ p a = true :=
  ⟨mem_rows.mp (List.mem_of_find?_eq_some h), List.find?_some (p := fun r : ℕ × α => p r.2) h⟩

lemma first_none {t : Table α} {p : α → Bool} (h : t.first p = none) {i : ℕ} {a : α}
    (ha : t.get i = some a) : p a = false := by
  rw [first, List.find?_eq_none] at h
  simpa using h (i, a) (mem_rows.mpr ha)

lemma first_of_unique {t : Table α} {p : α → Bool} {i : ℕ} {a : α} (ha : t.get i = some a)
    (hp : p a = true) (hu : ∀ j b, t.get j = some b → p b = true → j = i) : t.first p = some (i, a) := by
  cases h : t.first p with
  | none => rw [first_none h ha] at hp; cases hp
  | some r =>
    obtain ⟨hb, hpb⟩ := first_some (i := r.1) (a := r.2) h
    have hri := hu r.1 r.2 hb hpb
    rw [hri, ha, Option.some.injEq] at hb
    rw [hb, ← hri]

lemma first_insert (t : Table α) (a : α) (p : α → Bool) :
    (t.insert a).first p = (t.first p).or (if p a then some (t.next, a) else none) := by
  rw [first, rows_insert, List.find?_append]
  by_cases h : p a <;> simp [h, first]

lemma exists?_iff {t : Table α} {p : α → Bool} :
    t.exists? p = true ↔ ∃ i a, t.get i = some a ∧ p a = true := by
  simp only [exists?, List.any_eq_true, Prod.exists, mem_rows]

lemma exists?_of_first {t : Table α} {p : α → Bool} {r : ℕ × α} (h : t.first p = some r) : t.exists? p = true :=
  exists?_iff.mpr ⟨_, _, first_some h⟩

lemma exists?_of_first_none {t : Table α} {p : α → Bool} (h : t.first p = none) : t.exists? p = false := by
  rw [← Bool.not_eq_true, exists?_iff]
  rintro ⟨i, a, ha, hp⟩
  rw [first_none h ha] at hp
  cases hp

lemma exists?_false {t : Table α} {p : α → Bool} (h : t.exists? p = false) {i : ℕ} {a : α}
    (ha : t.get i = some a) : p a = false := by
  by_contra hp
  rw [Bool.not_eq_false] at hp
  rw [exists?_iff.mpr ⟨i, a, ha, hp⟩] at h
  cases h

@[simp] lemma count_empty (p : α → Bool) : (empty : Table α).count p = 0 := rfl

lemma count_insert (t : Table α) (a : α) (p : α → Bool) :
    (t.insert a).count p = t.count p + if p a then 1 else 0 := by
  rw [count, count, rows_insert, List.countP_append, List.countP_singleton]

lemma count_pos_iff {t : Table α} {p : α → Bool} : 0 < t.count p ↔ t.exists? p = true := by
  rw [count, exists?, List.countP_pos_iff, List.any_eq_true]

lemma count_eq_zero_iff {t : Table α} {p : α → Bool} : t.count p = 0 ↔ ∀ i a, t.get i = some a → p a = false := by
  simp only [count, List.countP_eq_zero, Prod.forall, mem_rows, Bool.not_eq_true]

lemma count_pos {t : Table α} {p : α → Bool} {i : ℕ} {a : α} (ha : t.get i = some a) (hp : p a = true) :
    0 < t.count p :=
  count_pos_iff.mpr (exists?_iff.mpr ⟨i, a, ha, hp⟩)

section Related

def Related (R : ℕ → α → α → Prop) (t u : Table α) : Prop := ∀ i, Option.Rel (R i) (t.get i) (u.get i)

variable {R S : ℕ → α → α → Prop} {t u v : Table α} {i : ℕ} {a b : α}

lemma Related.get (h : Related R t u) (ha : t.get i = some a) : ∃ b, u.get i = some b ∧ R i a b := by
  have hi := h i
  rw [ha] at hi
  generalize u.get i = o at hi
  cases hi with
  | some hr => exact ⟨_, rfl, hr⟩

lemma Related.back (h : Related R t u) (hb : u.get i = some b) : ∃ a, t.get i = some a ∧ R i a b := by
  have hi := h i
  rw [hb] at hi
  generalize t.get i = o at hi
  cases hi with
  | some hr => exact ⟨_, rfl, hr⟩

lemma related_of_rows (h : ∀ i a, t.get i = some a → ∃ b, u.get i = some b ∧ R i a b)
    (hnew : ∀ i, t.get i = none → u.get i = none) : Related R t u := by
  intro i
  cases ha : t.get i with
  | none =>
    rw [hnew i ha]
    exact .none
  | some a =>
    obtain ⟨b, hb, hr⟩ := h i a ha
    rw [hb]
    exact .some hr

lemma related_refl (h : ∀ i a, t.get i = some a → R i a a) : Related R t t :=
  related_of_rows (fun i a ha => ⟨a, ha, h i a ha⟩) fun _ => id

lemma related_update {k : ℕ} {f : α → α} (hrest : ∀ i a, i ≠ k → R i a a)
    (h : ∀ a, t.get k = some a → R k a (f a)) : Related R t (t.update k f) := by
  refine related_of_rows (fun i a ha => ?_) fun i hi => ?_
  · by_cases hik : i = k
    · subst hik
      exact ⟨f a, get_update_self ha f, h a ha⟩
    · exact ⟨a, (get_update_ne t hik f).trans ha, hrest i a hik⟩
  · rw [get_update, hi]
    exact ite_self none

lemma related_updateWhere {p : α → Bool} {f : α → α} (h : ∀ i a, R i a (if p a then f a else a)) :
    Related R t (t.updateWhere p f) :=
  related_of_rows (fun i a ha => ⟨_, by rw [get_updateWhere, ha, Option.map_some], h i a⟩)
    fun i hi => by rw [get_updateWhere, hi, Option.map_none]

lemma Related.trans (h : Related R t u) (h' : Related R u v) (hr : ∀ i a b c, R i a b → R i b c → R i a c) :
    Related R t v := by
  refine related_of_rows (fun i a ha => ?_) fun i hi => ?_
  · obtain ⟨b, hb, hab⟩ := h.get ha
    obtain ⟨c, hc, hbc⟩ := h'.get hb
    exact ⟨c, hc, hr i a b c hab hbc⟩
  · cases hv : v.get i with
    | none => rfl
    | some c =>
      obtain ⟨b, hb, -⟩ := h'.back hv
      obtain ⟨a, ha, -⟩ := h.back hb
      rw [hi] at ha
      cases ha

end Related

section Total

variable [AddCommMonoid M]

def total (t : Table α) (f : ℕ → α → M) : M :=
  ∑ i ∈ Finset.range t.next, (t.get i).elim 0 (f i)

@[simp] lemma total_empty (f : ℕ → α → M) : (empty : Table α).total f = 0 := rfl

lemma total_insert (t : Table α) (a : α) (f : ℕ → α → M) :
    (t.insert a).total f = t.total f + f t.next a := by
  rw [total, next_insert, Finset.sum_range_succ, get_insert_next, Option.elim_some, total]
  congr 1
  refine Finset.sum_congr rfl fun i hi => ?_
  rw [get_insert, if_neg (Finset.mem_range.mp hi).ne]

lemma total_ext {t u : Table α} {f g : ℕ → α → M}
    (h : ∀ i, (t.get i).elim 0 (f i) = (u.get i).elim 0 (g i)) : t.total f = u.total g := by
  have hwide : ∀ (v : Table α) (k : ℕ → α → M) (n : ℕ), v.next ≤ n →
      v.total k = ∑ i ∈ Finset.range n, (v.get i).elim 0 (k i) := by
    intro v k n hn
    refine Finset.sum_subset (Finset.range_mono hn) fun i _ hi => ?_
    rw [v.bound i (by simpa using hi)]
    rfl
  rw [hwide t f _ (le_max_left t.next u.next), hwide u g _ (le_max_right t.next u.next)]
  exact Finset.sum_congr rfl fun i _ => h i

lemma total_update_of_eq {t : Table α} {i : ℕ} {g : α → α} {f : ℕ → α → M}
    (h : ∀ a, t.get i = some a → f i (g a) = f i a) : (t.update i g).total f = t.total f := by
  refine total_ext fun j => ?_
  rw [get_update]
  by_cases hj : j = i
  · subst hj
    cases ha : t.get j with
    | none => simp
    | some a => simpa using h a ha
  · rw [if_neg hj]

lemma total_update {t : Table α} {i : ℕ} {a : α} (ha : t.get i = some a) (g : α → α)
    (f : ℕ → α → M) : (t.update i g).total f + f i a = t.total f + f i (g a) := by
  have hi : i ∈ Finset.range t.next := Finset.mem_range.mpr (lt_of_get ha)
  rw [total, total, next_update, ← Finset.add_sum_erase _ _ hi, ← Finset.add_sum_erase _ _ hi,
    get_update_self ha, ha, Option.elim_some, Option.elim_some]
  have hrest : ∑ j ∈ (Finset.range t.next).erase i, ((t.update i g).get j).elim 0 (f j) =
      ∑ j ∈ (Finset.range t.next).erase i, (t.get j).elim 0 (f j) := by
    refine Finset.sum_congr rfl fun j hj => ?_
    rw [get_update_ne t (Finset.ne_of_mem_erase hj)]
  rw [hrest, add_right_comm, add_comm (f i (g a)), add_right_comm, add_comm (f i a)]

lemma total_move {t u : Table α} {f g : ℕ → α → M} {i : ℕ} (hn : u.next = t.next)
    (h : ∀ j, j ≠ i → (u.get j).elim 0 (g j) = (t.get j).elim 0 (f j)) :
    u.total g + (t.get i).elim 0 (f i) = t.total f + (u.get i).elim 0 (g i) := by
  by_cases hi : i ∈ Finset.range t.next
  · rw [total, total, hn, ← Finset.add_sum_erase _ _ hi, ← Finset.add_sum_erase _ _ hi]
    have hrest : ∑ j ∈ (Finset.range t.next).erase i, (u.get j).elim 0 (g j) =
        ∑ j ∈ (Finset.range t.next).erase i, (t.get j).elim 0 (f j) :=
      Finset.sum_congr rfl fun j hj => h j (Finset.ne_of_mem_erase hj)
    rw [hrest, add_right_comm, add_comm ((u.get i).elim 0 (g i)), add_right_comm]
  · have hle : t.next ≤ i := by
      rwa [Finset.mem_range, not_lt] at hi
    rw [t.bound i hle, u.bound i (by rwa [hn])]
    refine congrArg (· + _) (total_ext fun j => ?_)
    by_cases hj : j = i
    · rw [hj, t.bound i hle, u.bound i (by rwa [hn])]
      rfl
    · exact h j hj

lemma total_eq_zero {t : Table α} {f : ℕ → α → M} (h : ∀ i a, t.get i = some a → f i a = 0) :
    t.total f = 0 := by
  refine Finset.sum_eq_zero fun i _ => ?_
  cases ha : t.get i with
  | none => rfl
  | some a => exact h i a ha

lemma total_eq_single {t : Table α} {f : ℕ → α → M} {i : ℕ} {a : α} (ha : t.get i = some a)
    (h : ∀ j b, t.get j = some b → j ≠ i → f j b = 0) : t.total f = f i a := by
  rw [total, Finset.sum_eq_single i, ha, Option.elim_some]
  · intro j _ hj
    cases hb : t.get j with
    | none => rfl
    | some b => exact h j b hb hj
  · intro hi
    exact (hi (Finset.mem_range.mpr (lt_of_get ha))).elim

lemma total_add (t : Table α) (f g : ℕ → α → M) :
    t.total (fun i a => f i a + g i a) = t.total f + t.total g := by
  rw [total, total, total, ← Finset.sum_add_distrib]
  refine Finset.sum_congr rfl fun i _ => ?_
  cases t.get i <;> simp

lemma sum_map_filterMap {β : Type*} (g : β → Option α) (f : α → M) (xs : List β) :
    ((xs.filterMap g).map f).sum = (xs.map fun x => (g x).elim 0 f).sum := by
  induction xs with
  | nil => rfl
  | cons x xs ih =>
    rw [List.filterMap_cons, List.map_cons, List.sum_cons, ← ih]
    cases g x with
    | none => simp
    | some a => simp

lemma total_eq_sum (t : Table α) (f : ℕ → α → M) : t.total f = (t.rows.map fun r => f r.1 r.2).sum := by
  have hsum : t.total f = ((List.range t.next).map fun i => (t.get i).elim 0 (f i)).sum := rfl
  rw [hsum, rows, sum_map_filterMap]
  congr 1
  apply List.map_congr_left
  intro i _
  cases t.get i <;> rfl

lemma total_neg {G : Type*} [AddCommGroup G] (t : Table α) (f : ℕ → α → G) :
    t.total (fun i a => -f i a) = -t.total f := by
  rw [total, total, ← Finset.sum_neg_distrib]
  refine Finset.sum_congr rfl fun i _ => ?_
  cases t.get i <;> simp

end Total

section Order

variable [AddCommMonoid M] [PartialOrder M] [IsOrderedAddMonoid M]

lemma total_nonneg {t : Table α} {f : ℕ → α → M} (h : ∀ i a, t.get i = some a → 0 ≤ f i a) :
    0 ≤ t.total f := by
  refine Finset.sum_nonneg fun i _ => ?_
  cases ha : t.get i with
  | none => exact le_rfl
  | some a => exact h i a ha

end Order

end Table

end TrxSimulator.Foundations.Tables
