import Mathlib.Data.Nat.Digits.Lemmas

/-! Numerals, the most significant digit first. `rebase` writes a numeral in another base and keeps its leading zeros,
one for one. -/

namespace TrxSimulator.Foundations.Numerals

variable {b c : ℕ}

def value (b : ℕ) (ds : List ℕ) : ℕ := ds.foldl (fun n d => n * b + d) 0

def numeral (b n : ℕ) : List ℕ := (Nat.digits b n).reverse

def fixed (b : ℕ) : ℕ → ℕ → List ℕ
  | 0, _ => []
  | k + 1, n => n / b ^ k % b :: fixed b k n

def rebase (b c : ℕ) (ds : List ℕ) : List ℕ := ds.takeWhile (· = 0) ++ numeral c (value b ds)

lemma value_eq_ofDigits (b : ℕ) (ds : List ℕ) : value b ds = Nat.ofDigits b ds.reverse := by
  rw [value, Nat.ofDigits_eq_foldr, List.foldr_reverse]
  congr 1
  funext n d
  simp [Nat.mul_comm, Nat.add_comm]

lemma value_append (b : ℕ) (ds es : List ℕ) : value b (ds ++ es) = value b ds * b ^ es.length + value b es := by
  simp only [value_eq_ofDigits, List.reverse_append, Nat.ofDigits_append, List.length_reverse]
  ring

lemma value_cons (b d : ℕ) (ds : List ℕ) : value b (d :: ds) = d * b ^ ds.length + value b ds := by
  have happ := value_append b [d] ds
  simpa [value] using happ

@[simp] lemma value_nil (b : ℕ) : value b [] = 0 := rfl

lemma value_concat (b : ℕ) (ds : List ℕ) (d : ℕ) : value b (ds ++ [d]) = value b ds * b + d := by
  simp [value]

lemma value_zeros (b : ℕ) {zeros : List ℕ} (hz : ∀ d ∈ zeros, d = 0) (ds : List ℕ) :
    value b (zeros ++ ds) = value b ds := by
  induction zeros with
  | nil => rfl
  | cons d zeros ih =>
    have hd : d = 0 := hz d List.mem_cons_self
    have hrest := ih fun e he => hz e (List.mem_cons_of_mem d he)
    simp [value_cons, hd, hrest]

lemma value_lt (hb : 1 < b) {ds : List ℕ} (hd : ∀ d ∈ ds, d < b) : value b ds < b ^ ds.length := by
  rw [value_eq_ofDigits, ← List.length_reverse]
  exact Nat.ofDigits_lt_base_pow_length hb fun d h => hd d (List.mem_reverse.mp h)

lemma value_injective (hb : 1 < b) {ds es : List ℕ} (hlen : ds.length = es.length) (hd : ∀ d ∈ ds, d < b)
    (he : ∀ d ∈ es, d < b) (h : value b ds = value b es) : ds = es := by
  rw [value_eq_ofDigits, value_eq_ofDigits] at h
  apply List.reverse_injective
  exact Nat.ofDigits_inj_of_len_eq hb (by simpa using hlen) (fun d h => hd d (List.mem_reverse.mp h))
    (fun d h => he d (List.mem_reverse.mp h)) h

/-! Numerals without leading zeros. -/

lemma numeral_lt (hb : 1 < b) (n : ℕ) : ∀ d ∈ numeral b n, d < b :=
  fun _ hd => Nat.digits_lt_base hb (List.mem_reverse.mp hd)

lemma value_numeral (b n : ℕ) : value b (numeral b n) = n := by
  simp [value_eq_ofDigits, numeral, Nat.ofDigits_digits]

lemma head_numeral (b n : ℕ) : (numeral b n).head? ≠ some 0 := by
  intro hzero
  rw [numeral, List.head?_reverse] at hzero
  have hn : n ≠ 0 := by
    rintro rfl
    simp at hzero
  rw [List.getLast?_eq_some_getLast (Nat.digits_ne_nil_iff_ne_zero.mpr hn)] at hzero
  exact Nat.getLast_digit_ne_zero b hn (Option.some.inj hzero)

lemma numeral_value (hb : 1 < b) {ds : List ℕ} (hd : ∀ d ∈ ds, d < b) (hhead : ds.head? ≠ some 0) :
    numeral b (value b ds) = ds := by
  rw [numeral, value_eq_ofDigits, Nat.digits_ofDigits b hb]
  · exact List.reverse_reverse ds
  · exact fun d h => hd d (List.mem_reverse.mp h)
  · intro hne hlast
    apply hhead
    have hds : ds ≠ [] := by simpa using hne
    rw [List.getLast_reverse] at hlast
    rw [List.head?_eq_some_head hds, hlast]

lemma takeWhile_of_head {ds : List ℕ} (hhead : ds.head? ≠ some 0) : ds.takeWhile (· = 0) = [] := by
  cases ds with
  | nil => rfl
  | cons d ds =>
    have hd : d ≠ 0 := fun h => hhead (by rw [h]; rfl)
    simp [hd]

lemma head_dropWhile (ds : List ℕ) : (ds.dropWhile (· = 0)).head? ≠ some 0 := by
  induction ds with
  | nil => simp
  | cons d ds ih =>
    by_cases hd : d = 0
    · simpa [List.dropWhile_cons, hd] using ih
    · simp [hd]

lemma zeros_takeWhile (ds : List ℕ) : ∀ d ∈ ds.takeWhile (· = 0), d = 0 := by
  intro d hd
  induction ds with
  | nil => simp at hd
  | cons e ds ih =>
    by_cases he : e = 0
    · simp only [he, decide_true, List.takeWhile_cons_of_pos, List.mem_cons] at hd
      exact hd.elim id ih
    · simp [he] at hd

lemma zeros_append_numeral (hb : 1 < b) {ds : List ℕ} (hd : ∀ d ∈ ds, d < b) :
    ds.takeWhile (· = 0) ++ numeral b (value b ds) = ds := by
  have hvalue : value b ds = value b (ds.dropWhile (· = 0)) := by
    conv_lhs => rw [← List.takeWhile_append_dropWhile (p := (· = 0)) (l := ds)]
    exact value_zeros b (zeros_takeWhile ds) _
  rw [hvalue, numeral_value hb (fun d h => hd d ((List.dropWhile_sublist _).mem h)) (head_dropWhile ds)]
  exact List.takeWhile_append_dropWhile

lemma takeWhile_rebase (b c : ℕ) (ds : List ℕ) : (rebase b c ds).takeWhile (· = 0) = ds.takeWhile (· = 0) := by
  rw [rebase, List.takeWhile_append_of_pos (fun d hd => by simpa using zeros_takeWhile ds d hd),
    takeWhile_of_head (head_numeral c _), List.append_nil]

lemma value_rebase (b c : ℕ) (ds : List ℕ) : value c (rebase b c ds) = value b ds := by
  rw [rebase, value_zeros c (zeros_takeWhile ds), value_numeral]

/-- Writing a numeral in another base and back gives the numeral, leading zeros included. -/
theorem rebase_rebase (hb : 1 < b) {ds : List ℕ} (hd : ∀ d ∈ ds, d < b) (c : ℕ) : rebase c b (rebase b c ds) = ds := by
  rw [rebase, takeWhile_rebase, value_rebase]
  exact zeros_append_numeral hb hd

lemma rebase_lt (hc : 1 < c) (b : ℕ) (ds : List ℕ) : ∀ d ∈ rebase b c ds, d < c := by
  intro d hd
  cases List.mem_append.mp hd with
  | inl hzero =>
    have hd0 : d = 0 := zeros_takeWhile ds d hzero
    omega
  | inr hnum => exact numeral_lt hc _ d hnum

lemma rebase_ne_nil {ds : List ℕ} (hne : ds ≠ []) (hb : 1 < b) (hd : ∀ d ∈ ds, d < b) (c : ℕ) :
    rebase b c ds ≠ [] := by
  intro hnil
  have hback := rebase_rebase hb hd c
  rw [hnil] at hback
  simp only [rebase, List.takeWhile_nil, value_nil, List.nil_append, numeral, Nat.digits_zero,
    List.reverse_nil] at hback
  exact hne hback.symm

/-! Numerals of a fixed width. -/

@[simp] lemma length_fixed (b k n : ℕ) : (fixed b k n).length = k := by
  induction k with
  | zero => rfl
  | succ k ih => simp [fixed, ih]

lemma fixed_lt (hb : 0 < b) (k n : ℕ) : ∀ d ∈ fixed b k n, d < b := by
  induction k with
  | zero => simp [fixed]
  | succ k ih =>
    intro d hd
    cases List.mem_cons.mp hd with
    | inl hhead => exact hhead ▸ Nat.mod_lt _ hb
    | inr htail => exact ih d htail

lemma value_fixed (b k n : ℕ) : value b (fixed b k n) = n % b ^ k := by
  induction k with
  | zero => simp [fixed, Nat.mod_one]
  | succ k ih =>
    rw [fixed, value_cons, length_fixed, ih, Nat.mod_pow_succ]
    ring

lemma fixed_value (hb : 1 < b) {ds : List ℕ} (hd : ∀ d ∈ ds, d < b) : fixed b ds.length (value b ds) = ds := by
  apply value_injective hb (length_fixed b _ _) (fixed_lt (by omega) _ _) hd
  rw [value_fixed, Nat.mod_eq_of_lt (value_lt hb hd)]

lemma numeral_eq_fixed (hb : 1 < b) {k n : ℕ} (hlow : b ^ k ≤ n) (hhigh : n < b ^ (k + 1)) :
    numeral b n = fixed b (k + 1) n := by
  have hvalue : value b (fixed b (k + 1) n) = n := by rw [value_fixed, Nat.mod_eq_of_lt hhigh]
  conv_lhs => rw [← hvalue]
  apply numeral_value hb (fixed_lt (by omega) _ _)
  have hquot : n / b ^ k < b := by
    apply Nat.div_lt_of_lt_mul
    rwa [← pow_succ]
  have hpos : 0 < n / b ^ k := Nat.div_pos hlow (by positivity)
  rw [fixed, Nat.mod_eq_of_lt hquot, List.head?_cons]
  simp only [ne_eq, Option.some.injEq]
  omega

/-- Between two neighbouring multiples of a power, every number starts with the same digit. -/
lemma head_numeral_of_between (hb : 1 < b) {d k n : ℕ} (hpos : 0 < d) (hd : d < b) (hlow : d * b ^ k ≤ n)
    (hhigh : n < (d + 1) * b ^ k) : (numeral b n).head? = some d := by
  have hpow : 0 < b ^ k := by positivity
  have hquot : n / b ^ k = d := Nat.div_eq_of_lt_le hlow hhigh
  rw [numeral_eq_fixed hb (k := k), fixed, List.head?_cons, hquot, Nat.mod_eq_of_lt hd]
  · exact (Nat.le_mul_of_pos_left _ hpos).trans hlow
  · calc n < (d + 1) * b ^ k := hhigh
      _ ≤ b * b ^ k := Nat.mul_le_mul_right _ hd
      _ = b ^ (k + 1) := by ring

end TrxSimulator.Foundations.Numerals
