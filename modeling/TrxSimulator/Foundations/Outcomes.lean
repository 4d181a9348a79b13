import TrxSimulator.Foundations.Tables

/-! Inversion rules for computations that return a value or raise an error. -/

namespace TrxSimulator.Foundations.Outcomes

open Tables

variable {ε ε' α β : Type*}

def require (o : Option α) (e : ε) : Except ε α :=
  match o with
  | some a => .ok a
  | none => .error e

/-- A transaction that raises leaves the state as it found it. -/
def commit {σ : Type*} (s : σ) (x : Except ε σ) : σ :=
  match x with
  | .ok s' => s'
  | .error _ => s

lemma bind_eq_ok {ε α β : Type} {x : Except ε α} {f : α → Except ε β} {b : β} :
    (x >>= f) = .ok b ↔ ∃ a, x = .ok a ∧ f a = .ok b := by
  cases x with
  | error e => simp [bind, Except.bind]
  | ok a => simp [bind, Except.bind]

lemma pure_eq_ok {ε α : Type} {a b : α} : (pure a : Except ε α) = .ok b ↔ a = b := by
  simp [pure, Except.pure]

lemma guard_eq_ok {c : Prop} [Decidable c] {e : ε} {x : Except ε α} {a : α} :
    (if c then .error e else x) = .ok a ↔ ¬ c ∧ x = .ok a := by
  split
  · next h => simp [h]
  · next h => simp [h]

lemma require_eq_ok {o : Option α} {e : ε} {a : α} : require o e = .ok a ↔ o = some a := by
  cases o with
  | none => simp [require]
  | some b => simp [require]

lemma mapError_eq_ok {f : ε → ε'} {x : Except ε α} {a : α} :
    x.mapError f = .ok a ↔ x = .ok a := by
  cases x with
  | error e => simp [Except.mapError]
  | ok b => simp [Except.mapError]

lemma map_eq_ok {ε α β : Type} {x : Except ε α} {f : α → β} {b : β} :
    x.map f = .ok b ↔ ∃ a, x = .ok a ∧ f a = b := by
  cases x with
  | error e => simp [Except.map]
  | ok a => simp [Except.map]

@[simp] lemma commit_ok {σ : Type*} (s s' : σ) : commit s (.ok s' : Except ε σ) = s' := rfl

@[simp] lemma commit_error {σ : Type*} (s : σ) (e : ε) : commit s (.error e) = s := rfl

@[elab_as_elim]
lemma commit_rule {σ : Type*} {motive : σ → Prop} (s : σ) (x : Except ε σ) (same : motive s)
    (ok : ∀ s', x = .ok s' → motive s') : motive (commit s x) := by
  cases x with
  | error e => exact same
  | ok s' => exact ok s' rfl

section Returning

def Returns (x : Except ε α) : Prop := ∃ a, x = .ok a

lemma returns_ok (a : α) : Returns (.ok a : Except ε α) := ⟨a, rfl⟩

lemma returns_pure {ε α : Type} (a : α) : Returns (pure a : Except ε α) := ⟨a, rfl⟩

lemma returns_require {o : Option α} {e : ε} : Returns (require o e) ↔ o.isSome := by
  cases o with
  | none => simp [Returns, require]
  | some a => simp [Returns, require]

lemma returns_bind {ε α β : Type} {x : Except ε α} {f : α → Except ε β} :
    Returns (x >>= f) ↔ ∃ a, x = .ok a ∧ Returns (f a) := by
  cases x with
  | error e => simp [Returns, bind, Except.bind]
  | ok a => simp [Returns, bind, Except.bind]

lemma returns_bind_const {ε α β : Type} {x : Except ε α} {f : α → Except ε β} {P : Prop}
    (hf : ∀ a, Returns (f a) ↔ P) : Returns (x >>= f) ↔ Returns x ∧ P := by
  rw [returns_bind]
  simp only [hf, exists_and_right]
  exact Iff.rfl

lemma returns_guard {c : Prop} [Decidable c] {e : ε} {x : Except ε α} :
    Returns (if c then .error e else x) ↔ ¬ c ∧ Returns x := by
  simp only [Returns, guard_eq_ok, exists_and_left]

lemma returns_foldlM {ε α β : Type} {f : β → α → Except ε β} {P : α → Prop} (hf : ∀ b a, Returns (f b a) ↔ P a)
    (xs : List α) (b : β) : Returns (xs.foldlM f b) ↔ ∀ x ∈ xs, P x := by
  induction xs generalizing b with
  | nil => simp [returns_pure]
  | cons x xs ih =>
    rw [List.foldlM_cons, returns_bind, List.forall_mem_cons]
    constructor
    · rintro ⟨b', hb', hrest⟩
      exact ⟨(hf b x).mp ⟨b', hb'⟩, (ih b').mp hrest⟩
    · rintro ⟨hx, hrest⟩
      obtain ⟨b', hb'⟩ := (hf b x).mpr hx
      exact ⟨b', hb', (ih b').mpr hrest⟩

lemma isSome_foldlM {α β : Type} {f : β → α → Option β} {P : α → Prop} (hf : ∀ b a, (f b a).isSome ↔ P a)
    (xs : List α) (b : β) : (xs.foldlM f b).isSome ↔ ∀ x ∈ xs, P x := by
  induction xs generalizing b with
  | nil => simp
  | cons x xs ih =>
    have hx := hf b x
    rw [List.foldlM_cons, List.forall_mem_cons, ← hx]
    cases f b x with
    | none => simp
    | some b' => simp [ih]

end Returning

section Lists

variable {α β : Type} {f : α → Option β} {xs : List α} {ys : List β}

lemma mapM_isSome (h : ∀ x ∈ xs, (f x).isSome) : (xs.mapM f).isSome := by
  induction xs with
  | nil => rfl
  | cons x xs ih =>
    rw [List.forall_mem_cons] at h
    obtain ⟨y, hy⟩ := Option.isSome_iff_exists.mp h.1
    obtain ⟨ys, hys⟩ := Option.isSome_iff_exists.mp (ih h.2)
    rw [List.mapM_cons, hy, hys]
    rfl

lemma mapM_cons_eq_some {x : α} :
    (x :: xs).mapM f = some ys ↔ ∃ y zs, f x = some y ∧ xs.mapM f = some zs ∧ ys = y :: zs := by
  rw [List.mapM_cons]
  simp only [Option.bind_eq_bind, Option.bind_eq_some_iff, Option.pure_def, Option.some.injEq]
  constructor
  · rintro ⟨y, hy, zs, hzs, rfl⟩
    exact ⟨y, zs, hy, hzs, rfl⟩
  · rintro ⟨y, zs, hy, hzs, rfl⟩
    exact ⟨y, hy, zs, hzs, rfl⟩

lemma mem_of_mapM (h : xs.mapM f = some ys) : ∀ y, y ∈ ys ↔ ∃ x ∈ xs, f x = some y := by
  induction xs generalizing ys with
  | nil =>
    cases h
    simp
  | cons x xs ih =>
    obtain ⟨z, zs, hz, hzs, rfl⟩ := mapM_cons_eq_some.mp h
    intro y
    rw [List.mem_cons, ih hzs, List.exists_mem_cons_iff, hz, Option.some.injEq, eq_comm]

lemma get_of_mapM (h : xs.mapM f = some ys) : ∀ x ∈ xs, ∃ y ∈ ys, f x = some y := by
  induction xs generalizing ys with
  | nil => exact fun x hx => nomatch hx
  | cons x xs ih =>
    obtain ⟨z, zs, hz, hzs, rfl⟩ := mapM_cons_eq_some.mp h
    rw [List.forall_mem_cons]
    refine ⟨⟨z, List.mem_cons_self, hz⟩, fun x' hx' => ?_⟩
    obtain ⟨y, hy, hfy⟩ := ih hzs x' hx'
    exact ⟨y, List.mem_cons_of_mem _ hy, hfy⟩

end Lists

end TrxSimulator.Foundations.Outcomes
