import Mathlib.Data.Fintype.EquivFin
import Mathlib.Data.List.FinRange

/-! Nested documents: leaves, lists, and dictionaries whose keys are distinct by construction. -/

namespace TrxSimulator.Foundations.Documents

inductive Document (K S : Type) : Type
  | leaf (s : S)
  | list (n : ℕ) (item : Fin n → Document K S)
  | dict (n : ℕ) (key : Fin n ↪ K) (value : Fin n → Document K S)

variable {K L S : Type}

/-- The values of a comprehension, or the error of the first item that raises one. -/
def comprehend {ε α : Type} : {n : ℕ} → (Fin n → Except ε α) → Except ε (Fin n → α)
  | 0, _ => .ok Fin.elim0
  | _ + 1, x =>
    match x 0, comprehend fun i => x i.succ with
    | .error e, _ => .error e
    | .ok _, .error e => .error e
    | .ok a, .ok rest => .ok (Fin.cons a rest)

lemma comprehend_eq_ok {ε α : Type} {n : ℕ} {x : Fin n → Except ε α} {a : Fin n → α} :
    comprehend x = .ok a ↔ ∀ i, x i = .ok (a i) := by
  induction n with
  | zero => simp [comprehend, Subsingleton.elim Fin.elim0 a]
  | succ n ih =>
    obtain ⟨first, others, rfl⟩ : ∃ first others, a = Fin.cons first others := ⟨a 0, Fin.tail a, by simp⟩
    have htail := @ih (fun i => x i.succ) others
    rw [Fin.forall_fin_succ, comprehend]
    cases h0 : x 0 with
    | error e => simp
    | ok b =>
      cases hrest : comprehend fun i => x i.succ with
      | error e =>
        simp only [hrest, reduceCtorEq, false_iff] at htail ⊢
        exact fun h => htail h.2
      | ok rest =>
        rw [hrest, Except.ok.injEq] at htail
        simp only [Except.ok.injEq, Fin.cons_inj, Fin.cons_zero, Fin.cons_succ, htail]

def Document.keysSatisfy (p : K → Bool) : Document K S → Bool
  | .leaf _ => true
  | .list _ item => decide (∀ i, (item i).keysSatisfy p = true)
  | .dict _ key value => decide (∀ i, p (key i) = true ∧ (value i).keysSatisfy p = true)

section Agreement

variable [DecidableEq L] (lift : K → L)

/-- Equality of documents as `==` finds it: two dictionaries are equal when they are of one size and every key of the
first leads to equal values. -/
def agree (same : S → S → Bool) : Document K S → Document L S → Bool
  | .leaf s, .leaf t => same s t
  | .list n item, .list m item' =>
    if h : n = m then decide (∀ i, agree same (item i) (item' (Fin.cast h i)) = true) else false
  | .dict n key value, .dict m key' value' =>
    decide (n = m ∧ ∀ i, ∃ j, key' j = lift (key i) ∧ agree same (value i) (value' j) = true)
  | _, _ => false

/-- Two leaves at one place of both documents that `apart` finds. -/
def clash (apart : S → S → Bool) : Document K S → Document L S → Bool
  | .leaf s, .leaf t => apart s t
  | .list n item, .list m item' =>
    if h : n = m then decide (∃ i, clash apart (item i) (item' (Fin.cast h i)) = true) else false
  | .dict _ key value, .dict _ key' value' =>
    decide (∃ i j, key' j = lift (key i) ∧ clash apart (value i) (value' j) = true)
  | _, _ => false

variable (same : S → S → Bool) {lift}

@[simp]
lemma agree_leaf (s t : S) : agree lift same (.leaf s) (.leaf t) = same s t := rfl

@[simp]
lemma agree_list {n : ℕ} (item : Fin n → Document K S) (item' : Fin n → Document L S) :
    agree lift same (.list n item) (.list n item') = true ↔ ∀ i, agree lift same (item i) (item' i) = true := by
  simp [agree]

@[simp]
lemma agree_dict {n m : ℕ} (key : Fin n ↪ K) (value : Fin n → Document K S) (key' : Fin m ↪ L)
    (value' : Fin m → Document L S) :
    agree lift same (.dict n key value) (.dict m key' value') = true ↔
      n = m ∧ ∀ i, ∃ j, key' j = lift (key i) ∧ agree lift same (value i) (value' j) = true := by
  simp [agree]

lemma clash_list {n : ℕ} (item : Fin n → Document K S) (item' : Fin n → Document L S) :
    clash lift same (.list n item) (.list n item') = true ↔ ∃ i, clash lift same (item i) (item' i) = true := by
  simp [clash]

lemma clash_dict {n m : ℕ} (key : Fin n ↪ K) (value : Fin n → Document K S) (key' : Fin m ↪ L)
    (value' : Fin m → Document L S) :
    clash lift same (.dict n key value) (.dict m key' value') = true ↔
      ∃ i j, key' j = lift (key i) ∧ clash lift same (value i) (value' j) = true := by
  simp [clash]

variable {same} {coarse : S → S → Bool}

/-- A finer equality of leaves is the coarser one without a pair of leaves that only the coarser one takes as equal. -/
theorem agree_iff_not_clash (hfine : ∀ s t, same s t = true → coarse s t = true) (a : Document K S)
    (b : Document L S) :
    agree lift same a b = true ↔
      agree lift coarse a b = true ∧ clash lift (fun s t => coarse s t && !same s t) a b = false := by
  induction a generalizing b with
  | leaf s =>
    cases b with
    | leaf t =>
      have hst := hfine s t
      simp only [agree_leaf, clash]
      cases hs : same s t <;> cases hc : coarse s t <;> simp_all
    | list m item' => simp [agree]
    | dict m key' value' => simp [agree]
  | list n item ih =>
    cases b with
    | leaf t => simp [agree]
    | dict m key' value' => simp [agree]
    | list m item' =>
      by_cases hnm : n = m
      · subst hnm
        rw [← Bool.not_eq_true, clash_list]
        simp only [agree_list, ih, forall_and, not_exists, Bool.not_eq_true]
      · simp [agree, hnm]
  | dict n key value ih =>
    cases b with
    | leaf t => simp [agree]
    | list m item' => simp [agree]
    | dict m key' value' =>
      rw [← Bool.not_eq_true, clash_dict]
      simp only [agree_dict, ih]
      constructor
      · rintro ⟨rfl, hall⟩
        refine ⟨⟨rfl, fun i => ?_⟩, ?_⟩
        · obtain ⟨j, hj, hcoarse, _⟩ := hall i
          exact ⟨j, hj, hcoarse⟩
        · rintro ⟨i, j, hj, hclash⟩
          obtain ⟨j', hj', _, hnone⟩ := hall i
          have heq : j = j' := key'.injective (hj.trans hj'.symm)
          subst heq
          exact absurd hclash (by simp [hnone])
      · rintro ⟨⟨rfl, hall⟩, hnone⟩
        refine ⟨rfl, fun i => ?_⟩
        obtain ⟨j, hj, hcoarse⟩ := hall i
        refine ⟨j, hj, hcoarse, ?_⟩
        rw [← Bool.not_eq_true]
        exact fun hclash => hnone ⟨i, j, hj, hclash⟩

/-- Two dictionaries that agree have as many keys, so every key of the second comes from one of the first. -/
theorem agree_keys {p : L → Bool} (hlift : Function.Injective lift) (hp : ∀ k, p (lift k) = true)
    {a : Document K S} {b : Document L S} (h : agree lift same a b = true) : b.keysSatisfy p = true := by
  induction a generalizing b with
  | leaf s => cases b <;> simp [agree, Document.keysSatisfy] at h ⊢
  | list n item ih =>
    cases b with
    | leaf t => rfl
    | dict m key' value' => simp [agree] at h
    | list m item' =>
      by_cases hnm : n = m
      · subst hnm
        rw [agree_list] at h
        simpa only [Document.keysSatisfy, decide_eq_true_eq] using fun i => ih i (h i)
      · simp [agree, hnm] at h
  | dict n key value ih =>
    cases b with
    | leaf t => rfl
    | list m item' => simp [agree] at h
    | dict m key' value' =>
      obtain ⟨rfl, hall⟩ := (agree_dict _ _ _ _ _).1 h
      choose place hplace hagree using hall
      have hinj : Function.Injective place := fun i j hij =>
        key.injective (hlift ((hplace i).symm.trans ((congrArg key' hij).trans (hplace j))))
      have hsurj : Function.Surjective place := Finite.surjective_of_injective hinj
      simp only [Document.keysSatisfy, decide_eq_true_eq]
      intro j
      obtain ⟨i, rfl⟩ := hsurj j
      exact ⟨by rw [hplace i]; exact hp _, ih i (hagree i)⟩

end Agreement

section Rekeying

variable [DecidableEq K]

/-- A dictionary from its items, where a later item takes the place of an earlier one with its key. -/
def lastWins : List (K × Document K S) → List (K × Document K S)
  | [] => []
  | item :: items => if item.1 ∈ items.map Prod.fst then lastWins items else item :: lastWins items

lemma lastWins_keys (items : List (K × Document K S)) (k : K) :
    k ∈ (lastWins items).map Prod.fst ↔ k ∈ items.map Prod.fst := by
  induction items with
  | nil => simp [lastWins]
  | cons item items ih =>
    by_cases hmem : item.1 ∈ items.map Prod.fst
    · simp only [lastWins, hmem, if_true, ih, List.map_cons, List.mem_cons]
      constructor
      · exact Or.inr
      · rintro (rfl | h)
        · exact hmem
        · exact h
    · simp only [lastWins, hmem, if_false, List.map_cons, List.mem_cons, ih]

lemma lastWins_nodup (items : List (K × Document K S)) : ((lastWins items).map Prod.fst).Nodup := by
  induction items with
  | nil => simp [lastWins]
  | cons item items ih =>
    by_cases hmem : item.1 ∈ items.map Prod.fst
    · simpa only [lastWins, hmem, if_true] using ih
    · simp only [lastWins, hmem, if_false, List.map_cons, List.nodup_cons, lastWins_keys]
      exact ⟨fun h => h.elim, ih⟩

lemma lastWins_get_injective (items : List (K × Document K S)) :
    Function.Injective fun i => ((lastWins items).get i).1 := by
  intro i j hij
  have hget := List.nodup_iff_injective_get.1 (lastWins_nodup items)
  have hcast := @hget (i.cast (by simp)) (j.cast (by simp)) (by simpa using hij)
  simpa [Fin.ext_iff] using hcast

lemma lastWins_of_nodup {items : List (K × Document K S)} (h : (items.map Prod.fst).Nodup) :
    lastWins items = items := by
  induction items with
  | nil => rfl
  | cons item items ih =>
    simp only [List.map_cons, List.nodup_cons] at h
    simp only [lastWins, h.1, if_false, ih h.2]

def ofItems (items : List (K × Document K S)) : Document K S :=
  .dict (lastWins items).length ⟨fun i => ((lastWins items).get i).1, lastWins_get_injective items⟩
    fun i => ((lastWins items).get i).2

variable (name : L → Option K)

/-- The document once every key has been given its name; an item whose key has none is left out. -/
def rekey : Document L S → Document K S
  | .leaf s => .leaf s
  | .list n item => .list n fun i => rekey (item i)
  | .dict n key value =>
    ofItems ((List.finRange n).filterMap fun i => (name (key i)).map fun k => (k, rekey (value i)))

variable [DecidableEq L] {lift : K → L} {name} {same : S → S → Bool}

lemma agree_ofItems {items : List (K × Document K S)} {m : ℕ} (key : Fin m ↪ L) (value : Fin m → Document L S) :
    agree lift same (ofItems items) (.dict m key value) = true ↔
      (lastWins items).length = m ∧ ∀ i, ∃ j, key j = lift ((lastWins items).get i).1 ∧
        agree lift same ((lastWins items).get i).2 (value j) = true := by
  rw [ofItems, agree_dict]
  rfl

/-- A document agrees with its renamed self exactly when every key of it already is one of the names. -/
theorem agree_rekey_iff (hname : ∀ k, name (lift k) = some k) (hsame : ∀ s, same s s = true) (d : Document L S) :
    agree lift same (rekey name d) d = true ↔ d.keysSatisfy (fun l => decide ((name l).map lift = some l)) = true := by
  have hlift : Function.Injective lift := fun k k' hkk => by
    have hsome : some k = some k' := by rw [← hname k, ← hname k', hkk]
    exact Option.some_injective _ hsome
  constructor
  · exact agree_keys hlift (fun k => by simp [hname])
  intro hall
  induction d with
  | leaf s => exact hsame s
  | list n item ih =>
    simp only [Document.keysSatisfy, decide_eq_true_eq] at hall
    simp only [rekey, agree_list]
    exact fun i => ih i (hall i)
  | dict n key value ih =>
    simp only [Document.keysSatisfy, decide_eq_true_eq] at hall
    simp only [rekey, agree_ofItems]
    have hnamed : ∀ i, ∃ k, name (key i) = some k ∧ lift k = key i := fun i => by
      simpa [Option.map_eq_some_iff] using (hall i).1
    choose k hk hlifted using hnamed
    have hitems : ((List.finRange n).filterMap fun i => (name (key i)).map fun k => (k, rekey name (value i))) =
        (List.finRange n).map fun i => (k i, rekey name (value i)) := by
      simp [hk]
    have hkinj : Function.Injective k := fun i j hij => by
      apply key.injective
      rw [← hlifted i, ← hlifted j, hij]
    have hnodup : (((List.finRange n).map fun i => (k i, rekey name (value i))).map Prod.fst).Nodup := by
      rw [List.map_map]
      exact (List.nodup_finRange n).map hkinj
    rw [hitems, lastWins_of_nodup hnodup]
    refine ⟨by simp, fun i => ?_⟩
    obtain ⟨j, _, hj⟩ := List.mem_map.1 (List.get_mem _ i)
    refine ⟨j, ?_, ?_⟩
    · rw [← hj, hlifted]
    · rw [← hj]
      exact ih j (hall j).2

end Rekeying

end TrxSimulator.Foundations.Documents
