import Mathlib.Logic.Relation
import Mathlib.Logic.Function.Basic
import Mathlib.Data.List.Nodup

/-! Forests given by a partial parent function. -/

namespace TrxSimulator.Foundations.Forests

variable {α : Type*} {parent : α → Option α} {a b c : α} {bs cs : List α}

def Ancestor (parent : α → Option α) : α → α → Prop :=
  Relation.TransGen fun a b => parent a = some b

def Forest (parent : α → Option α) : Prop := ∀ a, ¬ Ancestor parent a a

inductive Chain (parent : α → Option α) : α → List α → Prop
  | root {a : α} (h : parent a = none) : Chain parent a []
  | up {a b : α} {bs : List α} (h : parent a = some b) (hs : Chain parent b bs) : Chain parent a (b :: bs)

lemma ancestor_of_parent (h : parent a = some b) : Ancestor parent a b := .single h

lemma Ancestor.up (h : parent a = some b) (hc : Ancestor parent b c) : Ancestor parent a c := .head h hc

lemma Ancestor.snoc (hb : Ancestor parent a b) (h : parent b = some c) : Ancestor parent a c := .tail hb h

lemma ancestor_iff_of_parent (h : parent a = some b) : Ancestor parent a c ↔ c = b ∨ Ancestor parent b c := by
  constructor
  · intro hc
    obtain ⟨d, hd, hrest⟩ := Relation.TransGen.head'_iff.mp hc
    obtain rfl : b = d := Option.some.inj (h.symm.trans hd)
    exact Relation.reflTransGen_iff_eq_or_transGen.mp hrest
  · rintro (rfl | hc)
    · exact ancestor_of_parent h
    · exact hc.up h

lemma not_ancestor_of_root (h : parent a = none) : ¬ Ancestor parent a c := by
  intro hc
  obtain ⟨d, hd, -⟩ := Relation.TransGen.head'_iff.mp hc
  rw [h] at hd
  cases hd

section Chains

lemma Chain.unique (h : Chain parent a bs) (h' : Chain parent a cs) : bs = cs := by
  induction h generalizing cs with
  | root hnone =>
    cases h' with
    | root => rfl
    | up hsome => rw [hnone] at hsome; cases hsome
  | up hsome _ ih =>
    cases h' with
    | root hnone => rw [hnone] at hsome; cases hsome
    | up hsome' hs' =>
      obtain rfl := Option.some.inj (hsome.symm.trans hsome')
      rw [ih hs']

lemma Chain.mem_iff (h : Chain parent a bs) : c ∈ bs ↔ Ancestor parent a c := by
  induction h with
  | root hnone => exact iff_of_false List.not_mem_nil (not_ancestor_of_root hnone)
  | up hsome _ ih => rw [List.mem_cons, ih, ancestor_iff_of_parent hsome]

lemma Chain.nodup (hf : Forest parent) (h : Chain parent a bs) : (a :: bs).Nodup := by
  induction h with
  | root => exact List.nodup_singleton _
  | @up a b bs hsome hs ih =>
    refine List.nodup_cons.mpr ⟨fun hmem => hf a ?_, ih⟩
    exact (Chain.up hsome hs).mem_iff.mp hmem

end Chains

lemma Forest.mono {parent' : α → Option α} (hf : Forest parent)
    (h : ∀ a b, parent' a = some b → parent a = some b) : Forest parent' := fun a ha =>
  hf a (Relation.TransGen.mono h a a ha)

section Links

variable [DecidableEq α] {child top : α}

lemma ancestor_update (h : Ancestor (Function.update parent child (some top)) a b) :
    Ancestor parent a b ∨
      ((a = child ∨ Ancestor parent a child) ∧ (b = top ∨ Ancestor parent top b)) := by
  induction h with
  | @single b hb =>
    by_cases hchild : a = child
    · subst hchild
      rw [Function.update_self, Option.some.injEq] at hb
      exact Or.inr ⟨Or.inl rfl, Or.inl hb.symm⟩
    · rw [Function.update_of_ne hchild] at hb
      exact Or.inl (ancestor_of_parent hb)
  | @tail b c _ hc ih =>
    by_cases hchild : b = child
    · subst hchild
      rw [Function.update_self, Option.some.injEq] at hc
      refine Or.inr ⟨?_, Or.inl hc.symm⟩
      rcases ih with hab | ⟨hab, -⟩
      · exact Or.inr hab
      · exact hab
    · rw [Function.update_of_ne hchild] at hc
      rcases ih with hab | ⟨hab, rfl | htb⟩
      · exact Or.inl (hab.snoc hc)
      · exact Or.inr ⟨hab, Or.inr (ancestor_of_parent hc)⟩
      · exact Or.inr ⟨hab, Or.inr (htb.snoc hc)⟩

lemma Forest.update (hf : Forest parent) (hne : child ≠ top) (hnot : ¬ Ancestor parent top child) :
    Forest (Function.update parent child (some top)) := by
  intro a ha
  rcases ancestor_update ha with hold | ⟨hup, hdown⟩
  · exact hf a hold
  · rcases hup with rfl | hup <;> rcases hdown with rfl | hdown
    · exact hne rfl
    · exact hnot hdown
    · exact hnot hup
    · exact hnot (hdown.trans hup)

end Links

end TrxSimulator.Foundations.Forests
