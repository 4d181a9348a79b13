import Mathlib.Data.List.Induction
import Mathlib.Logic.Function.Basic
import TrxSimulator.Foundations.Runs

/-! Items that arrive with a key, gathered into one accumulator that starts afresh whenever the key changes. What is
shown of a key is what was gathered when it was last there; it is all there is of the key as long as no item returns
to a key that has been left. -/

namespace TrxSimulator.Foundations.Groups

open Runs

variable {ι κ γ : Type} [DecidableEq κ] (key : ι → κ) (start : ι → γ) (collect : γ → ι → γ)

structure Board (κ γ : Type) where
  current : Option (κ × γ)
  shown : κ → Option γ

def empty : Board κ γ := ⟨none, fun _ => none⟩

def gather (s : Board κ γ) (x : ι) : γ :=
  match s.current with
  | some (k, g) => if k = key x then collect g x else start x
  | none => start x

def receive (s : Board κ γ) (x : ι) : Board κ γ where
  current := some (key x, gather key start collect s x)
  shown := Function.update s.shown (key x) (some (gather key start collect s x))

def board (items : List ι) : Board κ γ := run (receive key start collect) empty items

/-- The items of a key alone, from the first on. -/
def group (k : κ) (items : List ι) : Option γ :=
  match items.filter fun x => key x = k with
  | [] => none
  | x :: xs => some (xs.foldl collect (start x))

/-- The key is the last one, or whatever of it came before does not matter to the item. -/
def Stays (harmless : ι → ι → Prop) (seen : List ι) (x : ι) : Prop :=
  (seen.getLast?).map key = some (key x) ∨ ∀ y ∈ seen, key y = key x → harmless y x

section Groups

variable {key start collect} {items : List ι} {x : ι} {k : κ}

lemma receive_shown_self {s : Board κ γ} : (receive key start collect s x).shown (key x) =
    some (gather key start collect s x) := Function.update_self _ _ _

lemma receive_shown_ne {s : Board κ γ} (hk : k ≠ key x) : (receive key start collect s x).shown k = s.shown k :=
  Function.update_of_ne hk _ _

lemma board_append : board key start collect (items ++ [x]) =
    receive key start collect (board key start collect items) x := by
  rw [board, board, run_append]
  rfl

lemma group_append_self : group key start collect (key x) (items ++ [x]) =
    some (((group key start collect (key x) items).map fun g => collect g x).getD (start x)) := by
  rw [group, group, List.filter_append]
  cases h : items.filter fun y => key y = key x with
  | nil => simp
  | cons y ys => simp

lemma group_append_other (hk : key x ≠ k) :
    group key start collect k (items ++ [x]) = group key start collect k items := by
  rw [group, group, List.filter_append]
  simp [hk]

lemma group_none (h : ∀ y ∈ items, key y ≠ k) : group key start collect k items = none := by
  have hnil : (items.filter fun y => key y = k) = [] := by
    rw [List.filter_eq_nil_iff]
    simpa using h
  rw [group, hnil]

lemma current_board : (board key start collect items).current.map Prod.fst = items.getLast?.map key := by
  induction items using List.reverseRecOn with
  | nil => rfl
  | append_singleton items x ih =>
    rw [board_append, List.getLast?_append]
    rfl

lemma shown_of_current {g : γ} (h : (board key start collect items).current = some (k, g)) :
    (board key start collect items).shown k = some g := by
  induction items using List.reverseRecOn with
  | nil => cases h
  | append_singleton items x ih =>
    rw [board_append] at h ⊢
    cases h
    exact receive_shown_self

lemma gather_start (h : items.getLast?.map key ≠ some (key x)) :
    gather key start collect (board key start collect items) x = start x := by
  have hcurrent : (board key start collect items).current.map Prod.fst = items.getLast?.map key := current_board
  rw [← hcurrent] at h
  rw [gather]
  split
  · next k g hcurrent =>
    rw [hcurrent] at h
    exact if_neg fun hk => h (by rw [hk]; rfl)
  · rfl

lemma shown_start (h : items.getLast?.map key ≠ some (key x)) :
    (board key start collect (items ++ [x])).shown (key x) = some (start x) := by
  rw [board_append, receive_shown_self, gather_start h]

lemma shown_other (hk : k ≠ key x) :
    (board key start collect (items ++ [x])).shown k = (board key start collect items).shown k := by
  rw [board_append, receive_shown_ne hk]

variable {harmless : ι → ι → Prop}

lemma exact_append (hharmless : ∀ items x, (∀ y ∈ items, key y = key x → harmless y x) →
      ∀ g ∈ group key start collect (key x) items, collect g x = start x)
    (hexact : ∀ k, (board key start collect items).shown k = group key start collect k items)
    (hstays : Stays key harmless items x) :
    ∀ k, (board key start collect (items ++ [x])).shown k = group key start collect k (items ++ [x]) := by
  intro k
  by_cases hk : k = key x
  · subst hk
    by_cases hlast : items.getLast?.map key = some (key x)
    · have hboard : (board key start collect items).current.map Prod.fst = items.getLast?.map key := current_board
      rw [← hboard] at hlast
      obtain ⟨⟨k, g⟩, hcurrent, hk⟩ := Option.map_eq_some_iff.mp hlast
      obtain rfl : k = key x := hk
      have hshown := shown_of_current hcurrent
      rw [group_append_self, ← hexact, hshown, board_append, receive_shown_self, gather, hcurrent]
      simp
    · have hothers := hstays.resolve_left hlast
      rw [shown_start hlast, group_append_self]
      cases hgroup : group key start collect (key x) items with
      | none => rfl
      | some g =>
        have hsame := hharmless items x hothers g hgroup
        exact congrArg some hsame.symm
  · rw [shown_other hk, group_append_other (Ne.symm hk), hexact k]

/-- In an arrival without harmful returns, everything shown is all there is of its key. -/
lemma exact_of_guarded (hharmless : ∀ items x, (∀ y ∈ items, key y = key x → harmless y x) →
      ∀ g ∈ group key start collect (key x) items, collect g x = start x)
    (hg : Guarded (fun seen x => seen ++ [x]) (Stays key harmless) [] items) (k : κ) :
    (board key start collect items).shown k = group key start collect k items := by
  suffices h : ∀ k, (board key start collect (run (fun seen x => seen ++ [x]) [] items)).shown k =
      group key start collect k (run (fun seen x => seen ++ [x]) [] items) by
    rw [run_collect, List.nil_append] at h
    exact h k
  exact guarded_invariant (I := fun seen => ∀ k, (board key start collect seen).shown k =
    group key start collect k seen) (fun seen x hexact hstays => exact_append hharmless hexact hstays)
    (fun k => rfl) hg

end Groups

end TrxSimulator.Foundations.Groups
