import Mathlib.Data.List.GetD
import Mathlib.Data.List.Nodup

/-! Alphabets, the letters of which stand for their places, and the two cases of ASCII letters. -/

namespace TrxSimulator.Foundations.Alphabets

section

variable {alphabet : List Char}

def letter (alphabet : List Char) (d : ℕ) : Char := alphabet.getD d alphabet.headI

lemma letter_eq {d : ℕ} (hd : d < alphabet.length) : letter alphabet d = alphabet[d] := List.getD_eq_getElem _ _ hd

lemma idxOf_letter (hnodup : alphabet.Nodup) {d : ℕ} (hd : d < alphabet.length) :
    alphabet.idxOf (letter alphabet d) = d := by
  rw [letter_eq hd]
  exact hnodup.idxOf_getElem d hd

lemma letter_idxOf {c : Char} (hc : c ∈ alphabet) : letter alphabet (alphabet.idxOf c) = c := by
  rw [letter_eq (List.idxOf_lt_length_iff.mpr hc)]
  exact List.getElem_idxOf _

lemma letter_mem {d : ℕ} (hd : d < alphabet.length) : letter alphabet d ∈ alphabet := by
  rw [letter_eq hd]
  exact List.getElem_mem hd

lemma map_idxOf_letter (hnodup : alphabet.Nodup) {ds : List ℕ} (hds : ∀ d ∈ ds, d < alphabet.length) :
    (ds.map (letter alphabet)).map (alphabet.idxOf ·) = ds := by
  rw [List.map_map]
  exact (List.map_congr_left fun d hd => idxOf_letter hnodup (hds d hd)).trans ds.map_id

lemma map_letter_idxOf {cs : List Char} (hcs : ∀ c ∈ cs, c ∈ alphabet) :
    (cs.map (alphabet.idxOf ·)).map (letter alphabet) = cs := by
  rw [List.map_map]
  exact (List.map_congr_left fun c hc => letter_idxOf (hcs c hc)).trans cs.map_id

end

/-! Case. -/

lemma ofNat_toNat_of_ascii {p : Char → Prop} (h : ∀ n < 128, p (Char.ofNat n)) {c : Char} (hc : c.toNat < 128) :
    p c := by
  have hcode := h c.toNat hc
  rwa [Char.ofNat_toNat] at hcode

lemma toLower_of_not_ascii {c : Char} (hc : 128 ≤ c.toNat) : c.toLower = c := by
  apply dif_neg
  rintro ⟨-, hhigh⟩
  have hle : c.toNat ≤ 90 := hhigh
  omega

lemma toUpper_toLower (c : Char) : c.toLower.toUpper = c.toUpper := by
  by_cases hc : c.toNat < 128
  · apply ofNat_toNat_of_ascii (p := fun c => c.toLower.toUpper = c.toUpper) _ hc
    decide +kernel
  · rw [toLower_of_not_ascii (Nat.not_lt.mp hc)]

/-- The characters that are printed in ASCII, the blank excepted. -/
def Printable (c : Char) : Prop := 33 ≤ c.toNat ∧ c.toNat ≤ 126

instance decidablePrintable (c : Char) : Decidable (Printable c) := inferInstanceAs (Decidable (_ ∧ _))

lemma printable_of_toLower {c : Char} (h : Printable c.toLower) : Printable c := by
  by_cases hc : c.toNat < 128
  · apply ofNat_toNat_of_ascii (p := fun c => Printable c.toLower → Printable c) _ hc h
    decide +kernel
  · rwa [toLower_of_not_ascii (Nat.not_lt.mp hc)] at h

end TrxSimulator.Foundations.Alphabets
