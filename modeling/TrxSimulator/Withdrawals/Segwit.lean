import TrxSimulator.Withdrawals.Base58
import TrxSimulator.Withdrawals.Bech32

/-! SegWit addresses: which texts are accepted, and what becomes of an accepted one when a character changes. -/

namespace TrxSimulator.Withdrawals.Segwit

open Foundations.Alphabets Foundations.Numerals Foundations.Registers AddressValidators Base58 Bech32

def specOf (witver : ℕ) : Spec := if witver = 0 then .bech32 else .bech32m

def segwitWords (witver : ℕ) (program : List UInt8) : List ℕ :=
  let data := witver :: programWords (byteValues program)
  data ++ createChecksum "bc".toList data (specOf witver)

def segwitEncode (witver : ℕ) (program : List UInt8) : List Char :=
  "bc1".toList ++ (segwitWords witver program).map (letter bech32Charset)

/-- The witness versions, and the lengths that a program of each may have. -/
def Admissible (witver : ℕ) (program : List UInt8) : Prop :=
  witver ≤ 16 ∧ 2 ≤ program.length ∧ program.length ≤ 40 ∧
    (witver = 0 → program.length = 20 ∨ program.length = 32)

/-! The text of an address. -/

lemma bech32Charset_length : bech32Charset.length = 32 := by decide

lemma bech32Charset_nodup : bech32Charset.Nodup := by decide

lemma toLower_charset {c : Char} (hc : c ∈ bech32Charset) : c.toLower = c ∧ c.toUpper.toLower = c ∧ Printable c := by
  have hall : (bech32Charset.all fun c => c.toLower = c ∧ c.toUpper.toLower = c ∧ Printable c) = true := by decide
  exact of_decide_eq_true (List.all_eq_true.mp hall c hc)

lemma one_not_mem : '1' ∉ bech32Charset := by decide

lemma letters_mem {words : List ℕ} (hw : ∀ w ∈ words, w < 32) :
    ∀ c ∈ words.map (letter bech32Charset), c ∈ bech32Charset := by
  intro c hc
  obtain ⟨w, hword, rfl⟩ := List.mem_map.mp hc
  exact letter_mem (by rw [bech32Charset_length]; exact hw w hword)

lemma map_idxOf_letters {words : List ℕ} (hw : ∀ w ∈ words, w < 32) :
    (words.map (letter bech32Charset)).map (bech32Charset.idxOf ·) = words := by
  apply map_idxOf_letter bech32Charset_nodup
  rwa [bech32Charset_length]

lemma idxOf_charset_lt {c : Char} (hc : c ∈ bech32Charset) : bech32Charset.idxOf c < 32 := by
  rw [← bech32Charset_length]
  exact List.idxOf_lt_length_iff.mpr hc

lemma rfind_eq_none {c : Char} {s : List Char} : rfind c s = none ↔ c ∉ s := by
  induction s with
  | nil => simp [rfind]
  | cons d s ih =>
    rw [rfind]
    cases hs : rfind c s with
    | none =>
      rw [hs] at ih
      have hc : c ∉ s := ih.mp rfl
      by_cases hd : d = c
      · simp [hd]
      · have hne : c ≠ d := fun h => hd h.symm
        simp [hd, hne, hc]
    | some i =>
      have hc : c ∈ s := by
        by_contra hnot
        rw [ih.mpr hnot] at hs
        simp at hs
      simp [hc]

lemma rfind_append {c : Char} {before after : List Char} (hc : c ∉ after) :
    rfind c (before ++ c :: after) = some before.length := by
  induction before with
  | nil => simp [rfind, rfind_eq_none.mpr hc]
  | cons d before ih => simp [rfind, ih]

lemma rfind_split {c : Char} {s : List Char} {pos : ℕ} (h : rfind c s = some pos) :
    pos < s.length ∧ s = s.take pos ++ c :: s.drop (pos + 1) := by
  induction s generalizing pos with
  | nil => simp [rfind] at h
  | cons d s ih =>
    rw [rfind] at h
    cases hs : rfind c s with
    | none =>
      simp only [hs] at h
      split at h
      next hd =>
        obtain rfl := Option.some.inj h
        simp [hd]
      next => simp at h
    | some i =>
      simp only [hs, Option.some.injEq] at h
      obtain ⟨hlt, hsplit⟩ := ih hs
      rw [← h]
      refine ⟨by simpa using hlt, ?_⟩
      simpa using hsplit

lemma verify_iff {hrp : List Char} {data : List ℕ} {spec : Spec} : bech32VerifyChecksum hrp data = some spec ↔
    bech32Polymod (bech32HrpExpand hrp ++ data) = spec.const := by
  have hne : Spec.bech32m.const ≠ Spec.bech32.const := by decide
  unfold bech32VerifyChecksum
  constructor
  · intro h
    dsimp only at h
    split at h
    next heq => rwa [← Option.some.inj h]
    next =>
      split at h
      next heq => rwa [← Option.some.inj h]
      next => simp at h
  · intro h
    cases spec with
    | bech32 => simp [h]
    | bech32m => simp [h, hne]

/-- What the raw decoder accepts: printable text of one case, at most 90 characters long, that reads as a prefix, the
separator and the letters of a body whose last six words verify. -/
lemma bech32DecodeRaw_iff {bech hrp : List Char} {data : List ℕ} {spec : Spec} :
    bech32DecodeRaw bech = some (hrp, data, spec) ↔
      (∀ c ∈ bech, Printable c) ∧ (bech.map Char.toLower = bech ∨ bech.map Char.toUpper = bech) ∧ bech.length ≤ 90 ∧
      hrp ≠ [] ∧ ∃ sums : List ℕ, sums.length = 6 ∧ (∀ w ∈ data ++ sums, w < 32) ∧
        bech.map Char.toLower = hrp ++ '1' :: (data ++ sums).map (letter bech32Charset) ∧
        bech32VerifyChecksum hrp (data ++ sums) = some spec := by
  unfold bech32DecodeRaw
  constructor
  · intro h
    split at h
    · simp at h
    next hprint =>
      split at h
      · simp at h
      next hcase =>
        simp only at h
        generalize hlow : bech.map Char.toLower = low at h hcase
        have hlength : low.length = bech.length := by rw [← hlow, List.length_map]
        cases hpos : rfind '1' low with
        | none => simp [hpos] at h
        | some pos =>
          simp only [hpos] at h
          split at h
          · simp at h
          next hbounds =>
            split at h
            · simp at h
            next hchars =>
              simp only [List.any_eq_true, decide_eq_true_eq] at hchars hprint
              push Not at hbounds hchars hprint
              obtain ⟨hlt, hsplit⟩ := rfind_split hpos
              obtain ⟨spec', hverify, hresult⟩ := Option.map_eq_some_iff.mp h
              simp only [Prod.mk.injEq] at hresult
              obtain ⟨rfl, rfl, rfl⟩ := hresult
              refine ⟨?_, ?_, by omega, ?_, ?_⟩
              · intro c hc
                have hrange := hprint c hc
                exact ⟨by omega, by omega⟩
              · by_contra hmixed
                push Not at hmixed
                exact hcase ⟨hmixed.1, hmixed.2⟩
              · intro hnil
                have hzero := congrArg List.length hnil
                rw [List.length_take, List.length_nil] at hzero
                omega
              · generalize hbody : (low.drop (pos + 1)).map (bech32Charset.idxOf ·) = body at hverify
                have hcount : body.length = low.length - (pos + 1) := by rw [← hbody, List.length_map, List.length_drop]
                refine ⟨body.drop (body.length - 6), ?_, ?_, ?_, ?_⟩
                · rw [List.length_drop]
                  omega
                · rw [List.take_append_drop, ← hbody]
                  intro w hw
                  obtain ⟨c, hc, rfl⟩ := List.mem_map.mp hw
                  exact idxOf_charset_lt (hchars c hc)
                · rw [List.take_append_drop, ← hbody, map_letter_idxOf hchars]
                  exact hsplit
                · rw [List.take_append_drop]
                  exact hverify
  · rintro ⟨hprint, hcase, hlen, hne, sums, hsums, hwords, hlow, hverify⟩
    have hletters := letters_mem hwords
    have hone : '1' ∉ (data ++ sums).map (letter bech32Charset) := fun h => one_not_mem (hletters _ h)
    have hlength : bech.length = hrp.length + (1 + (data.length + 6)) := by
      have hl := congrArg List.length hlow
      simp only [List.length_map, List.length_append, List.length_cons, hsums] at hl
      omega
    have hpos : 0 < hrp.length := List.length_pos_iff.mpr hne
    have hdrop : (hrp ++ '1' :: (data ++ sums).map (letter bech32Charset)).drop (hrp.length + 1) =
        (data ++ sums).map (letter bech32Charset) := by
      rw [← List.drop_drop, List.drop_left]
      rfl
    have hchars : ¬ (((data ++ sums).map (letter bech32Charset)).any (· ∉ bech32Charset)) = true := by
      intro hany
      obtain ⟨c, hc, hout⟩ := List.any_eq_true.mp hany
      exact of_decide_eq_true hout (hletters c hc)
    have hall : ¬ (bech.any fun c => c.toNat < 33 ∨ 126 < c.toNat) = true := by
      intro hany
      obtain ⟨c, hc, hbad⟩ := List.any_eq_true.mp hany
      have hrange := of_decide_eq_true hbad
      obtain ⟨hl, hr⟩ := hprint c hc
      omega
    have hmixed : ¬ (bech.map Char.toLower ≠ bech ∧ bech.map Char.toUpper ≠ bech) := by
      rintro ⟨hl, hu⟩
      exact hcase.elim hl hu
    have hbounds : ¬ (hrp.length < 1 ∨
        (hrp ++ '1' :: (data ++ sums).map (letter bech32Charset)).length < hrp.length + 7 ∨
        90 < (hrp ++ '1' :: (data ++ sums).map (letter bech32Charset)).length) := by
      rw [← hlow, List.length_map]
      omega
    have hbody : (data ++ sums).take ((data ++ sums).length - 6) = data := by
      rw [List.length_append, hsums, Nat.add_sub_cancel, List.take_left]
    rw [if_neg hall, if_neg hmixed]
    simp only [hlow, rfind_append hone, if_neg hbounds, hdrop, if_neg hchars, map_idxOf_letters hwords, List.take_left,
      hverify, Option.map_some, hbody]

/-! Acceptance. -/

lemma expand_bc_lt : ∀ w ∈ bech32HrpExpand "bc".toList, w < 32 := by decide

lemma segwit_data_lt {witver : ℕ} {program : List UInt8} (hv : witver ≤ 16) :
    ∀ w ∈ witver :: programWords (byteValues program), w < 32 := by
  obtain ⟨-, -, -, -, hwords⟩ := programWords_spec (byteValues_lt program)
  intro w hw
  cases List.mem_cons.mp hw with
  | inl h => omega
  | inr h => exact hwords w h

lemma createChecksum_length (hrp : List Char) (data : List ℕ) (spec : Spec) :
    (createChecksum hrp data spec).length = 6 :=
  length_fixed _ _ _

lemma createChecksum_lt (hrp : List Char) (data : List ℕ) (spec : Spec) : ∀ w ∈ createChecksum hrp data spec, w < 32 :=
  fixed_lt (by norm_num) _ _

lemma verify_bc_iff {data sums : List ℕ} (hdata : ∀ w ∈ data, w < 32) (hlen : sums.length = 6)
    (hsums : ∀ w ∈ sums, w < 32) (spec : Spec) :
    bech32VerifyChecksum "bc".toList (data ++ sums) = some spec ↔ sums = createChecksum "bc".toList data spec := by
  have hvalues : ∀ w ∈ bech32HrpExpand "bc".toList ++ data, w < 32 := by
    intro w hw
    cases List.mem_append.mp hw with
    | inl h => exact expand_bc_lt w h
    | inr h => exact hdata w h
  rw [verify_iff, ← List.append_assoc]
  exact polymod_eq_const_iff hvalues hlen hsums spec

lemma segwitWords_lt {witver : ℕ} {program : List UInt8} (hv : witver ≤ 16) :
    ∀ w ∈ segwitWords witver program, w < 32 := by
  intro w hw
  cases List.mem_append.mp hw with
  | inl h => exact segwit_data_lt hv w h
  | inr h => exact createChecksum_lt _ _ _ w h

lemma segwitWords_length (witver : ℕ) (program : List UInt8) :
    5 * (segwitWords witver program).length < 8 * program.length + 40 := by
  obtain ⟨pad, hpad, hcount, -⟩ := programWords_spec (byteValues_lt program)
  rw [byteValues, List.length_map] at hcount
  simp only [segwitWords, List.length_append, List.length_cons, createChecksum_length, byteValues]
  omega

lemma segwitEncode_printable {witver : ℕ} {program : List UInt8} (hv : witver ≤ 16) :
    ∀ c ∈ segwitEncode witver program, c.toLower = c ∧ c.toUpper.toLower = c ∧ Printable c := by
  intro c hc
  cases List.mem_append.mp hc with
  | inl h =>
    have hstart : ("bc1".toList.all fun c => c.toLower = c ∧ c.toUpper.toLower = c ∧ Printable c) = true := by decide
    exact of_decide_eq_true (List.all_eq_true.mp hstart c h)
  | inr h => exact toLower_charset (letters_mem (segwitWords_lt hv) c h)

lemma validate_decoded {address : String} {hrp : List Char} {witver : ℕ} {words : List ℕ} {spec : Spec}
    (h : bech32DecodeRaw address.toList = some (hrp, witver :: words, spec)) (hwords : ∀ w ∈ words, w < 32) :
    (validateBtcSegwitAddress address).1 = true ↔ hrp = "bc".toList ∧ spec = specOf witver ∧
      ∃ program, Admissible witver program ∧ words = programWords (byteValues program) := by
  unfold validateBtcSegwitAddress
  simp only [h]
  constructor
  · intro haccept
    split at haccept
    · simp at haccept
    next hstart =>
      push Not at hstart
      cases hconv : convertbits words 5 8 false with
      | none => simp [hconv] at haccept
      | some program =>
        obtain ⟨hbytes, hregroup⟩ := (convertbits_iff hwords).mp hconv
        have hvalues := byteValues_ofNat hbytes
        have hlen : (program.map UInt8.ofNat).length = program.length := List.length_map _
        simp only [hconv] at haccept
        split at haccept
        · simp at haccept
        next hbounds =>
          push Not at hbounds
          refine ⟨hstart.1, ?_, program.map UInt8.ofNat, ?_, by rw [hvalues, hregroup]⟩
          · unfold specOf
            split at haccept
            next hzero =>
              split at haccept
              · simp at haccept
              next hv0 =>
                push Not at hv0
                rw [if_pos hzero, hv0.1]
            next hpos =>
              split at haccept
              · simp at haccept
              next hspec =>
                rw [if_neg hpos]
                exact not_not.mp hspec
          · refine ⟨hstart.2, by omega, by omega, fun hzero => ?_⟩
            rw [if_pos hzero] at haccept
            split at haccept
            · simp at haccept
            next hv0 =>
              push Not at hv0
              omega
  · rintro ⟨rfl, rfl, program, ⟨hv, hlow, hhigh, hzero⟩, rfl⟩
    have hconv := (convertbits_iff hwords).mpr ⟨byteValues_lt program, rfl⟩
    have hlen : (byteValues program).length = program.length := List.length_map _
    have hstart : ¬ ("bc".toList ≠ "bc".toList ∨ 16 < witver) := by
      rintro (hne | hgt)
      · exact hne rfl
      · omega
    have hbounds : ¬ ((byteValues program).length < 2 ∨ 40 < (byteValues program).length) := by omega
    simp only [if_neg hstart, hconv, if_neg hbounds]
    by_cases h0 : witver = 0
    · have hgood : ¬ (specOf witver ≠ .bech32 ∨
          (byteValues program).length ≠ 20 ∧ (byteValues program).length ≠ 32) := by
        rintro (hne | hsize)
        · exact hne (if_pos h0)
        · have hv0 := hzero h0
          omega
      rw [if_pos h0, if_neg hgood]
    · have hgood : ¬ specOf witver ≠ .bech32m := not_not.mpr (if_neg h0)
      rw [if_neg h0, if_neg hgood]
      split <;> rfl

/-- An address is accepted exactly if it is, in one of the two cases, the encoding of an admissible version and
program. -/
lemma validateBtcSegwitAddress_iff {address : String} : (validateBtcSegwitAddress address).1 = true ↔
    (address.toList.map Char.toLower = address.toList ∨ address.toList.map Char.toUpper = address.toList) ∧
      ∃ witver program, Admissible witver program ∧ address.toList.map Char.toLower = segwitEncode witver program := by
  constructor
  · intro h
    cases hraw : bech32DecodeRaw address.toList with
    | none =>
      rw [validateBtcSegwitAddress, hraw] at h
      cases h
    | some decoded =>
      obtain ⟨hrp, data, spec⟩ := decoded
      cases data with
      | nil =>
        rw [validateBtcSegwitAddress, hraw] at h
        cases h
      | cons witver words =>
        obtain ⟨-, hcase, -, -, sums, hsums, hlt, hlow, hverify⟩ := bech32DecodeRaw_iff.mp hraw
        have hdata : ∀ w ∈ witver :: words, w < 32 := fun w hw => hlt w (List.mem_append_left _ hw)
        have hwords : ∀ w ∈ words, w < 32 := fun w hw => hdata w (List.mem_cons_of_mem _ hw)
        obtain ⟨rfl, rfl, program, hadmissible, rfl⟩ := (validate_decoded hraw hwords).mp h
        have hchecksum := (verify_bc_iff hdata hsums (fun w hw => hlt w (List.mem_append_right _ hw)) _).mp hverify
        refine ⟨hcase, witver, program, hadmissible, ?_⟩
        rw [hlow, hchecksum]
        rfl
  · rintro ⟨hcase, witver, program, hadmissible, hlow⟩
    have hdata := @segwit_data_lt _ program hadmissible.1
    have hraw : bech32DecodeRaw address.toList =
        some ("bc".toList, witver :: programWords (byteValues program), specOf witver) := by
      apply bech32DecodeRaw_iff.mpr
      refine ⟨?_, hcase, ?_, by decide, _, createChecksum_length _ _ _, segwitWords_lt hadmissible.1, hlow, ?_⟩
      · intro c hc
        apply printable_of_toLower
        refine (@segwitEncode_printable _ program hadmissible.1 _ ?_).2.2
        rw [← hlow]
        exact List.mem_map_of_mem hc
      · have hl := congrArg List.length hlow
        have hw := segwitWords_length witver program
        have hp := hadmissible.2.2.1
        have hstart : "bc1".toList.length = 3 := rfl
        simp only [List.length_map, segwitEncode, List.length_append, hstart] at hl
        omega
      · exact (verify_bc_iff hdata (createChecksum_length _ _ _) (createChecksum_lt _ _ _) _).mpr rfl
    apply (validate_decoded hraw fun w hw => hdata w (List.mem_cons_of_mem _ hw)).mpr
    exact ⟨rfl, rfl, program, hadmissible, rfl⟩

lemma segwitWords_injective {witver witver' : ℕ} {program program' : List UInt8} (h : Admissible witver program)
    (h' : Admissible witver' program') (heq : segwitEncode witver program = segwitEncode witver' program') :
    segwitWords witver program = segwitWords witver' program' := by
  have hletters := List.append_cancel_left heq
  rw [← map_idxOf_letters (segwitWords_lt h.1), ← map_idxOf_letters (segwitWords_lt h'.1), hletters]

lemma segwitEncode_injective {witver witver' : ℕ} {program program' : List UInt8} (h : Admissible witver program)
    (h' : Admissible witver' program') (heq : segwitEncode witver program = segwitEncode witver' program') :
    witver = witver' ∧ program = program' := by
  have hwords := segwitWords_injective h h' heq
  have hlen : (createChecksum "bc".toList (witver :: programWords (byteValues program)) (specOf witver)).length =
      (createChecksum "bc".toList (witver' :: programWords (byteValues program')) (specOf witver')).length := by
    rw [createChecksum_length, createChecksum_length]
  obtain ⟨hver, hprog⟩ := List.cons.inj (List.append_inj_left' hwords hlen)
  refine ⟨hver, ?_⟩
  have hconv := (convertbits_iff fun w hw => segwit_data_lt h.1 w (List.mem_cons_of_mem _ hw)).mpr
    ⟨byteValues_lt program, rfl⟩
  have hconv' := (convertbits_iff fun w hw => segwit_data_lt h'.1 w (List.mem_cons_of_mem _ hw)).mpr
    ⟨byteValues_lt program', rfl⟩
  rw [hprog, hconv'] at hconv
  rw [← ofNat_byteValues program, ← ofNat_byteValues program', Option.some.inj hconv]

/-! One changed character. -/

lemma polymod_segwit {witver : ℕ} {program : List UInt8} (hv : witver ≤ 16) :
    bech32Polymod (bech32HrpExpand "bc".toList ++ segwitWords witver program) = (specOf witver).const := by
  apply verify_iff.mp
  exact (verify_bc_iff (segwit_data_lt hv) (createChecksum_length _ _ _) (createChecksum_lt _ _ _) _).mpr rfl

lemma segwit_words_of_split {witver : ℕ} {program : List UInt8} (hv : witver ≤ 16) {before after : List Char} {c : Char}
    (hpos : 3 ≤ before.length) (hlow : (before ++ c :: after).map Char.toLower = segwitEncode witver program) :
    c.toLower ∈ bech32Charset ∧ segwitWords witver program =
      ((before.drop 3).map Char.toLower).map (bech32Charset.idxOf ·) ++
        bech32Charset.idxOf c.toLower :: (after.map Char.toLower).map (bech32Charset.idxOf ·) := by
  have hbody : (segwitWords witver program).map (letter bech32Charset) =
      (before.drop 3).map Char.toLower ++ c.toLower :: after.map Char.toLower := by
    have hdrop := congrArg (List.drop 3) hlow
    have hstart : "bc1".toList.length = 3 := rfl
    rw [List.map_append, List.drop_append_of_le_length (by simpa using hpos), ← List.map_drop] at hdrop
    rw [segwitEncode, ← hstart, List.drop_left] at hdrop
    exact hdrop.symm
  constructor
  · apply letters_mem (@segwitWords_lt _ program hv)
    rw [hbody]
    simp
  · rw [← map_idxOf_letters (@segwitWords_lt _ program hv), hbody]
    simp

lemma const_xor (spec spec' : Spec) : spec.const ^^^ spec'.const = 0 ∨
    spec.const ^^^ spec'.const = Spec.bech32.const ^^^ Spec.bech32m.const := by
  cases spec <;> cases spec' <;> decide

/-- Two accepted texts never differ in a single character of their data parts. -/
lemma changed_rejected {address : String} (h : (validateBtcSegwitAddress address).1 = true)
    {before after : List Char} {c c' : Char} (hsplit : address.toList = before ++ c :: after)
    (hpos : 3 ≤ before.length) (hne : c'.toLower ≠ c.toLower) :
    (validateBtcSegwitAddress (String.ofList (before ++ c' :: after))).1 = false := by
  by_contra haccept
  obtain ⟨-, witver, program, hadm, hlow⟩ := validateBtcSegwitAddress_iff.mp h
  obtain ⟨-, witver', program', hadm', hlow'⟩ := validateBtcSegwitAddress_iff.mp (Bool.eq_true_of_not_eq_false haccept)
  rw [hsplit] at hlow
  rw [String.toList_ofList] at hlow'
  obtain ⟨hc, hwords⟩ := segwit_words_of_split hadm.1 hpos hlow
  obtain ⟨hc', hwords'⟩ := segwit_words_of_split hadm'.1 hpos hlow'
  generalize hx : ((before.drop 3).map Char.toLower).map (bech32Charset.idxOf ·) = xs at hwords hwords'
  generalize hy : (after.map Char.toLower).map (bech32Charset.idxOf ·) = ys at hwords hwords'
  generalize hv : bech32Charset.idxOf c.toLower = v at hwords
  generalize hv' : bech32Charset.idxOf c'.toLower = v' at hwords'
  have hvne : v ^^^ v' ≠ 0 := by
    intro hzero
    apply hne
    have heq : v = v' := by
      calc v = v ^^^ v' ^^^ v' := by rw [Nat.xor_assoc, Nat.xor_self, Nat.xor_zero]
        _ = v' := by rw [hzero, Nat.zero_xor]
    rw [← letter_idxOf hc, ← letter_idxOf hc', hv, hv', heq]
  have hvlt : v ^^^ v' < 32 := by
    have h32 : v < 2 ^ 5 := hv ▸ idxOf_charset_lt hc
    have h32' : v' < 2 ^ 5 := hv' ▸ idxOf_charset_lt hc'
    exact Nat.xor_lt_two_pow h32 h32'
  have hpoly := @polymod_segwit _ program hadm.1
  have hpoly' := @polymod_segwit _ program' hadm'.1
  rw [hwords, bech32Polymod, ← List.append_assoc, feed_replace bech32Step_linear 1 v v'] at hpoly
  rw [hwords', bech32Polymod, ← List.append_assoc] at hpoly'
  rw [hpoly', bech32Step_small (by norm_num) hvlt, Nat.zero_mul, Nat.zero_add] at hpoly
  have hdrift : drift bech32Step ys.length (v ^^^ v') = (specOf witver).const ^^^ (specOf witver').const := by
    rw [← hpoly, Nat.xor_assoc, Nat.xor_self, Nat.xor_zero]
  have hshort : ys.length < 90 := by
    have hcount := segwitWords_length witver program
    have hp := hadm.2.2.1
    rw [hwords, List.length_append, List.length_cons] at hcount
    omega
  obtain ⟨hnot, hnotm⟩ := noticed_drift (noticed_word _ hvlt hvne) hshort
  rw [hdrift] at hnot hnotm
  exact (const_xor _ _).elim hnot hnotm

lemma validateBtcAddress_segwit (sha256 : List UInt8 → Digest) {address : String}
    (h : "bc1".toList <+: address.toList.map Char.toLower) :
    validateBtcAddress sha256 address = validateBtcSegwitAddress address := by
  have hlegacy : ¬ (address.toList.head? = some '1' ∨ address.toList.head? = some '3') := by
    obtain ⟨rest, hrest⟩ := h
    have hhead := congrArg List.head? hrest
    have hb : ("bc1".toList ++ rest).head? = some 'b' := rfl
    rw [List.head?_map, hb] at hhead
    rintro (h1 | h3)
    · rw [h1] at hhead
      exact absurd hhead (by decide)
    · rw [h3] at hhead
      exact absurd hhead (by decide)
  rw [validateBtcAddress, if_neg hlegacy, if_pos (.inl h)]

theorem segwit_addresses :
    (∀ witver program, Admissible witver program →
      (validateBtcSegwitAddress (String.ofList (segwitEncode witver program))).1 = true ∧
      (validateBtcSegwitAddress (String.ofList ((segwitEncode witver program).map Char.toUpper))).1 = true) ∧
    (∀ address, (validateBtcSegwitAddress address).1 = true →
      (address.toList.map Char.toLower = address.toList ∨ address.toList.map Char.toUpper = address.toList) ∧
      ∃! e : ℕ × List UInt8, Admissible e.1 e.2 ∧ address.toList.map Char.toLower = segwitEncode e.1 e.2) ∧
    (∀ address, (validateBtcSegwitAddress address).1 = true →
      ∀ case, case = Char.toLower ∨ case = Char.toUpper → address.toList.map case = address.toList →
      ∀ before c after, address.toList = before ++ c :: after → 3 ≤ before.length →
      ∀ c' ∈ bech32Charset.map case, c' ≠ c →
        (validateBtcSegwitAddress (String.ofList (before ++ c' :: after))).1 = false) ∧
    ∀ sha256 address, "bc1".toList <+: address.toList.map Char.toLower →
      validateBtcAddress sha256 address = validateBtcSegwitAddress address := by
  refine ⟨?_, ?_, ?_, fun sha256 address h => validateBtcAddress_segwit sha256 h⟩
  · intro witver program hadm
    have hchars := @segwitEncode_printable _ program hadm.1
    have hlower : (segwitEncode witver program).map Char.toLower = segwitEncode witver program :=
      (List.map_congr_left fun c hc => (hchars c hc).1).trans (List.map_id _)
    have hupper : ((segwitEncode witver program).map Char.toUpper).map Char.toLower = segwitEncode witver program := by
      rw [List.map_map]
      exact (List.map_congr_left fun c hc => (hchars c hc).2.1).trans (List.map_id _)
    constructor
    · apply validateBtcSegwitAddress_iff.mpr
      rw [String.toList_ofList]
      exact ⟨.inl hlower, witver, program, hadm, hlower⟩
    · apply validateBtcSegwitAddress_iff.mpr
      rw [String.toList_ofList]
      refine ⟨.inr ?_, witver, program, hadm, hupper⟩
      calc ((segwitEncode witver program).map Char.toUpper).map Char.toUpper
          = (((segwitEncode witver program).map Char.toUpper).map Char.toLower).map Char.toUpper := by
            simp only [List.map_map, Function.comp_def, toUpper_toLower]
        _ = (segwitEncode witver program).map Char.toUpper := by rw [hupper]
  · intro address h
    obtain ⟨hcase, witver, program, hadm, hlow⟩ := validateBtcSegwitAddress_iff.mp h
    refine ⟨hcase, ⟨witver, program⟩, ⟨hadm, hlow⟩, ?_⟩
    rintro ⟨witver', program'⟩ ⟨hadm', hlow'⟩
    obtain ⟨rfl, rfl⟩ := segwitEncode_injective hadm' hadm (hlow'.symm.trans hlow)
    rfl
  · intro address h case hcase hsame before c after hsplit hpos c' hc' hne
    apply changed_rejected h hsplit hpos
    have hc : case c = c := by
      have hmap := hsame
      rw [hsplit, List.map_append, List.map_cons] at hmap
      exact (List.cons.inj (List.append_inj_right hmap (by simp))).1
    obtain ⟨d, hd, rfl⟩ := List.mem_map.mp hc'
    cases hcase with
    | inl hlower =>
      subst hlower
      have hd' : d.toLower = d := (toLower_charset hd).1
      simp only [hd', hc] at hne ⊢
      exact hne
    | inr hupper =>
      subst hupper
      rw [(toLower_charset hd).2.1]
      intro heq
      apply hne
      rw [heq, toUpper_toLower, hc]

end TrxSimulator.Withdrawals.Segwit
