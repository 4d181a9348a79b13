import Mathlib.Data.Nat.Size
import TrxSimulator.Foundations.Alphabets
import TrxSimulator.Withdrawals.AddressValidators

/-! Base58Check addresses are numerals: the decoder rewrites a numeral of base 58 in base 256, and the encoder, written
here as the standard describes it, is its inverse. -/

namespace TrxSimulator.Withdrawals.Base58

open Foundations.Alphabets Foundations.Numerals AddressValidators

def byteValues (bytes : List UInt8) : List ℕ := bytes.map UInt8.toNat

def b58encode (bytes : List UInt8) : String :=
  String.ofList ((rebase 256 58 (byteValues bytes)).map (letter b58Alphabet))

lemma b58Alphabet_length : b58Alphabet.length = 58 := by decide

lemma b58Alphabet_nodup : b58Alphabet.Nodup := by decide

lemma idxOf_lt {c : Char} (hc : c ∈ b58Alphabet) : b58Alphabet.idxOf c < 58 := by
  rw [← b58Alphabet_length]
  exact List.idxOf_lt_length_iff.mpr hc

lemma idxOf_eq_zero {c : Char} : b58Alphabet.idxOf c = 0 ↔ c = '1' := by
  rw [show b58Alphabet = '1' :: b58Alphabet.tail by decide, List.idxOf_cons]
  by_cases hc : c = '1'
  · simp [hc]
  · have hne : ('1' == c) = false := by simpa using fun h => hc h.symm
    simp [hne, hc]

lemma byteValues_lt (bytes : List UInt8) : ∀ d ∈ byteValues bytes, d < 256 := by
  intro d hd
  obtain ⟨byte, -, rfl⟩ := List.mem_map.mp hd
  exact byte.toNat_lt

lemma byteValues_ofNat {ds : List ℕ} (hd : ∀ d ∈ ds, d < 256) : byteValues (ds.map UInt8.ofNat) = ds := by
  rw [byteValues, List.map_map]
  refine (List.map_congr_left fun d h => ?_).trans ds.map_id
  simpa using Nat.mod_eq_of_lt (hd d h)

lemma ofNat_byteValues (bytes : List UInt8) : (byteValues bytes).map UInt8.ofNat = bytes := by
  simp [byteValues, Function.comp_def]

lemma toBytes_size {n : ℕ} (hn : 0 < n) : toBytes ((n.size + 7) / 8) n = (numeral 256 n).map UInt8.ofNat := by
  have hsize : 0 < n.size := Nat.size_pos.mpr hn
  obtain ⟨k, hk⟩ : ∃ k, (n.size + 7) / 8 = k + 1 := ⟨(n.size + 7) / 8 - 1, by omega⟩
  have hlow : 256 ^ k ≤ n := by
    rw [show 256 = 2 ^ 8 by norm_num, ← pow_mul]
    exact Nat.lt_size.mp (by omega)
  have hhigh : n < 256 ^ (k + 1) := by
    rw [show 256 = 2 ^ 8 by norm_num, ← pow_mul]
    exact Nat.size_le.mp (by omega)
  rw [toBytes, hk, numeral_eq_fixed (by norm_num) hlow hhigh]

lemma takeWhile_map_idxOf (cs : List Char) :
    ((cs.map (b58Alphabet.idxOf ·)).takeWhile (· = 0)) =
      List.replicate (cs.length - (cs.dropWhile (· = '1')).length) 0 := by
  induction cs with
  | nil => rfl
  | cons c cs ih =>
    by_cases hc : c = '1'
    · have hidx : b58Alphabet.idxOf c = 0 := idxOf_eq_zero.mpr hc
      have hle : (cs.dropWhile (· = '1')).length ≤ cs.length := (List.dropWhile_sublist _).length_le
      rw [List.map_cons, List.takeWhile_cons_of_pos (by simpa using hidx), ih, hidx,
        List.dropWhile_cons_of_pos (by simpa using hc), List.length_cons, Nat.sub_add_comm hle, List.replicate_succ]
    · have hidx : b58Alphabet.idxOf c ≠ 0 := fun h => hc (idxOf_eq_zero.mp h)
      simp [hidx, hc]

lemma b58decode_eq_some {s : String} {bytes : List UInt8} : b58decode s = some bytes ↔
    s.toList ≠ [] ∧ (∀ c ∈ s.toList, c ∈ b58Alphabet) ∧
      (rebase 58 256 (s.toList.map (b58Alphabet.idxOf ·))).map UInt8.ofNat = bytes := by
  have hvalue : s.toList.foldl (fun n c => n * 58 + b58Alphabet.idxOf c) 0 =
      value 58 (s.toList.map (b58Alphabet.idxOf ·)) := by rw [value, List.foldl_map]
  have hbody : ∀ n, (if 0 < n then toBytes ((n.size + 7) / 8) n else []) = (numeral 256 n).map UInt8.ofNat := by
    intro n
    split
    · exact toBytes_size ‹_›
    · have hn : n = 0 := by omega
      simp [hn, numeral]
  unfold b58decode
  split
  next hbad =>
    simp only [reduceCtorEq, false_iff, not_and]
    intro hne hall
    cases hbad with
    | inl hnil => exact absurd hnil hne
    | inr hany =>
      obtain ⟨c, hc, hout⟩ := List.any_eq_true.mp hany
      exact absurd (hall c hc) (of_decide_eq_true hout)
  next hgood =>
    have hall : ∀ c ∈ s.toList, c ∈ b58Alphabet := by simpa using (not_or.mp hgood).2
    simp only [hvalue, hbody, rebase, takeWhile_map_idxOf, List.map_append, List.map_replicate, Option.some.injEq]
    exact ⟨fun h => ⟨(not_or.mp hgood).1, hall, h⟩, fun h => h.2.2⟩

lemma encode_chars {bytes : List UInt8} : ∀ c ∈ (b58encode bytes).toList, c ∈ b58Alphabet := by
  intro c hc
  rw [b58encode, String.toList_ofList] at hc
  obtain ⟨d, hd, rfl⟩ := List.mem_map.mp hc
  apply letter_mem
  rw [b58Alphabet_length]
  exact rebase_lt (by norm_num) 256 _ d hd

lemma map_idxOf_encode (bytes : List UInt8) :
    (b58encode bytes).toList.map (b58Alphabet.idxOf ·) = rebase 256 58 (byteValues bytes) := by
  rw [b58encode, String.toList_ofList]
  apply map_idxOf_letter b58Alphabet_nodup
  rw [b58Alphabet_length]
  exact rebase_lt (by norm_num) 256 _

/-- The decoder accepts the encodings of the non-empty byte strings, and nothing else. -/
lemma b58decode_iff {s : String} {bytes : List UInt8} :
    b58decode s = some bytes ↔ bytes ≠ [] ∧ s = b58encode bytes := by
  rw [b58decode_eq_some]
  constructor
  · rintro ⟨hne, hall, rfl⟩
    have hdigits : ∀ d ∈ s.toList.map (b58Alphabet.idxOf ·), d < 58 := by
      intro d hd
      obtain ⟨c, hc, rfl⟩ := List.mem_map.mp hd
      exact idxOf_lt (hall c hc)
    constructor
    · simpa using rebase_ne_nil (by simpa using hne) (by norm_num) hdigits 256
    · rw [b58encode, byteValues_ofNat (rebase_lt (by norm_num) 58 _), rebase_rebase (by norm_num) hdigits,
        map_letter_idxOf hall, String.ofList_toList]
  · rintro ⟨hne, rfl⟩
    refine ⟨?_, encode_chars, ?_⟩
    · have hvalues : byteValues bytes ≠ [] := by simpa [byteValues] using hne
      have hrebase := rebase_ne_nil hvalues (by norm_num) (byteValues_lt bytes) 58
      simpa [b58encode] using hrebase
    · rw [map_idxOf_encode, rebase_rebase (by norm_num) (byteValues_lt bytes), ofNat_byteValues]

/-! The first character of an address. -/

lemma head_encode {first : UInt8} {rest : List UInt8} {v d : ℕ} (hfirst : first.toNat = v) (hv : 0 < v)
    (hlen : rest.length = 24) (hpos : 0 < d) (hd : d < 58) (hlow : d * 58 ^ 33 ≤ v * 256 ^ 24)
    (hhigh : (v + 1) * 256 ^ 24 ≤ (d + 1) * 58 ^ 33) :
    (b58encode (first :: rest)).toList.head? = some (letter b58Alphabet d) := by
  have hvalue : value 256 (byteValues (first :: rest)) = v * 256 ^ 24 + value 256 (byteValues rest) := by
    rw [byteValues, List.map_cons, value_cons, List.length_map, hlen, hfirst]
    rfl
  have hrest : value 256 (byteValues rest) < 256 ^ 24 := by
    have hlt := value_lt (by norm_num) (byteValues_lt rest)
    rwa [byteValues, List.length_map, hlen] at hlt
  have hzero : (byteValues (first :: rest)).takeWhile (· = 0) = [] := by
    apply takeWhile_of_head
    rw [byteValues, List.map_cons, List.head?_cons, hfirst]
    simpa using hv.ne'
  have hhead : (numeral 58 (value 256 (byteValues (first :: rest)))).head? = some d := by
    apply head_numeral_of_between (by norm_num) hpos hd
    · rw [hvalue]
      exact hlow.trans (Nat.le_add_right _ _)
    · rw [hvalue]
      exact lt_of_lt_of_le (by omega) hhigh
  rw [b58encode, String.toList_ofList, rebase, hzero, List.nil_append, List.head?_map, hhead]
  rfl

lemma head_encode_zero (rest : List UInt8) : (b58encode (0 :: rest)).toList.head? = some '1' := by
  rw [b58encode, String.toList_ofList, rebase, byteValues, List.map_cons, List.takeWhile_cons_of_pos (by decide),
    List.cons_append, List.map_cons, List.head?_cons]
  rfl

/-- The version bytes and the characters that addresses of 25 bytes start with. -/
lemma first_character {payload tail : List UInt8} (hlen : payload.length = 21) (htail : tail.length = 4) :
    (payload.head? = some 0x41 → (b58encode (payload ++ tail)).toList.head? = some 'T') ∧
    (payload.head? = some 0x00 → (b58encode (payload ++ tail)).toList.head? = some '1') ∧
    (payload.head? = some 0x05 → (b58encode (payload ++ tail)).toList.head? = some '3') := by
  cases payload with
  | nil => simp at hlen
  | cons first payload =>
    have hrest : (payload ++ tail).length = 24 := by
      simp only [List.length_append, htail]
      simpa using hlen
    simp only [List.head?_cons, Option.some.injEq, List.cons_append]
    refine ⟨?_, ?_, ?_⟩
    · rintro rfl
      exact head_encode (v := 65) (d := 26) rfl (by norm_num) hrest (by norm_num) (by norm_num) (by norm_num)
        (by norm_num)
    · rintro rfl
      exact head_encode_zero _
    · rintro rfl
      exact head_encode (v := 5) (d := 2) rfl (by norm_num) hrest (by norm_num) (by norm_num) (by norm_num)
        (by norm_num)

/-! The checked decoder. -/

section

variable {sha256 : List UInt8 → Digest}

lemma length_checksum (payload : List UInt8) : (checksum sha256 payload).length = 4 := by
  simp [checksum, (sha256 (sha256 payload).bytes).length_bytes]

lemma b58checkDecode_iff {s : String} {payload : List UInt8} : b58checkDecode sha256 s 25 = some payload ↔
    payload.length = 21 ∧ s = b58encode (payload ++ checksum sha256 payload) := by
  unfold b58checkDecode
  constructor
  · intro h
    cases hraw : b58decode s with
    | none => simp [hraw] at h
    | some raw =>
      obtain ⟨-, rfl⟩ := b58decode_iff.mp hraw
      simp only [hraw] at h
      split at h
      · simp at h
      next hlen =>
        have hlen25 : raw.length = 25 := not_not.mp hlen
        split at h
        next hsum =>
          obtain rfl := Option.some.inj h
          refine ⟨by simp [hlen25], ?_⟩
          rw [← hsum, List.take_append_drop]
        next => simp at h
  · rintro ⟨hlen, rfl⟩
    have hne : payload ++ checksum sha256 payload ≠ [] := by
      intro hnil
      have hzero := congrArg List.length hnil
      simp [hlen] at hzero
    have hfull : (payload ++ checksum sha256 payload).length = 25 := by
      rw [List.length_append, hlen, length_checksum]
    have htake : (payload ++ checksum sha256 payload).take (25 - 4) = payload := List.take_left' hlen
    have hdrop : (payload ++ checksum sha256 payload).drop (25 - 4) = checksum sha256 payload := List.drop_left' hlen
    simp [b58decode_iff.mpr ⟨hne, rfl⟩, hfull, htake, hdrop]

lemma validateTrc20Address_iff {address : String} : validateTrc20Address sha256 address = true ↔
    ∃ payload : List UInt8, payload.length = 21 ∧ payload.head? = some 0x41 ∧
      address = b58encode (payload ++ checksum sha256 payload) := by
  unfold validateTrc20Address
  constructor
  · intro h
    split at h
    next hhead =>
      cases hcheck : b58checkDecode sha256 address 25 with
      | none => simp [hcheck] at h
      | some payload =>
        obtain ⟨hlen, haddress⟩ := b58checkDecode_iff.mp hcheck
        exact ⟨payload, hlen, by simpa [hcheck] using h, haddress⟩
    next => simp at h
  · rintro ⟨payload, hlen, hversion, haddress⟩
    have hcheck := b58checkDecode_iff.mpr ⟨hlen, haddress⟩
    have hhead : address.toList.head? = some 'T' := by
      rw [haddress]
      exact (first_character hlen (length_checksum payload)).1 hversion
    simp [hhead, hcheck, hversion]

lemma validateBtcBase58Address_iff {address : String} : (validateBtcBase58Address sha256 address).1 = true ↔
    ∃ payload : List UInt8, payload.length = 21 ∧ (payload.head? = some 0x00 ∨ payload.head? = some 0x05) ∧
      address = b58encode (payload ++ checksum sha256 payload) := by
  unfold validateBtcBase58Address
  constructor
  · intro h
    cases hcheck : b58checkDecode sha256 address 25 with
    | none => simp [hcheck] at h
    | some payload =>
      obtain ⟨hlen, haddress⟩ := b58checkDecode_iff.mp hcheck
      simp only [hcheck] at h
      split at h
      next hzero => exact ⟨payload, hlen, .inl hzero, haddress⟩
      next =>
        split at h
        next hfive => exact ⟨payload, hlen, .inr hfive, haddress⟩
        next => simp at h
  · rintro ⟨payload, hlen, hversion, haddress⟩
    have hcheck := b58checkDecode_iff.mpr ⟨hlen, haddress⟩
    cases hversion with
    | inl hzero => simp [hcheck, hzero]
    | inr hfive => simp [hcheck, hfive]

/-- An address that starts with the character of a legacy Bitcoin address is accepted if it is the encoding of a payload
with one of the two legacy versions and its checksum, and only then. -/
lemma validateBtcAddress_iff {address : String}
    (hhead : address.toList.head? = some '1' ∨ address.toList.head? = some '3') :
    (validateBtcAddress sha256 address).1 = true ↔
      ∃ payload : List UInt8, payload.length = 21 ∧ (payload.head? = some 0x00 ∨ payload.head? = some 0x05) ∧
        address = b58encode (payload ++ checksum sha256 payload) := by
  rw [validateBtcAddress, if_pos hhead]
  exact validateBtcBase58Address_iff

lemma validateBtcAddress_encode {payload : List UInt8} (hlen : payload.length = 21)
    (hversion : payload.head? = some 0x00 ∨ payload.head? = some 0x05) :
    (validateBtcAddress sha256 (b58encode (payload ++ checksum sha256 payload))).1 = true := by
  have hsum : (checksum sha256 payload).length = 4 := length_checksum payload
  have hfirst := first_character hlen hsum
  apply (validateBtcAddress_iff (hversion.imp hfirst.2.1 hfirst.2.2)).mpr
  exact ⟨payload, hlen, hversion, rfl⟩

end

theorem base58check_addresses (sha256 : List UInt8 → Digest) :
    (∀ address, validateTrc20Address sha256 address = true ↔
      ∃ payload : List UInt8, payload.length = 21 ∧ payload.head? = some 0x41 ∧
        address = b58encode (payload ++ checksum sha256 payload)) ∧
    (∀ address : String, (address.toList.head? = some '1' ∨ address.toList.head? = some '3') →
      ((validateBtcAddress sha256 address).1 = true ↔
        ∃ payload : List UInt8, payload.length = 21 ∧ (payload.head? = some 0x00 ∨ payload.head? = some 0x05) ∧
          address = b58encode (payload ++ checksum sha256 payload))) ∧
    (∀ bytes, bytes ≠ [] → b58decode (b58encode bytes) = some bytes) ∧
    (∀ s s' bytes, b58decode s = some bytes → b58decode s' = some bytes → s = s') ∧
    (∀ payload : List UInt8, payload.length = 21 → (payload.head? = some 0x00 ∨ payload.head? = some 0x05) →
      (validateBtcAddress sha256 (b58encode (payload ++ checksum sha256 payload))).1 = true) := by
  refine ⟨fun address => validateTrc20Address_iff, fun address => validateBtcAddress_iff, ?_, ?_, ?_⟩
  · intro bytes hne
    exact b58decode_iff.mpr ⟨hne, rfl⟩
  · intro s s' bytes hs hs'
    exact (b58decode_iff.mp hs).2.trans (b58decode_iff.mp hs').2.symm
  · intro payload hlen hversion
    exact validateBtcAddress_encode hlen hversion

/-- The empty byte string is encoded by the empty text, which the decoder refuses. -/
theorem empty_not_decoded : b58encode [] = "" ∧ b58decode (b58encode []) = none := by
  decide +kernel

end TrxSimulator.Withdrawals.Base58
