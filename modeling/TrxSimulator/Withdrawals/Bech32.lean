import TrxSimulator.Withdrawals.AddressValidators

/-! The two halves of a Bech32 encoding. The loop that regroups bits keeps the number they spell, and the checksum
register is linear in exclusive or; the encoder is written here as the standard describes it. -/

namespace TrxSimulator.Withdrawals.Bech32

open Foundations.Numerals Foundations.Registers AddressValidators

/-- The bits of the program in groups of five, filled up with zeros. -/
def programWords (program : List ℕ) : List ℕ :=
  let count := (8 * program.length + 4) / 5
  fixed 32 count (value 256 program * 2 ^ (5 * count - 8 * program.length))

def createChecksum (hrp : List Char) (data : List ℕ) (spec : Spec) : List ℕ :=
  fixed 32 6 (bech32Polymod (bech32HrpExpand hrp ++ data ++ List.replicate 6 0) ^^^ spec.const)

/-! Regrouping bits. -/

/-- The groups written so far and the bits that wait spell the number that has been read. -/
structure Regrouped (fromBits toBits : ℕ) (data : List ℕ) (s : Bits) : Prop where
  value_eq : value (2 ^ fromBits) data = value (2 ^ toBits) s.ret * 2 ^ s.bits + s.acc % 2 ^ s.bits
  length_eq : fromBits * data.length = toBits * s.ret.length + s.bits
  digits : ∀ d ∈ s.ret, d < 2 ^ toBits

lemma and_ones (x n : ℕ) : x &&& (1 <<< n - 1) = x % 2 ^ n := by
  rw [Nat.one_shiftLeft, Nat.and_two_pow_sub_one_eq_mod]

section

variable {fromBits toBits : ℕ} {data : List ℕ}

lemma regrouped_emit {s : Bits} (h : Regrouped fromBits toBits data s) (hle : toBits ≤ s.bits) :
    Regrouped fromBits toBits data
      { s with
        bits := s.bits - toBits
        ret := s.ret ++ [s.acc >>> (s.bits - toBits) &&& (1 <<< toBits - 1)] } := by
  obtain ⟨rest, hrest⟩ : ∃ rest, s.bits = rest + toBits := ⟨s.bits - toBits, by omega⟩
  have hsplit : s.acc % 2 ^ s.bits = s.acc / 2 ^ rest % 2 ^ toBits * 2 ^ rest + s.acc % 2 ^ rest := by
    rw [hrest, pow_add, Nat.mod_mul]
    ring
  constructor
  · simp only [hrest, Nat.add_sub_cancel, value_concat, and_ones, Nat.shiftRight_eq_div_pow]
    rw [h.value_eq, hsplit, hrest, pow_add]
    ring
  · have hlen := h.length_eq
    simp only [List.length_append, List.length_singleton, hrest, Nat.add_sub_cancel, Nat.mul_add] at hlen ⊢
    omega
  · intro d hd
    cases List.mem_append.mp hd with
    | inl hold => exact h.digits d hold
    | inr hnew =>
      rw [List.mem_singleton.mp hnew, and_ones]
      exact Nat.mod_lt _ (by positivity)

lemma regrouped_drain (hpos : 0 < toBits) {fuel : ℕ} {s : Bits} (h : Regrouped fromBits toBits data s)
    (hfuel : s.bits ≤ fuel) :
    Regrouped fromBits toBits data (drain toBits fuel s) ∧ (drain toBits fuel s).bits < toBits := by
  induction fuel generalizing s with
  | zero => exact ⟨h, by simp only [drain]; omega⟩
  | succ fuel ih =>
    rw [drain]
    split
    next hle => exact ih (regrouped_emit h hle) (by simp only; omega)
    next hlt => exact ⟨h, by omega⟩

lemma regrouped_push (hpos : 0 < toBits) {s : Bits} (h : Regrouped fromBits toBits data s) (hbits : s.bits < toBits)
    {v : ℕ} (hv : v < 2 ^ fromBits) :
    Regrouped fromBits toBits (data ++ [v]) (pushBits fromBits toBits s v) ∧
      (pushBits fromBits toBits s v).bits < toBits := by
  unfold pushBits
  refine regrouped_drain hpos ?_ le_rfl
  have hor : s.acc <<< fromBits ||| v = s.acc * 2 ^ fromBits + v := by
    rw [← Nat.shiftLeft_add_eq_or_of_lt hv, Nat.shiftLeft_eq]
  have hmask : (s.acc * 2 ^ fromBits + v) % 2 ^ (fromBits + toBits - 1) % 2 ^ (s.bits + fromBits) =
      s.acc % 2 ^ s.bits * 2 ^ fromBits + v := by
    have hdvd : 2 ^ (s.bits + fromBits) ∣ 2 ^ (fromBits + toBits - 1) := pow_dvd_pow 2 (by omega)
    rw [Nat.mod_mod_of_dvd _ hdvd, Nat.add_comm s.bits, pow_add, Nat.mod_mul, Nat.mul_add_mod', Nat.mod_eq_of_lt hv,
      Nat.add_comm _ v, Nat.add_mul_div_right _ _ (by positivity), Nat.div_eq_of_lt hv, Nat.zero_add]
    ring
  constructor
  · rw [value_concat, h.value_eq]
    simp only [hor, and_ones, hmask]
    rw [pow_add]
    ring
  · have hlen := h.length_eq
    simp only [List.length_append, List.length_singleton, Nat.mul_add]
    omega
  · exact h.digits

lemma regrouped_foldl (hpos : 0 < toBits) (hdata : ∀ v ∈ data, v < 2 ^ fromBits) :
    Regrouped fromBits toBits data (data.foldl (pushBits fromBits toBits) ⟨0, 0, []⟩) ∧
      (data.foldl (pushBits fromBits toBits) ⟨0, 0, []⟩).bits < toBits := by
  induction data using List.reverseRecOn with
  | nil => exact ⟨⟨by simp [Nat.mod_one], by simp, by simp⟩, hpos⟩
  | append_singleton data v ih =>
    obtain ⟨hdone, hbits⟩ := ih fun w hw => hdata w (List.mem_append_left _ hw)
    rw [List.foldl_append]
    exact regrouped_push hpos hdone hbits (hdata v (by simp))

end

lemma rest_eq_zero {acc bits : ℕ} (hbits : bits ≤ 8) :
    acc <<< (8 - bits) &&& (1 <<< 8 - 1) = 0 ↔ acc % 2 ^ bits = 0 := by
  have hpow : 2 ^ 8 = 2 ^ bits * 2 ^ (8 - bits) := by
    rw [← pow_add, Nat.add_sub_of_le hbits]
  rw [and_ones, Nat.shiftLeft_eq, hpow, Nat.mul_mod_mul_right]
  simp

lemma programWords_spec {program : List ℕ} (hp : ∀ d ∈ program, d < 256) :
    ∃ pad < 5, 5 * (programWords program).length = 8 * program.length + pad ∧
      value 32 (programWords program) = value 256 program * 2 ^ pad ∧ ∀ d ∈ programWords program, d < 32 := by
  obtain ⟨pad, hpad, hcount⟩ : ∃ pad < 5, 5 * ((8 * program.length + 4) / 5) = 8 * program.length + pad :=
    ⟨5 * ((8 * program.length + 4) / 5) - 8 * program.length, by omega, by omega⟩
  refine ⟨pad, hpad, ?_, ?_, fixed_lt (by norm_num) _ _⟩
  · rw [programWords, length_fixed, hcount]
  · have hlt : value 256 program * 2 ^ pad < 32 ^ ((8 * program.length + 4) / 5) := by
      calc value 256 program * 2 ^ pad < 256 ^ program.length * 2 ^ pad :=
            Nat.mul_lt_mul_of_pos_right (value_lt (by norm_num) hp) (by positivity)
        _ = 2 ^ (8 * program.length + pad) := by rw [pow_add, pow_mul]; norm_num
        _ = 32 ^ ((8 * program.length + 4) / 5) := by rw [← hcount, pow_mul]; norm_num
    have hsub : 5 * ((8 * program.length + 4) / 5) - 8 * program.length = pad := by omega
    simp only [programWords]
    rw [value_fixed, hsub, Nat.mod_eq_of_lt hlt]

/-- The regrouping without padding accepts exactly the words that the encoder makes of a program. -/
lemma convertbits_iff {words program : List ℕ} (hw : ∀ w ∈ words, w < 32) :
    convertbits words 5 8 false = some program ↔ (∀ d ∈ program, d < 256) ∧ words = programWords program := by
  obtain ⟨hdone, hbits⟩ : Regrouped 5 8 words (words.foldl (pushBits 5 8) ⟨0, 0, []⟩) ∧
      (words.foldl (pushBits 5 8) ⟨0, 0, []⟩).bits < 8 := regrouped_foldl (by norm_num) hw
  have hrange : ¬ ∃ v ∈ words, v >>> 5 ≠ 0 := by
    rintro ⟨v, hv, hne⟩
    apply hne
    rw [Nat.shiftRight_eq_div_pow]
    exact Nat.div_eq_of_lt (hw v hv)
  generalize hs : words.foldl (pushBits 5 8) ⟨0, 0, []⟩ = s at hdone hbits
  have hconv : convertbits words 5 8 false = if 5 ≤ s.bits ∨ s.acc % 2 ^ s.bits ≠ 0 then none else some s.ret := by
    simp only [convertbits, if_neg hrange, hs, ne_eq, rest_eq_zero hbits.le, Bool.false_eq_true, if_false]
  have hvalue := hdone.value_eq
  have hlen := hdone.length_eq
  norm_num at hvalue
  rw [hconv]
  constructor
  · intro h
    split at h
    next => simp at h
    next hok =>
      push Not at hok
      obtain rfl := Option.some.inj h
      refine ⟨fun d hd => by simpa using hdone.digits d hd, ?_⟩
      have hcount : (8 * s.ret.length + 4) / 5 = words.length := by omega
      have hpad : 5 * words.length - 8 * s.ret.length = s.bits := by omega
      rw [hok.2, Nat.add_zero] at hvalue
      rw [programWords]
      simp only [hcount, hpad, ← hvalue]
      exact (fixed_value (by norm_num) hw).symm
  · rintro ⟨hp, rfl⟩
    obtain ⟨pad, hpad, hcount, hspell, -⟩ := programWords_spec hp
    have hrest : s.acc % 2 ^ s.bits < 2 ^ s.bits := Nat.mod_lt _ (by positivity)
    have hbitseq : s.bits = pad := by omega
    have hlenret : s.ret.length = program.length := by omega
    rw [hbitseq] at hvalue hrest
    have heq : value 256 s.ret * 2 ^ pad + s.acc % 2 ^ pad = value 256 program * 2 ^ pad := hvalue.symm.trans hspell
    have hzero : s.acc % 2 ^ pad = 0 := by
      have hmod := congrArg (· % 2 ^ pad) heq
      simpa [Nat.mul_add_mod_self_right] using hmod
    have hnumber : value 256 s.ret = value 256 program := by
      rw [hzero, Nat.add_zero] at heq
      exact Nat.eq_of_mul_eq_mul_right (by positivity) heq
    have hret : s.ret = program :=
      value_injective (by norm_num) hlenret (fun d hd => by simpa using hdone.digits d hd) hp hnumber
    rw [if_neg (by rw [hbitseq]; push Not; exact ⟨by omega, hzero⟩), hret]

/-! The checksum. -/

/-- The generator words that the top bits of the register select, taken in one after another. -/
def selected (top : ℕ) (gs : List (ℕ × ℕ)) (c : ℕ) : ℕ :=
  gs.foldl (fun c g => c ^^^ if top.testBit g.2 then g.1 else 0) c

lemma selected_xor (top top' : ℕ) (gs : List (ℕ × ℕ)) (c c' : ℕ) :
    selected (top ^^^ top') gs (c ^^^ c') = selected top gs c ^^^ selected top' gs c' := by
  induction gs generalizing c c' with
  | nil => rfl
  | cons g gs ih =>
    have hword : (if (top ^^^ top').testBit g.2 then g.1 else 0) =
        (if top.testBit g.2 then g.1 else 0) ^^^ (if top'.testBit g.2 then g.1 else 0) := by
      rw [Nat.testBit_xor]
      cases top.testBit g.2 <;> cases top'.testBit g.2 <;> simp
    have hstart : c ^^^ c' ^^^ (if (top ^^^ top').testBit g.2 then g.1 else 0) =
        (c ^^^ if top.testBit g.2 then g.1 else 0) ^^^ (c' ^^^ if top'.testBit g.2 then g.1 else 0) := by
      rw [hword]
      ac_rfl
    simp only [selected, List.foldl_cons, hstart] at ih ⊢
    exact ih _ _

lemma selected_lt {top c n : ℕ} {gs : List (ℕ × ℕ)} (hgs : ∀ g ∈ gs, g.1 < 2 ^ n) (hc : c < 2 ^ n) :
    selected top gs c < 2 ^ n := by
  induction gs generalizing c with
  | nil => exact hc
  | cons g gs ih =>
    apply ih (fun g' hg' => hgs g' (List.mem_cons_of_mem g hg'))
    apply Nat.xor_lt_two_pow hc
    split
    · exact hgs g List.mem_cons_self
    · positivity

lemma selected_zero (gs : List (ℕ × ℕ)) (c : ℕ) : selected 0 gs c = c := by
  induction gs generalizing c with
  | nil => rfl
  | cons g gs ih =>
    simp only [selected, List.foldl_cons, Nat.zero_testBit, Bool.false_eq_true, if_false, Nat.xor_zero] at ih ⊢
    exact ih c

lemma bech32Step_linear : Linear bech32Step := by
  intro c d v w
  have hstart : ((c ^^^ d) &&& 0x1FFFFFF) <<< 5 ^^^ (v ^^^ w) =
      ((c &&& 0x1FFFFFF) <<< 5 ^^^ v) ^^^ ((d &&& 0x1FFFFFF) <<< 5 ^^^ w) := by
    rw [Nat.and_xor_distrib_right, Nat.shiftLeft_xor_distrib]
    ac_rfl
  change selected ((c ^^^ d) >>> 25) _ _ = selected (c >>> 25) _ _ ^^^ selected (d >>> 25) _ _
  rw [hstart, Nat.shiftRight_xor_distrib]
  exact selected_xor _ _ _ _ _

lemma mask_eq (c : ℕ) : c &&& 0x1FFFFFF = c % 2 ^ 25 := Nat.and_two_pow_sub_one_eq_mod c 25

lemma bech32Step_lt (c : ℕ) {v : ℕ} (hv : v < 32) : bech32Step c v < 2 ^ 30 := by
  apply selected_lt (by decide)
  apply Nat.xor_lt_two_pow
  · rw [mask_eq, Nat.shiftLeft_eq]
    have hmod : c % 2 ^ 25 < 2 ^ 25 := Nat.mod_lt _ (by norm_num)
    omega
  · omega

lemma bech32Step_small {c v : ℕ} (hc : c < 2 ^ 25) (hv : v < 32) : bech32Step c v = c * 32 + v := by
  have htop : c >>> 25 = 0 := by
    rw [Nat.shiftRight_eq_div_pow]
    exact Nat.div_eq_of_lt hc
  change selected (c >>> 25) _ _ = _
  rw [htop, selected_zero, mask_eq, Nat.mod_eq_of_lt hc, Nat.mul_comm c 32]
  apply Nat.eq_of_testBit_eq
  intro i
  rw [Nat.testBit_xor, Nat.testBit_shiftLeft, show 32 = 2 ^ 5 by norm_num, Nat.testBit_two_pow_mul_add c hv]
  split
  next hi => simp [Nat.not_le.mpr hi]
  next hi =>
    have hhigh : v.testBit i = false := 
      Nat.testBit_lt_two_pow (lt_of_lt_of_le hv (Nat.pow_le_pow_right (n := 2) (by norm_num) (Nat.not_lt.mp hi)))
    simp [hhigh, Nat.not_lt.mp hi]

lemma feed_small {words : List ℕ} (hlen : words.length ≤ 6) (hw : ∀ w ∈ words, w < 32) :
    feed bech32Step 0 words = value 32 words := by
  induction words using List.reverseRecOn with
  | nil => rfl
  | append_singleton words w ih =>
    simp only [List.length_append, List.length_singleton] at hlen
    have hwords : ∀ v ∈ words, v < 32 := fun v hv => hw v (List.mem_append_left _ hv)
    have hsmall : value 32 words < 2 ^ 25 := by
      calc value 32 words < 32 ^ words.length := value_lt (by norm_num) hwords
        _ ≤ 32 ^ 5 := Nat.pow_le_pow_right (by norm_num) (by omega)
        _ = 2 ^ 25 := by norm_num
    rw [feed_append, ih (by omega) hwords, feed_cons, feed_nil, value_concat]
    exact bech32Step_small hsmall (hw w (by simp))

lemma polymod_checksum {values sums : List ℕ} (hlen : sums.length = 6) (hsums : ∀ w ∈ sums, w < 32) :
    bech32Polymod (values ++ sums) = bech32Polymod (values ++ List.replicate 6 0) ^^^ value 32 sums := by
  have hsplit : ∀ ws : List ℕ, ws.length = 6 → bech32Polymod (values ++ ws) =
      drift bech32Step 6 (bech32Polymod values) ^^^ feed bech32Step 0 ws := by
    intro ws hws
    have hxor := feed_xor bech32Step_linear (bech32Polymod values) 0 ws
    rw [Nat.xor_zero, hws] at hxor
    rw [bech32Polymod, feed_append]
    exact hxor
  rw [hsplit sums hlen, hsplit (List.replicate 6 0) rfl, feed_small hlen.le hsums]
  have hzeros : feed bech32Step 0 (List.replicate 6 0) = 0 := by decide +kernel
  rw [hzeros, Nat.xor_zero]

lemma polymod_lt {values : List ℕ} (hv : ∀ w ∈ values, w < 32) : bech32Polymod values < 2 ^ 30 := by
  have hstep : ∀ c w, w < 32 → bech32Step c w < 2 ^ 30 := fun c w hw => bech32Step_lt c hw
  exact feed_lt hstep (by norm_num) hv

lemma const_lt (spec : Spec) : spec.const < 2 ^ 30 := by
  cases spec <;> decide

/-- Of six words, exactly the encoder's give the register the constant of the encoding. -/
lemma polymod_eq_const_iff {values sums : List ℕ} (hvalues : ∀ w ∈ values, w < 32) (hlen : sums.length = 6)
    (hsums : ∀ w ∈ sums, w < 32) (spec : Spec) : bech32Polymod (values ++ sums) = spec.const ↔
      sums = fixed 32 6 (bech32Polymod (values ++ List.replicate 6 0) ^^^ spec.const) := by
  have hzeros : ∀ w ∈ values ++ List.replicate 6 0, w < 32 := by
    intro w hw
    cases List.mem_append.mp hw with
    | inl h => exact hvalues w h
    | inr h => rw [List.eq_of_mem_replicate h]; norm_num
  have hfit : bech32Polymod (values ++ List.replicate 6 0) ^^^ spec.const < 32 ^ 6 := by
    have hlt := Nat.xor_lt_two_pow (polymod_lt hzeros) (const_lt spec)
    norm_num at hlt ⊢
    exact hlt
  rw [polymod_checksum hlen hsums]
  constructor
  · intro h
    rw [← h, ← Nat.xor_assoc, Nat.xor_self, Nat.zero_xor, ← hlen]
    exact (fixed_value (by norm_num) hsums).symm
  · intro h
    rw [h, value_fixed, Nat.mod_eq_of_lt hfit, ← Nat.xor_assoc, Nat.xor_self, Nat.zero_xor]

/-- No drift of a single word is seen, over as many words as an address can have: neither to the same constant nor
from one constant to the other. -/
def noticed : ℕ → ℕ → Bool
  | 0, _ => true
  | k + 1, c => c ≠ 0 ∧ c ≠ Spec.bech32.const ^^^ Spec.bech32m.const ∧ noticed k (bech32Step c 0)

lemma noticed_drift {n k c : ℕ} (h : noticed n c = true) (hk : k < n) :
    drift bech32Step k c ≠ 0 ∧ drift bech32Step k c ≠ Spec.bech32.const ^^^ Spec.bech32m.const := by
  induction n generalizing k c with
  | zero => omega
  | succ n ih =>
    simp only [noticed, Bool.decide_and, Bool.decide_eq_true, Bool.and_eq_true, decide_eq_true_eq] at h
    cases k with
    | zero => exact ⟨h.1, h.2.1⟩
    | succ k =>
      have hk' : k < n := by omega
      exact ih (c := bech32Step c 0) h.2.2 hk'

lemma noticed_word : ∀ d < 32, d ≠ 0 → noticed 90 d = true := by
  decide +kernel

end TrxSimulator.Withdrawals.Bech32
