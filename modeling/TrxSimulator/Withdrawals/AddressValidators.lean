import TrxSimulator.Foundations.Numerals
import TrxSimulator.Foundations.Registers

/-! Which texts are well-formed addresses: Base58Check for TRON and for legacy Bitcoin, Bech32 and Bech32m for
SegWit. -/

namespace TrxSimulator.Withdrawals.AddressValidators

open Foundations.Numerals Foundations.Registers

/-! Base58Check. -/

def b58Alphabet : List Char :=
  ['1', '2', '3', '4', '5', '6', '7', '8', '9', 'A', 'B', 'C', 'D', 'E', 'F', 'G', 'H', 'J', 'K', 'L', 'M', 'N', 'P',
    'Q', 'R', 'S', 'T', 'U', 'V', 'W', 'X', 'Y', 'Z', 'a', 'b', 'c', 'd', 'e', 'f', 'g', 'h', 'i', 'j', 'k', 'm', 'n',
    'o', 'p', 'q', 'r', 's', 't', 'u', 'v', 'w', 'x', 'y', 'z']

def toBytes (length n : ℕ) : List UInt8 := (fixed 256 length n).map UInt8.ofNat

def b58decode (s : String) : Option (List UInt8) :=
  if s.toList = [] ∨ s.toList.any (· ∉ b58Alphabet) then none
  else
    let n := s.toList.foldl (fun n c => n * 58 + b58Alphabet.idxOf c) 0
    let body := if 0 < n then toBytes ((n.size + 7) / 8) n else []
    let leadingZeros := s.toList.length - (s.toList.dropWhile (· = '1')).length
    some (List.replicate leadingZeros 0 ++ body)

structure Digest where
  bytes : List UInt8
  length_bytes : bytes.length = 32

section Base58Check

variable (sha256 : List UInt8 → Digest)

def checksum (payload : List UInt8) : List UInt8 := (sha256 (sha256 payload).bytes).bytes.take 4

def b58checkDecode (s : String) (expectedLen : ℕ) : Option (List UInt8) :=
  match b58decode s with
  | none => none
  | some raw =>
    if raw.length ≠ expectedLen then none
    else if raw.drop (raw.length - 4) = checksum sha256 (raw.take (raw.length - 4)) then
      some (raw.take (raw.length - 4))
    else none

def validateTrc20Address (address : String) : Bool :=
  if address.toList.head? = some 'T' then
    match b58checkDecode sha256 address 25 with
    | none => false
    | some payload => payload.head? = some 0x41
  else false

def validateBtcBase58Address (address : String) : Bool × Option String :=
  match b58checkDecode sha256 address 25 with
  | none => (false, none)
  | some payload =>
    if payload.head? = some 0x00 then (true, some "P2PKH")
    else if payload.head? = some 0x05 then (true, some "P2SH")
    else (false, none)

end Base58Check

/-! Bech32 and Bech32m. -/

inductive Spec
  | bech32 | bech32m
deriving DecidableEq

def Spec.const : Spec → ℕ
  | .bech32 => 1
  | .bech32m => 0x2BC830A3

def bech32Charset : List Char :=
  ['q', 'p', 'z', 'r', 'y', '9', 'x', '8', 'g', 'f', '2', 't', 'v', 'd', 'w', '0', 's', '3', 'j', 'n', '5', '4', 'k',
    'h', 'c', 'e', '6', 'm', 'u', 'a', '7', 'l']

def generator : List ℕ := [0x3B6A57B2, 0x26508E6D, 0x1EA119FA, 0x3D4233DD, 0x2A1462B3]

def bech32Step (chk v : ℕ) : ℕ :=
  generator.zipIdx.foldl (fun c g => c ^^^ if (chk >>> 25).testBit g.2 then g.1 else 0)
    ((chk &&& 0x1FFFFFF) <<< 5 ^^^ v)

def bech32Polymod (values : List ℕ) : ℕ := feed bech32Step 1 values

def bech32HrpExpand (hrp : List Char) : List ℕ := hrp.map (·.toNat >>> 5) ++ [0] ++ hrp.map (·.toNat &&& 31)

def bech32VerifyChecksum (hrp : List Char) (data : List ℕ) : Option Spec :=
  let const := bech32Polymod (bech32HrpExpand hrp ++ data)
  if const = Spec.bech32.const then some .bech32
  else if const = Spec.bech32m.const then some .bech32m
  else none

def rfind (c : Char) : List Char → Option ℕ
  | [] => none
  | d :: s =>
    match rfind c s with
    | some i => some (i + 1)
    | none => if d = c then some 0 else none

/-- Past the first test every character is ASCII, where lowering and raising are what `Char` has. -/
def bech32DecodeRaw (bech : List Char) : Option (List Char × List ℕ × Spec) :=
  if bech.any fun c => c.toNat < 33 ∨ 126 < c.toNat then none
  else if bech.map Char.toLower ≠ bech ∧ bech.map Char.toUpper ≠ bech then none
  else
    let bech := bech.map Char.toLower
    match rfind '1' bech with
    | none => none
    | some pos =>
      if pos < 1 ∨ bech.length < pos + 7 ∨ 90 < bech.length then none
      else if (bech.drop (pos + 1)).any (· ∉ bech32Charset) then none
      else
        let data := (bech.drop (pos + 1)).map (bech32Charset.idxOf ·)
        (bech32VerifyChecksum (bech.take pos) data).map fun spec =>
          (bech.take pos, data.take (data.length - 6), spec)

structure Bits where
  acc : ℕ
  bits : ℕ
  ret : List ℕ

/-- The inner loop; each round takes `toBits` off, so `bits` rounds are enough. -/
def drain (toBits : ℕ) : ℕ → Bits → Bits
  | 0, s => s
  | fuel + 1, s =>
    if toBits ≤ s.bits then
      drain toBits fuel
        { s with
          bits := s.bits - toBits
          ret := s.ret ++ [s.acc >>> (s.bits - toBits) &&& (1 <<< toBits - 1)] }
    else s

def pushBits (fromBits toBits : ℕ) (s : Bits) (value : ℕ) : Bits :=
  drain toBits (s.bits + fromBits)
    { s with acc := (s.acc <<< fromBits ||| value) &&& (1 <<< (fromBits + toBits - 1) - 1), bits := s.bits + fromBits }

def convertbits (data : List ℕ) (fromBits toBits : ℕ) (pad : Bool) : Option (List ℕ) :=
  if ∃ value ∈ data, value >>> fromBits ≠ 0 then none
  else
    let s := data.foldl (pushBits fromBits toBits) ⟨0, 0, []⟩
    let rest := s.acc <<< (toBits - s.bits) &&& (1 <<< toBits - 1)
    if pad then some (if s.bits ≠ 0 then s.ret ++ [rest] else s.ret)
    else if fromBits ≤ s.bits ∨ rest ≠ 0 then none
    else some s.ret

def validateBtcSegwitAddress (address : String) : Bool × Option String :=
  match bech32DecodeRaw address.toList with
  | some (hrp, witver :: words, spec) =>
    if hrp ≠ "bc".toList ∨ 16 < witver then (false, none)
    else
      match convertbits words 5 8 false with
      | none => (false, none)
      | some program =>
        if program.length < 2 ∨ 40 < program.length then (false, none)
        else if witver = 0 then
          if spec ≠ .bech32 ∨ (program.length ≠ 20 ∧ program.length ≠ 32) then (false, none)
          else (true, some "SEGWIT_V0")
        else if spec ≠ .bech32m then (false, none)
        else if witver = 1 ∧ program.length = 32 then (true, some "TAPROOT")
        else (true, some ("SEGWIT_V" ++ toString witver))
  | _ => (false, none)

/-- No character outside ASCII has a `b`, `c` or `t` as its lower case. -/
def validateBtcAddress (sha256 : List UInt8 → Digest) (address : String) : Bool × Option String :=
  if address.toList.head? = some '1' ∨ address.toList.head? = some '3' then validateBtcBase58Address sha256 address
  else if "bc1".toList <+: address.toList.map Char.toLower ∨ "tb1".toList <+: address.toList.map Char.toLower then
    validateBtcSegwitAddress address
  else (false, none)

end TrxSimulator.Withdrawals.AddressValidators
