import Mathlib.Data.Nat.Digits
import QuantumGoUtils.Go.Strings

/-!
# Decimal and hexadecimal text

The `strconv` and `encoding/hex` functions the repository calls: `%d` of an `int64`
(`formatInt`), `strconv.ParseInt(s, 10, 64)` (`parseInt`), `hex.DecodeString`
(`hexDecode`) and `hex.EncodeToString` (`hexEncode`). An `int64` is a `BitVec 64`, read as
a signed integer by `BitVec.toInt`. `%x` of a natural number (`hexadecimal`) is written
from Mathlib's `Nat.digits`, whose lemmas give its value and its leading digit.

## Main results

* `isHexDigit_of_hexDecode` — a string `hex.DecodeString` accepts consists of hex digits.
* `hexValue_hexadecimal` — the digits `%x` writes read back as the number.
* `head_hexadecimal` — `%x` of a positive number has no leading zero.
* `parseInt_formatInt` — `strconv.ParseInt(s, 10, 64)` reads back every `int64` that `%d`
  writes.
-/

namespace QuantumGoUtils.Go.Strconv

open QuantumGoUtils.Go.Strings

/-! ## Writing numbers -/

/-- The decimal digits of a natural number (`strconv.FormatUint(n, 10)`). -/
def decimal (n : Nat) : GoString := (Nat.toDigits 10 n).map fun ch => ch.toNat.toUInt8

/-- `%d` of a signed integer. -/
def formatInt (i : Int) : GoString :=
  if i < 0 then 45 :: decimal i.natAbs else decimal i.toNat

/-- Lower-case hexadecimal digit of a nibble. -/
def hexDigit (n : Nat) : UInt8 := if n < 10 then (48 + n).toUInt8 else (87 + n).toUInt8

/-- `hex.EncodeToString`: two lower-case digits per byte. -/
def hexEncode (bs : GoString) : GoString :=
  bs.flatMap fun b => [hexDigit (b.toNat / 16), hexDigit (b.toNat % 16)]

/-- A lower-case hexadecimal digit, as `%x` writes them. -/
def isLowerHexDigit (c : UInt8) : Bool := isDigit c || (97 ≤ c.toNat && c.toNat ≤ 102)

/-- `%x` of a natural number (`strconv.FormatUint(n, 16)`, and `big.Int.Text(16)` of a
non-negative one): lower-case digits, most significant first, no leading zero; zero is
`0`. -/
def hexadecimal (n : Nat) : GoString :=
  if n = 0 then [48] else ((Nat.digits 16 n).map hexDigit).reverse

/-! ## Reading numbers -/

/-- The value of a string of hexadecimal digits, most significant first. -/
def hexValue (s : GoString) : Nat := s.foldl (fun n c => 16 * n + hexVal c) 0

/-- The `Err` of a `strconv.NumError`. -/
inductive NumErrKind where
  /-- `strconv.ErrSyntax`, "invalid syntax". -/
  | invalid
  /-- `strconv.ErrRange`, "value out of range". -/
  | range
  deriving DecidableEq, Repr

/-- `strconv.NumError`, rendered "strconv.ParseInt: parsing %q: <err>". -/
structure NumError where
  num : GoString
  err : NumErrKind
  deriving DecidableEq, Repr

/-- The largest `uint64`. -/
def maxUint64 : Nat := 2 ^ 64 - 1

/-- The digit loop of `strconv.ParseUint(s, 10, 64)`, from the value read so far: a
non-digit is a syntax error, and the first step that would pass `maxUint64` a range
error. -/
def parseUintDigits (n : Nat) : GoString → Except NumErrKind Nat
  | [] => .ok n
  | c :: s =>
    if !isDigit c then .error .invalid
    else if maxUint64 / 10 + 1 ≤ n then .error .range
    else if maxUint64 < n * 10 + (c.toNat - 48) then .error .range
    else parseUintDigits (n * 10 + (c.toNat - 48)) s

/-- `strconv.ParseUint(s, 10, 64)`: the empty string is a syntax error. -/
def parseUint (s : GoString) : Except NumErrKind Nat :=
  if s = [] then .error .invalid else parseUintDigits 0 s

/-- `strconv.ParseInt(s, 10, 64)`: an optional sign, then `ParseUint`; a range error from
`ParseUint` reads as `maxUint64` and fails the signed range check. -/
def parseInt (s : GoString) : Except NumError (BitVec 64) :=
  match s with
  | [] => .error ⟨s, .invalid⟩
  | c :: rest =>
    let neg := c = 45
    let digits := if c = 43 ∨ c = 45 then rest else c :: rest
    match parseUint digits with
    | .error .invalid => .error ⟨s, .invalid⟩
    | r =>
      let un := match r with
        | .ok n => n
        | .error _ => maxUint64
      if !neg ∧ 2 ^ 63 ≤ un then .error ⟨s, .range⟩
      else if neg ∧ 2 ^ 63 < un then .error ⟨s, .range⟩
      else .ok (BitVec.ofInt 64 (if neg then -(un : Int) else un))

/-- Why `hex.DecodeString` fails. -/
inductive HexError where
  /-- `hex.InvalidByteError`: the first byte that is not a hex digit. -/
  | invalidByte (b : UInt8)
  /-- `hex.ErrLength`: an odd number of digits. -/
  | length
  deriving DecidableEq, Repr

/-- `hex.DecodeString`: digit pairs left to right; a lone last digit is `ErrLength`. -/
def hexDecode : GoString → Except HexError GoString
  | [] => .ok []
  | [p] => if isHexDigit p then .error .length else .error (.invalidByte p)
  | p :: q :: rest =>
    if !isHexDigit p then .error (.invalidByte p)
    else if !isHexDigit q then .error (.invalidByte q)
    else (((hexVal p * 16 + hexVal q).toUInt8) :: ·) <$> hexDecode rest

/-! ## Lemmas -/

/-- A string `hex.DecodeString` accepts consists of hex digits. -/
theorem isHexDigit_of_hexDecode :
    ∀ {s out : GoString}, hexDecode s = .ok out → ∀ c ∈ s, isHexDigit c = true
  | [], _, _ => by simp
  | [p], _, h => by simp only [hexDecode] at h; split at h <;> cases h
  | p :: q :: rest, out, h => by
    simp only [hexDecode] at h
    split at h
    · cases h
    · split at h
      · cases h
      · rename_i hp hq
        cases hr : hexDecode rest with
        | error e => simp [hr] at h
        | ok r =>
          intro c hc
          simp only [List.mem_cons] at hc
          rcases hc with rfl | rfl | hc
          · simpa using hp
          · simpa using hq
          · exact isHexDigit_of_hexDecode hr c hc

/-- Each of the sixteen digits is a hex digit that reads back as its value. -/
theorem hexDigit_spec : ∀ n, n < 16 → isHexDigit (hexDigit n) = true ∧ hexVal (hexDigit n) = n := by
  decide

/-- The digits are lower-case; `0` and `b` are the digits of 0 and 11 only. -/
theorem hexDigit_lower : ∀ n, n < 16 → isLowerHexDigit (hexDigit n) = true ∧
    (hexDigit n = 48 ↔ n = 0) ∧ (hexDigit n = 98 ↔ n = 11) := by
  decide

theorem hexValue_append_singleton (s : GoString) (c : UInt8) :
    hexValue (s ++ [c]) = 16 * hexValue s + hexVal c := by
  simp [hexValue, List.foldl_append]

/-- Digits written most significant first read back as `Nat.ofDigits` of the little-endian
list. -/
theorem hexValue_digits : ∀ ds : List Nat, (∀ d ∈ ds, d < 16) →
    hexValue ((ds.map hexDigit).reverse) = Nat.ofDigits 16 ds
  | [], _ => rfl
  | d :: ds, h => by
    have hd := (hexDigit_spec d (h d (List.mem_cons_self _ _))).2
    rw [List.map_cons, List.reverse_cons, hexValue_append_singleton, hd,
      hexValue_digits ds fun e he => h e (List.mem_cons_of_mem _ he), Nat.ofDigits_cons]
    omega

theorem hexValue_hexadecimal (n : Nat) : hexValue (hexadecimal n) = n := by
  unfold hexadecimal
  split_ifs with h
  · subst h; rfl
  · rw [hexValue_digits _ fun d hd => Nat.digits_lt_base (by norm_num) hd, Nat.ofDigits_digits]

theorem mem_hexadecimal {n : Nat} {c : UInt8} (h : c ∈ hexadecimal n) :
    isLowerHexDigit c = true := by
  unfold hexadecimal at h
  split_ifs at h
  · simp only [List.mem_singleton] at h; subst h; rfl
  · simp only [List.mem_reverse, List.mem_map] at h
    obtain ⟨d, hd, rfl⟩ := h
    exact (hexDigit_lower d (Nat.digits_lt_base (by norm_num) hd)).1

theorem hexadecimal_ne_nil (n : Nat) : hexadecimal n ≠ [] := by
  unfold hexadecimal
  split_ifs with h
  · simp
  · simpa using Nat.digits_ne_nil_iff_ne_zero.mpr h

/-- The first digit of `%x` of a positive number is that of its most significant nibble,
which is not zero. -/
theorem head_hexadecimal {n : Nat} (h : n ≠ 0) :
    ∃ d, d ≠ 0 ∧ d < 16 ∧ (hexadecimal n).head? = some (hexDigit d) := by
  have hne := (Nat.digits_ne_nil_iff_ne_zero (b := 16)).mpr h
  refine ⟨_, Nat.getLast_digit_ne_zero 16 h, Nat.digits_lt_base (by norm_num)
    (List.getLast_mem hne), ?_⟩
  simp [hexadecimal, h, List.head?_reverse, List.getLast?_eq_getLast _ hne]

/-- A positive number below 16 is one digit. -/
theorem hexadecimal_of_lt {n : Nat} (h0 : n ≠ 0) (h : n < 16) : hexadecimal n = [hexDigit n] := by
  simp [hexadecimal, h0, Nat.digits_of_lt 16 n h0 h]

/-- `%x` of a number of two digits or more: `%x` of its sixteenths, then its last digit. -/
theorem hexadecimal_div {n : Nat} (h : 16 ≤ n) :
    hexadecimal n = hexadecimal (n / 16) ++ [hexDigit (n % 16)] := by
  rw [hexadecimal, if_neg (by omega), Nat.digits_def' (by norm_num) (by omega), hexadecimal,
    if_neg (by omega)]
  simp

theorem digitChar_range : ∀ d, d < 10 →
    48 ≤ (Nat.digitChar d).toNat ∧ (Nat.digitChar d).toNat ≤ 57 := by
  decide

theorem mem_toDigitsCore : ∀ fuel n (ds : List Char), (∀ c ∈ ds, 48 ≤ c.toNat ∧ c.toNat ≤ 57) →
    ∀ c ∈ Nat.toDigitsCore 10 fuel n ds, 48 ≤ c.toNat ∧ c.toNat ≤ 57
  | 0, _, _, h => h
  | fuel + 1, n, ds, h => by
    have h' : ∀ c ∈ Nat.digitChar (n % 10) :: ds, 48 ≤ c.toNat ∧ c.toNat ≤ 57 := by
      simpa [digitChar_range (n % 10) (Nat.mod_lt _ (by norm_num))] using h
    unfold Nat.toDigitsCore
    dsimp only
    split_ifs
    · exact h'
    · exact mem_toDigitsCore fuel _ _ h'

/-- `%d` writes decimal digits only. -/
theorem mem_decimal {n : Nat} {c : UInt8} (h : c ∈ decimal n) : isDigit c = true := by
  simp only [decimal, List.mem_map] at h
  obtain ⟨ch, hch, rfl⟩ := h
  have := mem_toDigitsCore _ n [] (by simp) ch hch
  have h256 : ch.toNat < 256 := by omega
  simp [isDigit, Nat.toUInt8, UInt8.toNat, UInt8.ofNat, Fin.ofNat, Nat.mod_eq_of_lt h256]
  omega

/-- The digits `Nat.toDigitsCore` writes with fuel to spare, before what it is given. -/
theorem toDigitsCore_eq (n : Nat) : ∀ fuel, n < fuel → ∀ ds,
    Nat.toDigitsCore 10 fuel n ds = Nat.toDigits 10 n ++ ds := by
  induction n using Nat.strong_induction_on with
  | _ n ih =>
    intro fuel hf ds
    obtain ⟨f, rfl⟩ : ∃ f, fuel = f + 1 := ⟨fuel - 1, by omega⟩
    rw [Nat.toDigits, Nat.toDigitsCore.eq_2, Nat.toDigitsCore.eq_2]
    split_ifs with h0
    · rfl
    · have hlt : n / 10 < n := Nat.div_lt_self (by omega) (by norm_num)
      rw [ih _ hlt f (by omega), ih _ hlt n hlt, List.append_assoc]
      rfl

/-- The last digit comes off the end. -/
theorem decimal_of_ten_le {n : Nat} (h : 10 ≤ n) :
    decimal n = decimal (n / 10) ++ [(48 + n % 10).toUInt8] := by
  have hd : ∀ d, d < 10 → (Nat.digitChar d).toNat.toUInt8 = (48 + d).toUInt8 := by decide
  rw [decimal, Nat.toDigits, Nat.toDigitsCore.eq_2, if_neg (by omega),
    toDigitsCore_eq _ n (Nat.div_lt_self (by omega) (by norm_num)), List.map_append, decimal]
  simp [hd (n % 10) (Nat.mod_lt _ (by norm_num))]

/-- A number below ten is one digit. -/
theorem decimal_of_lt {n : Nat} (h : n < 10) : decimal n = [(48 + n).toUInt8] := by
  revert n; decide

/-- The digit loop reads a concatenation one part after the other. -/
theorem parseUintDigits_append (n : Nat) (s t : GoString) :
    parseUintDigits n (s ++ t) = parseUintDigits n s >>= fun m => parseUintDigits m t := by
  induction s generalizing n with
  | nil => rfl
  | cons c s ih =>
    simp only [List.cons_append, parseUintDigits]
    split_ifs <;> first | rfl | exact ih _

/-- One more digit, short of `maxUint64`. -/
theorem parseUintDigits_digit {m d : Nat} (hd : d < 10) (h : m * 10 + d ≤ maxUint64) :
    parseUintDigits m [(48 + d).toUInt8] = .ok (m * 10 + d) := by
  have hmax : maxUint64 = 18446744073709551615 := rfl
  have hc : ((48 + d).toUInt8).toNat = 48 + d := by
    simp [Nat.toUInt8, UInt8.toNat, UInt8.ofNat, Fin.ofNat]; omega
  simp only [parseUintDigits, isDigit, hc]
  rw [if_neg (by simp; omega), if_neg (by omega), if_neg (by omega), Nat.add_sub_cancel_left]

/-- `ParseUint` reads back every `uint64` that `%d` writes. -/
theorem parseUintDigits_decimal (n : Nat) (h : n ≤ maxUint64) :
    parseUintDigits 0 (decimal n) = .ok n := by
  induction n using Nat.strong_induction_on with
  | _ n ih =>
    by_cases h10 : n < 10
    · rw [decimal_of_lt h10, parseUintDigits_digit h10 (by omega), Nat.zero_mul, Nat.zero_add]
    · rw [decimal_of_ten_le (by omega), parseUintDigits_append,
        ih _ (Nat.div_lt_self (by omega) (by norm_num)) (by omega)]
      show parseUintDigits (n / 10) _ = _
      rw [parseUintDigits_digit (Nat.mod_lt _ (by norm_num)) (by omega), Nat.div_add_mod']

/-- `%d` writes at least one digit. -/
theorem decimal_ne_nil (n : Nat) : decimal n ≠ [] := by
  by_cases h : n < 10
  · simp [decimal_of_lt h]
  · simp [decimal_of_ten_le (Nat.le_of_not_lt h)]

/-- An `int64` read as a signed integer is in the signed range. -/
theorem toInt_range (x : BitVec 64) : -2 ^ 63 ≤ x.toInt ∧ x.toInt < 2 ^ 63 := by
  have := x.isLt
  rw [BitVec.toInt_eq_toNat_cond]; split <;> omega

/-- Reading an `int64` as a signed integer loses nothing. -/
theorem ofInt_toInt (x : BitVec 64) : BitVec.ofInt 64 x.toInt = x := by
  apply BitVec.eq_of_toNat_eq
  have := x.isLt
  rw [BitVec.toNat_ofInt, BitVec.toInt_eq_toNat_cond]; split <;> omega

/-- `strconv.ParseInt(s, 10, 64)` reads back every `int64` that `%d` writes. -/
theorem parseInt_formatInt (x : BitVec 64) : parseInt (formatInt x.toInt) = .ok x := by
  obtain ⟨hlo, hhi⟩ := toInt_range x
  have hread := parseUintDigits_decimal x.toInt.natAbs (by unfold maxUint64; omega)
  obtain ⟨c, rest, hcr⟩ := List.exists_cons_of_ne_nil (decimal_ne_nil x.toInt.natAbs)
  have hc : isDigit c = true := mem_decimal (hcr ▸ List.mem_cons_self c rest)
  have hc43 : c ≠ 43 ∧ c ≠ 45 :=
    ⟨fun h => absurd (h ▸ hc) (by decide), fun h => absurd (h ▸ hc) (by decide)⟩
  unfold formatInt
  by_cases hneg : x.toInt < 0
  · rw [if_pos hneg]
    simp only [parseInt, parseUint, or_true, if_true, decimal_ne_nil, if_false, hread,
      decide_True, Bool.not_true, Bool.false_eq_true, false_and, true_and]
    rw [if_neg (by omega), show -(x.toInt.natAbs : Int) = x.toInt by omega, ofInt_toInt]
  · rw [if_neg hneg, show x.toInt.toNat = x.toInt.natAbs by omega, hcr]
    simp only [parseInt, parseUint, if_neg (not_or.2 hc43), if_neg (List.cons_ne_nil _ _)]
    rw [← hcr, hread]
    simp only [hc43.2, decide_False, Bool.not_false, true_and, false_and, if_false]
    rw [if_neg (by omega), show (x.toInt.natAbs : Int) = x.toInt by omega, ofInt_toInt]

end QuantumGoUtils.Go.Strconv
