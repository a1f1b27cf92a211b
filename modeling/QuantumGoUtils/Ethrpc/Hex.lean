import QuantumGoUtils.Go.Strconv

/-!
# Ethereum hex quantities (`ethrpc/hex.go`)

Every numeric JSON-RPC reply the client reads (balances, gas prices, nonces, the chain id)
is a hex quantity, decoded by `HexQuantity.Big`; `BigToHexQuantity` writes one. The decoder
strips a `0x` or `0X` prefix and hands the rest to `big.Int.SetString(s, 16)`, which reads
an optional sign before the digits (`setString16`, with `scanSign`).

A `*big.Int` is an `Option Int`, `none` being `nil`.

## Main results

* `bigToHexQuantity_of_pos` — a positive number is written `0x` and its `%x` digits.
* `big_bigToHexQuantity` — `Big` reads back every non-negative number written.
* `big_nonneg` — `Big` returns a negative number only for text that, after its prefix,
  starts with `-`; `big_minus_one` is such a text.
* `hexQuantity_codec` — the round trip and the sign law together.
-/

namespace QuantumGoUtils.Ethrpc

open QuantumGoUtils.Go.Strings QuantumGoUtils.Go.Strconv

/-- `HexQuantity`, a string holding a hex quantity. -/
abbrev HexQuantity := GoString

/-! ## Writing -/

/-- `big.Int.Text(16)`: a `-` before the digits of a negative number. -/
def bigText16 (n : Int) : GoString :=
  if n < 0 then 45 :: hexadecimal n.natAbs else hexadecimal n.toNat

/-- `BigToHexQuantity`: `0x0` for `nil` and zero, otherwise `0x` and the digits of
`Text(16)` with leading zeros trimmed. -/
def bigToHexQuantity (n : Option Int) : GoString :=
  match n with
  | none => lit "0x0"
  | some n => if n = 0 then lit "0x0" else lit "0x" ++ trimLeft (bigText16 n) (lit "0")

/-- The shape the spec gives a quantity: `0x0`, or `0x` and lower-case hex digits with no
leading zero. -/
def isQuantityText (t : GoString) : Bool :=
  t = lit "0x0" || (hasPrefix t (lit "0x") && !(t.drop 2).isEmpty &&
    (t.drop 2).all isLowerHexDigit && (t.drop 2).head? != some 48)

/-! ## Reading -/

/-- `big`'s `scanSign`: whether a `-` leads, and the text after a leading sign. -/
def scanSign (s : GoString) : Bool × GoString :=
  match s with
  | c :: rest => if c = 45 then (true, rest) else if c = 43 then (false, rest) else (false, s)
  | [] => (false, [])

/-- `big.Int.SetString(s, 16)`: an optional sign, then one or more hex digits of either
case, and nothing else. -/
def setString16 (s : GoString) : Option Int :=
  let (neg, digits) := scanSign s
  if digits.isEmpty || !digits.all isHexDigit then none
  else some (if neg then -(hexValue digits : Int) else hexValue digits)

/-- Why `HexQuantity.Big` fails. -/
inductive HexQuantityError where
  /-- "empty hex quantity" -/
  | empty
  /-- "invalid hex quantity: %q" -/
  | invalid (h : GoString)
  deriving DecidableEq, Repr

/-- `Strip0x`: drop a leading `0x` or `0X`. -/
def strip0x (s : GoString) : GoString :=
  if hasPrefix s (lit "0x") || hasPrefix s (lit "0X") then s.drop 2 else s

/-- `HexQuantity.Big`. -/
def HexQuantity.big (h : HexQuantity) : Except HexQuantityError Int :=
  if h.isEmpty then .error .empty
  else if h = lit "0x" ∨ h = lit "0x0" then .ok 0
  else
    let s := if hasPrefix h (lit "0x") || hasPrefix h (lit "0X") then h.drop 2 else h
    if s.isEmpty then .ok 0
    else
      match setString16 s with
      | some n => .ok n
      | none => .error (.invalid h)

/-! ## Writing then reading -/

/-- The first digit of `%x` of a positive number, which is not `0`. -/
theorem hexadecimal_cons {n : Nat} (h : n ≠ 0) :
    ∃ d cs, d ≠ 0 ∧ d < 16 ∧ hexadecimal n = hexDigit d :: cs := by
  obtain ⟨d, hd0, hd, hh⟩ := head_hexadecimal h
  obtain ⟨c, cs, hc⟩ := List.exists_cons_of_ne_nil (hexadecimal_ne_nil n)
  rw [hc] at hh
  exact ⟨d, cs, hd0, hd, hc.trans (by rw [Option.some.inj hh])⟩

/-- `TrimLeft` keeps `%x` of a positive number whole: it has no leading zero. -/
theorem trimLeft_hexadecimal {n : Nat} (h : n ≠ 0) :
    trimLeft (hexadecimal n) (lit "0") = hexadecimal n := by
  obtain ⟨d, cs, hd0, hd, hc⟩ := hexadecimal_cons h
  have : hexDigit d ≠ 48 := fun e => hd0 ((hexDigit_lower d hd).2.1.mp e)
  rw [hc, show lit "0" = [48] from rfl]
  simp [trimLeft, List.dropWhile_cons, this]

theorem bigToHexQuantity_of_pos {n : Int} (h : 0 < n) :
    bigToHexQuantity (some n) = lit "0x" ++ hexadecimal n.toNat := by
  simp only [bigToHexQuantity, bigText16, if_neg (show n ≠ 0 by omega),
    if_neg (show ¬ n < 0 by omega), trimLeft_hexadecimal (show n.toNat ≠ 0 by omega)]

/-- `SetString` reads `%x` of a number back: no sign, and hex digits only. -/
theorem setString16_hexadecimal {n : Nat} (h : n ≠ 0) :
    setString16 (hexadecimal n) = some (n : Int) := by
  obtain ⟨d, cs, -, hd, hc⟩ := hexadecimal_cons h
  have hl := (hexDigit_lower d hd).1
  have hsign : scanSign (hexadecimal n) = (false, hexadecimal n) := by
    have : (hexDigit d).toNat ≠ 45 ∧ (hexDigit d).toNat ≠ 43 := by
      simp only [isLowerHexDigit, isDigit, Bool.or_eq_true, Bool.and_eq_true,
        decide_eq_true_eq] at hl
      omega
    rw [hc, scanSign, if_neg (fun e => this.1 (by rw [e]; rfl)),
      if_neg (fun e => this.2 (by rw [e]; rfl))]
  have hall : (hexadecimal n).all isHexDigit = true := List.all_eq_true.mpr fun c hc => by
    have := mem_hexadecimal hc
    simp only [isLowerHexDigit, Bool.or_eq_true, Bool.and_eq_true, decide_eq_true_eq] at this
    simp only [isHexDigit, Bool.or_eq_true, Bool.and_eq_true, decide_eq_true_eq]
    tauto
  simp [setString16, hsign, hall, hexadecimal_ne_nil, hexValue_hexadecimal]

/-- `Big` with the prefix stripped by `Strip0x`. -/
theorem big_eq (h : HexQuantity) : HexQuantity.big h =
    if h.isEmpty then .error .empty
    else if h = lit "0x" ∨ h = lit "0x0" then .ok 0
    else if (strip0x h).isEmpty then .ok 0
    else
      match setString16 (strip0x h) with
      | some n => .ok n
      | none => .error (.invalid h) := rfl

/-- Digits of a positive number, read after a `0x`, give the number. -/
theorem big_hexadecimal {n : Nat} (h : n ≠ 0) :
    HexQuantity.big (lit "0x" ++ hexadecimal n) = .ok n := by
  obtain ⟨d, cs, hd0, hd, hc⟩ := hexadecimal_cons h
  have h48 : hexDigit d ≠ 48 := fun e => hd0 ((hexDigit_lower d hd).2.1.mp e)
  have hne : ¬ (48 :: 120 :: hexadecimal n = [48, 120] ∨
      48 :: 120 :: hexadecimal n = [48, 120, 48]) := by
    rw [hc]; simp [h48]
  have hstrip : strip0x (48 :: 120 :: hexadecimal n) = hexadecimal n := by
    simp [strip0x, hasPrefix, show lit "0x" = [48, 120] from rfl]
  have hE : (hexadecimal n).isEmpty = false := by rw [hc]; rfl
  rw [big_eq, show lit "0x" ++ hexadecimal n = 48 :: 120 :: hexadecimal n from rfl,
    show lit "0x" = [48, 120] from rfl, show lit "0x0" = [48, 120, 48] from rfl, hstrip, hE,
    setString16_hexadecimal h]
  simp only [List.isEmpty_cons, Bool.false_eq_true, if_false, if_neg hne]

/-- `Big` reads back every non-negative number `BigToHexQuantity` writes. -/
theorem big_bigToHexQuantity {n : Int} (h : 0 ≤ n) :
    HexQuantity.big (bigToHexQuantity (some n)) = .ok n := by
  rcases h.eq_or_lt with rfl | h
  · rfl
  · rw [bigToHexQuantity_of_pos h, big_hexadecimal (by omega), Int.toNat_of_nonneg h.le]

/-- What `BigToHexQuantity` writes for a non-negative number has the spec's shape. -/
theorem isQuantityText_bigToHexQuantity {n : Int} (h : 0 ≤ n) :
    isQuantityText (bigToHexQuantity (some n)) = true := by
  rcases h.eq_or_lt with rfl | h
  · rfl
  · obtain ⟨d, cs, hd0, hd, hc⟩ := hexadecimal_cons (show n.toNat ≠ 0 by omega)
    have h48 : hexDigit d ≠ 48 := fun e => hd0 ((hexDigit_lower d hd).2.1.mp e)
    have hall : ∀ c ∈ hexadecimal n.toNat, isLowerHexDigit c = true := fun c hc => mem_hexadecimal hc
    rw [hc] at hall
    rw [bigToHexQuantity_of_pos h, hc, isQuantityText, show lit "0x0" = [48, 120, 48] from rfl,
      show lit "0x" = [48, 120] from rfl]
    simp [hasPrefix, h48, List.all_eq_true.mpr hall]

/-- `SetString` returns a negative number only after a leading `-`. -/
theorem setString16_nonneg {t : GoString} {v : Int} (h : setString16 t = some v)
    (ht : t.head? ≠ some 45) : 0 ≤ v := by
  have hneg : (scanSign t).1 = false := by
    cases t with
    | nil => rfl
    | cons c rest =>
      have hc : c ≠ 45 := fun e => ht (by rw [e]; rfl)
      simp only [scanSign, if_neg hc]
      split_ifs <;> rfl
  unfold setString16 at h
  rcases hs : scanSign t with ⟨neg, digits⟩
  rw [hs] at h hneg
  obtain rfl : neg = false := hneg
  simp only [Bool.false_eq_true, ↓reduceIte] at h
  split_ifs at h
  cases h
  exact Int.natCast_nonneg _

/-- `Big` returns a negative number only for text whose first byte after the prefix is
`-`: the sign `SetString` reads. -/
theorem big_nonneg {s : GoString} {v : Int} (h : HexQuantity.big s = .ok v)
    (hs : (strip0x s).head? ≠ some 45) : 0 ≤ v := by
  rw [big_eq] at h
  split_ifs at h
  · cases h; exact le_rfl
  · cases h; exact le_rfl
  · split at h
    · rename_i n hn
      cases h
      exact setString16_nonneg hn hs
    · cases h

/-- **The hex-quantity codec.** `BigToHexQuantity` writes every non-negative number in the
spec's shape and `Big` reads it back; a number `Big` returns is non-negative unless the text
after the prefix starts with `-`. -/
theorem hexQuantity_codec :
    (∀ n : Int, 0 ≤ n → isQuantityText (bigToHexQuantity (some n)) = true ∧
      HexQuantity.big (bigToHexQuantity (some n)) = .ok n) ∧
    ∀ s v, HexQuantity.big s = .ok v → (strip0x s).head? ≠ some 45 → 0 ≤ v :=
  ⟨fun _ h => ⟨isQuantityText_bigToHexQuantity h, big_bigToHexQuantity h⟩, fun _ _ => big_nonneg⟩

/-- `0xff`, written and read. -/
theorem hexQuantity_codec_ff :
    (0 ≤ (255 : Int) ∧ isQuantityText (bigToHexQuantity (some 255)) = true ∧
      HexQuantity.big (bigToHexQuantity (some 255)) = .ok 255) ∧
    HexQuantity.big (lit "0xff") = .ok 255 ∧ (strip0x (lit "0xff")).head? ≠ some 45 ∧
      0 ≤ (255 : Int) :=
  have hb : HexQuantity.big (lit "0xff") = .ok 255 := by decide
  have hs : (strip0x (lit "0xff")).head? ≠ some 45 := by decide
  ⟨⟨by decide, hexQuantity_codec.1 255 (by decide)⟩, hb, hs, hexQuantity_codec.2 _ _ hb hs⟩

/-- `SetString` reads a sign, so `Big` decodes `0x-1` as -1. -/
theorem big_minus_one : HexQuantity.big (lit "0x-1") = .ok (-1) := by decide

/-! ## Prefixes and raw transactions -/

/-- `NormalizeHex0x`: the empty string as it is; otherwise `0x` before the text, in place
of a `0x` or `0X` it starts with. -/
def normalizeHex0x (s : GoString) : GoString :=
  if s = [] then []
  else if hasPrefix s (lit "0x") || hasPrefix s (lit "0X") then lit "0x" ++ s.drop 2
  else lit "0x" ++ s

/-- Why `ValidateRawTxHex` refuses a transaction. -/
inductive RawTxHexError where
  /-- "invalid raw tx hex length" -/
  | length
  /-- The error of `hex.DecodeString`, returned as it is. -/
  | hex (e : HexError)
  deriving DecidableEq, Repr

/-- `ValidateRawTxHex`. -/
def validateRawTxHex (raw : GoString) : Except RawTxHexError Unit :=
  let s := strip0x raw
  if s = [] ∨ s.length % 2 ≠ 0 then .error .length
  else
    match hexDecode s with
    | .ok _ => .ok ()
    | .error e => .error (.hex e)

theorem strip0x_hex0x (t : GoString) : strip0x (lit "0x" ++ t) = t := by
  rw [strip0x, if_pos (by rw [hasPrefix_append, Bool.true_or])]
  rfl

theorem normalizeHex0x_of_ne_nil {s : GoString} (h : s ≠ []) :
    normalizeHex0x s = lit "0x" ++ strip0x s := by
  unfold normalizeHex0x strip0x
  rw [if_neg h]
  split_ifs <;> rfl

/-- `Strip0x` reads the same digits from what `NormalizeHex0x` writes as from its input. -/
theorem strip0x_normalizeHex0x (s : GoString) : strip0x (normalizeHex0x s) = strip0x s := by
  by_cases h : s = []
  · subst h; rfl
  · rw [normalizeHex0x_of_ne_nil h, strip0x_hex0x]

/-- `NormalizeHex0x` is idempotent. -/
theorem normalizeHex0x_normalizeHex0x (s : GoString) :
    normalizeHex0x (normalizeHex0x s) = normalizeHex0x s := by
  by_cases h : s = []
  · subst h; rfl
  · have hne : lit "0x" ++ strip0x s ≠ [] := List.cons_ne_nil _ _
    rw [normalizeHex0x_of_ne_nil h, normalizeHex0x_of_ne_nil hne, strip0x_hex0x]

/-- `hex.DecodeString` accepts exactly the strings of hex digits of even length. -/
theorem hexDecode_ok_iff : ∀ s : GoString,
    (∃ out, hexDecode s = .ok out) ↔ s.length % 2 = 0 ∧ ∀ c ∈ s, isHexDigit c = true
  | [] => by simp [hexDecode]
  | [p] => by
    simp only [hexDecode, List.length_singleton, Nat.one_mod, one_ne_zero, false_and, iff_false]
    rintro ⟨out, h⟩
    split at h <;> cases h
  | p :: q :: rest => by
    have ih := hexDecode_ok_iff rest
    simp only [hexDecode, List.length_cons, List.mem_cons, forall_eq_or_imp]
    rw [show rest.length + 1 + 1 = rest.length + 2 from rfl, Nat.add_mod_right]
    by_cases hp : isHexDigit p = true
    · by_cases hq : isHexDigit q = true
      · simp only [hp, hq, Bool.not_true, Bool.false_eq_true, if_false, true_and, ← ih]
        constructor
        · rintro ⟨out, h⟩
          rcases hr : hexDecode rest with e | r
          · rw [hr] at h; cases h
          · exact ⟨r, rfl⟩
        · rintro ⟨r, hr⟩
          exact ⟨_, by rw [hr]; rfl⟩
      · simp [hp, hq]
    · simp [hp]

/-- **What `ValidateRawTxHex` accepts.** A raw transaction passes exactly when, after an
optional `0x` or `0X`, it is a non-empty string of hex digits, upper or lower case, of even
length. -/
theorem validateRawTxHex_iff (raw : GoString) :
    validateRawTxHex raw = .ok () ↔
      strip0x raw ≠ [] ∧ (strip0x raw).length % 2 = 0 ∧ ∀ c ∈ strip0x raw, isHexDigit c = true := by
  unfold validateRawTxHex
  dsimp only
  split_ifs with h
  · simp only [reduceCtorEq, false_iff, not_and]
    intro hne heven _
    exact h.elim hne (absurd heven)
  · rw [not_or, not_not] at h
    rw [← hexDecode_ok_iff]
    rcases hd : hexDecode (strip0x raw) with e | out
    · simp
    · simp [h.1]

end QuantumGoUtils.Ethrpc
