import QuantumGoUtils.Go.Strings

/-!
# `encoding/base64`

The standard alphabet of RFC 4648 as Go's `base64.StdEncoding` (padded with `=`) and
`base64.RawStdEncoding` (unpadded) write it, and `StdEncoding.DecodeString`, which the
key-file code and `encoding/json`'s `[]byte` fields read it with.

Go's decoder skips `\r` and `\n` wherever they stand, and it is not strict: the low bits
of a final character that no output byte uses are ignored, so a padded encoding has
several spellings. The offset a `CorruptInputError` reports is not kept: every caller in
the repository maps the error to one of its own.

## Main results

* `StdEncoding.decodeString_encodeToString` — decoding a padded encoding gives the bytes
  back.
-/

namespace QuantumGoUtils.Go.Base64

open QuantumGoUtils.Go.Strings

/-! ## The alphabet -/

/-- The character of a 6-bit value: `A`–`Z`, `a`–`z`, `0`–`9`, `+`, `/`. -/
def encodeChar (v : Nat) : UInt8 :=
  if v < 26 then (65 + v).toUInt8
  else if v < 52 then (71 + v).toUInt8
  else if v < 62 then (v - 4).toUInt8
  else if v = 62 then 43
  else 47

/-- `decodeMap`: the 6-bit value of an alphabet character. -/
def decodeChar (c : UInt8) : Option Nat :=
  if isUpperAscii c then some (c.toNat - 65)
  else if isLowerAscii c then some (c.toNat - 71)
  else if isDigit c then some (c.toNat + 4)
  else if c.toNat = 43 then some 62
  else if c.toNat = 47 then some 63
  else none

theorem decodeChar_encodeChar : ∀ v : Fin 64, decodeChar (encodeChar v) = some v.val := by
  decide

/-- The padding character is not in the alphabet. -/
theorem decodeChar_pad : decodeChar 61 = none := rfl

/-! ## Encoding -/

/-- Three bytes as four characters, six bits each, high bits first. -/
def encodeQuantum (a b c : UInt8) : GoString :=
  let v := a.toNat * 65536 + b.toNat * 256 + c.toNat
  [encodeChar (v / 262144), encodeChar (v / 4096 % 64), encodeChar (v / 64 % 64),
    encodeChar (v % 64)]

/-- `Encoding.Encode`: whole quanta, then the one or two bytes left as three or two
characters, padded with `=` to four when `padded`. -/
def encode (padded : Bool) : GoString → GoString
  | a :: b :: c :: rest => encodeQuantum a b c ++ encode padded rest
  | [a, b] => (encodeQuantum a b 0).take 3 ++ (if padded then [61] else [])
  | [a] => (encodeQuantum a 0 0).take 2 ++ (if padded then [61, 61] else [])
  | [] => []

/-- `base64.StdEncoding.EncodeToString`. -/
def StdEncoding.encodeToString (s : GoString) : GoString := encode true s

/-- `base64.RawStdEncoding.EncodeToString`. -/
def RawStdEncoding.encodeToString (s : GoString) : GoString := encode false s

/-! ## Decoding -/

/-- The three bytes of four 6-bit values. -/
def decodeQuantum (w x y z : Nat) : GoString :=
  let v := w * 262144 + x * 4096 + y * 64 + z
  [(v / 65536).toUInt8, (v / 256 % 256).toUInt8, (v % 256).toUInt8]

/-- `decodeQuantum` of `StdEncoding`, line breaks removed: whole quanta, the last of which
may end in `==` (one byte) or `=` (two bytes), with nothing after it. -/
def decodeQuanta : GoString → Option GoString
  | [] => some []
  | a :: b :: c :: d :: rest =>
    match decodeChar a, decodeChar b, decodeChar c, decodeChar d with
    | some w, some x, some y, some z => (decodeQuantum w x y z ++ ·) <$> decodeQuanta rest
    | some w, some x, some y, none =>
      if d = 61 && rest.isEmpty then some ((decodeQuantum w x y 0).take 2) else none
    | some w, some x, none, none =>
      if c = 61 && d = 61 && rest.isEmpty then some ((decodeQuantum w x 0 0).take 1) else none
    | _, _, _, _ => none
  | _ => none

/-- `base64.StdEncoding.DecodeString`: `\r` and `\n` are skipped, the rest decoded. -/
def StdEncoding.decodeString (s : GoString) : Option GoString :=
  decodeQuanta (s.filter fun c => c != 10 && c != 13)

/-! ## Round trip -/

private theorem toUInt8_of_eq_toNat {n : Nat} {a : UInt8} (h : n = a.toNat) : n.toUInt8 = a := by
  subst h
  exact UInt8.toNat.inj (UInt8.toNat_ofNat_of_lt (UInt8.toNat_lt_size a))

/-- The 24-bit value of three bytes. -/
private theorem quantum_lt (a b c : UInt8) :
    a.toNat * 65536 + b.toNat * 256 + c.toNat < 16777216 := by
  have := UInt8.toNat_lt_size a; have := UInt8.toNat_lt_size b
  have := UInt8.toNat_lt_size c; simp only [UInt8.size] at *; omega

/-- A quantum is four alphabet characters whose 6-bit values decode to its bytes; the
values that only zero bytes fill are zero. -/
private theorem encodeQuantum_spec (a b c : UInt8) :
    ∃ w x y z c0 c1 c2 c3, encodeQuantum a b c = [c0, c1, c2, c3] ∧
      decodeChar c0 = some w ∧ decodeChar c1 = some x ∧ decodeChar c2 = some y ∧
      decodeChar c3 = some z ∧ decodeQuantum w x y z = [a, b, c] ∧
      (c = 0 → z = 0) ∧ (b = 0 → c = 0 → y = 0) := by
  have h := quantum_lt a b c
  have := UInt8.toNat_lt_size b; have := UInt8.toNat_lt_size c
  simp only [UInt8.size] at *
  refine ⟨_, _, _, _, _, _, _, _, rfl, decodeChar_encodeChar ⟨_, by omega⟩,
    decodeChar_encodeChar ⟨_, Nat.mod_lt _ (by omega)⟩,
    decodeChar_encodeChar ⟨_, Nat.mod_lt _ (by omega)⟩,
    decodeChar_encodeChar ⟨_, Nat.mod_lt _ (by omega)⟩, ?_, ?_, ?_⟩
  · simp only [decodeQuantum, List.cons.injEq, and_true]
    exact ⟨toUInt8_of_eq_toNat (by omega), toUInt8_of_eq_toNat (by omega),
      toUInt8_of_eq_toNat (by omega)⟩
  · rintro rfl; simp only [UInt8.toNat_zero]; omega
  · rintro rfl rfl; simp only [UInt8.toNat_zero]; omega

theorem decodeQuanta_encode (s : GoString) : decodeQuanta (encode true s) = some s := by
  induction s using encode.induct true with
  | case1 a b c rest ih =>
    obtain ⟨w, x, y, z, c0, c1, c2, c3, he, h0, h1, h2, h3, hq, -⟩ := encodeQuantum_spec a b c
    rw [encode, he]
    simp only [List.cons_append, List.nil_append, List.append_eq, decodeQuanta, h0, h1, h2, h3, ih,
      hq]
    rfl
  | case2 a b =>
    obtain ⟨w, x, y, z, c0, c1, c2, c3, he, h0, h1, h2, -, hq, hz, -⟩ := encodeQuantum_spec a b 0
    cases hz rfl
    rw [encode, he]
    simp [decodeQuanta, h0, h1, h2, decodeChar_pad, hq]
  | case3 a =>
    obtain ⟨w, x, y, z, c0, c1, c2, c3, he, h0, h1, -, -, hq, hz, hy⟩ := encodeQuantum_spec a 0 0
    cases hz rfl; cases hy rfl rfl
    rw [encode, he]
    simp [decodeQuanta, h0, h1, decodeChar_pad, hq]
  | case4 => rfl

/-- Every character of an encoding is in the alphabet or is the padding `=`. -/
theorem mem_encode {padded : Bool} {s : GoString} {c : UInt8} (h : c ∈ encode padded s) :
    (decodeChar c).isSome ∨ c = 61 := by
  have hq : ∀ a b d, c ∈ encodeQuantum a b d → (decodeChar c).isSome := by
    intro a b d hc
    obtain ⟨w, x, y, z, c0, c1, c2, c3, he, h0, h1, h2, h3, -⟩ := encodeQuantum_spec a b d
    rw [he] at hc
    simp only [List.mem_cons, List.mem_singleton, List.not_mem_nil, or_false] at hc
    rcases hc with rfl | rfl | rfl | rfl <;> simp [*]
  induction s using encode.induct padded with
  | case1 a b d rest ih =>
    rw [encode, List.mem_append] at h
    exact h.elim (fun h => .inl (hq _ _ _ h)) ih
  | case2 a b =>
    rw [encode, List.mem_append] at h
    refine h.elim (fun h => .inl (hq _ _ _ (List.mem_of_mem_take h))) fun h => .inr ?_
    split at h <;> simp_all
  | case3 a =>
    rw [encode, List.mem_append] at h
    refine h.elim (fun h => .inl (hq _ _ _ (List.mem_of_mem_take h))) fun h => .inr ?_
    split at h <;> simp_all
  | case4 => simp [encode] at h

/-- **Base64 round trip.** `StdEncoding.DecodeString` reads back what
`StdEncoding.EncodeToString` wrote. -/
theorem StdEncoding.decodeString_encodeToString (s : GoString) :
    StdEncoding.decodeString (StdEncoding.encodeToString s) = some s := by
  have hf : (encode true s).filter (fun c => c != 10 && c != 13) = encode true s := by
    refine List.filter_eq_self.mpr fun c hc => ?_
    have h43 : 43 ≤ c.toNat := by
      rcases mem_encode hc with h | rfl
      · revert h; unfold decodeChar
        split_ifs <;> simp_all [isUpperAscii, isLowerAscii, isDigit] <;> omega
      · decide
    simp only [bne_iff_ne, Bool.and_eq_true, ne_eq]
    constructor <;> rintro rfl <;> exact absurd h43 (by decide)
  rw [StdEncoding.decodeString, StdEncoding.encodeToString, hf, decodeQuanta_encode]

end QuantumGoUtils.Go.Base64
