import QuantumGoUtils.Go.Strings

/-!
# UTF-8 decoding and the Unicode-aware `strings` functions

Go decodes a string into runes with `utf8.DecodeRune`: a well-formed sequence yields its
code point, and any byte that does not start one yields `utf8.RuneError` with width one,
decoding then resumes at the next byte. `utf8Segments` is that decoder run over a whole
string, written as a machine that reads one byte at a time and keeps the bytes of a
sequence it has started (`pend`), so that it is structural. When a byte does not continue
the sequence, every pending byte becomes a bad segment and the byte is read afresh, which
is what `DecodeRune` returning `RuneError, 1` and resuming at the next byte does.

`strings.TrimSpace`, `strings.ToLower`, `strings.ToUpper` and `utf8.ValidString` are
then functions of the segments. Go's case mapping for runes above U+007F comes from the
`unicode` package's tables, which are not part of the repository: they are a parameter
(`CaseMap`); on ASCII the mapping is Go's own and needs no table.

## Main results

* `flatMap_utf8Segments` — decoding loses and invents no byte.
* `trimSpace_of_ends` — a string that starts and ends with an ASCII non-space byte is its
  own `strings.TrimSpace`.
* `toUpper_of_upper` — `strings.ToUpper` leaves an ASCII string with no lower-case letter
  unchanged.
-/

namespace QuantumGoUtils.Go.Unicode

open QuantumGoUtils.Go.Strings

/-- One decoded piece of a string: a well-formed sequence and its code point, or a byte
that starts no well-formed sequence (read by Go as `utf8.RuneError`). -/
inductive Seg where
  | rune (r : Nat) (bytes : GoString)
  | bad (b : UInt8)
  deriving DecidableEq, Repr

/-- `utf8.RuneError`, U+FFFD. -/
def runeError : Nat := 0xFFFD

/-- The rune Go's `range` loop reads for a segment. -/
def Seg.value : Seg → Nat
  | .rune r _ => r
  | .bad _ => runeError

/-- The bytes a segment covers. -/
def Seg.bytes : Seg → GoString
  | .rune _ bs => bs
  | .bad b => [b]

/-- The size half of Go's `first` table: the length of the sequence a byte at or above
`0x80` starts, or `0` when it starts none. -/
def seqLen (b : UInt8) : Nat :=
  let b := b.toNat
  if b < 0xC2 then 0 else if b ≤ 0xDF then 2 else if b ≤ 0xEF then 3 else if b ≤ 0xF4 then 4
  else 0

/-- Low end of the second byte's accepted range (Go's `acceptRanges`). -/
def acceptLo (lead : UInt8) : Nat := if lead = 0xE0 then 0xA0 else if lead = 0xF0 then 0x90 else 0x80

/-- High end of the second byte's accepted range (Go's `acceptRanges`). -/
def acceptHi (lead : UInt8) : Nat := if lead = 0xED then 0x9F else if lead = 0xF4 then 0x8F else 0xBF

/-- The code point of a complete well-formed sequence. -/
def seqValue : GoString → Nat
  | [b0, b1] => b0.toNat % 32 * 64 + b1.toNat % 64
  | [b0, b1, b2] => b0.toNat % 16 * 4096 + b1.toNat % 64 * 64 + b2.toNat % 64
  | [b0, b1, b2, b3] =>
    b0.toNat % 8 * 262144 + b1.toNat % 64 * 4096 + b2.toNat % 64 * 64 + b3.toNat % 64
  | _ => runeError

/-- Whether `b` may stand at position `k + 1` of a sequence led by `lead`. -/
def continues (lead : UInt8) (k : Nat) (b : UInt8) : Bool :=
  if k = 0 then acceptLo lead ≤ b.toNat && b.toNat ≤ acceptHi lead
  else 0x80 ≤ b.toNat && b.toNat ≤ 0xBF

/-- A byte read with no sequence under way: an ASCII byte is a rune, a lead byte starts a
sequence, any other byte is bad. -/
def start (b : UInt8) : List Seg × GoString :=
  if b.toNat < 0x80 then ([.rune b.toNat [b]], [])
  else if 2 ≤ seqLen b then ([], [b])
  else ([.bad b], [])

/-- One byte of decoding: the segments it completes and the bytes then pending. When `b`
does not continue the pending sequence, each pending byte is bad and `b` is read afresh. -/
def step (pend : GoString) (b : UInt8) : List Seg × GoString :=
  match pend with
  | [] => start b
  | p :: ps =>
    if continues p ps.length b then
      if ps.length + 2 = seqLen p then ([.rune (seqValue (p :: ps ++ [b])) (p :: ps ++ [b])], [])
      else ([], p :: ps ++ [b])
    else ((p :: ps).map .bad ++ (start b).1, (start b).2)

/-- The decoder from a pending sequence: at the end each pending byte is bad. -/
def segsAux : GoString → GoString → List Seg
  | pend, [] => pend.map .bad
  | pend, b :: s => (step pend b).1 ++ segsAux (step pend b).2 s

/-- The runes Go reads from a string, with the bytes each one covers. -/
def utf8Segments (s : GoString) : List Seg := segsAux [] s

@[simp] theorem flatMap_map_bad (l : GoString) : (l.map Seg.bad).flatMap Seg.bytes = l := by
  induction l <;> simp_all [Seg.bytes]

theorem start_bytes (b : UInt8) : (start b).1.flatMap Seg.bytes ++ (start b).2 = [b] := by
  unfold start
  split
  · rfl
  · split <;> rfl

/-- One step of decoding loses and invents no byte. -/
theorem step_bytes (pend : GoString) (b : UInt8) :
    (step pend b).1.flatMap Seg.bytes ++ (step pend b).2 = pend ++ [b] := by
  cases pend with
  | nil => exact start_bytes b
  | cons p ps =>
    simp only [step]
    split
    · split <;> simp [Seg.bytes]
    · simp [Seg.bytes, start_bytes]

/-- Decoding loses and invents no byte, from any pending prefix. -/
theorem flatMap_segsAux (pend s : GoString) :
    (segsAux pend s).flatMap Seg.bytes = pend ++ s := by
  induction s generalizing pend with
  | nil => simp [segsAux]
  | cons b s ih =>
    rw [segsAux, List.flatMap_append, ih, ← List.append_assoc, step_bytes]
    simp

/-- Decoding loses and invents no byte. -/
theorem flatMap_utf8Segments (s : GoString) : (utf8Segments s).flatMap Seg.bytes = s := by
  simpa using flatMap_segsAux [] s

/-- Every byte that continues a sequence is at least `0x80`. -/
theorem le_of_continues {p c : UInt8} {k : Nat} (h : continues p k c = true) :
    0x80 ≤ c.toNat := by
  have hlo : 0x80 ≤ acceptLo p := by unfold acceptLo; split_ifs <;> decide
  unfold continues at h
  split at h <;> simp only [Bool.and_eq_true, decide_eq_true_eq] at h <;> omega

theorem continues_of_lt {c : UInt8} (hc : c.toNat < 0x80) (p : UInt8) (k : Nat) :
    continues p k c = false := by
  cases h : continues p k c
  · rfl
  · have := le_of_continues h
    omega

/-- An ASCII byte ends every pending sequence and is a segment of its own. -/
theorem step_ascii (pend : GoString) {c : UInt8} (hc : c.toNat < 0x80) :
    step pend c = (pend.map .bad ++ [.rune c.toNat [c]], []) := by
  cases pend with
  | nil => simp [step, start, hc]
  | cons p ps => simp [step, start, hc, continues_of_lt hc]

/-- An ASCII byte at the end of a string is its last segment. -/
theorem segsAux_append_ascii (pend s : GoString) {c : UInt8} (hc : c.toNat < 0x80) :
    ∃ segs, segsAux pend (s ++ [c]) = segs ++ [.rune c.toNat [c]] := by
  induction s generalizing pend with
  | nil => exact ⟨pend.map .bad, by simp [segsAux, step_ascii pend hc]⟩
  | cons b s ih =>
    obtain ⟨segs, h⟩ := ih (step pend b).2
    exact ⟨(step pend b).1 ++ segs, by simp [segsAux, h]⟩

/-! ## `unicode.IsSpace` and `strings.TrimSpace` -/

/-- `unicode.IsSpace`: the Latin-1 spaces and the rest of Unicode's `White_Space`. -/
def isSpaceRune (r : Nat) : Bool :=
  (9 ≤ r && r ≤ 13) || r == 32 || r == 0x85 || r == 0xA0 || r == 0x1680 ||
  (0x2000 ≤ r && r ≤ 0x200A) || r == 0x2028 || r == 0x2029 || r == 0x202F ||
  r == 0x205F || r == 0x3000

/-- A segment that `TrimSpace` removes; a bad byte reads as `RuneError`, not a space. -/
def Seg.isSpace : Seg → Bool
  | .rune r _ => isSpaceRune r
  | .bad _ => false

/-- `strings.TrimSpace`: drop the leading and trailing white-space runes. -/
def trimSpace (s : GoString) : GoString :=
  ((((utf8Segments s).dropWhile Seg.isSpace).reverse.dropWhile Seg.isSpace).reverse).flatMap
    Seg.bytes

/-- A string that starts and ends with an ASCII non-space byte is its own
`strings.TrimSpace`. -/
theorem trimSpace_of_ends {c d : UInt8} {s : GoString} (hc : c.toNat < 0x80)
    (hcs : isSpaceRune c.toNat = false) (hd : d.toNat < 0x80) (hds : isSpaceRune d.toNat = false) :
    trimSpace (c :: s ++ [d]) = c :: s ++ [d] := by
  obtain ⟨segs, hsegs⟩ := segsAux_append_ascii [] s hd
  have hseg : utf8Segments (c :: s ++ [d]) =
      .rune c.toNat [c] :: segs ++ [.rune d.toNat [d]] := by
    simp [utf8Segments, segsAux, step, start, hc, hsegs]
  have hbytes := flatMap_utf8Segments (c :: s ++ [d])
  rw [hseg] at hbytes
  rw [trimSpace, hseg]
  simpa [Seg.isSpace, hcs, hds] using hbytes

/-- `strings.TrimSpace` leaves a string alone when its first and last bytes are ASCII and
not white space. -/
theorem trimSpace_eq_self {s : GoString} {c d : UInt8} (hc : s.head? = some c)
    (hd : s.getLast? = some d) (hca : c.toNat < 0x80) (hcs : isSpaceRune c.toNat = false)
    (hda : d.toNat < 0x80) (hds : isSpaceRune d.toNat = false) : trimSpace s = s := by
  obtain ⟨t, rfl⟩ : ∃ t, s = c :: t := by
    cases s with
    | nil => cases hc
    | cons a t => cases hc; exact ⟨t, rfl⟩
  rcases List.eq_nil_or_concat t with rfl | ⟨u, e, rfl⟩
  · simp [trimSpace, utf8Segments, segsAux, step, start, hca, Seg.isSpace, hcs, Seg.bytes]
  · have he : e = d := by simpa [List.getLast?_cons] using hd
    subst he
    simpa using trimSpace_of_ends (s := u) hca hcs hda hds

/-- A hex digit is an ASCII byte and not white space. -/
theorem isHexDigit_ascii {c : UInt8} (h : isHexDigit c = true) :
    c.toNat < 0x80 ∧ isSpaceRune c.toNat = false := by
  simp only [isHexDigit, isDigit, Bool.or_eq_true, Bool.and_eq_true, decide_eq_true_eq] at h
  simp only [isSpaceRune, Bool.or_eq_false_iff, Bool.and_eq_false_iff, beq_eq_false_iff_ne,
    decide_eq_false_iff_not]
  omega

/-! ## Case mapping -/

/-- The `unicode` package's simple case mappings for runes above U+007F. Go's tables are
not part of the repository, so they are a parameter of the model. -/
structure CaseMap where
  /-- `unicode.ToLower` on a rune above U+007F. -/
  lower : Nat → Nat
  /-- `unicode.ToUpper` on a rune above U+007F. -/
  upper : Nat → Nat

/-- `unicode.ToLower`. -/
def lowerRune (U : CaseMap) (r : Nat) : Nat :=
  if r ≤ 0x7F then (if 65 ≤ r ∧ r ≤ 90 then r + 32 else r) else U.lower r

/-- `unicode.ToUpper`. -/
def upperRune (U : CaseMap) (r : Nat) : Nat :=
  if r ≤ 0x7F then (if 97 ≤ r ∧ r ≤ 122 then r - 32 else r) else U.upper r

/-- `utf8.AppendRune`: surrogates and values above U+10FFFF encode as `RuneError`. -/
def encodeRune (r : Nat) : GoString :=
  let r := if (0xD800 ≤ r ∧ r ≤ 0xDFFF) ∨ 0x10FFFF < r then runeError else r
  if r ≤ 0x7F then [r.toUInt8]
  else if r ≤ 0x7FF then [(0xC0 + r / 64).toUInt8, (0x80 + r % 64).toUInt8]
  else if r ≤ 0xFFFF then
    [(0xE0 + r / 4096).toUInt8, (0x80 + r / 64 % 64).toUInt8, (0x80 + r % 64).toUInt8]
  else
    [(0xF0 + r / 262144).toUInt8, (0x80 + r / 4096 % 64).toUInt8,
      (0x80 + r / 64 % 64).toUInt8, (0x80 + r % 64).toUInt8]

/-- `strings.Map`: a rune the mapping fixes keeps its bytes; a bad byte is read as
`RuneError` and written as its image. -/
def mapRunes (f : Nat → Nat) (s : GoString) : GoString :=
  (utf8Segments s).flatMap fun
    | .rune r bs => if f r = r then bs else encodeRune (f r)
    | .bad _ => encodeRune (f runeError)

/-- `strings.ToLower`: byte-wise on an ASCII string, `strings.Map(unicode.ToLower)`
otherwise. -/
def toLower (U : CaseMap) (s : GoString) : GoString :=
  if isAscii s then lowerAscii s else mapRunes (lowerRune U) s

/-- `strings.ToUpper`: byte-wise on an ASCII string, `strings.Map(unicode.ToUpper)`
otherwise. -/
def toUpper (U : CaseMap) (s : GoString) : GoString :=
  if isAscii s then s.map upperByte else mapRunes (upperRune U) s

/-- `strings.ToUpper` leaves an ASCII string with no lower-case letter unchanged. -/
theorem toUpper_of_upper (U : CaseMap) {s : GoString} (hs : isAscii s = true)
    (hl : s.all (fun c => !isLowerAscii c) = true) : toUpper U s = s := by
  simp only [toUpper, hs, if_true]
  simp only [List.all_eq_true, Bool.not_eq_true'] at hl
  conv => rhs; rw [← List.map_id s]
  exact List.map_congr_left fun c hc => by simp [upperByte, hl c hc]

/-- `strings.ToLower` on an ASCII string is ASCII lower-casing. -/
theorem toLower_of_ascii (U : CaseMap) {s : GoString} (hs : isAscii s = true) :
    toLower U s = lowerAscii s := by
  simp [toLower, hs]

/-! ## `utf8.ValidString` -/

/-- `utf8.ValidString`: the string decodes with no bad byte. -/
def validString (s : GoString) : Bool :=
  (utf8Segments s).all fun
    | .bad _ => false
    | .rune _ _ => true

/-! ## Well-formed sequences

The decoder emits a rune only for a complete well-formed sequence, and such a sequence is
the encoding of its code point; conversely, reading the encoding of a scalar value gives
it back. -/

theorem toNat_toUInt8 (n : Nat) : n.toUInt8.toNat = n % 256 := BitVec.toNat_ofNat _ _

theorem uint8_eq_iff {a b : UInt8} : a = b ↔ a.toNat = b.toNat := ⟨congrArg _, UInt8.toNat.inj⟩

theorem acceptLo_eq (p : UInt8) :
    acceptLo p = if p.toNat = 0xE0 then 0xA0 else if p.toNat = 0xF0 then 0x90 else 0x80 := by
  simp only [acceptLo, uint8_eq_iff]; rfl

theorem acceptHi_eq (p : UInt8) :
    acceptHi p = if p.toNat = 0xED then 0x9F else if p.toNat = 0xF4 then 0x8F else 0xBF := by
  simp only [acceptHi, uint8_eq_iff]; rfl

/-- A Unicode scalar value: at most U+10FFFF and not a surrogate. -/
def IsScalar (r : Nat) : Prop := r ≤ 0x10FFFF ∧ ¬(0xD800 ≤ r ∧ r ≤ 0xDFFF)

/-- The encoding of a rune below U+0800 by its value. -/
theorem encodeRune_two {r : Nat} (h1 : 0x80 ≤ r) (h2 : r ≤ 0x7FF) :
    encodeRune r = [(0xC0 + r / 64).toUInt8, (0x80 + r % 64).toUInt8] := by
  simp only [encodeRune]
  rw [if_neg (show ¬((0xD800 ≤ r ∧ r ≤ 0xDFFF) ∨ 0x10FFFF < r) by omega), if_neg (by omega),
    if_pos h2]

theorem encodeRune_three {r : Nat} (h1 : 0x800 ≤ r) (h2 : r ≤ 0xFFFF) (hs : ¬(0xD800 ≤ r ∧ r ≤ 0xDFFF)) :
    encodeRune r = [(0xE0 + r / 4096).toUInt8, (0x80 + r / 64 % 64).toUInt8, (0x80 + r % 64).toUInt8] := by
  simp only [encodeRune]
  rw [if_neg (show ¬((0xD800 ≤ r ∧ r ≤ 0xDFFF) ∨ 0x10FFFF < r) by omega), if_neg (by omega),
    if_neg (by omega), if_pos h2]

theorem encodeRune_four {r : Nat} (h1 : 0x10000 ≤ r) (h2 : r ≤ 0x10FFFF) :
    encodeRune r = [(0xF0 + r / 262144).toUInt8, (0x80 + r / 4096 % 64).toUInt8,
      (0x80 + r / 64 % 64).toUInt8, (0x80 + r % 64).toUInt8] := by
  simp only [encodeRune]
  rw [if_neg (show ¬((0xD800 ≤ r ∧ r ≤ 0xDFFF) ∨ 0x10FFFF < r) by omega), if_neg (by omega),
    if_neg (by omega), if_neg (by omega)]

/-- The pending bytes of the decoder: a lead byte and the continuation bytes read so far,
fewer than the lead asks for. -/
def PendWF : GoString → Prop
  | [] => True
  | p :: ps => ps.length + 2 ≤ seqLen p ∧ ∀ i (h : i < ps.length), continues p i ps[i] = true

/-- A segment the decoder emits: a rune is the encoding of a scalar value. -/
def SegWF : Seg → Prop
  | .rune r bs => IsScalar r ∧ bs = encodeRune r
  | .bad _ => True

theorem seqLen_eq (p : UInt8) : seqLen p = if p.toNat < 0xC2 then 0 else if p.toNat ≤ 0xDF then 2
    else if p.toNat ≤ 0xEF then 3 else if p.toNat ≤ 0xF4 then 4 else 0 := rfl

theorem continues_zero_iff {p b : UInt8} :
    continues p 0 b = true ↔ acceptLo p ≤ b.toNat ∧ b.toNat ≤ acceptHi p := by
  simp [continues]

theorem continues_succ_iff {p b : UInt8} {k : Nat} :
    continues p (k + 1) b = true ↔ 0x80 ≤ b.toNat ∧ b.toNat ≤ 0xBF := by
  simp [continues]

/-- The lead bytes of two-, three- and four-byte sequences. -/
theorem lead_range {p : UInt8} {n : Nat} (h : n + 2 = seqLen p) :
    (n = 0 ∧ 0xC2 ≤ p.toNat ∧ p.toNat ≤ 0xDF) ∨ (n = 1 ∧ 0xE0 ≤ p.toNat ∧ p.toNat ≤ 0xEF) ∨
      (n = 2 ∧ 0xF0 ≤ p.toNat ∧ p.toNat ≤ 0xF4) := by
  rw [seqLen_eq] at h; split_ifs at h <;> omega

/-- Go's `acceptRanges` for the second byte, spelled out. -/
theorem accept_iff {p c : UInt8} :
    acceptLo p ≤ c.toNat ∧ c.toNat ≤ acceptHi p ↔
      (p.toNat = 0xE0 → 0xA0 ≤ c.toNat) ∧ (p.toNat = 0xF0 → 0x90 ≤ c.toNat) ∧
        (p.toNat = 0xED → c.toNat ≤ 0x9F) ∧ (p.toNat = 0xF4 → c.toNat ≤ 0x8F) ∧
        0x80 ≤ c.toNat ∧ c.toNat ≤ 0xBF := by
  rw [acceptLo_eq, acceptHi_eq]; split_ifs <;> omega

/-- The base-64 digits of a number, read back. -/
theorem digits_two (x y : Nat) (hy : y < 64) : (x * 64 + y) / 64 = x ∧ (x * 64 + y) % 64 = y := by
  omega

theorem digits_three (x y z : Nat) (hy : y < 64) (hz : z < 64) :
    (x * 4096 + y * 64 + z) / 4096 = x ∧ (x * 4096 + y * 64 + z) / 64 % 64 = y ∧
      (x * 4096 + y * 64 + z) % 64 = z := by
  omega

theorem digits_four (x y z w : Nat) (hy : y < 64) (hz : z < 64) (hw : w < 64) :
    (x * 262144 + y * 4096 + z * 64 + w) / 262144 = x ∧
      (x * 262144 + y * 4096 + z * 64 + w) / 4096 % 64 = y ∧
      (x * 262144 + y * 4096 + z * 64 + w) / 64 % 64 = z ∧ (x * 262144 + y * 4096 + z * 64 + w) % 64 = w := by
  omega

/-- A continuation byte is `0x80` plus its six payload bits. -/
theorem cont_byte {b : UInt8} (hb : 0x80 ≤ b.toNat ∧ b.toNat ≤ 0xBF) :
    (0x80 + b.toNat % 64) % 256 = b.toNat := by
  omega

theorem segWF_two {p b : UInt8} (hp : 0xC2 ≤ p.toNat ∧ p.toNat ≤ 0xDF)
    (hb : 0x80 ≤ b.toNat ∧ b.toNat ≤ 0xBF) : SegWF (.rune (seqValue [p, b]) [p, b]) := by
  have hv : seqValue [p, b] = p.toNat % 32 * 64 + b.toNat % 64 := rfl
  have hlo : 0x80 ≤ seqValue [p, b] := by omega
  have hhi : seqValue [p, b] ≤ 0x7FF := by omega
  refine ⟨⟨by omega, by omega⟩, ?_⟩
  have ep : (0xC0 + p.toNat % 32) % 256 = p.toNat := by omega
  obtain ⟨h1, h2⟩ := digits_two (p.toNat % 32) _ (Nat.mod_lt b.toNat (by decide))
  rw [encodeRune_two hlo hhi, hv, h1, h2]
  simp only [List.cons.injEq, uint8_eq_iff, toNat_toUInt8, ep, cont_byte hb, and_self]

theorem segWF_three {p c b : UInt8} (hp : 0xE0 ≤ p.toNat ∧ p.toNat ≤ 0xEF)
    (hc : acceptLo p ≤ c.toNat ∧ c.toNat ≤ acceptHi p) (hb : 0x80 ≤ b.toNat ∧ b.toNat ≤ 0xBF) :
    SegWF (.rune (seqValue [p, c, b]) [p, c, b]) := by
  obtain ⟨hE0, -, hED, -, hc1, hc2⟩ := accept_iff.mp hc
  have hv : seqValue [p, c, b] = p.toNat % 16 * 4096 + c.toNat % 64 * 64 + b.toNat % 64 := rfl
  have hlo : 0x800 ≤ seqValue [p, c, b] := by omega
  have hhi : seqValue [p, c, b] ≤ 0xFFFF := by omega
  have hs : ¬(0xD800 ≤ seqValue [p, c, b] ∧ seqValue [p, c, b] ≤ 0xDFFF) := by omega
  refine ⟨⟨by omega, hs⟩, ?_⟩
  have ep : (0xE0 + p.toNat % 16) % 256 = p.toNat := by omega
  obtain ⟨h1, h2, h3⟩ := digits_three (p.toNat % 16) _ _ (Nat.mod_lt c.toNat (by decide))
    (Nat.mod_lt b.toNat (by decide))
  rw [encodeRune_three hlo hhi hs, hv, h1, h2, h3]
  simp only [List.cons.injEq, uint8_eq_iff, toNat_toUInt8, ep, cont_byte ⟨hc1, hc2⟩, cont_byte hb,
    and_self]

theorem segWF_four {p c d b : UInt8} (hp : 0xF0 ≤ p.toNat ∧ p.toNat ≤ 0xF4)
    (hc : acceptLo p ≤ c.toNat ∧ c.toNat ≤ acceptHi p) (hd : 0x80 ≤ d.toNat ∧ d.toNat ≤ 0xBF)
    (hb : 0x80 ≤ b.toNat ∧ b.toNat ≤ 0xBF) :
    SegWF (.rune (seqValue [p, c, d, b]) [p, c, d, b]) := by
  obtain ⟨-, hF0, -, hF4, hc1, hc2⟩ := accept_iff.mp hc
  have hv : seqValue [p, c, d, b] =
      p.toNat % 8 * 262144 + c.toNat % 64 * 4096 + d.toNat % 64 * 64 + b.toNat % 64 := rfl
  have hlo : 0x10000 ≤ seqValue [p, c, d, b] := by omega
  have hhi : seqValue [p, c, d, b] ≤ 0x10FFFF := by omega
  refine ⟨⟨hhi, by omega⟩, ?_⟩
  have ep : (0xF0 + p.toNat % 8) % 256 = p.toNat := by omega
  obtain ⟨h1, h2, h3, h4⟩ := digits_four (p.toNat % 8) _ _ _ (Nat.mod_lt c.toNat (by decide))
    (Nat.mod_lt d.toNat (by decide)) (Nat.mod_lt b.toNat (by decide))
  rw [encodeRune_four hlo hhi, hv, h1, h2, h3, h4]
  simp only [List.cons.injEq, uint8_eq_iff, toNat_toUInt8, ep, cont_byte ⟨hc1, hc2⟩, cont_byte hd,
    cont_byte hb, and_self]

/-- A complete well-formed sequence is the encoding of its value, a scalar value. -/
theorem segWF_complete {p b : UInt8} {ps : GoString} (hl : ps.length + 2 = seqLen p)
    (hc : ∀ i (h : i < ps.length), continues p i ps[i] = true)
    (hb : continues p ps.length b = true) :
    SegWF (.rune (seqValue (p :: ps ++ [b])) (p :: ps ++ [b])) := by
  rcases ps with _ | ⟨c1, _ | ⟨c2, _ | ⟨c3, ps⟩⟩⟩ <;> simp only [List.length_nil, List.length_cons] at hl
  · have hp : 0xC2 ≤ p.toNat ∧ p.toNat ≤ 0xDF := by rcases lead_range hl with h | h | h <;> omega
    have := accept_iff.mp (continues_zero_iff.mp hb)
    exact segWF_two hp ⟨this.2.2.2.2.1, this.2.2.2.2.2⟩
  · have hp : 0xE0 ≤ p.toNat ∧ p.toNat ≤ 0xEF := by rcases lead_range hl with h | h | h <;> omega
    exact segWF_three hp (continues_zero_iff.mp (hc 0 (by simp))) (continues_succ_iff.mp hb)
  · have hp : 0xF0 ≤ p.toNat ∧ p.toNat ≤ 0xF4 := by rcases lead_range hl with h | h | h <;> omega
    exact segWF_four hp (continues_zero_iff.mp (hc 0 (by simp))) (continues_succ_iff.mp (hc 1 (by simp)))
      (continues_succ_iff.mp hb)
  · rcases lead_range hl with h | h | h <;> omega

theorem encodeRune_one {r : Nat} (h : r ≤ 0x7F) : encodeRune r = [r.toUInt8] := by
  simp only [encodeRune]
  rw [if_neg (show ¬((0xD800 ≤ r ∧ r ≤ 0xDFFF) ∨ 0x10FFFF < r) by omega), if_pos h]

theorem toUInt8_toNat (b : UInt8) : b.toNat.toUInt8 = b :=
  uint8_eq_iff.mpr (by rw [toNat_toUInt8]; exact Nat.mod_eq_of_lt (UInt8.toNat_lt_size b))

theorem start_wf (b : UInt8) : (∀ seg ∈ (start b).1, SegWF seg) ∧ PendWF (start b).2 := by
  unfold start
  split_ifs with h1 h2
  · refine ⟨?_, trivial⟩
    simp only [List.mem_singleton, forall_eq, SegWF, IsScalar, encodeRune_one (Nat.le_of_lt_succ h1),
      toUInt8_toNat, and_true]
    omega
  · exact ⟨by simp, by simpa [PendWF] using h2⟩
  · exact ⟨by simp [SegWF], trivial⟩

/-- One step of decoding keeps the pending bytes well formed and emits well-formed
segments. -/
theorem step_wf {pend : GoString} (h : PendWF pend) (b : UInt8) :
    (∀ seg ∈ (step pend b).1, SegWF seg) ∧ PendWF (step pend b).2 := by
  cases pend with
  | nil => exact start_wf b
  | cons p ps =>
    obtain ⟨hl, hc⟩ := h
    simp only [step]
    split_ifs with hb hl'
    · exact ⟨by simpa using segWF_complete hl' hc hb, trivial⟩
    · refine ⟨by simp, ?_, fun i hi => ?_⟩
      · simp only [List.append_eq, List.length_append, List.length_singleton]; omega
      · simp only [List.append_eq] at hi ⊢
        rcases Nat.lt_succ_iff_lt_or_eq.mp (by simpa using hi) with hi | rfl
        · rw [List.getElem_append_left hi]; exact hc i hi
        · rw [List.getElem_concat_length _ _ _ rfl]; exact hb
    · refine ⟨fun seg hs => ?_, (start_wf b).2⟩
      rcases List.mem_append.mp hs with hs | hs
      · obtain ⟨_, -, rfl⟩ := List.mem_map.mp hs; trivial
      · exact (start_wf b).1 seg hs

/-- Every segment the decoder emits from well-formed pending bytes is well formed. -/
theorem segsAux_wf {pend : GoString} (h : PendWF pend) (s : GoString) :
    ∀ seg ∈ segsAux pend s, SegWF seg := by
  induction s generalizing pend with
  | nil =>
    intro seg hs
    obtain ⟨_, -, rfl⟩ := List.mem_map.mp hs; trivial
  | cons b s ih =>
    intro seg hs
    rcases List.mem_append.mp hs with hs | hs
    · exact (step_wf h b).1 seg hs
    · exact ih (step_wf h b).2 seg hs

theorem utf8Segments_wf (s : GoString) : ∀ seg ∈ utf8Segments s, SegWF seg :=
  segsAux_wf (show PendWF [] from trivial) s

/-- The decoder after reading `s` from the pending bytes `pend`: the segments it completes
and the bytes it leaves pending. -/
def feed : GoString → GoString → List Seg × GoString
  | pend, [] => ([], pend)
  | pend, b :: s => ((step pend b).1 ++ (feed (step pend b).2 s).1, (feed (step pend b).2 s).2)

theorem segsAux_eq_feed (pend s : GoString) :
    segsAux pend s = (feed pend s).1 ++ (feed pend s).2.map .bad := by
  induction s generalizing pend with
  | nil => rfl
  | cons b s ih => simp [segsAux, feed, ih]

theorem start_lead {b : UInt8} (h1 : 0xC2 ≤ b.toNat) (h2 : b.toNat ≤ 0xF4) : start b = ([], [b]) := by
  simp only [start, seqLen_eq]
  rw [if_neg (by omega), if_pos (by split_ifs <;> omega)]

theorem step_cont {p b : UInt8} {t : GoString} (hc : continues p t.length b = true)
    (hl : t.length + 2 ≠ seqLen p) : step (p :: t) b = ([], p :: t ++ [b]) := by
  simp [step, hc, hl]

theorem step_complete {p b : UInt8} {t : GoString} (hc : continues p t.length b = true)
    (hl : t.length + 2 = seqLen p) :
    step (p :: t) b = ([.rune (seqValue (p :: t ++ [b])) (p :: t ++ [b])], []) := by
  simp [step, hc, hl]

theorem toNat_toUInt8_of_lt {n : Nat} (h : n < 256) : n.toUInt8.toNat = n := by
  rw [toNat_toUInt8, Nat.mod_eq_of_lt h]

theorem feed_cons (pend : GoString) (b : UInt8) (s : GoString) :
    feed pend (b :: s) = ((step pend b).1 ++ (feed (step pend b).2 s).1, (feed (step pend b).2 s).2) :=
  rfl

theorem feed_two {x y : UInt8} (hx : 0xC2 ≤ x.toNat ∧ x.toNat ≤ 0xDF)
    (hy : 0x80 ≤ y.toNat ∧ y.toNat ≤ 0xBF) :
    feed [] [x, y] = ([.rune (seqValue [x, y]) [x, y]], []) := by
  have hl : seqLen x = 2 := by rw [seqLen_eq]; split_ifs <;> omega
  have hc : continues x 0 y = true := by
    rw [continues_zero_iff, acceptLo_eq, acceptHi_eq]; split_ifs <;> omega
  have h1 : step [] x = ([], [x]) := start_lead hx.1 (by omega)
  have h2 := step_complete (t := []) hc (by simp [hl])
  simp only [feed_cons, h1, h2]; rfl

theorem feed_three {x y z : UInt8} (hx : 0xE0 ≤ x.toNat ∧ x.toNat ≤ 0xEF)
    (hy : acceptLo x ≤ y.toNat ∧ y.toNat ≤ acceptHi x) (hz : 0x80 ≤ z.toNat ∧ z.toNat ≤ 0xBF) :
    feed [] [x, y, z] = ([.rune (seqValue [x, y, z]) [x, y, z]], []) := by
  have hl : seqLen x = 3 := by rw [seqLen_eq]; split_ifs <;> omega
  have h1 : step [] x = ([], [x]) := start_lead (by omega) (by omega)
  have h2 := step_cont (p := x) (t := []) (continues_zero_iff.mpr hy) (by simp [hl])
  have h3 := step_complete (p := x) (t := [y]) (continues_succ_iff (k := 0).mpr hz) (by simp [hl])
  simp only [feed_cons, h1, h2, List.nil_append, List.cons_append, h3]; rfl

theorem feed_four {x y z w : UInt8} (hx : 0xF0 ≤ x.toNat ∧ x.toNat ≤ 0xF4)
    (hy : acceptLo x ≤ y.toNat ∧ y.toNat ≤ acceptHi x) (hz : 0x80 ≤ z.toNat ∧ z.toNat ≤ 0xBF)
    (hw : 0x80 ≤ w.toNat ∧ w.toNat ≤ 0xBF) :
    feed [] [x, y, z, w] = ([.rune (seqValue [x, y, z, w]) [x, y, z, w]], []) := by
  have hl : seqLen x = 4 := by rw [seqLen_eq]; split_ifs <;> omega
  have h1 : step [] x = ([], [x]) := start_lead (by omega) (by omega)
  have h2 := step_cont (p := x) (t := []) (continues_zero_iff.mpr hy) (by simp [hl])
  have h3 := step_cont (p := x) (t := [y]) (continues_succ_iff (k := 0).mpr hz) (by simp [hl])
  have h4 := step_complete (p := x) (t := [y, z]) (continues_succ_iff (k := 1).mpr hw) (by simp [hl])
  simp only [feed_cons, h1, h2, List.nil_append, List.cons_append, h3, h4]; rfl

theorem cont_mod (m : Nat) : (0x80 + m % 64) % 64 = m % 64 := by
  omega

/-- The payload bits of an encoding put back together give the rune. -/
theorem payload_two {r : Nat} (h : r ≤ 0x7FF) :
    (0xC0 + r / 64) % 32 * 64 + (0x80 + r % 64) % 64 = r := by
  rw [show (0xC0 + r / 64) % 32 = r / 64 by omega, cont_mod]
  omega

theorem payload_three {r : Nat} (h : r ≤ 0xFFFF) :
    (0xE0 + r / 4096) % 16 * 4096 + (0x80 + r / 64 % 64) % 64 * 64 + (0x80 + r % 64) % 64 = r := by
  have e1 := Nat.div_add_mod r 64
  have e2 := Nat.div_add_mod (r / 64) 64
  rw [Nat.div_div_eq_div_mul] at e2
  rw [show (0xE0 + r / 4096) % 16 = r / 4096 by omega, cont_mod, cont_mod]
  omega

theorem payload_four {r : Nat} (h : r ≤ 0x10FFFF) :
    (0xF0 + r / 262144) % 8 * 262144 + (0x80 + r / 4096 % 64) % 64 * 4096 +
      (0x80 + r / 64 % 64) % 64 * 64 + (0x80 + r % 64) % 64 = r := by
  have e1 := Nat.div_add_mod r 64
  have e2 := Nat.div_add_mod (r / 64) 64
  have e3 := Nat.div_add_mod (r / 4096) 64
  rw [Nat.div_div_eq_div_mul] at e2 e3
  rw [show (0xF0 + r / 262144) % 8 = r / 262144 by omega, cont_mod, cont_mod, cont_mod]
  omega

/-- Decoding the encoding of a scalar value gives back the value, as one segment, and
leaves nothing pending. -/
theorem feed_encodeRune {r : Nat} (h : IsScalar r) :
    feed [] (encodeRune r) = ([.rune r (encodeRune r)], []) := by
  obtain ⟨hmax, hsur⟩ := h
  by_cases h1 : r ≤ 0x7F
  · have hx := toNat_toUInt8_of_lt (show r < 256 by omega)
    simp only [encodeRune_one h1, feed, step, start, hx, if_pos (show r < 0x80 by omega),
      List.append_nil]
  by_cases h2 : r ≤ 0x7FF
  · rw [encodeRune_two (by omega) h2]
    have hx := toNat_toUInt8_of_lt (show 0xC0 + r / 64 < 256 by omega)
    have hy := toNat_toUInt8_of_lt (show 0x80 + r % 64 < 256 by omega)
    rw [feed_two (by omega) (by omega)]
    congr
    simp only [seqValue, hx, hy, payload_two h2]
  by_cases h3 : r ≤ 0xFFFF
  · rw [encodeRune_three (by omega) h3 hsur]
    have hx := toNat_toUInt8_of_lt (show 0xE0 + r / 4096 < 256 by omega)
    have hy := toNat_toUInt8_of_lt (show 0x80 + r / 64 % 64 < 256 by omega)
    have hz := toNat_toUInt8_of_lt (show 0x80 + r % 64 < 256 by omega)
    rw [feed_three (by omega) (accept_iff.mpr (by rw [hx, hy]; omega))
      (by omega)]
    congr
    simp only [seqValue, hx, hy, hz, payload_three h3]
  · rw [encodeRune_four (by omega) hmax]
    have hx := toNat_toUInt8_of_lt (show 0xF0 + r / 262144 < 256 by omega)
    have hy := toNat_toUInt8_of_lt (show 0x80 + r / 4096 % 64 < 256 by omega)
    have hz := toNat_toUInt8_of_lt (show 0x80 + r / 64 % 64 < 256 by omega)
    have hw := toNat_toUInt8_of_lt (show 0x80 + r % 64 < 256 by omega)
    rw [feed_four (by omega) (accept_iff.mpr (by rw [hx, hy]; omega))
      (by omega) (by omega)]
    congr
    simp only [seqValue, hx, hy, hz, hw, payload_four hmax]

/-- Every byte of the encoding of a scalar value from U+0080 on is at least `0x80`. -/
theorem encodeRune_ge {r : Nat} (h : IsScalar r) (h80 : 0x80 ≤ r) :
    ∀ c ∈ encodeRune r, 0x80 ≤ c.toNat := by
  obtain ⟨hmax, hsur⟩ := h
  by_cases h2 : r ≤ 0x7FF
  · rw [encodeRune_two h80 h2]
    simp only [List.mem_cons, List.mem_singleton, List.not_mem_nil, or_false, forall_eq_or_imp,
      forall_eq]
    rw [toNat_toUInt8_of_lt (by omega), toNat_toUInt8_of_lt (by omega)]; omega
  by_cases h3 : r ≤ 0xFFFF
  · rw [encodeRune_three (by omega) h3 hsur]
    simp only [List.mem_cons, List.mem_singleton, List.not_mem_nil, or_false, forall_eq_or_imp,
      forall_eq]
    rw [toNat_toUInt8_of_lt (by omega), toNat_toUInt8_of_lt (by omega),
      toNat_toUInt8_of_lt (by omega)]; omega
  · rw [encodeRune_four (by omega) hmax]
    simp only [List.mem_cons, List.mem_singleton, List.not_mem_nil, or_false, forall_eq_or_imp,
      forall_eq]
    rw [toNat_toUInt8_of_lt (by omega), toNat_toUInt8_of_lt (by omega),
      toNat_toUInt8_of_lt (by omega), toNat_toUInt8_of_lt (by omega)]; omega

/-- An ASCII string decodes byte by byte. -/
theorem utf8Segments_ascii {s : GoString} (h : ∀ c ∈ s, c.toNat < 0x80) :
    utf8Segments s = s.map fun c => .rune c.toNat [c] := by
  induction s with
  | nil => rfl
  | cons c s ih =>
    have hc := h c (List.mem_cons_self _ _)
    simp only [utf8Segments, segsAux, step_ascii [] hc, List.map_nil, List.nil_append, List.map_cons,
      List.singleton_append] at ih ⊢
    rw [ih fun x hx => h x (List.mem_cons_of_mem _ hx)]

theorem validString_of_ascii {s : GoString} (h : ∀ c ∈ s, c.toNat < 0x80) : validString s = true := by
  simp [validString, utf8Segments_ascii h]

/-- In valid UTF-8 an ASCII byte is a rune of its own: no longer sequence holds it. -/
theorem exists_seg_of_ascii {s : GoString} (hv : validString s = true) {c : UInt8} (hc : c ∈ s)
    (h80 : c.toNat < 0x80) : ∃ seg ∈ utf8Segments s, seg.value = c.toNat := by
  rw [← flatMap_utf8Segments s, List.mem_flatMap] at hc
  obtain ⟨seg, hseg, hcs⟩ := hc
  refine ⟨seg, hseg, ?_⟩
  have hwf := utf8Segments_wf s seg hseg
  cases seg with
  | bad b => simp [validString, List.all_eq_true] at hv; exact absurd (hv _ hseg) (by simp)
  | rune r bs =>
    obtain ⟨hr, rfl⟩ := hwf
    simp only [Seg.bytes] at hcs
    by_cases h : 0x80 ≤ r
    · exact absurd (encodeRune_ge hr h c hcs) (by omega)
    · rw [encodeRune_one (by omega), List.mem_singleton] at hcs
      simp only [Seg.value, hcs, toNat_toUInt8_of_lt (show r < 256 by omega)]

end QuantumGoUtils.Go.Unicode
