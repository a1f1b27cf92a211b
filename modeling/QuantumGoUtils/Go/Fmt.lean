import Mathlib
import QuantumGoUtils.Go.Unicode

/-!
# `fmt.Sprintf` with no arguments

`NewCockroachSQLDatabase` hands its connection string to `fmt.Sprintf` as the format, with
no argument to format. `doPrintf` copies the bytes up to each `%` and reads a verb after it:
flags, an argument index `[n]`, a width, a precision, and the verb itself. With no argument
every verb but `%` has nothing to print: it writes `%!v(MISSING)`, or `%!v(BADINDEX)` once
an index was read, a `*` width or precision writes `%!(BADWIDTH)` or `%!(BADPREC)`, and a
format that ends before its verb writes `%!(NOVERB)` and ends the loop. The numbers of a
width, a precision or an index are read only to find where they end; `parsenum` gives up
past 10⁶ and skips to the end of the format.

The loop is run with one unit of fuel per byte of the format, which is enough since every
step reads at least one byte (`printf_fuel`).

## Main results

* `sprintf_of_not_mem` — a format with no `%` is printed as it is.
* `sprintf_missing` — a `%`, at most seven digits and a plain ASCII verb become
  `%!v(MISSING)`, the rest of the format printed after it.
-/

namespace QuantumGoUtils.Go.Fmt

open QuantumGoUtils.Go.Strings QuantumGoUtils.Go.Unicode

/-- The flags `doPrintf` reads before a verb: `#`, `0`, `+`, `-` and space. -/
def isFlag (c : UInt8) : Bool := c = 35 || c = 48 || c = 43 || c = 45 || c = 32

/-- The flags loop: the format after the flags. -/
def skipFlags : GoString → GoString
  | c :: s => if isFlag c then skipFlags s else c :: s
  | [] => []

/-- `parsenum` from the number `num` read so far: whether a digit was read, and the format
after the digits. Once the number is `tooLarge`, past 10⁶, it gives up at the end of the
format. -/
def parsenum (num : Nat) (isnum : Bool) : GoString → Bool × GoString
  | c :: s =>
    if isDigit c then
      if 1000000 < num then (false, []) else parsenum (num * 10 + (c.toNat - 48)) true s
    else (isnum, c :: s)
  | [] => (isnum, [])

/-- `parseArgNumber` on the format after a `[`: whether the brackets hold a number, and the
format after what it consumes, the `[` alone when fewer than three bytes are left or no `]`
follows. -/
def parseArgNumber (s : GoString) : Bool × GoString :=
  if s.length < 2 then (false, s)
  else
    match indexByte s 93 with
    | none => (false, s)
    | some j => (decide (parsenum 0 false (s.take j) = (true, [])), s.drop (j + 1))

/-- What `doPrintf` knows while it reads one verb: the text written so far, whether the
argument number is still good, whether an index was just read, and the rest of the
format. -/
structure Scan where
  out : GoString
  good : Bool
  afterIndex : Bool
  rest : GoString

/-- `argNumber` with no arguments: an index is never in range, so a `[` turns the argument
number bad. -/
def Scan.argNumber (d : Scan) : Scan :=
  match d.rest with
  | 91 :: s =>
    { d with good := false, afterIndex := (parseArgNumber s).1, rest := (parseArgNumber s).2 }
  | _ => { d with afterIndex := false }

/-- The width: a `*` has no argument to take it from, and digits right after an index turn
the argument number bad. -/
def Scan.width (d : Scan) : Scan :=
  match d.rest with
  | 42 :: s => { d with out := d.out ++ lit "%!(BADWIDTH)", afterIndex := false, rest := s }
  | s =>
    { d with good := d.good && !(d.afterIndex && (parsenum 0 false s).1),
             rest := (parsenum 0 false s).2 }

/-- The precision, read when a `.` is followed by another byte. -/
def Scan.precision (d : Scan) : Scan :=
  match d.rest with
  | 46 :: c :: s =>
    let d := Scan.argNumber { d with good := d.good && !d.afterIndex, rest := c :: s }
    match d.rest with
    | 42 :: s => { d with out := d.out ++ lit "%!(BADPREC)", afterIndex := false, rest := s }
    | s => { d with rest := (parsenum 0 false s).2 }
  | _ => d

/-- `utf8.DecodeRuneInString`: the first rune Go reads, and the bytes after it. -/
def decodeRune (s : GoString) : Nat × GoString :=
  match utf8Segments s with
  | seg :: _ => (seg.value, s.drop seg.bytes.length)
  | [] => (runeError, [])

/-- One verb with no arguments, read from the byte after its `%`: the text it writes, and
the format after it, or `none` when the format ends before the verb. -/
def verb (s : GoString) : GoString × Option GoString :=
  let d := (Scan.argNumber ⟨[], true, false, skipFlags s⟩).width.precision
  let d := if d.afterIndex then d else d.argNumber
  match d.rest with
  | [] => (d.out ++ lit "%!(NOVERB)", none)
  | r =>
    let v := decodeRune r
    (d.out ++ (if v.1 = 37 then [37]
      else if d.good then lit "%!" ++ encodeRune v.1 ++ lit "(MISSING)"
      else lit "%!" ++ encodeRune v.1 ++ lit "(BADINDEX)"), some v.2)

/-- `doPrintf` with no arguments, with `fuel` steps: the bytes up to each `%` are copied,
and each verb writes what `verb` says. -/
def printf : Nat → GoString → GoString
  | 0, _ => []
  | _ + 1, [] => []
  | n + 1, c :: s =>
    if c = 37 then
      match verb s with
      | (out, none) => out
      | (out, some rest) => out ++ printf n rest
    else c :: printf n s

/-- `fmt.Sprintf(format)`. -/
def sprintf (format : GoString) : GoString := printf format.length format

example : sprintf (lit "p%40ss%%") = lit "p%!s(MISSING)s%" := by decide

example : sprintf (lit "%[1]d%*.3") = lit "%!d(BADINDEX)%!(BADWIDTH)%!(NOVERB)" := by decide

/-! ## Every step reads a byte -/

theorem length_skipFlags_le (s : GoString) : (skipFlags s).length ≤ s.length := by
  induction s with
  | nil => exact le_refl _
  | cons c s ih =>
    simp only [skipFlags]
    split
    · exact ih.trans (Nat.le_succ _)
    · exact le_refl _

theorem length_parsenum_le (num : Nat) (isnum : Bool) (s : GoString) :
    (parsenum num isnum s).2.length ≤ s.length := by
  induction s generalizing num isnum with
  | nil => exact le_refl _
  | cons c s ih =>
    simp only [parsenum]
    split
    · split
      · exact Nat.zero_le _
      · exact (ih _ _).trans (Nat.le_succ _)
    · exact le_refl _

theorem length_parseArgNumber_le (s : GoString) : (parseArgNumber s).2.length ≤ s.length := by
  unfold parseArgNumber
  split
  · exact le_refl _
  · split
    · exact le_refl _
    · simp only [List.length_drop]
      omega

theorem Scan.length_argNumber_le (d : Scan) : d.argNumber.rest.length ≤ d.rest.length := by
  unfold Scan.argNumber
  split
  next s h => rw [h]; exact (length_parseArgNumber_le s).trans (Nat.le_succ _)
  next => exact le_refl _

theorem Scan.length_width_le (d : Scan) : d.width.rest.length ≤ d.rest.length := by
  unfold Scan.width
  split
  next s h => rw [h]; exact Nat.le_succ _
  next => exact length_parsenum_le _ _ _

theorem Scan.length_precision_le (d : Scan) : d.precision.rest.length ≤ d.rest.length := by
  unfold Scan.precision
  split
  next c s h =>
    have h' := Scan.length_argNumber_le { d with good := d.good && !d.afterIndex, rest := c :: s }
    rw [h]
    dsimp only
    split
    next t h2 =>
      rw [h2] at h'
      simp only [List.length_cons] at h' ⊢
      omega
    next => exact (length_parsenum_le _ _ _).trans (h'.trans (by simp))
  next => exact le_refl _

theorem length_decodeRune_le (s : GoString) : (decodeRune s).2.length ≤ s.length := by
  unfold decodeRune
  split
  · simp only [List.length_drop]
    omega
  · exact Nat.zero_le _

/-- The format after a verb is part of the format after its `%`. -/
theorem length_verb_le {s rest : GoString} {out : GoString} (h : verb s = (out, some rest)) :
    rest.length ≤ s.length := by
  have hd := (Scan.length_precision_le _).trans <| (Scan.length_width_le _).trans <|
    (Scan.length_argNumber_le ⟨[], true, false, skipFlags s⟩).trans (length_skipFlags_le s)
  unfold verb at h
  dsimp only at h
  generalize (Scan.argNumber ⟨[], true, false, skipFlags s⟩).width.precision = d at hd h
  have he : (if d.afterIndex then d else d.argNumber).rest.length ≤ d.rest.length := by
    split
    · exact le_refl _
    · exact Scan.length_argNumber_le d
  generalize (if d.afterIndex then d else d.argNumber) = e at he h
  split at h
  · cases h
  · cases h
    exact (length_decodeRune_le _).trans (he.trans hd)

theorem printf_fuel_eq (k : Nat) : ∀ (s : GoString) (m n : Nat), s.length ≤ k → s.length ≤ m →
    s.length ≤ n → printf m s = printf n s := by
  induction k with
  | zero =>
    intro s m n hk _ _
    obtain rfl := List.length_eq_zero.mp (Nat.le_zero.mp hk)
    cases m <;> cases n <;> rfl
  | succ k ih =>
    intro s m n hk hm hn
    cases s with
    | nil => cases m <;> cases n <;> rfl
    | cons c s =>
      obtain ⟨m, rfl⟩ : ∃ m', m = m' + 1 := ⟨m - 1, by simp at hm; omega⟩
      obtain ⟨n, rfl⟩ : ∃ n', n = n' + 1 := ⟨n - 1, by simp at hn; omega⟩
      simp only [List.length_cons] at hk hm hn
      simp only [printf]
      by_cases hc : c = 37
      · rw [if_pos hc, if_pos hc]
        rcases hv : verb s with ⟨out, _ | rest⟩
        · rfl
        · have := length_verb_le hv
          simp only [ih rest m n (by omega) (by omega) (by omega)]
      · rw [if_neg hc, if_neg hc, ih s m n (by omega) (by omega) (by omega)]

/-- Fuel past the length of the format changes nothing. -/
theorem printf_fuel {s : GoString} {n : Nat} (h : s.length ≤ n) :
    printf n s = printf s.length s :=
  printf_fuel_eq n s n s.length h h le_rfl

/-! ## Plain text and a missing argument -/

/-- Bytes other than `%` are copied, one unit of fuel each. -/
theorem printf_append_of_not_mem {a : GoString} (ha : 37 ∉ a) (n : Nat) (t : GoString) :
    printf (a.length + n) (a ++ t) = a ++ printf n t := by
  induction a with
  | nil => simp
  | cons c a ih =>
    have hc : c ≠ 37 := fun h => ha (h ▸ List.mem_cons_self _ _)
    rw [List.length_cons, show a.length + 1 + n = a.length + n + 1 by omega, List.cons_append,
      printf, if_neg hc, ih fun h => ha (List.mem_cons_of_mem _ h), List.cons_append]

/-- **A format with no `%` is printed as it is.** -/
theorem sprintf_of_not_mem {s : GoString} (h : 37 ∉ s) : sprintf s = s := by
  simpa [printf] using printf_append_of_not_mem h 0 []

theorem Scan.argNumber_eq (d : Scan) (h : d.rest.head? ≠ some 91) :
    d.argNumber = { d with afterIndex := false } := by
  unfold Scan.argNumber
  split
  next s h' => simp [h'] at h
  next => rfl

theorem Scan.width_eq (d : Scan) (h : d.rest.head? ≠ some 42) :
    d.width = { d with good := d.good && !(d.afterIndex && (parsenum 0 false d.rest).1),
                       rest := (parsenum 0 false d.rest).2 } := by
  unfold Scan.width
  split
  next s h' => simp [h'] at h
  next => rfl

theorem Scan.precision_eq (d : Scan) (h : d.rest.head? ≠ some 46) : d.precision = d := by
  unfold Scan.precision
  split
  next c s h' => simp [h'] at h
  next => rfl

theorem decodeRune_ascii {v : UInt8} (hv : v.toNat < 0x80) (rest : GoString) :
    decodeRune (v :: rest) = (v.toNat, rest) := by
  simp [decodeRune, utf8Segments, segsAux, step_ascii [] hv, Seg.value, Seg.bytes]

/-- The flags loop stops at the first digit other than `0`, or at a verb that is no flag. -/
theorem skipFlags_digits {ds : GoString} (hds : ∀ c ∈ ds, isDigit c = true) {v : UInt8}
    (hv : isFlag v = false) (rest : GoString) :
    ∃ ds', (∀ c ∈ ds', isDigit c = true) ∧ ds'.length ≤ ds.length ∧
      skipFlags (ds ++ v :: rest) = ds' ++ v :: rest := by
  induction ds with
  | nil => exact ⟨[], by simp, le_rfl, by simp [skipFlags, hv]⟩
  | cons c ds ih =>
    obtain ⟨ds', hd', hl, h⟩ := ih fun x hx => hds x (List.mem_cons_of_mem _ hx)
    by_cases hf : isFlag c = true
    · exact ⟨ds', hd', Nat.le_succ_of_le hl, by
        rw [List.cons_append, skipFlags, if_pos hf, h]⟩
    · exact ⟨c :: ds, hds, le_rfl, by rw [List.cons_append, skipFlags, if_neg hf]⟩

/-- At most seven digits are read as a number, up to the first byte that is no digit. -/
theorem parsenum_digits {ds : GoString} (hds : ∀ c ∈ ds, isDigit c = true) (hlen : ds.length ≤ 7)
    {num : Nat} (hnum : num < 10 ^ (7 - ds.length)) (isnum : Bool) {v : UInt8}
    (hv : isDigit v = false) (rest : GoString) :
    parsenum num isnum (ds ++ v :: rest) = (isnum || !ds.isEmpty, v :: rest) := by
  induction ds generalizing num isnum with
  | nil =>
    simp only [List.nil_append, parsenum, hv, Bool.false_eq_true, ↓reduceIte, List.isEmpty_nil,
      Bool.not_true, Bool.or_false]
  | cons c ds ih =>
    have hc := hds c (List.mem_cons_self _ _)
    simp only [List.length_cons] at hlen hnum
    have hP : 10 ^ (7 - ds.length) = 10 ^ (7 - (ds.length + 1)) * 10 := by
      rw [← Nat.pow_succ]; congr 1; omega
    have hP6 : 10 ^ (7 - (ds.length + 1)) ≤ 10 ^ 6 := Nat.pow_le_pow_right (by omega) (by omega)
    have hd : c.toNat - 48 ≤ 9 := by simp only [isDigit, Bool.and_eq_true, decide_eq_true_eq] at hc; omega
    rw [List.cons_append, parsenum, if_pos hc, if_neg (by have : 10 ^ 6 = 1000000 := rfl; omega),
      ih (fun x hx => hds x (List.mem_cons_of_mem _ hx)) (by omega) (by omega)]
    simp only [Bool.true_or, List.isEmpty_cons, Bool.not_false, Bool.or_true]

/-- A verb byte that `doPrintf` reads as nothing but the verb: ASCII, and neither a digit
nor one of `#+- *.[%`. -/
def PlainVerb (v : UInt8) : Prop := v.toNat < 0x80 ∧ isDigit v = false ∧ v ∉ lit "#+- *.[%"

instance (v : UInt8) : Decidable (PlainVerb v) := inferInstanceAs (Decidable (_ ∧ _ ∧ _))

theorem PlainVerb.bytes {v : UInt8} (h : PlainVerb v) :
    isFlag v = false ∧ v ≠ 91 ∧ v ≠ 42 ∧ v ≠ 46 ∧ v.toNat ≠ 37 := by
  obtain ⟨ha, hd, hs⟩ := h
  have hl : lit "#+- *.[%" = [35, 43, 45, 32, 42, 46, 91, 37] := by decide
  simp only [hl, List.mem_cons, List.not_mem_nil, or_false, not_or] at hs
  obtain ⟨h35, h43, h45, h32, h42, h46, h91, h37⟩ := hs
  have h48 : v ≠ 48 := by rintro rfl; exact absurd hd (by decide)
  refine ⟨by simp [isFlag, h35, h43, h45, h32, h48], h91, h42, h46, fun h => h37 ?_⟩
  exact uint8_eq_iff.mpr h

/-- Digits and a plain verb, with no argument to print: `%!v(MISSING)`. -/
theorem verb_missing {ds : GoString} (hds : ∀ c ∈ ds, isDigit c = true) (hlen : ds.length ≤ 7)
    {v : UInt8} (hv : PlainVerb v) (rest : GoString) :
    verb (ds ++ v :: rest) = (lit "%!" ++ [v] ++ lit "(MISSING)", some rest) := by
  obtain ⟨hflag, h91, h42, h46, h37⟩ := hv.bytes
  obtain ⟨ds', hd', hl', hskip⟩ := skipFlags_digits hds hflag rest
  have hhead : ∀ b : UInt8, isDigit b = false → b ≠ v → (ds' ++ v :: rest).head? ≠ some b := by
    intro b hb hbv
    cases ds' with
    | nil => simpa using Ne.symm hbv
    | cons c _ =>
      rintro ⟨⟩
      exact absurd (hd' b (List.mem_cons_self _ _)) (by simp [hb])
  unfold verb
  rw [hskip, Scan.argNumber_eq ⟨[], true, false, _⟩ (hhead 91 rfl h91.symm), Scan.width_eq]
  · simp only [Bool.false_and, Bool.not_false, Bool.and_true,
      parsenum_digits hd' (hl'.trans hlen) (Nat.pos_pow_of_pos _ (by decide)) false hv.2.1]
    rw [Scan.precision_eq _ (by simpa using h46), if_neg Bool.false_ne_true,
      Scan.argNumber_eq _ (by simpa using h91)]
    simp only [decodeRune_ascii hv.1, if_neg h37, if_true, List.nil_append,
      encodeRune_one (show v.toNat ≤ 0x7F by have := hv.1; omega), toUInt8_toNat]
  · exact hhead 42 rfl h42.symm

/-- **A missing argument.** After a prefix with no `%`, a `%` followed by at most seven
digits and a plain verb `v` is printed as `%!v(MISSING)`, and the rest of the format after
it. -/
theorem sprintf_missing {a ds rest : GoString} (ha : 37 ∉ a) (hds : ∀ c ∈ ds, isDigit c = true)
    (hlen : ds.length ≤ 7) {v : UInt8} (hv : PlainVerb v) :
    sprintf (a ++ 37 :: (ds ++ v :: rest)) =
      a ++ lit "%!" ++ [v] ++ lit "(MISSING)" ++ sprintf rest := by
  have hlen' : (a ++ 37 :: (ds ++ v :: rest)).length =
      a.length + ((ds ++ v :: rest).length + 1) := by simp
  rw [sprintf, hlen', printf_append_of_not_mem ha, printf, if_pos rfl,
    verb_missing hds hlen hv rest]
  have hrest : rest.length ≤ (ds ++ v :: rest).length := by
    simp only [List.length_append, List.length_cons]
    omega
  simp only [printf_fuel hrest, sprintf, List.append_assoc]

end QuantumGoUtils.Go.Fmt
