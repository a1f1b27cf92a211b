import Mathlib.Data.List.Basic

/-!
# Go strings as byte sequences

A Go `string` is an immutable sequence of bytes with no encoding invariant: it may hold
any bytes, valid UTF-8 or not. The repository's request canonicalizer, host normalizer
and key-file code all work on such strings through the `strings`, `net`, `net/url` and
`encoding/*` packages, so the bottom of this development is a model of those byte
sequences and of the byte-level `strings` functions the code calls.

Everything here is a structural function on `List UInt8`, so every definition reduces in
the kernel and concrete runs can be checked by `decide`. Separators that the code passes
to `strings.Split`, `strings.Cut` and friends are all single bytes, and the model takes
them as bytes; substring search (`strings.Index`, `strings.Contains`) is general.

## Main results

* `length_splitOn` — `strings.Split` on a one-byte separator yields one more piece than
  the string has separators.
* `count_join` — joining `n` pieces with a separator adds `n - 1` separators.
* `take_append_drop_index` — `strings.Index` finds an occurrence of the pattern.
-/

namespace QuantumGoUtils.Go.Strings

/-- A Go `string` (or `[]byte`): a finite sequence of bytes, with no encoding invariant. -/
abbrev GoString := List UInt8

/-- The bytes Go stores for a string literal: its UTF-8 encoding. -/
def lit (s : String) : GoString := s.data.flatMap String.utf8EncodeChar

instance : Coe String GoString := ⟨lit⟩

/-- Go's `(T, error)` results are `Except`; deciding their equality lets concrete runs be
checked by `decide`. -/
instance instDecidableEqExcept {ε α : Type} [DecidableEq ε] [DecidableEq α] :
    DecidableEq (Except ε α)
  | .ok a, .ok b => if h : a = b then isTrue (h ▸ rfl) else isFalse fun e => by cases e; exact h rfl
  | .error a, .error b =>
    if h : a = b then isTrue (h ▸ rfl) else isFalse fun e => by cases e; exact h rfl
  | .ok _, .error _ => isFalse fun e => by cases e
  | .error _, .ok _ => isFalse fun e => by cases e

/-! ## Byte classes

Byte comparisons are written on `UInt8.toNat`, so that `omega` decides them. -/

/-- Go's `asciiSpace` table: `'\t'`, `'\n'`, `'\v'`, `'\f'`, `'\r'` and `' '`. -/
def isAsciiSpace (c : UInt8) : Bool :=
  (9 ≤ c.toNat && c.toNat ≤ 13) || c.toNat == 32

/-- `'0' ≤ c ≤ '9'`. -/
def isDigit (c : UInt8) : Bool := 48 ≤ c.toNat && c.toNat ≤ 57

/-- `'A' ≤ c ≤ 'Z'`. -/
def isUpperAscii (c : UInt8) : Bool := 65 ≤ c.toNat && c.toNat ≤ 90

/-- `'a' ≤ c ≤ 'z'`. -/
def isLowerAscii (c : UInt8) : Bool := 97 ≤ c.toNat && c.toNat ≤ 122

/-- A hexadecimal digit in either case. -/
def isHexDigit (c : UInt8) : Bool :=
  isDigit c || (97 ≤ c.toNat && c.toNat ≤ 102) || (65 ≤ c.toNat && c.toNat ≤ 70)

/-- The value of a hexadecimal digit (Go's `unhex`). -/
def hexVal (c : UInt8) : Nat :=
  if isDigit c then c.toNat - 48
  else if 97 ≤ c.toNat && c.toNat ≤ 102 then c.toNat - 87
  else if 65 ≤ c.toNat && c.toNat ≤ 70 then c.toNat - 55
  else 0

/-- ASCII lower-casing of one byte. -/
def lowerByte (c : UInt8) : UInt8 := if isUpperAscii c then c + 32 else c

/-- ASCII upper-casing of one byte. -/
def upperByte (c : UInt8) : UInt8 := if isLowerAscii c then c - 32 else c

/-- ASCII lower-casing of a whole string. -/
def lowerAscii (s : GoString) : GoString := s.map lowerByte

/-- Every byte is below `utf8.RuneSelf` (`0x80`). -/
def isAscii (s : GoString) : Bool := s.all (·.toNat < 0x80)

/-! ## Prefixes, suffixes and search -/

/-- `strings.HasPrefix`. -/
def hasPrefix (s pre : GoString) : Bool := pre.isPrefixOf s

/-- `strings.HasSuffix`. -/
def hasSuffix (s suf : GoString) : Bool := suf.isSuffixOf s

/-- `strings.TrimPrefix`. -/
def trimPrefix (s pre : GoString) : GoString :=
  if hasPrefix s pre then s.drop pre.length else s

/-- `strings.TrimSuffix`. -/
def trimSuffix (s suf : GoString) : GoString :=
  if hasSuffix s suf then s.take (s.length - suf.length) else s

/-- `strings.Index`: the position of the first occurrence of `sub`, if any. -/
def index (s sub : GoString) : Option Nat :=
  match s with
  | [] => if sub = [] then some 0 else none
  | c :: rest => if sub.isPrefixOf (c :: rest) then some 0 else (index rest sub).map (· + 1)

/-- `strings.Contains`. -/
def contains (s sub : GoString) : Bool := (index s sub).isSome

/-- `strings.IndexByte`. -/
def indexByte (s : GoString) (c : UInt8) : Option Nat := s.indexOf? c

/-- `strings.LastIndexByte`. -/
def lastIndexByte (s : GoString) (c : UInt8) : Option Nat :=
  match s with
  | [] => none
  | d :: rest =>
    match lastIndexByte rest c with
    | some i => some (i + 1)
    | none => if d = c then some 0 else none

/-- `strings.Cut` on a one-byte separator: the text before the first `c`, the text after
it, and whether `c` occurs. -/
def cutByte (s : GoString) (c : UInt8) : GoString × GoString × Bool :=
  match s with
  | [] => ([], [], false)
  | d :: rest =>
    if d = c then ([], rest, true)
    else
      let r := cutByte rest c
      (d :: r.1, r.2.1, r.2.2)

/-- `strings.TrimLeft`: drop the leading bytes that are in `cutset`. -/
def trimLeft (s cutset : GoString) : GoString := s.dropWhile (· ∈ cutset)

/-- `strings.Split` on a one-byte separator. -/
def split (s : GoString) (c : UInt8) : List GoString := s.splitOn c

/-- `strings.Join`. -/
def join (parts : List GoString) (sep : GoString) : GoString :=
  match parts with
  | [] => []
  | [p] => p
  | p :: ps => p ++ sep ++ join ps sep

/-! ## Lemmas -/

@[simp] theorem lit_nil : lit "" = [] := rfl

@[simp] theorem hasPrefix_iff (s pre : GoString) : hasPrefix s pre = true ↔ pre <+: s := by
  simp [hasPrefix]

theorem hasPrefix_append (pre s : GoString) : hasPrefix (pre ++ s) pre = true := by
  simp

theorem trimPrefix_append (pre s : GoString) : trimPrefix (pre ++ s) pre = s := by
  simp [trimPrefix]

theorem index_nil_right (s : GoString) : index s [] = some 0 := by
  cases s <;> simp [index]

theorem toNat_add_32 {c : UInt8} (h : c.toNat < 224) : (c + 32).toNat = c.toNat + 32 := by
  have h32 : (c + 32).toNat = (c.toNat + 32) % 256 := rfl
  rw [h32]; omega

/-- ASCII lower-casing is idempotent. -/
@[simp] theorem lowerAscii_lowerAscii (s : GoString) : lowerAscii (lowerAscii s) = lowerAscii s := by
  have hb : ∀ c, lowerByte (lowerByte c) = lowerByte c := fun c => by
    unfold lowerByte
    by_cases hu : isUpperAscii c = true
    · have hl : isUpperAscii (c + 32) = false := by
        simp only [isUpperAscii, Bool.and_eq_true, decide_eq_true_eq] at hu
        simp only [isUpperAscii, toNat_add_32 (show c.toNat < 224 by omega), Bool.and_eq_false_iff,
          decide_eq_false_iff_not]
        omega
      simp [hu, hl]
    · simp [hu]
  simp [lowerAscii, Function.comp_def, hb]

/-- `strings.Index` finds a real occurrence: the pattern sits at the returned position. -/
theorem take_append_drop_index {s sub : GoString} {i : Nat} (h : index s sub = some i) :
    sub <+: s.drop i := by
  induction s generalizing i with
  | nil =>
    simp only [index] at h
    split at h <;> simp_all
  | cons c rest ih =>
    simp only [index] at h
    split at h
    · rename_i hp
      cases h
      exact List.isPrefixOf_iff_prefix.mp hp
    · obtain ⟨j, hj, rfl⟩ := Option.map_eq_some'.mp h
      simpa using ih hj

/-- `strings.Contains` is the infix relation. -/
theorem contains_iff (s sub : GoString) : contains s sub = true ↔ sub <:+: s := by
  induction s with
  | nil => by_cases h : sub = [] <;> simp [contains, index, h]
  | cons c rest ih =>
    rw [List.infix_cons_iff, ← ih]
    by_cases h : sub.isPrefixOf (c :: rest) = true
    · simp [contains, index, h, List.isPrefixOf_iff_prefix.mp h]
    · simp only [Bool.not_eq_true] at h
      simp [contains, index, h, ← List.isPrefixOf_iff_prefix]

/-- A prefix without the byte `c` of `a ++ c :: b` is a prefix of `a`. -/
theorem prefix_of_prefix_append_cons {c : UInt8} {b : GoString} :
    ∀ {p a : GoString}, c ∉ p → p <+: a ++ c :: b → p <+: a
  | p, [], hc, h => by
    rcases List.prefix_cons_iff.mp h with rfl | ⟨t, rfl, -⟩
    · exact List.nil_prefix
    · exact absurd (List.mem_cons_self _ _) hc
  | p, x :: a, hc, h => by
    rcases List.prefix_cons_iff.mp h with rfl | ⟨t, rfl, ht⟩
    · exact List.nil_prefix
    · exact List.cons_prefix_cons.mpr
        ⟨rfl, prefix_of_prefix_append_cons (fun h => hc (List.mem_cons_of_mem _ h)) ht⟩

/-- A pattern without the byte `c` occurs in `a ++ c :: b` only inside `a` or inside `b`:
`c` separates the two. -/
theorem infix_append_cons_iff {p a b : GoString} {c : UInt8} (hc : c ∉ p) :
    p <:+: a ++ c :: b ↔ p <:+: a ∨ p <:+: b := by
  constructor
  · intro h
    induction a with
    | nil =>
      rcases List.infix_cons_iff.mp h with h | h
      · exact .inl (List.infix_nil.mpr
          (List.prefix_nil.mp (prefix_of_prefix_append_cons (a := []) hc h)))
      · exact .inr h
    | cons x a ih =>
      rcases List.infix_cons_iff.mp h with h | h
      · exact .inl (prefix_of_prefix_append_cons (a := x :: a) hc h).isInfix
      · exact (ih h).imp_left fun h => h.trans (List.suffix_cons _ _).isInfix
  · rintro (h | h)
    · exact h.trans (List.prefix_append _ _).isInfix
    · exact h.trans ⟨a ++ [c], [], by simp⟩

/-- Where the byte `c` occurs once, right after `a`, the pattern `a c b` occurs exactly when
`b` follows that `c`. -/
theorem triple_infix_iff {a c b : UInt8} (hac : a ≠ c) {Z : GoString} (hZ : c ∉ Z) :
    ∀ {Y : GoString}, c ∉ Y → ([a, c, b] <:+: Y ++ a :: c :: Z ↔ Z.head? = some b)
  | [], _ => by
    rw [List.nil_append, List.infix_cons_iff, List.infix_cons_iff]
    simp only [List.cons_prefix_cons, true_and, Ne.symm hac, false_and, false_or]
    constructor
    · rintro (⟨t, rfl⟩ | ⟨h, -⟩ | h)
      · rfl
      · exact absurd h hac
      · exact absurd (h.subset (by simp)) hZ
    · intro h
      cases Z with
      | nil => cases h
      | cons z Z =>
        simp only [List.head?_cons, Option.some.injEq] at h
        exact .inl (by simp [h])
  | y :: Y, hY => by
    rw [List.cons_append, List.infix_cons_iff,
      triple_infix_iff hac hZ (fun h => hY (List.mem_cons_of_mem _ h))]
    refine ⟨fun h => h.resolve_left fun h => ?_, .inr⟩
    obtain ⟨-, h⟩ := List.cons_prefix_cons.mp h
    cases Y with
    | nil => exact hac (List.cons_prefix_cons.mp h).1.symm
    | cons y' Y => exact hY (by simp [(List.cons_prefix_cons.mp h).1])

/-- A pattern with a byte the text lacks does not occur in it. -/
theorem not_infix_of_mem {p s : GoString} {c : UInt8} (hp : c ∈ p) (hs : c ∉ s) : ¬ p <:+: s :=
  fun h => hs (h.subset hp)

/-- A pattern that does not start with `c` occurs in `c :: s` only inside `s`. -/
theorem infix_cons_iff_of_head_ne {c : UInt8} {p s : GoString} (hp : p ≠ [])
    (h : p.head? ≠ some c) : p <:+: c :: s ↔ p <:+: s := by
  obtain ⟨d, p, rfl⟩ := List.exists_cons_of_ne_nil hp
  rw [List.infix_cons_iff, List.cons_prefix_cons]
  simp_all

/-- `strings.Cut` at a byte that occurs only last. -/
theorem cutByte_append_singleton {t : GoString} {c : UInt8} (h : c ∉ t) :
    cutByte (t ++ [c]) c = (t, [], true) := by
  induction t with
  | nil => simp [cutByte]
  | cons d t ih =>
    simp only [List.mem_cons, not_or] at h
    simp [cutByte, Ne.symm h.1, ih h.2]

/-- `strings.Cut` at a byte the text lacks keeps the whole text before the cut. -/
theorem cutByte_of_not_mem {c : UInt8} {s : GoString} (h : c ∉ s) : cutByte s c = (s, [], false) := by
  induction s with
  | nil => rfl
  | cons d s ih =>
    simp only [List.mem_cons, not_or] at h
    simp [cutByte, Ne.symm h.1, ih h.2]

/-- `strings.Cut` passes over a first part without the separator. -/
theorem cutByte_append {c : UInt8} {a : GoString} (b : GoString) (h : c ∉ a) :
    cutByte (a ++ b) c = (a ++ (cutByte b c).1, (cutByte b c).2.1, (cutByte b c).2.2) := by
  induction a with
  | nil => rfl
  | cons d a ih =>
    simp only [List.mem_cons, not_or] at h
    simp [cutByte, Ne.symm h.1, ih h.2]

/-- The text before the cut is a prefix of the text. -/
theorem cutByte_fst_isPrefix (s : GoString) (c : UInt8) : (cutByte s c).1 <+: s := by
  induction s with
  | nil => exact List.prefix_refl _
  | cons d s ih =>
    unfold cutByte
    split_ifs
    · exact List.nil_prefix
    · exact List.cons_prefix_cons.mpr ⟨rfl, ih⟩

/-- The text after the cut is a suffix of the text. -/
theorem cutByte_snd_isSuffix (s : GoString) (c : UInt8) : (cutByte s c).2.1 <:+ s := by
  induction s with
  | nil => exact List.suffix_refl _
  | cons d s ih =>
    unfold cutByte
    split_ifs
    · exact List.suffix_cons d s
    · exact ih.trans (List.suffix_cons d s)

theorem indexByte_of_not_mem {c : UInt8} {s : GoString} (h : c ∉ s) : indexByte s c = none :=
  List.indexOf?_eq_none_iff.mpr fun x hx hxc => h (by simpa [eq_of_beq hxc] using hx)

/-- `strings.IndexByte` finds the first `c`. -/
theorem indexByte_append_cons {c : UInt8} {a : GoString} (b : GoString) (h : c ∉ a) :
    indexByte (a ++ c :: b) c = some a.length := by
  induction a with
  | nil => simp [indexByte, List.indexOf?_cons]
  | cons d a ih =>
    simp only [List.mem_cons, not_or] at h
    have ih' := ih h.2
    simp only [indexByte] at ih'
    simp [indexByte, List.indexOf?_cons, Ne.symm h.1, ih']

theorem lastIndexByte_of_not_mem {c : UInt8} {s : GoString} (h : c ∉ s) :
    lastIndexByte s c = none := by
  induction s with
  | nil => rfl
  | cons d s ih =>
    simp only [List.mem_cons, not_or] at h
    simp [lastIndexByte, ih h.2, Ne.symm h.1]

/-- `strings.LastIndexByte` finds the last `c`. -/
theorem lastIndexByte_append_cons {c : UInt8} {b : GoString} (h : c ∉ b) (a : GoString) :
    lastIndexByte (a ++ c :: b) c = some a.length := by
  induction a with
  | nil => simp [lastIndexByte, lastIndexByte_of_not_mem h]
  | cons d a ih => simp [lastIndexByte, ih]

/-- A byte the text holds has a last occurrence, which `strings.LastIndexByte` finds. -/
theorem lastIndexByte_of_mem {c : UInt8} {s : GoString} (h : c ∈ s) :
    ∃ a b, s = a ++ c :: b ∧ c ∉ b ∧ lastIndexByte s c = some a.length := by
  induction s with
  | nil => cases h
  | cons d t ih =>
    by_cases ht : c ∈ t
    · obtain ⟨a, b, rfl, hb, -⟩ := ih ht
      exact ⟨d :: a, b, rfl, hb, lastIndexByte_append_cons hb (d :: a)⟩
    · obtain rfl : c = d := by simpa [ht] using h
      exact ⟨[], t, rfl, ht, lastIndexByte_append_cons ht []⟩

/-- `strings.Split` on a byte yields one more piece than there are separators. -/
theorem length_splitOn (s : GoString) (c : UInt8) :
    (s.splitOn c).length = s.count c + 1 := by
  induction s with
  | nil => rfl
  | cons d rest ih =>
    simp only [List.splitOn, List.splitOnP_cons] at ih ⊢
    by_cases hd : d = c
    · simp [hd, ih]
    · simp [hd, ih, List.count_cons]

/-- Setting a byte of the middle part of a text sets it in place. -/
theorem set_splice (P S Q : GoString) {j : Nat} (hj : j < S.length) (c : UInt8) :
    (P ++ S ++ Q).set (P.length + j) c = P ++ S.set j c ++ Q := by
  rw [List.append_assoc, List.set_append_right _ _ (by omega), Nat.add_sub_cancel_left,
    List.set_append_left _ _ hj, List.append_assoc]

/-- `strings.Join` is `List.intercalate`. -/
theorem join_eq_intercalate (sep : GoString) :
    ∀ parts : List GoString, join parts sep = sep.intercalate parts
  | [] => rfl
  | [p] => by simp [join, List.intercalate]
  | p :: q :: ps => by
    show p ++ sep ++ join (q :: ps) sep = _
    rw [join_eq_intercalate sep (q :: ps)]
    simp only [List.intercalate, List.intersperse_cons_cons, List.flatten_cons, List.append_assoc]

/-- Splitting on a separator that no piece holds gives back the pieces it joined. -/
theorem split_join {c : UInt8} {parts : List GoString} (h : ∀ p ∈ parts, c ∉ p)
    (hne : parts ≠ []) : split (join parts [c]) c = parts := by
  rw [join_eq_intercalate]
  exact List.splitOn_intercalate _ c h hne

/-- Joining `n` pieces with a one-byte separator adds `n - 1` separators. -/
theorem count_join (c : UInt8) (parts : List GoString) :
    (join parts [c]).count c = parts.length - 1 + (parts.map (·.count c)).foldr (· + ·) 0 := by
  induction parts with
  | nil => rfl
  | cons p ps ih =>
    cases ps with
    | nil => simp [join]
    | cons q qs =>
      simp only [join, List.count_append, ih]
      simp [List.count_singleton_self]
      omega

end QuantumGoUtils.Go.Strings
