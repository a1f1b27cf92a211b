import Mathlib.Data.List.Nodup
import QuantumGoUtils.Go.Json

/-!
# Round trips of `encoding/json`

What `json.Marshal` and `json.MarshalIndent` write for the repository's flat structs,
`json.Unmarshal` reads back. A string comes back as itself when it is valid UTF-8 and with
each ill-formed byte replaced by U+FFFD otherwise (`coerce`): the writer escapes control
bytes, quotes, backslashes, the HTML-sensitive bytes and U+2028/U+2029, and writes
`\ufffd` for a byte that starts no well-formed sequence; the reader undoes each escape
and decodes the raw bytes with the same UTF-8 decoder.

The lexer lemmas are stated on `lexString` with its decoder state; the object lemmas on a
`Layout`, the white space around the members, of which the compact and the indented
writers are two instances.

## Main results

* `lexString_quote` — a quoted string reads back as its text, coerced.
* `parse_object` — an object of valid keys and values that read back is parsed as those
  members.
* `unmarshal_objectIndented`, `unmarshal_objectCompact` — a struct written with valid keys
  decodes through its fields' decoders.
-/

namespace QuantumGoUtils.Go.Json

open QuantumGoUtils.Go.Strings QuantumGoUtils.Go.Unicode QuantumGoUtils.Go.Strconv
open QuantumGoUtils.Go.Base64

/-! ## Strings -/

theorem lexString_raw {pend : GoString} {sur : Option Nat} {acc : GoString} {c : UInt8}
    {rest : GoString} (h1 : 0x20 ≤ c.toNat) (h2 : c.toNat ≠ 34) (h3 : c.toNat ≠ 92) :
    lexString pend sur acc (c :: rest) =
      lexString (step pend c).2 none (acc ++ flushSur sur ++ (step pend c).1.flatMap coerceSeg) rest := by
  rw [lexString, if_neg (by omega)]
  all_goals intros; subst_vars
  exacts [h2 rfl, h3 rfl, h3 rfl, h3 rfl]


theorem lexString_close (pend : GoString) (sur : Option Nat) (acc rest : GoString) :
    lexString pend sur acc (34 :: rest) = .ok (acc ++ flushSur sur ++ flushPend pend, rest) := by
  rw [lexString]

/-- Raw bytes with no control byte, quote or backslash go through the UTF-8 decoder. -/
theorem lexString_feed {u : GoString} (hu : ∀ c ∈ u, 0x20 ≤ c.toNat ∧ c.toNat ≠ 34 ∧ c.toNat ≠ 92)
    (pend acc rest : GoString) :
    lexString pend none acc (u ++ rest) =
      lexString (feed pend u).2 none (acc ++ (feed pend u).1.flatMap coerceSeg) rest := by
  induction u generalizing pend acc with
  | nil => simp [feed]
  | cons c u ih =>
    obtain ⟨h1, h2, h3⟩ := hu c (List.mem_cons_self _ _)
    rw [List.cons_append, lexString_raw h1 h2 h3, ih (fun c hc => hu c (List.mem_cons_of_mem _ hc))]
    simp [feed_cons, flushSur]

/-- The bytes `encoding/json` reads back for a string: each byte that starts no
well-formed sequence becomes U+FFFD. -/
def coerce (s : GoString) : GoString := (utf8Segments s).flatMap coerceSeg

/-- A string literal with no escape reads as its text, ill-formed bytes coerced. -/
theorem lexString_literal {u : GoString}
    (hu : ∀ c ∈ u, 0x20 ≤ c.toNat ∧ c.toNat ≠ 34 ∧ c.toNat ≠ 92) (acc rest : GoString) :
    lexString [] none acc (u ++ 34 :: rest) = .ok (acc ++ coerce u, rest) := by
  rw [lexString_feed hu, lexString_close]
  simp [coerce, utf8Segments, segsAux_eq_feed, flushSur, flushPend]

theorem lexString_uescape {a b d e : UInt8} (h : isHex4 a b d e = true)
    (hs : isSurrogate (hex4 a b d e) = false) (acc rest : GoString) :
    lexString [] none acc (92 :: 117 :: a :: b :: d :: e :: rest) =
      lexString [] none (acc ++ encodeRune (hex4 a b d e)) rest := by
  rw [lexString]; simp [h, hs, flushPend]

theorem lexString_escape {c d : UInt8} (h : simpleEscape c = some d) (hc : c.toNat ≠ 117)
    (acc rest : GoString) :
    lexString [] none acc (92 :: c :: rest) = lexString [] none (acc ++ [d]) rest := by
  rw [lexString]
  · simp [h, flushSur, flushPend]
  · intros; subst_vars; exact hc rfl


theorem hex4_hexDigit {a b : UInt8} (ha : hexVal a = 0) (hb : hexVal b = 0) {n : Nat} (hn : n < 256) :
    isHex4 a b (hexDigit (n / 16)) (hexDigit (n % 16)) = (isHexDigit a && isHexDigit b) ∧
      hex4 a b (hexDigit (n / 16)) (hexDigit (n % 16)) = n := by
  obtain ⟨h1, h2⟩ := hexDigit_spec (n / 16) (by omega)
  obtain ⟨h3, h4⟩ := hexDigit_spec (n % 16) (by omega)
  refine ⟨by simp [isHex4, h1, h3], ?_⟩
  rw [hex4, ha, hb, h2, h4]; omega

/-- An escaped ASCII byte reads back as the byte. -/
theorem lexString_escapeByte {c : UInt8} (hc : c.toNat < 0x80) (acc more : GoString) :
    lexString [] none acc (escapeByte c ++ more) = lexString [] none (acc ++ [c]) more := by
  unfold escapeByte
  split_ifs with h1 h2 h3 h4 h5 h6
  · exact lexString_escape (by rcases h1 with h1 | h1 <;> simp [simpleEscape, h1]) (by omega) acc more
  · obtain rfl := UInt8.toNat.inj (show c.toNat = (8 : UInt8).toNat from h2)
    exact lexString_escape (c := 98) rfl (by decide) acc more
  · obtain rfl := UInt8.toNat.inj (show c.toNat = (12 : UInt8).toNat from h3)
    exact lexString_escape (c := 102) rfl (by decide) acc more
  · obtain rfl := UInt8.toNat.inj (show c.toNat = (10 : UInt8).toNat from h4)
    exact lexString_escape (c := 110) rfl (by decide) acc more
  · obtain rfl := UInt8.toNat.inj (show c.toNat = (13 : UInt8).toNat from h5)
    exact lexString_escape (c := 114) rfl (by decide) acc more
  · obtain rfl := UInt8.toNat.inj (show c.toNat = (9 : UInt8).toNat from h6)
    exact lexString_escape (c := 116) rfl (by decide) acc more
  obtain ⟨h7, h8⟩ := hex4_hexDigit (a := 48) (b := 48) rfl rfl (show c.toNat < 256 by omega)
  refine (lexString_uescape (by rw [h7]; rfl) (by simp only [h8, isSurrogate, Bool.and_eq_false_iff, decide_eq_false_iff_not]; omega) acc
    more).trans ?_
  rw [h8, encodeRune_one (by omega), toUInt8_toNat]


/-- What `appendString` writes for a well-formed segment reads back as the segment's
coerced bytes. -/
theorem lexString_quoteSeg {seg : Seg} (h : SegWF seg) (acc more : GoString) :
    lexString [] none acc (quoteSeg seg ++ more) = lexString [] none (acc ++ coerceSeg seg) more := by
  cases seg with
  | bad b =>
    show lexString [] none acc (92 :: 117 :: 102 :: 102 :: 102 :: 100 :: more) = _
    exact lexString_uescape (by decide) (by decide) acc more
  | rune r bs =>
    obtain ⟨hr, rfl⟩ := h
    have hraw (hu : ∀ c ∈ encodeRune r, 0x20 ≤ c.toNat ∧ c.toNat ≠ 34 ∧ c.toNat ≠ 92) :
        lexString [] none acc (encodeRune r ++ more) =
          lexString [] none (acc ++ encodeRune r) more := by
      rw [lexString_feed hu, feed_encodeRune hr]; simp [coerceSeg]
    simp only [quoteSeg, coerceSeg]
    split_ifs with h1 h2 h3
    · rw [← encodeRune_one (by omega)]
      refine hraw fun c hc => ?_
      rw [encodeRune_one (by omega), List.mem_singleton] at hc
      subst hc
      simp only [htmlSafe, Bool.and_eq_true, decide_eq_true_eq, bne_iff_ne, ne_eq] at h2
      omega
    · rw [lexString_escapeByte (by rw [toNat_toUInt8_of_lt (by omega)]; omega),
        encodeRune_one (by omega)]
    · show lexString [] none acc (92 :: 117 :: 50 :: 48 :: 50 :: hexDigit (r % 16) :: more) = _
      obtain ⟨h4, h5⟩ := hexDigit_spec (r % 16) (by omega)
      have h6 : hex4 50 48 50 (hexDigit (r % 16)) = r := by
        rw [hex4, h5, show hexVal 50 = 2 from rfl, show hexVal 48 = 0 from rfl]; omega
      rw [lexString_uescape (by rw [isHex4, h4]; rfl)
        (by simp only [h6, isSurrogate, Bool.and_eq_false_iff, decide_eq_false_iff_not]; omega), h6]
    · exact hraw fun c hc => by have := encodeRune_ge hr (by omega) c hc; omega

/-- A quoted string reads back as its text, ill-formed bytes coerced. -/
theorem lexString_quote (s acc rest : GoString) :
    lexString [] none acc ((utf8Segments s).flatMap quoteSeg ++ 34 :: rest) = .ok (acc ++ coerce s, rest) := by
  suffices h : ∀ segs : List Seg, (∀ seg ∈ segs, SegWF seg) → ∀ acc,
      lexString [] none acc (segs.flatMap quoteSeg ++ 34 :: rest) = .ok (acc ++ segs.flatMap coerceSeg, rest) from
    h _ (utf8Segments_wf s) acc
  intro segs hw
  induction segs with
  | nil => intro acc; simp [lexString_close, flushSur, flushPend]
  | cons seg segs ih =>
    intro acc
    rw [List.flatMap_cons, List.append_assoc, lexString_quoteSeg (hw seg (List.mem_cons_self _ _)),
      ih fun x hx => hw x (List.mem_cons_of_mem _ hx)]
    simp

/-- A valid string is read back as itself. -/
theorem coerce_of_validString {s : GoString} (h : validString s = true) : coerce s = s := by
  have hb : ∀ seg ∈ utf8Segments s, coerceSeg seg = seg.bytes := by
    intro seg hs
    have := List.all_eq_true.mp h seg hs
    cases seg <;> simp_all [coerceSeg, Seg.bytes]
  conv => rhs; rw [← flatMap_utf8Segments s]
  exact List.flatMap_congr hb

/-! ## Values -/

theorem skipWs_append_ws {ws : GoString} (h : ∀ c ∈ ws, isWs c = true) (s : GoString) :
    skipWs (ws ++ s) = skipWs s := by
  induction ws with
  | nil => rfl
  | cons c ws ih =>
    rw [List.cons_append, skipWs, if_pos (h c (List.mem_cons_self _ _))]
    exact ih fun x hx => h x (List.mem_cons_of_mem _ hx)

theorem skipWs_cons {c : UInt8} (h : isWs c = false) (s : GoString) : skipWs (c :: s) = c :: s := by
  simp [skipWs, h]

theorem parseValue_ws {ws : GoString} (h : ∀ c ∈ ws, isWs c = true) (fuel depth : Nat) (s : GoString) :
    parseValue fuel depth (ws ++ s) = parseValue fuel depth s := by
  cases fuel with
  | zero => rfl
  | succ fuel => rw [parseValue, parseValue, skipWs_append_ws h]

theorem parseValue_quote (fuel depth : Nat) (s rest : GoString) :
    parseValue (fuel + 1) depth (quote s ++ rest) = .ok (.string (coerce s), rest) := by
  have hq : quote s ++ rest = 34 :: ((utf8Segments s).flatMap quoteSeg ++ 34 :: rest) := by
    simp [quote]
  rw [hq, parseValue, skipWs_cons (c := 34) rfl]
  show (fun p => (Value.string p.1, p.2)) <$> lexString [] none [] _ = _
  rw [lexString_quote]; rfl

/-- A byte that may follow a value in an object: white space, a comma or a closing brace. -/
def isDelim (c : UInt8) : Bool := isWs c || c.toNat = 44 || c.toNat = 125

/-- The text `t` of a member's value reads as `v`, whatever byte that may end a value
follows it. -/
def ReadsAs (t : GoString) (v : Value) : Prop :=
  ∀ fuel depth d more, isDelim d = true → parseValue (fuel + 1) depth (t ++ d :: more) = .ok (v, d :: more)

theorem readsAs_quote (s : GoString) : ReadsAs (quote s) (.string (coerce s)) :=
  fun fuel depth _ _ _ => parseValue_quote fuel depth s _

/-- A string written between quotes with no escape reads as its text, ill-formed bytes
coerced: what `encoding/json` reads for bytes it did not write itself. -/
theorem readsAs_literal {u : GoString}
    (hu : ∀ c ∈ u, 0x20 ≤ c.toNat ∧ c.toNat ≠ 34 ∧ c.toNat ≠ 92) :
    ReadsAs (34 :: u ++ [34]) (.string (coerce u)) := fun fuel depth d more _ => by
  rw [show 34 :: u ++ [34] ++ d :: more = 34 :: (u ++ 34 :: d :: more) by simp, parseValue,
    skipWs_cons (c := 34) rfl]
  show (fun p => (Value.string p.1, p.2)) <$> lexString [] none [] _ = _
  rw [lexString_literal hu]
  rfl

theorem isDelim_cases {d : UInt8} (h : isDelim d = true) :
    d = 32 ∨ d = 9 ∨ d = 10 ∨ d = 13 ∨ d = 44 ∨ d = 125 := by
  simp only [isDelim, isWs, Bool.or_eq_true, decide_eq_true_eq] at h
  simp only [uint8_eq_iff, UInt8.reduceToNat]
  omega

/-- The version number `1` reads as the number `1`. -/
theorem readsAs_one : ReadsAs (formatInt 1) (.number [49]) := by
  intro fuel depth d more hd
  rcases isDelim_cases hd with rfl | rfl | rfl | rfl | rfl | rfl <;> (rw [parseValue]; rfl)

/-! ## Objects -/

/-- An object member with a valid key: the key is read, then the colon, then the value. -/
theorem parseMembers_member {ws : GoString} (hws : ∀ c ∈ ws, isWs c = true) {k : GoString}
    (hk : validString k = true) (fuel depth : Nat) (acc : List (GoString × Value)) (s : GoString) :
    parseMembers (fuel + 1) depth acc (ws ++ quote k ++ 58 :: s) =
      match parseValue fuel depth s with
      | .error e => .error e
      | .ok (v, rest) =>
        match skipWs rest with
        | 44 :: rest => parseMembers fuel depth (acc ++ [(k, v)]) rest
        | 125 :: rest => .ok (.object (acc ++ [(k, v)]), rest)
        | _ => .error .syntaxError := by
  have hq : ws ++ quote k ++ 58 :: s = ws ++ 34 :: ((utf8Segments k).flatMap quoteSeg ++ 34 :: 58 :: s) := by
    simp [quote]
  rw [hq, parseMembers, skipWs_append_ws hws, skipWs_cons (c := 34) rfl]
  split
  · rename_i rest heq
    obtain rfl := (List.cons.inj heq).2
    rw [lexString_quote, List.nil_append, coerce_of_validString hk]
    rfl
  · rename_i h; exact absurd rfl (h _)


theorem parseMembers_ws {ws : GoString} (h : ∀ c ∈ ws, isWs c = true) (fuel depth : Nat)
    (acc : List (GoString × Value)) (s : GoString) :
    parseMembers fuel depth acc (ws ++ s) = parseMembers fuel depth acc s := by
  cases fuel with
  | zero => rfl
  | succ fuel => rw [parseMembers, parseMembers, skipWs_append_ws h]

/-- White space around the members of an object. -/
structure Layout where
  /-- Before each key. -/
  beforeKey : GoString
  /-- After each colon. -/
  afterColon : GoString
  /-- After each comma. -/
  afterComma : GoString
  /-- Before the closing brace. -/
  beforeClose : GoString

/-- A layout whose four parts are white space. -/
def Layout.IsWs (l : Layout) : Prop :=
  ∀ c ∈ l.beforeKey ++ l.afterColon ++ l.afterComma ++ l.beforeClose, isWs c = true

/-- The members of an object in a layout, from the first key to the closing brace. -/
def Layout.members (l : Layout) (ms : List (GoString × GoString)) : GoString :=
  join (ms.map fun m => l.beforeKey ++ quote m.1 ++ 58 :: (l.afterColon ++ m.2)) (44 :: l.afterComma) ++
    l.beforeClose ++ [125]

theorem Layout.members_cons_cons (l : Layout) (m m' : GoString × GoString)
    (ms : List (GoString × GoString)) :
    l.members (m :: m' :: ms) =
      l.beforeKey ++ quote m.1 ++ 58 :: (l.afterColon ++ m.2) ++ 44 :: l.afterComma ++ l.members (m' :: ms) := by
  simp [Layout.members, join]

theorem Layout.length_members (l : Layout) :
    ∀ ms : List (GoString × GoString), ms.length ≤ (l.members ms).length
  | [] => Nat.zero_le _
  | [m] => by
    simp only [Layout.members, List.map, join, List.length_append, List.length_singleton]; omega
  | m :: m' :: ms => by
    have := l.length_members (m' :: ms)
    rw [l.members_cons_cons]
    simp only [List.length_cons, List.length_append] at this ⊢
    omega

/-- The members before a non-empty rest, each followed by its comma. -/
theorem Layout.members_append (l : Layout) (ms₁ : List (GoString × GoString))
    {ms : List (GoString × GoString)} (h : ms ≠ []) :
    l.members (ms₁ ++ ms) =
      (ms₁.map fun m => l.beforeKey ++ quote m.1 ++ 58 :: (l.afterColon ++ m.2) ++
        44 :: l.afterComma).flatten ++ l.members ms := by
  induction ms₁ with
  | nil => rfl
  | cons m ms₁ ih =>
    obtain ⟨n, ns, hn⟩ : ∃ n ns, ms₁ ++ ms = n :: ns := List.exists_cons_of_ne_nil (by simp [h])
    rw [List.cons_append, hn, l.members_cons_cons, ← hn, ih]
    simp

theorem parseValue_object {rest t : GoString} (hs : skipWs rest = 34 :: t) {depth : Nat}
    (hd : depth < maxNestingDepth) (fuel : Nat) :
    parseValue (fuel + 1) depth (123 :: rest) = parseMembers fuel (depth + 1) [] rest := by
  rw [parseValue, skipWs_cons (c := 123) rfl]
  show (if maxNestingDepth ≤ depth then (Except.error JsonError.syntaxError : Except JsonError (Value × GoString))
    else match skipWs rest with
      | 125 :: rest => Except.ok (Value.object [], rest)
      | _ => parseMembers fuel (depth + 1) [] rest) = parseMembers fuel (depth + 1) [] rest
  rw [if_neg (by omega), hs]
  rfl

section Members

variable {l : Layout} (hl : l.IsWs)
include hl

theorem Layout.IsWs.beforeKey : ∀ c ∈ l.beforeKey, isWs c = true := fun c h => hl c (by simp [h])
theorem Layout.IsWs.afterColon : ∀ c ∈ l.afterColon, isWs c = true := fun c h => hl c (by simp [h])
theorem Layout.IsWs.afterComma : ∀ c ∈ l.afterComma, isWs c = true := fun c h => hl c (by simp [h])
theorem Layout.IsWs.beforeClose : ∀ c ∈ l.beforeClose, isWs c = true := fun c h => hl c (by simp [h])

/-- A member followed by a comma: the parser records it and goes on after the comma. -/
theorem parseMembers_sep {k t : GoString} {v : Value} (hk : validString k = true) (hv : ReadsAs t v)
    (fuel depth : Nat) (acc : List (GoString × Value)) (rest : GoString) :
    parseMembers (fuel + 2) depth acc
        (l.beforeKey ++ quote k ++ 58 :: (l.afterColon ++ t) ++ 44 :: l.afterComma ++ rest) =
      parseMembers (fuel + 1) depth (acc ++ [(k, v)]) rest := by
  simp only [List.append_assoc, List.cons_append]
  rw [← List.append_assoc, parseMembers_member hl.beforeKey hk, parseValue_ws hl.afterColon,
    hv _ _ 44 _ rfl]
  exact parseMembers_ws hl.afterComma _ _ _ _

/-- The last member: the parser records it and returns the object after the brace. -/
theorem parseMembers_last {k t : GoString} {v : Value} (hk : validString k = true) (hv : ReadsAs t v)
    (fuel depth : Nat) (acc : List (GoString × Value)) (rest : GoString) :
    parseMembers (fuel + 2) depth acc
        (l.beforeKey ++ quote k ++ 58 :: (l.afterColon ++ t) ++ l.beforeClose ++ 125 :: rest) =
      .ok (.object (acc ++ [(k, v)]), rest) := by
  obtain ⟨d, more, hd, hdm⟩ : ∃ d more, isDelim d = true ∧ l.beforeClose ++ 125 :: rest = d :: more := by
    cases h : l.beforeClose with
    | nil => exact ⟨125, rest, rfl, rfl⟩
    | cons c cs =>
      have := hl.beforeClose c (by simp [h])
      exact ⟨c, cs ++ 125 :: rest, by simp [isDelim, this], rfl⟩
  simp only [List.append_assoc, List.cons_append]
  rw [← List.append_assoc, parseMembers_member hl.beforeKey hk, parseValue_ws hl.afterColon, hdm,
    hv _ _ d _ hd, ← hdm]
  dsimp only
  rw [skipWs_append_ws hl.beforeClose]
  rfl

/-- **Members round trip.** Members with valid keys, each of whose value texts reads as a
value, read back as the object of those keys and values. -/
theorem parseMembers_members {ms : List (GoString × GoString)} {vs : List Value}
    (hk : ∀ k ∈ ms.map Prod.fst, validString k = true) (hv : List.Forall₂ (fun m v => ReadsAs m.2 v) ms vs)
    (hne : ms ≠ []) (fuel depth : Nat) (acc : List (GoString × Value)) (rest : GoString) :
    parseMembers (fuel + ms.length + 1) depth acc (l.members ms ++ rest) =
      .ok (.object (acc ++ (ms.map Prod.fst).zip vs), rest) := by
  induction hv generalizing acc with
  | nil => exact absurd rfl hne
  | @cons m v ms vs hmv hrest ih =>
    have hkm := hk m.1 (List.mem_cons_self _ _)
    cases ms with
    | nil =>
      cases hrest
      simpa [Layout.members, join, List.append_assoc] using
        parseMembers_last hl hkm hmv fuel depth acc rest
    | cons m' ms =>
      have ih := ih (fun x hx => hk x (List.mem_cons_of_mem _ hx)) (List.cons_ne_nil _ _)
      obtain ⟨v', vs', rfl⟩ : ∃ v' vs', vs = v' :: vs' := by cases hrest; exact ⟨_, _, rfl⟩
      have h := parseMembers_sep hl hkm hmv (fuel + ms.length + 1) depth acc
        (l.members (m' :: ms) ++ rest)
      simp only [Layout.members, List.map_cons, join, List.length_cons, List.append_assoc,
        List.cons_append] at h ih ⊢
      rw [show fuel + (ms.length + 1 + 1) + 1 = fuel + ms.length + 1 + 2 by omega, h,
        show fuel + ms.length + 1 + 1 = fuel + (ms.length + 1) + 1 by omega, ih]
      simp

/-- **Object round trip.** An object whose members are laid out with white space, with
valid keys and value texts that read as values, is parsed as the object of those keys and
values. -/
theorem parse_object {pre : GoString} (hpre : ∀ c ∈ pre, isWs c = true)
    {ms : List (GoString × GoString)} {vs : List Value}
    (hk : ∀ k ∈ ms.map Prod.fst, validString k = true) (hv : List.Forall₂ (fun m v => ReadsAs m.2 v) ms vs)
    (hne : ms ≠ []) : parse (123 :: (pre ++ l.members ms)) = .ok (.object ((ms.map Prod.fst).zip vs)) := by
  obtain ⟨t, ht⟩ : ∃ t, skipWs (pre ++ l.members ms) = 34 :: t := by
    obtain ⟨m, ms', rfl⟩ := List.exists_cons_of_ne_nil hne
    obtain ⟨z, hz⟩ : ∃ z, l.members (m :: ms') = l.beforeKey ++ 34 :: z := by
      cases ms' <;> simp [Layout.members, join, quote]
    exact ⟨z, by rw [skipWs_append_ws hpre, hz, skipWs_append_ws hl.beforeKey, skipWs_cons (c := 34) rfl]⟩
  have hlen := l.length_members ms
  obtain ⟨f, hf⟩ : ∃ f, (123 :: (pre ++ l.members ms)).length = f + ms.length + 1 :=
    ⟨pre.length + (l.members ms).length - ms.length, by
      simp only [List.length_cons, List.length_append]; omega⟩
  unfold parse
  rw [hf, parseValue_object ht (by decide), parseMembers_ws hpre, ← List.append_nil (l.members ms),
    parseMembers_members hl hk hv hne]
  simp [skipWs]

end Members

/-! ## The two writers -/

/-- `json.Marshal`: no white space. -/
def compactLayout : Layout := ⟨[], [], [], []⟩

/-- `json.MarshalIndent(v, "", "  ")` on a struct of scalars. -/
def indentedLayout : Layout := ⟨[32, 32], [32], [10], [10]⟩

theorem objectCompact_eq (ms : List (GoString × GoString)) :
    objectCompact ms = 123 :: ([] ++ compactLayout.members ms) := by
  simp [objectCompact, Layout.members, compactLayout]

theorem objectIndented_eq (ms : List (GoString × GoString)) :
    objectIndented ms = 123 :: ([10] ++ indentedLayout.members ms) := by
  simp [objectIndented, Layout.members, indentedLayout]

/-- **A value in the indented writer.** The text of a member's value written between
quotes as it is stands between a prefix fixed by the members before it and a suffix fixed
by those after it. -/
theorem objectIndented_value (ms₁ : List (GoString × GoString)) (k t : GoString)
    {ms₂ : List (GoString × GoString)} (h₂ : ms₂ ≠ []) :
    objectIndented (ms₁ ++ (k, 34 :: t ++ [34]) :: ms₂) =
      123 :: 10 :: ((ms₁.map fun m => [32, 32] ++ quote m.1 ++ 58 :: (32 :: m.2) ++ [44, 10]).flatten ++
        [32, 32] ++ quote k ++ [58, 32, 34]) ++ t ++ 34 :: 44 :: 10 :: indentedLayout.members ms₂ := by
  obtain ⟨n, ns, rfl⟩ := List.exists_cons_of_ne_nil h₂
  rw [objectIndented_eq, indentedLayout.members_append ms₁ (List.cons_ne_nil _ _),
    indentedLayout.members_cons_cons]
  simp [indentedLayout]

/-- One byte set at offset `j` of such a value, the value starting at `i`, is the object
with that byte set in the value. -/
theorem objectIndented_set_value (ms₁ : List (GoString × GoString)) (k : GoString) {t : GoString}
    {ms₂ : List (GoString × GoString)} (h₂ : ms₂ ≠ []) {i : Nat}
    (hi : (ms₁.map fun m => [32, 32] ++ quote m.1 ++ 58 :: (32 :: m.2) ++ [44, 10]).flatten.length +
      (quote k).length + 7 = i) {j : Nat} (hj : j < t.length) (c : UInt8) :
    (objectIndented (ms₁ ++ (k, 34 :: t ++ [34]) :: ms₂)).set (i + j) c =
      objectIndented (ms₁ ++ (k, 34 :: t.set j c ++ [34]) :: ms₂) := by
  rw [objectIndented_value _ _ _ h₂, objectIndented_value _ _ _ h₂, ← set_splice _ _ _ hj, ← hi]
  simp only [List.length_cons, List.length_append, List.length_nil]
  congr 1
  omega

/-- `json.Unmarshal` of an object: its members go through the fields' decoders. -/
theorem unmarshal_of_parse {S : Type} {fields : List (GoString × FieldDecoder S)} {zero : S}
    {data : GoString} {ms : List (GoString × Value)} (h : parse data = .ok (.object ms)) :
    unmarshal fields zero data =
      match decodeMembers fields ms zero with
      | (s, none) => .ok s
      | (_, some e) => .error e := by
  rcases hd : decodeMembers fields ms zero with ⟨s, _ | e⟩ <;> simp only [unmarshal, h, hd]

/-! ## Decoding into a struct -/

/-- The decoders of fields applied in order to values, the first error kept: what
`decodeMembers` does when each member names the next field. -/
def applyFields {S : Type} : List (GoString × FieldDecoder S) → List Value → S → S × Option JsonError
  | f :: fs, v :: vs, s =>
    let r := f.2 v s
    let r' := applyFields fs vs r.1
    (r'.1, r.2 <|> r'.2)
  | _, _, s => (s, none)

theorem lookupField_of_mem {S : Type} {fields : List (GoString × FieldDecoder S)}
    (hnd : (fields.map Prod.fst).Nodup) {k : GoString} {f : FieldDecoder S} (h : (k, f) ∈ fields) :
    lookupField fields k = some f := by
  unfold lookupField
  cases hf : fields.find? (·.1 = k) with
  | none =>
    exact absurd (List.find?_eq_none.mp hf (k, f) h) (by simp)
  | some x =>
    have hx := List.find?_some hf
    have := List.inj_on_of_nodup_map hnd (List.mem_of_find?_eq_some hf) h (by simpa using hx)
    simp [this]

/-- Members that name distinct fields, in the fields' order, are decoded field by field. -/
theorem decodeMembers_zip {S : Type} {fields : List (GoString × FieldDecoder S)}
    (hnd : (fields.map Prod.fst).Nodup) :
    ∀ {post : List (GoString × FieldDecoder S)}, (∀ x ∈ post, x ∈ fields) → ∀ (vs : List Value) (s : S),
      decodeMembers fields ((post.map Prod.fst).zip vs) s = applyFields post vs s
  | [], _, vs, s => by cases vs <;> rfl
  | f :: post, hsub, [], s => rfl
  | f :: post, hsub, v :: vs, s => by
    have ih := decodeMembers_zip hnd (fun x hx => hsub x (List.mem_cons_of_mem _ hx))
    rw [List.map_cons, List.zip_cons_cons, decodeMembers,
      lookupField_of_mem hnd (hsub f (List.mem_cons_self _ _))]
    simp only [ih, applyFields]

@[simp] theorem intField_one {S : Type} (set : S → Int → S) (s : S) :
    intField set (.number [49]) s = (set s 1, none) := rfl

@[simp] theorem stringField_string {S : Type} (set : S → GoString → S) (str : GoString) (s : S) :
    stringField set (.string str) s = (set s str, none) := rfl

@[simp] theorem bytesField_encode {S : Type} (set : S → GoString → S) (b : GoString) (s : S) :
    bytesField set (.string (StdEncoding.encodeToString b)) s = (set s b, none) := by
  simp [bytesField, StdEncoding.decodeString_encodeToString]

section Writers

variable {S : Type} (fields : List (GoString × FieldDecoder S)) (zero : S)
  {ms : List (GoString × GoString)} {vs : List Value}
  (hkeys : ms.map Prod.fst = fields.map Prod.fst) (hnd : (fields.map Prod.fst).Nodup)
  (hk : ∀ k ∈ fields.map Prod.fst, validString k = true)
  (hv : List.Forall₂ (fun m v => ReadsAs m.2 v) ms vs) (hne : ms ≠ [])
include hkeys hnd hk hv hne

/-- **Compact round trip.** A struct that `json.Marshal` wrote, one member a field in field
order, decodes field by field. -/
theorem unmarshal_objectCompact :
    unmarshal fields zero (objectCompact ms) =
      match applyFields fields vs zero with
      | (s, none) => .ok s
      | (_, some e) => .error e := by
  rw [unmarshal_of_parse (objectCompact_eq ms ▸ parse_object (l := compactLayout)
    (by unfold Layout.IsWs; decide) (by simp) (hkeys ▸ hk) hv hne), hkeys,
    decodeMembers_zip hnd fun _ h => h]

/-- **Indented round trip.** The same for `json.MarshalIndent(v, "", "  ")`. -/
theorem unmarshal_objectIndented :
    unmarshal fields zero (objectIndented ms) =
      match applyFields fields vs zero with
      | (s, none) => .ok s
      | (_, some e) => .error e := by
  rw [unmarshal_of_parse (objectIndented_eq ms ▸ parse_object (l := indentedLayout)
    (by unfold Layout.IsWs; decide) (by decide) (hkeys ▸ hk) hv hne), hkeys,
    decodeMembers_zip hnd fun _ h => h]

end Writers

/-! ## ASCII strings and byte slices -/

/-- A string of HTML-safe ASCII bytes is quoted as it is. -/
theorem quote_of_htmlSafe {s : GoString} (h : ∀ c ∈ s, htmlSafe c = true) : quote s = 34 :: s ++ [34] := by
  have ha : ∀ c ∈ s, c.toNat < 0x80 := fun c hc => by
    have := h c hc; simp only [htmlSafe, Bool.and_eq_true, decide_eq_true_eq] at this; omega
  have hq : (s.map fun c => Seg.rune c.toNat [c]).flatMap quoteSeg = s := by
    induction s with
    | nil => rfl
    | cons c s ih =>
      simp only [List.map_cons, List.flatMap_cons, List.mem_cons, forall_eq_or_imp] at h ha ⊢
      rw [ih h.2 ha.2]
      simp [quoteSeg, ha.1, toUInt8_toNat, h.1]
  simp [quote, utf8Segments_ascii ha, hq]

/-- An HTML-safe byte is one a string holds as it is. -/
theorem plain_of_htmlSafe {c : UInt8} (h : htmlSafe c = true) :
    0x20 ≤ c.toNat ∧ c.toNat ≠ 34 ∧ c.toNat ≠ 92 := by
  simp only [htmlSafe, Bool.and_eq_true, decide_eq_true_eq, bne_iff_ne, ne_eq] at h
  omega

/-- Every character of a base64 encoding is HTML-safe ASCII. -/
theorem htmlSafe_of_mem_encode {padded : Bool} {s : GoString} {c : UInt8} (h : c ∈ encode padded s) :
    htmlSafe c = true := by
  rcases mem_encode h with h | rfl
  · revert h; unfold decodeChar
    split_ifs <;> simp_all [htmlSafe, isUpperAscii, isLowerAscii, isDigit] <;> omega
  · decide

/-- A base64 encoding is valid UTF-8, so JSON reads it back unchanged. -/
theorem coerce_encodeToString (b : GoString) :
    coerce (StdEncoding.encodeToString b) = StdEncoding.encodeToString b :=
  coerce_of_validString (validString_of_ascii fun c hc => by
    have := htmlSafe_of_mem_encode hc
    simp only [htmlSafe, Bool.and_eq_true, decide_eq_true_eq] at this; omega)

/-- A byte slice's member reads back as the string of its base64 encoding. -/
theorem readsAs_quoteBytes (b : GoString) :
    ReadsAs (quoteBytes b) (.string (StdEncoding.encodeToString b)) := by
  have hq : quoteBytes b = quote (encode true b) := by
    rw [quote_of_htmlSafe fun c hc => htmlSafe_of_mem_encode hc]; rfl
  rw [hq, ← coerce_encodeToString]
  exact readsAs_quote _

end QuantumGoUtils.Go.Json
