import QuantumGoUtils.Go.Unicode
import QuantumGoUtils.Go.Url

/-!
# What `url.Parse` and `net.SplitHostPort` do with a host name

The canonicalizer's two host parsers reach `url.Parse`, `URL.Hostname`, `URL.Port` and
`net.SplitHostPort` with the host texts the repository documents: a DNS name and an
optional `:port`, after an optional `scheme://` and before an optional path. This file
computes what each of those functions returns on such a text. The byte classes below name
the parts; the proofs go through `parse` once, on its authority branch, and never unfold
the IPv6 and escape paths these texts do not reach.

## Main results

* `urlParse_authority` — `url.Parse` of `scheme://host` and a path with no escape: the
  host is the text before the path, the fragment the text after the first `#`.
* `parseHost_name_port`, `splitHostPort_name_port` — a DNS name with an optional `:port`
  is its own host, and `URL.Hostname` and `URL.Port` split it at the `:`.
* `netSplitHostPort_name_port` — `net.SplitHostPort` splits it the same way.
* `parseHost_v6_port`, `splitHostPort_v6_port`, `netSplitHostPort_v6_port` — the same for
  a bracketed IPv6 address, whose brackets `URL.Hostname` and `net.SplitHostPort` drop.
* `two_le_count_of_isIPv6Literal` — an IPv6 address `parseHost` accepts holds two `:`, so
  `net.SplitHostPort` rejects it unbracketed (`netSplitHostPort_two_colons`).
-/

namespace QuantumGoUtils.Go.Url

open QuantumGoUtils.Go.Strings QuantumGoUtils.Go.Unicode

/-! ## Byte classes -/

/-- Printable ASCII other than space. -/
def isVisible (c : UInt8) : Bool := 0x21 ≤ c.toNat && c.toNat ≤ 0x7E

/-- A byte of a DNS name: an ASCII letter or digit, `-`, `.` or `_`. -/
def isDnsByte (c : UInt8) : Bool :=
  isUpperAscii c || isLowerAscii c || isDigit c || c.toNat = 45 || c.toNat = 46 || c.toNat = 95

/-- A byte of a host between `//` and the path: a DNS name's, `:` and the brackets of an
IPv6 literal. -/
def isHostByte (c : UInt8) : Bool :=
  isDnsByte c || c.toNat = 58 || c.toNat = 91 || c.toNat = 93

/-- A byte of an IPv6 address without a zone: a hexadecimal digit or `:`. -/
def isV6Byte (c : UInt8) : Bool := isHexDigit c || c.toNat = 58

/-- A byte `getScheme` reads after a scheme's first letter. -/
def isSchemeByte (c : UInt8) : Bool :=
  isUpperAscii c || isLowerAscii c || isDigit c || c.toNat = 43 || c.toNat = 45 || c.toNat = 46

/-- A scheme `getScheme` reads: a letter, then letters, digits, `+`, `-` and `.`. -/
def isSchemeText : GoString → Bool
  | [] => false
  | c :: s => (isUpperAscii c || isLowerAscii c) && s.all isSchemeByte

/-- A byte of a path with no escape: printable ASCII other than `%`. -/
def isPathByte (c : UInt8) : Bool := isVisible c && c.toNat != 37

/-- A path with no escape: empty, or a `/` and then bytes of `isPathByte`. -/
def isPlainPath (p : GoString) : Bool := (p.isEmpty || p.head? == some 47) && p.all isPathByte

example : isPlainPath (lit "/quantum-auth/v1/secured?x=1#top") = true := by decide

theorem isCTL_of_visible {c : UInt8} (h : isVisible c = true) : isCTL c = false := by
  simp only [isVisible, Bool.and_eq_true, decide_eq_true_eq] at h
  simp only [isCTL, Bool.or_eq_false_iff, decide_eq_false_iff_not]
  omega

theorem visible_ascii {c : UInt8} (h : isVisible c = true) :
    c.toNat < 0x80 ∧ isSpaceRune c.toNat = false := by
  simp only [isVisible, Bool.and_eq_true, decide_eq_true_eq] at h
  simp only [isSpaceRune, Bool.or_eq_false_iff, Bool.and_eq_false_iff, beq_eq_false_iff_ne,
    decide_eq_false_iff_not]
  omega

/-- `strings.TrimSpace` keeps a printable ASCII string. -/
theorem trimSpace_of_visible {s : GoString} (h : ∀ c ∈ s, isVisible c = true) :
    trimSpace s = s := by
  rcases List.eq_nil_or_concat s with rfl | ⟨t, d, rfl⟩
  · rfl
  · rw [List.concat_eq_append] at h ⊢
    obtain ⟨c, hc⟩ : ∃ c, (t ++ [d]).head? = some c := by cases t <;> simp
    have hc' := visible_ascii (h c (List.mem_of_mem_head? hc))
    have hd' := visible_ascii (h d (by simp))
    exact trimSpace_eq_self hc (by simp) hc'.1 hc'.2 hd'.1 hd'.2

theorem isVisible_of_dns {c : UInt8} (h : isDnsByte c = true ∨ c = 58) : isVisible c = true := by
  simp only [isVisible, isDnsByte, isDigit, isUpperAscii, isLowerAscii, Bool.or_eq_true,
    Bool.and_eq_true, decide_eq_true_eq, uint8_eq_iff, UInt8.reduceToNat] at h ⊢
  omega

/-- A byte of a name or `:` differs from every byte outside that class. -/
theorem ne_of_dns {c d : UInt8} (h : isDnsByte c = true ∨ c = 58) (hd : isDnsByte d = false)
    (hd58 : d ≠ 58) : c ≠ d := by
  rintro rfl
  rcases h with h | h
  · rw [h] at hd; cases hd
  · exact hd58 h

theorem isHostByte_of_dns {c : UInt8} (h : isDnsByte c = true ∨ c = 58) :
    isHostByte c = true := by
  rcases h with h | rfl
  · simp [isHostByte, h]
  · decide

theorem isDnsByte_of_v6 {c : UInt8} (h : isV6Byte c = true) (h58 : c ≠ 58) : isDnsByte c = true := by
  simp only [isV6Byte, isHexDigit, isDnsByte, isDigit, isUpperAscii, isLowerAscii, Bool.or_eq_true,
    Bool.and_eq_true, decide_eq_true_eq, ne_eq, uint8_eq_iff, UInt8.reduceToNat] at h h58 ⊢
  omega

theorem isHostByte_of_v6 {c : UInt8} (h : isV6Byte c = true) : isHostByte c = true := by
  by_cases h58 : c = 58
  · exact isHostByte_of_dns (.inr h58)
  · exact isHostByte_of_dns (.inl (isDnsByte_of_v6 h h58))

theorem isVisible_of_host {c : UInt8} (h : isHostByte c = true) : isVisible c = true := by
  simp only [isVisible, isHostByte, isDnsByte, isDigit, isUpperAscii, isLowerAscii,
    Bool.or_eq_true, Bool.and_eq_true, decide_eq_true_eq] at h ⊢
  omega

/-- A byte of a host differs from every byte outside that class. -/
theorem ne_of_host {c d : UInt8} (h : isHostByte c = true) (hd : isHostByte d = false) : c ≠ d := by
  rintro rfl
  rw [h] at hd; cases hd

theorem isVisible_of_scheme {c : UInt8} (h : isSchemeByte c = true) : isVisible c = true := by
  simp only [isVisible, isSchemeByte, isDigit, isUpperAscii, isLowerAscii, Bool.or_eq_true,
    Bool.and_eq_true, decide_eq_true_eq] at h ⊢
  omega

theorem isPathByte_iff {c : UInt8} : isPathByte c = true ↔ isVisible c = true ∧ c ≠ 37 := by
  simp only [isPathByte, Bool.and_eq_true, bne_iff_ne, ne_eq, uint8_eq_iff, UInt8.reduceToNat]

theorem isDnsByte_of_isDigit {c : UInt8} (h : isDigit c = true) : isDnsByte c = true := by
  simp [isDnsByte, h]

/-- ASCII lower-casing keeps a byte of a DNS name one. -/
theorem isDnsByte_lowerByte {c : UInt8} (h : isDnsByte c = true) :
    isDnsByte (lowerByte c) = true := by
  unfold lowerByte
  split_ifs with hu
  · simp only [isUpperAscii, Bool.and_eq_true, decide_eq_true_eq] at hu
    simp only [isDnsByte, isLowerAscii, toNat_add_32 (show c.toNat < 224 by omega), Bool.or_eq_true, Bool.and_eq_true,
      decide_eq_true_eq]
    omega
  · exact h

theorem all_isDnsByte_lowerAscii {name : GoString} (hn : name.all isDnsByte = true) :
    (lowerAscii name).all isDnsByte = true := by
  simp only [lowerAscii, List.all_map, List.all_eq_true, Function.comp_apply] at hn ⊢
  exact fun c hc => isDnsByte_lowerByte (hn c hc)

theorem isSchemeText_all {sc : GoString} (hsc : isSchemeText sc = true) :
    sc.all isSchemeByte = true ∧ sc ≠ [] := by
  cases sc with
  | nil => simp [isSchemeText] at hsc
  | cons c t =>
    simp only [isSchemeText, Bool.and_eq_true] at hsc
    simp [isSchemeByte, hsc.1, hsc.2]

theorem isPlainPath_of_isPrefix {p q : GoString} (hq : q <+: p) (hp : isPlainPath p = true) :
    isPlainPath q = true := by
  simp only [isPlainPath, Bool.and_eq_true, Bool.or_eq_true, List.isEmpty_iff, beq_iff_eq,
    List.all_eq_true] at hp ⊢
  refine ⟨?_, fun c hc => hp.2 c (hq.subset hc)⟩
  rcases q with _ | ⟨d, q⟩
  · exact .inl rfl
  · obtain ⟨t, rfl⟩ := hq
    simpa using hp.1

/-- What a cut leaves of a plain path is empty or starts with `/`. -/
theorem isPlainPath_cut {P : GoString} (hP : isPlainPath P = true) (c : UInt8) :
    (cutByte P c).1 = [] ∨ ∃ t, (cutByte P c).1 = 47 :: t := by
  have h := isPlainPath_of_isPrefix (cutByte_fst_isPrefix P c) hP
  generalize (cutByte P c).1 = q at h ⊢
  rcases q with _ | ⟨d, t⟩
  · exact .inl rfl
  · simp only [isPlainPath, Bool.and_eq_true, Bool.or_eq_true, beq_iff_eq] at h
    simpa using h.1

/-! ## Unescaping and the scheme -/

/-- The bytes of a host need no escape in a host. -/
theorem shouldEscape_host {c : UInt8} (h : isHostByte c = true) : shouldEscape c .host = false := by
  by_cases hl : (isDigit c || isUpperAscii c || isLowerAscii c) = true
  · unfold shouldEscape; rw [if_pos hl]
  · have hc : c = 45 ∨ c = 46 ∨ c = 95 ∨ c = 58 ∨ c = 91 ∨ c = 93 := by
      simp only [isHostByte, isDnsByte, isDigit, isUpperAscii, isLowerAscii, Bool.or_eq_true,
        Bool.and_eq_true, decide_eq_true_eq, not_or, not_and, uint8_eq_iff,
        UInt8.reduceToNat] at h hl ⊢
      omega
    rcases hc with rfl | rfl | rfl | rfl | rfl | rfl <;> decide

/-- Text with no `%` and, in a host, no byte that needs an escape is its own unescaping. -/
theorem unescape_eq_ok {mode : Encoding} (hz : mode ≠ .zone) {s : GoString}
    (h : ∀ c ∈ s, c ≠ 37 ∧ (mode = .host → shouldEscape c .host = false)) :
    unescape mode s = .ok s := by
  induction s with
  | nil => rfl
  | cons c s ih =>
    obtain ⟨h1, h2⟩ := h c (List.mem_cons_self _ _)
    have hesc : ((mode == .host || mode == .zone) && decide (c.toNat < 0x80) &&
        shouldEscape c mode) = false := by
      cases mode <;> simp_all
    unfold unescape
    rw [if_neg h1, hesc, if_neg Bool.false_ne_true,
      ih fun d hd => h d (List.mem_cons_of_mem _ hd)]
    rfl

/-- `getScheme` reads a scheme up to the `:` after it. -/
theorem getScheme_go (raw rest : GoString) : ∀ (t acc : GoString),
    (acc ≠ [] ∨ isSchemeText t = true) → t.all isSchemeByte = true →
      getScheme.go raw acc (t ++ 58 :: rest) = .ok (acc ++ t, rest)
  | [], acc, h, _ => by
    simp only [isSchemeText, Bool.false_eq_true, or_false] at h
    have hl : (isUpperAscii 58 || isLowerAscii 58) = false := by decide
    have hd : (isDigit 58 || decide ((58 : UInt8) = 43) || decide ((58 : UInt8) = 45) ||
        decide ((58 : UInt8) = 46)) = false := by decide
    simp only [List.nil_append, getScheme.go, hl, hd, if_false, Bool.false_eq_true, if_true,
      List.isEmpty_iff, h, List.append_nil]
  | c :: t, acc, h, ht => by
    simp only [List.all_cons, Bool.and_eq_true] at ht
    have ih := getScheme_go raw rest t (acc ++ [c]) (.inl (by simp)) ht.2
    rw [List.append_assoc, List.singleton_append] at ih
    by_cases hl : (isUpperAscii c || isLowerAscii c) = true
    · simp [getScheme.go, hl, ih]
    · have hacc : acc ≠ [] := h.resolve_right (by simp [isSchemeText, hl])
      have hd : (isDigit c || c = 43 || c = 45 || c = 46) = true := by
        simp only [isSchemeByte, Bool.or_eq_true, decide_eq_true_eq] at ht hl ⊢
        simp only [uint8_eq_iff, UInt8.reduceToNat]
        simp only [not_or] at hl
        rcases ht.1 with (((((h | h) | h) | h) | h) | h) <;> simp_all
      simp only [Bool.or_eq_true, decide_eq_true_eq] at hl hd
      simp only [getScheme.go, Bool.or_eq_true, hl, if_false, hd, decide_eq_true_eq, if_true,
        List.isEmpty_iff, hacc]
      exact ih

/-! ## `url.Parse` on an authority -/

/-- `parse` on `scheme://host` and a plain path takes the authority branch: the host is
the text before the path, which is cut at its first `?`. -/
theorem parse_authority {sc H P : GoString} (hsc : isSchemeText sc = true)
    (hH : ∀ c ∈ H, isHostByte c = true) (hph : parseHost H = .ok H)
    (hP : isPlainPath P = true) :
    parse (sc ++ lit "://" ++ H ++ P) false =
      .ok { scheme := lowerAscii sc, host := H, path := (cutByte P 63).1
            rawQuery := (cutByte P 63).2.1 } := by
  have hR : sc ++ lit "://" ++ H ++ P = sc ++ 58 :: ((47 :: 47 :: H) ++ P) := by
    simp [show lit "://" = [58, 47, 47] from rfl]
  have hsc' := isSchemeText_all hsc
  have hPb : ∀ c ∈ P, isVisible c = true ∧ c ≠ 37 := by
    simp only [isPlainPath, Bool.and_eq_true, List.all_eq_true] at hP
    exact fun c hc => isPathByte_iff.mp (hP.2 c hc)
  have hne : ∀ {d : UInt8}, isHostByte d = false → d ∉ H :=
    fun hd h => ne_of_host (hH _ h) hd rfl
  have hctl : (sc ++ 58 :: ((47 :: 47 :: H) ++ P)).any isCTL = false := by
    simp only [List.any_eq_false, List.mem_append, List.mem_cons, Bool.not_eq_true]
    rintro c (hc | rfl | (rfl | rfl | hc) | hc)
    · exact isCTL_of_visible (isVisible_of_scheme (List.all_eq_true.mp hsc'.1 c hc))
    all_goals first
      | rfl
      | exact isCTL_of_visible (isVisible_of_host (hH c hc))
      | exact isCTL_of_visible (hPb c hc).1
  have hstar : sc ++ 58 :: ((47 :: 47 :: H) ++ P) ≠ lit "*" := fun h => by
    have := congrArg List.length h
    simp [show lit "*" = [42] from rfl] at this
    omega
  have hsq : splitQuery ((47 :: 47 :: H) ++ P) =
      ((47 :: 47 :: H) ++ (cutByte P 63).1, (cutByte P 63).2.1) := by
    rw [splitQuery_eq_cutByte, cutByte_append]
    simp only [List.mem_cons, not_or]
    exact ⟨by decide, by decide, hne (by decide)⟩
  have hpa : parseAuthority H = .ok (none, H) := by
    simp [parseAuthority, lastIndexByte_of_not_mem (hne (d := 64) (by decide)), hph,
      pure, Except.pure, bind, Except.bind]
  have hpath : unescape .path (cutByte P 63).1 = .ok (cutByte P 63).1 :=
    unescape_eq_ok (by decide) fun c hc =>
      ⟨(hPb c ((cutByte_fst_isPrefix P 63).subset hc)).2, by simp⟩
  have hempty : (lowerAscii sc).isEmpty = false := by simpa [lowerAscii] using hsc'.2
  have hp1 : ∀ X, hasPrefix (47 :: 47 :: X) (lit "/") = true := fun X => by
    simp [show lit "/" = [47] from rfl]
  have hp2 : ∀ X, hasPrefix (47 :: 47 :: X) (lit "//") = true := fun X => by
    simp [show lit "//" = [47, 47] from rfl]
  have h47 : (47 : UInt8) ∉ H := hne (by decide)
  rw [hR]
  simp only [parse, getScheme, hctl, getScheme_go _ _ sc [] (.inr hsc) hsc'.1, hstar, if_false,
    Bool.false_eq_true, Bool.and_false, List.nil_append, bind, Except.bind, hsq]
  simp only [hp1, hp2, Bool.not_true, Bool.false_and, if_false, Bool.false_eq_true, hempty,
    Bool.not_false, Bool.true_or, Bool.and_true, if_true, List.cons_append, List.drop_succ_cons,
    List.drop_zero, Bool.true_and]
  rcases isPlainPath_cut hP 63 with h0 | ⟨t, ht⟩
  · rw [h0] at hpath ⊢
    simp only [List.append_nil, indexByte_of_not_mem h47, hpa, hpath, pure, Except.pure]
  · rw [ht] at hpath ⊢
    simp only [indexByte_append_cons _ h47, List.take_left, List.drop_left, hpa, hpath, pure,
      Except.pure]

/-- `url.Parse` of `scheme://host` and a plain path: the host is the text before the path,
the fragment the text after the first `#`. -/
theorem urlParse_authority {sc H P : GoString} (hsc : isSchemeText sc = true)
    (hH : ∀ c ∈ H, isHostByte c = true) (hph : parseHost H = .ok H)
    (hP : isPlainPath P = true) :
    urlParse (sc ++ lit "://" ++ H ++ P) =
      .ok { scheme := lowerAscii sc, host := H, path := (cutByte (cutByte P 35).1 63).1
            rawQuery := (cutByte (cutByte P 35).1 63).2.1, fragment := (cutByte P 35).2.1 } := by
  have h35 : (35 : UInt8) ∉ sc ++ lit "://" ++ H := by
    simp only [List.mem_append, not_or]
    refine ⟨⟨fun h => ?_, by decide⟩, fun h => ne_of_host (hH 35 h) (by decide) rfl⟩
    have := List.all_eq_true.mp (isSchemeText_all hsc).1 35 h
    revert this; decide
  have hfrag : unescape .fragment (cutByte P 35).2.1 = .ok (cutByte P 35).2.1 := by
    simp only [isPlainPath, Bool.and_eq_true, List.all_eq_true] at hP
    exact unescape_eq_ok (by decide) fun c hc =>
      ⟨(isPathByte_iff.mp (hP.2 c ((cutByte_snd_isSuffix P 35).subset hc))).2, by simp⟩
  unfold urlParse
  rw [cutByte_append _ h35]
  dsimp only
  rw [parse_authority hsc hH hph (isPlainPath_of_isPrefix (cutByte_fst_isPrefix P 35) hP)]
  by_cases hf : (cutByte P 35).2.1 = []
  · simp [hf, bind, Except.bind, pure, Except.pure]
  · simp [hf, hfrag, bind, Except.bind, pure, Except.pure]

/-! ## Host and port -/

/-- The bytes of a name and its optional `:port`. -/
theorem mem_name_port {name cp : GoString} (hn : name.all isDnsByte = true)
    (hcp : validOptionalPort cp = true) : ∀ c ∈ name ++ cp, isDnsByte c = true ∨ c = 58 := by
  intro c hc
  rcases List.mem_append.mp hc with hc | hc
  · exact .inl (List.all_eq_true.mp hn c hc)
  · rcases cp with _ | ⟨d, port⟩
    · cases hc
    · simp only [validOptionalPort, Bool.and_eq_true, decide_eq_true_eq, List.all_eq_true] at hcp
      rcases List.mem_cons.mp hc with rfl | hc
      · exact .inr hcp.1
      · exact .inl (isDnsByte_of_isDigit (hcp.2 c hc))

theorem not_mem_name {name : GoString} (hn : name.all isDnsByte = true) {c : UInt8}
    (hc : isDnsByte c = false) : c ∉ name := fun h => by
  rw [List.all_eq_true.mp hn c h] at hc; cases hc

/-- `strings.LastIndexByte` finds the port's `:`. -/
theorem lastIndexByte_name_port {name cp : GoString} (hn : name.all isDnsByte = true)
    (hcp : validOptionalPort cp = true) :
    lastIndexByte (name ++ cp) 58 = if cp = [] then none else some name.length := by
  rcases cp with _ | ⟨d, port⟩
  · simpa using lastIndexByte_of_not_mem (not_mem_name hn (by decide))
  · simp only [validOptionalPort, Bool.and_eq_true, decide_eq_true_eq] at hcp
    obtain ⟨rfl, hp⟩ := hcp
    simpa using lastIndexByte_append_cons
      (fun h => by have := List.all_eq_true.mp hp 58 h; revert this; decide) name

theorem hasPrefix_name_port {name cp : GoString} (hn : name.all isDnsByte = true)
    (hcp : validOptionalPort cp = true) : hasPrefix (name ++ cp) (lit "[") = false := by
  rw [← Bool.not_eq_true, hasPrefix_iff]
  exact fun h => ne_of_dns (mem_name_port hn hcp 91 (h.subset (by decide))) (by decide)
    (by decide) rfl

/-- A DNS name with an optional `:port` is its own `parseHost`. -/
theorem parseHost_name_port {name cp : GoString} (hn : name.all isDnsByte = true)
    (hcp : validOptionalPort cp = true) : parseHost (name ++ cp) = .ok (name ++ cp) := by
  have hb := mem_name_port hn hcp
  have hesc : unescape .host (name ++ cp) = .ok (name ++ cp) :=
    unescape_eq_ok (by decide) fun c hc =>
      ⟨ne_of_dns (hb c hc) (by decide) (by decide), fun _ => shouldEscape_host (isHostByte_of_dns (hb c hc))⟩
  unfold parseHost
  rw [hasPrefix_name_port hn hcp, if_neg Bool.false_ne_true, lastIndexByte_name_port hn hcp]
  split_ifs with h
  · exact hesc
  · simp [List.drop_left, hcp, hesc]

/-- `URL.Hostname` and `URL.Port` of a DNS name with an optional `:port`. -/
theorem splitHostPort_name_port {name cp : GoString} (hn : name.all isDnsByte = true)
    (hcp : validOptionalPort cp = true) : splitHostPort (name ++ cp) = (name, cp.drop 1) := by
  have hpre := @hasPrefix_name_port name [] hn rfl
  rw [List.append_nil] at hpre
  unfold splitHostPort
  rw [lastIndexByte_name_port hn hcp]
  rcases cp with _ | ⟨d, port⟩
  · simp [hpre]
  · simp [List.drop_left, hcp, hpre]

/-- `net.SplitHostPort` of a DNS name and a `:port`. -/
theorem netSplitHostPort_name_port {name port : GoString} (hn : name.all isDnsByte = true)
    (hp : port.all isDigit = true) : netSplitHostPort (name ++ 58 :: port) = .ok (name, port) := by
  have hcp : validOptionalPort (58 :: port) = true := by simp [validOptionalPort, hp]
  have hb := mem_name_port hn hcp
  have hno : ∀ d : UInt8, isDnsByte d = false → d ≠ 58 → d ∉ name ++ 58 :: port :=
    fun d hd hd58 h => ne_of_dns (hb d h) hd hd58 rfl
  have hhead : name.head? ≠ some 91 := fun h =>
    not_mem_name hn (c := 91) (by decide) (List.mem_of_mem_head? h)
  unfold netSplitHostPort
  rw [lastIndexByte_name_port hn hcp]
  simp [hhead, not_mem_name hn (c := 58) (by decide), List.take_left, List.drop_left,
    hno 91 (by decide) (by decide), hno 93 (by decide) (by decide)]

/-- `net.SplitHostPort` rejects a text with no `:`. -/
theorem netSplitHostPort_of_not_mem {s : GoString} (h : (58 : UInt8) ∉ s) :
    netSplitHostPort s = .error .missingPort := by
  simp [netSplitHostPort, lastIndexByte_of_not_mem h]

/-! ## Bracketed IPv6 literals

`parseHost` reads `[addr]` through `netip.ParseAddr`; an address it accepts holds two `:`
at least, which is what keeps `net.SplitHostPort` from splitting the unbracketed address
that `NormalizeBackendHost` returns for a default port. -/

/-- Without a `::` read so far, the groups from byte `i` on hold `(12 - i) / 2` separators,
or two: the last group before an embedded IPv4 address is at byte 12 at the latest. -/
theorem two_le_count_of_ipv6Groups : ∀ (fuel : Nat) (s : GoString) (i : Nat),
    ipv6Groups fuel s i false = true → 2 ≤ s.count 58 ∨ (12 - i) / 2 ≤ s.count 58
  | 0, s, i, h => by
    simp only [ipv6Groups, ipv6Done, Bool.and_eq_true, List.isEmpty_iff] at h
    split_ifs at h with hi
    · simp at h
    · omega
  | fuel + 1, s, i, h => by
    by_cases h16 : 16 ≤ i
    · omega
    rw [ipv6Groups, if_neg h16] at h
    dsimp only at h
    have hsub := (List.drop_sublist (s.takeWhile isHexDigit).length s).count_le 58
    generalize s.takeWhile isHexDigit = digits at h hsub
    generalize s.drop digits.length = rest at h hsub
    by_cases hd : (4 < digits.length || digits.isEmpty) = true
    · rw [if_pos hd] at h; cases h
    rw [if_neg hd] at h
    by_cases hdot : rest.head? = some 46
    · rw [if_pos hdot] at h
      simp only [Bool.false_or, Bool.and_eq_true, decide_eq_true_eq] at h
      omega
    rw [if_neg hdot] at h
    rcases rest with _ | ⟨c, rest'⟩
    · simp [ipv6Done] at h
      omega
    dsimp only at h
    by_cases hc : (c != 58 || rest'.isEmpty) = true
    · rw [if_pos hc] at h; cases h
    rw [if_neg hc] at h
    simp only [Bool.or_eq_true, bne_iff_ne, ne_eq, not_or, Decidable.not_not] at hc
    obtain ⟨rfl, -⟩ := hc
    simp only [List.count_cons_self] at hsub
    by_cases h58 : rest'.head? = some 58
    · obtain ⟨t, rfl⟩ : ∃ t, rest' = 58 :: t := by
        rcases rest' with _ | ⟨d, t⟩
        · cases h58
        · cases h58; exact ⟨t, rfl⟩
      left
      simp only [List.count_cons_self] at hsub
      omega
    rw [if_neg h58] at h
    have ih := two_le_count_of_ipv6Groups fuel rest' (i + 2) h
    omega

/-- Every address between brackets `url.Parse` accepts holds two `:` at least. -/
theorem two_le_count_of_isIPv6Literal {s : GoString} (h : isIPv6Literal s = true) :
    2 ≤ s.count 58 := by
  have hok : parseIPv6Ok s = true := by
    unfold isIPv6Literal at h
    split at h
    · exact h
    all_goals cases h
  have hle := (cutByte_fst_isPrefix s 37).sublist.count_le 58
  unfold parseIPv6Ok at hok
  generalize cutByte s 37 = r at hok hle
  obtain ⟨s', zone, hz⟩ := r
  dsimp only at hok hle
  by_cases h1 : (hz && zone.isEmpty) = true
  · rw [if_pos h1] at hok; cases hok
  rw [if_neg h1] at hok
  by_cases h2 : hasPrefix s' (lit "::") = true
  · obtain ⟨t, rfl⟩ := (hasPrefix_iff _ _).mp h2
    simp only [show lit "::" = [58, 58] from rfl, List.cons_append, List.nil_append,
      List.count_cons_self] at hle
    omega
  · rw [if_neg h2] at hok
    have := two_le_count_of_ipv6Groups 8 s' 0 hok
    omega

theorem not_mem_v6 {addr : GoString} (ha : addr.all isV6Byte = true) {d : UInt8}
    (hd : isV6Byte d = false) : d ∉ addr := fun h => by
  rw [List.all_eq_true.mp ha d h] at hd; cases hd

/-- A bracketed IPv6 address with an optional `:port` is its own `parseHost`. -/
theorem parseHost_v6_port {addr cp : GoString} (ha : addr.all isV6Byte = true)
    (hv : isIPv6Literal addr = true) (hcp : validOptionalPort cp = true) :
    parseHost (91 :: addr ++ 93 :: cp) = .ok (91 :: addr ++ 93 :: cp) := by
  have hA : ∀ c ∈ addr, isV6Byte c = true := List.all_eq_true.mp ha
  have h93 : (93 : UInt8) ∉ cp := fun h =>
    ne_of_dns (@mem_name_port [] cp rfl hcp 93 h) (by decide) (by decide) rfl
  have hidx : index (91 :: addr) (lit "%25") = none := by
    have : contains (91 :: addr) (lit "%25") = false := by
      rw [← Bool.not_eq_true, contains_iff]
      refine not_infix_of_mem (c := 37) (by decide) ?_
      simp only [List.mem_cons, not_or]
      exact ⟨by decide, not_mem_v6 ha (by decide)⟩
    simpa [contains] using this
  have hesc : unescape .host (91 :: addr) = .ok (91 :: addr) :=
    unescape_eq_ok (by decide) fun c hc => by
      rcases List.mem_cons.mp hc with rfl | hc
      · exact ⟨by decide, fun _ => by decide⟩
      · exact ⟨ne_of_host (isHostByte_of_v6 (hA c hc)) (by decide),
          fun _ => shouldEscape_host (isHostByte_of_v6 (hA c hc))⟩
  unfold parseHost
  rw [if_pos (by simp [show lit "[" = [91] from rfl]), lastIndexByte_append_cons h93 (91 :: addr)]
  simp [hcp, hidx, hesc, hv, bind, Except.bind, pure, Except.pure]

theorem unbracket (addr : GoString) :
    hasPrefix (91 :: addr ++ [93]) (lit "[") = true ∧ hasSuffix (91 :: addr ++ [93]) (lit "]") = true ∧
      ((91 :: addr ++ [93]).drop 1).dropLast = addr := by
  refine ⟨by simp [show lit "[" = [91] from rfl], ?_, by simp⟩
  simpa [hasSuffix, show lit "]" = [93] from rfl] using ⟨91 :: addr, rfl⟩

/-- `URL.Hostname` and `URL.Port` of a bracketed IPv6 address with an optional `:port`. -/
theorem splitHostPort_v6_port {addr cp : GoString} (h58 : (58 : UInt8) ∈ addr)
    (hcp : validOptionalPort cp = true) :
    splitHostPort (91 :: addr ++ 93 :: cp) = (addr, cp.drop 1) := by
  obtain ⟨h1, h2, h3⟩ := unbracket addr
  unfold splitHostPort
  rcases cp with _ | ⟨d, port⟩
  · obtain ⟨a, b, hab, hb, -⟩ := lastIndexByte_of_mem h58
    have e : 91 :: addr ++ [93] = (91 :: a) ++ 58 :: (b ++ [93]) := by simp [hab]
    have hl : lastIndexByte (91 :: addr ++ [93]) 58 = some (a.length + 1) := by
      rw [e, lastIndexByte_append_cons (by simpa using hb)]; rfl
    have hv : validOptionalPort ((91 :: addr ++ [93]).drop (a.length + 1)) = false := by
      have h93 : isDigit 93 = false := by decide
      rw [e, show a.length + 1 = (91 :: a).length from rfl, List.drop_left]
      simp [validOptionalPort, h93]
    rw [hl]
    dsimp only
    rw [hv, if_neg Bool.false_ne_true, h1, h2]
    simp only [Bool.and_self, if_true, h3, List.drop_nil]
  · simp only [validOptionalPort, Bool.and_eq_true, decide_eq_true_eq] at hcp
    obtain ⟨rfl, hp⟩ := hcp
    have h58p : (58 : UInt8) ∉ port := fun h => by
      have := List.all_eq_true.mp hp 58 h; revert this; decide
    have e : 91 :: addr ++ 93 :: 58 :: port = (91 :: addr ++ [93]) ++ 58 :: port := by simp
    rw [e, lastIndexByte_append_cons h58p]
    have hdrop : ((91 :: addr ++ [93]) ++ 58 :: port).drop ((91 :: addr ++ [93]).length + 1) = port := by
      rw [List.drop_append_eq_append_drop]; simp
    have hv : validOptionalPort (58 :: port) = true := by simp [validOptionalPort, hp]
    dsimp only
    rw [List.drop_left, hv, if_pos rfl, List.take_left, hdrop, h1, h2]
    simp only [Bool.and_self, if_true, h3, List.drop_succ_cons, List.drop_zero]

/-- `net.SplitHostPort` of a bracketed IPv6 address and a `:port`. -/
theorem netSplitHostPort_v6_port {addr port : GoString} (ha : addr.all isV6Byte = true)
    (hp : port.all isDigit = true) :
    netSplitHostPort (91 :: addr ++ 93 :: 58 :: port) = .ok (addr, port) := by
  have hdig : ∀ d : UInt8, isDigit d = false → d ∉ port := fun d hd h => by
    rw [List.all_eq_true.mp hp d h] at hd; cases hd
  have e : 91 :: addr ++ 93 :: 58 :: port = (91 :: addr ++ [93]) ++ 58 :: port := by simp
  have hl : lastIndexByte (91 :: addr ++ 93 :: 58 :: port) 58 = some (addr.length + 2) := by
    rw [e, lastIndexByte_append_cons (hdig 58 (by decide))]; simp
  have hi : indexByte (91 :: addr ++ 93 :: 58 :: port) 93 = some (addr.length + 1) :=
    indexByte_append_cons _ (by
      simp only [List.mem_cons, not_or]; exact ⟨by decide, not_mem_v6 ha (by decide)⟩)
  have hd : (addr ++ 93 :: 58 :: port).drop (addr.length + 1) = 58 :: port := by
    rw [List.drop_append_eq_append_drop]; simp
  unfold netSplitHostPort
  rw [hl, hi]
  simp [hd, not_mem_v6 ha (d := 91) (by decide), hdig 91 (by decide), hdig 93 (by decide)]

/-- `net.SplitHostPort` rejects a bracketed address with no port. -/
theorem netSplitHostPort_v6 {addr : GoString} (ha : addr.all isV6Byte = true) :
    netSplitHostPort (91 :: addr ++ [93]) = .error .missingPort := by
  have hi : indexByte (91 :: addr ++ [93]) 93 = some (addr.length + 1) :=
    indexByte_append_cons _ (by
      simp only [List.mem_cons, not_or]; exact ⟨by decide, not_mem_v6 ha (by decide)⟩)
  unfold netSplitHostPort
  cases lastIndexByte (91 :: addr ++ [93]) 58 with
  | none => rfl
  | some j =>
    dsimp only
    rw [hi]
    simp

/-- `net.SplitHostPort` rejects an unbracketed text with two `:`. -/
theorem netSplitHostPort_two_colons {s : GoString} (hh : s.head? ≠ some 91)
    (h2 : 2 ≤ s.count 58) : netSplitHostPort s = .error .tooManyColons := by
  obtain ⟨a, b, rfl, hb, hl⟩ := lastIndexByte_of_mem (List.count_pos_iff.mp (show 0 < s.count 58 by omega))
  have ha : (58 : UInt8) ∈ a := by
    rw [List.count_append, List.count_cons_self, List.count_eq_zero_of_not_mem hb] at h2
    exact List.count_pos_iff.mp (show 0 < a.count 58 by omega)
  have hh' : a.head? ≠ some 91 := by
    rwa [List.head?_append_of_ne_nil _ (List.ne_nil_of_mem ha)] at hh
  unfold netSplitHostPort
  rw [hl]
  simp [hh', ha]

theorem lowerByte_eq_colon_iff (c : UInt8) : lowerByte c = 58 ↔ c = 58 := by
  unfold lowerByte
  split_ifs with hu
  · simp only [isUpperAscii, Bool.and_eq_true, decide_eq_true_eq] at hu
    simp only [uint8_eq_iff, toNat_add_32 (show c.toNat < 224 by omega), UInt8.reduceToNat]
    omega
  · exact Iff.rfl

theorem count_colon_lowerAscii (s : GoString) : (lowerAscii s).count 58 = s.count 58 := by
  simp only [lowerAscii, List.count, List.countP_map]
  congr 1
  funext c
  rw [Function.comp_apply, Bool.eq_iff_iff, beq_iff_eq, beq_iff_eq, lowerByte_eq_colon_iff]

theorem all_isV6Byte_lowerAscii {s : GoString} (hs : s.all isV6Byte = true) :
    (lowerAscii s).all isV6Byte = true := by
  simp only [lowerAscii, List.all_map, List.all_eq_true, Function.comp_apply] at hs ⊢
  intro c hc
  have := hs c hc
  unfold lowerByte
  split_ifs with hu
  · simp only [isUpperAscii, Bool.and_eq_true, decide_eq_true_eq] at hu
    simp only [isV6Byte, isHexDigit, isDigit, Bool.or_eq_true, Bool.and_eq_true,
      decide_eq_true_eq, toNat_add_32 (show c.toNat < 224 by omega)] at this ⊢
    omega
  · exact this

end QuantumGoUtils.Go.Url
