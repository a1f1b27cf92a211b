import QuantumGoUtils.Requests.Canonical

/-!
# What the canonical string determines

The canonical string is what both signatures cover, so its laws are the security
properties of the request format: the verifier must be able to read it back
(`ParseCanonicalString ∘ CanonicalString`), and one string must not stand for two
requests (injectivity), and a normalized host must stay normalized.

The domain of these laws is `ValidInput`: every field is an output of its validator, and
the application id is non-empty.

## Main results

* `parseCanonicalString_rejects_canonical` — for every valid input, the string
  `CanonicalString` produces has at least nine lines, so `ParseCanonicalString`, which
  requires eight, rejects it: the parser never reads back what the encoder writes.
* `parseCanonicalString_index_out_of_range` — the parser reads index 8 of an eight-line
  array exactly for the eight-line strings whose labelled lines pass their checks;
  `parseCanonicalString_ne_ok`: it never returns a result.
* `normalizeAndValidatePath_ok` — an accepted path is returned percent-decoded before its
  query, so an encoded line feed comes out as a line feed.
* `canonicalString_collision` — two valid requests that differ in path and application
  id share one canonical string: a percent-encoded line break in the path survives
  validation.
* `collapseSlashes_runs` — `collapseSlashes` replaces every run of `/` by one `/`, so its
  output holds no `//`, it is idempotent, and its early return agrees with its loop.
* `normalizeBackendHost_not_idempotent` — `[::1]:80` normalizes to `::1`, which
  normalizes to `[:]:1`.
-/

namespace QuantumGoUtils.Requests.CanonicalLaws

open QuantumGoUtils.Go.Strings QuantumGoUtils.Go.Unicode QuantumGoUtils.Go.Strconv
open QuantumGoUtils.Go.Url QuantumGoUtils.Requests.Canonical

/-- The inputs the round-trip and injectivity laws range over: the method, the path and
the three identifiers are outputs of their validators, and the application id is
non-empty. -/
structure ValidInput (U : CaseMap) (x : CanonicalInput) : Prop where
  method : ∃ m, normalizeAndValidateMethod U m = .ok x.method
  path : ∃ p opt, normalizeAndValidatePath p opt = .ok x.path
  challengeID : ∃ s, validateUUIDv4 s = .ok x.challengeID
  userID : ∃ s, validateUUIDv4 s = .ok x.userID
  deviceID : ∃ s, validateUUIDv4 s = .ok x.deviceID
  appID : x.appID ≠ []

/-! ## Spec lemmas -/

/-- A validated method is one of the allowed ones. -/
theorem mem_allowedMethods {U : CaseMap} {m r : GoString}
    (h : normalizeAndValidateMethod U m = .ok r) : r ∈ allowedMethods := by
  unfold normalizeAndValidateMethod at h
  dsimp only at h
  split_ifs at h with hempty hmem
  · cases h; exact hmem

/-- Every allowed method is upper-case ASCII and starts with a byte that is not space. -/
theorem allowedMethods_shape : ∀ m ∈ allowedMethods,
    isAscii m = true ∧ m.all (fun c => !isLowerAscii c) = true ∧
      m.head?.any (fun c => c.toNat < 0x80 && !isSpaceRune c.toNat) = true := by
  decide

/-- What a successful `CanonicalString` returns: the nine lines over the normalized
audience and the trimmed, lower-cased body hash, which is 64 hex digits. -/
theorem canonicalString_eq_ok {U : CaseMap} {x : CanonicalInput} {s : GoString}
    (h : canonicalString U x = .ok s) :
    s = join (canonicalLines U x (normalizeBackendHost U x.backendHost)
        (toLower U (trimSpace x.bodySHA256Hex))) (lit "\n") ∧
      (toLower U (trimSpace x.bodySHA256Hex)).length = 64 ∧
      (∀ c ∈ toLower U (trimSpace x.bodySHA256Hex), isHexDigit c = true) ∧
      normalizeBackendHost U x.backendHost ≠ [] := by
  unfold canonicalString at h
  dsimp only at h
  split_ifs at h with hempty hlen haud <;>
    cases hdec : hexDecode (toLower U (trimSpace x.bodySHA256Hex)) <;> simp only [hdec] at h <;>
    cases h
  exact ⟨rfl, by simpa using hlen, isHexDigit_of_hexDecode hdec, by simpa using haud⟩

/-! ## The parser rejects every canonical string -/

/-- For every valid input, `CanonicalString`'s output splits into at least nine lines, so
`ParseCanonicalString` stops at its line-count check. -/
theorem parseCanonicalString_rejects_canonical (U : CaseMap) (x : CanonicalInput)
    (hx : ValidInput U x) {s : GoString} (hs : canonicalString U x = .ok s) :
    ∃ n, 9 ≤ n ∧ parseCanonicalString s = .error (.lineCount n) := by
  obtain ⟨hjoin, hlen, hhex, -⟩ := canonicalString_eq_ok hs
  obtain ⟨m, hm⟩ := hx.method
  obtain ⟨hascii, hupper, hhead⟩ := allowedMethods_shape _ (mem_allowedMethods hm)
  have hup : toUpper U x.method = x.method := toUpper_of_upper U hascii hupper
  set bodyHex := toLower U (trimSpace x.bodySHA256Hex)
  obtain ⟨c, hc⟩ : ∃ c, x.method.head? = some c := Option.isSome_iff_exists.mp
    (by cases h : x.method.head? <;> simp_all)
  obtain ⟨d, hd⟩ : ∃ d, bodyHex.getLast? = some d := Option.isSome_iff_exists.mp
    (by cases h : bodyHex.getLast? <;> simp_all [List.getLast?_eq_none_iff])
  have hcd : c.toNat < 0x80 ∧ isSpaceRune c.toNat = false := by simpa [hc] using hhead
  have hdd := isHexDigit_ascii (hhex d (List.mem_of_getLast?_eq_some hd))
  have hshead : s.head? = some c := by
    simp [hjoin, join, canonicalLines, hup, hc]
  have hslast : s.getLast? = some d := by
    simp [hjoin, join, canonicalLines, labelled, List.getLast?_append, hd]
  have htrim : trimSpace s = s := trimSpace_eq_self hshead hslast hcd.1 hcd.2 hdd.1 hdd.2
  have hcount : 8 ≤ s.count 10 := by
    have := count_join 10 (canonicalLines U x (normalizeBackendHost U x.backendHost) bodyHex)
    rw [show lit "\n" = [10] from rfl] at hjoin
    rw [← hjoin] at this
    simp [canonicalLines] at this
    omega
  refine ⟨s.count 10 + 1, by omega, ?_⟩
  have hne : s.count 10 + 1 ≠ 8 := by omega
  simp [parseCanonicalString, split, htrim, length_splitOn, hne]

/-- A case table that fixes every rune above U+007F. The concrete runs below are ASCII,
where Go's own mapping applies and the table is never consulted. -/
def asciiCase : CaseMap := ⟨id, id⟩

/-- The login request of the specification's scenarios, with version-4 identifiers. -/
def loginInput : CanonicalInput where
  method := lit "POST"
  path := lit "/api/v1/login?x=1"
  appID := lit "app-1"
  backendHost := lit "EXAMPLE.com:443"
  ts := 1700000000
  challengeID := lit "6f9619ff-8b86-4011-b42d-00c04fc964ff"
  userID := lit "0b2c6a1e-3f4d-4a5b-8c7d-9e0f1a2b3c4d"
  deviceID := lit "c56a4180-65aa-42ec-a945-5fd21dec0538"
  bodySHA256Hex := lit "e3b0c44298fc1c149afbf4c8996fb92427ae41e4649b934ca495991b7852b855"

/-- The canonical string of `loginInput`. -/
def loginCanonical : GoString :=
  lit ("POST\n/api/v1/login?x=1\nAPP: app-1\nAUD: example.com\nTS: 1700000000\n" ++
    "CHALLENGE: 6f9619ff-8b86-4011-b42d-00c04fc964ff\n" ++
    "USER: 0b2c6a1e-3f4d-4a5b-8c7d-9e0f1a2b3c4d\n" ++
    "DEVICE: c56a4180-65aa-42ec-a945-5fd21dec0538\n" ++
    "BODY-SHA256: e3b0c44298fc1c149afbf4c8996fb92427ae41e4649b934ca495991b7852b855")

set_option maxRecDepth 8000 in
/-- The login request is valid and canonicalizes to nine lines, which the parser
rejects. -/
theorem parseCanonicalString_rejects_login :
    ValidInput asciiCase loginInput ∧ canonicalString asciiCase loginInput = .ok loginCanonical ∧
      ∃ n, 9 ≤ n ∧ parseCanonicalString loginCanonical = .error (.lineCount n) := by
  have hvalid : ValidInput asciiCase loginInput :=
    ⟨⟨lit "post", by decide⟩, ⟨lit "/api/v1/login?x=1", ⟨true⟩, by decide⟩,
      ⟨loginInput.challengeID, by decide⟩, ⟨loginInput.userID, by decide⟩,
      ⟨loginInput.deviceID, by decide⟩, by decide⟩
  have hs : canonicalString asciiCase loginInput = .ok loginCanonical := rfl
  exact ⟨hvalid, hs, parseCanonicalString_rejects_canonical asciiCase loginInput hvalid hs⟩

/-! ## What the parser reads

The line-count guard asks for eight lines, but the parser then reads nine. Every read
below index 8 is inside the array; the read of index 8, Go's index-out-of-range panic, is
reached by exactly the eight-line strings whose labelled lines pass their checks, and no
string is ever returned as a `ParsedCanonical`.
-/

/-- A `>>=` in `Except` fails with `e` when its first step does, or when that step
succeeds and the rest fails with `e`. -/
theorem bind_eq_error_iff {ε α β : Type} {x : Except ε α} {f : α → Except ε β} {e : ε} :
    x >>= f = .error e ↔ x = .error e ∨ ∃ a, x = .ok a ∧ f a = .error e := by
  cases x <;> simp [bind, Except.bind]

theorem bind_eq_ok_iff {ε α β : Type} {x : Except ε α} {f : α → Except ε β} {b : β} :
    x >>= f = .ok b ↔ ∃ a, x = .ok a ∧ f a = .ok b := by
  cases x <;> simp [bind, Except.bind]

theorem mapError_eq_ok_iff {ε ε' α : Type} {f : ε → ε'} {x : Except ε α} {a : α} :
    x.mapError f = .ok a ↔ x = .ok a := by
  cases x <;> simp [Except.mapError]

theorem mapError_parseTS_ne_index {x : Except NumError (BitVec 64)} {i n : Nat} :
    x.mapError ParseError.parseTS ≠ .error (.indexOutOfRange i n) := by
  cases x <;> simp [Except.mapError]

theorem labelledField_ne_index {label : String} {line : GoString} {i n : Nat} :
    labelledField label line ≠ .error (.indexOutOfRange i n) := by
  unfold labelledField; split_ifs <;> simp

theorem labelledField_ok_iff {label : String} {line : GoString} :
    (∃ v, labelledField label line = .ok v) ↔ hasPrefix line (lit (label ++ ": ")) = true := by
  unfold labelledField; split_ifs with h <;> simp_all

theorem eq_of_length_eq_eight {lines : List GoString} (h : lines.length = 8) :
    ∃ l0 l1 l2 l3 l4 l5 l6 l7, lines = [l0, l1, l2, l3, l4, l5, l6, l7] :=
  match lines, h with
  | [l0, l1, l2, l3, l4, l5, l6, l7], _ => ⟨l0, l1, l2, l3, l4, l5, l6, l7, rfl⟩

/-- **The parser's one out-of-range read.** `ParseCanonicalString` reads past the end of
its line array exactly when the string splits into eight lines whose `APP`, `AUD`, `TS`,
`CHALLENGE`, `USER` and `DEVICE` lines pass their checks, and the read is of index 8 in
an array of length 8. -/
theorem parseCanonicalString_index_out_of_range {s : GoString} {i n : Nat} :
    parseCanonicalString s = .error (.indexOutOfRange i n) ↔
      (∃ l0 l1 l2 l3 l4 l5 l6 l7,
        split (trimSpace s) 10 = [l0, l1, l2, l3, l4, l5, l6, l7] ∧
        hasPrefix l2 (lit "APP: ") = true ∧ hasPrefix l3 (lit "AUD: ") = true ∧
        hasPrefix l4 (lit "TS: ") = true ∧
        (∃ ts, parseInt (trimSpace (trimPrefix l4 (lit "TS: "))) = .ok ts) ∧
        hasPrefix l5 (lit "CHALLENGE: ") = true ∧ hasPrefix l6 (lit "USER: ") = true ∧
        hasPrefix l7 (lit "DEVICE: ") = true) ∧ i = 8 ∧ n = 8 := by
  unfold parseCanonicalString
  generalize split (trimSpace s) 10 = lines
  by_cases hlen : lines.length = 8
  · obtain ⟨l0, l1, l2, l3, l4, l5, l6, l7, rfl⟩ := eq_of_length_eq_eight hlen
    have hR : (∃ m0 m1 m2 m3 m4 m5 m6 m7, [l0, l1, l2, l3, l4, l5, l6, l7] =
        [m0, m1, m2, m3, m4, m5, m6, m7] ∧
        hasPrefix m2 (lit "APP: ") = true ∧ hasPrefix m3 (lit "AUD: ") = true ∧
        hasPrefix m4 (lit "TS: ") = true ∧
        (∃ ts, parseInt (trimSpace (trimPrefix m4 (lit "TS: "))) = .ok ts) ∧
        hasPrefix m5 (lit "CHALLENGE: ") = true ∧ hasPrefix m6 (lit "USER: ") = true ∧
        hasPrefix m7 (lit "DEVICE: ") = true) ↔
        hasPrefix l2 (lit "APP: ") = true ∧ hasPrefix l3 (lit "AUD: ") = true ∧
        hasPrefix l4 (lit "TS: ") = true ∧
        (∃ ts, parseInt (trimSpace (trimPrefix l4 (lit "TS: "))) = .ok ts) ∧
        hasPrefix l5 (lit "CHALLENGE: ") = true ∧ hasPrefix l6 (lit "USER: ") = true ∧
        hasPrefix l7 (lit "DEVICE: ") = true :=
      ⟨fun ⟨_, _, _, _, _, _, _, _, h, hq⟩ => by simp only [List.cons.injEq] at h; aesop,
        fun hq => ⟨_, _, _, _, _, _, _, _, rfl, hq⟩⟩
    rw [hR, if_neg (by simp)]
    simp only [lineAt, List.get?, hlen, bind_eq_error_iff, labelledField_ne_index,
      mapError_parseTS_ne_index, mapError_eq_ok_iff, reduceCtorEq, Except.ok.injEq,
      Except.error.injEq, ParseError.indexOutOfRange.injEq, exists_eq_left', false_or,
      Bool.not_eq_true', ite_eq_iff, and_false, exists_and_right, exists_and_left,
      labelledField_ok_iff, exists_const, false_and, or_false, Bool.not_eq_false,
      String.reduceAppend, @eq_comm ℕ 8, and_assoc]
  · have : ∀ l0 l1 l2 l3 l4 l5 l6 l7 : GoString, lines ≠ [l0, l1, l2, l3, l4, l5, l6, l7] :=
      fun _ _ _ _ _ _ _ _ h => hlen (by simp [h])
    simp [hlen, this]

example :
    parseCanonicalString (lit "GET\n/\nAPP: a\nAUD: b\nTS: 1\nCHALLENGE: c\nUSER: u\nDEVICE: d") =
      .error (.indexOutOfRange 8 8) := by decide

/-- `ParseCanonicalString` never returns a `ParsedCanonical`: with eight lines it reads a
ninth. -/
theorem parseCanonicalString_ne_ok (s : GoString) (p : ParsedCanonical) :
    parseCanonicalString s ≠ .ok p := by
  unfold parseCanonicalString
  generalize split (trimSpace s) 10 = lines
  intro h
  dsimp only at h
  split_ifs at h with hlen
  obtain ⟨l0, l1, l2, l3, l4, l5, l6, l7, rfl⟩ := eq_of_length_eq_eight (not_not.mp hlen)
  simp only [lineAt, List.get?, bind_eq_ok_iff, reduceCtorEq, false_and, exists_false,
    and_false, ite_eq_iff, or_self] at h

/-! ## What path normalization returns

The checks of `NormalizeAndValidatePath` read the trimmed input, but the result is built
from `u.Path`, which `url.ParseRequestURI` percent-decodes: the text before the first
`?`, decoded and optionally collapsed, then the query as it was written.
-/

/-- A check of a guard chain: a guard that fails ends the function with its error. -/
theorem ite_error_eq_ok {ε α : Type} {c : Prop} [Decidable c] {e : ε} {x : Except ε α} {q : α}
    (h : (if c then .error e else x) = .ok q) : ¬c ∧ x = .ok q := by
  split_ifs at h with hc
  exact ⟨hc, h⟩

/-- A valid string with no control rune holds no control byte: those are ASCII. -/
theorem any_isCTL_eq_false {p : GoString} (hv : validString p = true)
    (hc : (utf8Segments p).any (fun seg => isControlRune seg.value) = false) :
    p.any isCTL = false := by
  rw [List.any_eq_false] at hc ⊢
  intro c hcp hctl
  have h80 : c.toNat < 0x80 := by simp [isCTL] at hctl; omega
  obtain ⟨seg, hseg, hval⟩ := exists_seg_of_ascii hv hcp h80
  exact hc seg hseg (by simp [isControlRune, hval]; simp [isCTL] at hctl; omega)

/-- Text without `%` is its own decoding. -/
theorem unescape_path_of_not_mem : ∀ {s : GoString}, 37 ∉ s → unescape .path s = .ok s
  | [], _ => rfl
  | c :: s, h => by
    simp only [List.mem_cons, not_or] at h
    rw [unescape.eq_def]
    simp only [if_neg (Ne.symm h.1), unescape_path_of_not_mem h.2]
    rfl

/-- **What an accepted path becomes.** The result is the percent-decoding of the trimmed
input's text before its first `?`, collapsed when asked, followed by `?` and the text after
it when that is not empty. -/
theorem normalizeAndValidatePath_ok {p : GoString} {opt : PathNormalizeOptions} {q : GoString}
    (h : normalizeAndValidatePath p opt = .ok q) :
    ∃ path, unescape .path (cutByte (trimSpace p) 63).1 = .ok path ∧
      q = (if opt.collapseSlashes then collapseSlashes path else path) ++
        (if (cutByte (trimSpace p) 63).2.1 = [] then [] else 63 :: (cutByte (trimSpace p) 63).2.1) := by
  unfold normalizeAndValidatePath at h
  dsimp only at h
  obtain ⟨-, h⟩ := ite_error_eq_ok h
  obtain ⟨hvalid, h⟩ := ite_error_eq_ok h
  obtain ⟨hctl, h⟩ := ite_error_eq_ok h
  obtain ⟨-, h⟩ := ite_error_eq_ok h
  obtain ⟨-, h⟩ := ite_error_eq_ok h
  obtain ⟨hslash, h⟩ := ite_error_eq_ok h
  simp only [Bool.not_eq_true, Bool.not_eq_false'] at hvalid hctl hslash
  rw [parseRequestURI_of_origin hslash (any_isCTL_eq_false hvalid hctl)] at h
  cases hu : unescape .path (cutByte (trimSpace p) 63).1 with
  | error e => simp only [hu, Functor.map, Except.map, reduceCtorEq] at h
  | ok path =>
    refine ⟨path, rfl, ?_⟩
    simp only [hu, Functor.map, Except.map, Except.ok.injEq] at h
    subst h
    simp only [List.isEmpty_iff]
    split_ifs <;> simp

/-- `/a%0Ab` is accepted, and the line feed it encodes is in the result. -/
theorem normalizeAndValidatePath_line_feed :
    normalizeAndValidatePath (lit "/a%0Ab") ⟨false⟩ = .ok (lit "/a\nb") ∧
      ∃ path, unescape .path (cutByte (trimSpace (lit "/a%0Ab")) 63).1 = .ok path ∧
        lit "/a\nb" = (if (⟨false⟩ : PathNormalizeOptions).collapseSlashes then
          collapseSlashes path else path) ++
          (if (cutByte (trimSpace (lit "/a%0Ab")) 63).2.1 = [] then [] else
            63 :: (cutByte (trimSpace (lit "/a%0Ab")) 63).2.1) :=
  have h : normalizeAndValidatePath (lit "/a%0Ab") ⟨false⟩ = .ok (lit "/a\nb") := by decide
  ⟨h, normalizeAndValidatePath_ok h⟩

/-! ## One canonical string, two requests

`NormalizeAndValidatePath` rejects control characters in the raw path but returns the
percent-decoded `URL.Path`, so `%0A` puts a line break into the canonical string's path
line. The rest of the line layout then shifts against an application id that carries
the matching text.
-/

/-- A request whose raw path `/%0AAPP:%20a` decodes to a path that spans two lines. -/
def injectedPathInput : CanonicalInput :=
  { loginInput with method := lit "GET", path := lit "/\nAPP: a", appID := lit "b" }

/-- A request with the plain path `/` and an application id that spans two lines. -/
def shiftedAppInput : CanonicalInput :=
  { loginInput with method := lit "GET", path := lit "/", appID := lit "a\nAPP: b" }

/-- The canonical string both requests produce. -/
def collidingCanonical : GoString :=
  lit ("GET\n/\nAPP: a\nAPP: b\nAUD: example.com\nTS: 1700000000\n" ++
    "CHALLENGE: 6f9619ff-8b86-4011-b42d-00c04fc964ff\n" ++
    "USER: 0b2c6a1e-3f4d-4a5b-8c7d-9e0f1a2b3c4d\n" ++
    "DEVICE: c56a4180-65aa-42ec-a945-5fd21dec0538\n" ++
    "BODY-SHA256: e3b0c44298fc1c149afbf4c8996fb92427ae41e4649b934ca495991b7852b855")

set_option maxRecDepth 8000 in
/-- Two valid requests with different paths and application ids have the same canonical
string, whatever the case tables. -/
theorem canonicalString_collision (U : CaseMap) :
    ValidInput U injectedPathInput ∧ ValidInput U shiftedAppInput ∧
      canonicalString U injectedPathInput = .ok collidingCanonical ∧
      canonicalString U shiftedAppInput = .ok collidingCanonical ∧
      injectedPathInput.path ≠ shiftedAppInput.path ∧
      injectedPathInput.appID ≠ shiftedAppInput.appID := by
  have hid (x : CanonicalInput) (hx : x.challengeID = loginInput.challengeID ∧
      x.userID = loginInput.userID ∧ x.deviceID = loginInput.deviceID) :
      (∃ s, validateUUIDv4 s = .ok x.challengeID) ∧ (∃ s, validateUUIDv4 s = .ok x.userID) ∧
        ∃ s, validateUUIDv4 s = .ok x.deviceID := by
    obtain ⟨h1, h2, h3⟩ := hx
    exact ⟨⟨x.challengeID, by rw [h1]; decide⟩, ⟨x.userID, by rw [h2]; decide⟩,
      ⟨x.deviceID, by rw [h3]; decide⟩⟩
  obtain ⟨hc, hu, hd⟩ := hid injectedPathInput ⟨rfl, rfl, rfl⟩
  obtain ⟨hc', hu', hd'⟩ := hid shiftedAppInput ⟨rfl, rfl, rfl⟩
  refine ⟨⟨⟨lit "GET", rfl⟩, ⟨lit "/%0AAPP:%20a", ⟨false⟩, by decide⟩, hc, hu, hd, by decide⟩,
    ⟨⟨lit "GET", rfl⟩, ⟨lit "/", ⟨false⟩, by decide⟩, hc', hu', hd', by decide⟩,
    rfl, rfl, by decide, by decide⟩

/-! ## Collapsing runs of slashes

`collapseSlashes` returns a text with no `//` unchanged and otherwise runs a loop that
drops a `/` after a `/`. Both are the run-collapsing function `collapseRuns`; the loop's
invariant pairs the two values its previous byte can take. -/

/-- What `collapseSlashes` is for: every maximal run of `/` becomes one `/`. -/
def collapseRuns : GoString → GoString
  | [] => []
  | c :: s => if c = 47 then 47 :: collapseRuns (s.dropWhile (· == 47)) else c :: collapseRuns s
termination_by s => s.length
decreasing_by
  all_goals simp_wf
  all_goals first | omega | exact Nat.lt_succ_of_le (List.dropWhile_suffix _).length_le

@[simp] theorem collapseRuns_nil : collapseRuns [] = [] := by
  rw [collapseRuns]

theorem collapseRuns_cons_slash (s : GoString) :
    collapseRuns (47 :: s) = 47 :: collapseRuns (s.dropWhile (· == 47)) := by
  rw [collapseRuns, if_pos rfl]

theorem collapseRuns_cons_of_ne {c : UInt8} (hc : c ≠ 47) (s : GoString) :
    collapseRuns (c :: s) = c :: collapseRuns s := by
  rw [collapseRuns, if_neg hc]

/-- The loop with `prev` not `/` is the run-collapsing reading; with `prev = '/'` it first
skips the run it is in. -/
theorem collapseLoop_eq : ∀ s : GoString,
    (∀ prev, prev ≠ 47 → collapseLoop prev s = collapseRuns s) ∧
      collapseLoop 47 s = collapseRuns (s.dropWhile (· == 47))
  | [] => ⟨fun _ _ => collapseRuns_nil.symm, collapseRuns_nil.symm⟩
  | c :: s => by
    obtain ⟨ih1, ih2⟩ := collapseLoop_eq s
    by_cases hc : c = 47
    · subst hc
      refine ⟨fun prev hp => ?_, ?_⟩
      · simp [collapseLoop, hp, ih2, collapseRuns_cons_slash]
      · simp [collapseLoop, ih2]
    · refine ⟨fun prev _ => ?_, ?_⟩
      · simp [collapseLoop, hc, ih1 c hc, collapseRuns_cons_of_ne hc]
      · simp [collapseLoop, hc, ih1 c hc, collapseRuns_cons_of_ne hc]

theorem head?_collapseRuns (s : GoString) : (collapseRuns s).head? = s.head? := by
  rcases s with _ | ⟨c, s⟩
  · simp
  · by_cases hc : c = 47
    · subst hc; simp [collapseRuns_cons_slash]
    · simp [collapseRuns_cons_of_ne hc]

/-- What follows a skipped run does not start with `/`. -/
theorem head?_dropWhile_slash (s : GoString) : (s.dropWhile (· == 47)).head? ≠ some 47 := by
  induction s with
  | nil => simp
  | cons c s ih => by_cases hc : c = 47 <;> simp_all

/-- No run of two `/` is left. -/
theorem not_infix_collapseRuns (s : GoString) : ¬ [47, 47] <:+: collapseRuns s := by
  induction s using collapseRuns.induct with
  | case1 => simp
  | case2 s ih =>
    rw [collapseRuns_cons_slash, List.infix_cons_iff, List.cons_prefix_cons]
    rintro (⟨-, t, ht⟩ | h)
    · exact head?_dropWhile_slash s (by rw [← head?_collapseRuns, ← ht]; rfl)
    · exact ih h
  | case3 c s hc ih =>
    rw [collapseRuns_cons_of_ne hc, List.infix_cons_iff, List.cons_prefix_cons]
    rintro (⟨h, -⟩ | h)
    · exact hc h.symm
    · exact ih h

/-- A string with no `//` is its own collapse. -/
theorem collapseRuns_eq_self {s : GoString} (h : ¬ [47, 47] <:+: s) : collapseRuns s = s := by
  induction s using collapseRuns.induct with
  | case1 => simp
  | case2 s ih =>
    have hd : s.dropWhile (· == 47) = s := by
      cases s with
      | nil => rfl
      | cons a t =>
        have ha : a ≠ 47 := by rintro rfl; exact h (List.prefix_append [47, 47] t).isInfix
        simp [ha]
    rw [hd] at ih
    rw [collapseRuns_cons_slash, hd, ih fun h' => h (h'.trans (List.suffix_cons _ _).isInfix)]
  | case3 c s hc ih =>
    rw [collapseRuns_cons_of_ne hc, ih fun h' => h (h'.trans (List.suffix_cons _ _).isInfix)]

/-- `collapseSlashes` collapses every run of `/` to one: its output holds no `//`, a second
pass changes nothing, and the early return on a text with no `//` is what the loop
returns. -/
theorem collapseSlashes_runs (s : GoString) :
    collapseSlashes s = collapseRuns s ∧ contains (collapseSlashes s) (lit "//") = false ∧
      collapseSlashes (collapseSlashes s) = collapseSlashes s ∧
      (contains s (lit "//") = false → collapseLoop 0 s = s) := by
  have hlit : lit "//" = [47, 47] := rfl
  have hloop : collapseLoop 0 s = collapseRuns s := (collapseLoop_eq s).1 0 (by decide)
  have hnone : ∀ t, contains t (lit "//") = false ↔ ¬ [47, 47] <:+: t := fun t => by
    rw [← Bool.not_eq_true, contains_iff, hlit]
  have heq : collapseSlashes s = collapseRuns s := by
    unfold collapseSlashes
    split_ifs with h
    · rw [collapseRuns_eq_self ((hnone s).mp (by simpa using h))]
    · exact hloop
  have hout : contains (collapseSlashes s) (lit "//") = false := by
    rw [heq, hnone]; exact not_infix_collapseRuns s
  refine ⟨heq, hout, by rw [collapseSlashes, hout]; rfl, fun h => ?_⟩
  rw [hloop, collapseRuns_eq_self ((hnone s).mp h)]

example : collapseSlashes (lit "//a///b/") = lit "/a/b/" := by decide

theorem collapseSlashes_runs_plain :
    contains (lit "/a/b") (lit "//") = false ∧ collapseLoop 0 (lit "/a/b") = lit "/a/b" :=
  ⟨by decide, (collapseSlashes_runs _).2.2.2 (by decide)⟩

/-! ## Host normalization is not idempotent

Stripping a default port from a bracketed IPv6 host returns the bare address, which the
next normalization reads as a host `:` with port `1`.
-/

/-- `[::1]:80` normalizes to `::1`, and `::1` to `[:]:1`, whatever the case tables. -/
theorem normalizeBackendHost_not_idempotent (U : CaseMap) :
    normalizeBackendHost U (lit "[::1]:80") = lit "::1" ∧
      normalizeBackendHost U (normalizeBackendHost U (lit "[::1]:80")) = lit "[:]:1" ∧
      normalizeBackendHost U (normalizeBackendHost U (lit "[::1]:80")) ≠
        normalizeBackendHost U (lit "[::1]:80") := by
  have h1 : normalizeBackendHost U (lit "[::1]:80") = lit "::1" := rfl
  have h2 : normalizeBackendHost U (lit "::1") = lit "[:]:1" := rfl
  rw [h1, h2]
  exact ⟨rfl, rfl, by decide⟩

end QuantumGoUtils.Requests.CanonicalLaws
