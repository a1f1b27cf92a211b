import QuantumGoUtils.Requests.Canonical

/-!
# The first canonical format (`qa/requests/canonical.go`, `qa/crypto/utils.go`)

The repository keeps an earlier canonical string beside the current one, once in
`qa/requests/canonical.go` and again in `qa/crypto/utils.go`: eight `\n`-joined lines, the
method, the path and the host first, then labelled lines for the timestamp, the three
identifiers and the SHA-256 of the body, which this `CanonicalString` computes itself.
Nothing is validated. `ParseCanonicalString` reads the eight lines back with the line
reads of the current parser (`lineAt`, `labelledField`); unlike the current one, it reads
exactly the lines it counts.

`sha256.Sum256` is not part of the repository: it is a parameter, a function to 32 bytes.

## Main results

* `parseCanonicalString_canonicalString` — for every input whose upper-cased method starts
  with an ASCII byte that is not white space, the parser reads back the input, each text
  field trimmed and the body as the hex of its digest, when no text field holds a line
  feed; otherwise it fails on the line count, one more than the line feeds.
-/

namespace QuantumGoUtils.Requests.CanonicalV1

open QuantumGoUtils.Go.Strings QuantumGoUtils.Go.Unicode QuantumGoUtils.Go.Strconv
open QuantumGoUtils.Requests.Canonical (ParseError lineAt labelledField labelled)

/-- `CanonicalInput` of the first format. `TS` is an `int64`. -/
structure CanonicalInput where
  method : GoString
  path : GoString
  host : GoString
  ts : BitVec 64
  challengeID : GoString
  userID : GoString
  deviceID : GoString
  body : GoString
  deriving DecidableEq, Repr

/-- `ParsedCanonical` of the first format. -/
structure ParsedCanonical where
  method : GoString
  path : GoString
  host : GoString
  ts : BitVec 64
  challengeID : GoString
  userID : GoString
  deviceID : GoString
  bodySHA256 : GoString
  deriving DecidableEq, Repr

/-- The eight lines `CanonicalString` joins, `sha256` being `sha256.Sum256`. -/
def canonicalLines (U : CaseMap) (sha256 : GoString → { d : GoString // d.length = 32 })
    (ci : CanonicalInput) : List GoString :=
  [toUpper U ci.method, ci.path, ci.host, labelled "TS: " (formatInt ci.ts.toInt),
    labelled "CHALLENGE: " ci.challengeID, labelled "USER: " ci.userID,
    labelled "DEVICE: " ci.deviceID, labelled "BODY-SHA256: " (hexEncode (sha256 ci.body).1)]

/-- `CanonicalString`. -/
def canonicalString (U : CaseMap) (sha256 : GoString → { d : GoString // d.length = 32 })
    (ci : CanonicalInput) : GoString :=
  join (canonicalLines U sha256 ci) (lit "\n")

/-- `ParseCanonicalString`. -/
def parseCanonicalString (s : GoString) : Except ParseError ParsedCanonical := do
  let lines := split (trimSpace s) 10
  if lines.length ≠ 8 then .error (.lineCount lines.length)
  else
    let method := trimSpace (← lineAt lines 0)
    let path := trimSpace (← lineAt lines 1)
    let host := trimSpace (← lineAt lines 2)
    let tsLine ← lineAt lines 3
    if !hasPrefix tsLine (lit "TS: ") then .error (.invalidLine "TS" tsLine)
    else
      let ts ← (parseInt (trimSpace (trimPrefix tsLine (lit "TS: ")))).mapError .parseTS
      let challengeID ← labelledField "CHALLENGE" (← lineAt lines 4)
      let userID ← labelledField "USER" (← lineAt lines 5)
      let deviceID ← labelledField "DEVICE" (← lineAt lines 6)
      let bodySHA256 ← labelledField "BODY-SHA256" (← lineAt lines 7)
      pure { method, path, host, ts, challengeID, userID, deviceID, bodySHA256 }

/-! ## The lines read back -/

/-- The text fields a line feed can hide in: all but the timestamp and the digest. -/
def textFields (U : CaseMap) (ci : CanonicalInput) : List GoString :=
  [toUpper U ci.method, ci.path, ci.host, ci.challengeID, ci.userID, ci.deviceID]

/-- A decimal digit is an ASCII byte and not white space. -/
theorem isDigit_ascii {c : UInt8} (h : isDigit c = true) :
    c.toNat < 0x80 ∧ isSpaceRune c.toNat = false :=
  isHexDigit_ascii (by simp [isHexDigit, h])

/-- `%d` starts with `-` or a digit and ends with a digit, so it is its own
`strings.TrimSpace`. -/
theorem trimSpace_formatInt (i : Int) : trimSpace (formatInt i) = formatInt i := by
  obtain ⟨c, rest, hcr⟩ := List.exists_cons_of_ne_nil (decimal_ne_nil i.natAbs)
  obtain ⟨d, hd⟩ := List.getLast?_isSome.2 (decimal_ne_nil i.natAbs) |> Option.isSome_iff_exists.1
  have hdd := isDigit_ascii (mem_decimal (List.mem_of_getLast?_eq_some hd))
  unfold formatInt
  split_ifs with hneg
  · refine trimSpace_eq_self rfl (by rw [List.getLast?_cons, hd]; rfl) (by decide) (by decide)
      hdd.1 hdd.2
  · rw [show i.toNat = i.natAbs by omega]
    have hcc := isDigit_ascii (mem_decimal (hcr ▸ List.mem_cons_self c rest))
    exact trimSpace_eq_self (by rw [hcr]; rfl) hd hcc.1 hcc.2 hdd.1 hdd.2

/-- `hex.EncodeToString` writes hexadecimal digits only. -/
theorem isHexDigit_of_mem_hexEncode {bs : GoString} {c : UInt8} (h : c ∈ hexEncode bs) :
    isHexDigit c = true := by
  simp only [hexEncode, List.mem_flatMap, List.mem_cons, List.mem_singleton,
    List.not_mem_nil, or_false] at h
  obtain ⟨b, -, rfl | rfl⟩ := h
  · exact (hexDigit_spec _ (by have := b.toNat_lt_size; unfold UInt8.size at this; omega)).1
  · exact (hexDigit_spec _ (Nat.mod_lt _ (by norm_num))).1

/-- `%d` writes no line feed. -/
theorem lineFeed_not_mem_formatInt (i : Int) : 10 ∉ formatInt i := fun h => by
  unfold formatInt at h
  split_ifs at h
  · rcases List.mem_cons.1 h with h | h
    · cases h
    · exact absurd (mem_decimal h) (by decide)
  · exact absurd (mem_decimal h) (by decide)

/-- `hex.EncodeToString` writes no line feed. -/
theorem lineFeed_not_mem_hexEncode (bs : GoString) : 10 ∉ hexEncode bs :=
  fun h => absurd (isHexDigit_of_mem_hexEncode h) (by decide)

/-- `hex.EncodeToString` of a non-empty string is not empty. -/
theorem hexEncode_ne_nil {bs : GoString} (h : bs ≠ []) : hexEncode bs ≠ [] := by
  obtain ⟨b, bs, rfl⟩ := List.exists_cons_of_ne_nil h
  simp [hexEncode]

/-- `hex.EncodeToString` of a non-empty string is its own `strings.TrimSpace`. -/
theorem trimSpace_hexEncode {bs : GoString} (h : bs ≠ []) : trimSpace (hexEncode bs) = hexEncode bs := by
  obtain ⟨d, hd⟩ := Option.isSome_iff_exists.1 (List.getLast?_isSome.2 (hexEncode_ne_nil h))
  obtain ⟨b, bs, rfl⟩ := List.exists_cons_of_ne_nil h
  have hb := isHexDigit_ascii (isHexDigit_of_mem_hexEncode (by simp [hexEncode] :
    hexDigit (b.toNat / 16) ∈ hexEncode (b :: bs)))
  have hdd := isHexDigit_ascii (isHexDigit_of_mem_hexEncode (List.mem_of_getLast?_eq_some hd))
  exact trimSpace_eq_self (by simp [hexEncode]) hd hb.1 hb.2 hdd.1 hdd.2

/-- No line of the string holds a line feed but the text fields'. -/
theorem count_canonicalLines (U : CaseMap) (sha256 : GoString → { d : GoString // d.length = 32 })
    (ci : CanonicalInput) :
    ((canonicalLines U sha256 ci).map (·.count 10)).foldr (· + ·) 0 =
      ((textFields U ci).map (·.count 10)).foldr (· + ·) 0 := by
  have hl : (lit "TS: ").count 10 = 0 ∧ (lit "CHALLENGE: ").count 10 = 0 ∧
      (lit "USER: ").count 10 = 0 ∧ (lit "DEVICE: ").count 10 = 0 ∧
      (lit "BODY-SHA256: ").count 10 = 0 := by decide
  simp [canonicalLines, textFields, labelled, List.count_append, hl,
    List.count_eq_zero.2 (lineFeed_not_mem_formatInt _), List.count_eq_zero.2 (lineFeed_not_mem_hexEncode _)]

/-- What the parser returns on eight lines whose last five carry their labels. -/
theorem parseCanonicalString_of_lines {s l0 l1 l2 t c u d b : GoString}
    (h : split (trimSpace s) 10 = [l0, l1, l2, lit "TS: " ++ t, lit "CHALLENGE: " ++ c,
      lit "USER: " ++ u, lit "DEVICE: " ++ d, lit "BODY-SHA256: " ++ b]) :
    parseCanonicalString s = (parseInt (trimSpace t)).mapError .parseTS >>= fun ts =>
      .ok ⟨trimSpace l0, trimSpace l1, trimSpace l2, ts, trimSpace c, trimSpace u, trimSpace d,
        trimSpace b⟩ := by
  simp only [parseCanonicalString, h, lineAt, List.get?, List.length, Nat.reduceAdd, ne_eq,
    not_true_eq_false, if_false, bind, Except.bind, hasPrefix_append, Bool.not_true,
    Bool.false_eq_true, trimPrefix_append, labelledField, String.reduceAppend, pure, Except.pure]

/-- **The first format reads back.** For every input whose upper-cased method starts with
an ASCII byte that is not white space, `ParseCanonicalString` of `CanonicalString` returns
the input, each text field trimmed, the timestamp exact and the body as the hex of its
digest, when no text field holds a line feed; otherwise it fails on the line count, one
more than the line feeds of the string. -/
theorem parseCanonicalString_canonicalString (U : CaseMap)
    (sha256 : GoString → { d : GoString // d.length = 32 }) (ci : CanonicalInput)
    {c : UInt8} {rest : GoString} (hm : toUpper U ci.method = c :: rest) (hc : c.toNat < 0x80)
    (hcs : isSpaceRune c.toNat = false) :
    parseCanonicalString (canonicalString U sha256 ci) =
      if ∀ f ∈ textFields U ci, 10 ∉ f then
        .ok ⟨trimSpace (toUpper U ci.method), trimSpace ci.path, trimSpace ci.host, ci.ts,
          trimSpace ci.challengeID, trimSpace ci.userID, trimSpace ci.deviceID,
          hexEncode (sha256 ci.body).1⟩
      else .error (.lineCount ((canonicalString U sha256 ci).count 10 + 1)) := by
  have hbody : (sha256 ci.body).1 ≠ [] := fun h => by simpa [h] using (sha256 ci.body).2
  obtain ⟨d, hd⟩ := Option.isSome_iff_exists.1 (List.getLast?_isSome.2 (hexEncode_ne_nil hbody))
  have hdd := isHexDigit_ascii (isHexDigit_of_mem_hexEncode (List.mem_of_getLast?_eq_some hd))
  have htrim : trimSpace (canonicalString U sha256 ci) = canonicalString U sha256 ci :=
    trimSpace_eq_self (by simp [canonicalString, join, canonicalLines, hm])
      (by simp [canonicalString, join, canonicalLines, labelled, List.getLast?_append, hd])
      hc hcs hdd.1 hdd.2
  split_ifs with hnl
  · have hsplit : split (canonicalString U sha256 ci) 10 = canonicalLines U sha256 ci := by
      refine split_join (fun l hl => ?_) (List.cons_ne_nil _ _)
      simp only [textFields, List.mem_cons, List.not_mem_nil, or_false, forall_eq_or_imp,
        forall_eq] at hnl
      simp only [canonicalLines, labelled, List.mem_cons, List.not_mem_nil, or_false] at hl
      show 10 ∉ l
      rcases hl with rfl | rfl | rfl | rfl | rfl | rfl | rfl | rfl
      · exact hnl.1
      · exact hnl.2.1
      · exact hnl.2.2.1
      · exact List.not_mem_append (by decide) (lineFeed_not_mem_formatInt _)
      · exact List.not_mem_append (by decide) hnl.2.2.2.1
      · exact List.not_mem_append (by decide) hnl.2.2.2.2.1
      · exact List.not_mem_append (by decide) hnl.2.2.2.2.2
      · exact List.not_mem_append (by decide) (lineFeed_not_mem_hexEncode _)
    rw [parseCanonicalString_of_lines (by rw [htrim, hsplit]; rfl), trimSpace_formatInt,
      parseInt_formatInt, trimSpace_hexEncode hbody]
    rfl
  · have hsum : ((textFields U ci).map (·.count 10)).foldr (· + ·) 0 ≠ 0 := by
      obtain ⟨f, hf, h10⟩ := not_forall₂.1 hnl
      have : 0 < f.count 10 := List.count_pos_iff.2 (not_not.1 h10)
      simp only [textFields, List.mem_cons, List.not_mem_nil, or_false] at hf
      simp only [textFields, List.map_cons, List.map_nil, List.foldr_cons, List.foldr_nil]
      rcases hf with rfl | rfl | rfl | rfl | rfl | rfl <;> omega
    have hcount := count_join 10 (canonicalLines U sha256 ci)
    rw [count_canonicalLines] at hcount
    have h8 : (canonicalString U sha256 ci).count 10 + 1 ≠ 8 := by
      rw [canonicalString, show lit "\n" = [10] from rfl, hcount]
      simp only [canonicalLines, List.length]
      omega
    simp [parseCanonicalString, htrim, split, length_splitOn, h8]

/-- A digest function that maps every body to 32 zero bytes. -/
def zeroSum256 (_ : GoString) : { d : GoString // d.length = 32 } := ⟨List.replicate 32 0, rfl⟩

/-- A lower-case `get` with a padded path reads back upper-cased and trimmed. -/
theorem parseCanonicalString_canonicalString_get :
    toUpper ⟨id, id⟩ (lit "get") = 71 :: lit "ET" ∧ (71 : UInt8).toNat < 0x80 ∧
      isSpaceRune (71 : UInt8).toNat = false ∧
      parseCanonicalString (canonicalString ⟨id, id⟩ zeroSum256
          ⟨lit "get", lit " /a ", lit "h", 5, lit "c", lit "u", lit "d", []⟩) =
        .ok ⟨lit "GET", lit "/a", lit "h", 5, lit "c", lit "u", lit "d", List.replicate 64 48⟩ := by
  refine ⟨by decide, by decide, by decide, ?_⟩
  rw [@parseCanonicalString_canonicalString ⟨id, id⟩ zeroSum256 _ 71 (lit "ET") (by decide)
    (by decide) (by decide)]
  decide

end QuantumGoUtils.Requests.CanonicalV1
