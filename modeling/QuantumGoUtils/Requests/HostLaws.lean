import QuantumGoUtils.Go.UrlLaws
import QuantumGoUtils.Requests.Canonical

/-!
# The DNS host and the signed audience

A request is signed for `NormalizeBackendHost(backend)`, and the client dials the host
`HostnameForDNS(backend)` names. The two are written separately. `NormalizeBackendHost`
always hands the text to `url.Parse`, adding `http://` when the text holds no `://`;
`HostnameForDNS` parses it only when it holds `://`, and otherwise cuts it at the first
`/`. They agree, up to ASCII case, on the host texts the two doc comments list
(`DocumentedHost`: an optional scheme, a DNS name or a bracketed IPv6 address, an optional
port, an optional path), and not beyond them: on `u@h` the first reads the userinfo off
and the second keeps it.

On a documented text both come down to `URL.Hostname`: `HostnameForDNS` returns it, and
`NormalizeBackendHost` returns it lower-cased with the port it keeps, which `HostnameForDNS`
reads back. The second stage of `HostnameForDNS` (`net.SplitHostPort`, then the bracket
strip) is unfolded once per host shape, in `hostnameForDNS_name_port`,
`hostnameForDNS_v6_port` and `hostnameForDNS_v6`.

## Main results

* `hostnameForDNS_stage` — `HostnameForDNS` of a text is `HostnameForDNS` of what its first
  stage keeps, when that is printable and holds no `/`.
* `hostnameForDNS_canonicalHostPort` — `HostnameForDNS` reads back the host of a canonical
  `hostname[:port]`, lower-cased.
* `hostnameForDNS_documented`, `normalizeBackendHost_documented` — on a documented host
  text `HostnameForDNS` returns `URL.Hostname`, and `NormalizeBackendHost` the canonical
  `hostname[:port]` of `URL.Hostname` and `URL.Port`.
* `hostnameForDNS_agrees` — on a documented host text the two agree up to ASCII case.
* `hostnameForDNS_userinfo` — `u@h` and `h?x`, on which they disagree.
-/

namespace QuantumGoUtils.Requests.HostLaws

open QuantumGoUtils.Go.Strings QuantumGoUtils.Go.Unicode QuantumGoUtils.Go.Url
open QuantumGoUtils.Requests.Canonical

/-- Equal up to ASCII case and a single trailing dot on one side. -/
def EqUpToCaseDot (a b : GoString) : Prop :=
  lowerAscii a = lowerAscii b ∨ lowerAscii a = lowerAscii b ++ [46] ∨
    lowerAscii b = lowerAscii a ++ [46]

instance (a b : GoString) : Decidable (EqUpToCaseDot a b) :=
  inferInstanceAs (Decidable (_ ∨ _ ∨ _))

/-- A host as the doc comments write one: a DNS name, or an IPv6 address that `url.Parse`
accepts, between brackets. -/
def IsDocHost (host : GoString) : Prop :=
  (host ≠ [] ∧ host.all isDnsByte = true) ∨
    ∃ addr, host = 91 :: addr ++ [93] ∧ addr.all isV6Byte = true ∧ isIPv6Literal addr = true

/-- A host without its brackets: a DNS name, or an IPv6 address with two `:` at least. -/
def IsBareHost (hn : GoString) : Prop :=
  (hn ≠ [] ∧ hn.all isDnsByte = true) ∨ (hn.all isV6Byte = true ∧ 2 ≤ hn.count 58)

/-- The host texts `pre ++ host ++ cp ++ path` that the doc comments of `HostnameForDNS`
and `NormalizeBackendHost` list: `localhost:1042`, `api.example.com`, `[::1]:1042`,
`https://api.example.com:8443`, `http://localhost:1042/quantum-auth/v1/secured`. -/
structure DocumentedHost (pre host cp path : GoString) : Prop where
  /-- No scheme, or a scheme `getScheme` reads and then `://`. -/
  scheme : pre = [] ∨ ∃ sc, pre = sc ++ lit "://" ∧ isSchemeText sc = true
  /-- A DNS name or a bracketed IPv6 address. -/
  docHost : IsDocHost host
  /-- No port, or `:` and decimal digits. -/
  optPort : validOptionalPort cp = true
  /-- No path, or `/` and printable ASCII other than `%`. -/
  plainPath : isPlainPath path = true
  /-- A text with no scheme holds no `://` further on either. -/
  bare : pre = [] → contains (host ++ cp ++ path) (lit "://") = false

/-! ## `HostnameForDNS` -/

theorem contains_sep_of_not_mem {s : GoString} (h : (47 : UInt8) ∉ s) :
    contains s (lit "://") = false := by
  rw [← Bool.not_eq_true, contains_iff]
  exact not_infix_of_mem (by decide) h

/-- `HostnameForDNS` of a text is `HostnameForDNS` of what its first stage keeps — the host
`url.Parse` finds, or the text before the first `/` — when that is printable and holds
no `/`. -/
theorem hostnameForDNS_stage {raw s : GoString} (htrim : trimSpace raw = raw) (hraw : raw ≠ [])
    (hs : ∀ c ∈ s, isVisible c = true ∧ c ≠ 47)
    (hstage : (contains raw (lit "://") = true ∧ ∃ u, urlParse raw = .ok u ∧ u.host = s) ∨
      (contains raw (lit "://") = false ∧ (cutByte raw 47).1 = s)) :
    hostnameForDNS raw = hostnameForDNS s := by
  have h47 : (47 : UInt8) ∉ s := fun h => (hs 47 h).2 rfl
  have hts : trimSpace s = s := trimSpace_of_visible fun c hc => (hs c hc).1
  have hempty : raw.isEmpty = false := by simpa using hraw
  unfold hostnameForDNS
  rcases hstage with ⟨hc, u, hu, rfl⟩ | ⟨hc, rfl⟩
  · simp only [htrim, hempty, hc, hu, hts, contains_sep_of_not_mem h47, cutByte_of_not_mem h47,
      if_true, if_false, Bool.false_eq_true]
    split_ifs <;> rfl
  · simp only [htrim, hempty, hc, hts, contains_sep_of_not_mem h47, cutByte_of_not_mem h47,
      if_true, if_false, Bool.false_eq_true]
    split_ifs <;> rfl

/-- `HostnameForDNS` of a DNS name with an optional `:port` is the name. -/
theorem hostnameForDNS_name_port {name cp : GoString} (hn : name ≠ [] ∧ name.all isDnsByte = true)
    (hcp : validOptionalPort cp = true) : hostnameForDNS (name ++ cp) = name := by
  have hb := mem_name_port hn.2 hcp
  have h47 : (47 : UInt8) ∉ name ++ cp := fun h => ne_of_dns (hb 47 h) (by decide) (by decide) rfl
  have hts : trimSpace (name ++ cp) = name ++ cp :=
    trimSpace_of_visible fun c hc => isVisible_of_dns (hb c hc)
  have hempty : (name ++ cp).isEmpty = false := by simp [hn.1]
  unfold hostnameForDNS
  simp only [hts, hempty, contains_sep_of_not_mem h47, cutByte_of_not_mem h47, if_false,
    Bool.false_eq_true]
  rcases cp with _ | ⟨d, port⟩
  · have hpre := @hasPrefix_name_port name [] hn.2 rfl
    rw [List.append_nil] at hpre ⊢
    rw [netSplitHostPort_of_not_mem (not_mem_name hn.2 (by decide))]
    simp only [hpre, Bool.false_and, if_false, Bool.false_eq_true]
  · simp only [validOptionalPort, Bool.and_eq_true, decide_eq_true_eq] at hcp
    obtain ⟨rfl, hp⟩ := hcp
    rw [netSplitHostPort_name_port hn.2 hp]
    exact trimSpace_of_visible fun c hc => isVisible_of_dns (.inl (List.all_eq_true.mp hn.2 c hc))

theorem hasSuffix_append (x y : GoString) : hasSuffix (x ++ y) y = true := by
  simp [hasSuffix]

/-- `HostnameForDNS` of a bracketed IPv6 address with an optional `:port` is the address. -/
theorem hostnameForDNS_v6_port {addr cp : GoString} (ha : addr.all isV6Byte = true)
    (hcp : validOptionalPort cp = true) : hostnameForDNS (91 :: addr ++ 93 :: cp) = addr := by
  have hb : ∀ c ∈ 91 :: addr ++ 93 :: cp, isHostByte c = true := by
    intro c hc
    simp only [List.cons_append, List.mem_cons, List.mem_append] at hc
    rcases hc with rfl | hc | rfl | hc
    · decide
    · exact isHostByte_of_v6 (List.all_eq_true.mp ha c hc)
    · decide
    · exact isHostByte_of_dns (@mem_name_port [] cp rfl hcp c hc)
  have h47 : (47 : UInt8) ∉ 91 :: addr ++ 93 :: cp := fun h => ne_of_host (hb 47 h) (by decide) rfl
  have hts := trimSpace_of_visible fun c hc => isVisible_of_host (hb c hc)
  have hempty : (91 :: addr ++ 93 :: cp).isEmpty = false := rfl
  unfold hostnameForDNS
  simp only [hts, hempty, contains_sep_of_not_mem h47, cutByte_of_not_mem h47, if_false,
    Bool.false_eq_true]
  rcases cp with _ | ⟨d, port⟩
  · obtain ⟨h1, h2, -⟩ := unbracket addr
    have hs1 : hasSuffix (91 :: (addr ++ [93])) [93] = true := hasSuffix_append (91 :: addr) [93]
    rw [netSplitHostPort_v6 ha]
    simp [h1, h2, hs1, hasSuffix_append, trimPrefix, trimSuffix, show lit "[" = [91] from rfl,
      show lit "]" = [93] from rfl]
  · simp only [validOptionalPort, Bool.and_eq_true, decide_eq_true_eq] at hcp
    obtain ⟨rfl, hp⟩ := hcp
    rw [netSplitHostPort_v6_port ha hp]
    exact trimSpace_of_visible fun c hc =>
      isVisible_of_host (isHostByte_of_v6 (List.all_eq_true.mp ha c hc))

/-- `HostnameForDNS` of an unbracketed IPv6 address is the address: `net.SplitHostPort`
rejects its two `:`. -/
theorem hostnameForDNS_v6 {addr : GoString} (ha : addr.all isV6Byte = true)
    (h2 : 2 ≤ addr.count 58) : hostnameForDNS addr = addr := by
  have hb : ∀ c ∈ addr, isHostByte c = true := fun c hc =>
    isHostByte_of_v6 (List.all_eq_true.mp ha c hc)
  have h47 : (47 : UInt8) ∉ addr := fun h => ne_of_host (hb 47 h) (by decide) rfl
  have hts := trimSpace_of_visible fun c hc => isVisible_of_host (hb c hc)
  have hempty : addr.isEmpty = false := by
    rw [Bool.eq_false_iff, ne_eq, List.isEmpty_iff]; rintro rfl; simp at h2
  have h91 : (91 : UInt8) ∉ addr := not_mem_v6 ha (by decide)
  have hpre : hasPrefix addr (lit "[") = false := by
    rw [← Bool.not_eq_true, hasPrefix_iff]; exact fun h => h91 (h.subset (by decide))
  unfold hostnameForDNS
  simp only [hts, hempty, contains_sep_of_not_mem h47, cutByte_of_not_mem h47, if_false,
    Bool.false_eq_true, netSplitHostPort_two_colons (fun h => h91 (List.mem_of_mem_head? h)) h2,
    hpre, Bool.false_and]

/-! ## `NormalizeBackendHost` -/

/-- The port `NormalizeBackendHost` keeps: none for an empty, `80` or `443` port. -/
def keptPort (port : GoString) : GoString :=
  if port = [] ∨ port = lit "80" ∨ port = lit "443" then [] else 58 :: port

theorem validOptionalPort_keptPort {port : GoString} (hp : port.all isDigit = true) :
    validOptionalPort (keptPort port) = true := by
  unfold keptPort
  split_ifs
  · rfl
  · simp [validOptionalPort, hp]

theorem keptPort_ne_nil {port : GoString} (h : keptPort port ≠ []) : keptPort port = 58 :: port := by
  unfold keptPort at h ⊢
  split_ifs at h ⊢
  · exact absurd rfl h
  · rfl

/-- The tail both branches of `NormalizeBackendHost` share, on a printable host and a
decimal port: the host lower-cased, joined with the port unless that is empty, 80 or 443. -/
theorem canonicalHostPort_eq {U : CaseMap} {host port : GoString}
    (hv : ∀ c ∈ host, isVisible c = true) (hne : host ≠ []) (hp : port.all isDigit = true) :
    canonicalHostPort U host port =
      if keptPort port = [] then lowerAscii host else joinHostPort (lowerAscii host) port := by
  have hlow : toLower U (trimSpace host) = lowerAscii host := by
    rw [trimSpace_of_visible hv, toLower_of_ascii U (List.all_eq_true.mpr fun c hc =>
      decide_eq_true (visible_ascii (hv c hc)).1)]
  have hport : trimSpace port = port := trimSpace_of_visible fun c hc =>
    isVisible_of_dns (.inl (isDnsByte_of_isDigit (List.all_eq_true.mp hp c hc)))
  have hempty : (lowerAscii host).isEmpty = false := by simpa [lowerAscii] using hne
  unfold canonicalHostPort keptPort
  rw [hlow, hport]
  by_cases h : port = [] ∨ port = lit "80" ∨ port = lit "443"
  · rcases h with rfl | rfl | rfl <;> simp [hempty]
  · simp only [not_or] at h
    simp [h, hempty]

/-- On a DNS name: the lower-cased name and the port it keeps. -/
theorem canonicalHostPort_name {U : CaseMap} {name port : GoString}
    (hn : name ≠ [] ∧ name.all isDnsByte = true) (hp : port.all isDigit = true) :
    canonicalHostPort U name port = lowerAscii name ++ keptPort port := by
  have hcolon : (58 : UInt8) ∉ lowerAscii name :=
    not_mem_name (all_isDnsByte_lowerAscii hn.2) (by decide)
  rw [canonicalHostPort_eq (fun c hc => isVisible_of_dns (.inl (List.all_eq_true.mp hn.2 c hc)))
    hn.1 hp]
  split_ifs with hk
  · rw [hk, List.append_nil]
  · rw [keptPort_ne_nil hk]
    simp [joinHostPort, hcolon]

theorem IsBareHost.ne_nil {hn : GoString} (h : IsBareHost hn) : hn ≠ [] := by
  rcases h with h | ⟨-, h2⟩
  · exact h.1
  · rintro rfl; simp at h2

/-- `HostnameForDNS` reads back the host of a canonical `hostname[:port]`, lower-cased. -/
theorem hostnameForDNS_canonicalHostPort (U : CaseMap) {hn port : GoString} (hh : IsBareHost hn)
    (hp : port.all isDigit = true) :
    hostnameForDNS (canonicalHostPort U hn port) = lowerAscii hn := by
  rcases hh with hn' | ⟨ha, h2⟩
  · rw [canonicalHostPort_name hn' hp]
    exact hostnameForDNS_name_port ⟨by simpa [lowerAscii] using hn'.1,
      all_isDnsByte_lowerAscii hn'.2⟩ (validOptionalPort_keptPort hp)
  · have hla := all_isV6Byte_lowerAscii ha
    have h2' : 2 ≤ (lowerAscii hn).count 58 := by rwa [count_colon_lowerAscii]
    have h58 : (58 : UInt8) ∈ lowerAscii hn := List.count_pos_iff.mp (by omega)
    rw [canonicalHostPort_eq (fun c hc => isVisible_of_host (isHostByte_of_v6
      (List.all_eq_true.mp ha c hc))) (IsBareHost.ne_nil (.inr ⟨ha, h2⟩)) hp]
    split_ifs with hk
    · exact hostnameForDNS_v6 hla h2'
    · have e : joinHostPort (lowerAscii hn) port = 91 :: lowerAscii hn ++ 93 :: 58 :: port := by
        simp [joinHostPort, h58, show lit "]:" = [93, 58] from rfl]
      rw [e]
      exact hostnameForDNS_v6_port hla (by simp [validOptionalPort, hp])

/-! ## Documented host texts -/

section Documented

variable {pre host cp path : GoString}

theorem DocumentedHost.hostBytes (hd : DocumentedHost pre host cp path) :
    ∀ c ∈ host ++ cp, isHostByte c = true := by
  intro c hc
  rcases List.mem_append.mp hc with hc | hc
  · rcases hd.docHost with ⟨-, hn⟩ | ⟨addr, rfl, ha, -⟩
    · exact isHostByte_of_dns (.inl (List.all_eq_true.mp hn c hc))
    · simp only [List.cons_append, List.mem_cons, List.mem_append, List.not_mem_nil,
        or_false] at hc
      rcases hc with rfl | hc | rfl
      · decide
      · exact isHostByte_of_v6 (List.all_eq_true.mp ha c hc)
      · decide
  · exact isHostByte_of_dns (@mem_name_port [] cp rfl hd.optPort c hc)

theorem DocumentedHost.parseHost_eq (hd : DocumentedHost pre host cp path) :
    parseHost (host ++ cp) = .ok (host ++ cp) := by
  rcases hd.docHost with ⟨-, hn⟩ | ⟨addr, rfl, ha, hv⟩
  · exact parseHost_name_port hn hd.optPort
  · simpa using parseHost_v6_port ha hv hd.optPort

/-- `URL.Hostname` of a documented host, which `HostnameForDNS` returns too, and
`URL.Port`. -/
theorem DocumentedHost.hostname (hd : DocumentedHost pre host cp path) :
    ∃ hn, splitHostPort (host ++ cp) = (hn, cp.drop 1) ∧ hostnameForDNS (host ++ cp) = hn ∧
      IsBareHost hn := by
  rcases hd.docHost with hn | ⟨addr, rfl, ha, hv⟩
  · exact ⟨host, splitHostPort_name_port hn.2 hd.optPort, hostnameForDNS_name_port hn hd.optPort,
      .inl hn⟩
  · have h2 := two_le_count_of_isIPv6Literal hv
    rw [show 91 :: addr ++ [93] ++ cp = 91 :: addr ++ 93 :: cp by simp]
    exact ⟨addr, splitHostPort_v6_port (List.count_pos_iff.mp (by omega)) hd.optPort,
      hostnameForDNS_v6_port ha hd.optPort, .inr ⟨ha, h2⟩⟩

theorem DocumentedHost.visible (hd : DocumentedHost pre host cp path) :
    ∀ c ∈ pre ++ host ++ cp ++ path, isVisible c = true := by
  have hP : ∀ c ∈ path, isPathByte c = true := by
    have := hd.plainPath
    simp only [isPlainPath, Bool.and_eq_true, List.all_eq_true] at this
    exact this.2
  intro c hc
  simp only [List.mem_append] at hc
  rcases hc with ((hc | hc) | hc) | hc
  · rcases hd.scheme with rfl | ⟨sc, rfl, hsc⟩
    · cases hc
    · rcases List.mem_append.mp hc with hc | hc
      · exact isVisible_of_scheme (List.all_eq_true.mp (isSchemeText_all hsc).1 c hc)
      · exact (by decide : ∀ c ∈ lit "://", isVisible c = true) c hc
  · exact isVisible_of_host (hd.hostBytes c (List.mem_append_left _ hc))
  · exact isVisible_of_host (hd.hostBytes c (List.mem_append_right _ hc))
  · exact (isPathByte_iff.mp (hP c hc)).1

theorem DocumentedHost.trimSpace_eq (hd : DocumentedHost pre host cp path) :
    trimSpace (pre ++ host ++ cp ++ path) = pre ++ host ++ cp ++ path :=
  trimSpace_of_visible hd.visible

theorem DocumentedHost.host_ne_nil (hd : DocumentedHost pre host cp path) : host ≠ [] := by
  rcases hd.docHost with hn | ⟨addr, rfl, -⟩
  · exact hn.1
  · simp

theorem contains_scheme_sep (sc H P : GoString) :
    contains (sc ++ lit "://" ++ H ++ P) (lit "://") = true :=
  (contains_iff _ _).mpr ⟨sc, H ++ P, by simp⟩

/-- The text `NormalizeBackendHost` hands to `url.Parse`: a documented host text, with
`http://` in front when it has no scheme. -/
theorem DocumentedHost.toParse (hd : DocumentedHost pre host cp path) :
    ∃ sc, isSchemeText sc = true ∧
      (if contains (pre ++ host ++ cp ++ path) (lit "://") then pre ++ host ++ cp ++ path
        else lit "http://" ++ (pre ++ host ++ cp ++ path)) = sc ++ lit "://" ++ (host ++ cp) ++ path := by
  rcases hd.scheme with rfl | ⟨sc, rfl, hsc⟩
  · refine ⟨lit "http", by decide, ?_⟩
    rw [List.nil_append, if_neg (by simpa using hd.bare rfl)]
    simp [show lit "http://" = lit "http" ++ lit "://" from rfl]
  · refine ⟨sc, hsc, ?_⟩
    rw [show sc ++ lit "://" ++ host ++ cp ++ path = sc ++ lit "://" ++ (host ++ cp) ++ path by
      simp, if_pos (contains_scheme_sep _ _ _)]

/-- `url.Parse` of that text: its host is the documented host and the port. -/
theorem DocumentedHost.urlParse (hd : DocumentedHost pre host cp path) {sc : GoString}
    (hsc : isSchemeText sc = true) :
    ∃ u, urlParse (sc ++ lit "://" ++ (host ++ cp) ++ path) = .ok u ∧ u.host = host ++ cp :=
  ⟨_, urlParse_authority hsc hd.hostBytes hd.parseHost_eq hd.plainPath, rfl⟩

theorem all_isDigit_drop_one {cp : GoString} (h : validOptionalPort cp = true) :
    (cp.drop 1).all isDigit = true := by
  rcases cp with _ | ⟨d, port⟩
  · rfl
  · simp only [validOptionalPort, Bool.and_eq_true] at h
    exact h.2

/-- On a documented host text `NormalizeBackendHost` parses `scheme://host:port/path`
(with `http` for a text with no scheme) and returns the canonical `hostname[:port]` of
`URL.Hostname` and `URL.Port`. -/
theorem normalizeBackendHost_documented (U : CaseMap) (hd : DocumentedHost pre host cp path) :
    normalizeBackendHost U (pre ++ host ++ cp ++ path) =
      canonicalHostPort U (splitHostPort (host ++ cp)).1 (cp.drop 1) := by
  obtain ⟨sc, hsc, hparse⟩ := hd.toParse
  obtain ⟨u, hu, hhost⟩ := hd.urlParse hsc
  obtain ⟨hn, hsplit, -⟩ := hd.hostname
  have hempty : (pre ++ host ++ cp ++ path).isEmpty = false := by simp [hd.host_ne_nil]
  unfold normalizeBackendHost
  rw [hd.trimSpace_eq]
  dsimp only
  rw [hempty, if_neg Bool.false_ne_true, hparse, hu]
  dsimp only
  rw [if_pos (by simp [hhost, hd.host_ne_nil]), URL.hostname, URL.port, hhost, hsplit]

theorem cutByte_slash_plainPath {P : GoString} (hP : isPlainPath P = true) :
    (cutByte P 47).1 = [] := by
  rcases P with _ | ⟨d, t⟩
  · rfl
  · simp only [isPlainPath, Bool.and_eq_true, Bool.or_eq_true, beq_iff_eq] at hP
    simp_all [cutByte]

/-- On a documented host text `HostnameForDNS` returns `URL.Hostname`. -/
theorem hostnameForDNS_documented (hd : DocumentedHost pre host cp path) :
    hostnameForDNS (pre ++ host ++ cp ++ path) = (splitHostPort (host ++ cp)).1 := by
  obtain ⟨hn, hsplit, hdns, -⟩ := hd.hostname
  have h47 : (47 : UInt8) ∉ host ++ cp := fun h => ne_of_host (hd.hostBytes 47 h) (by decide) rfl
  rw [hsplit, ← hdns]
  refine hostnameForDNS_stage hd.trimSpace_eq (by simp [hd.host_ne_nil])
    (fun c hc => ⟨isVisible_of_host (hd.hostBytes c hc), fun h => h47 (h ▸ hc)⟩) ?_
  rcases hd.scheme with rfl | ⟨sc, rfl, hsc⟩
  · refine .inr ⟨by simpa using hd.bare rfl, ?_⟩
    rw [List.nil_append, cutByte_append _ h47, cutByte_slash_plainPath hd.plainPath,
      List.append_nil]
  · have e : sc ++ lit "://" ++ host ++ cp ++ path = sc ++ lit "://" ++ (host ++ cp) ++ path := by
      simp
    rw [e]
    exact .inl ⟨contains_scheme_sep _ _ _, hd.urlParse hsc⟩

example : hostnameForDNS (lit "[::1]:1042") = lit "::1" := by decide

end Documented

/-! ## The two host parsers -/

/-- On a documented host text the audience is not empty, and `HostnameForDNS` of the
audience is `HostnameForDNS` of the text lower-cased: the two agree up to ASCII case. -/
theorem hostnameForDNS_agrees (U : CaseMap) {pre host cp path : GoString}
    (hd : DocumentedHost pre host cp path) :
    normalizeBackendHost U (pre ++ host ++ cp ++ path) ≠ [] ∧
      hostnameForDNS (normalizeBackendHost U (pre ++ host ++ cp ++ path)) =
        lowerAscii (hostnameForDNS (pre ++ host ++ cp ++ path)) ∧
      EqUpToCaseDot (hostnameForDNS (pre ++ host ++ cp ++ path))
        (hostnameForDNS (normalizeBackendHost U (pre ++ host ++ cp ++ path))) := by
  obtain ⟨hn, hsplit, -, hbare⟩ := hd.hostname
  have hcanon := hostnameForDNS_canonicalHostPort U hbare (all_isDigit_drop_one hd.optPort)
  rw [normalizeBackendHost_documented U hd, hostnameForDNS_documented hd, hsplit]
  refine ⟨fun h => hbare.ne_nil ?_, hcanon, .inl (by rw [hcanon, lowerAscii_lowerAscii])⟩
  have h0 : hostnameForDNS [] = [] := rfl
  rw [h, h0] at hcanon
  simpa [lowerAscii] using hcanon.symm

/-- The documented `https://API.example.com:8443/v1` and `[::1]:1042`: both host parsers
read the same host from each, up to case. -/
theorem hostnameForDNS_agrees_documented :
    DocumentedHost (lit "https://") (lit "API.example.com") (lit ":8443") (lit "/v1") ∧
      DocumentedHost [] (lit "[::1]") (lit ":1042") [] ∧
      hostnameForDNS (normalizeBackendHost ⟨id, id⟩ (lit "https://API.example.com:8443/v1")) =
        lowerAscii (hostnameForDNS (lit "https://API.example.com:8443/v1")) ∧
      hostnameForDNS (normalizeBackendHost ⟨id, id⟩ (lit "[::1]:1042")) =
        lowerAscii (hostnameForDNS (lit "[::1]:1042")) := by
  have h1 : DocumentedHost (lit "https://") (lit "API.example.com") (lit ":8443") (lit "/v1") :=
    ⟨.inr ⟨lit "https", rfl, by decide⟩, .inl ⟨by decide, by decide⟩, by decide, by decide,
      fun h => by cases h⟩
  have h2 : DocumentedHost [] (lit "[::1]") (lit ":1042") [] :=
    ⟨.inl rfl, .inr ⟨lit "::1", rfl, by decide, by decide⟩, by decide, by decide,
      fun _ => by decide⟩
  exact ⟨h1, h2, (hostnameForDNS_agrees ⟨id, id⟩ h1).2.1, (hostnameForDNS_agrees ⟨id, id⟩ h2).2.1⟩

/-- `u@h` and `h?x` normalize to the audience `h`, whose DNS host is `h`, while
`HostnameForDNS` keeps the userinfo and the query: `url.Parse` reads them off, the cut at
the first `/` does not. -/
theorem hostnameForDNS_userinfo :
    hostnameForDNS (lit "u@h") = lit "u@h" ∧ hostnameForDNS (lit "h?x") = lit "h?x" ∧
      ∀ U : CaseMap, normalizeBackendHost U (lit "u@h") = lit "h" ∧
        normalizeBackendHost U (lit "h?x") = lit "h" ∧
        ¬ EqUpToCaseDot (hostnameForDNS (lit "u@h"))
          (hostnameForDNS (normalizeBackendHost U (lit "u@h"))) ∧
        ¬ EqUpToCaseDot (hostnameForDNS (lit "h?x"))
          (hostnameForDNS (normalizeBackendHost U (lit "h?x"))) := by
  refine ⟨by decide, by decide, fun U => ?_⟩
  have h1 : normalizeBackendHost U (lit "u@h") = lit "h" := rfl
  have h2 : normalizeBackendHost U (lit "h?x") = lit "h" := rfl
  rw [h1, h2]
  exact ⟨rfl, rfl, by decide, by decide⟩

end QuantumGoUtils.Requests.HostLaws
