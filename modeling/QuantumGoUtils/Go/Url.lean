import QuantumGoUtils.Go.Strings

/-!
# `net/url` and `net` host parsing

The parts of Go's `net/url` that the canonicalizer reaches: `url.Parse` and
`url.ParseRequestURI` (the shared `parse` with its scheme, query, authority, host and
path steps, and `unescape` with its per-component rules), `URL.Hostname` and `URL.Port`,
and `net.SplitHostPort` and `net.JoinHostPort`. The model follows Go 1.25, the version the
repository's `go.mod` names: text between brackets in a host must be an IPv6 address as
`netip.ParseAddr` reads one (`isIPv6Literal`).

The `URL` record keeps the fields the repository reads (`Host`, `Path`, `RawQuery`) and
the ones `parse` sets on the way; `Opaque`, `RawPath`, `ForceQuery`, `OmitHost` and
`RawFragment` are not read by any modelled function and are left out.

## Main results

* `parseRequestURI_of_origin` — on an origin-form target (leading `/`, no control byte),
  `url.ParseRequestURI` splits at the first `?`, percent-decodes the part before it into
  `Path` and keeps the part after it, undecoded, as `RawQuery`.
-/

namespace QuantumGoUtils.Go.Url

open QuantumGoUtils.Go.Strings

/-! ## Escaping -/

/-- The `encoding` modes of `net/url` that parsing uses. -/
inductive Encoding where
  | path | host | zone | userPassword | fragment
  deriving DecidableEq, Repr

/-- `shouldEscape`: whether byte `c` must be percent-encoded in a component. -/
def shouldEscape (c : UInt8) (mode : Encoding) : Bool :=
  if isDigit c || isUpperAscii c || isLowerAscii c then false
  -- hosts also allow the sub-delimiters, `:` for the port, brackets, `<`, `>` and `"`
  else if (mode == .host || mode == .zone) && (c ∈ lit "!$&()*+,;=:[]<>" || c = 39 || c = 34)
    then false
  else if c ∈ lit "-_.~" then false
  else if c ∈ lit "$&+,/:;=?@" then
    match mode with
    | .path => c = 63
    | .userPassword => c = 64 || c = 47 || c = 63 || c = 58
    | .fragment => false
    | _ => true
  else if mode == .fragment && c ∈ lit "!()*" then false
  else true

/-- Why `net/url` rejects a URL. -/
inductive UrlError where
  /-- "net/url: invalid control character in URL" -/
  | controlChar
  /-- "empty url" -/
  | emptyUrl
  /-- "missing protocol scheme" -/
  | missingScheme
  /-- "invalid URI for request" -/
  | invalidForRequest
  /-- "first path segment in URL cannot contain colon" -/
  | colonInFirstSegment
  /-- "net/url: invalid userinfo" -/
  | invalidUserinfo
  /-- "missing ']' in host" -/
  | missingBracket
  /-- "invalid port %q after host" -/
  | invalidPort (colonPort : GoString)
  /-- "invalid host" / "invalid IP-literal": bracketed text that is not an IPv6 address. -/
  | invalidIPLiteral (host : GoString)
  /-- `url.EscapeError`: "invalid URL escape %q". -/
  | escape (s : GoString)
  /-- `url.InvalidHostError`: "invalid character %q in host name". -/
  | invalidHostChar (s : GoString)
  deriving DecidableEq, Repr

/-- `unescape`: decode `%XX` escapes, checking them as the component requires. In a host
an escape may only encode a non-ASCII byte (or be `%25`), and a host byte below `0x80`
must be one `shouldEscape` allows. Errors are reported at the first offending byte, as
Go's checking pass does. -/
def unescape (mode : Encoding) : GoString → Except UrlError GoString
  | [] => .ok []
  | c :: rest =>
    if c = 37 then
      match rest with
      | h1 :: h2 :: rest' =>
        if isHexDigit h1 && isHexDigit h2 then
          let v : UInt8 := (hexVal h1 * 16 + hexVal h2).toUInt8
          if mode == .host && hexVal h1 < 8 && [h1, h2] != lit "25" then
            .error (.escape [c, h1, h2])
          else if mode == .zone && [h1, h2] != lit "25" && v != 32 && shouldEscape v .host then
            .error (.escape [c, h1, h2])
          else (v :: ·) <$> unescape mode rest'
        else .error (.escape ((c :: rest).take 3))
      | _ => .error (.escape ((c :: rest).take 3))
    else if (mode == .host || mode == .zone) && c.toNat < 0x80 && shouldEscape c mode then
      .error (.invalidHostChar [c])
    else (c :: ·) <$> unescape mode rest

/-! ## Hosts and ports -/

/-- `validOptionalPort`: empty, or `:` followed by decimal digits. -/
def validOptionalPort : GoString → Bool
  | [] => true
  | c :: rest => c = 58 && rest.all isDigit

/-- A dotted-quad IPv4 address as `netip.parseIPv4Fields` accepts it: four non-empty
decimal fields, none above 255 and none with a leading zero. -/
def isIPv4Fields (s : GoString) : Bool :=
  let fields := s.splitOn 46
  fields.length = 4 && fields.all fun f =>
    f != [] && f.all isDigit && (f.length = 1 || f.head? != some 48) &&
      f.foldl (fun n d => n * 10 + (d.toNat - 48)) 0 ≤ 255

/-- Whether `s` is empty once the address is read, and the groups fill the address: fewer
than eight 16-bit groups need a `::`, eight forbid one. -/
def ipv6Done (s : GoString) (i : Nat) (ellipsis : Bool) : Bool :=
  s.isEmpty && (if i < 16 then ellipsis else !ellipsis)

/-- The group loop of `netip.parseIPv6`: `i` counts the address bytes read so far and
`ellipsis` records a `::`. Each round reads one to four hex digits, then either an
embedded IPv4 address, the end, or a `:` (a second `:` being the ellipsis). Eight rounds
fill the sixteen bytes. -/
def ipv6Groups : Nat → GoString → Nat → Bool → Bool
  | 0, s, i, ell => ipv6Done s i ell
  | fuel + 1, s, i, ell =>
    if 16 ≤ i then ipv6Done s i ell
    else
      let digits := s.takeWhile isHexDigit
      let rest := s.drop digits.length
      if 4 < digits.length || digits.isEmpty then false
      else if rest.head? = some 46 then
        (ell || i = 12) && i + 4 ≤ 16 && isIPv4Fields s && ipv6Done [] (i + 4) ell
      else
        match rest with
        | [] => ipv6Done [] (i + 2) ell
        | c :: rest' =>
          if c != 58 || rest'.isEmpty then false
          else if rest'.head? = some 58 then
            if ell then false
            else if rest'.drop 1 = [] then ipv6Done [] (i + 2) true
            else ipv6Groups fuel (rest'.drop 1) (i + 2) true
          else ipv6Groups fuel rest' (i + 2) ell

/-- `netip.parseIPv6` succeeds: an optional non-empty zone after `%`, a leading `::` or
not, then the groups. -/
def parseIPv6Ok (input : GoString) : Bool :=
  let (s, zone, hasZone) := cutByte input 37
  if hasZone && zone.isEmpty then false
  else if hasPrefix s (lit "::") then
    s.drop 2 = [] || ipv6Groups 8 (s.drop 2) 0 true
  else ipv6Groups 8 s 0 false

/-- The text between brackets is accepted in Go 1.25: `netip.ParseAddr` reads it as an
IPv6 address (the first of `.`, `:`, `%` it meets is `:`), and not as an IPv4 one. -/
def isIPv6Literal (s : GoString) : Bool :=
  match s.find? fun c => c = 46 || c = 58 || c = 37 with
  | some 58 => parseIPv6Ok s
  | _ => false

/-- `parseHost`: a bracketed IP literal with an optional zone and port, or a name with an
optional port; escapes are decoded with the host rules. -/
def parseHost (host : GoString) : Except UrlError GoString :=
  if hasPrefix host (lit "[") then
    match lastIndexByte host 93 with
    | none => .error .missingBracket
    | some i =>
      let colonPort := host.drop (i + 1)
      if !validOptionalPort colonPort then .error (.invalidPort colonPort)
      else do
        let bracketed := host.take i
        let name ← match index bracketed (lit "%25") with
          | some zone => do
            let h1 ← unescape .host (bracketed.take zone)
            let h2 ← unescape .zone (bracketed.drop zone)
            pure (h1 ++ h2)
          | none => unescape .host bracketed
        if !isIPv6Literal (name.drop 1) then .error (.invalidIPLiteral host)
        else pure (name ++ [93] ++ colonPort)
  else
    match lastIndexByte host 58 with
    | some i =>
      if !validOptionalPort (host.drop i) then .error (.invalidPort (host.drop i))
      else unescape .host host
    | none => unescape .host host

/-- `url.Userinfo`. -/
structure Userinfo where
  username : GoString
  password : GoString
  passwordSet : Bool
  deriving DecidableEq, Repr

/-- `validUserinfo`: only unreserved bytes, sub-delimiters, `:`, `%` and `@`. -/
def validUserinfo (s : GoString) : Bool :=
  s.all fun c => isDigit c || isUpperAscii c || isLowerAscii c ||
    c ∈ lit "-._:~!$&()*+,;=%@" || c = 39

/-- `parseAuthority`: userinfo up to the last `@`, then the host. -/
def parseAuthority (authority : GoString) : Except UrlError (Option Userinfo × GoString) :=
  match lastIndexByte authority 64 with
  | none => do
    let host ← parseHost authority
    pure (none, host)
  | some i => do
    let host ← parseHost (authority.drop (i + 1))
    let userinfo := authority.take i
    if !validUserinfo userinfo then .error .invalidUserinfo
    else if !userinfo.contains 58 then do
      let name ← unescape .userPassword userinfo
      pure (some ⟨name, [], false⟩, host)
    else do
      let name ← unescape .userPassword (cutByte userinfo 58).1
      let pass ← unescape .userPassword (cutByte userinfo 58).2.1
      pure (some ⟨name, pass, true⟩, host)

/-! ## URLs -/

/-- The fields of a parsed `url.URL` that parsing sets and the repository reads. -/
structure URL where
  scheme : GoString := []
  user : Option Userinfo := none
  host : GoString := []
  path : GoString := []
  rawQuery : GoString := []
  fragment : GoString := []
  deriving DecidableEq, Repr

/-- A byte `stringContainsCTLByte` rejects. -/
def isCTL (c : UInt8) : Bool := c.toNat < 32 || c.toNat = 127

/-- `getScheme`: letters, then letters, digits, `+`, `-`, `.`, up to a `:`; anything else
means there is no scheme. `acc` holds the scheme read so far. -/
def getScheme (raw : GoString) : Except UrlError (GoString × GoString) :=
  go [] raw
where
  go (acc : GoString) : GoString → Except UrlError (GoString × GoString)
    | [] => .ok ([], raw)
    | c :: rest =>
      if isUpperAscii c || isLowerAscii c then go (acc ++ [c]) rest
      else if isDigit c || c = 43 || c = 45 || c = 46 then
        if acc.isEmpty then .ok ([], raw) else go (acc ++ [c]) rest
      else if c = 58 then
        if acc.isEmpty then .error .missingScheme else .ok (acc, rest)
      else .ok ([], raw)

/-- The query split of `parse`: a lone trailing `?` is a forced empty query, otherwise the
text after the first `?` is the raw query. -/
def splitQuery (rest : GoString) : GoString × GoString :=
  if hasSuffix rest (lit "?") && rest.count 63 = 1 then (rest.dropLast, [])
  else ((cutByte rest 63).1, (cutByte rest 63).2.1)

/-- `parse`, shared by `url.Parse` (`viaRequest = false`) and `url.ParseRequestURI`. -/
def parse (rawURL : GoString) (viaRequest : Bool) : Except UrlError URL := do
  if rawURL.any isCTL then .error .controlChar
  else if rawURL.isEmpty && viaRequest then .error .emptyUrl
  else if rawURL = lit "*" then pure { path := lit "*" }
  else
    let (scheme, rest) ← getScheme rawURL
    let scheme := lowerAscii scheme
    let (rest, rawQuery) := splitQuery rest
    if !hasPrefix rest (lit "/") && !scheme.isEmpty then
      -- a rootless path after a scheme is opaque
      pure { scheme, rawQuery }
    else if !hasPrefix rest (lit "/") && viaRequest then .error .invalidForRequest
    else if !hasPrefix rest (lit "/") && (cutByte rest 47).1.contains 58 then
      .error .colonInFirstSegment
    else if (!scheme.isEmpty || !viaRequest && !hasPrefix rest (lit "///")) &&
        hasPrefix rest (lit "//") then do
      let authority := rest.drop 2
      let (authority, rest) := match indexByte authority 47 with
        | some i => (authority.take i, authority.drop i)
        | none => (authority, [])
      let (user, host) ← parseAuthority authority
      let path ← unescape .path rest
      pure { scheme, user, host, path, rawQuery }
    else do
      let path ← unescape .path rest
      pure { scheme, path, rawQuery }

/-- `url.Parse`: cut the fragment at the first `#`, parse the rest, decode the fragment. -/
def urlParse (rawURL : GoString) : Except UrlError URL := do
  let (u, frag, _) := cutByte rawURL 35
  let url ← parse u false
  if frag.isEmpty then pure url
  else do
    let fragment ← unescape .fragment frag
    pure { url with fragment }

/-- `url.ParseRequestURI`: no fragment, and the target must be absolute or rooted. -/
def parseRequestURI (rawURL : GoString) : Except UrlError URL := parse rawURL true

/-! ## Origin-form request targets -/

/-- A lone trailing `?` leaves the same path and query as a cut at the first `?`. -/
theorem splitQuery_eq_cutByte (s : GoString) :
    splitQuery s = ((cutByte s 63).1, (cutByte s 63).2.1) := by
  unfold splitQuery
  split_ifs with h
  · simp only [Bool.and_eq_true, hasSuffix, List.isSuffixOf_iff_suffix, decide_eq_true_eq] at h
    obtain ⟨⟨t, rfl⟩, hc⟩ := h
    rw [show lit "?" = [63] from rfl] at hc ⊢
    have ht : (63 : UInt8) ∉ t := by
      simpa [List.count_append, List.count_eq_zero] using hc
    simp [cutByte_append_singleton ht]
  · rfl

theorem getScheme_slash (rest : GoString) : getScheme (47 :: rest) = pure ([], 47 :: rest) :=
  rfl

/-- An origin-form target (leading `/`, no control byte) has no scheme and no authority:
`url.ParseRequestURI` decodes the text before the first `?` into `Path` and keeps the text
after it as `RawQuery`. -/
theorem parseRequestURI_of_origin {p : GoString} (hp : hasPrefix p (lit "/") = true)
    (hc : p.any isCTL = false) :
    parseRequestURI p = (fun path => ({ path, rawQuery := (cutByte p 63).2.1 } : URL)) <$>
      unescape .path (cutByte p 63).1 := by
  obtain ⟨rest, rfl⟩ : ∃ rest, p = 47 :: rest := by
    obtain ⟨r, rfl⟩ := (hasPrefix_iff _ _).mp hp
    exact ⟨r, rfl⟩
  have h1 : lit "*" = [42] := rfl
  have h2 : lit "/" = [47] := rfl
  have h3 : lit "//" = [47, 47] := rfl
  simp [parseRequestURI, parse, hc, getScheme_slash, splitQuery_eq_cutByte, cutByte, h1, h2, h3,
    lowerAscii]

/-- `url.splitHostPort`: split at the last `:` when a valid port follows it, then drop
the brackets of an IP literal. -/
def splitHostPort (hostPort : GoString) : GoString × GoString :=
  let (host, port) := match lastIndexByte hostPort 58 with
    | some i =>
      if validOptionalPort (hostPort.drop i) then (hostPort.take i, hostPort.drop (i + 1))
      else (hostPort, [])
    | none => (hostPort, [])
  if hasPrefix host (lit "[") && hasSuffix host (lit "]") then ((host.drop 1).dropLast, port)
  else (host, port)

/-- `URL.Hostname`. -/
def URL.hostname (u : URL) : GoString := (splitHostPort u.host).1

/-- `URL.Port`. -/
def URL.port (u : URL) : GoString := (splitHostPort u.host).2

/-! ## `net.SplitHostPort` and `net.JoinHostPort` -/

/-- Why `net.SplitHostPort` rejects an address. -/
inductive AddrError where
  | missingPort | tooManyColons | missingBracket | unexpectedOpen | unexpectedClose
  deriving DecidableEq, Repr

/-- `net.SplitHostPort`: the port follows the last `:`; a bracketed host must close just
before it; a plain host may hold no `:`; no stray bracket may remain. -/
def netSplitHostPort (hostport : GoString) : Except AddrError (GoString × GoString) :=
  match lastIndexByte hostport 58 with
  | none => .error .missingPort
  | some i =>
    let port := hostport.drop (i + 1)
    let checkBrackets (j k : Nat) (host : GoString) : Except AddrError (GoString × GoString) :=
      if (hostport.drop j).contains 91 then .error .unexpectedOpen
      else if (hostport.drop k).contains 93 then .error .unexpectedClose
      else .ok (host, port)
    if hostport.head? = some 91 then
      match indexByte hostport 93 with
      | none => .error .missingBracket
      | some e =>
        if e + 1 = hostport.length then .error .missingPort
        else if e + 1 = i then checkBrackets 1 (e + 1) ((hostport.take e).drop 1)
        else if hostport.get? (e + 1) = some 58 then .error .tooManyColons
        else .error .missingPort
    else if (hostport.take i).contains 58 then .error .tooManyColons
    else checkBrackets 0 0 (hostport.take i)

/-- `net.JoinHostPort`: a host holding a `:` is bracketed. -/
def joinHostPort (host port : GoString) : GoString :=
  if host.contains 58 then [91] ++ host ++ lit "]:" ++ port else host ++ [58] ++ port

end QuantumGoUtils.Go.Url
