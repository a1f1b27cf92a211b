import QuantumGoUtils.Go.Unicode
import QuantumGoUtils.Go.Url
import QuantumGoUtils.Go.Uuid

/-!
# The request canonicalizer (`qa/requests/canonical.go`)

The signer and the verifier of a QuantumAuth request agree on the bytes they sign through
`CanonicalString`: nine `\n`-joined lines, the method and the path first, then labelled
lines for the application, the audience host, the timestamp, the three identifiers and
the body hash. The inputs are normalized and validated first by
`NormalizeAndValidateMethod`, `NormalizeAndValidatePath`, `ValidateUUIDv4` and, inside
`CanonicalString`, `NormalizeBackendHost`; `ParseCanonicalString` reads a canonical
string back.

Each definition below transcribes the Go function of the same name. Errors are values
that carry what the Go message prints; `ParseCanonicalString`'s out-of-range index on its
line array, a runtime panic in Go, is the error `indexOutOfRange`.

The case mapping of non-ASCII runes is the `unicode` tables' (`CaseMap`), a parameter of
every definition that upper- or lower-cases.
-/

namespace QuantumGoUtils.Requests.Canonical

open QuantumGoUtils.Go.Strings QuantumGoUtils.Go.Unicode QuantumGoUtils.Go.Strconv
open QuantumGoUtils.Go.Url QuantumGoUtils.Go.Uuid

/-- `CanonicalInput`. `TS` is an `int64`. -/
structure CanonicalInput where
  method : GoString
  path : GoString
  appID : GoString
  backendHost : GoString
  ts : BitVec 64
  challengeID : GoString
  userID : GoString
  deviceID : GoString
  bodySHA256Hex : GoString
  deriving DecidableEq, Repr

/-- `ParsedCanonical`. -/
structure ParsedCanonical where
  method : GoString
  path : GoString
  appID : GoString
  backendHost : GoString
  ts : BitVec 64
  challengeID : GoString
  userID : GoString
  deviceID : GoString
  bodySHA256 : GoString
  deriving DecidableEq, Repr

/-- `PathNormalizeOptions`. -/
structure PathNormalizeOptions where
  collapseSlashes : Bool
  deriving DecidableEq, Repr

/-- The keys of `allowedMethods`. -/
def allowedMethods : List GoString :=
  [lit "GET", lit "POST", lit "PUT", lit "PATCH", lit "DELETE", lit "HEAD", lit "OPTIONS",
    lit "TRACE", lit "CONNECT"]

/-! ## Backend host -/

/-- The tail both host branches of `NormalizeBackendHost` share: trim and lower-case the
host, trim the port, drop the default ports 80 and 443, and join. -/
def canonicalHostPort (U : CaseMap) (host port : GoString) : GoString :=
  let host := toLower U (trimSpace host)
  let port := trimSpace port
  let port := if port = lit "80" || port = lit "443" then [] else port
  if host.isEmpty then [] else if !port.isEmpty then joinHostPort host port else host

/-- The fallback of `NormalizeBackendHost` when `url.Parse` fails or finds no host: strip
a scheme-like prefix and any path, then split `host:port`, or else lower-case the whole
text and strip one trailing dot. -/
def fallbackHost (U : CaseMap) (s : GoString) : GoString :=
  let raw := match index s (lit "://") with
    | some i => s.drop (i + 3)
    | none => s
  let raw := trimSpace (cutByte raw 47).1
  match netSplitHostPort raw with
  | .ok (host, port) => canonicalHostPort U host port
  | .error _ => trimSuffix (toLower U raw) (lit ".")

/-- `NormalizeBackendHost`: canonical `hostname[:port]`. -/
def normalizeBackendHost (U : CaseMap) (input : GoString) : GoString :=
  let s := trimSpace input
  if s.isEmpty then []
  else
    let toParse := if contains s (lit "://") then s else lit "http://" ++ s
    match urlParse toParse with
    | .ok u => if !u.host.isEmpty then canonicalHostPort U u.hostname u.port else fallbackHost U s
    | .error _ => fallbackHost U s

/-- `HostnameForDNS`: the host of a URL (when `url.Parse` accepts it) or of the text before
the first `/`, without its port and without the brackets of an IPv6 literal. -/
def hostnameForDNS (raw : GoString) : GoString :=
  let s := trimSpace raw
  if s.isEmpty then []
  else
    let s := if contains s (lit "://") then
        match urlParse s with
        | .ok u => u.host
        | .error _ => s
      else (cutByte s 47).1
    let s := trimSpace s
    if s.isEmpty then []
    else
      match netSplitHostPort s with
      | .ok (h, _) => trimSpace h
      | .error _ =>
        if hasPrefix s (lit "[") && hasSuffix s (lit "]") then
          trimSuffix (trimPrefix s (lit "[")) (lit "]")
        else s

/-! ## Method, path and identifiers -/

/-- Why `NormalizeAndValidateMethod` rejects a method. -/
inductive MethodError where
  /-- "missing method" -/
  | missing
  /-- "unsupported method: %s" -/
  | unsupported (m : GoString)
  deriving DecidableEq, Repr

/-- `NormalizeAndValidateMethod`. -/
def normalizeAndValidateMethod (U : CaseMap) (m : GoString) : Except MethodError GoString :=
  let m := trimSpace m
  if m.isEmpty then .error .missing
  else
    let m := toUpper U m
    if m ∈ allowedMethods then .ok m else .error (.unsupported m)

/-- Why `NormalizeAndValidatePath` rejects a path. -/
inductive PathError where
  /-- "missing path" -/
  | missing
  /-- "path is not valid utf-8" -/
  | notUtf8
  /-- "path contains control characters" -/
  | controlChars
  /-- "path must be origin-form (start with '/')" -/
  | notOriginForm
  /-- "path must not contain fragment" -/
  | fragment
  /-- "path must start with '/'" -/
  | noLeadingSlash
  /-- "invalid path: %w" -/
  | invalidPath (e : UrlError)
  deriving DecidableEq, Repr

/-- The loop of `collapseSlashes`, `prev` being the last byte written. -/
def collapseLoop (prev : UInt8) : GoString → GoString
  | [] => []
  | c :: s => if c = 47 && prev = 47 then collapseLoop prev s else c :: collapseLoop c s

/-- `collapseSlashes`: unchanged when there is no `//`, otherwise every `/` that follows
a written `/` is dropped; `prev` starts at 0. -/
def collapseSlashes (s : GoString) : GoString :=
  if !contains s (lit "//") then s else collapseLoop 0 s

/-- A rune `NormalizeAndValidatePath` rejects: at most `0x1F`, or `0x7F`. -/
def isControlRune (r : Nat) : Bool := r ≤ 0x1F || r = 0x7F

/-- `NormalizeAndValidatePath`. The checks read the trimmed input; the result is built
from the parsed `Path` and `RawQuery`. -/
def normalizeAndValidatePath (p : GoString) (opt : PathNormalizeOptions) :
    Except PathError GoString :=
  let p := trimSpace p
  if p.isEmpty then .error .missing
  else if !validString p then .error .notUtf8
  else if (utf8Segments p).any (fun seg => isControlRune seg.value) then .error .controlChars
  else if contains p (lit "://") || hasPrefix p (lit "//") then .error .notOriginForm
  else if contains p (lit "#") then .error .fragment
  else if !hasPrefix p (lit "/") then .error .noLeadingSlash
  else
    match parseRequestURI p with
    | .error e => .error (.invalidPath e)
    | .ok u =>
      let pathOnly := if opt.collapseSlashes then collapseSlashes u.path else u.path
      .ok (if u.rawQuery.isEmpty then pathOnly else pathOnly ++ [63] ++ u.rawQuery)

/-- Why `ValidateUUIDv4` rejects an identifier. -/
inductive UUIDError where
  /-- "invalid uuid" -/
  | invalid
  /-- "nil uuid not allowed" -/
  | nilNotAllowed
  /-- "uuid must be v4" -/
  | notV4
  deriving DecidableEq, Repr

/-- `ValidateUUIDv4`: parse, refuse the nil UUID and versions other than 4, and return
the canonical text. -/
def validateUUIDv4 (s : GoString) : Except UUIDError GoString :=
  match uuidParse (trimSpace s) with
  | .error _ => .error .invalid
  | .ok u =>
    if u = nilUUID then .error .nilNotAllowed
    else if u.version ≠ 4 then .error .notV4
    else .ok u.toText

/-! ## Canonical string -/

/-- Why `CanonicalString` refuses an input. -/
inductive CanonicalError where
  /-- "missing body sha256" -/
  | missingBodySHA256
  /-- "invalid body sha256 length" -/
  | invalidBodySHA256Length
  /-- "invalid body sha256 hex" -/
  | invalidBodySHA256Hex
  /-- "invalid aud" -/
  | invalidAud
  deriving DecidableEq, Repr

/-- `fmt.Sprintf("<label>%s", v)`: a label and a field, as the labelled lines write them. -/
def labelled (label : String) (v : GoString) : GoString := lit label ++ v

/-- The nine lines `CanonicalString` joins, once its checks have passed. -/
def canonicalLines (U : CaseMap) (ci : CanonicalInput) (aud bodyHex : GoString) :
    List GoString :=
  [toUpper U ci.method, ci.path, labelled "APP: " ci.appID, labelled "AUD: " aud,
    labelled "TS: " (formatInt ci.ts.toInt), labelled "CHALLENGE: " ci.challengeID,
    labelled "USER: " ci.userID, labelled "DEVICE: " ci.deviceID,
    labelled "BODY-SHA256: " bodyHex]

/-- `CanonicalString`. -/
def canonicalString (U : CaseMap) (ci : CanonicalInput) : Except CanonicalError GoString :=
  let bodyHex := toLower U (trimSpace ci.bodySHA256Hex)
  if bodyHex.isEmpty then .error .missingBodySHA256
  else if bodyHex.length ≠ 64 then .error .invalidBodySHA256Length
  else match hexDecode bodyHex with
    | .error _ => .error .invalidBodySHA256Hex
    | .ok _ =>
      let aud := normalizeBackendHost U ci.backendHost
      if aud.isEmpty then .error .invalidAud
      else .ok (join (canonicalLines U ci aud bodyHex) (lit "\n"))

/-- Why `ParseCanonicalString` rejects a string. -/
inductive ParseError where
  /-- "unexpected canonical line count: got %d, want 8" -/
  | lineCount (got : Nat)
  /-- "invalid <label> line: %q" -/
  | invalidLine (label : String) (line : GoString)
  /-- "parse TS: %w" -/
  | parseTS (e : NumError)
  /-- The runtime panic "index out of range [%d] with length %d". -/
  | indexOutOfRange (index length : Nat)
  deriving DecidableEq, Repr

/-- Line `i` of the split, or the panic of reading past its end. -/
def lineAt (lines : List GoString) (i : Nat) : Except ParseError GoString :=
  match lines.get? i with
  | some l => .ok l
  | none => .error (.indexOutOfRange i lines.length)

/-- One labelled line: it must start with `<label>: `; the value is the trimmed rest. The
six labelled string fields are read alike. -/
def labelledField (label : String) (line : GoString) : Except ParseError GoString :=
  if !hasPrefix line (lit (label ++ ": ")) then .error (.invalidLine label line)
  else .ok (trimSpace (trimPrefix line (lit (label ++ ": "))))

/-- `ParseCanonicalString`. -/
def parseCanonicalString (s : GoString) : Except ParseError ParsedCanonical := do
  let lines := split (trimSpace s) 10
  if lines.length ≠ 8 then .error (.lineCount lines.length)
  else
    let method := trimSpace (← lineAt lines 0)
    let path := trimSpace (← lineAt lines 1)
    let appID ← labelledField "APP" (← lineAt lines 2)
    let backendHost ← labelledField "AUD" (← lineAt lines 3)
    let tsLine ← lineAt lines 4
    if !hasPrefix tsLine (lit "TS: ") then .error (.invalidLine "TS" tsLine)
    else
      let ts ← (parseInt (trimSpace (trimPrefix tsLine (lit "TS: ")))).mapError .parseTS
      let challengeID ← labelledField "CHALLENGE" (← lineAt lines 5)
      let userID ← labelledField "USER" (← lineAt lines 6)
      let deviceID ← labelledField "DEVICE" (← lineAt lines 7)
      let bodySHA256 ← labelledField "BODY-SHA256" (← lineAt lines 8)
      pure { method, path, appID, backendHost, ts, challengeID, userID, deviceID, bodySHA256 }

end QuantumGoUtils.Requests.Canonical
