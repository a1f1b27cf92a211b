import QuantumGoUtils.Go.Unicode
import QuantumGoUtils.Go.Strconv
import QuantumGoUtils.Go.Base64

/-!
# `encoding/json` on flat structs

The key file and the sealed blob are JSON objects written by `json.Marshal` and
`json.MarshalIndent` and read back by `json.Unmarshal` into structs whose fields are
strings, byte slices (base64 text) and integers.

Writing: a string is quoted by `appendString` with HTML escaping on. An ASCII byte outside
`htmlSafeSet` is escaped (`\"`, `\\`, `\b`, `\f`, `\n`, `\r`, `\t`, or `\u00XX`), the
separators U+2028 and U+2029 become `\u2028` and `\u2029`, a byte that starts no
well-formed UTF-8 sequence becomes `\ufffd`, and every other rune is copied.

Reading: `Unmarshal` first checks that the whole input is one JSON value (`checkValid`),
then decodes it. The parser below does both at once: it fails on the first syntax error,
and otherwise returns the value, whose strings are already unquoted (escapes decoded,
surrogate pairs joined, lone surrogates and ill-formed UTF-8 read as U+FFFD). A struct
then takes each member whose key is a field's name, exactly or up to case folding;
unknown keys are skipped, a repeated key overwrites, and a member of the wrong type is an
error that `Unmarshal` reports after decoding the rest.

The messages and offsets of the library's errors are left out: the repository either
wraps them whole or replaces them by its own.
-/

namespace QuantumGoUtils.Go.Json

open QuantumGoUtils.Go.Strings QuantumGoUtils.Go.Unicode QuantumGoUtils.Go.Strconv
open QuantumGoUtils.Go.Base64

/-- A JSON value as the decoder reads it; a number keeps its text. -/
inductive Value where
  | null
  | bool (b : Bool)
  | number (text : GoString)
  | string (s : GoString)
  | array (vs : List Value)
  | object (members : List (GoString × Value))

/-- The errors `Unmarshal` returns. -/
inductive JsonError where
  /-- `*json.SyntaxError`: the input is not one JSON value. -/
  | syntaxError
  /-- `*json.UnmarshalTypeError`: a value of the wrong type for its field. -/
  | unmarshalType
  /-- `base64.CorruptInputError`, from a byte-slice field. -/
  | base64
  deriving DecidableEq, Repr

/-! ## Writing -/

/-- `htmlSafeSet`: printable ASCII except `"`, `\`, `<`, `>` and `&`. -/
def htmlSafe (b : UInt8) : Bool :=
  0x20 ≤ b.toNat && b.toNat < 0x80 && b.toNat != 34 && b.toNat != 92 && b.toNat != 60 &&
    b.toNat != 62 && b.toNat != 38

/-- The escape `appendString` writes for an ASCII byte outside `htmlSafeSet`. -/
def escapeByte (b : UInt8) : GoString :=
  if b.toNat = 92 ∨ b.toNat = 34 then [92, b]
  else if b.toNat = 8 then [92, 98]
  else if b.toNat = 12 then [92, 102]
  else if b.toNat = 10 then [92, 110]
  else if b.toNat = 13 then [92, 114]
  else if b.toNat = 9 then [92, 116]
  else [92, 117, 48, 48, hexDigit (b.toNat / 16), hexDigit (b.toNat % 16)]

/-- What `appendString` writes for one decoded rune, or for a byte that starts none. -/
def quoteSeg : Seg → GoString
  | .rune r bs =>
    if r < 0x80 then (if htmlSafe r.toUInt8 then [r.toUInt8] else escapeByte r.toUInt8)
    else if r = 0x2028 ∨ r = 0x2029 then lit "\\u202" ++ [hexDigit (r % 16)]
    else bs
  | .bad _ => lit "\\ufffd"

/-- A string as `json.Marshal` writes it. -/
def quote (s : GoString) : GoString := [34] ++ (utf8Segments s).flatMap quoteSeg ++ [34]

/-- A byte slice as `json.Marshal` writes it: its padded base64 text, quoted. Every slice
the repository marshals is non-nil, so `null` is never written. -/
def quoteBytes (b : GoString) : GoString := [34] ++ StdEncoding.encodeToString b ++ [34]

/-- An object as `json.Marshal` writes it, from its keys and the text of its values. -/
def objectCompact (members : List (GoString × GoString)) : GoString :=
  [123] ++ join (members.map fun m => quote m.1 ++ [58] ++ m.2) [44] ++ [125]

/-- A non-empty object of scalar members as `json.MarshalIndent(v, "", "  ")` writes it:
one member a line, indented by two spaces, with a space after each colon. -/
def objectIndented (members : List (GoString × GoString)) : GoString :=
  [123, 10] ++ join (members.map fun m => [32, 32] ++ quote m.1 ++ [58, 32] ++ m.2) [44, 10] ++
    [10, 125]

/-! ## Reading strings -/

/-- JSON white space: space, tab, line feed, carriage return. -/
def isWs (c : UInt8) : Bool := c.toNat = 32 || c.toNat = 9 || c.toNat = 10 || c.toNat = 13

/-- The input after any white space. -/
def skipWs : GoString → GoString
  | [] => []
  | c :: s => if isWs c then skipWs s else c :: s

/-- The bytes `unquote` writes for a segment of the raw text: the segment itself, or
U+FFFD for a byte that starts no well-formed sequence. -/
def coerceSeg : Seg → GoString
  | .rune _ bs => bs
  | .bad _ => encodeRune runeError

/-- The four hexadecimal digits of a `\u` escape. -/
def hex4 (a b c d : UInt8) : Nat := ((hexVal a * 16 + hexVal b) * 16 + hexVal c) * 16 + hexVal d

/-- All four are hexadecimal digits. -/
def isHex4 (a b c d : UInt8) : Bool := isHexDigit a && isHexDigit b && isHexDigit c && isHexDigit d

/-- A UTF-16 surrogate. -/
def isSurrogate (r : Nat) : Bool := 0xD800 ≤ r && r < 0xE000

/-- The one-character escapes and what they stand for. -/
def simpleEscape (c : UInt8) : Option UInt8 :=
  if c.toNat = 34 ∨ c.toNat = 92 ∨ c.toNat = 47 then some c
  else if c.toNat = 98 then some 8
  else if c.toNat = 102 then some 12
  else if c.toNat = 110 then some 10
  else if c.toNat = 114 then some 13
  else if c.toNat = 116 then some 9
  else none

/-- What is written for raw bytes still pending at an escape or at the closing quote:
U+FFFD for each, as a sequence that does not complete is ill-formed. -/
def flushPend (pend : GoString) : GoString := (pend.map Seg.bad).flatMap coerceSeg

/-- What is written for a surrogate escape that no low surrogate escape completes: U+FFFD. -/
def flushSur : Option Nat → GoString
  | none => []
  | some _ => encodeRune runeError

/-- The rune of a surrogate pair (`utf16.DecodeRune`). -/
def combineSurrogates (hi lo : Nat) : Nat := 0x10000 + (hi - 0xD800) * 1024 + (lo - 0xDC00)

/-- The body of a string literal, after its opening quote: the unquoted text and the input
after the closing quote. Raw bytes go through the UTF-8 decoder (`pend` is its pending
sequence); `sur` is a surrogate just read from a `\u` escape, which the next escape may
complete; `acc` is the text so far. A control byte, a bad escape and the end of the input
are syntax errors. -/
def lexString (pend : GoString) (sur : Option Nat) (acc : GoString) :
    GoString → Except JsonError (GoString × GoString)
  | [] => .error .syntaxError
  | 34 :: rest => .ok (acc ++ flushSur sur ++ flushPend pend, rest)
  | 92 :: 117 :: a :: b :: d :: e :: rest =>
    let acc := acc ++ flushPend pend
    if !isHex4 a b d e then .error .syntaxError
    else
      let r := hex4 a b d e
      match sur with
      | some hi =>
        if hi < 0xDC00 ∧ 0xDC00 ≤ r ∧ r < 0xE000 then
          lexString [] none (acc ++ encodeRune (combineSurrogates hi r)) rest
        else if isSurrogate r then lexString [] (some r) (acc ++ encodeRune runeError) rest
        else lexString [] none (acc ++ encodeRune runeError ++ encodeRune r) rest
      | none =>
        if isSurrogate r then lexString [] (some r) acc rest
        else lexString [] none (acc ++ encodeRune r) rest
  | 92 :: c :: rest =>
    match simpleEscape c with
    | some d => lexString [] none (acc ++ flushSur sur ++ flushPend pend ++ [d]) rest
    | none => .error .syntaxError
  | [92] => .error .syntaxError
  | c :: rest =>
    if c.toNat < 0x20 then .error .syntaxError
    else
      lexString (step pend c).2 none
        (acc ++ flushSur sur ++ (step pend c).1.flatMap coerceSeg) rest

/-! ## Reading numbers -/

/-- The longest run of decimal digits at the front, and what follows it. -/
def spanDigits : GoString → GoString × GoString
  | [] => ([], [])
  | c :: s => if isDigit c then (c :: (spanDigits s).1, (spanDigits s).2) else ([], c :: s)

/-- The exponent of a number, after its `e` or `E`: an optional sign and digits. -/
def lexExponent (s : GoString) : Except JsonError (GoString × GoString) :=
  let (sign, s) := match s with
    | c :: r => if c.toNat = 43 ∨ c.toNat = 45 then ([c], r) else ([], c :: r)
    | [] => ([], [])
  match spanDigits s with
  | ([], _) => .error .syntaxError
  | (ds, r) => .ok (sign ++ ds, r)

/-- A number: an optional minus, `0` or a digit run not starting with `0`, an optional
fraction and an optional exponent. The text and the input after it. -/
def lexNumber (s : GoString) : Except JsonError (GoString × GoString) := do
  let (neg, s) := match s with
    | 45 :: r => ([(45 : UInt8)], r)
    | r => ([], r)
  let (int, s) ← match s with
    | 48 :: r => pure ([(48 : UInt8)], r)
    | c :: r =>
      if isDigit c then pure (c :: (spanDigits r).1, (spanDigits r).2) else .error .syntaxError
    | [] => .error .syntaxError
  let (frac, s) ← match s with
    | 46 :: r =>
      match spanDigits r with
      | ([], _) => .error .syntaxError
      | (ds, r) => pure (46 :: ds, r)
    | r => pure ([], r)
  let (exp, s) ← match s with
    | c :: r =>
      if c.toNat = 101 ∨ c.toNat = 69 then (fun p => (c :: p.1, p.2)) <$> lexExponent r
      else pure ([], c :: r)
    | [] => pure ([], [])
  pure (neg ++ int ++ frac ++ exp, s)

/-! ## Reading values -/

/-- The scanner's `maxNestingDepth`. -/
def maxNestingDepth : Nat := 10000

mutual

/-- One value after optional white space, at nesting `depth`; `fuel` bounds the calls. -/
def parseValue : Nat → Nat → GoString → Except JsonError (Value × GoString)
  | 0, _, _ => .error .syntaxError
  | fuel + 1, depth, s =>
    match skipWs s with
    | 123 :: rest =>
      if maxNestingDepth ≤ depth then .error .syntaxError
      else
        match skipWs rest with
        | 125 :: rest => .ok (.object [], rest)
        | _ => parseMembers fuel (depth + 1) [] rest
    | 91 :: rest =>
      if maxNestingDepth ≤ depth then .error .syntaxError
      else
        match skipWs rest with
        | 93 :: rest => .ok (.array [], rest)
        | _ => parseElems fuel (depth + 1) [] rest
    | 34 :: rest => (fun p => (.string p.1, p.2)) <$> lexString [] none [] rest
    | 116 :: 114 :: 117 :: 101 :: rest => .ok (.bool true, rest)
    | 102 :: 97 :: 108 :: 115 :: 101 :: rest => .ok (.bool false, rest)
    | 110 :: 117 :: 108 :: 108 :: rest => .ok (.null, rest)
    | s => (fun p => (.number p.1, p.2)) <$> lexNumber s

/-- The members of an object from a key on, after `{` or `,`. -/
def parseMembers : Nat → Nat → List (GoString × Value) → GoString →
    Except JsonError (Value × GoString)
  | 0, _, _, _ => .error .syntaxError
  | fuel + 1, depth, acc, s =>
    match skipWs s with
    | 34 :: rest =>
      match lexString [] none [] rest with
      | .error e => .error e
      | .ok (key, rest) =>
        match skipWs rest with
        | 58 :: rest =>
          match parseValue fuel depth rest with
          | .error e => .error e
          | .ok (v, rest) =>
            match skipWs rest with
            | 44 :: rest => parseMembers fuel depth (acc ++ [(key, v)]) rest
            | 125 :: rest => .ok (.object (acc ++ [(key, v)]), rest)
            | _ => .error .syntaxError
        | _ => .error .syntaxError
    | _ => .error .syntaxError

/-- The elements of an array from an element on, after `[` or `,`. -/
def parseElems : Nat → Nat → List Value → GoString → Except JsonError (Value × GoString)
  | 0, _, _, _ => .error .syntaxError
  | fuel + 1, depth, acc, s =>
    match parseValue fuel depth s with
    | .error e => .error e
    | .ok (v, rest) =>
      match skipWs rest with
      | 44 :: rest => parseElems fuel depth (acc ++ [v]) rest
      | 93 :: rest => .ok (.array (acc ++ [v]), rest)
      | _ => .error .syntaxError

end

/-- `checkValid` and the decoding of literals: one value, white space around it, nothing
else. -/
def parse (data : GoString) : Except JsonError Value :=
  match parseValue (data.length + 1) 0 data with
  | .error e => .error e
  | .ok (v, rest) => if skipWs rest = [] then .ok v else .error .syntaxError

/-! ## Decoding into a struct -/

/-- `foldName` on the runes that can equal those of an ASCII field name: ASCII letters are
upper-cased, and `ſ` (U+017F) and the Kelvin sign (U+212A) fold to `S` and `K`. Go folds
every other rune to the least rune of its case-folding orbit, which is never ASCII; here it
is kept as it is. -/
def foldRune (r : Nat) : Nat :=
  if 97 ≤ r ∧ r ≤ 122 then r - 32
  else if r = 0x17F then 83
  else if r = 0x212A then 75
  else r

/-- The folded runes of a key or a field name. -/
def foldName (s : GoString) : List Nat := (utf8Segments s).map fun seg => foldRune seg.value

/-- How a field reads a member's value into the struct: the new struct, and the error to
report, if any. -/
abbrev FieldDecoder (S : Type) := Value → S → S × Option JsonError

/-- The field a key names: one whose name is the key, else one whose name folds to the
key's fold. -/
def lookupField {S : Type} (fields : List (GoString × FieldDecoder S)) (key : GoString) :
    Option (FieldDecoder S) :=
  match fields.find? (·.1 = key) with
  | some f => some f.2
  | none => (fields.find? fun f => foldName f.1 = foldName key).map (·.2)

/-- The members of an object, in order, into the struct; the first error is kept. -/
def decodeMembers {S : Type} (fields : List (GoString × FieldDecoder S)) :
    List (GoString × Value) → S → S × Option JsonError
  | [], s => (s, none)
  | (key, v) :: ms, s =>
    match lookupField fields key with
    | none => decodeMembers fields ms s
    | some f =>
      let r := f v s
      let r' := decodeMembers fields ms r.1
      (r'.1, r.2 <|> r'.2)

/-- `json.Unmarshal(data, &v)` for a struct `v` starting at `zero`. -/
def unmarshal {S : Type} (fields : List (GoString × FieldDecoder S)) (zero : S)
    (data : GoString) : Except JsonError S :=
  match parse data with
  | .error e => .error e
  | .ok (.object ms) =>
    match decodeMembers fields ms zero with
    | (s, none) => .ok s
    | (_, some e) => .error e
  | .ok .null => .ok zero
  | .ok _ => .error .unmarshalType

/-- A `string` field. -/
def stringField {S : Type} (set : S → GoString → S) : FieldDecoder S
  | .string str, s => (set s str, none)
  | .null, s => (s, none)
  | _, s => (s, some .unmarshalType)

/-- A `[]byte` field: base64 text, or `null` for a nil slice. -/
def bytesField {S : Type} (set : S → GoString → S) : FieldDecoder S
  | .string str, s =>
    match StdEncoding.decodeString str with
    | some b => (set s b, none)
    | none => (s, some .base64)
  | .null, s => (set s [], none)
  | _, s => (s, some .unmarshalType)

/-- An `int` field: a number `strconv.ParseInt(text, 10, 64)` accepts. -/
def intField {S : Type} (set : S → Int → S) : FieldDecoder S
  | .number text, s =>
    match parseInt text with
    | .ok n => (set s n.toInt, none)
    | .error _ => (s, some .unmarshalType)
  | .null, s => (s, none)
  | _, s => (s, some .unmarshalType)

/-- An `[]any` field: an array, each element decoded into an `interface{}`, which takes
every value; `null` is a nil slice. -/
def anySliceField {S : Type} (set : S → List Value → S) : FieldDecoder S
  | .array vs, s => (set s vs, none)
  | .null, s => (set s [], none)
  | _, s => (s, some .unmarshalType)

/-- A value decoded into a struct starting at `zero`: an object's members go through the
fields, `null` leaves the struct as it is, and any other value is of the wrong type. -/
def decodeValue {S : Type} (fields : List (GoString × FieldDecoder S)) (zero : S) :
    Value → Except JsonError S
  | .object ms =>
    match decodeMembers fields ms zero with
    | (s, none) => .ok s
    | (_, some e) => .error e
  | .null => .ok zero
  | _ => .error .unmarshalType

/-- `json.NewDecoder(r).Decode(&v)` for a struct `v` starting at `zero`: the first value of
the stream, what follows it left unread. A stream that ends before its value does gives
`io.EOF` or `io.ErrUnexpectedEOF` in Go, a syntax error here; a number or literal at the
top, which Go reads one byte past, is not told apart from one followed by other bytes. -/
def Decoder.decode {S : Type} (fields : List (GoString × FieldDecoder S)) (zero : S)
    (data : GoString) : Except JsonError S :=
  match parseValue (data.length + 1) 0 data with
  | .error e => .error e
  | .ok (v, _) => decodeValue fields zero v

end QuantumGoUtils.Go.Json
