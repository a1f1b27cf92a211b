import QuantumGoUtils.Go.Strconv

/-!
# `github.com/google/uuid`

`uuid.Parse`, `UUID.String`, `UUID.Version` and `uuid.Nil`, which `ValidateUUIDv4` uses.
`Parse` accepts four layouts, chosen by length alone: 36 bytes with dashes, 45 bytes with
an `urn:uuid:` prefix (compared ignoring case), 38 bytes whose first and last bytes are
skipped unchecked (meant for braces), and 32 bare hex digits. `String` writes the
canonical lower-case form.
-/

namespace QuantumGoUtils.Go.Uuid

open QuantumGoUtils.Go.Strings QuantumGoUtils.Go.Strconv

/-- A UUID: sixteen bytes. -/
structure UUID where
  bytes : List UInt8
  length_bytes : bytes.length = 16
  deriving DecidableEq

/-- Why `uuid.Parse` fails. -/
inductive UuidError where
  /-- `invalidLengthError`: "invalid UUID length: %d". -/
  | invalidLength (n : Nat)
  /-- "invalid urn prefix: %q". -/
  | invalidUrnPrefix (s : GoString)
  /-- "invalid UUID format". -/
  | invalidFormat
  deriving DecidableEq, Repr

/-- `xtob` over a run of hex digit pairs. -/
def hexPairs : GoString → Option (List UInt8)
  | [] => some []
  | [_] => none
  | a :: b :: rest =>
    if isHexDigit a && isHexDigit b then
      ((hexVal a * 16 + hexVal b).toUInt8 :: ·) <$> hexPairs rest
    else none

theorem length_hexPairs : ∀ {s : GoString} {bs : List UInt8}, hexPairs s = some bs →
    2 * bs.length = s.length
  | [], _, h => by cases h; rfl
  | [_], _, h => by cases h
  | a :: b :: rest, bs, h => by
    simp only [hexPairs] at h
    split at h
    · obtain ⟨t, ht, rfl⟩ := Option.map_eq_some'.mp h
      have := length_hexPairs ht
      simp only [List.length_cons]
      omega
    · cases h

/-- Sixteen bytes from 32 hex digits. -/
def ofHex (s : GoString) : Except UuidError UUID :=
  match hexPairs s with
  | some bs =>
    if hl : bs.length = 16 then .ok ⟨bs, hl⟩ else .error .invalidFormat
  | none => .error .invalidFormat

/-- The dashed layout `xxxxxxxx-xxxx-xxxx-xxxx-xxxxxxxxxxxx` at the front of `s`. -/
def parseDashed (s : GoString) : Except UuidError UUID :=
  if s.get? 8 = some 45 && s.get? 13 = some 45 && s.get? 18 = some 45 && s.get? 23 = some 45
  then
    ofHex (s.take 8 ++ (s.drop 9).take 4 ++ (s.drop 14).take 4 ++ (s.drop 19).take 4 ++
      (s.drop 24).take 12)
  else .error .invalidFormat

/-- `uuid.Parse`. -/
def uuidParse (s : GoString) : Except UuidError UUID :=
  if s.length = 36 then parseDashed s
  else if s.length = 45 then
    if lowerAscii (s.take 9) = lit "urn:uuid:" then parseDashed (s.drop 9)
    else .error (.invalidUrnPrefix (s.take 9))
  else if s.length = 38 then parseDashed (s.drop 1)
  else if s.length = 32 then ofHex s
  else .error (.invalidLength s.length)

/-- `UUID.String`: lower-case hex, dashed 8-4-4-4-12. -/
def UUID.toText (u : UUID) : GoString :=
  hexEncode (u.bytes.take 4) ++ [45] ++ hexEncode ((u.bytes.drop 4).take 2) ++ [45] ++
    hexEncode ((u.bytes.drop 6).take 2) ++ [45] ++ hexEncode ((u.bytes.drop 8).take 2) ++
    [45] ++ hexEncode (u.bytes.drop 10)

/-- `UUID.Version`: the high nibble of byte 6. -/
def UUID.version (u : UUID) : Nat := (u.bytes.getD 6 0).toNat / 16

/-- `uuid.Nil`, all zero. -/
def nilUUID : UUID := ⟨List.replicate 16 0, rfl⟩

end QuantumGoUtils.Go.Uuid
