import QuantumGoUtils.TpmDevice.Sealer
import QuantumGoUtils.GoTpm.Tpm2

/-!
# The post-quantum key file (`cryptoctx`, `runtimeImpl`)

The runtime keeps its ML-DSA key pair in a JSON envelope. `writeEncryptedPQKeypair` seals a
fresh 32-byte data key with the `Sealer`, encrypts the JSON of the key pair under it with
XChaCha20-Poly1305, binding the label and the absolute path of the file as associated data
(`aad`), and writes the indented JSON of `pqEnvelopeV1`. `loadPQKeypair` reads it back and
checks each step, most failures becoming `ErrCorruptOrTampered`.

The random bytes of the data key and of the nonce, the outcome of `filepath.Abs` and of
writing and reading the file are arguments. XChaCha20-Poly1305 is `Aead`, its `Seal` and
`Open` under a key, which the theorems constrain by hypotheses; `chacha20poly1305.NewX`
refuses a key that is not 32 bytes long, and `Open` panics on a nonce that is not 24 bytes
long, an `Outcome.panic` here. `json.Marshal` and `json.MarshalIndent` cannot fail on these
structs and their error branches are left out, as are the zeroing of the key bytes and the
signing and key-generation code around the file.
-/

namespace QuantumGoUtils.Cryptoctx

open QuantumGoUtils.Go.Strings QuantumGoUtils.Go.Strconv QuantumGoUtils.Go.Base64
open QuantumGoUtils.Go.Json QuantumGoUtils.TpmDevice
open QuantumGoUtils.GoTpm.Tpm2 (Outcome)

/-- A byte slice of fixed length, as `make([]byte, n)` gives. -/
def Bytes (n : Nat) : Type := { b : GoString // b.length = n }

/-- XChaCha20-Poly1305 as `cipher.AEAD`: `Seal` and `Open` under a key, with a nonce and
associated data. -/
structure Aead where
  seal' : GoString → GoString → GoString → GoString → GoString
  open' : GoString → GoString → GoString → GoString → Option GoString

/-- `chacha20poly1305.NewX`: the key, if it has `KeySize` bytes. -/
def newX (key : GoString) : Except GoString GoString :=
  if key.length = 32 then .ok key else .error (lit "chacha20poly1305: bad key length")

/-- `aead.Open` of an XChaCha20-Poly1305 key: a nonce of the wrong length panics. -/
def xOpen (A : Aead) (key nonce ct aad : GoString) : Outcome (Option GoString) :=
  if nonce.length ≠ 24 then .panic (lit "chacha20poly1305: bad nonce length passed to Open")
  else .ret (A.open' key nonce ct aad)

/-- The part of `runtimeImpl` the key file uses. -/
structure Runtime where
  sealer : Sealer
  pqPath : GoString
  pqLabel : GoString
  /-- `filepath.Abs(pqPath)`, when it succeeds. -/
  absPath : Option GoString

/-- `runtimeImpl.aad`: the label and the absolute path (or the path as given), joined by
`|` after a fixed prefix. -/
def Runtime.aad (r : Runtime) : GoString :=
  lit "quantumauth:cryptoctx:pq:v1|" ++ r.pqLabel ++ lit "|" ++ r.absPath.getD r.pqPath

/-! ## The file format -/

/-- `pqEnvelopeV1`. -/
structure PqEnvelopeV1 where
  v : Int
  sealedDEKB64 : GoString
  nonceB64 : GoString
  ctB64 : GoString
  label : GoString
  deriving DecidableEq, Repr

/-- The zero envelope `loadPQKeypair` decodes into. -/
def PqEnvelopeV1.zero : PqEnvelopeV1 := ⟨0, [], [], [], []⟩

/-- The members `json.MarshalIndent` writes, in field order. -/
def PqEnvelopeV1.members (e : PqEnvelopeV1) : List (GoString × GoString) :=
  [(lit "v", formatInt e.v), (lit "sealed_dek_b64", quote e.sealedDEKB64),
    (lit "nonce_b64", quote e.nonceB64), (lit "ct_b64", quote e.ctB64), (lit "label", quote e.label)]

/-- `json.MarshalIndent(env, "", "  ")`. -/
def PqEnvelopeV1.marshalIndent (e : PqEnvelopeV1) : GoString := objectIndented e.members

/-- The fields `json.Unmarshal` fills, by their JSON names. -/
def PqEnvelopeV1.fields : List (GoString × FieldDecoder PqEnvelopeV1) :=
  [(lit "v", intField fun e n => { e with v := n }),
    (lit "sealed_dek_b64", stringField fun e s => { e with sealedDEKB64 := s }),
    (lit "nonce_b64", stringField fun e s => { e with nonceB64 := s }),
    (lit "ct_b64", stringField fun e s => { e with ctB64 := s }),
    (lit "label", stringField fun e s => { e with label := s })]

/-- `pqPayloadV1`, the plaintext: the key pair's encodings. -/
structure PqPayloadV1 where
  pub : GoString
  priv : GoString
  deriving DecidableEq, Repr

/-- The zero payload `loadPQKeypair` decodes into. -/
def PqPayloadV1.zero : PqPayloadV1 := ⟨[], []⟩

/-- The members `json.Marshal` writes: each byte slice as base64 text. -/
def PqPayloadV1.members (p : PqPayloadV1) : List (GoString × GoString) :=
  [(lit "pub", quoteBytes p.pub), (lit "priv", quoteBytes p.priv)]

/-- `json.Marshal(pqPayloadV1{...})`. -/
def PqPayloadV1.marshal (p : PqPayloadV1) : GoString := objectCompact p.members

/-- The fields `json.Unmarshal` fills. -/
def PqPayloadV1.fields : List (GoString × FieldDecoder PqPayloadV1) :=
  [(lit "pub", bytesField fun p s => { p with pub := s }),
    (lit "priv", bytesField fun p s => { p with priv := s })]

/-- `pqKeypair`. -/
structure PqKeypair where
  pub : GoString
  priv : GoString
  deriving DecidableEq, Repr

/-! ## Writing and reading the file -/

/-- Why `writeEncryptedPQKeypair` fails, with the message it wraps. -/
inductive WriteError where
  /-- "cryptoctx: rand dek: %w" -/
  | randDek (err : GoString)
  /-- "cryptoctx: seal dek: %w" -/
  | sealDek (err : GoString)
  /-- "cryptoctx: aead: %w" -/
  | aead (err : GoString)
  /-- "cryptoctx: rand nonce: %w" -/
  | randNonce (err : GoString)
  /-- The error of `atomicWriteFile`. -/
  | writeFile (err : GoString)
  deriving DecidableEq, Repr

/-- The envelope `writeEncryptedPQKeypair` writes for a data key, a nonce and the sealed
data key. -/
def Runtime.envelope (r : Runtime) (A : Aead) (kp : PqKeypair) (dek nonce sealed : GoString) :
    PqEnvelopeV1 :=
  ⟨1, StdEncoding.encodeToString sealed, StdEncoding.encodeToString nonce,
    StdEncoding.encodeToString (A.seal' dek nonce (PqPayloadV1.marshal ⟨kp.pub, kp.priv⟩) r.aad),
    r.pqLabel⟩

/-- `runtimeImpl.writeEncryptedPQKeypair`: the bytes written to `pqPath`. `randDek` and
`randNonce` are what `rand.Read` gives, `written` what `atomicWriteFile` returns. -/
def Runtime.writeEncryptedPQKeypair (r : Runtime) (A : Aead) (kp : PqKeypair)
    (randDek : Except GoString (Bytes 32)) (randNonce : Except GoString (Bytes 24))
    (written : Except GoString Unit) : Except WriteError GoString :=
  match randDek with
  | .error e => .error (.randDek e)
  | .ok dek =>
    match r.sealer.sealBlob r.pqLabel dek.1 with
    | .error e => .error (.sealDek e)
    | .ok sealed =>
      match newX dek.1 with
      | .error e => .error (.aead e)
      | .ok key =>
        match randNonce with
        | .error e => .error (.randNonce e)
        | .ok nonce =>
          match written with
          | .error e => .error (.writeFile e)
          | .ok () => .ok (r.envelope A kp key nonce.1 sealed).marshalIndent

/-- Why `os.ReadFile` fails. -/
inductive ReadError where
  /-- An error `os.IsNotExist` accepts. -/
  | notExist
  /-- Any other error, with its message. -/
  | other (err : GoString)
  deriving DecidableEq, Repr

/-- Why `loadPQKeypair` fails. -/
inductive LoadError where
  /-- `ErrMissingPQKeyFile` -/
  | missingPQKeyFile
  /-- "cryptoctx: read PQ key file: %w" -/
  | readFile (err : GoString)
  /-- "cryptoctx: unmarshal envelope: %w" -/
  | unmarshalEnvelope (err : JsonError)
  /-- "cryptoctx: unsupported pq envelope version: %d" -/
  | unsupportedVersion (v : Int)
  /-- `ErrCorruptOrTampered` -/
  | corruptOrTampered
  /-- "cryptoctx: aead: %w" -/
  | aead (err : GoString)
  deriving DecidableEq, Repr

/-- The steps of `loadPQKeypair` after the data key is unsealed: the cipher, `Open`, and the
payload's JSON. -/
def openPayload (A : Aead) (dek nonce ct aad : GoString) : Outcome (Except LoadError PqKeypair) :=
  match newX dek with
  | .error e => .ret (.error (.aead e))
  | .ok key =>
    match xOpen A key nonce ct aad with
    | .panic m => .panic m
    | .ret none => .ret (.error .corruptOrTampered)
    | .ret (some plain) =>
      match unmarshal PqPayloadV1.fields PqPayloadV1.zero plain with
      | .error _ => .ret (.error .corruptOrTampered)
      | .ok p =>
        if p.pub = [] ∨ p.priv = [] then .ret (.error .corruptOrTampered)
        else .ret (.ok ⟨p.pub, p.priv⟩)

/-- `runtimeImpl.loadPQKeypair` on what `os.ReadFile(pqPath)` returns. -/
def Runtime.loadPQKeypair (r : Runtime) (A : Aead) (file : Except ReadError GoString) :
    Outcome (Except LoadError PqKeypair) :=
  match file with
  | .error .notExist => .ret (.error .missingPQKeyFile)
  | .error (.other e) => .ret (.error (.readFile e))
  | .ok b =>
    match unmarshal PqEnvelopeV1.fields PqEnvelopeV1.zero b with
    | .error e => .ret (.error (.unmarshalEnvelope e))
    | .ok env =>
      if env.v ≠ 1 then .ret (.error (.unsupportedVersion env.v))
      else if env.label ≠ [] ∧ env.label ≠ r.pqLabel then .ret (.error .corruptOrTampered)
      else
        match StdEncoding.decodeString env.sealedDEKB64 with
        | none => .ret (.error .corruptOrTampered)
        | some sealed =>
          match StdEncoding.decodeString env.nonceB64 with
          | none => .ret (.error .corruptOrTampered)
          | some nonce =>
            match StdEncoding.decodeString env.ctB64 with
            | none => .ret (.error .corruptOrTampered)
            | some ct =>
              match r.sealer.unsealBlob r.pqLabel sealed with
              | .error _ => .ret (.error .corruptOrTampered)
              | .ok dek =>
                if dek.length ≠ 32 then .ret (.error .corruptOrTampered)
                else openPayload A dek nonce ct r.aad

end QuantumGoUtils.Cryptoctx
