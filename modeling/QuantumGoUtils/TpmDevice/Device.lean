import QuantumGoUtils.Go.Base64
import QuantumGoUtils.GoTpm.Tpm2

/-!
# The TPM signing client (`tpmdevice/tpmdevice.go`)

`NewWithConfig` finds or makes the device's signing key. With an explicit `Handle` it
opens or creates the key there (`openOrCreateAtHandle`); otherwise `pickOrCreateHandle`
scans a range of persistent handles, reuses the first key that `publicToUncompressed`
accepts, and else creates one at the first empty handle it met. A new key is a P-256
primary key (`createPrimarySigningKey`), made persistent by `EvictControl` and then
flushed (`createAndPersistAt`).

The non-darwin branch of `NewWithConfig` is modelled; darwin uses the Secure Enclave, not
a TPM. Logging is left out. The panic of `uncompressedFromECDSA` on a coordinate longer
than 32 bytes is an `Outcome.panic`: nothing in the package recovers it.

`client.Sign` hands the message's digest to the TPM and writes the two integers of the
signature it gets back with `pad32`; the TPM's reply is its argument.
-/

namespace QuantumGoUtils.TpmDevice

open QuantumGoUtils.Go.Strings QuantumGoUtils.Go.Strconv QuantumGoUtils.Go.Base64
open QuantumGoUtils.GoTpm.Tpm2

/-- `defaultHandleStart`. -/
def defaultHandleStart : Handle := 0x8100A001

/-- `defaultHandleCount`. -/
def defaultHandleCount : UInt32 := 32

/-- `Config`. -/
structure Config where
  handle : Handle
  forceNew : Bool
  ownerAuth : GoString
  handleStart : Handle
  handleCount : UInt32
  deriving DecidableEq, Repr

/-- `client`: the key's handle, its public key `0x04 || X || Y`, and that key in unpadded
base64. The connection a client holds open is counted in the TPM's `conns`. -/
structure Client where
  handle : Handle
  pub : GoString
  pubB64 : GoString
  deriving DecidableEq, Repr

/-- `&client{rwc, h, uncompressed, base64.RawStdEncoding.EncodeToString(uncompressed)}`. -/
def newClient (h : Handle) (uncompressed : GoString) : Client :=
  ⟨h, uncompressed, RawStdEncoding.encodeToString uncompressed⟩

/-- `client.PublicKey`: a copy of the public key. -/
def Client.publicKey (c : Client) : GoString := c.pub

/-! ## Public keys -/

/-- `big.Int.Bytes`: the big-endian bytes of `n`, with no leading zero. -/
def natBytes (n : Nat) : GoString := go n n []
where
  /-- The bytes of `n` in front of `acc`; `n` steps always suffice. -/
  go : Nat → Nat → GoString → GoString
    | 0, _, acc => acc
    | fuel + 1, n, acc => if n = 0 then acc else go fuel (n / 256) ((n % 256).toUInt8 :: acc)

/-- `pad32` (`helpers.go`): the bytes of `n` right-aligned in 32 zero bytes, keeping the last
32 when there are more; 32 zero bytes for `nil`. -/
def pad32 (n : Option Int) : GoString :=
  match n with
  | none => List.replicate 32 0
  | some n =>
    let nb := natBytes n.natAbs
    let nb := if nb.length > 32 then nb.drop (nb.length - 32) else nb
    List.replicate (32 - nb.length) 0 ++ nb

/-- `xPadded` of `uncompressedFromECDSA`, `copy(xPadded[32-len(b):], b)` into 32 zero bytes:
`b` right-aligned, or the panic of a negative slice bound when `b` is longer than 32 bytes.
Unlike `pad32`, no guard. -/
def copyPadded (b : GoString) : Outcome GoString :=
  if b.length ≤ 32 then .ret (List.replicate (32 - b.length) 0 ++ b)
  else .panic (lit "runtime error: slice bounds out of range [-" ++ decimal (b.length - 32) ++
    lit ":]")

/-- `uncompressedFromECDSA`: `0x04 || X || Y`, each coordinate padded to 32 bytes. -/
def uncompressedFromECDSA (x y : Nat) : Outcome GoString :=
  match copyPadded (natBytes x), copyPadded (natBytes y) with
  | .ret xp, .ret yp => .ret ([4] ++ xp ++ yp)
  | .panic m, _ => .panic m
  | _, .panic m => .panic m

/-- Why `publicToUncompressed` refuses a public area. -/
inductive PublicKeyError where
  /-- The error of `Public.Key`. -/
  | key (e : KeyError)
  /-- "unexpected key type %T": a key that is not ECDSA. -/
  | unexpectedKeyType (type : String)
  deriving DecidableEq, Repr

/-- `publicToUncompressed`. -/
def publicToUncompressed (pub : Public) : Outcome (Except PublicKeyError GoString) :=
  match pub.key with
  | .error e => .ret (.error (.key e))
  | .ok .rsa => .ret (.error (.unexpectedKeyType "*rsa.PublicKey"))
  | .ok (.ecdsa _ x y) =>
    match uncompressedFromECDSA x y with
    | .ret u => .ret (.ok u)
    | .panic m => .panic m

/-! ## Creating and finding keys -/

/-- Why `NewWithConfig` fails. -/
inductive DeviceError where
  /-- The error of `openTPM`: "no TPM device found: %w" on Linux, "tpmdevice: OpenTPM
  (windows) failed: %w" on Windows. -/
  | openFailed (e : TpmError)
  /-- A TPM command's error, returned as it is. -/
  | tpm (e : TpmError)
  /-- The error of `publicToUncompressed` on the key just created. -/
  | publicKey (e : PublicKeyError)
  /-- "incompatible key at handle 0x%x: %w" -/
  | incompatibleKey (h : Handle) (e : PublicKeyError)
  /-- "tpmdevice: no free handle in range 0x%x..0x%x" -/
  | noFreeHandle (first last : Handle)
  deriving DecidableEq, Repr

/-- `isHandleEmptyErr`: the text of a TPM error says `TPM_RC_HANDLE`. -/
def isHandleEmptyErr (e : TpmError) : Bool :=
  contains e.text (lit "handle is not correct") || contains e.text (lit "0xb") ||
    contains e.text (lit "TPM_RC_HANDLE")

/-- The template of `createPrimarySigningKey`: an ECC key on P-256 that signs. -/
def signingTemplate : Public where
  type := algECC
  attributes := flagSign ||| flagFixedTPM ||| flagFixedParent ||| flagSensitiveDataOrigin |||
    flagUserWithAuth
  curveID := curveNISTP256
  x := 0
  y := 0

/-- `createPrimarySigningKey`: a transient signing key and its public key, or an error
after flushing what was created. -/
def createPrimarySigningKey : TpmM (Except DeviceError (Handle × GoString)) := do
  match ← createPrimary (lit "") signingTemplate with
  | .error e => return .error (.tpm e)
  | .ok handle =>
    match ← readPublic handle with
    | .error e =>
      let _ ← flushContext handle
      return .error (.tpm e)
    | .ok pub =>
      match ← liftOutcome (publicToUncompressed pub) with
      | .error e =>
        let _ ← flushContext handle
        return .error (.publicKey e)
      | .ok uncompressed => return .ok (handle, uncompressed)

/-- `createAndPersistAt`: create a key, make it persistent at `handle`, flush the
transient copy. -/
def createAndPersistAt (cfg : Config) (handle : Handle) : TpmM (Except DeviceError Client) := do
  match ← createPrimarySigningKey with
  | .error e => return .error e
  | .ok (transient, uncompressed) =>
    match ← evictControl cfg.ownerAuth transient handle with
    | .error e =>
      let _ ← flushContext transient
      return .error (.tpm e)
    | .ok () =>
      let _ ← flushContext transient
      return .ok (newClient handle uncompressed)

/-- `openOrCreateAtHandle`: reuse the key at `h`, create one if `h` is empty, or with
`ForceNew` evict whatever is there and create. -/
def openOrCreateAtHandle (cfg : Config) (h : Handle) : TpmM (Except DeviceError Client) := do
  if cfg.forceNew then
    let _ ← evictControl cfg.ownerAuth h h
    createAndPersistAt cfg h
  else
    match ← readPublic h with
    | .ok pub =>
      match ← liftOutcome (publicToUncompressed pub) with
      | .error e => return .error (.incompatibleKey h e)
      | .ok uncompressed => return .ok (newClient h uncompressed)
    | .error e =>
      if !isHandleEmptyErr e then return .error (.tpm e)
      else createAndPersistAt cfg h

/-- How the loop of `pickOrCreateHandle` ends: a `return` from inside it, or the end of the
range with the first empty handle it met. -/
inductive ScanEnd where
  | returned (r : Except DeviceError Client)
  | exhausted (firstEmpty : Option Handle)
  deriving DecidableEq, Repr

/-- The loop of `pickOrCreateHandle` over the handles left. -/
def scan (cfg : Config) : List Handle → Option Handle → TpmM ScanEnd
  | [], firstEmpty => return .exhausted firstEmpty
  | h :: hs, firstEmpty => do
    match ← readPublic h with
    | .ok pub =>
      match ← liftOutcome (publicToUncompressed pub) with
      | .ok uncompressed => return .returned (.ok (newClient h uncompressed))
      | .error _ =>
        if cfg.forceNew then
          let _ ← evictControl cfg.ownerAuth h h
          return .returned (← createAndPersistAt cfg h)
        else scan cfg hs firstEmpty
    | .error e =>
      if isHandleEmptyErr e then scan cfg hs (some (firstEmpty.getD h))
      else return .returned (.error (.tpm e))

/-- The handles `tpmutil.Handle(uint32(start) + i)` for `i < count`. -/
def scanHandles (start : Handle) (count : UInt32) : List Handle :=
  (List.range count.toNat).map fun i => start + i.toUInt32

/-- `pickOrCreateHandle`. -/
def pickOrCreateHandle (cfg : Config) (start : Handle) (count : UInt32) :
    TpmM (Except DeviceError Client) := do
  match ← scan cfg (scanHandles start count) none with
  | .returned r => return r
  | .exhausted none => return .error (.noFreeHandle start (start + count - 1))
  | .exhausted (some h) => createAndPersistAt cfg h

/-- `NewWithConfig` off darwin: open the device, find or make the key, and close the
device again on an error. -/
def newWithConfig (cfg : Config) : TpmM (Except DeviceError Client) := do
  match ← openTPM with
  | .error e => return .error (.openFailed e)
  | .ok () =>
    if cfg.handle ≠ 0 then
      match ← openOrCreateAtHandle cfg cfg.handle with
      | .error e =>
        closeTPM
        return .error e
      | .ok c => return .ok c
    else
      let start := if cfg.handleStart = 0 then defaultHandleStart else cfg.handleStart
      let count := if cfg.handleCount = 0 then defaultHandleCount else cfg.handleCount
      match ← pickOrCreateHandle cfg start count with
      | .error e =>
        closeTPM
        return .error e
      | .ok picked => return .ok picked

/-! ## Signing -/

/-- A `tpm2.SignatureECC`, by its two integers (`*big.Int`, `nil` being `none`). -/
structure SignatureECC where
  r : Option Int
  s : Option Int
  deriving DecidableEq, Repr

/-- A `tpm2.Signature`, by its ECC part: `nil` unless the TPM made an ECC signature. -/
structure Signature where
  ecc : Option SignatureECC
  deriving DecidableEq, Repr

/-- Why `client.Sign` fails. -/
inductive SignError where
  /-- "tpmdevice: client not initialized" -/
  | notInitialized
  /-- "tpmdevice: Sign: %w" -/
  | sign (e : TpmError)
  /-- "tpmdevice: TPM returned non-ECC signature" -/
  | nonECC
  deriving DecidableEq, Repr

/-- `client.Sign`, given what `tpm2.Sign` returns for the SHA-256 digest of the message under
the client's key. A client that is `nil` or closed (`rwc == nil`) is `none`. -/
def sign (c : Option Client) (signed : Except TpmError Signature) : Except SignError GoString :=
  match c with
  | none => .error .notInitialized
  | some _ =>
    match signed with
    | .error e => .error (.sign e)
    | .ok sig =>
      match sig.ecc with
      | none => .error .nonECC
      | some ecc => .ok (pad32 ecc.r ++ pad32 ecc.s)

/-- `client.SignB64`: the signature in unpadded base64. -/
def signB64 (c : Option Client) (signed : Except TpmError Signature) : Except SignError GoString :=
  RawStdEncoding.encodeToString <$> sign c signed

end QuantumGoUtils.TpmDevice
