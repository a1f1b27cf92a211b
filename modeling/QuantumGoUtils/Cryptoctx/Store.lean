import QuantumGoUtils.Cryptoctx.RuntimeLaws

/-!
# The key file over the runtime's lifetime (`cryptoctx`, `runtimeImpl`)

`New` ends with `EnsurePQKeypair`, which writes the key file only when `os.Stat` reports
that it does not exist: it generates a key pair with the CIRCL scheme, marshals both
halves and writes them with `writeEncryptedPQKeypair`. `PQPublicKeyB64` and `SignPQB64`
load the file and never write it. `atomicWriteFile` replaces the file only by its final
`os.Rename`, so a write that fails leaves the file as it was.

The file is `Option GoString`: absent, or its bytes. What each call meets besides the file
(an `os.Stat` or `os.ReadFile` error other than a missing file, `os.MkdirAll`, key
generation, `rand.Read`, the outcome of `atomicWriteFile`) is an argument; the scheme's
marshalling and signing are `Scheme`.

## Main results

* `ensurePQKeypair_file` — `EnsurePQKeypair` leaves the file as it is, unless it finds no
  file, and then it writes the envelope of the key pair it generated.
* `ensure_fresh` — `EnsurePQKeypair` on a missing file writes a file from which
  `PQPublicKeyB64` reports the generated public key and `SignPQB64` signs with the
  generated private key.
-/

namespace QuantumGoUtils.Cryptoctx

open QuantumGoUtils.Go.Strings QuantumGoUtils.Go.Base64 QuantumGoUtils.Go.Unicode
open QuantumGoUtils.Go.Json QuantumGoUtils.TpmDevice
open QuantumGoUtils.GoTpm.Tpm2 (Outcome)

/-! ## The calls -/

/-- `sign.Scheme` as the runtime uses it, over its public and private key types. -/
structure Scheme (PK SK : Type) where
  /-- `PublicKey.MarshalBinary`. -/
  marshalPub : PK → Except GoString GoString
  /-- `PrivateKey.MarshalBinary`. -/
  marshalPriv : SK → Except GoString GoString
  /-- `UnmarshalBinaryPrivateKey`. -/
  unmarshalPriv : GoString → Except GoString SK
  /-- `Sign(sk, msg, nil)`; `none` is a `nil` signature. -/
  sign : SK → GoString → Option GoString

/-- `os.Stat` or `os.ReadFile` of the key file: an error that `os.IsNotExist` refuses, if
the call meets one; otherwise the file, or a missing file. -/
def readFile (file : Option GoString) (fault : Option GoString) : Except ReadError GoString :=
  match fault, file with
  | some e, _ => .error (.other e)
  | none, none => .error .notExist
  | none, some b => .ok b

/-- What one `EnsurePQKeypair` call meets besides the file. -/
structure EnsureEnv (PK SK : Type) where
  /-- An `os.Stat` error that `os.IsNotExist` refuses, if any. -/
  statFault : Option GoString
  mkdirAll : Except GoString Unit
  generateKey : Except GoString (PK × SK)
  randDek : Except GoString (Bytes 32)
  randNonce : Except GoString (Bytes 24)
  /-- What `atomicWriteFile` returns. -/
  written : Except GoString Unit

/-- Why `EnsurePQKeypair` fails, with the message it wraps. -/
inductive EnsureError where
  /-- "cryptoctx: stat PQ key file: %w" -/
  | stat (err : GoString)
  /-- "cryptoctx: mkdir PQ dir: %w" -/
  | mkdir (err : GoString)
  /-- "cryptoctx: PQ keygen failed: %w" -/
  | keygen (err : GoString)
  /-- "cryptoctx: marshal PQ pub: %w" -/
  | marshalPub (err : GoString)
  /-- "cryptoctx: marshal PQ priv: %w" -/
  | marshalPriv (err : GoString)
  /-- The error of `writeEncryptedPQKeypair`, returned as it is. -/
  | write (err : WriteError)
  deriving DecidableEq, Repr

variable {PK SK : Type}

/-- `runtimeImpl.EnsurePQKeypair`: its result and the key file after it. -/
def Runtime.ensurePQKeypair (r : Runtime) (A : Aead) (S : Scheme PK SK) (env : EnsureEnv PK SK)
    (file : Option GoString) : Except EnsureError Unit × Option GoString :=
  match readFile file env.statFault with
  | .ok _ => (.ok (), file)
  | .error (.other e) => (.error (.stat e), file)
  | .error .notExist =>
    match env.mkdirAll with
    | .error e => (.error (.mkdir e), file)
    | .ok () =>
      match env.generateKey with
      | .error e => (.error (.keygen e), file)
      | .ok (pk, sk) =>
        match S.marshalPub pk with
        | .error e => (.error (.marshalPub e), file)
        | .ok pub =>
          match S.marshalPriv sk with
          | .error e => (.error (.marshalPriv e), file)
          | .ok priv =>
            match r.writeEncryptedPQKeypair A ⟨pub, priv⟩ env.randDek env.randNonce env.written with
            | .error e => (.error (.write e), file)
            | .ok out => (.ok (), some out)

/-- `runtimeImpl.PQPublicKeyB64` on what `os.ReadFile` returns. -/
def Runtime.pqPublicKeyB64 (r : Runtime) (A : Aead) (file : Except ReadError GoString) :
    Outcome (Except LoadError GoString) :=
  match r.loadPQKeypair A file with
  | .panic m => .panic m
  | .ret (.error e) => .ret (.error e)
  | .ret (.ok kp) => .ret (.ok (RawStdEncoding.encodeToString kp.pub))

/-- Why `SignPQB64` fails. -/
inductive SignError where
  /-- The error of `loadPQKeypair`, returned as it is. -/
  | load (err : LoadError)
  /-- "cryptoctx: unmarshal PQ private key: %w" -/
  | unmarshalPriv (err : GoString)
  /-- "cryptoctx: PQ sign failed" -/
  | signFailed
  deriving DecidableEq, Repr

/-- `runtimeImpl.SignPQB64` on what `os.ReadFile` returns. -/
def Runtime.signPQB64 (r : Runtime) (A : Aead) (S : Scheme PK SK) (msg : GoString)
    (file : Except ReadError GoString) : Outcome (Except SignError GoString) :=
  match r.loadPQKeypair A file with
  | .panic m => .panic m
  | .ret (.error e) => .ret (.error (.load e))
  | .ret (.ok kp) =>
    match S.unmarshalPriv kp.priv with
    | .error e => .ret (.error (.unmarshalPriv e))
    | .ok sk =>
      match S.sign sk msg with
      | none => .ret (.error .signFailed)
      | some sig => .ret (.ok (RawStdEncoding.encodeToString sig))

/-! ## What one call does to the file -/

/-- **`EnsurePQKeypair` writes only a missing file.** It leaves the file as it is, unless it
finds no file and every step succeeds: then it writes what `writeEncryptedPQKeypair` wrote
for the key pair it generated. -/
theorem ensurePQKeypair_file (r : Runtime) (A : Aead) (S : Scheme PK SK) (env : EnsureEnv PK SK)
    (file : Option GoString) :
    (r.ensurePQKeypair A S env file).2 = file ∨
      ∃ pk sk pub priv out, file = none ∧ env.generateKey = .ok (pk, sk) ∧
        S.marshalPub pk = .ok pub ∧ S.marshalPriv sk = .ok priv ∧
        r.writeEncryptedPQKeypair A ⟨pub, priv⟩ env.randDek env.randNonce env.written = .ok out ∧
        r.ensurePQKeypair A S env file = (.ok (), some out) := by
  unfold Runtime.ensurePQKeypair
  rcases hf : readFile file env.statFault with (_ | e) | b
  · obtain rfl : file = none := by
      rcases file with _ | b
      · rfl
      · rcases h : env.statFault <;> simp [readFile, h] at hf
    rcases env.mkdirAll with e | ⟨⟨⟩⟩
    · exact .inl rfl
    rcases hg : env.generateKey with e | ⟨pk, sk⟩
    · exact .inl rfl
    dsimp only
    rcases hp : S.marshalPub pk with e | pub
    · exact .inl rfl
    rcases hq : S.marshalPriv sk with e | priv
    · exact .inl rfl
    dsimp only
    rcases hw : r.writeEncryptedPQKeypair A ⟨pub, priv⟩ env.randDek env.randNonce env.written
      with e | out
    · exact .inl rfl
    · exact .inr ⟨pk, sk, pub, priv, out, rfl, rfl, hp, hq, hw, rfl⟩
  · exact .inl rfl
  · exact .inl rfl

/-! ## The first run -/

/-- **A fresh key file serves the generated key pair.** When `EnsurePQKeypair` finds no
file and writes one, under a valid UTF-8 label, a sealer that unseals what it sealed and an
AEAD whose `Open` inverts `Seal`: `PQPublicKeyB64` reports the public key it generated, and
`SignPQB64` signs with the private key it generated, when the scheme reads back the
private key's encoding. -/
theorem ensure_fresh {r : Runtime} {A : Aead} {S : Scheme PK SK} {env : EnsureEnv PK SK}
    (hvalid : validString r.pqLabel = true)
    (hS : ∀ s blob, r.sealer.sealBlob r.pqLabel s = .ok blob →
      r.sealer.unsealBlob r.pqLabel blob = .ok s)
    (hA : ∀ k n m a, k.length = 32 → n.length = 24 → A.open' k n (A.seal' k n m a) a = some m)
    {pk : PK} {sk : SK} {pub priv : GoString} (hgen : env.generateKey = .ok (pk, sk))
    (hpub : S.marshalPub pk = .ok pub) (hpriv : S.marshalPriv sk = .ok priv)
    (hpub0 : pub ≠ []) (hpriv0 : priv ≠ []) (hround : S.unmarshalPriv priv = .ok sk)
    {out : GoString} (hens : r.ensurePQKeypair A S env none = (.ok (), some out)) :
    r.pqPublicKeyB64 A (.ok out) = .ret (.ok (RawStdEncoding.encodeToString pub)) ∧
      ∀ msg, r.signPQB64 A S msg (.ok out) =
        match S.sign sk msg with
        | none => .ret (.error .signFailed)
        | some sig => .ret (.ok (RawStdEncoding.encodeToString sig)) := by
  obtain h | ⟨pk', sk', pub', priv', out', -, hg, hp, hq, hw, he⟩ :=
    ensurePQKeypair_file r A S env none
  · rw [hens] at h; cases h
  obtain ⟨rfl, rfl⟩ := Prod.mk.inj (Except.ok.inj (hg.symm.trans hgen))
  obtain rfl := Except.ok.inj (hp.symm.trans hpub)
  obtain rfl := Except.ok.inj (hq.symm.trans hpriv)
  obtain rfl : out' = out := Option.some.inj (congrArg Prod.snd (he.symm.trans hens))
  obtain ⟨dek, nonce, sealed, -, hs, -, rfl⟩ := writeEncryptedPQKeypair_ok hw
  have hload : r.loadPQKeypair A (.ok (r.envelope A ⟨pub', priv'⟩ dek.1 nonce.1 sealed).marshalIndent) =
      .ret (.ok ⟨pub', priv'⟩) := by
    rw [Runtime.envelope, loadPQKeypair_envelope, coerce_of_validString hvalid, hS _ _ hs]
    simp only [ne_eq, not_true_eq_false, and_false, if_false, dek.2]
    exact @openPayload_seal A hA dek.1 nonce.1 r.aad dek.2 nonce.2 ⟨pub', priv'⟩ hpub0 hpriv0
  refine ⟨by rw [Runtime.pqPublicKeyB64, hload], fun msg => ?_⟩
  rw [Runtime.signPQB64, hload]
  simp only [hround]

/-- A scheme whose keys are their own encodings and whose signature is the key followed by
the message. -/
def plainScheme : Scheme GoString GoString :=
  ⟨.ok, .ok, .ok, fun sk msg => some (sk ++ msg)⟩

/-- A first run that meets no failure. -/
def cleanEnsure : EnsureEnv GoString GoString :=
  ⟨none, .ok (), .ok (lit "p", lit "s"), .ok dek0, .ok nonce0, .ok ()⟩

theorem ensure_fresh_plain :
    asciiRuntime.pqPublicKeyB64 idAead (.ok (asciiRuntime.envelope idAead ⟨lit "p", lit "s"⟩
        dek0.1 nonce0.1 dek0.1).marshalIndent) = .ret (.ok (RawStdEncoding.encodeToString (lit "p"))) ∧
      ∀ msg, asciiRuntime.signPQB64 idAead plainScheme msg (.ok (asciiRuntime.envelope idAead
          ⟨lit "p", lit "s"⟩ dek0.1 nonce0.1 dek0.1).marshalIndent) =
        .ret (.ok (RawStdEncoding.encodeToString (lit "s" ++ msg))) :=
  @ensure_fresh _ _ asciiRuntime idAead plainScheme cleanEnsure (by decide)
    (fun _ _ h => by cases h; rfl) (fun _ _ _ _ _ _ => rfl) _ _ _ _ rfl rfl rfl (by decide)
    (by decide) rfl _ rfl

end QuantumGoUtils.Cryptoctx
