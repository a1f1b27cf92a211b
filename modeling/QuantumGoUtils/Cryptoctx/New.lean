import QuantumGoUtils.Cryptoctx.Store
import QuantumGoUtils.TpmDevice.DeviceLaws

/-!
# Building the runtime (`cryptoctx.New`)

`New` looks up the post-quantum scheme, opens the TPM signing client with
`tpmdevice.NewWithConfig`, refuses a client without a public key, settles the key file's
path and requires a label, builds the runtime over `tpmdevice.NewSealer`, and ends with
`EnsurePQKeypair`; after the client is open, every failure closes it again.

It runs on the TPM world of `GoTpm.Tpm2` and on the key file of `Cryptoctx.Store`. What it
meets besides them (the scheme table of CIRCL, `os.UserConfigDir`, the sealer, `filepath.Abs`
and what `EnsurePQKeypair` meets) is a `NewEnv`. `Config.Now` is kept by the runtime for
later use and changes nothing `New` does; it is left out.

## Main results

* `newWithConfig_ok` — every client `NewWithConfig` returns holds a 65-byte public key and
  its base64, and one more open connection.
* `new_outcome` — `New` never fails with `ErrMissingTPMPublicKey`; when it fails it leaves
  the TPM with the connections it found and the key file as it was, and when it succeeds it
  holds one more connection and the key file exists.
-/

namespace QuantumGoUtils.TpmDevice

open QuantumGoUtils.Go.Strings QuantumGoUtils.Go.Base64 QuantumGoUtils.GoTpm.Tpm2

/-! ## The clients `NewWithConfig` returns -/

/-- Base64 of a non-empty string is non-empty. -/
theorem encode_ne_nil {padded : Bool} : ∀ {s : GoString}, s ≠ [] → encode padded s ≠ []
  | _ :: _ :: _ :: _, _ => by simp [encode, encodeQuantum]
  | [_, _], _ => by simp [encode, encodeQuantum]
  | [_], _ => by simp [encode, encodeQuantum]
  | [], h => absurd rfl h

/-- A client as `NewWithConfig` builds it: a 65-byte public key, and that key in base64. -/
structure ClientOk (c : Client) : Prop where
  pub_length : c.pub.length = 65
  pubB64_eq : c.pubB64 = RawStdEncoding.encodeToString c.pub

theorem length_of_copyPadded {b u : GoString} (h : copyPadded b = .ret u) : u.length = 32 := by
  unfold copyPadded at h
  split_ifs at h with hb
  · cases h
    simp only [List.length_append, List.length_replicate]
    omega

theorem length_of_uncompressedFromECDSA {x y : Nat} {u : GoString}
    (h : uncompressedFromECDSA x y = .ret u) : u.length = 65 := by
  unfold uncompressedFromECDSA at h
  rcases hx : copyPadded (natBytes x) with xp | m <;>
    rcases hy : copyPadded (natBytes y) with yp | m' <;> rw [hx, hy] at h <;> cases h
  simp only [List.length_append, List.length_singleton, length_of_copyPadded hx,
    length_of_copyPadded hy]

theorem length_of_publicToUncompressed {p : Public} {u : GoString}
    (h : publicToUncompressed p = .ret (.ok u)) : u.length = 65 := by
  unfold publicToUncompressed at h
  split at h
  · cases h
  · cases h
  · rename_i x y _
    rcases hu : uncompressedFromECDSA x y with u' | m <;> simp only [hu] at h <;> cases h
    exact length_of_uncompressedFromECDSA hu

theorem clientOk_of_publicToUncompressed {p : Public} {u : GoString} (h : Handle)
    (hu : publicToUncompressed p = .ret (.ok u)) : ClientOk (newClient h u) :=
  ⟨length_of_publicToUncompressed hu, rfl⟩

theorem createAndPersistAt_pub {cfg : Config} {h : Handle} {w w' : World} {c : Client}
    (hr : createAndPersistAt cfg h w = (.ret (.ok c), w')) : ClientOk c := by
  obtain ⟨-, -, ⟨u, hu, hp, -⟩ | ⟨⟨e, he⟩, -⟩⟩ := createAndPersistAt_spec hr
  · cases hu
    exact clientOk_of_publicToUncompressed h hp
  · cases he

theorem openOrCreateAtHandle_pub {cfg : Config} {h : Handle} {w w' : World} {c : Client}
    (hr : openOrCreateAtHandle cfg h w = (.ret (.ok c), w')) : ClientOk c := by
  unfold openOrCreateAtHandle at hr
  cases hf : cfg.forceNew
  · simp only [hf, Bool.false_eq_true, if_false, bind_apply] at hr
    rcases h1 : readPublic h w with ⟨(e | p) | m, w1⟩ <;>
      simp only [h1, bind_apply, liftOutcome] at hr
    · split at hr
      · cases hr
      · exact createAndPersistAt_pub hr
    · rcases h2 : publicToUncompressed p with (e | u) | m <;>
        simp only [h2, pure_apply] at hr <;> cases hr
      exact clientOk_of_publicToUncompressed h h2
    · cases hr
  · simp only [hf, if_true, bind_apply] at hr
    rcases h1 : evictControl cfg.ownerAuth h h w with ⟨r | m, w1⟩ <;> simp only [h1] at hr
    · exact createAndPersistAt_pub hr
    · cases hr

theorem scan_pub {cfg : Config} : ∀ (hs : List Handle) {fe : Option Handle} {w w' : World}
    {c : Client}, scan cfg hs fe w = (.ret (.returned (.ok c)), w') → ClientOk c
  | [], _, _, _, _, hr => by cases hr
  | h :: hs, fe, w, w', c, hr => by
    simp only [scan, bind_apply] at hr
    rcases h1 : readPublic h w with ⟨(e | p) | m, w1⟩ <;>
      simp only [h1, bind_apply, liftOutcome] at hr
    · split at hr
      · exact scan_pub hs hr
      · cases hr
    · rcases h2 : publicToUncompressed p with (e | u) | m <;> simp only [h2, pure_apply] at hr
      · split at hr
        · simp only [bind_apply] at hr
          rcases h3 : evictControl cfg.ownerAuth h h w1 with ⟨r | m, w3⟩ <;>
            simp only [h3, bind_apply] at hr
          · rcases h4 : createAndPersistAt cfg h w3 with ⟨r | m, w4⟩ <;>
              simp only [h4, pure_apply] at hr <;> cases hr
            exact createAndPersistAt_pub h4
          · cases hr
        · exact scan_pub hs hr
      · cases hr
        exact clientOk_of_publicToUncompressed h h2
      · cases hr
    · cases hr

theorem pickOrCreateHandle_pub {cfg : Config} {start : Handle} {count : UInt32} {w w' : World}
    {c : Client} (hr : pickOrCreateHandle cfg start count w = (.ret (.ok c), w')) :
    ClientOk c := by
  simp only [pickOrCreateHandle, bind_apply] at hr
  rcases h1 : scan cfg (scanHandles start count) none w with ⟨(r | _ | h) | m, w1⟩ <;>
    simp only [h1, pure_apply] at hr
  · cases hr
    exact scan_pub _ h1
  · cases hr
  · exact createAndPersistAt_pub hr
  · cases hr

/-- **What `NewWithConfig` returns.** Every client it returns holds a 65-byte public key and
its base64, and the device stays open for it: one connection more than before. -/
theorem newWithConfig_ok {cfg : Config} {w w' : World} {c : Client}
    (hr : newWithConfig cfg w = (.ret (.ok c), w')) :
    ClientOk c ∧ w'.tpm.conns = w.tpm.conns + 1 := by
  simp only [newWithConfig, bind_apply] at hr
  obtain ⟨w1, -, ⟨e, he, -⟩ | ⟨he, ht1, -⟩⟩ := openTPM_cases w <;> rw [he] at hr
  · cases hr
  have hc1 : w1.tpm.conns = w.tpm.conns + 1 := by rw [ht1]
  simp only at hr
  split at hr
  · rcases h2 : openOrCreateAtHandle cfg cfg.handle w1 with ⟨(e | c2) | m, w2⟩ <;>
      simp only [h2, bind_apply, pure_apply] at hr <;> cases hr
    exact ⟨openOrCreateAtHandle_pub h2, (openOrCreateAtHandle_spec h2).1.2.1.trans hc1⟩
  · rcases h2 : pickOrCreateHandle cfg
        (if cfg.handleStart = 0 then defaultHandleStart else cfg.handleStart)
        (if cfg.handleCount = 0 then defaultHandleCount else cfg.handleCount) w1 with
      ⟨(e | c2) | m, w2⟩ <;>
      simp only [h2, bind_apply, pure_apply] at hr <;> cases hr
    exact ⟨pickOrCreateHandle_pub h2, (pickOrCreateHandle_spec h2).1.2.1.trans hc1⟩

end QuantumGoUtils.TpmDevice

namespace QuantumGoUtils.Cryptoctx

open QuantumGoUtils.Go.Strings QuantumGoUtils.TpmDevice QuantumGoUtils.GoTpm.Tpm2

variable {PK SK : Type}

/-! ## `New` -/

/-- `Config` of the runtime, by the fields `New` reads. -/
structure RuntimeConfig where
  tpm : TpmDevice.Config
  ownerAuth : GoString
  pqKeyFilePath : GoString
  pqLabel : GoString
  pqSchemeName : GoString

/-- What `New` meets besides the TPM and the key file. -/
structure NewEnv (PK SK : Type) where
  /-- `schemes.ByName`. -/
  byName : GoString → Option (Scheme PK SK)
  /-- What `defaultPQPath` returns: the file under `os.UserConfigDir()`, or
  "cryptoctx: UserConfigDir: %w". -/
  defaultPQPath : Except GoString GoString
  /-- `tpmdevice.NewSealer(ownerAuth)`. -/
  newSealer : GoString → Sealer
  /-- `filepath.Abs`, when it succeeds. -/
  abs : GoString → Option GoString
  /-- What `EnsurePQKeypair` meets besides the file. -/
  ensure : EnsureEnv PK SK

/-- Why `New` fails. -/
inductive NewError where
  /-- "cryptoctx: PQ scheme %q not found" -/
  | schemeNotFound (name : GoString)
  /-- The error of `NewWithConfig`, returned as it is. -/
  | device (e : DeviceError)
  /-- `ErrMissingTPMPublicKey`, "cryptoctx: TPM public key missing". -/
  | missingTPMPublicKey
  /-- The error of `defaultPQPath`, returned as it is. -/
  | defaultPQPath (e : GoString)
  /-- "cryptoctx: PQLabel is required" -/
  | labelRequired
  /-- The error of `EnsurePQKeypair`, returned as it is. -/
  | ensure (e : EnsureError)
  deriving DecidableEq, Repr

/-- `New` on the TPM, with `file` the key file at the path it settles on: the runtime and
the TPM client, or an error, and the key file after it. `tpmClient.Close()` and
`rt.Close()` close the device. -/
def new (A : Aead) (cfg : RuntimeConfig) (env : NewEnv PK SK) (file : Option GoString) :
    TpmM (Except NewError (Runtime × Client) × Option GoString) := do
  let schemeName := if cfg.pqSchemeName = [] then lit "ML-DSA-65" else cfg.pqSchemeName
  match env.byName schemeName with
  | none => return (.error (.schemeNotFound schemeName), file)
  | some S =>
    match ← newWithConfig cfg.tpm with
    | .error e => return (.error (.device e), file)
    | .ok tpmClient =>
      if tpmClient.pubB64 = [] then
        closeTPM
        return (.error .missingTPMPublicKey, file)
      else
        match (if cfg.pqKeyFilePath = [] then env.defaultPQPath else .ok cfg.pqKeyFilePath) with
        | .error e =>
          closeTPM
          return (.error (.defaultPQPath e), file)
        | .ok pqPath =>
          if cfg.pqLabel = [] then
            closeTPM
            return (.error .labelRequired, file)
          else
            let rt : Runtime := ⟨env.newSealer cfg.ownerAuth, pqPath, cfg.pqLabel, env.abs pqPath⟩
            match rt.ensurePQKeypair A S env.ensure file with
            | (.error e, file') =>
              closeTPM
              return (.error (.ensure e), file')
            | (.ok (), file') => return (.ok (rt, tpmClient), file')

/-- A failed `EnsurePQKeypair` leaves the key file as it was. -/
theorem ensurePQKeypair_error_file {r : Runtime} {A : Aead} {S : Scheme PK SK}
    {env : EnsureEnv PK SK} {file : Option GoString} {e : EnsureError}
    (h : (r.ensurePQKeypair A S env file).1 = .error e) : (r.ensurePQKeypair A S env file).2 = file := by
  rcases ensurePQKeypair_file r A S env file with h' | ⟨_, _, _, _, _, -, -, -, -, -, he⟩
  · exact h'
  · rw [he] at h; cases h

/-- A successful `EnsurePQKeypair` leaves a key file. -/
theorem ensurePQKeypair_ok_file {r : Runtime} {A : Aead} {S : Scheme PK SK}
    {env : EnsureEnv PK SK} {file : Option GoString}
    (h : (r.ensurePQKeypair A S env file).1 = .ok ()) :
    (r.ensurePQKeypair A S env file).2 ≠ none := by
  revert h
  unfold Runtime.ensurePQKeypair
  rcases hf : readFile file env.statFault with (_ | e) | b
  · obtain rfl : file = none := by
      rcases file with _ | b
      · rfl
      · rcases hs : env.statFault <;> simp [readFile, hs] at hf
    rcases env.mkdirAll with e | ⟨⟨⟩⟩
    · nofun
    rcases env.generateKey with e | ⟨pk, sk⟩
    · nofun
    dsimp only
    rcases S.marshalPub pk with e | pub
    · nofun
    rcases S.marshalPriv sk with e | priv
    · nofun
    dsimp only
    rcases r.writeEncryptedPQKeypair A ⟨pub, priv⟩ env.randDek env.randNonce env.written
      with e | out
    · nofun
    · exact fun _ => Option.some_ne_none out
  · nofun
  · intro _
    rcases file with _ | b'
    · rcases hs : env.statFault <;> simp [readFile, hs] at hf
    · exact Option.some_ne_none b'

/-- **What `New` leaves behind.** For every TPM world and every key file, when `New`
returns: it never fails with `ErrMissingTPMPublicKey`, the TPM client's public key having
65 bytes; when it fails, the TPM has the connections it had before and the key file is as
it was; when it succeeds, the TPM has one more connection, held by the client, and the key
file exists. -/
theorem new_outcome (A : Aead) (cfg : RuntimeConfig) (env : NewEnv PK SK)
    (file : Option GoString) {w w' : World} {res : Except NewError (Runtime × Client)}
    {file' : Option GoString} (hr : new A cfg env file w = (.ret (res, file'), w')) :
    (∀ e, res = .error e → e ≠ .missingTPMPublicKey ∧ w'.tpm.conns = w.tpm.conns ∧
      file' = file) ∧
    ∀ rt c, res = .ok (rt, c) → ClientOk c ∧ w'.tpm.conns = w.tpm.conns + 1 ∧
      file' ≠ none := by
  simp only [new] at hr
  rcases hS : env.byName (if cfg.pqSchemeName = [] then lit "ML-DSA-65" else cfg.pqSchemeName)
    with _ | S <;> simp only [hS, bind_apply, pure_apply] at hr
  · cases hr
    exact ⟨fun e he => ⟨by cases he; nofun, rfl, rfl⟩, fun _ _ h => nomatch h⟩
  rcases h1 : newWithConfig cfg.tpm w with ⟨(e | c) | m, w1⟩ <;> simp only [h1] at hr
  · cases hr
    have hc := (newWithConfig_spec h1).2.2.2 e rfl
    exact ⟨fun e' he => ⟨by cases he; nofun, hc, rfl⟩, fun _ _ h => nomatch h⟩
  · obtain ⟨hok, hc⟩ := newWithConfig_ok h1
    have hb64 : c.pubB64 ≠ [] := by
      rw [hok.pubB64_eq]
      exact encode_ne_nil fun h => by simpa [h] using hok.pub_length
    have hclosed : ({ w1 with tpm := { w1.tpm with conns := w1.tpm.conns - 1 } } : World).tpm.conns =
        w.tpm.conns := by
      show w1.tpm.conns - 1 = w.tpm.conns
      omega
    rw [if_neg hb64] at hr
    rcases hp : (if cfg.pqKeyFilePath = [] then env.defaultPQPath else .ok cfg.pqKeyFilePath)
      with e | pqPath <;> simp only [hp, closeTPM, bind_apply, pure_apply] at hr
    · cases hr
      exact ⟨fun e' he => ⟨by cases he; nofun, hclosed, rfl⟩, fun _ _ h => nomatch h⟩
    split_ifs at hr
    · simp only [closeTPM, bind_apply, pure_apply] at hr
      cases hr
      exact ⟨fun e' he => ⟨by cases he; nofun, hclosed, rfl⟩, fun _ _ h => nomatch h⟩
    rcases he : Runtime.ensurePQKeypair ⟨env.newSealer cfg.ownerAuth, pqPath, cfg.pqLabel,
      env.abs pqPath⟩ A S env.ensure file with ⟨e | ⟨⟩, f⟩ <;>
      simp only [he, closeTPM, bind_apply, pure_apply] at hr <;> cases hr
    · refine ⟨fun e' h => ⟨by cases h; nofun, hclosed, ?_⟩, fun _ _ h => nomatch h⟩
      have := ensurePQKeypair_error_file (by rw [he])
      rwa [he] at this
    · refine ⟨fun _ h => (nomatch h), fun _ _ h => ?_⟩
      cases h
      refine ⟨hok, hc, ?_⟩
      have := ensurePQKeypair_ok_file (by rw [he])
      rwa [he] at this
  · cases hr

/-- Every name finds `plainScheme`; the key file goes to `pq.json`. -/
def plainEnv : NewEnv GoString GoString :=
  ⟨fun _ => some plainScheme, .ok (lit "pq.json"), fun _ => idSealer, some, cleanEnsure⟩

/-- `New` on the fresh TPM of the device laws, with no key file: the TPM opens, the storage
key is created at the first handle, the key file is written, and `New` returns the runtime
and the client. -/
theorem new_outcome_fresh :
    ∃ rt c file' w', new idAead ⟨zeroConfig, [], [], lit "lab", []⟩ plainEnv none
        (⟨freshTpm, [], []⟩ : World) = (.ret (.ok (rt, c), file'), w') ∧
      (∀ e, (.ok (rt, c) : Except NewError (Runtime × Client)) = .error e →
          e ≠ .missingTPMPublicKey ∧ w'.tpm.conns = freshTpm.conns ∧ file' = none) ∧
      ∀ rt' c', (.ok (rt, c) : Except NewError (Runtime × Client)) = .ok (rt', c') →
        ClientOk c' ∧ w'.tpm.conns = freshTpm.conns + 1 ∧ file' ≠ none := by
  have hok : (fun o : Outcome (Except NewError (Runtime × Client) × Option GoString) =>
      match o with | .ret (.ok _, _) => true | _ => false)
      (new idAead ⟨zeroConfig, [], [], lit "lab", []⟩ plainEnv none (⟨freshTpm, [], []⟩ : World)).1 =
        true := by
    decide
  rcases hn : new idAead ⟨zeroConfig, [], [], lit "lab", []⟩ plainEnv none (⟨freshTpm, [], []⟩ : World)
    with ⟨⟨_ | ⟨rt, c⟩, file'⟩ | _, w'⟩ <;> rw [hn] at hok
  · cases hok
  · exact ⟨rt, c, file', w', rfl, new_outcome idAead _ plainEnv none hn⟩
  · cases hok

end QuantumGoUtils.Cryptoctx
