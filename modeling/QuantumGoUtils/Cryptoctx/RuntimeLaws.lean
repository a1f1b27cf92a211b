import QuantumGoUtils.Cryptoctx.Runtime

/-!
# What the key file guarantees

The envelope and the payload read back through `encoding/json` as they were written, the
label through `coerce`; so loading what `writeEncryptedPQKeypair` wrote comes down to the
label check, the sealer, and `Open` of what `Seal` produced.

## Main results

* `loadPQKeypair_write` — loading the file written under a valid UTF-8 label, by a runtime
  with the same label, absolute path and sealer, returns the key pair.
* `loadPQKeypair_write_invalid_label` — with a label that is not valid UTF-8 the envelope's
  label is read back as another string, and loading the file fails.
* `loadPQKeypair_clearLabels` — the associated data is all that binds the file to a
  runtime: with both label fields cleared, a runtime whose associated data is the same
  loads it.
* `loadPQKeypair_report` — a load of a readable file returns the key pair,
  `ErrCorruptOrTampered`, the envelope's JSON error or an unsupported version (nonces of
  the wrong length left out); `loadPQKeypair_version_two` reports version 2 as such.
-/

namespace QuantumGoUtils.Cryptoctx

open QuantumGoUtils.Go.Strings QuantumGoUtils.Go.Strconv QuantumGoUtils.Go.Base64
open QuantumGoUtils.Go.Unicode QuantumGoUtils.Go.Json QuantumGoUtils.TpmDevice
open QuantumGoUtils.GoTpm.Tpm2 (Outcome)

/-! ## Reading the file format back -/

/-- An envelope of version 1 written member by member, in field order, decodes to the
strings its four other members read as. -/
theorem PqEnvelopeV1.unmarshal_of_readsAs {ta tb tc td a b c d : GoString}
    (ha : ReadsAs ta (.string a)) (hb : ReadsAs tb (.string b)) (hc : ReadsAs tc (.string c))
    (hd : ReadsAs td (.string d)) :
    unmarshal PqEnvelopeV1.fields PqEnvelopeV1.zero (objectIndented [(lit "v", formatInt 1),
      (lit "sealed_dek_b64", ta), (lit "nonce_b64", tb), (lit "ct_b64", tc), (lit "label", td)]) =
      .ok ⟨1, a, b, c, d⟩ := by
  rw [unmarshal_objectIndented PqEnvelopeV1.fields PqEnvelopeV1.zero (by rfl) (by decide)
    (by decide) (.cons readsAs_one (.cons ha (.cons hb (.cons hc (.cons hd .nil))))) (by simp)]
  rfl

/-- A marshalled envelope decodes to its fields, each string read back through `coerce`. -/
theorem PqEnvelopeV1.unmarshal_marshalIndent (a b c d : GoString) :
    unmarshal PqEnvelopeV1.fields PqEnvelopeV1.zero (PqEnvelopeV1.marshalIndent ⟨1, a, b, c, d⟩) =
      .ok ⟨1, coerce a, coerce b, coerce c, coerce d⟩ :=
  PqEnvelopeV1.unmarshal_of_readsAs (readsAs_quote a) (readsAs_quote b) (readsAs_quote c)
    (readsAs_quote d)

/-- A marshalled payload decodes to its two byte slices. -/
theorem PqPayloadV1.unmarshal_marshal (pub priv : GoString) :
    unmarshal PqPayloadV1.fields PqPayloadV1.zero (PqPayloadV1.marshal ⟨pub, priv⟩) = .ok ⟨pub, priv⟩ := by
  have hv : List.Forall₂ (fun m v => ReadsAs m.2 v)
      [(lit "pub", quoteBytes pub), (lit "priv", quoteBytes priv)]
      [.string (StdEncoding.encodeToString pub), .string (StdEncoding.encodeToString priv)] :=
    .cons (readsAs_quoteBytes pub) (.cons (readsAs_quoteBytes priv) .nil)
  rw [PqPayloadV1.marshal, PqPayloadV1.members]
  rw [unmarshal_objectCompact PqPayloadV1.fields PqPayloadV1.zero (by rfl) (by decide)
    (by decide) hv (by simp)]
  simp [applyFields, PqPayloadV1.fields, PqPayloadV1.zero]

/-! ## Writing -/

/-- What `writeEncryptedPQKeypair` wrote: the envelope of its random bytes and of what the
sealer returned. -/
theorem writeEncryptedPQKeypair_ok {r : Runtime} {A : Aead} {kp : PqKeypair}
    {randDek : Except GoString (Bytes 32)} {randNonce : Except GoString (Bytes 24)}
    {written : Except GoString Unit} {out : GoString}
    (h : r.writeEncryptedPQKeypair A kp randDek randNonce written = .ok out) :
    ∃ (dek : Bytes 32) (nonce : Bytes 24) (sealed : GoString), randDek = .ok dek ∧
      r.sealer.sealBlob r.pqLabel dek.1 = .ok sealed ∧ randNonce = .ok nonce ∧
      out = (r.envelope A kp dek.1 nonce.1 sealed).marshalIndent := by
  unfold Runtime.writeEncryptedPQKeypair at h
  rcases randDek with e | dek
  · cases h
  rcases hs : r.sealer.sealBlob r.pqLabel dek.1 with e | sealed <;> simp only [hs] at h
  · cases h
  simp only [newX, dek.2, if_true] at h
  rcases randNonce with e | nonce
  · cases h
  rcases written with e | ⟨⟩
  · cases h
  exact ⟨dek, nonce, sealed, rfl, hs, rfl, (Except.ok.inj h).symm⟩

/-! ## Loading -/

/-- Loading an envelope of base64 fields: the label check, then the sealer, then `Open`. -/
theorem loadPQKeypair_envelope (r : Runtime) (A : Aead) (sealed nonce ct label : GoString) :
    r.loadPQKeypair A (.ok (PqEnvelopeV1.marshalIndent ⟨1, StdEncoding.encodeToString sealed,
      StdEncoding.encodeToString nonce, StdEncoding.encodeToString ct, label⟩)) =
      if coerce label ≠ [] ∧ coerce label ≠ r.pqLabel then .ret (.error .corruptOrTampered)
      else
        match r.sealer.unsealBlob r.pqLabel sealed with
        | .error _ => .ret (.error .corruptOrTampered)
        | .ok dek =>
          if dek.length ≠ 32 then .ret (.error .corruptOrTampered) else openPayload A dek nonce ct r.aad := by
  simp only [Runtime.loadPQKeypair, PqEnvelopeV1.unmarshal_marshalIndent, coerce_encodeToString,
    StdEncoding.decodeString_encodeToString]
  rfl

/-- `Open` of what `Seal` produced under a 32-byte key and a 24-byte nonce gives back the
key pair, when neither half is empty. -/
theorem openPayload_seal {A : Aead}
    (hA : ∀ k n m a, k.length = 32 → n.length = 24 → A.open' k n (A.seal' k n m a) a = some m)
    {dek nonce aad : GoString} (hk : dek.length = 32) (hn : nonce.length = 24) {kp : PqKeypair}
    (hpub : kp.pub ≠ []) (hpriv : kp.priv ≠ []) :
    openPayload A dek nonce (A.seal' dek nonce (PqPayloadV1.marshal ⟨kp.pub, kp.priv⟩) aad) aad =
      .ret (.ok kp) := by
  simp [openPayload, newX, hk, xOpen, hn, hA _ _ _ _ hk hn, PqPayloadV1.unmarshal_marshal, hpub, hpriv]

/-- **PQ envelope round trip.** A file written under a valid UTF-8 label is loaded back as
the key pair by any runtime with the same label, the same absolute path and the same
sealer, when the sealer unseals what it sealed and `Open` inverts `Seal`. -/
theorem loadPQKeypair_write {r r' : Runtime} {A : Aead} {kp : PqKeypair}
    (hpub : kp.pub ≠ []) (hpriv : kp.priv ≠ []) (hvalid : validString r.pqLabel = true)
    (hS : ∀ s blob, r.sealer.sealBlob r.pqLabel s = .ok blob → r.sealer.unsealBlob r.pqLabel blob = .ok s)
    (hA : ∀ k n m a, k.length = 32 → n.length = 24 → A.open' k n (A.seal' k n m a) a = some m)
    (hlabel : r'.pqLabel = r.pqLabel) (habs : r'.absPath.getD r'.pqPath = r.absPath.getD r.pqPath)
    (hsealer : r'.sealer = r.sealer)
    {randDek : Except GoString (Bytes 32)} {randNonce : Except GoString (Bytes 24)}
    {written : Except GoString Unit} {out : GoString}
    (hw : r.writeEncryptedPQKeypair A kp randDek randNonce written = .ok out) :
    r'.loadPQKeypair A (.ok out) = .ret (.ok kp) := by
  obtain ⟨dek, nonce, sealed, -, hs, -, rfl⟩ := writeEncryptedPQKeypair_ok hw
  have haad : r'.aad = r.aad := by rw [Runtime.aad, Runtime.aad, hlabel, habs]
  rw [Runtime.envelope, loadPQKeypair_envelope, coerce_of_validString hvalid, hlabel, hsealer,
    hS _ _ hs, haad]
  simp only [ne_eq, not_true_eq_false, and_false, if_false, dek.2]
  exact openPayload_seal hA dek.2 nonce.2 hpub hpriv

/-- A sealer that returns the secret as the blob. -/
def idSealer : Sealer := ⟨fun _ s => .ok s, fun _ b => .ok b⟩

/-- An AEAD whose ciphertext is the plaintext. -/
def idAead : Aead := ⟨fun _ _ m _ => m, fun _ _ c _ => some c⟩

/-- The data key of the examples. -/
def dek0 : Bytes 32 := ⟨List.replicate 32 7, rfl⟩

/-- The nonce of the examples. -/
def nonce0 : Bytes 24 := ⟨List.replicate 24 9, rfl⟩

/-- The key pair of the examples. -/
def kp0 : PqKeypair := ⟨[1], [2]⟩

/-- A runtime with an ASCII label. -/
def asciiRuntime : Runtime := ⟨idSealer, lit "/k", lit "lab", some (lit "/k")⟩

theorem loadPQKeypair_write_ascii :
    kp0.pub ≠ [] ∧ kp0.priv ≠ [] ∧ validString asciiRuntime.pqLabel = true ∧
      (∀ s blob, asciiRuntime.sealer.sealBlob asciiRuntime.pqLabel s = .ok blob →
        asciiRuntime.sealer.unsealBlob asciiRuntime.pqLabel blob = .ok s) ∧
      (∀ k n m a, k.length = 32 → n.length = 24 → idAead.open' k n (idAead.seal' k n m a) a = some m) ∧
      asciiRuntime.writeEncryptedPQKeypair idAead kp0 (.ok dek0) (.ok nonce0) (.ok ()) =
        .ok (asciiRuntime.envelope idAead kp0 dek0.1 nonce0.1 dek0.1).marshalIndent ∧
      asciiRuntime.loadPQKeypair idAead
        (.ok (asciiRuntime.envelope idAead kp0 dek0.1 nonce0.1 dek0.1).marshalIndent) = .ret (.ok kp0) :=
  have hS : ∀ s blob, asciiRuntime.sealer.sealBlob asciiRuntime.pqLabel s = .ok blob →
      asciiRuntime.sealer.unsealBlob asciiRuntime.pqLabel blob = .ok s := fun _ _ h => h.symm
  have hA : ∀ k n m a, k.length = 32 → n.length = 24 →
      idAead.open' k n (idAead.seal' k n m a) a = some m := fun _ _ _ _ _ _ => rfl
  ⟨by decide, by decide, by decide, hS, hA, rfl,
    loadPQKeypair_write (by decide) (by decide) (by decide) hS hA rfl rfl rfl
      (show asciiRuntime.writeEncryptedPQKeypair idAead kp0 (.ok dek0) (.ok nonce0) (.ok ()) = _ from rfl)⟩

/-- A runtime whose label is the single byte `0xFF`, which starts no UTF-8 sequence. -/
def invalidLabelRuntime : Runtime := ⟨idSealer, lit "/k", [0xFF], some (lit "/k")⟩

theorem loadPQKeypair_write_invalid_label :
    (∀ s blob, invalidLabelRuntime.sealer.sealBlob invalidLabelRuntime.pqLabel s = .ok blob →
        invalidLabelRuntime.sealer.unsealBlob invalidLabelRuntime.pqLabel blob = .ok s) ∧
      (∀ k n m a, k.length = 32 → n.length = 24 → idAead.open' k n (idAead.seal' k n m a) a = some m) ∧
      (invalidLabelRuntime.writeEncryptedPQKeypair idAead kp0 (.ok dek0) (.ok nonce0) (.ok ())).map
          (fun out => invalidLabelRuntime.loadPQKeypair idAead (.ok out)) =
        .ok (.ret (.error .corruptOrTampered)) := by
  refine ⟨fun _ _ h => h.symm, fun _ _ _ _ _ _ => rfl, ?_⟩
  rw [show invalidLabelRuntime.writeEncryptedPQKeypair idAead kp0 (.ok dek0) (.ok nonce0) (.ok ()) =
    .ok (invalidLabelRuntime.envelope idAead kp0 dek0.1 nonce0.1 dek0.1).marshalIndent from rfl]
  simp only [Except.map, Runtime.envelope, loadPQKeypair_envelope]
  rw [if_pos (by decide)]

/-! ## What binds a file to a runtime -/

/-- The file with the envelope's label and the sealed blob's label both cleared: an edit
that no check of the file's integrity sees, as neither label is in the associated data. -/
def clearLabels (file : GoString) : GoString :=
  match unmarshal PqEnvelopeV1.fields PqEnvelopeV1.zero file with
  | .error _ => file
  | .ok env =>
    match StdEncoding.decodeString env.sealedDEKB64 with
    | none => file
    | some sealed =>
      match unmarshal SealedBlobV1.fields SealedBlobV1.zero sealed with
      | .error _ => file
      | .ok sb =>
        let sealed' := SealedBlobV1.marshal { sb with label := [] }
        PqEnvelopeV1.marshalIndent
          { env with sealedDEKB64 := StdEncoding.encodeToString sealed', label := [] }

/-- What `clearLabels` writes for a file whose envelope and sealed blob decode. -/
theorem clearLabels_of_unmarshal {file sealed : GoString} {env : PqEnvelopeV1} {sb : SealedBlobV1}
    (he : unmarshal PqEnvelopeV1.fields PqEnvelopeV1.zero file = .ok env)
    (hd : StdEncoding.decodeString env.sealedDEKB64 = some sealed)
    (hs : unmarshal SealedBlobV1.fields SealedBlobV1.zero sealed = .ok sb) :
    clearLabels file = PqEnvelopeV1.marshalIndent { env with
      sealedDEKB64 := StdEncoding.encodeToString (SealedBlobV1.marshal { sb with label := [] }),
      label := [] } := by
  rw [clearLabels, he]
  simp only [hd, hs]

/-- Clearing the labels of an envelope of a `tpm2Sealer` blob. -/
theorem clearLabels_envelope (nonce ct label label' priv pub : GoString) :
    clearLabels (PqEnvelopeV1.marshalIndent ⟨1,
      StdEncoding.encodeToString (SealedBlobV1.marshal ⟨1, label', priv, pub⟩),
      StdEncoding.encodeToString nonce, StdEncoding.encodeToString ct, label⟩) =
    PqEnvelopeV1.marshalIndent ⟨1,
      StdEncoding.encodeToString (SealedBlobV1.marshal ⟨1, [], priv, pub⟩),
      StdEncoding.encodeToString nonce, StdEncoding.encodeToString ct, []⟩ := by
  rw [clearLabels_of_unmarshal (PqEnvelopeV1.unmarshal_marshalIndent _ _ _ _)
    (by rw [coerce_encodeToString, StdEncoding.decodeString_encodeToString])
    (SealedBlobV1.unmarshal_marshal _ _ _)]
  simp only [coerce_encodeToString]

/-- **Only the associated data binds the file.** With both labels cleared, the file a
`tpm2Sealer` runtime wrote is loaded, as the key pair it holds, by any runtime on the same
TPM whose associated data is the same, whatever its label and path. -/
theorem loadPQKeypair_clearLabels {T : SealingTpm}
    (hT : ∀ s priv pub, T.create s = .ok (priv, pub) → T.load priv pub = .ok s) {A : Aead}
    (hA : ∀ k n m a, k.length = 32 → n.length = 24 → A.open' k n (A.seal' k n m a) a = some m)
    {r r' : Runtime} (hs : r.sealer = tpm2Sealer T) (hs' : r'.sealer = tpm2Sealer T)
    (haad : r'.aad = r.aad) {kp : PqKeypair} (hpub : kp.pub ≠ []) (hpriv : kp.priv ≠ [])
    {randDek : Except GoString (Bytes 32)} {randNonce : Except GoString (Bytes 24)}
    {written : Except GoString Unit} {out : GoString}
    (hw : r.writeEncryptedPQKeypair A kp randDek randNonce written = .ok out) :
    r'.loadPQKeypair A (.ok (clearLabels out)) = .ret (.ok kp) := by
  obtain ⟨dek, nonce, sealed, -, hseal, -, rfl⟩ := writeEncryptedPQKeypair_ok hw
  rw [hs] at hseal
  obtain ⟨priv, pub, hc, rfl⟩ := tpm2Seal_ok hseal
  rw [Runtime.envelope, clearLabels_envelope, loadPQKeypair_envelope, hs', tpm2Sealer_unseal_relabel,
    hT _ _ _ hc, haad]
  simp only [show coerce [] = [] from rfl, ne_eq, not_true_eq_false, false_and, if_false, dek.2]
  exact openPayload_seal hA dek.2 nonce.2 hpub hpriv

/-- A TPM that seals a secret as its own private blob. -/
def echoTpm : SealingTpm := ⟨fun s => .ok (s, []), fun priv _ => .ok priv⟩

/-- The runtime with label `lab` whose key file is `/x|/y`. -/
def pipePathRuntime : Runtime := ⟨tpm2Sealer echoTpm, lit "/x|/y", lit "lab", some (lit "/x|/y")⟩

/-- The runtime with label `lab|/x` whose key file is `/y`. -/
def pipeLabelRuntime : Runtime := ⟨tpm2Sealer echoTpm, lit "/y", lit "lab|/x", some (lit "/y")⟩

theorem loadPQKeypair_clearLabels_pipe :
    (pipeLabelRuntime.pqLabel, pipeLabelRuntime.absPath) ≠
        (pipePathRuntime.pqLabel, pipePathRuntime.absPath) ∧
      (∀ s priv pub, echoTpm.create s = .ok (priv, pub) → echoTpm.load priv pub = .ok s) ∧
      (∀ k n m a, k.length = 32 → n.length = 24 → idAead.open' k n (idAead.seal' k n m a) a = some m) ∧
      pipeLabelRuntime.aad = pipePathRuntime.aad ∧
      pipePathRuntime.writeEncryptedPQKeypair idAead kp0 (.ok dek0) (.ok nonce0) (.ok ()) =
        .ok (pipePathRuntime.envelope idAead kp0 dek0.1 nonce0.1
          (SealedBlobV1.marshal ⟨1, lit "lab", dek0.1, []⟩)).marshalIndent ∧
      pipeLabelRuntime.loadPQKeypair idAead (.ok (clearLabels (pipePathRuntime.envelope idAead kp0
        dek0.1 nonce0.1 (SealedBlobV1.marshal ⟨1, lit "lab", dek0.1, []⟩)).marshalIndent)) =
        .ret (.ok kp0) :=
  have hT : ∀ s priv pub, echoTpm.create s = .ok (priv, pub) → echoTpm.load priv pub = .ok s :=
    fun _ _ _ h => by cases h; rfl
  have hA : ∀ k n m a, k.length = 32 → n.length = 24 →
      idAead.open' k n (idAead.seal' k n m a) a = some m := fun _ _ _ _ _ _ => rfl
  ⟨by decide, hT, hA, by decide, rfl,
    loadPQKeypair_clearLabels hT hA rfl rfl (by decide) (by decide) (by decide)
      (show pipePathRuntime.writeEncryptedPQKeypair idAead kp0 (.ok dek0) (.ok nonce0) (.ok ()) = _
        from rfl)⟩

/-! ## What a failed load reports

Once the file is read, most failures are `ErrCorruptOrTampered`, but not all: the
envelope's JSON errors and a version other than 1 are returned with their own messages.
`NewX` cannot fail, the data key having been checked to be 32 bytes long. A nonce that
decodes to a length other than 24 bytes makes `Open` panic; the laws below leave that
case out.
-/

/-- How a load after reading the file may end: the key pair with both halves non-empty,
`ErrCorruptOrTampered`, the envelope's JSON error, or an unsupported version. -/
def LoadReport (res : Except LoadError PqKeypair) : Prop :=
  (∃ kp, res = .ok kp ∧ kp.pub ≠ [] ∧ kp.priv ≠ []) ∨ res = .error .corruptOrTampered ∨
    (∃ e, res = .error (.unmarshalEnvelope e)) ∨ ∃ v, v ≠ 1 ∧ res = .error (.unsupportedVersion v)

/-- With a 32-byte key and a 24-byte nonce the steps after unsealing return the key pair
or `ErrCorruptOrTampered`. -/
theorem openPayload_report {dek nonce : GoString} (A : Aead) (ct aad : GoString)
    (hdek : dek.length = 32) (hnonce : nonce.length = 24) :
    ∃ res, openPayload A dek nonce ct aad = .ret res ∧
      ((∃ kp, res = .ok kp ∧ kp.pub ≠ [] ∧ kp.priv ≠ []) ∨ res = .error .corruptOrTampered) := by
  simp only [openPayload, newX, if_pos hdek, xOpen, hnonce, ne_eq, not_true_eq_false, if_false]
  rcases A.open' dek nonce ct aad with _ | plain
  · exact ⟨_, rfl, .inr rfl⟩
  · dsimp only
    rcases unmarshal PqPayloadV1.fields PqPayloadV1.zero plain with _ | p
    · exact ⟨_, rfl, .inr rfl⟩
    · dsimp only
      split_ifs with h
      · exact ⟨_, rfl, .inr rfl⟩
      · exact ⟨_, rfl, .inl ⟨_, rfl, by simpa [not_or] using h⟩⟩

/-- **Load failures, with the nonce's length left out.** For every content of a readable key
file whose `nonce_b64`, in an envelope of version 1, decodes only to 24 bytes, and every
sealer and AEAD, `loadPQKeypair` returns a `LoadReport`: besides the key pair and
`ErrCorruptOrTampered`, the envelope's JSON error and an unsupported version are reported
as such. -/
theorem loadPQKeypair_report (r : Runtime) (A : Aead) (b : GoString)
    (hnonce : ∀ env, unmarshal PqEnvelopeV1.fields PqEnvelopeV1.zero b = .ok env → env.v = 1 →
      ∀ nonce, StdEncoding.decodeString env.nonceB64 = some nonce → nonce.length = 24) :
    ∃ res, r.loadPQKeypair A (.ok b) = .ret res ∧ LoadReport res := by
  unfold Runtime.loadPQKeypair LoadReport
  dsimp only
  rcases henv : unmarshal PqEnvelopeV1.fields PqEnvelopeV1.zero b with e | env
  · exact ⟨_, rfl, .inr (.inr (.inl ⟨e, rfl⟩))⟩
  dsimp only
  by_cases hv : env.v ≠ 1
  · exact ⟨_, if_pos hv, .inr (.inr (.inr ⟨_, hv, rfl⟩))⟩
  rw [if_neg hv]
  split_ifs
  · exact ⟨_, rfl, .inr (.inl rfl)⟩
  rcases StdEncoding.decodeString env.sealedDEKB64 with _ | sealed
  · exact ⟨_, rfl, .inr (.inl rfl)⟩
  rcases hn : StdEncoding.decodeString env.nonceB64 with _ | nonce
  · exact ⟨_, rfl, .inr (.inl rfl)⟩
  rcases StdEncoding.decodeString env.ctB64 with _ | ct
  · exact ⟨_, rfl, .inr (.inl rfl)⟩
  dsimp only
  rcases r.sealer.unsealBlob r.pqLabel sealed with _ | dek
  · exact ⟨_, rfl, .inr (.inl rfl)⟩
  dsimp only
  split_ifs with hdek
  · exact ⟨_, rfl, .inr (.inl rfl)⟩
  obtain ⟨res, hres, hr⟩ := openPayload_report A ct r.aad (not_not.mp hdek)
    (hnonce env henv (not_not.mp hv) nonce hn)
  exact ⟨res, hres, hr.imp_right .inl⟩

/-- The file written for `kp0`: an envelope of version 1 whose `nonce_b64` decodes to the
24 bytes of `nonce0`, loaded through the sealer, the data key's length check and `Open`. -/
theorem loadPQKeypair_report_written :
    (∀ env, unmarshal PqEnvelopeV1.fields PqEnvelopeV1.zero
        (asciiRuntime.envelope idAead kp0 dek0.1 nonce0.1 dek0.1).marshalIndent = .ok env →
      env.v = 1 → ∀ nonce, StdEncoding.decodeString env.nonceB64 = some nonce →
        nonce.length = 24) ∧
    ∃ res, asciiRuntime.loadPQKeypair idAead
      (.ok (asciiRuntime.envelope idAead kp0 dek0.1 nonce0.1 dek0.1).marshalIndent) = .ret res ∧
      LoadReport res :=
  have h : ∀ env, unmarshal PqEnvelopeV1.fields PqEnvelopeV1.zero
      (asciiRuntime.envelope idAead kp0 dek0.1 nonce0.1 dek0.1).marshalIndent = .ok env →
      env.v = 1 → ∀ nonce, StdEncoding.decodeString env.nonceB64 = some nonce →
        nonce.length = 24 := by
    intro env henv _ nonce hn
    rw [Runtime.envelope, PqEnvelopeV1.unmarshal_marshalIndent] at henv
    cases henv
    simp only [coerce_encodeToString, StdEncoding.decodeString_encodeToString,
      Option.some.injEq] at hn
    exact hn ▸ nonce0.2
  ⟨h, loadPQKeypair_report asciiRuntime idAead _ h⟩

/-- An envelope of version 2 is reported as unsupported, not as corrupt or tampered, by
every runtime and AEAD. -/
theorem loadPQKeypair_of_version_two (r : Runtime) (A : Aead) :
    r.loadPQKeypair A (.ok (lit "\x7b\"v\":2\x7d")) = .ret (.error (.unsupportedVersion 2)) := by
  have h : unmarshal PqEnvelopeV1.fields PqEnvelopeV1.zero (lit "\x7b\"v\":2\x7d") =
      .ok ⟨2, [], [], [], []⟩ := by
    decide
  simp only [Runtime.loadPQKeypair, h]
  rfl

/-- The file `{"v":2}`, loaded by the ASCII-labelled runtime. -/
theorem loadPQKeypair_version_two :
    asciiRuntime.loadPQKeypair idAead (.ok (lit "\x7b\"v\":2\x7d")) =
      .ret (.error (.unsupportedVersion 2)) :=
  loadPQKeypair_of_version_two asciiRuntime idAead

end QuantumGoUtils.Cryptoctx
