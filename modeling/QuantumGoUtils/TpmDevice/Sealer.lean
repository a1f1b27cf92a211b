import QuantumGoUtils.Go.JsonLaws

/-!
# Sealing a secret to the TPM (`tpmdevice/sealer.go`, `tpm2Sealer`)

`Sealer` is the interface the key-file code protects its data key with. `tpm2Sealer`
creates a sealed data object under the primary storage key and returns its private and
public blobs, with the caller's label, as the JSON of `sealedBlobV1`; `Unseal` parses that
JSON, checks the version and the label (an empty label is accepted for any caller), loads
the object and unseals it.

The TPM side is `SealingTpm`: what `openTPM`, `createPrimaryStorageKey` and
`CreateKeyWithSensitive` return for a secret, and what `Load` and `Unseal` return for a
pair of blobs. In `Unseal`, `openTPM` runs before the blob is parsed; an error there is an
error of `load` here, which changes which message is returned and nothing else. Errors
carry their message; the wrapped library errors are left out.

## Main results

* `tpm2Sealer_unseal_seal` — a blob sealed under a valid UTF-8 label unseals under that
  label to the secret, when the TPM gives back what it sealed.
* `tpm2Sealer_unseal_relabel` — the label in the blob is not bound to the TPM object:
  with the label cleared, the blob unseals under every label.
* `tpm2Unseal_sealedOnce` — over a TPM ideal after sealing one secret, a blob unseals
  exactly when `json.Unmarshal` reads it as the sealed object's blobs (`unsealsAs`), which
  other bytes than the sealed blob's can do.
-/

namespace QuantumGoUtils.TpmDevice

open QuantumGoUtils.Go.Strings QuantumGoUtils.Go.Strconv QuantumGoUtils.Go.Base64
open QuantumGoUtils.Go.Unicode QuantumGoUtils.Go.Json

/-- `Sealer`: `Seal(label, secret)` and `Unseal(label, blob)`. -/
structure Sealer where
  sealBlob : GoString → GoString → Except GoString GoString
  unsealBlob : GoString → GoString → Except GoString GoString

/-- `sealedBlobV1`. -/
structure SealedBlobV1 where
  v : Int
  label : GoString
  priv : GoString
  pub : GoString
  deriving DecidableEq, Repr

/-- The zero `sealedBlobV1` that `Unseal` decodes into. -/
def SealedBlobV1.zero : SealedBlobV1 := ⟨0, [], [], []⟩

/-- The members `json.Marshal` writes, in field order. -/
def SealedBlobV1.members (b : SealedBlobV1) : List (GoString × GoString) :=
  [(lit "v", formatInt b.v), (lit "label", quote b.label), (lit "priv", quoteBytes b.priv),
    (lit "pub", quoteBytes b.pub)]

/-- `json.Marshal(sealedBlobV1{...})`. -/
def SealedBlobV1.marshal (b : SealedBlobV1) : GoString := objectCompact b.members

/-- The fields `json.Unmarshal` fills, by their JSON names. -/
def SealedBlobV1.fields : List (GoString × FieldDecoder SealedBlobV1) :=
  [(lit "v", intField fun b n => { b with v := n }),
    (lit "label", stringField fun b s => { b with label := s }),
    (lit "priv", bytesField fun b s => { b with priv := s }),
    (lit "pub", bytesField fun b s => { b with pub := s })]

/-- The TPM as `tpm2Sealer` reaches it. -/
structure SealingTpm where
  /-- `openTPM`, `createPrimaryStorageKey` and `CreateKeyWithSensitive`: the private and
  public blobs of a sealed object holding the secret. -/
  create : GoString → Except GoString (GoString × GoString)
  /-- `openTPM`, `createPrimaryStorageKey`, `Load` and `Unseal`: the secret of the sealed
  object with these private and public blobs. -/
  load : GoString → GoString → Except GoString GoString

/-- `tpm2Sealer.Seal`. -/
def tpm2Seal (T : SealingTpm) (label secret : GoString) : Except GoString GoString :=
  if secret = [] then .error (lit "tpmdevice: secret empty")
  else
    match T.create secret with
    | .error e => .error e
    | .ok (priv, pub) => .ok (SealedBlobV1.marshal ⟨1, label, priv, pub⟩)

/-- `tpm2Sealer.Unseal`. -/
def tpm2Unseal (T : SealingTpm) (label blob : GoString) : Except GoString GoString :=
  match unmarshal SealedBlobV1.fields SealedBlobV1.zero blob with
  | .error _ => .error (lit "tpmdevice: unmarshal sealed blob")
  | .ok sb =>
    if sb.v ≠ 1 then .error (lit "tpmdevice: unsupported sealed blob version")
    else if sb.label ≠ [] ∧ sb.label ≠ label then .error (lit "tpmdevice: sealed blob label mismatch")
    else T.load sb.priv sb.pub

/-- `NewSealer` on a TPM platform. -/
def tpm2Sealer (T : SealingTpm) : Sealer := ⟨tpm2Seal T, tpm2Unseal T⟩

/-! ## Reading a sealed blob back -/

/-- A marshalled sealed blob decodes to its fields, the label read back through `coerce`. -/
theorem SealedBlobV1.unmarshal_marshal (label priv pub : GoString) :
    unmarshal SealedBlobV1.fields SealedBlobV1.zero (SealedBlobV1.marshal ⟨1, label, priv, pub⟩) =
      .ok ⟨1, coerce label, priv, pub⟩ := by
  have hv : List.Forall₂ (fun m v => ReadsAs m.2 v)
      [(lit "v", formatInt 1), (lit "label", quote label), (lit "priv", quoteBytes priv),
        (lit "pub", quoteBytes pub)]
      [.number [49], .string (coerce label), .string (StdEncoding.encodeToString priv),
        .string (StdEncoding.encodeToString pub)] :=
    .cons readsAs_one (.cons (readsAs_quote label) (.cons (readsAs_quoteBytes priv)
      (.cons (readsAs_quoteBytes pub) .nil)))
  rw [SealedBlobV1.marshal, SealedBlobV1.members]
  dsimp only
  rw [unmarshal_objectCompact SealedBlobV1.fields SealedBlobV1.zero (by rfl) (by decide) (by decide) hv
    (by simp)]
  simp [applyFields, SealedBlobV1.fields, SealedBlobV1.zero]

/-- What `tpm2Sealer.Seal` returns: the marshalled blob of the TPM's object. -/
theorem tpm2Seal_ok {T : SealingTpm} {label secret blob : GoString}
    (h : tpm2Seal T label secret = .ok blob) :
    ∃ priv pub, T.create secret = .ok (priv, pub) ∧ blob = SealedBlobV1.marshal ⟨1, label, priv, pub⟩ := by
  unfold tpm2Seal at h
  split_ifs at h
  split at h
  · cases h
  · rename_i priv pub hc
    exact ⟨priv, pub, hc, (Except.ok.inj h).symm⟩

/-- `tpm2Sealer.Unseal` of a version-1 blob: the label check, then the TPM. -/
theorem tpm2Unseal_marshal (T : SealingTpm) (label label' priv pub : GoString) :
    tpm2Unseal T label' (SealedBlobV1.marshal ⟨1, label, priv, pub⟩) =
      if coerce label ≠ [] ∧ coerce label ≠ label' then
        .error (lit "tpmdevice: sealed blob label mismatch")
      else T.load priv pub := by
  simp only [tpm2Unseal, SealedBlobV1.unmarshal_marshal]
  rfl

/-- **Seal, then unseal.** Under a valid UTF-8 label, `Unseal` returns the sealed secret
when the TPM gives back what it sealed. -/
theorem tpm2Sealer_unseal_seal {T : SealingTpm}
    (hT : ∀ s priv pub, T.create s = .ok (priv, pub) → T.load priv pub = .ok s)
    {label secret blob : GoString} (hl : validString label = true)
    (hs : (tpm2Sealer T).sealBlob label secret = .ok blob) :
    (tpm2Sealer T).unsealBlob label blob = .ok secret := by
  obtain ⟨priv, pub, hc, rfl⟩ := tpm2Seal_ok hs
  simp only [tpm2Sealer, tpm2Unseal_marshal, coerce_of_validString hl, ne_eq, not_true_eq_false,
    and_false, if_false, hT _ _ _ hc]

/-- **The label is not bound.** A blob whose label is cleared unseals under every label. -/
theorem tpm2Sealer_unseal_relabel (T : SealingTpm) (label priv pub : GoString) :
    (tpm2Sealer T).unsealBlob label (SealedBlobV1.marshal ⟨1, [], priv, pub⟩) = T.load priv pub := by
  simp only [tpm2Sealer, tpm2Unseal_marshal]
  rfl

/-! ## A TPM ideal after sealing one secret -/

/-- A TPM ideal after its one `CreateKeyWithSensitive`: `secret` was sealed as the object with
the blobs `priv` and `pub`, which load and unseal to the secret, and no other pair of blobs
loads at all. -/
structure SealingTpm.SealedOnce (T : SealingTpm) (secret priv pub : GoString) : Prop where
  /-- The sealed object's blobs. -/
  create_secret : T.create secret = .ok (priv, pub)
  /-- They unseal to the secret. -/
  load_blobs : T.load priv pub = .ok secret
  /-- No other blobs load. -/
  load_other : ∀ p q s, T.load p q = .ok s → p = priv ∧ q = pub

/-- Whether `Unseal` under `label` reaches the TPM with the blobs `priv` and `pub`:
`json.Unmarshal`, which matches keys without regard to case, reads the blob as a
`sealedBlobV1` of version 1 with those blobs and a label that is empty or `label`. -/
def unsealsAs (label priv pub blob : GoString) : Bool :=
  match unmarshal SealedBlobV1.fields SealedBlobV1.zero blob with
  | .error _ => false
  | .ok sb => decide (sb.v = 1 ∧ ¬(sb.label ≠ [] ∧ sb.label ≠ label) ∧ sb.priv = priv ∧ sb.pub = pub)

/-- **What the sealer of an ideal TPM unseals.** A blob unseals, to the secret, exactly when
it reaches the TPM with the sealed object's blobs; any other blob is an error, whatever
bytes it differs in. -/
theorem tpm2Unseal_sealedOnce {T : SealingTpm} {secret priv pub : GoString}
    (hT : T.SealedOnce secret priv pub) (label blob : GoString) :
    (tpm2Unseal T label blob).toOption =
      if unsealsAs label priv pub blob then some secret else none := by
  unfold tpm2Unseal unsealsAs
  rcases unmarshal SealedBlobV1.fields SealedBlobV1.zero blob with _ | sb
  · rfl
  dsimp only
  by_cases hb : sb.priv = priv ∧ sb.pub = pub
  · obtain ⟨hp, hq⟩ := hb
    split_ifs <;> simp_all [Except.toOption, hT.load_blobs]
  · rcases hload : T.load sb.priv sb.pub with e | s
    · split_ifs <;> simp_all [Except.toOption]
    · exact absurd (hT.load_other _ _ _ hload) hb

end QuantumGoUtils.TpmDevice
