import QuantumGoUtils.Cryptoctx.RuntimeLaws

/-!
# Changing one byte of the key file

`loadPQKeypair` is meant to report a change to the envelope as `ErrCorruptOrTampered`. This
module follows one byte changed inside the text of `sealed_dek_b64`, `nonce_b64` or
`ct_b64` through the load. The sealer is the repository's `tpm2Sealer`, over a TPM ideal
after its one use (`SealingTpm.SealedOnce`: only the sealed object's blobs load), and the
AEAD is ideal after its one use (`Aead.SealedOnce` opens the ciphertext it sealed, under
that nonce and associated data, and nothing else).

The three base64 texts are HTML-safe, so `json.MarshalIndent` writes them between quotes
as they are (`PqEnvelopeV1.rawMembers`), and a byte set inside one of them is one splice of
the envelope's text (`PqEnvelopeV1.set_valueStart`). A new byte that a JSON string holds as
it is, no control byte, quote or backslash, is read back with the text (through `coerce`
for the bytes of no UTF-8 sequence), and the load then depends on the text only through
its base64 decoding.

Four kinds of change are not reported as `ErrCorruptOrTampered`. A byte that breaks the
JSON fails with the envelope's JSON error. Go's decoder ignores the low bits of a final
character that no byte uses, and a change there decodes to the same bytes: the file loads
as before. `Unseal` reads the sealed blob with `json.Unmarshal`, which matches keys without
regard to case, so a change inside `sealed_dek_b64` that turns `{"v"` into `{"V"` still
reaches the TPM with the sealed object's blobs, and the file loads as before. And `=` as the
last character of `nonce_b64` decodes to 23 bytes, whose length nothing checks, and `Open`
panics; the theorem leaves such nonces out.

## Main results

* `loadPQKeypair_tamper` — for every file `writeEncryptedPQKeypair` wrote, every offset
  inside one of the three base64 texts and every byte a JSON string holds as it is, a
  changed nonce decoding to 24 bytes: the load of the changed file is the label check,
  then `ErrCorruptOrTampered`, unless the changed text decodes to the same bytes or, in
  `sealed_dek_b64`, to a blob that `Unseal` reads as the sealed object's (`unsealsAs`),
  where it is the load of the file itself.
* `loadPQKeypair_tamper_not_corrupt` — one written file and six one-byte changes inside
  its values: two load the key pair, three are JSON errors, and one panics.
-/

namespace QuantumGoUtils.Cryptoctx

open QuantumGoUtils.Go.Strings QuantumGoUtils.Go.Strconv QuantumGoUtils.Go.Base64
open QuantumGoUtils.Go.Json QuantumGoUtils.TpmDevice
open QuantumGoUtils.GoTpm.Tpm2 (Outcome)

/-! ## The ideal AEAD -/

/-- An AEAD ideal after sealing `msg` under `key`, `nonce` and `aad`: `Open` under that key
gives the message back for its ciphertext and accepts no other nonce, ciphertext or
associated data. -/
structure Aead.SealedOnce (A : Aead) (key nonce msg aad : GoString) : Prop where
  /-- The sealed ciphertext opens to the message. -/
  open_seal : A.open' key nonce (A.seal' key nonce msg aad) aad = some msg
  /-- Nothing else opens under the key. -/
  open_other : ∀ n c a m, A.open' key n c a = some m →
    n = nonce ∧ c = A.seal' key nonce msg aad ∧ a = aad

/-- After an ideal AEAD's one `Seal`, the steps after unsealing refuse any other nonce or
ciphertext, and panic on a nonce of the wrong length. -/
theorem openPayload_of_ne {A : Aead} {key nonce msg aad : GoString}
    (hA : A.SealedOnce key nonce msg aad) (hk : key.length = 32) {n ct : GoString}
    (h : n ≠ nonce ∨ ct ≠ A.seal' key nonce msg aad) :
    openPayload A key n ct aad =
      if n.length ≠ 24 then .panic (lit "chacha20poly1305: bad nonce length passed to Open")
      else .ret (.error .corruptOrTampered) := by
  have hnone : A.open' key n ct aad = none := by
    rcases ho : A.open' key n ct aad with _ | m
    · rfl
    · obtain ⟨rfl, rfl, -⟩ := hA.open_other _ _ _ _ ho
      simp at h
  simp only [openPayload, newX, if_pos hk, xOpen]
  split_ifs <;> simp [hnone]

/-! ## One byte inside a base64 text -/

/-- The three base64 members of the envelope. -/
inductive B64Field where
  | sealedDEK
  | nonce
  | ct
  deriving DecidableEq, Repr

/-- The text of a base64 member. -/
def PqEnvelopeV1.b64 (e : PqEnvelopeV1) : B64Field → GoString
  | .sealedDEK => e.sealedDEKB64
  | .nonce => e.nonceB64
  | .ct => e.ctB64

/-- The envelope with the text of one base64 member replaced. -/
def PqEnvelopeV1.setB64 (e : PqEnvelopeV1) (t : GoString) : B64Field → PqEnvelopeV1
  | .sealedDEK => { e with sealedDEKB64 := t }
  | .nonce => { e with nonceB64 := t }
  | .ct => { e with ctB64 := t }

/-- Where the text of a base64 member starts in the `marshalIndent` of an envelope of
version 1 whose base64 texts are written as they are: after `{`, a line break, the `v`
member and each member before it, its indent, quoted key, `": "` and opening quote. -/
def PqEnvelopeV1.valueStart (e : PqEnvelopeV1) : B64Field → Nat
  | .sealedDEK => 33
  | .nonce => 52 + e.sealedDEKB64.length
  | .ct => 68 + e.sealedDEKB64.length + e.nonceB64.length

/-- The members of an envelope with its base64 texts written between quotes as they are. -/
def PqEnvelopeV1.rawMembers (e : PqEnvelopeV1) : List (GoString × GoString) :=
  [(lit "v", formatInt e.v), (lit "sealed_dek_b64", 34 :: e.sealedDEKB64 ++ [34]),
    (lit "nonce_b64", 34 :: e.nonceB64 ++ [34]), (lit "ct_b64", 34 :: e.ctB64 ++ [34]),
    (lit "label", quote e.label)]

@[simp] theorem PqEnvelopeV1.b64_setB64 (e : PqEnvelopeV1) (t : GoString) (f f' : B64Field) :
    (e.setB64 t f).b64 f' = if f' = f then t else e.b64 f' := by
  cases f <;> cases f' <;> rfl

@[simp] theorem PqEnvelopeV1.label_setB64 (e : PqEnvelopeV1) (t : GoString) (f : B64Field) :
    (e.setB64 t f).label = e.label := by
  cases f <;> rfl

/-- `json.MarshalIndent` writes HTML-safe base64 texts as they are. -/
theorem PqEnvelopeV1.members_eq_rawMembers {e : PqEnvelopeV1}
    (h : ∀ f, ∀ c ∈ e.b64 f, htmlSafe c = true) : e.members = e.rawMembers := by
  simp only [PqEnvelopeV1.members, PqEnvelopeV1.rawMembers, List.cons_append,
    quote_of_htmlSafe (s := e.sealedDEKB64) (h .sealedDEK),
    quote_of_htmlSafe (s := e.nonceB64) (h .nonce), quote_of_htmlSafe (s := e.ctB64) (h .ct)]

/-- **One byte, one splice.** Setting the byte at offset `j` of a base64 text in the
envelope's text is writing the envelope with that byte set in the text. -/
theorem PqEnvelopeV1.set_valueStart {e : PqEnvelopeV1} (hv : e.v = 1) (f : B64Field) {j : Nat}
    (hj : j < (e.b64 f).length) (c : UInt8) :
    (objectIndented e.rawMembers).set (e.valueStart f + j) c =
      objectIndented (e.setB64 ((e.b64 f).set j c) f).rawMembers := by
  obtain ⟨v, S, N, C, L⟩ := e
  dsimp only at hv
  subst hv
  have hq : (quote (lit "v")).length = 3 ∧ (quote (lit "sealed_dek_b64")).length = 16 ∧
      (quote (lit "nonce_b64")).length = 11 ∧ (quote (lit "ct_b64")).length = 8 ∧
      formatInt 1 = [49] := by decide
  cases f with
  | sealedDEK =>
    exact objectIndented_set_value [_] _ (List.cons_ne_nil _ _)
      (by simp [hq, PqEnvelopeV1.valueStart]) hj c
  | nonce =>
    exact objectIndented_set_value [_, _] _ (List.cons_ne_nil _ _)
      (by simp [hq, PqEnvelopeV1.valueStart]; omega) hj c
  | ct =>
    exact objectIndented_set_value [_, _, _] _ (List.cons_ne_nil _ _)
      (by simp [hq, PqEnvelopeV1.valueStart]; omega) hj c

/-- An envelope of version 1 whose base64 texts hold no control byte, quote or backslash
reads back with those texts and its label through `coerce`. -/
theorem PqEnvelopeV1.unmarshal_rawMembers {e : PqEnvelopeV1} (hv : e.v = 1)
    (h : ∀ f, ∀ c ∈ e.b64 f, 0x20 ≤ c.toNat ∧ c.toNat ≠ 34 ∧ c.toNat ≠ 92) :
    unmarshal PqEnvelopeV1.fields PqEnvelopeV1.zero (objectIndented e.rawMembers) =
      .ok ⟨1, coerce e.sealedDEKB64, coerce e.nonceB64, coerce e.ctB64, coerce e.label⟩ := by
  obtain ⟨v, S, N, C, L⟩ := e
  dsimp only at hv
  subst hv
  exact PqEnvelopeV1.unmarshal_of_readsAs (readsAs_literal (h .sealedDEK))
    (readsAs_literal (h .nonce)) (readsAs_literal (h .ct)) (readsAs_quote L)

/-! ## Tamper detection -/

/-- **Tamper detection, byte by byte.** Take a file `writeEncryptedPQKeypair` wrote with the
`tpm2Sealer` of a TPM and an AEAD each ideal after their one use, and set the byte at
offset `j` of the text of one base64 member to a byte that a JSON string holds as it is,
a changed `nonce_b64` still decoding to 24 bytes. After the label check, the load fails
with `ErrCorruptOrTampered`, except when the changed text decodes to the same bytes, or, in
`sealed_dek_b64`, to a blob that `Unseal` reads as the sealed object's: there it is the load
of the file itself. -/
theorem loadPQKeypair_tamper {T : SealingTpm} {r : Runtime} (hr : r.sealer = tpm2Sealer T)
    {A : Aead} {kp : PqKeypair} {dek : Bytes 32} {nonce : Bytes 24} {priv pub : GoString}
    (hT : T.SealedOnce dek.1 priv pub)
    (hA : A.SealedOnce dek.1 nonce.1 (PqPayloadV1.marshal ⟨kp.pub, kp.priv⟩) r.aad)
    {sealed : GoString} (hs : r.sealer.sealBlob r.pqLabel dek.1 = .ok sealed)
    {written : Except GoString Unit} {F : GoString}
    (hw : r.writeEncryptedPQKeypair A kp (.ok dek) (.ok nonce) written = .ok F)
    {e : PqEnvelopeV1} (he : r.envelope A kp dek.1 nonce.1 sealed = e)
    (f : B64Field) {j : Nat} (hj : j < (e.b64 f).length)
    {c : UInt8} (hc : 0x20 ≤ c.toNat ∧ c.toNat ≠ 34 ∧ c.toNat ≠ 92)
    (hn : f = .nonce → ∀ b, StdEncoding.decodeString (coerce ((e.b64 f).set j c)) = some b →
      b.length = 24) :
    r.loadPQKeypair A (.ok (F.set (e.valueStart f + j) c)) =
      if coerce r.pqLabel ≠ [] ∧ coerce r.pqLabel ≠ r.pqLabel then .ret (.error .corruptOrTampered)
      else
        match StdEncoding.decodeString (coerce ((e.b64 f).set j c)) with
        | none => .ret (.error .corruptOrTampered)
        | some b =>
          if some b = StdEncoding.decodeString (e.b64 f) ∨
              f = .sealedDEK ∧ unsealsAs r.pqLabel priv pub b = true then r.loadPQKeypair A (.ok F)
          else .ret (.error .corruptOrTampered) := by
  obtain ⟨dek', nonce', sealed', h1, h2, h3, rfl⟩ := writeEncryptedPQKeypair_ok hw
  cases h1
  cases h3
  obtain rfl : sealed' = sealed := Except.ok.inj (h2.symm.trans hs)
  subst he
  -- under a label that passes, the sealed blob reaches the TPM with the sealed object's blobs
  have hunseal : ¬(coerce r.pqLabel ≠ [] ∧ coerce r.pqLabel ≠ r.pqLabel) →
      tpm2Unseal T r.pqLabel sealed' = .ok dek.1 := fun hl => by
    rw [hr] at hs
    obtain ⟨p, q, hpq, rfl⟩ := tpm2Seal_ok hs
    obtain ⟨rfl, rfl⟩ := Prod.mk.inj (Except.ok.inj (hpq.symm.trans hT.create_secret))
    simp only [tpm2Unseal_marshal, if_neg hl, hT.load_blobs]
  have hsafe : ∀ f, ∀ c ∈ (r.envelope A kp dek.1 nonce.1 sealed').b64 f, htmlSafe c = true := by
    intro f c hc
    cases f <;> exact htmlSafe_of_mem_encode hc
  have hread' := PqEnvelopeV1.unmarshal_rawMembers
    (e := (r.envelope A kp dek.1 nonce.1 sealed').setB64
      (((r.envelope A kp dek.1 nonce.1 sealed').b64 f).set j c) f) (by cases f <;> rfl)
    fun f' c' h' => by
      rw [PqEnvelopeV1.b64_setB64] at h'
      split_ifs at h' with hf
      · subst hf
        exact (List.mem_or_eq_of_mem_set h').elim (fun h => plain_of_htmlSafe (hsafe _ c' h))
          fun h => h ▸ hc
      · exact plain_of_htmlSafe (hsafe f' c' h')
  rw [show r.loadPQKeypair A (.ok (r.envelope A kp dek.1 nonce.1 sealed').marshalIndent) = _ from
    loadPQKeypair_envelope r A _ _ _ _, PqEnvelopeV1.marshalIndent,
    PqEnvelopeV1.members_eq_rawMembers hsafe, PqEnvelopeV1.set_valueStart rfl f hj c]
  simp only [Runtime.loadPQKeypair, hread']
  simp only [PqEnvelopeV1.label_setB64, Runtime.envelope, ne_eq, not_true_eq_false, if_false, dek.2]
  by_cases hl : ¬coerce r.pqLabel = [] ∧ ¬coerce r.pqLabel = r.pqLabel
  · simp only [if_pos hl]
  simp only [if_neg hl]
  replace hunseal := hunseal hl
  rw [hr]
  cases f <;> simp only [PqEnvelopeV1.setB64, PqEnvelopeV1.b64, coerce_encodeToString,
    StdEncoding.decodeString_encodeToString, tpm2Sealer, hunseal, dek.2, Option.some.injEq,
    reduceCtorEq, true_and, false_and, or_false, not_true_eq_false, if_false]
  · -- `sealed_dek_b64`: the changed blob unseals exactly when `Unseal` reads it as the sealed one
    rcases StdEncoding.decodeString (coerce ((StdEncoding.encodeToString sealed').set j c)) with _ | b
    · rfl
    have hu := tpm2Unseal_sealedOnce hT r.pqLabel b
    rcases hb : tpm2Unseal T r.pqLabel b with err | dek'' <;> rw [hb] at hu <;>
      split_ifs at hu with hs <;> cases hu
    · have hne : b ≠ sealed' := fun h => by rw [h, hunseal] at hb; cases hb
      simp [hb, hne, hs]
    · simp [hb, hs, dek.2]
  · -- `nonce_b64`
    simp only [PqEnvelopeV1.b64, Runtime.envelope, forall_const] at hn
    rcases hd : StdEncoding.decodeString (coerce ((StdEncoding.encodeToString nonce.1).set j c))
      with _ | b
    · rfl
    dsimp only
    by_cases hb : b = nonce.1
    · simp [hb]
    · rw [openPayload_of_ne hA dek.2 (.inl hb), if_neg (not_not.mpr (hn b hd))]
      simp [hb]
  · -- `ct_b64`
    rcases StdEncoding.decodeString (coerce ((StdEncoding.encodeToString
      (A.seal' dek.1 nonce.1 (PqPayloadV1.marshal ⟨kp.pub, kp.priv⟩) r.aad)).set j c)) with _ | b
    · rfl
    dsimp only
    by_cases hb : b = A.seal' dek.1 nonce.1 (PqPayloadV1.marshal ⟨kp.pub, kp.priv⟩) r.aad
    · simp [hb]
    · rw [openPayload_of_ne hA dek.2 (.inr hb)]
      simp [hb, nonce.2]

/-! ## One written file -/

/-- A TPM that has sealed `secret` once, as the blobs `priv` and `pub`. -/
def onceTpm (secret priv pub : GoString) : SealingTpm :=
  ⟨fun _ => .ok (priv, pub),
    fun p q => if p = priv ∧ q = pub then .ok secret else .error (lit "unseal failed")⟩

theorem onceTpm_sealedOnce (secret priv pub : GoString) :
    (onceTpm secret priv pub).SealedOnce secret priv pub :=
  ⟨rfl, if_pos ⟨rfl, rfl⟩, fun p q s h => by
    by_contra hne
    simp [onceTpm, hne] at h⟩

/-- An AEAD that has sealed `msg` once under `key`, `nonce` and `aad`, its ciphertext the
plaintext: `Open` accepts that and nothing else. -/
def sealedOnce (key nonce msg aad : GoString) : Aead :=
  ⟨fun _ _ m _ => m, fun k n c a => if k = key ∧ n = nonce ∧ c = msg ∧ a = aad then some msg else none⟩

theorem sealedOnce_sealedOnce (key nonce msg aad : GoString) :
    (sealedOnce key nonce msg aad).SealedOnce key nonce msg aad :=
  ⟨if_pos ⟨rfl, rfl, rfl, rfl⟩, fun n c a m h => by
    by_contra hne
    simp only [sealedOnce] at h
    split_ifs at h with hk
    exact hne ⟨hk.2.1, hk.2.2.1, hk.2.2.2⟩⟩

/-- The TPM of the examples: the data key sealed as the one-byte blobs `[3]` and `[4]`. -/
def onceTpm0 : SealingTpm := onceTpm dek0.1 [3] [4]

/-- A runtime whose sealer is `tpm2Sealer` over that TPM. -/
def onceRuntime : Runtime := ⟨tpm2Sealer onceTpm0, lit "/k", lit "lab", some (lit "/k")⟩

/-- The AEAD after sealing the payload of `kp0`. -/
def onceAead : Aead :=
  sealedOnce dek0.1 nonce0.1 (PqPayloadV1.marshal ⟨kp0.pub, kp0.priv⟩) onceRuntime.aad

/-- The envelope `writeEncryptedPQKeypair` writes for `kp0`, its sealed data key the 48 bytes
of `{"v":1,"label":"lab","priv":"Aw==","pub":"BA=="}`. -/
def onceEnvelope : PqEnvelopeV1 :=
  onceRuntime.envelope onceAead kp0 dek0.1 nonce0.1 (SealedBlobV1.marshal ⟨1, lit "lab", [3], [4]⟩)

/-- Its file: the 64 characters of `sealed_dek_b64` from offset 33, the 32 of `nonce_b64`
from offset 116, the 40 of `ct_b64` from offset 164. -/
def onceFile : GoString := onceEnvelope.marshalIndent

/-- Changing the `2` at offset 3 of `sealed_dek_b64` to `W` turns the blob's `{"v"` into
`{"V"`, which `Unseal` reads as the same blob, and changing the `Q` at offset 37 of `ct_b64`,
whose four low bits no byte uses, to `R`: both files load the key pair. A quote, a backslash
or a line feed in place of the `I` at offset 6 of `ct_b64` is the envelope's JSON error;
`=` in place of the last character of `nonce_b64` leaves 23 bytes of nonce, and `Open`
panics. -/
theorem loadPQKeypair_tamper_not_corrupt :
    onceRuntime.sealer = tpm2Sealer onceTpm0 ∧ onceTpm0.SealedOnce dek0.1 [3] [4] ∧
    onceAead.SealedOnce dek0.1 nonce0.1 (PqPayloadV1.marshal ⟨kp0.pub, kp0.priv⟩) onceRuntime.aad ∧
    onceRuntime.writeEncryptedPQKeypair onceAead kp0 (.ok dek0) (.ok nonce0) (.ok ()) = .ok onceFile ∧
    onceFile.get? (onceEnvelope.valueStart .sealedDEK + 3) = some 50 ∧
    onceRuntime.loadPQKeypair onceAead
      (.ok (onceFile.set (onceEnvelope.valueStart .sealedDEK + 3) 87)) = .ret (.ok kp0) ∧
    37 < onceEnvelope.ctB64.length ∧ onceFile.get? (onceEnvelope.valueStart .ct + 37) = some 81 ∧
    onceRuntime.loadPQKeypair onceAead (.ok (onceFile.set (onceEnvelope.valueStart .ct + 37) 82)) =
      .ret (.ok kp0) ∧
    onceFile.get? (onceEnvelope.valueStart .ct + 6) = some 73 ∧
    onceRuntime.loadPQKeypair onceAead (.ok (onceFile.set (onceEnvelope.valueStart .ct + 6) 34)) =
      .ret (.error (.unmarshalEnvelope .syntaxError)) ∧
    onceRuntime.loadPQKeypair onceAead (.ok (onceFile.set (onceEnvelope.valueStart .ct + 6) 92)) =
      .ret (.error (.unmarshalEnvelope .syntaxError)) ∧
    onceRuntime.loadPQKeypair onceAead (.ok (onceFile.set (onceEnvelope.valueStart .ct + 6) 10)) =
      .ret (.error (.unmarshalEnvelope .syntaxError)) ∧
    31 < onceEnvelope.nonceB64.length ∧ onceFile.get? (onceEnvelope.valueStart .nonce + 31) = some 74 ∧
    onceRuntime.loadPQKeypair onceAead (.ok (onceFile.set (onceEnvelope.valueStart .nonce + 31) 61)) =
      .panic (lit "chacha20poly1305: bad nonce length passed to Open") := by
  set_option maxRecDepth 20000 in
  exact ⟨rfl, onceTpm_sealedOnce _ _ _, sealedOnce_sealedOnce _ _ _ _, rfl, by decide, by decide,
    by decide, by decide, by decide, by decide, by decide, by decide, by decide, by decide, by decide,
    by decide⟩

/-- The first character of `ct_b64` changed to `A`: a ciphertext the AEAD never sealed. -/
theorem loadPQKeypair_tamper_once :
    onceRuntime.loadPQKeypair onceAead (.ok (onceFile.set (onceEnvelope.valueStart .ct + 0) 65)) =
      .ret (.error .corruptOrTampered) := by
  rw [@loadPQKeypair_tamper onceTpm0 onceRuntime rfl onceAead kp0 dek0 nonce0 [3] [4]
    (onceTpm_sealedOnce _ _ _) (sealedOnce_sealedOnce _ _ _ _) _ rfl (.ok ()) onceFile rfl onceEnvelope rfl
    .ct 0 (by decide) 65 (by decide) (fun h => nomatch h)]
  decide

end QuantumGoUtils.Cryptoctx
