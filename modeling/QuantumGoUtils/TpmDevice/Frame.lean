import QuantumGoUtils.TpmDevice.Encoding

/-!
# What `NewWithConfig` does to the TPM

One lemma for each function of `tpmdevice.go` says everything the function can do to the
world: which persistent objects it may change, that it keeps the device connections and
the transient objects (a `FlushContext` that fails leaves one behind), and what it
returns. Callers cite these lemmas and never unfold the callee.
-/

namespace QuantumGoUtils.TpmDevice

open QuantumGoUtils.Go.Strings QuantumGoUtils.GoTpm.Tpm2

/-! ## The signing key -/

/-- The key `createPrimarySigningKey` makes on `t`: the template with the derived point. -/
def signingKey (t : Tpm) : Public :=
  { signingTemplate with x := t.primaryPoint.x, y := t.primaryPoint.y }

theorem key_signingKey (t : Tpm) :
    (signingKey t).key = .ok (.ecdsa curveNISTP256 t.primaryPoint.x t.primaryPoint.y) :=
  rfl

/-- The new key always has a public key: it is on P-256. -/
theorem publicToUncompressed_signingKey (t : Tpm) :
    ∃ u, publicToUncompressed (signingKey t) = .ret (.ok u) := by
  rw [publicToUncompressed, key_signingKey]
  dsimp only
  exact ⟨_, by rw [uncompressedFromECDSA_of_lt t.primaryPoint.x_lt t.primaryPoint.y_lt]⟩

/-- `ReadPublic` of an object just loaded at a free handle reads it. -/
theorem readPublic_loaded {t : Tpm} {h : Handle} {p : Public} (hf : t.transient.lookup h = none) :
    ({ t with transient := t.transient ++ [(h, p)] } : Tpm).readPublic h = .ok p := by
  simp [Tpm.readPublic, List.lookup_append, hf]

/-- Flushing the object loaded at a free handle restores the transient objects, unless the
flush fails, which takes an injected fault. -/
theorem flush_restores {w w₂ w₃ : World} {th : Handle} {k : Public} {r : Outcome (Except TpmError Unit)}
    (hb : w.Before w₂) (hfresh : w.tpm.transient.lookup th = none)
    (ht : w₂.tpm.transient = w.tpm.transient ++ [(th, k)]) (hf : flushContext th w₂ = (r, w₃)) :
    w.Before w₃ ∧ w₃.tpm.persistent = w₂.tpm.persistent ∧ w₃.tpm.conns = w₂.tpm.conns ∧
      w.TransientRestored w₃ ∧ ∃ x, r = .ret x := by
  obtain ⟨w₃', hf₃, ⟨e, he, ht₃, htr₃, hinj⟩ | ⟨he, ht₃, htr₃⟩⟩ := flushContext_cases th w₂
  all_goals
    rw [he] at hf
    cases hf
    refine ⟨hb.trans (World.before_of_step hf₃ htr₃), by rw [ht₃], by rw [ht₃], ?_, _, rfl⟩
  · obtain ⟨A, hA⟩ := hb.2
    refine .inr ⟨⟨th, ?_⟩, e, ?_⟩
    · rw [htr₃, ← hA]
      simp
    · rcases hinj with h | h
      · exact hb.1.subset h
      · simp [ht, List.lookup_append, hfresh] at h
  · refine .inl ?_
    rw [ht₃]
    simp [ht, List.filter_append, filter_fst_ne_of_lookup hfresh]

/-! ## Creating the key -/

/-- **`createPrimarySigningKey`.** It changes no persistent object and no connection. It
returns a new key, left loaded at a handle that was free; or an error, having flushed what
it loaded unless that `FlushContext` failed. -/
theorem createPrimarySigningKey_spec {w w' : World}
    {o : Outcome (Except DeviceError (Handle × GoString))}
    (hr : createPrimarySigningKey w = (o, w')) :
    w.Before w' ∧ w'.tpm.persistent = w.tpm.persistent ∧ w'.tpm.conns = w.tpm.conns ∧
    ((∃ th u, o = .ret (.ok (th, u)) ∧ w.tpm.transient.lookup th = none ∧
        w'.tpm.transient = w.tpm.transient ++ [(th, signingKey w.tpm)] ∧
        publicToUncompressed (signingKey w.tpm) = .ret (.ok u)) ∨
      (∃ e, o = .ret (.error e) ∧ w.TransientRestored w')) := by
  unfold createPrimarySigningKey at hr
  simp only [bind_apply] at hr
  obtain ⟨w1, hf1, ⟨e, he, ht1, htr1⟩ | ⟨th, hc, he, htr1⟩⟩ :=
    createPrimary_cases (lit "") signingTemplate w
  · rw [he] at hr
    cases hr
    exact ⟨World.before_of_step hf1 htr1, by rw [ht1], by rw [ht1], .inr ⟨_, rfl, .inl (by rw [ht1])⟩⟩
  obtain ⟨hfresh, ht1⟩ := Tpm.createPrimary_ok hc
  rw [he] at hr
  simp only at hr
  have hb1 := World.before_of_step hf1 htr1
  simp only [bind_apply] at hr
  obtain ⟨w2, hf2, ht2, ⟨e, he2, htr2, -⟩ | ⟨p, hp, he2, htr2⟩⟩ := readPublic_cases th w1
  · rw [he2] at hr
    simp only [bind_apply] at hr
    rcases h3 : flushContext th w2 with ⟨r, w3⟩
    obtain ⟨hb3, hp3, hc3, hrest, x, rfl⟩ := flush_restores (hb1.trans
      (World.before_of_step hf2 htr2)) hfresh (by rw [ht2, ht1]) h3
    rw [h3] at hr
    cases hr
    exact ⟨hb3, by rw [hp3, ht2, ht1], by rw [hc3, ht2, ht1], .inr ⟨_, rfl, hrest⟩⟩
  · have hpk : p = signingKey w.tpm := by
      rw [ht1, readPublic_loaded hfresh] at hp
      exact (Except.ok.inj hp).symm
    subst hpk
    obtain ⟨u, hu⟩ := publicToUncompressed_signingKey w.tpm
    rw [he2] at hr
    simp only [bind_apply, liftOutcome, hu] at hr
    cases hr
    exact ⟨hb1.trans (World.before_of_step hf2 htr2), by rw [ht2, ht1], by rw [ht2, ht1],
      .inl ⟨th, u, rfl, hfresh, by rw [ht2, ht1]; rfl, hu⟩⟩

/-- A call that keeps the device connections and, unless a `FlushContext` fails, the
transient objects. -/
def Tidy (w w' : World) : Prop := w.Before w' ∧ w'.tpm.conns = w.tpm.conns ∧ w.TransientRestored w'

theorem Tidy.refl (w : World) : Tidy w w := ⟨.refl w, rfl, .inl rfl⟩

theorem Tidy.trans {w₁ w₂ w₃ : World} (h₁ : Tidy w₁ w₂) (h₂ : Tidy w₂ w₃) : Tidy w₁ w₃ :=
  ⟨h₁.1.trans h₂.1, h₂.2.1.trans h₁.2.1, h₁.2.2.trans h₁.1 h₂.1 h₂.2.2⟩

/-- A command that changes neither connections nor transient objects is tidy. -/
theorem tidy_of_step {w w' : World} {ev : Event} (hf : w'.faults = w.faults.tail)
    (ht : w'.trace = w.trace ++ [ev]) (hc : w'.tpm.conns = w.tpm.conns)
    (htr : w'.tpm.transient = w.tpm.transient) : Tidy w w' :=
  ⟨World.before_of_step hf ht, hc, .inl htr⟩

/-- **`createAndPersistAt`.** It is tidy and changes no persistent object but the one at
`h`. On success that handle was empty and now holds the new key; otherwise it is
unchanged and the call returned an error. -/
theorem createAndPersistAt_spec {cfg : Config} {h : Handle} {w w' : World}
    {o : Outcome (Except DeviceError Client)} (hr : createAndPersistAt cfg h w = (o, w')) :
    Tidy w w' ∧ (∀ x, x ≠ h → w'.tpm.persistent x = w.tpm.persistent x) ∧
    ((∃ u, o = .ret (.ok (newClient h u)) ∧ publicToUncompressed (signingKey w.tpm) = .ret (.ok u) ∧
        w.tpm.persistent h = .empty ∧ w'.tpm.persistent h = .object (signingKey w.tpm)) ∨
      ((∃ e, o = .ret (.error e)) ∧ w'.tpm.persistent h = w.tpm.persistent h)) := by
  unfold createAndPersistAt at hr
  simp only [bind_apply] at hr
  rcases h1 : createPrimarySigningKey w with ⟨o1, w1⟩
  obtain ⟨hb1, hp1, hc1, ⟨th, u, rfl, hfresh, ht1, hu⟩ | ⟨e, rfl, hrest⟩⟩ :=
    createPrimarySigningKey_spec h1
  rotate_left
  · rw [h1] at hr
    cases hr
    exact ⟨⟨hb1, hc1, hrest⟩, fun x _ => by rw [hp1], .inr ⟨⟨_, rfl⟩, by rw [hp1]⟩⟩
  rw [h1] at hr
  simp only [bind_apply] at hr
  obtain ⟨w2, hf2, ⟨e, he2, ht2, htr2⟩ | ⟨hev, he2, htr2⟩⟩ := evictControl_cases cfg.ownerAuth th h w1
  · rw [he2] at hr
    simp only [bind_apply] at hr
    rcases h3 : flushContext th w2 with ⟨r, w3⟩
    obtain ⟨hb3, hp3, hc3, hrest, x, rfl⟩ := flush_restores (hb1.trans
      (World.before_of_step hf2 htr2)) hfresh (by rw [ht2, ht1]) h3
    rw [h3] at hr
    cases hr
    exact ⟨⟨hb3, by rw [hc3, ht2, hc1], hrest⟩, fun x _ => by rw [hp3, ht2, hp1],
      .inr ⟨⟨_, rfl⟩, by rw [hp3, ht2, hp1]⟩⟩
  · rw [he2] at hr
    simp only [bind_apply] at hr
    obtain ⟨p, hp, hempty, ht2⟩ | ⟨hnone, -⟩ := Tpm.evictControl_ok hev
    · have hpk : p = signingKey w.tpm := by
        rw [ht1, List.lookup_append, hfresh] at hp
        simpa using hp.symm
      subst hpk
      rcases h3 : flushContext th w2 with ⟨r, w3⟩
      obtain ⟨hb3, hp3, hc3, hrest, x, rfl⟩ := flush_restores (hb1.trans
        (World.before_of_step hf2 htr2)) hfresh (by rw [ht2, ht1]) h3
      rw [h3] at hr
      cases hr
      refine ⟨⟨hb3, by rw [hc3, ht2, hc1], hrest⟩, fun x hx => ?_,
        .inl ⟨u, rfl, hu, by rw [← hp1, hempty], by rw [hp3, ht2]; simp⟩⟩
      rw [hp3, ht2]
      simp only [Function.update_noteq hx, hp1]
    · rw [ht1, List.lookup_append, hfresh] at hnone
      simp at hnone

/-- `ReadPublic` is tidy and leaves the TPM as it was. -/
theorem readPublic_tidy {h : Handle} {w w' : World} {o : Outcome (Except TpmError Public)}
    (hr : readPublic h w = (o, w')) : Tidy w w' ∧ w'.tpm = w.tpm := by
  obtain ⟨w₁, hf, ht, ⟨e, he, htr, -⟩ | ⟨p, -, he, htr⟩⟩ := readPublic_cases h w <;>
  · rw [he] at hr
    cases hr
    exact ⟨tidy_of_step hf htr (by rw [ht]) (by rw [ht]), ht⟩

/-- `EvictControl` is tidy and changes no persistent object but the one at `persist`. -/
theorem evictControl_frame {auth : GoString} {obj persist : Handle} {w w' : World}
    {o : Outcome (Except TpmError Unit)} (hr : evictControl auth obj persist w = (o, w')) :
    Tidy w w' ∧ ∀ x, x ≠ persist → w'.tpm.persistent x = w.tpm.persistent x := by
  obtain ⟨w₁, hf, ⟨e, he, ht, htr⟩ | ⟨hev, he, htr⟩⟩ := evictControl_cases auth obj persist w
  · rw [he] at hr
    cases hr
    exact ⟨tidy_of_step hf htr (by rw [ht]) (by rw [ht]), fun x _ => by rw [ht]⟩
  · rw [he] at hr
    cases hr
    obtain ⟨p, -, -, ht⟩ | ⟨-, -, ht⟩ := Tpm.evictControl_ok hev <;>
    · refine ⟨tidy_of_step hf htr (by rw [ht]) (by rw [ht]), fun x hx => ?_⟩
      rw [ht]
      exact Function.update_noteq hx _ _

/-- Only empty slots change, and only when the call returns a client at that handle. -/
def FillsOnly (o : Outcome (Except DeviceError Client)) (w w' : World) : Prop :=
  ∀ x, w'.tpm.persistent x ≠ w.tpm.persistent x →
    w.tpm.persistent x = .empty ∧ ∃ c, o = .ret (.ok c) ∧ c.handle = x

theorem FillsOnly.of_persistent_eq {o : Outcome (Except DeviceError Client)} {w w' : World}
    (h : w'.tpm.persistent = w.tpm.persistent) : FillsOnly o w w' :=
  fun x hx => absurd (by rw [h]) hx

theorem FillsOnly.of_createAndPersistAt {cfg : Config} {h : Handle} {w w' : World}
    {o : Outcome (Except DeviceError Client)} (hr : createAndPersistAt cfg h w = (o, w')) :
    FillsOnly o w w' := by
  obtain ⟨-, hframe, ⟨u, rfl, -, hempty, -⟩ | ⟨-, hh⟩⟩ := createAndPersistAt_spec hr <;>
    intro x hx <;> by_cases hxh : x = h
  · subst hxh
    exact ⟨hempty, _, rfl, rfl⟩
  · exact absurd (hframe x hxh) hx
  · exact absurd (hxh ▸ hh) hx
  · exact absurd (hframe x hxh) hx

/-- Changing no persistent object first keeps `FillsOnly`. -/
theorem FillsOnly.of_persistent_eq_left {o : Outcome (Except DeviceError Client)}
    {w w₁ w' : World} (h : w₁.tpm.persistent = w.tpm.persistent) (h' : FillsOnly o w₁ w') :
    FillsOnly o w w' := by
  simpa only [FillsOnly, h] using h'

/-- **`openOrCreateAtHandle`.** It is tidy and changes no persistent object but the one at
`h`; without `ForceNew` it only fills that handle when it was empty, and returns the
client there. -/
theorem openOrCreateAtHandle_spec {cfg : Config} {h : Handle} {w w' : World}
    {o : Outcome (Except DeviceError Client)} (hr : openOrCreateAtHandle cfg h w = (o, w')) :
    Tidy w w' ∧ (∀ x, x ≠ h → w'.tpm.persistent x = w.tpm.persistent x) ∧
      (cfg.forceNew = false → FillsOnly o w w') := by
  unfold openOrCreateAtHandle at hr
  cases hf : cfg.forceNew
  · simp only [hf, Bool.false_eq_true, if_false, bind_apply] at hr
    rcases h1 : readPublic h w with ⟨o1, w1⟩
    obtain ⟨htidy, ht1⟩ := readPublic_tidy h1
    have stay : ∀ o', Tidy w w1 ∧ (∀ x, x ≠ h → w1.tpm.persistent x = w.tpm.persistent x) ∧
        (false = false → FillsOnly o' w w1) :=
      fun _ => ⟨htidy, fun x _ => by rw [ht1], fun _ => .of_persistent_eq (by rw [ht1])⟩
    rw [h1] at hr
    rcases o1 with (e | p) | m <;> simp only [bind_apply, liftOutcome] at hr
    · split at hr
      · cases hr
        exact stay _
      · obtain ⟨htidy', hframe, -⟩ := createAndPersistAt_spec hr
        exact ⟨htidy.trans htidy', fun x hx => by rw [hframe x hx, ht1],
          fun _ => .of_persistent_eq_left (by rw [ht1]) (.of_createAndPersistAt hr)⟩
    · rcases h2 : publicToUncompressed p with (e | u) | m <;>
        simp only [h2, pure_apply] at hr <;> cases hr <;> exact stay _
    · cases hr
      exact stay _
  · simp only [hf, if_true, bind_apply] at hr
    rcases h1 : evictControl cfg.ownerAuth h h w with ⟨o1, w1⟩
    obtain ⟨htidy, hframe⟩ := evictControl_frame h1
    rw [h1] at hr
    rcases o1 with r | m <;> simp only at hr
    · obtain ⟨htidy', hframe', -⟩ := createAndPersistAt_spec hr
      exact ⟨htidy.trans htidy', fun x hx => by rw [hframe' x hx, hframe x hx], nofun⟩
    · cases hr
      exact ⟨htidy, hframe, nofun⟩

/-- What the scan may do to the persistent objects: change at most one, and none when it
runs to the end of the range or when `ForceNew` is off. -/
def ScanFrame (cfg : Config) (o : Outcome ScanEnd) (w w' : World) : Prop :=
  (∃ hsel, ∀ x, x ≠ hsel → w'.tpm.persistent x = w.tpm.persistent x) ∧
    ((cfg.forceNew = false ∨ ∃ fe, o = .ret (.exhausted fe)) →
      w'.tpm.persistent = w.tpm.persistent)

/-- **The scan.** It is tidy; it changes at most one persistent object, and none when it
runs to the end of the range or `ForceNew` is off. -/
theorem scan_spec {cfg : Config} (hs : List Handle) {fe : Option Handle} {w w' : World}
    {o : Outcome ScanEnd} (hr : scan cfg hs fe w = (o, w')) : Tidy w w' ∧ ScanFrame cfg o w w' := by
  induction hs generalizing fe w w' o with
  | nil =>
    cases hr
    exact ⟨.refl w, ⟨0, fun _ _ => rfl⟩, fun _ => rfl⟩
  | cons h hs ih =>
    simp only [scan, bind_apply] at hr
    rcases h1 : readPublic h w with ⟨o1, w1⟩
    obtain ⟨htidy, ht1⟩ := readPublic_tidy h1
    have stay : ∀ o', Tidy w w1 ∧ ScanFrame cfg o' w w1 :=
      fun _ => ⟨htidy, ⟨0, fun _ _ => by rw [ht1]⟩, fun _ => by rw [ht1]⟩
    have next : ∀ {fe' w''} {o' : Outcome ScanEnd}, scan cfg hs fe' w1 = (o', w'') →
        Tidy w w'' ∧ ScanFrame cfg o' w w'' := fun hr' => by
      obtain ⟨htidy', ⟨hsel, hframe⟩, hnone⟩ := ih hr'
      exact ⟨htidy.trans htidy', ⟨hsel, fun x hx => by rw [hframe x hx, ht1]⟩,
        fun hc => by rw [hnone hc, ht1]⟩
    rw [h1] at hr
    rcases o1 with (e | p) | m <;> simp only [bind_apply, liftOutcome] at hr
    · split at hr
      · exact next hr
      · cases hr
        exact stay _
    · rcases h2 : publicToUncompressed p with (e | u) | m <;> simp only [h2, pure_apply] at hr
      · split at hr
        · rename_i hf
          simp only [bind_apply] at hr
          rcases h3 : evictControl cfg.ownerAuth h h w1 with ⟨o3, w3⟩
          obtain ⟨htidy3, hframe3⟩ := evictControl_frame h3
          rw [h3] at hr
          have hret : ∀ r, ¬(cfg.forceNew = false ∨ ∃ fe, Outcome.ret (ScanEnd.returned r) =
              .ret (.exhausted fe)) := by simp [hf]
          rcases o3 with r | m <;> simp only [bind_apply] at hr
          · rcases h4 : createAndPersistAt cfg h w3 with ⟨o4, w4⟩
            obtain ⟨htidy4, hframe4, -⟩ := createAndPersistAt_spec h4
            rw [h4] at hr
            rcases o4 with r | m <;> simp only [pure_apply] at hr <;> cases hr
            · exact ⟨(htidy.trans htidy3).trans htidy4,
                ⟨h, fun x hx => by rw [hframe4 x hx, hframe3 x hx, ht1]⟩, fun hc => absurd hc (hret r)⟩
            · exact ⟨(htidy.trans htidy3).trans htidy4,
                ⟨h, fun x hx => by rw [hframe4 x hx, hframe3 x hx, ht1]⟩, fun hc => by simp [hf] at hc⟩
          · cases hr
            exact ⟨htidy.trans htidy3, ⟨h, fun x hx => by rw [hframe3 x hx, ht1]⟩,
              fun hc => by simp [hf] at hc⟩
        · exact next hr
      · cases hr
        exact stay _
      · cases hr
        exact stay _
    · cases hr
      exact stay _

/-- **`pickOrCreateHandle`.** It is tidy and changes at most one persistent object;
without `ForceNew` it only fills an empty handle, the one of the client it returns. -/
theorem pickOrCreateHandle_spec {cfg : Config} {start : Handle} {count : UInt32} {w w' : World}
    {o : Outcome (Except DeviceError Client)} (hr : pickOrCreateHandle cfg start count w = (o, w')) :
    Tidy w w' ∧ (∃ hsel, ∀ x, x ≠ hsel → w'.tpm.persistent x = w.tpm.persistent x) ∧
      (cfg.forceNew = false → FillsOnly o w w') := by
  simp only [pickOrCreateHandle, bind_apply] at hr
  rcases h1 : scan cfg (scanHandles start count) none w with ⟨o1, w1⟩
  obtain ⟨htidy, hsel, hnone⟩ := scan_spec _ h1
  rw [h1] at hr
  have stay : ∀ o', Tidy w w1 ∧ (∃ hsel, ∀ x, x ≠ hsel → w1.tpm.persistent x = w.tpm.persistent x) ∧
      (cfg.forceNew = false → FillsOnly o' w w1) :=
    fun _ => ⟨htidy, hsel, fun hf => .of_persistent_eq (hnone (.inl hf))⟩
  rcases o1 with (r | _ | h) | m <;> simp only [pure_apply] at hr
  · cases hr
    exact stay _
  · cases hr
    exact stay _
  · have h0 := hnone (.inr ⟨_, rfl⟩)
    obtain ⟨htidy', hframe', -⟩ := createAndPersistAt_spec hr
    exact ⟨htidy.trans htidy', ⟨h, fun x hx => by rw [hframe' x hx, h0]⟩,
      fun _ => .of_persistent_eq_left h0 (.of_createAndPersistAt hr)⟩
  · cases hr
    exact stay _

/-- **`NewWithConfig`.** It keeps the transient objects unless a `FlushContext` fails,
changes at most one persistent object, without `ForceNew` only fills an empty handle with
the key of the client it returns, and closes the device again when it returns an error. -/
theorem newWithConfig_spec {cfg : Config} {w w' : World} {o : Outcome (Except DeviceError Client)}
    (hr : newWithConfig cfg w = (o, w')) :
    w.TransientRestored w' ∧ (∃ hsel, ∀ x, x ≠ hsel → w'.tpm.persistent x = w.tpm.persistent x) ∧
      (cfg.forceNew = false → FillsOnly o w w') ∧
      (∀ e, o = .ret (.error e) → w'.tpm.conns = w.tpm.conns) := by
  simp only [newWithConfig, bind_apply] at hr
  obtain ⟨w1, hf1, ⟨e, he, ht1, htr1, -⟩ | ⟨he, ht1, htr1⟩⟩ := openTPM_cases w <;> rw [he] at hr
  · cases hr
    exact ⟨.inl (by rw [ht1]), ⟨0, fun _ _ => by rw [ht1]⟩,
      fun _ => .of_persistent_eq (by rw [ht1]), fun _ _ => by rw [ht1]⟩
  have hb1 : w.Before w1 := World.before_of_step hf1 htr1
  -- the branch's call, then `rwc.Close()` on an error
  have finish : ∀ {o₂ : Outcome (Except DeviceError Client)} {w₂ : World}, Tidy w1 w₂ →
      (∃ hsel, ∀ x, x ≠ hsel → w₂.tpm.persistent x = w1.tpm.persistent x) →
      (cfg.forceNew = false → FillsOnly o₂ w1 w₂) →
      ((o = o₂ ∧ w' = w₂ ∧ ∀ e, o₂ ≠ .ret (.error e)) ∨ (∃ e, o₂ = .ret (.error e) ∧ o = o₂ ∧
        w' = { w₂ with tpm := { w₂.tpm with conns := w₂.tpm.conns - 1 } })) →
      w.TransientRestored w' ∧ (∃ hsel, ∀ x, x ≠ hsel → w'.tpm.persistent x = w.tpm.persistent x) ∧
        (cfg.forceNew = false → FillsOnly o w w') ∧
        (∀ e, o = .ret (.error e) → w'.tpm.conns = w.tpm.conns) := by
    intro o₂ w₂ htidy ⟨hsel, hframe⟩ hfill hr
    have hrest := World.TransientRestored.trans hb1 htidy.1 (.inl (by rw [ht1])) htidy.2.2
    have hp : w1.tpm.persistent = w.tpm.persistent := by rw [ht1]
    have hc : w₂.tpm.conns = w.tpm.conns + 1 := by rw [htidy.2.1, ht1]
    have hsel' : ∃ hsel, ∀ x, x ≠ hsel → w₂.tpm.persistent x = w.tpm.persistent x :=
      ⟨hsel, fun x hx => by rw [hframe x hx, hp]⟩
    rcases hr with ⟨rfl, rfl, hne⟩ | ⟨e, rfl, rfl, rfl⟩
    · exact ⟨hrest, hsel', fun hf => .of_persistent_eq_left hp (hfill hf),
        fun e he => absurd he (hne e)⟩
    · exact ⟨hrest, hsel', fun hf => .of_persistent_eq_left hp (hfill hf), fun _ _ => by simp [hc]⟩
  simp only at hr
  split at hr
  · simp only [bind_apply] at hr
    rcases h2 : openOrCreateAtHandle cfg cfg.handle w1 with ⟨o2, w2⟩
    obtain ⟨htidy, hframe, hfill⟩ := openOrCreateAtHandle_spec h2
    rw [h2] at hr
    refine finish htidy ⟨_, hframe⟩ hfill ?_
    rcases o2 with (e | c) | m <;> simp only [bind_apply, closeTPM, pure_apply] at hr <;> cases hr
    exacts [.inr ⟨e, rfl, rfl, rfl⟩, .inl ⟨rfl, rfl, nofun⟩, .inl ⟨rfl, rfl, nofun⟩]
  · simp only [bind_apply] at hr
    rcases h2 : pickOrCreateHandle cfg (if cfg.handleStart = 0 then defaultHandleStart
      else cfg.handleStart) (if cfg.handleCount = 0 then defaultHandleCount else cfg.handleCount)
      w1 with ⟨o2, w2⟩
    obtain ⟨htidy, hframe, hfill⟩ := pickOrCreateHandle_spec h2
    rw [h2] at hr
    refine finish htidy hframe hfill ?_
    rcases o2 with (e | c) | m <;> simp only [bind_apply, closeTPM, pure_apply] at hr <;> cases hr
    exacts [.inr ⟨e, rfl, rfl, rfl⟩, .inl ⟨rfl, rfl, nofun⟩, .inl ⟨rfl, rfl, nofun⟩]

end QuantumGoUtils.TpmDevice
