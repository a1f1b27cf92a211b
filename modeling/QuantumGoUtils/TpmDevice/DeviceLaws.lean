import Mathlib.Data.List.Nodup
import QuantumGoUtils.TpmDevice.Frame

/-!
# Laws of `NewWithConfig`

On a fault-free TPM and without `ForceNew`, a second `NewWithConfig` finds the key the
first one returned (`newWithConfig_stable`): the slots the scan passed before the first
empty one hold keys `publicToUncompressed` refuses, and that empty slot now holds the new
key, so the second scan stops there.

## Main results

* `newWithConfig_stable` — the device identity is stable across opens.
* `newWithConfig_frame` — what a call may change: one empty slot filled without
  `ForceNew`, at most one slot with it, the transient objects unless a `FlushContext`
  failed, and no connection left open on an error.
* `newWithConfig_leaks_transient` — a failed `FlushContext` leaves a transient object
  loaded.
* `newWithConfig_reuses_storage_key` — the scan reuses any key `publicToUncompressed`
  accepts, a P-256 key that cannot sign included.
-/

namespace QuantumGoUtils.TpmDevice

open QuantumGoUtils.Go.Strings QuantumGoUtils.GoTpm.Tpm2

/-! ## The fault-free TPM -/

/-- On the fault-free TPM `ReadPublic` reads the TPM. -/
theorem readPublic_of_faults_nil {h : Handle} {w w' : World} {o : Outcome (Except TpmError Public)}
    (hw : w.faults = []) (hr : readPublic h w = (o, w')) :
    o = .ret (w.tpm.readPublic h) ∧ w'.tpm = w.tpm ∧ w'.faults = [] := by
  obtain ⟨w₁, hf, ht, ⟨e, he, -, hor⟩ | ⟨p, hp, he, -⟩⟩ := readPublic_cases h w <;>
    rw [he] at hr <;> cases hr
  · rw [hw] at hor hf
    exact ⟨by rw [show w.tpm.readPublic h = _ by simpa using hor], ht, hf⟩
  · rw [hw] at hf
    exact ⟨by rw [hp], ht, hf⟩

/-! ## What the scan sees -/

/-- `h` holds a key `publicToUncompressed` turns into `u`. -/
def Usable (t : Tpm) (h : Handle) (u : GoString) : Prop :=
  ∃ p, t.readPublic h = .ok p ∧ publicToUncompressed p = .ret (.ok u)

/-- `h` holds a key `publicToUncompressed` refuses. -/
def Incompatible (t : Tpm) (h : Handle) : Prop :=
  ∃ p e, t.readPublic h = .ok p ∧ publicToUncompressed p = .ret (.error e)

/-- `ReadPublic` fails at `h` with an error `isHandleEmptyErr` takes for an empty slot. -/
def LooksEmpty (t : Tpm) (h : Handle) : Prop :=
  ∃ e, t.readPublic h = .error e ∧ isHandleEmptyErr e

/-- **One round of the scan** on the fault-free TPM without `ForceNew`: past a refused
key or an empty-looking slot it goes on, at a usable key it returns, and otherwise it
returns the error or panics. -/
theorem scan_cons_cases {cfg : Config} (hf : cfg.forceNew = false) (h : Handle)
    (hs : List Handle) (fe : Option Handle) {w : World} (hw : w.faults = []) :
    ∃ w₁, w₁.tpm = w.tpm ∧ w₁.faults = [] ∧
      ((Incompatible w.tpm h ∧ scan cfg (h :: hs) fe w = scan cfg hs fe w₁) ∨
        (LooksEmpty w.tpm h ∧ scan cfg (h :: hs) fe w = scan cfg hs (some (fe.getD h)) w₁) ∨
        (∃ u, Usable w.tpm h u ∧
          scan cfg (h :: hs) fe w = (.ret (.returned (.ok (newClient h u))), w₁)) ∨
        (∃ e, w.tpm.readPublic h = .error e ∧ isHandleEmptyErr e = false ∧
          scan cfg (h :: hs) fe w = (.ret (.returned (.error (.tpm e))), w₁)) ∨
        (∃ p m, w.tpm.readPublic h = .ok p ∧ publicToUncompressed p = .panic m ∧
          scan cfg (h :: hs) fe w = (.panic m, w₁))) := by
  rcases h1 : readPublic h w with ⟨o1, w₁⟩
  obtain ⟨rfl, ht1, hf1⟩ := readPublic_of_faults_nil hw h1
  refine ⟨w₁, ht1, hf1, ?_⟩
  simp only [scan, bind_apply, h1]
  rcases hp : w.tpm.readPublic h with e | p <;> simp only [liftOutcome, bind_apply]
  · cases he : isHandleEmptyErr e
    · exact .inr (.inr (.inr (.inl ⟨e, rfl, he, by simp [he]⟩)))
    · exact .inr (.inl ⟨⟨e, hp, he⟩, by simp [he]⟩)
  · rcases hu : publicToUncompressed p with (e | u) | m <;> simp only [pure_apply]
    · exact .inl ⟨⟨p, e, hp, hu⟩, by simp [hf]⟩
    · exact .inr (.inr (.inl ⟨u, ⟨p, hp, hu⟩, rfl⟩))
    · exact .inr (.inr (.inr (.inr ⟨p, m, rfl, hu, rfl⟩)))

/-- The scan over `hs` on `t` returns `c`: the slots before `c`'s handle hold refused keys
or look empty, and `c` is the client of the usable key at its handle. -/
def Finds (t : Tpm) (hs : List Handle) (c : Client) : Prop :=
  ∃ pre h post u, hs = pre ++ h :: post ∧
    (∀ x ∈ pre, Incompatible t x ∨ LooksEmpty t x) ∧ Usable t h u ∧ c = newClient h u

/-- What the scan finds depends only on what `ReadPublic` reads. -/
theorem Finds.congr {t t' : Tpm} {hs : List Handle} {c : Client}
    (hv : t'.readPublic = t.readPublic) (h : Finds t hs c) : Finds t' hs c := by
  simpa only [Finds, Usable, Incompatible, LooksEmpty, hv] using h

/-- A scan that returns a client found it. -/
theorem scan_returned_ok {cfg : Config} (hf : cfg.forceNew = false) (hs : List Handle)
    {fe : Option Handle} {w w' : World} {c : Client} (hw : w.faults = [])
    (hr : scan cfg hs fe w = (.ret (.returned (.ok c)), w')) : Finds w.tpm hs c := by
  induction hs generalizing fe w w' with
  | nil => simp [scan] at hr
  | cons h hs ih =>
    obtain ⟨w₁, ht, hf₁, ⟨hi, he⟩ | ⟨hl, he⟩ | ⟨u, hu, he⟩ | ⟨e, -, -, he⟩ | ⟨p, m, -, -, he⟩⟩ :=
      scan_cons_cases hf h hs fe hw <;> rw [he] at hr
    · obtain ⟨pre, h', post, u, rfl, hpre, hu, hc⟩ := ih hf₁ hr
      exact ⟨h :: pre, h', post, u, rfl,
        List.forall_mem_cons.mpr ⟨.inl hi, fun x hx => ht ▸ hpre x hx⟩, ht ▸ hu, hc⟩
    · obtain ⟨pre, h', post, u, rfl, hpre, hu, hc⟩ := ih hf₁ hr
      exact ⟨h :: pre, h', post, u, rfl,
        List.forall_mem_cons.mpr ⟨.inr hl, fun x hx => ht ▸ hpre x hx⟩, ht ▸ hu, hc⟩
    · cases hr
      exact ⟨[], h, hs, u, rfl, by simp, hu, rfl⟩
    · cases hr
    · cases hr

/-- A scan from no empty slot that runs to the end with an empty slot: the first empty-
looking slot, with only refused keys before it. -/
theorem scan_exhausted {cfg : Config} (hf : cfg.forceNew = false) (hs : List Handle)
    {fe : Option Handle} {w w' : World} {e : Handle} (hw : w.faults = [])
    (hr : scan cfg hs fe w = (.ret (.exhausted (some e)), w')) :
    fe = some e ∨ (fe = none ∧ ∃ pre post, hs = pre ++ e :: post ∧
      (∀ x ∈ pre, Incompatible w.tpm x) ∧ LooksEmpty w.tpm e) := by
  induction hs generalizing fe w w' with
  | nil =>
    cases hr
    exact .inl rfl
  | cons h hs ih =>
    obtain ⟨w₁, ht, hf₁, ⟨hi, he⟩ | ⟨hl, he⟩ | ⟨u, hu, he⟩ | ⟨e, -, -, he⟩ | ⟨p, m, -, -, he⟩⟩ :=
      scan_cons_cases hf h hs fe hw <;> rw [he] at hr
    · rcases ih hf₁ hr with rfl | ⟨rfl, pre, post, rfl, hpre, hl⟩
      · exact .inl rfl
      · exact .inr ⟨rfl, h :: pre, post, rfl,
          List.forall_mem_cons.mpr ⟨hi, fun x hx => ht ▸ hpre x hx⟩, ht ▸ hl⟩
    · rcases ih hf₁ hr with he | ⟨he, -⟩
      · cases fe with
        | none =>
          obtain rfl : h = e := by simpa using he
          exact .inr ⟨rfl, [], hs, rfl, by simp, hl⟩
        | some f => exact .inl (by simpa using he)
      · cases he
    · cases hr
    · cases hr
    · cases hr

theorem Usable.unique {t : Tpm} {h : Handle} {u u' : GoString} (hu : Usable t h u)
    (hu' : Usable t h u') : u = u' := by
  obtain ⟨p, hp, hpu⟩ := hu
  obtain ⟨p', hp', hpu'⟩ := hu'
  rw [hp] at hp'
  cases hp'
  rw [hpu] at hpu'
  cases hpu'
  rfl

/-- A scan returns what it finds. -/
theorem scan_of_finds {cfg : Config} (hf : cfg.forceNew = false) {hs : List Handle} {c : Client}
    {fe : Option Handle} {w : World} (hw : w.faults = []) (hfind : Finds w.tpm hs c) :
    (scan cfg hs fe w).1 = .ret (.returned (.ok c)) := by
  obtain ⟨pre, h, post, u, rfl, hpre, hu, rfl⟩ := hfind
  induction pre generalizing fe w with
  | nil =>
    obtain ⟨p, hp, hpu⟩ := hu
    obtain ⟨w₁, -, -, ⟨⟨p', e, hp', hpu'⟩, -⟩ | ⟨⟨e, hp', -⟩, -⟩ | ⟨u', hu', he⟩ | ⟨e, hp', -, -⟩ |
      ⟨p', m, hp', hpu', -⟩⟩ := scan_cons_cases hf h post fe hw
    · simp_all
    · simp_all
    · rw [List.nil_append, he, Usable.unique ⟨p, hp, hpu⟩ hu']
    all_goals simp_all
  | cons x pre ih =>
    obtain ⟨w₁, ht, hf₁, ⟨-, he⟩ | ⟨-, he⟩ | ⟨u', ⟨p, hp, hpu⟩, -⟩ | ⟨e, hp, hne, -⟩ |
      ⟨p, m, hp, hpu, -⟩⟩ := scan_cons_cases hf x (pre ++ h :: post) fe hw
    · rw [List.cons_append, he]
      exact ih hf₁ (fun y hy => ht ▸ hpre y (List.mem_cons_of_mem x hy)) (ht ▸ hu)
    · rw [List.cons_append, he]
      exact ih hf₁ (fun y hy => ht ▸ hpre y (List.mem_cons_of_mem x hy)) (ht ▸ hu)
    all_goals
      rcases hpre x (List.mem_cons_self x pre) with ⟨p', e', hp', hpu'⟩ | ⟨e', hp', he'⟩ <;>
        simp_all

/-! ## The first call -/

theorem toNat_handle_add (a b : Handle) : (a + b).toNat = (a.toNat + b.toNat) % 2 ^ 32 :=
  BitVec.toNat_add _ _

theorem toNat_toHandle (n : Nat) : (n.toUInt32 : Handle).toNat = n % 2 ^ 32 :=
  BitVec.toNat_ofNat _ _

/-- The scanned handles are distinct: fewer than `2^32` offsets never wrap onto each other. -/
theorem scanHandles_nodup (start : Handle) (count : UInt32) : (scanHandles start count).Nodup := by
  refine (List.nodup_range _).map_on fun a ha b hb hab => ?_
  have ha' := List.mem_range.mp ha
  have hb' := List.mem_range.mp hb
  have hc : count.toNat < 2 ^ 32 := count.toNat_lt_size
  have := congrArg UInt32.toNat hab
  simp only [toNat_handle_add, toNat_toHandle] at this
  omega

/-- A key created at an empty slot behind refused keys only is what the scan finds next
time. -/
theorem createAndPersistAt_finds {cfg : Config} {h : Handle} {pre post : List Handle}
    {w w' : World} {c : Client} (hw : w.faults = []) (hnd : h ∉ pre)
    (hpre : ∀ x ∈ pre, Incompatible w.tpm x) (hl : LooksEmpty w.tpm h)
    (hr : createAndPersistAt cfg h w = (.ret (.ok c), w')) : Finds w'.tpm (pre ++ h :: post) c := by
  obtain ⟨htidy, hframe, ⟨u, hc, hu, -, hpe⟩ | ⟨⟨e, he⟩, -⟩⟩ := createAndPersistAt_spec hr
  · cases hc
    have ht := htidy.2.2.of_faults_nil hw
    obtain ⟨e, he, -⟩ := hl
    refine ⟨pre, h, post, u, rfl, fun x hx => .inl ?_,
      ⟨_, Tpm.readPublic_of_object (by rw [ht]; exact Tpm.lookup_eq_none_of_readPublic_error he) hpe,
        hu⟩, rfl⟩
    obtain ⟨p, e', hp, hpu⟩ := hpre x hx
    exact ⟨p, e', (Tpm.readPublic_congr (hframe x fun hxh => hnd (hxh ▸ hx)) ht).trans hp, hpu⟩
  · cases he

/-- `pickOrCreateHandle` on the fault-free TPM: the client it returns is what a scan of
the TPM it leaves finds. -/
theorem pickOrCreateHandle_finds {cfg : Config} {start : Handle} {count : UInt32} {w w' : World}
    {c : Client} (hf : cfg.forceNew = false) (hw : w.faults = [])
    (hr : pickOrCreateHandle cfg start count w = (.ret (.ok c), w')) :
    Finds w'.tpm (scanHandles start count) c := by
  simp only [pickOrCreateHandle, bind_apply] at hr
  rcases h1 : scan cfg (scanHandles start count) none w with ⟨o1, w1⟩
  obtain ⟨htidy, -, hnone⟩ := scan_spec _ h1
  have hv : w1.tpm.readPublic = w.tpm.readPublic := funext fun x =>
    Tpm.readPublic_congr (congrFun (hnone (.inl hf)) x) (htidy.2.2.of_faults_nil hw)
  rw [h1] at hr
  rcases o1 with (r | _ | h) | m <;> simp only [pure_apply] at hr
  · cases hr
    exact (scan_returned_ok hf _ hw h1).congr hv
  · cases hr
  · obtain ⟨-, pre, post, hs, hpre, hl⟩ := (scan_exhausted hf _ hw h1).resolve_left nofun
    have hnd := hs ▸ scanHandles_nodup start count
    rw [hs]
    exact createAndPersistAt_finds (htidy.1.faults_nil hw)
      (fun hh => List.disjoint_of_nodup_append hnd hh (List.mem_cons_self _ _))
      (by simpa only [Incompatible, hv] using hpre) (by simpa only [LooksEmpty, hv] using hl) hr
  · cases hr

/-- `openOrCreateAtHandle` on the fault-free TPM without `ForceNew`: the client it returns
is the usable key at `h` on the TPM it leaves. -/
theorem openOrCreateAtHandle_finds {cfg : Config} {h : Handle} {w w' : World} {c : Client}
    (hf : cfg.forceNew = false) (hw : w.faults = [])
    (hr : openOrCreateAtHandle cfg h w = (.ret (.ok c), w')) : Finds w'.tpm [h] c := by
  simp only [openOrCreateAtHandle, hf, Bool.false_eq_true, if_false, bind_apply] at hr
  rcases h1 : readPublic h w with ⟨o1, w1⟩
  obtain ⟨rfl, ht1, hw1⟩ := readPublic_of_faults_nil hw h1
  rw [h1] at hr
  rcases hp : w.tpm.readPublic h with e | p <;> simp only [hp, bind_apply, liftOutcome] at hr
  · split at hr
    · cases hr
    · rename_i he
      exact createAndPersistAt_finds hw1 (List.not_mem_nil h) (by simp)
        ⟨e, by rw [ht1, hp], by simpa using he⟩ hr
  · rcases hu : publicToUncompressed p with (e | u) | m <;> simp only [hu, pure_apply] at hr <;>
      cases hr
    exact ⟨[], h, [], u, rfl, by simp, ⟨p, by rw [ht1, hp], hu⟩, rfl⟩

/-- The handles `NewWithConfig` reads, in order: the explicit handle, or the range with the
defaults filled in. -/
def Config.handles (cfg : Config) : List Handle :=
  if cfg.handle ≠ 0 then [cfg.handle]
  else scanHandles (if cfg.handleStart = 0 then defaultHandleStart else cfg.handleStart)
    (if cfg.handleCount = 0 then defaultHandleCount else cfg.handleCount)

/-- `NewWithConfig` on the fault-free TPM without `ForceNew`: the client it returns is what
its handles show on the TPM it leaves, which is still fault-free. -/
theorem newWithConfig_finds {cfg : Config} {w w' : World} {c : Client}
    (hf : cfg.forceNew = false) (hw : w.faults = [])
    (hr : newWithConfig cfg w = (.ret (.ok c), w')) : Finds w'.tpm cfg.handles c ∧ w'.faults = [] := by
  simp only [newWithConfig, bind_apply] at hr
  obtain ⟨w1, hf1, ⟨e, -, -, -, hinj⟩ | ⟨he, -, -⟩⟩ := openTPM_cases w
  · exact absurd (hw ▸ hinj) (List.not_mem_nil _)
  have hw1 : w1.faults = [] := by rw [hf1, hw]; rfl
  rw [he] at hr
  simp only at hr
  unfold Config.handles
  split at hr
  · rename_i hh
    rw [if_pos hh]
    simp only [bind_apply] at hr
    rcases h2 : openOrCreateAtHandle cfg cfg.handle w1 with ⟨o2, w2⟩
    rw [h2] at hr
    rcases o2 with (e | c') | m <;> simp only [bind_apply, closeTPM, pure_apply] at hr <;> cases hr
    exact ⟨openOrCreateAtHandle_finds hf hw1 h2, (openOrCreateAtHandle_spec h2).1.1.faults_nil hw1⟩
  · rename_i hh
    rw [if_neg hh]
    simp only [bind_apply] at hr
    rcases h2 : pickOrCreateHandle cfg (if cfg.handleStart = 0 then defaultHandleStart
      else cfg.handleStart) (if cfg.handleCount = 0 then defaultHandleCount else cfg.handleCount)
      w1 with ⟨o2, w2⟩
    rw [h2] at hr
    rcases o2 with (e | c') | m <;> simp only [bind_apply, closeTPM, pure_apply] at hr <;> cases hr
    exact ⟨pickOrCreateHandle_finds hf hw1 h2, (pickOrCreateHandle_spec h2).1.1.faults_nil hw1⟩

/-! ## The second call -/

/-- `pickOrCreateHandle` returns what the scan finds. -/
theorem pickOrCreateHandle_of_finds {cfg : Config} {start : Handle} {count : UInt32} {w : World}
    {c : Client} (hf : cfg.forceNew = false) (hw : w.faults = [])
    (hfind : Finds w.tpm (scanHandles start count) c) :
    (pickOrCreateHandle cfg start count w).1 = .ret (.ok c) := by
  have hs : (scan cfg (scanHandles start count) none w).1 = _ := scan_of_finds hf hw hfind
  simp only [pickOrCreateHandle, bind_apply]
  rcases h1 : scan cfg (scanHandles start count) none w with ⟨o1, w1⟩
  rw [h1] at hs
  obtain rfl : o1 = _ := hs
  rfl

/-- `openOrCreateAtHandle` without `ForceNew` returns the usable key at `h`. -/
theorem openOrCreateAtHandle_of_finds {cfg : Config} {h : Handle} {w : World} {c : Client}
    (hf : cfg.forceNew = false) (hw : w.faults = []) (hfind : Finds w.tpm [h] c) :
    (openOrCreateAtHandle cfg h w).1 = .ret (.ok c) := by
  obtain ⟨pre, h', post, u, hs, -, ⟨p, hp, hpu⟩, rfl⟩ := hfind
  obtain rfl : h' = h := by
    rcases pre with _ | ⟨x, pre⟩ <;> simp at hs
    exact hs.1.symm
  simp only [openOrCreateAtHandle, hf, Bool.false_eq_true, if_false, bind_apply]
  rcases h1 : readPublic h' w with ⟨o1, w1⟩
  obtain ⟨rfl, -, -⟩ := readPublic_of_faults_nil hw h1
  simp only [hp, liftOutcome, bind_apply, hpu, pure_apply]

/-- `NewWithConfig` on the fault-free TPM without `ForceNew` returns what its handles
show. -/
theorem newWithConfig_of_finds {cfg : Config} {w : World} {c : Client} (hf : cfg.forceNew = false)
    (hw : w.faults = []) (hfind : Finds w.tpm cfg.handles c) :
    (newWithConfig cfg w).1 = .ret (.ok c) := by
  obtain ⟨w1, hf1, ⟨e, -, -, -, hinj⟩ | ⟨he, ht1, -⟩⟩ := openTPM_cases w
  · exact absurd (hw ▸ hinj) (List.not_mem_nil _)
  have hw1 : w1.faults = [] := by rw [hf1, hw]; rfl
  have hfind1 : Finds w1.tpm cfg.handles c := hfind.congr (by rw [ht1]; rfl)
  simp only [newWithConfig, bind_apply, he]
  unfold Config.handles at hfind1
  by_cases hh : cfg.handle ≠ 0
  · rw [if_pos hh] at hfind1 ⊢
    have h2 := openOrCreateAtHandle_of_finds hf hw1 hfind1
    rcases h3 : openOrCreateAtHandle cfg cfg.handle w1 with ⟨o2, w2⟩
    rw [h3] at h2
    obtain rfl : o2 = _ := h2
    simp only [bind_apply, h3, pure_apply]
  · rw [if_neg hh] at hfind1 ⊢
    have h2 := pickOrCreateHandle_of_finds hf hw1 hfind1
    rcases h3 : pickOrCreateHandle cfg (if cfg.handleStart = 0 then defaultHandleStart
      else cfg.handleStart) (if cfg.handleCount = 0 then defaultHandleCount else cfg.handleCount)
      w1 with ⟨o2, w2⟩
    rw [h3] at h2
    obtain rfl : o2 = _ := h2
    simp only [bind_apply, h3, pure_apply]

/-! ## Concrete TPMs -/

/-- The zero `Config{}`: the default range, without `ForceNew`. -/
def zeroConfig : Config := ⟨0, false, [], 0, 0⟩

/-- A TPM with no persistent and no transient object, room for three transient objects,
an empty owner password, and a primary point with small coordinates. -/
def freshTpm : Tpm where
  persistent _ := .empty
  transient := []
  transientSlots := 3
  ownerAuth := []
  primaryPoint := ⟨5, 7, by decide, by decide⟩
  conns := 0

/-- The client of the key `freshTpm` derives, persisted at the default handle. -/
def freshClient : Client :=
  newClient defaultHandleStart ([4] ++ List.replicate 31 0 ++ [5] ++ List.replicate 31 0 ++ [7])

/-! ## Stability -/

/-- **Stable device identity.** On a TPM whose commands all behave as modelled, a
`NewWithConfig` without `ForceNew` that returns a client is followed by one that returns
the same client: the same handle and the same public key. -/
theorem newWithConfig_stable {cfg : Config} {w w' : World} {c : Client}
    (hf : cfg.forceNew = false) (hw : w.faults = [])
    (hr : newWithConfig cfg w = (.ret (.ok c), w')) :
    ∃ w'', newWithConfig cfg w' = (.ret (.ok c), w'') := by
  obtain ⟨hfind, hw'⟩ := newWithConfig_finds hf hw hr
  exact ⟨_, Prod.ext (newWithConfig_of_finds hf hw' hfind) rfl⟩

theorem newWithConfig_stable_fresh :
    ∃ w', newWithConfig zeroConfig ⟨freshTpm, [], []⟩ = (.ret (.ok freshClient), w') ∧
      ∃ w'', newWithConfig zeroConfig w' = (.ret (.ok freshClient), w'') :=
  have hr : newWithConfig zeroConfig ⟨freshTpm, [], []⟩ =
      (.ret (.ok freshClient), (newWithConfig zeroConfig ⟨freshTpm, [], []⟩).2) :=
    Prod.ext (by decide) rfl
  ⟨_, hr, newWithConfig_stable rfl rfl hr⟩

/-! ## The frame of a call -/

/-- **What `NewWithConfig` changes.** Without `ForceNew` it only fills an empty handle, the
one of the client it returns; in any case it changes at most one persistent object. The
transient objects are those it found, unless one of its `FlushContext` commands failed;
and on an error the device connection it opened is closed again. -/
theorem newWithConfig_frame {cfg : Config} {w w' : World} {o : Outcome (Except DeviceError Client)}
    (hr : newWithConfig cfg w = (o, w')) :
    (cfg.forceNew = false → FillsOnly o w w') ∧
      (∃ hsel, ∀ x, x ≠ hsel → w'.tpm.persistent x = w.tpm.persistent x) ∧
      (w'.tpm.transient = w.tpm.transient ∨
        ∃ h, (⟨.flushContext h, true⟩ : Event) ∈ w'.trace.drop w.trace.length) ∧
      (∀ e, o = .ret (.error e) → w'.tpm.conns = w.tpm.conns) := by
  obtain ⟨hrest, hsel, hfill, hconns⟩ := newWithConfig_spec hr
  exact ⟨hfill, hsel, hrest.imp_right fun h => h.1, hconns⟩

theorem newWithConfig_frame_fresh :
    ∃ o w', newWithConfig zeroConfig ⟨freshTpm, [], []⟩ = (o, w') ∧
      (zeroConfig.forceNew = false → FillsOnly o ⟨freshTpm, [], []⟩ w') ∧
      (∃ hsel, ∀ x, x ≠ hsel → w'.tpm.persistent x = freshTpm.persistent x) ∧
      (w'.tpm.transient = freshTpm.transient ∨
        ∃ h, (⟨.flushContext h, true⟩ : Event) ∈ w'.trace.drop 0) ∧
      (∀ e, o = .ret (.error e) → w'.tpm.conns = freshTpm.conns) :=
  ⟨_, _, rfl, newWithConfig_frame rfl⟩

/-- The explicit handle `0x8100A001`, without `ForceNew`. -/
def handleConfig : Config := ⟨0x8100A001, false, [], 0, 0⟩

/-- `freshTpm` with a transport error on the sixth command: the `FlushContext` after the
new key is persisted. -/
def flushFailWorld : World :=
  ⟨freshTpm, [none, none, none, none, none, some ⟨lit "tpm: transport error"⟩], []⟩

/-- A failed `FlushContext` leaves the new key's transient copy loaded, and the call
still returns the client. -/
theorem newWithConfig_leaks_transient :
    (newWithConfig handleConfig flushFailWorld).1 = .ret (.ok freshClient) ∧
      (newWithConfig handleConfig flushFailWorld).2.tpm.transient ≠ flushFailWorld.tpm.transient := by
  decide

/-! ## Keys the scan reuses -/

/-- A P-256 storage key: restricted, decrypts, does not sign (attributes
`0x00030072`). -/
def storageKey : Public := ⟨algECC, 0x00030072, curveNISTP256, 3, 4⟩

/-- `freshTpm` with a storage key at the default handle. -/
def storageKeyTpm : Tpm :=
  { freshTpm with persistent := fun h => if h = defaultHandleStart then .object storageKey else .empty }

/-- The zero configuration reuses the storage key as the device's signing key: its
attributes lack `FlagSign`. -/
theorem newWithConfig_reuses_storage_key :
    ∃ c, (newWithConfig zeroConfig ⟨storageKeyTpm, [], []⟩).1 = .ret (.ok c) ∧
      c.handle = defaultHandleStart ∧
      (newWithConfig zeroConfig ⟨storageKeyTpm, [], []⟩).2.tpm.persistent c.handle =
        .object storageKey ∧
      storageKey.attributes &&& flagSign = 0 :=
  ⟨_, rfl, rfl, rfl, rfl⟩

end QuantumGoUtils.TpmDevice
