import Mathlib.Logic.Function.Basic
import QuantumGoUtils.Go.Strconv

/-!
# The TPM behind `go-tpm`'s legacy `tpm2` package

`tpmdevice` drives the TPM through `github.com/google/go-tpm/legacy/tpm2`: `ReadPublic`,
`CreatePrimary`, `EvictControl` and `FlushContext`, over a connection that `openTPM`
opens and `Close` closes. This module models the TPM those calls reach: persistent objects
by handle, loaded transient objects, the owner hierarchy's authorization and the key its
primary seed derives.

A command does what the TPM 2.0 specification says, or fails and changes nothing: TPM
commands are atomic. Which commands fail is not the caller's choice, so the world carries
a fault schedule, read one entry per command: `some e` makes the command fail with `e`,
`none` (or the end of the schedule) lets it run. The empty schedule is the fault-free
TPM. The world also keeps the trace of the commands issued and whether each failed.

Go code on the TPM is a `TpmM` computation: from a world to an `Outcome` (a return, or a
panic) and the next world.

A public area keeps what `Public.Key` reads (the type, the attributes, the curve and the
point of an ECC key). A TPM error is the text of its `Error` method, the only thing the
repository reads of it.
-/

namespace QuantumGoUtils.GoTpm.Tpm2

open QuantumGoUtils.Go.Strings QuantumGoUtils.Go.Strconv

/-- A `tpmutil.Handle`. -/
abbrev Handle := UInt32

/-- `tpm2.HandleOwner`. -/
def handleOwner : Handle := 0x40000001

/-- Whether `h` is in the owner's persistent range, `0x81000000` to `0x817FFFFF`. -/
def inOwnerPersistentRange (h : Handle) : Bool := 0x81000000 ≤ h.toNat && h.toNat ≤ 0x817FFFFF

/-! ## Public areas -/

/-- `tpm2.AlgRSA`. -/
def algRSA : UInt16 := 0x0001

/-- `tpm2.AlgECC`. -/
def algECC : UInt16 := 0x0023

/-- `tpm2.CurveNISTP224`. -/
def curveNISTP224 : UInt16 := 0x0002

/-- `tpm2.CurveNISTP256`. -/
def curveNISTP256 : UInt16 := 0x0003

/-- `tpm2.CurveNISTP384`. -/
def curveNISTP384 : UInt16 := 0x0004

/-- `tpm2.CurveNISTP521`. -/
def curveNISTP521 : UInt16 := 0x0005

/-- `tpm2.FlagFixedTPM`. -/
def flagFixedTPM : UInt32 := 0x00000002

/-- `tpm2.FlagFixedParent`. -/
def flagFixedParent : UInt32 := 0x00000010

/-- `tpm2.FlagSensitiveDataOrigin`. -/
def flagSensitiveDataOrigin : UInt32 := 0x00000020

/-- `tpm2.FlagUserWithAuth`. -/
def flagUserWithAuth : UInt32 := 0x00000040

/-- `tpm2.FlagSign`, the attribute that lets a key sign. -/
def flagSign : UInt32 := 0x00040000

/-- A `tpm2.Public`: the type, the object attributes, and for an ECC key its curve and
point. -/
structure Public where
  type : UInt16
  attributes : UInt32
  curveID : UInt16
  x : Nat
  y : Nat
  deriving DecidableEq, Repr

/-- The key `Public.Key` builds. -/
inductive GoKey where
  /-- An `*rsa.PublicKey`. -/
  | rsa
  /-- An `*ecdsa.PublicKey` on a Go curve. -/
  | ecdsa (curve : UInt16) (x y : Nat)
  deriving DecidableEq, Repr

/-- Why `Public.Key` fails. -/
inductive KeyError where
  /-- "can't map TPM EC curve ID 0x%x to Go elliptic.Curve value" -/
  | unmappedCurve (id : UInt16)
  /-- "unsupported public key type 0x%x" -/
  | unsupportedType (alg : UInt16)
  deriving DecidableEq, Repr

/-- The keys of go-tpm's `toGoCurve`. -/
def goCurves : List UInt16 := [curveNISTP224, curveNISTP256, curveNISTP384, curveNISTP521]

/-- `Public.Key`. -/
def Public.key (p : Public) : Except KeyError GoKey :=
  if p.type = algRSA then .ok .rsa
  else if p.type = algECC then
    if p.curveID ∈ goCurves then .ok (.ecdsa p.curveID p.x p.y)
    else .error (.unmappedCurve p.curveID)
  else .error (.unsupportedType p.type)

/-! ## Errors -/

/-- A `tpm2` error, by the text of its `Error` method. -/
structure TpmError where
  text : GoString
  deriving DecidableEq, Repr

/-- go-tpm's `HandleError` for `TPM_RC_HANDLE` on the command's handle `n`, what
`ReadPublic` returns for a handle that holds no object. -/
def handleError (n : Nat) : TpmError :=
  ⟨lit "handle " ++ decimal n ++ lit ", error code 0xb : the handle is not correct for the use"⟩

/-- go-tpm's `ParameterError` for `TPM_RC_HANDLE` on parameter 1: `FlushContext` of a
handle that is not loaded. -/
def flushHandleError : TpmError :=
  ⟨lit "parameter 1, error code 0xb : the handle is not correct for the use"⟩

/-- `TPM_RC_RANGE` on parameter 1: `EvictControl` to a handle outside the owner's range. -/
def rangeError : TpmError := ⟨lit "parameter 1, error code 0xd : value was out of allowed range"⟩

/-- `TPM_RC_NV_DEFINED`: `EvictControl` to a persistent handle that is taken. -/
def nvDefinedError : TpmError :=
  ⟨lit "error code 0x4c : NV Index or persistent object already defined"⟩

/-- `TPM_RC_AUTH_FAIL` on session 1: a wrong owner password. -/
def authFailError : TpmError :=
  ⟨lit "session 1, error code 0xe : the authorization HMAC check failed and DA counter incremented"⟩

/-- `TPM_RC_OBJECT_MEMORY`: no free slot for a transient object. -/
def objectMemoryError : TpmError := ⟨lit "warning code 0x2 : out of memory for object contexts"⟩

/-! ## The TPM and the world -/

/-- What a persistent handle holds, as `ReadPublic` finds it. -/
inductive Slot where
  | empty
  | object (pub : Public)
  /-- An object that `ReadPublic` fails on, with the error it returns. -/
  | unreadable (e : TpmError)
  deriving DecidableEq, Repr

/-- An ECC point with both coordinates below `2^256`, as every P-256 point has. -/
structure Point256 where
  x : Nat
  y : Nat
  x_lt : x < 2 ^ 256
  y_lt : y < 2 ^ 256

/-- The TPM's state. -/
structure Tpm where
  /-- The persistent objects, by handle. -/
  persistent : Handle → Slot
  /-- The loaded transient objects, by handle. -/
  transient : List (Handle × Public)
  /-- How many transient objects the TPM can hold at once. -/
  transientSlots : Nat
  /-- The owner hierarchy's authorization value. -/
  ownerAuth : GoString
  /-- The point the owner hierarchy's primary seed derives for the P-256 signing template:
  `CreatePrimary` of one template always gives one key. -/
  primaryPoint : Point256
  /-- The connections to the device that are open. -/
  conns : Nat

/-- A TPM command, as the trace records it. -/
inductive Cmd where
  | openTPM
  | readPublic (h : Handle)
  | createPrimary
  | evictControl (obj persist : Handle)
  | flushContext (h : Handle)
  deriving DecidableEq, Repr

/-- A command of the trace, and whether it failed. -/
structure Event where
  cmd : Cmd
  failed : Bool
  deriving DecidableEq, Repr

/-- The TPM, the schedule of injected failures, and the trace. -/
structure World where
  tpm : Tpm
  faults : List (Option TpmError)
  trace : List Event

/-! ## Commands on the TPM -/

/-- `ReadPublic`: a loaded transient object, or else the persistent slot. -/
def Tpm.readPublic (t : Tpm) (h : Handle) : Except TpmError Public :=
  match List.lookup h t.transient with
  | some p => .ok p
  | none =>
    match t.persistent h with
    | .empty => .error (handleError 1)
    | .object p => .ok p
    | .unreadable e => .error e

/-- The first free transient handle, `0x80000000 + i` for a slot `i`. -/
def Tpm.freeTransient (t : Tpm) : Option Handle :=
  ((List.range t.transientSlots).map fun i => (0x80000000 + i).toUInt32).find?
    fun h => (List.lookup h t.transient).isNone

/-- `CreatePrimary` under the owner hierarchy with password `auth`: the template with the
derived point, loaded at a free transient handle. -/
def Tpm.createPrimary (t : Tpm) (auth : GoString) (template : Public) :
    Except TpmError (Handle × Tpm) :=
  if auth ≠ t.ownerAuth then .error authFailError
  else
    match t.freeTransient with
    | none => .error objectMemoryError
    | some h =>
      let pub := { template with x := t.primaryPoint.x, y := t.primaryPoint.y }
      .ok (h, { t with transient := t.transient ++ [(h, pub)] })

/-- `EvictControl` under the owner hierarchy with password `auth`: a copy of the loaded
transient object `obj` made persistent at the free handle `persist`, or the persistent
object `obj = persist` removed. -/
def Tpm.evictControl (t : Tpm) (auth : GoString) (obj persist : Handle) : Except TpmError Tpm :=
  if auth ≠ t.ownerAuth then .error authFailError
  else
    match List.lookup obj t.transient with
    | some p =>
      if !inOwnerPersistentRange persist then .error rangeError
      else if t.persistent persist ≠ .empty then .error nvDefinedError
      else .ok { t with persistent := Function.update t.persistent persist (.object p) }
    | none =>
      if t.persistent obj = .empty || obj ≠ persist then .error (handleError 2)
      else .ok { t with persistent := Function.update t.persistent obj .empty }

/-- `FlushContext`: unload a transient object. -/
def Tpm.flushContext (t : Tpm) (h : Handle) : Except TpmError Tpm :=
  if (List.lookup h t.transient).isSome then .ok { t with transient := t.transient.filter (·.1 != h) }
  else .error flushHandleError

/-! ## Go code on the TPM -/

/-- How a Go call ends: it returns, or it panics with a message. -/
inductive Outcome (α : Type) where
  | ret (a : α)
  | panic (msg : GoString)
  deriving DecidableEq, Repr

/-- Go code running against the TPM. -/
def TpmM (α : Type) : Type := World → Outcome α × World

instance : Monad TpmM where
  pure a w := (.ret a, w)
  bind x f w :=
    match x w with
    | (.ret a, w') => f a w'
    | (.panic m, w') => (.panic m, w')

@[simp] theorem pure_apply {α : Type} (a : α) (w : World) :
    (pure a : TpmM α) w = (.ret a, w) := rfl

@[simp] theorem bind_apply {α β : Type} (x : TpmM α) (f : α → TpmM β) (w : World) :
    (x >>= f) w = match x w with
      | (.ret a, w') => f a w'
      | (.panic m, w') => (.panic m, w') := rfl

/-- A computation that does not touch the TPM. -/
def liftOutcome {α : Type} (o : Outcome α) : TpmM α := fun w => (o, w)

/-- The world after a command: one schedule entry used, the command traced. -/
def World.log (w : World) (cmd : Cmd) (failed : Bool) : World :=
  { w with faults := w.faults.tail, trace := w.trace ++ [⟨cmd, failed⟩] }

/-- Issue a command: the next schedule entry fails it, or it runs on the TPM. -/
def issue {α : Type} (cmd : Cmd) (run : Tpm → Except TpmError (α × Tpm)) :
    TpmM (Except TpmError α) := fun w =>
  let r : Except TpmError (α × Tpm) := match w.faults.head? with
    | some (some e) => .error e
    | _ => run w.tpm
  match r with
  | .ok (a, t) => (.ret (.ok a), { w.log cmd false with tpm := t })
  | .error e => (.ret (.error e), w.log cmd true)

/-- `tpm2.ReadPublic`. -/
def readPublic (h : Handle) : TpmM (Except TpmError Public) :=
  issue (.readPublic h) fun t => (t.readPublic h).map (·, t)

/-- `tpm2.CreatePrimary` under `tpm2.HandleOwner`. -/
def createPrimary (auth : GoString) (template : Public) : TpmM (Except TpmError Handle) :=
  issue .createPrimary fun t => t.createPrimary auth template

/-- `tpm2.EvictControl` under `tpm2.HandleOwner`. -/
def evictControl (auth : GoString) (obj persist : Handle) : TpmM (Except TpmError Unit) :=
  issue (.evictControl obj persist) fun t => ((), ·) <$> t.evictControl auth obj persist

/-- `tpm2.FlushContext`. -/
def flushContext (h : Handle) : TpmM (Except TpmError Unit) :=
  issue (.flushContext h) fun t => ((), ·) <$> t.flushContext h

/-- `openTPM`: a new connection to the device. -/
def openTPM : TpmM (Except TpmError Unit) :=
  issue .openTPM fun t => .ok ((), { t with conns := t.conns + 1 })

/-- `rwc.Close()`, whose error the repository ignores. -/
def closeTPM : TpmM Unit := fun w => (.ret (), { w with tpm := { w.tpm with conns := w.tpm.conns - 1 } })

/-! ## What each command does to the TPM -/

/-- `CreatePrimary` loads one new object, at a handle that was free. -/
theorem Tpm.createPrimary_ok {t t' : Tpm} {auth : GoString} {tmpl : Public} {h : Handle}
    (hc : t.createPrimary auth tmpl = .ok (h, t')) :
    t.transient.lookup h = none ∧
      t' = { t with transient := t.transient ++
        [(h, { tmpl with x := t.primaryPoint.x, y := t.primaryPoint.y })] } := by
  unfold Tpm.createPrimary at hc
  split_ifs at hc
  split at hc
  · cases hc
  · rename_i hf
    cases hc
    exact ⟨by simpa using List.find?_some hf, rfl⟩

/-- `EvictControl` makes the loaded object `obj` persistent at an empty handle `persist`,
or removes the persistent object `obj = persist`. -/
theorem Tpm.evictControl_ok {t t' : Tpm} {auth : GoString} {obj persist : Handle}
    (he : t.evictControl auth obj persist = .ok t') :
    (∃ p, t.transient.lookup obj = some p ∧ t.persistent persist = .empty ∧
      t' = { t with persistent := Function.update t.persistent persist (.object p) }) ∨
    (t.transient.lookup obj = none ∧ obj = persist ∧
      t' = { t with persistent := Function.update t.persistent persist .empty }) := by
  unfold Tpm.evictControl at he
  rw [if_neg (by rintro h; simp [h] at he)] at he
  split at he
  · rename_i p hp
    split_ifs at he with h1 h2
    cases he
    exact .inl ⟨p, hp, not_not.mp h2, rfl⟩
  · rename_i hp
    split_ifs at he with h1
    cases he
    simp only [Bool.or_eq_true, decide_eq_true_eq, not_or, not_not] at h1
    exact .inr ⟨hp, h1.2, by rw [h1.2]⟩

/-- `FlushContext` unloads a loaded object. -/
theorem Tpm.flushContext_ok {t t' : Tpm} {h : Handle} (hf : t.flushContext h = .ok t') :
    t' = { t with transient := t.transient.filter (·.1 != h) } := by
  unfold Tpm.flushContext at hf
  split_ifs at hf
  cases hf
  rfl

/-- Unloading a handle that was not loaded changes nothing. -/
theorem filter_fst_ne_of_lookup {l : List (Handle × Public)} {h : Handle}
    (hl : l.lookup h = none) : l.filter (·.1 != h) = l := by
  refine List.filter_eq_self.mpr fun p hp => ?_
  have := List.lookup_eq_none_iff.mp hl p hp
  simp only [bne_iff_ne, ne_eq] at this ⊢
  exact Ne.symm this

/-- `ReadPublic` reads only the persistent slot and the transient objects. -/
theorem Tpm.readPublic_congr {t t' : Tpm} {h : Handle} (hp : t'.persistent h = t.persistent h)
    (ht : t'.transient = t.transient) : t'.readPublic h = t.readPublic h := by
  simp only [Tpm.readPublic, hp, ht]

/-- A handle `ReadPublic` fails on holds no transient object. -/
theorem Tpm.lookup_eq_none_of_readPublic_error {t : Tpm} {h : Handle} {e : TpmError}
    (he : t.readPublic h = .error e) : t.transient.lookup h = none := by
  unfold Tpm.readPublic at he
  split at he
  · cases he
  · assumption

/-- With no transient object at `h`, `ReadPublic` reads the persistent object there. -/
theorem Tpm.readPublic_of_object {t : Tpm} {h : Handle} {p : Public}
    (hl : t.transient.lookup h = none) (hp : t.persistent h = .object p) :
    t.readPublic h = .ok p := by
  simp [Tpm.readPublic, hl, hp]

/-! ## Issuing commands -/

@[simp] theorem World.log_tpm (w : World) (c : Cmd) (f : Bool) : (w.log c f).tpm = w.tpm := rfl

@[simp] theorem World.log_faults (w : World) (c : Cmd) (f : Bool) :
    (w.log c f).faults = w.faults.tail := rfl

@[simp] theorem World.log_trace (w : World) (c : Cmd) (f : Bool) :
    (w.log c f).trace = w.trace ++ [⟨c, f⟩] := rfl

/-- A command fails, by an injected fault or on the TPM, and leaves the TPM as it was; or
it runs to a new TPM. Either way it uses one schedule entry and is traced. -/
theorem issue_cases {α : Type} (cmd : Cmd) (run : Tpm → Except TpmError (α × Tpm))
    (w : World) :
    ∃ w', w'.faults = w.faults.tail ∧
      ((∃ e, issue cmd run w = (.ret (.error e), w') ∧ w'.tpm = w.tpm ∧
          w'.trace = w.trace ++ [⟨cmd, true⟩] ∧ (some e ∈ w.faults ∨ run w.tpm = .error e)) ∨
        (∃ a, run w.tpm = .ok (a, w'.tpm) ∧ issue cmd run w = (.ret (.ok a), w') ∧
          w'.trace = w.trace ++ [⟨cmd, false⟩])) := by
  unfold issue
  rcases hf : w.faults.head? with _ | _ | e
  all_goals rcases hr : run w.tpm with e' | ⟨a, t⟩
  all_goals first
    | exact ⟨_, rfl, .inl ⟨_, rfl, rfl, rfl, .inr rfl⟩⟩
    | exact ⟨_, rfl, .inr ⟨_, rfl, rfl, rfl⟩⟩
    | exact ⟨_, rfl, .inl ⟨_, rfl, rfl, rfl, .inl (List.mem_of_mem_head? hf)⟩⟩

/-- `ReadPublic` fails, or reads the TPM; it changes nothing. -/
theorem readPublic_cases (h : Handle) (w : World) :
    ∃ w', w'.faults = w.faults.tail ∧ w'.tpm = w.tpm ∧
      ((∃ e, readPublic h w = (.ret (.error e), w') ∧
          w'.trace = w.trace ++ [⟨.readPublic h, true⟩] ∧
          (some e ∈ w.faults ∨ w.tpm.readPublic h = .error e)) ∨
        (∃ p, w.tpm.readPublic h = .ok p ∧ readPublic h w = (.ret (.ok p), w') ∧
          w'.trace = w.trace ++ [⟨.readPublic h, false⟩])) := by
  obtain ⟨w', hf, ⟨e, he, ht, htr, hor⟩ | ⟨a, hr, he, htr⟩⟩ :=
    issue_cases (.readPublic h) (fun t => (t.readPublic h).map (·, t)) w
  · refine ⟨w', hf, ht, .inl ⟨e, he, htr, hor.imp_right fun hr => ?_⟩⟩
    cases hp : w.tpm.readPublic h <;> simp_all [Except.map]
  · cases hp : w.tpm.readPublic h <;> simp only [hp, Except.map, Except.ok.injEq,
      Prod.mk.injEq, reduceCtorEq] at hr
    exact ⟨w', hf, hr.2.symm, .inr ⟨a, hr.1 ▸ rfl, he, htr⟩⟩

/-- `CreatePrimary` fails, or loads the new key. -/
theorem createPrimary_cases (auth : GoString) (tmpl : Public) (w : World) :
    ∃ w', w'.faults = w.faults.tail ∧
      ((∃ e, createPrimary auth tmpl w = (.ret (.error e), w') ∧ w'.tpm = w.tpm ∧
          w'.trace = w.trace ++ [⟨.createPrimary, true⟩]) ∨
        (∃ h, w.tpm.createPrimary auth tmpl = .ok (h, w'.tpm) ∧
          createPrimary auth tmpl w = (.ret (.ok h), w') ∧
          w'.trace = w.trace ++ [⟨.createPrimary, false⟩])) := by
  obtain ⟨w', hf, ⟨e, he, ht, htr, -⟩ | h⟩ := issue_cases .createPrimary
    (fun t => t.createPrimary auth tmpl) w
  exacts [⟨w', hf, .inl ⟨e, he, ht, htr⟩⟩, ⟨w', hf, .inr h⟩]

/-- `EvictControl` fails, or changes the persistent objects. -/
theorem evictControl_cases (auth : GoString) (obj persist : Handle) (w : World) :
    ∃ w', w'.faults = w.faults.tail ∧
      ((∃ e, evictControl auth obj persist w = (.ret (.error e), w') ∧ w'.tpm = w.tpm ∧
          w'.trace = w.trace ++ [⟨.evictControl obj persist, true⟩]) ∨
        (w.tpm.evictControl auth obj persist = .ok w'.tpm ∧
          evictControl auth obj persist w = (.ret (.ok ()), w') ∧
          w'.trace = w.trace ++ [⟨.evictControl obj persist, false⟩])) := by
  obtain ⟨w', hf, ⟨e, he, ht, htr, -⟩ | ⟨a, hr, he, htr⟩⟩ := issue_cases
    (.evictControl obj persist) (fun t => ((), ·) <$> t.evictControl auth obj persist) w
  · exact ⟨w', hf, .inl ⟨e, he, ht, htr⟩⟩
  · cases hp : w.tpm.evictControl auth obj persist <;>
      simp only [hp, Functor.map, Except.map, Except.ok.injEq, Prod.mk.injEq, reduceCtorEq] at hr
    exact ⟨w', hf, .inr ⟨hr.2 ▸ rfl, he, htr⟩⟩

/-- `FlushContext` unloads an object, or fails; on a loaded object it fails only by an
injected fault. -/
theorem flushContext_cases (h : Handle) (w : World) :
    ∃ w', w'.faults = w.faults.tail ∧
      ((∃ e, flushContext h w = (.ret (.error e), w') ∧ w'.tpm = w.tpm ∧
          w'.trace = w.trace ++ [⟨.flushContext h, true⟩] ∧
          (some e ∈ w.faults ∨ w.tpm.transient.lookup h = none)) ∨
        (flushContext h w = (.ret (.ok ()), w') ∧
          w'.tpm = { w.tpm with transient := w.tpm.transient.filter (·.1 != h) } ∧
          w'.trace = w.trace ++ [⟨.flushContext h, false⟩])) := by
  obtain ⟨w', hf, ⟨e, he, ht, htr, hor⟩ | ⟨a, hr, he, htr⟩⟩ :=
    issue_cases (.flushContext h) (fun t => ((), ·) <$> t.flushContext h) w
  · refine ⟨w', hf, .inl ⟨e, he, ht, htr, hor.imp_right fun hr => ?_⟩⟩
    unfold Tpm.flushContext at hr
    split_ifs at hr with hl
    · simp [Functor.map, Except.map] at hr
    · exact Option.not_isSome_iff_eq_none.mp hl
  · cases hp : w.tpm.flushContext h <;>
      simp only [hp, Functor.map, Except.map, Except.ok.injEq, Prod.mk.injEq, reduceCtorEq] at hr
    exact ⟨w', hf, .inr ⟨he, hr.2 ▸ Tpm.flushContext_ok hp, htr⟩⟩

/-- `openTPM` fails, only by an injected fault, or opens one more connection. -/
theorem openTPM_cases (w : World) :
    ∃ w', w'.faults = w.faults.tail ∧
      ((∃ e, openTPM w = (.ret (.error e), w') ∧ w'.tpm = w.tpm ∧
          w'.trace = w.trace ++ [⟨.openTPM, true⟩] ∧ some e ∈ w.faults) ∨
        (openTPM w = (.ret (.ok ()), w') ∧ w'.tpm = { w.tpm with conns := w.tpm.conns + 1 } ∧
          w'.trace = w.trace ++ [⟨.openTPM, false⟩])) := by
  obtain ⟨w', hf, ⟨e, he, ht, htr, hor⟩ | ⟨a, hr, he, htr⟩⟩ :=
    issue_cases .openTPM (fun t => .ok ((), { t with conns := t.conns + 1 })) w
  · exact ⟨w', hf, .inl ⟨e, he, ht, htr, hor.resolve_right nofun⟩⟩
  · simp only [Except.ok.injEq, Prod.mk.injEq] at hr
    exact ⟨w', hf, .inr ⟨he, hr.2.symm, htr⟩⟩

/-! ## Runs -/

/-- `w'` comes after `w`: further along the fault schedule, with a longer trace. -/
def World.Before (w w' : World) : Prop := w'.faults <:+ w.faults ∧ w.trace <+: w'.trace

theorem World.Before.refl (w : World) : w.Before w := ⟨List.suffix_refl _, List.prefix_refl _⟩

theorem World.Before.trans {w₁ w₂ w₃ : World} (h₁ : w₁.Before w₂) (h₂ : w₂.Before w₃) :
    w₁.Before w₃ := ⟨h₂.1.trans h₁.1, h₁.2.trans h₂.2⟩

/-- A command moves the world on. -/
theorem World.before_of_step {w w' : World} {ev : Event} (hf : w'.faults = w.faults.tail)
    (ht : w'.trace = w.trace ++ [ev]) : w.Before w' :=
  ⟨hf ▸ List.tail_suffix _, ht ▸ List.prefix_append _ _⟩

/-- The transient objects of `w'` are those of `w`, unless a `FlushContext` issued in
between failed, which on a loaded object takes an injected fault. -/
def World.TransientRestored (w w' : World) : Prop :=
  w'.tpm.transient = w.tpm.transient ∨
    ((∃ h, ⟨.flushContext h, true⟩ ∈ w'.trace.drop w.trace.length) ∧ ∃ e, some e ∈ w.faults)

theorem World.TransientRestored.trans {w₁ w₂ w₃ : World} (hb₁ : w₁.Before w₂)
    (hb₂ : w₂.Before w₃) (h₁ : w₁.TransientRestored w₂) (h₂ : w₂.TransientRestored w₃) :
    w₁.TransientRestored w₃ := by
  obtain ⟨B, hB⟩ := hb₂.2
  obtain ⟨A, hA⟩ := hb₁.2
  have hsub : ∀ e, some e ∈ w₂.faults → some e ∈ w₁.faults := fun e h => hb₁.1.subset h
  rcases h₁ with h₁ | ⟨⟨h, hf⟩, e, he⟩ <;> rcases h₂ with h₂ | ⟨⟨h', hf'⟩, e', he'⟩
  · exact .inl (h₂.trans h₁)
  · refine .inr ⟨⟨h', ?_⟩, e', hsub e' he'⟩
    rw [← hB, ← hA] at hf' ⊢
    simp only [List.append_assoc, List.drop_left] at hf' ⊢
    exact List.mem_append_right _ (by simpa using hf')
  all_goals
    refine .inr ⟨⟨h, ?_⟩, e, he⟩
    rw [← hA] at hf
    rw [← hB, ← hA]
    simp only [List.append_assoc, List.drop_left] at hf ⊢
    exact List.mem_append_left _ hf

/-- The fault schedule stays empty. -/
theorem World.Before.faults_nil {w w' : World} (hb : w.Before w') (hw : w.faults = []) :
    w'.faults = [] := by
  simpa [hw] using hb.1

/-- With no fault to fail a `FlushContext`, the transient objects come back. -/
theorem World.TransientRestored.of_faults_nil {w w' : World} (hr : w.TransientRestored w')
    (hw : w.faults = []) : w'.tpm.transient = w.tpm.transient := by
  rcases hr with h | ⟨-, e, he⟩
  · exact h
  · simp [hw] at he

end QuantumGoUtils.GoTpm.Tpm2
