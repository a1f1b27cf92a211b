import QuantumGoUtils.TpmDevice.Device
import QuantumGoUtils.GoTpm.Response

/-!
# Which TPM errors mean an empty slot

`pickOrCreateHandle` and `openOrCreateAtHandle` take a `ReadPublic` error for an empty slot
when `isHandleEmptyErr` finds `handle is not correct`, `0xb` or `TPM_RC_HANDLE` in its text.
In a text go-tpm prints for a response code, `0x` occurs once, right before the code, and
the lead before it has no `T` and lacks `h` or `i`; so `0xb` is found at the code exactly
when the code starts with `b`, and the other two patterns only inside the table message
(`isHandleEmptyErr_shape`). For the kinds that print a message the code has at most seven
bits, and only `0xb` starts with `b`.

## Main results

* `isHandleEmptyErr_text` — for every error and every table: matched exactly when the code
  starts with `b` or the message alone is matched.
* `isHandleEmptyErr_decodeResponse` — for every response code: matched exactly when the code
  is `0xb` (the TPM 1.2 and vendor kinds: starts with `b`) or the message is matched.
* `isHandleEmptyErr_private` — the format-0 `TPM_RC_PRIVATE`, `0x10B`, which reports no
  handle, is taken for an empty slot under every table.
-/

namespace QuantumGoUtils.TpmDevice

open QuantumGoUtils.Go.Strings QuantumGoUtils.Go.Strconv QuantumGoUtils.GoTpm.Tpm2

/-! ## The shape of a text -/

/-- What `isHandleEmptyErr` needs of the text before `0x`: no `x`, no `T`, and one of the
letters `h` and `i` missing. -/
def LeadOK (L : GoString) : Prop := 120 ∉ L ∧ 84 ∉ L ∧ (104 ∉ L ∨ 105 ∉ L)

instance (L : GoString) : Decidable (LeadOK L) := inferInstanceAs (Decidable (_ ∧ _ ∧ _))

/-- A pattern without `:` that does not occur up to the code's end occurs in the text only
inside the message. -/
theorem infix_message_iff {L H p m : GoString} (hp : p ≠ []) (hcolon : 58 ∉ p)
    (hsp : p.head? ≠ some 32) (hcode : ¬ p <:+: L ++ [48, 120] ++ H ++ [32]) :
    p <:+: L ++ [48, 120] ++ H ++ ([32, 58, 32] ++ m) ↔ p <:+: m := by
  have : L ++ [48, 120] ++ H ++ ([32, 58, 32] ++ m) =
      (L ++ [48, 120] ++ H ++ [32]) ++ 58 :: 32 :: m := by simp
  rw [this, infix_append_cons_iff hcolon, infix_cons_iff_of_head_ne hp hsp]
  exact or_iff_right hcode

section Shape

variable {L H : GoString} (hH : ∀ c ∈ H, isLowerHexDigit c = true)
include hH

/-- A byte that is neither in the lead nor a hex digit nor `0`, `x` or a space is not in the
text up to the code's end. -/
theorem not_mem_code {c : UInt8} (hc : c ∉ L) (hhex : isLowerHexDigit c = false)
    (hc' : c ∉ [48, 120, 32]) : c ∉ L ++ [48, 120] ++ H ++ [32] := by
  simp only [List.mem_append, not_or]
  refine ⟨⟨⟨hc, fun h => hc' ?_⟩, fun h => by simpa [hhex] using hH c h⟩,
    fun h => hc' ?_⟩ <;>
    simp only [List.mem_cons, List.mem_singleton] at h ⊢ <;> tauto

/-- `0xb` occurs up to the code's end exactly when the code starts with `b`. -/
theorem infix_code_0xb (hL : LeadOK L) :
    [48, 120, 98] <:+: L ++ [48, 120] ++ H ↔ H.head? = some 98 := by
  rw [List.append_assoc, List.cons_append, List.cons_append, List.nil_append]
  exact triple_infix_iff (by decide) (fun h => absurd (hH _ h) (by decide)) hL.1

/-- The other two patterns do not occur up to the code's end. -/
theorem not_infix_code_handle (hL : LeadOK L) :
    ¬ lit "handle is not correct" <:+: L ++ [48, 120] ++ H ++ [32] := by
  rcases hL.2.2 with h | h
  · exact not_infix_of_mem (by decide) (not_mem_code hH h rfl (by decide))
  · exact not_infix_of_mem (by decide) (not_mem_code hH h rfl (by decide))

theorem not_infix_code_rc (hL : LeadOK L) :
    ¬ lit "TPM_RC_HANDLE" <:+: L ++ [48, 120] ++ H ++ [32] :=
  not_infix_of_mem (by decide) (not_mem_code hH hL.2.1 rfl (by decide))

/-- **The shape of an error text.** In `L ++ "0x" ++ H` followed, if there is one, by
`" : "` and a message, `isHandleEmptyErr` finds `0xb` exactly when the code `H` starts with
`b`, and otherwise only what it finds in the message. -/
theorem isHandleEmptyErr_shape (hL : LeadOK L) (t : Option GoString) :
    isHandleEmptyErr ⟨L ++ [48, 120] ++ H ++ (t.map fun m => [32, 58, 32] ++ m).getD []⟩ =
        true ↔
      H.head? = some 98 ∨ isHandleEmptyErr ⟨t.getD []⟩ = true := by
  have h0xb : lit "0xb" = [48, 120, 98] := rfl
  simp only [isHandleEmptyErr, Bool.or_eq_true, contains_iff, h0xb]
  rcases t with _ | m
  · have hpre : L ++ [48, 120] ++ H <:+: L ++ [48, 120] ++ H ++ [32] :=
      (List.prefix_append _ _).isInfix
    simp only [Option.map_none', Option.getD_none, List.append_nil, infix_code_0xb hH hL]
    have h1 : ¬ lit "handle is not correct" <:+: L ++ [48, 120] ++ H := fun h =>
      not_infix_code_handle hH hL (h.trans hpre)
    have h3 : ¬ lit "TPM_RC_HANDLE" <:+: L ++ [48, 120] ++ H := fun h =>
      not_infix_code_rc hH hL (h.trans hpre)
    have hne : lit "handle is not correct" ≠ [] ∧ lit "TPM_RC_HANDLE" ≠ [] := by decide
    simp only [h1, h3, hne.1, hne.2, List.infix_nil, List.cons_ne_nil, false_or, or_false]
  · simp only [Option.map_some', Option.getD_some]
    have h2 : [48, 120, 98] <:+: L ++ [48, 120] ++ H ++ ([32, 58, 32] ++ m) ↔
        H.head? = some 98 ∨ [48, 120, 98] <:+: m := by
      have : L ++ [48, 120] ++ H ++ ([32, 58, 32] ++ m) =
          (L ++ [48, 120] ++ H) ++ 32 :: 58 :: 32 :: m := by simp
      rw [this, infix_append_cons_iff (by decide), infix_code_0xb hH hL,
        infix_cons_iff_of_head_ne (by decide) (by decide),
        infix_cons_iff_of_head_ne (by decide) (by decide)]
    rw [infix_message_iff (by decide) (by decide) (by decide) (not_infix_code_handle hH hL),
      infix_message_iff (by decide) (by decide) (by decide) (not_infix_code_rc hH hL), h2]
    simp only [or_assoc, or_left_comm]

end Shape

/-- A number printed with `%d` inside a lead adds none of the letters. -/
theorem leadOK_decimal {A B : GoString} (i : Nat) (h : LeadOK (A ++ B)) :
    LeadOK (A ++ decimal i ++ B) := by
  have hd : ∀ c : UInt8, isDigit c = false → c ∉ decimal i := fun c h hc => by
    simpa [h] using mem_decimal hc
  simp only [LeadOK, List.mem_append, not_or] at h ⊢
  exact ⟨⟨⟨h.1.1, hd _ rfl⟩, h.1.2⟩, ⟨⟨h.2.1.1, hd _ rfl⟩, h.2.1.2⟩,
    h.2.2.imp (fun h => ⟨⟨h.1, hd _ rfl⟩, h.2⟩) (fun h => ⟨⟨h.1, hd _ rfl⟩, h.2⟩)⟩

/-- Every kind's lead. -/
theorem leadOK_lead (e : RcError) : LeadOK e.lead := by
  cases e with
  | tpm1 | vendor | warning | fmt0 => simp only [RcError.lead]; decide
  | parameter _ i | handle _ i | session _ i => exact leadOK_decimal i (by decide)

/-! ## Every decoded error -/

/-- Every text go-tpm prints for a response code: matched exactly when the code in hex starts
with `b` or the table message alone is matched. -/
theorem isHandleEmptyErr_text (M : RcMessages) (e : RcError) :
    isHandleEmptyErr (e.toTpmError M) = true ↔
      (hexadecimal e.code).head? = some 98 ∨
        isHandleEmptyErr ⟨(e.message M).getD []⟩ = true := by
  rw [RcError.toTpmError, RcError.text_eq]
  exact isHandleEmptyErr_shape (fun _ hc => mem_hexadecimal hc) (leadOK_lead e) _

/-- **Which decoded errors are taken for an empty slot.** For every response code and every
content of go-tpm's tables, `isHandleEmptyErr` holds of the decoded error exactly when its
code is `0xb`, for the five kinds that print a table message (so `TPM_RC_HANDLE` on any
handle, parameter or session, but also the format-0 `TPM_RC_PRIVATE` and the warning
`0xb`), or starts with `b`, for TPM 1.2 and vendor codes, or when the table message is
itself matched. -/
theorem isHandleEmptyErr_decodeResponse (M : RcMessages) {rc : ResponseCode} {e : RcError}
    (h : decodeResponse rc = some e) :
    isHandleEmptyErr (e.toTpmError M) = true ↔
      (if (e.message M).isSome then e.code = 0xb else (hexadecimal e.code).head? = some 98) ∨
        isHandleEmptyErr ⟨(e.message M).getD []⟩ = true := by
  rw [isHandleEmptyErr_text]
  split_ifs with hm
  · rw [head_hexadecimal_eq_b (decodeResponse_code_lt h hm)]
  · rfl

/-- The empty slot's error, `0x18B`, under the quoted table. -/
theorem isHandleEmptyErr_decodeResponse_empty_slot :
    decodeResponse 0x18B = some (.handle 0xb 1) ∧
      (isHandleEmptyErr ((RcError.handle 0xb 1).toTpmError quotedMessages) = true ↔
        (if ((RcError.handle 0xb 1).message quotedMessages).isSome then
            (RcError.handle 0xb 1).code = 0xb
          else (hexadecimal (RcError.handle 0xb 1).code).head? = some 98) ∨
          isHandleEmptyErr ⟨((RcError.handle 0xb 1).message quotedMessages).getD []⟩ = true) :=
  have h : decodeResponse 0x18B = some (.handle 0xb 1) := by decide
  ⟨h, isHandleEmptyErr_decodeResponse quotedMessages h⟩

/-- The format-0 error `0xb`, `TPM_RC_PRIVATE` (response code `0x10B`), reports no handle, yet
its text holds `0xb` whatever go-tpm's table says for it. -/
theorem isHandleEmptyErr_private :
    decodeResponse 0x10B = some (.fmt0 0xb) ∧
      ∀ M : RcMessages, isHandleEmptyErr ((RcError.fmt0 0xb).toTpmError M) = true :=
  ⟨by decide, fun M => (isHandleEmptyErr_text M _).mpr
    (.inl ((head_hexadecimal_eq_b (by decide)).mpr rfl))⟩

end QuantumGoUtils.TpmDevice
