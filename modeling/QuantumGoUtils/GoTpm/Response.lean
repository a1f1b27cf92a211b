import QuantumGoUtils.GoTpm.Tpm2

/-!
# Response codes and go-tpm's errors

A TPM command that fails returns a non-zero response code, and go-tpm's `decodeResponse`
turns it into an error of one of seven kinds by the code's format bits. Each kind's
`Error` method prints the code in hex after `0x`, and five of them then print `" : "` and
a message from one of go-tpm's three tables, `fmt0Msg`, `fmt1Msg` and `warnMsg`. The
tables are go-tpm's, not the repository's, so they are a parameter (`RcMessages`); the
repository quotes one entry, `fmt1Msg[RCHandle]` (`quotedMessages`).

Every text is the same shape: a lead, `0x`, the code, and the message if there is one
(`RcError.text_eq`). What `isHandleEmptyErr` finds in a text is read off that shape.

## Main results

* `handleError_decodeResponse` — the error `ReadPublic` returns for an empty slot is the
  `HandleError` of `TPM_RC_HANDLE` on handle 1, response code `0x18B`.
* `decodeResponse_code_lt` — the kinds that print a message have a code below `0x80`.
* `head_hexadecimal_eq_b` — below `0x80`, only `0xb` is printed starting with `b`.
-/

namespace QuantumGoUtils.GoTpm.Tpm2

open QuantumGoUtils.Go.Strings QuantumGoUtils.Go.Strconv

/-- A `tpmutil.ResponseCode`. -/
abbrev ResponseCode := UInt32

/-- go-tpm's message tables, `fmt0Msg`, `fmt1Msg` and `warnMsg`, by code; a code a table
leaves out reads as `""`. -/
structure RcMessages where
  fmt0 : Nat → GoString
  fmt1 : Nat → GoString
  warn : Nat → GoString

/-- An error `decodeResponse` returns. -/
inductive RcError where
  /-- `fmt.Errorf("response status 0x%x", code)`: a TPM 1.2 response code. -/
  | tpm1 (code : Nat)
  /-- `VendorError`, with the whole response code. -/
  | vendor (code : Nat)
  /-- `Warning`. -/
  | warning (code : Nat)
  /-- `Error`: a format-0 code. -/
  | fmt0 (code : Nat)
  /-- `ParameterError`: a format-1 code and the parameter's number. -/
  | parameter (code index : Nat)
  /-- `HandleError`: a format-1 code and the handle's number. -/
  | handle (code index : Nat)
  /-- `SessionError`: a format-1 code and the session's number. -/
  | session (code index : Nat)
  deriving DecidableEq, Repr

/-- `decodeResponse`: `none` for `RCSuccess`, else the error the format bits select. -/
def decodeResponse (code : ResponseCode) : Option RcError :=
  let c := code.toNat
  if c = 0 then none
  else if c &&& 0x180 = 0 then some (.tpm1 c)
  else if c &&& 0x80 = 0 then
    if c &&& 0x400 > 0 then some (.vendor c)
    else if c &&& 0x800 > 0 then some (.warning (c &&& 0x7f))
    else some (.fmt0 (c &&& 0x7f))
  else if c &&& 0x40 > 0 then some (.parameter (c &&& 0x3f) ((c &&& 0xf00) >>> 8))
  else if c &&& 0x800 = 0 then some (.handle (c &&& 0x3f) ((c &&& 0x700) >>> 8))
  else some (.session (c &&& 0x3f) ((c &&& 0x700) >>> 8))

/-- The `Error` method of each kind. -/
def RcError.text (M : RcMessages) : RcError → GoString
  | .tpm1 c => lit "response status 0x" ++ hexadecimal c
  | .vendor c => lit "vendor error code 0x" ++ hexadecimal c
  | .warning c => lit "warning code 0x" ++ hexadecimal c ++ lit " : " ++ M.warn c
  | .fmt0 c => lit "error code 0x" ++ hexadecimal c ++ lit " : " ++ M.fmt0 c
  | .parameter c i =>
    lit "parameter " ++ decimal i ++ lit ", error code 0x" ++ hexadecimal c ++ lit " : " ++
      M.fmt1 c
  | .handle c i =>
    lit "handle " ++ decimal i ++ lit ", error code 0x" ++ hexadecimal c ++ lit " : " ++
      M.fmt1 c
  | .session c i =>
    lit "session " ++ decimal i ++ lit ", error code 0x" ++ hexadecimal c ++ lit " : " ++
      M.fmt1 c

/-- The error as `tpmdevice` sees it: its text. -/
def RcError.toTpmError (M : RcMessages) (e : RcError) : TpmError := ⟨e.text M⟩

/-! ## The shape of a text -/

/-- The code printed after `0x`. -/
def RcError.code : RcError → Nat
  | .tpm1 c | .vendor c | .warning c | .fmt0 c | .parameter c _ | .handle c _ | .session c _ => c

/-- The table message printed after the code, for the kinds that print one. -/
def RcError.message (M : RcMessages) : RcError → Option GoString
  | .tpm1 _ | .vendor _ => none
  | .warning c => some (M.warn c)
  | .fmt0 c => some (M.fmt0 c)
  | .parameter c _ | .handle c _ | .session c _ => some (M.fmt1 c)

/-- The text before the `0x` of the code. -/
def RcError.lead : RcError → GoString
  | .tpm1 _ => lit "response status "
  | .vendor _ => lit "vendor error code "
  | .warning _ => lit "warning code "
  | .fmt0 _ => lit "error code "
  | .parameter _ i => lit "parameter " ++ decimal i ++ lit ", error code "
  | .handle _ i => lit "handle " ++ decimal i ++ lit ", error code "
  | .session _ i => lit "session " ++ decimal i ++ lit ", error code "

/-- Every text is the lead, `0x`, the code, and `" : "` and the message if there is one. -/
theorem RcError.text_eq (M : RcMessages) (e : RcError) :
    e.text M = e.lead ++ [48, 120] ++ hexadecimal e.code ++
      ((e.message M).map fun m => [32, 58, 32] ++ m).getD [] := by
  cases e <;> simp only [RcError.text, RcError.lead, RcError.code, RcError.message,
    Option.map_some', Option.map_none', Option.getD_some, Option.getD_none, List.append_assoc,
    List.append_nil] <;> rfl

/-! ## Decoded codes -/

/-- The entries of go-tpm's tables that the repository quotes: `fmt1Msg[RCHandle]`, in the
comment of `isHandleEmptyErr`. -/
def quotedMessages : RcMessages where
  fmt0 _ := []
  fmt1 c := if c = 0xb then lit "the handle is not correct for the use" else []
  warn _ := []

/-- `ReadPublic`'s error for an empty slot is the text of the `HandleError` of
`TPM_RC_HANDLE` on handle 1, decoded from the response code `0x18B`. -/
theorem handleError_decodeResponse :
    decodeResponse 0x18B = some (.handle 0xb 1) ∧
      (RcError.handle 0xb 1).toTpmError quotedMessages = handleError 1 := by
  refine ⟨by decide, congrArg TpmError.mk ?_⟩
  rw [RcError.text, hexadecimal_of_lt (by decide) (by decide)]
  decide

/-- The kinds that print a table message have a code below `0x80`: seven or six bits of the
response code. -/
theorem decodeResponse_code_lt {M : RcMessages} {rc : ResponseCode} {e : RcError}
    (h : decodeResponse rc = some e) (hm : (e.message M).isSome) : e.code < 0x80 := by
  dsimp only [decodeResponse] at h
  split_ifs at h <;> cases h <;>
    simp only [RcError.message, Option.isSome_none, Bool.false_eq_true] at hm
  all_goals exact lt_of_le_of_lt Nat.and_le_right (by norm_num)

example : decodeResponse 0x10B = some (.fmt0 0xb) := by decide
example : decodeResponse 0x1CB = some (.parameter 0xb 1) := by decide

/-- Below `0x80`, `%x` starts with `b` only for `0xb`. -/
theorem head_hexadecimal_eq_b {n : Nat} (h : n < 0x80) :
    (hexadecimal n).head? = some 98 ↔ n = 0xb := by
  rcases Nat.lt_or_ge n 16 with h16 | h16
  · rcases Nat.eq_zero_or_pos n with rfl | h0
    · decide
    · rw [hexadecimal_of_lt h0.ne' h16]
      simpa using (hexDigit_lower n h16).2.2
  · rw [hexadecimal_div h16, hexadecimal_of_lt (by omega) (by omega)]
    have : hexDigit (n / 16) ≠ 98 := fun e => by
      have := ((hexDigit_lower (n / 16) (by omega)).2.2).mp e
      omega
    simp only [List.singleton_append, List.head?_cons, Option.some.injEq, this, false_iff]
    omega

end QuantumGoUtils.GoTpm.Tpm2
