import QuantumGoUtils.TpmDevice.Device
import QuantumGoUtils.Go.Unicode

/-!
# Public keys and signatures as bytes

`tpmdevice` writes integers as fixed-width big-endian bytes twice: the public key as
`0x04 || X || Y` (`uncompressedFromECDSA`) and a signature as `R || S` (`pad32`, in
`client.Sign`). Both start from `big.Int.Bytes`, which is `natBytes`; the first lemmas
identify it with Mathlib's base-256 digits, most significant first, so that lengths and
values are read off `Nat.digits` and `Nat.ofDigits`.

`bigEndian` is the value of a byte string, as `new(big.Int).SetBytes` reads it: the
decoding the encodings are checked against.

## Main results

* `bigEndian_natBytes`, `length_natBytes_le_iff` — `Bytes` is read back by `SetBytes`, and
  has at most `k` bytes exactly below `256 ^ k`.
* `length_pad32`, `bigEndian_pad32` — `pad32` always writes 32 bytes, and below `2^256` they
  read back as the integer.
* `publicToUncompressed_iff` — for every public area, when `publicToUncompressed` panics
  and when it returns `0x04 || pad32(X) || pad32(Y)`; `publicToUncompressed_p384_p224`
  shows both on the generators of P-384 and P-224.
* `sign_rawRS` — `Sign` returns `pad32(R) || pad32(S)`, whose halves read back as `R`
  and `S`.
-/

namespace QuantumGoUtils.TpmDevice

open QuantumGoUtils.Go.Strings QuantumGoUtils.Go.Strconv QuantumGoUtils.Go.Unicode
open QuantumGoUtils.GoTpm.Tpm2

/-! ## `big.Int.Bytes` and `SetBytes` -/

/-- The big-endian value of a byte string, `new(big.Int).SetBytes(b)`. -/
def bigEndian (b : GoString) : Nat := b.foldl (fun n c => 256 * n + c.toNat) 0

theorem bigEndian_append_singleton (b : GoString) (c : UInt8) :
    bigEndian (b ++ [c]) = 256 * bigEndian b + c.toNat := by
  simp [bigEndian, List.foldl_append]

theorem natBytes_go_eq : ∀ fuel n acc, n ≤ fuel →
    natBytes.go fuel n acc = ((Nat.digits 256 n).map Nat.toUInt8).reverse ++ acc
  | 0, n, acc, h => by
    obtain rfl : n = 0 := by omega
    simp [natBytes.go]
  | fuel + 1, n, acc, h => by
    rw [natBytes.go]
    split_ifs with h0
    · simp [h0]
    · rw [Nat.digits_def' (by norm_num) (by omega), natBytes_go_eq fuel (n / 256) _ (by omega)]
      simp

/-- `big.Int.Bytes` is the base-256 digits, most significant first. -/
theorem natBytes_eq (n : Nat) : natBytes n = ((Nat.digits 256 n).map Nat.toUInt8).reverse := by
  simpa using natBytes_go_eq n n [] le_rfl

theorem bigEndian_digits : ∀ ds : List Nat, (∀ d ∈ ds, d < 256) →
    bigEndian ((ds.map Nat.toUInt8).reverse) = Nat.ofDigits 256 ds
  | [], _ => rfl
  | d :: ds, h => by
    rw [List.map_cons, List.reverse_cons, bigEndian_append_singleton,
      bigEndian_digits ds fun e he => h e (List.mem_cons_of_mem _ he), Nat.ofDigits_cons,
      toNat_toUInt8_of_lt (h d (List.mem_cons_self _ _))]
    omega

/-- `SetBytes` reads `Bytes` back. -/
theorem bigEndian_natBytes (n : Nat) : bigEndian (natBytes n) = n := by
  rw [natBytes_eq, bigEndian_digits _ fun d hd => Nat.digits_lt_base (by norm_num) hd,
    Nat.ofDigits_digits]

theorem length_natBytes {n : Nat} (h : n ≠ 0) : (natBytes n).length = Nat.log 256 n + 1 := by
  rw [natBytes_eq, List.length_reverse, List.length_map, Nat.digits_len 256 n (by norm_num) h]

/-- `Bytes` has at most `k` bytes exactly for the numbers below `256 ^ k`. -/
theorem length_natBytes_le_iff {n k : Nat} : (natBytes n).length ≤ k ↔ n < 256 ^ k := by
  rw [natBytes_eq, List.length_reverse, List.length_map]
  rcases Nat.eq_zero_or_pos n with rfl | hn
  · simp
  · rw [Nat.digits_len 256 n (by norm_num) hn.ne', Nat.lt_pow_iff_log_lt (by norm_num) hn.ne']
    omega

/-! ## `pad32` -/

theorem bigEndian_replicate_zero_append (k : Nat) (b : GoString) :
    bigEndian (List.replicate k 0 ++ b) = bigEndian b := by
  have : (List.replicate k (0 : UInt8)).foldl (fun n c => 256 * n + c.toNat) 0 = 0 := by
    induction k with
    | zero => rfl
    | succ k ih => rw [List.replicate_succ, List.foldl_cons]; simpa using ih
  simp only [bigEndian, List.foldl_append, this]

/-- `pad32` always returns 32 bytes. -/
theorem length_pad32 (n : Option Int) : (pad32 n).length = 32 := by
  rcases n with _ | n
  · rfl
  · simp only [pad32]
    split_ifs with h <;> simp <;> omega

/-- Below `2^256`, `pad32` is `Bytes` behind leading zeros. -/
theorem pad32_of_lt {n : Int} (h : n.natAbs < 2 ^ 256) :
    pad32 (some n) = List.replicate (32 - (natBytes n.natAbs).length) 0 ++ natBytes n.natAbs := by
  have := length_natBytes_le_iff.mpr (show n.natAbs < 256 ^ 32 by simpa using h)
  simp only [pad32, if_neg (show ¬ (natBytes n.natAbs).length > 32 by omega)]

theorem bigEndian_pad32 {n : Int} (h : n.natAbs < 2 ^ 256) :
    bigEndian (pad32 (some n)) = n.natAbs := by
  rw [pad32_of_lt h, bigEndian_replicate_zero_append, bigEndian_natBytes]

/-! ## Public keys -/

/-- A coordinate below `2^256` is padded as `pad32` pads it. -/
theorem copyPadded_natBytes {n : Nat} (h : n < 2 ^ 256) :
    copyPadded (natBytes n) = .ret (pad32 (some n)) := by
  have hl := length_natBytes_le_iff.mpr (show n < 256 ^ 32 by simpa using h)
  rw [copyPadded, if_pos hl, pad32_of_lt (by simpa using h)]
  rfl

/-- A longer coordinate makes the slice bound negative. -/
theorem copyPadded_natBytes_panic {n : Nat} (h : 2 ^ 256 ≤ n) :
    ∃ m, copyPadded (natBytes n) = .panic m := by
  have hl : ¬ (natBytes n).length ≤ 32 := by
    rw [length_natBytes_le_iff]; simpa using h
  exact ⟨_, if_neg hl⟩

theorem uncompressedFromECDSA_of_lt {x y : Nat} (hx : x < 2 ^ 256) (hy : y < 2 ^ 256) :
    uncompressedFromECDSA x y = .ret ([4] ++ pad32 (some x) ++ pad32 (some y)) := by
  rw [uncompressedFromECDSA, copyPadded_natBytes hx, copyPadded_natBytes hy]

theorem uncompressedFromECDSA_panic {x y : Nat} (h : 2 ^ 256 ≤ x ∨ 2 ^ 256 ≤ y) :
    ∃ m, uncompressedFromECDSA x y = .panic m := by
  unfold uncompressedFromECDSA
  by_cases hx : 2 ^ 256 ≤ x
  · obtain ⟨m, hm⟩ := copyPadded_natBytes_panic hx
    rw [hm]
    rcases copyPadded (natBytes y) with _ | _ <;> exact ⟨m, rfl⟩
  · obtain ⟨m, hm⟩ := copyPadded_natBytes_panic (h.resolve_left hx)
    rw [copyPadded_natBytes (by omega : x < 2 ^ 256), hm]
    exact ⟨m, rfl⟩

theorem Public.key_ecc {p : Public} (h : p.type = algECC) (hc : p.curveID ∈ goCurves) :
    p.key = .ok (.ecdsa p.curveID p.x p.y) := by
  rw [Public.key, if_neg (by rw [h]; decide), if_pos h, if_pos hc]

/-- Every public area that is not an ECC key on a go-tpm curve is refused with an error. -/
theorem publicToUncompressed_not_ecc {p : Public}
    (h : ¬ (p.type = algECC ∧ p.curveID ∈ goCurves)) :
    ∃ e, publicToUncompressed p = .ret (.error e) := by
  unfold publicToUncompressed Public.key
  split_ifs with h1 h2 h3
  all_goals first | exact ⟨_, rfl⟩ | exact absurd ⟨h2, h3⟩ h

/-- **What `publicToUncompressed` does with every public area.** It panics exactly on an ECC
key on one of go-tpm's curves with a coordinate of `2^256` or more, and returns a value
exactly on such a key with both coordinates below `2^256`: `0x04 || pad32(X) || pad32(Y)`.
P-224 keys are among the second, and P-384 and P-521 keys usually among the first. -/
theorem publicToUncompressed_iff (pub : Public) :
    ((∃ m, publicToUncompressed pub = .panic m) ↔
        pub.type = algECC ∧ pub.curveID ∈ goCurves ∧ (2 ^ 256 ≤ pub.x ∨ 2 ^ 256 ≤ pub.y)) ∧
      ∀ u, publicToUncompressed pub = .ret (.ok u) ↔
        pub.type = algECC ∧ pub.curveID ∈ goCurves ∧ pub.x < 2 ^ 256 ∧ pub.y < 2 ^ 256 ∧
          u = [4] ++ pad32 (some pub.x) ++ pad32 (some pub.y) := by
  by_cases hk : pub.type = algECC ∧ pub.curveID ∈ goCurves
  swap
  · obtain ⟨e, he⟩ := publicToUncompressed_not_ecc hk
    rw [he]
    exact ⟨⟨fun ⟨_, h⟩ => (by cases h), fun h => absurd ⟨h.1, h.2.1⟩ hk⟩,
      fun u => ⟨fun h => (by cases h), fun h => absurd ⟨h.1, h.2.1⟩ hk⟩⟩
  rw [publicToUncompressed, Public.key_ecc hk.1 hk.2]
  simp only [hk, true_and]
  by_cases hxy : pub.x < 2 ^ 256 ∧ pub.y < 2 ^ 256
  · rw [uncompressedFromECDSA_of_lt hxy.1 hxy.2]
    exact ⟨⟨fun ⟨_, h⟩ => (by cases h), fun h => absurd h (by omega)⟩,
      fun u => ⟨fun h => ⟨hxy.1, hxy.2, (Except.ok.inj (Outcome.ret.inj h)).symm⟩,
        fun h => by rw [h.2.2]⟩⟩
  · obtain ⟨m, hm⟩ :=
      uncompressedFromECDSA_panic (show 2 ^ 256 ≤ pub.x ∨ 2 ^ 256 ≤ pub.y by omega)
    rw [hm]
    exact ⟨⟨fun _ => by omega, fun _ => ⟨m, rfl⟩⟩,
      fun u => ⟨fun h => (by cases h), fun h => absurd ⟨h.1, h.2.1⟩ hxy⟩⟩


/-- The generator of P-384, as a public area: both coordinates have 48 bytes. -/
def p384Generator : Public where
  type := algECC
  attributes := flagSign
  curveID := curveNISTP384
  x := 0xaa87ca22be8b05378eb1c71ef320ad746e1d3b628ba79b9859f741e082542a385502f25dbf55296c3a545e3872760ab7
  y := 0x3617de4a96262c6f5d9e98bf9292dc29f8f41dbd289a147ce9da3113b5f0b8c00a60b1ce1d7e819d7a431d7c90ea0e5f

/-- The generator of P-224: both coordinates have 28 bytes. -/
def p224Generator : Public where
  type := algECC
  attributes := flagSign
  curveID := curveNISTP224
  x := 0xb70e0cbd6bb4bf7f321390b94a03c1d356c21122343280d6115c1d21
  y := 0xbd376388b5f723fb4c22dfe6cd4375a05a07476444d5819985007e34

/-- The P-384 generator makes `uncompressedFromECDSA` panic with the slice bound `-16`, and
the P-224 generator is encoded as a 65-byte key. -/
theorem publicToUncompressed_p384_p224 :
    publicToUncompressed p384Generator =
        .panic (lit "runtime error: slice bounds out of range [-16:]") ∧
      publicToUncompressed p224Generator =
        .ret (.ok ([4] ++ pad32 (some p224Generator.x) ++ pad32 (some p224Generator.y))) := by
  have hlen : (natBytes p384Generator.x).length = 48 := by
    have : Nat.log 256 p384Generator.x = 47 := by
      rw [Nat.log_eq_iff (by norm_num)]
      norm_num [p384Generator]
    rw [length_natBytes (by decide), this]
  have hx : copyPadded (natBytes p384Generator.x) =
      .panic (lit "runtime error: slice bounds out of range [-16:]") := by
    rw [copyPadded, if_neg (by omega), hlen]
    decide
  constructor
  · rw [publicToUncompressed, Public.key_ecc rfl (by decide)]
    dsimp only
    rw [uncompressedFromECDSA, hx]
    rcases copyPadded (natBytes p384Generator.y) with _ | _ <;> rfl
  · rw [publicToUncompressed, Public.key_ecc rfl (by decide)]
    dsimp only
    rw [uncompressedFromECDSA_of_lt (by norm_num [p224Generator]) (by norm_num [p224Generator])]

/-! ## Signatures -/

/-- **`R || S`.** `pad32` writes every integer in `[0, 2^256)` as 32 bytes whose big-endian
value is the integer; so for every signature whose integers are in that range, as a P-256
signature's are (they are below the group order), `Sign` returns the 64 bytes
`pad32(R) || pad32(S)`, and its halves read back as `R` and `S`. -/
theorem sign_rawRS :
    (∀ n : Int, 0 ≤ n → n < 2 ^ 256 →
      (pad32 (some n)).length = 32 ∧ (bigEndian (pad32 (some n)) : Int) = n) ∧
    ∀ (c : Client) (r s : Int), 0 ≤ r → r < 2 ^ 256 → 0 ≤ s → s < 2 ^ 256 →
      sign (some c) (.ok ⟨some ⟨some r, some s⟩⟩) = .ok (pad32 (some r) ++ pad32 (some s)) ∧
      (pad32 (some r) ++ pad32 (some s)).length = 64 ∧
      (bigEndian ((pad32 (some r) ++ pad32 (some s)).take 32) : Int) = r ∧
      (bigEndian ((pad32 (some r) ++ pad32 (some s)).drop 32) : Int) = s := by
  have half : ∀ n : Int, 0 ≤ n → n < 2 ^ 256 → (bigEndian (pad32 (some n)) : Int) = n :=
    fun n h0 h => by rw [bigEndian_pad32 (by omega)]; omega
  refine ⟨fun n h0 h => ⟨length_pad32 _, half n h0 h⟩,
    fun c r s hr0 hr hs0 hs => ⟨rfl, ?_⟩⟩
  have hl := length_pad32 (some r)
  rw [List.length_append, hl, length_pad32, List.take_left' hl, List.drop_left' hl]
  exact ⟨rfl, half r hr0 hr, half s hs0 hs⟩

/-- The signature `(1, 2)`, returned to a client at the default handle. -/
theorem sign_rawRS_one_two :
    (pad32 (some 1)).length = 32 ∧ (bigEndian (pad32 (some 1)) : Int) = 1 ∧
      sign (some (newClient defaultHandleStart [])) (.ok ⟨some ⟨some 1, some 2⟩⟩) =
        .ok (pad32 (some 1) ++ pad32 (some 2)) ∧
      (pad32 (some 1) ++ pad32 (some 2)).length = 64 ∧
      (bigEndian ((pad32 (some 1) ++ pad32 (some 2)).take 32) : Int) = 1 ∧
      (bigEndian ((pad32 (some 1) ++ pad32 (some 2)).drop 32) : Int) = 2 :=
  ⟨(sign_rawRS.1 1 (by norm_num) (by norm_num)).1, (sign_rawRS.1 1 (by norm_num) (by norm_num)).2,
    sign_rawRS.2 _ 1 2 (by norm_num) (by norm_num) (by norm_num) (by norm_num)⟩

example : natBytes 258 = [1, 2] := by decide
example : pad32 (some 258) = List.replicate 30 0 ++ [1, 2] := by decide

end QuantumGoUtils.TpmDevice
