import Mathlib
import QuantumGoUtils.Ethrpc.WaitMined

/-!
# The ethclient-backed helpers and the gas fillers (`ethrpc/hex.go`)

`PendingNonceAt`, `SuggestGasTipCap`, `SuggestGasPrice`, `HeaderByNumber` and
`TransactionReceipt` each run `EnsureBackend` and then ask the backend once
(`backendCall`). `FillGasEIP1559` and `FillGasLegacy` fill a `bind.TransactOpts` from the
backend: the suggested tip with a fee cap of twice the base fee plus the tip, or the
suggested gas price, and, when the caller left the gas limit at zero, the backend's gas
estimate with a 15% buffer, computed in `float64` as `uint64(float64(gas) * 1.15)`.

The buffer is modelled as the hardware computes it. `float64(n)` rounds to 53 significant
bits, to nearest with ties to even (`roundDouble`); the constant is the double nearest 1.15,
`5179139571476070 / 2^52`; rounding the product as a double commutes with that scaling by
a power of two; and the conversion back drops the fraction. A value of 2^64 or more converts
to whatever the implementation chooses, a parameter (`big`).

## Main results

* `bufferedGas_bounds` — for every positive estimate below 2^53, the buffered limit is at
  least the estimate, and, below 7·10¹³, at most 1.15 times it.
* `fillGasEIP1559_outcome`, `fillGasLegacy_outcome` — an error leaves the options as they
  were; the sender and the other price fields are never touched; a gas limit the caller set
  is kept, and one the filler sets is the buffered estimate; the fees set are the backend's
  tip and twice its base fee plus the tip, or its gas price.
-/

namespace QuantumGoUtils.Ethrpc

open QuantumGoUtils.Go.Strings

/-! ## The ethclient-backed helpers -/

/-- An ethclient-backed helper: `EnsureBackend`, `dialed` being the outcome of its dial,
then the backend's `answer`. -/
def Client.backendCall {α : Type} (c : Client) (dialed : Except GoString Unit)
    (answer : Except GoString α) : Except ReceiptError α × Client :=
  match c.ensureBackend dialed with
  | (.error e, c') => (.error (.ensureBackend e), c')
  | (.ok (), c') => (answer.mapError .backend, c')

/-- `Client.PendingNonceAt`. -/
def Client.pendingNonceAt (c : Client) (dialed : Except GoString Unit)
    (nonce : Except GoString UInt64) : Except ReceiptError UInt64 × Client :=
  c.backendCall dialed nonce

/-- `Client.SuggestGasTipCap`. -/
def Client.suggestGasTipCap (c : Client) (dialed : Except GoString Unit)
    (tip : Except GoString Int) : Except ReceiptError Int × Client :=
  c.backendCall dialed tip

/-- `Client.SuggestGasPrice`. -/
def Client.suggestGasPrice (c : Client) (dialed : Except GoString Unit)
    (price : Except GoString Int) : Except ReceiptError Int × Client :=
  c.backendCall dialed price

/-- A block header, by the field the gas fillers read: `BaseFee`, `nil` before London. -/
structure Header where
  baseFee : Option Int
  deriving DecidableEq, Repr

/-- `Client.HeaderByNumber`. -/
def Client.headerByNumber (c : Client) (dialed : Except GoString Unit)
    (header : Except GoString Header) : Except ReceiptError Header × Client :=
  c.backendCall dialed header

/-- `TransactionReceipt` is the same helper. -/
theorem Client.transactionReceipt_eq_backendCall {Receipt : Type} (c : Client)
    (dialed : Except GoString Unit) (receipt : Except GoString (Option Receipt)) :
    c.transactionReceipt dialed receipt = c.backendCall dialed receipt := rfl

@[simp] theorem Client.backendCall_cfg {α : Type} (c : Client) (dialed : Except GoString Unit)
    (answer : Except GoString α) : (c.backendCall dialed answer).2.cfg = c.cfg := by
  unfold Client.backendCall
  rcases h : c.ensureBackend dialed with ⟨_ | _, c'⟩ <;>
    simp only [← Client.ensureBackend_cfg c dialed, h]

/-! ## `uint64(float64(gas) * 1.15)` -/

/-- The quotient `n / P`, rounded to nearest, ties to even. -/
def rne (n P : Nat) : Nat :=
  if P < 2 * (n % P) ∨ (2 * (n % P) = P ∧ n / P % 2 = 1) then n / P + 1 else n / P

/-- `float64(n)` for a whole number `n`: `n` rounded to 53 significant bits, to nearest,
ties to even. -/
def roundDouble (n : Nat) : Nat :=
  if n < 2 ^ 53 then n else rne n (2 ^ (n.log2 + 1 - 53)) * 2 ^ (n.log2 + 1 - 53)

/-- The double nearest 1.15, `0x3FF2666666666666`, times 2^52. -/
def float115 : Nat := 5179139571476070

/-- `uint64(float64(gas) * 1.15)`, `big v` being what the conversion gives for a value `v`
of 2^64 or more. -/
def bufferedGas (big : Nat → UInt64) (gas : UInt64) : UInt64 :=
  let v := roundDouble (roundDouble gas.toNat * float115) / 2 ^ 52
  if v < 2 ^ 64 then v.toUInt64 else big v

/-- The rounded quotient is within half a step of the exact one. -/
theorem rne_mul_bounds (n : Nat) {P : Nat} (hP : 0 < P) :
    n ≤ rne n P * P + P / 2 ∧ rne n P * P ≤ n + P / 2 := by
  have e := Nat.div_add_mod n P
  have hr := Nat.mod_lt n hP
  rw [Nat.mul_comm] at e
  unfold rne
  split
  · rw [Nat.add_mul, Nat.one_mul]
    omega
  · omega

/-- `float64(n)` is within `n / 2^53` of `n`. -/
theorem roundDouble_err (n : Nat) :
    n ≤ roundDouble n + n / 2 ^ 53 ∧ roundDouble n ≤ n + n / 2 ^ 53 := by
  unfold roundDouble
  split
  · omega
  · rename_i hn
    have hn0 : n ≠ 0 := by rintro rfl; exact hn (by positivity)
    have hL : 53 ≤ n.log2 := (Nat.le_log2 hn0).mpr (by omega)
    have hs : 2 ^ (n.log2 + 1 - 53) = 2 ^ (n.log2 - 53) * 2 := by
      rw [← Nat.pow_succ]; congr 1; omega
    have hhalf : 2 ^ (n.log2 - 53) ≤ n / 2 ^ 53 := by
      rw [Nat.le_div_iff_mul_le (by positivity), ← Nat.pow_add,
        show n.log2 - 53 + 53 = n.log2 by omega]
      exact Nat.log2_self_le hn0
    have hb := rne_mul_bounds n (show 0 < 2 ^ (n.log2 + 1 - 53) by positivity)
    rw [hs] at hb ⊢
    omega

theorem roundDouble_of_lt {n : Nat} (h : n < 2 ^ 53) : roundDouble n = n := if_pos h

/-- **The buffer never lowers the estimate.** For every positive estimate below 2^53, the
buffered gas limit is at least the estimate; below 7·10¹³ it is at most 1.15 times it. -/
theorem bufferedGas_bounds (big : Nat → UInt64) {gas : UInt64} (hpos : 0 < gas.toNat)
    (h53 : gas.toNat < 2 ^ 53) :
    gas.toNat ≤ (bufferedGas big gas).toNat ∧
      (60 * gas.toNat < 2 ^ 52 → 100 * (bufferedGas big gas).toNat ≤ 115 * gas.toNat) := by
  unfold bufferedGas
  rw [roundDouble_of_lt h53]
  obtain ⟨hlo, hhi⟩ := roundDouble_err (gas.toNat * float115)
  generalize roundDouble (gas.toNat * float115) = R at hlo hhi
  have hE : gas.toNat * float115 / 2 ^ 53 < gas.toNat :=
    (Nat.div_lt_iff_lt_mul (by positivity)).mpr (by unfold float115; omega)
  have e := Nat.div_add_mod R (2 ^ 52)
  have hm := Nat.mod_lt R (show 0 < 2 ^ 52 by positivity)
  have h52 : (2 : Nat) ^ 52 = 4503599627370496 := rfl
  have h53' : (2 : Nat) ^ 53 = 9007199254740992 := rfl
  rw [h52] at e hm ⊢
  rw [h53'] at h53 hE hlo hhi
  unfold float115 at hE hlo hhi
  have hv : R / 4503599627370496 < 2 ^ 64 := by
    have : (2 : Nat) ^ 64 = 18446744073709551616 := rfl
    omega
  simp only [if_pos hv]
  have ht : (R / 4503599627370496).toUInt64.toNat = R / 4503599627370496 :=
    Nat.mod_eq_of_lt hv
  rw [ht]
  exact ⟨by omega, fun _ => by omega⟩

theorem bufferedGas_bounds_transfer :
    (0 < (21000 : UInt64).toNat ∧ (21000 : UInt64).toNat < 2 ^ 53) ∧
      ((21000 : UInt64).toNat ≤ (bufferedGas (fun _ => 0) 21000).toNat ∧
        (60 * (21000 : UInt64).toNat < 2 ^ 52 →
          100 * (bufferedGas (fun _ => 0) 21000).toNat ≤ 115 * (21000 : UInt64).toNat)) :=
  ⟨⟨by decide, by decide⟩, bufferedGas_bounds _ (by decide) (by decide)⟩

/-! ## The gas fillers -/

/-- `bind.TransactOpts`, by the fields the gas fillers read and set. -/
structure TransactOpts where
  fromAddr : GoString
  gasPrice : Option Int
  gasTipCap : Option Int
  gasFeeCap : Option Int
  gasLimit : UInt64
  deriving DecidableEq, Repr

/-- The `ethereum.CallMsg` a gas filler asks `EstimateGas` about: the caller's `To`, `Data`
and `Value` (`call`), the sender, and the fee caps it has just set. -/
structure GasMsg (Call : Type) where
  call : Call
  fromAddr : GoString
  gasTipCap : Option Int
  gasFeeCap : Option Int

/-- What the backend answers a gas filler: the dial of `EnsureBackend`, the suggestions,
the latest header, and `EstimateGas` for each message. -/
structure GasBackend (Call : Type) where
  dialed : Except GoString Unit
  suggestGasTipCap : Except GoString Int
  suggestGasPrice : Except GoString Int
  headerByNumber : Except GoString Header
  estimateGas : GasMsg Call → Except GoString UInt64

/-- Why a gas filler fails. -/
inductive FillGasError where
  | ensureBackend (e : ClientError)
  /-- "ethrpc: nil transact opts" -/
  | nilOpts
  | backend (e : GoString)
  deriving DecidableEq, Repr

/-- The estimate step both fillers end with: a positive estimate, with its buffer, becomes
the gas limit when the caller left it at zero; an error of `EstimateGas` is dropped. -/
def fillGasLimit (big : Nat → UInt64) (estimate : Except GoString UInt64) (o : TransactOpts) :
    TransactOpts :=
  match estimate with
  | .ok gas => if 0 < gas ∧ o.gasLimit = 0 then { o with gasLimit := bufferedGas big gas } else o
  | .error _ => o

variable {Call : Type} (big : Nat → UInt64)

/-- `Client.FillGasEIP1559`, on the options `opts` (`nil` as `none`): what it returns, the
client after `EnsureBackend`, and the options after it. A header with no base fee returns
`nil` with nothing set. -/
def Client.fillGasEIP1559 (c : Client) (b : GasBackend Call) (opts : Option TransactOpts)
    (call : Call) : Except FillGasError Unit × Client × Option TransactOpts :=
  match c.ensureBackend b.dialed with
  | (.error e, c) => (.error (.ensureBackend e), c, opts)
  | (.ok (), c) =>
    match opts with
    | none => (.error .nilOpts, c, none)
    | some o =>
      match b.suggestGasTipCap, b.headerByNumber with
      | .error e, _ => (.error (.backend e), c, opts)
      | .ok _, .error e => (.error (.backend e), c, opts)
      | .ok _, .ok ⟨none⟩ => (.ok (), c, opts)
      | .ok tip, .ok ⟨some baseFee⟩ =>
        let o := { o with gasTipCap := some tip, gasFeeCap := some (baseFee * 2 + tip) }
        (.ok (), c, some (fillGasLimit big
          (b.estimateGas ⟨call, o.fromAddr, some tip, some (baseFee * 2 + tip)⟩) o))

/-- `Client.FillGasLegacy`. -/
def Client.fillGasLegacy (c : Client) (b : GasBackend Call) (opts : Option TransactOpts)
    (call : Call) : Except FillGasError Unit × Client × Option TransactOpts :=
  match c.ensureBackend b.dialed with
  | (.error e, c) => (.error (.ensureBackend e), c, opts)
  | (.ok (), c) =>
    match opts with
    | none => (.error .nilOpts, c, none)
    | some o =>
      match b.suggestGasPrice with
      | .error e => (.error (.backend e), c, opts)
      | .ok price =>
        let o := { o with gasPrice := some price }
        (.ok (), c, some (fillGasLimit big (b.estimateGas ⟨call, o.fromAddr, none, none⟩) o))

/-- What a filler may do to the gas limit: keep it, or set a zero one to the buffered
value of a positive estimate the backend gave. -/
def GasLimitFilled (estimate : GasMsg Call → Except GoString UInt64) (before after : UInt64) :
    Prop :=
  after = before ∨ before = 0 ∧ ∃ m gas, estimate m = .ok gas ∧ 0 < gas ∧ after = bufferedGas big gas

theorem fillGasLimit_spec (estimate : GasMsg Call → Except GoString UInt64) (m : GasMsg Call)
    (o : TransactOpts) :
    (fillGasLimit big (estimate m) o).fromAddr = o.fromAddr ∧
      (fillGasLimit big (estimate m) o).gasPrice = o.gasPrice ∧
      (fillGasLimit big (estimate m) o).gasTipCap = o.gasTipCap ∧
      (fillGasLimit big (estimate m) o).gasFeeCap = o.gasFeeCap ∧
      GasLimitFilled big estimate o.gasLimit (fillGasLimit big (estimate m) o).gasLimit := by
  unfold fillGasLimit
  rcases h : estimate m with _ | gas
  · exact ⟨rfl, rfl, rfl, rfl, .inl rfl⟩
  · simp only []
    split_ifs with hg
    · exact ⟨rfl, rfl, rfl, rfl, .inr ⟨hg.2, m, gas, h, hg.1, rfl⟩⟩
    · exact ⟨rfl, rfl, rfl, rfl, .inl rfl⟩

/-- **What `FillGasEIP1559` does.** It leaves the selection alone; an error leaves the options
as they were; the sender and the gas price are never touched, a gas limit is kept or set to
a buffered estimate, and the caps are kept or set to the backend's tip and twice its base
fee plus the tip. -/
theorem fillGasEIP1559_outcome (c : Client) (b : GasBackend Call) (opts : Option TransactOpts)
    (call : Call) :
    let out := c.fillGasEIP1559 big b opts call
    out.2.1.cfg = c.cfg ∧ (∀ e, out.1 = .error e → out.2.2 = opts) ∧
      ∀ o o', opts = some o → out.2.2 = some o' →
        o'.fromAddr = o.fromAddr ∧ o'.gasPrice = o.gasPrice ∧
        GasLimitFilled big b.estimateGas o.gasLimit o'.gasLimit ∧
        ((o'.gasTipCap, o'.gasFeeCap) = (o.gasTipCap, o.gasFeeCap) ∨
          ∃ tip baseFee, b.suggestGasTipCap = .ok tip ∧ b.headerByNumber = .ok ⟨some baseFee⟩ ∧
            o'.gasTipCap = some tip ∧ o'.gasFeeCap = some (baseFee * 2 + tip)) := by
  dsimp only
  have hcfg := Client.ensureBackend_cfg c b.dialed
  unfold Client.fillGasEIP1559
  rcases hb : c.ensureBackend b.dialed with ⟨_ | u, c'⟩ <;> rw [hb] at hcfg
  · exact ⟨hcfg, fun _ _ => rfl, fun o o' h h' => by
      subst h; cases h'; exact ⟨rfl, rfl, .inl rfl, .inl rfl⟩⟩
  cases u
  rcases opts with _ | o
  · exact ⟨hcfg, fun _ _ => rfl, fun _ _ h => nomatch h⟩
  rcases ht : b.suggestGasTipCap with e | tip <;> rcases hh : b.headerByNumber with e' | ⟨_ | fee⟩
  all_goals try exact ⟨hcfg, fun _ _ => rfl, fun o₁ o' h h' => by
    cases h; cases h'; exact ⟨rfl, rfl, .inl rfl, .inl rfl⟩⟩
  refine ⟨hcfg, ?_, ?_⟩
  · intro _ h
    cases h
  intro o₁ o' h h'
  cases h; cases h'
  obtain ⟨h1, h2, h3, h4, h5⟩ := fillGasLimit_spec big b.estimateGas
    ⟨call, o.fromAddr, some tip, some (fee * 2 + tip)⟩
    { o with gasTipCap := some tip, gasFeeCap := some (fee * 2 + tip) }
  exact ⟨h1, h2, h5, .inr ⟨tip, fee, rfl, rfl, h3, h4⟩⟩

/-- **What `FillGasLegacy` does.** It leaves the selection alone; an error leaves the options
as they were; on success the sender and the caps are untouched, a gas limit is kept or set
to a buffered estimate, and the gas price is the backend's suggestion. -/
theorem fillGasLegacy_outcome (c : Client) (b : GasBackend Call) (opts : Option TransactOpts)
    (call : Call) :
    let out := c.fillGasLegacy big b opts call
    out.2.1.cfg = c.cfg ∧ (∀ e, out.1 = .error e → out.2.2 = opts) ∧
      ∀ o o', out.1 = .ok () → opts = some o → out.2.2 = some o' →
        o'.fromAddr = o.fromAddr ∧ o'.gasTipCap = o.gasTipCap ∧ o'.gasFeeCap = o.gasFeeCap ∧
        GasLimitFilled big b.estimateGas o.gasLimit o'.gasLimit ∧
        ∃ price, b.suggestGasPrice = .ok price ∧ o'.gasPrice = some price := by
  dsimp only
  have hcfg := Client.ensureBackend_cfg c b.dialed
  unfold Client.fillGasLegacy
  rcases hb : c.ensureBackend b.dialed with ⟨_ | u, c'⟩ <;> rw [hb] at hcfg
  · exact ⟨hcfg, fun _ _ => rfl, fun _ _ h => nomatch h⟩
  cases u
  rcases opts with _ | o
  · exact ⟨hcfg, fun _ _ => rfl, fun _ _ h => nomatch h⟩
  rcases hp : b.suggestGasPrice with e | price
  · exact ⟨hcfg, fun _ _ => rfl, fun _ _ h => nomatch h⟩
  refine ⟨hcfg, ?_, ?_⟩
  · intro _ h
    cases h
  intro o₁ o' _ h h'
  cases h; cases h'
  obtain ⟨h1, h2, h3, h4, h5⟩ := fillGasLimit_spec big b.estimateGas
    ⟨call, o.fromAddr, none, none⟩ { o with gasPrice := some price }
  exact ⟨h1, h3, h4, h5, price, rfl, h2⟩

end QuantumGoUtils.Ethrpc
