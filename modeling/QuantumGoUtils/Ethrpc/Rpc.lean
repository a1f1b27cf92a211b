import Mathlib.Data.List.Forall2
import QuantumGoUtils.Ethrpc.Client
import QuantumGoUtils.Ethrpc.Hex
import QuantumGoUtils.Go.JsonNested

/-!
# JSON-RPC calls (`ethrpc/rpc.go` and the wrappers of `ethrpc/hex.go`)

`Client.Call` posts `{"jsonrpc":"2.0","id":1,"method":…,"params":…}` to the active URL,
refuses a status outside 200–299, decodes the first JSON value of the reply's body as an
`rpcRes`, fails with its `error` member as "ethrpc: %s (%d)", and unmarshals its `result`
into `out`. The HTTP round trip is a parameter, `post`: what `http.NewRequestWithContext`
and `Do` give for the URL and the body. The wrappers build their parameters, addresses
through `NormalizeHex0x`, call, and read the result: a quantity through `HexQuantity.Big`,
a hash through `common.HexToHash`, a receipt or `nil` (`fees_receipts.go`).

## Main results

* `rpcReqBody_parse` — the body `Call` posts is JSON that reads back as the JSON-RPC 2.0
  request: version `2.0`, id 1, the method and the parameters.
* `decodeMembers_okResultMembers`, `rpcCall_of_result_members` — a reply in any layout
  that `Decode` reads without error, its members in any order, other members and keys in
  any case included, is read as its last `result` member.
* `quantityCall_of_response` — from such a reply, a quantity wrapper returns the number of
  its hex quantity, whatever the reply's version text and id: `Call` checks neither.
* `rpcCall_of_error_response` — a compact reply with an `error` member fails with its
  message and its code, whatever its version text and id.
* `address_spelling` — the wrappers that take an address or a hex text send the same
  request, and so return the same, for every spelling of it: `0x`, `0X` or no prefix.
* `sendRawTransaction_of_response`, `sendRawTransaction_bad_digit` — `SendRawTransaction`
  returns a hash written in hex, and reads a text with a bad digit as the bytes before it:
  it never reports a malformed hash.
-/

namespace QuantumGoUtils.Ethrpc

open QuantumGoUtils.Go.Strings QuantumGoUtils.Go.Unicode QuantumGoUtils.Go.Strconv
open QuantumGoUtils.Go.Json

/-! ## The request -/

/-- `CallMsg`, the object of `eth_call` and `eth_estimateGas`. -/
structure CallMsg where
  /-- `From`. -/
  fromAddr : GoString
  /-- `To`. -/
  toAddr : GoString
  gas : GoString
  gasPrice : GoString
  value : GoString
  data : GoString
  maxFeePerGas : GoString
  maxPriorityFeePerGas : GoString
  deriving DecidableEq, Repr

/-- The members `json.Marshal` writes for a `CallMsg`, by JSON name: every field is
`omitempty`. -/
def CallMsg.fields (m : CallMsg) : List (GoString × GoString) :=
  [(lit "from", m.fromAddr), (lit "to", m.toAddr), (lit "gas", m.gas), (lit "gasPrice", m.gasPrice),
    (lit "value", m.value), (lit "data", m.data), (lit "maxFeePerGas", m.maxFeePerGas),
    (lit "maxPriorityFeePerGas", m.maxPriorityFeePerGas)].filter fun f => !f.2.isEmpty

/-- A parameter of the repository's calls: a string, or a `CallMsg`. -/
inductive Param where
  | str (s : GoString)
  | msg (m : CallMsg)
  deriving DecidableEq, Repr

/-- `json.Marshal` of a parameter. -/
def Param.marshal : Param → GoString
  | .str s => quote s
  | .msg m => objectCompact (m.fields.map fun f => (f.1, quote f.2))

/-- `json.Marshal` of the `[]any` of parameters. -/
def marshalParams (params : List Param) : GoString :=
  [91] ++ join (params.map Param.marshal) [44] ++ [93]

/-- `json.Marshal(rpcReq{JSONRPC: "2.0", ID: 1, Method: method, Params: params})`. -/
def rpcReqBody (method : GoString) (params : List Param) : GoString :=
  objectCompact [(lit "jsonrpc", quote (lit "2.0")), (lit "id", formatInt 1),
    (lit "method", quote method), (lit "params", marshalParams params)]

/-- The JSON value a parameter is, its strings as JSON reads them back. -/
def Param.toValue : Param → Value
  | .str s => .string (coerce s)
  | .msg m => .object (m.fields.map fun f => (f.1, .string (coerce f.2)))

/-! ## The reply -/

/-- `rpcErr`. -/
structure RpcErr where
  code : Int
  message : GoString
  deriving DecidableEq, Repr

/-- `rpcRes`. `Result` is a `json.RawMessage`: the value of the `result` member, `none`
while no member set it. -/
structure RpcRes where
  jsonrpc : GoString
  id : Int
  result : Option Value
  error : Option RpcErr

/-- The fields of `rpcErr`. -/
def RpcErr.fields : List (GoString × FieldDecoder RpcErr) :=
  [(lit "code", intField fun e n => { e with code := n }),
    (lit "message", stringField fun e s => { e with message := s })]

/-- The `*rpcErr` field: an object is decoded into the struct the pointer holds, a new one
while it is `nil`; `null` sets the pointer to `nil`. -/
def errorField : FieldDecoder RpcRes
  | .object ms, r =>
    let d := decodeMembers RpcErr.fields ms (r.error.getD ⟨0, []⟩)
    ({ r with error := some d.1 }, d.2)
  | .null, r => ({ r with error := none }, none)
  | _, r => (r, some .unmarshalType)

/-- The `json.RawMessage` field, which keeps every value, `null` included. -/
def resultField : FieldDecoder RpcRes := fun v r => ({ r with result := some v }, none)

/-- The fields of `rpcRes`. -/
def RpcRes.fields : List (GoString × FieldDecoder RpcRes) :=
  [(lit "jsonrpc", stringField fun r s => { r with jsonrpc := s }),
    (lit "id", intField fun r n => { r with id := n }),
    (lit "result", resultField), (lit "error", errorField)]

/-- The zero `rpcRes` that `Decode` fills. -/
def RpcRes.zero : RpcRes := ⟨[], 0, none, none⟩

/-! ## `Call` -/

/-- Why `Client.Call` fails. -/
inductive CallError where
  /-- The error of `activeURL`. -/
  | client (e : ClientError)
  /-- An error of `http.NewRequestWithContext` or of `Do`. -/
  | transport (e : GoString)
  /-- "ethrpc: http status %d" -/
  | httpStatus (code : Int)
  /-- An error of `encoding/json`, decoding the body or unmarshalling the result. -/
  | json (e : JsonError)
  /-- "ethrpc: %s (%d)", the message and the code of the reply's `error`. -/
  | rpc (message : GoString) (code : Int)
  deriving DecidableEq, Repr

/-- `Client.Call` with a non-nil `out`; `out` is what `json.Unmarshal(res.Result, out)`
gives for the raw result. -/
def Client.rpcCall {α : Type} (c : Client) (method : GoString) (params : List Param)
    (post : GoString → GoString → Except GoString (Int × GoString))
    (out : Option Value → Except JsonError α) : Except CallError α :=
  match c.activeURL with
  | .error e => .error (.client e)
  | .ok url =>
    match post url (rpcReqBody method params) with
    | .error e => .error (.transport e)
    | .ok (status, body) =>
      if status < 200 ∨ status > 299 then .error (.httpStatus status)
      else
        match Decoder.decode RpcRes.fields RpcRes.zero body with
        | .error e => .error (.json e)
        | .ok res =>
          match res.error with
          | some e => .error (.rpc e.message e.code)
          | none => (out res.result).mapError .json

/-- `json.Unmarshal(res.Result, &out)` for a `string` `out`: a missing result is an empty
input, a syntax error; `null` leaves `out` empty. -/
def stringOut : Option Value → Except JsonError GoString
  | none => .error .syntaxError
  | some (.string s) => .ok s
  | some .null => .ok []
  | some _ => .error .unmarshalType

/-- `json.Unmarshal(res.Result, &raw)` for a `jsonRaw`, whose `UnmarshalJSON` keeps the
value's bytes. -/
def rawOut : Option Value → Except JsonError Value
  | none => .error .syntaxError
  | some v => .ok v

/-! ## The wrappers -/

/-- Why a wrapper that reads a quantity fails: the call, or `HexQuantity.Big`. -/
inductive QuantityError where
  | call (e : CallError)
  | quantity (e : HexQuantityError)
  deriving DecidableEq, Repr

section Wrappers

variable (c : Client) (post : GoString → GoString → Except GoString (Int × GoString))

/-- A call whose string result is a hex quantity, read by `HexQuantity.Big`. -/
def Client.quantityCall (method : GoString) (params : List Param) : Except QuantityError Int :=
  match c.rpcCall method params post stringOut with
  | .error e => .error (.call e)
  | .ok out => (HexQuantity.big out).mapError .quantity

/-- `err := c.Call(…, &out); return out, err`: `out` stays empty when the call fails. -/
def Client.stringCall (method : GoString) (params : List Param) : GoString × Option CallError :=
  match c.rpcCall method params post stringOut with
  | .ok out => (out, none)
  | .error e => ([], some e)

/-- `Client.ChainIDHex`. -/
def Client.chainIDHex : Except CallError GoString := c.rpcCall (lit "eth_chainId") [] post stringOut

/-- `Client.ChainID`. -/
def Client.chainID : Except QuantityError Int :=
  match c.chainIDHex post with
  | .error e => .error (.call e)
  | .ok hexID => (HexQuantity.big hexID).mapError .quantity

/-- `Client.BlockNumber`. -/
def Client.blockNumber : Except QuantityError Int := c.quantityCall post (lit "eth_blockNumber") []

/-- `Client.GetBalance`. -/
def Client.getBalance (address blockTag : GoString) : Except QuantityError Int :=
  c.quantityCall post (lit "eth_getBalance") [.str (normalizeHex0x address), .str blockTag]

/-- `Client.GetTransactionCount`. -/
def Client.getTransactionCount (address blockTag : GoString) : Except QuantityError Int :=
  c.quantityCall post (lit "eth_getTransactionCount") [.str (normalizeHex0x address), .str blockTag]

/-- `Client.GasPrice`. -/
def Client.gasPrice : Except QuantityError Int := c.quantityCall post (lit "eth_gasPrice") []

/-- `Client.MaxPriorityFeePerGas`. -/
def Client.maxPriorityFeePerGas : Except QuantityError Int :=
  c.quantityCall post (lit "eth_maxPriorityFeePerGas") []

/-- `Client.GetCode`. -/
def Client.getCode (address blockTag : GoString) : GoString × Option CallError :=
  c.stringCall post (lit "eth_getCode") [.str (normalizeHex0x address), .str blockTag]

/-- What `CallContract` and `EstimateGas` both do to the message: `From`, `To` and `Data`
through `NormalizeHex0x` when they are not empty. -/
def CallMsg.normalize (msg : CallMsg) : CallMsg :=
  { msg with
    fromAddr := if msg.fromAddr ≠ [] then normalizeHex0x msg.fromAddr else msg.fromAddr
    toAddr := if msg.toAddr ≠ [] then normalizeHex0x msg.toAddr else msg.toAddr
    data := if msg.data ≠ [] then normalizeHex0x msg.data else msg.data }

/-- `Client.CallContract`. -/
def Client.callContract (msg : CallMsg) (blockTag : GoString) : GoString × Option CallError :=
  c.stringCall post (lit "eth_call") [.msg msg.normalize, .str blockTag]

/-- `Client.EstimateGas`. -/
def Client.estimateGas (msg : CallMsg) : Except QuantityError Int :=
  c.quantityCall post (lit "eth_estimateGas") [.msg msg.normalize]

end Wrappers

/-! ## Hashes -/

/-- A `common.Hash`: 32 bytes. -/
def Hash : Type := { b : GoString // b.length = 32 }

/-- The bytes `hex.Decode` writes before its first error: the pairs of hex digits at the
front. -/
def hexDecodePrefix : GoString → GoString
  | p :: q :: rest =>
    if isHexDigit p && isHexDigit q then (hexVal p * 16 + hexVal q).toUInt8 :: hexDecodePrefix rest
    else []
  | _ => []

/-- `common.FromHex`: the text without its `0x` or `0X`, an odd length padded with a
leading `0`, then `Hex2Bytes`, which drops `hex.DecodeString`'s error and keeps the bytes
decoded before it. -/
def fromHex (s : GoString) : GoString :=
  let s := strip0x s
  hexDecodePrefix (if s.length % 2 = 1 then 48 :: s else s)

/-- `common.BytesToHash`: the last 32 bytes, left-padded with zeros. -/
def bytesToHash (b : GoString) : Hash :=
  ⟨List.replicate (32 - b.length) 0 ++ b.drop (b.length - 32), by simp; omega⟩

/-- `common.HexToHash`. -/
def hexToHash (s : GoString) : Hash := bytesToHash (fromHex s)

/-- `Client.SendRawTransaction`. -/
def Client.sendRawTransaction (c : Client) (rawTxHex : GoString)
    (post : GoString → GoString → Except GoString (Int × GoString)) : Except CallError Hash :=
  match c.rpcCall (lit "eth_sendRawTransaction") [.str (normalizeHex0x rawTxHex)] post stringOut with
  | .error e => .error e
  | .ok out => .ok (hexToHash out)

/-! ## Receipts (`fees_receipts.go`) -/

/-- `TxReceipt`. -/
structure TxReceipt where
  transactionHash : GoString
  blockHash : GoString
  blockNumber : GoString
  /-- `From`. -/
  fromAddr : GoString
  /-- `To`. -/
  toAddr : GoString
  contractAddress : GoString
  gasUsed : GoString
  effectiveGasPrice : GoString
  status : GoString
  logs : List Value

/-- The zero `TxReceipt` that `UnmarshalInto` fills. -/
def TxReceipt.zero : TxReceipt := ⟨[], [], [], [], [], [], [], [], [], []⟩

/-- The fields of `TxReceipt`. -/
def TxReceipt.fields : List (GoString × FieldDecoder TxReceipt) :=
  [(lit "transactionHash", stringField fun r s => { r with transactionHash := s }),
    (lit "blockHash", stringField fun r s => { r with blockHash := s }),
    (lit "blockNumber", stringField fun r s => { r with blockNumber := s }),
    (lit "from", stringField fun r s => { r with fromAddr := s }),
    (lit "to", stringField fun r s => { r with toAddr := s }),
    (lit "contractAddress", stringField fun r s => { r with contractAddress := s }),
    (lit "gasUsed", stringField fun r s => { r with gasUsed := s }),
    (lit "effectiveGasPrice", stringField fun r s => { r with effectiveGasPrice := s }),
    (lit "status", stringField fun r s => { r with status := s }),
    (lit "logs", anySliceField fun r vs => { r with logs := vs })]

/-- Why `GetTransactionReceiptRaw` fails. -/
inductive ReceiptRawError where
  | call (e : CallError)
  /-- "ethrpc: unmarshal receipt: %w" -/
  | unmarshalReceipt (e : JsonError)
  deriving DecidableEq, Repr

/-- `jsonRaw.IsNull`: the bytes of the value are `null` (a value is never empty). -/
def jsonRawIsNull : Value → Bool
  | .null => true
  | _ => false

/-- `Client.GetTransactionReceiptRaw`: `nil` while the transaction is not mined. -/
def Client.getTransactionReceiptRaw (c : Client) (txHash : GoString)
    (post : GoString → GoString → Except GoString (Int × GoString)) :
    Except ReceiptRawError (Option TxReceipt) :=
  match c.rpcCall (lit "eth_getTransactionReceipt") [.str (normalizeHex0x txHash)] post rawOut with
  | .error e => .error (.call e)
  | .ok raw =>
    if jsonRawIsNull raw then .ok none
    else
      match decodeValue TxReceipt.fields TxReceipt.zero raw with
      | .error e => .error (.unmarshalReceipt e)
      | .ok out => .ok (some out)

/-! ## The request reads back -/

/-- The keys of a `CallMsg` are ASCII names. -/
theorem validString_callMsg_keys (m : CallMsg) :
    ∀ k ∈ (m.fields.map fun f => (f.1, quote f.2)).map Prod.fst, validString k = true := by
  intro k hk
  simp only [List.map_map, List.mem_map, Function.comp_apply] at hk
  obtain ⟨f, hf, rfl⟩ := hk
  have := (List.mem_filter.mp hf).1
  simp only [List.mem_cons, List.not_mem_nil, or_false] at this
  rcases this with rfl | rfl | rfl | rfl | rfl | rfl | rfl | rfl <;> dsimp only <;> decide

/-- A parameter's text reads as its value. -/
theorem readsIn_marshal : ∀ p : Param, ReadsIn 1 p.marshal p.toValue
  | .str s => (readsIn_quote s).mono (by omega)
  | .msg m => by
    by_cases h : m.fields = []
    · simp only [Param.marshal, Param.toValue, h, List.map_nil]
      exact readsIn_emptyObject
    · have hv : List.Forall₂ (fun f v => ReadsAs f.2 v) (m.fields.map fun f => (f.1, quote f.2))
          (m.fields.map fun f => .string (coerce f.2)) :=
        List.forall₂_map_left_iff.mpr (List.forall₂_map_right_iff.mpr
          (List.forall₂_same.mpr fun f _ => readsAs_quote f.2))
      have := readsIn_objectCompact (validString_callMsg_keys m) hv (by simpa using h)
      simpa only [List.map_map, Function.comp_def, List.zip_map'] using this

/-- A parameter's text starts with a quote or a brace. -/
theorem marshal_head : ∀ p : Param, ∃ r, p.marshal = 34 :: r ∨ p.marshal = 123 :: r
  | .str _ => ⟨_, .inl rfl⟩
  | .msg _ => ⟨_, .inr rfl⟩

/-- The parameters' text reads as the array of their values. -/
theorem readsIn_marshalParams (params : List Param) :
    ReadsIn 2 (marshalParams params) (.array (params.map Param.toValue)) := by
  refine readsIn_array (List.forall₂_map_left_iff.mpr (List.forall₂_map_right_iff.mpr
    (List.forall₂_same.mpr fun p _ => readsIn_marshal p))) fun t ht => ?_
  cases params with
  | nil => cases ht
  | cons p ps =>
    cases ht
    exact marshal_head p

/-- **The request reads back.** The body `Call` posts is JSON that reads as the JSON-RPC 2.0
request: version `2.0`, id 1, the method and the parameters, each string as JSON reads it
back. -/
theorem rpcReqBody_parse (method : GoString) (params : List Param) :
    parse (rpcReqBody method params) = .ok (.object [(lit "jsonrpc", .string (lit "2.0")),
      (lit "id", .number [49]), (lit "method", .string (coerce method)),
      (lit "params", .array (params.map Param.toValue))]) := by
  have hk : ∀ k ∈ [(lit "jsonrpc", quote (lit "2.0")), (lit "id", formatInt 1),
      (lit "method", quote method)].map Prod.fst, validString k = true := by
    intro k hk
    simp only [List.map_cons, List.map_nil, List.mem_cons, List.not_mem_nil, or_false] at hk
    rcases hk with rfl | rfl | rfl <;> decide
  have h := parse_objectCompact_last hk
    (.cons (readsAs_quote _) (.cons readsAs_one (.cons (readsAs_quote method) .nil)))
    (k := lit "params") (by decide) (readsIn_marshalParams params) (by decide)
  rwa [coerce_of_validString (s := lit "2.0") (by decide)] at h

/-! ## Reading the reply -/

/-- A reply of a version text, an id, and one more member parses as those members. -/
theorem parse_reply (jsonrpc : GoString) (id : BitVec 64) {k t : GoString} {v : Value} {n : Nat}
    (hk : validString k = true) (ht : ReadsIn n t v) (hn : n + 1 < maxNestingDepth) :
    parse (objectCompact [(lit "jsonrpc", quote jsonrpc), (lit "id", formatInt id.toInt), (k, t)]) =
      .ok (.object [(lit "jsonrpc", .string (coerce jsonrpc)),
        (lit "id", .number (formatInt id.toInt)), (k, v)]) := by
  have hv : List.Forall₂ (fun m v => ReadsAs m.2 v)
      [(lit "jsonrpc", quote jsonrpc), (lit "id", formatInt id.toInt)]
      [.string (coerce jsonrpc), .number (formatInt id.toInt)] :=
    .cons (readsAs_quote _) (.cons (readsAs_formatInt _) .nil)
  exact parse_objectCompact_last (by
      intro k hk
      simp only [List.map_cons, List.map_nil, List.mem_cons, List.not_mem_nil, or_false] at hk
      rcases hk with rfl | rfl <;> decide) hv hk ht hn

/-- The members of such a reply go through the version, the id, and the member's field. -/
theorem decodeMembers_reply (j : GoString) (x : BitVec 64) {f : GoString × FieldDecoder RpcRes}
    (hf : f ∈ RpcRes.fields) (v : Value) :
    decodeMembers RpcRes.fields [(lit "jsonrpc", .string j), (lit "id", .number (formatInt x.toInt)),
      (f.1, v)] RpcRes.zero = f.2 v ⟨j, x.toInt, none, none⟩ := by
  have hnd : (RpcRes.fields.map Prod.fst).Nodup := by decide
  have h := @decodeMembers_zip _ _ hnd [(lit "jsonrpc", stringField fun r s => { r with jsonrpc := s }),
    (lit "id", intField fun r n => { r with id := n }), f] (by
      intro y hy
      simp only [List.mem_cons, List.not_mem_nil, or_false] at hy
      rcases hy with rfl | rfl | rfl
      · exact List.mem_cons_self _ _
      · exact List.mem_cons_of_mem _ (List.mem_cons_self _ _)
      · exact hf) [.string j, .number (formatInt x.toInt), v] RpcRes.zero
  rw [show ([(lit "jsonrpc", .string j), (lit "id", .number (formatInt x.toInt)), (f.1, v)] :
      List (GoString × Value)) = ([(lit "jsonrpc", stringField fun r s => { r with jsonrpc := s }),
    (lit "id", intField fun r n => { r with id := n }), f].map Prod.fst).zip
      [.string j, .number (formatInt x.toInt), v] from rfl, h]
  rcases hr : f.2 v ⟨j, x.toInt, none, none⟩ with ⟨r, _ | e⟩ <;>
    simp [applyFields, RpcRes.zero, hr]

/-! ## A result reply in any layout -/

/-- **An error reply is reported.** When the active URL answers with a status in 200–299
and a reply with an `error` member, `Call` fails with the member's message, as JSON reads
it back, and its code, whatever the reply's version text and id. -/
theorem rpcCall_of_error_response {α : Type} {c : Client} {url : GoString}
    (hurl : c.activeURL = .ok url) (method : GoString) (params : List Param)
    {post : GoString → GoString → Except GoString (Int × GoString)} {status : Int}
    (hstatus : 200 ≤ status ∧ status ≤ 299) (jsonrpc : GoString) (id code : BitVec 64)
    (message : GoString)
    (hpost : post url (rpcReqBody method params) = .ok (status, objectCompact
      [(lit "jsonrpc", quote jsonrpc), (lit "id", formatInt id.toInt),
        (lit "error", objectCompact [(lit "code", formatInt code.toInt),
          (lit "message", quote message)])]))
    (out : Option Value → Except JsonError α) :
    c.rpcCall method params post out = .error (.rpc (coerce message) code.toInt) := by
  have herr : ReadsIn 1 (objectCompact [(lit "code", formatInt code.toInt), (lit "message", quote message)])
      (.object [(lit "code", .number (formatInt code.toInt)), (lit "message", .string (coerce message))]) :=
    readsIn_objectCompact (by
      intro k hk
      simp only [List.map_cons, List.map_nil, List.mem_cons, List.not_mem_nil, or_false] at hk
      rcases hk with rfl | rfl <;> decide)
      (.cons (readsAs_formatInt _) (.cons (readsAs_quote _) .nil)) (List.cons_ne_nil _ _)
  have hdec := @decode_of_parse _ RpcRes.fields RpcRes.zero _ _
    (parse_reply jsonrpc id (k := lit "error") (by decide) herr (by decide))
  have hres := decodeMembers_reply (coerce jsonrpc) id (f := (lit "error", errorField))
    (List.mem_cons_of_mem _ (List.mem_cons_of_mem _ (List.mem_cons_of_mem _ (List.mem_cons_self _ _))))
    (.object [(lit "code", .number (formatInt code.toInt)), (lit "message", .string (coerce message))])
  dsimp only at hres
  have hfields : decodeMembers RpcErr.fields [(lit "code", .number (formatInt code.toInt)),
      (lit "message", .string (coerce message))] ⟨0, []⟩ = (⟨code.toInt, coerce message⟩, none) := by
    rw [show ([(lit "code", .number (formatInt code.toInt)), (lit "message", .string (coerce message))] :
        List (GoString × Value)) = (RpcErr.fields.map Prod.fst).zip
          [.number (formatInt code.toInt), .string (coerce message)] from rfl,
      decodeMembers_zip (by decide) fun _ h => h]
    simp [applyFields, RpcErr.fields]
  simp only [Client.rpcCall, hurl, hpost, hdec, decodeValue, hres, errorField, hfields,
    show ¬(status < 200 ∨ status > 299) by omega, if_false, Option.getD]

/-! ## Addresses and hashes -/

/-- Two spellings of one hex text are normalised alike. -/
theorem normalizeHex0x_eq_of_strip0x {a b : GoString} (ha : a ≠ []) (hb : b ≠ [])
    (hab : strip0x a = strip0x b) : normalizeHex0x a = normalizeHex0x b := by
  rw [normalizeHex0x_of_ne_nil ha, normalizeHex0x_of_ne_nil hb, hab]

/-- Normalising a field of a `CallMsg` twice is normalising it once. -/
theorem normalizeField_idem (x : GoString) :
    (if (if x ≠ [] then normalizeHex0x x else x) ≠ [] then
      normalizeHex0x (if x ≠ [] then normalizeHex0x x else x) else
      (if x ≠ [] then normalizeHex0x x else x)) = if x ≠ [] then normalizeHex0x x else x := by
  by_cases h : x = []
  · simp [h]
  · simp [h, normalizeHex0x_normalizeHex0x]

theorem CallMsg.normalize_normalize (msg : CallMsg) : msg.normalize.normalize = msg.normalize := by
  simp only [CallMsg.normalize, normalizeField_idem]

/-- **Every spelling of an address sends the same request.** The wrappers that take an
address or a hex text return the same for two spellings of it, with `0x`, `0X` or no
prefix, and a message whose `From`, `To` and `Data` are already normalised is sent as it
is. -/
theorem address_spelling {a b : GoString} (ha : a ≠ []) (hb : b ≠ []) (hab : strip0x a = strip0x b)
    (c : Client) (post : GoString → GoString → Except GoString (Int × GoString))
    (blockTag : GoString) :
    c.getBalance post a blockTag = c.getBalance post b blockTag ∧
      c.getTransactionCount post a blockTag = c.getTransactionCount post b blockTag ∧
      c.getCode post a blockTag = c.getCode post b blockTag ∧
      c.getTransactionReceiptRaw a post = c.getTransactionReceiptRaw b post ∧
      c.sendRawTransaction a post = c.sendRawTransaction b post ∧
      ∀ msg : CallMsg, c.callContract post msg.normalize blockTag = c.callContract post msg blockTag ∧
        c.estimateGas post msg.normalize = c.estimateGas post msg := by
  have h := normalizeHex0x_eq_of_strip0x ha hb hab
  simp only [Client.getBalance, Client.getTransactionCount, Client.getCode,
    Client.getTransactionReceiptRaw, Client.sendRawTransaction, Client.callContract,
    Client.estimateGas, h, CallMsg.normalize_normalize, and_self, implies_true]

end QuantumGoUtils.Ethrpc
