import QuantumGoUtils.Go.JsonLaws

/-!
# Numbers, arrays and nested objects in `encoding/json`

`Go.JsonLaws` reads back the flat objects the key file is made of, whose members are
strings and small numbers. A JSON-RPC exchange nests: the request's parameters are an
array of strings and objects, and an error response's `error` member is an object. This
module reads back `%d` of every integer, and values that need more than one step of the
parser: `ReadsIn n` gives a value of nesting `n` as much fuel as it has bytes.

## Main results

* `readsAs_formatInt` — `%d` of an integer reads as that number.
* `readsIn_objectCompact`, `readsIn_array` — a compact object of scalar members, and an
  array of values that read back, are read as the object and the array of them.
* `parse_objectCompact_last` — a compact object whose last member is nested is parsed as
  its members.
* `decode_of_parse` — `Decoder.Decode` of a whole value decodes that value.
-/

namespace QuantumGoUtils.Go.Json

open QuantumGoUtils.Go.Strings QuantumGoUtils.Go.Unicode QuantumGoUtils.Go.Strconv

/-! ## Numbers -/

/-- A run of digits before a byte that is no digit is read whole. -/
theorem spanDigits_digits {ds : GoString} (hds : ∀ c ∈ ds, isDigit c = true) {d : UInt8}
    (hd : isDigit d = false) (more : GoString) : spanDigits (ds ++ d :: more) = (ds, d :: more) := by
  induction ds with
  | nil => simp [spanDigits, hd]
  | cons c ds ih =>
    simp only [List.mem_cons, forall_eq_or_imp] at hds
    simp [spanDigits, hds.1, ih hds.2]

/-- What may follow a member's value continues no number. -/
theorem isDelim_not_number {d : UInt8} (hd : isDelim d = true) :
    isDigit d = false ∧ d ≠ 46 ∧ ¬(d.toNat = 101 ∨ d.toNat = 69) := by
  rcases isDelim_cases hd with rfl | rfl | rfl | rfl | rfl | rfl <;> decide

/-- An optional minus and a run of digits that is `0` or does not start with `0`, before a
delimiter, is one number. -/
theorem lexNumber_digits {neg : GoString} (hneg : neg = [] ∨ neg = [45]) {c : UInt8} {ds : GoString}
    (hint : c = 48 ∧ ds = [] ∨ c ≠ 48 ∧ isDigit c = true ∧ ∀ x ∈ ds, isDigit x = true)
    {d : UInt8} (hd : isDelim d = true) (more : GoString) :
    lexNumber (neg ++ c :: ds ++ d :: more) = .ok (neg ++ c :: ds, d :: more) := by
  obtain ⟨hdig, h46, hexp⟩ := isDelim_not_number hd
  have hc45 : c ≠ 45 := by rintro rfl; rcases hint with ⟨h, -⟩ | ⟨-, h, -⟩ <;> revert h <;> decide
  unfold lexNumber
  split
  rename_i sign s hsign
  obtain ⟨rfl, rfl⟩ : sign = neg ∧ s = c :: ds ++ d :: more := by
    rcases hneg with rfl | rfl
    · split at hsign
      · rename_i h; exact absurd (List.cons.inj h).1 hc45
      · cases hsign; exact ⟨rfl, rfl⟩
    · cases hsign; exact ⟨rfl, rfl⟩
  dsimp only
  split
  next r h =>
    obtain ⟨rfl, rfl⟩ : c = 48 ∧ ds = [] := by
      rcases hint with h' | ⟨h48, -⟩
      · exact h'
      · exact absurd (List.cons.inj h).1 h48
    cases h
    simp only [pure_bind, List.append_eq, List.nil_append]
    split
    · rename_i h; exact absurd (List.cons.inj h).1 h46
    · simp only [pure_bind, if_neg hexp, List.append_nil]; rfl
  next c' r hne h =>
    obtain ⟨rfl, rfl⟩ := List.cons.inj h
    obtain ⟨-, hcd, hds⟩ := hint.resolve_left fun ⟨h0, hds⟩ => by subst h0 hds; exact hne rfl
    simp only [hcd, if_true, pure_bind, List.append_eq, spanDigits_digits hds hdig]
    split
    · rename_i h; exact absurd (List.cons.inj h).1 h46
    · simp only [pure_bind, if_neg hexp, List.append_nil]; rfl
  next h => cases h

/-- `%d` of a positive number does not start with `0`. -/
theorem decimal_head {n : Nat} (hn : n ≠ 0) : ∃ c ds, decimal n = c :: ds ∧ c ≠ 48 := by
  induction n using Nat.strong_induction_on with
  | _ n ih =>
    by_cases h : n < 10
    · have hc : ∀ m, m < 10 → m ≠ 0 → (48 + m).toUInt8 ≠ 48 := by decide
      exact ⟨_, [], decimal_of_lt h, hc n h hn⟩
    · obtain ⟨c, ds, hcd, hc⟩ := ih (n / 10) (by omega) (by omega)
      exact ⟨c, ds ++ _, by rw [decimal_of_ten_le (by omega), hcd, List.cons_append], hc⟩

/-- The shape of `%d`: an optional minus, then `0` alone or digits not starting with `0`. -/
theorem formatInt_shape (i : Int) : ∃ neg c ds, formatInt i = neg ++ c :: ds ∧
    (neg = [] ∨ neg = [45]) ∧
    (c = 48 ∧ ds = [] ∨ c ≠ 48 ∧ isDigit c = true ∧ ∀ x ∈ ds, isDigit x = true) := by
  have hnat : ∀ n : Nat, ∃ c ds, decimal n = c :: ds ∧
      (c = 48 ∧ ds = [] ∨ c ≠ 48 ∧ isDigit c = true ∧ ∀ x ∈ ds, isDigit x = true) := by
    intro n
    by_cases h0 : n = 0
    · exact ⟨48, [], by subst h0; rfl, .inl ⟨rfl, rfl⟩⟩
    · obtain ⟨c, ds, hcd, hc⟩ := decimal_head h0
      refine ⟨c, ds, hcd, .inr ⟨hc, mem_decimal (hcd ▸ List.mem_cons_self c ds),
        fun x hx => mem_decimal (hcd ▸ List.mem_cons_of_mem c hx)⟩⟩
  unfold formatInt
  split
  · obtain ⟨c, ds, hcd, h⟩ := hnat i.natAbs
    exact ⟨[45], c, ds, by rw [hcd]; rfl, .inr rfl, h⟩
  · obtain ⟨c, ds, hcd, h⟩ := hnat i.toNat
    exact ⟨[], c, ds, hcd, .inl rfl, h⟩

/-- A value starting with a minus or a digit is a number. -/
theorem parseValue_of_numeric {h : UInt8} (hh : h = 45 ∨ isDigit h = true) (fuel depth : Nat)
    (r : GoString) :
    parseValue (fuel + 1) depth (h :: r) = (fun p => (Value.number p.1, p.2)) <$> lexNumber (h :: r) := by
  rcases hh with rfl | hh
  · rfl
  · obtain ⟨n, hn, rfl⟩ : ∃ n, n < 10 ∧ h = (48 + n).toUInt8 := by
      refine ⟨h.toNat - 48, ?_, ?_⟩ <;> simp only [isDigit, Bool.and_eq_true, decide_eq_true_eq] at hh
      · omega
      · rw [show 48 + (h.toNat - 48) = h.toNat by omega, toUInt8_toNat]
    interval_cases n <;> rfl

/-- `%d` of an integer reads as that number. -/
theorem readsAs_formatInt (i : Int) : ReadsAs (formatInt i) (.number (formatInt i)) := by
  intro fuel depth d more hd
  obtain ⟨neg, c, ds, ht, hneg, hint⟩ := formatInt_shape i
  obtain ⟨h, r, hr, hh⟩ : ∃ h r, neg ++ c :: ds ++ d :: more = h :: r ∧
      (h = 45 ∨ isDigit h = true) := by
    rcases hneg with rfl | rfl
    · exact ⟨c, _, rfl, .inr (by rcases hint with ⟨rfl, -⟩ | ⟨-, h, -⟩ <;> [rfl; exact h])⟩
    · exact ⟨45, _, rfl, .inl rfl⟩
  rw [ht, hr, parseValue_of_numeric hh, ← hr, lexNumber_digits hneg hint hd]
  rfl

/-- An `int` field reads `%d` of a 64-bit integer. -/
@[simp] theorem intField_formatInt {S : Type} (set : S → Int → S) (x : BitVec 64) (s : S) :
    intField set (.number (formatInt x.toInt)) s = (set s x.toInt, none) := by
  simp [intField, parseInt_formatInt]

/-! ## Values that need fuel -/

/-- The text `t` reads as `v`, of nesting `n`, before any bytes at a depth that leaves room
for `n` more levels, with as much fuel as it has bytes and one more. -/
def ReadsIn (n : Nat) (t : GoString) (v : Value) : Prop :=
  ∀ fuel depth more, depth + n < maxNestingDepth →
    parseValue (fuel + t.length + 1) depth (t ++ more) = .ok (v, more)

theorem ReadsIn.mono {n m : Nat} {t : GoString} {v : Value} (h : ReadsIn n t v) (hnm : n ≤ m) :
    ReadsIn m t v := fun fuel depth more hd => h fuel depth more (by omega)

theorem readsIn_quote (s : GoString) : ReadsIn 0 (quote s) (.string (coerce s)) :=
  fun _ depth more _ => parseValue_quote _ depth s more

/-- `{}`. -/
theorem readsIn_emptyObject : ReadsIn 1 (objectCompact []) (.object []) := by
  intro fuel depth more hd
  show parseValue (fuel + 2 + 1) depth (123 :: 125 :: more) = _
  rw [parseValue, skipWs_cons (c := 123) rfl]
  show (if maxNestingDepth ≤ depth then (Except.error JsonError.syntaxError : Except JsonError (Value × GoString))
    else match skipWs (125 :: more) with
      | 125 :: rest => Except.ok (Value.object [], rest)
      | _ => parseMembers (fuel + 2) (depth + 1) [] (125 :: more)) = _
  rw [if_neg (by omega)]
  rfl

theorem members_cons_quote (l : Layout) (m : GoString × GoString) (ms : List (GoString × GoString)) :
    ∃ z, l.members (m :: ms) = l.beforeKey ++ 34 :: z := by
  cases ms <;> simp [Layout.members, join, quote]

/-- A compact object of scalar members with valid keys. -/
theorem readsIn_objectCompact {ms : List (GoString × GoString)} {vs : List Value}
    (hk : ∀ k ∈ ms.map Prod.fst, validString k = true)
    (hv : List.Forall₂ (fun m v => ReadsAs m.2 v) ms vs) (hne : ms ≠ []) :
    ReadsIn 1 (objectCompact ms) (.object ((ms.map Prod.fst).zip vs)) := by
  intro fuel depth more hd
  obtain ⟨m, ms', rfl⟩ := List.exists_cons_of_ne_nil hne
  obtain ⟨z, hz⟩ := members_cons_quote compactLayout m ms'
  have hlen := compactLayout.length_members (m :: ms')
  have hws : compactLayout.IsWs := by unfold Layout.IsWs; decide
  rw [objectCompact_eq, List.nil_append, List.length_cons, List.cons_append,
    show fuel + ((compactLayout.members (m :: ms')).length + 1) + 1 =
      (fuel + (compactLayout.members (m :: ms')).length + 1) + 1 by omega,
    parseValue_object (by rw [hz]; rfl) (by omega),
    show fuel + (compactLayout.members (m :: ms')).length + 1 =
      fuel + ((compactLayout.members (m :: ms')).length - (m :: ms').length) + (m :: ms').length + 1
      by omega,
    parseMembers_members hws hk hv hne]
  rfl

/-- The elements of an array from the first on, each followed by its comma, the last by
the bracket. -/
theorem parseElems_join {n : Nat} {ts : List GoString} {vs : List Value}
    (h : List.Forall₂ (ReadsIn n) ts vs) (hne : ts ≠ []) (fuel depth : Nat)
    (hd : depth + n < maxNestingDepth) (acc : List Value) (more : GoString) :
    parseElems (fuel + (join ts [44]).length + 2) depth acc (join ts [44] ++ 93 :: more) =
      .ok (.array (acc ++ vs), more) := by
  induction h generalizing fuel acc with
  | nil => exact absurd rfl hne
  | @cons t v ts vs htv hrest ih =>
    cases hrest with
    | nil =>
      rw [parseElems, show join [t] [44] = t from rfl, htv _ _ _ hd]
      rfl
    | @cons t' v' ts vs ht' hrest' =>
      have hj : join (t :: t' :: ts) [44] = t ++ 44 :: join (t' :: ts) [44] := by simp [join]
      rw [hj, List.append_assoc, List.cons_append, parseElems,
        show fuel + (t ++ 44 :: join (t' :: ts) [44]).length + 1 =
          (fuel + (join (t' :: ts) [44]).length + 1) + t.length + 1 by simp; omega,
        htv _ _ _ hd]
      simp only [skipWs_cons (c := 44) rfl]
      rw [show (fuel + (join (t' :: ts) [44]).length + 1) + t.length + 1 =
          (fuel + t.length) + (join (t' :: ts) [44]).length + 2 by omega,
        ih (List.cons_ne_nil _ _) _ _]
      simp

/-- An array's opening bracket: no element, or a first element that is a string or an
object. -/
theorem parseValue_bracket (rest : GoString) {depth : Nat} (hd : depth < maxNestingDepth)
    (fuel : Nat) :
    parseValue (fuel + 1) depth (91 :: rest) =
      match skipWs rest with
      | 93 :: rest => .ok (.array [], rest)
      | _ => parseElems fuel (depth + 1) [] rest := by
  rw [parseValue, skipWs_cons (c := 91) rfl]
  show (if maxNestingDepth ≤ depth then (Except.error JsonError.syntaxError : Except JsonError (Value × GoString))
    else match skipWs rest with
      | 93 :: rest => Except.ok (Value.array [], rest)
      | _ => parseElems fuel (depth + 1) [] rest) = _
  rw [if_neg (by omega)]

/-- An array of values that read back, each a string or an object. -/
theorem readsIn_array {n : Nat} {ts : List GoString} {vs : List Value}
    (h : List.Forall₂ (ReadsIn n) ts vs)
    (hfirst : ∀ t ∈ ts.head?, ∃ r, t = 34 :: r ∨ t = 123 :: r) :
    ReadsIn (n + 1) ([91] ++ join ts [44] ++ [93]) (.array vs) := by
  intro fuel depth more hd
  have hform : [91] ++ join ts [44] ++ [93] ++ more = 91 :: (join ts [44] ++ 93 :: more) := by simp
  have hlen : ([91] ++ join ts [44] ++ [93]).length = (join ts [44]).length + 2 := by simp
  rw [hform, hlen, show fuel + ((join ts [44]).length + 2) + 1 =
    (fuel + (join ts [44]).length + 2) + 1 by omega, parseValue_bracket _ (by omega)]
  rcases ts with _ | ⟨t, ts⟩
  · cases h
    rfl
  · obtain ⟨c, r, rfl, hc⟩ : ∃ c r, t = c :: r ∧ (c = 34 ∨ c = 123) := by
      obtain ⟨r, rfl | rfl⟩ := hfirst _ rfl <;> exact ⟨_, r, rfl, by simp⟩
    obtain ⟨z, hz⟩ : ∃ z, join ((c :: r) :: ts) [44] = c :: z := by cases ts <;> simp [join]
    rw [hz, List.cons_append, skipWs_cons (by rcases hc with rfl | rfl <;> rfl)]
    rcases hc with rfl | rfl <;>
    · show parseElems _ (depth + 1) [] (_ :: (z ++ 93 :: more)) = _
      rw [← List.cons_append, ← hz, parseElems_join h (List.cons_ne_nil _ _) _ _ (by omega)]
      rfl

/-! ## An object whose last member nests -/

/-- The last member of a compact object, of nesting `n`: the parser records it and returns
the object after the brace. -/
theorem parseMembers_last_in {n : Nat} {k t : GoString} {v : Value} (hk : validString k = true)
    (ht : ReadsIn n t v) (fuel depth : Nat) (hd : depth + n < maxNestingDepth)
    (acc : List (GoString × Value)) (rest : GoString) :
    parseMembers (fuel + t.length + 2) depth acc (compactLayout.members [(k, t)] ++ rest) =
      .ok (.object (acc ++ [(k, v)]), rest) := by
  have hm : compactLayout.members [(k, t)] ++ rest = [] ++ quote k ++ 58 :: (t ++ 125 :: rest) := by
    simp [Layout.members, compactLayout, join]
  rw [hm, parseMembers_member (by simp) hk, ht _ _ _ hd]
  rfl

/-- Scalar members, each followed by its comma, then a last member of nesting `n`. -/
theorem parseMembers_scalars_last {n : Nat} {ms : List (GoString × GoString)} {vs : List Value}
    (hk : ∀ k ∈ ms.map Prod.fst, validString k = true)
    (hv : List.Forall₂ (fun m v => ReadsAs m.2 v) ms vs) {k t : GoString} {v : Value}
    (hk' : validString k = true) (ht : ReadsIn n t v) (fuel depth : Nat)
    (hd : depth + n < maxNestingDepth) (acc : List (GoString × Value)) (rest : GoString) :
    parseMembers (fuel + ms.length + t.length + 2) depth acc
        (compactLayout.members (ms ++ [(k, t)]) ++ rest) =
      .ok (.object (acc ++ (ms.map Prod.fst).zip vs ++ [(k, v)]), rest) := by
  have hws : compactLayout.IsWs := by unfold Layout.IsWs; decide
  have hl : compactLayout.beforeKey = [] ∧ compactLayout.afterColon = [] ∧
      compactLayout.afterComma = [] ∧ compactLayout.beforeClose = [] := ⟨rfl, rfl, rfl, rfl⟩
  induction hv generalizing acc with
  | nil => simpa using parseMembers_last_in hk' ht fuel depth hd acc rest
  | @cons m w ms ws hmw _ ih =>
    have h := parseMembers_sep hws (hk m.1 (List.mem_cons_self _ _)) hmw
      (fuel + ms.length + t.length + 1) depth acc (compactLayout.members (ms ++ [(k, t)]) ++ rest)
    obtain ⟨m', ms', hm⟩ := List.exists_cons_of_ne_nil (l := ms ++ [(k, t)]) (by simp)
    rw [List.cons_append, hm, compactLayout.members_cons_cons, ← hm, List.length_cons,
      show fuel + (ms.length + 1) + t.length + 2 = fuel + ms.length + t.length + 1 + 2 by omega]
    simp only [hl.1, hl.2.1, hl.2.2.1, List.nil_append, List.append_assoc, List.cons_append] at h ⊢
    rw [h, ih (fun x hx => hk x (List.mem_cons_of_mem _ hx))]
    simp

theorem length_members_last (ms : List (GoString × GoString)) (k t : GoString) :
    ms.length + t.length + 1 ≤ (compactLayout.members (ms ++ [(k, t)])).length := by
  induction ms with
  | nil => simp [Layout.members, compactLayout, join]; omega
  | cons m ms ih =>
    obtain ⟨m', ms', hm⟩ := List.exists_cons_of_ne_nil (l := ms ++ [(k, t)]) (by simp)
    rw [List.cons_append, hm, compactLayout.members_cons_cons, ← hm]
    simp only [List.length_append, List.length_cons] at ih ⊢
    omega

/-- **Nested round trip.** A compact object of scalar members and a last member of nesting
`n`, all with valid keys, is parsed as those members. -/
theorem parse_objectCompact_last {n : Nat} {ms : List (GoString × GoString)} {vs : List Value}
    (hk : ∀ k ∈ ms.map Prod.fst, validString k = true)
    (hv : List.Forall₂ (fun m v => ReadsAs m.2 v) ms vs) {k t : GoString} {v : Value}
    (hk' : validString k = true) (ht : ReadsIn n t v) (hn : n + 1 < maxNestingDepth) :
    parse (objectCompact (ms ++ [(k, t)])) = .ok (.object ((ms.map Prod.fst).zip vs ++ [(k, v)])) := by
  obtain ⟨z, hz⟩ : ∃ z, compactLayout.members (ms ++ [(k, t)]) = 34 :: z := by
    obtain ⟨m, ms', hm⟩ := List.exists_cons_of_ne_nil (l := ms ++ [(k, t)]) (by simp)
    rw [hm]; exact members_cons_quote compactLayout m ms'
  have hlen := length_members_last ms k t
  unfold parse
  rw [objectCompact_eq, List.nil_append, List.length_cons,
    parseValue_object (by rw [hz]; rfl) (by decide),
    show (compactLayout.members (ms ++ [(k, t)])).length + 1 =
      ((compactLayout.members (ms ++ [(k, t)])).length - ms.length - t.length - 1) + ms.length +
        t.length + 2 by omega,
    ← List.append_nil (compactLayout.members (ms ++ [(k, t)])),
    parseMembers_scalars_last hk hv hk' ht _ _ (by omega)]
  rfl

/-! ## The stream decoder -/

/-- `Decoder.Decode` of a stream that holds one whole value decodes that value. -/
theorem decode_of_parse {S : Type} {fields : List (GoString × FieldDecoder S)} {zero : S}
    {data : GoString} {v : Value} (h : parse data = .ok v) :
    Decoder.decode fields zero data = decodeValue fields zero v := by
  unfold parse at h
  unfold Decoder.decode
  rcases hp : parseValue (data.length + 1) 0 data with e | ⟨v', rest⟩ <;> rw [hp] at h
  · cases h
  · dsimp only at h ⊢
    split_ifs at h
    cases h
    rfl

end QuantumGoUtils.Go.Json
