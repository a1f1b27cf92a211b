import Mathlib.Algebra.Group.Nat.Basic
import Mathlib.Data.List.Basic

/-!
# The polling head subscription (`evm/sim.go`)

The simulated backend has no native `SubscribeNewHead`; `newPollingHeadSub` emulates it.
Its goroutine keeps `last` and `initialized` and, on each tick, polls
`cli.HeaderByNumber(subCtx, nil)`: a failed poll is sent once on `s.errCh` and the goroutine
returns; a `nil` header, or one with a `nil` number, is skipped; the first header with a
number is sent on `out`, and after it every header whose number is above `last`. When the
context is done the goroutine returns; returning closes `s.errCh`.

The goroutine is a left fold of `step` over a schedule: the case each `select` takes, with
what `HeaderByNumber` returned on a tick. Every interleaving with the subscriber and with
`Unsubscribe` is such a schedule: a send on `out` only delays the next `select`, and a tick
taken after `cancel` is the `select` choosing `t.C` over a ready `Done`.
`h.Number.Uint64()` is the low 64 bits of the magnitude, as `big.Int.Uint64` computes it.

Main results:
- `run_start`: over every schedule, the goroutine sends on `out` exactly the records of the
  headers it polled (each one whose number is above that of every header polled before it,
  the first included), sends on `s.errCh` only the error that ended it, and has returned
  exactly when the schedule ended it;
- `run_out_increasing`: the numbers of the headers sent strictly increase;
- `run_out_last`: the last header sent carries the highest number polled so far.
-/

namespace QuantumGoUtils.Evm

/-! ## The goroutine -/

/-- `big.Int.Uint64`: the low 64 bits of the magnitude. -/
def uint64 (x : Int) : Nat := x.natAbs % 2 ^ 64

/-- The case a `select` of the loop takes: the context done, or a tick of `t.C` with what
`cli.HeaderByNumber(subCtx, nil)` returned (`none` is a `nil` header). -/
inductive Event (H E : Type) where
  | done
  | tick (r : Except E (Option H))

/-- The goroutine's variables, what it has sent on `out` and on `s.errCh`, in order, and
whether it has returned (closing `s.errCh`). -/
structure Sub (H E : Type) where
  last : Nat
  initialized : Bool
  out : List H
  errCh : List E
  returned : Bool

variable {H E : Type} (number : H → Option Int)

/-- One `select` of the loop, `h.Number` read by `number`; after the goroutine has returned
nothing changes. -/
def step (s : Sub H E) (ev : Event H E) : Sub H E :=
  if s.returned then s else
  match ev with
  | .done => { s with returned := true }
  | .tick (.error err) => { s with errCh := s.errCh ++ [err], returned := true }
  | .tick (.ok none) => s
  | .tick (.ok (some h)) =>
    match number h with
    | none => s
    | some x =>
      let n := uint64 x
      if !s.initialized then { s with last := n, initialized := true, out := s.out ++ [h] }
      else if n > s.last then { s with last := n, out := s.out ++ [h] }
      else s

/-- The goroutine when it starts: `last` and `initialized` at their zero values. -/
def start : Sub H E := ⟨0, false, [], [], false⟩

/-- The goroutine over a schedule of `select` choices. -/
def run (s : Sub H E) (es : List (Event H E)) : Sub H E := es.foldl (step number) s

@[simp] theorem run_nil (s : Sub H E) : run number s [] = s := rfl

@[simp] theorem run_cons (s : Sub H E) (ev : Event H E) (es : List (Event H E)) :
    run number s (ev :: es) = run number (step number s ev) es := rfl

/-- Once the goroutine has returned, the rest of the schedule changes nothing. -/
theorem run_of_returned {s : Sub H E} (h : s.returned = true) (es : List (Event H E)) :
    run number s es = s := by
  induction es with
  | nil => rfl
  | cons ev es ih => rw [run_cons]; unfold step; rw [if_pos h]; exact ih

/-! ## What the subscriber is meant to see -/

/-- The headers with a number that a schedule's ticks poll before the goroutine returns, each
with its number as `Uint64` reads it. -/
def polled : List (Event H E) → List (H × Nat)
  | [] => []
  | .done :: _ => []
  | .tick (.error _) :: _ => []
  | .tick (.ok none) :: es => polled es
  | .tick (.ok (some h)) :: es =>
    match number h with
    | none => polled es
    | some x => (h, uint64 x) :: polled es

/-- How a schedule ends the goroutine: the context done, or a poll failed. -/
inductive Exit (E : Type) where
  | cancelled
  | failed (err : E)

/-- The way a schedule ends the goroutine, if it does. -/
def exit : List (Event H E) → Option (Exit E)
  | [] => none
  | .done :: _ => some .cancelled
  | .tick (.error err) :: _ => some (.failed err)
  | .tick (.ok _) :: es => exit es

/-- What `Err()` delivers for a schedule's end. -/
def Exit.err : Option (Exit E) → List E
  | some (.failed err) => [err]
  | _ => []

/-- The records of a sequence of numbered headers: each one whose number is above that of
every header before it. -/
def records (ps : List (H × Nat)) : List (H × Nat) :=
  (ps.enum.filter fun ip => (ps.take ip.1).all fun q => q.2 < ip.2.2).map Prod.snd

@[simp] theorem records_nil : records ([] : List (H × Nat)) = [] := rfl

/-- A header polled after `ps` is a record exactly when its number is above all of theirs. -/
theorem records_append_singleton (ps : List (H × Nat)) (p : H × Nat) :
    records (ps ++ [p]) = records ps ++ if ps.all (·.2 < p.2) then [p] else [] := by
  have hfirst : ps.enum.filter (fun ip => ((ps ++ [p]).take ip.1).all fun q => q.2 < ip.2.2) =
      ps.enum.filter fun ip => (ps.take ip.1).all fun q => q.2 < ip.2.2 :=
    List.filter_congr fun ip hip => by
      rw [List.take_append_of_le_length (List.mem_enum hip).1.le]
  unfold records
  rw [List.enum_append, List.filter_append, hfirst, List.map_append]
  simp only [List.enumFrom, List.filter_cons, List.take_left, List.filter_nil]
  split_ifs <;> rfl

/-- The records are polled headers, in the order polled. -/
theorem records_sublist (ps : List (H × Nat)) : (records ps).Sublist ps := by
  induction ps using List.reverseRecOn with
  | nil => exact List.nil_sublist _
  | append_singleton ps p ih =>
    rw [records_append_singleton]
    split_ifs
    · exact ih.append (List.Sublist.refl _)
    · rw [List.append_nil]; exact ih.trans (List.sublist_append_left _ _)

/-- The numbers of the records strictly increase. -/
theorem records_increasing (ps : List (H × Nat)) : (records ps).Pairwise (·.2 < ·.2) := by
  induction ps using List.reverseRecOn with
  | nil => exact List.Pairwise.nil
  | append_singleton ps p ih =>
    rw [records_append_singleton]
    split_ifs with hall
    · refine List.pairwise_append.2 ⟨ih, List.pairwise_singleton _ _, ?_⟩
      intro q hq r hr
      rw [List.mem_singleton.1 hr]
      exact of_decide_eq_true (List.all_eq_true.1 hall q ((records_sublist ps).subset hq))
    · simpa using ih

/-- The last record carries the highest number. -/
theorem records_getLast {ps : List (H × Nat)} (h : ps ≠ []) :
    ∃ q, (records ps).getLast? = some q ∧ ∀ p ∈ ps, p.2 ≤ q.2 := by
  induction ps using List.reverseRecOn with
  | nil => exact absurd rfl h
  | append_singleton ps p ih =>
    rw [records_append_singleton]
    by_cases hall : ps.all (·.2 < p.2) = true
    · refine ⟨p, by simp [hall], fun q hq => ?_⟩
      rcases List.mem_append.1 hq with hq | hq
      · exact (of_decide_eq_true (List.all_eq_true.1 hall q hq)).le
      · rw [List.mem_singleton.1 hq]
    · obtain ⟨r, hr, hlt⟩ := List.all_eq_false.1 (Bool.not_eq_true _ ▸ hall)
      have hne : ps ≠ [] := List.ne_nil_of_mem hr
      obtain ⟨q, hlast, hmax⟩ := ih hne
      refine ⟨q, by simp [hall, hlast], fun p' hp' => ?_⟩
      rcases List.mem_append.1 hp' with hp' | hp'
      · exact hmax p' hp'
      · rw [List.mem_singleton.1 hp']
        have := hmax r hr
        simp only [decide_eq_true_eq, not_lt] at hlt
        omega

/-! ## The goroutine sends the records -/

/-- The goroutine, still running, after polling the numbered headers `ps`: it has sent their
records, `initialized` says whether there were any, and `last` is their highest number. -/
structure Tracks (s : Sub H E) (ps : List (H × Nat)) : Prop where
  running : s.returned = false
  errCh : s.errCh = []
  out : s.out = (records ps).map Prod.fst
  initialized : s.initialized = true ↔ ps ≠ []
  below : ∀ p ∈ ps, p.2 ≤ s.last
  attained : ps ≠ [] → ∃ p ∈ ps, p.2 = s.last

theorem tracks_start : Tracks (start : Sub H E) [] :=
  ⟨rfl, rfl, rfl, by simp [start], by simp, fun h => absurd rfl h⟩

/-- A tick that polls a header with a number sends it exactly when it is a record. -/
theorem step_tracks {s : Sub H E} {ps : List (H × Nat)} (hs : Tracks s ps) {h : H} {x : Int}
    (hx : number h = some x) :
    Tracks (step number s (.tick (.ok (some h)))) (ps ++ [(h, uint64 x)]) := by
  simp only [step, hs.running, hx, Bool.false_eq_true, if_false]
  by_cases hi : s.initialized = true
  · have hne : ps ≠ [] := hs.initialized.1 hi
    obtain ⟨q, hq, hql⟩ := hs.attained hne
    simp only [hi, Bool.not_true, Bool.false_eq_true, if_false]
    by_cases hn : uint64 x > s.last
    · have hall : ps.all (·.2 < uint64 x) = true :=
        List.all_eq_true.2 fun p hp => decide_eq_true (by have := hs.below p hp; omega)
      rw [if_pos hn]
      refine ⟨rfl, hs.errCh, by simp [records_append_singleton, hall, hs.out],
        by simp [hi], fun p hp => ?_, fun _ => ⟨_, List.mem_append_right _ (List.mem_singleton_self _), rfl⟩⟩
      rcases List.mem_append.1 hp with hp | hp
      · have := hs.below p hp; dsimp only; omega
      · rw [List.mem_singleton.1 hp]
    · have hall : ps.all (·.2 < uint64 x) = false :=
        List.all_eq_false.2 ⟨q, hq, by simp only [decide_eq_true_eq]; omega⟩
      rw [if_neg hn]
      refine ⟨hs.running, hs.errCh, by simp [records_append_singleton, hall, hs.out],
        by simp [hi], fun p hp => ?_, fun _ => ⟨q, List.mem_append_left _ hq, hql⟩⟩
      rcases List.mem_append.1 hp with hp | hp
      · exact hs.below p hp
      · rw [List.mem_singleton.1 hp]; omega
  · have hps : ps = [] := by simpa [hi] using hs.initialized.not
    subst hps
    simp only [hi, Bool.not_false, if_true]
    exact ⟨rfl, hs.errCh, by rw [hs.out]; rfl, by simp,
      by simp, fun _ => ⟨_, List.mem_singleton_self _, rfl⟩⟩

/-- Run from a state that tracks `ps`, the goroutine sends the records of `ps` followed by
what the schedule polls. -/
theorem run_tracks {s : Sub H E} {ps : List (H × Nat)} (hs : Tracks s ps)
    (es : List (Event H E)) :
    (run number s es).out = (records (ps ++ polled number es)).map Prod.fst ∧
    (run number s es).errCh = Exit.err (exit es) ∧
    (run number s es).returned = (exit es).isSome := by
  induction es generalizing s ps with
  | nil => exact ⟨by simpa [polled] using hs.out, hs.errCh, hs.running⟩
  | cons ev es ih =>
    rcases ev with _ | (err | _ | h)
    case done =>
      rw [run_cons, step, if_neg (by simp [hs.running]), run_of_returned number rfl]
      exact ⟨by simpa [polled] using hs.out, hs.errCh, rfl⟩
    case tick.error =>
      rw [run_cons, step, if_neg (by simp [hs.running]), run_of_returned number rfl]
      exact ⟨by simpa [polled] using hs.out, by simp [hs.errCh, exit, Exit.err], rfl⟩
    case tick.ok.none =>
      rw [run_cons, show step number s (.tick (.ok none)) = s by simp [step, hs.running]]
      exact ih hs
    case tick.ok.some =>
      rw [run_cons]
      cases hx : number h with
      | none =>
        rw [show step number s (.tick (.ok (some h))) = s by simp [step, hs.running, hx]]
        simpa [polled, exit, hx] using ih hs
      | some x =>
        simpa [polled, exit, hx] using ih (step_tracks number hs hx)

/-- **The subscription sends the records.** Over every schedule, the goroutine sends on
`out` exactly the records of the headers it polled, in order; sends on `s.errCh` only the
error of the poll that ended it; and has returned exactly when the schedule ended it. -/
theorem run_start (es : List (Event H E)) :
    (run number start es).out = (records (polled number es)).map Prod.fst ∧
    (run number start es).errCh = Exit.err (exit es) ∧
    (run number start es).returned = (exit es).isSome := by
  simpa using run_tracks number tracks_start es

/-- A head that goes back (a reorganisation to block 3) is not sent until the chain passes
block 5 again, and nothing is sent after the context is done. -/
example : (run (fun n : Nat => some (n : Int)) (start : Sub Nat Unit) [.tick (.ok (some 5)),
    .tick (.ok (some 3)), .tick (.ok none), .tick (.ok (some 5)), .tick (.ok (some 6)), .done,
    .tick (.ok (some 9))]).out = [5, 6] := by decide

/-- Every polled header has a number, and its entry is that number as `Uint64` reads it. -/
theorem number_of_mem_polled {es : List (Event H E)} {p : H × Nat} (hp : p ∈ polled number es) :
    ∃ x, number p.1 = some x ∧ uint64 x = p.2 := by
  induction es with
  | nil => simp [polled] at hp
  | cons ev es ih =>
    rcases ev with _ | (err | _ | h)
    case done => simp [polled] at hp
    case tick.error => simp [polled] at hp
    case tick.ok.none => exact ih hp
    case tick.ok.some =>
      cases hx : number h with
      | none => simp only [polled, hx] at hp; exact ih hp
      | some x =>
        simp only [polled, hx, List.mem_cons] at hp
        rcases hp with rfl | hp
        · exact ⟨x, hx, rfl⟩
        · exact ih hp

/-- **No head is sent twice.** Every header the goroutine sends has a number, and the
numbers of the headers sent strictly increase, over every schedule. -/
theorem run_out_increasing (es : List (Event H E)) :
    (∀ g ∈ (run number start es).out, ∃ x, number g = some x) ∧
    (run number start es).out.Pairwise fun a b =>
      ∃ x y, number a = some x ∧ number b = some y ∧ uint64 x < uint64 y := by
  rw [(run_start number es).1, List.pairwise_map]
  have hmem : ∀ p ∈ records (polled number es), ∃ x, number p.1 = some x ∧ uint64 x = p.2 :=
    fun p hp => number_of_mem_polled number ((records_sublist _).subset hp)
  refine ⟨fun g hg => ?_, (records_increasing _).imp_of_mem fun {a b} ha hb hab => ?_⟩
  · obtain ⟨p, hp, rfl⟩ := List.mem_map.mp hg
    obtain ⟨x, hx, -⟩ := hmem p hp
    exact ⟨x, hx⟩
  obtain ⟨x, hx, hxa⟩ := hmem a ha
  obtain ⟨y, hy, hyb⟩ := hmem b hb
  exact ⟨x, y, hx, hy, hxa ▸ hyb ▸ hab⟩

/-- **The newest head is sent.** Once a header with a number has been polled, the last header
sent carries a number at least as high as every number polled so far. -/
theorem run_out_last {es : List (Event H E)} (h : polled number es ≠ []) :
    ∃ g x, (run number start es).out.getLast? = some g ∧ number g = some x ∧
      ∀ p ∈ polled number es, p.2 ≤ uint64 x := by
  obtain ⟨q, hq, hmax⟩ := records_getLast h
  obtain ⟨x, hx, hqx⟩ := number_of_mem_polled number
    ((records_sublist _).subset (List.mem_of_getLast?_eq_some hq))
  refine ⟨q.1, x, ?_, hx, hqx ▸ hmax⟩
  rw [(run_start number es).1, List.getLast?_map, hq]
  rfl

/-- Five polls, numbered 5, 3, none, 5 and 6: the last header sent is numbered 6. -/
theorem run_out_last_five_polls :
    polled (fun n : Nat => some (n : Int)) ([.tick (.ok (some 5)), .tick (.ok (some 3)),
      .tick (.ok none), .tick (.ok (some 5)), .tick (.ok (some 6))] : List (Event Nat Unit)) ≠ [] ∧
    ∃ g x, (run (fun n : Nat => some (n : Int)) start ([.tick (.ok (some 5)), .tick (.ok (some 3)),
        .tick (.ok none), .tick (.ok (some 5)), .tick (.ok (some 6))] : List (Event Nat Unit))).out.getLast? =
        some g ∧ (fun n : Nat => some (n : Int)) g = some x ∧
      ∀ p ∈ polled (fun n : Nat => some (n : Int)) ([.tick (.ok (some 5)), .tick (.ok (some 3)),
        .tick (.ok none), .tick (.ok (some 5)), .tick (.ok (some 6))] : List (Event Nat Unit)),
        p.2 ≤ uint64 x :=
  ⟨by decide, run_out_last _ (by decide)⟩

end QuantumGoUtils.Evm
