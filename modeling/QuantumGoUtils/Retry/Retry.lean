import QuantumGoUtils.Go.Strconv

/-!
# The retry helper (`retry/retry.go`)

`Retry` runs an operation until it succeeds. After a failure it returns if the retry budget
`MaxNumRetries` is spent (`InfiniteRetries`, `-1`, never is) or `shouldRetryFn` refuses the
error, and otherwise counts the retry, doubles the delay from the second retry on (capped by
`MaxDelayBeforeRetrying`), sleeps, returns if the context is done, and jumps back to
`performOperation`: one `pass`, then `Pass.returns` or `Pass.goto`.

Go's fixed-width integers are `Int` with an explicit two's-complement wrap: `numRetries` is
an `int32` (`wrap32`), the delay and every `time.Duration` an `int64` (`wrap64`); a
`Config` carries the ranges of its fields. What `Retry` meets is an `Env`: the outcome of
each invocation, `shouldRetryFn`, and the context's error after each sleep. The loop is
`performOperation` with fuel, one pass per unit, and its state records the invocations made
and the durations slept; out of fuel, it returns `none` and the state reached.

Logging reads the other fields of `Config` and changes nothing `Retry` returns; it is left
out.
-/

namespace QuantumGoUtils.Retry

open QuantumGoUtils.Go.Strings QuantumGoUtils.Go.Strconv

/-! ## `int32` and `int64` -/

/-- The range of an `int32`. -/
def InInt32 (x : Int) : Prop := -2147483648 ≤ x ∧ x ≤ 2147483647

/-- The range of an `int64`. -/
def InInt64 (x : Int) : Prop := -9223372036854775808 ≤ x ∧ x ≤ 9223372036854775807

instance : DecidablePred InInt32 := fun _ => by unfold InInt32; infer_instance

instance : DecidablePred InInt64 := fun _ => by unfold InInt64; infer_instance

/-- `int32` arithmetic: the result wrapped into the range. -/
def wrap32 (x : Int) : Int := (x + 2147483648) % 4294967296 - 2147483648

/-- `int64` arithmetic: the result wrapped into the range. -/
def wrap64 (x : Int) : Int := (x + 9223372036854775808) % 18446744073709551616 - 9223372036854775808

theorem wrap32_of_in {x : Int} (h : InInt32 x) : wrap32 x = x := by
  unfold InInt32 at h; unfold wrap32; omega

theorem wrap64_of_in {x : Int} (h : InInt64 x) : wrap64 x = x := by
  unfold InInt64 at h; unfold wrap64; omega

/-- `numRetries++` on a counter that is `k` wrapped. -/
theorem wrap32_wrap32_succ (k : Int) : wrap32 (wrap32 k + 1) = wrap32 (k + 1) := by
  unfold wrap32; omega

/-- The wrapped count of `k + 1` retries is above 1 only for `k ≥ 1`. -/
theorem one_le_of_wrap32_gt {k : Nat} (h : wrap32 (k + 1) > 1) : 1 ≤ k := by
  unfold wrap32 at h; omega

/-- For `k ≥ 1`, the wrapped count of `k + 1` retries is at most 1 only once it has wrapped. -/
theorem wrap32_le_one {k : Nat} (h : ¬ wrap32 (k + 1) > 1) (hk : 1 ≤ k) : 2147483647 ≤ k := by
  unfold wrap32 at h; omega

/-! ## The configuration -/

/-- `time.Duration.Milliseconds`: `int64(d) / 1e6`, truncated toward zero. -/
def milliseconds (d : Int) : Int := d.tdiv 1000000

/-- `Min`. -/
def goMin (a b : Int) : Int := if a ≤ b then a else b

theorem goMin_eq (a b : Int) : goMin a b = min a b := by
  unfold goMin; split_ifs <;> omega

/-- The whole milliseconds of a non-negative duration, back in nanoseconds, are no more
than it. -/
theorem milliseconds_range {d : Int} (h : InInt64 d) (h0 : 0 ≤ d) :
    0 ≤ milliseconds d ∧ milliseconds d * 1000000 ≤ d := by
  unfold milliseconds InInt64 at *
  rw [Int.tdiv_eq_ediv h0 (by norm_num)]
  omega

/-- `InfiniteRetries`. -/
def infiniteRetries : Int := -1

/-- `Config`, by the fields `Retry` reads outside its logging; the durations are
nanoseconds. -/
structure Config where
  maxNumRetries : Int
  initialDelayBeforeRetrying : Int
  maxDelayBeforeRetrying : Int
  maxNumRetries_in : InInt32 maxNumRetries
  initialDelayBeforeRetrying_in : InInt64 initialDelayBeforeRetrying
  maxDelayBeforeRetrying_in : InInt64 maxDelayBeforeRetrying

/-- `DefaultConfig`: retry forever, from 100 ms up to 10 s. -/
def defaultConfig : Config where
  maxNumRetries := infiniteRetries
  initialDelayBeforeRetrying := 100 * 1000000
  maxDelayBeforeRetrying := 10 * 1000000000
  maxNumRetries_in := by decide
  initialDelayBeforeRetrying_in := by decide
  maxDelayBeforeRetrying_in := by decide

/-! ## The loop -/

/-- What one call of `Retry` meets: the outcome of each invocation of the operation, from
the first (`0`); `shouldRetryFn`, `none` being `nil`; the context's error, if it is done,
after the sleep that follows each failed invocation; and `descriptionOfOperation`. -/
structure Env (E R : Type) where
  op : Nat → Except E R
  shouldRetryFn : Option (E → Bool)
  ctxErr : Nat → Option GoString
  descriptionOfOperation : GoString

/-- `errors.Wrapf(err, format, ...)`: the error and the message put in front of it. -/
structure Wrapped (E : Type) where
  cause : E
  message : GoString
  deriving DecidableEq, Repr

/-- `Retry`'s variables at `performOperation`, the invocations made so far and the
durations passed to `SleepWithContext`, in order. -/
structure State where
  delayBeforeRetryMS : Int
  numRetries : Int
  calls : Nat
  sleeps : List Int
  deriving DecidableEq, Repr

/-- The state after a failed invocation that is retried: `numRetries++`, the delay doubled
from the second retry on and capped, and `SleepWithContext` for that many milliseconds. -/
def State.retried (cfg : Config) (s : State) : State :=
  let numRetries := wrap32 (s.numRetries + 1)
  let delay := if numRetries > 1 then
      goMin (wrap64 (s.delayBeforeRetryMS * 2)) (milliseconds cfg.maxDelayBeforeRetrying)
    else s.delayBeforeRetryMS
  ⟨delay, numRetries, s.calls, s.sleeps ++ [wrap64 (delay * 1000000)]⟩

variable {E R : Type}

/-- How one pass from the label `performOperation` ends: `Retry` returns, or it jumps back
with `goto performOperation`. -/
inductive Pass (E R : Type) where
  | returns (res : Except (Wrapped E) R) (s : State)
  | goto (s : State)

/-- One pass from `performOperation`: invoke the operation, and on an error check the budget
and `shouldRetryFn`, retry and check the context. -/
def pass (cfg : Config) (env : Env E R) (s : State) : Pass E R :=
  let i := s.calls
  let s := { s with calls := i + 1 }
  match env.op i with
  | .ok result => .returns (.ok result) s
  | .error err =>
    if cfg.maxNumRetries ≠ infiniteRetries ∧ s.numRetries = cfg.maxNumRetries then
      .returns (.error ⟨err, lit "Failed after max " ++ formatInt s.numRetries ++
        lit " retries: " ++ env.descriptionOfOperation⟩) s
    else if (match env.shouldRetryFn with | some f => !f err | none => false) = true then
      .returns (.error ⟨err, lit "Failed, unretryable, after " ++ formatInt s.numRetries ++
        lit " retries: " ++ env.descriptionOfOperation⟩) s
    else
      let s := s.retried cfg
      match env.ctxErr i with
      | some err2 =>
        .returns (.error ⟨err, lit "Experienced context error during retry: " ++
          env.descriptionOfOperation ++ lit " - " ++ err2⟩) s
      | none => .goto s

/-- The loop at `performOperation`, with at most `fuel` passes left; `none` when the fuel
runs out before `Retry` returns. -/
def performOperation (cfg : Config) (env : Env E R) :
    Nat → State → Option (Except (Wrapped E) R) × State
  | 0, s => (none, s)
  | fuel + 1, s =>
    match pass cfg env s with
    | .returns res s => (some res, s)
    | .goto s => performOperation cfg env fuel s

/-- The state `Retry` starts from. -/
def start (cfg : Config) : State := ⟨milliseconds cfg.initialDelayBeforeRetrying, 0, 0, []⟩

/-- `Retry`, with at most `fuel` invocations. -/
def retry (cfg : Config) (env : Env E R) (fuel : Nat) :
    Option (Except (Wrapped E) R) × State :=
  performOperation cfg env fuel (start cfg)

end QuantumGoUtils.Retry
