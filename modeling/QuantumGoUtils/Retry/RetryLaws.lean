import QuantumGoUtils.Retry.Retry

/-!
# What `Retry` does over whole runs

Everything below rests on one lemma about a single pass, `pass_cases`: an invocation that
succeeds returns its result, and one that fails returns an error or, the budget not being
spent, is retried (`State.retried`) and then returns an error or jumps back. Each law is
then a property of states that `State.invoked` and `State.retried` keep, carried over a run
by induction on the fuel.

## Main results

* `retry_bounded` — with `MaxNumRetries = N ≥ 0`, `Retry` returns after at most `N + 1`
  invocations, with a result exactly when one succeeded, the first success being the last
  invocation.
* `retry_sleeps` — with non-negative delays, the sleeps are `I` and then `min(I·2^(k-1), M)`
  milliseconds, computed without overflow, one between every two invocations;
  `retry_first_sleep_uncapped` shows the first one above the cap.
* `performOperation_add` — a run that returned returns the same with more fuel.
-/

namespace QuantumGoUtils.Retry

open QuantumGoUtils.Go.Strings QuantumGoUtils.Go.Strconv

variable {E R : Type} (cfg : Config) (env : Env E R)

/-! ## One pass -/

/-- Whether the budget is spent: the first check after a failure. -/
def Config.spent (cfg : Config) (s : State) : Prop :=
  cfg.maxNumRetries ≠ infiniteRetries ∧ s.numRetries = cfg.maxNumRetries

/-- The state after an invocation: one more call. -/
def State.invoked (s : State) : State := { s with calls := s.calls + 1 }

@[simp] theorem State.invoked_calls (s : State) : s.invoked.calls = s.calls + 1 := rfl

@[simp] theorem State.invoked_sleeps (s : State) : s.invoked.sleeps = s.sleeps := rfl

@[simp] theorem State.retried_calls (s : State) : (s.retried cfg).calls = s.calls := rfl

@[simp] theorem State.retried_numRetries (s : State) :
    (s.retried cfg).numRetries = wrap32 (s.numRetries + 1) := rfl

@[simp] theorem State.length_retried_sleeps (s : State) :
    (s.retried cfg).sleeps.length = s.sleeps.length + 1 := by
  simp [State.retried]

/-- **One pass.** An invocation that succeeds returns its result; one that fails returns an
error, or is retried, the budget not being spent, and then returns an error or jumps back. -/
theorem pass_cases (s : State) :
    (∃ r, env.op s.calls = .ok r ∧ pass cfg env s = .returns (.ok r) s.invoked) ∨
    ∃ err, env.op s.calls = .error err ∧
      ((∃ w, pass cfg env s = .returns (.error w) s.invoked) ∨
        ¬ cfg.spent s ∧
          ((∃ w, pass cfg env s = .returns (.error w) (s.invoked.retried cfg)) ∨
            pass cfg env s = .goto (s.invoked.retried cfg))) := by
  unfold pass
  dsimp only
  rcases hop : env.op s.calls with err | r
  · refine .inr ⟨err, rfl, ?_⟩
    dsimp only
    by_cases hb : cfg.spent s
    · exact .inl ⟨_, if_pos hb⟩
    · rw [if_neg (show ¬ (_ ∧ _) from hb)]
      split_ifs
      · exact .inl ⟨_, rfl⟩
      · refine .inr ⟨hb, ?_⟩
        rcases env.ctxErr s.calls with _ | err2
        · exact .inr rfl
        · exact .inl ⟨_, rfl⟩
  · exact .inl ⟨r, rfl, rfl⟩

/-- A run that returned within `fuel` passes returns the same with more fuel. -/
theorem performOperation_add {res : Except (Wrapped E) R} {s' : State} (k : Nat) :
    ∀ {fuel s}, performOperation cfg env fuel s = (some res, s') →
      performOperation cfg env (fuel + k) s = (some res, s')
  | 0, _, h => by cases h
  | fuel + 1, s, h => by
    rw [Nat.succ_add]
    unfold performOperation at h ⊢
    rcases hp : pass cfg env s with _ | s₁ <;> rw [hp] at h
    · exact h
    · exact performOperation_add k h

/-! ## Bounded retries -/

/-- A configuration that starts above its cap: 2 s, at most 1 s, one retry. -/
def slowStartConfig : Config where
  maxNumRetries := 1
  initialDelayBeforeRetrying := 2000000000
  maxDelayBeforeRetrying := 1000000000
  maxNumRetries_in := by decide
  initialDelayBeforeRetrying_in := by decide
  maxDelayBeforeRetrying_in := by decide

/-- An operation that always fails, with `shouldRetryFn` nil and a context never done. -/
def alwaysFailing : Env Unit Unit := ⟨fun _ => .error (), none, fun _ => none, []⟩


/-- Every invocation before the `k`-th failed. -/
def FailedBefore (k : Nat) : Prop := ∀ j < k, ∃ e, env.op j = .error e

/-- How a run that returned ended: with the result of its last invocation, every earlier one
having failed, or with an error, every invocation having failed. -/
def Returned (res : Except (Wrapped E) R) (s : State) : Prop :=
  (∃ r, res = .ok r ∧ 0 < s.calls ∧ env.op (s.calls - 1) = .ok r ∧
      FailedBefore env (s.calls - 1)) ∨
    (∃ w, res = .error w) ∧ FailedBefore env s.calls

theorem failedBefore_succ {k : Nat} {e : E} (h : FailedBefore env k) (he : env.op k = .error e) :
    FailedBefore env (k + 1) := fun j hj =>
  (Nat.lt_succ_iff_lt_or_eq.mp hj).elim (h j) fun h => ⟨e, h ▸ he⟩

/-- Run lemma: from a state where `numRetries` counts the invocations, all failed and within
the budget `N`, the loop returns within `N + 1` invocations in all. -/
theorem performOperation_bounded (hN : 0 ≤ cfg.maxNumRetries) : ∀ (fuel : Nat) (s : State),
    s.numRetries = s.calls → s.calls ≤ cfg.maxNumRetries.toNat → FailedBefore env s.calls →
    cfg.maxNumRetries.toNat + 1 ≤ s.calls + fuel →
    ∃ res s', performOperation cfg env fuel s = (some res, s') ∧
      s'.calls ≤ cfg.maxNumRetries.toNat + 1 ∧ Returned env res s'
  | 0, s, _, hle, _, hf => absurd hf (by omega)
  | fuel + 1, s, hn, hle, hfail, hf => by
    have hlt : ¬ cfg.spent s → s.calls < cfg.maxNumRetries.toNat := fun hb => by
      simp only [Config.spent, infiniteRetries, not_and_or, not_not] at hb
      omega
    unfold performOperation
    rcases pass_cases cfg env s with
      ⟨r, hop, h⟩ | ⟨err, hop, ⟨w, h⟩ | ⟨hb, ⟨w, h⟩ | h⟩⟩ <;> rw [h]
    · exact ⟨_, _, rfl, by simp only [State.invoked_calls]; omega,
        .inl ⟨r, rfl, by simp, by simpa using hop, by simpa using hfail⟩⟩
    · exact ⟨_, _, rfl, by simp only [State.invoked_calls]; omega,
        .inr ⟨⟨w, rfl⟩, failedBefore_succ env hfail hop⟩⟩
    · exact ⟨_, _, rfl, by simp only [State.retried_calls, State.invoked_calls]; omega,
        .inr ⟨⟨w, rfl⟩, failedBefore_succ env hfail hop⟩⟩
    · have hs := hlt hb
      have hmax := cfg.maxNumRetries_in.2
      refine performOperation_bounded hN fuel _ ?_
        (by simp only [State.retried_calls, State.invoked_calls]; omega)
        (failedBefore_succ env hfail hop) (by simp only [State.retried_calls, State.invoked_calls]; omega)
      simp only [State.retried_numRetries, State.retried_calls, State.invoked_calls, wrap32]
      simp only [State.invoked] 
      omega

/-- **Bounded retries.** With `MaxNumRetries = N ≥ 0`, for every sequence of outcomes, every
`shouldRetryFn` and every context, `Retry` returns after at most `N + 1` invocations; it
returns a result exactly when one of them succeeded, and then the result of the first
success, which is the last invocation. -/
theorem retry_bounded (hN : 0 ≤ cfg.maxNumRetries) :
    ∃ res s, retry cfg env (cfg.maxNumRetries.toNat + 1) = (some res, s) ∧
      s.calls ≤ cfg.maxNumRetries.toNat + 1 ∧
      ((∃ r, res = .ok r) ↔ ∃ i < s.calls, ∃ r, env.op i = .ok r) ∧
      ∀ r, res = .ok r → env.op (s.calls - 1) = .ok r ∧ FailedBefore env (s.calls - 1) := by
  obtain ⟨res, s, h, hcalls, hret⟩ := performOperation_bounded cfg env hN
    (cfg.maxNumRetries.toNat + 1) (start cfg) rfl (Nat.zero_le _)
    (fun _ h => absurd h (Nat.not_lt_zero _)) (by simp [start])
  refine ⟨res, s, h, hcalls, ?_, ?_⟩
  · rcases hret with ⟨r, rfl, hpos, hop, -⟩ | ⟨⟨w, rfl⟩, hfail⟩
    · exact ⟨fun _ => ⟨_, by omega, r, hop⟩, fun _ => ⟨r, rfl⟩⟩
    · refine ⟨fun ⟨_, h⟩ => (by cases h), fun ⟨i, hi, r, hr⟩ => ?_⟩
      obtain ⟨e, he⟩ := hfail i hi
      rw [hr] at he
      cases he
  · rintro r rfl
    rcases hret with ⟨r', h', -, hop, hfail⟩ | ⟨⟨w, h'⟩, -⟩
    · cases h'
      exact ⟨hop, hfail⟩
    · cases h'

/-- Two invocations, both failing, against a budget of one retry. -/
theorem retry_bounded_slowStart :
    0 ≤ slowStartConfig.maxNumRetries ∧
      ∃ res s, retry slowStartConfig alwaysFailing (slowStartConfig.maxNumRetries.toNat + 1) =
          (some res, s) ∧
        s.calls ≤ slowStartConfig.maxNumRetries.toNat + 1 ∧
        ((∃ r, res = .ok r) ↔ ∃ i < s.calls, ∃ r, alwaysFailing.op i = .ok r) ∧
        ∀ r, res = .ok r → alwaysFailing.op (s.calls - 1) = .ok r ∧
          FailedBefore alwaysFailing (s.calls - 1) :=
  ⟨by decide, retry_bounded slowStartConfig alwaysFailing (by decide)⟩

/-! ## The backoff schedule -/

/-- The delay before the `k`-th retry in whole milliseconds, in exact arithmetic: `I` before
the first, and `min(I·2^(k-1), M)` from the second on. -/
def backoffMS (I M : Int) (k : Nat) : Int := if k ≤ 1 then I else min (I * 2 ^ (k - 1)) M

section Schedule

variable {I M : Int} (hI : 0 ≤ I) (hM : 0 ≤ M)
include hI hM

theorem backoffMS_range (k : Nat) : 0 ≤ backoffMS I M k ∧ backoffMS I M k ≤ max I M := by
  unfold backoffMS
  split_ifs
  · omega
  · have : 0 ≤ I * 2 ^ (k - 1) := Int.mul_nonneg hI (pow_nonneg (by norm_num) _)
    omega

/-- From the second retry on, each delay is the last one doubled and capped. -/
theorem backoffMS_succ {k : Nat} (hk : 1 ≤ k) :
    backoffMS I M (k + 1) = min (2 * backoffMS I M k) M := by
  have hpow : I * 2 ^ k = 2 * (I * 2 ^ (k - 1)) := by
    rw [show k = k - 1 + 1 by omega, pow_succ]
    simp only [Nat.add_sub_cancel]
    ring
  have hX : 0 ≤ I * 2 ^ (k - 1) := Int.mul_nonneg hI (pow_nonneg (by norm_num) _)
  unfold backoffMS
  rw [if_neg (by omega), Nat.add_sub_cancel, hpow]
  split_ifs with h1
  · obtain rfl : k = 1 := by omega
    simp
  · omega

/-- Far enough out, the delay has reached its cap, `M`, or stays `0`. -/
theorem backoffMS_stable (hM' : M < 4611686018427387904) {k : Nat} (hk : 63 ≤ k) :
    backoffMS I M (k + 1) = backoffMS I M k := by
  have hP : (4611686018427387904 : Int) ≤ 2 ^ (k - 1) := by
    calc (4611686018427387904 : Int) = 2 ^ 62 := by norm_num
      _ ≤ 2 ^ (k - 1) := pow_le_pow_right₀ (by norm_num) (by omega)
  rw [backoffMS_succ hI hM (by omega)]
  unfold backoffMS
  rw [if_neg (by omega)]
  rcases hI.eq_or_lt with rfl | hI1
  · simp only [zero_mul]; omega
  · have : 2 ^ (k - 1) ≤ I * 2 ^ (k - 1) := le_mul_of_one_le_left (by positivity) (by omega)
    omega

end Schedule

/-- What the loop keeps of the schedule after `k` sleeps: the `k` durations of `backoffMS`,
the delay of the `k`-th retry, and `numRetries`, `k` wrapped to 32 bits. -/
def OnSchedule (I M : Int) (s : State) : Prop :=
  s.sleeps = (List.range s.sleeps.length).map (fun k => backoffMS I M (k + 1) * 1000000) ∧
    s.delayBeforeRetryMS = backoffMS I M s.sleeps.length ∧ s.numRetries = wrap32 s.sleeps.length

/-- `Retry` starts on the schedule: no sleep, the initial delay, no retry. -/
theorem onSchedule_start : OnSchedule (milliseconds cfg.initialDelayBeforeRetrying)
    (milliseconds cfg.maxDelayBeforeRetrying) (start cfg) :=
  ⟨rfl, by simp [start, backoffMS], by simp [start, wrap32]⟩

section Step

variable (hI : 0 ≤ cfg.initialDelayBeforeRetrying) (hM : 0 ≤ cfg.maxDelayBeforeRetrying)
include hI hM

/-- Step lemma: a retry keeps to the schedule, with no `int32` or `int64` wrap changing a
value it computes. -/
theorem onSchedule_retried {s : State}
    (h : OnSchedule (milliseconds cfg.initialDelayBeforeRetrying)
      (milliseconds cfg.maxDelayBeforeRetrying) s) :
    OnSchedule (milliseconds cfg.initialDelayBeforeRetrying)
      (milliseconds cfg.maxDelayBeforeRetrying) (s.retried cfg) := by
  obtain ⟨hI0, hI1⟩ := milliseconds_range cfg.initialDelayBeforeRetrying_in hI
  obtain ⟨hM0, hM1⟩ := milliseconds_range cfg.maxDelayBeforeRetrying_in hM
  have hI2 := cfg.initialDelayBeforeRetrying_in.2
  have hM2 := cfg.maxDelayBeforeRetrying_in.2
  obtain ⟨hs, hd, hn⟩ := h
  set I := milliseconds cfg.initialDelayBeforeRetrying
  set M := milliseconds cfg.maxDelayBeforeRetrying
  set k := s.sleeps.length
  have hb := backoffMS_range hI0 hM0 k
  have hdelay : (if wrap32 (s.numRetries + 1) > 1 then
      goMin (wrap64 (s.delayBeforeRetryMS * 2)) M else s.delayBeforeRetryMS) =
      backoffMS I M (k + 1) := by
    rw [hn, hd, wrap32_wrap32_succ]
    split_ifs with h1
    · rw [goMin_eq, backoffMS_succ hI0 hM0 (one_le_of_wrap32_gt h1),
        wrap64_of_in (x := backoffMS I M k * 2) (by unfold InInt64; omega)]
      ring_nf
    · rcases Nat.eq_zero_or_pos k with hk | hk
      · simp only [backoffMS, hk, zero_add, le_refl, if_true, zero_le_one]
      · rw [backoffMS_stable hI0 hM0 (by omega)
          (by have := wrap32_le_one h1 hk; omega)]
  have hb' := backoffMS_range hI0 hM0 (k + 1)
  have hsleep : wrap64 (backoffMS I M (k + 1) * 1000000) = backoffMS I M (k + 1) * 1000000 :=
    wrap64_of_in (by unfold InInt64; omega)
  have hret : s.retried cfg =
      ⟨backoffMS I M (k + 1), wrap32 (k + 1), s.calls, s.sleeps ++ [backoffMS I M (k + 1) * 1000000]⟩ := by
    simp only [State.retried]
    rw [hdelay, hsleep, hn, wrap32_wrap32_succ]
  rw [hret]
  have hlen : (s.sleeps ++ [backoffMS I M (k + 1) * 1000000]).length = k + 1 := by simp [k]
  refine ⟨?_, by rw [hlen], by rw [hlen]; rfl⟩
  rw [hlen, List.range_succ, List.map_append, ← hs]
  rfl

/-- Run lemma: every run keeps to the schedule, returned or not. -/
theorem onSchedule_performOperation : ∀ (fuel : Nat) {s : State},
    OnSchedule (milliseconds cfg.initialDelayBeforeRetrying)
      (milliseconds cfg.maxDelayBeforeRetrying) s →
    OnSchedule (milliseconds cfg.initialDelayBeforeRetrying)
      (milliseconds cfg.maxDelayBeforeRetrying) (performOperation cfg env fuel s).2
  | 0, _, h => h
  | fuel + 1, s, h => by
    unfold performOperation
    rcases pass_cases cfg env s with
      ⟨r, -, hp⟩ | ⟨err, -, ⟨w, hp⟩ | ⟨-, ⟨w, hp⟩ | hp⟩⟩ <;> rw [hp]
    · exact h
    · exact h
    · exact onSchedule_retried cfg hI hM h
    · exact onSchedule_performOperation fuel (onSchedule_retried cfg hI hM h)

end Step

/-- Run lemma: from a state where each invocation so far was followed by its sleep, a run
ends with one sleep between every two invocations: the last invocation may not have been
retried, every earlier one was. -/
theorem sleeps_performOperation : ∀ (fuel : Nat) {s : State}, s.sleeps.length = s.calls →
    (performOperation cfg env fuel s).2.sleeps.length ≤ (performOperation cfg env fuel s).2.calls ∧
      (performOperation cfg env fuel s).2.calls ≤ (performOperation cfg env fuel s).2.sleeps.length + 1
  | 0, _, h => ⟨h.le, Nat.le_succ_of_le h.ge⟩
  | fuel + 1, s, h => by
    unfold performOperation
    rcases pass_cases cfg env s with
      ⟨r, -, hp⟩ | ⟨err, -, ⟨w, hp⟩ | ⟨-, ⟨w, hp⟩ | hp⟩⟩ <;> rw [hp]
    · simp only [State.invoked_sleeps, State.invoked_calls]
      omega
    · simp only [State.invoked_sleeps, State.invoked_calls]
      omega
    · simp only [State.length_retried_sleeps, State.retried_calls, State.invoked_sleeps,
        State.invoked_calls]
      omega
    · exact sleeps_performOperation fuel (by simp [h])

/-- **The backoff schedule.** For every `Config` with non-negative delays, `I` and `M` their
whole milliseconds, every environment and every run, returned or not: the sleep before the
first retry lasts `I` milliseconds and the one before the `k`-th, `k ≥ 2`, lasts
`min(I·2^(k-1), M)`, computed without any `int32` or `int64` wrap; no sleep is longer than
the longer of the two configured delays. There is one sleep between every two
invocations: the `k`-th sleep comes before the `k`-th retry. -/
theorem retry_sleeps (hI : 0 ≤ cfg.initialDelayBeforeRetrying)
    (hM : 0 ≤ cfg.maxDelayBeforeRetrying) (fuel : Nat) :
    (retry cfg env fuel).2.sleeps = (List.range (retry cfg env fuel).2.sleeps.length).map
        (fun k => backoffMS (milliseconds cfg.initialDelayBeforeRetrying)
          (milliseconds cfg.maxDelayBeforeRetrying) (k + 1) * 1000000) ∧
      ((retry cfg env fuel).2.sleeps.length ≤ (retry cfg env fuel).2.calls ∧
        (retry cfg env fuel).2.calls ≤ (retry cfg env fuel).2.sleeps.length + 1) ∧
      ∀ d ∈ (retry cfg env fuel).2.sleeps,
        0 ≤ d ∧ d ≤ max cfg.initialDelayBeforeRetrying cfg.maxDelayBeforeRetrying := by
  have h : OnSchedule _ _ (retry cfg env fuel).2 :=
    onSchedule_performOperation cfg env hI hM fuel (onSchedule_start cfg)
  refine ⟨h.1, sleeps_performOperation cfg env fuel rfl, fun d hd => ?_⟩
  rw [h.1] at hd
  obtain ⟨k, -, rfl⟩ := List.mem_map.mp hd
  obtain ⟨hI0, hI1⟩ := milliseconds_range cfg.initialDelayBeforeRetrying_in hI
  obtain ⟨hM0, hM1⟩ := milliseconds_range cfg.maxDelayBeforeRetrying_in hM
  have := backoffMS_range hI0 hM0 (k + 1)
  omega

/-- The default configuration, on an operation that always fails, over three invocations,
each retried: sleeps of 100, 200 and 400 ms. -/
theorem retry_sleeps_default :
    (0 ≤ defaultConfig.initialDelayBeforeRetrying ∧ 0 ≤ defaultConfig.maxDelayBeforeRetrying) ∧
      (retry defaultConfig alwaysFailing 3).2.sleeps =
          (List.range (retry defaultConfig alwaysFailing 3).2.sleeps.length).map
            (fun k => backoffMS (milliseconds defaultConfig.initialDelayBeforeRetrying)
              (milliseconds defaultConfig.maxDelayBeforeRetrying) (k + 1) * 1000000) ∧
        ((retry defaultConfig alwaysFailing 3).2.sleeps.length ≤
            (retry defaultConfig alwaysFailing 3).2.calls ∧
          (retry defaultConfig alwaysFailing 3).2.calls ≤
            (retry defaultConfig alwaysFailing 3).2.sleeps.length + 1) ∧
        ∀ d ∈ (retry defaultConfig alwaysFailing 3).2.sleeps, 0 ≤ d ∧
          d ≤ max defaultConfig.initialDelayBeforeRetrying defaultConfig.maxDelayBeforeRetrying :=
  ⟨⟨by decide, by decide⟩, retry_sleeps defaultConfig alwaysFailing (by decide) (by decide) 3⟩

/-- The first sleep is `I`, 2000 ms, not `min(I, M)`, 1000 ms. -/
theorem retry_first_sleep_uncapped :
    (retry slowStartConfig alwaysFailing 2).2.sleeps = [2000000000] ∧
      milliseconds slowStartConfig.maxDelayBeforeRetrying = 1000 := by
  decide

end QuantumGoUtils.Retry
