import QuantumGoUtils.Retry.RetryLaws
import QuantumGoUtils.Go.Fmt

/-!
# Retrying database calls (`database`)

Every call of the PGX database (`GetTransaction`, `Exec`, `QueryRow`, `Query`, and a
transaction's `Exec`, `Commit` and `Rollback`) runs its driver work through `retry.Retry`
with `DefaultConfig()`, `MaxDelayBeforeRetrying` lowered to one second and `MaxNumRetries`
set to `defaultMaxRetry`, with `isRetryable` as `shouldRetryFn`, and wraps the error `Retry`
returns with its own message. The constructors and `migrateWithIOFS` use the same
configuration with a `nil` `shouldRetryFn`.

An error is its chain as `errors.Is` and `errors.As` walk it (`DbError`): a wrapping of
`github.com/pkg/errors` is one layer with a message, although the library builds it from
two, neither of which `isRetryable` looks at. What the driver returns on each invocation
is an argument of each call, as in `Retry.Env`.

## Main results

* `retry_dbRetryConfig` — for this configuration, `Retry`'s loop, with its `int32` and
  `int64` arithmetic and its doubling delay, is the plain scan `dbScan`: at most seven
  invocations, with sleeps of 100, 200, 400, 800, 1000 and 1000 milliseconds between them.
* `dbCall_error` — the error a database call returns wraps the error of its last
  invocation, so `isRetryable` gives it the same answer.
* `exec_pgError_retried` — `isRetryable` accepts every error the PGX driver reports for a
  statement, a unique-constraint violation included: an `Exec` whose statement keeps
  violating a constraint runs it seven times.
-/

namespace QuantumGoUtils.Database

open QuantumGoUtils.Go.Strings QuantumGoUtils.Go.Strconv QuantumGoUtils.Go.Fmt QuantumGoUtils.Retry

/-! ## Errors and `isRetryable` -/

/-- An error, as `isRetryable` and the `errors` package see it. -/
inductive DbError where
  /-- `pgx.ErrNoRows`. -/
  | pgxNoRows
  /-- `sql.ErrNoRows`. -/
  | sqlNoRows
  /-- `os.ErrNotExist`. -/
  | osErrNotExist
  /-- A `*pq.Error` of `lib/pq`, by its `Code`. -/
  | pq (code : GoString)
  /-- A `*pgconn.PgError`, by its `Code`: what the PGX driver returns for an error the
  server reports. -/
  | pgError (code : GoString)
  /-- A `*net.OpError`, whose `Unwrap` is its `Err`. -/
  | netOp (err : DbError)
  /-- `errors.Wrap(err, message)` or `errors.Wrapf`, whose `Unwrap` is `err`. -/
  | wrap (message : GoString) (err : DbError)
  /-- Any other error; it wraps nothing. -/
  | other (text : GoString)
  deriving DecidableEq, Repr

/-- The chain `errors.Is` and `errors.As` walk: the error, then what each `Unwrap`
returns. -/
def DbError.chain : DbError → List DbError
  | .netOp err => .netOp err :: err.chain
  | .wrap message err => .wrap message err :: err.chain
  | err => [err]

/-- `errors.Is(err, target)` for a sentinel `target`: some error of the chain is it. -/
def errorsIs (err target : DbError) : Bool := err.chain.contains target

/-- `errors.As(err, &pqErr)`: the `Code` of the first `*pq.Error` of the chain. -/
def asPqError (err : DbError) : Option GoString :=
  err.chain.findSome? fun
    | .pq code => some code
    | _ => none

/-- `errors.As(err, &netErr)`: some error of the chain is a `*net.OpError`. -/
def asNetOpError (err : DbError) : Bool :=
  err.chain.any fun
    | .netOp _ => true
    | _ => false

section Retryable

variable (uniqueConstraintViolationCode : GoString)

/-- `isRetryable`; `none` is a `nil` error. `uniqueConstraintViolationCode` is
`constants.UniqueConstraintViolationCode`, whose package is not part of the repository. -/
def isRetryable : Option DbError → Bool
  | none => false
  | some err =>
    if errorsIs err .pgxNoRows || errorsIs err .sqlNoRows then false
    else if asPqError err = some uniqueConstraintViolationCode then false
    else if asNetOpError err then true
    else true

@[simp] theorem chain_wrap (message : GoString) (err : DbError) :
    (DbError.wrap message err).chain = .wrap message err :: err.chain := rfl

/-- A wrapping changes nothing `isRetryable` reads: its answer is that for the wrapped
error. -/
@[simp] theorem isRetryable_wrap (message : GoString) (err : DbError) :
    isRetryable uniqueConstraintViolationCode (some (.wrap message err)) =
      isRetryable uniqueConstraintViolationCode (some err) := by
  simp [isRetryable, errorsIs, asPqError, asNetOpError]

/-- `isRetryable` refuses an error exactly when its chain holds `pgx.ErrNoRows` or
`sql.ErrNoRows`, or its first `*pq.Error` has the unique-constraint code: the check for a
`*net.OpError` never changes its answer. -/
theorem isRetryable_eq_false_iff (err : DbError) :
    isRetryable uniqueConstraintViolationCode (some err) = false ↔
      (errorsIs err .pgxNoRows ∨ errorsIs err .sqlNoRows) ∨
        asPqError err = some uniqueConstraintViolationCode := by
  simp only [isRetryable]
  split_ifs with h1 h2 <;> simp_all

end Retryable

/-! ## The configuration of every database call -/

/-- `defaultMaxRetry`. -/
def defaultMaxRetry : Int := 6

/-- `retry.DefaultConfig()` with `MaxDelayBeforeRetrying = 1 * time.Second` and
`MaxNumRetries = defaultMaxRetry`. -/
def dbRetryConfig : Config where
  maxNumRetries := defaultMaxRetry
  initialDelayBeforeRetrying := defaultConfig.initialDelayBeforeRetrying
  maxDelayBeforeRetrying := 1 * 1000000000
  maxNumRetries_in := by decide
  initialDelayBeforeRetrying_in := defaultConfig.initialDelayBeforeRetrying_in
  maxDelayBeforeRetrying_in := by decide

/-! ## What the loop does under it -/

/-- The delays before the retries of a database call, in milliseconds. -/
def dbBackoffMS : List Int := [100, 200, 400, 800, 1000, 1000]

/-- `Retry`'s variables after `calls` invocations and `retries` retries. -/
def dbState (calls retries : Nat) : State :=
  ⟨backoffMS 100 1000 retries, retries, calls, (dbBackoffMS.take retries).map (· * 1000000)⟩

variable {E R : Type}

/-- `shouldRetryFn != nil && !shouldRetryFn(err)`: the environment's `shouldRetryFn` refuses
the error. -/
def refuses (env : Env E R) (err : E) : Bool :=
  match env.shouldRetryFn with
  | some f => !f err
  | none => false

/-- A database call's `Retry`, said plainly: invocation `i`, with `left` retries still
allowed, ends the call unless it fails with an error that `shouldRetryFn` accepts, a retry
is left, and the context is not done after the sleep. The result, the number of
invocations and the number of retries. -/
def dbScan (env : Env E R) : Nat → Nat → Except (Wrapped E) R × Nat × Nat
  | i, left =>
    match env.op i with
    | .ok r => (.ok r, i + 1, i)
    | .error err =>
      match left with
      | 0 => (.error ⟨err, lit "Failed after max " ++ formatInt i ++ lit " retries: " ++
          env.descriptionOfOperation⟩, i + 1, i)
      | left + 1 =>
        if refuses env err then
          (.error ⟨err, lit "Failed, unretryable, after " ++ formatInt i ++ lit " retries: " ++
            env.descriptionOfOperation⟩, i + 1, i)
        else
          match env.ctxErr i with
          | some err2 => (.error ⟨err, lit "Experienced context error during retry: " ++
              env.descriptionOfOperation ++ lit " - " ++ err2⟩, i + 1, i + 1)
          | none => dbScan env (i + 1) left

/-- A retry under the database configuration moves one step along `dbBackoffMS`. -/
theorem dbState_retried (calls : Nat) {n : Nat} (hn : n < 6) :
    (dbState calls n).retried dbRetryConfig = dbState calls (n + 1) := by
  interval_cases n <;> rfl

/-- Run lemma: from invocation `i` with `6 - i` retries left, the loop is `dbScan`. -/
theorem performOperation_dbState (env : Env E R) :
    ∀ (left i fuel : Nat), i + left = 6 → left < fuel →
      performOperation dbRetryConfig env fuel (dbState i i) =
        (some (dbScan env i left).1, dbState (dbScan env i left).2.1 (dbScan env i left).2.2)
  | _, _, 0, _, hfuel => absurd hfuel (Nat.not_lt_zero _)
  | left, i, fuel + 1, hi, hfuel => by
    have hbudget : (dbRetryConfig.maxNumRetries ≠ infiniteRetries ∧
        (i : Int) = dbRetryConfig.maxNumRetries) ↔ left = 0 := by
      simp only [dbRetryConfig, defaultMaxRetry, infiniteRetries]; omega
    unfold performOperation Retry.pass
    rw [dbScan]
    rcases hop : env.op i with err | r
    · rcases left with _ | left
      · simp only [dbState, hop, hbudget, if_true]
      · simp only [dbState, hop, hbudget, Nat.add_one_ne_zero, if_false]
        split_ifs with h1 h2 h2'
        · rfl
        · exact absurd h1 h2
        · exact absurd h2' h1
        · have hret := dbState_retried (i + 1) (n := i) (by omega)
          simp only [dbState] at hret
          rw [hret]
          rcases env.ctxErr i with _ | err2
          · exact performOperation_dbState env left (i + 1) fuel (by omega) (by omega)
          · rfl
    · simp only [dbState, hop]

/-- `Retry` starts where `dbScan` does. -/
theorem start_dbRetryConfig : start dbRetryConfig = dbState 0 0 := rfl

/-- **The database configuration's `Retry` is the plain scan.** For every environment and
every `shouldRetryFn`, with fuel for seven invocations, `Retry` returns what `dbScan`
returns, after the invocations it counts, and with one sleep per retry taken in order from
100, 200, 400, 800, 1000 and 1000 milliseconds: no `int32` or `int64` wrap and no doubling
past the one-second cap changes a value. -/
theorem retry_dbRetryConfig (env : Env E R) {fuel : Nat} (hfuel : 7 ≤ fuel) :
    retry dbRetryConfig env fuel =
      (some (dbScan env 0 6).1, dbState (dbScan env 0 6).2.1 (dbScan env 0 6).2.2) :=
  performOperation_dbState env 6 0 fuel rfl hfuel

theorem retry_dbRetryConfig_alwaysFailing :
    7 ≤ 7 ∧ retry dbRetryConfig alwaysFailing 7 =
      (some (dbScan alwaysFailing 0 6).1,
        dbState (dbScan alwaysFailing 0 6).2.1 (dbScan alwaysFailing 0 6).2.2) :=
  ⟨le_refl 7, retry_dbRetryConfig alwaysFailing (le_refl 7)⟩

/-- The error `dbScan` returns is that of its last invocation. -/
theorem dbScan_error (env : Env E R) {w : Wrapped E} :
    ∀ left i, (dbScan env i left).1 = .error w →
      env.op ((dbScan env i left).2.1 - 1) = .error w.cause
  | 0, i, h => by
    rw [dbScan] at h ⊢
    rcases hop : env.op i with err | r <;> simp only [hop] at h ⊢
    · cases h; simpa using hop
    · cases h
  | left + 1, i, h => by
    rw [dbScan] at h ⊢
    rcases hop : env.op i with err | r <;> simp only [hop] at h ⊢
    · split_ifs at h ⊢
      · cases h; simpa using hop
      · rcases hc : env.ctxErr i with _ | err2 <;> simp only [hc] at h ⊢
        · exact dbScan_error env left (i + 1) h
        · cases h; simpa using hop
    · cases h

/-- When every invocation from `i` on fails with an error `shouldRetryFn` accepts and the
context stays live, the scan spends its budget: it returns the error of invocation
`i + left`, after `i + left` retries. -/
theorem dbScan_exhausted (env : Env E R) (hctx : ∀ j, env.ctxErr j = none) :
    ∀ left i, (∀ j, i ≤ j → j ≤ i + left → ∃ e, env.op j = .error e ∧ refuses env e = false) →
      ∃ e, env.op (i + left) = .error e ∧ dbScan env i left =
        (.error ⟨e, lit "Failed after max " ++ formatInt ((i + left : Nat) : Int) ++
          lit " retries: " ++ env.descriptionOfOperation⟩, i + left + 1, i + left)
  | 0, i, h => by
    obtain ⟨e, he, -⟩ := h i le_rfl (by omega)
    exact ⟨e, he, by rw [dbScan, he]; rfl⟩
  | left + 1, i, h => by
    obtain ⟨e, he, hr⟩ := h i le_rfl (by omega)
    obtain ⟨e', he', hscan⟩ :=
      dbScan_exhausted env hctx left (i + 1) fun j h1 h2 => h j (by omega) (by omega)
    rw [show i + (left + 1) = i + 1 + left by omega]
    refine ⟨e', he', ?_⟩
    rw [dbScan, he]
    simp only [hr, Bool.false_eq_true, if_false, hctx, hscan]

/-! ## The calls -/

/-- A database call: `Retry` with `dbRetryConfig` over the call's operation and then, on an
error, `errors.Wrapf(err, message)`; what the call returns, and `Retry`'s final state. -/
def dbCall (shouldRetryFn : Option (DbError → Bool)) (descriptionOfOperation message : GoString)
    (op : Nat → Except DbError R) (ctxErr : Nat → Option GoString) (fuel : Nat) :
    Option (Except DbError R) × State :=
  let res := retry dbRetryConfig ⟨op, shouldRetryFn, ctxErr, descriptionOfOperation⟩ fuel
  (res.1.map (Except.mapError fun w => .wrap message (.wrap w.message w.cause)), res.2)

/-- A database call under the database configuration, through `dbScan`. -/
theorem dbCall_eq {f : Option (DbError → Bool)} {desc message : GoString}
    {op : Nat → Except DbError R} {ctxErr : Nat → Option GoString} {fuel : Nat}
    (hfuel : 7 ≤ fuel) :
    dbCall f desc message op ctxErr fuel =
      (some ((dbScan ⟨op, f, ctxErr, desc⟩ 0 6).1.mapError fun w =>
          .wrap message (.wrap w.message w.cause)),
        dbState (dbScan ⟨op, f, ctxErr, desc⟩ 0 6).2.1 (dbScan ⟨op, f, ctxErr, desc⟩ 0 6).2.2) := by
  unfold dbCall retry
  rw [start_dbRetryConfig, performOperation_dbState _ 6 0 fuel rfl hfuel]
  rfl

/-- **A database call returns the error of its last invocation.** With fuel for seven
invocations, an error the call returns is the error of the last invocation, wrapped by
`Retry` and by the call: `errors.Is` and `errors.As` find in it what they find in that
error, and `isRetryable` gives it the same answer. -/
theorem dbCall_error {f : Option (DbError → Bool)} {desc message : GoString}
    {op : Nat → Except DbError R} {ctxErr : Nat → Option GoString} {fuel : Nat}
    (hfuel : 7 ≤ fuel) {err : DbError}
    (h : (dbCall f desc message op ctxErr fuel).1 = some (.error err)) :
    ∃ cause msg, op ((dbCall f desc message op ctxErr fuel).2.calls - 1) = .error cause ∧
      err = .wrap message (.wrap msg cause) ∧
      ∀ code, isRetryable code (some err) = isRetryable code (some cause) := by
  rw [dbCall_eq hfuel] at h ⊢
  rcases hs : (dbScan ⟨op, f, ctxErr, desc⟩ 0 6).1 with w | r <;> rw [hs] at h
  · cases h
    exact ⟨w.cause, w.message, dbScan_error _ 6 0 hs, rfl, fun code => by simp⟩
  · cases h

/-- A statement that violates the unique constraint on every invocation. -/
def uniqueViolation (_ : Nat) : Except DbError Unit := .error (.pgError (lit "23505"))

theorem dbCall_error_uniqueViolation :
    7 ≤ 7 ∧ (dbCall none [] [] uniqueViolation (fun _ => none) 7).1 =
        some (.error (.wrap [] (.wrap (lit "Failed after max 6 retries: ") (.pgError (lit "23505"))))) ∧
      ∃ cause msg, uniqueViolation ((dbCall none [] [] uniqueViolation (fun _ => none) 7).2.calls - 1) =
          .error cause ∧
        DbError.wrap [] (.wrap (lit "Failed after max 6 retries: ") (.pgError (lit "23505"))) =
          .wrap [] (.wrap msg cause) ∧
        ∀ code, isRetryable code (some (.wrap [] (.wrap (lit "Failed after max 6 retries: ")
          (.pgError (lit "23505"))))) = isRetryable code (some cause) :=
  ⟨le_refl 7, rfl, dbCall_error (le_refl 7) rfl⟩

section Calls

variable (uniqueConstraintViolationCode : GoString)

/-- `isRetryable`, as every call passes it to `Retry`. -/
def retryable : Option (DbError → Bool) :=
  some fun err => isRetryable uniqueConstraintViolationCode (some err)

/-- An invocation that first takes a connection with `dbPool.Acquire`: `Acquire`'s error as it
is, if any, and otherwise the outcome of the work on the connection. -/
def acquired (acquire : Nat → Option DbError) (work : Nat → Except DbError R) (i : Nat) :
    Except DbError R :=
  match acquire i with
  | some err => .error err
  | none => work i

/-- An invocation of a function that returns only an error. -/
def errorOnly (call : Nat → Option DbError) (i : Nat) : Except DbError Unit :=
  match call i with
  | some err => .error err
  | none => .ok ()

/-- `CockroachPGXDatabase.GetTransaction`, `beginTx` being what `dbPool.BeginTx` returns. -/
def CockroachPGXDatabase.getTransaction (beginTx : Nat → Except DbError R)
    (ctxErr : Nat → Option GoString) (fuel : Nat) : Option (Except DbError R) × State :=
  dbCall (retryable uniqueConstraintViolationCode) (lit "Get DB Transaction")
    (lit "Failed to begin transaction after retries")
    (fun i => (beginTx i).mapError (.wrap (lit "Failed to begin db transaction"))) ctxErr fuel

/-- `CockroachPGXDatabase.Exec`, `execute` being what `conn.Exec` returns under
`crdb.Execute`. -/
def CockroachPGXDatabase.exec (sql : GoString) (acquire : Nat → Option DbError)
    (execute : Nat → Except DbError R) (ctxErr : Nat → Option GoString) (fuel : Nat) :
    Option (Except DbError R) × State :=
  dbCall (retryable uniqueConstraintViolationCode) (lit "Database Exec")
    (lit "Failed to execute " ++ sql ++ lit " after retries") (acquired acquire execute) ctxErr fuel

/-- `CockroachPGXDatabase.QueryRow`: the closure under `crdb.Execute` stores the row
`conn.QueryRow` returns and never fails, so only `Acquire` can. -/
def CockroachPGXDatabase.queryRow (sql : GoString) (acquire : Nat → Option DbError)
    (queryRow : Nat → R) (ctxErr : Nat → Option GoString) (fuel : Nat) :
    Option (Except DbError R) × State :=
  dbCall (retryable uniqueConstraintViolationCode) (lit "Database QueryRow")
    (lit "Failed to QueryRow " ++ sql) (acquired acquire fun i => .ok (queryRow i)) ctxErr fuel

/-- `CockroachPGXDatabase.Query`, `query` being what `conn.Query` returns under
`crdb.Execute`, whose error the operation wraps. -/
def CockroachPGXDatabase.query (sql : GoString) (acquire : Nat → Option DbError)
    (query : Nat → Except DbError R) (ctxErr : Nat → Option GoString) (fuel : Nat) :
    Option (Except DbError R) × State :=
  dbCall (retryable uniqueConstraintViolationCode) (lit "Database Query")
    (lit "Failed to queryRows " ++ sql ++ lit " after retries")
    (acquired acquire fun i => (query i).mapError (.wrap (lit "Failed to Execute Query " ++ sql)))
    ctxErr fuel

/-- `pgxTransaction.Exec`, `execute` being what `tx.Exec` returns under `crdb.Execute`. -/
def PgxTransaction.exec (sql : GoString) (execute : Nat → Except DbError R)
    (ctxErr : Nat → Option GoString) (fuel : Nat) : Option (Except DbError R) × State :=
  dbCall (retryable uniqueConstraintViolationCode) (lit "Database Execute Transaction")
    (lit "Failed to execute db transaction " ++ sql ++ lit " after retries") execute ctxErr fuel

/-- `pgxTransaction.Commit`, `commit` being what `tx.Commit` returns. -/
def PgxTransaction.commit (commit : Nat → Option DbError) (ctxErr : Nat → Option GoString)
    (fuel : Nat) : Option (Except DbError Unit) × State :=
  dbCall (retryable uniqueConstraintViolationCode) (lit "Database Commit Transaction")
    (lit "Failed to commit db transaction after retries") (errorOnly commit) ctxErr fuel

/-- `pgxTransaction.Rollback`, `rollback` being what `tx.Rollback` returns. -/
def PgxTransaction.rollback (rollback : Nat → Option DbError) (ctxErr : Nat → Option GoString)
    (fuel : Nat) : Option (Except DbError Unit) × State :=
  dbCall (retryable uniqueConstraintViolationCode) (lit "Database Rollback Transaction")
    (lit "Failed to rollback db transaction after retries") (errorOnly rollback) ctxErr fuel

/-- `isRetryable` accepts every `*pgconn.PgError`, whatever its code. -/
theorem isRetryable_pgError (code : GoString) :
    isRetryable uniqueConstraintViolationCode (some (.pgError code)) = true := by
  simp [isRetryable, errorsIs, asPqError, asNetOpError, DbError.chain]

/-- **A statement error the server reports is always retried.** `isRetryable` looks for a
`*pq.Error`, which the PGX driver never returns: when every invocation acquires a connection
and its statement fails with a `*pgconn.PgError`, whatever its code (a unique-constraint
violation included), and the context stays live, `Exec` runs the statement seven times,
sleeps 3.5 seconds in all, and fails after the maximum of retries. -/
theorem exec_pgError_retried (sql : GoString) {acquire : Nat → Option DbError}
    {execute : Nat → Except DbError R} {ctxErr : Nat → Option GoString} {fuel : Nat}
    (hacquire : ∀ i, acquire i = none)
    (hexecute : ∀ i, ∃ code, execute i = .error (.pgError code))
    (hctx : ∀ i, ctxErr i = none) (hfuel : 7 ≤ fuel) :
    ∃ code, execute 6 = .error (.pgError code) ∧
      CockroachPGXDatabase.exec uniqueConstraintViolationCode sql acquire execute ctxErr fuel =
        (some (.error (.wrap (lit "Failed to execute " ++ sql ++ lit " after retries")
          (.wrap (lit "Failed after max 6 retries: Database Exec") (.pgError code)))),
          dbState 7 6) := by
  have hop : ∀ j, ∃ e, acquired acquire execute j = .error e ∧
      refuses ⟨acquired acquire execute, retryable uniqueConstraintViolationCode, ctxErr,
        lit "Database Exec"⟩ e = false := fun j => by
    obtain ⟨code, hc⟩ := hexecute j
    refine ⟨.pgError code, by rw [acquired, hacquire, hc], ?_⟩
    simp [refuses, retryable, isRetryable_pgError]
  obtain ⟨e, he, hscan⟩ := dbScan_exhausted ⟨acquired acquire execute,
    retryable uniqueConstraintViolationCode, ctxErr, lit "Database Exec"⟩ hctx 6 0
    fun j _ _ => hop j
  change acquired acquire execute 6 = _ at he
  rw [acquired, hacquire] at he
  obtain ⟨code, hc⟩ := hexecute 6
  rw [hc] at he
  cases he
  refine ⟨code, hc, ?_⟩
  rw [CockroachPGXDatabase.exec, dbCall_eq hfuel, hscan]
  rfl

end Calls

theorem exec_pgError_retried_unique :
    ((∀ i, (fun _ => none : Nat → Option DbError) i = none) ∧
        (∀ i, ∃ code, uniqueViolation i = .error (.pgError code)) ∧
        (∀ i, (fun _ => none : Nat → Option GoString) i = none) ∧ 7 ≤ 7) ∧
      ∃ code, uniqueViolation 6 = .error (.pgError code) ∧
        CockroachPGXDatabase.exec (lit "23505") (lit "INSERT") (fun _ => none) uniqueViolation
            (fun _ => none) 7 =
          (some (.error (.wrap (lit "Failed to execute " ++ lit "INSERT" ++ lit " after retries")
            (.wrap (lit "Failed after max 6 retries: Database Exec") (.pgError code)))),
            dbState 7 6) :=
  ⟨⟨fun _ => rfl, fun _ => ⟨_, rfl⟩, fun _ => rfl, le_refl 7⟩,
    exec_pgError_retried (lit "23505") (lit "INSERT") (fun _ => rfl) (fun _ => ⟨_, rfl⟩)
      (fun _ => rfl) (le_refl 7)⟩

/-! ## The constructors -/

/-- `DatabaseSettings`, by the fields `getConnectionString` reads. -/
structure DatabaseSettings where
  host : GoString
  port : GoString
  user : GoString
  password : GoString
  database : GoString
  sslModeDisable : Bool
  certPath : GoString

/-- `getConnectionString`, `statCert` being the error `os.Stat` returns for the certificate
file, if any. -/
def getConnectionString (s : DatabaseSettings) (statCert : Option DbError) :
    Except DbError GoString :=
  let connString := s.user ++ lit ":" ++ s.password ++ lit "@" ++ s.host ++ lit ":" ++ s.port ++
    lit "/" ++ s.database
  if s.sslModeDisable then .ok (connString ++ lit "?sslmode=disable")
  else if s.certPath = [] then .ok (connString ++ lit "?sslmode=require")
  else
    match statCert with
    | some err =>
      if errorsIs err .osErrNotExist then
        .error (.other (lit "ssl mode was enabled but cert file not found"))
      else .error err
    | none => .ok (connString ++ lit "?sslmode=verify-ca&sslrootcert=" ++ s.certPath)

/-- `databaseDriverType`. -/
def databaseDriverType : GoString := lit "postgresql"

/-- `NewCockroachPGXDatabase`: `getConnectionString`, then `Retry` with a `nil`
`shouldRetryFn` over `pgxpool.ParseConfig`, which reads only the connection string,
`pgxpool.ConnectConfig`, which returns the pool, and `Ping`. When `getConnectionString`
fails, `Retry` does not run and the state is its start. -/
def newCockroachPGXDatabase (settings : DatabaseSettings) (statCert : Option DbError)
    (parseConfig : GoString → Option DbError) (connectConfig : Nat → Except DbError R)
    (ping : Nat → Option DbError) (ctxErr : Nat → Option GoString) (fuel : Nat) :
    Option (Except DbError R) × State :=
  match getConnectionString settings statCert with
  | .error err => (some (.error err), start dbRetryConfig)
  | .ok connStr =>
    dbCall none (lit "Database Connection") (lit "Failed to instantiate db after retries")
      (fun i =>
        match parseConfig (databaseDriverType ++ lit "://" ++ connStr) with
        | some err => .error (.wrap (lit "error parsing pgx config") err)
        | none =>
          match connectConfig i with
          | .error err => .error (.wrap (lit "error opening the database") err)
          | .ok pool =>
            match ping i with
            | some err => .error (.wrap (lit "failed to ping database") err)
            | none => .ok pool)
      ctxErr fuel

/-- `NewCockroachSQLDatabase`: `getConnectionString`, then `Retry` with a `nil`
`shouldRetryFn` over `apmsql.Open("postgres", fmt.Sprintf(connStr))`, `open'` being what
`apmsql.Open` returns for a data source name on each invocation. -/
def newCockroachSQLDatabase (settings : DatabaseSettings) (statCert : Option DbError)
    (open' : GoString → Nat → Except DbError R) (ctxErr : Nat → Option GoString) (fuel : Nat) :
    Option (Except DbError R) × State :=
  match getConnectionString settings statCert with
  | .error err => (some (.error err), start dbRetryConfig)
  | .ok connStr =>
    dbCall none (lit "Database Connection") (lit "Failed to instanciate db after retries")
      (fun i => (open' (sprintf connStr) i).mapError (.wrap (lit "error opening the database")))
      ctxErr fuel

/-- **A connection string that pgx refuses is parsed seven times.** `ParseConfig` reads only
the connection string, so when it refuses it every invocation fails the same way, and with a
`nil` `shouldRetryFn` and a live context the constructor sleeps 3.5 seconds in all before it
fails after the maximum of retries. -/
theorem newCockroachPGXDatabase_parseConfig_error {settings : DatabaseSettings}
    {statCert : Option DbError} {parseConfig : GoString → Option DbError}
    {connectConfig : Nat → Except DbError R} {ping : Nat → Option DbError}
    {ctxErr : Nat → Option GoString} {fuel : Nat} {connStr : GoString} {err : DbError}
    (hconn : getConnectionString settings statCert = .ok connStr)
    (hparse : parseConfig (databaseDriverType ++ lit "://" ++ connStr) = some err)
    (hctx : ∀ i, ctxErr i = none) (hfuel : 7 ≤ fuel) :
    newCockroachPGXDatabase settings statCert parseConfig connectConfig ping ctxErr fuel =
      (some (.error (.wrap (lit "Failed to instantiate db after retries")
        (.wrap (lit "Failed after max 6 retries: Database Connection")
          (.wrap (lit "error parsing pgx config") err)))), dbState 7 6) := by
  rw [newCockroachPGXDatabase, hconn]
  simp only [hparse]
  obtain ⟨e, he, hscan⟩ := dbScan_exhausted (⟨fun _ => .error (.wrap (lit "error parsing pgx config")
    err), none, ctxErr, lit "Database Connection"⟩ : Env DbError R) hctx 6 0 fun _ _ _ => ⟨_, rfl, rfl⟩
  cases he
  rw [dbCall_eq hfuel, hscan]
  rfl

/-- Settings that turn TLS off. -/
def localSettings : DatabaseSettings :=
  ⟨lit "localhost", lit "26257", lit "root", [], lit "defaultdb", true, []⟩

/-- A `ParseConfig` that refuses every connection string. -/
def refusingParseConfig (_ : GoString) : Option DbError := some (.other (lit "invalid"))

theorem newCockroachPGXDatabase_parseConfig_error_local :
    (getConnectionString localSettings none =
        .ok (lit "root:@localhost:26257/defaultdb?sslmode=disable") ∧
      refusingParseConfig (databaseDriverType ++ lit "://" ++
        lit "root:@localhost:26257/defaultdb?sslmode=disable") = some (.other (lit "invalid")) ∧
      (∀ i, (fun _ => none : Nat → Option GoString) i = none) ∧ 7 ≤ 7) ∧
    newCockroachPGXDatabase (R := Unit) localSettings none refusingParseConfig
        (fun _ => .ok ()) (fun _ => none) (fun _ => none) 7 =
      (some (.error (.wrap (lit "Failed to instantiate db after retries")
        (.wrap (lit "Failed after max 6 retries: Database Connection")
          (.wrap (lit "error parsing pgx config") (.other (lit "invalid")))))), dbState 7 6) :=
  ⟨⟨rfl, rfl, fun _ => rfl, le_refl 7⟩,
    newCockroachPGXDatabase_parseConfig_error rfl rfl (fun _ => rfl) (le_refl 7)⟩

/-! ## The data source name of the SQL driver -/

/-- **A connection string with no `%` is opened as it is.** -/
theorem newCockroachSQLDatabase_dsn {settings : DatabaseSettings} {statCert : Option DbError}
    {connStr : GoString} (hconn : getConnectionString settings statCert = .ok connStr)
    (hpct : 37 ∉ connStr) (open' : GoString → Nat → Except DbError R)
    (ctxErr : Nat → Option GoString) (fuel : Nat) :
    newCockroachSQLDatabase settings statCert open' ctxErr fuel =
      dbCall none (lit "Database Connection") (lit "Failed to instanciate db after retries")
        (fun i => (open' connStr i).mapError (.wrap (lit "error opening the database")))
        ctxErr fuel := by
  simp only [newCockroachSQLDatabase, hconn, sprintf_of_not_mem hpct]

theorem newCockroachSQLDatabase_dsn_local :
    (getConnectionString localSettings none =
        .ok (lit "root:@localhost:26257/defaultdb?sslmode=disable") ∧
      37 ∉ lit "root:@localhost:26257/defaultdb?sslmode=disable") ∧
    newCockroachSQLDatabase localSettings none (fun _ _ => .ok ()) (fun _ => none) 7 =
      dbCall none (lit "Database Connection") (lit "Failed to instanciate db after retries")
        (fun i => ((fun _ _ => .ok ()) (lit "root:@localhost:26257/defaultdb?sslmode=disable") i
          : Except DbError Unit).mapError (.wrap (lit "error opening the database")))
        (fun _ => none) 7 :=
  ⟨⟨rfl, by decide⟩, newCockroachSQLDatabase_dsn
    (show getConnectionString localSettings none =
      .ok (lit "root:@localhost:26257/defaultdb?sslmode=disable") from rfl) (by decide) _ _ _⟩

/-- **A percent-encoded byte does not reach the driver.** `fmt.Sprintf` reads the connection
string as a format: when its first `%` is followed by digits and a plain verb, as a byte of
a password that URL encoding writes `%40` for `@` is, the data source name `apmsql.Open`
receives has `%!v(MISSING)` in its place, and is not the connection string. -/
theorem newCockroachSQLDatabase_percent {settings : DatabaseSettings} {statCert : Option DbError}
    {connStr pre ds tail : GoString} {v : UInt8}
    (hconn : getConnectionString settings statCert = .ok connStr)
    (hsplit : connStr = pre ++ 37 :: (ds ++ v :: tail)) (hpre : 37 ∉ pre)
    (hds : ∀ c ∈ ds, isDigit c = true) (hne : ds ≠ []) (hlen : ds.length ≤ 7) (hv : PlainVerb v)
    (open' : GoString → Nat → Except DbError R) (ctxErr : Nat → Option GoString) (fuel : Nat) :
    pre ++ lit "%!" ++ [v] ++ lit "(MISSING)" ++ sprintf tail ≠ connStr ∧
      newCockroachSQLDatabase settings statCert open' ctxErr fuel =
        dbCall none (lit "Database Connection") (lit "Failed to instanciate db after retries")
          (fun i => (open' (pre ++ lit "%!" ++ [v] ++ lit "(MISSING)" ++ sprintf tail) i).mapError
            (.wrap (lit "error opening the database"))) ctxErr fuel := by
  refine ⟨fun h => ?_, by
    simp only [newCockroachSQLDatabase, hconn, hsplit, sprintf_missing hpre hds hlen hv]⟩
  obtain ⟨d, ds, rfl⟩ := List.exists_cons_of_ne_nil hne
  have hl : lit "%!" = [37, 33] := rfl
  rw [hsplit, hl] at h
  simp only [List.append_assoc, List.cons_append, List.nil_append, List.append_cancel_left_eq,
    List.cons.injEq, true_and] at h
  exact absurd (hds d (List.mem_cons_self _ _)) (by rw [← h.1]; decide)

/-- Settings whose password holds `@` percent-encoded. -/
def encodedPasswordSettings : DatabaseSettings :=
  ⟨lit "localhost", lit "26257", lit "root", lit "p%40ss", lit "defaultdb", true, []⟩

theorem newCockroachSQLDatabase_percent_at :
    (getConnectionString encodedPasswordSettings none =
        .ok (lit "root:p%40ss@localhost:26257/defaultdb?sslmode=disable") ∧
      lit "root:p%40ss@localhost:26257/defaultdb?sslmode=disable" =
        lit "root:p" ++ 37 :: (lit "40" ++ 115 :: lit "s@localhost:26257/defaultdb?sslmode=disable") ∧
      37 ∉ lit "root:p" ∧ (∀ c ∈ lit "40", isDigit c = true) ∧ lit "40" ≠ [] ∧
      (lit "40").length ≤ 7 ∧ PlainVerb 115) ∧
    lit "root:p" ++ lit "%!" ++ [115] ++ lit "(MISSING)" ++
        sprintf (lit "s@localhost:26257/defaultdb?sslmode=disable") ≠
      lit "root:p%40ss@localhost:26257/defaultdb?sslmode=disable" ∧
    newCockroachSQLDatabase encodedPasswordSettings none (fun _ _ => (.ok () : Except DbError Unit))
        (fun _ => none) 7 =
      dbCall none (lit "Database Connection") (lit "Failed to instanciate db after retries")
        (fun i => ((fun _ _ => .ok ()) (lit "root:p" ++ lit "%!" ++ [115] ++ lit "(MISSING)" ++
          sprintf (lit "s@localhost:26257/defaultdb?sslmode=disable")) i
          : Except DbError Unit).mapError (.wrap (lit "error opening the database")))
        (fun _ => none) 7 :=
  ⟨⟨rfl, rfl, by decide, by decide, by decide, by decide, by decide⟩,
    newCockroachSQLDatabase_percent
      (show getConnectionString encodedPasswordSettings none =
        .ok (lit "root:p%40ss@localhost:26257/defaultdb?sslmode=disable") from rfl)
      (show lit "root:p%40ss@localhost:26257/defaultdb?sslmode=disable" =
        lit "root:p" ++ 37 :: (lit "40" ++ 115 :: lit "s@localhost:26257/defaultdb?sslmode=disable")
        from rfl) (by decide) (by decide) (by decide) (by decide)
      (by decide) _ _ _⟩

end QuantumGoUtils.Database
