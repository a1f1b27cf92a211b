import QuantumGoUtils.Go.Strings

/-!
# The multi-network JSON-RPC client (`ethrpc/client.go`)

A `Client` holds a `MultiConfig`: the configured networks, each with a list of named RPC
endpoints, and a selection, the active network and the active RPC, by name. `UseNetwork`
and `UseRPC` change the selection, `activeURL` reads the URL it selects,
`EnsureBackend` dials that URL unless the backend already dialed is at it, and
`WithNetwork` runs a function on another network and switches back.

The empty string is the selection's "not set". A Go map is a partial function here; the
lock `mu` is left out, each method being one atomic step. The outcome of
`ethclient.DialContext` is an argument of `EnsureBackend`.
-/

namespace QuantumGoUtils.Ethrpc

open QuantumGoUtils.Go.Strings

/-- `RPC`: one endpoint of a network. -/
structure RPC where
  name : GoString
  url : GoString
  deriving DecidableEq, Repr

/-- `NetworkConfig`, of which the client reads the endpoints. -/
structure NetworkConfig where
  rpcs : List RPC
  deriving DecidableEq, Repr

/-- `MultiConfig`: the networks by name, and the selection. -/
structure MultiConfig where
  networks : GoString → Option NetworkConfig
  activeNetwork : GoString
  activeRPC : GoString

/-- `Client`: the configuration, and the URL the backend was dialed at, if it was. -/
structure Client where
  cfg : MultiConfig
  backendURL : Option GoString

/-- The errors of the selection methods, each with the fields its message prints. -/
inductive ClientError where
  /-- "ethrpc: unknown network %q" -/
  | unknownNetwork (name : GoString)
  /-- "ethrpc: network %q has no rpcs" -/
  | noRPCs (name : GoString)
  /-- "ethrpc: active network not set" -/
  | activeNetworkNotSet
  /-- "ethrpc: rpc %q not found in network %q" -/
  | rpcNotFound (rpc network : GoString)
  /-- "ethrpc: unknown active network %q" -/
  | unknownActiveNetwork (name : GoString)
  /-- "ethrpc: active rpc not set for %q" -/
  | activeRPCNotSet (network : GoString)
  /-- "ethrpc: active rpc %q not found for %q" -/
  | activeRPCNotFound (rpc network : GoString)
  /-- "ethrpc: dial backend %q: %w" -/
  | dialBackend (url err : GoString)
  deriving DecidableEq, Repr

/-- `hasRPC`. -/
def hasRPC (rpcs : List RPC) (name : GoString) : Bool := rpcs.any (·.name == name)

/-- `Client.ActiveNetwork`. -/
def Client.activeNetwork (c : Client) : GoString := c.cfg.activeNetwork

/-- `Client.ActiveRPC`. -/
def Client.activeRPC (c : Client) : GoString := c.cfg.activeRPC

/-- The client with a new selection. -/
def Client.select (c : Client) (network rpc : GoString) : Client :=
  { c with cfg := { c.cfg with activeNetwork := network, activeRPC := rpc } }

/-- `Client.UseNetwork`. The active network is set before the network's endpoints are
checked. -/
def Client.useNetwork (c : Client) (networkName : GoString) : Except ClientError Unit × Client :=
  match c.cfg.networks networkName with
  | none => (.error (.unknownNetwork networkName), c)
  | some n =>
    let c := c.select networkName c.cfg.activeRPC
    match n.rpcs with
    | [] => (.error (.noRPCs networkName), c)
    | first :: _ =>
      if c.cfg.activeRPC = [] || !hasRPC n.rpcs c.cfg.activeRPC then
        (.ok (), c.select c.cfg.activeNetwork first.name)
      else (.ok (), c)

/-- `Client.UseRPC`. -/
def Client.useRPC (c : Client) (rpcName : GoString) : Except ClientError Unit × Client :=
  match c.cfg.networks c.cfg.activeNetwork with
  | some n =>
    if c.cfg.activeNetwork = [] then (.error .activeNetworkNotSet, c)
    else if !hasRPC n.rpcs rpcName then
      (.error (.rpcNotFound rpcName c.cfg.activeNetwork), c)
    else (.ok (), c.select c.cfg.activeNetwork rpcName)
  | none => (.error .activeNetworkNotSet, c)

/-- `Client.activeURL`: the URL of the first endpoint of the active network with the
active RPC's name. -/
def Client.activeURL (c : Client) : Except ClientError GoString :=
  if c.cfg.activeNetwork = [] then .error .activeNetworkNotSet
  else
    match c.cfg.networks c.cfg.activeNetwork with
    | none => .error (.unknownActiveNetwork c.cfg.activeNetwork)
    | some n =>
      if c.cfg.activeRPC = [] then .error (.activeRPCNotSet c.cfg.activeNetwork)
      else
        match n.rpcs.find? (·.name == c.cfg.activeRPC) with
        | some r => .ok r.url
        | none => .error (.activeRPCNotFound c.cfg.activeRPC c.cfg.activeNetwork)

/-- `Client.EnsureBackend`, with `dialed` the outcome `ethclient.DialContext` would have. -/
def Client.ensureBackend (c : Client) (dialed : Except GoString Unit) :
    Except ClientError Unit × Client :=
  match c.activeURL with
  | .error e => (.error e, c)
  | .ok url =>
    if c.backendURL = some url then (.ok (), c)
    else
      match dialed with
      | .error e => (.error (.dialBackend url e), c)
      | .ok () => (.ok (), { c with backendURL := some url })

/-- Why `WithNetwork` fails: a selection or backend error, or the error `fn` returned. -/
inductive WithNetworkError (E : Type) where
  | client (e : ClientError)
  | fn (e : E)
  deriving DecidableEq, Repr

/-- The best-effort restore of `WithNetwork`, written twice in the Go code: select
`prevNet`, then `prevRPC` if it is set, then ensure the backend, every error ignored. -/
def Client.restoreSelection (c : Client) (prevNet prevRPC : GoString)
    (dial : Except GoString Unit) : Client :=
  let c := (c.useNetwork prevNet).2
  let c := if prevRPC ≠ [] then (c.useRPC prevRPC).2 else c
  (c.ensureBackend dial).2

/-- `Client.WithNetwork`: switch to `networkName` (keeping the active RPC's name if the
network lists it), ensure the backend, run `fn`, and restore the previous selection.
`fnResult` is what `fn` returns, `dial` and `dialRestore` the outcomes of the dials of the
first and of the restoring `EnsureBackend`; what `fn` itself does to the client is left
out. -/
def Client.withNetwork {E : Type} (c : Client) (networkName : GoString)
    (fnResult : Except E Unit) (dial dialRestore : Except GoString Unit) :
    Except (WithNetworkError E) Unit × Client :=
  let prevNet := c.activeNetwork
  let prevRPC := c.activeRPC
  match c.useNetwork networkName with
  | (.error e, c) => (.error (.client e), c)
  | (.ok (), c) =>
    let c := if prevRPC ≠ [] then (c.useRPC prevRPC).2 else c
    match c.ensureBackend dial with
    | (.error e, c) => (.error (.client e), c.restoreSelection prevNet prevRPC dialRestore)
    | (.ok (), c) =>
      match fnResult with
      | .error e => (.error (.fn e), c.restoreSelection prevNet prevRPC dialRestore)
      | .ok () => (.ok (), c.restoreSelection prevNet prevRPC dialRestore)

end QuantumGoUtils.Ethrpc
