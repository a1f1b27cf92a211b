import QuantumGoUtils.Ethrpc.Client

/-!
# The network selection as a state machine

`UseNetwork` and `UseRPC` are the transitions of a state machine over the client's
selection; `activeURL` succeeding is the property a caller relies on. Both methods leave
the configured networks alone, `UseRPC` changes nothing when it fails, and a successful
call selects a listed endpoint, provided no network and no endpoint is named by the empty
string, the selection's "not set". `UseNetwork` of a configured network without endpoints
is the exception: it fails after setting the active network.

## Main results

* `selection_state_machine` — what each call does to the selection, and that `activeURL`
  keeps succeeding over any run of calls that avoids `UseNetwork` of a network without
  endpoints.
* `useNetwork_breaks_selection` — where the selection breaks.
* `withNetwork_restores_iff` — `WithNetwork` restores the previous selection exactly when
  its target is not a configured network without endpoints.
-/

namespace QuantumGoUtils.Ethrpc

open QuantumGoUtils.Go.Strings

@[simp] theorem Client.select_networks (c : Client) (n r : GoString) :
    (c.select n r).cfg.networks = c.cfg.networks := rfl

@[simp] theorem Client.select_activeNetwork (c : Client) (n r : GoString) :
    (c.select n r).cfg.activeNetwork = n := rfl

@[simp] theorem Client.select_activeRPC (c : Client) (n r : GoString) :
    (c.select n r).cfg.activeRPC = r := rfl

@[simp] theorem Client.select_select (c : Client) (n r n' r' : GoString) :
    (c.select n r).select n' r' = c.select n' r' := rfl

/-! ## The selection -/

/-- `activeURL` returns the URL of an endpoint listed under the active network. -/
def Selects (c : Client) : Prop :=
  ∃ n, c.cfg.networks c.cfg.activeNetwork = some n ∧ ∃ r ∈ n.rpcs, c.activeURL = .ok r.url

/-- No network and no endpoint is named by the empty string. -/
def MultiConfig.WellNamed (cfg : MultiConfig) : Prop :=
  ∀ name n, cfg.networks name = some n → name ≠ [] ∧ ∀ r ∈ n.rpcs, r.name ≠ []

/-- A set network and a set RPC that the network lists select its endpoint. -/
theorem selects_of_hasRPC {c : Client} {n : NetworkConfig} (hn : c.cfg.activeNetwork ≠ [])
    (hnet : c.cfg.networks c.cfg.activeNetwork = some n) (hr : c.cfg.activeRPC ≠ [])
    (hhas : hasRPC n.rpcs c.cfg.activeRPC = true) : Selects c := by
  obtain ⟨r, hfind⟩ := Option.isSome_iff_exists.mp (List.find?_isSome.mpr
    (List.any_eq_true.mp hhas))
  refine ⟨n, hnet, r, List.mem_of_find?_eq_some hfind, ?_⟩
  simp [Client.activeURL, hn, hnet, hr, hfind]

/-! ## The transitions -/

/-- `UseRPC` fails and changes nothing, or selects a listed endpoint of the set active
network. -/
theorem useRPC_cases (c : Client) (rpcName : GoString) :
    (∃ e, c.useRPC rpcName = (.error e, c)) ∨
      ∃ n, c.cfg.networks c.cfg.activeNetwork = some n ∧ c.cfg.activeNetwork ≠ [] ∧
        hasRPC n.rpcs rpcName = true ∧
        c.useRPC rpcName = (.ok (), c.select c.cfg.activeNetwork rpcName) := by
  unfold Client.useRPC
  rcases hnet : c.cfg.networks c.cfg.activeNetwork with _ | n
  · exact .inl ⟨_, rfl⟩
  · by_cases hn : c.cfg.activeNetwork = []
    · exact .inl ⟨_, if_pos hn⟩
    cases hhas : hasRPC n.rpcs rpcName
    · exact .inl ⟨.rpcNotFound rpcName c.cfg.activeNetwork, by simp [hn, hhas]⟩
    · exact .inr ⟨n, rfl, hn, hhas, by simp [hn, hhas]⟩

/-- `UseNetwork` fails on an unknown network and changes nothing; on a network without
endpoints it fails after setting the active network; otherwise it sets the network and
keeps the active RPC if the network lists it, else takes the first endpoint. -/
theorem useNetwork_cases (c : Client) (name : GoString) :
    (c.cfg.networks name = none ∧ c.useNetwork name = (.error (.unknownNetwork name), c)) ∨
      (∃ n, c.cfg.networks name = some n ∧ n.rpcs = [] ∧
        c.useNetwork name = (.error (.noRPCs name), c.select name c.cfg.activeRPC)) ∨
      ∃ n first rest, c.cfg.networks name = some n ∧ n.rpcs = first :: rest ∧
        c.useNetwork name = (.ok (), c.select name
          (if c.cfg.activeRPC = [] || !hasRPC n.rpcs c.cfg.activeRPC then first.name
            else c.cfg.activeRPC)) := by
  unfold Client.useNetwork
  rcases hnet : c.cfg.networks name with _ | n
  · exact .inl ⟨rfl, rfl⟩
  · rcases hr : n.rpcs with _ | ⟨first, rest⟩
    · exact .inr (.inl ⟨n, rfl, hr, by simp [hr]⟩)
    · refine .inr (.inr ⟨n, first, rest, rfl, hr, ?_⟩)
      simp only [hr, Client.select_activeRPC, Client.select_activeNetwork, Client.select_select]
      split <;> rename_i h <;> simp only [h, if_true, if_false]

/-- On a well-named configuration a successful `UseRPC` selects a listed endpoint. -/
theorem selects_useRPC {c : Client} {rpcName : GoString} (hw : c.cfg.WellNamed)
    (h : (c.useRPC rpcName).1 = .ok ()) : Selects (c.useRPC rpcName).2 := by
  rcases useRPC_cases c rpcName with ⟨e, he⟩ | ⟨n, hnet, hn, hhas, he⟩
  · rw [he] at h
    cases h
  · rw [he]
    obtain ⟨r, hr, hname⟩ := List.any_eq_true.mp hhas
    obtain rfl : r.name = rpcName := by simpa using hname
    exact selects_of_hasRPC hn hnet ((hw _ _ hnet).2 r hr) hhas

/-- On a well-named configuration `UseNetwork` of a network with endpoints succeeds and
selects a listed endpoint. -/
theorem selects_useNetwork {c : Client} {name : GoString} {n : NetworkConfig}
    (hw : c.cfg.WellNamed) (hnet : c.cfg.networks name = some n) (hne : n.rpcs ≠ []) :
    (c.useNetwork name).1 = .ok () ∧ Selects (c.useNetwork name).2 := by
  rcases useNetwork_cases c name with ⟨h, -⟩ | ⟨n', h, hr, -⟩ | ⟨n', first, rest, h, hr, he⟩
  · simp [hnet] at h
  · rw [hnet] at h
    cases h
    exact absurd hr hne
  rw [hnet] at h
  cases h
  obtain ⟨hname, hnames⟩ := hw name n hnet
  refine ⟨by rw [he], ?_⟩
  rw [he]
  split
  · have hfirst : first ∈ n.rpcs := by simp [hr]
    exact selects_of_hasRPC hname hnet (hnames first hfirst)
      (List.any_eq_true.mpr ⟨first, hfirst, by simp⟩)
  · rename_i hkeep
    simp only [Bool.or_eq_true, decide_eq_true_eq, Bool.not_eq_true', not_or,
      Bool.not_eq_false] at hkeep
    exact selects_of_hasRPC hname hnet hkeep.1 hkeep.2

/-! ## Runs -/

/-- A call of a selection method. -/
inductive Call where
  | useNetwork (name : GoString)
  | useRPC (name : GoString)
  deriving DecidableEq, Repr

/-- One call. -/
def Client.call (c : Client) : Call → Except ClientError Unit × Client
  | .useNetwork name => c.useNetwork name
  | .useRPC name => c.useRPC name

/-- A run of calls, each on the client the one before left, whatever it returned. -/
def Client.run (c : Client) : List Call → Client
  | [] => c
  | k :: ks => (c.call k).2.run ks

/-- The call is not `UseNetwork` of a configured network without endpoints. -/
def Call.Avoids (cfg : MultiConfig) : Call → Prop
  | .useNetwork name => ∀ n, cfg.networks name = some n → n.rpcs ≠ []
  | .useRPC _ => True

/-- No call changes the configured networks. -/
@[simp] theorem Client.call_networks (c : Client) (k : Call) :
    (c.call k).2.cfg.networks = c.cfg.networks := by
  cases k with
  | useNetwork name =>
    rcases useNetwork_cases c name with ⟨_, he⟩ | ⟨_, _, _, he⟩ | ⟨_, _, _, _, _, he⟩ <;>
      simp [Client.call, he]
  | useRPC name =>
    rcases useRPC_cases c name with ⟨_, he⟩ | ⟨_, _, _, _, he⟩ <;> simp [Client.call, he]

/-- **One step.** On a well-named configuration a call that avoids `UseNetwork` of a
network without endpoints keeps `activeURL` succeeding. -/
theorem activeURL_call {c : Client} {k : Call} (hw : c.cfg.WellNamed) (hk : k.Avoids c.cfg)
    (hu : ∃ u, c.activeURL = .ok u) : ∃ u, (c.call k).2.activeURL = .ok u := by
  have of_selects : ∀ {c' : Client}, Selects c' → ∃ u, c'.activeURL = .ok u :=
    fun ⟨_, _, r, _, h⟩ => ⟨r.url, h⟩
  cases k with
  | useNetwork name =>
    rcases hnet : c.cfg.networks name with _ | n
    · rcases useNetwork_cases c name with ⟨-, he⟩ | ⟨_, h, -⟩ | ⟨_, _, _, h, -⟩
      · simpa [Client.call, he] using hu
      all_goals simp [hnet] at h
    · exact of_selects (selects_useNetwork hw hnet (hk n hnet)).2
  | useRPC name =>
    rcases useRPC_cases c name with ⟨e, he⟩ | ⟨-, -, -, -, he⟩
    · simpa [Client.call, he] using hu
    · exact of_selects (selects_useRPC hw (by simp [he]))

/-- **Runs.** On a well-named configuration `activeURL` keeps succeeding over any run of
calls that avoids `UseNetwork` of a network without endpoints. -/
theorem activeURL_run {c : Client} {ks : List Call} (hw : c.cfg.WellNamed)
    (hks : ∀ k ∈ ks, k.Avoids c.cfg) (hu : ∃ u, c.activeURL = .ok u) :
    ∃ u, (c.run ks).activeURL = .ok u := by
  induction ks generalizing c with
  | nil => exact hu
  | cons k ks ih =>
    have hcfg : (c.call k).2.cfg.networks = c.cfg.networks := Client.call_networks c k
    refine ih (by simpa only [MultiConfig.WellNamed, hcfg] using hw) (fun k' hk' => ?_)
      (activeURL_call hw (hks k (List.mem_cons_self k ks)) hu)
    have := hks k' (List.mem_cons_of_mem k hk')
    cases k' with
    | useNetwork name => simpa only [Call.Avoids, hcfg] using this
    | useRPC name => trivial

/-! ## The state machine -/

/-- A failed `UseRPC` changes nothing. -/
theorem useRPC_error {c : Client} {rpcName : GoString} {e : ClientError}
    (h : (c.useRPC rpcName).1 = .error e) : (c.useRPC rpcName).2 = c := by
  rcases useRPC_cases c rpcName with ⟨_, he⟩ | ⟨_, _, _, _, he⟩ <;> rw [he] at h ⊢
  cases h

/-- **The selection state machine.** On a configuration that names no network and no
endpoint by the empty string: `UseRPC` fails and changes nothing, or selects a listed
endpoint; `UseNetwork` of an unknown network fails and changes nothing, and of a network
with endpoints succeeds and selects a listed endpoint; and `activeURL` keeps succeeding
over any run of calls that avoids `UseNetwork` of a network without endpoints. -/
theorem selection_state_machine {c : Client} (hw : c.cfg.WellNamed) :
    (∀ rpcName, (∀ e, (c.useRPC rpcName).1 = .error e → (c.useRPC rpcName).2 = c) ∧
      ((c.useRPC rpcName).1 = .ok () → Selects (c.useRPC rpcName).2)) ∧
    (∀ name, c.cfg.networks name = none →
      c.useNetwork name = (.error (.unknownNetwork name), c)) ∧
    (∀ name n, c.cfg.networks name = some n → n.rpcs ≠ [] →
      (c.useNetwork name).1 = .ok () ∧ Selects (c.useNetwork name).2) ∧
    (∀ ks : List Call, (∀ k ∈ ks, k.Avoids c.cfg) → (∃ u, c.activeURL = .ok u) →
      ∃ u, (c.run ks).activeURL = .ok u) :=
  ⟨fun _ => ⟨fun _ => useRPC_error, selects_useRPC hw⟩,
    fun _ h => by simp [Client.useNetwork, h],
    fun _ _ => selects_useNetwork hw, fun _ => activeURL_run hw⟩

/-- One network, `main`, with one endpoint `a`. -/
def mainNetworks (name : GoString) : Option NetworkConfig :=
  if name = lit "main" then some ⟨[⟨lit "a", lit "http://a"⟩]⟩ else none

/-- The client on `main` and `a`. -/
def mainClient : Client := ⟨⟨mainNetworks, lit "main", lit "a"⟩, none⟩

theorem selection_state_machine_main :
    (∀ rpcName, (∀ e, (mainClient.useRPC rpcName).1 = .error e →
        (mainClient.useRPC rpcName).2 = mainClient) ∧
      ((mainClient.useRPC rpcName).1 = .ok () → Selects (mainClient.useRPC rpcName).2)) ∧
    (∀ name, mainClient.cfg.networks name = none →
      mainClient.useNetwork name = (.error (.unknownNetwork name), mainClient)) ∧
    (∀ name n, mainClient.cfg.networks name = some n → n.rpcs ≠ [] →
      (mainClient.useNetwork name).1 = .ok () ∧ Selects (mainClient.useNetwork name).2) ∧
    (∀ ks : List Call, (∀ k ∈ ks, k.Avoids mainClient.cfg) →
      (∃ u, mainClient.activeURL = .ok u) → ∃ u, (mainClient.run ks).activeURL = .ok u) :=
  selection_state_machine fun name n h => by
    simp only [mainClient, mainNetworks] at h
    split_ifs at h with hm
    cases h
    subst hm
    exact ⟨by decide, by decide⟩

/-- Networks on which the selection breaks: `empty` has no endpoint, `blank` one with the
empty name, and one network has the empty name. -/
def edgeNetworks (name : GoString) : Option NetworkConfig :=
  if name = lit "main" then some ⟨[⟨lit "a", lit "http://a"⟩]⟩
  else if name = lit "empty" then some ⟨[]⟩
  else if name = lit "blank" then some ⟨[⟨[], lit "http://b"⟩]⟩
  else if name = [] then some ⟨[⟨lit "z", lit "http://z"⟩]⟩
  else none

/-- The client on `main` and `a` over `edgeNetworks`. -/
def edgeClient : Client := ⟨⟨edgeNetworks, lit "main", lit "a"⟩, none⟩

/-- From `main`/`a`, where `activeURL` succeeds: `UseNetwork("empty")` fails but leaves
`empty` active, and `activeURL` fails after it; `UseNetwork("blank")` and `UseNetwork("")`
succeed and leave a selection `activeURL` refuses. -/
theorem useNetwork_breaks_selection :
    edgeClient.activeURL = .ok (lit "http://a") ∧
      (edgeClient.useNetwork (lit "empty")).1 = .error (.noRPCs (lit "empty")) ∧
      (edgeClient.useNetwork (lit "empty")).2.activeNetwork = lit "empty" ∧
      (edgeClient.useNetwork (lit "empty")).2.activeURL =
        .error (.activeRPCNotFound (lit "a") (lit "empty")) ∧
      (edgeClient.useNetwork (lit "blank")).1 = .ok () ∧
      (edgeClient.useNetwork (lit "blank")).2.activeURL = .error (.activeRPCNotSet (lit "blank")) ∧
      (edgeClient.useNetwork []).1 = .ok () ∧
      (edgeClient.useNetwork []).2.activeURL = .error .activeNetworkNotSet := by
  decide

/-! ## Switching networks for one call

`WithNetwork` restores the previous selection from wherever the switch left it, by
`UseNetwork` and `UseRPC` of the previous names: that works whenever `activeURL`
succeeded before. It fails when the switch itself fails after changing the selection,
which `UseNetwork` does on a configured network without endpoints.
-/

@[simp] theorem Client.ensureBackend_cfg (c : Client) (d : Except GoString Unit) :
    (c.ensureBackend d).2.cfg = c.cfg := by
  unfold Client.ensureBackend
  split
  · rfl
  · split
    · rfl
    · split <;> rfl

theorem Client.useRPC_networks (c : Client) (rpcName : GoString) :
    (c.useRPC rpcName).2.cfg.networks = c.cfg.networks := by
  rcases useRPC_cases c rpcName with ⟨e, he⟩ | ⟨n, -, -, -, he⟩ <;> rw [he]; rfl

theorem Client.useNetwork_networks (c : Client) (name : GoString) :
    (c.useNetwork name).2.cfg.networks = c.cfg.networks := by
  rcases useNetwork_cases c name with ⟨-, he⟩ | ⟨n, -, -, he⟩ | ⟨n, first, rest, -, -, he⟩ <;>
    rw [he] <;> rfl

/-- What a successful `activeURL` says of the selection. -/
theorem activeURL_eq_ok {c : Client} {url : GoString} (h : c.activeURL = .ok url) :
    c.cfg.activeNetwork ≠ [] ∧ c.cfg.activeRPC ≠ [] ∧
      ∃ n, c.cfg.networks c.cfg.activeNetwork = some n ∧ hasRPC n.rpcs c.cfg.activeRPC = true := by
  unfold Client.activeURL at h
  by_cases hn : c.cfg.activeNetwork = []
  · rw [if_pos hn] at h; cases h
  rw [if_neg hn] at h
  rcases hnet : c.cfg.networks c.cfg.activeNetwork with _ | n <;> simp only [hnet] at h
  · cases h
  by_cases hr : c.cfg.activeRPC = []
  · rw [if_pos hr] at h; cases h
  rw [if_neg hr] at h
  rcases hfind : n.rpcs.find? (·.name == c.cfg.activeRPC) with _ | r <;> simp only [hfind] at h
  · cases h
  have hname := List.find?_some hfind
  exact ⟨hn, hr, n, rfl, List.any_eq_true.mpr ⟨r, List.mem_of_find?_eq_some hfind, hname⟩⟩

/-- The restore selects the previous network and RPC, from any client with the same
networks, when the previous network lists the previous RPC. -/
theorem restoreSelection_selects {c : Client} {prevNet prevRPC : GoString} {n : NetworkConfig}
    (hnet : c.cfg.networks prevNet = some n) (hn : prevNet ≠ []) (hr : prevRPC ≠ [])
    (hhas : hasRPC n.rpcs prevRPC = true) (d : Except GoString Unit) :
    (c.restoreSelection prevNet prevRPC d).cfg.activeNetwork = prevNet ∧
      (c.restoreSelection prevNet prevRPC d).cfg.activeRPC = prevRPC := by
  have hact : (c.useNetwork prevNet).2.cfg.activeNetwork = prevNet := by
    rcases useNetwork_cases c prevNet with ⟨h, -⟩ | ⟨n', -, -, he⟩ | ⟨n', first, rest, -, -, he⟩
    · simp [hnet] at h
    all_goals rw [he]; rfl
  have hnets := Client.useNetwork_networks c prevNet
  unfold Client.restoreSelection
  dsimp only
  rw [if_pos hr, Client.ensureBackend_cfg]
  generalize (c.useNetwork prevNet).2 = c₁ at hact hnets ⊢
  simp only [Client.useRPC, hact, hnets, hnet, if_neg hn, hhas, Bool.not_true,
    Bool.false_eq_true, if_false, Client.select_activeNetwork, Client.select_activeRPC, and_self]

/-- **`WithNetwork` restores the selection, except after a failed switch.** From any client
on which `activeURL` succeeds, for every target, outcome of `fn` and of the dials,
`WithNetwork` ends with the active network and RPC it started with exactly when the
target is not a configured network without endpoints. -/
theorem withNetwork_restores_iff {E : Type} {c : Client} {url : GoString}
    (hurl : c.activeURL = .ok url) (name : GoString) (fnResult : Except E Unit)
    (dial dialRestore : Except GoString Unit) :
    ((c.withNetwork name fnResult dial dialRestore).2.cfg.activeNetwork = c.cfg.activeNetwork ∧
      (c.withNetwork name fnResult dial dialRestore).2.cfg.activeRPC = c.cfg.activeRPC) ↔
      ∀ n, c.cfg.networks name = some n → n.rpcs ≠ [] := by
  obtain ⟨hn, hr, m, hm, hhas⟩ := activeURL_eq_ok hurl
  have hrestore : ∀ c' : Client, c'.cfg.networks = c.cfg.networks → ∀ d,
      (c'.restoreSelection c.cfg.activeNetwork c.cfg.activeRPC d).cfg.activeNetwork =
        c.cfg.activeNetwork ∧
      (c'.restoreSelection c.cfg.activeNetwork c.cfg.activeRPC d).cfg.activeRPC =
        c.cfg.activeRPC := fun c' h d => restoreSelection_selects (h ▸ hm) hn hr hhas d
  unfold Client.withNetwork
  rcases useNetwork_cases c name with ⟨hnone, he⟩ | ⟨n, hsome, hnil, he⟩ |
    ⟨n, first, rest, hsome, hcons, he⟩
  · rw [he]
    simp [hnone]
  · rw [he]
    simp only [Client.select_activeNetwork, Client.select_activeRPC, and_true]
    refine iff_of_false (fun h => ?_) (fun h => h n hsome hnil)
    subst h
    rw [hm] at hsome
    cases hsome
    simp [hnil, hasRPC] at hhas
  · obtain ⟨c₁, hc₁, hnets₁⟩ : ∃ c₁, c.useNetwork name = (.ok (), c₁) ∧
        c₁.cfg.networks = c.cfg.networks := ⟨_, he, rfl⟩
    refine iff_of_true ?_ (fun n' h => by rw [hsome] at h; cases h; simp [hcons])
    rw [hc₁]
    dsimp only
    have hnets₂ : (if c.activeRPC ≠ [] then (c₁.useRPC c.activeRPC).2 else c₁).cfg.networks =
        c.cfg.networks := by
      split_ifs
      · rw [Client.useRPC_networks, hnets₁]
      · exact hnets₁
    generalize (if c.activeRPC ≠ [] then (c₁.useRPC c.activeRPC).2 else c₁) = c₂ at hnets₂ ⊢
    have hnets₃ := Client.ensureBackend_cfg c₂ dial
    rcases hb : c₂.ensureBackend dial with ⟨_ | _, c₃⟩ <;> rw [hb] at hnets₃ <;>
      have h₃ : c₃.cfg.networks = c.cfg.networks := hnets₂ ▸ congrArg MultiConfig.networks hnets₃
    · exact hrestore c₃ h₃ dialRestore
    · rcases fnResult with _ | _ <;> exact hrestore c₃ h₃ dialRestore

/-- On `edgeClient`, `WithNetwork("empty")` fails in the switch and leaves `empty` active:
the target `empty` is configured without endpoints. -/
theorem withNetwork_empty :
    edgeClient.activeURL = .ok (lit "http://a") ∧
      (((edgeClient.withNetwork (E := Unit) (lit "empty") (.ok ()) (.ok ()) (.ok ())).2.cfg.activeNetwork =
          edgeClient.cfg.activeNetwork ∧
        (edgeClient.withNetwork (E := Unit) (lit "empty") (.ok ()) (.ok ()) (.ok ())).2.cfg.activeRPC =
          edgeClient.cfg.activeRPC) ↔
        ∀ n, edgeClient.cfg.networks (lit "empty") = some n → n.rpcs ≠ []) :=
  have h : edgeClient.activeURL = .ok (lit "http://a") := by decide
  ⟨h, withNetwork_restores_iff h (lit "empty") (.ok ()) (.ok ()) (.ok ())⟩

end QuantumGoUtils.Ethrpc
