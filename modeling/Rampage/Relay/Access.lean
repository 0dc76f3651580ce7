/-
Whom an owner's relay lets in, next to the controller whose manifest it asks for. `load_manifest` holds the lock of the
cache while it fetches, the controller goes on enrolling and revoking meanwhile, and a manifest is used until it is older
than the cache may be. A relay that starts serves nobody before `check_access` has loaded one.
`revoked_endpoint_is_refused` bounds how long a revoked device can still connect, and `enrolled_endpoints_are_listed`
says that the manifest a controller serves is one the relay accepts.
-/
import Rampage.Controller.Identities
import Rampage.Governor.Relay
import Rampage.Relay.Connections
import Mathlib

namespace Rampage.Relay

open Rampage.Protocol Rampage.Governor Rampage.Controller

/-! ## The controller's manifest -/

/-- The endpoints of the enrolled nodes and the controller's own. -/
def allowedEndpoints (endpointId : String) (s : AppState) : Finset String :=
  insert endpointId (s.nodes.values.map (·.publicKey)).toFinset

/-- `relay_access_manifest`. -/
def relayAccessManifest (x : ManifestCrates) (cfg : Config) (endpointId : String) (now : Int) (s : AppState) :
    Except Denial Protocol.RelayAccessManifestV1 :=
  signRelayAccessManifest x cfg.governorPublicKey
    { schema := RelayAccessManifestV1.schemaName
      fabricId := ""
      generation := s.fencingEpoch
      allowedEndpointIds := allowedEndpoints endpointId s
      issuedAt := now
      expiresAt := now + minutes 10
      signature := "" }

/-! ## The relay -/

/-- Where a relay gets the manifest: from the controller on this machine, or from a file. -/
inductive RelayAccessSourceV1
  | controllerLoopback
  | signedFile
deriving DecidableEq

/-- The manifest of the last fetch, and when that was. -/
structure CachedManifest where
  fetchedAt : Nat
  manifest : Protocol.RelayAccessManifestV1

/-- What a relay is configured with; durations are in nanoseconds. -/
structure RelayConfig where
  limits : SignedManifestAccess
  source : RelayAccessSourceV1
  governorPublicKey : String
  cacheDuration : Nat

/-- The timeout of the HTTP client. -/
def requestTimeout : Nat := 5000000000

/-- The cached manifest, if it is young enough and still verifies. -/
def freshManifest (x : ManifestCrates) (r : RelayConfig) (instant : Nat) (now : Int) (cache : Option CachedManifest) :
    Option Protocol.RelayAccessManifestV1 :=
  match cache with
  | none => none
  | some cached =>
    if instant - cached.fetchedAt < r.cacheDuration ∧
        verifyRelayAccessManifestWithKey x r.governorPublicKey now cached.manifest = .ok () then some cached.manifest
    else none

/-- How far a request is: the token is read, it was sent at an instant, or the controller has answered it. -/
inductive Progress
  | reading
  | sent (sentAt : Nat)
  | answered (sentAt : Nat) (manifest : Protocol.RelayAccessManifestV1)

/-- A request under way, for the connection of an endpoint, or for the `check_access` of a relay that starts. -/
structure Fetch where
  endpointId : Option String
  progress : Progress

/-- A relay and its controller. The task that fetches holds the lock of the cache. -/
structure Fabric where
  host : Host
  cache : Option CachedManifest
  fetch : Option Fetch
  active : ActiveConnections
  serving : Bool

/-- The relay is not started yet. -/
def Fabric.initial (epoch : Nat) (head : String → Except String ArtifactRefV1) : Fabric :=
  ⟨Controller.initial epoch head, none, none, .empty, false⟩

/-- What happens next at the controller, at the relay or between the two. -/
inductive Act
  /-- Anything the controller does, its restarts among it. -/
  | controller (op : Op)
  /-- `spawn_owner_relay`: a new process of the relay, which calls `check_access` first. -/
  | start
  /-- A connection takes the lock of the cache. -/
  | connect (endpointId : String)
  /-- The token is read and the request under way is sent. -/
  | send
  /-- The controller serves the request under way. -/
  | serve
  /-- The request ends, with the response or with what the file holds. -/
  | arrive (file : Option Protocol.RelayAccessManifestV1)
  /-- The request fails. -/
  | lose
  | disconnect (endpointId : String)

/-- An act, at an instant of the relay's clock and a reading of the wall clock. -/
structure Move where
  act : Act
  instant : Nat
  now : Int

/-- A connection's endpoint and what the relay decided. -/
abbrev Decision := String × Except String Unit

section

variable (x : ManifestCrates) (cfg : Config) (w : World) (endpointId : String) (r : RelayConfig)

/-- `on_connect`, once `load_manifest` has returned. -/
def decideConnection (endpointId : String) (manifest : Option Protocol.RelayAccessManifestV1) (f : Fabric) :
    Option Decision × Fabric :=
  let admitted := admitConnection r.limits (manifest.map fun m => ⟨m.allowedEndpointIds.sort (· ≤ ·)⟩) endpointId f.active
  (some (endpointId, admitted.1), { f with active := admitted.2 })

/-- What follows `load_manifest`: a connection is decided on, or the relay serves from now on if it has a manifest. -/
def answerFetch (endpointId : Option String) (manifest : Option Protocol.RelayAccessManifestV1) (f : Fabric) :
    Option Decision × Fabric :=
  match endpointId with
  | some endpoint => decideConnection r endpoint manifest f
  | none => (none, { f with serving := manifest.isSome })

/-- What the relay got by the end of a request. -/
def Fetch.received (r : RelayConfig) (fetch : Fetch) (instant : Nat) (file : Option Protocol.RelayAccessManifestV1) :
    Option Protocol.RelayAccessManifestV1 :=
  match r.source with
  | .controllerLoopback =>
    match fetch.progress with
    | .answered sentAt manifest => if instant - sentAt ≤ requestTimeout then some manifest else none
    | _ => none
  | .signedFile => file

/-- The end of `load_manifest`: the manifest is cached if it verifies. -/
def finishFetch (fetch : Fetch) (received : Option Protocol.RelayAccessManifestV1) (instant : Nat) (now : Int) (f : Fabric) :
    Option Decision × Fabric :=
  match received with
  | none => answerFetch r fetch.endpointId none { f with fetch := none }
  | some manifest =>
    if verifyRelayAccessManifestWithKey x r.governorPublicKey now manifest = .ok () then
      answerFetch r fetch.endpointId (some manifest) { f with cache := some ⟨instant, manifest⟩, fetch := none }
    else answerFetch r fetch.endpointId none { f with fetch := none }

/-- The request under way goes on. -/
def proceed (m : Move) (progress : Progress) (s : AppState) : Progress :=
  match m.act, progress with
  | .send, .reading => .sent m.instant
  | .serve, .sent sentAt =>
    match relayAccessManifest x cfg endpointId m.now s with
    | .ok manifest => .answered sentAt manifest
    | .error _ => .sent sentAt
  | _, progress => progress

/-- The cache is behind one lock: while a fetch is under way, no connection is decided. -/
def fabricStep (m : Move) (f : Fabric) : Option Decision × Fabric :=
  match m.act with
  | .controller op => (none, { f with host := (Controller.step cfg w op f.host).2 })
  | .start => (none, { f with cache := none, fetch := some ⟨none, .reading⟩, active := .empty, serving := false })
  | .connect endpoint =>
    if f.serving = false ∨ f.fetch.isSome then (none, f)
    else
      match freshManifest x r m.instant m.now f.cache with
      | some manifest => decideConnection r endpoint (some manifest) f
      | none => (none, { f with fetch := some ⟨some endpoint, .reading⟩ })
  | .send | .serve =>
    (none, { f with
      fetch := f.fetch.map fun fetch => { fetch with progress := proceed x cfg endpointId m fetch.progress f.host.toAppState } })
  | .arrive file =>
    match f.fetch with
    | none => (none, f)
    | some fetch => finishFetch x r fetch (fetch.received r m.instant file) m.instant m.now f
  | .lose =>
    match f.fetch with
    | none => (none, f)
    | some fetch => finishFetch x r fetch none m.instant m.now f
  | .disconnect endpoint => (none, { f with active := release endpoint f.active })

/-- The relay and the controller, in any order of their steps. -/
def fabricMachine : Machine Fabric Move (Option Decision) := ⟨fabricStep x cfg w endpointId r⟩

end

/-! ## Who is let in -/

section

variable {x : ManifestCrates} {cfg : Config} {w : World} {own : String} {r : RelayConfig} {f : Fabric} {key : String}

theorem listed_of_admitted {access : SignedManifestAccess} {manifest : Option RelayAccessManifestV1}
    {active : ActiveConnections} (h : (admitConnection access manifest key active).1 = .ok ()) :
    ∃ m, manifest = some m ∧ key ∈ m.allowedEndpointIds := by
  unfold admitConnection at h
  cases manifest with
  | none => cases h
  | some m =>
    refine ⟨m, rfl, ?_⟩
    dsimp only at h
    split at h
    · cases h
    · rename_i hlisted
      simpa using hlisted

/-- A decision changes the accounting alone, and lets an endpoint in that the manifest lists. -/
theorem decideConnection_cases (endpoint : String) (manifest : Option Protocol.RelayAccessManifestV1) (f : Fabric) :
    (∃ active, (decideConnection r endpoint manifest f).2 = { f with active := active }) ∧
      ((decideConnection r endpoint manifest f).1 = some (key, .ok ()) →
        endpoint = key ∧ ∃ m, manifest = some m ∧ key ∈ m.allowedEndpointIds) := by
  unfold decideConnection
  refine ⟨⟨_, rfl⟩, fun h => ?_⟩
  simp only [Option.some.injEq, Prod.mk.injEq] at h
  obtain ⟨rfl, hok⟩ := h
  obtain ⟨listed, hmanifest, hkey⟩ := listed_of_admitted hok
  obtain ⟨m, rfl, rfl⟩ := Option.map_eq_some_iff.1 hmanifest
  exact ⟨rfl, m, rfl, (Finset.mem_sort _).1 hkey⟩

/-- The same after a request, which may have been for a relay that starts. -/
theorem answerFetch_cases (endpoint : Option String) (manifest : Option Protocol.RelayAccessManifestV1) (f : Fabric) :
    (∃ active serving, (answerFetch r endpoint manifest f).2 = { f with active := active, serving := serving }) ∧
      ((answerFetch r endpoint manifest f).1 = some (key, .ok ()) → ∃ m, manifest = some m ∧ key ∈ m.allowedEndpointIds) := by
  unfold answerFetch
  cases endpoint with
  | none => exact ⟨⟨_, _, rfl⟩, fun hno => nomatch hno⟩
  | some endpoint =>
    obtain ⟨⟨active, hactive⟩, hin⟩ := @decideConnection_cases r key endpoint manifest f
    exact ⟨⟨active, f.serving, hactive⟩, fun hok => (hin hok).2⟩

/-- The end of a request: nothing was accepted and the connection is refused, or a manifest that verifies is cached. -/
theorem finishFetch_cases (fetch : Fetch) (received : Option Protocol.RelayAccessManifestV1) (instant : Nat) (now : Int) :
    (∃ active serving, (finishFetch x r fetch received instant now f).2 =
        { f with fetch := none, active := active, serving := serving } ∧
      (finishFetch x r fetch received instant now f).1 ≠ some (key, .ok ())) ∨
    ∃ manifest active serving, received = some manifest ∧
      verifyRelayAccessManifestWithKey x r.governorPublicKey now manifest = .ok () ∧
      (finishFetch x r fetch received instant now f).2 =
        { f with cache := some ⟨instant, manifest⟩, fetch := none, active := active, serving := serving } ∧
      ((finishFetch x r fetch received instant now f).1 = some (key, .ok ()) → key ∈ manifest.allowedEndpointIds) := by
  have hrefused : ∃ active serving, (answerFetch r fetch.endpointId none { f with fetch := none }).2 =
      { f with fetch := none, active := active, serving := serving } ∧
        (answerFetch r fetch.endpointId none { f with fetch := none }).1 ≠ some (key, .ok ()) := by
    obtain ⟨⟨active, serving, hafter⟩, hin⟩ := @answerFetch_cases r key fetch.endpointId none { f with fetch := none }
    refine ⟨active, serving, hafter, fun hok => ?_⟩
    obtain ⟨m, hm, -⟩ := hin hok
    cases hm
  unfold finishFetch
  cases received with
  | none => exact Or.inl hrefused
  | some manifest =>
    dsimp only
    split
    · rename_i hverify
      obtain ⟨⟨active, serving, hafter⟩, hin⟩ := @answerFetch_cases r key fetch.endpointId (some manifest)
        { f with cache := some ⟨instant, manifest⟩, fetch := none }
      refine Or.inr ⟨manifest, active, serving, rfl, hverify, hafter, fun hok => ?_⟩
      obtain ⟨m, hm, hkey⟩ := hin hok
      cases hm
      exact hkey
    · exact Or.inl hrefused

theorem freshManifest_some {instant : Nat} {now : Int} {cache : Option CachedManifest}
    {manifest : Protocol.RelayAccessManifestV1} (h : freshManifest x r instant now cache = some manifest) :
    ∃ fetchedAt, cache = some ⟨fetchedAt, manifest⟩ ∧ instant - fetchedAt < r.cacheDuration ∧
      verifyRelayAccessManifestWithKey x r.governorPublicKey now manifest = .ok () := by
  unfold freshManifest at h
  cases cache with
  | none => cases h
  | some cached =>
    dsimp only at h
    split at h
    · rename_i hfresh
      cases h
      exact ⟨cached.fetchedAt, rfl, hfresh⟩
    · cases h

/-! ## A revoked key -/

/-- A controller that knows no node with the key serves no manifest that lists it. -/
theorem not_listed_of_served {now : Int} {s : Host} (hgone : Identities (fun i => i.publicKey ≠ key) s) (hown : key ≠ own)
    {manifest : Protocol.RelayAccessManifestV1} (h : relayAccessManifest x cfg own now s.toAppState = .ok manifest) :
    key ∉ manifest.allowedEndpointIds := by
  have hlisted : manifest.allowedEndpointIds = allowedEndpoints own s.toAppState := by
    unfold relayAccessManifest at h
    cases hid : relayFabricId x cfg.governorPublicKey with
    | error e =>
      rw [signRelayAccessManifest, hid] at h
      cases h
    | ok fabricId =>
      rw [signRelayAccessManifest_ok hid] at h
      cases h
      rfl
  rw [hlisted]
  unfold allowedEndpoints
  rw [Finset.mem_insert, not_or]
  refine ⟨hown, fun hmem => ?_⟩
  obtain ⟨identity, hidentity, hkey⟩ := List.mem_map.1 (List.mem_toFinset.1 hmem)
  obtain ⟨nodeId, hlookup⟩ := (Table.mem_values _ _).1 hidentity
  exact hgone.stored nodeId identity hlookup hkey

/-- From the revocation on: the controller knows no node with the key, and what still lists it was asked for before. -/
structure Fading (key : String) (revokedAt : Nat) (f : Fabric) : Prop where
  gone : Identities (fun i => i.publicKey ≠ key) f.host
  cached : ∀ cached, f.cache = some cached → key ∈ cached.manifest.allowedEndpointIds →
    cached.fetchedAt ≤ revokedAt + requestTimeout
  fetching : ∀ fetch sentAt manifest, f.fetch = some fetch → fetch.progress = .answered sentAt manifest →
    key ∈ manifest.allowedEndpointIds → sentAt ≤ revokedAt

/-- An answer is there already, or the controller gives it now. -/
theorem proceed_answered {m : Move} {progress : Progress} {s : AppState} {sentAt : Nat}
    {manifest : Protocol.RelayAccessManifestV1} (h : proceed x cfg own m progress s = .answered sentAt manifest) :
    progress = .answered sentAt manifest ∨
      progress = .sent sentAt ∧ relayAccessManifest x cfg own m.now s = .ok manifest := by
  unfold proceed at h
  split at h
  · cases h
  · split at h
    · rename_i hserved
      cases h
      exact Or.inr ⟨rfl, hserved⟩
    · cases h
  · exact Or.inl h

/-- The request under way goes on after the revocation: an answer that the controller gives now does not list the key. -/
theorem Fading.proceed (h : Fading key revokedAt f) (hown : key ≠ own) (m : Move) : Fading key revokedAt { f with
    fetch := f.fetch.map fun fetch => { fetch with progress := proceed x cfg own m fetch.progress f.host.toAppState } } := by
  refine ⟨h.gone, h.cached, ?_⟩
  intro fetch sentAt manifest hfetch hanswered hkey
  obtain ⟨before, hbefore, rfl⟩ := Option.map_eq_some_iff.1 hfetch
  rcases proceed_answered hanswered with hold | ⟨-, hserved⟩
  · exact h.fetching before sentAt manifest hbefore hold hkey
  · exact absurd hkey (not_listed_of_served h.gone hown hserved)

/-- A request that begins after the revocation has no answer yet. -/
theorem Fading.opened {revokedAt : Nat} (h : Fading key revokedAt f) {cache : Option CachedManifest}
    (hcache : ∀ cached, cache = some cached → key ∈ cached.manifest.allowedEndpointIds →
      cached.fetchedAt ≤ revokedAt + requestTimeout) (endpoint : Option String) (active : ActiveConnections) (serving : Bool) :
    Fading key revokedAt ⟨f.host, cache, some ⟨endpoint, .reading⟩, active, serving⟩ := by
  refine ⟨h.gone, hcache, ?_⟩
  rintro fetch sentAt manifest hnew hanswered -
  cases hnew
  cases hanswered

/-- What a request still brings after the revocation it brings in time: it was sent before. -/
theorem Fading.received {revokedAt : Nat} (h : Fading key revokedAt f) (hloop : r.source = .controllerLoopback) {fetch : Fetch}
    (hfetch : f.fetch = some fetch) {instant : Nat} {file : Option Protocol.RelayAccessManifestV1}
    {manifest : Protocol.RelayAccessManifestV1} (hreceived : fetch.received r instant file = some manifest)
    (hkey : key ∈ manifest.allowedEndpointIds) : instant ≤ revokedAt + requestTimeout := by
  unfold Fetch.received at hreceived
  rw [hloop] at hreceived
  dsimp only at hreceived
  split at hreceived
  · rename_i sentAt answered hanswered
    split at hreceived
    · cases hreceived
      have hsent := h.fetching fetch sentAt manifest hfetch hanswered hkey
      omega
    · cases hreceived
  · cases hreceived

/-- The end of a request after the revocation, if what it brings comes in time. -/
theorem Fading.finish {revokedAt : Nat} (h : Fading key revokedAt f) (hpositive : 0 < r.cacheDuration) (fetch : Fetch)
    {received : Option Protocol.RelayAccessManifestV1} {instant : Nat} (now : Int)
    (hold : ∀ manifest, received = some manifest → key ∈ manifest.allowedEndpointIds → instant ≤ revokedAt + requestTimeout) :
    Fading key revokedAt (finishFetch x r fetch received instant now f).2 ∧
      ((finishFetch x r fetch received instant now f).1 = some (key, .ok ()) →
        instant < revokedAt + requestTimeout + r.cacheDuration) := by
  rcases @finishFetch_cases x r f key fetch received instant now with
    ⟨active, serving, hafter, hrefused⟩ | ⟨manifest, active, serving, hreceived, -, hafter, hin⟩
  · rw [hafter]
    exact ⟨⟨h.gone, h.cached, fun _ _ _ hno => nomatch hno⟩, fun hok => absurd hok hrefused⟩
  · rw [hafter]
    refine ⟨⟨h.gone, ?_, fun _ _ _ hno => nomatch hno⟩, fun hok => ?_⟩
    · rintro cached hcached hkey
      cases hcached
      exact hold manifest hreceived hkey
    · have htime := hold manifest hreceived (hin hok)
      omega

/-- One step after the revocation: the key keeps fading, and what lets it in is soon over. -/
theorem fading_step {revokedAt : Nat} (hloop : r.source = .controllerLoopback) (hown : key ≠ own) (h : Fading key revokedAt f)
    (m : Move) (henroll : ∀ request, m.act = .controller (.enrollNode request) → request.identity.publicKey ≠ key)
    (hpositive : 0 < r.cacheDuration) :
    Fading key revokedAt (fabricStep x cfg w own r m f).2 ∧
      ((fabricStep x cfg w own r m f).1 = some (key, .ok ()) →
        m.instant < revokedAt + requestTimeout + r.cacheDuration) := by
  obtain ⟨act, instant, now⟩ := m
  cases act with
  | controller op =>
    refine ⟨⟨identities_step h.gone fun request hop _ => ?_, h.cached, h.fetching⟩, fun hno => nomatch hno⟩
    subst hop
    exact henroll request rfl
  | start => exact ⟨h.opened (fun _ hno => by cases hno) _ _ _, fun hno => nomatch hno⟩
  | connect endpoint =>
    unfold fabricStep
    dsimp only
    split
    · exact ⟨h, fun hno => nomatch hno⟩
    cases hfresh : freshManifest x r instant now f.cache with
    | none => exact ⟨h.opened h.cached _ _ _, fun hno => nomatch hno⟩
    | some manifest =>
      obtain ⟨fetchedAt, hcache, hage, -⟩ := freshManifest_some hfresh
      obtain ⟨⟨active, hactive⟩, hin⟩ := @decideConnection_cases r key endpoint (some manifest) f
      dsimp only
      rw [hactive]
      refine ⟨⟨h.gone, h.cached, h.fetching⟩, fun hok => ?_⟩
      -- the cached manifest lists the key, so it was fetched soon after the revocation
      obtain ⟨-, listed, hlisted, hkey⟩ := hin hok
      cases hlisted
      have hfetched := h.cached _ hcache hkey
      dsimp only at hfetched
      omega
  | send => exact ⟨h.proceed hown _, fun hno => nomatch hno⟩
  | serve => exact ⟨h.proceed hown _, fun hno => nomatch hno⟩
  | arrive file =>
    unfold fabricStep
    dsimp only
    cases hfetch : f.fetch with
    | none => exact ⟨h, fun hno => nomatch hno⟩
    | some fetch => exact h.finish hpositive fetch now fun manifest hreceived hkey => h.received hloop hfetch hreceived hkey
  | lose =>
    unfold fabricStep
    dsimp only
    cases hfetch : f.fetch with
    | none => exact ⟨h, fun hno => nomatch hno⟩
    | some fetch => exact h.finish hpositive fetch now fun _ hno => nomatch hno
  | disconnect endpoint => exact ⟨⟨h.gone, h.cached, h.fetching⟩, fun hno => nomatch hno⟩

theorem fading_run {revokedAt : Nat} (hloop : r.source = .controllerLoopback) (hown : key ≠ own)
    (hpositive : 0 < r.cacheDuration) : ∀ (moves : List Move) {f : Fabric}, Fading key revokedAt f →
    (∀ m ∈ moves, ∀ request, m.act = .controller (.enrollNode request) → request.identity.publicKey ≠ key) →
    ∀ m, (m, some (key, .ok ())) ∈ (fabricMachine x cfg w own r).trace moves f →
      m.instant < revokedAt + requestTimeout + r.cacheDuration
  | [], _, _, _, _, hm => nomatch hm
  | move :: moves, f, h, henroll, m, hm => by
    obtain ⟨hnext, hin⟩ := @fading_step x cfg w own r f key revokedAt hloop hown h move
      (henroll move (List.mem_cons_self ..)) hpositive
    rcases List.mem_cons.1 hm with heq | hm
    · obtain ⟨rfl, hstep⟩ := Prod.mk.inj heq
      exact hin hstep.symm
    · exact fading_run hloop hown hpositive moves hnext (fun m' hm' => henroll m' (List.mem_cons_of_mem _ hm')) m hm

/-! ## Instants of the state -/

/-- What the relay has stamped, it has stamped by then. -/
structure Stamped (instant : Nat) (f : Fabric) : Prop where
  cached : ∀ cached, f.cache = some cached → cached.fetchedAt ≤ instant
  sending : ∀ fetch sentAt, f.fetch = some fetch → fetch.progress = .sent sentAt → sentAt ≤ instant
  answered : ∀ fetch sentAt manifest, f.fetch = some fetch → fetch.progress = .answered sentAt manifest → sentAt ≤ instant

theorem Stamped.proceed {instant : Nat} (h : Stamped instant f) (m : Move) (hm : m.instant ≤ instant) : Stamped instant { f with
    fetch := f.fetch.map fun fetch => { fetch with progress := proceed x cfg own m fetch.progress f.host.toAppState } } := by
  refine ⟨h.cached, ?_, ?_⟩
  · intro fetch sentAt hfetch hsent
    obtain ⟨before, hbefore, rfl⟩ := Option.map_eq_some_iff.1 hfetch
    dsimp only at hsent
    unfold Relay.proceed at hsent
    split at hsent
    · cases hsent
      exact hm
    · rename_i _ hprogress
      split at hsent
      · cases hsent
      · cases hsent
        exact h.sending before sentAt hbefore hprogress
    · exact h.sending before sentAt hbefore hsent
  · intro fetch sentAt manifest hfetch hanswered
    obtain ⟨before, hbefore, rfl⟩ := Option.map_eq_some_iff.1 hfetch
    rcases proceed_answered hanswered with hold | ⟨hsent, -⟩
    · exact h.answered before sentAt manifest hbefore hold
    · exact h.sending before sentAt hbefore hsent

/-- A request that begins has sent nothing. -/
theorem stamped_opened {instant : Nat} {cache : Option CachedManifest}
    (hcache : ∀ cached, cache = some cached → cached.fetchedAt ≤ instant) (host : Host) (endpoint : Option String)
    (active : ActiveConnections) (serving : Bool) :
    Stamped instant ⟨host, cache, some ⟨endpoint, .reading⟩, active, serving⟩ := by
  refine ⟨hcache, ?_, ?_⟩
  · rintro fetch sentAt hnew hsent
    cases hnew
    cases hsent
  · rintro fetch sentAt manifest hnew hanswered
    cases hnew
    cases hanswered

/-- What a request brings is stamped as it ends. -/
theorem Stamped.finish {instant : Nat} (h : Stamped instant f) (fetch : Fetch)
    (received : Option Protocol.RelayAccessManifestV1) {now : Nat} (hnow : now ≤ instant) (reading : Int) :
    Stamped instant (finishFetch x r fetch received now reading f).2 := by
  rcases @finishFetch_cases x r f "" fetch received now reading with
    ⟨active, serving, hafter, -⟩ | ⟨manifest, active, serving, -, -, hafter, -⟩
  · rw [hafter]
    exact ⟨h.cached, fun _ _ hno => (nomatch hno), fun _ _ _ hno => nomatch hno⟩
  · rw [hafter]
    refine ⟨?_, fun _ _ hno => (nomatch hno), fun _ _ _ hno => nomatch hno⟩
    rintro cached hcached
    cases hcached
    exact hnow

theorem stamped_step {instant : Nat} (h : Stamped instant f) (m : Move) (hm : m.instant ≤ instant) :
    Stamped instant (fabricStep x cfg w own r m f).2 := by
  unfold fabricStep
  cases m.act with
  | controller op => exact ⟨h.cached, h.sending, h.answered⟩
  | start => exact stamped_opened (fun _ hno => by cases hno) _ _ _ _
  | connect endpoint =>
    dsimp only
    split
    · exact h
    split
    · rename_i manifest _
      obtain ⟨⟨active, hactive⟩, -⟩ := @decideConnection_cases r own endpoint (some manifest) f
      rw [hactive]
      exact ⟨h.cached, h.sending, h.answered⟩
    · exact stamped_opened h.cached _ _ _ _
  | send => exact h.proceed m hm
  | serve => exact h.proceed m hm
  | arrive file =>
    dsimp only
    split
    · exact h
    · exact h.finish _ _ hm _
  | lose =>
    dsimp only
    split
    · exact h
    · exact h.finish _ _ hm _
  | disconnect endpoint => exact ⟨h.cached, h.sending, h.answered⟩

theorem stamped_exec {instant : Nat} (moves : List Move) (hmoves : ∀ m ∈ moves, m.instant ≤ instant) (epoch : Nat)
    (head : String → Except String ArtifactRefV1) :
    Stamped instant ((fabricMachine x cfg w own r).exec moves (.initial epoch head)) := by
  refine Machine.state_invariant (C := fun _ m => m.instant ≤ instant) (I := Stamped instant) _
    (fun f m h hm => stamped_step h m hm) moves ?_ ?_
  · exact ⟨fun _ hno => (nomatch hno), fun _ _ hno => (nomatch hno), fun _ _ _ hno => (nomatch hno)⟩
  · refine Machine.meets_of_splits fun before m after hsplit => hmoves m ?_
    rw [hsplit]
    exact List.mem_append_right _ (List.mem_cons_self ..)

/-! ## What lets a connection in -/

/-- A manifest that verifies was issued at most a quarter of an hour before. -/
theorem issued_of_verified {governorPublicKey : String} {now : Int} {manifest : Protocol.RelayAccessManifestV1}
    (h : verifyRelayAccessManifestWithKey x governorPublicKey now manifest = .ok ()) :
    manifest.issuedAt ≤ now ∧ now < manifest.issuedAt + minutes 15 := by
  have hvalid := isValidAt_of_verify h
  simp only [RelayAccessManifestV1.isValidAt, Bool.and_eq_true, decide_eq_true_eq] at hvalid
  obtain ⟨⟨⟨⟨-, hissued⟩, hexpires⟩, hlifetime⟩, -⟩ := hvalid
  exact ⟨hissued, by omega⟩

/-- The manifest that a request brings lets an endpoint in if it verifies. -/
theorem verified_of_finish {fetch : Fetch} {received : Option Protocol.RelayAccessManifestV1} {instant : Nat} {now : Int}
    (h : (finishFetch x r fetch received instant now f).1 = some (key, .ok ())) : ∃ manifest,
      key ∈ manifest.allowedEndpointIds ∧ verifyRelayAccessManifestWithKey x r.governorPublicKey now manifest = .ok () := by
  rcases @finishFetch_cases x r f key fetch received instant now with
    ⟨-, -, -, hrefused⟩ | ⟨manifest, -, -, -, hverify, -, hin⟩
  · exact absurd h hrefused
  · exact ⟨manifest, hin h, hverify⟩

/-- A step that lets an endpoint in has a manifest that lists it and verifies now: cached before, or just fetched. -/
theorem verified_of_admitted {m : Move} (h : (fabricStep x cfg w own r m f).1 = some (key, .ok ())) : ∃ manifest,
    key ∈ manifest.allowedEndpointIds ∧ verifyRelayAccessManifestWithKey x r.governorPublicKey m.now manifest = .ok () := by
  obtain ⟨act, instant, now⟩ := m
  unfold fabricStep at h
  cases act with
  | controller op => cases h
  | start => cases h
  | connect endpoint =>
    dsimp only at h
    split at h
    · cases h
    split at h
    · rename_i manifest hfresh
      obtain ⟨-, -, -, hverify⟩ := freshManifest_some hfresh
      obtain ⟨-, hin⟩ := @decideConnection_cases r key endpoint (some manifest) f
      obtain ⟨-, listed, hlisted, hkey⟩ := hin h
      cases hlisted
      exact ⟨manifest, hkey, hverify⟩
    · cases h
  | send => cases h
  | serve => cases h
  | arrive file =>
    dsimp only at h
    split at h
    · cases h
    · exact verified_of_finish h
  | lose =>
    dsimp only at h
    split at h
    · cases h
    · exact verified_of_finish h
  | disconnect endpoint => cases h

end

/-- Once a revocation is answered, the key of the node that alone had it lets no connection in any more, after the time
of a request and of the cache: whatever else the controller and a relay that asks it do, in whatever order, restarts of
both, lost requests and failed writes included, unless a node enrols with the key again. -/
theorem revoked_endpoint_is_refused (x : ManifestCrates) (cfg : Config) (w : World) (own : String) (r : RelayConfig)
    (hloop : r.source = .controllerLoopback) (hpositive : 0 < r.cacheDuration) (epoch : Nat)
    (head : String → Except String ArtifactRefV1) (before after : List Move) (nodeId : Uuid) (confirmed : Bool)
    (revokedAt : Nat) (now : Int) (key : String) (hown : key ≠ own) (hclock : ∀ m ∈ before, m.instant ≤ revokedAt)
    (hbound : BoundOnlyTo nodeId key ((fabricMachine x cfg w own r).exec before (.initial epoch head)).host)
    (hrevoked : (revokeNode w nodeId confirmed ((fabricMachine x cfg w own r).exec before (.initial epoch head)).host).1 =
      .ok ())
    (henroll : ∀ m ∈ after, ∀ request, m.act = .controller (.enrollNode request) → request.identity.publicKey ≠ key) :
    ∀ m, (m, some (key, .ok ())) ∈ (fabricMachine x cfg w own r).trace after
        ((fabricMachine x cfg w own r).exec (before ++ [⟨.controller (.revokeNode nodeId confirmed), revokedAt, now⟩])
          (.initial epoch head)) →
      m.instant < revokedAt + requestTimeout + r.cacheDuration := by
  have hstamped := @stamped_exec x cfg w own r revokedAt before hclock epoch head
  refine fading_run hloop hown hpositive after ?_ henroll
  rw [Machine.exec_append]
  refine ⟨gone_of_revoked hbound hrevoked, fun cached hcached _ => ?_,
    fun fetch sentAt manifest hfetch hanswered _ => hstamped.answered fetch sentAt manifest hfetch hanswered⟩
  exact Nat.le_trans (hstamped.cached cached hcached) (Nat.le_add_right _ _)

/-- In every run, from either source, an endpoint is let in under a manifest that lists it and verifies at that time, so
that it was issued at most a quarter of an hour before. -/
theorem admission_is_verified (x : ManifestCrates) (cfg : Config) (w : World) (own : String) (r : RelayConfig) (f : Fabric)
    (moves : List Move) (m : Move) (key : String)
    (hm : (m, some (key, .ok ())) ∈ (fabricMachine x cfg w own r).trace moves f) :
    ∃ manifest, key ∈ manifest.allowedEndpointIds ∧
      verifyRelayAccessManifestWithKey x r.governorPublicKey m.now manifest = .ok () ∧
      manifest.issuedAt ≤ m.now ∧ m.now < manifest.issuedAt + minutes 15 := by
  obtain ⟨before, -, -, hstep⟩ := Machine.mem_trace _ hm
  obtain ⟨manifest, hkey, hverify⟩ := verified_of_admitted hstep.symm
  obtain ⟨hissued, hrecent⟩ := issued_of_verified hverify
  exact ⟨manifest, hkey, hverify, hissued, hrecent⟩

namespace Scenario

open Controller.Scenario

/-- The example's primitives: every signature passes. -/
def crates : ManifestCrates where
  sha256 := fun _ => List.Vector.replicate 32 0
  signManifest := fun _ => List.Vector.replicate 64 0
  verifyManifest := fun _ _ _ => true

/-- A Governor with a key. -/
def governed : Config :=
  { config with governorPublicKey := "2222222222222222222222222222222222222222222222222222222222222222" }

/-- The endpoint of the controller. -/
def controllerEndpoint : String := "3333333333333333333333333333333333333333333333333333333333333333"

/-- A relay that asks the controller on its own machine. -/
def relay : RelayConfig where
  limits := ⟨8, 1024⟩
  source := .controllerLoopback
  governorPublicKey := governed.governorPublicKey
  cacheDuration := 5000000000

/-- A device enrols, the relay starts and the device connects: the relay has asked the controller, which lists the device. -/
def connected : List Move :=
  [⟨.controller .createInvite, 0, 0⟩, ⟨.controller (.enrollNode enrollment), 0, 0⟩, ⟨.start, 1, 0⟩, ⟨.send, 1, 0⟩, ⟨.serve, 2, 0⟩,
    ⟨.arrive none, 3, 0⟩, ⟨.connect identity.publicKey, 4, 0⟩]

end Scenario

/-- Ten seconds after its revocation a device that was connected is refused. -/
theorem revoked_endpoint_is_refused_after_ten_seconds :
    (⟨.connect Scenario.identity.publicKey, 10000000004, 0⟩, some (Scenario.identity.publicKey, .ok ())) ∉
      (fabricMachine Scenario.crates Scenario.governed Scenario.world Scenario.controllerEndpoint Scenario.relay).trace
        [⟨.connect Scenario.identity.publicKey, 10000000004, 0⟩]
        ((fabricMachine Scenario.crates Scenario.governed Scenario.world Scenario.controllerEndpoint Scenario.relay).exec
          (Scenario.connected ++ [⟨.controller (.revokeNode 77 true), 4, 0⟩]) (.initial 1 fun _ => .error "missing")) := by
  intro h
  have hlate := revoked_endpoint_is_refused Scenario.crates Scenario.governed Scenario.world Scenario.controllerEndpoint
    Scenario.relay rfl (by decide) 1 (fun _ => .error "missing") Scenario.connected _ 77 true 4 0
    Scenario.identity.publicKey (by decide) (by decide) ?_ (by decide +kernel) (by simp) _ h
  · revert hlate
    decide
  · have hnodes : ((fabricMachine Scenario.crates Scenario.governed Scenario.world Scenario.controllerEndpoint
        Scenario.relay).exec Scenario.connected (.initial 1 fun _ => .error "missing")).host.nodes =
        (∅ : Table Uuid NodeIdentityV1).insert 77 Scenario.identity := AList.ext (by decide +kernel)
    have hrecorded : recordedNodes ((fabricMachine Scenario.crates Scenario.governed Scenario.world
        Scenario.controllerEndpoint Scenario.relay).exec Scenario.connected (.initial 1 fun _ => .error "missing")).host.ledger =
        (∅ : Table Uuid NodeIdentityV1).insert 77 Scenario.identity := AList.ext (by decide +kernel)
    rintro m identity hlookup -
    rw [hnodes, hrecorded, or_self, Table.lookup_insert'] at hlookup
    by_contra hne
    rw [if_neg hne] at hlookup
    simp at hlookup

/-! ## What the controller serves -/

section

variable {x : ManifestCrates} {cfg : Config} {w : World} {own : String}

theorem isEndpointId_of_enrolled {identity : NodeIdentityV1} (h : identity.isValidForEnrollment = true) :
    isEndpointId identity.publicKey = true := by
  simp only [NodeIdentityV1.isValidForEnrollment, Bool.and_eq_true] at h
  unfold isEndpointId
  rw [Bool.and_eq_true]
  exact ⟨h.1.1.2, h.1.2⟩

theorem isValidForEnrollment_of_verify {request : EnrollmentRequestV1} (h : verifyEnrollment cfg request = .ok ()) :
    request.identity.isValidForEnrollment = true := by
  unfold verifyEnrollment at h
  split at h
  · cases h
  · rename_i hno
    simp only [not_or] at hno
    simpa using hno.2.2.2.2

/-- Every identity a controller keeps is one that may enrol. -/
theorem enrollable_exec (epoch : Nat) (head : String → Except String ArtifactRefV1) (ops : List Op) :
    Identities (fun i => i.isValidForEnrollment = true) ((machine cfg w).exec ops (initial epoch head)) := by
  refine Machine.state_invariant (C := fun _ _ => True) (I := Identities fun i => i.isValidForEnrollment = true) _
    (fun s op h _ => ?_) ops (identities_initial epoch head) (Machine.meets_of_forall _ (fun _ _ => trivial) _ _)
  exact identities_step h fun request _ hverify => isValidForEnrollment_of_verify hverify

theorem fencingEpoch_exec {epoch : Nat} (hepoch : 0 < epoch) (head : String → Except String ArtifactRefV1) (ops : List Op) :
    0 < ((machine cfg w).exec ops (initial epoch head)).fencingEpoch := by
  refine Machine.state_invariant (C := fun _ _ => True) (I := fun s : Host => 0 < s.fencingEpoch) _
    (fun s op h _ => ?_) ops hepoch (Machine.meets_of_forall _ (fun _ _ => trivial) _ _)
  exact Nat.lt_of_lt_of_le h (step_change op s).fencingEpoch

theorem mem_allowedEndpoints {s : AppState} {key : String} : key ∈ allowedEndpoints own s ↔
    key = own ∨ ∃ nodeId identity, s.nodes.lookup nodeId = some identity ∧ identity.publicKey = key := by
  unfold allowedEndpoints
  rw [Finset.mem_insert, List.mem_toFinset, List.mem_map]
  refine or_congr Iff.rfl ⟨?_, ?_⟩
  · rintro ⟨identity, hidentity, hkey⟩
    obtain ⟨nodeId, hlookup⟩ := (Table.mem_values _ _).1 hidentity
    exact ⟨nodeId, identity, hlookup, hkey⟩
  · rintro ⟨nodeId, identity, hlookup, hkey⟩
    exact ⟨identity, (Table.mem_values _ _).2 ⟨nodeId, hlookup⟩, hkey⟩

end

/-- A controller serves, after every run, a manifest of exactly the enrolled endpoints and its own; the relay accepts it
for ten minutes if it lists no more endpoints than a manifest may, and at no time otherwise. -/
theorem enrolled_endpoints_are_listed (x : ManifestCrates) (cfg : Config) (w : World) (own : String)
    (hown : isEndpointId own = true) (fabricId : String) (hkey : relayFabricId x cfg.governorPublicKey = .ok fabricId)
    (hsign : x.VerifiesOwn cfg.governorPublicKey) (epoch : Nat) (hepoch : 0 < epoch)
    (head : String → Except String ArtifactRefV1) (ops : List Op) (now : Int) :
    ∃ m, relayAccessManifest x cfg own now ((machine cfg w).exec ops (initial epoch head)).toAppState = .ok m ∧
      (∀ key, key ∈ m.allowedEndpointIds ↔ key = own ∨ ∃ nodeId identity,
        ((machine cfg w).exec ops (initial epoch head)).nodes.lookup nodeId = some identity ∧ identity.publicKey = key) ∧
      (∀ t, now ≤ t → t < now + minutes 10 →
        (verifyRelayAccessManifestWithKey x cfg.governorPublicKey t m = .ok () ↔
          m.allowedEndpointIds.card ≤ maxRelayEndpoints)) ∧
      ∀ t, now + minutes 10 ≤ t → verifyRelayAccessManifestWithKey x cfg.governorPublicKey t m ≠ .ok () := by
  have hids := @enrollable_exec cfg w epoch head ops
  have hpositive := @fencingEpoch_exec cfg w epoch hepoch head ops
  generalize (machine cfg w).exec ops (initial epoch head) = s at hids hpositive
  have hsigned := @signRelayAccessManifest_ok x cfg.governorPublicKey
    { schema := RelayAccessManifestV1.schemaName
      fabricId := ""
      generation := s.fencingEpoch
      allowedEndpointIds := allowedEndpoints own s.toAppState
      issuedAt := now
      expiresAt := now + minutes 10
      signature := "" } fabricId hkey
  refine ⟨_, hsigned, fun key => mem_allowedEndpoints, ?_, ?_⟩
  · intro t hfrom huntil
    constructor
    · intro hverify
      have hvalid := isValidAt_of_verify hverify
      simp only [RelayAccessManifestV1.isValidAt, Bool.and_eq_true, decide_eq_true_eq] at hvalid
      exact hvalid.1.1.1.1.1.2
    · intro hcard
      refine verify_signed hsign hsigned ?_
      -- an identity that was enrolled has an endpoint id for its key
      have hall : ∀ endpoint ∈ allowedEndpoints own s.toAppState, isEndpointId endpoint = true := by
        intro endpoint hmem
        rcases mem_allowedEndpoints.1 hmem with rfl | ⟨nodeId, identity, hlookup, rfl⟩
        · exact hown
        · exact isEndpointId_of_enrolled (hids.stored nodeId identity hlookup)
      have hsome : allowedEndpoints own s.toAppState ≠ ∅ :=
        Finset.ne_empty_of_mem (mem_allowedEndpoints.2 (Or.inl rfl))
      have hsignature : ∀ m, Hex.encode (x.signManifest m).1 ≠ "" := fun m => encode_ne_empty (x.signManifest m).2
      have hlifetime : now + minutes 10 - now ≤ minutes 15 := by
        unfold minutes seconds
        omega
      simp only [RelayAccessManifestV1.isValidAt, Bool.and_eq_true, decide_eq_true_eq, beq_iff_eq, bne_iff_ne]
      exact ⟨⟨⟨⟨⟨⟨⟨⟨⟨trivial, isSha256Digest_relayFabricId hkey⟩, hpositive⟩, hsome⟩, hcard⟩, hall⟩, hfrom⟩, huntil⟩,
        hlifetime⟩, hsignature _⟩
  · intro t hlate hverify
    have hvalid := isValidAt_of_verify hverify
    simp only [RelayAccessManifestV1.isValidAt, Bool.and_eq_true, decide_eq_true_eq] at hvalid
    exact absurd hvalid.1.1.2 (not_lt.2 hlate)

theorem enrolled_endpoints_are_listed_one_node : ∃ m,
    relayAccessManifest Scenario.crates Scenario.governed Scenario.controllerEndpoint 0
      ((machine Scenario.governed Scenario.world).exec [.createInvite, .enrollNode Scenario.enrollment]
        (initial 1 fun _ => .error "missing")).toAppState = .ok m ∧
      verifyRelayAccessManifestWithKey Scenario.crates Scenario.governed.governorPublicKey (minutes 9) m = .ok () := by
  obtain ⟨m, hserved, hlisted, hverifies, -⟩ := enrolled_endpoints_are_listed Scenario.crates Scenario.governed Scenario.world
    Scenario.controllerEndpoint (by decide) (String.ofList (digestPrefix ++ Hex.digits (List.replicate 32 0))) (by decide)
    (fun _ => rfl) 1 Nat.one_pos (fun _ => .error "missing") [.createInvite, .enrollNode Scenario.enrollment] 0
  refine ⟨m, hserved, (hverifies (minutes 9) (by decide) (by decide)).2 ?_⟩
  -- the two endpoints it lists are those of the node and of the controller
  have hsub : m.allowedEndpointIds ⊆ {Scenario.controllerEndpoint, Scenario.identity.publicKey} := by
    intro key hkey
    rw [Finset.mem_insert, Finset.mem_singleton]
    refine ((hlisted key).1 hkey).imp id ?_
    rintro ⟨nodeId, identity, hlookup, rfl⟩
    have hnodes : ((machine Scenario.governed Scenario.world).exec [.createInvite, .enrollNode Scenario.enrollment]
        (initial 1 fun _ => .error "missing")).nodes = (∅ : Table Uuid NodeIdentityV1).insert 77 Scenario.identity :=
      AList.ext (by decide +kernel)
    rw [hnodes, Table.lookup_insert'] at hlookup
    split at hlookup
    · cases hlookup
      rfl
    · simp at hlookup
  exact Nat.le_trans (Finset.card_le_card hsub) (Nat.le_trans Finset.card_le_two (by decide))

end Rampage.Relay
