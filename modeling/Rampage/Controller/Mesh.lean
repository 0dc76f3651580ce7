/-
The mesh gateway. A remote worker reaches the controller through an authenticated stream: `process_mesh_control`
authorizes a request under the peer's transport key and forwards it to the controller's own HTTP server, with the
owner's token. The gateway reads the node id from the path or the body, and the handler reads it again from the URL
and the bytes it is sent. `mesh_serves_peer` says that what is forwarded reaches one of six handlers and acts for the
peer. The crates both readings rely on are a parameter with their documented laws. The record of a denied request and
the answer of the local server are not modelled.
-/
import Rampage.Controller.Binding
import Rampage.Lib.Query
import Rampage.Protocol.Uuid

namespace Rampage.Controller

open Rampage.Protocol

/-! ## Requests -/

/-- A request as the gateway reads it from the stream: its body is a tree that was read from bytes. -/
structure MeshControlRequestV1 (parseJson : List UInt8 → Option Json) where
  schema : String
  requestId : Uuid
  method : String
  path : String
  body : Option Json
  isRead : ∀ v ∈ body, ∃ b, parseJson b = some v

/-- The schema every request carries. -/
def meshControlRequestSchema : String := "rampage.mesh-control-request.v1"

/-- The body of `POST /v1/benchmarks/link`. -/
structure LinkProbeRequest where
  nodeId : Uuid
  nonce : Uuid
  uploadBase64 : String
  downloadBytes : Nat
deriving DecidableEq

/-- A field that is a UUID. -/
def readUuid (name : String) (position : Nat) (v : Json) : Option Uuid := (v.readText name position).bind Uuid.parseStr

/-! ## The crates -/

/-- The derived readers of a record, from a tree and from bytes. Both take a field of the record from where `field`
finds it in the tree. -/
structure Reader (parseJson : List UInt8 → Option Json) {α β : Type} (field : Json → Option β) (get : α → β) where
  /-- `serde_json::from_value`. -/
  fromValue : Json → Option α
  /-- `serde_json::from_slice`. -/
  fromSlice : List UInt8 → Option α
  fromValue_field : ∀ {v a}, fromValue v = some a → field v = some (get a)
  fromSlice_field : ∀ {b v a}, parseJson b = some v → fromSlice b = some a → field v = some (get a)

/-- The characters of a path that a URL keeps as they are. -/
def isPathChar (c : Char) : Bool := c.isAlphanum || c == '/' || c == '-'

/-- The characters of a query that a URL keeps as they are. -/
def isQueryChar (c : Char) : Bool := c.isAlphanum || ['=', '_', '-', ':', Char.ofNat 123, Char.ofNat 125].contains c

/-- The code outside the repository, with what is documented of it. -/
structure MeshCrates where
  /-- `serde_json::from_slice`, of a tree. -/
  parseJson : List UInt8 → Option Json
  /-- A tree that was read can be printed and read again, up to the rounding of its numbers. -/
  parseJson_toVec : ∀ {b v}, parseJson b = some v → ∃ w, parseJson v.toVec = some w ∧ w.eraseNumbers = v.eraseNumbers
  enrollment : Reader parseJson (fun v => (v.readField "identity" 3).bind (Json.readText "public_key" 6))
    fun e : EnrollmentRequestV1 => e.identity.publicKey
  offer : Reader parseJson (readUuid "node_id" 2) ResourceOfferV1.nodeId
  receipt : Reader parseJson (readUuid "node_id" 4) ExecutionReceiptV1.nodeId
  linkProbe : Reader parseJson (readUuid "node_id" 0) LinkProbeRequest.nodeId
  /-- `Url::parse` of the server's address and a path, to the path and the query of the URL. -/
  splitUrl : String → Option (String × Option String)
  splitUrl_path : ∀ {p : String}, startsWith ['/'] p.toList = true → p.toList.all isPathChar = true →
    splitUrl p = some (p, none)
  splitUrl_query : ∀ {p q : String}, startsWith ['/'] p.toList = true → p.toList.all isPathChar = true →
    q.toList.all isQueryChar = true → splitUrl (p ++ "?" ++ q) = some (p, some q)
  fromUtf8Lossy : List UInt8 → String
  fromUtf8Lossy_utf8 : ∀ s, fromUtf8Lossy (utf8 s) = s

/-! ## The gateway -/

/-- `str::contains("..")`. -/
def hasDots : List Char → Bool
  | [] => false
  | c :: cs => (c == '.' && cs.head? == some '.') || hasDots cs

/-- `require_mesh_node`. -/
def requireMeshNode (s : AppState) (peer : String) (nodeId : Uuid) : Except String Unit :=
  match s.nodes.lookup nodeId with
  | some identity =>
    if identity.publicKey = peer then .ok () else .error "remote worker is not enrolled for this node id"
  | none => .error "remote worker is not enrolled for this node id"

/-- The body of a request as a record. -/
def readBody {α : Type} {parseJson : List UInt8 → Option Json} (what : String) (fromValue : Json → Option α)
    (request : MeshControlRequestV1 parseJson) : Except String α :=
  match request.body with
  | none => .error (what ++ " body is missing")
  | some body =>
    match fromValue body with
    | none => .error (what ++ " body is invalid")
    | some a => .ok a

/-- What the path of a claim starts with; the rest is a node id. -/
def claimPrefix : String := "/v1/work/claim?node_id="

section

variable (crates : MeshCrates)

/-- `authorize_mesh_control`. -/
def authorizeMeshControl (s : AppState) (peer : String) (request : MeshControlRequestV1 crates.parseJson) :
    Except String Unit :=
  if hasDots request.path.toList || request.path.toList.contains '%' || request.path.toList.contains '#' then
    .error "mesh path is not canonical"
  else if request.method = "GET" ∧ request.path = "/health" then .ok ()
  else if request.method = "POST" ∧ request.path = "/v1/nodes/enroll" then do
    let enrollment ← readBody "enrollment" crates.enrollment.fromValue request
    if enrollment.identity.publicKey = peer then .ok ()
    else .error "transport identity and enrollment identity differ"
  else if request.method = "POST" ∧ request.path = "/v1/offers" then do
    let offer ← readBody "offer" crates.offer.fromValue request
    if offer.meshEndpoint.isNone then .error "remote worker offer requires a signed mesh endpoint"
    else requireMeshNode s peer offer.nodeId
  else if request.method = "POST" ∧ request.path = "/v1/receipts" then do
    let receipt ← readBody "receipt" crates.receipt.fromValue request
    requireMeshNode s peer receipt.nodeId
  else if request.method = "POST" ∧ request.path = "/v1/benchmarks/link" then do
    let probe ← readBody "link probe" crates.linkProbe.fromValue request
    requireMeshNode s peer probe.nodeId
  else if request.method = "GET" ∧ startsWith claimPrefix.toList request.path.toList = true then
    match (stripPrefix claimPrefix.toList request.path.toList).bind fun value => Uuid.parseStr (String.ofList value) with
    | none => .error "claim node id is invalid"
    | some nodeId => requireMeshNode s peer nodeId
  else .error "route is not exposed to remote workers"

/-- What the local server is sent. -/
structure Forwarded where
  method : String
  path : String
  body : Option (List UInt8)
deriving DecidableEq

/-- The gateway answers with a status and an error, or forwards. -/
inductive MeshStep
  | respond (status : Nat) (error : String)
  | forward (f : Forwarded)
deriving DecidableEq

/-- `process_mesh_control`, up to the answer of the local server. -/
def processMeshControl (s : AppState) (peer : String) (request : MeshControlRequestV1 crates.parseJson) : MeshStep :=
  if request.schema ≠ meshControlRequestSchema then .respond 400 "unsupported mesh control schema"
  else
    match authorizeMeshControl crates s peer request with
    | .error reason => .respond 403 reason
    | .ok () =>
      if request.method = "GET" ∨ request.method = "POST" then
        .forward ⟨request.method, request.path, request.body.map Json.toVec⟩
      else .respond 405 "mesh method is not allowlisted"

end

/-! ## The local server -/

/-- The handlers of the local server. -/
inductive Endpoint
  | localStop | localResume | createInvite | listNodes | revokeNode | enrollNode | listOffers | registerOffer
  | listWorkloadCapabilities | selfScan | submitJob | planJob | planBreakEvenRequest | planModelSessionRequest
  | submitShardSet | planShardSetRequest | shardSetStatus | claimWork | listReceipts | submitReceipt | putArtifact
  | getArtifact | replicateArtifact | retrieveArtifact | repairProtectedArtifacts | linkProbe | listDividends
  | recordDividend | networkAutopilot | openRemoteDesktop | remoteDesktopFrame | remoteDesktopInput | closeRemoteDesktop
  | relayAccessManifest | governorKey | authorizePromotionCanary | discoverProject | events | openaiModels
  | openaiChatCompletions | anthropicMessages | gatewayCapabilities | cancelModelSession | health
deriving DecidableEq

/-- A route: the segments of its path, with captured ones left open, and its handlers by method. -/
structure Route where
  segments : List (Option String)
  handlers : List (String × Endpoint)

/-- A captured segment is not empty. -/
def matchesSegment : Option String → String → Bool
  | some segment, given => segment == given
  | none, given => given != ""

/-- The path has the segments of the route, a parameter standing for anything. -/
def Route.isMatch (r : Route) (given : List String) : Bool :=
  r.segments.length == given.length && (r.segments.zip given).all fun e => matchesSegment e.1 e.2

/-- The router of `main`. -/
def router : List Route :=
  [⟨[some "v1", some "stop"], [("POST", .localStop)]⟩,
    ⟨[some "v1", some "resume"], [("POST", .localResume)]⟩,
    ⟨[some "v1", some "enrollment", some "invites"], [("POST", .createInvite)]⟩,
    ⟨[some "v1", some "nodes"], [("GET", .listNodes)]⟩,
    ⟨[some "v1", some "nodes", none, some "revoke"], [("POST", .revokeNode)]⟩,
    ⟨[some "v1", some "nodes", some "enroll"], [("POST", .enrollNode)]⟩,
    ⟨[some "v1", some "offers"], [("GET", .listOffers), ("POST", .registerOffer)]⟩,
    ⟨[some "v1", some "workload-capabilities"], [("GET", .listWorkloadCapabilities)]⟩,
    ⟨[some "v1", some "diagnostics", some "self-scan"], [("GET", .selfScan)]⟩,
    ⟨[some "v1", some "jobs"], [("POST", .submitJob)]⟩,
    ⟨[some "v1", some "jobs", some "plan"], [("POST", .planJob)]⟩,
    ⟨[some "v1", some "plans", some "break-even"], [("POST", .planBreakEvenRequest)]⟩,
    ⟨[some "v1", some "model-sessions", some "plan"], [("POST", .planModelSessionRequest)]⟩,
    ⟨[some "v1", some "shard-sets"], [("POST", .submitShardSet)]⟩,
    ⟨[some "v1", some "shard-sets", some "plan"], [("POST", .planShardSetRequest)]⟩,
    ⟨[some "v1", some "shard-sets", none], [("GET", .shardSetStatus)]⟩,
    ⟨[some "v1", some "work", some "claim"], [("GET", .claimWork)]⟩,
    ⟨[some "v1", some "receipts"], [("GET", .listReceipts), ("POST", .submitReceipt)]⟩,
    ⟨[some "v1", some "artifacts", some "put"], [("POST", .putArtifact)]⟩,
    ⟨[some "v1", some "artifacts", some "get"], [("GET", .getArtifact)]⟩,
    ⟨[some "v1", some "artifacts", some "replicate"], [("POST", .replicateArtifact)]⟩,
    ⟨[some "v1", some "artifacts", some "retrieve"], [("POST", .retrieveArtifact)]⟩,
    ⟨[some "v1", some "artifacts", some "repair"], [("POST", .repairProtectedArtifacts)]⟩,
    ⟨[some "v1", some "benchmarks", some "link"], [("POST", .linkProbe)]⟩,
    ⟨[some "v1", some "dividends"], [("GET", .listDividends), ("POST", .recordDividend)]⟩,
    ⟨[some "v1", some "network", some "autopilot"], [("GET", .networkAutopilot)]⟩,
    ⟨[some "v1", some "remote-assist", some "sessions"], [("POST", .openRemoteDesktop)]⟩,
    ⟨[some "v1", some "remote-assist", some "sessions", none, some "frame"], [("GET", .remoteDesktopFrame)]⟩,
    ⟨[some "v1", some "remote-assist", some "sessions", none, some "input"], [("POST", .remoteDesktopInput)]⟩,
    ⟨[some "v1", some "remote-assist", some "sessions", none, some "close"], [("POST", .closeRemoteDesktop)]⟩,
    ⟨[some "v1", some "mesh", some "relay-access"], [("GET", .relayAccessManifest)]⟩,
    ⟨[some "v1", some "governor", some "key"], [("GET", .governorKey)]⟩,
    ⟨[some "v1", some "improvements", some "canary"], [("POST", .authorizePromotionCanary)]⟩,
    ⟨[some "v1", some "projects", some "discover"], [("POST", .discoverProject)]⟩,
    ⟨[some "v1", some "events"], [("GET", .events)]⟩,
    ⟨[some "v1", some "models"], [("GET", .openaiModels)]⟩,
    ⟨[some "v1", some "chat", some "completions"], [("POST", .openaiChatCompletions)]⟩,
    ⟨[some "api", some "v1", some "models"], [("GET", .openaiModels)]⟩,
    ⟨[some "api", some "v1", some "chat", some "completions"], [("POST", .openaiChatCompletions)]⟩,
    ⟨[some "v1", some "messages"], [("POST", .anthropicMessages)]⟩,
    ⟨[some "v1", some "capabilities"], [("GET", .gatewayCapabilities)]⟩,
    ⟨[some ".well-known", some "rampage-capabilities"], [("GET", .gatewayCapabilities)]⟩,
    ⟨[some "v1", some "model-sessions", none, some "cancel"], [("POST", .cancelModelSession)]⟩,
    ⟨[some "health"], [("GET", .health)]⟩]

/-- The handler of a method and a path. -/
def handlerOf (method path : String) : Option Endpoint :=
  match stripPrefix ['/'] path.toList with
  | none => none
  | some rest => (router.find? (·.isMatch ((rest.splitOn '/').map String.ofList))).bind fun r => r.handlers.lookup method

/-- `Query<ClaimQuery>`: the field has to be there once. -/
def claimNodeId (crates : MeshCrates) (query : Option String) : Option Uuid :=
  match (Query.parse crates.fromUtf8Lossy (query.getD "")).filter (·.1 == "node_id") with
  | [(_, value)] => Uuid.parseStr value
  | _ => none

/-! ## The two readings -/

/-- A handler acts for the peer: what it obtains from the URL and the body it is sent is the peer's. -/
inductive ServesPeer (crates : MeshCrates) (s : AppState) (peer : String) (query : Option String)
    (body : Option (List UInt8)) : Endpoint → Prop
  | health : ServesPeer crates s peer query body .health
  | enrollNode (h : ∀ e, body.bind crates.enrollment.fromSlice = some e → e.identity.publicKey = peer) :
      ServesPeer crates s peer query body .enrollNode
  | registerOffer (h : ∀ o, body.bind crates.offer.fromSlice = some o → boundKey s o.nodeId = some peer) :
      ServesPeer crates s peer query body .registerOffer
  | submitReceipt (h : ∀ r, body.bind crates.receipt.fromSlice = some r → boundKey s r.nodeId = some peer) :
      ServesPeer crates s peer query body .submitReceipt
  | linkProbe (h : ∀ p, body.bind crates.linkProbe.fromSlice = some p → boundKey s p.nodeId = some peer) :
      ServesPeer crates s peer query body .linkProbe
  | claimWork (nodeId : Uuid) (h : claimNodeId crates query = some nodeId) (hpeer : boundKey s nodeId = some peer) :
      ServesPeer crates s peer query body .claimWork

theorem boundKey_of_requireMeshNode {s : AppState} {peer : String} {nodeId : Uuid} (h : requireMeshNode s peer nodeId = .ok ()) :
    boundKey s nodeId = some peer := by
  unfold requireMeshNode at h
  unfold boundKey
  split at h
  · rename_i identity hidentity
    split at h
    · rename_i hkey
      rw [hidentity, Option.map_some, hkey]
    · cases h
  · cases h

/-- What goes on with a body has read it. -/
theorem readBody_bind_ok {α : Type} {parseJson : List UInt8 → Option Json} {what : String} {fromValue : Json → Option α}
    {request : MeshControlRequestV1 parseJson} {k : α → Except String Unit} (h : (readBody what fromValue request >>= k) = .ok ()) :
    ∃ v a, request.body = some v ∧ fromValue v = some a ∧ k a = .ok () := by
  unfold readBody at h
  split at h
  · cases h
  · rename_i v hv
    split at h
    · cases h
    · rename_i a ha
      exact ⟨v, a, hv, ha, h⟩

section

variable {crates : MeshCrates} {s : AppState} {peer : String} {request : MeshControlRequestV1 crates.parseJson}

/-- What the gateway lets through, by route. -/
inductive MeshAuthorized (crates : MeshCrates) (s : AppState) (peer : String) (request : MeshControlRequestV1 crates.parseJson) :
    Prop
  | health (hm : request.method = "GET") (hp : request.path = "/health")
  | enrollNode (v : Json) (e : EnrollmentRequestV1) (hm : request.method = "POST") (hp : request.path = "/v1/nodes/enroll")
      (hbody : request.body = some v) (he : crates.enrollment.fromValue v = some e) (hpeer : e.identity.publicKey = peer)
  | registerOffer (v : Json) (o : ResourceOfferV1) (hm : request.method = "POST") (hp : request.path = "/v1/offers")
      (hbody : request.body = some v) (ho : crates.offer.fromValue v = some o) (hpeer : boundKey s o.nodeId = some peer)
  | submitReceipt (v : Json) (r : ExecutionReceiptV1) (hm : request.method = "POST") (hp : request.path = "/v1/receipts")
      (hbody : request.body = some v) (hr : crates.receipt.fromValue v = some r) (hpeer : boundKey s r.nodeId = some peer)
  | linkProbe (v : Json) (p : LinkProbeRequest) (hm : request.method = "POST") (hp : request.path = "/v1/benchmarks/link")
      (hbody : request.body = some v) (hread : crates.linkProbe.fromValue v = some p) (hpeer : boundKey s p.nodeId = some peer)
  | claimWork (value : String) (nodeId : Uuid) (hm : request.method = "GET") (hp : request.path = claimPrefix ++ value)
      (hread : Uuid.parseStr value = some nodeId) (hpeer : boundKey s nodeId = some peer)

theorem meshAuthorized_of_ok (h : authorizeMeshControl crates s peer request = .ok ()) : MeshAuthorized crates s peer request := by
  unfold authorizeMeshControl at h
  split at h
  · cases h
  split at h
  · rename_i hroute
    exact .health hroute.1 hroute.2
  split at h
  · rename_i hroute
    obtain ⟨v, e, hbody, he, hrest⟩ := readBody_bind_ok h
    split at hrest
    · rename_i hpeer
      exact .enrollNode v e hroute.1 hroute.2 hbody he hpeer
    · cases hrest
  split at h
  · rename_i hroute
    obtain ⟨v, o, hbody, ho, hrest⟩ := readBody_bind_ok h
    split at hrest
    · cases hrest
    · exact .registerOffer v o hroute.1 hroute.2 hbody ho (boundKey_of_requireMeshNode hrest)
  split at h
  · rename_i hroute
    obtain ⟨v, r, hbody, hr, hrest⟩ := readBody_bind_ok h
    exact .submitReceipt v r hroute.1 hroute.2 hbody hr (boundKey_of_requireMeshNode hrest)
  split at h
  · rename_i hroute
    obtain ⟨v, p, hbody, hp, hrest⟩ := readBody_bind_ok h
    exact .linkProbe v p hroute.1 hroute.2 hbody hp (boundKey_of_requireMeshNode hrest)
  split at h
  · rename_i hroute
    split at h
    · cases h
    · rename_i nodeId hclaim
      obtain ⟨value, hvalue, hread⟩ := Option.bind_eq_some_iff.1 hclaim
      refine .claimWork (String.ofList value) nodeId hroute.1 ?_ hread (boundKey_of_requireMeshNode h)
      rw [← String.toList_inj, eq_append_of_stripPrefix hvalue, String.toList_append, String.toList_ofList]
  · cases h

/-- The two readers of a record find the same in a body, if it is text. -/
theorem Reader.agrees {α β : Type} {field : Json → Option β} {get : α → β} (r : Reader crates.parseJson field get)
    (htext : ∀ v, field v.eraseNumbers = field v) {v : Json} {a b : α} (hv : ∃ b, crates.parseJson b = some v)
    (ha : r.fromValue v = some a) (hb : r.fromSlice v.toVec = some b) : get b = get a := by
  obtain ⟨_, hv⟩ := hv
  obtain ⟨w, hw, herase⟩ := crates.parseJson_toVec hv
  have hfield := r.fromSlice_field hw hb
  rw [← htext, herase, htext, r.fromValue_field ha] at hfield
  exact (Option.some.inj hfield).symm

theorem readUuid_eraseNumbers (name : String) (position : Nat) (v : Json) :
    readUuid name position v.eraseNumbers = readUuid name position v := by
  unfold readUuid
  rw [Json.readText_eraseNumbers]

theorem enrollmentKey_eraseNumbers (v : Json) :
    (v.eraseNumbers.readField "identity" 3).bind (Json.readText "public_key" 6) =
      (v.readField "identity" 3).bind (Json.readText "public_key" 6) := by
  rw [Json.readField_eraseNumbers]
  cases v.readField "identity" 3 with
  | none => rfl
  | some w => exact Json.readText_eraseNumbers _ _ w

/-- The characters of a UUID are neither escaped nor separators. -/
theorem plain_of_isUuidChar {c : Char} (h : Uuid.isUuidChar c = true) : Query.isPlain c = true ∧ isQueryChar c = true := by
  have hascii : c.toNat < 128 := by
    rcases Bool.or_eq_true_iff.1 h with hdigit | hother
    · unfold Hex.value at hdigit
      split at hdigit
      · omega
      split at hdigit
      · omega
      split at hdigit
      · omega
      · cases hdigit
    · have hall : ['-', ':', 'u', 'r', 'n', 'i', 'd', Char.ofNat 123, Char.ofNat 125].all (·.toNat < 128) = true := by decide
      exact of_decide_eq_true (List.all_eq_true.1 hall c (List.contains_iff_mem.1 hother))
  have hall : ∀ n : Fin 128, Uuid.isUuidChar (Char.ofNat n) = true →
      Query.isPlain (Char.ofNat n) = true ∧ isQueryChar (Char.ofNat n) = true := by
    decide
  have hc := hall ⟨c.toNat, hascii⟩
  rw [Char.ofNat_toNat] at hc
  exact hc h

/-- The query of a claim is read as the gateway reads it. -/
theorem claimNodeId_of_parseStr {value : String} {nodeId : Uuid} (h : Uuid.parseStr value = some nodeId) :
    claimNodeId crates (some ("node_id=" ++ value)) = some nodeId := by
  have hplain : ∀ c ∈ value.toList, Query.isPlain c = true :=
    fun c hc => (plain_of_isUuidChar (Uuid.isUuidChar_of_parseStr h c hc)).1
  have hparse : Query.parse crates.fromUtf8Lossy ("node_id=" ++ value) = [("node_id", value)] :=
    @Query.parse_plain _ crates.fromUtf8Lossy_utf8 "node_id" value (by decide) hplain
  unfold claimNodeId
  rw [Option.getD_some, hparse]
  exact h

/-- The URL of a claim. -/
theorem splitUrl_claim {value : String} {nodeId : Uuid} (h : Uuid.parseStr value = some nodeId) :
    crates.splitUrl (claimPrefix ++ value) = some ("/v1/work/claim", some ("node_id=" ++ value)) := by
  have hquery : ("node_id=" ++ value).toList.all isQueryChar = true := by
    rw [String.toList_append, List.all_append, Bool.and_eq_true]
    refine ⟨by decide, List.all_eq_true.2 fun c hc => ?_⟩
    exact (plain_of_isUuidChar (Uuid.isUuidChar_of_parseStr h c hc)).2
  have hurl : claimPrefix ++ value = "/v1/work/claim" ++ "?" ++ ("node_id=" ++ value) := by
    rw [← String.append_assoc]
    rfl
  rw [hurl]
  exact crates.splitUrl_query (by decide) (by decide) hquery

/-- A request to a plain path reaches the handler of its route. -/
theorem serves_of_route {f : Forwarded} {method path : String} {endpoint : Endpoint} (hm : f.method = method)
    (hp : f.path = path) (hroot : startsWith ['/'] path.toList = true) (hplain : path.toList.all isPathChar = true)
    (hhandler : handlerOf method path = some endpoint) (hserves : ServesPeer crates s peer none f.body endpoint) :
    ∃ path query endpoint, crates.splitUrl f.path = some (path, query) ∧ handlerOf f.method path = some endpoint ∧
      ServesPeer crates s peer query f.body endpoint := by
  refine ⟨path, none, endpoint, ?_, ?_, hserves⟩
  · rw [hp]
    exact crates.splitUrl_path hroot hplain
  · rw [hm]
    exact hhandler

/-- What the gateway forwards reaches a handler that acts for the peer. -/
theorem mesh_serves_peer {f : Forwarded} (h : processMeshControl crates s peer request = .forward f) :
    ∃ path query endpoint, crates.splitUrl f.path = some (path, query) ∧ handlerOf f.method path = some endpoint ∧
      ServesPeer crates s peer query f.body endpoint := by
  unfold processMeshControl at h
  split at h
  · cases h
  split at h
  · cases h
  rename_i hok
  split at h
  · cases h
    -- one reading of a body against the other
    have hread : ∀ {v : Json} {α β : Type} {field : Json → Option β} {get : α → β} (r : Reader crates.parseJson field get),
        (∀ v, field v.eraseNumbers = field v) → request.body = some v → ∀ {a b : α}, r.fromValue v = some a →
        (request.body.map Json.toVec).bind r.fromSlice = some b → get b = get a := by
      intro v α β field get r htext hbody a b ha hb
      rw [hbody] at hb
      exact r.agrees htext (request.isRead v hbody) ha hb
    cases meshAuthorized_of_ok hok with
    | health hm hp => exact serves_of_route hm hp (by decide) (by decide) (by decide) .health
    | enrollNode v e hm hp hbody he hpeer =>
      refine serves_of_route hm hp (by decide) (by decide) (by decide) (.enrollNode fun e' he' => ?_)
      exact (hread crates.enrollment enrollmentKey_eraseNumbers hbody he he').trans hpeer
    | registerOffer v o hm hp hbody ho hpeer =>
      refine serves_of_route hm hp (by decide) (by decide) (by decide) (.registerOffer fun o' ho' => ?_)
      rw [hread crates.offer (readUuid_eraseNumbers _ _) hbody ho ho', hpeer]
    | submitReceipt v r hm hp hbody hr hpeer =>
      refine serves_of_route hm hp (by decide) (by decide) (by decide) (.submitReceipt fun r' hr' => ?_)
      rw [hread crates.receipt (readUuid_eraseNumbers _ _) hbody hr hr', hpeer]
    | linkProbe v p hm hp hbody hprobe hpeer =>
      refine serves_of_route hm hp (by decide) (by decide) (by decide) (.linkProbe fun p' hp' => ?_)
      rw [hread crates.linkProbe (readUuid_eraseNumbers _ _) hbody hprobe hp', hpeer]
    | claimWork value nodeId hm hp hvalue hpeer =>
      refine ⟨"/v1/work/claim", some ("node_id=" ++ value), .claimWork, ?_, ?_,
        .claimWork nodeId (claimNodeId_of_parseStr hvalue) hpeer⟩
      · rw [hp]
        exact splitUrl_claim hvalue
      · show handlerOf request.method _ = _
        rw [hm]
        decide
  · cases h

end

/-! ## A probe of node 77 -/

namespace Scenario

/-- A link probe as a worker sends it. -/
def probeTree : Json :=
  .obj [("download_bytes", .num (.ofNat 8)), ("node_id", .str (Uuid.hyphenated 77)), ("nonce", .str (Uuid.hyphenated 5)),
    ("upload_base64", .str "AAAA")]

/-- The reader of the probe's text. -/
def parseProbe (b : List UInt8) : Option Json := if b = probeTree.toVec then some probeTree else none

theorem parseProbe_toVec : parseProbe probeTree.toVec = some probeTree := if_pos rfl

/-- A link probe from its JSON. -/
def readProbe (v : Json) : Option LinkProbeRequest :=
  (readUuid "node_id" 0 v).bind fun nodeId => (readUuid "nonce" 1 v).bind fun nonce =>
    (v.readText "upload_base64" 2).bind fun upload => ((v.readField "download_bytes" 3).bind Json.asU64).map fun download =>
      ⟨nodeId, nonce, upload, download⟩

theorem readProbe_node {v : Json} {p : LinkProbeRequest} (h : readProbe v = some p) :
    readUuid "node_id" 0 v = some p.nodeId := by
  unfold readProbe at h
  obtain ⟨nodeId, hnode, h⟩ := Option.bind_eq_some_iff.1 h
  obtain ⟨_, -, h⟩ := Option.bind_eq_some_iff.1 h
  obtain ⟨_, -, h⟩ := Option.bind_eq_some_iff.1 h
  obtain ⟨_, -, rfl⟩ := Option.map_eq_some_iff.1 h
  exact hnode

/-- A path with a query is split at the first question mark. -/
def splitAtMark (p : String) : Option (String × Option String) :=
  match p.toList.dropWhile (· ≠ '?') with
  | [] => some (p, none)
  | _ :: q => some (String.ofList (p.toList.takeWhile (· ≠ '?')), some (String.ofList q))

theorem ne_mark_of_isPathChar {p : String} (h : p.toList.all isPathChar = true) : ∀ c ∈ p.toList, decide (c ≠ '?') = true := by
  intro c hc
  refine decide_eq_true ?_
  rintro rfl
  exact absurd (List.all_eq_true.1 h _ hc) (by decide)

/-- No body but the probe's is read. -/
def noReader {α β : Type} (field : Json → Option β) (get : α → β) : Reader parseProbe field get where
  fromValue := fun _ => none
  fromSlice := fun _ => none
  fromValue_field := nofun
  fromSlice_field := nofun

/-- A reader that knows the one body of the example. -/
def crates : MeshCrates where
  parseJson := parseProbe
  parseJson_toVec := by
    intro b v h
    unfold parseProbe at h
    split at h
    · cases h
      exact ⟨probeTree, parseProbe_toVec, rfl⟩
    · cases h
  enrollment := noReader _ _
  offer := noReader _ _
  receipt := noReader _ _
  linkProbe :=
    { fromValue := readProbe
      fromSlice := fun b => (parseProbe b).bind readProbe
      fromValue_field := readProbe_node
      fromSlice_field := by
        intro b v a hv h
        rw [hv] at h
        exact readProbe_node h }
  splitUrl := splitAtMark
  splitUrl_path := by
    intro p _ hp
    unfold splitAtMark
    have hnone : (p.toList ++ []).dropWhile (· ≠ '?') = [].dropWhile (· ≠ '?') :=
      List.dropWhile_append_of_pos (ne_mark_of_isPathChar hp)
    rw [List.append_nil, List.dropWhile_nil] at hnone
    rw [hnone]
  splitUrl_query := by
    intro p q _ hp _
    unfold splitAtMark
    have hlist : (p ++ "?" ++ q).toList = p.toList ++ '?' :: q.toList := by
      rw [String.toList_append, String.toList_append, List.append_assoc]
      rfl
    have hbefore : (p.toList ++ '?' :: q.toList).takeWhile (· ≠ '?') = p.toList := by
      rw [List.takeWhile_append_of_pos (ne_mark_of_isPathChar hp)]
      simp
    have hafter : (p.toList ++ '?' :: q.toList).dropWhile (· ≠ '?') = '?' :: q.toList := by
      rw [List.dropWhile_append_of_pos (ne_mark_of_isPathChar hp)]
      simp
    rw [hlist, hafter, hbefore, String.ofList_toList]
    exact congrArg (fun q => some (p, some q)) String.ofList_toList
  fromUtf8Lossy := fun b => (fromUtf8 b).getD ""
  fromUtf8Lossy_utf8 := by
    intro s
    rw [fromUtf8_eq_some_iff.2 rfl, Option.getD_some]

/-- A worker's link probe. -/
def probeRequest : MeshControlRequestV1 crates.parseJson where
  schema := "rampage.mesh-control-request.v1"
  requestId := 6
  method := "POST"
  path := "/v1/benchmarks/link"
  body := some probeTree
  isRead := by
    intro v hv
    rw [← Option.some.inj hv]
    exact ⟨probeTree.toVec, parseProbe_toVec⟩

/-- The node is enrolled. -/
def enrolled : AppState := { start.toAppState with nodes := start.nodes.insert 77 identity }

end Scenario

open Scenario in
/-- The probe is forwarded. -/
theorem mesh_serves_peer_probe : ∃ path query endpoint, crates.splitUrl "/v1/benchmarks/link" = some (path, query) ∧
    handlerOf "POST" path = some endpoint ∧
      ServesPeer crates enrolled identity.publicKey query (some probeTree.toVec) endpoint := by
  refine @mesh_serves_peer crates enrolled identity.publicKey probeRequest
    ⟨"POST", "/v1/benchmarks/link", some probeTree.toVec⟩ ?_
  have hread : readProbe probeTree = some ⟨77, 5, "AAAA", 8⟩ := by decide
  have hbody : readBody "link probe" readProbe probeRequest = .ok ⟨77, 5, "AAAA", 8⟩ := by
    simp only [readBody, probeRequest, hread]
  have hok : authorizeMeshControl crates enrolled identity.publicKey probeRequest = .ok () := by
    unfold authorizeMeshControl
    rw [if_neg (by decide), if_neg (by decide), if_neg (by decide), if_neg (by decide), if_neg (by decide), if_pos (by decide)]
    show (readBody "link probe" readProbe probeRequest >>= _) = _
    rw [hbody]
    decide
  unfold processMeshControl
  rw [hok]
  rfl

end Rampage.Controller
