import Mathlib.Algebra.GroupWithZero.Nat
import HakoPduRpc.Config.Transport

/-!
# The Service configuration generator

`resolve` and `generate` of `service_config_generator.py`: what is accepted of a
manifest, and the files that are made of it.  The sizes of a Service are written
crosswise: a request has the base size under `server` and the heap size under
`client`, a response the other two.
-/

namespace HakoPduRpc
namespace Config
namespace ServiceManifest

/-- `PDU_METADATA_SIZE`. -/
def pduMetadataSize : ℕ := 24

/-! ## Client names -/

/-- `[a-z0-9_]`. -/
def isKeyChar (c : Char) : Bool := c.isLower || c.isDigit || c = '_'

/-- `re.sub(r"(?<!^)(?=[A-Z])", "_", …)`. -/
def markCapitals : List Char → List Char
  | [] => []
  | c :: rest => c :: rest.flatMap fun c => if c.isUpper then ['_', c] else [c]

/-- `str.lower`, as far as its result is in `[a-z0-9_]`: beside the capitals of
ASCII these are the Kelvin sign and the capital I with a dot. -/
def lower (c : Char) : List Char :=
  if c.toNat = 0x212A then ['k']
  else if c.toNat = 0x130 then ['i', Char.ofNat 0x307]
  else [c.toLower]

/-- `_service_key`. -/
def serviceKey (serviceName : String) : Except String String :=
  let tail := (serviceName.toList.splitOn '/').getLastD []
  let snake := (markCapitals tail).flatMap lower
  let key := String.ofList (strip '_' (squeeze isKeyChar '_' false snake))
  if key = "" then
    .error ("Service name cannot produce a client name: " ++ repr serviceName)
  else .ok key

/-! ## Services -/

/-- The files of a node; `expected` are the clients of a server node. -/
def nodeFiles (packetVersion : String) (expected : String → ℕ) : NodeFiles where
  message := "value cannot produce a safe ID: "
  suffix := "-service-tcp"
  endpointFile id comm :=
    [("name", .str id),
     ("pdu_def_path", .str "../pdudef.json"),
     ("cache", .str "../queue.json"),
     ("comm", .str comm)]
  transportFile node id d :=
    [("protocol", .str "tcp"),
     ("name", .str id),
     ("direction", .str "inout"),
     ("comm_raw_version", .str packetVersion),
     ("options", .dict d.options)] ++
    match d.role with
    | .server =>
        [("local", .dict [("address", .str d.address), ("port", .int d.port)]),
         ("expected_clients", .int (expected node))]
    | .client =>
        [("role", .str "client"),
         ("remote", .dict [("address", .str d.address), ("port", .int d.port)])]
  containerEntry node id path :=
    [("nodeId", .str node),
     ("endpoints", .list
       [.dict [("id", .str id), ("config_path", .str path)]])]
  comm_endpointFile _ _ := rfl
  carries_transportFile _ _ d := by
    obtain ⟨role, address, port, options⟩ := d
    cases role with
    | server => exact ⟨Or.inr ⟨rfl, rfl⟩, rfl, rfl, rfl⟩
    | client => exact ⟨Or.inl rfl, rfl, rfl, rfl⟩
  nodeId_containerEntry _ _ _ := rfl
  containerEndpoint_containerEntry _ _ _ := rfl

/-- `_endpoint_id`. -/
def endpointId (nodeId : String) : Except String String :=
  (nodeFiles "" fun _ => 0).endpointId nodeId

/-- `_endpoint_ref`. -/
def endpointRef (entry : Fields) (index : ℕ) (field : String) :
    Except String Endpoint := do
  let node ← referencedNode ("services[" ++ toString index ++ "]." ++ field)
    (entry.get field)
  let id ← endpointId node
  .ok ⟨node, id⟩

/-- The sizes that a Service configures. -/
structure Sizes where
  requestBase : ℕ
  responseBase : ℕ
  requestHeap : ℕ
  responseHeap : ℕ
deriving DecidableEq

/-- `packetSize` and `bufferHeap` of a Service. -/
def sizes (service : Fields) (index : ℕ) : Except String Sizes := do
  let path := "services[" ++ toString index ++ "]"
  let packetSize ← object (service.get "packetSize") (path ++ ".packetSize")
  refuseUnknown ["requestBaseSize", "responseBaseSize"] (path ++ ".packetSize")
    packetSize
  let requestBase ← positiveInt (packetSize.get "requestBaseSize")
    (path ++ ".packetSize.requestBaseSize")
  let responseBase ← positiveInt (packetSize.get "responseBaseSize")
    (path ++ ".packetSize.responseBaseSize")
  let heap ← object (service.getOr "bufferHeap" (.dict []))
    (path ++ ".bufferHeap")
  refuseUnknown ["requestSize", "responseSize"] (path ++ ".bufferHeap") heap
  let requestHeap ← nonnegativeInt (heap.getOr "requestSize" (.int 0))
    (path ++ ".bufferHeap.requestSize")
  let responseHeap ← nonnegativeInt (heap.getOr "responseSize" (.int 0))
    (path ++ ".bufferHeap.responseSize")
  .ok ⟨requestBase, responseBase, requestHeap, responseHeap⟩

/-- An entry of `clients`. -/
structure Client where
  name : String
  requestChannelId : ℕ
  responseChannelId : ℕ
  clientEndpoint : Endpoint
deriving DecidableEq

/-- One side of `pduSize`. -/
structure PduSize where
  heapSize : ℕ
  baseSize : ℕ
deriving DecidableEq

/-- An entry of the resolved `services`. -/
structure Service where
  name : String
  type : String
  maxClients : ℕ
  serverSize : PduSize
  clientSize : PduSize
  serverEndpoint : Endpoint
  clients : List Client
deriving DecidableEq

/-- The clients of a Service, each with two channels of its own. -/
def serviceClients (namePrefix : String) (maxClients : ℕ)
    (clientEndpoint : Endpoint) : List Client :=
  (List.range maxClients).map fun index =>
    { name := namePrefix ++ "_" ++ toString index
      requestChannelId := index * 2
      responseChannelId := index * 2 + 1
      clientEndpoint := clientEndpoint }

/-- `_validate_service`. -/
def validateService (entry : Value) (index : ℕ) : Except String Service := do
  let path := "services[" ++ toString index ++ "]"
  let service ← object entry path
  refuseUnknown ["name", "type", "maxClients", "clientNamePrefix", "packetSize",
    "bufferHeap", "clientEndpoint", "serverEndpoint"] path service
  let name ← text (service.get "name") (path ++ ".name")
  let serviceType ← text (service.get "type") (path ++ ".type")
  refuseIf (¬isPackageType serviceType)
    (path ++ ".type must use package/ServiceName format")
  let maxClients ← positiveInt (service.get "maxClients") (path ++ ".maxClients")
  let key ← serviceKey name
  let namePrefix ← text
    (service.getOr "clientNamePrefix" (.str ("hako_rpc_" ++ key)))
    (path ++ ".clientNamePrefix")
  let size ← sizes service index
  let clientEndpoint ← endpointRef service index "clientEndpoint"
  let serverEndpoint ← endpointRef service index "serverEndpoint"
  refuseIf (clientEndpoint.nodeId = serverEndpoint.nodeId)
    (path ++ " clientEndpoint and serverEndpoint must differ")
  .ok
    { name := name
      type := serviceType
      maxClients := maxClients
      serverSize := ⟨size.responseHeap, size.requestBase⟩
      clientSize := ⟨size.requestHeap, size.responseBase⟩
      serverEndpoint := serverEndpoint
      clients := serviceClients namePrefix maxClients clientEndpoint }

/-- What `resolve` returns. -/
structure Resolved where
  services : List Service
  transport : Transport

/-- `service["clients"][0]["client_endpoint"]["nodeId"]`. -/
def Service.clientNode (service : Service) : String :=
  service.clients.head?.elim "" (·.clientEndpoint.nodeId)

/-- The nodes of a Service. -/
def Service.nodes (service : Service) : List String :=
  [service.serverEndpoint.nodeId, service.clientNode]

/-- The two tests of the roles, Service after Service. -/
def refuseRoles (endpoints : List (String × Deployment)) :
    List Service → Except String Unit
  | [] => .ok ()
  | service :: rest => do
      refuseIf (roleOf endpoints service.clientNode ≠ some .client)
        ("Service '" ++ service.name ++
          "' clientEndpoint must have transport role 'client'")
      refuseIf (roleOf endpoints service.serverEndpoint.nodeId ≠ some .server)
        ("Service '" ++ service.name ++
          "' serverEndpoint must have transport role 'server'")
      refuseRoles endpoints rest

/-- `resolve`. -/
def resolve (manifest : Fields) : Except String Resolved := do
  refuseUnknown ["version", "services", "transport"] "manifest" manifest
  refuseIf (¬isOne (manifest.get "version")) "version must be 1"
  let rawServices ← nonEmptyList "services must be a non-empty array"
    (manifest.get "services")
  let services ← enumerate validateService 0 rawServices
  refuseIf (¬(services.map Service.name).Nodup) "Service names must be unique"
  let transport ← resolveTransport manifest (services.flatMap Service.nodes)
  refuseRoles transport.endpoints services
  .ok ⟨services, transport⟩

/-! ## What is accepted -/

/-- An endpoint id that belongs to its node. -/
structure IsReference (endpoint : Endpoint) : Prop where
  nodeId_ne : endpoint.nodeId ≠ ""
  named : normalized endpoint.nodeId ≠ ""
  endpointId_eq : endpoint.endpointId =
    normalized endpoint.nodeId ++ "-service-tcp"

theorem endpointRef_ok {entry : Fields} {index : ℕ} {field : String}
    {endpoint : Endpoint} (h : endpointRef entry index field = .ok endpoint) :
    IsReference endpoint := by
  unfold endpointRef at h
  obtain ⟨node, hnode, h⟩ := Action.except_bind_eq_ok h
  obtain ⟨id, hid, h⟩ := Action.except_bind_eq_ok h
  obtain rfl := Except.ok.inj h
  obtain ⟨hnamed, rfl⟩ := (nodeFiles "" fun _ => 0).endpointId_ok hid
  exact ⟨referencedNode_ok hnode, hnamed, rfl⟩

theorem IsReference.endpointId_ne {endpoint : Endpoint}
    (h : IsReference endpoint) : endpoint.endpointId ≠ "" := by
  rw [h.endpointId_eq]
  intro hempty
  have hlength := congrArg String.length hempty
  simp at hlength

/-- What holds of a resolved Service; `size` are the sizes of the manifest. -/
structure WellFormed (s : Service) (size : Sizes) : Prop where
  name_ne : s.name ≠ ""
  maxClients_pos : 0 < s.maxClients
  serverSize_eq : s.serverSize = ⟨size.responseHeap, size.requestBase⟩
  clientSize_eq : s.clientSize = ⟨size.requestHeap, size.responseBase⟩
  server : IsReference s.serverEndpoint
  clients_eq : ∃ namePrefix endpoint,
    s.clients = serviceClients namePrefix s.maxClients endpoint ∧
      IsReference endpoint ∧ endpoint.nodeId ≠ s.serverEndpoint.nodeId

theorem validateService_ok {entry : Value} {index : ℕ} {s : Service}
    (h : validateService entry index = .ok s) :
    ∃ fields size, entry = .dict fields ∧ sizes fields index = .ok size ∧
      WellFormed s size := by
  unfold validateService at h
  obtain ⟨service, hservice, h⟩ := Action.except_bind_eq_ok h
  obtain ⟨-, -, h⟩ := Action.except_bind_eq_ok h
  obtain ⟨name, hname, h⟩ := Action.except_bind_eq_ok h
  obtain ⟨type, -, h⟩ := Action.except_bind_eq_ok h
  obtain ⟨-, -, h⟩ := Action.except_bind_eq_ok h
  obtain ⟨maxClients, hclients, h⟩ := Action.except_bind_eq_ok h
  obtain ⟨key, -, h⟩ := Action.except_bind_eq_ok h
  obtain ⟨namePrefix, -, h⟩ := Action.except_bind_eq_ok h
  obtain ⟨size, hsize, h⟩ := Action.except_bind_eq_ok h
  obtain ⟨clientEndpoint, hclient, h⟩ := Action.except_bind_eq_ok h
  obtain ⟨serverEndpoint, hserver, h⟩ := Action.except_bind_eq_ok h
  obtain ⟨_, hdiffer, h⟩ := Action.except_bind_eq_ok h
  obtain ⟨i, -, haccepts, rfl⟩ := integer_ok hclients
  simp only [decide_eq_true_eq] at haccepts
  have hpos : 0 < i.toNat := by omega
  obtain rfl := Except.ok.inj h
  exact ⟨service, size, object_ok hservice, hsize,
    { name_ne := (text_ok hname).2
      maxClients_pos := hpos
      serverSize_eq := rfl
      clientSize_eq := rfl
      server := endpointRef_ok hserver
      clients_eq := ⟨namePrefix, clientEndpoint, rfl, endpointRef_ok hclient,
        refuseIf_eq_ok_iff.mp hdiffer⟩ }⟩

/-- A resolved Service and the entry of the manifest that it comes from. -/
def ComesFrom (entry : Value) (s : Service) : Prop :=
  ∃ fields index size, entry = .dict fields ∧ sizes fields index = .ok size ∧
    WellFormed s size

/-- What holds of a resolved manifest. -/
structure ResolvedFrom (manifest : Fields) (resolved : Resolved) : Prop where
  services : ∃ entries, manifest.get "services" = .list entries ∧
    List.Forall₂ ComesFrom entries resolved.services
  services_ne : resolved.services ≠ []
  names : (resolved.services.map Service.name).Nodup
  endpoints : resolved.transport.endpoints.map Prod.fst =
    sortedNodes (resolved.services.flatMap Service.nodes)

theorem resolve_ok {manifest : Fields} {resolved : Resolved}
    (h : resolve manifest = .ok resolved) : ResolvedFrom manifest resolved := by
  unfold resolve at h
  obtain ⟨-, -, h⟩ := Action.except_bind_eq_ok h
  obtain ⟨-, -, h⟩ := Action.except_bind_eq_ok h
  obtain ⟨entries, hentries, h⟩ := Action.except_bind_eq_ok h
  obtain ⟨services, hservices, h⟩ := Action.except_bind_eq_ok h
  obtain ⟨_, hnames, h⟩ := Action.except_bind_eq_ok h
  obtain ⟨transport, htransport, h⟩ := Action.except_bind_eq_ok h
  obtain ⟨-, -, h⟩ := Action.except_bind_eq_ok h
  obtain rfl := Except.ok.inj h
  obtain ⟨hlist, hne⟩ := nonEmptyList_ok hentries
  have hfrom : List.Forall₂ ComesFrom entries services := by
    refine (enumerate_ok hservices).imp ?_
    rintro entry s ⟨index, hentry⟩
    obtain ⟨fields, size, rfl, hsize, hformed⟩ := validateService_ok hentry
    exact ⟨fields, index, size, rfl, hsize, hformed⟩
  refine ⟨⟨entries, hlist, hfrom⟩, ?_,
    not_not.mp (refuseIf_eq_ok_iff.mp hnames),
    (resolveTransport_ok htransport).names⟩
  rintro rfl
  exact hne (List.forall₂_nil_right_iff.mp hfrom)

/-- Every resolved Service is well formed. -/
theorem ResolvedFrom.wellFormed {manifest : Fields} {resolved : Resolved}
    (h : ResolvedFrom manifest resolved) {s : Service}
    (hs : s ∈ resolved.services) : ∃ size, WellFormed s size := by
  obtain ⟨entries, -, hfrom⟩ := h.services
  obtain ⟨entry, -, fields, index, size, -, -, hformed⟩ :=
    exists_of_forall₂ hfrom hs
  exact ⟨size, hformed⟩

theorem clientNode_eq {s : Service} {namePrefix : String} {endpoint : Endpoint}
    (hpos : 0 < s.maxClients)
    (h : s.clients = serviceClients namePrefix s.maxClients endpoint) :
    s.clientNode = endpoint.nodeId := by
  obtain ⟨n, hn⟩ := Nat.exists_eq_succ_of_ne_zero hpos.ne'
  rw [Service.clientNode, h, hn, serviceClients, List.range_succ_eq_map]
  rfl

theorem toString_inj {m n : ℕ} (h : toString m = toString n) : m = n := by
  have hdigits : Nat.toDigits 10 m = Nat.toDigits 10 n := by
    rw [← Nat.toList_repr, ← Nat.toList_repr]
    exact congrArg String.toList h
  rw [← Nat.ofDigitChars_toDigits (b := 10) (n := m) (by decide) (by decide),
    hdigits, Nat.ofDigitChars_toDigits (by decide) (by decide)]

/-- The clients of a Service have distinct names. -/
theorem nodup_clientNames (namePrefix : String) (maxClients : ℕ)
    (endpoint : Endpoint) :
    ((serviceClients namePrefix maxClients endpoint).map Client.name).Nodup := by
  rw [serviceClients, List.map_map]
  refine List.Nodup.map ?_ List.nodup_range
  intro i j h
  have hname : namePrefix ++ "_" ++ toString i =
      namePrefix ++ "_" ++ toString j := h
  rw [String.ext_iff] at hname
  simp only [String.toList_append, List.append_cancel_left_eq] at hname
  exact toString_inj (String.ext_iff.mpr hname)

/-- The two channels of a client. -/
def Client.channelIds (client : Client) : List ℕ :=
  [client.requestChannelId, client.responseChannelId]

/-- The channels of a Service are distinct. -/
theorem nodup_channelIds (namePrefix : String) (maxClients : ℕ)
    (endpoint : Endpoint) :
    ((serviceClients namePrefix maxClients endpoint).flatMap
      Client.channelIds).Nodup := by
  rw [serviceClients, List.flatMap_map, List.nodup_flatMap]
  constructor
  · intro index _
    simp [Client.channelIds]
  · refine List.nodup_range.imp ?_
    intro i j hne
    simp only [Function.onFun, Client.channelIds, List.disjoint_cons_left,
      List.disjoint_nil_left, List.mem_cons, List.not_mem_nil, or_false,
      and_true]
    omega

/-! ## Documents -/

def PduSize.toValue (size : PduSize) : Value :=
  .dict [("heapSize", .int size.heapSize), ("baseSize", .int size.baseSize)]

def Client.toValue (client : Client) : Value :=
  .dict
    [("name", .str client.name),
     ("requestChannelId", .int client.requestChannelId),
     ("responseChannelId", .int client.responseChannelId),
     ("client_endpoint", client.clientEndpoint.toValue)]

/-- The fields of a Service before and after its server endpoint. -/
def Service.leading (service : Service) : Fields :=
  [("name", .str service.name),
   ("type", .str service.type),
   ("maxClients", .int service.maxClients),
   ("pduSize", .dict
     [("server", service.serverSize.toValue),
      ("client", service.clientSize.toValue)])]

def Service.trailing (service : Service) : Fields :=
  [("clients", .list (service.clients.map Client.toValue))]

/-- `resolved-service.json`. -/
def Resolved.toValue (resolved : Resolved) : Value :=
  .dict
    [("version", .int 1),
     ("services", .list (resolved.services.map fun service =>
       .dict (service.leading ++
         [("serverEndpoint", service.serverEndpoint.toValue)] ++
         service.trailing))),
     ("transport", resolved.transport.toValue)]

/-- An entry of a file of services. -/
def Service.entry (service : Service) (serverEndpoints : List Value) : Value :=
  .dict (service.leading ++ service.trailing ++
    [("server_endpoints", .list serverEndpoints)])

/-- A file of services. -/
def servicesFile (entries : List Value) : Value :=
  .dict
    [("pduMetaDataSize", .int pduMetadataSize), ("services", .list entries)]

/-- `rpc-server-services.json`. -/
def serverServices (services : List Service) : Value :=
  servicesFile (services.map fun service =>
    service.entry [service.serverEndpoint.toValue])

/-- `rpc-client-services.json`. -/
def clientServices (services : List Service) : Value :=
  servicesFile (services.map fun service => service.entry [])

/-- The numbers that a file of services has of a Service can be read. -/
structure Service.Readable (service : Service) : Prop where
  maxClients : service.maxClients < doubleOverflow
  serverHeap : service.serverSize.heapSize < doubleOverflow
  serverBase : service.serverSize.baseSize < doubleOverflow
  clientHeap : service.clientSize.heapSize < doubleOverflow
  clientBase : service.clientSize.baseSize < doubleOverflow
  channels : ∀ c ∈ service.clients, ∀ id ∈ c.channelIds, id < doubleOverflow

theorem readable_client (client : Client) :
    client.toValue.readable = true ↔
      ∀ id ∈ client.channelIds, id < doubleOverflow := by
  simp [Client.toValue, Client.channelIds, Endpoint.toValue]

/-- An entry can be read when its numbers can. -/
theorem readable_entry (service : Service) {servers : List Value}
    (hservers : ∀ server ∈ servers, server.readable = true) :
    (service.entry servers).readable = true ↔ service.Readable := by
  have hentry : (service.entry servers).readable = true ↔
      service.maxClients < doubleOverflow ∧
        ((service.serverSize.heapSize < doubleOverflow ∧
            service.serverSize.baseSize < doubleOverflow) ∧
          (service.clientSize.heapSize < doubleOverflow ∧
            service.clientSize.baseSize < doubleOverflow)) ∧
        ∀ c ∈ service.clients, c.toValue.readable = true := by
    simpa [Service.entry, Service.leading, Service.trailing, PduSize.toValue]
      using fun _ _ _ _ _ _ => hservers
  rw [hentry]
  constructor
  · rintro ⟨hmax, ⟨⟨hheap, hbase⟩, hheap', hbase'⟩, hclients⟩
    exact ⟨hmax, hheap, hbase, hheap', hbase',
      fun c hc => (readable_client c).mp (hclients c hc)⟩
  · rintro ⟨hmax, hheap, hbase, hheap', hbase', hchannels⟩
    exact ⟨hmax, ⟨⟨hheap, hbase⟩, hheap', hbase'⟩,
      fun c hc => (readable_client c).mpr (hchannels c hc)⟩

theorem readable_servicesFile (entries : List Value) :
    (servicesFile entries).readable = true ↔
      ∀ entry ∈ entries, entry.readable = true := by
  have hmeta : pduMetadataSize < doubleOverflow :=
    lt_doubleOverflow (by decide)
  simp [servicesFile, hmeta]

theorem readable_serverServices (services : List Service) :
    (serverServices services).readable = true ↔
      ∀ service ∈ services, service.Readable := by
  rw [serverServices, readable_servicesFile, List.forall_mem_map]
  exact forall₂_congr fun service _ =>
    readable_entry service (by simp [Endpoint.toValue])

theorem readable_clientServices (services : List Service) :
    (clientServices services).readable = true ↔
      ∀ service ∈ services, service.Readable := by
  rw [clientServices, readable_servicesFile, List.forall_mem_map]
  exact forall₂_congr fun service _ => readable_entry service (by simp)

/-- `pdudef.json`. -/
def pduDefFile : Value :=
  .dict
    [("robots", .list
      [.dict
        [("name", .str "HakoniwaRpcService"),
         ("rpc_pdu_readers", .list []),
         ("rpc_pdu_writers", .list []),
         ("shm_pdu_readers", .list []),
         ("shm_pdu_writers", .list [])]])]

/-- `expected_by_server`. -/
def expectedByServer (services : List Service) (node : String) : ℕ :=
  ((services.filter (·.serverEndpoint.nodeId = node)).map
    Service.maxClients).sum

/-- `generate`: the files in the order in which they are written, with their
paths below the output directory. -/
def generate (manifest : Fields) : Except String (List (String × Value)) := do
  let resolved ← resolve manifest
  let written ←
    (nodeFiles resolved.transport.packetVersion
      (expectedByServer resolved.services)).write resolved.transport.endpoints
  .ok
    ([("resolved-service.json", resolved.toValue),
      ("rpc-server-services.json", serverServices resolved.services),
      ("rpc-client-services.json", clientServices resolved.services),
      ("queue.json", queueFile "service_queue_buffer" resolved.transport),
      ("pdudef.json", pduDefFile)] ++
     written.1 ++ [("endpoints.json", .list written.2)])

/-- The manifest of `test_generate_service_config.py`, for Services of these names
on these server nodes. -/
def sampleManifest (services : List (String × String)) : Fields :=
  [("version", .int 1),
   ("services", .list (services.map fun service =>
     .dict
       [("name", .str service.1),
        ("type", .str "hako_srv_msgs/AddTwoInts"),
        ("maxClients", .int 2),
        ("clientNamePrefix", .str "hakoniwa_pdu_ros_add"),
        ("packetSize", .dict
          [("requestBaseSize", .int 296), ("responseBaseSize", .int 288)]),
        ("bufferHeap", .dict
          [("requestSize", .int 64), ("responseSize", .int 128)]),
        ("clientEndpoint", .dict [("nodeId", .str "ros-service")]),
        ("serverEndpoint", .dict [("nodeId", .str service.2)])])),
   ("transport", .dict
     [("protocol", .str "tcp"),
      ("packetVersion", .str "v2"),
      ("queueDepth", .int 16),
      ("endpoints", .dict
        (("ros-service", .dict
          [("role", .str "client"),
           ("remote", .dict
             [("address", .str "127.0.0.1"), ("port", .int 54010)]),
           ("options", .dict [("connect_timeout_ms", .int 2000)])]) ::
         services.map fun service => (service.2, .dict
          [("role", .str "server"),
           ("local", .dict
             [("address", .str "0.0.0.0"), ("port", .int 54010)])])))])]

end ServiceManifest
end Config
end HakoPduRpc
