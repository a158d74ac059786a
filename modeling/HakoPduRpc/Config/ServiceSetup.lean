import HakoPduRpc.Config.ServiceManifest
import HakoPduRpc.Rpc.ServicesServer

/-!
# Setting up the services from a file

`RpcServicesServer::initialize_services_impl` and the `initialize` of the two RPC
endpoints read the files of services with `nlohmann::json`.  An exception and a
`return false` are an error here; what has been registered before it is left out.
The endpoints themselves are of another library: of them it matters whether they
are there and whether they have a PDU definition.
-/

namespace HakoPduRpc
namespace Config
namespace ServiceSetup

open HakoPduRpc.Action (Json)

/-! ## Reading -/

/-- The `static_cast` of a floating-point number, which C++ leaves undefined out
of the range of the result. -/
structure Casts where
  size : String → UInt64
  channelId : String → UInt32

/-- `object[key]` of a constant object. -/
def member (object : Json) (key : String) : Except String Json :=
  match object.find key with
  | some value => .ok value
  | none => .error ("key '" ++ key ++ "' not found")

/-- What a `for` loop sees of a value. -/
def elements : Json → List Json
  | .array items => items
  | .object fields => fields.map Prod.snd
  | .null => []
  | value => [value]

def asString : Json → Except String String
  | .string value => .ok value
  | _ => .error "type must be string"

/-- `get<size_t>`. -/
def asSize (casts : Casts) : Json → Except String UInt64
  | .numberUnsigned value => .ok value
  | .numberInteger value => .ok (UInt64.ofInt value)
  | .numberFloat text => .ok (casts.size text)
  | _ => .error "type must be number"

/-- The conversion to `HakoPduChannelIdType`. -/
def asChannelId (casts : Casts) : Json → Except String UInt32
  | .numberUnsigned value => .ok value.toUInt32
  | .numberInteger value => .ok (UInt32.ofInt value)
  | .numberFloat text => .ok (casts.channelId text)
  | .boolean value => .ok (if value then 1 else 0)
  | _ => .error "type must be number"

/-- `object.value(key, false)`. -/
def flag (object : Json) (key : String) : Except String Bool :=
  match object.find key with
  | none => .ok false
  | some (.boolean value) => .ok value
  | some _ => .error "type must be boolean"

/-- `value != text`. -/
def differs (text : String) : Json → Bool
  | .string value => value ≠ text
  | _ => true

/-- `contains(key)`, and the member. -/
def required (object : Json) (key message : String) : Except String Json :=
  match object.find key with
  | some value => .ok value
  | none => .error message

/-! ## PDU definitions -/

/-- `PduDef`. -/
structure PduDef where
  orgName : String
  name : String
  channelId : UInt32
  pduSize : UInt64
  methodType : String := "RPC"
deriving DecidableEq

/-- `pduSize[baseSide]["baseSize"] + pduSize[heapSide]["heapSize"]` and the
metadata. -/
def pduSizeOf (casts : Casts) (service : Json) (metaDataSize : UInt64)
    (baseSide heapSide : String) : Except String UInt64 := do
  let pduSize ← member service "pduSize"
  let base ← member pduSize baseSide
  let baseSize ← member base "baseSize"
  let baseValue ← asSize casts baseSize
  let heap ← member pduSize heapSide
  let heapSize ← member heap "heapSize"
  let heapValue ← asSize casts heapSize
  .ok (baseValue + heapValue + metaDataSize)

/-- The size of a request. -/
def requestPduSize (casts : Casts) (service : Json) (metaDataSize : UInt64) :
    Except String UInt64 :=
  pduSizeOf casts service metaDataSize "server" "client"

/-- The size of a response. -/
def responsePduSize (casts : Casts) (service : Json) (metaDataSize : UInt64) :
    Except String UInt64 :=
  pduSizeOf casts service metaDataSize "client" "server"

/-- The channel id under a key. -/
def channelIdOf (casts : Casts) (object : Json) (key : String) :
    Except String UInt32 := do
  let value ← member object key
  asChannelId casts value

/-- The definitions of a client, which the server and the client register. -/
structure ClientSetup where
  clientName : String
  request : PduDef
  response : PduDef
deriving DecidableEq

/-- The two definitions of a client, from the service and its own entry. -/
def clientSetup (casts : Casts) (serviceName : String) (service : Json)
    (metaDataSize : UInt64) (clientName : String) (client : Json) :
    Except String ClientSetup := do
  let requestChannelId ← channelIdOf casts client "requestChannelId"
  let requestSize ← requestPduSize casts service metaDataSize
  let responseChannelId ← channelIdOf casts client "responseChannelId"
  let responseSize ← responsePduSize casts service metaDataSize
  .ok
    { clientName := clientName
      request :=
        { orgName := clientName ++ "Req"
          name := serviceName ++ "_" ++ (clientName ++ "Req")
          channelId := requestChannelId
          pduSize := requestSize }
      response :=
        { orgName := clientName ++ "Res"
          name := serviceName ++ "_" ++ (clientName ++ "Res")
          channelId := responseChannelId
          pduSize := responseSize } }

/-! ## The server endpoint -/

/-- What the server keeps of a service with dynamic clients. -/
structure DynamicSetup where
  request : PduDef
  responseChannelId : UInt32
  responsePduSize : UInt64
deriving DecidableEq

/-- What `RpcServerEndpointImpl::initialize` sets up. -/
structure ServerSetup where
  serviceName : String
  maxClients : UInt64
  dynamicClient : Option DynamicSetup
  clients : List ClientSetup
deriving DecidableEq

/-- The definitions that are added for the service, in order. -/
def ServerSetup.definitions (setup : ServerSetup) : List PduDef :=
  (setup.dynamicClient.map DynamicSetup.request).toList ++
    setup.clients.flatMap fun client => [client.request, client.response]

/-- One round of the loop over the clients; nothing is set up for a client of
another node. -/
def serverClient (casts : Casts) (serviceName : String) (service : Json)
    (metaDataSize : UInt64) (clientNodeId : Option String) (client : Json) :
    Except String (List ClientSetup) := do
  let name ← member client "name"
  let clientName ← asString name
  let endpoint ← required client "client_endpoint"
    ("'client_endpoint' is missing for client " ++ clientName)
  let nodeId ← required endpoint "nodeId"
    ("'nodeId' is missing in 'client_endpoint' for client " ++ clientName)
  if clientNodeId.any (differs · nodeId) then .ok []
  else do
    let setup ← clientSetup casts serviceName service metaDataSize clientName
      client
    .ok [setup]

/-- The loop over the clients. -/
def serverClients (casts : Casts) (serviceName : String) (service : Json)
    (metaDataSize : UInt64) (clientNodeId : Option String) :
    List Json → Except String (List ClientSetup)
  | [] => .ok []
  | client :: rest => do
      let first ← serverClient casts serviceName service metaDataSize
        clientNodeId client
      let later ← serverClients casts serviceName service metaDataSize
        clientNodeId rest
      .ok (first ++ later)

/-- The setup of a service with dynamic clients. -/
def dynamicSetup (casts : Casts) (serviceName : String) (service : Json)
    (metaDataSize : UInt64) : Except String DynamicSetup := do
  let requestChannelId ← channelIdOf casts service "requestChannelId"
  let responseChannelId ← channelIdOf casts service "responseChannelId"
  let requestSize ← requestPduSize casts service metaDataSize
  let responseSize ← responsePduSize casts service metaDataSize
  .ok
    { request :=
        { orgName := "Req"
          name := serviceName ++ "_Req"
          channelId := requestChannelId
          pduSize := requestSize }
      responseChannelId := responseChannelId
      responsePduSize := responseSize }

/-- `RpcServerEndpointImpl::initialize` on an endpoint with or without a PDU
definition. -/
def initializeServer (casts : Casts) (hasDefinition : Bool) (service : Json)
    (metaDataSize : UInt64) (clientNodeId : Option String) :
    Except String ServerSetup := do
  let maxClients ← member service "maxClients"
  let maxClients ← asSize casts maxClients
  let name ← member service "name"
  let serviceName ← asString name
  let type ← member service "type"
  let _serviceType ← asString type
  refuseIf (¬hasDefinition) "PDU Definition is not available in the endpoint."
  let dynamicClient ← flag service "dynamicClient"
  if dynamicClient then do
    let setup ← dynamicSetup casts serviceName service metaDataSize
    .ok ⟨serviceName, maxClients, some setup, []⟩
  else do
    let clients ← member service "clients"
    let setups ← serverClients casts serviceName service metaDataSize
      clientNodeId (elements clients)
    .ok ⟨serviceName, maxClients, none, setups⟩

/-- The endpoint that has been set up. -/
def ServerSetup.endpoint (setup : ServerSetup) : Rpc.RpcServerEndpointImpl :=
  setup.clients.foldl (fun endpoint client => endpoint.register client.clientName)
    { serviceName := setup.serviceName
      maxClients := setup.maxClients.toNat
      dynamicClient := setup.dynamicClient.isSome
      registeredClients := []
      serverStates := .empty
      pendingRequests := [] }

/-! ## The client endpoint -/

/-- The loop over the clients, up to the one with this name. -/
def findClient (casts : Casts) (serviceName clientName : String) (service : Json)
    (metaDataSize : UInt64) : List Json → Except String ClientSetup
  | [] => .error ("Client '" ++ clientName ++ "' not found in service config.")
  | client :: rest => do
      let name ← member client "name"
      let found ← asString name
      if found = clientName then
        clientSetup casts serviceName service metaDataSize clientName client
      else findClient casts serviceName clientName service metaDataSize rest

/-- `RpcClientEndpointImpl::initialize` on an endpoint with or without a PDU
definition. -/
def initializeClient (casts : Casts) (hasDefinition : Bool)
    (serviceName clientName : String) (service : Json) (metaDataSize : UInt64) :
    Except String ClientSetup := do
  let name ← member service "name"
  let found ← asString name
  refuseIf (found ≠ serviceName) "Service name mismatch in config."
  refuseIf (¬hasDefinition) "PDU Definition is not available in the endpoint."
  let clients ← member service "clients"
  findClient casts serviceName clientName service metaDataSize (elements clients)

/-! ## The services -/

/-- Where the services take their endpoints from: a container, which is asked
for an id, or one endpoint for all of them.  An endpoint is given by whether it
has a PDU definition. -/
inductive EndpointSource
  | container (ref : String → Option Bool)
  | direct (hasDefinition : Bool)

/-- The loop over `server_endpoints`. -/
def findServerEndpoint (nodeId : String) (message : String) :
    List Json → Except String String
  | [] => .error message
  | reference :: rest => do
      let node ← member reference "nodeId"
      if differs nodeId node then findServerEndpoint nodeId message rest
      else do
        let id ← member reference "endpointId"
        asString id

/-- `service_entry["server_endpoints"]`, if it is an array. -/
def serverEndpoints (service : Json) (message : String) :
    Except String (List Json) :=
  match service.find "server_endpoints" with
  | some (.array references) => .ok references
  | _ => .error message

/-- The endpoint of a service. -/
def serviceEndpoint (source : EndpointSource) (nodeId serviceName : String)
    (service : Json) : Except String Bool :=
  match source with
  | .direct hasDefinition => .ok hasDefinition
  | .container ref => do
      let references ← serverEndpoints service
        ("'server_endpoints' section missing or not an array for service " ++
          serviceName)
      let id ← findServerEndpoint nodeId
        ("PDU Endpoint not found for service " ++ serviceName ++ " on node " ++
          nodeId ++ ". Check 'server_endpoints' in config.") references
      match ref id with
      | some hasDefinition => .ok hasDefinition
      | none =>
          .error ("PDU Endpoint instance not found for service " ++ serviceName ++
            " on node " ++ nodeId ++ " with endpoint " ++ id ++
            ". Check endpoint configuration.")

/-- `json_config.value("pduMetaDataSize", 24)`, an `int` that is added to
sizes. -/
def metaDataSize (casts : Casts) (root : Json) : Except String UInt64 :=
  match root with
  | .object fields =>
      match (Json.object fields).find "pduMetaDataSize" with
      | none => .ok 24
      | some value => do
          let size ← asChannelId casts value
          .ok (UInt64.ofInt size.toInt32.toInt)
  | _ => .error "cannot use value() with this type"

/-- The loop of `initialize_services_impl` over the services. -/
def initializeEntries (casts : Casts) (nodeId : String) (source : EndpointSource)
    (metaDataSize : UInt64) (clientNodeId : Option String) :
    List Json → Rpc.RpcServicesServer → Except String Rpc.RpcServicesServer
  | [], server => .ok server
  | service :: rest, server => do
      let name ← member service "name"
      let serviceName ← asString name
      let hasDefinition ← serviceEndpoint source nodeId serviceName service
      let setup ← initializeServer casts hasDefinition service metaDataSize
        clientNodeId
      initializeEntries casts nodeId source metaDataSize clientNodeId rest
        ⟨server.rpcEndpoints.assign serviceName setup.endpoint⟩

/-- `RpcServicesServer::initialize_services_impl` on a file; a file without
`services` has none. -/
def initializeServices (casts : Casts) (nodeId : String) (source : EndpointSource)
    (clientNodeId : Option String) (file : Value) :
    Except String Rpc.RpcServicesServer :=
  match file.toJson with
  | none => .error "Failed to parse service config JSON"
  | some root => do
      let size ← metaDataSize casts root
      initializeEntries casts nodeId source size clientNodeId
        (elements ((root.find "services").getD .null)) ⟨.empty⟩

/-! ## Generated files -/

open ServiceManifest

theorem ok_bind {α β : Type} (a : α) (f : α → Except String β) :
    (Except.ok a >>= f) = f a := rfl

theorem member_tree {fields : Fields} {key : String} {value : Value}
    (h : fields.find key = some value) :
    member (Value.dict fields).tree key = .ok value.tree := by
  rw [member, find_tree, h]
  rfl

/-- A size that the generator has written. -/
def sizeValue (casts : Casts) (n : ℕ) : UInt64 :=
  if n ≤ 18446744073709551615 then UInt64.ofNat n
  else casts.size (toString (n : Int))

theorem asSize_tree (casts : Casts) (n : ℕ) :
    asSize casts (Value.int n).tree = .ok (sizeValue casts n) := by
  rw [Value.tree, sizeValue]
  by_cases hn : n ≤ 18446744073709551615
  · rw [if_pos ⟨by omega, by omega⟩, if_pos hn, Int.toNat_natCast]
    rfl
  · rw [if_neg (by omega), if_neg (by omega), if_neg hn]
    rfl

/-- A channel id that the generator has written. -/
def channelValue (casts : Casts) (n : ℕ) : UInt32 :=
  if n ≤ 18446744073709551615 then (UInt64.ofNat n).toUInt32
  else casts.channelId (toString (n : Int))

theorem asChannelId_tree (casts : Casts) (n : ℕ) :
    asChannelId casts (Value.int n).tree = .ok (channelValue casts n) := by
  rw [Value.tree, channelValue]
  by_cases hn : n ≤ 18446744073709551615
  · rw [if_pos ⟨by omega, by omega⟩, if_pos hn, Int.toNat_natCast]
    rfl
  · rw [if_neg (by omega), if_neg (by omega), if_neg hn]
    rfl

section

variable (casts : Casts) (s : Service) (servers : List Value)
variable (size : UInt64)

theorem pduSizeOf_eq {fields pduSize base heap : Fields}
    {baseSide heapSide : String} {m n : ℕ}
    (hsize : fields.find "pduSize" = some (.dict pduSize))
    (hbase : pduSize.find baseSide = some (.dict base))
    (hm : base.find "baseSize" = some (.int m))
    (hheap : pduSize.find heapSide = some (.dict heap))
    (hn : heap.find "heapSize" = some (.int n)) :
    pduSizeOf casts (Value.dict fields).tree size baseSide heapSide =
      .ok (sizeValue casts m + sizeValue casts n + size) := by
  rw [pduSizeOf, member_tree hsize, ok_bind, member_tree hbase, ok_bind,
    member_tree hm, ok_bind, asSize_tree, ok_bind, member_tree hheap,
    ok_bind, member_tree hn, ok_bind, asSize_tree, ok_bind]

theorem requestPduSize_entry :
    requestPduSize casts (s.entry servers).tree size =
      .ok (sizeValue casts s.serverSize.baseSize +
        sizeValue casts s.clientSize.heapSize + size) :=
  pduSizeOf_eq casts size rfl rfl rfl rfl rfl

theorem responsePduSize_entry :
    responsePduSize casts (s.entry servers).tree size =
      .ok (sizeValue casts s.clientSize.baseSize +
        sizeValue casts s.serverSize.heapSize + size) :=
  pduSizeOf_eq casts size rfl rfl rfl rfl rfl

/-- The definitions of a generated client. -/
def generatedSetup (c : Client) : ClientSetup where
  clientName := c.name
  request :=
    { orgName := c.name ++ "Req"
      name := s.name ++ "_" ++ (c.name ++ "Req")
      channelId := channelValue casts c.requestChannelId
      pduSize := sizeValue casts s.serverSize.baseSize +
        sizeValue casts s.clientSize.heapSize + size }
  response :=
    { orgName := c.name ++ "Res"
      name := s.name ++ "_" ++ (c.name ++ "Res")
      channelId := channelValue casts c.responseChannelId
      pduSize := sizeValue casts s.clientSize.baseSize +
        sizeValue casts s.serverSize.heapSize + size }

/-- Both sides make the same definitions of a generated client. -/
theorem clientSetup_entry (c : Client) :
    clientSetup casts s.name (s.entry servers).tree size c.name
        c.toValue.tree =
      .ok (generatedSetup casts s size c) := by
  have hrequest : channelIdOf casts c.toValue.tree "requestChannelId" =
      .ok (channelValue casts c.requestChannelId) := by
    rw [channelIdOf, Client.toValue, member_tree rfl, ok_bind,
      asChannelId_tree]
  have hresponse : channelIdOf casts c.toValue.tree "responseChannelId" =
      .ok (channelValue casts c.responseChannelId) := by
    rw [channelIdOf, Client.toValue, member_tree rfl, ok_bind,
      asChannelId_tree]
  rw [clientSetup, hrequest, ok_bind, requestPduSize_entry, ok_bind, hresponse,
    ok_bind, responsePduSize_entry, ok_bind]
  rfl

/-- A client of another node than the one that is asked for. -/
def isForeign (clientNodeId : Option String) (c : Client) : Bool :=
  clientNodeId.any (c.clientEndpoint.nodeId ≠ ·)

theorem name_client (c : Client) :
    member c.toValue.tree "name" = .ok (.string c.name) := by
  rw [Client.toValue, member_tree rfl, Value.tree]

theorem serverClient_entry (clientNodeId : Option String) (c : Client) :
    serverClient casts s.name (s.entry servers).tree size clientNodeId
        c.toValue.tree =
      .ok (if isForeign clientNodeId c then []
        else [generatedSetup casts s size c]) := by
  have hendpoint : ∀ message, required c.toValue.tree "client_endpoint"
      message = .ok c.clientEndpoint.toValue.tree := by
    intro message
    rw [required, Client.toValue, find_tree]
    rfl
  have hnode : ∀ message, required c.clientEndpoint.toValue.tree "nodeId"
      message = .ok (.string c.clientEndpoint.nodeId) := by
    intro message
    rw [required, Endpoint.toValue, find_tree]
    rfl
  rw [serverClient, name_client, ok_bind, asString, ok_bind, hendpoint, ok_bind,
    hnode, ok_bind]
  change (if isForeign clientNodeId c = true then _ else _) = _
  by_cases hforeign : isForeign clientNodeId c = true
  · rw [if_pos hforeign, if_pos hforeign]
  · rw [if_neg hforeign, if_neg hforeign, clientSetup_entry]
    rfl

/-- The loop over the generated clients. -/
theorem serverClients_entry (clientNodeId : Option String)
    (clients : List Client) :
    serverClients casts s.name (s.entry servers).tree size clientNodeId
        (clients.map fun c => c.toValue.tree) =
      .ok ((clients.filter fun c => !isForeign clientNodeId c).map
        (generatedSetup casts s size)) := by
  induction clients with
  | nil => rfl
  | cons c rest ih =>
      rw [List.map_cons, serverClients, serverClient_entry, ok_bind, ih, ok_bind]
      by_cases hforeign : isForeign clientNodeId c = true
      · simp [hforeign]
      · simp [hforeign]

theorem member_entry {key : String} {value : Value}
    (h : (s.leading ++ s.trailing ++ [("server_endpoints", .list servers)] :
      Fields).find key = some value) :
    member (s.entry servers).tree key = .ok value.tree := by
  rw [Service.entry, member_tree h]

theorem elements_clients :
    elements (Value.list (s.clients.map Client.toValue)).tree =
      s.clients.map fun c => c.toValue.tree := by
  rw [Value.tree, elements, treeList_eq_map, List.map_map]
  rfl

/-- `initialize` of the server, on a generated entry. -/
theorem initializeServer_entry (clientNodeId : Option String) :
    initializeServer casts true (s.entry servers).tree size clientNodeId =
      .ok
        { serviceName := s.name
          maxClients := sizeValue casts s.maxClients
          dynamicClient := none
          clients := (s.clients.filter fun c => !isForeign clientNodeId c).map
            (generatedSetup casts s size) } := by
  have hname : member (s.entry servers).tree "name" = .ok (.string s.name) := by
    rw [member_entry s servers rfl, Value.tree]
  have htype : member (s.entry servers).tree "type" = .ok (.string s.type) := by
    rw [member_entry s servers rfl, Value.tree]
  have hflag : flag (s.entry servers).tree "dynamicClient" = .ok false := by
    rw [flag, Service.entry, find_tree]
    rfl
  rw [initializeServer, member_entry s servers rfl, ok_bind, asSize_tree,
    ok_bind, hname, ok_bind, asString, ok_bind, htype, ok_bind, asString,
    ok_bind, refuseIf_eq_ok_iff (u := ()).mpr (not_not_intro rfl), ok_bind,
    hflag, ok_bind, if_neg Bool.false_ne_true]
  rw [member_entry s servers rfl, ok_bind, elements_clients,
    serverClients_entry]
  rfl

/-- The client finds its own entry when the names differ. -/
theorem findClient_entry {clients : List Client} {c : Client} (hc : c ∈ clients)
    (hnodup : (clients.map Client.name).Nodup) :
    findClient casts s.name c.name (s.entry servers).tree size
        (clients.map fun c => c.toValue.tree) =
      .ok (generatedSetup casts s size c) := by
  induction clients with
  | nil => cases hc
  | cons d rest ih =>
      rw [List.map_cons, List.nodup_cons] at hnodup
      rw [List.map_cons, findClient, name_client, ok_bind, asString, ok_bind]
      by_cases hname : d.name = c.name
      · have hsame : d = c := by
          rcases List.mem_cons.mp hc with rfl | hc
          · rfl
          · exact absurd (hname ▸ List.mem_map_of_mem hc) hnodup.1
        rw [if_pos hname, hsame, clientSetup_entry]
      · have hrest : c ∈ rest := by
          rcases List.mem_cons.mp hc with rfl | hc
          · exact absurd rfl hname
          · exact hc
        rw [if_neg hname, ih hrest hnodup.2]

/-- `initialize` of a client, on a generated entry. -/
theorem initializeClient_entry {c : Client} (hc : c ∈ s.clients)
    (hnodup : (s.clients.map Client.name).Nodup) :
    initializeClient casts true s.name c.name (s.entry servers).tree size =
      .ok (generatedSetup casts s size c) := by
  have hname : member (s.entry servers).tree "name" = .ok (.string s.name) := by
    rw [member_entry s servers rfl, Value.tree]
  rw [initializeClient, hname, ok_bind, asString, ok_bind,
    refuseIf_eq_ok_iff (u := ()).mpr (not_not_intro rfl), ok_bind,
    refuseIf_eq_ok_iff (u := ()).mpr (not_not_intro rfl), ok_bind,
    member_entry s servers rfl, ok_bind, elements_clients]
  exact findClient_entry casts s servers size hc hnodup

end

end ServiceSetup
end Config
end HakoPduRpc
