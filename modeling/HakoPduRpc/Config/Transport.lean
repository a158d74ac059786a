import HakoPduRpc.Config.Values
import HakoPduRpc.Lib.KeyedList
import Mathlib.Data.List.Dedup

/-!
# The transport section of a manifest

The two generators read the same `transport` section: one TCP deployment for
each node that the Actions or the Services refer to, and for no other node.
-/

namespace HakoPduRpc
namespace Config

/-- The loop `[f(entry, index) for index, entry in enumerate(entries)]`. -/
def enumerate {α : Type} (f : Value → ℕ → Except String α) :
    ℕ → List Value → Except String (List α)
  | _, [] => .ok []
  | index, entry :: rest => do
      let first ← f entry index
      let later ← enumerate f (index + 1) rest
      .ok (first :: later)

theorem enumerate_ok {α : Type} {f : Value → ℕ → Except String α} {index : ℕ}
    {entries : List Value} {results : List α}
    (h : enumerate f index entries = .ok results) :
    List.Forall₂ (fun entry result => ∃ index, f entry index = .ok result)
      entries results := by
  induction entries generalizing index results with
  | nil =>
      obtain rfl : [] = results := Except.ok.inj h
      exact .nil
  | cons entry rest ih =>
      obtain ⟨first, hfirst, h⟩ := Action.except_bind_eq_ok h
      obtain ⟨later, hlater, h⟩ := Action.except_bind_eq_ok h
      obtain rfl : first :: later = results := Except.ok.inj h
      exact .cons ⟨index, hfirst⟩ (ih hlater)

/-- What is in the second list is related to something. -/
theorem exists_of_forall₂ {α β : Type} {R : α → β → Prop} {l : List α}
    {l' : List β} (h : List.Forall₂ R l l') {b : β} (hb : b ∈ l') :
    ∃ a ∈ l, R a b := by
  induction h with
  | nil => cases hb
  | @cons a _ _ _ hfirst _ ih =>
      rcases List.mem_cons.mp hb with rfl | hb
      · exact ⟨a, List.mem_cons_self, hfirst⟩
      · obtain ⟨a, ha, hrel⟩ := ih hb
        exact ⟨a, List.mem_cons_of_mem _ ha, hrel⟩

/-! ## References -/

/-- A node and its endpoint id. -/
structure Endpoint where
  nodeId : String
  endpointId : String
deriving DecidableEq

def Endpoint.toValue (endpoint : Endpoint) : Value :=
  .dict
    [("nodeId", .str endpoint.nodeId), ("endpointId", .str endpoint.endpointId)]

/-- The node that one side of an Action or of a Service refers to. -/
def referencedNode (path : String) (value : Value) : Except String String := do
  let endpoint ← object value path
  refuseUnknown ["nodeId"] path endpoint
  text (endpoint.get "nodeId") (path ++ ".nodeId")

theorem referencedNode_ok {path node : String} {value : Value}
    (h : referencedNode path value = .ok node) : node ≠ "" := by
  unfold referencedNode at h
  obtain ⟨endpoint, -, h⟩ := Action.except_bind_eq_ok h
  obtain ⟨-, -, h⟩ := Action.except_bind_eq_ok h
  exact (text_ok h).2

/-! ## Deployments -/

inductive Role
  | server
  | client
deriving DecidableEq

def Role.name : Role → String
  | .server => "server"
  | .client => "client"

/-- The key of the address of a node in this role. -/
def Role.addressKey : Role → String
  | .server => "local"
  | .client => "remote"

def Role.forbiddenKey : Role → String
  | .server => "remote"
  | .client => "local"

/-- An entry of the resolved `transport.endpoints`. -/
structure Deployment where
  role : Role
  address : String
  port : ℕ
  options : Fields

/-- The role of a node. -/
def readRole (value : Value) (path : String) : Except String Role := do
  let role ← text value path
  if role = "server" then .ok .server
  else if role = "client" then .ok .client
  else .error (path ++ " must be 'server' or 'client'")

/-- `_transport_endpoint`. -/
def transportEndpoint (nodeId : String) (entry : Value) :
    Except String Deployment := do
  let path := "transport.endpoints." ++ nodeId
  let endpoint ← object entry path
  refuseUnknown ["role", "local", "remote", "options"] path endpoint
  let role ← readRole (endpoint.get "role") (path ++ ".role")
  refuseIf ((endpoint.find role.forbiddenKey).isSome = true)
    (path ++ "." ++ role.forbiddenKey ++ " is not valid for role '" ++
      role.name ++ "'")
  let addressPath := path ++ "." ++ role.addressKey
  let address ← object (endpoint.get role.addressKey) addressPath
  refuseUnknown ["address", "port"] addressPath address
  let options ← object (endpoint.getOr "options" (.dict [])) (path ++ ".options")
  let host ← text (address.get "address") (addressPath ++ ".address")
  let number ← port (address.get "port") (addressPath ++ ".port")
  .ok { role := role, address := host, port := number, options := options }

/-- The resolved `transport` section. -/
structure Transport where
  packetVersion : String
  queueDepth : ℕ
  endpoints : List (String × Deployment)

/-- `sorted(set(nodes))`. -/
def sortedNodes (nodes : List String) : List String :=
  nodes.dedup.insertionSort fun a b => a ≤ b

@[simp] theorem mem_sortedNodes {nodes : List String} {node : String} :
    node ∈ sortedNodes nodes ↔ node ∈ nodes := by
  rw [sortedNodes, List.mem_insertionSort, List.mem_dedup]

theorem nodup_sortedNodes (nodes : List String) : (sortedNodes nodes).Nodup :=
  (List.perm_insertionSort _ _).nodup_iff.mpr nodes.nodup_dedup

/-- The deployments of these nodes. -/
def deployments (rawEndpoints : Fields) :
    List String → Except String (List (String × Deployment))
  | [] => .ok []
  | node :: rest => do
      let deployment ← transportEndpoint node (rawEndpoints.get node)
      let later ← deployments rawEndpoints rest
      .ok ((node, deployment) :: later)

/-- What holds of the deployments of these nodes. -/
structure AreDeployments (nodes : List String)
    (endpoints : List (String × Deployment)) : Prop where
  names : endpoints.map Prod.fst = nodes
  port_le : ∀ e ∈ endpoints, e.2.port ≤ 65535

theorem transportEndpoint_ok {node : String} {entry : Value} {d : Deployment}
    (h : transportEndpoint node entry = .ok d) : d.port ≤ 65535 := by
  unfold transportEndpoint at h
  obtain ⟨endpoint, -, h⟩ := Action.except_bind_eq_ok h
  obtain ⟨-, -, h⟩ := Action.except_bind_eq_ok h
  obtain ⟨role, -, h⟩ := Action.except_bind_eq_ok h
  obtain ⟨-, -, h⟩ := Action.except_bind_eq_ok h
  obtain ⟨address, -, h⟩ := Action.except_bind_eq_ok h
  obtain ⟨-, -, h⟩ := Action.except_bind_eq_ok h
  obtain ⟨options, -, h⟩ := Action.except_bind_eq_ok h
  obtain ⟨host, -, h⟩ := Action.except_bind_eq_ok h
  obtain ⟨number, hnumber, h⟩ := Action.except_bind_eq_ok h
  obtain ⟨i, -, haccepts, hi⟩ := integer_ok hnumber
  simp only [decide_eq_true_eq] at haccepts
  obtain rfl := Except.ok.inj h
  change number ≤ 65535
  omega

theorem deployments_ok {rawEndpoints : Fields} {nodes : List String}
    {endpoints : List (String × Deployment)}
    (h : deployments rawEndpoints nodes = .ok endpoints) :
    AreDeployments nodes endpoints := by
  induction nodes generalizing endpoints with
  | nil =>
      obtain rfl : [] = endpoints := Except.ok.inj h
      exact ⟨rfl, by simp⟩
  | cons node rest ih =>
      obtain ⟨deployment, hdeployment, h⟩ := Action.except_bind_eq_ok h
      obtain ⟨later, hlater, h⟩ := Action.except_bind_eq_ok h
      obtain rfl : (node, deployment) :: later = endpoints := Except.ok.inj h
      obtain ⟨hnames, hports⟩ := ih hlater
      constructor
      · rw [List.map_cons, hnames]
      · rw [List.forall_mem_cons]
        exact ⟨transportEndpoint_ok hdeployment, hports⟩

/-- The part of `resolve` that the generators have in common: the `transport`
section for the nodes that are referred to. -/
def resolveTransport (manifest : Fields) (referencedNodes : List String) :
    Except String Transport := do
  let transport ← object (manifest.get "transport") "transport"
  refuseUnknown ["protocol", "packetVersion", "queueDepth", "endpoints"]
    "transport" transport
  refuseIf (¬isText "tcp" (transport.get "protocol"))
    "transport.protocol must be 'tcp' in the initial implementation"
  let packetVersion ← oneOf ["v1", "v2"]
    "transport.packetVersion must be 'v1' or 'v2'"
    (transport.getOr "packetVersion" (.str "v2"))
  let queueDepth ← positiveInt (transport.getOr "queueDepth" (.int 64))
    "transport.queueDepth"
  let rawEndpoints ← object (transport.get "endpoints") "transport.endpoints"
  let known := rawEndpoints.map Prod.fst
  let missing := sortedNodes (referencedNodes.filter (· ∉ known))
  let extra := sortedNodes (known.filter (· ∉ referencedNodes))
  refuseIf (missing ≠ [])
    ("transport.endpoints is missing referenced nodeIds: " ++
      String.intercalate ", " missing)
  refuseIf (extra ≠ [])
    ("transport.endpoints has unreferenced nodeIds: " ++
      String.intercalate ", " extra)
  let endpoints ← deployments rawEndpoints (sortedNodes referencedNodes)
  .ok ⟨packetVersion, queueDepth, endpoints⟩

/-- The resolved section has one deployment for each node that is referred to,
in order. -/
theorem resolveTransport_ok {manifest : Fields} {nodes : List String}
    {transport : Transport} (h : resolveTransport manifest nodes = .ok transport) :
    AreDeployments (sortedNodes nodes) transport.endpoints := by
  unfold resolveTransport at h
  obtain ⟨fields, -, h⟩ := Action.except_bind_eq_ok h
  obtain ⟨-, -, h⟩ := Action.except_bind_eq_ok h
  obtain ⟨-, -, h⟩ := Action.except_bind_eq_ok h
  obtain ⟨packetVersion, -, h⟩ := Action.except_bind_eq_ok h
  obtain ⟨queueDepth, -, h⟩ := Action.except_bind_eq_ok h
  obtain ⟨rawEndpoints, -, h⟩ := Action.except_bind_eq_ok h
  obtain ⟨-, -, h⟩ := Action.except_bind_eq_ok h
  obtain ⟨-, -, h⟩ := Action.except_bind_eq_ok h
  obtain ⟨endpoints, hendpoints, h⟩ := Action.except_bind_eq_ok h
  rw [← Except.ok.inj h]
  exact deployments_ok hendpoints

/-- `endpoints[node]["role"]`. -/
def roleOf (endpoints : List (String × Deployment)) (node : String) :
    Option Role :=
  (KeyedList.lookup Prod.fst node endpoints).map (·.2.role)

/-! ## Documents -/

def Deployment.toValue (d : Deployment) : Value :=
  .dict
    [("role", .str d.role.name),
     (d.role.addressKey,
       .dict [("address", .str d.address), ("port", .int d.port)]),
     ("options", .dict d.options)]

def Transport.toValue (transport : Transport) : Value :=
  .dict
    [("protocol", .str "tcp"),
     ("packetVersion", .str transport.packetVersion),
     ("queueDepth", .int transport.queueDepth),
     ("endpoints", .dict (transport.endpoints.map fun e => (e.1, e.2.toValue)))]

/-- The numbers that a manifest gives to the transport section without a bound
can be read. -/
structure Transport.Readable (transport : Transport) : Prop where
  queueDepth : transport.queueDepth < doubleOverflow
  options : ∀ e ∈ transport.endpoints, (Value.dict e.2.options).readable = true

theorem readable_deployment {d : Deployment} (hport : d.port ≤ 65535) :
    d.toValue.readable = true ↔ (Value.dict d.options).readable = true := by
  have hreadable : d.port < doubleOverflow :=
    lt_doubleOverflow (hport.trans (by decide))
  simp [Deployment.toValue, hreadable]

theorem readable_transport {nodes : List String} {transport : Transport}
    (h : AreDeployments nodes transport.endpoints) :
    transport.toValue.readable = true ↔ transport.Readable := by
  have hreadable : transport.toValue.readable = true ↔
      transport.queueDepth < doubleOverflow ∧
        ∀ e ∈ transport.endpoints, e.2.toValue.readable = true := by
    simp only [Transport.toValue, readable_dict, List.forall_mem_cons,
      List.forall_mem_map, readable_str, readable_int, List.not_mem_nil,
      false_implies, implies_true, and_true, true_and]
  rw [hreadable]
  constructor
  · rintro ⟨hdepth, hendpoints⟩
    refine ⟨hdepth, fun e he => ?_⟩
    exact (readable_deployment (h.port_le e he)).mp (hendpoints e he)
  · rintro ⟨hdepth, hoptions⟩
    refine ⟨hdepth, fun e he => ?_⟩
    exact (readable_deployment (h.port_le e he)).mpr (hoptions e he)

/-- `queue.json`. -/
def queueFile (name : String) (transport : Transport) : Value :=
  .dict
    [("type", .str "buffer"),
     ("name", .str name),
     ("store", .dict
       [("mode", .str "queue"), ("depth", .int transport.queueDepth)])]

/-- The transport file of a deployment.  A server may leave its role to the
`local` address. -/
structure Carries (d : Deployment) (file : Fields) : Prop where
  role : file.find "role" = some (.str d.role.name) ∨
    file.find "role" = none ∧ d.role = .server
  address : file.find d.role.addressKey =
    some (.dict [("address", .str d.address), ("port", .int d.port)])
  noOther : file.find d.role.forbiddenKey = none
  options : file.find "options" = some (.dict d.options)

/-- The id and the configuration file that an entry of `endpoints.json` gives
for its node. -/
def containerEndpoint (entry : Fields) : Option (Value × Value) :=
  match entry.find "endpoints" with
  | some (.list [.dict endpoint]) =>
      some (Fields.get "id" endpoint, Fields.get "config_path" endpoint)
  | _ => none

/-- How a generator names and fills the files of one node. -/
structure NodeFiles where
  message : String
  suffix : String
  endpointFile : String → String → Fields
  transportFile : String → String → Deployment → Fields
  containerEntry : String → String → String → Fields
  comm_endpointFile : ∀ id comm,
    (endpointFile id comm).find "comm" = some (.str comm)
  carries_transportFile : ∀ node id d, Carries d (transportFile node id d)
  nodeId_containerEntry : ∀ node id path,
    (containerEntry node id path).find "nodeId" = some (.str node)
  containerEndpoint_containerEntry : ∀ node id path,
    containerEndpoint (containerEntry node id path) = some (.str id, .str path)

namespace NodeFiles

variable (L : NodeFiles)

/-- `_endpoint_id`. -/
def endpointId (node : String) : Except String String := do
  let id ← safeId L.message node
  .ok (id ++ L.suffix)

def endpointPath (node : String) : String :=
  "endpoints/" ++ normalized node ++ ".json"

def transportPath (node : String) : String :=
  "transport/" ++ normalized node ++ ".json"

/-- The endpoint id, when there is one. -/
def idOf (node : String) : String := normalized node ++ L.suffix

theorem endpointId_ok {node id : String} (h : L.endpointId node = .ok id) :
    normalized node ≠ "" ∧ id = L.idOf node := by
  unfold endpointId safeId at h
  split_ifs at h with hempty
  · cases h
  · exact ⟨hempty, (Except.ok.inj h).symm⟩

theorem endpointId_of_ne {node : String} (h : normalized node ≠ "") :
    L.endpointId node = .ok (L.idOf node) := by
  rw [endpointId, safeId, if_neg h]
  rfl

/-- The two files of a node. -/
def filesOf (node : String) (d : Deployment) : List (String × Value) :=
  [(endpointPath node,
    .dict (L.endpointFile (L.idOf node) ("../" ++ transportPath node))),
   (transportPath node, .dict (L.transportFile node (L.idOf node) d))]

/-- The loop of `generate`: the files that it writes, and the entries of
`endpoints.json`. -/
def write : List (String × Deployment) →
    Except String (List (String × Value) × List Value)
  | [] => .ok ([], [])
  | (node, deployment) :: rest => do
      let id ← L.endpointId node
      let later ← write rest
      .ok
        ([(endpointPath node,
            .dict (L.endpointFile id ("../" ++ transportPath node))),
          (transportPath node, .dict (L.transportFile node id deployment))] ++
            later.1,
        .dict (L.containerEntry node id (endpointPath node)) :: later.2)

/-- The loop ends when every node has an endpoint id. -/
theorem write_eq {endpoints : List (String × Deployment)}
    (h : ∀ e ∈ endpoints, normalized e.1 ≠ "") :
    L.write endpoints =
      .ok (endpoints.flatMap fun e => L.filesOf e.1 e.2,
        endpoints.map fun e =>
          .dict (L.containerEntry e.1 (L.idOf e.1) (endpointPath e.1))) := by
  induction endpoints with
  | nil => rfl
  | cons e rest ih =>
      obtain ⟨node, deployment⟩ := e
      have hnode : normalized node ≠ "" := h (node, deployment) List.mem_cons_self
      rw [write, ih fun e he => h e (List.mem_cons_of_mem _ he),
        L.endpointId_of_ne hnode]
      rfl

end NodeFiles

end Config
end HakoPduRpc
