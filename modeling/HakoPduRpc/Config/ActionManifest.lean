import HakoPduRpc.Config.Transport

/-!
# The Action configuration generator

`resolve` of `action_config_generator.py`: what is accepted of a manifest, and
the document that is made of it.  `Resolved.toValue` is this document as the
generator writes it to `resolved-action.json`.
-/

namespace HakoPduRpc
namespace Config
namespace ActionManifest

/-- `DEFAULT_ACTION_BUFFER_HEAP_SIZE`. -/
def defaultBufferHeapSize : ℕ := 1024 * 1024

/-- `MAX_ACTION_BUFFER_HEAP_SIZE`. -/
def maxBufferHeapSize : ℕ := 2147483647

/-- The files of a node; `packetVersion` is the one of the manifest. -/
def nodeFiles (packetVersion : String) : NodeFiles where
  message := "nodeId cannot produce an Endpoint ID: "
  suffix := "-action-tcp"
  endpointFile id comm :=
    [("name", .str id),
     ("cache", .str "../queue.json"),
     ("comm", .str comm),
     ("recv_cache_write", .bool false)]
  transportFile _ id d :=
    [("protocol", .str "tcp"),
     ("name", .str id),
     ("direction", .str "inout"),
     ("role", .str d.role.name),
     ("comm_raw_version", .str packetVersion),
     ("options", .dict d.options),
     (d.role.addressKey,
       .dict [("address", .str d.address), ("port", .int d.port)])]
  containerEntry node id path :=
    [("nodeId", .str node),
     ("endpoints", .list
       [.dict
         [("id", .str id),
          ("config_path", .str path),
          ("direction", .str "inout"),
          ("mode", .str "action-tcp")]])]
  comm_endpointFile _ _ := rfl
  carries_transportFile _ _ d := by
    obtain ⟨role, address, port, options⟩ := d
    cases role <;> exact ⟨Or.inl rfl, rfl, rfl, rfl⟩
  nodeId_containerEntry _ _ _ := rfl
  containerEndpoint_containerEntry _ _ _ := rfl

/-- `_endpoint_id`. -/
def endpointId (nodeId : String) : Except String String :=
  (nodeFiles "").endpointId nodeId

structure BufferHeap where
  requestSize : ℕ
  responseSize : ℕ
  feedbackSize : ℕ
deriving DecidableEq

/-- The check of one size of `_buffer_heap`. -/
def bufferHeapSize (path key : String) (configured : Fields) :
    Except String ℕ :=
  integer (fun n => 0 ≤ n ∧ n ≤ maxBufferHeapSize)
    (path ++ "." ++ key ++ " must be an integer in 0.." ++
      toString maxBufferHeapSize)
    (configured.getOr key (.int defaultBufferHeapSize))

/-- The sizes that an Action configures. -/
def configuredHeap (action : Fields) (path : String) : Except String Fields :=
  match action.find "bufferHeap" with
  | none => .ok []
  | some configured => object configured path

/-- `_buffer_heap`; the warnings about defaults are left out. -/
def bufferHeap (action : Fields) (index : ℕ) : Except String BufferHeap := do
  let path := "actions[" ++ toString index ++ "].bufferHeap"
  let configured ← configuredHeap action path
  refuseUnknown ["requestSize", "responseSize", "feedbackSize"] path configured
  let requestSize ← bufferHeapSize path "requestSize" configured
  let responseSize ← bufferHeapSize path "responseSize" configured
  let feedbackSize ← bufferHeapSize path "feedbackSize" configured
  .ok ⟨requestSize, responseSize, feedbackSize⟩

/-- An entry of `channels`. -/
structure Channel where
  slotIndex : ℕ
  kind : String
  channelId : ℕ
  channelName : String
  packetType : String
deriving DecidableEq

/-- The suffixes of a channel name, and what `lower` makes of them. -/
def suffixes : List (String × String) :=
  [("Request", "request"), ("Response", "response"), ("Feedback", "feedback")]

/-- `_channels`. -/
def channels (actionType : String) (slotCount : ℕ) : List Channel :=
  (List.range slotCount).flatMap fun slot =>
    suffixes.mapIdx fun offset suffix =>
      { slotIndex := slot
        kind := suffix.2
        channelId := slot * 3 + offset
        channelName := "Slot" ++ toString slot ++ suffix.1
        packetType := actionType ++ "Action" ++ suffix.1 }

/-- An entry of the resolved `actions`. -/
structure Action where
  name : String
  type : String
  slotCount : ℕ
  bufferHeap : BufferHeap
  clientEndpoint : Endpoint
  serverEndpoint : Endpoint
  channels : List Channel
deriving DecidableEq

/-- The node of one side of an Action. -/
def endpointNode (action : Fields) (index : ℕ) (side : String) :
    Except String String :=
  referencedNode ("actions[" ++ toString index ++ "]." ++ side) (action.get side)

/-- The check of `slotCount`. -/
def slotCount (action : Fields) (index : ℕ) : Except String ℕ := do
  let path := "actions[" ++ toString index ++ "].slotCount"
  let count ← positiveInt (action.get "slotCount") path
  refuseIf (count > 4294967295 / 3) (path ++ " exceeds the channel ID range")
  .ok count

/-- `_validate_action`. -/
def validateAction (entry : Value) (index : ℕ) : Except String Action := do
  let path := "actions[" ++ toString index ++ "]"
  let action ← object entry path
  refuseUnknown ["name", "type", "slotCount", "bufferHeap", "clientEndpoint",
    "serverEndpoint"] path action
  let name ← text (action.get "name") (path ++ ".name")
  let actionType ← text (action.get "type") (path ++ ".type")
  refuseIf (¬isPackageType actionType)
    (path ++ ".type must use package/ActionName format")
  let count ← slotCount action index
  let clientNode ← endpointNode action index "clientEndpoint"
  let serverNode ← endpointNode action index "serverEndpoint"
  let heap ← bufferHeap action index
  let clientId ← endpointId clientNode
  let serverId ← endpointId serverNode
  .ok
    { name := name
      type := actionType
      slotCount := count
      bufferHeap := heap
      clientEndpoint := ⟨clientNode, clientId⟩
      serverEndpoint := ⟨serverNode, serverId⟩
      channels := channels actionType count }

/-- What `resolve` returns. -/
structure Resolved where
  actions : List Action
  transport : Transport

/-- The nodes of an Action. -/
def Action.nodes (action : Action) : List String :=
  [action.clientEndpoint.nodeId, action.serverEndpoint.nodeId]

/-- `resolve`. -/
def resolve (manifest : Fields) : Except String Resolved := do
  refuseUnknown ["version", "actions", "transport"] "manifest" manifest
  refuseIf (¬isOne (manifest.get "version")) "version must be 1"
  let rawActions ← nonEmptyList "actions must be a non-empty array"
    (manifest.get "actions")
  let actions ← enumerate validateAction 0 rawActions
  refuseIf (¬(actions.map Action.name).Nodup) "Action names must be unique"
  let transport ← resolveTransport manifest (actions.flatMap Action.nodes)
  let roles := transport.endpoints.map (·.2.role)
  refuseIf (¬(Role.server ∈ roles ∧ Role.client ∈ roles))
    ("initial point-to-point TCP configuration requires both server and " ++
      "client roles")
  refuseFirst (fun action =>
      roleOf transport.endpoints action.clientEndpoint.nodeId =
        roleOf transport.endpoints action.serverEndpoint.nodeId)
    (fun action => "Action '" ++ action.name ++
      "' requires complementary TCP roles for " ++
      action.clientEndpoint.nodeId ++ " and " ++ action.serverEndpoint.nodeId)
    actions
  .ok ⟨actions, transport⟩

/-! ## What is accepted -/

/-- The fields of an Action in a manifest. -/
def actionKeys : List String :=
  ["name", "type", "slotCount", "bufferHeap", "clientEndpoint",
    "serverEndpoint"]

/-- A resolved Action and the fields it comes from, check by check. -/
structure Validated (fields : Fields) (index : ℕ) (a : Action) : Prop where
  known : fields.unknown actionKeys = []
  name : text (fields.get "name")
    ("actions[" ++ toString index ++ "]" ++ ".name") = .ok a.name
  type : text (fields.get "type")
    ("actions[" ++ toString index ++ "]" ++ ".type") = .ok a.type
  isPackageType : isPackageType a.type = true
  slotCount : slotCount fields index = .ok a.slotCount
  bufferHeap : bufferHeap fields index = .ok a.bufferHeap
  clientNode : endpointNode fields index "clientEndpoint" =
    .ok a.clientEndpoint.nodeId
  serverNode : endpointNode fields index "serverEndpoint" =
    .ok a.serverEndpoint.nodeId
  clientId : endpointId a.clientEndpoint.nodeId =
    .ok a.clientEndpoint.endpointId
  serverId : endpointId a.serverEndpoint.nodeId =
    .ok a.serverEndpoint.endpointId
  channels_eq : a.channels = channels a.type a.slotCount

theorem validateAction_ok {entry : Value} {index : ℕ} {a : Action}
    (h : validateAction entry index = .ok a) :
    ∃ fields, entry = .dict fields ∧ Validated fields index a := by
  unfold validateAction at h
  obtain ⟨action, haction, h⟩ := Action.except_bind_eq_ok h
  obtain ⟨_, hknown, h⟩ := Action.except_bind_eq_ok h
  obtain ⟨name, hname, h⟩ := Action.except_bind_eq_ok h
  obtain ⟨type, htype, h⟩ := Action.except_bind_eq_ok h
  obtain ⟨_, hpackage, h⟩ := Action.except_bind_eq_ok h
  obtain ⟨count, hcount, h⟩ := Action.except_bind_eq_ok h
  obtain ⟨clientNode, hclientNode, h⟩ := Action.except_bind_eq_ok h
  obtain ⟨serverNode, hserverNode, h⟩ := Action.except_bind_eq_ok h
  obtain ⟨heap, hheap, h⟩ := Action.except_bind_eq_ok h
  obtain ⟨clientId, hclientId, h⟩ := Action.except_bind_eq_ok h
  obtain ⟨serverId, hserverId, h⟩ := Action.except_bind_eq_ok h
  obtain rfl := Except.ok.inj h
  exact ⟨action, object_ok haction,
    { known := not_not.mp (refuseIf_eq_ok_iff.mp hknown)
      name := hname
      type := htype
      isPackageType := not_not.mp (refuseIf_eq_ok_iff.mp hpackage)
      slotCount := hcount
      bufferHeap := hheap
      clientNode := hclientNode
      serverNode := hserverNode
      clientId := hclientId
      serverId := hserverId
      channels_eq := rfl }⟩

/-- A resolved Action and the entry of the manifest that it comes from. -/
def ComesFrom (entry : Value) (a : Action) : Prop :=
  ∃ fields index, entry = .dict fields ∧ Validated fields index a

/-- What holds of a resolved manifest. -/
structure ResolvedFrom (manifest : Fields) (resolved : Resolved) : Prop where
  actions : ∃ entries, manifest.get "actions" = .list entries ∧
    List.Forall₂ ComesFrom entries resolved.actions
  actions_ne : resolved.actions ≠ []
  names : (resolved.actions.map Action.name).Nodup
  deployments : AreDeployments
    (sortedNodes (resolved.actions.flatMap Action.nodes))
    resolved.transport.endpoints

theorem resolve_ok {manifest : Fields} {resolved : Resolved}
    (h : resolve manifest = .ok resolved) : ResolvedFrom manifest resolved := by
  unfold resolve at h
  obtain ⟨-, -, h⟩ := Action.except_bind_eq_ok h
  obtain ⟨-, -, h⟩ := Action.except_bind_eq_ok h
  obtain ⟨entries, hentries, h⟩ := Action.except_bind_eq_ok h
  obtain ⟨actions, hactions, h⟩ := Action.except_bind_eq_ok h
  obtain ⟨_, hnames, h⟩ := Action.except_bind_eq_ok h
  obtain ⟨transport, htransport, h⟩ := Action.except_bind_eq_ok h
  obtain ⟨-, -, h⟩ := Action.except_bind_eq_ok h
  obtain ⟨-, -, h⟩ := Action.except_bind_eq_ok h
  obtain rfl := Except.ok.inj h
  obtain ⟨hlist, hne⟩ := nonEmptyList_ok hentries
  have hfrom : List.Forall₂ ComesFrom entries actions := by
    refine (enumerate_ok hactions).imp ?_
    rintro entry a ⟨index, hentry⟩
    obtain ⟨fields, rfl, hvalid⟩ := validateAction_ok hentry
    exact ⟨fields, index, rfl, hvalid⟩
  refine ⟨⟨entries, hlist, hfrom⟩, ?_,
    not_not.mp (refuseIf_eq_ok_iff.mp hnames), resolveTransport_ok htransport⟩
  rintro rfl
  exact hne (List.forall₂_nil_right_iff.mp hfrom)

/-- Every resolved Action has passed its checks. -/
theorem ResolvedFrom.validated {manifest : Fields} {resolved : Resolved}
    (h : ResolvedFrom manifest resolved) {a : Action}
    (ha : a ∈ resolved.actions) : ∃ fields index, Validated fields index a := by
  obtain ⟨entries, -, hfrom⟩ := h.actions
  obtain ⟨entry, -, fields, index, -, hvalid⟩ := exists_of_forall₂ hfrom ha
  exact ⟨fields, index, hvalid⟩

/-- The safe ids of a resolved Action are not empty, and its endpoint ids are
made of them. -/
theorem ResolvedFrom.endpoints {manifest : Fields} {resolved : Resolved}
    (h : ResolvedFrom manifest resolved) {a : Action}
    (ha : a ∈ resolved.actions) {e : Endpoint}
    (he : e ∈ [a.clientEndpoint, a.serverEndpoint]) :
    normalized e.nodeId ≠ "" ∧
      e.endpointId = (nodeFiles "").idOf e.nodeId ∧
      e.nodeId ∈ resolved.transport.endpoints.map Prod.fst := by
  obtain ⟨fields, index, hvalid⟩ := h.validated ha
  have hid : endpointId e.nodeId = .ok e.endpointId := by
    simp only [List.mem_cons, List.not_mem_nil, or_false] at he
    rcases he with rfl | rfl
    · exact hvalid.clientId
    · exact hvalid.serverId
  obtain ⟨hnamed, heq⟩ := (nodeFiles "").endpointId_ok hid
  refine ⟨hnamed, heq, ?_⟩
  rw [h.deployments.names, mem_sortedNodes, List.mem_flatMap]
  exact ⟨a, ha, List.mem_map_of_mem (f := Endpoint.nodeId) he⟩

/-! ## Documents -/

def Channel.toValue (c : Channel) : Value :=
  .dict
    [("slotIndex", .int c.slotIndex),
     ("kind", .str c.kind),
     ("channelId", .int c.channelId),
     ("channelName", .str c.channelName),
     ("packetType", .str c.packetType)]

def BufferHeap.toValue (heap : BufferHeap) : Value :=
  .dict
    [("requestSize", .int heap.requestSize),
     ("responseSize", .int heap.responseSize),
     ("feedbackSize", .int heap.feedbackSize)]

def Action.toValue (action : Action) : Value :=
  .dict
    [("name", .str action.name),
     ("type", .str action.type),
     ("slotCount", .int action.slotCount),
     ("bufferHeap", action.bufferHeap.toValue),
     ("clientEndpoint", action.clientEndpoint.toValue),
     ("serverEndpoint", action.serverEndpoint.toValue),
     ("channels", .list (action.channels.map Channel.toValue))]

/-- `resolved-action.json`. -/
def Resolved.toValue (resolved : Resolved) : Value :=
  .dict
    [("version", .int 1),
     ("actions", .list (resolved.actions.map Action.toValue)),
     ("transport", resolved.transport.toValue)]

/-- `generate`: the files in the order in which they are written, with their
paths below the output directory. -/
def generate (manifest : Fields) : Except String (List (String × Value)) := do
  let resolved ← resolve manifest
  let written ← (nodeFiles resolved.transport.packetVersion).write
    resolved.transport.endpoints
  .ok
    ([("resolved-action.json", resolved.toValue),
      ("queue.json", queueFile "action_queue_buffer" resolved.transport)] ++
     written.1 ++ [("endpoints.json", .list written.2)])

/-- `config/sample/action.json`, for nodes of these names. -/
def sampleManifest (client server : String) : Fields :=
  [("version", .int 1),
   ("actions", .list
     [.dict
       [("name", .str "fibonacci"),
        ("type", .str "sample_action_msgs/Fibonacci"),
        ("slotCount", .int 4),
        ("bufferHeap", .dict
          [("requestSize", .int 1048576),
           ("responseSize", .int 1048576),
           ("feedbackSize", .int 1048576)]),
        ("clientEndpoint", .dict [("nodeId", .str client)]),
        ("serverEndpoint", .dict [("nodeId", .str server)])]]),
   ("transport", .dict
     [("protocol", .str "tcp"),
      ("packetVersion", .str "v2"),
      ("queueDepth", .int 64),
      ("endpoints", .dict
        [(client, .dict
          [("role", .str "client"),
           ("remote", .dict
             [("address", .str "127.0.0.1"), ("port", .int 54011)])]),
         (server, .dict
          [("role", .str "server"),
           ("local", .dict
             [("address", .str "0.0.0.0"), ("port", .int 54011)])])])])]

end ActionManifest
end Config
end HakoPduRpc
