import HakoPduRpc.Config.EndpointFiles

/-!
# The checker of Service configurations

`check_rpc_semantics` of `validate_configs.py` collects messages about a file of
services and the `endpoints.json` that it refers to.  It finds nothing to report
in what the generator writes.
-/

namespace HakoPduRpc
namespace Config
namespace ServiceCheck

/-- `isinstance(value, int)`: the number and its text; a `bool` is an `int`. -/
def asInt : Value → Option (Int × String)
  | .int value => some (value, toString value)
  | .bool true => some (1, "True")
  | .bool false => some (0, "False")
  | _ => none

/-- `isinstance(value, str) and value`. -/
def asText : Value → Option String
  | .str value => if value = "" then none else some value
  | _ => none

theorem asText_str {value : String} (h : value ≠ "") :
    asText (.str value) = some value := if_neg h

/-! ## The endpoints -/

/-- The id of an entry of `endpoints`. -/
def entryId : Value → Option String
  | .dict endpoint => asText (Fields.get "id" endpoint)
  | _ => none

/-- The ids in the `endpoints` of a node. -/
def endpointIds : Value → List String
  | .list endpoints => endpoints.filterMap entryId
  | _ => []

/-- What an entry of `endpoints.json` adds to the index. -/
def indexEntry : Value → Option (String × List String)
  | .dict node =>
      (asText (Fields.get "nodeId" node)).map fun id =>
        (id, endpointIds (Fields.get "endpoints" node))
  | _ => none

/-- `build_endpoint_index`: the nodes, each with its endpoint ids.  A node that
is named twice has the ids of both entries. -/
def buildEndpointIndex : Value → List (String × List String)
  | .list nodes => nodes.filterMap indexEntry
  | _ => []

/-- `endpoint_idx[node]`. -/
def idsOf (index : List (String × List String)) (node : String) : List String :=
  index.flatMap fun entry => if entry.1 = node then entry.2 else []

/-- The check of a reference to an endpoint; `lead` is how the messages begin. -/
def referenceMessages (index : List (String × List String)) (lead : String)
    (reference : Fields) : List String :=
  match asText (reference.get "nodeId"), asText (reference.get "endpointId") with
  | some node, some id =>
      if node ∉ index.map Prod.fst then
        [lead ++ " nodeId '" ++ node ++ "' not found in rpc.endpoints"]
      else if id ∉ idsOf index node then
        [lead ++ " endpointId '" ++ id ++ "' not found under node '" ++ node ++
          "'"]
      else []
  | _, _ => []

/-! ## Services -/

/-- The checks of `server_endpoints`. -/
def serverMessages (index : List (String × List String)) (lead : String) :
    ℕ → List Value → List String
  | _, [] => []
  | ei, .dict reference :: rest =>
      referenceMessages index
        (lead ++ ": server_endpoints[" ++ toString ei ++ "]: server")
        reference ++
      serverMessages index lead (ei + 1) rest
  | ei, _ :: rest => serverMessages index lead (ei + 1) rest

/-- The check of a channel id, and the ids that are used after it. -/
def channelMessages (lead key : String) (used : List Int) (client : Fields) :
    List String × List Int :=
  match asInt (client.get key) with
  | some (channelId, shown) =>
      (if channelId ∈ used then
        [lead ++ ": channel collision: " ++ shown ++ " (" ++ key ++ ")"]
      else [], channelId :: used)
  | none => ([], used)

/-- The check of a client's name, and the names that are used after it. -/
def clientNameMessages (lead : String) (names : List String) (client : Fields) :
    List String × List String :=
  match asText (client.get "name") with
  | some name =>
      (if name ∈ names then [lead ++ ": duplicate client name '" ++ name ++ "'"]
      else [], name :: names)
  | none => ([], names)

/-- The checks of `clients`. -/
def clientMessages (index : List (String × List String)) (lead : String) :
    List Int → List String → List Value → List String
  | _, _, [] => []
  | used, names, .dict client :: rest =>
      let name := clientNameMessages lead names client
      let request := channelMessages lead "requestChannelId" used client
      let response := channelMessages lead "responseChannelId" request.2 client
      let reference :=
        match Fields.get "client_endpoint" client with
        | .dict reference =>
            if index.isEmpty then []
            else referenceMessages index (lead ++ ": client") reference
        | _ => []
      name.1 ++ request.1 ++ response.1 ++ reference ++
        clientMessages index lead response.2 name.2 rest
  | used, names, _ :: rest => clientMessages index lead used names rest

/-- The check of the number of clients. -/
def countMessages (lead : String) (service : Fields) : List String :=
  match asInt (service.get "maxClients"), service.get "clients" with
  | some (maxClients, shown), .list clients =>
      if clients.length > maxClients then
        [lead ++ ": clients.length(" ++ toString clients.length ++
          ") > maxClients(" ++ shown ++ ")"]
      else []
  | _, _ => []

/-- The checks of one service, beside the one of its name. -/
def serviceMessages (index : List (String × List String)) (lead : String)
    (service : Fields) : List String :=
  countMessages lead service ++
  (match service.get "server_endpoints" with
    | .list references =>
        if index.isEmpty then [] else serverMessages index lead 0 references
    | _ => []) ++
  (match service.get "clients" with
    | .list clients => clientMessages index lead [] [] clients
    | _ => [])

/-- The loop over `services`; `names` are the names that are used. -/
def servicesMessages (index : List (String × List String)) (path : String) :
    ℕ → List String → List Value → List String
  | _, _, [] => []
  | si, names, .dict service :: rest =>
      let lead := fun shown => path ++ ": rpc.services[" ++ toString si ++ "] '" ++
        shown ++ "'"
      match asText (Fields.get "name" service) with
      | some name =>
          (if name ∈ names then
            [path ++ ": rpc.services: duplicate service name '" ++ name ++ "'"]
          else []) ++
          serviceMessages index (lead name) service ++
          servicesMessages index path (si + 1) (name :: names) rest
      | none =>
          serviceMessages index (lead ("<services[" ++ toString si ++ "]>"))
            service ++
          servicesMessages index path (si + 1) names rest
  | si, names, _ :: rest => servicesMessages index path (si + 1) names rest

/-- The check of `pduMetaDataSize`. -/
def metadataMessages (path : String) (services : Fields) : List String :=
  match asInt (services.get "pduMetaDataSize") with
  | some (size, _) =>
      if size ≠ 24 then [path ++ ": rpc.pduMetaDataSize: must be 24"] else []
  | none => []

/-- `check_rpc_semantics`. -/
def checkRpcSemantics (path : String) (services : Fields) (endpoints : Value) :
    List String :=
  metadataMessages path services ++
  match services.get "services" with
  | .list entries => servicesMessages (buildEndpointIndex endpoints) path 0 []
      entries
  | _ => []

/-! ## Generated services -/

open ServiceManifest

section

variable {index : List (String × List String)}

/-- A reference to an endpoint of the index. -/
def Indexed (index : List (String × List String)) (endpoint : Endpoint) : Prop :=
  (endpoint.nodeId, [endpoint.endpointId]) ∈ index

theorem referenceMessages_eq_nil {endpoint : Endpoint}
    (href : IsReference endpoint) (h : Indexed index endpoint) (lead : String) :
    referenceMessages index lead
      [("nodeId", .str endpoint.nodeId),
       ("endpointId", .str endpoint.endpointId)] = [] := by
  have hnode : endpoint.nodeId ∈ index.map Prod.fst := List.mem_map_of_mem h
  have hid : endpoint.endpointId ∈ idsOf index endpoint.nodeId :=
    List.mem_flatMap.mpr ⟨_, h, by simp⟩
  change (match asText (.str endpoint.nodeId),
    asText (.str endpoint.endpointId) with
    | some node, some id => _
    | _, _ => []) = []
  rw [asText_str href.nodeId_ne, asText_str href.endpointId_ne]
  dsimp only
  rw [if_neg (not_not_intro hnode), if_neg (not_not_intro hid)]

theorem channelMessages_eq {lead key : String} {used : List Int} {client : Fields}
    {id : ℕ} (hget : client.get key = .int id) (hnew : (id : Int) ∉ used) :
    channelMessages lead key used client = ([], (id : Int) :: used) := by
  rw [channelMessages, hget, asInt]
  dsimp only
  rw [if_neg hnew]

theorem clientNameMessages_eq {lead name : String} {names : List String}
    {client : Fields} (hget : client.get "name" = .str name) (hne : name ≠ "")
    (hnew : name ∉ names) :
    clientNameMessages lead names client = ([], name :: names) := by
  rw [clientNameMessages, hget, asText, if_neg hne]
  dsimp only
  rw [if_neg hnew]

/-- The fields of a client. -/
def clientFields (c : Client) : Fields :=
  [("name", .str c.name),
   ("requestChannelId", .int c.requestChannelId),
   ("responseChannelId", .int c.responseChannelId),
   ("client_endpoint", c.clientEndpoint.toValue)]

/-- What is asked of the clients of a service. -/
structure Distinct (index : List (String × List String)) (clients : List Client)
    (used : List Int) (names : List String) : Prop where
  reference : ∀ c ∈ clients, IsReference c.clientEndpoint
  indexed : ∀ c ∈ clients, Indexed index c.clientEndpoint
  named : ∀ c ∈ clients, c.name ≠ ""
  nodupNames : (clients.map Client.name).Nodup
  newName : ∀ c ∈ clients, c.name ∉ names
  nodupIds : (clients.flatMap Client.channelIds).Nodup
  newId : ∀ c ∈ clients, ∀ id ∈ c.channelIds, (id : Int) ∉ used

theorem Distinct.tail {c : Client} {rest : List Client} {used : List Int}
    {names : List String} (h : Distinct index (c :: rest) used names) :
    Distinct index rest
      ((c.responseChannelId : Int) :: (c.requestChannelId : Int) :: used)
      (c.name :: names) := by
  obtain ⟨hreference, hindexed, hnamed, hnames, hnewName, hids, hnewId⟩ := h
  rw [List.map_cons, List.nodup_cons] at hnames
  rw [List.flatMap_cons, List.nodup_append'] at hids
  obtain ⟨-, hrest, hdisjoint⟩ := hids
  refine ⟨fun d hd => hreference d (List.mem_cons_of_mem _ hd),
    fun d hd => hindexed d (List.mem_cons_of_mem _ hd),
    fun d hd => hnamed d (List.mem_cons_of_mem _ hd), hnames.2, ?_, hrest, ?_⟩
  · intro d hd hmem
    rcases List.mem_cons.mp hmem with hname | hold
    · exact hnames.1 (hname ▸ List.mem_map_of_mem hd)
    · exact hnewName d (List.mem_cons_of_mem _ hd) hold
  · intro d hd id hid hmem
    have hfresh : id ∉ c.channelIds := fun hown =>
      hdisjoint hown (List.mem_flatMap.mpr ⟨d, hd, hid⟩)
    simp only [Client.channelIds, List.mem_cons, List.not_mem_nil, or_false,
      not_or] at hfresh
    simp only [List.mem_cons, Int.natCast_inj] at hmem
    rcases hmem with hresponse | hrequest | hold
    · exact hfresh.2 hresponse
    · exact hfresh.1 hrequest
    · exact hnewId d (List.mem_cons_of_mem _ hd) id hid hold

theorem Distinct.response_notMem {c : Client} {rest : List Client}
    {used : List Int} {names : List String}
    (h : Distinct index (c :: rest) used names) :
    (c.responseChannelId : Int) ∉ (c.requestChannelId : Int) :: used := by
  have hids := h.nodupIds
  rw [List.flatMap_cons, List.nodup_append'] at hids
  have hown : c.requestChannelId ≠ c.responseChannelId := by
    simpa [Client.channelIds] using hids.1
  rw [List.mem_cons, Int.natCast_inj, not_or]
  exact ⟨hown.symm, h.newId c List.mem_cons_self _
    (List.mem_cons_of_mem _ List.mem_cons_self)⟩

/-- Clients with new names and new channels are not reported. -/
theorem clientMessages_eq_nil {clients : List Client} {used : List Int}
    {names : List String} (lead : String) (h : Distinct index clients used names) :
    clientMessages index lead used names (clients.map Client.toValue) = [] := by
  induction clients generalizing used names with
  | nil => rfl
  | cons c rest ih =>
      have hrest := ih h.tail
      have hc := List.mem_cons_self (a := c) (l := rest)
      have hname : clientNameMessages lead names (clientFields c) =
          ([], c.name :: names) :=
        clientNameMessages_eq rfl (h.named c hc) (h.newName c hc)
      have hrequest : channelMessages lead "requestChannelId" used
          (clientFields c) = ([], (c.requestChannelId : Int) :: used) :=
        channelMessages_eq rfl (h.newId c hc _ List.mem_cons_self)
      have hresponse : channelMessages lead "responseChannelId"
          ((c.requestChannelId : Int) :: used) (clientFields c) =
            ([], (c.responseChannelId : Int) :: (c.requestChannelId : Int) ::
              used) :=
        channelMessages_eq rfl h.response_notMem
      have hreference := referenceMessages_eq_nil (h.reference c hc)
        (h.indexed c hc) (lead ++ ": client")
      change (clientNameMessages lead names (clientFields c)).1 ++
        (channelMessages lead "requestChannelId" used (clientFields c)).1 ++
        (channelMessages lead "responseChannelId"
          (channelMessages lead "requestChannelId" used (clientFields c)).2
          (clientFields c)).1 ++
        (if index.isEmpty = true then []
          else referenceMessages index (lead ++ ": client")
            [("nodeId", .str c.clientEndpoint.nodeId),
             ("endpointId", .str c.clientEndpoint.endpointId)]) ++
        clientMessages index lead
          (channelMessages lead "responseChannelId"
            (channelMessages lead "requestChannelId" used (clientFields c)).2
            (clientFields c)).2
          (clientNameMessages lead names (clientFields c)).2
          (rest.map Client.toValue) = []
      rw [hname, hrequest, hresponse, hreference, hrest, ite_self]
      rfl

/-- The references of a service are in the index. -/
structure References (index : List (String × List String)) (s : Service) :
    Prop where
  server : Indexed index s.serverEndpoint
  clients : ∀ c ∈ s.clients, Indexed index c.clientEndpoint

/-- The clients of a resolved Service are distinct. -/
theorem distinct_clients {s : Service} {size : Sizes} (hs : WellFormed s size)
    (href : References index s) : Distinct index s.clients [] [] := by
  obtain ⟨namePrefix, endpoint, hclients, hendpoint, -⟩ := hs.clients_eq
  have hmem : ∀ c ∈ s.clients, ∃ i : ℕ, c.name = namePrefix ++ "_" ++ toString i ∧
      c.clientEndpoint = endpoint := by
    intro c hc
    rw [hclients] at hc
    obtain ⟨i, -, rfl⟩ := List.mem_map.mp hc
    exact ⟨i, rfl, rfl⟩
  refine ⟨?_, href.clients, ?_, ?_, fun c _ => by simp, ?_,
    fun c _ id _ => by simp⟩
  · intro c hc
    obtain ⟨i, -, hc⟩ := hmem c hc
    rw [hc]
    exact hendpoint
  · intro c hc hempty
    obtain ⟨i, hname, -⟩ := hmem c hc
    have hlength := congrArg String.length (hname.symm.trans hempty)
    simp at hlength
  · rw [hclients]
    exact nodup_clientNames namePrefix s.maxClients endpoint
  · rw [hclients]
    exact nodup_channelIds namePrefix s.maxClients endpoint

/-- The fields of a service in `rpc-server-services.json`. -/
def serverFields (s : Service) : Fields :=
  s.leading ++ s.trailing ++
    [("server_endpoints", .list [s.serverEndpoint.toValue])]

theorem countMessages_eq_nil {s : Service} {size : Sizes} (lead : String)
    (hs : WellFormed s size) : countMessages lead (serverFields s) = [] := by
  obtain ⟨namePrefix, endpoint, hclients, -⟩ := hs.clients_eq
  have hlength : (s.clients.map Client.toValue).length = s.maxClients := by
    rw [hclients, serviceClients]
    simp
  change (if ((s.clients.map Client.toValue).length : Int) > (s.maxClients : Int)
    then _ else []) = []
  rw [hlength, if_neg (lt_irrefl _)]

theorem serviceMessages_eq_nil {s : Service} {size : Sizes} (lead : String)
    (hs : WellFormed s size) (href : References index s) :
    serviceMessages index lead (serverFields s) = [] := by
  have hserver := referenceMessages_eq_nil hs.server href.server
    (lead ++ ": server_endpoints[" ++ toString 0 ++ "]: server")
  have hclients := clientMessages_eq_nil lead (distinct_clients hs href)
  change countMessages lead (serverFields s) ++
    (if index.isEmpty = true then []
      else referenceMessages index
        (lead ++ ": server_endpoints[" ++ toString 0 ++ "]: server")
        [("nodeId", .str s.serverEndpoint.nodeId),
         ("endpointId", .str s.serverEndpoint.endpointId)] ++ []) ++
    clientMessages index lead [] [] (s.clients.map Client.toValue) = []
  rw [countMessages_eq_nil lead hs, hserver, hclients]
  simp

/-- Services with new names are not reported. -/
theorem servicesMessages_eq_nil {services : List Service} (path : String)
    {si : ℕ} {names : List String}
    (hformed : ∀ s ∈ services, ∃ size, WellFormed s size)
    (href : ∀ s ∈ services, References index s)
    (hnodup : (services.map Service.name).Nodup)
    (hnew : ∀ s ∈ services, s.name ∉ names) :
    servicesMessages index path si names
      (services.map fun s => s.entry [s.serverEndpoint.toValue]) = [] := by
  induction services generalizing si names with
  | nil => rfl
  | cons s rest ih =>
      rw [List.map_cons, List.nodup_cons] at hnodup
      obtain ⟨size, hs⟩ := hformed s List.mem_cons_self
      have hrest : servicesMessages index path (si + 1) (s.name :: names)
          (rest.map fun s => s.entry [s.serverEndpoint.toValue]) = [] := by
        refine ih (fun t ht => hformed t (List.mem_cons_of_mem _ ht))
          (fun t ht => href t (List.mem_cons_of_mem _ ht)) hnodup.2 ?_
        intro t ht hmem
        rcases List.mem_cons.mp hmem with hname | hold
        · exact hnodup.1 (hname ▸ List.mem_map_of_mem ht)
        · exact hnew t (List.mem_cons_of_mem _ ht) hold
      have hown := serviceMessages_eq_nil
        (path ++ ": rpc.services[" ++ toString si ++ "] '" ++ s.name ++ "'") hs
        (href s List.mem_cons_self)
      rw [List.map_cons]
      change (match asText (.str s.name) with
        | some name => _
        | none => _) = []
      rw [asText_str hs.name_ne]
      dsimp only
      rw [if_neg (hnew s List.mem_cons_self), hrest]
      change [] ++ serviceMessages index _ (serverFields s) ++ [] = []
      rw [hown]
      rfl

end

/-! ## The index of a generated `endpoints.json` -/

/-- `endpoints.json` of these nodes. -/
def containerFile (L : NodeFiles) (endpoints : List (String × Deployment)) :
    Value :=
  .list (endpoints.map fun e =>
    .dict (L.containerEntry e.1 (L.idOf e.1) (NodeFiles.endpointPath e.1)))

theorem normalized_ne {node : String} (h : normalized node ≠ "") :
    node ≠ "" := by
  rintro rfl
  exact h (by decide)

theorem indexEntry_containerEntry {packetVersion node : String}
    {expected : String → ℕ} (hnamed : normalized node ≠ "") (path : String) :
    indexEntry (.dict ((nodeFiles packetVersion expected).containerEntry node
        ((nodeFiles packetVersion expected).idOf node) path)) =
      some (node, [normalized node ++ "-service-tcp"]) := by
  have hne : normalized node ++ "-service-tcp" ≠ "" := by
    intro hempty
    have hlength := congrArg String.length hempty
    simp at hlength
  have hid : entryId (.dict
      [("id", .str (normalized node ++ "-service-tcp")),
       ("config_path", .str path)]) =
      some (normalized node ++ "-service-tcp") := asText_str hne
  change (asText (.str node)).map (fun id => (id, [Value.dict
    [("id", .str (normalized node ++ "-service-tcp")),
     ("config_path", .str path)]].filterMap entryId)) = _
  rw [asText_str (normalized_ne hnamed), List.filterMap_cons_some hid]
  rfl

theorem buildEndpointIndex_eq {packetVersion : String} {expected : String → ℕ}
    {endpoints : List (String × Deployment)}
    (hnamed : ∀ e ∈ endpoints, normalized e.1 ≠ "") :
    buildEndpointIndex
        (containerFile (nodeFiles packetVersion expected) endpoints) =
      endpoints.map fun e => (e.1, [normalized e.1 ++ "-service-tcp"]) := by
  rw [containerFile, buildEndpointIndex]
  induction endpoints with
  | nil => rfl
  | cons e rest ih =>
      have hfirst : indexEntry (.dict ((nodeFiles packetVersion
          expected).containerEntry e.1 ((nodeFiles packetVersion
            expected).idOf e.1) (NodeFiles.endpointPath e.1))) =
          some (e.1, [normalized e.1 ++ "-service-tcp"]) :=
        indexEntry_containerEntry (hnamed e List.mem_cons_self) _
      rw [List.map_cons, List.map_cons, List.filterMap_cons_some hfirst,
        ih fun a ha => hnamed a (List.mem_cons_of_mem _ ha)]

/-- The generated files of services and endpoints go together. -/
theorem checkRpcSemantics_eq_nil {manifest : Fields} {resolved : Resolved}
    (h : ResolvedFrom manifest resolved) (path packetVersion : String)
    (expected : String → ℕ) :
    checkRpcSemantics path
      [("pduMetaDataSize", .int pduMetadataSize),
       ("services", .list (resolved.services.map fun s =>
         s.entry [s.serverEndpoint.toValue]))]
      (containerFile (nodeFiles packetVersion expected)
        resolved.transport.endpoints) = [] := by
  have hnamed := h.named
  have hindexed : ∀ endpoint : Endpoint, IsReference endpoint →
      endpoint.nodeId ∈ resolved.services.flatMap Service.nodes →
      Indexed (buildEndpointIndex
        (containerFile (nodeFiles packetVersion expected)
          resolved.transport.endpoints)) endpoint := by
    intro endpoint href hnode
    rw [← mem_sortedNodes, ← h.endpoints] at hnode
    obtain ⟨e, he, hnode⟩ := List.mem_map.mp hnode
    rw [Indexed, buildEndpointIndex_eq hnamed, href.endpointId_eq, ← hnode]
    exact List.mem_map_of_mem he
  have href : ∀ s ∈ resolved.services, References (buildEndpointIndex
      (containerFile (nodeFiles packetVersion expected)
        resolved.transport.endpoints)) s := by
    intro s hs
    obtain ⟨size, hformed⟩ := h.wellFormed hs
    obtain ⟨namePrefix, endpoint, hclients, hendpoint, -⟩ := hformed.clients_eq
    constructor
    · refine hindexed _ hformed.server (List.mem_flatMap.mpr ⟨s, hs, ?_⟩)
      exact List.mem_cons_self
    · intro c hc
      rw [hclients] at hc
      obtain ⟨i, -, rfl⟩ := List.mem_map.mp hc
      refine hindexed endpoint hendpoint (List.mem_flatMap.mpr ⟨s, hs, ?_⟩)
      rw [Service.nodes, clientNode_eq hformed.maxClients_pos hclients]
      exact List.mem_cons_of_mem _ List.mem_cons_self
  exact servicesMessages_eq_nil path (fun s hs => h.wellFormed hs) href h.names
    fun s _ => by simp

end ServiceCheck
end Config
end HakoPduRpc
