import HakoPduRpc.Config.ServiceAgreement

/-!
# The services of a server node

The generator writes one `rpc-server-services.json` for all server nodes.  A
server that takes its endpoints from a container gives up at the first service of
another node, and one with an endpoint of its own serves every service of the
file.  So a server node serves its own services exactly when it is the only
server node of the manifest.
-/

namespace HakoPduRpc
namespace Config
namespace ServiceManifest

open ServiceSetup
open HakoPduRpc.Action (Json)

/-- The services of a node, and no others, have an endpoint. -/
def ServesOwn (nodeId : String) (services : List Service)
    (server : Rpc.RpcServicesServer) : Prop :=
  ∀ name, server.rpcEndpoints.contains name = true ↔
    ∃ s ∈ services, s.name = name ∧ s.serverEndpoint.nodeId = nodeId

/-- `RpcServicesServer` of a node serves its own services, with a container that
has the endpoint of the node and with an endpoint of its own. -/
structure NodeServed (casts : Casts) (nodeId : String) (services : List Service)
    (file : Value) : Prop where
  container : ∀ ref clientNodeId,
    ref (normalized nodeId ++ "-service-tcp") = some true →
    ∃ server,
      initializeServices casts nodeId (.container ref) clientNodeId file =
        .ok server ∧ ServesOwn nodeId services server
  direct : ∀ clientNodeId, ∃ server,
    initializeServices casts nodeId (.direct true) clientNodeId file =
      .ok server ∧ ServesOwn nodeId services server

/-! ## The loop over the services -/

/-- The entry of a Service in the server file. -/
def serverEntry (s : Service) : Json :=
  (s.entry [s.serverEndpoint.toValue]).tree

theorem name_serverEntry (s : Service) :
    member (serverEntry s) "name" = .ok (.string s.name) := by
  rw [serverEntry, member_entry s _ rfl, Value.tree]

section

variable (casts : Casts) {nodeId : String} {source : EndpointSource}
variable (clientNodeId : Option String)

/-- When every service gets an endpoint, all of them are set up. -/
theorem initializeEntries_ok {services : List Service}
    (h : ∀ s ∈ services,
      serviceEndpoint source nodeId s.name (serverEntry s) = .ok true)
    (server : Rpc.RpcServicesServer) :
    ∃ server', initializeEntries casts nodeId source 24 clientNodeId
        (services.map serverEntry) server = .ok server' ∧
      ∀ name, server'.rpcEndpoints.contains name = true ↔
        server.rpcEndpoints.contains name = true ∨
          ∃ s ∈ services, s.name = name := by
  induction services generalizing server with
  | nil => exact ⟨server, rfl, fun name => by simp⟩
  | cons s rest ih =>
      have hsetup := initializeServer_entry casts s [s.serverEndpoint.toValue] 24
        clientNodeId
      rw [List.map_cons, initializeEntries, name_serverEntry, ok_bind, asString,
        ok_bind, h s List.mem_cons_self, ok_bind, serverEntry, hsetup, ok_bind]
      obtain ⟨server', hserver, hnames⟩ :=
        ih (fun t ht => h t (List.mem_cons_of_mem _ ht))
          ⟨server.rpcEndpoints.assign s.name _⟩
      refine ⟨server', hserver, fun name => ?_⟩
      rw [hnames, OrdMap.contains, OrdMap.find?_assign]
      by_cases hname : name = s.name
      · simp [hname]
      · simp [hname, OrdMap.contains, Ne.symm hname]

end

/-! ## The two sources of endpoints -/

theorem serviceEndpoint_container {ref : String → Option Bool} {nodeId : String}
    {s : Service} {size : Sizes} (h : WellFormed s size)
    (hnode : s.serverEndpoint.nodeId = nodeId)
    (href : ref (normalized nodeId ++ "-service-tcp") = some true) :
    serviceEndpoint (.container ref) nodeId s.name (serverEntry s) = .ok true := by
  have hreferences : ∀ message, serverEndpoints (serverEntry s) message =
      .ok [s.serverEndpoint.toValue.tree] := by
    intro message
    rw [serverEndpoints, serverEntry, Service.entry, find_tree]
    rfl
  have hmember : member s.serverEndpoint.toValue.tree "nodeId" =
      .ok (.string s.serverEndpoint.nodeId) := by
    rw [Endpoint.toValue, member_tree rfl, Value.tree]
  have hid : member s.serverEndpoint.toValue.tree "endpointId" =
      .ok (.string s.serverEndpoint.endpointId) := by
    rw [Endpoint.toValue, member_tree rfl, Value.tree]
  have hsame : ¬differs nodeId (.string s.serverEndpoint.nodeId) = true := by
    simp [differs, hnode]
  rw [serviceEndpoint, hreferences, ok_bind, findServerEndpoint, hmember, ok_bind, if_neg hsame,
    hid, ok_bind, asString, ok_bind, h.server.endpointId_eq, hnode, href]

theorem serviceEndpoint_direct (nodeId : String) (s : Service) :
    serviceEndpoint (.direct true) nodeId s.name (serverEntry s) = .ok true := rfl

/-! ## Server nodes -/

theorem initializeServices_serverServices (casts : Casts) {nodeId : String}
    {source : EndpointSource} {services : List Service}
    (hreadable : ∀ s ∈ services, s.Readable)
    (h : ∀ s ∈ services,
      serviceEndpoint source nodeId s.name (serverEntry s) = .ok true)
    (clientNodeId : Option String) :
    ∃ server, initializeServices casts nodeId source clientNodeId
        (serverServices services) = .ok server ∧
      ∀ name, server.rpcEndpoints.contains name = true ↔
        ∃ s ∈ services, s.name = name := by
  obtain ⟨server, hserver, hnames⟩ :=
    initializeEntries_ok casts clientNodeId h ⟨.empty⟩
  refine ⟨server, ?_, fun name => ?_⟩
  · have hentries := entriesOf_servicesFile
      (services.map fun s => s.entry [s.serverEndpoint.toValue])
    rw [entriesOf, List.map_map] at hentries
    rw [initializeServices, toJson_eq_some_iff.mpr
      ⟨(readable_serverServices services).mpr hreadable, rfl⟩]
    dsimp only
    rw [serverServices, metaDataSize_servicesFile, ok_bind, hentries]
    exact hserver
  · rw [hnames]
    simp [OrdMap.contains]

/-- A file that can be read has no number that overflows. -/
theorem readable_of_initializeServices {casts : Casts} {nodeId : String}
    {source : EndpointSource} {clientNodeId : Option String}
    {services : List Service} {server : Rpc.RpcServicesServer}
    (h : initializeServices casts nodeId source clientNodeId
      (serverServices services) = .ok server) : ∀ s ∈ services, s.Readable := by
  rw [← readable_serverServices]
  unfold initializeServices at h
  split at h
  · cases h
  · next root hroot => exact (toJson_eq_some_iff.mp hroot).1

/-- A server node of an accepted manifest serves its own services exactly when
every service of the manifest is its own and the numbers of all of them can be
read. -/
theorem node_served_iff {manifest : Fields} {resolved : Resolved}
    (h : resolve manifest = .ok resolved) (casts : Casts) (nodeId : String) :
    ∃ files file, generate manifest = .ok files ∧
      contents "rpc-server-services.json" files = some file ∧
      (NodeServed casts nodeId resolved.services file ↔
        ∀ s ∈ resolved.services,
          s.serverEndpoint.nodeId = nodeId ∧ s.Readable) := by
  have hfrom := resolve_ok h
  obtain ⟨files, hfiles, hserver, -, -⟩ := contents_generate h
  refine ⟨files, _, hfiles, hserver, ?_⟩
  constructor
  · intro hserved s hs
    obtain ⟨server, hinit, hown⟩ := hserved.direct none
    have hreadable := readable_of_initializeServices hinit
    obtain ⟨server', hinit', hall⟩ := initializeServices_serverServices casts
      hreadable (fun s _ => serviceEndpoint_direct nodeId s) none
    obtain rfl : server = server' := Except.ok.inj (hinit.symm.trans hinit')
    obtain ⟨t, ht, hname, hnode⟩ :=
      (hown s.name).mp ((hall s.name).mpr ⟨s, hs, rfl⟩)
    rw [List.inj_on_of_nodup_map hfrom.names ht hs hname] at hnode
    exact ⟨hnode, hreadable s hs⟩
  · intro hcondition
    have hall : ∀ s ∈ resolved.services, s.serverEndpoint.nodeId = nodeId :=
      fun s hs => (hcondition s hs).1
    have hreadable : ∀ s ∈ resolved.services, s.Readable :=
      fun s hs => (hcondition s hs).2
    have hown : ∀ server : Rpc.RpcServicesServer,
        (∀ name, server.rpcEndpoints.contains name = true ↔
          ∃ s ∈ resolved.services, s.name = name) →
        ServesOwn nodeId resolved.services server := by
      intro server hnames name
      rw [hnames]
      constructor
      · rintro ⟨s, hs, hname⟩
        exact ⟨s, hs, hname, hall s hs⟩
      · rintro ⟨s, hs, hname, -⟩
        exact ⟨s, hs, hname⟩
    constructor
    · intro ref clientNodeId href
      obtain ⟨server, hinit, hnames⟩ := initializeServices_serverServices casts
        hreadable (fun s hs => by
          obtain ⟨size, hformed⟩ := hfrom.wellFormed hs
          exact serviceEndpoint_container hformed (hall s hs) href) clientNodeId
      exact ⟨server, hinit, hown server hnames⟩
    · intro clientNodeId
      obtain ⟨server, hinit, hnames⟩ := initializeServices_serverServices casts
        hreadable (fun s _ => serviceEndpoint_direct nodeId s) clientNodeId
      exact ⟨server, hinit, hown server hnames⟩

/-- A manifest with one server node. -/
theorem oneServer_served :
    ∃ resolved files file,
      resolve (sampleManifest [("Service/Add", "server-node")]) =
        .ok resolved ∧
      generate (sampleManifest [("Service/Add", "server-node")]) =
        .ok files ∧
      contents "rpc-server-services.json" files = some file ∧
      NodeServed noFloats "server-node" resolved.services file := by
  obtain ⟨resolved, h, hnodes, hreadable⟩ : ∃ resolved,
      resolve (sampleManifest [("Service/Add", "server-node")]) =
        .ok resolved ∧
      resolved.services.map (·.serverEndpoint.nodeId) = ["server-node"] ∧
      (serverServices resolved.services).readable = true :=
    ⟨_, rfl, rfl, by decide +kernel⟩
  obtain ⟨files, file, hfiles, hfile, hiff⟩ :=
    node_served_iff h noFloats "server-node"
  refine ⟨resolved, files, file, h, hfiles, hfile, hiff.mpr ?_⟩
  intro s hs
  have hmem := List.mem_map_of_mem (f := (·.serverEndpoint.nodeId)) hs
  rw [hnodes] at hmem
  exact ⟨List.mem_singleton.mp hmem,
    (readable_serverServices _).mp hreadable s hs⟩

/-- With two server nodes, the server of the first one is refused the file: it
has a service of the second. -/
theorem twoServers_refused :
    ∃ resolved files file,
      resolve (sampleManifest
        [("Service/Add", "server-node"), ("Service/Sub", "other-node")]) =
        .ok resolved ∧
      generate (sampleManifest
        [("Service/Add", "server-node"), ("Service/Sub", "other-node")]) =
        .ok files ∧
      contents "rpc-server-services.json" files = some file ∧
      (∃ s ∈ resolved.services, s.serverEndpoint.nodeId = "server-node") ∧
      initializeServices noFloats "server-node" (.container fun _ => some true)
        none file =
        .error ("PDU Endpoint not found for service Service/Sub on node " ++
          "server-node. Check 'server_endpoints' in config.") ∧
      ¬NodeServed noFloats "server-node" resolved.services file := by
  obtain ⟨resolved, files, file, h, hfiles, hfile, hnode, hreadable, hroot⟩ :
      ∃ resolved files file,
        resolve (sampleManifest
          [("Service/Add", "server-node"), ("Service/Sub", "other-node")]) =
          .ok resolved ∧
        generate (sampleManifest
          [("Service/Add", "server-node"), ("Service/Sub", "other-node")]) =
          .ok files ∧
        contents "rpc-server-services.json" files = some file ∧
        (∃ s ∈ resolved.services, s.serverEndpoint.nodeId = "server-node") ∧
        file.readable = true ∧
        initializeEntries noFloats "server-node" (.container fun _ => some true)
          24 none (elements ((file.tree.find "services").getD .null)) ⟨.empty⟩ =
          .error ("PDU Endpoint not found for service Service/Sub on node " ++
            "server-node. Check 'server_endpoints' in config.") ∧
        metaDataSize noFloats file.tree = .ok 24 := by
    refine ⟨_, _, _, rfl, rfl, rfl, ⟨_, List.mem_cons_self, rfl⟩,
      by decide +kernel, rfl, rfl⟩
  have hrefused : initializeServices noFloats "server-node"
      (.container fun _ => some true) none file =
        .error ("PDU Endpoint not found for service Service/Sub on node " ++
          "server-node. Check 'server_endpoints' in config.") := by
    rw [initializeServices, toJson_eq_some_iff.mpr ⟨hreadable, rfl⟩]
    dsimp only
    rw [hroot.2, ok_bind, hroot.1]
  refine ⟨resolved, files, file, h, hfiles, hfile, hnode, hrefused, ?_⟩
  intro hserved
  obtain ⟨server, hserver, -⟩ :=
    hserved.container (fun _ => some true) none rfl
  rw [hrefused] at hserver
  cases hserver

end ServiceManifest
end Config
end HakoPduRpc
