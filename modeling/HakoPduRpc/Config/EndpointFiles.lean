import HakoPduRpc.Config.ActionManifest
import HakoPduRpc.Config.ServiceManifest

/-!
# The files of each node

Both generators name the endpoint, the endpoint file and the transport file of a
node after `_safe_id` of its `nodeId`, which need not be injective.  The files are
per node exactly when no two nodes of the manifest get the same safe id;
otherwise a node is left with the transport of another one.
-/

namespace HakoPduRpc
namespace Config

open HakoPduRpc.Action (except_bind_eq_ok)

/-! ## Written files -/

/-- The file under a path, after these writes: a later one replaces an earlier
one. -/
def contents (path : String) (written : List (String × Value)) : Option Value :=
  (KeyedList.lookup Prod.fst path written.reverse).map Prod.snd

theorem contents_eq_some {path : String} {written : List (String × Value)}
    {value : Value} (hmem : (path, value) ∈ written)
    (hunique : ∀ other, (path, other) ∈ written → other = value) :
    contents path written = some value := by
  cases hlookup : KeyedList.lookup Prod.fst path written.reverse with
  | none =>
      rw [KeyedList.lookup_eq_none_iff] at hlookup
      exact absurd (List.mem_map_of_mem (List.mem_reverse.mpr hmem)) hlookup
  | some found =>
      obtain ⟨name, other⟩ := found
      obtain rfl : name = path := KeyedList.lookup_key hlookup
      have hfound : (name, other) ∈ written :=
        List.mem_reverse.mp (KeyedList.lookup_mem hlookup)
      rw [contents, hlookup, Option.map_some, hunique other hfound]

def Value.asList : Value → Option (List Value)
  | .list items => some items
  | _ => Option.none

def Value.asDict : Value → Option Fields
  | .dict fields => some fields
  | _ => Option.none

def Value.asStr : Value → Option String
  | .str value => some value
  | _ => Option.none

/-- An entry of `endpoints.json` is the one of a node. -/
def isEntryOf (node : String) : Value → Bool
  | .dict entry => isText node (Fields.get "nodeId" entry)
  | _ => false

/-- The path of a file that is named as `../path` below `endpoints`. -/
def besides (path : String) : String := String.ofList (path.toList.drop 3)

/-- The transport file that the entry of a node in `endpoints.json` leads to. -/
def referencedTransport (written : List (String × Value)) (node : String) :
    Option Fields := do
  let container ← contents "endpoints.json" written
  let entries ← container.asList
  let entry ← entries.find? (isEntryOf node)
  let fields ← entry.asDict
  let endpoint ← containerEndpoint fields
  let endpointPath ← endpoint.2.asStr
  let endpointFile ← contents endpointPath written
  let endpointFields ← endpointFile.asDict
  let comm ← endpointFields.find "comm"
  let transportPath ← comm.asStr
  let transportFile ← contents (besides transportPath) written
  transportFile.asDict

/-! ## Paths -/

theorem append_json_inj {directory a b : String}
    (h : directory ++ a ++ ".json" = directory ++ b ++ ".json") : a = b := by
  rw [String.ext_iff] at h ⊢
  simpa using h

namespace NodeFiles

variable (L : NodeFiles)

theorem idOf_inj {a b : String} (h : L.idOf a = L.idOf b) :
    normalized a = normalized b := by
  unfold idOf at h
  rw [String.ext_iff] at h ⊢
  simpa using h

theorem endpointPath_inj {a b : String} (h : endpointPath a = endpointPath b) :
    normalized a = normalized b :=
  append_json_inj h

theorem transportPath_inj {a b : String} (h : transportPath a = transportPath b) :
    normalized a = normalized b :=
  append_json_inj h

theorem endpointPath_ne_transportPath (a b : String) :
    endpointPath a ≠ transportPath b := by
  intro h
  have hhead := congrArg (fun s => s.toList.head?) h
  simp [endpointPath, transportPath] at hhead

theorem besides_transportPath (node : String) :
    besides ("../" ++ transportPath node) = transportPath node := by
  rw [besides, String.ext_iff]
  simp

/-! ## Files per node -/

/-- Distinct nodes have distinct ids and files, and each node has its own
deployment in the transport file that its entry leads to. -/
structure PerNode (endpoints : List (String × Deployment))
    (written : List (String × Value)) : Prop where
  ids : ∀ a ∈ endpoints, ∀ b ∈ endpoints, a.1 ≠ b.1 → L.idOf a.1 ≠ L.idOf b.1
  endpointPaths : ∀ a ∈ endpoints, ∀ b ∈ endpoints, a.1 ≠ b.1 →
    endpointPath a.1 ≠ endpointPath b.1
  transportPaths : ∀ a ∈ endpoints, ∀ b ∈ endpoints, a.1 ≠ b.1 →
    transportPath a.1 ≠ transportPath b.1
  own : ∀ a ∈ endpoints, ∃ file,
    referencedTransport written a.1 = some file ∧ Carries a.2 file

/-- No two nodes have the same safe id. -/
def Separated (endpoints : List (String × Deployment)) : Prop :=
  ∀ a ∈ endpoints, ∀ b ∈ endpoints, normalized a.1 = normalized b.1 → a.1 = b.1

/-- The files that a generator writes, after those that are not of a node. -/
def allFiles (common : List (String × Value))
    (endpoints : List (String × Deployment)) : List (String × Value) :=
  common ++ (endpoints.flatMap fun e => L.filesOf e.1 e.2) ++
    [("endpoints.json", .list (endpoints.map fun e =>
      .dict (L.containerEntry e.1 (L.idOf e.1) (endpointPath e.1))))]

section

variable {L} {common : List (String × Value)}
variable {endpoints : List (String × Deployment)}

/-- The files that are not of a node are in no directory. -/
def Common (common : List (String × Value)) : Prop :=
  ∀ path ∈ common.map Prod.fst, '/' ∉ path.toList ∧ path ≠ "endpoints.json"

theorem slash_mem_endpointPath (node : String) :
    '/' ∈ (endpointPath node).toList := by
  simp [endpointPath]

theorem slash_mem_transportPath (node : String) :
    '/' ∈ (transportPath node).toList := by
  simp [transportPath]

/-- A file in a directory is one of the two files of a node. -/
theorem mem_allFiles_of_slash (hcommon : Common common) {path : String}
    {value : Value} (hslash : '/' ∈ path.toList)
    (h : (path, value) ∈ L.allFiles common endpoints) :
    ∃ e ∈ endpoints, (path, value) ∈ L.filesOf e.1 e.2 := by
  rw [allFiles, List.mem_append, List.mem_append] at h
  rcases h with (h | h) | h
  · exact absurd hslash (hcommon _ (List.mem_map_of_mem h)).1
  · exact List.mem_flatMap.mp h
  · obtain ⟨rfl, -⟩ := Prod.mk.inj (List.mem_singleton.mp h)
    exact absurd hslash (by decide)

theorem contents_container (hcommon : Common common) :
    contents "endpoints.json" (L.allFiles common endpoints) =
      some (.list (endpoints.map fun e =>
        .dict (L.containerEntry e.1 (L.idOf e.1) (endpointPath e.1)))) := by
  apply contents_eq_some
  · simp [allFiles]
  · intro other h
    rw [allFiles, List.mem_append, List.mem_append] at h
    rcases h with (h | h) | h
    · exact absurd rfl (hcommon _ (List.mem_map_of_mem h)).2
    · obtain ⟨e, -, hfile⟩ := List.mem_flatMap.mp h
      simp only [filesOf, List.mem_cons, Prod.mk.injEq, List.not_mem_nil,
        or_false] at hfile
      rcases hfile with ⟨hpath, -⟩ | ⟨hpath, -⟩
      · have hslash := slash_mem_endpointPath e.1
        rw [← hpath] at hslash
        exact absurd hslash (by decide)
      · have hslash := slash_mem_transportPath e.1
        rw [← hpath] at hslash
        exact absurd hslash (by decide)
    · exact (Prod.mk.inj (List.mem_singleton.mp h)).2

/-- A file that is not of a node is not replaced by one that is. -/
theorem contents_common (hcommon : Common common)
    (hnodup : (common.map Prod.fst).Nodup) {file : String × Value}
    (hfile : file ∈ common) :
    contents file.1 (L.allFiles common endpoints) = some file.2 := by
  obtain ⟨hslash, hne⟩ := hcommon _ (List.mem_map_of_mem hfile)
  apply contents_eq_some
  · exact List.mem_append_left _ (List.mem_append_left _ hfile)
  · intro other h
    rw [allFiles, List.mem_append, List.mem_append] at h
    rcases h with (h | h) | h
    · have hsame := List.inj_on_of_nodup_map hnodup h hfile rfl
      exact congrArg Prod.snd hsame
    · obtain ⟨e, -, he⟩ := List.mem_flatMap.mp h
      simp only [filesOf, List.mem_cons, Prod.mk.injEq, List.not_mem_nil,
        or_false] at he
      rcases he with ⟨hpath, -⟩ | ⟨hpath, -⟩
      · exact absurd (hpath ▸ slash_mem_endpointPath e.1) hslash
      · exact absurd (hpath ▸ slash_mem_transportPath e.1) hslash
    · exact absurd (Prod.mk.inj (List.mem_singleton.mp h)).1 hne

/-- The entry of a node is its own, whatever the other nodes are. -/
theorem find_containerEntry (hnodup : (endpoints.map Prod.fst).Nodup)
    {e : String × Deployment} (he : e ∈ endpoints) :
    (endpoints.map fun e => Value.dict
      (L.containerEntry e.1 (L.idOf e.1) (endpointPath e.1))).find?
        (isEntryOf e.1) =
      some (.dict (L.containerEntry e.1 (L.idOf e.1) (endpointPath e.1))) := by
  have hentry : ∀ a : String × Deployment,
      isEntryOf e.1 (.dict
        (L.containerEntry a.1 (L.idOf a.1) (endpointPath a.1))) =
      decide (a.1 = e.1) := by
    intro a
    rw [isEntryOf, Fields.get, L.nodeId_containerEntry]
    rfl
  have hlookup : endpoints.find? (fun a => decide (a.1 = e.1)) = some e :=
    (KeyedList.mem_iff_lookup hnodup).mp he
  rw [List.find?_map]
  simp only [Function.comp_def, hentry, hlookup, Option.map_some]

theorem eq_of_separated (hnodup : (endpoints.map Prod.fst).Nodup)
    (hseparated : Separated endpoints) {a b : String × Deployment}
    (ha : a ∈ endpoints) (hb : b ∈ endpoints)
    (h : normalized a.1 = normalized b.1) : a = b :=
  List.inj_on_of_nodup_map hnodup ha hb (hseparated a ha b hb h)

theorem contents_endpointPath (hcommon : Common common)
    (hnodup : (endpoints.map Prod.fst).Nodup) (hseparated : Separated endpoints)
    {e : String × Deployment} (he : e ∈ endpoints) :
    contents (endpointPath e.1) (L.allFiles common endpoints) =
      some (.dict (L.endpointFile (L.idOf e.1) ("../" ++ transportPath e.1))) := by
  apply contents_eq_some
  · refine List.mem_append_left _ (List.mem_append_right _ ?_)
    exact List.mem_flatMap.mpr ⟨e, he, List.mem_cons_self⟩
  · intro other h
    obtain ⟨a, ha, hfile⟩ :=
      mem_allFiles_of_slash hcommon (slash_mem_endpointPath e.1) h
    simp only [filesOf, List.mem_cons, Prod.mk.injEq, List.not_mem_nil,
      or_false] at hfile
    rcases hfile with ⟨hpath, rfl⟩ | ⟨hpath, -⟩
    · rw [eq_of_separated hnodup hseparated he ha (endpointPath_inj hpath)]
    · exact absurd hpath (endpointPath_ne_transportPath e.1 a.1)

theorem contents_transportPath (hcommon : Common common)
    (hnodup : (endpoints.map Prod.fst).Nodup) (hseparated : Separated endpoints)
    {e : String × Deployment} (he : e ∈ endpoints) :
    contents (transportPath e.1) (L.allFiles common endpoints) =
      some (.dict (L.transportFile e.1 (L.idOf e.1) e.2)) := by
  apply contents_eq_some
  · refine List.mem_append_left _ (List.mem_append_right _ ?_)
    exact List.mem_flatMap.mpr
      ⟨e, he, List.mem_cons_of_mem _ List.mem_cons_self⟩
  · intro other h
    obtain ⟨a, ha, hfile⟩ :=
      mem_allFiles_of_slash hcommon (slash_mem_transportPath e.1) h
    simp only [filesOf, List.mem_cons, Prod.mk.injEq, List.not_mem_nil,
      or_false] at hfile
    rcases hfile with ⟨hpath, -⟩ | ⟨hpath, rfl⟩
    · exact absurd hpath.symm (endpointPath_ne_transportPath a.1 e.1)
    · rw [eq_of_separated hnodup hseparated he ha (transportPath_inj hpath)]

/-- With separate ids, the entry of a node leads to its own transport file. -/
theorem referencedTransport_eq (hcommon : Common common)
    (hnodup : (endpoints.map Prod.fst).Nodup) (hseparated : Separated endpoints)
    {e : String × Deployment} (he : e ∈ endpoints) :
    referencedTransport (L.allFiles common endpoints) e.1 =
      some (L.transportFile e.1 (L.idOf e.1) e.2) := by
  simp only [referencedTransport, contents_container hcommon, Value.asList,
    find_containerEntry hnodup he, Value.asDict,
    L.containerEndpoint_containerEntry, Value.asStr,
    contents_endpointPath hcommon hnodup hseparated he, L.comm_endpointFile,
    besides_transportPath, contents_transportPath hcommon hnodup hseparated he,
    bind, Option.bind]

/-- The files are per node exactly when the safe ids of the nodes differ. -/
theorem perNode_iff (hcommon : Common common)
    (hnodup : (endpoints.map Prod.fst).Nodup) :
    L.PerNode endpoints (L.allFiles common endpoints) ↔
      Separated endpoints := by
  constructor
  · intro h a ha b hb hsame
    by_contra hne
    exact h.ids a ha b hb hne (by rw [idOf, idOf, hsame])
  · intro h
    refine ⟨?_, ?_, ?_, ?_⟩
    · exact fun a ha b hb hne hid => hne (h a ha b hb (L.idOf_inj hid))
    · exact fun a ha b hb hne hpath =>
        hne (h a ha b hb (endpointPath_inj hpath))
    · exact fun a ha b hb hne hpath =>
        hne (h a ha b hb (transportPath_inj hpath))
    · exact fun a ha => ⟨_, referencedTransport_eq hcommon hnodup h ha,
        L.carries_transportFile _ _ _⟩

end

end NodeFiles

/-! ## Accepted manifests -/

section

variable {nodes : List String} {endpoints : List (String × Deployment)}
variable (h : endpoints.map Prod.fst = sortedNodes nodes)

include h

theorem nodup_endpoints : (endpoints.map Prod.fst).Nodup := by
  rw [h]
  exact nodup_sortedNodes nodes

theorem named_endpoints (hnamed : ∀ node ∈ nodes, normalized node ≠ "") :
    ∀ e ∈ endpoints, normalized e.1 ≠ "" := by
  intro e he
  have hmem : e.1 ∈ endpoints.map Prod.fst := List.mem_map_of_mem he
  rw [h, mem_sortedNodes] at hmem
  exact hnamed e.1 hmem

end

namespace ActionManifest

/-- The files that are not of a node. -/
def commonFiles (resolved : Resolved) : List (String × Value) :=
  [("resolved-action.json", resolved.toValue),
   ("queue.json", queueFile "action_queue_buffer" resolved.transport)]

/-- `generate` writes the files of every accepted manifest. -/
theorem generate_eq {manifest : Fields} {resolved : Resolved}
    (h : resolve manifest = .ok resolved) :
    (resolved.transport.endpoints.map Prod.fst).Nodup ∧
      generate manifest =
        .ok ((nodeFiles resolved.transport.packetVersion).allFiles
          (commonFiles resolved) resolved.transport.endpoints) := by
  have hfrom := resolve_ok h
  refine ⟨nodup_endpoints hfrom.deployments.names, ?_⟩
  have hnamed := named_endpoints hfrom.deployments.names fun node hnode => by
    obtain ⟨a, ha, hnode⟩ := List.mem_flatMap.mp hnode
    change node ∈ [a.clientEndpoint, a.serverEndpoint].map Endpoint.nodeId
      at hnode
    obtain ⟨e, he, rfl⟩ := List.mem_map.mp hnode
    exact (hfrom.endpoints ha he).1
  rw [generate, h]
  change (NodeFiles.write _ resolved.transport.endpoints >>= _) = _
  rw [NodeFiles.write_eq _ hnamed]
  rfl

theorem common_commonFiles (resolved : Resolved) :
    NodeFiles.Common (commonFiles resolved) := by
  change ∀ path ∈ ["resolved-action.json", "queue.json"],
    '/' ∉ path.toList ∧ path ≠ "endpoints.json"
  decide

end ActionManifest

namespace ServiceManifest

theorem named_nodes {s : Service} {size : Sizes} (hformed : WellFormed s size) :
    ∀ node ∈ s.nodes, normalized node ≠ "" := by
  obtain ⟨namePrefix, endpoint, hclients, href, -⟩ := hformed.clients_eq
  intro node hnode
  simp only [Service.nodes, List.mem_cons, List.not_mem_nil, or_false] at hnode
  rcases hnode with rfl | rfl
  · exact hformed.server.named
  · rw [clientNode_eq hformed.maxClients_pos hclients]
    exact href.named

theorem ResolvedFrom.named {manifest : Fields} {resolved : Resolved}
    (h : ResolvedFrom manifest resolved) :
    ∀ e ∈ resolved.transport.endpoints, normalized e.1 ≠ "" := by
  refine named_endpoints h.endpoints fun node hnode => ?_
  obtain ⟨s, hs, hnode⟩ := List.mem_flatMap.mp hnode
  obtain ⟨size, hformed⟩ := h.wellFormed hs
  exact named_nodes hformed node hnode

/-- The files that are not of a node. -/
def commonFiles (resolved : Resolved) : List (String × Value) :=
  [("resolved-service.json", resolved.toValue),
   ("rpc-server-services.json", serverServices resolved.services),
   ("rpc-client-services.json", clientServices resolved.services),
   ("queue.json", queueFile "service_queue_buffer" resolved.transport),
   ("pdudef.json", pduDefFile)]

/-- `generate` writes the files of every accepted manifest. -/
theorem generate_eq {manifest : Fields} {resolved : Resolved}
    (h : resolve manifest = .ok resolved) :
    (resolved.transport.endpoints.map Prod.fst).Nodup ∧
      generate manifest =
        .ok ((nodeFiles resolved.transport.packetVersion
            (expectedByServer resolved.services)).allFiles
          (commonFiles resolved) resolved.transport.endpoints) := by
  have hfrom := resolve_ok h
  refine ⟨nodup_endpoints hfrom.endpoints, ?_⟩
  rw [generate, h]
  change (NodeFiles.write _ resolved.transport.endpoints >>= _) = _
  rw [NodeFiles.write_eq _ hfrom.named]
  rfl

theorem common_commonFiles (resolved : Resolved) :
    NodeFiles.Common (commonFiles resolved) := by
  change ∀ path ∈ ["resolved-service.json", "rpc-server-services.json",
      "rpc-client-services.json", "queue.json", "pdudef.json"],
    '/' ∉ path.toList ∧ path ≠ "endpoints.json"
  decide

end ServiceManifest

/-! ## Both generators -/

/-- For every accepted manifest of either generator, the generated files are per
node exactly when no two nodes of the manifest have the same safe id. -/
theorem generated_files_per_node_iff (manifest : Fields) :
    (∀ resolved, ActionManifest.resolve manifest = .ok resolved →
      ∃ written, ActionManifest.generate manifest = .ok written ∧
        ((ActionManifest.nodeFiles resolved.transport.packetVersion).PerNode
            resolved.transport.endpoints written ↔
          NodeFiles.Separated resolved.transport.endpoints)) ∧
    ∀ resolved, ServiceManifest.resolve manifest = .ok resolved →
      ∃ written, ServiceManifest.generate manifest = .ok written ∧
        ((ServiceManifest.nodeFiles resolved.transport.packetVersion
            (ServiceManifest.expectedByServer resolved.services)).PerNode
            resolved.transport.endpoints written ↔
          NodeFiles.Separated resolved.transport.endpoints) := by
  constructor
  · intro resolved h
    obtain ⟨hnodup, hgenerate⟩ := ActionManifest.generate_eq h
    exact ⟨_, hgenerate,
      NodeFiles.perNode_iff (ActionManifest.common_commonFiles resolved) hnodup⟩
  · intro resolved h
    obtain ⟨hnodup, hgenerate⟩ := ServiceManifest.generate_eq h
    exact ⟨_, hgenerate,
      NodeFiles.perNode_iff (ServiceManifest.common_commonFiles resolved) hnodup⟩

/-- The nodes of the sample configuration have separate files. -/
theorem sampleManifest_separate :
    ∃ resolved written,
      ActionManifest.resolve
        (ActionManifest.sampleManifest "fibonacci-client" "fibonacci-server") =
          .ok resolved ∧
      ActionManifest.generate
        (ActionManifest.sampleManifest "fibonacci-client" "fibonacci-server") =
          .ok written ∧
      (ActionManifest.nodeFiles resolved.transport.packetVersion).PerNode
        resolved.transport.endpoints written := by
  obtain ⟨resolved, h, hnodes⟩ : ∃ resolved,
      ActionManifest.resolve
        (ActionManifest.sampleManifest "fibonacci-client" "fibonacci-server") =
          .ok resolved ∧
      resolved.transport.endpoints.map Prod.fst =
        ["fibonacci-client", "fibonacci-server"] := ⟨_, rfl, rfl⟩
  obtain ⟨written, hwritten, hiff⟩ := (generated_files_per_node_iff _).1 _ h
  refine ⟨resolved, written, h, hwritten, hiff.mpr ?_⟩
  intro a ha b hb hsame
  have hmem : ∀ e ∈ resolved.transport.endpoints,
      e.1 = "fibonacci-client" ∨ e.1 = "fibonacci-server" := by
    intro e he
    simpa [hnodes] using List.mem_map_of_mem (f := Prod.fst) he
  rcases hmem a ha with hna | hna <;> rcases hmem b hb with hnb | hnb <;>
    rw [hna, hnb] at hsame ⊢
  · exact absurd hsame (by decide +kernel)
  · exact absurd hsame (by decide +kernel)

/-- Two nodes with one safe id: the client `a b` is left with the transport of
the server `a-b`. -/
theorem sharedId_overwrites :
    ∃ resolved written,
      ActionManifest.resolve (ActionManifest.sampleManifest "a b" "a-b") =
        .ok resolved ∧
      ActionManifest.generate (ActionManifest.sampleManifest "a b" "a-b") =
        .ok written ∧
      (referencedTransport written "a b").map (Fields.get "role") =
        some (.str "server") ∧
      ¬(ActionManifest.nodeFiles resolved.transport.packetVersion).PerNode
        resolved.transport.endpoints written := by
  obtain ⟨resolved, written, hresolve, hgenerate, hrole, hnodes⟩ :
      ∃ resolved written,
        ActionManifest.resolve (ActionManifest.sampleManifest "a b" "a-b") =
          .ok resolved ∧
        ActionManifest.generate (ActionManifest.sampleManifest "a b" "a-b") =
          .ok written ∧
        (referencedTransport written "a b").map (Fields.get "role") =
          some (.str "server") ∧
        resolved.transport.endpoints.map Prod.fst = ["a b", "a-b"] :=
    ⟨_, _, rfl, rfl, rfl, rfl⟩
  refine ⟨resolved, written, hresolve, hgenerate, hrole, ?_⟩
  intro h
  obtain ⟨a, ha, hna⟩ : ∃ a ∈ resolved.transport.endpoints, a.1 = "a b" :=
    List.mem_map.mp (by simp [hnodes])
  obtain ⟨b, hb, hnb⟩ : ∃ b ∈ resolved.transport.endpoints, b.1 = "a-b" :=
    List.mem_map.mp (by simp [hnodes])
  have hid := h.ids a ha b hb (by rw [hna, hnb]; decide)
  rw [hna, hnb] at hid
  exact hid rfl

end Config
end HakoPduRpc
