import HakoPduRpc.Action.ChannelNumbering
import HakoPduRpc.Action.LinkedAgreement
import HakoPduRpc.Action.PacketRoundTrip
import HakoPduRpc.Config.ActionAgreement
import HakoPduRpc.Config.EndpointFiles

/-!
# From a manifest to running Actions

The services of every node load what the generator writes for a manifest.  The
generator does not know the packet types, so a service may still refuse the
document: it starts exactly when the numbers of the document can be read and the
packets of its own Actions fit.  Two nodes
that have both started run the Actions that they share with the same slots, and
agree on them whatever happens afterwards.
-/

namespace HakoPduRpc

open HakoPduRpc.Action

namespace Action

/-! ## The routing table of a definition -/

/-- The registry knows the packet type of a channel, and its packets have room
for their header and a supported size. -/
def PacketFits (R : PduRegistry) (heap : ActionBufferHeap)
    (c : ActionChannelDefinition) : Prop :=
  ∃ size, R.pduGetSize c.packetType = some size ∧
    channelHeaderSize R c.kind ≤ size.toUInt64 ∧
    R.supportedPacketCapacity size (heap.size c.kind) = true

/-- Every packet type of a definition fits. -/
def PacketsFit (R : PduRegistry) (d : ActionDefinition) : Prop :=
  ∀ c ∈ d.channels, PacketFits R d.bufferHeap c

section Routing

variable {R : PduRegistry} {actionName : String} {heap : ActionBufferHeap}
variable {st : RoutingState} (hst : st.Sized R heap)

include hst

/-- A channel is added when its packets fit. -/
theorem packetFits_of_ok {c : ActionChannelDefinition} {next : RoutingState}
    (h : serverRouteChannel R actionName st c = .ok next) :
    PacketFits R heap c := by
  unfold serverRouteChannel at h
  split at h
  · cases h
  · next slot hslot =>
      split_ifs at h
      split at h
      · cases h
      · next size hsize =>
          split_ifs at h with hheader hsupported
          rw [hst.heapCapacity_eq hslot c.kind] at hsupported
          exact ⟨size, hsize, UInt64.not_lt.mp hheader, hsupported⟩

/-- Only packets that do not fit are refused as packets. -/
theorem not_packetFits_of_error {c : ActionChannelDefinition}
    (h : serverRouteChannel R actionName st c = .error .packet) :
    ¬PacketFits R heap c := by
  rintro ⟨size, hsize, hheader, hsupported⟩
  unfold serverRouteChannel at h
  split at h
  · cases h
  · next slot hslot =>
      rw [← hst.heapCapacity_eq hslot c.kind] at hsupported
      have hfits : ¬size.toUInt64 < channelHeaderSize R c.kind :=
        UInt64.not_lt.mpr hheader
      split_ifs at h
      · cases h
      · simp [hsize, hfits, hsupported] at h

theorem sized_serverRouteChannel {c : ActionChannelDefinition}
    {next : RoutingState}
    (h : serverRouteChannel R actionName st c = .ok next) :
    next.Sized R heap := by
  have hnext : routeChannel R actionName st c = some next := by
    rw [← toOption_serverRouteChannel, h]
    rfl
  exact sized_routeChannel hst hnext

theorem packetFits_of_foldlM_ok {cs : List ActionChannelDefinition}
    {last : RoutingState}
    (h : cs.foldlM (serverRouteChannel R actionName) st = .ok last) :
    ∀ c ∈ cs, PacketFits R heap c := by
  induction cs generalizing st with
  | nil => simp
  | cons c cs ih =>
      rw [List.foldlM_cons] at h
      obtain ⟨next, hnext, hrest⟩ := except_bind_eq_ok h
      rw [List.forall_mem_cons]
      exact ⟨packetFits_of_ok hst hnext,
        ih (sized_serverRouteChannel hst hnext) hrest⟩

theorem not_packetFits_of_foldlM_error {cs : List ActionChannelDefinition}
    (h : cs.foldlM (serverRouteChannel R actionName) st = .error .packet) :
    ∃ c ∈ cs, ¬PacketFits R heap c := by
  induction cs generalizing st with
  | nil => cases h
  | cons c cs ih =>
      rw [List.foldlM_cons] at h
      cases hc : serverRouteChannel R actionName st c with
      | error failure =>
          rw [hc] at h
          obtain rfl : failure = .packet := Except.error.inj h
          exact ⟨c, List.mem_cons_self, not_packetFits_of_error hst hc⟩
      | ok next =>
          rw [hc] at h
          obtain ⟨d, hd, hfits⟩ := ih (sized_serverRouteChannel hst hc) h
          exact ⟨d, List.mem_cons_of_mem c hd, hfits⟩

end Routing

section Parsed

variable {R : PduRegistry} {entry : Json} {d : ActionDefinition}
variable (hparse : parseAction entry = .ok d) (actionName : String)

include hparse

/-- A parsed definition has a routing table exactly when its packets fit. -/
theorem isSome_parseRouting_iff :
    (parseRouting R actionName d).isSome = true ↔ PacketsFit R d := by
  rw [← toOption_serverRouting]
  constructor
  · intro hsome
    cases hrouting : serverRouting R actionName d with
    | error failure =>
        rw [hrouting] at hsome
        cases hsome
    | ok routing =>
        unfold serverRouting routeChannels at hrouting
        split at hrouting
        · cases hrouting
        · next st hfold =>
            exact packetFits_of_foldlM_ok (sized_initial R d) hfold
  · intro hfit
    cases hrouting : serverRouting R actionName d with
    | ok routing => rfl
    | error failure =>
        obtain rfl := serverRouting_error actionName hparse hrouting
        unfold serverRouting routeChannels at hrouting
        split at hrouting
        · next failure hfold =>
            obtain rfl := Except.error.inj hrouting
            obtain ⟨c, hc, hrefused⟩ :=
              not_packetFits_of_foldlM_error (sized_initial R d) hfold
            exact absurd (hfit c hc) hrefused
        · split_ifs at hrouting
          cases hrouting

/-- The table of a parsed definition has its slots. -/
theorem length_parseRouting {routing : List SlotRouting}
    (h : parseRouting R actionName d = some routing) :
    routing.length = d.slotCount :=
  (serverRouting_table hparse (serverRouting_of_parseRouting h)).1

end Parsed

/-! ## The Actions of a node -/

section Initialize

variable {R : PduRegistry} {endpointExists : String → Bool}
variable {l : List (ActionDefinition × Json)}

/-- The client endpoint of an Action starts exactly when its packets fit. -/
theorem ActionClientEndpointImpl.isSome_initializeEndpoint_iff {entry : Json}
    {d : ActionDefinition} (hparse : parseAction entry = .ok d) :
    (initializeEndpoint R { actionName := d.name } entry).isSome = true ↔
      PacketsFit R d := by
  rw [← isSome_parseRouting_iff hparse d.name]
  cases hrouting : parseRouting R d.name d <;>
    simp [initializeEndpoint, hparse, hrouting]

/-- The server endpoint of an Action starts exactly when its packets fit. -/
theorem ActionServerEndpointImpl.isSome_initializeEndpoint_iff {entry : Json}
    {d : ActionDefinition} (hparse : parseAction entry = .ok d) :
    (initializeEndpoint R { actionName := d.name } entry).isSome = true ↔
      PacketsFit R d := by
  rw [← isSome_parseRouting_iff hparse d.name]
  cases hrouting : parseRouting R d.name d <;>
    simp [initializeEndpoint, hparse, hrouting]

/-- A client node sets up its Actions exactly when their packets fit. -/
theorem ActionServicesClient.isSome_initializeActions_iff
    {s : ActionServicesClient} (himpl : s.implType = "ActionClientEndpointImpl")
    (hentry : ∀ x ∈ l, parseAction x.2 = .ok x.1)
    (hexists : ∀ x ∈ l, x.1.clientEndpoint.nodeId = s.nodeId →
      endpointExists x.1.clientEndpoint.lookupId = true) :
    (initializeActions R s endpointExists l).isSome = true ↔
      ∀ x ∈ l, x.1.clientEndpoint.nodeId = s.nodeId → PacketsFit R x.1 := by
  induction l with
  | nil => simp [initializeActions]
  | cons x rest ih =>
      obtain ⟨d, entry⟩ := x
      rw [List.forall_mem_cons] at hentry hexists ⊢
      have hrest := ih hentry.2 hexists.2
      by_cases hnode : d.clientEndpoint.nodeId = s.nodeId
      · have hfit := ActionClientEndpointImpl.isSome_initializeEndpoint_iff
          (R := R) hentry.1
        have hfound := hexists.1 hnode
        rw [← hrest, ← hfit]
        cases hep : ActionClientEndpointImpl.initializeEndpoint R
            { actionName := d.name } entry <;>
          cases hlater : initializeActions R s endpointExists rest <;>
          simp [initializeActions, hnode, hfound, himpl, hep, hlater]
      · simp [initializeActions, hnode, hrest]

/-- A server node sets up its Actions exactly when their packets fit. -/
theorem ActionServicesServer.isSome_initializeActions_iff
    {s : ActionServicesServer} (himpl : s.implType = "ActionServerEndpointImpl")
    (hentry : ∀ x ∈ l, parseAction x.2 = .ok x.1)
    (hexists : ∀ x ∈ l, x.1.serverEndpoint.nodeId = s.nodeId →
      endpointExists x.1.serverEndpoint.lookupId = true) :
    (initializeActions R s endpointExists l).isSome = true ↔
      ∀ x ∈ l, x.1.serverEndpoint.nodeId = s.nodeId → PacketsFit R x.1 := by
  induction l with
  | nil => simp [initializeActions]
  | cons x rest ih =>
      obtain ⟨d, entry⟩ := x
      rw [List.forall_mem_cons] at hentry hexists ⊢
      have hrest := ih hentry.2 hexists.2
      by_cases hnode : d.serverEndpoint.nodeId = s.nodeId
      · have hfit := ActionServerEndpointImpl.isSome_initializeEndpoint_iff
          (R := R) hentry.1
        have hfound := hexists.1 hnode
        rw [← hrest, ← hfit]
        cases hep : ActionServerEndpointImpl.initializeEndpoint R
            { actionName := d.name } entry <;>
          cases hlater : initializeActions R s endpointExists rest <;>
          simp [initializeActions, hnode, hfound, himpl, hep, hlater]
      · simp [initializeActions, hnode, hrest]

/-- What a client node sets up are the Actions of the node. -/
theorem ActionServicesClient.names_initializeActions {s : ActionServicesClient}
    {actions : List ClientActionInstance}
    (h : initializeActions R s endpointExists l = some actions) :
    actions.map (·.actionName) =
      (l.filter fun x => x.1.clientEndpoint.nodeId = s.nodeId).map
        (·.1.name) := by
  induction l generalizing actions with
  | nil =>
      obtain rfl : [] = actions := Option.some.inj h
      rfl
  | cons x rest ih =>
      obtain ⟨d, entry⟩ := x
      unfold initializeActions at h
      split_ifs at h with hnode hexists himpl
      · simp [hnode, ih h]
      · split at h
        · cases h
        · split at h
          · cases h
          · next hlater =>
              obtain rfl := Option.some.inj h
              simp [not_not.mp hnode, ih hlater]

/-- What a server node sets up are the Actions of the node. -/
theorem ActionServicesServer.names_initializeActions {s : ActionServicesServer}
    {actions : List ServerActionInstance}
    (h : initializeActions R s endpointExists l = some actions) :
    actions.map (·.actionName) =
      (l.filter fun x => x.1.serverEndpoint.nodeId = s.nodeId).map
        (·.1.name) := by
  induction l generalizing actions with
  | nil =>
      obtain rfl : [] = actions := Option.some.inj h
      rfl
  | cons x rest ih =>
      obtain ⟨d, entry⟩ := x
      unfold initializeActions at h
      split_ifs at h with hnode hexists himpl
      · simp [hnode, ih h]
      · split at h
        · cases h
        · split at h
          · cases h
          · next hlater =>
              obtain rfl := Option.some.inj h
              simp [not_not.mp hnode, ih hlater]

end Initialize

end Action

namespace Config
namespace ActionManifest

/-! ## The written documents -/

/-- The endpoint id that `endpoints.json` lists for a node. -/
def listedId (container : Value) (node : String) : Option String := do
  let entries ← container.asList
  let entry ← entries.find? (isEntryOf node)
  let fields ← entry.asDict
  let endpoint ← containerEndpoint fields
  endpoint.1.asStr

/-- `endpoints.json` lists the endpoint id of every node. -/
theorem listedId_containerEntries {L : NodeFiles}
    {endpoints : List (String × Deployment)}
    (hnodup : (endpoints.map Prod.fst).Nodup) {node : String}
    (hnode : node ∈ endpoints.map Prod.fst) :
    listedId (.list (endpoints.map fun e =>
      .dict (L.containerEntry e.1 (L.idOf e.1) (NodeFiles.endpointPath e.1))))
        node = some (L.idOf node) := by
  obtain ⟨e, he, rfl⟩ := List.mem_map.mp hnode
  simp only [listedId, Value.asList, NodeFiles.find_containerEntry hnodup he,
    Value.asDict, L.containerEndpoint_containerEntry, Value.asStr, bind,
    Option.bind]

theorem find_actions_tree (resolved : Resolved) :
    resolved.toValue.tree.find "actions" =
      some (.array (resolved.actions.map fun a => a.toValue.tree)) := by
  rw [Resolved.toValue, find_tree]
  change some (Value.list (resolved.actions.map Action.toValue)).tree = _
  rw [Value.tree, treeList_eq_map, List.map_map]
  rfl

/-- The definitions that the loader reads, with the entries they come from. -/
def entries (resolved : Resolved) : List (ActionDefinition × Json) :=
  resolved.actions.map fun a => (a.definition, a.toValue.tree)

theorem forall_entries {resolved : Resolved} {P : ActionDefinition → Prop} :
    (∀ x ∈ entries resolved, P x.1) ↔
      ∀ a ∈ resolved.actions, P a.definition := by
  rw [entries, List.forall_mem_map]

theorem WellFormed.lookupId_client {a : Action} (h : WellFormed a) :
    a.definition.clientEndpoint.lookupId = a.clientEndpoint.endpointId :=
  if_neg h.clientId_ne

theorem WellFormed.lookupId_server {a : Action} (h : WellFormed a) :
    a.definition.serverEndpoint.lookupId = a.serverEndpoint.endpointId :=
  if_neg h.serverId_ne

section Resolved

variable {R : PduRegistry} {manifest : Fields} {resolved : Resolved}
variable (h : resolve manifest = .ok resolved)

include h

theorem parse_resolved :
    parse resolved.toValue.tree =
      .ok (resolved.actions.map Action.definition) := by
  have hfrom := resolve_ok h
  exact parse_tree hfrom.actions_ne hfrom.wellFormed hfrom.names

theorem parseAction_entries :
    ∀ x ∈ entries resolved, parseAction x.2 = .ok x.1 := by
  intro x hx
  obtain ⟨a, ha, rfl⟩ := List.mem_map.mp hx
  exact parseAction_tree ((resolve_ok h).wellFormed a ha)

/-- The client services of a node that has its endpoint. -/
theorem initializeServices_client {nodeId : String}
    {endpointExists : String → Bool}
    (hexists : ∀ a ∈ resolved.actions, a.clientEndpoint.nodeId = nodeId →
      endpointExists a.clientEndpoint.endpointId = true) :
    let start := ActionServicesClient.initializeServices R
      { nodeId := nodeId, implType := "ActionClientEndpointImpl" }
      endpointExists resolved.toValue.tree
    (start.result = true ↔ ∀ a ∈ resolved.actions,
      a.clientEndpoint.nodeId = nodeId → PacketsFit R a.definition) ∧
    (start.result = true → start.state.actions.map (·.actionName) =
      (resolved.actions.filter fun a =>
        a.clientEndpoint.nodeId = nodeId).map Action.name) := by
  intro start
  have hfound : ∀ x ∈ entries resolved, x.1.clientEndpoint.nodeId = nodeId →
      endpointExists x.1.clientEndpoint.lookupId = true := by
    intro x hx hnode
    obtain ⟨a, ha, rfl⟩ := List.mem_map.mp hx
    have hformed := (resolve_ok h).wellFormed a ha
    rw [hformed.lookupId_client]
    exact hexists a ha hnode
  have hiff : (ActionServicesClient.initializeActions R
        { nodeId := nodeId, implType := "ActionClientEndpointImpl" }
        endpointExists (entries resolved)).isSome = true ↔
      ∀ a ∈ resolved.actions, a.clientEndpoint.nodeId = nodeId →
        PacketsFit R a.definition :=
    (ActionServicesClient.isSome_initializeActions_iff rfl
      (parseAction_entries h) hfound).trans
      (forall_entries (P := fun d =>
        d.clientEndpoint.nodeId = nodeId → PacketsFit R d))
  cases hactions : ActionServicesClient.initializeActions R
      { nodeId := nodeId, implType := "ActionClientEndpointImpl" }
      endpointExists (entries resolved) with
  | none =>
      have hstart : start.result = false := by
        rw [entries] at hactions
        simp [start, ActionServicesClient.initializeServices, parse_resolved h,
          find_actions_tree, List.zip_map', hactions]
      rw [hactions] at hiff
      rw [hstart, ← hiff]
      simp
  | some actions =>
      have hstart : start.result = true ∧ start.state.actions = actions := by
        rw [entries] at hactions
        simp [start, ActionServicesClient.initializeServices, parse_resolved h,
          find_actions_tree, List.zip_map', hactions]
      rw [hactions] at hiff
      rw [hstart.1, hstart.2, ← hiff]
      refine ⟨by simp, fun _ => ?_⟩
      rw [ActionServicesClient.names_initializeActions hactions, entries,
        List.filter_map, List.map_map]
      rfl

/-- The server services of a node that has its endpoint. -/
theorem initializeServices_server {nodeId : String}
    {endpointExists : String → Bool}
    (hexists : ∀ a ∈ resolved.actions, a.serverEndpoint.nodeId = nodeId →
      endpointExists a.serverEndpoint.endpointId = true) :
    let start := ActionServicesServer.initializeServices R
      { nodeId := nodeId, implType := "ActionServerEndpointImpl" }
      endpointExists resolved.toValue.tree
    (start.result = true ↔ ∀ a ∈ resolved.actions,
      a.serverEndpoint.nodeId = nodeId → PacketsFit R a.definition) ∧
    (start.result = true → start.state.actions.map (·.actionName) =
      (resolved.actions.filter fun a =>
        a.serverEndpoint.nodeId = nodeId).map Action.name) := by
  intro start
  have hfound : ∀ x ∈ entries resolved, x.1.serverEndpoint.nodeId = nodeId →
      endpointExists x.1.serverEndpoint.lookupId = true := by
    intro x hx hnode
    obtain ⟨a, ha, rfl⟩ := List.mem_map.mp hx
    have hformed := (resolve_ok h).wellFormed a ha
    rw [hformed.lookupId_server]
    exact hexists a ha hnode
  have hiff : (ActionServicesServer.initializeActions R
        { nodeId := nodeId, implType := "ActionServerEndpointImpl" }
        endpointExists (entries resolved)).isSome = true ↔
      ∀ a ∈ resolved.actions, a.serverEndpoint.nodeId = nodeId →
        PacketsFit R a.definition :=
    (ActionServicesServer.isSome_initializeActions_iff rfl
      (parseAction_entries h) hfound).trans
      (forall_entries (P := fun d =>
        d.serverEndpoint.nodeId = nodeId → PacketsFit R d))
  cases hactions : ActionServicesServer.initializeActions R
      { nodeId := nodeId, implType := "ActionServerEndpointImpl" }
      endpointExists (entries resolved) with
  | none =>
      have hstart : start.result = false := by
        rw [entries] at hactions
        simp [start, ActionServicesServer.initializeServices, parse_resolved h,
          find_actions_tree, List.zip_map', hactions]
      rw [hactions] at hiff
      rw [hstart, ← hiff]
      simp
  | some actions =>
      have hstart : start.result = true ∧ start.state.actions = actions := by
        rw [entries] at hactions
        simp [start, ActionServicesServer.initializeServices, parse_resolved h,
          find_actions_tree, List.zip_map', hactions]
      rw [hactions] at hiff
      rw [hstart.1, hstart.2, ← hiff]
      refine ⟨by simp, fun _ => ?_⟩
      rw [ActionServicesServer.names_initializeActions hactions, entries,
        List.filter_map, List.map_map]
      rfl

/-- The table of an Action that the document configures. -/
theorem configuredRouting_resolved {a : Action} (ha : a ∈ resolved.actions) :
    configuredRouting R resolved.toValue.tree a.name =
      parseRouting R a.name a.definition := by
  have hnodup := (resolve_ok h).names
  have hnames : ((resolved.actions.map Action.definition).map
      ActionDefinition.name).Nodup := by
    rw [List.map_map]
    exact hnodup
  have hlookup := (KeyedList.mem_iff_lookup hnames).mp
    (List.mem_map_of_mem (f := Action.definition) ha)
  rw [KeyedList.lookup] at hlookup
  unfold configuredRouting
  rw [parse_resolved h]
  exact congrArg (Option.bind · (parseRouting R a.name)) hlookup

end Resolved

/-! ## Two nodes -/

/-- Two nodes that load the written document, each with the endpoint that
`endpoints.json` lists for it; a document that can be read is what they have
read. -/
structure Deployed (document container : Value) (d : Action.Deployment) :
    Prop where
  root : ∀ root, document.toJson = some root → d.root = root
  clientImplType : d.clientImplType = "ActionClientEndpointImpl"
  serverImplType : d.serverImplType = "ActionServerEndpointImpl"
  clientEndpoint : ∀ id, listedId container d.clientNodeId = some id →
    d.clientEndpointExists id = true
  serverEndpoint : ∀ id, listedId container d.serverNodeId = some id →
    d.serverEndpointExists id = true

/-- What `initialize_services` of the client node returns for a document; it
returns `false` when `load_file` cannot read it. -/
def clientStarts (R : PduRegistry) (document : Value) (d : Action.Deployment) :
    Bool :=
  match document.toJson with
  | none => false
  | some root =>
      (ActionServicesClient.initializeServices R
        { nodeId := d.clientNodeId, implType := d.clientImplType }
        d.clientEndpointExists root).result

/-- What `initialize_services` of the server node returns for a document. -/
def serverStarts (R : PduRegistry) (document : Value) (d : Action.Deployment) :
    Bool :=
  match document.toJson with
  | none => false
  | some root =>
      (ActionServicesServer.initializeServices R
        { nodeId := d.serverNodeId, implType := d.serverImplType }
        d.serverEndpointExists root).result

/-- Each node starts exactly when the numbers of the document can be read and
the packets of its Actions fit, and then runs the Actions of the manifest that
are its own; for an Action of both nodes they have the slots of the manifest, and
agree on every Goal. -/
structure RunsManifest (R : PduRegistry) (resolved : Resolved)
    (document : Value) (d : Action.Deployment) : Prop where
  clientStarts_iff : clientStarts R document d = true ↔
    resolved.transport.Readable ∧
      ∀ a ∈ resolved.actions, a.clientEndpoint.nodeId = d.clientNodeId →
        PacketsFit R a.definition
  serverStarts_iff : serverStarts R document d = true ↔
    resolved.transport.Readable ∧
      ∀ a ∈ resolved.actions, a.serverEndpoint.nodeId = d.serverNodeId →
        PacketsFit R a.definition
  clientActions : clientStarts R document d = true →
    (startedSystem R d).left.actions.map (·.actionName) =
      (resolved.actions.filter fun a =>
        a.clientEndpoint.nodeId = d.clientNodeId).map Action.name
  serverActions : serverStarts R document d = true →
    (startedSystem R d).right.actions.map (·.actionName) =
      (resolved.actions.filter fun a =>
        a.serverEndpoint.nodeId = d.serverNodeId).map Action.name
  shared : clientStarts R document d = true →
    serverStarts R document d = true →
    ∀ a ∈ resolved.actions, a.clientEndpoint.nodeId = d.clientNodeId →
      a.serverEndpoint.nodeId = d.serverNodeId →
      ∃ routing : List SlotRouting, routing.length = a.slotCount ∧
        ∀ is : List SystemInput, (∀ i ∈ is, RegularInput i) → ∀ g : GoalId,
          RaceAgreements R routing g
            (clientTrace a.name
              ((systemMachine R).trace (startedSystem R d) is))
            (serverTrace a.name
              ((systemMachine R).trace (startedSystem R d) is))

theorem Deployed.root_eq {document container : Value} {d : Action.Deployment}
    (hd : Deployed document container d) (hreadable : document.readable = true) :
    d.root = document.tree :=
  hd.root _ (toJson_eq_some_iff.mpr ⟨hreadable, rfl⟩)

/-- A client node starts with a document that it has read. -/
theorem clientStarts_iff {R : PduRegistry} {document : Value}
    {d : Action.Deployment} :
    clientStarts R document d = true ↔
      document.readable = true ∧
        (ActionServicesClient.initializeServices R
          { nodeId := d.clientNodeId, implType := d.clientImplType }
          d.clientEndpointExists document.tree).result = true := by
  unfold clientStarts Value.toJson
  by_cases hreadable : document.readable = true
  · simp only [hreadable, if_true, true_and]
  · simp [hreadable]

/-- A server node starts with a document that it has read. -/
theorem serverStarts_iff {R : PduRegistry} {document : Value}
    {d : Action.Deployment} :
    serverStarts R document d = true ↔
      document.readable = true ∧
        (ActionServicesServer.initializeServices R
          { nodeId := d.serverNodeId, implType := d.serverImplType }
          d.serverEndpointExists document.tree).result = true := by
  unfold serverStarts Value.toJson
  by_cases hreadable : document.readable = true
  · simp only [hreadable, if_true, true_and]
  · simp [hreadable]

section Nodes

variable {R : PduRegistry} {manifest : Fields} {resolved : Resolved}
variable (h : resolve manifest = .ok resolved) {d : Action.Deployment}
variable (hroot : d.root = resolved.toValue.tree)

include h hroot

/-- An Action that both nodes run. -/
theorem shared_agree (hR : R.Lawful) {a : Action} (ha : a ∈ resolved.actions)
    (hclients : a.name ∈ (startedSystem R d).left.actions.map (·.actionName))
    (hservers : a.name ∈
      (startedSystem R d).right.actions.map (·.actionName)) :
    ∃ routing : List SlotRouting, routing.length = a.slotCount ∧
      ∀ is : List SystemInput, (∀ i ∈ is, RegularInput i) → ∀ g : GoalId,
        RaceAgreements R routing g
          (clientTrace a.name
            ((systemMachine R).trace (startedSystem R d) is))
          (serverTrace a.name
            ((systemMachine R).trace (startedSystem R d) is)) := by
  obtain ⟨client, hclient, hname⟩ := List.mem_map.mp hclients
  obtain ⟨server, hserver, hname'⟩ := List.mem_map.mp hservers
  obtain ⟨-, hconfigured⟩ := ActionServicesServer.startedServer_configured R
    d.serverNodeId d.serverImplType d.serverEndpointExists d.root
  obtain ⟨-, hrouting⟩ := hconfigured server hserver
  rw [hroot, hname', configuredRouting_resolved h ha] at hrouting
  refine ⟨server.endpoint.slotRouting, ?_, fun is his g => ?_⟩
  · have hparse := parseAction_tree ((resolve_ok h).wellFormed a ha)
    exact length_parseRouting hparse _ hrouting
  · obtain ⟨hlinked, hsame⟩ := ActionSystem.linked_run hclient hserver
      (hname.trans hname'.symm) hR his
    have hagree := hlinked.raceAgreements g
    rwa [hsame, ActionSystem.lefts_observe, ActionSystem.rights_observe,
      hname'] at hagree

end Nodes

/-- Two nodes that load what the generator writes for a manifest run it. -/
theorem generated_actions_run {R : PduRegistry} (hR : R.Lawful)
    {manifest : Fields} {resolved : Resolved}
    (h : resolve manifest = .ok resolved) :
    ∃ files document container, generate manifest = .ok files ∧
      contents "resolved-action.json" files = some document ∧
      contents "endpoints.json" files = some container ∧
      ∀ d : Action.Deployment, Deployed document container d →
        RunsManifest R resolved document d := by
  have hfrom := resolve_ok h
  obtain ⟨hnodup, hgenerate⟩ := generate_eq h
  have hcommon := common_commonFiles resolved
  have hpaths : ((commonFiles resolved).map Prod.fst).Nodup := by
    simp [commonFiles]
  have hfile : ("resolved-action.json", resolved.toValue) ∈
      commonFiles resolved := List.mem_cons_self
  refine ⟨_, _, _, hgenerate, NodeFiles.contents_common hcommon hpaths hfile,
    NodeFiles.contents_container hcommon, fun d hd => ?_⟩
  have hroot := hd.root_eq
  obtain ⟨clientNodeId, clientImplType, clientEndpointExists, serverNodeId,
    serverImplType, serverEndpointExists, root⟩ := d
  obtain ⟨-, rfl, rfl, hclient, hserver⟩ := hd
  obtain ⟨hclientIff, hclientNames⟩ := initializeServices_client (R := R) h
    fun a ha hnode => by
      obtain ⟨-, hid, hlisted⟩ := hfrom.endpoints ha
        (e := a.clientEndpoint) List.mem_cons_self
      rw [hid]
      rw [hnode] at hlisted ⊢
      exact hclient _ (listedId_containerEntries hnodup hlisted)
  obtain ⟨hserverIff, hserverNames⟩ := initializeServices_server (R := R) h
    fun a ha hnode => by
      obtain ⟨-, hid, hlisted⟩ := hfrom.endpoints ha
        (e := a.serverEndpoint) (List.mem_cons_of_mem _ List.mem_cons_self)
      rw [hid]
      rw [hnode] at hlisted ⊢
      exact hserver _ (listedId_containerEntries hnodup hlisted)
  refine ⟨?_, ?_, ?_, ?_, ?_⟩
  · rw [clientStarts_iff, readable_resolved hfrom, hclientIff]
  · rw [serverStarts_iff, readable_resolved hfrom, hserverIff]
  · intro hstarts
    obtain ⟨hreadable, hresult⟩ := clientStarts_iff.mp hstarts
    obtain rfl := hroot hreadable
    exact hclientNames hresult
  · intro hstarts
    obtain ⟨hreadable, hresult⟩ := serverStarts_iff.mp hstarts
    obtain rfl := hroot hreadable
    exact hserverNames hresult
  · intro hclientStarts hserverStarts a ha hclientNode hserverNode
    obtain ⟨hreadable, hclientResult⟩ := clientStarts_iff.mp hclientStarts
    obtain ⟨-, hserverResult⟩ := serverStarts_iff.mp hserverStarts
    obtain rfl := hroot hreadable
    refine shared_agree h rfl hR ha ?_ ?_
    · have hmem : a.name ∈ (resolved.actions.filter fun a =>
          a.clientEndpoint.nodeId = clientNodeId).map Action.name :=
        List.mem_map_of_mem
          (List.mem_filter.mpr ⟨ha, decide_eq_true hclientNode⟩)
      rw [← hclientNames hclientResult] at hmem
      exact hmem
    · have hmem : a.name ∈ (resolved.actions.filter fun a =>
          a.serverEndpoint.nodeId = serverNodeId).map Action.name :=
        List.mem_map_of_mem
          (List.mem_filter.mpr ⟨ha, decide_eq_true hserverNode⟩)
      rw [← hserverNames hserverResult] at hmem
      exact hmem

/-- The client and the server node of the sample configuration start and run its
Action. -/
theorem sampleManifest_runs :
    ∃ resolved files document container,
      resolve (sampleManifest "fibonacci-client" "fibonacci-server") =
        .ok resolved ∧
      generate (sampleManifest "fibonacci-client" "fibonacci-server") =
        .ok files ∧
      contents "resolved-action.json" files = some document ∧
      contents "endpoints.json" files = some container ∧
      let d : Action.Deployment :=
        { clientNodeId := "fibonacci-client"
          clientImplType := "ActionClientEndpointImpl"
          clientEndpointExists := fun _ => true
          serverNodeId := "fibonacci-server"
          serverImplType := "ActionServerEndpointImpl"
          serverEndpointExists := fun _ => true
          root := document.tree }
      RunsManifest sampleRegistry resolved document d ∧
        clientStarts sampleRegistry document d = true ∧
        serverStarts sampleRegistry document d = true := by
  obtain ⟨resolved, h, hheaps, hreadable⟩ : ∃ resolved,
      resolve (sampleManifest "fibonacci-client" "fibonacci-server") =
        .ok resolved ∧
      resolved.actions.map (·.definition.bufferHeap) =
        [⟨1048576, 1048576, 1048576⟩] ∧
      resolved.toValue.readable = true := ⟨_, rfl, rfl, by decide +kernel⟩
  obtain ⟨files, document, container, hfiles, hdocument, hcontainer, hruns⟩ :=
    generated_actions_run (layoutRegistry_lawful fun _ => some 24) h
  refine ⟨resolved, files, document, container, h, hfiles, hdocument,
    hcontainer, ?_⟩
  intro d
  have hrun : RunsManifest sampleRegistry resolved document d :=
    hruns d
      { root := fun root hroot => (toJson_eq_some_iff.mp hroot).2
        clientImplType := rfl
        serverImplType := rfl
        clientEndpoint := fun _ _ => rfl
        serverEndpoint := fun _ _ => rfl }
  have hnumbers := (readable_resolved (resolve_ok h)).mp hreadable
  have hfit : ∀ a ∈ resolved.actions,
      PacketsFit sampleRegistry a.definition := by
    intro a ha c hc
    have hheap := List.mem_map_of_mem (f := (·.definition.bufferHeap)) ha
    rw [hheaps, List.mem_singleton] at hheap
    rw [hheap]
    have hsize : ∀ kind, channelHeaderSize sampleRegistry kind ≤
        (24 : UInt32).toUInt64 ∧ sampleRegistry.supportedPacketCapacity 24
          ((⟨1048576, 1048576, 1048576⟩ : ActionBufferHeap).size kind) =
            true := by
      intro kind
      cases kind <;> decide
    exact ⟨24, rfl, hsize c.kind⟩
  exact ⟨hrun, hrun.clientStarts_iff.mpr ⟨hnumbers, fun a ha _ => hfit a ha⟩,
    hrun.serverStarts_iff.mpr ⟨hnumbers, fun a ha _ => hfit a ha⟩⟩

end ActionManifest
end Config

end HakoPduRpc
