import HakoPduRpc.Config.ServiceCheck
import HakoPduRpc.Config.ServiceSetup

/-!
# The generated services, end to end

What the Service generator writes passes the checker, and the server and the
clients that read it register the same PDU definitions.  The sizes of the
manifest reach both of them although they are written and read crosswise.
-/

namespace HakoPduRpc
namespace Config
namespace ServiceManifest

open ServiceSetup ServiceCheck
open HakoPduRpc.Action (Json)

/-- The channel ids of a Service have 32 bits, and the sizes of its packets fit
in `size_t`. -/
structure Fits (s : Service) : Prop where
  channels : ∀ c ∈ s.clients, ∀ id ∈ c.channelIds, id < 4294967296
  request : pduMetadataSize + s.serverSize.baseSize + s.clientSize.heapSize <
    18446744073709551616
  response : pduMetadataSize + s.clientSize.baseSize + s.serverSize.heapSize <
    18446744073709551616

/-- A Service whose numbers fit can be read. -/
theorem Fits.readable {s : Service} {size : Sizes} (h : Fits s)
    (hformed : WellFormed s size) : s.Readable := by
  obtain ⟨namePrefix, endpoint, hclients, -⟩ := hformed.clients_eq
  have hmax : s.maxClients ≤ 4294967296 := by
    by_contra hlt
    -- the request channel of the last client
    obtain ⟨c, hc, hid⟩ :
        ∃ c ∈ s.clients, (s.maxClients - 1) * 2 ∈ c.channelIds := by
      rw [hclients]
      refine ⟨_, List.mem_map.mpr ⟨s.maxClients - 1, ?_, rfl⟩,
        List.mem_cons_self⟩
      exact List.mem_range.mpr (by omega)
    have hbound := h.channels c hc _ hid
    omega
  have hrequest := h.request
  have hresponse := h.response
  exact
    { maxClients := lt_doubleOverflow (by omega)
      serverHeap := lt_doubleOverflow (by omega)
      serverBase := lt_doubleOverflow (by omega)
      clientHeap := lt_doubleOverflow (by omega)
      clientBase := lt_doubleOverflow (by omega)
      channels := fun c hc id hid =>
        lt_doubleOverflow (by have := h.channels c hc id hid; omega) }

/-! ## Numbers -/

theorem toNat_pduSize (casts : Casts) {m n : ℕ}
    (h : pduMetadataSize + m + n < 18446744073709551616) :
    (sizeValue casts m + sizeValue casts n + 24).toNat =
      pduMetadataSize + m + n := by
  have hmeta : pduMetadataSize = 24 := rfl
  have hvalue : ∀ k, k < 18446744073709551616 →
      (sizeValue casts k).toNat = k := by
    intro k hk
    rw [sizeValue, if_pos (by omega), UInt64.toNat_ofNat_of_lt']
    exact hk
  rw [UInt64.toNat_add, UInt64.toNat_add, hvalue m (by omega),
    hvalue n (by omega), hmeta]
  change ((m + n) % 18446744073709551616 + 24) % 18446744073709551616 = 24 + m + n
  omega

theorem toNat_channelValue (casts : Casts) {n : ℕ} (h : n < 4294967296) :
    (channelValue casts n).toNat = n := by
  rw [channelValue, if_pos (by omega), UInt64.toNat_toUInt32,
    UInt64.toNat_ofNat_of_lt' (by simp only [UInt64.size]; omega)]
  exact Nat.mod_eq_of_lt h

/-! ## One Service -/

/-- The server, from its entry, and every client, from its own, register the
same definitions; the channels are distinct and the sizes are those of the
manifest. -/
structure Consistent (casts : Casts) (size : Sizes) (s : Service)
    (serverEntry clientEntry : Json) (metaDataSize : UInt64) : Prop where
  same : ∀ clientNodeId, clientNodeId = none ∨ clientNodeId = some s.clientNode →
    ∃ setup,
      initializeServer casts true serverEntry metaDataSize clientNodeId =
        .ok setup ∧
      List.Forall₂ (fun c definitions =>
        initializeClient casts true s.name c.name clientEntry metaDataSize =
          .ok definitions ∧
        definitions.clientName = c.name ∧
        definitions.request.pduSize.toNat =
          pduMetadataSize + size.requestBase + size.requestHeap ∧
        definitions.response.pduSize.toNat =
          pduMetadataSize + size.responseBase + size.responseHeap)
        s.clients setup.clients ∧
      (setup.definitions.map PduDef.channelId).Nodup

/-- Every client of a Service is at the client node. -/
theorem isForeign_eq_false {s : Service} {size : Sizes} (h : WellFormed s size)
    {clientNodeId : Option String}
    (hnode : clientNodeId = none ∨ clientNodeId = some s.clientNode) {c : Client}
    (hc : c ∈ s.clients) : isForeign clientNodeId c = false := by
  obtain ⟨namePrefix, endpoint, hclients, -⟩ := h.clients_eq
  have hclient : c.clientEndpoint.nodeId = s.clientNode := by
    rw [clientNode_eq h.maxClients_pos hclients]
    rw [hclients] at hc
    obtain ⟨i, -, rfl⟩ := List.mem_map.mp hc
    rfl
  rcases hnode with rfl | rfl
  · rfl
  · simp [isForeign, hclient]

theorem nodup_definitions (casts : Casts) {s : Service} {size : Sizes}
    (h : WellFormed s size) (hfits : Fits s) (metaDataSize : UInt64) :
    ((s.clients.flatMap fun c =>
      [(generatedSetup casts s metaDataSize c).request,
       (generatedSetup casts s metaDataSize c).response]).map
        PduDef.channelId).Nodup := by
  obtain ⟨namePrefix, endpoint, hclients, -⟩ := h.clients_eq
  have hchannels : (s.clients.flatMap fun c =>
      [(generatedSetup casts s metaDataSize c).request,
       (generatedSetup casts s metaDataSize c).response]).map PduDef.channelId =
      (s.clients.flatMap Client.channelIds).map (channelValue casts) := by
    rw [List.map_flatMap, List.map_flatMap]
    rfl
  have hids : (s.clients.flatMap Client.channelIds).Nodup := by
    rw [hclients]
    exact nodup_channelIds namePrefix s.maxClients endpoint
  rw [hchannels]
  refine hids.map_on ?_
  intro m hm n hn heq
  obtain ⟨c, hc, hm⟩ := List.mem_flatMap.mp hm
  obtain ⟨d, hd, hn⟩ := List.mem_flatMap.mp hn
  have hnat := congrArg UInt32.toNat heq
  rwa [toNat_channelValue casts (hfits.channels c hc m hm),
    toNat_channelValue casts (hfits.channels d hd n hn)] at hnat

theorem consistent_entry (casts : Casts) {s : Service} {size : Sizes}
    (h : WellFormed s size) (hfits : Fits s)
    (serverReferences clientReferences : List Value) :
    Consistent casts size s (s.entry serverReferences).tree
      (s.entry clientReferences).tree 24 := by
  obtain ⟨namePrefix, endpoint, hclients, -⟩ := h.clients_eq
  have hnames : (s.clients.map Client.name).Nodup := by
    rw [hclients]
    exact nodup_clientNames namePrefix s.maxClients endpoint
  constructor
  intro clientNodeId hnode
  have hall : (s.clients.filter fun c => !isForeign clientNodeId c) =
      s.clients := by
    rw [List.filter_eq_self]
    intro c hc
    rw [isForeign_eq_false h hnode hc]
    rfl
  refine ⟨_, initializeServer_entry casts s serverReferences 24 clientNodeId,
    ?_, ?_⟩
  · dsimp only
    rw [hall, List.forall₂_map_right_iff, List.forall₂_same]
    intro c hc
    refine ⟨initializeClient_entry casts s clientReferences 24 hc hnames, rfl,
      ?_, ?_⟩
    · have hrequest := toNat_pduSize casts hfits.request
      rw [h.serverSize_eq, h.clientSize_eq] at hrequest
      rw [generatedSetup, h.serverSize_eq, h.clientSize_eq]
      exact hrequest
    · have hresponse := toNat_pduSize casts hfits.response
      rw [h.serverSize_eq, h.clientSize_eq] at hresponse
      rw [generatedSetup, h.serverSize_eq, h.clientSize_eq]
      exact hresponse
  · have hnodup := nodup_definitions casts h hfits 24
    rw [ServerSetup.definitions, hall, List.flatMap_map]
    exact hnodup

/-! ## The files -/

/-- The services of a file, as they are read. -/
def entriesOf (root : Json) : List Json :=
  elements ((root.find "services").getD .null)

theorem entriesOf_servicesFile (entries : List Value) :
    entriesOf (servicesFile entries).tree = entries.map Value.tree := by
  rw [entriesOf, servicesFile, find_tree]
  change elements (Value.list entries).tree = _
  rw [Value.tree, elements, treeList_eq_map]

theorem metaDataSize_servicesFile (casts : Casts) (entries : List Value) :
    metaDataSize casts (servicesFile entries).tree = .ok 24 := by
  rw [servicesFile, Value.tree, metaDataSize, ← Value.tree, find_tree]
  change (asChannelId casts (Value.int (24 : ℕ)).tree >>= _) = _
  rw [asChannelId_tree]
  rfl

theorem nodup_commonFiles (resolved : Resolved) :
    ((commonFiles resolved).map Prod.fst).Nodup := by
  change ["resolved-service.json", "rpc-server-services.json",
    "rpc-client-services.json", "queue.json", "pdudef.json"].Nodup
  decide

/-- The generated files of services and of endpoints. -/
theorem contents_generate {manifest : Fields} {resolved : Resolved}
    (h : resolve manifest = .ok resolved) :
    ∃ files, generate manifest = .ok files ∧
      contents "rpc-server-services.json" files =
        some (serverServices resolved.services) ∧
      contents "rpc-client-services.json" files =
        some (clientServices resolved.services) ∧
      contents "endpoints.json" files =
        some (containerFile
          (nodeFiles resolved.transport.packetVersion
            (expectedByServer resolved.services))
          resolved.transport.endpoints) := by
  have hcommon := common_commonFiles resolved
  have hnodup := nodup_commonFiles resolved
  refine ⟨_, (generate_eq h).2, ?_, ?_, NodeFiles.contents_container hcommon⟩
  · have hfile : ("rpc-server-services.json",
        serverServices resolved.services) ∈ commonFiles resolved :=
      List.mem_cons_of_mem _ List.mem_cons_self
    exact NodeFiles.contents_common hcommon hnodup hfile
  · have hfile : ("rpc-client-services.json",
        clientServices resolved.services) ∈ commonFiles resolved :=
      List.mem_cons_of_mem _ (List.mem_cons_of_mem _ List.mem_cons_self)
    exact NodeFiles.contents_common hcommon hnodup hfile

/-- The entry of the manifest, of the server file and of the client file at one
place go together. -/
structure ConsistentAt (casts : Casts) (entries : List Value)
    (services : List Service) (server client : Json) (i : ℕ) (s : Service) :
    Prop where
  service : services[i]? = some s
  entry : ∃ fields index size serverEntry clientEntry,
    entries[i]? = some (.dict fields) ∧ sizes fields index = .ok size ∧
      (entriesOf server)[i]? = some serverEntry ∧
      (entriesOf client)[i]? = some clientEntry ∧
      Consistent casts size s serverEntry clientEntry 24

theorem getElem?_of_forall₂ {α β : Type} {R : α → β → Prop} {l : List α}
    {l' : List β} (h : List.Forall₂ R l l') {i : ℕ} {b : β}
    (hb : l'[i]? = some b) : ∃ a, l[i]? = some a ∧ R a b := by
  induction h generalizing i with
  | nil => simp at hb
  | @cons a _ _ _ hfirst _ ih =>
      cases i with
      | zero =>
          obtain rfl := Option.some.inj hb
          exact ⟨a, rfl, hfirst⟩
      | succ i => exact ih hb

/-- What the generator makes of an accepted manifest whose channel ids and sizes
fit is accepted by the checker, and the server and the clients that read it agree
on the PDU definitions of every Service. -/
theorem generated_services_agree {manifest : Fields} {resolved : Resolved}
    (h : resolve manifest = .ok resolved)
    (hfits : ∀ s ∈ resolved.services, Fits s) (casts : Casts) (path : String) :
    ∃ files server client endpoints entries serverRoot clientRoot,
      generate manifest = .ok files ∧
      contents "rpc-server-services.json" files = some (.dict server) ∧
      contents "rpc-client-services.json" files = some client ∧
      contents "endpoints.json" files = some endpoints ∧
      manifest.get "services" = .list entries ∧
      checkRpcSemantics path server endpoints = [] ∧
      (Value.dict server).toJson = some serverRoot ∧
      client.toJson = some clientRoot ∧
      metaDataSize casts serverRoot = .ok 24 ∧
      metaDataSize casts clientRoot = .ok 24 ∧
      ∀ i s, resolved.services[i]? = some s →
        ConsistentAt casts entries resolved.services serverRoot clientRoot
          i s := by
  have hfrom := resolve_ok h
  have hreadable : ∀ s ∈ resolved.services, s.Readable := by
    intro s hs
    obtain ⟨size, hformed⟩ := hfrom.wellFormed hs
    exact (hfits s hs).readable hformed
  obtain ⟨files, hfiles, hserver, hclient, hendpoints⟩ := contents_generate h
  obtain ⟨entries, hentries, hforall⟩ := hfrom.services
  refine ⟨files, _, _, _, entries, _, _, hfiles, hserver, hclient, hendpoints,
    hentries, checkRpcSemantics_eq_nil hfrom path _ _,
    toJson_eq_some_iff.mpr ⟨(readable_serverServices _).mpr hreadable, rfl⟩,
    toJson_eq_some_iff.mpr ⟨(readable_clientServices _).mpr hreadable, rfl⟩,
    metaDataSize_servicesFile casts _, metaDataSize_servicesFile casts _, ?_⟩
  intro i s hs
  obtain ⟨entry, hentry, fields, index, size, rfl, hsize, hformed⟩ :=
    getElem?_of_forall₂ hforall hs
  refine ⟨hs, fields, index, size, _, _, hentry, hsize, ?_, ?_,
    consistent_entry casts hformed (hfits s (List.mem_of_getElem? hs))
      [s.serverEndpoint.toValue] []⟩
  · change (entriesOf (servicesFile _).tree)[i]? = _
    rw [entriesOf_servicesFile, List.map_map, List.getElem?_map, hs]
    rfl
  · change (entriesOf (servicesFile _).tree)[i]? = _
    rw [entriesOf_servicesFile, List.map_map, List.getElem?_map, hs]
    rfl

/-- The casts of a file without floating-point numbers. -/
def noFloats : Casts := ⟨fun _ => 0, fun _ => 0⟩

/-- The manifest of the generator's test. -/
theorem sampleManifest_agrees :
    ∃ resolved,
      resolve (sampleManifest [("Service/Add", "server-node")]) =
        .ok resolved ∧
      ∃ files server client endpoints entries serverRoot clientRoot,
        generate (sampleManifest [("Service/Add", "server-node")]) =
          .ok files ∧
        contents "rpc-server-services.json" files = some (.dict server) ∧
        contents "rpc-client-services.json" files = some client ∧
        contents "endpoints.json" files = some endpoints ∧
        Fields.get "services" (sampleManifest [("Service/Add", "server-node")]) =
          .list entries ∧
        checkRpcSemantics "services.json" server endpoints = [] ∧
        (Value.dict server).toJson = some serverRoot ∧
        client.toJson = some clientRoot ∧
        metaDataSize noFloats serverRoot = .ok 24 ∧
        metaDataSize noFloats clientRoot = .ok 24 ∧
        ∀ i s, resolved.services[i]? = some s →
          ConsistentAt noFloats entries resolved.services serverRoot clientRoot
            i s := by
  obtain ⟨resolved, h, s, hservices, hclients, hserver, hclient⟩ :
      ∃ resolved,
        resolve (sampleManifest [("Service/Add", "server-node")]) =
          .ok resolved ∧
        ∃ s, resolved.services = [s] ∧
          s.clients.flatMap Client.channelIds = [0, 1, 2, 3] ∧
          s.serverSize = ⟨128, 296⟩ ∧ s.clientSize = ⟨64, 288⟩ :=
    ⟨_, rfl, _, rfl, rfl, rfl, rfl⟩
  refine ⟨resolved, h, generated_services_agree h ?_ noFloats "services.json"⟩
  intro t ht
  rw [hservices, List.mem_singleton] at ht
  subst ht
  refine ⟨?_, ?_, ?_⟩
  · intro c hc id hid
    have hmem : id ∈ t.clients.flatMap Client.channelIds :=
      List.mem_flatMap.mpr ⟨c, hc, hid⟩
    rw [hclients] at hmem
    simp only [List.mem_cons, List.not_mem_nil, or_false] at hmem
    omega
  · rw [hserver, hclient]
    decide
  · rw [hserver, hclient]
    decide

end ServiceManifest
end Config
end HakoPduRpc
