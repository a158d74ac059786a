import HakoPduRpc.Config.ActionLimits

/-!
# What the Action generator and the C++ loader make of a manifest

The generator resolves a manifest in Python and writes a document; the loader
`ActionConfigurationLoader::parse` reads it in C++ and computes the channels
again.  Every resolved document whose numbers can be read is accepted by the
loader and means the same to it.  The two also refuse the same slot counts, heap
sizes and type names.
-/

namespace HakoPduRpc
namespace Config
namespace ActionManifest

open HakoPduRpc.Action (Json parseAction parseActions parse readRequiredText
  readEndpoint readBufferHeapSize readBufferHeap slotChannels maxSlotCount
  ActionDefinition ActionChannelDefinition ActionChannelKind except_bind_eq_ok)

/-! ## Resolved Actions -/

/-- What holds of a resolved Action. -/
structure WellFormed (a : Action) : Prop where
  name_ne : a.name ≠ ""
  isPackageType : isPackageType a.type = true
  slotCount_pos : 0 < a.slotCount
  slotCount_le : a.slotCount ≤ 1431655765
  requestSize_le : a.bufferHeap.requestSize ≤ maxBufferHeapSize
  responseSize_le : a.bufferHeap.responseSize ≤ maxBufferHeapSize
  feedbackSize_le : a.bufferHeap.feedbackSize ≤ maxBufferHeapSize
  clientNode_ne : a.clientEndpoint.nodeId ≠ ""
  serverNode_ne : a.serverEndpoint.nodeId ≠ ""
  clientId_ne : a.clientEndpoint.endpointId ≠ ""
  serverId_ne : a.serverEndpoint.endpointId ≠ ""
  channels_eq : a.channels = channels a.type a.slotCount

theorem bufferHeapSize_ok {path key : String} {configured : Fields} {n : ℕ}
    (h : bufferHeapSize path key configured = .ok n) :
    n ≤ maxBufferHeapSize := by
  obtain ⟨i, -, haccepts, rfl⟩ := integer_ok h
  simp only [decide_eq_true_eq] at haccepts
  omega

theorem endpointId_ok {node id : String} (h : endpointId node = .ok id) :
    id ≠ "" := by
  obtain ⟨-, rfl⟩ := (nodeFiles "").endpointId_ok h
  intro hempty
  have hlength := congrArg String.length hempty
  simp [NodeFiles.idOf, nodeFiles] at hlength

theorem bufferHeap_ok {action : Fields} {index : ℕ} {heap : BufferHeap}
    (h : bufferHeap action index = .ok heap) :
    heap.requestSize ≤ maxBufferHeapSize ∧
      heap.responseSize ≤ maxBufferHeapSize ∧
      heap.feedbackSize ≤ maxBufferHeapSize := by
  unfold bufferHeap at h
  obtain ⟨configured, -, h⟩ := except_bind_eq_ok h
  obtain ⟨-, -, h⟩ := except_bind_eq_ok h
  obtain ⟨requestSize, hrequest, h⟩ := except_bind_eq_ok h
  obtain ⟨responseSize, hresponse, h⟩ := except_bind_eq_ok h
  obtain ⟨feedbackSize, hfeedback, h⟩ := except_bind_eq_ok h
  obtain rfl := Except.ok.inj h
  exact ⟨bufferHeapSize_ok hrequest, bufferHeapSize_ok hresponse,
    bufferHeapSize_ok hfeedback⟩

theorem Validated.wellFormed {fields : Fields} {index : ℕ} {a : Action}
    (h : Validated fields index a) : WellFormed a := by
  obtain ⟨-, hslots_pos, hslots_le⟩ := slotCount_eq_ok_iff.mp h.slotCount
  obtain ⟨hrequest, hresponse, hfeedback⟩ := bufferHeap_ok h.bufferHeap
  exact
    { name_ne := (text_ok h.name).2
      isPackageType := h.isPackageType
      slotCount_pos := hslots_pos
      slotCount_le := hslots_le
      requestSize_le := hrequest
      responseSize_le := hresponse
      feedbackSize_le := hfeedback
      clientNode_ne := referencedNode_ok h.clientNode
      serverNode_ne := referencedNode_ok h.serverNode
      clientId_ne := endpointId_ok h.clientId
      serverId_ne := endpointId_ok h.serverId
      channels_eq := h.channels_eq }

/-- Every resolved Action is well formed. -/
theorem ResolvedFrom.wellFormed {manifest : Fields} {resolved : Resolved}
    (h : ResolvedFrom manifest resolved) :
    ∀ a ∈ resolved.actions, WellFormed a := by
  intro a ha
  obtain ⟨fields, index, hvalid⟩ := h.validated ha
  exact hvalid.wellFormed

/-! ## The loader on a resolved document -/

/-- What the loader makes of a resolved Action. -/
def Action.definition (a : Action) : ActionDefinition where
  name := a.name
  type := a.type
  slotCount := a.slotCount
  bufferHeap :=
    { requestSize := UInt64.ofNat a.bufferHeap.requestSize
      responseSize := UInt64.ofNat a.bufferHeap.responseSize
      feedbackSize := UInt64.ofNat a.bufferHeap.feedbackSize }
  clientEndpoint := ⟨a.clientEndpoint.nodeId, a.clientEndpoint.endpointId⟩
  serverEndpoint := ⟨a.serverEndpoint.nodeId, a.serverEndpoint.endpointId⟩
  channels := (List.range a.slotCount).flatMap (slotChannels a.type)

theorem readEndpoint_tree {fields : Fields} {key : String} {e : Endpoint}
    (hfind : fields.find key = some e.toValue) (hnode : e.nodeId ≠ "")
    (hid : e.endpointId ≠ "") :
    readEndpoint (Value.dict fields).tree key =
      .ok ⟨e.nodeId, e.endpointId⟩ := by
  have hobject : e.toValue.tree =
      .object [("nodeId", .string e.nodeId),
        ("endpointId", .string e.endpointId)] := rfl
  rw [readEndpoint, find_tree, hfind, Option.map_some, hobject]
  simp [readRequiredText, Json.find, hnode, hid, bind, Except.bind]

theorem readBufferHeapSize_tree {fields : Fields} {key : String} {n : ℕ}
    (hfind : fields.find key = some (.int n)) (hn : n ≤ maxBufferHeapSize) :
    readBufferHeapSize (Value.dict fields).tree key = .ok (UInt64.ofNat n) := by
  have hbound : n ≤ 2147483647 := hn
  have hle : ¬UInt64.ofNat n > 2147483647 := by
    rw [gt_iff_lt, UInt64.lt_iff_toNat_lt, UInt64.toNat_ofNat_of_lt' (by
      simp only [UInt64.size]; omega)]
    simpa using hbound
  rw [readBufferHeapSize, find_tree, hfind, Option.map_some,
    tree_int (by omega)]
  exact if_neg hle

theorem readBufferHeap_tree {fields : Fields} {heap : BufferHeap}
    (hfind : fields.find "bufferHeap" = some heap.toValue)
    (hrequest : heap.requestSize ≤ maxBufferHeapSize)
    (hresponse : heap.responseSize ≤ maxBufferHeapSize)
    (hfeedback : heap.feedbackSize ≤ maxBufferHeapSize) :
    readBufferHeap (Value.dict fields).tree =
      .ok
        { requestSize := UInt64.ofNat heap.requestSize
          responseSize := UInt64.ofNat heap.responseSize
          feedbackSize := UInt64.ofNat heap.feedbackSize } := by
  rw [readBufferHeap, find_tree, hfind, Option.map_some, BufferHeap.toValue,
    Value.tree]
  dsimp only
  rw [← Value.tree, readBufferHeapSize_tree rfl hrequest,
    readBufferHeapSize_tree rfl hresponse,
    readBufferHeapSize_tree rfl hfeedback]
  rfl

/-- The loader reads a resolved Action back. -/
theorem parseAction_tree {a : Action} (h : WellFormed a) :
    parseAction a.toValue.tree = .ok a.definition := by
  have hcount : a.slotCount < UInt64.size :=
    lt_of_le_of_lt h.slotCount_le (by decide)
  have hnat : (UInt64.ofNat a.slotCount).toNat = a.slotCount :=
    UInt64.toNat_ofNat_of_lt' hcount
  have hzero : ¬UInt64.ofNat a.slotCount = 0 := by
    intro hzero
    have hnatZero := congrArg UInt64.toNat hzero
    rw [hnat] at hnatZero
    exact absurd hnatZero (Nat.ne_of_gt h.slotCount_pos)
  have hmax : ¬UInt64.ofNat a.slotCount > maxSlotCount := by
    rw [gt_iff_lt, UInt64.lt_iff_toNat_lt, hnat]
    exact not_lt.mpr h.slotCount_le
  have hpackage : ¬¬HakoPduRpc.Action.isPackageType a.type = true := by
    rw [← isPackageType_eq]
    exact not_not_intro h.isPackageType
  have hobject : ¬¬a.toValue.tree.isObject = true := not_not_intro rfl
  rw [parseAction, if_neg hobject, Action.toValue,
    readRequiredText_eq_ok_iff.mpr ⟨rfl, h.name_ne⟩,
    readRequiredText_eq_ok_iff.mpr ⟨rfl, isPackageType_ne h.isPackageType⟩,
    find_tree]
  simp only [bind, Except.bind]
  rw [if_neg hpackage]
  have hslots : Fields.find "slotCount"
      [("name", Value.str a.name), ("type", .str a.type),
       ("slotCount", .int a.slotCount),
       ("bufferHeap", a.bufferHeap.toValue),
       ("clientEndpoint", a.clientEndpoint.toValue),
       ("serverEndpoint", a.serverEndpoint.toValue),
       ("channels", .list (a.channels.map Channel.toValue))] =
      some (.int a.slotCount) := rfl
  rw [hslots, Option.map_some, tree_int (Nat.le_of_lt_succ hcount)]
  dsimp only
  rw [if_neg hzero, if_neg hmax,
    readEndpoint_tree rfl h.clientNode_ne h.clientId_ne,
    readEndpoint_tree rfl h.serverNode_ne h.serverId_ne,
    readBufferHeap_tree rfl h.requestSize_le h.responseSize_le
      h.feedbackSize_le, hnat]
  rfl

/-- The loader reads the Actions of a document back when their names differ. -/
theorem parseActions_tree {actions : List Action} {names : List String}
    (hformed : ∀ a ∈ actions, WellFormed a)
    (hnodup : (actions.map Action.name).Nodup)
    (hnew : ∀ a ∈ actions, a.name ∉ names) :
    parseActions names (actions.map fun a => a.toValue.tree) =
      .ok (actions.map Action.definition) := by
  induction actions generalizing names with
  | nil => rfl
  | cons a rest ih =>
      rw [List.map_cons, List.nodup_cons] at hnodup
      have hrest : parseActions (a.name :: names)
          (rest.map fun a => a.toValue.tree) =
            .ok (rest.map Action.definition) := by
        refine ih (fun b hb => hformed b (List.mem_cons_of_mem _ hb)) hnodup.2 ?_
        intro b hb hmem
        rcases List.mem_cons.mp hmem with hname | hold
        · exact hnodup.1 (hname ▸ List.mem_map_of_mem hb)
        · exact hnew b (List.mem_cons_of_mem _ hb) hold
      have hname : a.definition.name ∉ names := hnew a List.mem_cons_self
      rw [List.map_cons, parseActions,
        parseAction_tree (hformed a List.mem_cons_self)]
      dsimp only
      rw [if_neg hname, show a.definition.name = a.name from rfl, hrest]
      rfl

/-- `parse` reads the resolved document back. -/
theorem parse_tree {resolved : Resolved} (hne : resolved.actions ≠ [])
    (hformed : ∀ a ∈ resolved.actions, WellFormed a)
    (hnodup : (resolved.actions.map Action.name).Nodup) :
    parse resolved.toValue.tree =
      .ok (resolved.actions.map Action.definition) := by
  have hobject : ¬¬resolved.toValue.tree.isObject = true := not_not_intro rfl
  have hactions : resolved.toValue.tree.find "actions" =
      some (.array (resolved.actions.map fun a => a.toValue.tree)) := by
    rw [Resolved.toValue, find_tree]
    change some (Value.list (resolved.actions.map Action.toValue)).tree = _
    rw [Value.tree, treeList_eq_map, List.map_map]
    rfl
  rw [parse, if_neg hobject, hactions]
  dsimp only
  rw [if_neg (by simpa using hne)]
  exact parseActions_tree hformed hnodup fun a ha => by simp

/-! ## Numbers -/

/-- A resolved Action has only small numbers. -/
theorem readable_action {a : Action} (h : WellFormed a) :
    a.toValue.readable = true := by
  have hsmall : ∀ {n : ℕ}, n ≤ 4294967295 → n < doubleOverflow :=
    fun hn => lt_doubleOverflow (hn.trans (by decide))
  have hslots : a.slotCount < doubleOverflow :=
    hsmall (h.slotCount_le.trans (by decide))
  have hsize : ∀ {n : ℕ}, n ≤ maxBufferHeapSize → n < doubleOverflow :=
    fun hn => hsmall (hn.trans (by decide))
  have hchannels : ∀ c ∈ a.channels, c.slotIndex < doubleOverflow ∧
      c.channelId < doubleOverflow := by
    rw [h.channels_eq]
    intro c hc
    obtain ⟨slot, hslot, hc⟩ := List.mem_flatMap.mp hc
    obtain ⟨offset, hoffset, rfl⟩ := List.mem_mapIdx.mp hc
    have hlt := List.mem_range.mp hslot
    have hle := h.slotCount_le
    have hthree : offset < 3 := hoffset
    exact ⟨hsmall (by change slot ≤ _; omega),
      hsmall (by change slot * 3 + offset ≤ _; omega)⟩
  simpa [Action.toValue, BufferHeap.toValue, Endpoint.toValue,
    Channel.toValue, hslots, hsize h.requestSize_le, hsize h.responseSize_le,
    hsize h.feedbackSize_le] using hchannels

/-- The resolved document can be read when its transport section can. -/
theorem readable_resolved {manifest : Fields} {resolved : Resolved}
    (h : ResolvedFrom manifest resolved) :
    resolved.toValue.readable = true ↔ resolved.transport.Readable := by
  have hactions : ∀ a ∈ resolved.actions, a.toValue.readable = true :=
    fun a ha => readable_action (h.wellFormed a ha)
  have hversion : (Value.int 1).readable = true := by decide +kernel
  rw [← readable_transport h.deployments, Resolved.toValue, readable_dict,
    List.forall_mem_cons, List.forall_mem_cons, List.forall_mem_singleton,
    readable_list, List.forall_mem_map]
  exact ⟨fun hall => hall.2.2, fun htransport =>
    ⟨hversion, hactions, htransport⟩⟩

/-! ## Channels -/

/-- The `kind` of a channel in the document. -/
def kindName : ActionChannelKind → String
  | .request => "request"
  | .response => "response"
  | .feedback => "feedback"

/-- A channel of the document and a channel of the loader are the same. -/
structure SameChannel (c : Channel) (d : ActionChannelDefinition) : Prop where
  slotIndex : d.slotIndex = c.slotIndex
  kind : kindName d.kind = c.kind
  channelId : d.channelId.toNat = c.channelId
  channelName : d.channelName = c.channelName
  packetType : d.packetType = c.packetType

/-- The channels of a slot whose ids do not overflow. -/
theorem slotChannels_same (type : String) {slot : ℕ}
    (hslot : slot * 3 + 2 < 4294967296) :
    List.Forall₂ SameChannel
      (suffixes.mapIdx fun offset suffix =>
        { slotIndex := slot
          kind := suffix.2
          channelId := slot * 3 + offset
          channelName := "Slot" ++ toString slot ++ suffix.1
          packetType := type ++ "Action" ++ suffix.1 })
      (slotChannels type slot) := by
  have hbase : (UInt32.ofNat (slot * 3)).toNat = slot * 3 :=
    UInt32.toNat_ofNat_of_lt' (by simp only [UInt32.size]; omega)
  have hadd : ∀ offset : UInt32, offset.toNat ≤ 2 →
      (UInt32.ofNat (slot * 3) + offset).toNat = slot * 3 + offset.toNat := by
    intro offset hoffset
    rw [UInt32.toNat_add, hbase, Nat.mod_eq_of_lt (by omega)]
  refine .cons ⟨rfl, rfl, hbase, rfl, rfl⟩ (.cons ?_ (.cons ?_ .nil))
  · exact ⟨rfl, rfl, hadd 1 (by decide), rfl, rfl⟩
  · exact ⟨rfl, rfl, hadd 2 (by decide), rfl, rfl⟩

/-- The generator and the loader number the channels alike. -/
theorem channels_same (type : String) {slots : ℕ} (hslots : slots ≤ 1431655765) :
    List.Forall₂ SameChannel (channels type slots)
      ((List.range slots).flatMap (slotChannels type)) := by
  have hrange : List.Forall₂ (fun a b => a = b ∧ a < slots) (List.range slots)
      (List.range slots) :=
    List.forall₂_same.mpr fun slot hslot => ⟨rfl, List.mem_range.mp hslot⟩
  refine List.rel_flatMap hrange ?_
  rintro slot _ ⟨rfl, hslot⟩
  exact slotChannels_same type (by omega)

/-! ## Actions -/

/-- An Action of the document and an Action of the loader are the same. -/
structure SameAction (a : Action) (d : ActionDefinition) : Prop where
  name : d.name = a.name
  type : d.type = a.type
  slotCount : d.slotCount = a.slotCount
  clientNode : d.clientEndpoint.nodeId = a.clientEndpoint.nodeId
  clientId : d.clientEndpoint.endpointId = a.clientEndpoint.endpointId
  serverNode : d.serverEndpoint.nodeId = a.serverEndpoint.nodeId
  serverId : d.serverEndpoint.endpointId = a.serverEndpoint.endpointId
  requestSize : d.bufferHeap.requestSize.toNat = a.bufferHeap.requestSize
  responseSize : d.bufferHeap.responseSize.toNat = a.bufferHeap.responseSize
  feedbackSize : d.bufferHeap.feedbackSize.toNat = a.bufferHeap.feedbackSize
  channels : List.Forall₂ SameChannel a.channels d.channels

theorem definition_same {a : Action} (h : WellFormed a) :
    SameAction a a.definition := by
  have hsize : ∀ n : ℕ, n ≤ maxBufferHeapSize →
      (UInt64.ofNat n).toNat = n := by
    intro n hn
    have hmax : maxBufferHeapSize < UInt64.size := by decide
    exact UInt64.toNat_ofNat_of_lt' (lt_of_le_of_lt hn hmax)
  exact
    { name := rfl
      type := rfl
      slotCount := rfl
      clientNode := rfl
      clientId := rfl
      serverNode := rfl
      serverId := rfl
      requestSize := hsize _ h.requestSize_le
      responseSize := hsize _ h.responseSize_le
      feedbackSize := hsize _ h.feedbackSize_le
      channels := h.channels_eq ▸ channels_same a.type h.slotCount_le }

/-- The generator and the loader accept the same values in place of the slot
count, the type and the heap sizes of an entry. -/
structure LimitsAgree (fields : Fields) (index : ℕ) : Prop where
  slotCount : ∀ n : Int,
    Accepted (validateAction (.dict (fields.set "slotCount" (.int n))) index) ↔
      Accepted
        (parseAction (Value.dict (fields.set "slotCount" (.int n))).tree)
  type : ∀ type : String,
    Accepted (validateAction (.dict (fields.set "type" (.str type))) index) ↔
      Accepted
        (parseAction (Value.dict (fields.set "type" (.str type))).tree)
  bufferHeap : ∀ key ∈ heapKeys, ∀ n : Int,
    Accepted (validateAction (.dict (setHeap key n fields)) index) ↔
      Accepted (parseAction (Value.dict (setHeap key n fields)).tree)

/-- What the generator resolves, the loader reads as the same Actions with the
same channels, exactly when it can read the numbers of the transport section;
and the two have the same limits, at every entry that the generator accepts. -/
theorem resolved_means_the_same {manifest : Fields} {resolved : Resolved}
    (h : resolve manifest = .ok resolved) :
    ((∃ root definitions, resolved.toValue.toJson = some root ∧
        parse root = .ok definitions ∧
        List.Forall₂ SameAction resolved.actions definitions) ↔
      resolved.transport.Readable) ∧
    ∀ fields index, Accepted (validateAction (.dict fields) index) →
      LimitsAgree fields index := by
  have hfrom := resolve_ok h
  constructor
  · rw [← readable_resolved hfrom]
    constructor
    · rintro ⟨root, -, hroot, -⟩
      exact (toJson_eq_some_iff.mp hroot).1
    · intro hreadable
      refine ⟨_, _, toJson_eq_some_iff.mpr ⟨hreadable, rfl⟩,
        parse_tree hfrom.actions_ne hfrom.wellFormed hfrom.names, ?_⟩
      rw [List.forall₂_map_right_iff, List.forall₂_same]
      exact fun a ha => definition_same (hfrom.wellFormed a ha)
  · intro fields index haccepted
    obtain ⟨hframed, -⟩ := accepted_validateAction_iff.mp haccepted
    exact
      { slotCount := slotCount_agrees hframed
        type := type_agrees hframed
        bufferHeap := fun key hkey n => heap_agrees hframed hkey n }

/-- The sample configuration. -/
theorem sampleManifest_means_the_same :
    ∃ resolved,
      resolve (sampleManifest "fibonacci-client" "fibonacci-server") =
        .ok resolved ∧
      (∃ root definitions, resolved.toValue.toJson = some root ∧
        parse root = .ok definitions ∧
        List.Forall₂ SameAction resolved.actions definitions) ∧
      ∀ fields index, Accepted (validateAction (.dict fields) index) →
        LimitsAgree fields index := by
  obtain ⟨resolved, h, hreadable⟩ : ∃ resolved,
      resolve (sampleManifest "fibonacci-client" "fibonacci-server") =
        .ok resolved ∧ resolved.toValue.readable = true :=
    ⟨_, rfl, by decide +kernel⟩
  obtain ⟨hsame, hlimits⟩ := resolved_means_the_same h
  refine ⟨resolved, h, hsame.mpr ?_, hlimits⟩
  exact (readable_resolved (resolve_ok h)).mp hreadable

/-- A manifest with another queue depth. -/
def withQueueDepth (depth : ℕ) (manifest : Fields) : Fields :=
  match manifest.get "transport" with
  | .dict transport =>
      manifest.set "transport"
        (.dict (Fields.set "queueDepth" (.int depth) transport))
  | _ => manifest

/-- The sample configuration with a queue that is too deep for a `double`: the
manifest is accepted, but the loader cannot read the document. -/
theorem deepQueue_unreadable :
    ∃ resolved,
      resolve (withQueueDepth (10 ^ 400)
        (sampleManifest "fibonacci-client" "fibonacci-server")) =
          .ok resolved ∧
      ¬∃ root definitions, resolved.toValue.toJson = some root ∧
        parse root = .ok definitions ∧
        List.Forall₂ SameAction resolved.actions definitions := by
  have hresolve : (resolve (withQueueDepth (10 ^ 400)
      (sampleManifest "fibonacci-client" "fibonacci-server"))).toOption.map
        (·.toValue.readable) = some false := by decide +kernel
  cases h : resolve (withQueueDepth (10 ^ 400)
      (sampleManifest "fibonacci-client" "fibonacci-server")) with
  | error message =>
      rw [h] at hresolve
      cases hresolve
  | ok resolved =>
      rw [h] at hresolve
      have hunreadable : resolved.toValue.readable = false :=
        Option.some.inj hresolve
      refine ⟨resolved, rfl, ?_⟩
      rintro ⟨root, -, hroot, -⟩
      rw [(toJson_eq_some_iff.mp hroot).1] at hunreadable
      cases hunreadable

end ActionManifest
end Config
end HakoPduRpc
