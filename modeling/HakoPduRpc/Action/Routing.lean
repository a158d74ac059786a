import HakoPduRpc.Action.Configuration
import HakoPduRpc.Lib.KeyedList
import HakoPduRpc.Pdu.Registry

/-!
# Slot routing

The table that `ActionServerEndpointImpl::initialize` and
`ActionClientEndpointImpl::initialize` build from an Action definition: for
every slot the three channel keys with their packet types and sizes.  The two
source functions run the same checks in the same order and differ only in what
they log, so there is one definition here.

`parseRouting_wellFormed` reads off what the checks guarantee: the entry at
position `i` belongs to slot `i`, and a channel key determines the slot and the
kind of the channel.
-/

namespace HakoPduRpc.Action

/-- `SlotRouting` of both endpoint implementations. -/
structure SlotRouting where
  slotIndex : ℕ := 0
  request : PduResolvedKey := ⟨"", 0⟩
  response : PduResolvedKey := ⟨"", 0⟩
  feedback : PduResolvedKey := ⟨"", 0⟩
  requestPacketType : String := ""
  responsePacketType : String := ""
  feedbackPacketType : String := ""
  requestPacketBaseSize : UInt32 := 0
  responsePacketBaseSize : UInt32 := 0
  feedbackPacketBaseSize : UInt32 := 0
  requestHeapCapacity : UInt64 := 0
  responseHeapCapacity : UInt64 := 0
  feedbackHeapCapacity : UInt64 := 0
deriving DecidableEq, Repr

namespace SlotRouting

/-- The channel key of a kind. -/
def key (r : SlotRouting) : ActionChannelKind → PduResolvedKey
  | .request => r.request
  | .response => r.response
  | .feedback => r.feedback

def heapCapacity (r : SlotRouting) : ActionChannelKind → UInt64
  | .request => r.requestHeapCapacity
  | .response => r.responseHeapCapacity
  | .feedback => r.feedbackHeapCapacity

/-- The assignments of one `case` of the channel switch. -/
def setChannel (r : SlotRouting) (kind : ActionChannelKind)
    (key : PduResolvedKey) (packetType : String) (baseSize : UInt32) :
    SlotRouting :=
  match kind with
  | .request =>
      { r with
        request := key
        requestPacketType := packetType
        requestPacketBaseSize := baseSize }
  | .response =>
      { r with
        response := key
        responsePacketType := packetType
        responsePacketBaseSize := baseSize }
  | .feedback =>
      { r with
        feedback := key
        feedbackPacketType := packetType
        feedbackPacketBaseSize := baseSize }

@[simp] theorem setChannel_slotIndex (r : SlotRouting) (k : ActionChannelKind)
    (key : PduResolvedKey) (t : String) (b : UInt32) :
    (r.setChannel k key t b).slotIndex = r.slotIndex := by
  cases k <;> rfl

theorem key_setChannel (r : SlotRouting) (k k' : ActionChannelKind)
    (key : PduResolvedKey) (t : String) (b : UInt32) :
    (r.setChannel k key t b).key k' = if k' = k then key else r.key k' := by
  cases k <;> cases k' <;> rfl

end SlotRouting

/-- The bit of `channel_masks` that stands for a channel kind. -/
def ActionChannelKind.mask : ActionChannelKind → UInt8
  | .request => 0x01
  | .response => 0x02
  | .feedback => 0x04

/-- The header size that a packet type of a kind must have room for. -/
def channelHeaderSize (R : PduRegistry) : ActionChannelKind → UInt64
  | .request => R.requestHeader.size
  | .response => R.responseHeader.size
  | .feedback => R.feedbackHeader.size

/-- The three locals of the channel loop. -/
structure RoutingState where
  routing : List SlotRouting
  channelMasks : List UInt8
  channelIds : List UInt32

/-- One iteration of the channel loop. -/
def routeChannel (R : PduRegistry) (actionName : String) (st : RoutingState)
    (channel : ActionChannelDefinition) : Option RoutingState :=
  match st.routing[channel.slotIndex]? with
  | none => none
  | some slot =>
      if channel.channelId ∈ st.channelIds then none
      else
        match R.pduGetSize channel.packetType with
        | none => none
        | some baseSize =>
            if baseSize.toUInt64 < channelHeaderSize R channel.kind ∨
                ¬R.supportedPacketCapacity baseSize
                  (slot.heapCapacity channel.kind) then none
            else
              some
                { routing := st.routing.modify channel.slotIndex fun slot =>
                    slot.setChannel channel.kind
                      ⟨actionName, channel.channelId⟩ channel.packetType
                      baseSize
                  channelMasks :=
                    st.channelMasks.modify channel.slotIndex
                      (· ||| channel.kind.mask)
                  channelIds := channel.channelId :: st.channelIds }

/-- The table before the channel loop. -/
def initialRouting (definition : ActionDefinition) : RoutingState where
  routing := (List.range definition.slotCount).map fun slot =>
    { slotIndex := slot
      requestHeapCapacity := definition.bufferHeap.requestSize
      responseHeapCapacity := definition.bufferHeap.responseSize
      feedbackHeapCapacity := definition.bufferHeap.feedbackSize }
  channelMasks := List.replicate definition.slotCount 0
  channelIds := []

/-- The routing part of `initialize`. -/
def parseRouting (R : PduRegistry) (actionName : String)
    (definition : ActionDefinition) : Option (List SlotRouting) :=
  match definition.channels.foldlM (routeChannel R actionName)
      (initialRouting definition) with
  | none => none
  | some st =>
      if st.channelMasks.any (· ≠ 0x07) then none else some st.routing

/-! ## What the checks guarantee -/

/-- A routing table whose keys identify slot and channel kind. -/
structure RoutingWellFormed (actionName : String)
    (routing : List SlotRouting) : Prop where
  slotIndex_eq : ∀ {i : ℕ} {r : SlotRouting}, routing[i]? = some r → r.slotIndex = i
  robot_eq : ∀ {i : ℕ} {r : SlotRouting}, routing[i]? = some r → ∀ kind,
    (r.key kind).robot = actionName
  key_injective : ∀ {i j : ℕ} {r r' : SlotRouting}, routing[i]? = some r →
    routing[j]? = some r' → ∀ {kind kind' : ActionChannelKind}, r.key kind = r'.key kind' →
      i = j ∧ kind = kind'

/-- The invariant of the channel loop after the channels `cs`. -/
structure RoutingState.Routed (actionName : String)
    (cs : List ActionChannelDefinition) (st : RoutingState) : Prop where
  slotIndex_eq : ∀ {i : ℕ} {r : SlotRouting}, st.routing[i]? = some r → r.slotIndex = i
  length_masks : st.channelMasks.length = st.routing.length
  key_eq : ∀ {i : ℕ} {r : SlotRouting} {m : UInt8} {kind : ActionChannelKind}, st.routing[i]? = some r →
    st.channelMasks[i]? = some m → m &&& kind.mask ≠ 0 →
      ∃ c ∈ cs, c.slotIndex = i ∧ c.kind = kind ∧
        r.key kind = ⟨actionName, c.channelId⟩
  channelIds_eq : st.channelIds = (cs.map (·.channelId)).reverse
  nodup : (cs.map (·.channelId)).Nodup

theorem mask_or (m : UInt8) (k k' : ActionChannelKind)
    (h : (m ||| k.mask) &&& k'.mask ≠ 0) : k' = k ∨ m &&& k'.mask ≠ 0 := by
  by_cases hk : k' = k
  · exact Or.inl hk
  · right
    have hdisj : k.mask &&& k'.mask = 0 := by
      revert hk
      cases k <;> cases k' <;> decide
    have hdistrib : (m ||| k.mask) &&& k'.mask =
        (m &&& k'.mask) ||| (k.mask &&& k'.mask) :=
      UInt8.toBitVec_inj.mp BitVec.and_or_distrib_right
    rwa [hdistrib, hdisj, UInt8.or_zero] at h

theorem routed_initial (actionName : String) (definition : ActionDefinition) :
    (initialRouting definition).Routed actionName [] where
  slotIndex_eq := by
    intro i r h
    simp only [initialRouting, List.getElem?_map, Option.map_eq_some_iff] at h
    obtain ⟨j, hj, rfl⟩ := h
    rw [List.getElem?_eq_some_iff] at hj
    obtain ⟨_, hj⟩ := hj
    simpa using hj.symm
  length_masks := by simp [initialRouting]
  key_eq := by
    intro i r m kind _ hm hbit
    have : m = 0 := by
      simp only [initialRouting, List.getElem?_replicate] at hm
      split_ifs at hm
      simpa using hm.symm
    simp [this] at hbit
  channelIds_eq := rfl
  nodup := by simp

theorem routed_routeChannel {R : PduRegistry} {actionName : String}
    {cs : List ActionChannelDefinition} {st st' : RoutingState}
    {channel : ActionChannelDefinition} (hst : st.Routed actionName cs)
    (h : routeChannel R actionName st channel = some st') :
    st'.Routed actionName (cs ++ [channel]) := by
  unfold routeChannel at h
  split at h
  · simp at h
  · split_ifs at h with hid
    split at h
    · simp at h
    · next baseSize _ =>
        split_ifs at h
        simp only [Option.some.injEq] at h
        subst h
        refine ⟨?_, ?_, ?_, ?_, ?_⟩
        · intro i r hr
          simp only [List.getElem?_modify, Option.map_eq_map,
            Option.map_eq_some_iff] at hr
          obtain ⟨r₀, hr₀, rfl⟩ := hr
          split_ifs <;> simp [hst.slotIndex_eq hr₀]
        · simp [hst.length_masks]
        · intro i r m kind hr hm hbit
          simp only [List.getElem?_modify, Option.map_eq_map,
            Option.map_eq_some_iff] at hr hm
          obtain ⟨r₀, hr₀, rfl⟩ := hr
          obtain ⟨m₀, hm₀, rfl⟩ := hm
          by_cases hi : channel.slotIndex = i
          · simp only [hi, if_true, SlotRouting.key_setChannel] at hbit ⊢
            by_cases hkind : kind = channel.kind
            · exact ⟨channel, by simp, hi, hkind.symm, by simp [hkind]⟩
            · obtain hk | hold := mask_or m₀ channel.kind kind hbit
              · exact absurd hk hkind
              · obtain ⟨c, hc, hslot, hck, hkey⟩ := hst.key_eq hr₀ hm₀ hold
                exact ⟨c, by simp [hc], hslot, hck, by simp [hkind, hkey]⟩
          · simp only [hi, if_false] at hbit ⊢
            obtain ⟨c, hc, hslot, hck, hkey⟩ := hst.key_eq hr₀ hm₀ hbit
            exact ⟨c, by simp [hc], hslot, hck, hkey⟩
        · simp [hst.channelIds_eq]
        · rw [hst.channelIds_eq, List.mem_reverse] at hid
          rw [List.map_append, List.nodup_append]
          refine ⟨hst.nodup, by simp, ?_⟩
          intro a ha b hb
          simp only [List.map_cons, List.map_nil, List.mem_singleton] at hb
          rintro rfl
          exact hid (hb ▸ ha)

theorem routed_foldlM {R : PduRegistry} {actionName : String}
    {cs ds : List ActionChannelDefinition} {st st' : RoutingState}
    (hst : st.Routed actionName cs)
    (h : ds.foldlM (routeChannel R actionName) st = some st') :
    st'.Routed actionName (cs ++ ds) := by
  induction ds generalizing cs st with
  | nil =>
      simp only [List.foldlM_nil, Option.pure_def, Option.some.injEq] at h
      simpa [← h] using hst
  | cons d ds ih =>
      rw [List.foldlM_cons, Option.bind_eq_bind,
        Option.bind_eq_some_iff] at h
      obtain ⟨next, hnext, h⟩ := h
      simpa using ih (routed_routeChannel hst hnext) h

/-- Every mask of an accepted table is full, so every key was set by one of the
channels. -/
theorem parseRouting_key_eq {R : PduRegistry} {actionName : String}
    {definition : ActionDefinition} {routing : List SlotRouting}
    (h : parseRouting R actionName definition = some routing) {i : ℕ}
    {r : SlotRouting} (hr : routing[i]? = some r) (kind : ActionChannelKind) :
    ∃ c ∈ definition.channels, c.slotIndex = i ∧ c.kind = kind ∧
      r.key kind = ⟨actionName, c.channelId⟩ := by
  unfold parseRouting at h
  split at h
  · simp at h
  · next st hfold =>
      split_ifs at h with hmasks
      simp only [Option.some.injEq] at h
      subst h
      have hst := routed_foldlM (routed_initial actionName definition) hfold
      simp only [List.nil_append] at hst
      have hi : i < st.channelMasks.length := by
        rw [hst.length_masks]
        exact (List.getElem?_eq_some_iff.mp hr).1
      have hm := List.getElem?_eq_getElem hi
      have hfull : st.channelMasks[i] = 0x07 := by
        simp only [List.any_eq_true, not_exists, not_and,
          decide_eq_true_eq, not_not] at hmasks
        exact hmasks _ (List.getElem_mem hi)
      refine hst.key_eq hr hm ?_
      rw [hfull]
      cases kind <;> decide

theorem parseRouting_wellFormed {R : PduRegistry} {actionName : String}
    {definition : ActionDefinition} {routing : List SlotRouting}
    (h : parseRouting R actionName definition = some routing) :
    RoutingWellFormed actionName routing := by
  have hkey := @parseRouting_key_eq R actionName definition routing h
  unfold parseRouting at h
  split at h
  · simp at h
  · next st hfold =>
      split_ifs at h
      simp only [Option.some.injEq] at h
      subst h
      have hst := routed_foldlM (routed_initial actionName definition) hfold
      simp only [List.nil_append] at hst
      refine ⟨hst.slotIndex_eq, ?_, ?_⟩
      · intro i r hr kind
        obtain ⟨c, -, -, -, hc⟩ := hkey hr kind
        rw [hc]
      · intro i j r r' hr hr' kind kind' heq
        obtain ⟨c, hc, hci, hck, hckey⟩ := hkey hr kind
        obtain ⟨c', hc', hci', hck', hckey'⟩ := hkey hr' kind'
        rw [hckey, hckey', PduResolvedKey.mk.injEq] at heq
        have : c = c' := List.inj_on_of_nodup_map hst.nodup hc hc' heq.2
        subst this
        exact ⟨hci.symm.trans hci', hck.symm.trans hck'⟩

/-! ## The table of a configured Action -/

/-- The routing table that a configuration document gives to an Action. -/
def configuredRouting (R : PduRegistry) (root : Json) (actionName : String) :
    Option (List SlotRouting) :=
  match parse root with
  | .error _ => none
  | .ok definitions =>
      (definitions.find? (·.name = actionName)).bind (parseRouting R actionName)

/-- The table that an endpoint builds from its entry of the document is the
configured one. -/
theorem configuredRouting_of_entry {R : PduRegistry} {root : Json}
    {definitions : List ActionDefinition} {entries : List Json}
    (hparse : parse root = .ok definitions)
    (hentries : root.find "actions" = some (.array entries))
    {definition d : ActionDefinition} {entry : Json}
    (hmem : (definition, entry) ∈ definitions.zip entries)
    (hentry : parseAction entry = .ok d) {routing : List SlotRouting}
    (hrouting : parseRouting R definition.name d = some routing) :
    configuredRouting R root definition.name = some routing := by
  obtain ⟨entries', hentries', hparsed⟩ := parse_ok hparse
  obtain rfl : entries = entries' := by simpa [hentries] using hentries'
  obtain ⟨hforall, hnodup, -⟩ := parseActions_ok hparsed
  have hsame : parseAction entry = .ok definition :=
    List.forall₂_zip hforall.flip hmem
  obtain rfl : d = definition := by simpa [hentry] using hsame
  have hlookup := (KeyedList.mem_iff_lookup hnodup).mp (List.of_mem_zip hmem).1
  rw [KeyedList.lookup] at hlookup
  simp [configuredRouting, hparse, hlookup, hrouting]

end HakoPduRpc.Action
