import HakoPduRpc.Action.ServerEndpoint
import HakoPduRpc.Action.ClientEndpoint

/-!
# The numbering of Action channels

`parse_action` numbers the channels of an Action by `3 * slot + k`, cast to 32
bits.  For every accepted `slotCount` the cast is exact, so a channel id
determines slot and kind.

The `initialize()` functions of the two endpoints read the numbered channels in
loops of their own, written below with the reason of a failure.  On a parsed
definition neither loop finds a bad slot, a repeated channel id or an incomplete
slot, and both arrive at the same table.

The last section writes `parse` and `parse_action` with their output parameters.
-/

namespace HakoPduRpc.Action

/-! ## Channel ids -/

/-- The position of a kind among the three channels of a slot. -/
def ActionChannelKind.offset : ActionChannelKind → ℕ
  | .request => 0
  | .response => 1
  | .feedback => 2

theorem ActionChannelKind.offset_lt (kind : ActionChannelKind) :
    kind.offset < 3 := by
  cases kind <;> decide

theorem ActionChannelKind.offset_injective {k k' : ActionChannelKind}
    (h : k.offset = k'.offset) : k = k' := by
  revert h
  cases k <;> cases k' <;> decide

theorem slotIndex_of_mem_slotChannels {type : String} {slot : ℕ}
    {c : ActionChannelDefinition} (h : c ∈ slotChannels type slot) :
    c.slotIndex = slot := by
  simp only [slotChannels, List.mem_cons, List.not_mem_nil, or_false] at h
  rcases h with rfl | rfl | rfl <;> rfl

/-- The channel ids of a slot do not wrap. -/
def SlotNumbered (type : String) (slot : ℕ) : Prop :=
  ∀ c ∈ slotChannels type slot,
    c.channelId.toNat = 3 * c.slotIndex + c.kind.offset

/-- The ids of a slot are exact as long as the last of them is a 32-bit
number. -/
theorem slotNumbered_iff (type : String) {slot : ℕ}
    (h : slot ≤ 1431655765) :
    SlotNumbered type slot ↔ 3 * slot + 2 < 4294967296 := by
  have hbase : (UInt32.ofNat (slot * 3)).toNat = slot * 3 := by
    rw [UInt32.toNat_ofNat']
    exact Nat.mod_eq_of_lt (by omega)
  simp only [SlotNumbered, slotChannels, List.forall_mem_cons,
    ActionChannelKind.offset, UInt32.toNat_add, hbase]
  simp
  omega

/-- `max_slot_count` is the largest number of slots whose ids do not wrap. -/
theorem slots_numbered_iff (type : String) (n : ℕ) :
    (∀ slot < n, SlotNumbered type slot) ↔ n ≤ maxSlotCount.toNat := by
  have hmax : maxSlotCount.toNat = 1431655765 := by decide
  rw [hmax]
  constructor
  · intro h
    by_contra hn
    have := (slotNumbered_iff type (le_refl _)).mp
      (h 1431655765 (by omega))
    omega
  · intro h slot hslot
    exact (slotNumbered_iff type (by omega)).mpr (by omega)

/-! ## The channels of a parsed Action -/

/-- The channels of a definition are numbered by slot and kind. -/
structure ActionDefinition.Numbered (d : ActionDefinition) : Prop where
  length_eq : d.channels.length = 3 * d.slotCount
  slotIndex_lt : ∀ c ∈ d.channels, c.slotIndex < d.slotCount
  channelId_eq : ∀ c ∈ d.channels,
    c.channelId.toNat = 3 * c.slotIndex + c.kind.offset
  injective : ∀ c ∈ d.channels, ∀ c' ∈ d.channels,
    c.channelId = c'.channelId → c.slotIndex = c'.slotIndex ∧ c.kind = c'.kind
  unique : ∀ slot < d.slotCount, ∀ kind,
    d.channels.countP (fun c => c.slotIndex = slot ∧ c.kind = kind) = 1
  nodup : (d.channels.map (·.channelId)).Nodup

/-- The channels of one slot among those of all slots. -/
theorem filter_slotChannels (type : String) {n slot : ℕ} (h : slot < n) :
    ((List.range n).flatMap (slotChannels type)).filter
      (fun c => c.slotIndex = slot) = slotChannels type slot := by
  have hother : ∀ other, other ≠ slot →
      (slotChannels type other).filter (fun c => c.slotIndex = slot) = [] := by
    intro other hne
    rw [List.filter_eq_nil_iff]
    intro c hc
    simp [slotIndex_of_mem_slotChannels hc, hne]
  have hlow : ∀ m, m ≤ slot →
      ((List.range m).flatMap (slotChannels type)).filter
        (fun c => c.slotIndex = slot) = [] := by
    intro m hm
    rw [List.filter_flatMap, List.flatMap_eq_nil_iff]
    intro other hmem
    exact hother other (by have := List.mem_range.mp hmem; omega)
  induction n with
  | zero => omega
  | succ n ih =>
      rw [List.range_succ, List.flatMap_append, List.filter_append,
        List.flatMap_singleton]
      by_cases hslot : slot = n
      · subst hslot
        rw [hlow slot (le_refl _), List.nil_append, List.filter_eq_self]
        intro c hc
        simp [slotIndex_of_mem_slotChannels hc]
      · rw [ih (by omega), hother n (Ne.symm hslot), List.append_nil]

theorem length_slotChannels (type : String) (n : ℕ) :
    ((List.range n).flatMap (slotChannels type)).length = 3 * n := by
  induction n with
  | zero => rfl
  | succ n ih =>
      rw [List.range_succ, List.flatMap_append, List.length_append, ih,
        List.flatMap_singleton]
      simp only [slotChannels, List.length_cons, List.length_nil]
      omega

/-- Among the channels of all slots, one belongs to a slot and a kind. -/
theorem countP_slotChannels (type : String) {n slot : ℕ} (h : slot < n)
    (kind : ActionChannelKind) :
    ((List.range n).flatMap (slotChannels type)).countP
      (fun c => c.slotIndex = slot ∧ c.kind = kind) = 1 := by
  have hsplit : ((List.range n).flatMap (slotChannels type)).countP
      (fun c => c.slotIndex = slot ∧ c.kind = kind) =
      (((List.range n).flatMap (slotChannels type)).filter
        (fun c => c.slotIndex = slot)).countP (fun c => c.kind = kind) := by
    rw [List.countP_filter]
    congr 1
    funext c
    simp [Bool.and_comm]
  rw [hsplit, filter_slotChannels type h]
  cases kind <;> rfl

/-- The ids of a list of numbered channels are distinct if no two of its
channels share slot and kind. -/
theorem nodup_channelIds {cs : List ActionChannelDefinition}
    (hid : ∀ c ∈ cs, ∀ c' ∈ cs, c.channelId = c'.channelId →
      c.slotIndex = c'.slotIndex ∧ c.kind = c'.kind)
    (hcount : ∀ c ∈ cs, cs.countP
      (fun c' => c'.slotIndex = c.slotIndex ∧ c'.kind = c.kind) = 1) :
    (cs.map (·.channelId)).Nodup := by
  rw [List.nodup_iff_count_le_one]
  intro id
  by_cases hmem : id ∈ cs.map (·.channelId)
  · obtain ⟨c, hc, rfl⟩ := List.mem_map.mp hmem
    rw [List.count, List.countP_map, ← hcount c hc]
    refine List.countP_mono_left fun c' hc' heq => ?_
    simp only [Function.comp_apply, beq_iff_eq] at heq
    simpa using hid c' hc' c hc heq
  · rw [List.count_eq_zero.mpr hmem]
    exact Nat.zero_le 1

theorem parseAction_numbered {action : Json} {d : ActionDefinition}
    (h : parseAction action = .ok d) : d.Numbered := by
  obtain ⟨hchannels, hmax⟩ := parseAction_ok h
  have hslot : ∀ c ∈ d.channels, c.slotIndex < d.slotCount ∧
      c ∈ slotChannels d.type c.slotIndex := by
    intro c hc
    rw [hchannels, List.mem_flatMap] at hc
    obtain ⟨slot, hslot, hc⟩ := hc
    rw [slotIndex_of_mem_slotChannels hc]
    exact ⟨List.mem_range.mp hslot, hc⟩
  have hid : ∀ c ∈ d.channels,
      c.channelId.toNat = 3 * c.slotIndex + c.kind.offset := by
    intro c hc
    exact (slots_numbered_iff d.type d.slotCount).mpr hmax _ (hslot c hc).1 c
      (hslot c hc).2
  have hinj : ∀ c ∈ d.channels, ∀ c' ∈ d.channels,
      c.channelId = c'.channelId →
        c.slotIndex = c'.slotIndex ∧ c.kind = c'.kind := by
    intro c hc c' hc' heq
    have hsame := congrArg UInt32.toNat heq
    rw [hid c hc, hid c' hc'] at hsame
    have hlt := c.kind.offset_lt
    have hlt' := c'.kind.offset_lt
    exact ⟨by omega, ActionChannelKind.offset_injective (by omega)⟩
  have hunique : ∀ slot < d.slotCount, ∀ kind, d.channels.countP
      (fun c => c.slotIndex = slot ∧ c.kind = kind) = 1 := by
    intro slot hlt kind
    rw [hchannels]
    exact countP_slotChannels d.type hlt kind
  exact ⟨by rw [hchannels, length_slotChannels], fun c hc => (hslot c hc).1,
    hid, hinj, hunique,
    nodup_channelIds hinj fun c hc => hunique _ (hslot c hc).1 _⟩

/-! ## The two channel loops -/

/-- Why `initialize` refuses a definition: a bad slot index or a repeated
channel id, a packet type that is unknown or of an unsupported size, or a slot
without all three channels. -/
inductive RoutingFailure
  | channel
  | packet
  | masks
deriving DecidableEq, Repr

/-- One iteration of the channel loop of the server. -/
def serverRouteChannel (R : PduRegistry) (actionName : String)
    (st : RoutingState) (channel : ActionChannelDefinition) :
    Except RoutingFailure RoutingState :=
  match st.routing[channel.slotIndex]? with
  | none => .error .channel
  | some slot =>
      if channel.channelId ∈ st.channelIds then .error .channel
      else
        match R.pduGetSize channel.packetType with
        | none => .error .packet
        | some baseSize =>
            if baseSize.toUInt64 < channelHeaderSize R channel.kind then
              .error .packet
            else if ¬R.supportedPacketCapacity baseSize
                (slot.heapCapacity channel.kind) then .error .packet
            else
              .ok
                { routing := st.routing.modify channel.slotIndex fun slot =>
                    slot.setChannel channel.kind
                      ⟨actionName, channel.channelId⟩ channel.packetType
                      baseSize
                  channelMasks :=
                    st.channelMasks.modify channel.slotIndex
                      (· ||| channel.kind.mask)
                  channelIds := channel.channelId :: st.channelIds }

/-- One iteration of the channel loop of the client: key, packet type and mask
are set first, and the size is looked up and checked afterwards. -/
def clientRouteChannel (R : PduRegistry) (actionName : String)
    (st : RoutingState) (channel : ActionChannelDefinition) :
    Except RoutingFailure RoutingState :=
  if channel.slotIndex ≥ st.routing.length ∨
      channel.channelId ∈ st.channelIds then .error .channel
  else
    let key : PduResolvedKey := ⟨actionName, channel.channelId⟩
    let heapCapacity :=
      (st.routing[channel.slotIndex]?.getD {}).heapCapacity channel.kind
    let minimumHeader := channelHeaderSize R channel.kind
    let masks := st.channelMasks.modify channel.slotIndex
      (· ||| channel.kind.mask)
    match R.pduGetSize channel.packetType with
    | none => .error .packet
    | some baseSize =>
        if baseSize.toUInt64 < minimumHeader ∨
            ¬R.supportedPacketCapacity baseSize heapCapacity then
          .error .packet
        else
          .ok
            { routing := st.routing.modify channel.slotIndex fun slot =>
                slot.setChannel channel.kind key channel.packetType baseSize
              channelMasks := masks
              channelIds := channel.channelId :: st.channelIds }

/-- The routing part of `initialize`, for the channel loop of either side. -/
def routeChannels
    (route : RoutingState → ActionChannelDefinition →
      Except RoutingFailure RoutingState)
    (definition : ActionDefinition) :
    Except RoutingFailure (List SlotRouting) :=
  match definition.channels.foldlM route (initialRouting definition) with
  | .error failure => .error failure
  | .ok st =>
      if st.channelMasks.any (· ≠ 0x07) then .error .masks else .ok st.routing

/-- The routing part of `ActionServerEndpointImpl::initialize`. -/
def serverRouting (R : PduRegistry) (actionName : String) :
    ActionDefinition → Except RoutingFailure (List SlotRouting) :=
  routeChannels (serverRouteChannel R actionName)

/-- The routing part of `ActionClientEndpointImpl::initialize`. -/
def clientRouting (R : PduRegistry) (actionName : String) :
    ActionDefinition → Except RoutingFailure (List SlotRouting) :=
  routeChannels (clientRouteChannel R actionName)

/-- The two loops take the same steps. -/
theorem clientRouteChannel_eq (R : PduRegistry) (actionName : String)
    (st : RoutingState) (channel : ActionChannelDefinition) :
    clientRouteChannel R actionName st channel =
      serverRouteChannel R actionName st channel := by
  unfold clientRouteChannel serverRouteChannel
  by_cases hslot : channel.slotIndex < st.routing.length
  · simp only [List.getElem?_eq_getElem hslot, Nat.not_le.mpr hslot,
      false_or, Option.getD_some]
    split_ifs
    · rfl
    · split
      · rfl
      · split_ifs <;> first | rfl | grind
  · simp [Nat.not_lt.mp hslot]

theorem clientRouting_eq (R : PduRegistry) (actionName : String)
    (d : ActionDefinition) :
    clientRouting R actionName d = serverRouting R actionName d := by
  have hsame : clientRouteChannel R actionName =
      serverRouteChannel R actionName := by
    funext st channel
    exact clientRouteChannel_eq R actionName st channel
  rw [clientRouting, serverRouting, hsame]

theorem toOption_serverRouteChannel (R : PduRegistry) (actionName : String)
    (st : RoutingState) (channel : ActionChannelDefinition) :
    (serverRouteChannel R actionName st channel).toOption =
      routeChannel R actionName st channel := by
  unfold serverRouteChannel routeChannel
  cases st.routing[channel.slotIndex]? with
  | none => rfl
  | some slot =>
      by_cases hid : channel.channelId ∈ st.channelIds
      · simp [hid, Except.toOption]
      · simp only [hid, if_false]
        cases R.pduGetSize channel.packetType with
        | none => rfl
        | some baseSize =>
            dsimp only
            split_ifs <;> first | rfl | grind

theorem toOption_foldlM {σ α ε : Type} {f : σ → α → Except ε σ}
    {g : σ → α → Option σ} (h : ∀ s a, (f s a).toOption = g s a)
    (as : List α) (s : σ) : (as.foldlM f s).toOption = as.foldlM g s := by
  induction as generalizing s with
  | nil => rfl
  | cons a as ih =>
      rw [List.foldlM_cons, List.foldlM_cons, ← h]
      cases hs : f s a with
      | error e => rfl
      | ok s' => exact ih s'

/-- The table of `parseRouting` is the one of the loops. -/
theorem toOption_serverRouting (R : PduRegistry) (actionName : String)
    (d : ActionDefinition) :
    (serverRouting R actionName d).toOption = parseRouting R actionName d := by
  have hfold := toOption_foldlM (toOption_serverRouteChannel R actionName)
    d.channels (initialRouting d)
  unfold serverRouting routeChannels parseRouting
  rw [← hfold]
  cases hst : d.channels.foldlM (serverRouteChannel R actionName)
      (initialRouting d) with
  | error failure => rfl
  | ok st =>
      simp only [Except.toOption]
      split_ifs <;> rfl

/-! ## The loops on a parsed definition -/

/-- The bits of the kinds that a list of channels has for a slot. -/
def kindMask (cs : List ActionChannelDefinition) (slot : ℕ) : UInt8 :=
  (cs.filter fun c => c.slotIndex = slot).foldl
    (fun mask c => mask ||| c.kind.mask) 0

/-- The state of a channel loop after the channels `cs`. -/
structure RoutingState.After (n : ℕ) (cs : List ActionChannelDefinition)
    (st : RoutingState) : Prop where
  length_routing : st.routing.length = n
  channelIds_eq : st.channelIds = (cs.map (·.channelId)).reverse
  mask_eq : ∀ {i : ℕ} {m : UInt8}, st.channelMasks[i]? = some m →
    i < n ∧ m = kindMask cs i

theorem after_initial (d : ActionDefinition) :
    (initialRouting d).After d.slotCount [] where
  length_routing := by simp [initialRouting]
  channelIds_eq := rfl
  mask_eq := by
    intro i m hm
    simp only [initialRouting, List.getElem?_replicate] at hm
    split_ifs at hm with hi
    exact ⟨hi, by simpa [kindMask] using hm.symm⟩

/-- A step that is not refused records the channel. -/
theorem after_serverRouteChannel {R : PduRegistry} {actionName : String}
    {n : ℕ} {cs : List ActionChannelDefinition} {st st' : RoutingState}
    {channel : ActionChannelDefinition} (hst : st.After n cs)
    (h : serverRouteChannel R actionName st channel = .ok st') :
    st'.After n (cs ++ [channel]) := by
  unfold serverRouteChannel at h
  split at h
  · simp at h
  · split_ifs at h
    split at h
    · simp at h
    · split_ifs at h
      simp only [Except.ok.injEq] at h
      subst h
      refine ⟨by simp [hst.length_routing], by simp [hst.channelIds_eq], ?_⟩
      intro i m hm
      simp only [List.getElem?_modify, Option.map_eq_map,
        Option.map_eq_some_iff] at hm
      obtain ⟨m₀, hm₀, rfl⟩ := hm
      obtain ⟨hi, rfl⟩ := hst.mask_eq hm₀
      refine ⟨hi, ?_⟩
      by_cases hslot : channel.slotIndex = i
      · simp [kindMask, hslot, List.filter_append]
      · simp [kindMask, hslot, List.filter_append]

/-- With a slot in range and a fresh channel id, only the packet type can be
refused. -/
theorem serverRouteChannel_error {R : PduRegistry} {actionName : String}
    {st : RoutingState} {channel : ActionChannelDefinition}
    {failure : RoutingFailure} (hslot : channel.slotIndex < st.routing.length)
    (hid : channel.channelId ∉ st.channelIds)
    (h : serverRouteChannel R actionName st channel = .error failure) :
    failure = .packet := by
  unfold serverRouteChannel at h
  simp only [List.getElem?_eq_getElem hslot, if_neg hid] at h
  split at h
  · simpa using h.symm
  · split_ifs at h
    · simpa using h.symm
    · simpa using h.symm

/-- A loop over channels with distinct ids and slots in range: it records all of
them, unless a packet type is refused. -/
theorem foldlM_serverRouteChannel {R : PduRegistry} {actionName : String}
    {n : ℕ} {cs ds : List ActionChannelDefinition} {st : RoutingState}
    (hst : st.After n cs) (hslot : ∀ c ∈ ds, c.slotIndex < n)
    (hnodup : ((cs ++ ds).map (·.channelId)).Nodup) :
    (∀ failure, ds.foldlM (serverRouteChannel R actionName) st =
      .error failure → failure = .packet) ∧
    ∀ st', ds.foldlM (serverRouteChannel R actionName) st = .ok st' →
      st'.After n (cs ++ ds) := by
  induction ds generalizing cs st with
  | nil =>
      constructor
      · intro failure h
        cases h
      · intro st' h
        obtain rfl := Except.ok.inj h
        simpa using hst
  | cons d ds ih =>
      have hfresh : d.channelId ∉ st.channelIds := by
        rw [hst.channelIds_eq, List.mem_reverse]
        rw [List.map_append, List.map_cons] at hnodup
        intro hmem
        exact (List.nodup_append.mp hnodup).2.2 _ hmem _ (by simp) rfl
      rw [List.foldlM_cons]
      cases hd : serverRouteChannel R actionName st d with
      | error failure =>
          have hpacket := serverRouteChannel_error
            (hst.length_routing ▸ hslot d (by simp)) hfresh hd
          constructor
          · intro failure' h
            obtain rfl := Except.error.inj h
            exact hpacket
          · intro st' h
            cases h
      | ok next =>
          have hrest := ih (after_serverRouteChannel hst hd)
            (fun c hc => hslot c (List.mem_cons_of_mem _ hc))
            (by simpa using hnodup)
          rw [List.append_assoc] at hrest
          exact hrest

/-- The kinds of the channels of a parsed slot fill its mask. -/
theorem kindMask_parsed {action : Json} {d : ActionDefinition}
    (h : parseAction action = .ok d) {slot : ℕ} (hslot : slot < d.slotCount) :
    kindMask d.channels slot = 0x07 := by
  rw [kindMask, (parseAction_ok h).1, filter_slotChannels d.type hslot]
  simp only [slotChannels, List.foldl_cons, List.foldl_nil]
  decide

section Parsed

variable {R : PduRegistry} {action : Json} {d : ActionDefinition}

/-- The loop over the channels of a parsed definition, in front of the mask
check. -/
theorem parsed_after (actionName : String) (h : parseAction action = .ok d) :
    (∀ failure, d.channels.foldlM (serverRouteChannel R actionName)
      (initialRouting d) = .error failure → failure = .packet) ∧
    ∀ st, d.channels.foldlM (serverRouteChannel R actionName)
      (initialRouting d) = .ok st → st.After d.slotCount d.channels := by
  have hd := parseAction_numbered h
  exact foldlM_serverRouteChannel (after_initial d) hd.slotIndex_lt
    (by simpa using hd.nodup)

/-- On a parsed definition only a packet type can be refused: neither the
duplicate-channel check nor the mask check fails. -/
theorem serverRouting_error (actionName : String)
    (h : parseAction action = .ok d) {failure : RoutingFailure}
    (hfail : serverRouting R actionName d = .error failure) :
    failure = .packet := by
  obtain ⟨herror, hok⟩ := parsed_after (R := R) actionName h
  unfold serverRouting routeChannels at hfail
  split at hfail
  · next failure' hfold =>
      rw [← Except.error.inj hfail]
      exact herror _ hfold
  · next st hfold =>
      -- every mask is that of a slot of the definition, so it is full
      have hfull : ¬st.channelMasks.any (· ≠ 0x07) = true := by
        simp only [List.any_eq_true, not_exists, not_and, decide_eq_true_eq,
          not_not]
        intro m hm
        obtain ⟨i, hi⟩ := List.mem_iff_getElem?.mp hm
        obtain ⟨hlt, rfl⟩ := (hok st hfold).mask_eq hi
        exact kindMask_parsed h hlt
      rw [if_neg hfull] at hfail
      cases hfail

/-- The table of a parsed definition: one entry for each slot, with the numbered
channels as keys. -/
theorem serverRouting_table {actionName : String} {table : List SlotRouting}
    (h : parseAction action = .ok d)
    (htable : serverRouting R actionName d = .ok table) :
    table.length = d.slotCount ∧
      ∀ i r, table[i]? = some r → ∀ kind,
        (r.key kind).robot = actionName ∧
          (r.key kind).channelId.toNat = 3 * i + kind.offset := by
  constructor
  · obtain ⟨-, hok⟩ := parsed_after (R := R) actionName h
    unfold serverRouting routeChannels at htable
    split at htable
    · cases htable
    · next st hfold =>
        split_ifs at htable
        rw [← Except.ok.inj htable]
        exact (hok st hfold).length_routing
  · intro i r hr kind
    have hparse : parseRouting R actionName d = some table := by
      rw [← toOption_serverRouting, htable]
      rfl
    obtain ⟨c, hc, rfl, rfl, hkey⟩ := parseRouting_key_eq hparse hr kind
    rw [hkey]
    exact ⟨rfl, (parseAction_numbered h).channelId_eq c hc⟩

end Parsed

/-! ## Output parameters -/

/-- The call of `append_slot_channels` in the slot loop. -/
def appendSlotChannels (definition : ActionDefinition) (slot : ℕ) :
    ActionDefinition :=
  { definition with
    channels := definition.channels ++ slotChannels definition.type slot }

/-- An `ActionDefinition` as its constructor leaves it. -/
def emptyDefinition : ActionDefinition where
  name := ""
  type := ""
  slotCount := 0
  bufferHeap := {}
  clientEndpoint := { nodeId := "" }
  serverEndpoint := { nodeId := "" }
  channels := []

/-- `parse_action` with its output parameters: the result, `definition_out` and
`error_out`.  Everything is collected in a local `parsed`. -/
def parseActionOut (action : Json) (definitionOut : ActionDefinition) :
    Bool × ActionDefinition × String :=
  if ¬action.isObject then
    (false, definitionOut, "Action entry must be an object")
  else
    let parsed := emptyDefinition
    match readRequiredText action "name" with
    | .error message => (false, definitionOut, message)
    | .ok name =>
    let parsed := { parsed with name := name }
    match readRequiredText action "type" with
    | .error message => (false, definitionOut, message)
    | .ok type =>
    let parsed := { parsed with type := type }
    if ¬isPackageType parsed.type then
      (false, definitionOut, "'type' must use package/ActionName format")
    else
    match action.find "slotCount" with
    | some (.numberUnsigned slotCount) =>
        let parsed := { parsed with slotCount := slotCount.toNat }
        if slotCount = 0 then
          (false, definitionOut, "'slotCount' must be a positive integer")
        else if slotCount > maxSlotCount then
          (false, definitionOut,
            "'slotCount' exceeds the logical channel ID range")
        else
        match readEndpoint action "clientEndpoint" with
        | .error message => (false, definitionOut, message)
        | .ok clientEndpoint =>
        let parsed := { parsed with clientEndpoint := clientEndpoint }
        match readEndpoint action "serverEndpoint" with
        | .error message => (false, definitionOut, message)
        | .ok serverEndpoint =>
        let parsed := { parsed with serverEndpoint := serverEndpoint }
        match readBufferHeap action with
        | .error message => (false, definitionOut, message)
        | .ok bufferHeap =>
        let parsed := { parsed with bufferHeap := bufferHeap }
        let parsed :=
          (List.range parsed.slotCount).foldl appendSlotChannels parsed
        (true, parsed, "")
    | _ => (false, definitionOut, "'slotCount' must be a positive integer")

/-- The loop of `parse` with the local `parsed`. -/
def parseActionsOut (configurationOut : List ActionDefinition)
    (names : List String) (parsed : List ActionDefinition) :
    List Json → Bool × List ActionDefinition × String
  | [] => (true, parsed, "")
  | action :: rest =>
      match parseActionOut action emptyDefinition with
      | (false, _, actionError) =>
          (false, configurationOut,
            s!"invalid Action definition: {actionError}")
      | (true, definition, _) =>
          if definition.name ∈ names then
            (false, configurationOut,
              s!"duplicate Action name: {definition.name}")
          else
            parseActionsOut configurationOut (definition.name :: names)
              (parsed ++ [definition]) rest

/-- `parse` with its output parameters. -/
def parseOut (root : Json) (configurationOut : List ActionDefinition) :
    Bool × List ActionDefinition × String :=
  if ¬root.isObject then
    (false, configurationOut, "Action configuration root must be an object")
  else
    match root.find "actions" with
    | some (.array actions) =>
        if actions.isEmpty then
          (false, configurationOut, "'actions' must be a non-empty array")
        else parseActionsOut configurationOut [] [] actions
    | _ => (false, configurationOut, "'actions' must be a non-empty array")

/-- A result as it stands in the output parameters of a call. -/
def outputs {α : Type} (out : α) : Except String α → Bool × α × String
  | .ok value => (true, value, "")
  | .error message => (false, out, message)

theorem foldl_appendSlotChannels (d : ActionDefinition) (slots : List ℕ) :
    slots.foldl appendSlotChannels d =
      { d with
        channels := d.channels ++ slots.flatMap (slotChannels d.type) } := by
  induction slots generalizing d with
  | nil => simp
  | cons slot slots ih =>
      rw [List.foldl_cons, ih]
      simp [appendSlotChannels]

/-- `parse_action` assigns `definition_out` only when it accepts. -/
theorem parseActionOut_eq (action : Json) (out : ActionDefinition) :
    parseActionOut action out = outputs out (parseAction action) := by
  unfold parseActionOut parseAction
  by_cases hobject : action.isObject = true
  swap
  · simp [hobject, outputs]
  simp only [hobject, not_true_eq_false, if_false]
  cases readRequiredText action "name" with
  | error message => rfl
  | ok name =>
  cases readRequiredText action "type" with
  | error message => rfl
  | ok type =>
  simp only [bind, Except.bind]
  by_cases htype : isPackageType type = true
  swap
  · simp [htype, outputs]
  simp only [htype, not_true_eq_false, if_false]
  cases action.find "slotCount" with
  | none => rfl
  | some value =>
  cases value with
  | numberUnsigned slotCount =>
      by_cases hzero : slotCount = 0
      · simp [hzero, outputs]
      by_cases hmax : slotCount > maxSlotCount
      · simp [hzero, hmax, outputs]
      simp only [hzero, hmax, if_false]
      cases readEndpoint action "clientEndpoint" with
      | error message => rfl
      | ok clientEndpoint =>
      cases readEndpoint action "serverEndpoint" with
      | error message => rfl
      | ok serverEndpoint =>
      cases readBufferHeap action with
      | error message => rfl
      | ok bufferHeap =>
          simp [outputs, foldl_appendSlotChannels, emptyDefinition]
  | _ => rfl

theorem parseActionsOut_eq (out : List ActionDefinition) (names : List String)
    (parsed : List ActionDefinition) (entries : List Json) :
    parseActionsOut out names parsed entries =
      outputs out ((parseActions names entries).map (parsed ++ ·)) := by
  induction entries generalizing names parsed with
  | nil => simp [parseActionsOut, parseActions, Except.map, outputs]
  | cons entry entries ih =>
      rw [parseActionsOut, parseActions, parseActionOut_eq]
      cases parseAction entry with
      | error message => rfl
      | ok d =>
          simp only [outputs]
          by_cases hname : d.name ∈ names
          · simp [hname, Except.map]
          · simp only [hname, if_false, ih]
            cases parseActions (d.name :: names) entries with
            | error message => rfl
            | ok rest => simp [Except.map, outputs]

/-- `parse` assigns `configuration_out` only when it accepts. -/
theorem parseOut_eq (root : Json) (out : List ActionDefinition) :
    parseOut root out = outputs out (parse root) := by
  unfold parseOut parse
  by_cases hobject : root.isObject = true
  swap
  · simp [hobject, outputs]
  simp only [hobject, not_true_eq_false, if_false]
  cases root.find "actions" with
  | none => rfl
  | some value =>
  cases value with
  | array entries =>
      by_cases hempty : entries.isEmpty = true
      · simp [hempty, outputs]
      · simp only [hempty, parseActionsOut_eq]
        cases parseActions [] entries with
        | error message => rfl
        | ok parsed => rfl
  | _ => rfl

/-! ## Main result -/

/-- What the numbering of a parsed definition means for the two `initialize()`
functions: they refuse it at most for its packet types, they build the same
table, and its keys are the numbered channels. -/
structure RoutesNumbered (R : PduRegistry) (d : ActionDefinition) : Prop where
  server_error : ∀ {failure}, serverRouting R d.name d = .error failure →
    failure = .packet
  client_error : ∀ {failure}, clientRouting R d.name d = .error failure →
    failure = .packet
  client_eq : clientRouting R d.name d = serverRouting R d.name d
  toOption_eq : (serverRouting R d.name d).toOption = parseRouting R d.name d
  table : ∀ {table}, serverRouting R d.name d = .ok table →
    table.length = d.slotCount ∧
      ∀ i r, table[i]? = some r → ∀ kind,
        (r.key kind).robot = d.name ∧
          (r.key kind).channelId.toNat = 3 * i + kind.offset

theorem parseAction_routesNumbered (R : PduRegistry) {action : Json}
    {d : ActionDefinition} (h : parseAction action = .ok d) :
    RoutesNumbered R d where
  server_error hfail := serverRouting_error d.name h hfail
  client_error hfail :=
    serverRouting_error d.name h (clientRouting_eq R d.name d ▸ hfail)
  client_eq := clientRouting_eq R d.name d
  toOption_eq := toOption_serverRouting R d.name d
  table htable := serverRouting_table h htable

theorem serverRouting_of_parseRouting {R : PduRegistry} {actionName : String}
    {d : ActionDefinition} {table : List SlotRouting}
    (h : parseRouting R actionName d = some table) :
    serverRouting R actionName d = .ok table := by
  rw [← toOption_serverRouting] at h
  cases htable : serverRouting R actionName d with
  | error failure => simp [htable, Except.toOption] at h
  | ok table' => simpa [htable, Except.toOption] using h

theorem server_slotRouting {R : PduRegistry} {action : Json}
    {d : ActionDefinition} {ep ep' : ActionServerEndpointImpl}
    (hd : parseAction action = .ok d)
    (h : ActionServerEndpointImpl.initializeEndpoint R ep action = some ep') :
    serverRouting R d.name d = .ok ep'.slotRouting := by
  obtain ⟨d', routing, hd', hname, hrouting, -, rfl⟩ :=
    ActionServerEndpointImpl.initializeEndpoint_ok h
  obtain rfl : d = d' := Except.ok.inj (hd.symm.trans hd')
  rw [hname]
  exact serverRouting_of_parseRouting hrouting

theorem client_slotRouting {R : PduRegistry} {action : Json}
    {d : ActionDefinition} {ep ep' : ActionClientEndpointImpl}
    (hd : parseAction action = .ok d)
    (h : ActionClientEndpointImpl.initializeEndpoint R ep action = some ep') :
    clientRouting R d.name d = .ok ep'.slotRouting := by
  obtain ⟨d', routing, hd', hname, hrouting, -, rfl⟩ :=
    ActionClientEndpointImpl.initializeEndpoint_ok h
  obtain rfl : d = d' := Except.ok.inj (hd.symm.trans hd')
  rw [hname]
  rw [clientRouting_eq]
  exact serverRouting_of_parseRouting hrouting

/-- The channels of every accepted Action are numbered by slot and kind without
wrapping, up to the largest slot count for which that is possible; both
`initialize()` functions build the same table from them and fail at most on a
packet type; and a refused document leaves the output parameters alone. -/
theorem action_channels_numbered (R : PduRegistry) :
    (∀ action d, parseAction action = .ok d →
      d.Numbered ∧ d.slotCount ≤ maxSlotCount.toNat ∧ RoutesNumbered R d) ∧
    (∀ type n, (∀ slot < n, SlotNumbered type slot) ↔
      n ≤ maxSlotCount.toNat) ∧
    (∀ action d server server' client client',
      parseAction action = .ok d →
      ActionServerEndpointImpl.initializeEndpoint R server action =
        some server' →
      ActionClientEndpointImpl.initializeEndpoint R client action =
        some client' →
      serverRouting R d.name d = .ok server'.slotRouting ∧
        clientRouting R d.name d = .ok client'.slotRouting ∧
        server'.slotRouting = client'.slotRouting) ∧
    (∀ action out, parseActionOut action out =
      outputs out (parseAction action)) ∧
    (∀ root out, parseOut root out = outputs out (parse root)) ∧
    (∀ action out, (parseActionOut action out).1 = false →
      (parseActionOut action out).2.1 = out) ∧
    ∀ root out, (parseOut root out).1 = false →
      (parseOut root out).2.1 = out := by
  refine ⟨?_, slots_numbered_iff, ?_, parseActionOut_eq, parseOut_eq, ?_, ?_⟩
  · intro action d h
    exact ⟨parseAction_numbered h, (parseAction_ok h).2,
      parseAction_routesNumbered R h⟩
  · intro action d server server' client client' hd hserver hclient
    have hs := server_slotRouting hd hserver
    have hc := client_slotRouting hd hclient
    refine ⟨hs, hc, ?_⟩
    rw [clientRouting_eq, hs] at hc
    exact Except.ok.inj hc
  · intro action out h
    rw [parseActionOut_eq] at h ⊢
    cases hparse : parseAction action with
    | error message => rfl
    | ok d => simp [hparse, outputs] at h
  · intro root out h
    rw [parseOut_eq] at h ⊢
    cases hparse : parse root with
    | error message => rfl
    | ok parsed => simp [hparse, outputs] at h

/-- An Action with two slots. -/
def twoSlotAction : Json :=
  .object
    [("name", .string "fibonacci"),
     ("type", .string "sample_action_msgs/Fibonacci"),
     ("slotCount", .numberUnsigned 2),
     ("clientEndpoint", .object [("nodeId", .string "fibonacci-client")]),
     ("serverEndpoint", .object [("nodeId", .string "fibonacci-server")])]

/-- Its six channels have the numbers from zero to five. -/
theorem action_channels_numbered_two_slots :
    ∃ d, parseAction twoSlotAction = .ok d ∧ d.Numbered ∧
      d.channels.map (·.channelId) = [0, 1, 2, 3, 4, 5] ∧
      RoutesNumbered sampleRegistry d := by
  have hparse : ∃ d, parseAction twoSlotAction = .ok d ∧
      d.channels.map (·.channelId) = [0, 1, 2, 3, 4, 5] :=
    ⟨_, rfl, rfl⟩
  obtain ⟨d, hd, hids⟩ := hparse
  obtain ⟨hnumbered, -, hroutes⟩ :=
    (action_channels_numbered sampleRegistry).1 twoSlotAction d hd
  exact ⟨d, hd, hnumbered, hids, hroutes⟩

end HakoPduRpc.Action
