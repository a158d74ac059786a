import HakoPduRpc.Config.ActionManifest

/-!
# The limits of an Action

`_validate_action` of the generator and `parse_action` of the loader write the
same bounds in different ways.  An entry of a manifest that the generator
accepts stays acceptable to the one, after a change of its slot count, of a heap
size or of its type, exactly when it does to the other.
-/

namespace HakoPduRpc
namespace Config
namespace ActionManifest

open HakoPduRpc.Action (Json parseAction readRequiredText readEndpoint
  readBufferHeapSize readBufferHeap maxSlotCount except_bind_eq_ok)

/-! ## Type names -/

/-- `split` finds two parts that are not empty exactly when there is one
separator, neither at the beginning nor at the end. -/
theorem isPackageType_eq (type : String) :
    isPackageType type = HakoPduRpc.Action.isPackageType type := by
  unfold isPackageType HakoPduRpc.Action.isPackageType
  generalize type.toList = l
  by_cases hmem : '/' ∈ l
  · obtain ⟨before, after, rfl, hbefore⟩ := List.eq_append_cons_of_mem hmem
    have hindex : (before ++ '/' :: after).findIdx? (· = '/') =
        some before.length := by
      rw [List.findIdx?_append, List.findIdx?_eq_none_iff.mpr]
      · simp [List.findIdx?_cons]
      · intro c hc
        simpa using fun h : c = '/' => hbefore (h ▸ hc)
    have hdrop : (before ++ '/' :: after).drop (before.length + 1) = after := by
      rw [List.drop_append, List.drop_of_length_le (Nat.le_succ _)]
      simp
    rw [List.splitOn_append_cons_self_of_not_mem hbefore, hindex]
    dsimp only
    rw [hdrop]
    by_cases hafter : '/' ∈ after
    · obtain ⟨middle, rest, rfl, hmiddle⟩ := List.eq_append_cons_of_mem hafter
      rw [List.splitOn_append_cons_self_of_not_mem hmiddle]
      simp [List.splitOn_ne_nil]
    · rw [List.splitOn_eq_singleton hafter]
      simp [hafter, List.length_eq_zero_iff, and_comm]
  · have hnone : l.findIdx? (· = '/') = none := by
      rw [List.findIdx?_eq_none_iff]
      intro c hc
      simpa using fun h : c = '/' => hmem (h ▸ hc)
    rw [List.splitOn_eq_singleton hmem, hnone]
    simp

/-! ## Texts -/

theorem text_get_eq_ok_iff {fields : Fields} {key path s : String} :
    text (fields.get key) path = .ok s ↔
      fields.find key = some (.str s) ∧ s ≠ "" := by
  constructor
  · intro h
    obtain ⟨hget, hne⟩ := text_ok h
    refine ⟨?_, hne⟩
    rw [Fields.get] at hget
    cases hfind : fields.find key with
    | none => simp [hfind] at hget
    | some value => simpa [hfind] using hget
  · rintro ⟨hfind, hne⟩
    rw [Fields.get, hfind, Option.getD_some, text]
    exact if_neg hne

/-- The loader reads the same texts. -/
theorem readRequiredText_eq_ok_iff {fields : Fields} {key s : String} :
    readRequiredText (Value.dict fields).tree key = .ok s ↔
      fields.find key = some (.str s) ∧ s ≠ "" := by
  rw [readRequiredText, find_tree]
  constructor
  · intro h
    split at h
    · next value hvalue =>
        obtain ⟨found, hfound, hjson⟩ := Option.map_eq_some_iff.mp hvalue
        obtain rfl := tree_eq_string_iff.mp hjson
        split_ifs at h with hempty
        obtain rfl := Except.ok.inj h
        exact ⟨hfound, hempty⟩
    · cases h
  · rintro ⟨hfind, hne⟩
    rw [hfind, Option.map_some, Value.tree]
    exact if_neg hne

/-! ## Slot counts -/

/-- The slot counts that have channel ids of 32 bits. -/
def SlotsFit (fields : Fields) : Prop :=
  ∃ n : ℕ, fields.find "slotCount" = some (.int n) ∧ 0 < n ∧ n ≤ 1431655765

theorem slotCount_eq_ok_iff {fields : Fields} {index n : ℕ} :
    slotCount fields index = .ok n ↔
      fields.find "slotCount" = some (.int n) ∧ 0 < n ∧ n ≤ 1431655765 := by
  constructor
  · intro h
    unfold slotCount at h
    obtain ⟨count, hcount, h⟩ := except_bind_eq_ok h
    obtain ⟨_, hrange, h⟩ := except_bind_eq_ok h
    obtain ⟨i, hget, haccepts, rfl⟩ := integer_ok hcount
    obtain rfl := Except.ok.inj h
    rw [refuseIf_eq_ok_iff] at hrange
    simp only [decide_eq_true_eq] at haccepts
    refine ⟨?_, by omega, by omega⟩
    rw [Int.toNat_of_nonneg haccepts.le]
    rw [Fields.get] at hget
    cases hfind : fields.find "slotCount" with
    | none => simp [hfind] at hget
    | some value => simpa [hfind] using hget
  · rintro ⟨hfind, hpos, hle⟩
    have hpositive : decide ((0 : Int) < n) = true := by
      rw [decide_eq_true_eq]
      omega
    have hrange : ¬n > 4294967295 / 3 := by omega
    have hcount : ∀ path, positiveInt (fields.get "slotCount") path = .ok n := by
      intro path
      rw [Fields.get, hfind, Option.getD_some, positiveInt, integer,
        if_pos hpositive, Int.toNat_natCast]
    rw [slotCount, hcount]
    change (refuseIf (n > 4294967295 / 3) _ >>= _) = _
    rw [refuseIf_eq_ok_iff (u := ()).mpr hrange]
    rfl

theorem maxSlotCount_toNat : maxSlotCount.toNat = 1431655765 := by decide

/-- The loader takes the same slot counts. -/
theorem slotsFit_iff {fields : Fields} :
    SlotsFit fields ↔
      ∃ count : UInt64,
        (Value.dict fields).tree.find "slotCount" =
          some (.numberUnsigned count) ∧
        ¬count = 0 ∧ ¬count > maxSlotCount := by
  rw [find_tree]
  constructor
  · rintro ⟨n, hfind, hpos, hle⟩
    have hnat : (UInt64.ofNat n).toNat = n :=
      UInt64.toNat_ofNat_of_lt' (by simp only [UInt64.size]; omega)
    refine ⟨UInt64.ofNat n, ?_, ?_, ?_⟩
    · rw [hfind, Option.map_some, tree_int (by omega)]
    · rw [← UInt64.toNat_inj, hnat, UInt64.toNat_zero]
      omega
    · rw [gt_iff_lt, UInt64.lt_iff_toNat_lt, hnat, maxSlotCount_toNat]
      omega
  · rintro ⟨count, hfind, hzero, hmax⟩
    obtain ⟨value, hvalue, hjson⟩ := Option.map_eq_some_iff.mp hfind
    obtain rfl := tree_eq_unsigned_iff.mp hjson
    rw [← UInt64.toNat_inj, UInt64.toNat_zero] at hzero
    rw [gt_iff_lt, UInt64.lt_iff_toNat_lt, maxSlotCount_toNat] at hmax
    exact ⟨count.toNat, hvalue, by omega, by omega⟩

/-! ## Heap sizes -/

/-- The heap sizes that can be allocated; what is left out has a default. -/
def SizeFits (configured : Fields) (key : String) : Prop :=
  configured.find key = none ∨
    ∃ n : ℕ, configured.find key = some (.int n) ∧ n ≤ maxBufferHeapSize

theorem accepted_bufferHeapSize_iff {path key : String} {configured : Fields} :
    Accepted (bufferHeapSize path key configured) ↔ SizeFits configured key := by
  constructor
  · rintro ⟨n, h⟩
    obtain ⟨i, hget, haccepts, rfl⟩ := integer_ok h
    simp only [decide_eq_true_eq] at haccepts
    rw [Fields.getOr] at hget
    cases hfind : configured.find key with
    | none => exact Or.inl hfind
    | some value =>
        rw [hfind, Option.getD_some] at hget
        refine Or.inr ⟨i.toNat, ?_, by omega⟩
        rw [hfind, hget, Int.toNat_of_nonneg haccepts.1]
  · intro h
    obtain ⟨n, hget, hle⟩ : ∃ n : ℕ,
        configured.getOr key (.int defaultBufferHeapSize) = .int n ∧
          n ≤ maxBufferHeapSize := by
      rw [Fields.getOr]
      rcases h with hfind | ⟨n, hfind, hle⟩
      · exact ⟨defaultBufferHeapSize, by rw [hfind, Option.getD_none], by decide⟩
      · exact ⟨n, by rw [hfind, Option.getD_some], hle⟩
    have haccepts : decide ((0 : Int) ≤ n ∧ (n : Int) ≤ maxBufferHeapSize) = true := by
      rw [decide_eq_true_eq]
      omega
    refine ⟨n, ?_⟩
    rw [bufferHeapSize, hget, integer, if_pos haccepts, Int.toNat_natCast]

/-- A heap size in the range of the loader. -/
theorem accepted_readBufferHeapSize_int {key : String} {configured : Fields}
    {i : Int} (hfind : configured.find key = some (.int i)) :
    Accepted (readBufferHeapSize (Value.dict configured).tree key) ↔
      0 ≤ i ∧ i ≤ maxBufferHeapSize := by
  have hmax : (maxBufferHeapSize : Int) = 2147483647 := rfl
  rw [readBufferHeapSize, find_tree, hfind, Option.map_some, Value.tree]
  split_ifs with hrange hnegative
  · have hbound : UInt64.ofNat i.toNat > 2147483647 ↔ 2147483647 < i.toNat := by
      rw [gt_iff_lt, UInt64.lt_iff_toNat_lt,
        UInt64.toNat_ofNat_of_lt' (by simp only [UInt64.size]; omega)]
      rfl
    dsimp only
    split_ifs with hlarge
    · rw [hbound] at hlarge
      simp only [Accepted, reduceCtorEq, exists_false, false_iff]
      omega
    · rw [hbound] at hlarge
      simp only [Accepted, Except.ok.injEq, exists_eq', true_iff]
      omega
  · dsimp only
    rw [if_pos hnegative.2]
    simp only [Accepted, reduceCtorEq, exists_false, false_iff]
    omega
  · simp only [Accepted, reduceCtorEq, exists_false, false_iff]
    omega

theorem sizeFits_int {key : String} {configured : Fields} {i : Int}
    (hfind : configured.find key = some (.int i)) :
    SizeFits configured key ↔ 0 ≤ i ∧ i ≤ maxBufferHeapSize := by
  rw [SizeFits, hfind]
  constructor
  · rintro (hnone | ⟨n, hint, hle⟩)
    · cases hnone
    · obtain rfl : i = n := Value.int.inj (Option.some.inj hint)
      omega
  · intro h
    exact Or.inr ⟨i.toNat, by rw [Int.toNat_of_nonneg h.1], by omega⟩

/-- The loader takes the same heap sizes. -/
theorem accepted_readBufferHeapSize_iff {key : String} {configured : Fields} :
    Accepted (readBufferHeapSize (Value.dict configured).tree key) ↔
      SizeFits configured key := by
  cases hfind : configured.find key with
  | none => simp [readBufferHeapSize, find_tree, SizeFits, hfind, Accepted]
  | some value =>
      cases value with
      | int i =>
          rw [accepted_readBufferHeapSize_int hfind, sizeFits_int hfind]
      | _ =>
          rw [readBufferHeapSize, find_tree, SizeFits, hfind, Option.map_some]
          simp [Accepted, Value.tree]

/-- The sizes that an entry configures. -/
def heapFields (fields : Fields) : Fields :=
  match fields.find "bufferHeap" with
  | some (.dict configured) => configured
  | _ => []

/-- The keys of the heap sizes. -/
def heapKeys : List String := ["requestSize", "responseSize", "feedbackSize"]

/-- `bufferHeap` is left out, or an object. -/
def HasHeap (fields : Fields) : Prop :=
  fields.find "bufferHeap" = none ∨
    ∃ configured, fields.find "bufferHeap" = some (.dict configured)

theorem configuredHeap_eq_ok_iff {fields : Fields} {path : String}
    {configured : Fields} :
    configuredHeap fields path = .ok configured ↔
      HasHeap fields ∧ configured = heapFields fields := by
  rw [configuredHeap, HasHeap, heapFields]
  cases hfind : fields.find "bufferHeap" with
  | none => simp [eq_comm]
  | some value => cases value <;> simp [object, eq_comm]

theorem accepted_bufferHeap_iff {fields : Fields} {index : ℕ} :
    Accepted (bufferHeap fields index) ↔
      HasHeap fields ∧ (heapFields fields).unknown heapKeys = [] ∧
        ∀ key ∈ heapKeys, SizeFits (heapFields fields) key := by
  constructor
  · rintro ⟨heap, h⟩
    unfold bufferHeap at h
    obtain ⟨configured, hconfigured, h⟩ := except_bind_eq_ok h
    obtain ⟨_, hunknown, h⟩ := except_bind_eq_ok h
    obtain ⟨request, hrequest, h⟩ := except_bind_eq_ok h
    obtain ⟨response, hresponse, h⟩ := except_bind_eq_ok h
    obtain ⟨feedback, hfeedback, -⟩ := except_bind_eq_ok h
    obtain ⟨hheap, rfl⟩ := configuredHeap_eq_ok_iff.mp hconfigured
    refine ⟨hheap, not_not.mp (refuseIf_eq_ok_iff.mp hunknown), ?_⟩
    simp only [heapKeys, List.forall_mem_cons, List.not_mem_nil,
      false_implies, implies_true, and_true]
    exact ⟨accepted_bufferHeapSize_iff.mp ⟨request, hrequest⟩,
      accepted_bufferHeapSize_iff.mp ⟨response, hresponse⟩,
      accepted_bufferHeapSize_iff.mp ⟨feedback, hfeedback⟩⟩
  · rintro ⟨hheap, hunknown, hfits⟩
    simp only [bufferHeap, accepted_bind_iff]
    refine ⟨heapFields fields, configuredHeap_eq_ok_iff.mpr ⟨hheap, rfl⟩, (),
      refuseIf_eq_ok_iff.mpr (not_not_intro hunknown), ?_⟩
    obtain ⟨request, hrequest⟩ := accepted_bufferHeapSize_iff.mpr
      (hfits "requestSize" (by decide))
    obtain ⟨response, hresponse⟩ := accepted_bufferHeapSize_iff.mpr
      (hfits "responseSize" (by decide))
    obtain ⟨feedback, hfeedback⟩ := accepted_bufferHeapSize_iff.mpr
      (hfits "feedbackSize" (by decide))
    exact ⟨request, hrequest, response, hresponse, feedback, hfeedback, _, rfl⟩

theorem accepted_readBufferHeap_iff {fields : Fields} :
    Accepted (readBufferHeap (Value.dict fields).tree) ↔
      HasHeap fields ∧ ∀ key ∈ heapKeys, SizeFits (heapFields fields) key := by
  rw [readBufferHeap, find_tree, HasHeap, heapFields]
  cases hfind : fields.find "bufferHeap" with
  | none => simp [Accepted, SizeFits, Fields.find]
  | some value =>
      rw [Option.map_some]
      cases value with
      | int i =>
          rw [Value.tree]
          split_ifs <;> simp [Accepted]
      | dict configured =>
          rw [Value.tree]
          dsimp only
          rw [← Value.tree]
          simp only [accepted_bind_iff, ← accepted_readBufferHeapSize_iff]
          simp [Accepted, heapKeys]
      | _ => simp [Accepted, Value.tree]

/-! ## Endpoints -/

/-- The loader accepts the endpoints that the generator does. -/
theorem accepted_readEndpoint {fields : Fields} {index : ℕ} {side node : String}
    (h : endpointNode fields index side = .ok node) :
    Accepted (readEndpoint (Value.dict fields).tree side) := by
  unfold endpointNode referencedNode at h
  obtain ⟨endpoint, hendpoint, h⟩ := except_bind_eq_ok h
  obtain ⟨_, hunknown, h⟩ := except_bind_eq_ok h
  have hknown : endpoint.unknown ["nodeId"] = [] :=
    not_not.mp (refuseIf_eq_ok_iff.mp hunknown)
  have hnone : endpoint.find "endpointId" = none :=
    Fields.find_of_unknown (by decide) hknown
  have hfind : fields.find side = some (.dict endpoint) := by
    have hget := object_ok hendpoint
    rw [Fields.get] at hget
    cases hfind : fields.find side with
    | none => simp [hfind] at hget
    | some value => simpa [hfind] using hget
  have hnode : readRequiredText (Value.dict endpoint).tree "nodeId" = .ok node :=
    readRequiredText_eq_ok_iff.mpr (text_get_eq_ok_iff.mp h)
  refine ⟨{ nodeId := node }, ?_⟩
  rw [readEndpoint, find_tree, hfind, Option.map_some, Value.tree]
  dsimp only
  rw [← Value.tree, hnode, find_tree, hnone]
  rfl

theorem endpointNode_set {fields : Fields} {index : ℕ} {side key : String}
    {value : Value} (hne : side ≠ key) :
    endpointNode (fields.set key value) index side =
      endpointNode fields index side := by
  rw [endpointNode, endpointNode, Fields.get, Fields.get,
    Fields.find_set_of_ne hne]

/-! ## Entries -/

/-- What the generator and the loader ask of an entry alike. -/
structure Limits (fields : Fields) : Prop where
  type : ∃ s, fields.find "type" = some (.str s) ∧ isPackageType s = true
  slots : SlotsFit fields
  heap : HasHeap fields ∧ ∀ key ∈ heapKeys, SizeFits (heapFields fields) key

/-- What the generator asks for beside. -/
structure Framed (fields : Fields) (index : ℕ) : Prop where
  known : fields.unknown actionKeys = []
  name : ∃ s, fields.find "name" = some (.str s) ∧ s ≠ ""
  client : Accepted
    (endpointNode fields index "clientEndpoint" >>= fun node => endpointId node)
  server : Accepted
    (endpointNode fields index "serverEndpoint" >>= fun node => endpointId node)
  heap : (heapFields fields).unknown heapKeys = []

theorem isPackageType_ne {s : String} (h : isPackageType s = true) : s ≠ "" := by
  rintro rfl
  exact absurd h (by decide)

theorem accepted_validateAction_iff {fields : Fields} {index : ℕ} :
    Accepted (validateAction (.dict fields) index) ↔
      Framed fields index ∧ Limits fields := by
  constructor
  · rintro ⟨a, h⟩
    obtain ⟨_, hfields, hvalid⟩ := validateAction_ok h
    obtain rfl := Value.dict.inj hfields
    obtain ⟨hhas, hknown, hfits⟩ :=
      accepted_bufferHeap_iff.mp ⟨_, hvalid.bufferHeap⟩
    have hclient := accepted_bind_iff.mpr
      ⟨_, hvalid.clientNode, _, hvalid.clientId⟩
    have hserver := accepted_bind_iff.mpr
      ⟨_, hvalid.serverNode, _, hvalid.serverId⟩
    have htype := (text_get_eq_ok_iff.mp hvalid.type).1
    exact ⟨⟨hvalid.known, ⟨_, text_get_eq_ok_iff.mp hvalid.name⟩, hclient,
        hserver, hknown⟩,
      ⟨⟨_, htype, hvalid.isPackageType⟩,
        ⟨_, slotCount_eq_ok_iff.mp hvalid.slotCount⟩, hhas, hfits⟩⟩
  · rintro ⟨hframed, hlimits⟩
    obtain ⟨name, hname⟩ := hframed.name
    obtain ⟨type, htype, hpackage⟩ := hlimits.type
    obtain ⟨count, hcount⟩ := hlimits.slots
    obtain ⟨clientNode, hclientNode, clientId, hclientId⟩ :=
      accepted_bind_iff.mp hframed.client
    obtain ⟨serverNode, hserverNode, serverId, hserverId⟩ :=
      accepted_bind_iff.mp hframed.server
    obtain ⟨heap, hheap⟩ : Accepted (bufferHeap fields index) :=
      accepted_bufferHeap_iff.mpr
        ⟨hlimits.heap.1, hframed.heap, hlimits.heap.2⟩
    simp only [validateAction, accepted_bind_iff]
    exact ⟨fields, rfl, (), refuseIf_eq_ok_iff.mpr (not_not_intro hframed.known),
      name, text_get_eq_ok_iff.mpr hname,
      type, text_get_eq_ok_iff.mpr ⟨htype, isPackageType_ne hpackage⟩,
      (), refuseIf_eq_ok_iff.mpr (not_not_intro hpackage),
      count, slotCount_eq_ok_iff.mpr hcount, clientNode, hclientNode,
      serverNode, hserverNode, heap, hheap, clientId, hclientId,
      serverId, hserverId, _, rfl⟩

theorem accepted_parseAction_iff {fields : Fields} {index : ℕ}
    (hframed : Framed fields index) :
    Accepted (parseAction (Value.dict fields).tree) ↔ Limits fields := by
  have hobject : ¬¬(Value.dict fields).tree.isObject = true :=
    not_not_intro rfl
  rw [parseAction, if_neg hobject]
  constructor
  · rintro ⟨d, h⟩
    obtain ⟨name, -, h⟩ := except_bind_eq_ok h
    obtain ⟨type, htype, h⟩ := except_bind_eq_ok h
    split_ifs at h with hpackage
    split at h
    · next count hcount =>
        split_ifs at h with hzero hmax
        obtain ⟨client, -, h⟩ := except_bind_eq_ok h
        obtain ⟨server, -, h⟩ := except_bind_eq_ok h
        obtain ⟨heap, hheap, -⟩ := except_bind_eq_ok h
        refine ⟨⟨type, (readRequiredText_eq_ok_iff.mp htype).1, ?_⟩,
          slotsFit_iff.mpr ⟨count, hcount, hzero, hmax⟩,
          accepted_readBufferHeap_iff.mp ⟨heap, hheap⟩⟩
        rw [isPackageType_eq]
        exact hpackage
    · cases h
  · intro hlimits
    obtain ⟨name, hname⟩ := hframed.name
    obtain ⟨type, htype, hpackage⟩ := hlimits.type
    obtain ⟨count, hcount, hzero, hmax⟩ := slotsFit_iff.mp hlimits.slots
    obtain ⟨clientNode, hclientNode, -⟩ := accepted_bind_iff.mp hframed.client
    obtain ⟨serverNode, hserverNode, -⟩ := accepted_bind_iff.mp hframed.server
    obtain ⟨client, hclient⟩ := accepted_readEndpoint hclientNode
    obtain ⟨server, hserver⟩ := accepted_readEndpoint hserverNode
    obtain ⟨heap, hheap⟩ := accepted_readBufferHeap_iff.mpr hlimits.heap
    rw [isPackageType_eq] at hpackage
    rw [accepted_bind_iff]
    refine ⟨name, readRequiredText_eq_ok_iff.mpr hname, ?_⟩
    rw [accepted_bind_iff]
    refine ⟨type, readRequiredText_eq_ok_iff.mpr ⟨htype, ?_⟩, ?_⟩
    · rintro rfl
      exact absurd hpackage (by decide)
    · rw [if_neg (not_not_intro hpackage), hcount]
      dsimp only
      rw [if_neg hzero, if_neg hmax, hclient, hserver, hheap]
      exact ⟨_, rfl⟩

/-- Within the frame of the generator, the two sides accept the same entries. -/
theorem accepted_iff_of_framed {fields : Fields} {index : ℕ}
    (hframed : Framed fields index) :
    Accepted (validateAction (.dict fields) index) ↔
      Accepted (parseAction (Value.dict fields).tree) := by
  rw [accepted_validateAction_iff, accepted_parseAction_iff hframed]
  exact ⟨And.right, fun h => ⟨hframed, h⟩⟩

/-! ## A change of one value -/

theorem heapFields_set {fields : Fields} {key : String} {value : Value}
    (hne : "bufferHeap" ≠ key) :
    heapFields (fields.set key value) = heapFields fields := by
  rw [heapFields, heapFields, Fields.find_set_of_ne hne]

/-- A change of a slot count, of the type or of the heap keeps the frame. -/
theorem Framed.set {fields : Fields} {index : ℕ} (h : Framed fields index)
    {key : String} (hkey : key ∈ ["slotCount", "type", "bufferHeap"])
    {value : Value}
    (hheap : (heapFields (fields.set key value)).unknown heapKeys = []) :
    Framed (fields.set key value) index := by
  obtain ⟨hallowed, hname, hclient, hserver⟩ :
      key ∈ actionKeys ∧ "name" ≠ key ∧ "clientEndpoint" ≠ key ∧
        "serverEndpoint" ≠ key := by
    simp only [List.mem_cons, List.not_mem_nil, or_false] at hkey
    rcases hkey with rfl | rfl | rfl <;> decide
  refine ⟨Fields.unknown_set hallowed h.known, ?_, ?_, ?_, hheap⟩
  · rw [Fields.find_set_of_ne hname]
    exact h.name
  · rw [endpointNode_set hclient]
    exact h.client
  · rw [endpointNode_set hserver]
    exact h.server

/-- The generator and the loader agree on every slot count. -/
theorem slotCount_agrees {fields : Fields} {index : ℕ} (h : Framed fields index)
    (n : Int) :
    Accepted (validateAction (.dict (fields.set "slotCount" (.int n))) index) ↔
      Accepted
        (parseAction (Value.dict (fields.set "slotCount" (.int n))).tree) := by
  refine accepted_iff_of_framed (h.set (by decide) ?_)
  rw [heapFields_set (by decide)]
  exact h.heap

theorem type_agrees {fields : Fields} {index : ℕ} (h : Framed fields index)
    (type : String) :
    Accepted (validateAction (.dict (fields.set "type" (.str type))) index) ↔
      Accepted
        (parseAction (Value.dict (fields.set "type" (.str type))).tree) := by
  refine accepted_iff_of_framed (h.set (by decide) ?_)
  rw [heapFields_set (by decide)]
  exact h.heap

/-- `fields["bufferHeap"][key] = n`. -/
def setHeap (key : String) (n : Int) (fields : Fields) : Fields :=
  fields.set "bufferHeap" (.dict ((heapFields fields).set key (.int n)))

theorem heap_agrees {fields : Fields} {index : ℕ} (h : Framed fields index)
    {key : String} (hkey : key ∈ heapKeys) (n : Int) :
    Accepted (validateAction (.dict (setHeap key n fields)) index) ↔
      Accepted (parseAction (Value.dict (setHeap key n fields)).tree) := by
  refine accepted_iff_of_framed (h.set (by decide) ?_)
  rw [heapFields, Fields.find_set]
  exact Fields.unknown_set hkey h.heap

end ActionManifest
end Config
end HakoPduRpc
