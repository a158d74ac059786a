import HakoPduRpc.Action.Types
import Mathlib.Data.List.Forall2
import Mathlib.Data.List.Nodup

/-!
# Action configurations

`action_configuration.cpp` over a JSON document: `parseAction` reads one Action
entry, `parse` the whole document.  Errors carry the texts of the source.

Two facts are used later: the parsed Actions have pairwise distinct names, and
each of them is what `parseAction` reads from its own entry.
-/

namespace HakoPduRpc.Action

/-- A JSON value with the number classes that `nlohmann::json` tells apart. -/
inductive Json
  | null
  | boolean (value : Bool)
  | numberInteger (value : Int)
  | numberUnsigned (value : UInt64)
  | numberFloat (text : String)
  | string (value : String)
  | array (items : List Json)
  | object (fields : List (String × Json))

namespace Json

/-- `object.find(key)`; a value that is not an object has no members. -/
def find (key : String) : Json → Option Json
  | object fields => (fields.find? fun field => field.1 = key).map Prod.snd
  | _ => none

def isObject : Json → Bool
  | object _ => true
  | _ => false

end Json

inductive ActionChannelKind
  | request
  | response
  | feedback
deriving DecidableEq, Repr

structure ActionEndpointReference where
  nodeId : String
  endpointId : String := ""
deriving DecidableEq, Repr

/-- The endpoint id that the services look up: `endpointId`, or `nodeId` when
it is empty. -/
def ActionEndpointReference.lookupId (r : ActionEndpointReference) : String :=
  if r.endpointId = "" then r.nodeId else r.endpointId

/-- `ActionChannelDefinition`. -/
structure ActionChannelDefinition where
  slotIndex : ℕ
  kind : ActionChannelKind
  channelId : UInt32
  channelName : String
  packetType : String
deriving DecidableEq, Repr

/-- `ActionBufferHeap::DEFAULT_SIZE`. -/
def defaultHeapSize : UInt64 := 1024 * 1024

structure ActionBufferHeap where
  requestSize : UInt64 := defaultHeapSize
  responseSize : UInt64 := defaultHeapSize
  feedbackSize : UInt64 := defaultHeapSize
deriving DecidableEq, Repr

structure ActionDefinition where
  name : String
  type : String
  slotCount : ℕ
  bufferHeap : ActionBufferHeap
  clientEndpoint : ActionEndpointReference
  serverEndpoint : ActionEndpointReference
  channels : List ActionChannelDefinition
deriving DecidableEq, Repr

/-- `read_required_text`. -/
def readRequiredText (object : Json) (key : String) : Except String String :=
  match object.find key with
  | some (.string value) =>
      if value = "" then .error s!"'{key}' must be a non-empty string"
      else .ok value
  | _ => .error s!"'{key}' must be a non-empty string"

/-- `read_endpoint`. -/
def readEndpoint (action : Json) (key : String) :
    Except String ActionEndpointReference :=
  match action.find key with
  | some (.object fields) => do
      let nodeId ← readRequiredText (.object fields) "nodeId"
      match (Json.object fields).find "endpointId" with
      | none => .ok { nodeId := nodeId }
      | some (.string value) =>
          if value = "" then
            .error "'endpointId' must be a non-empty string when present"
          else .ok { nodeId := nodeId, endpointId := value }
      | some _ => .error "'endpointId' must be a non-empty string when present"
  | _ => .error s!"'{key}' must be an object"

/-- `read_buffer_heap_size`. -/
def readBufferHeapSize (object : Json) (key : String) :
    Except String UInt64 :=
  let bounded (value : UInt64) : Except String UInt64 :=
    if value > 2147483647 then
      .error s!"'bufferHeap.{key}' exceeds the supported allocation range"
    else .ok value
  match object.find key with
  | none => .ok defaultHeapSize
  | some (.numberUnsigned value) => bounded value
  | some (.numberInteger value) =>
      if value < 0 then
        .error s!"'bufferHeap.{key}' must be a non-negative integer"
      else bounded (UInt64.ofNat value.toNat)
  | some _ => .error s!"'bufferHeap.{key}' must be a non-negative integer"

/-- `read_buffer_heap`. -/
def readBufferHeap (action : Json) : Except String ActionBufferHeap :=
  match action.find "bufferHeap" with
  | none => .ok {}
  | some (.object fields) => do
      let requestSize ← readBufferHeapSize (.object fields) "requestSize"
      let responseSize ← readBufferHeapSize (.object fields) "responseSize"
      let feedbackSize ← readBufferHeapSize (.object fields) "feedbackSize"
      .ok { requestSize, responseSize, feedbackSize }
  | some _ => .error "'bufferHeap' must be an object"

/-- `append_slot_channels`: the three channels of one slot. -/
def slotChannels (type : String) (slot : ℕ) : List ActionChannelDefinition :=
  let baseId := UInt32.ofNat (slot * 3)
  [{ slotIndex := slot
     kind := .request
     channelId := baseId
     channelName := s!"Slot{slot}Request"
     packetType := type ++ "Action" ++ "Request" },
   { slotIndex := slot
     kind := .response
     channelId := baseId + 1
     channelName := s!"Slot{slot}Response"
     packetType := type ++ "Action" ++ "Response" },
   { slotIndex := slot
     kind := .feedback
     channelId := baseId + 2
     channelName := s!"Slot{slot}Feedback"
     packetType := type ++ "Action" ++ "Feedback" }]

/-- The `package/ActionName` test of `parse_action`. -/
def isPackageType (type : String) : Bool :=
  match type.toList.findIdx? (· = '/') with
  | none => false
  | some separator =>
      separator ≠ 0 ∧ separator + 1 ≠ type.toList.length ∧
        '/' ∉ type.toList.drop (separator + 1)

/-- `max_slot_count` of `parse_action`. -/
def maxSlotCount : UInt64 := (4294967295 - 2) / 3 + 1

/-- `ActionConfigurationLoader::parse_action`. -/
def parseAction (action : Json) : Except String ActionDefinition :=
  if ¬action.isObject then .error "Action entry must be an object"
  else do
    let name ← readRequiredText action "name"
    let type ← readRequiredText action "type"
    if ¬isPackageType type then
      .error "'type' must use package/ActionName format"
    else
      match action.find "slotCount" with
      | some (.numberUnsigned slotCount) =>
          if slotCount = 0 then
            .error "'slotCount' must be a positive integer"
          else if slotCount > maxSlotCount then
            .error "'slotCount' exceeds the logical channel ID range"
          else do
            let clientEndpoint ← readEndpoint action "clientEndpoint"
            let serverEndpoint ← readEndpoint action "serverEndpoint"
            let bufferHeap ← readBufferHeap action
            .ok
              { name
                type
                slotCount := slotCount.toNat
                bufferHeap
                clientEndpoint
                serverEndpoint
                channels :=
                  (List.range slotCount.toNat).flatMap (slotChannels type) }
      | _ => .error "'slotCount' must be a positive integer"

/-- The loop of `ActionConfigurationLoader::parse`; `names` is the set of names
seen so far. -/
def parseActions (names : List String) :
    List Json → Except String (List ActionDefinition)
  | [] => .ok []
  | action :: rest =>
      match parseAction action with
      | .error message => .error s!"invalid Action definition: {message}"
      | .ok definition =>
          if definition.name ∈ names then
            .error s!"duplicate Action name: {definition.name}"
          else
            match parseActions (definition.name :: names) rest with
            | .error message => .error message
            | .ok parsed => .ok (definition :: parsed)

/-- `ActionConfigurationLoader::parse`. -/
def parse (root : Json) : Except String (List ActionDefinition) :=
  if ¬root.isObject then .error "Action configuration root must be an object"
  else
    match root.find "actions" with
    | some (.array actions) =>
        if actions.isEmpty then .error "'actions' must be a non-empty array"
        else parseActions [] actions
    | _ => .error "'actions' must be a non-empty array"

/-- `config/sample/action.json` without packet heaps. -/
def fibonacciConfiguration (slotCount : UInt64) : Json :=
  .object
    [("version", .numberUnsigned 1),
     ("actions", .array
       [.object
         [("name", .string "fibonacci"),
          ("type", .string "sample_action_msgs/Fibonacci"),
          ("slotCount", .numberUnsigned slotCount),
          ("bufferHeap", .object
            [("requestSize", .numberUnsigned 0),
             ("responseSize", .numberUnsigned 0),
             ("feedbackSize", .numberUnsigned 0)]),
          ("clientEndpoint", .object
            [("nodeId", .string "fibonacci-client")]),
          ("serverEndpoint", .object
            [("nodeId", .string "fibonacci-server")])]])]

/-! ## What a parsed configuration satisfies -/

theorem parseActions_ok {names : List String} {entries : List Json}
    {parsed : List ActionDefinition}
    (h : parseActions names entries = .ok parsed) :
    List.Forall₂ (fun e d => parseAction e = .ok d) entries parsed ∧
      (parsed.map ActionDefinition.name).Nodup ∧
      ∀ d ∈ parsed, d.name ∉ names := by
  induction entries generalizing names parsed with
  | nil =>
      simp only [parseActions, Except.ok.injEq] at h
      subst h
      simp
  | cons e entries ih =>
      simp only [parseActions] at h
      split at h
      · simp at h
      · next d hd =>
          split_ifs at h with hmem
          split at h
          · simp at h
          · next rest hrest =>
              obtain ⟨hall, hnodup, hnew⟩ := ih hrest
              simp only [Except.ok.injEq] at h
              subst h
              refine ⟨List.Forall₂.cons hd hall, ?_, ?_⟩
              · simp only [List.map_cons, List.nodup_cons, List.mem_map]
                refine ⟨?_, hnodup⟩
                rintro ⟨d', hd', hname⟩
                exact hnew d' hd' (by simp [hname])
              · intro d' hd'
                rcases List.mem_cons.mp hd' with rfl | hd'
                · exact hmem
                · exact fun hold => hnew d' hd' (by simp [hold])

theorem parse_ok {root : Json} {parsed : List ActionDefinition}
    (h : parse root = .ok parsed) :
    ∃ entries, root.find "actions" = some (.array entries) ∧
      parseActions [] entries = .ok parsed := by
  unfold parse at h
  split_ifs at h
  split at h
  · next entries hentries =>
      split_ifs at h
      exact ⟨entries, hentries, h⟩
  · simp at h

/-- No two Actions of a document have one name. -/
theorem nodup_names_zip {root : Json} {definitions : List ActionDefinition}
    {entries : List Json} (hparse : parse root = .ok definitions)
    (hentries : root.find "actions" = some (.array entries)) :
    ((definitions.zip entries).map fun x => x.1.name).Nodup := by
  obtain ⟨entries', hentries', hparsed⟩ := parse_ok hparse
  obtain rfl : entries = entries' := by simpa [hentries] using hentries'
  obtain ⟨hentry, hnames, -⟩ := parseActions_ok hparsed
  have hfst : (definitions.zip entries).map Prod.fst = definitions :=
    List.map_fst_zip hentry.length_eq.ge
  have hzip : (definitions.zip entries).map (fun x => x.1.name) =
      definitions.map ActionDefinition.name := by
    calc (definitions.zip entries).map (fun x => x.1.name)
        = ((definitions.zip entries).map Prod.fst).map
            ActionDefinition.name := by rw [List.map_map]; rfl
      _ = definitions.map ActionDefinition.name := by rw [hfst]
  rw [hzip]
  exact hnames

theorem except_bind_eq_ok {ε α β : Type} {x : Except ε α} {f : α → Except ε β}
    {b : β} (h : (x >>= f) = .ok b) : ∃ a, x = .ok a ∧ f a = .ok b := by
  cases x with
  | error e => simp [bind, Except.bind] at h
  | ok a => exact ⟨a, rfl, h⟩

/-- A parsed Action has the three channels of every slot, in order, and at most
`maxSlotCount` slots. -/
theorem parseAction_ok {action : Json} {d : ActionDefinition}
    (h : parseAction action = .ok d) :
    d.channels = (List.range d.slotCount).flatMap (slotChannels d.type) ∧
      d.slotCount ≤ maxSlotCount.toNat := by
  unfold parseAction at h
  split_ifs at h
  obtain ⟨name, -, h⟩ := except_bind_eq_ok h
  obtain ⟨type, -, h⟩ := except_bind_eq_ok h
  split_ifs at h
  split at h
  · next slotCount _ =>
      split_ifs at h with _ hmax
      obtain ⟨clientEndpoint, -, h⟩ := except_bind_eq_ok h
      obtain ⟨serverEndpoint, -, h⟩ := except_bind_eq_ok h
      obtain ⟨bufferHeap, -, h⟩ := except_bind_eq_ok h
      simp only [Except.ok.injEq] at h
      subst h
      exact ⟨rfl, UInt64.le_iff_toNat_le.mp (UInt64.not_lt.mp hmax)⟩
  · simp at h

/-- A parsed Action has a name. -/
theorem parseAction_name_ne {action : Json} {d : ActionDefinition}
    (h : parseAction action = .ok d) : d.name ≠ "" := by
  unfold parseAction at h
  split_ifs at h
  obtain ⟨name, hname, h⟩ := except_bind_eq_ok h
  have hne : name ≠ "" := by
    unfold readRequiredText at hname
    split at hname
    · split_ifs at hname with hvalue
      rw [← Except.ok.inj hname]
      exact hvalue
    · simp at hname
  obtain ⟨type, -, h⟩ := except_bind_eq_ok h
  split_ifs at h
  split at h
  · split_ifs at h
    obtain ⟨clientEndpoint, -, h⟩ := except_bind_eq_ok h
    obtain ⟨serverEndpoint, -, h⟩ := except_bind_eq_ok h
    obtain ⟨bufferHeap, -, h⟩ := except_bind_eq_ok h
    rw [← Except.ok.inj h]
    exact hne
  · simp at h

theorem parseActions_name_ne {names : List String} {entries : List Json}
    {parsed : List ActionDefinition}
    (h : parseActions names entries = .ok parsed) :
    "" ∉ parsed.map ActionDefinition.name := by
  have hentry := (parseActions_ok h).1
  rw [List.mem_map]
  rintro ⟨d, hd, hname⟩
  clear h
  induction hentry with
  | nil => simp at hd
  | cons hparse _ ih =>
      rcases List.mem_cons.mp hd with rfl | hd
      · exact parseAction_name_ne hparse hname
      · exact ih hd

end HakoPduRpc.Action
