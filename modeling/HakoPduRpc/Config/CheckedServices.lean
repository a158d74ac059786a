import HakoPduRpc.Config.ServiceCheck

/-!
# What the checker of Service configurations accepts

`check_rpc_semantics` walks through a document with sets of the names and channel
ids that it has seen.  `Consistent` says without any walk what it looks for, and
`checkRpcSemantics_eq_nil_iff` that the checker has nothing to report about a
schema-valid document exactly when it is consistent.

The schema is `config/schema/service-schema.json`, and for the endpoints
`config/schema/endpoints-schema.json`.
-/

namespace HakoPduRpc
namespace Config
namespace CheckedServices

open ServiceCheck

/-! ## Schemas -/

/-- A schema is what it accepts. -/
abbrev Schema := Value → Prop

/-- `"type": "string"`. -/
def string : Schema := fun value => ∃ s, value = .str s

/-- A string that is not empty. -/
def text : Schema := fun value => ∃ s, value = .str s ∧ s ≠ ""

/-- `"type": "integer"`, for a number that Python reads as an `int`. -/
def integer : Schema := fun value => ∃ n, value = .int n

/-- `"type": "array"`. -/
def array (items : Schema) : Schema := fun value =>
  ∃ entries, value = .list entries ∧ ∀ entry ∈ entries, items entry

/-- `"type": "object"`. -/
def object (properties : List (String × Schema)) (required : List String) :
    Schema := fun value =>
  ∃ fields : Fields, value = .dict fields ∧
    (∀ property ∈ properties, ∀ member,
      fields.find property.1 = some member → property.2 member) ∧
    ∀ key ∈ required, (fields.find key).isSome

@[simp] theorem string_str (s : String) : string (.str s) := ⟨s, rfl⟩

@[simp] theorem text_str {s : String} : text (.str s) ↔ s ≠ "" := by
  simp [text]

@[simp] theorem integer_int (n : Int) : integer (.int n) := ⟨n, rfl⟩

@[simp] theorem array_list {items : Schema} {entries : List Value} :
    array items (.list entries) ↔ ∀ entry ∈ entries, items entry := by
  simp [array]

@[simp] theorem object_dict {properties : List (String × Schema)}
    {required : List String} {fields : Fields} :
    object properties required (.dict fields) ↔
      (∀ property ∈ properties, ∀ member,
        fields.find property.1 = some member → property.2 member) ∧
      ∀ key ∈ required, (fields.find key).isSome := by
  simp [object]

/-- A node of `endpoints`; `name` is the schema of names and ids, `string` in the
file. -/
def nodeSchema (name : Schema) : Schema :=
  object
    [("nodeId", name),
     ("endpoints", array
       (object [("id", name), ("config_path", string)] ["id", "config_path"]))]
    ["nodeId", "endpoints"]

/-- `endpoints-schema.json`. -/
def endpointsSchema (name : Schema) : Schema := array (nodeSchema name)

/-- A reference to an endpoint. -/
def referenceSchema (name : Schema) : Schema :=
  object [("nodeId", name), ("endpointId", name)] ["nodeId", "endpointId"]

/-- The sizes of the PDUs of one side. -/
def sizeSchema : Schema :=
  object [("heapSize", integer), ("baseSize", integer)]
    ["heapSize", "baseSize"]

def clientSchema (name : Schema) : Schema :=
  object
    [("name", name),
     ("comment", string),
     ("requestChannelId", integer),
     ("responseChannelId", integer),
     ("client_endpoint", referenceSchema name)]
    ["name", "requestChannelId", "responseChannelId", "client_endpoint"]

def serviceEntrySchema (name : Schema) : Schema :=
  object
    [("name", name),
     ("type", string),
     ("maxClients", integer),
     ("pduSize", object [("server", sizeSchema), ("client", sizeSchema)]
       ["server", "client"]),
     ("server_endpoints", array (referenceSchema name)),
     ("clients", array (clientSchema name))]
    ["name", "type", "maxClients", "pduSize", "server_endpoints", "clients"]

/-- `service-schema.json`. -/
def serviceSchema (name : Schema) : Schema :=
  object
    [("pduMetaDataSize", integer),
     ("endpoints", array (nodeSchema name)),
     ("services", array (serviceEntrySchema name))]
    ["services"]

/-- A required property has the schema that is declared for it. -/
theorem required_get {properties : List (String × Schema)}
    {required : List String} {fields : Fields} {key : String} {schema : Schema}
    (h : object properties required (.dict fields))
    (hproperty : (key, schema) ∈ properties) (hkey : key ∈ required) :
    schema (fields.get key) := by
  obtain ⟨hproperties, hrequired⟩ := object_dict.mp h
  obtain ⟨member, hmember⟩ := Option.isSome_iff_exists.mp (hrequired key hkey)
  rw [Fields.get, hmember]
  exact hproperties _ hproperty member hmember

/-! ## Reading a document -/

/-- The text under a key. -/
def textAt (key : String) (fields : Fields) : String :=
  match fields.get key with
  | .str value => value
  | _ => ""

/-- The number under a key. -/
def intAt (key : String) (fields : Fields) : Int :=
  match fields.get key with
  | .int value => value
  | _ => 0

/-- The fields of an object. -/
def fieldsOf : Value → Fields
  | .dict fields => fields
  | _ => []

/-- The objects in an array. -/
def entriesOf : Value → List Fields
  | .list entries => entries.map fieldsOf
  | _ => []

/-- The objects in the array under a key. -/
def entriesAt (key : String) (fields : Fields) : List Fields :=
  entriesOf (fields.get key)

/-! ## Consistency -/

/-- The endpoint that a reference names is listed under some entry of its
node. -/
def Listed (endpoints : Value) (reference : Fields) : Prop :=
  ∃ node ∈ entriesOf endpoints,
    textAt "nodeId" node = textAt "nodeId" reference ∧
    ∃ endpoint ∈ entriesAt "endpoints" node,
      textAt "id" endpoint = textAt "endpointId" reference

/-- The two channels of a client. -/
def channelsOf (client : Fields) : List Int :=
  [intAt "requestChannelId" client, intAt "responseChannelId" client]

/-- What is asked of one service. -/
structure ConsistentService (endpoints : Value) (service : Fields) : Prop where
  count : ((entriesAt "clients" service).length : Int) ≤
    intAt "maxClients" service
  clientNames : ((entriesAt "clients" service).map (textAt "name")).Nodup
  channels : ((entriesAt "clients" service).flatMap channelsOf).Nodup
  servers : entriesOf endpoints ≠ [] →
    ∀ reference ∈ entriesAt "server_endpoints" service,
      Listed endpoints reference
  clients : entriesOf endpoints ≠ [] →
    ∀ client ∈ entriesAt "clients" service,
      Listed endpoints (fieldsOf (client.get "client_endpoint"))

/-- A consistent configuration. -/
structure Consistent (document : Fields) (endpoints : Value) : Prop where
  metadata : ∀ size, Fields.find "pduMetaDataSize" document = some (.int size) →
    size = 24
  names : ((entriesAt "services" document).map (textAt "name")).Nodup
  services : ∀ service ∈ entriesAt "services" document,
    ConsistentService endpoints service

/-! ## Sets of what was seen -/

/-- The items are distinct and none of them was seen before. -/
def Fresh {α : Type} (seen items : List α) : Prop :=
  items.Nodup ∧ ∀ item ∈ items, item ∉ seen

section Fresh

variable {α : Type} {seen items : List α} {item : α}

@[simp] theorem fresh_nil : Fresh seen [] := ⟨List.nodup_nil, by simp⟩

@[simp] theorem fresh_cons :
    Fresh seen (item :: items) ↔ item ∉ seen ∧ Fresh (item :: seen) items := by
  constructor
  · rintro ⟨hnodup, hnew⟩
    obtain ⟨hitem, hnodup⟩ := List.nodup_cons.mp hnodup
    refine ⟨hnew item List.mem_cons_self, hnodup, ?_⟩
    intro other hother hmem
    rcases List.mem_cons.mp hmem with rfl | hseen
    · exact hitem hother
    · exact hnew other (List.mem_cons_of_mem _ hother) hseen
  · rintro ⟨hitem, hnodup, hnew⟩
    refine ⟨List.nodup_cons.mpr ⟨?_, hnodup⟩, ?_⟩
    · intro hmem
      exact hnew item hmem List.mem_cons_self
    · intro other hother
      rcases List.mem_cons.mp hother with rfl | hother
      · exact hitem
      · exact fun hseen => hnew other hother (List.mem_cons_of_mem _ hseen)

@[simp] theorem fresh_from_nil : Fresh [] items ↔ items.Nodup := by
  simp [Fresh]

end Fresh

/-! ## References -/

theorem asText_get {fields : Fields} {key : String} (h : text (fields.get key)) :
    asText (fields.get key) = some (textAt key fields) := by
  obtain ⟨value, hvalue, hne⟩ := h
  rw [textAt, hvalue]
  exact asText_str hne

theorem asInt_get {fields : Fields} {key : String}
    (h : integer (fields.get key)) :
    asInt (fields.get key) =
      some (intAt key fields, toString (intAt key fields)) := by
  obtain ⟨value, hvalue⟩ := h
  rw [intAt, hvalue]
  rfl

theorem dict_of_object {properties : List (String × Schema)}
    {required : List String} {value : Value}
    (h : object properties required value) :
    value = .dict (fieldsOf value) := by
  obtain ⟨fields, rfl, -⟩ := h
  rfl

/-- The endpoint ids of a node are those of its entries. -/
theorem endpointIds_eq {node : Fields} (h : nodeSchema text (.dict node)) :
    endpointIds (node.get "endpoints") =
      (entriesAt "endpoints" node).map (textAt "id") := by
  obtain ⟨entries, hget, hentries⟩ : array _ (node.get "endpoints") :=
    required_get h (List.mem_cons_of_mem _ List.mem_cons_self) (by simp)
  rw [entriesAt, hget, endpointIds, entriesOf, List.map_map]
  clear hget
  induction entries with
  | nil => rfl
  | cons entry entries ih =>
      have hentry := hentries entry List.mem_cons_self
      obtain ⟨fields, rfl⟩ : ∃ fields, entry = .dict fields :=
        ⟨_, dict_of_object hentry⟩
      have hid : entryId (.dict fields) = some (textAt "id" fields) :=
        asText_get (required_get hentry List.mem_cons_self (by simp))
      rw [List.filterMap_cons_some hid,
        ih fun other hother => hentries other (List.mem_cons_of_mem _ hother)]
      rfl

/-- The index has one entry for each node of the list. -/
theorem buildEndpointIndex_eq {endpoints : Value}
    (h : endpointsSchema text endpoints) :
    buildEndpointIndex endpoints = (entriesOf endpoints).map fun node =>
      (textAt "nodeId" node,
        (entriesAt "endpoints" node).map (textAt "id")) := by
  obtain ⟨nodes, rfl, hnodes⟩ := h
  rw [buildEndpointIndex, entriesOf, List.map_map]
  induction nodes with
  | nil => rfl
  | cons node nodes ih =>
      have hnode := hnodes node List.mem_cons_self
      obtain ⟨fields, rfl⟩ : ∃ fields, node = .dict fields :=
        ⟨_, dict_of_object hnode⟩
      have hid : indexEntry (.dict fields) = some (textAt "nodeId" fields,
          (entriesAt "endpoints" fields).map (textAt "id")) := by
        rw [indexEntry, asText_get (required_get hnode List.mem_cons_self
          (by simp)), endpointIds_eq hnode]
        rfl
      rw [List.filterMap_cons_some hid,
        ih fun other hother => hnodes other (List.mem_cons_of_mem _ hother)]
      rfl

/-- A reference is reported unless its endpoint is listed. -/
theorem referenceMessages_eq_nil_iff {endpoints : Value} {reference : Fields}
    (lead : String) (hendpoints : endpointsSchema text endpoints)
    (h : referenceSchema text (.dict reference)) :
    referenceMessages (buildEndpointIndex endpoints) lead reference = [] ↔
      Listed endpoints reference := by
  rw [referenceMessages, asText_get (required_get h List.mem_cons_self
    (by simp)), asText_get (required_get h (List.mem_cons_of_mem _
      List.mem_cons_self) (by simp)), buildEndpointIndex_eq hendpoints]
  dsimp only
  have hids : textAt "endpointId" reference ∈ idsOf
      ((entriesOf endpoints).map fun node => (textAt "nodeId" node,
        (entriesAt "endpoints" node).map (textAt "id")))
      (textAt "nodeId" reference) ↔ Listed endpoints reference := by
    simp only [idsOf, List.mem_flatMap, List.mem_map, Listed]
    constructor
    · rintro ⟨_, ⟨node, hnode, rfl⟩, hid⟩
      split_ifs at hid with hname
      · obtain ⟨endpoint, hendpoint, heq⟩ := List.mem_map.mp hid
        exact ⟨node, hnode, hname, endpoint, hendpoint, heq⟩
      · simp at hid
    · rintro ⟨node, hnode, hname, endpoint, hendpoint, heq⟩
      refine ⟨_, ⟨node, hnode, rfl⟩, ?_⟩
      rw [if_pos hname]
      exact List.mem_map.mpr ⟨endpoint, hendpoint, heq⟩
  constructor
  · intro hnil
    split_ifs at hnil with hnode hlisted
    exact hids.mp hlisted
  · intro hlisted
    have hid := hids.mpr hlisted
    obtain ⟨node, hnode, hname, -⟩ := hlisted
    have hmem : textAt "nodeId" reference ∈ List.map Prod.fst
        ((entriesOf endpoints).map fun node => (textAt "nodeId" node,
          (entriesAt "endpoints" node).map (textAt "id"))) := by
      rw [List.map_map]
      exact List.mem_map.mpr ⟨node, hnode, hname⟩
    rw [if_neg (not_not_intro hmem), if_neg (not_not_intro hid)]

/-! ## Clients -/

section

variable {endpoints : Value}

theorem isEmpty_index_iff (h : endpointsSchema text endpoints) :
    (buildEndpointIndex endpoints).isEmpty = true ↔
      entriesOf endpoints = [] := by
  rw [buildEndpointIndex_eq h, List.isEmpty_iff, List.map_eq_nil_iff]

/-- Without endpoints nothing is reported about references. -/
theorem guarded_eq_nil_iff (h : endpointsSchema text endpoints)
    {messages : List String} {listed : Prop}
    (hmessages : messages = [] ↔ listed) :
    (if (buildEndpointIndex endpoints).isEmpty = true then [] else messages) =
        [] ↔ (entriesOf endpoints ≠ [] → listed) := by
  by_cases hnone : entriesOf endpoints = []
  · simp [(isEmpty_index_iff h).mpr hnone, hnone]
  · rw [if_neg (mt (isEmpty_index_iff h).mp hnone), hmessages]
    exact ⟨fun hlisted _ => hlisted, fun hlisted => hlisted hnone⟩

/-- The references of a list are reported unless all of them are listed. -/
theorem serverMessages_eq_nil_iff (hendpoints : endpointsSchema text endpoints)
    {references : List Value}
    (h : ∀ reference ∈ references, referenceSchema text reference)
    (lead : String) (ei : ℕ) :
    serverMessages (buildEndpointIndex endpoints) lead ei references = [] ↔
      ∀ reference ∈ references.map fieldsOf, Listed endpoints reference := by
  induction references generalizing ei with
  | nil => simp [serverMessages]
  | cons reference references ih =>
      have hreference := h reference List.mem_cons_self
      have hrest := ih fun other hother => h other (List.mem_cons_of_mem _ hother)
      obtain ⟨fields, rfl⟩ : ∃ fields, reference = .dict fields :=
        ⟨_, dict_of_object hreference⟩
      rw [serverMessages, List.append_eq_nil_iff, hrest,
        referenceMessages_eq_nil_iff _ hendpoints hreference, List.map_cons,
        List.forall_mem_cons]
      rfl

theorem clientNameMessages_get {client : Fields} (lead : String)
    (names : List String) (h : text (client.get "name")) :
    ((clientNameMessages lead names client).1 = [] ↔
        textAt "name" client ∉ names) ∧
      (clientNameMessages lead names client).2 =
        textAt "name" client :: names := by
  rw [clientNameMessages, asText_get h]
  dsimp only
  refine ⟨?_, rfl⟩
  split_ifs with hname <;> simp [hname]

theorem channelMessages_get {client : Fields} (lead key : String)
    (used : List Int) (h : integer (client.get key)) :
    ((channelMessages lead key used client).1 = [] ↔
        intAt key client ∉ used) ∧
      (channelMessages lead key used client).2 = intAt key client :: used := by
  rw [channelMessages, asInt_get h]
  dsimp only
  refine ⟨?_, rfl⟩
  split_ifs with hused <;> simp [hused]

/-- The clients of a service are reported unless their names and channels are new
and their endpoints are listed. -/
theorem clientMessages_eq_nil_iff (hendpoints : endpointsSchema text endpoints)
    {clients : List Value} (h : ∀ client ∈ clients, clientSchema text client)
    (lead : String) (used : List Int) (names : List String) :
    clientMessages (buildEndpointIndex endpoints) lead used names clients = [] ↔
      Fresh names ((clients.map fieldsOf).map (textAt "name")) ∧
        Fresh used ((clients.map fieldsOf).flatMap channelsOf) ∧
        (entriesOf endpoints ≠ [] → ∀ client ∈ clients.map fieldsOf,
          Listed endpoints (fieldsOf (client.get "client_endpoint"))) := by
  induction clients generalizing used names with
  | nil => simp [clientMessages]
  | cons client clients ih =>
      have hclient := h client List.mem_cons_self
      obtain ⟨fields, rfl⟩ : ∃ fields, client = .dict fields :=
        ⟨_, dict_of_object hclient⟩
      have hname := clientNameMessages_get lead names
        (required_get hclient List.mem_cons_self (by simp))
      have hrequest := channelMessages_get lead "requestChannelId" used
        (required_get hclient (by simp) (by simp))
      have hresponse := channelMessages_get lead "responseChannelId"
        (intAt "requestChannelId" fields :: used)
        (required_get hclient (by simp) (by simp))
      have hreference : referenceSchema text
          (Fields.get "client_endpoint" fields) :=
        required_get hclient (by simp) (by simp)
      have hrest := ih
        (fun other hother => h other (List.mem_cons_of_mem _ hother))
        (intAt "responseChannelId" fields ::
          intAt "requestChannelId" fields :: used)
        (textAt "name" fields :: names)
      have hlisted := guarded_eq_nil_iff hendpoints
        (referenceMessages_eq_nil_iff (lead ++ ": client") hendpoints
          (dict_of_object hreference ▸ hreference))
      simp only [clientMessages, List.append_eq_nil_iff, hname, hrequest,
        hresponse, hrest]
      rw [dict_of_object hreference]
      dsimp only
      rw [hlisted, List.map_cons, List.map_cons, List.flatMap_cons,
        List.forall_mem_cons]
      change _ ↔ Fresh names (textAt "name" fields :: _) ∧
        Fresh used (intAt "requestChannelId" fields ::
          intAt "responseChannelId" fields :: _) ∧
        (_ → Listed endpoints (fieldsOf (Fields.get "client_endpoint" fields)) ∧
          _)
      rw [fresh_cons, fresh_cons, fresh_cons]
      constructor
      · rintro ⟨⟨⟨⟨hn, hq⟩, hp⟩, hl⟩, hnames, hids, hall⟩
        exact ⟨⟨hn, hnames⟩, ⟨hq, hp, hids⟩, fun hne => ⟨hl hne, hall hne⟩⟩
      · rintro ⟨⟨hn, hnames⟩, ⟨hq, hp, hids⟩, hall⟩
        exact ⟨⟨⟨⟨hn, hq⟩, hp⟩, fun hne => (hall hne).1⟩, hnames, hids,
          fun hne => (hall hne).2⟩

/-! ## Services -/

/-- A service is reported unless it is consistent. -/
theorem serviceMessages_eq_nil_iff
    (hendpoints : endpointsSchema text endpoints) {service : Fields}
    (h : serviceEntrySchema text (.dict service)) (lead : String) :
    serviceMessages (buildEndpointIndex endpoints) lead service = [] ↔
      ConsistentService endpoints service := by
  have hmax : integer (Fields.get "maxClients" service) :=
    required_get h (by simp) (by simp)
  obtain ⟨references, hservers, hreferences⟩ :
      array (referenceSchema text) (Fields.get "server_endpoints" service) :=
    required_get h (by simp) (by simp)
  obtain ⟨clients, hget, hclients⟩ :
      array (clientSchema text) (Fields.get "clients" service) :=
    required_get h (by simp) (by simp)
  have hentries : entriesAt "clients" service = clients.map fieldsOf := by
    rw [entriesAt, hget, entriesOf]
  have hserverEntries : entriesAt "server_endpoints" service =
      references.map fieldsOf := by
    rw [entriesAt, hservers, entriesOf]
  have hcount : countMessages lead service = [] ↔
      (clients.length : Int) ≤ intAt "maxClients" service := by
    rw [countMessages, asInt_get hmax, hget]
    dsimp only
    split_ifs with hmore
    · simp [hmore]
    · simpa using not_lt.mp hmore
  have hclient := clientMessages_eq_nil_iff hendpoints hclients lead [] []
  have hserver := guarded_eq_nil_iff hendpoints
    (serverMessages_eq_nil_iff hendpoints hreferences lead 0)
  rw [serviceMessages, hservers, hget]
  dsimp only
  rw [List.append_eq_nil_iff, List.append_eq_nil_iff, hcount, hclient, hserver,
    fresh_from_nil, fresh_from_nil, ← hentries, ← hserverEntries]
  constructor
  · rintro ⟨⟨hlength, hserver⟩, hnames, hids, hclient⟩
    refine ⟨?_, hnames, hids, hserver, hclient⟩
    rw [hentries, List.length_map]
    exact hlength
  · intro hconsistent
    have hlength := hconsistent.count
    rw [hentries, List.length_map] at hlength
    exact ⟨⟨hlength, hconsistent.servers⟩, hconsistent.clientNames,
      hconsistent.channels, hconsistent.clients⟩

/-- The services are reported unless their names are new and each of them is
consistent. -/
theorem servicesMessages_eq_nil_iff
    (hendpoints : endpointsSchema text endpoints) {services : List Value}
    (h : ∀ service ∈ services, serviceEntrySchema text service) (path : String)
    (si : ℕ) (names : List String) :
    servicesMessages (buildEndpointIndex endpoints) path si names services =
        [] ↔
      Fresh names ((services.map fieldsOf).map (textAt "name")) ∧
        ∀ service ∈ services.map fieldsOf,
          ConsistentService endpoints service := by
  induction services generalizing si names with
  | nil => simp [servicesMessages]
  | cons service services ih =>
      have hservice := h service List.mem_cons_self
      obtain ⟨fields, rfl⟩ : ∃ fields, service = .dict fields :=
        ⟨_, dict_of_object hservice⟩
      have hname : asText (Fields.get "name" fields) =
          some (textAt "name" fields) :=
        asText_get (required_get hservice (by simp) (by simp))
      have hrest := ih
        (fun other hother => h other (List.mem_cons_of_mem _ hother))
        (si + 1) (textAt "name" fields :: names)
      have hown := serviceMessages_eq_nil_iff hendpoints hservice
      simp only [servicesMessages, hname, List.append_eq_nil_iff, hrest, hown]
      rw [List.map_cons, List.map_cons, List.forall_mem_cons]
      change _ ↔ Fresh names (textAt "name" fields :: _) ∧
        ConsistentService endpoints fields ∧ _
      rw [fresh_cons]
      have hnew : (if textAt "name" fields ∈ names then
          [path ++ ": rpc.services: duplicate service name '" ++
            textAt "name" fields ++ "'"] else []) = [] ↔
          textAt "name" fields ∉ names := by
        split_ifs with hmem <;> simp [hmem]
      rw [hnew]
      constructor
      · rintro ⟨⟨hn, hs⟩, hnames, hall⟩
        exact ⟨⟨hn, hnames⟩, hs, hall⟩
      · rintro ⟨⟨hn, hnames⟩, hs, hall⟩
        exact ⟨⟨hn, hs⟩, hnames, hall⟩

end

/-! ## Main result -/

theorem metadataMessages_eq_nil_iff {document : Fields}
    (h : serviceSchema text (.dict document)) (path : String) :
    metadataMessages path document = [] ↔
      ∀ size, Fields.find "pduMetaDataSize" document = some (.int size) →
        size = 24 := by
  obtain ⟨fields, heq, hproperties, -⟩ := h
  obtain rfl : document = fields := by simpa using heq
  rw [metadataMessages, Fields.get]
  cases hfind : Fields.find "pduMetaDataSize" document with
  | none => simp [asInt]
  | some member =>
      obtain ⟨size, rfl⟩ : integer member :=
        hproperties _ List.mem_cons_self member hfind
      simp only [Option.getD_some, asInt, Option.some.injEq, Value.int.injEq,
        forall_eq']
      split_ifs with hsize
      · simp [hsize]
      · simpa using hsize

/-- The checker has nothing to report about a schema-valid document with
non-empty names exactly when the document is consistent. -/
theorem checkRpcSemantics_eq_nil_iff (path : String) {document : Fields}
    {endpoints : Value} (hdocument : serviceSchema text (.dict document))
    (hendpoints : endpointsSchema text endpoints) :
    checkRpcSemantics path document endpoints = [] ↔
      Consistent document endpoints := by
  obtain ⟨services, hget, hservices⟩ :
      array (serviceEntrySchema text) (Fields.get "services" document) :=
    required_get hdocument (by simp) (by simp)
  have hentries : entriesAt "services" document = services.map fieldsOf := by
    rw [entriesAt, hget, entriesOf]
  rw [checkRpcSemantics, hget]
  dsimp only
  rw [List.append_eq_nil_iff, metadataMessages_eq_nil_iff hdocument,
    servicesMessages_eq_nil_iff hendpoints hservices, fresh_from_nil,
    ← hentries]
  constructor
  · rintro ⟨hsize, hnames, hall⟩
    exact ⟨hsize, hnames, hall⟩
  · rintro ⟨hsize, hnames, hall⟩
    exact ⟨hsize, hnames, hall⟩

/-- A document with one service and one client. -/
def addTwoIntsDocument : Fields :=
  [("pduMetaDataSize", .int 24),
   ("services", .list
     [.dict
       [("name", .str "Service/Add"),
        ("type", .str "hako_srv_msgs/AddTwoInts"),
        ("maxClients", .int 1),
        ("pduSize", .dict
          [("server", .dict [("heapSize", .int 0), ("baseSize", .int 256)]),
           ("client", .dict [("heapSize", .int 0), ("baseSize", .int 256)])]),
        ("server_endpoints", .list
          [.dict [("nodeId", .str "server"), ("endpointId", .str "tcp")]]),
        ("clients", .list
          [.dict
            [("name", .str "Client_0"),
             ("requestChannelId", .int 0),
             ("responseChannelId", .int 1),
             ("client_endpoint", .dict
               [("nodeId", .str "client"), ("endpointId", .str "tcp")])]])]])]

/-- An `endpoints` list that names the node of the server twice. -/
def addTwoIntsEndpoints : Value :=
  .list
    [.dict [("nodeId", .str "server"), ("endpoints", .list [])],
     .dict
       [("nodeId", .str "client"),
        ("endpoints", .list
          [.dict [("id", .str "tcp"), ("config_path", .str "client.json")]])],
     .dict
       [("nodeId", .str "server"),
        ("endpoints", .list
          [.dict [("id", .str "tcp"), ("config_path", .str "server.json")]])]]

theorem addTwoIntsDocument_valid :
    serviceSchema text (.dict addTwoIntsDocument) := by
  simp [serviceSchema, serviceEntrySchema, clientSchema, referenceSchema,
    sizeSchema, addTwoIntsDocument, Fields.find]

theorem addTwoIntsEndpoints_valid :
    endpointsSchema text addTwoIntsEndpoints := by
  simp [endpointsSchema, nodeSchema, addTwoIntsEndpoints, Fields.find]

theorem addTwoIntsDocument_consistent :
    checkRpcSemantics "service.json" addTwoIntsDocument addTwoIntsEndpoints =
        [] ∧
      Consistent addTwoIntsDocument addTwoIntsEndpoints := by
  have hnothing : checkRpcSemantics "service.json" addTwoIntsDocument
      addTwoIntsEndpoints = [] := by decide +kernel
  exact ⟨hnothing, (checkRpcSemantics_eq_nil_iff "service.json"
    addTwoIntsDocument_valid addTwoIntsEndpoints_valid).mp hnothing⟩

end CheckedServices
end Config
end HakoPduRpc
