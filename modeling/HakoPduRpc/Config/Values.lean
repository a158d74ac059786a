import HakoPduRpc.Action.Configuration
import Mathlib.Algebra.Group.Nat.Defs
import Mathlib.Data.List.DropRight
import Mathlib.Data.List.Sort
import Mathlib.Data.Rat.Defs

/-!
# Documents of the configuration generators

The generators of `python/hakoniwa_pdu_rpc` read a manifest with `json.loads` and
write documents with `json.dumps`, which the C++ side reads with
`nlohmann::json`.  `Value` is what Python sees of a document and `Value.tree`
what `nlohmann::json` makes of it.  The helpers that the two generators have in
common are here as well.
-/

namespace HakoPduRpc
namespace Config

open HakoPduRpc.Action (Json)

/-- What `json.loads` returns; a float is its value, if it is finite. -/
inductive Value
  | none
  | bool (value : Bool)
  | int (value : Int)
  | float (value : Option Rat)
  | str (value : String)
  | list (items : List Value)
  | dict (fields : List (String × Value))

/-- The fields of a dictionary. -/
abbrev Fields := List (String × Value)

namespace Fields

/-- The value under a key. -/
def find (key : String) (fields : Fields) : Option Value :=
  (fields.find? fun field => field.1 = key).map Prod.snd

/-- `fields.get(key)`. -/
def get (key : String) (fields : Fields) : Value :=
  (find key fields).getD .none

/-- `fields.get(key, default)`. -/
def getOr (key : String) (default : Value) (fields : Fields) : Value :=
  (find key fields).getD default

/-- `sorted(set(fields) - allowed)`. -/
def unknown (allowed : List String) (fields : Fields) : List String :=
  ((fields.map Prod.fst).filter (· ∉ allowed)).insertionSort fun a b => a ≤ b

/-- `fields[key] = value`. -/
def set (key : String) (value : Value) (fields : Fields) : Fields :=
  (key, value) :: fields.filter (·.1 ≠ key)

theorem find_set (key : String) (value : Value) (fields : Fields) :
    find key (set key value fields) = some value := by
  simp [find, set]

theorem find_set_of_ne {key other : String} (hne : other ≠ key) (value : Value)
    (fields : Fields) : find other (set key value fields) = find other fields := by
  rw [find, find, set, List.find?_cons_of_neg (by simpa using hne.symm),
    List.find?_filter]
  congr 2
  funext field
  by_cases hfield : field.1 = other
  · simp [hfield, hne]
  · simp [hfield]

theorem unknown_eq_nil_iff {allowed : List String} {fields : Fields} :
    unknown allowed fields = [] ↔ ∀ field ∈ fields, field.1 ∈ allowed := by
  rw [unknown, ← List.length_eq_zero_iff, List.length_insertionSort,
    List.length_eq_zero_iff, List.filter_eq_nil_iff]
  simp

theorem unknown_set {allowed : List String} {key : String} {value : Value}
    {fields : Fields} (hkey : key ∈ allowed) (h : unknown allowed fields = []) :
    unknown allowed (set key value fields) = [] := by
  rw [unknown_eq_nil_iff] at h ⊢
  intro field hfield
  rcases List.mem_cons.mp hfield with rfl | hfield
  · exact hkey
  · exact h field (List.mem_filter.mp hfield).1

theorem find_of_unknown {allowed : List String} {key : String} {fields : Fields}
    (hkey : key ∉ allowed) (h : unknown allowed fields = []) :
    find key fields = none := by
  rw [unknown_eq_nil_iff] at h
  rw [find, Option.map_eq_none_iff, List.find?_eq_none]
  intro field hfield hname
  simp only [decide_eq_true_eq] at hname
  exact hkey (hname ▸ h field hfield)

end Fields

/-! ## Reading -/

/-- `_object`. -/
def object (value : Value) (path : String) : Except String Fields :=
  match value with
  | .dict fields => .ok fields
  | _ => .error (path ++ " must be an object")

/-- `_text`. -/
def text (value : Value) (path : String) : Except String String :=
  match value with
  | .str value =>
      if value = "" then .error (path ++ " must be a non-empty string")
      else .ok value
  | _ => .error (path ++ " must be a non-empty string")

/-- The test of an integer in a range; a `bool` is no integer here. -/
def integer (accepts : Int → Bool) (message : String) (value : Value) :
    Except String ℕ :=
  match value with
  | .int value => if accepts value then .ok value.toNat else .error message
  | _ => .error message

/-- `_port`. -/
def port (value : Value) (path : String) : Except String ℕ :=
  integer (fun n => 1 ≤ n ∧ n ≤ 65535)
    (path ++ " must be an integer in 1..65535") value

/-- `_positive_int`. -/
def positiveInt (value : Value) (path : String) : Except String ℕ :=
  integer (fun n => 0 < n) (path ++ " must be a positive integer") value

/-- `_nonnegative_int`. -/
def nonnegativeInt (value : Value) (path : String) : Except String ℕ :=
  integer (fun n => 0 ≤ n) (path ++ " must be a non-negative integer") value

/-- `if condition: raise ConfigurationError(message)`. -/
def refuseIf (condition : Prop) [Decidable condition] (message : String) :
    Except String Unit :=
  if condition then .error message else .ok ()

theorem refuseIf_eq_ok_iff {condition : Prop} [Decidable condition]
    {message : String} {u : Unit} :
    refuseIf condition message = .ok u ↔ ¬condition := by
  rw [refuseIf]
  split_ifs with h <;> simp [h]

/-- Fields that are not known are refused. -/
def refuseUnknown (allowed : List String) (path : String) (fields : Fields) :
    Except String Unit :=
  refuseIf (fields.unknown allowed ≠ [])
    (path ++ " has unknown fields: " ++
      String.intercalate ", " (fields.unknown allowed))

/-- A loop that raises an exception for the first element with a property. -/
def refuseFirst {α : Type} (condition : α → Prop) [DecidablePred condition]
    (message : α → String) : List α → Except String Unit
  | [] => .ok ()
  | a :: rest => do
      refuseIf (condition a) (message a)
      refuseFirst condition message rest

/-- A list that is not empty. -/
def nonEmptyList (message : String) (value : Value) :
    Except String (List Value) :=
  match value with
  | .list items => if items.isEmpty then .error message else .ok items
  | _ => .error message

/-- `value != 1`; `True` and `1.0` are equal to `1`. -/
def isOne : Value → Bool
  | .int value => value = 1
  | .bool value => value
  | .float value => value = some 1
  | _ => false

/-- `value == expected`, for a string. -/
def isText (expected : String) : Value → Bool
  | .str value => value = expected
  | _ => false

/-- The test `value in {"v1", "v2"}` and others like it; what cannot be hashed
raises an exception. -/
def oneOf (allowed : List String) (message : String) (value : Value) :
    Except String String :=
  match value with
  | .str value => if value ∈ allowed then .ok value else .error message
  | .list _ => .error "unhashable type: 'list'"
  | .dict _ => .error "unhashable type: 'dict'"
  | _ => .error message

/-- A check that raises no exception. -/
def Accepted {α : Type} (x : Except String α) : Prop := ∃ a, x = .ok a

theorem accepted_bind_iff {α β : Type} {x : Except String α}
    {f : α → Except String β} :
    Accepted (x >>= f) ↔ ∃ a, x = .ok a ∧ Accepted (f a) := by
  constructor
  · rintro ⟨b, hb⟩
    obtain ⟨a, ha, hb⟩ := Action.except_bind_eq_ok hb
    exact ⟨a, ha, b, hb⟩
  · rintro ⟨a, rfl, b, hb⟩
    exact ⟨b, hb⟩

theorem text_ok {value : Value} {path result : String}
    (h : text value path = .ok result) :
    value = .str result ∧ result ≠ "" := by
  unfold text at h
  split at h
  · split_ifs at h with hempty
    obtain rfl := Except.ok.inj h
    exact ⟨rfl, hempty⟩
  · cases h

theorem object_ok {value : Value} {path : String} {fields : Fields}
    (h : object value path = .ok fields) : value = .dict fields := by
  unfold object at h
  split at h
  · rw [Except.ok.inj h]
  · cases h

theorem integer_ok {accepts : Int → Bool} {message : String} {value : Value}
    {n : ℕ} (h : integer accepts message value = .ok n) :
    ∃ i, value = .int i ∧ accepts i = true ∧ n = i.toNat := by
  unfold integer at h
  split at h
  · split_ifs at h with haccepts
    exact ⟨_, rfl, haccepts, (Except.ok.inj h).symm⟩
  · cases h

theorem nonEmptyList_ok {message : String} {value : Value} {items : List Value}
    (h : nonEmptyList message value = .ok items) :
    value = .list items ∧ items ≠ [] := by
  unfold nonEmptyList at h
  split at h
  · split_ifs at h with hempty
    obtain rfl := Except.ok.inj h
    exact ⟨rfl, by simpa using hempty⟩
  · cases h

/-! ## Names -/

/-- `[A-Za-z0-9_.-]`. -/
def isSafe (c : Char) : Bool :=
  c.isAlphanum || c = '_' || c = '.' || c = '-'

/-- `re.sub(r"[^…]+", mark, …)`: a run of characters that are not kept becomes
one mark; `inRun` tells that the mark has been written. -/
def squeeze (keeps : Char → Bool) (mark : Char) (inRun : Bool) :
    List Char → List Char
  | [] => []
  | c :: rest =>
      if keeps c then c :: squeeze keeps mark false rest
      else if inRun then squeeze keeps mark true rest
      else mark :: squeeze keeps mark true rest

/-- `str.strip(mark)`. -/
def strip (mark : Char) (l : List Char) : List Char :=
  (l.dropWhile (· = mark)).rdropWhile (· = mark)

/-- What `_safe_id` makes of a name. -/
def normalized (value : String) : String :=
  String.ofList (strip '-' (squeeze isSafe '-' false value.toList))

/-- `package/Name`: `split("/")` gives two parts, and none is empty. -/
def isPackageType (type : String) : Bool :=
  let parts := type.toList.splitOn '/'
  parts.length = 2 ∧ ∀ part ∈ parts, part ≠ []

/-- The characters that `repr` treats on its own. -/
def backslash : Char := Char.ofNat 92

def singleQuote : Char := Char.ofNat 39

def doubleQuote : Char := Char.ofNat 34

/-- A character of `repr`, between quotation marks of this kind. -/
def reprChar (quote c : Char) : List Char :=
  if c = backslash ∨ c = quote then [backslash, c]
  else if c.toNat = 10 then [backslash, 'n']
  else if c.toNat = 13 then [backslash, 'r']
  else if c.toNat = 9 then [backslash, 't']
  else if c.toNat < 32 ∨ c.toNat = 127 then
    [backslash, 'x', Nat.digitChar (c.toNat / 16), Nat.digitChar (c.toNat % 16)]
  else [c]

/-- `repr` of a string whose characters beyond ASCII are printable. -/
def repr (value : String) : String :=
  let quote :=
    if singleQuote ∈ value.toList ∧ doubleQuote ∉ value.toList then doubleQuote
    else singleQuote
  String.ofList (quote :: value.toList.flatMap (reprChar quote) ++ [quote])

/-- `_safe_id`; `message` is what the error begins with. -/
def safeId (message value : String) : Except String String :=
  if normalized value = "" then .error (message ++ repr value)
  else .ok (normalized value)

/-! ## Writing -/

/-- The least integer that a `double` rounds to infinity. -/
def doubleOverflow : ℕ := 2 ^ 1024 - 2 ^ 970

mutual

/-- Every number is finite, and its digits do not overflow a `double`. -/
def Value.readable : Value → Bool
  | .int value => value.natAbs < doubleOverflow
  | .float value => value.isSome
  | .list items => readableList items
  | .dict fields => readableFields fields
  | _ => true

def readableList : List Value → Bool
  | [] => true
  | item :: rest => item.readable && readableList rest

def readableFields : Fields → Bool
  | [] => true
  | (_, value) :: rest => value.readable && readableFields rest

end

mutual

/-- The `nlohmann::json` of a document whose numbers can be read. -/
def Value.tree : Value → Json
  | .none => .null
  | .bool value => .boolean value
  | .int value =>
      if 0 ≤ value ∧ value ≤ 18446744073709551615 then
        .numberUnsigned (UInt64.ofNat value.toNat)
      else if -9223372036854775808 ≤ value ∧ value < 0 then .numberInteger value
      else .numberFloat (toString value)
  | .float value => .numberFloat (value.elim "NaN" toString)
  | .str value => .string value
  | .list items => .array (treeList items)
  | .dict fields => .object (treeFields fields)

def treeList : List Value → List Json
  | [] => []
  | item :: rest => item.tree :: treeList rest

def treeFields : Fields → List (String × Json)
  | [] => []
  | (key, value) :: rest => (key, value.tree) :: treeFields rest

end

/-- What `nlohmann::json` reads from `json.dumps(value)`.  `json.dumps` writes
`NaN` and `Infinity`, which are no JSON (parse_error.101), and all the digits of
an integer (out_of_range.406); then reading throws. -/
def Value.toJson (value : Value) : Option Json :=
  if value.readable then some value.tree else .none

theorem toJson_eq_some_iff {value : Value} {root : Json} :
    value.toJson = some root ↔ value.readable = true ∧ value.tree = root := by
  rw [Value.toJson]
  split_ifs with h <;> simp [h]

@[simp] theorem readable_str (value : String) :
    (Value.str value).readable = true := rfl

@[simp] theorem readable_int (n : ℕ) :
    (Value.int n).readable = true ↔ n < doubleOverflow := by
  rw [Value.readable, decide_eq_true_eq, Int.natAbs_natCast]

@[simp] theorem readable_list (items : List Value) :
    (Value.list items).readable = true ↔
      ∀ item ∈ items, item.readable = true := by
  have hall : readableList items = items.all Value.readable := by
    induction items with
    | nil => rfl
    | cons item rest ih => rw [readableList, ih, List.all_cons]
  rw [Value.readable, hall, List.all_eq_true]

@[simp] theorem readable_dict (fields : Fields) :
    (Value.dict fields).readable = true ↔
      ∀ field ∈ fields, field.2.readable = true := by
  have hall : readableFields fields =
      fields.all fun field => field.2.readable := by
    induction fields with
    | nil => rfl
    | cons field rest ih => rw [readableFields, ih, List.all_cons]
  rw [Value.readable, hall, List.all_eq_true]

/-- What fits in 64 bits can be read. -/
theorem lt_doubleOverflow {n : ℕ} (hn : n ≤ 18446744073709551615) :
    n < doubleOverflow :=
  lt_of_le_of_lt hn (by decide +kernel)

theorem treeList_eq_map (items : List Value) :
    treeList items = items.map Value.tree := by
  induction items with
  | nil => rfl
  | cons item rest ih => rw [treeList, ih, List.map_cons]

theorem tree_int {n : ℕ} (hn : n ≤ 18446744073709551615) :
    (Value.int n).tree = .numberUnsigned (UInt64.ofNat n) := by
  have hrange : (0 : Int) ≤ n ∧ (n : Int) ≤ 18446744073709551615 := by omega
  rw [Value.tree, if_pos hrange, Int.toNat_natCast]

theorem tree_eq_string_iff {value : Value} {s : String} :
    value.tree = .string s ↔ value = .str s := by
  cases value with
  | int i => rw [Value.tree]; split_ifs <;> simp
  | none => simp [Value.tree]
  | bool b => simp [Value.tree]
  | float x => simp [Value.tree]
  | str t => simp [Value.tree]
  | list items => simp [Value.tree]
  | dict fields => simp [Value.tree]

theorem tree_eq_unsigned_iff {value : Value} {u : UInt64} :
    value.tree = .numberUnsigned u ↔ value = .int u.toNat := by
  cases value with
  | int i =>
      have hu : u.toNat < 18446744073709551616 := u.toNat_lt
      rw [Value.tree, Value.int.injEq]
      split_ifs with hrange hnegative
      · rw [Json.numberUnsigned.injEq, ← UInt64.toNat_inj,
          UInt64.toNat_ofNat_of_lt' (by simp only [UInt64.size]; omega)]
        omega
      · simp only [false_iff]
        omega
      · simp only [false_iff]
        omega
  | none => simp [Value.tree]
  | bool b => simp [Value.tree]
  | float x => simp [Value.tree]
  | str t => simp [Value.tree]
  | list items => simp [Value.tree]
  | dict fields => simp [Value.tree]

/-- The members of an object are the values of the dictionary. -/
theorem find_tree (key : String) (fields : Fields) :
    (Value.dict fields).tree.find key = (fields.find key).map Value.tree := by
  rw [Value.tree, Json.find, Fields.find]
  induction fields with
  | nil => rfl
  | cons field rest ih =>
      obtain ⟨name, value⟩ := field
      rw [treeFields, List.find?_cons, List.find?_cons]
      by_cases hname : name = key
      · simp [hname]
      · simpa [hname] using ih

end Config
end HakoPduRpc
