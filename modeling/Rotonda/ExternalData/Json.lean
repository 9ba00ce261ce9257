import Rotonda.ExternalData.Source

namespace Rotonda.ExternalData

-- A document as `serde_json` buffers it for an untagged enum: integers stay integers, and an object
-- keeps its entries in order, repeated keys included.
inductive Json where
  | null
  | bool (value : Bool)
  | int (value : Int)
  | float (value : Float)
  | string (value : String)
  | array (items : List Json)
  | object (entries : List (String × Json))

def serializeF64 (n : Float) : Json := if n.isFinite then .float n else .null

mutual

def ExternalDataValue.serialize : ExternalDataValue → Json
  | .string value => .string value
  | .number value => serializeF64 value
  | .boolean value => .bool value
  | .array items => .array (serializeItems items)
  | .object fields => .object (serializeFields fields)
  | .null => .null

def serializeItems : List ExternalDataValue → List Json
  | [] => []
  | item :: items => item.serialize :: serializeItems items

def serializeFields : List (String × ExternalDataValue) → List (String × Json)
  | [] => []
  | (key, value) :: fields => (key, value.serialize) :: serializeFields fields

end

def untaggedMismatch : String := "data did not match any variant of untagged enum ExternalDataValue"

-- `HashMap::insert`, as the `Deserialize` of a `HashMap` calls it for each entry in turn.
def insertField (fields : List (String × ExternalDataValue)) (key : String)
    (value : ExternalDataValue) : List (String × ExternalDataValue) :=
  if key ∈ fields.map Prod.fst then
    fields.map fun field => if field.1 = key then (key, value) else field
  else fields ++ [(key, value)]

mutual

-- The derived untagged `Deserialize` tries the variants in declaration order, the first that
-- accepts the document winning; `f64` accepts an integer through `as f64`.
def ExternalDataValue.deserialize : Json → Except String ExternalDataValue
  | .string value => .ok (.string value)
  | .int value => .ok (.number (Float.ofInt value))
  | .float value => .ok (.number value)
  | .bool value => .ok (.boolean value)
  | .array items =>
    match deserializeItems items with
    | .ok values => .ok (.array values)
    | .error _ => .error untaggedMismatch
  | .object entries =>
    match deserializeFields [] entries with
    | .ok fields => .ok (.object fields)
    | .error _ => .error untaggedMismatch
  | .null => .ok .null

def deserializeItems : List Json → Except String (List ExternalDataValue)
  | [] => .ok []
  | item :: items => do
    let value ← ExternalDataValue.deserialize item
    let values ← deserializeItems items
    pure (value :: values)

def deserializeFields (fields : List (String × ExternalDataValue)) :
    List (String × Json) → Except String (List (String × ExternalDataValue))
  | [] => .ok fields
  | (key, entry) :: entries => do
    let value ← ExternalDataValue.deserialize entry
    deserializeFields (insertField fields key value) entries

end

theorem deserializeItems_cons {item : Json} {items : List Json} {value : ExternalDataValue}
    {values : List ExternalDataValue} (read : ExternalDataValue.deserialize item = .ok value)
    (readRest : deserializeItems items = .ok values) :
    deserializeItems (item :: items) = .ok (value :: values) := by
  simp only [deserializeItems, read, readRest]
  rfl

theorem deserializeFields_cons {fields : List (String × ExternalDataValue)} {key : String}
    {entry : Json} {entries : List (String × Json)} {value : ExternalDataValue}
    (read : ExternalDataValue.deserialize entry = .ok value) :
    deserializeFields fields ((key, entry) :: entries) =
      deserializeFields (insertField fields key value) entries := by
  simp only [deserializeFields, read, bind, Except.bind]

theorem sizeOf_lt_of_mem_snd {α β : Type} [SizeOf α] [SizeOf β] {a : α} {b : β}
    {pairs : List (α × β)} (mem : (a, b) ∈ pairs) : sizeOf b < sizeOf pairs :=
  Nat.lt_of_le_of_lt (by simp only [Prod.mk.sizeOf_spec]; omega) (List.sizeOf_lt_of_mem mem)

theorem insertField_of_not_mem {fields : List (String × ExternalDataValue)} {key : String}
    (value : ExternalDataValue) (fresh : key ∉ fields.map Prod.fst) :
    insertField fields key value = fields ++ [(key, value)] :=
  if_neg fresh

section Replace

variable {key k : String} {value : ExternalDataValue}

private theorem lookup_replace_of_ne (other : k ≠ key) :
    ∀ fields : List (String × ExternalDataValue),
      (fields.map fun field => if field.1 = key then (key, value) else field).lookup k =
        fields.lookup k
  | [] => rfl
  | (a, b) :: fields => by
    have rest := lookup_replace_of_ne other fields
    by_cases replaced : a = key
    · simp only [List.map_cons, if_pos replaced, List.lookup_cons, beq_false_of_ne other,
        beq_false_of_ne (replaced ▸ other), rest]
    · simp only [List.map_cons, if_neg replaced, List.lookup_cons, rest]

private theorem lookup_replace_self :
    ∀ fields : List (String × ExternalDataValue), key ∈ fields.map Prod.fst →
      (fields.map fun field => if field.1 = key then (key, value) else field).lookup key =
        some value
  | [], held => absurd held (List.not_mem_nil _)
  | (a, b) :: fields, held => by
    by_cases replaced : a = key
    · simp only [List.map_cons, if_pos replaced, List.lookup_cons, beq_self_eq_true]
    · have later : key ∈ fields.map Prod.fst := by simpa [Ne.symm replaced] using held
      simp only [List.map_cons, if_neg replaced, List.lookup_cons,
        beq_false_of_ne (Ne.symm replaced), lookup_replace_self fields later]

end Replace

theorem insertField_lookup (fields : List (String × ExternalDataValue)) (key : String)
    (value : ExternalDataValue) (k : String) :
    (insertField fields key value).lookup k = if k = key then some value else fields.lookup k := by
  unfold insertField
  split
  · next held =>
    split
    · next same => subst same; exact lookup_replace_self fields held
    · next other => exact lookup_replace_of_ne other fields
  · next fresh =>
    rw [List.lookup_append]
    by_cases same : k = key
    · subst same
      have absent : fields.lookup k = none := List.lookup_eq_none_iff.mpr fun field mem =>
        bne_iff_ne.mpr fun same => fresh (same ▸ List.mem_map_of_mem Prod.fst mem)
      rw [if_pos rfl, absent, Option.none_or, List.lookup_cons_self]
    · simp only [if_neg same, List.lookup_cons, List.lookup_nil, beq_false_of_ne same,
        Option.or_none]

/-! ## Every document is accepted, and a repeated key takes its last value -/

theorem deserializeItems_ok : ∀ items : List Json,
    (∀ item ∈ items, ∃ value, ExternalDataValue.deserialize item = .ok value) →
      ∃ values, deserializeItems items = .ok values
  | [], _ => ⟨[], rfl⟩
  | item :: items, read =>
    let ⟨value, first⟩ := read item (List.mem_cons_self _ _)
    let ⟨values, rest⟩ := deserializeItems_ok items fun item mem =>
      read item (List.mem_cons_of_mem _ mem)
    ⟨value :: values, deserializeItems_cons first rest⟩

theorem deserializeFields_lookup : ∀ (entries : List (String × Json))
    (fields : List (String × ExternalDataValue)),
    (∀ entry ∈ entries, ∃ value, ExternalDataValue.deserialize entry.2 = .ok value) →
      ∃ result, deserializeFields fields entries = .ok result ∧ ∀ k, result.lookup k =
        ((entries.reverse.lookup k).bind fun entry =>
          (ExternalDataValue.deserialize entry).toOption).or (fields.lookup k)
  | [], fields, _ => ⟨fields, rfl, fun _ => by simp⟩
  | (key, entry) :: entries, fields, read => by
    obtain ⟨value, first⟩ := read _ (List.mem_cons_self _ _)
    obtain ⟨result, rest, last⟩ := deserializeFields_lookup entries (insertField fields key value)
      fun entry mem => read entry (List.mem_cons_of_mem _ mem)
    refine ⟨result, by rw [deserializeFields_cons first, rest], fun k => ?_⟩
    rw [last, insertField_lookup, List.reverse_cons, List.lookup_append]
    cases later : entries.reverse.lookup k with
    | some other =>
      obtain ⟨before, after, split, -⟩ := List.lookup_eq_some_iff.mp later
      have mem : (k, other) ∈ entries := List.mem_reverse.mp (split ▸ List.mem_append_right _
        (List.mem_cons_self _ _))
      obtain ⟨otherValue, read⟩ := read _ (List.mem_cons_of_mem _ mem)
      simp [read, Except.toOption]
    | none =>
      by_cases same : k = key
      · simp [same, first, Except.toOption]
      · simp only [same, if_false, List.lookup_cons, List.lookup_nil, beq_false_of_ne same,
          Option.none_bind, Option.none_or]

theorem deserialize_ok (document : Json) :
    ∃ value, ExternalDataValue.deserialize document = .ok value := by
  cases document with
  | array items =>
    obtain ⟨values, read⟩ := deserializeItems_ok items fun item _ => deserialize_ok item
    exact ⟨.array values, by simp only [ExternalDataValue.deserialize, read]⟩
  | object entries =>
    obtain ⟨fields, read, -⟩ := deserializeFields_lookup entries []
      fun ⟨_, entry⟩ _ => deserialize_ok entry
    exact ⟨.object fields, by simp only [ExternalDataValue.deserialize, read]⟩
  | _ => exact ⟨_, rfl⟩
termination_by sizeOf document
decreasing_by
  all_goals subst_vars; simp_wf
  · exact Nat.lt_trans (List.sizeOf_lt_of_mem ‹_›) (by omega)
  · exact Nat.lt_trans (sizeOf_lt_of_mem_snd ‹_›) (by omega)

/-- Every object is read, and a repeated key holds the value of its last entry. -/
theorem ExternalDataValue.deserialize_object_last_wins (entries : List (String × Json)) :
    ∃ fields, ExternalDataValue.deserialize (.object entries) = .ok (.object fields) ∧
      ∀ key, fields.lookup key = (entries.reverse.lookup key).bind fun entry =>
        (ExternalDataValue.deserialize entry).toOption := by
  obtain ⟨fields, read, last⟩ :=
    deserializeFields_lookup entries [] fun entry _ => deserialize_ok entry.2
  exact ⟨fields, by simp only [ExternalDataValue.deserialize, read],
    fun key => by rw [last, List.lookup_nil, Option.or_none]⟩

example : ExternalDataValue.deserialize (.object [("a", .string "x"), ("a", .bool true)]) =
    .ok (.object [("a", .boolean true)]) := rfl

/-! ## Distinct keys, and what a trip through JSON changes -/

mutual

def ExternalDataValue.keysDistinct : ExternalDataValue → Bool
  | .array items => itemsKeysDistinct items
  | .object fields => decide (fields.map Prod.fst).Nodup && fieldsKeysDistinct fields
  | _ => true

def itemsKeysDistinct : List ExternalDataValue → Bool
  | [] => true
  | item :: items => item.keysDistinct && itemsKeysDistinct items

def fieldsKeysDistinct : List (String × ExternalDataValue) → Bool
  | [] => true
  | (_, value) :: fields => value.keysDistinct && fieldsKeysDistinct fields

end

mutual

def ExternalDataValue.nullNonFinite : ExternalDataValue → ExternalDataValue
  | .number value => if value.isFinite then .number value else .null
  | .array items => .array (nullNonFiniteItems items)
  | .object fields => .object (nullNonFiniteFields fields)
  | value => value

def nullNonFiniteItems : List ExternalDataValue → List ExternalDataValue
  | [] => []
  | item :: items => item.nullNonFinite :: nullNonFiniteItems items

def nullNonFiniteFields : List (String × ExternalDataValue) → List (String × ExternalDataValue)
  | [] => []
  | (key, value) :: fields => (key, value.nullNonFinite) :: nullNonFiniteFields fields

end

mutual

def Json.keysDistinct : Json → Bool
  | .array items => jsonItemsKeysDistinct items
  | .object entries => decide (entries.map Prod.fst).Nodup && jsonEntriesKeysDistinct entries
  | _ => true

def jsonItemsKeysDistinct : List Json → Bool
  | [] => true
  | item :: items => item.keysDistinct && jsonItemsKeysDistinct items

def jsonEntriesKeysDistinct : List (String × Json) → Bool
  | [] => true
  | (_, entry) :: entries => entry.keysDistinct && jsonEntriesKeysDistinct entries

end

mutual

def Json.throughF64 : Json → Json
  | .int value => serializeF64 (Float.ofInt value)
  | .float value => serializeF64 value
  | .array items => .array (throughF64Items items)
  | .object entries => .object (throughF64Entries entries)
  | document => document

def throughF64Items : List Json → List Json
  | [] => []
  | item :: items => item.throughF64 :: throughF64Items items

def throughF64Entries : List (String × Json) → List (String × Json)
  | [] => []
  | (key, entry) :: entries => (key, entry.throughF64) :: throughF64Entries entries

end

private theorem fresh_of_nodup {α β : Type} {acc : List (String × α)}
    {rest : List (String × β)} {key : String} {entry : β} (written : α)
    (nodup : (acc.map Prod.fst ++ ((key, entry) :: rest).map Prod.fst).Nodup) :
    key ∉ acc.map Prod.fst ∧
      ((acc ++ [(key, written)]).map Prod.fst ++ rest.map Prod.fst).Nodup := by
  have := List.nodup_middle.mp nodup
  simp only [List.nodup_cons, List.mem_append, not_or] at this
  exact ⟨this.1.1, by simpa using nodup⟩

theorem deserializeItems_serializeItems : ∀ items : List ExternalDataValue,
    itemsKeysDistinct items = true →
    (∀ item ∈ items, item.keysDistinct = true →
      ExternalDataValue.deserialize item.serialize = .ok item.nullNonFinite) →
      deserializeItems (serializeItems items) = .ok (nullNonFiniteItems items)
  | [], _, _ => rfl
  | item :: items, distinct, each => by
    simp only [itemsKeysDistinct, Bool.and_eq_true] at distinct
    exact deserializeItems_cons (each item (List.mem_cons_self _ _) distinct.1)
      (deserializeItems_serializeItems items distinct.2 fun item mem =>
        each item (List.mem_cons_of_mem _ mem))

theorem deserializeFields_serializeFields : ∀ (fields acc : List (String × ExternalDataValue)),
    (acc.map Prod.fst ++ fields.map Prod.fst).Nodup → fieldsKeysDistinct fields = true →
    (∀ field ∈ fields, field.2.keysDistinct = true →
      ExternalDataValue.deserialize field.2.serialize = .ok field.2.nullNonFinite) →
      deserializeFields acc (serializeFields fields) = .ok (acc ++ nullNonFiniteFields fields)
  | [], acc, _, _, _ => by simp [serializeFields, deserializeFields, nullNonFiniteFields]
  | (key, value) :: fields, acc, nodup, distinct, each => by
    simp only [fieldsKeysDistinct, Bool.and_eq_true] at distinct
    obtain ⟨fresh, nodup⟩ := fresh_of_nodup value.nullNonFinite nodup
    rw [serializeFields, deserializeFields_cons (each _ (List.mem_cons_self _ _) distinct.1),
      insertField_of_not_mem _ fresh, deserializeFields_serializeFields fields _ nodup distinct.2
        fun field mem => each field (List.mem_cons_of_mem _ mem)]
    simp [nullNonFiniteFields]

/-- A value with distinct keys reads back as itself, its non-finite numbers as `Null`. -/
theorem deserialize_serialize (value : ExternalDataValue) (distinct : value.keysDistinct = true) :
    ExternalDataValue.deserialize value.serialize = .ok value.nullNonFinite := by
  cases value with
  | number value =>
    simp only [ExternalDataValue.serialize, serializeF64, ExternalDataValue.nullNonFinite]
    split <;> rfl
  | array items =>
    simp only [ExternalDataValue.serialize, ExternalDataValue.deserialize,
      deserializeItems_serializeItems items distinct fun item _ => deserialize_serialize item,
      ExternalDataValue.nullNonFinite]
  | object fields =>
    simp only [ExternalDataValue.keysDistinct, Bool.and_eq_true, decide_eq_true_eq] at distinct
    simp only [ExternalDataValue.serialize, ExternalDataValue.deserialize,
      deserializeFields_serializeFields fields [] (by simpa using distinct.1) distinct.2
        fun ⟨_, value⟩ _ => deserialize_serialize value,
      List.nil_append, ExternalDataValue.nullNonFinite]
  | _ => rfl
termination_by sizeOf value
decreasing_by
  all_goals subst_vars; simp_wf
  · exact Nat.lt_trans (List.sizeOf_lt_of_mem ‹_›) (by omega)
  · exact Nat.lt_trans (sizeOf_lt_of_mem_snd ‹_›) (by omega)

theorem deserialize_serialize_object :
    let value : ExternalDataValue := .object [("string", .string "test"),
      ("number", .number 42.0), ("boolean", .boolean true)]
    value.keysDistinct = true ∧
      ExternalDataValue.deserialize value.serialize = .ok value.nullNonFinite :=
  ⟨by decide, deserialize_serialize _ (by decide)⟩

theorem serializeItems_deserializeItems : ∀ items : List Json,
    jsonItemsKeysDistinct items = true →
    (∀ item ∈ items, item.keysDistinct = true → ∃ value,
      ExternalDataValue.deserialize item = .ok value ∧ value.serialize = item.throughF64) →
      ∃ values, deserializeItems items = .ok values ∧
        serializeItems values = throughF64Items items
  | [], _, _ => ⟨[], rfl, rfl⟩
  | item :: items, distinct, each => by
    simp only [jsonItemsKeysDistinct, Bool.and_eq_true] at distinct
    obtain ⟨value, read, written⟩ := each item (List.mem_cons_self _ _) distinct.1
    obtain ⟨values, readRest, writtenRest⟩ := serializeItems_deserializeItems items distinct.2
      fun item mem => each item (List.mem_cons_of_mem _ mem)
    refine ⟨value :: values, deserializeItems_cons read readRest, ?_⟩
    simp only [serializeItems, written, writtenRest, throughF64Items]

theorem serializeFields_deserializeFields :
    ∀ (entries : List (String × Json)) (acc : List (String × ExternalDataValue)),
    (acc.map Prod.fst ++ entries.map Prod.fst).Nodup → jsonEntriesKeysDistinct entries = true →
    (∀ entry ∈ entries, entry.2.keysDistinct = true → ∃ value,
      ExternalDataValue.deserialize entry.2 = .ok value ∧ value.serialize = entry.2.throughF64) →
      ∃ fields, deserializeFields acc entries = .ok (acc ++ fields) ∧
        serializeFields fields = throughF64Entries entries
  | [], acc, _, _, _ => ⟨[], by simp [deserializeFields], rfl⟩
  | (key, entry) :: entries, acc, nodup, distinct, each => by
    simp only [jsonEntriesKeysDistinct, Bool.and_eq_true] at distinct
    obtain ⟨value, read, written⟩ := each _ (List.mem_cons_self _ _) distinct.1
    obtain ⟨fresh, nodup⟩ := fresh_of_nodup value nodup
    obtain ⟨fields, readRest, writtenRest⟩ := serializeFields_deserializeFields entries _ nodup
      distinct.2 fun entry mem => each entry (List.mem_cons_of_mem _ mem)
    refine ⟨(key, value) :: fields, ?_, ?_⟩
    · rw [deserializeFields_cons read, insertField_of_not_mem _ fresh, readRest]
      simp
    · simp only [serializeFields, written, writtenRest, throughF64Entries]

/-- A document with distinct keys is read and written back with its numbers through `f64`. -/
theorem serialize_deserialize (document : Json) (distinct : document.keysDistinct = true) :
    ∃ value, ExternalDataValue.deserialize document = .ok value ∧
      value.serialize = document.throughF64 := by
  cases document with
  | array items =>
    obtain ⟨values, read, written⟩ := serializeItems_deserializeItems items distinct
      fun item _ => serialize_deserialize item
    exact ⟨.array values, by simp only [ExternalDataValue.deserialize, read],
      by simp only [ExternalDataValue.serialize, written, Json.throughF64]⟩
  | object entries =>
    simp only [Json.keysDistinct, Bool.and_eq_true, decide_eq_true_eq] at distinct
    obtain ⟨fields, read, written⟩ := serializeFields_deserializeFields entries []
      (by simpa using distinct.1) distinct.2 fun ⟨_, entry⟩ _ => serialize_deserialize entry
    exact ⟨.object fields, by simp only [ExternalDataValue.deserialize, read, List.nil_append],
      by simp only [ExternalDataValue.serialize, written, Json.throughF64]⟩
  | _ => exact ⟨_, rfl, rfl⟩
termination_by sizeOf document
decreasing_by
  all_goals subst_vars; simp_wf
  · exact Nat.lt_trans (List.sizeOf_lt_of_mem ‹_›) (by omega)
  · exact Nat.lt_trans (sizeOf_lt_of_mem_snd ‹_›) (by omega)

theorem serialize_deserialize_object :
    let document : Json := .object [("asn", .int 65000), ("name", .string "r1"),
      ("tags", .array [.bool true, .null])]
    document.keysDistinct = true ∧ ∃ value, ExternalDataValue.deserialize document = .ok value ∧
      value.serialize = document.throughF64 :=
  ⟨by decide, serialize_deserialize _ (by decide)⟩

end Rotonda.ExternalData
